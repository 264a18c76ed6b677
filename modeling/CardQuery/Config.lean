import CardQuery.Query.Compile

/-!
# Configuration

The settings of the program, what makes them valid, and the dialect of queries that they ask for.

Main results:

- `check_eq_ok_iff` says which configurations are valid.
- `lengthLimit_pos` says that the limit of a valid configuration is positive.
-/

namespace CardQuery

/-- The settings of the program. -/
structure Config where
  /-- Whether unknown states and properties are refused. -/
  strict : Bool := false
  /-- The greatest length of a query; zero for no limit. -/
  maxQueryLength : Int := 1000
  /-- The form in which queries are shown. -/
  defaultFormat : Text := "table".toList
  /-- Whether messages are in colour. -/
  coloredOutput : Bool := true
  /-- The file that the settings were read from, if they were. -/
  path : Option Text := none
deriving DecidableEq, Repr

/-- The settings that a configuration file can set, in the order in which they are looked at. -/
inductive Setting
  | strict
  | maxQueryLength
  | coloredOutput
  | defaultFormat
deriving DecidableEq, Repr

namespace Setting

/-- The section that a setting stands in. -/
def section_ : Setting → Text
  | strict | maxQueryLength => "search".toList
  | coloredOutput | defaultFormat => "display".toList

/-- The name of a setting in its section. -/
def name : Setting → Text
  | strict => "strict".toList
  | maxQueryLength => "max_query_length".toList
  | coloredOutput => "colored_output".toList
  | defaultFormat => "default_format".toList

/-- The full name of a setting. -/
def key (s : Setting) : Text := s.section_ ++ '.' :: s.name

/-- The kind of value that a setting takes, in words. -/
def kind : Setting → Text
  | strict | coloredOutput => "a boolean".toList
  | maxQueryLength => "an integer".toList
  | defaultFormat => "a string".toList

end Setting

/-- Why a value of a setting is refused. -/
inductive ConfigFault
  /-- The value is of another kind than the setting takes. -/
  | wrongKind (setting : Setting)
  /-- The greatest length of a query is negative. -/
  | negativeLength
  /-- There is no such form for showing queries. -/
  | unknownFormat
deriving DecidableEq, Repr

/-- What is worth a warning about a configuration. -/
inductive ConfigWarning
  /-- There is no file with the name. -/
  | noFile (path : Text)
  /-- The length of queries has no limit. -/
  | uncapped
deriving DecidableEq, Repr

/-- The forms in which queries can be shown. -/
def outputFormats : List Text := ["table".toList, "json".toList]

namespace ConfigFault

/-- The setting whose value is refused. -/
def setting : ConfigFault → Setting
  | wrongKind setting => setting
  | negativeLength => .maxQueryLength
  | unknownFormat => .defaultFormat

/-- The wording of the reason. -/
def reason : ConfigFault → Text
  | wrongKind setting => "must be ".toList ++ setting.kind
  | negativeLength => "must not be negative".toList
  | unknownFormat => "must be one of: ".toList ++ List.intercalate ", ".toList outputFormats

/-- The wording of a refused value. -/
def message (fault : ConfigFault) : Text :=
  "Invalid config value for '".toList ++ fault.setting.key ++ "': ".toList ++ fault.reason

end ConfigFault

namespace ConfigWarning

/-- The wording of a warning. -/
def message : ConfigWarning → Text
  | noFile path =>
    "No config file found at ".toList ++ path ++
      ". Using defaults. Create config with: cardsearch init-config".toList
  | uncapped => "search.max_query_length is 0; query length is not capped".toList

end ConfigWarning

namespace Config

/-- The greatest length of a query, if there is a limit. -/
def lengthLimit (c : Config) : Option Int :=
  if c.maxQueryLength = 0 then none else some c.maxQueryLength

/-- The warnings about a valid configuration, or why the configuration is refused. -/
def check (c : Config) : Except ConfigFault (List ConfigWarning) :=
  if c.maxQueryLength < 0 then .error .negativeLength
  else if c.defaultFormat ∉ outputFormats then .error .unknownFormat
  else if c.maxQueryLength = 0 then .ok [.uncapped]
  else .ok []

/-- A configuration is valid exactly when the length is not negative and the form is known. -/
theorem check_eq_ok_iff {c : Config} :
    (∃ warnings, c.check = .ok warnings) ↔
      0 ≤ c.maxQueryLength ∧ c.defaultFormat ∈ outputFormats := by
  unfold check
  by_cases hlength : c.maxQueryLength < 0
  · simp only [hlength, ↓reduceIte, reduceCtorEq, exists_false, false_iff, not_and]
    intro hnonneg
    omega
  · by_cases hformat : c.defaultFormat ∈ outputFormats
    · have hnonneg : 0 ≤ c.maxQueryLength := by omega
      by_cases hzero : c.maxQueryLength = 0 <;> simp [hlength, hformat, hzero, hnonneg]
    · simp [hlength, hformat]

/-- The limit of a valid configuration is positive. -/
theorem lengthLimit_pos {c : Config} {warnings : List ConfigWarning} {limit : Int}
    (hcheck : c.check = .ok warnings) (hlimit : c.lengthLimit = some limit) : 0 < limit := by
  have hnonneg := (check_eq_ok_iff.1 ⟨warnings, hcheck⟩).1
  unfold lengthLimit at hlimit
  split at hlimit
  next => cases hlimit
  next hne =>
    cases hlimit
    omega

/-- The dialect of queries that a configuration asks for, unless the strictness is overridden. -/
def dialect (c : Config) (override : Option Bool) : Dialect :=
  { strict := override.getD c.strict
    maxLength := c.lengthLimit }

end Config

end CardQuery
