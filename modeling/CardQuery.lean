import CardQuery.Json.Reader
import CardQuery.Json.Writer
import CardQuery.Query.Compile
import CardQuery.Query.Document
import CardQuery.Query.Rows
import CardQuery.Text.Width
import CardQuery.Toml
import CardQuery.Toml.Strings
import CardQuery.Toml.Reader
import CardQuery.Toml.Writer
import CardQuery.Config
import CardQuery.Config.Document
import CardQuery.FileTree
import CardQuery.Config.File
import CardQuery.Table
import CardQuery.Arguments
import CardQuery.Console
import CardQuery.Invocation
import CardQuery.Program
import CardQuery.Main
import CardQuery.Text.Case
import CardQuery.Text.Cluster
import CardQuery.Text.Word
import CardQuery.Markup.Color
import CardQuery.Markup.Style
import CardQuery.Markup.Lexeme
import CardQuery.Markup.Literal
import CardQuery.Proofs.Text.Strip
import CardQuery.Proofs.Clause.Derivation
import CardQuery.Proofs.Clause.Grammar
import CardQuery.Proofs.Clause.Writing
import CardQuery.Proofs.Query.Merge
import CardQuery.Proofs.Query.Compilation
import CardQuery.Proofs.Query.Composition
import CardQuery.Proofs.Query.Bucket
import CardQuery.Proofs.Query.Accumulation
import CardQuery.Proofs.Region.Quoting
import CardQuery.Proofs.Region.Whole
import CardQuery.Proofs.Query.Quoted
import CardQuery.Proofs.Property.Reading
import CardQuery.Proofs.Query.Constraints
import CardQuery.Proofs.Query.Strictness
import CardQuery.Proofs.Clause.FieldName
import CardQuery.Proofs.Clause.Modifiers
import CardQuery.Proofs.Query.WellFormed
import CardQuery.Proofs.Query.Writing
import CardQuery.Proofs.Clause.Lead
import CardQuery.Proofs.Clause.Fault
import CardQuery.Proofs.Query.Refusal
import CardQuery.Proofs.Query.Order
import CardQuery.Proofs.Query.Negation
import CardQuery.Proofs.Query.EmptyValues
import CardQuery.Proofs.Text.Numeral
import CardQuery.Proofs.Toml.Scalars
import CardQuery.Proofs.Toml.Document
import CardQuery.Proofs.Path
import CardQuery.Proofs.FileTree
import CardQuery.Proofs.Config.Settings
import CardQuery.Proofs.Config.Loading
import CardQuery.Proofs.Config.Saving
import CardQuery.Proofs.Text.Hexadecimal
import CardQuery.Proofs.Markup.Tags
import CardQuery.Proofs.Markup.Pieces
import CardQuery.Proofs.Markup.Escaping
import CardQuery.Proofs.Query.FieldRows
import CardQuery.Proofs.Json.Scalars
import CardQuery.Proofs.Json.Document
import CardQuery.Proofs.Query.Document
import CardQuery.Proofs.Invocation
import CardQuery.Proofs.Notice
import CardQuery.Proofs.Session
import CardQuery.Proofs.Program.Steps
import CardQuery.Proofs.Program.Json
import CardQuery.Proofs.Markup.Lines
import CardQuery.Proofs.Config.Writers
import CardQuery.Proofs.Console
import CardQuery.Proofs.Markup.Displayed
import CardQuery.Proofs.Program.ConfigLines
import CardQuery.Proofs.Query.NameRows
import CardQuery.Proofs.Query.RowTags
import CardQuery.Proofs.Query.Size
import CardQuery.Proofs.Text.Literal
import CardQuery.Proofs.Markup.Injective
import CardQuery.Proofs.Query.TextRows
import CardQuery.Proofs.Program.Rows
import CardQuery.Proofs.Clause.FieldScope
import CardQuery.Proofs.Clause.Search
import CardQuery.Proofs.Clause.Values
import CardQuery.Proofs.Clause.Flag
import CardQuery.Proofs.Config.Tables
import CardQuery.Proofs.Property.Expression
import CardQuery.Proofs.Property.Splitting
import CardQuery.Proofs.Config.Obstacles
import CardQuery.Proofs.Program.ForceHint
