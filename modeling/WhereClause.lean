import WhereClause.Main
import WhereClause.Files.Tree
import WhereClause.Json.Writer
import WhereClause.Text.Quoted
import WhereClause.Organize
import WhereClause.Proofs.Binary64
import WhereClause.Proofs.Text.Blank
import WhereClause.Proofs.Calendar.Order
import WhereClause.Proofs.Calendar.Hours
import WhereClause.Proofs.Collation.Order
import WhereClause.Proofs.Extent.Specification
import WhereClause.Proofs.Extent.Refusal
import WhereClause.Proofs.Json.Literal
import WhereClause.Proofs.Json.Token
import WhereClause.Proofs.Json.Value
import WhereClause.Proofs.Json.Skipping
import WhereClause.Proofs.Json.Reading
import WhereClause.Proofs.Json.Meaning
import WhereClause.Proofs.Json.Record
import WhereClause.Proofs.Json.Existence
import WhereClause.Proofs.Json.Finding
import WhereClause.Proofs.Json.Edit
import WhereClause.Proofs.Json.Strict
import WhereClause.Proofs.Filter.Range
import WhereClause.Proofs.Filter.Refusal
import WhereClause.Proofs.Filter.Rendering
import WhereClause.Proofs.Filter.Reordering
import WhereClause.Proofs.Filter.Document
import WhereClause.Proofs.Filter.Representation
import WhereClause.Proofs.Clause
import WhereClause.Proofs.Clause.Order
import WhereClause.Proofs.Compile.Meaning
import WhereClause.Proofs.Compile.Noninterference
import WhereClause.Proofs.Compile.Reordering
import WhereClause.Proofs.Compile.Operands
import WhereClause.Proofs.Compile.Global
import WhereClause.Proofs.Compile.Composition
import WhereClause.Proofs.Compile.Alias
import WhereClause.Proofs.Compile.Reasons
import WhereClause.Proofs.Organize
import WhereClause.Proofs.Agreement
import WhereClause.Proofs.Settings.Layer
import WhereClause.Proofs.Settings.Load
import WhereClause.Proofs.Settings.Undeclared
import WhereClause.Proofs.Files.Home
import WhereClause.Proofs.Files.Expansion
import WhereClause.Proofs.Program
