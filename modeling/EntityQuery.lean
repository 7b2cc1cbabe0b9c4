import EntityQuery.Binary64.Basic
import EntityQuery.Binary64.Numeral
import EntityQuery.Binary64.Rounding
import EntityQuery.Binary64.Shortest
import EntityQuery.Calendar.Date
import EntityQuery.Calendar.DateTime
import EntityQuery.Calendar.Reading
import EntityQuery.Composition
import EntityQuery.Config
import EntityQuery.Entity
import EntityQuery.Error
import EntityQuery.Error.Json
import EntityQuery.Expr.Basic
import EntityQuery.Expr.Canonical
import EntityQuery.Expr.Display
import EntityQuery.Expr.Evaluate
import EntityQuery.Expr.Field
import EntityQuery.Expr.Json
import EntityQuery.Filter.Compile
import EntityQuery.Filter.Literal
import EntityQuery.Filter.Model
import EntityQuery.Filter.Operator
import EntityQuery.Include.Node
import EntityQuery.Include.Relation
import EntityQuery.Include.Resolve
import EntityQuery.Json.Basic
import EntityQuery.Json.Number
import EntityQuery.Json.Reader
import EntityQuery.Json.Writer
import EntityQuery.Page
import EntityQuery.Plan.Basic
import EntityQuery.Plan.Compile
import EntityQuery.Plan.Json
import EntityQuery.Proofs.Binary64.Order
import EntityQuery.Proofs.Binary64.Rounding
import EntityQuery.Proofs.Calendar.Forms
import EntityQuery.Proofs.Calendar.Reading
import EntityQuery.Proofs.Composition
import EntityQuery.Proofs.Except
import EntityQuery.Proofs.Expr.Canonical
import EntityQuery.Proofs.Expr.Clauses
import EntityQuery.Proofs.Expr.Combining
import EntityQuery.Proofs.Expr.Folding
import EntityQuery.Proofs.Expr.Json
import EntityQuery.Proofs.Expr.Leaves
import EntityQuery.Proofs.Expr.Normal
import EntityQuery.Proofs.Filter.Clauses
import EntityQuery.Proofs.Filter.Limits
import EntityQuery.Proofs.Filter.Literal
import EntityQuery.Proofs.Filter.Meaning
import EntityQuery.Proofs.Filter.Normal
import EntityQuery.Proofs.Filter.NullChecks
import EntityQuery.Proofs.Filter.Search
import EntityQuery.Proofs.Filter.Sets
import EntityQuery.Proofs.Filter.Strings
import EntityQuery.Proofs.Filter.Unconstrained
import EntityQuery.Proofs.Filter.Whitelist
import EntityQuery.Proofs.Filter.Written
import EntityQuery.Proofs.Include.Declared
import EntityQuery.Proofs.Include.Json
import EntityQuery.Proofs.Include.Places
import EntityQuery.Proofs.Include.Resolve
import EntityQuery.Proofs.Json.Basic
import EntityQuery.Proofs.Plan.Compile
import EntityQuery.Proofs.Plan.Faults
import EntityQuery.Proofs.Plan.Includes
import EntityQuery.Proofs.Plan.Steps
import EntityQuery.Proofs.Repository.Agreement
import EntityQuery.Proofs.Repository.Faults
import EntityQuery.Proofs.Repository.Filtered
import EntityQuery.Proofs.Repository.Matching
import EntityQuery.Proofs.Repository.Narrowing
import EntityQuery.Proofs.Repository.Navigation
import EntityQuery.Proofs.Repository.Outcome
import EntityQuery.Proofs.Repository.Pages
import EntityQuery.Proofs.Repository.Reads
import EntityQuery.Proofs.Repository.Searching
import EntityQuery.Proofs.Repository.Visibility
import EntityQuery.Proofs.Sample.Shop
import EntityQuery.Proofs.Schema.Links
import EntityQuery.Proofs.Schema.Path
import EntityQuery.Proofs.Schema.StringFields
import EntityQuery.Proofs.Specification.Answer
import EntityQuery.Proofs.Specification.Faults
import EntityQuery.Proofs.Specification.Json
import EntityQuery.Proofs.Specification.Sortable
import EntityQuery.Proofs.Specification.WellFormed
import EntityQuery.Proofs.Specification.Window
import EntityQuery.Proofs.StableSort
import EntityQuery.Proofs.Store.Distinct
import EntityQuery.Proofs.Store.Grouping
import EntityQuery.Proofs.Store.Query
import EntityQuery.Proofs.Store.Rows
import EntityQuery.Proofs.Store.Session
import EntityQuery.Proofs.Store.Settling
import EntityQuery.Proofs.Store.Sorting
import EntityQuery.Proofs.Text.Basic
import EntityQuery.Proofs.Text.Lowercase
import EntityQuery.Proofs.Text.Numeral
import EntityQuery.Proofs.Uuid
import EntityQuery.Proofs.ValidationErrors
import EntityQuery.Proofs.ValidationErrors.Messages
import EntityQuery.Proofs.Value.Comparison
import EntityQuery.Proofs.Value.Json
import EntityQuery.Proofs.Value.Order
import EntityQuery.Proofs.Value.Sorting
import EntityQuery.Repository
import EntityQuery.Repository.Read
import EntityQuery.Sample.Family
import EntityQuery.Sample.Json
import EntityQuery.Sample.Projection
import EntityQuery.Sample.Record
import EntityQuery.Sample.Shop
import EntityQuery.Schema.Basic
import EntityQuery.Schema.Json
import EntityQuery.Schema.Path
import EntityQuery.Sort
import EntityQuery.Specification.Basic
import EntityQuery.Specification.Builder
import EntityQuery.Specification.Json
import EntityQuery.StableSort
import EntityQuery.Store.Memory
import EntityQuery.Store.Query
import EntityQuery.Store.Rows
import EntityQuery.Store.Session
import EntityQuery.Text.Basic
import EntityQuery.Text.CaseTable
import EntityQuery.Text.GraphicTable
import EntityQuery.Text.Lowercase
import EntityQuery.Text.Numeral
import EntityQuery.Text.Quoted
import EntityQuery.Uuid
import EntityQuery.ValidationErrors
import EntityQuery.Value.Basic
import EntityQuery.Value.Json
import EntityQuery.Value.Order
