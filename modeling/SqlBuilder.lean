import SqlBuilder.Connection.Pool
import SqlBuilder.Draft.Display
import SqlBuilder.Draft.Step
import SqlBuilder.Execution
import SqlBuilder.Fragment
import SqlBuilder.JsonReader
import SqlBuilder.Reply
import SqlBuilder.Text.Case
import SqlBuilder.Time.Reader
import SqlBuilder.Value.Uuid
import SqlBuilder.Proofs.Quoting.NulRemoval
import SqlBuilder.Proofs.Quoting.Reading
import SqlBuilder.Proofs.Quoting.FreeTag
import SqlBuilder.Proofs.Quoting.Names
import SqlBuilder.Proofs.Template.Cutting
import SqlBuilder.Proofs.Template.LineComment
import SqlBuilder.Proofs.Reading.Lexeme
import SqlBuilder.Proofs.Reading.Items
import SqlBuilder.Proofs.Reading.Literals
import SqlBuilder.Proofs.DataIndependence.Chains
import SqlBuilder.Proofs.Clause.RowSet
import SqlBuilder.Proofs.Clause.Expressions
import SqlBuilder.Proofs.Draft.Effect
import SqlBuilder.Proofs.Draft.History
import SqlBuilder.Proofs.Draft.Failures
import SqlBuilder.Proofs.Draft.Arity
import SqlBuilder.Proofs.Statement.Nesting
import SqlBuilder.Proofs.Statement.Visible
import SqlBuilder.Proofs.Draft.Inertness
import SqlBuilder.Proofs.Draft.LostStamp
import SqlBuilder.Proofs.Draft.Towers
import SqlBuilder.Proofs.Draft.Entries
import SqlBuilder.Proofs.Draft.Reordering
import SqlBuilder.Proofs.Execution.Logging
import SqlBuilder.Proofs.Execution.Formats
import SqlBuilder.Proofs.Json.Results
import SqlBuilder.Proofs.Execution.Replies
import SqlBuilder.Proofs.Draft.Alignment
import SqlBuilder.Proofs.Draft.RequiredClauses
import SqlBuilder.Proofs.Draft.Extensions
import SqlBuilder.Proofs.Draft.Filters
import SqlBuilder.Proofs.Draft.Pages
import SqlBuilder.Proofs.Statement.Conjuncts
import SqlBuilder.Proofs.Time.Reading
import SqlBuilder.Proofs.Clause.Ordering
import SqlBuilder.Proofs.Draft.Wrapping
import SqlBuilder.Proofs.Draft.BoundAliases
import SqlBuilder.Proofs.Template.Composition
import SqlBuilder.Proofs.Value.History
import SqlBuilder.Proofs.Value.Grouping
import SqlBuilder.Proofs.Highlight.Colours
