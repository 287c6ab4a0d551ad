import SqlBuilder.Quoting.Identifier
import SqlBuilder.Statement.Sql

/-!
Sources: names or nested statements, where a statement reads from.
-/

namespace SqlBuilder

/-- A name or an expression, or a statement to nest. -/
inductive Source where
  | text (text : Text)
  | query (statement : Statement)
deriving Repr

namespace Source

/-- After FROM: a name is quoted. -/
def asTable : Source → Text
  | text name => Identifier.quote name
  | query statement => statement.nested

/-- As a column of a SELECT or as the source of a join: a text is taken as it is. -/
def asExpression : Source → Text
  | text expression => expression
  | query statement => statement.nested

/-- Alone: a name is quoted and a statement stands without parentheses. -/
def sql : Source → Text
  | text name => Identifier.quote name
  | query statement => statement.sql

end Source

end SqlBuilder
