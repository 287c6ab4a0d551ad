import SqlBuilder.Statement.Sql

/-!
Fragments: SQL put together from texts, statements and lists of fragments.
-/

namespace SqlBuilder

inductive Fragment where
  | text (sql : Text)
  | query (statement : Statement)
  | list (items : List Fragment)
deriving Repr

namespace Fragment

mutual

/-- The SQL text of a fragment.  The items of a list are separated by commas. -/
def sql : Fragment → Text
  | text sql => sql
  | query statement => statement.sql
  | list items => Text.joined "," (sqls items)

def sqls : List Fragment → List Text
  | [] => []
  | item :: items => sql item :: sqls items

end

example : sql (list [text "a", list [text "b", text "c"], list []]) = "a,b,c," := by decide

end Fragment

end SqlBuilder
