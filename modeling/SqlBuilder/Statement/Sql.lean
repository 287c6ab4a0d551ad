import SqlBuilder.Statement.Basic
import SqlBuilder.Text.Digits

/-!
The SQL text of a statement.  Rendering cannot fail: a clause that is absent
contributes nothing, and the order of the clauses is fixed by the kind.
-/

namespace SqlBuilder

namespace NullsPlacement

def text : NullsPlacement → Text
  | first => "NULLS FIRST"
  | last => "NULLS LAST"

end NullsPlacement

namespace Direction

def text (direction : Direction) : Text :=
  let order : Text := if direction.descending then "DESC".toList else "ASC".toList
  match direction.nulls with
  | none => order
  | some placement => order ++ " " ++ placement.text

end Direction

namespace SortKey

def text (key : SortKey) : Text :=
  match key.direction with
  | none => key.column
  | some direction => key.column ++ " " ++ direction.text

end SortKey

namespace Statement

/-- A keyword and a list after it, or nothing for an empty list. -/
def listClause (keyword : Text) (items : List Text) : Text :=
  if items.isEmpty then "" else " " ++ keyword ++ " " ++ Text.joined ", " items

/-- A keyword and a list in parentheses after it, or nothing for an empty list. -/
def enclosedClause (keyword : Text) (items : List Text) : Text :=
  if items.isEmpty then "" else " " ++ keyword ++ Text.parenthesized (Text.joined ", " items)

/-- A keyword and a text after it, if there is one. -/
def optionalClause (keyword : Text) : Option Text → Text
  | none => ""
  | some text => " " ++ keyword ++ " " ++ text

/-- A keyword and the conjunction of the conditions, each in parentheses of its
own, or nothing when there is none. -/
def conjunction (keyword : Text) (conditions : List Text) : Text :=
  if conditions.isEmpty then ""
  else " " ++ keyword ++ " " ++ Text.joined " AND " (conditions.map Text.parenthesized)

def joinClause (keyword : Text) (entry : Joined) : Text :=
  " " ++ keyword ++ " " ++ entry.source ++ " ON " ++ entry.condition

def rowText (cells : List Text) : Text := Text.parenthesized (Text.joined ", " cells)

/-- The list of a SELECT, `*` when it is absent or empty. -/
def columnsText (s : Statement) : Text :=
  match s.columns with
  | none => "*"
  | some columns => if columns.isEmpty then "*" else Text.joined ", " columns

/-- A SELECT without its alias. -/
def selectBody (s : Statement) : Text :=
  "SELECT" ++ enclosedClause "DISTINCT ON " s.distinctOn ++ " " ++ s.columnsText ++
    optionalClause "FROM" s.source ++
    s.joins.flatMap (joinClause "JOIN") ++
    s.leftJoins.flatMap (joinClause "LEFT JOIN") ++
    conjunction "WHERE" s.conditions ++
    listClause "GROUP BY" s.groupBy ++
    conjunction "HAVING" s.having ++
    listClause "ORDER BY" (s.orderBy.map SortKey.text) ++
    optionalClause "LIMIT" (s.limit.map fun n => Text.ofInt n.toInt) ++
    optionalClause "OFFSET" (s.offset.map fun n => Text.ofInt n.toInt)

/-- The body in its parts. -/
theorem selectBody_eq_foldl (s : Statement) :
    s.selectBody =
      [enclosedClause "DISTINCT ON " s.distinctOn, " ", s.columnsText,
        optionalClause "FROM" s.source, s.joins.flatMap (joinClause "JOIN"),
        s.leftJoins.flatMap (joinClause "LEFT JOIN"), conjunction "WHERE" s.conditions,
        listClause "GROUP BY" s.groupBy, conjunction "HAVING" s.having,
        listClause "ORDER BY" (s.orderBy.map SortKey.text),
        optionalClause "LIMIT" (s.limit.map fun n => Text.ofInt n.toInt),
        optionalClause "OFFSET" (s.offset.map fun n => Text.ofInt n.toInt)].foldl
          (· ++ ·) "SELECT".toList := rfl

/-- A SELECT: with an alias the body stands in parentheses before it, and
EXPLAIN precedes everything. -/
def selectText (s : Statement) : Text :=
  let named :=
    match s.aliasName with
    | none => s.selectBody
    | some name => Text.parenthesized s.selectBody ++ " AS " ++ name
  if s.explain then "EXPLAIN " ++ named else named

def target (s : Statement) : Text := s.table.getD ""

/-- What an INSERT inserts: a SELECT if it has a list to select, otherwise the
rows of VALUES. -/
def insertedText (s : Statement) : Text :=
  if s.columns.isSome then " " ++ s.selectBody
  else optionalClause "VALUES" (s.rows.map fun rows => Text.joined ", " (rows.map rowText))

def insertText (s : Statement) : Text :=
  "INSERT INTO " ++ s.target ++ enclosedClause "" s.insertColumns ++ s.insertedText ++
    listClause "RETURNING" s.returning

def deleteText (s : Statement) : Text :=
  "DELETE FROM " ++ s.target ++ conjunction "WHERE" s.conditions ++
    listClause "RETURNING" s.returning

def updateText (s : Statement) : Text :=
  "UPDATE " ++ s.target ++ optionalClause "SET" s.assignments ++
    optionalClause "FROM" s.source ++ conjunction "WHERE" s.conditions ++
    listClause "RETURNING" s.returning

def sql (s : Statement) : Text :=
  match s.kind with
  | .select => s.selectText
  | .insert => s.insertText
  | .delete => s.deleteText
  | .update => s.updateText

theorem sql_ne_nil (s : Statement) : s.sql ≠ [] := by
  rw [sql]
  split
  · rw [selectText]
    split
    · exact List.cons_ne_nil _ _
    · split <;> exact List.cons_ne_nil _ _
  · exact List.cons_ne_nil _ _
  · exact List.cons_ne_nil _ _
  · exact List.cons_ne_nil _ _

/-- A statement as a source or a column of another: in parentheses, which a
statement with an alias is taken to bring along. -/
def nested (s : Statement) : Text :=
  if s.aliasName.isSome then s.sql else Text.parenthesized s.sql

example : sql { kind := .select, source := some "t", explain := true, aliasName := some "x" } =
    "EXPLAIN (SELECT * FROM t) AS x" := by decide
example : sql { kind := .insert, table := some "t", insertColumns := ["a".toList],
                rows := some [["1".toList], ["2".toList]] } =
    "INSERT INTO t (a) VALUES (1), (2)" := by decide
example : sql { kind := .delete, table := some "t", conditions := ["a".toList, "b".toList] } =
    "DELETE FROM t WHERE (a) AND (b)" := by decide

end Statement

end SqlBuilder
