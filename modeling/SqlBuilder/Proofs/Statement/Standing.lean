import SqlBuilder.Proofs.Text.Standing
import SqlBuilder.Statement.Sql

/-!
Where the conditions and the sort keys of a statement stand in its text.  In a SELECT, and
in an INSERT of one, each of the three lists has one place; the words around it do not
depend on the list.  UPDATE and DELETE have a place for the conditions of WHERE only, and
an INSERT of rows for none of the lists.
-/

namespace SqlBuilder.Statement

open Text (StandsAt)

/-- The statement with these conditions and sort keys instead of its own. -/
def refined (s : Statement) (conditions having : List Text) (orderBy : List SortKey) :
    Statement :=
  { s with conditions := conditions, having := having, orderBy := orderBy }

/-- Whether the statement shows what it would select. -/
def Selects (s : Statement) : Prop := s.kind = .select ∨ s.kind = .insert ∧ s.columns.isSome

section

variable {α : Type} {part : α → Text} {count : Nat} (s : Statement)
  {conditions having : α → List Text} {orderBy : α → List SortKey}

/-- An alias and EXPLAIN stand around the body of a SELECT, so they show nothing of its
clauses again. -/
theorem standsAt_selectText
    (hbody : StandsAt count part fun a =>
      (s.refined (conditions a) (having a) (orderBy a)).selectBody) :
    StandsAt count part fun a =>
      (s.refined (conditions a) (having a) (orderBy a)).selectText := by
  have hnamed : ∀ name : Text, StandsAt count part fun a =>
      Text.parenthesized (s.refined (conditions a) (having a) (orderBy a)).selectBody ++ " AS " ++
        name := fun name => (hbody.parenthesized.append_right " AS ").append_right name
  have hname : ∀ a, (s.refined (conditions a) (having a) (orderBy a)).aliasName = s.aliasName :=
    fun _ => rfl
  have hexplain : ∀ a, (s.refined (conditions a) (having a) (orderBy a)).explain = s.explain :=
    fun _ => rfl
  simp only [selectText, hname, hexplain]
  cases s.aliasName with
  | none =>
      cases s.explain with
      | false => exact hbody
      | true => exact hbody.append_left "EXPLAIN "
  | some name =>
      cases s.explain with
      | false => exact hnamed name
      | true => exact (hnamed name).append_left "EXPLAIN "

/-- What stands in the SELECT stands in a statement that shows it. -/
theorem standsAt_sql {s : Statement} (hselects : s.Selects)
    (hbody : StandsAt count part fun a =>
      (s.refined (conditions a) (having a) (orderBy a)).selectBody) :
    StandsAt count part fun a => (s.refined (conditions a) (having a) (orderBy a)).sql := by
  rcases hselects with hkind | ⟨hkind, hcolumns⟩
  · have hsql : ∀ a, (s.refined (conditions a) (having a) (orderBy a)).sql =
        (s.refined (conditions a) (having a) (orderBy a)).selectText := by
      intro a
      rw [sql, refined, hkind]
    simp only [hsql]
    exact s.standsAt_selectText hbody
  · have hinserted : ∀ a, (s.refined (conditions a) (having a) (orderBy a)).insertedText =
        " " ++ (s.refined (conditions a) (having a) (orderBy a)).selectBody :=
      fun _ => if_pos hcolumns
    have hsql : ∀ a, (s.refined (conditions a) (having a) (orderBy a)).sql =
        "INSERT INTO " ++ s.target ++ enclosedClause "" s.insertColumns ++
          (s.refined (conditions a) (having a) (orderBy a)).insertedText ++
          listClause "RETURNING" s.returning := by
      intro a
      rw [sql, refined, hkind]
      rfl
    simp only [hsql, hinserted]
    exact ((hbody.append_left " ").append_left _).append_right _

end

variable (s : Statement)

/-- The three lists in a SELECT. -/
theorem selectBody_refined (conditions having : List Text) (orderBy : List SortKey) :
    (s.refined conditions having orderBy).selectBody =
      "SELECT" ++ enclosedClause "DISTINCT ON " s.distinctOn ++ " " ++ s.columnsText ++
        optionalClause "FROM" s.source ++ s.joins.flatMap (joinClause "JOIN") ++
        s.leftJoins.flatMap (joinClause "LEFT JOIN") ++ conjunction "WHERE" conditions ++
        listClause "GROUP BY" s.groupBy ++ conjunction "HAVING" having ++
        listClause "ORDER BY" (orderBy.map SortKey.text) ++
        optionalClause "LIMIT" (s.limit.map fun n => Text.ofInt n.toInt) ++
        optionalClause "OFFSET" (s.offset.map fun n => Text.ofInt n.toInt) := rfl

theorem standsAt_conditions (having : List Text) (orderBy : List SortKey) :
    StandsAt 1 (conjunction "WHERE") fun conditions =>
      (s.refined conditions having orderBy).selectBody := by
  simp only [selectBody_refined]
  exact (((((((StandsAt.self _).append_left _).append_right _).append_right _).append_right
    _).append_right _).append_right _)

theorem standsAt_having (conditions : List Text) (orderBy : List SortKey) :
    StandsAt 1 (conjunction "HAVING") fun having =>
      (s.refined conditions having orderBy).selectBody := by
  simp only [selectBody_refined]
  exact (((((StandsAt.self _).append_left _).append_right _).append_right _).append_right _)

theorem standsAt_orderBy (conditions having : List Text) :
    StandsAt 1 (fun orderBy : List SortKey => listClause "ORDER BY" (orderBy.map SortKey.text))
      fun orderBy => (s.refined conditions having orderBy).selectBody := by
  simp only [selectBody_refined]
  exact (((StandsAt.self _).append_left _).append_right _).append_right _

end SqlBuilder.Statement
