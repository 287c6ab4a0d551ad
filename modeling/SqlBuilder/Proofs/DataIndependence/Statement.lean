import SqlBuilder.Proofs.DataIndependence.Agreement
import SqlBuilder.Proofs.DataIndependence.Skeleton
import SqlBuilder.Statement.Check
import SqlBuilder.Statement.Sql

/-!
Statements of two runs that are parallel clause by clause.  Only the clauses that
can hold data may differ; the SQL texts of such statements are parallel, also when
the statements are nested, and the same clause is missing in both.
-/

namespace SqlBuilder

namespace Runs

variable {ι : Type} {runs : Runs ι}

/-- A clause that is present in both runs, with parallel texts, or in neither. -/
abbrev ParallelOption (runs : Runs ι) (first second : Option Text) : Prop :=
  Option.Rel runs.Parallel first second

structure ParallelJoin (runs : Runs ι) (first second : Joined) : Prop where
  source : runs.Parallel first.source second.source
  condition : runs.Parallel first.condition second.condition

/-- Statements that differ in the contents of their payloads only. -/
structure ParallelStatement (runs : Runs ι) (first second : Statement) : Prop where
  kind : first.kind = second.kind
  table : first.table = second.table
  columns : Option.Rel runs.ParallelList first.columns second.columns
  distinctOn : first.distinctOn = second.distinctOn
  source : runs.ParallelOption first.source second.source
  joins : List.Forall₂ runs.ParallelJoin first.joins second.joins
  leftJoins : List.Forall₂ runs.ParallelJoin first.leftJoins second.leftJoins
  conditions : runs.ParallelList first.conditions second.conditions
  groupBy : first.groupBy = second.groupBy
  having : runs.ParallelList first.having second.having
  orderBy : first.orderBy = second.orderBy
  limit : first.limit = second.limit
  offset : first.offset = second.offset
  aliasName : first.aliasName = second.aliasName
  explain : first.explain = second.explain
  insertColumns : first.insertColumns = second.insertColumns
  rows : Option.Rel (List.Forall₂ runs.ParallelList) first.rows second.rows
  assignments : runs.ParallelOption first.assignments second.assignments
  returning : first.returning = second.returning

theorem parallel_optionalClause (keyword : Text) {first second : Option Text}
    (hclause : runs.ParallelOption first second) :
    runs.Parallel (Statement.optionalClause keyword first)
      (Statement.optionalClause keyword second) := by
  cases hclause with
  | none => exact parallel_refl _
  | some htext => exact (parallel_refl (" " ++ keyword ++ " ")).append htext

theorem parallel_conjunction (keyword : Text) {first second : List Text}
    (hconditions : runs.ParallelList first second) :
    runs.Parallel (Statement.conjunction keyword first)
      (Statement.conjunction keyword second) := by
  have hparts : runs.ParallelList (first.map Text.parenthesized)
      (second.map Text.parenthesized) :=
    List.rel_map (fun _ _ h => h.parenthesized) hconditions
  rw [Statement.conjunction, Statement.conjunction, isEmpty_eq_of_forall₂ hconditions]
  split
  · exact parallel_refl _
  · exact (parallel_refl (" " ++ keyword ++ " ")).append (hparts.joined " AND ")

theorem parallel_joins (keyword : Text) {first second : List Joined}
    (hjoins : List.Forall₂ runs.ParallelJoin first second) :
    runs.Parallel (first.flatMap (Statement.joinClause keyword))
      (second.flatMap (Statement.joinClause keyword)) := by
  apply parallel_flatMap hjoins
  intro join other hjoin
  exact (((parallel_refl (" " ++ keyword ++ " ")).append hjoin.source).append
    (parallel_refl " ON ")).append hjoin.condition

theorem parallel_rowText {first second : List Text} (hcells : runs.ParallelList first second) :
    runs.Parallel (Statement.rowText first) (Statement.rowText second) :=
  (hcells.joined ", ").parenthesized

theorem parallelList_rowTexts {first second : List (List Text)}
    (hrows : List.Forall₂ runs.ParallelList first second) :
    runs.ParallelList (first.map Statement.rowText) (second.map Statement.rowText) :=
  List.rel_map (fun _ _ hcells => parallel_rowText hcells) hrows

namespace ParallelStatement

theorem refl (statement : Statement) : runs.ParallelStatement statement statement where
  kind := rfl
  table := rfl
  columns := rel_refl parallelList_refl statement.columns
  distinctOn := rfl
  source := rel_refl parallel_refl statement.source
  joins := List.forall₂_same.2 fun _ _ => ⟨parallel_refl _, parallel_refl _⟩
  leftJoins := List.forall₂_same.2 fun _ _ => ⟨parallel_refl _, parallel_refl _⟩
  conditions := parallelList_refl statement.conditions
  groupBy := rfl
  having := parallelList_refl statement.having
  orderBy := rfl
  limit := rfl
  offset := rfl
  aliasName := rfl
  explain := rfl
  insertColumns := rfl
  rows := rel_refl (fun _ => List.forall₂_same.2 fun row _ => parallelList_refl row)
    statement.rows
  assignments := rel_refl parallel_refl statement.assignments
  returning := rfl

variable {first second : Statement} (hstatement : runs.ParallelStatement first second)
include hstatement

theorem parallel_columnsText : runs.Parallel first.columnsText second.columnsText := by
  have hcolumns := hstatement.columns
  rw [Statement.columnsText, Statement.columnsText]
  generalize first.columns = columns at hcolumns
  generalize second.columns = others at hcolumns
  cases hcolumns with
  | none => exact parallel_refl _
  | some hlist =>
      simp only [isEmpty_eq_of_forall₂ hlist]
      split
      · exact parallel_refl _
      · exact hlist.joined ", "

theorem parallel_selectBody : runs.Parallel first.selectBody second.selectBody := by
  have hcolumns := hstatement.parallel_columnsText
  have hfrom := parallel_optionalClause "FROM" hstatement.source
  have hjoins := parallel_joins "JOIN" hstatement.joins
  have hleft := parallel_joins "LEFT JOIN" hstatement.leftJoins
  have hwhere := parallel_conjunction "WHERE" hstatement.conditions
  have hhaving := parallel_conjunction "HAVING" hstatement.having
  have hfixed : ∀ text, runs.Parallel text text := parallel_refl
  unfold Statement.selectBody
  rw [hstatement.distinctOn, hstatement.groupBy, hstatement.orderBy, hstatement.limit,
    hstatement.offset]
  exact .append (.append (.append (.append (.append (.append (.append (.append (.append
    ((hfixed _).append hcolumns) hfrom) hjoins) hleft) hwhere) (hfixed _)) hhaving) (hfixed _))
    (hfixed _)) (hfixed _)

theorem parallel_selectText : runs.Parallel first.selectText second.selectText := by
  have hbody := hstatement.parallel_selectBody
  have hnamed : ∀ name, runs.Parallel (Text.parenthesized first.selectBody ++ " AS " ++ name)
      (Text.parenthesized second.selectBody ++ " AS " ++ name) := fun name =>
    (hbody.parenthesized.append (parallel_refl _)).append (parallel_refl name)
  simp only [Statement.selectText, hstatement.aliasName, hstatement.explain]
  split <;> split
  · exact (parallel_refl _).append hbody
  · exact (parallel_refl _).append (hnamed _)
  · exact hbody
  · exact hnamed _

theorem parallel_insertedText : runs.Parallel first.insertedText second.insertedText := by
  have hrows : runs.ParallelOption
      (first.rows.map fun rows => Text.joined ", " (rows.map Statement.rowText))
      (second.rows.map fun rows => Text.joined ", " (rows.map Statement.rowText)) := by
    have hrows := hstatement.rows
    generalize first.rows = rows at hrows
    generalize second.rows = others at hrows
    cases hrows with
    | none => exact .none
    | some hlist =>
        exact .some (ParallelList.joined (parallelList_rowTexts hlist) ", ")
  rw [Statement.insertedText, Statement.insertedText, isSome_eq_of_rel hstatement.columns]
  split
  · exact (parallel_refl " ").append hstatement.parallel_selectBody
  · exact parallel_optionalClause "VALUES" hrows

/-- Parallel statements have parallel SQL texts. -/
theorem parallel_sql : runs.Parallel first.sql second.sql := by
  have hfixed : ∀ text, runs.Parallel text text := parallel_refl
  have htarget : first.target = second.target := by
    rw [Statement.target, Statement.target, hstatement.table]
  have hwhere := parallel_conjunction "WHERE" hstatement.conditions
  unfold Statement.sql
  rw [hstatement.kind]
  split
  · exact hstatement.parallel_selectText
  · unfold Statement.insertText
    rw [htarget, hstatement.insertColumns, hstatement.returning]
    exact ((hfixed _).append hstatement.parallel_insertedText).append (hfixed _)
  · unfold Statement.deleteText
    rw [htarget, hstatement.returning]
    exact ((hfixed _).append hwhere).append (hfixed _)
  · unfold Statement.updateText
    rw [htarget, hstatement.returning]
    have hset := parallel_optionalClause "SET" hstatement.assignments
    have hfrom := parallel_optionalClause "FROM" hstatement.source
    exact ((((hfixed _).append hset).append hfrom).append hwhere).append (hfixed _)

theorem parallel_nested : runs.Parallel first.nested second.nested := by
  rw [Statement.nested, Statement.nested, hstatement.aliasName]
  split
  · exact hstatement.parallel_sql
  · exact hstatement.parallel_sql.parenthesized

theorem missingClause?_eq : first.missingClause? = second.missingClause? := by
  unfold Statement.missingClause?
  rw [hstatement.kind, isSome_eq_of_rel hstatement.columns, isNone_eq_of_rel hstatement.source,
    isNone_eq_of_rel hstatement.rows, isNone_eq_of_rel hstatement.assignments]

theorem check_eq : first.check = second.check := by
  rw [Statement.check, Statement.check, hstatement.missingClause?_eq]

end ParallelStatement

end Runs

end SqlBuilder
