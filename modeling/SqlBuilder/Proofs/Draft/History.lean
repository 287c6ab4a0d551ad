import Mathlib.Data.List.Basic
import SqlBuilder.Proofs.Clause.RowSet
import SqlBuilder.Proofs.Draft.Effect

/-!
The clauses that a chain of calls has set.  No call takes a clause away, so a clause
is present after a chain exactly if it was present before or a call of the chain sets
it.
-/

namespace SqlBuilder.Draft

/-- A place in a history that has become longer by one is the last place, or it was
there before. -/
theorem concat_eq_append_cons_iff {α : Type} {items before after : List α} {item last : α} :
    items ++ [last] = before ++ item :: after ↔
      (items = before ∧ last = item ∧ after = []) ∨
        ∃ rest, items = before ++ item :: rest ∧ after = rest ++ [last] := by
  rcases List.eq_nil_or_concat' after with rfl | ⟨rest, final, rfl⟩
  · simp
  · have hlonger : before ++ item :: (rest ++ [final]) = before ++ item :: rest ++ [final] := by
      simp
    constructor
    · intro hsplit
      obtain ⟨hitems, hfinal⟩ := List.append_inj' (hsplit.trans hlonger) rfl
      exact .inr ⟨rest, hitems, by rw [hfinal]⟩
    · rintro (⟨-, -, hnil⟩ | ⟨later, rfl, hrest⟩)
      · simp at hnil
      · simp [hrest]

namespace Step

def setsSource : Step → Bool
  | readFrom _ | readFromText _ => true
  | _ => false

def setsColumns : Step → Bool
  | selectColumns _ => true
  | _ => false

def setsAssignments : Step → Bool
  | assign _ => true
  | _ => false

def setsRows : Step → Bool
  | values _ => true
  | _ => false

/-- The calls that supply rows which make up a table. -/
def SuppliesRows : Step → Prop
  | values rows => rows.LinesUp
  | _ => False

theorem fault?_values_eq_none_iff {s : Statement} (rows : RowSet) :
    (values rows).fault? s = none ↔ rows.LinesUp := by
  rw [Option.eq_none_iff_forall_ne_some, ← RowSet.exists_toTable_eq_ok_iff]
  simp only [ne_eq, fault?_values]
  cases rows.toTable <;> simp

/-- A call adds to the clauses that are present the one that it sets. -/
theorem isSome_revised (step : Step) (s : Statement) :
    ((step.revised s).source.isSome ↔ s.source.isSome ∨ step.setsSource) ∧
    ((step.revised s).columns.isSome ↔ s.columns.isSome ∨ step.setsColumns) ∧
    ((step.revised s).assignments.isSome ↔ s.assignments.isSome ∨ step.setsAssignments) ∧
    ((step.revised s).rows.isSome ↔ s.rows.isSome ∨ step.SuppliesRows) := by
  have hother : ∀ p : Prop, (p ∨ false = true) ↔ p := fun p => or_iff_left Bool.false_ne_true
  have hnorows : ∀ p : Prop, (p ∨ False) ↔ p := fun p => or_iff_left not_false
  cases step with
  | readFrom source =>
      exact ⟨iff_of_true rfl (.inr rfl), (hother _).symm, (hother _).symm, (hnorows _).symm⟩
  | readFromText sql =>
      exact ⟨iff_of_true rfl (.inr rfl), (hother _).symm, (hother _).symm, (hnorows _).symm⟩
  | selectColumns columns =>
      exact ⟨(hother _).symm, iff_of_true rfl (.inr rfl), (hother _).symm, (hnorows _).symm⟩
  | assign assignments =>
      exact ⟨(hother _).symm, (hother _).symm, iff_of_true rfl (.inr rfl), (hnorows _).symm⟩
  | paginate page size =>
      rw [revised_paginate]
      split <;> simp [setsSource, setsColumns, setsAssignments, SuppliesRows]
  | values rows =>
      rw [revised_values, SuppliesRows, ← RowSet.exists_toTable_eq_ok_iff]
      split <;> simp [setsSource, setsColumns, setsAssignments, *]
  | commonValues cells =>
      rw [revised_commonValues]
      split <;> simp [setsSource, setsColumns, setsAssignments, SuppliesRows, *]
  | stampFrom clock =>
      rw [revised_stampFrom]
      split <;> simp [setsSource, setsColumns, setsAssignments, SuppliesRows, *]
  | _ => exact ⟨(hother _).symm, (hother _).symm, (hother _).symm, (hnorows _).symm⟩

end Step

/-- What a call makes true and no call undoes is true after a chain that has such a call. -/
theorem run_iff (present : Statement → Prop) (sets : Step → Prop)
    (hstep : ∀ step s, present (step.revised s) ↔ present s ∨ sets step) (draft : Draft)
    (steps : List Step) :
    present (draft.run steps).statement ↔
      present draft.statement ∨ ∃ step ∈ steps, sets step := by
  induction steps generalizing draft with
  | nil => simp
  | cons step rest ih =>
      rw [run_cons, ih, step.apply_eq, hstep, List.exists_mem_cons_iff, or_assoc]

variable (draft : Draft) (steps : List Step)

theorem isSome_source_run :
    (draft.run steps).statement.source.isSome =
      (draft.statement.source.isSome || steps.any Step.setsSource) := by
  rw [Bool.eq_iff_iff, Bool.or_eq_true, List.any_eq_true]
  exact run_iff (fun s => s.source.isSome) (fun step => step.setsSource)
    (fun step s => (step.isSome_revised s).1) draft steps

theorem isSome_columns_run :
    (draft.run steps).statement.columns.isSome =
      (draft.statement.columns.isSome || steps.any Step.setsColumns) := by
  rw [Bool.eq_iff_iff, Bool.or_eq_true, List.any_eq_true]
  exact run_iff (fun s => s.columns.isSome) (fun step => step.setsColumns)
    (fun step s => (step.isSome_revised s).2.1) draft steps

theorem isSome_assignments_run :
    (draft.run steps).statement.assignments.isSome =
      (draft.statement.assignments.isSome || steps.any Step.setsAssignments) := by
  rw [Bool.eq_iff_iff, Bool.or_eq_true, List.any_eq_true]
  exact run_iff (fun s => s.assignments.isSome) (fun step => step.setsAssignments)
    (fun step s => (step.isSome_revised s).2.2.1) draft steps

theorem isSome_rows_run :
    (draft.run steps).statement.rows.isSome ↔
      draft.statement.rows.isSome ∨ ∃ step ∈ steps, step.SuppliesRows :=
  run_iff (fun s => s.rows.isSome) Step.SuppliesRows
    (fun step s => (step.isSome_revised s).2.2.2) draft steps

/-- A chain ends without rows exactly if it begins without any and all that it gives
are refused. -/
theorem rows_run_eq_none_iff :
    (draft.run steps).statement.rows = none ↔
      draft.statement.rows = none ∧ ∀ rows, .values rows ∈ steps → ¬ rows.LinesUp := by
  rw [← Option.not_isSome_iff_eq_none, isSome_rows_run, not_or, Option.not_isSome_iff_eq_none]
  refine and_congr_right fun _ => ?_
  simp only [not_exists, not_and]
  constructor
  · intro hnone rows hmem
    exact hnone (.values rows) hmem
  · intro hnone step hmem
    cases step with
    | values rows => exact hnone rows hmem
    | _ => exact not_false

/-- Rows that no draft refused line up. -/
theorem linesUp_of_mem {s : Statement} {steps : List Step} (hclean : faults s steps = [])
    {rows : RowSet} (hmem : .values rows ∈ steps) : rows.LinesUp := by
  induction steps generalizing s with
  | nil => cases hmem
  | cons step rest ih =>
      rw [faults, List.append_eq_nil_iff] at hclean
      rcases List.mem_cons.1 hmem with rfl | hrest
      · exact (Step.fault?_values_eq_none_iff rows).1 (Option.toList_eq_nil_iff.1 hclean.1)
      · exact ih hclean.2 hrest

/-- Without a refusal, a chain ends with rows exactly if it begins with some or gives some. -/
theorem isSome_rows_run_of_faults_eq_nil {draft : Draft} {steps : List Step}
    (hclean : faults draft.statement steps = []) :
    (draft.run steps).statement.rows.isSome =
      (draft.statement.rows.isSome || steps.any Step.setsRows) := by
  have hsupplies : ∀ step ∈ steps, step.SuppliesRows ↔ step.setsRows = true := by
    intro step hmem
    cases step with
    | values rows => exact iff_of_true (linesUp_of_mem hclean hmem) rfl
    | _ => exact iff_of_false not_false Bool.false_ne_true
  rw [Bool.eq_iff_iff, Bool.or_eq_true, List.any_eq_true, isSome_rows_run]
  refine or_congr_right (exists_congr fun step => and_congr_right ?_)
  exact hsupplies step

end SqlBuilder.Draft
