import Mathlib.Data.List.Induction
import SqlBuilder.Proofs.Draft.History

/-!
Rows and columns of an INSERT.  Rows come with their columns, and whatever adds cells
to every row adds as many columns.  Only a list of columns that is set apart from any
rows can disagree with them: the rows of a finished statement have a cell for every
column exactly if the last such list had a column for every cell.
-/

namespace SqlBuilder

/-- Every row has as many cells as there are columns to insert into. -/
def Statement.Rectangular (s : Statement) : Prop :=
  ∀ rows, s.rows = some rows → ∀ row ∈ rows, row.length = s.insertColumns.length

namespace Draft

namespace Step

/-- The calls after which the columns to insert into are others than before. -/
def listsColumns : Step → Bool
  | insertColumns _ | values _ => true
  | _ => false

variable {s : Statement}

/-- As many further cells in every row as there are further columns do not change whether
the rows fit. -/
theorem rectangular_widen_iff {rows : List (List Text)} (hrows : s.rows = some rows)
    {columns cells : List Text} (hlength : columns.length = cells.length) :
    Statement.Rectangular
      { s with
        insertColumns := s.insertColumns ++ columns
        rows := some (rows.map fun row => row ++ cells) } ↔ s.Rectangular := by
  simp [Statement.Rectangular, hrows, hlength]

/-- Rows that are accepted bring their columns along, one for each cell. -/
theorem rectangular_revised_values {rows : RowSet} (hclean : (values rows).fault? s = none) :
    ((values rows).revised s).Rectangular := by
  cases htable : rows.toTable with
  | error fault =>
      rw [(fault?_values rows).2 htable] at hclean
      cases hclean
  | ok table =>
      rw [revised_values, htable]
      rintro _ ⟨⟩ row hrow
      obtain ⟨cells, hcells, rfl⟩ := List.mem_map.1 hrow
      have hlength := RowSet.length_of_mem_rows htable hcells
      simpa [Table.rendered] using hlength

theorem rectangular_revised_insertColumns_iff (columns : List Text) :
    ((insertColumns columns).revised s).Rectangular ↔
      ∀ rows, s.rows = some rows → ∀ row ∈ rows, row.length = columns.length := by
  change Statement.Rectangular { s with insertColumns := columns.map Identifier.quote } ↔ _
  simp only [Statement.Rectangular, List.length_map]

/-- A call that lists no columns neither makes the rows fit their columns nor keeps them
from it. -/
theorem rectangular_revised_iff {step : Step} (hstep : step.listsColumns = false) :
    (step.revised s).Rectangular ↔ s.Rectangular := by
  cases step with
  | insertColumns columns => cases hstep
  | values rows => cases hstep
  | paginate page size => rw [revised_paginate]; split <;> rfl
  | commonValues cells =>
      rw [revised_commonValues]
      split
      · next rows hrows =>
          exact rectangular_widen_iff hrows (by simp [Bindings.names, Bindings.values])
      · rfl
  | stampFrom clock =>
      rw [revised_stampFrom]
      split
      · next rows _ hrows => exact rectangular_widen_iff hrows rfl
      · rfl
      · rfl
  | _ => rfl

end Step

variable {draft : Draft} {steps : List Step}

/-- The last list of columns that a chain sets apart from any rows has a column for
every cell of the rows at that point. -/
def LastListFits (draft : Draft) (steps : List Step) : Prop :=
  ∀ before columns after, steps = before ++ .insertColumns columns :: after →
    (∀ step ∈ after, step.listsColumns = false) →
    ∀ rows, (draft.run before).statement.rows = some rows →
      ∀ row ∈ rows, row.length = columns.length

theorem lastListFits_concat_iff {step : Step} (hstep : step.listsColumns = false) :
    LastListFits draft (steps ++ [step]) ↔ LastListFits draft steps := by
  constructor
  · intro hfits before columns after hsplit hafter
    apply hfits before columns (after ++ [step]) (by simp [hsplit])
    simpa [hstep, or_imp, forall_and] using hafter
  · intro hfits before columns after hsplit hafter
    rcases concat_eq_append_cons_iff.1 hsplit with ⟨-, rfl, -⟩ | ⟨rest, hsteps, rfl⟩
    · cases hstep
    · exact hfits before columns rest hsteps fun later hlater =>
        hafter later (List.mem_append_left [step] hlater)

theorem lastListFits_concat_values (rows : RowSet) :
    LastListFits draft (steps ++ [.values rows]) := by
  intro before columns after hsplit hafter
  rcases concat_eq_append_cons_iff.1 hsplit with ⟨-, hvalues, -⟩ | ⟨rest, -, rfl⟩
  · cases hvalues
  · cases hafter (.values rows) (by simp)

/-- After a list of columns at the end, this is the list that the rows have to fit. -/
theorem lastListFits_concat_insertColumns_iff (columns : List Text) :
    LastListFits draft (steps ++ [.insertColumns columns]) ↔
      ∀ rows, (draft.run steps).statement.rows = some rows →
        ∀ row ∈ rows, row.length = columns.length := by
  constructor
  · intro hfits
    exact hfits steps columns [] rfl (by simp)
  · intro hfits before others after hsplit hafter
    rcases concat_eq_append_cons_iff.1 hsplit with ⟨rfl, hsame, -⟩ | ⟨rest, -, rfl⟩
    · cases hsame
      exact hfits
    · cases hafter (.insertColumns columns) (by simp)

/-- The last call decides, unless it concerns neither the rows nor their columns or
adds to both alike. -/
theorem rectangular_run_iff (hrows : draft.statement.rows = none)
    (hclean : faults draft.statement steps = []) :
    (draft.run steps).statement.Rectangular ↔ LastListFits draft steps := by
  induction steps using List.reverseRecOn with
  | nil => simp [Statement.Rectangular, LastListFits, hrows]
  | append_singleton earlier step ih =>
      rw [faults_concat, List.append_eq_nil_iff, Option.toList_eq_nil_iff] at hclean
      rw [run_concat, step.apply_eq]
      cases hlists : step.listsColumns with
      | false =>
          rw [Step.rectangular_revised_iff hlists, ih hclean.1, lastListFits_concat_iff hlists]
      | true =>
          cases step with
          | values rows =>
              exact iff_of_true (Step.rectangular_revised_values hclean.2)
                (lastListFits_concat_values rows)
          | insertColumns columns =>
              rw [Step.rectangular_revised_insertColumns_iff,
                lastListFits_concat_insertColumns_iff]
          | _ => cases hlists

/-- What no call undoes and wrapping brings about holds after a chain if it holds before. -/
theorem holds_follow (holds : Draft → Prop)
    (hstep : ∀ (draft : Draft) (step : Step), holds draft → holds (step.apply draft))
    (hwrapped : ∀ columns inner, holds ((select columns).readFrom (.query inner)))
    {calls : List Call} {final : Draft} (hcalls : draft.follow calls = .ok final)
    (hdraft : holds draft) : holds final := by
  induction calls generalizing draft with
  | nil =>
      cases hcalls
      exact hdraft
  | cons call rest ih =>
      obtain ⟨next, hnext, hrest⟩ := exists_of_follow_cons hcalls
      apply ih hrest
      cases call with
      | toJson name =>
          obtain ⟨columns, inner, rfl⟩ := exists_of_toJson_eq_ok hnext
          exact hwrapped columns inner
      | step step =>
          cases hnext
          exact hstep draft step hdraft

/-- A draft of which this does not hold has not been wrapped. -/
theorem exists_steps_of_not_holds (holds : Draft → Prop)
    (hstep : ∀ (draft : Draft) (step : Step), holds draft → holds (step.apply draft))
    (hwrapped : ∀ columns inner, holds ((select columns).readFrom (.query inner)))
    {calls : List Call} {final : Draft} (hcalls : draft.follow calls = .ok final)
    (hfinal : ¬ holds final) :
    ∃ steps : List Step, calls = steps.map .step ∧ final = draft.run steps := by
  induction calls generalizing draft with
  | nil =>
      cases hcalls
      exact ⟨[], rfl, rfl⟩
  | cons call rest ih =>
      obtain ⟨next, hnext, hrest⟩ := exists_of_follow_cons hcalls
      cases call with
      | step step =>
          cases hnext
          obtain ⟨steps, rfl, rfl⟩ := ih hrest
          exact ⟨step :: steps, rfl, rfl⟩
      | toJson name =>
          obtain ⟨columns, inner, rfl⟩ := exists_of_toJson_eq_ok hnext
          exact absurd (holds_follow holds hstep hwrapped hrest (hwrapped columns inner)) hfinal

/-- A draft that selects nothing has not been wrapped. -/
theorem exists_steps_of_follow {calls : List Call} {final : Draft}
    (hcalls : draft.follow calls = .ok final) (hcolumns : final.statement.columns = none) :
    ∃ steps : List Step, calls = steps.map .step ∧ final = draft.run steps := by
  refine exists_steps_of_not_holds (fun draft => draft.statement.columns.isSome)
    (fun draft step hsome => ?_) (fun _ _ => rfl) hcalls (by simp [hcolumns])
  rw [step.apply_eq]
  exact (step.isSome_revised draft.statement).2.1.2 (.inl hsome)

/-- A draft of something other than a SELECT has not been wrapped. -/
theorem exists_steps_of_kind_ne_select {calls : List Call} {final : Draft}
    (hcalls : draft.follow calls = .ok final) (hkind : final.statement.kind ≠ .select) :
    ∃ steps : List Step, calls = steps.map .step ∧ final = draft.run steps := by
  refine exists_steps_of_not_holds (fun draft => draft.statement.kind = .select)
    (fun draft step hselect => ?_) (fun _ _ => rfl) hcalls hkind
  rw [step.apply_eq, step.kind_revised, hselect]

/-- The rows of a finished INSERT have a cell for every column exactly if nothing but
calls on the draft itself made it, and the last list of columns that was set apart
from any rows fits the rows that there were. -/
theorem rows_fit_columns_iff_last_list_fits {table : Text} {calls : List Call} {s : Statement}
    {rows : List (List Text)}
    (hfinished : ((insertInto table).follow calls).bind finished = .ok s)
    (hcolumns : s.columns = none) (hrows : s.rows = some rows) :
    (∀ row ∈ rows, row.length = s.insertColumns.length) ↔
      ∃ steps : List Step, calls = steps.map .step ∧ LastListFits (insertInto table) steps := by
  cases hcalls : (insertInto table).follow calls with
  | error reason => rw [hcalls] at hfinished; cases hfinished
  | ok final =>
      rw [hcalls] at hfinished
      obtain ⟨hclean, rfl⟩ := fault_and_statement_of_finished hfinished
      obtain ⟨steps, rfl, rfl⟩ := exists_steps_of_follow hcalls hcolumns
      have hnone : (insertInto table).statement.rows = none := rfl
      have hiff := rectangular_run_iff hnone (faults_eq_nil_of_fault_run hclean)
      rw [Statement.Rectangular] at hiff
      simp only [hrows, Option.some.injEq, forall_eq'] at hiff
      rw [hiff]
      constructor
      · intro hfits
        exact ⟨steps, rfl, hfits⟩
      · rintro ⟨others, hsame, hfits⟩
        rwa [List.map_injective_iff.2 (fun _ _ => Call.step.inj) hsame]

/-- Rows, one more cell for each of them, other names for their columns, and a stamp. -/
def renamedColumns : List Step :=
  [.values (.table ["a".toList] [[.int 1], [.null]]),
    .commonValues (.ofList [("b", .bool true)])] ++
    [.insertColumns ["x".toList, "y".toList]] ++ [.stampFrom (.fixed .epoch)]

theorem renamed_columns_fit :
    ∃ s rows,
      ((insertInto "t").follow (renamedColumns.map .step)).bind finished = .ok s ∧
      s.columns = none ∧ s.rows = some rows ∧ rows.length = 2 ∧
      ∀ row ∈ rows, row.length = s.insertColumns.length := by
  have hfits : LastListFits (insertInto "t") renamedColumns := by
    apply (lastListFits_concat_iff rfl).2
    apply (lastListFits_concat_insertColumns_iff _).2
    rintro rows ⟨⟩
    decide
  exact ⟨_, _, rfl, rfl, rfl, rfl,
    (rows_fit_columns_iff_last_list_fits rfl rfl rfl).2 ⟨renamedColumns, rfl, hfits⟩⟩

theorem exists_list_of_columns_that_rows_do_not_fit :
    ¬ ∀ (table : Text) (calls : List Call) (s : Statement) (rows : List (List Text)),
      ((insertInto table).follow calls).bind finished = .ok s → s.columns = none →
        s.rows = some rows → ∀ row ∈ rows, row.length = s.insertColumns.length := by
  intro hall
  have hfits := hall "t" [.step (.values (.single (.ofList [("a", .int 1)]))),
    .step (.insertColumns ["a".toList, "b".toList])] _ _ rfl rfl rfl
  exact absurd (hfits _ List.mem_cons_self) (by decide)

end Draft

end SqlBuilder
