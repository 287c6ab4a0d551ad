import Mathlib.Algebra.Group.Int.Defs
import SqlBuilder.Execution
import SqlBuilder.Proofs.Draft.History

/-!
When a chain of calls fails, and with which error.  Three sorts of calls can be
refused, for a reason that lies in their argument or in the calls before them, and a
refused call changes no clause.  The first refusal decides the error of the chain;
without one it is the required clause that no call has set.  Nothing is sent for a
chain that fails.
-/

namespace SqlBuilder

namespace Window

/-- The number of rows before the page.  A page below 1 is the first one, and a page
has no fewer than zero rows. -/
def rowsBefore (page : Option Int64) (size : Int64) : Int :=
  (page.elim 0 fun page => max (page.toInt - 1) 0) * max size.toInt 0

theorem toInt_pageNumber_sub_one (page : Option Int64) :
    (pageNumber page).toInt - 1 = page.elim 0 fun page => max (page.toInt - 1) 0 := by
  have hone : (1 : Int64).toInt = 1 := rfl
  cases page with
  | none => rfl
  | some page =>
      simp only [pageNumber, Option.elim_some, Int64.le_iff_toInt_le, hone]
      split <;> omega

theorem toInt_pageSize (size : Int64) : (pageSize size).toInt = max size.toInt 0 := by
  have hzero : (0 : Int64).toInt = 0 := rfl
  simp only [pageSize, Int64.le_iff_toInt_le, hzero]
  split <;> omega

/-- A page is refused exactly if more rows come before it than sixty-four bits can count. -/
theorem exists_ofPage_eq_error_iff (page : Option Int64) (size : Int64) :
    (∃ fault, ofPage page size = .error fault) ↔ 2 ^ 63 - 1 < rowsBefore page size := by
  have hlargest : Int64.maxValue.toInt = 2 ^ 63 - 1 := rfl
  rw [ofPage, toInt_pageNumber_sub_one, toInt_pageSize, hlargest, ← rowsBefore]
  split
  · next hfits => simpa using hfits
  · next hbeyond => simpa using hbeyond

end Window

namespace Draft

/-- The calls that have to be refused after the calls before them: rows that do not
line up, values for all rows where no call has given rows, and a page too far for a
sixty-four bit offset. -/
def Unusable (before : List Step) : Step → Prop
  | .values rows => ¬ rows.LinesUp
  | .commonValues _ => ∀ rows, .values rows ∈ before → ¬ rows.LinesUp
  | .paginate page size => 2 ^ 63 - 1 < Window.rowsBefore page size
  | _ => False

namespace Start

theorem fault_draft (start : Start) : start.draft.fault = none := by
  cases start <;> rfl

theorem rows_draft (start : Start) : start.draft.statement.rows = none := by
  cases start <;> rfl

/-- The required clause that no call has set, after the words that name the statement.
A chain that supplies rows of its own need not select any. -/
def missing? (start : Start) (steps : List Step) : Option (Text × Text) :=
  match start with
  | .select _ => if steps.any Step.setsSource then none else some ("SELECT", "FROM")
  | .insertInto _ =>
      if steps.any Step.setsColumns then
        if steps.any Step.setsSource then none else some ("INSERT INTO ... SELECT", "FROM")
      else if steps.any Step.setsRows then none
      else some ("INSERT INTO", "VALUES (or SELECT)")
  | .update _ => if steps.any Step.setsAssignments then none else some ("UPDATE", "SET")
  | .deleteFrom _ => none
  | .fetchByIds _ _ => none
  | .fetchByColumns _ _ => none

end Start

/-- Exactly the unusable calls are refused. -/
theorem isSome_fault?_iff_unusable (start : Start) (before : List Step) (step : Step) :
    (step.fault? (start.draft.run before).statement).isSome ↔ Unusable before step := by
  cases step with
  | values rows =>
      rw [Option.isSome_iff_ne_none, ne_eq, Step.fault?_values_eq_none_iff, Unusable]
  | paginate page size =>
      rw [Option.isSome_iff_exists, Unusable, ← Window.exists_ofPage_eq_error_iff]
      simp only [Step.fault?_paginate]
  | commonValues cells =>
      have hrows := rows_run_eq_none_iff start.draft before
      rw [start.rows_draft, eq_self, true_and] at hrows
      rw [Option.isSome_iff_exists, Unusable, ← hrows]
      simp [Step.fault?_commonValues]
  | _ =>
      rw [Step.fault?_of_isTotal rfl]
      exact iff_of_false Bool.false_ne_true not_false

/-- The error of a chain: its first refusal, or else a required clause that no call
has set. -/
def verdict (start : Start) (steps : List Step) : Except Error Unit :=
  match (faults start.draft.statement steps).head?, start.missing? steps with
  | some fault, _ => .error (.malformed fault)
  | none, some (statement, clause) => .error (.missingClause statement clause)
  | none, none => .ok ()

/-- Without a refusal, the calls alone tell which required clause the statement lacks. -/
theorem missingClause?_run {start : Start} {steps : List Step}
    (hclean : faults start.draft.statement steps = []) :
    (start.draft.run steps).statement.missingClause? = start.missing? steps := by
  have hkind := kind_run start.draft steps
  have hsource := isSome_source_run start.draft steps
  have hcolumns := isSome_columns_run start.draft steps
  have hassignments := isSome_assignments_run start.draft steps
  have hrows := isSome_rows_run_of_faults_eq_nil hclean
  simp only [Statement.missingClause?, hkind, ← Option.not_isSome, hsource, hcolumns,
    hassignments, hrows]
  unfold Start.missing?
  generalize steps.any Step.setsSource = reads
  generalize steps.any Step.setsColumns = selects
  generalize steps.any Step.setsAssignments = assigns
  generalize steps.any Step.setsRows = supplies
  cases start with
  | select columns => cases reads <;> rfl
  | insertInto table => cases selects <;> cases reads <;> cases supplies <;> rfl
  | update table => cases assigns <;> rfl
  | deleteFrom table => rfl
  | fetchByIds table ids => rfl
  | fetchByColumns table values => rfl

theorem check_run (start : Start) (steps : List Step) :
    (start.draft.run steps).check = verdict start steps := by
  rw [check, fault_run, start.fault_draft, Option.none_or, verdict]
  cases hfaults : faults start.draft.statement steps with
  | cons fault later => rfl
  | nil =>
      rw [Statement.check, missingClause?_run hfaults]
      cases start.missing? steps <;> rfl

/-- The errors of a chain of calls.  A call is refused exactly if it is unusable after
the calls before it; then it changes no clause, and a fault that was there stays.  The
first refusal, or else a missing clause, is the error of the chain, for which nothing
is sent; without either the chain succeeds. -/
theorem chain_fails_by_first_refusal_or_missing_clause (start : Start) (steps : List Step) :
    (∀ before step, let draft := start.draft.run before
      ((step.fault? draft.statement).isSome ↔ Unusable before step) ∧
      ((step.fault? draft.statement).isSome →
        (step.apply draft).statement = draft.statement) ∧
      (step.apply draft).fault = draft.fault.or (step.fault? draft.statement)) ∧
    (start.draft.run steps).sql =
      (verdict start steps).map (fun _ => (start.draft.run steps).statement.sql) ∧
    (start.draft.run steps).finalize.result =
      (verdict start steps).map (fun _ => (start.draft.run steps).statement) ∧
    ∀ reason, verdict start steps = .error reason → ∀ executor options,
      (start.draft.run steps).execute executor options = Run.failed reason := by
  have hcheck := check_run start steps
  refine ⟨fun before step => ⟨isSome_fault?_iff_unusable start before step, ?_, ?_⟩, ?_, ?_, ?_⟩
  · intro hrefused
    obtain ⟨fault, hfault⟩ := Option.isSome_iff_exists.1 hrefused
    rw [step.apply_eq, Step.revised_of_fault? hfault]
  · rw [step.apply_eq]
  · rw [sql, hcheck]
  · rw [finalize, finished, hcheck]
  · intro reason hreason executor options
    rw [execute, sql, hcheck, hreason]
    rfl

/-- Values for all rows come too early, and neither the rows after them nor a second
refusal changes the error. -/
def tooEarly : List Step :=
  [.commonValues (.ofList [("b", .int 1)]), .values (.single (.ofList [("a", .text "x")])),
    .paginate (some Int64.maxValue) 2]

theorem first_refusal_fails_chain_with_rows :
    verdict (.insertInto "t") tooEarly = .error (.malformed .commonValuesWithoutRows) ∧
      (faults (Draft.insertInto "t").statement tooEarly).length = 2 ∧
      ∀ executor options, ((Draft.insertInto "t").run tooEarly).execute executor options =
        Run.failed (.malformed .commonValuesWithoutRows) := by
  have hverdict : verdict (.insertInto "t") tooEarly =
      .error (.malformed .commonValuesWithoutRows) := rfl
  have hchain := chain_fails_by_first_refusal_or_missing_clause (.insertInto "t") tooEarly
  exact ⟨hverdict, rfl, hchain.2.2.2 _ hverdict⟩

end Draft

end SqlBuilder
