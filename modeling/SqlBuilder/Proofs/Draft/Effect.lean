import SqlBuilder.Draft.Step

/-!
The effect of a call.  A call either uses its argument and revises the clauses, or
it refuses the argument, and then it records a fault and leaves the clauses as they
were.  Which of the two happens, and how the clauses are revised, does not depend on
the faults of earlier calls; of all faults the first one stays.
-/

namespace SqlBuilder.Draft

namespace Step

/-- The fault for which the call refuses its argument, if it does. -/
def fault? (step : Step) (s : Statement) : Option Malformed := (step.apply ⟨s, none⟩).fault

/-- The clauses after the call. -/
def revised (step : Step) (s : Statement) : Statement := (step.apply ⟨s, none⟩).statement

variable {s : Statement} {fault : Malformed}

theorem fault?_paginate (page : Option Int64) (size : Int64) :
    (paginate page size).fault? s = some fault ↔ Window.ofPage page size = .error fault := by
  change (Draft.paginate ⟨s, none⟩ page size).fault = some fault ↔ _
  rw [Draft.paginate]
  cases Window.ofPage page size with
  | ok window => simp [Draft.limit, Draft.offset, Draft.revise]
  | error found => simp [Draft.blame]

theorem fault?_values (rows : RowSet) :
    (values rows).fault? s = some fault ↔ rows.toTable = .error fault := by
  change (Draft.values ⟨s, none⟩ rows).fault = some fault ↔ _
  rw [Draft.values]
  cases rows.toTable with
  | ok table => simp [Draft.revise]
  | error found => simp [Draft.blame]

theorem fault?_commonValues (cells : Bindings) :
    (commonValues cells).fault? s = some fault ↔
      s.rows = none ∧ fault = .commonValuesWithoutRows := by
  change (Draft.commonValues ⟨s, none⟩ cells).fault = some fault ↔ _
  rw [Draft.commonValues]
  cases s.rows with
  | some rows => simp [Draft.revise]
  | none => simp [Draft.blame, eq_comm]

/-- The calls that never refuse their argument. -/
def isTotal : Step → Bool
  | paginate _ _ | values _ | commonValues _ => false
  | _ => true

theorem stamp_fault (draft : Draft) (now : Instant) : (draft.stamp now).fault = draft.fault := by
  rw [stamp]
  split <;> rfl

theorem fault?_of_isTotal {step : Step} (htotal : step.isTotal = true) :
    step.fault? s = none := by
  cases step with
  | paginate page size => cases htotal
  | values rows => cases htotal
  | commonValues cells => cases htotal
  | stampFrom clock => exact stamp_fault ⟨s, none⟩ clock.read.1
  | _ => rfl

theorem revised_paginate (page : Option Int64) (size : Int64) :
    (paginate page size).revised s =
      match Window.ofPage page size with
      | .ok window => { s with limit := some window.limit, offset := some window.offset }
      | .error _ => s := by
  change (Draft.paginate ⟨s, none⟩ page size).statement = _
  rw [Draft.paginate]
  cases Window.ofPage page size <;> rfl

theorem revised_values (rows : RowSet) :
    (values rows).revised s =
      match rows.toTable with
      | .ok table =>
          { s with insertColumns := table.rendered.columns, rows := some table.rendered.rows }
      | .error _ => s := by
  change (Draft.values ⟨s, none⟩ rows).statement = _
  rw [Draft.values]
  cases rows.toTable <;> rfl

theorem revised_commonValues (cells : Bindings) :
    (commonValues cells).revised s =
      match s.rows with
      | some rows =>
          { s with
            insertColumns := s.insertColumns ++ cells.names.map Identifier.quote
            rows := some (rows.map fun row => row ++ cells.values.map Value.literal) }
      | none => s := by
  change (Draft.commonValues ⟨s, none⟩ cells).statement = _
  rw [Draft.commonValues]
  cases s.rows <;> rfl

/-- The literal of the time that a call stamps with. -/
abbrev timeOf (clock : Clock) : Text := (Value.timestamp clock.read.1).literal

/-- A stamp goes to the rows if there are any, otherwise to the assignments, and is lost if
there are neither. -/
theorem revised_stampFrom (clock : Clock) :
    (stampFrom clock).revised s =
      match s.rows, s.assignments with
      | some rows, _ =>
          { s with
            insertColumns := s.insertColumns ++ [createdColumn, updatedColumn]
            rows := some (rows.map fun row => row ++ [timeOf clock, timeOf clock]) }
      | none, some assignments =>
          { s with assignments := some (assignments ++ ", " ++ updatedColumn ++ " = " ++
              timeOf clock) }
      | none, none => s := by
  change (Draft.stamp ⟨s, none⟩ clock.read.1).statement = _
  rw [stamp]
  dsimp only
  split <;> simp only [*, revise]

/-- A call that refuses its argument leaves every clause as it was. -/
theorem revised_of_fault? {step : Step} (hfault : step.fault? s = some fault) :
    step.revised s = s := by
  cases step with
  | paginate page size =>
      rw [fault?_paginate] at hfault
      rw [revised_paginate, hfault]
  | values rows =>
      rw [fault?_values] at hfault
      rw [revised_values, hfault]
  | commonValues cells =>
      rw [fault?_commonValues] at hfault
      rw [revised_commonValues, hfault.1]
  | _ =>
      rw [fault?_of_isTotal rfl] at hfault
      cases hfault

/-- No call makes a statement one of another kind. -/
theorem kind_revised (step : Step) (s : Statement) : (step.revised s).kind = s.kind := by
  cases step with
  | paginate page size => rw [revised_paginate]; split <;> rfl
  | values rows => rw [revised_values]; split <;> rfl
  | commonValues cells => rw [revised_commonValues]; split <;> rfl
  | stampFrom clock => rw [revised_stampFrom]; split <;> rfl
  | _ => rfl

/-- A call treats every draft of a statement alike, whether or not it has a fault. -/
theorem apply_eq (step : Step) (draft : Draft) :
    step.apply draft =
      ⟨step.revised draft.statement, draft.fault.or (step.fault? draft.statement)⟩ := by
  obtain ⟨s, found⟩ := draft
  cases step with
  | paginate page size =>
      simp only [revised, fault?, apply, Draft.paginate]
      cases Window.ofPage page size <;> simp [Draft.limit, Draft.offset, revise, blame]
  | values rows =>
      simp only [revised, fault?, apply, Draft.values]
      cases rows.toTable <;> simp [revise, blame]
  | commonValues cells =>
      simp only [revised, fault?, apply, Draft.commonValues]
      cases s.rows <;> simp [revise, blame]
  | stampFrom clock =>
      simp only [revised, fault?, apply, Draft.stampFrom, stamp]
      cases s.rows <;> cases s.assignments <;> simp [revise]
  | _ =>
      rw [fault?_of_isTotal rfl, Option.or_none]
      rfl

end Step

@[simp] theorem run_concat (draft : Draft) (steps : List Step) (step : Step) :
    draft.run (steps ++ [step]) = step.apply (draft.run steps) := by
  rw [run_append, run_cons, run_nil]

theorem kind_run (draft : Draft) (steps : List Step) :
    (draft.run steps).statement.kind = draft.statement.kind := by
  induction steps generalizing draft with
  | nil => rfl
  | cons step rest ih => rw [run_cons, ih, step.apply_eq, step.kind_revised]

/-- The faults that a chain of calls finds, from first to last. -/
def faults (s : Statement) : List Step → List Malformed
  | [] => []
  | step :: rest => (step.fault? s).toList ++ faults (step.revised s) rest

/-- A call at the end refuses its argument in the light of what the calls before it
have made. -/
theorem faults_concat (draft : Draft) (steps : List Step) (step : Step) :
    faults draft.statement (steps ++ [step]) =
      faults draft.statement steps ++ (step.fault? (draft.run steps).statement).toList := by
  induction steps generalizing draft with
  | nil => simp [faults]
  | cons first rest ih =>
      have hnext := ih (first.apply draft)
      rw [first.apply_eq] at hnext
      rw [List.cons_append, faults, faults, run_cons, first.apply_eq, hnext, List.append_assoc]

/-- A draft keeps its fault, and otherwise takes the first one of the chain. -/
theorem fault_run (draft : Draft) (steps : List Step) :
    (draft.run steps).fault = draft.fault.or (faults draft.statement steps).head? := by
  induction steps generalizing draft with
  | nil => simp [faults]
  | cons step rest ih =>
      rw [run_cons, ih, step.apply_eq, faults, Option.or_assoc]
      cases step.fault? draft.statement <;> simp

variable {draft : Draft}

theorem faults_eq_nil_of_fault_run {steps : List Step} (hclean : (draft.run steps).fault = none) :
    faults draft.statement steps = [] := by
  rw [fault_run] at hclean
  exact List.head?_eq_none_iff.1 (Option.or_eq_none_iff.1 hclean).2

/-- A draft without a fault had none before any of its calls. -/
theorem fault_eq_none_of_fault_run {steps : List Step} (hclean : (draft.run steps).fault = none) :
    draft.fault = none := by
  rw [fault_run] at hclean
  exact (Option.or_eq_none_iff.1 hclean).1

/-- A draft that can be finished has met no fault, and its own statement is what it is
finished to. -/
theorem fault_and_statement_of_finished {s : Statement} (hfinished : draft.finished = .ok s) :
    draft.fault = none ∧ draft.statement = s := by
  rw [finished, check] at hfinished
  cases hfault : draft.fault with
  | some fault => rw [hfault] at hfinished; cases hfinished
  | none =>
      rw [hfault] at hfinished
      cases hcheck : draft.statement.check with
      | error reason => simp [hcheck, Except.map] at hfinished
      | ok _ => exact ⟨rfl, by simpa [hcheck, Except.map] using hfinished⟩

/-- Wrapping yields a new SELECT of the finished draft. -/
theorem exists_of_toJson_eq_ok {name : Text} {next : Draft}
    (hnext : draft.toJson name = .ok next) :
    ∃ columns inner, next = (select columns).readFrom (.query inner) := by
  rw [toJson] at hnext
  cases hinner : (draft.named name).finished with
  | error reason => rw [hinner] at hnext; cases hnext
  | ok inner =>
      rw [hinner] at hnext
      cases hnext
      exact ⟨_, inner, rfl⟩

theorem exists_of_follow_cons {call : Call} {calls : List Call} {final : Draft}
    (hcalls : draft.follow (call :: calls) = .ok final) :
    ∃ next, call.apply draft = .ok next ∧ next.follow calls = .ok final := by
  rw [follow] at hcalls
  cases hcall : call.apply draft with
  | error reason => rw [hcall] at hcalls; cases hcalls
  | ok next =>
      rw [hcall] at hcalls
      exact ⟨next, rfl, hcalls⟩

end SqlBuilder.Draft
