import Mathlib.Data.List.Perm.Basic
import SqlBuilder.Proofs.Draft.Effect

/-!
Calls for different parts of a statement.  A call reads and writes the clauses of its own
part only, and whether its argument is refused depends on these alone.  Calls for
different parts can therefore change places, and a chain can be put into any other order
that keeps the order within each part: nothing changes but which of several faults comes
first.
-/

namespace SqlBuilder

namespace Statement

/-- The parts of a statement.  Every call is for one of them. -/
inductive Part where
  | columns
  | distinctOn
  | source
  | aliasName
  | conditions
  | having
  | joins
  | leftJoins
  | groupBy
  | orderBy
  /-- LIMIT and OFFSET. -/
  | window
  /-- What is inserted or assigned: columns, rows and assignments. -/
  | contents
  | returning
  | explain
deriving DecidableEq, Repr

/-- The statement with the clauses of the part taken from another one. -/
def adopt (s : Statement) (part : Part) (donor : Statement) : Statement :=
  match part with
  | .columns => { s with columns := donor.columns }
  | .distinctOn => { s with distinctOn := donor.distinctOn }
  | .source => { s with source := donor.source }
  | .aliasName => { s with aliasName := donor.aliasName }
  | .conditions => { s with conditions := donor.conditions }
  | .having => { s with having := donor.having }
  | .joins => { s with joins := donor.joins }
  | .leftJoins => { s with leftJoins := donor.leftJoins }
  | .groupBy => { s with groupBy := donor.groupBy }
  | .orderBy => { s with orderBy := donor.orderBy }
  | .window => { s with limit := donor.limit, offset := donor.offset }
  | .contents =>
      { s with
        insertColumns := donor.insertColumns
        rows := donor.rows
        assignments := donor.assignments }
  | .returning => { s with returning := donor.returning }
  | .explain => { s with explain := donor.explain }

theorem adopt_adopt_comm {first second : Part} (hne : first ≠ second)
    (s donor other : Statement) :
    (s.adopt first donor).adopt second other = (s.adopt second other).adopt first donor := by
  cases first <;> cases second <;> first | rfl | exact absurd rfl hne

theorem rows_and_assignments_adopt {part : Part} (hne : part ≠ .contents) (s donor : Statement) :
    (s.adopt part donor).rows = s.rows ∧ (s.adopt part donor).assignments = s.assignments := by
  cases part with
  | contents => exact absurd rfl hne
  | _ => exact ⟨rfl, rfl⟩

end Statement

namespace Draft

namespace Step

def part : Step → Statement.Part
  | selectColumns _ => .columns
  | distinctOn _ => .distinctOn
  | readFrom _ | readFromText _ => .source
  | named _ => .aliasName
  | filter _ | filterAlso _ => .conditions
  | having _ | havingAlso _ => .having
  | join _ | joinAlso _ => .joins
  | leftJoin _ | leftJoinAlso _ => .leftJoins
  | groupBy _ => .groupBy
  | orderBy _ => .orderBy
  | limit _ | offset _ | paginate _ _ => .window
  | insertColumns _ | values _ | commonValues _ | assign _ | stampFrom _ => .contents
  | returning _ => .returning
  | explain => .explain

/-- A call writes the clauses of its part only. -/
theorem revised_eq_adopt (step : Step) (s : Statement) :
    step.revised s = s.adopt step.part (step.revised s) := by
  cases step with
  | paginate page size => rw [revised_paginate]; split <;> rfl
  | values rows => rw [revised_values]; split <;> rfl
  | commonValues cells => rw [revised_commonValues]; split <;> rfl
  | stampFrom clock => rw [revised_stampFrom]; split <;> rfl
  | _ => rfl

/-- A call reads the clauses of its part only. -/
theorem revised_adopt {step : Step} {part : Statement.Part} (hne : part ≠ step.part)
    (s donor : Statement) :
    step.revised (s.adopt part donor) = (step.revised s).adopt part donor := by
  cases step with
  | paginate page size =>
      rw [revised_paginate, revised_paginate]
      split
      · cases part with
        | window => exact absurd rfl hne
        | _ => rfl
      · rfl
  | values rows =>
      rw [revised_values, revised_values]
      split
      · cases part with
        | contents => exact absurd rfl hne
        | _ => rfl
      · rfl
  | commonValues cells =>
      rw [revised_commonValues, revised_commonValues,
        (Statement.rows_and_assignments_adopt hne s donor).1]
      split
      · cases part with
        | contents => exact absurd rfl hne
        | _ => rfl
      · rfl
  | stampFrom clock =>
      rw [revised_stampFrom, revised_stampFrom,
        (Statement.rows_and_assignments_adopt hne s donor).1,
        (Statement.rows_and_assignments_adopt hne s donor).2]
      cases part with
      | contents => exact absurd rfl hne
      | _ => split <;> rfl
  | _ => cases part <;> first | rfl | exact absurd rfl hne

/-- Whether a call is refused depends on the clauses of its part only. -/
theorem fault?_adopt {step : Step} {part : Statement.Part} (hne : part ≠ step.part)
    (s donor : Statement) :
    step.fault? (s.adopt part donor) = step.fault? s := by
  apply Option.ext
  intro fault
  cases step with
  | paginate page size => rw [fault?_paginate, fault?_paginate]
  | values rows => rw [fault?_values, fault?_values]
  | commonValues cells =>
      rw [fault?_commonValues, fault?_commonValues,
        (Statement.rows_and_assignments_adopt hne s donor).1]
  | _ => rw [fault?_of_isTotal rfl, fault?_of_isTotal rfl]

variable {first second : Step} (hne : first.part ≠ second.part) (s : Statement)
include hne

theorem fault?_revised : second.fault? (first.revised s) = second.fault? s := by
  rw [first.revised_eq_adopt, fault?_adopt hne]

/-- Calls for different parts can change places. -/
theorem revised_comm :
    second.revised (first.revised s) = first.revised (second.revised s) := by
  have hswap := Statement.adopt_adopt_comm hne s (first.revised s) (second.revised s)
  calc
    second.revised (first.revised s)
      = (second.revised s).adopt first.part (first.revised s) := by
        rw [← revised_adopt hne, ← first.revised_eq_adopt]
    _ = (s.adopt second.part (second.revised s)).adopt first.part (first.revised s) := by
        rw [← second.revised_eq_adopt]
    _ = (first.revised s).adopt second.part (second.revised s) := by
        rw [← hswap, ← first.revised_eq_adopt]
    _ = first.revised (second.revised s) := by
        rw [← revised_adopt hne.symm, ← second.revised_eq_adopt]

end Step

def revisedBy (s : Statement) (steps : List Step) : Statement :=
  steps.foldl (fun s step => step.revised s) s

theorem statement_run (draft : Draft) (steps : List Step) :
    (draft.run steps).statement = revisedBy draft.statement steps := by
  induction steps generalizing draft with
  | nil => rfl
  | cons step rest ih => rw [run_cons, ih, step.apply_eq]; rfl

theorem run_eq (draft : Draft) (steps : List Step) :
    draft.run steps =
      ⟨revisedBy draft.statement steps, draft.fault.or (faults draft.statement steps).head?⟩ := by
  rw [← statement_run, ← fault_run]

/-- The chains have the same calls for each part, in the same order. -/
def SamePerPart (steps others : List Step) : Prop :=
  ∀ part, steps.filter (·.part = part) = others.filter (·.part = part)

/-- The first call of a chain stands in the other one too, behind calls for other parts
only, and without it both chains still have the same calls for each part. -/
theorem SamePerPart.exists_split {step : Step} {rest others : List Step}
    (hsame : SamePerPart (step :: rest) others) :
    ∃ before after, others = before ++ step :: after ∧
      (∀ earlier ∈ before, earlier.part ≠ step.part) ∧ SamePerPart rest (before ++ after) := by
  have hown := hsame step.part
  rw [List.filter_cons_of_pos (by simp), eq_comm, List.filter_eq_cons_iff] at hown
  obtain ⟨before, after, rfl, hbefore, -, hafter⟩ := hown
  simp only [decide_eq_true_eq] at hbefore
  refine ⟨before, after, rfl, hbefore, fun part => ?_⟩
  by_cases hpart : step.part = part
  · subst hpart
    have hnone : before.filter (·.part = step.part) = [] :=
      List.filter_eq_nil_iff.2 (by simpa using hbefore)
    rw [List.filter_append, hafter, hnone, List.nil_append]
  · have hother := hsame part
    rwa [List.filter_cons_of_neg (by simpa using hpart), List.filter_append,
      List.filter_cons_of_neg (by simpa using hpart), ← List.filter_append] at hother

/-- A call can be made before all calls for other parts. -/
theorem revisedBy_move {step : Step} {before : List Step}
    (hbefore : ∀ earlier ∈ before, earlier.part ≠ step.part) (s : Statement)
    (after : List Step) :
    revisedBy s (before ++ step :: after) = revisedBy s (step :: (before ++ after)) ∧
    (faults s (before ++ step :: after)).Perm (faults s (step :: (before ++ after))) := by
  induction before generalizing s with
  | nil => exact ⟨rfl, .refl _⟩
  | cons first rest ih =>
      have hne := hbefore first List.mem_cons_self
      obtain ⟨hclauses, hfaults⟩ :=
        ih (fun earlier hmem => hbefore earlier (List.mem_cons_of_mem _ hmem)) (first.revised s)
      constructor
      · calc
          revisedBy s (first :: (rest ++ step :: after))
            = revisedBy (step.revised (first.revised s)) (rest ++ after) := hclauses
          _ = revisedBy (first.revised (step.revised s)) (rest ++ after) := by
            rw [Step.revised_comm hne]
      · simp only [List.cons_append, faults] at hfaults ⊢
        rw [Step.fault?_revised hne, Step.revised_comm hne] at hfaults
        rw [Step.fault?_revised hne.symm]
        exact (hfaults.append_left _).trans (List.perm_append_comm_assoc _ _ _)

/-- Chains that differ in the order between parts only lead to the same clauses, and find
the same faults in some order. -/
theorem revisedBy_eq_of_samePerPart {steps others : List Step} (hsame : SamePerPart steps others)
    (s : Statement) :
    revisedBy s steps = revisedBy s others ∧ (faults s steps).Perm (faults s others) := by
  induction steps generalizing s others with
  | nil =>
      have hnil : others = [] := by
        refine List.eq_nil_iff_forall_not_mem.2 fun step hmem => ?_
        have hnone := List.filter_eq_nil_iff.1 (hsame step.part).symm step hmem
        simp at hnone
      rw [hnil]
      exact ⟨rfl, .refl _⟩
  | cons step rest ih =>
      obtain ⟨before, after, rfl, hbefore, hrest⟩ := hsame.exists_split
      obtain ⟨hclauses, hfaults⟩ := ih hrest (step.revised s)
      obtain ⟨hmoved, hfound⟩ := revisedBy_move hbefore s after
      exact ⟨hclauses.trans hmoved.symm, (hfaults.append_left _).trans hfound.symm⟩

theorem sql_of_fault {draft : Draft} {fault : Malformed} (hfault : draft.fault = some fault) :
    draft.sql = .error (.malformed fault) := by
  rw [sql, check, hfault]
  rfl

/-- Of the same faults in two orders the first ones are the same, or both are among them. -/
theorem first_eq_or_both_mem {found : Option Malformed} {faults others : List Malformed}
    (hperm : faults.Perm others) :
    found.or faults.head? = found.or others.head? ∨
      ∃ fault ∈ faults, ∃ later ∈ faults, fault ≠ later ∧
        found.or faults.head? = some fault ∧ found.or others.head? = some later := by
  cases found with
  | some fault => exact .inl rfl
  | none =>
      cases faults with
      | nil => exact .inl (by rw [hperm.nil_eq])
      | cons fault rest =>
          cases others with
          | nil => exact absurd hperm.eq_nil (List.cons_ne_nil _ _)
          | cons later others =>
              by_cases hsame : fault = later
              · exact .inl (by rw [hsame]; rfl)
              · exact .inr ⟨fault, List.mem_cons_self, later,
                  hperm.mem_iff.2 List.mem_cons_self, hsame, rfl, rfl⟩

/-- Calls for different parts can change places in every draft, and a chain can be put into
every order that keeps the order within each part.  The clauses are the same and so is the
whole draft, unless several calls are refused and another one of them comes first. -/
theorem calls_for_different_parts_change_places (draft : Draft) :
    (∀ first second : Step, first.part ≠ second.part →
      let one := second.apply (first.apply draft)
      let other := first.apply (second.apply draft)
      one.statement = other.statement ∧
      (one = other ∨ ∃ fault later : Malformed,
        first.fault? draft.statement = some fault ∧ second.fault? draft.statement = some later ∧
        one.sql = .error (.malformed fault) ∧ other.sql = .error (.malformed later))) ∧
    ∀ steps others : List Step, SamePerPart steps others →
      (draft.run steps).statement = (draft.run others).statement ∧
      (faults draft.statement steps).Perm (faults draft.statement others) ∧
      (draft.run steps = draft.run others ∨
        ∃ fault ∈ faults draft.statement steps, ∃ later ∈ faults draft.statement steps,
          fault ≠ later ∧ (draft.run steps).sql = .error (.malformed fault) ∧
          (draft.run others).sql = .error (.malformed later)) := by
  constructor
  · intro first second hne
    rw [first.apply_eq, second.apply_eq, second.apply_eq, first.apply_eq]
    dsimp only
    rw [Step.fault?_revised hne, Step.fault?_revised hne.symm, Step.revised_comm hne]
    refine ⟨rfl, ?_⟩
    cases hfirst : first.fault? draft.statement with
    | none => exact .inl (by rw [Option.or_none, Option.or_none])
    | some fault =>
        cases hsecond : second.fault? draft.statement with
        | none => exact .inl (by rw [Option.or_none, Option.or_none])
        | some later =>
            cases draft.fault with
            | some found => exact .inl rfl
            | none => exact .inr ⟨fault, later, rfl, rfl, sql_of_fault rfl, sql_of_fault rfl⟩
  · intro steps others hsame
    obtain ⟨hclauses, hfaults⟩ := revisedBy_eq_of_samePerPart hsame draft.statement
    rw [run_eq, run_eq, hclauses]
    refine ⟨rfl, hfaults, ?_⟩
    rcases @first_eq_or_both_mem draft.fault _ _ hfaults with
      hfirst | ⟨fault, hfault, later, hlater, hne, hone, hother⟩
    · exact .inl (by rw [hfirst])
    · exact .inr ⟨fault, hfault, later, hlater, hne, sql_of_fault hone, sql_of_fault hother⟩

/-- Two refused calls and one that is not, for three different parts. -/
def refusedTwice : List Step :=
  [.commonValues .empty, .distinctOn ["a".toList], .paginate (some Int64.maxValue) 2]

theorem refused_calls_change_places :
    SamePerPart refusedTwice refusedTwice.reverse ∧
      ((select []).run refusedTwice).statement =
        ((select []).run refusedTwice.reverse).statement ∧
      ((select []).run refusedTwice).sql = .error (.malformed .commonValuesWithoutRows) ∧
      ((select []).run refusedTwice.reverse).sql =
        .error (.malformed (.offsetOverflow Int64.maxValue 2)) := by
  have hsame : SamePerPart refusedTwice refusedTwice.reverse := by
    intro part
    cases part <;> rfl
  exact ⟨hsame, ((calls_for_different_parts_change_places (select [])).2 _ _ hsame).1, rfl, rfl⟩

end Draft

end SqlBuilder
