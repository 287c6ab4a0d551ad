import SqlBuilder.Proofs.Draft.History
import SqlBuilder.Proofs.Statement.Visible

/-!
Calls that do not belong to the kind of their draft.  All kinds share one set of
clauses, and such a call sets a clause that the kind never shows.  Drafts that agree in
all the clauses that can be seen stay so: while a chain goes on with calls that belong,
and while calls that do not belong are left out.  For every kind but UPDATE, where a
stamp chooses between rows and assignments, the two chains therefore have the same text
or the same error.
-/

namespace SqlBuilder

namespace Draft

namespace Step

/-- Whether the call concerns a clause that statements of the kind render. -/
def belongs : Kind → Step → Bool
  | .select, step =>
      match step with
      | insertColumns _ | values _ | commonValues _ | assign _ | stampFrom _ | returning _ => false
      | _ => true
  | .insert, step =>
      match step with
      | assign _ | named _ | explain => false
      | _ => true
  | .update, step =>
      match step with
      | readFrom _ | readFromText _ | filter _ | filterAlso _ | assign _ | stampFrom _
      | returning _ => true
      | _ => false
  | .delete, step =>
      match step with
      | filter _ | filterAlso _ | returning _ => true
      | _ => false

variable {step : Step} {s : Statement}

/-- A call that does not belong changes no clause that can be seen. -/
theorem visible_revised_of_inert (hinert : step.belongs s.kind = false) :
    (step.revised s).visible = s.visible := by
  rcases s with ⟨_ | _ | _ | _⟩
  · -- SELECT
    cases step with
    | insertColumns columns => rfl
    | values rows => rw [revised_values]; split <;> rfl
    | commonValues cells => rw [revised_commonValues]; split <;> rfl
    | assign assignments => rfl
    | stampFrom clock => rw [revised_stampFrom]; split <;> rfl
    | returning columns => rfl
    | _ => cases hinert
  · -- INSERT
    cases step with
    | assign assignments => rfl
    | named name => rfl
    | explain => rfl
    | _ => cases hinert
  · -- UPDATE
    cases step with
    | readFrom _ | readFromText _ | filter _ | filterAlso _ => cases hinert
    | assign _ | stampFrom _ | returning _ => cases hinert
    | paginate page size => rw [revised_paginate]; split <;> rfl
    | values rows => rw [revised_values]; split <;> rfl
    | commonValues cells => rw [revised_commonValues]; split <;> rfl
    | _ => rfl
  · -- DELETE
    cases step with
    | filter _ | filterAlso _ | returning _ => cases hinert
    | paginate page size => rw [revised_paginate]; split <;> rfl
    | values rows => rw [revised_values]; split <;> rfl
    | commonValues cells => rw [revised_commonValues]; split <;> rfl
    | stampFrom clock => rw [revised_stampFrom]; split <;> rfl
    | _ => rfl

def stamps : Step → Bool
  | stampFrom _ => true
  | _ => false

/-- Any other call works alike on the clauses that can be seen, except for a stamp on an
UPDATE that has rows besides its assignments. -/
theorem visible_revised_visible
    (hstamp : s.kind = .update → step.stamps = true → s.rows = none ∨ s.assignments = none) :
    (step.revised s.visible).visible = (step.revised s).visible := by
  cases hbelongs : step.belongs s.kind with
  | false =>
      have hinert : step.belongs s.visible.kind = false := by rwa [Statement.kind_visible]
      rw [visible_revised_of_inert hbelongs, visible_revised_of_inert hinert,
        Statement.visible_visible]
  | true =>
      cases step with
      | paginate page size =>
          rw [revised_paginate, revised_paginate]
          split <;> rcases s with ⟨_ | _ | _ | _⟩ <;> rfl
      | values rows =>
          rw [revised_values, revised_values]
          split <;> rcases s with ⟨_ | _ | _ | _⟩ <;> rfl
      | commonValues cells =>
          rw [revised_commonValues, revised_commonValues]
          rcases s with ⟨_ | _ | _ | _⟩
          · cases hbelongs
          · rename_i rows assignments returning
            cases rows <;> rfl
          · cases hbelongs
          · cases hbelongs
      | stampFrom clock =>
          rw [revised_stampFrom, revised_stampFrom]
          rcases s with ⟨_ | _ | _ | _⟩
          · cases hbelongs
          · rename_i rows assignments returning
            cases rows <;> cases assignments <;> rfl
          · -- An UPDATE shows no rows, yet a stamp prefers them to its assignments.
            rename_i rows assignments returning
            rcases hstamp rfl rfl with hrows | hassignments
            · cases hrows
              cases assignments <;> rfl
            · cases hassignments
              cases rows <;> rfl
          · cases hbelongs
      | _ => rcases s with ⟨_ | _ | _ | _⟩ <;> rfl

/-- Whether a call that belongs to the kind is refused depends on clauses that the
kind renders. -/
theorem fault?_visible (hbelongs : step.belongs s.kind = true) :
    step.fault? s.visible = step.fault? s := by
  apply Option.ext
  intro fault
  cases step with
  | paginate page size => rw [fault?_paginate, fault?_paginate]
  | values rows => rw [fault?_values, fault?_values]
  | commonValues cells =>
      rw [fault?_commonValues, fault?_commonValues]
      rcases s with ⟨_ | _ | _ | _⟩
      · cases hbelongs
      · rfl
      · cases hbelongs
      · cases hbelongs
  | _ => rw [fault?_of_isTotal rfl, fault?_of_isTotal rfl]

end Step

/-- Drafts without faults that agree in every clause that can be seen. -/
structure Level (first second : Draft) : Prop where
  visible : first.statement.visible = second.statement.visible
  fault : first.fault = none
  other_fault : second.fault = none

namespace Level

variable {first second : Draft}

theorem refl {draft : Draft} (hclean : draft.fault = none) : Level draft draft :=
  ⟨rfl, hclean, hclean⟩

variable (hlevel : Level first second)
include hlevel

theorem kind_eq : first.statement.kind = second.statement.kind := by
  rw [← Statement.kind_visible, hlevel.visible, Statement.kind_visible]

theorem check_eq : first.check = second.check := by
  rw [check, check, hlevel.fault, hlevel.other_fault]
  dsimp only
  rw [← Statement.check_visible, hlevel.visible, Statement.check_visible]

theorem sql_text_eq : first.statement.sql = second.statement.sql := by
  rw [← Statement.sql_visible, hlevel.visible, Statement.sql_visible]

theorem sql_eq : first.sql = second.sql := by
  rw [sql, sql, hlevel.check_eq, hlevel.sql_text_eq]

theorem apply_inert {step : Step} (hinert : step.belongs first.statement.kind = false)
    (hclean : (step.apply first).fault = none) : Level (step.apply first) second := by
  refine ⟨?_, hclean, hlevel.other_fault⟩
  rw [step.apply_eq, Step.visible_revised_of_inert hinert, hlevel.visible]

/-- A call changes what can be seen of level drafts alike, except for a stamp that can go to
rows in one of them and to assignments in the other. -/
theorem visible_apply {step : Step}
    (hstamp : first.statement.kind = .update → step.stamps = true →
      (first.statement.rows = none ∧ second.statement.rows = none) ∨
        first.statement.assignments = none ∧ second.statement.assignments = none) :
    (step.apply first).statement.visible = (step.apply second).statement.visible := by
  rw [step.apply_eq first, step.apply_eq second, ← Step.visible_revised_visible,
    hlevel.visible, Step.visible_revised_visible]
  · intro hkind h
    exact (hstamp (hlevel.kind_eq.trans hkind) h).imp And.right And.right
  · intro hkind h
    exact (hstamp hkind h).imp And.left And.left

theorem apply {step : Step} (hbelongs : step.belongs first.statement.kind = true)
    (hstamp : first.statement.kind = .update → step.stamps = true →
      (first.statement.rows = none ∧ second.statement.rows = none) ∨
        first.statement.assignments = none ∧ second.statement.assignments = none)
    (hclean : (step.apply first).fault = none) : Level (step.apply first) (step.apply second) := by
  refine ⟨hlevel.visible_apply hstamp, hclean, ?_⟩
  have hother : step.belongs second.statement.kind = true := hlevel.kind_eq ▸ hbelongs
  rw [step.apply_eq, hlevel.fault, Option.none_or] at hclean
  rw [step.apply_eq, hlevel.other_fault, Option.none_or, ← Step.fault?_visible hother,
    ← hlevel.visible, Step.fault?_visible hbelongs, hclean]

/-- Level drafts are wrapped into one and the same draft. -/
theorem toJson_eq (name : Text) : first.toJson name = second.toJson name := by
  have hvisible : (first.named name).statement.visible = (second.named name).statement.visible :=
    @visible_apply first second hlevel (.named name) fun _ hstamps => nomatch hstamps
  have hnamed : Level (first.named name) (second.named name) :=
    ⟨hvisible, hlevel.fault, hlevel.other_fault⟩
  have hnested : (first.named name).statement.nested = (second.named name).statement.nested :=
    hnamed.sql_text_eq
  rw [toJson, toJson, finished, finished, hnamed.check_eq]
  cases (second.named name).check with
  | error reason => rfl
  | ok _ => simp only [Except.map, readFrom, Source.asTable, hnested]

end Level

/-- No call of the chain records a fault. -/
def FaultFree (draft : Draft) (calls : List Call) : Prop :=
  ∀ before next, before <+: calls → draft.follow before = .ok next → next.fault = none

namespace FaultFree

variable {draft next : Draft} {call : Call} {calls : List Call}

theorem fault (hclean : FaultFree draft calls) : draft.fault = none :=
  hclean [] draft (List.nil_prefix) rfl

theorem tail (hclean : FaultFree draft (call :: calls)) (hnext : call.apply draft = .ok next) :
    FaultFree next calls := by
  intro before last hbefore hlast
  apply hclean (call :: before) last (List.cons_prefix_cons.2 ⟨rfl, hbefore⟩)
  rw [follow, hnext]
  exact hlast

end FaultFree

/-- A chain that wraps no draft need only be looked at in the end, since a fault stays. -/
theorem faultFree_steps {draft : Draft} {steps : List Step}
    (hclean : (draft.run steps).fault = none) : FaultFree draft (steps.map .step) := by
  rintro before next ⟨after, hsplit⟩ hnext
  obtain ⟨first, second, rfl, rfl, rfl⟩ := List.append_eq_map_iff.1 hsplit
  rw [follow_steps, Except.ok.injEq] at hnext
  rw [run_append, fault_run, hnext] at hclean
  exact (Option.or_eq_none_iff.1 hclean).1

/-- The chain without the calls that do not belong to the kind of the draft.  Wrapping a
draft starts a SELECT. -/
def retained : Kind → List Call → List Call
  | _, [] => []
  | kind, .step step :: calls =>
      if step.belongs kind then .step step :: retained kind calls else retained kind calls
  | _, .toJson name :: calls => .toJson name :: retained .select calls

theorem retained_steps (kind : Kind) (steps : List Step) :
    retained kind (steps.map .step) = (steps.filter (Step.belongs kind)).map .step := by
  induction steps with
  | nil => rfl
  | cons step rest ih =>
      rw [List.map_cons, retained, ih, List.filter_cons]
      split <;> rfl

/-- What follows the wrapping of level drafts starts from one and the same draft. -/
theorem sql_follow_retained_toJson {kind : Kind} {name : Text} {rest : List Call}
    {first second : Draft} (hlevel : Level first second)
    (hclean : FaultFree first (.toJson name :: rest))
    (hrest : ∀ next : Draft, next.statement.kind = .select → FaultFree next rest →
      (next.follow (retained .select rest)).bind sql = (next.follow rest).bind sql) :
    (second.follow (retained kind (.toJson name :: rest))).bind sql =
      (first.follow (.toJson name :: rest)).bind sql := by
  rw [retained, follow, follow, Call.apply, Call.apply, ← hlevel.toJson_eq name]
  cases hnext : first.toJson name with
  | error reason => rfl
  | ok next =>
      have hselect : next.statement.kind = .select := by
        obtain ⟨columns, inner, rfl⟩ := exists_of_toJson_eq_ok hnext
        rfl
      exact hrest next hselect (hclean.tail hnext)

/-- Drafts that are level stay so while inert calls are left out of one chain. -/
theorem sql_follow_retained_of_ne_update {kind : Kind} {calls : List Call} {first second : Draft}
    (hlevel : Level first second) (hkind : first.statement.kind = kind) (hne : kind ≠ .update)
    (hclean : FaultFree first calls) :
    (second.follow (retained kind calls)).bind sql = (first.follow calls).bind sql := by
  induction calls generalizing kind first second with
  | nil => exact hlevel.sql_eq.symm
  | cons call rest ih =>
      cases call with
      | step step =>
          have htail : FaultFree (step.apply first) rest := hclean.tail rfl
          have hnext : (step.apply first).statement.kind = kind := by
            rw [step.apply_eq, step.kind_revised, hkind]
          subst hkind
          rw [retained]
          split
          · next hbelongs =>
              have hstep := hlevel.apply hbelongs (fun hkind => absurd hkind hne) htail.fault
              exact ih hstep hnext hne htail
          · next hinert =>
              have hstep := hlevel.apply_inert (Bool.eq_false_iff.2 hinert) htail.fault
              exact ih hstep hnext hne htail
      | toJson name =>
          apply sql_follow_retained_toJson hlevel hclean
          intro next hselect htail
          exact ih (Level.refl htail.fault) hselect (by decide) htail

end Draft

end SqlBuilder
