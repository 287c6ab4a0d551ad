import Mathlib.Data.List.Induction
import SqlBuilder.Proofs.Draft.Inertness

/-!
Stamps that an UPDATE loses.  Rows mean nothing to an UPDATE, but a stamp goes to the
rows of a draft rather than to its assignments.  So a chain that gives an UPDATE rows,
although they do not belong to it, can lack the stamp that the chain without the rows
has.  Apart from that the calls that do not belong to the kind of a draft can be left
out of a chain without any effect.
-/

namespace SqlBuilder

namespace Draft

def stampedAt (clock : Clock) (assignments : Text) : Text :=
  assignments ++ ", " ++ updatedColumn ++ " = " ++ Step.timeOf clock

theorem length_lt_length_stampedAt (clock : Clock) (assignments : Text) :
    assignments.length < (stampedAt clock assignments).length := by
  simp only [stampedAt, List.append_assoc, List.length_append]
  have hseparator : (", " : Text).length = 2 := rfl
  omega

theorem length_stampedAt_lt {clock : Clock} {less more : Text}
    (hlt : less.length < more.length) :
    (stampedAt clock less).length < (stampedAt clock more).length := by
  simp only [stampedAt, List.append_assoc, List.length_append]
  omega

/-- The same assignments, or less of them in the first place if the chain loses a stamp. -/
def AgreeUpTo (loses : Prop) (first second : Option Text) : Prop :=
  (¬ loses → first = second) ∧
  (loses → ∃ less more, first = some less ∧ second = some more ∧ less.length < more.length)

/-- Another stamp is lost exactly if there are rows and something is assigned. -/
theorem AgreeUpTo.stamped {loses : Prop} {first second : Option Text}
    (hagree : AgreeUpTo loses first second) (clock : Clock) (hasRows : Bool) :
    AgreeUpTo ((hasRows = true ∧ first.isSome = true) ∨ loses)
      (if hasRows then first else first.map (stampedAt clock))
      (second.map (stampedAt clock)) := by
  by_cases hloses : loses
  · obtain ⟨less, more, rfl, rfl, hlt⟩ := hagree.2 hloses
    refine ⟨fun hkept => absurd (.inr hloses) hkept, fun _ => ?_⟩
    cases hasRows with
    | true => exact ⟨_, _, rfl, rfl, Nat.lt_trans hlt (length_lt_length_stampedAt clock more)⟩
    | false => exact ⟨_, _, rfl, rfl, length_stampedAt_lt hlt⟩
  · obtain rfl := hagree.1 hloses
    cases first with
    | none => simp [AgreeUpTo, hloses]
    | some assignments =>
        cases hasRows with
        | true => simpa [AgreeUpTo] using length_lt_length_stampedAt clock assignments
        | false => simp [AgreeUpTo, hloses]

namespace Step

variable {step : Step} {s : Statement}

theorem isTotal_of_belongs_update (hbelongs : step.belongs .update = true) :
    step.isTotal = true := by
  cases step with
  | paginate page size => cases hbelongs
  | values rows => cases hbelongs
  | commonValues cells => cases hbelongs
  | _ => rfl

/-- Only an assignment or a stamp changes what is assigned. -/
theorem assignments_revised (hassigns : step.setsAssignments = false)
    (hstamps : step.stamps = false) : (step.revised s).assignments = s.assignments := by
  cases step with
  | assign assignments => cases hassigns
  | stampFrom clock => cases hstamps
  | paginate page size => rw [revised_paginate]; split <;> rfl
  | values rows => rw [revised_values]; split <;> rfl
  | commonValues cells => rw [revised_commonValues]; split <;> rfl
  | _ => rfl

theorem assignments_revised_stampFrom (clock : Clock) :
    ((stampFrom clock).revised s).assignments =
      if s.rows.isSome then s.assignments else s.assignments.map (stampedAt clock) := by
  rw [revised_stampFrom]
  split <;> simp [*, stampedAt]

end Step

/-- A stamp that went to the rows of the chain although there were assignments, none
of which a later call replaced. -/
def LosesStamp (steps : List Step) : Prop :=
  ∃ before clock after, steps = before ++ .stampFrom clock :: after ∧
    before.any Step.setsRows ∧ before.any Step.setsAssignments ∧ ¬ after.any Step.setsAssignments

theorem not_losesStamp_nil : ¬ LosesStamp [] := by
  rintro ⟨before, clock, after, hsplit, -⟩
  simp at hsplit

/-- A call at the end loses a stamp if it stamps rows beside assignments, and makes up for
earlier losses if it assigns anew. -/
theorem losesStamp_concat_iff {steps : List Step} {step : Step} :
    LosesStamp (steps ++ [step]) ↔
      (step.stamps ∧ steps.any Step.setsRows ∧ steps.any Step.setsAssignments) ∨
        (LosesStamp steps ∧ ¬ step.setsAssignments) := by
  constructor
  · rintro ⟨before, clock, after, hsplit, hrows, hassigned, hafter⟩
    rcases concat_eq_append_cons_iff.1 hsplit with ⟨rfl, rfl, -⟩ | ⟨rest, hsteps, rfl⟩
    · exact .inl ⟨rfl, hrows, hassigned⟩
    · rw [List.any_append, Bool.or_eq_true, not_or] at hafter
      refine .inr ⟨⟨before, clock, rest, hsteps, hrows, hassigned, hafter.1⟩, ?_⟩
      simpa using hafter.2
  · rintro (⟨hstamps, hrows, hassigned⟩ |
      ⟨⟨before, clock, after, hsplit, hrows, hassigned, hafter⟩, hstep⟩)
    · cases step with
      | stampFrom clock => exact ⟨steps, clock, [], rfl, hrows, hassigned, by simp⟩
      | _ => cases hstamps
    · refine ⟨before, clock, after ++ [step], by simp [hsplit], hrows, hassigned, ?_⟩
      simpa [hstep] using hafter

theorem not_losesStamp_concat_assign (steps : List Step) (assignments : Assignments) :
    ¬ LosesStamp (steps ++ [.assign assignments]) := by
  rw [losesStamp_concat_iff]
  rintro (⟨hstamps, -⟩ | ⟨-, hassigns⟩)
  · cases hstamps
  · exact hassigns rfl

theorem losesStamp_concat_stampFrom_iff {steps : List Step} {clock : Clock} :
    LosesStamp (steps ++ [.stampFrom clock]) ↔
      (steps.any Step.setsRows ∧ steps.any Step.setsAssignments) ∨ LosesStamp steps := by
  rw [losesStamp_concat_iff]
  exact or_congr (and_iff_right rfl) (and_iff_left Bool.false_ne_true)

theorem losesStamp_concat_iff_of_not_assigned {steps : List Step} {step : Step}
    (hassigns : step.setsAssignments = false) (hstamps : step.stamps = false) :
    LosesStamp (steps ++ [step]) ↔ LosesStamp steps := by
  simp [losesStamp_concat_iff, hassigns, hstamps]

/-- Statements of an UPDATE that agree in all but their assignments. -/
structure Abreast (first second : Statement) : Prop where
  kind : first.kind = .update
  other_kind : second.kind = .update
  table : first.table = second.table
  source : first.source = second.source
  conditions : first.conditions = second.conditions
  returning : first.returning = second.returning

namespace Abreast

variable {first second : Statement} {step : Step}

/-- A call that does not belong to an UPDATE changes nothing but clauses that stay unseen. -/
theorem revised_inert (habreast : Abreast first second) (hinert : step.belongs .update = false) :
    Abreast (step.revised first) second := by
  cases step with
  | readFrom _ | readFromText _ | filter _ | filterAlso _ => cases hinert
  | assign _ | stampFrom _ | returning _ => cases hinert
  | paginate page size => rw [Step.revised_paginate]; split <;> exact { habreast with }
  | values rows => rw [Step.revised_values]; split <;> exact { habreast with }
  | commonValues cells => rw [Step.revised_commonValues]; split <;> exact { habreast with }
  | _ => exact { habreast with }

theorem revised (habreast : Abreast first second) (hbelongs : step.belongs .update = true) :
    Abreast (step.revised first) (step.revised second) := by
  cases step with
  | readFrom source => exact { habreast with source := rfl }
  | readFromText sql => exact { habreast with source := rfl }
  | filter conditions => exact { habreast with conditions := rfl }
  | filterAlso conditions =>
      have happended := congrArg (· ++ Condition.texts conditions) habreast.conditions
      exact { habreast with conditions := happended }
  | assign assignments => exact { habreast with }
  | stampFrom clock =>
      rw [Step.revised_stampFrom, Step.revised_stampFrom]
      split <;> split <;> exact { habreast with }
  | returning columns => exact { habreast with returning := rfl }
  | _ => cases hbelongs

theorem level {first second : Draft} (habreast : Abreast first.statement second.statement)
    (hassignments : first.statement.assignments = second.statement.assignments)
    (hclean : first.fault = none) (hother : second.fault = none) : Level first second := by
  refine ⟨?_, hclean, hother⟩
  rw [Statement.visible, Statement.visible, habreast.kind, habreast.other_kind]
  dsimp only
  rw [habreast.table, habreast.source, habreast.conditions, habreast.returning, hassignments]

/-- The text of an UPDATE tells its assignments, when all the rest is the same. -/
theorem assignments_eq_of_updateText_eq (habreast : Abreast first second) {less more : Text}
    (hless : first.assignments = some less) (hmore : second.assignments = some more)
    (hsame : first.updateText = second.updateText) : less = more := by
  unfold Statement.updateText Statement.target at hsame
  rw [habreast.table, habreast.source, habreast.conditions, habreast.returning, hless,
    hmore] at hsame
  simpa only [Statement.optionalClause, List.append_left_inj, List.append_right_inj] using hsame

end Abreast

theorem sql_eq_updateText {draft : Draft} (hkind : draft.statement.kind = .update)
    (hclean : draft.fault = none) {assignments : Text}
    (hassignments : draft.statement.assignments = some assignments) :
    draft.sql = .ok draft.statement.updateText := by
  simp only [sql, check, hclean, Statement.check, Statement.missingClause?, Statement.sql, hkind,
    hassignments, Option.isNone_some, Bool.false_eq_true, if_false, Except.map]

def leading : List Call → List Step
  | [] => []
  | .step step :: calls => step :: leading calls
  | .toJson _ :: _ => []

/-- The calls of the chain that belong to an UPDATE. -/
abbrev assigning (steps : List Step) : List Step := steps.filter (Step.belongs .update)

/-- A draft of an UPDATE of which nothing is known but its table. -/
structure StartsUpdate (draft : Draft) : Prop where
  kind : draft.statement.kind = .update
  fault : draft.fault = none
  rows : draft.statement.rows = none
  assignments : draft.statement.assignments = none

namespace StartsUpdate

variable {draft : Draft} (hstart : StartsUpdate draft)
include hstart

theorem fault_run_assigning (steps : List Step) : (draft.run (assigning steps)).fault = none := by
  induction steps using List.reverseRecOn with
  | nil => exact hstart.fault
  | append_singleton steps step ih =>
      rw [assigning, List.filter_append, List.filter_singleton]
      cases hbelongs : step.belongs .update with
      | false => simpa using ih
      | true =>
          rw [cond_true, run_concat, step.apply_eq, ih,
            Step.fault?_of_isTotal (Step.isTotal_of_belongs_update hbelongs), Option.or_none]

theorem rows_run_assigning (steps : List Step) :
    (draft.run (assigning steps)).statement.rows = none := by
  refine (rows_run_eq_none_iff draft _).2 ⟨hstart.rows, fun rows hmem => ?_⟩
  cases (List.mem_filter.1 hmem).2

/-- A call that belongs to an UPDATE keeps the agreement of what is assigned. -/
theorem agreeUpTo_concat {steps : List Step} {step : Step}
    (hclean : (draft.run steps).fault = none) (hbelongs : step.belongs .update = true)
    (hagree : AgreeUpTo (LosesStamp steps) (draft.run steps).statement.assignments
      (draft.run (assigning steps)).statement.assignments) :
    AgreeUpTo (LosesStamp (steps ++ [step]))
      (step.revised (draft.run steps).statement).assignments
      (step.revised (draft.run (assigning steps)).statement).assignments := by
  cases step with
  | assign assignments =>
      have hkept := not_losesStamp_concat_assign steps assignments
      exact ⟨fun _ => rfl, fun hloses => absurd hloses hkept⟩
  | stampFrom clock =>
      -- Where the stamp goes is decided by calls before it, through the clauses they set.
      have hrows := isSome_rows_run_of_faults_eq_nil (faults_eq_nil_of_fault_run hclean)
      have hassigned := isSome_assignments_run draft steps
      rw [hstart.rows, Option.isSome_none, Bool.false_or] at hrows
      rw [hstart.assignments, Option.isSome_none, Bool.false_or] at hassigned
      rw [Step.assignments_revised_stampFrom, Step.assignments_revised_stampFrom,
        hstart.rows_run_assigning, losesStamp_concat_stampFrom_iff, ← hrows, ← hassigned]
      exact hagree.stamped clock _
  | readFrom _ | readFromText _ | filter _ | filterAlso _ | returning _ =>
      rw [Step.assignments_revised rfl rfl, Step.assignments_revised rfl rfl,
        losesStamp_concat_iff_of_not_assigned rfl rfl]
      exact hagree
  | _ => cases hbelongs

/-- The calls that do not belong to an UPDATE leave its statement as it is, except that
it lacks a part of what is assigned if the chain loses a stamp. -/
theorem abreast_run {steps : List Step} (hclean : (draft.run steps).fault = none) :
    let first := (draft.run steps).statement
    let second := (draft.run (assigning steps)).statement
    Abreast first second ∧ AgreeUpTo (LosesStamp steps) first.assignments second.assignments := by
  dsimp only
  -- From the end of the chain, because a stamp depends on all the calls before it.
  induction steps using List.reverseRecOn with
  | nil =>
      exact ⟨⟨hstart.kind, hstart.kind, rfl, rfl, rfl, rfl⟩, fun _ => rfl,
        fun hloses => absurd hloses not_losesStamp_nil⟩
  | append_singleton steps step ih =>
      rw [run_concat, step.apply_eq] at hclean
      have hbefore := (Option.or_eq_none_iff.1 hclean).1
      obtain ⟨habreast, hagree⟩ := ih hbefore
      rw [assigning, List.filter_append, List.filter_singleton, run_concat, step.apply_eq]
      cases hbelongs : step.belongs .update with
      | false =>
          have hassigns : step.setsAssignments = false := by cases step <;> trivial
          have hstamps : step.stamps = false := by cases step <;> trivial
          rw [cond_false, List.append_nil, Step.assignments_revised hassigns hstamps,
            losesStamp_concat_iff_of_not_assigned hassigns hstamps]
          exact ⟨habreast.revised_inert hbelongs, hagree⟩
      | true =>
          rw [cond_true, run_concat, step.apply_eq]
          exact ⟨habreast.revised hbelongs, hstart.agreeUpTo_concat hbefore hbelongs hagree⟩

/-- A chain that loses a stamp lacks it in its text. -/
theorem sql_run_assigning_ne {steps : List Step} (hclean : (draft.run steps).fault = none)
    (hloses : LosesStamp steps) : (draft.run (assigning steps)).sql ≠ (draft.run steps).sql := by
  obtain ⟨habreast, hagree⟩ := hstart.abreast_run hclean
  obtain ⟨less, more, hless, hmore, hlt⟩ := hagree.2 hloses
  rw [sql_eq_updateText habreast.kind hclean hless,
    sql_eq_updateText habreast.other_kind (hstart.fault_run_assigning steps) hmore]
  intro hsame
  rw [Except.ok.injEq] at hsame
  obtain rfl := habreast.assignments_eq_of_updateText_eq hless hmore hsame.symm
  exact Nat.lt_irrefl _ hlt

theorem level_run {steps : List Step} (hclean : (draft.run steps).fault = none)
    (hkept : ¬ LosesStamp steps) : Level (draft.run steps) (draft.run (assigning steps)) := by
  obtain ⟨habreast, hagree⟩ := hstart.abreast_run hclean
  exact habreast.level (hagree.1 hkept) hclean (hstart.fault_run_assigning steps)

/-- An UPDATE that loses no stamp can do without the calls that do not belong to it. -/
theorem sql_follow_retained {steps : List Step} {calls : List Call}
    (hclean : FaultFree (draft.run steps) calls) (hkept : ¬ LosesStamp (steps ++ leading calls)) :
    ((draft.run (assigning steps)).follow (retained .update calls)).bind sql =
      ((draft.run steps).follow calls).bind sql := by
  -- The calls go over to the steps one by one, so that a stamp has its past at hand.
  induction calls generalizing steps with
  | nil =>
      rw [leading, List.append_nil] at hkept
      exact (hstart.level_run hclean.fault hkept).sql_eq.symm
  | cons call rest ih =>
      cases call with
      | step step =>
          have htail := hclean.tail rfl
          rw [← run_concat] at htail
          rw [leading, List.append_cons] at hkept
          have hnext := ih htail hkept
          rw [assigning, List.filter_append, List.filter_singleton, run_concat] at hnext
          rw [retained]
          cases hbelongs : step.belongs .update with
          | false =>
              rw [hbelongs, cond_false, List.append_nil] at hnext
              exact hnext
          | true =>
              rw [hbelongs, cond_true, run_concat] at hnext
              exact hnext
      | toJson name =>
          rw [leading, List.append_nil] at hkept
          have hlevel := hstart.level_run hclean.fault hkept
          apply sql_follow_retained_toJson hlevel hclean
          intro next hselect htail
          exact sql_follow_retained_of_ne_update (Level.refl htail.fault) hselect (by decide) htail

end StartsUpdate

theorem Start.startsUpdate_draft {start : Start}
    (hkind : start.draft.statement.kind = .update) : StartsUpdate start.draft := by
  cases start with
  | update table => exact ⟨rfl, rfl, rfl, rfl⟩
  | _ => cases hkind

theorem leading_steps (steps : List Step) : leading (steps.map .step) = steps := by
  induction steps with
  | nil => rfl
  | cons step rest ih => rw [List.map_cons, leading, ih]

theorem map_leading {calls : List Call} (hunwrapped : ∀ name, .toJson name ∉ calls) :
    (leading calls).map .step = calls := by
  induction calls with
  | nil => rfl
  | cons call rest ih =>
      cases call with
      | step step =>
          rw [leading, List.map_cons, ih fun name hmem => hunwrapped name (.tail _ hmem)]
      | toJson name => exact absurd List.mem_cons_self (hunwrapped name)

/-- A chain without faults has the same text, or the same error, without the calls that
do not belong to its kind, except that an UPDATE can lose a stamp to rows that it should
not have.  Unless it is wrapped later, an UPDATE that does so has another text. -/
theorem inert_calls_have_no_effect_unless_stamp_is_lost (start : Start) (calls : List Call)
    (hclean : FaultFree start.draft calls) :
    let kind := start.draft.statement.kind
    let whole := (start.draft.follow calls).bind sql
    let kept := (start.draft.follow (retained kind calls)).bind sql
    (¬ (kind = .update ∧ LosesStamp (leading calls)) → kept = whole) ∧
    ((∀ name, .toJson name ∉ calls) → kind = .update → LosesStamp (leading calls) →
      kept ≠ whole) := by
  dsimp only
  constructor
  · intro hkept
    by_cases hkind : start.draft.statement.kind = .update
    · have hstart := Start.startsUpdate_draft hkind
      have hlost : ¬ LosesStamp (leading calls) := fun hlost => hkept ⟨hkind, hlost⟩
      rw [hkind]
      exact @StartsUpdate.sql_follow_retained _ hstart [] calls hclean hlost
    · exact sql_follow_retained_of_ne_update (Level.refl hclean.fault) rfl hkind hclean
  · intro hunwrapped hkind hlost
    have hstart := Start.startsUpdate_draft hkind
    have hsteps := map_leading hunwrapped
    have hwhole := follow_steps start.draft (leading calls)
    have hkept := retained_steps .update (leading calls)
    rw [hsteps] at hwhole hkept
    rw [hkind, hkept, hwhole, follow_steps]
    exact hstart.sql_run_assigning_ne (hclean _ _ List.prefix_rfl hwhole) hlost

/-- An UPDATE whose stamp comes before its rows, and one whose stamp comes after them. -/
def stampedUpdate (stampFirst : Bool) : List Step :=
  let rows := .values (.single (.ofList [("a", .int 1)]))
  let stamp := .stampFrom (.fixed .epoch)
  [.assign (.raw "a = 1")] ++ if stampFirst then [stamp, rows] else [rows, stamp]

theorem losesStamp_stampedUpdate_iff (stampFirst : Bool) :
    LosesStamp (stampedUpdate stampFirst) ↔ stampFirst = false := by
  cases stampFirst with
  | true =>
      change LosesStamp ([] ++ [.assign _] ++ [.stampFrom _] ++ [.values _]) ↔ _
      rw [losesStamp_concat_iff_of_not_assigned rfl rfl, losesStamp_concat_stampFrom_iff]
      refine iff_of_false ?_ (by decide)
      rintro (⟨hrows, -⟩ | hassigned)
      · cases hrows
      · exact not_losesStamp_concat_assign [] _ hassigned
  | false =>
      change LosesStamp ([.assign _, .values _] ++ [.stampFrom _]) ↔ _
      rw [losesStamp_concat_stampFrom_iff]
      exact iff_of_true (.inl ⟨rfl, rfl⟩) rfl

theorem stamp_is_lost_to_rows_before_it :
    let calls stampFirst := (stampedUpdate stampFirst).map Call.step
    (∀ stampFirst, FaultFree (Start.update "t").draft (calls stampFirst)) ∧
    ((Draft.update "t").follow (retained .update (calls true))).bind sql =
      ((Draft.update "t").follow (calls true)).bind sql ∧
    ((Draft.update "t").follow (retained .update (calls false))).bind sql ≠
      ((Draft.update "t").follow (calls false)).bind sql := by
  intro calls
  have hclean : ∀ stampFirst, FaultFree (Start.update "t").draft (calls stampFirst) := by
    intro stampFirst
    cases stampFirst <;> exact faultFree_steps rfl
  have hloses stampFirst : LosesStamp (leading (calls stampFirst)) ↔ stampFirst = false := by
    rw [leading_steps, losesStamp_stampedUpdate_iff]
  have hfirst := inert_calls_have_no_effect_unless_stamp_is_lost (.update "t") _ (hclean true)
  have hlast := inert_calls_have_no_effect_unless_stamp_is_lost (.update "t") _ (hclean false)
  refine ⟨hclean, hfirst.1 ?_, hlast.2 ?_ rfl ((hloses false).2 rfl)⟩
  · rintro ⟨-, hlost⟩
    exact Bool.noConfusion ((hloses true).1 hlost)
  · intro name hmem
    simp [calls] at hmem

theorem exists_update_that_differs_without_its_rows :
    ¬ ∀ (start : Start) (calls : List Call), FaultFree start.draft calls →
      (start.draft.follow (retained start.draft.statement.kind calls)).bind sql =
        (start.draft.follow calls).bind sql := by
  intro hall
  have hclean : ((Draft.update "t").run (stampedUpdate false)).fault = none := rfl
  have hsame := hall (.update "t") _ (faultFree_steps hclean)
  change ((Draft.update "t").follow (retained .update _)).bind sql =
    ((Draft.update "t").follow _).bind sql at hsame
  rw [retained_steps, follow_steps, follow_steps] at hsame
  have hloses := (losesStamp_stampedUpdate_iff false).2 rfl
  exact StartsUpdate.sql_run_assigning_ne ⟨rfl, rfl, rfl, rfl⟩ hclean hloses hsame

end Draft

end SqlBuilder
