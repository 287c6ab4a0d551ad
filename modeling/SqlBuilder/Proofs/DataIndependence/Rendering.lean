import SqlBuilder.Proofs.DataIndependence.Inputs
import SqlBuilder.Proofs.DataIndependence.Statement
import SqlBuilder.Proofs.Value.Structure

/-!
Rendering of alike inputs.  The texts of alike values, sources, conditions, joins,
rows and assignments are parallel, as long as the statements nested in them are.
-/

namespace SqlBuilder

namespace Runs

variable {ι : Type} {runs : Runs ι} {nested : Statement → Statement → Prop}
variable (hnested : ∀ inner another, nested inner another → runs.ParallelStatement inner another)
include hnested

/-- The literals of alike values differ in the contents of payloads only. -/
theorem AlikeValue.parallel_literal {first second : Value}
    (halike : AlikeValue runs nested first second) :
    runs.Parallel first.literal second.literal := by
  induction halike with
  | same value => exact parallel_refl _
  | text place => exact parallel_quote place
  | query h => exact (hnested _ _ h).parallel_sql
  | @list items others hlength _ ih =>
      have hitems : List.Forall₂ (fun item other => runs.Parallel item.literal other.literal)
          items others := List.forall₂_iff_zip.2 ⟨hlength, ih⟩
      have hliterals : runs.ParallelList (items.map Value.literal) (others.map Value.literal) :=
        List.forall₂_map_left_iff.2 (List.forall₂_map_right_iff.2 hitems)
      cases hitems with
      | nil => exact parallel_refl _
      | cons _ _ =>
          rw [Value.literal_list (List.cons_ne_nil _ _), Value.literal_list (List.cons_ne_nil _ _)]
          exact hliterals.joined ", "

theorem parallelList_literals {first second : List Value}
    (halike : List.Forall₂ (AlikeValue runs nested) first second) :
    runs.ParallelList (first.map Value.literal) (second.map Value.literal) :=
  List.rel_map (fun _ _ h => h.parallel_literal hnested) halike

theorem AlikeSource.parallel_asTable {first second : Source}
    (halike : AlikeSource nested first second) :
    runs.Parallel first.asTable second.asTable := by
  cases halike with
  | same source => exact parallel_refl _
  | query h => exact (hnested _ _ h).parallel_nested

theorem AlikeSource.parallel_asExpression {first second : Source}
    (halike : AlikeSource nested first second) :
    runs.Parallel first.asExpression second.asExpression := by
  cases halike with
  | same source => exact parallel_refl _
  | query h => exact (hnested _ _ h).parallel_nested

theorem parallelList_expressions {first second : List Source}
    (halike : List.Forall₂ (AlikeSource nested) first second) :
    runs.ParallelList (first.map Source.asExpression) (second.map Source.asExpression) :=
  List.rel_map (fun _ _ h => h.parallel_asExpression hnested) halike

omit hnested in
/-- A name that one side binds is bound to an alike value by the other. -/
theorem rel_lookup {entries others : List (Text × Value)}
    (halike : List.Forall₂ (AlikeEntry runs nested) entries others) (name : Text) :
    Option.Rel (AlikeValue runs nested) (entries.lookup name) (others.lookup name) := by
  induction halike with
  | nil => exact .none
  | @cons entry other rest others hentry _ ih =>
      obtain ⟨bound, value⟩ := entry
      obtain ⟨_, another⟩ := other
      obtain ⟨rfl, hvalue⟩ := hentry
      rw [List.lookup_cons, List.lookup_cons]
      dsimp only
      cases name == bound with
      | true => exact .some hvalue
      | false => exact ih

omit hnested in
theorem AlikeBindings.names_eq {first second : Bindings}
    (halike : AlikeBindings runs nested first second) : first.names = second.names :=
  List.forall₂_eq_eq_eq ▸ List.rel_map (fun _ _ hentry => hentry.name) halike

omit hnested in
theorem AlikeBindings.alike_values {first second : Bindings}
    (halike : AlikeBindings runs nested first second) :
    List.Forall₂ (AlikeValue runs nested) first.values second.values :=
  List.rel_map (fun _ _ hentry => hentry.value) halike

/-- The template itself says where its placeholders are, so that filling it in with alike
bindings gives parallel texts. -/
theorem AlikeBindings.parallel_interpolate {first second : Bindings}
    (halike : AlikeBindings runs nested first second) (template : Text) :
    runs.Parallel (Template.interpolate template first)
      (Template.interpolate template second) := by
  apply parallel_flatMap (List.forall₂_same.2 fun piece _ => rfl)
  intro piece _ hsame
  subst hsame
  cases piece with
  | plain c => exact parallel_refl [c]
  | placeholder name =>
      have hbound : Option.Rel (AlikeValue runs nested) (first.get? name) (second.get? name) :=
        rel_lookup halike name
      rw [Template.Piece.text, Template.Piece.text]
      generalize first.get? name = value at hbound
      generalize second.get? name = other at hbound
      cases hbound with
      | none => exact parallel_refl _
      | some hvalue => exact hvalue.parallel_literal hnested

theorem AlikeCondition.parallel_text {first second : Condition}
    (halike : AlikeCondition runs nested first second) :
    runs.Parallel first.text second.text := by
  cases halike with
  | template sql hbindings => exact hbindings.parallel_interpolate hnested sql
  | @columns first second hbindings =>
      have hparts : runs.ParallelList (first.entries.map Condition.membership)
          (second.entries.map Condition.membership) := by
        refine List.rel_map (fun entry other hentry => ?_) hbindings
        rw [Condition.membership, Condition.membership, hentry.name]
        exact (parallel_refl _).append (hentry.value.parallel_literal hnested).parenthesized
      exact hparts.joined " AND "

/-- A condition is dropped for its being empty, which its payloads do not decide. -/
theorem parallelList_conditionTexts {first second : List Condition}
    (halike : List.Forall₂ (AlikeCondition runs nested) first second) :
    runs.ParallelList (Condition.texts first) (Condition.texts second) := by
  have htexts : runs.ParallelList (first.map Condition.text) (second.map Condition.text) :=
    List.rel_map (fun _ _ h => h.parallel_text hnested) halike
  refine List.rel_filter (fun text other h => ?_) htexts
  change (!text.isEmpty) = true ↔ (!other.isEmpty) = true
  rw [h.isEmpty_eq]

theorem AlikeJoin.parallel_rendered {first second : Join}
    (halike : AlikeJoin runs nested first second) :
    runs.ParallelJoin first.rendered second.rendered where
  source := halike.source.parallel_asExpression hnested
  condition := by
    rw [Join.rendered, Join.rendered, halike.template]
    exact halike.bindings.parallel_interpolate hnested second.template

theorem parallelJoins_rendered {first second : List Join}
    (halike : List.Forall₂ (AlikeJoin runs nested) first second) :
    List.Forall₂ runs.ParallelJoin (first.map Join.rendered) (second.map Join.rendered) :=
  List.rel_map (fun _ _ h => h.parallel_rendered hnested) halike

theorem AlikeAssignments.parallel_text {first second : Assignments}
    (halike : AlikeAssignments runs nested first second) :
    runs.Parallel first.text second.text := by
  cases halike with
  | raw sql => exact parallel_refl sql
  | @columns first second hbindings =>
      have hparts : runs.ParallelList (first.entries.map Assignments.assignment)
          (second.entries.map Assignments.assignment) := by
        refine List.rel_map (fun entry other hentry => ?_) hbindings
        rw [Assignments.assignment, Assignments.assignment, hentry.name]
        exact (parallel_refl _).append (hentry.value.parallel_literal hnested)
      exact hparts.joined ", "

end Runs

end SqlBuilder
