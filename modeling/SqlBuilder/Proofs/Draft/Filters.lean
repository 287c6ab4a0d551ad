import Mathlib.Data.List.Forall2
import SqlBuilder.Proofs.Draft.Entries
import SqlBuilder.Proofs.Value.Structure

/-!
Conditions and the values in them.  Every value has a literal with at least one character,
so a placeholder is never filled with nothing and a list of values is never empty.  Only
an empty template and an empty map make up an empty condition, and all other conditions
that a call gives are kept, whatever values are bound in them.
-/

namespace SqlBuilder

namespace Template

theorem Piece.text_ne_nil (bindings : Bindings) (piece : Piece) : piece.text bindings ≠ [] := by
  cases piece with
  | plain c => exact List.cons_ne_nil c []
  | placeholder name => exact Value.literal_ne_nil _

/-- No placeholder is replaced by the empty text, so only the empty template gives it. -/
theorem interpolate_eq_nil_iff {template : Text} {bindings : Bindings} :
    interpolate template bindings = [] ↔ template = [] := by
  constructor
  · intro hempty
    rw [interpolate, List.flatMap_eq_nil_iff] at hempty
    have hpieces : pieces template = [] :=
      List.eq_nil_iff_forall_not_mem.2 fun piece hmem =>
        piece.text_ne_nil bindings (hempty piece hmem)
    rw [← flatMap_source_pieces template, hpieces, List.flatMap_nil]
  · rintro rfl
    simp [interpolate, pieces]

end Template

namespace Condition

/-- Whether the condition says nothing: its template is the empty text, or its map has
no entry. -/
def isVacuous : Condition → Bool
  | template sql _ => sql.isEmpty
  | columns values => values.isEmpty

/-- The conditions have the same template or name the same columns, with any values. -/
inductive SameShape : Condition → Condition → Prop
  | template (sql : Text) (first second : Bindings) :
      SameShape (.template sql first) (.template sql second)
  | columns {first second : Bindings} (hnames : first.names = second.names) :
      SameShape (.columns first) (.columns second)

theorem membership_ne_nil (entry : Text × Value) : membership entry ≠ [] := by
  simp [membership]

/-- A condition that says something has a text, whatever its values are. -/
theorem text_eq_nil_iff {condition : Condition} :
    condition.text = [] ↔ condition.isVacuous = true := by
  cases condition with
  | template sql bindings =>
      rw [text, Template.interpolate_eq_nil_iff, isVacuous, List.isEmpty_iff]
  | columns values =>
      rw [text, isVacuous, Bindings.isEmpty, List.isEmpty_iff]
      cases values.entries with
      | nil => simp
      | cons entry entries => simp [Text.joined_cons, membership_ne_nil]

theorem SameShape.isVacuous_eq {first second : Condition} (hshape : SameShape first second) :
    first.isVacuous = second.isVacuous := by
  cases hshape with
  | template sql => rfl
  | columns hnames =>
      have hlength := congrArg List.length hnames
      simp only [Bindings.names, List.length_map] at hlength
      rw [isVacuous, isVacuous, Bindings.isEmpty, Bindings.isEmpty, Bool.eq_iff_iff,
        List.isEmpty_iff_length_eq_zero, List.isEmpty_iff_length_eq_zero, hlength]

/-- Exactly the conditions that say something are kept, each of them once. -/
theorem texts_eq (conditions : List Condition) :
    texts conditions = (conditions.filter fun condition => !condition.isVacuous).map text := by
  rw [texts, List.filter_map]
  congr 1
  apply List.filter_congr
  intro condition _
  have hempty : condition.text.isEmpty = condition.isVacuous := by
    rw [Bool.eq_iff_iff, List.isEmpty_iff, text_eq_nil_iff]
  rw [Function.comp_apply, hempty]

theorem length_texts (conditions : List Condition) :
    (texts conditions).length = conditions.countP fun condition => !condition.isVacuous := by
  rw [texts_eq, List.length_map, List.countP_eq_length_filter]

theorem length_texts_eq_of_sameShape {first second : List Condition}
    (hshapes : List.Forall₂ SameShape first second) :
    (texts first).length = (texts second).length := by
  rw [length_texts, length_texts]
  induction hshapes with
  | nil => rfl
  | cons hshape _ ih => rw [List.countP_cons, List.countP_cons, ih, hshape.isVacuous_eq]

end Condition

namespace Draft

open Step

/-- A list of conditions holds the texts of the conditions that its chain has given it and
that say something. -/
theorem conditions_run_eq (start : Start) (steps : List Step) :
    (start.draft.run steps).statement.conditions =
        Condition.texts (entries conditionsEdit (start.opening ++ steps)) ∧
      (start.draft.run steps).statement.having =
        Condition.texts (entries havingEdit (start.opening ++ steps)) := by
  have hheld := holdsEntries_run start.withoutLists_bare (start.opening ++ steps)
  rw [run_append, ← start.draft_eq_run] at hheld
  exact ⟨hheld.conditions, hheld.having⟩

/-- No bound value makes a condition disappear.  The literal of a value is never empty, nor
is what takes the place of a placeholder, so that a condition is empty exactly if its
template or its map is.  A call for WHERE or HAVING keeps one text, which is not empty,
for every other condition, and how many these are does not depend on any value; after a
whole chain there are as many as the calls have given. -/
theorem no_value_makes_a_condition_disappear :
    (∀ value : Value, value.literal ≠ []) ∧
    (∀ bindings (piece : Template.Piece), piece.text bindings ≠ []) ∧
    (∀ condition : Condition, condition.text = [] ↔ condition.isVacuous = true) ∧
    (∀ (draft : Draft) (conditions : List Condition),
      let said := (conditions.filter fun condition => !condition.isVacuous).map Condition.text
      draft.filter conditions =
        ⟨{ draft.statement with conditions := said }, draft.fault⟩ ∧
      draft.filterAlso conditions =
        ⟨{ draft.statement with conditions := draft.statement.conditions ++ said },
          draft.fault⟩ ∧
      draft.having conditions = ⟨{ draft.statement with having := said }, draft.fault⟩ ∧
      draft.havingAlso conditions =
        ⟨{ draft.statement with having := draft.statement.having ++ said }, draft.fault⟩ ∧
      ∀ others, List.Forall₂ Condition.SameShape conditions others →
        (Condition.texts others).length = said.length) ∧
    ∀ (start : Start) (steps : List Step),
      let final := (start.draft.run steps).statement
      final.conditions.length =
          (entries conditionsEdit (start.opening ++ steps)).countP (!·.isVacuous) ∧
        final.having.length =
          (entries havingEdit (start.opening ++ steps)).countP (!·.isVacuous) := by
  refine ⟨Value.literal_ne_nil, Template.Piece.text_ne_nil,
    fun condition => Condition.text_eq_nil_iff, ?_, ?_⟩
  · intro draft conditions said
    have hsaid : Condition.texts conditions = said := Condition.texts_eq conditions
    rw [filter, filterAlso, having, havingAlso, hsaid]
    refine ⟨rfl, rfl, rfl, rfl, fun others hshapes => ?_⟩
    rw [← hsaid, Condition.length_texts_eq_of_sameShape hshapes]
  · intro start steps final
    obtain ⟨hconditions, hhaving⟩ := conditions_run_eq start steps
    exact ⟨by rw [← Condition.length_texts, ← hconditions],
      by rw [← Condition.length_texts, ← hhaving]⟩

/-- An empty list, an empty text and a name that is not bound leave three conditions; an
empty template and an empty map leave none. -/
example :
    ((deleteFrom "t").filter [.template "a IN ($x)" (.ofList [("x", .list [])]),
      .template "$x" (.ofList [("x", .text "")]), .template "$x" .empty, .template "" .empty,
      .columns .empty]).statement.conditions =
      ["a IN (NULL)".toList, "$Q$$Q$".toList, "NULL".toList] := by decide +kernel

end Draft

end SqlBuilder
