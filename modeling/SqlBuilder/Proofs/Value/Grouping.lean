import Mathlib.Logic.Relation
import SqlBuilder.Proofs.Value.Structure

/-!
Grouping the items of lists.  Items that stand next to each other can be put into a
list of their own, at any depth, and taken out of it again.  Two values can be turned
into each other in this way exactly if they have the same leaves, and then they have
the same literal: that of the leaves one after another.
-/

namespace SqlBuilder.Value

/-- The second value is the first one in a list, or it has a list in the place of some
items of a list of the first one. -/
inductive Groups : Value → Value → Prop
  | single (value : Value) : Groups value (list [value])
  | neighbours {before items after : List Value} (hne : items ≠ []) :
      Groups (list (before ++ items ++ after)) (list (before ++ list items :: after))
  | item {before after : List Value} {value grouped : Value} (hgroups : Groups value grouped) :
      Groups (list (before ++ value :: after)) (list (before ++ grouped :: after))

/-- The values have the same items in different groups. -/
abbrev Regrouped : Value → Value → Prop := Relation.EqvGen Groups

theorem leaves_list_append_cons (before after : List Value) (value : Value) :
    (list (before ++ value :: after)).leaves =
      before.flatMap leaves ++ (value.leaves ++ after.flatMap leaves) := by
  rw [leaves_list (by simp), List.flatMap_append, List.flatMap_cons]

/-- Putting items into a list of their own keeps the leaves. -/
theorem Groups.leaves_eq {value grouped : Value} (hgroups : Groups value grouped) :
    value.leaves = grouped.leaves := by
  induction hgroups with
  | single value => rw [leaves_list (List.cons_ne_nil value []), List.flatMap_singleton]
  | @neighbours before items after hne =>
      rw [leaves_list_append_cons, leaves_list hne, leaves_list (by simp [hne]),
        List.flatMap_append, List.flatMap_append, List.append_assoc]
  | item _ ih => rw [leaves_list_append_cons, leaves_list_append_cons, ih]

namespace Regrouped

variable {value other : Value}

theorem leaves_eq (hregrouped : Regrouped value other) : value.leaves = other.leaves := by
  induction hregrouped with
  | rel value other hgroups => exact hgroups.leaves_eq
  | refl value => rfl
  | symm value other _ ih => exact ih.symm
  | trans value between other _ _ ihfirst ihsecond => exact ihfirst.trans ihsecond

theorem item (hregrouped : Regrouped value other) (before after : List Value) :
    Regrouped (list (before ++ value :: after)) (list (before ++ other :: after)) := by
  induction hregrouped with
  | rel value other hgroups => exact .rel _ _ (.item hgroups)
  | refl value => exact .refl _
  | symm value other _ ih => exact .symm _ _ ih
  | trans value between other _ _ ihfirst ihsecond => exact .trans _ _ _ ihfirst ihsecond

end Regrouped

/-- One item after another is taken apart into its leaves. -/
theorem regrouped_list_flatMap_leaves {items : List Value}
    (hitems : ∀ item ∈ items, Regrouped item (list item.leaves)) (before : List Value) :
    Regrouped (list (before ++ items)) (list (before ++ items.flatMap leaves)) := by
  induction items generalizing before with
  | nil => exact .refl _
  | cons item items ih =>
      have hitem : Regrouped (list (before ++ item :: items))
          (list (before ++ list item.leaves :: items)) :=
        (hitems item List.mem_cons_self).item before items
      have hopened : Regrouped (list (before ++ list item.leaves :: items))
          (list (before ++ item.leaves ++ items)) :=
        .symm _ _ (.rel _ _ (.neighbours item.leaves_ne_nil))
      have hrest : Regrouped (list (before ++ item.leaves ++ items))
          (list (before ++ item.leaves ++ items.flatMap leaves)) :=
        ih (fun other hmem => hitems other (List.mem_cons_of_mem item hmem)) _
      rw [List.flatMap_cons, ← List.append_assoc]
      exact .trans _ _ _ hitem (.trans _ _ _ hopened hrest)

/-- Every value can be regrouped into the list of its leaves. -/
theorem regrouped_list_leaves (value : Value) : Regrouped value (list value.leaves) := by
  induction value with
  | list items ih =>
      by_cases hne : items = []
      · subst hne
        exact .rel _ _ (.single _)
      · rw [leaves_list hne]
        exact regrouped_list_flatMap_leaves ih []
  | _ => exact .rel _ _ (.single _)

theorem regrouped_iff {value other : Value} :
    Regrouped value other ↔ value.leaves = other.leaves := by
  refine ⟨Regrouped.leaves_eq, fun hsame => ?_⟩
  have hother := other.regrouped_list_leaves
  rw [← hsame] at hother
  exact .trans _ _ _ value.regrouped_list_leaves (.symm _ _ hother)

theorem eq_nil_of_list_mem_leaves {value : Value} {items : List Value}
    (hleaf : list items ∈ value.leaves) : items = [] := by
  cases items with
  | nil => rfl
  | cons item items => exact absurd rfl (ne_list_cons_of_mem_leaves hleaf item items)

/-- A literal is that of the leaves from left to right: one separator stands before
each leaf but the first, and no leaf is empty text.  As every grouping of the items has
the same leaves, it has the same literal. -/
theorem literal_is_flat_under_every_grouping (value : Value) :
    value.literal = Text.joined ", " (value.leaves.map literal) ∧
    (∃ first others, value.leaves = first :: others ∧
      value.literal = first.literal ++ others.flatMap fun leaf => ", ".toList ++ leaf.literal) ∧
    (∀ leaf ∈ value.leaves, leaf.literal ≠ [] ∧
      ∀ items, leaf = list items → items = [] ∧ leaf.literal = "NULL") ∧
    Regrouped value (list value.leaves) ∧
    ∀ other, Regrouped value other → other.literal = value.literal := by
  refine ⟨value.literal_eq_joined_leaves, ?_, ?_, value.regrouped_list_leaves, ?_⟩
  · obtain ⟨first, others, hleaves⟩ := List.exists_cons_of_ne_nil value.leaves_ne_nil
    refine ⟨first, others, hleaves, ?_⟩
    rw [literal_eq_joined_leaves, hleaves, List.map_cons, Text.joined_cons, List.flatMap_map]
  · intro leaf hleaf
    refine ⟨leaf.literal_ne_nil, ?_⟩
    rintro items rfl
    obtain rfl := eq_nil_of_list_mem_leaves hleaf
    exact ⟨rfl, by rw [literal]⟩
  · intro other hregrouped
    rw [literal_eq_joined_leaves, literal_eq_joined_leaves value, hregrouped.leaves_eq]

/-- A list with groups of different depths. -/
def mixedGroups : Value := list [list [int 1, list []], list [list [text "a, b"]], null]

theorem mixed_groups_have_literal_of_other_groups :
    Regrouped mixedGroups (list [int 1, list [list [], text "a, b"], null]) ∧
      (list [int 1, list [list [], text "a, b"], null]).literal = mixedGroups.literal ∧
      list [] ∈ mixedGroups.leaves ∧ (list []).literal = "NULL" := by
  obtain ⟨-, -, hleaves, -, hgroupings⟩ := literal_is_flat_under_every_grouping mixedGroups
  have hregrouped : Regrouped mixedGroups (list [int 1, list [list [], text "a, b"], null]) :=
    regrouped_iff.2 rfl
  have hempty : list [] ∈ mixedGroups.leaves := by simp [mixedGroups, leaves, itemLeaves]
  exact ⟨hregrouped, hgroupings _ hregrouped, hempty, ((hleaves _ hempty).2 [] rfl).2⟩

end SqlBuilder.Value
