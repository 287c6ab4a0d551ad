import Mathlib.Data.List.Forall2
import SqlBuilder.Text.Basic

/-!
Texts put together, and texts without their NUL characters.  Every part stands in the
whole.  Joining commutes with the removal of NULs, and when the items of one list are
nowhere longer than those of another one, equal joined texts have equal items.
-/

namespace SqlBuilder.Text

theorem joined_cons (separator first : Text) (rest : List Text) :
    joined separator (first :: rest) = first ++ rest.flatMap (separator ++ ·) := by
  induction rest generalizing first with
  | nil => rw [joined_singleton, List.flatMap_nil, List.append_nil]
  | cons second rest ih =>
      rw [joined_cons_cons, ih, List.flatMap_cons, List.append_assoc, List.append_assoc]

theorem joined_append {first second : List Text} (hfirst : first ≠ []) (hsecond : second ≠ [])
    (separator : Text) :
    joined separator (first ++ second) =
      joined separator first ++ separator ++ joined separator second := by
  obtain ⟨a, before, rfl⟩ := List.exists_cons_of_ne_nil hfirst
  obtain ⟨b, after, rfl⟩ := List.exists_cons_of_ne_nil hsecond
  rw [List.cons_append, joined_cons, joined_cons, joined_cons, List.flatMap_append,
    List.flatMap_cons]
  simp only [List.append_assoc]

/-- Joining joined lists is joining them as one list. -/
theorem joined_map_joined {lists : List (List Text)} (hne : ∀ list ∈ lists, list ≠ [])
    (separator : Text) :
    joined separator (lists.map (joined separator)) = joined separator lists.flatten := by
  induction lists with
  | nil => rfl
  | cons list lists ih =>
      have hlist := hne list List.mem_cons_self
      have hlists := ih fun other hother => hne other (List.mem_cons_of_mem list hother)
      rcases lists with _ | ⟨second, lists⟩
      · simp
      · have hsecond : second ≠ [] := hne second (by simp)
        have hrest : (second :: lists).flatten ≠ [] := by simp [hsecond]
        have hflat : (list :: second :: lists).flatten = list ++ (second :: lists).flatten := rfl
        rw [List.map_cons, List.map_cons, joined_cons_cons, ← List.map_cons, hlists, hflat,
          joined_append hlist hrest]

theorem isPrefix_foldl_append (first : Text) (parts : List Text) :
    first <+: parts.foldl (· ++ ·) first := by
  induction parts generalizing first with
  | nil => exact List.prefix_rfl
  | cons second parts ih => exact (List.prefix_append first second).trans (ih (first ++ second))

theorem isInfix_foldl_append {part first : Text} {parts : List Text}
    (hpart : part <:+: first ∨ part ∈ parts) : part <:+: parts.foldl (· ++ ·) first := by
  induction parts generalizing first with
  | nil => exact hpart.resolve_right List.not_mem_nil
  | cons second parts ih =>
      rw [List.foldl_cons]
      apply ih
      rcases hpart with hfirst | hmem
      · exact .inl (hfirst.trans (List.prefix_append first second).isInfix)
      · rcases List.mem_cons.1 hmem with rfl | hlater
        · exact .inl (List.suffix_append first part).isInfix
        · exact .inr hlater

theorem isInfix_parenthesized (inner : Text) : inner <:+: parenthesized inner :=
  ⟨"(", ")", rfl⟩

/-- Every item stands unchanged in the joined text. -/
theorem isInfix_joined {item : Text} {items : List Text} (hmem : item ∈ items)
    (separator : Text) : item <:+: joined separator items := by
  obtain ⟨before, after, rfl⟩ := List.append_of_mem hmem
  cases before with
  | nil =>
      rw [List.nil_append, joined_cons]
      exact (List.prefix_append item _).isInfix
  | cons first before =>
      have hlater : separator ++ item <:+:
          (before ++ item :: after).flatMap (separator ++ ·) :=
        List.infix_of_mem_flatten (List.mem_map_of_mem (by simp))
      rw [List.cons_append, joined_cons]
      exact ((List.suffix_append separator item).isInfix.trans hlater).trans
        (List.suffix_append first _).isInfix

@[simp] theorem withoutNul_nil : withoutNul [] = [] := rfl

@[simp] theorem withoutNul_append (first second : Text) :
    withoutNul (first ++ second) = withoutNul first ++ withoutNul second :=
  List.filter_append first second

theorem withoutNul_of_not_mem {text : Text} (hnul : '\x00' ∉ text) : withoutNul text = text := by
  rw [withoutNul, List.filter_eq_self]
  intro c hmem
  simp only [ne_eq, decide_not, Bool.not_eq_eq_eq_not, Bool.not_true, decide_eq_false_iff_not]
  exact fun heq => hnul (heq ▸ hmem)

theorem isInfix_withoutNul {needle text : Text} (hnul : '\x00' ∉ needle)
    (hinside : needle <:+: text) : needle <:+: withoutNul text := by
  rw [← withoutNul_of_not_mem hnul]
  exact hinside.filter _

theorem withoutNul_joined {separator : Text} (hnul : '\x00' ∉ separator) (items : List Text) :
    withoutNul (joined separator items) = joined separator (items.map withoutNul) := by
  cases items with
  | nil => rfl
  | cons first rest =>
      have hrest : withoutNul (rest.flatMap (separator ++ ·)) =
          (rest.map withoutNul).flatMap (separator ++ ·) := by
        induction rest with
        | nil => rfl
        | cons second rest ih =>
            simp only [List.flatMap_cons, List.map_cons, withoutNul_append, ih,
              withoutNul_of_not_mem hnul]
      rw [joined_cons, List.map_cons, joined_cons, withoutNul_append, hrest]

/-- Two lists of equally many texts, of which the first has nowhere a longer one. -/
abbrev Shorter (first second : List Text) : Prop :=
  List.Forall₂ (fun a b : Text => a.length ≤ b.length) first second

theorem shorter_map {α : Type} {items : List α} {first second : α → Text}
    (hle : ∀ item ∈ items, (first item).length ≤ (second item).length) :
    Shorter (items.map first) (items.map second) := by
  rw [Shorter, List.forall₂_map_left_iff, List.forall₂_map_right_iff, List.forall₂_same]
  exact hle

theorem Shorter.length_flatMap_le {first second : List Text} (hshorter : Shorter first second)
    (separator : Text) :
    (first.flatMap (separator ++ ·)).length ≤ (second.flatMap (separator ++ ·)).length := by
  induction hshorter with
  | nil => exact Nat.le_refl _
  | cons hhead _ ih =>
      simp only [List.flatMap_cons, List.length_append]
      omega

theorem Shorter.length_joined_le {separator : Text} {first second : List Text}
    (hshorter : Shorter first second) :
    (joined separator first).length ≤ (joined separator second).length := by
  cases hshorter with
  | nil => exact Nat.le_refl _
  | cons hhead htail =>
      have hrest := Shorter.length_flatMap_le htail separator
      simp only [joined_cons, List.length_append]
      omega

theorem Shorter.eq_of_flatMap_eq {separator : Text} {first second : List Text}
    (hshorter : Shorter first second)
    (hsame : first.flatMap (separator ++ ·) = second.flatMap (separator ++ ·)) :
    first = second := by
  induction hshorter with
  | nil => rfl
  | cons hhead htail ih =>
      have hrest := Shorter.length_flatMap_le htail separator
      have hlength := congrArg List.length hsame
      simp only [List.flatMap_cons, List.append_assoc, List.length_append] at hsame hlength
      obtain ⟨hfirst, hothers⟩ := List.append_inj (List.append_cancel_left hsame) (by omega)
      rw [hfirst, ih hothers]

/-- Items that are nowhere longer than their counterparts make the same text only if they
are these. -/
theorem Shorter.eq_of_joined_eq {separator : Text} {first second : List Text}
    (hshorter : Shorter first second)
    (hsame : joined separator first = joined separator second) : first = second := by
  cases hshorter with
  | nil => rfl
  | cons hhead htail =>
      have hrest := Shorter.length_flatMap_le htail separator
      have hlength := congrArg List.length hsame
      simp only [joined_cons, List.length_append] at hsame hlength
      obtain ⟨hfirst, hothers⟩ := List.append_inj hsame (by omega)
      rw [hfirst, Shorter.eq_of_flatMap_eq htail hothers]

end SqlBuilder.Text
