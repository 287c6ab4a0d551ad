import Mathlib.Data.List.Forall2
import Mathlib.Data.List.Sort

/-!
Pairs of computations on related inputs: both fail with the same error, or both
succeed with related results.  Searching and sorting related lists by what the
relation preserves gives related results.
-/

namespace SqlBuilder

/-- The same error on both sides, or related results. -/
inductive Agree {α β ε : Type} (related : α → β → Prop) : Except ε α → Except ε β → Prop
  | error (reason : ε) : Agree related (.error reason) (.error reason)
  | ok {first : α} {second : β} (hrelated : related first second) :
      Agree related (.ok first) (.ok second)

namespace Agree

variable {α β γ δ ε : Type} {related : α → β → Prop} {other : γ → δ → Prop}
variable {first : Except ε α} {second : Except ε β}

/-- Agreement lasts through what comes next, if that agrees on related results. -/
theorem bind (hagree : Agree related first second) {next : α → Except ε γ}
    {another : β → Except ε δ}
    (hnext : ∀ a b, related a b → Agree other (next a) (another b)) :
    Agree other (first.bind next) (second.bind another) := by
  cases hagree with
  | error reason => exact .error reason
  | ok hrelated => exact hnext _ _ hrelated

theorem map (hagree : Agree related first second) {change : α → γ} {another : β → δ}
    (hchange : ∀ a b, related a b → other (change a) (another b)) :
    Agree other (first.map change) (second.map another) := by
  cases hagree with
  | error reason => exact .error reason
  | ok hrelated => exact .ok (hchange _ _ hrelated)

theorem related_of_eq_ok {a : α} {b : β} (hagree : Agree related first second)
    (hfirst : first = .ok a) (hsecond : second = .ok b) : related a b := by
  subst hfirst hsecond
  cases hagree with
  | ok hrelated => exact hrelated

end Agree

variable {α β : Type} {related : α → β → Prop} {items : List α} {others : List β}

theorem isEmpty_eq_of_forall₂ (hitems : List.Forall₂ related items others) :
    items.isEmpty = others.isEmpty := by
  cases hitems <;> rfl

theorem rel_refl {equivalent : α → α → Prop} (hrefl : ∀ a, equivalent a a)
    (option : Option α) : Option.Rel equivalent option option := by
  cases option with
  | none => exact .none
  | some a => exact .some (hrefl a)

theorem isSome_eq_of_rel {first : Option α} {second : Option β}
    (hrel : Option.Rel related first second) : first.isSome = second.isSome := by
  cases hrel <;> rfl

theorem isNone_eq_of_rel {first : Option α} {second : Option β}
    (hrel : Option.Rel related first second) : first.isNone = second.isNone := by
  cases hrel <;> rfl

theorem forall₂_zipIdx (hitems : List.Forall₂ related items others) (start : Nat) :
    List.Forall₂ (fun a b => related a.1 b.1 ∧ a.2 = b.2) (items.zipIdx start)
      (others.zipIdx start) := by
  induction hitems generalizing start with
  | nil => exact .nil
  | cons hhead _ ih =>
      rw [List.zipIdx_cons, List.zipIdx_cons]
      exact .cons ⟨hhead, rfl⟩ (ih (start + 1))

theorem rel_find? (hitems : List.Forall₂ related items others) (test : α → Bool)
    (another : β → Bool) (htest : ∀ a b, related a b → test a = another b) :
    Option.Rel related (items.find? test) (others.find? another) := by
  induction hitems with
  | nil => exact .none
  | @cons a b rest others hhead _ ih =>
      rw [List.find?_cons, List.find?_cons, htest a b hhead]
      cases another b with
      | true => exact .some hhead
      | false => exact ih

theorem exists_pairs_of_forall₂ (hitems : List.Forall₂ related items others) :
    ∃ pairs : List (α × β), pairs.map Prod.fst = items ∧ pairs.map Prod.snd = others ∧
      ∀ pair ∈ pairs, related pair.1 pair.2 := by
  obtain ⟨hlength, hrelated⟩ := List.forall₂_iff_zip.1 hitems
  exact ⟨items.zip others, List.map_fst_zip hlength.le, List.map_snd_zip hlength.ge,
    fun _ hpair => hrelated hpair⟩

/-- Comparisons that answer alike on related items sort them alike. -/
theorem forall₂_mergeSort (hitems : List.Forall₂ related items others) {le : α → α → Bool}
    {another : β → β → Bool}
    (hle : ∀ a b c d, related a c → related b d → le a b = another c d) :
    List.Forall₂ related (items.mergeSort le) (others.mergeSort another) := by
  obtain ⟨pairs, rfl, rfl, hrelated⟩ := exists_pairs_of_forall₂ hitems
  -- Either list is sorted as the list of pairs is by its first components.
  have hfirst : (pairs.mergeSort fun a b => le a.1 b.1).map Prod.fst =
      (pairs.map Prod.fst).mergeSort le := List.map_mergeSort fun _ _ _ _ => rfl
  have hsecond : (pairs.mergeSort fun a b => le a.1 b.1).map Prod.snd =
      (pairs.map Prod.snd).mergeSort another :=
    List.map_mergeSort fun a ha b hb => hle _ _ _ _ (hrelated a ha) (hrelated b hb)
  rw [← hfirst, ← hsecond, List.forall₂_map_left_iff, List.forall₂_map_right_iff,
    List.forall₂_same]
  intro pair hpair
  exact hrelated pair ((List.mergeSort_perm _ _).mem_iff.1 hpair)

end SqlBuilder
