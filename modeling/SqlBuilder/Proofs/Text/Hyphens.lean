import Mathlib.Data.List.Chain
import SqlBuilder.Proofs.Text.Joined
import SqlBuilder.Proofs.Text.Search

/-!
Hyphens in texts.  Two hyphens in a row open a line comment.  Texts that contain
no such pair, and do not end in a hyphen either, can be put one after another
without a pair coming about.
-/

namespace SqlBuilder.Text

def NotBothHyphens (first second : Char) : Prop := ¬ (first = '-' ∧ second = '-')

/-- No two hyphens stand next to each other. -/
abbrev HyphensApart (text : Text) : Prop := text.IsChain NotBothHyphens

theorem not_contains_hyphens_iff {text : Text} :
    contains "--" text = false ↔ HyphensApart text := by
  rw [not_contains_iff, HyphensApart, List.isChain_iff_forall_rel_of_append_cons_cons]
  constructor
  · rintro hinside a b before rest rfl ⟨rfl, rfl⟩
    exact hinside ⟨before, rest, by simp⟩
  · rintro hapart ⟨before, rest, hsplit⟩
    have hpair : text = before ++ '-' :: '-' :: rest := by
      rw [← hsplit]
      simp
    exact hapart hpair ⟨rfl, rfl⟩

theorem hyphensApart_of_not_mem {text : Text} (hmem : '-' ∉ text) : HyphensApart text := by
  rw [HyphensApart, List.isChain_iff_forall_rel_of_append_cons_cons]
  rintro a b before rest rfl ⟨rfl, -⟩
  exact hmem (by simp)

/-- A text that is not empty, holds no two hyphens in a row and does not end in a hyphen. -/
structure Settled (text : Text) : Prop where
  ne_nil : text ≠ []
  apart : HyphensApart text
  last : '-' ∉ text.getLast?

theorem settled_of_not_mem {text : Text} (hne : text ≠ []) (hmem : '-' ∉ text) :
    Settled text where
  ne_nil := hne
  apart := hyphensApart_of_not_mem hmem
  last := fun hlast => hmem (List.mem_of_getLast? hlast)

theorem settled_hyphen_cons {text : Text} (hne : text ≠ []) (hmem : '-' ∉ text) :
    Settled ('-' :: text) where
  ne_nil := List.cons_ne_nil _ _
  apart := by
    rw [HyphensApart, List.isChain_cons]
    refine ⟨?_, hyphensApart_of_not_mem hmem⟩
    rintro c hc ⟨-, rfl⟩
    exact hmem (List.mem_of_mem_head? hc)
  last := by
    obtain ⟨c, rest, rfl⟩ := List.exists_cons_of_ne_nil hne
    rw [List.getLast?_cons_cons]
    exact fun hlast => hmem (List.mem_of_getLast? hlast)

theorem Settled.append {first second : Text} (hfirst : Settled first)
    (hsecond : Settled second) : Settled (first ++ second) where
  ne_nil := List.append_ne_nil_of_left_ne_nil hfirst.ne_nil second
  apart := by
    refine hfirst.apart.append hsecond.apart ?_
    rintro a ha b - ⟨rfl, -⟩
    exact hfirst.last ha
  last := by
    rw [List.getLast?_append_of_ne_nil first hsecond.ne_nil]
    exact hsecond.last

theorem Settled.joined {separator : Text} (hseparator : Settled separator) {items : List Text}
    (hne : items ≠ []) (hitems : ∀ item ∈ items, Settled item) :
    Settled (joined separator items) := by
  obtain ⟨first, rest, rfl⟩ := List.exists_cons_of_ne_nil hne
  clear hne
  induction rest generalizing first with
  | nil =>
      rw [joined_singleton]
      exact hitems first List.mem_cons_self
  | cons second rest ih =>
      rw [joined_cons_cons]
      have hrest := ih second fun item hmem => hitems item (List.mem_cons_of_mem first hmem)
      exact ((hitems first List.mem_cons_self).append hseparator).append hrest

end SqlBuilder.Text
