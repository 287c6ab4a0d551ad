import Mathlib.Data.List.Basic
import SqlBuilder.Text.Case

/-!
Characters that fold to an ASCII letter.  Beyond ASCII only the long s and the kelvin sign
do so; all other characters there fold to characters beyond ASCII.
-/

namespace SqlBuilder.Text

theorem forall_ascii {P : Char → Prop} (hascii : ∀ n < 0x80, P (Char.ofNat n)) {c : Char}
    (hc : c.toNat < 0x80) : P c := by
  have hcode := hascii c.toNat hc
  rwa [Char.ofNat_toNat] at hcode

theorem toLower_of_not_capital {c : Char} (hc : ¬ (0x41 ≤ c.toNat ∧ c.toNat ≤ 0x5A)) :
    c.toLower = c := by
  have hletter : ¬ (c.val ≥ 'A'.val ∧ c.val ≤ 'Z'.val) := fun h => hc ⟨h.1, h.2⟩
  exact dif_neg hletter

theorem toLower_of_not_ascii {c : Char} (hc : 0x80 ≤ c.toNat) : c.toLower = c :=
  toLower_of_not_capital (by omega)

namespace CaseRange

/-- A character that is not its own image lies in one of the ranges. -/
theorem exists_mapped_eq (ranges : List CaseRange) (c : Char) :
    mapped ranges c = c ∨
      ∃ range ∈ ranges, range.first ≤ c.toNat ∧ c.toNat ≤ range.last ∧
        mapped ranges c = Char.ofNat (range.image + (c.toNat - range.first)) := by
  rw [mapped]
  cases hfound : ranges.findSome? fun range => range.image? c.toNat with
  | none => exact .inl rfl
  | some code =>
      obtain ⟨range, hmem, himage⟩ := List.exists_of_findSome?_eq_some hfound
      rw [image?] at himage
      split at himage
      · next hrange =>
          rw [Option.some.injEq] at himage
          exact .inr ⟨range, hmem, hrange.1, hrange.2.1, himage ▸ rfl⟩
      · cases himage

/-- In ASCII the capitals alone have images, and beyond it the long s and the kelvin sign
alone have images in ASCII. -/
theorem folding_apart :
    ∀ range ∈ Folding.all, range = ⟨0x41, 0x5A, 1, 0x61⟩ ∨
      range = ⟨0x17F, 0x17F, 1, 0x73⟩ ∨ range = ⟨0x212A, 0x212A, 1, 0x6B⟩ ∨
      0x80 ≤ range.first ∧ 0x80 ≤ range.image ∧
        (range.image + (range.last - range.first) < 0xD800 ∨
          0xE000 ≤ range.image ∧ range.image + (range.last - range.first) < 0x110000) := by
  decide +kernel

end CaseRange

theorem toNat_ofNat {code : Nat} (hvalid : code.isValidChar) : (Char.ofNat code).toNat = code := by
  rw [Char.ofNat, dif_pos hvalid]
  rfl

theorem folded_capital {c : Char} (hfirst : 0x41 ≤ c.toNat) (hlast : c.toNat ≤ 0x5A) :
    folded c = c.toLower :=
  forall_ascii (P := fun c => 0x41 ≤ c.toNat → c.toNat ≤ 0x5A → folded c = c.toLower)
    (by decide +kernel) (by omega) hfirst hlast

theorem folded_ascii {c : Char} (hc : c.toNat < 0x80) : folded c = c.toLower := by
  by_cases hcapital : 0x41 ≤ c.toNat ∧ c.toNat ≤ 0x5A
  · exact folded_capital hcapital.1 hcapital.2
  · rw [toLower_of_not_capital hcapital]
    rcases CaseRange.exists_mapped_eq CaseRange.Folding.all c with hsame | hrange
    · exact hsame
    · obtain ⟨range, hmem, hfirst, hlast, -⟩ := hrange
      rcases CaseRange.folding_apart range hmem with rfl | rfl | rfl | ⟨hbeyond, -⟩
      · exact absurd ⟨hfirst, hlast⟩ hcapital
      · exact absurd (Nat.lt_of_le_of_lt hfirst hc) (by decide)
      · exact absurd (Nat.lt_of_le_of_lt hfirst hc) (by decide)
      · omega

/-- Beyond ASCII only the long s and the Kelvin sign are folded to a letter of ASCII. -/
theorem folded_not_ascii {c : Char} (hc : 0x80 ≤ c.toNat) :
    c = 'ſ' ∧ folded c = 's' ∨ c = '\u212a' ∧ folded c = 'k' ∨ 0x80 ≤ (folded c).toNat := by
  rcases CaseRange.exists_mapped_eq CaseRange.Folding.all c with hsame | hrange
  · rw [folded, hsame]
    exact .inr (.inr hc)
  · obtain ⟨range, hmem, hfirst, hlast, himage⟩ := hrange
    rw [← folded] at himage
    have hcode : ∀ code : Nat, code ≤ c.toNat → c.toNat ≤ code → c = Char.ofNat code := by
      intro code hle hge
      rw [Nat.le_antisymm hle hge, Char.ofNat_toNat]
    rcases CaseRange.folding_apart range hmem with rfl | rfl | rfl | ⟨-, hpos, hvalid⟩
    · exact absurd (Nat.le_trans hc hlast) (by decide)
    · have heq : c = 'ſ' := hcode 0x17F hfirst hlast
      exact .inl ⟨heq, by rw [heq] at himage ⊢; exact himage⟩
    · have heq : c = '\u212a' := hcode 0x212A hfirst hlast
      exact .inr (.inl ⟨heq, by rw [heq] at himage ⊢; exact himage⟩)
    · have hchar : (range.image + (c.toNat - range.first)).isValidChar := by
        rw [Nat.isValidChar]
        omega
      rw [himage, toNat_ofNat hchar]
      exact .inr (.inr (by omega))

end SqlBuilder.Text
