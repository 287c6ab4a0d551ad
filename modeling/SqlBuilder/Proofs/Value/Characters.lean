import SqlBuilder.Value.Basic

/-!
The characters of the texts of numbers and instants.  They are digits and a few
signs and letters, so that no NUL, no quote and no dollar sign is among them.
-/

namespace SqlBuilder

/-- Whether the character can stand in the text of a number or of an instant. -/
def isPlainChar (c : Char) : Bool := c.isDigit || "-+ :.UTCNaNinf".toList.contains c

theorem isPlainChar_of_isDigit {c : Char} (hdigit : c.isDigit = true) :
    isPlainChar c = true := by
  rw [isPlainChar, hdigit, Bool.true_or]

theorem not_mem_of_all_isPlainChar {text : Text} {c : Char}
    (hall : text.all isPlainChar = true) (hc : isPlainChar c = false) : c ∉ text := by
  intro hmem
  rw [List.all_eq_true.1 hall c hmem] at hc
  exact absurd hc (by decide)

theorem Text.all_isPlainChar_ofNat (n : Nat) : (Text.ofNat n).all isPlainChar = true :=
  List.all_eq_true.2 fun _ hmem => isPlainChar_of_isDigit (Text.isDigit_of_mem_ofNat hmem)

theorem Text.all_isPlainChar_ofInt (n : Int) : (Text.ofInt n).all isPlainChar = true := by
  cases n with
  | ofNat m => exact Text.all_isPlainChar_ofNat m
  | negSucc m =>
      rw [Text.ofInt, List.all_cons, Text.all_isPlainChar_ofNat, Bool.and_true]
      decide

theorem Text.all_isPlainChar_replicate_zero (n : Nat) :
    (List.replicate n '0').all isPlainChar = true := by
  rw [List.all_eq_true]
  intro c hmem
  rw [(List.mem_replicate.1 hmem).2]
  decide

theorem Text.all_isPlainChar_zeroPadded (width n : Nat) :
    (Text.zeroPadded width n).all isPlainChar = true := by
  rw [Text.zeroPadded, List.all_append, Text.all_isPlainChar_replicate_zero,
    Text.all_isPlainChar_ofNat, Bool.and_true]

namespace Decimal

theorem all_isPlainChar_positional {digits : Text} (hdigits : digits.all isPlainChar = true)
    (exponent : Int) : (positional digits exponent).all isPlainChar = true := by
  have hpart : ∀ part : Text, part ⊆ digits → part.all isPlainChar = true := by
    intro part hsubset
    rw [List.all_eq_true] at hdigits ⊢
    exact fun c hmem => hdigits c (hsubset hmem)
  have hpoint : ".".toList.all isPlainChar = true := by decide
  have hzero : "0.".toList.all isPlainChar = true := by decide
  rw [positional]
  split
  · rw [List.all_append, hdigits, Text.all_isPlainChar_replicate_zero, Bool.and_true]
  · split
    · rw [List.all_append, List.all_append, hpart _ (List.take_subset _ _), hpoint,
        hpart _ (List.drop_subset _ _), Bool.and_true, Bool.and_true]
    · rw [List.all_append, List.all_append, hzero, Text.all_isPlainChar_replicate_zero,
        hdigits, Bool.and_true, Bool.and_true]

theorem all_isPlainChar_text (d : Decimal) : d.text.all isPlainChar = true := by
  apply all_isPlainChar_positional
  have hdigits := List.all_eq_true.1 (Text.all_isPlainChar_ofNat d.digits)
  rw [List.all_eq_true]
  intro c hmem
  have hkept : c ∈ (Text.ofNat d.digits).reverse :=
    (List.dropWhile_suffix _).mem (List.mem_reverse.1 hmem)
  exact hdigits c (List.mem_reverse.1 hkept)

end Decimal

/-- The text of a double has no quote, no comma and no parenthesis in it. -/
theorem Binary64.all_isPlainChar_text (x : Binary64) : x.text.all isPlainChar = true := by
  have hsign : (if x.isNegative then "-".toList else "".toList).all isPlainChar = true := by
    split <;> decide
  have hwords : "NaN".toList.all isPlainChar = true ∧ "inf".toList.all isPlainChar = true ∧
      "0".toList.all isPlainChar = true := by decide
  simp only [Binary64.text]
  split
  · exact hwords.1
  · rw [List.all_append, hsign, hwords.2.1, Bool.and_true]
  · rw [List.all_append, hsign, hwords.2.2, Bool.and_true]
  · rw [List.all_append, hsign, Decimal.all_isPlainChar_text, Bool.and_true]

namespace Instant

theorem all_isPlainChar_yearText (year : Int) : (yearText year).all isPlainChar = true := by
  have hsigns : "-".toList.all isPlainChar = true ∧ "+".toList.all isPlainChar = true := by
    decide
  rw [yearText]
  split
  · rw [List.all_append, hsigns.1, Text.all_isPlainChar_zeroPadded, Bool.and_true]
  · split
    · exact Text.all_isPlainChar_zeroPadded _ _
    · rw [List.all_append, hsigns.2, Text.all_isPlainChar_zeroPadded, Bool.and_true]

theorem all_isPlainChar_fractionText (nanos : Nat) :
    (fractionText nanos).all isPlainChar = true := by
  have hpart : ∀ width n, (".".toList ++ Text.zeroPadded width n).all isPlainChar = true := by
    intro width n
    rw [List.all_append, Text.all_isPlainChar_zeroPadded, Bool.and_true]
    decide
  rw [fractionText]
  split
  · rfl
  · split
    · exact hpart _ _
    · split <;> exact hpart _ _

theorem all_isPlainChar_text (instant : Instant) : instant.text.all isPlainChar = true := by
  simp only [text, dateText, List.all_append, all_isPlainChar_yearText,
    Text.all_isPlainChar_zeroPadded, all_isPlainChar_fractionText, Bool.true_and,
    Bool.and_true]
  decide

end Instant

end SqlBuilder
