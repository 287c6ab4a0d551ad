import SqlBuilder.Text.Basic

/-!
Whole numbers in decimal digits, and the values of hexadecimal digits.
-/

namespace SqlBuilder.Text

/-- The decimal digits of a number, without leading zeros. -/
def ofNat (n : Nat) : Text := Nat.toDigits 10 n

/-- The decimal digits of a number, preceded by `-` when it is negative. -/
def ofInt : Int → Text
  | .ofNat n => ofNat n
  | .negSucc n => '-' :: ofNat (n + 1)

/-- The digits of a number with zeros in front, up to `width` characters. -/
def zeroPadded (width n : Nat) : Text :=
  List.replicate (width - (ofNat n).length) '0' ++ ofNat n

/-- The number that a non-empty text of decimal digits denotes. -/
def toNat? (text : Text) : Option Nat :=
  if text ≠ [] ∧ text.all Char.isDigit then some (Nat.ofDigitChars 10 text 0) else none

theorem ofNat_ne_nil (n : Nat) : ofNat n ≠ [] := Nat.toDigits_ne_nil

theorem isDigit_of_mem_ofNat {n : Nat} {c : Char} (member : c ∈ ofNat n) :
    c.isDigit = true :=
  Nat.isDigit_of_mem_toDigits (by decide) (by decide) member

theorem toNat?_ofNat (n : Nat) : toNat? (ofNat n) = some n := by
  have digits : (ofNat n).all Char.isDigit = true :=
    List.all_eq_true.2 fun c member => isDigit_of_mem_ofNat member
  rw [toNat?, if_pos ⟨ofNat_ne_nil n, digits⟩]
  exact congrArg some (Nat.ofDigitChars_toDigits (by decide) (by decide))

theorem ofNat_injective {m n : Nat} (same : ofNat m = ofNat n) : m = n := by
  have read := congrArg toNat? same
  rw [toNat?_ofNat, toNat?_ofNat] at read
  exact Option.some.inj read

/-- What a hexadecimal digit of either case stands for. -/
def hexValue? (c : Char) : Option Nat :=
  let code := c.toNat
  if 0x30 ≤ code ∧ code ≤ 0x39 then some (code - 0x30)
  else if 0x61 ≤ code ∧ code ≤ 0x66 then some (code - 0x57)
  else if 0x41 ≤ code ∧ code ≤ 0x46 then some (code - 0x37)
  else none

/-- The number that hexadecimal digits stand for. -/
def ofHex? (digits : Text) : Option Nat :=
  (digits.mapM hexValue?).map fun values =>
    values.foldl (fun number value => 16 * number + value) 0

example : ofHex? "7fF" = some 0x7ff := by decide
example : ofInt (-305) = "-305" := by decide
example : zeroPadded 4 42 = "0042" := by decide

end SqlBuilder.Text
