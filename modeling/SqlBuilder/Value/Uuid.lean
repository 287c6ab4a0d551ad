import SqlBuilder.Value.Basic

/-!
Universally unique identifiers and their text: thirty-two hexadecimal digits in
lower case, in groups of eight, four, four, four and twelve.
-/

namespace SqlBuilder

/-- A universally unique identifier, given by its bits. -/
structure Uuid where
  bits : BitVec 128
deriving DecidableEq, Repr

namespace Uuid

def digits (uuid : Uuid) : Text :=
  let written := Nat.toDigits 16 uuid.bits.toNat
  List.replicate (32 - written.length) '0' ++ written

def text (uuid : Uuid) : Text :=
  let digits := uuid.digits
  Text.joined "-"
    [digits.take 8, (digits.drop 8).take 4, (digits.drop 12).take 4, (digits.drop 16).take 4,
     digits.drop 20]

/-- The identifier with these digits, which may stand with hyphens or without. -/
def read? (text : Text) : Option Uuid :=
  let digits := text.filter (· ≠ '-')
  let grouped := "00000000-0000-0000-0000-000000000000".toList
  if digits.length = 32 ∧
      (text = digits ∨ text.map (· == '-') = grouped.map (· == '-')) then
    (Text.ofHex? digits).map fun number => ⟨BitVec.ofNat 128 number⟩
  else none

def toValue (uuid : Uuid) : Value := .text uuid.text

example : (read? "550E8400E29B41D4A716446655440000").map text =
    some "550e8400-e29b-41d4-a716-446655440000".toList := by decide +kernel

end Uuid

end SqlBuilder
