import SqlBuilder.Number.Shortest

/-!
Double-precision numbers by their bits, and their text: the fewest digits
that read back to the same double, always in positional notation.
-/

namespace SqlBuilder

/-- A double-precision number, given by its sixty-four bits. -/
structure Binary64 where
  bits : UInt64
deriving DecidableEq, Repr

namespace Binary64

/-- What a double stands for, apart from its sign: a finite one is
`significand · 2 ^ exponent`. -/
inductive Magnitude where
  | notANumber
  | infinite
  | finite (significand : Nat) (exponent : Int)
deriving DecidableEq, Repr

/-- The bit in front of the fraction of a number that is not subnormal, two to
the power of fifty-two. -/
def leadingBit : Nat := 0x10000000000000

def isNegative (x : Binary64) : Bool := x.bits.toNat / 0x8000000000000000 == 1

/-- The eleven bits of the exponent. -/
def exponentField (x : Binary64) : Nat := x.bits.toNat / leadingBit % 0x800

/-- The fifty-two bits of the fraction. -/
def fractionField (x : Binary64) : Nat := x.bits.toNat % leadingBit

def magnitude (x : Binary64) : Magnitude :=
  if x.exponentField = 2047 then
    if x.fractionField = 0 then .infinite else .notANumber
  else if x.exponentField = 0 then .finite x.fractionField (-1074)
  else .finite (leadingBit + x.fractionField) (x.exponentField - 1075)

/-- The reals that round to `significand · 2 ^ exponent`: half a step on either
side, a quarter of a step below where the steps get finer.  The ends round to
it exactly when the significand is even. -/
def roundingInterval (significand : Nat) (exponent : Int) : Neighbourhood where
  below :=
    (4 * significand - if significand = leadingBit ∧ exponent ≠ -1074 then 1 else 2) *
      Nat.pow 2 exponent.toNat
  value := 4 * significand * Nat.pow 2 exponent.toNat
  above := (4 * significand + 2) * Nat.pow 2 exponent.toNat
  unit := 4 * Nat.pow 2 (-exponent).toNat
  closed := significand % 2 == 0

/-- The text of a double.  A zero keeps its sign; the sign and the payload of
what is not a number are not shown. -/
def text (x : Binary64) : Text :=
  let sign : Text := if x.isNegative then "-" else ""
  match x.magnitude with
  | .notANumber => "NaN"
  | .infinite => sign ++ "inf"
  | .finite 0 _ => sign ++ "0"
  | .finite significand exponent =>
      sign ++ (roundingInterval significand exponent).shortest.text

example : text ⟨0x3fb999999999999a⟩ = "0.1" := by decide +kernel
example : text ⟨0x4340000000000001⟩ = "9007199254740994" := by decide +kernel
example : text ⟨0x8000000000000000⟩ = "-0" := by decide +kernel
example : text ⟨0xfff0000000000000⟩ = "-inf" := by decide +kernel

end Binary64

end SqlBuilder
