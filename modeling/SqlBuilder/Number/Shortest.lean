import SqlBuilder.Text.Digits

/-!
The shortest decimal inside an interval around a positive number, in exact
arithmetic on natural numbers, and its positional notation.
-/

namespace SqlBuilder

/-- A positive number with an interval around it.  The number is `value / unit`
and the ends of the interval are `below / unit` and `above / unit`; `closed`
tells whether the ends belong to the interval. -/
structure Neighbourhood where
  below : Nat
  value : Nat
  above : Nat
  unit : Nat
  closed : Bool
deriving DecidableEq, Repr

/-- The number `digits · 10 ^ exponent`. -/
structure Decimal where
  digits : Nat
  exponent : Int
deriving DecidableEq, Repr

namespace Neighbourhood

/-- Whether `point`, measured in a unit `scale` times finer, lies in the interval. -/
def admits (n : Neighbourhood) (scale point : Nat) : Bool :=
  if n.closed then n.below * scale ≤ point && point ≤ n.above * scale
  else n.below * scale < point && point < n.above * scale

/-- The greatest `e` with `10 ^ e` at most the number. -/
def decimalExponent (n : Neighbourhood) : Int :=
  if n.unit ≤ n.value then
    ((Text.ofNat (n.value / n.unit)).length : Int) - 1
  else
    let bound := (n.unit + n.value - 1) / n.value - 1
    if bound = 0 then 0 else -((Text.ofNat bound).length : Int)

/-- The multiple of `10 ^ exponent` that stands for the number: of the two
neighbours on that grid the one in the interval, of two the nearer, and the
upper one when both are equally near. -/
def gridPoint? (n : Neighbourhood) (exponent : Int) : Option Nat :=
  let scale := Nat.pow 10 (-exponent).toNat
  let step := n.unit * Nat.pow 10 exponent.toNat
  let value := n.value * scale
  let lower := value / step
  let upper := lower + 1
  match n.admits scale (lower * step), n.admits scale (upper * step) with
  | true, true =>
      if value - lower * step < upper * step - value then some lower else some upper
  | true, false => some lower
  | false, true => some upper
  | false, false => none

/-- The decimal of fewest digits in the interval, from the coarsest grid that
has one.  Seventeen digits always suffice for a double. -/
def shortest (n : Neighbourhood) : Decimal :=
  let grids := (List.range 17).map fun (more : Nat) => n.decimalExponent - (more : Int)
  (grids.findSome? fun exponent =>
    (n.gridPoint? exponent).map fun digits => ⟨digits, exponent⟩).getD
      ⟨n.value / n.unit, 0⟩

end Neighbourhood

namespace Decimal

/-- Digits that stand for `digits · 10 ^ exponent`, written with a point when
the exponent is negative and never with an exponent of its own. -/
def positional (digits : Text) (exponent : Int) : Text :=
  let places := (-exponent).toNat
  if places = 0 then digits ++ List.replicate exponent.toNat '0'
  else if places < digits.length then
    digits.take (digits.length - places) ++ "." ++ digits.drop (digits.length - places)
  else "0." ++ List.replicate (places - digits.length) '0' ++ digits

/-- The number in positional notation, without zeros at the end of the fraction. -/
def text (d : Decimal) : Text :=
  let digits := Text.ofNat d.digits
  let kept := (digits.reverse.dropWhile (· == '0')).reverse
  positional kept (d.exponent + (digits.length - kept.length : Nat))

example : text ⟨15, -1⟩ = "1.5" := by decide
example : text ⟨10, -1⟩ = "1" := by decide
example : text ⟨5, 2⟩ = "500" := by decide
example : text ⟨12, -4⟩ = "0.0012" := by decide

end Decimal

end SqlBuilder
