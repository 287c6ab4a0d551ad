import SqlBuilder.Text.Basic
import SqlBuilder.Text.CaseRange

/-!
Characters without their case, by Unicode's simple case folding, and texts in capitals,
by its full mapping to upper case.
-/

namespace SqlBuilder.Text

/-- The simple case folding of a character. -/
def folded (c : Char) : Char := CaseRange.mapped CaseRange.Folding.all c

/-- Whether the texts are the same up to simple case folding. -/
def sameFolded (first second : Text) : Bool := first.map folded == second.map folded

/-- The capitals of a character, mostly a single one. -/
def capitals (c : Char) : Text :=
  match CaseRange.expanding.lookup c.toNat with
  | some codes => codes.map Char.ofNat
  | none => [CaseRange.mapped CaseRange.Capital.all c]

def capitalized (text : Text) : Text := text.flatMap capitals

example : sameFolded "ΣAS" "ςaſ" = true ∧ sameFolded "İı" "ii" = false := by decide +kernel
example : capitalized "aſ\ufb01ß" = "ASFISS" := by decide +kernel

end SqlBuilder.Text
