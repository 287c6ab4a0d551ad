import SqlBuilder.Text.Digits

/-!
Dollar-quoted texts.  The payload stands unchanged between two copies of a tag
that does not occur in it: `$Q$` if possible, otherwise the first of `$Q0$`,
`$Q1$`, … that is free.  A reader takes the opening tag and ends the payload at
the first place where the same tag stands again.
-/

namespace SqlBuilder.DollarQuoted

/-- The tag that is used unless the payload contains it. -/
def plainTag : Text := "$Q$"

def numberedTag (n : Nat) : Text := "$Q" ++ Text.ofNat n ++ "$"

/-- The least number whose tag does not occur in the payload.  Different tags
start at different places, so as many numbers as there are starts suffice. -/
def freeNumber (payload : Text) : Nat :=
  let starts := Text.occurrences "$Q" payload
  ((List.range starts).find? fun n => !Text.contains (numberedTag n) payload).getD starts

def tag (payload : Text) : Text :=
  if Text.contains plainTag payload then numberedTag (freeNumber payload) else plainTag

def quote (payload : Text) : Text := tag payload ++ payload ++ tag payload

/-- Reads a tag: `$Q`, perhaps a number, and a dollar sign. -/
def tag? (text : Text) : Option (Text × Text) := do
  let rest ← Text.after? "$Q" text
  let digits := rest.takeWhile Char.isDigit
  let rest ← Text.after? "$" (rest.dropWhile Char.isDigit)
  some ("$Q" ++ digits ++ "$", rest)

/-- Reads a dollar-quoted text: its payload, and what follows it. -/
def read? (text : Text) : Option (Text × Text) := do
  let (tag, rest) ← tag? text
  Text.cutAt? tag rest

example : read? "$Q0$a$Q$b$Q0$, 1" = some ("a$Q$b".toList, ", 1".toList) := by decide
example : quote "it's" = "$Q$it's$Q$" := by decide
example : quote "a$Q$b" = "$Q0$a$Q$b$Q0$" := by decide
example : tag "$Q$ $Q0$ $Q2$" = "$Q1$" := by decide

end SqlBuilder.DollarQuoted
