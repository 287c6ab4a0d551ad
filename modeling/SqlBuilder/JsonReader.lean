import SqlBuilder.Json
import SqlBuilder.Text.Digits

/-!
Reading JSON text.  The order of members and repeated names are kept.  Blanks may stand
between the tokens, and a character may be escaped in every way that JSON has.  Numbers and
truth values, of which results have none, are not read.
-/

namespace SqlBuilder.Json

/-- Whether the character may stand between tokens. -/
def isBlank (c : Char) : Bool := " \t\n\r".toList.contains c

def afterBlanks (text : Text) : Text := text.dropWhile isBlank

/-- What follows the mark, before which there may be blanks. -/
def past? (mark : Char) (text : Text) : Option Text :=
  match afterBlanks text with
  | [] => none
  | c :: rest => if c = mark then some rest else none

/-- The character of a code point, unless that is a surrogate. -/
def codePoint? (n : Nat) : Option Char :=
  if valid : n.isValidChar then some (Char.ofNatAux n valid) else none

/-- The character that a backslash and a letter stand for. -/
def unescaped? (c : Char) : Option Char :=
  if c = '\x22' ∨ c = '\\' ∨ c = '/' then some c
  else if c = 'b' then some '\x08'
  else if c = 'f' then some '\x0c'
  else if c = 'n' then some '\n'
  else if c = 'r' then some '\r'
  else if c = 't' then some '\t'
  else none

/-- Reads a number of four hexadecimal digits. -/
def unit? : Text → Option (Nat × Text)
  | first :: second :: third :: fourth :: rest =>
      (Text.ofHex? [first, second, third, fourth]).map fun unit => (unit, rest)
  | _ => none

/-- Reads the second one of two surrogates, as a number from zero on. -/
def lowSurrogate? (text : Text) : Option (Nat × Text) := do
  let (unit, rest) ← unit? (← Text.after? "\\u" text)
  if 0xdc00 ≤ unit ∧ unit < 0xe000 then some (unit - 0xdc00, rest) else none

/-- Reads the digits of a code point.  Beyond four digits it is written as two surrogates. -/
def point? (text : Text) : Option (Nat × Text) := do
  let (unit, rest) ← unit? text
  if 0xd800 ≤ unit ∧ unit < 0xdc00 then
    (lowSurrogate? rest).map fun low => (0x10000 + 0x400 * (unit - 0xd800) + low.1, low.2)
  else some (unit, rest)

/-- Reads the character that is meant by what follows a backslash. -/
def escape? : Text → Option (Char × Text)
  | [] => none
  | letter :: text =>
      if letter = 'u' then do
        let (point, rest) ← point? text
        (codePoint? point).map fun c => (c, rest)
      else (unescaped? letter).map fun c => (c, text)

theorem length_lt_of_unit? {text rest : Text} {unit : Nat}
    (hunit : unit? text = some (unit, rest)) : rest.length < text.length := by
  unfold unit? at hunit
  split at hunit
  · obtain ⟨_, -, hread⟩ := Option.map_eq_some_iff.1 hunit
    obtain ⟨-, rfl⟩ := Prod.mk.inj hread
    simp only [List.length_cons]
    omega
  · cases hunit

theorem length_lt_of_lowSurrogate? {text rest : Text} {low : Nat}
    (hlow : lowSurrogate? text = some (low, rest)) : rest.length < text.length := by
  simp only [lowSurrogate?, Option.bind_eq_bind, Option.bind_eq_some_iff, Prod.exists] at hlow
  obtain ⟨later, hmark, unit, others, hunit, hread⟩ := hlow
  have hlater := length_lt_of_unit? hunit
  rw [Text.after?] at hmark
  split at hmark
  · obtain rfl := Option.some.inj hmark
    split at hread
    · obtain ⟨-, rfl⟩ := Prod.mk.inj (Option.some.inj hread)
      rw [List.length_drop] at hlater
      omega
    · cases hread
  · cases hmark

theorem length_lt_of_point? {text rest : Text} {point : Nat}
    (hpoint : point? text = some (point, rest)) : rest.length < text.length := by
  simp only [point?, Option.bind_eq_bind, Option.bind_eq_some_iff, Prod.exists] at hpoint
  obtain ⟨unit, later, hunit, hread⟩ := hpoint
  have hlater := length_lt_of_unit? hunit
  split at hread
  · obtain ⟨⟨low, others⟩, hlow, hread⟩ := Option.map_eq_some_iff.1 hread
    obtain ⟨-, rfl⟩ := Prod.mk.inj hread
    exact Nat.lt_trans (length_lt_of_lowSurrogate? hlow) hlater
  · obtain ⟨-, rfl⟩ := Prod.mk.inj (Option.some.inj hread)
    exact hlater

/-- What follows a backslash takes a character at least, so that reading a string comes to
an end. -/
theorem length_lt_of_escape? {text rest : Text} {c : Char}
    (hescape : escape? text = some (c, rest)) : rest.length < text.length := by
  cases text with
  | nil => cases hescape
  | cons letter text =>
      rw [escape?] at hescape
      rw [List.length_cons]
      split at hescape
      · simp only [Option.bind_eq_bind, Option.bind_eq_some_iff, Prod.exists] at hescape
        obtain ⟨point, later, hpoint, hread⟩ := hescape
        obtain ⟨_, -, hread⟩ := Option.map_eq_some_iff.1 hread
        obtain ⟨-, rfl⟩ := Prod.mk.inj hread
        exact Nat.lt_succ_of_lt (length_lt_of_point? hpoint)
      · obtain ⟨_, -, hread⟩ := Option.map_eq_some_iff.1 hescape
        obtain ⟨-, rfl⟩ := Prod.mk.inj hread
        exact Nat.lt_succ_self _

/-- Reads a string up to its closing quote, and what follows it. -/
def inString? (text : Text) : Option (Text × Text) :=
  match text with
  | [] => none
  | c :: rest =>
      if c = '\x22' then some ([], rest)
      else if c = '\\' then
        match _ : escape? rest with
        | some (meant, later) => (inString? later).map fun read => (meant :: read.1, read.2)
        | none => none
      else if c.toNat < 0x20 then none
      else (inString? rest).map fun read => (c :: read.1, read.2)
termination_by text.length
decreasing_by
  · exact Nat.lt_succ_of_lt (length_lt_of_escape? (by assumption))
  · exact Nat.lt_succ_self _

def string? (text : Text) : Option (Text × Text) := do inString? (← past? '\x22' text)

mutual

/-- Reads a value in no more than `fuel` steps, and what follows it. -/
def value? : (fuel : Nat) → Text → Option (Json × Text)
  | 0, _ => none
  | fuel + 1, text =>
      match afterBlanks text with
      | [] => none
      | c :: rest =>
          if c = '\x22' then (inString? rest).map fun read => (string read.1, read.2)
          else if c = '[' then
            match past? ']' rest with
            | some later => some (array [], later)
            | none => (items? fuel rest).map fun read => (array read.1, read.2)
          else if c = '\x7b' then
            match past? '\x7d' rest with
            | some later => some (object [], later)
            | none => (members? fuel rest).map fun read => (object read.1, read.2)
          else (Text.after? "null" (c :: rest)).map fun later => (null, later)

/-- Reads the items of an array up to its closing bracket. -/
def items? : (fuel : Nat) → Text → Option (List Json × Text)
  | 0, _ => none
  | fuel + 1, text => do
      let (item, text) ← value? fuel text
      match past? ']' text with
      | some rest => some ([item], rest)
      | none => (items? fuel (← past? ',' text)).map fun read => (item :: read.1, read.2)

/-- Reads the members of an object up to its closing brace. -/
def members? : (fuel : Nat) → Text → Option (List (Text × Json) × Text)
  | 0, _ => none
  | fuel + 1, text => do
      let (name, text) ← string? text
      let (value, text) ← value? fuel (← past? ':' text)
      match past? '\x7d' text with
      | some rest => some ([(name, value)], rest)
      | none =>
          (members? fuel (← past? ',' text)).map fun read => ((name, value) :: read.1, read.2)

end

/-- The value of a whole JSON text.  Every step takes a character, so the length
of the text bounds the steps. -/
def read? (text : Text) : Option Json :=
  match value? (text.length + 1) text with
  | some (value, rest) => if afterBlanks rest = [] then some value else none
  | none => none

example :
    (read? (" [\x7b \x22a\x22 : null,\n" ++
      "\x22a\x22:[\x22\\u0001\\uD83D\\ude00\x22] \x7d, [ ]]")).map text =
    some "[\x7b\x22a\x22:null,\x22a\x22:[\x22\\u0001😀\x22]\x7d,[]]".toList := by
  decide +kernel

end SqlBuilder.Json
