/-!
Texts and the few operations on them that the whole library shares: joining
with a separator, finding one text inside another, replacing every
occurrence, removing a character, and measuring in UTF-8 bytes.
-/

namespace SqlBuilder

/-- A text is the list of its characters, so that functions on texts recur on
their structure. -/
abbrev Text := List Char

instance : Coe String Text := ⟨String.toList⟩

namespace Text

/-- The texts one after another with `separator` between neighbours. -/
def joined (separator : Text) (items : List Text) : Text :=
  separator.intercalate items

@[simp] theorem joined_nil (separator : Text) : joined separator [] = [] := rfl

@[simp] theorem joined_singleton (separator item : Text) :
    joined separator [item] = item := by
  simp [joined, List.intercalate]

theorem joined_cons_cons (separator first second : Text) (rest : List Text) :
    joined separator (first :: second :: rest) =
      first ++ separator ++ joined separator (second :: rest) := by
  simp [joined, List.intercalate]

def parenthesized (inner : Text) : Text := "(" ++ inner ++ ")"

def contains (needle : Text) : Text → Bool
  | [] => needle.isEmpty
  | c :: rest => needle.isPrefixOf (c :: rest) || contains needle rest

theorem contains_iff_isInfix (needle text : Text) :
    contains needle text = true ↔ needle <:+: text := by
  induction text with
  | nil => simp [contains]
  | cons c rest ih =>
      simp only [contains, Bool.or_eq_true, ih, List.isPrefixOf_iff_prefix]
      exact List.infix_cons_iff.symm

/-- What follows the beginning that the text has to have. -/
def after? (beginning text : Text) : Option Text :=
  if beginning.isPrefixOf text then some (text.drop beginning.length) else none

theorem after?_append (beginning rest : Text) :
    after? beginning (beginning ++ rest) = some rest := by
  simp [after?]

/-- The text before the first occurrence of `needle`, and the text after it. -/
def cutAt? (needle : Text) : Text → Option (Text × Text)
  | [] => if needle.isEmpty then some ([], []) else none
  | c :: rest =>
      if needle.isPrefixOf (c :: rest) then some ([], (c :: rest).drop needle.length)
      else (cutAt? needle rest).map fun parts => (c :: parts.1, parts.2)

/-- The number of places of the text at which `needle` starts. -/
def occurrences (needle : Text) : Text → Nat
  | [] => if needle.isEmpty then 1 else 0
  | c :: rest =>
      (if needle.isPrefixOf (c :: rest) then 1 else 0) + occurrences needle rest

/-- Replaces the occurrences of `needle` that are met from left to right, none
of which overlaps the one before it.  `skip` counts the characters of the
last occurrence that are still to be passed over. -/
def replaceAllFrom (needle replacement : Text) : (skip : Nat) → Text → Text
  | _, [] => []
  | skip + 1, _ :: rest => replaceAllFrom needle replacement skip rest
  | 0, c :: rest =>
      if needle ≠ [] ∧ needle.isPrefixOf (c :: rest) then
        replacement ++ replaceAllFrom needle replacement (needle.length - 1) rest
      else c :: replaceAllFrom needle replacement 0 rest

/-- The text with every occurrence of `needle`, found left to right, replaced. -/
def replaceAll (needle replacement text : Text) : Text :=
  replaceAllFrom needle replacement 0 text

/-- Whether the first text comes before the second one or is equal to it, where
texts are compared by the code points of their characters. -/
def le : Text → Text → Bool
  | [], _ => true
  | _ :: _, [] => false
  | first :: firstRest, second :: secondRest =>
      if first = second then le firstRest secondRest else first.toNat < second.toNat

theorem le_total (first second : Text) : (le first second || le second first) = true := by
  induction first generalizing second with
  | nil => simp [le]
  | cons c rest ih =>
      cases second with
      | nil => simp [le]
      | cons d others =>
          by_cases same : c = d
          · subst same
            simpa [le] using ih others
          · have different : c.toNat ≠ d.toNat := fun h => same (Char.toNat_inj.1 h)
            have reversed : ¬ d = c := fun h => same h.symm
            simp only [le, same, reversed, if_false, Bool.or_eq_true, decide_eq_true_eq]
            omega

theorem le_trans {first second third : Text} (lower : le first second = true)
    (upper : le second third = true) : le first third = true := by
  induction first generalizing second third with
  | nil => simp [le]
  | cons a as ih =>
      cases second with
      | nil => simp [le] at lower
      | cons b bs =>
          cases third with
          | nil => simp [le] at upper
          | cons c cs =>
              simp only [le] at lower upper ⊢
              split at lower
              · next same =>
                  subst same
                  split
                  · next equal =>
                      rw [if_pos equal] at upper
                      exact ih lower upper
                  · next differ =>
                      rwa [if_neg differ] at upper
              · next differ =>
                  split at upper
                  · next same =>
                      subst same
                      rwa [if_neg differ]
                  · simp only [decide_eq_true_eq] at lower upper
                    have apart : ¬ a = c := by
                      intro h
                      subst h
                      omega
                    rw [if_neg apart, decide_eq_true_eq]
                    omega

theorem le_antisymm {first second : Text} (lower : le first second = true)
    (upper : le second first = true) : first = second := by
  induction first generalizing second with
  | nil =>
      cases second with
      | nil => rfl
      | cons d others => simp [le] at upper
  | cons c rest ih =>
      cases second with
      | nil => simp [le] at lower
      | cons d others =>
          by_cases same : c = d
          · subst same
            simp only [le, if_true] at lower upper
            rw [ih lower upper]
          · have reversed : ¬ d = c := fun h => same h.symm
            simp only [le, same, reversed, if_false, decide_eq_true_eq] at lower upper
            omega

def withoutNul (text : Text) : Text := text.filter (· ≠ '\x00')

def utf8Length : Text → Nat
  | [] => 0
  | c :: rest => c.utf8Size + utf8Length rest

@[simp] theorem utf8Length_nil : utf8Length [] = 0 := rfl

@[simp] theorem utf8Length_cons (c : Char) (rest : Text) :
    utf8Length (c :: rest) = c.utf8Size + utf8Length rest := rfl

theorem utf8Length_append (first second : Text) :
    utf8Length (first ++ second) = utf8Length first + utf8Length second := by
  induction first with
  | nil => simp
  | cons c rest ih => simp [ih, Nat.add_assoc]

/-- The longest prefix of whole characters that fits into `limit` bytes. -/
def utf8Prefix : (limit : Nat) → Text → Text
  | _, [] => []
  | limit, c :: rest =>
      if c.utf8Size ≤ limit then c :: utf8Prefix (limit - c.utf8Size) rest else []

/-- The text if it fits into `limit` bytes, otherwise its longest prefix that
does, and three dots. -/
def truncated (limit : Nat) (text : Text) : Text :=
  if limit < utf8Length text then utf8Prefix limit text ++ "..." else text

example : joined ", " ["a".toList, [], "c".toList] = "a, , c" := by decide
example : replaceAll "$Q$" "\x27" "$Q$Q$" = "\x27Q$" := by decide
example : utf8Prefix 4 "aé€" = "aé" := by decide

end Text

end SqlBuilder
