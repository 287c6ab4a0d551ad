import SqlBuilder.Proofs.Quoting.Tag

/-!
SQL text read from left to right as quoted stretches and single characters.  Single
quotes, double quotes and dollar tags open a quoted stretch, which goes on to the next
place where the same delimiter stands; a delimiter written twice inside quotes ends one
stretch and opens another.  Nothing of the text is lost.
-/

namespace SqlBuilder

/-- A quoted stretch, or a character outside quotes. -/
inductive Lexeme where
  | mark (c : Char)
  | quoted (delimiter payload : Text)
deriving DecidableEq, Repr

namespace Lexeme

def source : Lexeme → Text
  | mark c => [c]
  | quoted delimiter payload => delimiter ++ payload ++ delimiter

/-- Whether quotes or a dollar tag can begin with the character. -/
def opens (c : Char) : Bool := "\x27\x22$".toList.contains c

/-- Reads what opens a quoted stretch. -/
def delimiter? (text : Text) : Option (Text × Text) :=
  match text with
  | '\x27' :: rest => some ("\x27", rest)
  | '\x22' :: rest => some ("\x22", rest)
  | _ => DollarQuoted.tag? text

/-- Reads a quoted stretch up to the next place where its delimiter stands. -/
def quoted? (text : Text) : Option (Lexeme × Text) := do
  let (delimiter, rest) ← delimiter? text
  let (payload, rest) ← Text.cutAt? delimiter rest
  some (quoted delimiter payload, rest)

/-- A delimiter stands at the beginning of the text, with a character that opens quotes. -/
theorem eq_cons_append_of_delimiter? {text delimiter rest : Text}
    (hopen : delimiter? text = some (delimiter, rest)) :
    text = delimiter ++ rest ∧ ∃ c later, delimiter = c :: later ∧ opens c = true := by
  unfold delimiter? at hopen
  split at hopen
  · obtain ⟨rfl, rfl⟩ := Prod.mk.inj (Option.some.inj hopen)
    exact ⟨rfl, '\x27', [], rfl, rfl⟩
  · obtain ⟨rfl, rfl⟩ := Prod.mk.inj (Option.some.inj hopen)
    exact ⟨rfl, '\x22', [], rfl, rfl⟩
  · obtain ⟨digits, rfl⟩ := DollarQuoted.exists_marked_of_tag? hopen
    exact ⟨DollarQuoted.eq_append_of_tag? hopen, '$', _, DollarQuoted.marked_eq_cons digits, rfl⟩

theorem quoted?_eq_some_iff {text rest : Text} {lexeme : Lexeme} :
    quoted? text = some (lexeme, rest) ↔
      ∃ delimiter payload later, delimiter? text = some (delimiter, later) ∧
        Text.cutAt? delimiter later = some (payload, rest) ∧
        lexeme = quoted delimiter payload := by
  simp only [quoted?, Option.bind_eq_bind, Option.bind_eq_some_iff, Option.some.injEq,
    Prod.mk.injEq, Prod.exists]
  constructor
  · rintro ⟨delimiter, later, hopen, payload, _, hcut, rfl, rfl⟩
    exact ⟨delimiter, payload, later, hopen, hcut, rfl⟩
  · rintro ⟨delimiter, payload, later, hopen, hcut, rfl⟩
    exact ⟨delimiter, later, hopen, payload, rest, hcut, rfl, rfl⟩

theorem eq_append_of_quoted? {text rest : Text} {lexeme : Lexeme}
    (hquoted : quoted? text = some (lexeme, rest)) : text = lexeme.source ++ rest := by
  obtain ⟨delimiter, payload, later, hopen, hcut, rfl⟩ := quoted?_eq_some_iff.1 hquoted
  rw [(eq_cons_append_of_delimiter? hopen).1, Text.eq_append_of_cutAt? hcut, source,
    List.append_assoc, List.append_assoc]

theorem source_ne_nil (lexeme : Lexeme) {text rest : Text}
    (hquoted : quoted? text = some (lexeme, rest)) : lexeme.source ≠ [] := by
  obtain ⟨delimiter, payload, later, hopen, -, rfl⟩ := quoted?_eq_some_iff.1 hquoted
  obtain ⟨-, c, others, rfl, -⟩ := eq_cons_append_of_delimiter? hopen
  exact List.cons_ne_nil c _

theorem quoted?_of_not_opens {c : Char} (hc : opens c = false) (rest : Text) :
    quoted? (c :: rest) = none := by
  rw [Option.eq_none_iff_forall_ne_some]
  rintro ⟨lexeme, later⟩ hquoted
  obtain ⟨delimiter, payload, following, hopen, -, -⟩ := quoted?_eq_some_iff.1 hquoted
  obtain ⟨htext, d, others, rfl, hd⟩ := eq_cons_append_of_delimiter? hopen
  obtain ⟨rfl, -⟩ := List.cons.inj htext
  rw [hc] at hd
  cases hd

theorem length_lt_of_quoted? {text rest : Text} {lexeme : Lexeme}
    (hquoted : quoted? text = some (lexeme, rest)) : rest.length < text.length := by
  have hpos := List.length_pos_iff.2 (lexeme.source_ne_nil hquoted)
  rw [eq_append_of_quoted? hquoted, List.length_append]
  omega

end Lexeme

open Lexeme

def lexemes (text : Text) : List Lexeme :=
  match text with
  | [] => []
  | c :: rest =>
      match _ : quoted? (c :: rest) with
      | some (lexeme, later) => lexeme :: lexemes later
      | none => mark c :: lexemes rest
termination_by text.length
decreasing_by
  · exact length_lt_of_quoted? (by assumption)
  · exact Nat.lt_succ_self _

theorem lexemes_of_quoted? {text later : Text} {lexeme : Lexeme}
    (hquoted : quoted? text = some (lexeme, later)) : lexemes text = lexeme :: lexemes later := by
  cases text with
  | nil => cases hquoted
  | cons c rest =>
      rw [lexemes]
      split
      · next hsome =>
          rw [hquoted] at hsome
          cases hsome
          rfl
      · next hnone =>
          rw [hquoted] at hnone
          cases hnone

theorem lexemes_of_quoted?_eq_none {c : Char} {rest : Text}
    (hquoted : quoted? (c :: rest) = none) : lexemes (c :: rest) = mark c :: lexemes rest := by
  rw [lexemes]
  split
  · next hsome =>
      rw [hquoted] at hsome
      cases hsome
  · rfl

theorem lexemes_append_of_not_opens {text : Text} (hplain : text.any opens = false)
    (rest : Text) : lexemes (text ++ rest) = text.map mark ++ lexemes rest := by
  induction text with
  | nil => rfl
  | cons c text ih =>
      rw [List.any_cons, Bool.or_eq_false_iff] at hplain
      rw [List.cons_append,
        lexemes_of_quoted?_eq_none (quoted?_of_not_opens hplain.1 (text ++ rest)), ih hplain.2]
      rfl

/-- Reading loses nothing. -/
theorem flatMap_source_lexemes (text : Text) : (lexemes text).flatMap source = text := by
  fun_induction lexemes text with
  | case1 => rfl
  | case2 c rest lexeme later hquoted ih =>
      rw [List.flatMap_cons, ih, ← eq_append_of_quoted? hquoted]
  | case3 c rest hnone ih =>
      rw [List.flatMap_cons, ih]
      rfl

example : lexemes "a,\x27,(\x27$Q$\x22" =
    [mark 'a', mark ',', quoted "\x27" ",(", mark '$', mark 'Q', mark '$', mark '\x22'] := by
  decide +kernel

end SqlBuilder
