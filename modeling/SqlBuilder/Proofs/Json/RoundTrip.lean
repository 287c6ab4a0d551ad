import SqlBuilder.JsonReader
import SqlBuilder.Proofs.Text.Joined

/-!
JSON text is read back as the value of which it is the text.  Whatever a string holds, the
reader finds its end, and the reader of a value takes just the text of that value, whatever
comes after it.
-/

namespace SqlBuilder.Json

theorem codePoint?_toNat (c : Char) : codePoint? c.toNat = some c := by
  have hvalid : c.toNat.isValidChar := c.valid
  rw [codePoint?, dif_pos hvalid]
  rfl

theorem inString?_quote (rest : Text) : inString? ('\x22' :: rest) = some ([], rest) := by
  rw [inString?, if_pos rfl]

/-- An escape inside a string stands for one character, and the string goes on behind it. -/
theorem inString?_escape {text rest : Text} {c : Char} (hescape : escape? text = some (c, rest)) :
    inString? ('\\' :: text) = (inString? rest).map fun read => (c :: read.1, read.2) := by
  rw [inString?, if_neg (by decide), if_pos rfl]
  split
  · next hsome =>
      rw [hescape] at hsome
      cases hsome
      rfl
  · next hnone =>
      rw [hescape] at hnone
      cases hnone

theorem inString?_raw {c : Char} (hquote : c ≠ '\x22') (hbackslash : c ≠ '\\')
    (hcontrol : ¬ c.toNat < 0x20) (rest : Text) :
    inString? (c :: rest) = (inString? rest).map fun read => (c :: read.1, read.2) := by
  rw [inString?, if_neg hquote, if_neg hbackslash, if_neg hcontrol]

theorem ofHex?_control : ∀ n < 0x20,
    Text.ofHex? ['0', '0', hexDigit (n / 16), hexDigit n] = some n := by
  decide

theorem escape?_control {c : Char} (hcontrol : c.toNat < 0x20) (rest : Text) :
    escape? ('u' :: '0' :: '0' :: hexDigit (c.toNat / 16) :: hexDigit c.toNat :: rest) =
      some (c, rest) := by
  have hhigh : ¬ (0xd800 ≤ c.toNat ∧ c.toNat < 0xdc00) := by omega
  simp [escape?, point?, unit?, ofHex?_control _ hcontrol, hhigh, codePoint?_toNat]

/-- A character is read back from its escaped form, and nothing of what follows it. -/
theorem inString?_escaped_append (c : Char) (rest : Text) :
    inString? (escaped c ++ rest) = (inString? rest).map fun read => (c :: read.1, read.2) := by
  rw [escaped]
  -- A letter of its own stands for seven of the characters.
  iterate 7
    split
    · next hletter =>
        subst hletter
        exact inString?_escape rfl
  split
  · next hcontrol => exact inString?_escape (escape?_control hcontrol rest)
  · next hquote hbackslash _ _ _ _ _ hcontrol =>
      exact inString?_raw hquote hbackslash hcontrol rest

/-- The characters of any text are read back up to the closing quote. -/
theorem inString?_flatMap_escaped_append (value rest : Text) :
    inString? (value.flatMap escaped ++ '\x22' :: rest) = some (value, rest) := by
  induction value with
  | nil => exact inString?_quote rest
  | cons c value ih =>
      rw [List.flatMap_cons, List.append_assoc, inString?_escaped_append, ih]
      rfl

theorem past?_cons {c : Char} (hblank : isBlank c = false) (mark : Char) (rest : Text) :
    past? mark (c :: rest) = if c = mark then some rest else none := by
  rw [past?, afterBlanks, List.dropWhile_cons_of_neg (by simp [hblank])]

theorem past?_mark {mark : Char} (hblank : isBlank mark = false) (rest : Text) :
    past? mark (mark :: rest) = some rest := by
  rw [past?_cons hblank, if_pos rfl]

theorem stringText_append (value rest : Text) :
    stringText value ++ rest = '\x22' :: (value.flatMap escaped ++ '\x22' :: rest) := by
  simp [stringText]

theorem string?_stringText_append (value rest : Text) :
    string? (stringText value ++ rest) = some (value, rest) := by
  rw [string?, stringText_append, past?_mark (by decide)]
  exact inString?_flatMap_escaped_append value rest

/-- The characters with which the text of a value can begin. -/
def openings : List Char := ['\x22', '[', '\x7b', 'n']

theorem exists_text_eq_cons (value : Json) : ∃ c ∈ openings, ∃ rest, value.text = c :: rest := by
  cases value with
  | null => exact ⟨'n', by decide, _, rfl⟩
  | string value => exact ⟨'\x22', by decide, _, rfl⟩
  | array items => exact ⟨'[', by decide, _, rfl⟩
  | object members => exact ⟨'\x7b', by decide, _, rfl⟩

theorem past?_text_append {mark : Char} (hmark : mark ∉ openings) (value : Json) (rest : Text) :
    past? mark (value.text ++ rest) = none := by
  obtain ⟨c, hc, later, htext⟩ := value.exists_text_eq_cons
  have hblank : ∀ c ∈ openings, isBlank c = false := by simp [openings, isBlank]
  rw [htext, List.cons_append, past?_cons (hblank c hc), if_neg]
  rintro rfl
  exact hmark hc

section

variable {fuel : Nat} {name text later rest : Text} {item : Json} {items : List Json}
  {members : List (Text × Json)}

theorem value?_quote (fuel : Nat) (rest : Text) :
    value? (fuel + 1) ('\x22' :: rest) =
      (inString? rest).map fun read => (string read.1, read.2) := rfl

theorem value?_bracket (hitem : past? ']' text = none)
    (hitems : items? fuel text = some (items, rest)) :
    value? (fuel + 1) ('[' :: text) = some (array items, rest) := by
  rw [value?, afterBlanks, List.dropWhile_cons_of_neg (by decide)]
  simp [hitem, hitems]

theorem value?_brace (hmember : past? '\x7d' text = none)
    (hmembers : members? fuel text = some (members, rest)) :
    value? (fuel + 1) ('\x7b' :: text) = some (object members, rest) := by
  rw [value?, afterBlanks, List.dropWhile_cons_of_neg (by decide)]
  simp [hmember, hmembers]

theorem items?_last (hitem : value? fuel text = some (item, ']' :: rest)) :
    items? (fuel + 1) text = some ([item], rest) := by
  have hend : past? ']' (']' :: rest) = some rest := past?_mark rfl rest
  simp [items?, hitem, hend]

theorem items?_more (hitem : value? fuel text = some (item, ',' :: later))
    (hitems : items? fuel later = some (items, rest)) :
    items? (fuel + 1) text = some (item :: items, rest) := by
  have hend : past? ']' (',' :: later) = none := past?_cons rfl ']' later
  have hcomma : past? ',' (',' :: later) = some later := past?_mark rfl later
  simp [items?, hitem, hend, hcomma, hitems]

theorem members?_last (hname : string? text = some (name, ':' :: later))
    (hitem : value? fuel later = some (item, '\x7d' :: rest)) :
    members? (fuel + 1) text = some ([(name, item)], rest) := by
  have hcolon : past? ':' (':' :: later) = some later := past?_mark rfl later
  have hend : past? '\x7d' ('\x7d' :: rest) = some rest := past?_mark rfl rest
  simp [members?, hname, hcolon, hitem, hend]

theorem members?_more {others : Text} (hname : string? text = some (name, ':' :: later))
    (hitem : value? fuel later = some (item, ',' :: others))
    (hmembers : members? fuel others = some (members, rest)) :
    members? (fuel + 1) text = some ((name, item) :: members, rest) := by
  have hcolon : past? ':' (':' :: later) = some later := past?_mark rfl later
  have hend : past? '\x7d' (',' :: others) = none := past?_cons rfl '\x7d' others
  have hcomma : past? ',' (',' :: others) = some others := past?_mark rfl others
  simp [members?, hname, hcolon, hitem, hend, hcomma, hmembers]

end

mutual

/-- A reader that has a step for each character of the text of a value takes this text and
leaves what follows. -/
theorem value?_text_append : ∀ (value : Json) {fuel : Nat}, value.text.length < fuel →
    ∀ rest, value? fuel (value.text ++ rest) = some (value, rest)
  | null, fuel + 1, _, rest => rfl
  | string value, fuel + 1, _, rest => by
      rw [text, stringText_append, value?_quote, inString?_flatMap_escaped_append]
      rfl
  | array [], fuel + 1, _, rest => rfl
  | array (item :: items), fuel + 1, hfuel, rest => by
      have hsplit : (array (item :: items)).text ++ rest =
          '[' :: (Text.joined "," (texts (item :: items)) ++ ']' :: rest) := by
        simp [text]
      have hlength := congrArg List.length hsplit
      simp only [List.length_append, List.length_cons] at hlength
      rw [hsplit]
      refine value?_bracket ?_ (items?_joined_append item items (by omega) rest)
      rw [texts, Text.joined_cons, List.append_assoc]
      exact past?_text_append (by decide) item _
  | object [], fuel + 1, _, rest => rfl
  | object (member :: members), fuel + 1, hfuel, rest => by
      have hsplit : (object (member :: members)).text ++ rest =
          '\x7b' :: (Text.joined "," (memberTexts (member :: members)) ++ '\x7d' :: rest) := by
        simp [text]
      have hlength := congrArg List.length hsplit
      simp only [List.length_append, List.length_cons] at hlength
      rw [hsplit]
      refine value?_brace ?_ (members?_joined_append member members (by omega) rest)
      rw [memberTexts, Text.joined_cons, List.append_assoc, List.append_assoc, List.append_assoc,
        stringText_append]
      exact past?_cons rfl '\x7d' _

/-- Items are read back up to the closing bracket if there are more steps than characters. -/
theorem items?_joined_append : ∀ (item : Json) (items : List Json) {fuel : Nat},
    (Text.joined "," (texts (item :: items))).length + 1 < fuel → ∀ rest,
      items? fuel (Text.joined "," (texts (item :: items)) ++ ']' :: rest) =
        some (item :: items, rest)
  | item, [], fuel + 1, hfuel, rest => by
      rw [texts, texts, Text.joined_singleton] at hfuel ⊢
      exact items?_last (value?_text_append item (by omega) (']' :: rest))
  | item, second :: items, fuel + 1, hfuel, rest => by
      have hcomma : ",".toList.length = 1 := rfl
      rw [texts, texts, Text.joined_cons_cons, ← texts] at hfuel ⊢
      rw [List.length_append, List.length_append] at hfuel
      rw [List.append_assoc, List.append_assoc]
      exact items?_more (value?_text_append item (by omega) _)
        (items?_joined_append second items (by omega) rest)

/-- Members are read back up to the closing brace, the same way as items. -/
theorem members?_joined_append : ∀ (member : Text × Json) (members : List (Text × Json))
    {fuel : Nat}, (Text.joined "," (memberTexts (member :: members))).length + 1 < fuel → ∀ rest,
      members? fuel (Text.joined "," (memberTexts (member :: members)) ++ '\x7d' :: rest) =
        some (member :: members, rest)
  | (name, value), [], fuel + 1, hfuel, rest => by
      rw [memberTexts, memberTexts, Text.joined_singleton] at hfuel ⊢
      rw [List.length_append] at hfuel
      rw [List.append_assoc, List.append_assoc]
      exact members?_last (string?_stringText_append name _)
        (value?_text_append value (by omega) ('\x7d' :: rest))
  | (name, value), (other, next) :: members, fuel + 1, hfuel, rest => by
      have hcomma : ",".toList.length = 1 := rfl
      rw [memberTexts, memberTexts, Text.joined_cons_cons, ← memberTexts] at hfuel ⊢
      rw [List.length_append, List.length_append, List.length_append] at hfuel
      simp only [List.append_assoc]
      exact members?_more (string?_stringText_append name _)
        (value?_text_append value (by omega) _)
        (members?_joined_append (other, next) members (by omega) rest)

end

/-- The text of a value is read as this value. -/
theorem read?_text (value : Json) : read? value.text = some value := by
  have hread := value?_text_append value (Nat.lt_succ_self _) []
  rw [List.append_nil] at hread
  rw [read?, hread]
  rfl

theorem text_injective {first second : Json} (hsame : first.text = second.text) :
    first = second := by
  have hread := congrArg read? hsame
  rw [read?_text, read?_text] at hread
  exact Option.some.inj hread

end SqlBuilder.Json
