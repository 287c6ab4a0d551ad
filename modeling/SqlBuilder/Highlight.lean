import SqlBuilder.Quoting.DollarQuoted
import SqlBuilder.Text.Word

/-!
SQL for the eye: the plain dollar tag is shown as a single quote, and keywords
and parentheses are coloured.  The result is not meant to be run.
-/

namespace SqlBuilder

namespace Highlight

inductive Piece where
  | plain (c : Char)
  | keyword (word : Text)
  | parenthesis (c : Char)
deriving DecidableEq, Repr

/-- The keywords, of which none is the beginning of another. -/
def keywords : List Text :=
  ["INSERT INTO".toList, "DELETE FROM".toList, "SELECT".toList, "UPDATE".toList,
   "FROM".toList, "WHERE".toList, "VALUES".toList, "SET".toList]

/-- The keyword at the beginning of the text that a word boundary follows. -/
def keywordAt? (text : Text) : Option Text :=
  keywords.find? fun word =>
    word.isPrefixOf text && !Text.startsWithWord (text.drop word.length)

/-- Cuts an SQL text into pieces, from left to right.  `inWord` tells whether a
word character stands before the text, and `skip` counts the characters of the
last keyword that are still to be passed over. -/
def piecesFrom : (inWord : Bool) → (skip : Nat) → Text → List Piece
  | _, _, [] => []
  | _, skip + 1, c :: rest => piecesFrom (Text.isWord c) skip rest
  | inWord, 0, c :: rest =>
      match if inWord then none else keywordAt? (c :: rest) with
      | some word => .keyword word :: piecesFrom (Text.isWord c) (word.length - 1) rest
      | none =>
          (if c = '(' ∨ c = ')' then .parenthesis c else .plain c) ::
            piecesFrom (Text.isWord c) 0 rest

def pieces (sql : Text) : List Piece := piecesFrom false 0 sql

/-- The control sequence that switches a display to a style. -/
def control (style : Text) : Text := "\x1b[" ++ style ++ "m"

/-- The text in a style, which ends with it. -/
def styled (style text : Text) : Text := control style ++ text ++ control "0"

namespace Piece

def source : Piece → Text
  | plain c => [c]
  | keyword word => word
  | parenthesis c => [c]

/-- Keywords are bold blue and parentheses are cyan. -/
def coloured : Piece → Text
  | plain c => [c]
  | keyword word => styled "1;34" word
  | parenthesis c => styled "36" [c]

end Piece

theorem ne_nil_of_mem_keywords {word : Text} (member : word ∈ keywords) : word ≠ [] := by
  simp only [keywords, List.mem_cons, List.not_mem_nil, or_false] at member
  rcases member with rfl | rfl | rfl | rfl | rfl | rfl | rfl | rfl <;> decide

/-- A keyword that is found is not empty and stands at the beginning of the text. -/
theorem append_drop_of_keywordAt? {text word : Text} (found : keywordAt? text = some word) :
    word ≠ [] ∧ word ++ text.drop word.length = text := by
  have member := List.mem_of_find?_eq_some found
  have holds := List.find?_some found
  rw [Bool.and_eq_true] at holds
  obtain ⟨rest, rfl⟩ := List.isPrefixOf_iff_prefix.1 holds.1
  exact ⟨ne_nil_of_mem_keywords member, by rw [List.drop_left]⟩

/-- The pieces make up the text again, without the characters that were to be passed over. -/
theorem flatMap_source_piecesFrom (inWord : Bool) (skip : Nat) (text : Text) :
    (piecesFrom inWord skip text).flatMap Piece.source = text.drop skip := by
  induction text generalizing inWord skip with
  | nil => simp [piecesFrom]
  | cons c rest ih =>
      cases skip with
      | succ skip => simpa [piecesFrom] using ih (Text.isWord c) skip
      | zero =>
          rw [piecesFrom]
          split
          · next word found =>
              have atStart : keywordAt? (c :: rest) = some word := by
                cases inWord
                · exact found
                · simp at found
              obtain ⟨nonempty, whole⟩ := append_drop_of_keywordAt? atStart
              obtain ⟨head, tail, rfl⟩ := List.exists_cons_of_ne_nil nonempty
              simpa [Piece.source, ih] using whole
          · rw [List.flatMap_cons, ih]
            split <;> simp [Piece.source]

/-- Cutting loses nothing. -/
theorem flatMap_source_pieces (sql : Text) : (pieces sql).flatMap Piece.source = sql :=
  flatMap_source_piecesFrom false 0 sql

/-- The SQL text with single quotes for the plain dollar tag. -/
def plain (sql : Text) : Text := Text.replaceAll DollarQuoted.plainTag "\x27" sql

/-- The SQL text as it is displayed, with or without colours. -/
def highlight (inColour : Bool) (sql : Text) : Text :=
  if inColour then (pieces (plain sql)).flatMap Piece.coloured else plain sql

example : pieces "SET_ (SET" =
    [.plain 'S', .plain 'E', .plain 'T', .plain '_', .plain ' ', .parenthesis '(',
     .keyword "SET"] := by decide

end Highlight

end SqlBuilder
