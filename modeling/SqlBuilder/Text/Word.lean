import SqlBuilder.Text.Basic
import SqlBuilder.Text.WordRange

/-!
Word characters and word boundaries.  Placeholder names are runs of word
characters, and a keyword stands alone when both its ends are boundaries.
-/

namespace SqlBuilder.Text

/-- Letters, marks, decimal digits, connector punctuation and join controls;
in ASCII these are the letters, the digits and the underscore. -/
def isWord (c : Char) : Bool :=
  if c.toNat < 0x80 then c.isAlphanum || c == '_'
  else WordRange.all.any fun range => range.1 ≤ c.toNat && c.toNat ≤ range.2

def startsWithWord : Text → Bool
  | [] => false
  | c :: _ => isWord c

def wordRun (text : Text) : Text := text.takeWhile isWord

def afterWordRun (text : Text) : Text := text.dropWhile isWord

@[simp] theorem wordRun_append_afterWordRun (text : Text) :
    wordRun text ++ afterWordRun text = text :=
  List.takeWhile_append_dropWhile

theorem length_afterWordRun_le (text : Text) :
    (afterWordRun text).length ≤ text.length := by
  have split := congrArg List.length (wordRun_append_afterWordRun text)
  rw [List.length_append] at split
  omega

theorem isWord_of_mem_wordRun {text : Text} {c : Char} (member : c ∈ wordRun text) :
    isWord c = true := by
  induction text with
  | nil => simp [wordRun] at member
  | cons head tail ih =>
      simp only [wordRun, List.takeWhile_cons] at member ih
      split at member
      · rcases List.mem_cons.1 member with rfl | later
        · assumption
        · exact ih later
      · simp at member

theorem startsWithWord_afterWordRun (text : Text) :
    startsWithWord (afterWordRun text) = false := by
  induction text with
  | nil => rfl
  | cons head tail ih =>
      simp only [afterWordRun, List.dropWhile_cons] at ih ⊢
      split
      · exact ih
      · simp_all [startsWithWord]

theorem startsWithWord_append {first : Text} (hne : first ≠ []) (second : Text) :
    startsWithWord (first ++ second) = startsWithWord first := by
  obtain ⟨c, rest, rfl⟩ := List.exists_cons_of_ne_nil hne
  rfl

def endsWithWord (text : Text) : Bool := startsWithWord text.reverse

@[simp] theorem endsWithWord_concat (text : Text) (c : Char) :
    endsWithWord (text ++ [c]) = isWord c := by
  rw [endsWithWord, List.reverse_concat]
  rfl

theorem endsWithWord_append {second : Text} (hne : second ≠ []) (first : Text) :
    endsWithWord (first ++ second) = endsWithWord second := by
  rw [endsWithWord, List.reverse_append, startsWithWord_append (List.reverse_ne_nil_iff.2 hne)]
  rfl

/-- A word character stands on exactly one side of the place between two texts. -/
def IsWordBoundary (before after : Text) : Prop := endsWithWord before ≠ startsWithWord after

example : wordRun "id_1 = 2" = "id_1" := by decide
example : isWord 'é' = true ∧ isWord '²' = false ∧ isWord '\u200d' = true := by decide +kernel

end SqlBuilder.Text
