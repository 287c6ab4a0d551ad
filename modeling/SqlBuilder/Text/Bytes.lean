import SqlBuilder.Text.Basic

/-!
Texts as bytes.  In UTF-8 the first byte of a character differs from the ones that follow
it, so that the places between characters are found among the bytes alone.
-/

namespace SqlBuilder.Text

def bytes (text : Text) : List UInt8 := text.flatMap String.utf8EncodeChar

/-- Whether the first byte of a character stands at the index, or the bytes end there. -/
def isBoundary (bytes : List UInt8) (index : Nat) : Bool :=
  match bytes[index]? with
  | some byte => byte.IsUTF8FirstByte
  | none => index == bytes.length

/-- Walks back from the index to a place between characters, or to the beginning. -/
def boundaryBefore (bytes : List UInt8) : (index : Nat) → Nat
  | 0 => 0
  | index + 1 =>
      if isBoundary bytes (index + 1) then index + 1 else boundaryBefore bytes index

@[simp] theorem bytes_nil : bytes [] = [] := rfl

@[simp] theorem bytes_cons (c : Char) (rest : Text) :
    bytes (c :: rest) = String.utf8EncodeChar c ++ bytes rest := rfl

theorem bytes_append (first second : Text) :
    bytes (first ++ second) = bytes first ++ bytes second :=
  List.flatMap_append

@[simp] theorem length_bytes (text : Text) : (bytes text).length = utf8Length text := by
  induction text with
  | nil => rfl
  | cons c rest ih => simp [ih]

example : boundaryBefore (bytes "aé€") 5 = 3 := by decide

end SqlBuilder.Text
