import SqlBuilder.Text.Word
import SqlBuilder.Value.Bindings

/-!
Templates: SQL text with placeholders.  A placeholder is a dollar sign and the
longest run of word characters after it.  Everything else is taken as it is,
and what takes a placeholder's place is not looked at again.
-/

namespace SqlBuilder

namespace Template

inductive Piece where
  | plain (c : Char)
  | placeholder (name : Text)
deriving DecidableEq, Repr

/-- Cuts a template into its pieces, from left to right. -/
def pieces : Text → List Piece
  | [] => []
  | c :: rest =>
      if c = '$' ∧ Text.startsWithWord rest then
        .placeholder (Text.wordRun rest) :: pieces (Text.afterWordRun rest)
      else .plain c :: pieces rest
termination_by template => template.length
decreasing_by
  · exact Nat.lt_succ_of_le (Text.length_afterWordRun_le rest)
  · exact Nat.lt_succ_self _

namespace Piece

def source : Piece → Text
  | plain c => [c]
  | placeholder name => '$' :: name

/-- What a piece contributes: itself, or the literal of the value bound to the
name, NULL when nothing is bound to it. -/
def text (bindings : Bindings) : Piece → Text
  | plain c => [c]
  | placeholder name => ((bindings.get? name).getD .null).literal

end Piece

/-- Cutting loses nothing. -/
theorem flatMap_source_pieces (template : Text) :
    (pieces template).flatMap Piece.source = template := by
  fun_induction pieces template with
  | case1 => rfl
  | case2 c rest token ih =>
      simp [Piece.source, ih, token.1]
  | case3 c rest token ih => simp [Piece.source, ih]

/-- The template with the literal of its value in the place of every placeholder. -/
def interpolate (template : Text) (bindings : Bindings) : Text :=
  (pieces template).flatMap (Piece.text bindings)

example : interpolate "id IN ($ids) AND n = $n$"
    (.ofList [("ids".toList, .list [.int 1, .int 2])]) = "id IN (1, 2) AND n = NULL$" := by
  decide +kernel

end Template

end SqlBuilder
