import SqlBuilder.Clause.Condition
import SqlBuilder.Proofs.Text.Standing
import SqlBuilder.Proofs.Value.Structure

/-!
Places for a value in a condition: at any depth of a list, under a name of a template or in
a map of columns.  Whatever stands there, the rest of the condition is the same, and the
literal of the value stands in it once for a column, and once for every placeholder of the
name in a template.
-/

namespace SqlBuilder

open Text (StandsAt)

/-- A place for a value in a value: the whole value, or a place in an item of a list. -/
inductive Value.Place where
  | whole
  | item (before : List Value) (place : Place) (after : List Value)

namespace Value.Place

def fill (value : Value) : Place → Value
  | whole => value
  | item before place after => .list (before ++ place.fill value :: after)

/-- A literal shows a value once for the place at which it stands. -/
theorem standsAt_literal (place : Place) :
    StandsAt 1 literal fun value => (place.fill value).literal := by
  induction place with
  | whole => exact .self literal
  | item before place after ih =>
      have hlist : ∀ value, ((item before place after).fill value).literal =
          Text.joined ", " (before.map literal ++ (place.fill value).literal ::
            after.map literal) := by
        intro value
        rw [fill, literal_list (by simp), List.map_append, List.map_cons]
      simp only [hlist]
      exact ih.item ", " _ _

end Value.Place

/-- Replacing or adding an entry does not depend on the value that it gets. -/
theorem exists_replaceOrAppend_eq (name : Text) (entries : List (Text × Value)) :
    ∃ before after, ∀ value,
      replaceOrAppend name value entries = before ++ (name, value) :: after := by
  induction entries with
  | nil => exact ⟨[], [], fun _ => rfl⟩
  | cons entry rest ih =>
      by_cases hname : entry.1 = name
      · exact ⟨[], rest, fun value => by rw [replaceOrAppend, if_pos hname]; rfl⟩
      · obtain ⟨before, after, hrest⟩ := ih
        exact ⟨entry :: before, after, fun value => by
          rw [replaceOrAppend, if_neg hname, hrest]; rfl⟩

/-- A place for a value in a condition. -/
inductive Condition.Place where
  | placeholder (sql : Text) (bindings : Bindings) (name : Text) (place : Value.Place)
  | column (values : Bindings) (name : Text) (place : Value.Place)

namespace Condition.Place

def fill (value : Value) : Place → Condition
  | placeholder sql bindings name place => .template sql (bindings.insert name (place.fill value))
  | column values name place => .columns (values.insert name (place.fill value))

/-- How often the condition shows what stands at the place. -/
def shown : Place → Nat
  | placeholder sql _ name _ => (Template.pieces sql).count (.placeholder name)
  | column _ _ _ => 1

/-- A template shows a value once for every placeholder of the name that it is bound to. -/
theorem standsAt_interpolate (template : Text) (bindings : Bindings) (name : Text)
    (place : Value.Place) :
    StandsAt ((Template.pieces template).count (.placeholder name)) Value.literal fun value =>
      Template.interpolate template (bindings.insert name (place.fill value)) := by
  simp only [Template.interpolate]
  induction Template.pieces template with
  | nil => exact .const Value.literal []
  | cons piece pieces ih =>
      simp only [List.flatMap_cons]
      rw [List.count_cons, Nat.add_comm]
      refine .append ?_ ih
      cases piece with
      | plain c => exact .const Value.literal [c]
      | placeholder other =>
          simp only [Template.Piece.text, Bindings.get?_insert]
          by_cases hother : other = name
          · simp only [hother, if_true, beq_self_eq_true, Option.getD_some]
            exact place.standsAt_literal
          · have hdifferent : (Template.Piece.placeholder other == .placeholder name) = false := by
              simpa using hother
            simp only [if_neg hother, hdifferent, Bool.false_eq_true, if_false]
            exact .const Value.literal _

theorem standsAt_text (place : Place) :
    StandsAt place.shown Value.literal fun value => (place.fill value).text := by
  cases place with
  | placeholder sql bindings name place => exact standsAt_interpolate sql bindings name place
  | column values name place =>
      obtain ⟨before, after, hentries⟩ := exists_replaceOrAppend_eq name values.entries
      have htext : ∀ value, ((column values name place).fill value).text =
          Text.joined " AND " (before.map membership ++
            (Identifier.quote name ++ " IN " ++ Text.parenthesized (place.fill value).literal) ::
              after.map membership) := by
        intro value
        have hfilled := congrArg (List.map membership) (hentries (place.fill value))
        rw [List.map_append, List.map_cons] at hfilled
        exact congrArg (Text.joined " AND ") hfilled
      simp only [htext]
      exact (place.standsAt_literal.parenthesized.append_left _).item " AND " _ _

end Condition.Place

end SqlBuilder
