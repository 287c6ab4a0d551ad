import SqlBuilder.Quoting.Identifier
import SqlBuilder.Value.Template

/-!
Conditions: a template with its bindings, or a map from columns to the values
that they may have.
-/

namespace SqlBuilder

/-- A condition of WHERE or HAVING. -/
inductive Condition where
  | template (sql : Text) (bindings : Bindings)
  | columns (values : Bindings)

namespace Condition

/-- One column of a map: its value is among the values given. -/
def membership (entry : Text × Value) : Text :=
  Identifier.quote entry.1 ++ " IN " ++ Text.parenthesized entry.2.literal

/-- The SQL text of a condition.  It is empty for an empty template and for an
empty map. -/
def text : Condition → Text
  | template sql bindings => Template.interpolate sql bindings
  | columns values => Text.joined " AND " (values.entries.map membership)

/-- The texts of the conditions that have any. -/
def texts (conditions : List Condition) : List Text :=
  (conditions.map text).filter fun condition => !condition.isEmpty

end Condition

end SqlBuilder
