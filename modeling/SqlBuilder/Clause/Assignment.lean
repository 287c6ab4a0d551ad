import SqlBuilder.Quoting.Identifier
import SqlBuilder.Value.Bindings

/-!
Assignments of an UPDATE: SQL text, or a map from columns to values.
-/

namespace SqlBuilder

/-- What SET assigns. -/
inductive Assignments where
  | raw (sql : Text)
  | columns (values : Bindings)

namespace Assignments

/-- The assignment to one column of a map. -/
def assignment (entry : Text × Value) : Text :=
  Identifier.quote entry.1 ++ " = " ++ entry.2.literal

def text : Assignments → Text
  | raw sql => sql
  | columns values => Text.joined ", " (values.entries.map assignment)

end Assignments

end SqlBuilder
