import SqlBuilder.Draft.Basic
import SqlBuilder.Highlight

/-!
The SQL of a draft as it is displayed.
-/

namespace SqlBuilder.Draft

def pretty (draft : Draft) (inColour : Bool) : Except Error Text :=
  draft.sql.map (Highlight.highlight inColour)

end SqlBuilder.Draft
