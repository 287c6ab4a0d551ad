import SqlBuilder.Statement.Sql
import SqlBuilder.Text.Blank

/-!
Directions of an ordering, read from free text.  Only six texts are directions;
any other text is dropped and never reaches the statement.
-/

namespace SqlBuilder

namespace Direction

def all : List Direction :=
  [⟨false, none⟩, ⟨true, none⟩, ⟨false, some .first⟩, ⟨false, some .last⟩,
   ⟨true, some .first⟩, ⟨true, some .last⟩]

/-- A character without its case.  The letters of the six directions have ASCII
variants only, apart from the long s. -/
def caseless (c : Char) : Char := if c = 'ſ' then 's' else c.toLower

/-- The direction that the text spells, in any case and between white space, but
with single spaces between its words. -/
def read? (text : Text) : Option Direction :=
  let words := (Text.trimmed text).map caseless
  all.find? fun direction => direction.text.map caseless == words

theorem mem_all (direction : Direction) : direction ∈ all := by
  rcases direction with ⟨_ | _, _ | _ | _⟩ <;> decide

theorem read?_text (direction : Direction) : read? direction.text = some direction := by
  rcases direction with ⟨_ | _, _ | _ | _⟩ <;> decide

example : read? "\tdeſc nulls LAST " = some ⟨true, some .last⟩ := by decide
example : read? "asc  nulls last" = none := by decide
example : read? "asc; drop" = none := by decide

end Direction

/-- A column to order by, with a direction in free text if one is given. -/
structure OrderKey where
  column : Text
  direction : Option Text := none
deriving DecidableEq, Repr

namespace OrderKey

/-- The key with its direction read; a text that is no direction is dropped. -/
def rendered (key : OrderKey) : SortKey where
  column := key.column
  direction := key.direction.bind Direction.read?

end OrderKey

end SqlBuilder
