import SqlBuilder.Error
import SqlBuilder.Quoting.Identifier
import SqlBuilder.Value.Bindings

/-!
Rows to insert.  They are given as columns and rows, as one map per row, or as
one map for the only row; what is inserted is always a table in which every
row has a cell for every column.
-/

namespace SqlBuilder

/-- The rows of an INSERT as its caller gives them. -/
inductive RowSet where
  | table (columns : List Text) (rows : List (List Value))
  | maps (maps : List Bindings)
  | single (map : Bindings)

structure Table (Cell : Type) where
  columns : List Text
  rows : List (List Cell)

namespace Table

def rendered (table : Table Value) : Table Text where
  columns := table.columns.map Identifier.quote
  rows := table.rows.map fun row => row.map Value.literal

end Table

namespace RowSet

/-- A table as it was given, provided that it has a column and a row and that no
row is longer or shorter than the list of columns. -/
def ofTable (columns : List Text) (rows : List (List Value)) :
    Except Malformed (Table Value) :=
  if columns.isEmpty then .error .noColumn
  else if rows.isEmpty then .error .noRow
  else
    match rows.zipIdx.find? fun row => row.1.length != columns.length with
    | some (row, index) => .error (.raggedRow index row.length columns.length)
    | none => .ok ⟨columns, rows⟩

/-- The table of some maps: its columns are the names of the first map in
order, and every other map has to have the same names. -/
def ofMaps : List Bindings → Except Malformed (Table Value)
  | [] => .error .noRow
  | first :: others =>
      if first.isEmpty then .error .noColumn
      else
        let columns := first.sorted.map Prod.fst
        match others.zipIdx.find? fun map => map.1.sorted.map Prod.fst != columns with
        | some (_, index) => .error (.otherColumns (index + 1))
        | none => .ok ⟨columns, (first :: others).map fun map => map.sorted.map Prod.snd⟩

/-- The table of a single map, its columns in the order of their insertion. -/
def ofMap (map : Bindings) : Except Malformed (Table Value) :=
  if map.isEmpty then .error .noColumn else .ok ⟨map.names, [map.values]⟩

def toTable : RowSet → Except Malformed (Table Value)
  | table columns rows => ofTable columns rows
  | maps rows => ofMaps rows
  | single map => ofMap map

end RowSet

end SqlBuilder
