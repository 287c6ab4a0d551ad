import SqlBuilder.Json

/-!
Rows of a result and the two forms in which a result is handed out.
-/

namespace SqlBuilder

/-- A row of a result: the names of its columns and its values, where nothing
stands for NULL. -/
structure Record where
  columns : List Text
  values : List (Option Text)
deriving DecidableEq, Repr

namespace Record

def entries (record : Record) : List (Text × Option Text) := record.columns.zip record.values

/-- The value of the first column of this name.  There is none if no column has
the name, or if its value is NULL. -/
def get? (record : Record) (name : Text) : Option Text := (record.entries.lookup name).join

def size (record : Record) : Nat := record.values.length

def isEmpty (record : Record) : Bool := record.values.isEmpty

/-- The record as an object, with a member for every column. -/
def toJson (record : Record) : Json :=
  .object (record.entries.map fun entry => (entry.1, Json.ofText? entry.2))

end Record

/-- How the rows of a result are handed out. -/
inductive RowFormat where
  /-- One record for each row. -/
  | records
  /-- The names of the columns once, and the values of each row. -/
  | columns
deriving DecidableEq, Repr

inductive Output where
  | records (records : List Record)
  | columns (header : List Text) (rows : List (List (Option Text)))
deriving DecidableEq, Repr

namespace Output

/-- The header is that of the first record. -/
def ofRecords (format : RowFormat) (rows : List Record) : Output :=
  match format with
  | .records => records rows
  | .columns => columns ((rows.head?.map Record.columns).getD []) (rows.map Record.values)

def size : Output → Nat
  | records rows => rows.length
  | columns _ rows => rows.length

def isEmpty (output : Output) : Bool := output.size == 0

def records? : Output → Option (List Record)
  | records rows => some rows
  | columns .. => none

/-- A row of values as an array. -/
def rowJson (row : List (Option Text)) : Json := .array (row.map Json.ofText?)

def toJson : Output → Json
  | records rows => .array (rows.map Record.toJson)
  | columns header rows =>
      .object [("header", .array (header.map Json.string)), ("rows", .array (rows.map rowJson))]

def jsonText (output : Output) : Text := output.toJson.text

end Output

end SqlBuilder
