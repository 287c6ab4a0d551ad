import SqlBuilder.Proofs.Json.RoundTrip
import SqlBuilder.Record

/-!
The JSON text of a result.  A reader of JSON that keeps the order of members and repeated
names finds in it every record with its columns and values, or the header and the rows, so
that different results have different texts.
-/

namespace SqlBuilder

namespace Json

variable {α : Type}

def listOf? (readItem : Json → Option α) : Json → Option (List α)
  | array items => items.mapM readItem
  | _ => none

def name? : Json → Option Text
  | string value => some value
  | _ => none

/-- A value of a row: a text, or nothing where there is null. -/
def cell? : Json → Option (Option Text)
  | null => some none
  | string value => some (some value)
  | _ => none

/-- The members of an object, the values of which are those of a row. -/
def entries? : Json → Option (List (Text × Option Text))
  | object members => members.mapM fun member => (cell? member.2).map fun cell => (member.1, cell)
  | _ => none

/-- The header and the rows of an object of just these two. -/
def table? : Json → Option (List Text × List (List (Option Text)))
  | object [(first, header), (second, rows)] =>
      if first = "header" ∧ second = "rows" then do
        some (← listOf? name? header, ← listOf? (listOf? cell?) rows)
      else none
  | _ => none

/-- An array of which every item is read is read item by item. -/
theorem listOf?_array_map {β : Type} {readItem : Json → Option β} {write : α → Json} {view : α → β}
    (hread : ∀ item, readItem (write item) = some (view item)) (items : List α) :
    listOf? readItem (array (items.map write)) = some (items.map view) := by
  rw [listOf?]
  induction items with
  | nil => rfl
  | cons item items ih => simp [hread, ih]

theorem cell?_ofText? (cell : Option Text) : cell? (ofText? cell) = some cell := by
  cases cell <;> rfl

end Json

namespace Record

/-- The record has a value for every column. -/
def IsFilled (record : Record) : Prop := record.values.length = record.columns.length

instance (record : Record) : Decidable record.IsFilled := inferInstanceAs (Decidable (_ = _))

def ofEntries (entries : List (Text × Option Text)) : Record where
  columns := entries.map Prod.fst
  values := entries.map Prod.snd

theorem ofEntries_entries {record : Record} (hfilled : record.IsFilled) :
    ofEntries record.entries = record := by
  have hcolumns : record.entries.map Prod.fst = record.columns :=
    List.map_fst_zip (Nat.le_of_eq hfilled.symm)
  have hvalues : record.entries.map Prod.snd = record.values :=
    List.map_snd_zip (Nat.le_of_eq hfilled)
  rw [ofEntries, hcolumns, hvalues]

theorem entries?_toJson (record : Record) :
    Json.entries? record.toJson = some record.entries := by
  rw [toJson, Json.entries?]
  induction record.entries with
  | nil => rfl
  | cons entry entries ih => simp [Json.cell?_ofText?, ih]

end Record

namespace Output

/-- All records of the result have a value for every column. -/
def IsFilled : Output → Prop
  | records rows => ∀ record ∈ rows, record.IsFilled
  | columns _ _ => True

theorem listOf?_toJson (rows : List Record) :
    Json.listOf? Json.entries? (records rows).toJson = some (rows.map Record.entries) :=
  Json.listOf?_array_map Record.entries?_toJson rows

theorem table?_toJson (header : List Text) (rows : List (List (Option Text))) :
    Json.table? (columns header rows).toJson = some (header, rows) := by
  have hrow : ∀ row, Json.listOf? Json.cell? (rowJson row) = some row := fun row => by
    rw [rowJson, Json.listOf?_array_map Json.cell?_ofText?, List.map_id']
  have hrows : Json.listOf? (Json.listOf? Json.cell?) (.array (rows.map rowJson)) = some rows := by
    rw [Json.listOf?_array_map hrow, List.map_id']
  have hheader : Json.listOf? Json.name? (.array (header.map .string)) = some header := by
    rw [@Json.listOf?_array_map _ _ Json.name? .string id fun _ => rfl, List.map_id]
  simp [toJson, Json.table?, hheader, hrows]

/-- Different results have different texts, whichever forms they have. -/
theorem eq_of_jsonText_eq {first second : Output} (hfirst : first.IsFilled)
    (hsecond : second.IsFilled) (hsame : first.jsonText = second.jsonText) : first = second := by
  have hjson : first.toJson = second.toJson := Json.text_injective hsame
  cases first with
  | columns header rows =>
      cases second with
      | records others => cases hjson
      | columns names others =>
          have hread := congrArg Json.table? hjson
          rw [table?_toJson, table?_toJson] at hread
          cases hread
          rfl
  | records rows =>
      cases second with
      | columns names others => cases hjson
      | records others =>
          have hread := congrArg (Json.listOf? Json.entries?) hjson
          rw [listOf?_toJson, listOf?_toJson] at hread
          have hrebuilt : ∀ rows : List Record, (∀ record ∈ rows, record.IsFilled) →
              (rows.map Record.entries).map Record.ofEntries = rows := fun rows hfilled => by
            rw [List.map_map]
            exact (List.map_congr_left fun record hmem =>
              Record.ofEntries_entries (hfilled record hmem)).trans (List.map_id rows)
          rw [← hrebuilt rows hfirst, ← hrebuilt others hsecond, Option.some.inj hread]

/-- A reader of JSON finds the records of a result, each with its columns and values in
order, or its header and its rows; and no two results have one text. -/
theorem json_text_loses_nothing :
    (∀ rows : List Record, (∀ record ∈ rows, record.IsFilled) →
      ∃ entries, (Json.read? (records rows).jsonText).bind (Json.listOf? Json.entries?) =
          some entries ∧
        entries.map (List.map Prod.fst) = rows.map Record.columns ∧
        entries.map (List.map Prod.snd) = rows.map Record.values) ∧
    (∀ header rows,
      (Json.read? (columns header rows).jsonText).bind Json.table? = some (header, rows)) ∧
    ∀ first second : Output, first.IsFilled → second.IsFilled →
      first.jsonText = second.jsonText → first = second := by
  refine ⟨fun rows hfilled => ?_, fun header rows => ?_, fun first second => eq_of_jsonText_eq⟩
  · refine ⟨rows.map Record.entries, ?_, ?_, ?_⟩
    · rw [jsonText, Json.read?_text, Option.bind_some, listOf?_toJson]
    · rw [List.map_map]
      exact List.map_congr_left fun record hmem =>
        congrArg Record.columns (Record.ofEntries_entries (hfilled record hmem))
    · rw [List.map_map]
      exact List.map_congr_left fun record hmem =>
        congrArg Record.values (Record.ofEntries_entries (hfilled record hmem))
  · rw [jsonText, Json.read?_text, Option.bind_some, table?_toJson]

/-- A row with a name that stands twice and one that is empty, with NULL and the text that
looks like it, and with characters of every sort of escape; and a row of no columns. -/
def oddRows : List Record :=
  [⟨["a".toList, "a".toList, []], [some "null", none, some "\x22\\/\n\x01\x7fé"]⟩, ⟨[], []⟩]

theorem odd_rows_are_read_back :
    (∀ record ∈ oddRows, record.IsFilled) ∧
      (records oddRows).jsonText =
        "[\x7b\x22a\x22:\x22null\x22,\x22a\x22:null," ++
          "\x22\x22:\x22\\\x22\\\\/\\n\\u0001\x7fé\x22\x7d,\x7b\x7d]" ∧
      ∃ entries, (Json.read? (records oddRows).jsonText).bind (Json.listOf? Json.entries?) =
          some entries ∧
        entries.map (List.map Prod.fst) = oddRows.map Record.columns ∧
        entries.map (List.map Prod.snd) = oddRows.map Record.values := by
  have hfilled : ∀ record ∈ oddRows, record.IsFilled := by decide
  exact ⟨hfilled, by decide +kernel, json_text_loses_nothing.1 oddRows hfilled⟩

end Output

end SqlBuilder
