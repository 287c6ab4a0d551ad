import SqlBuilder.Proofs.Execution.Logging

/-!
The two formats of a result.  Records bring the names of their values along, whereas a
table of values has one header for all of them, which is that of the first record.  Both
formats hold the same values in the same order.  They also name the values alike exactly
if every record gives its values the names that the first record would give them.
-/

namespace SqlBuilder

/-- Pairing the same values with other names makes no difference exactly if the names
that are used up are the same. -/
theorem zip_eq_zip_iff_take_eq_take {names others : List Text} {values : List (Option Text)} :
    names.zip values = others.zip values ↔
      names.take values.length = others.take values.length := by
  induction values generalizing names others with
  | nil => simp
  | cons value rest ih => cases names <;> cases others <;> simp [ih]

namespace Record

/-- The header names the values of the record as the record does. -/
def IsNamedBy (header : List Text) (record : Record) : Prop :=
  header.take record.values.length = record.columns.take record.values.length

instance (header : List Text) (record : Record) : Decidable (record.IsNamedBy header) :=
  inferInstanceAs (Decidable (_ = _))

/-- A record that has a value for every column is named by its columns and nothing else. -/
theorem isNamedBy_iff_isPrefix {header : List Text} {record : Record}
    (hfilled : record.values.length = record.columns.length) :
    record.IsNamedBy header ↔ record.columns <+: header := by
  rw [IsNamedBy, hfilled, List.take_length, List.prefix_iff_eq_take, eq_comm]

end Record

namespace Output

def values : Output → List (List (Option Text))
  | records rows => rows.map Record.values
  | columns _ rows => rows

/-- The values of a result, each with the name that the result gives it. -/
def named : Output → List (List (Text × Option Text))
  | records rows => rows.map Record.entries
  | columns header rows => rows.map header.zip

theorem values_ofRecords (format : RowFormat) (rows : List Record) :
    (ofRecords format rows).values = rows.map Record.values := by
  cases format <;> rfl

/-- Every record is named by the header of the first. -/
def OneHeader (rows : List Record) : Prop :=
  ∀ first ∈ rows.head?, ∀ record ∈ rows, record.IsNamedBy first.columns

/-- The two forms give every value the same name exactly if one header names the values of
all records. -/
theorem named_ofRecords_eq_iff (rows : List Record) :
    (ofRecords .columns rows).named = (ofRecords .records rows).named ↔ OneHeader rows := by
  cases rows with
  | nil => simp [ofRecords, named, OneHeader]
  | cons first rest =>
      rw [ofRecords, ofRecords, named, named, List.map_map, List.map_inj_left]
      simp only [OneHeader, List.head?_cons, Option.mem_some_iff, forall_eq']
      exact forall_congr' fun record => imp_congr_right fun _ => zip_eq_zip_iff_take_eq_take

/-- Two runs that differ in the format only have the same values, row by row, and fail
alike.  Their values have the same names exactly if the answer has one header, and for
records with a value in every column this means that the columns of each record are the
first columns of the first one. -/
theorem formats_agree_iff_one_header (executor : Executor) (options : ExecutionOptions)
    (sql : Text) :
    let result := fun format => (execute executor { options with format := format } sql).result
    let answer := executor (Text.withoutNul sql)
    (result .columns).map values = (result .records).map values ∧
    ((result .columns).map named = (result .records).map named ↔
      ∀ rows, answer = .ok rows → OneHeader rows) ∧
    ∀ rows, answer = .ok rows →
      (∀ record ∈ rows, record.values.length = record.columns.length) →
        (OneHeader rows ↔
          ∀ first ∈ rows.head?, ∀ record ∈ rows, record.columns <+: first.columns) := by
  simp only [result_execute]
  cases executor (Text.withoutNul sql) with
  | error reason => simp [Except.map]
  | ok rows =>
      simp only [Except.map, Except.ok.injEq, forall_eq']
      refine ⟨?_, named_ofRecords_eq_iff rows, ?_⟩
      · rw [values_ofRecords, values_ofRecords]
      · intro hfilled
        refine forall_congr' fun first => imp_congr_right fun _ => ?_
        exact forall_congr' fun record => imp_congr_right fun hmem =>
          Record.isNamedBy_iff_isPrefix (hfilled record hmem)

/-- Rows of two statements, the second of which has only the first of the columns. -/
def rowsOfTwoStatements : List Record :=
  [⟨["id".toList, "name".toList], [some "1", none]⟩, ⟨["id".toList], [some "2"]⟩]

theorem rows_of_two_statements_keep_their_names :
    OneHeader rowsOfTwoStatements ∧
      (execute (fun _ => .ok rowsOfTwoStatements) { format := .columns } "SELECT 1").result.map
          named =
        .ok [[("id".toList, some "1".toList), ("name".toList, none)],
          [("id".toList, some "2".toList)]] := by
  have hheader : OneHeader rowsOfTwoStatements := by
    rintro first ⟨⟩
    decide
  refine ⟨hheader, ?_⟩
  apply ((formats_agree_iff_one_header (fun _ => .ok rowsOfTwoStatements) {} "SELECT 1").2.1.2
    _).trans rfl
  rintro rows ⟨⟩
  exact hheader

theorem exists_answer_with_values_under_no_name :
    ¬ ∀ (executor : Executor) (options : ExecutionOptions) (sql : Text),
      (execute executor { options with format := .columns } sql).result.map named =
        (execute executor { options with format := .records } sql).result.map named := by
  intro hall
  have hnamed := hall (fun _ => .ok [⟨["a".toList], [some "1"]⟩,
    ⟨["a".toList, "b".toList], [some "2", some "3"]⟩]) {} "SELECT 1"
  exact absurd (Except.ok.inj hnamed) (by decide)

end Output

end SqlBuilder
