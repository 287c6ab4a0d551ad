import SqlBuilder.Clause.RowSet
import SqlBuilder.Proofs.Value.Sorting

/-!
Row sets that make up a table: exactly those with a column, a row, and the same
columns in every row.  The table of a row set has a cell for every column in each of
its rows.
-/

namespace SqlBuilder

namespace RowSet

/-- There are columns and rows, and every row is given for exactly these columns. -/
def LinesUp : RowSet → Prop
  | table columns rows => columns ≠ [] ∧ rows ≠ [] ∧ ∀ row ∈ rows, row.length = columns.length
  | maps [] => False
  | maps (first :: others) =>
      first.names ≠ [] ∧ ∀ map ∈ others, ∀ name, name ∈ map.names ↔ name ∈ first.names
  | single map => map.names ≠ []

theorem find?_zipIdx_eq_none_iff {α : Type} (items : List α) (test : α → Bool) :
    (items.zipIdx.find? fun item => test item.1) = none ↔ ∀ item ∈ items, test item = false := by
  have hitems : items.zipIdx.map Prod.fst = items := List.zipIdx_map_fst 0 items
  rw [List.find?_eq_none, ← hitems, List.forall_mem_map, hitems]
  simp

/-- A table is accepted exactly if its rows line up, and then it is taken as it is. -/
theorem ofTable_eq_ok_iff {columns : List Text} {rows : List (List Value)}
    {result : Table Value} :
    ofTable columns rows = .ok result ↔
      (table columns rows).LinesUp ∧ ⟨columns, rows⟩ = result := by
  have hragged := find?_zipIdx_eq_none_iff rows fun row => row.length != columns.length
  simp only [bne_eq_false_iff_eq] at hragged
  rw [ofTable, LinesUp, ← hragged]
  split
  · next hempty => simp [List.isEmpty_iff.1 hempty]
  · next hcolumns =>
      split
      · next hempty => simp [List.isEmpty_iff.1 hempty]
      · next hrows =>
          rw [List.isEmpty_iff] at hcolumns hrows
          split
          · next hfound => simp [hfound]
          · next hnone => simp [hnone, hcolumns, hrows]

/-- Maps are accepted exactly if they have the same names, and then their cells are put in
the order of the sorted names. -/
theorem ofMaps_eq_ok_iff {first : Bindings} {others : List Bindings} {result : Table Value} :
    ofMaps (first :: others) = .ok result ↔
      (maps (first :: others)).LinesUp ∧
        ⟨first.sorted.map Prod.fst, (first :: others).map fun map => map.sorted.map Prod.snd⟩ =
          result := by
  have hdiffering := find?_zipIdx_eq_none_iff others
    fun map => map.sorted.map Prod.fst != first.sorted.map Prod.fst
  simp only [bne_eq_false_iff_eq, Bindings.map_fst_sorted_eq_iff] at hdiffering
  rw [ofMaps, LinesUp, ← hdiffering]
  simp only [Bindings.isEmpty_iff]
  split
  · next hempty => simp [hempty]
  · next hcolumns =>
      split
      · next hfound => simp [hfound]
      · next hnone => simp [hnone, hcolumns]

theorem ofMap_eq_ok_iff {map : Bindings} {result : Table Value} :
    ofMap map = .ok result ↔ (single map).LinesUp ∧ ⟨map.names, [map.values]⟩ = result := by
  simp only [ofMap, LinesUp, Bindings.isEmpty_iff]
  split
  · next hempty => simp [hempty]
  · next hcolumns => simp [hcolumns]

/-- The row sets that make up a table are those that line up. -/
theorem exists_toTable_eq_ok_iff (rows : RowSet) :
    (∃ result, rows.toTable = .ok result) ↔ rows.LinesUp := by
  cases rows with
  | table columns rows => simp [toTable, ofTable_eq_ok_iff]
  | single map => simp [toTable, ofMap_eq_ok_iff]
  | maps rows =>
      cases rows with
      | nil => simp [toTable, ofMaps, LinesUp]
      | cons first others => simp [toTable, ofMaps_eq_ok_iff]

/-- Every row of a table has a cell for every column. -/
theorem length_of_mem_rows {rows : RowSet} {result : Table Value}
    (hresult : rows.toTable = .ok result) {row : List Value} (hrow : row ∈ result.rows) :
    row.length = result.columns.length := by
  cases rows with
  | table columns rows =>
      obtain ⟨⟨-, -, hlength⟩, rfl⟩ := ofTable_eq_ok_iff.1 hresult
      exact hlength row hrow
  | single map =>
      obtain ⟨-, rfl⟩ := ofMap_eq_ok_iff.1 hresult
      rw [List.mem_singleton.1 hrow, Bindings.values, Bindings.names, List.length_map,
        List.length_map]
  | maps rows =>
      cases rows with
      | nil => cases hresult
      | cons first others =>
          obtain ⟨⟨-, hnames⟩, rfl⟩ := ofMaps_eq_ok_iff.1 hresult
          obtain ⟨map, hmap, rfl⟩ := List.mem_map.1 hrow
          have hsame : map.sorted.map Prod.fst = first.sorted.map Prod.fst := by
            rcases List.mem_cons.1 hmap with rfl | hother
            · rfl
            · exact (Bindings.map_fst_sorted_eq_iff map first).2 (hnames map hother)
          rw [← hsame, List.length_map, List.length_map]

end RowSet

end SqlBuilder
