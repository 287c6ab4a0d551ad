import SqlBuilder.Proofs.DataIndependence.Rendering

/-!
Rows of two runs.  Alike rows are refused for the same reason, or both make up a
table: their shape and their column names decide, and so does the order in which
maps are sorted.
-/

namespace SqlBuilder

namespace Runs

variable {ι : Type} {runs : Runs ι} {nested : Statement → Statement → Prop}

structure AlikeTable (runs : Runs ι) (nested : Statement → Statement → Prop)
    (first second : Table Value) : Prop where
  columns : first.columns = second.columns
  rows : AlikeCells runs nested first.rows second.rows

theorem AlikeBindings.sorted {first second : Bindings}
    (halike : AlikeBindings runs nested first second) :
    List.Forall₂ (AlikeEntry runs nested) first.sorted second.sorted := by
  apply forall₂_mergeSort halike
  intro a b c d hfirst hsecond
  rw [hfirst.name, hsecond.name]

theorem AlikeBindings.sorted_names_eq {first second : Bindings}
    (halike : AlikeBindings runs nested first second) :
    first.sorted.map Prod.fst = second.sorted.map Prod.fst :=
  List.forall₂_eq_eq_eq ▸ List.rel_map (fun _ _ hentry => hentry.name) halike.sorted

theorem AlikeBindings.alike_sorted_values {first second : Bindings}
    (halike : AlikeBindings runs nested first second) :
    List.Forall₂ (AlikeValue runs nested) (first.sorted.map Prod.snd)
      (second.sorted.map Prod.snd) :=
  List.rel_map (fun _ _ hentry => hentry.value) halike.sorted

/-- Tables of alike cells have rows of the same lengths, so that the same row is refused,
if any. -/
theorem agree_ofTable (columns : List Text) {first second : List (List Value)}
    (halike : AlikeCells runs nested first second) :
    Agree (AlikeTable runs nested) (RowSet.ofTable columns first)
      (RowSet.ofTable columns second) := by
  have hragged := rel_find? (forall₂_zipIdx halike 0)
    (fun row => row.1.length != columns.length) (fun row => row.1.length != columns.length)
    fun _ _ hrow => by rw [hrow.1.length_eq]
  rw [RowSet.ofTable, RowSet.ofTable, isEmpty_eq_of_forall₂ halike]
  split
  · exact .error _
  · split
    · exact .error _
    · generalize List.find? _ _ = ragged at hragged
      generalize List.find? _ _ = other at hragged
      cases hragged with
      | none => exact .ok ⟨rfl, halike⟩
      | some hrow =>
          obtain ⟨hcells, hindex⟩ := hrow
          dsimp only
          rw [hindex, hcells.length_eq]
          exact .error _

/-- Alike maps have the same names, so that they are sorted alike and the same map is
refused, if any. -/
theorem agree_ofMaps {first second : List Bindings}
    (halike : List.Forall₂ (AlikeBindings runs nested) first second) :
    Agree (AlikeTable runs nested) (RowSet.ofMaps first) (RowSet.ofMaps second) := by
  cases halike with
  | nil => exact .error _
  | @cons map other maps others hmap hmaps =>
      have hcolumns := AlikeBindings.sorted_names_eq hmap
      have hdiffering := rel_find? (forall₂_zipIdx hmaps 0)
        (fun entry => entry.1.sorted.map Prod.fst != other.sorted.map Prod.fst)
        (fun entry => entry.1.sorted.map Prod.fst != other.sorted.map Prod.fst)
        fun _ _ hentry => by rw [AlikeBindings.sorted_names_eq hentry.1]
      have hempty : map.isEmpty = other.isEmpty := isEmpty_eq_of_forall₂ hmap
      simp only [RowSet.ofMaps, hempty, hcolumns]
      split
      · exact .error _
      · generalize List.find? _ _ = found at hdiffering
        generalize List.find? _ _ = another at hdiffering
        cases hdiffering with
        | none =>
            refine .ok ⟨rfl, List.rel_map ?_ (.cons hmap hmaps)⟩
            intro map other hmap
            exact hmap.alike_sorted_values
        | some hentry =>
            dsimp only
            rw [hentry.2]
            exact .error _

theorem AlikeRows.agree_toTable {first second : RowSet}
    (halike : AlikeRows runs nested first second) :
    Agree (AlikeTable runs nested) first.toTable second.toTable := by
  cases halike with
  | table columns hrows => exact agree_ofTable columns hrows
  | maps hmaps => exact agree_ofMaps hmaps
  | @single first second hmap =>
      have hempty : first.isEmpty = second.isEmpty := isEmpty_eq_of_forall₂ hmap
      rw [RowSet.toTable, RowSet.toTable, RowSet.ofMap, RowSet.ofMap, hempty]
      split
      · exact .error _
      · exact .ok ⟨hmap.names_eq, .cons hmap.alike_values .nil⟩

theorem AlikeTable.parallel_rows
    (hnested : ∀ inner another, nested inner another → runs.ParallelStatement inner another)
    {first second : Table Value} (halike : AlikeTable runs nested first second) :
    List.Forall₂ runs.ParallelList first.rendered.rows second.rendered.rows :=
  List.rel_map (fun _ _ hcells => parallelList_literals hnested hcells) halike.rows

end Runs

end SqlBuilder
