import SqlBuilder.Proofs.DataIndependence.Agreement
import SqlBuilder.Proofs.Draft.History

/-!
Rows that are given as maps.  Every map is sorted on its own and its values are then placed
by position, but each of them comes to stand under the column of its name.
-/

namespace SqlBuilder

namespace RowSet

variable {first odd : Bindings} {before after maps others : List Bindings}

def SameNames (first second : Bindings) : Prop :=
  ∀ name, name ∈ first.names ↔ name ∈ second.names

instance (first second : Bindings) : Decidable (SameNames first second) :=
  decidable_of_iff (first.names ⊆ second.names ∧ second.names ⊆ first.names)
    ⟨fun hsubsets _ => ⟨fun hname => hsubsets.1 hname, fun hname => hsubsets.2 hname⟩,
      fun hsame => ⟨fun name => (hsame name).1, fun name => (hsame name).2⟩⟩

theorem find?_zipIdx_eq_some {α : Type} {before : List α} {item : α} (after : List α)
    (test : α → Bool) (hbefore : ∀ earlier ∈ before, test earlier = false)
    (hitem : test item = true) :
    (before ++ item :: after).zipIdx.find? (fun entry => test entry.1) =
      some (item, before.length) := by
  have hnone := (find?_zipIdx_eq_none_iff before test).2 hbefore
  rw [List.zipIdx_append, List.find?_append, hnone, List.zipIdx_cons, List.find?_cons, hitem]
  simp

/-- The first map whose names differ from those of the first row is named. -/
theorem ofMaps_eq_otherColumns (hcolumns : first.names ≠ [])
    (hbefore : ∀ map ∈ before, SameNames map first) (hodd : ¬ SameNames odd first) :
    ofMaps (first :: (before ++ odd :: after)) = .error (.otherColumns (before.length + 1)) := by
  let differs (map : Bindings) := map.sorted.map Prod.fst != first.sorted.map Prod.fst
  have hsame : ∀ map ∈ before, differs map = false := by
    intro map hmap
    rw [bne_eq_false_iff_eq]
    exact (Bindings.map_fst_sorted_eq_iff map first).2 (hbefore map hmap)
  have hdiffers : differs odd = true := by
    rw [bne_iff_ne, ne_eq, Bindings.map_fst_sorted_eq_iff]
    exact hodd
  have hfilled : ¬ first.isEmpty = true := fun hempty =>
    hcolumns ((Bindings.isEmpty_iff first).1 hempty)
  have hfound := find?_zipIdx_eq_some after differs hsame hdiffers
  rw [ofMaps, if_neg hfilled]
  dsimp only [differs] at hfound ⊢
  rw [hfound]

/-- Maps that sort alike make up the same table or are refused alike. -/
theorem ofMaps_eq_of_sorted_eq
    (hsame : List.Forall₂ (fun map other => map.sorted = other.sorted) maps others) :
    ofMaps maps = ofMaps others := by
  cases hsame with
  | nil => rfl
  | @cons map other maps others hmap hmaps =>
      have hdiffering := rel_find? (forall₂_zipIdx hmaps 0)
        (fun entry => entry.1.sorted.map Prod.fst != other.sorted.map Prod.fst)
        (fun entry => entry.1.sorted.map Prod.fst != other.sorted.map Prod.fst)
        fun _ _ hentry => by rw [hentry.1]
      have hvalues : maps.map (fun map => map.sorted.map Prod.snd) =
          others.map fun map => map.sorted.map Prod.snd :=
        List.forall₂_eq_eq_eq ▸ List.rel_map (fun _ _ hentry => by rw [hentry]) hmaps
      simp only [ofMaps, List.map_cons, ← Bindings.isEmpty_sorted, hmap, hvalues]
      split
      · rfl
      · generalize List.find? _ _ = found at hdiffering
        generalize List.find? _ _ = another at hdiffering
        cases hdiffering with
        | none => rfl
        | some hentry => simp only [hentry.2]

end RowSet

namespace Draft

open RowSet (SameNames)

/-- The row has a cell under each name, the literal of what the map binds to the name. -/
def Aligned (names : List Text) (map : Bindings) (row : List Text) : Prop :=
  row.map some = names.map fun name => (map.get? name).map Value.literal

/-- The texts ascend strictly, code point by code point. -/
def Ascending (texts : List Text) : Prop :=
  texts.Pairwise fun text next => text.map Char.toNat < next.map Char.toNat

variable {s : Statement} {first : Bindings} {others : List Bindings}

/-- Sorted by their names, the cells of a map are in the order of the sorted names of any
map of the same names. -/
theorem aligned_sorted {map : Bindings} (hsame : SameNames map first) :
    Aligned (first.sorted.map Prod.fst) map ((map.sorted.map Prod.snd).map Value.literal) := by
  have hnames := (Bindings.map_fst_sorted_eq_iff map first).2 hsame
  calc ((map.sorted.map Prod.snd).map Value.literal).map some
      = ((map.sorted.map Prod.snd).map some).map (Option.map Value.literal) := by
        simp only [List.map_map, Function.comp_def, Option.map_some]
    _ = (first.sorted.map Prod.fst).map fun name => (map.get? name).map Value.literal := by
        rw [← map.map_get?_map_fst_sorted, hnames, List.map_map]
        rfl

/-- Maps that line up are inserted with every cell under its column. -/
theorem exists_aligned_rows (hlines : (RowSet.maps (first :: others)).LinesUp) :
    ∃ (names : List Text) (rows : List (List Text)),
      (Step.values (.maps (first :: others))).revised s =
        { s with insertColumns := names.map Identifier.quote, rows := some rows } ∧
      Ascending names ∧ (∀ name, name ∈ names ↔ name ∈ first.names) ∧
      List.Forall₂ (Aligned names) (first :: others) rows := by
  have htable := RowSet.ofMaps_eq_ok_iff.2 ⟨hlines, rfl⟩
  refine ⟨first.sorted.map Prod.fst,
    (first :: others).map fun map => (map.sorted.map Prod.snd).map Value.literal, ?_,
    first.pairwise_lt_map_fst_sorted, first.mem_map_fst_sorted, ?_⟩
  · rw [Step.revised_values, RowSet.toTable, htable]
    simp [Table.rendered]
  · rw [List.forall₂_map_right_iff, List.forall₂_same]
    intro map hmap
    apply aligned_sorted
    rcases List.mem_cons.1 hmap with rfl | hother
    · exact fun name => Iff.rfl
    · exact hlines.2 map hother

/-- Rows that are given as maps are accepted exactly if there is a first map, it binds a name
and all maps bind the same names; otherwise the first map that binds others is named.
Accepted maps make up rows under their names in ascending order, each cell under the name it
is bound to, so it does not matter in which order a map was filled. -/
theorem maps_fill_rows_under_ascending_names (s : Statement) (maps : List Bindings) :
    ((Step.values (.maps maps)).fault? s = none ↔
      ∃ first others, maps = first :: others ∧ first.names ≠ [] ∧
        ∀ map ∈ others, SameNames map first) ∧
      (maps = [] → (Step.values (.maps maps)).fault? s = some .noRow) ∧
      (∀ first others, maps = first :: others → first.names = [] →
        (Step.values (.maps maps)).fault? s = some .noColumn) ∧
      (∀ first before odd after, maps = first :: (before ++ odd :: after) → first.names ≠ [] →
        (∀ map ∈ before, SameNames map first) → ¬ SameNames odd first →
          (Step.values (.maps maps)).fault? s = some (.otherColumns (before.length + 1))) ∧
      ((Step.values (.maps maps)).fault? s = none →
        ∃ (names : List Text) (rows : List (List Text)),
          (Step.values (.maps maps)).revised s =
            { s with insertColumns := names.map Identifier.quote, rows := some rows } ∧
          Ascending names ∧ (∀ map ∈ maps, ∀ name, name ∈ names ↔ name ∈ map.names) ∧
          List.Forall₂ (Aligned names) maps rows) ∧
      ∀ refilled : List Bindings,
        List.Forall₂ (fun map other => ∀ name, map.get? name = other.get? name) maps refilled →
          (Step.values (.maps refilled)).fault? s = (Step.values (.maps maps)).fault? s ∧
          (Step.values (.maps refilled)).revised s = (Step.values (.maps maps)).revised s := by
  refine ⟨?_, ?_, ?_, ?_, ?_, ?_⟩
  · rw [Step.fault?_values_eq_none_iff]
    cases maps with
    | nil => simp [RowSet.LinesUp]
    | cons first others => simp [RowSet.LinesUp, SameNames]
  · rintro rfl
    rw [Step.fault?_values, RowSet.toTable, RowSet.ofMaps]
  · rintro first others rfl hempty
    rw [Step.fault?_values, RowSet.toTable, RowSet.ofMaps,
      if_pos ((Bindings.isEmpty_iff first).2 hempty)]
  · rintro first before odd after rfl hcolumns hbefore hodd
    rw [Step.fault?_values, RowSet.toTable]
    exact RowSet.ofMaps_eq_otherColumns hcolumns hbefore hodd
  · intro hnone
    have hlines := (Step.fault?_values_eq_none_iff (.maps maps)).1 hnone
    cases maps with
    | nil => exact hlines.elim
    | cons first others =>
        obtain ⟨names, rows, hrevised, hascending, hnames, hrows⟩ := exists_aligned_rows hlines
        refine ⟨names, rows, hrevised, hascending, fun map hmap name => ?_, hrows⟩
        rw [hnames name]
        rcases List.mem_cons.1 hmap with rfl | hother
        · rfl
        · exact (hlines.2 map hother name).symm
  · intro refilled hsame
    have htable : RowSet.ofMaps refilled = RowSet.ofMaps maps :=
      (RowSet.ofMaps_eq_of_sorted_eq (hsame.imp fun _ _ => Bindings.sorted_eq_of_get?_eq)).symm
    constructor
    · apply Option.ext
      intro fault
      rw [Step.fault?_values, Step.fault?_values, RowSet.toTable, RowSet.toTable, htable]
    · rw [Step.revised_values, Step.revised_values, RowSet.toTable, RowSet.toTable, htable]

/-- Maps of the same names, of which the second was filled in another order and has a name
bound again. -/
def shuffledMaps : List Bindings :=
  [.ofList [("é", .int 1), ("a", .bool true), ("B", .null)],
    .ofList [("B", .int 3), ("é", .int 2), ("a", .bool false), ("é", .int 4)]]

theorem ofMaps_shuffledMaps :
    RowSet.ofMaps shuffledMaps = .ok ⟨["B", "a", "é"],
      [[.null, .bool true, .int 1], [.int 3, .bool false, .int 4]]⟩ := by
  simp [shuffledMaps, RowSet.ofMaps, Bindings.ofList, Bindings.insert, Bindings.empty,
    replaceOrAppend, Bindings.sorted, Bindings.isEmpty, List.mergeSort, Text.le]

theorem shuffled_maps_fill_rows :
    (Step.values (.maps shuffledMaps)).fault? (Statement.targeting .insert "t") = none ∧
      ((Step.values (.maps shuffledMaps)).revised (Statement.targeting .insert "t")).rows =
        some ([["NULL", "\x27t\x27", "1"], ["3", "\x27f\x27", "4"]] : List (List Text)) ∧
      (Step.values (.maps (shuffledMaps ++ [.ofList [("é", .int 5)]]))).fault?
        (Statement.targeting .insert "t") = some (.otherColumns 2) := by
  have hfirst := maps_fill_rows_under_ascending_names (.targeting .insert "t") shuffledMaps
  have hlonger := maps_fill_rows_under_ascending_names (.targeting .insert "t")
    (shuffledMaps ++ [.ofList [("é", .int 5)]])
  refine ⟨hfirst.1.2 ⟨_, _, rfl, by decide, by decide⟩, ?_,
    hlonger.2.2.2.1 _ [_] _ [] rfl (by decide) (by decide) (by decide)⟩
  rw [Step.revised_values, RowSet.toTable, ofMaps_shuffledMaps]
  decide

end Draft

end SqlBuilder
