import SqlBuilder.Value.Bindings

/-!
Bindings in the order of their names.  The names of a map differ, so sorting them by their
code points yields a strictly ascending list, and what is bound to them decides the sorted
entries: the order in which a map was filled is forgotten, and nothing else.
-/

namespace SqlBuilder

theorem Text.pairwise_le_mergeSort :
    ∀ texts : List Text, (texts.mergeSort Text.le).Pairwise fun a b => Text.le a b = true :=
  List.pairwise_mergeSort (fun _ _ _ => Text.le_trans) Text.le_total

theorem Text.lt_iff {first second : Text} :
    first.map Char.toNat < second.map Char.toNat ↔
      Text.le first second = true ∧ first ≠ second := by
  induction first generalizing second with
  | nil => cases second <;> simp [Text.le]
  | cons c rest ih =>
      cases second with
      | nil => simp [Text.le]
      | cons d others =>
          rw [List.map_cons, List.map_cons, List.cons_lt_cons_iff, ih, Text.le]
          by_cases hsame : c = d
          · simp [hsame]
          · have hcode : c.toNat ≠ d.toNat := fun hcode => hsame (Char.toNat_inj.1 hcode)
            simp [hsame, hcode]

namespace Bindings

theorem isEmpty_iff (bindings : Bindings) : bindings.isEmpty = true ↔ bindings.names = [] := by
  rw [isEmpty, List.isEmpty_iff, names, List.map_eq_nil_iff]

theorem map_fst_sorted (bindings : Bindings) :
    bindings.sorted.map Prod.fst = bindings.names.mergeSort Text.le :=
  List.map_mergeSort fun _ _ _ _ => rfl

theorem isEmpty_sorted (bindings : Bindings) : bindings.sorted.isEmpty = bindings.isEmpty :=
  (List.mergeSort_perm _ _).isEmpty_eq

/-- The names of the sorted entries are those of the map. -/
theorem mem_map_fst_sorted (bindings : Bindings) (name : Text) :
    name ∈ bindings.sorted.map Prod.fst ↔ name ∈ bindings.names := by
  rw [map_fst_sorted, List.mem_mergeSort]

/-- The names of the sorted entries ascend strictly, code point by code point. -/
theorem pairwise_lt_map_fst_sorted (bindings : Bindings) :
    (bindings.sorted.map Prod.fst).Pairwise fun first second =>
      first.map Char.toNat < second.map Char.toNat := by
  rw [map_fst_sorted]
  have hsorted := Text.pairwise_le_mergeSort bindings.names
  have hdistinct : (bindings.names.mergeSort Text.le).Nodup :=
    (List.mergeSort_perm _ _).nodup_iff.2 bindings.distinct
  exact (hsorted.and hdistinct).imp fun hboth => Text.lt_iff.2 hboth

/-- Sorting the entries forgets the order of the names and nothing else. -/
theorem map_fst_sorted_eq_iff (first second : Bindings) :
    first.sorted.map Prod.fst = second.sorted.map Prod.fst ↔
      ∀ name, name ∈ first.names ↔ name ∈ second.names := by
  rw [map_fst_sorted, map_fst_sorted]
  have hfirst := List.mergeSort_perm first.names Text.le
  have hsecond := List.mergeSort_perm second.names Text.le
  constructor
  · intro hsame name
    rw [← hfirst.mem_iff, hsame, hsecond.mem_iff]
  · intro hsame
    have hnames : first.names.Perm second.names :=
      (List.perm_ext_iff_of_nodup first.distinct second.distinct).2 hsame
    exact (hfirst.trans (hnames.trans hsecond.symm)).eq_of_pairwise
      (fun _ _ _ _ => Text.le_antisymm) (Text.pairwise_le_mergeSort _)
      (Text.pairwise_le_mergeSort _)

/-- A sorted value stands at the place of its name. -/
theorem map_get?_map_fst_sorted (bindings : Bindings) :
    (bindings.sorted.map Prod.fst).map bindings.get? =
      (bindings.sorted.map Prod.snd).map some := by
  rw [List.map_map, List.map_map]
  refine List.map_congr_left fun entry hentry => ?_
  exact get?_eq_some_iff.2 (List.mem_mergeSort.1 hentry)

/-- What is bound to the names decides the sorted entries. -/
theorem sorted_eq_of_get?_eq {first second : Bindings}
    (hsame : ∀ name, first.get? name = second.get? name) : first.sorted = second.sorted := by
  have hnames : first.sorted.map Prod.fst = second.sorted.map Prod.fst := by
    refine (map_fst_sorted_eq_iff first second).2 fun name => ?_
    rw [← Decidable.not_iff_not, ← get?_eq_none_iff, ← get?_eq_none_iff, hsame]
  have hvalues : first.sorted.map Prod.snd = second.sorted.map Prod.snd := by
    refine (List.map_inj_right fun _ _ => Option.some_inj.1).1 ?_
    rw [← map_get?_map_fst_sorted, ← map_get?_map_fst_sorted, hnames, funext hsame]
  rw [← List.zip_unzip first.sorted, ← List.zip_unzip second.sorted, List.unzip_eq_map,
    List.unzip_eq_map, hnames, hvalues]

end Bindings

end SqlBuilder
