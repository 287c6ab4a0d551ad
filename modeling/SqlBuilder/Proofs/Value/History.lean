import Mathlib.Data.Finset.Card
import Mathlib.Data.List.Induction
import SqlBuilder.Proofs.Value.Sorting

/-!
What a map keeps of the history of its insertions.  The first insertion of a name decides
its place and the last one its value; nothing else is kept.
-/

namespace SqlBuilder.Bindings

/-- The value is the last one that the history gives to the name. -/
def GivenLast (history : List (Text × Value)) (name : Text) (value : Value) : Prop :=
  ∃ before after, history = before ++ (name, value) :: after ∧ name ∉ after.map Prod.fst

/-- One more insertion comes after all the others. -/
theorem ofList_concat (history : List (Text × Value)) (entry : Text × Value) :
    ofList (history ++ [entry]) = (ofList history).insert entry.1 entry.2 := by
  rw [ofList, List.foldl_append]
  rfl

theorem mem_names_ofList (history : List (Text × Value)) (name : Text) :
    name ∈ (ofList history).names ↔ name ∈ history.map Prod.fst := by
  induction history using List.reverseRecOn with
  | nil => rfl
  | append_singleton history entry ih =>
      rw [ofList_concat, names_insert, List.map_append, List.mem_append, ← ih]
      split
      · next hold =>
          simp only [List.map_cons, List.map_nil, List.mem_singleton]
          exact ⟨.inl, fun hname => hname.elim id fun heq => heq ▸ hold⟩
      · simp

/-- The names stand in the order in which the history gives them for the first time. -/
theorem pairwise_names_ofList (history : List (Text × Value)) :
    (ofList history).names.Pairwise fun first second =>
      (history.map Prod.fst).idxOf first < (history.map Prod.fst).idxOf second := by
  induction history using List.reverseRecOn with
  | nil => exact .nil
  | append_singleton history entry ih =>
      have hsame : ∀ name ∈ (ofList history).names,
          ((history ++ [entry]).map Prod.fst).idxOf name = (history.map Prod.fst).idxOf name := by
        intro name hname
        rw [List.map_append, List.idxOf_append_of_mem ((mem_names_ofList history name).1 hname)]
      have hold : (ofList history).names.Pairwise fun first second =>
          ((history ++ [entry]).map Prod.fst).idxOf first <
            ((history ++ [entry]).map Prod.fst).idxOf second := by
        refine ih.imp_of_mem fun hfirst hsecond hlt => ?_
        rwa [hsame _ hfirst, hsame _ hsecond]
      rw [ofList_concat, names_insert]
      split
      · exact hold
      · next hnew =>
          refine List.pairwise_append.2 ⟨hold, List.pairwise_singleton .., ?_⟩
          intro name hname final hfinal
          obtain rfl := List.mem_singleton.1 hfinal
          rw [mem_names_ofList] at hnew
          rw [hsame name hname, List.map_append, List.idxOf_append_of_notMem hnew]
          exact Nat.lt_add_right _
            (List.idxOf_lt_length_of_mem ((mem_names_ofList history name).1 hname))

theorem get?_ofList (history : List (Text × Value)) (name : Text) :
    (ofList history).get? name = history.reverse.lookup name := by
  induction history using List.reverseRecOn with
  | nil => rfl
  | append_singleton history entry ih =>
      rw [ofList_concat, get?_insert, List.reverse_concat, lookup_cons_eq_if, ih]

/-- A name has the last value that the history gives to it. -/
theorem get?_ofList_eq_some_iff (history : List (Text × Value)) (name : Text) (value : Value) :
    (ofList history).get? name = some value ↔ GivenLast history name value := by
  rw [get?_ofList, List.lookup_eq_some_iff]
  simp only [forall_bne_iff_notMem]
  constructor
  · rintro ⟨after, before, hhistory, hafter⟩
    refine ⟨before.reverse, after.reverse, ?_, by simpa using hafter⟩
    rw [← List.reverse_reverse history, hhistory]
    simp
  · rintro ⟨before, after, rfl, hafter⟩
    exact ⟨after.reverse, before.reverse, by simp, by simpa using hafter⟩

/-- As many entries are kept as different names are given. -/
theorem size_ofList (history : List (Text × Value)) :
    (ofList history).size = (history.map Prod.fst).toFinset.card := by
  have hnames : (history.map Prod.fst).toFinset = (ofList history).names.toFinset := by
    ext name
    rw [List.mem_toFinset, List.mem_toFinset, mem_names_ofList]
  have hdistinct : (ofList history).names.Nodup := (ofList history).distinct
  rw [hnames, List.toFinset_card_of_nodup hdistinct, names, size, List.length_map]

/-- An entry is a name with what is found under it. -/
theorem map_entries_eq_map_names (bindings : Bindings) :
    bindings.entries.map (fun entry => (entry.1, some entry.2)) =
      bindings.names.map fun name => (name, bindings.get? name) := by
  rw [names, List.map_map]
  refine List.map_congr_left fun entry hentry => ?_
  rw [Function.comp_apply, get?_eq_some_iff.2 hentry]

/-- Whatever is inserted one after another, the names differ and stand in the order of
their first insertions, there are as many as have been inserted, each holds the value of
its last insertion, and what is not inserted is not found.  The entries, the names and what
is found under them agree, and sorting keeps the entries and lets their names ascend. -/
theorem history_of_insertions_is_kept (history : List (Text × Value)) :
    let bindings := ofList history
    let given := history.map Prod.fst
    bindings.names.Nodup ∧
      (∀ name, name ∈ bindings.names ↔ name ∈ given) ∧
      (bindings.names.Pairwise fun first second => given.idxOf first < given.idxOf second) ∧
      bindings.size = given.toFinset.card ∧
      (∀ name value, bindings.get? name = some value ↔ GivenLast history name value) ∧
      (∀ name, bindings.get? name = none ↔ name ∉ given) ∧
      (∀ name value, (name, value) ∈ bindings.entries ↔ GivenLast history name value) ∧
      bindings.entries.map (fun entry => (entry.1, some entry.2)) =
        bindings.names.map (fun name => (name, bindings.get? name)) ∧
      bindings.sorted.Perm bindings.entries ∧
      (bindings.sorted.map Prod.fst).Pairwise fun first second =>
        first.map Char.toNat < second.map Char.toNat := by
  intro bindings given
  have hentries : ∀ name value,
      (name, value) ∈ bindings.entries ↔ GivenLast history name value := by
    intro name value
    rw [← get?_eq_some_iff, get?_ofList_eq_some_iff]
  have habsent : ∀ name, bindings.get? name = none ↔ name ∉ given := by
    intro name
    rw [get?_eq_none_iff, mem_names_ofList]
  exact ⟨bindings.distinct, mem_names_ofList history, pairwise_names_ofList history,
    size_ofList history, get?_ofList_eq_some_iff history, habsent, hentries,
    map_entries_eq_map_names bindings, List.mergeSort_perm _ _,
    pairwise_lt_map_fst_sorted bindings⟩

end SqlBuilder.Bindings
