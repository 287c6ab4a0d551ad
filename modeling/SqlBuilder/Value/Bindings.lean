import SqlBuilder.Value.Basic

/-!
Named values in the order in which their names were first given.  Giving a name
again replaces its value and leaves its place.
-/

namespace SqlBuilder

/-- Replaces the value of the first entry of this name, or adds an entry at the
end when there is none. -/
def replaceOrAppend (name : Text) (value : Value) : List (Text × Value) → List (Text × Value)
  | [] => [(name, value)]
  | entry :: rest =>
      if entry.1 = name then (name, value) :: rest
      else entry :: replaceOrAppend name value rest

/-- A name that is bound already keeps its place, and a new one is the last. -/
theorem names_replaceOrAppend (name : Text) (value : Value) (entries : List (Text × Value)) :
    (replaceOrAppend name value entries).map Prod.fst =
      if name ∈ entries.map Prod.fst then entries.map Prod.fst
      else entries.map Prod.fst ++ [name] := by
  induction entries with
  | nil => simp [replaceOrAppend]
  | cons entry rest ih =>
      by_cases same : entry.1 = name
      · simp [replaceOrAppend, same]
      · have other : ¬ name = entry.1 := fun h => same h.symm
        simp only [replaceOrAppend, same, if_false, List.map_cons, ih, List.mem_cons, other,
          false_or]
        split <;> simp

theorem lookup_cons_eq_if (entry : Text × Value) (rest : List (Text × Value)) (name : Text) :
    (entry :: rest).lookup name = if name = entry.1 then some entry.2 else rest.lookup name := by
  obtain ⟨first, value⟩ := entry
  rw [List.lookup_cons]
  by_cases hname : name = first
  · rw [if_pos hname, beq_iff_eq.2 hname]
  · rw [if_neg hname, beq_eq_false_iff_ne.2 hname]

/-- Binding a name leaves the values of other names alone. -/
theorem lookup_replaceOrAppend (name other : Text) (value : Value)
    (entries : List (Text × Value)) :
    (replaceOrAppend name value entries).lookup other =
      if other = name then some value else entries.lookup other := by
  induction entries with
  | nil => exact lookup_cons_eq_if (name, value) [] other
  | cons entry rest ih =>
      rw [lookup_cons_eq_if entry rest, replaceOrAppend]
      split
      · next hname =>
          rw [lookup_cons_eq_if, hname]
          split <;> rfl
      · next hname =>
          rw [lookup_cons_eq_if, ih]
          by_cases hother : other = name
          · have hentry : other ≠ entry.1 := fun heq => hname (heq.symm.trans hother)
            rw [if_pos hother, if_neg hentry, if_pos hother]
          · rw [if_neg hother, if_neg hother]

theorem forall_bne_iff_notMem {name : Text} {entries : List (Text × Value)} :
    (∀ entry ∈ entries, (name != entry.1) = true) ↔ name ∉ entries.map Prod.fst := by
  rw [List.mem_map]
  constructor
  · rintro hother ⟨entry, hentry, rfl⟩
    simpa using hother entry hentry
  · intro habsent entry hentry
    rw [bne_iff_ne]
    rintro rfl
    exact habsent ⟨entry, hentry, rfl⟩

/-- A map from names to values that remembers the order of its names, which are
pairwise different. -/
structure Bindings where
  entries : List (Text × Value)
  distinct : (entries.map Prod.fst).Nodup

namespace Bindings

def empty : Bindings := ⟨[], by simp⟩

/-- Binds the name to the value: in the place of the name if it is bound
already, otherwise at the end. -/
def insert (bindings : Bindings) (name : Text) (value : Value) : Bindings where
  entries := replaceOrAppend name value bindings.entries
  distinct := by
    rw [names_replaceOrAppend]
    split
    · exact bindings.distinct
    · next absent =>
        refine List.nodup_append.2 ⟨bindings.distinct, by simp, ?_⟩
        intro other member final finalMember same
        rw [List.mem_singleton] at finalMember
        exact absent (finalMember ▸ same ▸ member)

def ofList (pairs : List (Text × Value)) : Bindings :=
  pairs.foldl (fun bindings pair => bindings.insert pair.1 pair.2) empty

def get? (bindings : Bindings) (name : Text) : Option Value := bindings.entries.lookup name

/-- The names, in order of their first insertion. -/
def names (bindings : Bindings) : List Text := bindings.entries.map Prod.fst

def values (bindings : Bindings) : List Value := bindings.entries.map Prod.snd

def size (bindings : Bindings) : Nat := bindings.entries.length

def isEmpty (bindings : Bindings) : Bool := bindings.entries.isEmpty

/-- The entries in the order of their names, which are compared code point by
code point. -/
def sorted (bindings : Bindings) : List (Text × Value) :=
  bindings.entries.mergeSort fun first second => Text.le first.1 second.1

@[simp] theorem names_empty : empty.names = [] := rfl

@[simp] theorem names_insert (bindings : Bindings) (name : Text) (value : Value) :
    (bindings.insert name value).names =
      if name ∈ bindings.names then bindings.names else bindings.names ++ [name] :=
  names_replaceOrAppend name value bindings.entries

theorem get?_insert (bindings : Bindings) (name other : Text) (value : Value) :
    (bindings.insert name value).get? other =
      if other = name then some value else bindings.get? other :=
  lookup_replaceOrAppend name other value bindings.entries

/-- Names are different from each other, so that every entry can be found. -/
theorem get?_eq_some_iff {bindings : Bindings} {name : Text} {value : Value} :
    bindings.get? name = some value ↔ (name, value) ∈ bindings.entries := by
  rw [get?]
  constructor
  · intro hfound
    obtain ⟨before, rest, hentries, -⟩ := List.lookup_eq_some_iff.1 hfound
    simp [hentries]
  · intro hmem
    obtain ⟨before, rest, hentries⟩ := List.append_of_mem hmem
    have hdistinct := bindings.distinct
    rw [hentries, List.map_append, List.nodup_append] at hdistinct
    refine List.lookup_eq_some_iff.2 ⟨before, rest, hentries, fun entry hearlier => ?_⟩
    rw [bne_iff_ne]
    intro hname
    exact hdistinct.2.2 entry.1 (List.mem_map_of_mem hearlier) name (by simp) hname.symm

theorem get?_eq_none_iff {bindings : Bindings} {name : Text} :
    bindings.get? name = none ↔ name ∉ bindings.names := by
  rw [get?, List.lookup_eq_none_iff, forall_bne_iff_notMem, names]

example : (ofList [("z".toList, .int 1), ("a".toList, .int 2), ("z".toList, .int 3)]).names =
    ["z".toList, "a".toList] := by decide

end Bindings

end SqlBuilder
