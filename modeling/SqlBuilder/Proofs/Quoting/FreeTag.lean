import Mathlib.Data.Nat.Init
import Mathlib.Order.Bounds.Defs
import SqlBuilder.Proofs.Quoting.Tag

/-!
The search for a free tag.  It tries one number after another, and nothing in it says
when to give up.  It stops because different tags start at different places, so that a
payload cannot hold the tags of as many numbers as it has places where a tag could
start.  A payload that is a row of tags comes as close to this bound as possible.
-/

namespace SqlBuilder.DollarQuoted

variable {payload : Text}

/-- The search that tries the number `n` next stops at `k`. -/
inductive StopsAt (payload : Text) : Nat → Nat → Prop
  | free {n : Nat} (hfree : Text.contains (numberedTag n) payload = false) : StopsAt payload n n
  | held {n k : Nat} (hheld : Text.contains (numberedTag n) payload = true)
      (hrest : StopsAt payload (n + 1) k) : StopsAt payload n k

/-- Everything that a search passes over is held, and where it stops is free. -/
theorem StopsAt.first_free {n k : Nat} (hstops : StopsAt payload n k) :
    n ≤ k ∧ ¬ numberedTag k <:+: payload ∧
      ∀ m, n ≤ m → m < k → numberedTag m <:+: payload := by
  induction hstops with
  | @free n hfree =>
      exact ⟨Nat.le_refl n, Text.not_contains_iff.1 hfree, fun m hle hlt => by omega⟩
  | @held n k hheld _ ih =>
      obtain ⟨hle, hfree, hpassed⟩ := ih
      refine ⟨Nat.le_of_succ_le hle, hfree, fun m hm hlt => ?_⟩
      rcases Nat.eq_or_lt_of_le hm with rfl | hlater
      · exact (Text.contains_iff_isInfix _ _).1 hheld
      · exact hpassed m hlater hlt

/-- The search stops exactly at the first free number from its start on. -/
theorem stopsAt_iff {n k : Nat} :
    StopsAt payload n k ↔
      n ≤ k ∧ ¬ numberedTag k <:+: payload ∧
        ∀ m, n ≤ m → m < k → numberedTag m <:+: payload := by
  refine ⟨StopsAt.first_free, ?_⟩
  rintro ⟨hle, hfree, hpassed⟩
  -- from the number at which it stops back to the one at which it starts
  induction hle using Nat.decreasingInduction with
  | self => exact .free (Text.not_contains_iff.2 hfree)
  | of_succ n hlt ih =>
      have hheld := (Text.contains_iff_isInfix _ _).2 (hpassed n (Nat.le_refl n) hlt)
      exact .held hheld (ih fun m hm hmk => hpassed m (Nat.le_of_succ_le hm) hmk)

/-- A search has no two ends. -/
theorem StopsAt.unique {n k other : Nat} (hstops : StopsAt payload n k)
    (hother : StopsAt payload n other) : k = other := by
  obtain ⟨hle, hfree, hpassed⟩ := hstops.first_free
  obtain ⟨hleother, hfreeother, hpassedother⟩ := hother.first_free
  rcases Nat.lt_trichotomy k other with hlt | hsame | hlt
  · exact absurd (hpassedother k hle hlt) hfree
  · exact hsame
  · exact absurd (hpassed other hleother hlt) hfreeother

/-- A tag adds one place where a tag could start, unless a `Q` after it makes its end
another one. -/
theorem occurrences_marked_append {digits rest : Text} (hdigits : digits.all Char.isDigit = true)
    (hrest : rest.head? ≠ some 'Q') :
    Text.occurrences "$Q" (marked digits ++ rest) = 1 + Text.occurrences "$Q" rest := by
  have hopening : "$Q".toList <+: '$' :: ('Q' :: digits ++ '$' :: rest) :=
    ⟨digits ++ '$' :: rest, rfl⟩
  have hclosing : ¬ "$Q".toList <+: '$' :: rest := by
    rintro ⟨later, hlater⟩
    obtain ⟨-, rfl⟩ := List.cons.inj hlater
    exact hrest rfl
  have hsplit : marked digits ++ rest = '$' :: ('Q' :: digits ++ '$' :: rest) := by
    simp [marked]
  calc Text.occurrences "$Q" (marked digits ++ rest)
      = 1 + Text.occurrences "$Q" ('Q' :: digits ++ '$' :: rest) := by
        rw [hsplit, Text.occurrences_cons_of_isPrefix hopening]
    _ = 1 + Text.occurrences "$Q" ('$' :: rest) := by
        rw [Text.occurrences_append_of_notMem rfl (dollar_not_mem_of_digits hdigits)]
    _ = 1 + Text.occurrences "$Q" rest := by
        rw [Text.occurrences_cons_of_not_isPrefix hclosing]

/-- Tags in a row hold no further place where a tag could start. -/
theorem occurrences_flatten_of_tags {tags : List Text}
    (htags : ∀ word ∈ tags, ∃ digits, digits.all Char.isDigit = true ∧ word = marked digits) :
    Text.occurrences "$Q" tags.flatten = tags.length := by
  induction tags with
  | nil => rfl
  | cons first others ih =>
      have hothers : ∀ word ∈ others, ∃ digits, digits.all Char.isDigit = true ∧
          word = marked digits := fun word hmem => htags word (List.mem_cons_of_mem first hmem)
      have hhead : others.flatten.head? ≠ some 'Q' := by
        cases others with
        | nil => simp
        | cons second others =>
            obtain ⟨digits, -, rfl⟩ := hothers second List.mem_cons_self
            simp [marked_eq_cons]
      obtain ⟨digits, hdigits, rfl⟩ := htags first List.mem_cons_self
      rw [List.flatten_cons, occurrences_marked_append hdigits hhead, ih hothers,
        List.length_cons, Nat.add_comm]

/-- The search that tries every number stops at the one that is looked for among
finitely many. -/
theorem stopsAt_freeNumber (hplain : plainTag <:+: payload) :
    StopsAt payload 0 (freeNumber payload) := by
  obtain ⟨-, hfree, hheld⟩ := freeNumber_spec ((Text.contains_iff_isInfix _ _).2 hplain)
  rw [stopsAt_iff]
  exact ⟨Nat.zero_le _, Text.not_contains_iff.1 hfree,
    fun m _ hlt => (Text.contains_iff_isInfix _ _).1 (hheld m hlt)⟩

/-- Tags in a row have no start of a tag apart from their own. -/
theorem occurrences_flatten_firstTags (count : Nat) :
    Text.occurrences "$Q" (firstTags count).flatten = count + 1 := by
  rw [occurrences_flatten_of_tags, firstTags, List.length_cons, List.length_map,
    List.length_range]
  intro word hmem
  rcases List.mem_cons.1 hmem with rfl | hmem
  · exact ⟨[], rfl, plainTag_eq_marked⟩
  · obtain ⟨n, -, rfl⟩ := List.mem_map.1 hmem
    exact ⟨_, all_isDigit_ofNat n, numberedTag_eq_marked n⟩

/-- No smaller bound holds for every payload: the first tags in a row make the search go
through all of their numbers, up to one less than there are places for a tag. -/
theorem stopsAt_flatten_firstTags (count : Nat) :
    StopsAt (firstTags count).flatten 0 count ∧
      Text.occurrences "$Q" (firstTags count).flatten = count + 1 := by
  have hinside : ∀ word ∈ firstTags count, word <:+: (firstTags count).flatten :=
    fun word hmem => List.infix_of_mem_flatten hmem
  have hplain : plainTag <:+: (firstTags count).flatten := hinside _ List.mem_cons_self
  have hstops := stopsAt_freeNumber hplain
  obtain ⟨hlt, hfree, -⟩ := freeNumber_spec ((Text.contains_iff_isInfix _ _).2 hplain)
  have hnumber : freeNumber (firstTags count).flatten = count := by
    rw [occurrences_flatten_firstTags] at hlt
    refine Nat.le_antisymm (Nat.le_of_lt_succ hlt) (Nat.le_of_not_lt fun hless => ?_)
    have hmem : numberedTag (freeNumber (firstTags count).flatten) ∈ firstTags count :=
      List.mem_cons_of_mem _ (List.mem_map_of_mem (List.mem_range.2 hless))
    exact Text.not_contains_iff.1 hfree (hinside _ hmem)
  rw [hnumber] at hstops
  exact ⟨hstops, occurrences_flatten_firstTags count⟩

/-- A payload without the plain tag gets the plain tag.  For any other one the search
stops, at the least number whose tag is free.  This number is smaller than the number of
places where a tag could start, of which there are no more than characters. -/
theorem search_stops_at_least_free_number (payload : Text) :
    (¬ plainTag <:+: payload → tag payload = plainTag) ∧
    (plainTag <:+: payload →
      ∃ n < Text.occurrences "$Q" payload,
        (∀ k, StopsAt payload 0 k ↔ k = n) ∧ tag payload = numberedTag n ∧
        IsLeast { m | ¬ numberedTag m <:+: payload } n) ∧
    Text.occurrences "$Q" payload ≤ payload.length := by
  refine ⟨fun hplain => ?_, fun hplain => ?_, Text.occurrences_le_length (by decide) payload⟩
  · rw [tag, Text.not_contains_iff.2 hplain]
    rfl
  · have hcontains := (Text.contains_iff_isInfix _ _).2 hplain
    obtain ⟨hbound, hfree, hheld⟩ := freeNumber_spec hcontains
    have hstops := stopsAt_freeNumber hplain
    refine ⟨freeNumber payload, hbound, fun k => ⟨fun hk => hk.unique hstops, fun hk => ?_⟩, ?_,
      Text.not_contains_iff.1 hfree, fun m hm => Nat.le_of_not_lt fun hlt => ?_⟩
    · rw [hk]
      exact hstops
    · rw [tag, if_pos hcontains]
    · exact hm ((Text.contains_iff_isInfix _ _).1 (hheld m hlt))

/-- The tag of ten begins like the tag of one, which is free all the same. -/
theorem search_stops_at_beginning_of_held_number :
    plainTag <:+: ("$Q$ $Q10$ $Q0$" : Text) ∧
      StopsAt "$Q$ $Q10$ $Q0$" 0 1 ∧ tag "$Q$ $Q10$ $Q0$" = "$Q1$" := by
  have hplain : plainTag <:+: ("$Q$ $Q10$ $Q0$" : Text) :=
    (Text.contains_iff_isInfix _ _).1 (by decide)
  have hzero : numberedTag 0 <:+: ("$Q$ $Q10$ $Q0$" : Text) :=
    (Text.contains_iff_isInfix _ _).1 (by decide)
  have hone : ¬ numberedTag 1 <:+: ("$Q$ $Q10$ $Q0$" : Text) :=
    Text.not_contains_iff.1 (by decide)
  obtain ⟨n, -, hstops, htag, hfree, hleast⟩ :=
    (search_stops_at_least_free_number "$Q$ $Q10$ $Q0$").2.1 hplain
  have hle : n ≤ 1 := hleast hone
  have hne : n ≠ 0 := by
    rintro rfl
    exact hfree hzero
  obtain rfl : n = 1 := by omega
  exact ⟨hplain, (hstops 1).2 rfl, htag.trans (by decide)⟩

end SqlBuilder.DollarQuoted
