import Mathlib.Data.List.Basic
import SqlBuilder.Proofs.Text.Search
import SqlBuilder.Quoting.DollarQuoted

/-!
Tags of dollar-quoted texts.  The dollar signs of a tag are its ends, so that no
tag begins another one, and the tag of a payload does not occur in the payload:
it is the plain tag or the numbered tag of the least number that is free.
-/

namespace SqlBuilder

theorem Text.length_ofNat_le {m n : Nat} (hle : m ≤ n) :
    (Text.ofNat m).length ≤ (Text.ofNat n).length := by
  have hpos : 0 < (Text.ofNat n).length := List.length_pos_iff.2 (Text.ofNat_ne_nil n)
  have hbound : n < 10 ^ (Text.ofNat n).length :=
    (Nat.length_toDigits_le_iff (by decide) hpos).1 (Nat.le_refl _)
  exact (Nat.length_toDigits_le_iff (by decide) hpos).2 (Nat.lt_of_le_of_lt hle hbound)

namespace DollarQuoted

/-- A tag that carries these digits. -/
def marked (digits : Text) : Text := "$Q" ++ digits ++ "$"

theorem plainTag_eq_marked : plainTag = marked [] := rfl

theorem numberedTag_eq_marked (n : Nat) : numberedTag n = marked (Text.ofNat n) := rfl

theorem marked_eq_cons (digits : Text) : marked digits = '$' :: ('Q' :: digits ++ ['$']) := rfl

theorem dropLast_marked (digits : Text) : (marked digits).dropLast = "$Q" ++ digits := by
  rw [marked]
  exact List.dropLast_concat

theorem dollar_not_mem_of_digits {digits : Text} (hdigits : digits.all Char.isDigit = true) :
    '$' ∉ 'Q' :: digits := by
  intro hmem
  rcases List.mem_cons.1 hmem with h | h
  · exact absurd h (by decide)
  · exact absurd (List.all_eq_true.1 hdigits '$' h) (by decide)

theorem all_isDigit_ofNat (n : Nat) : (Text.ofNat n).all Char.isDigit = true :=
  List.all_eq_true.2 fun _ hmem => Text.isDigit_of_mem_ofNat hmem

/-- What is read as a tag is the beginning of the text. -/
theorem eq_append_of_tag? {text tag rest : Text} (htag : tag? text = some (tag, rest)) :
    text = tag ++ rest := by
  simp only [tag?, Option.bind_eq_bind, Option.bind_eq_some_iff, Option.some.injEq,
    Prod.mk.injEq] at htag
  obtain ⟨later, hbegins, _, hends, rfl, hrest⟩ := htag
  rw [hrest] at hends
  have hlater : later = later.takeWhile Char.isDigit ++ ("$" ++ rest) := by
    rw [← Text.eq_append_of_after? hends, List.takeWhile_append_dropWhile]
  rw [Text.eq_append_of_after? hbegins]
  simpa using hlater

theorem exists_marked_of_tag? {text tag rest : Text} (htag : tag? text = some (tag, rest)) :
    ∃ digits, tag = marked digits := by
  simp only [tag?, Option.bind_eq_bind, Option.bind_eq_some_iff, Option.some.injEq,
    Prod.mk.injEq] at htag
  obtain ⟨later, -, _, -, rfl, -⟩ := htag
  exact ⟨_, rfl⟩

/-- Every tag is marked with the digits of a number or with none. -/
theorem exists_tag_eq_marked (payload : Text) :
    ∃ digits, digits.all Char.isDigit = true ∧ tag payload = marked digits := by
  rw [tag]
  split
  · exact ⟨_, all_isDigit_ofNat _, numberedTag_eq_marked _⟩
  · exact ⟨[], rfl, plainTag_eq_marked⟩

/-- No tag is the beginning of another one. -/
theorem eq_of_marked_isPrefix {first second : Text} (hfirst : first.all Char.isDigit = true)
    (hsecond : second.all Char.isDigit = true) (hbegins : marked first <+: marked second) :
    first = second := by
  obtain ⟨rest, hrest⟩ := hbegins
  simp only [marked_eq_cons, List.cons_append, List.cons.injEq, true_and,
    List.append_assoc] at hrest
  have hdollar := dollar_not_mem_of_digits hfirst
  have hother := dollar_not_mem_of_digits hsecond
  simp only [List.mem_cons, not_or] at hdollar hother
  exact ((List.append_cons_inj_of_notMem hother.2 List.not_mem_nil).1 hrest.symm).1.symm

theorem apart_marked {first second : Text} (hfirst : first.all Char.isDigit = true)
    (hsecond : second.all Char.isDigit = true) (hne : first ≠ second) :
    Text.Apart (marked first) (marked second) :=
  ⟨fun h => hne (eq_of_marked_isPrefix hfirst hsecond h),
    fun h => hne (eq_of_marked_isPrefix hsecond hfirst h).symm⟩

/-- The plain tag and the first `count` numbered ones. -/
def firstTags (count : Nat) : List Text := plainTag :: (List.range count).map numberedTag

theorem pairwise_apart_firstTags (count : Nat) : (firstTags count).Pairwise Text.Apart := by
  rw [firstTags, List.pairwise_cons]
  constructor
  · intro other hmem
    obtain ⟨n, -, rfl⟩ := List.mem_map.1 hmem
    exact apart_marked rfl (all_isDigit_ofNat n) (Text.ofNat_ne_nil n).symm
  · rw [List.pairwise_map]
    apply List.nodup_range.imp
    intro first second hne
    exact apart_marked (all_isDigit_ofNat first) (all_isDigit_ofNat second)
      fun h => hne (Text.ofNat_injective h)

theorem isPrefix_of_mem_firstTags {count : Nat} {word : Text} (hmem : word ∈ firstTags count) :
    "$Q".toList <+: word := by
  rcases List.mem_cons.1 hmem with rfl | hmem
  · decide
  · obtain ⟨n, -, rfl⟩ := List.mem_map.1 hmem
    rw [numberedTag, List.append_assoc]
    exact List.prefix_append _ _

/-- A payload with the plain tag in it leaves a number free that is smaller than
the number of places where a tag could start. -/
theorem exists_free_number {payload : Text} (hplain : Text.contains plainTag payload = true) :
    ∃ n < Text.occurrences "$Q" payload, Text.contains (numberedTag n) payload = false := by
  by_contra hall
  push Not at hall
  have hoccur : ∀ word ∈ firstTags (Text.occurrences "$Q" payload), word <:+: payload := by
    intro word hmem
    rcases List.mem_cons.1 hmem with rfl | hmem
    · exact (Text.contains_iff_isInfix plainTag payload).1 hplain
    · obtain ⟨n, hn, rfl⟩ := List.mem_map.1 hmem
      have hcontains := hall n (List.mem_range.1 hn)
      rw [ne_eq, Bool.not_eq_false] at hcontains
      exact (Text.contains_iff_isInfix _ _).1 hcontains
  have hcount := Text.length_le_occurrences (by decide) (pairwise_apart_firstTags _)
    (fun _ => isPrefix_of_mem_firstTags) hoccur
  rw [firstTags, List.length_cons, List.length_map, List.length_range] at hcount
  omega

/-- The number of the tag of a payload that contains the plain tag. -/
theorem freeNumber_spec {payload : Text} (hplain : Text.contains plainTag payload = true) :
    freeNumber payload < Text.occurrences "$Q" payload ∧
      Text.contains (numberedTag (freeNumber payload)) payload = false ∧
      ∀ n < freeNumber payload, Text.contains (numberedTag n) payload = true := by
  obtain ⟨free, hbound, hfree⟩ := exists_free_number hplain
  have hsome : ((List.range (Text.occurrences "$Q" payload)).find? fun n =>
      !Text.contains (numberedTag n) payload).isSome = true := by
    rw [List.find?_isSome]
    exact ⟨free, List.mem_range.2 hbound, by rw [hfree]; rfl⟩
  obtain ⟨n, hn⟩ := Option.isSome_iff_exists.1 hsome
  have hnumber : freeNumber payload = n := by
    rw [freeNumber, hn]
    rfl
  rw [List.find?_range_eq_some] at hn
  obtain ⟨hcontains, hmem, hleast⟩ := hn
  rw [hnumber]
  refine ⟨List.mem_range.1 hmem, by simpa using hcontains, ?_⟩
  intro earlier hlt
  simpa using hleast earlier hlt

theorem freeNumber_le {payload : Text} {n : Nat}
    (hplain : Text.contains plainTag payload = true)
    (hfree : Text.contains (numberedTag n) payload = false) : freeNumber payload ≤ n := by
  by_contra hlt
  rw [(freeNumber_spec hplain).2.2 n (Nat.lt_of_not_le hlt)] at hfree
  exact absurd hfree (by decide)

theorem not_contains_tag (payload : Text) : Text.contains (tag payload) payload = false := by
  rw [tag]
  split
  · next hplain => exact (freeNumber_spec hplain).2.1
  · next hplain => simpa using hplain

theorem tag_not_isInfix (payload : Text) : ¬ tag payload <:+: payload :=
  Text.not_contains_iff.1 (not_contains_tag payload)

/-- Every tag that occurs in the payload occurs in the other text too. -/
def TagsWithin (payload other : Text) : Prop :=
  ∀ digits, digits.all Char.isDigit = true → marked digits <:+: payload →
    marked digits <:+: other

namespace TagsWithin

variable {payload other : Text}

theorem contains_plainTag (hwithin : TagsWithin payload other)
    (hplain : Text.contains plainTag payload = true) : Text.contains plainTag other = true := by
  rw [Text.contains_iff_isInfix] at hplain ⊢
  exact hwithin [] rfl hplain

theorem freeNumber_le (hwithin : TagsWithin payload other)
    (hplain : Text.contains plainTag payload = true) : freeNumber payload ≤ freeNumber other := by
  have hfree := (freeNumber_spec (hwithin.contains_plainTag hplain)).2.1
  apply DollarQuoted.freeNumber_le hplain
  rw [Text.not_contains_iff] at hfree ⊢
  exact fun h => hfree (hwithin _ (all_isDigit_ofNat _) h)

/-- A payload with more tags in it does not get a shorter tag. -/
theorem length_tag_le (hwithin : TagsWithin payload other) :
    (tag payload).length ≤ (tag other).length := by
  by_cases hplain : Text.contains plainTag payload = true
  · have hle := Text.length_ofNat_le (hwithin.freeNumber_le hplain)
    rw [tag, if_pos hplain, tag, if_pos (hwithin.contains_plainTag hplain)]
    simp only [numberedTag, List.length_append]
    omega
  · obtain ⟨digits, -, htag⟩ := exists_tag_eq_marked other
    rw [tag, if_neg hplain, htag, plainTag_eq_marked]
    simp [marked]

/-- The other text has the same tag unless it contains the tag of the payload. -/
theorem tag_eq_iff (hwithin : TagsWithin payload other) :
    tag other = tag payload ↔ ¬ tag payload <:+: other := by
  constructor
  · intro hsame
    rw [← hsame]
    exact tag_not_isInfix other
  · intro hfree
    rw [← Text.not_contains_iff] at hfree
    by_cases hplain : Text.contains plainTag payload = true
    · have hother := hwithin.contains_plainTag hplain
      rw [tag, if_pos hplain] at hfree
      have hnumber := Nat.le_antisymm (DollarQuoted.freeNumber_le hother hfree)
        (hwithin.freeNumber_le hplain)
      rw [tag, if_pos hother, tag, if_pos hplain, hnumber]
    · rw [tag, if_neg hplain] at hfree
      rw [tag, if_neg (by rw [hfree]; decide), tag, if_neg hplain]

end TagsWithin

end DollarQuoted

end SqlBuilder
