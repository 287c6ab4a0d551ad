import Mathlib.Data.List.Basic
import SqlBuilder.Text.Basic

/-!
Finding one text in another.  A text is cut at the first place where the needle
stands, and texts of which none begins another one occur at different places, so
that there are no more of them than places where their common beginning stands.
-/

namespace SqlBuilder.Text

theorem not_contains_iff {needle text : Text} :
    contains needle text = false ↔ ¬ needle <:+: text := by
  rw [← Bool.not_eq_true, contains_iff_isInfix]

theorem eq_append_of_after? {beginning text rest : Text}
    (hafter : after? beginning text = some rest) : text = beginning ++ rest := by
  rw [after?] at hafter
  split at hafter
  · next hbegins =>
      obtain ⟨later, rfl⟩ := List.isPrefixOf_iff_prefix.1 hbegins
      rw [List.drop_left, Option.some.injEq] at hafter
      rw [hafter]
  · cases hafter

theorem cutAt?_of_isPrefix {needle rest : Text} :
    cutAt? needle (needle ++ rest) = some ([], rest) := by
  cases hwhole : needle ++ rest with
  | nil =>
      obtain ⟨rfl, rfl⟩ := List.append_eq_nil_iff.1 hwhole
      rfl
  | cons c later =>
      have hbegins : needle.isPrefixOf (c :: later) = true := by
        rw [List.isPrefixOf_iff_prefix, ← hwhole]
        exact List.prefix_append needle rest
      rw [cutAt?, if_pos hbegins, ← hwhole, List.drop_left]

/-- Cutting a text takes nothing away but the needle. -/
theorem eq_append_of_cutAt? {needle text before rest : Text}
    (hcut : cutAt? needle text = some (before, rest)) : text = before ++ (needle ++ rest) := by
  induction text generalizing before with
  | nil =>
      rw [cutAt?] at hcut
      split at hcut
      · next hempty =>
          obtain ⟨rfl, rfl⟩ := Prod.mk.inj (Option.some.inj hcut)
          rw [List.isEmpty_iff.1 hempty]
          rfl
      · cases hcut
  | cons c text ih =>
      rw [cutAt?] at hcut
      split at hcut
      · next hhere =>
          obtain ⟨rfl, rfl⟩ := Prod.mk.inj (Option.some.inj hcut)
          obtain ⟨later, hlater⟩ := List.isPrefixOf_iff_prefix.1 hhere
          rw [← hlater, List.drop_left, List.nil_append]
      · obtain ⟨parts, hparts, hsame⟩ := Option.map_eq_some_iff.1 hcut
        obtain ⟨rfl, rfl⟩ := Prod.mk.inj hsame
        rw [List.cons_append, ← ih hparts]

/-- The needle is found where it stands for the first time. -/
theorem cutAt?_append {needle before rest : Text}
    (hfirst : ∀ skipped kept : Text, before = skipped ++ kept → kept ≠ [] →
      ¬ needle <+: kept ++ (needle ++ rest)) :
    cutAt? needle (before ++ (needle ++ rest)) = some (before, rest) := by
  induction before with
  | nil => exact cutAt?_of_isPrefix
  | cons c before ih =>
      have hhere := hfirst [] (c :: before) rfl (List.cons_ne_nil c before)
      have hlater : cutAt? needle (before ++ (needle ++ rest)) = some (before, rest) := by
        apply ih
        intro skipped kept hsplit hkept
        exact hfirst (c :: skipped) kept (by rw [hsplit, List.cons_append]) hkept
      rw [← List.isPrefixOf_iff_prefix] at hhere
      rw [List.cons_append] at hhere ⊢
      rw [cutAt?, if_neg hhere, hlater]
      rfl

/-- The second of two beginnings goes on at least as far as the first one, or ends in it. -/
theorem exists_append_or_of_append_eq {first second rest later : Text}
    (hsame : first ++ rest = second ++ later) :
    (∃ extra, second = first ++ extra ∧ rest = extra ++ later) ∨
      ∃ part, part ≠ [] ∧ first = second ++ part ∧ later = part ++ rest := by
  rcases List.append_eq_append_iff.1 hsame with hextra | ⟨part, hfirst, hlater⟩
  · exact .inl hextra
  · by_cases hempty : part = []
    · subst hempty
      exact .inl ⟨[], by simpa using hfirst.symm, hlater.symm⟩
    · exact .inr ⟨part, hempty, hfirst, hlater⟩

/-- What stands before a character goes on at least as far as the text that does not hold it. -/
theorem exists_append_of_notMem {c : Char} {first second rest later : Text}
    (hfirst : c ∉ first) (hsame : first ++ rest = second ++ c :: later) :
    ∃ extra, second = first ++ extra ∧ rest = extra ++ c :: later := by
  rcases exists_append_or_of_append_eq hsame with hextra | ⟨part, hne, rfl, hpart⟩
  · exact hextra
  · obtain ⟨d, others, rfl⟩ := List.exists_cons_of_ne_nil hne
    rw [List.cons_append] at hpart
    obtain ⟨rfl, -⟩ := List.cons.inj hpart
    simp at hfirst

/-- Texts that go up to the first such character of one text are the same. -/
theorem append_cons_inj_of_notMem {c : Char} {first second rest later : Text}
    (hfirst : c ∉ first) (hsecond : c ∉ second)
    (hsame : first ++ c :: rest = second ++ c :: later) : first = second ∧ rest = later := by
  obtain ⟨extra, rfl, hrest⟩ := exists_append_of_notMem hfirst hsame
  cases extra with
  | nil => exact ⟨(List.append_nil first).symm, (List.cons.inj hrest).2⟩
  | cons d extra =>
      rw [List.cons_append] at hrest
      obtain ⟨rfl, -⟩ := List.cons.inj hrest
      simp at hsecond

theorem occurrences_le_cons (needle rest : Text) (c : Char) :
    occurrences needle rest ≤ occurrences needle (c :: rest) := by
  rw [occurrences]
  exact Nat.le_add_left _ _

theorem occurrences_cons_of_isPrefix {needle rest : Text} {c : Char}
    (hbegins : needle <+: c :: rest) :
    occurrences needle (c :: rest) = 1 + occurrences needle rest := by
  rw [occurrences, if_pos (List.isPrefixOf_iff_prefix.2 hbegins)]

theorem occurrences_cons_of_not_isPrefix {needle rest : Text} {c : Char}
    (hbegins : ¬ needle <+: c :: rest) :
    occurrences needle (c :: rest) = occurrences needle rest := by
  rw [← List.isPrefixOf_iff_prefix] at hbegins
  rw [occurrences, if_neg hbegins, Nat.zero_add]

/-- The needle cannot start in a text without its first character. -/
theorem occurrences_append_of_notMem {c : Char} {needle first : Text}
    (hneedle : needle.head? = some c) (hfirst : c ∉ first) (rest : Text) :
    occurrences needle (first ++ rest) = occurrences needle rest := by
  obtain ⟨others, rfl⟩ := List.head?_eq_some_iff.1 hneedle
  induction first with
  | nil => rfl
  | cons d first ih =>
      rw [List.mem_cons, not_or] at hfirst
      have hbegins : ¬ c :: others <+: d :: (first ++ rest) := by
        rw [List.cons_prefix_cons]
        exact fun h => hfirst.1 h.1
      rw [List.cons_append, occurrences_cons_of_not_isPrefix hbegins, ih hfirst.2]

theorem occurrences_le_length {needle : Text} (hneedle : needle ≠ []) (text : Text) :
    occurrences needle text ≤ text.length := by
  induction text with
  | nil => simp [occurrences, hneedle]
  | cons c rest ih =>
      rw [occurrences, List.length_cons]
      split <;> omega

/-- Neither text begins with the other one. -/
def Apart (first second : Text) : Prop := ¬ first <+: second ∧ ¬ second <+: first

theorem Apart.symm {first second : Text} (hapart : Apart first second) : Apart second first :=
  ⟨hapart.2, hapart.1⟩

theorem Apart.not_isPrefix {first second text : Text} (hapart : Apart first second)
    (hsecond : second <+: text) : ¬ first <+: text := by
  intro hfirst
  rcases List.prefix_or_prefix_of_prefix hfirst hsecond with h | h
  · exact hapart.1 h
  · exact hapart.2 h

/-- Texts of which none begins another one cannot start at the same place. -/
theorem length_le_occurrences {needle text : Text} {found : List Text}
    (hneedle : needle ≠ []) (hapart : found.Pairwise Apart)
    (hbegin : ∀ word ∈ found, needle <+: word) (hoccur : ∀ word ∈ found, word <:+: text) :
    found.length ≤ occurrences needle text := by
  induction text generalizing found with
  | nil =>
      cases found with
      | nil => exact Nat.zero_le _
      | cons word others =>
          have hempty := List.infix_nil.1 (hoccur word List.mem_cons_self)
          have hshort := hbegin word List.mem_cons_self
          rw [hempty] at hshort
          exact absurd (List.prefix_nil.1 hshort) hneedle
  | cons c rest ih =>
      by_cases hhere : ∃ word ∈ found, word <+: c :: rest
      · obtain ⟨word, hword, hbegins⟩ := hhere
        obtain ⟨before, later, rfl⟩ := List.append_of_mem hword
        rw [List.pairwise_middle Apart.symm, List.pairwise_cons] at hapart
        have hmem : ∀ other ∈ before ++ later, other ∈ before ++ word :: later := by
          intro other hother
          simp only [List.mem_append, List.mem_cons] at hother ⊢
          tauto
        have hcount : (before ++ later).length ≤ occurrences needle rest := by
          apply ih hapart.2 (fun other hother => hbegin other (hmem other hother))
          intro other hother
          rcases List.infix_cons_iff.1 (hoccur other (hmem other hother)) with hstart | hrest
          · exact absurd hstart ((hapart.1 other hother).symm.not_isPrefix hbegins)
          · exact hrest
        rw [occurrences_cons_of_isPrefix ((hbegin word hword).trans hbegins)]
        simp only [List.length_append, List.length_cons] at hcount ⊢
        omega
      · have hcount : found.length ≤ occurrences needle rest := by
          apply ih hapart hbegin
          intro word hword
          rcases List.infix_cons_iff.1 (hoccur word hword) with hstart | hrest
          · exact absurd ⟨word, hword, hstart⟩ hhere
          · exact hrest
        exact Nat.le_trans hcount (occurrences_le_cons needle rest c)

end SqlBuilder.Text
