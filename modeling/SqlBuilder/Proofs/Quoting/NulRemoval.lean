import SqlBuilder.Proofs.Execution.Logging
import SqlBuilder.Proofs.Quoting.Tag
import SqlBuilder.Proofs.Text.Joined
import SqlBuilder.Proofs.Value.Characters
import SqlBuilder.Proofs.Value.Structure

/-!
Removing NULs from SQL that is about to be sent.  The tag of a text was chosen
before the removal, which can put together a copy of that tag in the payload.
Removing NULs from the literal of a value gives the literal of the value without
NULs exactly if this happens to none of its texts.
-/

namespace SqlBuilder

namespace DollarQuoted

theorem nul_not_mem_marked {digits : Text} (hdigits : digits.all Char.isDigit = true) :
    '\x00' ∉ marked digits := by
  have hnul : '\x00' ∉ digits := fun hmem =>
    absurd (List.all_eq_true.1 hdigits '\x00' hmem) (by decide)
  simp [marked, hnul]

theorem withoutNul_quote (payload : Text) :
    Text.withoutNul (quote payload) = tag payload ++ Text.withoutNul payload ++ tag payload := by
  obtain ⟨digits, hdigits, htag⟩ := exists_tag_eq_marked payload
  have hnul := Text.withoutNul_of_not_mem (nul_not_mem_marked hdigits)
  rw [quote, htag, Text.withoutNul_append, Text.withoutNul_append, hnul]

theorem tagsWithin_withoutNul (payload : Text) : TagsWithin payload (Text.withoutNul payload) :=
  fun _ hdigits hinside => Text.isInfix_withoutNul (nul_not_mem_marked hdigits) hinside

theorem length_withoutNul_quote_le (payload : Text) :
    (Text.withoutNul (quote payload)).length ≤ (quote (Text.withoutNul payload)).length := by
  have hle := (tagsWithin_withoutNul payload).length_tag_le
  rw [withoutNul_quote, quote]
  simp only [List.length_append]
  omega

/-- Removing NULs before or after quoting is the same exactly if the tag does not come about
by the removal. -/
theorem withoutNul_quote_eq_iff (payload : Text) :
    Text.withoutNul (quote payload) = quote (Text.withoutNul payload) ↔
      ¬ tag payload <:+: Text.withoutNul payload := by
  rw [← (tagsWithin_withoutNul payload).tag_eq_iff, withoutNul_quote]
  constructor
  · intro hsame
    have hlength := congrArg List.length hsame
    simp only [quote, List.length_append] at hlength
    rw [quote, List.append_assoc, List.append_assoc] at hsame
    exact (List.append_inj hsame (by omega)).1.symm
  · intro hsame
    rw [quote, hsame]

end DollarQuoted

namespace Value

open DollarQuoted

theorem nul_not_mem_ofInt (n : Int) : '\x00' ∉ Text.ofInt n :=
  not_mem_of_all_isPlainChar (Text.all_isPlainChar_ofInt n) (by decide)

theorem withoutNul_quote_float (x : Binary64) :
    Text.withoutNul (quote x.text) = quote x.text := by
  have hnul := not_mem_of_all_isPlainChar x.all_isPlainChar_text
    (by decide : isPlainChar '\x00' = false)
  rw [withoutNul_quote, Text.withoutNul_of_not_mem hnul, quote]

theorem nul_not_mem_literal_timestamp (instant : Instant) :
    '\x00' ∉ (timestamp instant).literal := by
  have hnul := not_mem_of_all_isPlainChar instant.all_isPlainChar_text
    (by decide : isPlainChar '\x00' = false)
  simp [literal, hnul]

theorem withoutNul_literal_list {items : List Value} (hne : items ≠ []) :
    Text.withoutNul (list items).literal =
      Text.joined ", " (items.map fun item => Text.withoutNul item.literal) := by
  rw [literal_list hne, Text.withoutNul_joined (by decide), List.map_map]
  rfl

theorem literal_mapTexts_list {change : Text → Text} {items : List Value} (hne : items ≠ []) :
    ((list items).mapTexts change).literal =
      Text.joined ", " (items.map fun item => (item.mapTexts change).literal) := by
  rw [mapTexts_list, literal_list (by simpa using hne), List.map_map]
  rfl

/-- Removing NULs from the literal never leaves more than removing them from the texts in it. -/
theorem length_withoutNul_literal_le {v : Value} (hdata : v.queryFree = true) :
    (Text.withoutNul v.literal).length ≤ (v.mapTexts Text.withoutNul).literal.length := by
  induction v with
  | text payload => simpa [mapTexts, literal] using length_withoutNul_quote_le payload
  | query statement => simp [queryFree] at hdata
  | list items ih =>
      by_cases hne : items = []
      · subst hne
        decide
      · rw [queryFree_list] at hdata
        rw [withoutNul_literal_list hne, literal_mapTexts_list hne]
        apply Text.Shorter.length_joined_le
        exact Text.shorter_map fun item hmem => ih item hmem (hdata item hmem)
  | _ => exact List.length_filter_le _ _

/-- No item can make up for a change of another one, since removal shortens. -/
theorem withoutNul_literal_list_eq_iff {items : List Value}
    (hdata : ∀ item ∈ items, item.queryFree = true) :
    Text.withoutNul (list items).literal = ((list items).mapTexts Text.withoutNul).literal ↔
      ∀ item ∈ items, Text.withoutNul item.literal = (item.mapTexts Text.withoutNul).literal := by
  by_cases hne : items = []
  · subst hne
    simp only [List.not_mem_nil, false_implies, implies_true, iff_true]
    decide
  · have hshorter : Text.Shorter (items.map fun item => Text.withoutNul item.literal)
        (items.map fun item => (item.mapTexts Text.withoutNul).literal) :=
      Text.shorter_map fun item hmem => length_withoutNul_literal_le (hdata item hmem)
    rw [withoutNul_literal_list hne, literal_mapTexts_list hne]
    constructor
    · intro hsame
      exact List.map_inj_left.1 (hshorter.eq_of_joined_eq hsame)
    · intro hsame
      rw [List.map_inj_left.2 hsame]

/-- Removal commutes with a literal exactly if it does with every text in it: no item is
longer when NULs are removed last, so that none makes up for another. -/
theorem withoutNul_literal_eq_iff {v : Value} (hdata : v.queryFree = true) :
    Text.withoutNul v.literal = (v.mapTexts Text.withoutNul).literal ↔
      ∀ payload ∈ v.texts, ¬ tag payload <:+: Text.withoutNul payload := by
  induction v with
  | null => simp [mapTexts, literal, texts]; rfl
  | bool value => cases value <;> simp [mapTexts, literal, texts] <;> rfl
  | int n =>
      simp [mapTexts, literal, texts, Text.withoutNul_of_not_mem (nul_not_mem_ofInt n.toInt)]
  | float x => simp [mapTexts, literal, texts, withoutNul_quote_float]
  | text payload => simpa [mapTexts, literal, texts] using withoutNul_quote_eq_iff payload
  | timestamp instant =>
      simp [mapTexts, texts, Text.withoutNul_of_not_mem (nul_not_mem_literal_timestamp instant)]
  | query statement => simp [queryFree] at hdata
  | list items ih =>
      rw [queryFree_list] at hdata
      rw [withoutNul_literal_list_eq_iff hdata]
      constructor
      · intro hsame payload hmem
        obtain ⟨item, hitem, hpayload⟩ := mem_texts_list.1 hmem
        exact (ih item hitem (hdata item hitem)).1 (hsame item hitem) payload hpayload
      · intro hfree item hitem
        apply (ih item hitem (hdata item hitem)).2
        intro payload hpayload
        exact hfree payload (mem_texts_list.2 ⟨item, hitem, hpayload⟩)

/-- A text is sent between the tags that were chosen with its NULs in place.
Removing NULs commutes with taking literals exactly if none of these tags occurs
in its payload as it is sent. -/
theorem removal_commutes_iff_sent_payloads_hold_no_tag (v : Value)
    (hdata : v.queryFree = true) :
    (Text.withoutNul v.literal = (v.mapTexts Text.withoutNul).literal ↔
      ∀ payload ∈ v.texts, ¬ tag payload <:+: Text.withoutNul payload) ∧
    ∀ (payload before rest : Text) (executor : Executor) (options : ExecutionOptions),
      (execute executor options (before ++ (text payload).literal ++ rest)).sent =
        [Text.withoutNul before ++ (tag payload ++ Text.withoutNul payload ++ tag payload) ++
          Text.withoutNul rest] := by
  refine ⟨withoutNul_literal_eq_iff hdata, ?_⟩
  intro payload before rest executor options
  rw [sent_execute, literal, Text.withoutNul_append, Text.withoutNul_append, withoutNul_quote]

theorem removal_does_not_commute_on_a_nested_text :
    (list [int 1, list [text "$Q\x00$"]]).queryFree = true ∧
      Text.withoutNul (list [int 1, list [text "$Q\x00$"]]).literal ≠
        ((list [int 1, list [text "$Q\x00$"]]).mapTexts Text.withoutNul).literal := by
  have hdata : (list [int 1, list [text "$Q\x00$"]]).queryFree = true := by decide
  refine ⟨hdata, fun hsame => ?_⟩
  have hfree := (removal_commutes_iff_sent_payloads_hold_no_tag _ hdata).1.1 hsame
  exact hfree "$Q\x00$" (by decide) (by decide)

theorem exists_literal_that_removal_changes :
    ¬ ∀ v : Value, v.queryFree = true →
      Text.withoutNul v.literal = (v.mapTexts Text.withoutNul).literal := by
  intro hall
  exact absurd (hall (text "$Q\x00$") rfl) (by decide)

end Value

end SqlBuilder
