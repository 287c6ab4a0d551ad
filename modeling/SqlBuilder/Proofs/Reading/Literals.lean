import SqlBuilder.Proofs.Quoting.Reading
import SqlBuilder.Proofs.Reading.Items
import SqlBuilder.Proofs.Value.Characters
import SqlBuilder.Proofs.Value.Structure
import SqlBuilder.Quoting.Identifier

/-!
Quoted names, and the literals of scalar values, read quietly.  That holds for a text
that ends its own literal too: the rest of its tag then stands outside quotes, but there
is no comma in it.
-/

namespace SqlBuilder

open Lexeme

theorem isCalm_of_isPlainChar {c : Char} (hplain : isPlainChar c = true) : isCalm c = true := by
  have hloud : "Q\x27\x22$,()E".toList.any isPlainChar = false := by decide
  have hnot : c ∉ "Q\x27\x22$,()E".toList := fun hmem => List.any_eq_false.1 hloud c hmem hplain
  simp only [String.reduceToList, List.mem_cons, List.not_mem_nil, or_false, not_or] at hnot
  simp [isCalm, opens, isQuiet, hnot]

namespace ReadsQuietly

theorem of_all_isPlainChar {text : Text} (hall : text.all isPlainChar = true) :
    ReadsQuietly text :=
  of_calm (List.all_eq_true.2 fun c hc =>
    isCalm_of_isPlainChar (List.all_eq_true.1 hall c hc))

/-- A text between two quotation marks of a sort that it does not contain. -/
theorem quoted {delimiter : Char} (hdelimiter : delimiter = '\x27' ∨ delimiter = '\x22')
    {payload : Text} (hpayload : delimiter ∉ payload) :
    ReadsQuietly (delimiter :: (payload ++ [delimiter])) where
  head := by
    rw [List.head?_cons]
    rcases hdelimiter with rfl | rfl <;> decide
  read := by
    refine ⟨[.quoted [delimiter] payload], .of_quiet (by simp [isQuiet]), fun rest _ => ?_⟩
    have hopen : delimiter? (delimiter :: (payload ++ ([delimiter] ++ rest))) =
        some ([delimiter], payload ++ ([delimiter] ++ rest)) := by
      rcases hdelimiter with rfl | rfl <;> rfl
    have hcut : Text.cutAt? [delimiter] (payload ++ ([delimiter] ++ rest)) =
        some (payload, rest) := by
      apply Text.cutAt?_append
      rintro skipped kept rfl hkept hbegins
      obtain ⟨c, others, rfl⟩ := List.exists_cons_of_ne_nil hkept
      obtain ⟨rfl, -⟩ := List.cons_prefix_cons.1 hbegins
      simp at hpayload
    have hquoted := quoted?_eq_some_iff.2 ⟨_, _, _, hopen, hcut, rfl⟩
    rw [List.cons_append, List.append_assoc, lexemes_of_quoted? hquoted]
    rfl

/-- A segment of a name is quiet in its quotes, and so is a bare star. -/
theorem quotedSegment (segment : Text) : ReadsQuietly (Identifier.quotedSegment segment) := by
  have hdoubled : ∀ payload : Text, '\x22' ∉ payload →
      ReadsQuietly ('\x22' :: (payload ++ Identifier.doubled segment ++ ['\x22'])) := by
    induction segment with
    | nil =>
        intro payload hpayload
        rw [Identifier.doubled, List.flatMap_nil, List.append_nil]
        exact quoted (.inr rfl) hpayload
    | cons c segment ih =>
        intro payload hpayload
        rw [Identifier.doubled, List.flatMap_cons, ← Identifier.doubled]
        split
        · have hpair := (quoted (.inr rfl) hpayload).append (ih [] List.not_mem_nil)
          simpa using hpair
        · next hc =>
            have hlonger := ih (payload ++ [c]) (by simp [hpayload, Ne.symm hc])
            simpa using hlonger
  rw [Identifier.quotedSegment]
  split
  · exact of_calm (by decide)
  · simpa using hdoubled [] List.not_mem_nil

theorem quotedName (name : Text) : ReadsQuietly (Identifier.quote name) := by
  apply joined (of_calm (by decide))
  intro part hpart
  obtain ⟨segment, -, rfl⟩ := List.mem_map.1 hpart
  exact quotedSegment segment

end ReadsQuietly

namespace DollarQuoted

/-- Cutting a text into lexemes and reading a dollar-quoted text end it at the same place. -/
theorem quoted?_of_read? {payload rest before later : Text}
    (hread : read? (quote payload ++ rest) = some (before, later)) :
    quoted? (quote payload ++ rest) = some (.quoted (tag payload) before, later) := by
  obtain ⟨digits, hdigits, htag⟩ := exists_tag_eq_marked payload
  have hopen : ∀ text, delimiter? (tag payload ++ text) = some (tag payload, text) := by
    intro text
    rw [htag, ← tag?_marked_append hdigits]
    rfl
  rw [quote, List.append_assoc, List.append_assoc] at hread ⊢
  rw [read?_tag_append] at hread
  exact quoted?_eq_some_iff.2 ⟨tag payload, before, _, hopen _, hread, rfl⟩

/-- A dollar sign that no `Q` follows opens no tag. -/
theorem lexemes_dollar {rest : Text} (hrest : rest.head? ≠ some 'Q') :
    lexemes ('$' :: rest) = mark '$' :: lexemes rest := by
  have hnone : Text.after? "$Q" ('$' :: rest) = none := by
    rcases rest with _ | ⟨c, later⟩
    · rfl
    · have hc : ¬ 'Q' = c := fun heq => hrest (by rw [heq]; rfl)
      simp [Text.after?, hc]
  have hopen : delimiter? ('$' :: rest) = none := by
    change tag? ('$' :: rest) = none
    rw [tag?, hnone]
    rfl
  apply lexemes_of_quoted?_eq_none
  rw [quoted?, hopen]
  rfl

/-- A dollar-quoted text is quiet even if its payload closes it early, as the rest of the
closing tag is quiet, too. -/
theorem readsQuietly_quote (payload : Text) : ReadsQuietly (quote payload) := by
  obtain ⟨digits, hdigits, htag⟩ := exists_tag_eq_marked payload
  constructor
  · rw [quote, htag, marked_eq_cons, List.cons_append, List.cons_append, List.head?_cons]
    decide
  · by_cases hend : EndsInTag payload
    · -- The rest of the closing tag stands behind the literal, up to its dollar sign.
      obtain ⟨before, hbefore⟩ := hend
      have hdigit : ∀ c ∈ 'Q' :: digits, opens c = false ∧ (mark c).isQuiet = true := by
        rw [List.forall_mem_cons]
        refine ⟨⟨rfl, rfl⟩, fun c hc => ?_⟩
        have hcalm := isCalm_of_isPlainChar
          (isPlainChar_of_isDigit (List.all_eq_true.1 hdigits c hc))
        simp only [isCalm, Bool.and_eq_true, Bool.not_eq_true'] at hcalm
        exact ⟨hcalm.1.2, hcalm.2⟩
      have hplain : ('Q' :: digits).any opens = false :=
        List.any_eq_false.2 fun c hc => by simp [(hdigit c hc).1]
      have htail : (tag payload).tail = 'Q' :: digits ++ ['$'] := by
        rw [htag, marked_eq_cons, List.tail_cons]
      refine ⟨.quoted (tag payload) before :: (('Q' :: digits).map mark ++ [mark '$']),
        .of_quiet ?_, ?_⟩
      · rw [List.forall_mem_cons, List.forall_mem_append, List.forall_mem_map]
        exact ⟨rfl, fun c hc => (hdigit c hc).2, by simp [isQuiet]⟩
      · intro rest hrest
        have hread := read?_quote_append_of_ends hbefore.symm rest
        rw [lexemes_of_quoted? (quoted?_of_read? hread), htail, List.append_assoc,
          lexemes_append_of_not_opens hplain, List.singleton_append, lexemes_dollar hrest]
        simp
    · refine ⟨[.quoted (tag payload) payload], .of_quiet (by simp [isQuiet]), fun rest _ => ?_⟩
      exact lexemes_of_quoted? (quoted?_of_read? (read?_quote_append hend rest))

end DollarQuoted

namespace Value

/-- The literal of a value that is neither a list with items nor a statement. -/
theorem readsQuietly_literal_leaf {value leaf : Value} (hleaf : leaf ∈ value.leaves)
    (hquery : ∀ inner, leaf ≠ .query inner) : ReadsQuietly leaf.literal := by
  have hnull : ReadsQuietly "NULL" := ReadsQuietly.of_calm (by decide)
  cases leaf with
  | null =>
      rw [literal]
      exact hnull
  | bool b =>
      cases b <;> rw [literal]
      · exact @ReadsQuietly.quoted _ (.inl rfl) "f" (by decide)
      · exact @ReadsQuietly.quoted _ (.inl rfl) "t" (by decide)
  | int n =>
      rw [literal]
      exact ReadsQuietly.of_all_isPlainChar (Text.all_isPlainChar_ofInt n.toInt)
  | float x =>
      rw [literal]
      exact DollarQuoted.readsQuietly_quote x.text
  | text payload =>
      rw [literal]
      exact DollarQuoted.readsQuietly_quote payload
  | timestamp instant =>
      rw [literal]
      have hpayload : '\x27' ∉ instant.text :=
        not_mem_of_all_isPlainChar instant.all_isPlainChar_text (by decide)
      generalize instant.text = payload at hpayload
      exact ReadsQuietly.quoted (.inl rfl) hpayload
  | query statement => exact absurd rfl (hquery statement)
  | list items =>
      rcases items with _ | ⟨item, items⟩
      · rw [literal]
        exact hnull
      · exact absurd rfl (ne_list_cons_of_mem_leaves hleaf item items)

end Value

end SqlBuilder
