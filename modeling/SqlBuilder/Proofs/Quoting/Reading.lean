import SqlBuilder.Proofs.Quoting.Tag
import SqlBuilder.Value.Basic

/-!
Reading dollar-quoted texts back.  The tag does not occur in the payload, but
the payload may end with all of the tag but its last dollar sign.  The closing
tag then supplies that dollar sign, and a reader stops too early; in every other
case it reads exactly the payload and leaves exactly what follows.
-/

namespace SqlBuilder.DollarQuoted

theorem tag?_marked_append {digits : Text} (hdigits : digits.all Char.isDigit = true)
    (rest : Text) : tag? (marked digits ++ rest) = some (marked digits, rest) := by
  have hall : ∀ c ∈ digits, c.isDigit = true := List.all_eq_true.1 hdigits
  have hsplit : marked digits ++ rest = "$Q" ++ (digits ++ ("$" ++ rest)) := by
    simp only [marked, List.append_assoc]
  have htake : (digits ++ ("$".toList ++ rest)).takeWhile Char.isDigit = digits := by
    rw [List.takeWhile_append_of_pos hall]
    exact List.append_nil digits
  have hdrop : (digits ++ ("$".toList ++ rest)).dropWhile Char.isDigit = "$" ++ rest := by
    rw [List.dropWhile_append_of_pos hall]
    rfl
  simp only [tag?, hsplit, Text.after?_append, Option.bind_eq_bind, Option.bind_some, htake,
    hdrop]
  rfl

/-- After its tag a dollar-quoted text is read up to the same tag. -/
theorem read?_tag_append (payload text : Text) :
    read? (tag payload ++ text) = Text.cutAt? (tag payload) text := by
  obtain ⟨digits, hdigits, htag⟩ := exists_tag_eq_marked payload
  rw [htag, read?, tag?_marked_append hdigits]
  rfl

/-- A tag that begins before another copy of itself either ends before it too, or
shares just one dollar sign with it. -/
theorem eq_dropLast_of_straddle {digits kept rest : Text}
    (hdigits : digits.all Char.isDigit = true) (hkept : kept ≠ [])
    (hbegins : marked digits <+: kept ++ (marked digits ++ rest)) :
    marked digits <+: kept ∨ kept = (marked digits).dropLast := by
  rcases List.prefix_or_prefix_of_prefix hbegins (List.prefix_append kept _) with h | h
  · exact Or.inl h
  · obtain ⟨overlap, hoverlap⟩ := h
    obtain ⟨first, others, rfl⟩ := List.exists_cons_of_ne_nil hkept
    cases overlap with
    | nil =>
        have hsame : first :: others = marked digits := by rw [← hoverlap, List.append_nil]
        exact Or.inl (hsame ▸ List.prefix_rfl)
    | cons d overlap =>
        have hd : d = '$' := by
          obtain ⟨later, hlater⟩ := hbegins
          have hwhole : first :: others ++ (d :: overlap ++ later) =
              first :: others ++ (marked digits ++ rest) := by
            rw [← List.append_assoc, hoverlap, hlater]
          have hcopy := List.append_cancel_left hwhole
          simp only [marked_eq_cons, List.cons_append, List.cons.injEq] at hcopy
          exact hcopy.1
        subst hd
        rw [marked_eq_cons, List.cons_append, List.cons.injEq] at hoverlap
        obtain ⟨rfl, hinner⟩ := hoverlap
        have hothers := ((List.append_cons_inj_of_notMem
          (dollar_not_mem_of_digits hdigits) List.not_mem_nil).1 hinner.symm).1
        right
        rw [dropLast_marked, ← hothers]
        rfl

/-- The payload ends with its tag but for the last dollar sign of the tag. -/
def EndsInTag (payload : Text) : Prop := (tag payload).dropLast <:+ payload

instance (payload : Text) : Decidable (EndsInTag payload) :=
  inferInstanceAs (Decidable ((tag payload).dropLast <:+ payload))

/-- The tag cannot begin inside a part of the payload unless it is cut off there
by the end of that part. -/
theorem eq_dropLast_of_tag_isPrefix {payload skipped kept later rest : Text}
    (hpayload : payload = skipped ++ kept ++ later) (hkept : kept ≠ [])
    (hbegins : tag payload <+: kept ++ (tag payload ++ rest)) :
    kept = (tag payload).dropLast := by
  obtain ⟨digits, hdigits, htag⟩ := exists_tag_eq_marked payload
  rw [htag] at hbegins ⊢
  rcases eq_dropLast_of_straddle hdigits hkept hbegins with h | h
  · have hinside : kept <:+: payload := ⟨skipped, later, hpayload.symm⟩
    exact absurd (htag ▸ h.isInfix.trans hinside) (tag_not_isInfix payload)
  · exact h

/-- A payload is read back whole unless it ends in its tag but for the last dollar sign. -/
theorem read?_quote_append {payload : Text} (hend : ¬ EndsInTag payload) (rest : Text) :
    read? (quote payload ++ rest) = some (payload, rest) := by
  rw [quote, List.append_assoc, List.append_assoc, read?_tag_append]
  apply Text.cutAt?_append
  intro skipped kept hsplit hkept hbegins
  have hpayload : payload = skipped ++ kept ++ [] := by rw [List.append_nil, hsplit]
  have hcut := eq_dropLast_of_tag_isPrefix hpayload hkept hbegins
  exact hend ⟨skipped, by rw [← hcut, hsplit]⟩

/-- Up to the last dollar sign, two tags one after another overlap in that dollar
sign only. -/
theorem dropLast_tag_append_tag (payload : Text) :
    (tag payload).dropLast ++ tag payload = tag payload ++ (tag payload).tail := by
  obtain ⟨digits, -, htag⟩ := exists_tag_eq_marked payload
  rw [htag, dropLast_marked, marked]
  simp

/-- A payload that ends in its tag but for the last dollar sign is read without this end,
which the first dollar sign of the closing tag completes to a tag. -/
theorem read?_quote_append_of_ends {payload before : Text}
    (hend : payload = before ++ (tag payload).dropLast) (rest : Text) :
    read? (quote payload ++ rest) = some (before, (tag payload).tail ++ rest) := by
  have hwhole : payload ++ (tag payload ++ rest) =
      before ++ (tag payload ++ ((tag payload).tail ++ rest)) := by
    calc payload ++ (tag payload ++ rest)
        = before ++ (tag payload).dropLast ++ (tag payload ++ rest) :=
          congrArg (· ++ (tag payload ++ rest)) hend
      _ = before ++ ((tag payload).dropLast ++ tag payload ++ rest) := by
          simp only [List.append_assoc]
      _ = before ++ (tag payload ++ ((tag payload).tail ++ rest)) := by
          rw [dropLast_tag_append_tag, List.append_assoc]
  rw [quote, List.append_assoc, List.append_assoc, read?_tag_append, hwhole]
  apply Text.cutAt?_append
  intro skipped kept hsplit hkept hbegins
  have hpayload : payload = skipped ++ kept ++ (tag payload).dropLast := by
    rw [← hsplit]
    exact hend
  have hcut := eq_dropLast_of_tag_isPrefix hpayload hkept hbegins
  -- two such ends in a row would hold a whole tag
  have htwice : tag payload <:+: payload := by
    obtain ⟨digits, -, htag⟩ := exists_tag_eq_marked payload
    rw [hcut, htag, dropLast_marked] at hpayload
    rw [htag]
    refine ⟨skipped, 'Q' :: digits, ?_⟩
    conv_rhs => rw [hpayload]
    simp [marked]
  exact tag_not_isInfix payload htwice

/-- A text is read back from its literal exactly if it does not end in its tag.
Otherwise the literal ends early, in front of that ending. -/
theorem read?_literal_text_iff (payload rest : Text) :
    (read? ((Value.text payload).literal ++ rest) = some (payload, rest) ↔
      ¬ EndsInTag payload) ∧
    ∀ before, payload = before ++ (tag payload).dropLast →
      read? ((Value.text payload).literal ++ rest) =
        some (before, (tag payload).tail ++ rest) := by
  rw [Value.literal]
  refine ⟨⟨?_, fun hend => read?_quote_append hend rest⟩,
    fun before hend => read?_quote_append_of_ends hend rest⟩
  rintro hread ⟨before, hbefore⟩
  rw [read?_quote_append_of_ends hbefore.symm rest] at hread
  have hsame : before = payload := congrArg Prod.fst (Option.some.inj hread)
  have hlength := congrArg List.length hbefore
  obtain ⟨digits, -, htag⟩ := exists_tag_eq_marked payload
  rw [hsame, htag, dropLast_marked] at hlength
  simp at hlength

theorem exists_text_that_ends_its_literal :
    ¬ ∀ payload rest : Text,
      read? ((Value.text payload).literal ++ rest) = some (payload, rest) := by
  intro hall
  exact absurd (hall "$Q" "") (by decide)

example : EndsInTag "$Q$ $Q0" ∧ ¬ EndsInTag "$Q$ $Q" := by decide

end SqlBuilder.DollarQuoted
