import Mathlib.Data.List.Basic
import SqlBuilder.Proofs.Text.Joined
import SqlBuilder.Quoting.Identifier

/-!
Reading quoted names back.  Inside its quotes a segment holds double quotes in pairs
only, so that the first one that stands alone is the closing one, unless another
double quote follows the name; and the name ends with the first segment that no dot
follows.  What is read is the list of segments between the dots of the name.
-/

namespace SqlBuilder.Identifier

theorem inside?_cons {c : Char} (hc : c ≠ '\x22') (rest : Text) :
    inside? (c :: rest) = (inside? rest).map fun read => (c :: read.1, read.2) := by
  rw [inside?.eq_def]
  exact if_neg hc

/-- A doubled quote is read as one, so that the segment ends at the first quote that
stands alone. -/
theorem inside?_doubled_append (segment : Text) {rest : Text}
    (hquote : rest.head? ≠ some '\x22') :
    inside? (doubled segment ++ '\x22' :: rest) = some (segment, rest) := by
  induction segment with
  | nil =>
      cases rest with
      | nil => rfl
      | cons next later =>
          have hnext : next ≠ '\x22' := fun heq => hquote (by rw [heq]; rfl)
          simp [doubled, inside?, hnext]
  | cons c segment ih =>
      by_cases hc : c = '\x22'
      · subst hc
        have hpair : doubled ('\x22' :: segment) = '\x22' :: '\x22' :: doubled segment := rfl
        simp [hpair, inside?, ih]
      · have hsame : doubled (c :: segment) = c :: doubled segment := by
          simp [doubled, hc]
        rw [hsame, List.cons_append, inside?_cons hc, ih]
        rfl

/-- A segment is read back from its quoted form unless a further quote follows. -/
theorem segment?_quotedSegment_append (segment : Text) {rest : Text}
    (hquote : rest.head? ≠ some '\x22') :
    segment? (quotedSegment segment ++ rest) = some (segment, rest) := by
  rw [quotedSegment]
  split
  · next hstar =>
      rw [hstar]
      rfl
  · have hopen : "\x22" ++ doubled segment ++ "\x22" ++ rest =
        '\x22' :: (doubled segment ++ '\x22' :: rest) := by simp
    rw [hopen, segment?, inside?_doubled_append segment hquote]

/-- After a segment a dot leads on to the next one, and anything else ends the name. -/
theorem read?_of_segment? {text segment rest : Text} :
    segment? text = some (segment, rest) →
      read? text =
        match rest with
        | '.' :: later => (read? later).map fun read => (segment :: read.1, read.2)
        | _ => some ([segment], rest) := by
  intro hsegment
  rw [read?]
  split
  · next hnone =>
      rw [hsegment] at hnone
      cases hnone
  · next hsome =>
      rw [hsegment] at hsome
      cases hsome
      rfl
  · next found later hother hsome =>
      rw [hsegment] at hsome
      cases hsome
      split
      · next after => exact absurd rfl (hother after)
      · rfl

theorem read?_quotedSegment_dot (segment later : Text) :
    read? (quotedSegment segment ++ '.' :: later) =
      (read? later).map fun read => (segment :: read.1, read.2) := by
  have hquote : ('.' :: later).head? ≠ some '\x22' := by
    rw [List.head?_cons]
    decide
  rw [read?_of_segment? (segment?_quotedSegment_append segment hquote)]
  rfl

theorem read?_quotedSegment (segment : Text) {rest : Text}
    (hquote : rest.head? ≠ some '\x22') (hdot : rest.head? ≠ some '.') :
    read? (quotedSegment segment ++ rest) = some ([segment], rest) := by
  rw [read?_of_segment? (segment?_quotedSegment_append segment hquote)]
  split
  · exact absurd rfl hdot
  · rfl

/-- Quoted segments with dots between them are read up to the last one. -/
theorem read?_joined {parts : List Text} (hne : parts ≠ []) {rest : Text}
    (hquote : rest.head? ≠ some '\x22') (hdot : rest.head? ≠ some '.') :
    read? (Text.joined "." (parts.map quotedSegment) ++ rest) = some (parts, rest) := by
  obtain ⟨first, others, rfl⟩ := List.exists_cons_of_ne_nil hne
  clear hne
  induction others generalizing first with
  | nil =>
      rw [List.map_singleton, Text.joined_singleton]
      exact read?_quotedSegment first hquote hdot
  | cons second others ih =>
      have hsplit : Text.joined "." ((first :: second :: others).map quotedSegment) ++ rest =
          quotedSegment first ++
            '.' :: (Text.joined "." ((second :: others).map quotedSegment) ++ rest) := by
        simp [Text.joined_cons_cons]
      rw [hsplit, read?_quotedSegment_dot, ih second]
      rfl

theorem joined_segments (name : Text) : Text.joined "." (segments name) = name :=
  List.intercalate_splitOn '.'

theorem dot_not_mem_of_mem_segments {name segment : Text} (hmem : segment ∈ segments name) :
    '.' ∉ segment := by
  rw [segments] at hmem
  induction name generalizing segment with
  | nil =>
      rw [List.splitOn_nil, List.mem_singleton] at hmem
      simp [hmem]
  | cons c name ih =>
      rw [List.splitOn_cons_eq_if_modifyHead] at hmem
      split at hmem
      · rcases List.mem_cons.1 hmem with rfl | hlater
        · exact List.not_mem_nil
        · exact ih hlater
      · next hc =>
          obtain ⟨first, others, hparts⟩ :=
            List.exists_cons_of_ne_nil (List.splitOn_ne_nil '.' name)
          rw [hparts, List.modifyHead_cons] at hmem
          rcases List.mem_cons.1 hmem with rfl | hlater
          · have hfirst : '.' ∉ first := ih (by rw [hparts]; exact List.mem_cons_self)
            rw [List.mem_cons, not_or]
            exact ⟨fun heq => hc (beq_iff_eq.2 heq.symm), hfirst⟩
          · exact ih (by rw [hparts]; exact List.mem_cons_of_mem first hlater)

/-- The quoted form of a name starts with a quote or a star. -/
theorem exists_quote_eq_cons (name : Text) :
    ∃ c rest, quote name = c :: rest ∧ (c = '\x22' ∨ c = '*') := by
  obtain ⟨first, others, hsegments⟩ := List.exists_cons_of_ne_nil (List.splitOn_ne_nil '.' name)
  rw [quote, segments, hsegments, List.map_cons, Text.joined_cons, quotedSegment]
  split
  · exact ⟨'*', _, rfl, .inr rfl⟩
  · exact ⟨'\x22', _, rfl, .inl rfl⟩

/-- A quoted name is read up to its end wherever it stands, and what is read are the
segments between the dots of the name; so no other name has the same quoted form. -/
theorem quoted_name_is_read_back (name : Text) {rest : Text}
    (hquote : rest.head? ≠ some '\x22') (hdot : rest.head? ≠ some '.') :
    read? (quote name ++ rest) = some (segments name, rest) ∧
      Text.joined "." (segments name) = name ∧
      (∀ segment ∈ segments name, '.' ∉ segment) ∧
      ∀ other, quote other = quote name → other = name := by
  have hread : ∀ other, read? (quote other ++ rest) = some (segments other, rest) := fun other =>
    read?_joined (List.splitOn_ne_nil '.' other) hquote hdot
  refine ⟨hread name, joined_segments name, fun _ => dot_not_mem_of_mem_segments, ?_⟩
  intro other hsame
  have hsegments := hread other
  rw [hsame, hread name, Option.some.injEq, Prod.mk.injEq] at hsegments
  rw [← joined_segments other, ← hsegments.1, joined_segments name]

theorem name_of_quotes_and_stars_is_read_back :
    "(1)".toList.head? ≠ some '\x22' ∧ "(1)".toList.head? ≠ some '.' ∧
      quote "\x22.*..a\x22\x22*" = "\x22\x22\x22\x22.*.\x22\x22.\x22a\x22\x22\x22\x22*\x22" ∧
      read? (quote "\x22.*..a\x22\x22*" ++ "(1)") =
        some (["\x22".toList, "*".toList, [], "a\x22\x22*".toList], "(1)".toList) := by
  have hquote : "(1)".toList.head? ≠ some '\x22' := by decide
  have hdot : "(1)".toList.head? ≠ some '.' := by decide
  refine ⟨hquote, hdot, by decide, ?_⟩
  rw [(quoted_name_is_read_back _ hquote hdot).1]
  decide

end SqlBuilder.Identifier
