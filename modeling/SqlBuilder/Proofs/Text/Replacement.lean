import SqlBuilder.Text.Basic

/-!
Replacing a text from left to right.  Wherever reading has come to, the needle is replaced
as a whole if it stands there, and reading goes on behind it; otherwise one character is
kept.
-/

namespace SqlBuilder.Text

/-- The second text is the first one with the occurrences of the needle that are met from
left to right replaced. -/
inductive Replaced (needle replacement : Text) : Text → Text → Prop
  | nil : Replaced needle replacement [] []
  | found {rest result : Text} (hrest : Replaced needle replacement rest result) :
      Replaced needle replacement (needle ++ rest) (replacement ++ result)
  | kept {c : Char} {rest result : Text} (habsent : ¬ needle <+: c :: rest)
      (hrest : Replaced needle replacement rest result) :
      Replaced needle replacement (c :: rest) (c :: result)

/-- Replacing brings in no character that is not in the replacement. -/
theorem Replaced.mem {needle replacement text result : Text} {c : Char}
    (hreplaced : Replaced needle replacement text result) (hc : c ∈ result) :
    c ∈ text ∨ c ∈ replacement := by
  induction hreplaced with
  | nil => exact .inl hc
  | found _ ih =>
      rcases List.mem_append.1 hc with hhere | hlater
      · exact .inr hhere
      · exact (ih hlater).imp_left (List.mem_append_right needle)
  | kept _ _ ih =>
      rcases List.mem_cons.1 hc with rfl | hlater
      · exact .inl List.mem_cons_self
      · exact (ih hlater).imp_left (List.mem_cons_of_mem _)

theorem replaced_replaceAllFrom {needle : Text} (hne : needle ≠ []) (replacement : Text)
    (skip : Nat) (text : Text) :
    Replaced needle replacement (text.drop skip)
      (replaceAllFrom needle replacement skip text) := by
  induction text generalizing skip with
  | nil =>
      rw [List.drop_nil, replaceAllFrom]
      exact .nil
  | cons c rest ih =>
      cases skip with
      | succ skip => exact ih skip
      | zero =>
          rw [replaceAllFrom, List.drop_zero]
          split
          · next hfound =>
              obtain ⟨after, hafter⟩ := List.isPrefixOf_iff_prefix.1 hfound.2
              obtain ⟨d, others, rfl⟩ := List.exists_cons_of_ne_nil hne
              rw [List.cons_append] at hafter
              obtain ⟨rfl, rfl⟩ := List.cons.inj hafter
              have hrest := ih others.length
              rw [List.drop_left] at hrest
              exact .found hrest
          · next habsent =>
              refine .kept (fun hhere => habsent ⟨hne, ?_⟩) (ih 0)
              exact List.isPrefixOf_iff_prefix.2 hhere

theorem replaced_replaceAll {needle : Text} (hne : needle ≠ []) (replacement text : Text) :
    Replaced needle replacement text (replaceAll needle replacement text) :=
  replaced_replaceAllFrom hne replacement 0 text

end SqlBuilder.Text
