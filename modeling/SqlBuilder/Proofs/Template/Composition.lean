import SqlBuilder.Proofs.Template.Cutting

/-!
Templates put together from parts.  A placeholder reaches over a cut where a dollar sign
and a run of word characters end the first part and a word character begins the second
one.  Everywhere else, and only there, filling in the whole is filling in the parts.
-/

namespace SqlBuilder.Template

variable {first second : Text}

theorem interpolate_append_of_not_straddled (hcut : ¬ Straddled first second)
    (bindings : Bindings) :
    interpolate (first ++ second) bindings =
      interpolate first bindings ++ interpolate second bindings := by
  rw [interpolate, pieces_append_of_not_straddled hcut, List.flatMap_append]
  rfl

theorem isPlain_of_isWord {text : Text} (hword : ∀ c ∈ text, Text.isWord c = true) :
    IsPlain text := by
  rintro before after rfl
  exact absurd (hword '$' (by simp)) (by decide)

theorem interpolate_of_isPlain {text rest : Text} (hplain : IsPlain text)
    (hrest : Text.startsWithWord rest = false) (bindings : Bindings) :
    interpolate (text ++ rest) bindings = text ++ interpolate rest bindings := by
  rw [interpolate, pieces_of_isPlain hplain hrest, List.flatMap_append, List.flatMap_map]
  simp [Piece.text, interpolate]

@[simp] theorem interpolate_nil (bindings : Bindings) : interpolate [] bindings = [] := by
  rw [interpolate, pieces]
  rfl

section Unbound

variable (before : Text)

/-- A placeholder to which nothing is bound is a NULL. -/
theorem interpolate_placeholder_empty {name rest : Text} (hne : name ≠ [])
    (hword : ∀ c ∈ name, Text.isWord c = true) (hend : Text.startsWithWord rest = false) :
    interpolate (before ++ '$' :: (name ++ rest)) .empty =
      interpolate before .empty ++ ("NULL" ++ interpolate rest .empty) := by
  rw [interpolate, pieces_append rfl, pieces_placeholder hword hend hne, List.flatMap_append,
    List.flatMap_cons]
  rfl

theorem interpolate_dollar_empty :
    interpolate (before ++ ['$']) .empty = interpolate before .empty ++ "$" := by
  rw [interpolate, pieces_append rfl, List.flatMap_append]
  simp [pieces, Piece.text, interpolate, Text.startsWithWord]

end Unbound

/-- What is cut in two was one NULL, and more than that stands there after the cut. -/
theorem interpolate_append_ne_of_straddled (hcut : Straddled first second) :
    interpolate (first ++ second) .empty ≠
      interpolate first .empty ++ interpolate second .empty := by
  obtain ⟨⟨before, run, rfl, hrun⟩, hsecond⟩ := hcut
  have hword : ∀ c ∈ Text.wordRun second, Text.isWord c = true :=
    fun _ => Text.isWord_of_mem_wordRun
  have hend := Text.startsWithWord_afterWordRun second
  have hne := wordRun_ne_nil hsecond
  rw [← Text.wordRun_append_afterWordRun second]
  generalize Text.wordRun second = name at hword hne
  generalize Text.afterWordRun second = rest at hend
  have hall : ∀ c ∈ run ++ name, Text.isWord c = true := by
    simpa [or_imp, forall_and] using ⟨hrun, hword⟩
  have hwhole : interpolate (before ++ '$' :: run ++ (name ++ rest)) .empty =
      interpolate before .empty ++ ("NULL" ++ interpolate rest .empty) := by
    rw [List.append_assoc, List.cons_append, ← List.append_assoc run]
    exact interpolate_placeholder_empty before (by simp [hne]) hall hend
  rw [hwhole, interpolate_of_isPlain (isPlain_of_isWord hword) hend]
  intro hsame
  by_cases hempty : run = []
  · -- the dollar sign alone is kept, where the whole has a NULL
    rw [hempty, interpolate_dollar_empty, List.append_assoc] at hsame
    have hfirst := congrArg List.head? (List.append_cancel_left hsame)
    simp at hfirst
  · -- the run has a NULL of its own, and the rest of the name is left over
    have hopen := interpolate_placeholder_empty before hempty hrun
      (rfl : Text.startsWithWord [] = false)
    rw [List.append_nil, interpolate_nil, List.append_nil] at hopen
    rw [hopen, List.append_assoc] at hsame
    have hleft := List.append_cancel_left (List.append_cancel_left hsame)
    exact hne (List.self_eq_append_left.1 hleft)

/-- Filling in two texts that stand together is filling them in apart, whatever is bound,
exactly when no placeholder reaches over the cut between them. -/
theorem interpolate_append_iff_not_straddled (first second : Text) :
    (∀ bindings, interpolate (first ++ second) bindings =
      interpolate first bindings ++ interpolate second bindings) ↔
        ¬ Straddled first second :=
  ⟨fun happart hcut => interpolate_append_ne_of_straddled hcut (happart .empty),
    fun hcut => interpolate_append_of_not_straddled hcut⟩

example : interpolate "é$b" .empty = "éNULL" ∧
    interpolate "é$" .empty ++ interpolate "b" .empty = "é$b" := by decide +kernel

end SqlBuilder.Template
