import SqlBuilder.Proofs.Quoting.Names

/-!
Single names as SQL reads them.  Without quotes a name begins with a letter or an underscore,
goes on with letters, digits, underscores and dollar signs, is no reserved word, and is folded
to lower case; between double quotes it is taken as written.  So a text stands for itself
exactly if it is a plain name, while its quoted form stands for it whenever the text has a
single segment that is neither empty nor a star.
-/

namespace SqlBuilder.Identifier

/-- Whether a name without quotes can begin with the character.  Beyond ASCII all
characters count as letters. -/
def beginsWord (c : Char) : Bool := c.isAlpha || c == '_' || decide (0x80 ≤ c.toNat)

/-- Whether a name without quotes can go on with the character. -/
def continuesWord (c : Char) : Bool := beginsWord c || c.isDigit || c == '$'

/-- Whether the text is a word, that is a name without quotes or a reserved word. -/
def isWord : Text → Bool
  | [] => false
  | c :: rest => beginsWord c && rest.all continuesWord

def lowered (text : Text) : Text := text.map Char.toLower

/-- The single name that the whole text is read as. -/
def single? (reserved : Text → Bool) : Text → Option Text
  | '\x22' :: rest =>
      match inside? rest with
      | some (c :: name, []) => some (c :: name)
      | _ => none
  | word => if isWord word && !reserved (lowered word) then some (lowered word) else none

/-- A word in lower case that is not reserved. -/
def IsPlain (reserved : Text → Bool) (name : Text) : Prop :=
  isWord name = true ∧ lowered name = name ∧ reserved name = false

example : single? (· == "user") "Row_1$" = some "row_1$" := by decide +kernel
example : single? (· == "user") "User" = none := by decide +kernel
example : single? (· == "user") "\x22User\x22" = some "User" := by decide +kernel

theorem doubled_cons_of_ne {c : Char} (hc : c ≠ '\x22') (rest : Text) :
    doubled (c :: rest) = c :: doubled rest := by
  rw [doubled, List.flatMap_cons, if_neg hc]
  rfl

/-- What is read up to the last character stands there with its quotes doubled. -/
theorem eq_of_inside?_eq_some {text segment rest : Text}
    (hinside : inside? text = some (segment, rest)) :
    text = doubled segment ++ '\x22' :: rest := by
  fun_induction inside? text generalizing segment with
  | case1 => cases hinside
  | case2 =>
      cases hinside
      rfl
  | case3 later ih =>
      obtain ⟨read, hread, hparts⟩ := Option.map_eq_some_iff.1 hinside
      obtain ⟨rfl, rfl⟩ := Prod.mk.inj hparts
      rw [ih hread]
      rfl
  | case4 next later hnext =>
      cases hinside
      rfl
  | case5 c later hc ih =>
      obtain ⟨read, hread, hparts⟩ := Option.map_eq_some_iff.1 hinside
      obtain ⟨rfl, rfl⟩ := Prod.mk.inj hparts
      rw [doubled_cons_of_ne hc, ih hread]
      rfl

theorem length_le_length_doubled (segment : Text) : segment.length ≤ (doubled segment).length := by
  induction segment with
  | nil => exact Nat.le_refl _
  | cons c segment ih =>
      rw [doubled, List.flatMap_cons, ← doubled]
      split <;> simp only [List.length_append, List.length_cons, List.length_nil] <;> omega

variable {reserved : Text → Bool}

/-- A word names what it is in lower case, unless it is reserved. -/
theorem single?_of_isWord {word : Text} (hword : isWord word = true) :
    single? reserved word = if reserved (lowered word) then none else some (lowered word) := by
  unfold single?
  split
  · cases hword
  · rw [hword, Bool.true_and]
    cases reserved (lowered word) <;> rfl

/-- A text is read as a name by its quotes or as a word. -/
theorem single?_eq_some_iff {text name : Text} :
    single? reserved text = some name ↔
      (name ≠ [] ∧ text = "\x22" ++ doubled name ++ "\x22") ∨
      (isWord text = true ∧ lowered text = name ∧ reserved name = false) := by
  constructor
  · intro hsingle
    unfold single? at hsingle
    split at hsingle
    · next rest =>
        split at hsingle
        · next c inner hinside =>
            cases hsingle
            exact .inl ⟨List.cons_ne_nil _ _, by rw [eq_of_inside?_eq_some hinside]; rfl⟩
        · cases hsingle
    · split at hsingle
      · next hplain =>
          rw [Bool.and_eq_true, Bool.not_eq_true'] at hplain
          cases hsingle
          exact .inr ⟨hplain.1, rfl, hplain.2⟩
      · cases hsingle
  · rintro (⟨hne, rfl⟩ | ⟨hword, rfl, hfree⟩)
    · obtain ⟨c, rest, rfl⟩ := List.exists_cons_of_ne_nil hne
      have hopen : "\x22" ++ doubled (c :: rest) ++ "\x22" =
          '\x22' :: (doubled (c :: rest) ++ "\x22") := rfl
      have hinside : inside? (doubled (c :: rest) ++ "\x22") = some (c :: rest, []) :=
        inside?_doubled_append (c :: rest) (by decide)
      rw [hopen, single?, hinside]
    · rw [single?_of_isWord hword, hfree]
      rfl

/-- A text is read as itself exactly if it is a plain name. -/
theorem single?_eq_some_self_iff {name : Text} :
    single? reserved name = some name ↔ IsPlain reserved name := by
  rw [single?_eq_some_iff]
  refine or_iff_right ?_
  rintro ⟨-, hquoted⟩
  have hlonger := length_le_length_doubled name
  have hlength := congrArg List.length hquoted
  simp only [List.length_append, String.length_toList] at hlength
  have hone : "\x22".length = 1 := rfl
  omega

theorem quote_of_not_mem {name : Text} (hdot : '.' ∉ name) (hstar : name ≠ "*") :
    quote name = "\x22" ++ doubled name ++ "\x22" := by
  have hone : segments name = [name] := List.splitOn_eq_singleton hdot
  rw [quote, hone, List.map_singleton, Text.joined_singleton, quotedSegment, if_neg hstar]

/-- In its quoted form a name with a dot is several names, and a star is none. -/
theorem single?_quote_eq_some_iff {name : Text} :
    single? reserved (quote name) = some name ↔ name ≠ [] ∧ '.' ∉ name ∧ name ≠ "*" := by
  rw [single?_eq_some_iff]
  constructor
  · rintro (⟨hne, hquote⟩ | ⟨hword, -⟩)
    · have hstar : name ≠ "*" := by
        rintro rfl
        exact absurd hquote (by decide)
      have hsegment : quote name = quotedSegment name := by rw [hquote, quotedSegment, if_neg hstar]
      have hread : read? (quote name ++ []) = some (segments name, []) :=
        read?_joined (List.splitOn_ne_nil '.' name) (by decide) (by decide)
      rw [hsegment, read?_quotedSegment name (by decide) (by decide), Option.some.injEq,
        Prod.mk.injEq] at hread
      have hmem : name ∈ segments name := by
        rw [← hread.1]
        exact List.mem_singleton_self name
      exact ⟨hne, dot_not_mem_of_mem_segments hmem, hstar⟩
    · obtain ⟨c, rest, hquote, hc⟩ := exists_quote_eq_cons name
      rw [hquote, isWord, Bool.and_eq_true] at hword
      rcases hc with rfl | rfl
      · exact absurd hword.1 (by decide)
      · exact absurd hword.1 (by decide)
  · rintro ⟨hne, hdot, hstar⟩
    exact .inl ⟨hne, quote_of_not_mem hdot hstar⟩

theorem IsPlain.single?_quote {name : Text} (hplain : IsPlain reserved name) :
    single? reserved (quote name) = some name := by
  obtain ⟨hword, -⟩ := hplain
  rw [single?_quote_eq_some_iff]
  refine ⟨?_, fun hdot => ?_, ?_⟩
  · rintro rfl
    cases hword
  · cases name with
    | nil => cases hdot
    | cons c rest =>
        rw [isWord, Bool.and_eq_true, List.all_eq_true] at hword
        rcases List.mem_cons.1 hdot with rfl | hrest
        · exact absurd hword.1 (by decide)
        · exact absurd (hword.2 '.' hrest) (by decide)
  · rintro rfl
    cases hword

/-- A run of quotes before a doubled text, and what follows it, never begin with the text
and a character that is no quote. -/
theorem replicate_append_doubled_ne {c : Char} (hc : c ≠ '\x22') (segment rest later : Text)
    (n : Nat) :
    List.replicate (n + 1) '\x22' ++ (doubled segment ++ rest) ≠ segment ++ c :: later := by
  induction segment generalizing n with
  | nil =>
      intro heq
      exact hc (List.cons.inj heq).1.symm
  | cons d segment ih =>
      intro heq
      rw [List.replicate_succ, List.cons_append, List.cons_append, List.cons.injEq] at heq
      obtain ⟨rfl, hrest⟩ := heq
      have hpair : doubled ('\x22' :: segment) = '\x22' :: '\x22' :: doubled segment := rfl
      refine ih (n + 1) ?_
      rw [← hrest, hpair, List.replicate_succ', List.replicate_succ']
      simp only [List.append_assoc, List.cons_append, List.nil_append]

/-- Where the name itself stands before a character that is no quote, nothing else that
stands there before this character is read as the name. -/
theorem eq_of_append_eq_of_single? {argument name rest later : Text} {c : Char} (hc : c ≠ '\x22')
    (hsingle : single? reserved argument = some name)
    (hsame : argument ++ c :: rest = name ++ c :: later) : argument = name := by
  rcases single?_eq_some_iff.1 hsingle with ⟨-, rfl⟩ | ⟨-, hlowered, -⟩
  · refine absurd ?_ (replicate_append_doubled_ne hc name ('\x22' :: c :: rest) later 0)
    rw [← hsame]
    simp
  · have hlength : argument.length = name.length := by
      rw [← hlowered, lowered, List.length_map]
    exact (List.append_inj hsame hlength).1

end SqlBuilder.Identifier
