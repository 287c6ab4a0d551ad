import SqlBuilder.Highlight
import SqlBuilder.Proofs.Text.Search

/-!
Which pieces an SQL text is cut into.  The pieces that are keywords are the keywords that
stand between word boundaries, of which one can be part of a longer one, and every
parenthesis is a piece.
-/

namespace SqlBuilder

theorem Text.endsWithWord_of_append {first second : Text}
    (hend : endsWithWord (first ++ second) = false) : endsWithWord second = false := by
  by_cases hsecond : second = []
  · rw [hsecond]
    rfl
  · rwa [endsWithWord_append hsecond] at hend

namespace Highlight

/-- A keyword of the list between two word boundaries. -/
structure StandsAlone (before word after : Text) : Prop where
  keyword : word ∈ keywords
  start : Text.IsWordBoundary before (word ++ after)
  finish : Text.IsWordBoundary (before ++ word) after

/-- A keyword that stands alone and is no part of a longer one that does. -/
structure StandsWhole (before word after : Text) : Prop where
  alone : StandsAlone before word after
  whole : ∀ earlier lead tail later, before = earlier ++ lead → after = tail ++ later →
    StandsAlone earlier (lead ++ (word ++ tail)) later → lead = [] ∧ tail = []

/-- The piece is the one between these two texts. -/
def StandsIn (sql before : Text) (piece : Piece) (after : Text) : Prop :=
  ∃ first last, pieces sql = first ++ piece :: last ∧
    first.flatMap Piece.source = before ∧ last.flatMap Piece.source = after

theorem word_ends_of_mem_keywords :
    ∀ word ∈ keywords, Text.startsWithWord word = true ∧ Text.endsWithWord word = true := by
  decide

theorem no_parenthesis_of_mem_keywords : ∀ word ∈ keywords, '(' ∉ word ∧ ')' ∉ word := by
  decide

/-- Behind a word boundary in a keyword no other keyword begins that is longer than the
rest of it. -/
theorem isPrefix_drop_of_mem_keywords :
    ∀ long ∈ keywords, ∀ word ∈ keywords, ∀ n < long.length,
      Text.endsWithWord (long.take n) = false → long.drop n <+: word → word <+: long.drop n := by
  decide +kernel

theorem isPrefix_of_mem_keywords {lead rest word : Text} (hlong : lead ++ rest ∈ keywords)
    (hword : word ∈ keywords) (hrest : rest ≠ []) (hlead : Text.endsWithWord lead = false)
    (hle : rest <+: word) : word <+: rest := by
  have hlt : lead.length < (lead ++ rest).length := by
    rw [List.length_append]
    exact Nat.lt_add_of_pos_right (List.length_pos_iff.2 hrest)
  have hall := isPrefix_drop_of_mem_keywords _ hlong word hword lead.length hlt
  rw [List.take_left, List.drop_left] at hall
  exact hall hlead hle

section

variable {before word after : Text} (hword : word ∈ keywords)
include hword

theorem isWordBoundary_start_iff :
    Text.IsWordBoundary before (word ++ after) ↔ Text.endsWithWord before = false := by
  rw [Text.IsWordBoundary, Text.startsWithWord_append (ne_nil_of_mem_keywords hword),
    (word_ends_of_mem_keywords word hword).1]
  exact Bool.eq_false_iff.symm

theorem isWordBoundary_finish_iff :
    Text.IsWordBoundary (before ++ word) after ↔ Text.startsWithWord after = false := by
  rw [Text.IsWordBoundary, Text.endsWithWord_append (ne_nil_of_mem_keywords hword),
    (word_ends_of_mem_keywords word hword).2, ne_comm]
  exact Bool.eq_false_iff.symm

end

/-- Keywords begin and end with word characters, so that no other ones may stand beside a
keyword that stands alone. -/
theorem standsAlone_iff {before word after : Text} :
    StandsAlone before word after ↔ word ∈ keywords ∧ Text.endsWithWord before = false ∧
      Text.startsWithWord after = false := by
  constructor
  · rintro ⟨hword, hstart, hfinish⟩
    exact ⟨hword, (isWordBoundary_start_iff hword).1 hstart,
      (isWordBoundary_finish_iff hword).1 hfinish⟩
  · rintro ⟨hword, hbefore, hafter⟩
    exact ⟨hword, (isWordBoundary_start_iff hword).2 hbefore,
      (isWordBoundary_finish_iff hword).2 hafter⟩

/-- The piece of a character that begins no keyword. -/
def pieceOf (c : Char) : Piece := if c = '(' ∨ c = ')' then .parenthesis c else .plain c

theorem source_pieceOf (c : Char) : (pieceOf c).source = [c] := by
  rw [pieceOf]
  split <;> rfl

theorem keyword_ne_pieceOf {word : Text} {c : Char} : Piece.keyword word ≠ pieceOf c := by
  rw [pieceOf]
  split <;> exact Piece.noConfusion

/-- The pieces of a text that stands behind another one: a keyword where one stands alone,
and otherwise the piece of a character. -/
inductive IsCut : (before text : Text) → List Piece → Prop
  | nil {before : Text} : IsCut before [] []
  | keyword {before word rest : Text} {cut : List Piece} (halone : StandsAlone before word rest)
      (hrest : IsCut (before ++ word) rest cut) :
      IsCut before (word ++ rest) (.keyword word :: cut)
  | character {before rest : Text} {c : Char} {cut : List Piece}
      (hnone : ∀ word after, c :: rest = word ++ after → ¬ StandsAlone before word after)
      (hrest : IsCut (before ++ [c]) rest cut) : IsCut before (c :: rest) (pieceOf c :: cut)

/-- A keyword that is found behind a word boundary stands alone there. -/
theorem standsAlone_of_keywordAt? {before text word : Text}
    (hbefore : Text.endsWithWord before = false) (hfound : keywordAt? text = some word) :
    StandsAlone before word (text.drop word.length) := by
  have hword := List.mem_of_find?_eq_some hfound
  have hholds := List.find?_some hfound
  rw [Bool.and_eq_true, Bool.not_eq_true'] at hholds
  exact standsAlone_iff.2 ⟨hword, hbefore, hholds.2⟩

theorem not_standsAlone_of_keywordAt? {before word after : Text}
    (hnone : keywordAt? (word ++ after) = none) : ¬ StandsAlone before word after := by
  intro halone
  obtain ⟨hword, -, hafter⟩ := standsAlone_iff.1 halone
  have hfails := List.find?_eq_none.1 hnone word hword
  rw [List.drop_left, hafter] at hfails
  exact hfails (by simp)

theorem isCut_piecesFrom (before : Text) (skip : Nat) (text : Text) :
    IsCut (before ++ text.take skip) (text.drop skip)
      (piecesFrom (Text.endsWithWord before) skip text) := by
  induction text generalizing before skip with
  | nil =>
      rw [List.drop_nil, piecesFrom]
      exact .nil
  | cons c rest ih =>
      cases skip with
      | succ skip =>
          have hrest := ih (before ++ [c]) skip
          rw [Text.endsWithWord_concat, List.append_assoc] at hrest
          exact hrest
      | zero =>
          rw [piecesFrom, List.take_zero, List.append_nil, List.drop_zero]
          have hone := ih (before ++ [c])
          rw [Text.endsWithWord_concat] at hone
          split
          · next word hfound =>
              cases hbefore : Text.endsWithWord before with
              | true => simp [hbefore] at hfound
              | false =>
                  rw [hbefore] at hfound
                  have halone := standsAlone_of_keywordAt? hbefore hfound
                  obtain ⟨hne, hwhole⟩ := append_drop_of_keywordAt? hfound
                  obtain ⟨d, others, rfl⟩ := List.exists_cons_of_ne_nil hne
                  generalize (c :: rest).drop (d :: others).length = after at halone hwhole
                  rw [List.cons_append] at hwhole
                  obtain ⟨rfl, rfl⟩ := List.cons.inj hwhole
                  have hrest := hone others.length
                  rw [List.take_left, List.drop_left, List.append_assoc] at hrest
                  exact .keyword halone hrest
          · next hnone =>
              have hrest := hone 0
              rw [List.take_zero, List.append_nil, List.drop_zero] at hrest
              refine .character (fun word after hsplit halone => ?_) hrest
              have hbefore := (standsAlone_iff.1 halone).2.1
              rw [hbefore, hsplit] at hnone
              exact not_standsAlone_of_keywordAt? hnone halone

theorem isCut_pieces (sql : Text) : IsCut [] sql (pieces sql) :=
  isCut_piecesFrom [] 0 sql

section

variable {context text : Text} {cut : List Piece}

theorem IsCut.flatMap_source (hcut : IsCut context text cut) :
    cut.flatMap Piece.source = text := by
  induction hcut with
  | nil => rfl
  | keyword _ _ ih => rw [List.flatMap_cons, ih, Piece.source]
  | character _ _ ih => rw [List.flatMap_cons, ih, source_pieceOf, List.singleton_append]

/-- A piece that is a keyword stands alone. -/
theorem IsCut.standsAlone (hcut : IsCut context text cut) {first last : List Piece} {word : Text}
    (hsplit : cut = first ++ .keyword word :: last) :
    StandsAlone (context ++ first.flatMap Piece.source) word (last.flatMap Piece.source) := by
  induction hcut generalizing first with
  | nil => simp at hsplit
  | keyword halone hrest ih =>
      cases first with
      | nil =>
          obtain ⟨hword, rfl⟩ := List.cons.inj hsplit
          obtain rfl := Piece.keyword.inj hword
          simpa [hrest.flatMap_source] using halone
      | cons piece first =>
          obtain ⟨rfl, rfl⟩ := List.cons.inj hsplit
          simpa [Piece.source] using ih rfl
  | character _ _ ih =>
      cases first with
      | nil => exact absurd (List.cons.inj hsplit).1.symm keyword_ne_pieceOf
      | cons piece first =>
          obtain ⟨rfl, rfl⟩ := List.cons.inj hsplit
          simpa [source_pieceOf] using ih rfl

/-- A keyword that stands alone is a piece or part of a piece that is a keyword. -/
theorem IsCut.exists_keyword (hcut : IsCut context text cut) {middle word after : Text}
    (hsplit : text = middle ++ (word ++ after))
    (halone : StandsAlone (context ++ middle) word after) :
    ∃ first last lead tail, cut = first ++ .keyword (lead ++ (word ++ tail)) :: last ∧
      middle = first.flatMap Piece.source ++ lead ∧
      after = tail ++ last.flatMap Piece.source := by
  have hword := halone.keyword
  have hne := ne_nil_of_mem_keywords hword
  induction hcut generalizing middle with
  | nil => simp [hne] at hsplit
  | @keyword context long rest cut hlong hrest ih =>
      rcases Text.exists_append_or_of_append_eq hsplit with
        ⟨later, rfl, hlater⟩ | ⟨part, hpart, rfl, hlater⟩
      · rw [← List.append_assoc] at halone
        obtain ⟨first, last, lead, tail, rfl, rfl, hafter⟩ := ih hlater halone
        exact ⟨.keyword long :: first, last, lead, tail, rfl,
          by simp [Piece.source], hafter⟩
      · -- the two words overlap, and the keyword that is found covers the other one
        have hlead := Text.endsWithWord_of_append (standsAlone_iff.1 halone).2.1
        have hcovered : word <+: part := by
          rcases List.prefix_or_prefix_of_prefix ⟨after, rfl⟩ ⟨rest, hlater.symm⟩ with h | h
          · exact h
          · exact isPrefix_of_mem_keywords hlong.keyword hword hpart hlead h
        obtain ⟨tail, rfl⟩ := hcovered
        rw [List.append_assoc] at hlater
        refine ⟨[], cut, middle, tail, rfl, rfl, ?_⟩
        rw [hrest.flatMap_source, List.append_cancel_left hlater]
  | @character context rest c cut hnone hrest ih =>
      cases middle with
      | nil =>
          rw [List.append_nil] at halone
          exact absurd halone (hnone word after hsplit)
      | cons d middle =>
          obtain ⟨rfl, hlater⟩ := List.cons.inj hsplit
          rw [List.append_cons] at halone
          obtain ⟨first, last, lead, tail, rfl, rfl, hafter⟩ := ih hlater halone
          exact ⟨pieceOf c :: first, last, lead, tail, rfl,
            by simp [source_pieceOf], hafter⟩

end

theorem standsIn_append {sql before after : Text} {piece : Piece}
    (hin : StandsIn sql before piece after) : sql = before ++ (piece.source ++ after) := by
  obtain ⟨first, last, hsplit, rfl, rfl⟩ := hin
  rw [← flatMap_source_pieces sql, hsplit, List.flatMap_append, List.flatMap_cons]

theorem standsAlone_of_standsIn {sql before word after : Text}
    (hin : StandsIn sql before (.keyword word) after) : StandsAlone before word after := by
  obtain ⟨first, last, hsplit, rfl, rfl⟩ := hin
  exact (isCut_pieces sql).standsAlone hsplit

/-- Every keyword that stands alone is covered by a piece. -/
theorem exists_standsIn_of_standsAlone {sql before word after : Text}
    (hsql : sql = before ++ (word ++ after)) (halone : StandsAlone before word after) :
    ∃ earlier lead tail later, before = earlier ++ lead ∧ after = tail ++ later ∧
      StandsIn sql earlier (.keyword (lead ++ (word ++ tail))) later := by
  obtain ⟨first, last, lead, tail, hsplit, hbefore, hafter⟩ :=
    (isCut_pieces sql).exists_keyword hsql halone
  exact ⟨_, lead, tail, _, hbefore, hafter, first, last, hsplit, rfl, rfl⟩

/-- A piece is not covered by another one. -/
theorem eq_nil_of_standsIn {sql earlier lead word tail later : Text} (hne : word ≠ [])
    (hpart : StandsIn sql (earlier ++ lead) (.keyword word) (tail ++ later))
    (hlong : StandsIn sql earlier (.keyword (lead ++ (word ++ tail))) later) :
    lead = [] ∧ tail = [] := by
  obtain ⟨first, last, hsplit, hbefore, hafter⟩ := hpart
  obtain ⟨others, remaining, hother, rfl, rfl⟩ := hlong
  have hpositive := List.length_pos_iff.2 hne
  have hsame : Piece.keyword word = .keyword (lead ++ (word ++ tail)) → lead = [] ∧ tail = [] := by
    intro hword
    have hlength := congrArg List.length (Piece.keyword.inj hword)
    rw [List.length_append, List.length_append] at hlength
    exact ⟨List.length_eq_zero_iff.1 (by omega), List.length_eq_zero_iff.1 (by omega)⟩
  rw [hsplit] at hother
  rcases List.append_eq_append_iff.1 hother with ⟨middle, rfl, hmiddle⟩ | ⟨middle, rfl, hmiddle⟩
  · cases middle with
    | nil => exact hsame (List.cons.inj hmiddle).1
    | cons piece middle =>
        obtain ⟨rfl, -⟩ := List.cons.inj hmiddle
        have hlength := congrArg List.length hbefore
        simp only [List.flatMap_append, List.flatMap_cons, Piece.source, List.length_append]
          at hlength
        omega
  · cases middle with
    | nil => exact hsame (List.cons.inj hmiddle).1.symm
    | cons piece middle =>
        rw [List.cons_append] at hmiddle
        obtain ⟨-, rfl⟩ := List.cons.inj hmiddle
        have hlength := congrArg List.length hafter
        simp only [List.flatMap_append, List.flatMap_cons, Piece.source, List.length_append]
          at hlength
        omega

/-- The keywords among the pieces are the ones that stand alone and are no part of
longer ones. -/
theorem standsIn_keyword_iff {sql before word after : Text} :
    StandsIn sql before (.keyword word) after ↔
      sql = before ++ (word ++ after) ∧ StandsWhole before word after := by
  constructor
  · intro hin
    have halone := standsAlone_of_standsIn hin
    refine ⟨standsIn_append hin, halone, ?_⟩
    rintro earlier lead tail later rfl rfl hlonger
    -- the longer keyword is covered by a piece, which covers this piece as well
    have hsql : sql = earlier ++ (lead ++ (word ++ tail) ++ later) := by
      rw [standsIn_append hin]
      simp [Piece.source]
    obtain ⟨earliest, start, final, latest, rfl, rfl, hcover⟩ :=
      exists_standsIn_of_standsAlone hsql hlonger
    have hpart : StandsIn sql (earliest ++ (start ++ lead)) (.keyword word)
        ((tail ++ final) ++ latest) := by simpa using hin
    have hlong : StandsIn sql earliest
        (.keyword ((start ++ lead) ++ (word ++ (tail ++ final)))) latest := by simpa using hcover
    have hnil := eq_nil_of_standsIn (ne_nil_of_mem_keywords halone.keyword) hpart hlong
    exact ⟨(List.append_eq_nil_iff.1 hnil.1).2, (List.append_eq_nil_iff.1 hnil.2).1⟩
  · rintro ⟨hsql, halone, hwhole⟩
    obtain ⟨earlier, lead, tail, later, hbefore, hafter, hin⟩ :=
      exists_standsIn_of_standsAlone hsql halone
    obtain ⟨rfl, rfl⟩ :=
      hwhole earlier lead tail later hbefore hafter (standsAlone_of_standsIn hin)
    rw [List.append_nil] at hbefore
    subst hbefore hafter
    simpa using hin

theorem IsCut.isParenthesis {context text : Text} {cut : List Piece}
    (hcut : IsCut context text cut) {c : Char} (hmem : .parenthesis c ∈ cut) :
    c = '(' ∨ c = ')' := by
  induction hcut with
  | nil => cases hmem
  | keyword _ _ ih => exact ih (List.mem_of_ne_of_mem Piece.noConfusion hmem)
  | character _ _ ih =>
      rcases List.mem_cons.1 hmem with hhere | hlater
      · rw [pieceOf] at hhere
        split at hhere
        · next hparenthesis => rwa [Piece.parenthesis.inj hhere]
        · cases hhere
      · exact ih hlater

/-- No keyword holds a parenthesis, so that every one is a piece. -/
theorem IsCut.exists_parenthesis {context text : Text} {cut : List Piece}
    (hcut : IsCut context text cut) {c : Char} (hc : c = '(' ∨ c = ')') {before after : Text}
    (hsplit : text = before ++ c :: after) :
    ∃ first last, cut = first ++ .parenthesis c :: last ∧
      first.flatMap Piece.source = before ∧ last.flatMap Piece.source = after := by
  induction hcut generalizing before with
  | nil => simp at hsplit
  | @keyword context word rest cut halone hrest ih =>
      obtain ⟨hopening, hclosing⟩ := no_parenthesis_of_mem_keywords word halone.keyword
      have houtside : c ∉ word := by
        rcases hc with rfl | rfl
        · exact hopening
        · exact hclosing
      obtain ⟨later, rfl, hlater⟩ := Text.exists_append_of_notMem houtside hsplit
      obtain ⟨first, last, rfl, rfl, hafter⟩ := ih hlater
      exact ⟨.keyword word :: first, last, rfl, rfl, hafter⟩
  | @character context rest d cut hnone hrest ih =>
      cases before with
      | nil =>
          obtain ⟨rfl, rfl⟩ := List.cons.inj hsplit
          refine ⟨[], cut, ?_, rfl, hrest.flatMap_source⟩
          rw [pieceOf, if_pos hc]
          rfl
      | cons e before =>
          obtain ⟨rfl, hlater⟩ := List.cons.inj hsplit
          obtain ⟨first, last, rfl, rfl, hafter⟩ := ih hlater
          refine ⟨pieceOf d :: first, last, rfl, ?_, hafter⟩
          rw [List.flatMap_cons, source_pieceOf]
          rfl

/-- The parentheses among the pieces are the ones of the text. -/
theorem standsIn_parenthesis_iff {sql before after : Text} {c : Char} :
    StandsIn sql before (.parenthesis c) after ↔
      sql = before ++ c :: after ∧ (c = '(' ∨ c = ')') := by
  constructor
  · intro hin
    have hsql := standsIn_append hin
    obtain ⟨first, last, hsplit, -, -⟩ := hin
    exact ⟨hsql, (isCut_pieces sql).isParenthesis (by rw [hsplit]; simp)⟩
  · rintro ⟨hsql, hc⟩
    exact (isCut_pieces sql).exists_parenthesis hc hsql

end Highlight

end SqlBuilder
