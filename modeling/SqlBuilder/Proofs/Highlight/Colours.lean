import SqlBuilder.Proofs.Highlight.Keywords
import SqlBuilder.Proofs.Text.Replacement

/-!
What a display shows of a coloured SQL text.  Without its control sequences it is the text
that is shown without colours, and what stands between two of them is a keyword or a
parenthesis.
-/

namespace SqlBuilder.Highlight

/-- What is left of a text without its control sequences, each of which goes from an escape
character to the next `m`. -/
def withoutControlsFrom : (inControl : Bool) → Text → Text
  | _, [] => []
  | true, c :: rest => withoutControlsFrom (c ≠ 'm') rest
  | false, c :: rest =>
      if c = '\x1b' then withoutControlsFrom true rest else c :: withoutControlsFrom false rest

def withoutControls (text : Text) : Text := withoutControlsFrom false text

/-- The code of a style, of digits and semicolons, that does not switch styles off. -/
structure IsColour (style : Text) : Prop where
  code : ∀ c ∈ style, c.isDigit = true ∨ c = ';'
  ne_reset : style ≠ "0"

/-- A display shows the word as one piece in a colour, between these two texts. -/
structure Shows (output style before word after : Text) : Prop where
  colour : IsColour style
  bare : '\x1b' ∉ word
  place : ∃ first last, output = first ++ (styled style word ++ last) ∧
    withoutControls first = before ∧ withoutControls last = after

theorem IsColour.m_notMem {style : Text} (hcolour : IsColour style) : 'm' ∉ style := by
  intro hm
  have hcode := hcolour.code 'm' hm
  exact absurd hcode (by decide)

theorem isColour_of_keyword : IsColour "1;34" := ⟨by simp, by decide⟩

theorem isColour_of_parenthesis : IsColour "36" := ⟨by simp, by decide⟩

/-- The first `m` ends the code of the style, and the next escape character the text. -/
theorem styled_append (style text rest : Text) :
    styled style text ++ rest =
      '\x1b' :: '[' :: (style ++ 'm' :: (text ++ '\x1b' :: ("[0m" ++ rest))) := by
  simp [styled, control]

theorem withoutControls_append {text : Text} (hbare : '\x1b' ∉ text) (rest : Text) :
    withoutControls (text ++ rest) = text ++ withoutControls rest := by
  induction text with
  | nil => rfl
  | cons c text ih =>
      rw [List.mem_cons, not_or] at hbare
      obtain ⟨hc, htext⟩ := hbare
      have hrest := ih htext
      rw [withoutControls] at hrest ⊢
      rw [List.cons_append, withoutControlsFrom, if_neg (Ne.symm hc), hrest]
      rfl

theorem withoutControlsFrom_true {style : Text} (hstyle : 'm' ∉ style) (rest : Text) :
    withoutControlsFrom true (style ++ 'm' :: rest) = withoutControls rest := by
  induction style with
  | nil => rfl
  | cons c style ih =>
      rw [List.mem_cons, not_or] at hstyle
      obtain ⟨hc, hstyle⟩ := hstyle
      rw [List.cons_append, withoutControlsFrom, decide_eq_true (Ne.symm hc), ih hstyle]

/-- Without its control sequences a styled text is the text again. -/
theorem withoutControls_styled {style text : Text} (hstyle : 'm' ∉ style)
    (hbare : '\x1b' ∉ text) (rest : Text) :
    withoutControls (styled style text ++ rest) = text ++ withoutControls rest := by
  have hreset := @withoutControlsFrom_true "[0" (by decide) rest
  have hopen := @withoutControlsFrom_true ('[' :: style) (by simpa using hstyle)
    (text ++ '\x1b' :: ("[0m" ++ rest))
  rw [withoutControls_append hbare] at hopen
  rw [styled_append, withoutControls, withoutControlsFrom, if_pos rfl]
  rw [List.cons_append] at hopen
  rw [hopen, withoutControls, withoutControlsFrom, if_pos rfl]
  exact congrArg (text ++ ·) hreset

/-- A text without colours stands in a coloured one as it is, and each of its coloured
pieces between two control sequences. -/
theorem withoutControls_flatMap_coloured {cut : List Piece}
    (hbare : '\x1b' ∉ cut.flatMap Piece.source) :
    withoutControls (cut.flatMap Piece.coloured) = cut.flatMap Piece.source := by
  induction cut with
  | nil => rfl
  | cons piece cut ih =>
      rw [List.flatMap_cons, List.mem_append, not_or] at hbare
      rw [List.flatMap_cons, List.flatMap_cons, ← ih hbare.2]
      cases piece with
      | plain c => exact withoutControls_append hbare.1 _
      | keyword word => exact withoutControls_styled isColour_of_keyword.m_notMem hbare.1 _
      | parenthesis c => exact withoutControls_styled isColour_of_parenthesis.m_notMem hbare.1 _

/-- The control sequences around a styled text tell its style and where it ends. -/
theorem styled_append_inj {style other word text rest last : Text} (hstyle : 'm' ∉ style)
    (hother : 'm' ∉ other) (hword : '\x1b' ∉ word) (htext : '\x1b' ∉ text)
    (hsame : styled style word ++ rest = styled other text ++ last) :
    style = other ∧ word = text ∧ rest = last := by
  rw [styled_append, styled_append] at hsame
  have hcodes := (List.cons.inj (List.cons.inj hsame).2).2
  obtain ⟨rfl, htexts⟩ := Text.append_cons_inj_of_notMem hstyle hother hcodes
  obtain ⟨rfl, hrest⟩ := Text.append_cons_inj_of_notMem hword htext htexts
  exact ⟨rfl, rfl, List.append_cancel_left hrest⟩

/-- A styled text begins with another one, or after it. -/
theorem styled_append_split {style other word text first rest last : Text}
    (hstyle : IsColour style) (hother : IsColour other) (hword : '\x1b' ∉ word)
    (htext : '\x1b' ∉ text)
    (hsame : styled style word ++ rest = first ++ (styled other text ++ last)) :
    (first = [] ∧ style = other ∧ word = text ∧ rest = last) ∨
      ∃ later, first = styled style word ++ later ∧
        rest = later ++ (styled other text ++ last) := by
  cases first with
  | nil => exact .inl ⟨rfl, styled_append_inj hstyle.m_notMem hother.m_notMem hword htext hsame⟩
  | cons d first =>
      right
      have hinner : '\x1b' ∉ '[' :: (style ++ 'm' :: word) := by
        intro hescape
        simp only [List.mem_cons, List.mem_append, hword, or_false] at hescape
        rcases hescape with h | hcode | h
        · exact absurd h (by decide)
        · exact absurd (hstyle.code _ hcode) (by decide)
        · exact absurd h (by decide)
      rw [styled_append, styled_append, List.cons_append] at hsame
      obtain ⟨rfl, hbody⟩ := List.cons.inj hsame
      have hlonger : '[' :: (style ++ 'm' :: word) ++ '\x1b' :: ("[0m" ++ rest) =
          first ++ '\x1b' :: '[' :: (other ++ 'm' :: (text ++ '\x1b' :: ("[0m" ++ last))) := by
        rw [← hbody]
        simp
      obtain ⟨later, rfl, hlater⟩ := Text.exists_append_of_notMem hinner hlonger
      cases later with
      | nil =>
          -- what begins there is the control sequence that ends the style
          have hreset := (List.cons.inj (List.cons.inj hlater).2).2
          have hzero : ['0'] = other ∧ _ :=
            Text.append_cons_inj_of_notMem (by decide) hother.m_notMem hreset
          exact absurd hzero.1.symm hother.ne_reset
      | cons e later =>
          rw [List.cons_append] at hlater
          obtain ⟨rfl, hend⟩ := List.cons.inj hlater
          obtain ⟨after, rfl, rfl⟩ := Text.exists_append_of_notMem (by decide) hend
          refine ⟨after, ?_, ?_⟩
          · rw [styled_append]
            simp
          · rw [styled_append]

/-- What is shown in a colour is a keyword or a parenthesis, each in a colour of its own. -/
theorem coloured_eq_styled_iff {piece : Piece} {style word : Text} (hcolour : IsColour style)
    (hword : '\x1b' ∉ word) (hpiece : '\x1b' ∉ piece.source) :
    piece.coloured = styled style word ↔
      piece = .keyword word ∧ style = "1;34" ∨
        ∃ c, piece = .parenthesis c ∧ style = "36" ∧ word = [c] := by
  have hinj : ∀ {other text : Text}, IsColour other → '\x1b' ∉ text →
      styled other text = styled style word → other = style ∧ text = word := by
    intro other text hother htext hsame
    have hends : styled other text ++ [] = styled style word ++ [] := by rw [hsame]
    have hall := styled_append_inj hother.m_notMem hcolour.m_notMem htext hword hends
    exact ⟨hall.1, hall.2.1⟩
  constructor
  · intro hsame
    cases piece with
    | plain c =>
        have hlength := congrArg List.length hsame
        simp [Piece.coloured, styled, control] at hlength
    | keyword text =>
        obtain ⟨rfl, rfl⟩ := hinj isColour_of_keyword hpiece hsame
        exact .inl ⟨rfl, rfl⟩
    | parenthesis c =>
        obtain ⟨rfl, rfl⟩ := hinj isColour_of_parenthesis hpiece hsame
        exact .inr ⟨c, rfl, rfl, rfl⟩
  · rintro (⟨rfl, rfl⟩ | ⟨c, rfl, rfl, rfl⟩) <;> rfl

/-- One of the pieces is shown as this text, between these two. -/
def HasShown (cut : List Piece) (first shown last : Text) : Prop :=
  ∃ before piece after, cut = before ++ piece :: after ∧ piece.coloured = shown ∧
    first = before.flatMap Piece.coloured ∧ last = after.flatMap Piece.coloured

theorem HasShown.cons {cut : List Piece} {first shown last : Text}
    (hshown : HasShown cut first shown last) (piece : Piece) :
    HasShown (piece :: cut) (piece.coloured ++ first) shown last := by
  obtain ⟨before, part, after, rfl, hpart, rfl, rfl⟩ := hshown
  exact ⟨piece :: before, part, after, rfl, hpart, rfl, rfl⟩

/-- A text that is shown in a colour is a piece. -/
theorem hasShown_of_styled {cut : List Piece} (hbare : '\x1b' ∉ cut.flatMap Piece.source)
    {style word : Text} (hcolour : IsColour style) (hword : '\x1b' ∉ word) {first last : Text}
    (hsame : cut.flatMap Piece.coloured = first ++ (styled style word ++ last)) :
    HasShown cut first (styled style word) last := by
  induction cut generalizing first with
  | nil =>
      rw [styled_append] at hsame
      simp at hsame
  | cons piece cut ih =>
      rw [List.flatMap_cons, List.mem_append, not_or] at hbare
      obtain ⟨hpiece, hcut⟩ := hbare
      rw [List.flatMap_cons] at hsame
      have hstyled : ∀ {other : Text}, IsColour other →
          piece.coloured = styled other piece.source →
          HasShown (piece :: cut) first (styled style word) last := by
        intro other hother hcoloured
        rw [hcoloured] at hsame
        rcases styled_append_split hother hcolour hpiece hword hsame with
          ⟨rfl, rfl, rfl, rfl⟩ | ⟨later, rfl, hrest⟩
        · exact ⟨[], piece, cut, rfl, hcoloured, rfl, rfl⟩
        · rw [← hcoloured]
          exact (ih hcut hrest).cons piece
      cases piece with
      | plain c =>
          cases first with
          | nil =>
              rw [List.nil_append, styled_append] at hsame
              obtain ⟨rfl, -⟩ := List.cons.inj hsame
              simp [Piece.source] at hpiece
          | cons d first =>
              rw [List.cons_append] at hsame
              obtain ⟨rfl, hrest⟩ := List.cons.inj hsame
              exact (ih hcut hrest).cons (.plain c)
      | keyword text => exact hstyled isColour_of_keyword rfl
      | parenthesis c => exact hstyled isColour_of_parenthesis rfl

theorem escape_notMem_of_standsIn {sql before after : Text} {piece : Piece} (hbare : '\x1b' ∉ sql)
    (hin : StandsIn sql before piece after) :
    '\x1b' ∉ before ∧ '\x1b' ∉ piece.source ∧ '\x1b' ∉ after := by
  rw [standsIn_append hin] at hbare
  simpa using hbare

/-- What a display shows in a colour are pieces. -/
theorem shows_iff_exists_piece {sql style before word after : Text} (hbare : '\x1b' ∉ sql)
    (hcolour : IsColour style) (hword : '\x1b' ∉ word) :
    Shows ((pieces sql).flatMap Piece.coloured) style before word after ↔
      ∃ piece, piece.coloured = styled style word ∧ StandsIn sql before piece after := by
  constructor
  · rintro ⟨-, -, first, last, hsame, rfl, rfl⟩
    have hsource : '\x1b' ∉ (pieces sql).flatMap Piece.source := by
      rwa [flatMap_source_pieces]
    obtain ⟨earlier, piece, later, hsplit, hpiece, rfl, rfl⟩ :=
      hasShown_of_styled hsource hcolour hword hsame
    have hin : StandsIn sql _ piece _ := ⟨earlier, later, hsplit, rfl, rfl⟩
    obtain ⟨hearlier, -, hlater⟩ := escape_notMem_of_standsIn hbare hin
    rw [withoutControls_flatMap_coloured hearlier, withoutControls_flatMap_coloured hlater]
    exact ⟨piece, hpiece, hin⟩
  · rintro ⟨piece, hpiece, hin⟩
    obtain ⟨hbefore, -, hafter⟩ := escape_notMem_of_standsIn hbare hin
    obtain ⟨first, last, hsplit, rfl, rfl⟩ := hin
    refine ⟨hcolour, hword, _, _, ?_, withoutControls_flatMap_coloured hbefore,
      withoutControls_flatMap_coloured hafter⟩
    rw [hsplit, List.flatMap_append, List.flatMap_cons, hpiece]

/-- The pieces that a display shows in a colour are keywords and parentheses. -/
theorem shows_iff {sql style before word after : Text} (hbare : '\x1b' ∉ sql) :
    Shows ((pieces sql).flatMap Piece.coloured) style before word after ↔
      style = "1;34" ∧ StandsIn sql before (.keyword word) after ∨
        style = "36" ∧ ∃ c, word = [c] ∧ StandsIn sql before (.parenthesis c) after := by
  constructor
  · intro hshows
    obtain ⟨piece, hpiece, hin⟩ :=
      (shows_iff_exists_piece hbare hshows.colour hshows.bare).1 hshows
    have hsource := (escape_notMem_of_standsIn hbare hin).2.1
    rcases (coloured_eq_styled_iff hshows.colour hshows.bare hsource).1 hpiece with
      ⟨rfl, rfl⟩ | ⟨c, rfl, rfl, rfl⟩
    · exact .inl ⟨rfl, hin⟩
    · exact .inr ⟨rfl, c, rfl, hin⟩
  · rintro (⟨rfl, hin⟩ | ⟨rfl, c, rfl, hin⟩)
    · have hword := (escape_notMem_of_standsIn hbare hin).2.1
      exact (shows_iff_exists_piece hbare isColour_of_keyword hword).2 ⟨_, rfl, hin⟩
    · have hword := (escape_notMem_of_standsIn hbare hin).2.1
      exact (shows_iff_exists_piece hbare isColour_of_parenthesis hword).2 ⟨_, rfl, hin⟩

theorem escape_notMem_plain {sql : Text} (hbare : '\x1b' ∉ sql) : '\x1b' ∉ plain sql := by
  intro hescape
  rcases (Text.replaced_replaceAll (by decide) _ sql).mem hescape with h | h
  · exact hbare h
  · exact absurd h (by decide)

/-- Highlighting only decorates, and decorates all of it.  A coloured text without its
control sequences is the text without colours, which has a single quote for every plain
dollar tag met from left to right.  In colour stand exactly the keywords between word
boundaries that are no part of longer ones, the other ones as a part of those, and the
parentheses. -/
theorem highlight_colours_exactly_keywords_and_parentheses {sql : Text} (hbare : '\x1b' ∉ sql) :
    let shown := highlight false sql
    let coloured := highlight true sql
    withoutControls coloured = shown ∧
      Text.Replaced "$Q$" "\x27" sql shown ∧
      (∀ style before word after, Shows coloured style before word after ↔
        shown = before ++ (word ++ after) ∧
          (style = "1;34" ∧ StandsWhole before word after ∨
            style = "36" ∧ (word = "(" ∨ word = ")"))) ∧
      ∀ before word after, shown = before ++ (word ++ after) → StandsAlone before word after →
        ∃ earlier lead tail later, before = earlier ++ lead ∧ after = tail ++ later ∧
          Shows coloured "1;34" earlier (lead ++ (word ++ tail)) later := by
  intro shown coloured
  have hshown : '\x1b' ∉ shown := escape_notMem_plain hbare
  have hsource := flatMap_source_pieces shown
  refine ⟨?_, Text.replaced_replaceAll (by decide) _ sql, ?_, ?_⟩
  · have hcut : '\x1b' ∉ (pieces shown).flatMap Piece.source := by rwa [hsource]
    exact (withoutControls_flatMap_coloured hcut).trans hsource
  · intro style before word after
    refine (shows_iff hshown).trans ?_
    rw [standsIn_keyword_iff]
    simp only [standsIn_parenthesis_iff]
    constructor
    · rintro (⟨rfl, hsql, hwhole⟩ | ⟨rfl, c, rfl, hsql, rfl | rfl⟩)
      · exact ⟨hsql, .inl ⟨rfl, hwhole⟩⟩
      · exact ⟨hsql, .inr ⟨rfl, .inl rfl⟩⟩
      · exact ⟨hsql, .inr ⟨rfl, .inr rfl⟩⟩
    · rintro ⟨hsql, ⟨rfl, hwhole⟩ | ⟨rfl, rfl | rfl⟩⟩
      · exact .inl ⟨rfl, hsql, hwhole⟩
      · exact .inr ⟨rfl, '(', rfl, hsql, .inl rfl⟩
      · exact .inr ⟨rfl, ')', rfl, hsql, .inr rfl⟩
  · intro before word after hsql halone
    obtain ⟨earlier, lead, tail, later, hbefore, hafter, hin⟩ :=
      exists_standsIn_of_standsAlone hsql halone
    exact ⟨earlier, lead, tail, later, hbefore, hafter, (shows_iff hshown).2 (.inl ⟨rfl, hin⟩)⟩

/-- The quotes that take the place of dollar tags are no word characters, and the second
word of a keyword is no piece of its own. -/
theorem keyword_between_tags_is_coloured :
    let sql : Text := "DELETE FROM $Q$SET$Q$"
    let coloured := highlight true sql
    '\x1b' ∉ sql ∧ StandsWhole "DELETE FROM \x27" "SET" "\x27" ∧
      ¬ Shows coloured "1;34" "DELETE " "FROM" " \x27SET\x27" := by
  intro sql coloured
  have hbare : '\x1b' ∉ sql := by decide
  obtain ⟨-, -, hshows, -⟩ := highlight_colours_exactly_keywords_and_parentheses hbare
  have hset : Shows coloured "1;34" "DELETE FROM \x27" "SET" "\x27" :=
    ⟨isColour_of_keyword, by decide, styled "1;34" "DELETE FROM" ++ " \x27", "\x27",
      by decide +kernel, by decide +kernel, by decide⟩
  refine ⟨hbare, ?_, fun hfrom => ?_⟩
  · rcases (hshows _ _ _ _).1 hset with ⟨-, ⟨-, hwhole⟩ | ⟨hstyle, -⟩⟩
    · exact hwhole
    · exact absurd hstyle (by decide)
  · rcases (hshows _ _ _ _).1 hfrom with ⟨-, ⟨-, hwhole⟩ | ⟨hstyle, -⟩⟩
    · have halone : StandsAlone [] "DELETE FROM" " \x27SET\x27" :=
        standsAlone_iff.2 ⟨by decide, by decide, by decide⟩
      have hnil := hwhole.whole [] "DELETE " [] " \x27SET\x27" rfl rfl halone
      exact absurd hnil.1 (by decide)
    · exact absurd hstyle (by decide)

end SqlBuilder.Highlight
