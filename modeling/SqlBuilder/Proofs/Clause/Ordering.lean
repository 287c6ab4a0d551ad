import SqlBuilder.Draft.Basic
import SqlBuilder.Proofs.Statement.Standing
import SqlBuilder.Proofs.Text.Case

/-!
Directions of an ordering.  A free text is a direction exactly if, without the white space
around it, it is one of six spellings up to simple case folding, and then its capitals are
this spelling.  So nothing of a free text but one of the six spellings reaches the SQL, and
every column keeps its place in the ordering and its own direction.
-/

namespace SqlBuilder

namespace Direction

def spellings : List Text :=
  ["ASC", "DESC", "ASC NULLS FIRST", "ASC NULLS LAST", "DESC NULLS FIRST", "DESC NULLS LAST"]

def letters : Text := "ACDEFILNRSTU "

theorem map_text_all : all.map text = spellings := rfl

theorem mem_spellings_iff {spelling : Text} :
    spelling ∈ spellings ↔ ∃ direction : Direction, direction.text = spelling := by
  rw [← map_text_all, List.mem_map]
  constructor
  · rintro ⟨direction, -, htext⟩
    exact ⟨direction, htext⟩
  · rintro ⟨direction, htext⟩
    exact ⟨direction, mem_all direction, htext⟩

theorem mem_letters_of_mem_text (direction : Direction) :
    ∀ letter ∈ direction.text, letter ∈ letters := by
  have hall : direction.text.all (· ∈ letters) = true := by
    rcases direction with ⟨_ | _, _ | _ | _⟩ <;> decide
  intro letter hletter
  exact of_decide_eq_true (List.all_eq_true.1 hall letter hletter)

theorem eq_of_caseless_text_eq :
    ∀ first ∈ all, ∀ second ∈ all,
      first.text.map caseless = second.text.map caseless → first = second := by
  decide

/-- No two directions have the same words, so each is read from its own words and from
no others. -/
theorem read?_eq_some_iff {text : Text} {direction : Direction} :
    read? text = some direction ↔
      (Text.trimmed text).map caseless = direction.text.map caseless := by
  have hfinds : ∀ found, read? text = some found →
      found.text.map caseless = (Text.trimmed text).map caseless := by
    intro found hread
    rw [read?] at hread
    have hfound := List.find?_some hread
    exact beq_iff_eq.1 hfound
  constructor
  · intro hread
    exact (hfinds direction hread).symm
  · intro hsame
    cases hread : read? text with
    | none =>
        rw [read?, List.find?_eq_none] at hread
        exact absurd (beq_iff_eq.2 hsame.symm) (hread direction (mem_all direction))
    | some found =>
        rw [eq_of_caseless_text_eq found (mem_all found) direction (mem_all direction)
          ((hfinds found hread).trans hsame)]

theorem caseless_ascii {c : Char} (hc : c.toNat < 0x80) : caseless c = c.toLower := by
  refine if_neg ?_
  rintro rfl
  exact absurd hc (by decide)

theorem caseless_not_ascii {c : Char} (hc : 0x80 ≤ c.toNat) :
    c = 'ſ' ∨ 0x80 ≤ (caseless c).toNat := by
  by_cases hlong : c = 'ſ'
  · exact .inl hlong
  · rw [caseless, if_neg hlong, Text.toLower_of_not_ascii hc]
    exact .inr hc

theorem letters_ascii : ∀ letter ∈ letters,
    letter.toNat < 0x80 ∧ letter.toLower.toNat < 0x80 ∧ letter.toLower ≠ 'k' := by
  have hall : letters.all (fun letter =>
      letter.toNat < 0x80 ∧ letter.toLower.toNat < 0x80 ∧ letter.toLower ≠ 'k') = true := by
    decide
  intro letter hletter
  exact of_decide_eq_true (List.all_eq_true.1 hall letter hletter)

/-- For the letters of the spellings the case is simple case folding. -/
theorem folded_eq_iff_caseless_eq {c letter : Char} (hletter : letter ∈ letters) :
    Text.folded c = Text.folded letter ↔ caseless c = caseless letter := by
  obtain ⟨hascii, hlower, hk⟩ := letters_ascii letter hletter
  rw [Text.folded_ascii hascii, caseless_ascii hascii]
  rcases Nat.lt_or_ge c.toNat 0x80 with hc | hc
  · rw [Text.folded_ascii hc, caseless_ascii hc]
  · rcases Text.folded_not_ascii hc with ⟨rfl, hfolded⟩ | ⟨rfl, hfolded⟩ | hfolded
    · rw [hfolded]
      rfl
    · rw [hfolded]
      refine iff_of_false (fun h => hk h.symm) fun h => ?_
      rw [← h] at hlower
      exact absurd hlower (by decide)
    · refine iff_of_false (fun h => ?_) fun h => ?_
      · rw [h] at hfolded
        omega
      · rcases caseless_not_ascii hc with rfl | hcaseless
        · exact absurd hfolded (by decide +kernel)
        · rw [h] at hcaseless
          omega

/-- Folding equates a text with a spelling exactly if they are the same without their case. -/
theorem sameFolded_iff {words spelling : Text} (hspelling : ∀ letter ∈ spelling, letter ∈ letters) :
    Text.sameFolded words spelling = true ↔ words.map caseless = spelling.map caseless := by
  rw [Text.sameFolded, beq_iff_eq]
  induction spelling generalizing words with
  | nil => simp
  | cons letter spelling ih =>
      rw [List.forall_mem_cons] at hspelling
      cases words with
      | nil => simp
      | cons c words =>
          simp only [List.map_cons, List.cons.injEq, ih hspelling.2,
            folded_eq_iff_caseless_eq hspelling.1]

/-- Whether every letter of the spellings that the character folds to is its capital. -/
def hasItsCapital (c : Char) : Bool :=
  letters.all fun letter => caseless c != caseless letter || Text.capitals c == [letter]

theorem hasItsCapital_ascii {c : Char} (hc : c.toNat < 0x80) : hasItsCapital c = true :=
  Text.forall_ascii (P := fun c => hasItsCapital c = true) (by decide +kernel) hc

/-- What folds to a letter of the spellings has this letter as its capital. -/
theorem capitals_of_caseless_eq {c letter : Char} (hletter : letter ∈ letters)
    (hsame : caseless c = caseless letter) : Text.capitals c = [letter] := by
  have hcapital : hasItsCapital c = true := by
    rcases Nat.lt_or_ge c.toNat 0x80 with hc | hc
    · exact hasItsCapital_ascii hc
    · rcases caseless_not_ascii hc with rfl | hcaseless
      · decide +kernel
      · obtain ⟨hascii, hlower, -⟩ := letters_ascii letter hletter
        rw [hsame, caseless_ascii hascii] at hcaseless
        omega
  have hone := List.all_eq_true.1 hcapital letter hletter
  rw [hsame, bne_self_eq_false, Bool.false_or] at hone
  exact beq_iff_eq.1 hone

/-- The capitals of a text that is a spelling in any case are the spelling. -/
theorem capitalized_eq {words spelling : Text} (hspelling : ∀ letter ∈ spelling, letter ∈ letters)
    (hsame : words.map caseless = spelling.map caseless) : Text.capitalized words = spelling := by
  induction spelling generalizing words with
  | nil =>
      rw [List.map_nil, List.map_eq_nil_iff] at hsame
      rw [hsame]
      rfl
  | cons letter spelling ih =>
      obtain ⟨c, words, rfl, hc, hwords⟩ := List.map_eq_cons_iff.1 hsame
      rw [List.forall_mem_cons] at hspelling
      rw [Text.capitalized, List.flatMap_cons, ← Text.capitalized, ih hspelling.2 hwords,
        capitals_of_caseless_eq hspelling.1 hc]
      rfl

/-- What of a free text reaches the SQL. -/
def admitted? (text : Text) : Option Text := (read? text).map Direction.text

/-- A spelling reaches the SQL exactly from the texts that fold to it once they are trimmed. -/
theorem admitted?_eq_some_iff {text spelling : Text} (hspelling : spelling ∈ spellings) :
    admitted? text = some spelling ↔ Text.sameFolded (Text.trimmed text) spelling = true := by
  obtain ⟨direction, rfl⟩ := mem_spellings_iff.1 hspelling
  rw [sameFolded_iff direction.mem_letters_of_mem_text, ← read?_eq_some_iff, admitted?,
    Option.map_eq_some_iff]
  constructor
  · rintro ⟨found, hread, htext⟩
    rw [hread, ← eq_of_caseless_text_eq found (mem_all found) direction (mem_all direction)
      (by rw [htext])]
  · intro hread
    exact ⟨direction, hread, rfl⟩

end Direction

/-- How a key is shown: its column, and after it the direction that its free text spells,
if it spells one. -/
def OrderKey.shown (key : OrderKey) : Text :=
  match key.direction.bind Direction.admitted? with
  | none => key.column
  | some spelling => key.column ++ " " ++ spelling

theorem OrderKey.text_rendered (key : OrderKey) : key.rendered.text = key.shown := by
  obtain ⟨column, _ | text⟩ := key
  · rfl
  · rw [OrderKey.rendered, SortKey.text, OrderKey.shown, Option.bind_some, Option.bind_some,
      Direction.admitted?]
    cases Direction.read? text <;> rfl

namespace Draft

/-- The ordering has one place in a SELECT, and in an INSERT of one. -/
theorem sql_orderBy {draft : Draft} (hselects : draft.statement.Selects) :
    ∃ before after : Text, ∀ keys : List OrderKey,
      (draft.orderBy keys).sql = draft.check.map fun _ =>
        before ++ Statement.listClause "ORDER BY" (keys.map OrderKey.shown) ++ after := by
  obtain ⟨pieces, hlength, hsql⟩ := Statement.standsAt_sql hselects
    (draft.statement.standsAt_orderBy draft.statement.conditions draft.statement.having)
  obtain ⟨before, after, rfl⟩ := List.length_eq_two.1 hlength
  refine ⟨before, after, fun keys => ?_⟩
  have hchecks : (draft.orderBy keys).check = draft.check := rfl
  have htexts : (keys.map OrderKey.rendered).map SortKey.text = keys.map OrderKey.shown := by
    rw [List.map_map]
    exact List.map_congr_left fun key _ => key.text_rendered
  have hkeys := hsql (keys.map OrderKey.rendered)
  dsimp only at hkeys
  rw [htexts, Text.joined_cons_cons, Text.joined_singleton] at hkeys
  rw [Draft.sql, hchecks, ← hkeys]
  rfl

/-- Only the six spellings reach the SQL as directions.  A free text is shown as one of them
exactly if, trimmed, it is this spelling up to simple case folding, and then the spelling
is the trimmed text in capitals; what is shown is shown again for itself.  The keys stand
in the SQL in their order, every column with what its own direction spells. -/
theorem only_spelled_directions_reach_sql :
    (∀ text : Text,
      (∀ spelling ∈ Direction.spellings,
        Direction.admitted? text = some spelling ↔
          Text.sameFolded (Text.trimmed text) spelling = true) ∧
      ∀ shown, Direction.admitted? text = some shown →
        shown ∈ Direction.spellings ∧ Text.capitalized (Text.trimmed text) = shown ∧
          Direction.admitted? shown = some shown) ∧
    ∀ draft : Draft,
      draft.statement.kind = .select ∨
          draft.statement.kind = .insert ∧ draft.statement.columns.isSome →
        ∃ before after : Text, ∀ keys : List OrderKey,
          (draft.orderBy keys).sql = draft.check.map fun _ =>
            before ++ Statement.listClause "ORDER BY" (keys.map OrderKey.shown) ++ after := by
  refine ⟨fun text => ⟨fun spelling hspelling => Direction.admitted?_eq_some_iff hspelling, ?_⟩, ?_⟩
  · intro shown hshown
    obtain ⟨direction, hread, rfl⟩ := Option.map_eq_some_iff.1 hshown
    have hsame := Direction.read?_eq_some_iff.1 hread
    refine ⟨Direction.mem_spellings_iff.2 ⟨direction, rfl⟩,
      Direction.capitalized_eq direction.mem_letters_of_mem_text hsame, ?_⟩
    rw [Direction.admitted?, direction.read?_text]
    rfl
  · intro draft hselects
    exact sql_orderBy hselects

theorem long_s_spells_direction_and_drop_spells_none :
    ("DESC NULLS LAST".toList ∈ Direction.spellings ∧
      Direction.admitted? "\u3000deſc Nulls laſt\t" = some "DESC NULLS LAST" ∧
      Text.capitalized (Text.trimmed "\u3000deſc Nulls laſt\t") = "DESC NULLS LAST") ∧
    ((select [.text "id"]).readFrom (.text "t")).statement.kind = .select ∧
    ∃ before after : Text,
      (((select [.text "id"]).readFrom (.text "t")).orderBy
        [⟨"b", some "asc; drop"⟩, ⟨"a", some "\u3000deſc Nulls laſt\t"⟩, ⟨"c", none⟩]).sql =
        .ok (before ++ " ORDER BY b, a DESC NULLS LAST, c" ++ after) := by
  have hmem : "DESC NULLS LAST".toList ∈ Direction.spellings := by decide
  have hadmitted : Direction.admitted? "\u3000deſc Nulls laſt\t" = some "DESC NULLS LAST" :=
    ((only_spelled_directions_reach_sql.1 _).1 _ hmem).2 (by decide +kernel)
  refine ⟨⟨hmem, hadmitted, ((only_spelled_directions_reach_sql.1 _).2 _ hadmitted).2.1⟩, rfl, ?_⟩
  obtain ⟨before, after, hsql⟩ := only_spelled_directions_reach_sql.2
    ((select [.text "id"]).readFrom (.text "t")) (.inl rfl)
  refine ⟨before, after, (hsql _).trans ?_⟩
  have hclause : Statement.listClause "ORDER BY"
      (List.map OrderKey.shown [⟨"b", some "asc; drop"⟩,
        ⟨"a", some "\u3000deſc Nulls laſt\t"⟩, ⟨"c", none⟩]) =
      " ORDER BY b, a DESC NULLS LAST, c" := by
    decide +kernel
  rw [hclause]
  rfl

end Draft

end SqlBuilder
