import Mathlib.Data.List.Basic
import SqlBuilder.Proofs.Reading.Lexeme
import SqlBuilder.Proofs.Text.Joined
import SqlBuilder.Statement.Basic

/-!
Lists of SQL expressions, cut into items at the commas outside quotes and parentheses.
A quiet text has no comma and no statement outside its quotes and parentheses, whatever
comes after it; quiet texts with commas between them are cut just there, and a statement
after quiet texts lies open in its item.
-/

namespace SqlBuilder

namespace Lexeme

/-- The depth of parentheses after the lexeme. -/
def depthAfter (depth : Nat) : Lexeme → Nat
  | mark '(' => depth + 1
  | mark ')' => depth - 1
  | _ => depth

/-- The lexeme as a single character, a quoted stretch as a blank. -/
def shown : Lexeme → Char
  | mark c => c
  | quoted _ _ => ' '

/-- Whether the lexeme neither ends an item nor changes the depth of parentheses. -/
def isFlat : Lexeme → Bool
  | mark c => !",()".toList.contains c
  | quoted _ _ => true

/-- Whether the lexeme is flat and no part of a word with which a statement begins, all of
which have an `E`. -/
def isQuiet : Lexeme → Bool
  | mark c => !",()E".toList.contains c
  | quoted _ _ => true

/-- Whether the character opens no quotes, is quiet, and begins nothing that would make a
tag of a dollar sign before it. -/
def isCalm (c : Char) : Bool := c != 'Q' && !opens c && (mark c).isQuiet

end Lexeme

open Lexeme

/-- Cuts lexemes at the commas outside parentheses. -/
def itemsAt (depth : Nat) : List Lexeme → List (List Lexeme)
  | [] => [[]]
  | lexeme :: rest =>
      if depth = 0 ∧ lexeme = mark ',' then [] :: itemsAt 0 rest
      else (itemsAt (lexeme.depthAfter depth) rest).modifyHead (lexeme :: ·)

/-- The items of a list of expressions; the empty text has none. -/
def items (text : Text) : List (List Lexeme) :=
  if text.isEmpty then [] else itemsAt 0 (lexemes text)

/-- What stands outside parentheses, a quoted stretch as a blank. -/
def exposedAt (depth : Nat) : List Lexeme → Text
  | [] => []
  | lexeme :: rest =>
      if depth = 0 then lexeme.shown :: exposedAt (lexeme.depthAfter depth) rest
      else exposedAt (lexeme.depthAfter depth) rest

/-- The words with which statements begin. -/
def statementWords : List Text :=
  "EXPLAIN".toList :: [Kind.select, Kind.insert, Kind.update, Kind.delete].map Kind.keyword

/-- A statement lies open in the item, outside quotes and parentheses. -/
def HasOpenStatement (item : List Lexeme) : Prop :=
  ∃ word ∈ statementWords, word <:+: exposedAt 0 item

theorem isFlat_of_isQuiet {lexeme : Lexeme} (hquiet : lexeme.isQuiet = true) :
    lexeme.isFlat = true := by
  cases lexeme with
  | quoted delimiter payload => rfl
  | mark c =>
      simp only [isQuiet, isFlat, Bool.not_eq_true', List.contains_eq_mem,
        decide_eq_false_iff_not] at hquiet ⊢
      exact fun hmem => hquiet (List.mem_append_left "E".toList hmem)

theorem shown_ne_of_isQuiet {lexeme : Lexeme} (hquiet : lexeme.isQuiet = true) :
    lexeme.shown ≠ 'E' := by
  rintro hshown
  cases lexeme with
  | quoted delimiter payload => cases hshown
  | mark c =>
      obtain rfl : c = 'E' := hshown
      cases hquiet

theorem depthAfter_of_isFlat {lexeme : Lexeme} (hflat : lexeme.isFlat = true) (depth : Nat) :
    lexeme.depthAfter depth = depth := by
  unfold depthAfter
  split
  · cases hflat
  · cases hflat
  · rfl

section Flat

variable {first : List Lexeme} (hflat : ∀ lexeme ∈ first, lexeme.isFlat = true)
include hflat

/-- Flat lexemes are never cut: they stand at the beginning of the first item. -/
theorem itemsAt_append_of_flat (rest : List Lexeme) :
    itemsAt 0 (first ++ rest) = (itemsAt 0 rest).modifyHead (first ++ ·) := by
  induction first with
  | nil => exact (congrFun List.modifyHead_id _).symm
  | cons lexeme first ih =>
      have hhead := hflat lexeme List.mem_cons_self
      have hcomma : ¬ (0 = 0 ∧ lexeme = mark ',') := by
        rintro ⟨-, rfl⟩
        cases hhead
      rw [List.cons_append, itemsAt, if_neg hcomma, depthAfter_of_isFlat hhead,
        ih fun other hother => hflat other (List.mem_cons_of_mem lexeme hother),
        List.modifyHead_modifyHead]
      rfl

theorem exposedAt_append_of_flat (rest : List Lexeme) :
    exposedAt 0 (first ++ rest) = first.map shown ++ exposedAt 0 rest := by
  induction first with
  | nil => rfl
  | cons lexeme first ih =>
      rw [List.cons_append, exposedAt, if_pos rfl,
        depthAfter_of_isFlat (hflat lexeme List.mem_cons_self),
        ih fun other hother => hflat other (List.mem_cons_of_mem lexeme hother)]
      rfl

end Flat

/-- Lexemes that stay in the item in which they begin, with no statement open in them: no
`E` stands outside their parentheses, and every word with which a statement begins has
one. -/
structure Contained (first : List Lexeme) : Prop where
  items : ∀ rest, itemsAt 0 (first ++ rest) = (itemsAt 0 rest).modifyHead (first ++ ·)
  exposed : ∃ shown : Text, 'E' ∉ shown ∧
    ∀ rest, exposedAt 0 (first ++ rest) = shown ++ exposedAt 0 rest

namespace Contained

theorem of_quiet {first : List Lexeme} (hquiet : ∀ lexeme ∈ first, lexeme.isQuiet = true) :
    Contained first := by
  have hflat := fun lexeme hmem => isFlat_of_isQuiet (hquiet lexeme hmem)
  refine ⟨itemsAt_append_of_flat hflat, first.map shown, ?_, exposedAt_append_of_flat hflat⟩
  intro hmem
  obtain ⟨lexeme, hlexeme, hshown⟩ := List.mem_map.1 hmem
  exact shown_ne_of_isQuiet (hquiet lexeme hlexeme) hshown

theorem append {first second : List Lexeme} (hfirst : Contained first)
    (hsecond : Contained second) : Contained (first ++ second) := by
  obtain ⟨before, hbefore, hexposedFirst⟩ := hfirst.exposed
  obtain ⟨after, hafter, hexposedSecond⟩ := hsecond.exposed
  refine ⟨fun rest => ?_, before ++ after, ?_, fun rest => ?_⟩
  · rw [List.append_assoc, hfirst.items, hsecond.items, List.modifyHead_modifyHead]
    simp only [Function.comp_def, List.append_assoc]
  · rw [List.mem_append, not_or]
    exact ⟨hbefore, hafter⟩
  · rw [List.append_assoc, hexposedFirst, hexposedSecond, List.append_assoc]

theorem not_hasOpenStatement {item : List Lexeme} (hitem : Contained item) :
    ¬ HasOpenStatement item := by
  rintro ⟨word, hword, hinside⟩
  obtain ⟨shown, hshown, hexposed⟩ := hitem.exposed
  have hwhole := hexposed []
  rw [List.append_nil, exposedAt, List.append_nil] at hwhole
  have hletter : ∀ word ∈ statementWords, 'E' ∈ word := by decide
  rw [hwhole] at hinside
  exact hshown (hinside.subset (hletter word hword))

/-- A statement stays open behind contained lexemes. -/
theorem hasOpenStatement_append {first item : List Lexeme} (hfirst : Contained first)
    (hopen : HasOpenStatement item) : HasOpenStatement (first ++ item) := by
  obtain ⟨word, hword, hinside⟩ := hopen
  obtain ⟨shown, -, hexposed⟩ := hfirst.exposed
  refine ⟨word, hword, ?_⟩
  rw [hexposed]
  exact hinside.trans (List.suffix_append _ _).isInfix

end Contained

/-- Whether the lexemes close `depth` parentheses besides all those that they open, and
nowhere more than are open. -/
def closesAll (depth : Nat) : List Lexeme → Bool
  | [] => depth == 0
  | lexeme :: rest =>
      (lexeme != mark ')' || depth != 0) && closesAll (lexeme.depthAfter depth) rest

theorem depthAfter_succ {lexeme : Lexeme} {depth : Nat}
    (hclose : lexeme ≠ mark ')' ∨ depth ≠ 0) :
    lexeme.depthAfter (depth + 1) = lexeme.depthAfter depth + 1 := by
  unfold depthAfter
  split
  · rfl
  · have hdepth := hclose.resolve_left (fun hne => hne rfl)
    omega
  · rfl

/-- Inside parentheses nothing is cut and nothing lies open. -/
theorem itemsAt_exposedAt_of_closesAll {depth : Nat} {inner : List Lexeme}
    (hcloses : closesAll depth inner = true) (rest : List Lexeme) :
    itemsAt (depth + 1) (inner ++ rest) = (itemsAt 1 rest).modifyHead (inner ++ ·) ∧
      exposedAt (depth + 1) (inner ++ rest) = exposedAt 1 rest := by
  induction inner generalizing depth with
  | nil =>
      obtain rfl : depth = 0 := by simpa [closesAll] using hcloses
      exact ⟨(congrFun List.modifyHead_id _).symm, rfl⟩
  | cons lexeme inner ih =>
      simp only [closesAll, Bool.and_eq_true, Bool.or_eq_true, bne_iff_ne] at hcloses
      obtain ⟨hclose, hinner⟩ := hcloses
      obtain ⟨hitems, hexposed⟩ := ih hinner
      have hinside : ¬ (depth + 1 = 0 ∧ lexeme = mark ',') := by simp
      rw [List.cons_append, itemsAt, if_neg hinside, exposedAt, if_neg (Nat.succ_ne_zero depth),
        depthAfter_succ hclose, hitems, hexposed, List.modifyHead_modifyHead]
      exact ⟨rfl, rfl⟩

/-- Whatever is between parentheses stays in one item and leaves no statement open. -/
theorem Contained.parenthesized {inner : List Lexeme} (hcloses : closesAll 0 inner = true) :
    Contained (mark '(' :: (inner ++ [mark ')'])) := by
  have hafter : ∀ rest, itemsAt 1 (mark ')' :: rest) =
        (itemsAt 0 rest).modifyHead (mark ')' :: ·) ∧
      exposedAt 1 (mark ')' :: rest) = exposedAt 0 rest := fun rest => by
    simp [itemsAt, exposedAt, depthAfter]
  have hbefore : ∀ rest, itemsAt 0 (mark '(' :: rest) =
        (itemsAt 1 rest).modifyHead (mark '(' :: ·) ∧
      exposedAt 0 (mark '(' :: rest) = '(' :: exposedAt 1 rest := fun rest => by
    simp [itemsAt, exposedAt, depthAfter, shown]
  have hinner := fun rest => itemsAt_exposedAt_of_closesAll hcloses (mark ')' :: rest)
  refine ⟨fun rest => ?_, ['('], by decide, fun rest => ?_⟩
  · rw [List.cons_append, List.append_assoc, (hbefore _).1, List.singleton_append,
      (hinner rest).1, (hafter rest).1]
    simp only [List.modifyHead_modifyHead, Function.comp_def, List.cons_append,
      List.append_assoc, List.nil_append]
  · rw [List.cons_append, List.append_assoc, (hbefore _).2, List.singleton_append,
      (hinner rest).2, (hafter rest).2]
    rfl

/-- The text is read by itself wherever no `Q` follows, and so quietly that no list of
expressions is cut in it and no statement lies open. -/
structure ReadsQuietly (text : Text) : Prop where
  head : text.head? ≠ some 'Q'
  read : ∃ first : List Lexeme, Contained first ∧
    ∀ rest, rest.head? ≠ some 'Q' → lexemes (text ++ rest) = first ++ lexemes rest

/-- The text is read by itself wherever no `Q` follows, and it closes the parentheses that
it opens and no others. -/
def ReadsClosed (text : Text) : Prop :=
  ∃ inner : List Lexeme, closesAll 0 inner = true ∧
    ∀ rest, rest.head? ≠ some 'Q' → lexemes (text ++ rest) = inner ++ lexemes rest

namespace ReadsQuietly

theorem of_calm {text : Text} (hcalm : text.all isCalm = true) : ReadsQuietly text := by
  have hchars : ∀ c ∈ text, c ≠ 'Q' ∧ opens c = false ∧ (mark c).isQuiet = true := by
    simpa [isCalm, and_assoc] using hcalm
  constructor
  · exact fun hhead => (hchars 'Q' (List.mem_of_mem_head? hhead)).1 rfl
  · refine ⟨text.map mark, .of_quiet ?_, fun rest _ => lexemes_append_of_not_opens ?_ rest⟩
    · exact List.forall_mem_map.2 fun c hc => (hchars c hc).2.2
    · rw [List.any_eq_false]
      exact fun c hc => by simp [(hchars c hc).2.1]

/-- A quiet text does not begin with a letter that could make a tag of what is before it, so
quiet texts can be put together. -/
theorem append {first second : Text} (hfirst : ReadsQuietly first)
    (hsecond : ReadsQuietly second) : ReadsQuietly (first ++ second) := by
  have hhead : ∀ {text rest : Text}, text.head? ≠ some 'Q' → rest.head? ≠ some 'Q' →
      (text ++ rest).head? ≠ some 'Q' := by
    intro text rest htext hrest
    rcases text with _ | ⟨c, later⟩
    · exact hrest
    · exact htext
  obtain ⟨before, hbefore, hreadFirst⟩ := hfirst.read
  obtain ⟨after, hafter, hreadSecond⟩ := hsecond.read
  refine ⟨hhead hfirst.head hsecond.head, before ++ after, hbefore.append hafter, ?_⟩
  intro rest hrest
  rw [List.append_assoc, hreadFirst _ (hhead hsecond.head hrest), hreadSecond rest hrest,
    List.append_assoc]

theorem joined {separator : Text} (hseparator : ReadsQuietly separator) {parts : List Text}
    (hparts : ∀ part ∈ parts, ReadsQuietly part) : ReadsQuietly (Text.joined separator parts) := by
  induction parts with
  | nil => exact of_calm rfl
  | cons part others ih =>
      have hpart := hparts part List.mem_cons_self
      have hothers := ih fun other hother => hparts other (List.mem_cons_of_mem part hother)
      rcases others with _ | ⟨second, others⟩
      · rwa [Text.joined_singleton]
      · rw [Text.joined_cons_cons]
        exact (hpart.append hseparator).append hothers

/-- A text that closes its own parentheses is quiet in further ones, with all its commas
and statements. -/
theorem parenthesized {inner : Text} (hclosed : ReadsClosed inner) :
    ReadsQuietly (Text.parenthesized inner) where
  head := fun hhead => absurd (Option.some.inj hhead : '(' = 'Q') (by decide)
  read := by
    obtain ⟨first, hcloses, hread⟩ := hclosed
    refine ⟨_, .parenthesized hcloses, fun rest _ => ?_⟩
    have hopening : ∀ later, lexemes ('(' :: later) = mark '(' :: lexemes later := fun later =>
      lexemes_of_quoted?_eq_none (quoted?_of_not_opens rfl later)
    have hclosing : ∀ later, lexemes (')' :: later) = mark ')' :: lexemes later := fun later =>
      lexemes_of_quoted?_eq_none (quoted?_of_not_opens rfl later)
    have hwhole : Text.parenthesized inner ++ rest = '(' :: (inner ++ ')' :: rest) := by
      simp [Text.parenthesized]
    rw [hwhole, hopening, hread _ (by simp), hclosing]
    simp

end ReadsQuietly

theorem itemsAt_ne_nil (depth : Nat) (first : List Lexeme) : itemsAt depth first ≠ [] := by
  induction first generalizing depth with
  | nil => exact List.cons_ne_nil _ _
  | cons lexeme rest ih =>
      rw [itemsAt]
      split
      · exact List.cons_ne_nil _ _
      · rw [ne_eq, List.modifyHead_eq_nil_iff]
        exact ih _

/-- A quiet text before a comma is an item, and the blank behind the comma belongs to the
next one. -/
theorem itemsAt_lexemes_comma {part : Text} (hquiet : ReadsQuietly part) (rest : Text) :
    ∃ first : List Lexeme, Contained first ∧
      itemsAt 0 (lexemes (part ++ ", " ++ rest)) =
        first :: (itemsAt 0 (lexemes rest)).modifyHead (mark ' ' :: ·) := by
  obtain ⟨first, hfirst, hread⟩ := hquiet.read
  refine ⟨first, hfirst, ?_⟩
  have hcomma : lexemes (", " ++ rest) = mark ',' :: mark ' ' :: lexemes rest :=
    lexemes_append_of_not_opens (by decide) rest
  rw [List.append_assoc, hread _ (by simp), hcomma, hfirst.items]
  simp [itemsAt, depthAfter]

theorem Contained.blank : Contained [mark ' '] := .of_quiet (by decide)

/-- Quiet texts with commas between them are cut at these commas only. -/
theorem contained_itemsAt_joined {parts : List Text} (hne : parts ≠ [])
    (hquiet : ∀ part ∈ parts, ReadsQuietly part) :
    (itemsAt 0 (lexemes (Text.joined ", " parts))).length = parts.length ∧
      ∀ item ∈ itemsAt 0 (lexemes (Text.joined ", " parts)), Contained item := by
  obtain ⟨part, others, rfl⟩ := List.exists_cons_of_ne_nil hne
  clear hne
  have hpart := hquiet part List.mem_cons_self
  induction others generalizing part with
  | nil =>
      obtain ⟨first, hfirst, hread⟩ := hpart.read
      have hwhole : lexemes part = first ++ [] := by
        have hend := hread [] (by simp)
        rw [List.append_nil] at hend
        rw [hend, lexemes]
      rw [Text.joined_singleton, hwhole, hfirst.items]
      simpa [itemsAt] using hfirst
  | cons second others ih =>
      have hothers : ∀ other ∈ second :: others, ReadsQuietly other := fun other hother =>
        hquiet other (List.mem_cons_of_mem part hother)
      obtain ⟨hlength, hitems⟩ := ih second hothers (hothers second List.mem_cons_self)
      obtain ⟨first, hfirst, hcut⟩ :=
        itemsAt_lexemes_comma hpart (Text.joined ", " (second :: others))
      obtain ⟨head, tail, hrest⟩ := List.exists_cons_of_ne_nil
        (itemsAt_ne_nil 0 (lexemes (Text.joined ", " (second :: others))))
      rw [hrest] at hlength hitems hcut
      rw [Text.joined_cons_cons, hcut]
      refine ⟨by simpa using hlength, ?_⟩
      simp only [List.modifyHead_cons, List.forall_mem_cons] at hitems ⊢
      exact ⟨hfirst, Contained.blank.append hitems.1, hitems.2⟩

/-- A statement that begins outside parentheses lies open in its item. -/
theorem exists_openStatement_of_lexemes {text rest word : Text} {first : List Lexeme}
    (hword : word ∈ statementWords) (hfirst : Contained first)
    (htext : lexemes text = first ++ (word.map mark ++ lexemes rest)) :
    ∃ item ∈ itemsAt 0 (lexemes text), HasOpenStatement item := by
  have hflat : ∀ word ∈ statementWords, (word.map mark).all isFlat = true := by decide
  have hmarks := List.all_eq_true.1 (hflat word hword)
  obtain ⟨item, later, hitems⟩ := List.exists_cons_of_ne_nil (itemsAt_ne_nil 0 (lexemes rest))
  rw [htext, hfirst.items, itemsAt_append_of_flat hmarks, hitems]
  refine ⟨first ++ (word.map mark ++ item), List.mem_cons_self, ?_⟩
  refine hfirst.hasOpenStatement_append ⟨word, hword, ?_⟩
  have hshown : (word.map mark).map shown = word := by
    rw [List.map_map]
    exact List.map_id word
  rw [exposedAt_append_of_flat hmarks, hshown]
  exact (List.prefix_append word _).isInfix

/-- A statement after quiet texts, with only a quiet text between it and the comma before
it, lies open in its item. -/
theorem exists_openStatement_of_word {before after : List Text} {lead word rest : Text}
    (hbefore : ∀ part ∈ before, ReadsQuietly part) (hlead : ReadsQuietly lead)
    (hword : word ∈ statementWords) :
    ∃ item ∈ itemsAt 0 (lexemes (Text.joined ", " (before ++ (lead ++ (word ++ rest)) :: after))),
      HasOpenStatement item := by
  induction before with
  | nil =>
      have hwords : ∀ word ∈ statementWords, word ≠ [] ∧ word.head? ≠ some 'Q' ∧
          word.any opens = false := by decide
      obtain ⟨hne, hhead, hchars⟩ := hwords word hword
      obtain ⟨first, hfirst, hread⟩ := hlead.read
      have htext : ∀ later : Text,
          lexemes (lead ++ (word ++ later)) = first ++ (word.map mark ++ lexemes later) := by
        intro later
        rw [hread _ (by rwa [List.head?_append_of_ne_nil word hne]),
          lexemes_append_of_not_opens hchars]
      rw [List.nil_append, Text.joined_cons, List.append_assoc, List.append_assoc]
      exact exists_openStatement_of_lexemes hword hfirst (htext _)
  | cons part before ih =>
      have hpart := hbefore part List.mem_cons_self
      obtain ⟨item, hitem, hopen⟩ := ih fun other hother =>
        hbefore other (List.mem_cons_of_mem part hother)
      obtain ⟨second, others, hothers⟩ := List.exists_cons_of_ne_nil
        (List.append_ne_nil_of_right_ne_nil before
          (List.cons_ne_nil (lead ++ (word ++ rest)) after))
      rw [hothers] at hitem
      obtain ⟨first, -, hcut⟩ :=
        itemsAt_lexemes_comma hpart (Text.joined ", " (second :: others))
      obtain ⟨head, tail, hrest⟩ := List.exists_cons_of_ne_nil
        (itemsAt_ne_nil 0 (lexemes (Text.joined ", " (second :: others))))
      rw [List.cons_append, hothers, Text.joined_cons_cons, hcut, hrest, List.modifyHead_cons]
      rw [hrest] at hitem
      rcases List.mem_cons.1 hitem with rfl | htail
      · exact ⟨mark ' ' :: item, by simp, Contained.blank.hasOpenStatement_append hopen⟩
      · exact ⟨item, by simp [htail], hopen⟩

end SqlBuilder
