import SqlBuilder.Proofs.Text.Hyphens
import SqlBuilder.Proofs.Value.Characters
import SqlBuilder.Proofs.Value.Structure
import SqlBuilder.Value.Template

/-!
Line comments in interpolated templates.  Numbers and instants are put in place
of their placeholders as they are.  Their literals neither hold two hyphens in a
row nor end in one, so the only way to open a comment is a hyphen of the template
directly before a value that begins with the sign of a negative number.
-/

namespace SqlBuilder

open Text (Settled HyphensApart NotBothHyphens)

namespace Text

theorem hyphen_not_mem_ofNat (n : Nat) : '-' ∉ ofNat n := fun hmem =>
  absurd (isDigit_of_mem_ofNat hmem) (by decide)

theorem hyphen_not_mem_zeroPadded (width n : Nat) : '-' ∉ zeroPadded width n := by
  simp [zeroPadded, hyphen_not_mem_ofNat]

theorem zeroPadded_ne_nil (width n : Nat) : zeroPadded width n ≠ [] :=
  List.append_ne_nil_of_right_ne_nil _ (ofNat_ne_nil n)

theorem settled_zeroPadded (width n : Nat) : Settled (zeroPadded width n) :=
  settled_of_not_mem (zeroPadded_ne_nil width n) (hyphen_not_mem_zeroPadded width n)

theorem settled_hyphen_zeroPadded (width n : Nat) : Settled ('-' :: zeroPadded width n) :=
  settled_hyphen_cons (zeroPadded_ne_nil width n) (hyphen_not_mem_zeroPadded width n)

theorem settled_ofInt (n : Int) : Settled (ofInt n) := by
  cases n with
  | ofNat m => exact settled_of_not_mem (ofNat_ne_nil m) (hyphen_not_mem_ofNat m)
  | negSucc m =>
      exact settled_hyphen_cons (ofNat_ne_nil (m + 1)) (hyphen_not_mem_ofNat (m + 1))

theorem head?_ofInt (n : Int) : (ofInt n).head? = some '-' ↔ n < 0 := by
  cases n with
  | ofNat m =>
      have hhead : (ofNat m).head? ≠ some '-' := fun h =>
        hyphen_not_mem_ofNat m (List.mem_of_head? h)
      simp [ofInt, hhead]
  | negSucc m => simp [ofInt, Int.negSucc_lt_zero]

end Text

namespace Instant

theorem settled_yearText (year : Int) : Settled (yearText year) := by
  have hplus : Settled "+".toList := Text.settled_of_not_mem (by decide) (by decide)
  rw [yearText]
  split
  · exact Text.settled_hyphen_zeroPadded 4 year.natAbs
  · split
    · exact Text.settled_zeroPadded 4 year.natAbs
    · exact hplus.append (Text.settled_zeroPadded 4 year.natAbs)

theorem settled_dateText (date : Date) : Settled (dateText date) := by
  have hparts : dateText date = yearText date.year ++ '-' :: Text.zeroPadded 2 date.month ++
      '-' :: Text.zeroPadded 2 date.day := by simp [dateText]
  rw [hparts]
  exact ((settled_yearText date.year).append (Text.settled_hyphen_zeroPadded 2 date.month)).append
    (Text.settled_hyphen_zeroPadded 2 date.day)

theorem hyphen_not_mem_fractionText (nanos : Nat) : '-' ∉ fractionText nanos := by
  rw [fractionText]
  split
  · exact List.not_mem_nil
  · split
    · simp [Text.hyphen_not_mem_zeroPadded]
    · split <;> simp [Text.hyphen_not_mem_zeroPadded]

/-- No two of the hyphens in the text of an instant stand together, and none at its ends. -/
theorem settled_quoted_text (instant : Instant) :
    Settled ("\x27" ++ instant.text ++ "\x27") := by
  have hquote : Settled "\x27".toList := Text.settled_of_not_mem (by decide) (by decide)
  have hclock : Settled (" " ++ Text.zeroPadded 2 (instant.secondOfDay / 3600) ++ ":" ++
      Text.zeroPadded 2 (instant.secondOfDay / 60 % 60) ++ ":" ++
      Text.zeroPadded 2 instant.secondOfMinute ++
      fractionText (instant.nanos % nanosPerSecond) ++ " UTC") := by
    apply Text.settled_of_not_mem
    · simp
    · simp [Text.hyphen_not_mem_zeroPadded, hyphen_not_mem_fractionText]
  have hparts : instant.text = dateText instant.date ++ (" " ++
      Text.zeroPadded 2 (instant.secondOfDay / 3600) ++ ":" ++
      Text.zeroPadded 2 (instant.secondOfDay / 60 % 60) ++ ":" ++
      Text.zeroPadded 2 instant.secondOfMinute ++
      fractionText (instant.nanos % nanosPerSecond) ++ " UTC") := by
    simp only [text, List.append_assoc]
  rw [hparts]
  exact (hquote.append ((settled_dateText instant.date).append hclock)).append hquote

end Instant

namespace Value

mutual

/-- Whether the value is made of NULL, truth values, whole numbers and instants. -/
def isBare : Value → Bool
  | null | bool _ | int _ | timestamp _ => true
  | float _ | text _ | query _ => false
  | list items => areBare items

def areBare : List Value → Bool
  | [] => true
  | item :: items => isBare item && areBare items

end

mutual

/-- Whether the literal begins with the sign of a negative number. -/
def startsNegative : Value → Bool
  | int n => n.toInt < 0
  | list items => firstStartsNegative items
  | _ => false

def firstStartsNegative : List Value → Bool
  | [] => false
  | item :: _ => startsNegative item

end

@[simp] theorem isBare_list (items : List Value) :
    (list items).isBare = true ↔ ∀ item ∈ items, item.isBare = true := by
  rw [isBare]
  induction items with
  | nil => simp [areBare]
  | cons item items ih => simp [areBare, ih]

/-- No bare value brings two hyphens together or ends in one. -/
theorem settled_literal {v : Value} (hbare : v.isBare = true) : Settled v.literal := by
  induction v with
  | null => exact Text.settled_of_not_mem (by decide) (by decide)
  | bool value => cases value <;> exact Text.settled_of_not_mem (by decide) (by decide)
  | int n => exact Text.settled_ofInt n.toInt
  | timestamp instant => exact instant.settled_quoted_text
  | float x => simp [isBare] at hbare
  | text payload => simp [isBare] at hbare
  | query statement => simp [isBare] at hbare
  | list items ih =>
      rw [isBare_list] at hbare
      by_cases hne : items = []
      · subst hne
        exact Text.settled_of_not_mem (by decide) (by decide)
      · have hseparator : Settled ", ".toList :=
          Text.settled_of_not_mem (by decide) (by decide)
        rw [literal_list hne]
        apply hseparator.joined (by simpa using hne)
        intro literal hmem
        obtain ⟨item, hitem, rfl⟩ := List.mem_map.1 hmem
        exact ih item hitem (hbare item hitem)

/-- A bare value begins with a hyphen exactly if a negative number comes first in it. -/
theorem head?_literal {v : Value} (hbare : v.isBare = true) :
    v.literal.head? = some '-' ↔ v.startsNegative = true := by
  induction v with
  | null => simp [literal, startsNegative]
  | bool value => cases value <;> simp [literal, startsNegative]
  | int n => simpa [literal, startsNegative] using Text.head?_ofInt n.toInt
  | timestamp instant => simp [literal, startsNegative]
  | float x => simp [isBare] at hbare
  | text payload => simp [isBare] at hbare
  | query statement => simp [isBare] at hbare
  | list items ih =>
      cases items with
      | nil => simp [literal, startsNegative, firstStartsNegative]
      | cons item others =>
          rw [isBare_list] at hbare
          have hitem := hbare item List.mem_cons_self
          have hfirst : (list (item :: others)).literal.head? = item.literal.head? := by
            rw [literal_list_cons, List.map_cons, Text.joined_cons, List.head?_append]
            obtain ⟨c, rest, hliteral⟩ :=
              List.exists_cons_of_ne_nil (settled_literal hitem).ne_nil
            rw [hliteral]
            rfl
          rw [hfirst, ih item List.mem_cons_self hitem]
          simp [startsNegative, firstStartsNegative]

end Value

namespace Template

/-- The value that a placeholder of this name stands for. -/
def valueOf (bindings : Bindings) (name : Text) : Value := (bindings.get? name).getD .null

theorem isBare_valueOf {bindings : Bindings} (hbare : ∀ v ∈ bindings.values, v.isBare = true)
    (name : Text) : (valueOf bindings name).isBare = true := by
  rw [valueOf, Bindings.get?]
  cases hfound : bindings.entries.lookup name with
  | none => rfl
  | some v =>
      obtain ⟨before, rest, hentries, -⟩ := List.lookup_eq_some_iff.1 hfound
      apply hbare v
      simp [Bindings.values, hentries]

/-- Somewhere a hyphen stands directly before a placeholder whose value begins with
the sign of a negative number. -/
def HyphenBeforeNegative (template : Text) (bindings : Bindings) : Prop :=
  ∃ before name rest, pieces template = before ++ .plain '-' :: .placeholder name :: rest ∧
    (valueOf bindings name).startsNegative = true

/-- Two neighbours in a text made of pieces do not put two hyphens together. -/
def Joinable (text : Piece → Text) (first second : Piece) : Prop :=
  ∀ a ∈ (text first).getLast?, ∀ b ∈ (text second).head?, NotBothHyphens a b

/-- In a text made of parts, hyphens can meet inside a part or where two parts do. -/
theorem hyphensApart_flatMap_iff {text : Piece → Text} {parts : List Piece}
    (hne : ∀ part ∈ parts, text part ≠ []) :
    HyphensApart (parts.flatMap text) ↔
      (∀ part ∈ parts, HyphensApart (text part)) ∧ parts.IsChain (Joinable text) := by
  have hnil : [] ∉ parts.map text := by
    intro hmem
    obtain ⟨part, hpart, hempty⟩ := List.mem_map.1 hmem
    exact hne part hpart hempty
  rw [List.flatMap_def, HyphensApart, List.isChain_flatten hnil, List.isChain_map,
    List.forall_mem_map]
  rfl

theorem Piece.source_ne_nil (part : Piece) : part.source ≠ [] := by
  cases part <;> exact List.cons_ne_nil _ _

theorem Piece.text_ne_nil_and_apart {bindings : Bindings}
    (hbare : ∀ v ∈ bindings.values, v.isBare = true) (part : Piece) :
    part.text bindings ≠ [] ∧ HyphensApart (part.text bindings) := by
  cases part with
  | plain c => exact ⟨List.cons_ne_nil _ _, List.isChain_singleton c⟩
  | placeholder name =>
      have hsettled := Value.settled_literal (isBare_valueOf hbare name)
      exact ⟨hsettled.ne_nil, hsettled.apart⟩

theorem isChain_source {template : Text} (hapart : HyphensApart template) :
    (pieces template).IsChain (Joinable Piece.source) := by
  rw [← flatMap_source_pieces template,
    hyphensApart_flatMap_iff fun part _ => part.source_ne_nil] at hapart
  exact hapart.2

/-- Only a hyphen before a negative value puts two hyphens together that were
apart in the template. -/
theorem joinable_text_of_source {bindings : Bindings}
    (hbare : ∀ v ∈ bindings.values, v.isBare = true) {first second : Piece}
    (hsource : Joinable Piece.source first second)
    (hsafe : ∀ name, first = .plain '-' → second = .placeholder name →
      ¬ (valueOf bindings name).startsNegative = true) :
    Joinable (Piece.text bindings) first second := by
  rintro a ha b hb ⟨rfl, rfl⟩
  cases first with
  | placeholder name =>
      exact (Value.settled_literal (isBare_valueOf hbare name)).last ha
  | plain c =>
      have hc : c = '-' := by simpa [Piece.text] using ha
      subst hc
      cases second with
      | plain d => exact hsource '-' ha '-' hb ⟨rfl, rfl⟩
      | placeholder name =>
          have hvalue := Value.head?_literal (isBare_valueOf hbare name)
          exact hsafe name rfl rfl (hvalue.1 hb)

/-- Bare values bring hyphens together only where one stands before a negative number. -/
theorem hyphensApart_interpolate_iff {template : Text} {bindings : Bindings}
    (hapart : HyphensApart template) (hbare : ∀ v ∈ bindings.values, v.isBare = true) :
    HyphensApart (interpolate template bindings) ↔
      ¬ HyphenBeforeNegative template bindings := by
  have hparts := Piece.text_ne_nil_and_apart hbare
  rw [interpolate, hyphensApart_flatMap_iff fun part _ => (hparts part).1]
  constructor
  · rintro ⟨-, hchain⟩ ⟨before, name, rest, hsplit, hnegative⟩
    rw [hsplit, List.isChain_append_cons_cons] at hchain
    have hvalue := Value.head?_literal (isBare_valueOf hbare name)
    exact hchain.2.1 '-' rfl '-' (hvalue.2 hnegative) ⟨rfl, rfl⟩
  · intro hsafe
    refine ⟨fun part _ => (hparts part).2, ?_⟩
    have hsource := isChain_source hapart
    rw [List.isChain_iff_forall_rel_of_append_cons_cons] at hsource ⊢
    intro first second before rest hsplit
    apply joinable_text_of_source hbare (hsource hsplit)
    rintro name rfl rfl hnegative
    exact hsafe ⟨before, name, rest, hsplit, hnegative⟩

/-- Values without delimiters open a line comment exactly where the template has a
hyphen directly before a value that begins with the sign of a negative number. -/
theorem contains_hyphens_interpolate_iff {template : Text} {bindings : Bindings}
    (htemplate : Text.contains "--" template = false)
    (hbare : ∀ v ∈ bindings.values, v.isBare = true) :
    Text.contains "--" (interpolate template bindings) = true ↔
      HyphenBeforeNegative template bindings := by
  rw [Text.not_contains_hyphens_iff] at htemplate
  have hiff := hyphensApart_interpolate_iff htemplate hbare
  rw [← Text.not_contains_hyphens_iff, ← Bool.not_eq_true] at hiff
  exact not_iff_not.1 hiff

theorem hyphen_before_list_of_negative_opens_comment :
    Text.contains "--" "a -$n" = false ∧
      (∀ v ∈ (Bindings.ofList [("n", .list [.list [.int (-1)], .null])]).values,
        v.isBare = true) ∧
      Text.contains "--"
        (interpolate "a -$n" (.ofList [("n", .list [.list [.int (-1)], .null])])) = true := by
  have htemplate : Text.contains "--" "a -$n" = false := by decide
  have hbare : ∀ v ∈ (Bindings.ofList [("n", .list [.list [.int (-1)], .null])]).values,
      v.isBare = true := by decide
  refine ⟨htemplate, hbare, (contains_hyphens_interpolate_iff htemplate hbare).2 ?_⟩
  exact ⟨[.plain 'a', .plain ' '], "n", [], by decide +kernel, by decide⟩

theorem exists_negative_number_that_opens_comment :
    ¬ ∀ (template : Text) (bindings : Bindings), Text.contains "--" template = false →
      (∀ v ∈ bindings.values, v.isBare = true) →
        Text.contains "--" (interpolate template bindings) = false := by
  intro hall
  have hnone := hall "a -$n" (.ofList [("n", .int (-1))]) (by decide) (by decide)
  exact absurd hnone (by decide +kernel)

end Template

end SqlBuilder
