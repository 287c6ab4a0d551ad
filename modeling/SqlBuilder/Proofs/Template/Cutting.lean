import Mathlib.Data.List.Forall2
import SqlBuilder.Value.Template

/-!
Templates as plain stretches and placeholders.  A placeholder takes the whole run of
word characters after its dollar sign, and a plain stretch goes on to the next
placeholder, so that a template can be cut in one way only.  Interpolation keeps the
plain stretches, puts one literal in the place of every placeholder, and looks at
nothing else.
-/

namespace SqlBuilder.Template

inductive Stretch where
  | plain (text : Text)
  | placeholder (name : Text)
deriving DecidableEq, Repr

/-- No placeholder begins in the text. -/
def IsPlain (text : Text) : Prop :=
  ∀ before after, text = before ++ '$' :: after → Text.startsWithWord after = false

/-- The stretches of a text, from left to right.  A placeholder ends where no word
character follows, and a plain stretch where a placeholder or nothing follows. -/
inductive IsCut : Text → List Stretch → Prop
  | nil : IsCut [] []
  | plain {text rest : Text} {cut : List Stretch} (hne : text ≠ []) (hplain : IsPlain text)
      (hnext : ∀ other, cut.head? ≠ some (.plain other)) (hrest : IsCut rest cut) :
      IsCut (text ++ rest) (.plain text :: cut)
  | placeholder {name rest : Text} {cut : List Stretch} (hne : name ≠ [])
      (hword : ∀ c ∈ name, Text.isWord c = true) (hend : Text.startsWithWord rest = false)
      (hrest : IsCut rest cut) :
      IsCut ('$' :: (name ++ rest)) (.placeholder name :: cut)

/-- What takes the place of a stretch: itself, or the literal of the value bound to
exactly this name, or NULL if there is none. -/
inductive Replaced (bindings : Bindings) : Stretch → Text → Prop
  | plain (text : Text) : Replaced bindings (.plain text) text
  | bound {name : Text} {value : Value} (hentry : (name, value) ∈ bindings.entries) :
      Replaced bindings (.placeholder name) value.literal
  | unbound {name : Text} (habsent : name ∉ bindings.names) :
      Replaced bindings (.placeholder name) "NULL"

/-- The placeholder of the name stands somewhere in the template. -/
def Occurs (name template : Text) : Prop :=
  ∃ before after, template = before ++ '$' :: (name ++ after) ∧ name ≠ [] ∧
    (∀ c ∈ name, Text.isWord c = true) ∧ Text.startsWithWord after = false

theorem pieces_plain {c : Char} {rest : Text} (hplain : ¬ (c = '$' ∧ Text.startsWithWord rest)) :
    pieces (c :: rest) = .plain c :: pieces rest := by
  rw [pieces, if_neg hplain]

section Words

variable {name rest : Text} (hword : ∀ c ∈ name, Text.isWord c = true)
variable (hend : Text.startsWithWord rest = false)
include hword hend

theorem wordRun_append : Text.wordRun (name ++ rest) = name := by
  rw [Text.wordRun, List.takeWhile_append_of_pos hword]
  cases rest with
  | nil => exact List.append_nil name
  | cons c later =>
      have hc : Text.isWord c = false := hend
      simp [hc]

theorem afterWordRun_append : Text.afterWordRun (name ++ rest) = rest := by
  have hsplit := Text.wordRun_append_afterWordRun (name ++ rest)
  rw [wordRun_append hword hend] at hsplit
  exact List.append_cancel_left hsplit

theorem pieces_placeholder (hne : name ≠ []) :
    pieces ('$' :: (name ++ rest)) = .placeholder name :: pieces rest := by
  obtain ⟨c, later, rfl⟩ := List.exists_cons_of_ne_nil hne
  have hstart : Text.startsWithWord (c :: later ++ rest) = true := hword c List.mem_cons_self
  rw [pieces, if_pos ⟨rfl, hstart⟩, wordRun_append hword hend, afterWordRun_append hword hend]

end Words

theorem wordRun_ne_nil {text : Text} (hstart : Text.startsWithWord text = true) :
    Text.wordRun text ≠ [] := by
  cases text with
  | nil => cases hstart
  | cons c rest =>
      have hc : Text.isWord c = true := hstart
      simp [Text.wordRun, hc]

/-- The text ends with a dollar sign and a run of word characters, which may be empty. -/
def EndsOpen (text : Text) : Prop :=
  ∃ before run, text = before ++ '$' :: run ∧ ∀ c ∈ run, Text.isWord c = true

/-- A placeholder of the two texts together reaches over the cut between them. -/
def Straddled (first second : Text) : Prop :=
  EndsOpen first ∧ Text.startsWithWord second = true

theorem Straddled.append_left {later second : Text} (hstraddled : Straddled later second)
    (earlier : Text) : Straddled (earlier ++ later) second := by
  obtain ⟨⟨before, run, rfl, hrun⟩, hsecond⟩ := hstraddled
  exact ⟨⟨earlier ++ before, run, (List.append_assoc ..).symm, hrun⟩, hsecond⟩

/-- Two texts are cut apart from each other where no placeholder reaches over. -/
theorem pieces_append_of_not_straddled {first second : Text} (hcut : ¬ Straddled first second) :
    pieces (first ++ second) = pieces first ++ pieces second := by
  fun_induction pieces first with
  | case1 => rfl
  | case2 c rest htoken ih =>
      obtain ⟨rfl, hstart⟩ := htoken
      have hwhole : '$' :: rest ++ second =
          '$' :: (Text.wordRun rest ++ (Text.afterWordRun rest ++ second)) := by
        rw [← List.append_assoc, Text.wordRun_append_afterWordRun, List.cons_append]
      have hend : Text.startsWithWord (Text.afterWordRun rest ++ second) = false := by
        by_cases hafter : Text.afterWordRun rest = []
        · have hrun : Text.wordRun rest = rest := by
            simpa [hafter] using Text.wordRun_append_afterWordRun rest
          rw [hafter, List.nil_append, Bool.eq_false_iff]
          intro hsecond
          refine hcut ⟨⟨[], rest, rfl, fun c hc => ?_⟩, hsecond⟩
          exact Text.isWord_of_mem_wordRun (hrun.symm ▸ hc)
        · rw [Text.startsWithWord_append hafter, Text.startsWithWord_afterWordRun]
      have hlater : ¬ Straddled (Text.afterWordRun rest) second := by
        intro hstraddled
        have hall := hstraddled.append_left ('$' :: Text.wordRun rest)
        rw [List.cons_append, Text.wordRun_append_afterWordRun] at hall
        exact hcut hall
      rw [hwhole, pieces_placeholder (fun _ => Text.isWord_of_mem_wordRun) hend
        (wordRun_ne_nil hstart), ih hlater]
      rfl
  | case3 c rest hplain ih =>
      rw [List.cons_append, pieces_plain, ih fun hstraddled => hcut (hstraddled.append_left [c])]
      · rfl
      · rintro ⟨rfl, hstart⟩
        by_cases hrest : rest = []
        · subst hrest
          exact hcut ⟨⟨[], [], rfl, fun _ hc => absurd hc List.not_mem_nil⟩, hstart⟩
        · rw [Text.startsWithWord_append hrest] at hstart
          exact hplain ⟨rfl, hstart⟩

/-- A text that begins with no word character continues no placeholder. -/
theorem pieces_append {second : Text} (hsecond : Text.startsWithWord second = false)
    (first : Text) : pieces (first ++ second) = pieces first ++ pieces second :=
  pieces_append_of_not_straddled fun hstraddled =>
    absurd hstraddled.2 (Bool.eq_false_iff.1 hsecond)

/-- Cutting a template from left to right misses no placeholder and makes up none. -/
theorem placeholder_mem_pieces_iff {name template : Text} :
    .placeholder name ∈ pieces template ↔ Occurs name template := by
  constructor
  · intro hmem
    fun_induction pieces template with
    | case1 => cases hmem
    | case2 c rest htoken ih =>
        obtain ⟨rfl, hstart⟩ := htoken
        rcases List.mem_cons.1 hmem with hname | hlater
        · obtain rfl := Piece.placeholder.inj hname
          refine ⟨[], Text.afterWordRun rest, ?_, wordRun_ne_nil hstart,
            fun _ => Text.isWord_of_mem_wordRun, Text.startsWithWord_afterWordRun rest⟩
          rw [Text.wordRun_append_afterWordRun, List.nil_append]
        · obtain ⟨before, after, hsplit, hrest⟩ := ih hlater
          refine ⟨'$' :: Text.wordRun rest ++ before, after, ?_, hrest⟩
          rw [List.append_assoc, ← hsplit, List.cons_append, Text.wordRun_append_afterWordRun]
    | case3 c rest hplain ih =>
        rcases List.mem_cons.1 hmem with hname | hlater
        · cases hname
        · obtain ⟨before, after, rfl, hrest⟩ := ih hlater
          exact ⟨c :: before, after, rfl, hrest⟩
  · rintro ⟨before, after, rfl, hne, hword, hend⟩
    rw [pieces_append rfl, pieces_placeholder hword hend hne]
    simp

/-- Pieces with neighbouring plain characters put together. -/
def stretchesOf : List Piece → List Stretch
  | [] => []
  | .placeholder name :: parts => .placeholder name :: stretchesOf parts
  | .plain c :: parts =>
      match stretchesOf parts with
      | .plain text :: cut => .plain (c :: text) :: cut
      | cut => .plain [c] :: cut

def stretches (template : Text) : List Stretch := stretchesOf (pieces template)

/-- Pieces with their plain characters put together are the stretches that the text is
cut into. -/
theorem isCut_stretches (template : Text) : IsCut template (stretches template) := by
  rw [stretches]
  fun_induction pieces template with
  | case1 => exact .nil
  | case2 c rest htoken ih =>
      obtain ⟨rfl, hstart⟩ := htoken
      have hcut := IsCut.placeholder (wordRun_ne_nil hstart)
        (fun _ => Text.isWord_of_mem_wordRun) (Text.startsWithWord_afterWordRun rest) ih
      rw [Text.wordRun_append_afterWordRun] at hcut
      exact hcut
  | case3 c rest hplain ih =>
      rw [stretchesOf]
      split
      · next text cut heq =>
          rw [heq] at ih
          cases ih with
          | @plain _ later _ hne htext hnext hlater =>
              refine IsCut.plain (List.cons_ne_nil c text) ?_ hnext hlater
              rintro (_ | ⟨d, before⟩) after hsplit
              · obtain ⟨rfl, rfl⟩ := List.cons.inj hsplit
                rw [← Text.startsWithWord_append hne later]
                simpa using hplain
              · exact htext before after (List.cons.inj hsplit).2
      · next hother =>
          refine @IsCut.plain [c] rest _ (List.cons_ne_nil c []) ?_ ?_ ih
          · rintro (_ | ⟨d, before⟩) after hsplit
            · rw [← (List.cons.inj hsplit).2]
              rfl
            · simp at hsplit
          · intro other hhead
            obtain ⟨cut, hcut⟩ := List.head?_eq_some_iff.1 hhead
            exact hother other cut hcut

theorem pieces_of_isPlain {text rest : Text} (hplain : IsPlain text)
    (hrest : Text.startsWithWord rest = false) :
    pieces (text ++ rest) = text.map Piece.plain ++ pieces rest := by
  induction text with
  | nil => rfl
  | cons c text ih =>
      have htext : IsPlain text := by
        rintro before after rfl
        exact hplain (c :: before) after rfl
      rw [List.cons_append, pieces_plain, ih htext]
      · rfl
      · rintro ⟨rfl, hstart⟩
        by_cases hne : text = []
        · rw [hne, List.nil_append, hrest] at hstart
          cases hstart
        · rw [Text.startsWithWord_append hne, hplain [] text rfl] at hstart
          cases hstart

theorem stretchesOf_map_plain {text : Text} (hne : text ≠ []) {parts : List Piece}
    (hnext : ∀ other, (stretchesOf parts).head? ≠ some (.plain other)) :
    stretchesOf (text.map Piece.plain ++ parts) = .plain text :: stretchesOf parts := by
  induction text with
  | nil => exact absurd rfl hne
  | cons c text ih =>
      rw [List.map_cons, List.cons_append, stretchesOf]
      by_cases htext : text = []
      · subst htext
        rw [List.map_nil, List.nil_append]
        split
        · next other cut heq => exact absurd (by rw [heq]; rfl) (hnext other)
        · rfl
      · rw [ih htext]

/-- A template is cut in one way only. -/
theorem eq_stretches_of_isCut {template : Text} {cut : List Stretch}
    (hcut : IsCut template cut) : cut = stretches template := by
  rw [stretches]
  induction hcut with
  | nil => rw [pieces, stretchesOf]
  | placeholder hne hword hend _ ih =>
      rw [pieces_placeholder hword hend hne, stretchesOf, ← ih]
  | @plain text rest cut hne hplain hnext hrest ih =>
      have hstart : Text.startsWithWord rest = false := by
        cases hrest with
        | nil => rfl
        | plain => exact absurd rfl (hnext _)
        | placeholder => rfl
      rw [pieces_of_isPlain hplain hstart, stretchesOf_map_plain hne (ih ▸ hnext), ← ih]

/-- Grouping pieces into stretches does not change what takes their place. -/
theorem exists_replaced (bindings : Bindings) (parts : List Piece) :
    ∃ texts, List.Forall₂ (Replaced bindings) (stretchesOf parts) texts ∧
      texts.flatten = parts.flatMap (Piece.text bindings) := by
  induction parts with
  | nil => exact ⟨[], .nil, rfl⟩
  | cons part parts ih =>
      obtain ⟨texts, htexts, hflat⟩ := ih
      cases part with
      | placeholder name =>
          have hname : Replaced bindings (.placeholder name)
              (Piece.text bindings (.placeholder name)) := by
            rw [Piece.text]
            cases hvalue : bindings.get? name with
            | none => exact .unbound (Bindings.get?_eq_none_iff.1 hvalue)
            | some value => exact .bound (Bindings.get?_eq_some_iff.1 hvalue)
          refine ⟨_ :: texts, .cons hname htexts, ?_⟩
          rw [List.flatten_cons, hflat]
          rfl
      | plain c =>
          rw [stretchesOf]
          split
          · next text cut heq =>
              rw [heq] at htexts
              obtain ⟨_, later, htext, hlater, rfl⟩ := List.forall₂_cons_left_iff.1 htexts
              cases htext
              refine ⟨(c :: text) :: later, .cons (.plain _) hlater, ?_⟩
              rw [List.flatMap_cons, ← hflat]
              rfl
          · refine ⟨[c] :: texts, .cons (.plain _) htexts, ?_⟩
            rw [List.flatMap_cons, ← hflat]
            rfl

/-- Only the values of names that occur in the template matter. -/
theorem interpolate_congr {template : Text} {first second : Bindings}
    (hagree : ∀ name, Occurs name template → first.get? name = second.get? name) :
    interpolate template first = interpolate template second := by
  rw [interpolate, interpolate]
  apply List.flatMap_congr
  intro part hpart
  cases part with
  | plain c => rfl
  | placeholder name =>
      rw [Piece.text, Piece.text, hagree name (placeholder_mem_pieces_iff.1 hpart)]

/-- Interpolation cuts the template in the only way there is, and puts every stretch's
replacement in its place, in order; all that the bindings contribute is what they bind
to the names that occur in the template. -/
theorem interpolate_replaces_each_stretch_once (template : Text) (bindings : Bindings) :
    ∃ cut, IsCut template cut ∧ (∀ other, IsCut template other → other = cut) ∧
      (∃ texts, List.Forall₂ (Replaced bindings) cut texts ∧
        interpolate template bindings = texts.flatten) ∧
      ∀ other : Bindings,
        (∀ name, Occurs name template →
          ∀ value, (name, value) ∈ other.entries ↔ (name, value) ∈ bindings.entries) →
        interpolate template other = interpolate template bindings := by
  refine ⟨stretches template, isCut_stretches template, fun _ => eq_stretches_of_isCut, ?_, ?_⟩
  · obtain ⟨texts, htexts, hflat⟩ := exists_replaced bindings (pieces template)
    exact ⟨texts, htexts, hflat.symm⟩
  · intro other hagree
    apply interpolate_congr
    intro name hname
    apply Option.ext
    intro value
    rw [Bindings.get?_eq_some_iff, Bindings.get?_eq_some_iff, hagree name hname]

example : interpolate "$ab $$a" (.ofList [("a", .text "$ab")]) = "NULL $$Q$$ab$Q$" := by
  decide +kernel

end SqlBuilder.Template
