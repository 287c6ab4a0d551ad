import SqlBuilder.Proofs.Text.Joined

/-!
Texts that differ in one part only.  A family of texts in which a part stands at some
places, and which is otherwise the same, stays one when fixed text is put around it; two
of its texts are equal only if the part has the same length in both or stands nowhere.
-/

namespace SqlBuilder.Text

/-- In every text of the family the part stands at `count` places, and what is around these
places is the same in all of them. -/
def StandsAt {α : Type} (count : Nat) (part whole : α → Text) : Prop :=
  ∃ pieces : List Text, pieces.length = count + 1 ∧ ∀ a, whole a = joined (part a) pieces

theorem length_joined_cons (inner first : Text) (rest : List Text) :
    (joined inner (first :: rest)).length =
      (first :: rest).flatten.length + rest.length * inner.length := by
  rw [joined_cons]
  induction rest generalizing first with
  | nil => simp
  | cons second rest ih =>
      have hrest := ih second
      simp only [List.flatMap_cons, List.flatten_cons, List.length_append, List.length_cons,
        Nat.succ_mul] at hrest ⊢
      omega

/-- Where two joined texts meet, a piece of the one and a piece of the other become one. -/
theorem exists_joined_eq_append {first second : List Text} (hfirst : first ≠ [])
    (hsecond : second ≠ []) :
    ∃ pieces : List Text, pieces.length + 1 = first.length + second.length ∧
      ∀ inner, joined inner pieces = joined inner first ++ joined inner second := by
  obtain ⟨next, after, rfl⟩ := List.exists_cons_of_ne_nil hsecond
  obtain ⟨piece, before, rfl⟩ := List.exists_cons_of_ne_nil hfirst
  clear hfirst hsecond
  induction before generalizing piece with
  | nil =>
      refine ⟨(piece ++ next) :: after, by simp only [List.length_cons, List.length_nil]; omega,
        fun inner => ?_⟩
      rw [joined_singleton, joined_cons, joined_cons, List.append_assoc]
  | cons other before ih =>
      obtain ⟨pieces, hlength, hjoined⟩ := ih other
      have hne : pieces ≠ [] := by
        rintro rfl
        simp only [List.length_cons, List.length_nil] at hlength
        omega
      obtain ⟨head, pieces, rfl⟩ := List.exists_cons_of_ne_nil hne
      refine ⟨piece :: head :: pieces, ?_, fun inner => ?_⟩
      · simp only [List.length_cons] at hlength ⊢
        omega
      · simp only [joined_cons_cons, hjoined, List.append_assoc]

namespace StandsAt

variable {α : Type} {part first second middle whole : α → Text} {count m n : Nat}

theorem const (part : α → Text) (text : Text) : StandsAt 0 part fun _ => text :=
  ⟨[text], rfl, fun a => (joined_singleton (part a) text).symm⟩

theorem self (part : α → Text) : StandsAt 1 part part :=
  ⟨[[], []], rfl, fun a => by simp [joined_cons]⟩

theorem append (hfirst : StandsAt m part first) (hsecond : StandsAt n part second) :
    StandsAt (m + n) part fun a => first a ++ second a := by
  obtain ⟨before, hbefore, hfirst⟩ := hfirst
  obtain ⟨after, hafter, hsecond⟩ := hsecond
  obtain ⟨pieces, hlength, hjoined⟩ := exists_joined_eq_append
    (List.ne_nil_of_length_eq_add_one hbefore) (List.ne_nil_of_length_eq_add_one hafter)
  exact ⟨pieces, by omega, fun a => by simp only [hfirst, hsecond, hjoined]⟩

theorem append_left (text : Text) (hwhole : StandsAt count part whole) :
    StandsAt count part fun a => text ++ whole a := by
  have happend := (const part text).append hwhole
  rwa [Nat.zero_add] at happend

theorem append_right (hwhole : StandsAt count part whole) (text : Text) :
    StandsAt count part fun a => whole a ++ text := hwhole.append (const part text)

theorem parenthesized (hwhole : StandsAt count part whole) :
    StandsAt count part fun a => parenthesized (whole a) :=
  (hwhole.append_left "(").append_right ")"

/-- A family of texts with other indices. -/
theorem comp {β : Type} (hwhole : StandsAt count part whole) (index : β → α) :
    StandsAt count (fun b => part (index b)) fun b => whole (index b) := by
  obtain ⟨pieces, hlength, hwhole⟩ := hwhole
  exact ⟨pieces, hlength, fun b => hwhole (index b)⟩

/-- What stands in a part stands in a text in which the part itself stands once. -/
theorem trans (hmiddle : StandsAt count part middle) (hwhole : StandsAt 1 middle whole) :
    StandsAt count part whole := by
  obtain ⟨pieces, hlength, hwhole⟩ := hwhole
  obtain ⟨before, after, rfl⟩ := List.length_eq_two.1 hlength
  simp only [joined_cons_cons, joined_singleton] at hwhole
  obtain rfl : whole = fun a => before ++ middle a ++ after := funext hwhole
  exact (hmiddle.append_left before).append_right after

/-- A list of texts that differs in one item, joined. -/
theorem item (hmiddle : StandsAt count part middle) (separator : Text)
    (before after : List Text) :
    StandsAt count part fun a => joined separator (before ++ middle a :: after) := by
  cases before with
  | nil =>
      simp only [List.nil_append, joined_cons]
      exact hmiddle.append_right _
  | cons text before =>
      simp only [List.cons_append, joined_cons, List.flatMap_append, List.flatMap_cons]
      exact ((((hmiddle.append_left separator).append_right _).append_left _).append_left _)

/-- Parts of different lengths give the same text exactly if they stand nowhere in it. -/
theorem eq_iff (hwhole : StandsAt count part whole) {a b : α}
    (hlength : (part a).length ≠ (part b).length) : whole a = whole b ↔ count = 0 := by
  obtain ⟨pieces, hcount, hwhole⟩ := hwhole
  obtain ⟨piece, pieces, rfl⟩ := List.exists_cons_of_length_eq_add_one hcount
  obtain rfl : pieces.length = count := by simpa using hcount
  rw [hwhole, hwhole]
  constructor
  · intro hsame
    have hlengths := congrArg List.length hsame
    rw [length_joined_cons, length_joined_cons, Nat.add_left_cancel_iff] at hlengths
    refine Nat.eq_zero_of_not_pos fun hpos => hlength ?_
    exact Nat.eq_of_mul_eq_mul_left hpos hlengths
  · intro hnone
    rw [List.length_eq_zero_iff.1 hnone, joined_singleton, joined_singleton]

end StandsAt

end SqlBuilder.Text
