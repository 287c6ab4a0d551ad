import Mathlib.Data.List.Forall2
import SqlBuilder.Proofs.Quoting.Tag
import SqlBuilder.Proofs.Text.Joined

/-!
Skeletons of SQL texts: fixed text with places for payloads.  Two runs over
different data give parallel texts when one skeleton, filled with the data of
either run, gives the text of that run.
-/

namespace SqlBuilder

/-- A part of a skeleton: a fixed text, or the place of a payload. -/
inductive Part (ι : Type) where
  | fixed (text : Text)
  | payload (place : ι)

/-- A text with the contents of its payloads left open. -/
abbrev Skeleton (ι : Type) := List (Part ι)

namespace Skeleton

variable {ι : Type}

/-- A part with its payload between two plain tags. -/
def fillPart (contents : ι → Text) : Part ι → Text
  | .fixed text => text
  | .payload place => DollarQuoted.plainTag ++ contents place ++ DollarQuoted.plainTag

def fill (contents : ι → Text) (skeleton : Skeleton ι) : Text :=
  skeleton.flatMap (fillPart contents)

theorem fill_append (contents : ι → Text) (first second : Skeleton ι) :
    fill contents (first ++ second) = fill contents first ++ fill contents second :=
  List.flatMap_append

/-- A payload is never empty with its tags around it, so that the skeleton alone decides
whether a text is empty. -/
theorem isEmpty_fill (first second : ι → Text) (skeleton : Skeleton ι) :
    (fill first skeleton).isEmpty = (fill second skeleton).isEmpty := by
  induction skeleton with
  | nil => rfl
  | cons part rest ih =>
      cases part with
      | payload place => rfl
      | fixed text =>
          cases text with
          | nil => exact ih
          | cons c text => rfl

end Skeleton

/-- The data of two runs: the content of every place in either run, without dollar signs. -/
structure Runs (ι : Type) where
  first : ι → Text
  second : ι → Text
  first_free : ∀ place, '$' ∉ first place
  second_free : ∀ place, '$' ∉ second place

namespace Runs

variable {ι : Type} (runs : Runs ι)

/-- The texts of the two runs have a skeleton in common. -/
def Parallel (first second : Text) : Prop :=
  ∃ skeleton : Skeleton ι,
    first = skeleton.fill runs.first ∧ second = skeleton.fill runs.second

variable {runs}

theorem parallel_refl (text : Text) : runs.Parallel text text :=
  ⟨[.fixed text], by simp [Skeleton.fill, Skeleton.fillPart],
    by simp [Skeleton.fill, Skeleton.fillPart]⟩

theorem Parallel.append {first first' second second' : Text} (hfirst : runs.Parallel first first')
    (hsecond : runs.Parallel second second') :
    runs.Parallel (first ++ second) (first' ++ second') := by
  obtain ⟨skeleton, rfl, rfl⟩ := hfirst
  obtain ⟨rest, rfl, rfl⟩ := hsecond
  exact ⟨skeleton ++ rest, (Skeleton.fill_append _ _ _).symm, (Skeleton.fill_append _ _ _).symm⟩

theorem Parallel.isEmpty_eq {first second : Text} (hparallel : runs.Parallel first second) :
    first.isEmpty = second.isEmpty := by
  obtain ⟨skeleton, rfl, rfl⟩ := hparallel
  exact Skeleton.isEmpty_fill runs.first runs.second skeleton

theorem Parallel.parenthesized {first second : Text} (hparallel : runs.Parallel first second) :
    runs.Parallel (Text.parenthesized first) (Text.parenthesized second) :=
  ((parallel_refl "(").append hparallel).append (parallel_refl ")")

theorem quote_of_dollar_not_mem {payload : Text} (hfree : '$' ∉ payload) :
    DollarQuoted.quote payload = DollarQuoted.plainTag ++ payload ++ DollarQuoted.plainTag := by
  have hplain : Text.contains DollarQuoted.plainTag payload = false := by
    rw [Text.not_contains_iff]
    exact fun hinside => hfree (hinside.subset (by decide : '$' ∈ DollarQuoted.plainTag))
  rw [DollarQuoted.quote, DollarQuoted.tag, if_neg (by rw [hplain]; decide)]

/-- Data without a dollar sign is quoted with the plain tag in both runs. -/
theorem parallel_quote (place : ι) :
    runs.Parallel (DollarQuoted.quote (runs.first place))
      (DollarQuoted.quote (runs.second place)) := by
  rw [quote_of_dollar_not_mem (runs.first_free place),
    quote_of_dollar_not_mem (runs.second_free place)]
  exact ⟨[.payload place], by simp [Skeleton.fill, Skeleton.fillPart],
    by simp [Skeleton.fill, Skeleton.fillPart]⟩

abbrev ParallelList (runs : Runs ι) (first second : List Text) : Prop :=
  List.Forall₂ runs.Parallel first second

theorem parallelList_refl (texts : List Text) : ParallelList runs texts texts :=
  List.forall₂_same.2 fun text _ => parallel_refl text

theorem parallel_flatMap {α : Type} {β : Type} {related : α → β → Prop} {first : α → Text}
    {second : β → Text} {items : List α} {others : List β}
    (hitems : List.Forall₂ related items others)
    (htexts : ∀ a b, related a b → runs.Parallel (first a) (second b)) :
    runs.Parallel (items.flatMap first) (others.flatMap second) := by
  induction hitems with
  | nil => exact parallel_refl []
  | cons hhead _ ih => exact (htexts _ _ hhead).append ih

theorem ParallelList.joined {first second : List Text} (hitems : ParallelList runs first second)
    (separator : Text) :
    runs.Parallel (Text.joined separator first) (Text.joined separator second) := by
  cases hitems with
  | nil => exact parallel_refl []
  | cons hhead htail =>
      rw [Text.joined_cons, Text.joined_cons]
      exact hhead.append (parallel_flatMap htail fun _ _ h => (parallel_refl separator).append h)

end Runs

end SqlBuilder
