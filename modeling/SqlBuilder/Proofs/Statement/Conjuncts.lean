import Mathlib.Data.List.Infix
import SqlBuilder.Proofs.Draft.Entries
import SqlBuilder.Proofs.Text.Search

/-!
Conjunctions of conditions, read back by matching parentheses.  Every condition stands in
parentheses of its own, so a reader that counts the parentheses finds the end of each
balanced condition whatever stands in it, and stops where no further condition begins.
It reads exactly the conjunctions of balanced conditions.
-/

namespace SqlBuilder

namespace Text

/-- The text closes `depth` parentheses besides all those that it opens, and no prefix of
it closes more than that. -/
structure ClosesAt (depth : Nat) (text : Text) : Prop where
  prefixes : ∀ before, before <+: text → before.count ')' ≤ depth + before.count '('
  totals : text.count ')' = depth + text.count '('

/-- No prefix of the text closes more parentheses than it opens, and the whole text closes
as many as it opens. -/
structure Balanced (text : Text) : Prop where
  prefixes : ∀ before, before <+: text → before.count ')' ≤ before.count '('
  totals : text.count ')' = text.count '('

def depthAfter (depth : Nat) (c : Char) : Nat :=
  if c = '(' then depth + 1 else if c = ')' then depth - 1 else depth

/-- Reads up to the parenthesis that closes the one before the text, when `depth` more
have been opened since. -/
def enclosedAt? (depth : Nat) : Text → Option (Text × Text)
  | [] => none
  | c :: rest =>
      if c = ')' ∧ depth = 0 then some ([], rest)
      else (enclosedAt? (depthAfter depth c) rest).map fun read => (c :: read.1, read.2)

theorem balanced_iff_closesAt {text : Text} : Balanced text ↔ ClosesAt 0 text := by
  constructor
  · rintro ⟨hprefixes, htotals⟩
    exact ⟨by simpa using hprefixes, by simpa using htotals⟩
  · rintro ⟨hprefixes, htotals⟩
    exact ⟨by simpa using hprefixes, by simpa using htotals⟩

instance (text : Text) : Decidable (Balanced text) :=
  decidable_of_iff ((∀ before ∈ text.inits, before.count ')' ≤ before.count '(') ∧
      text.count ')' = text.count '(') <| by
    simp only [List.mem_inits]
    exact ⟨fun h => ⟨h.1, h.2⟩, fun h => ⟨h.1, h.2⟩⟩

theorem closesAt_nil_iff {depth : Nat} : ClosesAt depth [] ↔ depth = 0 := by
  constructor
  · intro hcloses
    have htotals := hcloses.totals
    simp at htotals
    omega
  · rintro rfl
    exact ⟨by simp, rfl⟩

/-- What a character opens or closes is counted in the depth after it.  Both sides are sums
because the depth is a natural number. -/
theorem count_cons_depthAfter {depth : Nat} {c : Char} (hopen : ¬ (c = ')' ∧ depth = 0))
    (rest : Text) :
    (c :: rest).count ')' + (depthAfter depth c + rest.count '(') =
      rest.count ')' + (depth + (c :: rest).count '(') := by
  by_cases hleft : c = '('
  · subst hleft
    simp [depthAfter]
    omega
  · by_cases hright : c = ')'
    · subst hright
      simp [depthAfter] at hopen ⊢
      omega
    · simp [depthAfter, hleft, hright]

theorem closesAt_cons_iff {depth : Nat} {c : Char} {rest : Text} :
    ClosesAt depth (c :: rest) ↔
      ¬ (c = ')' ∧ depth = 0) ∧ ClosesAt (depthAfter depth c) rest := by
  constructor
  · intro hcloses
    have hopen : ¬ (c = ')' ∧ depth = 0) := by
      rintro ⟨rfl, rfl⟩
      have hfirst := hcloses.prefixes [')'] (List.prefix_append [')'] rest)
      simp at hfirst
    refine ⟨hopen, fun before hbefore => ?_, ?_⟩
    · have hlonger := hcloses.prefixes (c :: before) ((List.prefix_cons_inj c).2 hbefore)
      have hcount := count_cons_depthAfter hopen before
      omega
    · have htotals := hcloses.totals
      have hcount := count_cons_depthAfter hopen rest
      omega
  · rintro ⟨hopen, hcloses⟩
    refine ⟨fun before hbefore => ?_, ?_⟩
    · rcases List.prefix_cons_iff.1 hbefore with rfl | ⟨shorter, rfl, hshorter⟩
      · simp
      · have hprefix := hcloses.prefixes shorter hshorter
        have hcount := count_cons_depthAfter hopen shorter
        omega
    · have htotals := hcloses.totals
      have hcount := count_cons_depthAfter hopen rest
      omega

/-- A text that closes what is open is read up to the parenthesis after it. -/
theorem enclosedAt?_append {depth : Nat} {inner : Text} (hcloses : ClosesAt depth inner)
    (rest : Text) : enclosedAt? depth (inner ++ ')' :: rest) = some (inner, rest) := by
  induction inner generalizing depth with
  | nil => rw [List.nil_append, enclosedAt?, if_pos ⟨rfl, closesAt_nil_iff.1 hcloses⟩]
  | cons c inner ih =>
      obtain ⟨hopen, hlater⟩ := closesAt_cons_iff.1 hcloses
      rw [List.cons_append, enclosedAt?, if_neg hopen, ih hlater]
      rfl

/-- What is read before a closing parenthesis closes all the parentheses that are
open inside. -/
theorem eq_append_of_enclosedAt? {depth : Nat} {text inner rest : Text}
    (hread : enclosedAt? depth text = some (inner, rest)) :
    text = inner ++ ')' :: rest ∧ ClosesAt depth inner := by
  induction text generalizing depth inner with
  | nil => simp [enclosedAt?] at hread
  | cons c text ih =>
      by_cases hend : c = ')' ∧ depth = 0
      · rw [enclosedAt?, if_pos hend, Option.some.injEq, Prod.mk.injEq] at hread
        obtain ⟨rfl, rfl⟩ := hread
        exact ⟨by rw [hend.1, List.nil_append], closesAt_nil_iff.2 hend.2⟩
      · rw [enclosedAt?, if_neg hend, Option.map_eq_some_iff] at hread
        obtain ⟨⟨later, _⟩, hlater, hparts⟩ := hread
        obtain ⟨rfl, rfl⟩ := Prod.mk.inj hparts
        obtain ⟨rfl, hcloses⟩ := ih hlater
        exact ⟨rfl, closesAt_cons_iff.2 ⟨hend, hcloses⟩⟩

theorem length_lt_of_enclosedAt? {depth : Nat} {text inner rest : Text}
    (hread : enclosedAt? depth text = some (inner, rest)) : rest.length < text.length := by
  rw [(eq_append_of_enclosedAt? hread).1, List.length_append, List.length_cons]
  omega

/-- Reads conditions up to their closing parentheses, as long as ` AND (` follows. -/
def conjuncts? (text : Text) : Option (List Text × Text) :=
  match _ : enclosedAt? 0 text with
  | none => none
  | some (condition, rest) =>
      match _ : after? " AND (" rest with
      | none => some ([condition], rest)
      | some later => (conjuncts? later).map fun read => (condition :: read.1, read.2)
termination_by text.length
decreasing_by
  have hshorter := length_lt_of_enclosedAt? (by assumption)
  have hlater := congrArg List.length (eq_append_of_after? (by assumption))
  simp only [List.length_append] at hlater
  omega

theorem after?_eq_none_iff {beginning text : Text} :
    after? beginning text = none ↔ ¬ beginning <+: text := by
  simp [after?, List.isPrefixOf_iff_prefix]

theorem conjuncts?_last {text condition rest : Text}
    (hread : enclosedAt? 0 text = some (condition, rest))
    (hend : ¬ " AND (".toList <+: rest) : conjuncts? text = some ([condition], rest) := by
  rw [conjuncts?]
  split
  · next hnone => simp [hread] at hnone
  · next found later hfound =>
      obtain ⟨rfl, rfl⟩ := Prod.mk.inj (Option.some.inj (hread.symm.trans hfound))
      split
      · rfl
      · next hsome =>
          rw [after?_eq_none_iff.2 hend] at hsome
          cases hsome

theorem conjuncts?_more {text condition later : Text}
    (hread : enclosedAt? 0 text = some (condition, " AND (" ++ later)) :
    conjuncts? text = (conjuncts? later).map fun read => (condition :: read.1, read.2) := by
  rw [conjuncts?]
  split
  · next hnone => simp [hread] at hnone
  · next found following hfound =>
      obtain ⟨rfl, rfl⟩ := Prod.mk.inj (Option.some.inj (hread.symm.trans hfound))
      split
      · next hnone =>
          rw [after?_append] at hnone
          cases hnone
      · next hsome =>
          rw [after?_append, Option.some.injEq] at hsome
          rw [hsome]

/-- The conditions after the first one, as they stand behind its closing parenthesis. -/
def furtherConditions (others : List Text) : Text :=
  others.flatMap fun next => " AND (" ++ next ++ ")"

/-- Balanced conditions are read back one by one, up to where no further one begins. -/
theorem conjuncts?_append {first rest : Text} {others : List Text}
    (hbalanced : ∀ condition ∈ first :: others, Balanced condition)
    (hend : ¬ " AND (".toList <+: rest) :
    conjuncts? (first ++ ")" ++ furtherConditions others ++ rest) =
      some (first :: others, rest) := by
  induction others generalizing first with
  | nil =>
      have hcloses := balanced_iff_closesAt.1 (hbalanced first List.mem_cons_self)
      apply conjuncts?_last _ hend
      simpa [furtherConditions] using enclosedAt?_append hcloses rest
  | cons second others ih =>
      have hcloses := balanced_iff_closesAt.1 (hbalanced first List.mem_cons_self)
      have hothers := ih fun condition hmem => hbalanced condition (List.mem_cons_of_mem first hmem)
      have hwhole : first ++ ")" ++ furtherConditions (second :: others) ++ rest =
          first ++ ')' :: (" AND (" ++ (second ++ ")" ++ furtherConditions others ++ rest)) := by
        simp [furtherConditions]
      -- Balance alone decides where the first condition ends, whatever stands in the others.
      rw [hwhole, conjuncts?_more (enclosedAt?_append hcloses _), hothers]
      rfl

/-- Whatever is read as conditions consists of balanced ones, and no further one begins
behind them. -/
theorem eq_append_of_conjuncts? {text rest : Text} {conditions : List Text}
    (hread : conjuncts? text = some (conditions, rest)) :
    ∃ first others, conditions = first :: others ∧
      text = first ++ ")" ++ furtherConditions others ++ rest ∧
      (∀ condition ∈ conditions, Balanced condition) ∧ ¬ " AND (".toList <+: rest := by
  fun_induction conjuncts? text generalizing conditions with
  | case1 => cases hread
  | case2 text condition after henclosed hend =>
      obtain ⟨rfl, rfl⟩ := Prod.mk.inj (Option.some.inj hread)
      obtain ⟨rfl, hcloses⟩ := eq_append_of_enclosedAt? henclosed
      refine ⟨condition, [], rfl, by simp [furtherConditions], ?_, after?_eq_none_iff.1 hend⟩
      simpa using balanced_iff_closesAt.2 hcloses
  | case3 text condition after henclosed later hlater ih =>
      obtain ⟨⟨others, _⟩, hothers, hparts⟩ := Option.map_eq_some_iff.1 hread
      obtain ⟨rfl, rfl⟩ := Prod.mk.inj hparts
      obtain ⟨rfl, hcloses⟩ := eq_append_of_enclosedAt? henclosed
      obtain rfl := eq_append_of_after? hlater
      obtain ⟨second, more, rfl, rfl, hbalanced, hend⟩ := ih hothers
      refine ⟨condition, second :: more, rfl, by simp [furtherConditions], ?_, hend⟩
      rw [List.forall_mem_cons]
      exact ⟨balanced_iff_closesAt.2 hcloses, hbalanced⟩

end Text

namespace Statement

open Text

/-- Reads a clause of conditions after its keyword. -/
def readConjunction? (keyword text : Text) : Option (List Text × Text) :=
  (after? (" " ++ keyword ++ " (") text).bind conjuncts?

theorem conjunction_cons (keyword first : Text) (others : List Text) :
    conjunction keyword (first :: others) =
      " " ++ keyword ++ " (" ++ (first ++ ")" ++ furtherConditions others) := by
  simp [conjunction_eq, shownConditions, furtherConditions]

/-- Exactly the conjunctions of balanced conditions are read, and only as themselves. -/
theorem readConjunction?_eq_some_iff {keyword text rest : Text} {conditions : List Text} :
    readConjunction? keyword text = some (conditions, rest) ↔
      text = conjunction keyword conditions ++ rest ∧ conditions ≠ [] ∧
        (∀ condition ∈ conditions, Balanced condition) ∧ ¬ " AND (".toList <+: rest := by
  rw [readConjunction?, Option.bind_eq_some_iff]
  constructor
  · rintro ⟨later, hafter, hread⟩
    obtain ⟨first, others, rfl, rfl, hbalanced, hend⟩ := eq_append_of_conjuncts? hread
    refine ⟨?_, List.cons_ne_nil first others, hbalanced, hend⟩
    rw [eq_append_of_after? hafter, conjunction_cons]
    simp only [List.append_assoc]
  · rintro ⟨rfl, hne, hbalanced, hend⟩
    obtain ⟨first, others, rfl⟩ := List.exists_cons_of_ne_nil hne
    refine ⟨_, ?_, conjuncts?_append hbalanced hend⟩
    rw [conjunction_cons, List.append_assoc _ _ rest, after?_append]

/-- No further condition begins with the text, unless one begins right after it. -/
def BeginsApart (text : Text) : Prop :=
  ∀ rest, ¬ " AND (".toList <+: rest → ¬ " AND (".toList <+: text ++ rest

theorem beginsApart_nil : BeginsApart [] := fun _ hrest => hrest

theorem BeginsApart.append {first second : Text} (hfirst : BeginsApart first)
    (hsecond : BeginsApart second) : BeginsApart (first ++ second) := by
  intro rest hrest
  rw [List.append_assoc]
  exact hfirst _ (hsecond rest hrest)

section Clauses

variable (keyword : Text) (hkeyword : keyword.headD 'A' ≠ 'A')
include hkeyword

theorem beginsApart_keyword (later : Text) : BeginsApart (" " ++ keyword ++ later) := by
  intro rest _ hbegins
  cases keyword with
  | nil => exact hkeyword rfl
  | cons c word =>
      have hfirst : 'A' = c := by
        have hsecond := (List.cons_prefix_cons.1 hbegins).2
        exact (List.cons_prefix_cons.1 hsecond).1
      exact hkeyword hfirst.symm

theorem beginsApart_listClause (items : List Text) : BeginsApart (listClause keyword items) := by
  by_cases hitems : items.isEmpty = true
  · rw [listClause, if_pos hitems]
    exact beginsApart_nil
  · rw [listClause, if_neg hitems, List.append_assoc]
    exact beginsApart_keyword keyword hkeyword _

theorem beginsApart_optionalClause (content : Option Text) :
    BeginsApart (optionalClause keyword content) := by
  cases content with
  | none => exact beginsApart_nil
  | some text =>
      rw [optionalClause, List.append_assoc]
      exact beginsApart_keyword keyword hkeyword _

theorem beginsApart_conjunction (conditions : List Text) :
    BeginsApart (conjunction keyword conditions) := by
  by_cases hconditions : conditions.isEmpty = true
  · rw [conjunction, if_pos hconditions]
    exact beginsApart_nil
  · rw [conjunction, if_neg hconditions, List.append_assoc]
    exact beginsApart_keyword keyword hkeyword _

end Clauses

/-- The conditions stand in the text behind the keyword, and no further condition after them. -/
def Shows (keyword : Text) (conditions : List Text) (text : Text) : Prop :=
  ∃ before after, text = before ++ conjunction keyword conditions ++ after ∧ BeginsApart after

namespace Shows

variable {keyword text : Text} {conditions : List Text}

theorem conjunction (keyword : Text) (conditions : List Text) :
    Shows keyword conditions (conjunction keyword conditions) :=
  ⟨[], [], by simp, beginsApart_nil⟩

theorem append_left (hshows : Shows keyword conditions text) (first : Text) :
    Shows keyword conditions (first ++ text) := by
  obtain ⟨before, after, rfl, hafter⟩ := hshows
  exact ⟨first ++ before, after, by simp only [List.append_assoc], hafter⟩

theorem append_right (hshows : Shows keyword conditions text) {last : Text}
    (hlast : BeginsApart last) : Shows keyword conditions (text ++ last) := by
  obtain ⟨before, after, rfl, hafter⟩ := hshows
  exact ⟨before, after ++ last, by simp only [List.append_assoc], hafter.append hlast⟩

end Shows

variable (s : Statement)

/-- A SELECT shows its conditions among its other clauses. -/
theorem selectBody_shows :
    Shows "WHERE" s.conditions s.selectBody ∧ Shows "HAVING" s.having s.selectBody := by
  have hgroupBy := beginsApart_listClause "GROUP BY" (by decide) s.groupBy
  have hhaving := beginsApart_conjunction "HAVING" (by decide) s.having
  have horderBy := beginsApart_listClause "ORDER BY" (by decide)
    (s.orderBy.map SortKey.text)
  have hlimit := beginsApart_optionalClause "LIMIT" (by decide)
    (s.limit.map fun n => Text.ofInt n.toInt)
  have hoffset := beginsApart_optionalClause "OFFSET" (by decide)
    (s.offset.map fun n => Text.ofInt n.toInt)
  let first := "SELECT" ++ enclosedClause "DISTINCT ON " s.distinctOn ++ " " ++ s.columnsText ++
    optionalClause "FROM" s.source ++ s.joins.flatMap (joinClause "JOIN") ++
    s.leftJoins.flatMap (joinClause "LEFT JOIN")
  have hwhere := Shows.append_left (.conjunction "WHERE" s.conditions) first
  have hgroups := Shows.append_left (.conjunction "HAVING" s.having)
    (first ++ Statement.conjunction "WHERE" s.conditions ++ listClause "GROUP BY" s.groupBy)
  constructor
  · exact ((((hwhere.append_right hgroupBy).append_right hhaving).append_right
      horderBy).append_right hlimit).append_right hoffset
  · exact ((hgroups.append_right horderBy).append_right hlimit).append_right hoffset

variable {s} {keyword : Text} {conditions : List Text}

theorem Shows.named (hbody : Shows keyword conditions s.selectBody) (name : Text) :
    Shows keyword conditions (parenthesized s.selectBody ++ " AS " ++ name) := by
  have hclosing : BeginsApart ")" := by
    intro rest _ hbegins
    simp [List.cons_prefix_cons] at hbegins
  have halias : BeginsApart (" AS " ++ name) := by
    intro rest _ hbegins
    simp [List.cons_prefix_cons] at hbegins
  rw [List.append_assoc]
  exact ((hbody.append_left "(").append_right hclosing).append_right halias

/-- Neither EXPLAIN nor an alias comes between conditions. -/
theorem Shows.selectText (hbody : Shows keyword conditions s.selectBody) :
    Shows keyword conditions s.selectText := by
  cases hname : s.aliasName with
  | none =>
      simp only [Statement.selectText, hname]
      split
      · exact hbody.append_left "EXPLAIN "
      · exact hbody
  | some name =>
      simp only [Statement.selectText, hname]
      split
      · exact (hbody.named name).append_left "EXPLAIN "
      · exact hbody.named name

theorem Shows.insertText (hbody : Shows keyword conditions s.selectBody)
    (hcolumns : s.columns.isSome) : Shows keyword conditions s.insertText := by
  have hreturning := beginsApart_listClause "RETURNING" (by decide) s.returning
  have hinserted : Shows keyword conditions s.insertedText := by
    rw [insertedText, if_pos hcolumns]
    exact hbody.append_left " "
  exact (hinserted.append_left _).append_right hreturning

/-- Every statement but an INSERT of rows shows its conditions of WHERE. -/
theorem sql_shows_conditions (hselects : s.kind = .insert → s.columns.isSome) :
    Shows "WHERE" s.conditions s.sql := by
  have hbody := s.selectBody_shows.1
  have hclause := Shows.conjunction "WHERE" s.conditions
  have hreturning := beginsApart_listClause "RETURNING" (by decide) s.returning
  rw [sql]
  cases hkind : s.kind with
  | select => exact hbody.selectText
  | insert => exact hbody.insertText (hselects hkind)
  | delete => exact (hclause.append_left _).append_right hreturning
  | update => exact (hclause.append_left _).append_right hreturning

/-- Every statement that selects shows its conditions of HAVING. -/
theorem sql_shows_having (hselects : s.kind = .select ∨ (s.kind = .insert ∧ s.columns.isSome)) :
    Shows "HAVING" s.having s.sql := by
  have hbody := s.selectBody_shows.2
  rw [sql]
  rcases hselects with hkind | ⟨hkind, hcolumns⟩
  · rw [hkind]
    exact hbody.selectText
  · rw [hkind]
    exact hbody.insertText hcolumns

/-- The conditions are read back at the place where the text shows them. -/
theorem readConjunction?_of_shows {text : Text} (hne : conditions ≠ [])
    (hbalanced : ∀ condition ∈ conditions, Balanced condition)
    (hshows : Shows keyword conditions text) :
    ∃ before after, text = before ++ (conjunction keyword conditions ++ after) ∧
      readConjunction? keyword (conjunction keyword conditions ++ after) =
        some (conditions, after) := by
  obtain ⟨before, after, rfl, hafter⟩ := hshows
  have hend : ¬ " AND (".toList <+: after := by
    simpa using hafter [] (by simp)
  exact ⟨before, after, List.append_assoc _ _ _,
    readConjunction?_eq_some_iff.2 ⟨rfl, hne, hbalanced, hend⟩⟩

theorem conjunction_eq_nil_iff : conjunction keyword conditions = [] ↔ conditions = [] := by
  constructor
  · intro hnil
    by_contra hne
    obtain ⟨first, others, rfl⟩ := List.exists_cons_of_ne_nil hne
    simp [conjunction_cons] at hnil
  · rintro rfl
    rfl

theorem readConjunction?_conjunction (keyword : Text) (hne : conditions ≠ [])
    (hbalanced : ∀ condition ∈ conditions, Balanced condition) :
    readConjunction? keyword (conjunction keyword conditions) = some (conditions, []) :=
  readConjunction?_eq_some_iff.2
    ⟨(List.append_nil (conjunction keyword conditions)).symm, hne, hbalanced, by simp⟩

/-- Different lists of balanced conditions are different texts. -/
theorem eq_of_conjunction_eq {others : List Text}
    (hbalanced : ∀ condition ∈ conditions, Balanced condition)
    (hothers : ∀ condition ∈ others, Balanced condition)
    (hsame : conjunction keyword others = conjunction keyword conditions) :
    others = conditions := by
  by_cases hnil : conditions = []
  · rw [hnil, conjunction_eq_nil_iff.2 rfl] at hsame
    rw [hnil, conjunction_eq_nil_iff.1 hsame]
  · have hne : others ≠ [] := by
      rintro rfl
      exact hnil (conjunction_eq_nil_iff.1 (hsame.symm.trans (conjunction_eq_nil_iff.2 rfl)))
    have hread := readConjunction?_conjunction keyword hne hothers
    rw [hsame, readConjunction?_conjunction keyword hnil hbalanced] at hread
    exact (Prod.mk.inj (Option.some.inj hread)).1.symm

/-- Conditions stay separate conjuncts.  If each of them is balanced, a reader that
matches parentheses gets exactly the list back from the clause and stops exactly where
something other than a further condition follows; so it does in the text of every
statement that shows the clause.  Another list makes up another clause. -/
theorem conditions_stay_separate_conjuncts (hne : conditions ≠ [])
    (hbalanced : ∀ condition ∈ conditions, Balanced condition) :
    (∀ keyword rest, ¬ " AND (".toList <+: rest →
      readConjunction? keyword (conjunction keyword conditions ++ rest) =
        some (conditions, rest)) ∧
    (∀ keyword others, (∀ condition ∈ others, Balanced condition) →
      conjunction keyword others = conjunction keyword conditions → others = conditions) ∧
    (∀ s : Statement, s.conditions = conditions → (s.kind = .insert → s.columns.isSome) →
      ∃ before after, s.sql = before ++ (conjunction "WHERE" conditions ++ after) ∧
        readConjunction? "WHERE" (conjunction "WHERE" conditions ++ after) =
          some (conditions, after)) ∧
    ∀ s : Statement, s.having = conditions →
      (s.kind = .select ∨ (s.kind = .insert ∧ s.columns.isSome)) →
      ∃ before after, s.sql = before ++ (conjunction "HAVING" conditions ++ after) ∧
        readConjunction? "HAVING" (conjunction "HAVING" conditions ++ after) =
          some (conditions, after) := by
  refine ⟨?_, ?_, ?_, ?_⟩
  · intro keyword rest hend
    exact readConjunction?_eq_some_iff.2 ⟨rfl, hne, hbalanced, hend⟩
  · intro keyword others hothers
    exact eq_of_conjunction_eq hbalanced hothers
  · rintro s rfl hselects
    exact readConjunction?_of_shows hne hbalanced (sql_shows_conditions hselects)
  · rintro s rfl hselects
    exact readConjunction?_of_shows hne hbalanced (sql_shows_having hselects)

/-- A condition that looks like the end of one and the beginning of another, next to a
disjunction, and a text after them that begins no condition. -/
theorem lookalike_conditions_are_read_back :
    (∀ condition ∈ ["(a) AND (b)".toList, "c OR f(d)".toList], Balanced condition) ∧
      readConjunction? "WHERE" " WHERE ((a) AND (b)) AND (c OR f(d)) AND e" =
        some (["(a) AND (b)".toList, "c OR f(d)".toList], " AND e".toList) := by
  have hbalanced : ∀ condition ∈ ["(a) AND (b)".toList, "c OR f(d)".toList],
      Balanced condition := by decide
  have htext : conjunction "WHERE" ["(a) AND (b)".toList, "c OR f(d)".toList] ++ " AND e" =
      " WHERE ((a) AND (b)) AND (c OR f(d)) AND e" := by decide
  have hread := (conditions_stay_separate_conjuncts (List.cons_ne_nil _ _) hbalanced).1
    "WHERE" " AND e" (by decide)
  refine ⟨hbalanced, ?_⟩
  rw [← htext]
  exact hread

end Statement

end SqlBuilder
