import Mathlib.Data.List.Induction
import SqlBuilder.Proofs.Draft.Effect
import SqlBuilder.Proofs.Text.Joined

/-!
The four lists of a draft: the conditions of WHERE, those of HAVING, the joins and the
left joins.  For each of them some calls replace what it holds and some add to it, and all
other calls leave it alone.  A list therefore holds what was given by the last call that
replaces it and by the calls after that, in order, and all of it is rendered.
-/

namespace SqlBuilder

/-- The items from the last one of the sort on, or all of them if none is of the sort. -/
def fromLast {α : Type} (sort : α → Bool) : List α → List α
  | [] => []
  | item :: rest => if rest.any sort then fromLast sort rest else item :: rest

section

variable {α : Type} (sort : α → Bool) {item : α}

theorem fromLast_concat_of_pos (hitem : sort item = true) (items : List α) :
    fromLast sort (items ++ [item]) = [item] := by
  induction items with
  | nil => rfl
  | cons first rest ih => rw [List.cons_append, fromLast, if_pos (by simp [hitem]), ih]

theorem fromLast_concat_of_neg (hitem : sort item = false) (items : List α) :
    fromLast sort (items ++ [item]) = fromLast sort items ++ [item] := by
  induction items with
  | nil => rfl
  | cons first rest ih =>
      rw [List.cons_append, fromLast, fromLast, ih]
      simp only [List.any_append, List.any_cons, List.any_nil, hitem, Bool.or_false]
      split <;> rfl

end

theorem Condition.texts_append (first second : List Condition) :
    texts (first ++ second) = texts first ++ texts second := by
  rw [texts, List.map_append, List.filter_append, ← texts, ← texts]

namespace Draft

/-- What a call does to a list of clauses. -/
inductive Edit (α : Type) where
  | leave
  | replace (items : List α)
  | append (items : List α)

namespace Edit

variable {α β : Type}

def items : Edit α → List α
  | leave => []
  | replace items => items
  | append items => items

def replaces : Edit α → Bool
  | replace _ => true
  | _ => false

def applied (render : List α → List β) (current : List β) : Edit α → List β
  | leave => current
  | replace items => render items
  | append items => current ++ render items

end Edit

namespace Step

def conditionsEdit : Step → Edit Condition
  | filter conditions => .replace conditions
  | filterAlso conditions => .append conditions
  | _ => .leave

def havingEdit : Step → Edit Condition
  | having conditions => .replace conditions
  | havingAlso conditions => .append conditions
  | _ => .leave

def joinsEdit : Step → Edit Join
  | join joins => .replace joins
  | joinAlso joins => .append joins
  | _ => .leave

def leftJoinsEdit : Step → Edit Join
  | leftJoin joins => .replace joins
  | leftJoinAlso joins => .append joins
  | _ => .leave

/-- A call does to the four lists what it says, and nothing else. -/
theorem lists_revised (step : Step) (s : Statement) :
    (step.revised s).conditions = step.conditionsEdit.applied Condition.texts s.conditions ∧
    (step.revised s).having = step.havingEdit.applied Condition.texts s.having ∧
    (step.revised s).joins = step.joinsEdit.applied (List.map Join.rendered) s.joins ∧
    (step.revised s).leftJoins =
      step.leftJoinsEdit.applied (List.map Join.rendered) s.leftJoins := by
  cases step with
  | paginate page size => rw [revised_paginate]; split <;> exact ⟨rfl, rfl, rfl, rfl⟩
  | values rows => rw [revised_values]; split <;> exact ⟨rfl, rfl, rfl, rfl⟩
  | commonValues cells => rw [revised_commonValues]; split <;> exact ⟨rfl, rfl, rfl, rfl⟩
  | stampFrom clock => rw [revised_stampFrom]; split <;> exact ⟨rfl, rfl, rfl, rfl⟩
  | _ => exact ⟨rfl, rfl, rfl, rfl⟩

end Step

/-- What was given to a list by the last call that replaces it and by the calls after
that, or by all calls if none replaces it. -/
def entries {α : Type} (edit : Step → Edit α) (steps : List Step) : List α :=
  (fromLast (fun step => (edit step).replaces) steps).flatMap fun step => (edit step).items

section

variable {α β : Type} {edit : Step → Edit α} {render : List α → List β}

/-- A call at the end adds its items to those that the list has been given, unless it
replaces the list. -/
theorem entries_concat (edit : Step → Edit α) (steps : List Step) (step : Step) :
    entries edit (steps ++ [step]) =
      if (edit step).replaces then (edit step).items
      else entries edit steps ++ (edit step).items := by
  rw [entries]
  split
  · next hreplaces =>
      rw [fromLast_concat_of_pos (fun step => (edit step).replaces) hreplaces]
      simp
  · next hkeeps =>
      rw [fromLast_concat_of_neg (fun step => (edit step).replaces)
        (Bool.eq_false_iff.2 hkeeps)]
      simp [entries]

/-- A list that is empty at first holds its entries at the end of a chain. -/
theorem list_run {list : Statement → List β}
    (happend : ∀ first second, render (first ++ second) = render first ++ render second)
    (hstep : ∀ (step : Step) s, list (step.revised s) = (edit step).applied render (list s))
    {draft : Draft} (hempty : list draft.statement = []) (steps : List Step) :
    list (draft.run steps).statement = render (entries edit steps) := by
  induction steps using List.reverseRecOn with
  | nil =>
      have hrender : render [] = [] := List.self_eq_append_right.1 (happend [] [])
      rw [run_nil, hempty, entries, fromLast, List.flatMap_nil, hrender]
  | append_singleton earlier step ih =>
      rw [run_concat, step.apply_eq, hstep, ih, entries_concat]
      cases edit step with
      | leave => simp [Edit.applied, Edit.replaces, Edit.items]
      | replace items => rfl
      | append items => exact (happend _ _).symm

end

end Draft

namespace Statement

def withoutLists (s : Statement) : Statement :=
  { s with conditions := [], having := [], joins := [], leftJoins := [] }

/-- The four lists of the statement hold what a chain of calls has given, in the order in
which it was given.  Conditions without any text are left out. -/
structure HoldsEntries (s : Statement) (steps : List Draft.Step) : Prop where
  conditions : s.conditions =
    ((Draft.entries Draft.Step.conditionsEdit steps).map Condition.text).filter (!·.isEmpty)
  having : s.having =
    ((Draft.entries Draft.Step.havingEdit steps).map Condition.text).filter (!·.isEmpty)
  joins : s.joins = (Draft.entries Draft.Step.joinsEdit steps).map Join.rendered
  leftJoins : s.leftJoins = (Draft.entries Draft.Step.leftJoinsEdit steps).map Join.rendered

end Statement

/-- The second text is the first one with some parts put in between, one after another. -/
inductive Text.WithParts : List Text → Text → Text → Prop
  | rest (text : Text) : WithParts [] text text
  | part {parts : List Text} {text full : Text} (before part : Text)
      (hparts : WithParts parts text full) :
      WithParts (part :: parts) (before ++ text) (before ++ part ++ full)

namespace Text.WithParts

variable {parts : List Text} {text full : Text}

theorem append_right (hparts : WithParts parts text full) (after : Text) :
    WithParts parts (text ++ after) (full ++ after) := by
  induction hparts with
  | rest text => exact .rest (text ++ after)
  | part before part _ ih =>
      rw [List.append_assoc, List.append_assoc, List.append_assoc]
      exact List.append_assoc before part _ ▸ .part before part ih

theorem append_left (hparts : WithParts parts text full) (before : Text) :
    WithParts parts (before ++ text) (before ++ full) := by
  cases hparts with
  | rest text => exact .rest (before ++ text)
  | part first part hrest =>
      rw [← List.append_assoc, ← List.append_assoc, ← List.append_assoc]
      exact .part (before ++ first) part hrest

end Text.WithParts

namespace Statement

/-- How conditions are shown: each in parentheses, after the keyword or after AND. -/
def shownConditions (keyword : Text) : List Text → Text
  | [] => []
  | first :: rest =>
      " " ++ keyword ++ " (" ++ first ++ ")" ++
        rest.flatMap fun next => (" AND (" ++ next ++ ")" : Text)

/-- How joins are shown: each with its keyword, its source and its condition. -/
def shownJoins (keyword : Text) (entries : List Joined) : Text :=
  entries.flatMap fun entry =>
    " " ++ keyword ++ " " ++ entry.source ++ " ON " ++ entry.condition

theorem conjunction_eq (keyword : Text) (conditions : List Text) :
    conjunction keyword conditions = shownConditions keyword conditions := by
  cases conditions with
  | nil => rfl
  | cons first rest =>
      have hrest : (rest.map Text.parenthesized).flatMap (" AND ".toList ++ ·) =
          rest.flatMap fun next => (" AND (" ++ next ++ ")" : Text) := by
        rw [List.flatMap_map]
        rfl
      rw [conjunction, if_neg (by simp), List.map_cons, Text.joined_cons, hrest, shownConditions,
        Text.parenthesized]
      simp

theorem joins_eq (keyword : Text) (entries : List Joined) :
    entries.flatMap (joinClause keyword) = shownJoins keyword entries := rfl

variable (s : Statement)

/-- The parts of a SELECT that show its four lists. -/
def listParts : List Text :=
  [shownJoins "JOIN" s.joins, shownJoins "LEFT JOIN" s.leftJoins,
    shownConditions "WHERE" s.conditions, shownConditions "HAVING" s.having]

/-- A SELECT is what it would be without its four lists, with the texts of the lists put in. -/
theorem selectBody_withParts :
    Text.WithParts s.listParts s.withoutLists.selectBody s.selectBody := by
  have hparts := Text.WithParts.part
    ("SELECT" ++ enclosedClause "DISTINCT ON " s.distinctOn ++ " " ++ s.columnsText ++
      optionalClause "FROM" s.source)
    (shownJoins "JOIN" s.joins)
    (.part [] (shownJoins "LEFT JOIN" s.leftJoins)
      (.part [] (shownConditions "WHERE" s.conditions)
        (.part (listClause "GROUP BY" s.groupBy) (shownConditions "HAVING" s.having)
          (.rest (listClause "ORDER BY" (s.orderBy.map SortKey.text) ++
            optionalClause "LIMIT" (s.limit.map fun n => Text.ofInt n.toInt) ++
            optionalClause "OFFSET" (s.offset.map fun n => Text.ofInt n.toInt))))))
  have hcolumns : s.withoutLists.columnsText = s.columnsText := rfl
  unfold selectBody
  rw [hcolumns]
  simpa only [listParts, withoutLists, conjunction_eq, joins_eq, shownConditions,
    List.flatMap_nil, List.append_nil, List.nil_append, List.append_assoc] using hparts

theorem selectText_withParts :
    Text.WithParts s.listParts s.withoutLists.selectText s.selectText := by
  have hbody := s.selectBody_withParts
  have hname : s.withoutLists.aliasName = s.aliasName := rfl
  have hexplain : s.withoutLists.explain = s.explain := rfl
  rw [selectText, selectText, hname, hexplain]
  cases s.aliasName with
  | none =>
      cases s.explain with
      | true => exact hbody.append_left "EXPLAIN "
      | false => exact hbody
  | some name =>
      have hnamed :=
        (((hbody.append_left "(").append_right ")").append_right " AS ").append_right name
      cases s.explain with
      | true => exact hnamed.append_left "EXPLAIN "
      | false => exact hnamed

/-- A SELECT shows its four lists and is otherwise the one without them. -/
theorem sql_withParts_of_select (hkind : s.kind = .select) :
    Text.WithParts s.listParts s.withoutLists.sql s.sql := by
  have hbare : s.withoutLists.sql = s.withoutLists.selectText := by
    rw [sql, withoutLists, hkind]
  rw [hbare, sql, hkind]
  exact s.selectText_withParts

/-- A DELETE and an UPDATE show their conditions and are otherwise those without them. -/
theorem sql_withParts_of_change (hkind : s.kind = .delete ∨ s.kind = .update) :
    Text.WithParts [shownConditions "WHERE" s.conditions] s.withoutLists.sql s.sql := by
  have hplace : ∀ before after : Text,
      Text.WithParts [shownConditions "WHERE" s.conditions]
        (before ++ conjunction "WHERE" [] ++ after)
        (before ++ conjunction "WHERE" s.conditions ++ after) := by
    intro before after
    rw [conjunction_eq, conjunction_eq, shownConditions, List.append_nil]
    exact .part before _ (.rest after)
  rcases hkind with hkind | hkind
  · rw [sql, sql, withoutLists, hkind]
    exact hplace _ _
  · rw [sql, sql, withoutLists, hkind]
    exact hplace _ _

end Statement

namespace Draft

/-- The lists of a draft that has nothing in them at first. -/
theorem holdsEntries_run {draft : Draft}
    (hempty : draft.statement.withoutLists = draft.statement) (steps : List Step) :
    (draft.run steps).statement.HoldsEntries steps where
  conditions := list_run Condition.texts_append (fun step s => (step.lists_revised s).1)
    (congrArg Statement.conditions hempty).symm steps
  having := list_run Condition.texts_append (fun step s => (step.lists_revised s).2.1)
    (congrArg Statement.having hempty).symm steps
  joins := list_run (fun _ _ => List.map_append) (fun step s => (step.lists_revised s).2.2.1)
    (congrArg Statement.joins hempty).symm steps
  leftJoins := list_run (fun _ _ => List.map_append) (fun step s => (step.lists_revised s).2.2.2)
    (congrArg Statement.leftJoins hempty).symm steps

namespace Start

/-- The draft that begins like this, before any condition. -/
def bare : Start → Draft
  | fetchByIds _ _ | fetchByColumns _ _ => Draft.select [.text "*"]
  | start => start.draft

/-- The calls with which a draft begins: fetching reads from a table under a condition. -/
def opening : Start → List Step
  | fetchByIds table ids =>
      [.readFrom (.text table), .filter [.template "id IN ($ids)" (.ofList [("ids", ids)])]]
  | fetchByColumns table values => [.readFrom (.text table), .filter [.columns values]]
  | _ => []

theorem draft_eq_run (start : Start) : start.draft = start.bare.run start.opening := by
  cases start <;> rfl

theorem withoutLists_bare (start : Start) :
    start.bare.statement.withoutLists = start.bare.statement := by
  cases start <;> rfl

end Start

/-- The calls on the draft that a chain ends with.  Wrapping a draft begins another one,
with nothing in its lists. -/
def latest (opening : List Step) : List Call → List Step
  | [] => opening
  | .step step :: calls => latest (opening ++ [step]) calls
  | .toJson _ :: calls => latest [] calls

/-- Wherever a chain leads, the lists hold what has been given to them since the last time
that the draft was wrapped. -/
theorem holdsEntries_follow {draft final : Draft} {opening : List Step} {calls : List Call}
    (hempty : draft.statement.withoutLists = draft.statement)
    (hcalls : (draft.run opening).follow calls = .ok final) :
    final.statement.HoldsEntries (latest opening calls) := by
  induction calls generalizing draft opening with
  | nil =>
      cases hcalls
      exact holdsEntries_run hempty opening
  | cons call rest ih =>
      obtain ⟨next, hnext, hrest⟩ := exists_of_follow_cons hcalls
      cases call with
      | step step =>
          cases hnext
          exact ih hempty (run_concat draft opening step ▸ hrest)
      | toJson name =>
          obtain ⟨columns, inner, rfl⟩ := exists_of_toJson_eq_ok hnext
          exact @ih ((select columns).readFrom (.query inner)) [] rfl hrest

/-- After any chain of calls the four lists hold the entries that the calls on the last
draft have given, refused calls and calls for other clauses among them or not.  A SELECT
shows all four lists, a DELETE and an UPDATE their conditions, and the rest of the text is
that of the statement without them. -/
theorem lists_hold_and_show_entries (start : Start) :
    (∀ steps : List Step,
      (start.draft.run steps).statement.HoldsEntries (start.opening ++ steps)) ∧
    (∀ (calls : List Call) (final : Draft), start.draft.follow calls = .ok final →
      final.statement.HoldsEntries (latest start.opening calls)) ∧
    ∀ s : Statement,
      (s.kind = .select → Text.WithParts
        [Statement.shownJoins "JOIN" s.joins, Statement.shownJoins "LEFT JOIN" s.leftJoins,
          Statement.shownConditions "WHERE" s.conditions,
          Statement.shownConditions "HAVING" s.having]
        s.withoutLists.sql s.sql) ∧
      (s.kind = .delete ∨ s.kind = .update →
        Text.WithParts [Statement.shownConditions "WHERE" s.conditions]
          s.withoutLists.sql s.sql) := by
  refine ⟨?_, ?_, fun s => ⟨s.sql_withParts_of_select, s.sql_withParts_of_change⟩⟩
  · intro steps
    rw [start.draft_eq_run, ← run_append]
    exact holdsEntries_run start.withoutLists_bare (start.opening ++ steps)
  · intro calls final hcalls
    rw [start.draft_eq_run] at hcalls
    exact holdsEntries_follow start.withoutLists_bare hcalls

/-- A condition that is wrapped away, and two more with a refused call between them. -/
def conditionsAroundWrapping : List Call :=
  [.step (.readFrom (.text "t")), .step (.filter [.template "a" .empty]), .toJson "x",
    .step (.filterAlso [.template "b = $n" (.ofList [("n", .int 1)])]),
    .step (.commonValues .empty),
    .step (.filterAlso [.columns .empty, .template "c" .empty])]

theorem conditions_after_wrapping_are_held :
    ∃ final : Draft,
      (Draft.select [.text "id"]).follow conditionsAroundWrapping = .ok final ∧
      final.fault = some .commonValuesWithoutRows ∧
      final.statement.conditions = ["b = 1".toList, "c".toList] := by
  have hheld := (lists_hold_and_show_entries (.select [.text "id"])).2.1
    conditionsAroundWrapping _ rfl
  exact ⟨_, rfl, rfl, hheld.conditions.trans (by decide +kernel)⟩

end Draft

end SqlBuilder
