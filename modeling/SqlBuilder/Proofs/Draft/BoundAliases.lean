import SqlBuilder.Proofs.Draft.Clauses
import SqlBuilder.Proofs.Draft.Filters
import SqlBuilder.Proofs.Statement.Nesting
import SqlBuilder.Proofs.Value.Places

/-!
SELECTs bound as values in WHERE and HAVING.  The literal of a SELECT is its own text, with
the alias that it has as a source.  So the alias reaches the text of the outer statement
wherever the clause, the condition and the placeholder are shown, and nothing takes it away.
-/

namespace SqlBuilder

open Text (StandsAt)

theorem Condition.texts_eq_singleton {condition : Condition}
    (hkept : condition.isVacuous = false) : texts [condition] = [condition.text] := by
  rw [texts_eq, List.filter_cons, hkept]
  rfl

namespace Condition.Place

/-- Only an empty template is left out of a clause, and it shows nothing. -/
theorem texts_fill (place : Place) :
    (place.shown = 0 ∧ ∀ value, texts [place.fill value] = []) ∨
      ∀ value, texts [place.fill value] = [(place.fill value).text] := by
  cases place with
  | placeholder sql bindings name place =>
      cases sql with
      | nil =>
          refine .inl ⟨by simp [shown, Template.pieces], fun value => ?_⟩
          rw [texts_eq]
          rfl
      | cons c sql => exact .inr fun value => texts_eq_singleton rfl
  | column values name place =>
      obtain ⟨before, after, hentries⟩ := exists_replaceOrAppend_eq name values.entries
      refine .inr fun value => texts_eq_singleton ?_
      simp [fill, isVacuous, Bindings.isEmpty, Bindings.insert, hentries]

/-- The conditions of a clause, one of which has a place. -/
theorem standsAt_conjunction (place : Place) (keyword : Text) (before after : List Text) :
    StandsAt place.shown Value.literal fun value =>
      Statement.conjunction keyword (before ++ texts [place.fill value] ++ after) := by
  rcases place.texts_fill with ⟨hshown, htexts⟩ | htexts
  · simp only [htexts, hshown]
    exact .const Value.literal _
  · have hconjunction : ∀ value,
        Statement.conjunction keyword (before ++ texts [place.fill value] ++ after) =
          " " ++ keyword ++ " " ++ Text.joined " AND "
            (before.map Text.parenthesized ++ Text.parenthesized (place.fill value).text ::
              after.map Text.parenthesized) := by
      intro value
      rw [htexts, Statement.conjunction, if_neg (by simp)]
      simp
    simp only [hconjunction]
    exact (place.standsAt_text.parenthesized.item " AND " _ _).append_left _

end Condition.Place

/-- An alias makes the text of a SELECT longer. -/
theorem Statement.length_sql_withoutAlias_lt {s : Statement} (hkind : s.kind = .select)
    {name : Text} (hname : s.aliasName = some name) :
    s.withoutAlias.sql.length < s.sql.length := by
  have hbody : s.withoutAlias.selectBody = s.selectBody := rfl
  have hlonger : s.selectBody.length <
      (Text.parenthesized s.selectBody ++ " AS " ++ name).length := by
    have hopening : 0 < ("(" : Text).length := by decide
    simp only [Text.parenthesized, List.length_append]
    omega
  have hbare : s.withoutAlias.sql =
      if s.explain then "EXPLAIN " ++ s.selectBody else s.selectBody := by
    rw [sql, withoutAlias, hkind]
    rfl
  have hnamed : s.sql = if s.explain then
      "EXPLAIN " ++ (Text.parenthesized s.selectBody ++ " AS " ++ name)
      else Text.parenthesized s.selectBody ++ " AS " ++ name := by
    rw [sql, hkind]
    simp only [selectText, hname]
  rw [hbare, hnamed]
  split
  · rw [List.length_append, List.length_append]
    omega
  · exact hlonger

namespace Draft

/-- A place for a value in a call for WHERE or HAVING, with all that comes before the call
and after it. -/
structure CallPlace where
  start : Start
  earlier : List Step
  clause : Clause
  adds : Bool
  before : List Condition
  condition : Condition.Place
  after : List Condition
  later : List Step

namespace CallPlace

def fill (place : CallPlace) (value : Value) : Draft :=
  build place.start (place.earlier ++ place.clause.call place.adds
    (place.before ++ place.condition.fill value :: place.after) :: place.later)

/-- Whether the text of the draft shows the conditions of the call. -/
def isShown (place : CallPlace) : Bool :=
  place.clause.isShown (place.fill .null).statement && !place.clause.isReplaced place.later

/-- How often the text of the draft shows what stands at the place. -/
def shown (place : CallPlace) : Nat := if place.isShown then place.condition.shown else 0

variable (place : CallPlace)

/-- The draft is the same for all values, but for the text of one condition. -/
theorem exists_fill_eq :
    ∃ (before after : List Text) (draft : Draft), ∀ value,
      place.fill value =
        ⟨place.clause.put
          ((if place.clause.isReplaced place.later then []
            else before ++ Condition.texts [place.condition.fill value]) ++ after)
          draft.statement, draft.fault⟩ := by
  obtain ⟨start, earlier, clause, adds, before, condition, after, later⟩ := place
  obtain ⟨added, hadded⟩ := clause.exists_textsAfter_eq later
  obtain ⟨held, hrun⟩ : ∃ held : List Text, ∀ conditions,
      build start (earlier ++ clause.call adds conditions :: later) =
        ⟨clause.put ((if clause.isReplaced later then [] else held ++ Condition.texts conditions) ++
            added) ((start.draft.run earlier).run later).statement,
          ((start.draft.run earlier).run later).fault⟩ :=
    ⟨_, fun conditions => by
      rw [build, run_append, run_cons, clause.apply_call, clause.run_put, hadded]⟩
  simp only [fill, hrun]
  cases clause.isReplaced later with
  | true => exact ⟨[], added, (start.draft.run earlier).run later, fun _ => rfl⟩
  | false =>
      refine ⟨held ++ Condition.texts before, Condition.texts after ++ added,
        (start.draft.run earlier).run later, fun value => ?_⟩
      have htexts : Condition.texts (before ++ condition.fill value :: after) =
          Condition.texts before ++
            (Condition.texts [condition.fill value] ++ Condition.texts after) := by
        rw [← Condition.texts_append, ← Condition.texts_append, List.singleton_append]
      simp only [Bool.false_eq_true, if_false, htexts, List.append_assoc]

theorem check_fill (value : Value) : (place.fill value).check = (place.fill .null).check := by
  obtain ⟨before, after, draft, hfill⟩ := place.exists_fill_eq
  rw [hfill, hfill, check, check, Clause.check_put, Clause.check_put]

/-- The literal of the value stands in the text as often as the place is shown. -/
theorem standsAt_sql :
    StandsAt place.shown Value.literal fun value => (place.fill value).statement.sql := by
  obtain ⟨before, after, draft, hfill⟩ := place.exists_fill_eq
  simp only [shown, isShown, hfill, Clause.isShown_put]
  cases hshown : place.clause.isShown draft.statement with
  | false =>
      simp only [place.clause.sql_put_of_not_isShown draft.statement _ hshown]
      exact .const Value.literal _
  | true =>
      cases place.clause.isReplaced place.later with
      | true =>
          simp only [Bool.not_true, Bool.and_false, Bool.false_eq_true, if_false, if_true]
          exact .const Value.literal _
      | false =>
          exact (place.condition.standsAt_conjunction place.clause.keyword before after).trans
            ((place.clause.standsAt_sql draft.statement hshown).comp _)

end CallPlace

/-- The places for a value in WHERE and HAVING: those in a call, and those in what a draft
begins with when it fetches rows by their ids or by their columns. -/
inductive BoundPlace where
  | call (place : CallPlace)
  | ids (table : Text) (place : Value.Place) (later : List Step)
  | column (table : Text) (values : Bindings) (name : Text) (place : Value.Place)
      (later : List Step)

namespace BoundPlace

def fill (value : Value) : BoundPlace → Draft
  | call place => place.fill value
  | ids table place later => build (.fetchByIds table (place.fill value)) later
  | column table values name place later =>
      build (.fetchByColumns table (values.insert name (place.fill value))) later

def inCall : BoundPlace → CallPlace
  | call place => place
  | ids table place later =>
      ⟨.select [.text "*"], [.readFrom (.text table)], .filter, false, [],
        .placeholder "id IN ($ids)" .empty "ids" place, [], later⟩
  | column table values name place later =>
      ⟨.select [.text "*"], [.readFrom (.text table)], .filter, false, [],
        .column values name place, [], later⟩

def shown (place : BoundPlace) : Nat := place.inCall.shown

theorem fill_inCall (place : BoundPlace) (value : Value) :
    place.inCall.fill value = place.fill value := by
  cases place <;> rfl

/-- The text of the draft for every value at the place. -/
theorem exists_sql_eq (place : BoundPlace) :
    ∃ pieces : List Text, pieces.length = place.shown + 1 ∧ ∀ value,
      (place.fill value).sql =
        (place.fill .null).check.map fun _ => Text.joined value.literal pieces := by
  obtain ⟨pieces, hlength, hsql⟩ := place.inCall.standsAt_sql
  refine ⟨pieces, hlength, fun value => ?_⟩
  have htext : (place.inCall.fill value).statement.sql = Text.joined value.literal pieces :=
    hsql value
  rw [← fill_inCall, ← fill_inCall, sql, CallPlace.check_fill, htext]

end BoundPlace

/-- A value that is bound in WHERE or HAVING stands with its literal wherever its place is
shown, and a SELECT among them with its alias.  So the alias of a bound SELECT can be
removed without a change exactly if it has none, if its place is not shown, or if the outer
statement cannot be finished. -/
theorem bound_select_keeps_its_alias (place : BoundPlace) :
    (∃ pieces : List Text, pieces.length = place.shown + 1 ∧ ∀ value,
      (place.fill value).sql =
        (place.fill .null).check.map fun _ => Text.joined value.literal pieces) ∧
    ∀ t : Statement, t.kind = .select →
      ((place.fill (.query t)).sql = (place.fill (.query t.withoutAlias)).sql ↔
        t.aliasName = none ∨ place.shown = 0 ∨
          ∃ error, (place.fill .null).check = .error error) := by
  refine ⟨place.exists_sql_eq, fun t hkind => ?_⟩
  obtain ⟨pieces, hlength, hsql⟩ := place.exists_sql_eq
  rw [hsql, hsql]
  cases hcheck : (place.fill .null).check with
  | error reason => exact iff_of_true rfl (.inr (.inr ⟨reason, rfl⟩))
  | ok _ =>
      cases hname : t.aliasName with
      | none =>
          have hsame : t.withoutAlias = t := by rw [Statement.withoutAlias, ← hname]
          exact iff_of_true (by rw [hsame]) (.inl rfl)
      | some name =>
          have hshorter := t.length_sql_withoutAlias_lt hkind hname
          have hstands : StandsAt place.shown Value.literal fun value =>
              Text.joined value.literal pieces := ⟨pieces, hlength, fun _ => rfl⟩
          have hsame := hstands.eq_iff (a := .query t) (b := .query t.withoutAlias)
            (by rw [Value.literal, Value.literal]; omega)
          simp only [Except.map, Except.ok.injEq, hsame, reduceCtorEq, false_or, exists_false,
            or_false]

def aliased : Statement where
  kind := .select
  columns := some ["id".toList]
  source := some "s"
  aliasName := some "x"

/-- A place in a list in a list, whose placeholder a condition of HAVING has twice. -/
def twiceInHaving : BoundPlace :=
  .call ⟨.select [.text "id"], [.readFrom (.text "t")], .having, true, [.template "n > 1" .empty],
    .placeholder "id IN ($q) OR n IN ($q)" .empty "q" (.item [.int 1] (.item [] .whole []) [.null]),
    [], [.limit 5]⟩

theorem alias_is_shown_twice_in_having :
    aliased.kind = .select ∧ twiceInHaving.shown = 2 ∧
      (twiceInHaving.fill (.query aliased)).sql ≠
        (twiceInHaving.fill (.query aliased.withoutAlias)).sql := by
  have hshown : twiceInHaving.shown = 2 := by decide +kernel
  have hcheck : (twiceInHaving.fill .null).check = .ok () := rfl
  refine ⟨rfl, hshown, fun hsame => ?_⟩
  rcases ((bound_select_keeps_its_alias twiceInHaving).2 aliased rfl).1 hsame with
    hname | hnone | ⟨error, herror⟩
  · cases hname
  · rw [hshown] at hnone
    cases hnone
  · rw [hcheck] at herror
    cases herror

theorem exists_bound_select_with_alias_in_where :
    ¬ ∀ (place : BoundPlace) (t : Statement), t.kind = .select → t.check = .ok () →
      (place.fill (.query t)).sql = (place.fill (.query t.withoutAlias)).sql := by
  intro hall
  have hsame := hall (.call ⟨.select [.text "id"], [.readFrom (.text "t")], .filter, false, [],
    .placeholder "id IN ($q)" .empty "q" .whole, [], []⟩) aliased rfl rfl
  have hsame := Except.ok.inj hsame
  exact absurd hsame (by decide +kernel)

end Draft

end SqlBuilder
