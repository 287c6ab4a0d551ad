import Mathlib.Data.List.Infix
import Mathlib.Logic.Relation
import SqlBuilder.Proofs.Draft.Effect
import SqlBuilder.Proofs.Template.Cutting
import SqlBuilder.Proofs.Text.Joined
import SqlBuilder.Proofs.Value.Structure

/-!
Towers of nested statements.  A SELECT nests a statement as its source, as the source of
a join, as a column, or as a value that a condition shows; the text of the nested
statement then stands unchanged in one of its clauses, and stays there until a call
replaces the clause.  Interpolation looks at the template only and never at what takes a
placeholder's place, so that the text reaches every outer level as it is.
-/

namespace SqlBuilder

/-- The statement is nested in the value of a placeholder of the template. -/
def Template.Nests (inner : Statement) (template : Text) (bindings : Bindings) : Prop :=
  ∃ name value, Occurs name template ∧ (name, value) ∈ bindings.entries ∧ value.Nests inner

/-- The statement is nested in a value that the condition shows. -/
inductive Condition.Nests (inner : Statement) : Condition → Prop
  | template {sql : Text} {bindings : Bindings} (hnests : Template.Nests inner sql bindings) :
      Nests inner (.template sql bindings)
  | column {values : Bindings} {name : Text} {value : Value}
      (hentry : (name, value) ∈ values.entries) (hvalue : value.Nests inner) :
      Nests inner (.columns values)

/-- The statement is what is joined, or it is nested in the condition of the join. -/
inductive Join.Nests (inner : Statement) : Join → Prop
  | source (template : Text) (bindings : Bindings) :
      Nests inner ⟨.query inner, template, bindings⟩
  | condition (source : Source) {template : Text} {bindings : Bindings}
      (hnests : Template.Nests inner template bindings) :
      Nests inner ⟨source, template, bindings⟩

variable {inner : Statement}

/-- The literal of a value shows every statement that is nested in it, however deep in lists. -/
theorem Value.Nests.isInfix_literal {value : Value} (hnests : value.Nests inner) :
    inner.sql <:+: value.literal := by
  induction hnests with
  | query => rw [literal]
  | @item items item hmem hitem ih =>
      rw [literal_list (List.ne_nil_of_mem hmem)]
      exact ih.trans (Text.isInfix_joined (List.mem_map_of_mem hmem) ", ")

/-- A literal that has been filled in is not scanned again, so what it shows stays as it is. -/
theorem Template.Nests.isInfix_interpolate {template : Text} {bindings : Bindings}
    (hnests : Nests inner template bindings) :
    inner.sql <:+: interpolate template bindings := by
  obtain ⟨name, value, hoccurs, hentry, hvalue⟩ := hnests
  have hpiece : Piece.text bindings (.placeholder name) = value.literal := by
    rw [Piece.text, Bindings.get?_eq_some_iff.2 hentry, Option.getD_some]
  have hstands : value.literal <:+: interpolate template bindings := by
    rw [← hpiece, interpolate]
    exact List.infix_of_mem_flatten (List.mem_map_of_mem (placeholder_mem_pieces_iff.2 hoccurs))
  exact hvalue.isInfix_literal.trans hstands

theorem Condition.Nests.isInfix_text {condition : Condition} (hnests : condition.Nests inner) :
    inner.sql <:+: condition.text := by
  cases hnests with
  | template htemplate => exact htemplate.isInfix_interpolate
  | @column values name value hentry hvalue =>
      have hmember : value.literal <:+: membership (name, value) :=
        (Text.isInfix_parenthesized _).trans (List.suffix_append _ _).isInfix
      exact (hvalue.isInfix_literal.trans hmember).trans
        (Text.isInfix_joined (List.mem_map_of_mem hentry) " AND ")

theorem Statement.isInfix_nested (s : Statement) : s.sql <:+: s.nested := by
  rw [nested]
  split
  · exact List.infix_rfl
  · exact Text.isInfix_parenthesized s.sql

/-- A condition that shows a statement is not empty, and so it is not left out. -/
theorem Condition.Nests.mem_texts {condition : Condition} {conditions : List Condition}
    (hnests : condition.Nests inner) (hmem : condition ∈ conditions) :
    condition.text ∈ texts conditions := by
  rw [texts, List.mem_filter]
  refine ⟨List.mem_map_of_mem hmem, ?_⟩
  have hne : condition.text ≠ [] := by
    intro hempty
    have hinside := hnests.isInfix_text
    rw [hempty] at hinside
    exact inner.sql_ne_nil (List.infix_nil.1 hinside)
  simpa using hne

/-- The clauses of a SELECT in which a statement can be nested. -/
inductive Slot where
  | columns
  | source
  | joins
  | leftJoins
  | conditions
  | having
deriving DecidableEq, Repr

def joinTexts (entries : List Joined) : List Text :=
  entries.flatMap fun entry => [entry.source, entry.condition]

theorem joinTexts_append (first second : List Joined) :
    joinTexts (first ++ second) = joinTexts first ++ joinTexts second :=
  List.flatMap_append

def Slot.texts (s : Statement) : Slot → List Text
  | columns => s.columns.getD []
  | source => s.source.toList
  | joins => joinTexts s.joins
  | leftJoins => joinTexts s.leftJoins
  | conditions => s.conditions
  | having => s.having

/-- The part of a SELECT that shows the clause. -/
def Slot.shown (s : Statement) : Slot → Text
  | columns => s.columnsText
  | source => Statement.optionalClause "FROM" s.source
  | joins => s.joins.flatMap (Statement.joinClause "JOIN")
  | leftJoins => s.leftJoins.flatMap (Statement.joinClause "LEFT JOIN")
  | conditions => Statement.conjunction "WHERE" s.conditions
  | having => Statement.conjunction "HAVING" s.having

namespace Statement

/-- The text of the statement stands in one of the texts. -/
def StandsIn (inner : Statement) (texts : List Text) : Prop :=
  ∃ text ∈ texts, inner.sql <:+: text

theorem StandsIn.append_left {texts : List Text} (hstands : inner.StandsIn texts)
    (before : List Text) : inner.StandsIn (before ++ texts) := by
  obtain ⟨text, hmem, hinside⟩ := hstands
  exact ⟨text, List.mem_append_right before hmem, hinside⟩

theorem StandsIn.of_isPrefix {texts others : List Text} (hstands : inner.StandsIn texts)
    (hbegins : texts <+: others) : inner.StandsIn others := by
  obtain ⟨text, hmem, hinside⟩ := hstands
  exact ⟨text, hbegins.mem hmem, hinside⟩

theorem isInfix_selectBody (s : Statement) (slot : Slot) : slot.shown s <:+: s.selectBody := by
  rw [selectBody_eq_foldl]
  refine Text.isInfix_foldl_append (.inr ?_)
  cases slot <;> simp only [Slot.shown, List.mem_cons, true_or, or_true]

theorem isInfix_selectText (s : Statement) : s.selectBody <:+: s.selectText := by
  have hnamed : ∀ name, s.selectBody <:+: Text.parenthesized s.selectBody ++ " AS " ++ name := by
    intro name
    rw [List.append_assoc]
    exact (Text.isInfix_parenthesized _).trans (List.prefix_append _ _).isInfix
  cases hname : s.aliasName with
  | none =>
      simp only [selectText, hname]
      split
      · exact (List.suffix_append _ _).isInfix
      · exact List.infix_rfl
  | some name =>
      simp only [selectText, hname]
      split
      · exact (hnamed name).trans (List.suffix_append _ _).isInfix
      · exact hnamed name

theorem isInfix_conjunction {keyword condition : Text} {conditions : List Text}
    (hmem : condition ∈ conditions) : condition <:+: conjunction keyword conditions := by
  have hne : conditions.isEmpty = false := by
    simpa using List.ne_nil_of_mem hmem
  rw [conjunction, hne]
  exact ((Text.isInfix_parenthesized condition).trans
    (Text.isInfix_joined (List.mem_map_of_mem hmem) " AND ")).trans
      (List.suffix_append _ _).isInfix

theorem isInfix_joinClauses {keyword text : Text} {entries : List Joined}
    (hmem : text ∈ joinTexts entries) : text <:+: entries.flatMap (joinClause keyword) := by
  obtain ⟨entry, hentry, htext⟩ := List.mem_flatMap.1 hmem
  have hclause : text <:+: joinClause keyword entry := by
    simp only [List.mem_cons, List.not_mem_nil, or_false] at htext
    rcases htext with rfl | rfl
    · exact ⟨" " ++ keyword ++ " ", " ON " ++ entry.condition, by simp [joinClause]⟩
    · exact (List.suffix_append _ _).isInfix
  exact hclause.trans (List.infix_of_mem_flatten (List.mem_map_of_mem hentry))

/-- Every text in a clause stands unchanged in what a SELECT shows of the clause. -/
theorem isInfix_shown {s : Statement} {slot : Slot} {text : Text} (hmem : text ∈ slot.texts s) :
    text <:+: slot.shown s := by
  cases slot with
  | columns =>
      rw [Slot.texts] at hmem
      rw [Slot.shown, columnsText]
      cases hcolumns : s.columns with
      | none => simp [hcolumns] at hmem
      | some columns =>
          rw [hcolumns, Option.getD_some] at hmem
          have hne : columns.isEmpty = false := by
            simpa using List.ne_nil_of_mem hmem
          simpa [hne] using Text.isInfix_joined hmem ", "
  | source =>
      rw [Slot.texts, Option.mem_toList] at hmem
      rw [Slot.shown, hmem]
      exact (List.suffix_append _ _).isInfix
  | joins => exact isInfix_joinClauses hmem
  | leftJoins => exact isInfix_joinClauses hmem
  | conditions => exact isInfix_conjunction hmem
  | having => exact isInfix_conjunction hmem

theorem isInfix_sql_of_mem_texts {s : Statement} (hkind : s.kind = .select) {slot : Slot}
    {text : Text} (hmem : text ∈ slot.texts s) : text <:+: s.sql := by
  rw [sql, hkind]
  exact ((isInfix_shown hmem).trans (s.isInfix_selectBody slot)).trans s.isInfix_selectText

end Statement

namespace Draft

/-- The call nests the statement in the clause. -/
inductive Step.Nests (inner : Statement) : Step → Slot → Prop
  | column {columns : List Source} (hmem : .query inner ∈ columns) :
      Nests inner (.selectColumns columns) .columns
  | source : Nests inner (.readFrom (.query inner)) .source
  | filter {condition : Condition} {conditions : List Condition}
      (hmem : condition ∈ conditions) (hnests : condition.Nests inner) :
      Nests inner (.filter conditions) .conditions
  | filterAlso {condition : Condition} {conditions : List Condition}
      (hmem : condition ∈ conditions) (hnests : condition.Nests inner) :
      Nests inner (.filterAlso conditions) .conditions
  | having {condition : Condition} {conditions : List Condition}
      (hmem : condition ∈ conditions) (hnests : condition.Nests inner) :
      Nests inner (.having conditions) .having
  | havingAlso {condition : Condition} {conditions : List Condition}
      (hmem : condition ∈ conditions) (hnests : condition.Nests inner) :
      Nests inner (.havingAlso conditions) .having
  | join {entry : Join} {joins : List Join} (hmem : entry ∈ joins)
      (hnests : entry.Nests inner) : Nests inner (.join joins) .joins
  | joinAlso {entry : Join} {joins : List Join} (hmem : entry ∈ joins)
      (hnests : entry.Nests inner) : Nests inner (.joinAlso joins) .joins
  | leftJoin {entry : Join} {joins : List Join} (hmem : entry ∈ joins)
      (hnests : entry.Nests inner) : Nests inner (.leftJoin joins) .leftJoins
  | leftJoinAlso {entry : Join} {joins : List Join} (hmem : entry ∈ joins)
      (hnests : entry.Nests inner) : Nests inner (.leftJoinAlso joins) .leftJoins

/-- The draft begins with the statement nested in the clause. -/
inductive Start.Nests (inner : Statement) : Start → Slot → Prop
  | column {columns : List Source} (hmem : .query inner ∈ columns) :
      Nests inner (.select columns) .columns
  | ids (table : Text) {ids : Value} (hids : ids.Nests inner) :
      Nests inner (.fetchByIds table ids) .conditions
  | values (table : Text) {values : Bindings} {name : Text} {value : Value}
      (hentry : (name, value) ∈ values.entries) (hvalue : value.Nests inner) :
      Nests inner (.fetchByColumns table values) .conditions

def Step.replaces : Step → Slot → Bool
  | selectColumns _, .columns => true
  | readFrom _, .source => true
  | readFromText _, .source => true
  | join _, .joins => true
  | leftJoin _, .leftJoins => true
  | filter _, .conditions => true
  | having _, .having => true
  | _, _ => false

/-- The outer SELECT is finished with the inner statement nested in it: some call puts
the inner statement into a clause that no later call replaces. -/
inductive NestedIn (inner outer : Statement) : Prop
  | start {start : Start} {slot : Slot} {later : List Step} (hnests : start.Nests inner slot)
      (hkept : ∀ other ∈ later, other.replaces slot = false)
      (hfinished : (start.draft.run later).finished = .ok outer)
  | call {draft : Draft} {call : Step} {slot : Slot} {later : List Step}
      (hkind : draft.statement.kind = .select) (hnests : call.Nests inner slot)
      (hkept : ∀ other ∈ later, other.replaces slot = false)
      (hfinished : ((call.apply draft).run later).finished = .ok outer)

theorem standsIn_texts {condition : Condition} {conditions : List Condition}
    (hmem : condition ∈ conditions) (hnests : condition.Nests inner) :
    inner.StandsIn (Condition.texts conditions) :=
  ⟨condition.text, hnests.mem_texts hmem, hnests.isInfix_text⟩

theorem standsIn_joinTexts {entry : Join} {joins : List Join} (hmem : entry ∈ joins)
    (hnests : entry.Nests inner) : inner.StandsIn (joinTexts (joins.map Join.rendered)) := by
  have hrendered : entry.rendered ∈ joins.map Join.rendered := List.mem_map_of_mem hmem
  cases hnests with
  | source template bindings =>
      exact ⟨inner.nested, List.mem_flatMap.2 ⟨_, hrendered, List.mem_cons_self⟩,
        inner.isInfix_nested⟩
  | condition source hnests =>
      exact ⟨_, List.mem_flatMap.2 ⟨_, hrendered, List.mem_cons_of_mem _ List.mem_cons_self⟩,
        hnests.isInfix_interpolate⟩

/-- After the call the statement stands in one of the texts of the clause. -/
theorem Step.Nests.standsIn {call : Step} {slot : Slot} (hnests : call.Nests inner slot)
    (s : Statement) : inner.StandsIn (slot.texts (call.revised s)) := by
  cases hnests with
  | column hmem => exact ⟨inner.nested, List.mem_map_of_mem hmem, inner.isInfix_nested⟩
  | source => exact ⟨inner.nested, List.mem_singleton_self _, inner.isInfix_nested⟩
  | filter hmem hnests => exact standsIn_texts hmem hnests
  | filterAlso hmem hnests => exact (standsIn_texts hmem hnests).append_left s.conditions
  | having hmem hnests => exact standsIn_texts hmem hnests
  | havingAlso hmem hnests => exact (standsIn_texts hmem hnests).append_left s.having
  | join hmem hnests => exact standsIn_joinTexts hmem hnests
  | @joinAlso entry joins hmem hnests =>
      change inner.StandsIn (joinTexts (s.joins ++ joins.map Join.rendered))
      rw [joinTexts_append]
      exact (standsIn_joinTexts hmem hnests).append_left _
  | leftJoin hmem hnests => exact standsIn_joinTexts hmem hnests
  | @leftJoinAlso entry joins hmem hnests =>
      change inner.StandsIn (joinTexts (s.leftJoins ++ joins.map Join.rendered))
      rw [joinTexts_append]
      exact (standsIn_joinTexts hmem hnests).append_left _

/-- A call that does not replace a clause leaves the texts in it, perhaps with further
ones after them. -/
theorem Step.isPrefix_texts_revised {call : Step} {slot : Slot}
    (hkept : call.replaces slot = false) (s : Statement) :
    slot.texts s <+: slot.texts (call.revised s) := by
  cases call with
  | paginate page size =>
      rw [revised_paginate]
      split <;> cases slot <;> exact List.prefix_rfl
  | values rows =>
      rw [revised_values]
      split <;> cases slot <;> exact List.prefix_rfl
  | commonValues cells =>
      rw [revised_commonValues]
      split <;> cases slot <;> exact List.prefix_rfl
  | stampFrom clock =>
      rw [revised_stampFrom]
      split <;> cases slot <;> exact List.prefix_rfl
  | filterAlso conditions =>
      cases slot
      case conditions => exact List.prefix_append _ _
      all_goals exact List.prefix_rfl
  | havingAlso conditions =>
      cases slot
      case having => exact List.prefix_append _ _
      all_goals exact List.prefix_rfl
  | joinAlso joins =>
      cases slot
      case joins => exact ⟨_, (joinTexts_append s.joins _).symm⟩
      all_goals exact List.prefix_rfl
  | leftJoinAlso joins =>
      cases slot
      case leftJoins => exact ⟨_, (joinTexts_append s.leftJoins _).symm⟩
      all_goals exact List.prefix_rfl
  | _ =>
      cases slot
      all_goals first
        | exact List.prefix_rfl
        | cases hkept

/-- A statement that stands in a clause stays there as long as no call replaces the clause. -/
theorem standsIn_texts_run {draft : Draft} {slot : Slot}
    (hstands : inner.StandsIn (slot.texts draft.statement)) {later : List Step}
    (hkept : ∀ other ∈ later, other.replaces slot = false) :
    inner.StandsIn (slot.texts (draft.run later).statement) := by
  induction later generalizing draft with
  | nil => exact hstands
  | cons call later ih =>
      have hcall := call.isPrefix_texts_revised (hkept call List.mem_cons_self) draft.statement
      rw [run_cons]
      apply ih _ fun other hother => hkept other (List.mem_cons_of_mem call hother)
      rw [call.apply_eq]
      exact hstands.of_isPrefix hcall

/-- A draft that begins with a nested statement is a SELECT, with the statement nested by
its last call. -/
theorem Start.Nests.exists_call {start : Start} {slot : Slot} (hnests : start.Nests inner slot) :
    ∃ draft call, draft.statement.kind = .select ∧ Step.Nests inner call slot ∧
      start.draft = call.apply draft := by
  cases hnests with
  | @column columns hmem =>
      exact ⟨⟨.empty .select, none⟩, .selectColumns columns, rfl, .column hmem, rfl⟩
  | @ids table ids hids =>
      refine ⟨(Draft.select [.text "*"]).readFrom (.text table), .filter _, rfl,
        .filter List.mem_cons_self (.template ⟨"ids", ids, ?_, List.mem_singleton_self _,
          hids⟩), rfl⟩
      exact ⟨"id IN (", ")", rfl, by decide, List.all_eq_true.1 (by decide), by decide⟩
  | @values table values name value hentry hvalue =>
      exact ⟨(Draft.select [.text "*"]).readFrom (.text table), .filter _, rfl,
        .filter List.mem_cons_self (.column hentry hvalue), rfl⟩

/-- One level of a tower keeps the text of the inner statement. -/
theorem NestedIn.isInfix_sql {outer : Statement} (hnested : NestedIn inner outer) :
    inner.sql <:+: outer.sql := by
  have hcall : ∀ {draft : Draft} {call : Step} {slot : Slot} {later : List Step},
      draft.statement.kind = .select → call.Nests inner slot →
      (∀ other ∈ later, other.replaces slot = false) →
      ((call.apply draft).run later).finished = .ok outer → inner.sql <:+: outer.sql := by
    intro draft call slot later hkind hnests hkept hfinished
    obtain ⟨-, rfl⟩ := fault_and_statement_of_finished hfinished
    have hstands : inner.StandsIn (slot.texts (call.apply draft).statement) := by
      rw [call.apply_eq]
      exact hnests.standsIn draft.statement
    obtain ⟨text, hmem, hinside⟩ := standsIn_texts_run hstands hkept
    refine hinside.trans (Statement.isInfix_sql_of_mem_texts ?_ hmem)
    rw [kind_run, call.apply_eq, call.kind_revised, hkind]
  cases hnested with
  | call hkind hnests hkept hfinished => exact hcall hkind hnests hkept hfinished
  | start hnests hkept hfinished =>
      obtain ⟨draft, call, hkind, hcallNests, hstart⟩ := hnests.exists_call
      rw [hstart] at hfinished
      exact hcall hkind hcallNests hkept hfinished

/-- However many SELECTs are built around a statement, each with the one before it nested
in a clause that it keeps, the text of the statement stands unchanged in the text of the
outermost one. -/
theorem innermost_sql_isInfix_of_tower {innermost outermost : Statement}
    (htower : Relation.ReflTransGen NestedIn innermost outermost) :
    innermost.sql <:+: outermost.sql := by
  induction htower with
  | refl => exact List.infix_rfl
  | tail _ hlevel ih => exact ih.trans hlevel.isInfix_sql

/-- A SELECT with a text that looks like a placeholder and contains a tag. -/
def withDollars : Statement where
  kind := .select
  columns := some ["id".toList]
  source := some (Identifier.quote "s")
  conditions := Condition.texts [.template "a = $x" (.ofList [("x", .text "$y $Q$")])]

/-- A join whose condition binds a placeholder to a list with the statement in it. -/
def binding (s : Statement) : Join :=
  ⟨.text "t", "t.a IN ($y)", .ofList [("y", .list [.int 1, .list [.query s]])]⟩

theorem nests_binding (s : Statement) : (binding s).Nests s := by
  have hoccurs : Template.Occurs "y" "t.a IN ($y)" :=
    ⟨"t.a IN (", ")", rfl, by decide, List.all_eq_true.1 (by decide), by decide⟩
  have hvalue : (Value.list [.int 1, .list [.query s]]).Nests s :=
    .item (List.mem_cons_of_mem _ List.mem_cons_self) (.item List.mem_cons_self .query)
  exact .condition _ ⟨"y", _, hoccurs, List.mem_singleton_self _, hvalue⟩

theorem dollars_reach_second_level :
    withDollars.sql = "SELECT id FROM \x22s\x22 WHERE (a = $Q0$$y $Q$$Q0$)" ∧
      ∃ middle outermost, NestedIn withDollars middle ∧ NestedIn middle outermost ∧
        withDollars.sql <:+: outermost.sql := by
  have hmiddle : NestedIn withDollars
      ((((select []).readFrom (.text "u")).leftJoin [binding withDollars]).limit 5).statement :=
    @NestedIn.call _ _ ((select []).readFrom (.text "u")) _ _ [.limit 5] rfl
      (.leftJoin List.mem_cons_self (nests_binding withDollars)) (by simp [Step.replaces]) rfl
  have houter : ∀ middle : Statement,
      NestedIn middle (((select [.query middle]).readFrom (.text "u")).join
        [binding middle]).statement := fun middle =>
    @NestedIn.start _ _ (.select [.query middle]) _ [.readFrom (.text "u"), .join [_]]
      (.column List.mem_cons_self) (by simp [Step.replaces]) rfl
  exact ⟨by decide +kernel, _, _, hmiddle, houter _,
    innermost_sql_isInfix_of_tower (.tail (.single hmiddle) (houter _))⟩

end Draft

end SqlBuilder
