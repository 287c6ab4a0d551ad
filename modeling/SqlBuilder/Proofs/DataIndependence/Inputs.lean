import SqlBuilder.Draft.Step
import SqlBuilder.Proofs.DataIndependence.Skeleton

/-!
Inputs of two runs that differ in the contents of the texts passed as data only.
A text that may differ stands at a place, which names its content in either run.
Table and column names, templates, numbers, flags and clocks are the same in both
runs, and nested statements are the results of two such chains themselves.
-/

namespace SqlBuilder

namespace Runs

open Draft

section

variable {ι : Type} (runs : Runs ι) (nested : Statement → Statement → Prop)

/-- Values that differ in the contents of their texts only. -/
inductive AlikeValue : Value → Value → Prop
  | same (value : Value) : AlikeValue value value
  | text (place : ι) : AlikeValue (.text (runs.first place)) (.text (runs.second place))
  | query {first second : Statement} (hnested : nested first second) :
      AlikeValue (.query first) (.query second)
  | list {items others : List Value} (hlength : items.length = others.length)
      (hitems : ∀ {item other}, (item, other) ∈ items.zip others → AlikeValue item other) :
      AlikeValue (.list items) (.list others)

structure AlikeEntry (first second : Text × Value) : Prop where
  name : first.1 = second.1
  value : AlikeValue runs nested first.2 second.2

abbrev AlikeBindings (first second : Bindings) : Prop :=
  List.Forall₂ (AlikeEntry runs nested) first.entries second.entries

inductive AlikeSource : Source → Source → Prop
  | same (source : Source) : AlikeSource source source
  | query {first second : Statement} (hnested : nested first second) :
      AlikeSource (.query first) (.query second)

inductive AlikeCondition : Condition → Condition → Prop
  | template (sql : Text) {first second : Bindings}
      (hbindings : AlikeBindings runs nested first second) :
      AlikeCondition (.template sql first) (.template sql second)
  | columns {first second : Bindings} (hbindings : AlikeBindings runs nested first second) :
      AlikeCondition (.columns first) (.columns second)

structure AlikeJoin (first second : Join) : Prop where
  source : AlikeSource nested first.source second.source
  template : first.template = second.template
  bindings : AlikeBindings runs nested first.bindings second.bindings

abbrev AlikeCells (first second : List (List Value)) : Prop :=
  List.Forall₂ (List.Forall₂ (AlikeValue runs nested)) first second

inductive AlikeRows : RowSet → RowSet → Prop
  | table (columns : List Text) {first second : List (List Value)}
      (hrows : AlikeCells runs nested first second) :
      AlikeRows (.table columns first) (.table columns second)
  | maps {first second : List Bindings}
      (hmaps : List.Forall₂ (AlikeBindings runs nested) first second) :
      AlikeRows (.maps first) (.maps second)
  | single {first second : Bindings} (hmap : AlikeBindings runs nested first second) :
      AlikeRows (.single first) (.single second)

inductive AlikeAssignments : Assignments → Assignments → Prop
  | raw (sql : Text) : AlikeAssignments (.raw sql) (.raw sql)
  | columns {first second : Bindings} (hbindings : AlikeBindings runs nested first second) :
      AlikeAssignments (.columns first) (.columns second)

inductive AlikeStart : Start → Start → Prop
  | select {first second : List Source}
      (hcolumns : List.Forall₂ (AlikeSource nested) first second) :
      AlikeStart (.select first) (.select second)
  | insertInto (table : Text) : AlikeStart (.insertInto table) (.insertInto table)
  | update (table : Text) : AlikeStart (.update table) (.update table)
  | deleteFrom (table : Text) : AlikeStart (.deleteFrom table) (.deleteFrom table)
  | fetchByIds (table : Text) {first second : Value}
      (hids : AlikeValue runs nested first second) :
      AlikeStart (.fetchByIds table first) (.fetchByIds table second)
  | fetchByColumns (table : Text) {first second : Bindings}
      (hvalues : AlikeBindings runs nested first second) :
      AlikeStart (.fetchByColumns table first) (.fetchByColumns table second)

inductive AlikeStep : Step → Step → Prop
  | selectColumns {first second : List Source}
      (hcolumns : List.Forall₂ (AlikeSource nested) first second) :
      AlikeStep (.selectColumns first) (.selectColumns second)
  | distinctOn (columns : List Text) : AlikeStep (.distinctOn columns) (.distinctOn columns)
  | readFrom {first second : Source} (hsource : AlikeSource nested first second) :
      AlikeStep (.readFrom first) (.readFrom second)
  | readFromText (sql : Text) : AlikeStep (.readFromText sql) (.readFromText sql)
  | named (name : Text) : AlikeStep (.named name) (.named name)
  | filter {first second : List Condition}
      (hconditions : List.Forall₂ (AlikeCondition runs nested) first second) :
      AlikeStep (.filter first) (.filter second)
  | filterAlso {first second : List Condition}
      (hconditions : List.Forall₂ (AlikeCondition runs nested) first second) :
      AlikeStep (.filterAlso first) (.filterAlso second)
  | having {first second : List Condition}
      (hconditions : List.Forall₂ (AlikeCondition runs nested) first second) :
      AlikeStep (.having first) (.having second)
  | havingAlso {first second : List Condition}
      (hconditions : List.Forall₂ (AlikeCondition runs nested) first second) :
      AlikeStep (.havingAlso first) (.havingAlso second)
  | join {first second : List Join}
      (hjoins : List.Forall₂ (AlikeJoin runs nested) first second) :
      AlikeStep (.join first) (.join second)
  | joinAlso {first second : List Join}
      (hjoins : List.Forall₂ (AlikeJoin runs nested) first second) :
      AlikeStep (.joinAlso first) (.joinAlso second)
  | leftJoin {first second : List Join}
      (hjoins : List.Forall₂ (AlikeJoin runs nested) first second) :
      AlikeStep (.leftJoin first) (.leftJoin second)
  | leftJoinAlso {first second : List Join}
      (hjoins : List.Forall₂ (AlikeJoin runs nested) first second) :
      AlikeStep (.leftJoinAlso first) (.leftJoinAlso second)
  | groupBy (columns : List Text) : AlikeStep (.groupBy columns) (.groupBy columns)
  | orderBy (keys : List OrderKey) : AlikeStep (.orderBy keys) (.orderBy keys)
  | limit (rows : Int64) : AlikeStep (.limit rows) (.limit rows)
  | offset (rows : Int64) : AlikeStep (.offset rows) (.offset rows)
  | paginate (page : Option Int64) (size : Int64) :
      AlikeStep (.paginate page size) (.paginate page size)
  | insertColumns (columns : List Text) :
      AlikeStep (.insertColumns columns) (.insertColumns columns)
  | values {first second : RowSet} (hrows : AlikeRows runs nested first second) :
      AlikeStep (.values first) (.values second)
  | commonValues {first second : Bindings} (hcells : AlikeBindings runs nested first second) :
      AlikeStep (.commonValues first) (.commonValues second)
  | assign {first second : Assignments}
      (hassignments : AlikeAssignments runs nested first second) :
      AlikeStep (.assign first) (.assign second)
  | stampFrom (clock : Clock) : AlikeStep (.stampFrom clock) (.stampFrom clock)
  | returning (columns : List Text) : AlikeStep (.returning columns) (.returning columns)
  | explain : AlikeStep .explain .explain

inductive AlikeCall : Call → Call → Prop
  | step {first second : Step} (hstep : AlikeStep runs nested first second) :
      AlikeCall (.step first) (.step second)
  | toJson (name : Text) : AlikeCall (.toJson name) (.toJson name)

end

variable {ι : Type}

/-- Statements that two alike chains finish, in which statements of two alike chains
are nested, to any depth. -/
inductive AlikeStatement (runs : Runs ι) : Statement → Statement → Prop
  | finished {nested : Statement → Statement → Prop} {start other : Start}
      {calls others : List Call} {first second : Statement}
      (hnested : ∀ inner another, nested inner another → AlikeStatement runs inner another)
      (hstart : AlikeStart runs nested start other)
      (hcalls : List.Forall₂ (AlikeCall runs nested) calls others)
      (hfirst : (start.draft.follow calls).bind Draft.finished = .ok first)
      (hsecond : (other.draft.follow others).bind Draft.finished = .ok second) :
      AlikeStatement runs first second

end Runs

end SqlBuilder
