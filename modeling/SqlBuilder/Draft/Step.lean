import SqlBuilder.Draft.Basic

/-!
Chains of calls on a draft, as data: how a draft begins, and one constructor
for every call that can follow.
-/

namespace SqlBuilder

namespace Draft

/-- How a draft begins. -/
inductive Start where
  | select (columns : List Source)
  | insertInto (table : Text)
  | update (table : Text)
  | deleteFrom (table : Text)
  | fetchByIds (table : Text) (ids : Value)
  | fetchByColumns (table : Text) (values : Bindings)

namespace Start

def draft : Start → Draft
  | select columns => Draft.select columns
  | insertInto table => Draft.insertInto table
  | update table => Draft.update table
  | deleteFrom table => Draft.deleteFrom table
  | fetchByIds table ids => Draft.fetchByIds table ids
  | fetchByColumns table values => Draft.fetchByColumns table values

end Start

/-- A call on a draft. -/
inductive Step where
  | selectColumns (columns : List Source)
  | distinctOn (columns : List Text)
  | readFrom (source : Source)
  | readFromText (sql : Text)
  | named (name : Text)
  | filter (conditions : List Condition)
  | filterAlso (conditions : List Condition)
  | having (conditions : List Condition)
  | havingAlso (conditions : List Condition)
  | join (joins : List Join)
  | joinAlso (joins : List Join)
  | leftJoin (joins : List Join)
  | leftJoinAlso (joins : List Join)
  | groupBy (columns : List Text)
  | orderBy (keys : List OrderKey)
  | limit (rows : Int64)
  | offset (rows : Int64)
  | paginate (page : Option Int64) (size : Int64)
  | insertColumns (columns : List Text)
  | values (rows : RowSet)
  | commonValues (cells : Bindings)
  | assign (assignments : Assignments)
  | stampFrom (clock : Clock)
  | returning (columns : List Text)
  | explain

namespace Step

def apply (step : Step) (draft : Draft) : Draft :=
  match step with
  | selectColumns columns => draft.selectColumns columns
  | distinctOn columns => draft.distinctOn columns
  | readFrom source => draft.readFrom source
  | readFromText sql => draft.readFromText sql
  | named name => draft.named name
  | filter conditions => draft.filter conditions
  | filterAlso conditions => draft.filterAlso conditions
  | having conditions => draft.having conditions
  | havingAlso conditions => draft.havingAlso conditions
  | join joins => draft.join joins
  | joinAlso joins => draft.joinAlso joins
  | leftJoin joins => draft.leftJoin joins
  | leftJoinAlso joins => draft.leftJoinAlso joins
  | groupBy columns => draft.groupBy columns
  | orderBy keys => draft.orderBy keys
  | limit rows => draft.limit rows
  | offset rows => draft.offset rows
  | paginate page size => draft.paginate page size
  | insertColumns columns => draft.insertColumns columns
  | values rows => draft.values rows
  | commonValues cells => draft.commonValues cells
  | assign assignments => draft.assign assignments
  | stampFrom clock => (draft.stampFrom clock).1
  | returning columns => draft.returning columns
  | explain => draft.explain

end Step

def run (draft : Draft) (steps : List Step) : Draft :=
  steps.foldl (fun draft step => step.apply draft) draft

@[simp] theorem run_nil (draft : Draft) : draft.run [] = draft := rfl

@[simp] theorem run_cons (draft : Draft) (step : Step) (steps : List Step) :
    draft.run (step :: steps) = (step.apply draft).run steps := rfl

theorem run_append (draft : Draft) (first second : List Step) :
    draft.run (first ++ second) = (draft.run first).run second := by
  simp [run]

/-- The draft that begins like this and goes through these calls. -/
def build (start : Start) (steps : List Step) : Draft := start.draft.run steps

/-- A call in a chain: one that always yields a draft, or one that finishes the
draft and wraps it, which can fail. -/
inductive Call where
  | step (step : Step)
  | toJson (name : Text)

namespace Call

def apply : Call → Draft → Except Error Draft
  | step call, draft => .ok (call.apply draft)
  | toJson name, draft => draft.toJson name

end Call

/-- The draft after a chain of calls, or the error of the first call that fails. -/
def follow (draft : Draft) : List Call → Except Error Draft
  | [] => .ok draft
  | call :: calls => (call.apply draft).bind fun next => next.follow calls

theorem follow_steps (draft : Draft) (steps : List Step) :
    draft.follow (steps.map .step) = .ok (draft.run steps) := by
  induction steps generalizing draft with
  | nil => rfl
  | cons step steps ih => exact ih (step.apply draft)

end Draft

end SqlBuilder
