import SqlBuilder.Clause.Assignment
import SqlBuilder.Clause.Condition
import SqlBuilder.Clause.Join
import SqlBuilder.Clause.Ordering
import SqlBuilder.Clause.RowSet
import SqlBuilder.Clause.Source
import SqlBuilder.Draft.Pagination
import SqlBuilder.Event
import SqlBuilder.Statement.Check

/-!
Drafts: statements under construction.  A draft collects clauses one call after
another and remembers the first call whose argument could not be used; such a
call leaves the clauses as they were.  A draft is finished by checking it.
-/

namespace SqlBuilder

/-- A statement under construction, and the first fault of its construction. -/
structure Draft where
  statement : Statement
  fault : Option Malformed := none
deriving DecidableEq, Repr

namespace Draft

def select (columns : List Source) : Draft :=
  ⟨{ Statement.empty .select with columns := some (columns.map Source.asExpression) }, none⟩

def insertInto (table : Text) : Draft :=
  ⟨Statement.targeting .insert (Identifier.quote table), none⟩

def update (table : Text) : Draft :=
  ⟨Statement.targeting .update (Identifier.quote table), none⟩

def deleteFrom (table : Text) : Draft :=
  ⟨Statement.targeting .delete (Identifier.quote table), none⟩

def revise (draft : Draft) (change : Statement → Statement) : Draft :=
  { draft with statement := change draft.statement }

/-- Remembers a fault, unless there is one already. -/
def blame (draft : Draft) (fault : Malformed) : Draft :=
  { draft with fault := draft.fault.or (some fault) }

def selectColumns (draft : Draft) (columns : List Source) : Draft :=
  draft.revise fun s => { s with columns := some (columns.map Source.asExpression) }

def distinctOn (draft : Draft) (columns : List Text) : Draft :=
  draft.revise fun s => { s with distinctOn := columns }

/-- Reads from a table or a nested statement. -/
def readFrom (draft : Draft) (source : Source) : Draft :=
  draft.revise fun s => { s with source := some source.asTable }

def readFromText (draft : Draft) (sql : Text) : Draft :=
  draft.revise fun s => { s with source := some sql }

def named (draft : Draft) (name : Text) : Draft :=
  draft.revise fun s => { s with aliasName := some (Identifier.quote name) }

/-- Sets the conditions of WHERE. -/
def filter (draft : Draft) (conditions : List Condition) : Draft :=
  draft.revise fun s => { s with conditions := Condition.texts conditions }

/-- Adds to the conditions of WHERE. -/
def filterAlso (draft : Draft) (conditions : List Condition) : Draft :=
  draft.revise fun s => { s with conditions := s.conditions ++ Condition.texts conditions }

def having (draft : Draft) (conditions : List Condition) : Draft :=
  draft.revise fun s => { s with having := Condition.texts conditions }

def havingAlso (draft : Draft) (conditions : List Condition) : Draft :=
  draft.revise fun s => { s with having := s.having ++ Condition.texts conditions }

def join (draft : Draft) (joins : List Join) : Draft :=
  draft.revise fun s => { s with joins := joins.map Join.rendered }

def joinAlso (draft : Draft) (joins : List Join) : Draft :=
  draft.revise fun s => { s with joins := s.joins ++ joins.map Join.rendered }

def leftJoin (draft : Draft) (joins : List Join) : Draft :=
  draft.revise fun s => { s with leftJoins := joins.map Join.rendered }

def leftJoinAlso (draft : Draft) (joins : List Join) : Draft :=
  draft.revise fun s => { s with leftJoins := s.leftJoins ++ joins.map Join.rendered }

def groupBy (draft : Draft) (columns : List Text) : Draft :=
  draft.revise fun s => { s with groupBy := columns }

def orderBy (draft : Draft) (keys : List OrderKey) : Draft :=
  draft.revise fun s => { s with orderBy := keys.map OrderKey.rendered }

def limit (draft : Draft) (rows : Int64) : Draft :=
  draft.revise fun s => { s with limit := some rows }

def offset (draft : Draft) (rows : Int64) : Draft :=
  draft.revise fun s => { s with offset := some rows }

/-- Restricts the rows to a page.  A page beyond the sixty-four bit offsets is a fault. -/
def paginate (draft : Draft) (page : Option Int64) (size : Int64) : Draft :=
  match Window.ofPage page size with
  | .ok window => (draft.limit window.limit).offset window.offset
  | .error fault => draft.blame fault

def insertColumns (draft : Draft) (columns : List Text) : Draft :=
  draft.revise fun s => { s with insertColumns := columns.map Identifier.quote }

/-- Sets the rows to insert together with their columns.  Rows that make up no
table are a fault. -/
def values (draft : Draft) (rows : RowSet) : Draft :=
  match rows.toTable with
  | .ok table =>
      draft.revise fun s =>
        { s with
          insertColumns := table.rendered.columns
          rows := some table.rendered.rows }
  | .error fault => draft.blame fault

/-- Gives every row the same further cells, and adds their columns.  It is a
fault if there are no rows yet. -/
def commonValues (draft : Draft) (cells : Bindings) : Draft :=
  match draft.statement.rows with
  | none => draft.blame .commonValuesWithoutRows
  | some rows =>
      draft.revise fun s =>
        { s with
          insertColumns := s.insertColumns ++ cells.names.map Identifier.quote
          rows := some (rows.map fun row => row ++ cells.values.map Value.literal) }

def assign (draft : Draft) (assignments : Assignments) : Draft :=
  draft.revise fun s => { s with assignments := some assignments.text }

def createdColumn : Text := "created_at"

def updatedColumn : Text := "updated_at"

/-- Stamps the rows with the time of their creation and of their last update or,
if there are no rows, the assignments with the time of the last update. -/
def stamp (draft : Draft) (now : Instant) : Draft :=
  let time := (Value.timestamp now).literal
  match draft.statement.rows, draft.statement.assignments with
  | some rows, _ =>
      draft.revise fun s =>
        { s with
          insertColumns := s.insertColumns ++ [createdColumn, updatedColumn]
          rows := some (rows.map fun row => row ++ [time, time]) }
  | none, some assignments =>
      draft.revise fun s =>
        { s with assignments := some (assignments ++ ", " ++ updatedColumn ++ " = " ++ time) }
  | none, none => draft

/-- Stamps with the current time, for which the clock is asked once. -/
def stampFrom (draft : Draft) (clock : Clock) : Draft × Clock :=
  let (now, later) := clock.read
  (draft.stamp now, later)

def returning (draft : Draft) (columns : List Text) : Draft :=
  draft.revise fun s => { s with returning := columns.map Identifier.quote }

def explain (draft : Draft) : Draft :=
  draft.revise fun s => { s with explain := true }

/-- A fault of the construction comes before a clause that is missing. -/
def check (draft : Draft) : Except Error Unit :=
  match draft.fault with
  | some fault => .error (.malformed fault)
  | none => draft.statement.check

def finished (draft : Draft) : Except Error Statement :=
  draft.check.map fun _ => draft.statement

def sql (draft : Draft) : Except Error Text :=
  draft.check.map fun _ => draft.statement.sql

/-- Finishes the statement and reports that it is final. -/
def finalize (draft : Draft) : Reported (Except Error Statement) where
  log :=
    match draft.finished with
    | .ok statement => [.finalized statement.kind statement.table]
    | .error _ => []
  result := draft.finished

/-- A SELECT that collects the rows of this one, which it finishes under the
name, into one JSON array. -/
def toJson (draft : Draft) (name : Text) : Except Error Draft :=
  (draft.named name).finished.map fun inner =>
    (select [.text ("array_to_json(array_agg(row_to_json(" ++ name ++ ")))")]).readFrom
      (.query inner)

/-- A SELECT of everything from a table under a condition. -/
def fetch (table : Text) (condition : Condition) : Draft :=
  ((select [.text "*"]).readFrom (.text table)).filter [condition]

def fetchByIds (table : Text) (ids : Value) : Draft :=
  fetch table (.template "id IN ($ids)" (.ofList [("ids", ids)]))

def fetchByColumns (table : Text) (values : Bindings) : Draft :=
  fetch table (.columns values)

end Draft

end SqlBuilder
