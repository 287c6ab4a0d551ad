import SqlBuilder.Text.Basic

/-!
Statements: the clauses of one SELECT, INSERT, UPDATE or DELETE, each already
rendered to SQL text with its names and values quoted.
-/

namespace SqlBuilder

inductive Kind where
  | select
  | insert
  | update
  | delete
deriving DecidableEq, Repr

namespace Kind

/-- The words that a statement of the kind begins with. -/
def keyword : Kind → Text
  | select => "SELECT"
  | insert => "INSERT INTO"
  | update => "UPDATE"
  | delete => "DELETE FROM"

end Kind

structure Joined where
  source : Text
  condition : Text
deriving DecidableEq, Repr

/-- Where rows without a value go in an ordering. -/
inductive NullsPlacement where
  | first
  | last
deriving DecidableEq, Repr

structure Direction where
  descending : Bool
  nulls : Option NullsPlacement
deriving DecidableEq, Repr

structure SortKey where
  column : Text
  direction : Option Direction
deriving DecidableEq, Repr

/-- The clauses of one statement.  Every kind uses the clauses that it has a
place for and leaves the others alone. -/
structure Statement where
  kind : Kind
  /-- The target of INSERT, UPDATE and DELETE. -/
  table : Option Text := none
  /-- The list of a SELECT. -/
  columns : Option (List Text) := none
  distinctOn : List Text := []
  source : Option Text := none
  joins : List Joined := []
  leftJoins : List Joined := []
  conditions : List Text := []
  groupBy : List Text := []
  having : List Text := []
  orderBy : List SortKey := []
  limit : Option Int64 := none
  offset : Option Int64 := none
  aliasName : Option Text := none
  explain : Bool := false
  insertColumns : List Text := []
  rows : Option (List (List Text)) := none
  assignments : Option Text := none
  returning : List Text := []
deriving DecidableEq, Repr

namespace Statement

def empty (kind : Kind) : Statement := { kind := kind }

def targeting (kind : Kind) (table : Text) : Statement :=
  { kind := kind, table := some table }

end Statement

end SqlBuilder
