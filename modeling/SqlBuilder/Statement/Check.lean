import SqlBuilder.Error
import SqlBuilder.Statement.Sql

/-!
The clauses that a statement cannot do without.  A SELECT needs a source, an
INSERT rows or a SELECT with a source, an UPDATE an assignment, and a DELETE
nothing.
-/

namespace SqlBuilder.Statement

/-- The clause that is required but absent, if there is one, after the words
that name the statement. -/
def missingClause? (s : Statement) : Option (Text × Text) :=
  match s.kind with
  | .select => if s.source.isNone then some ("SELECT", "FROM") else none
  | .insert =>
      if s.columns.isSome then
        if s.source.isNone then some ("INSERT INTO ... SELECT", "FROM") else none
      else if s.rows.isNone then some ("INSERT INTO", "VALUES (or SELECT)")
      else none
  | .update => if s.assignments.isNone then some ("UPDATE", "SET") else none
  | .delete => none

/-- Refuses a statement that lacks a required clause. -/
def check (s : Statement) : Except Error Unit :=
  match s.missingClause? with
  | none => .ok ()
  | some (statement, clause) => .error (.missingClause statement clause)

end SqlBuilder.Statement
