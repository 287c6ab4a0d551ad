import SqlBuilder.Draft.Basic
import SqlBuilder.Record

/-!
Running SQL.  The database is an executor: a function from the SQL it is sent
to records or an error.  A run keeps what was sent and what was reported, in
the order in which it happened.
-/

namespace SqlBuilder

/-- Something that runs SQL. -/
abbrev Executor := Text → Except Error (List Record)

structure ExecutionOptions where
  /-- Whether the SQL is reported before it is sent. -/
  verbose : Bool := false
  format : RowFormat := .records
  /-- The level at which the SQL is reported. -/
  level : Level := .info
  /-- The number of bytes after which reported SQL is cut. -/
  maxLength : Option Nat := none
deriving DecidableEq, Repr

namespace ExecutionOptions

/-- The SQL as it is reported. -/
def shown (options : ExecutionOptions) (sql : Text) : Text :=
  match options.maxLength with
  | none => sql
  | some limit => Text.truncated limit sql

end ExecutionOptions

/-- Something that happens in a run. -/
inductive Action where
  | report (event : Event)
  | send (sql : Text)
deriving DecidableEq, Repr

structure Run where
  actions : List Action
  result : Except Error Output

namespace Run

def sent (run : Run) : List Text :=
  run.actions.filterMap fun
    | .send sql => some sql
    | .report _ => none

def log (run : Run) : List Event :=
  run.actions.filterMap fun
    | .send _ => none
    | .report event => some event

/-- A run that ends before anything happens. -/
def failed (error : Error) : Run := ⟨[], .error error⟩

end Run

/-- Sends the SQL without its NUL characters.  It is reported first if the
options ask for it; when it succeeds, the number of rows is reported. -/
def execute (executor : Executor) (options : ExecutionOptions) (sql : Text) : Run :=
  let sql := Text.withoutNul sql
  let announced :=
    if options.verbose then [.report (.sending options.level (options.shown sql))] else []
  match executor sql with
  | .error error => ⟨announced ++ [.send sql], .error error⟩
  | .ok records =>
      ⟨announced ++ [.send sql, .report (.executed records.length)],
        .ok (.ofRecords options.format records)⟩

/-- Fills in a template and sends it. -/
def executeTemplate (executor : Executor) (options : ExecutionOptions) (template : Text)
    (bindings : Bindings) : Run :=
  execute executor options (Template.interpolate template bindings)

namespace Statement

def execute (s : Statement) (executor : Executor) (options : ExecutionOptions) : Run :=
  SqlBuilder.execute executor options s.sql

end Statement

namespace Draft

/-- Checks the draft and sends it; nothing happens if the check fails. -/
def execute (draft : Draft) (executor : Executor) (options : ExecutionOptions) : Run :=
  match draft.sql with
  | .error error => Run.failed error
  | .ok sql => SqlBuilder.execute executor options sql

end Draft

end SqlBuilder
