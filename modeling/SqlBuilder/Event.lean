import SqlBuilder.Statement.Basic

/-!
Events that the library reports while it works, for a log.
-/

namespace SqlBuilder

/-- How important an event is. -/
inductive Level where
  | error
  | warn
  | info
  | debug
  | trace
deriving DecidableEq, Repr

namespace Level

def all : List Level := [error, warn, info, debug, trace]

def name : Level → Text
  | error => "ERROR"
  | warn => "WARN"
  | info => "INFO"
  | debug => "DEBUG"
  | trace => "TRACE"

def ofName? (name : Text) : Option Level := all.find? fun level => level.name == name

theorem ofName?_name (level : Level) : ofName? level.name = some level := by
  cases level <;> decide

end Level

/-- Something worth a line in a log. -/
inductive Event where
  /-- A statement was checked and is final. -/
  | finalized (kind : Kind) (table : Option Text)
  /-- SQL is about to be sent; the text may be cut. -/
  | sending (level : Level) (sql : Text)
  /-- SQL was run and gave this many rows. -/
  | executed (rows : Nat)
  /-- A pool of connections was made. -/
  | poolCreated (maxSize : Nat) (verifyOnRecycle : Bool)
deriving DecidableEq, Repr

namespace Event

/-- The part of the library that an event comes from. -/
def target : Event → Text
  | finalized .. => "qx.compile"
  | sending .. => "qx.sql"
  | executed _ => "qx.sql"
  | poolCreated .. => "qx.pool"

def level : Event → Level
  | sending level _ => level
  | _ => .debug

def message? : Event → Option Text
  | finalized .. => some "statement finalized"
  | sending .. => none
  | executed _ => some "statement executed"
  | poolCreated .. => some "pool created"

end Event

/-- A result together with the events that were reported on the way to it. -/
structure Reported (α : Type) where
  log : List Event
  result : α

end SqlBuilder
