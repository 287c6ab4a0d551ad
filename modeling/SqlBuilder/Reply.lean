import SqlBuilder.Error
import SqlBuilder.Record

/-!
Replies of a server to a simple query.  The driver delivers all messages of a reply, its rows
with the columns that were last named, or it reports a failure and delivers nothing.  The
rows that are delivered become records, and consecutive ones with the same columns share
them.
-/

namespace SqlBuilder

/-- A message of a reply. -/
inductive Message where
  /-- The names of the columns of the rows that follow. -/
  | columns (names : List Text)
  | row (values : List (Option Text))
  /-- A statement is done. -/
  | complete (tag : Text)
  /-- There was no statement. -/
  | empty
  | error (code reason : Text)
  /-- The connection is gone. -/
  | hangup
deriving DecidableEq, Repr

/-- Why the driver delivers nothing. -/
inductive DriverFailure where
  /-- The server has reported an error. -/
  | database (code reason : Text)
  /-- A row has come before any columns. -/
  | unexpectedMessage
  /-- The connection is gone. -/
  | closed
deriving DecidableEq, Repr

namespace DriverFailure

def isClosed : DriverFailure → Bool
  | closed => true
  | _ => false

def message : DriverFailure → Text
  | database _ _ => "db error"
  | unexpectedMessage => "unexpected message from server"
  | closed => "connection closed"

end DriverFailure

/-- The error that stands for a failure of the driver. -/
def Error.ofDriver (failure : DriverFailure) : Error :=
  if failure.isClosed then .connection failure.message else .query failure.message

structure Row where
  columns : List Text
  cells : List (Option Text)
deriving DecidableEq, Repr

namespace Row

def size (row : Row) : Nat := row.columns.length

/-- The value in a column.  There is none if it is NULL. -/
def get? (row : Row) (index : Nat) : Option Text := row.cells[index]?.join

end Row

/-- What the driver delivers of a message. -/
inductive Delivery where
  | columns (names : List Text)
  | row (row : Row)
  | complete
deriving DecidableEq, Repr

namespace Record

/-- Whether these are the columns of the record. -/
def sharesColumns (record : Record) (names : List Text) : Bool :=
  record.columns.length == names.length &&
    (record.columns.zip names).all fun pair => pair.1 == pair.2

/-- The record of a row.  It takes the columns of the record before it if they are the same,
and otherwise makes a list of its own. -/
def ofRow (previous : Option Record) (row : Row) : Record where
  columns :=
    match previous with
    | some record => if record.sharesColumns row.columns then record.columns else row.columns
    | none => row.columns
  values := (List.range row.size).map row.get?

end Record

namespace Reply

/-- The columns of a row that comes after the message, given those before it. -/
def columnsAfter (names : Option (List Text)) : Message → Option (List Text)
  | .columns next => some next
  | _ => names

/-- What the driver delivers of a message after these columns. -/
def delivery (names : Option (List Text)) : Message → Except DriverFailure Delivery
  | .columns next => .ok (.columns next)
  | .row values =>
      match names with
      | some names => .ok (.row ⟨names, values⟩)
      | none => .error .unexpectedMessage
  | .complete _ => .ok .complete
  | .empty => .ok .complete
  | .error code reason => .error (.database code reason)
  | .hangup => .error .closed

/-- What the driver delivers of a reply after these columns.  The first failure decides. -/
def deliveredAfter : (names : Option (List Text)) → List Message →
    Except DriverFailure (List Delivery)
  | _, [] => .ok []
  | names, message :: rest => do
      let first ← delivery names message
      let others ← deliveredAfter (columnsAfter names message) rest
      .ok (first :: others)

def delivered (messages : List Message) : Except DriverFailure (List Delivery) :=
  deliveredAfter none messages

/-- The records before, and the one of the delivery if it is a row. -/
def withRecord (records : List Record) : Delivery → List Record
  | .row row => records ++ [Record.ofRow records.getLast? row]
  | _ => records

def recordsOf (deliveries : List Delivery) : List Record := deliveries.foldl withRecord []

/-- The records of a whole reply, all of them or none. -/
def records (messages : List Message) : Except Error (List Record) :=
  match delivered messages with
  | .ok deliveries => .ok (recordsOf deliveries)
  | .error failure => .error (.ofDriver failure)

end Reply

end SqlBuilder
