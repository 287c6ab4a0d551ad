import SqlBuilder.Number.Binary64
import SqlBuilder.Quoting.DollarQuoted
import SqlBuilder.Statement.Sql
import SqlBuilder.Time.Instant

/-!
Values and their SQL literals.  A literal is total and needs no escaping: texts
are dollar-quoted, a statement stands for its own SQL, and a list for its items
with commas between them.
-/

namespace SqlBuilder

/-- What can be bound to a placeholder, compared with a column or inserted. -/
inductive Value where
  | null
  | bool (value : Bool)
  | int (value : Int64)
  | float (value : Binary64)
  | text (value : Text)
  | timestamp (value : Instant)
  | query (statement : Statement)
  | list (items : List Value)
deriving Repr

namespace Value

def isNull : Value → Bool
  | null => true
  | _ => false

/-- The value of an unsigned number: a number as long as it fits a signed
sixty-four bit integer, beyond that the text of its digits. -/
def ofUnsigned (n : UInt64) : Value :=
  if n.toNat < 0x8000000000000000 then int n.toInt64 else text (Text.ofNat n.toNat)

mutual

def literal : Value → Text
  | null => "NULL"
  | bool true => "\x27t\x27"
  | bool false => "\x27f\x27"
  | int n => Text.ofInt n.toInt
  | float x => DollarQuoted.quote x.text
  | text t => DollarQuoted.quote t
  | timestamp instant => "\x27" ++ instant.text ++ "\x27"
  | query statement => statement.sql
  | list [] => "NULL"
  | list (item :: items) => Text.joined ", " (literals (item :: items))

def literals : List Value → List Text
  | [] => []
  | item :: items => literal item :: literals items

end

theorem literals_eq_map (items : List Value) : literals items = items.map literal := by
  induction items with
  | nil => simp [literals]
  | cons item items ih => simp [literals, ih]

theorem literal_list_cons (item : Value) (items : List Value) :
    literal (list (item :: items)) = Text.joined ", " ((item :: items).map literal) := by
  rw [literal, literals_eq_map]

example : literal (list [int 1, list [], text "x"]) = "1, NULL, $Q$x$Q$" := by decide
example : (ofUnsigned 0x8000000000000000).literal = "$Q$9223372036854775808$Q$" := by
  decide +kernel

end Value

end SqlBuilder
