import SqlBuilder.Text.Digits

/-!
What can go wrong when a statement is built, checked or run, and how it is
reported.
-/

namespace SqlBuilder

/-- Why an argument of a builder cannot be used. -/
inductive Malformed where
  /-- Rows to insert, but no column. -/
  | noColumn
  /-- Columns, but no row to insert. -/
  | noRow
  /-- The row of this index has this many values for this many columns. -/
  | raggedRow (row values columns : Nat)
  /-- The row of this index names other columns than the first row. -/
  | otherColumns (row : Nat)
  /-- Values common to all rows, before there are rows. -/
  | commonValuesWithoutRows
  /-- The rows before the page are too many for a sixty-four bit offset. -/
  | offsetOverflow (page size : Int64)
  /-- A reason given from outside. -/
  | reported (reason : Text)
deriving DecidableEq, Repr

namespace Malformed

def message : Malformed → Text
  | noColumn => "values() needs at least one column"
  | noRow => "values() needs at least one row"
  | raggedRow row values columns =>
      "values() row " ++ Text.ofNat row ++ " has " ++ Text.ofNat values ++ " values for " ++
        Text.ofNat columns ++ " columns"
  | otherColumns row =>
      "values() row " ++ Text.ofNat row ++ " has different columns than the first row"
  | commonValuesWithoutRows => "common_values() called before values()"
  | offsetOverflow page size =>
      "paginate() offset overflows for page " ++ Text.ofInt page.toInt ++ " of size " ++
        Text.ofInt size.toInt
  | reported reason => reason

end Malformed

/-- Everything that can go wrong. -/
inductive Error where
  /-- The statement cannot be rendered without the clause. -/
  | missingClause (statement clause : Text)
  | malformed (cause : Malformed)
  | connection (reason : Text)
  | query (reason : Text)
  | pool (reason : Text)
  | serialization (reason : Text)
deriving DecidableEq, Repr

namespace Error

def message : Error → Text
  | missingClause statement clause => clause ++ " clause is missing for " ++ statement
  | malformed cause => "Malformed input: " ++ cause.message
  | connection reason => "Connection error: " ++ reason
  | query reason => "Query error: " ++ reason
  | pool reason => "Pool error: " ++ reason
  | serialization reason => "Serialization error: " ++ reason

def isMissingClause : Error → Bool
  | missingClause .. => true
  | _ => false

def isMalformed : Error → Bool
  | malformed _ => true
  | _ => false

end Error

end SqlBuilder
