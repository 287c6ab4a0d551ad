import SqlBuilder.Error

/-!
Windows of rows: the LIMIT and OFFSET of a page, in sixty-four bit integers.
-/

namespace SqlBuilder

structure Window where
  limit : Int64
  offset : Int64
deriving DecidableEq, Repr

namespace Window

/-- The page asked for, counted from 1; anything below 1 means the first. -/
def pageNumber (page : Option Int64) : Int64 :=
  match page with
  | none => 1
  | some page => if 1 ≤ page then page else 1

/-- The size asked for, at least zero. -/
def pageSize (size : Int64) : Int64 := if 0 ≤ size then size else 0

/-- The window of a page.  The rows before it are counted exactly, and a page
whose count does not fit into sixty-four bits is refused. -/
def ofPage (page : Option Int64) (size : Int64) : Except Malformed Window :=
  let page := pageNumber page
  let size := pageSize size
  let before := (page.toInt - 1) * size.toInt
  if before ≤ Int64.maxValue.toInt then .ok ⟨size, Int64.ofInt before⟩
  else .error (.offsetOverflow page size)

example : ofPage (some 3) 20 = .ok ⟨20, 40⟩ := rfl
example : ofPage (some (-4)) (-1) = .ok ⟨0, 0⟩ := rfl

end Window

end SqlBuilder
