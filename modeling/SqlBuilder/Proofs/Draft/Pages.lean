import Mathlib.Data.Int.Order.Basic
import SqlBuilder.Proofs.Draft.Failures

/-!
Pages as windows of rows.  A page number is at least 1 and a size at least 0, so that only
the product of the two can leave the sixty-four bit integers, and then the page is
refused.  The windows of the pages up to an accepted one are all accepted, and every row
from 0 to the end of the last window is in exactly one of them.
-/

namespace SqlBuilder

namespace Window

/-- The number of the page asked for: 1 if there is none or if it is below 1. -/
def askedPage (page : Option Int64) : Int :=
  page.elim 1 fun page => if 1 ≤ page.toInt then page.toInt else 1

/-- The size asked for: 0 if it is negative. -/
def askedSize (size : Int64) : Int := max size.toInt 0

/-- The product of two sixty-four bit integers, unless it overflows. -/
def checkedProduct? (first second : Int64) : Option Int64 :=
  if first.toBitVec.smulOverflow second.toBitVec then none else some (first * second)

def Shows (window : Window) (row : Int) : Prop :=
  window.offset.toInt ≤ row ∧ row < window.offset.toInt + window.limit.toInt

theorem one_le_askedPage (page : Option Int64) : 1 ≤ askedPage page := by
  cases page with
  | none => exact Int.le_refl 1
  | some page =>
      simp only [askedPage, Option.elim_some]
      split <;> omega

theorem askedPage_some {number : Int64} (hnumber : 1 ≤ number.toInt) :
    askedPage (some number) = number.toInt := by
  simp [askedPage, hnumber]

theorem askedSize_nonneg (size : Int64) : 0 ≤ askedSize size := Int.le_max_right _ _

theorem toInt_pageNumber (page : Option Int64) : (pageNumber page).toInt = askedPage page := by
  have hone : (1 : Int64).toInt = 1 := rfl
  cases page with
  | none => rfl
  | some page =>
      simp only [pageNumber, askedPage, Option.elim_some, Int64.le_iff_toInt_le, hone]
      split <;> rfl

/-- There is nothing below page 1, so counting the pages before a page cannot overflow. -/
theorem toInt_pageNumber_sub (page : Option Int64) :
    (pageNumber page - 1).toInt = askedPage page - 1 := by
  have hone : (1 : Int64).toInt = 1 := rfl
  have hle : (1 : Int64) ≤ pageNumber page := by
    rw [Int64.le_iff_toInt_le, hone, toInt_pageNumber]
    exact one_le_askedPage page
  rw [Int64.toInt_sub_of_le _ _ (by decide) hle, toInt_pageNumber, hone]

theorem rowsBefore_eq (page : Option Int64) (size : Int64) :
    rowsBefore page size = (askedPage page - 1) * askedSize size := by
  rw [rowsBefore, ← toInt_pageNumber_sub_one, toInt_pageNumber, askedSize]

theorem rowsBefore_nonneg (page : Option Int64) (size : Int64) : 0 ≤ rowsBefore page size := by
  have hpage := one_le_askedPage page
  rw [rowsBefore_eq]
  exact Int.mul_nonneg (by omega) (askedSize_nonneg size)

/-- A product that is not negative overflows exactly if it is beyond the greatest integer of
sixty-four bits. -/
theorem checkedProduct?_eq {first second : Int64} (hnonneg : 0 ≤ first.toInt * second.toInt) :
    checkedProduct? first second =
      if first.toInt * second.toInt ≤ 2 ^ 63 - 1 then some (.ofInt (first.toInt * second.toInt))
      else none := by
  have hflag : first.toBitVec.smulOverflow second.toBitVec = true ↔
      ¬ first.toInt * second.toInt ≤ 2 ^ 63 - 1 := by
    simp only [BitVec.smulOverflow, Int64.toInt_toBitVec, Bool.or_eq_true, decide_eq_true_eq]
    omega
  by_cases hfits : first.toInt * second.toInt ≤ 2 ^ 63 - 1
  · rw [checkedProduct?, if_neg (by rw [hflag]; simpa using hfits), if_pos hfits,
      Int64.ofInt_mul, Int64.ofInt_toInt, Int64.ofInt_toInt]
  · rw [checkedProduct?, if_pos (hflag.2 hfits), if_neg hfits]

variable {page : Option Int64} {size : Int64} {window : Window}

/-- The rows before the page are counted exactly if they are not too many. -/
theorem toInt_ofInt_rowsBefore (hfits : rowsBefore page size ≤ 2 ^ 63 - 1) :
    (Int64.ofInt (rowsBefore page size)).toInt = rowsBefore page size := by
  have hnonneg := rowsBefore_nonneg page size
  exact Int64.toInt_ofInt_of_le (by omega) (by omega)

theorem ofPage_eq (page : Option Int64) (size : Int64) :
    ofPage page size =
      if rowsBefore page size ≤ 2 ^ 63 - 1 then
        .ok ⟨pageSize size, .ofInt (rowsBefore page size)⟩
      else .error (.offsetOverflow (pageNumber page) (pageSize size)) := by
  have hlargest : Int64.maxValue.toInt = 2 ^ 63 - 1 := rfl
  rw [ofPage, toInt_pageNumber_sub_one, toInt_pageSize, hlargest, ← rowsBefore]

/-- A page is accepted exactly if the rows before it can be counted, and both numbers of its
window are exact. -/
theorem ofPage_eq_ok_iff :
    ofPage page size = .ok window ↔
      rowsBefore page size ≤ 2 ^ 63 - 1 ∧ window.limit.toInt = askedSize size ∧
        window.offset.toInt = rowsBefore page size := by
  by_cases hfits : rowsBefore page size ≤ 2 ^ 63 - 1
  · obtain ⟨limit, offset⟩ := window
    rw [ofPage_eq, if_pos hfits, Except.ok.injEq, Window.mk.injEq, ← Int64.toInt_inj,
      ← Int64.toInt_inj, toInt_pageSize, toInt_ofInt_rowsBefore hfits, ← askedSize]
    simp only [hfits, true_and, eq_comm]
  · rw [ofPage_eq, if_neg hfits]
    exact iff_of_false (by simp) fun hok => hfits hok.1

/-- The exact arithmetic comes to the same as arithmetic in sixty-four bits that notices
when a product overflows. -/
theorem ofPage_eq_checkedProduct? (page : Option Int64) (size : Int64) :
    ofPage page size =
      match checkedProduct? (pageNumber page - 1) (pageSize size) with
      | some before => .ok ⟨pageSize size, before⟩
      | none => .error (.offsetOverflow (pageNumber page) (pageSize size)) := by
  have hbefore : (pageNumber page - 1).toInt * (pageSize size).toInt = rowsBefore page size := by
    rw [toInt_pageNumber_sub, toInt_pageSize, rowsBefore_eq, askedSize]
  rw [checkedProduct?_eq (hbefore ▸ rowsBefore_nonneg page size), hbefore, ofPage_eq]
  by_cases hfits : rowsBefore page size ≤ 2 ^ 63 - 1
  · simp only [if_pos hfits]
  · simp only [if_neg hfits]

/-- A page before an accepted one is accepted. -/
theorem exists_ofPage_eq_ok_of_le {other : Option Int64} (hwindow : ofPage page size = .ok window)
    (hle : askedPage other ≤ askedPage page) : ∃ earlier, ofPage other size = .ok earlier := by
  have hbefore : rowsBefore other size ≤ rowsBefore page size := by
    rw [rowsBefore_eq, rowsBefore_eq]
    exact Int.mul_le_mul_of_nonneg_right (by omega) (askedSize_nonneg size)
  have hfits := Int.le_trans hbefore (ofPage_eq_ok_iff.1 hwindow).1
  exact ⟨_, (ofPage_eq other size).trans (if_pos hfits)⟩

theorem shows_iff (hwindow : ofPage page size = .ok window) (row : Int) :
    window.Shows row ↔
      (askedPage page - 1) * askedSize size ≤ row ∧ row < askedPage page * askedSize size := by
  obtain ⟨-, hlimit, hoffset⟩ := ofPage_eq_ok_iff.1 hwindow
  rw [Shows, hlimit, hoffset, rowsBefore_eq, Int.sub_mul, Int.one_mul, Int.sub_add_cancel]

/-- The row is in the window of the page of this number, which is one from 1 to `last`. -/
def ShownBy (size : Int64) (last row : Int) (number : Int64) : Prop :=
  (1 ≤ number.toInt ∧ number.toInt ≤ last) ∧
    ∃ window, ofPage (some number) size = .ok window ∧ window.Shows row

/-- Each page up to an accepted one shows the rows between two neighbouring multiples of
the size. -/
theorem shownBy_iff (hwindow : ofPage page size = .ok window) {row : Int} {number : Int64} :
    ShownBy size (askedPage page) row number ↔
      (1 ≤ number.toInt ∧ number.toInt ≤ askedPage page) ∧
        (number.toInt - 1) * askedSize size ≤ row ∧ row < number.toInt * askedSize size := by
  refine and_congr_right fun hrange => ?_
  have hasked := askedPage_some hrange.1
  obtain ⟨earlier, hearlier⟩ := exists_ofPage_eq_ok_of_le hwindow (hasked ▸ hrange.2)
  have hshows := shows_iff hearlier row
  rw [hasked] at hshows
  constructor
  · rintro ⟨other, hother, hrow⟩
    rw [hearlier, Except.ok.injEq] at hother
    exact hshows.1 (hother ▸ hrow)
  · intro hrow
    exact ⟨earlier, hearlier, hshows.2 hrow⟩

theorem askedPage_le (page : Option Int64) : askedPage page ≤ 2 ^ 63 - 1 := by
  have hlt := (pageNumber page).toInt_lt
  rw [toInt_pageNumber] at hlt
  omega

/-- The windows of the pages up to an accepted one tile the rows from 0 on. -/
theorem existsUnique_shownBy_iff (hwindow : ofPage page size = .ok window) (row : Int) :
    (∃! number, ShownBy size (askedPage page) row number) ↔
      0 ≤ row ∧ row < window.offset.toInt + window.limit.toInt := by
  obtain ⟨-, hlimit, hoffset⟩ := ofPage_eq_ok_iff.1 hwindow
  have hend : window.offset.toInt + window.limit.toInt = askedPage page * askedSize size := by
    rw [hlimit, hoffset, rowsBefore_eq, Int.sub_mul, Int.one_mul, Int.sub_add_cancel]
  have hsize := askedSize_nonneg size
  rw [hend]
  constructor
  · rintro ⟨number, hshown, -⟩
    obtain ⟨⟨hfirst, hlast⟩, hlower, hupper⟩ := (shownBy_iff hwindow).1 hshown
    have hbefore : 0 ≤ (number.toInt - 1) * askedSize size := Int.mul_nonneg (by omega) hsize
    have hafter := Int.mul_le_mul_of_nonneg_right hlast hsize
    omega
  · rintro ⟨hrow, hlater⟩
    have hpos : 0 < askedSize size := by
      refine lt_of_le_of_ne hsize fun hzero => ?_
      rw [← hzero, Int.mul_zero] at hlater
      omega
    -- The row stands on the page whose number is one more than the quotient by the size.
    have hquotient : 0 ≤ row / askedSize size := Int.ediv_nonneg hrow hsize
    have hlast : row / askedSize size < askedPage page := Int.ediv_lt_of_lt_mul hpos hlater
    have hbound := askedPage_le page
    have hnumber : (Int64.ofInt (row / askedSize size + 1)).toInt = row / askedSize size + 1 :=
      Int64.toInt_ofInt_of_le (by omega) (by omega)
    refine ⟨.ofInt (row / askedSize size + 1), (shownBy_iff hwindow).2 ?_, ?_⟩
    · rw [hnumber, Int.add_sub_cancel]
      exact ⟨⟨by omega, by omega⟩, Int.ediv_mul_le row (Int.ne_of_gt hpos),
        Int.lt_ediv_add_one_mul_self row hpos⟩
    · intro other hother
      obtain ⟨-, hlower, hupper⟩ := (shownBy_iff hwindow).1 hother
      have hle := Int.le_ediv_of_mul_le hpos hlower
      have hlt := Int.ediv_lt_of_lt_mul hpos hupper
      rw [← Int64.toInt_inj, hnumber]
      omega

end Window

namespace Draft

open Window

/-- Pages are exact for all sixty-four bit integers.  No step of the arithmetic overflows
but the product, which is noticed.  If the number of rows before the page fits, the page
sets LIMIT and OFFSET and nothing else, otherwise it records a fault and nothing else.
The windows of the pages up to an accepted one show every row from 0 to the end of the
last of them exactly once, and all pages before an accepted one are accepted. -/
theorem pages_are_exact_and_tile_the_rows (draft : Draft) (page : Option Int64) (size : Int64) :
    ((pageNumber page).toInt = askedPage page ∧ (pageSize size).toInt = askedSize size ∧
      (pageNumber page - 1).toInt = askedPage page - 1 ∧
      ofPage page size =
        match checkedProduct? (pageNumber page - 1) (pageSize size) with
        | some before => .ok ⟨pageSize size, before⟩
        | none => .error (.offsetOverflow (pageNumber page) (pageSize size))) ∧
    ((askedPage page - 1) * askedSize size ≤ 2 ^ 63 - 1 →
      ∃ limit offset : Int64, limit.toInt = askedSize size ∧
        offset.toInt = (askedPage page - 1) * askedSize size ∧
        ofPage page size = .ok ⟨limit, offset⟩ ∧
        draft.paginate page size =
          ⟨{ draft.statement with limit := some limit, offset := some offset }, draft.fault⟩) ∧
    (2 ^ 63 - 1 < (askedPage page - 1) * askedSize size →
      (∀ window, ofPage page size ≠ .ok window) ∧
      draft.paginate page size =
        ⟨draft.statement,
          draft.fault.or (some (.offsetOverflow (pageNumber page) (pageSize size)))⟩) ∧
    ∀ window, ofPage page size = .ok window →
      (∀ row, (∃! number, ShownBy size (askedPage page) row number) ↔
        0 ≤ row ∧ row < window.offset.toInt + window.limit.toInt) ∧
      ∀ other, askedPage other ≤ askedPage page →
        ∃ earlier, ofPage other size = .ok earlier := by
  have hbefore := rowsBefore_eq page size
  refine ⟨⟨toInt_pageNumber page, toInt_pageSize size, toInt_pageNumber_sub page,
    ofPage_eq_checkedProduct? page size⟩, ?_, ?_, fun window hwindow =>
      ⟨existsUnique_shownBy_iff hwindow, fun other => exists_ofPage_eq_ok_of_le hwindow⟩⟩
  · intro hfits
    rw [← hbefore] at hfits
    have hwindow := (ofPage_eq page size).trans (if_pos hfits)
    refine ⟨pageSize size, .ofInt (rowsBefore page size), toInt_pageSize size, ?_, hwindow, ?_⟩
    · rw [toInt_ofInt_rowsBefore hfits, hbefore]
    · rw [paginate, hwindow]
      rfl
  · intro hbeyond
    rw [← hbefore, ← not_le] at hbeyond
    have hfault := (ofPage_eq page size).trans (if_neg hbeyond)
    refine ⟨fun window hwindow => hbeyond (ofPage_eq_ok_iff.1 hwindow).1, ?_⟩
    rw [paginate, hfault]
    rfl

/-- The last page of two rows that is accepted, and the first one that is refused. -/
theorem pages_around_largest_offset :
    (∃ limit offset : Int64, limit.toInt = 2 ∧ offset.toInt = 2 ^ 63 - 2 ∧
      (deleteFrom "t").paginate (some 4611686018427387904) 2 =
        ⟨{ (deleteFrom "t").statement with limit := some limit, offset := some offset }, none⟩) ∧
    (deleteFrom "t").paginate (some 4611686018427387905) 2 =
      ⟨(deleteFrom "t").statement, some (.offsetOverflow 4611686018427387905 2)⟩ := by
  have haccepted := (pages_are_exact_and_tile_the_rows (deleteFrom "t")
    (some 4611686018427387904) 2).2.1 (by decide)
  have hrefused := (pages_are_exact_and_tile_the_rows (deleteFrom "t")
    (some 4611686018427387905) 2).2.2.1 (by decide)
  obtain ⟨limit, offset, hlimit, hoffset, -, hpage⟩ := haccepted
  exact ⟨⟨limit, offset, hlimit, hoffset, hpage⟩, hrefused.2⟩

end Draft

end SqlBuilder
