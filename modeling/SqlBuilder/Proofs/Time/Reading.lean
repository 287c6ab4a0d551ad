import Mathlib.Data.List.TakeWhile
import SqlBuilder.Proofs.Time.Calendar
import SqlBuilder.Proofs.Value.Characters
import SqlBuilder.Time.Reader

/-!
Reading instants back.  Every part of the text of an instant is read up to its end,
whatever follows it: numbers of a fixed width by their width, the year and the fraction
by the character after their last digit.  The date is read by the rules of the calendar.
-/

namespace SqlBuilder

namespace Text

theorem all_isDigit_zeroPadded (width n : Nat) :
    (zeroPadded width n).all Char.isDigit = true := by
  rw [zeroPadded, List.all_eq_true]
  intro c hmem
  rcases List.mem_append.1 hmem with hzero | hdigit
  · rw [List.eq_of_mem_replicate hzero]
    decide
  · exact isDigit_of_mem_ofNat hdigit

/-- Zeros in front of a number do not change it. -/
theorem toNat?_zeroPadded (width n : Nat) : toNat? (zeroPadded width n) = some n := by
  have hne : zeroPadded width n ≠ [] :=
    List.append_ne_nil_of_right_ne_nil _ (ofNat_ne_nil n)
  rw [toNat?, if_pos ⟨hne, all_isDigit_zeroPadded width n⟩, zeroPadded,
    Nat.ofDigitChars_append, Nat.ofDigitChars_replicate_zero, Nat.mul_zero, ofNat,
    Nat.ofDigitChars_ten_toDigits]

theorem length_zeroPadded {width n : Nat} (hwidth : 0 < width) (hlt : n < Nat.pow 10 width) :
    (zeroPadded width n).length = width := by
  have hle : (ofNat n).length ≤ width := (Nat.length_toDigits_le_iff (by decide) hwidth).2 hlt
  rw [zeroPadded, List.length_append, List.length_replicate]
  omega

/-- The digits at the beginning of a text end before the first other character. -/
theorem span_digits {digits rest : Text} (hdigits : digits.all Char.isDigit = true)
    (hrest : ∀ c ∈ rest.head?, c.isDigit = false) :
    (digits ++ rest).takeWhile Char.isDigit = digits ∧
      (digits ++ rest).dropWhile Char.isDigit = rest := by
  rw [List.all_eq_true] at hdigits
  rw [List.takeWhile_append_of_pos hdigits, List.dropWhile_append_of_pos hdigits]
  cases rest with
  | nil => simp
  | cons c rest =>
      have hc : c.isDigit = false := hrest c rfl
      simp [hc]

end Text

namespace Instant

theorem digits?_zeroPadded_append {width n : Nat} (hwidth : 0 < width) (hlt : n < Nat.pow 10 width)
    (rest : Text) : digits? width (Text.zeroPadded width n ++ rest) = some (n, rest) := by
  have hlength := Text.length_zeroPadded hwidth hlt
  rw [digits?, List.take_left' hlength, List.drop_left' hlength, if_pos hlength,
    Text.toNat?_zeroPadded]
  rfl

theorem number?_zeroPadded_append (width n : Nat) {rest : Text}
    (hrest : ∀ c ∈ rest.head?, c.isDigit = false) :
    number? (Text.zeroPadded width n ++ rest) = some (n, rest) := by
  obtain ⟨htake, hdrop⟩ := Text.span_digits (Text.all_isDigit_zeroPadded width n) hrest
  rw [number?, htake, hdrop, Text.toNat?_zeroPadded]
  rfl

/-- A year that begins with a digit has no sign. -/
theorem year?_of_isDigit {c : Char} (hc : c.isDigit = true) (rest : Text) :
    year? (c :: rest) = (number? (c :: rest)).map fun read => ((read.1 : Int), read.2) := by
  rw [year?.eq_def]
  split
  · next heq =>
      rw [(List.cons.inj heq).1] at hc
      exact absurd hc (by decide)
  · next heq =>
      rw [(List.cons.inj heq).1] at hc
      exact absurd hc (by decide)
  · rfl

/-- A year is read back whether it has a sign or more than four digits. -/
theorem year?_yearText_append (year : Int) {rest : Text}
    (hrest : ∀ c ∈ rest.head?, c.isDigit = false) :
    year? (yearText year ++ rest) = some (year, rest) := by
  have hread := number?_zeroPadded_append 4 year.natAbs hrest
  rw [yearText]
  split
  · next hneg =>
      have hsign : "-" ++ Text.zeroPadded 4 year.natAbs ++ rest =
          '-' :: (Text.zeroPadded 4 year.natAbs ++ rest) := rfl
      rw [hsign, year?, hread, Option.map_some, Option.some.injEq, Prod.mk.injEq]
      exact ⟨by omega, rfl⟩
  · next hpos =>
      split
      · obtain ⟨c, digits, hdigits⟩ := List.exists_cons_of_ne_nil
          (List.append_ne_nil_of_right_ne_nil (List.replicate (4 - _) '0')
            (Text.ofNat_ne_nil year.natAbs))
        change Text.zeroPadded 4 year.natAbs = c :: digits at hdigits
        have hall := Text.all_isDigit_zeroPadded 4 year.natAbs
        rw [hdigits, List.all_cons, Bool.and_eq_true] at hall
        rw [hdigits, List.cons_append] at hread ⊢
        rw [year?_of_isDigit hall.1, hread, Option.map_some, Option.some.injEq, Prod.mk.injEq]
        exact ⟨by omega, rfl⟩
      · have hsign : "+" ++ Text.zeroPadded 4 year.natAbs ++ rest =
            '+' :: (Text.zeroPadded 4 year.natAbs ++ rest) := rfl
        rw [hsign, year?, hread, Option.map_some, Option.some.injEq, Prod.mk.injEq]
        exact ⟨by omega, rfl⟩

theorem fraction?_of_head?_ne {rest : Text} (hrest : rest.head? ≠ some '.') :
    fraction? rest = some (0, rest) := by
  rw [fraction?.eq_def]
  split
  · exact absurd rfl hrest
  · rfl

/-- The digits of a fraction are read back as nanoseconds, however few of them are exact. -/
theorem fraction?_zeroPadded_append {width n nanos : Nat} (hpos : 0 < width) (hwidth : width ≤ 9)
    (hlt : n < Nat.pow 10 width) (hexact : n * Nat.pow 10 (9 - width) = nanos) {rest : Text}
    (hrest : ∀ c ∈ rest.head?, c.isDigit = false) :
    fraction? ("." ++ Text.zeroPadded width n ++ rest) = some (nanos, rest) := by
  obtain ⟨htake, hdrop⟩ := Text.span_digits (Text.all_isDigit_zeroPadded width n) hrest
  have hlength := Text.length_zeroPadded hpos hlt
  have hpoint : "." ++ Text.zeroPadded width n ++ rest =
      '.' :: (Text.zeroPadded width n ++ rest) := rfl
  simp only [hpoint, fraction?, htake, hdrop, hlength, if_pos hwidth, Text.toNat?_zeroPadded,
    Option.map_some, hexact]

/-- The fraction is exact with each of its three widths. -/
theorem fraction?_fractionText_append {nanos : Nat} (hlt : nanos < nanosPerSecond) {rest : Text}
    (hrest : ∀ c ∈ rest.head?, c.isDigit = false) (hpoint : rest.head? ≠ some '.') :
    fraction? (fractionText nanos ++ rest) = some (nanos, rest) := by
  rw [nanosPerSecond] at hlt
  rw [fractionText]
  split
  · next hzero => rw [hzero]; exact fraction?_of_head?_ne hpoint
  · split
    · exact fraction?_zeroPadded_append (by decide) (by decide)
        (show nanos / 1000000 < 1000 by omega)
        (show nanos / 1000000 * 1000000 = nanos by omega) hrest
    · split
      · exact fraction?_zeroPadded_append (by decide) (by decide)
          (show nanos / 1000 < 1000000 by omega)
          (show nanos / 1000 * 1000 = nanos by omega) hrest
      · exact fraction?_zeroPadded_append (by decide) (by decide) hlt (Nat.mul_one nanos) hrest

/-- The text of a date of the calendar is read up to its end. -/
theorem date?_dateText_append {date : Date} (hdate : date.inCalendar = true) (rest : Text) :
    date? (dateText date ++ rest) = some (date, rest) := by
  obtain ⟨hmonth, hday⟩ := Date.month_le_and_day_le hdate
  have hyear : ∀ later, year? (yearText date.year ++ ("-".toList ++ later)) =
      some (date.year, "-".toList ++ later) := by
    intro later
    apply year?_yearText_append
    intro c hc
    cases hc
    rfl
  have hsplit : dateText date ++ rest =
      yearText date.year ++ ("-" ++ (Text.zeroPadded 2 date.month ++
        ("-" ++ (Text.zeroPadded 2 date.day ++ rest)))) := by
    simp [dateText]
  rw [date?, hsplit, hyear]
  simp only [Option.bind_eq_bind, Option.bind_some, Text.after?_append,
    digits?_zeroPadded_append (show 0 < 2 by decide) (show date.month < 100 by omega),
    digits?_zeroPadded_append (show 0 < 2 by decide) (show date.day < 100 by omega), hdate,
    if_true]

theorem ofParts?_eq (instant : Instant) :
    ofParts? instant.seconds instant.nanos = some instant := by
  rw [ofParts?, dif_pos instant.inSecond]

/-- The parts of an instant, and how they make it up. -/
theorem seconds_and_nanos_eq (instant : Instant) :
    let leap := instant.nanos / nanosPerSecond
    (leap = 0 ∨ leap = 1 ∧ instant.secondOfDay % 60 = 59) ∧
    instant.secondOfDay / 3600 < 24 ∧
    (instant.seconds / 86400) * 86400 +
        (instant.secondOfDay / 3600 * 3600 + instant.secondOfDay / 60 % 60 * 60 +
          instant.secondOfDay % 60 : Nat) = instant.seconds ∧
    instant.nanos % nanosPerSecond + leap * nanosPerSecond = instant.nanos := by
  have hinSecond := instant.inSecond
  rw [secondOfDay]
  rw [nanosPerSecond] at *
  refine ⟨?_, ?_, ?_, ?_⟩
  · omega
  · omega
  · omega
  · omega

/-- The text of an instant is read back as this instant, inside a leap second as well. -/
theorem read?_text (instant : Instant) : read? instant.text = some instant := by
  obtain ⟨hleap, hhour, hseconds, hnanos⟩ := instant.seconds_and_nanos_eq
  obtain ⟨hdate, hnumber⟩ :
      instant.date.inCalendar = true ∧ instant.date.number = instant.seconds / 86400 :=
    Date.inCalendar_and_number_ofDays (instant.seconds / 86400)
  have hsecond : instant.secondOfMinute ≤ 60 ∧
      (if instant.secondOfMinute = 60 then 1 else 0) = instant.nanos / nanosPerSecond ∧
      instant.secondOfMinute - instant.nanos / nanosPerSecond = instant.secondOfDay % 60 := by
    rw [secondOfMinute]
    refine ⟨by omega, ?_, by omega⟩
    split <;> omega
  have hfraction := @fraction?_fractionText_append (instant.nanos % nanosPerSecond)
    (Nat.mod_lt _ (by decide)) " UTC".toList (by simp) (by simp)
  have hsplit : instant.text =
      dateText instant.date ++ (" " ++ (Text.zeroPadded 2 (instant.secondOfDay / 3600) ++
        (":" ++ (Text.zeroPadded 2 (instant.secondOfDay / 60 % 60) ++
          (":" ++ (Text.zeroPadded 2 instant.secondOfMinute ++
            (fractionText (instant.nanos % nanosPerSecond) ++ " UTC"))))))) := by
    simp [text]
  have hminute : instant.secondOfDay / 60 % 60 < 60 := Nat.mod_lt _ (by decide)
  rw [read?, hsplit, date?_dateText_append hdate]
  simp only [Option.bind_eq_bind, Option.bind_some, Text.after?_append,
    digits?_zeroPadded_append (show 0 < 2 by decide)
      (show instant.secondOfDay / 3600 < 100 by omega),
    digits?_zeroPadded_append (show 0 < 2 by decide)
      (show instant.secondOfDay / 60 % 60 < 100 by omega),
    digits?_zeroPadded_append (show 0 < 2 by decide)
      (show instant.secondOfMinute < 100 by omega), hfraction]
  rw [if_pos ⟨trivial, hhour, hminute, hsecond.1⟩, hsecond.2.1, hsecond.2.2, hnanos, hnumber,
    hseconds, ofParts?_eq]

end Instant

namespace Value

/-- The literal of an instant stands between single quotes, of which there is none inside,
and what stands between them is read as that very instant.  So different instants have
different literals. -/
theorem timestamp_literal_denotes_instant (instant : Instant) :
    ∃ inside : Text,
      (Value.timestamp instant).literal = "\x27" ++ inside ++ "\x27" ∧
      '\x27' ∉ inside ∧
      Instant.read? inside = some instant ∧
      ∀ other : Instant,
        (Value.timestamp other).literal = (Value.timestamp instant).literal → other = instant := by
  have hliteral : ∀ instant : Instant,
      (Value.timestamp instant).literal = "\x27" ++ instant.text ++ "\x27" := fun _ => rfl
  refine ⟨instant.text, rfl, ?_, instant.read?_text, ?_⟩
  · exact not_mem_of_all_isPlainChar instant.all_isPlainChar_text (by decide)
  · intro other hsame
    rw [hliteral, hliteral] at hsame
    have htext := List.append_cancel_left (List.append_cancel_right hsame)
    have hread := other.read?_text
    rw [htext, instant.read?_text] at hread
    exact (Option.some.inj hread).symm

/-- A leap second at the end of a year before year 0, and the next instant. -/
example :
    (Value.timestamp ⟨-62198755201, 1999999999, by decide⟩).literal =
      "\x27-0002-12-31 23:59:60.999999999 UTC\x27" := by decide +kernel

end Value

end SqlBuilder
