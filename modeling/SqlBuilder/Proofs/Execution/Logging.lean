import Mathlib.Data.List.Basic
import SqlBuilder.Execution
import SqlBuilder.Proofs.Text.Truncation

/-!
What a run reports, and that reporting has no part in it.  A run sends one query whatever
its options are, and its result depends on the answer and on the format only.  The events
tell what was sent, before it is sent and only if the options ask for it, and how many
rows have come back.  A text that is too long for the log is cut between two characters.
-/

namespace SqlBuilder

/-- The second text is what remains of the first one without its NULs. -/
structure Text.LacksOnlyNul (text remaining : Text) : Prop where
  nul_not_mem : '\x00' ∉ remaining
  sublist : remaining.Sublist text
  count_eq : ∀ c, c ≠ '\x00' → remaining.count c = text.count c

theorem Text.lacksOnlyNul_withoutNul (text : Text) : text.LacksOnlyNul (withoutNul text) where
  nul_not_mem := by simp [withoutNul]
  sublist := List.filter_sublist
  count_eq c hne := List.count_filter (by simpa using hne)

/-- What a log shows of a text of which it takes so many bytes: all of it, or the longest
beginning that fits and three dots. -/
inductive Text.ShownAs (text : Text) : Option Nat → Text → Prop
  | unlimited : ShownAs text none text
  | whole {limit : Nat} (hfits : utf8Length text ≤ limit) : ShownAs text (some limit) text
  | cut {limit : Nat} {kept : Text} (hlong : limit < utf8Length text) (hkept : kept <+: text)
      (hfits : utf8Length kept ≤ limit)
      (hlongest : ∀ start, start <+: text → utf8Length start ≤ limit → start <+: kept) :
      ShownAs text (some limit) (kept ++ "...")

namespace ExecutionOptions

variable (options : ExecutionOptions)

/-- Under any limit the log shows the whole text or as much of its beginning as fits. -/
theorem shownAs_shown (sql : Text) : sql.ShownAs options.maxLength (options.shown sql) := by
  rw [shown]
  cases options.maxLength with
  | none => exact .unlimited
  | some limit =>
      change sql.ShownAs (some limit) (Text.truncated limit sql)
      rw [Text.truncated]
      split
      · next hlong =>
          exact .cut hlong (Text.utf8Prefix_isPrefix limit sql)
            (Text.utf8Length_utf8Prefix_le limit sql)
            (fun start hstart hfits => Text.isPrefix_utf8Prefix hstart hfits)
      · next hshort => exact .whole (Nat.le_of_not_lt hshort)

/-- A text that fits is shown as it is.  Of a longer one the longest beginning that fits is
shown, which lacks at most three bytes; it is what stands before the last place between
characters that a walk from the limit back over the bytes comes to. -/
theorem long_text_is_shown_to_its_last_boundary (sql : Text) :
    (options.maxLength = none → options.shown sql = sql) ∧
      ∀ limit, options.maxLength = some limit →
        (sql.bytes.length ≤ limit → options.shown sql = sql) ∧
        (limit < sql.bytes.length →
          let last := Text.boundaryBefore sql.bytes limit
          ∃ kept : Text, options.shown sql = kept ++ "..." ∧ kept <+: sql ∧
            kept.bytes.length ≤ limit ∧
            (∀ start : Text, start <+: sql → start.bytes.length ≤ limit → start <+: kept) ∧
            limit ≤ kept.bytes.length + 3 ∧
            Text.isBoundary sql.bytes last = true ∧ kept.bytes = sql.bytes.take last) := by
  refine ⟨fun hnone => by simp only [shown, hnone], fun limit hlimit => ?_⟩
  have hshown : options.shown sql = Text.truncated limit sql := by simp only [shown, hlimit]
  simp only [hshown, Text.truncated, Text.length_bytes]
  refine ⟨fun hfits => if_neg (Nat.not_lt.2 hfits), fun hlong => ?_⟩
  have hprefix := Text.utf8Prefix_isPrefix limit sql
  have hend := Text.utf8Length_utf8Prefix limit sql
  refine ⟨Text.utf8Prefix limit sql, if_pos hlong, hprefix, Text.utf8Length_utf8Prefix_le limit sql,
    fun start hstart hfits => Text.isPrefix_utf8Prefix hstart hfits,
    Nat.le_of_lt_succ (Text.lt_utf8Length_utf8Prefix_add_four hlong), ?_, ?_⟩
  · exact Text.isBoundary_bytes_iff.2 ⟨_, hprefix, hend⟩
  · rw [Text.bytes_of_isPrefix hprefix, hend]

/-- The limit stands in the first character, which takes four bytes. -/
theorem nothing_is_kept_of_large_letter :
    let options : ExecutionOptions := { maxLength := some 3 }
    options.maxLength = some 3 ∧ 3 < (Text.bytes "😀;").length ∧
      ∃ kept : Text, options.shown "😀;" = kept ++ "..." ∧ 3 ≤ kept.bytes.length + 3 ∧
        kept.bytes = (Text.bytes "😀;").take 0 := by
  intro options
  have hlong : 3 < (Text.bytes "😀;").length := by decide
  obtain ⟨kept, hshown, -, -, -, hclose, -, hbytes⟩ :=
    (long_text_is_shown_to_its_last_boundary options "😀;").2 3 rfl |>.2 hlong
  exact ⟨rfl, hlong, kept, hshown, hclose, hbytes⟩

end ExecutionOptions

/-- The events before a query: the text to be sent as it is shown, if it is asked for. -/
def announcement (options : ExecutionOptions) (shown : Text) : List Event :=
  if options.verbose then [.sending options.level shown] else []

/-- The events after the answer to a query, of which there is one if it has succeeded. -/
def outcome : Except Error (List Record) → List Event
  | .ok rows => [.executed rows.length]
  | .error _ => []

section

variable (executor : Executor) (options : ExecutionOptions) (sql : Text)

theorem result_execute :
    (execute executor options sql).result =
      (executor (Text.withoutNul sql)).map (Output.ofRecords options.format) := by
  rw [execute]
  cases executor (Text.withoutNul sql) <;> rfl

theorem actions_execute :
    (execute executor options sql).actions =
      (announcement options (options.shown (Text.withoutNul sql))).map .report ++
        .send (Text.withoutNul sql) :: (outcome (executor (Text.withoutNul sql))).map .report := by
  rw [execute, announcement]
  cases executor (Text.withoutNul sql) <;> cases options.verbose <;> rfl

theorem sent_execute : (execute executor options sql).sent = [Text.withoutNul sql] := by
  rw [Run.sent, actions_execute]
  simp [List.filterMap_map, List.filterMap_none]

theorem log_execute :
    (execute executor options sql).log =
      announcement options (options.shown (Text.withoutNul sql)) ++
        outcome (executor (Text.withoutNul sql)) := by
  rw [Run.log, actions_execute]
  simp [List.filterMap_map]

end

/-- Two runs that ask for the same format send the same query, which is the text without
its NULs, and have the same result, whatever they report.  Before the query a run reports
the text that it sends if its options ask for that, and after it the number of rows if it
has succeeded. -/
theorem logging_never_influences_execution (executor : Executor)
    {options others : ExecutionOptions} (hformat : options.format = others.format) (sql : Text) :
    let run := execute executor options sql
    let other := execute executor others sql
    ∃ sent shown : Text, sql.LacksOnlyNul sent ∧ sent.ShownAs options.maxLength shown ∧
      run.sent = [sent] ∧ other.sent = [sent] ∧ run.result = other.result ∧
      run.result = (executor sent).map (Output.ofRecords options.format) ∧
      run.actions = (announcement options shown).map .report ++
        .send sent :: (outcome (executor sent)).map .report ∧
      run.log = announcement options shown ++ outcome (executor sent) := by
  have hresult : (execute executor options sql).result = (execute executor others sql).result := by
    rw [result_execute, result_execute, hformat]
  exact ⟨Text.withoutNul sql, _, sql.lacksOnlyNul_withoutNul, options.shownAs_shown _,
    sent_execute executor options sql, sent_execute executor others sql, hresult,
    result_execute executor options sql, actions_execute executor options sql,
    log_execute executor options sql⟩

/-- A log that takes four bytes, in which the two bytes of the last letter would be the
fourth and the fifth. -/
def shortLog : ExecutionOptions := { verbose := true, level := .warn, maxLength := some 4 }

theorem failing_run_with_short_log :
    shortLog.format = ExecutionOptions.format {} ∧
      let failing : Executor := fun _ => .error (.query "db error")
      (execute failing shortLog "SE\x00Té").result = (execute failing {} "SE\x00Té").result ∧
      (execute failing shortLog "SE\x00Té").sent = ["SETé".toList] ∧
      (execute failing shortLog "SE\x00Té").log = [.sending .warn "SET..."] := by
  refine ⟨rfl, ?_⟩
  obtain ⟨_, _, -, -, -, -, hresult, -⟩ :=
    logging_never_influences_execution (fun _ => .error (.query "db error"))
      (rfl : shortLog.format = ExecutionOptions.format {}) "SE\x00Té"
  exact ⟨hresult, by decide, by decide⟩

end SqlBuilder
