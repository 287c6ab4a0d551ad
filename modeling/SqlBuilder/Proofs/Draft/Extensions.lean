import Mathlib.Logic.Function.Basic
import SqlBuilder.Proofs.Draft.Effect

/-!
Rows that are extended after they were given.  Values common to all rows and stamps add
the same literals to every row and as many columns, whatever the clocks answer: a stamp
asks its clock once, and what it is told stands in both of its columns in all rows.  A
clock may be asked by several stamps, each of which gets the next one of its answers.
-/

namespace SqlBuilder

/-- The clock when so many of its answers have been given. -/
def Clock.later (clock : Clock) (count : Nat) : Clock := ⟨fun n => clock.answers (n + count)⟩

/-- The statement with further columns, and their literals in every row. -/
def Statement.widened (s : Statement) (cells : List (Text × Text)) : Statement :=
  { s with
    insertColumns := s.insertColumns ++ cells.map Prod.fst
    rows := s.rows.map fun rows => rows.map fun row => row ++ cells.map Prod.snd }

theorem Statement.widened_nil (s : Statement) : s.widened [] = s := by
  simp [widened]

theorem Statement.widened_append (s : Statement) (first second : List (Text × Text)) :
    s.widened (first ++ second) = (s.widened first).widened second := by
  simp [widened, Function.comp_def]

namespace Draft

structure Clocked (ι : Type) where
  draft : Draft
  clocks : ι → Clock

/-- A call that gives every row further cells: the same values for all rows, or a stamp
with the time of one of the clocks. -/
inductive Extension (ι : Type) where
  | common (cells : Bindings)
  | stamp (clock : ι)

namespace Extension

variable {ι : Type} [DecidableEq ι]

def apply (state : Clocked ι) : Extension ι → Clocked ι
  | common cells => { state with draft := state.draft.commonValues cells }
  | stamp clock =>
      let (stamped, later) := state.draft.stampFrom (state.clocks clock)
      ⟨stamped, Function.update state.clocks clock later⟩

def asks (clock : ι) : Extension ι → Bool
  | common _ => false
  | stamp other => other = clock

/-- The clocks after the call: one answer of the clock that it asks has been given. -/
def clocksAfter (clocks : ι → Clock) (call : Extension ι) (clock : ι) : Clock :=
  if call.asks clock then (clocks clock).later 1 else clocks clock

/-- The columns that the call adds, each with the literal for all rows: the names and the
values in their order, or the two columns of a stamp with the next answer of its clock. -/
def cells (clocks : ι → Clock) : Extension ι → List (Text × Text)
  | common cells => cells.entries.map fun entry => (Identifier.quote entry.1, entry.2.literal)
  | stamp clock =>
      let time := (Value.timestamp ((clocks clock).answers 0)).literal
      [(createdColumn, time), (updatedColumn, time)]

/-- The columns that some calls add, in order. -/
def added (clocks : ι → Clock) : List (Extension ι) → List (Text × Text)
  | [] => []
  | call :: rest => call.cells clocks ++ added (call.clocksAfter clocks) rest

theorem update_eq_clocksAfter (clocks : ι → Clock) (clock : ι) :
    Function.update clocks clock ((clocks clock).later 1) =
      (stamp clock).clocksAfter clocks := by
  funext other
  by_cases hsame : other = clock
  · subst hsame
    simp [clocksAfter, asks]
  · have hother : ¬ clock = other := fun heq => hsame heq.symm
    simp [clocksAfter, asks, hsame, hother]

/-- If there are rows, a call adds its cells to all of them and does nothing else. -/
theorem apply_eq (call : Extension ι) {state : Clocked ι}
    (hrows : state.draft.statement.rows.isSome) :
    call.apply state =
      ⟨⟨state.draft.statement.widened (call.cells state.clocks), state.draft.fault⟩,
        call.clocksAfter state.clocks⟩ := by
  obtain ⟨rows, hrows⟩ := Option.isSome_iff_exists.1 hrows
  cases call with
  | common cells =>
      have hclocks : (common cells).clocksAfter state.clocks = state.clocks := rfl
      simp only [apply, commonValues, hrows, revise, hclocks, Extension.cells,
        Statement.widened, Bindings.names, Bindings.values, List.map_map, Option.map_some,
        Function.comp_def]
  | stamp clock =>
      rw [← update_eq_clocksAfter]
      simp only [apply, stampFrom, Clock.read, Draft.stamp, hrows, revise, Extension.cells,
        Statement.widened, Option.map_some, List.map_cons, List.map_nil, Clock.later]

theorem isSome_rows_widened {s : Statement} (hrows : s.rows.isSome)
    (cells : List (Text × Text)) : (s.widened cells).rows.isSome := by
  simpa [Statement.widened] using hrows

/-- Some calls add what each of them adds, and every clock has given an answer for each of
its stamps. -/
theorem foldl_apply_eq (calls : List (Extension ι)) {state : Clocked ι}
    (hrows : state.draft.statement.rows.isSome) :
    calls.foldl (fun state call => call.apply state) state =
      ⟨⟨state.draft.statement.widened (added state.clocks calls), state.draft.fault⟩,
        fun clock => (state.clocks clock).later (calls.countP (asks clock))⟩ := by
  -- The clocks move on with every call, so what the others add depends on the state after it.
  induction calls generalizing state with
  | nil =>
      rw [added, Statement.widened_nil]
      rfl
  | cons call rest ih =>
      rw [List.foldl_cons, apply_eq call hrows, ih (isSome_rows_widened hrows _), added,
        Statement.widened_append]
      congr 1
      funext clock
      by_cases hasks : call.asks clock = true
      · simp only [clocksAfter, List.countP_cons, hasks, if_true]
        rfl
      · simp only [clocksAfter, List.countP_cons, hasks]
        rfl

end Extension

/-- Calls that extend rows treat all of them alike and touch nothing else.  After rows
that line up, some columns and as many literals are added, and every row has its own
cells and then just these literals; the rest of the draft stays as it was.  Values common
to all rows come in the order in which they were bound.  A stamp puts one literal into both
of its columns, the next answer of its clock, and no clock is asked more than once for a
stamp. -/
theorem rows_are_extended_alike {ι : Type} [DecidableEq ι] (draft : Draft) {rows : RowSet}
    {table : Table Value} (htable : rows.toTable = .ok table) (clocks : ι → Clock)
    (calls : List (Extension ι)) :
    let final := calls.foldl (fun state call => call.apply state) ⟨draft.values rows, clocks⟩
    ∃ columns literals : List Text,
      columns.length = literals.length ∧
      columns.zip literals = Extension.added clocks calls ∧
      final.draft =
        ⟨{ draft.statement with
            insertColumns := table.rendered.columns ++ columns
            rows := some (table.rendered.rows.map fun row => row ++ literals) },
          draft.fault⟩ ∧
      ∀ clock n, (final.clocks clock).answers n =
        (clocks clock).answers (n + calls.countP (Extension.asks clock)) := by
  intro final
  let given : Statement :=
    { draft.statement with
      insertColumns := table.rendered.columns
      rows := some table.rendered.rows }
  have hvalues : draft.values rows = ⟨given, draft.fault⟩ := by
    rw [values, htable]
    rfl
  have hfinal : final = ⟨⟨given.widened (Extension.added clocks calls), draft.fault⟩,
      fun clock => (clocks clock).later (calls.countP (Extension.asks clock))⟩ := by
    change calls.foldl (fun state call => call.apply state) ⟨draft.values rows, clocks⟩ = _
    rw [hvalues]
    exact Extension.foldl_apply_eq calls rfl
  refine ⟨(Extension.added clocks calls).map Prod.fst,
    (Extension.added clocks calls).map Prod.snd, ?_, ?_, ?_, ?_⟩
  · rw [List.length_map, List.length_map]
  · exact (List.zip_of_prod rfl rfl).symm
  · exact congrArg Clocked.draft hfinal
  · intro clock n
    rw [hfinal]
    rfl

/-- A clock that is a second later each time it is asked. -/
def ticking : Clock := ⟨fun n => { seconds := n, nanos := 0, inSecond := .inl (by decide) }⟩

/-- Two rows get a cell with an empty list, and two stamps of a clock that runs: each
stamp puts one time into both rows, and the second one a later time. -/
theorem two_stamps_of_one_clock_extend_both_rows :
    let rows : RowSet := .table ["a".toList] [[.int 1], [.null]]
    let calls : List (Extension Unit) :=
      [.common (.ofList [("b".toList, .list [])]), .stamp (), .stamp ()]
    let final := calls.foldl (fun state call => call.apply state)
      ⟨(insertInto "t").values rows, fun _ => ticking⟩
    rows.toTable = .ok ⟨["a".toList], [[.int 1], [.null]]⟩ ∧
      ∃ columns literals : List Text,
        columns.zip literals =
          [("\"b\"".toList, "NULL".toList),
            ("created_at".toList, "'1970-01-01 00:00:00 UTC'".toList),
            ("updated_at".toList, "'1970-01-01 00:00:00 UTC'".toList),
            ("created_at".toList, "'1970-01-01 00:00:01 UTC'".toList),
            ("updated_at".toList, "'1970-01-01 00:00:01 UTC'".toList)] ∧
        final.draft.statement.insertColumns = "\"a\"".toList :: columns ∧
        final.draft.statement.rows =
          some ["1".toList :: literals, "NULL".toList :: literals] := by
  intro rows calls final
  have htable : rows.toTable = .ok ⟨["a".toList], [[.int 1], [.null]]⟩ := rfl
  obtain ⟨columns, literals, -, hadded, hdraft, -⟩ :=
    rows_are_extended_alike (insertInto "t") htable (fun _ => ticking) calls
  refine ⟨htable, columns, literals, ?_, ?_, ?_⟩
  · rw [hadded]
    decide +kernel
  · rw [hdraft]
    rfl
  · rw [hdraft]
    rfl

end Draft

end SqlBuilder
