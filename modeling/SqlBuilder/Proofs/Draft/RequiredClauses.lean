import SqlBuilder.Proofs.Draft.Arity
import SqlBuilder.Proofs.Draft.Failures
import SqlBuilder.Proofs.Draft.LostStamp
import SqlBuilder.Proofs.Quoting.Names

/-!
What stands in the clauses that a statement cannot do without.  The check of a finished
statement only sees that they were set.  Rows are refused unless there is a cell in each of
them, and no call takes a cell away.  Columns to assign are not refused if there are none of
them, and then nothing, or nothing before the first comma, is assigned.
-/

namespace SqlBuilder

namespace Assignments

variable {given : Assignments}

/-- The assignments of an argument one by one.  SQL text counts as one. -/
def parts : Assignments → List Text
  | raw sql => [sql]
  | columns values => values.entries.map assignment

theorem text_eq_joined (given : Assignments) : given.text = Text.joined ", " given.parts := by
  cases given with
  | raw sql => exact (Text.joined_singleton ", " sql).symm
  | columns values => rfl

theorem parts_eq_nil_iff : given.parts = [] ↔ given = columns .empty := by
  cases given with
  | raw sql => simp [parts]
  | columns values =>
      obtain ⟨entries, hdistinct⟩ := values
      simp [parts, Bindings.empty]

end Assignments

namespace RowSet

/-- Rows that are accepted have a column, and there is at least one of them. -/
theorem ne_nil_of_toTable_eq_ok {rows : RowSet} {result : Table Value}
    (hresult : rows.toTable = .ok result) : result.columns ≠ [] ∧ result.rows ≠ [] := by
  cases rows with
  | table columns rows =>
      obtain ⟨⟨hcolumns, hrows, -⟩, rfl⟩ := ofTable_eq_ok_iff.1 hresult
      exact ⟨hcolumns, hrows⟩
  | single map =>
      obtain ⟨hnames, rfl⟩ := ofMap_eq_ok_iff.1 hresult
      exact ⟨hnames, List.cons_ne_nil _ _⟩
  | maps rows =>
      cases rows with
      | nil => cases hresult
      | cons first others =>
          obtain ⟨⟨hnames, -⟩, rfl⟩ := ofMaps_eq_ok_iff.1 hresult
          refine ⟨fun hnone => hnames ?_, List.cons_ne_nil _ _⟩
          rw [List.eq_nil_iff_forall_not_mem] at hnone ⊢
          intro name hname
          exact hnone name ((first.mem_map_fst_sorted name).2 hname)

end RowSet

/-- There is a row, and a cell in every row, if rows are given at all. -/
def Statement.FilledRows (s : Statement) : Prop :=
  ∀ rows, s.rows = some rows → rows ≠ [] ∧ ∀ row ∈ rows, row ≠ []

namespace Draft

namespace Step

variable {s : Statement}

theorem filledRows_widen {rows : List (List Text)} (hrows : s.rows = some rows)
    (hfilled : s.FilledRows) (columns cells : List Text) :
    Statement.FilledRows
      { s with insertColumns := columns, rows := some (rows.map fun row => row ++ cells) } := by
  obtain ⟨hne, hcells⟩ := hfilled rows hrows
  rintro _ ⟨⟩
  refine ⟨mt List.map_eq_nil_iff.1 hne, fun row hrow => ?_⟩
  obtain ⟨shorter, hmem, rfl⟩ := List.mem_map.1 hrow
  exact List.append_ne_nil_of_left_ne_nil (hcells shorter hmem) cells

/-- Every call leaves a cell in every row. -/
theorem filledRows_revised (step : Step) (hfilled : s.FilledRows) :
    (step.revised s).FilledRows := by
  cases step with
  | values rows =>
      rw [revised_values]
      split
      · next table htable =>
          obtain ⟨hcolumns, hrows⟩ := RowSet.ne_nil_of_toTable_eq_ok htable
          rintro _ ⟨⟩
          refine ⟨mt List.map_eq_nil_iff.1 hrows, fun row hrow => ?_⟩
          obtain ⟨cells, hcells, rfl⟩ := List.mem_map.1 hrow
          have hlength := RowSet.length_of_mem_rows htable hcells
          rw [← List.length_pos_iff] at hcolumns ⊢
          rwa [List.length_map, hlength]
      · exact hfilled
  | commonValues cells =>
      rw [revised_commonValues]
      split
      · next rows hrows => exact filledRows_widen hrows hfilled _ _
      · exact hfilled
  | stampFrom clock =>
      rw [revised_stampFrom]
      split
      · next rows _ hrows => exact filledRows_widen hrows hfilled _ _
      · exact hfilled
      · exact hfilled
  | paginate page size => rw [revised_paginate]; split <;> exact hfilled
  | _ => exact hfilled

def clock? : Step → Option Clock
  | stampFrom clock => some clock
  | _ => none

end Step

/-- No chain of calls leaves rows without any cell. -/
theorem filledRows_follow {draft final : Draft} {calls : List Call}
    (hcalls : draft.follow calls = .ok final) (hfilled : draft.statement.FilledRows) :
    final.statement.FilledRows := by
  refine holds_follow (fun draft => draft.statement.FilledRows) (fun draft step hfilled => ?_)
    (fun _ _ _ hnone => nomatch hnone) hcalls hfilled
  rw [step.apply_eq]
  exact step.filledRows_revised hfilled

def stampOf (clock : Clock) : Text := updatedColumn ++ " = " ++ Step.timeOf clock

/-- What was given, and after it the times of stamps. -/
def assignedText (given : Assignments) (clocks : List Clock) : Text :=
  given.text ++ (clocks.map stampOf).flatMap ((", " : Text) ++ ·)

theorem stampedAt_assignedText (given : Assignments) (clocks : List Clock) (clock : Clock) :
    stampedAt clock (assignedText given clocks) = assignedText given (clocks ++ [clock]) := by
  simp only [stampedAt, assignedText, stampOf, List.map_append, List.map_cons, List.map_nil,
    List.flatMap_append, List.flatMap_cons, List.flatMap_nil, List.append_assoc, List.append_nil]

/-- The stamps among some calls that go to what is assigned.  Rows take all stamps
after them. -/
def assignedStamps (hasRows : Bool) (steps : List Step) : List Clock :=
  if hasRows then [] else (steps.takeWhile fun step => !step.setsRows).filterMap Step.clock?

/-- The first call goes where the rows before it send it, and it can give rows itself. -/
theorem assignedStamps_cons (hasRows : Bool) (step : Step) (steps : List Step) :
    assignedStamps hasRows (step :: steps) =
      (if hasRows then [] else step.clock?.toList) ++
        assignedStamps (hasRows || step.setsRows) steps := by
  cases hasRows with
  | true => rfl
  | false => cases step <;> rfl

/-- A call that assigns nothing anew adds at most its stamp to what is assigned. -/
theorem Step.assignments_revised_eq {s : Statement} {given : Assignments} {clocks : List Clock}
    (hassigned : s.assignments = some (assignedText given clocks)) {step : Step}
    (hassigns : step.setsAssignments = false) :
    (step.revised s).assignments = some (assignedText given
      (clocks ++ if s.rows.isSome then [] else step.clock?.toList)) := by
  cases step with
  | assign assignments => cases hassigns
  | stampFrom clock =>
      rw [assignments_revised_stampFrom, hassigned]
      split
      · rw [List.append_nil]
      · rw [Option.map_some, stampedAt_assignedText]
        rfl
  | _ =>
      rw [assignments_revised rfl rfl, hassigned]
      simp [clock?]

/-- Calls that assign nothing anew add the stamps that do not go to rows. -/
theorem assignments_run_eq {draft : Draft} {given : Assignments} {clocks : List Clock}
    {steps : List Step} (hassigned : draft.statement.assignments = some (assignedText given clocks))
    (hassigns : steps.any Step.setsAssignments = false)
    (hclean : (draft.run steps).fault = none) :
    (draft.run steps).statement.assignments = some (assignedText given
      (clocks ++ assignedStamps draft.statement.rows.isSome steps)) := by
  induction steps generalizing draft clocks with
  | nil => simpa [assignedStamps] using hassigned
  | cons step rest ih =>
      rw [List.any_cons, Bool.or_eq_false_iff] at hassigns
      have hafter : (step.apply draft).statement.assignments = some (assignedText given
          (clocks ++ if draft.statement.rows.isSome then [] else step.clock?.toList)) := by
        rw [step.apply_eq]
        exact Step.assignments_revised_eq hassigned hassigns.1
      have hrows : (step.apply draft).statement.rows.isSome =
          (draft.statement.rows.isSome || step.setsRows) := by
        have hfirst : (draft.run [step]).fault = none := fault_eq_none_of_fault_run hclean
        have hrun := isSome_rows_run_of_faults_eq_nil (faults_eq_nil_of_fault_run hfirst)
        simpa using hrun
      rw [run_cons, ih hafter hassigns.2 hclean, hrows, assignedStamps_cons, List.append_assoc]

/-- Of the calls that assign something, one is the last. -/
theorem exists_last_assign {steps : List Step}
    (hassigns : steps.any Step.setsAssignments = true) :
    ∃ earlier given later, steps = earlier ++ .assign given :: later ∧
      later.any Step.setsAssignments = false := by
  induction steps using List.reverseRecOn with
  | nil => cases hassigns
  | append_singleton steps step ih =>
      cases hstep : step.setsAssignments with
      | true =>
          cases step with
          | assign given => exact ⟨steps, given, [], rfl, rfl⟩
          | _ => cases hstep
      | false =>
          rw [List.any_append, List.any_cons, hstep] at hassigns
          obtain ⟨earlier, given, later, rfl, hlater⟩ := ih (by simpa using hassigns)
          exact ⟨earlier, given, later ++ [step], by simp, by simp [hlater, hstep]⟩

/-- The last assignment is the first one that is met from the end. -/
theorem find?_reverse_of_last_assign (earlier : List Step) (given : Assignments)
    {later : List Step} (hlater : later.any Step.setsAssignments = false) :
    (earlier ++ .assign given :: later).reverse.find? Step.setsAssignments =
      some (.assign given) := by
  have hnone : later.reverse.find? Step.setsAssignments = none := by
    simpa [List.find?_eq_none] using hlater
  rw [List.reverse_append, List.reverse_cons, List.append_assoc, List.find?_append, hnone]
  rfl

/-- A chain assigns what was given last, and the times of the stamps that go there. -/
theorem assignments_run_of_last_assign {start : Start} {earlier later : List Step}
    {given : Assignments} (hlater : later.any Step.setsAssignments = false)
    (hclean : (start.draft.run (earlier ++ .assign given :: later)).fault = none) :
    (start.draft.run (earlier ++ .assign given :: later)).statement.assignments =
      some (assignedText given (assignedStamps (earlier.any Step.setsRows) later)) := by
  rw [run_append, run_cons] at hclean ⊢
  have hgiven : ((start.draft.run earlier).assign given).statement.assignments =
      some (assignedText given []) := by
    simp [assign, revise, assignedText]
  have hassign : ((start.draft.run earlier).run [.assign given]).fault = none :=
    fault_eq_none_of_fault_run hclean
  have hbefore := fault_eq_none_of_fault_run hassign
  have hrows := isSome_rows_run_of_faults_eq_nil (faults_eq_nil_of_fault_run hbefore)
  rw [start.rows_draft, Option.isSome_none, Bool.false_or] at hrows
  rw [← hrows]
  exact assignments_run_eq hgiven hlater hclean

/-- The text is that of these assignments, of which there is one and none is empty. -/
structure Assigns (text : Text) (parts : List Text) : Prop where
  some : parts ≠ []
  filled : ∀ part ∈ parts, part ≠ []
  text_eq : text = Text.joined ", " parts

section

variable {given : Assignments} {clocks : List Clock}

theorem assignedText_eq_joined (hsome : given.parts ≠ []) :
    assignedText given clocks = Text.joined ", " (given.parts ++ clocks.map stampOf) := by
  obtain ⟨first, others, hparts⟩ := List.exists_cons_of_ne_nil hsome
  rw [assignedText, given.text_eq_joined, hparts, List.cons_append, Text.joined_cons,
    Text.joined_cons, List.flatMap_append, List.append_assoc]

/-- Without any assignment of its own, the text is empty or starts with a comma. -/
theorem assignedText_of_parts_eq_nil (clocks : List Clock) (hnone : given.parts = []) :
    assignedText given clocks = [] ∨ (assignedText given clocks).head? = some ',' := by
  rw [assignedText, given.text_eq_joined, hnone]
  cases clocks with
  | nil => exact .inl rfl
  | cons clock clocks => exact .inr rfl

/-- An assignment that was given is not empty, and only SQL text can start with a comma. -/
theorem exists_eq_cons_of_mem_parts (hraw : ∀ sql, given = .raw sql → sql ≠ []) {part : Text}
    (hpart : part ∈ given.parts) :
    ∃ c rest, part = c :: rest ∧ ((∀ sql, given = .raw sql → sql.head? ≠ some ',') → c ≠ ',') := by
  cases given with
  | raw sql =>
      obtain rfl := List.mem_singleton.1 hpart
      obtain ⟨c, rest, rfl⟩ := List.exists_cons_of_ne_nil (hraw part rfl)
      refine ⟨c, rest, rfl, fun hcomma hc => hcomma _ rfl ?_⟩
      rw [hc]
      rfl
  | columns values =>
      obtain ⟨entry, -, rfl⟩ := List.mem_map.1 hpart
      obtain ⟨c, rest, hquote, hc⟩ := Identifier.exists_quote_eq_cons entry.1
      rw [Assignments.assignment, hquote]
      refine ⟨c, _, rfl, fun _ => ?_⟩
      rcases hc with rfl | rfl <;> decide

/-- Only the empty map assigns nothing, and what stamps add to it begins with a comma. -/
theorem assigns_iff (hraw : ∀ sql, given = .raw sql → sql ≠ []) :
    Assigns (assignedText given clocks) (given.parts ++ clocks.map stampOf) ↔
      given ≠ .columns .empty := by
  rw [ne_eq, ← Assignments.parts_eq_nil_iff]
  constructor
  · intro hassigns hnone
    have htext := hassigns.text_eq
    have hcomma := assignedText_of_parts_eq_nil clocks hnone
    rw [htext, hnone, List.nil_append] at hcomma
    cases clocks with
    | nil => exact hassigns.some (by rw [hnone]; rfl)
    | cons clock clocks =>
        -- Only stamps are left, but none of them starts with the comma before it.
        rw [List.map_cons, Text.joined_cons] at hcomma
        rcases hcomma with hempty | hhead
        · cases hempty
        · rw [stampOf, List.append_assoc, List.append_assoc] at hhead
          cases hhead
  · intro hsome
    refine ⟨List.append_ne_nil_of_left_ne_nil hsome _, fun part hpart => ?_,
      assignedText_eq_joined hsome⟩
    rcases List.mem_append.1 hpart with hgiven | hstamp
    · obtain ⟨c, rest, rfl, -⟩ := exists_eq_cons_of_mem_parts hraw hgiven
      exact List.cons_ne_nil c rest
    · obtain ⟨clock, -, rfl⟩ := List.mem_map.1 hstamp
      exact List.cons_ne_nil _ _

/-- The first character tells the empty map from any other argument, which starts with
an assignment. -/
theorem starts_with_assignment_iff (hraw : ∀ sql, given = .raw sql → sql ≠ [])
    (hstart : ∀ sql, given = .raw sql → sql.head? ≠ some ',') :
    (assignedText given clocks ≠ [] ∧ (assignedText given clocks).head? ≠ some ',') ↔
      given ≠ .columns .empty := by
  rw [ne_eq given, ← Assignments.parts_eq_nil_iff]
  constructor
  · rintro ⟨hne, hhead⟩ hnone
    exact (assignedText_of_parts_eq_nil clocks hnone).elim hne hhead
  · intro hsome
    obtain ⟨first, others, hparts⟩ := List.exists_cons_of_ne_nil hsome
    obtain ⟨c, rest, rfl, hc⟩ :=
      exists_eq_cons_of_mem_parts hraw (hparts ▸ List.mem_cons_self : first ∈ given.parts)
    rw [assignedText_eq_joined hsome, hparts, List.cons_append, Text.joined_cons]
    refine ⟨List.cons_ne_nil _ _, ?_⟩
    rw [List.cons_append, List.head?_cons, ne_eq, Option.some.injEq]
    exact hc hstart

end

theorem missingClause?_of_finished {draft : Draft} {s : Statement}
    (hfinished : draft.finished = .ok s) : s.missingClause? = none := by
  obtain ⟨hclean, rfl⟩ := fault_and_statement_of_finished hfinished
  rw [finished, check, hclean, Statement.check] at hfinished
  cases hmissing : draft.statement.missingClause? with
  | none => rfl
  | some clause =>
      rw [hmissing] at hfinished
      cases hfinished

theorem Start.assignments_draft (start : Start) : start.draft.statement.assignments = none := by
  cases start <;> rfl

/-- What an UPDATE assigns stands right after its SET. -/
theorem sql_eq_of_update {s : Statement} (hkind : s.kind = .update) {text : Text}
    (hassigned : s.assignments = some text) :
    s.sql = "UPDATE " ++ s.target ++ " SET " ++ text ++
      (Statement.optionalClause "FROM" s.source ++ Statement.conjunction "WHERE" s.conditions ++
        Statement.listClause "RETURNING" s.returning) := by
  have hset : Statement.optionalClause "SET" (some text) = " SET " ++ text := rfl
  have hsql : s.sql = s.updateText := by rw [Statement.sql, hkind]
  unfold Statement.updateText at hsql
  rw [hassigned, hset] at hsql
  rw [hsql]
  simp only [List.append_assoc]

/-- The rows of an INSERT that selects nothing stand right after its VALUES. -/
theorem sql_eq_of_insert {s : Statement} (hkind : s.kind = .insert) (hcolumns : s.columns = none)
    {rows : List (List Text)} (hrows : s.rows = some rows) :
    s.sql = "INSERT INTO " ++ s.target ++ Statement.enclosedClause "" s.insertColumns ++
      " VALUES " ++ Text.joined ", " (rows.map Statement.rowText) ++
        Statement.listClause "RETURNING" s.returning := by
  have hvalues (text : Text) :
      Statement.optionalClause "VALUES" (some text) = " VALUES " ++ text := rfl
  have hsql : s.sql = s.insertText := by rw [Statement.sql, hkind]
  unfold Statement.insertText Statement.insertedText at hsql
  rwa [hcolumns, hrows, Option.map_some, hvalues, Option.isSome_none,
    if_neg Bool.false_ne_true, ← List.append_assoc] at hsql

/-- The rows of a finished INSERT that selects nothing, of which there is one, with a cell
in each of them. -/
theorem exists_rows_of_finished {start : Start} {calls : List Call} {final : Draft}
    (hcalls : start.draft.follow calls = .ok final)
    (hmissing : final.statement.missingClause? = none) (hkind : final.statement.kind = .insert)
    (hcolumns : final.statement.columns = none) :
    ∃ rows, final.statement.rows = some rows ∧ rows ≠ [] ∧ ∀ row ∈ rows, row ≠ [] := by
  have hstart : start.draft.statement.FilledRows := by
    intro rows hrows
    rw [start.rows_draft] at hrows
    cases hrows
  cases hrows : final.statement.rows with
  | none => simp [Statement.missingClause?, hkind, hcolumns, hrows] at hmissing
  | some rows => exact ⟨rows, rfl, filledRows_follow hcalls hstart rows hrows⟩

/-- A chain that finishes an UPDATE assigns something. -/
theorem any_setsAssignments_of_finished {start : Start} {steps : List Step}
    (hmissing : (start.draft.run steps).statement.missingClause? = none)
    (hkind : (start.draft.run steps).statement.kind = .update) :
    steps.any Step.setsAssignments = true := by
  have hpresent := isSome_assignments_run start.draft steps
  rw [start.assignments_draft, Option.isSome_none, Bool.false_or] at hpresent
  rw [← hpresent]
  cases hassigned : (start.draft.run steps).statement.assignments with
  | none => simp [Statement.missingClause?, hkind, hassigned] at hmissing
  | some text => rfl

/-- A finished INSERT of rows has a row, and a cell in every row.  A finished UPDATE assigns
what was given last, and the times of the stamps after it that do not go to rows: these are
one or more assignments, and the text starts with one, exactly if what was given is not a map
without columns. -/
theorem required_clauses_are_filled_unless_no_column_is_assigned (start : Start)
    (calls : List Call) (s : Statement)
    (hraw : ∀ sql, .step (.assign (.raw sql)) ∈ calls → sql ≠ [])
    (hfinished : (start.draft.follow calls).bind finished = .ok s) :
    (s.kind = .insert → s.columns = none → ∃ rows,
      s.rows = some rows ∧ rows ≠ [] ∧ (∀ row ∈ rows, row ≠ []) ∧
      s.sql = "INSERT INTO " ++ s.target ++ Statement.enclosedClause "" s.insertColumns ++
        " VALUES " ++ Text.joined ", " (rows.map Statement.rowText) ++
          Statement.listClause "RETURNING" s.returning) ∧
    (s.kind = .update → ∃ (earlier later : List Step) (given : Assignments)
        (clocks : List Clock) (text : Text),
      calls = (earlier ++ .assign given :: later).map .step ∧
      later.any Step.setsAssignments = false ∧
      clocks = assignedStamps (earlier.any Step.setsRows) later ∧
      text = assignedText given clocks ∧ s.assignments = some text ∧
      s.sql = "UPDATE " ++ s.target ++ " SET " ++ text ++
        (Statement.optionalClause "FROM" s.source ++
          Statement.conjunction "WHERE" s.conditions ++
            Statement.listClause "RETURNING" s.returning) ∧
      (Assigns text (given.parts ++ clocks.map stampOf) ↔ given ≠ .columns .empty) ∧
      ((∀ sql, given = .raw sql → sql.head? ≠ some ',') →
        ((text ≠ [] ∧ text.head? ≠ some ',') ↔ given ≠ .columns .empty))) := by
  cases hcalls : start.draft.follow calls with
  | error reason => rw [hcalls] at hfinished; cases hfinished
  | ok final =>
      rw [hcalls] at hfinished
      have hmissing := missingClause?_of_finished hfinished
      obtain ⟨hclean, rfl⟩ := fault_and_statement_of_finished hfinished
      constructor
      · intro hkind hcolumns
        obtain ⟨rows, hrows, hne, hcells⟩ :=
          exists_rows_of_finished hcalls hmissing hkind hcolumns
        exact ⟨rows, hrows, hne, hcells, sql_eq_of_insert hkind hcolumns hrows⟩
      · intro hkind
        obtain ⟨steps, rfl, rfl⟩ := exists_steps_of_kind_ne_select hcalls (by rw [hkind]; decide)
        have hassigns := any_setsAssignments_of_finished hmissing hkind
        obtain ⟨earlier, given, later, rfl, hlater⟩ := exists_last_assign hassigns
        have hassigned := assignments_run_of_last_assign hlater hclean
        have hfilled : ∀ sql, given = .raw sql → sql ≠ [] := by
          rintro sql rfl
          exact hraw sql (List.mem_map_of_mem (List.mem_append_right _ List.mem_cons_self))
        exact ⟨earlier, later, given, _, _, rfl, hlater, rfl, rfl, hassigned,
          sql_eq_of_update hkind hassigned, assigns_iff hfilled,
          starts_with_assignment_iff hfilled⟩

/-- Nothing, text and a column are assigned one after another, with a stamp before the last
of them and three after it, of which rows take the last one. -/
def assignedAnew : List Step :=
  [.assign (.columns .empty), .assign (.raw "a = 1"), .stampFrom (.fixed .epoch),
    .assign (.columns (.ofList [("b", .int 2)])), .stampFrom (.fixed .epoch),
    .stampFrom (.fixed .epoch), .values (.single (.ofList [("c", .null)])),
    .stampFrom (.fixed .epoch)]

/-- A row is given to an INSERT, and a stamp adds to it. -/
def stampedRow : List Step :=
  [.values (.single (.ofList [("a", .list [])])), .stampFrom (.fixed .epoch)]

theorem update_assigned_anew_starts_with_assignment :
    (∃ s text, ((Start.update "t").draft.follow (assignedAnew.map .step)).bind finished = .ok s ∧
      s.assignments = some text ∧ text ≠ [] ∧ text.head? ≠ some ',') ∧
    ∃ s rows, ((Start.insertInto "t").draft.follow (stampedRow.map .step)).bind finished = .ok s ∧
      s.rows = some rows ∧ rows ≠ [] ∧ ∀ row ∈ rows, row ≠ [] := by
  constructor
  · have hraw : ∀ sql, .step (.assign (.raw sql)) ∈ assignedAnew.map Call.step → sql ≠ [] := by
      intro sql hmem
      obtain rfl : sql = "a = 1" := by simpa [assignedAnew] using hmem
      decide
    obtain ⟨earlier, later, given, clocks, text, hcalls, hlater, -, -, htext, -, -, hstarts⟩ :=
      (required_clauses_are_filled_unless_no_column_is_assigned (.update "t") _ _ hraw rfl).2 rfl
    have hsteps : assignedAnew = earlier ++ .assign given :: later :=
      List.map_injective_iff.2 (fun _ _ => Call.step.inj) hcalls
    have hlast := find?_reverse_of_last_assign earlier given hlater
    rw [← hsteps] at hlast
    obtain rfl : .columns (.ofList [("b", .int 2)]) = given :=
      Step.assign.inj (Option.some.inj hlast)
    have hsome := Assignments.parts_eq_nil_iff.not.1 (by decide : Assignments.parts
      (.columns (.ofList [("b", .int 2)])) ≠ [])
    exact ⟨_, text, rfl, htext, (hstarts fun sql hsame => nomatch hsame).2 hsome⟩
  · have hraw : ∀ sql, .step (.assign (.raw sql)) ∈ stampedRow.map Call.step → sql ≠ [] := by
      intro sql hmem
      simp [stampedRow] at hmem
    obtain ⟨rows, hrows, hne, hcells, -⟩ :=
      (required_clauses_are_filled_unless_no_column_is_assigned (.insertInto "t") _ _ hraw
        rfl).1 rfl rfl
    exact ⟨_, rows, rfl, hrows, hne, hcells⟩

theorem exists_finished_update_that_assigns_nothing :
    ¬ ∀ (start : Start) (calls : List Call) (s : Statement),
      (∀ sql, .step (.assign (.raw sql)) ∈ calls → sql ≠ []) →
        (start.draft.follow calls).bind finished = .ok s → s.kind = .update →
          ∃ text, s.assignments = some text ∧ text ≠ [] ∧ text.head? ≠ some ',' := by
  intro hall
  obtain ⟨text, htext, hne, -⟩ :=
    hall (.update "t") [.step (.assign (.columns .empty))] _ (by simp) rfl rfl
  exact hne (Option.some.inj htext).symm

end Draft

end SqlBuilder
