import SqlBuilder.Proofs.DataIndependence.Rows

/-!
Chains of calls over different data.  A call takes parallel drafts to parallel
drafts, or fails in both runs with the same error; so does a chain of calls, and the
statements that two alike chains finish have one skeleton, filled with the data of
either run.
-/

namespace SqlBuilder

namespace Runs

variable {ι : Type} {runs : Runs ι}

/-- Drafts with parallel statements and the same fault. -/
structure ParallelDraft (runs : Runs ι) (first second : Draft) : Prop where
  statement : runs.ParallelStatement first.statement second.statement
  fault : first.fault = second.fault

namespace ParallelDraft

variable {first second : Draft} (hdraft : runs.ParallelDraft first second)
include hdraft

theorem revise {change another : Statement → Statement}
    (hchange : runs.ParallelStatement (change first.statement) (another second.statement)) :
    runs.ParallelDraft (first.revise change) (second.revise another) :=
  ⟨hchange, hdraft.fault⟩

theorem blame (fault : Malformed) :
    runs.ParallelDraft (first.blame fault) (second.blame fault) where
  statement := hdraft.statement
  fault := by rw [Draft.blame, Draft.blame, hdraft.fault]

theorem named (name : Text) : runs.ParallelDraft (first.named name) (second.named name) :=
  hdraft.revise { hdraft.statement with aliasName := rfl }

theorem paginate (page : Option Int64) (size : Int64) :
    runs.ParallelDraft (first.paginate page size) (second.paginate page size) := by
  unfold Draft.paginate
  cases Window.ofPage page size with
  | error fault => exact hdraft.blame fault
  | ok window =>
      exact (hdraft.revise { hdraft.statement with limit := rfl }).revise
        { hdraft.statement with limit := rfl, offset := rfl }

/-- Whether a stamp goes to rows, to assignments or nowhere is the same in both runs. -/
theorem stamp (now : Instant) : runs.ParallelDraft (first.stamp now) (second.stamp now) := by
  have hrows := hdraft.statement.rows
  have hassignments := hdraft.statement.assignments
  have hcolumns := hdraft.statement.insertColumns
  unfold Draft.stamp
  generalize first.statement.rows = rows at hrows
  generalize second.statement.rows = otherRows at hrows
  generalize first.statement.assignments = assignments at hassignments
  generalize second.statement.assignments = otherAssignments at hassignments
  cases hrows with
  | some hcells =>
      refine hdraft.revise { hdraft.statement with insertColumns := ?_, rows := .some ?_ }
      · rw [hcolumns]
      · exact List.rel_map (fun _ _ hrow => List.rel_append hrow (parallelList_refl _)) hcells
  | none =>
      cases hassignments with
      | none => exact hdraft
      | some htext =>
          exact hdraft.revise { hdraft.statement with
            assignments := .some ((((htext.append (parallel_refl _)).append
              (parallel_refl _)).append (parallel_refl _)).append (parallel_refl _)) }

theorem check_eq : first.check = second.check := by
  rw [Draft.check, Draft.check, hdraft.fault, hdraft.statement.check_eq]

theorem agree_finished : Agree runs.ParallelStatement first.finished second.finished := by
  rw [Draft.finished, Draft.finished, hdraft.check_eq]
  cases second.check with
  | error reason => exact .error reason
  | ok _ => exact .ok hdraft.statement

theorem agree_sql : Agree runs.Parallel first.sql second.sql := by
  rw [Draft.sql, Draft.sql, hdraft.check_eq]
  cases second.check with
  | error reason => exact .error reason
  | ok _ => exact .ok hdraft.statement.parallel_sql

theorem agree_toJson (name : Text) :
    Agree runs.ParallelDraft (first.toJson name) (second.toJson name) := by
  apply (hdraft.named name).agree_finished.map
  intro inner another hinner
  exact ⟨{ ParallelStatement.refl _ with source := .some hinner.parallel_nested }, rfl⟩

variable {nested : Statement → Statement → Prop}
variable (hnested : ∀ inner another, nested inner another → runs.ParallelStatement inner another)
include hnested

/-- Rows that are refused are refused for the same fault in both runs. -/
theorem values {rows others : RowSet} (hrows : AlikeRows runs nested rows others) :
    runs.ParallelDraft (first.values rows) (second.values others) := by
  have htable := hrows.agree_toTable
  unfold Draft.values
  generalize rows.toTable = table at htable
  generalize others.toTable = other at htable
  cases htable with
  | error fault => exact hdraft.blame fault
  | ok htable =>
      exact hdraft.revise { hdraft.statement with
        insertColumns := congrArg (List.map Identifier.quote) htable.columns
        rows := .some (htable.parallel_rows hnested) }

theorem commonValues {cells others : Bindings} (hcells : AlikeBindings runs nested cells others) :
    runs.ParallelDraft (first.commonValues cells) (second.commonValues others) := by
  have hrows := hdraft.statement.rows
  have hcolumns := hdraft.statement.insertColumns
  have hliterals := parallelList_literals hnested hcells.alike_values
  unfold Draft.commonValues
  generalize first.statement.rows = rows at hrows
  generalize second.statement.rows = otherRows at hrows
  cases hrows with
  | none => exact hdraft.blame _
  | some hrows =>
      refine hdraft.revise { hdraft.statement with insertColumns := ?_, rows := .some ?_ }
      · rw [hcolumns, hcells.names_eq]
      · exact List.rel_map (fun _ _ hrow => List.rel_append hrow hliterals) hrows

/-- A call with alike arguments keeps drafts parallel. -/
theorem apply {step other : Draft.Step} (hstep : AlikeStep runs nested step other) :
    runs.ParallelDraft (step.apply first) (other.apply second) := by
  obtain ⟨hstatement, hfault⟩ := hdraft
  cases hstep with
  | selectColumns halike =>
      have hcolumns := parallelList_expressions hnested halike
      exact ⟨{ hstatement with columns := .some hcolumns }, hfault⟩
  | distinctOn columns => exact ⟨{ hstatement with distinctOn := rfl }, hfault⟩
  | readFrom halike =>
      have hsource := halike.parallel_asTable hnested
      exact ⟨{ hstatement with source := .some hsource }, hfault⟩
  | readFromText sql =>
      exact ⟨{ hstatement with source := .some (parallel_refl sql) }, hfault⟩
  | named name => exact ⟨{ hstatement with aliasName := rfl }, hfault⟩
  | filter halike =>
      have htexts := parallelList_conditionTexts hnested halike
      exact ⟨{ hstatement with conditions := htexts }, hfault⟩
  | filterAlso halike =>
      have htexts := parallelList_conditionTexts hnested halike
      have hconditions := List.rel_append hstatement.conditions htexts
      exact ⟨{ hstatement with conditions := hconditions }, hfault⟩
  | having halike =>
      have htexts := parallelList_conditionTexts hnested halike
      exact ⟨{ hstatement with having := htexts }, hfault⟩
  | havingAlso halike =>
      have htexts := parallelList_conditionTexts hnested halike
      have hhaving := List.rel_append hstatement.having htexts
      exact ⟨{ hstatement with having := hhaving }, hfault⟩
  | join halike =>
      have hrendered := parallelJoins_rendered hnested halike
      exact ⟨{ hstatement with joins := hrendered }, hfault⟩
  | joinAlso halike =>
      have hrendered := parallelJoins_rendered hnested halike
      have hjoins := List.rel_append hstatement.joins hrendered
      exact ⟨{ hstatement with joins := hjoins }, hfault⟩
  | leftJoin halike =>
      have hrendered := parallelJoins_rendered hnested halike
      exact ⟨{ hstatement with leftJoins := hrendered }, hfault⟩
  | leftJoinAlso halike =>
      have hrendered := parallelJoins_rendered hnested halike
      have hjoins := List.rel_append hstatement.leftJoins hrendered
      exact ⟨{ hstatement with leftJoins := hjoins }, hfault⟩
  | groupBy columns => exact ⟨{ hstatement with groupBy := rfl }, hfault⟩
  | orderBy keys => exact ⟨{ hstatement with orderBy := rfl }, hfault⟩
  | limit rows => exact ⟨{ hstatement with limit := rfl }, hfault⟩
  | offset rows => exact ⟨{ hstatement with offset := rfl }, hfault⟩
  | paginate page size => exact paginate ⟨hstatement, hfault⟩ page size
  | insertColumns columns => exact ⟨{ hstatement with insertColumns := rfl }, hfault⟩
  | values halike => exact values ⟨hstatement, hfault⟩ hnested halike
  | commonValues halike => exact commonValues ⟨hstatement, hfault⟩ hnested halike
  | assign halike =>
      have htext := halike.parallel_text hnested
      exact ⟨{ hstatement with assignments := .some htext }, hfault⟩
  | stampFrom clock => exact stamp ⟨hstatement, hfault⟩ clock.read.1
  | returning columns => exact ⟨{ hstatement with returning := rfl }, hfault⟩
  | explain => exact ⟨{ hstatement with explain := rfl }, hfault⟩

theorem agree_call {call other : Draft.Call} (hcall : AlikeCall runs nested call other) :
    Agree runs.ParallelDraft (call.apply first) (other.apply second) := by
  cases hcall with
  | step hstep => exact .ok (hdraft.apply hnested hstep)
  | toJson name => exact hdraft.agree_toJson name

/-- A chain of calls with alike arguments fails alike, or keeps drafts parallel. -/
theorem agree_follow {calls others : List Draft.Call}
    (hcalls : List.Forall₂ (AlikeCall runs nested) calls others) :
    Agree runs.ParallelDraft (first.follow calls) (second.follow others) := by
  induction hcalls generalizing first second with
  | nil => exact .ok hdraft
  | cons hcall _ ih =>
      apply (hdraft.agree_call hnested hcall).bind
      intro next another hnext
      exact ih hnext

end ParallelDraft

variable {nested : Statement → Statement → Prop}

section

variable (hnested : ∀ inner another, nested inner another → runs.ParallelStatement inner another)
include hnested

theorem parallel_select {columns others : List Source}
    (hcolumns : List.Forall₂ (AlikeSource nested) columns others) :
    runs.ParallelDraft (Draft.select columns) (Draft.select others) :=
  ⟨{ ParallelStatement.refl (Statement.empty .select) with
      columns := .some (parallelList_expressions hnested hcolumns) }, rfl⟩

theorem parallel_fetch (table : Text) {condition other : Condition}
    (hcondition : AlikeCondition runs nested condition other) :
    runs.ParallelDraft (Draft.fetch table condition) (Draft.fetch table other) := by
  have hselected : runs.ParallelDraft ((Draft.select [.text "*"]).readFrom (.text table))
      ((Draft.select [.text "*"]).readFrom (.text table)) := ⟨.refl _, rfl⟩
  exact hselected.apply hnested (.filter (.cons hcondition .nil))

theorem AlikeStart.parallel_draft {start other : Draft.Start}
    (hstart : AlikeStart runs nested start other) :
    runs.ParallelDraft start.draft other.draft := by
  cases hstart with
  | select hcolumns => exact parallel_select hnested hcolumns
  | insertInto table => exact ⟨.refl _, rfl⟩
  | update table => exact ⟨.refl _, rfl⟩
  | deleteFrom table => exact ⟨.refl _, rfl⟩
  | fetchByIds table hids =>
      exact parallel_fetch hnested table (.template _ (.cons ⟨rfl, hids⟩ .nil))
  | fetchByColumns table hvalues => exact parallel_fetch hnested table (.columns hvalues)

theorem agree_chain {start other : Draft.Start} {calls others : List Draft.Call}
    (hstart : AlikeStart runs nested start other)
    (hcalls : List.Forall₂ (AlikeCall runs nested) calls others) :
    Agree runs.ParallelDraft (start.draft.follow calls) (other.draft.follow others) :=
  (hstart.parallel_draft hnested).agree_follow hnested hcalls

end

/-- Alike statements are parallel, however deep statements are nested in them. -/
theorem AlikeStatement.parallel {first second : Statement}
    (halike : runs.AlikeStatement first second) : runs.ParallelStatement first second := by
  induction halike with
  | finished _ hstart hcalls hfirst hsecond ih =>
      have hfinished := (agree_chain ih hstart hcalls).bind fun _ _ hdraft => hdraft.agree_finished
      exact hfinished.related_of_eq_ok hfirst hsecond

/-- Two runs of a chain over different data fail with the same error, or their SQL
texts are one skeleton that is filled with the data of either run. -/
theorem same_error_or_common_skeleton (runs : Runs ι) {start other : Draft.Start}
    {calls others : List Draft.Call} (hstart : AlikeStart runs runs.AlikeStatement start other)
    (hcalls : List.Forall₂ (AlikeCall runs runs.AlikeStatement) calls others) :
    (∃ reason, (start.draft.follow calls).bind Draft.sql = .error reason ∧
      (other.draft.follow others).bind Draft.sql = .error reason) ∨
    ∃ skeleton : Skeleton ι,
      (start.draft.follow calls).bind Draft.sql = .ok (skeleton.fill runs.first) ∧
      (other.draft.follow others).bind Draft.sql = .ok (skeleton.fill runs.second) := by
  have hchain := agree_chain (fun _ _ h => AlikeStatement.parallel h) hstart hcalls
  have hsql := hchain.bind fun _ _ hdraft => hdraft.agree_sql
  generalize (start.draft.follow calls).bind Draft.sql = first at hsql ⊢
  generalize (other.draft.follow others).bind Draft.sql = second at hsql ⊢
  cases hsql with
  | error reason => exact .inl ⟨reason, rfl, rfl⟩
  | ok hparallel =>
      obtain ⟨skeleton, rfl, rfl⟩ := hparallel
      exact .inr ⟨skeleton, rfl, rfl⟩

/-- A chain over the contents of two places, of which one is also in a nested statement. -/
def renamingCalls (contents : Bool → Text) (inner : Statement) : List Draft.Call :=
  [.step (.assign (.columns (.ofList [("name", .text (contents true))]))),
   .step (.filter [.columns (.ofList
      [("id", .list [.int 1, .text (contents false), .query inner])])])]

theorem renaming_has_one_skeleton :
    ∃ (runs : Runs Bool) (inner another : Statement) (skeleton : Skeleton Bool),
      runs.first true = "x" ∧ runs.second true = "\x27; --" ∧
      (Draft.fetchByColumns "old" (.ofList [("name", .text "x")])).finished = .ok inner ∧
      (Draft.fetchByColumns "old" (.ofList [("name", .text "\x27; --")])).finished = .ok another ∧
      ((Draft.update "users").follow (renamingCalls runs.first inner)).bind Draft.sql =
        .ok (skeleton.fill runs.first) ∧
      ((Draft.update "users").follow (renamingCalls runs.second another)).bind Draft.sql =
        .ok (skeleton.fill runs.second) := by
  let runs : Runs Bool :=
    ⟨fun place => if place then "x".toList else "y".toList,
      fun place => if place then "\x27; --".toList else "".toList, by decide, by decide⟩
  let inner (name : Text) := (Draft.fetchByColumns "old" (.ofList [("name", .text name)])).statement
  have hinner : runs.AlikeStatement (inner (runs.first true)) (inner (runs.second true)) :=
    @AlikeStatement.finished _ runs (fun _ _ => False)
      (.fetchByColumns "old" (.ofList [("name", .text (runs.first true))]))
      (.fetchByColumns "old" (.ofList [("name", .text (runs.second true))])) [] [] _ _
      (fun _ _ hfalse => hfalse.elim) (.fetchByColumns "old" (.cons ⟨rfl, .text true⟩ .nil))
      .nil rfl rfl
  have hitems : List.Forall₂ (AlikeValue runs runs.AlikeStatement)
      [.int 1, .text (runs.first false), .query (inner (runs.first true))]
      [.int 1, .text (runs.second false), .query (inner (runs.second true))] :=
    .cons (.same (.int 1)) (.cons (.text false) (.cons (.query hinner) .nil))
  obtain ⟨hlength, hzip⟩ := List.forall₂_iff_zip.1 hitems
  have hcalls : List.Forall₂ (AlikeCall runs runs.AlikeStatement)
      (renamingCalls runs.first (inner (runs.first true)))
      (renamingCalls runs.second (inner (runs.second true))) :=
    .cons (.step (.assign (.columns (.cons ⟨rfl, .text true⟩ .nil))))
      (.cons (.step (.filter (.cons (.columns (.cons ⟨rfl, .list hlength hzip⟩ .nil)) .nil)))
        .nil)
  rcases same_error_or_common_skeleton runs (.update "users") hcalls with
    ⟨reason, herror, -⟩ | ⟨skeleton, hfirst, hsecond⟩
  · cases herror
  · exact ⟨runs, _, _, skeleton, rfl, rfl, rfl, rfl, hfirst, hsecond⟩

end Runs

end SqlBuilder
