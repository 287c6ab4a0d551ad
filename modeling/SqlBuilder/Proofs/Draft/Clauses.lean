import SqlBuilder.Proofs.Draft.Entries
import SqlBuilder.Proofs.Draft.Reordering
import SqlBuilder.Proofs.Statement.Standing

/-!
The two clauses that hold conditions, WHERE and HAVING, as they go through a chain of calls.
No call looks at the texts in them: its fault is the same whatever they are, it changes the
rest of the statement alike, and it leaves them, replaces them or adds to them.  A clause
that is shown has one place in the text, and otherwise the text does not depend on it.
-/

namespace SqlBuilder

open Text (StandsAt)

/-- The clauses that hold conditions. -/
inductive Clause where
  | filter
  | having
deriving DecidableEq, Repr

namespace Clause

open Draft (Step Edit)

def keyword : Clause → Text
  | filter => "WHERE"
  | having => "HAVING"

def held (s : Statement) : Clause → List Text
  | filter => s.conditions
  | having => s.having

def put (texts : List Text) (s : Statement) : Clause → Statement
  | filter => { s with conditions := texts }
  | having => { s with having := texts }

def part : Clause → Statement.Part
  | filter => .conditions
  | having => .having

def edit : Clause → Step → Edit Condition
  | filter => Step.conditionsEdit
  | having => Step.havingEdit

/-- The call that gives conditions to the clause, and replaces those that it has or adds
to them. -/
def call (adds : Bool) (conditions : List Condition) : Clause → Step
  | filter => if adds then .filterAlso conditions else .filter conditions
  | having => if adds then .havingAlso conditions else .having conditions

/-- Whether the text of the statement shows the clause. -/
def isShown (s : Statement) : Clause → Bool
  | filter => s.kind != .insert || s.columns.isSome
  | having => s.kind == .select || s.kind == .insert && s.columns.isSome

variable (clause : Clause) (step : Step) (s : Statement) (texts : List Text)

theorem put_eq_adopt : clause.put texts s = s.adopt clause.part (clause.put texts s) := by
  cases clause <;> rfl

/-- A call for another part leaves the clause alone. -/
theorem edit_of_part_ne {step : Step} (hne : clause.part ≠ step.part) :
    clause.edit step = .leave := by
  cases clause <;> cases step <;> first | rfl | exact absurd rfl hne

theorem isTotal_of_part_eq {step : Step} (hpart : clause.part = step.part) :
    step.isTotal = true := by
  cases clause <;> cases step <;> first | rfl | cases hpart

theorem fault?_put : step.fault? (clause.put texts s) = step.fault? s := by
  by_cases hpart : clause.part = step.part
  · rw [Step.fault?_of_isTotal (clause.isTotal_of_part_eq hpart),
      Step.fault?_of_isTotal (clause.isTotal_of_part_eq hpart)]
  · rw [put_eq_adopt, Step.fault?_adopt hpart]

/-- A call treats the texts in the clause as it says, and everything else alike, whatever
the texts are. -/
theorem revised_put :
    step.revised (clause.put texts s) =
      clause.put ((clause.edit step).applied Condition.texts texts) (step.revised s) := by
  by_cases hpart : clause.part = step.part
  · cases clause <;> cases step <;> first | rfl | cases hpart
  · rw [put_eq_adopt, Step.revised_adopt hpart, clause.edit_of_part_ne hpart]
    cases clause <;> rfl

/-- The texts in the clause after some calls. -/
def textsAfter (steps : List Step) (texts : List Text) : List Text :=
  steps.foldl (fun texts step => (clause.edit step).applied Condition.texts texts) texts

/-- Whether one of the calls discards what the clause holds. -/
def isReplaced (steps : List Step) : Bool := steps.any fun step => (clause.edit step).replaces

/-- A chain of calls changes a clause without regard to the rest of the statement, and the
rest without regard to the clause. -/
theorem run_put (draft : Draft) (steps : List Step) :
    (⟨clause.put texts draft.statement, draft.fault⟩ : Draft).run steps =
      ⟨clause.put (clause.textsAfter steps texts) (draft.run steps).statement,
        (draft.run steps).fault⟩ := by
  induction steps generalizing draft texts with
  | nil => rfl
  | cons step steps ih =>
      rw [Draft.run_cons, Draft.run_cons, step.apply_eq, revised_put, fault?_put, step.apply_eq]
      exact ih _ ⟨step.revised draft.statement, draft.fault.or (step.fault? draft.statement)⟩

theorem exists_applied_eq (edit : Edit Condition) :
    ∃ added, ∀ texts, edit.applied Condition.texts texts =
      (if edit.replaces then [] else texts) ++ added := by
  cases edit with
  | leave => exact ⟨[], fun texts => (List.append_nil texts).symm⟩
  | replace items => exact ⟨Condition.texts items, fun _ => rfl⟩
  | append items => exact ⟨Condition.texts items, fun _ => rfl⟩

/-- Later calls add the same to a clause, whatever it holds, or discard it. -/
theorem exists_textsAfter_eq (steps : List Step) :
    ∃ added, ∀ texts, clause.textsAfter steps texts =
      (if clause.isReplaced steps then [] else texts) ++ added := by
  induction steps with
  | nil => exact ⟨[], fun texts => (List.append_nil texts).symm⟩
  | cons step steps ih =>
      obtain ⟨first, hfirst⟩ := exists_applied_eq (clause.edit step)
      obtain ⟨added, hadded⟩ := ih
      have hcons : ∀ texts, clause.textsAfter (step :: steps) texts =
          clause.textsAfter steps ((clause.edit step).applied Condition.texts texts) :=
        fun _ => rfl
      have hreplaced : clause.isReplaced (step :: steps) =
          ((clause.edit step).replaces || clause.isReplaced steps) := rfl
      refine ⟨if clause.isReplaced steps then added else first ++ added, fun texts => ?_⟩
      rw [hcons, hadded, hfirst, hreplaced]
      cases clause.isReplaced steps with
      | true => rw [Bool.or_true]; rfl
      | false => rw [Bool.or_false]; exact List.append_assoc _ _ _

theorem apply_call (adds : Bool) (conditions : List Condition) (draft : Draft) :
    (clause.call adds conditions).apply draft =
      ⟨clause.put ((if adds then clause.held draft.statement else []) ++
        Condition.texts conditions) draft.statement, draft.fault⟩ := by
  cases clause <;> cases adds <;> rfl

/-- A clause that is shown has one place in the text of the statement. -/
theorem standsAt_sql (hshown : clause.isShown s = true) :
    StandsAt 1 (Statement.conjunction clause.keyword) fun texts => (clause.put texts s).sql := by
  cases clause with
  | having =>
      have hselects : s.Selects := by simpa [isShown, Statement.Selects] using hshown
      exact Statement.standsAt_sql hselects (s.standsAt_having s.conditions s.orderBy)
  | filter =>
      have hwhere : StandsAt 1 (Statement.conjunction "WHERE") (Statement.conjunction "WHERE") :=
        .self _
      cases hkind : s.kind with
      | select =>
          exact Statement.standsAt_sql (.inl hkind) (s.standsAt_conditions s.having s.orderBy)
      | insert =>
          have hcolumns : s.columns.isSome = true := by simpa [isShown, hkind] using hshown
          exact Statement.standsAt_sql (.inr ⟨hkind, hcolumns⟩)
            (s.standsAt_conditions s.having s.orderBy)
      | update =>
          have hsql : ∀ texts, (filter.put texts s).sql =
              "UPDATE " ++ s.target ++ Statement.optionalClause "SET" s.assignments ++
                Statement.optionalClause "FROM" s.source ++
                Statement.conjunction "WHERE" texts ++
                Statement.listClause "RETURNING" s.returning := by
            intro texts
            rw [Statement.sql, put, hkind]
            rfl
          simp only [hsql]
          exact (hwhere.append_left _).append_right _
      | delete =>
          have hsql : ∀ texts, (filter.put texts s).sql =
              "DELETE FROM " ++ s.target ++ Statement.conjunction "WHERE" texts ++
                Statement.listClause "RETURNING" s.returning := by
            intro texts
            rw [Statement.sql, put, hkind]
            rfl
          simp only [hsql]
          exact (hwhere.append_left _).append_right _

/-- What stands in a clause that is not shown makes no difference to the text. -/
theorem sql_put_of_not_isShown (hshown : clause.isShown s = false) :
    (clause.put texts s).sql = (clause.put [] s).sql := by
  cases hkind : s.kind with
  | select => cases clause <;> simp [isShown, hkind] at hshown
  | insert =>
      have hcolumns : s.columns.isSome = false := by
        cases clause <;> simpa [isShown, hkind] using hshown
      have hinserted : ∀ texts, (clause.put texts s).insertedText =
          Statement.optionalClause "VALUES"
            (s.rows.map fun rows => Text.joined ", " (rows.map Statement.rowText)) := by
        intro texts
        cases clause <;> exact if_neg (Bool.eq_false_iff.1 hcolumns)
      have hsql : ∀ texts, (clause.put texts s).sql =
          "INSERT INTO " ++ s.target ++ Statement.enclosedClause "" s.insertColumns ++
            (clause.put texts s).insertedText ++
            Statement.listClause "RETURNING" s.returning := by
        intro texts
        cases clause <;> rw [Statement.sql, put, hkind] <;> rfl
      rw [hsql, hsql, hinserted, hinserted]
  | update =>
      cases clause with
      | filter => simp [isShown, hkind] at hshown
      | having => simp only [put, Statement.sql, hkind]; rfl
  | delete =>
      cases clause with
      | filter => simp [isShown, hkind] at hshown
      | having => simp only [put, Statement.sql, hkind]; rfl

theorem check_put : (clause.put texts s).check = s.check := by
  cases clause <;> rfl

theorem isShown_put : clause.isShown (clause.put texts s) = clause.isShown s := by
  cases clause <;> rfl

end Clause

end SqlBuilder
