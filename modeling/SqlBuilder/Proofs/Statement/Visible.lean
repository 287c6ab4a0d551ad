import SqlBuilder.Statement.Check

/-!
The clauses that a statement shows.  Every kind leaves some clauses out of its text,
and neither the text nor the check of a statement depends on these.
-/

namespace SqlBuilder.Statement

/-- The statement with nothing but the clauses that its kind renders. -/
def visible (s : Statement) : Statement :=
  match s.kind with
  | .select => { s with insertColumns := [], rows := none, assignments := none, returning := [] }
  | .insert => { s with aliasName := none, explain := false, assignments := none }
  | .update =>
      { kind := .update, table := s.table, source := s.source, conditions := s.conditions,
        assignments := s.assignments, returning := s.returning }
  | .delete =>
      { kind := .delete, table := s.table, conditions := s.conditions, returning := s.returning }

theorem kind_visible (s : Statement) : s.visible.kind = s.kind := by
  rcases s with ⟨_ | _ | _ | _⟩ <;> rfl

theorem visible_visible (s : Statement) : s.visible.visible = s.visible := by
  rcases s with ⟨_ | _ | _ | _⟩ <;> rfl

theorem sql_visible (s : Statement) : s.visible.sql = s.sql := by
  rcases s with ⟨_ | _ | _ | _⟩ <;> rfl

theorem check_visible (s : Statement) : s.visible.check = s.check := by
  rcases s with ⟨_ | _ | _ | _⟩ <;> rfl

end SqlBuilder.Statement
