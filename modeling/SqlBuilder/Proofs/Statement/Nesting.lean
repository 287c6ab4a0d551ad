import SqlBuilder.Draft.Step

/-!
Statements nested as a source or as a column.  Such a statement is to stand in
parentheses, followed by its alias if it has one.  That is so unless it has an alias
and is no plain SELECT: then nothing but its own words stands in the outer statement.
-/

namespace SqlBuilder

/-- A place where a statement is nested as a source or as a column. -/
inductive Place where
  | source
  | joined (template : Text) (bindings : Bindings)
  | column

/-- What a statement contributes to another one that nests it at the place. -/
def Place.text (inner : Statement) : Place → Text
  | source => (Source.query inner).asTable
  | joined template bindings => (Join.rendered ⟨.query inner, template, bindings⟩).source
  | column => (Source.query inner).asExpression

namespace Statement

/-- The alias of a statement as it follows the statement in parentheses. -/
def aliasText (s : Statement) : Text :=
  match s.aliasName with
  | none => ""
  | some name => " AS " ++ name

def withoutAlias (s : Statement) : Statement := { s with aliasName := none }

/-- A SELECT that is not to be explained. -/
def IsPlainSelect (s : Statement) : Prop := s.kind = .select ∧ s.explain = false

theorem text_eq_nested (s : Statement) (place : Place) : place.text s = s.nested := by
  cases place <;> rfl

theorem nested_of_aliasName_eq_none {s : Statement} (hname : s.aliasName = none) :
    s.nested = Text.parenthesized s.withoutAlias.sql ++ s.aliasText := by
  have hsame : s.withoutAlias = s := by rw [withoutAlias, ← hname]
  rw [nested, hname, aliasText, hname, hsame]
  exact (List.append_nil _).symm

/-- A plain SELECT is nested with its body in parentheses and its alias, if any, behind them. -/
theorem nested_of_isPlainSelect {s : Statement} (hplain : s.IsPlainSelect) :
    s.nested = Text.parenthesized s.withoutAlias.sql ++ s.aliasText := by
  cases hname : s.aliasName with
  | none => exact nested_of_aliasName_eq_none hname
  | some name =>
      have hbody : s.withoutAlias.sql = s.selectBody := by
        rw [sql, withoutAlias, hplain.1, selectText, hplain.2]
        rfl
      rw [nested, hname, sql, hplain.1, selectText, hname, hplain.2, hbody, aliasText, hname]
      exact List.append_assoc _ _ _

/-- Any other statement begins with a word of its own. -/
theorem head?_sql_ne {s : Statement} (hplain : ¬ s.IsPlainSelect) :
    s.sql.head? ≠ some '(' := by
  rw [sql]
  split
  · next hkind =>
      cases hexplain : s.explain with
      | false => exact absurd ⟨hkind, hexplain⟩ hplain
      | true =>
          rw [selectText, hexplain]
          intro hhead
          cases hhead
  · intro hhead
    cases hhead
  · intro hhead
    cases hhead
  · intro hhead
    cases hhead

/-- A nested statement is one unit in parentheses, followed by its alias, exactly if it
has no alias or is a plain SELECT.  The unit then holds the statement without its alias;
any other statement stands bare. -/
theorem nested_unit_iff (s : Statement) (place : Place) :
    ((∃ body, place.text s = Text.parenthesized body ++ s.aliasText) ↔
      s.aliasName = none ∨ s.IsPlainSelect) ∧
    (s.aliasName = none ∨ s.IsPlainSelect →
      place.text s = Text.parenthesized s.withoutAlias.sql ++ s.aliasText) ∧
    (¬ (s.aliasName = none ∨ s.IsPlainSelect) →
      place.text s = s.sql ∧ s.sql.head? ≠ some '(') := by
  rw [text_eq_nested]
  have hunit : s.aliasName = none ∨ s.IsPlainSelect →
      s.nested = Text.parenthesized s.withoutAlias.sql ++ s.aliasText := by
    rintro (hname | hplain)
    · exact nested_of_aliasName_eq_none hname
    · exact nested_of_isPlainSelect hplain
  have hbare : ¬ (s.aliasName = none ∨ s.IsPlainSelect) →
      s.nested = s.sql ∧ s.sql.head? ≠ some '(' := by
    intro hnot
    rw [not_or] at hnot
    exact ⟨if_pos (Option.isSome_iff_ne_none.2 hnot.1), head?_sql_ne hnot.2⟩
  refine ⟨⟨?_, fun h => ⟨_, hunit h⟩⟩, hunit, hbare⟩
  rintro ⟨body, hbody⟩
  refine Classical.byContradiction fun hnot => ?_
  obtain ⟨hsql, hhead⟩ := hbare hnot
  apply hhead
  rw [← hsql, hbody]
  rfl

theorem named_select_is_nested_as_unit :
    Place.text ({ kind := .select, columns := some ["id".toList], source := some "t",
                  limit := some 5, aliasName := some "x" } : Statement)
        (.joined "x.id = $n" .empty) =
      "(SELECT id FROM t LIMIT 5) AS x" := by
  rw [(nested_unit_iff _ _).2.1 (.inr ⟨rfl, rfl⟩)]
  decide

theorem exists_finished_statement_nested_bare :
    ¬ ∀ (start : Draft.Start) (steps : List Draft.Step) (s : Statement) (place : Place),
      (start.draft.run steps).finished = .ok s →
        ∃ body, place.text s = Text.parenthesized body ++ s.aliasText := by
  intro hall
  obtain ⟨body, hbody⟩ :=
    hall (.deleteFrom "t") [.returning ["id".toList], .named "x"] _ .source rfl
  have hhead := congrArg List.head? hbody
  cases hhead

end Statement

end SqlBuilder
