import SqlBuilder.Proofs.Draft.Effect
import SqlBuilder.Proofs.Quoting.SingleNames
import SqlBuilder.Proofs.Statement.Nesting

/-!
The SELECT that collects the rows of a SELECT into one JSON array.  It gives the rows a
name, quoted, and refers to them by the same name without quotes.  So it refers to what it
names exactly if the name is plain; the clauses of the wrapped SELECT have no part in this.
-/

namespace SqlBuilder.Draft

/-- A SELECT that collects the rows of `argument` into one JSON array, where the rows of
`body` are called `aliasName`. -/
def jsonText (argument aliasName body : Text) : Text :=
  "SELECT array_to_json(array_agg(row_to_json(" ++ argument ++ "))) FROM (" ++ body ++ ") AS " ++
    aliasName

variable {draft : Draft} {s : Statement}

theorem finished_named (hfinished : draft.finished = .ok s) (name : Text) :
    (draft.named name).finished = .ok { s with aliasName := some (Identifier.quote name) } := by
  obtain ⟨-, rfl⟩ := fault_and_statement_of_finished hfinished
  have hcheck : (draft.named name).check = draft.check := rfl
  rw [finished] at hfinished ⊢
  rw [hcheck]
  cases hdraft : draft.check with
  | error reason => rw [hdraft] at hfinished; cases hfinished
  | ok _ => rfl

/-- A SELECT of a single expression from a source and of nothing else. -/
theorem sql_select_readFrom (expression : Text) (source : Source) :
    ((select [.text expression]).readFrom source).sql =
      .ok ("SELECT " ++ expression ++ " FROM " ++ source.asTable) := by
  have hcheck : ((select [.text expression]).readFrom source).check = .ok () := rfl
  rw [sql, hcheck, Statement.sql, select, readFrom, revise]
  simp [Statement.empty, Statement.selectText, Statement.selectBody_eq_foldl,
    Statement.columnsText, Statement.enclosedClause, Statement.optionalClause,
    Statement.conjunction, Statement.listClause, Source.asExpression, Except.map]

/-- The wrapped SELECT loses its own alias for the new one. -/
theorem toJson_of_isPlainSelect (hfinished : draft.finished = .ok s) (hplain : s.IsPlainSelect)
    (name : Text) :
    ∃ wrapped, draft.toJson name = .ok wrapped ∧
      wrapped.sql = .ok (jsonText name (Identifier.quote name) s.withoutAlias.sql) := by
  have hnested : ({ s with aliasName := some (Identifier.quote name) } : Statement).nested =
      Text.parenthesized s.withoutAlias.sql ++ (" AS " ++ Identifier.quote name) :=
    Statement.nested_of_isPlainSelect hplain
  rw [toJson, finished_named hfinished]
  refine ⟨_, rfl, ?_⟩
  rw [sql_select_readFrom, Source.asTable, hnested, Text.parenthesized]
  -- An equation for `jsonText` would have to evaluate its long literals.
  delta jsonText
  simp only [List.append_assoc, Except.ok.injEq]
  rfl

/-- What else stands in the place of the name there is not read as the name. -/
theorem eq_of_jsonText_eq {reserved : Text → Bool} {argument name first second body : Text}
    (hsingle : Identifier.single? reserved argument = some name)
    (hsame : jsonText argument first body = jsonText name second body) : argument = name := by
  have hclosing : ∀ middle aliasName, jsonText middle aliasName body =
      "SELECT array_to_json(array_agg(row_to_json(" ++
        (middle ++ ')' :: (")) FROM (" ++ body ++ ") AS " ++ aliasName)) := by
    intro middle aliasName
    delta jsonText
    simp only [List.append_assoc]
    rfl
  rw [hclosing, hclosing] at hsame
  exact Identifier.eq_of_append_eq_of_single? (by decide) hsingle (List.append_cancel_left hsame)

/-- A SELECT that is collected into a JSON array gets the name quoted as its alias, in the
place of an earlier one, and the rows to collect are called by the name as it is.  Both are
read as the name exactly if it is a plain name, while for the alias alone it suffices that the
name has no dot and is neither empty nor a star. -/
theorem json_refers_to_its_alias_iff (hfinished : draft.finished = .ok s)
    (hplain : s.IsPlainSelect) (reserved : Text → Bool) (name : Text) :
    ∃ wrapped, draft.toJson name = .ok wrapped ∧
      wrapped.sql = .ok (jsonText name (Identifier.quote name) s.withoutAlias.sql) ∧
      (Identifier.single? reserved (Identifier.quote name) = some name ↔
        name ≠ [] ∧ '.' ∉ name ∧ name ≠ "*") ∧
      ((∃ argument aliasName,
          wrapped.sql = .ok (jsonText argument aliasName s.withoutAlias.sql) ∧
          Identifier.single? reserved argument = some name ∧
          Identifier.single? reserved aliasName = some name) ↔
        Identifier.IsPlain reserved name) := by
  obtain ⟨wrapped, hwrapped, hsql⟩ := toJson_of_isPlainSelect hfinished hplain name
  refine ⟨wrapped, hwrapped, hsql, Identifier.single?_quote_eq_some_iff, ?_⟩
  constructor
  · rintro ⟨argument, aliasName, htext, hargument, -⟩
    rw [hsql, Except.ok.injEq] at htext
    rw [eq_of_jsonText_eq hargument htext.symm] at hargument
    exact Identifier.single?_eq_some_self_iff.1 hargument
  · intro hname
    exact ⟨name, Identifier.quote name, hsql, Identifier.single?_eq_some_self_iff.2 hname,
      hname.single?_quote⟩

/-- A draft with an alias, which the name of the rows replaces. -/
theorem json_of_plain_name_refers_to_its_alias :
    let draft := (((select [.text "id"]).readFrom (.text "t")).named "old").limit 3
    draft.finished = .ok draft.statement ∧ draft.statement.IsPlainSelect ∧
      Identifier.IsPlain (· == "user") "row_1" ∧
      ∃ wrapped argument aliasName, draft.toJson "row_1" = .ok wrapped ∧
        wrapped.sql = .ok (jsonText argument aliasName "SELECT id FROM \x22t\x22 LIMIT 3") ∧
        Identifier.single? (· == "user") argument = some "row_1" ∧
        Identifier.single? (· == "user") aliasName = some "row_1" := by
  intro draft
  have hname : Identifier.IsPlain (· == "user") "row_1" := by
    refine ⟨?_, ?_, ?_⟩ <;> decide
  have hbody : draft.statement.withoutAlias.sql = "SELECT id FROM \x22t\x22 LIMIT 3" := by decide
  have hfinished : draft.finished = .ok draft.statement := rfl
  have hselect : draft.statement.IsPlainSelect := ⟨rfl, rfl⟩
  obtain ⟨wrapped, hwrapped, -, -, hreading⟩ :=
    json_refers_to_its_alias_iff hfinished hselect (· == "user") "row_1"
  obtain ⟨argument, aliasName, hread⟩ := hreading.2 hname
  rw [hbody] at hread
  exact ⟨hfinished, hselect, hname, wrapped, argument, aliasName, hwrapped, hread⟩

theorem exists_json_not_referring_to_its_alias :
    ¬ ∀ (draft : Draft) (s : Statement) (name : Text),
      draft.finished = .ok s → s.IsPlainSelect → name ≠ [] →
        ∃ wrapped argument aliasName, draft.toJson name = .ok wrapped ∧
          wrapped.sql = .ok (jsonText argument aliasName s.withoutAlias.sql) ∧
          Identifier.single? (fun _ => false) argument = some name ∧
          Identifier.single? (fun _ => false) aliasName = some name := by
  intro hall
  have hfinished : ((select [.text "id"]).readFrom (.text "users")).finished =
      .ok ((select [.text "id"]).readFrom (.text "users")).statement := rfl
  obtain ⟨wrapped, argument, aliasName, hwrapped, htext, hargument, -⟩ :=
    hall _ _ "Users" hfinished ⟨rfl, rfl⟩ (by decide)
  obtain ⟨actual, hactual, hsql⟩ := toJson_of_isPlainSelect hfinished ⟨rfl, rfl⟩ "Users"
  rw [hactual, Except.ok.injEq] at hwrapped
  subst hwrapped
  rw [hsql, Except.ok.injEq] at htext
  rw [eq_of_jsonText_eq hargument htext.symm] at hargument
  exact absurd hargument (by decide)

end SqlBuilder.Draft
