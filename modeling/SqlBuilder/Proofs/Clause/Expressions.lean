import SqlBuilder.Clause.Assignment
import SqlBuilder.Proofs.Clause.RowSet
import SqlBuilder.Proofs.Reading.Literals
import SqlBuilder.Proofs.Statement.Nesting

/-!
The expressions of a row of VALUES and of the assignments of SET.  A column is to receive
one expression.  That is what a scalar value, an empty list, a SELECT with an alias and a
list of nothing but such a value come to; a longer list comes to as many expressions as
it has leaves, and any other statement in the cells lies open in the text.
-/

namespace SqlBuilder

open Lexeme

namespace Statement

/-- A SELECT with an alias, which brings parentheses along; no other statement does. -/
def IsEnclosed (s : Statement) : Prop := s.IsPlainSelect ∧ s.aliasName.isSome = true

instance (s : Statement) : Decidable s.IsEnclosed :=
  inferInstanceAs (Decidable ((s.kind = .select ∧ s.explain = false) ∧ s.aliasName.isSome = true))

/-- The SQL text that was given for the clauses closes its own quotes and parentheses. -/
structure ReadsEnclosed (s : Statement) : Prop where
  body : ReadsClosed s.selectBody
  name : ∀ name ∈ s.aliasName, ReadsQuietly name

/-- Parentheses around the body keep a SELECT with an alias from being cut by its commas. -/
theorem readsQuietly_sql {s : Statement} (henclosed : s.IsEnclosed) (hread : s.ReadsEnclosed) :
    ReadsQuietly s.sql := by
  obtain ⟨⟨hkind, hexplain⟩, hname⟩ := henclosed
  obtain ⟨name, hname⟩ := Option.isSome_iff_exists.1 hname
  rw [sql, hkind, selectText, hname, hexplain]
  exact ((ReadsQuietly.parenthesized hread.body).append
    (ReadsQuietly.of_calm (by decide))).append (hread.name name hname)

/-- A statement that brings no parentheses along begins with one of the words of statements. -/
theorem exists_word_of_not_isEnclosed {s : Statement} (hopen : ¬ s.IsEnclosed) :
    ∃ word ∈ statementWords, ∃ rest, s.sql = word ++ rest := by
  rw [sql]
  cases hkind : s.kind with
  | insert => exact ⟨Kind.keyword .insert, by simp [statementWords], _, rfl⟩
  | update => exact ⟨Kind.keyword .update, by simp [statementWords], _, rfl⟩
  | delete => exact ⟨Kind.keyword .delete, by simp [statementWords], _, rfl⟩
  | select =>
      rw [selectText]
      cases hexplain : s.explain with
      | true => exact ⟨"EXPLAIN", by simp [statementWords], _, rfl⟩
      | false =>
          cases hname : s.aliasName with
          | some name => exact absurd ⟨⟨hkind, hexplain⟩, by rw [hname]; rfl⟩ hopen
          | none =>
              obtain ⟨rest, hrest⟩ := Text.isPrefix_foldl_append "SELECT" _
              exact ⟨Kind.keyword .select, by simp [statementWords], rest,
                s.selectBody_eq_foldl.trans hrest.symm⟩

end Statement

namespace Value

/-- The value comes to one expression. -/
inductive IsSingle : Value → Prop
  | null : IsSingle .null
  | bool (value : Bool) : IsSingle (.bool value)
  | int (value : Int64) : IsSingle (.int value)
  | float (value : Binary64) : IsSingle (.float value)
  | text (value : Text) : IsSingle (.text value)
  | timestamp (value : Instant) : IsSingle (.timestamp value)
  | query {s : Statement} (henclosed : s.IsEnclosed) : IsSingle (.query s)
  | empty : IsSingle (.list [])
  | item {value : Value} (hitem : IsSingle value) : IsSingle (.list [value])

/-- Whether the value is a statement without parentheses. -/
def isOpen : Value → Bool
  | query s => !decide s.IsEnclosed
  | _ => false

theorem isOpen_iff {value : Value} :
    value.isOpen = true ↔ ∃ s, value = .query s ∧ ¬ s.IsEnclosed := by
  cases value <;> simp [isOpen]

theorem forall_isEnclosed_iff {value : Value} :
    (∀ s, value.Nests s → s.IsEnclosed) ↔ ∀ leaf ∈ value.leaves, leaf.isOpen = false := by
  constructor
  · intro henclosed leaf hleaf
    rw [← Bool.not_eq_true, isOpen_iff]
    rintro ⟨s, rfl, hopen⟩
    exact hopen (henclosed s (nests_iff_mem_leaves.2 hleaf))
  · intro hopen s hnests
    simpa [isOpen] using hopen (.query s) (nests_iff_mem_leaves.1 hnests)

/-- A value comes to one expression exactly if it has a single leaf, and this is no
statement without parentheses. -/
theorem isSingle_iff {value : Value} :
    value.IsSingle ↔ (∀ leaf ∈ value.leaves, leaf.isOpen = false) ∧ value.leaves.length = 1 := by
  have hitem : ∀ item : Value, (list [item]).leaves = item.leaves := fun item => by
    rw [leaves_list (List.cons_ne_nil item []), List.flatMap_singleton]
  constructor
  · intro hsingle
    induction hsingle with
    | item _ ih => rwa [hitem]
    | query henclosed => simp [leaves, isOpen, henclosed]
    | _ => simp [leaves, isOpen]
  · rintro ⟨hopen, hlength⟩
    induction value with
    | null => exact .null
    | bool value => exact .bool value
    | int value => exact .int value
    | float value => exact .float value
    | text value => exact .text value
    | timestamp value => exact .timestamp value
    | query s => exact .query (by simpa [leaves, isOpen] using hopen)
    | list items ih =>
        rcases items with _ | ⟨first, _ | ⟨second, others⟩⟩
        · exact .empty
        · rw [hitem] at hopen hlength
          exact .item (ih first List.mem_cons_self hopen hlength)
        · rw [leaves_list (List.cons_ne_nil _ _)] at hlength
          have hone := List.length_pos_iff.2 first.leaves_ne_nil
          have htwo := List.length_pos_iff.2 second.leaves_ne_nil
          simp only [List.flatMap_cons, List.length_append] at hlength
          omega

end Value

/-- A text that an INSERT or an UPDATE has for the columns, made from the cells: a row of
VALUES without its parentheses, or what SET assigns. -/
inductive Emitted : List Text → List Value → Text → Prop
  | row {rows : RowSet} {table : Table Value} {cells : List Value} {text : Text}
      (haccepted : rows.toTable = .ok table) (hrow : cells ∈ table.rows)
      (htext : Statement.rowText (cells.map Value.literal) = Text.parenthesized text) :
      Emitted table.columns cells text
  | set (values : Bindings) :
      Emitted values.names values.values (Assignments.columns values).text

/-- The list has as many items as there are columns, and no statement lies open in it. -/
def OneExpressionEach (columns : List Text) (text : Text) : Prop :=
  (items text).length = columns.length ∧ ∀ item ∈ items text, ¬ HasOpenStatement item

/-- A cell and what stands before it in its item. -/
structure Cell where
  lead : Text
  value : Value

namespace Cell

def text (cell : Cell) : Text := cell.lead ++ cell.value.literal

/-- The leaves of a cell, of which only the first one has something before it. -/
def leafCells (cell : Cell) : List Cell :=
  match cell.value.leaves with
  | [] => []
  | leaf :: others => ⟨cell.lead, leaf⟩ :: others.map fun other => ⟨[], other⟩

theorem map_value_leafCells (cell : Cell) : cell.leafCells.map value = cell.value.leaves := by
  rw [leafCells]
  split
  · next hnil => rw [hnil, List.map_nil]
  · next leaf others hcons => simp [hcons, Function.comp_def]

theorem value_mem_leaves {cell leaf : Cell} (hleaf : leaf ∈ cell.leafCells) :
    leaf.value ∈ cell.value.leaves := by
  rw [← cell.map_value_leafCells]
  exact List.mem_map_of_mem hleaf

theorem leafCells_ne_nil (cell : Cell) : cell.leafCells ≠ [] := by
  intro hnil
  have hleaves := cell.map_value_leafCells
  rw [hnil] at hleaves
  exact cell.value.leaves_ne_nil hleaves.symm

theorem text_eq_joined_leafCells (cell : Cell) :
    cell.text = Text.joined ", " (cell.leafCells.map text) := by
  obtain ⟨leaf, others, hleaves⟩ := List.exists_cons_of_ne_nil cell.value.leaves_ne_nil
  rw [text, Value.literal_eq_joined_leaves, leafCells, hleaves]
  simp [Text.joined_cons, text, Function.comp_def]

/-- Cells have the same text as their leaves, since a list is written as its leaves,
separated by commas. -/
theorem joined_texts (cells : List Cell) :
    Text.joined ", " (cells.map text) = Text.joined ", " ((cells.flatMap leafCells).map text) := by
  have hmap : cells.map text = (cells.map fun cell => cell.leafCells.map text).map
      (Text.joined ", ") := by
    rw [List.map_map]
    exact List.map_congr_left fun cell _ => cell.text_eq_joined_leafCells
  rw [hmap, Text.joined_map_joined, List.map_flatMap]
  · rfl
  · simp [leafCells_ne_nil]

theorem text_ne_nil (cell : Cell) : cell.text ≠ [] :=
  List.append_ne_nil_of_right_ne_nil _ cell.value.literal_ne_nil

theorem items_joined_texts {cells : List Cell} (hne : cells ≠ []) :
    items (Text.joined ", " (cells.map text)) =
      itemsAt 0 (lexemes (Text.joined ", " (cells.map text))) := by
  obtain ⟨cell, others, rfl⟩ := List.exists_cons_of_ne_nil hne
  have htext : Text.joined ", " ((cell :: others).map text) ≠ [] := by
    rw [List.map_cons, Text.joined_cons]
    exact List.append_ne_nil_of_left_ne_nil cell.text_ne_nil _
  rw [items, if_neg (by simpa using htext)]

/-- The cell is read by itself, unless its value is a statement without parentheses. -/
structure IsReadable (cell : Cell) : Prop where
  lead : ReadsQuietly cell.lead
  enclosed : ∀ s, cell.value.Nests s → s.IsEnclosed → s.ReadsEnclosed

theorem IsReadable.leafCells {cell leaf : Cell} (hcell : cell.IsReadable)
    (hleaf : leaf ∈ cell.leafCells) : leaf.IsReadable where
  lead := by
    rw [Cell.leafCells] at hleaf
    split at hleaf
    · cases hleaf
    · rcases List.mem_cons.1 hleaf with rfl | hother
      · exact hcell.lead
      · obtain ⟨other, -, rfl⟩ := List.mem_map.1 hother
        exact ReadsQuietly.of_calm rfl
  enclosed := fun s hnests => hcell.enclosed s (hnests.of_mem_leaves (value_mem_leaves hleaf))

/-- A leaf is read by itself unless it is a statement without parentheses. -/
theorem IsReadable.readsQuietly_text {whole : Value} {leaf : Cell} (hreadable : leaf.IsReadable)
    (hleaf : leaf.value ∈ whole.leaves) (hopen : leaf.value.isOpen = false) :
    ReadsQuietly leaf.text := by
  apply hreadable.lead.append
  by_cases hquery : ∃ s, leaf.value = .query s
  · obtain ⟨s, hs⟩ := hquery
    have henclosed : s.IsEnclosed := by simpa [hs, Value.isOpen] using hopen
    have hread := hreadable.enclosed s (hs ▸ .query) henclosed
    rw [hs, Value.literal]
    exact Statement.readsQuietly_sql henclosed hread
  · exact Value.readsQuietly_literal_leaf hleaf fun s hs => hquery ⟨s, hs⟩

end Cell

section Cells

variable {cells : List Cell} (hreadable : ∀ cell ∈ cells, cell.IsReadable)
include hreadable

theorem isReadable_of_mem_flatMap {leaf : Cell} (hleaf : leaf ∈ cells.flatMap Cell.leafCells) :
    leaf.IsReadable := by
  obtain ⟨cell, hcell, hmem⟩ := List.mem_flatMap.1 hleaf
  exact (hreadable cell hcell).leafCells hmem

theorem readsQuietly_of_mem_flatMap {leaf : Cell} (hleaf : leaf ∈ cells.flatMap Cell.leafCells)
    (hopen : leaf.value.isOpen = false) : ReadsQuietly leaf.text := by
  obtain ⟨cell, -, hmem⟩ := List.mem_flatMap.1 hleaf
  exact (isReadable_of_mem_flatMap hreadable hleaf).readsQuietly_text
    (Cell.value_mem_leaves hmem) hopen

/-- As long as all statements in the cells bring parentheses along, there is one item for
each leaf. -/
theorem items_of_enclosed
    (hopen : ∀ cell ∈ cells, ∀ leaf ∈ cell.value.leaves, leaf.isOpen = false) :
    (items (Text.joined ", " (cells.map Cell.text))).length =
        (cells.flatMap fun cell => cell.value.leaves).length ∧
      ∀ item ∈ items (Text.joined ", " (cells.map Cell.text)), ¬ HasOpenStatement item := by
  by_cases hne : cells = []
  · subst hne
    exact ⟨rfl, fun item hitem => absurd hitem List.not_mem_nil⟩
  have hleaves : cells.flatMap Cell.leafCells ≠ [] := by
    obtain ⟨cell, others, rfl⟩ := List.exists_cons_of_ne_nil hne
    exact List.append_ne_nil_of_left_ne_nil cell.leafCells_ne_nil _
  have hquiet : ∀ part ∈ (cells.flatMap Cell.leafCells).map Cell.text, ReadsQuietly part := by
    rw [List.forall_mem_map]
    intro leaf hleaf
    obtain ⟨cell, hcell, hmem⟩ := List.mem_flatMap.1 hleaf
    exact readsQuietly_of_mem_flatMap hreadable hleaf
      (hopen cell hcell leaf.value (Cell.value_mem_leaves hmem))
  obtain ⟨hlength, hitems⟩ := contained_itemsAt_joined (by simpa using hleaves) hquiet
  rw [Cell.joined_texts, Cell.items_joined_texts hleaves]
  refine ⟨?_, fun item hitem => (hitems item hitem).not_hasOpenStatement⟩
  have hcount : ∀ cell : Cell, cell.leafCells.length = cell.value.leaves.length := by
    intro cell
    rw [← cell.map_value_leafCells, List.length_map]
  simp only [hlength, List.length_map, List.length_flatMap, hcount]

/-- The first statement in the cells that brings no parentheses along lies open. -/
theorem exists_openStatement_of_isOpen
    (hopen : ∃ cell ∈ cells, ∃ leaf ∈ cell.value.leaves, leaf.isOpen = true) :
    ∃ item ∈ items (Text.joined ", " (cells.map Cell.text)), HasOpenStatement item := by
  obtain ⟨loud, hloud, value, hvalue, hvalueOpen⟩ := hopen
  have hfound : ∃ leaf ∈ cells.flatMap Cell.leafCells, leaf.value.isOpen = true := by
    rw [← loud.map_value_leafCells] at hvalue
    obtain ⟨leaf, hleaf, rfl⟩ := List.mem_map.1 hvalue
    exact ⟨leaf, List.mem_flatMap.2 ⟨loud, hloud, hleaf⟩, hvalueOpen⟩
  obtain ⟨leaf, hleaf⟩ := Option.isSome_iff_exists.1 (List.find?_isSome.2 hfound)
  obtain ⟨hfirst, before, after, hsplit, hbefore⟩ := List.find?_eq_some_iff_append.1 hleaf
  obtain ⟨s, hs, hbare⟩ := Value.isOpen_iff.1 hfirst
  obtain ⟨word, hword, rest, hsql⟩ := s.exists_word_of_not_isEnclosed hbare
  have hreads : leaf.IsReadable :=
    isReadable_of_mem_flatMap hreadable (List.mem_of_find?_eq_some hleaf)
  have htext : leaf.text = leaf.lead ++ (word ++ rest) := by
    rw [Cell.text, hs, Value.literal, hsql]
  rw [Cell.joined_texts, Cell.items_joined_texts (by simp [hsplit]), hsplit, List.map_append,
    List.map_cons, htext]
  refine exists_openStatement_of_word ?_ hreads.lead hword
  rw [List.forall_mem_map]
  intro other hother
  exact readsQuietly_of_mem_flatMap hreadable (by simp [hsplit, hother])
    (by simpa using hbefore other hother)

end Cells

/-- Rows of VALUES and what SET assigns are both made of cells, of which those of a row have
nothing before their values. -/
theorem Emitted.exists_cells {columns : List Text} {values : List Value} {text : Text}
    (hemitted : Emitted columns values text) :
    ∃ cells : List Cell, cells.map Cell.value = values ∧ values.length = columns.length ∧
      (∀ cell ∈ cells, ReadsQuietly cell.lead) ∧
      text = Text.joined ", " (cells.map Cell.text) := by
  cases hemitted with
  | row haccepted hrow htext =>
      refine ⟨values.map fun value => ⟨[], value⟩, ?_, RowSet.length_of_mem_rows haccepted hrow,
        ?_, ?_⟩
      · simp [Function.comp_def]
      · rw [List.forall_mem_map]
        exact fun value _ => ReadsQuietly.of_calm rfl
      · have hinner := List.append_cancel_left (List.append_cancel_right htext)
        rw [← hinner, List.map_map]
        rfl
  | set values =>
      refine ⟨values.entries.map fun entry => ⟨Identifier.quote entry.1 ++ " = ", entry.2⟩,
        ?_, ?_, ?_, ?_⟩
      · simp [Function.comp_def, Bindings.values]
      · rw [Bindings.values, Bindings.names, List.length_map, List.length_map]
      · rw [List.forall_mem_map]
        exact fun entry _ => (ReadsQuietly.quotedName entry.1).append
          (ReadsQuietly.of_calm (by decide))
      · rw [Assignments.text, List.map_map]
        rfl

/-- As every value has a leaf, there are as many leaves as values only if each has one. -/
theorem length_flatMap_leaves_eq_iff (values : List Value) :
    (values.flatMap Value.leaves).length = values.length ↔
      ∀ value ∈ values, value.leaves.length = 1 := by
  have hpos : ∀ value : Value, 1 ≤ value.leaves.length := fun value =>
    List.length_pos_iff.2 value.leaves_ne_nil
  have hle : ∀ values : List Value, values.length ≤ (values.flatMap Value.leaves).length := by
    intro values
    induction values with
    | nil => exact Nat.le_refl 0
    | cons value values ih =>
        have hvalue := hpos value
        rw [List.flatMap_cons, List.length_append, List.length_cons]
        omega
  induction values with
  | nil => simp
  | cons value values ih =>
      have hvalue := hpos value
      have hvalues := hle values
      rw [List.forall_mem_cons, List.flatMap_cons, List.length_append, List.length_cons]
      constructor
      · intro hsame
        exact ⟨by omega, ih.1 (by omega)⟩
      · rintro ⟨hone, hones⟩
        have hrest := ih.2 hones
        omega

/-- A row of VALUES, or what SET assigns, has one expression for each column exactly if
every cell is a single one.  As long as all statements in the cells bring parentheses
along, there is one expression for each leaf; any other statement lies open. -/
theorem one_expression_each_iff {columns : List Text} {values : List Value} {text : Text}
    (hemitted : Emitted columns values text)
    (hread : ∀ value ∈ values, ∀ s, value.Nests s → s.IsEnclosed → s.ReadsEnclosed) :
    (OneExpressionEach columns text ↔ ∀ value ∈ values, value.IsSingle) ∧
    ((∀ value ∈ values, ∀ s, value.Nests s → s.IsEnclosed) →
      (items text).length = (values.flatMap Value.leaves).length ∧
        ∀ item ∈ items text, ¬ HasOpenStatement item) ∧
    ((∃ value ∈ values, ∃ s, value.Nests s ∧ ¬ s.IsEnclosed) →
      ∃ item ∈ items text, HasOpenStatement item) := by
  obtain ⟨cells, rfl, hlength, hlead, rfl⟩ := hemitted.exists_cells
  rw [List.forall_mem_map] at hread
  have hreadable : ∀ cell ∈ cells, cell.IsReadable := fun cell hcell =>
    ⟨hlead cell hcell, hread cell hcell⟩
  have hitems := items_of_enclosed hreadable
  have hopen := exists_openStatement_of_isOpen hreadable
  have hleavesCount := length_flatMap_leaves_eq_iff (cells.map Cell.value)
  rw [List.flatMap_map, List.forall_mem_map] at hleavesCount
  simp only [List.forall_mem_map, List.flatMap_map, Value.forall_isEnclosed_iff, Value.isSingle_iff]
  refine ⟨⟨?_, ?_⟩, hitems, ?_⟩
  · rintro ⟨hcount, hclosed⟩
    have hleaves : ∀ cell ∈ cells, ∀ leaf ∈ cell.value.leaves, leaf.isOpen = false := by
      intro cell hcell leaf hleaf
      rw [← Bool.not_eq_true]
      intro hleafOpen
      obtain ⟨item, hitem, hstatement⟩ := hopen ⟨cell, hcell, leaf, hleaf, hleafOpen⟩
      exact hclosed item hitem hstatement
    rw [(hitems hleaves).1, ← hlength] at hcount
    exact fun cell hcell => ⟨hleaves cell hcell, hleavesCount.1 hcount cell hcell⟩
  · intro hsingle
    obtain ⟨hcount, hclosed⟩ := hitems fun cell hcell => (hsingle cell hcell).1
    refine ⟨?_, hclosed⟩
    rw [hcount, ← hlength]
    exact hleavesCount.2 fun cell hcell => (hsingle cell hcell).2
  · rintro ⟨value, hvalue, s, hnests, hstatement⟩
    obtain ⟨cell, hcell, rfl⟩ := List.mem_map.1 hvalue
    refine hopen ⟨cell, hcell, .query s, Value.nests_iff_mem_leaves.1 hnests, ?_⟩
    exact Value.isOpen_iff.2 ⟨s, rfl, hstatement⟩

def namedSelect : Statement where
  kind := .select
  columns := some ["id".toList]
  source := some (Identifier.quote "s")
  aliasName := some (Identifier.quote "x")

theorem readsEnclosed_namedSelect : namedSelect.ReadsEnclosed where
  body := by
    have hbody : namedSelect.selectBody = "SELECT id FROM ".toList ++ Identifier.quote "s" := rfl
    have hplain : "SELECT id FROM ".toList.any opens = false := by decide
    refine ⟨"SELECT id FROM ".toList.map mark ++ [quoted "\x22" "s"], by decide, fun rest _ => ?_⟩
    have hname : quoted? (Identifier.quote "s" ++ rest) = some (quoted "\x22" "s", rest) := rfl
    rw [hbody, List.append_assoc, lexemes_append_of_not_opens hplain, lexemes_of_quoted? hname,
      List.append_assoc]
    rfl
  name := by
    intro name hname
    obtain rfl : Identifier.quote "x" = name := Option.some.inj hname
    exact ReadsQuietly.quotedName "x"

/-- Values of one expression each, with commas and a parenthesis in a text. -/
def singles : Bindings :=
  .ofList [("a, b", .text "1, (2$Q"), ("c", .list [.list []]), ("d", .query namedSelect)]

theorem singles_are_assigned_one_expression_each :
    (Assignments.columns singles).text =
        Text.joined ", " ["\x22a, b\x22 = $Q$1, (2$Q$Q$".toList, "\x22c\x22 = NULL".toList,
          "\x22d\x22 = (SELECT id FROM \x22s\x22) AS \x22x\x22".toList] ∧
      OneExpressionEach singles.names (Assignments.columns singles).text := by
  have hvalues : singles.values =
      [.text "1, (2$Q", .list [.list []], .query namedSelect] := rfl
  have hsingle : ∀ value ∈ singles.values, value.IsSingle := by
    simp only [hvalues, List.forall_mem_cons]
    exact ⟨.text _, .item .empty, .query ⟨⟨rfl, rfl⟩, rfl⟩, fun _ hnone => nomatch hnone⟩
  have hread : ∀ value ∈ singles.values, ∀ s, value.Nests s → s.IsEnclosed → s.ReadsEnclosed := by
    simp only [hvalues, List.forall_mem_cons, Value.nests_iff_mem_leaves]
    refine ⟨?_, ?_, ?_, fun _ hnone => nomatch hnone⟩
    · simp [Value.leaves]
    · simp [Value.leaves, Value.itemLeaves]
    · simp [Value.leaves, readsEnclosed_namedSelect]
  exact ⟨by decide +kernel, (one_expression_each_iff (.set singles) hread).1.2 hsingle⟩

/-- Values of more than one expression, and of a statement without parentheses. -/
def spread : Bindings :=
  .ofList [("a", .list [.int 1, .int 2]), ("b", .query namedSelect.withoutAlias)]

theorem exists_row_without_one_expression_each :
    ¬ ∀ columns values text, Emitted columns values text → OneExpressionEach columns text := by
  intro hall
  have hrow : Emitted spread.names spread.values "1, 2, SELECT id FROM \x22s\x22" :=
    @Emitted.row (.single spread) ⟨spread.names, [spread.values]⟩ _ _ rfl List.mem_cons_self
      (by decide +kernel)
  exact absurd (hall _ _ _ hrow).1 (by decide +kernel)

end SqlBuilder
