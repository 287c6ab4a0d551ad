import SqlBuilder.Proofs.Text.Joined
import SqlBuilder.Value.Basic

/-!
Values as trees: induction over them, the texts in them, and the change of every
text in a value.
-/

namespace SqlBuilder.Value

/-- Induction over values, where a list has the property of its items at hand. -/
@[elab_as_elim, induction_eliminator]
theorem induct {motive : Value → Prop}
    (null : motive .null)
    (bool : ∀ value, motive (.bool value))
    (int : ∀ value, motive (.int value))
    (float : ∀ value, motive (.float value))
    (text : ∀ value, motive (.text value))
    (timestamp : ∀ value, motive (.timestamp value))
    (query : ∀ statement, motive (.query statement))
    (list : ∀ items, (∀ item ∈ items, motive item) → motive (.list items)) :
    ∀ value, motive value
  | .null => null
  | .bool value => bool value
  | .int value => int value
  | .float value => float value
  | .text value => text value
  | .timestamp value => timestamp value
  | .query statement => query statement
  | .list items =>
      list items fun item _ => induct null bool int float text timestamp query list item

mutual

/-- Whether no statement is nested in the value. -/
def queryFree : Value → Bool
  | query _ => false
  | list items => queryFreeItems items
  | _ => true

def queryFreeItems : List Value → Bool
  | [] => true
  | item :: items => queryFree item && queryFreeItems items

end

mutual

/-- The texts in a value, from left to right. -/
def texts : Value → List Text
  | text value => [value]
  | list items => itemTexts items
  | _ => []

def itemTexts : List Value → List Text
  | [] => []
  | item :: items => texts item ++ itemTexts items

end

mutual

/-- The value with every text in it changed. -/
def mapTexts (change : Text → Text) : Value → Value
  | text value => text (change value)
  | list items => list (mapItemTexts change items)
  | value => value

def mapItemTexts (change : Text → Text) : List Value → List Value
  | [] => []
  | item :: items => mapTexts change item :: mapItemTexts change items

end

mutual

/-- The items of a value that are not lists with items themselves, from left to right. -/
def leaves : Value → List Value
  | list (item :: items) => itemLeaves (item :: items)
  | value => [value]

def itemLeaves : List Value → List Value
  | [] => []
  | item :: items => leaves item ++ itemLeaves items

end

/-- The statement is the value, or it is nested in an item of the value. -/
inductive Nests (inner : Statement) : Value → Prop
  | query : Nests inner (.query inner)
  | item {items : List Value} {item : Value} (hmem : item ∈ items)
      (hitem : Nests inner item) : Nests inner (.list items)

@[simp] theorem queryFree_list (items : List Value) :
    (list items).queryFree = true ↔ ∀ item ∈ items, item.queryFree = true := by
  rw [queryFree]
  induction items with
  | nil => simp [queryFreeItems]
  | cons item items ih => simp [queryFreeItems, ih]

@[simp] theorem mem_texts_list {items : List Value} {payload : Text} :
    payload ∈ (list items).texts ↔ ∃ item ∈ items, payload ∈ item.texts := by
  rw [texts]
  induction items with
  | nil => simp [itemTexts]
  | cons item items ih => simp [itemTexts, ih]

@[simp] theorem mapTexts_list (change : Text → Text) (items : List Value) :
    (list items).mapTexts change = list (items.map (mapTexts change)) := by
  rw [mapTexts]
  induction items with
  | nil => simp [mapItemTexts]
  | cons item items ih => simpa [mapItemTexts] using ih

theorem leaves_list {items : List Value} (hne : items ≠ []) :
    (list items).leaves = items.flatMap leaves := by
  have hitems : ∀ items, itemLeaves items = items.flatMap leaves := by
    intro items
    induction items with
    | nil => rw [itemLeaves, List.flatMap_nil]
    | cons item items ih => rw [itemLeaves, ih, List.flatMap_cons]
  obtain ⟨item, others, rfl⟩ := List.exists_cons_of_ne_nil hne
  rw [leaves, hitems]

theorem leaves_ne_nil (value : Value) : value.leaves ≠ [] := by
  induction value with
  | list items ih =>
      rcases items with _ | ⟨item, items⟩
      · simp [leaves]
      · rw [leaves_list (List.cons_ne_nil item items), List.flatMap_cons]
        exact List.append_ne_nil_of_left_ne_nil (ih item List.mem_cons_self) _
  | _ => simp [leaves]

theorem ne_list_cons_of_mem_leaves {value leaf : Value} (hleaf : leaf ∈ value.leaves)
    (item : Value) (items : List Value) : leaf ≠ list (item :: items) := by
  induction value with
  | list inner ih =>
      rcases inner with _ | ⟨first, others⟩
      · simp only [leaves, List.mem_singleton] at hleaf
        simp [hleaf]
      · rw [leaves_list (List.cons_ne_nil first others), List.mem_flatMap] at hleaf
        obtain ⟨found, hfound, hmem⟩ := hleaf
        exact ih found hfound hmem
  | _ =>
      simp only [leaves, List.mem_singleton] at hleaf
      simp [hleaf]

/-- The statements that are nested in a value are leaves of it. -/
theorem nests_iff_mem_leaves {inner : Statement} {value : Value} :
    value.Nests inner ↔ .query inner ∈ value.leaves := by
  constructor
  · intro hnests
    induction hnests with
    | query => simp [leaves]
    | @item items item hmem _ ih =>
        rw [leaves_list (List.ne_nil_of_mem hmem), List.mem_flatMap]
        exact ⟨item, hmem, ih⟩
  · intro hmem
    induction value with
    | query statement =>
        simp only [leaves, List.mem_singleton, query.injEq] at hmem
        exact hmem ▸ .query
    | list items ih =>
        rcases items with _ | ⟨item, items⟩
        · simp [leaves] at hmem
        · rw [leaves_list (List.cons_ne_nil item items), List.mem_flatMap] at hmem
          obtain ⟨found, hfound, hleaf⟩ := hmem
          exact .item hfound (ih found hfound hleaf)
    | _ => simp [leaves] at hmem

theorem Nests.of_mem_leaves {inner : Statement} {value leaf : Value} (hnests : leaf.Nests inner)
    (hleaf : leaf ∈ value.leaves) : value.Nests inner := by
  cases hnests with
  | query => exact nests_iff_mem_leaves.2 hleaf
  | @item items item hmem _ =>
      obtain ⟨first, others, rfl⟩ := List.exists_cons_of_ne_nil (List.ne_nil_of_mem hmem)
      exact absurd rfl (ne_list_cons_of_mem_leaves hleaf first others)

theorem literal_list {items : List Value} (hne : items ≠ []) :
    (list items).literal = Text.joined ", " (items.map literal) := by
  obtain ⟨item, others, rfl⟩ := List.exists_cons_of_ne_nil hne
  exact literal_list_cons item others

/-- A value is written as its leaves with commas between them, so that the grouping is
not seen. -/
theorem literal_eq_joined_leaves (value : Value) :
    value.literal = Text.joined ", " (value.leaves.map literal) := by
  induction value with
  | list items ih =>
      rcases items with _ | ⟨item, items⟩
      · simp [leaves]
      · have hne := List.cons_ne_nil item items
        have hmap : (item :: items).map literal =
            ((item :: items).map fun value => value.leaves.map literal).map
              (Text.joined ", ") := by
          rw [List.map_map]
          exact List.map_congr_left ih
        rw [literal_list hne, leaves_list hne, hmap, Text.joined_map_joined, List.map_flatMap]
        · rfl
        · simp [leaves_ne_nil]
  | _ => simp [leaves]

/-- No value is written as the empty text, not even an empty list. -/
theorem literal_ne_nil (value : Value) : value.literal ≠ [] := by
  have hquote : ∀ payload, DollarQuoted.quote payload ≠ [] := by
    intro payload
    rw [DollarQuoted.quote, DollarQuoted.tag]
    split <;> exact List.cons_ne_nil _ _
  induction value with
  | null => exact List.cons_ne_nil _ _
  | bool value => cases value <;> exact List.cons_ne_nil _ _
  | int n =>
      rw [literal]
      cases n.toInt with
      | ofNat m => exact Text.ofNat_ne_nil m
      | negSucc m => exact List.cons_ne_nil _ _
  | float x => exact hquote x.text
  | text payload => exact hquote payload
  | timestamp instant => exact List.cons_ne_nil _ _
  | query statement => exact statement.sql_ne_nil
  | list items ih =>
      rcases items with _ | ⟨item, items⟩
      · exact List.cons_ne_nil _ _
      · rw [literal_list (List.cons_ne_nil item items), List.map_cons, Text.joined_cons]
        exact List.append_ne_nil_of_left_ne_nil (ih item List.mem_cons_self) _

end SqlBuilder.Value
