import Mathlib.Data.List.Induction
import SqlBuilder.Reply

/-!
Records of a reply.  Taking over the columns of the record before is the same as making new
ones, so a reply without a failure yields the records of its rows, each under the columns
last named before it.  A reply with a failure yields nothing but an error.
-/

namespace SqlBuilder

namespace Message

def isRow : Message → Bool
  | row _ => true
  | _ => false

/-- Whether the driver gives up at the message, after these columns. -/
def fails (names : Option (List Text)) : Message → Bool
  | row _ => names.isNone
  | error _ _ | hangup => true
  | _ => false

/-- Whether the message has as many values as these columns if it is a row under them. -/
def fits (names : Option (List Text)) : Message → Bool
  | row values => names.all fun names => values.length == names.length
  | _ => true

def failure : Message → Error
  | hangup => .connection "connection closed"
  | error _ _ => .query "db error"
  | _ => .query "unexpected message from server"

def columns? : Message → Option (List Text)
  | columns names => some names
  | _ => none

end Message

namespace Delivery

def row? : Delivery → Option Row
  | .row delivered => some delivered
  | _ => none

end Delivery

namespace Record

variable {record : Record} {names : List Text}

/-- Comparing how many names there are and then name by name finds out whether the lists are
the same. -/
theorem sharesColumns_iff : record.sharesColumns names = true ↔ record.columns = names := by
  rw [sharesColumns]
  generalize record.columns = columns
  induction columns generalizing names with
  | nil => cases names <;> simp
  | cons column columns ih =>
      cases names with
      | nil => simp
      | cons name names =>
          have hrest := @ih names
          simp only [Bool.and_eq_true, beq_iff_eq, List.length_cons, Nat.succ_inj,
            List.zip_cons_cons, List.all_cons] at hrest ⊢
          rw [List.cons.injEq, ← hrest]
          exact and_left_comm

/-- The record of a row does not depend on the record before it. -/
theorem ofRow_eq (previous : Option Record) (row : Row) : ofRow previous row = ofRow none row := by
  cases previous with
  | none => rfl
  | some record =>
      simp only [ofRow]
      split
      · next hshares => rw [sharesColumns_iff.1 hshares]
      · rfl

theorem ofRow_of_length_eq {row : Row} (hfit : row.cells.length = row.columns.length) :
    ofRow none row = ⟨row.columns, row.cells⟩ := by
  have hvalues : (List.range row.size).map row.get? = row.cells := by
    apply List.ext_getElem (by simp [Row.size, hfit])
    intro i hi hcell
    simp [Row.get?, hcell]
  rw [ofRow, hvalues]

end Record

namespace Reply

/-- The records of a run are those of its rows, one by one. -/
theorem recordsOf_eq (deliveries : List Delivery) :
    recordsOf deliveries = (deliveries.filterMap Delivery.row?).map (Record.ofRow none) := by
  induction deliveries using List.reverseRecOn with
  | nil => rfl
  | append_singleton earlier delivery ih =>
      rw [recordsOf, List.foldl_append, ← recordsOf, ih, List.filterMap_append]
      cases delivery with
      | row row => simp [withRecord, Delivery.row?, Record.ofRow_eq]
      | columns names => simp [withRecord, Delivery.row?]
      | complete => simp [withRecord, Delivery.row?]

def lastColumns (messages : List Message) : Option (List Text) :=
  (messages.filterMap Message.columns?).getLast?

/-- Every row has as many values as the columns it comes under. -/
def RowsFit (messages : List Message) : Prop :=
  ∀ before message after, messages = before ++ message :: after →
    message.fits (lastColumns before) = true

/-- The driver gives up at none of the messages. -/
def Delivers (messages : List Message) : Prop :=
  ∀ before message after, messages = before ++ message :: after →
    message.fails (lastColumns before) = false

theorem forall_split_iff {messages : List Message} {holds : List Message → Message → Prop} :
    (∀ before message after, messages = before ++ message :: after → holds before message) ↔
      ∀ place : Fin messages.length, holds (messages.take place) messages[place] := by
  constructor
  · intro hall place
    apply hall _ _ (messages.drop (place + 1))
    rw [Fin.getElem_fin, ← List.drop_eq_getElem_cons place.isLt, List.take_append_drop]
  · rintro hall before message after rfl
    simpa using hall ⟨before.length, by simp⟩

instance (messages : List Message) : Decidable (RowsFit messages) :=
  decidable_of_iff _ forall_split_iff.symm

instance (messages : List Message) : Decidable (Delivers messages) :=
  decidable_of_iff _ forall_split_iff.symm

theorem foldl_columnsAfter (messages : List Message) :
    messages.foldl columnsAfter none = lastColumns messages := by
  induction messages using List.reverseRecOn with
  | nil => rfl
  | append_singleton earlier message ih =>
      rw [List.foldl_append, ih, lastColumns, lastColumns, List.filterMap_append]
      cases message <;> simp [columnsAfter, Message.columns?]

/-- Messages that have been delivered matter to those after them through the columns that
they named last. -/
theorem deliveredAfter_append {names : Option (List Text)} {first second : List Message}
    {earlier : List Delivery} (hfirst : deliveredAfter names first = .ok earlier) :
    deliveredAfter names (first ++ second) =
      (deliveredAfter (first.foldl columnsAfter names) second).map (earlier ++ ·) := by
  induction first generalizing names earlier with
  | nil =>
      cases hfirst
      cases hsecond : deliveredAfter names second <;> simp [hsecond, Except.map]
  | cons message first ih =>
      rw [List.cons_append, deliveredAfter, List.foldl_cons]
      rw [deliveredAfter] at hfirst
      cases hdelivery : delivery names message with
      | error failure => simp [hdelivery, bind, Except.bind] at hfirst
      | ok delivery =>
          cases hrest : deliveredAfter (columnsAfter names message) first with
          | error failure => simp [hdelivery, hrest, bind, Except.bind] at hfirst
          | ok others =>
              simp only [hdelivery, hrest, bind, Except.bind, Except.ok.injEq] at hfirst
              subst hfirst
              simp only [bind, Except.bind, ih hrest]
              cases deliveredAfter (first.foldl columnsAfter (columnsAfter names message)) second
                <;> rfl

/-- After messages that are delivered, the next one is delivered under their last columns. -/
theorem delivered_append {before : List Message} {earlier : List Delivery}
    (hbefore : delivered before = .ok earlier) (after : List Message) :
    delivered (before ++ after) =
      (deliveredAfter (lastColumns before) after).map (earlier ++ ·) := by
  rw [delivered, deliveredAfter_append hbefore, foldl_columnsAfter]

/-- At a message at which the driver does not give up it delivers something, a row if the
message is one. -/
theorem exists_delivery {names : Option (List Text)} {message : Message}
    (hgoes : message.fails names = false) :
    ∃ delivery, Reply.delivery names message = .ok delivery ∧
      delivery.row?.isSome = message.isRow := by
  cases message with
  | columns next => exact ⟨.columns next, rfl, rfl⟩
  | row values =>
      cases names with
      | none => cases hgoes
      | some names => exact ⟨.row ⟨names, values⟩, rfl, rfl⟩
  | complete tag => exact ⟨.complete, rfl, rfl⟩
  | empty => exact ⟨.complete, rfl, rfl⟩
  | error code reason => cases hgoes
  | hangup => cases hgoes

theorem Delivers.of_append {before after : List Message} (hgoes : Delivers (before ++ after)) :
    Delivers before := by
  intro first message rest hbefore
  exact hgoes first message (rest ++ after) (by rw [hbefore]; simp)

/-- A reply at which the driver does not give up is delivered, with a row for each of
its rows. -/
theorem exists_delivered {messages : List Message} (hgoes : Delivers messages) :
    ∃ deliveries, delivered messages = .ok deliveries ∧
      (deliveries.filterMap Delivery.row?).length = messages.countP Message.isRow := by
  -- From the end, because the columns of a row are those named by the messages before it.
  induction messages using List.reverseRecOn with
  | nil => exact ⟨[], rfl, rfl⟩
  | append_singleton earlier message ih =>
      obtain ⟨deliveries, hearlier, hcount⟩ := ih hgoes.of_append
      obtain ⟨next, hnext, hrow⟩ := exists_delivery (hgoes earlier message [] rfl)
      refine ⟨deliveries ++ [next], ?_, ?_⟩
      · rw [delivered_append hearlier, deliveredAfter, hnext]
        rfl
      · rw [List.filterMap_append, List.length_append, hcount, List.countP_append,
          List.countP_singleton, ← hrow]
        cases hkind : next.row? <;> simp [hkind]

/-- There is a first message at which the driver gives up. -/
theorem exists_first_failure {messages : List Message} (hstops : ¬ Delivers messages) :
    ∃ before message after, messages = before ++ message :: after ∧ Delivers before ∧
      message.fails (lastColumns before) = true := by
  obtain ⟨before, message, after, hsplit, hfails⟩ : ∃ before message after,
      messages = before ++ message :: after ∧ message.fails (lastColumns before) = true := by
    simpa [Delivers] using hstops
  -- If the driver has given up before, that is among fewer messages.
  by_cases hbefore : Delivers before
  · exact ⟨before, message, after, hsplit, hbefore, hfails⟩
  · obtain ⟨earlier, first, rest, hearlier, hgoes, hfirst⟩ := exists_first_failure hbefore
    refine ⟨earlier, first, rest ++ message :: after, ?_, hgoes, hfirst⟩
    rw [hsplit, hearlier, List.append_assoc, List.cons_append]
termination_by messages.length
decreasing_by
  rw [hsplit, List.length_append, List.length_cons]
  omega

/-- A row is delivered at its place. -/
theorem exists_delivered_row {before after : List Message} {values : List (Option Text)}
    {names : List Text} {earlier deliveries : List Delivery}
    (hbefore : delivered before = .ok earlier) (hnames : lastColumns before = some names)
    (hwhole : delivered (before ++ .row values :: after) = .ok deliveries) :
    ∃ later, deliveries = earlier ++ .row ⟨names, values⟩ :: later := by
  rw [delivered_append hbefore, hnames, deliveredAfter] at hwhole
  cases hafter : deliveredAfter (columnsAfter (some names) (.row values)) after with
  | error failure => simp [delivery, hafter, bind, Except.bind, Except.map] at hwhole
  | ok later =>
      simp only [delivery, hafter, bind, Except.bind, Except.map, Except.ok.injEq] at hwhole
      exact ⟨later, hwhole.symm⟩

/-- Every row becomes a record at its place. -/
theorem records_of_delivers {messages : List Message} (hfit : RowsFit messages)
    (hgoes : Delivers messages) :
    ∃ records, Reply.records messages = .ok records ∧
      records.length = messages.countP Message.isRow ∧
      ∀ before values after, messages = before ++ .row values :: after →
        ∃ names, lastColumns before = some names ∧ values.length = names.length ∧
          records[before.countP Message.isRow]? = some ⟨names, values⟩ := by
  obtain ⟨deliveries, hdelivered, hcount⟩ := exists_delivered hgoes
  refine ⟨recordsOf deliveries, by rw [Reply.records, hdelivered], ?_, ?_⟩
  · rw [recordsOf_eq, List.length_map, hcount]
  · intro before values after hsplit
    subst hsplit
    obtain ⟨earlier, hbefore, hearlier⟩ := exists_delivered hgoes.of_append
    obtain ⟨names, hnames⟩ : ∃ names, lastColumns before = some names :=
      Option.ne_none_iff_exists'.1 fun hnone => by
        simpa [Message.fails, hnone] using hgoes before (.row values) after rfl
    have hlength : values.length = names.length := by
      simpa [Message.fits, hnames] using hfit before (.row values) after rfl
    refine ⟨names, hnames, hlength, ?_⟩
    obtain ⟨later, hlater⟩ := exists_delivered_row hbefore hnames hdelivered
    rw [recordsOf_eq, hlater, List.filterMap_append, List.map_append, ← hearlier]
    rw [List.getElem?_append_right (Nat.le_of_eq (List.length_map _))]
    simp [Delivery.row?, Record.ofRow_of_length_eq, hlength]

/-- The first message at which the driver gives up decides the error, whatever comes
after it. -/
theorem records_of_first_failure {before after : List Message} {message : Message}
    (hgoes : Delivers before) (hfails : message.fails (lastColumns before) = true) :
    Reply.records (before ++ message :: after) = .error message.failure := by
  obtain ⟨earlier, hbefore, -⟩ := exists_delivered hgoes
  rw [Reply.records, delivered_append hbefore, deliveredAfter]
  cases message with
  | row values =>
      rw [Message.fails, Option.isNone_iff_eq_none] at hfails
      rw [hfails]
      rfl
  | error code reason => rfl
  | hangup => rfl
  | columns next => cases hfails
  | complete tag => cases hfails
  | empty => cases hfails

/-- A reply whose rows have as many values as their columns yields all its rows, each at its
place and under its own columns, or it yields the error of the first message at which the
driver gives up.  An error or a hangup anywhere is such a message, or comes after one. -/
theorem rows_in_order_or_first_failure (messages : List Message) (hfit : RowsFit messages) :
    (Delivers messages →
      ∃ records, Reply.records messages = .ok records ∧
        records.length = messages.countP Message.isRow ∧
        ∀ before values after, messages = before ++ .row values :: after →
          ∃ names, lastColumns before = some names ∧ values.length = names.length ∧
            records[before.countP Message.isRow]? = some ⟨names, values⟩) ∧
      (¬ Delivers messages →
        ∃ before message after, messages = before ++ message :: after ∧ Delivers before ∧
          message.fails (lastColumns before) = true ∧
          Reply.records messages = .error message.failure) ∧
      (∀ message ∈ messages, message = .hangup ∨ (∃ code reason, message = .error code reason) →
        ¬ Delivers messages) ∧
      ∀ deliveries,
        recordsOf deliveries = (deliveries.filterMap Delivery.row?).map (Record.ofRow none) := by
  refine ⟨records_of_delivers hfit, fun hstops => ?_, fun message hmem hkind hgoes => ?_,
    recordsOf_eq⟩
  · obtain ⟨before, message, after, hsplit, hgoes, hfails⟩ := exists_first_failure hstops
    refine ⟨before, message, after, hsplit, hgoes, hfails, ?_⟩
    rw [hsplit]
    exact records_of_first_failure hgoes hfails
  · obtain ⟨before, after, hsplit⟩ := List.append_of_mem hmem
    have hfails := hgoes before message after hsplit
    rcases hkind with rfl | ⟨code, reason, rfl⟩ <;> cases hfails

/-- A reply of three statements.  The columns of the second start like those of the first,
and those of the third are none. -/
def threeStatements : List Message :=
  [.columns ["a", "b"], .row [some "1", none], .complete "SELECT 1", .columns ["a"],
    .row [some "2"], .row [none], .complete "SELECT 2", .empty, .columns [], .row [],
    .complete "SELECT 1"]

theorem rows_of_three_statements_in_order :
    RowsFit threeStatements ∧ Delivers threeStatements ∧
      Reply.records threeStatements =
        .ok [⟨["a", "b"], [some "1", none]⟩, ⟨["a"], [some "2"]⟩, ⟨["a"], [none]⟩, ⟨[], []⟩] ∧
      ∃ before message after, threeStatements ++ [.hangup] = before ++ message :: after ∧
        Delivers before ∧ message.fails (lastColumns before) = true ∧
        Reply.records (threeStatements ++ [.hangup]) = .error message.failure := by
  refine ⟨by decide, by decide, by decide, ?_⟩
  exact (rows_in_order_or_first_failure (threeStatements ++ [.hangup]) (by decide)).2.1 (by decide)

end Reply

end SqlBuilder
