import TradeResearch.Oms.Frames
import TradeResearch.Positions.Executor

/-!
# What a close leaves open

The order of a close is recorded like any other, and `record_fill` does not know that it closes: its
fill overwrites the row its venue id names, or opens a new one. A venue that gives the closing order
a ticket of its own has the platform open a position on the other side.

* `closeFill` is the fill the venue's answer to a close confirms; `exec_applyAnswer_confirms` reads
  it off the closed order.
* `OnlyReduced` says that nothing came of a recording but the closed position reduced or removed.
* `onlyReduced_recordFill_iff` is one recording; `close_onlyReduced_iff` is the whole close.
-/

namespace TradeResearch.Positions

open Oms Oms.ManagedOrder Brokers Execution

def answeredFill (volume : ℚ) (now : Time) : Answer OrderResult → Option FillRecord
  | .error _ => none
  | .ok result =>
    if result.status = .accepted then
      ((resultFill result now).bind fun report => report.make.toOption).filter
        fun f => f.quantity ≤ volume
    else none

def answeredId : Answer OrderResult → Option String
  | .error _ => none
  | .ok result => result.orderId

def closeFill (order : ManagedOrder) (now : Time) (answer : Answer OrderResult) :
    Option ConfirmedFill :=
  (answeredFill order.quantity now answer).bind fun f =>
    ConfirmedFill.of order (answeredId answer) f.quantity f.price

structure Untouched (o : ManagedOrder) : Prop where
  created : o.status = .intent
  unfilled : o.book.fills = []
  unnamed : o.brokerOrderId = none

section Answered

variable {o : ManagedOrder} (now : Time) (result : OrderResult)

theorem taken_terms (o : ManagedOrder) :
    (o.taken now result).mode = o.mode ∧ (o.taken now result).side = o.side ∧
      (o.taken now result).stopLoss = o.stopLoss ∧
      (o.taken now result).takeProfit = o.takeProfit ∧
      (o.taken now result).brokerOrderId =
        if truthy result.orderId then result.orderId else o.brokerOrderId := by
  simp only [taken, moved_mode, moved_side, moved_stopLoss, moved_takeProfit, moved_brokerOrderId]
  unfold named
  split <;> exact ⟨rfl, rfl, rfl, rfl, rfl⟩

theorem filter_of_truthy (venue : Option String) :
    (if truthy venue then venue else none).filter (· ≠ "") = venue.filter (· ≠ "") := by
  cases venue with
  | none => rfl
  | some id =>
    by_cases present : id = ""
    · subst present
      rfl
    · rw [if_pos (truthy_iff.mpr ⟨id, rfl, present⟩)]

theorem ConfirmedFill.of_congr {o o' : ManagedOrder} {venue venue' : Option String}
    {quantity entry : ℚ} (mode : o'.mode = o.mode) (side : o'.side = o.side)
    (stopLoss : o'.stopLoss = o.stopLoss) (takeProfit : o'.takeProfit = o.takeProfit)
    (named : venue'.filter (· ≠ "") = venue.filter (· ≠ "")) :
    ConfirmedFill.of o' venue' quantity entry = ConfirmedFill.of o venue quantity entry := by
  unfold ConfirmedFill.of
  rw [mode, side, stopLoss, takeProfit, named]

theorem averagePrice_append {b : FillBook} {f : FillRecord} (empty : b.fills = [])
    (fits : f.quantity ≤ b.remainingQuantity) :
    (b.append f fits).filledQuantity = f.quantity ∧
      (b.append f fits).averagePrice = some f.price := by
  have filled : (b.append f fits).filledQuantity = f.quantity := by
    rw [FillBook.append_filledQuantity, b.filledQuantity_eq_zero_iff.mpr empty, zero_add]
  unfold FillBook.averagePrice
  rw [filled, if_neg (not_le.mpr f.quantity_pos), FillBook.append_fills, empty]
  simp [mul_div_cancel_left₀ _ f.quantity_pos.ne']

theorem remainingQuantity_of_unfilled (unfilled : o.book.fills = []) :
    o.book.remainingQuantity = o.quantity := by
  unfold FillBook.remainingQuantity
  rw [o.book.filledQuantity_eq_zero_iff.mpr unfilled, sub_zero, o.book_requested]

theorem answeredFill_of_report {volume : ℚ} {result : OrderResult} {report : FillReport}
    {f : FillRecord} (verdict : result.status = .accepted)
    (fill : resultFill result now = some report) (made : report.make = .ok f) :
    answeredFill volume now (.ok result) = if f.quantity ≤ volume then some f else none := by
  unfold answeredFill
  dsimp only
  rw [if_pos verdict, fill, Option.bind_some, made]
  by_cases fits : f.quantity ≤ volume <;> simp [Except.toOption, Option.filter, fits]

theorem confirmedFill_applied {f : FillRecord} {time : Time} {reason : Text}
    (unfilled : o.book.fills = []) (unnamed : o.brokerOrderId = none)
    (fits : f.quantity ≤ (o.taken now result).book.remainingQuantity) :
    confirmedFill (((o.taken now result).withFill f fits).moved
        (impliedStatus ((o.taken now result).book.append f fits)) time .broker reason none) =
      ConfirmedFill.of o result.orderId f.quantity f.price := by
  have empty : (o.taken now result).book.fills = [] := by rw [taken_book, unfilled]
  obtain ⟨filled, average⟩ := averagePrice_append empty fits
  obtain ⟨mode, side, stopLoss, takeProfit, named⟩ := taken_terms now result o
  have state : impliedStatus ((o.taken now result).book.append f fits) = .filled ∨
      impliedStatus ((o.taken now result).book.append f fits) = .partiallyFilled := by
    unfold impliedStatus
    split
    · exact .inl rfl
    · exact .inr rfl
  rw [@confirmedFill_of_filled _ f.quantity f.price
    (by rw [moved_status]; exact state)
    (by unfold filledQuantity; rw [moved_book]; exact filled) f.quantity_pos
    (by rw [moved_book]; exact average)]
  refine ConfirmedFill.of_congr (by rw [moved_mode]; exact mode) (by rw [moved_side]; exact side)
    (by rw [moved_stopLoss]; exact stopLoss) (by rw [moved_takeProfit]; exact takeProfit) ?_
  rw [moved_brokerOrderId]
  show ((o.taken now result).brokerOrderId).filter _ = _
  rw [named, unnamed, filter_of_truthy]

theorem exec_applyResult_confirms (sent : o.status = .submitting) (unfilled : o.book.fills = [])
    (unnamed : o.brokerOrderId = none) :
    (((applyResult now result).exec o).1 = .ok () →
        confirmedFill ((applyResult now result).exec o).2 = closeFill o now (.ok result)) ∧
      (((applyResult now result).exec o).1 ≠ .ok () → closeFill o now (.ok result) = none) := by
  have legal : .submitted ∈ o.status.transitions := by rw [sent]; decide
  cases verdict : result.status with
  | unknown =>
    have nothing : closeFill o now (.ok result) = none := by simp [closeFill, answeredFill, verdict]
    have status := parked_status o now
      (result.detail.orElse (Text.lit "the venue's answer was unclear"))
    rw [nothing, exec_applyResult_unknown o now result verdict]
    refine ⟨fun _ => confirmedFill_of_unfilled ?_ ?_, fun _ => rfl⟩
    all_goals
      rw [parked_status, named_status, sent]
      decide
  | rejected =>
    have nothing : closeFill o now (.ok result) = none := by simp [closeFill, answeredFill, verdict]
    rw [nothing, exec_applyResult_rejected o now result verdict legal]
    exact ⟨fun _ => confirmedFill_of_unfilled (by simp) (by simp), fun _ => rfl⟩
  | accepted =>
    cases fill : resultFill result now with
    | none =>
      have nothing : closeFill o now (.ok result) = none := by
        simp [closeFill, answeredFill, verdict, fill]
      rw [nothing, exec_applyResult_accepted o now result verdict legal fill]
      exact ⟨fun _ => confirmedFill_of_unfilled (by simp) (by simp), fun _ => rfl⟩
    | some report =>
      rw [exec_applyResult_filled o now result verdict legal fill]
      generalize ran : (record report now).exec (o.taken now result) = out
      have outcome := record_cases report now (o.taken now result)
      rw [ran] at outcome
      have room : (o.taken now result).book.remainingQuantity = o.quantity := by
        rw [taken_book, remainingQuantity_of_unfilled unfilled]
      cases outcome with
      | invalid reason refused =>
        refine ⟨fun returned => (by cases returned), fun _ => ?_⟩
        cases made : report.make with
        | ok f => exact absurd (FillReport.valid_of_make made) refused
        | error e =>
          simp [closeFill, answeredFill, verdict, fill, made, Except.toOption]
      | recorded f made known =>
        rw [taken_book, FillBook.not_alreadyRecorded_of_fills_nil unfilled] at known
        cases known
      | overfilled f made fresh overfull =>
        refine ⟨fun returned => (by cases returned), fun _ => ?_⟩
        unfold closeFill
        rw [answeredFill_of_report now verdict fill made,
          if_neg (not_le.mpr (room ▸ overfull)), Option.bind_none]
      | applied f made fresh fits _ time reason =>
        refine ⟨fun _ => ?_, fun raised => absurd rfl raised⟩
        rw [confirmedFill_applied now result unfilled unnamed fits]
        unfold closeFill
        rw [answeredFill_of_report now verdict fill made, if_pos (room ▸ fits), Option.bind_some]
        rfl
      | stranded f made fresh fits illegal =>
        exact absurd (impliedStatus_mem_transitions (.inl (taken_status o now result)) _) illegal

theorem exec_applyAnswer_confirms (sent : o.status = .submitting) (unfilled : o.book.fills = [])
    (unnamed : o.brokerOrderId = none) (answer : Answer OrderResult) :
    (((applyAnswer now answer).exec o).1 = .ok () →
        confirmedFill ((applyAnswer now answer).exec o).2 = closeFill o now answer) ∧
      (((applyAnswer now answer).exec o).1 ≠ .ok () → closeFill o now answer = none) := by
  cases answer with
  | ok result => exact exec_applyResult_confirms now result sent unfilled unnamed
  | error e =>
    refine ⟨fun _ => ?_, fun _ => rfl⟩
    by_cases broker : ∃ type reason, e = .brokerError type reason
    · obtain ⟨type, reason, rfl⟩ := broker
      rw [exec_applyAnswer_broker o now (by rw [sent]; decide)]
      exact confirmedFill_of_unfilled (by simp) (by simp)
    · rw [exec_applyAnswer_raised o now fun type reason same => broker ⟨type, reason, same⟩]
      refine confirmedFill_of_unfilled ?_ ?_
      all_goals
        rw [parked_status, sent]
        decide

end Answered

structure OnlyReduced (closedId : String) (before after : PositionsTable) : Prop where
  known : ∀ row ∈ after.rows, row.isOpen = true → ∃ old ∈ before.rows, old.isOpen = true ∧
    (row = old ∨
      (old.id = closedId ∧ row.id = closedId ∧ row.side = old.side ∧ row.quantity ≤ old.quantity))
  kept : ∀ old ∈ before.rows, old.isOpen = true → old.id ≠ closedId → old ∈ after.rows

theorem OnlyReduced.refl (closedId : String) (t : PositionsTable) : OnlyReduced closedId t t :=
  ⟨fun row mem isOpen => ⟨row, mem, isOpen, .inl rfl⟩, fun _ mem _ _ => mem⟩

def Absorbed (closedId : String) (t : PositionsTable) (fill : ConfirmedFill) : Prop :=
  ∃ row, t.existing fill.venueId fill.mode = some row ∧
    (row.isOpen = false ∨ (row.id = closedId ∧ fill.quantity ≤ row.quantity) ∨
      row.refilled fill = row)

theorem onlyReduced_modify_iff {closedId : String} {t : PositionsTable} {row : PositionRow}
    (fill : ConfirmedFill) (mem : row ∈ t.rows) :
    OnlyReduced closedId t (t.refill row.id fill) ↔
      row.isOpen = false ∨ (row.id = closedId ∧ fill.quantity ≤ row.quantity) ∨
        row.refilled fill = row := by
  constructor
  · intro only
    cases isOpen : row.isOpen with
    | false => exact .inl rfl
    | true =>
      have after : row.refilled fill ∈ (t.refill row.id fill).rows :=
        Table.mem_modify.mpr (.inl ⟨row, mem, rfl, rfl⟩)
      obtain ⟨old, held, _, same | ⟨oldId, rowId, _, less⟩⟩ := only.known _ after isOpen
      · have this : old = row := Table.eq_of_key held mem (congrArg (fun r => r.id) same).symm
        exact .inr (.inr (same.trans this))
      · have this : old = row := Table.eq_of_key held mem (oldId.trans rowId.symm)
        subst this
        exact .inr (.inl ⟨oldId, less⟩)
  · rintro absorbed
    refine ⟨fun after held isOpen => ?_, fun old held isOpen elsewhere => ?_⟩
    · rcases Table.mem_modify.mp held with ⟨old, held', same, rfl⟩ | ⟨held', _⟩
      · have this : old = row := Table.eq_of_key held' mem same
        subst this
        rcases absorbed with closed | ⟨here, less⟩ | unchanged
        · have stays : (old.refilled fill).isOpen = old.isOpen := rfl
          rw [stays, closed] at isOpen
          cases isOpen
        · exact ⟨old, mem, isOpen, .inr ⟨here, here, rfl, less⟩⟩
        · exact ⟨old, mem, isOpen, .inl unchanged⟩
      · exact ⟨after, held', isOpen, .inl rfl⟩
    · by_cases here : old.id = row.id
      · have this : old = row := Table.eq_of_key held mem here
        subst this
        rcases absorbed with closed | ⟨closing, _⟩ | unchanged
        · rw [closed] at isOpen
          cases isOpen
        · exact absurd closing elsewhere
        · exact Table.mem_modify.mpr (.inl ⟨old, mem, rfl, unchanged⟩)
      · exact Table.mem_modify.mpr (.inr ⟨held, here⟩)

theorem not_onlyReduced_insert {closedId : String} {t : PositionsTable} {row : PositionRow}
    (free : row.id ∉ t.rows.map fun r => r.id) (isOpen : row.isOpen = true) :
    ¬ OnlyReduced closedId t (t.insert row free) := by
  intro only
  obtain ⟨old, held, _, same | ⟨oldId, rowId, _⟩⟩ :=
    only.known row (Table.mem_insert.mpr (.inr rfl)) isOpen
  · exact free (List.mem_map.mpr ⟨old, held, by rw [same]⟩)
  · exact free (List.mem_map.mpr ⟨old, held, oldId.trans rowId.symm⟩)

theorem onlyReduced_recordFill_iff {closedId : String} {t t' : PositionsTable} {o : ManagedOrder}
    {r : Recording} (recorded : t.recordFill o r = .ok t') :
    OnlyReduced closedId t t' ↔
      ∀ fill, confirmedFill o = some fill → Absorbed closedId t fill := by
  have outcome := t.recordFill_cases o r
  rw [recorded] at outcome
  cases outcome with
  | unconfirmed nothing =>
    refine iff_of_true (OnlyReduced.refl closedId t) fun fill confirmed => ?_
    rw [nothing] at confirmed
    cases confirmed
  | refilled fill row confirmed found =>
    obtain ⟨mem, _, _⟩ := PositionsTable.mem_of_existing found
    rw [onlyReduced_modify_iff fill mem]
    constructor
    · intro absorbed fill' confirmed'
      cases confirmed.symm.trans confirmed'
      exact ⟨row, found, absorbed⟩
    · intro absorbed
      obtain ⟨row', found', lands⟩ := absorbed fill confirmed
      cases found.symm.trans found'
      exact lands
  | opened fill confirmed absent free =>
    refine iff_of_false (not_onlyReduced_insert free rfl) fun absorbed => ?_
    obtain ⟨row, found, _⟩ := absorbed fill confirmed
    rw [absent] at found
    cases found

def Admits (t : OrdersTable) (o : ManagedOrder) : Prop :=
  o.id ∈ t.rows.map OrderRow.id ∨ o.clientOrderId ∉ t.rows.map OrderRow.intentId

instance (t : OrdersTable) (o : ManagedOrder) : Decidable (Admits t o) :=
  inferInstanceAs (Decidable (_ ∨ _))

theorem persist_ok_iff_admits {t : OrdersTable} {o : ManagedOrder} :
    (∃ t', t.persist o = .ok t') ↔ Admits t o := by
  unfold OrdersTable.persist Admits
  by_cases id : o.id ∈ t.rows.map OrderRow.id
  · rw [dif_pos id]
    exact iff_of_true ⟨_, rfl⟩ (.inl id)
  · rw [dif_neg id]
    by_cases intent : o.clientOrderId ∈ t.rows.map OrderRow.intentId
    · rw [dif_pos intent]
      refine iff_of_false ?_ (not_or.mpr ⟨id, not_not.mpr intent⟩)
      rintro ⟨t', written⟩
      cases written
    · rw [dif_neg intent]
      exact iff_of_true ⟨_, rfl⟩ (.inr intent)

theorem record_unconfirmed {o : ManagedOrder} (nothing : confirmedFill o = none) (db : Database)
    (tx : Transaction) (r : Recording) :
    (db.record tx o r).1.positions = db.positions ∧
      (Admits (db.record tx o r).1.orders o ↔ Admits db.orders o) := by
  rcases db.record_left tx o r with ⟨db', _, written, left⟩ | ⟨_, left⟩
  · rw [left]
    obtain ⟨persisted, recorded⟩ := Database.written_eq_ok.mp written
    have same : db.positions.recordFill o r = .ok db.positions := by
      unfold PositionsTable.recordFill
      rw [nothing]
    rw [same] at recorded
    refine ⟨(Except.ok.inj recorded).symm, ?_⟩
    have admitted : Admits db.orders o := persist_ok_iff_admits.mp ⟨_, persisted⟩
    refine iff_of_true (.inl ?_) admitted
    rcases OrdersTable.persist_cases db.orders o with ⟨e, raised⟩ | ⟨t', written', _, row, mem, own⟩
    · rw [raised] at persisted
      cases persisted
    · rw [written'] at persisted
      cases Except.ok.inj persisted
      exact List.mem_map.mpr ⟨row, mem, own⟩
  · rw [left]
    exact ⟨rfl, Iff.rfl⟩

theorem onlyReduced_record_iff {closedId : String} (db : Database) (tx : Transaction)
    (o : ManagedOrder) (r : Recording) :
    OnlyReduced closedId db.positions (db.record tx o r).1.positions ↔
      ∀ fill, confirmedFill o = some fill → Database.Takes tx → Admits db.orders o →
        (db.positions.existing fill.venueId fill.mode = none →
          r.positionId ∉ db.positions.rows.map fun row => row.id) →
        Absorbed closedId db.positions fill := by
  rcases db.record_left tx o r with ⟨db', takes, written, left⟩ | ⟨refused, left⟩
  · obtain ⟨persisted, recorded⟩ := Database.written_eq_ok.mp written
    have admitted : Admits db.orders o := persist_ok_iff_admits.mp ⟨_, persisted⟩
    have free := PositionsTable.recordFill_ok_iff.mp ⟨_, recorded⟩
    rw [left, onlyReduced_recordFill_iff recorded]
    refine forall₂_congr fun fill confirmed => ?_
    rw [imp_iff_right takes, imp_iff_right admitted, imp_iff_right (free fill confirmed)]
  · rw [left]
    refine iff_of_true (OnlyReduced.refl _ _) fun fill confirmed takes admitted free => ?_
    rcases refused with untaken | ⟨e, raised⟩
    · exact absurd takes untaken
    · obtain ⟨orders, persisted⟩ := persist_ok_iff_admits.mpr admitted
      obtain ⟨table, recorded⟩ : ∃ table, db.positions.recordFill o r = .ok table := by
        refine PositionsTable.recordFill_ok_iff.mpr fun fill' confirmed' => ?_
        cases confirmed.symm.trans confirmed'
        exact free
      have written := (@Database.written_eq_ok db ⟨orders, table⟩ o r).mpr ⟨persisted, recorded⟩
      rw [written] at raised
      cases raised

theorem closeFill_sending (order : ManagedOrder) (sentAt now : Time) (reason : Text)
    (answer : Answer OrderResult) :
    closeFill (order.sending sentAt reason) now answer = closeFill order now answer := by
  unfold closeFill sending
  refine congrArg _ (funext fun f => ?_)
  exact ConfirmedFill.of_congr (moved_mode ..) (moved_side ..) (moved_stopLoss ..)
    (moved_takeProfit ..) rfl

theorem admits_congr {t : OrdersTable} {o o' : ManagedOrder} (same : SameOrder o o') :
    Admits t o' ↔ Admits t o := by
  unfold Admits
  rw [same.id, same.clientOrderId]

def CloseRun.Records (run : CloseRun) (brokerPositionId : String) (order : ManagedOrder)
    (db : Database) (fill : ConfirmedFill) : Prop :=
  brokerPositionId ≠ "" ∧ Database.Takes run.after ∧ Admits db.orders order ∧
    (db.positions.existing fill.venueId fill.mode = none →
      run.recordedAfter.positionId ∉ db.positions.rows.map fun row => row.id)

theorem settle_onlyReduced_iff {order : ManagedOrder} (untouched : Untouched order)
    (run : CloseRun) (closedId brokerPositionId : String) (db : Database) :
    OnlyReduced closedId db.positions (run.settle brokerPositionId order db).2.2.positions ↔
      ∀ fill, closeFill order run.sentAt run.answer = some fill →
        run.Records brokerPositionId order db fill → Absorbed closedId db.positions fill := by
  obtain ⟨positions, admits⟩ := record_unconfirmed (o := order)
    (confirmedFill_of_unfilled (by rw [untouched.created]; decide)
      (by rw [untouched.created]; decide)) db run.before run.recordedBefore
  unfold CloseRun.settle
  generalize (db.record run.before order run.recordedBefore).1 = db₁ at positions admits
  by_cases named : brokerPositionId = ""
  · obtain ⟨reason, refused⟩ := exec_close_refused run.sentAt (.inr named) run.answer (o := order)
    rw [refused]
    rw [positions]
    exact iff_of_true (OnlyReduced.refl _ _) fun fill _ records => absurd named records.1
  obtain ⟨reason, sends⟩ := exec_close_of_created run.sentAt untouched.created named run.answer
  have confirms := exec_applyAnswer_confirms run.sentAt (o := order.sending run.sentAt reason)
    (by simp) (by rw [sending_book, untouched.unfilled])
    (by rw [sending_brokerOrderId, untouched.unnamed]) run.answer
  rw [closeFill_sending, ← sends] at confirms
  have same : SameOrder order ((ManagedOrder.close run.sentAt brokerPositionId run.answer).exec
      order).2 :=
    keeps_body (stable_sameOrder order).lasting (renamable_sameOrder order)
      (.close run.sentAt brokerPositionId run.answer) order (SameOrder.refl order)
  generalize (ManagedOrder.close run.sentAt brokerPositionId run.answer).exec order = out
    at confirms same
  obtain ⟨answered, closed⟩ := out
  cases answered with
  | error e =>
    have nothing := confirms.2 (fun returned => by cases returned)
    rw [positions, nothing]
    exact iff_of_true (OnlyReduced.refl _ _) fun fill confirmed => by cases confirmed
  | ok _ =>
    have confirmed := confirms.1 rfl
    have reduced := @onlyReduced_record_iff closedId db₁ run.after closed run.recordedAfter
    rw [positions, confirmed, admits_congr same, admits] at reduced
    rw [reduced]
    refine forall₂_congr fun fill _ => ?_
    unfold CloseRun.Records
    rw [and_imp, and_imp, and_imp, imp_iff_right named]

/-- A close opens nothing exactly when the fill it records is absorbed: the venue confirms none, its
position is not written, or the row its venue id names is not open, is the closed position with at
least as much open, or says the same already. -/
theorem close_onlyReduced_iff (x : BrokerExitExecutor) (r : CloseRequest) (run : CloseRun)
    (db : Database) (t : CloseTicket) (m : OrderManager) (order : ManagedOrder)
    (built : x.built r run = some (t, m, order)) :
    OnlyReduced r.positionId db.positions (run.settle t.brokerPositionId order db).2.2.positions ↔
      ∀ fill, closeFill order run.sentAt run.answer = some fill →
        run.Records t.brokerPositionId order db fill → Absorbed r.positionId db.positions fill := by
  obtain ⟨m₀, _, volume, positive, _, rfl⟩ := BrokerExitExecutor.built_eq_some built
  exact settle_onlyReduced_iff ⟨rfl, rfl, rfl⟩ run r.positionId t.brokerPositionId db

def ticketedDatabase : Database := ⟨.empty, .single (plainRow "1001" 1 none)⟩

def demoExecutor : BrokerExitExecutor :=
  { managers := fun _ => some (OrderManager.fresh .demo none)
    mode := .demo
    risk := ⟨.default, {}⟩ }

def closeAll : CloseRequest :=
  { positionId := "position", symbol := "EURUSD", side := .long, quantity := ⟨false, 1, 0⟩,
    brokerPositionId := some "1001", accountId := some "account", strategyVersionId := none,
    wanted := none, referencePrice := 1 }

def closeRunOf (answer : Answer OrderResult) : CloseRun :=
  { preparedAt := 0, decisionId := "decision", lockedAt := 0, orderId := "order",
    before := .commits, recordedBefore := plainRecording "before", sentAt := 0, answer,
    after := .commits, recordedAfter := plainRecording "opened", endedAt := 0 }

def ticketedClose : OrderResult :=
  { OrderResult.bare .accepted (Text.lit "closed") with
    orderId := some "2002"
    positionId := some "1001"
    fillPrice := some (.finite 1)
    filledVolume := some (.finite 1) }

def closeOrder : CloseTicket × OrderManager × ManagedOrder :=
  (demoExecutor.built closeAll (closeRunOf (.ok ticketedClose))).get (by decide +kernel)

theorem closeOrder_built (answer : Answer OrderResult) :
    demoExecutor.built closeAll (closeRunOf answer) = some closeOrder := by
  exact (Option.some_get _).symm

/-- A close the venue refuses opens nothing. -/
theorem close_onlyReduced_refused :
    OnlyReduced "position" ticketedDatabase.positions
      ((closeRunOf (.ok (.bare .rejected (Text.lit "market closed")))).settle
        closeOrder.1.brokerPositionId closeOrder.2.2 ticketedDatabase).2.2.positions := by
  refine (close_onlyReduced_iff demoExecutor closeAll
    (closeRunOf (.ok (.bare .rejected (Text.lit "market closed")))) ticketedDatabase _ _ _
    (closeOrder_built _)).mpr fun fill confirmed _ => ?_
  cases confirmed

/-- A close the venue tickets under a number of its own opens a short position beside the long one
it closed. -/
theorem not_forall_onlyReduced :
    ¬ ∀ (x : BrokerExitExecutor) (r : CloseRequest) (run : CloseRun) (db : Database)
        (t : CloseTicket) (m : OrderManager) (order : ManagedOrder),
      x.built r run = some (t, m, order) →
      OnlyReduced r.positionId db.positions
        (run.settle t.brokerPositionId order db).2.2.positions := by
  intro reduced
  have only := reduced demoExecutor closeAll (closeRunOf (.ok ticketedClose)) ticketedDatabase _ _ _
    (closeOrder_built (.ok ticketedClose))
  have opened : ∃ row ∈ ((closeRunOf (.ok ticketedClose)).settle closeOrder.1.brokerPositionId
      closeOrder.2.2 ticketedDatabase).2.2.positions.rows,
      row.isOpen = true ∧ row.side = .short ∧ row.id = "opened" := by
    decide +kernel
  obtain ⟨row, mem, isOpen, _, id⟩ := opened
  obtain ⟨old, held, _, same | ⟨_, rowId, _⟩⟩ := only.known row mem isOpen
  · have before : row = plainRow "1001" 1 none := List.mem_singleton.mp (same ▸ held)
    rw [before] at id
    exact absurd id (by decide)
  · exact absurd (id.symm.trans rowId) (by decide)

end TradeResearch.Positions
