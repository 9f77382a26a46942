import TradeResearch.Execution.Store
import TradeResearch.Lib.Table
import TradeResearch.Positions.Reconciler

/-!
# The position a fill implies

`record_fill` of `backend/app/positions/ingest.py`, and the transaction of
`DatabaseOrderStore.record` (`backend/app/execution/store.py`) that writes an order and the position
its fill implies together.

* `ManagedOrder.confirmedFill` is what of an order may become a position.
* `PositionsTable.recordFill` overwrites the row the venue's id names, or inserts a new open one.
* `Database.record` is the transaction; `Database.record_cases` says what it leaves.
-/

namespace TradeResearch.Positions

open Oms Execution

inductive Side where
  | long
  | short
  deriving DecidableEq

structure PositionRow extends Position where
  symbolId : String
  strategyVersionId : Option String
  side : Side
  entryPrice : ℚ
  openedAt : Time
  initialQuantity : ℚ
  closedQuantity : ℚ
  realizedPnl : Option ℚ
  source : String

abbrev PositionsTable := Table fun row : PositionRow => row.id

def PositionRow.isOpen (row : PositionRow) : Bool :=
  decide (row.status ∈ [PositionStatus.open, .partiallyClosed, .opening])

def sideOf (side : String) : Option Side :=
  if side.toList.map Char.toLower = "buy".toList then some .long
  else if side.toList.map Char.toLower = "sell".toList then some .short
  else none

structure ConfirmedFill where
  venueId : String
  mode : Mode
  side : Side
  quantity : ℚ
  entry : ℚ
  stopLoss : Option ℚ
  takeProfit : Option ℚ

def ConfirmedFill.of (o : ManagedOrder) (venue : Option String) (quantity entry : ℚ) :
    Option ConfirmedFill :=
  if o.mode = .paper then none
  else
    (venue.filter (· ≠ "")).bind fun venueId =>
      (sideOf o.side).map fun side =>
        { venueId, mode := o.mode, side, quantity, entry, stopLoss := o.stopLoss,
          takeProfit := o.takeProfit }

def confirmedFill (o : ManagedOrder) : Option ConfirmedFill :=
  if o.status ≠ .filled ∧ o.status ≠ .partiallyFilled then none
  else if o.filledQuantity ≤ 0 then none
  else o.book.averagePrice.bind fun entry =>
    ConfirmedFill.of o o.brokerOrderId o.filledQuantity entry

structure Recording where
  positionId : String
  symbolId : String
  brokerAccountId : Option String
  strategyVersionId : Option String
  source : String
  now : Time

def ConfirmedFill.row (fill : ConfirmedFill) (filledAt : Option Time) (r : Recording) :
    PositionRow :=
  { id := r.positionId
    mode := fill.mode
    brokerAccountId := r.brokerAccountId
    paperAccountId := none
    brokerPositionId := some fill.venueId
    quantity := fill.quantity
    stopLoss := fill.stopLoss
    takeProfit := fill.takeProfit
    status := .open
    closedAt := none
    brokerStopLoss := none
    brokerTakeProfit := none
    brokerSyncedAt := none
    symbolId := r.symbolId
    strategyVersionId := r.strategyVersionId
    side := fill.side
    entryPrice := fill.entry
    openedAt := filledAt.getD r.now
    initialQuantity := fill.quantity
    closedQuantity := 0
    realizedPnl := none
    source := r.source }

def PositionRow.refilled (row : PositionRow) (fill : ConfirmedFill) : PositionRow :=
  { row with
    quantity := fill.quantity
    entryPrice := fill.entry
    initialQuantity :=
      if row.initialQuantity < fill.quantity then fill.quantity else row.initialQuantity
    stopLoss := fill.stopLoss
    takeProfit := fill.takeProfit }

theorem PositionRow.refilled_id (row : PositionRow) (fill : ConfirmedFill) :
    (row.refilled fill).id = row.id := rfl

namespace PositionsTable

def existing (t : PositionsTable) (venueId : String) (mode : Mode) : Option PositionRow :=
  t.rows.find? fun row =>
    decide (row.brokerPositionId = some venueId) && decide (row.mode = mode)

def refill (t : PositionsTable) (id : String) (fill : ConfirmedFill) : PositionsTable :=
  t.modify id (fun row => row.refilled fill) fun row => row.refilled_id fill

def keyTaken : Exn :=
  .other "IntegrityError" (Text.lit "UNIQUE constraint failed: positions.id")

def recordFill (t : PositionsTable) (o : ManagedOrder) (r : Recording) :
    Except Exn PositionsTable :=
  match confirmedFill o with
  | none => .ok t
  | some fill =>
    match t.existing fill.venueId fill.mode with
    | some row => .ok (t.refill row.id fill)
    | none =>
      if free : r.positionId ∉ t.rows.map fun row => row.id then
        .ok (t.insert (fill.row o.filledAt r) free)
      else .error keyTaken

inductive FillCase (t : PositionsTable) (o : ManagedOrder) (r : Recording) :
    Except Exn PositionsTable → Prop
  | unconfirmed (nothing : confirmedFill o = none) : FillCase t o r (.ok t)
  | refilled (fill : ConfirmedFill) (row : PositionRow) (confirmed : confirmedFill o = some fill)
      (found : t.existing fill.venueId fill.mode = some row) :
    FillCase t o r (.ok (t.refill row.id fill))
  | opened (fill : ConfirmedFill) (confirmed : confirmedFill o = some fill)
      (absent : t.existing fill.venueId fill.mode = none)
      (free : (fill.row o.filledAt r).id ∉ t.rows.map fun row => row.id) :
    FillCase t o r (.ok (t.insert (fill.row o.filledAt r) free))
  | taken (fill : ConfirmedFill) (confirmed : confirmedFill o = some fill)
      (absent : t.existing fill.venueId fill.mode = none)
      (used : r.positionId ∈ t.rows.map fun row => row.id) :
    FillCase t o r (.error keyTaken)

theorem recordFill_cases (t : PositionsTable) (o : ManagedOrder) (r : Recording) :
    FillCase t o r (t.recordFill o r) := by
  unfold recordFill
  cases confirmed : confirmedFill o with
  | none => exact .unconfirmed confirmed
  | some fill =>
    dsimp only
    cases found : t.existing fill.venueId fill.mode with
    | some row => exact .refilled fill row confirmed found
    | none =>
      dsimp only
      split
      case isTrue free => exact .opened fill confirmed found free
      case isFalse used => exact .taken fill confirmed found (not_not.mp used)

theorem recordFill_ok_iff {t : PositionsTable} {o : ManagedOrder} {r : Recording} :
    (∃ t', t.recordFill o r = .ok t') ↔
      ∀ fill, confirmedFill o = some fill → t.existing fill.venueId fill.mode = none →
        r.positionId ∉ t.rows.map fun row => row.id := by
  have outcome := t.recordFill_cases o r
  generalize t.recordFill o r = out at outcome
  cases outcome with
  | unconfirmed nothing =>
    refine iff_of_true ⟨_, rfl⟩ fun fill confirmed => ?_
    rw [nothing] at confirmed
    cases confirmed
  | refilled fill row confirmed found =>
    refine iff_of_true ⟨_, rfl⟩ fun fill' confirmed' absent => ?_
    cases confirmed.symm.trans confirmed'
    rw [found] at absent
    cases absent
  | opened fill confirmed absent free =>
    exact iff_of_true ⟨_, rfl⟩ fun _ _ _ => free
  | taken fill confirmed absent used =>
    refine iff_of_false ?_ fun free => free fill confirmed absent used
    rintro ⟨t', written⟩
    cases written

theorem mem_of_existing {t : PositionsTable} {venueId : String} {mode : Mode} {row : PositionRow}
    (found : t.existing venueId mode = some row) :
    row ∈ t.rows ∧ row.brokerPositionId = some venueId ∧ row.mode = mode := by
  refine ⟨List.mem_of_find?_eq_some found, ?_⟩
  simpa using List.find?_some found

end PositionsTable

theorem ConfirmedFill.of_eq_some {o : ManagedOrder} {venue : Option String} {quantity entry : ℚ}
    {fill : ConfirmedFill} (confirmed : ConfirmedFill.of o venue quantity entry = some fill) :
    o.mode ≠ .paper ∧ venue = some fill.venueId ∧ fill.venueId ≠ "" ∧ fill.mode = o.mode ∧
      fill.quantity = quantity ∧ fill.entry = entry ∧ fill.stopLoss = o.stopLoss := by
  unfold ConfirmedFill.of at confirmed
  split at confirmed
  case isTrue => cases confirmed
  case isFalse traded =>
    obtain ⟨venueId, named, sided⟩ := Option.bind_eq_some_iff.mp confirmed
    obtain ⟨side, _, same⟩ := Option.map_eq_some_iff.mp sided
    rw [Option.filter_eq_some_iff] at named
    cases same
    exact ⟨traded, named.1, by simpa using named.2, rfl, rfl, rfl, rfl⟩

theorem confirmedFill_of_unfilled {o : ManagedOrder} (unfilled : o.status ≠ .filled)
    (unfilled' : o.status ≠ .partiallyFilled) : confirmedFill o = none := by
  unfold confirmedFill
  rw [if_pos ⟨unfilled, unfilled'⟩]

theorem confirmedFill_of_filled {o : ManagedOrder} {quantity entry : ℚ}
    (state : o.status = .filled ∨ o.status = .partiallyFilled)
    (filled : o.filledQuantity = quantity) (positive : 0 < quantity)
    (average : o.book.averagePrice = some entry) :
    confirmedFill o = ConfirmedFill.of o o.brokerOrderId quantity entry := by
  unfold confirmedFill
  rw [if_neg (fun neither => state.elim neither.1 neither.2), filled, if_neg (not_le.mpr positive),
    average, Option.bind_some]

theorem confirmedFill_eq_some {o : ManagedOrder} {fill : ConfirmedFill}
    (confirmed : confirmedFill o = some fill) :
    0 < fill.quantity ∧ fill.stopLoss = o.stopLoss := by
  unfold confirmedFill at confirmed
  split at confirmed
  · cases confirmed
  split at confirmed
  · cases confirmed
  case isFalse positive =>
    obtain ⟨entry, _, identified⟩ := Option.bind_eq_some_iff.mp confirmed
    obtain ⟨_, _, _, _, quantity, _, stopLoss⟩ := ConfirmedFill.of_eq_some identified
    exact ⟨quantity ▸ not_le.mp positive, stopLoss⟩

structure Database where
  orders : OrdersTable
  positions : PositionsTable

namespace Database

def written (db : Database) (o : ManagedOrder) (r : Recording) : Except Exn Database := do
  let orders ← db.orders.persist o
  let positions ← db.positions.recordFill o r
  return ⟨orders, positions⟩

def record (db : Database) (tx : Transaction) (o : ManagedOrder) (r : Recording) :
    Database × Except Exn Unit :=
  match tx with
  | .fails e => (db, .error e)
  | .commits =>
    match db.written o r with
    | .ok db' => (db', .ok ())
    | .error e => (db, .error e)
  | .commitsUnheard e =>
    match db.written o r with
    | .ok db' => (db', .error e)
    | .error e' => (db, .error e')

def Takes : Transaction → Prop
  | .fails _ => False
  | .commits => True
  | .commitsUnheard _ => True

instance : DecidablePred Takes := fun tx =>
  match tx with
  | .fails _ => inferInstanceAs (Decidable False)
  | .commits => inferInstanceAs (Decidable True)
  | .commitsUnheard _ => inferInstanceAs (Decidable True)

theorem record_left (db : Database) (tx : Transaction) (o : ManagedOrder) (r : Recording) :
    (∃ db', Takes tx ∧ db.written o r = .ok db' ∧ (db.record tx o r).1 = db') ∨
      ((¬ Takes tx ∨ ∃ e, db.written o r = .error e) ∧ (db.record tx o r).1 = db) := by
  unfold record
  cases tx with
  | fails e => exact .inr ⟨.inl id, rfl⟩
  | commits | commitsUnheard e =>
    cases out : db.written o r with
    | ok db' => exact .inl ⟨db', True.intro, rfl, rfl⟩
    | error e => exact .inr ⟨.inr ⟨e, rfl⟩, rfl⟩

theorem written_eq_ok {db db' : Database} {o : ManagedOrder} {r : Recording} :
    db.written o r = .ok db' ↔
      db.orders.persist o = .ok db'.orders ∧ db.positions.recordFill o r = .ok db'.positions := by
  unfold written
  cases persisted : db.orders.persist o with
  | error e => exact iff_of_false (fun same => by cases same) fun both => by cases both.1
  | ok orders =>
    cases recorded : db.positions.recordFill o r with
    | error e => exact iff_of_false (fun same => by cases same) fun both => by cases both.2
    | ok positions =>
      constructor
      · intro same
        cases same
        exact ⟨rfl, rfl⟩
      · rintro ⟨sameOrders, samePositions⟩
        cases sameOrders
        cases samePositions
        rfl

end Database

def plainRow (venueId : String) (quantity : ℚ) (stopLoss : Option ℚ) : PositionRow :=
  { id := "position", mode := .demo, brokerAccountId := some "account", paperAccountId := none,
    brokerPositionId := some venueId, quantity, stopLoss, takeProfit := none, status := .open,
    closedAt := none, brokerStopLoss := none, brokerTakeProfit := none, brokerSyncedAt := none,
    symbolId := "symbol", strategyVersionId := none, side := .long, entryPrice := 1, openedAt := 0,
    initialQuantity := quantity, closedQuantity := 0, realizedPnl := none, source := "pipeline" }

def plainRecording (positionId : String) : Recording :=
  { positionId, symbolId := "symbol", brokerAccountId := some "account", strategyVersionId := none,
    source := "pipeline", now := 0 }

def PositionsTable.single (row : PositionRow) : PositionsTable := ⟨[row], List.nodup_singleton _⟩

end TradeResearch.Positions
