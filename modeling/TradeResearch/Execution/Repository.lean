import Mathlib.Data.List.Perm.Basic
import TradeResearch.Execution.Store
import TradeResearch.Oms.Frames

/-!
# The record of one order

`OrderRepository` of `backend/app/oms/repository.py` on the rows of one order: its row of
`orders`, its `order_events` and its `executions`. `persist` writes the row and appends to the
two others, counting what they hold already; `_rehydrate` builds an order from the three, with an
empty trail.

* `OrderRepository.persist` and `StoredOrder.rehydrate` are the two.
* `Life.step` takes one call with the persist after it, or one restart.
* `Life.persisted` and `Life.trail` are not state of the platform: they write down the order as it
  was last persisted, and every transition it made.

The columns hold exact decimals, and the tables of accounts and symbols do not change.
-/

namespace TradeResearch.Execution

open Oms

structure OrderEventRow where
  sequence : ℕ
  eventType : String
  occurredAt : Time
  comment : Option Text
  retcode : Option ℤ
  previousStatus : String
  newStatus : String
  source : Source
  brokerOrderId : Option String

def OrderEventRow.of (sequence : ℕ) (t : OrderTransition) : OrderEventRow :=
  { sequence
    eventType := String.ofList (t.new.name.toList.take 24)
    occurredAt := t.time
    comment :=
      if (Text.take 500 t.reason).isEmpty then none else some (Text.take 500 t.reason)
    retcode := t.retcode
    previousStatus := t.previous.name
    newStatus := t.new.name
    source := t.source
    brokerOrderId := t.brokerOrderId }

def eventRows : ℕ → List OrderTransition → List OrderEventRow
  | _, [] => []
  | sequence, t :: ts => .of sequence t :: eventRows (sequence + 1) ts

structure ExecutionRow where
  brokerDealId : Option String
  executedAt : Time
  price : ℚ
  quantity : ℚ
  commission : Option ℚ
  swap : Option ℚ
  slippagePoints : Option ℚ
  fillSource : String
  deriving DecidableEq

def ExecutionRow.of (f : FillRecord) : ExecutionRow :=
  { brokerDealId := f.brokerDealId
    executedAt := f.time
    price := f.price
    quantity := f.quantity
    commission := some f.commission
    swap := some f.swap
    slippagePoints := f.slippagePoints
    fillSource := f.fillSource }

def ExecutionRow.report (row : ExecutionRow) : FillReport :=
  { quantity := .finite row.quantity
    price := .finite row.price
    time := row.executedAt
    fillSource := row.fillSource
    brokerDealId := row.brokerDealId
    commission := row.commission.getD 0
    swap := row.swap.getD 0
    slippagePoints := row.slippagePoints
    realizedPnl := none }

structure StoredOrder where
  row : OrderRow
  paperAccountId : Option String
  brokerAccountId : Option String
  events : List OrderEventRow
  executions : List ExecutionRow

structure OrderRepository where
  symbols : String → Bool
  accounts : Mode → String → Bool

def OrderRepository.accountColumn (repo : OrderRepository) (o : ManagedOrder) : Option String :=
  if o.accountId ≠ "" ∧ repo.accounts o.mode o.accountId = true then some o.accountId else none

def OrderRepository.insert (repo : OrderRepository) (o : ManagedOrder) : Option StoredOrder :=
  if repo.symbols o.symbol then
    some
      { row := .new o
        paperAccountId := if o.mode = .paper then repo.accountColumn o else none
        brokerAccountId := if o.mode = .paper then none else repo.accountColumn o
        events := []
        executions := [] }
  else none

namespace StoredOrder

def writeEvents (d : StoredOrder) (o : ManagedOrder) : List OrderEventRow :=
  d.events ++ eventRows d.events.length (o.transitions.drop d.events.length)

def covers (d : StoredOrder) (place : FillRecord × ℕ) : Bool :=
  match place.1.brokerDealId with
  | some deal => d.executions.any fun row => row.brokerDealId == some deal
  | none => decide (place.2 < d.executions.length)

def writeExecutions (d : StoredOrder) (o : ManagedOrder) : List ExecutionRow :=
  d.executions ++
    (o.book.fills.zipIdx.filter fun place => !d.covers place).map fun place => .of place.1

def rewrite (d : StoredOrder) (o : ManagedOrder) : StoredOrder :=
  { d with
    row := d.row.apply o
    events := d.writeEvents o
    executions := d.writeExecutions o }

end StoredOrder

def OrderRepository.persist (repo : OrderRepository) (d : Option StoredOrder) (o : ManagedOrder) :
    Option StoredOrder :=
  (d.or (repo.insert o)).map fun d => d.rewrite o

namespace StoredOrder

def account (d : StoredOrder) : String :=
  if truthy d.paperAccountId then d.paperAccountId.getD ""
  else if truthy d.brokerAccountId then d.brokerAccountId.getD ""
  else ""

def shell (d : StoredOrder) (positive : 0 < d.row.quantity) : ManagedOrder :=
  { id := d.row.id
    clientOrderId := d.row.intentId
    accountId := d.account
    symbol := d.row.symbol
    side := d.row.side
    quantity := d.row.quantity
    mode := d.row.mode
    createdAt := d.row.createdAt
    orderType := d.row.orderType
    timeInForce := d.row.timeInForce
    status := d.row.status
    brokerOrderId := d.row.brokerOrderId
    broker := none
    requestedPrice := d.row.requestedPrice
    stopLoss := d.row.stopLoss
    takeProfit := d.row.takeProfit
    signalId := d.row.signalId
    strategyId := none
    botId := none
    riskDecisionId := d.row.riskDecisionId
    expiresAt := d.row.expiresAt
    submittedAt := d.row.submittedAt
    acknowledgedAt := d.row.acknowledgedAt
    filledAt := d.row.filledAt
    cancelledAt := d.row.cancelledAt
    rejectReason := d.row.rejectReason
    errorCode := d.row.errorCode
    transitions := []
    book := FillBook.empty d.row.quantity positive
    book_requested := rfl }

def rebuild : List ExecutionRow → Method Exn ManagedOrder Unit
  | [] => pure ()
  | row :: rows => do
    match row.report.make with
    | .error e => throw e
    | .ok f => ManagedOrder.addFill f
    rebuild rows

def rehydrate (d : StoredOrder) (rows : List ExecutionRow) : Except Exn ManagedOrder :=
  if positive : 0 < d.row.quantity then
    match (rebuild rows).exec (d.shell positive) with
    | (.ok (), o) => .ok o
    | (.error e, _) => .error e
  else .error (.fillError
    (Text.lit "a requested quantity must be positive, not " ++ Text.num d.row.quantity))

def unresolved (d : StoredOrder) (repo : OrderRepository) (mode : Mode) : Bool :=
  decide (d.row.mode = mode) && d.row.status.needsReconciliation && repo.symbols d.row.symbol

end StoredOrder

structure Life where
  stored : StoredOrder
  live : Option ManagedOrder
  persisted : ManagedOrder
  trail : List OrderTransition

inductive LifeEvent where
  | call (c : OrderCall)
  | restart (mode : Mode) (rows : List ExecutionRow)

namespace Life

def start (repo : OrderRepository) (o : ManagedOrder) : Option Life :=
  (repo.persist none o).map fun stored =>
    { stored, live := some o, persisted := o, trail := o.transitions }

def Reads (s : Life) (rows : List ExecutionRow) : Prop :=
  rows.Perm s.stored.executions ∧ rows.Pairwise fun a b => a.executedAt ≤ b.executedAt

instance (s : Life) (rows : List ExecutionRow) : Decidable (s.Reads rows) :=
  inferInstanceAs (Decidable (_ ∧ _))

def step (repo : OrderRepository) (s : Life) : LifeEvent → Option Life
  | .call c =>
    s.live.bind fun o =>
      let o' := c.body.left o
      (repo.persist (some s.stored) o').map fun stored =>
        { stored
          live := some o'
          persisted := o'
          trail := s.trail ++ o'.transitions.drop o.transitions.length }
  | .restart mode rows =>
    if s.Reads rows then
      some
        { s with
          live :=
            if s.stored.unresolved repo mode then (s.stored.rehydrate rows).toOption else none }
    else none

end Life

end TradeResearch.Execution
