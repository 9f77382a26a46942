import Mathlib.Data.List.Nodup
import TradeResearch.Oms.Service

/-!
# The orders table

The durable half of the execution path: `OrderRepository` of `backend/app/oms/repository.py` and
the prior-order guard over it (`backend/app/execution/store.py`). A row keeps the scalar columns
`persist` writes; the account columns, the audit trail and the executions table are left out. The
uniqueness of `orders.id` and `orders.intent_id` travels with the table, so a table that breaks
either cannot be built.

* `OrdersTable.persist` inserts an order or rewrites its row, and raises on a second intent.
* `OrdersTable.write` is a transaction around it, which the database may also fail.
* `guardResendDurably` and `guardRecorded` are the guards of the two routes over `orderForIntent`.
-/

namespace TradeResearch.Execution

open Oms

structure OrderRow where
  id : String
  intentId : String
  mode : Mode
  symbol : String
  side : String
  orderType : String
  quantity : ℚ
  createdAt : Time
  status : OrderStatus
  brokerOrderId : Option String
  requestedPrice : Option ℚ
  stopLoss : Option ℚ
  takeProfit : Option ℚ
  signalId : Option String
  riskDecisionId : Option String
  timeInForce : String
  filledQuantity : ℚ
  averageFillPrice : Option ℚ
  expiresAt : Option Time
  submittedAt : Option Time
  acknowledgedAt : Option Time
  filledAt : Option Time
  cancelledAt : Option Time
  rejectReason : Option Text
  errorCode : Option String

def OrderRow.apply (row : OrderRow) (o : ManagedOrder) : OrderRow :=
  { row with
    status := o.status
    brokerOrderId := o.brokerOrderId
    requestedPrice := o.requestedPrice
    stopLoss := o.stopLoss
    takeProfit := o.takeProfit
    signalId := o.signalId
    riskDecisionId := o.riskDecisionId
    timeInForce := o.timeInForce
    filledQuantity := o.filledQuantity
    averageFillPrice := o.book.averagePrice
    expiresAt := o.expiresAt
    submittedAt := o.submittedAt
    acknowledgedAt := o.acknowledgedAt
    filledAt := o.filledAt
    cancelledAt := o.cancelledAt
    rejectReason := o.rejectReason
    errorCode := o.errorCode }

def OrderRow.new (o : ManagedOrder) : OrderRow :=
  { id := o.id
    intentId := o.clientOrderId
    mode := o.mode
    symbol := o.symbol
    side := o.side
    orderType := o.orderType
    quantity := o.quantity
    createdAt := o.createdAt
    status := o.status
    brokerOrderId := o.brokerOrderId
    requestedPrice := o.requestedPrice
    stopLoss := o.stopLoss
    takeProfit := o.takeProfit
    signalId := o.signalId
    riskDecisionId := o.riskDecisionId
    timeInForce := o.timeInForce
    filledQuantity := o.filledQuantity
    averageFillPrice := o.book.averagePrice
    expiresAt := o.expiresAt
    submittedAt := o.submittedAt
    acknowledgedAt := o.acknowledgedAt
    filledAt := o.filledAt
    cancelledAt := o.cancelledAt
    rejectReason := o.rejectReason
    errorCode := o.errorCode }

def OrderRow.rewritten (o : ManagedOrder) (row : OrderRow) : OrderRow :=
  if row.id = o.id then row.apply o else row

@[simp] theorem OrderRow.rewritten_id (o : ManagedOrder) (row : OrderRow) :
    (row.rewritten o).id = row.id := by
  unfold rewritten
  split <;> rfl

@[simp] theorem OrderRow.rewritten_intentId (o : ManagedOrder) (row : OrderRow) :
    (row.rewritten o).intentId = row.intentId := by
  unfold rewritten
  split <;> rfl

theorem OrderRow.rewritten_of_id {o : ManagedOrder} {row : OrderRow} (same : row.id = o.id) :
    (row.rewritten o).status = o.status := by
  unfold rewritten
  rw [if_pos same]
  rfl

theorem OrderRow.rewritten_of_ne {o : ManagedOrder} {row : OrderRow} (other : row.id ≠ o.id) :
    row.rewritten o = row := by
  unfold rewritten
  rw [if_neg other]

structure OrdersTable where
  rows : List OrderRow
  ids : (rows.map OrderRow.id).Nodup
  intents : (rows.map OrderRow.intentId).Nodup

inductive Transaction where
  | commits
  | fails (e : Exn)
  /-- Written, and the confirmation was lost. -/
  | commitsUnheard (e : Exn)

def integrityError : Exn :=
  .other "IntegrityError" (Text.lit "UNIQUE constraint failed: orders.intent_id")

namespace OrdersTable

def empty : OrdersTable := ⟨[], List.nodup_nil, List.nodup_nil⟩

def rewrite (t : OrdersTable) (o : ManagedOrder) : OrdersTable where
  rows := t.rows.map (OrderRow.rewritten o)
  ids := by
    rw [List.map_map, show OrderRow.id ∘ OrderRow.rewritten o = OrderRow.id from
      funext (OrderRow.rewritten_id o)]
    exact t.ids
  intents := by
    rw [List.map_map, show OrderRow.intentId ∘ OrderRow.rewritten o = OrderRow.intentId from
      funext (OrderRow.rewritten_intentId o)]
    exact t.intents

def insert (t : OrdersTable) (row : OrderRow) (id : row.id ∉ t.rows.map OrderRow.id)
    (intent : row.intentId ∉ t.rows.map OrderRow.intentId) : OrdersTable where
  rows := t.rows ++ [row]
  ids := by
    rw [List.map_append, List.map_singleton, ← List.concat_eq_append]
    exact List.Nodup.concat id t.ids
  intents := by
    rw [List.map_append, List.map_singleton, ← List.concat_eq_append]
    exact List.Nodup.concat intent t.intents

def persist (t : OrdersTable) (o : ManagedOrder) : Except Exn OrdersTable :=
  if id : o.id ∈ t.rows.map OrderRow.id then .ok (t.rewrite o)
  else if intent : o.clientOrderId ∈ t.rows.map OrderRow.intentId then .error integrityError
  else .ok (t.insert (.new o) id intent)

def write (t : OrdersTable) (tx : Transaction) (o : ManagedOrder) :
    OrdersTable × Except Exn Unit :=
  match tx with
  | .fails e => (t, .error e)
  | .commits =>
    match t.persist o with
    | .ok t' => (t', .ok ())
    | .error e => (t, .error e)
  | .commitsUnheard e =>
    match t.persist o with
    | .ok t' => (t', .error e)
    | .error e' => (t, .error e')

def orderForIntent (t : OrdersTable) (intentId : String) : Option OrderRow :=
  t.rows.find? fun row => decide (row.intentId = intentId)

def loadUnresolved (t : OrdersTable) (mode : Mode) : List OrderRow :=
  t.rows.filter fun row => decide (row.mode = mode) && row.status.needsReconciliation

def unresolvedOrders (t : OrdersTable) : List OrderRow :=
  t.rows.filter fun row => decide (row.status ∈ [OrderStatus.unknown, OrderStatus.submitting])

theorem mem_unresolvedOrders_iff {t : OrdersTable} {row : OrderRow} :
    row ∈ t.unresolvedOrders ↔ row ∈ t.rows ∧ row.status.needsReconciliation = true := by
  unfold unresolvedOrders
  rw [List.mem_filter, decide_eq_true_iff, OrderStatus.needsReconciliation_iff]
  simp

theorem mem_loadUnresolved_iff {t : OrdersTable} {mode : Mode} {row : OrderRow} :
    row ∈ t.loadUnresolved mode ↔
      row ∈ t.rows ∧ row.mode = mode ∧ row.status.needsReconciliation = true := by
  unfold loadUnresolved
  rw [List.mem_filter, Bool.and_eq_true, decide_eq_true_iff]

inductive WriteCase (t : OrdersTable) (o : ManagedOrder) : OrdersTable → Prop
  | unwritten : WriteCase t o t
  | rewritten (known : ∃ row ∈ t.rows, row.id = o.id) : WriteCase t o (t.rewrite o)
  | inserted (id : OrderRow.id (.new o) ∉ t.rows.map OrderRow.id)
      (intent : OrderRow.intentId (.new o) ∉ t.rows.map OrderRow.intentId) :
    WriteCase t o (t.insert (.new o) id intent)

theorem persist_cases (t : OrdersTable) (o : ManagedOrder) :
    (∃ e, t.persist o = .error e) ∨
      ∃ t', t.persist o = .ok t' ∧ WriteCase t o t' ∧ ∃ row ∈ t'.rows, row.id = o.id := by
  unfold persist
  by_cases id : o.id ∈ t.rows.map OrderRow.id
  · rw [dif_pos id]
    obtain ⟨row, mem, same⟩ := List.mem_map.mp id
    refine .inr ⟨_, rfl, .rewritten ⟨row, mem, same⟩, row.rewritten o, ?_, ?_⟩
    · exact List.mem_map_of_mem mem
    · rw [OrderRow.rewritten_id, same]
  · rw [dif_neg id]
    by_cases intent : o.clientOrderId ∈ t.rows.map OrderRow.intentId
    · rw [dif_pos intent]
      exact .inl ⟨_, rfl⟩
    · rw [dif_neg intent]
      refine .inr ⟨_, rfl, .inserted id intent, .new o, ?_, rfl⟩
      exact List.mem_append_right _ (List.mem_singleton_self _)

theorem write_cases (t : OrdersTable) (tx : Transaction) (o : ManagedOrder) :
    WriteCase t o (t.write tx o).1 ∧
      ((t.write tx o).2 = .ok () → ∃ row ∈ (t.write tx o).1.rows, row.id = o.id) := by
  unfold write
  cases tx with
  | fails e => exact ⟨.unwritten, fun heard => by cases heard⟩
  | commits =>
    rcases persist_cases t o with ⟨e, raised⟩ | ⟨t', written, outcome, recorded⟩
    · rw [raised]
      exact ⟨.unwritten, fun heard => by cases heard⟩
    · rw [written]
      exact ⟨outcome, fun _ => recorded⟩
  | commitsUnheard e =>
    rcases persist_cases t o with ⟨e, raised⟩ | ⟨t', written, outcome, _⟩
    · rw [raised]
      exact ⟨.unwritten, fun heard => by cases heard⟩
    · rw [written]
      exact ⟨outcome, fun heard => by cases heard⟩

theorem WriteCase.kept {t' : OrdersTable} (outcome : WriteCase t o t') {row : OrderRow}
    (mem : row ∈ t.rows) :
    ∃ row' ∈ t'.rows, row'.id = row.id ∧ row'.intentId = row.intentId ∧
      (row.id ≠ o.id → row' = row) := by
  cases outcome with
  | unwritten => exact ⟨row, mem, rfl, rfl, fun _ => rfl⟩
  | rewritten known =>
    refine ⟨row.rewritten o, List.mem_map_of_mem mem, ?_, ?_, fun other => ?_⟩
    · exact OrderRow.rewritten_id o row
    · exact OrderRow.rewritten_intentId o row
    · exact OrderRow.rewritten_of_ne other
  | inserted id intent => exact ⟨row, List.mem_append_left _ mem, rfl, rfl, fun _ => rfl⟩

theorem WriteCase.origin {t' : OrdersTable} (outcome : WriteCase t o t') {row' : OrderRow}
    (mem : row' ∈ t'.rows) :
    (∃ row ∈ t.rows, row'.id = row.id ∧ row'.intentId = row.intentId ∧
      (row.id ≠ o.id → row' = row)) ∨ row' = .new o := by
  cases outcome with
  | unwritten => exact .inl ⟨row', mem, rfl, rfl, fun _ => rfl⟩
  | rewritten known =>
    obtain ⟨row, held, rfl⟩ := List.mem_map.mp mem
    refine .inl ⟨row, held, ?_, ?_, fun other => ?_⟩
    · exact OrderRow.rewritten_id o row
    · exact OrderRow.rewritten_intentId o row
    · exact OrderRow.rewritten_of_ne other
  | inserted id intent =>
    rcases List.mem_append.mp mem with held | new
    · exact .inl ⟨row', held, rfl, rfl, fun _ => rfl⟩
    · exact .inr (List.mem_singleton.mp new)

theorem WriteCase.elsewhere {t' : OrdersTable} (outcome : WriteCase t o t') {row : OrderRow}
    (mem : row ∈ t'.rows) (other : row.id ≠ o.id) : row ∈ t.rows := by
  rcases outcome.origin mem with ⟨old, held, id, _, rest⟩ | new
  · rw [rest (id ▸ other)]
    exact held
  · exact absurd (congrArg OrderRow.id new) other

theorem WriteCase.status {t' : OrdersTable} (outcome : WriteCase t o t')
    (before : ∀ row ∈ t.rows, row.id = o.id → row.status = o.status) :
    ∀ row ∈ t'.rows, row.id = o.id → row.status = o.status := by
  intro row' mem same
  cases outcome with
  | unwritten => exact before row' mem same
  | rewritten known =>
    obtain ⟨row, held, rfl⟩ := List.mem_map.mp mem
    rw [OrderRow.rewritten_id] at same
    exact OrderRow.rewritten_of_id same
  | inserted id intent =>
    rcases List.mem_append.mp mem with held | new
    · exact before row' held same
    · rw [List.mem_singleton.mp new]
      rfl

theorem eq_of_intentId {t : OrdersTable} {row row' : OrderRow} (mem : row ∈ t.rows)
    (mem' : row' ∈ t.rows) (same : row.intentId = row'.intentId) : row = row' :=
  List.inj_on_of_nodup_map t.intents mem mem' same

theorem orderForIntent_eq_none_iff {t : OrdersTable} {intentId : String} :
    t.orderForIntent intentId = none ↔ ∀ row ∈ t.rows, row.intentId ≠ intentId := by
  unfold orderForIntent
  simp

end OrdersTable

structure PriorOrder where
  id : String
  intentId : String
  status : OrderStatus
  needsReconciliation : Bool
  resendable : Bool

def priorFrom (row : OrderRow) : PriorOrder :=
  { id := row.id
    intentId := row.intentId
    status := row.status
    needsReconciliation := row.status.needsReconciliation
    resendable := row.status.canResend }

def guardResendDurably (intentId : String) : Option PriorOrder → Except Exn Unit
  | none => .ok ()
  | some prior =>
    if prior.needsReconciliation then
      .error (.reconciliationRequired
        (Text.lit (s!"intent {intentId} has order {prior.id} recorded in " ++
          s!"`{prior.status.name}`; the venue may be holding it. This process did " ++
          "not create it -- the record outlived the restart that emptied " ++
          "every in-memory guard. Reconcile before sending anything for this " ++
          "intent, because retrying an uncertain submission is how one signal " ++
          "becomes two positions")))
    else if prior.resendable then
      .error (.orderRefused
        (Text.lit (s!"intent {intentId} already produced order {prior.id}, recorded as " ++
          s!"`{prior.status.name}`. That send provably did not reach the venue, so " ++
          "it would be safe to send again -- but one intent has one order row " ++
          "by construction (`orders.intent_id` is UNIQUE), so a retry needs a " ++
          "fresh intent rather than a second order for this one")))
    else
      .error (.orderRefused
        (Text.lit (s!"intent {intentId} already produced order {prior.id}, recorded as " ++
          s!"`{prior.status.name}`; a new order for it would be a second order for " ++
          "one signal")))

def guardRecorded (key : String) : Option OrderRow → Except Exn Unit
  | none => .ok ()
  | some recorded =>
    if recorded.status.needsReconciliation then
      .error (.reconciliationRequired
        (Text.lit (s!"idempotency key {key} has order {recorded.id} recorded in " ++
          s!"`{recorded.status.name}`; the venue may be holding it. Reconcile " ++
          "before sending anything for this intent")))
    else
      .error (.orderRefused
        (Text.lit (s!"idempotency key {key} already produced order {recorded.id} in " ++
          s!"state {recorded.status.name}; a new order for it would be a second " ++
          "order for one signal")))

theorem guardResendDurably_ok_iff {intentId : String} {prior : Option PriorOrder} :
    guardResendDurably intentId prior = .ok () ↔ prior = none := by
  cases prior with
  | none => exact iff_of_true rfl rfl
  | some prior =>
    unfold guardResendDurably
    refine iff_of_false (fun passed => ?_) (by simp)
    dsimp only at passed
    split at passed
    · cases passed
    · split at passed <;> cases passed

theorem guardRecorded_ok_iff {key : String} {recorded : Option OrderRow} :
    guardRecorded key recorded = .ok () ↔ recorded = none := by
  cases recorded with
  | none => exact iff_of_true rfl rfl
  | some recorded =>
    unfold guardRecorded
    refine iff_of_false (fun passed => ?_) (by simp)
    dsimp only at passed
    split at passed <;> cases passed

end TradeResearch.Execution
