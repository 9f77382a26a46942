import TradeResearch.Oms.Fills

/-!
# The managed order

`backend/app/oms/order.py`: one record for every execution mode, the audited `move` between
states, and `record_fill`, which derives the state from the book. The proof fields of the book
travel with the record, so an order whose book was overfilled or sized differently from the order
cannot be built.
-/

namespace TradeResearch.Oms

inductive Source where
  | pipeline
  | operator
  | broker
  | reconciliation
  | recovery
  | expiry
  deriving DecidableEq

inductive Mode where
  | paper
  | demo
  | live
  deriving DecidableEq

def Mode.name : Mode → String
  | paper => "paper"
  | demo => "demo"
  | live => "live"

structure OrderTransition where
  time : Time
  previous : OrderStatus
  new : OrderStatus
  source : Source
  reason : Text
  brokerOrderId : Option String
  retcode : Option ℤ

structure ManagedOrder where
  id : String
  clientOrderId : String
  accountId : String
  symbol : String
  side : String
  quantity : ℚ
  mode : Mode
  createdAt : Time
  orderType : String
  timeInForce : String
  status : OrderStatus
  brokerOrderId : Option String
  broker : Option String
  requestedPrice : Option ℚ
  stopLoss : Option ℚ
  takeProfit : Option ℚ
  signalId : Option String
  strategyId : Option String
  botId : Option String
  riskDecisionId : Option String
  expiresAt : Option Time
  submittedAt : Option Time
  acknowledgedAt : Option Time
  filledAt : Option Time
  cancelledAt : Option Time
  rejectReason : Option Text
  errorCode : Option String
  transitions : List OrderTransition
  book : FillBook
  book_requested : book.requested = quantity

def truthy : Option String → Bool
  | none => false
  | some s => s != ""

theorem truthy_iff {s : Option String} : truthy s = true ↔ ∃ id, s = some id ∧ id ≠ "" := by
  cases s <;> simp [truthy]

namespace ManagedOrder

def filledQuantity (o : ManagedOrder) : ℚ := o.book.filledQuantity

def remainingQuantity (o : ManagedOrder) : ℚ := o.book.remainingQuantity

def terminal (o : ManagedOrder) : Bool := o.status.terminal

def needsReconciliation (o : ManagedOrder) : Bool := o.status.needsReconciliation

def stamp (o : ManagedOrder) (status : OrderStatus) (time : Time) : ManagedOrder :=
  match status with
  | .submitted => { o with submittedAt := o.submittedAt.or (some time) }
  | .accepted => { o with acknowledgedAt := o.acknowledgedAt.or (some time) }
  | .filled => { o with filledAt := o.filledAt.or (some time) }
  | .cancelled => { o with cancelledAt := o.cancelledAt.or (some time) }
  | _ => o

def moved (o : ManagedOrder) (wanted : OrderStatus) (time : Time) (source : Source)
    (reason : Text) (retcode : Option ℤ) : ManagedOrder :=
  let entry : OrderTransition :=
    { time, previous := o.status, new := wanted, source, reason := Text.take 500 reason,
      brokerOrderId := o.brokerOrderId, retcode }
  stamp { o with status := wanted, transitions := o.transitions ++ [entry] } wanted time

def move (wanted : OrderStatus) (time : Time) (source : Source) (reason : Text)
    (retcode : Option ℤ) : Method Exn ManagedOrder Unit := do
  let o ← get
  checkTransition o.status wanted
  set (o.moved wanted time source reason retcode)

def impliedStatus (b : FillBook) : OrderStatus :=
  if b.complete then .filled else .partiallyFilled

def withFill (o : ManagedOrder) (f : FillRecord) (fits : f.quantity ≤ o.book.remainingQuantity) :
    ManagedOrder :=
  { o with book := o.book.append f fits, book_requested := o.book_requested }

def addFill (f : FillRecord) : Method Exn ManagedOrder Unit := do
  let o ← get
  if fits : f.quantity ≤ o.book.remainingQuantity then set (o.withFill f fits)
  else throw (o.book.overfill f)

def fillReason (o : ManagedOrder) (f : FillRecord) : Text :=
  Text.num f.quantity ++ Text.lit " at " ++ Text.num f.price ++ Text.lit " (" ++
    Text.num o.filledQuantity ++ Text.lit "/" ++ Text.num o.quantity ++ Text.lit " filled)"

def recordFill (f : FillRecord) (time : Time) (source : Source) :
    Method Exn ManagedOrder Bool := do
  let o ← get
  if o.book.alreadyRecorded f.brokerDealId then
    return false
  addFill f
  let o ← get
  move (impliedStatus o.book) time source (o.fillReason f) none
  return true

section Moved

variable (o : ManagedOrder) (wanted : OrderStatus) (time : Time) (source : Source) (reason : Text)
  (retcode : Option ℤ)

@[simp] theorem stamp_status : (o.stamp wanted time).status = o.status := by
  cases wanted <;> rfl

@[simp] theorem stamp_book : (o.stamp wanted time).book = o.book := by
  cases wanted <;> rfl

@[simp] theorem stamp_id : (o.stamp wanted time).id = o.id := by
  cases wanted <;> rfl

@[simp] theorem stamp_clientOrderId : (o.stamp wanted time).clientOrderId = o.clientOrderId := by
  cases wanted <;> rfl

@[simp] theorem stamp_brokerOrderId : (o.stamp wanted time).brokerOrderId = o.brokerOrderId := by
  cases wanted <;> rfl

@[simp] theorem stamp_symbol : (o.stamp wanted time).symbol = o.symbol := by
  cases wanted <;> rfl

@[simp] theorem stamp_side : (o.stamp wanted time).side = o.side := by
  cases wanted <;> rfl

@[simp] theorem stamp_mode : (o.stamp wanted time).mode = o.mode := by
  cases wanted <;> rfl

@[simp] theorem stamp_stopLoss : (o.stamp wanted time).stopLoss = o.stopLoss := by
  cases wanted <;> rfl

@[simp] theorem stamp_takeProfit : (o.stamp wanted time).takeProfit = o.takeProfit := by
  cases wanted <;> rfl

@[simp] theorem stamp_quantity : (o.stamp wanted time).quantity = o.quantity := by
  cases wanted <;> rfl

@[simp] theorem moved_status :
    (o.moved wanted time source reason retcode).status = wanted := by
  simp [moved]

@[simp] theorem moved_book : (o.moved wanted time source reason retcode).book = o.book := by
  simp [moved]

@[simp] theorem moved_id : (o.moved wanted time source reason retcode).id = o.id := by
  simp [moved]

@[simp] theorem moved_clientOrderId :
    (o.moved wanted time source reason retcode).clientOrderId = o.clientOrderId := by
  simp [moved]

@[simp] theorem moved_brokerOrderId :
    (o.moved wanted time source reason retcode).brokerOrderId = o.brokerOrderId := by
  simp [moved]

@[simp] theorem moved_symbol : (o.moved wanted time source reason retcode).symbol = o.symbol := by
  simp [moved]

@[simp] theorem moved_side : (o.moved wanted time source reason retcode).side = o.side := by
  simp [moved]

@[simp] theorem moved_mode : (o.moved wanted time source reason retcode).mode = o.mode := by
  simp [moved]

@[simp] theorem moved_stopLoss :
    (o.moved wanted time source reason retcode).stopLoss = o.stopLoss := by
  simp [moved]

@[simp] theorem moved_takeProfit :
    (o.moved wanted time source reason retcode).takeProfit = o.takeProfit := by
  simp [moved]

@[simp] theorem moved_quantity :
    (o.moved wanted time source reason retcode).quantity = o.quantity := by
  simp [moved]

theorem exec_move_of_mem {o : ManagedOrder} {wanted : OrderStatus}
    (legal : wanted ∈ o.status.transitions) :
    (move wanted time source reason retcode).exec o =
      (.ok (), o.moved wanted time source reason retcode) := by
  simp only [move, Method.exec_get_bind, checkTransition, if_pos legal]
  rfl

theorem exec_move_of_not_mem {o : ManagedOrder} {wanted : OrderStatus}
    (illegal : wanted ∉ o.status.transitions) :
    (move wanted time source reason retcode).exec o =
      (.error (.illegalOrderTransition o.status wanted), o) := by
  simp only [move, Method.exec_get_bind, checkTransition, if_neg illegal]
  rfl

end Moved

section RecordFill

variable (o : ManagedOrder) (f : FillRecord) (time : Time) (source : Source)

@[simp] theorem withFill_status (fits : f.quantity ≤ o.book.remainingQuantity) :
    (o.withFill f fits).status = o.status := rfl

@[simp] theorem withFill_book (fits : f.quantity ≤ o.book.remainingQuantity) :
    (o.withFill f fits).book = o.book.append f fits := rfl

theorem exec_addFill_of_fits {o : ManagedOrder} {f : FillRecord}
    (fits : f.quantity ≤ o.book.remainingQuantity) :
    (addFill f).exec o = (.ok (), o.withFill f fits) := by
  simp only [addFill, Method.exec_get_bind, dif_pos fits]
  rfl

theorem exec_addFill_of_overfill {o : ManagedOrder} {f : FillRecord}
    (overfull : o.book.remainingQuantity < f.quantity) :
    (addFill f).exec o = (.error (o.book.overfill f), o) := by
  simp only [addFill, Method.exec_get_bind, dif_neg (not_le.mpr overfull)]
  rfl

theorem exec_recordFill_recorded {o : ManagedOrder} {f : FillRecord}
    (recorded : o.book.alreadyRecorded f.brokerDealId = true) :
    (recordFill f time source).exec o = (.ok false, o) := by
  simp [recordFill, recorded]

theorem exec_recordFill_overfill {o : ManagedOrder} {f : FillRecord}
    (fresh : o.book.alreadyRecorded f.brokerDealId = false)
    (overfull : o.book.remainingQuantity < f.quantity) :
    (recordFill f time source).exec o = (.error (o.book.overfill f), o) := by
  simp only [recordFill, Method.exec_get_bind, fresh, Bool.false_eq_true, if_false]
  exact Method.exec_bind_error (exec_addFill_of_overfill overfull) _

theorem exec_recordFill_applied {o : ManagedOrder} {f : FillRecord}
    (fresh : o.book.alreadyRecorded f.brokerDealId = false)
    (fits : f.quantity ≤ o.book.remainingQuantity)
    (legal : impliedStatus (o.book.append f fits) ∈ o.status.transitions) :
    (recordFill f time source).exec o =
      (.ok true, (o.withFill f fits).moved (impliedStatus (o.book.append f fits)) time source
        ((o.withFill f fits).fillReason f) none) := by
  simp only [recordFill, Method.exec_get_bind, fresh, Bool.false_eq_true, if_false]
  have moves := exec_move_of_mem (o := o.withFill f fits) time source
    ((o.withFill f fits).fillReason f) none legal
  rw [Method.exec_bind_ok (exec_addFill_of_fits fits), Method.exec_get_bind, withFill_book,
    Method.exec_bind_ok moves]
  rfl

theorem exec_recordFill_illegal {o : ManagedOrder} {f : FillRecord}
    (fresh : o.book.alreadyRecorded f.brokerDealId = false)
    (fits : f.quantity ≤ o.book.remainingQuantity)
    (illegal : impliedStatus (o.book.append f fits) ∉ o.status.transitions) :
    (recordFill f time source).exec o =
      (.error (.illegalOrderTransition o.status (impliedStatus (o.book.append f fits))),
        o.withFill f fits) := by
  simp only [recordFill, Method.exec_get_bind, fresh, Bool.false_eq_true, if_false]
  have stays := exec_move_of_not_mem (o := o.withFill f fits) time source
    ((o.withFill f fits).fillReason f) none illegal
  rw [Method.exec_bind_ok (exec_addFill_of_fits fits), Method.exec_get_bind, withFill_book,
    Method.exec_bind_error stays]
  rfl

end RecordFill

end ManagedOrder

end TradeResearch.Oms
