import TradeResearch.Oms.Spend

/-!
# The lifecycle events of an order manager

The event queue of `backend/app/oms/service.py` and the events of `backend/app/oms/events.py`. The
methods of `Oms/Service.lean` are run again over an order and the queue (`Announcer`), with
`_queue_events` where the source calls it.

* `Outbox.queueEvents` queues what the cursor of an order has not reached.
* `announces_call` says that on the order every method here is its method there, and that every path
  of it leaves the order `UpTo` its cursor: what is queued of it is its creation and the trail the
  cursor has passed, in order and once.
* `complete_call` says that a method that is `Heard` leaves the whole trail queued.
-/

namespace TradeResearch.Oms

open Brokers Risk

/-! ## Events -/

inductive EventType where
  | orderCreated
  | orderUpdated
  | orderSubmitted
  | orderAcknowledged
  | orderPartiallyFilled
  | orderFilled
  | orderCancelled
  | orderRejected
  | orderFailed
  | orderUnknown
  deriving DecidableEq

def eventFor : OrderStatus → EventType
  | .intent => .orderCreated
  | .submitting => .orderUpdated
  | .submitted => .orderSubmitted
  | .accepted => .orderAcknowledged
  | .partiallyFilled => .orderPartiallyFilled
  | .filled => .orderFilled
  | .cancelRequested => .orderUpdated
  | .cancelled => .orderCancelled
  | .rejected => .orderRejected
  | .expired => .orderCancelled
  | .failed => .orderFailed
  | .unknown => .orderUnknown

def OrderTransition.event (t : OrderTransition) : EventType := eventFor t.new

structure Payload where
  orderId : String
  clientOrderId : String
  brokerOrderId : Option String
  accountId : String
  strategyId : Option String
  signalId : Option String
  symbol : String
  side : String
  orderType : String
  mode : Mode
  status : OrderStatus
  quantity : ℚ
  filledQuantity : ℚ
  remainingQuantity : ℚ
  averageFillPrice : Option ℚ
  stopLoss : Option ℚ
  takeProfit : Option ℚ
  riskDecisionId : Option String
  rejectReason : Option Text
  errorCode : Option String
  needsReconciliation : Bool

def payloadFor (o : ManagedOrder) : Payload :=
  { orderId := o.id
    clientOrderId := o.clientOrderId
    brokerOrderId := o.brokerOrderId
    accountId := o.accountId
    strategyId := o.strategyId
    signalId := o.signalId
    symbol := o.symbol
    side := o.side
    orderType := o.orderType
    mode := o.mode
    status := o.status
    quantity := o.quantity
    filledQuantity := o.filledQuantity
    remainingQuantity := o.remainingQuantity
    averageFillPrice := o.book.averagePrice
    stopLoss := o.stopLoss
    takeProfit := o.takeProfit
    riskDecisionId := o.riskDecisionId
    rejectReason := o.rejectReason
    errorCode := o.errorCode
    needsReconciliation := o.needsReconciliation }

structure OrderEvent where
  type : EventType
  payload : Payload
  orderId : String

def OrderEvent.of (type : EventType) (o : ManagedOrder) : OrderEvent :=
  { type, payload := payloadFor o, orderId := o.id }

def eventsOf (id : String) (events : List OrderEvent) : List EventType :=
  (events.filter fun e => e.orderId = id).map OrderEvent.type

theorem eventsOf_append (id : String) (events more : List OrderEvent) :
    eventsOf id (events ++ more) = eventsOf id events ++ eventsOf id more := by
  unfold eventsOf
  rw [List.filter_append, List.map_append]

theorem eventsOf_singleton (id : String) (e : OrderEvent) :
    eventsOf id [e] = if e.orderId = id then [e.type] else [] := by
  unfold eventsOf
  by_cases about : e.orderId = id
  · rw [if_pos about, List.filter_cons_of_pos (by simpa using about)]
    rfl
  · rw [if_neg about, List.filter_cons_of_neg (by simpa using about)]
    rfl

theorem eventsOf_map_of (o : ManagedOrder) (trail : List OrderTransition) :
    eventsOf o.id (trail.map fun t => OrderEvent.of t.event o) =
      trail.map OrderTransition.event := by
  unfold eventsOf
  rw [List.filter_eq_self.mpr, List.map_map]
  · rfl
  · intro e mem
    obtain ⟨t, -, rfl⟩ := List.mem_map.mp mem
    exact decide_eq_true rfl

theorem eventsOf_map_of_ne {id : String} {o : ManagedOrder} (other : id ≠ o.id)
    (trail : List OrderTransition) :
    eventsOf id (trail.map fun t => OrderEvent.of t.event o) = [] := by
  unfold eventsOf
  rw [List.filter_eq_nil_iff.mpr, List.map_nil]
  intro e mem
  obtain ⟨t, -, rfl⟩ := List.mem_map.mp mem
  rw [decide_eq_true_iff]
  exact other.symm

structure Outbox where
  pending : List OrderEvent
  queued : String → ℕ

def Outbox.queueEvents (b : Outbox) (o : ManagedOrder) : Outbox :=
  { pending := b.pending ++
      (o.transitions.drop (b.queued o.id)).map fun t => OrderEvent.of t.event o
    queued := Function.update b.queued o.id o.transitions.length }

structure Announcer where
  order : ManagedOrder
  outbox : Outbox

namespace Announcer

/-! ## The methods -/

def onOrder {α : Type} (x : Method Exn ManagedOrder α) : Method Exn Announcer α :=
  Method.within order (fun o d => { d with order := o }) x

def queueEvents : Method Exn Announcer Unit :=
  modify fun d => { d with outbox := d.outbox.queueEvents d.order }

def fail (now : Time) (reason : Text) (code : String) : Method Exn Announcer Unit := do
  onOrder (ManagedOrder.fail now reason code)
  queueEvents

def parkUnknown (now : Time) (reason : Text) : Method Exn Announcer Unit := do
  onOrder (ManagedOrder.parkUnknown now reason)
  queueEvents

def recorded (x : Method Exn ManagedOrder Bool) : Method Exn Announcer Bool := do
  let applied ← onOrder x
  if applied then queueEvents
  return applied

def applyVerdict (now : Time) (result : OrderResult) : Method Exn Announcer Unit :=
  match result.status with
  | .unknown => parkUnknown now (result.detail.orElse (Text.lit "the venue's answer was unclear"))
  | .rejected => do
    onOrder (ManagedOrder.move .submitted now .pipeline (Text.lit "transmitted") result.retcode)
    onOrder (ManagedOrder.move .rejected now .broker (result.detail.take 500) result.retcode)
    onOrder (modify fun o =>
      { o with
        rejectReason := some (result.detail.take 500)
        errorCode := result.retcode.map fun code => toString code })
  | .accepted => do
    onOrder (ManagedOrder.move .submitted now .pipeline (Text.lit "transmitted") result.retcode)
    onOrder (ManagedOrder.move .accepted now .broker
      ((result.detail.take 500).orElse (Text.lit "accepted by the venue")) result.retcode)
    match ManagedOrder.resultFill result now with
    | some report => discard (recorded (ManagedOrder.record report now))
    | none => pure ()

def applyResult (now : Time) (result : OrderResult) : Method Exn Announcer Unit := do
  onOrder (modify fun o => o.named result)
  applyVerdict now result

def applyAnswer (now : Time) : Answer OrderResult → Method Exn Announcer Unit
  | .error (.brokerError type reason) =>
    fail now (Exn.brokerError type reason).describe "BROKER_ERROR"
  | .error e => parkUnknown now e.describe
  | .ok result => do
    applyResult now result
    queueEvents

def submit (now : Time) (spec : Answer (Option SymbolInfo)) (answer : Answer OrderResult) :
    Method Exn Announcer Unit := do
  if ← onOrder (ManagedOrder.submitBegin now) then
    if ← onOrder (ManagedOrder.submitSpec now spec) then applyAnswer now answer
    else queueEvents
  else queueEvents

def close (now : Time) (brokerPositionId : String) (answer : Answer OrderResult) :
    Method Exn Announcer Unit := do
  onOrder (ManagedOrder.closeBegin now brokerPositionId)
  applyAnswer now answer

def cancelAnswer (now : Time) : Answer OrderResult → Method Exn Announcer Unit
  | .error e => do
    onOrder (ManagedOrder.cancelAnswer now (.error e))
    queueEvents
  | .ok result =>
    match result.status with
    | .rejected => onOrder (ManagedOrder.cancelAnswer now (.ok result))
    | _ => do
      onOrder (ManagedOrder.cancelAnswer now (.ok result))
      queueEvents

def cancel (now : Time) (reason : Text) (answer : Answer OrderResult) :
    Method Exn Announcer Unit := do
  match ← onOrder (ManagedOrder.cancelBegin now reason) with
  | none => queueEvents
  | some _ => cancelAnswer now answer

def modifyAnswer (now : Time) (approval : Approval) (stopLoss takeProfit : Option ℚ) :
    Answer OrderResult → Method Exn Announcer Unit
  | .error (.brokerError _ reason) =>
    throw (.orderRefused (Text.lit "the venue refused the modification: " ++ reason))
  | .error e => do
    parkUnknown now (Text.lit "modify outcome unclear: " ++ e.message)
    throw (.reconciliationRequired
      (Text.lit "the modification's outcome is unknown: " ++ e.message ++
        Text.lit ". The order is parked"))
  | .ok result =>
    match result.status with
    | .unknown => do
      parkUnknown now (result.detail.orElse (Text.lit "modify outcome unclear"))
      throw (.reconciliationRequired
        (Text.lit "the venue's answer to the modification was unclear; the order is parked"))
    | .rejected =>
      throw (.orderRefused (Text.lit "the venue refused the modification: " ++ result.detail))
    | .accepted => do
      onOrder (modify fun o => o.modified now approval stopLoss takeProfit result)
      queueEvents

def modifyLevels (now : Time) (approval : Approval) (stopLoss takeProfit : Option ℚ)
    (answer : Answer OrderResult) : Method Exn Announcer Unit := do
  onOrder (ManagedOrder.modifyBegin now approval)
  modifyAnswer now approval stopLoss takeProfit answer

def settlePosition (now : Time) (found : BrokerPosition) : Method Exn Announcer Unit := do
  let applied ← recorded (ManagedOrder.record (ManagedOrder.positionFill found) now)
  onOrder do
    let o ← get
    if !applied && !o.terminal then
      ManagedOrder.move .filled now .reconciliation
        (Text.lit s!"the venue holds position {found.positionId}") none
  queueEvents

def settle (now : Time) (openOrders : List BrokerOrder) (positions : List BrokerPosition) :
    Method Exn Announcer Unit := do
  let o ← onOrder get
  onOrder (modify fun o => o.suspect now)
  match o.matchOrder openOrders with
  | some found => do
    onOrder (ManagedOrder.settleOrder now found (o.matchPosition positions))
    queueEvents
  | none =>
    match o.matchPosition positions with
    | some found => settlePosition now found
    | none => do
      onOrder (ManagedOrder.settleAbsent now)
      queueEvents

def reconcile (now : Time) (openOrders : Answer (List BrokerOrder))
    (positions : Answer (List BrokerPosition)) : Method Exn Announcer Unit := do
  let o ← onOrder get
  if !o.needsReconciliation then
    return
  match openOrders with
  | .error e => throw (ManagedOrder.unreadable e)
  | .ok openOrders =>
    match positions with
    | .error e => throw (ManagedOrder.unreadable e)
    | .ok positions => settle now openOrders positions

def expire (now : Time) : Method Exn Announcer Unit := do
  onOrder (ManagedOrder.expire now)
  queueEvents

end Announcer

def OrderCall.announced : OrderCall → Method Exn Announcer Unit
  | submit now spec answer => Announcer.submit now spec answer
  | close now brokerPositionId answer => Announcer.close now brokerPositionId answer
  | report now quantity price deal commission swap fillSource =>
    discard (Announcer.recorded
      (ManagedOrder.applyExecutionReport now quantity price deal commission swap fillSource))
  | cancel now reason answer => Announcer.cancel now reason answer
  | modify now approval stopLoss takeProfit answer =>
    Announcer.modifyLevels now approval stopLoss takeProfit answer
  | reconcile now openOrders positions => Announcer.reconcile now openOrders positions
  | expire now => Announcer.expire now

namespace ManagedOrder

def FillFits (o : ManagedOrder) (now : Time) (answer : Answer OrderResult) : Prop :=
  ∀ result, answer = .ok result → result.status = .accepted →
    ∀ report, resultFill result now = some report → Takes o.book report

theorem ok_applyAnswer_sending {o : ManagedOrder} {now : Time} {answer : Answer OrderResult}
    (fits : o.FillFits now answer) (reason : Text) :
    ((applyAnswer now answer).exec (o.sending now reason)).1 = .ok () := by
  rw [applyAnswer_ok_iff]
  cases answer with
  | error e =>
    intro _
    rw [sending_status]
    decide
  | ok result =>
    refine ⟨fun _ => ?_, fun accepted report filled => ?_⟩
    · rw [sending_status]
      decide
    · rw [sending_book]
      exact fits result rfl accepted report filled

theorem quiet_record (report : FillReport) (now : Time) (o : ManagedOrder) :
    ((record report now).exec o).1 = .ok true ∨
      ((record report now).left o).transitions = o.transitions := by
  have outcome := record_cases report now o
  unfold Method.left
  generalize (record report now).exec o = out at outcome
  cases outcome with
  | invalid reason refused | recorded f made known | overfilled f made fresh overfull =>
      exact .inr rfl
  | applied f made fresh fits legal time reason => exact .inl rfl
  | stranded f made fresh fits illegal => exact .inr rfl

theorem quiet_applyExecutionReport (now : Time) (quantity price : Figure) (deal : Option String)
    (commission swap : ℚ) (fillSource : String) (o : ManagedOrder) :
    ((applyExecutionReport now quantity price deal commission swap fillSource).exec o).1 =
        .ok true ∨
      ((applyExecutionReport now quantity price deal commission swap fillSource).left
        o).transitions = o.transitions := by
  unfold Method.left
  by_cases early : o.status = .intent ∨ o.status = .submitting
  · obtain ⟨reason, refused⟩ := exec_applyExecutionReport_early o now quantity price deal
      commission swap fillSource early
    rw [refused]
    exact .inr rfl
  · rw [exec_applyExecutionReport o now quantity price deal commission swap fillSource early]
    exact quiet_record _ now o

theorem cancelBegin_ok {o o' : ManagedOrder} {now : Time} {reason : Text} {id : Option String}
    (begun : (cancelBegin now reason).exec o = (.ok id, o')) :
    id = o.brokerOrderId ∧ .cancelRequested ∈ o.status.transitions := by
  unfold cancelBegin at begun
  rw [Method.exec_get_bind, Method.exec_guard] at begun
  split at begun
  · cases congrArg Prod.fst begun
  rw [Method.exec_guard] at begun
  split at begun
  · cases congrArg Prod.fst begun
  by_cases live : .cancelRequested ∈ o.status.transitions
  · rw [Method.exec_bind_ok (exec_move_of_mem now .operator _ none live)] at begun
    refine ⟨?_, live⟩
    split at begun
    · rw [Method.exec_bind_ok (exec_parkUnknown ..)] at begun
      exact (Except.ok.inj (congrArg Prod.fst begun)).symm
    · exact (Except.ok.inj (congrArg Prod.fst begun)).symm
  · rw [Method.exec_bind_error (exec_move_of_not_mem now .operator _ none live)] at begun
    cases congrArg Prod.fst begun

def CancelRefused (answer : Answer OrderResult) : Prop :=
  ∃ result, answer = .ok result ∧ result.status = .rejected

end ManagedOrder

def OrderCall.Heard (o : ManagedOrder) : OrderCall → Prop
  | submit now spec answer => o.Sendable now spec → o.FillFits now answer
  | close now brokerPositionId answer =>
    o.status = .intent → brokerPositionId ≠ "" → o.FillFits now answer
  | cancel _ _ answer =>
    .cancelRequested ∈ o.status.transitions → o.brokerOrderId ≠ none →
      ¬ ManagedOrder.CancelRefused answer
  | reconcile _ (.ok openOrders) (.ok positions) =>
    o.status = .submitting → o.matchOrder openOrders = none →
      ∀ found, o.matchPosition positions = some found →
        ManagedOrder.Takes o.book (ManagedOrder.positionFill found)
  | _ => True

namespace Announcer

/-! ## The cursor -/

structure UpTo (published : List OrderEvent) (d : Announcer) : Prop where
  heard : eventsOf d.order.id (published ++ d.outbox.pending) =
    .orderCreated ::
      (d.order.transitions.take (d.outbox.queued d.order.id)).map OrderTransition.event
  bounded : d.outbox.queued d.order.id ≤ d.order.transitions.length

structure Follows (published : List OrderEvent) (before d : Announcer) : Prop
    extends UpTo published d where
  further : ManagedOrder.Continues before.order d.order
  reached : before.outbox.queued before.order.id ≤ d.outbox.queued d.order.id
  elsewhere : ∀ id ≠ before.order.id,
    eventsOf id d.outbox.pending = eventsOf id before.outbox.pending ∧
      d.outbox.queued id = before.outbox.queued id

def Complete (d : Announcer) : Prop :=
  d.outbox.queued d.order.id = d.order.transitions.length

theorem UpTo.follows {published : List OrderEvent} {d : Announcer} (upTo : UpTo published d) :
    Follows published d d :=
  { upTo with
    further := .refl d.order
    reached := le_rfl
    elsewhere := fun _ _ => ⟨rfl, rfl⟩ }

theorem UpTo.of_same {published : List OrderEvent} {o : ManagedOrder} {b b' : Outbox}
    (upTo : UpTo published { order := o, outbox := b })
    (pending : eventsOf o.id b'.pending = eventsOf o.id b.pending)
    (queued : b'.queued o.id = b.queued o.id) :
    UpTo published { order := o, outbox := b' } := by
  obtain ⟨heard, bounded⟩ := upTo
  refine ⟨?_, ?_⟩
  · dsimp only at heard ⊢
    rw [eventsOf_append] at heard ⊢
    rw [pending, queued]
    exact heard
  · dsimp only at bounded ⊢
    rwa [queued]

theorem Follows.complete {published : List OrderEvent} {before d : Announcer}
    (follows : Follows published before d) (complete : before.Complete)
    (same : d.order.transitions = before.order.transitions) : d.Complete := by
  have reached := follows.reached
  have bounded := follows.bounded
  unfold Complete at complete ⊢
  rw [same] at bounded ⊢
  omega

section Follows

theorem keeps_onOrder {α : Type} {x : Method Exn ManagedOrder α}
    (further : ∀ o, Method.Keeps (ManagedOrder.Continues o) x) :
    Method.Keeps (Follows published before) (onOrder x) := by
  intro d follows
  have goes : ManagedOrder.Continues d.order (x.left d.order) :=
    further d.order d.order (.refl d.order)
  obtain ⟨more, grown⟩ := goes.trail
  have heard := follows.heard
  have bounded := follows.bounded
  have reached := follows.reached
  show Follows published before { d with order := x.left d.order }
  refine ⟨⟨?_, ?_⟩, follows.further.trans goes, ?_, follows.elsewhere⟩
  · dsimp only
    rw [goes.id, ← grown, List.take_append_of_le_length bounded]
    exact heard
  · dsimp only
    rw [goes.id, ← grown, List.length_append]
    omega
  · dsimp only
    rw [goes.id]
    exact reached

theorem keeps_queueEvents : Method.Keeps (Follows published before) queueEvents := by
  intro d follows
  show Follows published before { d with outbox := d.outbox.queueEvents d.order }
  have heard := follows.heard
  have named := follows.further.id
  refine ⟨⟨?_, ?_⟩, follows.further, ?_, fun id other => ?_⟩
  · dsimp only [Outbox.queueEvents]
    rw [← List.append_assoc, eventsOf_append, heard, eventsOf_map_of, Function.update_self,
      List.take_length, List.cons_append, ← List.map_append, List.take_append_drop]
  · dsimp only [Outbox.queueEvents]
    rw [Function.update_self]
  · dsimp only [Outbox.queueEvents]
    rw [Function.update_self]
    exact follows.reached.trans follows.bounded
  · obtain ⟨pending, queued⟩ := follows.elsewhere id other
    have different : id ≠ d.order.id := by
      rwa [named]
    dsimp only [Outbox.queueEvents]
    rw [eventsOf_append, eventsOf_map_of_ne different, List.append_nil,
      Function.update_of_ne different]
    exact ⟨pending, queued⟩

end Follows

/-! ## The same methods, announced -/

structure Announces {α : Type} (y : Method Exn Announcer α) (x : Method Exn ManagedOrder α) :
    Prop where
  mirrors : Method.Mirrors order y x
  keeps : ∀ published before, Method.Keeps (Follows published before) y

theorem announces_onOrder {x : Method Exn ManagedOrder α}
    (further : ∀ o, Method.Keeps (ManagedOrder.Continues o) x) : Announces (onOrder x) x :=
  ⟨Method.Mirrors.within (fun _ _ => rfl) x, fun _ _ => keeps_onOrder further⟩

theorem announces_pure (a : α) : Announces (pure a) (pure a) :=
  ⟨Method.Mirrors.pure a, fun _ _ => Method.Keeps.pure a⟩

theorem announces_throw (e : Exn) :
    Announces (throw e : Method Exn Announcer α) (throw e) :=
  ⟨Method.Mirrors.throw e, fun _ _ => Method.Keeps.throw e⟩

theorem Announces.bind {y : Method Exn Announcer α} {x : Method Exn ManagedOrder α}
    {g : α → Method Exn Announcer β} {f : α → Method Exn ManagedOrder β}
    (first : Announces y x) (rest : ∀ a, Announces (g a) (f a)) :
    Announces (y >>= g) (x >>= f) :=
  ⟨first.mirrors.bind fun a => (rest a).mirrors,
    fun published before =>
      (first.keeps published before).bind fun a => (rest a).keeps published before⟩

theorem Announces.ite {c : Prop} [Decidable c] {y y' : Method Exn Announcer α}
    {x x' : Method Exn ManagedOrder α} (yes : Announces y x) (no : Announces y' x') :
    Announces (if c then y else y') (if c then x else x') := by
  split
  · exact yes
  · exact no

theorem announces_queueEvents : Announces queueEvents (pure ()) :=
  ⟨Method.Mirrors.modify fun _ => rfl, fun _ _ => keeps_queueEvents⟩

theorem Announces.queued {y : Method Exn Announcer Unit} {x : Method Exn ManagedOrder Unit}
    (first : Announces y x) : Announces (do y; queueEvents) x :=
  ⟨first.mirrors.andThen announces_queueEvents.mirrors,
    (first.bind fun _ => announces_queueEvents).keeps⟩

theorem announces_queued {x : Method Exn ManagedOrder Unit}
    (further : ∀ o, Method.Keeps (ManagedOrder.Continues o) x) :
    Announces (do onOrder x; queueEvents) x :=
  (announces_onOrder further).queued

theorem announces_recorded {x : Method Exn ManagedOrder Bool}
    (further : ∀ o, Method.Keeps (ManagedOrder.Continues o) x) : Announces (recorded x) x := by
  have whole : Announces (recorded x) (x >>= fun applied => pure applied) := by
    refine (announces_onOrder further).bind fun applied => ?_
    cases applied with
    | false => exact announces_pure false
    | true => exact announces_queueEvents.bind fun _ => announces_pure true
  rwa [bind_pure] at whole

theorem Announces.discarded {y : Method Exn Announcer Bool} {x : Method Exn ManagedOrder Bool}
    (same : Announces y x) : Announces (discard y) (discard x) := by
  refine ⟨fun d => ?_, fun published before d follows => ?_⟩
  · rw [Method.exec_discard, Method.exec_discard, ← same.mirrors d]
  · unfold Method.left
    rw [Method.exec_discard]
    exact same.keeps published before d follows

section Methods

variable (now : Time)

theorem announces_move (wanted : OrderStatus) (source : Source) (reason : Text)
    (retcode : Option ℤ) :
    Announces (onOrder (ManagedOrder.move wanted now source reason retcode))
      (ManagedOrder.move wanted now source reason retcode) :=
  announces_onOrder fun o =>
    ManagedOrder.keeps_move (ManagedOrder.standing_continues o) now _ _ _ _

theorem announces_fail (reason : Text) (code : String) :
    Announces (fail now reason code) (ManagedOrder.fail now reason code) :=
  announces_queued fun o => ManagedOrder.keeps_fail (ManagedOrder.standing_continues o) now _ _

theorem announces_parkUnknown (reason : Text) :
    Announces (parkUnknown now reason) (ManagedOrder.parkUnknown now reason) :=
  announces_queued fun o => ManagedOrder.keeps_parkUnknown (ManagedOrder.standing_continues o) now _

theorem announces_record (report : FillReport) :
    Announces (recorded (ManagedOrder.record report now)) (ManagedOrder.record report now) :=
  announces_recorded fun o => ManagedOrder.keeps_record (ManagedOrder.standing_continues o) now _

theorem announces_applyVerdict (result : OrderResult) :
    Announces (applyVerdict now result) (ManagedOrder.applyVerdict now result) := by
  unfold applyVerdict ManagedOrder.applyVerdict
  cases result.status with
  | unknown => exact announces_parkUnknown now _
  | rejected =>
    refine (announces_move now _ _ _ _).bind fun _ => ?_
    refine (announces_move now _ _ _ _).bind fun _ => announces_onOrder fun o => ?_
    exact ManagedOrder.keeps_annotation (ManagedOrder.standing_continues o)
  | accepted =>
    refine (announces_move now _ _ _ _).bind fun _ => ?_
    refine (announces_move now _ _ _ _).bind fun _ => ?_
    cases ManagedOrder.resultFill result now with
    | none => exact announces_pure _
    | some report => exact (announces_record now report).discarded

theorem announces_applyResult (result : OrderResult) :
    Announces (applyResult now result) (ManagedOrder.applyResult now result) := by
  have verdict := announces_applyVerdict now result
  refine ⟨fun d => ?_, fun published before => ?_⟩
  · rw [ManagedOrder.exec_applyResult]
    exact verdict.mirrors { d with order := d.order.named result }
  · refine Method.Keeps.bind (keeps_onOrder fun o => Method.Keeps.modify fun p further => ?_)
      fun _ => verdict.keeps published before
    unfold ManagedOrder.named
    split
    · exact ManagedOrder.renamable_continues o p result.orderId further
    · exact further

theorem announces_applyAnswer (answer : Answer OrderResult) :
    Announces (applyAnswer now answer) (ManagedOrder.applyAnswer now answer) := by
  rcases answer with (_ | _ | _ | _ | _ | _) | result
  case ok => exact (announces_applyResult now result).queued
  case error.brokerError => exact announces_fail now _ _
  all_goals exact announces_parkUnknown now _

theorem announces_submit (spec : Answer (Option SymbolInfo)) (answer : Answer OrderResult) :
    Announces (submit now spec answer) (ManagedOrder.submit now spec answer) := by
  have begins := announces_onOrder fun o =>
    ManagedOrder.keeps_submitBegin (ManagedOrder.standing_continues o) now
  have checks := announces_onOrder fun o =>
    ManagedOrder.keeps_submitSpec (ManagedOrder.standing_continues o) now spec
  refine begins.bind fun goes => Announces.ite ?_ announces_queueEvents
  exact checks.bind fun sends =>
    Announces.ite (announces_applyAnswer now answer) announces_queueEvents

theorem announces_close (brokerPositionId : String) (answer : Answer OrderResult) :
    Announces (close now brokerPositionId answer)
      (ManagedOrder.close now brokerPositionId answer) := by
  refine (announces_onOrder fun o => ?_).bind fun _ => announces_applyAnswer now answer
  exact ManagedOrder.keeps_closeBegin (ManagedOrder.standing_continues o) now brokerPositionId

theorem announces_cancel (reason : Text) (answer : Answer OrderResult) :
    Announces (cancel now reason answer) (ManagedOrder.cancel now reason answer) := by
  have begins := announces_onOrder fun o =>
    ManagedOrder.keeps_cancelBegin (ManagedOrder.standing_continues o) now reason
  have answers (o : ManagedOrder) : Method.Keeps (ManagedOrder.Continues o)
      (ManagedOrder.cancelAnswer now answer) :=
    ManagedOrder.keeps_cancelAnswer (ManagedOrder.standing_continues o) now answer
  refine begins.bind fun id => ?_
  cases id with
  | none => exact announces_queueEvents
  | some id =>
    cases answer with
    | error e => exact announces_queued answers
    | ok result =>
      cases verdict : result.status <;> simp only [cancelAnswer, verdict]
      · exact announces_queued answers
      · exact announces_onOrder answers
      · exact announces_queued answers

theorem announces_modifyLevels (approval : Approval) (stopLoss takeProfit : Option ℚ)
    (answer : Answer OrderResult) :
    Announces (modifyLevels now approval stopLoss takeProfit answer)
      (ManagedOrder.modifyLevels now approval stopLoss takeProfit answer) := by
  have parks (reason : Text) (e : Exn) : Announces
      (do parkUnknown now reason; throw e : Method Exn Announcer Unit)
      (do ManagedOrder.parkUnknown now reason; throw e) :=
    (announces_parkUnknown now reason).bind fun _ => announces_throw e
  refine (announces_onOrder fun o => ?_).bind fun _ => ?_
  · exact ManagedOrder.modifyBegin_keeps now approval
  rcases answer with (_ | _ | _ | _ | _ | _) | result
  case ok =>
    cases verdict : result.status <;>
      simp only [modifyAnswer, ManagedOrder.modifyAnswer, verdict]
    · refine announces_queued fun o => ManagedOrder.keeps_note (ManagedOrder.lasting_continues o) ?_
      exact fun p => ManagedOrder.modified_noted p now approval _ _ result
    · exact announces_throw _
    · exact parks _ _
  case error.brokerError => exact announces_throw _
  all_goals exact parks _ _

theorem announces_settlePosition (found : BrokerPosition) :
    Announces (settlePosition now found) (ManagedOrder.settlePosition now found) := by
  refine (announces_record now _).bind fun applied => announces_queued fun o => ?_
  refine Method.Keeps.bind Method.Keeps.get fun p => ?_
  refine Method.Keeps.ite ?_ (Method.Keeps.pure _)
  exact ManagedOrder.keeps_move (ManagedOrder.standing_continues o) now _ _ _ _

theorem exec_settle (openOrders : List BrokerOrder)
    (positions : List BrokerPosition) (d : Announcer) :
    (settle now openOrders positions).exec d =
      (match d.order.matchOrder openOrders with
        | some found => do
          onOrder (ManagedOrder.settleOrder now found (d.order.matchPosition positions))
          queueEvents
        | none =>
          match d.order.matchPosition positions with
          | some found => settlePosition now found
          | none => do
            onOrder (ManagedOrder.settleAbsent now)
            queueEvents : Method Exn Announcer Unit).exec { d with order := d.order.suspect now } :=
  rfl

theorem announces_settle (openOrders : List BrokerOrder) (positions : List BrokerPosition) :
    Announces (settle now openOrders positions)
      (ManagedOrder.settle now openOrders positions) := by
  have working (found : BrokerOrder) (position : Option BrokerPosition) :=
    announces_queued fun o =>
      ManagedOrder.keeps_settleOrder (ManagedOrder.standing_continues o)
        (ManagedOrder.renamable_continues o) now found position
  have absent := announces_queued fun o =>
    ManagedOrder.keeps_settleAbsent (ManagedOrder.standing_continues o) now
  refine ⟨fun d => ?_, fun published before => ?_⟩
  · rw [ManagedOrder.exec_settle, exec_settle]
    cases d.order.matchOrder openOrders with
    | some found => exact (working found _).mirrors { d with order := d.order.suspect now }
    | none =>
      cases d.order.matchPosition positions with
      | some found =>
        exact (announces_settlePosition now found).mirrors { d with order := d.order.suspect now }
      | none => exact absent.mirrors { d with order := d.order.suspect now }
  · have suspects : Method.Keeps (Follows published before)
        (onOrder (modify fun o => o.suspect now)) := by
      refine keeps_onOrder fun o => Method.Keeps.modify fun p further => ?_
      unfold ManagedOrder.suspect
      split
      · exact further.trans (ManagedOrder.moved_continues ..)
      · exact further
    refine Method.Keeps.bind (keeps_onOrder fun o => Method.Keeps.get) fun o => ?_
    refine suspects.bind fun _ => ?_
    cases o.matchOrder openOrders with
    | some found => exact (working found _).keeps published before
    | none =>
      cases o.matchPosition positions with
      | some found => exact (announces_settlePosition now found).keeps published before
      | none => exact absent.keeps published before

theorem announces_reconcile (openOrders : Answer (List BrokerOrder))
    (positions : Answer (List BrokerPosition)) :
    Announces (reconcile now openOrders positions)
      (ManagedOrder.reconcile now openOrders positions) := by
  refine (announces_onOrder fun o => Method.Keeps.get).bind fun o => ?_
  refine Announces.ite (announces_pure _) ?_
  cases openOrders with
  | error e => exact announces_throw _
  | ok openOrders =>
    cases positions with
    | error e => exact announces_throw _
    | ok positions => exact announces_settle now openOrders positions

end Methods

theorem announces_call (c : OrderCall) : Announces c.announced c.body := by
  cases c with
  | submit now spec answer => exact announces_submit now spec answer
  | close now brokerPositionId answer => exact announces_close now brokerPositionId answer
  | report now quantity price deal commission swap fillSource =>
    refine (announces_recorded fun o => ?_).discarded
    exact ManagedOrder.keeps_applyExecutionReport (ManagedOrder.standing_continues o) now _ _ _ _ _
      _
  | cancel now reason answer => exact announces_cancel now reason answer
  | modify now approval stopLoss takeProfit answer =>
    exact announces_modifyLevels now approval stopLoss takeProfit answer
  | reconcile now openOrders positions => exact announces_reconcile now openOrders positions
  | expire now =>
    exact announces_queued fun o =>
      ManagedOrder.keeps_expire (ManagedOrder.standing_continues o) now

/-! ## What a call leaves unannounced -/

theorem complete_queueEvents : Method.Returns Complete queueEvents := by
  refine Method.Returns.modify fun d => ?_
  exact Function.update_self ..

theorem complete_announced {α : Type} (x : Method Exn Announcer α) :
    Method.Returns Complete (x >>= fun _ => queueEvents) :=
  Method.Returns.bind x fun _ => complete_queueEvents

theorem complete_applyAnswer (now : Time) (answer : Answer OrderResult) :
    Method.Returns Complete (applyAnswer now answer) := by
  rcases answer with (_ | _ | _ | _ | _ | _) | result
  all_goals exact complete_announced _

theorem complete_parkUnknown (now : Time) (reason : Text) (d : Announcer) :
    ((parkUnknown now reason).left d).Complete := by
  have parks : (onOrder (ManagedOrder.parkUnknown now reason)).exec d =
      (.ok (), { d with order := d.order.parked now reason }) :=
    Method.exec_within_of (ManagedOrder.exec_parkUnknown d.order now reason)
  unfold Method.left parkUnknown
  rw [Method.exec_bind_ok parks]
  exact complete_queueEvents _ _ _ rfl

section Complete

variable (upTo : UpTo published d) (complete : d.Complete) (now : Time)
include upTo complete

theorem complete_of_same {α : Type} {y : Method Exn Announcer α} {x : Method Exn ManagedOrder α}
    (announces : Announces y x)
    (same : (x.left d.order).transitions = d.order.transitions) : (y.left d).Complete := by
  have seen : (y.left d).order = x.left d.order := congrArg Prod.snd (announces.mirrors d)
  exact (announces.keeps published d d upTo.follows).complete complete (by rw [seen, same])

theorem complete_of_raised {y : Method Exn Announcer Unit} {x : Method Exn ManagedOrder Unit}
    (announces : Announces y x) (returns : Method.Returns Complete y)
    (raised : ∀ e o', x.exec d.order = (.error e, o') → o'.transitions = d.order.transitions) :
    (y.left d).Complete := by
  have seen := announces.mirrors d
  unfold Method.left
  rcases ran : y.exec d with ⟨e | ⟨⟩, t⟩
  · rw [ran] at seen
    have same := raised e t.order seen.symm
    have ended : x.left d.order = t.order := (congrArg Prod.snd seen).symm
    have whole := complete_of_same upTo complete announces (by rw [ended, same])
    unfold Method.left at whole
    rwa [ran] at whole
  · exact returns d _ t ran

theorem complete_submit {spec : Answer (Option SymbolInfo)} {answer : Answer OrderResult}
    (fits : d.order.Sendable now spec → d.order.FillFits now answer) :
    ((submit now spec answer).left d).Complete := by
  refine complete_of_raised upTo complete (announces_submit now spec answer) ?_ fun e o' ran => ?_
  · refine Method.Returns.bind _ fun goes => Method.Returns.ite ?_ complete_queueEvents
    refine Method.Returns.bind _ fun sends => Method.Returns.ite ?_ complete_queueEvents
    exact complete_applyAnswer now answer
  · rw [ManagedOrder.exec_submit] at ran
    have outcome := ManagedOrder.placing_cases d.order now spec
    generalize (ManagedOrder.placing now spec).exec d.order = out at ran outcome
    cases outcome with
    | refused reason elsewhere =>
      cases ran
      rfl
    | unsent o' created failed unfit => cases ran
    | sends reason sendable =>
      have ended := ManagedOrder.ok_applyAnswer_sending (fits sendable) reason
      change (ManagedOrder.applyAnswer now answer).exec (d.order.sending now reason) = _ at ran
      rw [ran] at ended
      cases ended

theorem complete_close {brokerPositionId : String} {answer : Answer OrderResult}
    (fits : d.order.status = .intent → brokerPositionId ≠ "" → d.order.FillFits now answer) :
    ((OrderCall.close now brokerPositionId answer).announced.left d).Complete := by
  refine complete_of_raised upTo complete (announces_close now brokerPositionId answer) ?_
    fun e o' ran => ?_
  · exact Method.Returns.bind _ fun _ => complete_applyAnswer now answer
  · change (ManagedOrder.close now brokerPositionId answer).exec d.order = _ at ran
    by_cases unfit : d.order.status ≠ .intent ∨ brokerPositionId = ""
    · obtain ⟨reason, refused⟩ := ManagedOrder.exec_close_refused now unfit answer
      cases refused.symm.trans ran
      rfl
    · obtain ⟨created, named⟩ := not_or.mp unfit
      obtain ⟨reason, sent⟩ :=
        ManagedOrder.exec_close_of_created now (not_not.mp created) named answer
      have ended := ManagedOrder.ok_applyAnswer_sending (fits (not_not.mp created) named) reason
      rw [← sent, ran] at ended
      cases ended

theorem complete_recorded {x : Method Exn ManagedOrder Bool} (announces : Announces (recorded x) x)
    (quiet : (x.exec d.order).1 = .ok true ∨
      (x.left d.order).transitions = d.order.transitions) : ((recorded x).left d).Complete := by
  rcases quiet with applied | same
  · have begun : (onOrder x).exec d = (.ok true, { d with order := (x.exec d.order).2 }) :=
      Method.exec_within_of (Prod.ext applied rfl)
    unfold Method.left recorded
    rw [Method.exec_bind_ok begun]
    exact complete_queueEvents _ _ _ rfl
  · exact complete_of_same upTo complete announces same

theorem complete_report (quantity price : Figure) (deal : Option String) (commission swap : ℚ)
    (fillSource : String) :
    ((OrderCall.report now quantity price deal commission swap fillSource).announced.left
      d).Complete := by
  have announced : Announces _ _ := announces_recorded fun o =>
    ManagedOrder.keeps_applyExecutionReport (ManagedOrder.standing_continues o) now quantity price
      deal commission swap fillSource
  have recorded := complete_recorded upTo complete announced
    (ManagedOrder.quiet_applyExecutionReport now quantity price deal commission swap fillSource
      d.order)
  unfold Method.left at recorded ⊢
  dsimp only [OrderCall.announced]
  rw [Method.exec_discard]
  exact recorded

theorem complete_cancel {reason : Text} {answer : Answer OrderResult}
    (taken : .cancelRequested ∈ d.order.status.transitions → d.order.brokerOrderId ≠ none →
      ¬ ManagedOrder.CancelRefused answer) :
    ((cancel now reason answer).left d).Complete := by
  have announces := announces_cancel now reason answer
  have outcome := ManagedOrder.cancel_cases d.order now reason answer
  by_cases refused : ManagedOrder.CancelRefused answer
  · rcases begun : (ManagedOrder.cancelBegin now reason).exec d.order with ⟨e | id, o'⟩
    · refine complete_of_same upTo complete announces ?_
      have raised : (ManagedOrder.cancel now reason answer).exec d.order = (.error e, o') :=
        Method.exec_bind_error begun _
      have left : (ManagedOrder.cancel now reason answer).left d.order = o' :=
        congrArg Prod.snd raised
      rw [raised] at outcome
      rw [left]
      cases outcome
      rfl
    · obtain ⟨asked, live⟩ := ManagedOrder.cancelBegin_ok begun
      have unnamed : id = none := by
        by_contra named
        exact taken live (asked ▸ named) refused
      have starts : (onOrder (ManagedOrder.cancelBegin now reason)).exec d =
          (.ok none, { d with order := o' }) := Method.exec_within_of (unnamed ▸ begun)
      unfold Method.left cancel
      rw [Method.exec_bind_ok starts]
      exact complete_queueEvents _ _ _ rfl
  · refine complete_of_raised upTo complete announces ?_ fun e o' ran => ?_
    · refine Method.Returns.bind _ fun id => ?_
      cases id with
      | none => exact complete_queueEvents
      | some id =>
        cases answer with
        | error e => exact complete_announced _
        | ok result =>
          cases verdict : result.status <;> simp only [cancelAnswer, verdict]
          · exact complete_announced _
          · exact absurd ⟨result, rfl, verdict⟩ refused
          · exact complete_announced _
    · rw [ran] at outcome
      cases outcome
      rfl

omit upTo in
theorem complete_modifyLevels (approval : Approval) (stopLoss takeProfit : Option ℚ)
    (answer : Answer OrderResult) :
    ((modifyLevels now approval stopLoss takeProfit answer).left d).Complete := by
  have checks := ManagedOrder.modifyBegin_keeps (P := fun o => o = d.order) now approval d.order rfl
  have starts : (onOrder (ManagedOrder.modifyBegin now approval)).exec d =
      (((ManagedOrder.modifyBegin now approval).exec d.order).1, d) := by
    show (_, { d with order := (ManagedOrder.modifyBegin now approval).left d.order }) = _
    rw [checks]
  have parks (reason : Text) (e : Exn) :
      ((do parkUnknown now reason; throw e : Method Exn Announcer Unit).left d).Complete := by
    have parked := complete_parkUnknown now reason d
    unfold Method.left at parked ⊢
    rw [Method.exec_bind]
    rcases ran : (parkUnknown now reason).exec d with ⟨_ | _, t⟩
    · rwa [ran] at parked
    · rwa [ran] at parked
  rcases begun : (ManagedOrder.modifyBegin now approval).exec d.order with ⟨e | ⟨⟩, o'⟩
  · rw [begun] at starts
    unfold Method.left modifyLevels
    rw [Method.exec_bind_error starts]
    exact complete
  · rw [begun] at starts
    have rest : (modifyLevels now approval stopLoss takeProfit answer).left d =
        (modifyAnswer now approval stopLoss takeProfit answer).left d :=
      congrArg Prod.snd (Method.exec_bind_ok starts _)
    rw [rest]
    rcases answer with (_ | _ | _ | _ | _ | _) | result
    case ok =>
      cases verdict : result.status <;> simp only [modifyAnswer, verdict]
      · have modifies : Method.Returns Complete (onOrder (modify fun o =>
            o.modified now approval stopLoss takeProfit result) >>= fun _ => queueEvents) :=
          complete_announced _
        exact modifies d () _ rfl
      · exact complete
      · exact parks _ _
    case error.brokerError => exact complete
    all_goals exact parks _ _

theorem complete_settle (needs : d.order.needsReconciliation = true)
    {openOrders : List BrokerOrder} {positions : List BrokerPosition}
    (fits : d.order.status = .submitting → d.order.matchOrder openOrders = none →
      ∀ found, d.order.matchPosition positions = some found →
        ManagedOrder.Takes d.order.book (ManagedOrder.positionFill found)) :
    ((settle now openOrders positions).left d).Complete := by
  refine complete_of_raised upTo complete (announces_settle now openOrders positions) ?_
    fun e o' ran => ?_
  · refine Method.Returns.bind _ fun o => Method.Returns.bind _ fun _ => ?_
    cases o.matchOrder openOrders with
    | some found => exact complete_announced _
    | none =>
      cases o.matchPosition positions with
      | some found =>
        refine Method.Returns.bind _ fun applied => ?_
        exact complete_announced _
      | none => exact complete_announced _
  · have unknown := ManagedOrder.suspect_status now needs
    rw [ManagedOrder.exec_settle] at ran
    cases working : d.order.matchOrder openOrders with
    | some found =>
      obtain ⟨p, settled, -, -⟩ :=
        ManagedOrder.exec_settleOrder now unknown found (d.order.matchPosition positions)
      rw [working] at ran
      cases settled.symm.trans ran
    | none =>
      rw [working] at ran
      cases holding : d.order.matchPosition positions with
      | none =>
        obtain ⟨p, settled, -, -⟩ := ManagedOrder.exec_settleAbsent now unknown
        rw [holding] at ran
        cases settled.symm.trans ran
      | some found =>
        rw [holding] at ran
        have outcome := ManagedOrder.settlePosition_cases now unknown found
        rw [ran] at outcome
        cases outcome with
        | refused reason unfit fresh =>
          rcases ManagedOrder.needsReconciliation_iff.mp needs with parked | submitting
          · unfold ManagedOrder.suspect
            rw [if_neg (by rw [parked]; decide)]
          · obtain ⟨f, made, takes⟩ := fits submitting working found holding
            rw [ManagedOrder.suspect_book] at unfit fresh
            rcases takes with known | room
            · rcases fresh with fresh | invalid
              · exact absurd (known.symm.trans fresh) (by decide)
              · exact absurd (FillReport.valid_of_make made) invalid
            · exact absurd (unfit f made) (not_lt.mpr room)

theorem complete_reconcile {openOrders : Answer (List BrokerOrder)}
    {positions : Answer (List BrokerPosition)}
    (heard : (OrderCall.reconcile now openOrders positions).Heard d.order) :
    ((reconcile now openOrders positions).left d).Complete := by
  have reads : (onOrder get).exec d = (.ok d.order, d) := rfl
  unfold Method.left reconcile
  rw [Method.exec_bind_ok reads]
  cases needs : d.order.needsReconciliation with
  | false => exact complete
  | true =>
    cases openOrders with
    | error e => exact complete
    | ok openOrders =>
      cases positions with
      | error e => exact complete
      | ok positions => exact complete_settle upTo complete now needs heard

theorem complete_expire : ((OrderCall.expire now).announced.left d).Complete := by
  refine complete_of_raised upTo complete (announces_call (.expire now)) (complete_announced _)
    fun e o' ran => ?_
  change (ManagedOrder.expire now).exec d.order = _ at ran
  unfold ManagedOrder.expire at ran
  rw [Method.exec_get_bind] at ran
  by_cases needs : d.order.needsReconciliation = true
  · rw [if_pos needs] at ran
    cases ran
    rfl
  · rw [if_neg needs] at ran
    by_cases legal : .expired ∈ d.order.status.transitions
    · rw [ManagedOrder.exec_move_of_mem now .expiry _ none legal] at ran
      cases ran
    · rw [ManagedOrder.exec_move_of_not_mem now .expiry _ none legal] at ran
      cases ran
      rfl

theorem complete_call {c : OrderCall} (heard : c.Heard d.order) :
    (c.announced.left d).Complete := by
  cases c with
  | submit now spec answer => exact complete_submit upTo complete now heard
  | close now brokerPositionId answer => exact complete_close upTo complete now heard
  | report now quantity price deal commission swap fillSource =>
    exact complete_report upTo complete now quantity price deal commission swap fillSource
  | cancel now reason answer => exact complete_cancel upTo complete now heard
  | modify now approval stopLoss takeProfit answer =>
    exact complete_modifyLevels complete now approval stopLoss takeProfit answer
  | reconcile now openOrders positions => exact complete_reconcile upTo complete now heard
  | expire now => exact complete_expire upTo complete now

end Complete

end Announcer

end TradeResearch.Oms
