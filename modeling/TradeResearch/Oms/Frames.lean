import TradeResearch.Oms.Calls

/-!
# What no lifecycle method rewrites

A property of orders is `Lasting` when a legal move, a fill of a new deal and a note in the other
fields keep it; every method of `Oms/Service.lean` then keeps it, on every path. `Standing` asks
this of fewer notes, and every method but `modify` keeps what is that. Only two methods write the
venue's id of an order (`_apply_result` and `reconcile`), and they keep what is also `Renamable`. A
property that asks less of a note and of a fill is `Stable`.

* `SameOrder` is the part of an order that says whose it is: stable and renamable.
* `Continues` says that an order is another one further on: its trail and its book only grew.
* `keeps_body` is the conclusion for any call.
-/

namespace TradeResearch.Oms

open Brokers Risk

namespace OrderStatus

theorem ne_intent_of_mem_transitions {s t : OrderStatus} (legal : t ∈ s.transitions) :
    t ≠ .intent := by
  revert legal
  cases s <;> cases t <;> decide

end OrderStatus

namespace ManagedOrder

structure SameOrder (o o' : ManagedOrder) : Prop where
  id : o'.id = o.id
  clientOrderId : o'.clientOrderId = o.clientOrderId
  accountId : o'.accountId = o.accountId
  symbol : o'.symbol = o.symbol
  side : o'.side = o.side
  quantity : o'.quantity = o.quantity
  mode : o'.mode = o.mode

structure SameState (o o' : ManagedOrder) : Prop extends SameOrder o o' where
  status : o'.status = o.status
  brokerOrderId : o'.brokerOrderId = o.brokerOrderId
  book : o'.book = o.book

structure Noted (o o' : ManagedOrder) : Prop extends SameState o o' where
  createdAt : o'.createdAt = o.createdAt
  orderType : o'.orderType = o.orderType
  strategyId : o'.strategyId = o.strategyId
  botId : o'.botId = o.botId
  transitions : o.transitions <+: o'.transitions

structure Lasting (P : ManagedOrder → Prop) : Prop where
  moved : ∀ o wanted time source reason retcode, wanted ∈ o.status.transitions → P o →
    P (o.moved wanted time source reason retcode)
  filled : ∀ o f fits, o.book.alreadyRecorded f.brokerDealId = false → P o → P (withFill o f fits)
  noted : ∀ o o', Noted o o' → P o → P o'

structure Standing (P : ManagedOrder → Prop) : Prop where
  moved : ∀ o wanted time source reason retcode, wanted ∈ o.status.transitions → P o →
    P (o.moved wanted time source reason retcode)
  filled : ∀ o f fits, o.book.alreadyRecorded f.brokerDealId = false → P o → P (withFill o f fits)
  annotated : ∀ (o : ManagedOrder) rejectReason errorCode, P o →
    P { o with rejectReason, errorCode }

structure Stable (P : ManagedOrder → Prop) : Prop where
  moved : ∀ o wanted time source reason retcode, wanted ∈ o.status.transitions → P o →
    P (o.moved wanted time source reason retcode)
  filled : ∀ o f fits, P o → P (withFill o f fits)
  noted : ∀ o o', SameState o o' → P o → P o'

theorem annotated_noted (o : ManagedOrder) (rejectReason : Option Text)
    (errorCode : Option String) : Noted o { o with rejectReason, errorCode } :=
  ⟨⟨⟨rfl, rfl, rfl, rfl, rfl, rfl, rfl⟩, rfl, rfl, rfl⟩, rfl, rfl, rfl, rfl, List.prefix_refl _⟩

theorem modified_noted (o : ManagedOrder) (now : Time) (approval : Approval)
    (stopLoss takeProfit : Option ℚ) (result : OrderResult) :
    Noted o (o.modified now approval stopLoss takeProfit result) :=
  ⟨⟨⟨rfl, rfl, rfl, rfl, rfl, rfl, rfl⟩, rfl, rfl, rfl⟩, rfl, rfl, rfl, rfl,
    List.prefix_append _ _⟩

theorem Stable.lasting {P : ManagedOrder → Prop} (stable : Stable P) : Lasting P where
  moved := stable.moved
  filled o f fits _ := stable.filled o f fits
  noted o o' noted := stable.noted o o' noted.toSameState

theorem Lasting.standing {P : ManagedOrder → Prop} (lasting : Lasting P) : Standing P where
  moved := lasting.moved
  filled := lasting.filled
  annotated o rejectReason errorCode held :=
    lasting.noted o _ (annotated_noted o rejectReason errorCode) held

def Renamable (P : ManagedOrder → Prop) : Prop :=
  ∀ (o : ManagedOrder) brokerOrderId, P o → P { o with brokerOrderId }

section Keeps

variable (standing : Standing P) (now : Time)
include standing

theorem keeps_move (wanted : OrderStatus) (source : Source) (reason : Text)
    (retcode : Option ℤ) : Method.Keeps P (move wanted now source reason retcode) := by
  intro o held
  unfold Method.left
  by_cases legal : wanted ∈ o.status.transitions
  · rw [exec_move_of_mem now source reason retcode legal]
    exact standing.moved o wanted now source reason retcode legal held
  · rw [exec_move_of_not_mem now source reason retcode legal]
    exact held

theorem keeps_annotation {rejectReason : ManagedOrder → Option Text}
    {errorCode : ManagedOrder → Option String} :
    Method.Keeps P (modify fun o =>
      { o with rejectReason := rejectReason o, errorCode := errorCode o } :
        Method Exn ManagedOrder PUnit) :=
  Method.Keeps.modify fun o held => standing.annotated o _ _ held

theorem keeps_fail (reason : Text) (code : String) : Method.Keeps P (fail now reason code) :=
  Method.Keeps.bind (keeps_move standing now _ _ _ _) fun _ =>
    keeps_annotation standing

theorem keeps_parkUnknown (reason : Text) : Method.Keeps P (parkUnknown now reason) := by
  refine Method.Keeps.bind (Method.Keeps.tryCatch (keeps_move standing now _ _ _ _) fun e => ?_)
    fun _ => keeps_annotation standing
  cases e with
  | illegalOrderTransition _ _ => exact Method.Keeps.pure _
  | fillError _ | orderRefused _ | reconciliationRequired _ | brokerError _ _ =>
      exact Method.Keeps.throw _
  | other _ _ => exact Method.Keeps.throw _

theorem keeps_record (report : FillReport) : Method.Keeps P (record report now) := by
  intro o held
  unfold Method.left
  generalize recorded : (record report now).exec o = out
  have outcome := record_cases report now o
  rw [recorded] at outcome
  cases outcome with
  | invalid reason refused | recorded f made known | overfilled f made fresh overfull => exact held
  | applied f made fresh fits legal time reason =>
    have new := (FillReport.make_eq made).2.2 ▸ fresh
    exact standing.moved _ _ _ _ _ _ legal (standing.filled o f fits new held)
  | stranded f made fresh fits illegal =>
    have new := (FillReport.make_eq made).2.2 ▸ fresh
    exact standing.filled o f fits new held

theorem keeps_discard_record (report : FillReport) :
    Method.Keeps P (discard (record report now)) := by
  intro o held
  unfold Method.left
  rw [Method.exec_discard]
  exact keeps_record standing now report o held

theorem keeps_applyVerdict (result : OrderResult) :
    Method.Keeps P (applyVerdict now result) := by
  unfold applyVerdict
  cases result.status with
  | unknown => exact keeps_parkUnknown standing now _
  | rejected =>
    refine Method.Keeps.bind (keeps_move standing now _ _ _ _) fun _ => ?_
    refine Method.Keeps.bind (keeps_move standing now _ _ _ _) fun _ => ?_
    exact keeps_annotation standing
  | accepted =>
    refine Method.Keeps.bind (keeps_move standing now _ _ _ _) fun _ => ?_
    refine Method.Keeps.bind (keeps_move standing now _ _ _ _) fun _ => ?_
    cases resultFill result now with
    | none => exact Method.Keeps.pure _
    | some report => exact keeps_discard_record standing now report

theorem keeps_submitBegin : Method.Keeps P (submitBegin now) := by
  refine Method.Keeps.bind Method.Keeps.get fun o => Method.Keeps.guard ?_
  refine Method.Keeps.ite ?_ (Method.Keeps.pure _)
  refine Method.Keeps.bind (keeps_move standing now _ _ _ _) fun _ => ?_
  exact keeps_annotation standing

theorem keeps_submitSpec (spec : Answer (Option SymbolInfo)) :
    Method.Keeps P (submitSpec now spec) := by
  refine Method.Keeps.bind Method.Keeps.get fun o => ?_
  cases spec with
  | error e => exact Method.Keeps.bind (keeps_fail standing now _ _) fun _ => Method.Keeps.pure _
  | ok info =>
    refine Method.Keeps.ite ?_ ?_
    · exact Method.Keeps.bind (keeps_move standing now _ _ _ _) fun _ => Method.Keeps.pure _
    · exact Method.Keeps.bind (keeps_fail standing now _ _) fun _ => Method.Keeps.pure _

theorem keeps_closeBegin (brokerPositionId : String) :
    Method.Keeps P (closeBegin now brokerPositionId) := by
  refine Method.Keeps.bind Method.Keeps.get fun o => Method.Keeps.guard (Method.Keeps.guard ?_)
  exact keeps_move standing now _ _ _ _

theorem keeps_applyExecutionReport (quantity price : Figure) (deal : Option String)
    (commission swap : ℚ) (fillSource : String) :
    Method.Keeps P
      (applyExecutionReport now quantity price deal commission swap fillSource) :=
  Method.Keeps.bind Method.Keeps.get fun _ =>
    Method.Keeps.guard (keeps_record standing now _)

theorem keeps_cancelBegin (reason : Text) : Method.Keeps P (cancelBegin now reason) := by
  refine Method.Keeps.bind Method.Keeps.get fun o => Method.Keeps.guard (Method.Keeps.guard ?_)
  refine Method.Keeps.bind (keeps_move standing now _ _ _ _) fun _ => ?_
  refine Method.Keeps.ite ?_ (Method.Keeps.pure _)
  exact Method.Keeps.bind (keeps_parkUnknown standing now _) fun _ => Method.Keeps.pure _

theorem keeps_cancelAnswer (answer : Answer OrderResult) :
    Method.Keeps P (cancelAnswer now answer) := by
  rcases answer with (_ | _ | _ | _ | _ | _) | result
  case ok =>
    cases verdict : result.status <;> simp only [cancelAnswer, verdict]
    · exact keeps_move standing now _ _ _ _
    · exact keeps_move standing now _ _ _ _
    · exact keeps_parkUnknown standing now _
  all_goals exact keeps_parkUnknown standing now _

theorem keeps_cancel (reason : Text) (answer : Answer OrderResult) :
    Method.Keeps P (cancel now reason answer) := by
  refine Method.Keeps.bind (keeps_cancelBegin standing now reason) fun id => ?_
  cases id with
  | none => exact Method.Keeps.pure _
  | some id => exact keeps_cancelAnswer standing now answer

theorem keeps_expire : Method.Keeps P (expire now) :=
  Method.Keeps.bind Method.Keeps.get fun _ => Method.Keeps.guard (keeps_move standing now _ _ _ _)

theorem keeps_settlePosition (found : BrokerPosition) :
    Method.Keeps P (settlePosition now found) := by
  refine Method.Keeps.bind (keeps_record standing now _) fun applied => ?_
  refine Method.Keeps.bind Method.Keeps.get fun o => ?_
  exact Method.Keeps.ite (keeps_move standing now _ _ _ _) (Method.Keeps.pure _)

theorem keeps_settleAbsent : Method.Keeps P (settleAbsent now) :=
  Method.Keeps.bind (keeps_move standing now _ _ _ _) fun _ =>
    keeps_annotation standing

theorem keeps_settle (openOrders : List BrokerOrder) (positions : List BrokerPosition)
    (working : ∀ found position, Method.Keeps P (settleOrder now found position)) :
    Method.Keeps P (settle now openOrders positions) := by
  refine Method.Keeps.bind Method.Keeps.get fun o => ?_
  refine Method.Keeps.ite (Method.Keeps.bind (keeps_move standing now _ _ _ _) fun _ => ?_) ?_
  all_goals
    cases o.matchOrder openOrders with
    | some found => exact working found _
    | none =>
      cases o.matchPosition positions with
      | some found => exact keeps_settlePosition standing now found
      | none => exact keeps_settleAbsent standing now

theorem keeps_reconcile (openOrders : Answer (List BrokerOrder))
    (positions : Answer (List BrokerPosition))
    (working : ∀ found position, Method.Keeps P (settleOrder now found position)) :
    Method.Keeps P (reconcile now openOrders positions) := by
  refine Method.Keeps.bind Method.Keeps.get fun o => ?_
  refine Method.Keeps.ite (Method.Keeps.pure _) ?_
  cases openOrders with
  | error e => exact Method.Keeps.throw _
  | ok openOrders =>
    cases positions with
    | error e => exact Method.Keeps.throw _
    | ok positions => exact keeps_settle standing now openOrders positions working

end Keeps

section Renamable

variable (standing : Standing P) (renamable : Renamable P) (now : Time)
include standing renamable

theorem keeps_applyAnswer (answer : Answer OrderResult) :
    Method.Keeps P (applyAnswer now answer) := by
  rcases answer with (_ | _ | _ | _ | _ | _) | result
  case ok =>
    intro o held
    show P ((applyResult now result).exec o).2
    rw [exec_applyResult]
    refine keeps_applyVerdict standing now result _ ?_
    unfold named
    split
    · exact renamable o result.orderId held
    · exact held
  case error.brokerError => exact keeps_fail standing now _ _
  all_goals exact keeps_parkUnknown standing now _

theorem keeps_submit (spec : Answer (Option SymbolInfo)) (answer : Answer OrderResult) :
    Method.Keeps P (submit now spec answer) := by
  refine Method.Keeps.bind (keeps_submitBegin standing now) fun goes => ?_
  refine Method.Keeps.ite ?_ (Method.Keeps.pure _)
  refine Method.Keeps.bind (keeps_submitSpec standing now spec) fun sends => ?_
  exact Method.Keeps.ite (keeps_applyAnswer standing renamable now answer) (Method.Keeps.pure _)

theorem keeps_settleOrder (found : BrokerOrder) (position : Option BrokerPosition) :
    Method.Keeps P (settleOrder now found position) := by
  refine Method.Keeps.bind (Method.Keeps.modify fun o held => renamable o _ held) fun _ => ?_
  exact Method.Keeps.bind Method.Keeps.get fun o => keeps_move standing now _ _ _ _

end Renamable

section Lasting

variable (lasting : Lasting P)
include lasting

theorem keeps_note {f : ManagedOrder → ManagedOrder} (same : ∀ o, Noted o (f o)) :
    Method.Keeps P (modify f : Method Exn ManagedOrder PUnit) :=
  Method.Keeps.modify fun o held => lasting.noted o (f o) (same o) held

theorem keeps_modifyLevels (now : Time) (approval : Approval) (stopLoss takeProfit : Option ℚ)
    (answer : Answer OrderResult) :
    Method.Keeps P (modifyLevels now approval stopLoss takeProfit answer) := by
  have parks : ∀ reason e, Method.Keeps P
      (do parkUnknown now reason; throw e : Method Exn ManagedOrder Unit) := fun reason e =>
    Method.Keeps.bind (keeps_parkUnknown lasting.standing now reason) fun _ => Method.Keeps.throw e
  refine Method.Keeps.bind (modifyBegin_keeps now approval) fun _ => ?_
  rcases answer with (_ | _ | _ | _ | _ | _) | result
  case ok =>
    cases verdict : result.status <;> simp only [modifyAnswer, verdict]
    · exact keeps_note lasting fun o => modified_noted o now approval _ _ result
    · exact Method.Keeps.throw _
    · exact parks _ _
  case error.brokerError => exact Method.Keeps.throw _
  all_goals exact parks _ _

theorem keeps_body (renamable : Renamable P) (c : OrderCall) : Method.Keeps P c.body := by
  cases c with
  | submit now spec answer => exact keeps_submit lasting.standing renamable now spec answer
  | close now brokerPositionId answer =>
    exact Method.Keeps.bind (keeps_closeBegin lasting.standing now brokerPositionId) fun _ =>
      keeps_applyAnswer lasting.standing renamable now answer
  | report now quantity price deal commission swap fillSource =>
    intro o held
    unfold Method.left OrderCall.body
    rw [Method.exec_discard]
    exact keeps_applyExecutionReport lasting.standing now quantity price deal commission swap
      fillSource o held
  | cancel now reason answer => exact keeps_cancel lasting.standing now reason answer
  | modify now approval stopLoss takeProfit answer =>
    exact keeps_modifyLevels lasting now approval stopLoss takeProfit answer
  | reconcile now openOrders positions =>
    exact keeps_reconcile lasting.standing now openOrders positions fun found position =>
      keeps_settleOrder lasting.standing renamable now found position
  | expire now => exact keeps_expire lasting.standing now

end Lasting

theorem SameOrder.refl (o : ManagedOrder) : SameOrder o o := ⟨rfl, rfl, rfl, rfl, rfl, rfl, rfl⟩

theorem SameOrder.trans {o p q : ManagedOrder} (first : SameOrder o p) (second : SameOrder p q) :
    SameOrder o q where
  id := second.id.trans first.id
  clientOrderId := second.clientOrderId.trans first.clientOrderId
  accountId := second.accountId.trans first.accountId
  symbol := second.symbol.trans first.symbol
  side := second.side.trans first.side
  quantity := second.quantity.trans first.quantity
  mode := second.mode.trans first.mode

theorem moved_sameOrder (o : ManagedOrder) (wanted : OrderStatus) (time : Time) (source : Source)
    (reason : Text) (retcode : Option ℤ) :
    SameOrder o (o.moved wanted time source reason retcode) := by
  cases wanted <;> exact ⟨rfl, rfl, rfl, rfl, rfl, rfl, rfl⟩

theorem stable_sameOrder (o : ManagedOrder) : Stable (SameOrder o) where
  moved o' wanted time source reason retcode _ same :=
    same.trans (moved_sameOrder o' wanted time source reason retcode)
  filled _ _ _ same := same.trans ⟨rfl, rfl, rfl, rfl, rfl, rfl, rfl⟩
  noted _ _ noted same := same.trans noted.toSameOrder

theorem renamable_sameOrder (o : ManagedOrder) : Renamable (SameOrder o) :=
  fun _ _ same => same.trans ⟨rfl, rfl, rfl, rfl, rfl, rfl, rfl⟩

theorem stable_begun : Stable fun o => o.status ≠ .intent where
  moved _ _ _ _ _ _ legal _ := by
    rw [moved_status]
    exact OrderStatus.ne_intent_of_mem_transitions legal
  filled _ _ _ begun := begun
  noted _ _ noted begun := by rwa [noted.status]

theorem renamable_begun : Renamable fun o => o.status ≠ .intent := fun _ _ begun => begun

theorem stable_recorded (f : FillRecord) : Stable fun o => f ∈ o.book.fills where
  moved _ _ _ _ _ _ _ recorded := by rwa [moved_book]
  filled _ _ _ recorded := List.mem_append_left _ recorded
  noted _ _ noted recorded := by rwa [noted.book]

theorem renamable_recorded (f : FillRecord) : Renamable fun o => f ∈ o.book.fills :=
  fun _ _ recorded => recorded

structure Continues (o o' : ManagedOrder) : Prop extends SameOrder o o' where
  createdAt : o'.createdAt = o.createdAt
  orderType : o'.orderType = o.orderType
  strategyId : o'.strategyId = o.strategyId
  botId : o'.botId = o.botId
  trail : o.transitions <+: o'.transitions
  fills : ∃ added, o'.book.fills = o.book.fills ++ added ∧
    ∀ f ∈ added, o.book.alreadyRecorded f.brokerDealId = false

theorem not_alreadyRecorded_of_append {b c : FillBook} {added : List FillRecord}
    (grown : c.fills = b.fills ++ added) {deal : Option String}
    (fresh : c.alreadyRecorded deal = false) : b.alreadyRecorded deal = false := by
  rw [Bool.eq_false_iff] at fresh ⊢
  intro known
  obtain ⟨id, named, f, mem, same⟩ := FillBook.alreadyRecorded_iff.mp known
  refine fresh (FillBook.alreadyRecorded_iff.mpr ⟨id, named, f, ?_, same⟩)
  rw [grown]
  exact List.mem_append_left _ mem

theorem Continues.of_book {o o' : ManagedOrder} (same : SameOrder o o')
    (createdAt : o'.createdAt = o.createdAt) (orderType : o'.orderType = o.orderType)
    (strategyId : o'.strategyId = o.strategyId) (botId : o'.botId = o.botId)
    (trail : o.transitions <+: o'.transitions) (book : o'.book = o.book) : Continues o o' :=
  ⟨same, createdAt, orderType, strategyId, botId, trail, [],
    by rw [book, List.append_nil], fun _ mem => absurd mem List.not_mem_nil⟩

theorem Continues.refl (o : ManagedOrder) : Continues o o :=
  .of_book (.refl o) rfl rfl rfl rfl (List.prefix_refl _) rfl

theorem Continues.trans {o p q : ManagedOrder} (first : Continues o p) (second : Continues p q) :
    Continues o q where
  toSameOrder := first.toSameOrder.trans second.toSameOrder
  createdAt := second.createdAt.trans first.createdAt
  orderType := second.orderType.trans first.orderType
  strategyId := second.strategyId.trans first.strategyId
  botId := second.botId.trans first.botId
  trail := first.trail.trans second.trail
  fills := by
    obtain ⟨added, grown, fresh⟩ := first.fills
    obtain ⟨added', grown', fresh'⟩ := second.fills
    refine ⟨added ++ added', by rw [grown', grown, List.append_assoc], fun f mem => ?_⟩
    rcases List.mem_append.mp mem with mem | mem
    · exact fresh f mem
    · exact not_alreadyRecorded_of_append grown (fresh' f mem)

theorem Noted.continues {o o' : ManagedOrder} (noted : Noted o o') : Continues o o' :=
  .of_book noted.toSameOrder noted.createdAt noted.orderType noted.strategyId noted.botId
    noted.transitions noted.book

theorem moved_continues (o : ManagedOrder) (wanted : OrderStatus) (time : Time)
    (source : Source) (reason : Text) (retcode : Option ℤ) :
    Continues o (o.moved wanted time source reason retcode) := by
  refine .of_book (moved_sameOrder o wanted time source reason retcode) ?_ ?_ ?_ ?_ ?_ ?_
  all_goals unfold moved
  all_goals cases wanted <;> first | rfl | exact List.prefix_append _ _

theorem withFill_continues (o : ManagedOrder) {f : FillRecord}
    (fits : f.quantity ≤ o.book.remainingQuantity)
    (fresh : o.book.alreadyRecorded f.brokerDealId = false) : Continues o (o.withFill f fits) := by
  refine ⟨⟨rfl, rfl, rfl, rfl, rfl, rfl, rfl⟩, rfl, rfl, rfl, rfl, List.prefix_refl _, [f], rfl,
    fun g mem => ?_⟩
  rw [List.mem_singleton.mp mem]
  exact fresh

theorem lasting_continues (o : ManagedOrder) : Lasting (Continues o) where
  moved p wanted time source reason retcode _ further :=
    further.trans (moved_continues p wanted time source reason retcode)
  filled p _ fits fresh further := further.trans (withFill_continues p fits fresh)
  noted _ _ noted further := further.trans noted.continues

theorem standing_continues (o : ManagedOrder) : Standing (Continues o) :=
  (lasting_continues o).standing

theorem renamable_continues (o : ManagedOrder) : Renamable (Continues o) := by
  intro p brokerOrderId further
  refine further.trans (.of_book ⟨rfl, rfl, rfl, rfl, rfl, rfl, rfl⟩ rfl rfl rfl rfl ?_ rfl)
  exact List.prefix_refl _

theorem stable_brokerOrderId (b : Option String) : Stable fun o => o.brokerOrderId = b where
  moved _ _ _ _ _ _ _ named := by rwa [moved_brokerOrderId]
  filled _ _ _ named := named
  noted _ _ noted named := by rwa [noted.brokerOrderId]

end ManagedOrder

end TradeResearch.Oms
