import TradeResearch.Brokers.Mt5
import TradeResearch.Risk.Decision

/-!
# The order lifecycle manager

`backend/app/oms/service.py`. Every method that talks to the venue is cut at its awaits: the part
before a call, and the part that reads the call's answer, each a `Method` over the order. The
sequential method is their composition, with the answers it awaited as arguments. What the order
manager keeps beside the orders themselves (counters, event queue, specification cache, the
index by venue id nothing reads) is left out.
-/

namespace TradeResearch.Oms

open Brokers Risk

abbrev platformMagic : ℤ := Mt5.magic

namespace ManagedOrder

def fail (now : Time) (reason : Text) (code : String) : Method Exn ManagedOrder Unit := do
  move .failed now .broker (Text.take 500 reason) none
  modify fun o => { o with rejectReason := some (Text.take 500 reason), errorCode := some code }

def tryMove (wanted : OrderStatus) (now : Time) (source : Source) (reason : Text) :
    Method Exn ManagedOrder Unit :=
  tryCatch (move wanted now source reason none) fun
    | .illegalOrderTransition _ _ => pure ()
    | e => throw e

def parkUnknown (now : Time) (reason : Text) : Method Exn ManagedOrder Unit := do
  tryMove .unknown now .broker (Text.take 500 reason)
  modify fun o =>
    { o with
      errorCode := if truthy o.errorCode then o.errorCode else some "UNKNOWN_VENUE_STATE" }

def record (report : FillReport) (now : Time) : Method Exn ManagedOrder Bool :=
  match report.make with
  | .error e => throw e
  | .ok fill => recordFill fill now .broker

def resultFill (result : OrderResult) (now : Time) : Option FillReport :=
  match result.filledVolume, result.fillPrice with
  | some quantity, some price => some
    { quantity
      price
      time := result.filledAt.getD now
      fillSource := if result.fillSource = "" then "broker" else result.fillSource
      brokerDealId :=
        if truthy result.dealId then result.dealId
        else if truthy result.positionId then result.positionId
        else result.orderId
      commission := 0
      swap := 0
      slippagePoints := none
      realizedPnl := result.realizedPnl }
  | _, _ => none

def applyVerdict (now : Time) (result : OrderResult) : Method Exn ManagedOrder Unit :=
  match result.status with
  | .unknown => parkUnknown now (result.detail.orElse (Text.lit "the venue's answer was unclear"))
  | .rejected => do
    move .submitted now .pipeline (Text.lit "transmitted") result.retcode
    move .rejected now .broker (result.detail.take 500) result.retcode
    modify fun o =>
      { o with
        rejectReason := some (result.detail.take 500)
        errorCode := result.retcode.map fun code => toString code }
  | .accepted => do
    move .submitted now .pipeline (Text.lit "transmitted") result.retcode
    move .accepted now .broker ((result.detail.take 500).orElse (Text.lit "accepted by the venue"))
      result.retcode
    match resultFill result now with
    | some report => discard (record report now)
    | none => pure ()

def applyResult (now : Time) (result : OrderResult) : Method Exn ManagedOrder Unit := do
  if truthy result.orderId then
    modify fun o => { o with brokerOrderId := result.orderId }
  applyVerdict now result

def applyAnswer (now : Time) : Answer OrderResult → Method Exn ManagedOrder Unit
  | .error (.brokerError type reason) =>
    fail now (Exn.brokerError type reason).describe "BROKER_ERROR"
  | .error e => parkUnknown now e.describe
  | .ok result => applyResult now result

def request (o : ManagedOrder) : OrderRequest :=
  { symbol := o.symbol
    side := o.side
    volume := o.quantity
    stopLoss := o.stopLoss
    takeProfit := o.takeProfit
    comment := Text.take 31 (Text.lit ("oms:" ++ o.clientOrderId))
    intentId := o.clientOrderId }

def submitBegin (now : Time) : Method Exn ManagedOrder Bool := do
  let o ← get
  if o.status ≠ .intent then
    throw (.orderRefused
      (Text.lit s!"only an order in `intent` can be submitted, not one in `{o.status.name}`"))
  if o.expiresAt.any fun t => decide (t ≤ now) then
    move .failed now .expiry
      (Text.lit "the order expired before it was sent; nothing was transmitted") none
    modify fun o => { o with errorCode := some "EXPIRED_BEFORE_SUBMIT" }
    return false
  return true

def submitSpec (now : Time) (spec : Answer (Option SymbolInfo)) :
    Method Exn ManagedOrder Bool := do
  let o ← get
  match spec with
  | .error exc => do
    fail now
      (Text.lit s!"the venue's contract terms for {o.symbol} could not be read (" ++
        exc.describe ++ Text.lit ("); refusing rather than sending an order priced from a guess"))
      "VENUE_SPEC_UNREADABLE"
    return false
  | .ok info =>
    if (validateOrder o.request info).isEmpty then
      move .submitting now .pipeline
        (Text.lit "persisted before transmission; a crash here is reconcilable") none
      return true
    else
      fail now (Text.join "; " (validateOrder o.request info)) "VENUE_SPEC_REFUSED"
      return false

def submit (now : Time) (spec : Answer (Option SymbolInfo)) (answer : Answer OrderResult) :
    Method Exn ManagedOrder Unit := do
  if ← submitBegin now then
    if ← submitSpec now spec then
      applyAnswer now answer

def closeBegin (now : Time) (brokerPositionId : String) : Method Exn ManagedOrder Unit := do
  let o ← get
  if o.status ≠ .intent then
    throw (.orderRefused
      (Text.lit s!"only an order in `intent` can be sent, not one in `{o.status.name}`"))
  if brokerPositionId = "" then
    throw (.orderRefused
      (Text.lit ("a close needs the venue's own position id; `id` is ours and the venue " ++
        "has never heard of it")))
  move .submitting now .pipeline
    (Text.lit "close persisted before transmission; a crash here is reconcilable") none

def close (now : Time) (brokerPositionId : String) (answer : Answer OrderResult) :
    Method Exn ManagedOrder Unit := do
  closeBegin now brokerPositionId
  applyAnswer now answer

def executionReport (now : Time) (quantity price : Figure) (brokerDealId : Option String)
    (commission swap : ℚ) (fillSource : String) : FillReport :=
  { quantity, price, time := now, fillSource, brokerDealId, commission, swap,
    slippagePoints := none, realizedPnl := none }

def applyExecutionReport (now : Time) (quantity price : Figure) (brokerDealId : Option String)
    (commission swap : ℚ) (fillSource : String) : Method Exn ManagedOrder Bool := do
  let o ← get
  if o.status = .intent ∨ o.status = .submitting then
    throw (.orderRefused
      (Text.lit (s!"an order in `{o.status.name}` has not been acknowledged; a fill for it " ++
        "is a disagreement with the venue and must be reconciled, not applied")))
  record (executionReport now quantity price brokerDealId commission swap fillSource) now

def cancelBegin (now : Time) (reason : Text) : Method Exn ManagedOrder (Option String) := do
  let o ← get
  if o.terminal then
    throw (.orderRefused
      (Text.lit (s!"order {o.id} is {o.status.name} and cannot be cancelled; a " ++
        "terminal order is not active")))
  if o.needsReconciliation then
    throw (.reconciliationRequired
      (Text.lit (s!"order {o.id} is `{o.status.name}`: what the venue holds is not " ++
        "known, so a cancel would be a guess. Reconcile first")))
  move .cancelRequested now .operator ((reason.take 500).orElse (Text.lit "cancel requested")) none
  if o.brokerOrderId.isNone then
    parkUnknown now (Text.lit "no broker order id; the venue cannot be asked about this order")
  return o.brokerOrderId

def cancelAnswer (now : Time) : Answer OrderResult → Method Exn ManagedOrder Unit
  | .error (.brokerError _ reason) => parkUnknown now (Text.lit "cancel failed: " ++ reason)
  | .error e => parkUnknown now (Text.lit "cancel outcome unclear: " ++ e.message)
  | .ok result =>
    match result.status with
    | .unknown => parkUnknown now (result.detail.orElse (Text.lit "cancel outcome unclear"))
    | .rejected =>
      move .accepted now .broker
        (Text.take 500 (Text.lit "the venue refused the cancel: " ++ result.detail)) result.retcode
    | .accepted =>
      move .cancelled now .broker
        ((result.detail.take 500).orElse (Text.lit "cancelled at the venue")) result.retcode

def cancel (now : Time) (reason : Text) (answer : Answer OrderResult) :
    Method Exn ManagedOrder Unit := do
  match ← cancelBegin now reason with
  | none => pure ()
  | some _ => cancelAnswer now answer

def validateApproval {σ : Type} (approval : Approval) (now : Time) : Method Exn σ Unit := do
  if !approval.approved then
    throw (.orderRefused
      (Text.lit (s!"the approval carries a {approval.decision} verdict, not an " ++
        "approval; refusing to create an order from it")))
  if approval.expired now then
    throw (.orderRefused
      (Text.lit "the approval expired at " ++ Text.time? approval.expiresAt ++
        Text.lit ("; risk must evaluate again, because the portfolio it was computed against " ++
          "has moved")))

def validateBinding {σ : Type} (approval : Approval) (accountId orderType : String) (mode : Mode) :
    Method Exn σ Unit :=
  if approval.bindsOrder accountId orderType mode then pure ()
  else throw (.orderRefused
    (Text.lit ("the approval does not bind to this order. It was issued for account '" ++
      approval.proposal.accountId.getD "None" ++ "' as a market order in '" ++
      approval.proposal.mode.name ++ "'; this order is account '" ++ accountId ++ "', a '" ++
      orderType ++ "' order in '" ++ mode.name ++ "'. A change to the account, order type, " ++
      "mode, symbol, side, volume, price, stop, target or strategy requires a fresh risk " ++
      "evaluation.")))

def modifyBegin (now : Time) (approval : Approval) : Method Exn ManagedOrder Unit := do
  let o ← get
  if o.terminal then
    throw (.orderRefused
      (Text.lit (s!"order {o.id} is {o.status.name}; a filled or cancelled order cannot " ++
        "be modified as if it were active")))
  if o.needsReconciliation then
    throw (.reconciliationRequired
      (Text.lit s!"order {o.id} is `{o.status.name}`; reconcile before modifying"))
  validateApproval approval now
  validateBinding approval o.accountId o.orderType o.mode
  if approval.approvedVolume ≠ some o.quantity then
    throw (.orderRefused
      (Text.lit ("the approval is for a different volume; a size change is a different " ++
        "order, not a modification")))
  if o.brokerOrderId.isNone then
    throw (.orderRefused (Text.lit "the order has no broker id; there is nothing to modify"))

def modified (o : ManagedOrder) (now : Time) (approval : Approval) (stopLoss takeProfit : Option ℚ)
    (result : OrderResult) : ManagedOrder :=
  let entry : OrderTransition :=
    { time := now, previous := o.status, new := o.status, source := .operator,
      reason := Text.take 500 (Text.lit "modified: " ++ result.detail),
      brokerOrderId := o.brokerOrderId, retcode := result.retcode }
  { o with
    stopLoss := stopLoss.or o.stopLoss
    takeProfit := takeProfit.or o.takeProfit
    riskDecisionId := some approval.decisionId
    transitions := o.transitions ++ [entry] }

def modifyAnswer (now : Time) (approval : Approval) (stopLoss takeProfit : Option ℚ) :
    Answer OrderResult → Method Exn ManagedOrder Unit
  | .error (.brokerError _ reason) =>
    throw (.orderRefused (Text.lit "the venue refused the modification: " ++ reason))
  | .error e => do
    parkUnknown now (Text.lit "modify outcome unclear: " ++ e.message)
    throw (.reconciliationRequired
      (Text.lit "the modification's outcome is unknown: " ++ e.message ++
        Text.lit ". The order is parked"))
  | .ok result =>
    match result.status with
    | .unknown => do
      parkUnknown now (result.detail.orElse (Text.lit "modify outcome unclear"))
      throw (.reconciliationRequired
        (Text.lit "the venue's answer to the modification was unclear; the order is parked"))
    | .rejected =>
      throw (.orderRefused (Text.lit "the venue refused the modification: " ++ result.detail))
    | .accepted => modify fun o => o.modified now approval stopLoss takeProfit result

def modifyLevels (now : Time) (approval : Approval) (stopLoss takeProfit : Option ℚ)
    (answer : Answer OrderResult) : Method Exn ManagedOrder Unit := do
  modifyBegin now approval
  modifyAnswer now approval stopLoss takeProfit answer

def matchOrder (o : ManagedOrder) (venueOrders : List BrokerOrder) : Option BrokerOrder :=
  venueOrders.find? fun candidate =>
    truthy o.brokerOrderId && decide (some candidate.orderId = o.brokerOrderId)

def wantedSide (o : ManagedOrder) : String := if o.side = "buy" then "long" else "short"

def eligible (o : ManagedOrder) (candidate : BrokerPosition) : Bool :=
  decide (candidate.symbol = o.symbol) && decide (candidate.side = o.wantedSide) &&
    (candidate.magic.all fun m => decide (m = platformMagic))

def matchPosition (o : ManagedOrder) (positions : List BrokerPosition) : Option BrokerPosition :=
  if truthy o.brokerOrderId then
    positions.find? fun candidate => decide (some candidate.positionId = o.brokerOrderId)
  else positions.find? o.eligible

def positionFill (p : BrokerPosition) : FillReport :=
  { quantity := p.volume
    price := p.entryPrice
    time := p.openedAt
    fillSource := "broker"
    brokerDealId := some p.positionId
    commission := 0
    swap := 0
    slippagePoints := none
    realizedPnl := none }

def settleOrder (now : Time) (found : BrokerOrder) (position : Option BrokerPosition) :
    Method Exn ManagedOrder Unit := do
  modify fun o =>
    { o with
      brokerOrderId := if truthy o.brokerOrderId then o.brokerOrderId else some found.orderId }
  let o ← get
  let wanted :=
    if !o.book.fills.isEmpty then OrderStatus.partiallyFilled
    else if position.isSome then .filled
    else .accepted
  move wanted now .reconciliation
    (Text.lit s!"the venue holds order {found.orderId} in state {found.state}") none

def settlePosition (now : Time) (found : BrokerPosition) : Method Exn ManagedOrder Unit := do
  let applied ← record (positionFill found) now
  let o ← get
  if !applied && !o.terminal then
    move .filled now .reconciliation
      (Text.lit s!"the venue holds position {found.positionId}") none

def settleAbsent (now : Time) : Method Exn ManagedOrder Unit := do
  move .failed now .reconciliation
    (Text.lit ("the venue holds no order and no position for this intent; it never landed")) none
  modify fun o => { o with errorCode := some "NOT_AT_VENUE" }

def settle (now : Time) (openOrders : List BrokerOrder) (positions : List BrokerPosition) :
    Method Exn ManagedOrder Unit := do
  let o ← get
  if o.status = .submitting then
    move .unknown now .recovery (Text.lit "found mid-submission after a restart") none
  match o.matchOrder openOrders with
  | some found => settleOrder now found (o.matchPosition positions)
  | none =>
    match o.matchPosition positions with
    | some found => settlePosition now found
    | none => settleAbsent now

def unreadable (e : Exn) : Exn :=
  .reconciliationRequired (Text.lit "the venue could not be read: " ++ e.message)

def reconcile (now : Time) (openOrders : Answer (List BrokerOrder))
    (positions : Answer (List BrokerPosition)) : Method Exn ManagedOrder Unit := do
  let o ← get
  if !o.needsReconciliation then
    return
  match openOrders with
  | .error e => throw (unreadable e)
  | .ok openOrders =>
    match positions with
    | .error e => throw (unreadable e)
    | .ok positions => settle now openOrders positions

def expire (now : Time) : Method Exn ManagedOrder Unit := do
  let o ← get
  if o.needsReconciliation then
    throw (.reconciliationRequired
      (Text.lit s!"order {o.id} is `{o.status.name}`; expiry cannot be assumed"))
  move .expired now .expiry (Text.lit "expired at " ++ Text.time? o.expiresAt) none

end ManagedOrder

structure OrderManager where
  mode : Mode
  broker : Option String
  orders : String → Option ManagedOrder
  byIntent : String → Option String

structure Submission where
  orderId : String
  duplicate : Bool

structure CreateArgs where
  intentId : String
  accountId : String
  orderId : String
  orderType : String
  timeInForce : String
  botId : Option String
  expiresAt : Option Time

namespace OrderManager

def fresh (mode : Mode) (broker : Option String) : OrderManager :=
  { mode, broker, orders := fun _ => none, byIntent := fun _ => none }

def orderFor (m : OrderManager) (intentId : String) : Option ManagedOrder :=
  (m.byIntent intentId).bind m.orders

def put (m : OrderManager) (o : ManagedOrder) : OrderManager :=
  { m with orders := Function.update m.orders o.id (some o) }

def register (m : OrderManager) (o : ManagedOrder) : OrderManager :=
  { m.put o with byIntent := Function.update m.byIntent o.clientOrderId (some o.id) }

def newOrder (m : OrderManager) (approval : Approval) (args : CreateArgs) (volume : ℚ)
    (positive : 0 < volume) (now : Time) : ManagedOrder :=
  { id := args.orderId
    clientOrderId := args.intentId
    accountId := args.accountId
    symbol := approval.proposal.symbol
    side := approval.proposal.side
    quantity := volume
    mode := m.mode
    createdAt := now
    orderType := args.orderType
    timeInForce := args.timeInForce
    status := .intent
    brokerOrderId := none
    broker := m.broker
    requestedPrice := approval.proposal.entryPrice
    stopLoss := approval.proposal.stopLoss
    takeProfit := approval.proposal.takeProfit
    signalId := approval.proposal.signalId
    strategyId := approval.proposal.strategyId
    botId := args.botId
    riskDecisionId := some approval.decisionId
    expiresAt := args.expiresAt
    submittedAt := none
    acknowledgedAt := none
    filledAt := none
    cancelledAt := none
    rejectReason := none
    errorCode := none
    transitions := []
    book := FillBook.empty volume positive
    book_requested := rfl }

def create (approval : Approval) (args : CreateArgs) (now : Time) :
    Method Exn OrderManager Submission := do
  ManagedOrder.validateApproval approval now
  let m ← get
  match m.orderFor args.intentId with
  | some existing => return ⟨existing.id, true⟩
  | none =>
    if approval.proposal.mode ≠ m.mode then
      throw (.orderRefused
        (Text.lit ("the approval was evaluated for " ++ approval.proposal.mode.name ++
          " and this manager runs " ++ m.mode.name ++
          "; refusing rather than executing a decision made about a different execution " ++
          "environment")))
    if args.orderType ∉ ["market", "limit", "stop"] then
      throw (.orderRefused (Text.lit s!"unsupported order type '{args.orderType}'"))
    if args.orderType ∈ ["limit", "stop"] ∧ approval.proposal.entryPrice.isNone then
      throw (.orderRefused
        (Text.lit s!"a {args.orderType} order needs a price and none was given"))
    if args.timeInForce ∉ ["gtc", "ioc", "fok", "day"] then
      throw (.orderRefused (Text.lit s!"unsupported time in force '{args.timeInForce}'"))
    ManagedOrder.validateBinding approval args.accountId args.orderType m.mode
    match approval.approvedVolume with
    | none => throw (.orderRefused (noVolume none))
    | some volume =>
      if positive : 0 < volume then
        set (m.register (m.newOrder approval args volume positive now))
        return ⟨args.orderId, false⟩
      else throw (.orderRefused (noVolume (some volume)))
where
  /-- The refusal of an approval with nothing to execute. -/
  noVolume (volume : Option ℚ) : Text :=
    Text.lit "the approval carries volume " ++ Text.num? volume ++
      Text.lit "; there is no position sizing result to execute"

def discardOrder (o : ManagedOrder) : Method Exn OrderManager Unit := do
  if o.status ≠ .intent ∨ truthy o.brokerOrderId then
    throw (.orderRefused
      (Text.lit (s!"order {o.id} is `{o.status.name}` and cannot be discarded; only an " ++
        "order that has never been transmitted may be forgotten, because the " ++
        "venue may be holding anything else")))
  modify fun m =>
    { m with
      orders := Function.update m.orders o.id none
      byIntent :=
        if m.byIntent o.clientOrderId = some o.id then
          Function.update m.byIntent o.clientOrderId none
        else m.byIntent }

def resume (m : OrderManager) (orders : List ManagedOrder) : OrderManager :=
  orders.foldl register m

def guardResend (m : OrderManager) (intentId : String) : Except Exn Unit :=
  match m.orderFor intentId with
  | none => .ok ()
  | some previous =>
    if previous.needsReconciliation then
      .error (.reconciliationRequired
        (Text.lit (s!"intent {intentId} has an order in `{previous.status.name}`; the venue may " ++
          "be holding it. Reconcile before sending anything for this intent — " ++
          "retrying an uncertain submission is how one signal becomes two positions")))
    else if !previous.terminal then
      .error (.orderRefused
        (Text.lit s!"intent {intentId} already has a live order in `{previous.status.name}`"))
    else if !previous.status.canResend then
      .error (.orderRefused
        (Text.lit (s!"intent {intentId} already resolved as `{previous.status.name}`; a new " ++
          "order for it would be a second order for one signal")))
    else .ok ()

end OrderManager

end TradeResearch.Oms
