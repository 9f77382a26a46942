import TradeResearch.Positions.Executor
import TradeResearch.Positions.Policies

/-!
# The position manager

`PositionManager` of `backend/app/positions/manager.py`, over one row: a pass moves the stop to the
most protective of the proposals, decides, and books what the venue confirms. The answer of the
executor is an argument, and the entries of `position_events` are kept.

* `PositionRow.process` is a pass and `PositionRow.closeNow` a close its caller decided.
* `PositionRow.act_cases` says what an answer does to the row; `process_cases` adds the stop.
-/

namespace TradeResearch.Positions

open Oms

def PositionStatus.name : PositionStatus → String
  | opening => "opening"
  | .open => "open"
  | partiallyClosed => "partially_closed"
  | closing => "closing"
  | closed => "closed"
  | unknown => "unknown"
  | reconciling => "reconciling"

def PositionStatus.skipped : PositionStatus → Option String
  | .open => none
  | partiallyClosed => none
  | unknown => some "status is unknown; awaiting reconciliation"
  | reconciling => some "status is reconciling; a sweep is settling it against the venue"
  | closing => some "status is closing; a close is in flight and has not been confirmed"
  | opening => some "status is opening; no fill has confirmed this position exists"
  | closed => some "status is closed"

def PositionRow.view (row : PositionRow) (floatingPnl : Option ℚ) (symbolCode : Option String)
    (quantityExponent : ℤ) : PositionView :=
  { id := row.id
    symbol := symbolCode.getD ""
    side := row.side
    quantity := row.quantity
    quantityExponent
    entryPrice := row.entryPrice
    openedAt := row.openedAt
    mode := row.mode
    stopLoss := row.stopLoss
    takeProfit := row.takeProfit
    extremePrice := none
    floatingPnl
    strategyVersionId := none
    accountId := if truthy row.brokerAccountId then row.brokerAccountId else row.paperAccountId
    brokerPositionId := row.brokerPositionId
    initialQuantity := some (if row.initialQuantity = 0 then row.quantity else row.initialQuantity)
    closedQuantity := row.closedQuantity
    brokerStopLoss := row.brokerStopLoss
    brokerTakeProfit := row.brokerTakeProfit }

structure StopProposal where
  modification : StopModification
  policy : String

def better (position : PositionView) (market : MarketState) (best : Option StopProposal)
    (policy : ExitPolicy) : Option StopProposal :=
  match policy.proposedStop position market with
  | none => best
  | some modification =>
    match best with
    | none => some ⟨modification, policy.name⟩
    | some standing =>
      if position.side.Tighter modification.newStop standing.modification.newStop then
        some ⟨modification, policy.name⟩
      else some standing

def PolicySet.bestStop (set : PolicySet) (position : PositionView) (market : MarketState) :
    Option StopProposal :=
  set.policies.foldl (better position market) none

structure BookedClose where
  reason : ExitReason
  fillPrice : ℚ
  referencePrice : ℚ
  fillSource : String
  /-- The venue supplied `realized_pnl`. -/
  reported : Bool
  brokerDealId : Option String
  detail : Text
  closedQuantity : ℚ
  remainingQuantity : ℚ
  realizedPnl : Option ℚ

inductive PassEvent where
  | stopModified (proposal : StopProposal)
  | protectionMismatch (detail : Text) (intended held : Option ℚ)
  | exitDecided (decision : ExitDecision) (mode : Mode) (byCaller : Bool)
  | partiallyClosed (close : BookedClose)
  | closed (close : BookedClose)
  | closeUnknown (reason : ExitReason) (detail : Text)
  | closeRejected (reason : ExitReason) (detail : Text)

structure PassRecord where
  event : PassEvent
  occurredAt : Time

structure ManagedResult where
  positionId : String
  decision : Option ExitDecision := none
  outcome : Option CloseOutcome := none
  modification : Option StopProposal := none
  skipped : Option String := none

namespace PositionRow

def closedNow (row : PositionRow) (decision : ExitDecision) : ℚ :=
  if row.quantity < decision.quantity.getD row.quantity then row.quantity
  else decision.quantity.getD row.quantity

def booked (row : PositionRow) (fill closedNow : ℚ) (outcome : CloseOutcome) : Option ℚ :=
  match outcome.realizedPnl with
  | some pnl => some pnl
  | none =>
    if row.mode = .paper then some (row.side.gained row.entryPrice fill * closedNow) else none

def book (row : PositionRow) (decision : ExitDecision) (outcome : CloseOutcome) (fill : ℚ) :
    PositionRow :=
  let closedNow := row.closedNow decision
  let remaining := row.quantity - closedNow
  { row with
    initialQuantity :=
      if row.initialQuantity = 0 then row.quantity + row.closedQuantity else row.initialQuantity
    realizedPnl :=
      match row.booked fill closedNow outcome with
      | some pnl => some (row.realizedPnl.getD 0 + pnl)
      | none => row.realizedPnl
    closedQuantity := row.closedQuantity + closedNow
    quantity := remaining
    status := if remaining ≤ 0 then .closed else .partiallyClosed
    closedAt :=
      if remaining ≤ 0 then some (outcome.closedAt.getD decision.decidedAt) else row.closedAt }

def bookedClose (row : PositionRow) (position : PositionView) (decision : ExitDecision)
    (outcome : CloseOutcome) (fill : ℚ) : PassEvent :=
  let close : BookedClose :=
    { reason := decision.reason
      fillPrice := fill
      referencePrice := decision.referencePrice
      fillSource := outcome.fillSource
      reported := outcome.realizedPnl.isSome
      brokerDealId := outcome.brokerDealId
      detail := outcome.detail
      closedQuantity := (decision.quantity.filter (· ≠ 0)).getD position.quantity
      remainingQuantity := row.quantity
      realizedPnl := row.realizedPnl }
  if row.status = .partiallyClosed then .partiallyClosed close else .closed close

def act (row : PositionRow) (position : PositionView) (decision : ExitDecision)
    (outcome : CloseOutcome) : PositionRow × PassRecord × CloseOutcome :=
  match outcome.status, outcome.fillPrice with
  | .confirmed, some fill =>
    let row := row.book decision outcome fill
    (row, ⟨row.bookedClose position decision outcome fill,
      outcome.closedAt.getD decision.decidedAt⟩, outcome)
  | .confirmed, none =>
    ({ row with status := .unknown },
      ⟨.closeUnknown decision.reason
        (Text.lit "venue reported confirmed with no fill price"), decision.decidedAt⟩,
      { status := .unknown
        detail := Text.lit "confirmed without a fill price; treated as unknown"
        fillSource := outcome.fillSource })
  | .unknown, _ =>
    ({ row with status := .unknown },
      ⟨.closeUnknown decision.reason outcome.detail, decision.decidedAt⟩, outcome)
  | .rejected, _ =>
    (row, ⟨.closeRejected decision.reason outcome.detail, decision.decidedAt⟩, outcome)

end PositionRow

structure Pass where
  policies : PolicySet
  market : MarketState
  context : RiskContext
  floatingPnl : Option ℚ
  symbolCode : Option String
  quantityExponent : ℤ
  outcome : CloseOutcome

namespace PositionRow

def withStop (row : PositionRow) : Option StopProposal → PositionRow
  | none => row
  | some proposal => { row with stopLoss := some proposal.modification.newStop }

def mismatch (position : PositionView) (market : MarketState) : List PassRecord :=
  match position.protectionGap with
  | none => []
  | some gap =>
    [⟨.protectionMismatch gap position.stopLoss position.brokerStopLoss, market.asOf⟩]

def process (row : PositionRow) (pass : Pass) : PositionRow × List PassRecord × ManagedResult :=
  match row.status.skipped with
  | some why => (row, [], { positionId := row.id, skipped := some why })
  | none =>
    let position := row.view pass.floatingPnl pass.symbolCode pass.quantityExponent
    let modification := pass.policies.bestStop position pass.market
    let row := row.withStop modification
    let position := { position with stopLoss := row.stopLoss }
    let moved := modification.toList.map fun m => ⟨.stopModified m, m.modification.at_⟩
    let recorded := moved ++ mismatch position pass.market
    match pass.policies.decide position pass.market pass.context with
    | none => (row, recorded, { positionId := row.id, modification })
    | some decision =>
      let (row, entry, outcome) := row.act position decision pass.outcome
      (row, recorded ++ [⟨.exitDecided decision row.mode false, decision.decidedAt⟩, entry],
        { positionId := row.id, decision := some decision, outcome := some outcome, modification })

def closeNow (row : PositionRow) (symbolCode : Option String) (quantityExponent : ℤ)
    (decision : ExitDecision) (outcome : CloseOutcome) :
    PositionRow × List PassRecord × ManagedResult :=
  let (row', entry, outcome) :=
    row.act (row.view none symbolCode quantityExponent) decision outcome
  (row', [⟨.exitDecided decision row.mode true, decision.decidedAt⟩, entry],
    { positionId := row.id, decision := some decision, outcome := some outcome })

inductive ActCase (row : PositionRow) (decision : ExitDecision) (outcome : CloseOutcome) :
    PositionRow → Prop
  | booked (fill : ℚ) (confirmed : outcome.status = .confirmed)
      (filled : outcome.fillPrice = some fill) :
    ActCase row decision outcome (row.book decision outcome fill)
  | parked (unclear : outcome.status ≠ .confirmed ∨ outcome.fillPrice = none) :
    ActCase row decision outcome { row with status := .unknown }
  | refused (unclear : outcome.status ≠ .confirmed ∨ outcome.fillPrice = none) :
    ActCase row decision outcome row

theorem act_cases (row : PositionRow) (position : PositionView) (decision : ExitDecision)
    (outcome : CloseOutcome) :
    ActCase row decision outcome (row.act position decision outcome).1 := by
  unfold act
  cases status : outcome.status with
  | confirmed =>
    cases filled : outcome.fillPrice with
    | some fill => exact .booked fill status filled
    | none => exact .parked (.inr filled)
  | unknown => exact .parked (.inl (by rw [status]; decide))
  | rejected => exact .refused (.inl (by rw [status]; decide))

inductive ProcessCase (row : PositionRow) (pass : Pass) : PositionRow → Prop
  | skipped : ProcessCase row pass row
  | held (managed : row.status.skipped = none) :
    ProcessCase row pass
      (row.withStop (pass.policies.bestStop
        (row.view pass.floatingPnl pass.symbolCode pass.quantityExponent) pass.market))
  | acted (managed : row.status.skipped = none) (position : PositionView)
      (same : position.quantity = row.quantity) (decision : ExitDecision)
      (decided : pass.policies.decide position pass.market pass.context = some decision)
      (row' : PositionRow)
      (outcome : ActCase
        (row.withStop (pass.policies.bestStop
          (row.view pass.floatingPnl pass.symbolCode pass.quantityExponent) pass.market))
        decision pass.outcome row') :
    ProcessCase row pass row'

theorem process_cases (row : PositionRow) (pass : Pass) :
    ProcessCase row pass (row.process pass).1 := by
  unfold process
  cases managed : row.status.skipped with
  | some why => exact .skipped
  | none =>
    dsimp only
    split
    case h_1 => exact .held managed
    case h_2 decision decided => exact .acted managed _ rfl decision decided _ (act_cases ..)

@[simp] theorem withStop_quantity (row : PositionRow) (proposal : Option StopProposal) :
    (row.withStop proposal).quantity = row.quantity := by
  cases proposal <;> rfl

@[simp] theorem withStop_closedQuantity (row : PositionRow) (proposal : Option StopProposal) :
    (row.withStop proposal).closedQuantity = row.closedQuantity := by
  cases proposal <;> rfl

@[simp] theorem withStop_initialQuantity (row : PositionRow) (proposal : Option StopProposal) :
    (row.withStop proposal).initialQuantity = row.initialQuantity := by
  cases proposal <;> rfl

@[simp] theorem withStop_status (row : PositionRow) (proposal : Option StopProposal) :
    (row.withStop proposal).status = row.status := by
  cases proposal <;> rfl

@[simp] theorem withStop_id (row : PositionRow) (proposal : Option StopProposal) :
    (row.withStop proposal).id = row.id := by
  cases proposal <;> rfl

@[simp] theorem withStop_side (row : PositionRow) (proposal : Option StopProposal) :
    (row.withStop proposal).side = row.side := by
  cases proposal <;> rfl

theorem ActCase.frame {row row' : PositionRow} {decision : ExitDecision} {outcome : CloseOutcome}
    (case : ActCase row decision outcome row') :
    row'.id = row.id ∧ row'.side = row.side ∧ row'.stopLoss = row.stopLoss := by
  cases case <;> exact ⟨rfl, rfl, rfl⟩

theorem process_frame (row : PositionRow) (pass : Pass) :
    (row.process pass).1.id = row.id ∧ (row.process pass).1.side = row.side ∧
      ((row.process pass).1.stopLoss = row.stopLoss ∨
        ∃ proposal, pass.policies.bestStop
            (row.view pass.floatingPnl pass.symbolCode pass.quantityExponent) pass.market =
              some proposal ∧
          (row.process pass).1.stopLoss = some proposal.modification.newStop) := by
  have stop : ∀ best : Option StopProposal, (row.withStop best).stopLoss = row.stopLoss ∨
      ∃ proposal, best = some proposal ∧
        (row.withStop best).stopLoss = some proposal.modification.newStop := by
    intro best
    cases best with
    | none => exact .inl rfl
    | some proposal => exact .inr ⟨proposal, rfl, rfl⟩
  have outcome := row.process_cases pass
  generalize (row.process pass).1 = row' at outcome
  cases outcome with
  | skipped => exact ⟨rfl, rfl, .inl rfl⟩
  | held managed => exact ⟨withStop_id .., withStop_side .., stop _⟩
  | acted managed position same decision decided row' outcome =>
    obtain ⟨id, side, stopLoss⟩ := outcome.frame
    rw [id, side, stopLoss]
    exact ⟨withStop_id .., withStop_side .., stop _⟩

theorem closeNow_frame (row : PositionRow) (symbolCode : Option String) (quantityExponent : ℤ)
    (decision : ExitDecision) (outcome : CloseOutcome) :
    (row.closeNow symbolCode quantityExponent decision outcome).1.id = row.id ∧
      (row.closeNow symbolCode quantityExponent decision outcome).1.side = row.side ∧
      (row.closeNow symbolCode quantityExponent decision outcome).1.stopLoss = row.stopLoss :=
  (act_cases row (row.view none symbolCode quantityExponent) decision outcome).frame

end PositionRow

end TradeResearch.Positions
