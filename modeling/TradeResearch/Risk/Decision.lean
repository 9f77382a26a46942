import TradeResearch.Oms.Order

/-!
# The recorded risk decision

`backend/app/risk/decision.py`: the outcome of one evaluation, the closed vocabulary its refusals
are named in, and the record that is kept of it whether it approved or refused. Before it stands the
part of `backend/app/risk/engine.py` the order manager reads: the proposal an approval was issued
for, the approval's expiry and its binding. The digest of `request_hash` is kept as the rendered
fields it digests, so two digests agree exactly when the fields they were taken of do.
-/

namespace TradeResearch.Risk

open Oms

structure OrderProposal where
  symbol : String
  side : String
  mode : Mode
  volume : Option ℚ
  entryPrice : Option ℚ
  stopLoss : Option ℚ
  takeProfit : Option ℚ
  accountId : Option String
  strategyId : Option String
  signalId : Option String
  riskAmount : Option ℚ := none
  spreadPoints : Option ℚ := none
  signalTime : Option Time := none
  baseCurrency : Option String := none
  quoteCurrency : Option String := none

structure BoundFields where
  accountId : String
  symbol : String
  side : String
  volume : Option ℚ
  orderType : String
  entryPrice : Option ℚ
  stopLoss : Option ℚ
  takeProfit : Option ℚ
  strategyId : String
  mode : Mode
  deriving DecidableEq

structure Approval where
  approved : Bool
  decision : String
  proposal : OrderProposal
  approvedVolume : Option ℚ
  approvedAt : Time
  decisionId : String
  requestHash : Option BoundFields
  expiresAt : Option Time

namespace Approval

def expired (a : Approval) (now : Time) : Bool := a.expiresAt.any fun t => decide (t < now)

def boundFields (a : Approval) (accountId orderType : String) (mode : Mode) : BoundFields :=
  { accountId
    symbol := a.proposal.symbol
    side := a.proposal.side
    volume := a.approvedVolume
    orderType
    entryPrice := a.proposal.entryPrice
    stopLoss := a.proposal.stopLoss
    takeProfit := a.proposal.takeProfit
    strategyId := a.proposal.strategyId.getD ""
    mode }

def bindsOrder (a : Approval) (accountId orderType : String) (mode : Mode) : Bool :=
  match a.requestHash with
  | none => true
  | some digest => decide (a.boundFields accountId orderType mode = digest)

end Approval

end TradeResearch.Risk

namespace TradeResearch.Risk

open Oms

def approvalTtlSeconds : ℚ := 60

inductive RiskOutcome where
  | approved
  | approvedWithAdjustment
  | rejected
  | halted
  | error
  deriving DecidableEq, Repr

inductive RejectionCode where
  | killSwitchActive
  | emergencyStop
  | tradingModeBlocked
  | liveTradingDisabled
  | accountDisabled
  | accountStateInvalid
  | botNotRunning
  | strategyDisabled
  | invalidSymbol
  | symbolNotTradable
  | marketClosed
  | marketDataStale
  | marketDataInvalid
  | spreadTooWide
  | invalidQuantity
  | invalidStopLoss
  | stopLossRequired
  | riskRewardTooLow
  | maxPositionSizeExceeded
  | maxOpenPositionsExceeded
  | positionAlreadyOpen
  | maxExposureExceeded
  | maxConcentrationExceeded
  | maxRiskPerTradeExceeded
  | maxDailyLossExceeded
  | maxWeeklyLossExceeded
  | maxConsecutiveLossesReached
  | maxCorrelatedExposureExceeded
  | dailyLossLocked
  | weeklyLossLocked
  | maxDrawdownExceeded
  | drawdownLocked
  | maxLeverageExceeded
  | insufficientMargin
  | tradeFrequencyExceeded
  | cooldownActive
  | duplicateSignal
  | signalTooOld
  | invalidRiskConfiguration
  | riskEngineError
  deriving DecidableEq, Repr

structure CheckRecord where
  name : String
  passed : Bool
  detail : Text
  enforced : Bool := true
  code : Option RejectionCode := none

structure RiskDecision where
  outcome : RiskOutcome
  at_ : Time
  requestHash : BoundFields
  checks : List CheckRecord
  accountId : Option String := none
  strategyId : Option String := none
  symbol : Option String := none
  side : Option String := none
  executionMode : Mode := .paper
  requestedQuantity : Option ℚ := none
  approvedQuantity : Option ℚ := none
  reason : Text := []
  codes : List RejectionCode := []
  warnings : List String := []
  configurationVersion : ℤ := 0
  decisionId : String
  expiresAt : Option Time := none

def expiry (at' : Time) : Time := at' + approvalTtlSeconds

end TradeResearch.Risk
