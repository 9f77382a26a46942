import TradeResearch.Execution.Store

/-!
# The gates of the execution pipeline

`ExecutionPipeline` of `backend/app/execution/pipeline.py`, up to the order manager, and the
vocabulary of `backend/app/execution/outcome.py`. A pass is cut at its awaits; each `gate*` is the
code between two of them. The answers of the other components (the strategy registry, the AI seat,
the contract specifications, sizing and the risk engine) are arguments: a pass is considered with
every answer they could give.
-/

namespace TradeResearch.Execution

open Oms Brokers Risk

inductive Outcome where
  | warmingUp
  | noSignal
  | hold
  | duplicateSignal
  | marketDataStale
  | accountNotTradeable
  | killSwitch
  | aiRejected
  | riskVetoed
  | riskHalted
  | sizingRefused
  | specIncomplete
  | executionRejected
  | filled
  | positionClosed
  | strategyError
  | signalInvalid
  | strategyUnknown
  | safeMode
  | strategyDisabled
  | signalStale
  | sourceUnauthorized
  | noVenue
  | executionUnknown
  | notRecorded
  | orderSubmitted
  | partiallyFilled
  deriving DecidableEq

def noOrder : List Outcome :=
  [.warmingUp, .noSignal, .hold, .duplicateSignal, .marketDataStale, .accountNotTradeable,
    .killSwitch, .aiRejected, .riskVetoed, .riskHalted, .sizingRefused, .specIncomplete,
    .strategyError, .signalInvalid, .strategyUnknown, .strategyDisabled, .signalStale,
    .sourceUnauthorized, .noVenue, .safeMode, .notRecorded]

def outcomeFor : OrderStatus → Outcome
  | .filled => .filled
  | .partiallyFilled => .partiallyFilled
  | .rejected => .executionRejected
  | .failed => .executionRejected
  | .unknown => .executionUnknown
  | .cancelled => .executionRejected
  | .expired => .executionRejected
  | _ => .orderSubmitted

theorem outcomeFor_notMem_noOrder (status : OrderStatus) : outcomeFor status ∉ noOrder := by
  cases status <;> decide

theorem strategyError_mem_noOrder : .strategyError ∈ noOrder := by decide

structure IncomingSignal where
  signalKey : String
  source : String
  symbol : String
  side : String
  signalTime : Time
  /-- The signal time carries a timezone. -/
  aware : Bool
  accountId : String
  mode : String
  strategyId : Option String
  entryPrice : Option ℚ
  authStrength : String
  deriving DecidableEq

structure ExecutionResult where
  signalKey : String
  outcome : Outcome
  time : Time
  detail : Text

structure StrategyState where
  exists_ : Bool
  enabled : Bool
  paused : Bool
  reason : Text

structure AiVerdict where
  accept : Bool
  reason : Text

structure SizingResult where
  refused : Bool
  volume : Option ℚ
  gap : Text

structure RiskVerdict where
  decision : String
  reason : Text
  failed : List String

structure Refusal where
  outcome : Outcome
  detail : Text
  consumed : Bool

inductive Gate (α : Type) where
  | refuse (refusal : Refusal)
  | raise (e : Exn)
  | go (a : α)

def Gate.parks {α : Type} (outcome : Outcome) (detail : Text) : Gate α :=
  .refuse ⟨outcome, detail, false⟩

def Gate.consumes {α : Type} (outcome : Outcome) (detail : Text) : Gate α :=
  .refuse ⟨outcome, detail, true⟩

def futureTolerance : ℚ := 5

def validate (maxSignalAgeSeconds : ℚ) (s : IncomingSignal) (now : Time) :
    Option (Outcome × Text) :=
  if s.side ∉ ["buy", "sell"] then
    some (.signalInvalid, Text.lit ("unknown side '" ++ s.side ++ "'"))
  else if s.symbol = "" then some (.signalInvalid, Text.lit "no symbol on the signal")
  else if s.signalKey = "" then
    some (.signalInvalid, Text.lit "no signal key; idempotency is not possible")
  else if s.mode = "live" then
    some (.sourceUnauthorized, Text.lit "live execution is not enabled on this platform")
  else if !s.aware then
    some (.signalInvalid, Text.lit "the signal time carries no timezone")
  else if now + futureTolerance < s.signalTime then
    some (.signalInvalid,
      Text.lit "the signal is stamped " ++ Text.time? (some s.signalTime) ++
        Text.lit ", in the future")
  else if maxSignalAgeSeconds < now - s.signalTime then
    some (.signalStale,
      Text.lit "the signal is " ++ Text.num (roundHalfEven (now - s.signalTime)) ++
        Text.lit "s old against a " ++ Text.num (roundHalfEven maxSignalAgeSeconds) ++
        Text.lit "s limit; a late alert describes a market that has moved")
  else if s.source = "tradingview" ∧ s.authStrength = "weak" then
    some (.sourceUnauthorized,
      Text.lit "the alert was not authenticated strongly enough to execute on")
  else none

def safeModeDetail (reasons : List (String × Text)) : Text :=
  Text.lit "the platform is in safe mode, so no new signal is executed. " ++
    Text.join "; " (reasons.map fun latch => Text.lit (latch.1 ++ ": ") ++ latch.2)

def gateSignal (maxSignalAgeSeconds : ℚ) (seen : List String)
    (safeMode : Option (List (String × Text))) (s : IncomingSignal) (now : Time) : Gate Unit :=
  match safeMode with
  | some reasons => .parks .safeMode (safeModeDetail reasons)
  | none =>
    match validate maxSignalAgeSeconds s now with
    | some (outcome, detail) => .parks outcome detail
    | none =>
      if s.signalKey ∈ seen then
        .parks .duplicateSignal
          (Text.lit s!"signal {s.signalKey} has already been processed")
      else .go ()

def strategyText (strategyId : Option String) : String := strategyId.getD "None"

def gateVenue (s : IncomingSignal) (manager : Option OrderManager) : Gate Unit :=
  match manager with
  | none =>
    .parks .noVenue
      (Text.lit (s!"no order manager is registered for account {s.accountId}. An adapter is " ++
        "registered by an operator, not by the API booting, so this is the expected state of a " ++
        "deployment that has not been pointed at a venue"))
  | some m =>
    if m.mode.name ≠ s.mode then
      .parks .sourceUnauthorized
        (Text.lit (s!"the signal is for {s.mode} and the account's manager runs {m.mode.name}; " ++
          "refusing rather than executing in an environment the signal did not describe"))
    else .go ()

def gateStrategy (s : IncomingSignal) (state : Answer StrategyState)
    (ai : Option (Answer AiVerdict)) (manager : Option OrderManager) : Gate Unit :=
  match state with
  | .error e => .raise e
  | .ok state =>
    if !state.exists_ then
      .parks .strategyUnknown
        (Text.lit ("no strategy '" ++ strategyText s.strategyId ++ "' on this platform; " ++
          "refusing rather than executing a signal nobody can attribute"))
    else if !state.enabled || state.paused then
      .consumes .strategyDisabled
        (state.reason.orElse (Text.lit s!"strategy {strategyText s.strategyId} is switched off"))
    else
      match ai with
      | some (.error e) => .raise e
      | some (.ok ⟨false, reason⟩) =>
        .consumes .aiRejected (reason.orElse (Text.lit "the AI filter declined this signal"))
      | _ => gateVenue s manager

def gateSizing (s : IncomingSignal) (specified : Answer Bool) (sizing : Answer SizingResult) :
    Gate Unit :=
  match specified with
  | .error e => .raise e
  | .ok specified =>
    if !specified then
      .parks .specIncomplete
        (Text.lit (s!"no usable contract spec for {s.symbol}; a size computed from an absent " ++
          "tick value is an order for the wrong amount"))
    else if s.entryPrice.isNone then
      .parks .signalInvalid
        (Text.lit ("no entry price on the signal and none can be invented; refusing to size " ++
          "against a guess"))
    else
      match sizing with
      | .error e => .raise e
      | .ok sizing =>
        if sizing.refused || sizing.volume.isNone then
          .parks .sizingRefused (sizing.gap.orElse (Text.lit "sizing refused"))
        else .go ()

def gateRisk (verdict : Answer (Option Approval × RiskVerdict)) : Gate Approval :=
  match verdict with
  | .error e => .raise e
  | .ok (some approval, _) => .go approval
  | .ok (none, verdict) =>
    .consumes
      (if verdict.failed.any fun limit => "kill_switch".isPrefixOf limit then .killSwitch
        else if verdict.decision = "halt" then .riskHalted
        else .riskVetoed)
      verdict.reason

end TradeResearch.Execution
