import TradeResearch.Risk.Config
import TradeResearch.Risk.State

/-!
# The risk service

`backend/app/risk/service.py`: one account's latched state and its outstanding reservations, and the
evaluation that reads and writes them. `AccountRisk` is what the service holds for one account,
whose lock serialises the evaluations; a database write is what it came to, so that a write that
fails is one that raises.

* `decide` is `_decide`, a `Method` over `AccountRisk`; `evaluate` and `check` wrap it as the source
  does, so that whatever is raised becomes a refusal.
* A `Grant` is a reservation with the proposal it was made for. The service reads its reservations
  only; the proposals are kept to state what they add up to.
* `RiskEvent` is one step on an account against one portfolio snapshot, and `RiskEvent.step` takes
  it.
-/

namespace TradeResearch.Risk

open Oms

def codeFor : LimitKind → RejectionCode
  | .killSwitchGlobal => .killSwitchActive
  | .killSwitchAccount => .killSwitchActive
  | .killSwitchStrategy => .killSwitchActive
  | .tradingMode => .tradingModeBlocked
  | .marketOpen => .marketClosed
  | .marketData => .marketDataStale
  | .signalFreshness => .signalTooOld
  | .duplicateSignal => .duplicateSignal
  | .maxOpenPositions => .maxOpenPositionsExceeded
  | .onePositionPerSymbol => .positionAlreadyOpen
  | .maxTradesPerDay => .tradeFrequencyExceeded
  | .maxDailyLoss => .maxDailyLossExceeded
  | .maxWeeklyLoss => .maxWeeklyLossExceeded
  | .maxConsecutiveLosses => .maxConsecutiveLossesReached
  | .maxCorrelatedExposure => .maxCorrelatedExposureExceeded
  | .maxDrawdown => .maxDrawdownExceeded
  | .maxExposure => .maxExposureExceeded
  | .maxLeverage => .maxLeverageExceeded
  | .maxRiskPerTrade => .maxRiskPerTradeExceeded
  | .spread => .spreadTooWide
  | .positionSize => .invalidQuantity
  | .stopLossRequired => .stopLossRequired
  | .accountState => .accountStateInvalid
  | .botState => .botNotRunning
  | .strategyState => .strategyDisabled
  | .symbolState => .symbolNotTradable
  | .maxPositionSize => .maxPositionSizeExceeded
  | .maxConcentration => .maxConcentrationExceeded
  | .margin => .insufficientMargin
  | .tradeFrequency => .tradeFrequencyExceeded
  | .cooldown => .cooldownActive
  | .riskReward => .riskRewardTooLow

def latching : LimitKind → Option RiskState
  | .maxDailyLoss => some .dailyLossLocked
  | .maxWeeklyLoss => some .weeklyLossLocked
  | .maxDrawdown => some .drawdownLocked
  | _ => none

def signalAgeBars : ℚ := 2

def defaultSignalAgeSeconds : ℚ := 600

structure LimitRule where
  scope : Scope
  scopeRef : Option String
  params : Params
  priority : ℤ
  name : String

def LimitRule.applies (rule : LimitRule) (accountId strategyId : Option String) (symbol : String) :
    Bool :=
  match rule.scope with
  | .global => true
  | .paperAccount | .brokerAccount => rule.scopeRef = accountId
  | .strategy => rule.scopeRef = strategyId
  | .symbol => rule.scopeRef = some symbol

def LimitRule.layer (rule : LimitRule) : Layer :=
  { scope := rule.scope, scopeRef := rule.scopeRef, params := rule.params
    version := if rule.priority = 0 then 1 else rule.priority, name := rule.name }

def configuration (rules : List LimitRule) (accountId strategyId : Option String)
    (symbol : String) : Except ConfigurationInvalid Resolved :=
  let ordered := rules.mergeSort fun a b => a.priority ≤ b.priority
  resolve ((ordered.filter fun rule => rule.applies accountId strategyId symbol).map
    LimitRule.layer)

structure RiskRequest where
  proposal : OrderProposal
  portfolio : PortfolioState := {}
  executionMode : Mode := .paper
  timeframeSeconds : Option ℕ := none
  recentSignalIds : List String := []
  orderType : String := "market"

def RiskRequest.boundFields (r : RiskRequest) : BoundFields :=
  { accountId := r.proposal.accountId.getD ""
    symbol := r.proposal.symbol
    side := r.proposal.side
    volume := r.proposal.volume
    orderType := r.orderType
    entryPrice := r.proposal.entryPrice
    stopLoss := r.proposal.stopLoss
    takeProfit := r.proposal.takeProfit
    strategyId := r.proposal.strategyId.getD ""
    mode := r.executionMode }

def withSignalAge (limits : RiskLimits) (request : RiskRequest) : RiskLimits :=
  if limits.cap .maxSignalAgeSeconds ≠ none ∨ request.proposal.signalTime = none then limits
  else
    let seconds : ℚ :=
      match request.timeframeSeconds with
      | none | some 0 => defaultSignalAgeSeconds
      | some timeframe => timeframe * signalAgeBars
    { limits with
      cap := fun c => if c = .maxSignalAgeSeconds then some seconds else limits.cap c }

structure Reservation where
  decisionId : String
  accountId : String
  exposure : ℚ
  riskAmount : ℚ
  positions : ℕ
  at_ : Time
  expiresAt : Time

def Reservation.live (r : Reservation) (now : Time) : Bool := now ≤ r.expiresAt

structure Grant extends Reservation where
  proposal : OrderProposal

def exposureOf (proposal : OrderProposal) : ℚ :=
  match proposal.volume, proposal.entryPrice with
  | some volume, some price => |volume * price|
  | _, _ => 0

def withReservations (portfolio : PortfolioState) (held : List Reservation) : PortfolioState :=
  if held.isEmpty = true then portfolio
  else
    let extraPositions := (held.map Reservation.positions).sum
    let extraExposure := (held.map Reservation.exposure).sum
    let exposure := portfolio.exposureByCurrency.map fun entry =>
      (entry.1, entry.2 + extraExposure)
    { portfolio with
      openPositions := portfolio.openPositions.map fun positions => positions + extraPositions
      exposureByCurrency :=
        if exposure.isEmpty = true ∧ extraExposure ≠ 0 then [("__reserved__", extraExposure)]
        else exposure }

structure AccountRisk where
  state : AccountRiskState
  grants : List Grant

def AccountRisk.reservations (a : AccountRisk) : List Reservation :=
  a.grants.map Grant.toReservation

inductive RiskExn where
  | configuration (invalid : ConfigurationInvalid)
  | state (error : RiskError)
  | database (type : String) (reason : Text)

structure Writes where
  lock : Except RiskExn Unit := .ok ()
  event : Except RiskExn Unit := .ok ()

structure RiskSettings where
  switches : KillSwitches := {}
  dayBoundaryHour : ℤ := 0

def await {σ α : Type} : Except RiskExn α → Method RiskExn σ α
  | .ok value => pure value
  | .error e => throw e

def liveReservations (accountId : Option String) (now : Time) :
    Method RiskExn AccountRisk (List Reservation) :=
  match accountId with
  | none => pure []
  | some _ => do
    modify fun a => { a with grants := a.grants.filter fun g => g.live now }
    return (← get).reservations

def AccountRisk.release (a : AccountRisk) (decisionId : String) : AccountRisk :=
  { a with grants := a.grants.filter fun g => g.decisionId ≠ decisionId }

def lockAccount (settings : RiskSettings) (state : RiskState) (reason : Text) (at' : Time)
    (written : Except RiskExn Unit) : Method RiskExn AccountRisk Unit := do
  let day ← await ((dayStart at' settings.dayBoundaryHour).mapError .state)
  let a ← get
  let locked ← await
    ((a.state.lock state reason at' (some "risk_engine") (some day)).mapError .state)
  modify fun a => { a with state := locked }
  await written

def checkRecords (verdict : RiskVerdict) : List CheckRecord :=
  verdict.checks.map fun c =>
    { name := c.limit.name, passed := c.passed, detail := c.detail, enforced := c.enforced
      code := if c.passed = true then none else some (codeFor c.limit) }

def decision (request : RiskRequest) (outcome : RiskOutcome) (now : Time)
    (records : List CheckRecord) (version : ℤ) (reason : Text) (codes : List RejectionCode)
    (decisionId : String) (warnings : List String) (approvedQuantity : Option ℚ)
    (expiresAt : Option Time) : RiskDecision :=
  { outcome, at_ := now, requestHash := request.boundFields, checks := records
    accountId := request.proposal.accountId, strategyId := request.proposal.strategyId
    symbol := some request.proposal.symbol, side := some request.proposal.side
    executionMode := request.executionMode, requestedQuantity := request.proposal.volume
    approvedQuantity, reason := Text.take 500 reason, codes, warnings
    configurationVersion := version, decisionId, expiresAt }

def grantOf (proposal : OrderProposal) (accountId : String) (decisionId : String) (now : Time) :
    Grant :=
  { decisionId, accountId, exposure := exposureOf proposal
    riskAmount := proposal.riskAmount.getD 0, positions := 1, at_ := now, expiresAt := expiry now
    proposal }

def reserveFor (reserve : Bool) (proposal : OrderProposal) (decisionId : String) (now : Time) :
    Method RiskExn AccountRisk Unit :=
  match reserve, truthy proposal.accountId, proposal.volume with
  | true, some account, some _ =>
    modify fun a => { a with grants := a.grants ++ [grantOf proposal account decisionId now] }
  | _, _, _ => pure ()

def recordEvent (persist : Bool) (writes : Writes) : Method RiskExn AccountRisk Unit :=
  if persist = true then await writes.event else pure ()

def latched (verdict : RiskVerdict) : List RiskState :=
  verdict.checks.filterMap fun c => if c.passed = true then none else latching c.limit

def latch (settings : RiskSettings) (persist : Bool) (verdict : RiskVerdict) (now : Time)
    (writes : Writes) : Method RiskExn AccountRisk Unit :=
  match persist, latched verdict with
  | true, state :: _ => lockAccount settings state (Text.take 400 verdict.reason) now writes.lock
  | _, _ => pure ()

def warningsOf (records : List CheckRecord) (held : List Reservation) : List String :=
  ((records.filter fun c => c.enforced = false).map fun c => s!"LIMIT_NOT_ENFORCED:{c.name}") ++
    if held.isEmpty = true then []
    else [s!"{held.length} outstanding approval(s) counted into this evaluation"]

def conclude (config : Resolved) (request : RiskRequest) (now : Time) (decisionId : String)
    (writes : Writes) (persist reserve : Bool) (records : List CheckRecord)
    (warnings : List String) : Method RiskExn AccountRisk RiskDecision := do
  reserveFor reserve request.proposal decisionId now
  recordEvent persist writes
  return decision request .approved now records config.version (Text.lit "all checks passed") []
    decisionId warnings request.proposal.volume (some (expiry now))

def refuse (settings : RiskSettings) (config : Resolved) (request : RiskRequest) (now : Time)
    (decisionId : String) (writes : Writes) (persist : Bool) (verdict : RiskVerdict)
    (records : List CheckRecord) (warnings : List String) :
    Method RiskExn AccountRisk RiskDecision := do
  let failed := records.filter fun c => c.passed = false
  let outcome : RiskOutcome :=
    if latched verdict ≠ [] ∨ verdict.decision = .halt then .halted else .rejected
  latch settings persist verdict now writes
  recordEvent persist writes
  return decision request outcome now records config.version verdict.reason
    (failed.filterMap CheckRecord.code).eraseDups decisionId warnings none none

def judge (settings : RiskSettings) (config : Resolved) (request : RiskRequest) (now : Time)
    (decisionId : String) (writes : Writes) (persist reserve : Bool) :
    Method RiskExn AccountRisk RiskDecision := do
  let limits := withSignalAge config.limits request
  let held ← liveReservations request.proposal.accountId now
  let verdict := RiskEngine.evaluate ⟨limits, settings.switches⟩ request.proposal
    (withReservations request.portfolio held) now request.recentSignalIds
  let records := checkRecords verdict
  if (records.filter fun c => c.passed = false).isEmpty = true then
    conclude config request now decisionId writes persist reserve records (warningsOf records held)
  else
    refuse settings config request now decisionId writes persist verdict records
      (warningsOf records held)

def decide (settings : RiskSettings) (rules : List LimitRule) (request : RiskRequest) (now : Time)
    (decisionId : String) (writes : Writes) (persist reserve : Bool) :
    Method RiskExn AccountRisk RiskDecision := do
  let config ← await ((configuration rules request.proposal.accountId request.proposal.strategyId
    request.proposal.symbol).mapError .configuration)
  let a ← get
  let state ← await ((a.state.refresh now settings.dayBoundaryHour).mapError .state)
  modify fun a => { a with state }
  match state.code with
  | some code =>
    return decision request .halted now
      [{ name := s!"risk_state.{state.state.name}", passed := false, detail := state.reason
         code := some code }]
      config.version (Text.lit s!"{state.state.name}: " ++ state.reason) [code] decisionId [] none
      none
  | none => judge settings config request now decisionId writes persist reserve

def errorDecision (request : RiskRequest) (now : Time) (decisionId : String) (detail : Text) :
    RiskDecision :=
  decision request .error now
    [{ name := "risk_engine", passed := false, detail := Text.take 300 detail
       code := some .riskEngineError }]
    0 (Text.lit "the risk engine could not reach a decision: " ++ detail) [.riskEngineError]
    decisionId [] none none

def RiskExn.detail : RiskExn → Text
  | .configuration _ => Text.lit "ConfigurationInvalid"
  | .state _ => Text.lit "RiskError"
  | .database type reason => Text.lit s!"{type}: " ++ reason

def evaluated (settings : RiskSettings) (rules : List LimitRule) (request : RiskRequest)
    (now : Time) (decisionId : String) (writes : Writes) (persist reserve : Bool) :
    Method RiskExn AccountRisk RiskDecision :=
  tryCatch (decide settings rules request now decisionId writes persist reserve) fun e =>
    pure (errorDecision request now decisionId e.detail)

def liveGrants (grants : List Grant) (now : Time) : List Grant := grants.filter fun g => g.live now

theorem exec_await_ok {σ α β : Type} (value : α) (f : α → Method RiskExn σ β) (s : σ) :
    (await (.ok value) >>= f).exec s = (f value).exec s := rfl

section Grants

variable {R : List Grant → Prop}

theorem keeps_await {α : Type} {P : AccountRisk → Prop} (answer : Except RiskExn α) :
    Method.Keeps P (await answer : Method RiskExn AccountRisk α) := by
  cases answer with
  | error e => exact Method.Keeps.throw e
  | ok value => exact Method.Keeps.pure value

theorem keeps_lockAccount (settings : RiskSettings) (state : RiskState) (reason : Text) (at' : Time)
    (written : Except RiskExn Unit) :
    Method.Keeps (fun a => R a.grants) (lockAccount settings state reason at' written) := by
  refine Method.Keeps.bind (keeps_await _) fun day => ?_
  refine Method.Keeps.bind Method.Keeps.get fun a => ?_
  refine Method.Keeps.bind (keeps_await _) fun locked => ?_
  exact Method.Keeps.bind (Method.Keeps.modify fun _ held => held) fun _ => keeps_await _

end Grants

inductive GrantsCase (settings : RiskSettings) (rules : List LimitRule) (request : RiskRequest)
    (now : Time) (decisionId : String) (reserve : Bool) (grants : List Grant) :
    List Grant → Prop
  /-- The evaluation did not reach the reservations. -/
  | kept : GrantsCase settings rules request now decisionId reserve grants grants
  /-- The expired ones were dropped, and nothing was reserved. -/
  | refused :
    GrantsCase settings rules request now decisionId reserve grants (liveGrants grants now)
  /-- The order was approved against the live ones, and reserved for. -/
  | granted (config : Resolved) (account : String) (reserves : reserve = true)
      (configured : configuration rules request.proposal.accountId request.proposal.strategyId
        request.proposal.symbol = .ok config)
      (approved : (RiskEngine.evaluate ⟨withSignalAge config.limits request, settings.switches⟩
        request.proposal
        (withReservations request.portfolio ((liveGrants grants now).map Grant.toReservation)) now
        request.recentSignalIds).approved = true) :
      GrantsCase settings rules request now decisionId reserve grants
        (liveGrants grants now ++ [grantOf request.proposal account decisionId now])

theorem failed_isEmpty_iff (e : RiskEngine) (proposal : OrderProposal) (portfolio : PortfolioState)
    (now : Time) (recentSignalIds : List String) :
    ((checkRecords (e.evaluate proposal portfolio now recentSignalIds)).filter
        fun c => c.passed = false).isEmpty = true ↔
      (e.evaluate proposal portfolio now recentSignalIds).approved = true := by
  unfold checkRecords RiskEngine.evaluate
  cases e.switches.engagedFor proposal.accountId proposal.strategyId with
  | some switch => simp [check, RiskVerdict.approved]
  | none =>
    rw [List.filter_map, List.isEmpty_map]
    by_cases clean : ((checks e.limits proposal portfolio now recentSignalIds).filter
        fun c => c.passed = false).isEmpty = true
    · rw [if_pos clean]
      exact iff_of_true clean rfl
    · rw [if_neg clean]
      refine iff_of_false clean ?_
      unfold RiskVerdict.approved
      dsimp only
      split <;> simp

section Keeps

variable {R : List Grant → Prop}

theorem keeps_recordEvent (persist : Bool) (writes : Writes) :
    Method.Keeps (fun a => R a.grants) (recordEvent persist writes) :=
  Method.Keeps.ite (keeps_await _) (Method.Keeps.pure _)

theorem keeps_refuse (settings : RiskSettings) (config : Resolved) (request : RiskRequest)
    (now : Time) (decisionId : String) (writes : Writes) (persist : Bool) (verdict : RiskVerdict)
    (records : List CheckRecord) (warnings : List String) :
    Method.Keeps (fun a => R a.grants)
      (refuse settings config request now decisionId writes persist verdict records warnings) := by
  refine Method.Keeps.bind ?_ fun _ => ?_
  · unfold latch
    split
    · exact keeps_lockAccount settings _ _ _ _
    · exact Method.Keeps.pure _
  · exact Method.Keeps.bind (keeps_recordEvent persist writes) fun _ => Method.Keeps.pure _

theorem keeps_conclude (config : Resolved) (request : RiskRequest) (now : Time)
    (decisionId : String) (writes : Writes) (persist reserve : Bool) (records : List CheckRecord)
    (warnings : List String) {a : AccountRisk} (held : R a.grants)
    (granted : reserve = true →
      ∀ account, R (a.grants ++ [grantOf request.proposal account decisionId now])) :
    R ((conclude config request now decisionId writes persist reserve records warnings).left
      a).grants := by
  have ends (d : RiskDecision) : Method.Keeps (fun a => R a.grants)
      (recordEvent persist writes >>= fun _ => pure d) :=
    Method.Keeps.bind (keeps_recordEvent persist writes) fun _ => Method.Keeps.pure _
  unfold conclude reserveFor
  split
  · exact ends _ { a with grants := a.grants ++ [grantOf request.proposal _ decisionId now] }
      (granted rfl _)
  · exact ends _ a held

end Keeps

theorem judge_cases (settings : RiskSettings) (rules : List LimitRule) (config : Resolved)
    (request : RiskRequest) (now : Time) (decisionId : String) (writes : Writes)
    (persist reserve : Bool) (a : AccountRisk) {account : String}
    (mine : request.proposal.accountId = some account)
    (configured : configuration rules request.proposal.accountId request.proposal.strategyId
      request.proposal.symbol = .ok config) :
    GrantsCase settings rules request now decisionId reserve a.grants
      ((judge settings config request now decisionId writes persist reserve).left a).grants := by
  have pruned : (liveReservations request.proposal.accountId now).exec a =
      (.ok ((liveGrants a.grants now).map Grant.toReservation),
        { a with grants := liveGrants a.grants now }) := by
    rw [mine]
    rfl
  have exactly := failed_isEmpty_iff ⟨withSignalAge config.limits request, settings.switches⟩
    request.proposal
    (withReservations request.portfolio ((liveGrants a.grants now).map Grant.toReservation)) now
    request.recentSignalIds
  unfold judge Method.left
  rw [Method.exec_bind_ok pruned]
  dsimp only
  split
  case isTrue clean =>
    exact keeps_conclude config request now decisionId writes persist reserve _ _ .refused
      fun reserves account => .granted config account reserves configured (exactly.mp clean)
  case isFalse =>
    exact keeps_refuse (R := GrantsCase settings rules request now decisionId reserve a.grants)
      settings config request now decisionId writes persist _ _ _
      { a with grants := liveGrants a.grants now } .refused

theorem evaluated_cases (settings : RiskSettings) (rules : List LimitRule) (request : RiskRequest)
    (now : Time) (decisionId : String) (writes : Writes) (persist reserve : Bool) (a : AccountRisk)
    {account : String} (mine : request.proposal.accountId = some account) :
    GrantsCase settings rules request now decisionId reserve a.grants
      ((evaluated settings rules request now decisionId writes persist reserve).left a).grants := by
  have decided : GrantsCase settings rules request now decisionId reserve a.grants
      ((decide settings rules request now decisionId writes persist reserve).left a).grants := by
    unfold decide Method.left
    cases configured : configuration rules request.proposal.accountId request.proposal.strategyId
      request.proposal.symbol with
    | error invalid => exact .kept
    | ok config =>
      simp only [Except.mapError, exec_await_ok, Method.exec_get_bind]
      cases refreshed : a.state.refresh now settings.dayBoundaryHour with
      | error e => exact .kept
      | ok state =>
        simp only [exec_await_ok, Method.exec_modify_bind]
        cases state.code with
        | some code => exact .kept
        | none =>
          exact judge_cases settings rules config request now decisionId writes persist reserve
            { a with state } mine configured
  unfold evaluated Method.left
  rw [Method.exec_tryCatch]
  unfold Method.left at decided
  rcases ran : (decide settings rules request now decisionId writes persist reserve).exec a
    with ⟨_ | _, t⟩
  · rw [ran] at decided
    exact decided
  · rw [ran] at decided
    exact decided

end TradeResearch.Risk
