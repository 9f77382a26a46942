import Mathlib.Algebra.Order.Ring.Abs
import Mathlib.Data.Finset.Basic
import TradeResearch.Risk.Decision

/-!
# The risk engine

`backend/app/risk/engine.py`: the limits, what the engine is told of a portfolio, the list of
checks and the verdict they come to. The fields of `RiskLimits` are grouped by how the layers of a
configuration combine them: a cap, a floor or a requirement. A configured number is a rational and
decimal arithmetic is exact.

* `limited` is the shape most checks share: nothing to enforce where the limit is not set, a failure
  where the datum it reads is unknown, and a comparison otherwise.
* `RiskEngine.checks` is the list `_checks` builds, in its order.
* `Passed` says that every check of a list passed; `approved_iff` reads a verdict back from it.
* `RiskEngine.approve` issues an approval for an order that passed; `RiskEngine.approveClose` for a
  close, over whatever failed but the mode.
-/

namespace TradeResearch.Risk

/-! ## Limits -/

inductive LimitKind where
  | killSwitchGlobal
  | killSwitchAccount
  | killSwitchStrategy
  | tradingMode
  | marketOpen
  | signalFreshness
  | duplicateSignal
  | maxOpenPositions
  | onePositionPerSymbol
  | maxTradesPerDay
  | maxDailyLoss
  | maxWeeklyLoss
  | maxConsecutiveLosses
  | maxCorrelatedExposure
  | maxDrawdown
  | maxExposure
  | maxLeverage
  | maxRiskPerTrade
  | spread
  | marketData
  | accountState
  | botState
  | strategyState
  | symbolState
  | maxPositionSize
  | maxConcentration
  | margin
  | tradeFrequency
  | cooldown
  | riskReward
  | positionSize
  | stopLossRequired
  deriving DecidableEq, Repr

namespace LimitKind

def all : List LimitKind :=
  [killSwitchGlobal, killSwitchAccount, killSwitchStrategy, tradingMode, marketOpen,
    signalFreshness, duplicateSignal, maxOpenPositions, onePositionPerSymbol, maxTradesPerDay,
    maxDailyLoss, maxWeeklyLoss, maxConsecutiveLosses, maxCorrelatedExposure, maxDrawdown,
    maxExposure, maxLeverage, maxRiskPerTrade, spread, marketData, accountState, botState,
    strategyState, symbolState, maxPositionSize, maxConcentration, margin, tradeFrequency, cooldown,
    riskReward, positionSize, stopLossRequired]

def name : LimitKind → String
  | killSwitchGlobal => "kill_switch_global"
  | killSwitchAccount => "kill_switch_account"
  | killSwitchStrategy => "kill_switch_strategy"
  | tradingMode => "trading_mode"
  | marketOpen => "market_open"
  | signalFreshness => "signal_freshness"
  | duplicateSignal => "duplicate_signal"
  | maxOpenPositions => "max_open_positions"
  | onePositionPerSymbol => "one_position_per_symbol"
  | maxTradesPerDay => "max_trades_per_day"
  | maxDailyLoss => "max_daily_loss"
  | maxWeeklyLoss => "max_weekly_loss"
  | maxConsecutiveLosses => "max_consecutive_losses"
  | maxCorrelatedExposure => "max_correlated_exposure"
  | maxDrawdown => "max_drawdown"
  | maxExposure => "max_exposure"
  | maxLeverage => "max_leverage"
  | maxRiskPerTrade => "max_risk_per_trade"
  | spread => "spread"
  | marketData => "market_data"
  | accountState => "account_state"
  | botState => "bot_state"
  | strategyState => "strategy_state"
  | symbolState => "symbol_state"
  | maxPositionSize => "max_position_size"
  | maxConcentration => "max_concentration"
  | margin => "margin"
  | tradeFrequency => "trade_frequency"
  | cooldown => "cooldown"
  | riskReward => "risk_reward"
  | positionSize => "position_size"
  | stopLossRequired => "stop_loss_required"

def isKillSwitch : LimitKind → Bool
  | killSwitchGlobal | killSwitchAccount | killSwitchStrategy => true
  | _ => false

end LimitKind

inductive Cap where
  | maxRiskPerTrade
  | maxDailyLoss
  | maxWeeklyLoss
  | maxConsecutiveLosses
  | maxCorrelatedExposure
  | maxDrawdownPct
  | maxExposurePerCurrency
  | maxOpenPositions
  | maxTradesPerDay
  | maxLeverage
  | maxTradesPerHour
  | maxTradesPerMinute
  | maxPositionSize
  | maxConcentrationPct
  | maxMarginUtilisationPct
  | marketDataMaxAgeSeconds
  | maxSpreadPoints
  | maxSignalAgeSeconds
  deriving DecidableEq, Repr

inductive Floor where
  | minRiskReward
  | cooldownSeconds
  deriving DecidableEq, Repr

inductive Flag where
  | onePositionPerSymbol
  | requireStopLoss
  | requireMarketOpen
  deriving DecidableEq, Repr

structure RiskLimits where
  cap : Cap → Option ℚ
  floor : Floor → Option ℚ
  flag : Flag → Bool

def Flag.default : Flag → Bool
  | .onePositionPerSymbol => true
  | .requireStopLoss => true
  | .requireMarketOpen => false

def RiskLimits.default : RiskLimits :=
  { cap := fun _ => none, floor := fun _ => none, flag := Flag.default }

def truthy : Option String → Option String
  | some "" => none
  | text => text

structure KillSwitches where
  globalStop : Bool := false
  globalReason : String := ""
  accounts : Finset String := ∅
  strategies : Finset String := ∅

def KillSwitches.engagedFor (k : KillSwitches) (accountId strategyId : Option String) :
    Option (LimitKind × String) :=
  if k.globalStop = true then
    some (.killSwitchGlobal,
      if k.globalReason = "" then "global kill switch" else k.globalReason)
  else
    match (truthy accountId).filter (· ∈ k.accounts) with
    | some account => some (.killSwitchAccount, s!"kill switch on account {account}")
    | none =>
      match (truthy strategyId).filter (· ∈ k.strategies) with
      | some strategy => some (.killSwitchStrategy, s!"kill switch on strategy {strategy}")
      | none => none

/-! ## What the engine is told -/

structure PortfolioState where
  equity : Option ℚ := none
  balance : Option ℚ := none
  marginUsed : Option ℚ := none
  openPositions : Option ℚ := none
  openSymbols : Finset String := ∅
  realisedToday : Option ℚ := none
  realisedWeek : Option ℚ := none
  consecutiveLosses : Option ℚ := none
  correlatedExposure : Option ℚ := none
  tradesToday : Option ℚ := none
  peakEquity : Option ℚ := none
  exposureByCurrency : List (String × ℚ) := []
  marginFree : Option ℚ := none
  marginRequired : Option ℚ := none
  largestPositionValue : Option ℚ := none
  tradesLastHour : Option ℚ := none
  tradesLastMinute : Option ℚ := none
  lastTradeAt : Option Time := none
  marketOpen : Option Bool := none
  marketDataAgeSeconds : Option ℚ := none
  accountState : Option String := none
  botState : Option String := none
  strategyEnabled : Option Bool := none
  symbolTradable : Option Bool := none

def figureOver (base part : Option ℚ) (unknown notPositive : String) (figure : ℚ → ℚ → ℚ) :
    Except String ℚ :=
  match base, part with
  | some base, some part => if base ≤ 0 then .error notPositive else .ok (figure base part)
  | _, _ => .error unknown

namespace PortfolioState

variable (p : PortfolioState)

def drawdown : Except String ℚ :=
  figureOver p.peakEquity p.equity "equity or peak equity is unknown"
    "equity or peak equity is unknown" fun peak equity => (peak - equity) / peak * 100

def leverage : Except String ℚ :=
  figureOver p.equity p.marginUsed "equity or margin is unknown" "equity or margin is unknown"
    fun equity used => used / equity

def concentration : Except String ℚ :=
  figureOver p.equity p.largestPositionValue "equity or position value is unknown"
    "equity is not positive" fun equity value => value / equity * 100

def marginUtilisation : Except String ℚ :=
  figureOver p.equity p.marginUsed "equity or used margin is unknown" "equity is not positive"
    fun equity used => (used + p.marginRequired.getD 0) / equity * 100

def exposureIn (currency : String) : ℚ := (p.exposureByCurrency.lookup currency).getD 0

end PortfolioState

namespace OrderProposal

variable (o : OrderProposal)

def riskReward : Except String ℚ :=
  match o.entryPrice, o.stopLoss, o.takeProfit with
  | some entry, some stop, some target =>
    if |entry - stop| ≤ 0 then .error "the stop is at the entry"
    else .ok (|target - entry| / |entry - stop|)
  | _, _, _ => .error "entry, stop or target is missing"

def currencies : List String :=
  (truthy o.baseCurrency).toList ++ (truthy o.quoteCurrency).toList

def signalAge (now : Time) : Except String ℚ :=
  match o.signalTime with
  | some time => .ok (now - time)
  | none => .error "signal has no timestamp"

end OrderProposal

/-! ## Checks -/

structure CheckOutcome where
  limit : LimitKind
  passed : Bool
  detail : Text
  enforced : Bool := true

def check (kind : LimitKind) (passed : Bool) (detail : Text) : List CheckOutcome :=
  [{ limit := kind, passed, detail }]

def unenforced (kind : LimitKind) (detail : String) : List CheckOutcome :=
  [{ limit := kind, passed := true, detail := Text.lit detail, enforced := false }]

def known {α : Type} (datum : Option α) (unknown : String) : Except String α :=
  match datum with
  | some value => .ok value
  | none => .error unknown

def limited (kind : LimitKind) (unset : List CheckOutcome) (limit : Option ℚ)
    (datum : Except String ℚ) (passes : ℚ → ℚ → Bool) (detail : ℚ → ℚ → Text) :
    List CheckOutcome :=
  match limit with
  | none => unset
  | some bound =>
    match datum with
    | .error unknown => check kind false (Text.lit unknown)
    | .ok value => check kind (passes bound value) (detail bound value)

def supplied {α : Type} (kind : LimitKind) (unset : String) (fact : Option α) (passes : α → Bool)
    (detail : α → Text) : List CheckOutcome :=
  match fact with
  | none => unenforced kind unset
  | some value => check kind (passes value) (detail value)

def compared (before : String) (value : ℚ) (between : String) (bound : ℚ) (after : String) : Text :=
  Text.lit before ++ Text.num value ++ Text.lit between ++ Text.num bound ++ Text.lit after

section Checks

variable (limits : RiskLimits) (proposal : OrderProposal) (portfolio : PortfolioState) (now : Time)

def tradingModeCheck : List CheckOutcome :=
  check .tradingMode (proposal.mode = .paper ∨ proposal.mode = .demo)
    (Text.lit s!"mode {proposal.mode.name}")

def duplicateSignalCheck (recentSignalIds : List String) : List CheckOutcome :=
  match truthy proposal.signalId with
  | none => []
  | some signal =>
    check .duplicateSignal (signal ∉ recentSignalIds)
      (Text.lit
        (if signal ∈ recentSignalIds then s!"signal {signal} already acted on"
          else "not a duplicate"))

def signalFreshnessCheck : List CheckOutcome :=
  limited .signalFreshness (unenforced .signalFreshness "no freshness limit set")
    (limits.cap .maxSignalAgeSeconds) (proposal.signalAge now) (fun bound age => age ≤ bound)
    fun bound age => compared "signal is " age "s old, limit " bound "s"

def stopLossCheck : List CheckOutcome :=
  if limits.flag .requireStopLoss = true then
    check .stopLossRequired proposal.stopLoss.isSome
      (Text.lit
        (if proposal.stopLoss.getD 0 ≠ 0 then "stop loss present"
          else "no stop loss on the proposal"))
  else []

def positionSizeCheck : List CheckOutcome :=
  check .positionSize (proposal.volume.any fun volume => 0 < volume)
    (Text.lit "volume " ++ Text.num? proposal.volume)

def onePositionPerSymbolCheck : List CheckOutcome :=
  if limits.flag .onePositionPerSymbol = true then
    check .onePositionPerSymbol (proposal.symbol ∉ portfolio.openSymbols)
      (Text.lit
        (if proposal.symbol ∈ portfolio.openSymbols then s!"{proposal.symbol} already open"
          else s!"no open {proposal.symbol}"))
  else []

def maxOpenPositionsCheck : List CheckOutcome :=
  limited .maxOpenPositions (unenforced .maxOpenPositions "no limit set")
    (limits.cap .maxOpenPositions) (known portfolio.openPositions "open position count is unknown")
    (fun bound held => held < bound) fun bound held => compared "" held " open, limit " bound ""

def maxTradesPerDayCheck : List CheckOutcome :=
  limited .maxTradesPerDay [] (limits.cap .maxTradesPerDay)
    (known portfolio.tradesToday "today's trade count is unknown")
    (fun bound trades => trades < bound)
    fun bound trades => compared "" trades " today, limit " bound ""

def lossCheck (kind : LimitKind) (cap : Cap) (realised : Option ℚ) (unknown : String) :
    List CheckOutcome :=
  limited kind [] (limits.cap cap) (known realised unknown)
    (fun bound realised => ¬ realised ≤ -|bound|)
    fun bound realised => compared "realised " realised ", limit -" |bound| ""

def maxDailyLossCheck : List CheckOutcome :=
  lossCheck limits .maxDailyLoss .maxDailyLoss portfolio.realisedToday
    "today's realised P&L is unknown"

def maxWeeklyLossCheck : List CheckOutcome :=
  lossCheck limits .maxWeeklyLoss .maxWeeklyLoss portfolio.realisedWeek
    "this week's realised P&L is unknown"

def maxConsecutiveLossesCheck : List CheckOutcome :=
  limited .maxConsecutiveLosses [] (limits.cap .maxConsecutiveLosses)
    (known portfolio.consecutiveLosses "the recent outcomes could not be counted")
    (fun bound losses => ¬ bound ≤ losses)
    fun bound losses => compared "" losses " in a row, limit " bound ""

def maxCorrelatedExposureCheck : List CheckOutcome :=
  limited .maxCorrelatedExposure [] (limits.cap .maxCorrelatedExposure)
    (known portfolio.correlatedExposure
      ("correlated exposure is unknown; a correlation needs a " ++
        "common window across two or more instruments"))
    (fun bound exposure => ¬ bound < exposure)
    fun bound exposure => compared "" exposure " correlated, limit " bound ""

def maxDrawdownCheck : List CheckOutcome :=
  limited .maxDrawdown [] (limits.cap .maxDrawdownPct) portfolio.drawdown
    (fun bound drawdown => drawdown < bound)
    fun bound drawdown => compared "drawdown " drawdown "%, limit " bound "%"

def maxRiskPerTradeCheck : List CheckOutcome :=
  limited .maxRiskPerTrade [] (limits.cap .maxRiskPerTrade)
    (known proposal.riskAmount "the proposal states no risk amount")
    (fun bound risk => risk ≤ bound) fun bound risk => compared "risk " risk ", limit " bound ""

def projectedExposure : List (String × ℚ) :=
  proposal.currencies.map fun currency =>
    (currency, portfolio.exposureIn currency + proposal.volume.getD 0)

def maxExposureCheck : List CheckOutcome :=
  match limits.cap .maxExposurePerCurrency with
  | none => []
  | some bound =>
    match (projectedExposure proposal portfolio).find? fun exposed => bound < exposed.2 with
    | none => check .maxExposure true (Text.lit "within currency exposure limits")
    | some worst =>
      check .maxExposure false
        (compared s!"{worst.1} exposure would reach " worst.2 ", limit " bound "")

def maxLeverageCheck : List CheckOutcome :=
  limited .maxLeverage [] (limits.cap .maxLeverage) portfolio.leverage
    (fun bound leverage => leverage ≤ bound)
    fun bound leverage => compared "leverage " leverage ", limit " bound ""

def spreadCheck : List CheckOutcome :=
  limited .spread [] (limits.cap .maxSpreadPoints) (known proposal.spreadPoints "spread is unknown")
    (fun bound spread => spread ≤ bound)
    fun bound spread => compared "spread " spread ", limit " bound ""

def statusChecks : List CheckOutcome :=
  supplied .accountState "account state not supplied" portfolio.accountState
      (fun state => state = "active" ∨ state = "ACTIVE")
      (fun state => Text.lit s!"account is {state}") ++
    supplied .botState "no bot state supplied" portfolio.botState (fun state => state = "running")
      (fun state => Text.lit s!"bot is {state}") ++
    supplied .strategyState "strategy state not supplied" portfolio.strategyEnabled id
      (fun enabled => Text.lit (if enabled then "strategy enabled" else "strategy is disabled")) ++
    supplied .symbolState "symbol state not supplied" portfolio.symbolTradable id
      fun tradable => Text.lit (if tradable then "symbol tradable" else "symbol is not tradable")

def marketOpenCheck : List CheckOutcome :=
  if limits.flag .requireMarketOpen = true then
    match portfolio.marketOpen with
    | none => check .marketOpen false (Text.lit "market status is unknown")
    | some isOpen =>
      check .marketOpen isOpen (Text.lit (if isOpen then "market is open" else "market is closed"))
  else unenforced .marketOpen "market-open check not required"

def marketDataCheck : List CheckOutcome :=
  limited .marketData (unenforced .marketData "no freshness limit set")
    (limits.cap .marketDataMaxAgeSeconds)
    (known portfolio.marketDataAgeSeconds "market-data age is unknown")
    (fun bound age => age ≤ bound)
    fun bound age => compared "market data is " age "s old, limit " bound "s"

def maxPositionSizeCheck : List CheckOutcome :=
  limited .maxPositionSize (unenforced .maxPositionSize "no limit set")
    (limits.cap .maxPositionSize) (known proposal.volume "no volume proposed")
    (fun bound volume => volume ≤ bound)
    fun bound volume => compared "volume " volume ", limit " bound ""

def maxConcentrationCheck : List CheckOutcome :=
  limited .maxConcentration (unenforced .maxConcentration "no limit set")
    (limits.cap .maxConcentrationPct) portfolio.concentration (fun bound share => share ≤ bound)
    fun bound share => compared "largest position is " share "% of equity, limit " bound "%"

def marginCheck : List CheckOutcome :=
  limited .margin (unenforced .margin "margin not modelled for this account")
    (limits.cap .maxMarginUtilisationPct) portfolio.marginUtilisation
    (fun bound utilisation => utilisation ≤ bound)
    fun bound utilisation =>
      compared "projected margin utilisation " utilisation "%, limit " bound "%"

def frequencyCheck (cap : Cap) (trades : Option ℚ) (window : String) : List CheckOutcome :=
  limited .tradeFrequency [] (limits.cap cap) (known trades s!"trades in the last {window} unknown")
    (fun bound trades => trades < bound)
    fun bound trades => compared "" trades s!" trades in the last {window}, limit " bound ""

def tradeFrequencyChecks : List CheckOutcome :=
  frequencyCheck limits .maxTradesPerMinute portfolio.tradesLastMinute "minute" ++
    frequencyCheck limits .maxTradesPerHour portfolio.tradesLastHour "hour" ++
    if limits.cap .maxTradesPerMinute = none ∧ limits.cap .maxTradesPerHour = none then
      unenforced .tradeFrequency "no frequency limit set"
    else []

def cooldownCheck : List CheckOutcome :=
  match limits.floor .cooldownSeconds with
  | none => unenforced .cooldown "no cooldown set"
  | some seconds =>
    if seconds = 0 then unenforced .cooldown "no cooldown set"
    else
      match portfolio.lastTradeAt with
      | none => check .cooldown true (Text.lit "no previous trade recorded")
      | some last =>
        check .cooldown (seconds ≤ now - last)
          (compared "" (now - last) "s since the last trade, cooldown " seconds "s")

def riskRewardCheck : List CheckOutcome :=
  limited .riskReward (unenforced .riskReward "no minimum set") (limits.floor .minRiskReward)
    proposal.riskReward (fun bound ratio => bound ≤ ratio)
    fun bound ratio => compared "risk/reward " ratio ", minimum " bound ""

def reported (recentSignalIds : List String) : List CheckOutcome :=
  tradingModeCheck proposal ++
  duplicateSignalCheck proposal recentSignalIds ++
  signalFreshnessCheck limits proposal now ++
  stopLossCheck limits proposal ++
  positionSizeCheck proposal ++
  onePositionPerSymbolCheck limits proposal portfolio ++
  maxOpenPositionsCheck limits portfolio ++
  maxTradesPerDayCheck limits portfolio ++
  maxDailyLossCheck limits portfolio ++
  maxWeeklyLossCheck limits portfolio ++
  maxConsecutiveLossesCheck limits portfolio ++
  maxCorrelatedExposureCheck limits portfolio ++
  maxDrawdownCheck limits portfolio ++
  maxRiskPerTradeCheck limits proposal ++
  maxExposureCheck limits proposal portfolio ++
  maxLeverageCheck limits portfolio ++
  spreadCheck limits proposal ++
  statusChecks portfolio ++
  marketOpenCheck limits portfolio ++
  marketDataCheck limits portfolio ++
  maxPositionSizeCheck limits proposal ++
  maxConcentrationCheck limits portfolio ++
  marginCheck limits portfolio ++
  tradeFrequencyChecks limits portfolio ++
  cooldownCheck limits portfolio now ++
  riskRewardCheck limits proposal

def unreported (out : List CheckOutcome) : List CheckOutcome :=
  (LimitKind.all.filter fun kind =>
    kind ∉ out.map CheckOutcome.limit ∧ kind.isKillSwitch = false).flatMap
      fun kind => unenforced kind "no limit set"

def checks (recentSignalIds : List String) : List CheckOutcome :=
  let out := reported limits proposal portfolio now recentSignalIds
  out ++ unreported out

end Checks

/-! ## The verdict -/

inductive EngineDecision where
  | approve
  | veto
  | halt
  deriving DecidableEq, Repr

def EngineDecision.name : EngineDecision → String
  | approve => "approve"
  | veto => "veto"
  | halt => "halt"

structure RiskVerdict where
  decision : EngineDecision
  reason : Text
  checks : List CheckOutcome
  at_ : Time
  proposal : OrderProposal

namespace RiskVerdict

def approved (v : RiskVerdict) : Bool := v.decision = .approve

def failed (v : RiskVerdict) : List CheckOutcome := v.checks.filter fun c => c.passed = false

end RiskVerdict

def halting : LimitKind → Bool
  | .maxDailyLoss | .maxWeeklyLoss | .maxDrawdown => true
  | _ => false

def failures (failed : List CheckOutcome) : Text :=
  Text.join "; " (failed.map fun c => Text.lit s!"{c.limit.name}: " ++ c.detail)

structure RiskEngine where
  limits : RiskLimits
  switches : KillSwitches

namespace RiskEngine

def evaluate (e : RiskEngine) (proposal : OrderProposal) (portfolio : PortfolioState) (now : Time)
    (recentSignalIds : List String) : RiskVerdict :=
  match e.switches.engagedFor proposal.accountId proposal.strategyId with
  | some (limit, reason) =>
    { decision := .halt, reason := Text.lit reason, checks := check limit false (Text.lit reason),
      at_ := now, proposal }
  | none =>
    let made := checks e.limits proposal portfolio now recentSignalIds
    let failed := made.filter fun c => c.passed = false
    if failed.isEmpty = true then
      { decision := .approve, reason := Text.lit "all checks passed", checks := made, at_ := now,
        proposal }
    else
      { decision := if failed.any fun c => halting c.limit then .halt else .veto,
        reason := failures failed, checks := made, at_ := now, proposal }

end RiskEngine

/-! ## Lists of checks that pass -/

def Passed (cs : List CheckOutcome) : Prop := ∀ c ∈ cs, c.passed = true

@[simp] theorem passed_nil : Passed [] := fun _ mem => absurd mem (List.not_mem_nil)

@[simp] theorem passed_append {as bs : List CheckOutcome} :
    Passed (as ++ bs) ↔ Passed as ∧ Passed bs :=
  List.forall_mem_append

@[simp] theorem passed_check {kind : LimitKind} {passed : Bool} {detail : Text} :
    Passed (check kind passed detail) ↔ passed = true := by
  simp [Passed, check]

@[simp] theorem passed_unenforced (kind : LimitKind) (detail : String) :
    Passed (unenforced kind detail) := by
  simp [Passed, unenforced]

theorem passed_limited_iff {kind : LimitKind} {unset : List CheckOutcome} {limit : Option ℚ}
    {datum : Except String ℚ} {passes : ℚ → ℚ → Bool} {detail : ℚ → ℚ → Text}
    (passedUnset : Passed unset) :
    Passed (limited kind unset limit datum passes detail) ↔
      ∀ bound, limit = some bound → ∃ value, datum = .ok value ∧ passes bound value = true := by
  unfold limited
  cases limit with
  | none => exact iff_of_true passedUnset fun bound isSet => by cases isSet
  | some bound =>
    cases datum with
    | error unknown =>
      refine iff_of_false (by simp) fun within => ?_
      obtain ⟨value, isKnown, _⟩ := within bound rfl
      cases isKnown
    | ok value =>
      rw [passed_check]
      constructor
      · intro within bound' isSet
        cases isSet
        exact ⟨value, rfl, within⟩
      · intro within
        obtain ⟨value', isKnown, passed⟩ := within bound rfl
        cases isKnown
        exact passed

theorem not_passed_limited {kind : LimitKind} {unset : List CheckOutcome} {bound : ℚ}
    {unknown : String} {passes : ℚ → ℚ → Bool} {detail : ℚ → ℚ → Text} :
    ¬ Passed (limited kind unset (some bound) (.error unknown) passes detail) := by
  simp [limited]

theorem passed_stopLossCheck_iff :
    Passed (stopLossCheck limits proposal) ↔
      (limits.flag .requireStopLoss = true → proposal.stopLoss.isSome = true) := by
  unfold stopLossCheck
  split
  case isTrue required =>
    rw [passed_check]
    exact ⟨fun given _ => given, fun given => given required⟩
  case isFalse free => exact iff_of_true passed_nil fun required => absurd required free

theorem passed_onePositionPerSymbolCheck_iff :
    Passed (onePositionPerSymbolCheck limits proposal portfolio) ↔
      (limits.flag .onePositionPerSymbol = true → proposal.symbol ∉ portfolio.openSymbols) := by
  unfold onePositionPerSymbolCheck
  split
  case isTrue required =>
    rw [passed_check, decide_eq_true_eq]
    exact ⟨fun free _ => free, fun free => free required⟩
  case isFalse free => exact iff_of_true passed_nil fun required => absurd required free

theorem passed_marketOpenCheck_iff :
    Passed (marketOpenCheck limits portfolio) ↔
      (limits.flag .requireMarketOpen = true → portfolio.marketOpen = some true) := by
  unfold marketOpenCheck
  split
  case isTrue required =>
    rcases portfolio.marketOpen with _ | isOpen
    · exact iff_of_false (by simp) fun open' => by cases open' required
    · rw [passed_check]
      exact ⟨fun isOpen _ => congrArg some isOpen, fun isOpen => Option.some.inj (isOpen required)⟩
  case isFalse free =>
    exact iff_of_true (passed_unenforced _ _) fun required => absurd required free

theorem passed_maxExposureCheck_iff :
    Passed (maxExposureCheck limits proposal portfolio) ↔
      ∀ bound, limits.cap .maxExposurePerCurrency = some bound →
        ∀ currency ∈ proposal.currencies,
          portfolio.exposureIn currency + proposal.volume.getD 0 ≤ bound := by
  unfold maxExposureCheck
  cases limits.cap .maxExposurePerCurrency with
  | none => exact iff_of_true passed_nil fun _ isSet => by cases isSet
  | some bound =>
    have worst_none : ((projectedExposure proposal portfolio).find?
          fun exposed => bound < exposed.2) = none ↔
        ∀ currency ∈ proposal.currencies,
          portfolio.exposureIn currency + proposal.volume.getD 0 ≤ bound := by
      simp [projectedExposure]
    dsimp only
    cases worst : (projectedExposure proposal portfolio).find? fun exposed => bound < exposed.2 with
    | none =>
      refine iff_of_true (passed_check.mpr rfl) fun bound' isSet => ?_
      cases isSet
      exact worst_none.mp worst
    | some exposed =>
      refine iff_of_false (by simp) fun within => ?_
      rw [worst_none.mpr (within bound rfl)] at worst
      cases worst

theorem passed_cooldownCheck_iff :
    Passed (cooldownCheck limits portfolio now) ↔
      ∀ seconds, limits.floor .cooldownSeconds = some seconds → seconds ≠ 0 →
        ∀ last, portfolio.lastTradeAt = some last → seconds ≤ now - last := by
  unfold cooldownCheck
  cases limits.floor .cooldownSeconds with
  | none => exact iff_of_true (passed_unenforced _ _) fun _ isSet => by cases isSet
  | some seconds =>
    by_cases zero : seconds = 0
    · simp [zero]
    · dsimp only
      rw [if_neg zero]
      cases portfolio.lastTradeAt with
      | none => exact iff_of_true (passed_check.mpr rfl) fun _ _ _ _ known => by cases known
      | some last =>
        rw [passed_check, decide_eq_true_eq]
        constructor
        · intro waited _ isSet _ _ isLast
          cases isSet
          cases isLast
          exact waited
        · intro waited
          exact waited seconds rfl zero last rfl

theorem passed_unreported (out : List CheckOutcome) : Passed (unreported out) := by
  intro c mem
  obtain ⟨kind, _, mem⟩ := List.mem_flatMap.mp mem
  exact passed_unenforced kind "no limit set" c mem

theorem passed_checks_iff {limits : RiskLimits} {proposal : OrderProposal}
    {portfolio : PortfolioState} {now : Time} {recentSignalIds : List String} :
    Passed (checks limits proposal portfolio now recentSignalIds) ↔
      Passed (reported limits proposal portfolio now recentSignalIds) := by
  unfold checks
  rw [passed_append]
  exact and_iff_left (passed_unreported _)

theorem RiskEngine.approved_iff (e : RiskEngine) (proposal : OrderProposal)
    (portfolio : PortfolioState) (now : Time) (recentSignalIds : List String) :
    (e.evaluate proposal portfolio now recentSignalIds).approved = true ↔
      e.switches.engagedFor proposal.accountId proposal.strategyId = none ∧
        Passed (reported e.limits proposal portfolio now recentSignalIds) := by
  rw [← passed_checks_iff]
  unfold RiskEngine.evaluate
  cases engaged : e.switches.engagedFor proposal.accountId proposal.strategyId with
  | some switch => exact iff_of_false (by simp [RiskVerdict.approved]) fun h => by cases h.1
  | none =>
    have passed_iff : ((checks e.limits proposal portfolio now recentSignalIds).filter
          fun c => c.passed = false).isEmpty = true ↔
        Passed (checks e.limits proposal portfolio now recentSignalIds) := by
      rw [List.isEmpty_iff, List.filter_eq_nil_iff]
      exact forall₂_congr fun c _ => by simp
    dsimp only
    split
    case isTrue none_failed =>
      exact iff_of_true (by simp [RiskVerdict.approved]) ⟨rfl, passed_iff.mp none_failed⟩
    case isFalse some_failed =>
      refine iff_of_false ?_ fun h => some_failed (passed_iff.mpr h.2)
      unfold RiskVerdict.approved
      split <;> simp

def RiskEngine.approve (e : RiskEngine) (proposal : OrderProposal) (portfolio : PortfolioState)
    (now : Time) (recentSignalIds : List String) (decisionId : String) :
    Option Approval × RiskVerdict :=
  let verdict := e.evaluate proposal portfolio now recentSignalIds
  if verdict.approved = true ∧ proposal.volume.isSome = true then
    (some
      { approved := verdict.approved
        decision := verdict.decision.name
        proposal := verdict.proposal
        approvedVolume := proposal.volume
        approvedAt := verdict.at_
        decisionId
        requestHash := some
          { accountId := proposal.accountId.getD ""
            symbol := proposal.symbol
            side := proposal.side
            volume := proposal.volume
            orderType := "market"
            entryPrice := proposal.entryPrice
            stopLoss := proposal.stopLoss
            takeProfit := proposal.takeProfit
            strategyId := proposal.strategyId.getD ""
            mode := proposal.mode }
        expiresAt := some (expiry verdict.at_) },
      verdict)
  else (none, verdict)

/-! ## Closing -/

def RiskVerdict.overridden (v : RiskVerdict) : RiskVerdict :=
  { v with
    decision := .approve
    reason := Text.lit "approved as a risk-reducing close, over: " ++ failures v.failed
    checks := v.checks.map fun c => if c.passed = true then c else { c with enforced := false } }

namespace RiskEngine

def approveClose (e : RiskEngine) (proposal : OrderProposal) (portfolio : PortfolioState)
    (now : Time) (decisionId : String) : Option Approval × RiskVerdict :=
  let verdict := e.evaluate proposal portfolio now []
  let modeOk := verdict.checks.all fun c => decide (c.limit = .tradingMode → c.passed = true)
  if modeOk = true ∧ proposal.volume.any (fun volume => decide (0 < volume)) = true then
    let verdict := if verdict.approved = true then verdict else verdict.overridden
    (some
      { approved := verdict.approved
        decision := verdict.decision.name
        proposal := verdict.proposal
        approvedVolume := proposal.volume
        approvedAt := verdict.at_
        decisionId
        requestHash := some
          { accountId := proposal.accountId.getD ""
            symbol := proposal.symbol
            side := proposal.side
            volume := proposal.volume
            orderType := "market"
            entryPrice := proposal.entryPrice
            stopLoss := proposal.stopLoss
            takeProfit := proposal.takeProfit
            strategyId := proposal.strategyId.getD ""
            mode := proposal.mode }
        expiresAt := some (expiry verdict.at_) },
      verdict)
  else (none, verdict)

@[simp] theorem evaluate_proposal (e : RiskEngine) (proposal : OrderProposal)
    (portfolio : PortfolioState) (now : Time) (recentSignalIds : List String) :
    (e.evaluate proposal portfolio now recentSignalIds).proposal = proposal := by
  unfold evaluate
  split
  · rfl
  · dsimp only
    split <;> rfl

@[simp] theorem evaluate_at (e : RiskEngine) (proposal : OrderProposal)
    (portfolio : PortfolioState) (now : Time) (recentSignalIds : List String) :
    (e.evaluate proposal portfolio now recentSignalIds).at_ = now := by
  unfold evaluate
  split
  · rfl
  · dsimp only
    split <;> rfl

theorem approveClose_some {e : RiskEngine} {proposal : OrderProposal} {portfolio : PortfolioState}
    {now : Time} {decisionId : String} {approval : Approval}
    (approved : (e.approveClose proposal portfolio now decisionId).1 = some approval) :
    approval.approved = true ∧ approval.proposal = proposal ∧
      approval.approvedVolume = proposal.volume ∧ approval.expiresAt = some (expiry now) ∧
      (∃ volume, proposal.volume = some volume ∧ 0 < volume) ∧
      ∀ accountId, proposal.accountId = some accountId →
        approval.bindsOrder accountId "market" proposal.mode = true := by
  unfold approveClose at approved
  dsimp only at approved
  split at approved
  case isFalse => cases approved
  case isTrue permitted =>
    generalize final : (if (e.evaluate proposal portfolio now []).approved = true then
      e.evaluate proposal portfolio now []
      else (e.evaluate proposal portfolio now []).overridden) = verdict at approved
    have standing : verdict.approved = true ∧ verdict.proposal = proposal ∧ verdict.at_ = now := by
      rw [← final]
      split
      case isTrue passed => exact ⟨passed, by simp, by simp⟩
      case isFalse => exact ⟨rfl, evaluate_proposal .., evaluate_at ..⟩
    obtain ⟨passed, same, time⟩ := standing
    cases approved
    refine ⟨passed, same, rfl, by rw [time], ?_, fun accountId account => ?_⟩
    · cases volume : proposal.volume with
      | none => simp [volume] at permitted
      | some volume' => exact ⟨volume', rfl, by simpa [volume] using permitted.2⟩
    · simp [Approval.bindsOrder, Approval.boundFields, same, account]

end RiskEngine

end TradeResearch.Risk
