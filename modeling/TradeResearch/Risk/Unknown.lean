import TradeResearch.Risk.Engine

/-!
# Unknown facts

Which unknown facts the risk engine refuses an order for. A `Statement` is what a caller says of a
portfolio, where the open symbols and the exposure may be left out like any other fact;
`Statement.portfolio` is the `PortfolioState` it builds, whose defaults stand in for what is left
out. `Needs` says that a configured limit reads a fact, and `Missing` that the fact is unknown.

`refused_of_missing_iff` says which facts fail closed: all but the open symbols, the exposure, the
proposal's two currencies, the margin the order requires and the time of the last trade.
-/

namespace TradeResearch.Risk

structure Statement where
  openSymbols : Option (Finset String)
  exposureByCurrency : Option (List (String × ℚ))
  others : PortfolioState

def Statement.portfolio (s : Statement) : PortfolioState :=
  { s.others with
    openSymbols := s.openSymbols.getD ∅
    exposureByCurrency := s.exposureByCurrency.getD [] }

inductive Datum where
  | signalTime
  | stopLoss
  | openSymbols
  | openPositions
  | tradesToday
  | realisedToday
  | realisedWeek
  | consecutiveLosses
  | correlatedExposure
  | equity
  | peakEquity
  | riskAmount
  | exposure
  | baseCurrency
  | quoteCurrency
  | marginUsed
  | marginRequired
  | spread
  | marketOpen
  | marketDataAge
  | volume
  | largestPositionValue
  | tradesLastMinute
  | tradesLastHour
  | lastTradeAt
  | entryPrice
  | takeProfit
  deriving DecidableEq, Repr

namespace Datum

def Needs (limits : RiskLimits) : Datum → Prop
  | signalTime => limits.cap .maxSignalAgeSeconds ≠ none
  | stopLoss => limits.flag .requireStopLoss = true ∨ limits.floor .minRiskReward ≠ none
  | openSymbols => limits.flag .onePositionPerSymbol = true
  | openPositions => limits.cap .maxOpenPositions ≠ none
  | tradesToday => limits.cap .maxTradesPerDay ≠ none
  | realisedToday => limits.cap .maxDailyLoss ≠ none
  | realisedWeek => limits.cap .maxWeeklyLoss ≠ none
  | consecutiveLosses => limits.cap .maxConsecutiveLosses ≠ none
  | correlatedExposure => limits.cap .maxCorrelatedExposure ≠ none
  | equity =>
    limits.cap .maxDrawdownPct ≠ none ∨ limits.cap .maxLeverage ≠ none ∨
      limits.cap .maxConcentrationPct ≠ none ∨ limits.cap .maxMarginUtilisationPct ≠ none
  | peakEquity => limits.cap .maxDrawdownPct ≠ none
  | riskAmount => limits.cap .maxRiskPerTrade ≠ none
  | exposure | baseCurrency | quoteCurrency => limits.cap .maxExposurePerCurrency ≠ none
  | marginUsed => limits.cap .maxLeverage ≠ none ∨ limits.cap .maxMarginUtilisationPct ≠ none
  | marginRequired => limits.cap .maxMarginUtilisationPct ≠ none
  | spread => limits.cap .maxSpreadPoints ≠ none
  | marketOpen => limits.flag .requireMarketOpen = true
  | marketDataAge => limits.cap .marketDataMaxAgeSeconds ≠ none
  | volume => limits.cap .maxPositionSize ≠ none ∨ limits.cap .maxExposurePerCurrency ≠ none
  | largestPositionValue => limits.cap .maxConcentrationPct ≠ none
  | tradesLastMinute => limits.cap .maxTradesPerMinute ≠ none
  | tradesLastHour => limits.cap .maxTradesPerHour ≠ none
  | lastTradeAt => ∃ seconds, limits.floor .cooldownSeconds = some seconds ∧ seconds ≠ 0
  | entryPrice | takeProfit => limits.floor .minRiskReward ≠ none

def Missing (proposal : OrderProposal) (s : Statement) : Datum → Prop
  | signalTime => proposal.signalTime = none
  | stopLoss => proposal.stopLoss = none
  | openSymbols => s.openSymbols = none
  | openPositions => s.others.openPositions = none
  | tradesToday => s.others.tradesToday = none
  | realisedToday => s.others.realisedToday = none
  | realisedWeek => s.others.realisedWeek = none
  | consecutiveLosses => s.others.consecutiveLosses = none
  | correlatedExposure => s.others.correlatedExposure = none
  | equity => s.others.equity = none
  | peakEquity => s.others.peakEquity = none
  | riskAmount => proposal.riskAmount = none
  | exposure => s.exposureByCurrency = none
  | baseCurrency => proposal.baseCurrency = none
  | quoteCurrency => proposal.quoteCurrency = none
  | marginUsed => s.others.marginUsed = none
  | marginRequired => s.others.marginRequired = none
  | spread => proposal.spreadPoints = none
  | marketOpen => s.others.marketOpen = none
  | marketDataAge => s.others.marketDataAgeSeconds = none
  | volume => proposal.volume = none
  | largestPositionValue => s.others.largestPositionValue = none
  | tradesLastMinute => s.others.tradesLastMinute = none
  | tradesLastHour => s.others.tradesLastHour = none
  | lastTradeAt => s.others.lastTradeAt = none
  | entryPrice => proposal.entryPrice = none
  | takeProfit => proposal.takeProfit = none

def failsOpen : Datum → Bool
  | openSymbols | exposure | baseCurrency | quoteCurrency | marginRequired | lastTradeAt => true
  | _ => false

end Datum

theorem not_passed_of_unknown {kind : LimitKind} {unset : List CheckOutcome} {limit : Option ℚ}
    {datum : Except String ℚ} {passes : ℚ → ℚ → Bool} {detail : ℚ → ℚ → Text}
    (isSet : limit ≠ none) (unknown : ∃ message, datum = .error message) :
    ¬ Passed (limited kind unset limit datum passes detail) := by
  obtain ⟨bound, rfl⟩ := Option.ne_none_iff_exists'.mp isSet
  obtain ⟨message, rfl⟩ := unknown
  exact not_passed_limited

theorem figureOver_unknown {base part : Option ℚ} {unknown notPositive : String}
    {figure : ℚ → ℚ → ℚ} (missing : base = none ∨ part = none) :
    ∃ message, figureOver base part unknown notPositive figure = .error message := by
  rcases missing with rfl | rfl
  · exact ⟨_, rfl⟩
  · cases base <;> exact ⟨_, rfl⟩

theorem riskReward_unknown {proposal : OrderProposal}
    (missing : proposal.entryPrice = none ∨ proposal.stopLoss = none ∨
      proposal.takeProfit = none) :
    ∃ message, proposal.riskReward = .error message := by
  unfold OrderProposal.riskReward
  rcases missing with missing | missing | missing
  · rw [missing]
    exact ⟨_, rfl⟩
  · rw [missing]
    cases proposal.entryPrice <;> exact ⟨_, rfl⟩
  · rw [missing]
    cases proposal.entryPrice <;> cases proposal.stopLoss <;> exact ⟨_, rfl⟩

theorem not_passed_reported {limits : RiskLimits} {proposal : OrderProposal} {s : Statement}
    {now : Time} {recentSignalIds : List String} {d : Datum} (closed : d.failsOpen = false)
    (needs : d.Needs limits) (missing : d.Missing proposal s) :
    ¬ Passed (reported limits proposal s.portfolio now recentSignalIds) := by
  intro passed
  unfold reported at passed
  simp only [passed_append, and_assoc] at passed
  obtain ⟨-, -, fresh, stop, size, -, positions, perDay, daily, weekly, streak, correlated,
    drawdown, risk, -, leverage, spread, -, isOpen, data, -, concentration, margin, frequency, -,
    reward⟩ := passed
  cases d
  case signalTime =>
    exact not_passed_of_unknown needs ⟨_, by rw [OrderProposal.signalAge, missing]⟩ fresh
  case stopLoss =>
    rcases needs with required | isSet
    · have given := passed_stopLossCheck_iff.mp stop required
      rw [show proposal.stopLoss = none from missing] at given
      cases given
    · exact not_passed_of_unknown isSet (riskReward_unknown (.inr (.inl missing))) reward
  case openPositions =>
    exact not_passed_of_unknown needs ⟨_, congrArg (known · _) missing⟩ positions
  case tradesToday => exact not_passed_of_unknown needs ⟨_, congrArg (known · _) missing⟩ perDay
  case realisedToday => exact not_passed_of_unknown needs ⟨_, congrArg (known · _) missing⟩ daily
  case realisedWeek => exact not_passed_of_unknown needs ⟨_, congrArg (known · _) missing⟩ weekly
  case consecutiveLosses =>
    exact not_passed_of_unknown needs ⟨_, congrArg (known · _) missing⟩ streak
  case correlatedExposure =>
    exact not_passed_of_unknown needs ⟨_, congrArg (known · _) missing⟩ correlated
  case equity =>
    rcases needs with isSet | isSet | isSet | isSet
    · exact not_passed_of_unknown isSet (figureOver_unknown (.inr missing)) drawdown
    · exact not_passed_of_unknown isSet (figureOver_unknown (.inl missing)) leverage
    · exact not_passed_of_unknown isSet (figureOver_unknown (.inl missing)) concentration
    · exact not_passed_of_unknown isSet (figureOver_unknown (.inl missing)) margin
  case peakEquity => exact not_passed_of_unknown needs (figureOver_unknown (.inl missing)) drawdown
  case riskAmount => exact not_passed_of_unknown needs ⟨_, congrArg (known · _) missing⟩ risk
  case marginUsed =>
    rcases needs with isSet | isSet
    · exact not_passed_of_unknown isSet (figureOver_unknown (.inr missing)) leverage
    · exact not_passed_of_unknown isSet (figureOver_unknown (.inr missing)) margin
  case spread => exact not_passed_of_unknown needs ⟨_, congrArg (known · _) missing⟩ spread
  case marketOpen =>
    have isOpen := passed_marketOpenCheck_iff.mp isOpen needs
    rw [show s.portfolio.marketOpen = none from missing] at isOpen
    cases isOpen
  case marketDataAge => exact not_passed_of_unknown needs ⟨_, congrArg (known · _) missing⟩ data
  case volume =>
    rw [positionSizeCheck, passed_check, show proposal.volume = none from missing] at size
    cases size
  case largestPositionValue =>
    exact not_passed_of_unknown needs (figureOver_unknown (.inr missing)) concentration
  case tradesLastMinute =>
    rw [tradeFrequencyChecks, passed_append, passed_append] at frequency
    exact not_passed_of_unknown needs ⟨_, congrArg (known · _) missing⟩ frequency.1.1
  case tradesLastHour =>
    rw [tradeFrequencyChecks, passed_append, passed_append] at frequency
    exact not_passed_of_unknown needs ⟨_, congrArg (known · _) missing⟩ frequency.1.2
  case entryPrice => exact not_passed_of_unknown needs (riskReward_unknown (.inl missing)) reward
  case takeProfit =>
    exact not_passed_of_unknown needs (riskReward_unknown (.inr (.inr missing))) reward
  all_goals cases closed

def silentLimits : RiskLimits :=
  { cap := fun
      | .maxExposurePerCurrency => some 10
      | .maxMarginUtilisationPct => some 50
      | _ => none
    floor := fun f => if f = .cooldownSeconds then some 60 else none
    flag := Flag.default }

def silentProposal : OrderProposal :=
  { symbol := "EURUSD", side := "buy", mode := .paper, volume := some 100, entryPrice := none,
    stopLoss := some 1, takeProfit := none, accountId := none, strategyId := none,
    signalId := none }

def silentStatement : Statement :=
  { openSymbols := none, exposureByCurrency := none
    others := { equity := some 1000, marginUsed := some 0 } }

theorem silent_approved :
    (RiskEngine.evaluate ⟨silentLimits, {}⟩ silentProposal silentStatement.portfolio 0
      []).approved = true := by
  decide +kernel

theorem silent_needs {d : Datum} (opens : d.failsOpen = true) :
    d.Needs silentLimits ∧ d.Missing silentProposal silentStatement := by
  cases d
  case openSymbols => exact ⟨rfl, rfl⟩
  case exposure => exact ⟨Option.some_ne_none _, rfl⟩
  case baseCurrency => exact ⟨Option.some_ne_none _, rfl⟩
  case quoteCurrency => exact ⟨Option.some_ne_none _, rfl⟩
  case marginRequired => exact ⟨Option.some_ne_none _, rfl⟩
  case lastTradeAt => exact ⟨⟨60, rfl, by decide⟩, rfl⟩
  all_goals cases opens

/-- **Unknown is not permission.** Of a fact that a configured limit needs and nobody supplied, no
order is approved, exactly when the fact is not one of those that fail open. -/
theorem refused_of_missing_iff (d : Datum) :
    (∀ (limits : RiskLimits) (switches : KillSwitches) (proposal : OrderProposal) (s : Statement)
        (now : Time) (recentSignalIds : List String),
        d.Needs limits → d.Missing proposal s →
        (RiskEngine.evaluate ⟨limits, switches⟩ proposal s.portfolio now
          recentSignalIds).approved = false) ↔
      d.failsOpen = false := by
  constructor
  · intro refused
    cases opens : d.failsOpen with
    | false => rfl
    | true =>
      obtain ⟨needs, missing⟩ := silent_needs opens
      have refused := refused silentLimits {} silentProposal silentStatement 0 [] needs missing
      rw [silent_approved] at refused
      exact absurd refused (by decide)
  · intro closed limits switches proposal s now recentSignalIds needs missing
    by_contra approved
    rw [Bool.not_eq_false, RiskEngine.approved_iff] at approved
    exact not_passed_reported closed needs missing approved.2

/-- An order is approved of a portfolio nobody named the open symbols of. -/
theorem not_forall_refused :
    ¬ ∀ (limits : RiskLimits) (switches : KillSwitches) (proposal : OrderProposal) (s : Statement)
        (now : Time) (recentSignalIds : List String) (d : Datum),
        d.Needs limits → d.Missing proposal s →
        (RiskEngine.evaluate ⟨limits, switches⟩ proposal s.portfolio now
          recentSignalIds).approved = false := by
  intro refused
  obtain ⟨needs, missing⟩ := silent_needs (d := .openSymbols) rfl
  have refused := refused silentLimits {} silentProposal silentStatement 0 [] .openSymbols needs
    missing
  rw [silent_approved] at refused
  exact absurd refused (by decide)

end TradeResearch.Risk
