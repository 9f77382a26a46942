import TradeResearch.Backtest.Runner

/-!
# A refused size and the bars it covers

A trade whose size is refused was never opened, and an account that sizes as it goes is free for the
next signal. The runner sizes after the simulator has walked on behind the trade.

* `reported` is what the runner reports, with the trades of the simulator it is made of.
* `sequential` is what the account that sizes as it goes makes.
* `reported_eq_sequential_iff`: when they agree.
-/

namespace TradeResearch.Backtest

open Marketdata Symbols Tools

section Refusals

variable (rounded : ℕ → ℚ → ℚ) (config : BacktestConfig) (spec : Option ContractSpec)
  (bars : List Bar) (signals : List ℤ)

def standing : ℕ → Option (RawTrade × ℕ) := visit config.terms bars signals (atrSeries bars 14)

def sizedFrom : ℚ → RawTrade → Option ((RawTrade × TradeRecord) × ℚ) :=
  settle rounded config spec bars (atrSeries bars 14)

def reported : List (RawTrade × TradeRecord) :=
  Walk.settleAll (sizedFrom rounded config spec bars) config.initialCapital
    (simulate config.terms bars signals (atrSeries bars 14))

def sequential : List (RawTrade × TradeRecord) :=
  Walk.account (standing config bars signals) (sizedFrom rounded config spec bars)
    (bars.length - 1) config.initialCapital firstEntry

def HidesNothing : Prop :=
  Walk.Clear (standing config bars signals) (sizedFrom rounded config spec bars)
    (bars.length - 1) config.initialCapital
    (Walk.positions (standing config bars signals) (bars.length - 1) firstEntry)

end Refusals

theorem sizedFrom_eq_some {balance after : ℚ} {t : RawTrade} {made : RawTrade × TradeRecord}
    (sized : sizedFrom rounded config spec bars balance t = some (made, after)) : made.1 = t := by
  unfold sizedFrom settle at sized
  split at sized
  · cases sized
  · cases sized
    rfl

/-- The records of a run are those of its reported trades, and these are the trades of the account
that sizes as it goes exactly when no refused trade hides one that would be sized. -/
theorem reported_eq_sequential_iff {result : BacktestResult}
    (ran : runOn rounded config spec bars signals = .ok result) :
    result.trades = (reported rounded config spec bars signals).map Prod.snd ∧
      (reported rounded config spec bars signals = sequential rounded config spec bars signals ↔
        HidesNothing rounded config spec bars signals) := by
  refine ⟨?_, ?_⟩
  · rw [(of_runOn ran).1, enrichFrom_fst]
    rfl
  · refine Walk.settleAll_eq_account_iff (fun made => made.1.entryIdx) ?_ _ _
    intro k t span balance made after found sized
    obtain ⟨a, first, rest, -, -, -, -, rfl, -⟩ := visit_eq_some.mp found
    rw [sizedFrom_eq_some sized]
    rfl

def wholeUnits : ContractSpec :=
  { internalSymbol := "EURUSD", brokerSymbol := "EURUSD", provider := "mt5", contractSize := 1,
    tickSize := 1, tickValue := 1, minimumVolume := 1, maximumVolume := 100, volumeStep := 1,
    pricePrecision := 5, volumePrecision := 0 }

def tenAtRisk : BacktestConfig :=
  { plain with sizingMode := .fixedRisk, riskAmount := some 10 }

def wide : List Bar := ((List.range 63).map calm).set 46 { calm 46 with high := 10000 }

theorem reported_eq_sequential_iff_wide :
    ∃ result, runOn unrounded tenAtRisk (some wholeUnits) wide (buyThere [0, 0, 0]) = .ok result ∧
      result.trades = (reported unrounded tenAtRisk (some wholeUnits) wide
        (buyThere [0, 0, 0])).map Prod.snd ∧
      (reported unrounded tenAtRisk (some wholeUnits) wide (buyThere [0, 0, 0]) =
          sequential unrounded tenAtRisk (some wholeUnits) wide (buyThere [0, 0, 0]) ↔
        HidesNothing unrounded tenAtRisk (some wholeUnits) wide (buyThere [0, 0, 0])) :=
  ⟨_, rfl, reported_eq_sequential_iff rfl⟩

/-- A buy is refused on the range of the wide bar; the buy on the next bar would not be, and is not
reported. -/
theorem not_forall_reported_eq_sequential :
    ¬ ∀ rounded config spec bars signals result, BacktestConfig.validate config = .ok () →
      runOn rounded config spec bars signals = .ok result →
        result.trades = (sequential rounded config spec bars signals).map Prod.snd := by
  intro all
  have valid : tenAtRisk.validate = .ok () := by
    simp only [BacktestConfig.validate, BacktestConfig.ite_error_eq_ok, and_true]
    decide +kernel
  have same := all unrounded tenAtRisk (some wholeUnits) wide (buyThere [1, 0, 0]) _ valid rfl
  have hidden : (enrichFrom unrounded tenAtRisk (some wholeUnits) wide (atrSeries wide 14)
      tenAtRisk.initialCapital (simulate tenAtRisk.terms wide (buyThere [1, 0, 0])
        (atrSeries wide 14))).1.length = 0 := by
    decide +kernel
  have taken : (sequential unrounded tenAtRisk (some wholeUnits) wide
      (buyThere [1, 0, 0])).length = 1 := by
    decide +kernel
  have lengths := congrArg List.length same
  rw [List.length_map, taken] at lengths
  exact absurd (hidden.symm.trans lengths) (by decide)

end TradeResearch.Backtest
