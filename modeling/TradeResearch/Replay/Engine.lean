import TradeResearch.Backtest.Runner
import TradeResearch.Risk.Engine

/-!
# The replay engine

`backend/app/replay/engine.py`: the rules of the simulator, one bar at a time. `rounded` is Python's
`round`, with the number of places first. The events a step returns are left out.

* `feed` gives the engine the first bars in order.
-/

namespace TradeResearch.Replay

open Marketdata Strategies Tools Backtest Risk

structure OpenPosition where
  side : Side
  entryIndex : ℕ
  entryTime : Time
  entryPrice : ℚ
  stopLoss : ℚ
  takeProfit : ℚ

def OpenPosition.unrealised (p : OpenPosition) (price : ℚ) : ℚ :=
  match p.side with
  | .long => price - p.entryPrice
  | .short => p.entryPrice - price

structure Trade extends Figures where
  executionMode : String := "REPLAY"
  deriving DecidableEq

structure EquityPoint where
  at_ : Time
  balance : ℚ
  equity : ℚ
  unrealisedPoints : ℚ
  drawdown : ℚ
  drawdownPct : ℚ

structure ReplayPortfolio where
  initialBalance : ℚ
  quantity : ℚ
  balance : ℚ
  peak : ℚ
  trades : List Trade
  equityCurve : List EquityPoint

namespace ReplayPortfolio

variable (p : ReplayPortfolio)

def record (trade : Trade) : ReplayPortfolio :=
  { p with
    trades := p.trades ++ [trade]
    balance := p.balance + trade.netMoney
    peak := max p.peak (p.balance + trade.netMoney) }

def mark (rounded : ℕ → ℚ → ℚ) (at_ : Time) (unrealisedPoints : ℚ) : ReplayPortfolio :=
  let equity := p.balance + unrealisedPoints * p.quantity
  let drawdown := max 0 (p.peak - equity)
  { p with
    equityCurve := p.equityCurve ++
      [{ at_
         balance := rounded 6 p.balance
         equity := rounded 6 equity
         unrealisedPoints := rounded 6 unrealisedPoints
         drawdown := rounded 6 drawdown
         drawdownPct := if 0 < p.peak then rounded 6 (drawdown / p.peak * 100) else 0 }] }

end ReplayPortfolio

structure Setup where
  config : BacktestConfig
  strategy : Strategy
  bars : List Bar
  atr : List (Option ℚ)
  risk : RiskEngine
  accountId : Option String

def permissive : RiskEngine :=
  { limits :=
      { RiskLimits.default with
        flag := fun flag =>
          match flag with
          | .onePositionPerSymbol | .requireStopLoss => false
          | flag => Flag.default flag }
    switches := {} }

structure ReplayEngine where
  portfolio : ReplayPortfolio
  position : Option OpenPosition
  nextEntryAllowedFrom : ℕ
  signals : List ℤ
  riskVerdicts : List RiskVerdict

section Engine

variable (rounded : ℕ → ℚ → ℚ) (setup : Setup)

def fresh : ReplayEngine :=
  { portfolio :=
      { initialBalance := setup.config.initialCapital
        quantity := setup.config.quantity
        balance := setup.config.initialCapital
        peak := setup.config.initialCapital
        trades := []
        equityCurve := [] }
    position := none
    nextEntryAllowedFrom := firstEntry
    signals := []
    riskVerdicts := [] }

def booked (quantity : ℚ) (position : OpenPosition) (bar : Bar) (exitPrice : ℚ)
    (reason : ExitReason) (held : ℕ) : Trade :=
  let gross := position.unrealised exitPrice
  let nights :=
    if setup.config.swap.isSome then nightsBetween (epoch position.entryTime) bar.epoch none else 0
  let rates := setup.config.swap.getD (0, 0)
  let rate : ℚ := match position.side with
    | .long => rates.1
    | .short => rates.2
  let financing : ℚ := nights * rate
  let netPoints :=
    gross - setup.config.costs.spreadPoints - setup.config.costs.slippagePoints + financing
  { side := position.side
    entryTime := position.entryTime
    exitTime := bar.barTime
    entryPrice := position.entryPrice
    exitPrice
    barsHeld := held
    exitReason := reason
    grossPoints := rounded 6 gross
    netPoints := rounded 6 netPoints
    financing := rounded 6 financing
    nights
    netMoney := rounded 6 (netPoints * quantity - setup.config.costs.commissionPerTrade) }

def close (e : ReplayEngine) (position : OpenPosition) (index : ℕ) (bar : Bar) (exitPrice : ℚ)
    (reason : ExitReason) (held : ℕ) : ReplayEngine :=
  { e with
    portfolio := e.portfolio.record
      (booked rounded setup e.portfolio.quantity position bar exitPrice reason held)
    position := none
    -- flat before the next entry
    nextEntryAllowedFrom := index + 1 }

def checkExit (e : ReplayEngine) (position : OpenPosition) (index : ℕ) (bar : Bar) : ReplayEngine :=
  let held := index - position.entryIndex + 1
  let hitStop : Bool :=
    match position.side with
    | .long => bar.low ≤ position.stopLoss
    | .short => position.stopLoss ≤ bar.high
  let hitTarget : Bool :=
    match position.side with
    | .long => position.takeProfit ≤ bar.high
    | .short => bar.low ≤ position.takeProfit
  if hitStop then close rounded setup e position index bar position.stopLoss .sl held
  else if hitTarget then close rounded setup e position index bar position.takeProfit .tp held
  else if setup.config.maxHoldBars ≤ held then
    close rounded setup e position index bar bar.close .timeout held
  else e

def proposal (e : ReplayEngine) (bar : Bar) (side : Side) (entry stop target : ℚ) :
    OrderProposal :=
  { symbol := bar.symbol
    side := match side with
      | .long => "buy"
      | .short => "sell"
    mode := .paper
    volume := some e.portfolio.quantity
    entryPrice := some entry
    stopLoss := some stop
    takeProfit := some target
    accountId := setup.accountId
    strategyId := some setup.strategy.key
    signalId := none
    signalTime := some bar.barTime }

def portfolioState (e : ReplayEngine) : PortfolioState :=
  { equity := some e.portfolio.balance
    balance := some e.portfolio.balance
    openPositions := some (if e.position.isNone then 0 else 1)
    peakEquity := some e.portfolio.peak }

def maybeOpen (e : ReplayEngine) (index : ℕ) (bar : Bar) : ReplayEngine :=
  if setup.bars.length - 1 ≤ index ∨ index < e.nextEntryAllowedFrom ∨ index = 0 then e
  else
    let signal := e.signals.getD (index - 1) 0
    if signal = 0 then e
    else
      match (setup.atr.getD (index - 1) none).filter (0 < ·) with
      | none => e
      | some atr =>
        let entry := bar.open_
        let side : Side := if 0 < signal then .long else .short
        let levels : ℚ × ℚ :=
          if 0 < signal then
            (entry - setup.config.stopAtr * atr, entry + setup.config.targetAtr * atr)
          else (entry + setup.config.stopAtr * atr, entry - setup.config.targetAtr * atr)
        let verdict := setup.risk.evaluate (proposal setup e bar side entry levels.1 levels.2)
          (portfolioState e) bar.barTime []
        let e := { e with riskVerdicts := e.riskVerdicts ++ [verdict] }
        if verdict.approved then
          { e with
            position := some
              { side
                entryIndex := index
                entryTime := bar.barTime
                entryPrice := entry
                stopLoss := levels.1
                takeProfit := levels.2 } }
        else { e with nextEntryAllowedFrom := index + 1 }

def step (e : ReplayEngine) (index : ℕ) : ReplayEngine :=
  let bar := setup.bars.getD index default
  -- the strategy sees the bars up to this one
  let signal := signalAt setup.strategy setup.config.symbol setup.config.timeframe setup.bars index
  let e := { e with signals := e.signals ++ [signal] }
  -- an open position is checked before anything is opened
  let e := match e.position with
    | some position => checkExit rounded setup e position index bar
    | none => e
  -- an entry takes the signal of the bar before, and this bar's open
  let e := if e.position.isNone then maybeOpen setup e index bar else e
  let unrealised := (e.position.map fun position => position.unrealised bar.close).getD 0
  { e with portfolio := e.portfolio.mark rounded bar.barTime unrealised }

def finalise (e : ReplayEngine) : ReplayEngine :=
  match e.position, setup.bars.getLast? with
  | some position, some bar =>
    let lastIndex := setup.bars.length - 1
    close rounded setup e position lastIndex bar bar.close .timeout
      (lastIndex - position.entryIndex + 1)
  | _, _ => e

def feed (m : ℕ) : ReplayEngine := (List.range m).foldl (step rounded setup) (fresh setup)

def runToCompletion : ReplayEngine :=
  finalise rounded setup (feed rounded setup setup.bars.length)

theorem feed_succ (m : ℕ) :
    feed rounded setup (m + 1) = step rounded setup (feed rounded setup m) m := by
  unfold feed
  rw [List.range_succ, List.foldl_append]
  rfl

theorem finalise_of_flat {e : ReplayEngine} (flat : e.position = none) :
    finalise rounded setup e = e := by
  unfold finalise
  rw [flat]

theorem finalise_finalise (e : ReplayEngine) :
    finalise rounded setup (finalise rounded setup e) = finalise rounded setup e := by
  cases held : e.position with
  | none => rw [finalise_of_flat rounded setup held, finalise_of_flat rounded setup held]
  | some position =>
    cases last : setup.bars.getLast? with
    | none =>
      have same : finalise rounded setup e = e := by
        unfold finalise
        rw [held, last]
      rw [same, same]
    | some bar =>
      unfold finalise
      rw [held, last]
      rfl

end Engine

end TradeResearch.Replay
