import Mathlib.Data.List.Sort
import TradeResearch.Marketdata.Types

/-!
# The contract of a strategy

`backend/app/strategies/base.py`: what a strategy is given and what it says. Prices are rationals
and decimal arithmetic is exact.
-/

namespace TradeResearch.Strategies

open Marketdata

inductive SignalType where
  | entryLong
  | entryShort
  | exitLong
  | exitShort
  | close
  | hold
  | noSignal
  deriving DecidableEq, Repr

namespace SignalType

def isActionable (s : SignalType) : Bool := s ≠ hold ∧ s ≠ noSignal

def name : SignalType → String
  | entryLong => "ENTRY_LONG"
  | entryShort => "ENTRY_SHORT"
  | exitLong => "EXIT_LONG"
  | exitShort => "EXIT_SHORT"
  | close => "CLOSE"
  | hold => "HOLD"
  | noSignal => "NO_SIGNAL"

end SignalType

structure StrategySignal where
  strategyKey : String
  symbol : String
  timeframe : Timeframe
  signalType : SignalType
  barTime : Time
  generatedAt : Time
  strategyVersion : Option ℕ := none
  referencePrice : Option ℚ := none
  confidence : Option ℚ := none
  suggestedStopLoss : Option ℚ := none
  suggestedTakeProfit : Option ℚ := none
  reasoning : Text := []
  metadata : List (String × Text) := []

structure Candles where
  symbol : String
  timeframe : Timeframe
  bars : List Bar

def Candles.of (symbol : String) (timeframe : Timeframe) (bars : List Bar) : Candles :=
  { symbol, timeframe
    bars := (bars.filter Bar.complete).insertionSort fun b b' => b.barTime ≤ b'.barTime }

structure Strategy where
  key : String
  generateSignal : Candles → Time → Except String StrategySignal

def noSignal (key : String) (candles : Candles) (now : Time) (reason : Text) : StrategySignal :=
  { strategyKey := key
    symbol := candles.symbol
    timeframe := candles.timeframe
    signalType := .noSignal
    barTime := (candles.bars.getLast?.map Bar.barTime).getD now
    generatedAt := now
    reasoning := reason }

end TradeResearch.Strategies
