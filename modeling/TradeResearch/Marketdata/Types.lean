import TradeResearch.Lib.Text

/-!
# Market data

`backend/app/marketdata/types.py`: a candle, as every provider is normalized to one, with the check
of one from `backend/app/marketdata/validation.py`. What the provider and the spread of a bar are is
left out.
-/

namespace TradeResearch.Marketdata

inductive Timeframe where
  | m1
  | m5
  | m15
  | m30
  | h1
  | h4
  | d1
  | w1
  deriving DecidableEq, Repr, Inhabited

def Timeframe.name : Timeframe → String
  | m1 => "M1"
  | m5 => "M5"
  | m15 => "M15"
  | m30 => "M30"
  | h1 => "H1"
  | h4 => "H4"
  | d1 => "D1"
  | w1 => "W1"

structure Bar where
  symbol : String
  timeframe : Timeframe
  barTime : Time
  open_ : ℚ
  high : ℚ
  low : ℚ
  close : ℚ
  volume : Option ℚ := none
  complete : Bool := true
  deriving DecidableEq, Inhabited

def epoch (time : Time) : ℤ := time.num.tdiv time.den

def Bar.epoch (bar : Bar) : ℤ := Marketdata.epoch bar.barTime

def ohlcIsConsistent (bar : Bar) : Bool :=
  bar.low ≤ bar.open_ ∧ bar.open_ ≤ bar.high ∧ bar.low ≤ bar.close ∧ bar.close ≤ bar.high ∧
    bar.low ≤ bar.high

end TradeResearch.Marketdata
