import Mathlib.Data.Rat.Floor
import TradeResearch.Lib.Lookahead
import TradeResearch.Strategies.Definition

/-!
# The feature engine

`backend/app/datasets/features.py`: bars in, one row a bar out. A number is a rational, so that
every one is finite; `math.log` and `math.sqrt` are parameters. Of a specification the name and the
lookback are kept, and a bar is stamped in UTC.

* `Columns.of_take`: every series the engine reads is causal.
* `within_featureRows`: so is the row.
-/

namespace TradeResearch.Datasets

open Marketdata Lookahead

inductive Feature where
  | return1
  | return5
  | logReturn1
  | bodyPct
  | rangePct
  | upperWickPct
  | lowerWickPct
  | smaDistance20
  | emaDistance20
  | emaSpread10_50
  | rsi14
  | roc10
  | atrPct14
  | volatility20
  | atrRatio14_50
  | volumeChange1
  | relativeVolume20
  | high20Distance
  | low20Distance
  | hourUtc
  | dayOfWeek
  | isRolloverHour
  deriving DecidableEq, Repr

namespace Feature

def name : Feature → String
  | return1 => "return_1"
  | return5 => "return_5"
  | logReturn1 => "log_return_1"
  | bodyPct => "body_pct"
  | rangePct => "range_pct"
  | upperWickPct => "upper_wick_pct"
  | lowerWickPct => "lower_wick_pct"
  | smaDistance20 => "sma_distance_20"
  | emaDistance20 => "ema_distance_20"
  | emaSpread10_50 => "ema_spread_10_50"
  | rsi14 => "rsi_14"
  | roc10 => "roc_10"
  | atrPct14 => "atr_pct_14"
  | volatility20 => "volatility_20"
  | atrRatio14_50 => "atr_ratio_14_50"
  | volumeChange1 => "volume_change_1"
  | relativeVolume20 => "relative_volume_20"
  | high20Distance => "high_20_distance"
  | low20Distance => "low_20_distance"
  | hourUtc => "hour_utc"
  | dayOfWeek => "day_of_week"
  | isRolloverHour => "is_rollover_hour"

def lookback : Feature → ℕ
  | bodyPct | rangePct | upperWickPct | lowerWickPct | hourUtc | dayOfWeek | isRolloverHour => 0
  | return1 | logReturn1 | volumeChange1 => 1
  | return5 => 5
  | roc10 => 10
  | rsi14 | atrPct14 => 14
  | smaDistance20 | emaDistance20 | volatility20 | relativeVolume20 | high20Distance
  | low20Distance => 20
  | emaSpread10_50 | atrRatio14_50 => 50

def catalogue : List Feature :=
  [return1, return5, logReturn1, bodyPct, rangePct, upperWickPct, lowerWickPct, smaDistance20,
    emaDistance20, emaSpread10_50, rsi14, roc10, atrPct14, volatility20, atrRatio14_50,
    volumeChange1, relativeVolume20, high20Distance, low20Distance, hourUtc, dayOfWeek,
    isRolloverHour]

end Feature

inductive FeatureError where
  | unknown (name : String)
  deriving DecidableEq, Repr

def specFor (name : String) : Except FeatureError Feature :=
  match Feature.catalogue.find? fun f => f.name = name with
  | some f => .ok f
  | none => .error (.unknown name)

def warmupFor (names : List Feature) : ℕ := (names.map Feature.lookback).foldr max 0

structure Maths where
  log : ℚ → ℚ
  sqrt : ℚ → ℚ

def ratio : Option ℚ → Option ℚ → Option ℚ
  | some numerator, some denominator =>
    if denominator = 0 then none else some (numerator / denominator)
  | _, _ => none

def distance : Option ℚ → Option ℚ → Option ℚ
  | some value, some base => if base = 0 then none else some (value / base - 1)
  | _, _ => none

def trailing {α : Type} (values : List α) (index window : ℕ) : List α :=
  (values.take (index + 1)).drop (index + 1 - window)

def stdev (maths : Maths) (values : List (Option ℚ)) (index window : ℕ) : Option ℚ :=
  if index + 1 < window then none
  else
    let windowValues := trailing values index window
    if windowValues.any Option.isNone then none
    else
      let sample := windowValues.filterMap id
      let mean := sample.sum / sample.length
      let squares : List ℚ := sample.map fun v => (v - mean) ^ 2
      some (maths.sqrt (squares.sum / (sample.length - 1)))

def relativeVolume (volumes : List (Option ℚ)) (index window : ℕ) : Option ℚ :=
  if index + 1 < window then none
  else
    let windowValues := trailing volumes index window
    if windowValues.any Option.isNone then none
    else
      let sample := windowValues.filterMap id
      ratio sample.getLast? (some (sample.sum / sample.length))

def hour (at_ : Time) : ℤ := ⌊at_ / 3600⌋ % 24

def weekday (at_ : Time) : ℤ := (⌊at_ / 86400⌋ + 3) % 7

def rolloverHourUtc : ℤ := 21

structure Columns where
  times : List Time
  open_ : List ℚ
  high : List ℚ
  low : List ℚ
  close : List ℚ
  volume : List (Option ℚ)
  sma20 : List (Option ℚ)
  ema20 : List (Option ℚ)
  ema10 : List (Option ℚ)
  ema50 : List (Option ℚ)
  rsi14 : List (Option ℚ)
  atr14 : List (Option ℚ)
  atr50 : List (Option ℚ)
  logReturns : List (Option ℚ)

def logReturns (maths : Maths) (close : List ℚ) : List (Option ℚ) :=
  (List.range close.length).map fun i =>
    if i = 0 then none
    else
      let prior := close.getD (i - 1) 0
      let now := close.getD i 0
      if 0 < prior ∧ 0 < now then some (maths.log (now / prior)) else none

namespace Columns

theorem ten_bounds : 2 ≤ 10 ∧ 10 ≤ 500 := by decide

theorem fourteen_bounds : 2 ≤ 14 ∧ 14 ≤ 500 := by decide

theorem twenty_bounds : 2 ≤ 20 ∧ 20 ≤ 500 := by decide

theorem fifty_bounds : 2 ≤ 50 ∧ 50 ≤ 500 := by decide

def of (maths : Maths) (bars : List Bar) : Columns where
  times := bars.map Bar.barTime
  open_ := bars.map Bar.open_
  high := bars.map Bar.high
  low := bars.map Bar.low
  close := bars.map Bar.close
  volume := bars.map Bar.volume
  sma20 := Strategies.compute .sma ⟨20, twenty_bounds⟩ bars
  ema20 := Strategies.compute .ema ⟨20, twenty_bounds⟩ bars
  ema10 := Strategies.compute .ema ⟨10, ten_bounds⟩ bars
  ema50 := Strategies.compute .ema ⟨50, fifty_bounds⟩ bars
  rsi14 := Strategies.compute .rsi ⟨14, fourteen_bounds⟩ bars
  atr14 := Strategies.compute .atr ⟨14, fourteen_bounds⟩ bars
  atr50 := Strategies.compute .atr ⟨50, fifty_bounds⟩ bars
  logReturns := Datasets.logReturns maths (bars.map Bar.close)

def value (maths : Maths) (c : Columns) (i : ℕ) : Feature → Option ℚ :=
  let close := c.close.getD i 0
  let open_ := c.open_.getD i 0
  let high := c.high.getD i 0
  let low := c.low.getD i 0
  let back (n : ℕ) : Option ℚ :=
    if n ≤ i then distance (some close) (some (c.close.getD (i - n) 0)) else none
  let at_ := c.times.getD i 0
  fun
  | .return1 => back 1
  | .return5 => back 5
  | .logReturn1 => c.logReturns.getD i none
  | .bodyPct => ratio (some (close - open_)) (some close)
  | .rangePct => ratio (some (high - low)) (some close)
  | .upperWickPct => ratio (some (high - max open_ close)) (some close)
  | .lowerWickPct => ratio (some (min open_ close - low)) (some close)
  | .smaDistance20 => distance (some close) (c.sma20.getD i none)
  | .emaDistance20 => distance (some close) (c.ema20.getD i none)
  | .emaSpread10_50 => distance (c.ema10.getD i none) (c.ema50.getD i none)
  | .rsi14 => c.rsi14.getD i none
  | .roc10 => back 10
  | .atrPct14 => ratio (c.atr14.getD i none) (some close)
  | .volatility20 => stdev maths c.logReturns i 20
  | .atrRatio14_50 => ratio (c.atr14.getD i none) (c.atr50.getD i none)
  | .volumeChange1 =>
    if 1 ≤ i then distance (c.volume.getD i none) (c.volume.getD (i - 1) none) else none
  | .relativeVolume20 => relativeVolume c.volume i 20
  | .high20Distance =>
    if 19 ≤ i then distance (some close) (trailing c.high i 20).max? else none
  | .low20Distance =>
    if 19 ≤ i then distance (some close) (trailing c.low i 20).min? else none
  | .hourUtc => some (hour at_)
  | .dayOfWeek => some (weekday at_)
  | .isRolloverHour => some (if hour at_ = rolloverHourUtc then 1 else 0)

end Columns

abbrev FeatureRow := List (Feature × Option ℚ)

def featureRows (maths : Maths) (wanted : List Feature) (bars : List Bar) : List FeatureRow :=
  let c := Columns.of maths bars
  (List.range bars.length).map fun i =>
    (Feature.catalogue.filter (· ∈ wanted)).map fun f => (f, c.value maths i f)

def computeFeatures (maths : Maths) (bars : List Bar) (names : List String) :
    Except FeatureError (List FeatureRow) := do
  let wanted ← names.mapM specFor
  return featureRows maths wanted bars

def featureRowIsComplete (row : FeatureRow) (names : List Feature) : Bool :=
  names.all fun name => ((row.lookup name).getD none).isSome

variable {α : Type}

theorem getD_take {xs : List α} {i k : ℕ} {blank : α} (inside : i < k) :
    (xs.take k).getD i blank = xs.getD i blank := by
  rw [List.getD_eq_getElem?_getD, List.getD_eq_getElem?_getD, List.getElem?_take_of_lt inside]

theorem trailing_take {xs : List α} {i k window : ℕ} (inside : i < k) :
    trailing (xs.take k) i window = trailing xs i window := by
  unfold trailing
  rw [List.take_take, min_eq_left (by omega)]

theorem compute_take (indicator : Strategies.Indicator) (period : Strategies.Period)
    (bars : List Bar) (k : ℕ) :
    Strategies.compute indicator period (bars.take k) =
      (Strategies.compute indicator period bars).take k := by
  have pos : 0 < period.bars := by have := period.bounds.1; omega
  cases indicator with
  | sma => exact (congrArg (Tools.sma · _) List.map_take).trans (Tools.sma_take pos _ k)
  | ema => exact (congrArg (Tools.ema · _) List.map_take).trans (Tools.ema_take pos _ k)
  | rsi => exact (congrArg (Tools.wilderRsi · _) List.map_take).trans (Tools.wilderRsi_take pos _ k)
  | atr => exact Tools.atrSeries_take bars _ k

theorem logReturns_take (maths : Maths) (close : List ℚ) (k : ℕ) :
    logReturns maths (close.take k) = (logReturns maths close).take k := by
  unfold logReturns
  rw [← List.map_take, List.take_range, List.length_take]
  refine List.map_congr_left fun i inside => ?_
  have before : i < k := by
    have := List.mem_range.mp inside
    omega
  rw [getD_take before, getD_take (by omega)]

namespace Columns

def take (c : Columns) (k : ℕ) : Columns where
  times := c.times.take k
  open_ := c.open_.take k
  high := c.high.take k
  low := c.low.take k
  close := c.close.take k
  volume := c.volume.take k
  sma20 := c.sma20.take k
  ema20 := c.ema20.take k
  ema10 := c.ema10.take k
  ema50 := c.ema50.take k
  rsi14 := c.rsi14.take k
  atr14 := c.atr14.take k
  atr50 := c.atr50.take k
  logReturns := c.logReturns.take k

theorem of_take (maths : Maths) (bars : List Bar) (k : ℕ) :
    of maths (bars.take k) = (of maths bars).take k := by
  unfold of take
  simp only [List.map_take, compute_take, logReturns_take]

theorem value_take (maths : Maths) (c : Columns) {i k : ℕ} (inside : i < k) (f : Feature) :
    (c.take k).value maths i f = c.value maths i f := by
  have before : ∀ n, i - n < k := fun n => by omega
  cases f <;>
    simp only [value, take, stdev, relativeVolume, getD_take inside, getD_take (before _),
      trailing_take inside]

end Columns

theorem within_featureRows (maths : Maths) (wanted : List Feature) :
    Within 0 (featureRows maths wanted) := by
  have cut : featureRows maths wanted = fun bars => (List.range bars.length).map fun i =>
      (Feature.catalogue.filter (· ∈ wanted)).map fun f =>
        (f, (Columns.of maths (bars.take (i + 1))).value maths i f) := by
    funext bars
    refine List.map_congr_left fun i _ => List.map_congr_left fun f _ => ?_
    rw [Columns.of_take, Columns.value_take _ _ (Nat.lt_succ_self i)]
  rw [cut]
  exact within_trailing fun upTo i => (Feature.catalogue.filter (· ∈ wanted)).map fun f =>
    (f, (Columns.of maths upTo).value maths i f)

end TradeResearch.Datasets
