import TradeResearch.Sizing.Calculator
import TradeResearch.Strategies.Base
import TradeResearch.Tools.Simulate

/-!
# The backtest runner

`backend/app/backtest/runner.py` and `backend/app/backtest/config.py`: a strategy is asked about
each bar over the bars up to it, the simulator trades on what it said, and each trade is then sized
and priced. `rounded` is Python's `round`, with the number of places first. The quality report
beside a result and its metrics are left out.

* `buildSignalVector_take`: a signal is decided by the bars up to it.
* `enrichFrom_fst`: what is reported is what the simulator found, settled against the balance.
* `traded_causal`: what a run on the first bars completes is in its place in a run on all of them.
-/

namespace TradeResearch.Backtest

open Marketdata Strategies Symbols Sizing Tools

def unrounded : ℕ → ℚ → ℚ := fun _ x => x

inductive SizingMode where
  | fixedQuantity
  | fixedRisk
  | percentEquity
  deriving DecidableEq, Repr

def SizingMode.name : SizingMode → String
  | fixedQuantity => "fixed_quantity"
  | fixedRisk => "fixed_risk"
  | percentEquity => "percent_equity"

structure CostModel where
  spreadPoints : ℚ
  commissionPerTrade : ℚ := 0
  slippagePoints : ℚ := 0
  swapLongPerNight : Option ℚ := none
  swapShortPerNight : Option ℚ := none

structure BacktestConfig where
  symbol : String
  timeframe : Timeframe
  costs : CostModel
  start : Option Time := none
  end_ : Option Time := none
  initialCapital : ℚ := 100000
  sizingMode : SizingMode := .fixedQuantity
  quantity : ℚ := 1 / 100
  riskAmount : Option ℚ := none
  riskPercent : Option ℚ := none
  stopAtr : ℚ := 3 / 2
  targetAtr : ℚ := 3 / 2
  maxHoldBars : ℕ := 240
  maxBars : ℕ := 5000

def maxBars : ℕ := 200000

def maxDays : ℕ := 3650

namespace BacktestConfig

def window (c : BacktestConfig) (p : Time → Time → Bool) : Bool :=
  match c.start, c.end_ with
  | some start, some end_ => p start end_
  | _, _ => false

def validate (c : BacktestConfig) : Except Text Unit :=
  if c.window fun start end_ => end_ ≤ start then .error (Text.lit "start must be before end")
  else if c.window fun start end_ => (maxDays : ℤ) < ⌊(end_ - start) / 86400⌋ then
    .error (Text.lit s!"the window is longer than {maxDays} days")
  else if c.initialCapital ≤ 0 then .error (Text.lit "initial_capital must be positive")
  else if c.quantity ≤ 0 then .error (Text.lit "quantity must be positive")
  else if c.costs.spreadPoints < 0 then .error (Text.lit "spread_points cannot be negative")
  else if c.stopAtr ≤ 0 ∨ c.targetAtr ≤ 0 then
    .error (Text.lit "stop_atr and target_atr must be positive")
  else if ¬ (1 ≤ c.maxHoldBars ∧ c.maxHoldBars ≤ 10000) then
    .error (Text.lit "max_hold_bars must be between 1 and 10000")
  else if ¬ (100 ≤ c.maxBars ∧ c.maxBars ≤ Backtest.maxBars) then
    .error (Text.lit s!"max_bars must be between 100 and {Backtest.maxBars}")
  else if c.sizingMode = .fixedRisk ∧ ¬ c.riskAmount.any fun amount => 0 < amount then
    .error (Text.lit "fixed_risk sizing needs a positive risk_amount")
  else if c.sizingMode = .percentEquity ∧
      ¬ c.riskPercent.any fun percent => 0 < percent ∧ percent ≤ 100 then
    .error (Text.lit "percent_equity sizing needs a risk_percent between 0 and 100")
  else .ok ()

theorem ite_error_eq_ok {ε α : Type} {p : Prop} [Decidable p] {e : ε} {x : Except ε α} {a : α} :
    (if p then .error e else x) = .ok a ↔ ¬ p ∧ x = .ok a := by
  by_cases holds : p
  · simp [holds]
  · simp [holds]

theorem of_validate {c : BacktestConfig} (valid : c.validate = .ok ()) :
    0 < c.quantity ∧ 1 ≤ c.maxHoldBars := by
  simp only [validate, ite_error_eq_ok] at valid
  obtain ⟨-, -, -, quantity, -, -, hold, -⟩ := valid
  exact ⟨not_le.mp quantity, (not_not.mp hold).1⟩

def swap (c : BacktestConfig) : Option (ℚ × ℚ) :=
  c.costs.swapLongPerNight.map fun long =>
    (long, match c.costs.swapShortPerNight with
      | some short => if short = 0 then long else short
      | none => long)

def terms (c : BacktestConfig) : Terms :=
  { spread := c.costs.spreadPoints
    slAtr := c.stopAtr
    tpAtr := c.targetAtr
    maxHold := c.maxHoldBars
    swap := c.swap
    tripleDow := none }

def method (c : BacktestConfig) : SizingMethod :=
  match c.sizingMode with
  | .fixedQuantity => .fixedQuantity
  | .fixedRisk => .fixedRisk
  | .percentEquity => .percentEquity

end BacktestConfig

def directionOf : Except String StrategySignal → ℤ
  | .ok produced =>
    match produced.signalType with
    | .entryLong => 1
    | .entryShort => -1
    | _ => 0
  | .error _ => 0

def signalAt (strategy : Strategy) (symbol : String) (timeframe : Timeframe) (bars : List Bar)
    (i : ℕ) : ℤ :=
  match bars[i]? with
  | some bar =>
    directionOf (strategy.generateSignal (Candles.of symbol timeframe (bars.take (i + 1)))
      bar.barTime)
  | none => 0

def buildSignalVector (strategy : Strategy) (bars : List Bar) (symbol : String)
    (timeframe : Timeframe) : List ℤ :=
  (List.range bars.length).map (signalAt strategy symbol timeframe bars)

inductive Side where
  | long
  | short
  deriving DecidableEq, Repr

structure SizingDetail where
  mode : SizingMethod
  equityBefore : ℚ
  stopDistance : ℚ
  riskRequested : Option ℚ
  riskActual : Option ℚ
  rawQuantity : Option ℚ
  deriving DecidableEq

structure Figures where
  side : Side
  entryTime : Time
  exitTime : Time
  entryPrice : ℚ
  exitPrice : ℚ
  barsHeld : ℕ
  exitReason : ExitReason
  grossPoints : ℚ
  netPoints : ℚ
  financing : ℚ
  nights : ℕ
  netMoney : ℚ
  deriving DecidableEq

structure TradeRecord extends Figures where
  slippagePoints : ℚ
  commission : ℚ
  quantity : ℚ
  sizing : Option SizingDetail
  deriving DecidableEq

structure Refusal where
  entryTime : Time
  side : Side
  equity : Option ℚ
  stopDistance : Option ℚ
  reason : Text

def sizingRequest (config : BacktestConfig) (spec : ContractSpec) (balance distance : ℚ) :
    SizingRequest :=
  { method := config.method
    spec
    riskAmount := config.riskAmount
    equity := some balance
    riskPercent := config.riskPercent
    stopDistance := some distance }

def sizeOf (config : BacktestConfig) (spec : Option ContractSpec) (bars : List Bar)
    (atr : List (Option ℚ)) (balance : ℚ) (trade : RawTrade) :
    Except Refusal (ℚ × Option SizingDetail) :=
  let side : Side := if 0 < trade.dir then .long else .short
  let entryTime := (bars.getD trade.entryIdx default).barTime
  match config.sizingMode, spec with
  | .fixedQuantity, _ | _, none => .ok (config.quantity, none)
  | _, some spec =>
    let barAtr := if 1 ≤ trade.entryIdx then atr.getD (trade.entryIdx - 1) none else none
    match barAtr.filter (0 < ·) with
    | none =>
      .error { entryTime, side, equity := none, stopDistance := none,
               reason := Text.lit "no usable ATR on the bar before the entry" }
    | some barAtr =>
      let distance := config.stopAtr * barAtr
      let result := calculate (sizingRequest config spec balance distance)
      match result.volume with
      | none =>
        .error { entryTime, side, equity := some balance, stopDistance := some distance,
                 reason := ((result.gap.getD []).orElse (Text.lit "sizing refused")).take 300 }
      | some volume =>
        .ok (volume, some
          { mode := result.method
            equityBefore := balance
            stopDistance := distance
            riskRequested := result.riskRequested
            riskActual := result.riskActual
            rawQuantity := result.rawVolume })

section Enrich

variable (rounded : ℕ → ℚ → ℚ) (config : BacktestConfig) (spec : Option ContractSpec)
  (bars : List Bar) (atr : List (Option ℚ))

def record (trade : RawTrade) (size : ℚ × Option SizingDetail) : TradeRecord :=
  let exitIndex := min (trade.entryIdx + trade.bars - 1) (bars.length - 1)
  let entryBar := bars.getD trade.entryIdx default
  let exitBar := bars.getD exitIndex default
  let netPoints := trade.net - config.costs.slippagePoints
  { side := if 0 < trade.dir then .long else .short
    entryTime := entryBar.barTime
    exitTime := exitBar.barTime
    entryPrice := entryBar.open_
    exitPrice := exitBar.close
    barsHeld := trade.bars
    grossPoints := rounded 6 trade.gross
    netPoints := rounded 6 netPoints
    financing := rounded 6 trade.financing
    nights := trade.nights
    slippagePoints := config.costs.slippagePoints
    commission := config.costs.commissionPerTrade
    exitReason := trade.reason
    quantity := size.1
    sizing := size.2
    netMoney := rounded 6 (netPoints * size.1 - config.costs.commissionPerTrade) }

def settle (balance : ℚ) (trade : RawTrade) : Option ((RawTrade × TradeRecord) × ℚ) :=
  match sizeOf config spec bars atr balance trade with
  | .error _ => none
  | .ok size =>
    let made := record rounded config bars trade size
    some ((trade, made), balance + made.netMoney)

def enrichFrom : ℚ → List RawTrade → List TradeRecord × List Refusal
  | _, [] => ([], [])
  | balance, trade :: rest =>
    match sizeOf config spec bars atr balance trade with
    | .error refusal =>
      let (made, refused) := enrichFrom balance rest
      (made, refusal :: refused)
    | .ok size =>
      let first := record rounded config bars trade size
      let (made, refused) := enrichFrom (balance + first.netMoney) rest
      (first :: made, refused)

def enrich (raw : List RawTrade) : Except Text (List TradeRecord × List Refusal) :=
  if config.sizingMode ≠ .fixedQuantity ∧ spec.isNone then
    .error (Text.lit (s!"sizing mode {config.sizingMode.name} needs the instrument's contract " ++
      "spec (tick size, tick value, volume step) and none was supplied. Refusing " ++
      "rather than sizing from a default: a lot computed from an absent tick " ++
      "value is a real order for the wrong amount"))
  else .ok (enrichFrom rounded config spec bars atr config.initialCapital raw)

end Enrich

structure CurvePoint where
  at_ : Option Time
  balance : ℚ
  equity : ℚ
  drawdown : ℚ
  drawdownPct : ℚ

def curveFrom (rounded : ℕ → ℚ → ℚ) : ℚ → ℚ → List TradeRecord → List CurvePoint
  | _, _, [] => []
  | balance, peak, trade :: rest =>
    let balance := balance + trade.netMoney
    let peak := max peak balance
    let drawdown := peak - balance
    { at_ := some trade.exitTime
      balance := rounded 4 balance
      equity := rounded 4 balance
      drawdown := rounded 4 drawdown
      drawdownPct := if 0 < peak then rounded 4 (drawdown / peak * 100) else 0 } ::
      curveFrom rounded balance peak rest

def equityCurve (rounded : ℕ → ℚ → ℚ) (trades : List TradeRecord) (config : BacktestConfig) :
    List CurvePoint :=
  let balance := config.initialCapital
  { at_ := none, balance := rounded 4 balance, equity := rounded 4 balance, drawdown := 0,
    drawdownPct := 0 } :: curveFrom rounded balance balance trades

structure BacktestResult where
  trades : List TradeRecord
  equityCurve : List CurvePoint
  signalsGenerated : ℕ
  barsProcessed : ℕ
  sizingRefusals : List Refusal

def runOn (rounded : ℕ → ℚ → ℚ) (config : BacktestConfig) (spec : Option ContractSpec)
    (bars : List Bar) (signals : List ℤ) : Except Text BacktestResult := do
  let atr := atrSeries bars 14
  let (trades, refusals) ← enrich rounded config spec bars atr
    (simulate config.terms bars signals atr)
  return { trades
           equityCurve := equityCurve rounded trades config
           signalsGenerated := signals.countP (· ≠ 0)
           barsProcessed := bars.length
           sizingRefusals := refusals }

def run (rounded : ℕ → ℚ → ℚ) (config : BacktestConfig) (strategy : Strategy) (bars : List Bar)
    (spec : Option ContractSpec) : Except Text BacktestResult := do
  config.validate
  let closed := (Candles.of config.symbol config.timeframe bars).bars
  if closed.length < firstEntry + 2 then
    .error (Text.num closed.length ++ Text.lit " closed bars; the simulator needs more than " ++
      Text.num firstEntry ++ Text.lit (" before it can open anything. This is a data " ++
        "shortfall, not a result"))
  else
    let invalid := closed.countP fun bar => ohlcIsConsistent bar = false
    if invalid ≠ 0 then
      .error (Text.num invalid ++ Text.lit " of " ++ Text.num closed.length ++
        Text.lit (" bars have impossible OHLC. " ++
          "Refusing to run: a backtest over corrupt bars manufactures findings"))
    else
      runOn rounded config spec closed
        (buildSignalVector strategy closed config.symbol config.timeframe)

theorem buildSignalVector_take (strategy : Strategy) (symbol : String) (timeframe : Timeframe)
    (k : ℕ) :
    buildSignalVector strategy (bars.take k) symbol timeframe =
      (buildSignalVector strategy bars symbol timeframe).take k := by
  unfold buildSignalVector
  rw [List.length_take, ← List.map_take, List.take_range]
  refine List.map_congr_left fun i mem => ?_
  have before : i < k := (List.mem_range.mp mem).trans_le (min_le_left _ _)
  unfold signalAt
  rw [List.getElem?_take_of_lt before, List.take_take, min_eq_left before]

theorem enrichFrom_fst (balance : ℚ) (raw : List RawTrade) :
    (enrichFrom rounded config spec bars atr balance raw).1 =
      (Walk.settleAll (settle rounded config spec bars atr) balance raw).map Prod.snd := by
  induction raw generalizing balance with
  | nil => rfl
  | cons trade rest ih =>
    unfold enrichFrom Walk.settleAll settle
    cases sizeOf config spec bars atr balance trade with
    | error refusal => exact ih balance
    | ok size => exact congrArg (_ :: ·) (ih _)

theorem of_runOn {signals : List ℤ} {result : BacktestResult}
    (ran : runOn rounded config spec bars signals = .ok result) :
    result.trades = (enrichFrom rounded config spec bars (atrSeries bars 14) config.initialCapital
        (simulate config.terms bars signals (atrSeries bars 14))).1 ∧
      result.equityCurve = equityCurve rounded result.trades config := by
  unfold runOn enrich at ran
  split at ran
  · cases ran
  · cases ran
    exact ⟨rfl, rfl⟩

def calm (i : ℕ) : Bar :=
  { symbol := "EURUSD", timeframe := .h1, barTime := 3600 * i, open_ := 100, high := 101,
    low := 99, close := 100 }

def calmUpTo (further : List Bar) : List Bar := (List.range firstEntry).map calm ++ further

def buyThere (further : List ℤ) : List ℤ := List.replicate (firstEntry - 1) 0 ++ 1 :: further

def plain : BacktestConfig :=
  { symbol := "EURUSD", timeframe := .h1, costs := { spreadPoints := 1 / 10 }, quantity := 1 }

theorem validate_plain : plain.validate = .ok () := by
  simp only [BacktestConfig.validate, BacktestConfig.ite_error_eq_ok, and_true]
  decide +kernel

end TradeResearch.Backtest

namespace TradeResearch.Backtest

open Marketdata Strategies Tools

section LookAhead

variable (strategy : Strategy) (symbol : String) (timeframe : Timeframe) (terms : Terms) (n : ℕ)

def traded (bars : List Bar) : List RawTrade :=
  simulate terms bars (buildSignalVector strategy bars symbol timeframe) (atrSeries bars n)

theorem traded_take (bars : List Bar) (k : ℕ) :
    traded strategy symbol timeframe terms n (bars.take k) =
      simulate terms (bars.take k) ((buildSignalVector strategy bars symbol timeframe).take k)
        ((atrSeries bars n).take k) := by
  unfold traded
  rw [buildSignalVector_take, atrSeries_take]

/-- What a run on the first bars completes is in its place in a run on all of them; trades do not
overlap, none is held too long, and each is made of the signal and the range before its entry and of
the bars from there on. -/
theorem traded_causal (bars : List Bar) :
    (∀ (k m : ℕ) (t : RawTrade),
      (traded strategy symbol timeframe terms n (bars.take k))[m]? = some t →
        t.Complete terms → (traded strategy symbol timeframe terms n bars)[m]? = some t) ∧
    ((traded strategy symbol timeframe terms n bars).Pairwise fun t t' =>
      t.exitIdx < t'.entryIdx) ∧
    (∀ t ∈ traded strategy symbol timeframe terms n bars, t.bars ≤ terms.maxHold) ∧
    ∀ t ∈ traded strategy symbol timeframe terms n bars, ∃ s a first rest,
      (buildSignalVector strategy bars symbol timeframe).getD (t.entryIdx - 1) 0 = s ∧
        (atrSeries bars n).getD (t.entryIdx - 1) none = some a ∧
        bars.drop t.entryIdx = first :: rest ∧ s ≠ 0 ∧ 0 < a ∧
        t = enter terms s a t.entryIdx first rest := by
  refine ⟨fun k m t found complete => ?_, pairwise_simulate, fun t mem => ?_,
    fun t mem => mem_simulate mem⟩
  · rw [traded_take] at found
    exact getElem?_simulate_take k m t found complete
  · obtain ⟨s, a, first, rest, -, -, -, -, -, made⟩ := mem_simulate mem
    rw [made]
    exact enter_bars_le t.entryIdx

end LookAhead

end TradeResearch.Backtest
