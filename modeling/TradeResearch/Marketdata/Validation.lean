import Mathlib.Algebra.Order.Field.Rat
import Mathlib.Algebra.Order.Floor.Ring
import Mathlib.Data.List.Sort
import Mathlib.Data.Rat.Floor
import TradeResearch.Lib.Table
import TradeResearch.Marketdata.Types

/-!
# Checks of market data

`backend/app/marketdata/validation.py`: what is wrong with a bar, what is wrong with a series, and
the series itself with one bar for each time, oldest first.

* `deduplicate_sorted`: the times of a series are strictly increasing.
* `mem_deduplicate_iff_append`: under each time stands the bar that was sent last.
-/

namespace TradeResearch.Marketdata

inductive Provider where
  | mt5
  | yfinance
  | ccxt
  | tradingview
  | simulator
  deriving DecidableEq

def Provider.name : Provider → String
  | mt5 => "mt5"
  | yfinance => "yfinance"
  | ccxt => "ccxt"
  | tradingview => "tradingview"
  | simulator => "simulator"

inductive Availability where
  | available
  | notAvailable
  | derived
  deriving DecidableEq

def Timeframe.seconds : Timeframe → ℤ
  | m1 => 60
  | m5 => 300
  | m15 => 900
  | m30 => 1800
  | h1 => 3600
  | h4 => 14400
  | d1 => 86400
  | w1 => 604800

structure Origin where
  index : ℕ
  readAt : Time

structure ServedBar extends Bar where
  provider : Provider
  spread : Option ℚ := none
  spreadAvailability : Availability := .notAvailable
  origin : Option Origin := none

def futureTolerance : ℚ := 60

def checkSign (name : String) (value : Option ℚ) : List Text :=
  match value with
  | some v => if v < 0 then [Text.lit s!"{name} is negative: " ++ Text.num v] else []
  | none => []

def checkBar (bar : ServedBar) (now : Time) : List Text :=
  (if ohlcIsConsistent bar.toBar then [] else
    [Text.lit "OHLC inconsistent: o=" ++ Text.num bar.open_ ++ Text.lit " h=" ++
      Text.num bar.high ++ Text.lit " l=" ++ Text.num bar.low ++ Text.lit " c=" ++
      Text.num bar.close]) ++
  ([("open", bar.open_), ("high", bar.high), ("low", bar.low), ("close", bar.close)].filter
    fun price => price.2 ≤ 0).map (fun price =>
      Text.lit s!"{price.1} is not a positive price: " ++ Text.num price.2) ++
  checkSign "volume" bar.volume ++
  checkSign "spread" bar.spread ++
  (if futureTolerance < bar.barTime - now then
    [Text.lit "bar_time is " ++ Text.num (epoch (bar.barTime - now)) ++
      Text.lit "s in the future"]
  else [])

def stalenessLimit (timeframe : Timeframe) : ℚ := max (timeframe.seconds * 2) 30

def isStale (newest : Time) (timeframe : Timeframe) (now : Time) (marketOpen : Option Bool) :
    Bool :=
  if marketOpen = some false then false else stalenessLimit timeframe < now - newest

def findDuplicates (seen : List Time) : List ServedBar → List Time
  | [] => []
  | bar :: bars =>
    if bar.barTime ∈ seen then bar.barTime :: findDuplicates seen bars
    else findDuplicates (bar.barTime :: seen) bars

def findOutOfOrder (bars : List ServedBar) : List Time :=
  ((bars.zip bars.tail).filter fun pair => pair.2.barTime < pair.1.barTime).map fun pair =>
    pair.2.barTime

def findGaps (bars : List ServedBar) (timeframe : Timeframe) : ℤ :=
  ((bars.zip bars.tail).map fun pair =>
    let delta : ℚ := pair.2.barTime - pair.1.barTime
    if timeframe.seconds < delta then ⌊delta / timeframe.seconds⌋ - 1 else 0).sum

def openEqualsCloseRate (bars : List ServedBar) : ℚ :=
  if bars = [] then 0
  else (bars.filter fun bar => bar.open_ = bar.close).length / bars.length

structure SeriesQuality where
  bars : ℕ
  invalidOhlc : ℕ
  duplicates : ℕ
  outOfOrder : ℕ
  gaps : ℤ
  futureStamped : ℕ
  openEqualsCloseRate : ℚ
  notes : List Text

def SeriesQuality.invalidRate (q : SeriesQuality) : ℚ :=
  if q.bars = 0 then 0 else q.invalidOhlc / q.bars

def SeriesQuality.ohlcTrustworthy (q : SeriesQuality) : Bool :=
  q.invalidRate < 5 / 1000 ∧ q.openEqualsCloseRate < 10 / 100

def inspectSeries (bars : List ServedBar) (timeframe : Timeframe) (now : Time) : SeriesQuality :=
  let quality : SeriesQuality :=
    { bars := bars.length
      invalidOhlc := (bars.filter fun bar => ¬ ohlcIsConsistent bar.toBar).length
      duplicates := (findDuplicates [] bars).length
      outOfOrder := (findOutOfOrder bars).length
      gaps := findGaps bars timeframe
      futureStamped := (bars.filter fun bar => futureTolerance < bar.barTime - now).length
      openEqualsCloseRate := openEqualsCloseRate bars
      notes := [] }
  { quality with
    notes :=
      (if ¬ quality.ohlcTrustworthy ∧ bars ≠ [] then
        [Text.lit ("OHLC is synthetic or inconsistent on this source. Close-based analysis is " ++
          "fine; anything defined on the open, the body or the shadows is measuring " ++
          "the vendor's construction and must not be run.")] else []) ++
      (if quality.duplicates ≠ 0 then
        [Text.num quality.duplicates ++
          Text.lit " duplicate bar times; ingestion is idempotent on key"] else []) ++
      (if quality.outOfOrder ≠ 0 then
        [Text.num quality.outOfOrder ++ Text.lit " bars arrived out of order"] else []) ++
      (if quality.futureStamped ≠ 0 then
        [Text.num quality.futureStamped ++
          Text.lit " bars stamped in the future; check the clock"] else []) }

def deduplicate (bars : List ServedBar) : List ServedBar :=
  (Table.ofRows (fun bar : ServedBar => bar.barTime) bars).rows.insertionSort fun a b =>
    a.barTime ≤ b.barTime

theorem mem_deduplicate {bars : List ServedBar} {bar : ServedBar} :
    bar ∈ deduplicate bars ↔
      bars.reverse.find? (fun b => b.barTime = bar.barTime) = some bar := by
  unfold deduplicate
  rw [List.mem_insertionSort, Table.mem_rows_iff, Table.find?_ofRows]

theorem mem_deduplicate_iff_append {bars : List ServedBar} {bar : ServedBar} :
    bar ∈ deduplicate bars ↔ ∃ before after, bars = before ++ bar :: after ∧
      ∀ later ∈ after, later.barTime ≠ bar.barTime := by
  rw [mem_deduplicate, List.find?_eq_some_iff_append]
  constructor
  · rintro ⟨-, after, before, split, others⟩
    refine ⟨before.reverse, after.reverse, ?_, fun later mem => ?_⟩
    · rw [← List.reverse_reverse bars, split]
      simp
    · simpa using others later (List.mem_reverse.mp mem)
  · rintro ⟨before, after, rfl, others⟩
    refine ⟨decide_eq_true rfl, after.reverse, before.reverse, by simp, fun later mem => ?_⟩
    simpa using others later (List.mem_reverse.mp mem)

theorem deduplicate_sorted (bars : List ServedBar) :
    (deduplicate bars).Pairwise fun a b => a.barTime < b.barTime := by
  have sorted : (deduplicate bars).Pairwise fun a b => a.barTime ≤ b.barTime :=
    List.pairwise_insertionSort ..
  have keys : ((deduplicate bars).map fun bar => bar.barTime).Nodup :=
    ((List.perm_insertionSort _ _).map _).nodup_iff.mpr
      (Table.ofRows (fun bar : ServedBar => bar.barTime) bars).keys
  have distinct := List.pairwise_map.mp keys
  exact sorted.imp₂ (fun _ _ le ne => lt_of_le_of_ne le ne) distinct

end TradeResearch.Marketdata
