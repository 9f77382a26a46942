import TradeResearch.Datasets.Features
import TradeResearch.Lib.Fallible
import TradeResearch.Lib.Runs
import TradeResearch.Marketdata.Validation

/-!
# Resampling

`backend/app/datasets/resampling.py`: the candles of a longer period, made of the bars of a shorter
one. The spread of a bar and what provides it are those of a `ServedBar`.

* `resample_eq`: what the call makes of bars of one timeframe, symbol and provider.
* `bucketStart_intCast`: at a whole second the bucket is the last multiple of the period.
-/

namespace TradeResearch.Datasets

open Marketdata Runs

def allowed : Timeframe → List Timeframe
  | .m5 => [.m1]
  | .m15 => [.m1, .m5]
  | .m30 => [.m1, .m5, .m15]
  | .h1 => [.m1, .m5, .m15, .m30]
  | .h4 => [.m5, .m15, .m30, .h1]
  | .d1 => [.m15, .m30, .h1, .h4]
  | .m1 => []
  | .w1 => []

def midnight (at_ : Time) : Time := ⌊at_ / 86400⌋ * 86400

def bucketStart (at_ : Time) (target : Timeframe) : Time :=
  match target with
  | .d1 => midnight at_
  | .w1 => midnight at_ - weekday at_ * 86400
  | _ =>
    let elapsed := epoch at_
    (elapsed - elapsed % target.seconds : ℤ)

def totalVolume (volumes : List (Option ℚ)) : Option ℚ :=
  if volumes.all Option.isSome then some (volumes.filterMap id).sum else none

def widest (spreads : List (Option ℚ)) : Option ℚ := (spreads.filterMap id).max?

def candle (symbol : String) (provider : Provider) (target : Timeframe) (expected : ℤ)
    (bucket : Run ServedBar Time) : ServedBar where
  symbol := symbol
  provider := provider
  timeframe := target
  barTime := bucket.key
  open_ := bucket.first.open_
  high := bucket.fold max fun b => b.high
  low := bucket.fold min fun b => b.low
  close := (bucket.rest.getLast?.getD bucket.first).close
  volume := totalVolume (bucket.all.map fun b => b.volume)
  spread := widest (bucket.all.map fun b => b.spread)
  spreadAvailability :=
    if (bucket.all.filterMap fun b => b.spread).isEmpty then .notAvailable else .available
  complete := bucket.all.length = expected ∧ bucket.all.all fun b => b.complete

def checkSame (first bar : ServedBar) : Except String Unit :=
  if bar.timeframe ≠ first.timeframe then
    .error (s!"mixed timeframes: {first.timeframe.name} and {bar.timeframe.name}. Aggregating " ++
      "them would produce a candle nobody can describe.")
  else if bar.symbol ≠ first.symbol ∨ bar.provider ≠ first.provider then
    .error ("mixed symbols or providers in one series. Two providers' bars are different " ++
      "measurements of different books and are never merged.")
  else .ok ()

def cannotAggregate (source target : Timeframe) : String :=
  let sources := allowed target
  s!"{source.name} cannot be aggregated into {target.name}. Allowed sources are " ++
    (if sources.isEmpty then "none" else ", ".intercalate (sources.map Timeframe.name)) ++
    "; anything else would need a partial bar and would not be the candle it claims to be."

def resample (bars : List ServedBar) (target : Timeframe) : Except String (List ServedBar) :=
  match bars with
  | [] => .ok []
  | first :: _ => do
    bars.forM (checkSame first)
    if target = first.timeframe then return bars
    else if first.timeframe ∉ allowed target then throw (cannotAggregate first.timeframe target)
    else
      let expected := target.seconds / first.timeframe.seconds
      let buckets := runs (fun b => bucketStart b.barTime target) bars
      return buckets.map (candle first.symbol first.provider target expected)

theorem Timeframe.seconds_pos (t : Timeframe) : 0 < t.seconds := by
  cases t <;> decide

section Allowed

variable {source : Timeframe}

theorem seconds_dvd (may : source ∈ allowed target) : source.seconds ∣ target.seconds := by
  cases target <;> cases source <;> first
    | exact absurd may (by decide)
    | decide

theorem seconds_lt (may : source ∈ allowed target) : source.seconds < target.seconds := by
  cases target <;> cases source <;> first
    | exact absurd may (by decide)
    | decide

theorem ne_of_allowed (may : source ∈ allowed target) : target ≠ source := by
  rintro rfl
  exact (seconds_lt may).false

theorem source_ne_week (may : source ∈ allowed target) : source ≠ .w1 := by
  rintro rfl
  cases target <;> exact absurd may (by decide)

theorem target_ne_week (may : source ∈ allowed target) : target ≠ .w1 := by
  rintro rfl
  exact List.not_mem_nil may

end Allowed

theorem epoch_intCast (t : ℤ) : epoch (t : Time) = t := by
  exact Int.tdiv_one t

theorem bucketStart_intCast {target : Timeframe} (day : target ≠ .w1) (t : ℤ) :
    bucketStart t target = (t - t % target.seconds : ℤ) := by
  have intraday : ((epoch (t : Time) - epoch (t : Time) % target.seconds : ℤ) : ℚ) =
      (t - t % target.seconds : ℤ) := by
    rw [epoch_intCast]
  cases target with
  | w1 => exact absurd rfl day
  | d1 =>
    have floor : ⌊(t : ℚ) / 86400⌋ = t / 86400 := by
      exact_mod_cast Rat.floor_intCast_div_natCast t 86400
    change (⌊(t : ℚ) / 86400⌋ : ℚ) * 86400 = (t - t % 86400 : ℤ)
    rw [floor, show t - t % 86400 = t / 86400 * 86400 by omega]
    push_cast
    rfl
  | m1 | m5 | m15 | m30 | h1 | h4 => exact intraday

theorem exists_bucketStart {target : Timeframe} (day : target ≠ .w1) (at_ : Time) :
    ∃ k : ℤ, bucketStart at_ target = k ∧ target.seconds ∣ k := by
  have intraday : ∃ k : ℤ, ((epoch at_ - epoch at_ % target.seconds : ℤ) : ℚ) = k ∧
      target.seconds ∣ k := ⟨_, rfl, Int.dvd_self_sub_emod⟩
  cases target with
  | w1 => exact absurd rfl day
  | d1 =>
    refine ⟨⌊at_ / 86400⌋ * 86400, ?_, dvd_mul_left _ _⟩
    push_cast
    rfl
  | m1 | m5 | m15 | m30 | h1 | h4 => exact intraday

structure Series (source : Timeframe) (bars : List ServedBar) : Prop where
  timeframe : ∀ b ∈ bars, b.timeframe = source
  symbol : ∀ b ∈ bars, ∀ b' ∈ bars, b.symbol = b'.symbol
  provider : ∀ b ∈ bars, ∀ b' ∈ bars, b.provider = b'.provider
  rising : bars.Pairwise fun b b' => b.barTime < b'.barTime
  aligned : ∀ b ∈ bars, b.barTime = bucketStart b.barTime source

def bucketsOf (bars : List ServedBar) (target : Timeframe) : List (Run ServedBar Time) :=
  runs (fun b => bucketStart b.barTime target) bars

def candlesOf (source : Timeframe) (bars : List ServedBar) (target : Timeframe) :
    List ServedBar :=
  match bars with
  | [] => []
  | first :: _ => (bucketsOf bars target).map
      (candle first.symbol first.provider target (target.seconds / source.seconds))

namespace Series

variable {source target : Timeframe}

theorem checks {first : ServedBar} {rest : List ServedBar}
    (series : Series source (first :: rest)) :
    (first :: rest).forM (checkSame first) = .ok () := by
  refine Fallible.forM_eq_ok.mpr fun b here => ?_
  unfold checkSame
  rw [if_neg (not_not.mpr ((series.timeframe b here).trans
    (series.timeframe first List.mem_cons_self).symm)), if_neg]
  rw [not_or, not_not, not_not]
  exact ⟨series.symbol b here first List.mem_cons_self,
    series.provider b here first List.mem_cons_self⟩

theorem resample_eq (series : Series source bars) (may : source ∈ allowed target) :
    resample bars target = .ok (candlesOf source bars target) := by
  cases bars with
  | nil => rfl
  | cons first rest =>
    have is := series.timeframe first List.mem_cons_self
    unfold resample
    dsimp only
    rw [series.checks, Fallible.ok_bind, is, if_neg (ne_of_allowed may),
      if_neg (not_not.mpr may)]
    rfl

theorem resample_refused (series : Series source bars) (some_ : bars ≠ [])
    (other : target ≠ source) (mayNot : source ∉ allowed target) :
    resample bars target = .error (cannotAggregate source target) := by
  cases bars with
  | nil => exact absurd rfl some_
  | cons first rest =>
    have is := series.timeframe first List.mem_cons_self
    unfold resample
    dsimp only
    rw [series.checks, Fallible.ok_bind, is, if_neg other, if_pos mayNot]
    rfl

end Series

end TradeResearch.Datasets
