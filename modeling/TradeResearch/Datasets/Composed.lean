import Mathlib.Data.Int.CardIntervalMod
import TradeResearch.Datasets.Resampling

/-!
# Candles of candles

What the candles of `resample` are made of, and that taking a long period in two steps gives what
one step gives.

* `complete_candle_iff`: a candle is complete exactly when a complete bar stands in every slot of
  its period.
* `candlesOf_candlesOf`: the candles of candles are the candles of the bars.
* `Candles` says what a call is for; `resample_resample` that every call is, and that two allowed
  steps give what the one step does where it is allowed.
-/

namespace TradeResearch.Datasets

open Marketdata Runs

def Covers (step start stop : ℤ) (times : List Time) : Prop :=
  ∀ t : ℤ, step ∣ t → start ≤ t → t < stop → (t : Time) ∈ times

theorem length_eq_iff_covers {step n start : ℤ} {times : List Time} (pos : 0 < step)
    (many : 0 ≤ n) (aligned : step ∣ start) (nodup : times.Nodup)
    (inside : ∀ x ∈ times, ∃ t : ℤ, x = t ∧ step ∣ t ∧ start ≤ t ∧ t < start + n * step) :
    (times.length : ℤ) = n ↔ Covers step start (start + n * step) times := by
  let slots : Finset Time := ((Finset.Ico start (start + n * step)).filter (step ∣ ·)).image
    fun t : ℤ => (t : Time)
  have count : (slots.card : ℤ) = n := by
    obtain ⟨k, rfl⟩ := aligned
    have ne : (step : ℚ) ≠ 0 := by exact_mod_cast pos.ne'
    rw [Finset.card_image_of_injective _ Int.cast_injective, Int.Ico_filter_dvd_card _ _ pos]
    have first : ⌈((step * k : ℤ) : ℚ) / step⌉ = k := by
      push_cast
      rw [mul_div_cancel_left₀ _ ne, Int.ceil_intCast]
    have last : ⌈((step * k + n * step : ℤ) : ℚ) / step⌉ = k + n := by
      push_cast
      rw [show (step : ℚ) * k + n * step = step * (k + n) by ring, mul_div_cancel_left₀ _ ne]
      exact_mod_cast Int.ceil_intCast (k + n)
    omega
  have mem_slots : ∀ x, x ∈ slots ↔
      ∃ t : ℤ, x = t ∧ step ∣ t ∧ start ≤ t ∧ t < start + n * step := by
    intro x
    rw [Finset.mem_image]
    constructor
    · rintro ⟨t, mem, rfl⟩
      obtain ⟨mem, slot⟩ := Finset.mem_filter.mp mem
      exact ⟨t, rfl, slot, Finset.mem_Ico.mp mem⟩
    · rintro ⟨t, rfl, slot, bounds⟩
      exact ⟨t, Finset.mem_filter.mpr ⟨Finset.mem_Ico.mpr bounds, slot⟩, rfl⟩
  have sub : times.toFinset ⊆ slots := fun x mem =>
    (mem_slots x).mpr (inside x (List.mem_toFinset.mp mem))
  rw [← List.toFinset_card_of_nodup nodup]
  constructor
  · intro all t slot first last
    have same := Finset.eq_of_subset_of_card_le sub (by omega)
    exact List.mem_toFinset.mp (same ▸ (mem_slots t).mpr ⟨t, rfl, slot, first, last⟩)
  · intro each
    have same : times.toFinset = slots := Finset.Subset.antisymm sub fun x mem => by
      obtain ⟨t, rfl, slot, first, last⟩ := (mem_slots x).mp mem
      exact List.mem_toFinset.mpr (each t slot first last)
    rw [same, count]

theorem bucketStart_eq_iff {target : Timeframe} (day : target ≠ .w1) {k : ℤ}
    (aligned : target.seconds ∣ k) (t : ℤ) :
    bucketStart t target = k ↔ k ≤ t ∧ t < k + target.seconds := by
  rw [bucketStart_intCast day, Int.cast_inj]
  have pos := Timeframe.seconds_pos target
  obtain ⟨j, rfl⟩ := aligned
  have parts := Int.mul_ediv_add_emod t target.seconds
  have low := Int.emod_nonneg t pos.ne'
  have high := Int.emod_lt_of_pos t pos
  constructor
  · intro same
    omega
  · rintro ⟨after, before⟩
    have same : t / target.seconds = j :=
      Int.ediv_eq_iff_of_pos pos |>.mpr ⟨by linarith [mul_comm j target.seconds], by
        linarith [mul_comm j target.seconds, add_mul j 1 target.seconds]⟩
    rw [← same]
    omega

theorem totalVolume_cons (v : Option ℚ) (vs : List (Option ℚ)) :
    totalVolume (v :: vs) = v.bind fun a => (totalVolume vs).map (a + ·) := by
  unfold totalVolume
  cases v with
  | none => rfl
  | some a =>
    rw [List.all_cons, Option.isSome_some, Bool.true_and, Option.bind_some]
    split
    · change some (a :: vs.filterMap id).sum = some (a + (vs.filterMap id).sum)
      rw [List.sum_cons]
    · rfl

theorem totalVolume_append (vs ws : List (Option ℚ)) :
    totalVolume (vs ++ ws) = (totalVolume vs).bind fun a => (totalVolume ws).map (a + ·) := by
  induction vs with
  | nil =>
    change totalVolume ws = (totalVolume ws).map (0 + ·)
    simp
  | cons v vs ih =>
    rw [List.cons_append, totalVolume_cons, totalVolume_cons, ih]
    cases v with
    | none => rfl
    | some a => cases totalVolume vs <;> cases totalVolume ws <;> simp [add_assoc]

theorem totalVolume_flatten (parts : List (List (Option ℚ))) :
    totalVolume (parts.map totalVolume) = totalVolume parts.flatten := by
  induction parts with
  | nil => rfl
  | cons vs parts ih =>
    rw [List.map_cons, totalVolume_cons, ih, List.flatten_cons, totalVolume_append]

theorem widest_cons (v : Option ℚ) (vs : List (Option ℚ)) :
    widest (v :: vs) = Option.merge max v (widest vs) := by
  unfold widest
  cases v with
  | none => simp
  | some a =>
    change (a :: vs.filterMap id).max? = _
    rw [List.max?_cons]
    cases (vs.filterMap id).max? <;> rfl

theorem widest_append (vs ws : List (Option ℚ)) :
    widest (vs ++ ws) = Option.merge max (widest vs) (widest ws) := by
  induction vs with
  | nil =>
    change widest ws = Option.merge max none (widest ws)
    simp
  | cons v vs ih =>
    rw [List.cons_append, widest_cons, widest_cons, ih]
    exact ((Option.associative_merge max).assoc _ _ _).symm

theorem widest_flatten (parts : List (List (Option ℚ))) :
    widest (parts.map widest) = widest parts.flatten := by
  induction parts with
  | nil => rfl
  | cons vs parts ih => rw [List.map_cons, widest_cons, ih, List.flatten_cons, widest_append]

section Candle

variable {symbol : String} {provider : Provider} {middle : Timeframe}

theorem candle_availability (r : Run ServedBar Time) :
    (candle symbol provider target e r).spreadAvailability =
      if (candle symbol provider target e r).spread.isNone then .notAvailable else .available := by
  have same : (r.all.filterMap fun b => b.spread).isEmpty =
      (widest (r.all.map fun b => b.spread)).isNone := by
    unfold widest
    rw [List.filterMap_map]
    change (r.all.filterMap fun b => b.spread).isEmpty =
      (r.all.filterMap fun b => b.spread).max?.isNone
    cases r.all.filterMap fun b => b.spread <;> rfl
  change (if (r.all.filterMap fun b => b.spread).isEmpty then _ else _) = _
  rw [same]
  rfl

theorem candle_close (r : Run ServedBar Time) :
    r.all.getLast?.map (fun b => b.close) = some (candle symbol provider target e r).close := by
  unfold Run.all candle
  rw [List.getLast?_cons]
  rfl

theorem complete_candle (r : Run ServedBar Time) :
    (candle symbol provider target e r).complete = true ↔
      (r.all.length : ℤ) = e ∧ ∀ b ∈ r.all, b.complete = true := by
  unfold candle
  rw [decide_eq_true_iff, List.all_eq_true]

theorem candle_congr {r r' : Run ServedBar Time} (key : r.key = r'.key)
    (open_ : r.first.open_ = r'.first.open_)
    (high : (r.fold max fun b => b.high) = r'.fold max fun b => b.high)
    (low : (r.fold min fun b => b.low) = r'.fold min fun b => b.low)
    (close : (candle symbol provider target e r).close =
      (candle symbol provider target e' r').close)
    (volume : totalVolume (r.all.map fun b => b.volume) =
      totalVolume (r'.all.map fun b => b.volume))
    (spread : widest (r.all.map fun b => b.spread) = widest (r'.all.map fun b => b.spread))
    (complete : (candle symbol provider target e r).complete =
      (candle symbol provider target e' r').complete) :
    candle symbol provider target e r = candle symbol provider target e' r' := by
  have known := @candle_availability symbol provider target e r
  have known' := @candle_availability symbol provider target e' r'
  have spread' : (candle symbol provider target e r).spread =
      (candle symbol provider target e' r').spread := spread
  rw [spread', ← known'] at known
  unfold candle at complete close known ⊢
  dsimp only at complete close known ⊢
  rw [key, open_, high, low, close, volume, spread, complete, known]

theorem candle_close_join {r : Run (Run ServedBar Time) Time} :
    (candle symbol provider target e (r.map (candle symbol provider middle e'))).close =
      (candle symbol provider target e'' r.join).close := by
  have closes := @candle_close symbol provider target e
    (r.map (candle symbol provider middle e'))
  have closes' := @candle_close symbol provider target e'' r.join
  rcases List.eq_nil_or_concat r.all with none_ | ⟨before, last, is⟩
  · exact absurd none_ (List.cons_ne_nil _ _)
  · rw [List.concat_eq_append] at is
    rw [Run.map_all, is, List.map_append, List.map_singleton, List.getLast?_concat] at closes
    rw [Run.join_all, is, List.map_append, List.map_singleton, List.flatten_append,
      List.flatten_singleton, List.getLast?_append_of_ne_nil _ last.all_ne_nil,
      @candle_close symbol provider middle e'] at closes'
    exact Option.some.inj (closes.symm.trans closes')

theorem candle_join {r : Run (Run ServedBar Time) Time}
    (complete :
      (candle symbol provider target e (r.map (candle symbol provider middle e'))).complete =
        (candle symbol provider target e'' r.join).complete) :
    candle symbol provider target e (r.map (candle symbol provider middle e')) =
      candle symbol provider target e'' r.join := by
  have high : (r.map (candle symbol provider middle e')).fold max (fun b => b.high) =
      r.join.fold max fun b => b.high := by
    rw [Run.fold_map, ← Run.fold_join]
    rfl
  have low : (r.map (candle symbol provider middle e')).fold min (fun b => b.low) =
      r.join.fold min fun b => b.low := by
    rw [Run.fold_map, ← Run.fold_join]
    rfl
  have volume : totalVolume ((r.map (candle symbol provider middle e')).all.map fun b => b.volume) =
      totalVolume (r.join.all.map fun b => b.volume) := by
    rw [Run.join_all, List.map_flatten, List.map_map, ← totalVolume_flatten, Run.map_all,
      List.map_map, List.map_map]
    rfl
  have spread : widest ((r.map (candle symbol provider middle e')).all.map fun b => b.spread) =
      widest (r.join.all.map fun b => b.spread) := by
    rw [Run.join_all, List.map_flatten, List.map_map, ← widest_flatten, Run.map_all,
      List.map_map, List.map_map]
    rfl
  exact candle_congr rfl rfl high low candle_close_join volume spread complete

end Candle

theorem bucketStart_mono {target : Timeframe} (day : target ≠ .w1) {t t' : ℤ} (le : t ≤ t') :
    bucketStart t target ≤ bucketStart t' target := by
  rw [bucketStart_intCast day, bucketStart_intCast day, Int.cast_le]
  have parts := Int.mul_ediv_add_emod t target.seconds
  have parts' := Int.mul_ediv_add_emod t' target.seconds
  have less : target.seconds * (t / target.seconds) ≤ target.seconds * (t' / target.seconds) :=
    mul_le_mul_of_nonneg_left (Int.ediv_le_ediv (Timeframe.seconds_pos target) le)
      (Timeframe.seconds_pos target).le
  omega

theorem candlesOf_eq {source target : Timeframe} {bars : List ServedBar} {symbol : String}
    {provider : Provider} (known : ∀ b ∈ bars, b.symbol = symbol ∧ b.provider = provider) :
    candlesOf source bars target = (bucketsOf bars target).map
      (candle symbol provider target (target.seconds / source.seconds)) := by
  cases bars with
  | nil => rfl
  | cons first rest =>
    obtain ⟨rfl, rfl⟩ := known first List.mem_cons_self
    rfl

namespace Series

variable {source target : Timeframe} {bars : List ServedBar}

theorem exists_time (series : Series source bars) (day : source ≠ .w1) {b : ServedBar}
    (mem : b ∈ bars) : ∃ t : ℤ, b.barTime = t ∧ source.seconds ∣ t := by
  obtain ⟨t, is, slot⟩ := exists_bucketStart day b.barTime
  exact ⟨t, (series.aligned b mem).trans is, slot⟩

theorem stretches (series : Series source bars) (day : source ≠ .w1) (day' : target ≠ .w1) :
    Stretches (fun b => bucketStart b.barTime target) bars (bucketsOf bars target) := by
  refine stretches_runs (series.rising.imp_of_mem fun {b b'} mem mem' less => ?_)
  obtain ⟨t, is, -⟩ := series.exists_time day mem
  obtain ⟨t', is', -⟩ := series.exists_time day mem'
  rw [is, is'] at less ⊢
  exact bucketStart_mono day' (Int.cast_lt.mp less).le

theorem inside (series : Series source bars) (day : source ≠ .w1) (day' : target ≠ .w1)
    (mem : r ∈ bucketsOf bars target) :
    ∃ k : ℤ, r.key = k ∧ target.seconds ∣ k ∧ ∀ b ∈ r.all,
      ∃ t : ℤ, b.barTime = t ∧ source.seconds ∣ t ∧ k ≤ t ∧ t < k + target.seconds := by
  have split := series.stretches day day'
  have keyed := split.keyed r mem
  obtain ⟨k, start, aligned⟩ := exists_bucketStart day' r.first.barTime
  have is : r.key = k := (keyed r.first List.mem_cons_self).symm.trans start
  refine ⟨k, is, aligned, fun b inside => ?_⟩
  obtain ⟨t, opens, slot⟩ := series.exists_time day (split.mem_of_mem mem inside)
  have here : bucketStart t target = k := by
    rw [← opens, ← is]
    exact keyed b inside
  exact ⟨t, opens, slot, (bucketStart_eq_iff day' aligned t).mp here⟩

theorem nodup_times (series : Series source bars) (day : source ≠ .w1) (day' : target ≠ .w1)
    (mem : r ∈ bucketsOf bars target) : (r.all.map fun b => b.barTime).Nodup := by
  have part : r.all.Sublist bars := by
    rw [← (series.stretches day day').filter_key mem]
    exact List.filter_sublist
  exact List.pairwise_map.mpr ((series.rising.sublist part).imp fun less => less.ne)

theorem complete_candle_iff (series : Series source bars) (day : source ≠ .w1)
    (day' : target ≠ .w1) (parts : source.seconds ∣ target.seconds)
    (mem : r ∈ bucketsOf bars target) {k : ℤ} (is : r.key = k) {symbol : String}
    {provider : Provider} :
    (candle symbol provider target (target.seconds / source.seconds) r).complete = true ↔
      Covers source.seconds k (k + target.seconds) (r.all.map fun b => b.barTime) ∧
        ∀ b ∈ r.all, b.complete = true := by
  obtain ⟨k', is', aligned, inside⟩ := series.inside day day' mem
  have same : k' = k := Int.cast_injective (is'.symm.trans is)
  subst same
  have whole : target.seconds / source.seconds * source.seconds = target.seconds :=
    Int.ediv_mul_cancel parts
  have count := @length_eq_iff_covers source.seconds (target.seconds / source.seconds) k'
    (r.all.map fun b => b.barTime) (Timeframe.seconds_pos source)
    (Int.ediv_nonneg (Timeframe.seconds_pos target).le (Timeframe.seconds_pos source).le)
    (parts.trans aligned) (series.nodup_times day day' mem)
    (List.forall_mem_map.mpr (by rw [whole]; exact inside))
  rw [whole, List.length_map] at count
  rw [← count]
  exact complete_candle r

theorem candles (series : Series source bars) (day : source ≠ .w1) (day' : target ≠ .w1)
    (symbol : String) (provider : Provider) (e : ℤ) :
    Series target ((bucketsOf bars target).map (candle symbol provider target e)) := by
  refine ⟨?_, ?_, ?_, List.pairwise_map.mpr (series.stretches day day').rising, ?_⟩
  · exact List.forall_mem_map.mpr fun _ _ => rfl
  · exact List.forall_mem_map.mpr fun _ _ => List.forall_mem_map.mpr fun _ _ => rfl
  · exact List.forall_mem_map.mpr fun _ _ => List.forall_mem_map.mpr fun _ _ => rfl
  · refine List.forall_mem_map.mpr fun r mem => ?_
    obtain ⟨k, is, aligned, -⟩ := series.inside day day' mem
    change r.key = bucketStart r.key target
    rw [is]
    exact ((bucketStart_eq_iff day' aligned k).mpr
      ⟨le_rfl, lt_add_of_pos_right k (Timeframe.seconds_pos target)⟩).symm

end Series

theorem bucketStart_bucketStart {middle target : Timeframe} (day : middle ≠ .w1)
    (day' : target ≠ .w1) (parts : middle.seconds ∣ target.seconds) (t : ℤ) :
    bucketStart (bucketStart t middle) target = bucketStart t target := by
  obtain ⟨j, start, aligned⟩ := exists_bucketStart day (t : Time)
  obtain ⟨k, start', aligned'⟩ := exists_bucketStart day' (t : Time)
  obtain ⟨after, before⟩ := (bucketStart_eq_iff day aligned t).mp start
  obtain ⟨after', before'⟩ := (bucketStart_eq_iff day' aligned' t).mp start'
  rw [start, start', bucketStart_eq_iff day' aligned']
  -- a multiple of the shorter period that is not past `t` is not past the last one
  have slot : middle.seconds ∣ k - j := dvd_sub (parts.trans aligned') aligned
  by_contra past
  have far := Int.le_of_dvd (by omega) slot
  omega

section Join

variable {source middle target : Timeframe} {bars : List ServedBar} {symbol : String}

def bucketsOfBuckets (bars : List ServedBar) (middle target : Timeframe) :
    List (Run (Run ServedBar Time) Time) :=
  runs (fun r => bucketStart r.key target) (bucketsOf bars middle)

theorem stretches_bucketsOfBuckets (series : Series source bars) (first : source ∈ allowed middle)
    (second : middle ∈ allowed target) :
    Stretches (fun r => bucketStart r.key target) (bucketsOf bars middle)
      (bucketsOfBuckets bars middle target) := by
  have day := source_ne_week first
  have day' := target_ne_week first
  refine stretches_runs ((series.stretches day day').rising.imp_of_mem fun mem mem' less => ?_)
  obtain ⟨k, is, -⟩ := series.inside day day' mem
  obtain ⟨k', is', -⟩ := series.inside day day' mem'
  rw [is, is'] at less ⊢
  exact bucketStart_mono (target_ne_week second) (Int.cast_lt.mp less).le

theorem bucketsOf_eq_join (series : Series source bars) (first : source ∈ allowed middle)
    (second : middle ∈ allowed target) :
    bucketsOf bars target = (bucketsOfBuckets bars middle target).map Run.join := by
  have split := series.stretches (source_ne_week first) (target_ne_week first)
  have joined : Stretches (fun b => bucketStart b.barTime target) bars
      ((bucketsOfBuckets bars middle target).map Run.join) := by
    refine split.join (g := fun k => bucketStart k target)
      (stretches_bucketsOfBuckets series first second) fun b mem => ?_
    obtain ⟨t, is, -⟩ := series.exists_time (source_ne_week first) mem
    rw [is]
    exact (bucketStart_bucketStart (target_ne_week first) (target_ne_week second)
      (seconds_dvd second) t).symm
  exact joined.eq_runs.symm

theorem bucketsOf_candles {e : ℤ} (series : Series source bars) (first : source ∈ allowed middle)
    (second : middle ∈ allowed target) :
    bucketsOf ((bucketsOf bars middle).map (candle symbol provider middle e)) target =
      (bucketsOfBuckets bars middle target).map (Run.map (candle symbol provider middle e)) :=
  (Stretches.map (candle symbol provider middle e)
    (stretches_bucketsOfBuckets series first second)).eq_runs.symm

theorem complete_join {symbol : String} {provider : Provider} (series : Series source bars)
    (first : source ∈ allowed middle) (second : middle ∈ allowed target)
    (mem : r ∈ bucketsOfBuckets bars middle target) :
    (candle symbol provider target (target.seconds / middle.seconds)
        (r.map (candle symbol provider middle (middle.seconds / source.seconds)))).complete =
      (candle symbol provider target (target.seconds / source.seconds) r.join).complete := by
  have day := source_ne_week first
  have day' := target_ne_week first
  have day'' := target_ne_week second
  have parts := seconds_dvd first
  have split := series.stretches day day'
  have split' := stretches_bucketsOfBuckets series first second
  have mids := series.candles day day' symbol provider (middle.seconds / source.seconds)
  have inMids : r.map (candle symbol provider middle (middle.seconds / source.seconds)) ∈
      bucketsOf ((bucketsOf bars middle).map
        (candle symbol provider middle (middle.seconds / source.seconds))) target := by
    rw [bucketsOf_candles series first second]
    exact List.mem_map_of_mem mem
  have inBars : r.join ∈ bucketsOf bars target := by
    rw [bucketsOf_eq_join series first second]
    exact List.mem_map_of_mem mem
  obtain ⟨k, is, aligned, inside⟩ := mids.inside day' day'' inMids
  rw [Run.map_all, List.forall_mem_map] at inside
  rw [Bool.eq_iff_iff, mids.complete_candle_iff day' day'' (seconds_dvd second) inMids is,
    series.complete_candle_iff day day'' (parts.trans (seconds_dvd second)) inBars is]
  -- the buckets of the shorter period: where they start, and when their candles are complete
  have known : ∀ s ∈ r.all, s ∈ bucketsOf bars middle := fun s here => split'.mem_of_mem mem here
  have named : ∀ s ∈ r.all, ∀ b ∈ s.all, bucketStart b.barTime middle = s.key :=
    fun s here => split.keyed s (known s here)
  rw [Run.map_all, List.map_map, List.forall_mem_map]
  constructor
  · rintro ⟨covered, each⟩
    constructor
    · intro t slot after before
      have last := Int.emod_nonneg t (Timeframe.seconds_pos middle).ne'
      have slot' : middle.seconds ∣ t - t % middle.seconds := Int.dvd_self_sub_emod
      have start : k ≤ t - t % middle.seconds := by
        have whole : middle.seconds ∣ k - (t - t % middle.seconds) :=
          dvd_sub ((seconds_dvd second).trans aligned) slot'
        have less := Int.emod_lt_of_pos t (Timeframe.seconds_pos middle)
        by_contra past
        have far := Int.le_of_dvd (by omega) whole
        omega
      obtain ⟨s, here, opens⟩ := List.mem_map.mp (covered _ slot' start (by omega))
      have inner := ((series.complete_candle_iff day day' parts (known s here) opens).mp
        (each s here)).1
      have less := Int.emod_lt_of_pos t (Timeframe.seconds_pos middle)
      obtain ⟨b, inside, at_⟩ := List.mem_map.mp (inner t slot (by omega) (by omega))
      exact List.mem_map.mpr ⟨b, Run.mem_join.mpr ⟨s, here, inside⟩, at_⟩
    · intro b mem
      obtain ⟨s, here, inside⟩ := Run.mem_join.mp mem
      obtain ⟨j, opens, -⟩ := series.inside day day' (known s here)
      exact ((series.complete_candle_iff day day' parts (known s here) opens).mp
        (each s here)).2 b inside
  · rintro ⟨covered, each⟩
    constructor
    · intro j slot after before
      obtain ⟨b, mem, at_⟩ := List.mem_map.mp (covered j (parts.trans slot) after before)
      obtain ⟨s, here, inside⟩ := Run.mem_join.mp mem
      refine List.mem_map.mpr ⟨s, here, ?_⟩
      change s.key = j
      rw [← named s here b inside, at_]
      exact (bucketStart_eq_iff day' slot j).mpr
        ⟨le_rfl, lt_add_of_pos_right j (Timeframe.seconds_pos middle)⟩
    · intro s here
      obtain ⟨j, opens, slot, -⟩ := series.inside day day' (known s here)
      refine (series.complete_candle_iff day day' parts (known s here) opens).mpr
        ⟨fun t slot' after before => ?_, fun b inside =>
          each b (Run.mem_join.mpr ⟨s, here, inside⟩)⟩
      obtain ⟨j', opens', slots, low, high⟩ := inside s here
      have same : j' = j := Int.cast_injective (opens'.symm.trans opens)
      have whole : middle.seconds ≤ k + target.seconds - j' :=
        Int.le_of_dvd (by omega)
          (dvd_sub (dvd_add ((seconds_dvd second).trans aligned) (seconds_dvd second)) slots)
      obtain ⟨b, mem, at_⟩ := List.mem_map.mp (covered t slot' (by omega) (by omega))
      obtain ⟨s', here', inside'⟩ := Run.mem_join.mp mem
      have key : s'.key = s.key := by
        rw [← named s' here' b inside', at_, opens]
        exact (bucketStart_eq_iff day' slot t).mpr ⟨after, before⟩
      rw [← split.eq_of_key (known s' here') (known s here) key]
      exact List.mem_map.mpr ⟨b, inside', at_⟩

theorem candlesOf_candlesOf (series : Series source bars) (first : source ∈ allowed middle)
    (second : middle ∈ allowed target) :
    candlesOf middle (candlesOf source bars middle) target = candlesOf source bars target := by
  cases bars with
  | nil => rfl
  | cons b rest =>
    have known : ∀ b' ∈ b :: rest, b'.symbol = b.symbol ∧ b'.provider = b.provider :=
      fun b' mem => ⟨series.symbol b' mem b List.mem_cons_self,
        series.provider b' mem b List.mem_cons_self⟩
    have known' : ∀ c ∈ (bucketsOf (b :: rest) middle).map
        (candle b.symbol b.provider middle (middle.seconds / source.seconds)),
        c.symbol = b.symbol ∧ c.provider = b.provider :=
      List.forall_mem_map.mpr fun _ _ => ⟨rfl, rfl⟩
    rw [candlesOf_eq known, candlesOf_eq known, candlesOf_eq known',
      bucketsOf_candles series first second, bucketsOf_eq_join series first second, List.map_map,
      List.map_map]
    exact List.map_congr_left fun r mem => candle_join (complete_join series first second mem)

end Join

def members (bars : List ServedBar) (c : ServedBar) : List ServedBar :=
  bars.filter fun b => c.barTime ≤ b.barTime ∧ b.barTime < c.barTime + c.timeframe.seconds

structure MadeOf (c : ServedBar) (group : List ServedBar) : Prop where
  open_ : group.head?.map (fun b => b.open_) = some c.open_
  high : IsGreatest {q | ∃ b ∈ group, b.high = q} c.high
  low : IsLeast {q | ∃ b ∈ group, b.low = q} c.low
  close : group.getLast?.map (fun b => b.close) = some c.close
  missing : (∃ b ∈ group, b.volume = none) → c.volume = none
  volume : ∀ volumes : List ℚ, group.map (fun b => b.volume) = volumes.map some →
    c.volume = some volumes.sum

structure Candles (source target : Timeframe) (bars out : List ServedBar) : Prop where
  rising : out.Pairwise fun c c' => c.barTime < c'.barTime
  once : ∀ b ∈ bars, ∃! c, c ∈ out ∧ b ∈ members bars c
  made : ∀ c ∈ out, c.timeframe = target ∧ MadeOf c (members bars c)
  full : ∀ c ∈ out, c.complete = true → ∀ slot, bucketStart slot source = slot →
    c.barTime ≤ slot → slot < c.barTime + target.seconds →
      ∃ b ∈ bars, b.barTime = slot ∧ b.complete = true
  final : ∀ later out', Series source (bars ++ later) →
    resample (bars ++ later) target = .ok out' → ∀ c ∈ out, c.complete = true → c ∈ out'

section Spec

variable {source target : Timeframe} {bars : List ServedBar} {r : Run ServedBar Time}
  {symbol : String} {provider : Provider}

theorem madeOf_candle (r : Run ServedBar Time) :
    MadeOf (candle symbol provider target e r) r.all where
  open_ := rfl
  high := r.isGreatest_fold
  low := r.isLeast_fold
  close := candle_close r
  missing := by
    rintro ⟨b, mem, none_⟩
    have some_ : ¬ (r.all.map fun b => b.volume).all Option.isSome = true := by
      intro all
      have here := List.all_eq_true.mp all _ (List.mem_map_of_mem mem)
      rw [none_] at here
      cases here
    exact if_neg some_
  volume volumes same := by
    change totalVolume (r.all.map fun b => b.volume) = _
    rw [same]
    unfold totalVolume
    simp

theorem Series.members_candle (series : Series source bars) (day : source ≠ .w1)
    (day' : target ≠ .w1) (mem : r ∈ bucketsOf bars target) :
    members bars (candle symbol provider target e r) = r.all := by
  obtain ⟨k, is, aligned, -⟩ := series.inside day day' mem
  rw [← (series.stretches day day').filter_key mem]
  refine List.filter_congr fun b inside => ?_
  obtain ⟨t, opens, -⟩ := series.exists_time day inside
  change decide (r.key ≤ b.barTime ∧ b.barTime < r.key + target.seconds) = _
  rw [opens, is, decide_eq_decide, bucketStart_eq_iff day' aligned]
  exact ⟨fun ⟨low, high⟩ => ⟨by exact_mod_cast low, by exact_mod_cast high⟩,
    fun ⟨low, high⟩ => ⟨by exact_mod_cast low, by exact_mod_cast high⟩⟩

theorem Series.exists_of_complete (series : Series source bars) (may : source ∈ allowed target)
    (mem : r ∈ bucketsOf bars target)
    (complete : (candle symbol provider target (target.seconds / source.seconds) r).complete = true)
    {slot : Time} (aligned : bucketStart slot source = slot) (after : r.key ≤ slot)
    (before : slot < r.key + target.seconds) :
    ∃ b ∈ r.all, b.barTime = slot ∧ b.complete = true := by
  have day := source_ne_week may
  obtain ⟨k, is, -⟩ := series.inside day (target_ne_week may) mem
  obtain ⟨covered, each⟩ := (series.complete_candle_iff day (target_ne_week may)
    (seconds_dvd may) mem is).mp complete
  obtain ⟨t, start, multiple⟩ := exists_bucketStart day slot
  have at_ : slot = t := aligned.symm.trans start
  rw [at_, is] at after before
  obtain ⟨b, inside, opens⟩ := List.mem_map.mp
    (covered t multiple (by exact_mod_cast after) (by exact_mod_cast before))
  exact ⟨b, inside, opens.trans at_.symm, each b inside⟩

theorem Series.mem_bucketsOf_append {later : List ServedBar} (may : source ∈ allowed target)
    (series : Series source bars) (longer : Series source (bars ++ later))
    (mem : r ∈ bucketsOf bars target) (complete :
      (candle symbol provider target (target.seconds / source.seconds) r).complete = true) :
    r ∈ bucketsOf (bars ++ later) target := by
  have day := source_ne_week may
  have day' := target_ne_week may
  refine mem_runs_append mem fun b inside same => ?_
  obtain ⟨k, is, aligned, -⟩ := series.inside day day' mem
  obtain ⟨t, opens, -⟩ := longer.exists_time day (List.mem_append_right _ inside)
  rw [opens, is] at same
  obtain ⟨low, high⟩ := (bucketStart_eq_iff day' aligned t).mp same
  obtain ⟨b', here, opens', -⟩ := series.exists_of_complete may mem complete
    (longer.aligned b (List.mem_append_right _ inside)).symm
    (by rw [is, opens]; exact_mod_cast low) (by rw [is, opens]; exact_mod_cast high)
  have earlier := (List.pairwise_append.mp longer.rising).2.2 b'
    ((series.stretches day day').mem_of_mem mem here) b inside
  exact earlier.ne opens'

theorem Series.series_candlesOf (series : Series source bars) (may : source ∈ allowed target) :
    Series target (candlesOf source bars target) := by
  cases bars with
  | nil =>
    exact ⟨List.forall_mem_nil _, List.forall_mem_nil _, List.forall_mem_nil _,
      List.Pairwise.nil, List.forall_mem_nil _⟩
  | cons first rest => exact series.candles (source_ne_week may) (target_ne_week may) _ _ _

theorem Series.candles_candlesOf (series : Series source bars) (may : source ∈ allowed target) :
    Candles source target bars (candlesOf source bars target) := by
  have day := source_ne_week may
  have day' := target_ne_week may
  cases bars with
  | nil => exact ⟨List.Pairwise.nil, List.forall_mem_nil _, List.forall_mem_nil _,
      List.forall_mem_nil _, fun _ _ _ _ => List.forall_mem_nil _⟩
  | cons first rest =>
    have split := series.stretches day day'
    change Candles source target (first :: rest) ((bucketsOf (first :: rest) target).map
      (candle first.symbol first.provider target (target.seconds / source.seconds)))
    refine ⟨List.pairwise_map.mpr split.rising, ?_, ?_, ?_, ?_⟩
    · intro b mem
      obtain ⟨r, here, inside⟩ := split.exists_of_mem mem
      refine ⟨_, ⟨List.mem_map_of_mem here, ?_⟩, ?_⟩
      · rw [series.members_candle day day' here]
        exact inside
      · rintro _ ⟨mem', inside'⟩
        obtain ⟨r', here', rfl⟩ := List.mem_map.mp mem'
        rw [series.members_candle day day' here'] at inside'
        rw [split.eq_of_key here' here
          ((split.keyed r' here' b inside').symm.trans (split.keyed r here b inside))]
    · refine List.forall_mem_map.mpr fun r here => ⟨rfl, ?_⟩
      rw [series.members_candle day day' here]
      exact madeOf_candle r
    · refine List.forall_mem_map.mpr fun r here complete slot aligned after before => ?_
      obtain ⟨b, inside, opens⟩ := series.exists_of_complete may here complete aligned after before
      exact ⟨b, split.mem_of_mem here inside, opens⟩
    · intro later out' longer answered
      rw [longer.resample_eq may] at answered
      obtain rfl := Except.ok.inj answered
      refine List.forall_mem_map.mpr fun r here complete => ?_
      exact List.mem_map_of_mem (series.mem_bucketsOf_append may longer here complete)

end Spec

/-- In two steps: every call makes candles, and the second gives what one step gives where that
step is allowed. -/
theorem resample_resample {source middle target : Timeframe} {bars : List ServedBar}
    (series : Series source bars) (first : source ∈ allowed middle)
    (second : middle ∈ allowed target) :
    ∃ mid out, resample bars middle = .ok mid ∧ resample mid target = .ok out ∧
      Candles source middle bars mid ∧ Candles middle target mid out ∧
      (source ∈ allowed target →
        resample bars target = .ok out ∧ Candles source target bars out) ∧
      (source ∉ allowed target → bars ≠ [] →
        resample bars target = .error (cannotAggregate source target)) := by
  have mids := series.series_candlesOf first
  have same := candlesOf_candlesOf series first second
  refine ⟨_, _, series.resample_eq first, mids.resample_eq second, series.candles_candlesOf first,
    mids.candles_candlesOf second, fun direct => ?_, fun mayNot some_ => ?_⟩
  · rw [same]
    exact ⟨series.resample_eq direct, series.candles_candlesOf direct⟩
  · refine series.resample_refused some_ (fun is => ?_) mayNot
    subst is
    exact (seconds_lt first).asymm (seconds_lt second)

def flatBars (source : Timeframe) (n : ℕ) : List ServedBar :=
  (List.range n).map fun i : ℕ =>
    { symbol := "EURUSD", timeframe := source, barTime := (i * source.seconds : ℤ), open_ := 1
      high := 1, low := 1, close := 1, provider := .mt5 }

theorem series_flatBars (source : Timeframe) (day : source ≠ .w1) (n : ℕ) :
    Series source (flatBars source n) := by
  refine ⟨?_, ?_, ?_, ?_, ?_⟩
  · exact List.forall_mem_map.mpr fun _ _ => rfl
  · exact List.forall_mem_map.mpr fun _ _ => List.forall_mem_map.mpr fun _ _ => rfl
  · exact List.forall_mem_map.mpr fun _ _ => List.forall_mem_map.mpr fun _ _ => rfl
  · refine List.pairwise_map.mpr (List.pairwise_lt_range.imp fun {i j} less => ?_)
    exact Int.cast_lt.mpr (mul_lt_mul_of_pos_right (by omega) (Timeframe.seconds_pos source))
  · refine List.forall_mem_map.mpr fun i _ => ?_
    rw [bucketStart_intCast day, Int.mul_emod_left, sub_zero]

/-- Four quarters of an hour, through two halves. -/
theorem resample_resample_quarters :
    ∃ mid out, resample (flatBars .m15 4) .m30 = .ok mid ∧ resample mid .h1 = .ok out ∧
      resample (flatBars .m15 4) .h1 = .ok out := by
  obtain ⟨mid, out, one, two, -, -, direct, -⟩ :=
    resample_resample (series_flatBars .m15 (by decide) 4)
      (show Timeframe.m15 ∈ allowed .m30 by decide) (show Timeframe.m30 ∈ allowed .h1 by decide)
  exact ⟨mid, out, one, two, (direct (by decide)).1⟩

/-- Five minutes are in a candle of four hours through one of five minutes, and not in one step. -/
theorem not_forall_resample_resample :
    ¬ ∀ (source middle target : Timeframe) (bars mid : List ServedBar), Series source bars →
      source ∈ allowed middle → middle ∈ allowed target → resample bars middle = .ok mid →
      (∀ m ∈ mid, m.complete = true) → resample mid target = resample bars target := by
  intro same
  have series := series_flatBars .m1 (by decide) 5
  have answered := series.resample_eq (show Timeframe.m1 ∈ allowed .m5 by decide)
  have complete : ∀ m ∈ candlesOf .m1 (flatBars .m1 5) .m5, m.complete = true := by decide +kernel
  have equal := same .m1 .m5 .h4 _ _ series (by decide) (by decide) answered complete
  have refused := series.resample_refused (show flatBars .m1 5 ≠ [] from List.cons_ne_nil _ _)
    (show Timeframe.h4 ≠ .m1 by decide) (by decide)
  cases equal

end TradeResearch.Datasets
