import Mathlib.Algebra.Order.Archimedean.Basic
import Mathlib.Tactic.FieldSimp
import Mathlib.Tactic.Positivity
import Mathlib.Tactic.Ring
import TradeResearch.Brokers.Rounding

/-!
# Lots sized off the stop

`lot_for_risk` of `tools/mt5_paper.py`. Floats are rationals and are computed with exactly; what is
rounded is what the source rounds.

* `roundTo_mono`, `abs_sub_roundTo_le`: Python's `round`.
* `lot_mono`: the lot grows with the budget, and shrinks as the stop moves away.
* `lots_faithful_iff`: when a lot that is given without a gap is one the venue takes.
-/

namespace TradeResearch.Tools

def roundTo (digits : ℕ) (x : ℚ) : ℚ := Brokers.roundHalfEven (x * 10 ^ digits) / 10 ^ digits

structure TerminalSymbol where
  tradeTickValue : Option ℚ
  tradeTickSize : Option ℚ
  volumeStep : Option ℚ
  volumeMin : Option ℚ
  volumeMax : Option ℚ

def orOther (figure : Option ℚ) (other : ℚ) : ℚ := (figure.filter (· ≠ 0)).getD other

structure LotSizing where
  lot : Option ℚ
  riskRequested : Option ℚ := none
  riskActual : Option ℚ := none
  riskPerLot : Option ℚ := none
  gap : Option Text := none

def unsized (gap : Text) : LotSizing := { lot := none, gap := some gap }

def lotOf (step vmin vmax raw : ℚ) : ℚ :=
  let floored := ⌊roundTo 6 (raw / step)⌋ * step
  let raised := max floored vmin
  roundTo 8 (if 0 < vmax then min raised vmax else raised)

def lotForRisk (info : Option TerminalSymbol) (symbol : String) (slDistance riskAmount : ℚ) :
    LotSizing :=
  match info with
  | none => unsized (Text.lit "no symbol_info")
  | some info =>
    let tickValue := orOther info.tradeTickValue 0
    let tickSize := orOther info.tradeTickSize 0
    if tickValue ≤ 0 ∨ tickSize ≤ 0 then
      unsized (Text.lit s!"no tick value/size for {symbol} (value=" ++ Text.num tickValue ++
        Text.lit ", size=" ++ Text.num tickSize ++ Text.lit ")")
    else if slDistance ≤ 0 then unsized (Text.lit "stop distance is not positive")
    else
      let perLot := slDistance / tickSize * tickValue
      if perLot ≤ 0 then unsized (Text.lit "computed risk per lot is not positive")
      else
        let step := orOther info.volumeStep (1 / 100)
        let vmin := orOther info.volumeMin step
        let vmax := orOther info.volumeMax 0
        let lot := lotOf step vmin vmax (riskAmount / perLot)
        let riskActual := roundTo 4 (lot * perLot)
        { lot := some lot
          riskRequested := some (roundTo 4 riskAmount)
          riskActual := some riskActual
          riskPerLot := some (roundTo 4 perLot)
          gap :=
            if riskAmount * (3 / 2) < riskActual then
              some (Text.lit "min lot " ++ Text.num vmin ++ Text.lit " risks " ++
                Text.num riskActual ++ Text.lit " against a " ++ Text.num riskAmount ++
                Text.lit (" budget - volume step is the binding constraint, not the risk " ++
                  "setting"))
            else none }

theorem roundTo_mono (digits : ℕ) {x y : ℚ} (le : x ≤ y) : roundTo digits x ≤ roundTo digits y := by
  have positive : (0 : ℚ) < 10 ^ digits := by positivity
  refine div_le_div_of_nonneg_right ?_ positive.le
  exact Int.cast_le.mpr (Brokers.roundHalfEven_mono (mul_le_mul_of_nonneg_right le positive.le))

theorem abs_sub_roundTo_le (digits : ℕ) (x : ℚ) : |x - roundTo digits x| ≤ 1 / 2 / 10 ^ digits := by
  have positive : (0 : ℚ) < 10 ^ digits := by positivity
  have scaled : x - roundTo digits x =
      (x * 10 ^ digits - Brokers.roundHalfEven (x * 10 ^ digits)) / 10 ^ digits := by
    unfold roundTo
    field_simp
  rw [scaled, abs_div, abs_of_pos positive]
  exact div_le_div_of_nonneg_right (Brokers.abs_sub_roundHalfEven _) positive.le

theorem roundTo_of_whole {digits : ℕ} {x : ℚ} {k : ℤ} (whole : x * 10 ^ digits = k) :
    roundTo digits x = x := by
  have positive : (0 : ℚ) < 10 ^ digits := by positivity
  rw [roundTo, whole, Brokers.roundHalfEven_intCast, ← whole]
  exact mul_div_cancel_right₀ x positive.ne'

theorem roundTo_intCast (digits : ℕ) (k : ℤ) : roundTo digits k = k := by
  refine roundTo_of_whole (k := k * 10 ^ digits) ?_
  push_cast
  rfl

theorem roundTo_nonneg {digits : ℕ} {x : ℚ} (positive : 0 ≤ x) : 0 ≤ roundTo digits x := by
  have zero := roundTo_intCast digits 0
  rw [Int.cast_zero] at zero
  exact zero ▸ roundTo_mono digits positive

structure Tradable where
  tickValue : ℚ
  tickSize : ℚ
  step : ℚ
  minimum : ℚ
  maximum : ℚ
  tickValue_pos : 0 < tickValue
  tickSize_pos : 0 < tickSize
  step_pos : 0 < step
  minimum_pos : 0 < minimum
  maximum_pos : 0 < maximum

namespace Tradable

def info (spec : Tradable) : TerminalSymbol where
  tradeTickValue := some spec.tickValue
  tradeTickSize := some spec.tickSize
  volumeStep := some spec.step
  volumeMin := some spec.minimum
  volumeMax := some spec.maximum

variable (spec : Tradable)

def perLot (slDistance : ℚ) : ℚ := slDistance / spec.tickSize * spec.tickValue

def clamped (k : ℤ) : ℚ := min (max (k * spec.step) spec.minimum) spec.maximum

def stepsOf (raw : ℚ) : ℤ := ⌊roundTo 6 (raw / spec.step)⌋

def lot (raw : ℚ) : ℚ := roundTo 8 (spec.clamped (spec.stepsOf raw))

variable {spec}

theorem orOther_of_pos {figure other : ℚ} (positive : 0 < figure) :
    orOther (some figure) other = figure := by
  unfold orOther
  rw [Option.filter_some, if_pos (decide_eq_true positive.ne'), Option.getD_some]

theorem lotOf_eq (raw : ℚ) : lotOf spec.step spec.minimum spec.maximum raw = spec.lot raw := by
  unfold lotOf lot clamped stepsOf
  dsimp only
  rw [if_pos spec.maximum_pos]

theorem perLot_pos {slDistance : ℚ} (positive : 0 < slDistance) : 0 < spec.perLot slDistance :=
  mul_pos (div_pos positive spec.tickSize_pos) spec.tickValue_pos

theorem lotForRisk_of_not_pos {symbol : String} {slDistance riskAmount : ℚ}
    (not_pos : slDistance ≤ 0) :
    lotForRisk (some spec.info) symbol slDistance riskAmount =
      unsized (Text.lit "stop distance is not positive") := by
  unfold lotForRisk info
  dsimp only
  rw [orOther_of_pos spec.tickValue_pos, orOther_of_pos spec.tickSize_pos,
    if_neg (not_or.mpr ⟨spec.tickValue_pos.not_ge, spec.tickSize_pos.not_ge⟩), if_pos not_pos]

variable {symbol : String}

theorem lotForRisk_of_pos (positive : 0 < slDistance) :
    (lotForRisk (some spec.info) symbol slDistance riskAmount).lot =
        some (spec.lot (riskAmount / spec.perLot slDistance)) ∧
      (lotForRisk (some spec.info) symbol slDistance riskAmount).riskActual =
        some (roundTo 4 (spec.lot (riskAmount / spec.perLot slDistance) *
          spec.perLot slDistance)) ∧
      ((lotForRisk (some spec.info) symbol slDistance riskAmount).gap = none ↔
        roundTo 4 (spec.lot (riskAmount / spec.perLot slDistance) * spec.perLot slDistance) ≤
          riskAmount * (3 / 2)) := by
  have loses : ¬ spec.perLot slDistance ≤ 0 := (perLot_pos positive).not_ge
  rw [perLot] at loses
  unfold lotForRisk info
  dsimp only
  rw [orOther_of_pos spec.tickValue_pos, orOther_of_pos spec.tickSize_pos,
    if_neg (not_or.mpr ⟨spec.tickValue_pos.not_ge, spec.tickSize_pos.not_ge⟩),
    if_neg positive.not_ge, if_neg loses, orOther_of_pos spec.step_pos,
    orOther_of_pos spec.minimum_pos, orOther_of_pos spec.maximum_pos, lotOf_eq]
  refine ⟨rfl, rfl, ?_⟩
  rw [← not_lt]
  split
  · next more => exact iff_of_false nofun fun fits => fits more
  · next fits => exact iff_of_true rfl fits

theorem pos_of_lot {lot : ℚ}
    (is : (lotForRisk (some spec.info) symbol slDistance riskAmount).lot = some lot) :
    0 < slDistance := by
  by_contra not_pos
  rw [lotForRisk_of_not_pos (not_lt.mp not_pos)] at is
  cases is

theorem stepsOf_mono {raw raw' : ℚ} (le : raw ≤ raw') : spec.stepsOf raw ≤ spec.stepsOf raw' :=
  Int.floor_le_floor (roundTo_mono 6 (div_le_div_of_nonneg_right le spec.step_pos.le))

theorem clamped_mono {k k' : ℤ} (le : k ≤ k') : spec.clamped k ≤ spec.clamped k' := by
  refine min_le_min_right _ (max_le_max_right _ ?_)
  exact mul_le_mul_of_nonneg_right (Int.cast_le.mpr le) spec.step_pos.le

theorem lot_mono {raw raw' : ℚ} (le : raw ≤ raw') : spec.lot raw ≤ spec.lot raw' :=
  roundTo_mono 8 (clamped_mono (stepsOf_mono le))

theorem stepsOf_nonpos {raw : ℚ} (not_pos : raw ≤ 0) : spec.stepsOf raw ≤ 0 := by
  have ratio : raw / spec.step ≤ ((0 : ℤ) : ℚ) := by
    exact div_nonpos_of_nonpos_of_nonneg not_pos spec.step_pos.le
  have rounded := roundTo_mono 6 ratio
  rw [roundTo_intCast] at rounded
  exact (Int.floor_le_floor rounded).trans (Int.floor_intCast 0).le

theorem clamped_of_nonpos {k : ℤ} (not_pos : k ≤ 0) :
    spec.clamped k = min spec.minimum spec.maximum := by
  have less : k * spec.step ≤ spec.minimum :=
    (mul_nonpos_of_nonpos_of_nonneg (Int.cast_nonpos.mpr not_pos) spec.step_pos.le).trans
      spec.minimum_pos.le
  rw [clamped, max_eq_right less]

theorem lot_div_anti {budget p p' : ℚ} (positive : 0 < p) (le : p ≤ p') :
    spec.lot (budget / p') ≤ spec.lot (budget / p) := by
  rcases le_total 0 budget with owed | overdrawn
  · exact lot_mono (div_le_div_of_nonneg_left owed positive le)
  · have none_ : ∀ q, 0 < q →
        spec.lot (budget / q) = roundTo 8 (min spec.minimum spec.maximum) := by
      intro q pos
      have steps : spec.stepsOf (budget / q) ≤ 0 :=
        stepsOf_nonpos (div_nonpos_of_nonpos_of_nonneg overdrawn pos.le)
      rw [lot, clamped_of_nonpos steps]
    exact ((none_ p' (positive.trans_le le)).trans (none_ p positive).symm).le

theorem perLot_mono {near far : ℚ} (le : near ≤ far) : spec.perLot near ≤ spec.perLot far :=
  mul_le_mul_of_nonneg_right (div_le_div_of_nonneg_right le spec.tickSize_pos.le)
    spec.tickValue_pos.le

def Normal (spec : Tradable) (lot : ℚ) : Prop :=
  (∃ k : ℤ, lot = k * spec.step) ∧ spec.minimum ≤ lot ∧ lot ≤ spec.maximum

structure Faithful (spec : Tradable) : Prop where
  normal : ∀ symbol slDistance riskAmount,
    (lotForRisk (some spec.info) symbol slDistance riskAmount).gap = none →
      ∃ lot, (lotForRisk (some spec.info) symbol slDistance riskAmount).lot = some lot ∧
        spec.Normal lot
  within : ∀ symbol slDistance riskAmount,
    (lotForRisk (some spec.info) symbol slDistance riskAmount).gap = none →
      ∃ lot risk, (lotForRisk (some spec.info) symbol slDistance riskAmount).lot = some lot ∧
        (lotForRisk (some spec.info) symbol slDistance riskAmount).riskActual = some risk ∧
        risk ≤ riskAmount * (3 / 2) ∧ |lot * spec.perLot slDistance - risk| ≤ 1 / 2 / 10 ^ 4
  grows : ∀ symbol slDistance budget budget' lot lot', budget ≤ budget' →
    (lotForRisk (some spec.info) symbol slDistance budget).lot = some lot →
    (lotForRisk (some spec.info) symbol slDistance budget').lot = some lot' → lot ≤ lot'
  shrinks : ∀ symbol near far riskAmount lot lot', near ≤ far →
    (lotForRisk (some spec.info) symbol near riskAmount).lot = some lot →
    (lotForRisk (some spec.info) symbol far riskAmount).lot = some lot' → lot' ≤ lot

theorem pos_of_gap
    (none_ : (lotForRisk (some spec.info) symbol slDistance riskAmount).gap = none) :
    0 < slDistance := by
  by_contra not_pos
  rw [lotForRisk_of_not_pos (not_lt.mp not_pos)] at none_
  cases none_

theorem within_budget
    (none_ : (lotForRisk (some spec.info) symbol slDistance riskAmount).gap = none) :
    ∃ lot risk, (lotForRisk (some spec.info) symbol slDistance riskAmount).lot = some lot ∧
      (lotForRisk (some spec.info) symbol slDistance riskAmount).riskActual = some risk ∧
      risk ≤ riskAmount * (3 / 2) ∧ |lot * spec.perLot slDistance - risk| ≤ 1 / 2 / 10 ^ 4 := by
  obtain ⟨lot, risk, gap⟩ := lotForRisk_of_pos (pos_of_gap none_)
  exact ⟨_, _, lot, risk, gap.mp none_, abs_sub_roundTo_le 4 _⟩

theorem grows_with_budget {budget budget' lot lot' : ℚ} (le : budget ≤ budget')
    (is : (lotForRisk (some spec.info) symbol slDistance budget).lot = some lot)
    (is' : (lotForRisk (some spec.info) symbol slDistance budget').lot = some lot') :
    lot ≤ lot' := by
  have positive := pos_of_lot is
  rw [(lotForRisk_of_pos positive).1] at is is'
  cases is
  cases is'
  exact lot_mono (div_le_div_of_nonneg_right le (perLot_pos positive).le)

theorem shrinks_with_distance {near far lot lot' : ℚ} (le : near ≤ far)
    (is : (lotForRisk (some spec.info) symbol near riskAmount).lot = some lot)
    (is' : (lotForRisk (some spec.info) symbol far riskAmount).lot = some lot') : lot' ≤ lot := by
  have positive := pos_of_lot is
  rw [(lotForRisk_of_pos positive).1] at is
  rw [(lotForRisk_of_pos (pos_of_lot is')).1] at is'
  cases is
  cases is'
  exact lot_div_anti (perLot_pos positive) (perLot_mono le)

def Volume (spec : Tradable) (v : ℚ) : Prop :=
  v = spec.minimum ∨ v = spec.maximum ∨
    (spec.minimum ≤ v ∧ v ≤ spec.maximum) ∧ ∃ k : ℤ, v = k * spec.step

theorem volume_clamped (ordered : spec.minimum ≤ spec.maximum) (k : ℤ) :
    spec.Volume (spec.clamped k) := by
  unfold clamped
  rcases le_total (k * spec.step) spec.minimum with low | raised
  · rw [max_eq_right low, min_eq_left ordered]
    exact .inl rfl
  · rw [max_eq_left raised]
    rcases le_total (k * spec.step) spec.maximum with inside | high
    · rw [min_eq_left inside]
      exact .inr (.inr ⟨⟨raised, inside⟩, k, rfl⟩)
    · rw [min_eq_right high]
      exact .inr (.inl rfl)

theorem exists_clamped (ordered : spec.minimum ≤ spec.maximum) {v : ℚ} (volume : spec.Volume v) :
    ∃ k : ℤ, 0 ≤ k ∧ spec.clamped k = v := by
  rcases volume with rfl | rfl | ⟨⟨raised, inside⟩, k, rfl⟩
  · refine ⟨0, le_rfl, ?_⟩
    rw [clamped_of_nonpos le_rfl, min_eq_left ordered]
  · obtain ⟨n, many⟩ := exists_nat_ge (spec.maximum / spec.step)
    have high : spec.maximum ≤ ((n : ℤ) : ℚ) * spec.step := by
      exact (div_le_iff₀ spec.step_pos).mp many
    refine ⟨n, Int.natCast_nonneg n, ?_⟩
    rw [clamped, max_eq_left (ordered.trans high), min_eq_right high]
  · refine ⟨k, ?_, by rw [clamped, max_eq_left raised, min_eq_left inside]⟩
    have positive : (0 : ℚ) < k :=
      pos_of_mul_pos_left (spec.minimum_pos.trans_le raised) spec.step_pos.le
    exact (Int.cast_pos.mp positive).le

theorem sized_of_steps {k : ℤ} (nonneg : 0 ≤ k) :
    ∃ slDistance riskAmount,
      (lotForRisk (some spec.info) "" slDistance riskAmount).gap = none ∧
      (lotForRisk (some spec.info) "" slDistance riskAmount).lot =
        some (roundTo 8 (spec.clamped k)) := by
  -- the whole lot loses less than half of the last decimal that is reported
  have lot_nonneg : 0 ≤ roundTo 8 (spec.clamped k) :=
    roundTo_nonneg (le_min (spec.minimum_pos.le.trans (le_max_right _ _)) spec.maximum_pos.le)
  obtain ⟨p, p_pos, small⟩ : ∃ p : ℚ, 0 < p ∧ roundTo 8 (spec.clamped k) * p < 1 / 20000 := by
    refine ⟨1 / 20000 / (roundTo 8 (spec.clamped k) + 1), by positivity, ?_⟩
    rw [mul_div_assoc', div_lt_iff₀ (by positivity)]
    linarith
  have distance_pos : 0 < p / spec.tickValue * spec.tickSize :=
    mul_pos (div_pos p_pos spec.tickValue_pos) spec.tickSize_pos
  have loses : spec.perLot (p / spec.tickValue * spec.tickSize) = p := by
    unfold perLot
    rw [mul_div_assoc, div_self spec.tickSize_pos.ne', mul_one,
      div_mul_cancel₀ _ spec.tickValue_pos.ne']
  have steps : spec.stepsOf (k * spec.step * p / p) = k := by
    unfold stepsOf
    rw [mul_div_assoc, div_self p_pos.ne', mul_one, mul_div_assoc, div_self spec.step_pos.ne',
      mul_one, roundTo_intCast, Int.floor_intCast]
  obtain ⟨lot, -, gap⟩ := @lotForRisk_of_pos spec "" _ (k * spec.step * p) distance_pos
  rw [loses, Tradable.lot, steps] at lot gap
  refine ⟨_, _, gap.mpr ?_, lot⟩
  have nothing : roundTo 4 (roundTo 8 (spec.clamped k) * p) = 0 := by
    have whole : Brokers.roundHalfEven (roundTo 8 (spec.clamped k) * p * 10 ^ 4) = 0 := by
      refine (Brokers.roundHalfEven_eq_iff _ 0).mpr (.inl ?_)
      rw [Int.cast_zero, sub_zero, abs_of_nonneg (by positivity)]
      linarith
    rw [roundTo, whole, Int.cast_zero, zero_div]
  rw [nothing]
  have step_pos := spec.step_pos
  positivity

theorem lots_faithful_iff_volumes :
    spec.Faithful ↔ spec.minimum ≤ spec.maximum ∧
      ∀ v, spec.Volume v → spec.Normal (roundTo 8 v) := by
  constructor
  · intro faithful
    have normal : ∀ k : ℤ, 0 ≤ k → spec.Normal (roundTo 8 (spec.clamped k)) := by
      intro k nonneg
      obtain ⟨slDistance, riskAmount, none_, is⟩ := @sized_of_steps spec k nonneg
      obtain ⟨lot, is', normal⟩ := faithful.normal _ _ _ none_
      rw [is] at is'
      cases is'
      exact normal
    have ordered : spec.minimum ≤ spec.maximum := (normal 0 le_rfl).2.1.trans (normal 0 le_rfl).2.2
    refine ⟨ordered, fun v volume => ?_⟩
    obtain ⟨k, nonneg, rfl⟩ := exists_clamped ordered volume
    exact normal k nonneg
  · intro ⟨ordered, normal⟩
    refine ⟨fun symbol slDistance riskAmount none_ => ?_, fun _ _ _ => within_budget,
      fun _ _ _ _ _ _ => grows_with_budget, fun _ _ _ _ _ _ => shrinks_with_distance⟩
    exact ⟨_, (lotForRisk_of_pos (pos_of_gap none_)).1, normal _ (volume_clamped ordered _)⟩

/-- Lots are faithful when the bounds are in order and each volume between them is, in eight
decimals, one the venue takes. -/
theorem lots_faithful_iff (spec : Tradable) :
    spec.Faithful ↔ spec.minimum ≤ spec.maximum ∧
      ∀ v, spec.Volume v → spec.Normal (roundTo 8 v) :=
  lots_faithful_iff_volumes

theorem lots_faithful_iff_of_decimals (step minimum maximum : ℤ)
    (step_is : spec.step * 10 ^ 8 = step) (minimum_is : spec.minimum * 10 ^ 8 = minimum)
    (maximum_is : spec.maximum * 10 ^ 8 = maximum) :
    spec.Faithful ↔ spec.minimum ≤ spec.maximum ∧
      (∃ k : ℤ, spec.minimum = k * spec.step) ∧ ∃ k : ℤ, spec.maximum = k * spec.step := by
  rw [lots_faithful_iff_volumes]
  refine and_congr_right fun ordered => ⟨fun normal => ?_, fun ⟨low, high⟩ v volume => ?_⟩
  · have low := (normal _ (.inl rfl)).1
    have high := (normal _ (.inr (.inl rfl))).1
    rw [roundTo_of_whole minimum_is] at low
    rw [roundTo_of_whole maximum_is] at high
    exact ⟨low, high⟩
  · rcases volume with rfl | rfl | ⟨bounds, k, rfl⟩
    · rw [roundTo_of_whole minimum_is]
      exact ⟨low, le_rfl, ordered⟩
    · rw [roundTo_of_whole maximum_is]
      exact ⟨high, ordered, le_rfl⟩
    · have whole : k * spec.step * 10 ^ 8 = ((k * step : ℤ) : ℚ) := by
        rw [mul_assoc, step_is, Int.cast_mul]
      rw [roundTo_of_whole whole]
      exact ⟨⟨k, rfl⟩, bounds⟩

def pair (step minimum maximum : ℚ) (step_pos : 0 < step) (minimum_pos : 0 < minimum)
    (maximum_pos : 0 < maximum) : Tradable where
  tickValue := 1
  tickSize := 1 / 100000
  step
  minimum
  maximum
  tickValue_pos := by norm_num
  tickSize_pos := by norm_num
  step_pos
  minimum_pos
  maximum_pos

theorem hundredth_pos : (0 : ℚ) < 1 / 100 := by norm_num

theorem half_pos : (0 : ℚ) < 3 / 200 := by norm_num

theorem hundred_pos : (0 : ℚ) < 100 := by norm_num

/-- A minimum of one step and a half is given as it is, and so is such a maximum. -/
theorem not_forall_lots_faithful :
    ¬ (pair (1 / 100) (3 / 200) 100 hundredth_pos half_pos hundred_pos).Faithful ∧
      ¬ (pair (1 / 100) (1 / 100) (3 / 200) hundredth_pos hundredth_pos half_pos).Faithful := by
  have half : ∀ k : ℤ, (3 / 200 : ℚ) ≠ k * (1 / 100) := by
    intro k is
    have twice : (3 : ℚ) = ((2 * k : ℤ) : ℚ) := by
      push_cast
      linarith
    have odd : (3 : ℤ) = 2 * k := by exact_mod_cast twice
    omega
  constructor
  · rw [lots_faithful_iff_of_decimals 1000000 1500000 10000000000
      (by norm_num [pair]) (by norm_num [pair]) (by norm_num [pair])]
    exact fun other => other.2.1.elim half
  · rw [lots_faithful_iff_of_decimals 1000000 1000000 1500000
      (by norm_num [pair]) (by norm_num [pair]) (by norm_num [pair])]
    exact fun other => other.2.2.elim half

end Tradable

end TradeResearch.Tools
