import Mathlib.Tactic.FieldSimp
import TradeResearch.Symbols.Precision

/-!
# What a normalized quantity is

`normalize_quantity` accepts a quantity within a tolerance of the grid of a venue, and gives the
grid point for it. What it gives is a size of the venue where the quantity was on the grid, or far
enough off it.

* `stepsIn_le`, `le_stepsIn`: the count of steps, against a whole number.
* `NormalQuantity` is what is asked of a result, and `OnGrid` when it is given.
* `normal_iff_onGrid`: the two agree.
-/

namespace TradeResearch.Symbols

open Brokers

theorem stepEpsilon_pos : 0 < stepEpsilon := by
  unfold stepEpsilon
  norm_num

theorem stepEpsilon_lt_half : stepEpsilon < 1 / 2 := by
  unfold stepEpsilon
  norm_num

theorem stepEpsilon_lt_one : stepEpsilon < 1 := stepEpsilon_lt_half.trans (by norm_num)

theorem stepsIn_cases {value step : ℚ} (step_pos : 0 < step) (positive : 0 ≤ value) :
    ∃ n : ℤ, stepsIn value step = n ∧ 0 ≤ n ∧
      (|value / step - n| ≤ stepEpsilon ∨ n ≤ value / step ∧ value / step < n + 1) := by
  have ratio : 0 ≤ value / step := div_nonneg positive step_pos.le
  unfold stepsIn
  by_cases near : |value / step - roundHalfEven (value / step)| ≤ stepEpsilon
  · refine ⟨roundHalfEven (value / step), if_pos near, ?_, Or.inl near⟩
    have above := (abs_le.mp near).2
    have whole : (-1 : ℚ) < roundHalfEven (value / step) := by
      linarith [stepEpsilon_lt_one]
    have : (-1 : ℤ) < roundHalfEven (value / step) := by exact_mod_cast whole
    omega
  · refine ⟨⌊value / step⌋, ?_, Int.floor_nonneg.mpr ratio, Or.inr ⟨Int.floor_le _, ?_⟩⟩
    · rw [if_neg near, roundDown, if_pos ratio]
    · exact Int.lt_floor_add_one _

theorem stepsIn_of_near {value step : ℚ} {k : ℤ} (near : |value / step - k| ≤ stepEpsilon) :
    stepsIn value step = k := by
  have rounded := abs_sub_roundHalfEven (value / step)
  have same : roundHalfEven (value / step) = k := by
    have small := stepEpsilon_lt_half
    obtain ⟨low, high⟩ := abs_le.mp near
    obtain ⟨low', high'⟩ := abs_le.mp rounded
    have less : (roundHalfEven (value / step) : ℚ) < k + 1 := by linarith
    have more : (k : ℚ) < roundHalfEven (value / step) + 1 := by linarith
    have : roundHalfEven (value / step) < k + 1 := by exact_mod_cast less
    have : k < roundHalfEven (value / step) + 1 := by exact_mod_cast more
    omega
  unfold stepsIn
  dsimp only
  rw [same, if_pos near]

theorem stepsIn_le {value step : ℚ} (step_pos : 0 < step) (positive : 0 ≤ value) {k : ℤ}
    (below : value ≤ k * step) : stepsIn value step ≤ k := by
  have ratio : value / step ≤ k := (div_le_iff₀ step_pos).mpr below
  obtain ⟨n, is, -, near | ⟨under, -⟩⟩ := stepsIn_cases step_pos positive
  · rw [is]
    have close := (abs_le.mp near).1
    have less : (n : ℚ) < k + 1 := by linarith [stepEpsilon_lt_one]
    have : n < k + 1 := by exact_mod_cast less
    exact_mod_cast (by omega : n ≤ k)
  · rw [is]
    exact under.trans ratio

theorem le_stepsIn {value step : ℚ} (step_pos : 0 < step) (positive : 0 ≤ value) {k : ℤ}
    (above : k * step ≤ value) : (k : ℚ) ≤ stepsIn value step := by
  have ratio : (k : ℚ) ≤ value / step := (le_div_iff₀ step_pos).mpr above
  obtain ⟨n, is, -, near | ⟨-, over_⟩⟩ := stepsIn_cases step_pos positive
  · rw [is]
    have close := (abs_le.mp near).2
    have less : (k : ℚ) < n + 1 := by linarith [stepEpsilon_lt_one]
    have : k < n + 1 := by exact_mod_cast less
    exact_mod_cast (by omega : k ≤ n)
  · rw [is]
    have less : (k : ℚ) < n + 1 := ratio.trans_lt over_
    have : k < n + 1 := by exact_mod_cast less
    exact_mod_cast (by omega : k ≤ n)

theorem stepsIn_mul {step : ℚ} (step_pos : 0 < step) {k : ℤ} (positive : 0 ≤ k) :
    stepsIn (k * step) step = k := by
  have value : (0 : ℚ) ≤ k * step := mul_nonneg (by exact_mod_cast positive) step_pos.le
  exact le_antisymm (stepsIn_le step_pos value le_rfl) (le_stepsIn step_pos value le_rfl)

theorem floorToStep_eq {value step : ℚ} (step_pos : 0 < step) (positive : 0 ≤ value) :
    ∃ n : ℤ, 0 ≤ n ∧ stepsIn value step = n ∧ floorToStep value step = n * step := by
  obtain ⟨n, is, whole, -⟩ := stepsIn_cases step_pos positive
  refine ⟨n, whole, is, ?_⟩
  rw [floorToStep, if_neg (not_le.mpr step_pos), is]

theorem floorToStep_mul {step : ℚ} (step_pos : 0 < step) {k : ℤ} (positive : 0 ≤ k) :
    floorToStep (k * step) step = k * step := by
  rw [floorToStep, if_neg (not_le.mpr step_pos), stepsIn_mul step_pos positive]

theorem isStepMultiple_mul {step : ℚ} (step_pos : 0 < step) {k : ℤ} (positive : 0 ≤ k) :
    isStepMultiple (k * step) step = true := by
  rw [isStepMultiple, if_neg (not_le.mpr step_pos), stepsIn_mul step_pos positive, sub_self,
    abs_zero]
  exact decide_eq_true stepEpsilon_pos.le

theorem floorToStep_le {value step : ℚ} (step_pos : 0 < step) (positive : 0 ≤ value) :
    floorToStep value step ≤ value + stepEpsilon * step := by
  obtain ⟨n, is, -, near⟩ := stepsIn_cases step_pos positive
  rw [floorToStep, if_neg (not_le.mpr step_pos), is]
  have count : (n : ℚ) ≤ value / step + stepEpsilon := by
    rcases near with near | ⟨under, -⟩
    · linarith [(abs_le.mp near).1]
    · linarith [stepEpsilon_pos]
  have scaled := mul_le_mul_of_nonneg_right count step_pos.le
  rwa [add_mul, div_mul_cancel₀ value step_pos.ne'] at scaled

structure VolumeRules where
  minimum : ℚ
  maximum : ℚ
  step : ℚ
  minimum_pos : 0 < minimum
  ordered : minimum ≤ maximum
  step_pos : 0 < step

def VolumeRules.normalize (rules : VolumeRules) (allowFloor : Bool) (value : ℚ) :
    Except Text Normalized :=
  normalizeQuantity value (some rules.minimum) (some rules.maximum) (some rules.step) allowFloor

structure NormalQuantity (rules : VolumeRules) (allowFloor : Bool) (value : ℚ) (n : Normalized) :
    Prop where
  positive : 0 < n.value
  multiple : ∃ k : ℤ, n.value = k * rules.step
  within : rules.minimum ≤ n.value ∧ n.value ≤ rules.maximum
  notGreater : n.value ≤ value + stepEpsilon * rules.step
  reported : n.value ≠ value → n.adjustment ≠ .none
  again : rules.normalize allowFloor n.value = .ok { value := n.value }

def OnGrid (rules : VolumeRules) (allowFloor : Bool) (value : ℚ) : Prop :=
  (isStepMultiple value rules.step = true → ∃ k : ℤ, value = k * rules.step) ∧
    (allowFloor = true → isStepMultiple value rules.step = false →
      ∀ k : ℤ, |value / rules.step - k| ≤ stepEpsilon → k * rules.step ≤ rules.maximum)

variable {rules : VolumeRules} {allowFloor : Bool}

theorem normalize_refused (outside : value < rules.minimum ∨ rules.maximum < value)
    (n : Normalized) : rules.normalize allowFloor value ≠ .ok n := by
  intro accepted
  unfold VolumeRules.normalize normalizeQuantity at accepted
  split at accepted
  · cases accepted
  · split at accepted
    · cases accepted
    · rename_i above
      split at accepted
      · cases accepted
      · rename_i below
        rcases outside with less | more
        · exact above (by simpa using less)
        · exact below (by simpa using more)

theorem normalize_within (least : rules.minimum ≤ value) (most : value ≤ rules.maximum) :
    rules.normalize allowFloor value =
      onStep value (some rules.minimum) (some rules.step) allowFloor := by
  have positive : ¬ value ≤ 0 := not_le.mpr (rules.minimum_pos.trans_le least)
  unfold VolumeRules.normalize normalizeQuantity
  rw [if_neg positive, if_neg, if_neg]
  · simpa using most
  · simpa using least

theorem onStep_multiple (multiple : isStepMultiple value rules.step = true) :
    onStep value (some rules.minimum) (some rules.step) allowFloor =
      .ok { value := floorToStep value rules.step } := by
  unfold onStep
  dsimp only
  rw [if_neg (not_le.mpr rules.step_pos), if_pos multiple]

theorem onStep_floored (multiple : isStepMultiple value rules.step = false)
    (positive : 0 < floorToStep value rules.step)
    (least : rules.minimum ≤ floorToStep value rules.step) :
    onStep value (some rules.minimum) (some rules.step) true =
      .ok
        { value := floorToStep value rules.step
          adjustment := .floored
          original := some value
          detail := Text.lit "floored from " ++ Text.num value ++ Text.lit " to the " ++
            Text.num rules.step ++ Text.lit " step grid" } := by
  unfold onStep
  dsimp only
  rw [if_neg (not_le.mpr rules.step_pos), if_neg (ne_true_of_eq_false multiple),
    if_neg (by decide), if_neg (not_le.mpr positive), if_neg]
  simpa using least

theorem onStep_eq_ok (multiple : isStepMultiple value rules.step = false) {n : Normalized}
    (given : onStep value (some rules.minimum) (some rules.step) true = .ok n) :
    n.value = floorToStep value rules.step ∧ rules.minimum ≤ floorToStep value rules.step ∧
      n.adjustment = .floored := by
  unfold onStep at given
  dsimp only at given
  rw [if_neg (not_le.mpr rules.step_pos), if_neg (ne_true_of_eq_false multiple),
    if_neg (by decide)] at given
  split at given
  · cases given
  · split at given
    · cases given
    · rename_i above
      cases given
      exact ⟨rfl, by simpa using above, rfl⟩

theorem normalize_mul {k : ℤ} (least : rules.minimum ≤ k * rules.step)
    (most : k * rules.step ≤ rules.maximum) :
    rules.normalize allowFloor (k * rules.step) = .ok { value := k * rules.step } := by
  have positive : (0 : ℚ) < k * rules.step := rules.minimum_pos.trans_le least
  have count : 0 ≤ k := by
    have : (0 : ℚ) < k := pos_of_mul_pos_left positive rules.step_pos.le
    exact_mod_cast this.le
  rw [normalize_within least most, onStep_multiple (isStepMultiple_mul rules.step_pos count),
    floorToStep_mul rules.step_pos count]

theorem normalize_refused_of_off (least : rules.minimum ≤ value) (most : value ≤ rules.maximum)
    (multiple : isStepMultiple value rules.step = false) (n : Normalized) :
    rules.normalize false value ≠ .ok n := by
  intro accepted
  rw [normalize_within least most] at accepted
  unfold onStep at accepted
  dsimp only at accepted
  rw [if_neg (not_le.mpr rules.step_pos), if_neg (ne_true_of_eq_false multiple), if_pos rfl]
    at accepted
  cases accepted

theorem normalize_eq_ok {n : Normalized} (accepted : rules.normalize allowFloor value = .ok n) :
    rules.minimum ≤ value ∧ value ≤ rules.maximum ∧ n.value = floorToStep value rules.step ∧
      rules.minimum - stepEpsilon ≤ n.value := by
  have least : rules.minimum ≤ value := by
    by_contra less
    exact normalize_refused (Or.inl (not_le.mp less)) n accepted
  have most : value ≤ rules.maximum := by
    by_contra more
    exact normalize_refused (Or.inr (not_le.mp more)) n accepted
  refine ⟨least, most, ?_⟩
  rw [normalize_within least most] at accepted
  cases multiple : isStepMultiple value rules.step with
  | true =>
    rw [onStep_multiple multiple] at accepted
    cases accepted
    rw [isStepMultiple, if_neg (not_le.mpr rules.step_pos), decide_eq_true_iff] at multiple
    refine ⟨rfl, ?_⟩
    rw [floorToStep, if_neg (not_le.mpr rules.step_pos)]
    linarith [(abs_le.mp multiple).2]
  | false =>
    cases allowFloor with
    | true =>
      obtain ⟨is, least', -⟩ := onStep_eq_ok multiple accepted
      refine ⟨is, ?_⟩
      linarith [stepEpsilon_pos]
    | false =>
      rw [← normalize_within least most] at accepted
      exact absurd accepted (normalize_refused_of_off least most multiple n)

theorem normalQuantity_mul {k : ℤ} {n : Normalized} (is : n.value = k * rules.step)
    (least : rules.minimum ≤ n.value) (most : n.value ≤ rules.maximum)
    (near : n.value ≤ value + stepEpsilon * rules.step)
    (reported : n.value ≠ value → n.adjustment ≠ .none) :
    NormalQuantity rules allowFloor value n where
  positive := rules.minimum_pos.trans_le least
  multiple := ⟨k, is⟩
  within := ⟨least, most⟩
  notGreater := near
  reported := reported
  again := by
    rw [is] at least most ⊢
    exact normalize_mul least most

theorem normal_iff_of_multiple (least : rules.minimum ≤ value) (most : value ≤ rules.maximum)
    (multiple : isStepMultiple value rules.step = true) :
    (∀ n, rules.normalize allowFloor value = .ok n → NormalQuantity rules allowFloor value n) ↔
      ∃ k : ℤ, value = k * rules.step := by
  have positive : 0 ≤ value := rules.minimum_pos.le.trans least
  have accepted : rules.normalize allowFloor value =
      .ok { value := floorToStep value rules.step } :=
    (normalize_within least most).trans (onStep_multiple multiple)
  constructor
  · intro normal
    have result := normal _ accepted
    obtain ⟨k, is⟩ := result.multiple
    have same : floorToStep value rules.step = value := by
      by_contra apart
      exact result.reported apart rfl
    exact ⟨k, same.symm.trans is⟩
  · rintro ⟨k, rfl⟩ n given
    have count : 0 ≤ k := by
      have : (0 : ℚ) ≤ k := nonneg_of_mul_nonneg_left positive rules.step_pos
      exact_mod_cast this
    rw [floorToStep_mul rules.step_pos count] at accepted
    cases accepted.symm.trans given
    refine normalQuantity_mul rfl least most ?_ fun apart => absurd rfl apart
    exact le_add_of_nonneg_right (mul_pos stepEpsilon_pos rules.step_pos).le

theorem normal_iff_of_floored (least : rules.minimum ≤ value) (most : value ≤ rules.maximum)
    (multiple : isStepMultiple value rules.step = false) :
    (∀ n, rules.normalize true value = .ok n → NormalQuantity rules true value n) ↔
      ∀ k : ℤ, |value / rules.step - k| ≤ stepEpsilon → k * rules.step ≤ rules.maximum := by
  have positive : 0 ≤ value := rules.minimum_pos.le.trans least
  obtain ⟨m, -, counted, is⟩ := floorToStep_eq rules.step_pos positive
  constructor
  · intro normal k near
    by_contra above
    have most' := not_le.mp above
    have point : floorToStep value rules.step = k * rules.step := by
      rw [floorToStep, if_neg (not_le.mpr rules.step_pos), stepsIn_of_near near]
    have least' := rules.ordered.trans_lt most'
    have accepted := (normalize_within least most).trans (onStep_floored multiple
      (rules.minimum_pos.trans (least'.trans_eq point.symm)) (least'.trans_eq point.symm).le)
    have result := (normal _ accepted).within.2
    exact above (point.symm.trans_le result)
  · intro near n given
    rw [normalize_within least most] at given
    obtain ⟨point, least', adjusted⟩ := onStep_eq_ok multiple given
    rw [← point] at least'
    refine normalQuantity_mul (point.trans is) least' ?_ ?_ fun _ => ?_
    · rw [point, is]
      obtain ⟨m', counted', -, close | ⟨under, -⟩⟩ := stepsIn_cases rules.step_pos positive
      · cases Int.cast_injective (counted.symm.trans counted')
        exact near m close
      · cases Int.cast_injective (counted.symm.trans counted')
        exact ((le_div_iff₀ rules.step_pos).mp under).trans most
    · rw [point]
      exact floorToStep_le rules.step_pos positive
    · rw [adjusted]
      decide

/-- A result is a size of the venue exactly for a quantity outside the bounds or on the grid. -/
theorem normal_iff_onGrid (rules : VolumeRules) (allowFloor : Bool) (value : ℚ) :
    (∀ n, rules.normalize allowFloor value = .ok n → NormalQuantity rules allowFloor value n) ↔
      (rules.minimum ≤ value → value ≤ rules.maximum → OnGrid rules allowFloor value) := by
  by_cases within : rules.minimum ≤ value ∧ value ≤ rules.maximum
  · obtain ⟨least, most⟩ := within
    rw [forall_prop_of_true least, forall_prop_of_true most]
    unfold OnGrid
    cases multiple : isStepMultiple value rules.step with
    | true =>
      rw [normal_iff_of_multiple least most multiple]
      simp
    | false =>
      cases allowFloor with
      | true =>
        rw [normal_iff_of_floored least most multiple]
        simp
      | false =>
        have refused (n : Normalized) := normalize_refused_of_off least most multiple n
        simp [refused]
  · have outside : value < rules.minimum ∨ rules.maximum < value := by
      rcases not_and_or.mp within with less | more
      · exact Or.inl (not_le.mp less)
      · exact Or.inr (not_le.mp more)
    refine iff_of_true (fun n given => absurd given (normalize_refused outside n)) ?_
    exact fun least most => absurd ⟨least, most⟩ within

def fine : VolumeRules where
  minimum := 1 / 10000000000
  maximum := 100
  step := 1 / 100
  minimum_pos := by norm_num
  ordered := by norm_num
  step_pos := by norm_num

/-- A quantity of a billionth is accepted as nothing at all. -/
theorem not_forall_normal :
    ¬ ∀ (rules : VolumeRules) (allowFloor : Bool) (value : ℚ) (n : Normalized),
      rules.normalize allowFloor value = .ok n → NormalQuantity rules allowFloor value n := by
  intro normal
  have accepted : fine.normalize false (1 / 1000000000) =
      .ok { value := floorToStep (1 / 1000000000) fine.step } :=
    (normalize_within (by decide +kernel) (by decide +kernel)).trans
      (onStep_multiple (by decide +kernel))
  exact absurd (normal fine false _ _ accepted).positive (by decide +kernel)

end TradeResearch.Symbols
