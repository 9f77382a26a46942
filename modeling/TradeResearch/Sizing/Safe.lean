import TradeResearch.Lib.Fallible
import TradeResearch.Sizing.Calculator
import TradeResearch.Symbols.Grid

/-!
# What a size is worth

A size that was not refused risks no more than its budget, up to the tolerance the calculator
declares; and it is a size of the venue where the venue's own precision can write one down.

* `Sized` is what is asked of a volume.
* `sized_of_calculate`: the calculator gives no other.
-/

namespace TradeResearch.Sizing

open Brokers Symbols

def Expressible (spec : ContractSpec) : Prop :=
  ∃ k : ℤ, spec.volumeStep * 10 ^ spec.volumePrecision = k

def Whole (spec : ContractSpec) (bound : ℚ) : Prop := ∃ k : ℤ, bound = k * spec.volumeStep

def sizedDistance (request : SizingRequest) : Option ℚ :=
  match request.side.mapM direction with
  | .error _ => none
  | .ok side =>
    match stopDistance side request.entryPrice request.stopLoss with
    | .error _ => none
    | .ok derived => derived <|> request.stopDistance

def riskAtStop (request : SizingRequest) (distance : ℚ) : ℚ :=
  distance * (request.spec.tickValue / request.spec.tickSize)

structure Sized (request : SizingRequest) (volume : ℚ) : Prop where
  positive : 0 < volume
  multiple : Expressible request.spec → ∃ k : ℤ, volume = k * request.spec.volumeStep
  least : Expressible request.spec → request.spec.minimumVolume - stepEpsilon ≤ volume ∧
    (Whole request.spec request.spec.minimumVolume → request.spec.minimumVolume ≤ volume)
  most : Expressible request.spec →
    volume ≤ request.spec.maximumVolume + stepEpsilon * request.spec.volumeStep ∧
      (Whole request.spec request.spec.maximumVolume → volume ≤ request.spec.maximumVolume)
  risk : request.method ≠ .fixedQuantity → ∃ budget distance,
    riskBudget request = .ok budget ∧ sizedDistance request = some distance ∧
      volume * riskAtStop request distance ≤
        budget + stepEpsilon * request.spec.volumeStep * riskAtStop request distance

section Limits

variable {request : SizingRequest} {raw volume v : ℚ} {budget riskPerUnit : Option ℚ}
  {side : Option String} {distance : Option ℚ}

theorem measured_volume
    (sized : (measured request raw volume budget riskPerUnit side distance warnings).volume =
      some v) :
    v = volume ∧ 0 < volume ∧ ∀ b r, budget = some b → riskPerUnit = some r →
      volume * r ≤ b + stepEpsilon * request.spec.volumeStep * r := by
  unfold measured at sized
  dsimp only at sized
  split_ifs at sized with nothing past above
  · cases sized
  · cases sized
  · cases sized
  · cases sized
    refine ⟨rfl, not_le.mp nothing, ?_⟩
    rintro b r rfl rfl
    simpa using past

structure Limited (request : SizingRequest) (raw v : ℚ) (budget riskPerUnit : Option ℚ) : Prop where
  step_pos : 0 < request.spec.volumeStep
  minimum_pos : 0 < request.spec.minimumVolume
  ordered : request.spec.minimumVolume ≤ request.spec.maximumVolume
  normalized : ∃ n, normalizeQuantity (min raw request.spec.maximumVolume)
    (some request.spec.minimumVolume) (some request.spec.maximumVolume)
    (some request.spec.volumeStep) true = .ok n ∧
      v = quantize roundHalfEven request.spec.volumePrecision n.value
  positive : 0 < v
  risk : ∀ b r, budget = some b → riskPerUnit = some r →
    v * r ≤ b + stepEpsilon * request.spec.volumeStep * r

theorem limited_of_measured (step : 0 < request.spec.volumeStep)
    (least : 0 < request.spec.minimumVolume)
    (ordered : request.spec.minimumVolume ≤ request.spec.maximumVolume) {n : Normalized}
    (accepted : normalizeQuantity (min raw request.spec.maximumVolume)
      (some request.spec.minimumVolume) (some request.spec.maximumVolume)
      (some request.spec.volumeStep) true = .ok n)
    (sized : (measured request raw (quantize roundHalfEven request.spec.volumePrecision n.value)
      budget riskPerUnit side distance warnings).volume = some v) :
    Limited request raw v budget riskPerUnit := by
  obtain ⟨same, positive, risk⟩ := measured_volume sized
  subst same
  exact ⟨step, least, ordered, ⟨n, accepted, rfl⟩, positive, risk⟩

theorem limited_of_applyBrokerLimits
    (sized : (applyBrokerLimits request raw budget riskPerUnit side distance).volume = some v) :
    Limited request raw v budget riskPerUnit := by
  unfold applyBrokerLimits at sized
  dsimp only at sized
  split_ifs at sized with step bounds ordered above
  · cases sized
  · cases sized
  · cases sized
  · split at sized
    · cases sized
    · rename_i n accepted
      refine limited_of_measured (not_le.mp step) (not_le.mp (not_or.mp bounds).1)
        (not_lt.mp ordered) ?_ sized
      rw [min_eq_right above.le]
      exact accepted
  · split at sized
    · cases sized
    · rename_i n accepted
      refine limited_of_measured (not_le.mp step) (not_le.mp (not_or.mp bounds).1)
        (not_lt.mp ordered) ?_ sized
      rw [min_eq_left (not_lt.mp above)]
      exact accepted

end Limits

section Venue

variable {request : SizingRequest} {raw : ℚ}

def Limited.rules (limited : Limited request raw v budget riskPerUnit) : VolumeRules where
  minimum := request.spec.minimumVolume
  maximum := request.spec.maximumVolume
  step := request.spec.volumeStep
  minimum_pos := limited.minimum_pos
  ordered := limited.ordered
  step_pos := limited.step_pos

theorem quantize_of_whole {places : ℤ} {value : ℚ} {k : ℤ} (whole : value * 10 ^ places = k) :
    quantize roundHalfEven places value = value := by
  unfold quantize
  rw [whole, roundHalfEven_intCast, ← whole]
  exact mul_div_cancel_right₀ value (zpow_ne_zero _ (by norm_num))

theorem quantize_mul (expressible : Expressible request.spec) (m : ℤ) :
    quantize roundHalfEven request.spec.volumePrecision (m * request.spec.volumeStep) =
      m * request.spec.volumeStep := by
  obtain ⟨k, is⟩ := expressible
  refine quantize_of_whole (k := m * k) ?_
  rw [mul_assoc, is]
  push_cast
  rfl

theorem Limited.volume_eq (limited : Limited request raw v budget riskPerUnit)
    (expressible : Expressible request.spec) :
    ∃ value : ℚ, request.spec.minimumVolume ≤ value ∧ value ≤ request.spec.maximumVolume ∧
      v = floorToStep value request.spec.volumeStep ∧
      request.spec.minimumVolume - stepEpsilon ≤ v := by
  obtain ⟨n, accepted, written⟩ := limited.normalized
  obtain ⟨least, most, is, least'⟩ := @normalize_eq_ok limited.rules _ _ _ accepted
  obtain ⟨m, -, -, point⟩ := floorToStep_eq limited.step_pos (limited.minimum_pos.le.trans least)
  have same : v = n.value := by
    rw [written, is]
    exact (congrArg _ point).trans ((quantize_mul expressible m).trans point.symm)
  refine ⟨_, least, most, same.trans is, ?_⟩
  rw [same]
  exact least'

theorem Limited.sized (limited : Limited request raw v budget riskPerUnit)
    (risk : request.method ≠ .fixedQuantity → ∃ budget distance,
      riskBudget request = .ok budget ∧ sizedDistance request = some distance ∧
        v * riskAtStop request distance ≤
          budget + stepEpsilon * request.spec.volumeStep * riskAtStop request distance) :
    Sized request v where
  positive := limited.positive
  multiple expressible := by
    obtain ⟨value, least, -, is, -⟩ := limited.volume_eq expressible
    obtain ⟨m, -, -, point⟩ := floorToStep_eq limited.step_pos (limited.minimum_pos.le.trans least)
    exact ⟨m, is.trans point⟩
  least expressible := by
    obtain ⟨value, least, -, is, least'⟩ := limited.volume_eq expressible
    refine ⟨least', ?_⟩
    rintro ⟨k, whole⟩
    have positive : 0 ≤ value := limited.minimum_pos.le.trans least
    have count : (k : ℚ) ≤ stepsIn value request.spec.volumeStep :=
      le_stepsIn limited.step_pos positive (whole.symm.trans_le least)
    rw [is, floorToStep, if_neg (not_le.mpr limited.step_pos), whole]
    exact mul_le_mul_of_nonneg_right count limited.step_pos.le
  most expressible := by
    obtain ⟨value, least, most, is, -⟩ := limited.volume_eq expressible
    have positive : 0 ≤ value := limited.minimum_pos.le.trans least
    constructor
    · rw [is]
      exact (floorToStep_le limited.step_pos positive).trans (add_le_add_left most _)
    · rintro ⟨k, whole⟩
      have count : stepsIn value request.spec.volumeStep ≤ k :=
        stepsIn_le limited.step_pos positive (most.trans_eq whole)
      rw [is, floorToStep, if_neg (not_le.mpr limited.step_pos), whole]
      exact mul_le_mul_of_nonneg_right count limited.step_pos.le
  risk := risk

end Venue

theorem valuePerPriceUnit_eq_ok {tickValue tickSize unit : ℚ}
    (is : valuePerPriceUnit tickValue tickSize = .ok unit) : unit = tickValue / tickSize := by
  unfold valuePerPriceUnit at is
  split_ifs at is
  · cases is
    rfl

theorem risk_of_sized {request : SizingRequest} {result : SizingResult}
    {side : Option String} {derived : Option ℚ} (named : request.side.mapM direction = .ok side)
    (measured : stopDistance side request.entryPrice request.stopLoss = .ok derived)
    (given : (match (derived <|> request.stopDistance).filter (0 < ·) with
      | none => .error (Text.lit "stop distance is required and must be positive")
      | some distance => do
        let budget ← riskBudget request
        withinCeiling request budget
        let unit ← valuePerPriceUnit request.spec.tickValue request.spec.tickSize
        let riskPerUnit := distance * unit
        if riskPerUnit ≤ 0 then .error (Text.lit "computed risk per unit is not positive")
        else
          return applyBrokerLimits request (budget / riskPerUnit) (some budget) (some riskPerUnit)
            side (some distance) : Except Text SizingResult) = .ok result) :
    ∃ budget distance, riskBudget request = .ok budget ∧
      sizedDistance request = some distance ∧
      result = applyBrokerLimits request (budget / riskAtStop request distance) (some budget)
        (some (riskAtStop request distance)) side (some distance) := by
  split at given
  · cases given
  · rename_i distance is
    obtain ⟨budget, budgeted, given⟩ := Fallible.bind_eq_ok.mp given
    obtain ⟨_, -, given⟩ := Fallible.bind_eq_ok.mp given
    obtain ⟨unit, valued, given⟩ := Fallible.bind_eq_ok.mp given
    rw [valuePerPriceUnit_eq_ok valued] at given
    dsimp only at given
    split_ifs at given
    · cases given
      refine ⟨budget, distance, budgeted, ?_, rfl⟩
      unfold sizedDistance
      rw [named]
      dsimp only
      rw [measured]
      exact (Option.filter_eq_some_iff.mp is).1

theorem sized_of_sized {request : SizingRequest} {result : SizingResult} {v : ℚ}
    (given : sized request = .ok result) (is : result.volume = some v) : Sized request v := by
  obtain ⟨side, named, given⟩ := Fallible.bind_eq_ok.mp given
  split_ifs at given with fixed
  · split at given
    · cases given
    · obtain ⟨derived, -, given⟩ := Fallible.bind_eq_ok.mp given
      cases given
      exact (limited_of_applyBrokerLimits is).sized fun risk => absurd fixed risk
  · obtain ⟨derived, measured, given⟩ := Fallible.bind_eq_ok.mp given
    split_ifs at given
    · obtain ⟨budget, distance, budgeted, sized, rfl⟩ := risk_of_sized named measured given
      have limited := limited_of_applyBrokerLimits is
      exact limited.sized fun _ => ⟨budget, distance, budgeted, sized, limited.risk _ _ rfl rfl⟩

theorem sized_of_volume {request : SizingRequest} {v : ℚ}
    (is : (calculate request).volume = some v) : sized request = .ok (calculate request) := by
  unfold calculate at is ⊢
  cases given : sized request with
  | error gap =>
    rw [given] at is
    cases is
  | ok result => rfl

/-- The calculator gives no volume that is not safe, for every request. -/
theorem sized_of_calculate (request : SizingRequest) :
    ∀ v ∈ (calculate request).volume, Sized request v :=
  fun _ is => sized_of_sized (sized_of_volume is) is

theorem stopDistance_eq_some {side : Option String} {entry stop : Option ℚ} {distance : ℚ}
    (measured : stopDistance side entry stop = .ok (some distance)) :
    ∃ e s, entry = some e ∧ stop = some s ∧ distance = |e - s| := by
  unfold stopDistance at measured
  cases entry with
  | none => cases measured
  | some e =>
    cases stop with
    | none => cases measured
    | some s =>
      dsimp only at measured
      split_ifs at measured
      cases measured
      exact ⟨e, s, rfl, rfl, rfl⟩

theorem riskBudget_of_fixed {request : SizingRequest} (fixed : request.method = .fixedRisk)
    {budget : ℚ} (is : riskBudget request = .ok budget) :
    request.riskAmount = some budget ∧ 0 < budget := by
  unfold riskBudget at is
  rw [if_pos fixed] at is
  cases given : request.riskAmount with
  | none =>
    rw [given] at is
    cases is
  | some amount =>
    rw [given] at is
    dsimp only at is
    split_ifs at is with none_left
    cases is
    exact ⟨rfl, not_le.mp none_left⟩

def contract (minimum maximum step : ℚ) (precision : ℤ) : ContractSpec where
  internalSymbol := "EURUSD"
  brokerSymbol := "EURUSD"
  provider := "mt5"
  contractSize := 100000
  tickSize := 1
  tickValue := 1
  minimumVolume := minimum
  maximumVolume := maximum
  volumeStep := step
  pricePrecision := 5
  volumePrecision := precision

def lotRequest : SizingRequest :=
  { method := .fixedRisk, spec := contract (1 / 2) 10 (1 / 2) 1, riskAmount := some 1,
    stopDistance := some 1 }

/-- It buys one lot. -/
theorem sized_lot : Sized lotRequest 1 := sized_of_calculate lotRequest 1 (by decide +kernel)

structure Strict (request : SizingRequest) (volume : ℚ) : Prop where
  multiple : ∃ k : ℤ, volume = k * request.spec.volumeStep
  within : request.spec.minimumVolume ≤ volume ∧ volume ≤ request.spec.maximumVolume
  risk : ∀ budget distance, request.method ≠ .fixedQuantity → riskBudget request = .ok budget →
    sizedDistance request = some distance → volume * riskAtStop request distance ≤ budget

def coarseRequest : SizingRequest :=
  { method := .fixedQuantity, spec := contract (2 / 100) (6 / 100) (2 / 100) 1,
    quantity := some (6 / 100) }

def shortRequest : SizingRequest :=
  { method := .fixedRisk, spec := contract (1 / 2) 10 (1 / 2) 1,
    riskAmount := some (1 - 1 / 10000000000), stopDistance := some 1 }

/-- The first is rounded up to a tenth, above the maximum; the second buys one lot, which risks more
than its budget. -/
theorem not_forall_strict :
    (∃ v, (calculate coarseRequest).volume = some v ∧ ¬ Strict coarseRequest v) ∧
      ∃ v, (calculate shortRequest).volume = some v ∧ ¬ Strict shortRequest v := by
  constructor
  · refine ⟨1 / 10, by decide +kernel, fun strict => ?_⟩
    exact absurd strict.within.2 (by decide +kernel)
  · refine ⟨1, by decide +kernel, fun strict => ?_⟩
    have budgeted : riskBudget shortRequest = .ok (1 - 1 / 10000000000) := by
      simp [riskBudget, shortRequest]
      norm_num
    exact absurd (strict.risk _ _ (by decide) budgeted rfl) (by decide +kernel)

end TradeResearch.Sizing
