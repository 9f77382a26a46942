import TradeResearch.Brokers.Rounding

/-!
# Quantities and prices against a contract

`backend/app/symbols/precision.py`, with the contract terms of `backend/app/symbols/service.py`: a
quantity is checked against a venue's volume rules and floored to its step where the caller allows
it; `normalize_price` snaps a price to the nearest tick. Every number is finite, so the checks that
refuse the others are left out.

* `le_tick_iff`, `tick_le_iff`: on which side of a level the nearest tick is.
* `tick_mono`: no price passes another on its way to the grid.
-/

namespace TradeResearch.Symbols

open Brokers

structure ContractSpec where
  internalSymbol : String
  brokerSymbol : String
  provider : String
  contractSize : ℚ
  tickSize : ℚ
  tickValue : ℚ
  minimumVolume : ℚ
  maximumVolume : ℚ
  volumeStep : ℚ
  pricePrecision : ℤ
  volumePrecision : ℤ

inductive Adjustment where
  | none
  | floored
  | quantized
  deriving DecidableEq, Repr

structure Normalized where
  value : ℚ
  adjustment : Adjustment := .none
  original : Option ℚ := none
  detail : Text := []

def onStep (value : ℚ) (minimum step : Option ℚ) (allowFloor : Bool) : Except Text Normalized :=
  match step with
  | none => .ok { value }
  | some grid =>
    if grid ≤ 0 then .error (Text.lit "volume step must be positive, not " ++ Text.num grid)
    else if isStepMultiple value grid then .ok { value := floorToStep value grid }
    else
      let nearest := floorToStep value grid
      if allowFloor = false then
        .error (Text.lit "quantity " ++ Text.num value ++
          Text.lit " is not a multiple of the volume step " ++ Text.num grid ++
          Text.lit "; the nearest valid quantity at or below it is " ++ Text.num nearest ++
          Text.lit (". Refusing rather than rounding, " ++
            "because rounding up would risk more than was budgeted"))
      else if nearest ≤ 0 then
        .error (Text.lit "quantity " ++ Text.num value ++
          Text.lit " floors to zero at a step of " ++ Text.num grid ++
          Text.lit "; there is no tradable size at or below it")
      else if minimum.any fun low => nearest < low then
        .error (Text.lit "quantity " ++ Text.num value ++ Text.lit " floors to " ++
          Text.num nearest ++ Text.lit ", which is below the venue minimum " ++
          Text.num? minimum ++ Text.lit ". Reported as a gap rather than silently accepted")
      else
        .ok
          { value := nearest
            adjustment := .floored
            original := some value
            detail := Text.lit "floored from " ++ Text.num value ++ Text.lit " to the " ++
              Text.num grid ++ Text.lit " step grid" }

def normalizeQuantity (value : ℚ) (minimum maximum step : Option ℚ) (allowFloor : Bool) :
    Except Text Normalized :=
  if value ≤ 0 then .error (Text.lit "quantity must be positive, not " ++ Text.num value)
  else if minimum.any fun low => value < low then
    .error (Text.lit "quantity " ++ Text.num value ++ Text.lit " is below the venue minimum " ++
      Text.num? minimum ++ Text.lit (". Refusing rather " ++
        "than raising it: the minimum lot exceeding the risk budget means the " ++
        "trade cannot be taken at this size, not that it should be taken larger"))
  else if maximum.any fun high => high < value then
    .error (Text.lit "quantity " ++ Text.num value ++ Text.lit " is above the venue maximum " ++
      Text.num? maximum)
  else onStep value minimum step allowFloor

def valuePerPriceUnit (tickValue tickSize : ℚ) : Except Text ℚ :=
  if tickSize ≤ 0 then .error (Text.lit "tick_size must be positive, not " ++ Text.num tickSize)
  else if tickValue ≤ 0 then
    .error (Text.lit "tick_value must be positive, not " ++ Text.num tickValue)
  else .ok (tickValue / tickSize)

def quantize (rounding : ℚ → ℤ) (places : ℤ) (value : ℚ) : ℚ :=
  rounding (value * 10 ^ places) / 10 ^ places

end TradeResearch.Symbols

namespace TradeResearch.Symbols

open Brokers

def priceResult (original snapped : ℚ) (detail : Text) : Normalized :=
  if snapped = original then { value := snapped }
  else { value := snapped, adjustment := .quantized, original := some original, detail }

def normalizePrice (value : ℚ) (tickSize : Option ℚ) (digits : Option ℤ) :
    Except Text Normalized :=
  if value ≤ 0 then .error (Text.lit "price must be positive, not " ++ Text.num value)
  else
    match tickSize with
    | none =>
      match digits with
      | none => .ok { value }
      | some places =>
        .ok (priceResult value (quantize roundHalfEven places value)
          (Text.lit "quantized to " ++ Text.num places ++ Text.lit " digits"))
    | some tick =>
      if tick ≤ 0 then .error (Text.lit "tick size must be positive, not " ++ Text.num tick)
      else
        .ok (priceResult value (roundHalfEven (value / tick) * tick)
          (Text.lit "snapped to the " ++ Text.num tick ++ Text.lit " tick grid"))

theorem priceResult_value (original snapped : ℚ) (detail : Text) :
    (priceResult original snapped detail).value = snapped := by
  unfold priceResult
  split
  · rfl
  · rfl

theorem normalizePrice_tick (accepted : normalizePrice value (some tick) digits = .ok n) :
    0 < value ∧ 0 < tick ∧ n.value = roundHalfEven (value / tick) * tick := by
  unfold normalizePrice at accepted
  split at accepted
  · cases accepted
  · next positive =>
    dsimp only at accepted
    split at accepted
    · cases accepted
    · next positive' =>
      cases accepted
      exact ⟨not_le.mp positive, not_le.mp positive', priceResult_value _ _ _⟩

theorem normalizePrice_of_pos (positive : 0 < value) (positive' : 0 < tick) :
    ∃ n, normalizePrice value (some tick) digits = .ok n := by
  unfold normalizePrice
  rw [if_neg (not_le.mpr positive)]
  dsimp only
  rw [if_neg (not_le.mpr positive')]
  exact ⟨_, rfl⟩

def TickAbove (tick level value : ℚ) : Prop :=
  ⌈level / tick⌉ - 1 / 2 < value / tick ∨
    value / tick = ⌈level / tick⌉ - 1 / 2 ∧ 2 ∣ ⌈level / tick⌉

def TickBelow (tick level value : ℚ) : Prop :=
  value / tick < ⌊level / tick⌋ + 1 / 2 ∨
    value / tick = ⌊level / tick⌋ + 1 / 2 ∧ 2 ∣ ⌊level / tick⌋

theorem le_tick_iff {tick : ℚ} (positive : 0 < tick) (level value : ℚ) :
    level ≤ roundHalfEven (value / tick) * tick ↔ TickAbove tick level value := by
  rw [← div_le_iff₀ positive, ← Int.ceil_le, le_roundHalfEven_iff]
  rfl

theorem tick_le_iff {tick : ℚ} (positive : 0 < tick) (level value : ℚ) :
    roundHalfEven (value / tick) * tick ≤ level ↔ TickBelow tick level value := by
  rw [← le_div_iff₀ positive, ← Int.le_floor, roundHalfEven_le_iff]
  rfl

theorem tick_mono {tick : ℚ} (positive : 0 < tick) {value value' : ℚ} (le : value ≤ value') :
    (roundHalfEven (value / tick) * tick : ℚ) ≤ roundHalfEven (value' / tick) * tick := by
  have quotient : value / tick ≤ value' / tick := div_le_div_of_nonneg_right le positive.le
  have rounded : (roundHalfEven (value / tick) : ℚ) ≤ roundHalfEven (value' / tick) := by
    exact_mod_cast roundHalfEven_mono quotient
  exact mul_le_mul_of_nonneg_right rounded positive.le

end TradeResearch.Symbols
