import TradeResearch.Symbols.Precision

/-!
# Position sizing

`backend/app/sizing/calculator.py`: a volume for an order, or a refusal. Every number is finite, so
the checks that refuse the others are left out, and decimal arithmetic is exact.
-/

namespace TradeResearch.Sizing

open Brokers Symbols

inductive SizingMethod where
  | fixedQuantity
  | fixedRisk
  | percentEquity
  deriving DecidableEq, Repr

structure SizingRequest where
  method : SizingMethod
  spec : ContractSpec
  quantity : Option ℚ := none
  riskAmount : Option ℚ := none
  equity : Option ℚ := none
  riskPercent : Option ℚ := none
  stopDistance : Option ℚ := none
  side : Option String := none
  entryPrice : Option ℚ := none
  stopLoss : Option ℚ := none
  takeProfit : Option ℚ := none
  maxRiskAmount : Option ℚ := none

structure SizingResult where
  volume : Option ℚ
  method : SizingMethod
  reason : Text
  riskRequested : Option ℚ := none
  riskActual : Option ℚ := none
  riskPerUnit : Option ℚ := none
  gap : Option Text := none
  rawVolume : Option ℚ := none
  stopDistance : Option ℚ := none
  side : Option String := none
  entryPrice : Option ℚ := none
  stopLoss : Option ℚ := none
  symbol : Option String := none
  warnings : List Text := []
  constraints : List (String × Text) := []

def SizingResult.refused (r : SizingResult) : Bool := r.volume.isNone

def money : ℤ := 4

def isSpace (c : Char) : Bool :=
  let n := c.toNat
  (9 ≤ n ∧ n ≤ 13) ∨ (28 ≤ n ∧ n ≤ 32) ∨ n = 133 ∨ n = 160 ∨ n = 5760 ∨ (8192 ≤ n ∧ n ≤ 8202) ∨
    n = 8232 ∨ n = 8233 ∨ n = 8239 ∨ n = 8287 ∨ n = 12288

def sideKey (side : String) : String :=
  String.ofList ((((side.toList.dropWhile isSpace).reverse.dropWhile isSpace).reverse).map
    Char.toLower)

def direction (side : String) : Except Text String :=
  let key := sideKey side
  if key = "buy" ∨ key = "long" then .ok "long"
  else if key = "sell" ∨ key = "short" then .ok "short"
  else .error (Text.lit ("unknown side '" ++ side ++ "'; expected one of buy, sell, long, short"))

def sideOrNone (side : Option String) : Option String :=
  side.map fun side =>
    match direction side with
    | .ok named => named
    | .error _ => side

def constraints (spec : ContractSpec) : List (String × Text) :=
  [("broker_symbol", Text.lit spec.brokerSymbol), ("provider", Text.lit spec.provider),
    ("minimum_volume", Text.num spec.minimumVolume),
    ("maximum_volume", Text.num spec.maximumVolume), ("volume_step", Text.num spec.volumeStep),
    ("contract_size", Text.num spec.contractSize), ("tick_size", Text.num spec.tickSize),
    ("tick_value", Text.num spec.tickValue), ("volume_precision", Text.num spec.volumePrecision),
    ("price_precision", Text.num spec.pricePrecision)]

def refuse (request : SizingRequest) (gap : Text) : SizingResult :=
  { volume := none
    method := request.method
    reason := Text.lit "refused"
    gap := some gap
    symbol := some request.spec.internalSymbol
    side := sideOrNone request.side
    entryPrice := request.entryPrice
    stopLoss := request.stopLoss
    constraints := constraints request.spec }

def stopDistance (side : Option String) (entry stop : Option ℚ) : Except Text (Option ℚ) :=
  match entry, stop with
  | some entry, some stop =>
    if entry ≤ 0 then .error (Text.lit "entry_price must be positive, not " ++ Text.num entry)
    else if stop ≤ 0 then .error (Text.lit "stop_loss must be positive, not " ++ Text.num stop)
    else if entry = stop then
      .error (Text.lit "entry_price and stop_loss are both " ++ Text.num entry ++
        Text.lit ("; the stop distance is zero and there is no denominator to size with"))
    else if side = some "long" ∧ entry < stop then
      .error (Text.lit "a long stop must sit below its entry; got entry " ++ Text.num entry ++
        Text.lit " and stop " ++ Text.num stop ++
        Text.lit ". Refused rather than corrected: that stop is a target")
    else if side = some "short" ∧ stop < entry then
      .error (Text.lit "a short stop must sit above its entry; got entry " ++ Text.num entry ++
        Text.lit " and stop " ++ Text.num stop ++
        Text.lit ". Refused rather than corrected: that stop is a target")
    else .ok (some |entry - stop|)
  | _, _ => .ok none

def measured (request : SizingRequest) (raw volume : ℚ) (budget riskPerUnit : Option ℚ)
    (side : Option String) (distance : Option ℚ) (warnings : List Text) : SizingResult :=
  let spec := request.spec
  let exact := riskPerUnit.map (volume * ·)
  let actual := exact.map (quantize roundHalfEven money)
  let reported := riskPerUnit.map (quantize roundHalfEven money)
  let past : Bool :=
    match exact, budget, riskPerUnit with
    | some exact, some budget, some risk => budget + stepEpsilon * spec.volumeStep * risk < exact
    | _, _, _ => false
  let above : Bool :=
    match request.maxRiskAmount, actual with
    | some most, some actual => most < actual
    | _, _ => false
  if volume ≤ 0 then
    refuse request (Text.lit "volume rounds to " ++ Text.num volume ++ Text.lit " at step " ++
      Text.num spec.volumeStep)
  else if past then
    { refuse request (Text.lit "the rounded volume " ++ Text.num volume ++ Text.lit " risks " ++
        Text.num? actual ++ Text.lit " against a " ++ Text.num? budget ++
        Text.lit (" budget; refusing rather than exceeding the configured risk")) with
      rawVolume := some raw, stopDistance := distance, riskPerUnit := reported,
      riskRequested := budget }
  else if above then
    { refuse request (Text.lit "the rounded volume " ++ Text.num volume ++ Text.lit " risks " ++
        Text.num? actual ++ Text.lit ", above the permitted maximum " ++
        Text.num? request.maxRiskAmount) with
      rawVolume := some raw, stopDistance := distance, riskRequested := budget }
  else
    { volume := some volume
      method := request.method
      reason := Text.lit "sized to " ++ Text.num volume ++ Text.lit " at step " ++
        Text.num spec.volumeStep
      riskRequested := budget
      riskActual := actual
      riskPerUnit := reported
      rawVolume := some raw
      stopDistance := distance
      side
      entryPrice := request.entryPrice
      stopLoss := request.stopLoss
      symbol := some spec.internalSymbol
      warnings
      constraints := constraints spec }

def applyBrokerLimits (request : SizingRequest) (raw : ℚ) (budget riskPerUnit : Option ℚ)
    (side : Option String) (distance : Option ℚ) : SizingResult :=
  let spec := request.spec
  if spec.volumeStep ≤ 0 then
    refuse request (Text.lit "volume step must be positive, not " ++ Text.num spec.volumeStep)
  else if spec.minimumVolume ≤ 0 ∨ spec.maximumVolume ≤ 0 then
    refuse request (Text.lit (spec.internalSymbol ++ " reports minimum volume ") ++
      Text.num spec.minimumVolume ++ Text.lit " and maximum " ++ Text.num spec.maximumVolume ++
      Text.lit "; a size cannot be validated against these")
  else if spec.maximumVolume < spec.minimumVolume then
    refuse request (Text.lit (spec.internalSymbol ++ " reports a minimum volume ") ++
      Text.num spec.minimumVolume ++ Text.lit " above its maximum " ++
      Text.num spec.maximumVolume ++ Text.lit "; the contract spec is not usable")
  else
    let capped : ℚ × List Text :=
      if spec.maximumVolume < raw then
        (spec.maximumVolume, [Text.lit "requested " ++ Text.num raw ++
          Text.lit " exceeds the venue maximum " ++ Text.num spec.maximumVolume ++
          Text.lit ("; capped. The cap reduces risk, so it is applied rather than refused")])
      else (raw, [])
    match normalizeQuantity capped.1 (some spec.minimumVolume) (some spec.maximumVolume)
        (some spec.volumeStep) true with
    | .error gap =>
      let told :=
        match budget, riskPerUnit with
        | some budget, some risk =>
          gap ++ Text.lit ". The minimum volume " ++ Text.num spec.minimumVolume ++
            Text.lit (" on " ++ spec.brokerSymbol ++ " would risk ") ++
            Text.num (quantize roundHalfEven money (spec.minimumVolume * risk)) ++
            Text.lit " against a " ++ Text.num budget ++ Text.lit (" budget: the volume step is " ++
              "the binding constraint, not the risk setting")
        | _, _ => gap
      { refuse request told with
        rawVolume := some (floorToStep raw spec.volumeStep)
        stopDistance := distance
        riskPerUnit := riskPerUnit.map (quantize roundHalfEven money)
        riskRequested := budget }
    | .ok normalized =>
      let warnings :=
        if normalized.adjustment = .floored then capped.2 ++ [normalized.detail] else capped.2
      measured request raw (quantize roundHalfEven spec.volumePrecision normalized.value) budget
        riskPerUnit side distance warnings

def riskBudget (request : SizingRequest) : Except Text ℚ :=
  if request.method = .fixedRisk then
    match request.riskAmount with
    | some amount =>
      if amount ≤ 0 then .error (Text.lit "fixed_risk needs a positive risk_amount") else .ok amount
    | none => .error (Text.lit "fixed_risk needs a positive risk_amount")
  else
    match request.equity.filter (0 < ·) with
    | none => .error (Text.lit "percent_equity needs positive equity")
    | some equity =>
      match request.riskPercent.filter (0 < ·) with
      | none => .error (Text.lit "percent_equity needs a positive risk_percent")
      | some percent =>
        if 100 < percent then
          .error (Text.lit "risk_percent " ++ Text.num percent ++ Text.lit " exceeds 100")
        else
          let budget := quantize roundDown money (equity * percent / 100)
          if budget ≤ 0 then .error (Text.lit "computed risk budget rounds to zero")
          else .ok budget

def withinCeiling (request : SizingRequest) (budget : ℚ) : Except Text Unit :=
  match request.maxRiskAmount with
  | none => .ok ()
  | some most =>
    if most ≤ 0 then .error (Text.lit "max_risk_amount must be positive, not " ++ Text.num most)
    else if most < budget then
      .error (Text.lit "risk budget " ++ Text.num budget ++
        Text.lit " exceeds the permitted maximum " ++ Text.num most ++
        Text.lit ("; refusing rather than sizing to the smaller figure, because the caller " ++
          "asked for a trade this account may not take"))
    else .ok ()

def sized (request : SizingRequest) : Except Text SizingResult := do
  let side ← request.side.mapM direction
  if request.method = .fixedQuantity then
    match request.quantity.filter (0 < ·) with
    | none => .error (Text.lit "fixed_quantity needs a positive quantity")
    | some quantity =>
      let derived ← stopDistance side request.entryPrice request.stopLoss
      return applyBrokerLimits request quantity none none side (request.stopDistance <|> derived)
  else
    let derived ← stopDistance side request.entryPrice request.stopLoss
    if derived.any fun d => request.stopDistance.any fun given => d ≠ given then
      .error (Text.lit "stop_distance " ++ Text.num? request.stopDistance ++
        Text.lit " disagrees with the " ++ Text.num? derived ++ Text.lit " implied by entry " ++
        Text.num? request.entryPrice ++ Text.lit " and stop " ++ Text.num? request.stopLoss ++
        Text.lit "; refusing rather than choosing one")
    else
      match (derived <|> request.stopDistance).filter (0 < ·) with
      | none => .error (Text.lit "stop distance is required and must be positive")
      | some distance =>
        let budget ← riskBudget request
        withinCeiling request budget
        let unit ← valuePerPriceUnit request.spec.tickValue request.spec.tickSize
        let riskPerUnit := distance * unit
        if riskPerUnit ≤ 0 then .error (Text.lit "computed risk per unit is not positive")
        else
          return applyBrokerLimits request (budget / riskPerUnit) (some budget) (some riskPerUnit)
            side (some distance)

def calculate (request : SizingRequest) : SizingResult :=
  match sized request with
  | .ok result => result
  | .error gap => refuse request gap

end TradeResearch.Sizing
