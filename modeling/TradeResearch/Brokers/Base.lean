import Mathlib.Algebra.Order.Floor.Ring
import Mathlib.Data.Rat.Floor
import TradeResearch.Oms.Fills

/-!
# What a venue adapter takes and gives

The records of `backend/app/brokers/base.py` the order path reads, and the check of a request
against the venue's own terms (`backend/app/brokers/validation.py`, with the step arithmetic of
`backend/app/symbols/precision.py`).
-/

namespace TradeResearch.Brokers

open Oms

inductive ResultStatus where
  | accepted
  | rejected
  | unknown
  deriving DecidableEq

structure SymbolInfo where
  symbol : String
  volumeMin : Option ℚ
  volumeMax : Option ℚ
  volumeStep : Option ℚ

structure BrokerPosition where
  positionId : String
  symbol : String
  side : String
  volume : Figure
  entryPrice : Figure
  openedAt : Time
  stopLoss : Option ℚ
  takeProfit : Option ℚ
  magic : Option ℤ
  deriving DecidableEq

structure BrokerOrder where
  orderId : String
  symbol : String
  side : String
  volume : ℚ
  price : Option ℚ
  state : String
  placedAt : Time
  magic : Option ℤ
  deriving DecidableEq

structure Deal where
  dealId : String
  positionId : String
  symbol : String
  entry : String
  volume : ℚ
  price : ℚ
  time : Time
  deriving DecidableEq

structure OrderRequest where
  symbol : String
  side : String
  volume : ℚ
  stopLoss : Option ℚ
  takeProfit : Option ℚ
  comment : Text
  intentId : String

structure OrderResult where
  status : ResultStatus
  detail : Text
  orderId : Option String
  positionId : Option String
  dealId : Option String
  fillPrice : Option Figure
  filledVolume : Option Figure
  filledAt : Option Time
  retcode : Option ℤ
  fillSource : String
  realizedPnl : Option ℚ

def OrderResult.bare (status : ResultStatus) (detail : Text) : OrderResult :=
  { status, detail, orderId := none, positionId := none, dealId := none, fillPrice := none,
    filledVolume := none, filledAt := none, retcode := none, fillSource := "broker",
    realizedPnl := none }

def stepEpsilon : ℚ := 1 / 1000000000

def roundHalfEven (q : ℚ) : ℤ :=
  let below := ⌊q⌋
  if q - below < 1 / 2 then below
  else if 1 / 2 < q - below then below + 1
  else if below % 2 = 0 then below else below + 1

def roundDown (q : ℚ) : ℤ := if 0 ≤ q then ⌊q⌋ else ⌈q⌉

def stepsIn (value step : ℚ) : ℚ :=
  let ratio := value / step
  let nearest := roundHalfEven ratio
  if |ratio - nearest| ≤ stepEpsilon then nearest else roundDown ratio

def isStepMultiple (value step : ℚ) : Bool :=
  if step ≤ 0 then true else decide (|value - stepsIn value step * step| ≤ stepEpsilon)

def floorToStep (value step : ℚ) : ℚ :=
  if step ≤ 0 then value else stepsIn value step * step

def levelProblem (name : String) (level : Option ℚ) : List Text :=
  match level with
  | some l =>
    if l ≤ 0 then
      [Text.lit (name ++ " must be a positive price level, not ") ++ Text.num l]
    else []
  | none => []

def volumeProblems (volume : ℚ) (info : SymbolInfo) : List Text :=
  (match info.volumeMin with
    | some least =>
      if volume < least then
        [Text.lit "volume " ++ Text.num volume ++ Text.lit " is below the venue minimum " ++
          Text.num least ++ Text.lit (" for " ++ info.symbol)]
      else []
    | none => []) ++
  (match info.volumeMax with
    | some most =>
      if most < volume then
        [Text.lit "volume " ++ Text.num volume ++ Text.lit " is above the venue maximum " ++
          Text.num most ++ Text.lit (" for " ++ info.symbol)]
      else []
    | none => []) ++
  (match info.volumeStep with
    | some step =>
      if isStepMultiple volume step then []
      else
        [Text.lit "volume " ++ Text.num volume ++ Text.lit " is not a multiple of the step " ++
          Text.num step ++ Text.lit "; the nearest valid volume at or below it is " ++
          Text.num (floorToStep volume step) ++
          Text.lit (". Refusing rather than rounding, because rounding up would risk more " ++
            "than was budgeted")]
    | none => [])

def validateOrder (request : OrderRequest) : Option SymbolInfo → List Text
  | none =>
    [Text.lit ("no symbol specification for '" ++ request.symbol ++ "'; the venue may not list " ++
      "it. Refusing rather than sending an order priced from a guess.")]
  | some info =>
    (if request.side = "buy" ∨ request.side = "sell" then []
      else [Text.lit ("side must be one of buy, sell, not '" ++ request.side ++ "'")]) ++
    (if request.volume ≤ 0 then
      [Text.lit "volume must be positive, not " ++ Text.num request.volume]
      else volumeProblems request.volume info) ++
    levelProblem "stop_loss" request.stopLoss ++ levelProblem "take_profit" request.takeProfit

end TradeResearch.Brokers
