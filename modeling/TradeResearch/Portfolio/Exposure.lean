import Mathlib.Algebra.Order.AbsoluteValue.Basic
import TradeResearch.Lib.Fallible
import TradeResearch.Lib.Table
import TradeResearch.Symbols.Precision

/-!
# Exposure

`backend/app/portfolio/exposure.py`: what positions are worth, and the report of it. The views of a
report (`as_dict`, `concentration`) are left out. An entry price is a figure, as the type of the
field says it is.

* `compute_eq`: each aggregate of a report is the totals of amounts read off the positions.
* `Bucket` adds up, figure by figure; `Bucket.grossHom` is its gross.
-/

namespace TradeResearch.Portfolio

open Symbols

structure PositionView where
  positionId : String
  symbol : String
  side : String
  quantity : ℚ
  entryPrice : ℚ
  currentPrice : Option ℚ := none
  stopLoss : Option ℚ := none
  strategyId : Option String := none
  botId : Option String := none
  assetClass : Option String := none
  baseCurrency : Option String := none
  quoteCurrency : Option String := none
  contractSize : Option ℚ := none
  tickSize : Option ℚ := none
  tickValue : Option ℚ := none

namespace PositionView

def direction (p : PositionView) : ℤ := if p.side = "long" then 1 else -1

def price (p : PositionView) : ℚ := p.currentPrice.getD p.entryPrice

end PositionView

structure Notional where
  value : Option ℚ
  computable : Bool
  reason : String := ""
  pricedAt : String := "current"

def notionalOf (p : PositionView) : Notional :=
  match p.contractSize with
  | none =>
    { value := none
      computable := false
      reason := s!"{p.symbol} has no measured contract size, so its notional cannot be " ++
        "computed. Refused rather than assumed: a notional in the wrong unit pools with " ++
        "everything else and corrupts the total." }
  | some size =>
    { value := some (|p.quantity| * size * p.price)
      computable := true
      pricedAt := if p.currentPrice.isSome then "current" else "entry" }

def perUnit (p : PositionView) : Option ℚ :=
  match p.tickValue, p.tickSize with
  | some value, some size => (valuePerPriceUnit value size).toOption
  | _, _ => none

def markToMarket (p : PositionView) : Option ℚ :=
  match p.currentPrice with
  | none => none
  | some current =>
    (perUnit p).map fun unit => (current - p.entryPrice) * p.direction * |p.quantity| * unit

@[ext] structure Bucket where
  longValue : ℚ := 0
  shortValue : ℚ := 0
  longPositions : ℕ := 0
  shortPositions : ℕ := 0
  uncomputable : ℕ := 0
  deriving DecidableEq

namespace Bucket

def gross (b : Bucket) : ℚ := b.longValue + b.shortValue

def add (b : Bucket) (p : PositionView) (value : ℚ) : Bucket :=
  if 0 < p.direction then
    { b with longValue := b.longValue + value, longPositions := b.longPositions + 1 }
  else { b with shortValue := b.shortValue + value, shortPositions := b.shortPositions + 1 }

def miss (b : Bucket) : Bucket := { b with uncomputable := b.uncomputable + 1 }

end Bucket

structure Uncomputable where
  positionId : String
  symbol : String
  reason : String
  deriving DecidableEq

structure ExposureReport where
  total : Bucket := {}
  bySymbol : Totals String Bucket := .empty Prod.fst
  byStrategy : Totals String Bucket := .empty Prod.fst
  byBot : Totals String Bucket := .empty Prod.fst
  byAssetClass : Totals String Bucket := .empty Prod.fst
  byCurrency : Totals String ℚ := .empty Prod.fst
  currencyAvailable : Bool := true
  uncomputable : List Uncomputable := []

def orElse (key : Option String) (fallback : String) : String :=
  (key.filter (· ≠ "")).getD fallback

def currencies (p : PositionView) : Option (String × String) :=
  match p.baseCurrency.filter (· ≠ ""), p.quoteCurrency.filter (· ≠ "") with
  | some base, some quote => some (base, quote)
  | _, _ => none

def ExposureReport.take (r : ExposureReport) (p : PositionView) : ExposureReport :=
  let notional := notionalOf p
  match if notional.computable then notional.value else none with
  | none =>
    { r with
      total := r.total.miss
      bySymbol := r.bySymbol.update p.symbol {} Bucket.miss
      uncomputable := r.uncomputable ++ [⟨p.positionId, p.symbol, notional.reason⟩] }
  | some value =>
    let r :=
      { r with
        total := r.total.add p value
        bySymbol := r.bySymbol.update p.symbol {} (·.add p value)
        byStrategy := r.byStrategy.update (orElse p.strategyId "unattributed") {} (·.add p value)
        byBot := r.byBot.update (orElse p.botId "unattributed") {} (·.add p value)
        byAssetClass := r.byAssetClass.update (orElse p.assetClass "unknown") {} (·.add p value) }
    match currencies p with
    | some (base, quote) =>
      let signed := value * p.direction
      { r with
        byCurrency := (r.byCurrency.update base 0 (· + signed)).update quote 0 (· - signed) }
    | none => { r with currencyAvailable := false }

def compute (positions : List PositionView) : ExposureReport :=
  let report := positions.foldl ExposureReport.take {}
  if report.currencyAvailable then report else { report with byCurrency := .empty Prod.fst }

namespace Bucket

instance : Zero Bucket := ⟨{}⟩

instance : Add Bucket where
  add b c :=
    { longValue := b.longValue + c.longValue
      shortValue := b.shortValue + c.shortValue
      longPositions := b.longPositions + c.longPositions
      shortPositions := b.shortPositions + c.shortPositions
      uncomputable := b.uncomputable + c.uncomputable }

instance : AddCommMonoid Bucket where
  add_assoc a b c := Bucket.ext (add_assoc ..) (add_assoc ..) (add_assoc ..) (add_assoc ..)
    (add_assoc ..)
  zero_add a := Bucket.ext (zero_add _) (zero_add _) (zero_add _) (zero_add _) (zero_add _)
  add_zero a := Bucket.ext (add_zero _) (add_zero _) (add_zero _) (add_zero _) (add_zero _)
  add_comm a b := Bucket.ext (add_comm ..) (add_comm ..) (add_comm ..) (add_comm ..) (add_comm ..)
  nsmul := nsmulRec

def of (p : PositionView) (value : ℚ) : Bucket :=
  if 0 < p.direction then { longValue := value, longPositions := 1 }
  else { shortValue := value, shortPositions := 1 }

def missed : Bucket := { uncomputable := 1 }

theorem add_eq (b : Bucket) (p : PositionView) (value : ℚ) : b.add p value = b + of p value := by
  unfold add of
  by_cases long : 0 < p.direction
  · rw [if_pos long, if_pos long]
    exact Bucket.ext rfl (add_zero _).symm rfl rfl rfl
  · rw [if_neg long, if_neg long]
    exact Bucket.ext (add_zero _).symm rfl rfl rfl rfl

theorem miss_eq (b : Bucket) : b.miss = b + missed :=
  Bucket.ext (add_zero _).symm (add_zero _).symm rfl rfl rfl

def grossHom : Bucket →+ ℚ where
  toFun := gross
  map_zero' := add_zero 0
  map_add' b c := add_add_add_comm b.longValue c.longValue b.shortValue c.shortValue

theorem gross_of (p : PositionView) (value : ℚ) : gross (of p value) = value := by
  unfold of
  split
  · exact add_zero value
  · exact zero_add value

theorem gross_missed : gross missed = 0 := add_zero 0

end Bucket

namespace PositionView

variable (p : PositionView)

def value? : Option ℚ := p.contractSize.map fun size => |p.quantity| * size * p.price

def inSymbol : String × Bucket := (p.symbol, p.value?.elim Bucket.missed (Bucket.of p))

def under (key : PositionView → String) : Option (String × Bucket) :=
  p.value?.map fun value => (key p, Bucket.of p value)

def inCurrencies : List (String × ℚ) :=
  match p.value?, currencies p with
  | some value, some (base, quote) =>
    [(base, value * p.direction), (quote, -(value * p.direction))]
  | _, _ => []

def withholds : Bool := p.value?.isSome && (currencies p).isNone

def entry? : Option Uncomputable :=
  if p.value?.isSome then none else some ⟨p.positionId, p.symbol, (notionalOf p).reason⟩

theorem value?_eq :
    (if (notionalOf p).computable then (notionalOf p).value else none) = p.value? := by
  unfold notionalOf value?
  cases p.contractSize <;> rfl

end PositionView

def strategyKey (p : PositionView) : String := orElse p.strategyId "unattributed"

def botKey (p : PositionView) : String := orElse p.botId "unattributed"

def assetKey (p : PositionView) : String := orElse p.assetClass "unknown"

structure Taken (ps : List PositionView) (r : ExposureReport) : Prop where
  total : r.total = (ps.map fun p => p.inSymbol.2).sum
  bySymbol : r.bySymbol = Totals.collect (ps.map PositionView.inSymbol)
  byStrategy : r.byStrategy = Totals.collect (ps.filterMap (·.under strategyKey))
  byBot : r.byBot = Totals.collect (ps.filterMap (·.under botKey))
  byAssetClass : r.byAssetClass = Totals.collect (ps.filterMap (·.under assetKey))
  byCurrency : r.byCurrency = Totals.collect (ps.flatMap PositionView.inCurrencies)
  currencyAvailable : r.currencyAvailable = !ps.any PositionView.withholds
  uncomputable : r.uncomputable = ps.filterMap PositionView.entry?

theorem taken_nil : Taken [] {} := ⟨rfl, rfl, rfl, rfl, rfl, rfl, rfl, rfl⟩

section Step

variable {ps : List PositionView} {r : ExposureReport}

theorem Taken.take_none (taken : Taken ps r) (none_ : p.value? = none) :
    Taken (ps ++ [p]) (r.take p) := by
  have symbol : p.inSymbol = (p.symbol, Bucket.missed) := by
    unfold PositionView.inSymbol
    rw [none_]
    rfl
  have under : ∀ key, p.under key = none := fun key => by
    unfold PositionView.under
    rw [none_]
    rfl
  have currency : p.inCurrencies = [] := by
    unfold PositionView.inCurrencies
    rw [none_]
  have given : p.withholds = false := by
    unfold PositionView.withholds
    rw [none_]
    rfl
  have entry : p.entry? = some ⟨p.positionId, p.symbol, (notionalOf p).reason⟩ := by
    unfold PositionView.entry?
    rw [none_]
    rfl
  have is : r.take p =
      { r with
        total := r.total.miss
        bySymbol := r.bySymbol.update p.symbol {} Bucket.miss
        uncomputable := r.uncomputable ++ [⟨p.positionId, p.symbol, (notionalOf p).reason⟩] } := by
    unfold ExposureReport.take
    dsimp only
    rw [p.value?_eq, none_]
  rw [is]
  have missed : Bucket.miss = (· + Bucket.missed) := funext Bucket.miss_eq
  refine ⟨?_, ?_, ?_, ?_, ?_, ?_, ?_, ?_⟩
  · rw [List.map_append, List.sum_append, List.map_singleton, List.sum_singleton, symbol,
      ← taken.total]
    exact r.total.miss_eq
  · rw [List.map_append, List.map_singleton, Totals.collect_append_singleton, symbol,
      ← taken.bySymbol]
    rw [missed]
    rfl
  · rw [List.filterMap_append, taken.byStrategy]
    simp [under]
  · rw [List.filterMap_append, taken.byBot]
    simp [under]
  · rw [List.filterMap_append, taken.byAssetClass]
    simp [under]
  · rw [List.flatMap_append, taken.byCurrency]
    simp [currency]
  · rw [List.any_append, taken.currencyAvailable]
    simp [given]
  · rw [List.filterMap_append, taken.uncomputable]
    simp [entry]

def ExposureReport.book (r : ExposureReport) (p : PositionView) (value : ℚ) : ExposureReport :=
  { r with
    total := r.total.add p value
    bySymbol := r.bySymbol.update p.symbol {} (·.add p value)
    byStrategy := r.byStrategy.update (strategyKey p) {} (·.add p value)
    byBot := r.byBot.update (botKey p) {} (·.add p value)
    byAssetClass := r.byAssetClass.update (assetKey p) {} (·.add p value) }

theorem ExposureReport.take_of_value {value : ℚ} (is : p.value? = some value) :
    r.take p =
      match currencies p with
      | some (base, quote) =>
        { r.book p value with
          byCurrency := (r.byCurrency.update base 0 (· + value * p.direction)).update quote 0
            (· - value * p.direction) }
      | none => { r.book p value with currencyAvailable := false } := by
  unfold ExposureReport.take
  dsimp only
  rw [p.value?_eq, is]
  rfl

theorem collect_under {key : PositionView → String} {value : ℚ} (is : p.value? = some value) :
    Totals.collect ((ps ++ [p]).filterMap (·.under key)) =
      (Totals.collect (ps.filterMap (·.under key))).update (key p) {} (·.add p value) := by
  have under : p.under key = some (key p, Bucket.of p value) := by
    unfold PositionView.under
    rw [is]
    rfl
  have added : (·.add p value) = (· + Bucket.of p value) := funext fun b => b.add_eq p value
  have last : [p].filterMap (·.under key) = [(key p, Bucket.of p value)] := by
    simp [under]
  rw [List.filterMap_append, last, Totals.collect_append_singleton, added]
  rfl

theorem Taken.take_some (taken : Taken ps r) {value : ℚ} (is : p.value? = some value) :
    Taken (ps ++ [p]) (r.take p) := by
  have symbol : p.inSymbol = (p.symbol, Bucket.of p value) := by
    unfold PositionView.inSymbol
    rw [is]
    rfl
  have entry : p.entry? = none := by
    unfold PositionView.entry?
    rw [is]
    rfl
  have added : (·.add p value) = (· + Bucket.of p value) := funext fun b => b.add_eq p value
  have total : (r.book p value).total = ((ps ++ [p]).map fun p => p.inSymbol.2).sum := by
    rw [List.map_append, List.sum_append, List.map_singleton, List.sum_singleton, symbol,
      ← taken.total]
    exact r.total.add_eq p value
  have bySymbol : (r.book p value).bySymbol =
      Totals.collect ((ps ++ [p]).map PositionView.inSymbol) := by
    rw [List.map_append, List.map_singleton, Totals.collect_append_singleton, symbol,
      ← taken.bySymbol]
    change r.bySymbol.update p.symbol {} (·.add p value) = _
    rw [added]
    rfl
  have byStrategy : (r.book p value).byStrategy =
      Totals.collect ((ps ++ [p]).filterMap (·.under strategyKey)) := by
    rw [collect_under is, ← taken.byStrategy]
    rfl
  have byBot : (r.book p value).byBot =
      Totals.collect ((ps ++ [p]).filterMap (·.under botKey)) := by
    rw [collect_under is, ← taken.byBot]
    rfl
  have byAssetClass : (r.book p value).byAssetClass =
      Totals.collect ((ps ++ [p]).filterMap (·.under assetKey)) := by
    rw [collect_under is, ← taken.byAssetClass]
    rfl
  have uncomputable : r.uncomputable = (ps ++ [p]).filterMap PositionView.entry? := by
    rw [List.filterMap_append, taken.uncomputable]
    simp [entry]
  rw [ExposureReport.take_of_value is]
  cases known : currencies p with
  | none =>
    have currency : p.inCurrencies = [] := by
      unfold PositionView.inCurrencies
      rw [is, known]
    have withheld : p.withholds = true := by
      unfold PositionView.withholds
      rw [is, known]
      rfl
    refine ⟨total, bySymbol, byStrategy, byBot, byAssetClass, ?_, ?_, uncomputable⟩
    · rw [List.flatMap_append]
      change r.byCurrency = _
      simpa [currency] using taken.byCurrency
    · rw [List.any_append]
      simp [withheld]
  | some pair =>
    obtain ⟨base, quote⟩ := pair
    have currency : p.inCurrencies =
        [(base, value * p.direction), (quote, -(value * p.direction))] := by
      unfold PositionView.inCurrencies
      rw [is, known]
    have given : p.withholds = false := by
      unfold PositionView.withholds
      rw [is, known]
      rfl
    refine ⟨total, bySymbol, byStrategy, byBot, byAssetClass, ?_, ?_, uncomputable⟩
    · have both : (ps ++ [p]).flatMap PositionView.inCurrencies =
          (ps.flatMap PositionView.inCurrencies ++ [(base, value * p.direction)]) ++
            [(quote, -(value * p.direction))] := by
        simp [currency]
      rw [both, Totals.collect_append_singleton, Totals.collect_append_singleton,
        ← taken.byCurrency]
      simp only [sub_eq_add_neg]
    · rw [List.any_append]
      change r.currencyAvailable = _
      simpa [given] using taken.currencyAvailable

end Step

theorem taken_foldl (ps : List PositionView) : Taken ps (ps.foldl ExposureReport.take {}) := by
  induction ps using List.reverseRecOn with
  | nil => exact taken_nil
  | append_singleton ps p ih =>
    rw [List.foldl_append]
    cases is : p.value? with
    | none => exact ih.take_none is
    | some value => exact ih.take_some is

theorem compute_eq (ps : List PositionView) :
    (compute ps).total = (ps.map fun p => p.inSymbol.2).sum ∧
      (compute ps).bySymbol = Totals.collect (ps.map PositionView.inSymbol) ∧
      (compute ps).byStrategy = Totals.collect (ps.filterMap (·.under strategyKey)) ∧
      (compute ps).byBot = Totals.collect (ps.filterMap (·.under botKey)) ∧
      (compute ps).byAssetClass = Totals.collect (ps.filterMap (·.under assetKey)) ∧
      (compute ps).currencyAvailable = !ps.any PositionView.withholds ∧
      (compute ps).uncomputable = ps.filterMap PositionView.entry? ∧
      (compute ps).byCurrency =
        if ps.any PositionView.withholds then .empty Prod.fst
        else Totals.collect (ps.flatMap PositionView.inCurrencies) := by
  have taken := taken_foldl ps
  unfold compute
  cases withheld : ps.any PositionView.withholds with
  | true =>
    have available := taken.currencyAvailable
    rw [withheld] at available
    rw [if_neg (by rw [available]; decide)]
    exact ⟨taken.total, taken.bySymbol, taken.byStrategy, taken.byBot, taken.byAssetClass,
      available, taken.uncomputable, rfl⟩
  | false =>
    have available := taken.currencyAvailable
    rw [withheld] at available
    rw [if_pos (show _ = true from available)]
    exact ⟨taken.total, taken.bySymbol, taken.byStrategy, taken.byBot, taken.byAssetClass,
      available, taken.uncomputable, taken.byCurrency⟩

end TradeResearch.Portfolio
