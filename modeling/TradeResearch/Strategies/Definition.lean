import TradeResearch.Lib.Kleene
import TradeResearch.Strategies.Base
import TradeResearch.Tools.Indicators

/-!
# Strategy definitions

`backend/app/strategies/indicators.py` and `backend/app/strategies/definition.py`: the indicators a
definition may use, and a definition as `parse_definition` accepts it. What it refuses cannot be
built: an operand outside the catalogue, a comparison of different quantities, a rule with an action
that is not its own. The texts of its refusals are left out.
-/

namespace TradeResearch.Strategies

open Marketdata Kleene

inductive ValueUnit where
  | price
  | oscillator
  | volatility
  | volume
  | ratio
  | scalar
  deriving DecidableEq, Repr

inductive Indicator where
  | sma
  | ema
  | rsi
  | atr
  deriving DecidableEq, Repr

namespace Indicator

def key : Indicator → String
  | sma => "SMA"
  | ema => "EMA"
  | rsi => "RSI"
  | atr => "ATR"

def unit : Indicator → ValueUnit
  | sma => .price
  | ema => .price
  | rsi => .oscillator
  | atr => .volatility

end Indicator

structure Period where
  bars : ℕ
  bounds : 2 ≤ bars ∧ bars ≤ 500
  deriving DecidableEq

def warmupMultiplier : ℕ := 3

def Period.warmup (p : Period) : ℕ := max (p.bars * warmupMultiplier) (p.bars + 1)

def compute (indicator : Indicator) (period : Period) (bars : List Bar) : List (Option ℚ) :=
  let closes := bars.map Bar.close
  match indicator with
  | .sma => Tools.sma closes period.bars
  | .ema => Tools.ema closes period.bars
  | .rsi => Tools.wilderRsi closes period.bars
  | .atr => Tools.atrSeries bars period.bars

inductive PriceField where
  | close
  | open_
  | high
  | low
  | volume
  deriving DecidableEq, Repr

namespace PriceField

def ref : PriceField → String
  | close => "close"
  | open_ => "open"
  | high => "high"
  | low => "low"
  | volume => "volume"

def unit : PriceField → ValueUnit
  | volume => .volume
  | _ => .price

def of (bar : Bar) : PriceField → Option ℚ
  | close => some bar.close
  | open_ => some bar.open_
  | high => some bar.high
  | low => some bar.low
  | volume => bar.volume

end PriceField

inductive Comparison where
  | greaterThan
  | lessThan
  | greaterOrEqual
  | lessOrEqual
  | equal
  | crossesAbove
  | crossesBelow
  deriving DecidableEq, Repr

namespace Comparison

def needsPreviousBar (c : Comparison) : Bool := c ∈ [crossesAbove, crossesBelow]

def word : Comparison → String
  | greaterThan => ">"
  | lessThan => "<"
  | greaterOrEqual => ">="
  | lessOrEqual => "<="
  | equal => "=="
  | crossesAbove => "crosses above"
  | crossesBelow => "crosses below"

end Comparison

inductive Operand where
  | indicator (ref : Indicator) (period : Period)
  | price (ref : PriceField)
  | constant (value : ℚ)
  deriving DecidableEq

namespace Operand

def unit : Operand → ValueUnit
  | indicator ref _ => ref.unit
  | price ref => ref.unit
  | constant _ => .scalar

def label : Operand → Text
  | indicator ref period => Text.lit s!"{ref.key}({period.bars})"
  | price ref => Text.lit ref.ref.toUpper
  | constant value => Text.num value

def indicator? : Operand → Option (Indicator × Period)
  | indicator ref period => some (ref, period)
  | _ => none

def comparable : Operand → Operand → Bool
  | constant _, constant _ => false
  | left, right => left.unit = .scalar ∨ right.unit = .scalar ∨ left.unit = right.unit

end Operand

structure Condition where
  left : Operand
  comparison : Comparison
  right : Operand
  comparable : left.comparable right = true := by rfl
  deriving DecidableEq

def Condition.label (c : Condition) : Text :=
  c.left.label ++ Text.lit s!" {c.comparison.word} " ++ c.right.label

abbrev Node := Formula Condition

namespace Node

def label : Node → Text :=
  let group (joiner : String) (children : List Text) : Text :=
    Text.lit "(" ++ Text.join joiner children ++ Text.lit ")"
  Formula.fold Condition.label (fun child => Text.lit "NOT (" ++ child ++ Text.lit ")")
    (group " AND ") (group " OR ")

def operands : Node → List Operand :=
  Formula.fold (fun c => [c.left, c.right]) id List.flatten List.flatten

def countConditions : Node → ℕ := Formula.fold (fun _ => 1) id List.sum List.sum

def depth : Node → ℕ :=
  Formula.fold (fun _ => 0) Nat.succ (fun below => below.foldr max 0 + 1)
    (fun below => below.foldr max 0 + 1)

end Node

structure Rule where
  when_ : Node
  then_ : SignalType

def Rule.label (r : Rule) : Text :=
  Text.lit "WHEN " ++ r.when_.label ++ Text.lit s!" THEN {r.then_.name}"

def entryActions : List SignalType := [.entryLong, .entryShort]

def exitActions : List SignalType := [.exitLong, .exitShort, .close]

def maxDepth : ℕ := 6

def maxConditions : ℕ := 40

def maxRules : ℕ := 10

structure StrategyDefinition where
  name : String
  symbol : String
  timeframe : Timeframe
  entryRules : List Rule
  exitRules : List Rule := []
  some_ : entryRules ≠ []
  few : entryRules.length ≤ maxRules ∧ exitRules.length ≤ maxRules
  enters : ∀ r ∈ entryRules, r.then_ ∈ entryActions
  exits : ∀ r ∈ exitRules, r.then_ ∈ exitActions
  shallow : ∀ r ∈ entryRules ++ exitRules, r.when_.depth ≤ maxDepth
  small : ((entryRules ++ exitRules).map fun r => r.when_.countConditions).sum ≤ maxConditions

namespace StrategyDefinition

variable (d : StrategyDefinition)

def rules : List Rule := d.entryRules ++ d.exitRules

def indicators : List (Indicator × Period) :=
  (d.rules.flatMap fun r => r.when_.operands.filterMap Operand.indicator?).eraseDups

def warmup : ℕ := (d.indicators.map fun operand => operand.2.warmup).foldr max 2

end StrategyDefinition

end TradeResearch.Strategies
