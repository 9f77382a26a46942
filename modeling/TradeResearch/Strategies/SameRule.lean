import TradeResearch.Strategies.Built
import TradeResearch.Tools.Rules

/-!
# One rule, three times

A rule of `tools/mt5_paper.py` that trades, its vector in `tools/rule_backtest.py` that was tested,
and the definition of it that is interpreted.

* `valueOf_indicator`: what an interpreted rule reads is an entry of the series of its indicator.
* `decides_smaCross`: the three agree on the crossing averages, ties included.
* `decides_rsiReversion`: the interpreted reversion decides as its vector ends, and so they agree
  with the live rule where a price falls (`sameRule_iff`).
-/

namespace TradeResearch.Strategies

open Marketdata Kleene
open Tools (BuySell signalOf lastOf mean crossed reverted closes ruleRsiReversion ruleSmaCross
  signalsRsiReversion signalsSmaCross atrFrom atrSeries wilder wilderRsi rsiOf Falls)

section Reads

variable {s : BuiltStrategy}

theorem lookup_series {rule : Rule} {operand : Operand} {indicator : Indicator} {period : Period}
    (mem : rule ∈ s.definition.rules) (reads : operand ∈ rule.when_.operands)
    (is : operand.indicator? = some (indicator, period)) :
    (s.series candles).lookup (indicator, period) =
      some (compute indicator period candles.bars) := by
  have listed : (indicator, period) ∈ s.definition.indicators := by
    unfold StrategyDefinition.indicators
    rw [List.mem_eraseDups, List.mem_flatMap]
    exact ⟨rule, mem, List.mem_filterMap.mpr ⟨operand, reads, is⟩⟩
  exact List.lookup_graph
    (fun operand : Indicator × Period => compute operand.1 operand.2 candles.bars) listed

theorem valueOf_indicator {rule : Rule} {indicator : Indicator} {period : Period}
    (mem : rule ∈ s.definition.rules)
    (reads : Operand.indicator indicator period ∈ rule.when_.operands) {offset : ℕ}
    (inside : offset < candles.bars.length) :
    valueOf (.indicator indicator period) (s.series candles) candles offset =
      (compute indicator period candles.bars).getD (candles.bars.length - 1 - offset) none := by
  unfold valueOf
  rw [if_neg (Nat.not_lt.mpr inside)]
  dsimp only
  rw [lookup_series mem reads rfl]

theorem valueOf_constant (value : ℚ) {series : Series} {offset : ℕ}
    (inside : offset < candles.bars.length) :
    valueOf (.constant value) series candles offset = some value := by
  unfold valueOf
  rw [if_neg (Nat.not_lt.mpr inside)]

theorem nodeHolds_atom (condition : Condition) {series : Series} :
    nodeHolds series candles (.atom condition) = conditionHolds series candles condition := by
  unfold nodeHolds Formula.holds
  exact Formula.fold_atom _ _ _ _ condition

theorem conditionHolds_of_values {series : Series} {condition : Condition} {left right : ℚ}
    (single : condition.comparison.needsPreviousBar = false)
    (left_ : valueOf condition.left series candles 0 = some left)
    (right_ : valueOf condition.right series candles 0 = some right) :
    conditionHolds series candles condition =
      condition.comparison.tells left right left right := by
  unfold conditionHolds
  rw [left_, right_]
  rw [single]
  rfl

theorem conditionHolds_of_cross {series : Series} {condition : Condition}
    {left right previousLeft previousRight : ℚ}
    (cross : condition.comparison.needsPreviousBar = true)
    (left_ : valueOf condition.left series candles 0 = some left)
    (right_ : valueOf condition.right series candles 0 = some right)
    (previousLeft_ : valueOf condition.left series candles 1 = some previousLeft)
    (previousRight_ : valueOf condition.right series candles 1 = some previousRight) :
    conditionHolds series candles condition =
      condition.comparison.tells left right previousLeft previousRight := by
  unfold conditionHolds
  rw [left_, right_, previousLeft_, previousRight_, cross]
  rfl

end Reads

def SignalType.entry : SignalType → ℤ
  | entryLong => 1
  | entryShort => -1
  | _ => 0

namespace BuiltStrategy

def action (s : BuiltStrategy) (candles : Candles) : SignalType :=
  ((s.accepted candles).map Rule.then_).getD .hold

def Decides (s : BuiltStrategy) (bars : List Bar) (signal : ℤ) : Prop :=
  (s.action (s.window s.definition.symbol bars)).entry = signal ∧
    ∀ now : Time, s.definition.warmup ≤ bars.length →
      (s.generateSignal (s.window s.definition.symbol bars) now).signalType.entry = signal

theorem decides_of_action {s : BuiltStrategy} {bars : List Bar} {signal : ℤ}
    (is : ∀ candles : Candles, candles.bars = bars → (s.action candles).entry = signal) :
    s.Decides bars signal := by
  refine ⟨is _ rfl, fun now long => ?_⟩
  rw [(signalType_generateSignal now).2 ⟨rfl, long⟩]
  exact is _ rfl

theorem action_pair {s : BuiltStrategy} {first second : Rule} (candles : Candles)
    (rules : s.definition.rules = [first, second]) :
    s.action candles =
      if nodeHolds (s.series candles) candles first.when_ then first.then_
      else if nodeHolds (s.series candles) candles second.when_ then second.then_
      else .hold := by
  unfold action accepted
  rw [rules, List.find?_cons, List.find?_cons, List.find?_nil]
  cases nodeHolds (s.series candles) candles first.when_ with
  | true => rfl
  | false =>
    cases nodeHolds (s.series candles) candles second.when_ with
    | true | false => rfl

end BuiltStrategy

section Definitions

variable (symbol : String) (timeframe : Timeframe)

def average (bars : ℕ) (bounds : 2 ≤ bars ∧ bars ≤ 500) : Operand := .indicator .sma ⟨bars, bounds⟩

def fast : Operand := average 20 (by decide)

def slow : Operand := average 50 (by decide)

def rsi : Operand := .indicator .rsi ⟨14, by decide⟩

def entersOn (key : String) (long short : Condition) : BuiltStrategy where
  key := key
  definition :=
    { name := key, symbol, timeframe
      entryRules := [⟨.atom long, .entryLong⟩, ⟨.atom short, .entryShort⟩]
      some_ := List.cons_ne_nil _ _
      few := by simp [maxRules]
      enters := by simp [entryActions]
      exits := by simp
      shallow := by simp [Node.depth, Formula.fold_atom]
      small := by simp [Node.countConditions, Formula.fold_atom, maxConditions] }

def rsiReversion : BuiltStrategy :=
  entersOn symbol timeframe "rsi_reversion"
    { left := rsi, comparison := .lessThan, right := .constant 30 }
    { left := rsi, comparison := .greaterThan, right := .constant 70 }

def smaCross : BuiltStrategy :=
  entersOn symbol timeframe "sma_cross"
    { left := fast, comparison := .crossesAbove, right := slow }
    { left := fast, comparison := .crossesBelow, right := slow }

variable {symbol timeframe}

theorem entry_action_entersOn {key : String} {long short : Condition} (candles : Candles) :
    ((entersOn symbol timeframe key long short).action candles).entry =
      if conditionHolds ((entersOn symbol timeframe key long short).series candles) candles long
        then 1
      else if conditionHolds ((entersOn symbol timeframe key long short).series candles) candles
        short then -1
      else 0 := by
  have rules : (entersOn symbol timeframe key long short).definition.rules =
      [⟨.atom long, .entryLong⟩, ⟨.atom short, .entryShort⟩] := rfl
  rw [BuiltStrategy.action_pair candles rules]
  rw [nodeHolds_atom, nodeHolds_atom]
  split
  · rfl
  · split <;> rfl

theorem valueOf_entersOn {key : String} {long short : Condition} {indicator : Indicator}
    {period : Period} (left : long.left = .indicator indicator period ∨
      long.right = .indicator indicator period) {candles : Candles} {offset : ℕ}
    (inside : offset < candles.bars.length) :
    valueOf (.indicator indicator period)
        ((entersOn symbol timeframe key long short).series candles) candles offset =
      (compute indicator period candles.bars).getD (candles.bars.length - 1 - offset) none := by
  have mem : (⟨.atom long, .entryLong⟩ : Rule) ∈
      (entersOn symbol timeframe key long short).definition.rules := List.mem_cons_self
  refine valueOf_indicator mem ?_ inside
  unfold Node.operands
  rw [Formula.fold_atom]
  rcases left with here | here
  · rw [here]
    exact List.mem_cons_self
  · rw [here]
    exact List.mem_cons_of_mem _ List.mem_cons_self

theorem decides_rsiReversion (enough : 60 ≤ bars.length) :
    (rsiReversion symbol timeframe).Decides bars
      (reverted (some (rsiOf (wilder (bars.map Bar.close) 14).1
        (wilder (bars.map Bar.close) 14).2))) := by
  refine BuiltStrategy.decides_of_action fun candles same => ?_
  have some_ : 0 < candles.bars.length := by
    rw [same]
    omega
  have index : valueOf rsi ((rsiReversion symbol timeframe).series candles) candles 0 =
      some (rsiOf (wilder (bars.map Bar.close) 14).1 (wilder (bars.map Bar.close) 14).2) := by
    have last := Tools.getLast?_wilderRsi (c := bars.map Bar.close) (n := 14) (by
      rw [List.length_map]
      omega)
    rw [List.getLast?_eq_getElem?, Tools.length_wilderRsi _ (by decide), List.length_map] at last
    refine (valueOf_entersOn (.inl rfl) some_).trans ?_
    rw [same, List.getD_eq_getElem?_getD]
    unfold compute
    rw [Nat.sub_zero, last, Option.getD_some]
  unfold rsiReversion at index ⊢
  rw [entry_action_entersOn, conditionHolds_of_values rfl index (valueOf_constant 30 some_),
    conditionHolds_of_values rfl index (valueOf_constant 70 some_)]
  unfold reverted Comparison.tells
  simp only [decide_eq_true_eq]

theorem valueOf_average {key : String} {long short : Condition} {n : ℕ}
    {bounds : 2 ≤ n ∧ n ≤ 500}
    (either : long.left = average n bounds ∨ long.right = average n bounds)
    (candles : Candles) (fits : n + 1 ≤ candles.bars.length) :
    valueOf (average n bounds) ((entersOn symbol timeframe key long short).series candles)
        candles 0 = some (mean (lastOf n (candles.bars.map Bar.close))) ∧
      valueOf (average n bounds) ((entersOn symbol timeframe key long short).series candles)
        candles 1 = some (mean (lastOf (n + 1) (candles.bars.map Bar.close)).dropLast) := by
  have pos : 0 < n := Nat.lt_of_lt_of_le Nat.zero_lt_two bounds.1
  have long_ : n + 1 ≤ (candles.bars.map Bar.close).length := by rwa [List.length_map]
  have now := Tools.getD_sma pos (Nat.le_of_succ_le long_)
  have before := Tools.getD_sma_before pos long_
  rw [List.length_map] at now before
  exact ⟨(valueOf_entersOn either (by omega)).trans now,
    (valueOf_entersOn either (by omega)).trans before⟩

theorem decides_smaCross (enough : 60 ≤ bars.length) :
    (smaCross symbol timeframe).Decides bars
      (crossed (some (mean (lastOf 21 (bars.map Bar.close)).dropLast))
        (some (mean (lastOf 51 (bars.map Bar.close)).dropLast))
        (some (mean (lastOf 20 (bars.map Bar.close))))
        (some (mean (lastOf 50 (bars.map Bar.close))))) := by
  refine BuiltStrategy.decides_of_action fun candles same => ?_
  rw [← same] at enough ⊢
  have fast_ : valueOf fast ((smaCross symbol timeframe).series candles) candles 0 =
        some (mean (lastOf 20 (candles.bars.map Bar.close))) ∧
      valueOf fast ((smaCross symbol timeframe).series candles) candles 1 =
        some (mean (lastOf 21 (candles.bars.map Bar.close)).dropLast) :=
    valueOf_average (.inl rfl) candles (by omega)
  have slow_ : valueOf slow ((smaCross symbol timeframe).series candles) candles 0 =
        some (mean (lastOf 50 (candles.bars.map Bar.close))) ∧
      valueOf slow ((smaCross symbol timeframe).series candles) candles 1 =
        some (mean (lastOf 51 (candles.bars.map Bar.close)).dropLast) :=
    valueOf_average (.inr rfl) candles (by omega)
  obtain ⟨fastNow, fastPrev⟩ := fast_
  obtain ⟨slowNow, slowPrev⟩ := slow_
  unfold smaCross at fastNow fastPrev slowNow slowPrev ⊢
  rw [entry_action_entersOn, conditionHolds_of_cross rfl fastNow slowNow fastPrev slowPrev,
    conditionHolds_of_cross rfl fastNow slowNow fastPrev slowPrev]
  unfold crossed Comparison.tells
  simp only [decide_eq_true_eq]
  split
  · next up => rw [if_neg fun down => lt_asymm up.2 down.2]
  · rfl

end Definitions

structure SameRule (symbol : String) (timeframe : Timeframe) (rates : List Bar) : Prop where
  rsiVector : (signalsRsiReversion (closes rates)).getLast? =
    some (signalOf (ruleRsiReversion rates 14))
  rsiBuilt : (rsiReversion symbol timeframe).Decides rates.dropLast
    (signalOf (ruleRsiReversion rates 14))
  smaVector : (signalsSmaCross (closes rates)).getLast? = some (signalOf (ruleSmaCross rates))
  smaBuilt : (smaCross symbol timeframe).Decides rates.dropLast (signalOf (ruleSmaCross rates))
  atr : (atrSeries rates.dropLast 14).getLast? = some (atrFrom rates 14)

section Same

variable {symbol : String} {timeframe : Timeframe}

theorem sameRule_iff_rsiVector (enough : 60 ≤ (closes rates).length) :
    SameRule symbol timeframe rates ↔
      (signalsRsiReversion (closes rates)).getLast? =
        some (signalOf (ruleRsiReversion rates 14)) := by
  have bars : 60 ≤ rates.dropLast.length := by rwa [← Tools.length_closes]
  refine ⟨SameRule.rsiVector, fun vector => ?_⟩
  have index := Tools.getLast?_signalsRsiReversion enough
  rw [vector] at index
  refine ⟨vector, ?_, ?_, ?_, Tools.getLast?_atrSeries_eq_atrFrom enough⟩
  · rw [Option.some.inj index]
    exact decides_rsiReversion bars
  · rw [Tools.signalOf_ruleSmaCross enough]
    exact Tools.getLast?_signalsSmaCross enough
  · rw [Tools.signalOf_ruleSmaCross enough]
    exact decides_smaCross bars

theorem rsiVector_iff (enough : 60 ≤ (closes rates).length) :
    (signalsRsiReversion (closes rates)).getLast? =
      some (signalOf (ruleRsiReversion rates 14)) ↔ Falls (closes rates) := by
  rw [Tools.getLast?_signalsRsiReversion enough, Tools.signalOf_ruleRsiReversion enough]
  have zero := Tools.wilder_eq_zero_iff (c := closes rates) (n := 14) (by decide) (by omega)
  by_cases none_ : (wilder (closes rates) 14).2 = 0
  · rw [if_pos none_]
    refine iff_of_false (fun sells => ?_) (zero.mp none_)
    unfold rsiOf at sells
    rw [if_pos none_] at sells
    revert sells
    decide +kernel
  · rw [if_neg none_]
    exact iff_of_true rfl (not_not.mp (mt zero.mpr none_))

/-- Over at least 60 closed bars, the rule that trades is the rule that was tested, and is its
definition interpreted, exactly where some close is below the one before. -/
theorem sameRule_iff (symbol : String) (timeframe : Timeframe) (rates : List Bar)
    (enough : 60 ≤ (closes rates).length) :
    SameRule symbol timeframe rates ↔ Falls (closes rates) :=
  (sameRule_iff_rsiVector enough).trans (rsiVector_iff enough)

end Same

def flat : List Bar := (List.range 61).map BuiltStrategy.hundred

def dips : List Bar := { BuiltStrategy.hundred 0 with high := 101, close := 101 } :: flat.tail

theorem sameRule_dips : SameRule "EURUSD" .h1 dips := by
  refine (sameRule_iff "EURUSD" .h1 dips (by decide)).mpr ?_
  unfold Falls
  decide +kernel

/-- Over bars that never move the live reversion decides nothing, and its vector sells. -/
theorem not_forall_sameRule :
    ¬ ∀ (symbol : String) (timeframe : Timeframe) (rates : List Bar),
      60 ≤ (closes rates).length → SameRule symbol timeframe rates := by
  intro all
  have long : 60 ≤ (closes flat).length := by decide
  obtain ⟨move, mem, down⟩ := (rsiVector_iff long).mp (all "EURUSD" .h1 flat long).rsiVector
  have still : ∀ move ∈ Tools.diff (closes flat), 0 ≤ move := by decide +kernel
  exact absurd down (not_lt.mpr (still move mem))

end TradeResearch.Strategies
