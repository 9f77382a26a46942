import TradeResearch.Strategies.Definition

/-!
# Built strategies

`backend/app/strategies/built.py`: a definition is interpreted over closed bars. A comparison with
an absent operand does not hold, and a negation holds of what does not.

* `BuiltStrategy.generateSignal` is the first rule that holds, entry rules before exit rules.
* `actionable_iff`: read over the three-valued logic in which a comparison with an absent operand is
  unknown, wherever no rule that is unknown comes first.
-/

namespace TradeResearch.Strategies

open Marketdata Kleene

structure BuiltStrategy where
  definition : StrategyDefinition
  key : String
  version : Option ℕ := none

abbrev Series := List ((Indicator × Period) × List (Option ℚ))

def valueOf (operand : Operand) (series : Series) (candles : Candles) (offset : ℕ) : Option ℚ :=
  if candles.bars.length < offset + 1 then none
  else
    let index := candles.bars.length - 1 - offset
    match operand with
    | .constant value => some value
    | .price ref => (candles.bars[index]?).bind fun bar => ref.of bar
    | .indicator ref period =>
      match series.lookup (ref, period) with
      | none => none
      | some values => values.getD index none

def Comparison.tells (comparison : Comparison) (left right previousLeft previousRight : ℚ) : Bool :=
  match comparison with
  | greaterThan => right < left
  | lessThan => left < right
  | greaterOrEqual => right ≤ left
  | lessOrEqual => left ≤ right
  | equal => left = right
  | crossesAbove => previousLeft ≤ previousRight ∧ right < left
  | crossesBelow => previousRight ≤ previousLeft ∧ left < right

def conditionHolds (series : Series) (candles : Candles) (condition : Condition) : Bool :=
  match valueOf condition.left series candles 0, valueOf condition.right series candles 0 with
  | some left, some right =>
    if condition.comparison.needsPreviousBar then
      match valueOf condition.left series candles 1, valueOf condition.right series candles 1 with
      | some previousLeft, some previousRight =>
        condition.comparison.tells left right previousLeft previousRight
      | _, _ => false
    else condition.comparison.tells left right left right
  | _, _ => false

def nodeHolds (series : Series) (candles : Candles) : Node → Bool :=
  Formula.holds (conditionHolds series candles)

namespace BuiltStrategy

variable (s : BuiltStrategy)

def series (candles : Candles) : Series :=
  s.definition.indicators.map fun operand =>
    (operand, compute operand.1 operand.2 candles.bars)

def signal (rule : Rule) (candles : Candles) (now : Time) (last : Bar) : StrategySignal :=
  { strategyKey := s.key
    symbol := candles.symbol
    timeframe := candles.timeframe
    signalType := rule.then_
    barTime := last.barTime
    generatedAt := now
    referencePrice := some last.close
    strategyVersion := s.version
    reasoning := rule.label
    metadata := [("built", Text.lit "True"), ("matched_rule", rule.label)] }

def accepted (candles : Candles) : Option Rule :=
  let series := s.series candles
  s.definition.rules.find? fun rule => nodeHolds series candles rule.when_

def generateSignal (candles : Candles) (now : Time) : StrategySignal :=
  let need := s.definition.warmup
  if candles.bars.length < need then
    noSignal s.key candles now (Text.num candles.bars.length ++
      Text.lit " closed bars; this definition needs " ++ Text.num need ++
      Text.lit " before its longest indicator is warmed up")
  else if candles.symbol ≠ s.definition.symbol then
    noSignal s.key candles now (Text.lit
      s!"this definition is for {s.definition.symbol}, not {candles.symbol}")
  else
    let last := candles.bars.getLast?.getD default
    match s.accepted candles with
    | some rule => s.signal rule candles now last
    | none =>
      { strategyKey := s.key
        symbol := candles.symbol
        timeframe := candles.timeframe
        signalType := .hold
        barTime := last.barTime
        generatedAt := now
        referencePrice := some last.close
        strategyVersion := s.version
        reasoning := Text.lit "no rule matched on this bar"
        metadata := [("built", Text.lit "True"),
          ("rules", Text.num s.definition.entryRules.length)] }

def conditionTruth (series : Series) (candles : Candles) (condition : Condition) : Truth :=
  match valueOf condition.left series candles 0, valueOf condition.right series candles 0 with
  | some left, some right =>
    if condition.comparison.needsPreviousBar then
      match valueOf condition.left series candles 1, valueOf condition.right series candles 1 with
      | some previousLeft, some previousRight =>
        some (condition.comparison.tells left right previousLeft previousRight)
      | _, _ => none
    else some (condition.comparison.tells left right left right)
  | _, _ => none

def truth (candles : Candles) (rule : Rule) : Truth :=
  Formula.eval (conditionTruth (s.series candles) candles) rule.when_

def firstTrue (candles : Candles) : Option Rule :=
  s.definition.rules.find? fun rule => s.truth candles rule = some true

section Reading

variable {s}

theorem conditionHolds_eq (series : Series) (condition : Condition) :
    conditionHolds series candles condition =
      (conditionTruth series candles condition).getD false := by
  unfold conditionHolds conditionTruth
  split
  · split
    · split
      · rfl
      · rfl
    · rfl
  · rfl

theorem holds_of_truth {rule : Rule} {x : Bool} (known : s.truth candles rule = some x) :
    nodeHolds (s.series candles) candles rule.when_ = x := by
  refine Formula.holds_of_eval (fun condition y here => ?_) rule.when_ x known
  rw [conditionHolds_eq, here]
  rfl

theorem accepted_eq_firstTrue
    (known : ∀ rule, s.accepted candles = some rule → s.truth candles rule ≠ none) :
    s.accepted candles = s.firstTrue candles :=
  find?_eq_of_known (fun _ _ => holds_of_truth) s.definition.rules known

def Ready (s : BuiltStrategy) (candles : Candles) : Prop :=
  candles.symbol = s.definition.symbol ∧ s.definition.warmup ≤ candles.bars.length

theorem signalType_generateSignal (now : Time) :
    (¬ s.Ready candles → (s.generateSignal candles now).signalType = .noSignal) ∧
      (s.Ready candles → (s.generateSignal candles now).signalType =
        ((s.accepted candles).map Rule.then_).getD .hold) := by
  unfold Ready generateSignal
  by_cases short : candles.bars.length < s.definition.warmup
  · rw [if_pos short]
    exact ⟨fun _ => rfl, fun ready => absurd ready.2 (Nat.not_le.mpr short)⟩
  · rw [if_neg short]
    by_cases other : candles.symbol ≠ s.definition.symbol
    · rw [if_pos other]
      exact ⟨fun _ => rfl, fun ready => absurd ready.1 other⟩
    · rw [if_neg other]
      refine ⟨fun wanting => absurd ⟨not_not.mp other, Nat.not_lt.mp short⟩ wanting, fun _ => ?_⟩
      cases s.accepted candles <;> rfl

theorem isActionable_of_mem {rule : Rule} (mem : rule ∈ s.definition.rules) :
    rule.then_.isActionable = true := by
  have actions : rule.then_ ∈ entryActions ++ exitActions := by
    rcases List.mem_append.mp mem with entry | exit
    · exact List.mem_append_left _ (s.definition.enters rule entry)
    · exact List.mem_append_right _ (s.definition.exits rule exit)
  revert actions
  cases rule.then_ <;> decide

theorem mem_entryActions {rule : Rule} :
    (rule ∈ s.definition.entryRules → rule.then_ ∈ entryActions) ∧
      (rule ∈ s.definition.exitRules → rule.then_ ∉ entryActions) := by
  refine ⟨s.definition.enters rule, fun exit => ?_⟩
  have action := s.definition.exits rule exit
  revert action
  cases rule.then_ <;> decide

theorem firstTrue_eq_some {rule : Rule} (found : s.firstTrue candles = some rule) :
    rule ∈ s.definition.rules ∧ s.truth candles rule = some true := by
  have true_ : decide (s.truth candles rule = some true) = true :=
    List.find?_some (p := fun rule => decide (s.truth candles rule = some true)) found
  exact ⟨List.mem_of_find?_eq_some found, of_decide_eq_true true_⟩

theorem firstTrue_eq_none (none_ : s.firstTrue candles = none) {rule : Rule}
    (mem : rule ∈ s.definition.rules) : s.truth candles rule ≠ some true :=
  fun true_ => List.find?_eq_none.mp none_ rule mem (decide_eq_true true_)

theorem firstTrue_entry {rule : Rule} (found : s.firstTrue candles = some rule) :
    rule.then_ ∈ entryActions ↔
      ∃ entry ∈ s.definition.entryRules, s.truth candles entry = some true := by
  unfold firstTrue StrategyDefinition.rules at found
  rw [List.find?_append] at found
  cases entry : s.definition.entryRules.find? fun rule => s.truth candles rule = some true with
  | some first =>
    rw [entry] at found
    cases found
    have mem := List.mem_of_find?_eq_some entry
    have true_ : decide (s.truth candles rule = some true) = true :=
      List.find?_some (p := fun rule => decide (s.truth candles rule = some true)) entry
    exact iff_of_true (mem_entryActions.1 mem) ⟨rule, mem, of_decide_eq_true true_⟩
  | none =>
    rw [entry] at found
    refine iff_of_false (mem_entryActions.2 (List.mem_of_find?_eq_some found)) ?_
    rintro ⟨rule', mem, true_⟩
    exact List.find?_eq_none.mp entry rule' mem (decide_eq_true true_)

end Reading

def window (symbol : String) (bars : List Bar) : Candles :=
  { symbol, timeframe := s.definition.timeframe, bars }

/-- On a window of the definition's timeframe on which the first rule that holds, if any, is not
unknown: a signal is actionable exactly when the window is ready and some rule is true, it is an
entry exactly when some entry rule is, and it is that of the first rule that is true. -/
theorem actionable_iff (symbol : String) (bars : List Bar) (now : Time)
    (known : ∀ rule, s.accepted (s.window symbol bars) = some rule →
      s.truth (s.window symbol bars) rule ≠ none) :
    ((s.generateSignal (s.window symbol bars) now).signalType.isActionable = true ↔
        s.Ready (s.window symbol bars) ∧
          ∃ rule ∈ s.definition.rules, s.truth (s.window symbol bars) rule = some true) ∧
      ((s.generateSignal (s.window symbol bars) now).signalType ∈ entryActions ↔
        s.Ready (s.window symbol bars) ∧
          ∃ rule ∈ s.definition.entryRules, s.truth (s.window symbol bars) rule = some true) ∧
      (s.Ready (s.window symbol bars) →
        ∀ rule, s.firstTrue (s.window symbol bars) = some rule →
          (s.generateSignal (s.window symbol bars) now).signalType = rule.then_) := by
  generalize s.window symbol bars = candles at *
  obtain ⟨wanting, ready⟩ := @signalType_generateSignal s candles now
  have first := accepted_eq_firstTrue known
  by_cases is : s.Ready candles
  · rw [ready is, first, and_iff_right is, and_iff_right is]
    cases found : s.firstTrue candles with
    | none =>
      refine ⟨iff_of_false (by decide) ?_, iff_of_false (by decide) ?_,
        fun _ rule here => by cases here⟩
      · rintro ⟨rule, mem, true_⟩
        exact firstTrue_eq_none found mem true_
      · rintro ⟨rule, mem, true_⟩
        exact firstTrue_eq_none found (List.mem_append_left _ mem) true_
    | some rule =>
      obtain ⟨mem, true_⟩ := firstTrue_eq_some found
      refine ⟨iff_of_true (isActionable_of_mem mem) ⟨rule, mem, true_⟩, firstTrue_entry found,
        fun _ rule' here => ?_⟩
      rw [Option.some.inj here]
      rfl
  · rw [wanting is]
    exact ⟨iff_of_false (by decide) fun both => is both.1,
      iff_of_false (by decide) fun both => is both.1, fun ready => absurd ready is⟩

def hundred (i : ℕ) : Bar :=
  { symbol := "EURUSD", timeframe := .h1, barTime := 3600 * i, open_ := 100, high := 100,
    low := 100, close := 100 }

def above (price : ℚ) : Node :=
  .atom { left := .price .close, comparison := .greaterThan, right := .constant price }

def closesEarly : BuiltStrategy :=
  { key := "closes_early"
    definition :=
      { name := "closes early", symbol := "EURUSD", timeframe := .h1
        entryRules := [⟨above 200, .entryLong⟩]
        exitRules := [⟨above 50, .close⟩]
        some_ := by decide
        few := by decide
        enters := by decide
        exits := by decide
        shallow := by decide
        small := by decide } }

def twoBars : List Bar := [hundred 0, hundred 1]

theorem actionable_iff_closesEarly :
    let window := closesEarly.window "EURUSD" twoBars
    ((closesEarly.generateSignal window 3600).signalType.isActionable = true ↔
        closesEarly.Ready window ∧
          ∃ rule ∈ closesEarly.definition.rules, closesEarly.truth window rule = some true) ∧
      ((closesEarly.generateSignal window 3600).signalType ∈ entryActions ↔
        closesEarly.Ready window ∧
          ∃ rule ∈ closesEarly.definition.entryRules,
            closesEarly.truth window rule = some true) ∧
      (closesEarly.Ready window →
        ∀ rule, closesEarly.firstTrue window = some rule →
          (closesEarly.generateSignal window 3600).signalType = rule.then_) := by
  refine actionable_iff closesEarly "EURUSD" twoBars 3600 fun rule found => ?_
  have known : (closesEarly.accepted (closesEarly.window "EURUSD" twoBars)).all
      (fun rule => (closesEarly.truth (closesEarly.window "EURUSD" twoBars) rule).isSome) =
        true := by
    decide +kernel
  rw [found] at known
  exact Option.isSome_iff_ne_none.mp known

/-- The exit rule fires where no entry rule is true. -/
theorem not_forall_actionable_iff :
    ¬ ∀ (s : BuiltStrategy) (candles : Candles) (now : Time),
      ((s.generateSignal candles now).signalType.isActionable = true ↔
          candles.timeframe = s.definition.timeframe ∧ s.Ready candles ∧
            ∃ rule ∈ s.definition.entryRules, s.truth candles rule = some true) ∧
        (candles.timeframe = s.definition.timeframe → s.Ready candles →
          ∀ rule, (s.definition.entryRules.find? fun rule => s.truth candles rule = some true) =
            some rule → (s.generateSignal candles now).signalType = rule.then_) ∧
        (s.Ready candles → ∀ rule, s.accepted candles = some rule →
          s.truth candles rule = some true) := by
  intro all
  have emits : (closesEarly.generateSignal (closesEarly.window "EURUSD" twoBars)
      3600).signalType.isActionable = true := by
    decide +kernel
  have entries : ∀ rule ∈ closesEarly.definition.entryRules,
      closesEarly.truth (closesEarly.window "EURUSD" twoBars) rule ≠ some true := by
    decide +kernel
  obtain ⟨-, -, rule, mem, true_⟩ :=
    (all closesEarly (closesEarly.window "EURUSD" twoBars) 3600).1.mp emits
  exact entries rule mem true_

end BuiltStrategy

end TradeResearch.Strategies
