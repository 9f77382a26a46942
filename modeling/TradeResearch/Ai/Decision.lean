import Mathlib.Algebra.Order.Field.Rat
import Mathlib.Tactic.NormNum
import TradeResearch.Marketdata.Types

/-!
# What the AI layer is asked and may answer

`backend/app/ai/decision.py`: the modes, the failure policy, the bars a prediction must clear, the
signal that is asked about and the decision. A value that its constructor refuses cannot be built
here: the checks of a configuration are fields, and `Answer.make` is the constructor of a decision.
Of a signal the prices and the metadata are left out, of a configuration its notes.

* `Answer.make_eq_ok`: the decisions the constructor lets through.
-/

namespace TradeResearch.Ai.Integration

inductive Number where
  | nan
  | inf (negative : Bool)
  | real (q : ℚ)
  deriving DecidableEq

namespace Number

def le : Number → Number → Bool
  | nan, _ => false
  | _, nan => false
  | inf true, _ => true
  | _, inf false => true
  | real a, real b => decide (a ≤ b)
  | _, _ => false

def lt (a b : Number) : Bool := a.le b && !b.le a

def inUnit (x : Number) : Bool := (real 0).le x && x.le (real 1)

def text : Number → Text
  | nan => Text.lit "nan"
  | inf negative => Text.lit (if negative then "-inf" else "inf")
  | real q => Text.num q

@[simp] theorem le_real {a b : ℚ} : (real a).le (real b) = decide (a ≤ b) := rfl

@[simp] theorem lt_real {a b : ℚ} : (real a).lt (real b) = decide (a < b) := by
  unfold lt
  by_cases less : a < b
  · simp [less, less.le]
  · by_cases equal : b ≤ a
    · simp [less, equal]
    · exact absurd (lt_of_not_ge equal) less

theorem exists_of_inUnit {x : Number} (unit : x.inUnit = true) :
    ∃ q : ℚ, x = real q ∧ 0 ≤ q ∧ q ≤ 1 := by
  unfold inUnit at unit
  rw [Bool.and_eq_true] at unit
  cases x with
  | nan => cases unit.1
  | inf negative =>
    cases negative with
    | true => cases unit.1
    | false => cases unit.2
  | real q =>
    rw [le_real, le_real, decide_eq_true_iff, decide_eq_true_iff] at unit
    exact ⟨q, rfl, unit⟩

end Number

abbrev Share : Type := {q : ℚ // 0 ≤ q ∧ q ≤ 1}

inductive Base where
  | integrationError
  | modelError
  | otherError
  | exit
  deriving DecidableEq, Repr

structure Exn where
  base : Base
  kind : String
  text : Text

def integrationError (text : Text) : Exn := ⟨.integrationError, "AiIntegrationError", text⟩

@[simp] theorem integrationError_base (text : Text) :
    (integrationError text).base = .integrationError := rfl

inductive AiMode where
  | disabled
  | advisory
  | filter
  | scoring
  deriving DecidableEq, Repr

def AiMode.name : AiMode → String
  | disabled => "AI_DISABLED"
  | advisory => "AI_ADVISORY"
  | filter => "AI_FILTER"
  | scoring => "AI_SCORING"

def AiMode.runsInference (mode : AiMode) : Bool := mode ≠ disabled

def AiMode.canReject (mode : AiMode) : Bool := mode = filter ∨ mode = scoring

inductive AiPolicy where
  | required
  | optional
  deriving DecidableEq, Repr

inductive Decision where
  | accept
  | reject
  | neutral
  | error
  deriving DecidableEq, Repr

inductive ScoringMethod where
  | minimum
  | weighted
  | product
  deriving DecidableEq, Repr

structure AiThresholds where
  minimumProbability : Share := ⟨1 / 2, by norm_num⟩
  maximumAnomalyScore : Option Share := none
  allowedRegimes : List String := []
  minimumExpectedReturn : Option Number := none
  maximumLatencyMs : Number := .real 2000
  scoringMethod : ScoringMethod := .minimum
  aiWeight : Share := ⟨1 / 2, by norm_num⟩
  minimumCombinedScore : Share := ⟨1 / 2, by norm_num⟩
  budgeted : maximumLatencyMs.le (.real 0) = false := by simp

structure ModelRequirement where
  key : String
  version : String
  optional : Bool := false
  named : key ≠ "" ∧ version ≠ "" := by decide

structure AiStrategyConfig where
  strategyKey : String
  mode : AiMode := .disabled
  policy : AiPolicy := .optional
  models : List ModelRequirement := []
  thresholds : AiThresholds := {}
  featureVersion : String := ""
  named : strategyKey ≠ "" := by decide
  asks : mode.runsInference = true → ∃ r ∈ models, r.optional = false
  once : (models.map fun r => (r.key, r.version)).Nodup

inductive Supplied where
  | bar (b : Marketdata.Bar)
  | other

structure SignalContext where
  strategyKey : String
  symbol : String
  timeframe : String
  barTime : Time
  side : String
  strategyScore : Option Number := none
  bars : List Supplied := []

abbrev Record : Type := List (String × Text)

structure Answer where
  decision : Decision
  mode : AiMode
  policy : AiPolicy
  reason : Text
  at_ : Time
  status : String := "OK"
  modelKey : Option String := none
  modelVersion : Option String := none
  modelVersionId : Option String := none
  featureVersion : Option String := none
  probability : Option Number := none
  predictedClass : Option String := none
  regime : Option String := none
  anomalyScore : Option Number := none
  expectedReturn : Option Number := none
  confidence : Option Number := none
  strategyScore : Option Number := none
  combinedScore : Option Number := none
  featureLatencyMs : Option ℚ := none
  inferenceLatencyMs : Option ℚ := none
  totalLatencyMs : Option ℚ := none
  predictions : List Record := []
  explanation : List Record := []

structure Answer.Valid (a : Answer) : Prop where
  probability : ∀ p, a.probability = some p → p.inUnit = true
  anomaly : ∀ x, a.anomalyScore = some x → x.inUnit = true
  silent : a.decision = .error → a.probability = none

structure AiDecision extends Answer where
  valid : toAnswer.Valid

def Answer.make (a : Answer) : Except Exn AiDecision :=
  if probable : ∃ p ∈ a.probability, p.inUnit = false then
    .error (integrationError (Text.lit "a probability of " ++
      (a.probability.map Number.text).getD [] ++ Text.lit (" is not a probability. An " ++
        "out-of-range output is an inference ERROR, never a very confident prediction.")))
  else if scored : ∃ x ∈ a.anomalyScore, x.inUnit = false then
    .error (integrationError (Text.lit "an anomaly score of " ++
      (a.anomalyScore.map Number.text).getD [] ++ Text.lit " is out of range"))
  else if answered : a.decision = .error ∧ a.probability ≠ none then
    .error (integrationError (Text.lit ("an ERROR decision carries no probability. A failed " ++
      "inference that reports a number is the shape a fabricated result takes.")))
  else
    .ok
      { a with
        valid :=
          { probability := fun p is => by
              by_contra out
              exact probable ⟨p, is, Bool.eq_false_of_not_eq_true out⟩
            anomaly := fun x is => by
              by_contra out
              exact scored ⟨x, is, Bool.eq_false_of_not_eq_true out⟩
            silent := fun failed => by
              by_contra some
              exact answered ⟨failed, some⟩ } }

theorem Answer.make_eq_ok {a : Answer} (valid : a.Valid) : a.make = .ok { a with valid } := by
  unfold make
  rw [dif_neg, dif_neg, dif_neg]
  · rintro ⟨failed, answered⟩
    exact answered (valid.silent failed)
  · rintro ⟨x, is, out⟩
    rw [valid.anomaly x is] at out
    cases out
  · rintro ⟨p, is, out⟩
    rw [valid.probability p is] at out
    cases out

def disabledDecision (now : Time) : Except Exn AiDecision :=
  Answer.make
    { decision := .accept
      mode := .disabled
      policy := .optional
      status := "DISABLED"
      at_ := now
      reason := Text.lit ("AI_DISABLED: no inference ran. The strategy behaves exactly as the " ++
        "deterministic strategy would, which is the baseline every comparison needs.") }

def combine (method : ScoringMethod) (strategyScore aiScore : Number) (aiWeight : Share) :
    Except Exn Number :=
  if strategyScore.inUnit = false then
    .error (integrationError (Text.lit "a strategy score must be in [0, 1], not " ++
      strategyScore.text))
  else if aiScore.inUnit = false then
    .error (integrationError (Text.lit "an AI score must be in [0, 1], not " ++ aiScore.text))
  else
    match strategyScore, aiScore with
    | .real strategy, .real ai =>
      .ok <| .real <|
        match method with
        | .minimum => min strategy ai
        | .weighted => (1 - aiWeight) * strategy + aiWeight * ai
        | .product => strategy * ai
    -- nothing else is between zero and one
    | _, _ => .ok .nan

end TradeResearch.Ai.Integration
