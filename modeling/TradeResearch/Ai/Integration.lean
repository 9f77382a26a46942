import Mathlib.Data.List.Dedup
import Mathlib.Data.String.Basic
import TradeResearch.Ai.Decision
import TradeResearch.Datasets.Features

/-!
# The AI pipeline

`backend/app/ai/integration.py`: a signal in, a decision out. The models a resolver gives are asked
for what they read at the bar of the signal, and the mode makes a decision of it; where a stage
fails, the failure policy does. A model answers or raises as it likes, `perf` is the clock the
stages are timed by, in the order it is read, and `rounded` is Python's `round`, with the number of
places first. What is logged is left out.

* `gather` is the stages before the mode, `applyMode` the mode and `failed` the policy.
* `evaluate` is one signal, one decision.
-/

namespace TradeResearch.Ai.Integration

open Datasets

def featureSetVersion : String := "1.0"

def probabilityKeys : List String := ["trade_probability"]

def regimeKeys : List String := ["regime"]

def anomalyKeys : List String := ["anomaly"]

inductive PredictionStatus where
  | ok
  | insufficientData
  | modelInputError
  | featureVersionMismatch
  | staleFeatures
  | modelUnavailable
  deriving DecidableEq, Repr

def PredictionStatus.name : PredictionStatus → String
  | ok => "OK"
  | insufficientData => "INSUFFICIENT_DATA"
  | modelInputError => "MODEL_INPUT_ERROR"
  | featureVersionMismatch => "FEATURE_VERSION_MISMATCH"
  | staleFeatures => "STALE_FEATURES"
  | modelUnavailable => "MODEL_UNAVAILABLE"

structure Prediction where
  status : PredictionStatus := .ok
  value : Option String := none
  probability : Option Number := none
  confidence : Option Number := none
  detail : Text := []
  asDict : Except Exn Record := .ok []

structure FeatureContract where
  features : List String
  featureVersion : String
  compatibleFeatureVersions : List String := []

def FeatureContract.acceptsVersion (contract : FeatureContract) (version : String) : Bool :=
  version = contract.featureVersion ∨ version ∈ contract.compatibleFeatureVersions

structure Asked where
  at_ : Time
  symbol : String
  timeframe : String
  featureVersion : String

structure Model where
  key : String
  version : String
  contract : FeatureContract
  fitted : Except Exn Bool
  predict : FeatureRow → Asked → Except Exn Prediction
  explanation : FeatureRow → Except Exn (List Record) := fun _ => .ok []

def Model.label (m : Model) : Text := Text.lit s!"{m.key} v{m.version}"

structure Service where
  resolve : ModelRequirement → Except Exn Model
  maths : Maths
  perf : ℕ → ℚ
  now : Time
  rounded : ℕ → ℚ → ℚ

def barsAreCausal (c : SignalContext) : Option Text :=
  match c.bars.getLast? with
  | none => some (Text.lit
      "no bars were supplied, so no feature can be computed. Nothing is substituted.")
  | some .other => some (Text.lit
      "the supplied bars carry no bar_time, so causality cannot be checked")
  | some (.bar last) =>
    if c.barTime < last.barTime then
      some (Text.lit "the last supplied bar closes at " ++ [.time last.barTime] ++
        Text.lit ", after the signal's own bar time " ++ [.time c.barTime] ++
        Text.lit (". Refused rather than trimmed: a silently trimmed window is a look-ahead " ++
          "bug that leaves no trace."))
    else none

def AiStrategyConfig.version (g : AiStrategyConfig) : String :=
  if g.featureVersion = "" then featureSetVersion else g.featureVersion

def known : List String := Feature.catalogue.map Feature.name

def compatibility (m : Model) (g : AiStrategyConfig) : Except Exn (Option Text) := do
  let fitted ← m.fitted
  if fitted = false then
    return some (m.label ++ Text.lit (" has no fitted parameters. An unfitted model answers " ++
      "MODEL_UNAVAILABLE rather than a default."))
  else if m.contract.acceptsVersion g.version = false then
    return some (m.label ++ Text.lit (s!" was fitted against feature set " ++
      s!"{m.contract.featureVersion} and this strategy supplies {g.version}. Section 15: a " ++
      "model run on features it was not fitted on is being asked about a different quantity."))
  else
    match m.contract.features.filter fun name => name ∉ known with
    | [] => return none
    | unknown =>
      return some (Text.lit (s!"{m.key} requires {commaList unknown}, which this " ++
        "platform's feature engine does not compute. Refused rather than filled with nulls."))

def predictionIsUsable (p : Prediction) : Option Text :=
  if p.probability = some .nan then
    some (Text.lit "the model returned NaN as a probability")
  else if ∃ x ∈ p.probability, x.inUnit = false then
    some (Text.lit "the model returned " ++ (p.probability.map Number.text).getD [] ++
      Text.lit (" as a probability. Out of range is an inference ERROR, never a very confident " ++
        "prediction, and it is not clamped into range."))
  else if ∃ x ∈ p.confidence, x.inUnit = false then
    some (Text.lit "the model returned " ++ (p.confidence.map Number.text).getD [] ++
      Text.lit " as a confidence, which is out of range")
  else if p.status = .ok ∧ p.value = none ∧ p.probability = none then
    some (Text.lit "the model reported OK and returned neither a value nor a probability")
  else none

def Supplied.bar? : Supplied → Option Marketdata.Bar
  | .bar b => some b
  | .other => none

def reading (row : FeatureRow) (name : String) : Option ℚ :=
  (row.find? fun entry => entry.1.name = name).bind Prod.snd

def featureError : FeatureError → Exn
  | .unknown name => ⟨.otherError, "FeatureError", Text.lit name⟩

def rowsOf (maths : Maths) (c : SignalContext) (names : List String) :
    Except Exn (List FeatureRow) :=
  match names.mapM specFor, c.bars.mapM Supplied.bar? with
  | .error e, _ => .error (featureError e)
  | .ok _, none => .error ⟨.otherError, "AttributeError", Text.lit "open"⟩
  | .ok wanted, some bars => .ok (featureRows maths wanted bars)

def featuresAtSignal (maths : Maths) (c : SignalContext) (names : List String) :
    Except Exn FeatureRow := do
  let rows ← rowsOf maths c names
  match rows.getLast? with
  | none => .error (integrationError (Text.lit
      "the feature engine produced no rows for this window"))
  | some row =>
    match (names.filter fun name => (reading row name).isNone).insertionSort (· ≤ ·) with
    | [] => .ok row
    | missing => .error (integrationError (
        Text.lit s!"{commaList missing} could not be computed from " ++
        Text.num c.bars.length ++ Text.lit " bars (this feature set needs a " ++
        Text.num (warmupFor (names.filterMap fun name => (specFor name).toOption)) ++
        Text.lit ("-bar warm-up). Nothing is substituted: a feature filled with a default is a " ++
          "number the model will treat as a reading.")))

inductive Stop where
  | failed (status : String) (why : Text) (reading : ℕ) (predictions : List Record)
  | raised (exn : Exn) (reading : ℕ)

structure Readings where
  probability : Option Number := none
  predictedClass : Option String := none
  regime : Option String := none
  anomalyScore : Option Number := none
  confidence : Option Number := none
  modelKey : Option String := none
  modelVersion : Option String := none

def Readings.take (r : Readings) (m : Model) (p : Prediction) : Readings :=
  if m.key ∈ probabilityKeys then
    { r with
      probability := p.probability
      predictedClass := p.value
      confidence := p.confidence
      modelKey := some m.key
      modelVersion := some m.version }
  else if m.key ∈ regimeKeys then { r with regime := p.value }
  else if m.key ∈ anomalyKeys then { r with anomalyScore := p.confidence }
  else r

def Readings.absorb (r : Readings) (m : Model) (p : Prediction) : Readings :=
  if (r.take m p).modelKey = none then
    { r.take m p with modelKey := some m.key, modelVersion := some m.version }
  else r.take m p

structure Said where
  readings : Readings := {}
  records : List Record := []
  explanation : List Record := []

section Stages

variable (s : Service) (c : SignalContext) (g : AiStrategyConfig)

def resolveOne (r : ModelRequirement) : Except Stop (Option Model) :=
  match s.resolve r with
  | .error exn =>
    if exn.base ≠ .integrationError then .error (.raised exn 1)
    else if r.optional then .ok none
    else .error (.failed "MODEL_UNAVAILABLE" exn.text 1 [])
  | .ok m =>
    match compatibility m g with
    | .error exn => .error (.raised exn 1)
    | .ok none => .ok (some m)
    | .ok (some why) =>
      if r.optional then .ok none else .error (.failed "INCOMPATIBLE" why 1 [])

def resolveNext (resolved : List (ModelRequirement × Model)) (r : ModelRequirement) :
    Except Stop (List (ModelRequirement × Model)) := do
  let m ← resolveOne s g r
  return resolved ++ (m.map fun m => (r, m)).toList

def wanted (asked : List (ModelRequirement × Model)) : List String :=
  (asked.flatMap fun x => x.2.contract.features).dedup.insertionSort (· ≤ ·)

def keywords : Asked :=
  { at_ := c.barTime, symbol := c.symbol, timeframe := c.timeframe, featureVersion := g.version }

def explained (row : FeatureRow) (m : Model) (before : List Record) : Except Exn (List Record) :=
  if m.key ∈ probabilityKeys then m.explanation row else .ok before

def listen (row : FeatureRow) (said : Said) (r : ModelRequirement) (m : Model) (p : Prediction)
    (records : List Record) : Except Stop Said :=
  if p.status ≠ .ok then
    if r.optional then .ok { said with records }
    else .error (.failed p.status.name (m.label ++ Text.lit ": " ++ p.detail) 4 records)
  else
    match predictionIsUsable p with
    | some why => .error (.failed "INVALID_OUTPUT" why 4 records)
    | none =>
      match explained row m said.explanation with
      | .error exn => .error (.raised exn 4)
      | .ok explanation =>
        .ok { readings := said.readings.absorb m p, records, explanation }

def ask (row : FeatureRow) (said : Said) (x : ModelRequirement × Model) : Except Stop Said :=
  match x.2.predict row (keywords c g) with
  | .error exn =>
    if exn.base = .modelError then
      .error (.failed "INVALID_OUTPUT" (x.2.label ++ Text.lit ": " ++ exn.text) 4 said.records)
    else .error (.raised exn 4)
  | .ok p =>
    match p.asDict with
    | .error exn => .error (.raised exn 4)
    | .ok record => listen row said x.1 x.2 p (said.records ++ [record])

def elapsedMs (reading : ℕ) : ℚ := (s.perf reading - s.perf 0) * 1000

def features (asked : List (ModelRequirement × Model)) : Except Stop FeatureRow :=
  match featuresAtSignal s.maths c (wanted asked) with
  | .ok row => .ok row
  | .error exn =>
    if exn.base = .integrationError then .error (.failed "FEATURES_UNAVAILABLE" exn.text 2 [])
    else .error (.raised exn 2)

def answered (said : Said) : Except Stop Said :=
  if g.thresholds.maximumLatencyMs.lt (.real (elapsedMs s 5)) then
    .error (.failed "LATENCY_EXCEEDED"
      (Text.lit "AI inference took " ++ Text.num (elapsedMs s 5) ++
        Text.lit "ms against a budget of " ++ g.thresholds.maximumLatencyMs.text ++ Text.lit "ms")
      5 said.records)
  else if said.readings.probability = none ∧ g.mode.canReject then
    .error (.failed "NO_PROBABILITY"
      (Text.lit (s!"mode {g.mode.name} decides on a probability and no resolved model produced " ++
        "one. A regime label is not a probability and is not substituted for one."))
      5 said.records)
  else .ok said

def gather : Except Stop Said :=
  match barsAreCausal c with
  | some problem => .error (.failed "LOOKAHEAD_REFUSED" problem 1 [])
  | none => do
    let asked ← g.models.foldlM (resolveNext s g) []
    if asked = [] then
      .error (.failed "MODEL_UNAVAILABLE"
        (Text.lit "no model this strategy declares could be resolved") 1 [])
    else do
      let row ← features s c asked
      let said ← asked.foldlM (ask c g row) {}
      answered s g said

def contextGates (r : Readings) (t : AiThresholds) : Option Text :=
  if t.allowedRegimes ≠ [] ∧ ∃ regime ∈ r.regime, regime ∉ t.allowedRegimes then
    some (Text.lit (s!"the regime model reports {nameOrEmpty r.regime}, which is not in the " ++
      s!"configured {commaList t.allowedRegimes}. A probability estimated in one " ++
      "regime is not evidence about another."))
  else if ∃ most ∈ t.maximumAnomalyScore, ∃ score ∈ r.anomalyScore, (Number.real most).lt score then
    some (Text.lit "the anomaly score is " ++ (r.anomalyScore.map Number.text).getD [] ++
      Text.lit ", above the configured " ++ Text.num? (t.maximumAnomalyScore.map Subtype.val) ++
      Text.lit (". A rare bar is not a bad bar; this gate says the model's training window does " ++
        "not describe it."))
  else none

def describe (r : Readings) : Text :=
  let parts : List Text :=
    (r.probability.map fun p => Text.lit "probability " ++ p.text).toList ++
      (r.regime.map fun regime => Text.lit s!"regime {regime}").toList ++
      (r.anomalyScore.map fun x => Text.lit "anomaly " ++ x.text).toList
  if parts = [] then [] else Text.join ", " parts ++ Text.lit ". "

def formula (method : ScoringMethod) (weight : ℚ) : Text :=
  match method with
  | .minimum => Text.lit "min(strategy, ai)"
  | .weighted => Text.num (1 - weight) ++ Text.lit "*strategy + " ++ Text.num weight ++
      Text.lit "*ai"
  | .product => Text.lit "strategy * ai"

abbrev Outcome : Type := Decision × Text × Option Number

def filterOn (r : Readings) (probability : Number) : Outcome :=
  let least : ℚ := g.thresholds.minimumProbability
  if probability.lt (.real least) then
    (.reject, describe r ++ Text.lit "AI_FILTER: probability " ++ probability.text ++
      Text.lit " is below the configured minimum " ++ Text.num least ++
      Text.lit (". This is a filter, not a size -- the risk engine and the sizing engine are " ++
        "unchanged."), none)
  else
    (.accept, describe r ++ Text.lit "AI_FILTER: probability " ++ probability.text ++
      Text.lit " clears the minimum " ++ Text.num least ++
      Text.lit ". Advisory only; the risk engine still decides.", none)

def scoreOn (r : Readings) (probability strategyScore : Number) : Except Exn Outcome := do
  let t := g.thresholds
  let least : ℚ := t.minimumCombinedScore
  let combined ← combine t.scoringMethod strategyScore probability t.aiWeight
  let method := formula t.scoringMethod t.aiWeight
  if combined.lt (.real least) then
    return (.reject, describe r ++ Text.lit "AI_SCORING: " ++ method ++ Text.lit " gives " ++
      combined.text ++ Text.lit " from strategy " ++ strategyScore.text ++ Text.lit " and AI " ++
      probability.text ++ Text.lit ", below the configured minimum " ++ Text.num least ++
      Text.lit ".", some combined)
  else
    return (.accept, describe r ++ Text.lit "AI_SCORING: " ++ method ++ Text.lit " gives " ++
      combined.text ++ Text.lit ", clearing " ++ Text.num least ++
      Text.lit (". The combined score is a filter and not a size: nothing downstream reads it " ++
        "as risk."), some combined)

def applyMode (r : Readings) : Except Exn Outcome :=
  if g.mode = .advisory then
    .ok (.neutral, describe r ++ Text.lit (" AI_ADVISORY: recorded, and the signal is " ++
      "unchanged. The strategy's own decision stands."), none)
  else
    match contextGates r g.thresholds, r.probability with
    | some gate, _ => .ok (.reject, describe r ++ gate, none)
    | none, none => .error ⟨.otherError, "AssertionError", []⟩
    | none, some probability =>
      if g.mode = .filter then .ok (filterOn g r probability)
      else
        match c.strategyScore with
        | none => .ok (.reject, describe r ++ Text.lit ("AI_SCORING: this strategy supplied no " ++
            "score of its own, so there is nothing to combine. Refused rather than scored on " ++
            "the AI alone, which would be a different mode wearing this one's name."), none)
        | some strategyScore => scoreOn g r probability strategyScore

def decided (said : Said) (outcome : Outcome) : Answer :=
  { decision := outcome.1
    mode := g.mode
    policy := g.policy
    reason := outcome.2.1
    at_ := s.now
    status := "OK"
    modelKey := said.readings.modelKey
    modelVersion := said.readings.modelVersion
    featureVersion := some g.version
    probability := said.readings.probability
    predictedClass := said.readings.predictedClass
    regime := said.readings.regime
    anomalyScore := said.readings.anomalyScore
    confidence := said.readings.confidence
    strategyScore := c.strategyScore
    combinedScore := outcome.2.2
    featureLatencyMs := some (s.rounded 3 ((s.perf 2 - s.perf 1) * 1000))
    inferenceLatencyMs := some (s.rounded 3 ((s.perf 4 - s.perf 3) * 1000))
    totalLatencyMs := some (s.rounded 3 (elapsedMs s 5))
    predictions := said.records
    explanation := said.explanation }

def AiPolicy.answer : AiPolicy → Decision
  | required => .reject
  | optional => .accept

def AiPolicy.reason (why : Text) : AiPolicy → Text
  | required => Text.lit "AI_REQUIRED and the AI layer could not answer (" ++ why ++
      Text.lit "). No trade. A model that could not answer is not a model that agreed."
  | optional => Text.lit "AI_OPTIONAL and the AI layer could not answer (" ++ why ++
      Text.lit ("). The signal proceeds to the risk engine, which is unchanged and still " ++
        "authoritative.")

def failed (status : String) (why : Text) (reading : ℕ) (predictions : List Record) :
    Except Exn AiDecision :=
  Answer.make
    { decision := g.policy.answer
      mode := g.mode
      policy := g.policy
      reason := g.policy.reason why
      at_ := s.now
      status
      featureVersion := some g.version
      strategyScore := c.strategyScore
      totalLatencyMs := some (s.rounded 3 (elapsedMs s reading))
      predictions }

def conclude (said : Said) : Except Exn AiDecision := do
  let outcome ← applyMode c g said.readings
  (decided s c g said outcome).make

def handle (exn : Exn) (reading : ℕ) : Except Exn AiDecision :=
  if exn.base = .exit then .error exn
  else failed s c g "PIPELINE_ERROR"
    (Text.take 300 (Text.lit exn.kind ++ Text.lit ": " ++ exn.text)) reading []

def evaluateStages : Except (Exn × ℕ) AiDecision :=
  match gather s c g with
  | .ok said => (conclude s c g said).mapError fun exn => (exn, 6)
  | .error (.failed status why reading predictions) =>
    (failed s c g status why reading predictions).mapError fun exn => (exn, reading + 1)
  | .error (.raised exn reading) => .error (exn, reading)

def evaluate : Except Exn AiDecision :=
  if g.mode = .disabled then disabledDecision s.now
  else
    match evaluateStages s c g with
    | .ok d => .ok d
    | .error raised => handle s c g raised.1 raised.2

end Stages

end TradeResearch.Ai.Integration
