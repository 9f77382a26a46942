import TradeResearch.Datasets.Labels
import TradeResearch.Datasets.Splits

/-!
# The dataset builder

`backend/app/datasets/builder.py`, with the checks it makes: the quality of the series (`quality.py`
and `backend/app/marketdata/validation.py`), the scaler (`scaler.py`) and the leakage report
(`leakage.py`). Left out are the fingerprint, the manifest and what a report only tells: the score,
the warnings, the gaps and the detail of a finding. Why a dataset is blocked is kept as data.

* `build_cases`: a dataset was blocked, or it is what its findings make of it.
-/

namespace TradeResearch.Datasets

open Marketdata

structure SeriesQuality where
  bars : ℕ
  invalidOhlc : ℕ
  outOfOrder : ℕ
  futureStamped : ℕ
  openEqualsCloseRate : ℚ
  deriving DecidableEq

namespace SeriesQuality

def invalidRate (q : SeriesQuality) : ℚ := if q.bars = 0 then 0 else q.invalidOhlc / q.bars

def ohlcTrustworthy (q : SeriesQuality) : Bool :=
  q.invalidRate < 5 / 1000 ∧ q.openEqualsCloseRate < 1 / 10

end SeriesQuality

def futureToleranceSeconds : ℚ := 60

def findOutOfOrder : List Time → List Time
  | previous :: current :: rest =>
    if current < previous then current :: findOutOfOrder (current :: rest)
    else findOutOfOrder (current :: rest)
  | _ => []

def openEqualsCloseRate (bars : List Bar) : ℚ :=
  if bars = [] then 0 else (bars.countP fun b => b.open_ = b.close) / bars.length

def inspectSeries (bars : List Bar) (now : Option Time) : SeriesQuality where
  bars := bars.length
  invalidOhlc := bars.countP fun b => !ohlcIsConsistent b
  outOfOrder := (findOutOfOrder (bars.map Bar.barTime)).length
  futureStamped :=
    match now with
    | some now => bars.countP fun b => futureToleranceSeconds < b.barTime - now
    | none => 0
  openEqualsCloseRate := openEqualsCloseRate bars

inductive Blocking where
  | emptySeries
  | notCandles (bars : ℕ)
  | outOfOrder (bars : ℕ)
  | futureStamped (bars : ℕ)
  deriving DecidableEq, Repr

def shapeFeatures : List Feature := [.bodyPct, .lowerWickPct, .rangePct, .upperWickPct]

structure QualityReport where
  quality : SeriesQuality
  blocking : List Blocking
  unusableFeatures : List Feature
  deriving DecidableEq

def QualityReport.usable (report : QualityReport) : Bool := report.blocking.isEmpty

def assess (bars : List Bar) (now : Option Time) : QualityReport :=
  let quality := inspectSeries bars now
  if bars.length = 0 then { quality, blocking := [.emptySeries], unusableFeatures := [] }
  else
    { quality
      blocking :=
        (if quality.invalidOhlc = 0 then [] else [.notCandles quality.invalidOhlc]) ++
        (if quality.outOfOrder = 0 then [] else [.outOfOrder quality.outOfOrder]) ++
        (if quality.futureStamped = 0 then [] else [.futureStamped quality.futureStamped])
      unusableFeatures := if quality.ohlcTrustworthy then [] else shapeFeatures }

structure DatasetConfig where
  symbol : String
  timeframe : Timeframe
  labelConfig : LabelConfig
  featureNames : List Feature := Feature.catalogue
  labelNames : List Label := Label.catalogue
  trainFraction : ℚ := 3 / 5
  validationFraction : ℚ := 1 / 5
  walkForwardFolds : ℕ := 4
  normalise : Bool := true
  features_nonempty : featureNames ≠ [] := by decide
  labels_nonempty : labelNames ≠ [] := by decide

structure DatasetRow where
  at_ : Time
  symbol : String
  timeframe : Timeframe
  features : FeatureRow
  labels : Labels
  deriving DecidableEq

structure Kept where
  index : ℕ
  row : DatasetRow
  deriving DecidableEq

inductive Drop where
  | coldStart
  | noFuture
  | incompleteFeature
  deriving DecidableEq, Repr

def decideRow (config : DatasetConfig) (names : List Feature) (total index : ℕ) (bar : Bar)
    (features : FeatureRow) (labels : LabelRow) : Except Drop Kept :=
  if index < warmupFor names then .error .coldStart
  else if !labels.isComplete config.labelNames then
    if total ≤ index + config.labelConfig.horizon then .error .noFuture
    else .error .incompleteFeature
  else if !featureRowIsComplete features names then .error .incompleteFeature
  else
    .ok ⟨index, ⟨bar.barTime, config.symbol, config.timeframe, features, labels.toLabels⟩⟩

def admissions (maths : Maths) (config : DatasetConfig) (names : List Feature) (bars : List Bar) :
    List (Except Drop Kept) :=
  let features := featureRows maths names bars
  let labels := labelRows config.labelConfig bars
  (List.range bars.length).map fun index =>
    decideRow config names bars.length index (bars.getD index default) (features.getD index [])
      (labels.getD index {})

def keptRows (maths : Maths) (config : DatasetConfig) (names : List Feature) (bars : List Bar) :
    List Kept :=
  (admissions maths config names bars).filterMap Except.toOption

def droppedFor (reason : Drop) (decided : List (Except Drop Kept)) : ℕ :=
  decided.countP fun
    | .error why => why = reason
    | .ok _ => false

inductive ScalerError where
  | emptyTraining
  | outside (stop rows : ℕ)
  | tooFew (feature : Feature) (values : ℕ)
  deriving DecidableEq, Repr

structure Scaler where
  means : List (Feature × ℚ)
  deviations : List (Feature × ℚ)
  fittedRows : Rows
  constantFeatures : List Feature
  deriving DecidableEq

def fitOne (maths : Maths) (rows : List FeatureRow) (name : Feature) :
    Except ScalerError (Feature × ℚ × ℚ) :=
  let sample := rows.filterMap fun row => (row.lookup name).getD none
  if sample.length < 2 then .error (.tooFew name sample.length)
  else
    let mean := sample.sum / sample.length
    let squares : List ℚ := sample.map fun v => (v - mean) ^ 2
    .ok (name, mean, maths.sqrt (squares.sum / (sample.length - 1)))

def fit (maths : Maths) (rows : List FeatureRow) (split : Split) (features : List Feature) :
    Except ScalerError Scaler :=
  if split.train.stop ≤ split.train.start then .error .emptyTraining
  else if rows.length < split.train.stop then .error (.outside split.train.stop rows.length)
  else do
    let training := (rows.take split.train.stop).drop split.train.start
    let fitted ← features.mapM (fitOne maths training)
    return {
      means := fitted.map fun (name, mean, _) => (name, mean)
      deviations := fitted.map fun (name, _, deviation) => (name, deviation)
      fittedRows := split.train
      constantFeatures := (fitted.filter fun (_, _, deviation) => deviation = 0).map Prod.fst }

def isClose (a b : ℚ) : Bool := |a - b| ≤ max (1 / 10 ^ 12 * max |a| |b|) (1 / 10 ^ 15)

def refitChangesNothing (maths : Maths) (scaler : Scaler) (rows : List FeatureRow) (split : Split)
    (features : List Feature) : Except ScalerError Bool := do
  let again ← fit maths rows split features
  return features.all fun name =>
    isClose ((again.means.lookup name).getD 0) ((scaler.means.lookup name).getD 0) &&
      isClose ((again.deviations.lookup name).getD 0) ((scaler.deviations.lookup name).getD 0)

inductive Check where
  | noFutureInfluence
  | labelsAreNotFeatures
  | splitsAreOrdered
  | labelsHaveAFuture
  | featureTimestampsAreCausal
  | scalerFittedOnTrainOnly
  deriving DecidableEq, Repr

structure Finding where
  check : Check
  passed : Bool
  deriving DecidableEq

def noFutureInfluence (bars : List Bar) (compute : List Bar → List FeatureRow) : Finding :=
  let boundary := bars.length * 2 / 3
  let upTo := compute (bars.take boundary)
  let whole := compute bars
  ⟨.noFutureInfluence, 6 ≤ bars.length ∧ 1 ≤ boundary ∧ boundary < bars.length ∧
    ∀ index ∈ List.range boundary, upTo[index]? = whole[index]?⟩

def labelsAreNotFeatures (features : List Feature) (labels : List Label) : Finding :=
  ⟨.labelsAreNotFeatures, ∀ f ∈ features, f.name ∉ labels.map Label.name⟩

def splitsAreOrdered (times : List Time) (split : Split) : Finding :=
  let ends (part : Rows) : Time := times.getD (part.stop - 1) 0
  let begins (part : Rows) : Time := times.getD part.start 0
  ⟨.splitsAreOrdered, (∀ part ∈ [split.train, split.validation, split.test],
      part.start < part.stop) ∧
    ends split.train < begins split.validation ∧ ends split.validation < begins split.test⟩

def labelsHaveAFuture (totalRows : ℕ) (labelledIndices : List ℕ) (horizon : ℕ) : Finding :=
  ⟨.labelsHaveAFuture, ∀ i ∈ labelledIndices, (i : ℤ) ≤ totalRows - horizon - 1⟩

def featureTimestampsAreCausal (rowTimes barTimes : List Time) : Finding :=
  ⟨.featureTimestampsAreCausal, rowTimes = barTimes⟩

def scalerFittedOnTrainOnly (maths : Maths) (scaler : Scaler) (rows : List FeatureRow)
    (split : Split) (features : List Feature) : Except ScalerError Finding :=
  if scaler.fittedRows ≠ split.train then .ok ⟨.scalerFittedOnTrainOnly, false⟩
  else do
    let unmoved ← refitChangesNothing maths scaler rows split features
    return ⟨.scalerFittedOnTrainOnly, unmoved⟩

inductive DatasetStatus where
  | raw
  | clean
  | ready
  deriving DecidableEq, Repr

inductive BlockedReason where
  | quality (blocking : List Blocking)
  | nothingLeft
  | tooSmall (rows : ℕ)
  | split (e : SplitError)
  | leaked (checks : List Check)
  deriving DecidableEq, Repr

structure Dataset where
  rows : List DatasetRow
  split : Option Split
  folds : List Fold
  scaler : Option Scaler
  quality : QualityReport
  leakage : List Finding
  status : DatasetStatus
  dropped : Drop → ℕ := fun _ => 0
  blockedReason : Option BlockedReason

def blocked (report : QualityReport) (reason : BlockedReason) (status : DatasetStatus)
    (dropped : Drop → ℕ := fun _ => 0) : Dataset where
  rows := []
  split := none
  folds := []
  scaler := none
  quality := report
  leakage := []
  status := status
  dropped := dropped
  blockedReason := some reason

def usableNames (bars : List Bar) (config : DatasetConfig) (now : Option Time) : List Feature :=
  config.featureNames.filter (· ∉ (assess bars now).unusableFeatures)

def cut (config : DatasetConfig) (times : List Time) : Except SplitError (Split × List Fold) := do
  let split ← chronological times config.trainFraction config.validationFraction
  let folds ← walkForward times config.walkForwardFolds defaultInitialTrain
  return (split, folds)

def scalerOf (maths : Maths) (config : DatasetConfig) (rows : List FeatureRow) (split : Split)
    (names : List Feature) : Except ScalerError (Option Scaler) :=
  if config.normalise then (fit maths rows split names).map some else .ok none

def audit (maths : Maths) (config : DatasetConfig) (names : List Feature) (bars : List Bar)
    (kept : List Kept) (split : Split) (scaler : Option Scaler) :
    Except ScalerError (List Finding) := do
  let times := kept.map fun k => k.row.at_
  let findings := [
    noFutureInfluence bars (featureRows maths names),
    labelsAreNotFeatures names config.labelNames,
    splitsAreOrdered times split,
    labelsHaveAFuture bars.length (kept.map Kept.index) config.labelConfig.horizon,
    featureTimestampsAreCausal times
      (kept.map fun k => (bars.getD k.index default).barTime)]
  match scaler with
  | none => return findings
  | some scaler =>
    let rows := kept.map fun k => k.row.features
    return findings ++ [← scalerFittedOnTrainOnly maths scaler rows split names]

def build (maths : Maths) (bars : List Bar) (config : DatasetConfig) (now : Option Time) :
    Except ScalerError Dataset :=
  let report := assess bars now
  let names := usableNames bars config now
  if !report.usable then .ok (blocked report (.quality report.blocking) .raw)
  else if names = [] then .ok (blocked report .nothingLeft .clean)
  else
    let decided := admissions maths config names bars
    let kept := keptRows maths config names bars
    let dropped (reason : Drop) : ℕ := droppedFor reason decided
    if kept.length < 10 then .ok (blocked report (.tooSmall kept.length) .clean dropped)
    else
      match cut config (kept.map fun k => k.row.at_) with
      | .error e => .ok (blocked report (.split e) .clean dropped)
      | .ok (split, folds) => do
        let scaler ← scalerOf maths config (kept.map fun k => k.row.features) split names
        let findings ← audit maths config names bars kept split scaler
        let passed := findings.all Finding.passed
        return {
          rows := kept.map Kept.row
          split := some split
          folds
          scaler
          quality := report
          leakage := findings
          status := if passed then .ready else .clean
          dropped
          blockedReason :=
            if passed then none
            else some (.leaked ((findings.filter fun f => !f.passed).map Finding.check)) }

structure Reached (maths : Maths) (config : DatasetConfig) (names : List Feature) (bars : List Bar)
    (split : Split) (folds : List Fold) (scaler : Option Scaler) (findings : List Finding) :
    Prop where
  enough : 10 ≤ (keptRows maths config names bars).length
  cut : cut config ((keptRows maths config names bars).map fun k => k.row.at_) = .ok (split, folds)
  fitted : scalerOf maths config ((keptRows maths config names bars).map fun k => k.row.features)
    split names = .ok scaler
  audited : audit maths config names bars (keptRows maths config names bars) split scaler =
    .ok findings

theorem build_cases {maths : Maths} {bars : List Bar} {config : DatasetConfig} {now : Option Time}
    {d : Dataset} (built : build maths bars config now = .ok d) :
    (∃ reason status dropped, status ≠ DatasetStatus.ready ∧
      d = blocked (assess bars now) reason status dropped) ∨
    ∃ split folds scaler findings,
      ((assess bars now).usable = true ∧
        Reached maths config (usableNames bars config now) bars split folds scaler findings) ∧
      d =
        { rows := (keptRows maths config (usableNames bars config now) bars).map Kept.row
          split := some split
          folds
          scaler
          quality := assess bars now
          leakage := findings
          status := if findings.all Finding.passed then .ready else .clean
          dropped := fun reason =>
            droppedFor reason (admissions maths config (usableNames bars config now) bars)
          blockedReason :=
            if findings.all Finding.passed then none
            else some (.leaked ((findings.filter fun f => !f.passed).map Finding.check)) } := by
  unfold build at built
  dsimp only at built
  split_ifs at built with unusable nothing few
  · cases built
    exact .inl ⟨_, _, _, by decide, rfl⟩
  · cases built
    exact .inl ⟨_, _, _, by decide, rfl⟩
  · cases built
    exact .inl ⟨_, _, _, by decide, rfl⟩
  · have usable : (assess bars now).usable = true := by
      cases known : (assess bars now).usable with
      | true => rfl
      | false => exact absurd (by rw [known]; rfl) unusable
    split at built
    · cases built
      exact .inl ⟨_, _, _, by decide, rfl⟩
    · next split folds cut_ =>
      cases fitted : scalerOf maths config ((keptRows maths config (usableNames bars config now)
          bars).map fun k => k.row.features) split (usableNames bars config now) with
      | error e =>
        rw [fitted] at built
        cases built
      | ok scaler =>
        rw [fitted] at built
        dsimp only [bind, Except.bind] at built
        cases audited : audit maths config (usableNames bars config now) bars
            (keptRows maths config (usableNames bars config now) bars) split scaler with
        | error e =>
          rw [audited] at built
          cases built
        | ok findings =>
          rw [audited] at built
          cases built
          exact .inr ⟨split, folds, scaler, findings,
            ⟨usable, Nat.le_of_not_lt few, cut_, fitted, audited⟩, rfl⟩

end TradeResearch.Datasets
