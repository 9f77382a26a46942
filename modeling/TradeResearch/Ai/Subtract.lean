import TradeResearch.Ai.Readings
import TradeResearch.Backtest.AiFilter

/-!
# AI can only subtract

What a decision of the AI layer may be trusted for, and when it may be.

* `Subtractive` is what is asked of a decision, and `Conducted` when the pipeline gives one.
* `evaluate_cases`: the three ends of an evaluation.
* `subtractive_iff_conducted`: the two agree, and the filter over a signal vector only takes away.
-/

namespace TradeResearch.Ai.Integration

open Datasets

def Scored (g : AiStrategyConfig) (d : AiDecision) : Prop :=
  match g.mode with
  | .filter => ∃ p, d.probability = some p ∧ (Number.real g.thresholds.minimumProbability).le p
  | _ => ∃ x, d.combinedScore = some x ∧ (Number.real g.thresholds.minimumCombinedScore).le x

structure Cleared (g : AiStrategyConfig) (d : AiDecision) : Prop where
  scored : Scored g d
  regime : g.thresholds.allowedRegimes ≠ [] →
    ∃ regime ∈ g.thresholds.allowedRegimes, d.regime = some regime
  anomaly : ∀ most, g.thresholds.maximumAnomalyScore = some most →
    ∃ score, d.anomalyScore = some score ∧ score.le (.real most)
  expected : ∀ least, g.thresholds.minimumExpectedReturn = some least →
    ∃ x, d.expectedReturn = some x ∧ least.le x

structure Timely (c : SignalContext) : Prop where
  past : ∀ bar, Supplied.bar bar ∈ c.bars → bar.barTime ≤ c.barTime
  own : ∃ bar, c.bars.getLast? = some (.bar bar) ∧ bar.barTime = c.barTime

structure Subtractive (c : SignalContext) (g : AiStrategyConfig) (d : AiDecision) : Prop where
  accepted : g.mode.canReject = true → d.status = "OK" → d.decision = .accept →
    Cleared g d ∧ Timely c
  failed : d.status ≠ "OK" → d.status ≠ "DISABLED" →
    d.decision = g.policy.answer ∨ g.mode.canReject = false
  harmless : g.mode.canReject = false → d.decision ≠ .reject

def Passes (c : SignalContext) (g : AiStrategyConfig) (r : Readings) : Prop :=
  contextGates r g.thresholds = none ∧ ∃ probability, r.probability = some probability ∧
    (g.mode = .filter ∧ probability.lt (.real g.thresholds.minimumProbability) = false ∨
      g.mode ≠ .filter ∧ ∃ strategyScore combined, c.strategyScore = some strategyScore ∧
        combine g.thresholds.scoringMethod strategyScore probability g.thresholds.aiWeight =
          .ok combined ∧
        combined.lt (.real g.thresholds.minimumCombinedScore) = false)

structure Grounded (g : AiStrategyConfig) (r : Readings) : Prop where
  regime : g.thresholds.allowedRegimes ≠ [] → r.regime ≠ none
  anomaly : g.thresholds.maximumAnomalyScore ≠ none → r.anomalyScore ≠ none
  expected : g.thresholds.minimumExpectedReturn = none

structure Conducted (s : Service) (c : SignalContext) (g : AiStrategyConfig) : Prop where
  stays : g.mode ≠ .disabled → ¬ Exits s c g
  advised : g.mode = .advisory → g.policy = .required → ∃ row, Reads s c g row
  grounded : g.mode.canReject = true → ∀ row, Reads s c g row →
    Passes c g (heard s c g row).readings →
      Grounded g (heard s c g row).readings ∧ Timely c

variable {s : Service} {c : SignalContext} {g : AiStrategyConfig}

theorem contextGates_eq_none {r : Readings} {t : AiThresholds} :
    contextGates r t = none ↔
      (t.allowedRegimes ≠ [] → ∀ regime, r.regime = some regime → regime ∈ t.allowedRegimes) ∧
        ∀ most, t.maximumAnomalyScore = some most → ∀ score, r.anomalyScore = some score →
          (Number.real most).lt score = false := by
  unfold contextGates
  constructor
  · intro clear
    split at clear
    · cases clear
    · rename_i allowed
      split at clear
      · cases clear
      · rename_i usual
        refine ⟨fun configured regime is => ?_, fun most is score is' => ?_⟩
        · by_contra strange
          exact allowed ⟨configured, regime, is, strange⟩
        · by_contra over_
          exact usual ⟨most, is, score, is', Bool.eq_true_of_not_eq_false over_⟩
  · rintro ⟨allowed, usual⟩
    rw [if_neg, if_neg]
    · rintro ⟨most, is, score, is', above⟩
      rw [usual most is score is'] at above
      cases above
    · rintro ⟨configured, regime, is, strange⟩
      exact strange (allowed configured regime is)

theorem canReject_iff {mode : AiMode} :
    mode.canReject = true ↔ mode = .filter ∨ mode = .scoring := by
  exact decide_eq_true_iff

theorem combine_eq_ok {method : ScoringMethod} {strategyScore probability x : Number}
    {weight : Share} (combined : combine method strategyScore probability weight = .ok x) :
    ∃ q, x = .real q := by
  unfold combine at combined
  split at combined
  · cases combined
  · rename_i strategy
    split at combined
    · cases combined
    · rename_i ai
      obtain ⟨q, rfl, -⟩ := Number.exists_of_inUnit (Bool.eq_true_of_not_eq_false strategy)
      obtain ⟨q', rfl, -⟩ := Number.exists_of_inUnit (Bool.eq_true_of_not_eq_false ai)
      cases combined
      exact ⟨_, rfl⟩

theorem combine_eq_error {method : ScoringMethod} {strategyScore probability : Number}
    {weight : Share} {exn : Exn} (failed : combine method strategyScore probability weight =
      .error exn) : exn.base = .integrationError := by
  unfold combine at failed
  split at failed
  · cases failed
    rfl
  · split at failed
    · cases failed
      rfl
    · split at failed
      · cases failed
      · cases failed

theorem filterOn_fst (r : Readings) (probability : Number) :
    ((filterOn g r probability).1 = .accept ∨ (filterOn g r probability).1 = .reject) ∧
      ((filterOn g r probability).1 = .accept ↔
        probability.lt (.real g.thresholds.minimumProbability) = false) := by
  unfold filterOn
  cases below : probability.lt (.real g.thresholds.minimumProbability) with
  | true | false => simp [below]

theorem scoreOn_of_combine {r : Readings} {probability strategyScore combined : Number}
    (is : combine g.thresholds.scoringMethod strategyScore probability g.thresholds.aiWeight =
      .ok combined) (clears : combined.lt (.real g.thresholds.minimumCombinedScore) = false) :
    ∃ outcome, scoreOn g r probability strategyScore = .ok outcome ∧ outcome.1 = .accept := by
  unfold scoreOn
  dsimp only
  rw [is, Fallible.ok_bind, if_neg (ne_true_of_eq_false clears)]
  exact ⟨_, rfl, rfl⟩

theorem scoreOn_eq_ok {r : Readings} {probability strategyScore : Number} {outcome : Outcome}
    (scored : scoreOn g r probability strategyScore = .ok outcome) :
    ∃ combined, combine g.thresholds.scoringMethod strategyScore probability
        g.thresholds.aiWeight = .ok combined ∧ outcome.2.2 = some combined ∧
      (outcome.1 = .accept ∨ outcome.1 = .reject) ∧
      (outcome.1 = .accept ↔
        combined.lt (.real g.thresholds.minimumCombinedScore) = false) := by
  obtain ⟨combined, is, decided⟩ := Fallible.bind_eq_ok.mp scored
  refine ⟨combined, is, ?_⟩
  cases below : combined.lt (.real g.thresholds.minimumCombinedScore) with
  | true =>
    rw [if_pos below] at decided
    cases decided
    simp
  | false =>
    rw [if_neg (ne_true_of_eq_false below)] at decided
    cases decided
    simp

theorem applyMode_advisory (advisory : g.mode = .advisory) (r : Readings) :
    ∃ outcome, applyMode c g r = .ok outcome ∧ outcome.1 = .neutral := by
  unfold applyMode
  rw [if_pos advisory]
  exact ⟨_, rfl, rfl⟩

theorem ne_advisory (decides : g.mode.canReject = true) : g.mode ≠ .advisory := by
  intro advisory
  rw [advisory] at decides
  cases decides

theorem applyMode_deciding (decides : g.mode.canReject = true) {r : Readings} {outcome : Outcome}
    (applied : applyMode c g r = .ok outcome) :
    (outcome.1 = .accept ∨ outcome.1 = .reject) ∧ (outcome.1 = .accept → Passes c g r ∧
      (g.mode ≠ .filter → ∃ q : ℚ, outcome.2.2 = some (.real q) ∧
        (g.thresholds.minimumCombinedScore : ℚ) ≤ q)) := by
  unfold applyMode at applied
  rw [if_neg (ne_advisory decides)] at applied
  split at applied
  · cases applied
    exact ⟨Or.inr rfl, fun accepts => by cases accepts⟩
  · cases applied
  · rename_i probability clear is
    by_cases filter : g.mode = .filter
    · rw [if_pos filter] at applied
      cases applied
      obtain ⟨answers, accepts⟩ := filterOn_fst (g := g) r probability
      refine ⟨answers, fun accepted => ⟨⟨clear, probability, is, ?_⟩, absurd filter⟩⟩
      exact Or.inl ⟨filter, accepts.mp accepted⟩
    · rw [if_neg filter] at applied
      split at applied
      · cases applied
        exact ⟨Or.inr rfl, fun accepts => by cases accepts⟩
      · rename_i strategyScore scored
        obtain ⟨combined, is', written, answers, accepts⟩ := scoreOn_eq_ok applied
        refine ⟨answers, fun accepted => ⟨⟨clear, probability, is, ?_⟩, fun _ => ?_⟩⟩
        · exact Or.inr ⟨filter, strategyScore, combined, scored, is', accepts.mp accepted⟩
        · obtain ⟨q, rfl⟩ := combine_eq_ok is'
          have least := accepts.mp accepted
          rw [Number.lt_real, decide_eq_false_iff_not, not_lt] at least
          exact ⟨q, written, least⟩

theorem applyMode_of_passes (decides : g.mode.canReject = true) {r : Readings}
    (passes : Passes c g r) : ∃ outcome, applyMode c g r = .ok outcome ∧ outcome.1 = .accept := by
  obtain ⟨clear, probability, is, ⟨filter, clears⟩ | ⟨scoring, strategyScore, combined, scored,
    is', clears⟩⟩ := passes
  · refine ⟨filterOn g r probability, ?_, (filterOn_fst r probability).2.mpr clears⟩
    simp [applyMode, clear, is, filter]
  · obtain ⟨outcome, written, accepts⟩ := scoreOn_of_combine (r := r) is' clears
    refine ⟨outcome, ?_, accepts⟩
    simp [applyMode, ne_advisory decides, clear, is, scoring, scored, written]

theorem applyMode_base {r : Readings} {exn : Exn} (failed : applyMode c g r = .error exn) :
    exn.base ≠ .exit := by
  unfold applyMode at failed
  split at failed
  · cases failed
  · split at failed
    · cases failed
    · cases failed
      simp
    · split at failed
      · cases failed
      · split at failed
        · cases failed
        · unfold scoreOn at failed
          rcases Fallible.bind_eq_error.mp failed with raised | ⟨combined, -, written⟩
          · rw [combine_eq_error raised]
            simp
          · split at written
            · cases written
            · cases written

theorem failed_eq_ok (s : Service) (c : SignalContext) (g : AiStrategyConfig) (status : String)
    (why : Text) (reading : ℕ) (predictions : List Record) :
    ∃ d, failed s c g status why reading predictions = .ok d ∧ d.status = status ∧
      d.decision = g.policy.answer := by
  refine ⟨_, Answer.make_eq_ok ⟨?_, ?_, ?_⟩, rfl, rfl⟩
  · intro p is
    cases is
  · intro x is
    cases is
  · exact fun _ => rfl

structure InRange (r : Readings) : Prop where
  probability : ∀ p, r.probability = some p → p.inUnit = true
  anomaly : ∀ x, r.anomalyScore = some x → x.inUnit = true

theorem inUnit_of_usable {p : Prediction} (usable : predictionIsUsable p = none) :
    (∀ x, p.probability = some x → x.inUnit = true) ∧
      ∀ x, p.confidence = some x → x.inUnit = true := by
  unfold predictionIsUsable at usable
  split at usable
  · cases usable
  · split at usable
    · cases usable
    · rename_i probable
      split at usable
      · cases usable
      · rename_i confident
        constructor
        · intro x is
          by_contra out
          exact probable ⟨x, is, Bool.eq_false_of_not_eq_true out⟩
        · intro x is
          by_contra out
          exact confident ⟨x, is, Bool.eq_false_of_not_eq_true out⟩

theorem InRange.absorb {r : Readings} (range : InRange r) {m : Model} {p : Prediction}
    (usable : predictionIsUsable p = none) : InRange (r.absorb m p) := by
  obtain ⟨probable, confident⟩ := inUnit_of_usable usable
  have taken : InRange (r.take m p) := by
    unfold Readings.take
    split
    · exact ⟨probable, range.anomaly⟩
    · split
      · exact ⟨range.probability, range.anomaly⟩
      · split
        · exact ⟨range.probability, confident⟩
        · exact range
  unfold Readings.absorb
  split
  · exact ⟨taken.probability, taken.anomaly⟩
  · exact taken

theorem InRange.hear {row : FeatureRow} {said : Said} {x : ModelRequirement × Model}
    (range : InRange said.readings) (heard : Heard c g row x) :
    InRange (hear c g row said x).readings := by
  obtain ⟨p, record, predicted, -, ⟨declined, -⟩ | ⟨answered, usable, -⟩⟩ := heard
  · simpa [Integration.hear, predicted, declined] using range
  · simpa [Integration.hear, predicted, answered] using range.absorb usable

theorem Reads.inRange {row : FeatureRow} (reads : Reads s c g row) :
    InRange (heard s c g row).readings :=
  List.foldlRecOn (motive := fun said => InRange said.readings) (offered s g) (hear c g row)
    ⟨fun _ is => (by cases is), fun _ is => (by cases is)⟩
    fun _ range x mem => range.hear (reads.all x mem)

theorem valid_decided {said : Said} {outcome : Outcome} (range : InRange said.readings)
    (decides : outcome.1 ≠ .error) : (decided s c g said outcome).Valid where
  probability := range.probability
  anomaly := range.anomaly
  silent failed := absurd failed decides

theorem applyMode_ne_error {r : Readings} {outcome : Outcome}
    (runs : g.mode ≠ .disabled) (applied : applyMode c g r = .ok outcome) :
    outcome.1 ≠ .error := by
  cases mode : g.mode with
  | disabled => exact absurd mode runs
  | advisory =>
    obtain ⟨outcome', applied', neutral⟩ := applyMode_advisory (c := c) mode r
    cases applied.symm.trans applied'
    rw [neutral]
    decide
  | filter =>
    rcases (applyMode_deciding (canReject_iff.mpr (Or.inl mode)) applied).1 with is | is
    · simp [is]
    · simp [is]
  | scoring =>
    rcases (applyMode_deciding (canReject_iff.mpr (Or.inr mode)) applied).1 with is | is
    · simp [is]
    · simp [is]

def Failed (g : AiStrategyConfig) (d : AiDecision) : Prop :=
  d.status ≠ "OK" ∧ d.status ≠ "DISABLED" ∧ d.decision = g.policy.answer

theorem failed_of_handle {exn : Exn} (stays : exn.base ≠ .exit) (reading : ℕ) :
    ∃ d, handle s c g exn reading = .ok d ∧ Failed g d := by
  unfold handle
  rw [if_neg stays]
  obtain ⟨d, is, status, decision⟩ := failed_eq_ok s c g "PIPELINE_ERROR"
    (Text.take 300 (Text.lit exn.kind ++ Text.lit ": " ++ exn.text)) reading []
  exact ⟨d, is, by rw [status]; decide, by rw [status]; decide, decision⟩

theorem evaluate_of_ok (runs : g.mode ≠ .disabled) {d : AiDecision}
    (is : evaluateStages s c g = .ok d) : evaluate s c g = .ok d := by
  unfold evaluate
  rw [if_neg runs, is]

theorem evaluate_of_error (runs : g.mode ≠ .disabled) {exn : Exn} {reading : ℕ}
    (is : evaluateStages s c g = .error (exn, reading)) :
    evaluate s c g = handle s c g exn reading := by
  unfold evaluate
  rw [if_neg runs, is]

theorem evaluate_of_reads (runs : g.mode ≠ .disabled) {row : FeatureRow}
    (reads : Reads s c g row) (is : gather s c g = .ok (heard s c g row)) :
    ∃ d, evaluate s c g = .ok d ∧
      ((∃ outcome, applyMode c g (heard s c g row).readings = .ok outcome ∧
          d.toAnswer = decided s c g (heard s c g row) outcome) ∨
        Failed g d ∧ ∃ exn, applyMode c g (heard s c g row).readings = .error exn) := by
  cases applied : applyMode c g (heard s c g row).readings with
  | ok outcome =>
    have valid : (decided s c g (heard s c g row) outcome).Valid :=
      valid_decided reads.inRange (applyMode_ne_error runs applied)
    refine ⟨{ decided s c g (heard s c g row) outcome with valid }, evaluate_of_ok runs ?_,
      Or.inl ⟨outcome, rfl, rfl⟩⟩
    simp [evaluateStages, is, conclude, applied, Answer.make_eq_ok valid, Fallible.mapError_eq_ok,
      Fallible.ok_bind]
  | error exn =>
    have raised : evaluateStages s c g = .error (exn, 6) := by
      simp [evaluateStages, is, conclude, applied, Except.mapError, Fallible.error_bind]
    obtain ⟨d, handled, answered⟩ := failed_of_handle (s := s) (c := c) (g := g)
      (applyMode_base applied) 6
    exact ⟨d, (evaluate_of_error runs raised).trans handled, Or.inr ⟨answered, exn, rfl⟩⟩

theorem evaluate_of_stop (runs : g.mode ≠ .disabled) {e : Stop} (is : gather s c g = .error e)
    (fair : e.Fair) :
    (e.Exits ∧ ∃ exn, evaluate s c g = .error exn) ∨
      ¬ e.Exits ∧ ∃ d, evaluate s c g = .ok d ∧ Failed g d := by
  cases e with
  | failed status why reading predictions =>
    obtain ⟨d, written, same, decision⟩ := failed_eq_ok s c g status why reading predictions
    have ended : evaluateStages s c g = .ok d := by
      simp [evaluateStages, is, written, Fallible.mapError_eq_ok]
    refine Or.inr ⟨id, d, evaluate_of_ok runs ended, ?_, ?_, decision⟩
    · rw [same]
      exact fair.1
    · rw [same]
      exact fair.2
  | raised exn reading =>
    have raised : evaluateStages s c g = .error (exn, reading) := by
      simp [evaluateStages, is]
    rw [evaluate_of_error runs raised]
    by_cases exit : exn.base = .exit
    · exact Or.inl ⟨exit, exn, if_pos exit⟩
    · exact Or.inr ⟨exit, failed_of_handle exit reading⟩

theorem evaluate_cases (runs : g.mode ≠ .disabled) :
    (Exits s c g ∧ ∃ exn, evaluate s c g = .error exn) ∨
      ¬ Exits s c g ∧ ∃ d, evaluate s c g = .ok d ∧
        ((∃ row outcome, Reads s c g row ∧
            applyMode c g (heard s c g row).readings = .ok outcome ∧
            d.toAnswer = decided s c g (heard s c g row) outcome) ∨
          Failed g d ∧ ∀ row, Reads s c g row →
            ∃ exn, applyMode c g (heard s c g row).readings = .error exn) := by
  rcases gather_ends (s := s) (c := c) (g := g) with
    ⟨row, reads, stays, is⟩ | ⟨e, is, none, fair, iff⟩
  · obtain ⟨d, ended, ⟨outcome, applied, same⟩ | ⟨answered, exn, raised⟩⟩ :=
      evaluate_of_reads runs reads is
    · exact Or.inr ⟨stays, d, ended, Or.inl ⟨row, outcome, reads, applied, same⟩⟩
    · refine Or.inr ⟨stays, d, ended, Or.inr ⟨answered, fun row' reads' => ?_⟩⟩
      cases reads.computed.symm.trans reads'.computed
      exact ⟨exn, raised⟩
  · rcases evaluate_of_stop runs is fair with ⟨exit, left_⟩ | ⟨stays, d, ended, answered⟩
    · exact Or.inl ⟨iff.mp exit, left_⟩
    · exact Or.inr ⟨iff.not.mp stays, d, ended, Or.inr ⟨answered, fun row reads =>
        absurd reads (none row)⟩⟩

theorem cleared_of_grounded {d : AiDecision} {row : FeatureRow} {outcome : Outcome}
    (decides : g.mode.canReject = true) (reads : Reads s c g row)
    (applied : applyMode c g (heard s c g row).readings = .ok outcome)
    (same : d.toAnswer = decided s c g (heard s c g row) outcome) (accepts : outcome.1 = .accept)
    (grounded : Grounded g (heard s c g row).readings) : Cleared g d := by
  obtain ⟨⟨clear, probability, is, ends⟩, scored⟩ := (applyMode_deciding decides applied).2 accepts
  have probable : d.probability = some probability := (congrArg Answer.probability same).trans is
  have regime : d.regime = (heard s c g row).readings.regime := congrArg Answer.regime same
  have anomaly : d.anomalyScore = (heard s c g row).readings.anomalyScore :=
    congrArg Answer.anomalyScore same
  obtain ⟨allowed, usual⟩ := contextGates_eq_none.mp clear
  refine ⟨?_, fun configured => ?_, fun most is' => ?_, fun least is' => ?_⟩
  · unfold Scored
    by_cases filter : g.mode = .filter
    · rw [filter]
      rcases ends with ⟨-, clears⟩ | ⟨other, -⟩
      · obtain ⟨q, rfl, -⟩ := Number.exists_of_inUnit (reads.inRange.probability _ is)
        rw [Number.lt_real, decide_eq_false_iff_not, not_lt] at clears
        exact ⟨_, probable, decide_eq_true clears⟩
      · exact absurd filter other
    · rcases canReject_iff.mp decides with is | scoring
      · exact absurd is filter
      · obtain ⟨q, written, least⟩ := scored filter
        rw [scoring]
        exact ⟨_, (congrArg Answer.combinedScore same).trans written, decide_eq_true least⟩
  · obtain ⟨name, is'⟩ := Option.ne_none_iff_exists'.mp (grounded.regime configured)
    exact ⟨name, allowed configured name is', regime.trans is'⟩
  · have configured : g.thresholds.maximumAnomalyScore ≠ none := by
      rw [is']
      exact Option.some_ne_none most
    obtain ⟨score, there⟩ := Option.ne_none_iff_exists'.mp (grounded.anomaly configured)
    refine ⟨score, anomaly.trans there, ?_⟩
    have below := usual most is' score there
    obtain ⟨q, rfl, -⟩ := Number.exists_of_inUnit (reads.inRange.anomaly _ there)
    rw [Number.lt_real, decide_eq_false_iff_not, not_lt] at below
    exact decide_eq_true below
  · rw [grounded.expected] at is'
    cases is'

theorem grounded_of_cleared {d : AiDecision} {row : FeatureRow} {outcome : Outcome}
    (same : d.toAnswer = decided s c g (heard s c g row) outcome) (cleared : Cleared g d) :
    Grounded g (heard s c g row).readings := by
  have regime : d.regime = (heard s c g row).readings.regime := congrArg Answer.regime same
  have anomaly : d.anomalyScore = (heard s c g row).readings.anomalyScore :=
    congrArg Answer.anomalyScore same
  have expected : d.expectedReturn = none := congrArg Answer.expectedReturn same
  refine ⟨fun configured none => ?_, fun configured none => ?_, ?_⟩
  · obtain ⟨name, -, is⟩ := cleared.regime configured
    rw [regime, none] at is
    cases is
  · obtain ⟨most, is⟩ := Option.ne_none_iff_exists'.mp configured
    obtain ⟨score, is', -⟩ := cleared.anomaly most is
    rw [anomaly, none] at is'
    cases is'
  · by_contra configured
    obtain ⟨least, is⟩ := Option.ne_none_iff_exists'.mp configured
    obtain ⟨x, is', -⟩ := cleared.expected least is
    rw [expected] at is'
    cases is'

theorem subtractive_of_failed {d : AiDecision} (answered : Failed g d)
    (advised : g.mode.canReject = false → g.policy.answer ≠ .reject) : Subtractive c g d where
  accepted _ is := absurd is answered.1
  failed _ _ := Or.inl answered.2.2
  harmless harmless := by
    rw [answered.2.2]
    exact advised harmless

theorem subtractive_of_decided {d : AiDecision} {row : FeatureRow} {outcome : Outcome}
    (runs : g.mode ≠ .disabled) (reads : Reads s c g row)
    (applied : applyMode c g (heard s c g row).readings = .ok outcome)
    (same : d.toAnswer = decided s c g (heard s c g row) outcome) :
    Subtractive c g d ↔ (g.mode.canReject = true → outcome.1 = .accept →
      Grounded g (heard s c g row).readings ∧ Timely c) := by
  have decision : d.decision = outcome.1 := congrArg Answer.decision same
  have status : d.status = "OK" := congrArg Answer.status same
  constructor
  · intro subtractive decides accepts
    obtain ⟨cleared, timely⟩ := subtractive.accepted decides status (decision.trans accepts)
    exact ⟨grounded_of_cleared same cleared, timely⟩
  · intro trusted
    refine ⟨fun decides _ accepts => ?_, fun other => absurd status other, fun harmless => ?_⟩
    · obtain ⟨grounded, timely⟩ := trusted decides (decision.symm.trans accepts)
      exact ⟨cleared_of_grounded decides reads applied same (decision.symm.trans accepts) grounded,
        timely⟩
    · have advisory : g.mode = .advisory := by
        cases mode : g.mode with
        | disabled => exact absurd mode runs
        | advisory => rfl
        | filter | scoring =>
          rw [mode] at harmless
          cases harmless
      obtain ⟨outcome', applied', neutral⟩ :=
        applyMode_advisory (c := c) advisory (heard s c g row).readings
      cases applied.symm.trans applied'
      rw [decision, neutral]
      decide

theorem Reads.unique {row row' : FeatureRow} (reads : Reads s c g row) (reads' : Reads s c g row') :
    row = row' := by
  cases reads.computed.symm.trans reads'.computed
  rfl

theorem conducted_iff_of_decided {row : FeatureRow} {outcome : Outcome} (stays : ¬ Exits s c g)
    (reads : Reads s c g row) (applied : applyMode c g (heard s c g row).readings = .ok outcome) :
    Conducted s c g ↔ (g.mode.canReject = true → outcome.1 = .accept →
      Grounded g (heard s c g row).readings ∧ Timely c) := by
  constructor
  · intro conducted decides accepts
    exact conducted.grounded decides row reads ((applyMode_deciding decides applied).2 accepts).1
  · intro trusted
    refine ⟨fun _ => stays, fun _ _ => ⟨row, reads⟩, fun decides row' reads' passes => ?_⟩
    cases reads.unique reads'
    obtain ⟨outcome', applied', accepts⟩ := applyMode_of_passes decides passes
    cases applied.symm.trans applied'
    exact trusted decides accepts

theorem conducted_iff_of_failed (stays : ¬ Exits s c g)
    (none : ∀ row, Reads s c g row →
      ∃ exn, applyMode c g (heard s c g row).readings = .error exn) :
    Conducted s c g ↔ (g.mode = .advisory → g.policy ≠ .required) := by
  constructor
  · intro conducted advisory required
    obtain ⟨row, reads⟩ := conducted.advised advisory required
    obtain ⟨exn, raised⟩ := none row reads
    obtain ⟨outcome, applied, -⟩ := applyMode_advisory (c := c) advisory (heard s c g row).readings
    cases raised.symm.trans applied
  · intro advised
    refine ⟨fun _ => stays, fun advisory required => absurd required (advised advisory), ?_⟩
    intro decides row reads passes
    obtain ⟨exn, raised⟩ := none row reads
    obtain ⟨outcome, applied, -⟩ := applyMode_of_passes decides passes
    cases raised.symm.trans applied

theorem subtractive_iff_of_failed {d : AiDecision} (runs : g.mode ≠ .disabled)
    (answered : Failed g d) :
    Subtractive c g d ↔ (g.mode = .advisory → g.policy ≠ .required) := by
  constructor
  · intro subtractive advisory required
    refine subtractive.harmless (by rw [advisory]; rfl) ?_
    rw [answered.2.2, required]
    rfl
  · intro advised
    refine subtractive_of_failed answered fun harmless => ?_
    cases mode : g.mode with
    | disabled => exact absurd mode runs
    | filter | scoring =>
      rw [mode] at harmless
      cases harmless
    | advisory =>
      cases policy : g.policy with
      | required => exact absurd policy (advised mode)
      | optional => decide

theorem subtractive_of_disabled (off : g.mode = .disabled) :
    ∃ d, evaluate s c g = .ok d ∧ Subtractive c g d := by
  unfold evaluate
  rw [if_pos off]
  refine ⟨_, Answer.make_eq_ok ⟨?_, ?_, ?_⟩, ?_, ?_, ?_⟩
  · intro p is
    cases is
  · intro x is
    cases is
  · exact fun _ => rfl
  · intro decides
    rw [off] at decides
    cases decides
  · exact fun _ other => absurd rfl other
  · intro _ rejected
    cases rejected

theorem conducted_of_disabled (off : g.mode = .disabled) : Conducted s c g := by
  refine ⟨fun runs => absurd off runs, fun advisory => ?_, fun decides => ?_⟩
  · rw [off] at advisory
    cases advisory
  · rw [off] at decides
    cases decides

theorem trusted_iff : (∃ d, evaluate s c g = .ok d ∧ Subtractive c g d) ↔ Conducted s c g := by
  by_cases runs : g.mode = .disabled
  · exact iff_of_true (subtractive_of_disabled runs) (conducted_of_disabled runs)
  · rcases evaluate_cases (s := s) (c := c) runs with ⟨exit, exn, left_⟩ | ⟨stays, d, is, ends⟩
    · constructor
      · rintro ⟨d, is, -⟩
        cases left_.symm.trans is
      · exact fun conducted => absurd exit (conducted.stays runs)
    · have returned : (∃ d, evaluate s c g = .ok d ∧ Subtractive c g d) ↔ Subtractive c g d := by
        constructor
        · rintro ⟨d', is', subtractive⟩
          cases is.symm.trans is'
          exact subtractive
        · exact fun subtractive => ⟨d, is, subtractive⟩
      rw [returned]
      rcases ends with ⟨row, outcome, reads, applied, same⟩ | ⟨answered, none⟩
      · exact (subtractive_of_decided runs reads applied same).trans
          (conducted_iff_of_decided stays reads applied).symm
      · exact (subtractive_iff_of_failed runs answered).trans
          (conducted_iff_of_failed stays none).symm

/-- AI can only subtract, where it is conducted; and the filter over a signal vector always does. -/
theorem subtractive_iff_conducted (s : Service) (c : SignalContext) (g : AiStrategyConfig) :
    ((∃ d, evaluate s c g = .ok d ∧ Subtractive c g d) ↔ Conducted s c g) ∧
      ∀ (evaluate : SignalContext → AiStrategyConfig → Except Exn AiDecision)
        (strategy : Strategies.Strategy) (symbol : String) (timeframe : Marketdata.Timeframe)
        (config : AiStrategyConfig) (bars : List Marketdata.Bar) (rounded : ℕ → ℚ → ℚ)
        (signals filtered : List ℤ) (report : Backtest.FilterReport),
        Backtest.applyAiFilter evaluate strategy symbol timeframe config bars rounded signals =
            .ok (filtered, report) →
          List.Forall₂ Backtest.Subtracts signals filtered :=
  ⟨trusted_iff, fun _ _ _ _ _ _ _ _ _ _ => Backtest.subtracts_of_applyAiFilter⟩

def bare : Service where
  resolve _ := .error (integrationError (Text.lit "no model is registered"))
  maths := { log := id, sqrt := id }
  perf _ := 0
  now := 0
  rounded _ x := x

def plain : SignalContext :=
  { strategyKey := "trend"
    symbol := "EURUSD"
    timeframe := "H1"
    barTime := 3600
    side := "buy"
    bars := [.bar
      { symbol := "EURUSD", timeframe := .h1, barTime := 3600, open_ := 1, high := 1, low := 1,
        close := 1 }] }

def told : AiStrategyConfig where
  strategyKey := "trend"
  mode := .advisory
  policy := .required
  models := [{ key := "trade_probability", version := "1" }]
  asks _ := ⟨_, List.mem_cons_self, rfl⟩
  once := List.nodup_singleton _

/-- The failure policy stops a signal in a mode that cannot. -/
theorem not_forall_trusted : ¬ ∀ s c g, ∃ d, evaluate s c g = .ok d ∧ Subtractive c g d := by
  intro trusted
  obtain ⟨d, is, subtractive⟩ := trusted bare plain told
  have rejected : (evaluate bare plain told).map (fun d => d.decision) = .ok .reject := by rfl
  rw [is] at rejected
  exact subtractive.harmless rfl (Except.ok.inj rejected)

end TradeResearch.Ai.Integration
