import Mathlib.Algebra.Order.Field.Rat
import TradeResearch.Lib.Table
import TradeResearch.Lib.Text

/-!
# Stress coverage

`backend/app/portfolio/stress.py`, as far as coverage and resilience go, with `Confidence` of
`backend/app/portfolio/scenario.py`. Priorities, combined scenarios and the cascade graph are left
out. A matrix has all sixteen classes, so a `Decimal` holds its share exactly.

* `coverageOf_eq_covered_iff`: which runs make a class covered.
* `earned_iff`: when coverage is earned by a current run, and a healthy answer by coverage.
-/

namespace TradeResearch.Portfolio

inductive StressClass where
  | market
  | volatility
  | correlation
  | liquidity
  | spread
  | slippage
  | margin
  | drawdown
  | regime
  | strategy
  | model
  | execution
  | broker
  | infrastructure
  | combined
  | cascading
  deriving DecidableEq

namespace StressClass

def all : List StressClass :=
  [.market, .volatility, .correlation, .liquidity, .spread, .slippage, .margin, .drawdown, .regime,
    .strategy, .model, .execution, .broker, .infrastructure, .combined, .cascading]

theorem all_nodup : (all.map fun cls => cls).Nodup := by decide

def value : StressClass → String
  | market => "MARKET_STRESS"
  | volatility => "VOLATILITY_STRESS"
  | correlation => "CORRELATION_STRESS"
  | liquidity => "LIQUIDITY_STRESS"
  | spread => "SPREAD_STRESS"
  | slippage => "SLIPPAGE_STRESS"
  | margin => "MARGIN_STRESS"
  | drawdown => "DRAWDOWN_STRESS"
  | regime => "REGIME_STRESS"
  | strategy => "STRATEGY_STRESS"
  | model => "MODEL_STRESS"
  | execution => "EXECUTION_STRESS"
  | broker => "BROKER_STRESS"
  | infrastructure => "INFRASTRUCTURE_STRESS"
  | combined => "COMBINED_STRESS"
  | cascading => "CASCADING_STRESS"

end StressClass

inductive Coverage where
  | covered
  | partiallyCovered
  | uncovered
  | stale
  | unknown
  deriving DecidableEq

def Coverage.isCovered (c : Coverage) : Bool := c = .covered

def defaultResultTtl : ℚ := 7 * 86400

structure Confidence where
  data : Option ℚ := none
  model : Option ℚ := none
  scenario : Option ℚ := none
  portfolio : Option ℚ := none
  execution : Option ℚ := none

namespace Confidence

variable (c : Confidence)

def known : List (String × ℚ) :=
  [("data", c.data), ("model", c.model), ("scenario", c.scenario), ("portfolio", c.portfolio),
    ("execution", c.execution)].filterMap fun entry => entry.2.map fun v => (entry.1, v)

def weakest : Option ℚ := (c.known.map Prod.snd).min?

def isLow (floor : ℚ := 1 / 2) : Bool := c.weakest.all (· < floor)

end Confidence

structure StressRun where
  stressClass : StressClass
  accountId : String
  at_ : Time
  completed : Bool := true
  confidence : Confidence := {}

def mine (runs : List StressRun) (stressClass : StressClass) (accountId : String) :
    List StressRun :=
  runs.filter fun r => r.stressClass = stressClass ∧ r.accountId = accountId ∧ r.completed = true

def coverageOf (runs : List StressRun) (stressClass : StressClass) (accountId : String)
    (now : Time) (ttl : ℚ := defaultResultTtl) : Coverage :=
  match ((mine runs stressClass accountId).map StressRun.at_).max? with
  | none => .uncovered
  | some newest =>
    if ttl < now - newest then .stale
    else if (mine runs stressClass accountId).all (·.confidence.isLow) = true then .partiallyCovered
    else .covered

structure CoverageMatrix where
  accountId : String
  at_ : Time
  cells : Table (Prod.fst : StressClass × Coverage → StressClass)

namespace CoverageMatrix

variable (m : CoverageMatrix)

def covered : List StressClass :=
  (m.cells.rows.filter fun cell => cell.2.isCovered).map Prod.fst

def gaps : List StressClass :=
  (m.cells.rows.filter fun cell => !cell.2.isCovered).map Prod.fst

def fractionCovered : ℚ :=
  if m.cells.rows = [] then 0 else m.covered.length / m.cells.rows.length

end CoverageMatrix

def matrix (runs : List StressRun) (accountId : String) (now : Time)
    (ttl : ℚ := defaultResultTtl) : CoverageMatrix where
  accountId := accountId
  at_ := now
  cells :=
    { rows := StressClass.all.map fun cls => (cls, coverageOf runs cls accountId now ttl)
      keys := by
        rw [List.map_map, Function.comp_def]
        exact StressClass.all_nodup }

inductive ResilienceStatus where
  | healthy
  | watch
  | degraded
  | critical
  | unknown
  deriving DecidableEq

structure Resilience where
  accountId : String
  at_ : Time
  status : ResilienceStatus
  reasons : List Text
  coverage : CoverageMatrix
  hardFailure : Bool := false

def evaluate (accountId : String) (now : Time) (coverage : CoverageMatrix)
    (hardFailure : Bool := false) (degradedDimensions : List String := [])
    (minimumCoverage : ℚ := 1 / 2) : Resilience :=
  let fraction := coverage.fractionCovered
  if hardFailure = true then
    { accountId, at_ := now, status := .critical, coverage, hardFailure := true
      reasons := [Text.lit ("a hard safety condition failed under stress. This is not weighed " ++
        "against the coverage figure: a score cannot express 'this outranks everything', only " ++
        "'this counts for a lot'")] }
  else if fraction < minimumCoverage then
    { accountId, at_ := now, status := .unknown, coverage
      reasons := [Text.lit "only " ++ Text.num fraction ++
        Text.lit " of stress classes are covered, below the " ++ Text.num minimumCoverage ++
        Text.lit (" minimum. Uncovered: " ++ commaList (coverage.gaps.map StressClass.value) ++
          ". A portfolio nobody has stressed is unmeasured, not robust")] }
  else if degradedDimensions ≠ [] then
    { accountId, at_ := now, status := .degraded, coverage
      reasons := [Text.lit ("degraded under stress: " ++ commaList degradedDimensions)] }
  else
    { accountId, at_ := now, status := .healthy, coverage
      reasons := [Text.num fraction ++ Text.lit (" of stress classes covered by a recent " ++
        "completed run, and no dimension degraded")] }

def StressRun.Current (now : Time) (ttl : ℚ) (r : StressRun) : Prop :=
  (r.at_ ≤ now ∧ now - r.at_ ≤ ttl) ∧ r.confidence.isLow = false

instance StressRun.decidableCurrent (r : StressRun) : Decidable (r.Current now ttl) :=
  inferInstanceAs (Decidable ((r.at_ ≤ now ∧ now - r.at_ ≤ ttl) ∧ r.confidence.isLow = false))

theorem coverageOf_eq_covered_iff :
    coverageOf runs cls account now ttl = .covered ↔
      (∃ r ∈ mine runs cls account, now - r.at_ ≤ ttl) ∧
        ∃ r ∈ mine runs cls account, r.confidence.isLow = false := by
  have sure : ¬ (mine runs cls account).all (·.confidence.isLow) = true ↔
      ∃ r ∈ mine runs cls account, r.confidence.isLow = false := by
    rw [List.all_eq_true, not_forall]
    refine exists_congr fun r => ?_
    rw [Classical.not_imp, Bool.not_eq_true]
  rw [← sure]
  unfold coverageOf
  cases newest : ((mine runs cls account).map StressRun.at_).max? with
  | none =>
    rw [List.max?_eq_none_iff, List.map_eq_nil_iff] at newest
    rw [newest]
    dsimp only
    exact iff_of_false (by decide) fun other => other.1.elim fun r here => List.not_mem_nil here.1
  | some latest =>
    obtain ⟨mem, most⟩ := List.max?_eq_some_iff.mp newest
    obtain ⟨last, here, rfl⟩ := List.mem_map.mp mem
    have fresh : (∃ r ∈ mine runs cls account, now - r.at_ ≤ ttl) ↔ now - last.at_ ≤ ttl := by
      constructor
      · intro ⟨r, other, young⟩
        exact (sub_le_sub_left (most _ (List.mem_map_of_mem other)) now).trans young
      · exact fun young => ⟨last, here, young⟩
    rw [fresh]
    dsimp only
    by_cases old : ttl < now - last.at_
    · rw [if_pos old]
      exact iff_of_false (by decide) fun other => other.1.not_gt old
    · rw [if_neg old]
      by_cases vague : (mine runs cls account).all (·.confidence.isLow) = true
      · rw [if_pos vague]
        exact iff_of_false (by decide) fun other => other.2 vague
      · rw [if_neg vague]
        exact iff_of_true rfl ⟨not_lt.mp old, vague⟩

def Earned (runs : List StressRun) (cls : StressClass) (account : String) (now : Time) (ttl : ℚ) :
    Prop :=
  coverageOf runs cls account now ttl = .covered ↔ ∃ r ∈ mine runs cls account, r.Current now ttl

theorem covered_of_current (current : ∃ r ∈ mine runs cls account, r.Current now ttl) :
    coverageOf runs cls account now ttl = .covered := by
  obtain ⟨r, mem, ⟨-, young⟩, sure⟩ := current
  exact coverageOf_eq_covered_iff.mpr ⟨⟨r, mem, young⟩, r, mem, sure⟩

theorem classEarned_iff :
    Earned runs cls account now ttl ↔
      (∀ r ∈ mine runs cls account, r.confidence.isLow = true) ∨
        (∀ r ∈ mine runs cls account, ttl < now - r.at_) ∨
          ∃ r ∈ mine runs cls account, r.Current now ttl := by
  constructor
  · intro earned
    by_cases low : ∀ r ∈ mine runs cls account, r.confidence.isLow = true
    · exact .inl low
    · by_cases old : ∀ r ∈ mine runs cls account, ttl < now - r.at_
      · exact .inr (.inl old)
      · obtain ⟨sure, unlow⟩ := not_forall.mp low
        obtain ⟨here, unlow⟩ := Classical.not_imp.mp unlow
        obtain ⟨young, unold⟩ := not_forall.mp old
        obtain ⟨there, unold⟩ := Classical.not_imp.mp unold
        exact .inr (.inr (earned.mp (coverageOf_eq_covered_iff.mpr
          ⟨⟨young, there, not_lt.mp unold⟩, sure, here, Bool.eq_false_of_not_eq_true unlow⟩)))
  · intro either
    refine ⟨fun covered => ?_, covered_of_current⟩
    obtain ⟨⟨young, there, fresh⟩, sure, here, unlow⟩ := coverageOf_eq_covered_iff.mp covered
    rcases either with low | old | current
    · rw [low sure here] at unlow
      cases unlow
    · exact absurd (old young there) fresh.not_gt
    · exact current

def currentClasses (runs : List StressRun) (account : String) (now : Time) (ttl : ℚ) :
    List StressClass :=
  StressClass.all.filter fun cls => ∃ r ∈ mine runs cls account, r.Current now ttl

def Vouched (runs : List StressRun) (account : String) (now : Time) (ttl : ℚ)
    (coverage : CoverageMatrix) : Prop :=
  ∀ hardFailure degradedDimensions minimumCoverage,
    (evaluate account now coverage hardFailure degradedDimensions minimumCoverage).status =
        .healthy →
      hardFailure = false ∧ degradedDimensions = [] ∧
        minimumCoverage ≤ (currentClasses runs account now ttl).length / StressClass.all.length

theorem status_evaluate_eq_healthy_iff {coverage : CoverageMatrix} {hardFailure : Bool}
    {degradedDimensions : List String} {minimumCoverage : ℚ} :
    (evaluate account now coverage hardFailure degradedDimensions minimumCoverage).status =
        .healthy ↔
      hardFailure = false ∧ degradedDimensions = [] ∧
        minimumCoverage ≤ coverage.fractionCovered := by
  unfold evaluate
  by_cases failed : hardFailure = true
  · rw [if_pos failed]
    exact iff_of_false nofun fun other => Bool.false_ne_true (other.1.symm.trans failed)
  · rw [if_neg failed]
    by_cases few : coverage.fractionCovered < minimumCoverage
    · rw [if_pos few]
      exact iff_of_false nofun fun other => other.2.2.not_gt few
    · rw [if_neg few]
      by_cases degraded : degradedDimensions ≠ []
      · rw [if_pos degraded]
        exact iff_of_false nofun fun other => degraded other.2.1
      · rw [if_neg degraded]
        exact iff_of_true rfl
          ⟨Bool.eq_false_of_not_eq_true failed, not_not.mp degraded, not_lt.mp few⟩

theorem covered_matrix :
    (matrix runs account now ttl).covered =
      StressClass.all.filter fun cls => coverageOf runs cls account now ttl = .covered := by
  unfold CoverageMatrix.covered matrix
  rw [List.filter_map, List.map_map]
  exact List.map_id' _

theorem fractionCovered_matrix :
    (matrix runs account now ttl).fractionCovered =
      (matrix runs account now ttl).covered.length / StressClass.all.length := by
  unfold CoverageMatrix.fractionCovered
  have rows : (matrix runs account now ttl).cells.rows.length = StressClass.all.length :=
    List.length_map _
  rw [rows, if_neg]
  intro none_
  rw [none_] at rows
  cases rows

theorem vouched_matrix_iff {tested : List StressRun} {owner : String} {at_ : Time} {limit : ℚ} :
    Vouched runs account now ttl (matrix tested owner at_ limit) ↔
      (matrix tested owner at_ limit).covered.length ≤
        (currentClasses runs account now ttl).length := by
  have positive : (0 : ℚ) < StressClass.all.length := by decide +kernel
  constructor
  · intro vouched
    obtain ⟨-, -, enough⟩ := vouched false [] _
      (status_evaluate_eq_healthy_iff.mpr ⟨rfl, rfl, le_rfl⟩)
    rw [fractionCovered_matrix, div_le_div_iff_of_pos_right positive] at enough
    exact Nat.cast_le.mp enough
  · intro fewer hardFailure degradedDimensions minimumCoverage healthy
    obtain ⟨whole, undegraded, enough⟩ := status_evaluate_eq_healthy_iff.mp healthy
    refine ⟨whole, undegraded, enough.trans ?_⟩
    rw [fractionCovered_matrix, div_le_div_iff_of_pos_right positive]
    exact Nat.cast_le.mpr fewer

/-- Coverage is earned by a current run, for the coverage of each class and for a healthy answer
over the account's matrix, when of each class the completed runs of the account are all low, or all
past their time, or one is current. A healthy answer over any matrix is vouched for when the account
has as many classes with a current run as the matrix has covered. -/
theorem earned_iff (runs : List StressRun) (account : String) (now : Time) (ttl : ℚ) :
    (((∀ cls, Earned runs cls account now ttl) ∧
          Vouched runs account now ttl (matrix runs account now ttl)) ↔
        ∀ cls, (∀ r ∈ mine runs cls account, r.confidence.isLow = true) ∨
          (∀ r ∈ mine runs cls account, ttl < now - r.at_) ∨
            ∃ r ∈ mine runs cls account, r.Current now ttl) ∧
      ∀ (tested : List StressRun) (owner : String) (at_ : Time) (limit : ℚ),
        Vouched runs account now ttl (matrix tested owner at_ limit) ↔
          (matrix tested owner at_ limit).covered.length ≤
            (currentClasses runs account now ttl).length := by
  refine ⟨?_, fun tested owner at_ limit => vouched_matrix_iff⟩
  have each := forall_congr' fun cls => @classEarned_iff runs cls account now ttl
  rw [← each]
  refine ⟨And.left, fun earned => ⟨earned, vouched_matrix_iff.mpr ?_⟩⟩
  rw [covered_matrix, currentClasses]
  refine le_of_eq (congrArg List.length (List.filter_congr fun cls _ => ?_))
  exact decide_eq_decide.mpr (earned cls)

def vouchedRun (at_ : Time) : StressRun :=
  { stressClass := .market, accountId := "acct-1", at_, confidence := { data := some 1 } }

/-- A run of today that nobody vouches for and one of last year cover a class, and so does a run of
tomorrow. -/
theorem not_forall_earned :
    ¬ Earned [{ vouchedRun (365 * 86400) with confidence := {} }, vouchedRun 0] .market "acct-1"
        (365 * 86400) defaultResultTtl ∧
      ¬ Earned [vouchedRun 86400] .market "acct-1" 0 defaultResultTtl := by
  rw [classEarned_iff, classEarned_iff]
  decide +kernel

end TradeResearch.Portfolio
