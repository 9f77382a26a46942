import Mathlib.Data.List.Forall2
import TradeResearch.Ai.Decision
import TradeResearch.Backtest.Runner
import TradeResearch.Lib.Fallible

/-!
# The AI layer over a signal vector

`apply_ai_filter` of `backend/app/backtest/runner.py`: each bar a strategy would enter at is put to
the AI layer with the bars up to it. `evaluate` is whatever service is given. The two notes of the
report are left out.

* `subtracts_of_applyAiFilter`: nothing is added.
-/

namespace TradeResearch.Backtest

open Marketdata Strategies Ai.Integration

def decisionName : Decision → String
  | .accept => "ACCEPT"
  | .reject => "REJECT"
  | .neutral => "NEUTRAL"
  | .error => "ERROR"

structure BarDecision where
  barIndex : ℕ
  barTime : Time
  side : String
  decision : String
  status : String
  probability : Option Number
  regime : Option String
  reason : Text

structure Tally where
  filtered : List ℤ := []
  accepted : ℕ := 0
  rejected : ℕ := 0
  neutral : ℕ := 0
  errored : ℕ := 0
  probabilities : List Number := []
  statuses : List (String × ℕ) := []
  decisions : List BarDecision := []

def bump (status : String) : List (String × ℕ) → List (String × ℕ)
  | [] => [(status, 1)]
  | (known, n) :: rest =>
    if known = status then (known, n + 1) :: rest else (known, n) :: bump status rest

def Tally.count (t : Tally) (index : ℕ) (bar : Bar) (side : String) (raw : ℤ) (d : AiDecision) :
    Tally :=
  { filtered := t.filtered ++ [if d.decision = .reject then 0 else raw]
    accepted := if d.decision = .reject then t.accepted else t.accepted + 1
    rejected := if d.decision = .reject then t.rejected + 1 else t.rejected
    neutral := if d.decision = .neutral then t.neutral + 1 else t.neutral
    errored := if d.decision = .error then t.errored + 1 else t.errored
    probabilities := t.probabilities ++ d.probability.toList
    statuses := bump d.status t.statuses
    decisions :=
      if t.decisions.length < 200 then
        t.decisions ++
          [{ barIndex := index
             barTime := bar.barTime
             side
             decision := decisionName d.decision
             status := d.status
             probability := d.probability
             regime := d.regime
             reason := Text.take 200 d.reason }]
      else t.decisions }

def sideOf (raw : ℤ) : String := if 0 < raw then "buy" else "sell"

section Filter

variable (evaluate : SignalContext → AiStrategyConfig → Except Exn AiDecision)
  (strategy : Strategy) (symbol : String) (timeframe : Timeframe) (config : AiStrategyConfig)
  (bars : List Bar)

def contextAt (index : ℕ) (raw : ℤ) : SignalContext :=
  { strategyKey := strategy.key
    symbol
    timeframe := timeframe.name
    barTime := (bars.getD index default).barTime
    side := sideOf raw
    bars := (Candles.of symbol timeframe (bars.take (index + 1))).bars.map .bar }

def consider (t : Tally) (x : ℤ × ℕ) : Except Exn Tally :=
  if x.1 = 0 then .ok { t with filtered := t.filtered ++ [0] }
  else do
    let d ← evaluate (contextAt strategy symbol timeframe bars x.2 x.1) config
    return t.count x.2 (bars.getD x.2 default) (sideOf x.1) x.1 d

structure Bin where
  lower : ℚ
  upper : ℚ
  n : ℕ

def binOf : Number → ℕ
  | .real q => min ⌊q * 10⌋.toNat 9
  -- a decision carries no other
  | _ => 0

def distribution (rounded : ℕ → ℚ → ℚ) (values : List Number) : List Bin :=
  ((List.range 10).map fun i =>
    { lower := rounded 2 (i / 10)
      upper := rounded 2 ((i + 1) / 10)
      n := values.countP fun x => binOf x = i : Bin }).filter fun bin => bin.n ≠ 0

structure FilterReport where
  mode : AiMode
  policy : AiPolicy
  signalsOffered : ℕ
  accepted : ℕ
  rejected : ℕ
  neutral : ℕ
  errors : ℕ
  acceptanceRate : Option ℚ
  rejectionRate : Option ℚ
  statuses : List (String × ℕ)
  probabilityDistribution : List Bin
  decisions : List BarDecision

def Tally.report (t : Tally) (rounded : ℕ → ℚ → ℚ) (signals : List ℤ) : FilterReport :=
  let offered := signals.countP (· ≠ 0)
  let rate (n : ℕ) : Option ℚ := if offered = 0 then none else some (rounded 6 (n / offered))
  { mode := config.mode
    policy := config.policy
    signalsOffered := offered
    accepted := t.accepted
    rejected := t.rejected
    neutral := t.neutral
    errors := t.errored
    acceptanceRate := rate t.accepted
    rejectionRate := rate t.rejected
    statuses := t.statuses.insertionSort fun a b => a.1 ≤ b.1
    probabilityDistribution := distribution rounded t.probabilities
    decisions := t.decisions }

def applyAiFilter (rounded : ℕ → ℚ → ℚ) (signals : List ℤ) :
    Except Exn (List ℤ × FilterReport) := do
  if signals.length ≠ bars.length then
    .error ⟨.otherError, "BacktestError", Text.num signals.length ++ Text.lit " signals against " ++
      Text.num bars.length ++ Text.lit " bars"⟩
  else do
    let t ← signals.zipIdx.foldlM (consider evaluate strategy symbol timeframe config bars) {}
    return (t.filtered, t.report config rounded signals)

end Filter

def Subtracts (raw kept : ℤ) : Prop := (raw = 0 → kept = 0) ∧ (raw ≠ 0 → kept = raw ∨ kept = 0)

variable {evaluate : SignalContext → AiStrategyConfig → Except Exn AiDecision}
  {strategy : Strategy} {symbol : String} {timeframe : Timeframe} {config : AiStrategyConfig}
  {bars : List Bar}

theorem subtracts_of_consider {t t' : Tally} {x : ℤ × ℕ}
    (considered : consider evaluate strategy symbol timeframe config bars t x = .ok t') :
    ∃ kept, t'.filtered = t.filtered ++ [kept] ∧ Subtracts x.1 kept := by
  unfold consider at considered
  by_cases flat : x.1 = 0
  · rw [if_pos flat] at considered
    cases considered
    exact ⟨0, rfl, fun _ => rfl, fun entry => absurd flat entry⟩
  · rw [if_neg flat] at considered
    obtain ⟨d, -, counted⟩ := Fallible.bind_eq_ok.mp considered
    cases counted
    refine ⟨_, rfl, fun zero => absurd zero flat, fun _ => ?_⟩
    by_cases rejected : d.decision = .reject
    · exact Or.inr (if_pos rejected)
    · exact Or.inl (if_neg rejected)

theorem subtracts_of_applyAiFilter {rounded : ℕ → ℚ → ℚ} {signals filtered : List ℤ}
    {report : FilterReport}
    (applied : applyAiFilter evaluate strategy symbol timeframe config bars rounded signals =
      .ok (filtered, report)) :
    List.Forall₂ Subtracts signals filtered := by
  unfold applyAiFilter at applied
  by_cases apart : signals.length ≠ bars.length
  · rw [if_pos apart] at applied
    cases applied
  · rw [if_neg apart] at applied
    obtain ⟨t, looped, returned⟩ := Fallible.bind_eq_ok.mp applied
    cases returned
    -- the vector so far goes with the bars gone past
    have kept := Fallible.foldlM_rule
      (motive := fun past t => List.Forall₂ Subtracts (past.map Prod.fst) t.filtered)
      looped List.Forall₂.nil fun past x t t' _ before considered => by
        obtain ⟨kept, is, subtracts⟩ := subtracts_of_consider considered
        rw [is, List.map_append]
        exact List.rel_append before (List.Forall₂.cons subtracts List.Forall₂.nil)
    rwa [List.zipIdx_map_fst] at kept

end TradeResearch.Backtest
