import Mathlib.Data.List.MinMax
import TradeResearch.Lib.Table
import TradeResearch.Portfolio.Evidence

/-!
# Horizons

`backend/app/portfolio/horizon.py`, as far as recommendations are resolved: `synthesise` and what it
returns. How a decision is explained in a sentence, its serialisations and hysteresis are left out.
Naive stamps are instants in UTC.

* `decidingHorizon_iff`: which horizon is named, in terms of the weights of the findings.
* `synthesis_truthful_iff`: when a synthesis is pure and explains itself truthfully.
-/

namespace TradeResearch.Portfolio

open Safety

inductive Horizon where
  | emergency
  | immediateRisk
  | shortTerm
  | mediumTerm
  | longTerm
  deriving DecidableEq

namespace Horizon

def rank : Horizon → ℕ
  | emergency => 0
  | immediateRisk => 1
  | shortTerm => 2
  | mediumTerm => 3
  | longTerm => 4

def name : Horizon → String
  | emergency => "EMERGENCY"
  | immediateRisk => "IMMEDIATE_RISK"
  | shortTerm => "SHORT_TERM"
  | mediumTerm => "MEDIUM_TERM"
  | longTerm => "LONG_TERM"

def lowerName : Horizon → String
  | emergency => "emergency"
  | immediateRisk => "immediate_risk"
  | shortTerm => "short_term"
  | mediumTerm => "medium_term"
  | longTerm => "long_term"

def isSafety (h : Horizon) : Bool := h.rank ≤ immediateRisk.rank

def layerOf : Horizon → Layer
  | emergency => .hardSafety
  | immediateRisk => .risk
  | shortTerm => .strategy
  | mediumTerm => .portfolio
  | longTerm => .optimization

def defaultValidity : Horizon → ℚ
  | emergency => 300
  | immediateRisk => 900
  | shortTerm => 4 * 3600
  | mediumTerm => 2 * 86400
  | longTerm => 14 * 86400

end Horizon

structure HorizonRecommendation where
  horizon : Horizon
  verdict : Verdict
  reason : Text
  target : String := ""
  magnitude : Option ℚ := none
  at_ : Option Time := none
  validity : Option ℚ := none
  confidence : List (String × ℚ) := []

namespace HorizonRecommendation

variable (r : HorizonRecommendation)

def expiresAt : Option Time :=
  r.at_.map (· + (r.validity.filter (· ≠ 0)).getD r.horizon.defaultValidity)

def expired (now : Time) : Bool := r.expiresAt.all (· ≤ now)

def asFinding : Finding :=
  { layer := r.horizon.layerOf
    verdict := r.verdict
    reason := Text.lit s!"[{r.horizon.name}] " ++ r.reason }

def live (now : Time) : Bool := r.horizon = .emergency || !r.expired now

end HorizonRecommendation

structure Deferred where
  recommendation : HorizonRecommendation
  displacedBy : Horizon
  reason : Text
  requiredCondition : Text
  expiresAt : Option Time

structure MultiHorizonDecision where
  decisionId : String
  at_ : Time
  accountId : String
  environment : String
  decision : Decision
  recommendations : List HorizonRecommendation
  deferred : List Deferred
  expired : List HorizonRecommendation
  conflicts : List Text
  confidence : Table (Prod.fst : String × ℚ → String)

namespace MultiHorizonDecision

variable (d : MultiHorizonDecision)

def verdict : Verdict := d.decision.verdict

def decidingHorizon : Option Horizon :=
  (d.recommendations.find? fun rec_ =>
    rec_.horizon.layerOf = d.decision.layer ∧ rec_.verdict = d.decision.verdict).map
      HorizonRecommendation.horizon

end MultiHorizonDecision

def conflictOf (a b : HorizonRecommendation) : Option Text :=
  if a.target ≠ b.target then none
  else if a.verdict = b.verdict then none
  else
    some (Text.lit (s!"{a.horizon.name} says {a.verdict.name} and {b.horizon.name} says " ++
      s!"{b.verdict.name} about " ++ if a.target = "" then "the portfolio" else a.target))

def conflictsBetween : List HorizonRecommendation → List Text
  | [] => []
  | a :: rest => rest.filterMap (conflictOf a) ++ conflictsBetween rest

def winnerHorizon (live : List HorizonRecommendation) (verdict : Verdict) : Horizon :=
  (((live.filter fun rec_ : HorizonRecommendation => rec_.verdict = verdict).map
    HorizonRecommendation.horizon).argmin
    Horizon.rank).getD .emergency

def deferredOf (winner : Horizon) (verdict : Verdict) (rec_ : HorizonRecommendation) :
    Option Deferred :=
  if rec_.verdict = verdict then none
  else if rec_.horizon.isSafety = true then none
  else
    some
      { recommendation := rec_
        displacedBy := winner
        reason := Text.lit (s!"{winner.name} returned {verdict.name}, which is more restrictive " ++
          s!"than this {rec_.horizon.name} recommendation. It is kept rather than discarded: " ++
          "what displaced it is a condition, and conditions pass")
        requiredCondition := Text.lit s!"{winner.name} no longer returns {verdict.name}"
        expiresAt := rec_.expiresAt }

structure Synthesis where
  decisionId : String
  accountId : String
  now : Time
  recommendations : List HorizonRecommendation
  environment : String := "paper"

namespace Synthesis

variable (s : Synthesis)

def live : List HorizonRecommendation := s.recommendations.filter (·.live s.now)

def collector (context : Option DecisionContext) : DecisionContext :=
  let c := context.getD { now := s.now }
  { c with findings := c.findings ++ s.live.map HorizonRecommendation.asFinding }

def synthesise (context : Option DecisionContext) : MultiHorizonDecision :=
  let result := (s.collector context).decide
  { decisionId := s.decisionId
    at_ := s.now
    accountId := s.accountId
    environment := s.environment
    decision := result
    recommendations := s.live
    deferred := s.live.filterMap (deferredOf (winnerHorizon s.live result.verdict) result.verdict)
    expired := s.recommendations.filter (!·.live s.now)
    conflicts := conflictsBetween s.live
    confidence := (s.live.flatMap fun rec_ => rec_.confidence.map fun entry =>
      (rec_.horizon.lowerName ++ "." ++ entry.1, entry.2)).foldl Table.write (.empty Prod.fst) }

def contextAfter (context : Option DecisionContext) : Option DecisionContext :=
  context.map fun c => s.collector (some c)

end Synthesis

theorem Horizon.layerOf_injective {h k : Horizon} (same : h.layerOf = k.layerOf) : h = k := by
  cases h <;> cases k <;> first | rfl | cases same

namespace Synthesis

variable {s : Synthesis}

def given (context : Option DecisionContext) : List Finding :=
  (context.map DecisionContext.findings).getD []

def gathered (s : Synthesis) (context : Option DecisionContext) : List Finding :=
  given context ++ s.live.map HorizonRecommendation.asFinding

theorem findings_collector : (s.collector context).findings = s.gathered context := by
  cases context <;> rfl

theorem mem_gathered_iff {f : Finding} :
    f ∈ s.gathered context ↔ f ∈ given context ∨ ∃ rec_ ∈ s.live, rec_.asFinding = f := by
  rw [gathered, List.mem_append, List.mem_map]

theorem weight_le {g : Finding} (mem : g ∈ s.gathered context) :
    g.weight ≤ (decideFindings (s.gathered context)).weight :=
  (weight_decide (List.ne_nil_of_mem mem)).2 g mem

theorem decide_mem {g : Finding} (mem : g ∈ s.gathered context) :
    decideFindings (s.gathered context) ∈ s.gathered context :=
  (weight_decide (List.ne_nil_of_mem mem)).1

theorem verdict_synthesise :
    (s.synthesise context).verdict = (decideFindings (s.gathered context)).verdict := by
  rw [← findings_collector]
  rfl

theorem severity_le {f : Finding} (mem : f ∈ s.gathered context) :
    f.verdict.severity ≤ (s.synthesise context).verdict.severity := by
  rw [verdict_synthesise]
  exact (severity_decide _ _).mp le_rfl f mem

theorem decidingHorizon_iff {h : Horizon} :
    (s.synthesise context).decidingHorizon = some h ↔
      ∃ rec_ ∈ s.live, rec_.horizon = h ∧
        ∀ g ∈ s.gathered context, g.weight ≤ rec_.asFinding.weight := by
  have same : ∀ rec_ ∈ s.live,
      (rec_.horizon.layerOf = (s.synthesise context).decision.layer ∧
        rec_.verdict = (s.synthesise context).decision.verdict) ↔
      ∀ g ∈ s.gathered context, g.weight ≤ rec_.asFinding.weight := by
    intro rec_ mem
    have here : rec_.asFinding ∈ s.gathered context :=
      mem_gathered_iff.mpr (.inr ⟨rec_, mem, rfl⟩)
    have won : (s.synthesise context).decision.layer =
        (decideFindings (s.gathered context)).layer := by
      rw [← findings_collector]
      rfl
    have verdict : (s.synthesise context).decision.verdict =
        (decideFindings (s.gathered context)).verdict := verdict_synthesise
    rw [won, verdict]
    constructor
    · intro ⟨layer, verdict⟩ g other
      refine (weight_le other).trans_eq ?_
      unfold Finding.weight
      rw [← layer, ← verdict]
      rfl
    · intro most
      have alike := Finding.eq_of_weight_eq
        (le_antisymm (weight_le here) (most _ (decide_mem here)))
      exact ⟨alike.2, alike.1⟩
  unfold MultiHorizonDecision.decidingHorizon
  rw [Option.map_eq_some_iff]
  constructor
  · intro ⟨rec_, found, is⟩
    have mem : rec_ ∈ s.live := List.mem_of_find?_eq_some found
    have fits := List.find?_some found
    exact ⟨rec_, mem, is, (same rec_ mem).mp (of_decide_eq_true fits)⟩
  · intro ⟨rec_, mem, is, most⟩
    have fits := (same rec_ mem).mpr most
    cases found : (s.synthesise context).recommendations.find? fun rec_ =>
        rec_.horizon.layerOf = (s.synthesise context).decision.layer ∧
          rec_.verdict = (s.synthesise context).decision.verdict with
    | none => exact absurd (decide_eq_true fits) (List.find?_eq_none.mp found rec_ mem)
    | some other =>
      refine ⟨other, rfl, ?_⟩
      have fits' := List.find?_some found
      rw [← is]
      exact Horizon.layerOf_injective ((of_decide_eq_true fits').1.trans fits.1.symm)

theorem winnerHorizon_of_mem {live : List HorizonRecommendation} {verdict : Verdict}
    (some_ : ∃ rec_ ∈ live, rec_.verdict = verdict) :
    ∃ rec_ ∈ live, rec_.verdict = verdict ∧ rec_.horizon = winnerHorizon live verdict := by
  obtain ⟨rec_, mem, is⟩ := some_
  have here : rec_.horizon ∈ (live.filter fun rec_ : HorizonRecommendation =>
      rec_.verdict = verdict).map HorizonRecommendation.horizon :=
    List.mem_map_of_mem (List.mem_filter.mpr ⟨mem, decide_eq_true is⟩)
  cases least : ((live.filter fun rec_ : HorizonRecommendation => rec_.verdict = verdict).map
      HorizonRecommendation.horizon).argmin Horizon.rank with
  | none =>
    rw [List.argmin_eq_none.mp least] at here
    cases here
  | some h =>
    obtain ⟨first, mem, horizon⟩ := List.mem_map.mp (List.argmin_mem least)
    obtain ⟨mem, is⟩ := List.mem_filter.mp mem
    refine ⟨first, mem, of_decide_eq_true is, ?_⟩
    rw [winnerHorizon, least, horizon]
    rfl

theorem isSome_deferredOf {winner : Horizon} {verdict : Verdict} {rec_ : HorizonRecommendation} :
    (deferredOf winner verdict rec_).isSome = true ↔
      rec_.verdict ≠ verdict ∧ ¬ rec_.horizon.isSafety = true := by
  unfold deferredOf
  by_cases agrees : rec_.verdict = verdict
  · rw [if_pos agrees]
    exact iff_of_false Bool.false_ne_true fun other => other.1 agrees
  · rw [if_neg agrees]
    by_cases safety : rec_.horizon.isSafety = true
    · rw [if_pos safety]
      exact iff_of_false Bool.false_ne_true fun other => other.2 safety
    · rw [if_neg safety, Option.isSome_some]
      exact iff_of_true rfl ⟨agrees, safety⟩

theorem displacedBy_deferredOf {winner : Horizon} {verdict : Verdict}
    {rec_ : HorizonRecommendation} {d : Deferred} (is : deferredOf winner verdict rec_ = some d) :
    d.displacedBy = winner := by
  unfold deferredOf at is
  split at is
  · cases is
  · split at is <;> cases is
    rfl

theorem exists_verdict_iff :
    (∃ rec_ ∈ s.live, rec_.verdict = (s.synthesise context).verdict) ↔
      ∃ rec_ ∈ s.live, ∀ f ∈ given context, f.verdict.severity ≤ rec_.verdict.severity := by
  constructor
  · intro ⟨rec_, mem, is⟩
    refine ⟨rec_, mem, fun f here => ?_⟩
    rw [is]
    exact severity_le (mem_gathered_iff.mpr (.inl here))
  · intro ⟨rec_, mem, most⟩
    have here : rec_.asFinding ∈ s.gathered context :=
      mem_gathered_iff.mpr (.inr ⟨rec_, mem, rfl⟩)
    rcases mem_gathered_iff.mp (decide_mem here) with theirs | ⟨won, mem', is⟩
    · refine ⟨rec_, mem, DecisionContext.verdict_injective (le_antisymm (severity_le here) ?_)⟩
      rw [verdict_synthesise]
      exact most _ theirs
    · refine ⟨won, mem', ?_⟩
      rw [verdict_synthesise, ← is]
      rfl

def Displaced (s : Synthesis) (context : Option DecisionContext) : Prop :=
  ∀ d ∈ (s.synthesise context).deferred, ∃ rec_ ∈ s.live,
    rec_.verdict = (s.synthesise context).verdict ∧ rec_.horizon = d.displacedBy

theorem displaced_iff :
    s.Displaced context ↔ (∀ rec_ ∈ s.live, rec_.horizon.isSafety = true) ∨
      ∃ rec_ ∈ s.live, ∀ f ∈ given context, f.verdict.severity ≤ rec_.verdict.severity := by
  rw [← exists_verdict_iff]
  constructor
  · intro displaced
    by_contra neither
    rw [not_or] at neither
    obtain ⟨rec_, kept⟩ := not_forall.mp neither.1
    obtain ⟨mem, waits⟩ := Classical.not_imp.mp kept
    have differs : rec_.verdict ≠ (s.synthesise context).verdict :=
      fun same => neither.2 ⟨rec_, mem, same⟩
    obtain ⟨d, is⟩ := Option.isSome_iff_exists.mp (isSome_deferredOf.mpr ⟨differs, waits⟩)
    obtain ⟨won, here, verdict, -⟩ := displaced d (List.mem_filterMap.mpr ⟨rec_, mem, is⟩)
    exact neither.2 ⟨won, here, verdict⟩
  · intro either d entry
    obtain ⟨rec_, mem, is⟩ := List.mem_filterMap.mp entry
    rcases either with safety | won
    · exact absurd (safety rec_ mem) (isSome_deferredOf.mp (Option.isSome_of_eq_some is)).2
    · rw [displacedBy_deferredOf is]
      exact winnerHorizon_of_mem won

theorem synthesise_live :
    { s with recommendations := s.live }.synthesise context =
      { s.synthesise context with expired := [] } := by
  have live_ : Synthesis.live { s with recommendations := s.live } = s.live := by
    unfold live
    rw [List.filter_filter]
    exact List.filter_congr fun rec_ _ => Bool.and_self _
  have none_ : s.live.filter (!·.live s.now) = [] := by
    refine List.filter_eq_nil_iff.mpr fun rec_ mem => ?_
    rw [(List.mem_filter.mp mem).2]
    exact Bool.false_ne_true
  have gathers : Synthesis.collector { s with recommendations := s.live } context =
      s.collector context := by
    unfold collector
    rw [live_]
  unfold synthesise
  rw [gathers, live_]
  rw [none_]

def Pure (s : Synthesis) (context : Option DecisionContext) : Prop :=
  ∀ later : Synthesis, later.synthesise (s.contextAfter context) = later.synthesise context

theorem pure_iff : s.Pure context ↔ context = none ∨ s.live = [] := by
  constructor
  · intro pure_
    cases context with
    | none => exact .inl rfl
    | some c =>
      -- a later call without recommendations shows what was left behind
      have same := congrArg (fun d => d.decision.findings.length)
        (pure_ { s with recommendations := [] })
      have longer : (c.findings ++ s.live.map HorizonRecommendation.asFinding).length =
          c.findings.length := by
        simpa only [synthesise, DecisionContext.decide, findings_collector, gathered, live, given,
          contextAfter, collector, Option.map_some, Option.getD_some, List.filter_nil,
          List.map_nil, List.append_nil] using same
      rw [List.length_append, List.length_map] at longer
      exact .inr (List.eq_nil_of_length_eq_zero (by omega))
  · intro either later
    rcases either with rfl | none_
    · rfl
    · cases context with
      | none => rfl
      | some c =>
        unfold contextAfter collector
        rw [none_, List.map_nil]
        exact congrArg later.synthesise (congrArg some
          (congrArg (fun findings => { c with findings }) (List.append_nil c.findings)))

def Decided (s : Synthesis) (context : Option DecisionContext) (rec_ : HorizonRecommendation) :
    Prop :=
  (∀ other ∈ s.live, other.asFinding.weight ≤ rec_.asFinding.weight) ∧
    ∀ f ∈ given context, f.weight < rec_.asFinding.weight

def NamesDecided (s : Synthesis) (context : Option DecisionContext) : Prop :=
  ∀ h, (s.synthesise context).decidingHorizon = some h ↔
    ∃ rec_ ∈ s.live, rec_.horizon = h ∧ s.Decided context rec_

theorem namesDecided_iff :
    s.NamesDecided context ↔ ∀ f ∈ given context, ∀ rec_ ∈ s.live,
      f.verdict = rec_.verdict → f.layer = rec_.horizon.layerOf →
        ∃ g ∈ s.gathered context, f.weight < g.weight := by
  constructor
  · intro names f theirs rec_ mem verdict layer
    by_contra most
    have tie : f.weight = rec_.asFinding.weight := by
      unfold Finding.weight
      rw [verdict, layer]
      rfl
    have named := decidingHorizon_iff.mpr ⟨rec_, mem, rfl, fun g here =>
      (not_lt.mp fun less => most ⟨g, here, less⟩).trans_eq tie⟩
    obtain ⟨won, here, is, decided⟩ := (names rec_.horizon).mp named
    have lighter : won.asFinding.weight ≤ f.weight :=
      not_lt.mp fun less => most ⟨_, mem_gathered_iff.mpr (.inr ⟨won, here, rfl⟩), less⟩
    exact absurd (decided.2 f theirs) lighter.not_gt
  · intro apart h
    rw [decidingHorizon_iff]
    constructor
    · intro ⟨rec_, mem, is, most⟩
      refine ⟨rec_, mem, is, fun other here => most _ (mem_gathered_iff.mpr
        (.inr ⟨other, here, rfl⟩)), fun f theirs => ?_⟩
      have atMost := most f (mem_gathered_iff.mpr (.inl theirs))
      refine lt_of_le_of_ne atMost fun tie => ?_
      obtain ⟨verdict, layer⟩ := Finding.eq_of_weight_eq tie
      obtain ⟨g, here, heavier⟩ := apart f theirs rec_ mem verdict layer
      exact absurd (most g here) (tie ▸ heavier).not_ge
    · intro ⟨rec_, mem, is, decided⟩
      refine ⟨rec_, mem, is, fun g here => ?_⟩
      rcases mem_gathered_iff.mp here with theirs | ⟨other, live, rfl⟩
      · exact (decided.2 g theirs).le
      · exact decided.1 other live

structure Truthful (s : Synthesis) (context : Option DecisionContext) : Prop where
  severe : ∀ f ∈ s.gathered context,
    f.verdict.severity ≤ (s.synthesise context).verdict.severity
  unswayed : { s with recommendations := s.live }.synthesise context =
    { s.synthesise context with expired := [] }
  isPure : s.Pure context
  displaced : s.Displaced context
  names : s.NamesDecided context

/-- A synthesis is pure and explains itself truthfully when the caller gives no context or no
recommendation is live. Alone, what displaced is named truthfully when every live recommendation is
of a safety horizon or one is as severe as all the caller found; and what decided is, when no
finding of the caller has the verdict and the layer of a live recommendation, or something
outweighs it. -/
theorem synthesis_truthful_iff (s : Synthesis) (context : Option DecisionContext) :
    (s.Truthful context ↔ context = none ∨ s.live = []) ∧
      (s.Displaced context ↔ (∀ rec_ ∈ s.live, rec_.horizon.isSafety = true) ∨
        ∃ rec_ ∈ s.live, ∀ f ∈ given context, f.verdict.severity ≤ rec_.verdict.severity) ∧
      (s.NamesDecided context ↔ ∀ f ∈ given context, ∀ rec_ ∈ s.live,
        f.verdict = rec_.verdict → f.layer = rec_.horizon.layerOf →
          ∃ g ∈ s.gathered context, f.weight < g.weight) := by
  refine ⟨⟨fun truthful => pure_iff.mp truthful.isPure, fun either => ?_⟩,
    displaced_iff, namesDecided_iff⟩
  refine ⟨fun f => severity_le, synthesise_live, pure_iff.mpr either, displaced_iff.mpr ?_,
    namesDecided_iff.mpr fun f theirs rec_ mem => ?_⟩
  · by_cases none_ : s.live = []
    · exact .inl fun rec_ mem => absurd (none_ ▸ mem) List.not_mem_nil
    · obtain ⟨rec_, mem⟩ := List.exists_mem_of_ne_nil _ none_
      refine .inr ⟨rec_, mem, fun f theirs => ?_⟩
      rw [either.resolve_right none_] at theirs
      cases theirs
  · rcases either with rfl | none_
    · cases theirs
    · exact absurd (none_ ▸ mem) List.not_mem_nil

def refused : Option DecisionContext :=
  some { now := 0, findings := [{ layer := .risk, verdict := .reject, reason := [] }] }

def alone (horizon : Horizon) (verdict : Verdict) : Synthesis :=
  { decisionId := "d", accountId := "a", now := 0
    recommendations := [{ horizon, verdict, reason := [], at_ := some 0 }] }

/-- A long-term recommendation waits for an emergency nobody reported, and the call is remembered;
and an immediate risk is named as deciding where the caller's refusal did. -/
theorem not_forall_synthesis_truthful :
    (¬ (alone .longTerm .allow).Pure refused ∧ ¬ (alone .longTerm .allow).Displaced refused) ∧
      ¬ (alone .immediateRisk .reject).NamesDecided refused := by
  refine ⟨⟨?_, ?_⟩, ?_⟩
  · rw [pure_iff]
    decide +kernel
  · rw [displaced_iff]
    decide +kernel
  · rw [namesDecided_iff]
    decide +kernel

end Synthesis

end TradeResearch.Portfolio
