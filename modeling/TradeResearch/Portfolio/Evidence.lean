import Mathlib.Algebra.Order.Ring.Rat
import Mathlib.Data.List.Perm.Basic
import TradeResearch.Safety.Control

/-!
# Evidence

`backend/app/portfolio/decision.py`: what a decision rests on, and whether it is still true. A naive
stamp is the instant it is in UTC, and why a policy is what it is is left out.

* `freshness_eq_fresh_iff` is when an input is fresh.
* `verdict_decide_perm`, `severity_decide_addFinding`: a verdict does not depend on the order of the
  findings, and one more does not make it milder.
* `strict_iff`: when a decision is as strict as its evidence.
-/

namespace TradeResearch.Portfolio

open Safety

inductive Freshness where
  | fresh
  | aging
  | stale
  | conflicted
  | missing
  | invalid
  deriving DecidableEq

def Freshness.name : Freshness → String
  | fresh => "FRESH"
  | aging => "AGING"
  | stale => "STALE"
  | conflicted => "CONFLICTED"
  | missing => "MISSING"
  | invalid => "INVALID"

def defaultMaxAge : ℚ := 300

structure Staleness where
  maxAge : Option ℚ
  agingAfter : Option ℚ

def policy : String → Option Staleness
  | "quote" => some ⟨some 30, some 10⟩
  | "position" => some ⟨some 300, some 120⟩
  | "account" => some ⟨some 300, some 120⟩
  | "risk_state" => some ⟨some 60, some 30⟩
  | "fundamentals" => some ⟨some (45 * 86400), some (21 * 86400)⟩
  | "guidance" => some ⟨none, some (21 * 86400)⟩
  | "earnings" => some ⟨none, some (21 * 86400)⟩
  | "channel" => some ⟨some (30 * 86400), some (7 * 86400)⟩
  | _ => none

def stalenessFor (kind : Option String) : Staleness :=
  (kind.bind policy).getD ⟨some defaultMaxAge, none⟩

structure Input where
  name : String
  source : String
  value : Option Text := none
  at_ : Option Time := none
  version : Option String := none
  conflicted : Bool := false
  kind : Option String := none

def Input.freshness (i : Input) (now : Time) (maxAge agingAfter : Option ℚ) : Freshness :=
  if i.value.isNone then .missing
  else
    match i.at_ with
    | none => .invalid
    | some at_ =>
      if now + 1 < at_ then .invalid
      else if i.conflicted = true then .conflicted
      else
        let policy := stalenessFor i.kind
        let limit := maxAge.or policy.maxAge
        let soft := agingAfter.or policy.agingAfter
        let age := now - at_
        if limit.any (· < age) then .stale
        else if soft.any (· < age) then .aging
        else .fresh

structure Decision where
  verdict : Verdict
  layer : Layer
  reason : Text
  at_ : Time
  findings : List Finding
  degradedInputs : List (String × Freshness)

def Decision.allowsNewRisk (d : Decision) : Bool := d.verdict = .allow

structure DecisionContext where
  now : Time
  inputs : List Input := []
  findings : List Finding := []
  maxAge : ℚ := defaultMaxAge

namespace DecisionContext

variable (c : DecisionContext)

def addFinding (finding : Finding) : DecisionContext :=
  { c with findings := c.findings ++ [finding] }

def stateOf (item : Input) : Freshness := item.freshness c.now (some c.maxAge) none

def degraded : List (String × Freshness) :=
  c.inputs.filterMap fun item =>
    if c.stateOf item = .fresh then none else some (item.name, c.stateOf item)

def byName (name : String) : Option Input := c.inputs.reverse.find? fun item => item.name = name

def required (name : String) : Freshness :=
  match c.byName name with
  | none => .missing
  | some item => c.stateOf item

def unfresh (verdict : Verdict) (name : String) : Option Finding :=
  if c.required name = .fresh then none
  else
    some
      { layer := .hardSafety
        verdict
        reason := Text.lit (s!"{name} is {(c.required name).name} and the decision requires it. " ++
          "Missing information is never read as permission") }

def requireFresh (names : List String) (verdict : Verdict := .defer) : DecisionContext :=
  { c with findings := c.findings ++ names.filterMap (c.unfresh verdict) }

def decide : Decision :=
  let winner := decideFindings c.findings
  { verdict := winner.verdict
    layer := winner.layer
    reason := winner.reason
    at_ := c.now
    findings := c.findings
    degradedInputs := c.degraded }

end DecisionContext

namespace Input

variable {i : Input} {now : Time}

def Good (now : Time) (limit : Option ℚ) (i : Input) : Prop :=
  i.value ≠ none ∧ i.conflicted = false ∧ ∃ at_, i.at_ = some at_ ∧ at_ ≤ now + 1 ∧
    (∀ most, limit = some most → now - at_ ≤ most) ∧
      ∀ soft, (stalenessFor i.kind).agingAfter = some soft → now - at_ ≤ soft

def EventBounded (i : Input) : Prop := (stalenessFor i.kind).maxAge = none

theorem freshness_of_read {at_ : Time} (value : i.value ≠ none) (is : i.at_ = some at_)
    (past : at_ ≤ now + 1) (agreed : i.conflicted = false) (agingAfter : Option ℚ) :
    i.freshness now maxAge agingAfter =
      if (maxAge.or (stalenessFor i.kind).maxAge).any (· < now - at_) then .stale
      else if (agingAfter.or (stalenessFor i.kind).agingAfter).any (· < now - at_) then .aging
      else .fresh := by
  unfold freshness
  rw [if_neg (mt Option.isNone_iff_eq_none.mp value), is]
  dsimp only
  rw [if_neg (not_lt.mpr past), if_neg (by rw [agreed]; exact Bool.false_ne_true)]

theorem freshness_of_unread (unread : ¬ (i.value ≠ none ∧ i.conflicted = false ∧
    ∃ at_, i.at_ = some at_ ∧ at_ ≤ now + 1)) (agingAfter : Option ℚ) :
    i.freshness now maxAge agingAfter ≠ .fresh ∧ i.freshness now maxAge agingAfter ≠ .stale := by
  unfold freshness
  split
  · exact ⟨nofun, nofun⟩
  · next value =>
    split
    · exact ⟨nofun, nofun⟩
    · next at_ is =>
      split
      · exact ⟨nofun, nofun⟩
      · next past =>
        split
        · exact ⟨nofun, nofun⟩
        · next agreed =>
          exact absurd ⟨mt Option.isNone_iff_eq_none.mpr value, Bool.eq_false_of_not_eq_true agreed,
            at_, is, not_lt.mp past⟩ unread

theorem any_lt_iff {limit : Option ℚ} {age : ℚ} :
    limit.any (· < age) = true ↔ ∃ most, limit = some most ∧ most < age := by
  cases limit with
  | none => exact iff_of_false Bool.false_ne_true nofun
  | some most =>
    rw [Option.any_some, decide_eq_true_iff]
    exact ⟨fun less => ⟨most, rfl, less⟩, fun ⟨_, is, less⟩ => Option.some.inj is ▸ less⟩

theorem not_any_lt_iff {limit : Option ℚ} {age : ℚ} :
    ¬ limit.any (· < age) = true ↔ ∀ most, limit = some most → age ≤ most := by
  rw [any_lt_iff]
  exact ⟨fun within most is => not_lt.mp fun less => within ⟨most, is, less⟩,
    fun within ⟨most, is, less⟩ => (within most is).not_gt less⟩

theorem freshness_eq_fresh_iff :
    i.freshness now maxAge none = .fresh ↔ i.Good now (maxAge.or (stalenessFor i.kind).maxAge) := by
  by_cases read : i.value ≠ none ∧ i.conflicted = false ∧ ∃ at_, i.at_ = some at_ ∧ at_ ≤ now + 1
  · obtain ⟨value, agreed, at_, is, past⟩ := read
    rw [freshness_of_read value is past agreed, Option.none_or]
    constructor
    · intro fresh
      split at fresh
      · cases fresh
      · next limit =>
        split at fresh
        · cases fresh
        · next soft =>
          exact ⟨value, agreed, at_, is, past,
            not_any_lt_iff.mp limit, not_any_lt_iff.mp soft⟩
    · intro ⟨_, _, at', is', _, limit, soft⟩
      cases is.symm.trans is'
      rw [if_neg (not_any_lt_iff.mpr limit), if_neg (not_any_lt_iff.mpr soft)]
  · refine iff_of_false (freshness_of_unread read none).1 ?_
    intro ⟨value, agreed, at_, is, past, _⟩
    exact read ⟨value, agreed, at_, is, past⟩

theorem freshness_eq_stale_iff {agingAfter : Option ℚ} :
    i.freshness now maxAge agingAfter = .stale ↔
      i.value ≠ none ∧ i.conflicted = false ∧ ∃ at_, i.at_ = some at_ ∧ at_ ≤ now + 1 ∧
        ∃ most, maxAge.or (stalenessFor i.kind).maxAge = some most ∧ most < now - at_ := by
  by_cases read : i.value ≠ none ∧ i.conflicted = false ∧ ∃ at_, i.at_ = some at_ ∧ at_ ≤ now + 1
  · obtain ⟨value, agreed, at_, is, past⟩ := read
    rw [freshness_of_read value is past agreed]
    constructor
    · intro stale
      split at stale
      · next limit =>
        exact ⟨value, agreed, at_, is, past, any_lt_iff.mp limit⟩
      · split at stale <;> cases stale
    · intro ⟨_, _, at', is', _, most, limit, less⟩
      cases is.symm.trans is'
      rw [if_pos (any_lt_iff.mpr ⟨most, limit, less⟩)]
  · refine iff_of_false (freshness_of_unread read agingAfter).2 ?_
    intro ⟨value, agreed, at_, is, past, _⟩
    exact read ⟨value, agreed, at_, is, past⟩

end Input

namespace DecisionContext

variable {c : DecisionContext}

theorem verdict_injective {v w : Verdict} (same : v.severity = w.severity) : v = w := by
  cases v <;> cases w <;> first | rfl | cases same

theorem verdict_decide_perm {findings : List Finding} (perm : findings.Perm c.findings) :
    { c with findings }.decide.verdict = c.decide.verdict := by
  refine verdict_injective (le_antisymm ?_ ?_)
  · rw [decide, severity_decide]
    intro g mem
    exact (severity_decide c.findings _).mp le_rfl g (perm.mem_iff.mp mem)
  · rw [decide, severity_decide]
    intro g mem
    exact (severity_decide findings _).mp le_rfl g (perm.mem_iff.mpr mem)

theorem severity_decide_addFinding (finding : Finding) :
    c.decide.verdict.severity ≤ (c.addFinding finding).decide.verdict.severity := by
  rw [decide, severity_decide]
  intro g mem
  exact (severity_decide _ _).mp le_rfl g (List.mem_append_left _ mem)

theorem allowsNewRisk_iff :
    c.decide.allowsNewRisk = true ↔ ∀ f ∈ c.findings, f.verdict = .allow := by
  have zero : ∀ v : Verdict, v = .allow ↔ v.severity ≤ 0 := by
    intro v
    cases v <;> decide
  unfold Decision.allowsNewRisk
  rw [decide_eq_true_iff, zero, decide, severity_decide]
  exact forall₂_congr fun f _ => (zero f.verdict).symm

theorem allowsNewRisk_requireFresh_iff :
    (c.requireFresh names).decide.allowsNewRisk = true ↔
      (∀ f ∈ c.findings, f.verdict = .allow) ∧ ∀ name ∈ names, c.required name = .fresh := by
  rw [allowsNewRisk_iff]
  constructor
  · intro allowed
    refine ⟨fun f mem => allowed f (List.mem_append_left _ mem), fun name mem => ?_⟩
    by_contra unfresh
    have found : c.unfresh .defer name = some _ := if_neg unfresh
    have verdict := allowed _ (List.mem_append_right _ (List.mem_filterMap.mpr ⟨name, mem, found⟩))
    cases verdict
  · intro ⟨allowed, fresh⟩ f mem
    rcases List.mem_append.mp mem with old | new
    · exact allowed f old
    · obtain ⟨name, here, found⟩ := List.mem_filterMap.mp new
      have none_ : c.unfresh .defer name = none := if_pos (fresh name here)
      rw [none_] at found
      cases found

structure Strict (c : DecisionContext) (names : List String) : Prop where
  unordered : ∀ findings : List Finding, findings.Perm c.findings →
    { c with findings }.decide.verdict = c.decide.verdict
  severe : ∀ finding,
    c.decide.verdict.severity ≤ (c.addFinding finding).decide.verdict.severity
  fresh : (c.requireFresh names).decide.allowsNewRisk = true → ∀ name ∈ names, ∀ i ∈ c.inputs,
    i.name = name → i.freshness c.now none none = .fresh
  lasting : ∀ i ∈ c.inputs, i.EventBounded → c.stateOf i ≠ .stale

def Stopped (c : DecisionContext) (names : List String) : Prop :=
  (∃ f ∈ c.findings, f.verdict ≠ .allow) ∨
    ∃ name ∈ names, ∀ i, c.byName name = some i → ¬ i.Good c.now (some c.maxAge)

theorem required_eq_fresh_iff {name : String} :
    c.required name = .fresh ↔ ∃ i, c.byName name = some i ∧ i.Good c.now (some c.maxAge) := by
  unfold required
  cases c.byName name with
  | none => exact iff_of_false nofun fun ⟨_, is, _⟩ => by cases is
  | some item =>
    refine Input.freshness_eq_fresh_iff.trans ⟨fun good => ⟨item, rfl, good⟩, ?_⟩
    intro ⟨_, is, good⟩
    exact Option.some.inj is ▸ good

theorem allowed_iff_not_stopped :
    (c.requireFresh names).decide.allowsNewRisk = true ↔ ¬ c.Stopped names := by
  rw [allowsNewRisk_requireFresh_iff]
  unfold Stopped
  rw [not_or]
  refine and_congr ?_ ?_
  · simp only [not_exists, not_and, not_not]
  · simp only [not_exists, not_and, not_forall, not_not, required_eq_fresh_iff, exists_prop]

/-- A decision is as strict as its evidence exactly when something stops it anyway or every input of
a required name is good by the age its kind asks, and no good input that only an event ends is older
than the context allows. -/
theorem strict_iff (c : DecisionContext) (names : List String) :
    c.Strict names ↔
      (c.Stopped names ∨ ∀ name ∈ names, ∀ i ∈ c.inputs, i.name = name →
        i.Good c.now (stalenessFor i.kind).maxAge) ∧
      ∀ i ∈ c.inputs, i.EventBounded → i.value ≠ none → i.conflicted = false →
        ∀ at_, i.at_ = some at_ → at_ ≤ c.now + 1 → c.now - at_ ≤ c.maxAge := by
  have lasts : ∀ i : Input, c.stateOf i ≠ .stale ↔ (i.value ≠ none → i.conflicted = false →
      ∀ at_, i.at_ = some at_ → at_ ≤ c.now + 1 → c.now - at_ ≤ c.maxAge) := by
    intro i
    unfold stateOf
    rw [Ne, Input.freshness_eq_stale_iff]
    constructor
    · intro kept value agreed at_ is past
      by_contra older
      exact kept ⟨value, agreed, at_, is, past, c.maxAge, rfl, not_le.mp older⟩
    · intro kept ⟨value, agreed, at_, is, past, most, limit, older⟩
      cases limit
      exact (kept value agreed at_ is past).not_gt older
  constructor
  · intro strict
    refine ⟨?_, fun i mem bounded => (lasts i).mp (strict.lasting i mem bounded)⟩
    by_cases stopped : c.Stopped names
    · exact Or.inl stopped
    · refine Or.inr fun name here i mem named => ?_
      have fresh := strict.fresh (allowed_iff_not_stopped.mpr stopped) name here i mem named
      exact Input.freshness_eq_fresh_iff.mp fresh
  · intro ⟨fresh, lasting⟩
    refine ⟨fun _ => verdict_decide_perm, severity_decide_addFinding, ?_,
      fun i mem bounded => (lasts i).mpr (lasting i mem bounded)⟩
    intro allowed name here i mem named
    rcases fresh with stopped | good
    · exact absurd stopped (allowed_iff_not_stopped.mp allowed)
    · exact Input.freshness_eq_fresh_iff.mpr (good name here i mem named)

def tenMinutes : DecisionContext :=
  { now := 1000
    inputs := [{ name := "guidance", source := "filing", value := some [], at_ := some 400
                 kind := some "guidance" }] }

def twoPrices : DecisionContext :=
  { now := 1000
    inputs := [{ name := "price", source := "venue" },
      { name := "price", source := "cache", value := some [], at_ := some 1000 }] }

/-- The guidance is reported stale, and the missing price is masked by the fresh one. -/
theorem not_strict : ¬ tenMinutes.Strict [] ∧ ¬ twoPrices.Strict ["price"] := by
  constructor
  · intro strict
    exact strict.lasting _ (List.mem_singleton_self _) rfl (by decide +kernel)
  · intro strict
    have allowed : (twoPrices.requireFresh ["price"]).decide.allowsNewRisk = true := by
      decide +kernel
    have fresh := strict.fresh allowed "price" (List.mem_singleton_self _) _ List.mem_cons_self rfl
    revert fresh
    decide +kernel

end DecisionContext

end TradeResearch.Portfolio
