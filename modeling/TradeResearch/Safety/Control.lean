import TradeResearch.Lib.Text

/-!
# What an action may do without a person

`backend/app/portfolio/control.py`, and of `backend/app/portfolio/decision.py` what resolves the
findings of several layers. An action is classified by its effect; the ledger of what was applied
can demote a classification and never promotes one. `repr` of a text is a parameter.

* `ActionClass.Suits` is what a class says of an effect; `permitted_spec` that it does.
* `severity_decide` is the severity of a decision: the largest among its findings.
-/

namespace TradeResearch.Safety

inductive Effect where
  | tightens
  | neutral
  | loosens
  deriving DecidableEq

def Effect.name : Effect → String
  | tightens => "TIGHTENS"
  | neutral => "NEUTRAL"
  | loosens => "LOOSENS"

inductive ActionClass where
  | observeOnly
  | recommend
  | autoApplyBounded
  | requiresApproval
  | forbidden
  deriving DecidableEq

structure Action where
  kind : String
  target : String
  effect : Effect
  touchesHardLimit : Bool := false
  withinBounds : Bool := true
  reversible : Bool := true

def classify (repr : String → String) (a : Action) : ActionClass × Text :=
  if a.touchesHardLimit = true ∧ a.effect = .loosens then
    (.forbidden, Text.lit (s!"{repr a.kind} would loosen a hard constraint ({a.target}). " ++
      "Autonomy may take permissions away and never grant them, so this is " ++
      "forbidden regardless of magnitude, bounds or reversibility. Raising a " ++
      "hard limit is a governance action a person takes, with its own approval"))
  else if a.touchesHardLimit = true ∧ a.effect = .tightens then
    (.autoApplyBounded, Text.lit (s!"{repr a.kind} tightens {a.target}. A control that is " ++
      "expensive to engage is one nobody engages in an emergency, so this may be applied " ++
      "autonomously and is audited"))
  else if a.effect = .loosens then
    (.requiresApproval,
      Text.lit (s!"{repr a.kind} would increase what is permitted on {a.target}" ++
        if a.withinBounds = true then
          ", and does so within an approved range -- but 'never automatically " ++
            "increase risk' has no in-range exception"
        else ", outside any approved range"))
  else if a.effect = .tightens then
    if a.withinBounds = false then
      (.requiresApproval, Text.lit (s!"{repr a.kind} tightens {a.target} beyond any approved " ++
        "range. A large reduction is still a large change, and one nobody sized"))
    else if a.reversible = false then
      (.requiresApproval, Text.lit (s!"{repr a.kind} tightens {a.target} irreversibly; bounded " ++
        "autonomy assumes a way back"))
    else
      (.autoApplyBounded,
        Text.lit s!"{repr a.kind} reduces {a.target} within an approved range and can be undone")
  else
    (.recommend, Text.lit (s!"{repr a.kind} changes nothing about what is permitted; it is " ++
      "offered as a recommendation"))

structure ActionLedger where
  limit : ℤ := 3
  window : ℚ := 3600
  applied : List (Time × String × Effect) := []

namespace ActionLedger

variable (l : ActionLedger)

def trim (now : Time) : ActionLedger :=
  { l with applied := l.applied.dropWhile fun entry => entry.1 < now - l.window }

def record (a : Action) (at_ : Time) : ActionLedger :=
  trim { l with applied := l.applied ++ [(at_, a.target, a.effect)] } at_

def directionChanges (target : String) : ℕ :=
  let directions := (l.applied.filter fun entry =>
    decide (entry.2.1 = target ∧ entry.2.2 ≠ .neutral)).map fun entry => entry.2.2
  (directions.zip directions.tail).countP fun pair => pair.1 ≠ pair.2

def oscillating (target : String) (now : Time) : Option Text :=
  let changes := (l.trim now).directionChanges target
  if (changes : ℤ) < l.limit then none
  else
    some (Text.lit s!"{target} has reversed direction " ++ Text.num changes ++
      Text.lit " times in " ++ Text.num (l.window / 3600) ++ Text.lit "h, which is its limit of " ++
      Text.num l.limit ++
      Text.lit (". A control that alternates is not responding to " ++
        "conditions, it is arguing with itself; it holds until a person looks"))

end ActionLedger

def permitted (repr : String → String) (a : Action) (ledger : ActionLedger) (now : Time) :
    (ActionClass × Text) × ActionLedger :=
  let verdict := classify repr a
  if verdict.1 = .forbidden then (verdict, ledger)
  else if a.touchesHardLimit = true ∧ a.effect = .tightens then (verdict, ledger)
  else
    match ledger.oscillating a.target now with
    | some loop =>
      if verdict.1 = .autoApplyBounded then ((.requiresApproval, loop), ledger.trim now)
      else (verdict, ledger.trim now)
    | none => (verdict, ledger.trim now)

def ActionClass.Suits (c : ActionClass) (e : Effect) : Prop :=
  match c with
  | .observeOnly => False
  | .recommend => e = .neutral
  | .autoApplyBounded => e = .tightens
  | .requiresApproval | .forbidden => True

theorem classify_spec (repr : String → String) (a : Action) :
    (classify repr a).1.Suits a.effect := by
  unfold classify
  by_cases hardLoosens : a.touchesHardLimit = true ∧ a.effect = .loosens
  · rw [if_pos hardLoosens]
    exact True.intro
  · rw [if_neg hardLoosens]
    by_cases hardTightens : a.touchesHardLimit = true ∧ a.effect = .tightens
    · rw [if_pos hardTightens]
      exact hardTightens.2
    · rw [if_neg hardTightens]
      by_cases loosens : a.effect = .loosens
      · rw [if_pos loosens]
        exact True.intro
      · rw [if_neg loosens]
        by_cases tightens : a.effect = .tightens
        · rw [if_pos tightens]
          split
          · exact True.intro
          · split
            · exact True.intro
            · exact tightens
        · rw [if_neg tightens]
          cases effect : a.effect with
          | neutral => rfl
          | tightens => exact absurd effect tightens
          | loosens => exact absurd effect loosens

theorem permitted_spec (repr : String → String) (a : Action) (ledger : ActionLedger) (now : Time) :
    (permitted repr a ledger now).1.1.Suits a.effect := by
  have spec := classify_spec repr a
  unfold permitted
  dsimp only
  split
  · exact spec
  · split
    · exact spec
    · split
      · split
        · exact True.intro
        · exact spec
      · exact spec

inductive Layer where
  | preference
  | optimization
  | signal
  | strategy
  | portfolio
  | risk
  | hardSafety
  deriving DecidableEq

namespace Layer

def rank : Layer → ℕ
  | preference => 1
  | optimization => 2
  | signal => 3
  | strategy => 4
  | portfolio => 5
  | risk => 6
  | hardSafety => 7

def name : Layer → String
  | preference => "PREFERENCE"
  | optimization => "OPTIMIZATION"
  | signal => "SIGNAL"
  | strategy => "STRATEGY"
  | portfolio => "PORTFOLIO"
  | risk => "RISK"
  | hardSafety => "HARD_SAFETY"

end Layer

inductive Verdict where
  | allow
  | review
  | reduce
  | restrict
  | defer
  | pause
  | reject
  deriving DecidableEq

namespace Verdict

def severity : Verdict → ℕ
  | allow => 0
  | review => 1
  | reduce => 2
  | restrict => 3
  | defer => 4
  | pause => 5
  | reject => 6

def name : Verdict → String
  | allow => "ALLOW"
  | review => "REVIEW"
  | reduce => "REDUCE"
  | restrict => "RESTRICT"
  | defer => "DEFER"
  | pause => "PAUSE"
  | reject => "REJECT"

end Verdict

structure Finding where
  layer : Layer
  verdict : Verdict
  reason : Text

def Finding.worse (f g : Finding) : Bool :=
  f.verdict.severity < g.verdict.severity ||
    (f.verdict.severity = g.verdict.severity && f.layer.rank < g.layer.rank)

def decideFindings : List Finding → Finding
  | [] =>
    { layer := .preference, verdict := .allow
      reason := Text.lit "no layer reported a reason to restrict" }
  | f :: findings => findings.foldl (fun best g => if best.worse g = true then g else best) f

theorem severity_foldl (findings : List Finding) (f : Finding) :
    ∀ n, (findings.foldl (fun best g => if best.worse g = true then g else best)
        f).verdict.severity ≤ n ↔
      f.verdict.severity ≤ n ∧ ∀ g ∈ findings, g.verdict.severity ≤ n := by
  induction findings generalizing f with
  | nil => exact fun n => by simp
  | cons g findings ih =>
    intro n
    rw [List.foldl_cons, ih, List.forall_mem_cons, ← and_assoc]
    refine and_congr_left fun _ => ?_
    unfold Finding.worse
    by_cases less : f.verdict.severity < g.verdict.severity
    · simp only [less, decide_true, Bool.true_or, if_true]
      omega
    · by_cases same : f.verdict.severity = g.verdict.severity
      · split <;> omega
      · simp only [less, same, decide_false, Bool.false_and, Bool.or_false, Bool.false_eq_true,
          if_false]
        omega

theorem severity_decide (findings : List Finding) (n : ℕ) :
    (decideFindings findings).verdict.severity ≤ n ↔
      ∀ g ∈ findings, g.verdict.severity ≤ n := by
  cases findings with
  | nil => exact iff_of_true (Nat.zero_le n) fun g mem => by cases mem
  | cons f findings =>
    rw [List.forall_mem_cons]
    exact severity_foldl findings f n

def Finding.weight (f : Finding) : ℕ := 8 * f.verdict.severity + f.layer.rank

theorem Finding.worse_iff {f g : Finding} : f.worse g = true ↔ f.weight < g.weight := by
  have small : f.layer.rank < 8 ∧ g.layer.rank < 8 := by
    cases f.layer <;> cases g.layer <;> decide
  unfold Finding.worse Finding.weight
  rw [Bool.or_eq_true, Bool.and_eq_true, decide_eq_true_iff, decide_eq_true_iff,
    decide_eq_true_iff]
  omega

theorem Finding.eq_of_weight_eq {f g : Finding} (same : f.weight = g.weight) :
    f.verdict = g.verdict ∧ f.layer = g.layer := by
  have small : f.layer.rank < 8 ∧ g.layer.rank < 8 := by
    cases f.layer <;> cases g.layer <;> decide
  unfold Finding.weight at same
  have severity : f.verdict.severity = g.verdict.severity := by omega
  have rank : f.layer.rank = g.layer.rank := by omega
  constructor
  · revert severity
    cases f.verdict <;> cases g.verdict <;> first | exact fun _ => rfl | exact nofun
  · revert rank
    cases f.layer <;> cases g.layer <;> first | exact fun _ => rfl | exact nofun

theorem weight_foldl (findings : List Finding) (f best : Finding)
    (is : findings.foldl (fun best g => if best.worse g = true then g else best) f = best) :
    best ∈ f :: findings ∧ ∀ g ∈ f :: findings, g.weight ≤ best.weight := by
  induction findings generalizing f with
  | nil =>
    cases is
    exact ⟨List.mem_singleton_self f, fun g mem => (List.mem_singleton.mp mem) ▸ le_rfl⟩
  | cons g findings ih =>
    rw [List.foldl_cons] at is
    by_cases worse : f.worse g = true
    · rw [if_pos worse] at is
      obtain ⟨mem, most⟩ := ih g is
      refine ⟨List.mem_cons_of_mem _ mem, fun h here => ?_⟩
      rcases List.mem_cons.mp here with rfl | here
      · exact (Finding.worse_iff.mp worse).le.trans (most g List.mem_cons_self)
      · exact most h here
    · rw [if_neg worse] at is
      obtain ⟨mem, most⟩ := ih f is
      have lighter : g.weight ≤ f.weight := not_lt.mp fun less => worse (Finding.worse_iff.mpr less)
      refine ⟨?_, fun h here => ?_⟩
      · rcases List.mem_cons.mp mem with same | mem
        · exact same ▸ List.mem_cons_self
        · exact List.mem_cons_of_mem _ (List.mem_cons_of_mem _ mem)
      · rcases List.mem_cons.mp here with rfl | here
        · exact most h List.mem_cons_self
        · rcases List.mem_cons.mp here with rfl | here
          · exact lighter.trans (most f List.mem_cons_self)
          · exact most h (List.mem_cons_of_mem _ here)

theorem weight_decide {findings : List Finding} (some_ : findings ≠ []) :
    decideFindings findings ∈ findings ∧
      ∀ g ∈ findings, g.weight ≤ (decideFindings findings).weight := by
  cases findings with
  | nil => exact absurd rfl some_
  | cons f findings => exact weight_foldl findings f _ rfl

end TradeResearch.Safety
