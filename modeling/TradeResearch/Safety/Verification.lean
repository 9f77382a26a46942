import Mathlib.Algebra.Order.Ring.Rat
import Mathlib.Data.List.Dedup
import TradeResearch.Lib.Decimal
import TradeResearch.Safety.Control

/-!
# Verifying a proposed action

`backend/app/safety/verification.py` and `backend/app/safety/envelope.py`, and the levels and
targets of `backend/app/safety/autonomy.py`. The identifier of a result, `repr` of a text, the
digest of a fingerprint and the version of the rules are parameters.

* `PolicyVerificationEngine.refusals` is the list of what refuses a proposal, check by check, and
  `decision_verify` reads the decision back from it.
* `SafetyEnvelope.Fits` is what no breach means.
* `Cleared` is what is known of a proposal that may be applied without a person; `cleared_of_run`
  proves it after every history, and that a further refusing condition never weakens a decision.
-/

namespace TradeResearch.Safety

inductive AutonomyLevel where
  | observe
  | recommend
  | approval
  | bounded
  | certified
  deriving DecidableEq

namespace AutonomyLevel

def rank : AutonomyLevel → ℕ
  | observe => 0
  | recommend => 1
  | approval => 2
  | bounded => 3
  | certified => 4

def name : AutonomyLevel → String
  | observe => "OBSERVE"
  | recommend => "RECOMMEND"
  | approval => "APPROVAL"
  | bounded => "BOUNDED"
  | certified => "CERTIFIED"

def mayAutoApply (level : AutonomyLevel) : Bool := decide (bounded.rank ≤ level.rank)

end AutonomyLevel

def governanceTargets : List String :=
  ["autonomy_level", "autonomy", "certification", "certification_state", "certification_expiry",
    "certification_gate", "assurance_threshold", "assurance_dimension", "invariant",
    "invariant_status", "safety_invariant", "audit_logging", "audit_log", "monitoring",
    "approval_requirement", "approval_required", "policy_version", "verifier"]

def envelopeTargets : List String :=
  ["max_allocation_change", "max_capital_movement", "max_exposure_change",
    "max_actions_per_window", "action_window", "min_cooldown", "max_concurrent_actions",
    "max_chain_length", "max_retries", "min_confidence", "max_data_age", "safety_envelope"]

/-! ## The envelope -/

structure SafetyEnvelope where
  maxAllocationChange : Decimal := ⟨false, 10, -2⟩
  maxCapitalMovement : Decimal := ⟨false, 1000, 0⟩
  maxExposureChange : Decimal := ⟨false, 10, -2⟩
  maxActionsPerWindow : ℤ := 6
  maxConcurrentActions : ℤ := 3
  maxChainLength : ℤ := 3
  maxRetries : ℤ := 1
  minConfidence : Decimal := ⟨false, 60, -2⟩
  maxDataAge : ℚ := 300

structure EnvelopeBreach where
  bound : String
  limit : Text
  proposed : Text

def EnvelopeBreach.text (b : EnvelopeBreach) : Text :=
  Text.lit s!"{b.bound}: proposed " ++ b.proposed ++ Text.lit " against a limit of " ++ b.limit

structure Proposed where
  allocationChange : Option Decimal := none
  capitalMovement : Option Decimal := none
  exposureChange : Option Decimal := none
  confidence : Option Decimal := none
  dataAge : Option ℚ := none
  actionsInWindow : ℤ := 0
  concurrentActions : ℤ := 0
  chainLength : ℤ := 1
  retries : ℤ := 0

def overLimit (bound : String) (limit : Decimal) (value : Option Decimal) : List EnvelopeBreach :=
  match value with
  | some value =>
    if limit.value < |value.value| then
      [{ bound, limit := Text.lit limit.text, proposed := Text.lit value.text }]
    else []
  | none => []

def overCount (bound : String) (limit value : ℤ) : List EnvelopeBreach :=
  if limit < value then [{ bound, limit := Text.num limit, proposed := Text.num value }] else []

namespace SafetyEnvelope

variable (e : SafetyEnvelope) (p : Proposed)

def underConfidence : List EnvelopeBreach :=
  match p.confidence with
  | some confidence =>
    if confidence.value < e.minConfidence.value then
      [{ bound := "min_confidence", limit := Text.lit e.minConfidence.text
         proposed := Text.lit confidence.text }]
    else []
  | none => []

def overAge : List EnvelopeBreach :=
  match p.dataAge with
  | some age =>
    if e.maxDataAge < age then
      [{ bound := "max_data_age", limit := Text.num e.maxDataAge, proposed := Text.num age }]
    else []
  | none => []

def within : List EnvelopeBreach :=
  overLimit "max_allocation_change" e.maxAllocationChange p.allocationChange ++
    overLimit "max_capital_movement" e.maxCapitalMovement p.capitalMovement ++
    overLimit "max_exposure_change" e.maxExposureChange p.exposureChange ++
    e.underConfidence p ++
    e.overAge p ++
    overCount "max_actions_per_window" e.maxActionsPerWindow p.actionsInWindow ++
    overCount "max_concurrent_actions" e.maxConcurrentActions p.concurrentActions ++
    overCount "max_chain_length" e.maxChainLength p.chainLength ++
    overCount "max_retries" e.maxRetries p.retries

structure Fits : Prop where
  allocation : ∀ value ∈ p.allocationChange, |value.value| ≤ e.maxAllocationChange.value
  capital : ∀ value ∈ p.capitalMovement, |value.value| ≤ e.maxCapitalMovement.value
  exposure : ∀ value ∈ p.exposureChange, |value.value| ≤ e.maxExposureChange.value
  confidence : ∀ value ∈ p.confidence, e.minConfidence.value ≤ value.value
  age : ∀ age ∈ p.dataAge, age ≤ e.maxDataAge
  actions : p.actionsInWindow ≤ e.maxActionsPerWindow
  concurrent : p.concurrentActions ≤ e.maxConcurrentActions
  chain : p.chainLength ≤ e.maxChainLength
  retries : p.retries ≤ e.maxRetries

end SafetyEnvelope

/-! ## Proposals and decisions -/

inductive VerificationDecision where
  | pass
  | passWithWarning
  | requiresApproval
  | reject
  | safeMode
  deriving DecidableEq

def VerificationDecision.severity : VerificationDecision → ℕ
  | pass => 0
  | passWithWarning => 1
  | requiresApproval => 2
  | reject => 3
  | safeMode => 4

structure Violation where
  invariantId : String
  detail : Text

structure ActionProposal where
  kind : String
  target : String
  effect : Effect
  accountId : String
  environment : String := "paper"
  touchesHardLimit : Bool := false
  reversible : Bool := true
  allocationChange : Option Decimal := none
  capitalMovement : Option Decimal := none
  exposureChange : Option Decimal := none
  confidence : Option Decimal := none
  dataAge : Option ℚ := none
  chainLength : ℤ := 1
  retries : ℤ := 0
  proposalId : String

def magnitude : Option Decimal → String
  | some value => value.text
  | none => "None"

namespace ActionProposal

variable (p : ActionProposal)

def hardLimit : Bool :=
  p.touchesHardLimit || decide (p.target ∈ envelopeTargets) || decide (p.target ∈ governanceTargets)

def material (policyVersion : String) : String :=
  String.intercalate "\x1f"
    [p.kind, p.target, p.effect.name, p.accountId, p.environment, magnitude p.allocationChange,
      magnitude p.capitalMovement, magnitude p.exposureChange, policyVersion]

end ActionProposal

structure Circumstances where
  now : Time
  safeMode : Bool := false
  riskVeto : Option String := none
  quarantined : Bool := false
  unreconciledOrder : Bool := false
  context : Option (List Finding) := none
  actionsInWindow : ℤ := 0
  concurrentActions : ℤ := 0

def Circumstances.findings (c : Circumstances) : List Finding := c.context.getD []

structure Evidence where
  autonomyLevel : String
  actionFingerprint : String
  actionClass : ActionClass
  actionClassReason : Text
  envelopeBreaches : List Text
  decisionLayer : Option String

structure PolicyVerificationResult where
  verificationId : String
  proposalId : String
  policyVersion : String
  verifiedAt : Time
  environment : String
  accountId : String
  passed : Bool
  decision : VerificationDecision
  violations : List Violation
  warnings : List Text
  checkedInvariants : List String
  riskImpact : String
  capitalImpact : String
  approvalRequired : Bool
  rollbackRequired : Bool
  evidence : Evidence

def PolicyVerificationResult.mayAutoApply (r : PolicyVerificationResult) : Bool :=
  decide (r.decision = .pass ∨ r.decision = .passWithWarning) && !r.approvalRequired

def impact (value : Option Decimal) : String :=
  match value with
  | some value => if value.value = 0 then "none stated" else value.text
  | none => "none stated"

structure Rules where
  repr : String → String
  digest : String → String
  policyVersion : SafetyEnvelope → String

structure PolicyVerificationEngine where
  envelope : SafetyEnvelope := {}
  ledger : ActionLedger := {}
  seen : List (String × String) := []
  autonomy : AutonomyLevel := .bounded

abbrev Refusal : Type := Violation × VerificationDecision

def refusal (invariant : String) (decision : VerificationDecision) (why : Text) : List Refusal :=
  [({ invariantId := invariant, detail := why }, decision)]

namespace PolicyVerificationEngine

variable (rules : Rules) (e : PolicyVerificationEngine) (p : ActionProposal) (c : Circumstances)

def version : String := rules.policyVersion e.envelope

def fingerprint : String := rules.digest (p.material (version rules e))

def safeModeRefusal : List Refusal :=
  if c.safeMode = true then
    refusal "INV-19" .safeMode (Text.lit
      ("safe mode is engaged; no autonomous action is applied while it holds. " ++
        "It is released by a person re-running the startup sequence, never by " ++
        "an action arguing that it is safe"))
  else []

def unreconciledRefusal : List Refusal :=
  if c.unreconciledOrder = true then
    refusal "INV-10" .reject (Text.lit
      ("an order's venue state was never established. It is settled by asking " ++
        "the venue, never by acting around it: an IPC timeout after order_send " ++
        "looks exactly like a rejection from this side"))
  else []

def vetoRefusal : List Refusal :=
  match c.riskVeto with
  | some veto =>
    refusal "INV-01" .reject (Text.lit
      (s!"the RiskEngine refused: {veto}. Risk is not re-evaluated here and " ++
        "a verification cannot overturn it"))
  | none => []

def action : Action :=
  { kind := p.kind
    target := p.target
    effect := p.effect
    touchesHardLimit := p.hardLimit
    withinBounds := (e.envelope.within
      { allocationChange := p.allocationChange
        capitalMovement := p.capitalMovement
        exposureChange := p.exposureChange }).isEmpty
    reversible := p.reversible }

def classified : (ActionClass × Text) × ActionLedger :=
  permitted rules.repr (action e p) e.ledger c.now

def classRefusal (klass : ActionClass × Text) : List Refusal :=
  match klass.1 with
  | .forbidden => refusal "INV-05" .reject klass.2
  | .requiresApproval => refusal "INV-14" .requiresApproval klass.2
  | _ => []

def classWarnings (klass : ActionClass × Text) : List Text :=
  match klass.1 with
  | .observeOnly | .recommend => [klass.2]
  | _ => []

def proposed : Proposed :=
  { allocationChange := p.allocationChange
    capitalMovement := p.capitalMovement
    exposureChange := p.exposureChange
    confidence := p.confidence
    dataAge := p.dataAge
    actionsInWindow := c.actionsInWindow
    concurrentActions := c.concurrentActions
    chainLength := p.chainLength
    retries := p.retries }

def envelopeRefusals : List Refusal :=
  (e.envelope.within (proposed p c)).flatMap fun breach =>
    refusal "INV-17" .requiresApproval breach.text

def confidenceRefusal : List Refusal :=
  if 0 < e.envelope.minConfidence.value ∧ p.confidence = none then
    refusal "INV-11" .requiresApproval (Text.lit
      ("no confidence was stated, and the envelope requires at least " ++
        s!"{e.envelope.minConfidence.text}. Absent evidence is not permission: an " ++
        "action with no confidence behind it is not more trustworthy than one " ++
        "that reported none"))
  else []

def mapped (v : Verdict) : VerificationDecision :=
  match v with
  | .reject | .pause => .reject
  | _ => .requiresApproval

def contextRefusal : List Refusal :=
  match c.context with
  | some findings =>
    let decided := decideFindings findings
    if decided.verdict ≠ .allow then
      refusal "INV-16" (mapped decided.verdict)
        (Text.lit s!"{decided.layer.name} returned {decided.verdict.name}: " ++ decided.reason)
    else []
  | none => []

def quarantineRefusal : List Refusal :=
  if c.quarantined = true ∧ p.effect = .loosens then
    refusal "INV-13" .reject (Text.lit
      ("the strategy is quarantined, so no action may add exposure to it. " ++
        "Reducing or closing what is already open stays available: a " ++
        "restriction that also blocked exits would be a way of being unable " ++
        "to get out"))
  else []

def environmentRefusal : List Refusal :=
  if p.environment = "live" then
    refusal "INV-07" .reject (Text.lit
      ("no autonomous action is applied to a live environment. Live execution " ++
        "is a governance decision a person takes through the production " ++
        "process, with its own gates"))
  else []

def duplicateRefusal : List Refusal :=
  match e.seen.lookup (fingerprint rules e p) with
  | some duplicate =>
    if duplicate ≠ p.proposalId then
      refusal "INV-21" .reject (Text.lit
        (s!"this is the same action as proposal {duplicate}, already verified " ++
          "under the same rules for the same account. Resubmission is not a " ++
          "second decision"))
    else []
  | none => []

def autonomyRefusal : List Refusal :=
  if e.autonomy.mayAutoApply = false then
    refusal "INV-26" .requiresApproval (Text.lit
      (s!"the platform is at autonomy {e.autonomy.name} and nothing below " ++
        "BOUNDED is applied without a person. Autonomy is restored by staged " ++
        "revalidation, never by the condition that lowered it going away"))
  else []

def refusals : List Refusal :=
  safeModeRefusal c ++ unreconciledRefusal c ++ vetoRefusal c ++
    classRefusal (classified rules e p c).1 ++ envelopeRefusals e p c ++ confidenceRefusal e p ++
    contextRefusal c ++ quarantineRefusal p c ++ environmentRefusal p ++
    duplicateRefusal rules e p ++ autonomyRefusal e

def worst (outcomes : List VerificationDecision) : VerificationDecision :=
  outcomes.foldl (fun best d => if best.severity < d.severity then d else best) .pass

def checkedInvariants : List String :=
  (["INV-19", "INV-10", "INV-01", "INV-05", "INV-06", "INV-07", "INV-15", "INV-18", "INV-17",
      "INV-11"] ++ (if (contextRefusal c).isEmpty = true then [] else ["INV-16"]) ++
    ["INV-13", "INV-07", "INV-21", "INV-26"]).eraseDups

def decision : VerificationDecision :=
  let outcome := worst ((refusals rules e p c).map Prod.snd)
  if outcome = .pass ∧ classWarnings (classified rules e p c).1 ≠ [] then .passWithWarning
  else outcome

def passes : Bool :=
  decide (worst ((refusals rules e p c).map Prod.snd) = .pass ∨
    worst ((refusals rules e p c).map Prod.snd) = .passWithWarning)

def remember (seen : List (String × String)) (key id : String) : List (String × String) :=
  if (seen.lookup key).isSome = true then seen else seen ++ [(key, id)]

def verify (verificationId : String) : PolicyVerificationResult × PolicyVerificationEngine :=
  let klass := (classified rules e p c).1
  ({ verificationId
     proposalId := p.proposalId
     policyVersion := version rules e
     verifiedAt := c.now
     environment := p.environment
     accountId := p.accountId
     passed := passes rules e p c
     decision := decision rules e p c
     violations := (refusals rules e p c).map Prod.fst
     warnings := classWarnings klass
     checkedInvariants := checkedInvariants c
     riskImpact := impact p.exposureChange
     capitalImpact := impact p.capitalMovement
     approvalRequired := decide (decision rules e p c = .requiresApproval)
     rollbackRequired := false
     evidence :=
      { autonomyLevel := e.autonomy.name
        actionFingerprint := fingerprint rules e p
        actionClass := klass.1
        actionClassReason := klass.2
        envelopeBreaches := (e.envelope.within (proposed p c)).map EnvelopeBreach.text
        decisionLayer := c.context.map fun findings => (decideFindings findings).layer.name } },
    { e with
      ledger := (classified rules e p c).2
      seen := if passes rules e p c = true then
          remember e.seen (fingerprint rules e p) p.proposalId
        else e.seen })

end PolicyVerificationEngine

/-! ## What the envelope says -/

theorem overLimit_eq_nil_iff {bound : String} {limit : Decimal} {value : Option Decimal} :
    overLimit bound limit value = [] ↔ ∀ v ∈ value, |v.value| ≤ limit.value := by
  cases value with
  | none => exact iff_of_true rfl fun v mem => by cases mem
  | some value =>
    unfold overLimit
    dsimp only
    split
    · next beyond =>
      exact iff_of_false (List.cons_ne_nil _ _) fun inside => not_lt.mpr (inside value rfl) beyond
    · next inside =>
      refine iff_of_true rfl fun v mem => ?_
      cases mem
      exact not_lt.mp inside

theorem overCount_eq_nil_iff {bound : String} {limit value : ℤ} :
    overCount bound limit value = [] ↔ value ≤ limit := by
  unfold overCount
  split
  · next beyond => exact iff_of_false (List.cons_ne_nil _ _) (not_le.mpr beyond)
  · next inside => exact iff_of_true rfl (not_lt.mp inside)

namespace SafetyEnvelope

variable {e : SafetyEnvelope}

theorem underConfidence_eq_nil_iff :
    e.underConfidence p = [] ↔ ∀ v ∈ p.confidence, e.minConfidence.value ≤ v.value := by
  unfold underConfidence
  cases p.confidence with
  | none => exact iff_of_true rfl fun v mem => by cases mem
  | some confidence =>
    dsimp only
    split
    · next below =>
      exact iff_of_false (List.cons_ne_nil _ _) fun enough =>
        not_lt.mpr (enough confidence rfl) below
    · next enough =>
      refine iff_of_true rfl fun v mem => ?_
      cases mem
      exact not_lt.mp enough

theorem overAge_eq_nil_iff : e.overAge p = [] ↔ ∀ age ∈ p.dataAge, age ≤ e.maxDataAge := by
  unfold overAge
  cases p.dataAge with
  | none => exact iff_of_true rfl fun age mem => by cases mem
  | some age =>
    dsimp only
    split
    · next old =>
      exact iff_of_false (List.cons_ne_nil _ _) fun fresh => not_lt.mpr (fresh age rfl) old
    · next fresh =>
      refine iff_of_true rfl fun v mem => ?_
      cases mem
      exact not_lt.mp fresh

theorem within_eq_nil_iff : e.within p = [] ↔ e.Fits p := by
  unfold within
  simp only [List.append_eq_nil_iff, overLimit_eq_nil_iff, overCount_eq_nil_iff,
    underConfidence_eq_nil_iff, overAge_eq_nil_iff]
  constructor
  · rintro ⟨⟨⟨⟨⟨⟨⟨⟨allocation, capital⟩, exposure⟩, confidence⟩, age⟩, actions⟩, concurrent⟩,
      chain⟩, retries⟩
    exact ⟨allocation, capital, exposure, confidence, age, actions, concurrent, chain, retries⟩
  · rintro ⟨allocation, capital, exposure, confidence, age, actions, concurrent, chain, retries⟩
    exact ⟨⟨⟨⟨⟨⟨⟨⟨allocation, capital⟩, exposure⟩, confidence⟩, age⟩, actions⟩, concurrent⟩,
      chain⟩, retries⟩

end SafetyEnvelope

/-! ## What a decision says -/

namespace PolicyVerificationEngine

theorem severity_foldl (outcomes : List VerificationDecision) (d : VerificationDecision) (n : ℕ) :
    (outcomes.foldl (fun best d => if best.severity < d.severity then d else best) d).severity ≤
        n ↔ d.severity ≤ n ∧ ∀ o ∈ outcomes, o.severity ≤ n := by
  induction outcomes generalizing d with
  | nil => simp
  | cons o outcomes ih =>
    rw [List.foldl_cons, ih, List.forall_mem_cons, ← and_assoc]
    refine and_congr_left fun _ => ?_
    split <;> omega

theorem severity_worst (outcomes : List VerificationDecision) (n : ℕ) :
    (worst outcomes).severity ≤ n ↔ ∀ o ∈ outcomes, o.severity ≤ n := by
  unfold worst
  rw [severity_foldl]
  exact and_iff_right (Nat.zero_le n)

def Severe (refusals : List Refusal) : Prop := ∀ r ∈ refusals, 2 ≤ r.2.severity

theorem severe_nil : Severe [] := fun r mem => by cases mem

theorem severe_append {a b : List Refusal} (left : Severe a) (right : Severe b) :
    Severe (a ++ b) :=
  List.forall_mem_append.mpr ⟨left, right⟩

theorem severe_refusal {invariant : String} {d : VerificationDecision} {why : Text}
    (severe : 2 ≤ d.severity) : Severe (refusal invariant d why) := by
  intro r mem
  rw [List.mem_singleton.mp mem]
  exact severe

theorem severe_ite {cond : Prop} [Decidable cond] {a : List Refusal} (severe : Severe a) :
    Severe (if cond then a else []) := by
  split
  · exact severe
  · exact severe_nil

theorem severity_mapped (v : Verdict) : 2 ≤ (mapped v).severity := by
  cases v <;> decide

theorem severe_refusals (rules : Rules) (e : PolicyVerificationEngine) (p : ActionProposal)
    (c : Circumstances) : Severe (refusals rules e p c) := by
  have approval : 2 ≤ VerificationDecision.requiresApproval.severity := by decide
  have rejects : 2 ≤ VerificationDecision.reject.severity := by decide
  have safe : 2 ≤ VerificationDecision.safeMode.severity := by decide
  have safeMode : Severe (safeModeRefusal c) := by
    exact severe_ite (severe_refusal safe)
  have unreconciled : Severe (unreconciledRefusal c) := by
    exact severe_ite (severe_refusal rejects)
  have veto : Severe (vetoRefusal c) := by
    unfold vetoRefusal
    split
    · exact severe_refusal rejects
    · exact severe_nil
  have klass : Severe (classRefusal (classified rules e p c).1) := by
    unfold classRefusal
    split
    · exact severe_refusal rejects
    · exact severe_refusal approval
    · exact severe_nil
  have envelope : Severe (envelopeRefusals e p c) := by
    intro r mem
    obtain ⟨breach, -, mem⟩ := List.mem_flatMap.mp mem
    exact severe_refusal approval r mem
  have confidence : Severe (confidenceRefusal e p) := by
    exact severe_ite (severe_refusal approval)
  have context : Severe (contextRefusal c) := by
    unfold contextRefusal
    split
    · exact severe_ite (severe_refusal (severity_mapped _))
    · exact severe_nil
  have quarantine : Severe (quarantineRefusal p c) := by
    exact severe_ite (severe_refusal rejects)
  have environment : Severe (environmentRefusal p) := by
    exact severe_ite (severe_refusal rejects)
  have duplicate : Severe (duplicateRefusal rules e p) := by
    unfold duplicateRefusal
    split
    · exact severe_ite (severe_refusal rejects)
    · exact severe_nil
  have autonomy : Severe (autonomyRefusal e) := by
    exact severe_ite (severe_refusal approval)
  have first := severe_append (severe_append (severe_append safeMode unreconciled) veto) klass
  have second := severe_append (severe_append (severe_append first envelope) confidence) context
  exact severe_append (severe_append (severe_append (severe_append second quarantine) environment)
    duplicate) autonomy

theorem passes_iff : passes rules e p c = true ↔ refusals rules e p c = [] := by
  have outcome : ∀ d : VerificationDecision, (d = .pass ∨ d = .passWithWarning) ↔
      d.severity ≤ 1 := by
    intro d
    cases d <;> decide
  unfold passes
  rw [decide_eq_true_iff, outcome, severity_worst]
  constructor
  · intro mild
    refine List.eq_nil_iff_forall_not_mem.mpr fun r mem => ?_
    have severe := severe_refusals rules e p c r mem
    have most := mild r.2 (List.mem_map_of_mem mem)
    omega
  · intro none o mem
    rw [none] at mem
    cases mem

theorem passed_verify (rules : Rules) (e : PolicyVerificationEngine) (p : ActionProposal)
    (c : Circumstances) (id : String) :
    (verify rules e p c id).1.passed = passes rules e p c := by
  rfl

theorem decision_verify (rules : Rules) (e : PolicyVerificationEngine) (p : ActionProposal)
    (c : Circumstances) (id : String) :
    (verify rules e p c id).1.decision = decision rules e p c := by
  rfl

theorem mayAutoApply_iff (id : String) :
    (verify rules e p c id).1.mayAutoApply = true ↔ passes rules e p c = true := by
  unfold PolicyVerificationResult.mayAutoApply verify decision passes
  dsimp only
  generalize worst ((refusals rules e p c).map Prod.snd) = outcome
  split
  · next warned => simp [warned.1]
  · cases outcome <;> decide

/-! ## What passing means -/

structure Cleared (rules : Rules) (e : PolicyVerificationEngine) (p : ActionProposal)
    (c : Circumstances) : Prop where
  safeMode : c.safeMode = false
  reconciled : c.unreconciledOrder = false
  veto : c.riskVeto = none
  environment : p.environment ≠ "live"
  autonomy : AutonomyLevel.bounded.rank ≤ e.autonomy.rank
  effect : p.effect ≠ .loosens
  classification : (classified rules e p c).1.1 = .autoApplyBounded ∨
    (classified rules e p c).1.1 = .recommend ∧ p.effect = .neutral
  confidence : 0 < e.envelope.minConfidence.value → p.confidence.isSome = true
  fits : e.envelope.Fits (proposed p c)
  quarantine : c.quarantined = true → p.effect ≠ .loosens
  context : ∀ findings ∈ c.context, (decideFindings findings).verdict = .allow
  unseen : ∀ id, e.seen.lookup (fingerprint rules e p) = some id → id = p.proposalId

theorem refusal_ne_nil {invariant : String} {d : VerificationDecision} {why : Text} :
    refusal invariant d why ≠ [] := List.cons_ne_nil _ _

theorem ite_refusal_eq_nil_iff {cond : Prop} [Decidable cond] {invariant : String}
    {d : VerificationDecision} {why : Text} :
    (if cond then refusal invariant d why else []) = [] ↔ ¬ cond := by
  split
  · next here => exact iff_of_false refusal_ne_nil fun absent => absent here
  · next absent => exact iff_of_true rfl absent

theorem cleared_of_passes (passes : passes rules e p c = true) : Cleared rules e p c := by
  have none := passes_iff.mp passes
  unfold refusals at none
  simp only [List.append_eq_nil_iff] at none
  obtain ⟨⟨⟨⟨⟨⟨⟨⟨⟨⟨safeMode, unreconciled⟩, veto⟩, klass⟩, envelope⟩, confidence⟩, context⟩,
    quarantine⟩, environment⟩, duplicate⟩, autonomy⟩ := none
  have suits := permitted_spec rules.repr (action e p) e.ledger c.now
  change (classified rules e p c).1.1.Suits p.effect at suits
  have classes : (classified rules e p c).1.1 = .autoApplyBounded ∧ p.effect = .tightens ∨
      (classified rules e p c).1.1 = .recommend ∧ p.effect = .neutral := by
    unfold classRefusal at klass
    cases is : (classified rules e p c).1.1 with
    | observeOnly =>
      rw [is] at suits
      exact absurd suits id
    | recommend =>
      rw [is] at suits
      exact .inr ⟨rfl, suits⟩
    | autoApplyBounded =>
      rw [is] at suits
      exact .inl ⟨rfl, suits⟩
    | requiresApproval | forbidden =>
      rw [is] at klass
      exact absurd klass refusal_ne_nil
  have effect : p.effect ≠ .loosens := by
    rcases classes with ⟨-, is⟩ | ⟨-, is⟩ <;> rw [is] <;> exact fun same => by cases same
  refine
    { safeMode := by simpa using ite_refusal_eq_nil_iff.mp safeMode
      reconciled := by simpa using ite_refusal_eq_nil_iff.mp unreconciled
      veto := ?_
      environment := ite_refusal_eq_nil_iff.mp environment
      autonomy := ?_
      effect
      classification := classes.imp_left And.left
      confidence := ?_
      fits := ?_
      quarantine := fun _ => effect
      context := ?_
      unseen := ?_ }
  · unfold vetoRefusal at veto
    split at veto
    · exact absurd veto refusal_ne_nil
    · assumption
  · have may := ite_refusal_eq_nil_iff.mp autonomy
    rw [Bool.not_eq_false] at may
    exact of_decide_eq_true may
  · intro positive
    have stated := ite_refusal_eq_nil_iff.mp confidence
    exact Option.isSome_iff_ne_none.mpr fun absent => stated ⟨positive, absent⟩
  · refine SafetyEnvelope.within_eq_nil_iff.mp (List.eq_nil_iff_forall_not_mem.mpr ?_)
    intro breach mem
    exact absurd (List.flatMap_eq_nil_iff.mp envelope breach mem) refusal_ne_nil
  · intro findings mem
    unfold contextRefusal at context
    rw [mem] at context
    by_contra restricts
    exact ite_refusal_eq_nil_iff.mp context restricts
  · intro id found
    unfold duplicateRefusal at duplicate
    rw [found] at duplicate
    by_contra other
    exact ite_refusal_eq_nil_iff.mp duplicate other

/-! ## Histories -/

inductive EngineEvent where
  | verify (p : ActionProposal) (c : Circumstances) (verificationId : String)
  | record (a : Action) (at_ : Time)
  | setAutonomy (level : AutonomyLevel)

def after (rules : Rules) (e : PolicyVerificationEngine) :
    EngineEvent → PolicyVerificationEngine
  | .verify p c id => (verify rules e p c id).2
  | .record a at_ => { e with ledger := e.ledger.record a at_ }
  | .setAutonomy level => { e with autonomy := level }

def run (rules : Rules) (e : PolicyVerificationEngine) (events : List EngineEvent) :
    PolicyVerificationEngine :=
  events.foldl (after rules) e

structure SameWritten (p q : ActionProposal) : Prop where
  kind : p.kind = q.kind
  target : p.target = q.target
  effect : p.effect = q.effect
  account : p.accountId = q.accountId
  environment : p.environment = q.environment
  allocation : magnitude p.allocationChange = magnitude q.allocationChange
  capital : magnitude p.capitalMovement = magnitude q.capitalMovement
  exposure : magnitude p.exposureChange = magnitude q.exposureChange

theorem envelope_run (e : PolicyVerificationEngine) (events : List EngineEvent) :
    (run rules e events).envelope = e.envelope := by
  induction events generalizing e with
  | nil => rfl
  | cons event events ih =>
    refine (ih (after rules e event)).trans ?_
    cases event <;> rfl

theorem fingerprint_eq {e e' : PolicyVerificationEngine} {p q : ActionProposal}
    (same : SameWritten p q) (envelope : e.envelope = e'.envelope) :
    fingerprint rules e p = fingerprint rules e' q := by
  obtain ⟨kind, target, effect, account, environment, allocation, capital, exposure⟩ := same
  unfold fingerprint ActionProposal.material version
  rw [kind, target, effect, account, environment, allocation, capital, exposure, envelope]

theorem lookup_remember_of_some {seen : List (String × String)} {key id key' id' : String}
    (found : seen.lookup key' = some id') : (remember seen key id).lookup key' = some id' := by
  unfold remember
  split
  · exact found
  · rw [List.lookup_append, found]
    rfl

theorem lookup_remember_self {seen : List (String × String)} {key id : String}
    (unseen : ∀ id', seen.lookup key = some id' → id' = id) :
    (remember seen key id).lookup key = some id := by
  unfold remember
  cases found : seen.lookup key with
  | none =>
    rw [if_neg (by simp), List.lookup_append, found]
    simp
  | some id' =>
    rw [if_pos (by rfl), found, unseen id' found]

theorem lookup_run {key id : String} (events : List EngineEvent) {e : PolicyVerificationEngine}
    (found : e.seen.lookup key = some id) : (run rules e events).seen.lookup key = some id := by
  induction events generalizing e with
  | nil => exact found
  | cons event events ih =>
    refine ih ?_
    cases event with
    | verify p c id' =>
      unfold after verify
      dsimp only
      split
      · exact lookup_remember_of_some found
      · exact found
    | record a at_ | setAutonomy level => exact found

theorem lookup_of_passes (passes : passes rules e p c = true) (id : String) :
    (verify rules e p c id).2.seen.lookup (fingerprint rules e p) = some p.proposalId := by
  unfold verify
  rw [if_pos passes]
  exact lookup_remember_self (cleared_of_passes passes).unseen

/-! ## Further refusing conditions -/

structure Harsher (c c' : Circumstances) : Prop where
  now : c'.now = c.now
  safeMode : c.safeMode = true → c'.safeMode = true
  unreconciled : c.unreconciledOrder = true → c'.unreconciledOrder = true
  veto : c.riskVeto.isSome = true → c'.riskVeto.isSome = true
  quarantine : c.quarantined = true → c'.quarantined = true
  context : ∀ f ∈ c.findings, f ∈ c'.findings
  actions : c.actionsInWindow ≤ c'.actionsInWindow
  concurrent : c.concurrentActions ≤ c'.concurrentActions

def Covered (a b : List Refusal) : Prop := ∀ r ∈ a, ∃ r' ∈ b, r.2.severity ≤ r'.2.severity

theorem Covered.refl (a : List Refusal) : Covered a a := fun r mem => ⟨r, mem, Nat.le_refl _⟩

theorem Covered.append {a a' b b' : List Refusal} (left : Covered a a') (right : Covered b b') :
    Covered (a ++ b) (a' ++ b') := by
  intro r mem
  rcases List.mem_append.mp mem with mem | mem
  · obtain ⟨r', mem', le⟩ := left r mem
    exact ⟨r', List.mem_append_left _ mem', le⟩
  · obtain ⟨r', mem', le⟩ := right r mem
    exact ⟨r', List.mem_append_right _ mem', le⟩

theorem Covered.ite {cond cond' : Prop} [Decidable cond] [Decidable cond'] {a : List Refusal}
    (implies : cond → cond') : Covered (if cond then a else []) (if cond' then a else []) := by
  split
  · next here =>
    rw [if_pos (implies here)]
    exact .refl a
  · exact fun r mem => by cases mem

theorem covered_veto {c c' : Circumstances}
    (implies : c.riskVeto.isSome = true → c'.riskVeto.isSome = true) :
    Covered (vetoRefusal c) (vetoRefusal c') := by
  unfold vetoRefusal
  cases given : c.riskVeto with
  | none => exact fun r mem => by cases mem
  | some veto =>
    obtain ⟨veto', given'⟩ := Option.isSome_iff_exists.mp (implies (by rw [given]; rfl))
    rw [given']
    intro r mem
    rw [List.mem_singleton.mp mem]
    exact ⟨_, List.mem_singleton_self _, Nat.le_refl _⟩

theorem severity_mapped_mono {v w : Verdict} (le : v.severity ≤ w.severity) :
    (mapped v).severity ≤ (mapped w).severity := by
  revert le
  cases v <;> cases w <;> decide

theorem contextRefusal_eq (c : Circumstances) :
    contextRefusal c = [] ∧ (decideFindings c.findings).verdict = .allow ∨
      ∃ r, contextRefusal c = [r] ∧ (decideFindings c.findings).verdict ≠ .allow ∧
        r.2 = mapped (decideFindings c.findings).verdict := by
  unfold contextRefusal Circumstances.findings
  cases c.context with
  | none => exact .inl ⟨rfl, rfl⟩
  | some findings =>
    dsimp only [Option.getD_some]
    split
    · next restricts => exact .inr ⟨_, rfl, restricts, rfl⟩
    · next allows => exact .inl ⟨rfl, not_not.mp allows⟩

theorem covered_context {c c' : Circumstances} (more : ∀ f ∈ c.findings, f ∈ c'.findings) :
    Covered (contextRefusal c) (contextRefusal c') := by
  have le : (decideFindings c.findings).verdict.severity ≤
      (decideFindings c'.findings).verdict.severity :=
    (severity_decide _ _).mpr fun f mem =>
      (severity_decide _ _).mp (Nat.le_refl _) f (more f mem)
  have zero : ∀ v : Verdict, v.severity = 0 → v = .allow := by
    intro v
    cases v <;> decide
  rcases contextRefusal_eq c with ⟨none, -⟩ | ⟨r, one, restricts, is⟩
  · rw [none]
    exact fun r mem => by cases mem
  · rcases contextRefusal_eq c' with ⟨-, allows⟩ | ⟨r', one', -, is'⟩
    · rw [allows] at le
      exact absurd (zero _ (Nat.le_zero.mp le)) restricts
    · rw [one, one']
      intro r₀ mem
      rw [List.mem_singleton.mp mem]
      refine ⟨r', List.mem_singleton_self _, ?_⟩
      rw [is, is']
      exact severity_mapped_mono le

theorem covered_envelope {c c' : Circumstances} (actions : c.actionsInWindow ≤ c'.actionsInWindow)
    (concurrent : c.concurrentActions ≤ c'.concurrentActions) :
    Covered (envelopeRefusals e p c) (envelopeRefusals e p c') := by
  have asks : ∀ (d : Circumstances), ∀ r ∈ envelopeRefusals e p d,
      r.2 = .requiresApproval := by
    intro d r mem
    obtain ⟨breach, -, mem⟩ := List.mem_flatMap.mp mem
    rw [List.mem_singleton.mp mem]
  intro r mem
  cases rest : envelopeRefusals e p c' with
  | cons r' rest' =>
    refine ⟨r', List.mem_cons_self .., ?_⟩
    rw [asks c r mem, asks c' r' (rest ▸ List.mem_cons_self ..)]
  | nil =>
    have fits' : e.envelope.Fits (proposed p c') := by
      refine SafetyEnvelope.within_eq_nil_iff.mp (List.eq_nil_iff_forall_not_mem.mpr ?_)
      intro breach mem
      exact absurd (List.flatMap_eq_nil_iff.mp rest breach mem) refusal_ne_nil
    have fits : e.envelope.Fits (proposed p c) :=
      { fits' with
        actions := actions.trans fits'.actions, concurrent := concurrent.trans fits'.concurrent }
    obtain ⟨breach, some_, -⟩ := List.mem_flatMap.mp mem
    rw [SafetyEnvelope.within_eq_nil_iff.mpr fits] at some_
    cases some_

theorem severity_of_harsher {c c' : Circumstances} (harsher : Harsher c c') :
    (decision rules e p c).severity ≤ (decision rules e p c').severity := by
  have same : classified rules e p c' = classified rules e p c := by
    unfold classified
    rw [harsher.now]
  have covered : Covered (refusals rules e p c) (refusals rules e p c') := by
    unfold refusals
    rw [same]
    have first : Covered
        (safeModeRefusal c ++ unreconciledRefusal c ++ vetoRefusal c ++
          classRefusal (classified rules e p c).1)
        (safeModeRefusal c' ++ unreconciledRefusal c' ++ vetoRefusal c' ++
          classRefusal (classified rules e p c).1) :=
      (((Covered.ite harsher.safeMode).append (Covered.ite harsher.unreconciled)).append
        (covered_veto harsher.veto)).append (.refl _)
    have quarantine : Covered (quarantineRefusal p c) (quarantineRefusal p c') :=
      Covered.ite fun both => ⟨harsher.quarantine both.1, both.2⟩
    exact ((((((first.append (covered_envelope harsher.actions harsher.concurrent)).append
      (.refl _)).append (covered_context harsher.context)).append quarantine).append
      (.refl _)).append (.refl _)).append (.refl _)
  have outcome : (worst ((refusals rules e p c).map Prod.snd)).severity ≤
      (worst ((refusals rules e p c').map Prod.snd)).severity := by
    refine (severity_worst _ _).mpr fun d mem => ?_
    obtain ⟨r, here, rfl⟩ := List.mem_map.mp mem
    obtain ⟨r', mem', le⟩ := covered r here
    exact le.trans ((severity_worst _ _).mp (Nat.le_refl _) r'.2 (List.mem_map_of_mem mem'))
  unfold decision
  rw [same]
  dsimp only
  generalize worst ((refusals rules e p c').map Prod.snd) = d' at outcome
  split
  · next warned =>
    split
    · exact Nat.le_refl _
    · next calm =>
      have positive : d' ≠ .pass := fun pass => calm ⟨pass, warned.2⟩
      cases d' with
      | pass => exact absurd rfl positive
      | _ => decide
  · split
    · next warned =>
      rw [warned.1] at outcome
      exact outcome.trans (by decide)
    · exact outcome

/-- After every history of an engine, a proposal that may be applied without a person is cleared,
and no other proposal for the same change, written the same, passed before; and a further condition
that refuses makes no decision milder. -/
theorem cleared_of_run (rules : Rules) (start : PolicyVerificationEngine)
    (events : List EngineEvent) (p : ActionProposal) (c : Circumstances) (id : String) :
    ((verify rules (run rules start events) p c id).1.mayAutoApply = true →
      Cleared rules (run rules start events) p c ∧
        ∀ before q d id' between, events = before ++ .verify q d id' :: between →
          (verify rules (run rules start before) q d id').1.passed = true →
            q.proposalId ≠ p.proposalId → ¬ SameWritten q p) ∧
      ∀ c', Harsher c c' →
        (verify rules (run rules start events) p c id).1.decision.severity ≤
          (verify rules (run rules start events) p c' id).1.decision.severity := by
  refine ⟨fun auto => ?_, fun c' harsher => ?_⟩
  swap
  · rw [decision_verify, decision_verify]
    exact severity_of_harsher harsher
  have cleared := cleared_of_passes ((mayAutoApply_iff id).mp auto)
  refine ⟨cleared, ?_⟩
  rintro before q d id' between rfl passed other same
  have passed : passes rules (run rules start before) q d = true :=
    (passed_verify rules _ q d id').symm.trans passed
  have remembered := lookup_of_passes passed id'
  have kept : (run rules (verify rules (run rules start before) q d id').2 between).seen.lookup
      (fingerprint rules (run rules start before) q) = some q.proposalId :=
    lookup_run between remembered
  have split : run rules start (before ++ .verify q d id' :: between) =
      run rules (verify rules (run rules start before) q d id').2 between :=
    List.foldl_append ..
  have envelope : (run rules start before).envelope =
      (run rules start (before ++ .verify q d id' :: between)).envelope := by
    rw [envelope_run, envelope_run]
  rw [fingerprint_eq same envelope, ← split] at kept
  exact other (cleared.unseen _ kept)

/-! ## What is let through -/

private def plainRules : Rules :=
  { repr := fun s => "'" ++ s ++ "'", digest := id, policyVersion := fun _ => "pv" }

private def someProposal (effect : Effect) (target : String) (change : Option Decimal)
    (proposalId : String) : ActionProposal :=
  { kind := "set", target, effect, accountId := "A", allocationChange := change
    confidence := some ⟨false, 1, 0⟩, proposalId }

private def quiet : Circumstances := { now := 0 }

/-- The smallest change that may be applied without a person. -/
theorem cleared_of_tightened :
    Cleared plainRules (run plainRules {} [])
      (someProposal .tightens "allocation" (some ⟨false, 1, -1⟩) "1") quiet :=
  ((cleared_of_run plainRules {} [] _ quiet "v").1 (by decide +kernel)).1

/-- A proposal that may be applied without a person may aim at the certification or at the envelope
itself, may only be recommended, may state no magnitude, and may repeat one that passed with the
same number written otherwise. -/
theorem autoApplied_unmet :
    ∃ (rules : Rules) (e : PolicyVerificationEngine) (c : Circumstances),
      (∃ p, (verify rules e p c "v").1.mayAutoApply = true ∧ p.target ∈ governanceTargets) ∧
      (∃ p, (verify rules e p c "v").1.mayAutoApply = true ∧ p.target ∈ envelopeTargets) ∧
      (∃ p, (verify rules e p c "v").1.mayAutoApply = true ∧
        (classified rules e p c).1.1 ≠ .autoApplyBounded) ∧
      (∃ p, (verify rules e p c "v").1.mayAutoApply = true ∧ p.allocationChange = none ∧
        p.capitalMovement = none ∧ p.exposureChange = none) ∧
      ∃ p q, (verify rules (run rules e [.verify q c "v"]) p c "v").1.mayAutoApply = true ∧
        (verify rules e q c "v").1.passed = true ∧ p.proposalId ≠ q.proposalId ∧
        p.kind = q.kind ∧ p.target = q.target ∧ p.effect = q.effect ∧
        p.accountId = q.accountId ∧ p.environment = q.environment ∧
        p.allocationChange.map Decimal.value = q.allocationChange.map Decimal.value ∧
        p.capitalMovement = q.capitalMovement ∧ p.exposureChange = q.exposureChange := by
  refine ⟨plainRules, {}, quiet, ⟨someProposal .tightens "certification" none "1", ?_⟩,
    ⟨someProposal .tightens "max_retries" none "1", ?_⟩,
    ⟨someProposal .neutral "allocation" none "1", ?_⟩,
    ⟨someProposal .tightens "allocation" none "1", ?_⟩,
    someProposal .tightens "allocation" (some ⟨false, 1, -1⟩) "1",
    someProposal .tightens "allocation" (some ⟨false, 10, -2⟩) "2", ?_⟩
  · decide +kernel
  · decide +kernel
  · decide +kernel
  · decide +kernel
  · decide +kernel

end PolicyVerificationEngine

end TradeResearch.Safety
