import Mathlib.Data.List.Sort
import Mathlib.Logic.Function.Basic
import TradeResearch.Sizing.Calculator

/-!
# The model registry

`backend/app/ai/lifecycle.py` and the operations of `backend/app/ai/registry_service.py`. A call
reads rows and either leaves a registry or raises, and then its session is rolled back; `register`
commits a refusal before it raises it. What the calls read outside the registry is a `World`, which
is another for every call: the clock, the validation and training runs, the feature engine, and what
stamps, verifies and loads an artifact.

* `Registry.transition` is the one place at which a status changes.
* `perform` is one call, and `after` what it leaves.
-/

namespace TradeResearch.Ai

inductive ModelStatus where
  | draft
  | validated
  | registered
  | paper
  | promoted
  | rejected
  | rolledBack
  | retired
  deriving DecidableEq

namespace ModelStatus

def name : ModelStatus → String
  | draft => "draft"
  | validated => "validated"
  | registered => "registered"
  | paper => "paper"
  | promoted => "promoted"
  | rejected => "rejected"
  | rolledBack => "rolled_back"
  | retired => "retired"

end ModelStatus

def servingStatuses : List ModelStatus := [.registered, .paper, .promoted]

def terminal : List ModelStatus := [.rejected, .retired]

def transitions : List (ModelStatus × List ModelStatus) :=
  [(.draft, [.validated, .rejected]),
    (.validated, [.registered, .rejected]),
    (.registered, [.paper, .retired, .rejected]),
    (.paper, [.promoted, .registered, .rolledBack, .retired]),
    (.promoted, [.registered, .rolledBack, .retired]),
    (.rolledBack, [.registered, .retired]),
    (.rejected, []),
    (.retired, [])]

def allowedFrom (current : ModelStatus) : List ModelStatus := (transitions.lookup current).getD []

def canTransition (current target : ModelStatus) : Bool := decide (target ∈ allowedFrom current)

def checkTransition (current target : ModelStatus) : Except Text Unit :=
  if current = target then
    .error (Text.lit (s!"the version is already {current.name}. A no-op transition is refused " ++
      "rather than recorded, because a history full of them hides the real ones."))
  else if current ∈ terminal then
    .error (Text.lit (s!"{current.name} is terminal. A {current.name} version is never deleted " ++
      "(§22) and is never resurrected either: register the retrained model as a new version, " ++
      "which is what §6's immutability rule means in practice."))
  else if canTransition current target = false then
    let names := ((allowedFrom current).map ModelStatus.name).insertionSort (· ≤ ·)
    .error (Text.lit (s!"{current.name} -> {target.name} is not a legal transition. From " ++
      s!"{current.name} a version may go to: " ++
      (if names = [] then "(nothing; terminal)" else String.intercalate ", " names) ++ "."))
  else .ok ()

def blank (value : String) : Bool := value.toList.all Sizing.isSpace

structure Scope where
  strategyKey : Option String := none
  symbol : Option String := none
  timeframe : Option String := none
  environment : String := "paper"
  named : ∀ axis ∈ [strategyKey, symbol, timeframe], ∀ value ∈ axis, blank value = false := by
    decide
  known : environment ∈ ["paper", "demo", "live"] := by decide
  deriving DecidableEq

namespace Scope

variable (scope : Scope)

def key : String :=
  String.intercalate "|"
    [scope.strategyKey.getD "", scope.symbol.getD "", scope.timeframe.getD ""]

def part (name : String) (value : Option String) : List String :=
  match value with
  | some value => [s!"{name}={value}"]
  | none => []

def describe : String :=
  String.intercalate ", "
    (s!"environment={scope.environment}" :: (part "strategy_key" scope.strategyKey ++
      part "symbol" scope.symbol ++ part "timeframe" scope.timeframe))

end Scope

structure ModelVersion where
  modelId : String
  status : ModelStatus := .draft
  artifactRef : Option String := none
  features : Option (List String) := none
  featureVersion : Option String := none
  artifactSha256 : Option String := none
  artifactBytes : Option ℕ := none
  artifactKind : Option String := none
  framework : Option String := none
  frameworkVersion : Option String := none
  trainingRunId : Option String := none
  validationRunId : Option String := none
  symbolScope : Option String := none
  timeframeScope : Option String := none
  registeredAt : Option Time := none
  promotedAt : Option Time := none
  promotedBy : Option String := none
  retiredAt : Option Time := none

def ModelVersion.label (version : ModelVersion) : String :=
  let ref := (version.artifactRef.getD "").toList
  if ':' ∈ ref then String.ofList ((ref.dropWhile (· ≠ ':')).drop 1) else String.ofList ref

inductive DeploymentStatus where
  | active
  | superseded
  | rolledBack
  | stopped
  deriving DecidableEq

structure ModelDeployment where
  id : ℕ
  modelVersionId : String
  modelKey : String
  modelVersionLabel : String
  scope : Scope
  scopeKey : String
  status : DeploymentStatus := .active
  activatedAt : Time
  deactivatedAt : Option Time := none
  activatedBy : Option String
  reason : Text
  previousVersionId : Option String

structure ModelLifecycleEvent where
  modelVersionId : String
  modelKey : String
  modelVersionLabel : String
  fromStatus : ModelStatus
  toStatus : ModelStatus
  occurredAt : Time
  actor : Option String
  reason : Text
  environment : String
  validationRunId : Option String
  deploymentId : Option ℕ

structure Registry where
  models : String → Option String
  versions : String → Option ModelVersion
  deployments : List ModelDeployment := []
  events : List ModelLifecycleEvent := []

inductive Raised where
  | refused (why : Text)
  | crashed (why : Text)

structure ValidationRun where
  id : String
  verdict : String
  summary : Option String

structure Stamp where
  sha : String
  bytes : ℕ
  kind : String

structure World where
  now : Time
  featureSetVersion : String
  catalogue : List String
  /-- The most recent completed validation run of a version. -/
  validation : String → Option ValidationRun
  training : String → Option String
  stamp : String → Except Raised Stamp
  /-- `verify`: whether the artifact is intact, and why. -/
  verify : String → Except Raised (Bool × Text)
  /-- `model_from_version`: whether the model is fitted. -/
  load : String → Except Raised Bool

def passingVerdicts : List String := ["PASS", "CONDITIONAL"]

def algorithm : String := "sha256"

def framework : String := "stdlib"

def absent (value : Option String) : Bool := decide (value.getD "" = "")

def decisiveValidation (w : World) (id : String) : Except Raised ValidationRun :=
  match w.validation id with
  | none =>
    .error (.refused (Text.lit ("this version has never completed a validation run. " ++
      "Registration is gated on L26's verdict and there is nothing to read -- not a judgement " ++
      "about the model, but nothing has been established about it.")))
  | some run =>
    if run.verdict ∉ passingVerdicts then
      .error (.refused (Text.lit (s!"the most recent validation returned {run.verdict}: " ++
        (if absent run.summary = true then "no summary" else run.summary.getD "") ++ ". " ++
        (if run.verdict = "BLOCKED" then
          "BLOCKED means a check could not be evaluated, so nothing was established either way."
        else "A candidate that did not pass validation cannot be registered."))))
    else .ok run

def compatibility (w : World) (version : ModelVersion) : Except Raised Unit :=
  if absent version.featureVersion = true then
    .error (.refused (Text.lit ("this version does not say which feature set it was fitted " ++
      "against. Without it the model cannot refuse mismatched inputs, which is the check every " ++
      "prediction depends on.")))
  else if version.featureVersion ≠ some w.featureSetVersion then
    .error (.refused (Text.lit ("this version was fitted against feature set " ++
      s!"{nameOrEmpty version.featureVersion} and this deployment computes " ++
      s!"{w.featureSetVersion}. A model run on features it was not fitted on is being asked " ++
      "about a different quantity, " ++
      "so it is refused rather than registered and discovered later.")))
  else
    let declared := (version.features.getD []).dedup
    let unknown := (declared.filter fun f => f ∉ w.catalogue).insertionSort (· ≤ ·)
    if unknown ≠ [] then
      .error (.refused (Text.lit (s!"this version requires {commaList unknown}, " ++
        "which this platform's feature engine does not compute.")))
    else .ok ()

def scopeChecks (version : ModelVersion) (scope : Scope) : Except Raised Unit :=
  if absent version.symbolScope = false ∧ absent scope.symbol = false ∧
      version.symbolScope ≠ scope.symbol then
    .error (.refused (Text.lit ("this version was fitted for " ++
      s!"{nameOrEmpty version.symbolScope} and the deployment names " ++
      s!"{nameOrEmpty scope.symbol}. §15: the registry prevents accidental " ++
      "use of a model outside its intended scope.")))
  else if absent version.timeframeScope = false ∧ absent scope.timeframe = false ∧
      version.timeframeScope ≠ scope.timeframe then
    .error (.refused (Text.lit ("this version was fitted for " ++
      s!"{nameOrEmpty version.timeframeScope} and the deployment names " ++
      s!"{nameOrEmpty scope.timeframe}.")))
  else .ok ()

def Raised.wrap (text : Text → Text) : Raised → Raised
  | .refused why => .refused (text why)
  | .crashed why => .crashed why

def guard (w : World) (id : String) (version : ModelVersion) (scope : Scope) :
    Except Raised Unit := do
  scopeChecks version scope
  compatibility w version
  let check ← w.verify id
  if check.1 = false then
    .error (.refused (Text.lit "the artifact cannot be trusted: " ++ check.2))
  let fitted ← (w.load id).mapError (Raised.wrap (Text.lit "the artifact does not load: " ++ ·))
  if fitted = false then
    .error (.refused (Text.lit "the artifact loads but carries no fitted parameters"))

def refuse (why : Text) : Except Raised Registry := .error (.refused why)

def unknownVersion : Except Raised Registry := refuse (Text.lit "no such model version")

namespace Registry

variable (s : Registry)

def keyOf (version : ModelVersion) : String := (s.models version.modelId).getD "unknown"

def serves (key scopeKey environment : String) (d : ModelDeployment) : Bool :=
  decide (d.modelKey = key ∧ d.scopeKey = scopeKey ∧ d.scope.environment = environment ∧
    d.status = .active)

def activeDeployment (key : String) (scope : Scope) : Option ModelDeployment :=
  s.deployments.find? (serves key scope.key scope.environment)

def put (id : String) (version : ModelVersion) : Registry :=
  { s with versions := Function.update s.versions id (some version) }

structure Note where
  reason : Text
  actor : Option String
  environment : String := "paper"
  validationRunId : Option String := none
  deploymentId : Option ℕ := none

def moved (w : World) (version : ModelVersion) (target : ModelStatus) (actor : Option String) :
    ModelVersion :=
  { version with
    status := target
    registeredAt := if target = .registered then some w.now else version.registeredAt
    promotedAt := if target = .promoted then some w.now else version.promotedAt
    promotedBy := if target = .promoted then actor else version.promotedBy
    retiredAt := if target = .retired then some w.now else version.retiredAt }

def event (w : World) (id : String) (version : ModelVersion) (target : ModelStatus) (note : Note) :
    ModelLifecycleEvent :=
  { modelVersionId := id
    modelKey := s.keyOf version
    modelVersionLabel := version.label
    fromStatus := version.status
    toStatus := target
    occurredAt := w.now
    actor := note.actor
    reason := note.reason
    environment := note.environment
    validationRunId := note.validationRunId.or version.validationRunId
    deploymentId := note.deploymentId }

def transition (w : World) (id : String) (target : ModelStatus) (note : Note) :
    Except Raised Registry :=
  match s.versions id with
  | none => unknownVersion
  | some version =>
    match checkTransition version.status target with
    | .error why => refuse why
    | .ok () =>
      .ok { s.put id (moved w version target note.actor) with
        events := s.events ++ [s.event w id version target note] }

def finish (id : ℕ) (status : DeploymentStatus) (at_ : Time) (note : Text) : Registry :=
  { s with
    deployments := s.deployments.map fun d =>
      if d.id = id then
        { d with status, deactivatedAt := some at_, reason := d.reason ++ note }
      else d }

def insert (d : ModelDeployment) : Except Raised Registry :=
  if s.deployments.any (serves d.modelKey d.scopeKey d.scope.environment) = true then
    .error (.crashed (Text.lit "uq_model_deployments_one_active_per_scope"))
  else .ok { s with deployments := s.deployments ++ [d] }

def deployment (w : World) (id : String) (version : ModelVersion) (scope : Scope)
    (actor : Option String) (reason : Text) (previous : Option String) : ModelDeployment :=
  { id := s.deployments.length
    modelVersionId := id
    modelKey := s.keyOf version
    modelVersionLabel := version.label
    scope
    scopeKey := scope.key
    activatedAt := w.now
    activatedBy := actor
    reason
    previousVersionId := previous }

end Registry

section Operations

variable (w : World) (s : Registry) (id : String) (actor : Option String) (reason : String)

def registryChecks (version : ModelVersion) : Except Raised Stamp := do
  compatibility w version
  let stamp ← w.stamp id
  let fitted ← w.load id
  if fitted = false then
    .error (.refused (Text.lit "the artifact loaded but carries no fitted parameters"))
  .ok stamp

def gated (version : ModelVersion) (run : ValidationRun) : ModelVersion :=
  { version with validationRunId := some run.id }

def stamped (version : ModelVersion) (stamp : Stamp) : ModelVersion :=
  { version with
    artifactSha256 := some stamp.sha
    artifactBytes := some stamp.bytes
    artifactKind := some stamp.kind
    framework := some framework
    frameworkVersion := some algorithm
    trainingRunId := w.training id }

def register : Except Raised (Registry × Option Text) :=
  match s.versions id with
  | none => unknownVersion.map fun s => (s, none)
  | some version =>
    if version.status ≠ .draft then
      .error (.refused (Text.lit ("only a draft can be registered; this version is " ++
        s!"{version.status.name}. §6: a registered version is immutable, and re-registering one " ++
        "would be modifying it in place.")))
    else do
      let run ← decisiveValidation w id
      let s₁ ← s.transition w id .validated
        { reason := Text.lit "validation run " ++ Text.take 12 (Text.lit run.id) ++
            Text.lit s!" returned {run.verdict}"
          actor
          validationRunId := some run.id }
      match s₁.versions id with
      | none => unknownVersion.map fun s => (s, none)
      | some validated =>
        let s₂ := s₁.put id (gated validated run)
        match registryChecks w id (gated validated run) with
        | .error (.crashed why) => .error (.crashed why)
        | .error (.refused why) =>
          let s₃ ← s₂.transition w id .rejected
            { reason := Text.lit "the registry refused this candidate: " ++ why
              actor
              validationRunId := some run.id }
          .ok (s₃, some why)
        | .ok stamp =>
          let s₃ ← (s₂.put id (stamped w id (gated validated run) stamp)).transition w id
            .registered
            { reason := if reason ≠ "" then Text.lit reason else
                Text.lit s!"artifact verified ({algorithm} " ++
                  Text.take 12 (Text.lit stamp.sha) ++ Text.lit s!", {stamp.bytes} bytes, " ++
                  Text.lit s!"{stamp.kind}), loads, feature set " ++
                  Text.lit s!"{nameOrEmpty validated.featureVersion} matches, lineage complete"
              actor
              validationRunId := some run.id }
          .ok (s₃, none)

def reject : Except Raised Registry :=
  if reason = "" then
    refuse (Text.lit "a rejection states its reason; an unexplained one is a hole")
  else s.transition w id .rejected { reason := Text.lit reason, actor }

def release (superseded : String) (label : String) (scope : Scope) : Except Raised Registry :=
  match s.versions superseded with
  | none => .ok s
  | some version =>
    if version.status = .paper ∨ version.status = .promoted then
      s.transition w superseded .registered
        { reason := Text.lit s!"superseded by {label} on {scope.describe}"
          actor
          environment := scope.environment }
    else .ok s

def supersede (existing : ModelDeployment) (label : String) (scope : Scope) :
    Except Raised Registry :=
  release w
    (s.finish existing.id .superseded w.now
      (Text.lit s!" | superseded by {label} at " ++ [.time w.now]))
    actor existing.modelVersionId label scope

def place (version : ModelVersion) (scope : Scope) (previous : Option String) :
    Except Raised Registry := do
  let d := s.deployment w id version scope actor
    (Text.lit (if reason ≠ "" then reason else s!"deployed to {scope.describe}")) previous
  let s₁ ← s.insert d
  if version.status ≠ .paper then
    s₁.transition w id .paper
      { reason := Text.lit (if reason ≠ "" then reason else
          s!"deployed to paper on {scope.describe}")
        actor
        environment := scope.environment
        deploymentId := some d.id }
  else .ok s₁

def deployToPaper (scope : Scope) : Except Raised Registry :=
  match s.versions id with
  | none => unknownVersion
  | some version =>
    if scope.environment ≠ "paper" then
      refuse (Text.lit ("deploy_to_paper is for the paper environment; this scope names " ++
        s!"{scope.environment}. §12: paper comes first and the step is explicit."))
    else if version.status ≠ .registered ∧ version.status ≠ .paper then
      refuse (Text.lit ("only a registered version can be deployed; this one is " ++
        s!"{version.status.name}."))
    else
      match guard w id version scope with
      | .error raised => .error raised
      | .ok () =>
        match s.activeDeployment (s.keyOf version) scope with
        | none => place w s id actor reason version scope none
        | some existing =>
          if existing.modelVersionId = id then
            refuse (Text.lit (s!"{s.keyOf version} v{version.label} is already the active " ++
              s!"deployment for {scope.describe}."))
          else do
            let s₁ ← supersede w s actor existing version.label scope
            place w s₁ id actor reason version scope (some existing.modelVersionId)

def promote (scope : Scope) : Except Raised Registry :=
  match s.versions id with
  | none => unknownVersion
  | some version =>
    if reason = "" then
      refuse (Text.lit ("a promotion states its reason. §19 asks for an audit trail, and an " ++
        "entry that does not say why is a timestamp rather than a record."))
    else if version.status ≠ .paper then
      refuse (Text.lit ("only a paper-deployed version can be promoted; this one is " ++
        s!"{version.status.name}. §12: Training -> Validation -> Registry -> Paper -> " ++
        "Monitoring -> explicit promotion, and there is no shortcut through it."))
    else
      match guard w id version scope with
      | .error raised => .error raised
      | .ok () =>
        match s.activeDeployment (s.keyOf version) scope with
        | none => refuse (undeployed scope)
        | some d =>
          if d.modelVersionId ≠ id then refuse (undeployed scope)
          else
            s.transition w id .promoted
              { reason := Text.lit reason, actor, environment := scope.environment
                deploymentId := some d.id }
where
  /-- The version serves another scope, or none. -/
  undeployed (scope : Scope) : Text :=
    Text.lit (s!"this version has no active deployment on {scope.describe}. A promotion names " ++
      "the scope it applies to; promoting a version that is not deployed anywhere would be a " ++
      "status with no meaning.")

def notActive (scope : Scope) : Text :=
  Text.lit s!"this version is not the active deployment on {scope.describe}"

def restorable (previous : String) (scope : Scope) : Except Raised ModelVersion :=
  match s.versions previous with
  | none =>
    .error (.refused (Text.lit (s!"the version this deployment replaced ({previous}) no longer " ++
      "exists. Refused rather than rolled back to nothing.")))
  | some version => do
    (guard w previous version scope).mapError (Raised.wrap fun why =>
      Text.lit "the previous version cannot be restored: " ++ why ++
        Text.lit (". The rollback is refused and the current version is left active -- an " ++
          "active model that is wrong is bad; no active model at all is worse, and it fails " ++
          "silently."))
    if version.status ≠ .registered ∧ version.status ≠ .rolledBack then
      .error (.refused (Text.lit (s!"the previous version is {version.status.name} and cannot " ++
        "be re-deployed. A retired or rejected version is not resurrected by a rollback.")))
    .ok version

def readmit (previous : String) (before : ModelVersion) (scope : Scope) :
    Except Raised Registry :=
  if before.status = .rolledBack then
    s.transition w previous .registered
      { reason := Text.lit "restored by a rollback", actor, environment := scope.environment }
  else .ok s

def restore (withdrawn : ModelVersion) (previous : String) (before : ModelVersion)
    (scope : Scope) : Except Raised Registry := do
  let s₁ ← readmit w s actor previous before scope
  let d := { s₁.deployment w previous before scope actor
      (Text.lit s!"restored by a rollback of {nameOrEmpty withdrawn.artifactRef}: {reason}")
      (some id) with modelKey := s.keyOf withdrawn }
  let s₂ ← s₁.insert d
  s₂.transition w previous .paper
    { reason := Text.lit s!"restored by a rollback: {reason}"
      actor
      environment := scope.environment
      deploymentId := some d.id }

def rollback (scope : Scope) : Except Raised Registry :=
  match s.versions id with
  | none => unknownVersion
  | some version =>
    if reason = "" then refuse (Text.lit "a rollback states its reason")
    else if version.status ≠ .paper ∧ version.status ≠ .promoted then
      refuse (Text.lit ("only a deployed version can be rolled back; this one is " ++
        version.status.name))
    else
      match s.activeDeployment (s.keyOf version) scope with
      | none => refuse (notActive scope)
      | some d =>
        if d.modelVersionId ≠ id then refuse (notActive scope)
        else
          let withdraw : Except Raised Registry :=
            (s.finish d.id .rolledBack w.now (Text.lit s!" | rolled back: {reason}")).transition w
              id .rolledBack
              { reason := Text.lit reason, actor, environment := scope.environment
                deploymentId := some d.id }
          match d.previousVersionId with
          | none => withdraw
          | some previous => do
            let before ← restorable w s previous scope
            let s₁ ← withdraw
            restore w s₁ id actor reason version previous before scope

def stopDeployment (scope : Scope) : Except Raised Registry :=
  match s.versions id with
  | none => unknownVersion
  | some version =>
    if reason = "" then refuse (Text.lit "a deactivation states its reason")
    else
      match s.activeDeployment (s.keyOf version) scope with
      | none => refuse (notActive scope)
      | some d =>
        if d.modelVersionId ≠ id then refuse (notActive scope)
        else
          (s.finish d.id .stopped w.now (Text.lit s!" | stopped: {reason}")).transition w id
            .registered
            { reason := Text.lit s!"deployment stopped: {reason}"
              actor
              environment := scope.environment
              deploymentId := some d.id }

def retire : Except Raised Registry :=
  if reason = "" then refuse (Text.lit "a retirement states its reason")
  else
    match s.deployments.find? fun d => decide (d.modelVersionId = id ∧ d.status = .active) with
    | some active =>
      refuse (Text.lit (s!"this version is still the active deployment on " ++
        s!"{active.scope.environment}" ++
        (match active.scope.strategyKey with
          | some strategy => s!"/{strategy}"
          | none => "") ++ ". Stop or roll back the deployment first: retiring a version out " ++
        "from under a running strategy is the silent change §21 asks to avoid."))
    | none => s.transition w id .retired { reason := Text.lit reason, actor }

end Operations

inductive Call where
  | register (id : String) (actor : Option String) (reason : String)
  | reject (id : String) (actor : Option String) (reason : String)
  | deployToPaper (id : String) (scope : Scope) (actor : Option String) (reason : String)
  | promote (id : String) (scope : Scope) (actor : Option String) (reason : String)
  | rollback (id : String) (scope : Scope) (actor : Option String) (reason : String)
  | stopDeployment (id : String) (scope : Scope) (actor : Option String) (reason : String)
  | retire (id : String) (actor : Option String) (reason : String)

def perform (w : World) (s : Registry) : Call → Except Raised Registry
  | .register id actor reason => (register w s id actor reason).map Prod.fst
  | .reject id actor reason => reject w s id actor reason
  | .deployToPaper id scope actor reason => deployToPaper w s id actor reason scope
  | .promote id scope actor reason => promote w s id actor reason scope
  | .rollback id scope actor reason => rollback w s id actor reason scope
  | .stopDeployment id scope actor reason => stopDeployment w s id actor reason scope
  | .retire id actor reason => retire w s id actor reason

def after (s : Registry) (step : World × Call) : Registry :=
  match perform step.1 s step.2 with
  | .ok s' => s'
  | .error _ => s

def run (s : Registry) (steps : List (World × Call)) : Registry := steps.foldl after s

end TradeResearch.Ai
