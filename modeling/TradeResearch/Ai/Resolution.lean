import TradeResearch.Ai.Deployments
import TradeResearch.Lib.Fallible

/-!
# Which version a request resolves to

`resolve` of `backend/app/ai/resolution.py`, on the registry that `Registry` is run on. The models
that have a row and `repr` of a text are parameters.

* `eq_of_specificity`: of the active deployments that cover a request, no two are as narrow.
* `resolve_after` is what an answer says after any calls, and that the order of the rows is nothing
  to it.
-/

namespace TradeResearch.Ai

structure Request where
  modelKey : String
  strategyKey : Option String := none
  symbol : Option String := none
  timeframe : Option String := none
  environment : String := "paper"

def named (name : String) (value : Option String) : List String :=
  if absent value = true then [] else [s!"{name}={nameOrEmpty value}"]

def Request.describe (r : Request) : String :=
  commaList (r.modelKey :: s!"environment={r.environment}" :: (named "strategy_key" r.strategyKey ++
    named "symbol" r.symbol ++ named "timeframe" r.timeframe))

structure Resolution where
  versionId : String
  modelKey : String
  modelVersion : String
  deploymentId : ℕ
  environment : String
  status : ModelStatus
  featureVersion : Option String
  artifactSha256 : Option String
  checks : List (String × Text)

/-- `_specificity`: a strategy, then a symbol, then a timeframe; the triple is read as a number. -/
def specificity (d : ModelDeployment) : ℕ :=
  (if absent d.scope.strategyKey = true then 0 else 4) +
    (if absent d.scope.symbol = true then 0 else 2) +
    if absent d.scope.timeframe = true then 0 else 1

def within (own wanted : Option String) : Bool := own.isNone || decide (own = wanted)

/-- `_covers`. -/
def covers (r : Request) (d : ModelDeployment) : Bool :=
  within d.scope.strategyKey r.strategyKey && within d.scope.symbol r.symbol &&
    within d.scope.timeframe r.timeframe

def candidate (r : Request) (d : ModelDeployment) : Bool :=
  decide (d.modelKey = r.modelKey ∧ d.scope.environment = r.environment ∧ d.status = .active)

/-- The first of the rows, the narrowest first. -/
def narrowest (rows : List ModelDeployment) : Option ModelDeployment :=
  (rows.mergeSort fun d e => decide (specificity e ≤ specificity d)).head?

section Resolve

variable (registered : String → Bool) (repr : String → String) (w : World)

def deploymentFor (rows : List ModelDeployment) (r : Request) : Except Raised ModelDeployment :=
  if registered r.modelKey = false then
    .error (.refused (Text.lit s!"no model {repr r.modelKey} is registered on this platform."))
  else
    let candidates := rows.filter (candidate r)
    match narrowest (candidates.filter (covers r)) with
    | some d => .ok d
    | none =>
      .error (.refused (Text.lit s!"no active deployment covers {r.describe}. " ++
        if candidates.isEmpty then
          Text.lit "This model has no active deployment in this environment."
        else Text.num candidates.length ++ Text.lit (" deployment(s) exist for this model in " ++
          s!"{r.environment} and none of their scopes contains this request.")))

def fittedFor (label : String) (own asked : Option String) : Except Raised Unit :=
  if absent own = false ∧ absent asked = false ∧ own ≠ asked then
    .error (.refused (Text.lit (s!"{label} was fitted for {nameOrEmpty own} and the request " ++
      s!"names {nameOrEmpty asked}.")))
  else .ok ()

def admitted (r : Request) (d : ModelDeployment) (version : ModelVersion) :
    Except Raised Resolution := do
  let label := s!"{r.modelKey} v{d.modelVersionLabel}"
  let fitted := version.featureVersion.getD "None"
  if version.status ∉ servingStatuses then
    .error (.refused (Text.lit (s!"{label} is {version.status.name}, which does not serve " ++
      "inference. A deployment row and a servable status are two different facts and both must " ++
      "hold.")))
  if absent version.validationRunId = true then
    .error (.refused (Text.lit (s!"{label} does not name the validation run that gated it. §9: " ++
      "validation is never bypassed, and a version that cannot name its run has not " ++
      "demonstrably passed one.")))
  let integrity ← w.verify d.modelVersionId
  if integrity.1 = false then
    .error (.refused (Text.lit s!"the artifact for {label} cannot be trusted: " ++ integrity.2 ++
      Text.lit " §7: a model whose integrity fails is not loaded for trading."))
  if version.featureVersion ≠ some w.featureSetVersion then
    .error (.refused (Text.lit (s!"{label} was fitted against feature set {fitted} and this " ++
      s!"deployment computes {w.featureSetVersion}.")))
  fittedFor label version.symbolScope r.symbol
  fittedFor label version.timeframeScope r.timeframe
  return {
    versionId := d.modelVersionId
    modelKey := r.modelKey
    modelVersion := d.modelVersionLabel
    deploymentId := d.id
    environment := d.scope.environment
    status := version.status
    featureVersion := version.featureVersion
    artifactSha256 := version.artifactSha256
    checks :=
      [("status", Text.lit s!"{version.status.name} serves inference"),
        ("validation", Text.lit "gated by validation run " ++
          Text.take 12 (Text.lit (nameOrEmpty version.validationRunId))),
        ("artifact", integrity.2),
        ("features", Text.lit s!"feature set {nameOrEmpty version.featureVersion} matches"),
        ("scope", Text.lit s!"deployment scope ({d.scope.describe}) covers the request")] }

def resolve (s : Registry) (r : Request) : Except Raised Resolution := do
  let d ← deploymentFor registered repr s.deployments r
  match s.versions d.modelVersionId with
  | none =>
    .error (.refused (Text.lit "deployment " ++ Text.num d.id ++
      Text.lit " names a version that no longer exists"))
  | some version => admitted w r d version

end Resolve

theorem ne_empty_of_not_blank {value : String} (plain : blank value = false) : value ≠ "" := by
  rintro rfl
  cases plain

theorem within_eq {own own' wanted : Option String} (plain : ∀ value ∈ own, blank value = false)
    (plain' : ∀ value ∈ own', blank value = false) (inside : within own wanted = true)
    (inside' : within own' wanted = true) (alike : absent own = absent own') : own = own' := by
  cases own with
  | none =>
    cases own' with
    | none => rfl
    | some value =>
      exact absurd (of_decide_eq_true alike.symm) (ne_empty_of_not_blank (plain' _ rfl))
  | some value =>
    cases own' with
    | none => exact absurd (of_decide_eq_true alike) (ne_empty_of_not_blank (plain _ rfl))
    | some value' => exact (of_decide_eq_true inside).trans (of_decide_eq_true inside').symm

theorem bits_inj : ∀ a b c a' b' c' : Bool,
    (if a = true then 0 else 4) + (if b = true then 0 else 2) + (if c = true then 0 else 1) =
      (if a' = true then 0 else 4) + (if b' = true then 0 else 2) + (if c' = true then 0 else 1) →
    a = a' ∧ b = b' ∧ c = c' := by
  decide

theorem eq_of_specificity {s : Registry} (placed : Placed s.view) {r : Request}
    {d e : ModelDeployment} (mem : d ∈ s.deployments) (mem' : e ∈ s.deployments)
    (may : candidate r d = true) (may' : candidate r e = true) (inside : covers r d = true)
    (inside' : covers r e = true) (same : specificity d = specificity e) : d = e := by
  obtain ⟨model, environment, active⟩ := of_decide_eq_true may
  obtain ⟨model', environment', active'⟩ := of_decide_eq_true may'
  unfold covers at inside inside'
  simp only [Bool.and_eq_true] at inside inside'
  obtain ⟨strategies, symbols, timeframes⟩ := bits_inj _ _ _ _ _ _ same
  have scope : d.scope = e.scope := by
    generalize d.scope = own at inside strategies symbols timeframes environment
    generalize e.scope = own' at inside' strategies symbols timeframes environment'
    obtain ⟨a, b, c, f, plain, known⟩ := own
    obtain ⟨a', b', c', f', plain', known'⟩ := own'
    cases within_eq (plain a (by simp)) (plain' a' (by simp)) inside.1.1 inside'.1.1 strategies
    cases within_eq (plain b (by simp)) (plain' b' (by simp)) inside.1.2 inside'.1.2 symbols
    cases within_eq (plain c (by simp)) (plain' c' (by simp)) inside.2 inside'.2 timeframes
    cases environment.trans environment'.symm
    rfl
  have here : d ∈ s.view.active := List.mem_filter.mpr ⟨mem, decide_eq_true active⟩
  have here' : e ∈ s.view.active := List.mem_filter.mpr ⟨mem', decide_eq_true active'⟩
  refine placed.unique d here e here' ?_
  rw [slot_of_mem placed here, slot_of_mem placed here', scope, model, model']

theorem narrowest_eq_some {rows : List ModelDeployment} {d : ModelDeployment}
    (first : narrowest rows = some d) : d ∈ rows ∧ ∀ e ∈ rows, specificity e ≤ specificity d := by
  have sorted : (rows.mergeSort fun d e => decide (specificity e ≤ specificity d)).Pairwise
      fun d e => decide (specificity e ≤ specificity d) = true := by
    refine List.pairwise_mergeSort (fun a b c ab bc => ?_) (fun a b => ?_) rows
    · exact decide_eq_true ((of_decide_eq_true bc).trans (of_decide_eq_true ab))
    · rw [Bool.or_eq_true, decide_eq_true_eq, decide_eq_true_eq]
      exact (Nat.le_total ..).symm
  obtain ⟨rest, is⟩ := List.head?_eq_some_iff.mp first
  rw [is, List.pairwise_cons] at sorted
  have all : ∀ e, e ∈ rows ↔ e ∈ d :: rest := fun e => is ▸ List.mem_mergeSort.symm
  refine ⟨(all d).mpr List.mem_cons_self, fun e mem => ?_⟩
  rcases List.mem_cons.mp ((all e).mp mem) with rfl | later
  · exact le_rfl
  · exact of_decide_eq_true (sorted.1 e later)

theorem narrowest_eq_none {rows : List ModelDeployment} : narrowest rows = none ↔ rows = [] := by
  unfold narrowest
  rw [List.head?_eq_none_iff, ← List.length_eq_zero_iff, List.length_mergeSort,
    List.length_eq_zero_iff]

/-- The narrowest of the active deployments that cover the request, and no other is as narrow. -/
structure Chosen (s : Registry) (r : Request) (d : ModelDeployment) : Prop where
  mem : d ∈ s.deployments
  may : candidate r d = true
  inside : covers r d = true
  narrower : ∀ e ∈ s.deployments, candidate r e = true → covers r e = true → e ≠ d →
    specificity e < specificity d

variable {registered : String → Bool} {repr : String → String} {w : World} {s : Registry}

theorem Chosen.of_narrowest (placed : Placed s.view) {rows : List ModelDeployment}
    (same : rows.Perm s.deployments) {d : ModelDeployment}
    (first : narrowest ((rows.filter (candidate r)).filter (covers r)) = some d) :
    Chosen s r d := by
  obtain ⟨mem, most⟩ := narrowest_eq_some first
  obtain ⟨mem, inside⟩ := List.mem_filter.mp mem
  obtain ⟨mem, may⟩ := List.mem_filter.mp mem
  have here := same.mem_iff.mp mem
  refine ⟨here, may, inside, fun e mem' may' inside' apart => ?_⟩
  have row : e ∈ (rows.filter (candidate r)).filter (covers r) :=
    List.mem_filter.mpr ⟨List.mem_filter.mpr ⟨same.mem_iff.mpr mem', may'⟩, inside'⟩
  refine lt_of_le_of_ne (most e row) fun alike => apart ?_
  exact eq_of_specificity placed mem' here may' may inside' inside alike

theorem Chosen.unique {d e : ModelDeployment} (chosen : Chosen s r d) (chosen' : Chosen s r e) :
    d = e := by
  by_contra apart
  have less := chosen'.narrower d chosen.mem chosen.may chosen.inside apart
  have more := chosen.narrower e chosen'.mem chosen'.may chosen'.inside (Ne.symm apart)
  omega

theorem narrowest_perm (placed : Placed s.view) {rows rows' : List ModelDeployment}
    (same : rows.Perm s.deployments) (same' : rows'.Perm s.deployments) {d : ModelDeployment}
    (first : narrowest ((rows.filter (candidate r)).filter (covers r)) = some d) :
    narrowest ((rows'.filter (candidate r)).filter (covers r)) = some d := by
  have covering := ((same.trans same'.symm).filter (candidate r)).filter (covers r)
  cases other : narrowest ((rows'.filter (candidate r)).filter (covers r)) with
  | none =>
    rw [narrowest_eq_none.mp other] at covering
    rw [narrowest_eq_none.mpr covering.eq_nil] at first
    cases first
  | some e =>
    exact congrArg some ((Chosen.of_narrowest placed same' other).unique
      (.of_narrowest placed same first))

theorem deploymentFor_perm (placed : Placed s.view) {rows : List ModelDeployment}
    (same : rows.Perm s.deployments) :
    deploymentFor registered repr rows r = deploymentFor registered repr s.deployments r := by
  have asked := same.filter (candidate r)
  have first : narrowest ((rows.filter (candidate r)).filter (covers r)) =
      narrowest ((s.deployments.filter (candidate r)).filter (covers r)) :=
    Option.ext fun d => ⟨narrowest_perm placed same (.refl _), narrowest_perm placed (.refl _) same⟩
  unfold deploymentFor
  dsimp only
  rw [first, asked.length_eq, asked.isEmpty_eq]

/-- What an answer to a request says: it is of the narrowest deployment, whose version serves
inference, names its validation run, has an artifact that verified now and the features that are
computed, and was fitted for what the request names. -/
structure Answers (w : World) (s : Registry) (r : Request) (answer : Resolution)
    (d : ModelDeployment) (version : ModelVersion) : Prop where
  chosen : Chosen s r d
  row : s.versions d.modelVersionId = some version
  names : answer.versionId = d.modelVersionId
  deployment : answer.deploymentId = d.id
  serves : version.status ∈ servingStatuses
  validated : absent version.validationRunId = false
  intact : ∃ why, w.verify d.modelVersionId = .ok (true, why)
  features : version.featureVersion = some w.featureSetVersion
  symbol : absent version.symbolScope = true ∨ absent r.symbol = true ∨
    version.symbolScope = r.symbol
  timeframe : absent version.timeframeScope = true ∨ absent r.timeframe = true ∨
    version.timeframeScope = r.timeframe

theorem fittedFor_eq_ok {label : String} {own asked : Option String} :
    fittedFor label own asked = .ok () ↔ absent own = true ∨ absent asked = true ∨ own = asked := by
  unfold fittedFor
  split
  · next refused =>
    refine iff_of_false (fun ok => by cases ok) ?_
    rintro (is | is | is)
    · exact Bool.noConfusion (is.symm.trans refused.1)
    · exact Bool.noConfusion (is.symm.trans refused.2.1)
    · exact refused.2.2 is
  · next fits =>
    refine iff_of_true rfl ?_
    by_contra none_
    push Not at none_
    exact fits ⟨eq_false_of_ne_true none_.1, eq_false_of_ne_true none_.2.1, none_.2.2⟩

theorem answers_of_resolve (placed : Placed s.view) {answer : Resolution}
    (resolved : resolve registered repr w s r = .ok answer) :
    ∃ d version, Answers w s r answer d version := by
  obtain ⟨d, found, admits⟩ := Fallible.bind_eq_ok.mp resolved
  have chosen : Chosen s r d := by
    unfold deploymentFor at found
    dsimp only at found
    split at found
    · cases found
    · split at found
      · next first =>
        cases found
        exact .of_narrowest placed (.refl _) first
      · cases found
  split at admits
  · cases admits
  · next version row =>
    unfold admitted at admits
    dsimp only at admits
    split at admits
    · cases admits
    · next serves =>
      split at admits
      · cases admits
      · next validated =>
        obtain ⟨integrity, verified, admits⟩ := Fallible.bind_eq_ok.mp admits
        split at admits
        · cases admits
        · next intact =>
          split at admits
          · cases admits
          · next features =>
            obtain ⟨_, symbol, admits⟩ := Fallible.bind_eq_ok.mp admits
            obtain ⟨_, timeframe, admits⟩ := Fallible.bind_eq_ok.mp admits
            cases admits
            refine ⟨d, version, chosen, row, rfl, rfl, not_not.mp serves,
              eq_false_of_ne_true validated, ⟨integrity.2, ?_⟩, not_not.mp features,
              fittedFor_eq_ok.mp symbol, fittedFor_eq_ok.mp timeframe⟩
            rw [verified, ← Bool.of_not_eq_false intact]

theorem placed_run {steps : List (World × Call)} (placed : Placed s.view) :
    Placed (run s steps).view := by
  induction steps generalizing s with
  | nil => exact placed
  | cons step rest ih =>
    refine ih ?_
    unfold after
    split
    · next through => exact placed.step (course_perform through)
    · exact placed

/-- After any calls, the order of the rows is nothing to the answer to a request, and an answer is
of the one narrowest deployment that covers it. -/
theorem resolve_after (registered : String → Bool) (repr : String → String) (w : World)
    (models : String → Option String) (drafts : String → Option ModelVersion)
    (steps : List (World × Call)) (r : Request) :
    let s := run (opened models drafts) steps
    (∀ rows, rows.Perm s.deployments → resolve registered repr w { s with deployments := rows } r =
      resolve registered repr w s r) ∧
    ∀ answer, resolve registered repr w s r = .ok answer →
      ∃ d version, Answers w s r answer d version := by
  have none_ : (opened models drafts).view.active = [] := rfl
  have placed : Placed (run (opened models drafts) steps).view := by
    refine placed_run ?_
    constructor <;> rw [none_] <;> intro d mem <;> cases mem
  refine ⟨fun rows same => ?_, fun answer => answers_of_resolve placed⟩
  unfold resolve
  rw [deploymentFor_perm placed same]

end TradeResearch.Ai
