import Mathlib.Data.List.Perm.Lattice
import Mathlib.Order.WithBot
import TradeResearch.Risk.Engine

/-!
# Layers of limits

`backend/app/risk/config.py`: the layers a configuration is made of, their combination field by
field, and the validation of the result. A layer's `params` are the limits it speaks to, with the
names it uses that no limit has.

* `resolve` folds the layers into the effective limits, with an account of where each came from.
* `Tighter` says that one record of limits is at least as restrictive as another on every field, as
  the engine reads them: a loss limit by its absolute value.
* `Tighter.approved`: the engine approves nothing under tighter limits that it refuses under
  looser ones.
* `resolve_tighter_iff` says exactly when an extra layer makes the limits tighter.
-/

namespace TradeResearch.Risk

def minOpt : Option ℚ → Option ℚ → Option ℚ
  | none, b => b
  | a, none => a
  | some a, some b => some (min a b)

def maxOpt : Option ℚ → Option ℚ → Option ℚ
  | none, b => b
  | a, none => a
  | some a, some b => some (max a b)

def orOpt : Option Bool → Option Bool → Option Bool
  | a, none => a
  | none, some b => some b
  | some a, some b => some (a || b)

theorem minOpt_eq (a b : Option ℚ) : minOpt a b = (min a b : WithTop ℚ) := by
  cases a with
  | none => exact (top_inf_eq (α := WithTop ℚ) b).symm
  | some a =>
    cases b with
    | none => exact (inf_top_eq (α := WithTop ℚ) (some a)).symm
    | some b => exact (WithTop.coe_min a b).symm

theorem maxOpt_eq (a b : Option ℚ) : maxOpt a b = (max a b : WithBot ℚ) := by
  cases a with
  | none => exact (bot_sup_eq (α := WithBot ℚ) b).symm
  | some a =>
    cases b with
    | none => exact (sup_bot_eq (α := WithBot ℚ) (some a)).symm
    | some b => exact (WithBot.coe_max a b).symm

instance : RightCommutative minOpt where
  right_comm a b c := by
    rw [minOpt_eq (minOpt a b) c, minOpt_eq a b, minOpt_eq (minOpt a c) b, minOpt_eq a c]
    exact min_right_comm (α := WithTop ℚ) a b c

instance : RightCommutative maxOpt where
  right_comm a b c := by
    rw [maxOpt_eq (maxOpt a b) c, maxOpt_eq a b, maxOpt_eq (maxOpt a c) b, maxOpt_eq a c]
    exact max_right_comm (α := WithBot ℚ) a b c

instance : RightCommutative orOpt where
  right_comm a b c := by
    cases a <;> cases b <;> cases c <;> simp [orOpt, Bool.or_comm, Bool.or_left_comm]

inductive Scope where
  | global
  | brokerAccount
  | paperAccount
  | strategy
  | symbol
  deriving DecidableEq, Repr

def Scope.name : Scope → String
  | global => "global"
  | brokerAccount => "broker_account"
  | paperAccount => "paper_account"
  | strategy => "strategy"
  | symbol => "symbol"

inductive LimitField where
  | cap (c : Cap)
  | floor (f : Floor)
  | flag (g : Flag)
  deriving DecidableEq, Repr

structure Params where
  cap : Cap → Option ℚ := fun _ => none
  floor : Floor → Option ℚ := fun _ => none
  flag : Flag → Option Bool := fun _ => none
  unknown : Finset String := ∅

structure Layer where
  scope : Scope
  scopeRef : Option String
  params : Params
  version : ℤ := 1
  name : String := ""

def Layer.source (l : Layer) : String :=
  let ref := (truthy l.scopeRef).getD "*"
  s!"{l.scope.name}:{ref}"

structure Resolved where
  limits : RiskLimits
  version : ℤ
  sources : LimitField → Option String
  layers : List String

inductive ConfigurationInvalid where
  | unknownLimits (names : Finset String)
  | problems (texts : List Text)

/-! ## Validation -/

def numericFields : List (LimitField × String) :=
  [(.cap .maxRiskPerTrade, "max_risk_per_trade"),
    (.cap .maxDailyLoss, "max_daily_loss"),
    (.cap .maxWeeklyLoss, "max_weekly_loss"),
    (.cap .maxConsecutiveLosses, "max_consecutive_losses"),
    (.cap .maxCorrelatedExposure, "max_correlated_exposure"),
    (.cap .maxDrawdownPct, "max_drawdown_pct"),
    (.cap .maxExposurePerCurrency, "max_exposure_per_currency"),
    (.cap .maxOpenPositions, "max_open_positions"),
    (.cap .maxTradesPerDay, "max_trades_per_day"),
    (.cap .maxLeverage, "max_leverage"),
    (.cap .maxTradesPerHour, "max_trades_per_hour"),
    (.cap .maxTradesPerMinute, "max_trades_per_minute"),
    (.cap .maxPositionSize, "max_position_size"),
    (.cap .maxConcentrationPct, "max_concentration_pct"),
    (.cap .maxMarginUtilisationPct, "max_margin_utilisation_pct"),
    (.floor .minRiskReward, "min_risk_reward"),
    (.floor .cooldownSeconds, "cooldown_seconds"),
    (.cap .marketDataMaxAgeSeconds, "market_data_max_age_seconds"),
    (.cap .maxSpreadPoints, "max_spread_points"),
    (.cap .maxSignalAgeSeconds, "max_signal_age_seconds")]

def positiveOnly : LimitField → Bool
  | .cap .maxRiskPerTrade | .cap .maxDailyLoss | .cap .maxDrawdownPct
  | .cap .maxExposurePerCurrency | .cap .maxLeverage | .cap .maxPositionSize
  | .cap .maxConcentrationPct | .cap .maxMarginUtilisationPct | .cap .maxSpreadPoints
  | .cap .maxSignalAgeSeconds | .cap .marketDataMaxAgeSeconds | .floor .minRiskReward => true
  | _ => false

def percentage : LimitField → Bool
  | .cap .maxDrawdownPct | .cap .maxConcentrationPct | .cap .maxMarginUtilisationPct => true
  | _ => false

def nonNegative : LimitField → Bool
  | .cap .maxOpenPositions | .cap .maxTradesPerDay | .cap .maxTradesPerHour
  | .cap .maxTradesPerMinute | .floor .cooldownSeconds => true
  | _ => false

namespace RiskLimits

def number (limits : RiskLimits) : LimitField → Option ℚ
  | .cap c => limits.cap c
  | .floor f => limits.floor f
  | .flag _ => none

def fieldProblems (limits : RiskLimits) (field : LimitField) (name : String) : List Text :=
  match limits.number field with
  | none => []
  | some value =>
    (if positiveOnly field = true ∧ value ≤ 0 then
      [Text.lit s!"{name} must be positive when set, not " ++ Text.num value ++
        Text.lit "; zero or negative would disable the check rather than tighten it"]
    else []) ++
    (if percentage field = true ∧ 100 < value then
      [Text.lit s!"{name} is a percentage and cannot exceed 100, got " ++ Text.num value]
    else []) ++
    if nonNegative field = true ∧ value < 0 then
      [Text.lit s!"{name} cannot be negative, got " ++ Text.num value]
    else []

def windowProblem (limits : RiskLimits) (inner outer : Cap) (problem : ℚ → ℚ → Text) : List Text :=
  match limits.cap inner, limits.cap outer with
  | some within, some whole => if whole < within then [problem within whole] else []
  | _, _ => []

def validate (limits : RiskLimits) : List Text :=
  numericFields.flatMap (fun field => limits.fieldProblems field.1 field.2) ++
    limits.windowProblem .maxTradesPerMinute .maxTradesPerHour
      (fun minute hour =>
        compared "max_trades_per_minute (" minute ") exceeds max_trades_per_hour (" hour
          "); the tighter window cannot allow more than the wider one") ++
    limits.windowProblem .maxTradesPerHour .maxTradesPerDay
      fun hour day =>
        compared "max_trades_per_hour (" hour ") exceeds max_trades_per_day (" day ")"

def checkValid (limits : RiskLimits) : Except ConfigurationInvalid RiskLimits :=
  if limits.validate = [] then .ok limits else .error (.problems limits.validate)

end RiskLimits

/-! ## Resolution -/

structure Merge where
  effective : Params
  sources : LimitField → Option String

namespace Merge

def empty : Merge := { effective := {}, sources := fun _ => none }

def attributed {α : Type} [DecidableEq α] (source : String) (current value combined : Option α)
    (before : Option String) : Option String :=
  if value = none then before
  else if current = none ∨ combined ≠ current then some source
  else before

def add (m : Merge) (layer : Layer) : Merge :=
  let current := m.effective
  let stated := layer.params
  let combined : Params :=
    { cap := fun c => minOpt (current.cap c) (stated.cap c)
      floor := fun f => maxOpt (current.floor f) (stated.floor f)
      flag := fun g => orOpt (current.flag g) (stated.flag g)
      unknown := current.unknown ∪ stated.unknown }
  { effective := combined
    sources := fun
      | .cap c =>
        attributed layer.source (current.cap c) (stated.cap c) (combined.cap c) (m.sources (.cap c))
      | .floor f =>
        attributed layer.source (current.floor f) (stated.floor f) (combined.floor f)
          (m.sources (.floor f))
      | .flag g =>
        attributed layer.source (current.flag g) (stated.flag g) (combined.flag g)
          (m.sources (.flag g)) }

def all (layers : List Layer) : Merge := layers.foldl add empty

end Merge

def Params.limits (effective : Params) : RiskLimits :=
  { cap := effective.cap
    floor := effective.floor
    flag := fun g => (effective.flag g).getD (Flag.default g) }

def versionOf (layers : List Layer) : ℤ :=
  let total := (layers.map Layer.version).sum
  if total = 0 then 1 else total

def resolve (layers : List Layer) : Except ConfigurationInvalid Resolved := do
  let merged := Merge.all layers
  if merged.effective.unknown ≠ ∅ then throw (.unknownLimits merged.effective.unknown)
  let limits ← merged.effective.limits.checkValid
  pure
    { limits
      version := versionOf layers
      sources := merged.sources
      layers := layers.map fun layer => s!"{layer.source}@v{layer.version}" }

def effective (layers : List Layer) : RiskLimits := (Merge.all layers).effective.limits

/-! ## The effective limits field by field -/

theorem merge_foldl (layers : List Layer) (m : Merge) :
    let merged := (layers.foldl Merge.add m).effective
    (∀ c, merged.cap c = (layers.map fun l => l.params.cap c).foldl minOpt (m.effective.cap c)) ∧
    (∀ f, merged.floor f =
      (layers.map fun l => l.params.floor f).foldl maxOpt (m.effective.floor f)) ∧
    (∀ g, merged.flag g = (layers.map fun l => l.params.flag g).foldl orOpt (m.effective.flag g)) ∧
    merged.unknown =
      (layers.map fun l => l.params.unknown).foldl (· ∪ ·) m.effective.unknown := by
  induction layers generalizing m with
  | nil => exact ⟨fun _ => rfl, fun _ => rfl, fun _ => rfl, rfl⟩
  | cons layer layers ih => exact ih (m.add layer)

theorem effective_cap (layers : List Layer) (c : Cap) :
    (effective layers).cap c = (layers.map fun l => l.params.cap c).foldl minOpt none :=
  (merge_foldl layers Merge.empty).1 c

theorem effective_floor (layers : List Layer) (f : Floor) :
    (effective layers).floor f = (layers.map fun l => l.params.floor f).foldl maxOpt none :=
  (merge_foldl layers Merge.empty).2.1 f

theorem effective_flag (layers : List Layer) (g : Flag) :
    (effective layers).flag g =
      ((layers.map fun l => l.params.flag g).foldl orOpt none).getD (Flag.default g) :=
  congrArg (Option.getD · (Flag.default g)) ((merge_foldl layers Merge.empty).2.2.1 g)

theorem resolve_eq (layers : List Layer) :
    (resolve layers).map (fun r => (r.limits, r.version)) =
      if (Merge.all layers).effective.unknown ≠ ∅ then
        .error (.unknownLimits (Merge.all layers).effective.unknown)
      else if (effective layers).validate = [] then .ok (effective layers, versionOf layers)
      else .error (.problems (effective layers).validate) := by
  unfold resolve
  by_cases stray : (Merge.all layers).effective.unknown ≠ ∅
  · simp only [if_pos stray]
    rfl
  · simp only [if_neg stray]
    unfold RiskLimits.checkValid
    by_cases valid : (effective layers).validate = []
    · rw [if_pos valid, if_pos (show (Merge.all layers).effective.limits.validate = [] from valid)]
      rfl
    · rw [if_neg valid, if_neg (show (Merge.all layers).effective.limits.validate ≠ [] from valid)]
      rfl

theorem resolve_perm {layers layers' : List Layer} (perm : layers.Perm layers') :
    (resolve layers).map (fun r => (r.limits, r.version)) =
      (resolve layers').map fun r => (r.limits, r.version) := by
  have merged := merge_foldl layers Merge.empty
  have merged' := merge_foldl layers' Merge.empty
  have unknown : (Merge.all layers).effective.unknown = (Merge.all layers').effective.unknown := by
    rw [Merge.all, Merge.all, merged.2.2.2, merged'.2.2.2]
    exact (perm.map _).foldl_eq _
  have limits : effective layers = effective layers' := by
    have cap : (effective layers).cap = (effective layers').cap := by
      funext c
      rw [effective_cap, effective_cap]
      exact (perm.map _).foldl_eq _
    have floor : (effective layers).floor = (effective layers').floor := by
      funext f
      rw [effective_floor, effective_floor]
      exact (perm.map _).foldl_eq _
    have flag : (effective layers).flag = (effective layers').flag := by
      funext g
      rw [effective_flag, effective_flag, (perm.map _).foldl_eq _]
    exact (RiskLimits.mk.injEq ..).mpr ⟨cap, floor, flag⟩
  have version : versionOf layers = versionOf layers' := by
    unfold versionOf
    rw [(perm.map Layer.version).sum_eq]
  rw [resolve_eq, resolve_eq, unknown, limits, version]

theorem limits_of_resolve {layers : List Layer} {r : Resolved} (resolved : resolve layers = .ok r) :
    r.limits = effective layers ∧ (effective layers).validate = [] := by
  have figures := resolve_eq layers
  rw [resolved] at figures
  by_cases stray : (Merge.all layers).effective.unknown ≠ ∅
  · rw [if_pos stray] at figures
    cases figures
  rw [if_neg stray] at figures
  by_cases valid : (effective layers).validate = []
  · rw [if_pos valid] at figures
    exact ⟨congrArg Prod.fst (Except.ok.inj figures), valid⟩
  · rw [if_neg valid] at figures
    cases figures

theorem exists_resolve {layers : List Layer}
    (familiar : (Merge.all layers).effective.unknown = ∅)
    (valid : (effective layers).validate = []) : ∃ r, resolve layers = .ok r := by
  have figures := resolve_eq layers
  rw [if_neg (not_not.mpr familiar), if_pos valid] at figures
  cases resolved : resolve layers with
  | error refused =>
    rw [resolved] at figures
    cases figures
  | ok r => exact ⟨r, rfl⟩

theorem dailyLoss_mem : (LimitField.cap .maxDailyLoss, "max_daily_loss") ∈ numericFields := by
  simp [numericFields]

theorem cooldownSeconds_mem :
    (LimitField.floor .cooldownSeconds, "cooldown_seconds") ∈ numericFields := by
  simp [numericFields]

theorem positive_of_valid {limits : RiskLimits} (valid : limits.validate = []) {field : LimitField}
    {name : String} (mem : (field, name) ∈ numericFields) (only : positiveOnly field = true)
    {value : ℚ} (isSet : limits.number field = some value) : 0 < value := by
  unfold RiskLimits.validate at valid
  rw [List.append_eq_nil_iff, List.append_eq_nil_iff, List.flatMap_eq_nil_iff] at valid
  have clean := valid.1.1 (field, name) mem
  unfold RiskLimits.fieldProblems at clean
  rw [isSet] at clean
  by_contra negative
  simp [only, not_lt.mp negative] at clean

theorem nonneg_of_valid {limits : RiskLimits} (valid : limits.validate = []) {field : LimitField}
    {name : String} (mem : (field, name) ∈ numericFields) (count : nonNegative field = true)
    {value : ℚ} (isSet : limits.number field = some value) : 0 ≤ value := by
  unfold RiskLimits.validate at valid
  rw [List.append_eq_nil_iff, List.append_eq_nil_iff, List.flatMap_eq_nil_iff] at valid
  have clean := valid.1.1 (field, name) mem
  unfold RiskLimits.fieldProblems at clean
  rw [isSet] at clean
  by_contra negative
  simp [count, not_le.mp negative] at clean

/-! ## One more layer -/

section Extra

variable (layers : List Layer) (extra : Layer)

theorem effective_extra_cap (c : Cap) :
    (effective (extra :: layers)).cap c =
      minOpt ((effective layers).cap c) (extra.params.cap c) := by
  have last := ((List.perm_append_singleton extra layers).map fun l => l.params.cap c).foldl_eq
    (f := minOpt) none
  rw [effective_cap, ← last, List.map_append, List.foldl_append, effective_cap]
  rfl

theorem effective_extra_floor (f : Floor) :
    (effective (extra :: layers)).floor f =
      maxOpt ((effective layers).floor f) (extra.params.floor f) := by
  have last := ((List.perm_append_singleton extra layers).map fun l => l.params.floor f).foldl_eq
    (f := maxOpt) none
  rw [effective_floor, ← last, List.map_append, List.foldl_append, effective_floor]
  rfl

theorem effective_extra_flag (g : Flag) :
    (effective (extra :: layers)).flag g =
      (orOpt ((layers.map fun l => l.params.flag g).foldl orOpt none) (extra.params.flag g)).getD
        (Flag.default g) := by
  have last := ((List.perm_append_singleton extra layers).map fun l => l.params.flag g).foldl_eq
    (f := orOpt) none
  rw [effective_flag, ← last, List.map_append, List.foldl_append]
  rfl

end Extra

theorem isLeast_insert_insert_iff {a b v : ℚ} {values : Set ℚ} (le : a ≤ b) :
    IsLeast (insert a (insert b values)) v ↔ IsLeast (insert a values) v := by
  constructor
  · intro ⟨mem, least⟩
    refine ⟨?_, fun v' mem' => least (mem'.imp_right .inr)⟩
    rcases mem with rfl | rfl | mem
    · exact .inl rfl
    · exact .inl (le_antisymm (least (.inl rfl)) le)
    · exact .inr mem
  · intro ⟨mem, least⟩
    refine ⟨mem.imp_right .inr, fun v' mem' => ?_⟩
    rcases mem' with rfl | rfl | mem'
    · exact least (.inl rfl)
    · exact (least (.inl rfl)).trans le
    · exact least (.inr mem')

theorem isLeast_insert_min_iff (a b v : ℚ) (values : Set ℚ) :
    IsLeast (insert (min a b) values) v ↔ IsLeast (insert a (insert b values)) v := by
  rcases le_total a b with le | le
  · rw [min_eq_left le, isLeast_insert_insert_iff le]
  · rw [min_eq_right le, Set.insert_comm, isLeast_insert_insert_iff le]

def stated (values : List (Option ℚ)) : Set ℚ := {v | some v ∈ values}

theorem stated_some (a : ℚ) (values : List (Option ℚ)) :
    stated (some a :: values) = insert a (stated values) := by
  ext v
  exact List.mem_cons.trans (or_congr_left Option.some_inj)

theorem stated_none (values : List (Option ℚ)) : stated (none :: values) = stated values := by
  ext v
  exact List.mem_cons.trans (or_iff_right nofun)

theorem foldl_minOpt_eq_some_iff (values : List (Option ℚ)) (first : Option ℚ) (v : ℚ) :
    values.foldl minOpt first = some v ↔ IsLeast (stated (first :: values)) v := by
  induction values generalizing first with
  | nil =>
    constructor
    · rintro rfl
      exact ⟨List.mem_singleton_self _,
        fun v' mem => (Option.some.inj (List.mem_singleton.mp mem)).ge⟩
    · intro least
      exact (List.mem_singleton.mp least.1).symm
  | cons value values ih =>
    rw [List.foldl_cons, ih]
    cases first with
    | none =>
      rw [stated_none (value :: values)]
      rfl
    | some a =>
      cases value with
      | none =>
        rw [stated_some, stated_none, ← stated_some]
        rfl
      | some b =>
        rw [stated_some, stated_some, ← isLeast_insert_min_iff, ← stated_some]
        rfl

theorem foldl_orOpt_eq_none_iff (values : List (Option Bool)) (first : Option Bool) :
    values.foldl orOpt first = none ↔ first = none ∧ ∀ value ∈ values, value = none := by
  induction values generalizing first with
  | nil => simp
  | cons value values ih =>
    rw [List.foldl_cons, ih, List.forall_mem_cons]
    rcases first with _ | a
    · rcases value with _ | b <;> simp [orOpt]
    · rcases value with _ | b <;> simp [orOpt]

/-! ## Tighter limits -/

def Cap.reading : Cap → ℚ → ℚ
  | .maxDailyLoss, v | .maxWeeklyLoss, v => |v|
  | _, v => v

structure RiskLimits.Tighter (b a : RiskLimits) : Prop where
  cap : ∀ c v, a.cap c = some v → ∃ w, b.cap c = some w ∧ c.reading w ≤ c.reading v
  floor : ∀ f v, a.floor f = some v → ∃ w, b.floor f = some w ∧ v ≤ w
  flag : ∀ g, a.flag g = true → b.flag g = true

theorem passed_limited_mono {kind : LimitKind} {unset : List CheckOutcome} {a b : Option ℚ}
    {datum : Except String ℚ} {passes : ℚ → ℚ → Bool} {detail : ℚ → ℚ → Text}
    (passedUnset : Passed unset)
    (tighter : ∀ v, a = some v →
      ∃ w, b = some w ∧ ∀ x, passes w x = true → passes v x = true)
    (passed : Passed (limited kind unset b datum passes detail)) :
    Passed (limited kind unset a datum passes detail) := by
  rw [passed_limited_iff passedUnset] at passed ⊢
  intro v isSet
  obtain ⟨w, isSet', weaker⟩ := tighter v isSet
  obtain ⟨value, isKnown, within⟩ := passed w isSet'
  exact ⟨value, isKnown, weaker value within⟩

namespace RiskLimits.Tighter

variable (tighter : Tighter b a)
include tighter

theorem limited_cap {c : Cap} (plain : ∀ v, c.reading v = v) {passes : ℚ → ℚ → Bool}
    (monotone : ∀ w v x : ℚ, w ≤ v → passes w x = true → passes v x = true) :
    ∀ v, a.cap c = some v →
      ∃ w, b.cap c = some w ∧ ∀ x, passes w x = true → passes v x = true := by
  intro v isSet
  obtain ⟨w, isSet', le⟩ := tighter.cap c v isSet
  rw [plain, plain] at le
  exact ⟨w, isSet', fun x => monotone w v x le⟩

theorem passed_lossCheck {kind : LimitKind} {c : Cap} (absolute : ∀ v, c.reading v = |v|)
    {realised : Option ℚ} {unknown : String}
    (passed : Passed (lossCheck b kind c realised unknown)) :
    Passed (lossCheck a kind c realised unknown) := by
  refine passed_limited_mono passed_nil (fun v isSet => ?_) passed
  obtain ⟨w, isSet', le⟩ := tighter.cap c v isSet
  rw [absolute, absolute] at le
  refine ⟨w, isSet', fun x within => ?_⟩
  simp only [decide_eq_true_eq, not_le] at within ⊢
  linarith

theorem passed_maxExposureCheck {proposal : OrderProposal} {portfolio : PortfolioState}
    (passed : Passed (maxExposureCheck b proposal portfolio)) :
    Passed (maxExposureCheck a proposal portfolio) := by
  rw [passed_maxExposureCheck_iff] at passed ⊢
  intro v isSet currency named
  obtain ⟨w, isSet', le⟩ := tighter.cap .maxExposurePerCurrency v isSet
  exact (passed w isSet' currency named).trans le

theorem passed_cooldownCheck (waits : ∀ v, a.floor .cooldownSeconds = some v → 0 ≤ v)
    {portfolio : PortfolioState} {now : Time} (passed : Passed (cooldownCheck b portfolio now)) :
    Passed (cooldownCheck a portfolio now) := by
  rw [passed_cooldownCheck_iff] at passed ⊢
  intro v isSet nonzero last isLast
  obtain ⟨w, isSet', le⟩ := tighter.floor .cooldownSeconds v isSet
  have positive : 0 < v := lt_of_le_of_ne (waits v isSet) (Ne.symm nonzero)
  exact le.trans (passed w isSet' (by linarith) last isLast)

theorem passed_tradeFrequencyChecks {portfolio : PortfolioState}
    (passed : Passed (tradeFrequencyChecks b portfolio)) :
    Passed (tradeFrequencyChecks a portfolio) := by
  unfold tradeFrequencyChecks frequencyCheck at passed ⊢
  rw [passed_append, passed_append] at passed ⊢
  have below : ∀ w v x : ℚ, w ≤ v → decide (x < w) = true → decide (x < v) = true := by
    intro w v x le within
    simp only [decide_eq_true_eq] at within ⊢
    linarith
  refine ⟨⟨?_, ?_⟩, ?_⟩
  · exact passed_limited_mono passed_nil
      (tighter.limited_cap (c := .maxTradesPerMinute) (fun _ => rfl) below) passed.1.1
  · exact passed_limited_mono passed_nil
      (tighter.limited_cap (c := .maxTradesPerHour) (fun _ => rfl) below) passed.1.2
  · split
    · exact passed_unenforced _ _
    · exact passed_nil

theorem passed_reported (waits : ∀ v, a.floor .cooldownSeconds = some v → 0 ≤ v)
    {proposal : OrderProposal} {portfolio : PortfolioState} {now : Time}
    {recentSignalIds : List String}
    (passed : Passed (reported b proposal portfolio now recentSignalIds)) :
    Passed (reported a proposal portfolio now recentSignalIds) := by
  have below : ∀ w v x : ℚ, w ≤ v → decide (x < w) = true → decide (x < v) = true := by
    intro w v x le within
    simp only [decide_eq_true_eq] at within ⊢
    linarith
  have within : ∀ w v x : ℚ, w ≤ v → decide (x ≤ w) = true → decide (x ≤ v) = true := by
    intro w v x le within
    simp only [decide_eq_true_eq] at within ⊢
    linarith
  unfold reported at passed ⊢
  simp only [passed_append, and_assoc] at passed ⊢
  obtain ⟨mode, duplicate, fresh, stop, size, single, positions, perDay, daily, weekly, streak,
    correlated, drawdown, risk, exposure, leverage, spread, status, isOpen, data, largest,
    concentration, margin, frequency, cooldown, reward⟩ := passed
  refine ⟨mode, duplicate, ?fresh, ?stop, size, ?single, ?positions, ?perDay,
    tighter.passed_lossCheck (fun _ => rfl) daily, tighter.passed_lossCheck (fun _ => rfl) weekly,
    ?streak, ?correlated, ?drawdown, ?risk, tighter.passed_maxExposureCheck exposure, ?leverage,
    ?spread, status, ?isOpen, ?data, ?largest, ?concentration, ?margin,
    tighter.passed_tradeFrequencyChecks frequency, tighter.passed_cooldownCheck waits cooldown,
    ?reward⟩
  case fresh =>
    exact passed_limited_mono (passed_unenforced _ _)
      (tighter.limited_cap (c := .maxSignalAgeSeconds) (fun _ => rfl) within) fresh
  case stop =>
    rw [passed_stopLossCheck_iff] at stop ⊢
    exact fun required => stop (tighter.flag _ required)
  case single =>
    rw [passed_onePositionPerSymbolCheck_iff] at single ⊢
    exact fun required => single (tighter.flag _ required)
  case positions =>
    exact passed_limited_mono (passed_unenforced _ _)
      (tighter.limited_cap (c := .maxOpenPositions) (fun _ => rfl) below) positions
  case perDay =>
    exact passed_limited_mono passed_nil
      (tighter.limited_cap (c := .maxTradesPerDay) (fun _ => rfl) below) perDay
  case streak =>
    refine passed_limited_mono passed_nil
      (tighter.limited_cap (c := .maxConsecutiveLosses) (fun _ => rfl) ?_) streak
    intro w v x le within
    simp only [decide_eq_true_eq, not_le] at within ⊢
    linarith
  case correlated =>
    refine passed_limited_mono passed_nil
      (tighter.limited_cap (c := .maxCorrelatedExposure) (fun _ => rfl) ?_) correlated
    intro w v x le within
    simp only [decide_eq_true_eq, not_lt] at within ⊢
    linarith
  case drawdown =>
    exact passed_limited_mono passed_nil
      (tighter.limited_cap (c := .maxDrawdownPct) (fun _ => rfl) below) drawdown
  case risk =>
    exact passed_limited_mono passed_nil
      (tighter.limited_cap (c := .maxRiskPerTrade) (fun _ => rfl) within) risk
  case leverage =>
    exact passed_limited_mono passed_nil
      (tighter.limited_cap (c := .maxLeverage) (fun _ => rfl) within) leverage
  case spread =>
    exact passed_limited_mono passed_nil
      (tighter.limited_cap (c := .maxSpreadPoints) (fun _ => rfl) within) spread
  case isOpen =>
    rw [passed_marketOpenCheck_iff] at isOpen ⊢
    exact fun required => isOpen (tighter.flag _ required)
  case data =>
    exact passed_limited_mono (passed_unenforced _ _)
      (tighter.limited_cap (c := .marketDataMaxAgeSeconds) (fun _ => rfl) within) data
  case largest =>
    exact passed_limited_mono (passed_unenforced _ _)
      (tighter.limited_cap (c := .maxPositionSize) (fun _ => rfl) within) largest
  case concentration =>
    exact passed_limited_mono (passed_unenforced _ _)
      (tighter.limited_cap (c := .maxConcentrationPct) (fun _ => rfl) within) concentration
  case margin =>
    exact passed_limited_mono (passed_unenforced _ _)
      (tighter.limited_cap (c := .maxMarginUtilisationPct) (fun _ => rfl) within) margin
  case reward =>
    refine passed_limited_mono (passed_unenforced _ _) (fun v isSet => ?_) reward
    obtain ⟨w, isSet', le⟩ := tighter.floor .minRiskReward v isSet
    refine ⟨w, isSet', fun x above => ?_⟩
    simp only [decide_eq_true_eq] at above ⊢
    linarith

theorem approved (waits : ∀ v, a.floor .cooldownSeconds = some v → 0 ≤ v)
    (switches : KillSwitches) (proposal : OrderProposal) (portfolio : PortfolioState) (now : Time)
    (recentSignalIds : List String)
    (approved : (RiskEngine.evaluate ⟨b, switches⟩ proposal portfolio now
      recentSignalIds).approved = true) :
    (RiskEngine.evaluate ⟨a, switches⟩ proposal portfolio now recentSignalIds).approved = true := by
  rw [RiskEngine.approved_iff] at approved ⊢
  exact ⟨approved.1, tighter.passed_reported waits approved.2⟩

end RiskLimits.Tighter

/-! ## When an extra layer loosens -/

def Loosens (layers : List Layer) (extra : Layer) : Prop :=
  (∃ g, Flag.default g = true ∧ (∀ l ∈ layers, l.params.flag g = none) ∧
    extra.params.flag g = some false) ∨
  ∃ x, extra.params.cap .maxWeeklyLoss = some x ∧
    ∃ l ∈ layers, ∃ v, l.params.cap .maxWeeklyLoss = some v ∧
      (∀ l' ∈ layers, ∀ v', l'.params.cap .maxWeeklyLoss = some v' → v ≤ v') ∧ x < -|v|

theorem abs_min_le_iff (v x : ℚ) : |min v x| ≤ |v| ↔ -|v| ≤ x := by
  rcases le_total v x with le | le
  · rw [min_eq_left le]
    exact iff_of_true le_rfl ((neg_abs_le v).trans le)
  · rw [min_eq_right le, abs_le]
    exact and_iff_left (le.trans (le_abs_self v))

theorem orOpt_keeps_iff (stated extra : Option Bool) (default : Bool) :
    (stated.getD default = true → (orOpt stated extra).getD default = true) ↔
      ¬ (default = true ∧ stated = none ∧ extra = some false) := by
  rcases stated with _ | stated
  · rcases extra with _ | extra
    · simp [orOpt]
    · cases extra <;> simp [orOpt]
  · rcases extra with _ | extra
    · simp [orOpt]
    · simp +contextual [orOpt]

theorem some_mem_cap_iff {layers : List Layer} {c : Cap} {v : ℚ} :
    some v ∈ none :: (layers.map fun l => l.params.cap c) ↔
      ∃ l ∈ layers, l.params.cap c = some v := by
  simp

theorem effective_weekly_eq_some_iff (layers : List Layer) (v : ℚ) :
    (effective layers).cap .maxWeeklyLoss = some v ↔
      (∃ l ∈ layers, l.params.cap .maxWeeklyLoss = some v) ∧
        ∀ l ∈ layers, ∀ v', l.params.cap .maxWeeklyLoss = some v' → v ≤ v' := by
  rw [effective_cap, foldl_minOpt_eq_some_iff]
  refine and_congr some_mem_cap_iff ⟨fun least l mem v' isSet => ?_, fun least v' mem => ?_⟩
  · exact least (some_mem_cap_iff.mpr ⟨l, mem, isSet⟩)
  · obtain ⟨l, mem, isSet⟩ := some_mem_cap_iff.mp mem
    exact least l mem v' isSet

theorem tighter_cap_iff (layers : List Layer) (extra : Layer) (c : Cap)
    (valid : (effective (extra :: layers)).validate = []) :
    (∀ v, (effective layers).cap c = some v →
        ∃ w, (effective (extra :: layers)).cap c = some w ∧ c.reading w ≤ c.reading v) ↔
      (c = .maxWeeklyLoss → ∀ x, extra.params.cap .maxWeeklyLoss = some x →
        ∀ v, (effective layers).cap .maxWeeklyLoss = some v → -|v| ≤ x) := by
  have combined := effective_extra_cap layers extra c
  constructor
  · rintro tighter rfl x isSet v isSet'
    obtain ⟨w, isMin, le⟩ := tighter v isSet'
    rw [combined, isSet', isSet] at isMin
    cases isMin
    exact (abs_min_le_iff v x).mp le
  · intro weekly v isSet'
    rw [isSet'] at combined
    cases isSet : extra.params.cap c with
    | none =>
      rw [isSet] at combined
      exact ⟨v, combined, le_rfl⟩
    | some x =>
      rw [isSet] at combined
      refine ⟨min v x, combined, ?_⟩
      cases c
      case maxWeeklyLoss => exact (abs_min_le_iff v x).mpr (weekly rfl x isSet v isSet')
      case maxDailyLoss =>
        have positive : 0 < min v x :=
          positive_of_valid valid dailyLoss_mem rfl combined
        exact (abs_min_le_iff v x).mpr
          ((neg_nonpos.mpr (abs_nonneg v)).trans (positive.trans_le (min_le_right v x)).le)
      all_goals exact min_le_left v x

theorem tighter_flag_iff (layers : List Layer) (extra : Layer) (g : Flag) :
    ((effective layers).flag g = true → (effective (extra :: layers)).flag g = true) ↔
      ¬ (Flag.default g = true ∧ (∀ l ∈ layers, l.params.flag g = none) ∧
        extra.params.flag g = some false) := by
  have silent := foldl_orOpt_eq_none_iff (layers.map fun l => l.params.flag g) none
  simp only [true_and, List.forall_mem_map] at silent
  rw [effective_flag, effective_extra_flag, orOpt_keeps_iff, silent]

theorem tighter_floor (layers : List Layer) (extra : Layer) (f : Floor) (v : ℚ)
    (isSet : (effective layers).floor f = some v) :
    ∃ w, (effective (extra :: layers)).floor f = some w ∧ v ≤ w := by
  have combined := effective_extra_floor layers extra f
  rw [isSet] at combined
  cases stated : extra.params.floor f with
  | none =>
    rw [stated] at combined
    exact ⟨v, combined, le_rfl⟩
  | some x =>
    rw [stated] at combined
    exact ⟨max v x, combined, le_max_left v x⟩

theorem tighter_extra_iff (layers : List Layer) (extra : Layer)
    (valid : (effective (extra :: layers)).validate = []) :
    (effective (extra :: layers)).Tighter (effective layers) ↔ ¬ Loosens layers extra := by
  constructor
  · rintro tighter (⟨g, isDefault, silent, waived⟩ | ⟨x, isSet, l, mem, v, isSet', least, below⟩)
    · exact (tighter_flag_iff layers extra g).mp (tighter.flag g) ⟨isDefault, silent, waived⟩
    · have smallest : (effective layers).cap .maxWeeklyLoss = some v :=
        (effective_weekly_eq_some_iff layers v).mpr ⟨⟨l, mem, isSet'⟩, least⟩
      have within := (tighter_cap_iff layers extra .maxWeeklyLoss valid).mp (tighter.cap _) rfl x
        isSet v smallest
      exact absurd within (not_le.mpr below)
  · intro kept
    refine ⟨fun c => (tighter_cap_iff layers extra c valid).mpr fun _ x isSet v isSet' => ?_,
      tighter_floor layers extra, fun g => (tighter_flag_iff layers extra g).mpr ?_⟩
    · by_contra below
      obtain ⟨⟨l, mem, isStated⟩, least⟩ := (effective_weekly_eq_some_iff layers v).mp isSet'
      exact kept (.inr ⟨x, isSet, l, mem, v, isStated, least, not_le.mp below⟩)
    · exact fun waived => kept (.inl ⟨g, waived⟩)

/-- **An extra layer.** Wherever it stands among the layers, the same limits and version come out;
and where both configurations resolve, the limits with it are at least as restrictive on every
field, and the engine approves under them only what it approves without, exactly when the extra
layer loosens none. -/
theorem resolve_tighter_iff (layers : List Layer) (extra : Layer) :
    (∀ more : List Layer, more.Perm (extra :: layers) →
      (resolve more).map (fun r => (r.limits, r.version)) =
        (resolve (extra :: layers)).map fun r => (r.limits, r.version)) ∧
    ∀ before after, resolve layers = .ok before → resolve (extra :: layers) = .ok after →
      ((after.limits.Tighter before.limits ∧
          ∀ switches proposal portfolio now recentSignalIds,
            (RiskEngine.evaluate ⟨after.limits, switches⟩ proposal portfolio now
              recentSignalIds).approved = true →
            (RiskEngine.evaluate ⟨before.limits, switches⟩ proposal portfolio now
              recentSignalIds).approved = true) ↔
        ¬ Loosens layers extra) := by
  refine ⟨fun more perm => resolve_perm perm, fun before after without with_ => ?_⟩
  obtain ⟨isBefore, validBefore⟩ := limits_of_resolve without
  obtain ⟨isAfter, validAfter⟩ := limits_of_resolve with_
  rw [isBefore, isAfter]
  have exactly := tighter_extra_iff layers extra validAfter
  refine ⟨fun both => exactly.mp both.1, fun kept => ⟨exactly.mpr kept, ?_⟩⟩
  have waits : ∀ v, (effective layers).floor .cooldownSeconds = some v → 0 ≤ v := fun v isSet =>
    nonneg_of_valid validBefore cooldownSeconds_mem rfl isSet
  exact (exactly.mpr kept).approved waits

def dailyLayer (scope : Scope) (value : ℚ) : Layer :=
  { scope, scopeRef := none
    params := { cap := fun c => if c = .maxDailyLoss then some value else none } }

def waivingLayer : Layer :=
  { scope := .strategy, scopeRef := some "bot-a"
    params := { flag := fun g => if g = .requireStopLoss then some false else none } }

/-- A strategy's smaller daily loss over the account's. -/
theorem tighter_dailyLayers :
    ∃ before after,
      resolve [dailyLayer .paperAccount 500] = .ok before ∧
      resolve [dailyLayer .strategy 200, dailyLayer .paperAccount 500] = .ok after ∧
      after.limits.Tighter before.limits := by
  obtain ⟨before, without⟩ := exists_resolve
    (show (Merge.all [dailyLayer .paperAccount 500]).effective.unknown = ∅ from rfl)
    (List.isEmpty_iff.mp (by decide +kernel))
  obtain ⟨after, with_⟩ := exists_resolve
    (show (Merge.all [dailyLayer .strategy 200, dailyLayer .paperAccount 500]).effective.unknown = ∅
      from rfl)
    (List.isEmpty_iff.mp (by decide +kernel))
  have exactly := (resolve_tighter_iff [dailyLayer .paperAccount 500]
    (dailyLayer .strategy 200)).2 before after without with_
  refine ⟨before, after, without, with_, (exactly.mpr ?_).1⟩
  rintro (⟨g, -, -, waived⟩ | ⟨x, isSet, -⟩)
  · cases waived
  · cases isSet

def noStop : OrderProposal :=
  { symbol := "EURUSD", side := "buy", mode := .paper, volume := some 1, entryPrice := none,
    stopLoss := none, takeProfit := none, accountId := none, strategyId := none, signalId := none }

/-- With the layer that waives the stop, an order without one is approved. -/
theorem not_forall_tighter :
    ¬ ∀ (layers : List Layer) (extra : Layer) (before after : Resolved),
      resolve layers = .ok before → resolve (extra :: layers) = .ok after →
      after.limits.Tighter before.limits ∧
        ∀ switches proposal portfolio now recentSignalIds,
          (RiskEngine.evaluate ⟨after.limits, switches⟩ proposal portfolio now
            recentSignalIds).approved = true →
          (RiskEngine.evaluate ⟨before.limits, switches⟩ proposal portfolio now
            recentSignalIds).approved = true := by
  intro tighter
  obtain ⟨before, without⟩ := exists_resolve (show (Merge.all []).effective.unknown = ∅ from rfl)
    (List.isEmpty_iff.mp (by decide +kernel))
  obtain ⟨after, with_⟩ := exists_resolve
    (show (Merge.all [waivingLayer]).effective.unknown = ∅ from rfl)
    (List.isEmpty_iff.mp (by decide +kernel))
  have approves := (tighter [] waivingLayer before after without with_).2 {} noStop {} 0 []
  rw [(limits_of_resolve without).1, (limits_of_resolve with_).1] at approves
  revert approves
  decide +kernel

end TradeResearch.Risk
