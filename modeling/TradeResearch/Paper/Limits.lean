import TradeResearch.Risk.Service

/-!
# The limits a paper bot trades under

What `PaperService.one_pass` of `backend/app/paper/service.py` does with the limits: it asks
`RiskService.limits_for` for the stored layers with those of its engine as one more, and gives its
engine the result. The layers may change in any way between two passes.

* `BotLimits.step`: a change of the stored layers, or a pass.
* `Configured`: every pass traded under what the layers stored by then come to with the
  configuration the bot was started with.
* `configured_of_kept`: that holds on every run on which no limit is stored that is looser than at
  the pass before, and, where each configuration is accepted, on no other.
-/

namespace TradeResearch.Paper

open TradeResearch.Risk

structure BotConfig where
  accountId : String
  strategyId : String
  symbol : String
  frozen : RiskLimits

namespace BotConfig

variable (b : BotConfig)

def Reads (rule : LimitRule) : Bool := rule.applies (some b.accountId) (some b.strategyId) b.symbol

def callerLayer (caller : RiskLimits) : Layer :=
  { scope := .strategy
    scopeRef := some (if b.strategyId = "" then "caller" else b.strategyId)
    params :=
      { cap := caller.cap
        floor := caller.floor
        flag := fun g => some (caller.flag g) }
    version := 1
    name := "caller" }

def stored (rules : List LimitRule) : List LimitRule :=
  (rules.mergeSort fun a b => a.priority ≤ b.priority).filter b.Reads

def layers (rules : List LimitRule) (caller : RiskLimits) : List Layer :=
  (b.stored rules).map LimitRule.layer ++ [b.callerLayer caller]

def limitsFor (rules : List LimitRule) (caller : RiskLimits) :
    Except ConfigurationInvalid Resolved := resolve (b.layers rules caller)

end BotConfig

structure BotLimits where
  rules : List LimitRule
  limits : RiskLimits
  configurationVersion : ℤ
  crashed : Bool
  passes : List (List LimitRule × Except ConfigurationInvalid RiskLimits)

inductive LimitsEvent where
  /-- Layers are stored, changed or disabled. -/
  | configure (rules : List LimitRule)
  /-- A pass, which may end before it asks for the limits: there are no bars, or a lock is held. -/
  | pass (early : Bool)

namespace BotLimits

variable (b : BotConfig)

def started (rules : List LimitRule) : BotLimits :=
  { rules, limits := b.frozen, configurationVersion := 0, crashed := false, passes := [] }

def onePass (s : BotLimits) : BotLimits :=
  match b.limitsFor s.rules s.limits with
  | .ok resolved =>
    { s with
      limits := resolved.limits
      configurationVersion := resolved.version
      passes := s.passes ++ [(s.rules, .ok resolved.limits)] }
  | .error refused =>
    { s with crashed := true, passes := s.passes ++ [(s.rules, .error refused)] }

def step (s : BotLimits) : LimitsEvent → Option BotLimits
  | .configure rules => some { s with rules }
  | .pass early =>
    if s.crashed = true then none
    else if early = true then some s
    else some (onePass b s)

def Configured (s : BotLimits) : Prop :=
  ∀ pass ∈ s.passes, pass.2 = (b.limitsFor pass.1 b.frozen).map Resolved.limits

end BotLimits

structure BotConfig.Kept (b : BotConfig) (earlier now : List LimitRule) : Prop where
  caps : ∀ c, ∀ rule ∈ earlier, b.Reads rule = true → ∀ v ∈ rule.params.cap c, ∃ v' ≤ v,
    b.frozen.cap c = some v' ∨ ∃ rule' ∈ now, b.Reads rule' = true ∧ rule'.params.cap c = some v'
  floors : ∀ f, ∀ rule ∈ earlier, b.Reads rule = true → ∀ v ∈ rule.params.floor f, ∃ v' ≥ v,
    b.frozen.floor f = some v' ∨
      ∃ rule' ∈ now, b.Reads rule' = true ∧ rule'.params.floor f = some v'
  flags : ∀ g, ∀ rule ∈ earlier, b.Reads rule = true → rule.params.flag g = some true →
    b.frozen.flag g = true ∨ ∃ rule' ∈ now, b.Reads rule' = true ∧ rule'.params.flag g = some true

namespace BotLimits

variable (b : BotConfig)

def Tightens (s : BotLimits) : LimitsEvent → Prop
  | .configure _ => True
  | .pass early => s.crashed = false → early = false →
    ∀ last ∈ s.passes.getLast?, b.Kept last.1 s.rules

def Accepted (s : BotLimits) : LimitsEvent → Prop
  | .configure _ => True
  | .pass early => s.crashed = false → early = false →
    ∃ resolved, b.limitsFor s.rules b.frozen = .ok resolved

end BotLimits

section Fold

variable {α : Type} [LinearOrder α] {a x : α} {values now earlier : List α}

theorem foldl_min_le_iff : values.foldl min a ≤ x ↔ a ≤ x ∨ ∃ y ∈ values, y ≤ x := by
  induction values generalizing a with
  | nil => simp
  | cons y values ih =>
    rw [List.foldl_cons, ih, min_le_iff, or_assoc]
    simp

theorem le_foldl_min_iff : x ≤ values.foldl min a ↔ x ≤ a ∧ ∀ y ∈ values, x ≤ y := by
  induction values generalizing a with
  | nil => simp
  | cons y values ih =>
    rw [List.foldl_cons, ih, le_min_iff, and_assoc, List.forall_mem_cons]

theorem foldl_min_foldl_eq_iff : now.foldl min (earlier.foldl min a) = now.foldl min a ↔
    ∀ y ∈ earlier, a ≤ y ∨ ∃ z ∈ now, z ≤ y := by
  constructor
  · intro same y mem
    rw [← foldl_min_le_iff, ← same, foldl_min_le_iff]
    exact .inl (foldl_min_le_iff.mpr (.inr ⟨y, mem, le_rfl⟩))
  · intro bounded
    apply le_antisymm
    · refine le_foldl_min_iff.mpr ⟨?_, fun z mem => foldl_min_le_iff.mpr (.inr ⟨z, mem, le_rfl⟩)⟩
      exact foldl_min_le_iff.mpr (.inl (foldl_min_le_iff.mpr (.inl le_rfl)))
    · refine le_foldl_min_iff.mpr ⟨?_, fun z mem => foldl_min_le_iff.mpr (.inr ⟨z, mem, le_rfl⟩)⟩
      refine le_foldl_min_iff.mpr ⟨foldl_min_le_iff.mpr (.inl le_rfl), fun y mem => ?_⟩
      exact foldl_min_le_iff.mpr (bounded y mem)

theorem foldl_max_foldl_eq_iff : now.foldl max (earlier.foldl max a) = now.foldl max a ↔
    ∀ y ∈ earlier, y ≤ a ∨ ∃ z ∈ now, y ≤ z :=
  @foldl_min_foldl_eq_iff αᵒᵈ _ a now earlier

end Fold

theorem foldl_minOpt_foldl_eq_iff {a : Option ℚ} {now earlier : List (Option ℚ)} :
    now.foldl minOpt (earlier.foldl minOpt a) = now.foldl minOpt a ↔
      ∀ v, some v ∈ earlier → ∃ v' ≤ v, a = some v' ∨ some v' ∈ now := by
  have same : minOpt = (min : WithTop ℚ → WithTop ℚ → WithTop ℚ) := funext₂ minOpt_eq
  rw [same]
  refine (@foldl_min_foldl_eq_iff (WithTop ℚ) _ a now earlier).trans ?_
  have bounds : ∀ (y : WithTop ℚ) (v : ℚ), y ≤ v ↔ ∃ v' ≤ v, y = some v' := fun y v =>
    WithTop.le_coe_iff.trans ⟨fun ⟨v', is, le⟩ => ⟨v', le, is⟩, fun ⟨v', le, is⟩ => ⟨v', is, le⟩⟩
  constructor
  · intro bounded v mem
    rcases bounded (v : WithTop ℚ) mem with own | ⟨z, here, le⟩
    · obtain ⟨v', le, is⟩ := (bounds a v).mp own
      exact ⟨v', le, .inl is⟩
    · obtain ⟨v', le, is⟩ := (bounds z v).mp le
      exact ⟨v', le, .inr (is ▸ here)⟩
  · intro bounded y mem
    cases y with
    | top => exact .inl le_top
    | coe v =>
      obtain ⟨v', le, own | here⟩ := bounded v mem
      · exact .inl ((bounds a v).mpr ⟨v', le, own⟩)
      · exact .inr ⟨(v' : WithTop ℚ), here, WithTop.coe_le_coe.mpr le⟩

theorem foldl_maxOpt_foldl_eq_iff {a : Option ℚ} {now earlier : List (Option ℚ)} :
    now.foldl maxOpt (earlier.foldl maxOpt a) = now.foldl maxOpt a ↔
      ∀ v, some v ∈ earlier → ∃ v' ≥ v, a = some v' ∨ some v' ∈ now := by
  have same : maxOpt = (max : WithBot ℚ → WithBot ℚ → WithBot ℚ) := funext₂ maxOpt_eq
  rw [same]
  refine (@foldl_max_foldl_eq_iff (WithBot ℚ) _ a now earlier).trans ?_
  have bounds : ∀ (y : WithBot ℚ) (v : ℚ), v ≤ y ↔ ∃ v' ≥ v, y = some v' := fun y v =>
    WithBot.coe_le_iff.trans ⟨fun ⟨v', is, le⟩ => ⟨v', le, is⟩, fun ⟨v', le, is⟩ => ⟨v', is, le⟩⟩
  constructor
  · intro bounded v mem
    rcases bounded (v : WithBot ℚ) mem with own | ⟨z, here, le⟩
    · obtain ⟨v', le, is⟩ := (bounds a v).mp own
      exact ⟨v', le, .inl is⟩
    · obtain ⟨v', le, is⟩ := (bounds z v).mp le
      exact ⟨v', le, .inr (is ▸ here)⟩
  · intro bounded y mem
    cases y with
    | bot => exact .inl bot_le
    | coe v =>
      obtain ⟨v', le, own | here⟩ := bounded v mem
      · exact .inl ((bounds a v).mpr ⟨v', le, own⟩)
      · exact .inr ⟨(v' : WithBot ℚ), here, WithBot.coe_le_coe.mpr le⟩

theorem foldl_orOpt_some (a : Bool) (values : List (Option Bool)) :
    values.foldl orOpt (some a) = some (a || values.any (· == some true)) := by
  induction values generalizing a with
  | nil => simp
  | cons value values ih =>
    rw [List.foldl_cons, List.any_cons]
    cases value with
    | none => exact ih a
    | some on =>
      rw [show orOpt (some a) (some on) = some (a || on) from rfl, ih, Bool.or_assoc]
      cases on <;> rfl

namespace BotConfig

variable {b : BotConfig} {earlier : List LimitRule}

theorem mem_stored {rule : LimitRule} :
    rule ∈ b.stored rules ↔ rule ∈ rules ∧ b.Reads rule = true := by
  unfold stored
  rw [List.mem_filter, List.mem_mergeSort]

theorem layers_perm : (b.layers rules caller).Perm
    (b.callerLayer caller :: (b.stored rules).map LimitRule.layer) :=
  List.perm_append_comm

theorem effective_cap (c : Cap) : (effective (b.layers rules caller)).cap c =
    ((b.stored rules).map fun rule => rule.params.cap c).foldl minOpt (caller.cap c) := by
  rw [Risk.effective_cap, (layers_perm.map _).foldl_eq, List.map_cons, List.map_map,
    List.foldl_cons]
  rfl

theorem effective_floor (f : Floor) : (effective (b.layers rules caller)).floor f =
    ((b.stored rules).map fun rule => rule.params.floor f).foldl maxOpt (caller.floor f) := by
  rw [Risk.effective_floor, (layers_perm.map _).foldl_eq, List.map_cons, List.map_map,
    List.foldl_cons]
  rfl

theorem effective_flag (g : Flag) : (effective (b.layers rules caller)).flag g =
    (caller.flag g || (b.stored rules).any fun rule => rule.params.flag g == some true) := by
  rw [Risk.effective_flag, (layers_perm.map _).foldl_eq, List.map_cons, List.map_map,
    List.foldl_cons]
  have first : orOpt none ((b.callerLayer caller).params.flag g) = some (caller.flag g) := rfl
  rw [first, foldl_orOpt_some, Option.getD_some, List.any_map]
  rfl

theorem mem_map_stored {α : Type} {read : LimitRule → α} {v : α} :
    v ∈ (b.stored rules).map read ↔ ∃ rule ∈ rules, b.Reads rule = true ∧ read rule = v := by
  rw [List.mem_map]
  simp only [mem_stored, and_assoc]

theorem effective_eq_iff : effective (b.layers now (effective (b.layers earlier b.frozen))) =
    effective (b.layers now b.frozen) ↔ b.Kept earlier now := by
  have caps : ∀ c, (effective (b.layers now (effective (b.layers earlier b.frozen)))).cap c =
      (effective (b.layers now b.frozen)).cap c ↔
      ∀ v, some v ∈ (b.stored earlier).map (fun rule => rule.params.cap c) → ∃ v' ≤ v,
        b.frozen.cap c = some v' ∨ some v' ∈ (b.stored now).map fun rule => rule.params.cap c := by
    intro c
    rw [effective_cap, effective_cap, effective_cap]
    exact foldl_minOpt_foldl_eq_iff
  have floors : ∀ f, (effective (b.layers now (effective (b.layers earlier b.frozen)))).floor f =
      (effective (b.layers now b.frozen)).floor f ↔
      ∀ v, some v ∈ (b.stored earlier).map (fun rule => rule.params.floor f) → ∃ v' ≥ v,
        b.frozen.floor f = some v' ∨
          some v' ∈ (b.stored now).map fun rule => rule.params.floor f := by
    intro f
    rw [effective_floor, effective_floor, effective_floor]
    exact foldl_maxOpt_foldl_eq_iff
  have any_iff : ∀ g rules,
      ((b.stored rules).any fun rule => rule.params.flag g == some true) = true ↔
        ∃ rule ∈ rules, b.Reads rule = true ∧ rule.params.flag g = some true := by
    intro g rules
    rw [List.any_eq_true]
    simp only [mem_stored, beq_iff_eq, and_assoc]
  have flags : ∀ g, (effective (b.layers now (effective (b.layers earlier b.frozen)))).flag g =
      (effective (b.layers now b.frozen)).flag g ↔
      ∀ rule ∈ earlier, b.Reads rule = true → rule.params.flag g = some true →
        b.frozen.flag g = true ∨
          ∃ rule' ∈ now, b.Reads rule' = true ∧ rule'.params.flag g = some true := by
    intro g
    rw [effective_flag, effective_flag, effective_flag, Bool.or_right_comm, Bool.or_eq_left_iff_imp,
      any_iff, Bool.or_eq_true, any_iff]
    exact ⟨fun switched rule mem reads on => switched ⟨rule, mem, reads, on⟩,
      fun switched ⟨rule, mem, reads, on⟩ => switched rule mem reads on⟩
  constructor
  · intro same
    refine ⟨fun c rule mem reads v is => ?_, fun f rule mem reads v is => ?_, fun g => ?_⟩
    · obtain ⟨v', le, bound⟩ :=
        (caps c).mp (by rw [same]) v (mem_map_stored.mpr ⟨rule, mem, reads, is⟩)
      exact ⟨v', le, bound.imp_right mem_map_stored.mp⟩
    · obtain ⟨v', le, bound⟩ :=
        (floors f).mp (by rw [same]) v (mem_map_stored.mpr ⟨rule, mem, reads, is⟩)
      exact ⟨v', le, bound.imp_right mem_map_stored.mp⟩
    · exact (flags g).mp (by rw [same])
  · intro kept
    refine (RiskLimits.mk.injEq ..).mpr ⟨?_, ?_, ?_⟩
    · funext c
      refine (caps c).mpr fun v mem => ?_
      obtain ⟨rule, mem, reads, is⟩ := mem_map_stored.mp mem
      obtain ⟨v', le, bound⟩ := kept.caps c rule mem reads v is
      exact ⟨v', le, bound.imp_right mem_map_stored.mpr⟩
    · funext f
      refine (floors f).mpr fun v mem => ?_
      obtain ⟨rule, mem, reads, is⟩ := mem_map_stored.mp mem
      obtain ⟨v', le, bound⟩ := kept.floors f rule mem reads v is
      exact ⟨v', le, bound.imp_right mem_map_stored.mpr⟩
    · funext g
      exact (flags g).mpr (kept.flags g)

theorem limits_limitsFor : (b.limitsFor rules caller).map Resolved.limits =
    if (Merge.all (b.layers rules caller)).effective.unknown ≠ ∅ then
      .error (.unknownLimits (Merge.all (b.layers rules caller)).effective.unknown)
    else if (effective (b.layers rules caller)).validate = [] then
      .ok (effective (b.layers rules caller))
    else .error (.problems (effective (b.layers rules caller)).validate) := by
  have figures := congrArg (Except.map Prod.fst) (resolve_eq (b.layers rules caller))
  have forget :
      ((resolve (b.layers rules caller)).map fun r => (r.limits, r.version)).map Prod.fst =
      (resolve (b.layers rules caller)).map Resolved.limits := by
    cases resolve (b.layers rules caller) <;> rfl
  rw [forget] at figures
  unfold limitsFor
  rw [figures, apply_ite (Except.map Prod.fst), apply_ite (Except.map Prod.fst)]
  rfl

theorem unknown_layers (caller' : RiskLimits) :
    (Merge.all (b.layers rules caller)).effective.unknown =
      (Merge.all (b.layers rules caller')).effective.unknown := by
  rw [Merge.all, (merge_foldl _ _).2.2.2, Merge.all, (merge_foldl _ _).2.2.2]
  unfold layers
  rw [List.map_append, List.map_append]
  rfl

theorem limitsFor_congr {caller' : RiskLimits}
    (same : effective (b.layers rules caller) = effective (b.layers rules caller')) :
    (b.limitsFor rules caller).map Resolved.limits =
      (b.limitsFor rules caller').map Resolved.limits := by
  rw [limits_limitsFor, limits_limitsFor, unknown_layers caller', same]

end BotConfig

namespace BotLimits

variable {b : BotConfig} {s : BotLimits}

def Follows (b : BotConfig) (s : BotLimits) : Prop :=
  s.crashed = false →
    (s.passes = [] → s.limits = b.frozen) ∧ ∀ last ∈ s.passes.getLast?, last.2 = .ok s.limits

theorem step_cases {e : LimitsEvent} (taken : s.step b e = some t) :
    (∃ rules, e = .configure rules ∧ t = { s with rules }) ∨ (e = .pass true ∧ t = s) ∨
      (e = .pass false ∧ s.crashed = false ∧ t = onePass b s) := by
  cases e with
  | configure rules => exact .inl ⟨rules, rfl, (Option.some.inj taken).symm⟩
  | pass early =>
    simp only [step] at taken
    split at taken
    · cases taken
    · next running =>
      cases early with
      | true => exact .inr (.inl ⟨rfl, (Option.some.inj taken).symm⟩)
      | false =>
        exact .inr (.inr ⟨rfl, Bool.eq_false_iff.mpr running, (Option.some.inj taken).symm⟩)

theorem follows_step {e : LimitsEvent} (follows : Follows b s) (taken : s.step b e = some t) :
    Follows b t := by
  rcases step_cases taken with ⟨rules, -, rfl⟩ | ⟨-, rfl⟩ | ⟨-, -, rfl⟩
  · exact follows
  · exact follows
  · unfold onePass
    split
    · refine fun _ => ⟨fun none => absurd none (by simp), fun last mem => ?_⟩
      rw [List.getLast?_concat] at mem
      rw [← Option.some.inj mem]
    · exact fun running => absurd running (by simp)

theorem passes_onePass : (onePass b s).passes =
    s.passes ++ [(s.rules, (b.limitsFor s.rules s.limits).map Resolved.limits)] := by
  unfold onePass
  cases b.limitsFor s.rules s.limits <;> rfl

theorem configured_onePass_iff (configured : Configured b s) :
    Configured b (onePass b s) ↔ (b.limitsFor s.rules s.limits).map Resolved.limits =
      (b.limitsFor s.rules b.frozen).map Resolved.limits := by
  unfold Configured
  rw [passes_onePass, List.forall_mem_append, List.forall_mem_singleton]
  exact and_iff_right configured

theorem limits_of_last {last : List LimitRule × Except ConfigurationInvalid RiskLimits}
    (configured : Configured b s) (mem : last ∈ s.passes.getLast?) (is : last.2 = .ok s.limits) :
    s.limits = effective (b.layers last.1 b.frozen) := by
  have own := configured last (List.mem_of_mem_getLast? mem)
  rw [is] at own
  cases answer : b.limitsFor last.1 b.frozen with
  | error refused =>
    rw [answer] at own
    cases own
  | ok resolved =>
    rw [answer] at own
    exact (Except.ok.inj own).trans (limits_of_resolve answer).1

theorem effective_limits_iff (follows : Follows b s) (configured : Configured b s)
    (running : s.crashed = false) :
    effective (b.layers s.rules s.limits) = effective (b.layers s.rules b.frozen) ↔
      ∀ last ∈ s.passes.getLast?, b.Kept last.1 s.rules := by
  obtain ⟨own, traded⟩ := follows running
  cases last : s.passes.getLast? with
  | none =>
    rw [own (List.getLast?_eq_none_iff.mp last)]
    exact iff_of_true rfl fun _ mem => by cases mem
  | some pass =>
    rw [limits_of_last configured last (traded pass last), BotConfig.effective_eq_iff]
    exact ⟨fun kept _ mem => Option.some.inj mem ▸ kept, fun kept => kept pass rfl⟩

theorem configured_of_tightens {e : LimitsEvent} (follows : Follows b s)
    (configured : Configured b s) (tightens : Tightens b s e) (taken : s.step b e = some t) :
    Configured b t := by
  rcases step_cases taken with ⟨rules, -, rfl⟩ | ⟨-, rfl⟩ | ⟨rfl, running, rfl⟩
  · exact configured
  · exact configured
  · refine (configured_onePass_iff configured).mpr (BotConfig.limitsFor_congr ?_)
    exact (effective_limits_iff follows configured running).mpr (tightens running rfl)

theorem tightens_of_configured {e : LimitsEvent} (follows : Follows b s)
    (configured : Configured b s) (accepted : Accepted b s e) (taken : s.step b e = some t)
    (next : Configured b t) : Tightens b s e := by
  rcases step_cases taken with ⟨rules, rfl, -⟩ | ⟨rfl, -⟩ | ⟨rfl, running, rfl⟩
  · exact True.intro
  · exact fun _ late => by cases late
  · intro _ _
    refine (effective_limits_iff follows configured running).mp ?_
    have same := (configured_onePass_iff configured).mp next
    obtain ⟨resolved, answer⟩ := accepted running rfl
    rw [answer] at same
    cases answer' : b.limitsFor s.rules s.limits with
    | error refused =>
      rw [answer'] at same
      cases same
    | ok resolved' =>
      rw [answer'] at same
      rw [← (limits_of_resolve answer').1, ← (limits_of_resolve answer).1]
      exact Except.ok.inj same

theorem follows_started (rules : List LimitRule) : Follows b (started b rules) :=
  fun _ => ⟨fun _ => rfl, fun last mem => by cases mem⟩

theorem configured_started (rules : List LimitRule) : Configured b (started b rules) :=
  fun _ mem => by cases mem

/-- On a run on which no pass finds a limit looser than the last one did, every pass trades under
what the layers stored by then come to with the bot's own configuration. Where each of these is
accepted, that is so on no other run. -/
theorem configured_of_kept (rules : List LimitRule) (events : List LimitsEvent) :
    (Run.Meets (step b) (Tightens b) (started b rules) events →
      Run.Along (step b) (Configured b) (started b rules) events) ∧
    (Run.Meets (step b) (Accepted b) (started b rules) events →
      (Run.Along (step b) (Configured b) (started b rules) events ↔
        Run.Meets (step b) (Tightens b) (started b rules) events)) := by
  constructor
  · intro meets
    have both : Run.Along (step b) (fun s => Follows b s ∧ Configured b s) (started b rules)
        events := by
      refine Run.along_of_meets (fun s e t held tightens taken => ?_)
        ⟨follows_started rules, configured_started rules⟩ meets
      exact ⟨follows_step held.1 taken, configured_of_tightens held.1 held.2 tightens taken⟩
    exact both.mono fun _ held => held.2
  · intro accepted
    refine Run.along_iff_meets_of_given (fun s e t held _ taken => follows_step held taken)
      (fun s e t held configured fine taken => ⟨tightens_of_configured held configured fine taken,
        fun tightens => configured_of_tightens held configured tightens taken⟩)
      (fun s e blocked => ?_) (follows_started rules) (configured_started rules) accepted
    cases e with
    | configure _ => cases blocked
    | pass early =>
      intro running
      simp only [step, running, Bool.false_eq_true, if_false] at blocked
      split at blocked <;> cases blocked

private def plainBot : BotConfig :=
  { accountId := "account", strategyId := "strategy", symbol := "EURUSD"
    frozen := RiskLimits.default }

private def dailyLoss (value : ℚ) : LimitRule :=
  { scope := .global
    scopeRef := none
    params := { cap := fun c => if c = .maxDailyLoss then some value else none }
    priority := 1
    name := "daily loss" }

private theorem answered_daily :
    ∃ resolved, plainBot.limitsFor [dailyLoss 50] plainBot.frozen = .ok resolved := by
  exact exists_resolve (by decide +kernel) (by decide +kernel)

private def lifted : BotLimits :=
  { onePass plainBot (started plainBot [dailyLoss 50]) with rules := [] }

private theorem answered_lifted :
    ∃ resolved, plainBot.limitsFor [] plainBot.frozen = .ok resolved :=
  exists_resolve (by decide +kernel) (by decide +kernel)

/-- A tightened limit is what the next pass trades under. -/
theorem configured_of_tightened :
    Run.Along (step plainBot) (Configured plainBot) (started plainBot [dailyLoss 100])
      [.pass false, .configure [dailyLoss 50], .pass false] := by
  refine (configured_of_kept [dailyLoss 100] _).1 ⟨fun _ _ last mem => (by cases mem), ?_⟩
  rintro s first
  refine ⟨True.intro, ?_⟩
  rintro t ⟨⟩
  refine ⟨fun _ _ last mem => ?_, fun _ _ => True.intro⟩
  have passes : s.passes = _ := (Option.some.inj first) ▸ passes_onePass
  rw [passes, List.getLast?_concat] at mem
  rw [← Option.some.inj mem]
  refine ⟨fun c rule mem' _ v is => ?_, fun f rule mem' _ v is => ?_, fun g rule mem' _ on => ?_⟩
  · rw [List.mem_singleton.mp mem'] at is
    by_cases daily : c = .maxDailyLoss
    · subst daily
      refine ⟨50, ?_, .inr ⟨dailyLoss 50, List.mem_singleton_self _, rfl, rfl⟩⟩
      rw [← Option.some.inj is]
      decide +kernel
    · have silent : (dailyLoss 100).params.cap c = none := if_neg daily
      rw [silent] at is
      cases is
  · rw [List.mem_singleton.mp mem'] at is
    cases is
  · rw [List.mem_singleton.mp mem'] at on
    cases on

/-- A limit that was lifted is. -/
theorem not_forall_configured :
    ¬ ∀ (b : BotConfig) (rules : List LimitRule) (events : List LimitsEvent),
      Run.Along (step b) (Configured b) (started b rules) events := by
  intro configured
  have along := configured plainBot [dailyLoss 50] [.pass false, .configure [], .pass false]
  obtain ⟨resolved, answer⟩ := answered_daily
  have second : Run.Along (step plainBot) (Configured plainBot) lifted [.pass false] :=
    (along.2 _ rfl).2 _ rfl
  have running : lifted.crashed = false := by
    unfold lifted onePass started
    simp only [answer]
  have taken : lifted.step plainBot (.pass false) = some (onePass plainBot lifted) := by
    simp only [step, running, Bool.false_eq_true, if_false]
  have follows : Follows plainBot lifted :=
    follows_step (s := onePass plainBot (started plainBot [dailyLoss 50]))
      (follows_step (follows_started [dailyLoss 50]) (e := .pass false) rfl)
      (e := .configure []) rfl
  have tightens : Tightens plainBot lifted (.pass false) :=
    tightens_of_configured follows second.first (fun _ _ => answered_lifted) taken
      (second.2 _ taken).first
  have passes : lifted.passes = [([dailyLoss 50], .ok resolved.limits)] := by
    unfold lifted
    rw [passes_onePass]
    unfold started
    simp only [answer]
    rfl
  have last : ([dailyLoss 50], .ok resolved.limits) ∈ lifted.passes.getLast? := by
    rw [passes]
    rfl
  obtain ⟨v, _, own | ⟨rule, mem, _⟩⟩ := (tightens running rfl _ last).caps .maxDailyLoss
    (dailyLoss 50) (List.mem_singleton_self _) rfl 50 rfl
  · cases own
  · cases mem

end BotLimits

end TradeResearch.Paper
