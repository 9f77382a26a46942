import TradeResearch.Live.Gate

/-!
# What the gate needs

An item is one thing that has to be so of a context for the gate to be ready.

* `ready_iff`: the gate is ready exactly where every item holds.
-/

namespace TradeResearch.Live

structure Settings.Armed (s : Settings) : Prop where
  environment : s.environment = some "production"
  tradingMode : s.tradingMode = some "live"
  liveTrading : s.liveTrading = true
  confirmed : s.enableLiveTradingConfirmation = confirmationPhrase
  built : s.liveExecutionBlockers = []

structure ConnectedAccount.Approved (allowlist : Allowlist)
    (expectedAccountId expectedServer : Option String) (a : ConnectedAccount) : Prop where
  allowed : strip a.accountId ∈ allowlist.accounts
  expected : ∃ id ∈ expectedAccountId, strip id ≠ "" ∧ strip id = strip a.accountId
  server : ∃ server ∈ expectedServer, strip server ≠ "" ∧ strip server = strip a.server
  real : a.accountType.toUpper = "REAL"
  permitted : a.tradeAllowed = some true
  equity : ∃ equity ∈ a.equity, 0 < equity
  freeMargin : ∃ margin ∈ a.freeMargin, 0 < margin

structure SymbolState.Usable (s : SymbolState) : Prop where
  mapped : ∃ name ∈ s.venueSymbol, name ≠ ""
  quoted : ∃ bid ∈ s.bid, ∃ ask ∈ s.ask, bid ≤ ask
  marketOpen : s.marketOpen = some true

def SymbolState.Fresh (now limit : ℤ) (s : SymbolState) : Prop :=
  ∃ quotedAt ∈ s.quotedAt, now - quotedAt ≤ limit

def SymbolState.Narrow (s : SymbolState) : Prop :=
  ∀ maxSpread ∈ s.maxSpread, ∃ spread ∈ s.spread, spread ≤ maxSpread

structure StrategyLock.Locked (s : StrategyLock) : Prop where
  approved : LiveTradingGate.approvedStrategy s = true
  version : s.versionId ≠ ""
  fingerprint : ∃ fingerprint ∈ s.fingerprint, fingerprint ≠ ""
  stopped : s.hasStop = true
  targeted : s.hasTarget = true

structure ModelLock.Locked (m : ModelLock) : Prop where
  approved : LiveTradingGate.approvedModel m = true
  version : m.version ≠ ""
  fingerprint : ∃ fingerprint ∈ m.fingerprint, fingerprint ≠ ""

namespace Fact

def sound : Fact → Bool
  | safeModeEngaged => false
  | _ => true

def Binding (aiEnabled : Bool) : Fact → Prop
  | aiFallbackDefined => aiEnabled = true
  | notificationsHealthy | releaseStamped => False
  | _ => True

end Fact

def At {α : Type} (l : List α) (i : ℕ) (P : α → Prop) : Prop := ∀ a, l[i]? = some a → P a

inductive Aspect where
  | usable
  | fresh
  | narrow

def Aspect.Of (now limit : ℤ) : Aspect → SymbolState → Prop
  | usable => SymbolState.Usable
  | fresh => SymbolState.Fresh now limit
  | narrow => SymbolState.Narrow

inductive Item where
  | settings
  | account
  | adapterMode
  | fact (f : Fact)
  | count (c : Count)
  | capital
  | disengaged
  | symbols
  | symbol (i : ℕ) (a : Aspect)
  | strategies
  | strategy (i : ℕ)
  | models
  | model (i : ℕ)

def Item.Holds (ctx : LiveContext) : Item → Prop
  | settings => ∃ s ∈ ctx.settings, s.Armed
  | account => ∃ a ∈ ctx.connectedAccount,
    a.Approved ctx.allowlist ctx.expectedAccountId ctx.expectedServer
  | adapterMode => ctx.adapterMode = some "live"
  | fact f => f.Binding ctx.aiEnabled → ctx.fact f = some f.sound
  | count c => ctx.count c = some 0
  | capital => ∃ limits ∈ ctx.capital, ∀ l, (limits l).isSome
  | disengaged => ctx.killSwitchEngaged = none
  | symbols => ctx.symbols ≠ []
  | symbol i a => At ctx.symbols i (a.Of ctx.now ctx.limit)
  | strategies => ctx.strategies ≠ []
  | strategy i => At ctx.strategies i StrategyLock.Locked
  | models => ctx.aiEnabled = true → ctx.models ≠ []
  | model i => ctx.aiEnabled = true → At ctx.models i ModelLock.Locked

def LiveContext.Acceptable (ctx : LiveContext) : Prop := ∀ item : Item, item.Holds ctx

theorem at_forall {α : Type} {l : List α} {P : α → Prop} : (∀ i, At l i P) ↔ ∀ a ∈ l, P a := by
  constructor
  · intro all a mem
    obtain ⟨i, here⟩ := List.mem_iff_getElem?.mp mem
    exact all i a here
  · exact fun all i a here => all a (List.mem_of_getElem? here)

section Verdicts

variable {repr : String → String}

def Passes (checks : List Check) : Prop := ∀ c ∈ checks, c.blocking = false

theorem passes_append {l₁ l₂ : List Check} : Passes (l₁ ++ l₂) ↔ Passes l₁ ∧ Passes l₂ :=
  List.forall_mem_append

theorem passes_cons {c : Check} {l : List Check} :
    Passes (c :: l) ↔ c.blocking = false ∧ Passes l := List.forall_mem_cons

theorem passes_nil : Passes [] ↔ True := iff_true_intro fun _ none => nomatch none

theorem blocking_check {name group : String} {ok : Option Bool} {yes no : Text}
    {unknown : Option Text} {mandatory : Bool} :
    (check name group ok yes no unknown mandatory).blocking = false ↔
      (mandatory = true → ok = some true) := by
  unfold check Check.blocking
  cases ok with
  | none => cases mandatory <;> simp
  | some ok => cases ok <;> cases mandatory <;> simp

theorem blocking_stated {name group : String} {ok : Option Bool} {yes no : String} :
    (stated name group ok yes no).blocking = false ↔ ok = some true := by
  unfold stated
  rw [blocking_check]
  exact ⟨fun held => held rfl, fun held _ => held⟩

theorem blocking_counted {name : String} {count : Option ℤ} {yes no unknown : String} :
    (LiveTradingGate.counted name count yes no unknown).blocking = false ↔ count = some 0 := by
  unfold LiveTradingGate.counted
  rw [blocking_check]
  cases count with
  | none | some n => simp

theorem configuration_passes :
    Passes (LiveTradingGate.configuration repr ctx) ↔ Item.settings.Holds ctx := by
  unfold LiveTradingGate.configuration
  simp only [passes_cons, passes_nil, blocking_check, blocking_stated, true_implies,
    Option.some.injEq, decide_eq_true_eq, and_true, List.isEmpty_iff]
  cases settings : ctx.settings with
  | none => simp [Item.Holds, settings]
  | some s =>
    simp only [Item.Holds, settings, Option.bind_some, Option.map_some, Option.getD_some,
      Option.mem_def, Option.some.injEq, exists_eq_left']
    exact ⟨fun ⟨a, b, c, d, e⟩ => ⟨a, b, c, d, e⟩, fun ⟨a, b, c, d, e⟩ => ⟨a, b, c, d, e⟩⟩

theorem getD_ne_empty {text : Option String} : ¬text.getD "" = "" ↔ ∃ t ∈ text, t ≠ "" := by
  cases text <;> simp

theorem expected_iff {text : Option String} {actual : String} :
    (strip (text.getD "") ≠ "" ∧ strip (text.getD "") = strip actual) ↔
      ∃ t ∈ text, strip t ≠ "" ∧ strip t = strip actual := by
  cases text with
  | none =>
    have blank : strip "" = "" := by decide
    simp [blank]
  | some t => simp

theorem positive_iff {q : Option ℚ} :
    (q.map fun q => decide (0 < q)) = some true ↔ ∃ x ∈ q, 0 < x := by
  cases q <;> simp

theorem account_passes : Passes (LiveTradingGate.account repr ctx) ↔ Item.account.Holds ctx := by
  unfold LiveTradingGate.account
  rw [passes_append]
  cases read : ctx.connectedAccount with
  | none =>
    refine iff_of_false (fun both => ?_) ?_
    · have blocked := both.2 _ (List.mem_cons_self ..)
      exact absurd blocked (by decide)
    · simp [Item.Holds, read]
  | some acct =>
    simp only [LiveTradingGate.identity, passes_cons, passes_nil, blocking_check, blocking_stated,
      true_implies, Option.some.injEq, decide_eq_true_eq, and_true, Option.isSome_some,
      expected_iff,
      positive_iff, Item.Holds, read, Option.mem_def, exists_eq_left']
    unfold Allowlist.permits Allowlist.configured
    constructor
    · rintro ⟨configured, permitted, expected, server, real, trades, equity, margin⟩
      have some_ : ctx.allowlist.accounts ≠ ∅ := by
        intro none
        simp [none] at configured
      rw [if_neg some_, decide_eq_true_eq] at permitted
      exact ⟨permitted, expected, server, real, trades, equity, margin⟩
    · intro approved
      have some_ : ctx.allowlist.accounts ≠ ∅ := Finset.ne_empty_of_mem approved.allowed
      simp only [some_, ne_eq, not_false_eq_true, decide_true, if_true, if_false]
      exact ⟨trivial, decide_eq_true approved.allowed, approved.expected, approved.server,
        approved.real, approved.permitted, approved.equity, approved.freeMargin⟩

theorem venue_passes : Passes (LiveTradingGate.venue repr ctx) ↔
    ctx.fact .adapterRegistered = some true ∧ ctx.adapterMode = some "live" ∧
      ctx.fact .adapterHealthy = some true ∧ ctx.fact .terminalReachable = some true := by
  have live : (ctx.adapterMode.map fun mode => decide (mode = "live")) = some true ↔
      ctx.adapterMode = some "live" := by
    cases ctx.adapterMode <;> simp
  unfold LiveTradingGate.venue
  simp only [passes_cons, passes_nil, blocking_check, blocking_stated, true_implies, and_true, live]

theorem none_picked {α : Type} {l : List α} {p : α → Bool} {name : α → String} :
    ((l.filter p).map name).isEmpty = true ↔ ∀ a ∈ l, p a = false := by
  rw [List.isEmpty_iff, List.map_eq_nil_iff, List.filter_eq_nil_iff]
  exact forall₂_congr fun a _ => iff_of_eq (Bool.not_eq_true _)

theorem SymbolState.fresh_iff {s : SymbolState} :
    LiveTradingGate.stale ctx s = false ↔ s.Fresh ctx.now ctx.limit := by
  unfold LiveTradingGate.stale SymbolState.Fresh
  cases s.quotedAt <;> simp

theorem SymbolState.usable_iff {s : SymbolState} :
    s.Usable ↔ decide (s.venueSymbol.getD "" = "") = false ∧
      (s.bid.isNone || s.ask.isNone) = false ∧
      decide (s.marketOpen ≠ some true) = false ∧ LiveTradingGate.crossed s = false := by
  have mapped : decide (s.venueSymbol.getD "" = "") = false ↔ ∃ name ∈ s.venueSymbol,
    name ≠ "" := by
    rw [decide_eq_false_iff_not, getD_ne_empty]
  have quoted : ((s.bid.isNone || s.ask.isNone) = false ∧ LiveTradingGate.crossed s = false) ↔
      ∃ bid ∈ s.bid, ∃ ask ∈ s.ask, bid ≤ ask := by
    unfold LiveTradingGate.crossed SymbolState.spread
    cases s.bid <;> cases s.ask <;> simp
  have opened : decide (s.marketOpen ≠ some true) = false ↔ s.marketOpen = some true := by simp
  rw [mapped, opened]
  constructor
  · intro usable
    have both := quoted.mpr usable.quoted
    exact ⟨usable.mapped, both.1, usable.marketOpen, both.2⟩
  · rintro ⟨named, some_, is, level⟩
    exact ⟨named, quoted.mp ⟨some_, level⟩, is⟩

theorem SymbolState.narrow_iff {s : SymbolState} (usable : s.Usable) :
    LiveTradingGate.wide s = false ↔ s.Narrow := by
  obtain ⟨bid, isBid, ask, isAsk, -⟩ := usable.quoted
  have spread : s.spread = some (ask - bid) := by
    unfold SymbolState.spread
    rw [isBid, isAsk]
  unfold LiveTradingGate.wide SymbolState.Narrow
  rw [spread]
  cases s.maxSpread <;> simp

theorem marketData_passes : Passes (LiveTradingGate.marketData ctx) ↔
    Item.symbols.Holds ctx ∧ (∀ i, (Item.symbol i .usable).Holds ctx) ∧
      (∀ i, (Item.symbol i .fresh).Holds ctx) ∧ ∀ i, (Item.symbol i .narrow).Holds ctx := by
  simp only [Item.Holds, at_forall, Aspect.Of]
  unfold LiveTradingGate.marketData
  by_cases none : ctx.symbols = []
  · simp only [none, List.isEmpty_nil, if_true]
    refine iff_of_false (fun passes => ?_) fun some_ => some_.1 rfl
    exact absurd (passes _ (List.mem_cons_self ..)) (by simp [Check.blocking])
  · have some_ : ctx.symbols.isEmpty = false := by
      rw [← Bool.not_eq_true, List.isEmpty_iff]
      exact none
    have present : ∀ detail, Check.blocking
        { name := "symbols_present", verdict := .passed, group := "market_data", detail } = false :=
      fun _ => rfl
    simp only [some_, Bool.false_eq_true, if_false, passes_cons, passes_nil, blocking_check,
      present,
      true_implies, true_and, Option.some.injEq, and_true, none_picked]
    constructor
    · rintro ⟨mapped, quoted, fresh, opened, crossed, wide⟩
      have usable : ∀ s ∈ ctx.symbols, s.Usable := fun s mem =>
        SymbolState.usable_iff.mpr ⟨mapped s mem, quoted s mem, opened s mem, crossed s mem⟩
      exact ⟨none, usable, fun s mem => SymbolState.fresh_iff.mp (fresh s mem), fun s mem =>
        (SymbolState.narrow_iff (usable s mem)).mp (wide s mem)⟩
    · rintro ⟨-, usable, fresh, narrow⟩
      have parts : ∀ s ∈ ctx.symbols, _ := fun s mem => SymbolState.usable_iff.mp (usable s mem)
      exact ⟨fun s mem => (parts s mem).1, fun s mem => (parts s mem).2.1,
        fun s mem => SymbolState.fresh_iff.mpr (fresh s mem), fun s mem => (parts s mem).2.2.1,
        fun s mem => (parts s mem).2.2.2,
        fun s mem => (SymbolState.narrow_iff (usable s mem)).mpr (narrow s mem)⟩

theorem strategy_passes : Passes (LiveTradingGate.strategy ctx) ↔
    Item.strategies.Holds ctx ∧ ∀ i, (Item.strategy i).Holds ctx := by
  simp only [Item.Holds, at_forall]
  unfold LiveTradingGate.strategy
  by_cases none : ctx.strategies = []
  · simp only [none, List.isEmpty_nil, if_true]
    refine iff_of_false (fun passes => ?_) fun some_ => some_.1 rfl
    exact absurd (passes _ (List.mem_cons_self ..)) (by simp [Check.blocking])
  · have some_ : ctx.strategies.isEmpty = false := by
      rw [← Bool.not_eq_true, List.isEmpty_iff]
      exact none
    simp only [some_, Bool.false_eq_true, if_false, passes_cons, passes_nil, blocking_check,
      true_implies, Option.some.injEq, and_true, none_picked, Bool.not_eq_false',
        Bool.or_eq_false_iff,
      decide_eq_false_iff_not, getD_ne_empty, Bool.and_eq_true]
    constructor
    · rintro ⟨approved, pinned, kept⟩
      exact ⟨none, fun s mem => ⟨approved s mem, (pinned s mem).1, (pinned s mem).2, (kept s mem).1,
        (kept s mem).2⟩⟩
    · rintro ⟨-, locked⟩
      exact ⟨fun s mem => (locked s mem).approved,
        fun s mem => ⟨(locked s mem).version, (locked s mem).fingerprint⟩,
        fun s mem => ⟨(locked s mem).stopped, (locked s mem).targeted⟩⟩

theorem ai_passes : Passes (LiveTradingGate.ai ctx) ↔
    Item.models.Holds ctx ∧ (∀ i, (Item.model i).Holds ctx) ∧
      (Item.fact .aiFallbackDefined).Holds ctx := by
  simp only [Item.Holds, Fact.Binding, Fact.sound]
  unfold LiveTradingGate.ai
  by_cases enabled : ctx.aiEnabled = true
  · simp only [enabled, true_implies, at_forall, Bool.not_true, Bool.false_eq_true, if_false,
      passes_cons, passes_nil, blocking_check, blocking_stated, Option.some.injEq, and_true,
      Bool.and_eq_true, none_picked, Bool.not_eq_true', Bool.not_eq_false', Bool.or_eq_false_iff,
      decide_eq_false_iff_not, getD_ne_empty]
    have some_ : ctx.models.isEmpty = false ↔ ctx.models ≠ [] := by
      rw [← Bool.not_eq_true, List.isEmpty_iff]
    rw [some_]
    constructor
    · rintro ⟨present, ⟨-, approved⟩, ⟨-, pinned⟩, fallback⟩
      exact ⟨present, fun m mem => ⟨approved m mem, (pinned m mem).1, (pinned m mem).2⟩, fallback⟩
    · rintro ⟨present, locked, fallback⟩
      exact ⟨present, ⟨present, fun m mem => (locked m mem).approved⟩,
        ⟨present, fun m mem => ⟨(locked m mem).version, (locked m mem).fingerprint⟩⟩, fallback⟩
  · simp [enabled, passes_cons, passes_nil, Check.blocking]

theorem CapitalLimits.missing_isEmpty {capital : CapitalLimits} :
    capital.missing.isEmpty = true ↔ ∀ l, (capital l).isSome := by
  unfold CapitalLimits.missing
  rw [none_picked]
  constructor
  · intro all l
    have here := all l (by cases l <;> decide)
    rwa [← Option.not_isSome, Bool.not_eq_false'] at here
  · intro all l _
    rw [← Option.not_isSome, all l]
    rfl

theorem risk_passes : Passes (LiveTradingGate.risk ctx) ↔
    ctx.fact .riskEngineHealthy = some true ∧ ctx.fact .riskLimitsConfigured = some true ∧
      Item.capital.Holds ctx ∧ ctx.fact .killSwitchesAvailable = some true ∧
      Item.disengaged.Holds ctx := by
  have set : (ctx.capital.map fun _ => ((ctx.capital.map CapitalLimits.missing).getD []).isEmpty) =
      some true ↔ Item.capital.Holds ctx := by
    unfold Item.Holds
    cases ctx.capital with
    | none => simp
    | some capital => simpa using CapitalLimits.missing_isEmpty
  unfold LiveTradingGate.risk
  simp only [passes_cons, passes_nil, blocking_check, blocking_stated, true_implies, and_true, set,
    Option.some.injEq, Option.isNone_iff_eq_none]
  rfl

theorem execution_passes : Passes (LiveTradingGate.execution ctx) ↔
    ctx.fact .positionSizerHealthy = some true ∧ ctx.fact .omsHealthy = some true ∧
      ctx.fact .positionManagerHealthy = some true ∧ ctx.count .unresolvedOrders = some 0 ∧
      ctx.count .unknownOrders = some 0 ∧ ctx.fact .positionsReconciled = some true ∧
      ctx.fact .ordersReconciled = some true ∧ ctx.count .unexpectedPositions = some 0 := by
  unfold LiveTradingGate.execution
  simp only [passes_cons, passes_nil, blocking_stated, blocking_counted, and_true]

theorem platform_passes : Passes (LiveTradingGate.platform ctx) ↔
    ctx.fact .safeModeEngaged = some false ∧ ctx.fact .recoveryAvailable = some true ∧
      ctx.fact .monitoringActive = some true ∧ ctx.fact .databaseHealthy = some true ∧
      ctx.fact .redisHealthy = some true ∧ ctx.fact .workersHealthy = some true ∧
      ctx.fact .auditLoggingActive = some true ∧ ctx.fact .stepUpRequired = some true := by
  have clear : (ctx.fact .safeModeEngaged).map not = some true ↔
      ctx.fact .safeModeEngaged = some false := by
    cases ctx.fact .safeModeEngaged <;> simp
  unfold LiveTradingGate.platform
  simp only [passes_cons, passes_nil, blocking_stated, blocking_check, Bool.false_eq_true,
    false_implies, and_true, clear]

theorem ready_iff : (LiveTradingGate.evaluate repr ctx).ready = true ↔ ctx.Acceptable := by
  have verdict : (LiveTradingGate.evaluate repr ctx).ready = true ↔
      Passes (LiveTradingGate.evaluate repr ctx).checks := by
    unfold GateReport.ready Passes
    have some_ : (LiveTradingGate.evaluate repr ctx).checks.isEmpty = false := by
      simp [LiveTradingGate.evaluate, LiveTradingGate.configuration]
    rw [some_]
    simp
  rw [verdict]
  unfold LiveTradingGate.evaluate
  simp only [passes_append, configuration_passes, account_passes, venue_passes, marketData_passes,
    strategy_passes, ai_passes, risk_passes, execution_passes, platform_passes]
  constructor
  · rintro ⟨⟨⟨⟨⟨⟨⟨⟨settings, account⟩, registered, mode, healthy, reachable⟩, symbols, symbol,
      fresh,
      narrow⟩, strategies, strategy⟩, models, model, fallback⟩, engine, limits, capital, switches,
      disengaged⟩, sizer, oms, manager, unresolved, unknown, positions, orders, unexpected⟩, safe,
      recovery, monitoring, database, redis, workers, audit, stepUp⟩ item
    cases item with
    | settings => exact settings
    | account => exact account
    | adapterMode => exact mode
    | fact f => cases f <;> first | exact fallback | exact False.elim | exact fun _ => ‹_›
    | count c => cases c <;> assumption
    | capital => exact capital
    | disengaged => exact disengaged
    | symbols => exact symbols
    | symbol i a =>
      cases a with
      | usable => exact symbol i
      | fresh => exact fresh i
      | narrow => exact narrow i
    | strategies => exact strategies
    | strategy i => exact strategy i
    | models => exact models
    | model i => exact model i
  · intro all
    have fact : ∀ f : Fact, f.Binding ctx.aiEnabled → ctx.fact f = some f.sound := fun f =>
      all (.fact f)
    have count : ∀ c : Count, ctx.count c = some 0 := fun c => all (.count c)
    exact ⟨⟨⟨⟨⟨⟨⟨⟨all .settings, all .account⟩, fact _ trivial, all .adapterMode, fact _ trivial,
      fact _ trivial⟩, all .symbols, fun i => all (.symbol i .usable), fun i =>
        all (.symbol i .fresh),
      fun i => all (.symbol i .narrow)⟩, all .strategies, fun i => all (.strategy i)⟩, all .models,
      fun i => all (.model i), all (.fact _)⟩, fact _ trivial, fact _ trivial, all .capital,
      fact _ trivial, all .disengaged⟩, fact _ trivial, fact _ trivial, fact _ trivial, count _,
      count _, fact _ trivial, fact _ trivial, count _⟩, fact _ trivial, fact _ trivial,
      fact _ trivial, fact _ trivial, fact _ trivial, fact _ trivial, fact _ trivial,
        fact _ trivial⟩

end Verdicts

end TradeResearch.Live
