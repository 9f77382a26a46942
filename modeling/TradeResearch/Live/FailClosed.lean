import TradeResearch.Live.Acceptance

/-!
# What the gate does not miss

A loss takes one piece of evidence from a context, or moves the time of a quote. Contexts are
ordered by what is known of them, and an item that holds of less holds of more.

* `LiveContext.Below.holds`: what holds of less holds of more.
* `without_below`: most losses leave less.
* `failsClosed_iff`: a loss makes the gate ready only where it hides every item that did not hold.
-/

namespace TradeResearch.Live

inductive AccountField where
  | balance
  | equity
  | freeMargin
  | leverage
  | tradeAllowed
  deriving DecidableEq, Repr

def ConnectedAccount.without (a : ConnectedAccount) : AccountField → ConnectedAccount
  | .balance => { a with balance := none }
  | .equity => { a with equity := none }
  | .freeMargin => { a with freeMargin := none }
  | .leverage => { a with leverage := none }
  | .tradeAllowed => { a with tradeAllowed := none }

inductive SymbolField where
  | venueSymbol
  | bid
  | ask
  | quotedAt
  | marketOpen
  deriving DecidableEq, Repr

def SymbolState.without (s : SymbolState) : SymbolField → SymbolState
  | .venueSymbol => { s with venueSymbol := none }
  | .bid => { s with bid := none }
  | .ask => { s with ask := none }
  | .quotedAt => { s with quotedAt := none }
  | .marketOpen => { s with marketOpen := none }

inductive Loss where
  | settings
  | allowlist
  | allowed (accountId : String)
  | expectedAccountId
  | expectedServer
  | connectedAccount
  | accountField (f : AccountField)
  | adapterMode
  | fact (f : Fact)
  | count (c : Count)
  | capital
  | capitalLimit (l : CapitalLimit)
  | symbolField (i : ℕ) (f : SymbolField)
  | strategyFingerprint (i : ℕ)
  | modelFingerprint (i : ℕ)
  | killSwitchEngaged
  | maxSpread (i : ℕ)
  | quotedAt (i : ℕ) (t : ℤ)
  | symbol (i : ℕ)
  | strategy (i : ℕ)
  | model (i : ℕ)

def LiveContext.without (ctx : LiveContext) : Loss → LiveContext
  | .settings => { ctx with settings := none }
  | .allowlist => { ctx with allowlist := ⟨∅⟩ }
  | .allowed accountId => { ctx with allowlist := ⟨ctx.allowlist.accounts.erase accountId⟩ }
  | .expectedAccountId => { ctx with expectedAccountId := none }
  | .expectedServer => { ctx with expectedServer := none }
  | .connectedAccount => { ctx with connectedAccount := none }
  | .accountField f => { ctx with connectedAccount := ctx.connectedAccount.map (·.without f) }
  | .adapterMode => { ctx with adapterMode := none }
  | .fact f => { ctx with fact := Function.update ctx.fact f none }
  | .count c => { ctx with count := Function.update ctx.count c none }
  | .capital => { ctx with capital := none }
  | .capitalLimit l =>
    { ctx with capital := ctx.capital.map fun limits => Function.update limits l none }
  | .symbolField i f => { ctx with symbols := ctx.symbols.modify i (·.without f) }
  | .strategyFingerprint i =>
    { ctx with strategies := ctx.strategies.modify i ({ · with fingerprint := none }) }
  | .modelFingerprint i =>
    { ctx with models := ctx.models.modify i ({ · with fingerprint := none }) }
  | .killSwitchEngaged => { ctx with killSwitchEngaged := none }
  | .maxSpread i => { ctx with symbols := ctx.symbols.modify i ({ · with maxSpread := none }) }
  | .quotedAt i t => { ctx with symbols := ctx.symbols.modify i ({ · with quotedAt := some t }) }
  | .symbol i => { ctx with symbols := ctx.symbols.eraseIdx i }
  | .strategy i => { ctx with strategies := ctx.strategies.eraseIdx i }
  | .model i => { ctx with models := ctx.models.eraseIdx i }

def Loss.Hides (ctx : LiveContext) : Loss → Item → Prop
  | .killSwitchEngaged, item => item = .disengaged
  | .maxSpread i, item => item = .symbol i .narrow
  | .quotedAt i t, item => item = .symbol i .fresh ∧ ctx.now - ctx.limit ≤ t
  | .symbol i, item => ∃ a, item = .symbol i a
  | .strategy i, item => item = .strategy i
  | .model i, item => item = .model i
  | _, _ => False

def Loss.Spares (ctx : LiveContext) : Loss → Prop
  | .symbol i => ctx.symbols.eraseIdx i ≠ []
  | .strategy i => ctx.strategies.eraseIdx i ≠ []
  | .model i => ctx.aiEnabled = true → ctx.models.eraseIdx i ≠ []
  | _ => True

structure LiveContext.Masked (ctx : LiveContext) (loss : Loss) : Prop where
  spares : loss.Spares ctx
  hidden : ∃ item : Item, loss.Hides ctx item ∧ ¬item.Holds ctx
  rest : ∀ item : Item, ¬loss.Hides ctx item → item.Holds ctx

def Known {α : Type} (a b : Option α) : Prop := ∀ v, a = some v → b = some v

theorem Known.refl {α : Type} (a : Option α) : Known a a := fun _ => id

theorem Known.none {α : Type} (a : Option α) : Known none a := fun _ other => nomatch other

theorem Known.imp {α : Type} {a b : Option α} {P : α → Prop} (known : Known a b)
    (held : ∃ v ∈ a, P v) : ∃ v ∈ b, P v :=
  held.imp fun v here => ⟨known v here.1, here.2⟩

structure ConnectedAccount.Below (a b : ConnectedAccount) : Prop where
  accountId : a.accountId = b.accountId
  server : a.server = b.server
  accountType : a.accountType = b.accountType
  equity : Known a.equity b.equity
  freeMargin : Known a.freeMargin b.freeMargin
  tradeAllowed : Known a.tradeAllowed b.tradeAllowed

structure SymbolState.Below (a b : SymbolState) : Prop where
  venueSymbol : Known a.venueSymbol b.venueSymbol
  bid : Known a.bid b.bid
  ask : Known a.ask b.ask
  quotedAt : Known a.quotedAt b.quotedAt
  marketOpen : Known a.marketOpen b.marketOpen
  maxSpread : a.maxSpread = b.maxSpread

structure StrategyLock.Below (a b : StrategyLock) : Prop where
  versionId : a.versionId = b.versionId
  status : a.status = b.status
  fingerprint : Known a.fingerprint b.fingerprint
  hasStop : a.hasStop = b.hasStop
  hasTarget : a.hasTarget = b.hasTarget

structure ModelLock.Below (a b : ModelLock) : Prop where
  version : a.version = b.version
  status : a.status = b.status
  fingerprint : Known a.fingerprint b.fingerprint

structure LiveContext.Below (c d : LiveContext) : Prop where
  settings : Known c.settings d.settings
  now : c.now = d.now
  allowlist : c.allowlist.accounts ⊆ d.allowlist.accounts
  expectedAccountId : Known c.expectedAccountId d.expectedAccountId
  expectedServer : Known c.expectedServer d.expectedServer
  connectedAccount : ∀ a ∈ c.connectedAccount, ∃ b ∈ d.connectedAccount, a.Below b
  adapterMode : Known c.adapterMode d.adapterMode
  symbols : List.Forall₂ SymbolState.Below c.symbols d.symbols
  marketDataMaxAgeSeconds : c.marketDataMaxAgeSeconds = d.marketDataMaxAgeSeconds
  strategies : List.Forall₂ StrategyLock.Below c.strategies d.strategies
  aiEnabled : c.aiEnabled = d.aiEnabled
  models : List.Forall₂ ModelLock.Below c.models d.models
  capital : ∀ l ∈ c.capital, ∃ m ∈ d.capital, ∀ k, Known (l k) (m k)
  killSwitchEngaged : c.killSwitchEngaged = d.killSwitchEngaged
  fact : ∀ f, Known (c.fact f) (d.fact f)
  count : ∀ k, Known (c.count k) (d.count k)

theorem SymbolState.Below.refl (s : SymbolState) : s.Below s :=
  ⟨.refl _, .refl _, .refl _, .refl _, .refl _, rfl⟩

theorem StrategyLock.Below.refl (s : StrategyLock) : s.Below s := ⟨rfl, rfl, .refl _, rfl, rfl⟩

theorem ModelLock.Below.refl (m : ModelLock) : m.Below m := ⟨rfl, rfl, .refl _⟩

theorem ConnectedAccount.Below.refl (a : ConnectedAccount) : a.Below a :=
  ⟨rfl, rfl, rfl, .refl _, .refl _, .refl _⟩

theorem LiveContext.Below.refl (c : LiveContext) : c.Below c where
  settings := .refl _
  now := rfl
  allowlist := subset_rfl
  expectedAccountId := .refl _
  expectedServer := .refl _
  connectedAccount a here := ⟨a, here, .refl a⟩
  adapterMode := .refl _
  symbols := List.forall₂_same.mpr fun _ _ => .refl _
  marketDataMaxAgeSeconds := rfl
  strategies := List.forall₂_same.mpr fun _ _ => .refl _
  aiEnabled := rfl
  models := List.forall₂_same.mpr fun _ _ => .refl _
  capital l here := ⟨l, here, fun _ => .refl _⟩
  killSwitchEngaged := rfl
  fact _ := .refl _
  count _ := .refl _

theorem At.below {α : Type} {R : α → α → Prop} {P Q : α → Prop} {l m : List α}
    (below : List.Forall₂ R l m) (up : ∀ a b, R a b → P a → Q b) {i : ℕ} (held : At l i P) :
    At m i Q := by
  induction below generalizing i with
  | nil => exact fun _ none => nomatch none
  | cons here rest ih =>
    cases i with
    | zero =>
      rintro _ ⟨⟩
      exact up _ _ here (held _ rfl)
    | succ i => exact ih held

theorem ne_nil_below {α : Type} {R : α → α → Prop} {l m : List α} (below : List.Forall₂ R l m)
    (held : l ≠ []) : m ≠ [] := by
  cases below with
  | nil => exact absurd rfl held
  | cons _ _ => exact List.cons_ne_nil _ _

theorem SymbolState.Below.usable {a b : SymbolState} (below : a.Below b) (usable : a.Usable) :
    b.Usable where
  mapped := below.venueSymbol.imp usable.mapped
  quoted := by
    obtain ⟨bid, isBid, ask, isAsk, level⟩ := usable.quoted
    exact ⟨bid, below.bid bid isBid, ask, below.ask ask isAsk, level⟩
  marketOpen := below.marketOpen true usable.marketOpen

theorem SymbolState.Below.narrow {a b : SymbolState} (below : a.Below b) (narrow : a.Narrow) :
    b.Narrow := by
  intro maxSpread limited
  rw [← below.maxSpread] at limited
  obtain ⟨spread, is, within⟩ := narrow maxSpread limited
  refine ⟨spread, ?_, within⟩
  unfold SymbolState.spread at is ⊢
  cases isBid : a.bid with
  | none => simp [isBid] at is
  | some bid =>
    cases isAsk : a.ask with
    | none => simp [isAsk] at is
    | some ask =>
      rw [below.bid bid isBid, below.ask ask isAsk]
      rwa [isBid, isAsk] at is

theorem StrategyLock.Below.locked {a b : StrategyLock} (below : a.Below b) (locked : a.Locked) :
    b.Locked where
  approved := by
    have approved := locked.approved
    unfold LiveTradingGate.approvedStrategy at approved ⊢
    rwa [← below.status]
  version := below.versionId ▸ locked.version
  fingerprint := below.fingerprint.imp locked.fingerprint
  stopped := below.hasStop ▸ locked.stopped
  targeted := below.hasTarget ▸ locked.targeted

theorem ModelLock.Below.locked {a b : ModelLock} (below : a.Below b) (locked : a.Locked) :
    b.Locked where
  approved := by
    have approved := locked.approved
    unfold LiveTradingGate.approvedModel at approved ⊢
    rwa [← below.status]
  version := below.version ▸ locked.version
  fingerprint := below.fingerprint.imp locked.fingerprint

section Order

variable {c : LiveContext}

theorem ConnectedAccount.Below.approved {a b : ConnectedAccount} (below : a.Below b)
    (more : c.Below d) (approved : a.Approved c.allowlist c.expectedAccountId c.expectedServer) :
    b.Approved d.allowlist d.expectedAccountId d.expectedServer where
  allowed := below.accountId ▸ more.allowlist approved.allowed
  expected := below.accountId ▸ more.expectedAccountId.imp approved.expected
  server := below.server ▸ more.expectedServer.imp approved.server
  real := below.accountType ▸ approved.real
  permitted := below.tradeAllowed true approved.permitted
  equity := below.equity.imp approved.equity
  freeMargin := below.freeMargin.imp approved.freeMargin

theorem LiveContext.Below.holds (more : c.Below d) (item : Item) (held : item.Holds c) :
    item.Holds d := by
  cases item with
  | settings => exact more.settings.imp held
  | account =>
    obtain ⟨a, here, approved⟩ := held
    obtain ⟨b, there, below⟩ := more.connectedAccount a here
    exact ⟨b, there, below.approved more approved⟩
  | adapterMode => exact more.adapterMode _ held
  | fact f => exact fun binding => more.fact f _ (held (more.aiEnabled ▸ binding))
  | count k => exact more.count k _ held
  | capital =>
    obtain ⟨limits, here, set⟩ := held
    obtain ⟨limits', there, known⟩ := more.capital limits here
    refine ⟨limits', there, fun l => ?_⟩
    obtain ⟨q, is⟩ := Option.isSome_iff_exists.mp (set l)
    exact Option.isSome_iff_exists.mpr ⟨q, known l q is⟩
  | disengaged => exact more.killSwitchEngaged.symm.trans held
  | symbols => exact ne_nil_below more.symbols held
  | symbol i a =>
    cases a with
    | usable => exact At.below more.symbols (fun _ _ below => below.usable) held
    | fresh =>
      refine At.below more.symbols (fun a b below fresh => ?_) held
      unfold Aspect.Of LiveContext.limit
      rw [← more.now, ← more.marketDataMaxAgeSeconds]
      exact below.quotedAt.imp fresh
    | narrow => exact At.below more.symbols (fun _ _ below => below.narrow) held
  | strategies => exact ne_nil_below more.strategies held
  | strategy i => exact At.below more.strategies (fun _ _ below => below.locked) held
  | models => exact fun enabled => ne_nil_below more.models (held (more.aiEnabled.trans enabled))
  | model i =>
    exact fun enabled =>
      At.below more.models (fun _ _ below => below.locked) (held (more.aiEnabled.trans enabled))

end Order

def Loss.Plain : Loss → Prop
  | .killSwitchEngaged | .maxSpread _ | .quotedAt _ _ | .symbol _ | .strategy _ | .model _ => False
  | _ => True

theorem forall₂_modify {α : Type} {R : α → α → Prop} (refl : ∀ a, R a a) {f : α → α}
    (here : ∀ a, R (f a) a) (l : List α) (i : ℕ) : List.Forall₂ R (l.modify i f) l := by
  induction l generalizing i with
  | nil =>
    rw [List.modify_nil]
    exact .nil
  | cons a l ih =>
    cases i with
    | zero => exact .cons (here a) (List.forall₂_same.mpr fun a _ => refl a)
    | succ i => exact .cons (refl a) (ih i)

theorem known_update {α β : Type} [DecidableEq α] (f : α → Option β) (a b : α) :
    Known (Function.update f a none b) (f b) := by
  by_cases same : b = a
  · subst same
    rw [Function.update_self]
    exact .none _
  · rw [Function.update_of_ne same]
    exact .refl _

theorem ConnectedAccount.without_below (a : ConnectedAccount) (f : AccountField) :
    (a.without f).Below a := by
  cases f with
  | balance | leverage => exact ⟨rfl, rfl, rfl, .refl _, .refl _, .refl _⟩
  | equity => exact { ConnectedAccount.Below.refl a with equity := .none _ }
  | freeMargin => exact { ConnectedAccount.Below.refl a with freeMargin := .none _ }
  | tradeAllowed => exact { ConnectedAccount.Below.refl a with tradeAllowed := .none _ }

theorem SymbolState.without_below (s : SymbolState) (f : SymbolField) : (s.without f).Below s := by
  cases f with
  | venueSymbol => exact { SymbolState.Below.refl s with venueSymbol := .none _ }
  | bid => exact { SymbolState.Below.refl s with bid := .none _ }
  | ask => exact { SymbolState.Below.refl s with ask := .none _ }
  | quotedAt => exact { SymbolState.Below.refl s with quotedAt := .none _ }
  | marketOpen => exact { SymbolState.Below.refl s with marketOpen := .none _ }

section Losses

variable {ctx : LiveContext}

theorem without_below {loss : Loss} (plain : loss.Plain) : (ctx.without loss).Below ctx := by
  have same := LiveContext.Below.refl ctx
  cases loss with
  | settings => exact { same with settings := .none _ }
  | allowlist => exact { same with allowlist := Finset.empty_subset _ }
  | allowed accountId => exact { same with allowlist := Finset.erase_subset _ _ }
  | expectedAccountId => exact { same with expectedAccountId := .none _ }
  | expectedServer => exact { same with expectedServer := .none _ }
  | connectedAccount => exact { same with connectedAccount := fun _ none => nomatch none }
  | accountField f =>
    refine { same with connectedAccount := fun a here => ?_ }
    obtain ⟨b, there, rfl⟩ := Option.map_eq_some_iff.mp here
    exact ⟨b, there, b.without_below f⟩
  | adapterMode => exact { same with adapterMode := .none _ }
  | fact f => exact { same with fact := known_update ctx.fact f }
  | count c => exact { same with count := known_update ctx.count c }
  | capital => exact { same with capital := fun _ none => nomatch none }
  | capitalLimit l =>
    refine { same with capital := fun limits here => ?_ }
    obtain ⟨limits', there, rfl⟩ := Option.map_eq_some_iff.mp here
    exact ⟨limits', there, known_update limits' l⟩
  | symbolField i f =>
    exact { same with symbols := forall₂_modify .refl (fun s => s.without_below f) _ i }
  | strategyFingerprint i =>
    exact { same with
      strategies := forall₂_modify .refl (fun s => ⟨rfl, rfl, .none _, rfl, rfl⟩) _ i }
  | modelFingerprint i =>
    exact { same with models := forall₂_modify .refl (fun m => ⟨rfl, rfl, .none _⟩) _ i }
  | killSwitchEngaged | maxSpread _ | quotedAt _ _ | symbol _ | strategy _ | model _ =>
    exact plain.elim

section Lists

variable {α : Type} {l : List α} {f : α → α} {P : α → Prop}

theorem at_modify (same : ∀ a, P (f a) ↔ P a) : At (l.modify i f) j P ↔ At l j P := by
  unfold At
  rw [List.getElem?_modify]
  cases l[j]? with
  | none => rfl
  | some a =>
    by_cases here : i = j
    · simp [here, same]
    · simp [here]

theorem at_modify_of_ne (other : i ≠ j) : At (l.modify i f) j P ↔ At l j P := by
  unfold At
  rw [List.getElem?_modify]
  cases l[j]? <;> simp [other]

theorem at_modify_self (all : ∀ a, P (f a)) : At (l.modify i f) i P := by
  unfold At
  cases l[i]? <;> simp [all]

theorem modify_ne_nil : l.modify i f ≠ [] ↔ l ≠ [] := by
  rw [← List.length_pos_iff, List.length_modify, List.length_pos_iff]

theorem forall_at_eraseIdx : (∀ j, At (l.eraseIdx i) j P) ↔ ∀ j, j ≠ i → At l j P := by
  rw [at_forall]
  constructor
  · exact fun all j other a here => all a (List.mem_eraseIdx_iff_getElem?.mpr ⟨j, other, here⟩)
  · intro all a mem
    obtain ⟨j, other, here⟩ := List.mem_eraseIdx_iff_getElem?.mp mem
    exact all j other a here

theorem ne_nil_of_eraseIdx (left : l.eraseIdx i ≠ []) : l ≠ [] := by
  rintro rfl
  exact left List.eraseIdx_nil

end Lists

theorem holds_without_killSwitch {item : Item} (other : item ≠ .disengaged) :
    item.Holds (ctx.without .killSwitchEngaged) ↔ item.Holds ctx := by
  cases item with
  | disengaged => exact absurd rfl other
  | _ => rfl

theorem holds_without_maxSpread {i : ℕ} {item : Item} (other : item ≠ .symbol i .narrow) :
    item.Holds (ctx.without (.maxSpread i)) ↔ item.Holds ctx := by
  cases item with
  | symbols => exact modify_ne_nil
  | symbol j a =>
    cases a with
    | usable => exact at_modify fun _ => ⟨fun ⟨a, b, c⟩ => ⟨a, b, c⟩, fun ⟨a, b, c⟩ => ⟨a, b, c⟩⟩
    | fresh => exact at_modify fun _ => Iff.rfl
    | narrow => exact at_modify_of_ne fun same => other (same ▸ rfl)
  | _ => rfl

theorem holds_without_quotedAt {i : ℕ} {t : ℤ} {item : Item} (other : item ≠ .symbol i .fresh) :
    item.Holds (ctx.without (.quotedAt i t)) ↔ item.Holds ctx := by
  cases item with
  | symbols => exact modify_ne_nil
  | symbol j a =>
    cases a with
    | usable => exact at_modify fun _ => ⟨fun ⟨a, b, c⟩ => ⟨a, b, c⟩, fun ⟨a, b, c⟩ => ⟨a, b, c⟩⟩
    | fresh => exact at_modify_of_ne fun same => other (same ▸ rfl)
    | narrow => exact at_modify fun _ => Iff.rfl
  | _ => rfl

theorem holds_without_symbol {i : ℕ} {item : Item} (many : item ≠ .symbols)
    (one : ∀ j a, item ≠ .symbol j a) :
    item.Holds (ctx.without (.symbol i)) ↔ item.Holds ctx := by
  cases item with
  | symbols => exact absurd rfl many
  | symbol j a => exact absurd rfl (one j a)
  | _ => rfl

theorem holds_without_strategy {i : ℕ} {item : Item} (many : item ≠ .strategies)
    (one : ∀ j, item ≠ .strategy j) :
    item.Holds (ctx.without (.strategy i)) ↔ item.Holds ctx := by
  cases item with
  | strategies => exact absurd rfl many
  | strategy j => exact absurd rfl (one j)
  | _ => rfl

theorem holds_without_model {i : ℕ} {item : Item} (many : item ≠ .models)
    (one : ∀ j, item ≠ .model j) : item.Holds (ctx.without (.model i)) ↔ item.Holds ctx := by
  cases item with
  | models => exact absurd rfl many
  | model j => exact absurd rfl (one j)
  | _ => rfl

theorem acceptable_without_symbol {i : ℕ} :
    (ctx.without (.symbol i)).Acceptable ↔ ctx.symbols.eraseIdx i ≠ [] ∧
      ∀ item : Item, ¬(Loss.symbol i).Hides ctx item → item.Holds ctx := by
  constructor
  · intro all
    refine ⟨all .symbols, fun item shown => ?_⟩
    cases item with
    | symbols => exact ne_nil_of_eraseIdx (all .symbols)
    | symbol j a =>
      exact forall_at_eraseIdx.mp (fun j => all (.symbol j a)) j fun same => shown ⟨a, same ▸ rfl⟩
    | _ => exact (holds_without_symbol (by simp) (by simp)).mp (all _)
  · rintro ⟨left, rest⟩ item
    cases item with
    | symbols => exact left
    | symbol j a =>
      refine forall_at_eraseIdx.mpr (fun j other => rest (.symbol j a) ?_) j
      rintro ⟨b, same⟩
      cases same
      exact other rfl
    | _ =>
      refine (holds_without_symbol (by simp) (by simp)).mpr (rest _ ?_)
      rintro ⟨b, same⟩
      cases same

theorem acceptable_without_strategy {i : ℕ} :
    (ctx.without (.strategy i)).Acceptable ↔ ctx.strategies.eraseIdx i ≠ [] ∧
      ∀ item : Item, ¬(Loss.strategy i).Hides ctx item → item.Holds ctx := by
  constructor
  · intro all
    refine ⟨all .strategies, fun item shown => ?_⟩
    cases item with
    | strategies => exact ne_nil_of_eraseIdx (all .strategies)
    | strategy j =>
      exact forall_at_eraseIdx.mp (fun j => all (.strategy j)) j fun same => shown (same ▸ rfl)
    | _ => exact (holds_without_strategy (by simp) (by simp)).mp (all _)
  · rintro ⟨left, rest⟩ item
    cases item with
    | strategies => exact left
    | strategy j =>
      refine forall_at_eraseIdx.mpr (fun j other => rest (.strategy j) ?_) j
      rintro ⟨⟩
      exact other rfl
    | _ =>
      refine (holds_without_strategy (by simp) (by simp)).mpr (rest _ ?_)
      rintro ⟨⟩

theorem acceptable_without_model {i : ℕ} :
    (ctx.without (.model i)).Acceptable ↔
      (ctx.aiEnabled = true → ctx.models.eraseIdx i ≠ []) ∧
        ∀ item : Item, ¬(Loss.model i).Hides ctx item → item.Holds ctx := by
  constructor
  · intro all
    refine ⟨all .models, fun item shown => ?_⟩
    cases item with
    | models => exact fun enabled => ne_nil_of_eraseIdx (all .models enabled)
    | model j =>
      exact fun enabled => forall_at_eraseIdx.mp (fun j => all (.model j) enabled) j fun same =>
        shown (same ▸ rfl)
    | _ => exact (holds_without_model (by simp) (by simp)).mp (all _)
  · rintro ⟨left, rest⟩ item
    cases item with
    | models => exact left
    | model j =>
      refine fun enabled => forall_at_eraseIdx.mpr (fun j other => rest (.model j) ?_ enabled) j
      rintro ⟨⟩
      exact other rfl
    | _ =>
      refine (holds_without_model (by simp) (by simp)).mpr (rest _ ?_)
      rintro ⟨⟩

theorem acceptable_without_iff {loss : Loss} (hidden : ∃ item, loss.Hides ctx item) :
    (ctx.without loss).Acceptable ↔
      loss.Spares ctx ∧ ∀ item : Item, ¬loss.Hides ctx item → item.Holds ctx := by
  obtain ⟨item, hides⟩ := hidden
  cases loss with
  | killSwitchEngaged =>
    constructor
    · exact fun all => ⟨trivial, fun item shown => (holds_without_killSwitch shown).mp (all item)⟩
    · rintro ⟨-, rest⟩ item
      by_cases same : item = .disengaged
      · subst same
        rfl
      · exact (holds_without_killSwitch same).mpr (rest item same)
  | maxSpread i =>
    constructor
    · exact fun all => ⟨trivial, fun item shown => (holds_without_maxSpread shown).mp (all item)⟩
    · rintro ⟨-, rest⟩ item
      by_cases same : item = .symbol i .narrow
      · subst same
        exact at_modify_self fun _ _ none => nomatch none
      · exact (holds_without_maxSpread same).mpr (rest item same)
  | quotedAt i t =>
    have recent := hides.2
    constructor
    · refine fun all => ⟨trivial, fun item shown => ?_⟩
      exact (holds_without_quotedAt fun same => shown ⟨same, recent⟩).mp (all item)
    · rintro ⟨-, rest⟩ item
      by_cases same : item = .symbol i .fresh
      · subst same
        exact at_modify_self fun _ => ⟨t, rfl, by show ctx.now - t ≤ ctx.limit; omega⟩
      · exact (holds_without_quotedAt same).mpr (rest item fun both => same both.1)
  | symbol i => exact acceptable_without_symbol
  | strategy i => exact acceptable_without_strategy
  | model i => exact acceptable_without_model
  | _ => exact hides.elim

theorem acceptable_of_without {loss : Loss} (shown : ∀ item, ¬loss.Hides ctx item)
    (all : (ctx.without loss).Acceptable) : ctx.Acceptable := by
  by_cases plain : loss.Plain
  · exact fun item => (without_below plain).holds item (all item)
  · cases loss with
    | killSwitchEngaged => exact absurd rfl (shown .disengaged)
    | maxSpread i => exact absurd rfl (shown (.symbol i .narrow))
    | quotedAt i t =>
      have old : ¬ctx.now - ctx.limit ≤ t := fun recent => shown _ ⟨rfl, recent⟩
      intro item
      by_cases same : item = .symbol i .fresh
      · subst same
        intro s here
        have moved : (ctx.symbols.modify i ({ · with quotedAt := some t }))[i]? =
            some { s with quotedAt := some t } := by
          rw [List.getElem?_modify, here]
          simp
        obtain ⟨_, ⟨⟩, fresh⟩ := all (.symbol i .fresh) _ moved
        have within : ctx.now - t ≤ ctx.limit := fresh
        exact absurd within (by omega)
      · exact (holds_without_quotedAt same).mp (all item)
    | symbol i => exact absurd ⟨.usable, rfl⟩ (shown (.symbol i .usable))
    | strategy i => exact absurd rfl (shown (.strategy i))
    | model i => exact absurd rfl (shown (.model i))
    | _ => exact absurd trivial plain

theorem failsClosed_iff {repr : String → String} {loss : Loss} :
    ((LiveTradingGate.evaluate repr (ctx.without loss)).ready = true →
      (LiveTradingGate.evaluate repr ctx).ready = true) ↔ ¬ctx.Masked loss := by
  rw [ready_iff, ready_iff]
  constructor
  · intro closed masked
    obtain ⟨item, hides, not⟩ := masked.hidden
    exact not
      (closed ((acceptable_without_iff ⟨item, hides⟩).mpr ⟨masked.spares, masked.rest⟩) item)
  · intro unmasked left
    by_cases hidden : ∃ item, loss.Hides ctx item
    · obtain ⟨spares, rest⟩ := (acceptable_without_iff hidden).mp left
      intro item
      by_contra not
      refine unmasked ⟨spares, ⟨item, ?_, not⟩, rest⟩
      by_contra shown
      exact not (rest item shown)
    · exact acceptable_of_without (fun item hides => hidden ⟨item, hides⟩) left

structure LiveContext.Evidenced (ctx : LiveContext) : Prop where
  acceptable : ctx.Acceptable
  current : ∀ s ∈ ctx.symbols, ∃ t ∈ s.quotedAt, ctx.now - ctx.limit ≤ t ∧ t ≤ ctx.now
  limited : ∀ s ∈ ctx.symbols, ∃ maxSpread ∈ s.maxSpread, ∃ spread ∈ s.spread, spread ≤ maxSpread
  notified : ctx.fact .notificationsHealthy = some true
  stamped : ctx.fact .releaseStamped = some true

structure LiveContext.Covered (ctx : LiveContext) : Prop where
  dated : ∀ s ∈ ctx.symbols, ∀ t ∈ s.quotedAt, t ≤ ctx.now
  limited : ∀ s ∈ ctx.symbols, s.maxSpread ≠ none
  notified : ctx.fact .notificationsHealthy = some true
  stamped : ctx.fact .releaseStamped = some true

theorem evidenced_iff : ctx.Evidenced ↔ ctx.Acceptable ∧ ctx.Covered := by
  constructor
  · intro evidenced
    refine ⟨evidenced.acceptable, ?_, ?_, evidenced.notified, evidenced.stamped⟩
    · intro s mem t dated
      obtain ⟨t', is, -, before⟩ := evidenced.current s mem
      cases dated.symm.trans is
      exact before
    · intro s mem none
      obtain ⟨maxSpread, is, -⟩ := evidenced.limited s mem
      cases none.symm.trans is
  · rintro ⟨acceptable, covered⟩
    refine ⟨acceptable, fun s mem => ?_, fun s mem => ?_, covered.notified, covered.stamped⟩
    · obtain ⟨t, is, fresh⟩ := at_forall.mp (fun i => acceptable (.symbol i .fresh)) s mem
      exact ⟨t, is, by omega, covered.dated s mem t is⟩
    · obtain ⟨maxSpread, is⟩ := Option.ne_none_iff_exists'.mp (covered.limited s mem)
      exact ⟨maxSpread, is,
        at_forall.mp (fun i => acceptable (.symbol i .narrow)) s mem maxSpread is⟩

/-- The gate fails closed exactly where no loss masks the context; and what is ready is evidenced
where what is acceptable has its quotes dated no later than now and its spreads limited. -/
theorem failsClosed_and_evidenced_iff (repr : String → String) (ctx : LiveContext) :
    (∀ loss, ((LiveTradingGate.evaluate repr (ctx.without loss)).ready = true →
        (LiveTradingGate.evaluate repr ctx).ready = true) ↔ ¬ctx.Masked loss) ∧
      (((LiveTradingGate.evaluate repr ctx).ready = true → ctx.Evidenced) ↔
        (ctx.Acceptable → ctx.Covered)) := by
  refine ⟨fun loss => failsClosed_iff, ?_⟩
  rw [ready_iff, evidenced_iff]
  exact imp_congr_right fun acceptable => and_iff_right acceptable

end Losses

def engagedContext : LiveContext where
  settings := some ⟨some "production", some "live", true, confirmationPhrase, []⟩
  now := 0
  allowlist := ⟨{"900123"}⟩
  expectedAccountId := some "900123"
  expectedServer := some "RealBroker-Live"
  connectedAccount := some {
    accountId := "900123", server := "RealBroker-Live", accountType := "REAL",
    equity := some 10000, freeMargin := some 9500, tradeAllowed := some true }
  adapterMode := some "live"
  symbols := [{
    internal := "EURUSD", venueSymbol := some "EURUSD", bid := some 1, ask := some 1,
    quotedAt := some (-2000000), marketOpen := some true, maxSpread := some 1 }]
  strategies := [{
    strategyId := "s1", versionId := "v1", status := "approved", fingerprint := some "abc123",
    hasStop := true, hasTarget := true }]
  capital := some fun _ => some 1
  killSwitchEngaged := some "global kill switch"
  fact f := some f.sound
  count _ := some 0

/-- A kill switch that is not read is one that is not engaged. -/
theorem not_forall_failsClosed : ¬∀ (repr : String → String) (ctx : LiveContext),
    (∀ loss, (LiveTradingGate.evaluate repr (ctx.without loss)).ready = true →
        (LiveTradingGate.evaluate repr ctx).ready = true) ∧
      ((LiveTradingGate.evaluate repr ctx).ready = true → ctx.Evidenced) := by
  intro claimed
  have closed := (claimed id engagedContext).1 .killSwitchEngaged
  have ready : (LiveTradingGate.evaluate id
      (engagedContext.without .killSwitchEngaged)).ready = true := by decide +kernel
  have refused : (LiveTradingGate.evaluate id engagedContext).ready = false := by decide +kernel
  rw [closed ready] at refused
  cases refused

end TradeResearch.Live
