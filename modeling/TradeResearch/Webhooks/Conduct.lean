import TradeResearch.Webhooks.World

/-!
# What one delivery does

The order of the statements of a delivery: it inserts an event and its signal and sets the one on
the other, or it inserts the event of a rejection, and nothing else. A standing is what a delivery
has inserted, with the key of which it has been told that it is accepted.

* `WebhookGateway.receive_conduct`: every delivery, whatever it is answered.
-/

namespace TradeResearch.Webhooks

open Dialogue

def Rejecting (key : Str) : Prop := lit "tv:rej:" <+: key

theorem Alert.not_rejecting {py : Runtime} {a : Alert} {key : Str}
    (named : a.idempotencyKey py = .ok key) : ¬Rejecting key := by
  have differ : ∀ rest : Str, ¬Rejecting ((lit "tv:id:" ++ rest).take 128) ∧
      ¬Rejecting ((lit "tv:fp:" ++ rest).take 128) := by
    intro rest
    constructor
    all_goals
      rintro ⟨t, same⟩
      have fourth := congrArg (fun s : Str => s[3]?) same
      simp [lit, ofChars] at fourth
      revert fourth
      decide
  unfold Alert.idempotencyKey at named
  by_cases given : a.hasId
  · rw [if_pos given] at named
    cases named
    exact (differ _).1
  · rw [if_neg given] at named
    cases printed : a.fingerprint py with
    | error e =>
      rw [printed] at named
      cases named
    | ok fingerprint =>
      rw [printed] at named
      cases named
      exact (differ _).2

theorem rejectionRow_rejecting {arrival : Arrival} {safe : Fields} {reason : Str}
    {strength : Strength} {key : Option Str} :
    Rejecting (rejectionRow arrival safe reason strength key).idempotencyKey := by
  cases key with
  | none => exact List.prefix_append _ _
  | some key =>
    exact List.prefix_append _ _

structure Linked (row : EventRow) (signal : SignalRow) : Prop where
  key : signal.signalKey = row.idempotencyKey
  event : signal.webhookEventId = row.id
  signal : row.signalId = some signal.id

structure Standing extends Pending where
  known : Option Str := none

def Standing.Bare (s : Standing) : Prop := s.events = [] ∧ s.signals = []

def told (known : Option Str) : (q : Question) → q.Answer → Option Str
  | .existing key, (row : Option EventRow) => if row.isSome then some key else known
  | .insertEvent row, (made : Bool) => if made then known else some row.idempotencyKey
  | .insertSignal row, (made : Bool) => if made then known else some row.signalKey
  | .mapping _, _ | .qualified _, _ | .symbol _, _ | .strategy _, _ | .version _ _, _ | .bots _, _
  | .link _ _, _ | .insertRejection _, _ => known

def Standing.May (s : Standing) : Question → Prop
  | .existing _ => s.Bare
  | .insertEvent row => s.Bare ∧ row.status = .accepted ∧ row.signalId = none ∧
      ¬Rejecting row.idempotencyKey
  | .insertSignal row => ∃ event, s.events = [event] ∧ s.signals = [] ∧ event.status = .accepted ∧
      row.webhookEventId = event.id ∧ row.signalKey = event.idempotencyKey
  | .link event signal => ∃ row signalRow, s.events = [row] ∧ s.signals = [signalRow] ∧
      row.id = event ∧ signalRow.id = signal ∧ row.status = .accepted
  | .insertRejection row => s.Bare ∧ row.status = .rejected ∧ row.signalId = none ∧
      Rejecting row.idempotencyKey
  | .mapping _ | .qualified _ | .symbol _ | .strategy _ | .version _ _ | .bots _ => True

def Question.IsLookup : Question → Prop
  | .mapping _ | .qualified _ | .symbol _ | .strategy _ | .version _ _ | .bots _ => True
  | .existing _ | .insertEvent _ | .insertSignal _ | .link _ _ | .insertRejection _ => False

def conduct (c : Option Config) : Surroundings Question Question.Answer Standing where
  may := Standing.May
  can _ q a := ∀ tables ∈ c, tables.Says q a
  next s q a := ⟨s.toPending.next q a, told s.known q a⟩

def lookups (c : Option Config) : Surroundings Question Question.Answer Unit where
  may _ q := q.IsLookup
  can _ q a := ∀ tables ∈ c, tables.Says q a
  next _ _ _ := ()

def Finds {α : Type} (c : Config) (x : Delivery (Except Str α)) : Prop :=
  Always (lookups (some c)) (fun _ r => ∃ v, r = .ok v) (fun _ _ => False) () x

def WebhookGateway.Valid (g : WebhookGateway) (py : Runtime) (c : Config) (payload : Fields)
    (arrival : Arrival) (key : Str) : Prop :=
  ∃ strength alert, g.admitted py payload arrival = .ok strength ∧
    visitedFields py payload + 1 ≤ py.nesting ∧
    g.read py (redactFields py g.secret payload) arrival.now = .ok alert ∧
    alert.idempotencyKey py = .ok key ∧ (∃ utc, alert.signalTime.utc = .ok utc) ∧
    Finds c (resolveSource py alert.ticker) ∧ Finds c (strategyVersionId py alert)

structure Ends (valid : Str → Prop) (s : Standing) (r : Result) : Prop where
  accepted : r.outcome = .accepted → ∃ row signal, s.events = [row] ∧ s.signals = [signal] ∧
    row.status = .accepted ∧ Linked row signal ∧ ¬Rejecting row.idempotencyKey
  duplicate : r.outcome = .duplicate → s.Bare
  rejected : r.outcome = .rejected → ∃ row, s.events = [row] ∧ s.signals = [] ∧
    row.status = .rejected ∧ row.signalId = none ∧ Rejecting row.idempotencyKey
  valid : ∀ key, valid key →
    (r.outcome = .accepted ∧ ∀ row ∈ s.events, row.idempotencyKey = key) ∨
      (r.outcome = .duplicate ∧ s.known = some key)

def Looks {α : Type} (c : Option Config) (raises : Prop) (x : Delivery α) : Prop :=
  Always (lookups c) (fun _ _ => True) (fun _ _ => raises) () x

theorem Looks.pure {α : Type} {a : α} : Looks c raises (pure a : Delivery α) := True.intro

theorem Looks.put {q : Question} (lookup : q.IsLookup) : Looks c raises (put q) :=
  ⟨lookup, fun _ _ => True.intro⟩

theorem Looks.bind {α β : Type} {x : Delivery α} {f : α → Delivery β} (first : Looks c raises x)
    (rest : ∀ a, Looks c raises (f a)) : Looks c raises (x >>= f) :=
  always_bind.mpr (first.mono (fun _ a _ => rest a) fun _ _ held => held)

theorem finish_looks {mapping : Mapping} {shown : Str} : Looks c raises (finish mapping shown) := by
  unfold finish
  by_cases inactive : (!mapping.isActive) = true
  · rw [if_pos inactive]
    exact Looks.pure
  · rw [if_neg inactive]
    refine Looks.bind (Looks.put True.intro) fun symbol => ?_
    cases symbol with
    | none => exact Looks.pure
    | some symbol =>
      by_cases inactive : (!symbol.isActive) = true
      · simp only [inactive]
        exact Looks.pure
      · simp only [inactive]
        exact Looks.pure

theorem resolveQualified_looks {py : Runtime} {raw : Str} : Looks c raises
    (resolveQualified py raw) := by
  unfold resolveQualified
  by_cases exchange : colon ∈ raw
  · rw [if_pos exchange]
    exact Looks.pure
  · rw [if_neg exchange]
    refine Looks.bind (Looks.put True.intro) fun (qualified : List Mapping) => ?_
    cases (qualified.map Mapping.symbolId).dedup with
    | nil => exact Looks.pure
    | cons id ids =>
      cases ids with
      | cons _ _ => exact Looks.pure
      | nil =>
        cases found : qualified.reverse.find? fun m => m.symbolId = id with
        | none =>
          simp only [found]
          exact Looks.pure
        | some mapping =>
          simp only [found]
          exact finish_looks

theorem resolveExact_looks {py : Runtime} {raw : Str} {candidates : List Str} :
    Looks c raises (resolveExact py raw candidates) := by
  induction candidates with
  | nil => exact resolveQualified_looks
  | cons candidate rest ih =>
    refine Looks.bind (Looks.put True.intro) fun (mapping : Option Mapping) => ?_
    cases mapping with
    | none => exact ih
    | some mapping => exact finish_looks

theorem resolveSource_looks {py : Runtime} {ticker : Str} : Looks c raises
    (resolveSource py ticker) := by
  unfold resolveSource
  by_cases empty : py.upper (strip ticker) = []
  · simp only [if_pos empty]
    exact Looks.pure
  · simp only [if_neg empty]
    by_cases long : maxProviderSymbol < (py.upper (strip ticker)).length
    · rw [if_pos long]
      exact Looks.pure
    · rw [if_neg long]
      exact resolveExact_looks

theorem strategyVersionId_looks {py : Runtime} {alert : Alert} :
    Looks c True (strategyVersionId py alert) := by
  unfold strategyVersionId
  by_cases unnamed : alert.strategy.getD [] = []
  · simp only [if_pos unnamed]
    exact Looks.pure
  · simp only [if_neg unnamed]
    refine Looks.bind (Looks.put True.intro) fun (strategy : Option Str) => ?_
    cases strategy with
    | none => exact Looks.pure
    | some strategy =>
      by_cases word : alert.strategyVersion.getD [] ≠ [] ∧
          ¬py.isDigit (alert.strategyVersion.getD [])
      · simp only [if_pos word]
        exact Looks.pure
      · simp only [if_neg word]
        by_cases number : alert.strategyVersion.getD [] ≠ [] ∧
            py.int (alert.strategyVersion.getD []) = none
        · simp only [if_pos number]
          exact True.intro
        · simp only [if_neg number]
          refine Looks.bind (Looks.put True.intro) fun (version : Option Str) => ?_
          cases version with
          | none | some version => exact Looks.pure

theorem routeFor_looks {version : Option Str} {mode : Mode} : Looks c raises
    (routeFor version mode) := by
  unfold routeFor
  cases version.filter fun v => decide (v ≠ []) with
  | none => exact Looks.pure
  | some version => exact Looks.bind (Looks.put True.intro) fun _ => Looks.pure

section Whole

variable {c : Option Config} {s : Standing}

theorem lookups_stay {q : Question} (lookup : (lookups c).may () q) :
    (conduct c).may s q ∧ ∀ a, (conduct c).can s q a →
      (lookups c).can () q a ∧ (conduct c).next s q a = s := by
  cases q with
  | mapping | qualified | symbol | strategy | version | bots =>
    exact ⟨True.intro, fun a can => ⟨can, rfl⟩⟩
  | existing | insertEvent | insertSignal | link | insertRejection => exact lookup.elim

theorem Looks.stays {α : Type} {raises : Prop} {x : Delivery α} (looks : Looks c raises x) :
    Always (conduct c) (fun s' _ => s' = s) (fun _ _ => raises) s x :=
  (Always.frame looks fun _ => lookups_stay).mono (fun _ _ held => held.1) fun _ _ held => held.2

theorem found {α : Type} {x : Delivery (Except Str α)} (looks : Looks c True x) {valid : Prop}
    (finds : valid → ∃ tables, c = some tables ∧ Finds tables x) :
    Always (conduct c) (fun s' r => s' = s ∧ (valid → ∃ v, r = .ok v)) (fun _ _ => ¬valid) s x := by
  by_cases here : valid
  · obtain ⟨tables, rfl, finding⟩ := finds here
    refine (Always.frame finding fun _ => lookups_stay).mono (fun _ _ held => ?_) fun _ _ held => ?_
    · exact ⟨held.1, fun _ => held.2⟩
    · exact held.2.elim
  · refine (looks.stays (s := s)).mono (fun _ _ held => ?_) fun _ _ _ => here
    exact ⟨held, fun is => absurd is here⟩

variable {py : Runtime} {valid : Str → Prop}

theorem Ends.duplicateOf {row : Option EventRow} (bare : s.Bare)
    (known : ∀ key, valid key → s.known = some key) : Ends valid s (duplicateOf row) where
  accepted := fun other => nomatch other
  duplicate := fun _ => bare
  rejected := fun other => nomatch other
  valid := fun key is => .inr ⟨rfl, known key is⟩

theorem recordRejection_conduct {arrival : Arrival} {safe : Fields} {reason : Str}
    {strength : Strength} {key : Option Str} (bare : s.Bare) (invalid : ∀ key, ¬valid key) :
    Always (conduct c) (Ends valid) (fun _ _ => ∀ key, ¬valid key) s
      (recordRejection arrival safe reason strength key) := by
  refine ⟨⟨bare, rfl, rfl, rejectionRow_rejecting⟩, fun (made : Bool) _ => ?_⟩
  cases made with
  | true =>
    refine {
      accepted := fun other => nomatch other
      duplicate := fun other => nomatch other
      rejected := fun _ => ⟨rejectionRow arrival safe reason strength key, ?_, bare.2, rfl, rfl,
        rejectionRow_rejecting⟩
      valid := fun key is => absurd is (invalid key) }
    show s.events ++ [_] = [_]
    rw [bare.1, List.nil_append]
  | false =>
    exact {
      accepted := fun other => nomatch other
      duplicate := fun _ => ⟨rfl, rfl⟩
      rejected := fun other => nomatch other
      valid := fun key is => absurd is (invalid key) }

theorem existing_conduct {key : Str} (bare : s.Bare)
    (known : ∀ other, valid other → s.known = some other ∧ other = key) :
    Always (conduct c) (Ends valid) (fun _ _ => ∀ key, ¬valid key) s
      (Ask.existing key >>= fun row => pure (duplicateOf row)) := by
  refine ⟨bare, fun (row : Option EventRow) _ => Ends.duplicateOf bare fun other is => ?_⟩
  obtain ⟨knows, same⟩ := known other is
  cases row with
  | none => exact knows
  | some row => exact congrArg some same.symm

namespace WebhookGateway

variable {g : WebhookGateway} {arrival : Arrival} {safe : Fields} {strength : Strength} {key : Str}

theorem recordSignal_conduct {symbol : SymbolRow} {version : Option Str}
    (inserted : s.events = [eventRow arrival safe strength key]) (bare : s.signals = [])
    (fresh : ¬Rejecting key) (only : ∀ other, valid other → other = key)
    (stored : ∀ other, valid other → ∃ utc, alert.signalTime.utc = .ok utc) :
    Always (conduct c) (Ends valid) (fun _ _ => ∀ key, ¬valid key) s
      (g.recordSignal arrival strength key alert symbol version) := by
  have routed : Looks c False (routeFor version g.mode) := routeFor_looks
  refine always_bind.mpr (routed.stays.mono (fun s' routing stayed => ?_) fun _ _ => False.elim)
  subst stayed
  cases time : alert.signalTime.utc with
  | error e =>
    intro other is
    obtain ⟨t, ok⟩ := stored other is
    rw [time] at ok
    cases ok
  | ok utc =>
    refine ⟨⟨_, inserted, bare, rfl, rfl, rfl⟩, fun (made : Bool) _ => ?_⟩
    cases made with
    | false =>
      refine existing_conduct ⟨rfl, rfl⟩ fun other is => ?_
      rw [only other is]
      exact ⟨rfl, rfl⟩
    | true =>
      let row := eventRow arrival safe strength key
      let signal := g.signalRow arrival strength key alert symbol version routing utc
      have signals : s'.signals ++ [signal] = [signal] := by
        rw [bare, List.nil_append]
      refine ⟨⟨row, signal, inserted, signals, rfl, rfl, rfl⟩, fun _ _ => ?_⟩
      have linked : (s'.events.map fun row =>
          if row.id = arrival.eventId then { row with signalId := some arrival.signalId }
          else row) =
          [{ row with signalId := some arrival.signalId }] := by
        rw [inserted, List.map_singleton]
        exact congrArg (fun row => [row]) (if_pos rfl)
      refine {
        accepted := fun _ => ⟨_, signal, linked, signals, rfl, ⟨rfl, rfl, rfl⟩, fresh⟩
        duplicate := fun other => nomatch other
        rejected := fun other => nomatch other
        valid := fun other is => .inl ⟨rfl, fun row' mem => ?_⟩ }
      have here : row' ∈ s'.events.map fun row =>
          if row.id = arrival.eventId then { row with signalId := some arrival.signalId }
          else row :=
        mem
      rw [linked] at here
      rw [List.mem_singleton.mp here]
      exact (only other is).symm

theorem record_conduct {symbol : SymbolRow} {version : Option Str} (bare : s.Bare)
    (named : alert.idempotencyKey py = .ok key) (only : ∀ other, valid other → other = key)
    (stored : ∀ other, valid other → ∃ utc, alert.signalTime.utc = .ok utc) :
    Always (conduct c) (Ends valid) (fun _ _ => ∀ key, ¬valid key) s
      (g.record arrival safe strength key alert symbol version) := by
  have fresh : ¬Rejecting key := Alert.not_rejecting named
  refine ⟨⟨bare, rfl, rfl, fresh⟩, fun (made : Bool) _ => ?_⟩
  cases made with
  | false =>
    refine existing_conduct bare fun other is => ?_
    rw [only other is]
    exact ⟨rfl, rfl⟩
  | true =>
    have inserted : s.events ++ [eventRow arrival safe strength key] =
        [eventRow arrival safe strength key] := by
      rw [bare.1, List.nil_append]
    exact recordSignal_conduct inserted bare.2 fresh only stored

theorem deliver_conduct (bare : s.Bare) (named : alert.idempotencyKey py = .ok key)
    (only : ∀ other, valid other → other = key)
    (stored : ∀ other, valid other → ∃ utc, alert.signalTime.utc = .ok utc)
    (mapped : ∀ other, valid other →
      ∃ tables, c = some tables ∧ Finds tables (resolveSource py alert.ticker))
    (registered : ∀ other, valid other →
      ∃ tables, c = some tables ∧ Finds tables (strategyVersionId py alert)) :
    Always (conduct c) (Ends valid) (fun _ _ => ∀ key, ¬valid key) s
      (g.deliver py arrival safe strength alert key) := by
  refine ⟨bare, fun (row : Option EventRow) _ => ?_⟩
  cases row with
  | some row =>
    refine Ends.duplicateOf bare fun other is => ?_
    rw [only other is]
    rfl
  | none =>
    change Always _ _ _ _ (resolveSource py alert.ticker >>= _)
    refine always_bind.mpr ((found resolveSource_looks
      fun is : (∃ other, valid other) => is.elim mapped).mono ?_ ?_)
    · rintro s' resolved ⟨rfl, finds⟩
      cases resolved with
      | error reason =>
        refine recordRejection_conduct bare fun other is => ?_
        obtain ⟨symbol, ok⟩ := finds ⟨other, is⟩
        cases ok
      | ok symbol =>
        refine always_bind.mpr ((found strategyVersionId_looks
          fun is : (∃ other, valid other) => is.elim registered).mono ?_ ?_)
        · rintro s' version ⟨rfl, finds⟩
          cases version with
          | error reason =>
            refine recordRejection_conduct bare fun other is => ?_
            obtain ⟨version, ok⟩ := finds ⟨other, is⟩
            cases ok
          | ok version => exact record_conduct bare named only stored
        · exact fun _ _ none other is => none ⟨other, is⟩
    · exact fun _ _ none other is => none ⟨other, is⟩

theorem receive_conduct {payload : Fields} (bare : s.Bare) :
    Always (conduct c) (Ends fun key => ∃ tables, c = some tables ∧
        g.Valid py tables payload arrival key)
      (fun _ _ => ∀ key, ¬∃ tables, c = some tables ∧ g.Valid py tables payload arrival key) s
      (g.receive py payload arrival) := by
  unfold receive
  cases let_in : g.admitted py payload arrival with
  | error e =>
    rintro key ⟨tables, -, strength, alert, ok, -⟩
    rw [let_in] at ok
    cases ok
  | ok strength =>
    by_cases deep : py.nesting < visitedFields py payload + 1
    · simp only [if_pos deep]
      rintro key ⟨tables, -, strength, alert, -, flat, -⟩
      omega
    · simp only [if_neg deep]
      unfold intake
      cases reading : g.read py (redactFields py g.secret payload) arrival.now with
      | error e =>
        have invalid : ∀ key, ¬∃ tables, c = some tables ∧
            g.Valid py tables payload arrival key := by
          rintro key ⟨tables, -, strength, alert, -, -, ok, -⟩
          rw [reading] at ok
          cases ok
        cases e with
        | payload reason => exact recordRejection_conduct bare invalid
        | _ => exact invalid
      | ok alert =>
        cases named : alert.idempotencyKey py with
        | error e =>
          simp only [named]
          rintro key ⟨tables, -, strength, other, -, -, ok, name, -⟩
          rw [reading] at ok
          cases ok
          rw [named] at name
          cases name
        | ok key =>
          have same : ∀ other, (∃ tables, c = some tables ∧
              g.Valid py tables payload arrival other) → other = key ∧
              (∃ utc, alert.signalTime.utc = .ok utc) ∧ ∃ tables, c = some tables ∧
                Finds tables (resolveSource py alert.ticker) ∧
                Finds tables (strategyVersionId py alert) := by
            rintro other ⟨tables, here, strength, alert', -, -, ok, name, stored, mapped,
              registered⟩
            rw [reading] at ok
            cases ok
            rw [named] at name
            cases name
            exact ⟨rfl, stored, tables, here, mapped, registered⟩
          simp only [named]
          refine deliver_conduct bare named (fun other is => (same other is).1)
            (fun other is => (same other is).2.1) (fun other is => ?_) (fun other is => ?_)
          · obtain ⟨-, -, tables, here, mapped, -⟩ := same other is
            exact ⟨tables, here, mapped⟩
          · obtain ⟨-, -, tables, here, -, registered⟩ := same other is
            exact ⟨tables, here, registered⟩

end WebhookGateway

end Whole

end TradeResearch.Webhooks
