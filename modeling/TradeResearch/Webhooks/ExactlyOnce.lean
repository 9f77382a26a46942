import TradeResearch.Webhooks.Conduct

/-!
# Exactly once

What every run of deliveries keeps: one signal of one accepted event under each key, whatever the
order in which the deliveries take their steps.

* `World.Inv`: the invariant.
* `World.Inv.step`: every event keeps it.
* `World.exactly_once`: what it comes to.
-/

namespace TradeResearch.Webhooks

open Dialogue

def EventRow.Kind (row : EventRow) : Prop :=
  row.status = .accepted ∧ ¬Rejecting row.idempotencyKey ∨
    row.status = .rejected ∧ row.signalId = none ∧ Rejecting row.idempotencyKey

def Accepted (events : List EventRow) (key : Str) : Prop :=
  ∃ row ∈ events, row.status = .accepted ∧ row.idempotencyKey = key

namespace Session

variable (s : Session)

def Agrees (c : Option Config) : Prop := ∀ tables ∈ c, ∀ h ∈ s.heard, tables.Says h.1 h.2

def ValidAs (py : Runtime) (g : WebhookGateway) (c : Option Config) (key : Str) : Prop :=
  ∃ tables, c = some tables ∧ g.Valid py tables s.payload s.arrival key

def Follows (py : Runtime) (g : WebhookGateway) (events : List EventRow) : Prop :=
  ∀ c, s.Agrees c → ∃ known, (∀ key ∈ known, Accepted events key) ∧
    Always (conduct c) (Ends (s.ValidAs py g c)) (fun _ _ => ∀ key, ¬s.ValidAs py g c key)
      ⟨s.pending, known⟩ s.rest

end Session

structure Session.Sound (py : Runtime) (g : WebhookGateway) (events : List EventRow) (s : Session) :
    Prop where
  idle : s.fate ≠ .running → s.pending = {}
  follows : s.fate = .running → s.Follows py g events
  done : s.fate = .committed → ∀ tables, s.Agrees (some tables) →
    ∀ key, g.Valid py tables s.payload s.arrival key → Accepted events key
  kinds : ∀ row ∈ s.pending.events, row.Kind
  signed : ∀ signal ∈ s.pending.signals,
    ∃ row ∈ s.pending.events, row.idempotencyKey = signal.signalKey
  fresh : ∀ row ∈ s.pending.events, ∀ old ∈ events, row.idempotencyKey ≠ old.idempotencyKey

def Apart (s t : Session) : Prop :=
  ∀ row ∈ s.pending.events, ∀ row' ∈ t.pending.events, row.idempotencyKey ≠ row'.idempotencyKey

structure World.Inv (py : Runtime) (g : WebhookGateway) (w : World) : Prop where
  events_nodup : (w.events.map EventRow.idempotencyKey).Nodup
  signals_nodup : (w.signals.map SignalRow.signalKey).Nodup
  kinds : ∀ row ∈ w.events, row.Kind
  signed : ∀ row ∈ w.events, row.status = .accepted → ∃ signal ∈ w.signals, Linked row signal
  founded : ∀ signal ∈ w.signals, ∃ row ∈ w.events, row.status = .accepted ∧ Linked row signal
  sessions : ∀ s ∈ w.sessions, s.Sound py g w.events
  apart : ∀ (i j : ℕ) (s t : Session), i ≠ j → w.sessions[i]? = some s →
    w.sessions[j]? = some t → Apart s t

theorem Session.follows_receive {py : Runtime} {g : WebhookGateway} {payload : Fields}
    {arrival : Arrival} {events : List EventRow} :
    Session.Follows { payload, arrival, rest := g.receive py payload arrival } py g events := by
  intro c _
  refine ⟨none, (fun _ known => nomatch known), ?_⟩
  have bare : Standing.Bare ⟨{}, none⟩ := ⟨rfl, rfl⟩
  exact WebhookGateway.receive_conduct bare

theorem EventRow.Kind.accepted_of {row : EventRow} (kind : row.Kind)
    (own : ¬Rejecting row.idempotencyKey) : row.status = .accepted := by
  rcases kind with ⟨accepted, -⟩ | ⟨-, -, rejecting⟩
  · exact accepted
  · exact absurd rejecting own

theorem EventRow.Kind.signal_none {row : EventRow} (kind : row.Kind)
    (other : row.status ≠ .accepted) : row.signalId = none := by
  rcases kind with ⟨accepted, -⟩ | ⟨-, none, -⟩
  · exact absurd accepted other
  · exact none

theorem Ends.rows {valid : Str → Prop} {s : Standing} {r : Result} (ends : Ends valid s r) :
    (s.events.map EventRow.idempotencyKey).Nodup ∧ (s.signals.map SignalRow.signalKey).Nodup ∧
      (∀ row ∈ s.events, row.status = .accepted → ∃ signal ∈ s.signals, Linked row signal) ∧
      ∀ signal ∈ s.signals, ∃ row ∈ s.events, row.status = .accepted ∧ Linked row signal := by
  cases outcome : r.outcome with
  | accepted =>
    obtain ⟨row, signal, events, signals, accepted, linked, -⟩ := ends.accepted outcome
    simp only [events, signals, List.map_cons, List.map_nil, List.mem_singleton, forall_eq,
      exists_eq_left]
    exact ⟨List.pairwise_singleton .., List.pairwise_singleton .., fun _ => linked, accepted,
      linked⟩
  | duplicate =>
    obtain ⟨events, signals⟩ := ends.duplicate outcome
    simp [events, signals]
  | rejected =>
    obtain ⟨row, events, signals, rejected, -⟩ := ends.rejected outcome
    simp [events, signals, rejected]

namespace World

variable {py : Runtime} {g : WebhookGateway} {w : World} {i : ℕ} {p : Pending} {s : Session}

theorem eventHeld_eq_false {key : Str} (free : w.eventHeld i key = false) {j : ℕ} {t : Session}
    (other : j ≠ i) (here : w.sessions[j]? = some t) :
    ∀ row ∈ t.pending.events, row.idempotencyKey ≠ key := by
  intro row mem same
  have held : w.eventHeld i key = true := by
    unfold eventHeld
    rw [List.any_eq_true]
    refine ⟨t, List.mem_eraseIdx_iff_getElem?.mpr ⟨j, other, here⟩, ?_⟩
    rw [List.any_eq_true]
    exact ⟨row, mem, decide_eq_true same⟩
  rw [free] at held
  cases held

theorem answer_insert {row : EventRow} {made : Bool}
    (answered : (if w.eventHeld i row.idempotencyKey then none
      else some (!(w.events ++ p.events).any (·.idempotencyKey = row.idempotencyKey)))
        = some made) :
    w.eventHeld i row.idempotencyKey = false ∧
      (made = false ↔ ∃ old ∈ w.events ++ p.events, old.idempotencyKey = row.idempotencyKey) := by
  cases held : w.eventHeld i row.idempotencyKey with
  | true =>
    rw [held, if_pos rfl] at answered
    cases answered
  | false =>
    rw [held, if_neg Bool.false_ne_true, Option.some.injEq] at answered
    refine ⟨rfl, ?_⟩
    rw [← answered, Bool.not_eq_false', List.any_eq_true]
    simp only [decide_eq_true_eq]

variable {q : Question} {a : q.Answer} {known : Option Str}

theorem next_event (may : Standing.May ⟨p, known⟩ q) (answered : w.answer i p q = some a)
    {row : EventRow} (mem : row ∈ (p.next q a).events) :
    (∃ old ∈ p.events, old.idempotencyKey = row.idempotencyKey ∧ (old.Kind → row.Kind)) ∨
      row.Kind ∧ w.eventHeld i row.idempotencyKey = false ∧
        ∀ old ∈ w.events, row.idempotencyKey ≠ old.idempotencyKey := by
  -- an inserted row has a key that is neither held nor taken
  have inserted : ∀ {new : EventRow} {made : Bool}, new.Kind →
      (if w.eventHeld i new.idempotencyKey then none
        else some (!(w.events ++ p.events).any (·.idempotencyKey = new.idempotencyKey))) =
          some made → made = true → new.Kind ∧ w.eventHeld i new.idempotencyKey = false ∧
            ∀ old ∈ w.events, new.idempotencyKey ≠ old.idempotencyKey := by
    rintro new made kind answered rfl
    obtain ⟨free, taken⟩ := answer_insert answered
    refine ⟨kind, free, fun old mem same => ?_⟩
    have : true = false := taken.mpr ⟨old, List.mem_append_left _ mem, same.symm⟩
    cases this
  have kept : row ∈ p.events →
      ∃ old ∈ p.events, old.idempotencyKey = row.idempotencyKey ∧ (old.Kind → row.Kind) :=
    fun mem => ⟨row, mem, rfl, id⟩
  cases q with
  | existing | mapping | qualified | symbol | strategy | version | bots => exact .inl (kept mem)
  | insertEvent new =>
    obtain ⟨-, accepted, -, own⟩ := may
    cases made : (a : Bool) with
    | false =>
      subst made
      exact .inl (kept mem)
    | true =>
      subst made
      rcases List.mem_append.mp mem with old | last
      · exact .inl (kept old)
      · rw [List.mem_singleton.mp last]
        exact .inr (inserted (.inl ⟨accepted, own⟩) answered rfl)
  | insertRejection new =>
    obtain ⟨-, rejected, none, rejecting⟩ := may
    cases made : (a : Bool) with
    | false =>
      subst made
      cases mem
    | true =>
      subst made
      rcases List.mem_append.mp mem with old | last
      · exact .inl (kept old)
      · rw [List.mem_singleton.mp last]
        exact .inr (inserted (.inr ⟨rejected, none, rejecting⟩) answered rfl)
  | insertSignal new =>
    cases made : (a : Bool) with
    | false =>
      subst made
      cases mem
    | true =>
      subst made
      exact .inl (kept mem)
  | link event signal =>
    obtain ⟨first, signalRow, events, -, -, -, accepted⟩ := may
    obtain ⟨old, here, rfl⟩ := List.mem_map.mp mem
    refine .inl ⟨old, here, ?_, fun kind => ?_⟩
    · by_cases same : old.id = event
      · rw [if_pos same]
      · rw [if_neg same]
    · have only : old = first := by
        have : old ∈ [first] := events ▸ here
        exact List.mem_singleton.mp this
      by_cases same : old.id = event
      · rw [if_pos same]
        rcases kind with own | ⟨rejected, -⟩
        · exact .inl own
        · rw [only, accepted] at rejected
          cases rejected
      · rw [if_neg same]
        exact kind

theorem next_signal (may : Standing.May ⟨p, known⟩ q)
    (before : ∀ signal ∈ p.signals, ∃ row ∈ p.events, row.idempotencyKey = signal.signalKey) :
    ∀ signal ∈ (p.next q a).signals,
      ∃ row ∈ (p.next q a).events, row.idempotencyKey = signal.signalKey := by
  intro signal mem
  have kept : ∀ {new : EventRow}, signal ∈ p.signals →
      ∃ row ∈ p.events ++ [new], row.idempotencyKey = signal.signalKey := fun {new} mem => by
    obtain ⟨row, here, same⟩ := before signal mem
    exact ⟨row, List.mem_append_left _ here, same⟩
  cases q with
  | existing | mapping | qualified | symbol | strategy | version | bots => exact before signal mem
  | insertEvent new =>
    cases made : (a : Bool) with
    | false =>
      subst made
      exact before signal mem
    | true =>
      subst made
      exact kept mem
  | insertRejection new =>
    cases made : (a : Bool) with
    | false =>
      subst made
      cases mem
    | true =>
      subst made
      exact kept mem
  | insertSignal new =>
    obtain ⟨event, events, -, -, -, same⟩ := may
    cases made : (a : Bool) with
    | false =>
      subst made
      cases mem
    | true =>
      subst made
      rcases List.mem_append.mp mem with old | last
      · exact before signal old
      · refine ⟨event, ?_, ?_⟩
        · show event ∈ p.events
          rw [show p.events = [event] from events]
          exact List.mem_singleton_self event
        · rw [List.mem_singleton.mp last]
          exact same.symm
  | link event signalId =>
    obtain ⟨row, here, same⟩ := before signal mem
    refine ⟨_, List.mem_map_of_mem here, ?_⟩
    by_cases it : row.id = event
    · simp only [if_pos it]
      exact same
    · simp only [if_neg it]
      exact same

theorem told_accepted (inv : w.Inv py g) (may : Standing.May ⟨p, known⟩ q)
    (answered : w.answer i p q = some a) (before : ∀ key ∈ known, Accepted w.events key) :
    ∀ key ∈ told known q a, Accepted w.events key := by
  cases q with
  | mapping | qualified | symbol | strategy | version | bots | link | insertRejection =>
    exact before
  | existing key =>
    obtain ⟨events, -⟩ := may
    have found : (w.events ++ p.events).find? (fun row =>
        row.idempotencyKey = key ∧ row.status = .accepted) = a := Option.some.inj answered
    rw [show p.events = [] from events, List.append_nil] at found
    cases a with
    | none => exact before
    | some row =>
      intro other same
      cases same
      have holds := List.find?_some found
      simp only [decide_eq_true_eq] at holds
      exact ⟨row, List.mem_of_find?_eq_some found, holds.2, holds.1⟩
  | insertEvent row =>
    obtain ⟨⟨events, -⟩, -, -, own⟩ := may
    obtain ⟨-, taken⟩ := answer_insert answered
    cases made : (a : Bool) with
    | true =>
      exact before
    | false =>
      obtain ⟨old, mem, same⟩ := taken.mp made
      rw [show p.events = [] from events, List.append_nil] at mem
      intro other here
      cases here
      have kind := (inv.kinds old mem).accepted_of (same ▸ own)
      exact ⟨old, mem, kind, same⟩
  | insertSignal row =>
    obtain ⟨event, -, signals, -⟩ := may
    cases made : (a : Bool) with
    | true =>
      exact before
    | false =>
      subst made
      intro other here
      cases here
      by_cases held : w.signalHeld i row.signalKey = true
      · have waits : (none : Option Bool) = some false := (if_pos held).symm.trans answered
        cases waits
      · have asked : some (!(w.signals ++ p.signals).any (·.signalKey = row.signalKey)) =
            some false := (if_neg held).symm.trans answered
        rw [show p.signals = [] from signals, List.append_nil, Option.some.injEq,
          Bool.not_eq_false', List.any_eq_true] at asked
        obtain ⟨old, mem, same⟩ := asked
        obtain ⟨event, here, accepted, linked⟩ := inv.founded old mem
        exact ⟨event, here, accepted, linked.key.symm.trans (of_decide_eq_true same)⟩

theorem running_eq_some (under_way : w.running i = some s) :
    w.sessions[i]? = some s ∧ s.fate = .running := by
  unfold running at under_way
  rw [Option.filter_eq_some_iff] at under_way
  exact ⟨under_way.1, of_decide_eq_true under_way.2⟩

theorem Inv.sound (inv : w.Inv py g) (here : w.sessions[i]? = some s) : s.Sound py g w.events :=
  inv.sessions s (List.mem_of_getElem? here)

theorem apart_set (apart : ∀ (i j : ℕ) (s t : Session), i ≠ j → w.sessions[i]? = some s →
      w.sessions[j]? = some t → Apart s t) {s' : Session}
    (new : ∀ (j : ℕ) (t : Session), j ≠ i → w.sessions[j]? = some t →
      Apart s' t) (m j : ℕ) (t u : Session)
    (differ : m ≠ j) (first : (w.sessions.set i s')[m]? = some t)
    (second : (w.sessions.set i s')[j]? = some u) : Apart t u := by
  rw [List.getElem?_set] at first second
  by_cases at_first : i = m
  · have elsewhere : ¬i = j := fun same => differ (at_first.symm.trans same)
    rw [if_neg elsewhere] at second
    rw [if_pos at_first] at first
    by_cases long : i < w.sessions.length
    · rw [if_pos long] at first
      cases first
      exact new j u (Ne.symm elsewhere) second
    · rw [if_neg long] at first
      cases first
  · rw [if_neg at_first] at first
    by_cases at_second : i = j
    · rw [if_pos at_second] at second
      by_cases long : i < w.sessions.length
      · rw [if_pos long] at second
        cases second
        exact fun row mem row' mem' => (new m t (Ne.symm at_first) first row' mem' row mem).symm
      · rw [if_neg long] at second
        cases second
    · rw [if_neg at_second] at second
      exact apart m j t u differ first second

theorem Inv.set (inv : w.Inv py g) {s' : Session} (sound : s'.Sound py g w.events)
    (new : ∀ (j : ℕ) (t : Session), j ≠ i → w.sessions[j]? = some t → Apart s' t) :
    Inv py g { w with sessions := w.sessions.set i s' } where
  events_nodup := inv.events_nodup
  signals_nodup := inv.signals_nodup
  kinds := inv.kinds
  signed := inv.signed
  founded := inv.founded
  sessions := fun t mem => by
    rcases List.mem_or_eq_of_mem_set mem with old | same
    · exact inv.sessions t old
    · exact same ▸ sound
  apart := apart_set inv.apart new

theorem Inv.lose (inv : w.Inv py g) (bare : s.pending = {}) (lost : s.fate = .lost) :
    Inv py g { w with sessions := w.sessions.set i s } := by
  have none : ∀ row, row ∉ s.pending.events := fun row mem => by
    rw [bare] at mem
    cases mem
  refine inv.set {
    idle := fun _ => bare
    follows := fun other => ?_
    done := fun other => ?_
    kinds := fun row mem => absurd mem (none row)
    signed := fun signal mem => ?_
    fresh := fun row mem => absurd mem (none row) } fun _ _ _ _ row mem => absurd mem (none row)
  · rw [lost] at other
    cases other
  · rw [lost] at other
    cases other
  · rw [bare] at mem
    cases mem

theorem Inv.arrive (inv : w.Inv py g) {payload : Fields} {arrival : Arrival} :
    Inv py g { w with
      sessions := w.sessions ++ [{ payload, arrival, rest := g.receive py payload arrival }] } where
  events_nodup := inv.events_nodup
  signals_nodup := inv.signals_nodup
  kinds := inv.kinds
  signed := inv.signed
  founded := inv.founded
  sessions := fun t mem => by
    rcases List.mem_append.mp mem with old | last
    · exact inv.sessions t old
    · rw [List.mem_singleton.mp last]
      exact {
        idle := fun other => absurd rfl other
        follows := fun _ => Session.follows_receive
        done := fun other => nomatch other
        kinds := fun _ mem => nomatch mem
        signed := fun _ mem => nomatch mem
        fresh := fun _ mem => nomatch mem }
  apart := by
    intro m j t u differ first second row mem row' mem'
    have old : ∀ {n : ℕ} {x : Session}, (w.sessions ++
        [{ payload, arrival, rest := g.receive py payload arrival }])[n]? = some x →
        ∀ row ∈ x.pending.events, w.sessions[n]? = some x := by
      intro n x here row mem
      rw [List.getElem?_append] at here
      by_cases short : n < w.sessions.length
      · rwa [if_pos short] at here
      · rw [if_neg short] at here
        have last := List.mem_singleton.mp (List.mem_of_getElem? here)
        rw [last] at mem
        cases mem
    exact inv.apart m j t u differ (old first row mem) (old second row' mem') row mem row' mem'

theorem Inv.go (inv : w.Inv py g) (here : w.sessions[i]? = some s) (running : s.fate = .running)
    {w' : World} (taken : w.go i s = some w') : w'.Inv py g := by
  unfold World.go at taken
  cases script : s.rest with
  | done _ | raised _ =>
    rw [script] at taken
    cases taken
  | ask q next =>
    rw [script] at taken
    obtain ⟨a, answered, rfl⟩ := Option.map_eq_some_iff.mp taken
    have sound := inv.sound here
    obtain ⟨known, accepted, always⟩ := sound.follows running none fun _ none => nomatch none
    rw [script] at always
    refine inv.set {
      idle := fun other => absurd running other
      follows := fun _ c agrees => ?_
      done := fun other => ?_
      kinds := fun row mem => ?_
      signed := next_signal always.1 sound.signed
      fresh := fun row mem old older => ?_ } fun j t differ there row mem row' mem' => ?_
    · have before : s.Agrees c := fun tables is h mem =>
        agrees tables is h (List.mem_append_left _ mem)
      have could : ∀ tables ∈ c, tables.Says q a := fun tables is =>
        agrees tables is ⟨q, a⟩ (List.mem_append_right _ (List.mem_singleton_self _))
      obtain ⟨known, accepted, always⟩ := sound.follows running c before
      rw [script] at always
      exact ⟨told known q a, told_accepted inv always.1 answered accepted, always.2 a could⟩
    · rw [show s.fate = .committed from other] at running
      cases running
    · rcases next_event always.1 answered mem with ⟨old, before, -, same⟩ | ⟨kind, -⟩
      · exact same (sound.kinds old before)
      · exact kind
    · rcases next_event always.1 answered mem with ⟨first, before, same, -⟩ | ⟨-, -, free⟩
      · rw [← same]
        exact sound.fresh first before old older
      · exact free old older
    · rcases next_event always.1 answered mem with ⟨first, before, same, -⟩ | ⟨-, free, -⟩
      · rw [← same]
        exact inv.apart i j s t (Ne.symm differ) here there first before row' mem'
      · exact (eventHeld_eq_false free differ there row' mem').symm

theorem done_accepted (sound : s.Sound py g w.events) (running : s.fate = .running) {r : Result}
    (script : s.rest = .done r) {tables : Config} (agrees : s.Agrees (some tables)) {key : Str}
    (valid : g.Valid py tables s.payload s.arrival key) :
    Accepted (w.events ++ s.pending.events) key := by
  obtain ⟨known, accepted, ends⟩ := sound.follows running (some tables) agrees
  rw [script] at ends
  rcases Ends.valid ends key ⟨tables, rfl, valid⟩ with ⟨outcome, same⟩ | ⟨-, knows⟩
  · obtain ⟨row, signal, events, -, status, -⟩ := Ends.accepted ends outcome
    have mem : row ∈ s.pending.events := by
      rw [show s.pending.events = [row] from events]
      exact List.mem_singleton_self row
    exact ⟨row, List.mem_append_right _ mem, status, same row mem⟩
  · obtain ⟨row, mem, holds⟩ := accepted key knows
    exact ⟨row, List.mem_append_left _ mem, holds⟩

theorem Inv.close (inv : w.Inv py g) (here : w.sessions[i]? = some s) (running : s.fate = .running)
    {w' : World} (taken : w.close i s = some w') : w'.Inv py g := by
  unfold World.close at taken
  have sound := inv.sound here
  cases script : s.rest with
  | ask _ _ =>
    rw [script] at taken
    cases taken
  | raised e =>
    rw [script] at taken
    rw [← Option.some.inj taken]
    exact inv.lose rfl rfl
  | done r =>
    rw [script] at taken
    cases taken
    obtain ⟨known, -, ends⟩ := sound.follows running none fun _ none => by cases none
    rw [script] at ends
    obtain ⟨events_nodup, signals_nodup, signed, founded⟩ := Ends.rows ends
    have still : ∀ {key : Str}, Accepted w.events key →
        Accepted (w.events ++ s.pending.events) key :=
      fun ⟨row, mem, holds⟩ => ⟨row, List.mem_append_left _ mem, holds⟩
    refine {
      events_nodup := ?_
      signals_nodup := ?_
      kinds := fun row mem => (List.mem_append.mp mem).elim (inv.kinds row) (sound.kinds row)
      signed := fun row mem accepted => ?_
      founded := fun signal mem => ?_
      sessions := fun t mem => ?_
      apart := apart_set inv.apart fun _ _ _ _ _ mem => nomatch mem }
    · rw [List.map_append, List.nodup_append]
      refine ⟨inv.events_nodup, events_nodup, fun key old key' new => ?_⟩
      obtain ⟨row, mem, rfl⟩ := List.mem_map.mp old
      obtain ⟨row', mem', rfl⟩ := List.mem_map.mp new
      exact (sound.fresh row' mem' row mem).symm
    · rw [List.map_append, List.nodup_append]
      refine ⟨inv.signals_nodup, signals_nodup, fun key old key' new => ?_⟩
      obtain ⟨signal, mem, rfl⟩ := List.mem_map.mp old
      obtain ⟨signal', mem', rfl⟩ := List.mem_map.mp new
      -- a committed signal has a committed event, and a pending one a pending event
      obtain ⟨row, here, -, linked⟩ := inv.founded signal mem
      obtain ⟨row', here', -, linked'⟩ := founded signal' mem'
      rw [linked.key, linked'.key]
      exact (sound.fresh row' here' row here).symm
    · rcases List.mem_append.mp mem with old | new
      · obtain ⟨signal, here, linked⟩ := inv.signed row old accepted
        exact ⟨signal, List.mem_append_left _ here, linked⟩
      · obtain ⟨signal, here, linked⟩ := signed row new accepted
        exact ⟨signal, List.mem_append_right _ here, linked⟩
    · rcases List.mem_append.mp mem with old | new
      · obtain ⟨row, here, linked⟩ := inv.founded signal old
        exact ⟨row, List.mem_append_left _ here, linked⟩
      · obtain ⟨row, here, linked⟩ := founded signal new
        exact ⟨row, List.mem_append_right _ here, linked⟩
    · obtain ⟨j, there⟩ := List.getElem?_of_mem mem
      rw [List.getElem?_set] at there
      by_cases same : i = j
      · rw [if_pos same] at there
        by_cases long : i < w.sessions.length
        · rw [if_pos long] at there
          cases there
          exact {
            idle := fun _ => rfl
            follows := fun other => nomatch other
            done := fun _ tables agrees key valid => done_accepted sound running script agrees valid
            kinds := fun _ mem => nomatch mem
            signed := fun _ mem => nomatch mem
            fresh := fun _ mem => nomatch mem }
        · rw [if_neg long] at there
          cases there
      · rw [if_neg same] at there
        have other := inv.sound there
        refine {
          idle := other.idle
          follows := fun is c agrees => ?_
          done := fun is tables agrees key valid => still (other.done is tables agrees key valid)
          kinds := other.kinds
          signed := other.signed
          fresh := fun row mem old older => ?_ }
        · obtain ⟨known, accepted, always⟩ := other.follows is c agrees
          exact ⟨known, fun key is => still (accepted key is), always⟩
        · rcases List.mem_append.mp older with committed | new
          · exact other.fresh row mem old committed
          · exact inv.apart j i t s (Ne.symm same) there here row mem old new

theorem Inv.step (inv : w.Inv py g) {e : Event} {w' : World} (taken : w.step py g e = some w') :
    w'.Inv py g := by
  cases e with
  | arrive payload arrival =>
    cases taken
    exact inv.arrive
  | configure config =>
    cases taken
    exact { inv with }
  | go i =>
    obtain ⟨s, under_way, gone⟩ := Option.bind_eq_some_iff.mp taken
    obtain ⟨here, running⟩ := running_eq_some under_way
    exact inv.go here running gone
  | close i =>
    obtain ⟨s, under_way, closed⟩ := Option.bind_eq_some_iff.mp taken
    obtain ⟨here, running⟩ := running_eq_some under_way
    exact inv.close here running closed
  | crash i =>
    obtain ⟨s, -, rfl⟩ := Option.map_eq_some_iff.mp taken
    exact inv.lose rfl rfl

theorem Inv.start {config : Config} : Inv py g { config } where
  events_nodup := List.nodup_nil
  signals_nodup := List.nodup_nil
  kinds := fun _ mem => nomatch mem
  signed := fun _ mem => nomatch mem
  founded := fun _ mem => nomatch mem
  sessions := fun _ mem => nomatch mem
  apart := fun _ _ _ _ _ here => nomatch here

def Settles (w w' : World) : Outcome → Prop
  | .accepted => ∃ row signal, w'.events = w.events ++ [row] ∧ w'.signals = w.signals ++ [signal] ∧
    row.status = .accepted ∧ Linked row signal
  | .duplicate => w'.events = w.events ∧ w'.signals = w.signals
  | .rejected => ∃ row, w'.events = w.events ++ [row] ∧ w'.signals = w.signals ∧
    row.status = .rejected

def Waits : Question → EventRow → Prop
  | .insertEvent new, row => row.idempotencyKey = new.idempotencyKey ∧ row.status = .accepted
  | .insertRejection new, row => row.idempotencyKey = new.idempotencyKey ∧ row.status = .rejected
  | .existing _, _ | .mapping _, _ | .qualified _, _ | .symbol _, _ | .strategy _, _
  | .version _ _, _ | .bots _, _ | .insertSignal _, _ | .link _ _, _ => False

theorem Inv.settles (inv : w.Inv py g) {e : Event} {w' : World}
    (taken : w.step py g e = some w') :
    (w'.events = w.events ∧ w'.signals = w.signals) ∨
      ∃ i s r, e = .close i ∧ w.running i = some s ∧ s.rest = .done r ∧ Settles w w' r.outcome := by
  cases e with
  | arrive | configure =>
    cases taken
    exact .inl ⟨rfl, rfl⟩
  | crash i =>
    obtain ⟨s, -, rfl⟩ := Option.map_eq_some_iff.mp taken
    exact .inl ⟨rfl, rfl⟩
  | go i =>
    obtain ⟨s, -, gone⟩ := Option.bind_eq_some_iff.mp taken
    unfold World.go at gone
    cases script : s.rest with
    | done _ | raised _ =>
      rw [script] at gone
      cases gone
    | ask q next =>
      rw [script] at gone
      obtain ⟨a, -, rfl⟩ := Option.map_eq_some_iff.mp gone
      exact .inl ⟨rfl, rfl⟩
  | close i =>
    obtain ⟨s, under_way, closed⟩ := Option.bind_eq_some_iff.mp taken
    obtain ⟨here, running⟩ := running_eq_some under_way
    unfold World.close at closed
    cases script : s.rest with
    | ask _ _ =>
      rw [script] at closed
      cases closed
    | raised e =>
      rw [script] at closed
      cases closed
      exact .inl ⟨rfl, rfl⟩
    | done r =>
      refine .inr ⟨i, s, r, rfl, under_way, script, ?_⟩
      obtain ⟨known, -, ends⟩ := (inv.sound here).follows running none fun _ none => by cases none
      rw [script] at ends closed
      cases closed
      cases outcome : r.outcome with
      | accepted =>
        obtain ⟨row, signal, events, signals, accepted, linked, -⟩ := Ends.accepted ends outcome
        exact ⟨row, signal, congrArg _ events, congrArg _ signals, accepted, linked⟩
      | duplicate =>
        obtain ⟨events, signals⟩ := Ends.duplicate ends outcome
        exact ⟨(congrArg _ events).trans (List.append_nil _),
          (congrArg _ signals).trans (List.append_nil _)⟩
      | rejected =>
        obtain ⟨row, events, signals, rejected, -⟩ := Ends.rejected ends outcome
        exact ⟨row, congrArg _ events, (congrArg _ signals).trans (List.append_nil _), rejected⟩

theorem exists_of_eventHeld (inv : w.Inv py g) {key : Str} (held : w.eventHeld i key = true) :
    ∃ j t row, j ≠ i ∧ w.running j = some t ∧ row ∈ t.pending.events ∧
      row.idempotencyKey = key := by
  unfold eventHeld at held
  rw [List.any_eq_true] at held
  obtain ⟨t, mem, any⟩ := held
  rw [List.any_eq_true] at any
  obtain ⟨row, here, same⟩ := any
  obtain ⟨j, other, there⟩ := List.mem_eraseIdx_iff_getElem?.mp mem
  refine ⟨j, t, row, other, ?_, here, of_decide_eq_true same⟩
  unfold running
  rw [there, Option.filter_eq_some_iff]
  refine ⟨rfl, decide_eq_true ?_⟩
  by_contra ended
  rw [(inv.sound there).idle ended] at here
  cases here

theorem waits_of_answer_none (inv : w.Inv py g) (under_way : w.running i = some s)
    {next : q.Answer → Delivery Result} (script : s.rest = .ask q next)
    (waiting : w.answer i s.pending q = none) :
    s.pending.events = [] ∧ ∃ j t row, j ≠ i ∧ w.running j = some t ∧ row ∈ t.pending.events ∧
      Waits q row := by
  obtain ⟨here, running⟩ := running_eq_some under_way
  have sound := inv.sound here
  obtain ⟨known, -, always⟩ := sound.follows running none fun _ none => by cases none
  rw [script] at always
  have may : Standing.May ⟨s.pending, known⟩ q := always.1
  have kind : ∀ {j : ℕ} {t : Session}, w.running j = some t → ∀ row ∈ t.pending.events, row.Kind :=
    fun there => (inv.sound (running_eq_some there).1).kinds
  cases q with
  | existing | mapping | qualified | symbol | strategy | version | bots | link => cases waiting
  | insertEvent new =>
    obtain ⟨⟨events, -⟩, -, -, own⟩ := may
    cases held : w.eventHeld i new.idempotencyKey with
    | false =>
      have answered := (if_neg (by rw [held]; exact Bool.false_ne_true)).symm.trans waiting
      cases answered
    | true =>
      obtain ⟨j, t, row, other, there, mem, same⟩ := exists_of_eventHeld inv held
      have accepted := (kind there row mem).accepted_of (same ▸ own)
      exact ⟨events, j, t, row, other, there, mem, same, accepted⟩
  | insertRejection new =>
    obtain ⟨⟨events, -⟩, -, -, rejecting⟩ := may
    cases held : w.eventHeld i new.idempotencyKey with
    | false =>
      have answered := (if_neg (by rw [held]; exact Bool.false_ne_true)).symm.trans waiting
      cases answered
    | true =>
      obtain ⟨j, t, row, other, there, mem, same⟩ := exists_of_eventHeld inv held
      refine ⟨events, j, t, row, other, there, mem, same, ?_⟩
      rcases kind there row mem with ⟨-, own⟩ | ⟨rejected, -⟩
      · exact absurd (same ▸ rejecting) own
      · exact rejected
  | insertSignal new =>
    obtain ⟨event, events, -, -, -, key⟩ := may
    cases held : w.signalHeld i new.signalKey with
    | false =>
      have answered := (if_neg (by rw [held]; exact Bool.false_ne_true)).symm.trans waiting
      cases answered
    | true =>
      -- the other delivery would have inserted an event with the key of this one's
      unfold signalHeld at held
      rw [List.any_eq_true] at held
      obtain ⟨t, mem, any⟩ := held
      rw [List.any_eq_true] at any
      obtain ⟨signal, signed, same⟩ := any
      obtain ⟨j, other, there⟩ := List.mem_eraseIdx_iff_getElem?.mp mem
      obtain ⟨row, pending, equal⟩ := (inv.sound there).signed signal signed
      have own : event ∈ s.pending.events := by
        rw [show s.pending.events = [event] from events]
        exact List.mem_singleton_self event
      refine absurd ?_ (inv.apart i j s t (Ne.symm other) here there event own row pending)
      exact key.symm.trans ((of_decide_eq_true same).symm.trans equal.symm)

theorem goes_on (inv : w.Inv py g) (under_way : w.running i = some s) {row : EventRow}
    (mem : row ∈ s.pending.events) :
    (w.step py g (.go i)).isSome ∨ (w.step py g (.close i)).isSome := by
  cases script : s.rest with
  | done _ | raised _ =>
    right
    unfold World.step World.close
    simp only [under_way, Option.bind_some, script, Option.isSome_some]
  | ask q next =>
    left
    cases answered : w.answer i s.pending q with
    | none =>
      rw [(waits_of_answer_none inv under_way script answered).1] at mem
      cases mem
    | some a =>
      unfold World.step World.go
      simp only [under_way, Option.bind_some, script, answered, Option.map_some, Option.isSome_some]

/-- Exactly once: in every world that can be reached there is one signal under each key, an event is
accepted where it has its signal and there only, and each signal has such an event; what is
committed next is an event and its signal, a rejection, or nothing where the answer is that it is a
duplicate; a delivery that is valid is not refused, is told that it is a duplicate where its alert
is accepted already, and leaves it accepted; and a statement waits for an alert of its own key only,
or a rejection for a rejection, while the delivery it waits for goes on. -/
theorem exactly_once {config : Config} {events : List Event}
    (run : Run.exec (World.step py g) { config } events = some w) :
    (w.signals.map SignalRow.signalKey).Nodup ∧
    (∀ row ∈ w.events, row.status = .accepted ↔ ∃ signal ∈ w.signals, Linked row signal) ∧
    (∀ signal ∈ w.signals, ∃ row ∈ w.events, row.status = .accepted ∧ Linked row signal) ∧
    (∀ e w', w.step py g e = some w' → (w'.events = w.events ∧ w'.signals = w.signals) ∨
      ∃ i s r, e = .close i ∧ w.running i = some s ∧ s.rest = .done r ∧ Settles w w' r.outcome) ∧
    (∀ s ∈ w.sessions, ∀ tables key, g.Valid py tables s.payload s.arrival key →
      s.Agrees (some tables) →
        (s.fate = .running → ∀ e, s.rest ≠ .raised e) ∧
        (s.fate = .running → ∀ r, s.rest = .done r →
          r.outcome = .accepted ∨ r.outcome = .duplicate ∧ Accepted w.events key) ∧
        (s.fate = .committed → Accepted w.events key)) ∧
    (∀ i s q next, w.running i = some s → s.rest = .ask q next → w.step py g (.go i) = none →
      ∃ j t row, j ≠ i ∧ w.running j = some t ∧ row ∈ t.pending.events ∧ Waits q row ∧
        ((w.step py g (.go j)).isSome ∨ (w.step py g (.close j)).isSome)) := by
  have inv : w.Inv py g :=
    Run.invariant_all (fun _ _ _ before taken => Inv.step before taken) Inv.start run
  refine ⟨inv.signals_nodup, fun row mem => ⟨inv.signed row mem, ?_⟩, inv.founded,
    fun e w' => inv.settles, fun s mem tables key valid agrees => ⟨?_, ?_, ?_⟩,
    fun i s q next under_way script waiting => ?_⟩
  · rintro ⟨signal, -, linked⟩
    by_contra other
    have none := (inv.kinds row mem).signal_none other
    rw [linked.signal] at none
    cases none
  · intro running e raised
    obtain ⟨known, -, fails⟩ := (inv.sessions s mem).follows running (some tables) agrees
    rw [raised] at fails
    exact fails key ⟨tables, rfl, valid⟩
  · intro running r script
    obtain ⟨known, accepted, ends⟩ := (inv.sessions s mem).follows running (some tables) agrees
    rw [script] at ends
    rcases Ends.valid ends key ⟨tables, rfl, valid⟩ with ⟨outcome, -⟩ | ⟨outcome, knows⟩
    · exact .inl outcome
    · exact .inr ⟨outcome, accepted key knows⟩
  · exact fun committed => (inv.sessions s mem).done committed tables agrees key valid
  · have none : w.answer i s.pending q = none := by
      unfold World.step World.go at waiting
      simpa only [under_way, Option.bind_some, script, Option.map_eq_none_iff] using waiting
    obtain ⟨-, j, t, row, other, there, mem, waits⟩ :=
      waits_of_answer_none inv under_way script none
    exact ⟨j, t, row, other, there, mem, waits, goes_on inv there mem⟩

def race : List Event :=
  [.arrive sampleAlert (sampleArrival 1 2), .arrive sampleAlert (sampleArrival 3 4)] ++
    [.go 0, .go 1, .go 0, .go 0, .go 1, .go 1, .go 0, .go 0, .go 0, .close 0, .go 1, .go 1,
      .close 1]

theorem exactly_once_of_race : ∃ w : World,
    Run.exec (World.step (sample []) sampleGate) { config := sampleTables } race = some w ∧
      (w.signals.map SignalRow.signalKey).Nodup := by
  have ran : (Run.exec (World.step (sample []) sampleGate) { config := sampleTables } race).isSome =
      true := by
    decide +kernel
  obtain ⟨w, run⟩ := Option.isSome_iff_exists.mp ran
  exact ⟨w, run, (exactly_once run).1⟩

end World

end TradeResearch.Webhooks
