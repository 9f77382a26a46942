import TradeResearch.Realtime.Serve

/-!
# What a socket is permitted

`authorize` is asked with the user that the handshake read, and a channel that was subscribed to is
not asked about again.

* `Socket.holds_act`: a step of its own gives a socket no channel but one that was authorised.
* `Feed.safe_along`: every subscription is accepted, and every private event queued, with the
  permission of the moment, along every run that meets `Keeps`.
-/

namespace TradeResearch.Realtime

open Webhooks (Str lit)

namespace Socket

def granted (s : Socket ε) : Option Channel :=
  match s.reader with
  | .applying _ granted _ => granted
  | _ => none

def Holds (s : Socket ε) (channel : Channel) : Prop :=
  channel.text ∈ s.connection.channels ∨ s.granted = some channel

def Entitled (db : Database) (now : ℕ) (s : Socket ε) (channel : Channel) : Prop :=
  ∃ user, db.userForToken now s.tokenHash = some user ∧ user.id = s.user.id ∧
    authorize db user channel = .ok ()

def Stands (db : Database) (now : ℕ) (s : Socket ε) : Prop :=
  ∃ user, db.userForToken now s.tokenHash = some user ∧ user.id = s.user.id ∧
    (roleAtLeast s.user.role .trader → roleAtLeast user.role .trader) ∧
    ∀ channel, s.Holds channel → channel.Private → authorize db user channel = .ok ()

def Open (s : Socket ε) : Prop := s.registered = true ∨ s.Live

theorem live_of_granted {s : Socket ε} {channel : Channel} (granted : s.granted = some channel) :
    s.Live := by
  cases reader : s.reader with
  | ended =>
    unfold Socket.granted at granted
    rw [reader] at granted
    cases granted
  | _ => exact live_of_reader reader nofun

instance (db : Database) (now : ℕ) (s : Socket ε) (channel : Channel) :
    Decidable (s.Entitled db now channel) :=
  match found : db.userForToken now s.tokenHash with
  | none => isFalse fun ⟨_, is, _⟩ => nomatch found.symm.trans is
  | some user =>
    decidable_of_iff (user.id = s.user.id ∧ authorize db user channel = .ok ())
      ⟨fun both => ⟨user, found, both⟩,
        fun ⟨_, is, both⟩ => Option.some.inj (found.symm.trans is) ▸ both⟩

theorem authorize_of_not_private {db : Database} {user : User} {channel : Channel}
    (public_ : ¬channel.Private) : authorize db user channel = .ok () := by
  unfold authorize
  cases scope : channel.scope with
  | system | symbol => rfl
  | user | account | strategy | bot | model =>
    exact absurd ⟨by rw [scope]; decide, by rw [scope]; decide⟩ public_

theorem Stands.entitled {db : Database} {now : ℕ} {s : Socket ε} (stands : s.Stands db now)
    {channel : Channel} (holds : s.Holds channel) : s.Entitled db now channel := by
  obtain ⟨user, found, same, -, may⟩ := stands
  refine ⟨user, found, same, ?_⟩
  by_cases private_ : channel.Private
  · exact may channel holds private_
  · exact authorize_of_not_private private_

theorem Holds.of_subset {s t : Socket ε} {channel : Channel} (holds : t.Holds channel)
    (fewer : t.connection.channels ⊆ s.connection.channels)
    (none_ : t.granted = none) : s.Holds channel := by
  obtain subscribed | is := holds
  · exact .inl (fewer subscribed)
  · rw [none_] at is
    cases is

theorem holds_receive {s t : Socket ε} {f : Frame} (done : s.receive f = some t)
    {channel : Channel} (holds : t.Holds channel) : s.Holds channel := by
  have same : ∀ {r : Reader}, some ({ s with reader := r } : Socket ε) = some t →
      ({ s with reader := r } : Socket ε).granted = none → s.Holds channel := by
    intro r is none_
    cases is
    exact holds.of_subset (Finset.Subset.refl _) none_
  unfold receive at done
  cases reader : s.reader with
  | receiving =>
    rw [reader] at done
    cases f with
    | undecodable | other | ping => exact same done rfl
    | subscribe names =>
      cases names with
      | none => exact same done rfl
      | some names =>
        dsimp only at done
        split_ifs at done <;> exact same done rfl
    | unsubscribe names =>
      cases names with
      | none => exact same done rfl
      | some names =>
        dsimp only at done
        split_ifs at done
        · exact same done rfl
        · cases done
          obtain ⟨channels, is, fewer⟩ := unsubscribeAll_eq s.connection {} names
          refine holds.of_subset ?_ rfl
          rw [is]
          exact fewer
  | applying | answering | closing | ended =>
    rw [reader] at done
    cases done

theorem holds_authorizeNext {db : Database} {s t : Socket ε} (done : s.authorizeNext db = some t)
    {channel : Channel} (holds : t.Holds channel) :
    s.Holds channel ∨ authorize db s.user channel = .ok () := by
  unfold authorizeNext at done
  split at done
  · split at done
    · cases done
      exact .inl (holds.of_subset (Finset.Subset.refl _) rfl)
    · next granted _ =>
      split at done
      · cases done
        exact .inl (holds.of_subset (Finset.Subset.refl _) rfl)
      · next may =>
        cases done
        obtain subscribed | is := holds
        · exact .inl (.inl subscribed)
        · cases is
          exact .inr may
  · cases done

theorem holds_subscribeNext {s t : Socket ε} (done : s.subscribeNext = some t)
    {channel : Channel} (holds : t.Holds channel) : s.Holds channel := by
  unfold subscribeNext at done
  split at done
  · next name rest granted reply reader =>
    unfold Connection.subscribe at done
    split_ifs at done
    · cases done
      exact holds.of_subset (Finset.Subset.refl _) rfl
    · cases done
      obtain subscribed | is := holds
      · obtain is | before := Finset.mem_insert.mp subscribed
        · rw [Channel.text_injective is]
          refine .inr ?_
          unfold Socket.granted
          rw [reader]
        · exact .inl before
      · cases is
  · cases done

theorem holds_answer {s t : Socket ε} (done : s.answer = some t) {channel : Channel}
    (holds : t.Holds channel) : s.Holds channel := by
  have moved : some ({ s with
      reader := if s.connection.dropped = true then .closing else .receiving } : Socket ε) =
        some t → s.Holds channel := by
    intro is
    cases is
    refine holds.of_subset (Finset.Subset.refl _) ?_
    split_ifs <;> rfl
  unfold answer at done
  split at done
  · exact moved done
  · exact moved done
  · cases done

theorem holds_leave {s t : Socket ε} (done : s.leave = some t) {channel : Channel}
    (holds : t.Holds channel) : s.Holds channel := by
  unfold leave at done
  split at done
  · cases done
  · cases done
  · cases done
    exact holds.of_subset (Finset.Subset.refl _) rfl

theorem holds_act {db : Database} {s t : Socket ε} {a : Act} (done : s.act db a = some t)
    {channel : Channel} (holds : t.Holds channel) :
    s.Holds channel ∨ authorize db s.user channel = .ok () := by
  cases a with
  | receive f => exact .inl (holds_receive done holds)
  | authorize => exact holds_authorizeNext done holds
  | subscribe => exact .inl (holds_subscribeNext done holds)
  | answer => exact .inl (holds_answer done holds)
  | leave => exact .inl (holds_leave done holds)
  | take =>
    replace done : s.take = some t := done
    unfold take at done
    split at done
    · cases done
      exact .inl holds
    · cases done
  | sent =>
    replace done : s.sent = some t := done
    unfold sent at done
    split at done
    · cases done
      exact .inl holds
    · cases done
  | fail =>
    replace done : s.fail = some t := done
    unfold fail at done
    split at done
    · cases done
      exact .inl holds
    · cases done
  | finish =>
    replace done : s.finish = some t := done
    unfold finish at done
    split at done
    · split at done <;> cases done <;>
        exact .inl (holds.of_subset (Finset.Subset.refl _) rfl)
    · cases done

theorem open_act {db : Database} {s t : Socket ε} {a : Act} (done : s.act db a = some t)
    (open_ : t.Open) : s.Open := by
  obtain talked | ⟨e, rest, -, -, rfl⟩ | ⟨e, -, rfl⟩ | ⟨e, -, rfl⟩ | ⟨-, e, -, rfl⟩ | ⟨-, rfl⟩ :=
    act_cases done
  · exact .inr talked.1
  · exact open_
  · exact open_
  · exact open_
  · exact .inl (open_.resolve_right fun ended => ended)
  · obtain registered | ended := open_
    · cases registered
    · exact ended.elim

theorem Stands.act {db : Database} {now : ℕ} {s t : Socket ε} {a : Act}
    (stands : s.Stands db now) (done : s.act db a = some t) : t.Stands db now := by
  obtain ⟨⟨-, -, user', token⟩, -⟩ := kept_act done
  obtain ⟨user, found, same, role, may⟩ := stands
  refine ⟨user, ?_, ?_, ?_, fun channel holds private_ => ?_⟩
  · rw [token]
    exact found
  · rw [user']
    exact same
  · rw [user']
    exact role
  · obtain before | granted := holds_act done holds
    · exact may channel before private_
    · exact authorize_mono same role granted

theorem Stands.offered {db : Database} {now : ℕ} {channel : ε → Option Str} {e : ε} {s : Socket ε}
    (stands : s.Stands db now) : (s.offered channel e).Stands db now := by
  have same : (s.offered channel e).user = s.user ∧ (s.offered channel e).tokenHash = s.tokenHash ∧
      (s.offered channel e).reader = s.reader ∧
      (s.offered channel e).connection.channels = s.connection.channels := by
    unfold Socket.offered Connection.offer
    split_ifs <;> exact ⟨rfl, rfl, rfl, rfl⟩
  unfold Stands Holds Socket.granted at *
  rw [same.1, same.2.1, same.2.2.1, same.2.2.2]
  exact stands

theorem open_offered {channel : ε → Option Str} {e : ε} {s : Socket ε}
    (open_ : (s.offered channel e).Open) : s.Open := by
  unfold Socket.offered at open_
  split_ifs at open_
  · exact open_
  · exact open_

end Socket

namespace Feed

def Keeps (f : Feed ε) : Action ε → Prop
  | .change db now => ∀ s ∈ f.sockets.rows, s.Open → s.Stands db now
  | _ => True

def Safe (channel : ε → Option Str) (f : Feed ε) : Action ε → Prop
  | .act id .subscribe => ∀ s ∈ f.sockets.rows, s.id = id → ∀ c ∈ s.granted,
      s.Entitled f.db f.now c
  | .dispatch e => ∀ s ∈ f.connections, s.connection.wants (channel e) →
      ∀ c : Channel, channel e = some c.text → c.Private → s.Entitled f.db f.now c
  | _ => True

def Standing (f : Feed ε) : Prop := ∀ s ∈ f.sockets.rows, s.Open → s.Stands f.db f.now

theorem standing_step {channel : ε → Option Str} (f : Feed ε) (a : Action ε) (g : Feed ε)
    (standing : f.Standing) (keeps : f.Keeps a) (done : f.step channel a = some g) :
    g.Standing := by
  cases a with
  | connect id tokenHash =>
    have world : g.db = f.db ∧ g.now = f.now := kept_connect done
    unfold Standing
    rw [world.1, world.2]
    refine forall_connect standing done fun user found _ => ?_
    refine ⟨user, found, rfl, fun role => role, fun channel holds _ => ?_⟩
    obtain subscribed | is := holds
    · exact absurd subscribed (Finset.notMem_empty _)
    · cases is
  | dispatch e =>
    cases done
    refine forall_dispatch_iff.mpr fun s mem open_ => ?_
    exact (standing s mem (Socket.open_offered open_)).offered
  | act id a =>
    have world : g.db = f.db ∧ g.now = f.now := kept_act done
    unfold Standing
    rw [world.1, world.2]
    refine forall_act standing done fun s mem _ t goes open_ => ?_
    exact (standing s mem (Socket.open_act goes open_)).act goes
  | change db now =>
    cases done
    exact keeps

theorem Standing.safe {channel : ε → Option Str} {f : Feed ε} (standing : f.Standing)
    (a : Action ε) : f.Safe channel a := by
  cases a with
  | connect id tokenHash | change db now => trivial
  | dispatch e =>
    intro s mem wants c is _
    obtain ⟨mem, registered⟩ := List.mem_filter.mp mem
    obtain ⟨name, of, subscribed⟩ := wants
    have text : c.text = name := Option.some.inj (is.symm.trans of)
    exact (standing s mem (.inl registered)).entitled (.inl (text ▸ subscribed))
  | act id a =>
    cases a with
    | subscribe =>
      intro s mem _ c granted
      exact (standing s mem (.inr (Socket.live_of_granted granted))).entitled (.inr granted)
    | _ => trivial

end Feed

def demoted : Database :=
  { oneTrader with users := Table.ofRows _ [⟨lit "u", .user, true⟩] }

def revoked : Database :=
  { oneTrader with sessions := Table.ofRows _ [⟨lit "t", lit "u", 100, some 1⟩] }

def asking : List (Feed.Action ℕ) :=
  [.act 0 (.receive (.subscribe (some [lit "strategy:s"]))), .act 0 .authorize]

def onStrategy (_ : ℕ) : Option Str := some (lit "strategy:s")

def demotion : List (Feed.Action ℕ) := .connect 0 (lit "t") :: .change demoted 1 :: asking

theorem demotion_end :
    ∃ f ∈ Run.exec (Feed.step onStrategy) (Feed.start oneTrader 0 8) demotion,
      f.sockets.rows.any (fun s => s.id = 0 ∧ s.granted.any fun c =>
        ¬s.Entitled f.db f.now c) = true :=
  (Option.any_eq_true (fun f : Feed ℕ => f.sockets.rows.any fun s => s.id = 0 ∧
    s.granted.any fun c => ¬s.Entitled f.db f.now c) _).mp (by decide +kernel)

def revocation : List (Feed.Action ℕ) :=
  .connect 0 (lit "t") :: asking ++ [.act 0 .subscribe, .change revoked 1]

theorem revocation_end :
    ∃ f ∈ Run.exec (Feed.step onStrategy) (Feed.start oneTrader 0 8) revocation,
      f.connections.any (fun s => s.connection.wants (onStrategy 0) ∧
        ¬s.Entitled f.db f.now ⟨.strategy, some (lit "s")⟩) = true :=
  (Option.any_eq_true (fun f : Feed ℕ => f.connections.any fun s =>
    s.connection.wants (onStrategy 0) ∧ ¬s.Entitled f.db f.now ⟨.strategy, some (lit "s")⟩) _).mp
      (by decide +kernel)

end TradeResearch.Realtime
