import Mathlib.Data.Finset.Card
import TradeResearch.Lib.Run
import TradeResearch.Realtime.Channels

/-!
# The live feed

`Connection` and `Hub` of `backend/app/realtime/hub.py`, and `_pump`, `_apply_subscriptions` and
`serve` of `backend/app/realtime/ws.py`: a step relation over the database, the hub and every call
of `serve` with its pump, in any order.

* `Sound.act` and `Sound.offered`: what a step does to what a client has received, and will.
* `gapless_along`: a feed without holes, and connections that are counted, along every run that
  meets `Steady`.
-/

namespace TradeResearch.Realtime

open Webhooks (Str lit)

def queueDepth : ℕ := 256

def maxSubscriptions : ℕ := 50

structure Connection (ε : Type) where
  id : ℕ
  userId : Str
  queue : List ε := []
  channels : Finset Str := ∅
  dropped : Bool := false

namespace Connection

def subscribe (c : Connection ε) (channel : Channel) : Option (Connection ε) :=
  if maxSubscriptions ≤ c.channels.card then none
  else some { c with channels := insert channel.text c.channels }

def unsubscribe (c : Connection ε) (channel : Channel) : Connection ε :=
  { c with channels := c.channels.erase channel.text }

def wants (c : Connection ε) (channel : Option Str) : Prop := ∃ name ∈ channel, name ∈ c.channels

instance (c : Connection ε) (channel : Option Str) : Decidable (c.wants channel) :=
  match channel with
  | none => isFalse nofun
  | some name => decidable_of_iff (name ∈ c.channels)
      ⟨fun mem => ⟨name, rfl, mem⟩, fun ⟨_, is, mem⟩ => Option.some.inj is ▸ mem⟩

def offer (c : Connection ε) (e : ε) : Connection ε × Bool :=
  if c.queue.length < queueDepth then ({ c with queue := c.queue ++ [e] }, true)
  else ({ c with dropped := true }, false)

end Connection

inductive Refusal where
  | channel (why : ChannelError)
  | full
  | notAuthorized (why : NotAuthorized)
  deriving DecidableEq

structure Reply where
  accepted : List Str := []
  refused : List (Str × Refusal) := []

def Reply.accept (r : Reply) (name : Str) : Reply := { r with accepted := r.accepted ++ [name] }

def Reply.refuse (r : Reply) (name : Str) (why : Refusal) : Reply :=
  { r with refused := r.refused ++ [(name.take 128, why)] }

inductive Reader where
  | receiving
  | applying (names : List Str) (granted : Option Channel) (reply : Reply)
  | answering (reply : Reply)
  | closing
  | ended

inductive Pump (ε : Type) where
  | waiting
  | sending (e : ε)
  | failed (lost : ε)
  | cancelled (lost : List ε)

def Pump.hasFailed {ε : Type} : Pump ε → Bool
  | .failed _ => true
  | _ => false

def Pump.held {ε : Type} : Pump ε → List ε
  | .waiting => []
  | .sending e => [e]
  | .failed e => [e]
  | .cancelled lost => lost

inductive Frame where
  | undecodable
  | other
  | ping
  | subscribe (names : Option (List Str))
  | unsubscribe (names : Option (List Str))

structure Socket (ε : Type) where
  connection : Connection ε
  user : User
  tokenHash : Str
  registered : Bool := true
  reader : Reader := .receiving
  pump : Pump ε := .waiting
  received : List ε := []
  wanted : List ε := []

namespace Socket

def id (s : Socket ε) : ℕ := s.connection.id

def Live (s : Socket ε) : Prop :=
  match s.reader with
  | .ended => False
  | _ => True

instance (s : Socket ε) : Decidable s.Live := by
  unfold Live
  split <;> infer_instance

def take (s : Socket ε) : Option (Socket ε) :=
  match s.pump, s.connection.queue with
  | .waiting, e :: rest =>
    some { s with pump := .sending e, connection := { s.connection with queue := rest } }
  | _, _ => none

def sent (s : Socket ε) : Option (Socket ε) :=
  match s.pump with
  | .sending e => some { s with pump := .waiting, received := s.received ++ [e] }
  | _ => none

def fail (s : Socket ε) : Option (Socket ε) :=
  match s.pump with
  | .sending e => some { s with pump := .failed e }
  | _ => none

def unsubscribeAll (c : Connection ε) (reply : Reply) : List Str → Connection ε × Reply
  | [] => (c, reply)
  | name :: rest =>
    match parse name with
    | .error why => unsubscribeAll c (reply.refuse name (.channel why)) rest
    | .ok channel => unsubscribeAll (c.unsubscribe channel) (reply.accept channel.text) rest

def receive (s : Socket ε) (f : Frame) : Option (Socket ε) :=
  match s.reader with
  | .receiving =>
    match f with
    | .undecodable | .other => some { s with reader := .closing }
    | .ping => some { s with reader := .answering {} }
    | .subscribe none | .unsubscribe none => some { s with reader := .closing }
    | .subscribe (some names) =>
      if maxSubscriptions < names.length then some { s with reader := .closing }
      else some { s with reader := .applying names none {} }
    | .unsubscribe (some names) =>
      if maxSubscriptions < names.length then some { s with reader := .closing }
      else
        some { s with
          connection := (unsubscribeAll s.connection {} names).1
          reader := .answering (unsubscribeAll s.connection {} names).2 }
  | _ => none

def authorizeNext (db : Database) (s : Socket ε) : Option (Socket ε) :=
  match s.reader with
  | .applying (name :: rest) none reply =>
    match parse name with
    | .error why => some { s with reader := .applying rest none (reply.refuse name (.channel why)) }
    | .ok channel =>
      match authorize db s.user channel with
      | .error why =>
        some { s with reader := .applying rest none (reply.refuse name (.notAuthorized why)) }
      | .ok () => some { s with reader := .applying (name :: rest) (some channel) reply }
  | _ => none

def subscribeNext (s : Socket ε) : Option (Socket ε) :=
  match s.reader with
  | .applying (name :: rest) (some channel) reply =>
    match s.connection.subscribe channel with
    | none => some { s with reader := .applying rest none (reply.refuse name .full) }
    | some c =>
      some { s with connection := c, reader := .applying rest none (reply.accept channel.text) }
  | _ => none

def answer (s : Socket ε) : Option (Socket ε) :=
  match s.reader with
  | .applying [] none _ | .answering _ =>
    some { s with reader := if s.connection.dropped = true then .closing else .receiving }
  | _ => none

def leave (s : Socket ε) : Option (Socket ε) :=
  match s.reader with
  | .closing | .ended => none
  | _ => some { s with reader := .closing }

def finish (s : Socket ε) : Option (Socket ε) :=
  match s.reader with
  | .closing =>
    match s.pump with
    | .failed _ => some { s with reader := .ended }
    | pump => some { s with reader := .ended, pump := .cancelled pump.held, registered := false }
  | _ => none

inductive Act where
  | take
  | sent
  | fail
  | receive (f : Frame)
  | authorize
  | subscribe
  | answer
  | leave
  | finish

def act (db : Database) (s : Socket ε) : Act → Option (Socket ε)
  | .take => s.take
  | .sent => s.sent
  | .fail => s.fail
  | .receive f => s.receive f
  | .authorize => s.authorizeNext db
  | .subscribe => s.subscribeNext
  | .answer => s.answer
  | .leave => s.leave
  | .finish => s.finish

def offered (channel : ε → Option Str) (e : ε) (s : Socket ε) : Socket ε :=
  if s.registered = true ∧ s.connection.wants (channel e) then
    { s with connection := (s.connection.offer e).1, wanted := s.wanted ++ [e] }
  else s

def Talked (s t : Socket ε) : Prop :=
  s.Live ∧ ∃ reader channels, t = { s with
    reader := reader, connection := { s.connection with channels := channels } } ∧ t.Live

theorem Talked.of_reader {s : Socket ε} (live : s.Live) {reader : Reader}
    (goes : ({ s with reader := reader } : Socket ε).Live) : Talked s { s with reader := reader } :=
  ⟨live, reader, s.connection.channels, rfl, goes⟩

theorem unsubscribeAll_eq (c : Connection ε) (reply : Reply) (names : List Str) :
    ∃ channels, (unsubscribeAll c reply names).1 = { c with channels := channels } ∧
      channels ⊆ c.channels := by
  induction names generalizing c reply with
  | nil => exact ⟨c.channels, rfl, Finset.Subset.refl _⟩
  | cons name rest ih =>
    unfold unsubscribeAll
    cases parse name with
    | error why => exact ih c _
    | ok channel =>
      obtain ⟨channels, is, fewer⟩ := ih (c.unsubscribe channel) (reply.accept channel.text)
      exact ⟨channels, is, fewer.trans (Finset.erase_subset _ _)⟩

theorem live_of_reader {s : Socket ε} {reader : Reader} (is : s.reader = reader)
    (goes : reader ≠ .ended) : s.Live := by
  unfold Live
  rw [is]
  cases reader with
  | ended => exact goes rfl
  | _ => trivial

theorem talked_receive {s t : Socket ε} {f : Frame} (done : s.receive f = some t) : Talked s t := by
  unfold receive at done
  cases reader : s.reader with
  | receiving =>
    have live := live_of_reader reader nofun
    rw [reader] at done
    cases f with
    | undecodable | other | ping =>
      cases done
      exact .of_reader live trivial
    | subscribe names =>
      cases names with
      | none =>
        cases done
        exact .of_reader live trivial
      | some names =>
        dsimp only at done
        split_ifs at done <;> cases done <;> exact .of_reader live trivial
    | unsubscribe names =>
      cases names with
      | none =>
        cases done
        exact .of_reader live trivial
      | some names =>
        dsimp only at done
        split_ifs at done
        · cases done
          exact .of_reader live trivial
        · cases done
          obtain ⟨channels, is, -⟩ := unsubscribeAll_eq s.connection {} names
          exact ⟨live, _, channels, by rw [is], trivial⟩
  | applying | answering | closing | ended =>
    rw [reader] at done
    cases done

theorem talked_authorizeNext {db : Database} {s t : Socket ε}
    (done : s.authorizeNext db = some t) : Talked s t := by
  unfold authorizeNext at done
  split at done
  · next reader =>
    have live := live_of_reader reader nofun
    split at done
    · cases done
      exact .of_reader live trivial
    · split at done
      · cases done
        exact .of_reader live trivial
      · cases done
        exact .of_reader live trivial
  · cases done

theorem talked_subscribeNext {s t : Socket ε} (done : s.subscribeNext = some t) : Talked s t := by
  unfold subscribeNext at done
  split at done
  · next channel reply reader =>
    have live := live_of_reader reader nofun
    unfold Connection.subscribe at done
    split_ifs at done
    · cases done
      exact .of_reader live trivial
    · cases done
      exact ⟨live, _, insert channel.text s.connection.channels, rfl, trivial⟩
  · cases done

theorem talked_answer {s t : Socket ε} (done : s.answer = some t) : Talked s t := by
  have goes : ∀ {r : Reader}, s.reader = r → r ≠ .ended →
      some ({ s with reader := if s.connection.dropped = true then .closing else .receiving } :
        Socket ε) = some t → Talked s t := by
    intro r is other same
    cases same
    refine .of_reader (live_of_reader is other) ?_
    split <;> trivial
  unfold answer at done
  split at done
  · next reader => exact goes reader nofun done
  · next reader => exact goes reader nofun done
  · cases done

theorem talked_leave {s t : Socket ε} (done : s.leave = some t) : Talked s t := by
  unfold leave at done
  split at done
  · cases done
  · cases done
  · next stays gone =>
    cases done
    refine .of_reader ?_ trivial
    exact live_of_reader rfl gone

theorem act_cases {db : Database} {s t : Socket ε} {a : Act} (done : s.act db a = some t) :
    Talked s t ∨
    (∃ e rest, s.pump = .waiting ∧ s.connection.queue = e :: rest ∧
      t = { s with pump := .sending e, connection := { s.connection with queue := rest } }) ∨
    (∃ e, s.pump = .sending e ∧ t = { s with pump := .waiting, received := s.received ++ [e] }) ∨
    (∃ e, s.pump = .sending e ∧ t = { s with pump := .failed e }) ∨
    (a = .finish ∧ ∃ e, s.pump = .failed e ∧ t = { s with reader := .ended }) ∨
    (a = .finish ∧
      t = { s with reader := .ended, pump := .cancelled s.pump.held, registered := false }) := by
  cases a with
  | receive f => exact .inl (talked_receive done)
  | authorize => exact .inl (talked_authorizeNext done)
  | subscribe => exact .inl (talked_subscribeNext done)
  | answer => exact .inl (talked_answer done)
  | leave => exact .inl (talked_leave done)
  | take =>
    replace done : s.take = some t := done
    unfold take at done
    split at done
    · next e rest pump queue =>
      cases done
      exact .inr (.inl ⟨e, rest, pump, queue, rfl⟩)
    · cases done
  | sent =>
    replace done : s.sent = some t := done
    unfold sent at done
    split at done
    · next e pump =>
      cases done
      exact .inr (.inr (.inl ⟨e, pump, rfl⟩))
    · cases done
  | fail =>
    replace done : s.fail = some t := done
    unfold fail at done
    split at done
    · next e pump =>
      cases done
      exact .inr (.inr (.inr (.inl ⟨e, pump, rfl⟩)))
    · cases done
  | finish =>
    replace done : s.finish = some t := done
    unfold finish at done
    split at done
    · split at done
      · next e pump =>
        cases done
        exact .inr (.inr (.inr (.inr (.inl ⟨rfl, e, pump, rfl⟩))))
      · cases done
        exact .inr (.inr (.inr (.inr (.inr ⟨rfl, rfl⟩))))
    · cases done

def line (s : Socket ε) : List ε := s.received ++ s.pump.held ++ s.connection.queue

theorem kept_act {db : Database} {s t : Socket ε} {a : Act} (done : s.act db a = some t) :
    (t.id = s.id ∧ t.connection.userId = s.connection.userId ∧ t.user = s.user ∧
      t.tokenHash = s.tokenHash) ∧
    t.line = s.line ∧ t.wanted = s.wanted ∧ t.connection.dropped = s.connection.dropped := by
  obtain talked | ⟨e, rest, pump, queue, rfl⟩ | ⟨e, pump, rfl⟩ | ⟨e, pump, rfl⟩ |
    ⟨-, e, pump, rfl⟩ | ⟨-, rfl⟩ := act_cases done
  · obtain ⟨-, reader, channels, rfl, -⟩ := talked
    exact ⟨⟨rfl, rfl, rfl, rfl⟩, rfl, rfl, rfl⟩
  · refine ⟨⟨rfl, rfl, rfl, rfl⟩, ?_, rfl, rfl⟩
    unfold line
    rw [pump, queue]
    simp [Pump.held]
  · refine ⟨⟨rfl, rfl, rfl, rfl⟩, ?_, rfl, rfl⟩
    unfold line
    rw [pump]
    simp [Pump.held]
  · refine ⟨⟨rfl, rfl, rfl, rfl⟩, ?_, rfl, rfl⟩
    unfold line
    rw [pump]
    rfl
  · exact ⟨⟨rfl, rfl, rfl, rfl⟩, rfl, rfl, rfl⟩
  · exact ⟨⟨rfl, rfl, rfl, rfl⟩, rfl, rfl, rfl⟩

theorem id_act {db : Database} {a : Act} (s : Socket ε) :
    ((s.act db a).getD s).id = s.id := by
  cases done : s.act db a with
  | none => rfl
  | some t => exact (kept_act done).1.1

theorem id_offered (channel : ε → Option Str) (e : ε) (s : Socket ε) :
    (s.offered channel e).id = s.id := by
  unfold offered Connection.offer
  split_ifs <;> rfl

end Socket

structure Feed (ε : Type) where
  db : Database
  now : ℕ
  maxPerUser : ℕ
  sockets : Table (Socket.id (ε := ε))

namespace Feed

def connections (f : Feed ε) : List (Socket ε) := f.sockets.rows.filter fun s => s.registered

def connectionsFor (f : Feed ε) (userId : Str) : ℕ :=
  f.connections.countP fun s => s.connection.userId = userId

def liveFor (f : Feed ε) (userId : Str) : ℕ :=
  f.sockets.rows.countP fun s => s.Live ∧ s.user.id = userId

def Room (f : Feed ε) (userId : Str) : Prop :=
  f.maxPerUser = 0 ∨ f.connectionsFor userId < f.maxPerUser

instance (f : Feed ε) (userId : Str) : Decidable (f.Room userId) :=
  inferInstanceAs (Decidable (_ ∨ _))

def connect (f : Feed ε) (id : ℕ) (tokenHash : Str) : Option (Feed ε) :=
  if free : id ∉ f.sockets.rows.map Socket.id then
    match f.db.userForToken f.now tokenHash with
    | none => some f
    | some user =>
      if f.Room user.id then
        some { f with sockets :=
          f.sockets.insert { connection := { id, userId := user.id }, user, tokenHash } free }
      else some f
  else none

def dispatch (channel : ε → Option Str) (f : Feed ε) (e : ε) : Feed ε :=
  { f with sockets := f.sockets.map (Socket.offered channel e) (Socket.id_offered channel e) }

def act (f : Feed ε) (id : ℕ) (a : Socket.Act) : Option (Feed ε) :=
  ((f.sockets.find? id).bind fun s => s.act f.db a).map fun _ =>
    { f with sockets := f.sockets.modify id (fun s => (s.act f.db a).getD s) Socket.id_act }

inductive Action (ε : Type) where
  | connect (id : ℕ) (tokenHash : Str)
  | dispatch (e : ε)
  | act (id : ℕ) (a : Socket.Act)
  | change (db : Database) (now : ℕ)

def step (channel : ε → Option Str) (f : Feed ε) : Action ε → Option (Feed ε)
  | .connect id tokenHash => f.connect id tokenHash
  | .dispatch e => some (f.dispatch channel e)
  | .act id a => f.act id a
  | .change db now => some { f with db, now }

def start (db : Database) (now maxPerUser : ℕ) : Feed ε := ⟨db, now, maxPerUser, Table.empty _⟩

theorem forall_connect {f g : Feed ε} {id : ℕ} {tokenHash : Str} {P : Socket ε → Prop}
    (held : ∀ s ∈ f.sockets.rows, P s) (done : f.connect id tokenHash = some g)
    (new : ∀ user, f.db.userForToken f.now tokenHash = some user →
      P { connection := { id, userId := user.id }, user, tokenHash }) :
    ∀ s ∈ g.sockets.rows, P s := by
  unfold connect at done
  split_ifs at done with free
  split at done
  · cases done
    exact held
  · next user found =>
    split_ifs at done
    · cases done
      exact (@Table.forall_insert_iff _ _ _ _ _ _ free).mpr ⟨held, new user found⟩
    · cases done
      exact held

theorem forall_dispatch_iff {f : Feed ε} {channel : ε → Option Str} {e : ε}
    {P : Socket ε → Prop} : (∀ s ∈ (f.dispatch channel e).sockets.rows, P s) ↔
      ∀ s ∈ f.sockets.rows, P (s.offered channel e) :=
  List.forall_mem_map

theorem forall_act {f g : Feed ε} {id : ℕ} {a : Socket.Act} {P : Socket ε → Prop}
    (held : ∀ s ∈ f.sockets.rows, P s) (done : f.act id a = some g)
    (kept : ∀ s ∈ f.sockets.rows, s.id = id → ∀ t, s.act f.db a = some t → P t) :
    ∀ s ∈ g.sockets.rows, P s := by
  obtain ⟨-, -, rfl⟩ := Option.map_eq_some_iff.mp done
  refine (@Table.forall_modify_iff _ _ _ _ _ _ _ _ Socket.id_act held).mpr fun s mem is => ?_
  cases goes : s.act f.db a with
  | none => exact held s mem
  | some t => exact kept s mem is t goes

theorem kept_connect {f g : Feed ε} {id : ℕ} {tokenHash : Str}
    (done : f.connect id tokenHash = some g) : g.db = f.db ∧ g.now = f.now := by
  unfold connect at done
  split_ifs at done
  split at done
  · cases done
    exact ⟨rfl, rfl⟩
  · split_ifs at done <;> cases done <;> exact ⟨rfl, rfl⟩

theorem kept_act {f g : Feed ε} {id : ℕ} {a : Socket.Act} (done : f.act id a = some g) :
    g.db = f.db ∧ g.now = f.now := by
  obtain ⟨-, -, rfl⟩ := Option.map_eq_some_iff.mp done
  exact ⟨rfl, rfl⟩

def Steady (channel : ε → Option Str) (f : Feed ε) : Action ε → Prop
  | .dispatch e => ∀ s ∈ f.connections, s.connection.wants (channel e) →
      s.connection.dropped = true → queueDepth ≤ s.connection.queue.length
  | .act id .finish => ∀ s ∈ f.sockets.rows, s.id = id → s.pump.hasFailed = false
  | _ => True

instance (channel : ε → Option Str) (f : Feed ε) (a : Action ε) :
    Decidable (f.Steady channel a) := by
  unfold Steady
  split <;> infer_instance

def Gapless (f : Feed ε) : Prop := ∀ s ∈ f.sockets.rows, s.received <+: s.wanted

instance [DecidableEq ε] (f : Feed ε) : Decidable f.Gapless :=
  inferInstanceAs (Decidable (∀ s ∈ f.sockets.rows, _))

def Counted (f : Feed ε) : Prop := ∀ userId, f.connectionsFor userId = f.liveFor userId

end Feed

namespace Socket

structure Sound (s : Socket ε) : Prop where
  front : s.line <+: s.wanted
  all : s.connection.dropped = false → s.line = s.wanted
  held : s.registered = true ↔ s.Live
  owner : s.connection.userId = s.user.id

theorem Sound.act {db : Database} {s t : Socket ε} {a : Act} (sound : s.Sound)
    (done : s.act db a = some t) (fine : a = .finish → s.pump.hasFailed = false) : t.Sound := by
  obtain ⟨⟨-, userId, user, -⟩, line, wanted, dropped⟩ := kept_act done
  have held : t.registered = true ↔ t.Live := by
    obtain talked | ⟨e, rest, pump, queue, rfl⟩ | ⟨e, pump, rfl⟩ | ⟨e, pump, rfl⟩ |
      ⟨is, e, pump, -⟩ | ⟨-, rfl⟩ := act_cases done
    · obtain ⟨live, reader, channels, rfl, live'⟩ := talked
      exact iff_of_true (sound.held.mpr live) live'
    · exact sound.held
    · exact sound.held
    · exact sound.held
    · have failed := fine is
      rw [pump] at failed
      cases failed
    · exact iff_of_false nofun fun ended => ended
  refine ⟨?_, fun kept => ?_, held, ?_⟩
  · rw [line, wanted]
    exact sound.front
  · rw [line, wanted]
    exact sound.all (dropped.symm.trans kept)
  · rw [userId, user]
    exact sound.owner

theorem Sound.offered {channel : ε → Option Str} {e : ε} {s : Socket ε} (sound : s.Sound)
    (steady : s.registered = true → s.connection.wants (channel e) →
      s.connection.dropped = true → queueDepth ≤ s.connection.queue.length) :
    (s.offered channel e).Sound := by
  unfold Socket.offered
  by_cases here : s.registered = true ∧ s.connection.wants (channel e)
  · rw [if_pos here]
    by_cases room : s.connection.queue.length < queueDepth
    · have kept : s.connection.dropped = false :=
        Bool.eq_false_iff.mpr fun dropped => absurd (steady here.1 here.2 dropped) (by omega)
      have offer : (s.connection.offer e).1 =
          { s.connection with queue := s.connection.queue ++ [e] } := by
        unfold Connection.offer
        rw [if_pos room]
      have line : s.received ++ s.pump.held ++ (s.connection.queue ++ [e]) = s.wanted ++ [e] := by
        rw [← List.append_assoc]
        exact congrArg (· ++ [e]) (sound.all kept)
      rw [offer]
      exact ⟨⟨[], by rw [List.append_nil]; exact line⟩, fun _ => line, sound.held, sound.owner⟩
    · have offer : (s.connection.offer e).1 = { s.connection with dropped := true } := by
        unfold Connection.offer
        rw [if_neg room]
      rw [offer]
      exact ⟨sound.front.trans (List.prefix_append _ _), nofun, sound.held, sound.owner⟩
  · rw [if_neg here]
    exact sound

end Socket

namespace Feed

def Sound (f : Feed ε) : Prop := ∀ s ∈ f.sockets.rows, s.Sound

theorem sound_step {channel : ε → Option Str} (f : Feed ε) (a : Action ε) (g : Feed ε)
    (sound : f.Sound) (steady : f.Steady channel a) (done : f.step channel a = some g) :
    g.Sound := by
  cases a with
  | connect id tokenHash =>
    refine forall_connect sound done fun user _ => ?_
    exact ⟨List.prefix_refl _, fun _ => rfl, iff_of_true rfl trivial, rfl⟩
  | dispatch e =>
    cases done
    refine forall_dispatch_iff.mpr fun s mem => ?_
    refine (sound s mem).offered fun registered => ?_
    exact steady s (List.mem_filter.mpr ⟨mem, registered⟩)
  | act id a =>
    refine forall_act sound done fun s mem is t goes => ?_
    refine (sound s mem).act goes fun ends => ?_
    subst ends
    exact steady s mem is
  | change db now =>
    cases done
    exact sound

theorem Sound.gapless {f : Feed ε} (sound : f.Sound) : f.Gapless := by
  intro s mem
  have sent : s.received <+: s.line := by
    unfold Socket.line
    rw [List.append_assoc]
    exact List.prefix_append _ _
  exact sent.trans (sound s mem).front

theorem Sound.counted {f : Feed ε} (sound : f.Sound) : f.Counted := by
  intro userId
  unfold connectionsFor liveFor connections
  rw [List.countP_filter]
  refine List.countP_congr fun s mem => ?_
  have own := sound s mem
  rw [Bool.and_eq_true, decide_eq_true_iff, decide_eq_true_iff, own.owner, own.held]
  exact and_comm

/-- Along every run of steady steps the feed of each client has no holes, and the hub's connections
for a user are the calls for that user that have not ended. -/
theorem gapless_along (channel : ε → Option Str) (db : Database) (now maxPerUser : ℕ)
    (actions : List (Action ε))
    (steady : Run.Meets (step channel) (Steady channel) (start db now maxPerUser) actions) :
    Run.Along (step channel) (fun f => f.Gapless ∧ f.Counted) (start db now maxPerUser) actions :=
  (Run.along_of_meets sound_step (fun _ mem => absurd mem List.not_mem_nil) steady).mono
    fun _ sound => ⟨sound.gapless, sound.counted⟩

end Feed

def oneTrader : Database where
  users := Table.ofRows _ [⟨lit "u", .trader, true⟩]
  sessions := Table.ofRows _ [⟨lit "t", lit "u", 100, none⟩]
  brokerAccounts := Table.empty _
  paperAccounts := Table.empty _
  bots := Table.empty _

def onSystem (_ : ℕ) : Option Str := some (lit "system")

def subscribed : List (Feed.Action ℕ) :=
  [.connect 0 (lit "t"), .act 0 (.receive (.subscribe (some [lit "system"]))), .act 0 .authorize,
    .act 0 .subscribe, .act 0 .answer]

def pumped : List (Feed.Action ℕ) := [.act 0 .take, .act 0 .sent]

def overflowing : List (Feed.Action ℕ) :=
  subscribed ++ (List.range 257).map .dispatch ++ pumped ++ [.dispatch 257] ++
    (List.replicate 256 pumped).flatten

def failing : List (Feed.Action ℕ) :=
  subscribed ++ [.dispatch 0, .act 0 .take, .act 0 .fail, .act 0 .leave, .act 0 .finish]

theorem gapless_along_subscribed :
    Run.Along (Feed.step onSystem) (fun f => f.Gapless ∧ f.Counted) (Feed.start oneTrader 0 8)
      (subscribed ++ .dispatch 0 :: pumped ++ [.act 0 .leave, .act 0 .finish]) :=
  Feed.gapless_along onSystem oneTrader 0 8 _ (by decide +kernel)

theorem overflowing_gap :
    ∃ f ∈ Run.exec (Feed.step onSystem) (Feed.start oneTrader 0 8) overflowing, ¬f.Gapless :=
  (Option.any_eq_true (fun f : Feed ℕ => decide ¬f.Gapless) _).mp (by decide +kernel) |>.imp
    fun _ both => ⟨both.1, of_decide_eq_true both.2⟩

theorem failing_count :
    ∃ f ∈ Run.exec (Feed.step onSystem) (Feed.start oneTrader 0 8) failing,
      f.connectionsFor (lit "u") ≠ f.liveFor (lit "u") :=
  (Option.any_eq_true
      (fun f : Feed ℕ => decide (f.connectionsFor (lit "u") ≠ f.liveFor (lit "u"))) _).mp
    (by decide +kernel) |>.imp fun _ both => ⟨both.1, of_decide_eq_true both.2⟩

/-- There are runs with a hole, and runs with a connection that nothing serves. -/
theorem not_forall_along :
    (¬∀ actions, Run.Along (Feed.step onSystem) Feed.Gapless (Feed.start oneTrader 0 8) actions) ∧
    ¬∀ actions, Run.Along (Feed.step onSystem) Feed.Counted (Feed.start oneTrader 0 8) actions := by
  refine ⟨fun all => ?_, fun all => ?_⟩
  · obtain ⟨f, run, gap⟩ := overflowing_gap
    exact gap ((all overflowing).last run)
  · obtain ⟨f, run, apart⟩ := failing_count
    exact apart ((all failing).last run (lit "u"))

end TradeResearch.Realtime
