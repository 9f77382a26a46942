import TradeResearch.Oms.Outbox

/-!
# The events a manager publishes

A manager with its event queue, through any sequence of creations, calls, discards and drains. What
is drained is published.

* `Feed.step` is one event, whether the method returns or raises.
* `Feed.Ordered` is what every event keeps, as long as no order is discarded after its creation was
  drained: the events of an order are its creation and its trail up to the cursor.
* `Feed.Told` says that they are its creation and its whole trail, and that a discarded order has
  none. `told_along` is the condition under which every sequence of events keeps it.
-/

namespace TradeResearch.Oms

open Brokers Risk

def Outbox.created (b : Outbox) (o : ManagedOrder) : Outbox :=
  { b with pending := b.pending ++ [OrderEvent.of .orderCreated o] }.queueEvents o

def Outbox.forget (b : Outbox) (id : String) : Outbox :=
  { pending := b.pending.filter fun e => e.orderId ≠ id
    queued := Function.update b.queued id 0 }

structure Feed where
  manager : OrderManager
  outbox : Outbox
  published : List OrderEvent
  discarded : List String

inductive FeedEvent where
  | create (approval : Approval) (args : CreateArgs) (now : Time)
  | call (id : String) (c : OrderCall)
  | discard (id : String)
  | drain

namespace Feed

def fresh (mode : Mode) (broker : Option String) : Feed :=
  { manager := OrderManager.fresh mode broker
    outbox := { pending := [], queued := fun _ => 0 }
    published := []
    discarded := [] }

def onManager {α : Type} (x : Method Exn OrderManager α) : Method Exn Feed α :=
  Method.within manager (fun m f => { f with manager := m }) x

def create (approval : Approval) (args : CreateArgs) (now : Time) :
    Method Exn Feed Submission := do
  let submission ← onManager (OrderManager.create approval args now)
  if !submission.duplicate then
    modify fun f =>
      match f.manager.orders submission.orderId with
      | some o => { f with outbox := f.outbox.created o }
      | none => f
  return submission

def discardOrder (o : ManagedOrder) : Method Exn Feed Unit := do
  onManager (OrderManager.discardOrder o)
  modify fun f => { f with outbox := f.outbox.forget o.id }

def drain (f : Feed) : Feed :=
  { f with
    outbox := { f.outbox with pending := [] }
    published := f.published ++ f.outbox.pending }

def announcer (f : Feed) (o : ManagedOrder) : Announcer := { order := o, outbox := f.outbox }

def settled (f : Feed) (id : String) (d : Announcer) : Feed :=
  { f with
    manager := { f.manager with orders := Function.update f.manager.orders id (some d.order) }
    outbox := d.outbox }

def step (f : Feed) : FeedEvent → Option Feed
  | .create approval args now =>
    if (f.manager.orders args.orderId).isSome || decide (args.orderId ∈ f.discarded) then none
    else some ((create approval args now).left f)
  | .call id c =>
    (f.manager.orders id).map fun o => f.settled id (c.announced.left (f.announcer o))
  | .discard id =>
    (f.manager.orders id).map fun o =>
      match (discardOrder o).exec f with
      | (.ok _, g) => { g with discarded := id :: g.discarded }
      | (.error _, g) => g
  | .drain => some f.drain

def events (f : Feed) (id : String) : List EventType :=
  eventsOf id (f.published ++ f.outbox.pending)

structure Told (f : Feed) : Prop where
  registered : ∀ id o, f.manager.orders id = some o →
    f.events id = .orderCreated :: o.transitions.map OrderTransition.event
  discarded : ∀ id ∈ f.discarded, f.events id = []

def Discardable (o : ManagedOrder) : Prop := o.status = .intent ∧ truthy o.brokerOrderId = false

def Undrained (f : Feed) : FeedEvent → Prop
  | .discard id =>
    ∀ o, f.manager.orders id = some o → Discardable o → eventsOf id f.published = []
  | _ => True

def Hears (f : Feed) : FeedEvent → Prop
  | .call id c => ∀ o, f.manager.orders id = some o → c.Heard o
  | e => f.Undrained e

structure Ordered (f : Feed) : Prop where
  keyed : ∀ id o, f.manager.orders id = some o → o.id = id
  upTo : ∀ id o, f.manager.orders id = some o → (f.announcer o).UpTo f.published
  silent : ∀ id, f.manager.orders id = none → f.events id = [] ∧ f.outbox.queued id = 0
  gone : ∀ id ∈ f.discarded, f.manager.orders id = none

def Whole (f : Feed) : Prop :=
  ∀ id o, f.manager.orders id = some o → (f.announcer o).Complete

theorem Ordered.told {f : Feed} (ordered : f.Ordered) (whole : f.Whole) : f.Told where
  registered id o held := by
    have heard := (ordered.upTo id o held).heard
    have complete : f.outbox.queued o.id = o.transitions.length := whole id o held
    change eventsOf o.id (f.published ++ f.outbox.pending) =
      .orderCreated :: (o.transitions.take (f.outbox.queued o.id)).map _ at heard
    rw [complete, List.take_length, ordered.keyed id o held] at heard
    exact heard
  discarded id mem := (ordered.silent id (ordered.gone id mem)).1

theorem ordered_fresh (mode : Mode) (broker : Option String) : (fresh mode broker).Ordered where
  keyed _ _ held := by cases held
  upTo _ _ held := by cases held
  silent _ _ := ⟨rfl, rfl⟩
  gone _ mem := absurd mem List.not_mem_nil

theorem whole_fresh (mode : Mode) (broker : Option String) : (fresh mode broker).Whole :=
  fun _ _ held => by cases held

theorem events_eq_append (f : Feed) (id : String) :
    f.events id = eventsOf id f.published ++ eventsOf id f.outbox.pending :=
  eventsOf_append id f.published f.outbox.pending

theorem create_left (f : Feed) (approval : Approval) (args : CreateArgs) (now : Time) :
    (create approval args now).left f = f ∨
      ∃ volume positive, (create approval args now).left f =
        { f with
          manager := f.manager.register (f.manager.newOrder approval args volume positive now)
          outbox := f.outbox.created (f.manager.newOrder approval args volume positive now) } := by
  have outcome := OrderManager.create_cases f.manager approval args now
  rcases ran : (OrderManager.create approval args now).exec f.manager with ⟨answer, m⟩
  have begun : (onManager (OrderManager.create approval args now)).exec f =
      (answer, { f with manager := m }) := Method.exec_within_of ran
  rw [ran] at outcome
  unfold Method.left create
  cases outcome with
  | refused e =>
    rw [Method.exec_bind_error begun]
    exact .inl rfl
  | duplicate existing known =>
    rw [Method.exec_bind_ok begun]
    exact .inl rfl
  | created volume positive fresh =>
    rw [Method.exec_bind_ok begun]
    refine .inr ⟨volume, positive, ?_⟩
    have registered : (f.manager.register
        (f.manager.newOrder approval args volume positive now)).orders args.orderId =
          some (f.manager.newOrder approval args volume positive now) :=
      Function.update_self ..
    show (match (f.manager.register
        (f.manager.newOrder approval args volume positive now)).orders args.orderId with
      | some o => _
      | none => _) = _
    rw [registered]

theorem step_create {f g : Feed} {approval : Approval} {args : CreateArgs} {now : Time}
    (taken : f.step (.create approval args now) = some g) :
    f.manager.orders args.orderId = none ∧ args.orderId ∉ f.discarded ∧
      g = (create approval args now).left f := by
  dsimp only [step] at taken
  split at taken
  · cases taken
  · next unused =>
    rw [Bool.or_eq_true, not_or, decide_eq_true_iff] at unused
    exact ⟨by simpa using unused.1, unused.2, (Option.some.inj taken).symm⟩

theorem eventsOf_created (b : Outbox) {o : ManagedOrder} (new : o.transitions = []) (id : String) :
    eventsOf id (b.created o).pending =
      eventsOf id b.pending ++ if o.id = id then [.orderCreated] else [] := by
  unfold Outbox.created Outbox.queueEvents
  rw [new, List.drop_nil, List.map_nil, List.append_nil, eventsOf_append, eventsOf_singleton]
  rfl

theorem queued_created (b : Outbox) (o : ManagedOrder) (id : String) :
    (b.created o).queued id = if id = o.id then o.transitions.length else b.queued id := by
  exact Function.update_apply ..

section Register

variable {f : Feed} {o : ManagedOrder} (new : o.transitions = [])
include new

theorem ordered_register (ordered : f.Ordered) (unused : f.manager.orders o.id = none)
    (undiscarded : o.id ∉ f.discarded) :
    { f with manager := f.manager.register o, outbox := f.outbox.created o }.Ordered := by
  have silent := ordered.silent o.id unused
  rw [events_eq_append] at silent
  refine ⟨fun id p held => ?_, fun id p held => ?_, fun id free => ?_, fun id mem => ?_⟩
  · dsimp only at held
    rw [OrderManager.register_orders, Function.update_apply] at held
    split at held
    · next same => rw [← Option.some.inj held, same]
    · exact ordered.keyed id p held
  · dsimp only at held
    rw [OrderManager.register_orders, Function.update_apply] at held
    split at held
    · cases held
      refine ⟨?_, ?_⟩
      · show eventsOf o.id (f.published ++ (f.outbox.created o).pending) =
          .orderCreated :: (o.transitions.take _).map _
        rw [eventsOf_append, eventsOf_created f.outbox new, if_pos rfl, ← List.append_assoc,
          silent.1, new, List.take_nil]
        rfl
      · show (f.outbox.created o).queued o.id ≤ o.transitions.length
        rw [queued_created, if_pos rfl]
    · next other =>
      have different : ¬ p.id = o.id := by rwa [ordered.keyed id p held]
      apply (ordered.upTo id p held).of_same
      · rw [eventsOf_created f.outbox new, if_neg fun same => different same.symm,
          List.append_nil]
      · rw [queued_created, if_neg different]
  · dsimp only at free
    rw [OrderManager.register_orders, Function.update_apply] at free
    split at free
    · cases free
    · next other =>
      obtain ⟨none, start⟩ := ordered.silent id free
      rw [events_eq_append] at none ⊢
      rw [eventsOf_created f.outbox new, if_neg (fun same => other same.symm), List.append_nil,
        queued_created, if_neg other]
      exact ⟨none, start⟩
  · dsimp only
    rw [OrderManager.register_orders, Function.update_apply, if_neg]
    · exact ordered.gone id mem
    · rintro rfl
      exact undiscarded mem

omit new in
theorem whole_register (ordered : f.Ordered) (whole : f.Whole) :
    { f with manager := f.manager.register o, outbox := f.outbox.created o }.Whole := by
  intro id p held
  rw [OrderManager.register_orders, Function.update_apply] at held
  show (f.outbox.created o).queued p.id = p.transitions.length
  rw [queued_created]
  split at held
  · cases held
    rw [if_pos rfl]
  · next other =>
    rw [if_neg (by rwa [ordered.keyed id p held])]
    exact whole id p held

end Register

theorem step_call {f g : Feed} {id : String} {c : OrderCall}
    (taken : f.step (.call id c) = some g) :
    ∃ o, f.manager.orders id = some o ∧ g = f.settled id (c.announced.left (f.announcer o)) := by
  obtain ⟨o, held, same⟩ := Option.map_eq_some_iff.mp taken
  exact ⟨o, held, same.symm⟩

section Call

variable {f : Feed} {id : String} {o : ManagedOrder} {c : OrderCall} (ordered : f.Ordered)
  (held : f.manager.orders id = some o)
include ordered held

theorem ordered_call : (f.settled id (c.announced.left (f.announcer o))).Ordered := by
  have named := ordered.keyed id o held
  have follows : Announcer.Follows f.published (f.announcer o) (c.announced.left (f.announcer o)) :=
    (Announcer.announces_call c).keeps _ _ (f.announcer o) (ordered.upTo id o held).follows
  let d := c.announced.left (f.announcer o)
  have still : d.order.id = id := follows.further.id.trans named
  have elsewhere (other : String) (different : other ≠ id) :
      eventsOf other d.outbox.pending = eventsOf other f.outbox.pending ∧
        d.outbox.queued other = f.outbox.queued other :=
    follows.elsewhere other (by rwa [← named] at different)
  refine ⟨fun other p there => ?_, fun other p there => ?_, fun other free => ?_,
    fun other mem => ?_⟩
  · change Function.update f.manager.orders id (some d.order) other = some p at there
    rw [Function.update_apply] at there
    split at there
    · next same => rw [← Option.some.inj there, still, same]
    · exact ordered.keyed other p there
  · change Function.update f.manager.orders id (some d.order) other = some p at there
    rw [Function.update_apply] at there
    split at there
    · cases there
      exact follows.toUpTo
    · next different =>
      obtain ⟨pending, queued⟩ := elsewhere p.id (by rwa [ordered.keyed other p there])
      exact (ordered.upTo other p there).of_same pending queued
  · change Function.update f.manager.orders id (some d.order) other = none at free
    rw [Function.update_apply] at free
    split at free
    · cases free
    · next different =>
      obtain ⟨none, start⟩ := ordered.silent other free
      obtain ⟨pending, queued⟩ := elsewhere other different
      rw [events_eq_append] at none ⊢
      show eventsOf other f.published ++ eventsOf other d.outbox.pending = [] ∧
        d.outbox.queued other = 0
      rw [pending, queued]
      exact ⟨none, start⟩
  · show Function.update f.manager.orders id (some d.order) other = none
    have gone := ordered.gone other mem
    rw [Function.update_of_ne]
    · exact gone
    · rintro rfl
      cases held.symm.trans gone

theorem whole_call (whole : f.Whole) (heard : c.Heard o) :
    (f.settled id (c.announced.left (f.announcer o))).Whole := by
  have named := ordered.keyed id o held
  have upTo := ordered.upTo id o held
  have follows := (Announcer.announces_call c).keeps _ _ (f.announcer o) upTo.follows
  have complete := Announcer.complete_call upTo (whole id o held) heard
  intro other p there
  change Function.update f.manager.orders id _ other = some p at there
  rw [Function.update_apply] at there
  split at there
  · cases there
    exact complete
  · next different =>
    have elsewhere := follows.elsewhere p.id (by
      rw [ordered.keyed other p there]
      exact fun same => different (same.trans named))
    exact elsewhere.2.trans (whole other p there)

end Call

theorem step_discard {f g : Feed} {id : String} (taken : f.step (.discard id) = some g) :
    ∃ o, f.manager.orders id = some o ∧
      (¬ Discardable o ∧ g = f ∨
        Discardable o ∧ g.manager.orders = Function.update f.manager.orders o.id none ∧
          g.outbox = f.outbox.forget o.id ∧ g.published = f.published ∧
          g.discarded = id :: f.discarded) := by
  obtain ⟨o, held, same⟩ := Option.map_eq_some_iff.mp taken
  refine ⟨o, held, ?_⟩
  unfold discardOrder onManager at same
  unfold OrderManager.discardOrder at same
  by_cases refused : o.status ≠ .intent ∨ truthy o.brokerOrderId = true
  · rw [if_pos refused] at same
    refine .inl ⟨fun ⟨new, unnamed⟩ => ?_, same.symm⟩
    rcases refused with elsewhere | named
    · exact elsewhere new
    · rw [unnamed] at named
      cases named
  · rw [if_neg refused] at same
    obtain ⟨new, unnamed⟩ := not_or.mp refused
    refine .inr ⟨⟨not_not.mp new, by simpa using unnamed⟩, ?_⟩
    rw [← same]
    exact ⟨rfl, rfl, rfl, rfl⟩

theorem eventsOf_forget (b : Outbox) (id other : String) :
    eventsOf other (b.forget id).pending = if other = id then [] else eventsOf other b.pending := by
  unfold eventsOf Outbox.forget
  rw [List.filter_filter]
  split
  · next same =>
    simp [same]
  · next different =>
    congr 1
    refine List.filter_congr fun e _ => ?_
    by_cases about : e.orderId = other
    · simp [about, different]
    · simp [about]

theorem queued_forget (b : Outbox) (id other : String) :
    (b.forget id).queued other = if other = id then 0 else b.queued other := by
  exact Function.update_apply ..

section Discard

variable {f g : Feed} {id : String} (ordered : f.Ordered)
  (taken : f.step (.discard id) = some g)
include ordered taken

theorem ordered_discard (undrained : f.Undrained (.discard id)) : g.Ordered := by
  obtain ⟨o, held, ⟨-, rfl⟩ | ⟨fits, orders, outbox, published, discarded⟩⟩ := step_discard taken
  · exact ordered
  have named := ordered.keyed id o held
  have none : eventsOf id f.published = [] := undrained o held fits
  rw [named] at orders outbox
  have left (other : String) (p : ManagedOrder) (there : g.manager.orders other = some p) :
      other ≠ id ∧ f.manager.orders other = some p := by
    rw [orders, Function.update_apply] at there
    split at there
    · cases there
    · next different => exact ⟨different, there⟩
  refine ⟨fun other p there => ?_, fun other p there => ?_, fun other free => ?_,
    fun other mem => ?_⟩
  · exact ordered.keyed other p (left other p there).2
  · obtain ⟨different, before⟩ := left other p there
    have apart : p.id ≠ id := by rwa [ordered.keyed other p before]
    unfold announcer
    rw [outbox, published]
    apply (ordered.upTo other p before).of_same
    · rw [eventsOf_forget, if_neg apart]
    · rw [queued_forget, if_neg apart]
  · rw [events_eq_append, outbox, published, eventsOf_forget, queued_forget]
    by_cases same : other = id
    · rw [if_pos same, if_pos same, List.append_nil, same]
      exact ⟨none, rfl⟩
    · rw [if_neg same, if_neg same, ← events_eq_append]
      rw [orders, Function.update_of_ne same] at free
      exact ordered.silent other free
  · rw [orders, Function.update_apply]
    rw [discarded] at mem
    split
    · rfl
    · next different =>
      rcases List.mem_cons.mp mem with same | mem
      · exact absurd same different
      · exact ordered.gone other mem

theorem whole_discard (whole : f.Whole) : g.Whole := by
  obtain ⟨o, held, ⟨-, rfl⟩ | ⟨fits, orders, outbox, published, discarded⟩⟩ := step_discard taken
  · exact whole
  intro other p there
  rw [orders, Function.update_apply] at there
  split at there
  · cases there
  · next different =>
    show g.outbox.queued p.id = p.transitions.length
    rw [outbox, queued_forget, if_neg (by rwa [ordered.keyed other p there])]
    exact whole other p there

end Discard

theorem drain_events (f : Feed) (id : String) : f.drain.events id = f.events id := by
  unfold events drain
  rw [List.append_nil]

theorem ordered_drain {f : Feed} (ordered : f.Ordered) : f.drain.Ordered where
  keyed := ordered.keyed
  upTo id o held := by
    obtain ⟨heard, bounded⟩ := ordered.upTo id o held
    refine ⟨?_, bounded⟩
    have same := f.drain_events o.id
    exact same.trans heard
  silent id free := by
    rw [drain_events]
    exact ordered.silent id free
  gone := ordered.gone

theorem ordered_step {f g : Feed} {e : FeedEvent} (ordered : f.Ordered)
    (undrained : f.Undrained e) (taken : f.step e = some g) : g.Ordered := by
  cases e with
  | create approval args now =>
    obtain ⟨unused, undiscarded, rfl⟩ := step_create taken
    rcases create_left f approval args now with same | ⟨volume, positive, added⟩
    · rwa [same]
    · rw [added]
      exact ordered_register rfl ordered unused undiscarded
  | call id c =>
    obtain ⟨o, held, rfl⟩ := step_call taken
    exact ordered_call ordered held
  | discard id => exact ordered_discard ordered taken undrained
  | drain =>
    cases taken
    exact ordered_drain ordered

theorem whole_step {f g : Feed} {e : FeedEvent} (ordered : f.Ordered) (whole : f.Whole)
    (hears : f.Hears e) (taken : f.step e = some g) : g.Whole := by
  cases e with
  | create approval args now =>
    obtain ⟨-, -, rfl⟩ := step_create taken
    rcases create_left f approval args now with same | ⟨volume, positive, added⟩
    · rwa [same]
    · rw [added]
      exact whole_register ordered whole
  | call id c =>
    obtain ⟨o, held, rfl⟩ := step_call taken
    exact whole_call ordered held whole (hears o held)
  | discard id => exact whole_discard ordered taken whole
  | drain =>
    cases taken
    exact whole

theorem Hears.undrained {f : Feed} {e : FeedEvent} (hears : f.Hears e) : f.Undrained e := by
  cases e with
  | call id c => exact True.intro
  | _ => exact hears

section Runs

variable (mode : Mode) (broker : Option String) (events : List FeedEvent)

/-- Nothing is missing either when every call ends where it announces. -/
theorem told_along (hears : Run.Meets step Hears (fresh mode broker) events) :
    Run.Along step Told (fresh mode broker) events := by
  have both : Run.Along step (fun f => f.Ordered ∧ f.Whole) (fresh mode broker) events := by
    refine Run.along_of_meets ?_ ⟨ordered_fresh mode broker, whole_fresh mode broker⟩ hears
    rintro f e g ⟨ordered, whole⟩ met taken
    exact ⟨ordered_step ordered met.undrained taken, whole_step ordered whole met taken⟩
  exact both.mono fun f held => held.1.told held.2

end Runs

end Feed

def takenAs (id : String) : OrderResult :=
  { OrderResult.bare .accepted (Text.lit "taken") with orderId := some id }

def sentAndCancelled : List FeedEvent :=
  [.create (plainApproval "EURUSD" "buy" 1) (plainArgs "intent-1" "order-0") 0,
    .discard "order-0",
    .create (plainApproval "EURUSD" "buy" 1) (plainArgs "intent-1" "order-1") 0,
    .drain,
    .call "order-1" (.submit 1 (.ok (some (plainSymbol "EURUSD"))) (.ok (takenAs "7"))),
    .call "order-1" (.cancel 2 (Text.lit "stop") (.ok (.bare .accepted (Text.lit "done")))),
    .drain]

theorem told_sentAndCancelled :
    Run.Along Feed.step Feed.Told (Feed.fresh .demo none) sentAndCancelled ∧
      (Run.exec Feed.step (Feed.fresh .demo none) sentAndCancelled).map
        (fun f => (eventsOf "order-0" f.published, eventsOf "order-1" f.published)) =
        some ([], [.orderCreated, .orderUpdated, .orderSubmitted, .orderAcknowledged,
          .orderUpdated, .orderCancelled]) := by
  refine ⟨Feed.told_along .demo none sentAndCancelled ?_, by decide +kernel⟩
  refine ⟨True.intro, fun f taken => ⟨fun o _ _ => ?_, fun _ _ => ⟨True.intro, fun _ _ =>
    ⟨True.intro, fun _ _ => ⟨fun o _ => ?_, fun _ _ => ⟨fun o _ => ?_, fun _ _ =>
      ⟨True.intro, fun _ _ => True.intro⟩⟩⟩⟩⟩⟩⟩
  · obtain ⟨-, -, rfl⟩ := Feed.step_create taken
    rcases Feed.create_left _ _ _ _ with same | ⟨volume, positive, added⟩
    · rw [same]
      rfl
    · rw [added]
      rfl
  · intro _ result same _ report filled
    cases same
    cases filled
  · rintro _ _ ⟨result, same, rejected⟩
    cases same
    cases rejected

def cancelRefused : List FeedEvent :=
  [.create (plainApproval "EURUSD" "buy" 1) (plainArgs "intent-1" "order-1") 0,
    .call "order-1" (.submit 1 (.ok (some (plainSymbol "EURUSD"))) (.ok (takenAs "7"))),
    .call "order-1" (.cancel 2 (Text.lit "stop") (.ok (.bare .rejected (Text.lit "late")))),
    .drain]

theorem cancelRefused_ends :
    (Run.exec Feed.step (Feed.fresh .demo none) cancelRefused).map
      (fun f => (eventsOf "order-1" (f.published ++ f.outbox.pending),
        (f.manager.orders "order-1").map fun o => o.transitions.map OrderTransition.event)) =
      some ([.orderCreated, .orderUpdated, .orderSubmitted, .orderAcknowledged],
        some [.orderUpdated, .orderSubmitted, .orderAcknowledged, .orderUpdated,
          .orderAcknowledged]) := by
  decide +kernel

/-- `cancel` returns from a refusal of the venue without announcing it. -/
theorem not_forall_told :
    ¬ ∀ (mode : Mode) (broker : Option String) (events : List FeedEvent),
      Run.Along Feed.step Feed.Told (Feed.fresh mode broker) events := by
  intro all
  obtain ⟨f, run, ended⟩ := Option.map_eq_some_iff.mp cancelRefused_ends
  have told : f.Told := (all .demo none cancelRefused).last run
  obtain ⟨heard, trail⟩ := Prod.mk.inj ended
  obtain ⟨o, held, made⟩ := Option.map_eq_some_iff.mp trail
  have whole := told.registered "order-1" o held
  rw [made] at whole
  have both := heard.symm.trans whole
  exact absurd both (by decide)

end TradeResearch.Oms
