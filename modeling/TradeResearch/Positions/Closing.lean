import TradeResearch.Execution.System
import TradeResearch.Positions.Executor

/-!
# One close for one request

Any number of calls of `BrokerExitExecutor.close` among the passes, the settlements and the crashes
of `Execution/System.lean`. What keeps a close from being sent twice is the intent of its order,
which is the position and the text of the volume, in the memory of one process.

The text tells apart what is the same: `0.3` and `0.30`, or one close in two processes. It makes the
same of what is not: a close that failed and the one that follows it, or two equal parts of one
position.

* `ClosingWorld.step` takes one event. A call is taken up where it gets the lock of its account: the
  creation of the order, its recording and its send are one event, since nothing else creates an
  order of the account before the lock is given back.
* `Idempotent` is the claim on a close for one step: what it sends and what it turns away.
* `closes_idempotent_iff_meets` says when the steps of a run are idempotent.
-/

namespace TradeResearch.Positions

open Oms Brokers Risk Execution

structure Closing where
  process : String
  account : String
  order : ManagedOrder

structure AskedClose where
  process : String
  account : String
  orderId : String
  positionId : String
  volume : Decimal
  quantity : Decimal
  deriving DecidableEq

structure CloseCall where
  mode : Mode
  risk : RiskEngine
  preparedAt : Time
  decisionId : String
  lockedAt : Time
  orderId : String
  before : Option Transaction
  sentAt : Time

structure ClosingWorld where
  world : World
  closing : ℕ → Option Closing
  sent : List AskedClose
  declined : List AskedClose

inductive ClosingEvent where
  /-- Anything but a close. -/
  | other (e : Event)
  | close (t : ℕ) (process : String) (r : CloseRequest) (call : CloseCall)
  | answer (t : ℕ) (answer : Answer OrderResult) (now : Time) (after : Option Transaction)

def CloseTicket.asked (t : CloseTicket) (process orderId : String) (quantity : Decimal) :
    AskedClose :=
  { process, account := t.accountId, orderId, positionId := t.positionId, volume := t.volume,
    quantity }

namespace ClosingWorld

def start : ClosingWorld :=
  { world := .start, closing := fun _ => none, sent := [], declined := [] }

def surviving (w : ClosingWorld) : Event → ℕ → Option Closing
  | .crash process => fun t => (w.closing t).filter fun c => decide (c.process ≠ process)
  | _ => w.closing

def recorded (table : OrdersTable) (tx : Option Transaction) (o : ManagedOrder) : OrdersTable :=
  (tx.map fun tx => (table.write tx o).1).getD table

def executor (w : ClosingWorld) (process : String) (call : CloseCall) : BrokerExitExecutor :=
  { managers := (w.world.procs process).managers, mode := call.mode, risk := call.risk }

def Enters (w : ClosingWorld) (process account orderId : String) : Prop :=
  (w.world.procs process).locks account = none ∧ orderId ∉ w.world.issued.map Issue.orderId

instance (w : ClosingWorld) (process account orderId : String) :
    Decidable (w.Enters process account orderId) :=
  decidable_of_iff
    (((w.world.procs process).locks account).isNone = true ∧
      orderId ∉ w.world.issued.map Issue.orderId)
    (by rw [Option.isNone_iff_eq_none]; rfl)

def created (w : ClosingWorld) (process : String) (ticket : CloseTicket) (call : CloseCall)
    (order : ManagedOrder) (q : Process) : World :=
  { w.world with
    table := recorded w.world.table call.before order
    issued := ⟨call.orderId, ticket.intentId, process, ticket.accountId⟩ :: w.world.issued
    procs := Function.update w.world.procs process q }

def send (w : ClosingWorld) (t : ℕ) (process : String) (quantity : Decimal)
    (ticket : CloseTicket) (call : CloseCall) (m : OrderManager) (order : ManagedOrder) :
    ClosingWorld :=
  let begun := (ManagedOrder.closeBegin call.sentAt ticket.brokerPositionId).exec order
  let q := ((w.world.procs process).setManager ticket.accountId m).update ticket.accountId begun.2
  match begun.1 with
  | .error _ =>
    { w with
      world := w.created process ticket call order q
      declined := ticket.asked process call.orderId quantity :: w.declined }
  | .ok () =>
    { w with
      world := w.created process ticket call order (q.acquire ticket.accountId t)
      closing := Function.update w.closing t (some ⟨process, ticket.accountId, begun.2⟩)
      sent := ticket.asked process call.orderId quantity :: w.sent }

def enter (w : ClosingWorld) (t : ℕ) (process : String) (quantity : Decimal)
    (m : OrderManager) (ticket : CloseTicket) (call : CloseCall) : ClosingWorld :=
  let built := (ticket.build call.orderId call.lockedAt).exec m
  match built.1 with
  | .ok (.ok id) =>
    match built.2.orders id with
    | some order => w.send t process quantity ticket call built.2 order
    | none => { w with declined := ticket.asked process call.orderId quantity :: w.declined }
  | _ => { w with declined := ticket.asked process call.orderId quantity :: w.declined }

def settle (w : ClosingWorld) (t : ℕ) (c : Closing) (answer : Answer OrderResult) (now : Time)
    (after : Option Transaction) : ClosingWorld :=
  let q := w.world.procs c.process
  let read := (ManagedOrder.applyAnswer now answer).exec (q.object c.account c.order)
  let table :=
    match read.1 with
    | .error _ => w.world.table
    | .ok () => recorded w.world.table after read.2
  { w with
    world :=
      { w.world with
        table
        procs := Function.update w.world.procs c.process
          ((q.update c.account read.2).release c.account) }
    closing := Function.update w.closing t none }

def step (d : Deployment) (w : ClosingWorld) : ClosingEvent → Option ClosingWorld
  | .other e =>
    (w.world.step d e).map fun world => { w with world, closing := w.surviving e }
  | .close t process r call =>
    if (w.closing t).isSome then none
    else
      match r.prepare (w.executor process call) call.preparedAt call.decisionId with
      | .error _ => some w
      | .ok (m, ticket) =>
        if w.Enters process ticket.accountId call.orderId then
          some (w.enter t process r.quantity m ticket call)
        else none
  | .answer t answer now after => (w.closing t).map fun c => w.settle t c answer now after

def reports (w : ClosingWorld) (c : AskedClose) : List (OrderStatus × ℚ) :=
  (((w.world.procs c.process).orderAt c.account c.orderId).toList.map
      fun o => (o.status, o.filledQuantity)) ++
    (w.world.table.rows.filter fun row => decide (row.id = c.orderId)).map
      fun row => (row.status, row.filledQuantity)

def Settled (w : ClosingWorld) (c : AskedClose) : Prop :=
  ∃ report ∈ w.reports c, report.1.terminal = true

def Failed (w : ClosingWorld) (c : AskedClose) : Prop :=
  ∃ report ∈ w.reports c, report.1.terminal = true ∧ report.1 ≠ .filled ∧ report.2 = 0

instance (w : ClosingWorld) (c : AskedClose) : Decidable (w.Settled c) :=
  inferInstanceAs (Decidable (∃ report ∈ w.reports c, _))

instance (w : ClosingWorld) (c : AskedClose) : Decidable (w.Failed c) :=
  inferInstanceAs (Decidable (∃ report ∈ w.reports c, _))

def Repeats (w : ClosingWorld) (c : AskedClose) : Prop :=
  ∃ sent ∈ w.sent, sent.positionId = c.positionId ∧ sent.volume.value = c.volume.value ∧
    sent.quantity.value = c.quantity.value ∧ ¬ w.Failed sent

instance (w : ClosingWorld) (c : AskedClose) : Decidable (w.Repeats c) :=
  inferInstanceAs (Decidable (∃ sent ∈ w.sent, _))

def Further (w : ClosingWorld) (c : AskedClose) : Prop :=
  (∃ sent ∈ w.sent, sent.positionId = c.positionId) ∧
    (∀ sent ∈ w.sent, sent.positionId = c.positionId → w.Settled sent) ∧ ¬ w.Repeats c

end ClosingWorld

structure Idempotent (w w' : ClosingWorld) : Prop where
  once : ∀ c, w'.sent = c :: w.sent → ¬ w.Repeats c
  further : ∀ c, w'.declined = c :: w.declined → ¬ w.Further c

def CloseTicket.Passes (t : CloseTicket) (m : OrderManager) (now : Time) : Prop :=
  m.orderFor t.intentId = none ∧ t.approval.expired now = false ∧ t.brokerPositionId ≠ ""

namespace ClosingWorld

variable {w : ClosingWorld} {t : ℕ} {process : String} {quantity : Decimal} {m : OrderManager}
  {ticket : CloseTicket}

theorem send_cases (w : ClosingWorld) (t : ℕ) (process : String) (quantity : Decimal)
    (ticket : CloseTicket) (call : CloseCall) (m : OrderManager) {order : ManagedOrder}
    (new : order.status = .intent) :
    (ticket.brokerPositionId ≠ "" →
        (w.send t process quantity ticket call m order).sent =
            ticket.asked process call.orderId quantity :: w.sent ∧
          (w.send t process quantity ticket call m order).declined = w.declined) ∧
      (ticket.brokerPositionId = "" →
        (w.send t process quantity ticket call m order).sent = w.sent ∧
          (w.send t process quantity ticket call m order).declined =
            ticket.asked process call.orderId quantity :: w.declined) := by
  unfold send
  constructor
  · intro named
    obtain ⟨reason, begun⟩ := ManagedOrder.exec_closeBegin_of_created call.sentAt new named
    rw [begun]
    exact ⟨rfl, rfl⟩
  · intro unnamed
    obtain ⟨reason, refused⟩ := ManagedOrder.exec_closeBegin_refused call.sentAt (o := order)
      (.inr unnamed)
    rw [refused]
    exact ⟨rfl, rfl⟩

theorem enter_of_passes {r : CloseRequest} {x : BrokerExitExecutor}
    (prepared : r.prepare x call.preparedAt call.decisionId = .ok (m, ticket))
    (passes : ticket.Passes m call.lockedAt) :
    (w.enter t process quantity m ticket call).sent =
        ticket.asked process call.orderId quantity :: w.sent ∧
      (w.enter t process quantity m ticket call).declined = w.declined := by
  obtain ⟨new, standing, named⟩ := passes
  obtain ⟨volume, positive, built⟩ := ticket.exec_build_of_new call.orderId call.lockedAt new
    (CloseRequest.prepare_accepts prepared standing call.orderId)
  have held : (m.register (m.newOrder ticket.approval (ticket.args call.orderId) volume positive
      call.lockedAt)).orders call.orderId = some (m.newOrder ticket.approval
        (ticket.args call.orderId) volume positive call.lockedAt) := Function.update_self ..
  unfold enter
  rw [built]
  dsimp only
  rw [held]
  exact (w.send_cases t process quantity ticket call _ rfl).1 named

theorem enter_of_not_passes (blocked : ¬ ticket.Passes m call.lockedAt) :
    (w.enter t process quantity m ticket call).sent = w.sent ∧
      (w.enter t process quantity m ticket call).declined =
        ticket.asked process call.orderId quantity :: w.declined := by
  unfold enter
  have outcome := ticket.build_cases call.orderId call.lockedAt m
  generalize (ticket.build call.orderId call.lockedAt).exec m = built at outcome
  cases outcome with
  | raised e | refused outcome => exact ⟨rfl, rfl⟩
  | created new accepts volume positive approved =>
    have held : (m.register (m.newOrder ticket.approval (ticket.args call.orderId) volume positive
        call.lockedAt)).orders call.orderId = some (m.newOrder ticket.approval
          (ticket.args call.orderId) volume positive call.lockedAt) := Function.update_self ..
    have unnamed : ticket.brokerPositionId = "" := by
      by_contra named
      exact blocked ⟨new, accepts.standing, named⟩
    dsimp only
    rw [held]
    exact (w.send_cases t process quantity ticket call _ rfl).2 unnamed

end ClosingWorld

theorem Idempotent.of_same {w w' : ClosingWorld} (sent : w'.sent = w.sent)
    (declined : w'.declined = w.declined) : Idempotent w w' where
  once c grown := absurd (sent.symm.trans grown).symm (List.cons_ne_self c w.sent)
  further c grown := absurd (declined.symm.trans grown).symm (List.cons_ne_self c w.declined)

theorem idempotent_of_sent_iff {w w' : ClosingWorld} {c : AskedClose}
    (sent : w'.sent = c :: w.sent) (declined : w'.declined = w.declined) :
    Idempotent w w' ↔ ¬ w.Repeats c := by
  constructor
  · exact fun idempotent => idempotent.once c sent
  · intro first
    refine ⟨fun c' grown => ?_, fun c' grown => ?_⟩
    · obtain ⟨same, _⟩ := List.cons.inj (sent.symm.trans grown)
      exact same ▸ first
    · exact absurd (declined.symm.trans grown).symm (List.cons_ne_self c' w.declined)

theorem idempotent_of_declined_iff {w w' : ClosingWorld} {c : AskedClose}
    (sent : w'.sent = w.sent) (declined : w'.declined = c :: w.declined) :
    Idempotent w w' ↔ ¬ w.Further c := by
  constructor
  · exact fun idempotent => idempotent.further c declined
  · intro covered
    refine ⟨fun c' grown => ?_, fun c' grown => ?_⟩
    · exact absurd (sent.symm.trans grown).symm (List.cons_ne_self c' w.sent)
    · obtain ⟨same, _⟩ := List.cons.inj (declined.symm.trans grown)
      exact same ▸ covered

def Keyed (w : ClosingWorld) : ClosingEvent → Prop
  | .close t process r call =>
    w.closing t = none →
      ∀ m ticket, r.prepare (w.executor process call) call.preparedAt call.decisionId =
          .ok (m, ticket) →
        w.Enters process ticket.accountId call.orderId →
          (ticket.Passes m call.lockedAt →
              ¬ w.Repeats (ticket.asked process call.orderId r.quantity)) ∧
            (¬ ticket.Passes m call.lockedAt →
              ¬ w.Further (ticket.asked process call.orderId r.quantity))
  | _ => True

theorem step_close_cases {d : Deployment} {w w' : ClosingWorld} {t : ℕ} {process : String}
    {r : CloseRequest} {call : CloseCall} (taken : w.step d (.close t process r call) = some w') :
    (∃ outcome, r.prepare (w.executor process call) call.preparedAt call.decisionId =
        .error outcome ∧ w' = w) ∨
      ∃ m ticket, w.closing t = none ∧
        r.prepare (w.executor process call) call.preparedAt call.decisionId = .ok (m, ticket) ∧
        w.Enters process ticket.accountId call.orderId ∧
        w' = w.enter t process r.quantity m ticket call := by
  dsimp only [ClosingWorld.step] at taken
  cases idle : w.closing t with
  | some c =>
    rw [idle] at taken
    cases taken
  | none =>
    rw [idle] at taken
    cases prepared : r.prepare (w.executor process call) call.preparedAt call.decisionId with
    | error outcome =>
      rw [prepared] at taken
      cases taken
      exact .inl ⟨outcome, rfl, rfl⟩
    | ok pair =>
      obtain ⟨m, ticket⟩ := pair
      rw [prepared] at taken
      by_cases enters : w.Enters process ticket.accountId call.orderId
      · refine .inr ⟨m, ticket, rfl, rfl, enters, ?_⟩
        simpa [enters] using taken.symm
      · simp [enters] at taken

theorem keyed_close_iff {w : ClosingWorld} {t : ℕ} {process : String} {r : CloseRequest}
    {call : CloseCall} {m : OrderManager} {ticket : CloseTicket} (idle : w.closing t = none)
    (prepared : r.prepare (w.executor process call) call.preparedAt call.decisionId =
      .ok (m, ticket))
    (enters : w.Enters process ticket.accountId call.orderId) :
    Keyed w (.close t process r call) ↔
      (ticket.Passes m call.lockedAt →
          ¬ w.Repeats (ticket.asked process call.orderId r.quantity)) ∧
        (¬ ticket.Passes m call.lockedAt →
          ¬ w.Further (ticket.asked process call.orderId r.quantity)) := by
  constructor
  · exact fun keyed => keyed idle m ticket prepared enters
  · intro keyed _ m' ticket' prepared' _
    cases prepared.symm.trans prepared'
    exact keyed

theorem idempotent_step_iff {d : Deployment} {w w' : ClosingWorld} {e : ClosingEvent}
    (taken : w.step d e = some w') : Idempotent w w' ↔ Keyed w e := by
  cases e with
  | other e =>
    obtain ⟨world, _, rfl⟩ := Option.map_eq_some_iff.mp taken
    exact iff_of_true (.of_same rfl rfl) True.intro
  | answer t answer now after =>
    obtain ⟨c, _, rfl⟩ := Option.map_eq_some_iff.mp taken
    exact iff_of_true (.of_same rfl rfl) True.intro
  | close t process r call =>
    rcases step_close_cases taken with
      ⟨outcome, refused, rfl⟩ | ⟨m, ticket, idle, prepared, enters, rfl⟩
    · refine iff_of_true (.of_same rfl rfl) fun _ m ticket prepared => ?_
      cases refused.symm.trans prepared
    rw [keyed_close_iff idle prepared enters]
    by_cases passes : ticket.Passes m call.lockedAt
    · obtain ⟨sent, declined⟩ :=
        @ClosingWorld.enter_of_passes w t process r.quantity m ticket call r _ prepared passes
      rw [idempotent_of_sent_iff sent declined]
      exact ⟨fun first => ⟨fun _ => first, fun blocked => absurd passes blocked⟩,
        fun keyed => keyed.1 passes⟩
    · obtain ⟨sent, declined⟩ :=
        @ClosingWorld.enter_of_not_passes w t process r.quantity m ticket call passes
      rw [idempotent_of_declined_iff sent declined]
      exact ⟨fun covered => ⟨fun through => absurd through passes, fun _ => covered⟩,
        fun keyed => keyed.2 passes⟩

theorem keyed_of_untaken {d : Deployment} {w : ClosingWorld} {e : ClosingEvent}
    (untaken : w.step d e = none) : Keyed w e := by
  cases e with
  | other e | answer t answer now after => exact True.intro
  | close t process r call =>
    intro idle m ticket prepared enters
    dsimp only [ClosingWorld.step] at untaken
    rw [idle, prepared] at untaken
    simp [enters] at untaken

def closePart (quantity wanted : Decimal) : CloseRequest :=
  { positionId := "position", symbol := "EURUSD", side := .long, quantity,
    brokerPositionId := some "1001", accountId := some "account", strategyVersionId := none,
    wanted := some wanted, referencePrice := 1 }

def plainCall (orderId : String) : CloseCall :=
  { mode := .demo, risk := ⟨.default, {}⟩, preparedAt := 0, decisionId := "decision",
    lockedAt := 0, orderId, before := some .commits, sentAt := 0 }

def threeTenthsFilled : OrderResult :=
  { OrderResult.bare .accepted (Text.lit "closed") with
    orderId := some "2002"
    fillPrice := some (.finite 1)
    filledVolume := some (.finite (3 / 10)) }

def firstClose : List ClosingEvent :=
  [.other (.register "process" "account" .demo none),
    .close 0 "process" (closePart ⟨false, 1, 0⟩ ⟨false, 3, -1⟩) (plainCall "first"),
    .answer 0 (.ok threeTenthsFilled) 0 (some .commits)]

def secondClose : ClosingEvent :=
  .close 1 "process" (closePart ⟨false, 1, 0⟩ ⟨false, 30, -2⟩) (plainCall "second")

/-- Half of a lot, closed and filled; the other half is turned away under the same text. -/
example :
    let half : Decimal := ⟨false, 5, -1⟩
    let filled := { threeTenthsFilled with filledVolume := some (.finite (1 / 2)) }
    (Run.exec (ClosingWorld.step allDurable) .start
      [.other (.register "process" "account" .demo none),
        .close 0 "process" (closePart ⟨false, 1, 0⟩ half) (plainCall "first"),
        .answer 0 (.ok filled) 0 (some .commits),
        .close 1 "process" (closePart half half) (plainCall "second")]).map
      (fun w => (w.sent.map AskedClose.orderId, w.declined.map AskedClose.orderId)) =
        some (["first"], ["second"]) := by
  decide +kernel

end TradeResearch.Positions
