import TradeResearch.Execution.Pipeline
import TradeResearch.Oms.Calls

/-!
# Processes, passes and settlements over one orders table

Any number of processes, each with its own order managers and a lock per account
(`OrderManagerRegistry` of `backend/app/oms/registry.py`), share one orders table. A `Pass` is one
signal in `ExecutionPipeline.process` or one request in `submit_order` of
`backend/app/api/v1/orders.py`; a `Settlement` is one order in `_settle` of
`backend/app/oms/worker.py` or one request in `reconcile_order`. Each is cut at its awaits: an
event resumes one of them with the answer it was waiting for, and events of different tasks come
in any order. A crash drops the tasks of a process and everything it had in memory.

An order id is drawn by `uuid4`, so one that was ever issued is not issued again. `World.issued`
and `World.sent` are not state of the platform: they write down which ids were issued and which
sends were awaited.

* `World.step` takes one event.
* `Pass.key` is the intent a pass sends for.
-/

namespace TradeResearch.Execution

open Oms Brokers Risk

inductive Caller where
  | pipeline (signal : IncomingSignal) (now : Time)
  | route (key orderType timeInForce : String)
  deriving DecidableEq

inductive Ending where
  /-- `process` returned. -/
  | outcome (result : ExecutionResult)
  /-- The route raised a `Conflict`. -/
  | conflict (reason : Text)
  /-- The route raised something else. -/
  | raised (e : Exn)
  /-- The route answered with the order. -/
  | responded (status : OrderStatus)

inductive Stage where
  | strategy
  | spec
  | risk
  | lock (approval : Approval)
  | prior (approval : Approval)
  | record (o : ManagedOrder)
  | venueSpec (o : ManagedOrder)
  | place (o : ManagedOrder)
  | recordAfter (o : ManagedOrder)
  | done (ending : Ending)

structure Pass where
  process : String
  account : String
  caller : Caller
  stage : Stage
  sent : Bool
  answered : Option (ManagedOrder × Answer OrderResult)

inductive Settler where
  | worker
  | route
  deriving DecidableEq

inductive Verdict where
  | settled
  | unreadable
  | unrecorded
  | faulted
  | gone
  | raised (e : Exn)

inductive SettleStage where
  | lock (orderId : String)
  | reading (o : ManagedOrder)
  | recording (o : ManagedOrder)
  | done (verdict : Verdict)

structure Settlement where
  process : String
  account : String
  settler : Settler
  stage : SettleStage

inductive Task where
  | pass (p : Pass)
  | settlement (s : Settlement)

def Caller.key : Caller → String
  | pipeline signal _ => signal.signalKey
  | route key _ _ => key

def Pass.key (p : Pass) : String := p.caller.key

def Caller.clock (caller : Caller) (now : Time) : Time :=
  match caller with
  | pipeline _ start => start
  | route _ _ _ => now

def Stage.locked : Stage → Bool
  | prior _ => true
  | record _ => true
  | venueSpec _ => true
  | place _ => true
  | recordAfter _ => true
  | _ => false

def Stage.order? : Stage → Option ManagedOrder
  | record o => some o
  | venueSpec o => some o
  | place o => some o
  | recordAfter o => some o
  | _ => none

def SettleStage.order? : SettleStage → Option ManagedOrder
  | reading o => some o
  | recording o => some o
  | _ => none

namespace Task

def process : Task → String
  | pass p => p.process
  | settlement s => s.process

def account : Task → String
  | pass p => p.account
  | settlement s => s.account

def locked : Task → Bool
  | pass p => p.stage.locked
  | settlement s => decide (s.settler = .worker) && s.stage.order?.isSome

def order? : Task → Option ManagedOrder
  | pass p => p.stage.order?
  | settlement s => s.stage.order?

end Task

def Caller.refusal (caller : Caller) (outcome : Outcome) (detail : Text) : Ending :=
  match caller with
  | pipeline signal now => .outcome ⟨signal.signalKey, outcome, now, detail.take 300⟩
  | route _ _ _ => .conflict detail

def Caller.fault (caller : Caller) (e : Exn) : Ending :=
  match caller with
  | pipeline signal now =>
    .outcome ⟨signal.signalKey, .strategyError, now, Text.take 300 e.describe⟩
  | route _ _ _ => .raised e

def Caller.turnedAway (caller : Caller) (refused : Outcome) : Exn → Ending × Bool
  | .reconciliationRequired reason => (caller.refusal .executionUnknown reason, false)
  | .orderRefused reason => (caller.refusal refused reason, true)
  | e => (caller.fault e, false)

def Caller.duplicated (caller : Caller) (orderId : String) : Text :=
  match caller with
  | pipeline signal _ => Text.lit s!"intent {signal.signalKey} already has order {orderId}"
  | route key _ _ => Text.lit s!"idempotency key {key} already produced order {orderId}"

def Caller.concluded (caller : Caller) (o : ManagedOrder) : Ending :=
  match caller with
  | pipeline signal now =>
    .outcome
      { signalKey := signal.signalKey
        outcome := outcomeFor o.status
        time := now
        detail := (o.rejectReason.getD []).orElse
          (Text.lit s!"order {o.id} is {o.status.name}") }
  | route _ _ _ => .responded o.status

def Caller.createArgs (caller : Caller) (account orderId : String) : CreateArgs :=
  match caller with
  | pipeline signal _ =>
    { intentId := signal.signalKey, accountId := account, orderId, orderType := "market",
      timeInForce := "gtc", botId := none, expiresAt := none }
  | route key orderType timeInForce =>
    { intentId := key, accountId := account, orderId, orderType, timeInForce, botId := none,
      expiresAt := none }

structure Process where
  managers : String → Option OrderManager
  locks : String → Option ℕ
  seen : List String

namespace Process

def fresh : Process := { managers := fun _ => none, locks := fun _ => none, seen := [] }

def acquire (q : Process) (account : String) (t : ℕ) : Process :=
  { q with locks := Function.update q.locks account (some t) }

def release (q : Process) (account : String) : Process :=
  { q with locks := Function.update q.locks account none }

def see (q : Process) (caller : Caller) : Process :=
  match caller with
  | .pipeline signal _ => { q with seen := signal.signalKey :: q.seen }
  | .route _ _ _ => q

def setManager (q : Process) (account : String) (m : OrderManager) : Process :=
  { q with managers := Function.update q.managers account (some m) }

def orderAt (q : Process) (account orderId : String) : Option ManagedOrder :=
  (q.managers account).bind fun m => m.orders orderId

def object (q : Process) (account : String) (o : ManagedOrder) : ManagedOrder :=
  (q.orderAt account o.id).getD o

def update (q : Process) (account : String) (o : ManagedOrder) : Process :=
  match q.managers account with
  | none => q
  | some m => if (m.orders o.id).isSome then q.setManager account (m.put o) else q

end Process

structure Issue where
  orderId : String
  intentId : String
  process : String
  account : String

structure Sent where
  intentId : String
  orderId : String

structure World where
  table : OrdersTable
  procs : String → Process
  tasks : ℕ → Option Task
  issued : List Issue
  sent : List Sent

structure Deployment where
  durable : String → Bool
  maxSignalAgeSeconds : ℚ

def Deployment.records (d : Deployment) (p : Pass) : Bool :=
  match p.caller with
  | .pipeline _ _ => d.durable p.process
  | .route _ _ _ => true

namespace World

def start : World :=
  { table := .empty, procs := fun _ => .fresh, tasks := fun _ => none, issued := [], sent := [] }

def advance (w : World) (t : ℕ) (task : Task) (q : Process) : World :=
  { w with
    tasks := Function.update w.tasks t (some task)
    procs := Function.update w.procs task.process q }

def pastGate {α : Type} (w : World) (t : ℕ) (p : Pass) (gate : Gate α) (go : α → Stage) : World :=
  let q := w.procs p.process
  match gate with
  | .go a => w.advance t (.pass { p with stage := go a }) q
  | .raise e => w.advance t (.pass { p with stage := .done (p.caller.fault e) }) q
  | .refuse refusal =>
    w.advance t
      (.pass { p with stage := .done (p.caller.refusal refusal.outcome refusal.detail) })
      (if refusal.consumed then q.see p.caller else q)

def endPass (w : World) (t : ℕ) (p : Pass) (q : Process) (ending : Ending) : World :=
  w.advance t (.pass { p with stage := .done ending }) (q.release p.account)

def turnAway (w : World) (t : ℕ) (p : Pass) (q : Process) (refused : Outcome) (e : Exn) : World :=
  let turned := p.caller.turnedAway refused e
  w.endPass t p (if turned.2 then q.see p.caller else q) turned.1

def acquirePass (w : World) (t : ℕ) (p : Pass) (approval : Approval) : World :=
  let q := (w.procs p.process).acquire p.account t
  match q.managers p.account with
  | none => w.endPass t p q (p.caller.fault (.other "NoOrderManager" []))
  | some m =>
    match m.guardResend p.key with
    | .error e => w.turnAway t p q .duplicateSignal e
    | .ok () => w.advance t (.pass { p with stage := .prior approval }) q

def durableGuard (d : Deployment) (w : World) (p : Pass) : Except Exn Unit :=
  match p.caller with
  | .pipeline _ _ =>
    if d.durable p.process then
      guardResendDurably p.key ((w.table.orderForIntent p.key).map priorFrom)
    else .ok ()
  | .route _ _ _ => guardRecorded p.key (w.table.orderForIntent p.key)

def createOrder (w : World) (t : ℕ) (p : Pass) (approval : Approval) (orderId : String)
    (now : Time) : World :=
  let q := w.procs p.process
  match q.managers p.account with
  | none => w.endPass t p q (p.caller.fault (.other "NoOrderManager" []))
  | some m =>
    let created := (OrderManager.create approval (p.caller.createArgs p.account orderId)
      (p.caller.clock now)).exec m
    match created.1 with
    | .error e => w.turnAway t p q .executionRejected e
    | .ok submission =>
      match submission.duplicate, created.2.orders submission.orderId with
      | false, some o =>
        { w with issued := ⟨orderId, p.key, p.process, p.account⟩ :: w.issued }.advance t
          (.pass { p with stage := .record o }) (q.setManager p.account created.2)
      | _, _ =>
        w.turnAway t p q .duplicateSignal
          (.orderRefused (p.caller.duplicated submission.orderId))

def resumePrior (d : Deployment) (w : World) (t : ℕ) (p : Pass) (approval : Approval)
    (read : Option Exn) (orderId : String) (now : Time) : World :=
  match read with
  | some e => w.endPass t p (w.procs p.process) (p.caller.fault e)
  | none =>
    match durableGuard d w p with
    | .error e => w.turnAway t p (w.procs p.process) .duplicateSignal e
    | .ok () => w.createOrder t p approval orderId now

def unrecorded (w : World) (t : ℕ) (p : Pass) (o : ManagedOrder) (e : Exn) : World :=
  let q := w.procs p.process
  match p.caller with
  | .pipeline _ _ =>
    let q' :=
      match q.managers p.account with
      | none => q
      | some m => q.setManager p.account ((OrderManager.discardOrder (q.object p.account o)).left m)
    w.endPass t p q' (p.caller.refusal .notRecorded
      (Text.take 300 (Text.lit "the order could not be recorded, so it was not sent: " ++
        e.describe)))
  | .route _ _ _ => w.endPass t p q (.raised e)

def beginSubmit (w : World) (t : ℕ) (p : Pass) (o : ManagedOrder) (now : Time) : World :=
  let q := (w.procs p.process).see p.caller
  let begun := (ManagedOrder.submitBegin (p.caller.clock now)).exec (q.object p.account o)
  let q' := q.update p.account begun.2
  match begun.1 with
  | .error e => w.endPass t p q' (p.caller.fault e)
  | .ok true => w.advance t (.pass { p with stage := .venueSpec begun.2 }) q'
  | .ok false => w.advance t (.pass { p with stage := .recordAfter begun.2 }) q'

def writeOrder (d : Deployment) (w : World) (p : Pass) (tx : Transaction) (o : ManagedOrder) :
    OrdersTable × Except Exn Unit :=
  if d.records p then w.table.write tx ((w.procs p.process).object p.account o)
  else (w.table, .ok ())

def resumeRecord (d : Deployment) (w : World) (t : ℕ) (p : Pass) (o : ManagedOrder)
    (tx : Transaction) (now : Time) : World :=
  let written := writeOrder d w p tx o
  match written.2 with
  | .error e => { w with table := written.1 }.unrecorded t p o e
  | .ok () => { w with table := written.1 }.beginSubmit t p o now

def resumeSpec (w : World) (t : ℕ) (p : Pass) (o : ManagedOrder)
    (spec : Answer (Option SymbolInfo)) (now : Time) : World :=
  let q := w.procs p.process
  let checked := (ManagedOrder.submitSpec (p.caller.clock now) spec).exec (q.object p.account o)
  let q' := q.update p.account checked.2
  match checked.1 with
  | .error e => w.endPass t p q' (p.caller.fault e)
  | .ok true =>
    { w with sent := ⟨p.key, checked.2.id⟩ :: w.sent }.advance t
      (.pass { p with stage := .place checked.2, sent := true }) q'
  | .ok false => w.advance t (.pass { p with stage := .recordAfter checked.2 }) q'

def resumePlace (w : World) (t : ℕ) (p : Pass) (o : ManagedOrder) (answer : Answer OrderResult)
    (now : Time) : World :=
  let q := w.procs p.process
  let met := q.object p.account o
  let read := (ManagedOrder.applyAnswer (p.caller.clock now) answer).exec met
  let p' := { p with answered := some (met, answer) }
  match read.1 with
  | .error e => w.endPass t p' (q.update p.account read.2) (p.caller.fault e)
  | .ok () =>
    w.advance t (.pass { p' with stage := .recordAfter read.2 }) (q.update p.account read.2)

def resumeRecordAfter (d : Deployment) (w : World) (t : ℕ) (p : Pass) (o : ManagedOrder)
    (tx : Transaction) : World :=
  let written := writeOrder d w p tx o
  let q := w.procs p.process
  let ending :=
    match p.caller, written.2 with
    | .route _ _ _, .error e => .raised e
    | caller, _ => caller.concluded (q.object p.account o)
  { w with table := written.1 }.endPass t p q ending

def endSettlement (w : World) (t : ℕ) (s : Settlement) (q : Process) (verdict : Verdict) : World :=
  w.advance t (.settlement { s with stage := .done verdict })
    (match s.settler with
      | .worker => q.release s.account
      | .route => q)

def acquireSettlement (w : World) (t : ℕ) (s : Settlement) (orderId : String) : World :=
  let q := (w.procs s.process).acquire s.account t
  match q.orderAt s.account orderId with
  | none => w.endSettlement t s q .gone
  | some o =>
    if o.needsReconciliation then
      w.advance t (.settlement { s with stage := .reading o }) q
    else w.endSettlement t s q .gone

def requestReconcile (w : World) (t : ℕ) (process account : String) (o : ManagedOrder) : World :=
  w.advance t
    (.settlement
      { process, account, settler := .route
        stage := if o.needsReconciliation then .reading o else .recording o })
    (w.procs process)

def resumeReading (w : World) (t : ℕ) (s : Settlement) (o : ManagedOrder)
    (orders : Answer (List BrokerOrder)) (positions : Answer (List BrokerPosition)) (now : Time) :
    World :=
  let q := w.procs s.process
  match orders, positions with
  | .ok orders, .ok positions =>
    let settled := (ManagedOrder.settle now orders positions).exec (q.object s.account o)
    let q' := q.update s.account settled.2
    match settled.1 with
    | .ok () => w.advance t (.settlement { s with stage := .recording settled.2 }) q'
    | .error e =>
      w.endSettlement t s q' (if s.settler = .worker then .faulted else .raised e)
  | .error e, _ =>
    w.endSettlement t s q
      (if s.settler = .worker then .unreadable else .raised (ManagedOrder.unreadable e))
  | _, .error e =>
    w.endSettlement t s q
      (if s.settler = .worker then .unreadable else .raised (ManagedOrder.unreadable e))

def unrecordedVerdict (e : Exn) : Verdict :=
  if e.typeName = "OrderNotRecorded" then .unrecorded else .faulted

def resumeRecording (w : World) (t : ℕ) (s : Settlement) (o : ManagedOrder) (tx : Transaction) :
    World :=
  let q := w.procs s.process
  let written := w.table.write tx (q.object s.account o)
  let verdict :=
    match written.2 with
    | .ok () => .settled
    | .error e => if s.settler = .worker then unrecordedVerdict e else .raised e
  { w with table := written.1 }.endSettlement t s q verdict

def crash (w : World) (process : String) : World :=
  { w with
    procs := Function.update w.procs process .fresh
    tasks := fun t => (w.tasks t).filter fun task => decide (task.process ≠ process) }

end World

inductive Event where
  | register (process account : String) (mode : Mode) (broker : Option String)
  | crash (process : String)
  | signal (t : ℕ) (process : String) (s : IncomingSignal) (now : Time)
      (safeMode : Option (List (String × Text)))
  | request (t : ℕ) (process account key orderType timeInForce : String)
      (safeMode : Option (List (String × Text)))
  | strategy (t : ℕ) (state : Answer StrategyState) (ai : Option (Answer AiVerdict))
  | spec (t : ℕ) (specified : Answer Bool) (sizing : Answer SizingResult)
  | risk (t : ℕ) (verdict : Answer (Option Approval × RiskVerdict))
  | acquire (t : ℕ)
  | prior (t : ℕ) (read : Option Exn) (orderId : String) (now : Time)
  | record (t : ℕ) (tx : Transaction) (now : Time)
  | venueSpec (t : ℕ) (spec : Answer (Option SymbolInfo)) (now : Time)
  | place (t : ℕ) (answer : Answer OrderResult) (now : Time)
  | recordAfter (t : ℕ) (tx : Transaction)
  | sweep (t : ℕ) (process account orderId : String)
  | reconcile (t : ℕ) (process account orderId : String)
  | venueRead (t : ℕ) (orders : Answer (List BrokerOrder))
      (positions : Answer (List BrokerPosition)) (now : Time)
  | recordSettled (t : ℕ) (tx : Transaction)

def gateRequest (key : String) (safeMode : Option (List (String × Text)))
    (manager : Option OrderManager) : Gate Unit :=
  if key = "" then
    .raise (.other "ValidationFailed" (Text.lit ("an Idempotency-Key header is required. It " ++
      "becomes the order's intent id, which is what stops a retried request from becoming a " ++
      "second order")))
  else
    match safeMode with
    | some reasons =>
      .parks .safeMode (Text.lit "the platform is in safe mode, so no new order is submitted. " ++
        Text.join "; " (reasons.map fun latch => Text.lit (latch.1 ++ ": ") ++ latch.2) ++
        Text.lit ". Reconcile and release it at /v1/recovery.")
    | none =>
      match manager with
      | none => .parks .noVenue (Text.lit "no order manager is registered for the account")
      | some _ => .go ()

namespace World

def newPass (process account : String) (caller : Caller) : Pass :=
  { process, account, caller, stage := .strategy, sent := false, answered := none }

def step (d : Deployment) (w : World) : Event → Option World
  | .register process account mode broker =>
    if ((w.procs process).managers account).isSome then none
    else some { w with
      procs := Function.update w.procs process
        ((w.procs process).setManager account (.fresh mode broker)) }
  | .crash process => some (w.crash process)
  | .signal t process s now safeMode =>
    if (w.tasks t).isSome then none
    else some (w.pastGate t (newPass process s.accountId (.pipeline s now))
      (gateSignal d.maxSignalAgeSeconds (w.procs process).seen safeMode s now)
      fun _ => .strategy)
  | .request t process account key orderType timeInForce safeMode =>
    if (w.tasks t).isSome then none
    else some (w.pastGate t (newPass process account (.route key orderType timeInForce))
      (gateRequest key safeMode ((w.procs process).managers account)) fun _ => .risk)
  | .strategy t state ai =>
    match w.tasks t with
    | some (.pass p) =>
      match p.stage, p.caller with
      | .strategy, .pipeline s _ =>
        some (w.pastGate t p
          (gateStrategy s state ai ((w.procs p.process).managers p.account)) fun _ => .spec)
      | _, _ => none
    | _ => none
  | .spec t specified sizing =>
    match w.tasks t with
    | some (.pass p) =>
      match p.stage, p.caller with
      | .spec, .pipeline s _ => some (w.pastGate t p (gateSizing s specified sizing) fun _ => .risk)
      | _, _ => none
    | _ => none
  | .risk t verdict =>
    match w.tasks t with
    | some (.pass p) =>
      match p.stage with
      | .risk => some (w.pastGate t p (gateRisk verdict) .lock)
      | _ => none
    | _ => none
  | .acquire t =>
    match w.tasks t with
    | some (.pass p) =>
      match p.stage with
      | .lock approval =>
        if ((w.procs p.process).locks p.account).isSome then none
        else some (w.acquirePass t p approval)
      | _ => none
    | some (.settlement s) =>
      match s.stage, s.settler with
      | .lock orderId, .worker =>
        if ((w.procs s.process).locks s.account).isSome then none
        else some (w.acquireSettlement t s orderId)
      | _, _ => none
    | none => none
  | .prior t read orderId now =>
    match w.tasks t with
    | some (.pass p) =>
      match p.stage with
      | .prior approval =>
        if orderId ∈ w.issued.map Issue.orderId then none
        else some (w.resumePrior d t p approval read orderId now)
      | _ => none
    | _ => none
  | .record t tx now =>
    match w.tasks t with
    | some (.pass p) =>
      match p.stage with
      | .record o => some (w.resumeRecord d t p o tx now)
      | _ => none
    | _ => none
  | .venueSpec t spec now =>
    match w.tasks t with
    | some (.pass p) =>
      match p.stage with
      | .venueSpec o => some (w.resumeSpec t p o spec now)
      | _ => none
    | _ => none
  | .place t answer now =>
    match w.tasks t with
    | some (.pass p) =>
      match p.stage with
      | .place o => some (w.resumePlace t p o answer now)
      | _ => none
    | _ => none
  | .recordAfter t tx =>
    match w.tasks t with
    | some (.pass p) =>
      match p.stage with
      | .recordAfter o => some (w.resumeRecordAfter d t p o tx)
      | _ => none
    | _ => none
  | .sweep t process account orderId =>
    if (w.tasks t).isSome then none
    else some (w.advance t
      (.settlement { process, account, settler := .worker, stage := .lock orderId })
      (w.procs process))
  | .reconcile t process account orderId =>
    if (w.tasks t).isSome then none
    else ((w.procs process).orderAt account orderId).map fun o =>
      w.requestReconcile t process account o
  | .venueRead t orders positions now =>
    match w.tasks t with
    | some (.settlement s) =>
      match s.stage with
      | .reading o => some (w.resumeReading t s o orders positions now)
      | _ => none
    | _ => none
  | .recordSettled t tx =>
    match w.tasks t with
    | some (.settlement s) =>
      match s.stage with
      | .recording o => some (w.resumeRecording t s o tx)
      | _ => none
    | _ => none

end World

def World.passAt (w : World) (t : ℕ) : Option Pass :=
  match w.tasks t with
  | some (.pass p) => some p
  | _ => none

theorem World.passAt_eq_some_iff {w : World} {t : ℕ} {p : Pass} :
    w.passAt t = some p ↔ w.tasks t = some (.pass p) := by
  unfold passAt
  split
  · next is => simp [is]
  · next other => exact iff_of_false (by simp) fun is => other p is

def allDurable : Deployment := { durable := fun _ => true, maxSignalAgeSeconds := 60 }

def plainSignal : IncomingSignal :=
  { signalKey := "intent", source := "strategy", symbol := "EURUSD", side := "buy",
    signalTime := 0, aware := true, accountId := "account", mode := "demo",
    strategyId := some "trend", entryPrice := some 1, authStrength := "strong" }

def plainCreate (t : ℕ) (orderId : String) : List Event :=
  [.signal t "worker" plainSignal 0 none, .strategy t (.ok ⟨true, true, false, []⟩) none,
    .spec t (.ok true) (.ok ⟨false, some 1, []⟩),
    .risk t (.ok (some (plainApproval "EURUSD" "buy" 1), ⟨"approve", [], []⟩)), .acquire t,
    .prior t none orderId 0]

def plainSend : List Event :=
  .register "worker" "account" .demo none :: plainCreate 0 "order" ++
    [.record 0 .commits 0, .venueSpec 0 (.ok (some (plainSymbol "EURUSD"))) 0]

end TradeResearch.Execution
