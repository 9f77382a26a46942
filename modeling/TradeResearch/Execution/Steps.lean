import TradeResearch.Execution.System
import TradeResearch.Oms.Frames

/-!
# What one event does

`step_cases` is the inversion of `World.step`: one constructor of `StepCase` for each thing an
event can do, with the guard it passed and the world it leaves. Every world it leaves is
`advance` of one task and its process, with the table, the issued ids and the sends it added.

* `SameMemory` and `Forgets` relate a process before and after, as far as its orders and locks go.
* `Evolves` relates an order before and after a method of the order manager.
-/

namespace TradeResearch.Execution

open Oms Brokers Risk

/-! ## A process's memory -/

namespace Process

variable (q : Process) (account : String)

@[simp] theorem see_managers (caller : Caller) : (q.see caller).managers = q.managers := by
  cases caller <;> rfl

@[simp] theorem see_locks (caller : Caller) : (q.see caller).locks = q.locks := by
  cases caller <;> rfl

theorem acquire_locks (t : ℕ) :
    (q.acquire account t).locks = Function.update q.locks account (some t) := rfl

theorem release_locks :
    (q.release account).locks = Function.update q.locks account none := rfl

@[simp] theorem update_locks (o : ManagedOrder) : (q.update account o).locks = q.locks := by
  unfold update
  split
  · rfl
  · split <;> rfl

theorem setManager_orderAt (m : OrderManager) (other id : String) :
    (q.setManager account m).orderAt other id =
      if other = account then m.orders id else q.orderAt other id := by
  unfold orderAt
  by_cases same : other = account
  · have here : (q.setManager account m).managers account = some m := Function.update_self ..
    rw [if_pos same, same, here]
    rfl
  · have there : (q.setManager account m).managers other = q.managers other :=
      Function.update_of_ne same ..
    rw [if_neg same, there]

theorem update_orderAt (o : ManagedOrder) (other id : String) :
    (q.update account o).orderAt other id =
      if other = account ∧ id = o.id ∧ (q.orderAt account o.id).isSome then some o
      else q.orderAt other id := by
  have lookup : q.orderAt account o.id = (q.managers account).bind fun m => m.orders o.id := rfl
  unfold update
  cases held : q.managers account with
  | none =>
    rw [held] at lookup
    rw [if_neg]
    rintro ⟨_, _, known⟩
    rw [lookup] at known
    cases known
  | some m =>
    rw [held, Option.bind_some] at lookup
    dsimp only
    by_cases known : (m.orders o.id).isSome = true
    · rw [if_pos known, setManager_orderAt]
      by_cases same : other = account
      · rw [if_pos same]
        by_cases named : id = o.id
        · rw [if_pos ⟨same, named, lookup ▸ known⟩, named]
          exact Function.update_self ..
        · rw [if_neg fun all => named all.2.1]
          subst same
          have elsewhere : q.orderAt other id = m.orders id := by
            unfold orderAt
            rw [held]
            rfl
          rw [elsewhere]
          exact Function.update_of_ne named ..
      · rw [if_neg same, if_neg fun all => same all.1]
    · rw [if_neg known, if_neg]
      rintro ⟨_, _, held⟩
      exact known (lookup ▸ held)

theorem object_cases (o : ManagedOrder) :
    q.orderAt account o.id = some (q.object account o) ∨
      (q.orderAt account o.id = none ∧ q.object account o = o) := by
  unfold object
  cases q.orderAt account o.id with
  | none => exact .inr ⟨rfl, rfl⟩
  | some o' => exact .inl rfl

end Process

structure SameMemory (q q' : Process) : Prop where
  managers : q'.managers = q.managers
  locks : q'.locks = q.locks

theorem SameMemory.refl (q : Process) : SameMemory q q := ⟨rfl, rfl⟩

theorem SameMemory.see (q : Process) (caller : Caller) : SameMemory q (q.see caller) :=
  ⟨q.see_managers caller, q.see_locks caller⟩

theorem SameMemory.seen (q : Process) (caller : Caller) (consumed : Bool) :
    SameMemory q (if consumed then q.see caller else q) := by
  split
  · exact .see q caller
  · exact .refl q

theorem SameMemory.release {q q' : Process} (same : SameMemory q q') (account : String) :
    SameMemory (q.release account) (q'.release account) :=
  ⟨same.managers, by rw [q'.release_locks, q.release_locks, same.locks]⟩

theorem SameMemory.orderAt {q q' : Process} (same : SameMemory q q') : q'.orderAt = q.orderAt := by
  unfold Process.orderAt
  rw [same.managers]

theorem SameMemory.object {q q' : Process} (same : SameMemory q q') : q'.object = q.object := by
  unfold Process.object
  rw [same.orderAt]

theorem SameMemory.acquire_release {q : Process} {account : String}
    (free : q.locks account = none) (t : ℕ) :
    SameMemory q ((q.acquire account t).release account) where
  managers := rfl
  locks := by
    rw [Process.release_locks, Process.acquire_locks, Function.update_idem, ← free,
      Function.update_eq_self]

structure Forgets (q q' : Process) (account id : String) : Prop where
  locks : q'.locks = q.locks
  known : ∀ other id' o, q'.orderAt other id' = some o → q.orderAt other id' = some o
  elsewhere : ∀ other id', ¬ (other = account ∧ id' = id) →
    q'.orderAt other id' = q.orderAt other id'

theorem Forgets.of_same {q q' : Process} (same : SameMemory q q') (account id : String) :
    Forgets q q' account id where
  locks := same.locks
  known other id' o held := by rwa [same.orderAt] at held
  elsewhere other id' _ := by rw [same.orderAt]

theorem Forgets.discard {q : Process} {account : String} {m : OrderManager}
    (held : q.managers account = some m) (o : ManagedOrder) :
    Forgets q (q.setManager account ((OrderManager.discardOrder o).left m)) account o.id := by
  have orders (id : String) : ((OrderManager.discardOrder o).left m).orders id =
      if o.status ≠ .intent ∨ truthy o.brokerOrderId then m.orders id
      else if id = o.id then none else m.orders id := by
    unfold OrderManager.discardOrder Method.left
    split
    · rfl
    · exact Function.update_apply ..
  have lookup (id : String) : q.orderAt account id = m.orders id := by
    unfold Process.orderAt
    rw [held]
    rfl
  refine ⟨rfl, fun other id' x known => ?_, fun other id' different => ?_⟩
  · rw [Process.setManager_orderAt] at known
    by_cases same : other = account
    · rw [if_pos same, orders] at known
      rw [same, lookup]
      split at known
      · exact known
      · split at known
        · cases known
        · exact known
    · rwa [if_neg same] at known
  · rw [Process.setManager_orderAt]
    by_cases same : other = account
    · rw [if_pos same, orders, same, lookup]
      split
      · rfl
      · rw [if_neg fun named => different ⟨same, named⟩]
    · rw [if_neg same]

/-! ## An order's course -/

structure Evolves (o o' : ManagedOrder) : Prop where
  same : ManagedOrder.SameOrder o o'
  begun : o.status ≠ .intent → o'.status ≠ .intent

theorem Evolves.refl (o : ManagedOrder) : Evolves o o := ⟨.refl o, id⟩

theorem Evolves.of_keeps {α : Type} {x : Method Exn ManagedOrder α}
    (keeps : ∀ P : ManagedOrder → Prop, ManagedOrder.Stable P → ManagedOrder.Renamable P →
      Method.Keeps P x) (o : ManagedOrder) : Evolves o (x.left o) where
  same := keeps _ (ManagedOrder.stable_sameOrder o) (ManagedOrder.renamable_sameOrder o) o (.refl o)
  begun := keeps _ ManagedOrder.stable_begun ManagedOrder.renamable_begun o

theorem Evolves.submitBegin (now : Time) (o : ManagedOrder) :
    Evolves o ((ManagedOrder.submitBegin now).exec o).2 :=
  .of_keeps (fun _ stable _ => ManagedOrder.keeps_submitBegin stable.lasting.standing now) o

theorem Evolves.submitSpec (now : Time) (spec : Answer (Option SymbolInfo)) (o : ManagedOrder) :
    Evolves o ((ManagedOrder.submitSpec now spec).exec o).2 :=
  .of_keeps (fun _ stable _ => ManagedOrder.keeps_submitSpec stable.lasting.standing now spec) o

theorem Evolves.applyAnswer (now : Time) (answer : Answer OrderResult) (o : ManagedOrder) :
    Evolves o ((ManagedOrder.applyAnswer now answer).exec o).2 :=
  .of_keeps (fun _ stable renamable =>
    ManagedOrder.keeps_applyAnswer stable.lasting.standing renamable now answer) o

theorem Evolves.settle (now : Time) (orders : List BrokerOrder)
    (positions : List BrokerPosition) (o : ManagedOrder) :
    Evolves o ((ManagedOrder.settle now orders positions).exec o).2 :=
  .of_keeps (fun _ stable renamable =>
    ManagedOrder.keeps_settle stable.lasting.standing now orders positions fun found position =>
      ManagedOrder.keeps_settleOrder stable.lasting.standing renamable now found position) o

/-! ## The tasks of a world -/

namespace World

theorem advance_tasks {w : World} {t t' : ℕ} {task task' : Task} {q : Process}
    (is : (w.advance t task q).tasks t' = some task') :
    t' = t ∧ task' = task ∨ t' ≠ t ∧ w.tasks t' = some task' := by
  by_cases same : t' = t
  · rw [same] at is
    have here : (w.advance t task q).tasks t = some task := Function.update_self ..
    rw [here] at is
    exact .inl ⟨same, (Option.some.inj is).symm⟩
  · have there : (w.advance t task q).tasks t' = w.tasks t' := Function.update_of_ne same ..
    exact .inr ⟨same, there ▸ is⟩

theorem crash_tasks {w : World} {process : String} {t : ℕ} {task : Task}
    (is : (w.crash process).tasks t = some task) :
    w.tasks t = some task ∧ task.process ≠ process := by
  obtain ⟨here, kept⟩ := Option.filter_eq_some_iff.mp is
  exact ⟨here, of_decide_eq_true kept⟩

def EachPass (P : Pass → Prop) (w : World) : Prop := ∀ t p, w.tasks t = some (.pass p) → P p

theorem EachPass.start (P : Pass → Prop) : World.start.EachPass P := by
  intro t p is
  cases is

theorem EachPass.advance {P : Pass → Prop} {w : World} (held : w.EachPass P) {p : Pass}
    (next : P p) {t : ℕ} {q : Process} : (w.advance t (.pass p) q).EachPass P := by
  intro t' p' is
  rcases advance_tasks is with ⟨_, same⟩ | ⟨_, there⟩
  · cases same
    exact next
  · exact held t' p' there

theorem EachPass.settle {P : Pass → Prop} {w : World} (held : w.EachPass P) {t : ℕ}
    {s : Settlement} {q : Process} : (w.advance t (.settlement s) q).EachPass P := by
  intro t' p' is
  rcases advance_tasks is with ⟨_, same⟩ | ⟨_, there⟩
  · cases same
  · exact held t' p' there

theorem EachPass.crash {P : Pass → Prop} {w : World} (held : w.EachPass P) (process : String) :
    (w.crash process).EachPass P :=
  fun t p is => held t p (crash_tasks is).1

end World

/-! ## The inversion -/

def Stage.early : Stage → Bool
  | strategy => true
  | spec => true
  | risk => true
  | lock _ => true
  | _ => false

def Stage.sending : Stage → Bool
  | place _ => true
  | _ => false

theorem Stage.sending_iff {stage : Stage} : stage.sending = true ↔ ∃ o, stage = .place o := by
  constructor
  · intro sending
    cases stage with
    | place o => exact ⟨o, rfl⟩
    | _ => cases sending
  · rintro ⟨o, rfl⟩
    rfl

theorem Stage.sending_of_unlocked {stage : Stage} (unlocked : stage.locked = false) :
    stage.sending = false := by
  cases stage <;> first | rfl | cases unlocked

def Stage.waiting? : Stage → Option ManagedOrder
  | record o => some o
  | venueSpec o => some o
  | _ => none

theorem Stage.order?_of_waiting {stage : Stage} {o : ManagedOrder}
    (waits : stage.waiting? = some o) : stage.order? = some o := by
  cases stage <;> first | exact waits | cases waits

def World.met (w : World) (p : Pass) (o : ManagedOrder) : ManagedOrder :=
  (w.procs p.process).object p.account o

def World.metBy (w : World) (s : Settlement) (o : ManagedOrder) : ManagedOrder :=
  (w.procs s.process).object s.account o

inductive StepCase (d : Deployment) (w : World) : Event → World → Prop
  | registered (process account : String) (mode : Mode) (broker : Option String)
      (free : (w.procs process).managers account = none) :
    StepCase d w (.register process account mode broker)
      { w with
        procs := Function.update w.procs process
          ((w.procs process).setManager account (.fresh mode broker)) }
  | crashed (process : String) : StepCase d w (.crash process) (w.crash process)
  /-- A pass outside the lock came, went on, or ended. -/
  | gated (e : Event) (t : ℕ) (p : Pass) (stage : Stage) (q : Process)
      (came : w.tasks t = none ∧ p.sent = false ∧ p.answered = none ∨
        w.tasks t = some (.pass p) ∧ p.stage.early = true)
      (idle : stage.locked = false ∧ stage.order? = none)
      (same : SameMemory (w.procs p.process) q) :
    StepCase d w e (w.advance t (.pass { p with stage }) q)
  | acquired (t : ℕ) (p : Pass) (approval : Approval) (is : w.tasks t = some (.pass p))
      (here : p.stage = .lock approval) (free : (w.procs p.process).locks p.account = none) :
    StepCase d w (.acquire t)
      (w.advance t (.pass { p with stage := .prior approval })
        ((w.procs p.process).acquire p.account t))
  /-- Turned away inside the lock, before there was an order. -/
  | turned (e : Event) (t : ℕ) (p : Pass) (approval : Approval) (ending : Ending) (q : Process)
      (is : w.tasks t = some (.pass p)) (here : p.stage = .prior approval)
      (same : SameMemory (w.procs p.process) q) :
    StepCase d w e (w.endPass t p q ending)
  | created (t : ℕ) (p : Pass) (approval : Approval) (orderId : String) (now : Time)
      (m : OrderManager) (o : ManagedOrder) (is : w.tasks t = some (.pass p))
      (here : p.stage = .prior approval) (fresh : orderId ∉ w.issued.map Issue.orderId)
      (passed : World.durableGuard d w p = .ok ())
      (held : (w.procs p.process).managers p.account = some m) (id : o.id = orderId)
      (intent : o.clientOrderId = p.key) (status : o.status = .intent) :
    StepCase d w (.prior t none orderId now)
      ({ w with issued := ⟨orderId, p.key, p.process, p.account⟩ :: w.issued }.advance t
        (.pass { p with stage := .record o })
        ((w.procs p.process).setManager p.account (m.register o)))
  | unrecorded (t : ℕ) (p : Pass) (o : ManagedOrder) (tx : Transaction) (now : Time)
      (table : OrdersTable) (ending : Ending) (q : Process) (is : w.tasks t = some (.pass p))
      (here : p.stage = .record o) (wrote : OrdersTable.WriteCase w.table (w.met p o) table)
      (forgets : Forgets (w.procs p.process) q p.account (w.met p o).id) :
    StepCase d w (.record t tx now) ({ w with table }.endPass t p q ending)
  /-- Recorded, and on to the venue's terms. -/
  | begun (t : ℕ) (p : Pass) (o : ManagedOrder) (tx : Transaction) (now : Time)
      (table : OrdersTable) (q : Process) (is : w.tasks t = some (.pass p))
      (here : p.stage = .record o) (wrote : OrdersTable.WriteCase w.table (w.met p o) table)
      (recorded : d.records p = true → ∃ row ∈ table.rows, row.id = (w.met p o).id)
      (same : SameMemory (w.procs p.process) q) (created : (w.met p o).status = .intent) :
    StepCase d w (.record t tx now)
      ({ w with table }.advance t (.pass { p with stage := .venueSpec (w.met p o) })
        (q.update p.account (w.met p o)))
  /-- Recorded, and expired before it was sent. -/
  | expired (t : ℕ) (p : Pass) (o : ManagedOrder) (tx : Transaction) (now : Time)
      (table : OrdersTable) (q : Process) (o' : ManagedOrder) (is : w.tasks t = some (.pass p))
      (here : p.stage = .record o) (wrote : OrdersTable.WriteCase w.table (w.met p o) table)
      (recorded : d.records p = true → ∃ row ∈ table.rows, row.id = (w.met p o).id)
      (same : SameMemory (w.procs p.process) q) (evolves : Evolves (w.met p o) o') :
    StepCase d w (.record t tx now)
      ({ w with table }.advance t (.pass { p with stage := .recordAfter o' })
        (q.update p.account o'))
  /-- Recorded, and refused by `submit`. -/
  | unbegun (t : ℕ) (p : Pass) (o : ManagedOrder) (tx : Transaction) (now : Time)
      (table : OrdersTable) (q : Process) (ending : Ending) (is : w.tasks t = some (.pass p))
      (here : p.stage = .record o) (wrote : OrdersTable.WriteCase w.table (w.met p o) table)
      (same : SameMemory (w.procs p.process) q) :
    StepCase d w (.record t tx now)
      ({ w with table }.endPass t p (q.update p.account (w.met p o)) ending)
  | sent (t : ℕ) (p : Pass) (o : ManagedOrder) (spec : Answer (Option SymbolInfo)) (now : Time)
      (o' : ManagedOrder) (is : w.tasks t = some (.pass p)) (here : p.stage = .venueSpec o)
      (ran : (ManagedOrder.submitSpec (p.caller.clock now) spec).exec (w.met p o) =
        (.ok true, o')) :
    StepCase d w (.venueSpec t spec now)
      ({ w with sent := ⟨p.key, o'.id⟩ :: w.sent }.advance t
        (.pass { p with stage := .place o', sent := true })
        ((w.procs p.process).update p.account o'))
  | unsent (t : ℕ) (p : Pass) (o : ManagedOrder) (spec : Answer (Option SymbolInfo)) (now : Time)
      (o' : ManagedOrder) (is : w.tasks t = some (.pass p)) (here : p.stage = .venueSpec o)
      (ran : (ManagedOrder.submitSpec (p.caller.clock now) spec).exec (w.met p o) =
        (.ok false, o')) :
    StepCase d w (.venueSpec t spec now)
      (w.advance t (.pass { p with stage := .recordAfter o' })
        ((w.procs p.process).update p.account o'))
  | specRaised (t : ℕ) (p : Pass) (o : ManagedOrder) (spec : Answer (Option SymbolInfo))
      (now : Time) (o' : ManagedOrder) (ending : Ending) (is : w.tasks t = some (.pass p))
      (here : p.stage = .venueSpec o) (evolves : Evolves (w.met p o) o') :
    StepCase d w (.venueSpec t spec now)
      (w.endPass t p ((w.procs p.process).update p.account o') ending)
  | placed (t : ℕ) (p : Pass) (o : ManagedOrder) (answer : Answer OrderResult) (now : Time)
      (o' : ManagedOrder) (is : w.tasks t = some (.pass p)) (here : p.stage = .place o)
      (ran : (ManagedOrder.applyAnswer (p.caller.clock now) answer).exec (w.met p o) =
        (.ok (), o')) :
    StepCase d w (.place t answer now)
      (w.advance t
        (.pass { p with answered := some (w.met p o, answer), stage := .recordAfter o' })
        ((w.procs p.process).update p.account o'))
  | placeRaised (t : ℕ) (p : Pass) (o : ManagedOrder) (answer : Answer OrderResult) (now : Time)
      (e : Exn) (o' : ManagedOrder) (is : w.tasks t = some (.pass p)) (here : p.stage = .place o)
      (ran : (ManagedOrder.applyAnswer (p.caller.clock now) answer).exec (w.met p o) =
        (.error e, o')) :
    StepCase d w (.place t answer now)
      (w.endPass t { p with answered := some (w.met p o, answer) }
        ((w.procs p.process).update p.account o') (p.caller.fault e))
  | concluded (t : ℕ) (p : Pass) (o : ManagedOrder) (tx : Transaction) (table : OrdersTable)
      (ending : Ending) (is : w.tasks t = some (.pass p)) (here : p.stage = .recordAfter o)
      (wrote : OrdersTable.WriteCase w.table (w.met p o) table)
      (told : ∀ signal now, p.caller = .pipeline signal now →
        ending = p.caller.concluded (w.met p o)) :
    StepCase d w (.recordAfter t tx)
      ({ w with table }.endPass t p (w.procs p.process) ending)
  | queued (t : ℕ) (process account orderId : String) (free : w.tasks t = none) :
    StepCase d w (.sweep t process account orderId)
      (w.advance t (.settlement ⟨process, account, .worker, .lock orderId⟩) (w.procs process))
  | requested (t : ℕ) (process account orderId : String) (o : ManagedOrder)
      (stage : SettleStage) (free : w.tasks t = none)
      (held : (w.procs process).orderAt account orderId = some o)
      (goes : stage = .reading o ∧ o.needsReconciliation = true ∨ stage = .recording o) :
    StepCase d w (.reconcile t process account orderId)
      (w.advance t (.settlement ⟨process, account, .route, stage⟩) (w.procs process))
  | settling (t : ℕ) (s : Settlement) (orderId : String) (o : ManagedOrder)
      (is : w.tasks t = some (.settlement s)) (here : s.stage = .lock orderId)
      (worker : s.settler = .worker) (free : (w.procs s.process).locks s.account = none)
      (held : (w.procs s.process).orderAt s.account orderId = some o)
      (needs : o.needsReconciliation = true) :
    StepCase d w (.acquire t)
      (w.advance t (.settlement { s with stage := .reading o })
        ((w.procs s.process).acquire s.account t))
  | gone (t : ℕ) (s : Settlement) (orderId : String) (q : Process)
      (is : w.tasks t = some (.settlement s)) (here : s.stage = .lock orderId)
      (same : SameMemory (w.procs s.process) q) :
    StepCase d w (.acquire t) (w.advance t (.settlement { s with stage := .done .gone }) q)
  | unread (t : ℕ) (s : Settlement) (o : ManagedOrder) (orders : Answer (List BrokerOrder))
      (positions : Answer (List BrokerPosition)) (now : Time) (verdict : Verdict)
      (is : w.tasks t = some (.settlement s)) (here : s.stage = .reading o) :
    StepCase d w (.venueRead t orders positions now)
      (w.endSettlement t s (w.procs s.process) verdict)
  | read (t : ℕ) (s : Settlement) (o : ManagedOrder) (orders : List BrokerOrder)
      (positions : List BrokerPosition) (now : Time) (o' : ManagedOrder)
      (is : w.tasks t = some (.settlement s)) (here : s.stage = .reading o)
      (evolves : Evolves (w.metBy s o) o') :
    StepCase d w (.venueRead t (.ok orders) (.ok positions) now)
      (w.advance t (.settlement { s with stage := .recording o' })
        ((w.procs s.process).update s.account o'))
  | readRaised (t : ℕ) (s : Settlement) (o : ManagedOrder) (orders : List BrokerOrder)
      (positions : List BrokerPosition) (now : Time) (o' : ManagedOrder) (verdict : Verdict)
      (is : w.tasks t = some (.settlement s)) (here : s.stage = .reading o)
      (evolves : Evolves (w.metBy s o) o') :
    StepCase d w (.venueRead t (.ok orders) (.ok positions) now)
      (w.endSettlement t s ((w.procs s.process).update s.account o') verdict)
  | settled (t : ℕ) (s : Settlement) (o : ManagedOrder) (tx : Transaction) (table : OrdersTable)
      (verdict : Verdict) (is : w.tasks t = some (.settlement s)) (here : s.stage = .recording o)
      (wrote : OrdersTable.WriteCase w.table (w.metBy s o) table) :
    StepCase d w (.recordSettled t tx)
      ({ w with table }.endSettlement t s (w.procs s.process) verdict)

section Inversion

theorem pastGate_case {α : Type} {e : Event} {t : ℕ} {p : Pass} {gate : Gate α}
    {go : α → Stage}
    (came : w.tasks t = none ∧ p.sent = false ∧ p.answered = none ∨
      w.tasks t = some (.pass p) ∧ p.stage.early = true)
    (idle : ∀ a, (go a).locked = false ∧ (go a).order? = none) :
    StepCase d w e (w.pastGate t p gate go) := by
  cases gate with
  | go a => exact .gated e t p (go a) _ came (idle a) (.refl _)
  | raise raised => exact .gated e t p _ _ came ⟨rfl, rfl⟩ (.refl _)
  | refuse refusal =>
    exact .gated e t p _ _ came ⟨rfl, rfl⟩ (.seen _ p.caller refusal.consumed)

theorem acquirePass_case {t : ℕ} {p : Pass} {approval : Approval}
    (is : w.tasks t = some (.pass p)) (here : p.stage = .lock approval)
    (free : (w.procs p.process).locks p.account = none) :
    StepCase d w (.acquire t) (w.acquirePass t p approval) := by
  have came : w.tasks t = none ∧ p.sent = false ∧ p.answered = none ∨
      w.tasks t = some (.pass p) ∧ p.stage.early = true := .inr ⟨is, by rw [here]; rfl⟩
  have returned := SameMemory.acquire_release free t
  unfold World.acquirePass
  dsimp only
  split
  · exact .gated _ t p _ _ came ⟨rfl, rfl⟩ returned
  · split
    · next e _ =>
      refine .gated _ t p _ _ came ⟨rfl, rfl⟩ ?_
      have seen := SameMemory.seen ((w.procs p.process).acquire p.account t) p.caller
        (p.caller.turnedAway .duplicateSignal e).2
      have after := seen.release p.account
      exact ⟨after.managers.trans returned.managers, after.locks.trans returned.locks⟩
    · exact .acquired t p approval is here free

theorem turnAway_case {e : Event} {t : ℕ} {p : Pass} {approval : Approval} {refused : Outcome}
    {exn : Exn} (is : w.tasks t = some (.pass p)) (here : p.stage = .prior approval) :
    StepCase d w e (w.turnAway t p (w.procs p.process) refused exn) :=
  .turned e t p approval _ _ is here (.seen _ p.caller _)

theorem createOrder_case {t : ℕ} {p : Pass} {approval : Approval} {orderId : String}
    {now : Time} (is : w.tasks t = some (.pass p)) (here : p.stage = .prior approval)
    (fresh : orderId ∉ w.issued.map Issue.orderId)
    (passed : World.durableGuard d w p = .ok ()) :
    StepCase d w (.prior t none orderId now) (w.createOrder t p approval orderId now) := by
  unfold World.createOrder
  dsimp only
  split
  · exact .turned _ t p approval _ _ is here (.refl _)
  · next m held =>
    generalize ran : (OrderManager.create approval (p.caller.createArgs p.account orderId)
      (p.caller.clock now)).exec m = out
    have outcome := OrderManager.create_cases m approval
      (p.caller.createArgs p.account orderId) (p.caller.clock now)
    rw [ran] at outcome
    cases outcome with
    | refused e | duplicate existing known => exact turnAway_case is here
    | created volume positive unknown =>
      have named : (p.caller.createArgs p.account orderId).orderId = orderId := by
        cases p.caller <;> rfl
      have keyed : (p.caller.createArgs p.account orderId).intentId = p.key := by
        unfold Pass.key
        cases p.caller <;> rfl
      have found : (m.register (m.newOrder approval (p.caller.createArgs p.account orderId) volume
          positive (p.caller.clock now))).orders
            (p.caller.createArgs p.account orderId).orderId =
          some (m.newOrder approval (p.caller.createArgs p.account orderId) volume positive
            (p.caller.clock now)) := Function.update_self ..
      dsimp only
      rw [found]
      exact .created t p approval orderId now m _ is here fresh passed held named keyed rfl

theorem resumePrior_case {t : ℕ} {p : Pass} {approval : Approval} {read : Option Exn}
    {orderId : String} {now : Time} (is : w.tasks t = some (.pass p))
    (here : p.stage = .prior approval) (fresh : orderId ∉ w.issued.map Issue.orderId) :
    StepCase d w (.prior t read orderId now) (w.resumePrior d t p approval read orderId now) := by
  unfold World.resumePrior
  cases read with
  | some e => exact .turned _ t p approval _ _ is here (.refl _)
  | none =>
    dsimp only
    split
    · exact turnAway_case is here
    · next passed => exact createOrder_case is here fresh passed

theorem writeOrder_cases (d : Deployment) (w : World) (p : Pass) (tx : Transaction)
    (o : ManagedOrder) :
    OrdersTable.WriteCase w.table (w.met p o) (World.writeOrder d w p tx o).1 ∧
      ((World.writeOrder d w p tx o).2 = .ok () → d.records p = true →
        ∃ row ∈ (World.writeOrder d w p tx o).1.rows, row.id = (w.met p o).id) := by
  unfold World.writeOrder
  by_cases records : d.records p = true
  · rw [if_pos records]
    have written := OrdersTable.write_cases w.table tx (w.met p o)
    exact ⟨written.1, fun heard _ => written.2 heard⟩
  · rw [if_neg records]
    exact ⟨.unwritten, fun _ yes => absurd yes records⟩

theorem resumeRecord_case {t : ℕ} {p : Pass} {o : ManagedOrder} {tx : Transaction} {now : Time}
    (is : w.tasks t = some (.pass p)) (here : p.stage = .record o) :
    StepCase d w (.record t tx now) (w.resumeRecord d t p o tx now) := by
  obtain ⟨wrote, recorded⟩ := writeOrder_cases d w p tx o
  unfold World.resumeRecord
  generalize World.writeOrder d w p tx o = written at wrote recorded
  obtain ⟨table, heard⟩ := written
  cases heard with
  | error e =>
    dsimp only [World.unrecorded]
    split
    · refine .unrecorded t p o tx now table _ _ is here wrote ?_
      split
      · exact Forgets.of_same (.refl _) _ _
      · next m held => exact Forgets.discard held _
    · exact .unrecorded t p o tx now table _ _ is here wrote (Forgets.of_same (.refl _) _ _)
  | ok u =>
    have row := recorded rfl
    have same := SameMemory.see (w.procs p.process) p.caller
    have object : ((w.procs p.process).see p.caller).object p.account o = w.met p o := by
      rw [same.object]
      rfl
    dsimp only [World.beginSubmit]
    rw [object]
    generalize ran : (ManagedOrder.submitBegin (p.caller.clock now)).exec (w.met p o) = out
    have outcome := ManagedOrder.submitBegin_cases (w.met p o) (p.caller.clock now)
    have evolves := Evolves.submitBegin (p.caller.clock now) (w.met p o)
    rw [ran] at outcome evolves
    cases outcome with
    | refused reason elsewhere => exact .unbegun t p o tx now table _ _ is here wrote same
    | expired created => exact .expired t p o tx now table _ _ is here wrote row same evolves
    | goes created => exact .begun t p o tx now table _ is here wrote row same created

theorem resumeSpec_case {t : ℕ} {p : Pass} {o : ManagedOrder}
    {spec : Answer (Option SymbolInfo)} {now : Time} (is : w.tasks t = some (.pass p))
    (here : p.stage = .venueSpec o) :
    StepCase d w (.venueSpec t spec now) (w.resumeSpec t p o spec now) := by
  have object : (w.procs p.process).object p.account o = w.met p o := rfl
  have evolves := Evolves.submitSpec (p.caller.clock now) spec (w.met p o)
  unfold World.resumeSpec
  dsimp only
  rw [object]
  generalize ran : (ManagedOrder.submitSpec (p.caller.clock now) spec).exec (w.met p o) = out
    at evolves
  rcases out with ⟨e | _ | _, o'⟩
  · exact .specRaised t p o spec now o' _ is here evolves
  · exact .unsent t p o spec now o' is here ran
  · exact .sent t p o spec now o' is here ran

theorem resumePlace_case {t : ℕ} {p : Pass} {o : ManagedOrder} {answer : Answer OrderResult}
    {now : Time} (is : w.tasks t = some (.pass p)) (here : p.stage = .place o) :
    StepCase d w (.place t answer now) (w.resumePlace t p o answer now) := by
  have object : (w.procs p.process).object p.account o = w.met p o := rfl
  unfold World.resumePlace
  dsimp only
  rw [object]
  generalize ran : (ManagedOrder.applyAnswer (p.caller.clock now) answer).exec (w.met p o) = out
  rcases out with ⟨e | _, o'⟩
  · exact .placeRaised t p o answer now e o' is here ran
  · exact .placed t p o answer now o' is here ran

theorem resumeRecordAfter_case {t : ℕ} {p : Pass} {o : ManagedOrder} {tx : Transaction}
    (is : w.tasks t = some (.pass p)) (here : p.stage = .recordAfter o) :
    StepCase d w (.recordAfter t tx) (w.resumeRecordAfter d t p o tx) := by
  obtain ⟨wrote, _⟩ := writeOrder_cases d w p tx o
  refine .concluded t p o tx _ _ is here wrote fun signal now caller => ?_
  rw [caller]
  rfl

theorem acquireSettlement_case {t : ℕ} {s : Settlement} {orderId : String}
    (is : w.tasks t = some (.settlement s)) (here : s.stage = .lock orderId)
    (worker : s.settler = .worker) (free : (w.procs s.process).locks s.account = none) :
    StepCase d w (.acquire t) (w.acquireSettlement t s orderId) := by
  have returned := SameMemory.acquire_release free t
  have gone : StepCase d w (.acquire t)
      (w.endSettlement t s ((w.procs s.process).acquire s.account t) .gone) := by
    have released : w.endSettlement t s ((w.procs s.process).acquire s.account t) .gone =
        w.advance t (.settlement { s with stage := .done .gone })
          (((w.procs s.process).acquire s.account t).release s.account) := by
      obtain ⟨process, account, settler, stage⟩ := s
      cases worker
      rfl
    rw [released]
    exact .gone t s orderId _ is here returned
  unfold World.acquireSettlement
  dsimp only
  split
  · exact gone
  · next o held =>
    split
    · next needs => exact .settling t s orderId o is here worker free held needs
    · exact gone

theorem requestReconcile_case {t : ℕ} {process account orderId : String} {o : ManagedOrder}
    (free : w.tasks t = none) (held : (w.procs process).orderAt account orderId = some o) :
    StepCase d w (.reconcile t process account orderId)
      (w.requestReconcile t process account o) := by
  refine .requested t process account orderId o _ free held ?_
  split
  · next needs => exact .inl ⟨rfl, needs⟩
  · exact .inr rfl

theorem resumeReading_case {t : ℕ} {s : Settlement} {o : ManagedOrder}
    {orders : Answer (List BrokerOrder)} {positions : Answer (List BrokerPosition)} {now : Time}
    (is : w.tasks t = some (.settlement s)) (here : s.stage = .reading o) :
    StepCase d w (.venueRead t orders positions now)
      (w.resumeReading t s o orders positions now) := by
  have object : (w.procs s.process).object s.account o = w.metBy s o := rfl
  unfold World.resumeReading
  cases orders with
  | error e => exact .unread t s o _ _ now _ is here
  | ok orders =>
    cases positions with
    | error e => exact .unread t s o _ _ now _ is here
    | ok positions =>
      have evolves := Evolves.settle now orders positions (w.metBy s o)
      dsimp only
      rw [object]
      generalize (ManagedOrder.settle now orders positions).exec (w.metBy s o) = out at evolves
      rcases out with ⟨e | _, o'⟩
      · exact .readRaised t s o orders positions now o' _ is here evolves
      · exact .read t s o orders positions now o' is here evolves

theorem resumeRecording_case {t : ℕ} {s : Settlement} {o : ManagedOrder} {tx : Transaction}
    (is : w.tasks t = some (.settlement s)) (here : s.stage = .recording o) :
    StepCase d w (.recordSettled t tx) (w.resumeRecording t s o tx) :=
  .settled t s o tx _ _ is here (OrdersTable.write_cases w.table tx (w.metBy s o)).1

theorem step_cases {e : Event} {w' : World} (taken : w.step d e = some w') :
    StepCase d w e w' := by
  cases e with
  | register process account mode broker =>
    dsimp only [World.step] at taken
    split at taken
    · cases taken
    · next free =>
      rw [← Option.some.inj taken]
      exact .registered process account mode broker (by simpa using free)
  | crash process =>
    rw [← Option.some.inj taken]
    exact .crashed process
  | signal t process s now safeMode
  | request t process account key orderType timeInForce safeMode =>
    dsimp only [World.step] at taken
    split at taken
    · cases taken
    · next free =>
      rw [← Option.some.inj taken]
      exact pastGate_case (.inl ⟨by simpa using free, rfl, rfl⟩) fun _ => ⟨rfl, rfl⟩
  | strategy t state ai | spec t specified sizing =>
    dsimp only [World.step] at taken
    split at taken
    · next p is =>
      split at taken
      · next stage caller =>
        rw [← Option.some.inj taken]
        exact pastGate_case (.inr ⟨is, by rw [stage]; rfl⟩) fun _ => ⟨rfl, rfl⟩
      · cases taken
    · cases taken
  | risk t verdict =>
    dsimp only [World.step] at taken
    split at taken
    · next p is =>
      split at taken
      · next stage =>
        rw [← Option.some.inj taken]
        exact pastGate_case (.inr ⟨is, by rw [stage]; rfl⟩) fun _ => ⟨rfl, rfl⟩
      · cases taken
    · cases taken
  | acquire t =>
    dsimp only [World.step] at taken
    split at taken
    · next p is =>
      split at taken
      · next approval here =>
        split at taken
        · cases taken
        · next free =>
          rw [← Option.some.inj taken]
          exact acquirePass_case is here (by simpa using free)
      · cases taken
    · next s is =>
      split at taken
      · next orderId here worker =>
        split at taken
        · cases taken
        · next free =>
          rw [← Option.some.inj taken]
          exact acquireSettlement_case is here worker (by simpa using free)
      · cases taken
    · cases taken
  | prior t read orderId now =>
    dsimp only [World.step] at taken
    split at taken
    · next p is =>
      split at taken
      · next approval here =>
        split at taken
        · cases taken
        · next fresh =>
          rw [← Option.some.inj taken]
          exact resumePrior_case is here fresh
      · cases taken
    · cases taken
  | record t tx now =>
    dsimp only [World.step] at taken
    split at taken
    · next p is =>
      split at taken
      · next o here =>
        rw [← Option.some.inj taken]
        exact resumeRecord_case is here
      · cases taken
    · cases taken
  | venueSpec t spec now =>
    dsimp only [World.step] at taken
    split at taken
    · next p is =>
      split at taken
      · next o here =>
        rw [← Option.some.inj taken]
        exact resumeSpec_case is here
      · cases taken
    · cases taken
  | place t answer now =>
    dsimp only [World.step] at taken
    split at taken
    · next p is =>
      split at taken
      · next o here =>
        rw [← Option.some.inj taken]
        exact resumePlace_case is here
      · cases taken
    · cases taken
  | recordAfter t tx =>
    dsimp only [World.step] at taken
    split at taken
    · next p is =>
      split at taken
      · next o here =>
        rw [← Option.some.inj taken]
        exact resumeRecordAfter_case is here
      · cases taken
    · cases taken
  | sweep t process account orderId =>
    dsimp only [World.step] at taken
    split at taken
    · cases taken
    · next free =>
      rw [← Option.some.inj taken]
      exact .queued t process account orderId (by simpa using free)
  | reconcile t process account orderId =>
    dsimp only [World.step] at taken
    split at taken
    · cases taken
    · next free =>
      obtain ⟨o, held, rfl⟩ := Option.map_eq_some_iff.mp taken
      exact requestReconcile_case (by simpa using free) held
  | venueRead t orders positions now =>
    dsimp only [World.step] at taken
    split at taken
    · next s is =>
      split at taken
      · next o here =>
        rw [← Option.some.inj taken]
        exact resumeReading_case is here
      · cases taken
    · cases taken
  | recordSettled t tx =>
    dsimp only [World.step] at taken
    split at taken
    · next s is =>
      split at taken
      · next o here =>
        rw [← Option.some.inj taken]
        exact resumeRecording_case is here
      · cases taken
    · cases taken

end Inversion

end TradeResearch.Execution
