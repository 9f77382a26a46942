import TradeResearch.Execution.Steps

/-!
# Whose order is whose

An order id is issued once, to one intent in one account of one process, and everything that
carries the id afterwards (the manager's order, the task that holds it, its row) is about that
order. Two passes never hold one order.

* `Ids` is the invariant, and `Ids.along` says that every run keeps it.
* `Course` is `StepCase` as far as the orders, the rows and the sends go.
-/

namespace TradeResearch.Execution

open Oms Brokers

structure Touches (q q' : Process) (account id : String) : Prop where
  older : ∀ other id' o', q'.orderAt other id' = some o' →
    ∃ o, q.orderAt other id' = some o ∧ Evolves o o'
  elsewhere : ∀ other id', ¬ (other = account ∧ id' = id) →
    q'.orderAt other id' = q.orderAt other id'

theorem Touches.of_orderAt {q q' : Process} (same : q'.orderAt = q.orderAt)
    (account id : String) : Touches q q' account id where
  older other id' o' held := ⟨o', by rwa [same] at held, .refl o'⟩
  elsewhere other id' _ := by rw [same]

theorem Touches.of_forgets {q q' : Process} {account id : String}
    (forgets : Forgets q q' account id) : Touches q q' account id where
  older other id' o' held := ⟨o', forgets.known other id' o' held, .refl o'⟩
  elsewhere := forgets.elsewhere

theorem Touches.release {q q' : Process} {account id : String} (touches : Touches q q' account id)
    (other : String) : Touches q (q'.release other) account id :=
  ⟨touches.older, touches.elsewhere⟩

theorem Touches.of_same {q q' r : Process} {account id : String} (same : SameMemory q r)
    (touches : Touches r q' account id) : Touches q q' account id := by
  obtain ⟨older, elsewhere⟩ := touches
  rw [same.orderAt] at older elsewhere
  exact ⟨older, elsewhere⟩

theorem Touches.update {q : Process} {account : String} {o o' : ManagedOrder}
    (named : (q.object account o).id = o.id) (evolves : Evolves (q.object account o) o') :
    Touches q (q.update account o') account o.id := by
  have id : o'.id = o.id := evolves.same.id.trans named
  constructor
  · intro other id' x held
    rw [Process.update_orderAt] at held
    by_cases here : other = account ∧ id' = o'.id ∧ (q.orderAt account o'.id).isSome
    · rw [if_pos here] at held
      obtain ⟨rfl, rfl, known⟩ := here
      rw [id] at known ⊢
      rcases q.object_cases other o with kept | ⟨gone, _⟩
      · exact ⟨_, kept, Option.some.inj held ▸ evolves⟩
      · rw [gone] at known
        cases known
    · rw [if_neg here] at held
      exact ⟨x, held, .refl x⟩
  · intro other id' different
    rw [Process.update_orderAt, if_neg]
    rintro ⟨same, same', _⟩
    exact different ⟨same, same'.trans id⟩

theorem Process.update_object_orderAt {q : Process} {account : String} {o : ManagedOrder}
    (named : (q.object account o).id = o.id) :
    (q.update account (q.object account o)).orderAt = q.orderAt := by
  funext other id'
  rw [Process.update_orderAt]
  split
  · next here =>
    obtain ⟨rfl, rfl, known⟩ := here
    rw [named] at known ⊢
    rcases q.object_cases other o with kept | ⟨gone, _⟩
    · exact kept.symm
    · rw [gone] at known
      cases known
  · rfl

namespace World

def Issued (w : World) (process account : String) (o : ManagedOrder) : Prop :=
  ⟨o.id, o.clientOrderId, process, account⟩ ∈ w.issued

structure Ids (w : World) : Prop where
  once : (w.issued.map Issue.orderId).Nodup
  kept : ∀ process account id o, (w.procs process).orderAt account id = some o →
    o.id = id ∧ w.Issued process account o
  held : ∀ t task o, w.tasks t = some task → task.order? = some o →
    w.Issued task.process task.account o
  keyed : ∀ t p o, w.tasks t = some (.pass p) → p.stage.order? = some o → o.clientOrderId = p.key
  alone : ∀ t t' p p' o o', w.tasks t = some (.pass p) → w.tasks t' = some (.pass p') →
    p.stage.order? = some o → p'.stage.order? = some o' → o.id = o'.id → t = t'
  rows : ∀ row ∈ w.table.rows, ∃ process account,
    ⟨row.id, row.intentId, process, account⟩ ∈ w.issued

variable {w : World}

theorem Ids.unique (ids : w.Ids) {i j : Issue} (mem : i ∈ w.issued) (mem' : j ∈ w.issued)
    (same : i.orderId = j.orderId) : i = j :=
  List.inj_on_of_nodup_map ids.once mem mem' same

theorem Ids.object (ids : w.Ids) {process account : String} {o : ManagedOrder}
    (issued : w.Issued process account o) :
    ((w.procs process).object account o).id = o.id ∧
      ((w.procs process).object account o).clientOrderId = o.clientOrderId := by
  rcases (w.procs process).object_cases account o with kept | ⟨_, own⟩
  · obtain ⟨id, there⟩ := ids.kept _ _ _ _ kept
    exact ⟨id, congrArg Issue.intentId (ids.unique there issued id)⟩
  · rw [own]
    exact ⟨rfl, rfl⟩

theorem Ids.object_issued (ids : w.Ids) {process account : String} {o : ManagedOrder}
    (issued : w.Issued process account o) :
    w.Issued process account ((w.procs process).object account o) := by
  obtain ⟨id, intent⟩ := ids.object issued
  unfold Issued
  rwa [id, intent]

theorem Issued.evolves {process account : String} {o o' : ManagedOrder}
    (issued : w.Issued process account o) (evolves : Evolves o o') :
    w.Issued process account o' := by
  unfold Issued
  rwa [evolves.same.id, evolves.same.clientOrderId]

theorem Ids.met (ids : w.Ids) {t : ℕ} {p : Pass} {o : ManagedOrder}
    (is : w.tasks t = some (.pass p)) (order : p.stage.order? = some o) :
    (w.met p o).id = o.id ∧ w.Issued p.process p.account (w.met p o) :=
  have issued := ids.held t _ o is order
  ⟨(ids.object issued).1, ids.object_issued issued⟩

theorem Ids.metBy (ids : w.Ids) {t : ℕ} {s : Settlement} {o : ManagedOrder}
    (is : w.tasks t = some (.settlement s)) (order : s.stage.order? = some o) :
    (w.metBy s o).id = o.id ∧ w.Issued s.process s.account (w.metBy s o) :=
  have issued := ids.held t _ o is order
  ⟨(ids.object issued).1, ids.object_issued issued⟩

theorem Ids.written (ids : w.Ids) {process account : String} {o : ManagedOrder}
    {table : OrdersTable} (issued : w.Issued process account o)
    (wrote : OrdersTable.WriteCase w.table o table) :
    ∀ row ∈ table.rows, ∃ process account,
      ⟨row.id, row.intentId, process, account⟩ ∈ w.issued := by
  intro row mem
  rcases wrote.origin mem with ⟨old, there, id, intent, _⟩ | new
  · rw [id, intent]
    exact ids.rows old there
  · exact ⟨process, account, new ▸ issued⟩

end World

inductive Course (d : Deployment) (w : World) : Event → World → Prop
  | registered (process account : String) (mode : Mode) (broker : Option String)
      (free : (w.procs process).managers account = none) :
    Course d w (.register process account mode broker)
      { w with
        procs := Function.update w.procs process
          ((w.procs process).setManager account (.fresh mode broker)) }
  | crashed (process : String) : Course d w (.crash process) (w.crash process)
  /-- A task that holds no order, or takes one up from the manager to settle it. -/
  | moved (e : Event) (t : ℕ) (task : Task) (q : Process)
      (same : q.orderAt = (w.procs task.process).orderAt)
      (taken : ∀ o, task.order? = some o → ∃ s id, task = .settlement s ∧
        (w.procs s.process).orderAt s.account id = some o ∧
        (s.stage = .reading o → o.needsReconciliation = true)) :
    Course d w e (w.advance t task q)
  | created (e : Event) (t : ℕ) (p : Pass) (m : OrderManager) (o : ManagedOrder)
      (is : w.tasks t = some (.pass p)) (fresh : o.id ∉ w.issued.map Issue.orderId)
      (held : (w.procs p.process).managers p.account = some m)
      (intent : o.clientOrderId = p.key) (status : o.status = .intent) :
    Course d w e
      ({ w with issued := ⟨o.id, p.key, p.process, p.account⟩ :: w.issued }.advance t
        (.pass { p with stage := .record o })
        ((w.procs p.process).setManager p.account (m.register o)))
  | begun (e : Event) (t : ℕ) (p : Pass) (o : ManagedOrder) (table : OrdersTable) (q : Process)
      (is : w.tasks t = some (.pass p)) (here : p.stage = .record o)
      (wrote : OrdersTable.WriteCase w.table (w.met p o) table)
      (recorded : d.records p = true → ∃ row ∈ table.rows, row.id = (w.met p o).id)
      (created : (w.met p o).status = .intent)
      (same : q.orderAt = (w.procs p.process).orderAt) :
    Course d w e
      ({ w with table }.advance t (.pass { p with stage := .venueSpec (w.met p o) }) q)
  | sent (e : Event) (t : ℕ) (p : Pass) (o : ManagedOrder) (now : Time)
      (spec : Answer (Option SymbolInfo)) (o' : ManagedOrder) (is : w.tasks t = some (.pass p))
      (here : p.stage = .venueSpec o) (evolves : Evolves (w.met p o) o')
      (ran : (ManagedOrder.submitSpec now spec).exec (w.met p o) = (.ok true, o')) :
    Course d w e
      ({ w with sent := ⟨p.key, o'.id⟩ :: w.sent }.advance t
        (.pass { p with stage := .place o', sent := true })
        ((w.procs p.process).update p.account o'))
  /-- A pass was done with its order, up to the write after the send. -/
  | handled (e : Event) (t : ℕ) (p p' : Pass) (o : ManagedOrder) (table : OrdersTable)
      (q : Process) (is : w.tasks t = some (.pass p)) (order : p.stage.order? = some o)
      (wrote : OrdersTable.WriteCase w.table (w.met p o) table)
      (process : p'.process = p.process) (account : p'.account = p.account)
      (key : p'.key = p.key)
      (later : ∀ o', p'.stage.order? = some o' →
        p'.stage = .recordAfter o' ∧ Evolves (w.met p o) o')
      (ends : p'.stage.sending = false)
      (touches : Touches (w.procs p.process) q p.account o.id) :
    Course d w e ({ w with table }.advance t (.pass p') q)
  /-- The venue was read and the order settled. -/
  | read (t : ℕ) (s s' : Settlement) (o : ManagedOrder) (orders : List BrokerOrder)
      (positions : List BrokerPosition) (now : Time) (o' : ManagedOrder) (q : Process)
      (is : w.tasks t = some (.settlement s)) (here : s.stage = .reading o)
      (process : s'.process = s.process) (account : s'.account = s.account)
      (next : s'.stage = .recording o' ∨ s'.stage.order? = none)
      (evolves : Evolves (w.metBy s o) o')
      (same : q.orderAt = ((w.procs s.process).update s.account o').orderAt) :
    Course d w (.venueRead t (.ok orders) (.ok positions) now)
      (w.advance t (.settlement s') q)
  | settled (e : Event) (t : ℕ) (s s' : Settlement) (o : ManagedOrder) (table : OrdersTable)
      (q : Process) (is : w.tasks t = some (.settlement s)) (here : s.stage = .recording o)
      (wrote : OrdersTable.WriteCase w.table (w.metBy s o) table)
      (process : s'.process = s.process) (ends : s'.stage.order? = none)
      (same : q.orderAt = (w.procs s.process).orderAt) :
    Course d w e ({ w with table }.advance t (.settlement s') q)

namespace World

variable {d : Deployment} {w w' : World}

theorem endSettlement_eq (w : World) (t : ℕ) (s : Settlement) (q : Process) (verdict : Verdict) :
    ∃ q', q'.orderAt = q.orderAt ∧
      w.endSettlement t s q verdict =
        w.advance t (.settlement { s with stage := .done verdict }) q' := by
  unfold endSettlement
  cases s.settler with
  | worker => exact ⟨q.release s.account, rfl, rfl⟩
  | route => exact ⟨q, rfl, rfl⟩

theorem Ids.course (ids : w.Ids) (step : StepCase d w e w') : Course d w e w' := by
  cases step with
  | registered process account mode broker free =>
    exact .registered process account mode broker free
  | crashed process => exact .crashed process
  | gated e t p stage q came idle same =>
    refine .moved e t _ q same.orderAt fun o order => ?_
    have holds : stage.order? = some o := order
    rw [idle.2] at holds
    cases holds
  | acquired t p approval is here free => exact .moved _ t _ _ rfl fun o order => by cases order
  | turned e t p approval ending q is here same =>
    exact .moved e t _ _ same.orderAt fun o order => by cases order
  | created t p approval orderId now m o is here fresh passed held id intent status =>
    subst id
    exact .created _ t p m o is fresh held intent status
  | unrecorded t p o tx now table ending q is here wrote forgets =>
    have order : p.stage.order? = some o := by rw [here]; rfl
    rw [(ids.met is order).1] at forgets
    exact .handled _ t p _ o table _ is order wrote rfl rfl rfl (fun o' order => by cases order) rfl
      ((Touches.of_forgets forgets).release _)
  | begun t p o tx now table q is here wrote recorded same created =>
    have order : p.stage.order? = some o := by rw [here]; rfl
    refine .begun _ t p o table _ is here wrote recorded created ?_
    have object : q.object p.account o = w.met p o := by rw [same.object]; rfl
    rw [← object, Process.update_object_orderAt (object ▸ (ids.met is order).1), same.orderAt]
  | expired t p o tx now table q o' is here wrote recorded same evolves =>
    have order : p.stage.order? = some o := by rw [here]; rfl
    have object : q.object p.account o = w.met p o := by rw [same.object]; rfl
    refine .handled _ t p _ o table _ is order wrote rfl rfl rfl ?_ rfl ?_
    · rintro _ ⟨⟩
      exact ⟨rfl, evolves⟩
    · exact .of_same same (.update (object ▸ (ids.met is order).1) (object ▸ evolves))
  | unbegun t p o tx now table q ending is here wrote same =>
    have order : p.stage.order? = some o := by rw [here]; rfl
    have object : q.object p.account o = w.met p o := by rw [same.object]; rfl
    refine .handled _ t p _ o table _ is order wrote rfl rfl rfl
      (fun o order => by cases order) rfl ?_
    exact (Touches.of_same same
      (.update (object ▸ (ids.met is order).1) (object ▸ .refl _))).release _
  | sent t p o spec now o' is here ran =>
    have evolves := Evolves.submitSpec (p.caller.clock now) spec (w.met p o)
    rw [ran] at evolves
    exact .sent _ t p o _ spec o' is here evolves ran
  | unsent t p o spec now o' is here ran =>
    have order : p.stage.order? = some o := by rw [here]; rfl
    have evolves := Evolves.submitSpec (p.caller.clock now) spec (w.met p o)
    rw [ran] at evolves
    refine .handled _ t p _ o w.table _ is order .unwritten rfl rfl rfl ?_ rfl ?_
    · rintro _ ⟨⟩
      exact ⟨rfl, evolves⟩
    · exact .update (ids.met is order).1 evolves
  | specRaised t p o spec now o' ending is here evolves =>
    have order : p.stage.order? = some o := by rw [here]; rfl
    refine .handled _ t p _ o w.table _ is order .unwritten rfl rfl rfl
      (fun o order => by cases order) rfl ?_
    exact (Touches.update (ids.met is order).1 evolves).release _
  | placed t p o answer now o' is here ran =>
    have order : p.stage.order? = some o := by rw [here]; rfl
    have evolves := Evolves.applyAnswer (p.caller.clock now) answer (w.met p o)
    rw [ran] at evolves
    refine .handled _ t p _ o w.table _ is order .unwritten rfl rfl rfl ?_ rfl ?_
    · rintro _ ⟨⟩
      exact ⟨rfl, evolves⟩
    · exact .update (ids.met is order).1 evolves
  | placeRaised t p o answer now raised o' is here ran =>
    have order : p.stage.order? = some o := by rw [here]; rfl
    have evolves := Evolves.applyAnswer (p.caller.clock now) answer (w.met p o)
    rw [ran] at evolves
    refine .handled _ t p _ o w.table _ is order .unwritten rfl rfl rfl
      (fun o order => by cases order) rfl ?_
    exact (Touches.update (ids.met is order).1 evolves).release _
  | concluded t p o tx table ending is here wrote told =>
    have order : p.stage.order? = some o := by rw [here]; rfl
    exact .handled _ t p _ o table _ is order wrote rfl rfl rfl (fun o order => by cases order) rfl
      ((Touches.of_orderAt rfl _ _).release _)
  | queued t process account orderId free =>
    exact .moved _ t _ _ rfl fun o order => by cases order
  | requested t process account orderId o stage free known goes =>
    refine .moved _ t _ _ rfl fun o' order => ⟨_, orderId, rfl, ?_, ?_⟩
    · rcases goes with ⟨rfl, _⟩ | rfl
      · exact Option.some.inj order ▸ known
      · exact Option.some.inj order ▸ known
    · intro reading
      rcases goes with ⟨rfl, needs⟩ | rfl
      · cases reading
        exact needs
      · cases reading
  | settling t s orderId o is here worker free known needs =>
    refine .moved _ t _ _ rfl fun o' order => ?_
    cases order
    exact ⟨_, orderId, rfl, known, fun _ => needs⟩
  | gone t s orderId q is here same =>
    exact .moved _ t _ _ same.orderAt fun o order => by cases order
  | unread t s o orders positions now verdict is here =>
    obtain ⟨q, same, ends⟩ := w.endSettlement_eq t s (w.procs s.process) verdict
    rw [ends]
    exact .moved _ t _ _ same fun o order => by cases order
  | read t s o orders positions now o' is here evolves =>
    exact .read t s _ o orders positions now o' _ is here rfl rfl (.inl rfl) evolves rfl
  | readRaised t s o orders positions now o' verdict is here evolves =>
    obtain ⟨q, same, ends⟩ :=
      w.endSettlement_eq t s ((w.procs s.process).update s.account o') verdict
    rw [ends]
    exact .read t s _ o orders positions now o' _ is here rfl rfl (.inr rfl) evolves same
  | settled t s o tx table verdict is here wrote =>
    obtain ⟨q, same, ends⟩ :=
      World.endSettlement_eq { w with table } t s (w.procs s.process) verdict
    rw [ends]
    exact .settled _ t s _ o table q is here wrote rfl rfl same

theorem advance_orderAt {t : ℕ} {task : Task} {q : Process} {process account id : String}
    {o : ManagedOrder} (held : ((w.advance t task q).procs process).orderAt account id = some o) :
    process = task.process ∧ q.orderAt account id = some o ∨
      process ≠ task.process ∧ (w.procs process).orderAt account id = some o := by
  by_cases same : process = task.process
  · have here : (w.advance t task q).procs process = q := same ▸ Function.update_self ..
    exact .inl ⟨same, here ▸ held⟩
  · have there : (w.advance t task q).procs process = w.procs process :=
      Function.update_of_ne same ..
    exact .inr ⟨same, there ▸ held⟩

theorem Ids.advance (ids : w.Ids) {table : OrdersTable} {sent : List Sent} {t : ℕ} {task : Task}
    {q : Process}
    (memory : ∀ account id o', q.orderAt account id = some o' →
      ∃ o, (w.procs task.process).orderAt account id = some o ∧ Evolves o o')
    (order : ∀ o', task.order? = some o' → w.Issued task.process task.account o')
    (pass : ∀ p' o', task = .pass p' → p'.stage.order? = some o' → ∃ p o,
      w.tasks t = some (.pass p) ∧ p.stage.order? = some o ∧ o'.id = o.id ∧ p'.key = p.key ∧
        o'.clientOrderId = o.clientOrderId)
    (rows : ∀ row ∈ table.rows, ∃ process account,
      ⟨row.id, row.intentId, process, account⟩ ∈ w.issued) :
    ({ w with table, sent }.advance t task q).Ids where
  once := ids.once
  kept process account id o' held := by
    rcases advance_orderAt held with ⟨rfl, here⟩ | ⟨_, there⟩
    · obtain ⟨o, before, evolves⟩ := memory account id o' here
      obtain ⟨same, issued⟩ := ids.kept _ _ _ _ before
      exact ⟨evolves.same.id.trans same, issued.evolves evolves⟩
    · exact ids.kept process account id o' there
  held t' task' o' is holds := by
    rcases advance_tasks is with ⟨_, rfl⟩ | ⟨_, there⟩
    · exact order o' holds
    · exact ids.held t' task' o' there holds
  keyed t' p' o' is holds := by
    rcases advance_tasks is with ⟨_, rfl⟩ | ⟨_, there⟩
    · obtain ⟨p, o, before, held, _, key, intent⟩ := pass p' o' rfl holds
      rw [intent, key]
      exact ids.keyed t p o before held
    · exact ids.keyed t' p' o' there holds
  alone t₁ t₂ p₁ p₂ o₁ o₂ is₁ is₂ holds₁ holds₂ same := by
    rcases advance_tasks is₁ with ⟨rfl, rfl⟩ | ⟨_, there₁⟩
    · rcases advance_tasks is₂ with ⟨rfl, _⟩ | ⟨_, there₂⟩
      · rfl
      · obtain ⟨p, o, before, held, id, _⟩ := pass p₁ o₁ rfl holds₁
        exact ids.alone t₁ t₂ p p₂ o o₂ before there₂ held holds₂ (id.symm.trans same)
    · rcases advance_tasks is₂ with ⟨rfl, rfl⟩ | ⟨_, there₂⟩
      · obtain ⟨p, o, before, held, id, _⟩ := pass p₂ o₂ rfl holds₂
        exact ids.alone t₁ t₂ p₁ p o₁ o there₁ before holds₁ held (same.trans id)
      · exact ids.alone t₁ t₂ p₁ p₂ o₁ o₂ there₁ there₂ holds₁ holds₂ same
  rows := rows

theorem registered_orderAt {q : Process} {account : String} (free : q.managers account = none)
    (mode : Mode) (broker : Option String) :
    (q.setManager account (.fresh mode broker)).orderAt = q.orderAt := by
  funext other id
  rw [Process.setManager_orderAt]
  split
  · next same =>
    have before : q.orderAt account id = none := by
      unfold Process.orderAt
      rw [free]
      rfl
    rw [same, before]
    rfl
  · rfl

theorem created_orderAt {q : Process} {account : String} {m : OrderManager}
    (held : q.managers account = some m) (o : ManagedOrder) (other id : String) :
    (q.setManager account (m.register o)).orderAt other id =
      if other = account ∧ id = o.id then some o else q.orderAt other id := by
  rw [Process.setManager_orderAt]
  by_cases same : other = account
  · have before : q.orderAt account id = m.orders id := by
      unfold Process.orderAt
      rw [held]
      rfl
    rw [if_pos same, same, before, OrderManager.register_orders]
    by_cases named : id = o.id
    · rw [if_pos ⟨rfl, named⟩, named]
      exact Function.update_self ..
    · rw [if_neg fun both => named both.2]
      exact Function.update_of_ne named ..
  · rw [if_neg same, if_neg fun both => same both.1]

def registered (w : World) (process account : String) (mode : Mode) (broker : Option String) :
    World :=
  { w with
    procs := Function.update w.procs process
      ((w.procs process).setManager account (.fresh mode broker)) }

theorem registered_procs {process account : String}
    (free : (w.procs process).managers account = none) (mode : Mode) (broker : Option String)
    (process' : String) :
    ((w.registered process account mode broker).procs process').orderAt =
      (w.procs process').orderAt := by
  by_cases same : process' = process
  · subst same
    have here : (w.registered process' account mode broker).procs process' =
        (w.procs process').setManager account (.fresh mode broker) := Function.update_self ..
    rw [here, registered_orderAt free]
  · have there : (w.registered process account mode broker).procs process' = w.procs process' :=
      Function.update_of_ne same ..
    rw [there]

theorem Ids.registered (ids : w.Ids) {process account : String} {mode : Mode}
    {broker : Option String} (free : (w.procs process).managers account = none) :
    (w.registered process account mode broker).Ids where
  once := ids.once
  kept process' account' id o held := by
    rw [registered_procs free] at held
    exact ids.kept process' account' id o held
  held := ids.held
  keyed := ids.keyed
  alone := ids.alone
  rows := ids.rows

theorem crash_orderAt {process process' account id : String} {o : ManagedOrder}
    (held : ((w.crash process).procs process').orderAt account id = some o) :
    process' ≠ process ∧ (w.procs process').orderAt account id = some o := by
  by_cases same : process' = process
  · have here : (w.crash process).procs process' = .fresh := same ▸ Function.update_self ..
    rw [here] at held
    cases held
  · have there : (w.crash process).procs process' = w.procs process' :=
      Function.update_of_ne same ..
    exact ⟨same, there ▸ held⟩

theorem Ids.crashed (ids : w.Ids) (process : String) : (w.crash process).Ids where
  once := ids.once
  kept process' account id o held := ids.kept process' account id o (crash_orderAt held).2
  held t task o is := ids.held t task o (crash_tasks is).1
  keyed t p o is := ids.keyed t p o (crash_tasks is).1
  alone t t' p p' o o' is is' := ids.alone t t' p p' o o' (crash_tasks is).1 (crash_tasks is').1
  rows := ids.rows

theorem Ids.created (ids : w.Ids) {t : ℕ} {p : Pass} {m : OrderManager} {o : ManagedOrder}
    (fresh : o.id ∉ w.issued.map Issue.orderId)
    (held : (w.procs p.process).managers p.account = some m) (intent : o.clientOrderId = p.key) :
    ({ w with issued := ⟨o.id, p.key, p.process, p.account⟩ :: w.issued }.advance t
      (.pass { p with stage := .record o })
      ((w.procs p.process).setManager p.account (m.register o))).Ids := by
  have own : (⟨o.id, o.clientOrderId, p.process, p.account⟩ : Issue) ∈
      (⟨o.id, p.key, p.process, p.account⟩ :: w.issued : List Issue) := by
    rw [intent]
    exact List.mem_cons_self
  have other {process account : String} {o' : ManagedOrder} (issued : w.Issued process account o') :
      o.id ≠ o'.id := fun same => fresh (same ▸ List.mem_map_of_mem (f := Issue.orderId) issued)
  constructor
  · exact List.nodup_cons.mpr ⟨fresh, ids.once⟩
  · intro process account id x known
    rcases advance_orderAt known with ⟨rfl, here⟩ | ⟨_, there⟩
    · have here : ((w.procs p.process).setManager p.account (m.register o)).orderAt account id =
        some x := here
      rw [created_orderAt held] at here
      by_cases both : account = p.account ∧ id = o.id
      · rw [if_pos both] at here
        cases here
        obtain ⟨rfl, rfl⟩ := both
        exact ⟨rfl, own⟩
      · rw [if_neg both] at here
        obtain ⟨same, issued⟩ := ids.kept _ _ _ _ here
        exact ⟨same, List.mem_cons_of_mem _ issued⟩
    · obtain ⟨same, issued⟩ := ids.kept _ _ _ _ there
      exact ⟨same, List.mem_cons_of_mem _ issued⟩
  · intro t' task x is holds
    rcases advance_tasks is with ⟨_, rfl⟩ | ⟨_, there⟩
    · cases holds
      exact own
    · exact List.mem_cons_of_mem _ (ids.held t' task x there holds)
  · intro t' p' x is holds
    rcases advance_tasks is with ⟨_, same⟩ | ⟨_, there⟩
    · cases same
      cases holds
      exact intent
    · exact ids.keyed t' p' x there holds
  · intro t₁ t₂ p₁ p₂ o₁ o₂ is₁ is₂ holds₁ holds₂ same
    rcases advance_tasks is₁ with ⟨rfl, same₁⟩ | ⟨_, there₁⟩
    · rcases advance_tasks is₂ with ⟨rfl, _⟩ | ⟨_, there₂⟩
      · rfl
      · cases same₁
        cases holds₁
        exact absurd same (other (ids.held t₂ _ o₂ there₂ holds₂))
    · rcases advance_tasks is₂ with ⟨rfl, same₂⟩ | ⟨_, there₂⟩
      · cases same₂
        cases holds₂
        exact absurd same.symm (other (ids.held t₁ _ o₁ there₁ holds₁))
      · exact ids.alone t₁ t₂ p₁ p₂ o₁ o₂ there₁ there₂ holds₁ holds₂ same
  · intro row mem
    obtain ⟨process, account, issued⟩ := ids.rows row mem
    exact ⟨process, account, List.mem_cons_of_mem _ issued⟩

theorem Ids.start : World.start.Ids where
  once := List.nodup_nil
  kept process account id o held := by cases held
  held t task o is := by cases is
  keyed t p o is := by cases is
  alone t t' p p' o o' is := by cases is
  rows row mem := absurd mem List.not_mem_nil

theorem Ids.along (ids : w.Ids) (course : Course d w e w') : w'.Ids := by
  cases course with
  | registered process account mode broker free => exact ids.registered free
  | crashed process => exact ids.crashed process
  | moved e t task q same taken =>
    refine ids.advance (fun account id o' held => ?_)
      (fun o' holds => ?_) (fun p' o' isPass holds => ?_) ids.rows
    · exact ⟨o', same ▸ held, .refl o'⟩
    · obtain ⟨s, id, rfl, held, _⟩ := taken o' holds
      exact (ids.kept _ _ _ _ held).2
    · subst isPass
      obtain ⟨s, _, other, _⟩ := taken o' holds
      cases other
  | created e t p m o is fresh held intent status => exact ids.created fresh held intent
  | begun e t p o table q is here wrote recorded created same =>
    have order : p.stage.order? = some o := by rw [here]; rfl
    obtain ⟨id, issued⟩ := ids.met is order
    refine ids.advance (fun account id o' held => ⟨o', same ▸ held, .refl o'⟩)
      (fun o' holds => ?_) (fun p' o' isPass holds => ?_) (ids.written issued wrote)
    · cases holds
      exact issued
    · cases isPass
      cases holds
      exact ⟨p, o, is, order, id, rfl, (ids.object (ids.held t _ o is order)).2⟩
  | sent e t p o now spec o' is here evolves ran =>
    have order : p.stage.order? = some o := by rw [here]; rfl
    obtain ⟨id, issued⟩ := ids.met is order
    refine ids.advance (Touches.update id evolves).older
      (fun x holds => ?_) (fun p' x isPass holds => ?_) ids.rows
    · cases holds
      exact issued.evolves evolves
    · cases isPass
      cases holds
      exact ⟨p, o, is, order, evolves.same.id.trans id, rfl,
        evolves.same.clientOrderId.trans (ids.object (ids.held t _ o is order)).2⟩
  | handled e t p p' o table q is order wrote process account key later ends touches =>
    obtain ⟨id, issued⟩ := ids.met is order
    refine ids.advance ?_ (fun x holds => ?_) (fun p'' x isPass holds => ?_)
      (ids.written issued wrote)
    · rw [show (Task.pass p').process = p.process from process]
      exact touches.older
    · rw [show (Task.pass p').process = p.process from process,
        show (Task.pass p').account = p.account from account]
      exact issued.evolves (later x holds).2
    · cases isPass
      have evolves := (later x holds).2
      exact ⟨p, o, is, order, evolves.same.id.trans id, key,
        evolves.same.clientOrderId.trans (ids.object (ids.held t _ o is order)).2⟩
  | read t s s' o orders positions now o' q is here process account next evolves same =>
    have order : s.stage.order? = some o := by rw [here]; rfl
    obtain ⟨id, issued⟩ := ids.metBy is order
    refine ids.advance ?_ (fun x holds => ?_)
      (fun p' x isPass holds => ?_) ids.rows
    · rw [show (Task.settlement s').process = s.process from process, same]
      exact (Touches.update id evolves).older
    · rw [show (Task.settlement s').process = s.process from process,
        show (Task.settlement s').account = s.account from account]
      have holds : s'.stage.order? = some x := holds
      rcases next with recording | ends
      · rw [recording] at holds
        cases holds
        exact issued.evolves evolves
      · rw [ends] at holds
        cases holds
    · cases isPass
  | settled e t s s' o table q is here wrote process ends same =>
    have order : s.stage.order? = some o := by rw [here]; rfl
    obtain ⟨id, issued⟩ := ids.metBy is order
    refine ids.advance (fun account id o' held => ?_) (fun x holds => ?_)
      (fun p' x isPass holds => ?_) (ids.written issued wrote)
    · rw [show (Task.settlement s').process = s.process from process, ← same]
      exact ⟨o', held, .refl o'⟩
    · have holds : s'.stage.order? = some x := holds
      rw [ends] at holds
      cases holds
    · cases isPass

theorem Ids.step (ids : w.Ids) (taken : w.step d e = some w') : w'.Ids :=
  ids.along (ids.course (step_cases taken))

end World

end TradeResearch.Execution
