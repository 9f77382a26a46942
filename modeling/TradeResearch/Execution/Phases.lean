import TradeResearch.Execution.Course

/-!
# What is known of an order while it is sent

An order waits for its send in `intent`, in its manager and, if it has a row, in the table; from
the moment its send is awaited it is past `intent`, and so is every order that is being settled.
Nothing the other tasks do changes that: no other pass holds the order, and a settlement does not
take up an order in `intent`.

* `Waiting`, `Sending` and `Settling` are the three facts, and what keeps each along a run.
-/

namespace TradeResearch.Execution

open Oms Brokers

namespace World

variable {d : Deployment} {w w' : World}

structure WaitsIn (w : World) (p : Pass) (o : ManagedOrder) : Prop where
  held : ∃ x, (w.procs p.process).orderAt p.account o.id = some x ∧ x.status = .intent
  rows : ∀ row ∈ w.table.rows, row.id = o.id → row.status = .intent

def Waiting (w : World) : Prop :=
  ∀ t p o, w.tasks t = some (.pass p) → p.stage.waiting? = some o → w.WaitsIn p o

def Sending (S : OrderStatus → Prop) (w : World) : Prop :=
  ∀ t p o, w.tasks t = some (.pass p) → p.stage = .place o →
    ∃ x, (w.procs p.process).orderAt p.account o.id = some x ∧ S x.status

def Settling (w : World) : Prop :=
  ∀ t s o, w.tasks t = some (.settlement s) → s.stage = .reading o →
    ∀ x, (w.procs s.process).orderAt s.account o.id = some x → x.status ≠ .intent

theorem advance_procs (w : World) (t : ℕ) (task : Task) (q : Process) (process : String) :
    (w.advance t task q).procs process = if process = task.process then q else w.procs process := by
  exact Function.update_apply ..

theorem Ids.elsewhere (ids : w.Ids) {t : ℕ} {p : Pass} {o : ManagedOrder} {q : Process}
    (is : w.tasks t = some (.pass p)) (order : p.stage.order? = some o)
    (touches : Touches (w.procs p.process) q p.account o.id) {t' : ℕ} {p' : Pass}
    {o' : ManagedOrder} (other : t' ≠ t) (is' : w.tasks t' = some (.pass p'))
    (order' : p'.stage.order? = some o') (same : p'.process = p.process) :
    q.orderAt p'.account o'.id = (w.procs p'.process).orderAt p'.account o'.id := by
  rw [same]
  refine touches.elsewhere _ _ fun both => other ?_
  exact ids.alone t' t p' p o' o is' is order' order both.2

theorem Ids.rows_elsewhere (ids : w.Ids) {t : ℕ} {p : Pass} {o : ManagedOrder}
    {table : OrdersTable} (is : w.tasks t = some (.pass p)) (order : p.stage.order? = some o)
    (wrote : OrdersTable.WriteCase w.table (w.met p o) table) {t' : ℕ} {p' : Pass}
    {o' : ManagedOrder} (other : t' ≠ t) (is' : w.tasks t' = some (.pass p'))
    (order' : p'.stage.order? = some o') {row : OrderRow} (mem : row ∈ table.rows)
    (named : row.id = o'.id) : row ∈ w.table.rows := by
  refine wrote.elsewhere mem ?_
  rw [named, (ids.met is order).1]
  exact fun same => other (ids.alone t' t p' p o' o is' is order' order same)

theorem Waiting.advance (waiting : w.Waiting) {table : OrdersTable} {issued : List Issue}
    {sent : List Sent} {t : ℕ} {task : Task} {q : Process}
    (own : ∀ p o, task = .pass p → p.stage.waiting? = some o →
      (∃ x, q.orderAt p.account o.id = some x ∧ x.status = .intent) ∧
        ∀ row ∈ table.rows, row.id = o.id → row.status = .intent)
    (orders : ∀ t' p o, t' ≠ t → w.tasks t' = some (.pass p) → p.stage.waiting? = some o →
      p.process = task.process →
        q.orderAt p.account o.id = (w.procs p.process).orderAt p.account o.id)
    (rows : ∀ t' p o, t' ≠ t → w.tasks t' = some (.pass p) → p.stage.waiting? = some o →
      ∀ row ∈ table.rows, row.id = o.id → row.status = .intent) :
    ({ table, procs := w.procs, tasks := w.tasks, issued, sent : World }.advance t task
      q).Waiting := by
  intro t' p o is waits
  rcases advance_tasks is with ⟨_, same⟩ | ⟨other, there⟩
  · obtain ⟨held, recorded⟩ := own p o same.symm waits
    refine ⟨?_, recorded⟩
    rw [advance_procs, if_pos (by rw [← same]; rfl)]
    exact held
  · refine ⟨?_, rows t' p o other there waits⟩
    rw [advance_procs]
    split
    · next same =>
      rw [orders t' p o other there waits same]
      exact (waiting t' p o there waits).held
    · exact (waiting t' p o there waits).held

theorem crash_procs {process process' : String} (other : process' ≠ process) :
    (w.crash process).procs process' = w.procs process' :=
  Function.update_of_ne other ..

theorem WaitsIn.written {p : Pass} {o : ManagedOrder} (waits : w.WaitsIn p o) (ids : w.Ids)
    {t t' : ℕ} {s : Settlement} {o' : ManagedOrder} {table : OrdersTable}
    (is : w.tasks t = some (.pass p)) (order : p.stage.order? = some o)
    (is' : w.tasks t' = some (.settlement s)) (order' : s.stage.order? = some o')
    (wrote : OrdersTable.WriteCase w.table (w.metBy s o') table) :
    ∀ row ∈ table.rows, row.id = o.id → row.status = .intent := by
  intro row mem named
  have id := (ids.metBy is' order').1
  by_cases same : o.id = o'.id
  · have one := ids.unique (ids.held t _ o is order) (ids.held t' _ o' is' order') same
    have process : p.process = s.process := congrArg Issue.process one
    have account : p.account = s.account := congrArg Issue.account one
    obtain ⟨x, held, status⟩ := waits.held
    have met : w.metBy s o' = x := by
      unfold World.metBy Process.object
      rw [← process, ← account, ← same, held]
      rfl
    rw [met] at wrote id
    rw [← status]
    refine wrote.status (fun row mem named => ?_) row mem (named.trans (same.trans id.symm))
    rw [status]
    exact waits.rows row mem (named.trans (id.trans same.symm))
  · refine waits.rows row (wrote.elsewhere mem ?_) named
    rw [named, id]
    exact same

theorem Waiting.along (waiting : w.Waiting) (settling : w.Settling) (ids : w.Ids)
    (course : Course d w e w') : w'.Waiting := by
  have rows (t' : ℕ) (p : Pass) (o : ManagedOrder) (is : w.tasks t' = some (.pass p))
      (waits : p.stage.waiting? = some o) := (waiting t' p o is waits).rows
  cases course with
  | registered process account mode broker free =>
    intro t p o is waits
    have before := waiting t p o is waits
    refine ⟨?_, before.rows⟩
    have orders := registered_procs (w := w) free mode broker p.process
    unfold registered at orders
    rw [orders]
    exact before.held
  | crashed process =>
    intro t p o is waits
    obtain ⟨there, other⟩ := crash_tasks is
    have before := waiting t p o there waits
    refine ⟨?_, before.rows⟩
    rw [show (w.crash process).procs p.process = w.procs p.process from crash_procs other]
    exact before.held
  | moved e t task q same taken =>
    refine waiting.advance
      (fun p o is waits => ?_) (fun t' p o _ _ _ process => ?_) (fun t' p o _ => rows t' p o)
    · obtain ⟨s, _, other, _⟩ := taken o (by rw [is]; exact Stage.order?_of_waiting waits)
      rw [is] at other
      cases other
    · rw [same, process]
  | created e t p m o is fresh held intent status =>
    have new {t' : ℕ} {task : Task} {o' : ManagedOrder} (is : w.tasks t' = some task)
        (holds : task.order? = some o') : o'.id ≠ o.id := fun same =>
      fresh (same ▸ List.mem_map_of_mem (f := Issue.orderId) (ids.held t' _ o' is holds))
    refine waiting.advance (fun p' x isPass waits => ?_)
      (fun t' p' x _ is' waits process => ?_) (fun t' p o _ => rows t' p o)
    · cases isPass
      cases waits
      refine ⟨⟨o, ?_, status⟩, fun row mem named => ?_⟩
      · rw [created_orderAt held, if_pos ⟨rfl, rfl⟩]
      · obtain ⟨_, _, issued⟩ := ids.rows row mem
        exact absurd (named ▸ List.mem_map_of_mem (f := Issue.orderId) issued) fresh
    · have process : p'.process = p.process := process
      rw [created_orderAt held, if_neg, process]
      exact fun both => new is' (Stage.order?_of_waiting waits) both.2
  | begun e t p o table q is here wrote recorded created same =>
    have order : p.stage.order? = some o := by rw [here]; rfl
    have id := (ids.met is order).1
    have before := waiting t p o is (by rw [here]; rfl)
    refine waiting.advance (fun p' x isPass waits => ?_)
      (fun t' p' x _ _ _ process => ?_) (fun t' p' x other is' waits row mem named => ?_)
    · cases isPass
      cases waits
      rw [same]
      refine ⟨?_, fun row mem named => ?_⟩
      · rw [id]
        exact before.held
      · rw [← created]
        refine wrote.status (fun row mem named => ?_) row mem named
        rw [created]
        exact before.rows row mem (named.trans id)
    · rw [same]
      exact congrArg (fun process => (w.procs process).orderAt p'.account x.id) process.symm
    · exact rows t' p' x is' waits row (ids.rows_elsewhere is order wrote other is'
        (Stage.order?_of_waiting waits) mem named) named
  | sent e t p o now spec o' is here evolves ran =>
    have order : p.stage.order? = some o := by rw [here]; rfl
    refine waiting.advance (fun p' x isPass waits => ?_)
      (fun t' p' x other is' waits process => ?_) (fun t' p o _ => rows t' p o)
    · cases isPass
      cases waits
    · exact ids.elsewhere is order (.update (ids.met is order).1 evolves) other is'
        (Stage.order?_of_waiting waits) process
  | handled e t p p' o table q is order wrote process account key later ends touches =>
    refine waiting.advance (fun p'' x isPass waits => ?_)
      (fun t' p'' x other is' waits there => ?_) (fun t' p'' x other is' waits row mem named => ?_)
    · cases isPass
      rw [(later x (Stage.order?_of_waiting waits)).1] at waits
      cases waits
    · exact ids.elsewhere is order touches other is' (Stage.order?_of_waiting waits)
        (there.trans process)
    · exact rows t' p'' x is' waits row (ids.rows_elsewhere is order wrote other is'
        (Stage.order?_of_waiting waits) mem named) named
  | read t s s' o orders positions now o' q is here process account next evolves same =>
    refine waiting.advance
      (fun p x isPass => by cases isPass) (fun t' p x _ is' waits there => ?_)
      (fun t' p o _ => rows t' p o)
    have there : p.process = s.process := there.trans process
    have touches := Touches.update (ids.metBy is (by rw [here]; rfl)).1 evolves
    rw [same, there]
    refine touches.elsewhere _ _ fun both => ?_
    obtain ⟨y, held, status⟩ := (waiting t' p x is' waits).held
    rw [there, both.1, both.2] at held
    exact settling t s o is here y held status
  | settled e t s s' o table q is here wrote process ends same =>
    refine waiting.advance
      (fun p x isPass => by cases isPass) (fun t' p x _ _ _ there => ?_)
      (fun t' p x _ is' waits => ?_)
    · have there : p.process = s.process := there.trans process
      rw [same, there]
    · exact (waiting t' p x is' waits).written ids is' (Stage.order?_of_waiting waits) is
        (by rw [here]; rfl) wrote

theorem WaitsIn.met {p : Pass} {o : ManagedOrder} (waits : w.WaitsIn p o) :
    (w.met p o).status = .intent := by
  obtain ⟨x, held, status⟩ := waits.held
  unfold World.met Process.object
  rw [held]
  exact status

theorem WaitsIn.sent {p : Pass} {o o' : ManagedOrder} (waits : w.WaitsIn p o) {now : Time}
    {spec : Answer (Option SymbolInfo)}
    (ran : (ManagedOrder.submitSpec now spec).exec (w.met p o) = (.ok true, o')) :
    o'.status = .submitting := by
  have outcome := ManagedOrder.submitSpec_cases now waits.met spec
  rw [ran] at outcome
  cases outcome with
  | sends reason => exact ManagedOrder.sending_status _ _ reason

theorem update_held {q : Process} {account : String} {o x : ManagedOrder}
    (held : q.orderAt account o.id = some x) :
    (q.update account o).orderAt account o.id = some o := by
  rw [Process.update_orderAt, if_pos ⟨rfl, rfl, by rw [held]; rfl⟩]

theorem Sending.advance {S : OrderStatus → Prop} (sending : w.Sending S) {table : OrdersTable}
    {issued : List Issue} {sent : List Sent} {t : ℕ} {task : Task} {q : Process}
    (own : ∀ p o, task = .pass p → p.stage = .place o →
      ∃ x, q.orderAt p.account o.id = some x ∧ S x.status)
    (orders : ∀ t' p o x, t' ≠ t → w.tasks t' = some (.pass p) → p.stage = .place o →
      p.process = task.process → (w.procs p.process).orderAt p.account o.id = some x →
        S x.status → ∃ x', q.orderAt p.account o.id = some x' ∧ S x'.status) :
    ({ table, procs := w.procs, tasks := w.tasks, issued, sent : World }.advance t task
      q).Sending S := by
  intro t' p o is here
  rw [advance_procs]
  rcases advance_tasks is with ⟨_, same⟩ | ⟨other, there⟩
  · rw [if_pos (by rw [← same]; rfl)]
    exact own p o same.symm here
  · obtain ⟨x, held, status⟩ := sending t' p o there here
    split
    · next same => exact orders t' p o x other there here same held status
    · exact ⟨x, held, status⟩

theorem Sending.along {S : OrderStatus → Prop} (sending : w.Sending S) (marked : S .submitting)
    (waiting : w.Waiting) (ids : w.Ids) (course : Course d w e w')
    (settles : ∀ t s o orders positions now x x' t' p o',
      e = .venueRead t (.ok orders) (.ok positions) now → w.tasks t = some (.settlement s) →
        s.stage = .reading o → w.tasks t' = some (.pass p) → p.stage = .place o' →
          o'.id = o.id → Evolves x x' → S x.status → S x'.status) :
    w'.Sending S := by
  have order {p : Pass} {o : ManagedOrder} (here : p.stage = .place o) :
      p.stage.order? = some o := by rw [here]; rfl
  cases course with
  | registered process account mode broker free =>
    intro t p o is here
    have orders := registered_procs (w := w) free mode broker p.process
    unfold registered at orders
    rw [orders]
    exact sending t p o is here
  | crashed process =>
    intro t p o is here
    obtain ⟨there, other⟩ := crash_tasks is
    rw [show (w.crash process).procs p.process = w.procs p.process from crash_procs other]
    exact sending t p o there here
  | moved e t task q same taken =>
    refine sending.advance
      (fun p o is here => ?_) (fun t' p o x _ _ _ process held status => ⟨x, ?_, status⟩)
    · obtain ⟨s, _, other, _⟩ := taken o (by rw [is]; exact order here)
      rw [is] at other
      cases other
    · rwa [same, ← process]
  | created e t p m o is fresh held intent status =>
    refine sending.advance (fun p' x isPass here => ?_)
      (fun t' p' x y _ is' here process held' status' => ⟨y, ?_, status'⟩)
    · cases isPass
      cases here
    · have process : p'.process = p.process := process
      rw [created_orderAt held, if_neg, ← process]
      · exact held'
      · exact fun both => fresh
          (both.2 ▸ List.mem_map_of_mem (f := Issue.orderId) (ids.held t' _ x is' (order here)))
  | begun e t p o table q is here wrote recorded created same =>
    refine sending.advance (fun p' x isPass here => ?_)
      (fun t' p' x y _ _ _ process held status => ⟨y, ?_, status⟩)
    · cases isPass
      cases here
    · have process : p'.process = p.process := process
      rwa [same, ← process]
  | sent e t p o now spec o' is here evolves ran =>
    have waits := waiting t p o is (by rw [here]; rfl)
    have id := (ids.met is (by rw [here]; rfl)).1
    refine sending.advance (fun p' x isPass here' => ?_)
      (fun t' p' x y other is' here' process held status => ⟨y, ?_, status⟩)
    · cases isPass
      cases here'
      obtain ⟨x, held, _⟩ := waits.held
      refine ⟨o', update_held (x := x) ?_, by rwa [waits.sent ran]⟩
      rwa [evolves.same.id.trans id]
    · rwa [ids.elsewhere is (by rw [here]; rfl) (.update id evolves) other is' (order here')
        process]
  | handled e t p p' o table q is holds wrote process account key later ends touches =>
    refine sending.advance (fun p'' x isPass here => ?_)
      (fun t' p'' x y other is' here there held status => ⟨y, ?_, status⟩)
    · cases isPass
      rw [here] at ends
      cases ends
    · rwa [ids.elsewhere is holds touches other is' (order here) (there.trans process)]
  | read t s s' o orders positions now o' q is here process account next evolves same =>
    have id := (ids.metBy is (by rw [here]; rfl)).1
    refine sending.advance
      (fun p x isPass => by cases isPass) (fun t' p x y _ is' here' there held status => ?_)
    have there : p.process = s.process := there.trans process
    rw [same]
    by_cases both : p.account = s.account ∧ x.id = o.id
    · rw [there, both.1, both.2] at held
      have met : w.metBy s o = y := by
        unfold World.metBy Process.object
        rw [held]
        rfl
      rw [both.1, both.2]
      have named : o'.id = o.id := evolves.same.id.trans id
      rw [met] at evolves
      refine ⟨o', ?_, settles t s o orders positions now y o' t' p x rfl is here is' here' both.2
        evolves status⟩
      rw [← named] at held ⊢
      exact update_held held
    · refine ⟨y, ?_, status⟩
      rw [(Touches.update id evolves).elsewhere _ _ both, ← there]
      exact held
  | settled e t s s' o table q is here wrote process ends same =>
    refine sending.advance
      (fun p x isPass => by cases isPass) (fun t' p x y _ _ _ there held status => ⟨y, ?_, status⟩)
    have there : p.process = s.process := there.trans process
    rwa [same, ← there]

theorem Settling.advance (settling : w.Settling) {table : OrdersTable} {issued : List Issue}
    {sent : List Sent} {t : ℕ} {task : Task} {q : Process}
    (own : ∀ s o x, task = .settlement s → s.stage = .reading o →
      q.orderAt s.account o.id = some x → x.status ≠ .intent)
    (orders : ∀ t' s o x', w.tasks t' = some (.settlement s) → s.stage = .reading o →
      s.process = task.process → q.orderAt s.account o.id = some x' →
        ∃ x, (w.procs task.process).orderAt s.account o.id = some x ∧ Evolves x x') :
    ({ table, procs := w.procs, tasks := w.tasks, issued, sent : World }.advance t task
      q).Settling := by
  intro t' s o is here x held
  rw [advance_procs] at held
  rcases advance_tasks is with ⟨_, same⟩ | ⟨other, there⟩
  · rw [if_pos (by rw [← same]; rfl)] at held
    exact own s o x same.symm here held
  · split at held
    · next same =>
      obtain ⟨y, before, evolves⟩ := orders t' s o x there here same held
      rw [← same] at before
      exact evolves.begun (settling t' s o there here y before)
    · exact settling t' s o there here x held

theorem Settling.along (settling : w.Settling) (ids : w.Ids) (course : Course d w e w') :
    w'.Settling := by
  cases course with
  | registered process account mode broker free =>
    intro t s o is here x held
    have orders := registered_procs (w := w) free mode broker s.process
    unfold registered at orders
    rw [orders] at held
    exact settling t s o is here x held
  | crashed process =>
    intro t s o is here x held
    exact settling t s o (crash_tasks is).1 here x (crash_orderAt held).2
  | moved e t task q same taken =>
    refine settling.advance
      (fun s o x is here held => ?_)
      (fun t' s o x _ _ _ held => ⟨x, by rwa [same] at held, .refl x⟩)
    obtain ⟨s', id, other, before, needs⟩ := taken o (by rw [is, Task.order?, here]; rfl)
    rw [is] at other
    cases other
    have named := (ids.kept _ _ _ _ before).1
    rw [same, is, named, show (Task.settlement s).process = s.process from rfl, before] at held
    cases held
    rcases ManagedOrder.needsReconciliation_iff.mp (needs here) with unknown | submitting
    · rw [unknown]
      decide
    · rw [submitting]
      decide
  | created e t p m o is fresh held intent status =>
    refine settling.advance
      (fun s x y isSettlement => by cases isSettlement) (fun t' s x y is' here _ known => ?_)
    rw [created_orderAt held, if_neg] at known
    · exact ⟨y, known, .refl y⟩
    · exact fun both => fresh (both.2 ▸ List.mem_map_of_mem (f := Issue.orderId)
        (ids.held t' _ x is' (by rw [Task.order?, here]; rfl)))
  | begun e t p o table q is here wrote recorded created same =>
    exact settling.advance
      (fun s x y isSettlement => by cases isSettlement)
      (fun t' s x y _ _ _ held => ⟨y, by rwa [same] at held, .refl y⟩)
  | sent e t p o now spec o' is here evolves ran =>
    have id := (ids.met is (by rw [here]; rfl)).1
    exact settling.advance
      (fun s x y isSettlement => by cases isSettlement)
      (fun t' s x y _ _ _ held => (Touches.update id evolves).older _ _ y held)
  | handled e t p p' o table q is holds wrote process account key later ends touches =>
    refine settling.advance
      (fun s x y isSettlement => by cases isSettlement) (fun t' s x y _ _ _ held => ?_)
    rw [show (Task.pass p').process = p.process from process]
    exact touches.older _ _ y held
  | read t s s' o orders positions now o' q is here process account next evolves same =>
    have id := (ids.metBy is (by rw [here]; rfl)).1
    refine settling.advance
      (fun s'' x y isSettlement there => ?_) (fun t' s'' x y _ _ _ held => ?_)
    · cases isSettlement
      rcases next with recording | ends
      · rw [there] at recording
        cases recording
      · rw [there] at ends
        cases ends
    · rw [show (Task.settlement s').process = s.process from process]
      rw [same] at held
      exact (Touches.update id evolves).older _ _ y held
  | settled e t s s' o table q is here wrote process ends same =>
    refine settling.advance
      (fun s'' x y isSettlement there => ?_) (fun t' s'' x y _ _ _ held => ?_)
    · cases isSettlement
      rw [there] at ends
      cases ends
    · rw [show (Task.settlement s').process = s.process from process, ← same]
      exact ⟨y, held, .refl y⟩

structure Phases (w : World) : Prop where
  ids : w.Ids
  waiting : w.Waiting
  sending : w.Sending fun status => status ≠ .intent
  settling : w.Settling

theorem Phases.start : World.start.Phases where
  ids := .start
  waiting t p o is := by cases is
  sending t p o is := by cases is
  settling t s o is := by cases is

theorem Phases.course (phases : w.Phases) (taken : w.step d e = some w') : Course d w e w' :=
  phases.ids.course (step_cases taken)

theorem Phases.step (phases : w.Phases) (taken : w.step d e = some w') : w'.Phases where
  ids := phases.ids.step taken
  waiting := phases.waiting.along phases.settling phases.ids (phases.course taken)
  sending := phases.sending.along (by decide) phases.waiting phases.ids (phases.course taken)
    fun _ _ _ _ _ _ _ _ _ _ _ _ _ _ _ _ _ evolves => evolves.begun
  settling := phases.settling.along phases.ids (phases.course taken)

end World

end TradeResearch.Execution
