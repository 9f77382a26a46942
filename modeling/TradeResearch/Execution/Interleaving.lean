import TradeResearch.Execution.Phases

/-!
# Sending and reconciling one order

A pass sends inside the account's lock, and the worker's sweep settles inside it, so the two never
meet. The reconcile route of the API takes no lock: it takes up an order whose `place_order` is
outstanding (`submitting` needs reconciliation), and what it concludes from the venue is final
before the venue's answer to the send arrives.

* `Guarded` is what the lock gives, for every task but the route's.
* `Answerable` says that no outstanding send was failed and every answer to it can be recorded.
* `answerable_along_iff_apart` says which runs keep it: those in which no route settles an order
  whose send is outstanding.
-/

namespace TradeResearch.Execution

open Oms Brokers

namespace World

variable {d : Deployment} {w w' : World}

def Guarded (w : World) : Prop :=
  ∀ t task, w.tasks t = some task → task.locked = true →
    (w.procs task.process).locks task.account = some t

section Locks

variable {table : OrdersTable} {issued : List Issue} {sent : List Sent} {t : ℕ} {task : Task}

theorem Guarded.kept (guarded : w.Guarded) (locks : q.locks = (w.procs task.process).locks)
    (own : task.locked = true → (w.procs task.process).locks task.account = some t) :
    ({ table, procs := w.procs, tasks := w.tasks, issued, sent : World }.advance t task
      q).Guarded := by
  intro t' task' is locked
  rw [advance_procs]
  rcases advance_tasks is with ⟨rfl, rfl⟩ | ⟨_, there⟩
  · rw [if_pos rfl, locks]
    exact own locked
  · split
    · next same =>
      rw [locks, ← same]
      exact guarded t' task' there locked
    · exact guarded t' task' there locked

theorem Guarded.took (guarded : w.Guarded)
    (free : (w.procs task.process).locks task.account = none)
    (locks : q.locks = Function.update (w.procs task.process).locks task.account (some t)) :
    ({ table, procs := w.procs, tasks := w.tasks, issued, sent : World }.advance t task
      q).Guarded := by
  intro t' task' is locked
  rw [advance_procs]
  rcases advance_tasks is with ⟨rfl, rfl⟩ | ⟨_, there⟩
  · rw [if_pos rfl, locks]
    exact Function.update_self ..
  · have before := guarded t' task' there locked
    split
    · next same =>
      rw [same] at before
      have other : task'.account ≠ task.account := by
        intro account
        rw [account, free] at before
        cases before
      rw [locks]
      exact (Function.update_of_ne other ..).trans before
    · exact before

theorem Guarded.gave (guarded : w.Guarded)
    (held : (w.procs task.process).locks task.account = some t)
    (locks : q.locks = Function.update (w.procs task.process).locks task.account none)
    (outside : task.locked = false) :
    ({ table, procs := w.procs, tasks := w.tasks, issued, sent : World }.advance t task
      q).Guarded := by
  intro t' task' is locked
  rw [advance_procs]
  rcases advance_tasks is with ⟨rfl, rfl⟩ | ⟨different, there⟩
  · rw [outside] at locked
    cases locked
  · have before := guarded t' task' there locked
    split
    · next same =>
      rw [same] at before
      have other : task'.account ≠ task.account := by
        intro account
        rw [account, held] at before
        exact different (Option.some.inj before).symm
      rw [locks]
      exact (Function.update_of_ne other ..).trans before
    · exact before

theorem Guarded.onward (guarded : w.Guarded) {p p' : Pass} (is : w.tasks t = some (.pass p))
    (inside : p.stage.locked = true) (process : p'.process = p.process)
    (account : p'.account = p.account) (locks : q.locks = (w.procs p.process).locks) :
    ({ table, procs := w.procs, tasks := w.tasks, issued, sent : World }.advance t (.pass p')
      q).Guarded := by
  have held : (w.procs p.process).locks p.account = some t := guarded t _ is inside
  refine guarded.kept ?_ fun _ => ?_
  · rw [show (Task.pass p').process = p.process from process, locks]
  · rw [show (Task.pass p').process = p.process from process,
      show (Task.pass p').account = p.account from account]
    exact held

theorem Guarded.endPass (guarded : w.Guarded) {p p' : Pass} {ending : Ending}
    (is : w.tasks t = some (.pass p)) (inside : p.stage.locked = true)
    (process : p'.process = p.process) (account : p'.account = p.account)
    (locks : q.locks = (w.procs p.process).locks) :
    ({ table, procs := w.procs, tasks := w.tasks, issued, sent : World }.endPass t p' q
      ending).Guarded := by
  have held : (w.procs p.process).locks p.account = some t := guarded t _ is inside
  refine guarded.gave ?_ ?_ rfl
  · rw [show (Task.pass { p' with stage := .done ending }).process = p.process from process,
      show (Task.pass { p' with stage := .done ending }).account = p.account from account]
    exact held
  · rw [Process.release_locks, locks,
      show (Task.pass { p' with stage := .done ending }).process = p.process from process]
    rfl

theorem Guarded.endSettlement (guarded : w.Guarded) {s : Settlement} {verdict : Verdict}
    (is : w.tasks t = some (.settlement s)) (holds : s.stage.order?.isSome = true)
    (locks : q.locks = (w.procs s.process).locks) :
    ({ table, procs := w.procs, tasks := w.tasks, issued, sent : World }.endSettlement t s q
      verdict).Guarded := by
  obtain ⟨process, account, settler, stage⟩ := s
  cases settler with
  | worker =>
    have held := guarded t _ is (by simpa [Task.locked] using holds)
    refine guarded.gave held ?_ (by simp [Task.locked, SettleStage.order?])
    show Function.update q.locks account none = Function.update (w.procs process).locks account none
    rw [locks]
  | route =>
    refine guarded.kept locks fun inside => ?_
    simp [Task.locked] at inside

end Locks

theorem Guarded.start : World.start.Guarded := fun t task is => by cases is

theorem Guarded.along (guarded : w.Guarded) (step : StepCase d w e w') : w'.Guarded := by
  cases step with
  | registered process account mode broker free =>
    intro t task is locked
    have locks : (Function.update w.procs process
        ((w.procs process).setManager account (.fresh mode broker)) task.process).locks =
      (w.procs task.process).locks := by
      rw [Function.update_apply]
      split
      · next same => rw [same]; rfl
      · rfl
    have before := guarded t task is locked
    rwa [← locks] at before
  | crashed process =>
    intro t task is locked
    obtain ⟨there, other⟩ := crash_tasks is
    rw [crash_procs other]
    exact guarded t task there locked
  | gated e t p stage q came idle same =>
    refine guarded.kept same.locks fun locked => ?_
    have locked : stage.locked = true := locked
    rw [idle.1] at locked
    cases locked
  | acquired t p approval is here free => exact guarded.took free rfl
  | turned e t p approval ending q is here same =>
    exact guarded.endPass is (by rw [here]; rfl) rfl rfl same.locks
  | created t p approval orderId now m o is here fresh passed held id intent status =>
    exact guarded.onward is (by rw [here]; rfl) rfl rfl rfl
  | unrecorded t p o tx now table ending q is here wrote forgets =>
    exact guarded.endPass is (by rw [here]; rfl) rfl rfl forgets.locks
  | begun t p o tx now table q is here wrote recorded same created
  | expired t p o tx now table q o' is here wrote recorded same evolves =>
    exact guarded.onward is (by rw [here]; rfl) rfl rfl ((q.update_locks _ _).trans same.locks)
  | unbegun t p o tx now table q ending is here wrote same =>
    exact guarded.endPass is (by rw [here]; rfl) rfl rfl ((q.update_locks _ _).trans same.locks)
  | sent t p o spec now o' is here ran | unsent t p o spec now o' is here ran =>
    exact guarded.onward is (by rw [here]; rfl) rfl rfl (Process.update_locks ..)
  | specRaised t p o spec now o' ending is here evolves =>
    exact guarded.endPass is (by rw [here]; rfl) rfl rfl (Process.update_locks ..)
  | placed t p o answer now o' is here ran =>
    exact guarded.onward is (by rw [here]; rfl) rfl rfl (Process.update_locks ..)
  | placeRaised t p o answer now raised o' is here ran =>
    exact guarded.endPass is (by rw [here]; rfl) rfl rfl (Process.update_locks ..)
  | concluded t p o tx table ending is here wrote told =>
    exact guarded.endPass is (by rw [here]; rfl) rfl rfl rfl
  | queued t process account orderId free =>
    exact guarded.kept rfl fun locked => by simp [Task.locked, SettleStage.order?] at locked
  | requested t process account orderId o stage free known goes =>
    exact guarded.kept rfl fun locked => by simp [Task.locked] at locked
  | settling t s orderId o is here worker free known needs => exact guarded.took free rfl
  | gone t s orderId q is here same =>
    exact guarded.kept same.locks fun locked => by simp [Task.locked, SettleStage.order?] at locked
  | unread t s o orders positions now verdict is here =>
    exact guarded.endSettlement is (by rw [here]; rfl) rfl
  | read t s o orders positions now o' is here evolves =>
    refine guarded.kept (Process.update_locks ..) fun locked => ?_
    have held : (w.procs s.process).locks s.account = some t := by
      refine guarded t (.settlement s) is ?_
      simp only [Task.locked, here, SettleStage.order?] at locked ⊢
      exact locked
    exact held
  | readRaised t s o orders positions now o' verdict is here evolves =>
    exact guarded.endSettlement is (by rw [here]; rfl) (Process.update_locks ..)
  | settled t s o tx table verdict is here wrote =>
    exact guarded.endSettlement is (by rw [here]; rfl) rfl

def AwaitsAnswer (o : ManagedOrder) : Prop :=
  o.status ≠ .failed ∧ ∀ now answer current wanted,
    ((ManagedOrder.applyAnswer now answer).exec o).1 ≠
      .error (.illegalOrderTransition current wanted)

theorem record_legal {o : ManagedOrder} (accepted : o.status = .accepted) (report : FillReport)
    (now : Time) (current wanted : OrderStatus) :
    ((ManagedOrder.record report now).exec o).1 ≠
      .error (.illegalOrderTransition current wanted) := by
  generalize ran : (ManagedOrder.record report now).exec o = out
  have outcome := ManagedOrder.record_cases report now o
  rw [ran] at outcome
  cases outcome with
  | invalid reason refused | recorded f made known => simp
  | overfilled f made fresh overfull => simp [FillBook.overfill]
  | applied f made fresh fits legal time reason => simp
  | stranded f made fresh fits illegal =>
    exact absurd (ManagedOrder.impliedStatus_mem_transitions (.inl accepted) _) illegal

theorem applyAnswer_legal {o : ManagedOrder} (submitting : o.status = .submitting) (now : Time)
    (answer : Answer OrderResult) (current wanted : OrderStatus) :
    ((ManagedOrder.applyAnswer now answer).exec o).1 ≠
      .error (.illegalOrderTransition current wanted) := by
  have mayFail : .failed ∈ o.status.transitions := by rw [submitting]; decide
  have maySend : .submitted ∈ o.status.transitions := by rw [submitting]; decide
  cases answer with
  | error e =>
    by_cases sure : ∃ type reason, e = .brokerError type reason
    · obtain ⟨type, reason, rfl⟩ := sure
      rw [ManagedOrder.exec_applyAnswer_broker o now mayFail]
      simp
    · rw [ManagedOrder.exec_applyAnswer_raised o now fun type reason same =>
        sure ⟨type, reason, same⟩]
      simp
  | ok result =>
    show ((ManagedOrder.applyResult now result).exec o).1 ≠ _
    cases verdict : result.status with
    | unknown =>
      rw [ManagedOrder.exec_applyResult_unknown o now result verdict]
      simp
    | rejected =>
      rw [ManagedOrder.exec_applyResult_rejected o now result verdict maySend]
      simp
    | accepted =>
      cases fill : ManagedOrder.resultFill result now with
      | none =>
        rw [ManagedOrder.exec_applyResult_accepted o now result verdict maySend fill]
        simp
      | some report =>
        have legal := record_legal (ManagedOrder.taken_status o now result) report now current
          wanted
        rw [ManagedOrder.exec_applyResult_filled o now result verdict maySend fill]
        intro raised
        cases ran : ((ManagedOrder.record report now).exec (o.taken now result)).1 with
        | error e =>
          rw [ran] at raised legal
          exact legal (congrArg Except.error (Except.error.inj raised))
        | ok applied =>
          rw [ran] at raised
          cases raised

theorem awaitsAnswer_iff {o : ManagedOrder} (begun : o.status ≠ .intent) :
    AwaitsAnswer o ↔ o.status = .submitting := by
  constructor
  · rintro ⟨_, legal⟩
    by_contra other
    have elsewhere : .submitted ∉ o.status.transitions := fun sending =>
      (OrderStatus.submitted_mem_transitions.mp sending).elim begun other
    refine legal 0 (.ok (.bare .accepted [])) o.status .submitted ?_
    have raised := ManagedOrder.exec_applyResult_illegal o 0 (.bare .accepted [])
      (by decide) elsewhere
    exact congrArg Prod.fst raised
  · intro submitting
    exact ⟨by rw [submitting]; decide, applyAnswer_legal submitting⟩

def Answerable (w : World) : Prop :=
  ∀ t p o, w.tasks t = some (.pass p) → p.stage = .place o → AwaitsAnswer (w.met p o)

def Apart (w : World) (e : Event) : Prop :=
  ∀ t s x orders positions now, e = .venueRead t (.ok orders) (.ok positions) now →
    w.tasks t = some (.settlement s) → s.settler = .route → s.stage = .reading x →
      ∀ t' p o, w.tasks t' = some (.pass p) → p.stage = .place o → o.id ≠ x.id

theorem met_of_held {p : Pass} {o x : ManagedOrder}
    (held : (w.procs p.process).orderAt p.account o.id = some x) : w.met p o = x := by
  unfold met Process.object
  rw [held]
  rfl

theorem answerable_iff (phases : w.Phases) :
    w.Answerable ↔ w.Sending fun status => status = .submitting := by
  refine forall₅_congr fun t p o is here => ?_
  obtain ⟨x, held, begun⟩ := phases.sending t p o is here
  rw [met_of_held held, awaitsAnswer_iff begun]
  constructor
  · exact fun submitting => ⟨x, held, submitting⟩
  · rintro ⟨y, held', submitting⟩
    rw [held] at held'
    exact Option.some.inj held' ▸ submitting

theorem step_venueRead (d : Deployment) {t : ℕ} {s : Settlement} {x : ManagedOrder}
    (is : w.tasks t = some (.settlement s)) (here : s.stage = .reading x)
    (orders : Answer (List BrokerOrder)) (positions : Answer (List BrokerPosition)) (now : Time) :
    w.step d (.venueRead t orders positions now) =
      some (w.resumeReading t s x orders positions now) := by
  dsimp only [step]
  rw [is]
  dsimp only
  rw [here]

theorem resumeReading_read (w : World) (t : ℕ) (s : Settlement) (x : ManagedOrder)
    (orders : List BrokerOrder) (positions : List BrokerPosition) (now : Time) :
    ∃ task q, w.resumeReading t s x (.ok orders) (.ok positions) now = w.advance t task q ∧
      task.process = s.process ∧
        q.orderAt = ((w.procs s.process).update s.account
          ((ManagedOrder.settle now orders positions).left (w.metBy s x))).orderAt := by
  unfold resumeReading
  dsimp only
  split
  · exact ⟨_, _, rfl, rfl, rfl⟩
  · obtain ⟨q, same, ends⟩ := w.endSettlement_eq t s ((w.procs s.process).update s.account
      ((ManagedOrder.settle now orders positions).left (w.metBy s x))) _
    exact ⟨_, q, ends, rfl, same⟩

theorem Guarded.route (guarded : w.Guarded) (ids : w.Ids) {t t' : ℕ} {s : Settlement} {p : Pass}
    {x o : ManagedOrder} (is : w.tasks t = some (.settlement s)) (here : s.stage = .reading x)
    (is' : w.tasks t' = some (.pass p)) (place : p.stage = .place o) (same : o.id = x.id) :
    s.settler = .route := by
  cases settler : s.settler with
  | route => rfl
  | worker =>
    have one := ids.unique (ids.held t' _ o is' (by rw [Task.order?, place]; rfl))
      (ids.held t _ x is (by rw [Task.order?, here]; rfl)) same
    have process : p.process = s.process := congrArg Issue.process one
    have account : p.account = s.account := congrArg Issue.account one
    have inside : (w.procs s.process).locks s.account = some t :=
      guarded t (.settlement s) is (by simp [Task.locked, settler, here, SettleStage.order?])
    have inside' : (w.procs p.process).locks p.account = some t' :=
      guarded t' (.pass p) is' (by rw [Task.locked, place]; rfl)
    rw [process, account, inside] at inside'
    rw [Option.some.inj inside', is'] at is
    cases is

theorem Sending.apart (sending : w.Sending fun status => status = .submitting)
    (phases : w.Phases) (guarded : w.Guarded) (apart : w.Apart e) (taken : w.step d e = some w') :
    w'.Sending fun status => status = .submitting := by
  refine sending.along rfl phases.waiting phases.ids (phases.course taken) ?_
  intro t s x orders positions now _ _ t' p o same is here is' place named
  exact absurd named (apart t s x orders positions now same is
    (guarded.route phases.ids is here is' place named) here t' p o is' place)

theorem Sending.apart_of_next (sending : w.Sending fun status => status = .submitting)
    (phases : w.Phases) (taken : w.step d e = some w')
    (next : w'.Sending fun status => status = .submitting) : w.Apart e := by
  rintro t s x orders positions now rfl is _ here t' p o is' place same
  obtain ⟨y, held, submitting⟩ := sending t' p o is' place
  have one := phases.ids.unique
    (phases.ids.held t' _ o is' (by rw [Task.order?, place]; rfl))
    (phases.ids.held t _ x is (by rw [Task.order?, here]; rfl)) same
  have process : p.process = s.process := congrArg Issue.process one
  have account : p.account = s.account := congrArg Issue.account one
  have met : w.metBy s x = y := by
    unfold metBy Process.object
    rw [← process, ← account, ← same, held]
    rfl
  rw [step_venueRead d is here] at taken
  obtain ⟨task, q, leaves, where_, orderAt⟩ :=
    w.resumeReading_read t s x orders positions now
  rw [leaves] at taken
  cases taken
  have other : t' ≠ t := by
    rintro rfl
    rw [is] at is'
    cases is'
  have still : (w.advance t task q).tasks t' = some (.pass p) :=
    (Function.update_of_ne other ..).trans is'
  obtain ⟨z, held', submitting'⟩ := next t' p o still place
  have settled : ((w.advance t task q).procs p.process).orderAt p.account o.id =
      some ((ManagedOrder.settle now orders positions).left y) := by
    have evolves := Evolves.settle now orders positions y
    have named : ((ManagedOrder.settle now orders positions).left y).id = o.id :=
      evolves.same.id.trans (phases.ids.kept _ _ _ _ held).1
    rw [advance_procs, if_pos (process.trans where_.symm), orderAt, met, ← named, account]
    refine update_held (x := y) ?_
    rw [named, ← process, ← account]
    exact held
  rw [settled] at held'
  cases held'
  exact ManagedOrder.settle_status_ne_submitting now
    (ManagedOrder.needsReconciliation_iff.mpr (.inr submitting)) orders positions submitting'

theorem Guarded.step (guarded : w.Guarded) (taken : w.step d e = some w') : w'.Guarded :=
  guarded.along (step_cases taken)

/-- In a run, no order whose send is outstanding is failed and every answer to it can be recorded,
exactly when no reconcile request hears from the venue about an order whose send is outstanding. -/
theorem answerable_along_iff_apart (d : Deployment) (events : List Event) :
    Run.Along (World.step d) Answerable World.start events ↔
      Run.Meets (World.step d) Apart World.start events := by
  have idle {S : OrderStatus → Prop} : World.start.Sending S := fun t p o is => by cases is
  have kept (w : World) (e : Event) (w' : World) (held : w.Phases ∧ w.Guarded)
      (taken : w.step d e = some w') : w'.Phases ∧ w'.Guarded :=
    ⟨held.1.step taken, held.2.step taken⟩
  have agree : Run.Along (World.step d) Answerable World.start events ↔
      Run.Along (World.step d)
        (fun w => (w.Phases ∧ w.Guarded) ∧ w.Sending fun status => status = .submitting)
        World.start events := by
    refine Run.along_congr kept (fun w e w' held _ taken => ?_) ⟨.start, .start⟩
      ((answerable_iff .start).mpr idle) ⟨⟨.start, .start⟩, idle⟩
    have next := kept w e w' held taken
    exact (answerable_iff next.1).trans ⟨fun sending => ⟨next, sending⟩, And.right⟩
  refine agree.trans (Run.along_iff_meets (fun w e w' held taken => ?_) (fun w e blocked => ?_)
    ⟨⟨.start, .start⟩, idle⟩)
  · obtain ⟨⟨phases, guarded⟩, sending⟩ := held
    exact ⟨fun next => sending.apart_of_next phases taken next.2, fun apart =>
      ⟨kept w e w' ⟨phases, guarded⟩ taken, sending.apart phases guarded apart taken⟩⟩
  · rintro t s x orders positions now rfl is _ here
    rw [step_venueRead d is here] at blocked
    cases blocked

def sentAndReconciled : List Event :=
  plainSend ++ [.reconcile 1 "worker" "account" "order", .venueRead 1 (.ok []) (.ok []) 1]

/-- A reconcile request fails an order whose send is outstanding. -/
theorem not_forall_answerable :
    ¬ ∀ (d : Deployment) (events : List Event),
      Run.Along (World.step d) Answerable World.start events := by
  intro always
  have shows : ((Run.exec (World.step allDurable) World.start sentAndReconciled).bind fun w =>
      (w.passAt 0).bind fun p => p.stage.order?.map fun o =>
        (p.stage.sending, (w.met p o).status)) = some (true, .failed) := by
    decide +kernel
  obtain ⟨w, run, shows⟩ := Option.bind_eq_some_iff.mp shows
  obtain ⟨p, is, shows⟩ := Option.bind_eq_some_iff.mp shows
  obtain ⟨o, order, shows⟩ := Option.map_eq_some_iff.mp shows
  obtain ⟨o', here⟩ := Stage.sending_iff.mp (congrArg Prod.fst shows)
  rw [here] at order
  cases order
  have awaits := (always allDurable sentAndReconciled).last run 0 p o
    (passAt_eq_some_iff.mp is) here
  exact awaits.1 (congrArg Prod.snd shows)

end World

end TradeResearch.Execution
