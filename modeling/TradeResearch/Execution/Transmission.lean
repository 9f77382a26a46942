import TradeResearch.Execution.Course

/-!
# One send for one intent

Every pass asks whether its intent has a row, records its order, and only then sends it. The row
is unique for its intent and outlives the process, so whatever crashes in between, no second order
of the intent gets as far as its send.

* `Sends` ties the sends that were awaited to the rows, and the orders not yet sent to neither.
* `sent_at_most_once` is the conclusion for every run.
-/

namespace TradeResearch.Execution

open Oms

theorem Deployment.records_of_durable {d : Deployment}
    (durable : ∀ process, d.durable process = true) (p : Pass) : d.records p = true := by
  unfold records
  split
  · exact durable p.process
  · rfl

namespace World

variable {d : Deployment} {w w' : World}

structure Sends (w : World) : Prop where
  recorded : ∀ t p o, w.tasks t = some (.pass p) → p.stage = .venueSpec o →
    ∃ row ∈ w.table.rows, row.id = o.id
  rows : ∀ s ∈ w.sent, ∃ row ∈ w.table.rows, row.id = s.orderId ∧ row.intentId = s.intentId
  unsent : ∀ t p o, w.tasks t = some (.pass p) → p.stage.waiting? = some o →
    o.id ∉ w.sent.map Sent.orderId
  once : (w.sent.map Sent.orderId).Nodup

theorem Sends.start : World.start.Sends where
  recorded t p o is := by cases is
  rows s mem := absurd mem List.not_mem_nil
  unsent t p o is := by cases is
  once := List.nodup_nil

theorem Sends.advance (sends : w.Sends) {table : OrdersTable} {issued : List Issue} {t : ℕ}
    {task : Task} {q : Process}
    (kept : ∀ row ∈ w.table.rows, ∃ row' ∈ table.rows,
      row'.id = row.id ∧ row'.intentId = row.intentId)
    (waits : ∀ p o, task = .pass p → p.stage.waiting? = some o →
      o.id ∉ w.sent.map Sent.orderId ∧
        (p.stage = .venueSpec o → ∃ row ∈ table.rows, row.id = o.id)) :
    ({ w with table, issued }.advance t task q).Sends where
  recorded t' p o is here := by
    rcases advance_tasks is with ⟨_, same⟩ | ⟨_, there⟩
    · exact (waits p o same.symm (by rw [here]; rfl)).2 here
    · obtain ⟨row, mem, id⟩ := sends.recorded t' p o there here
      obtain ⟨row', mem', id', _⟩ := kept row mem
      exact ⟨row', mem', id'.trans id⟩
  rows s mem := by
    obtain ⟨row, held, id, intent⟩ := sends.rows s mem
    obtain ⟨row', held', id', intent'⟩ := kept row held
    exact ⟨row', held', id'.trans id, intent'.trans intent⟩
  unsent t' p o is waiting := by
    rcases advance_tasks is with ⟨_, same⟩ | ⟨_, there⟩
    · exact (waits p o same.symm waiting).1
    · exact sends.unsent t' p o there waiting
  once := sends.once

theorem Sends.fresh (sends : w.Sends) (ids : w.Ids) {id : String}
    (fresh : id ∉ w.issued.map Issue.orderId) : id ∉ w.sent.map Sent.orderId := by
  intro mem
  obtain ⟨s, held, rfl⟩ := List.mem_map.mp mem
  obtain ⟨row, there, same, _⟩ := sends.rows s held
  obtain ⟨_, _, issued⟩ := ids.rows row there
  exact fresh (same ▸ List.mem_map_of_mem (f := Issue.orderId) issued)

theorem Sends.row (sends : w.Sends) (ids : w.Ids) {t : ℕ} {p : Pass} {o : ManagedOrder}
    (is : w.tasks t = some (.pass p)) (here : p.stage = .venueSpec o) :
    ∃ row ∈ w.table.rows, row.id = o.id ∧ row.intentId = p.key := by
  have order : p.stage.order? = some o := by rw [here]; rfl
  obtain ⟨row, mem, id⟩ := sends.recorded t p o is here
  obtain ⟨_, _, issued⟩ := ids.rows row mem
  have same := ids.unique issued (ids.held t _ o is order) id
  exact ⟨row, mem, id, (congrArg Issue.intentId same).trans (ids.keyed t p o is order)⟩

theorem Sends.send (sends : w.Sends) (ids : w.Ids) {t : ℕ} {p : Pass} {o o' : ManagedOrder}
    {q : Process} (is : w.tasks t = some (.pass p)) (here : p.stage = .venueSpec o)
    (same : o'.id = o.id) :
    ({ w with sent := ⟨p.key, o'.id⟩ :: w.sent }.advance t
      (.pass { p with stage := .place o', sent := true }) q).Sends where
  recorded t' p' x is' there := by
    rcases advance_tasks is' with ⟨_, same⟩ | ⟨_, before⟩
    · cases same
      cases there
    · exact sends.recorded t' p' x before there
  rows s mem := by
    rcases List.mem_cons.mp mem with rfl | old
    · rw [same]
      exact sends.row ids is here
    · exact sends.rows s old
  unsent t' p' x is' waits := by
    rcases advance_tasks is' with ⟨_, isPass⟩ | ⟨other, before⟩
    · cases isPass
      cases waits
    · intro mem
      rcases List.mem_cons.mp mem with equal | old
      · exact other (ids.alone t' t p' p x o before is (Stage.order?_of_waiting waits)
          (by rw [here]; rfl) (equal.trans same))
      · exact sends.unsent t' p' x before waits old
  once := by
    refine List.nodup_cons.mpr ⟨?_, sends.once⟩
    rw [same]
    exact sends.unsent t p o is (by rw [here]; rfl)

theorem Sends.along (sends : w.Sends) (ids : w.Ids)
    (durable : ∀ process, d.durable process = true) (course : Course d w e w') : w'.Sends := by
  have rest (row : OrderRow) (mem : row ∈ w.table.rows) :
      ∃ row' ∈ w.table.rows, row'.id = row.id ∧ row'.intentId = row.intentId :=
    ⟨row, mem, rfl, rfl⟩
  have written {o : ManagedOrder} {table : OrdersTable}
      (wrote : OrdersTable.WriteCase w.table o table) (row : OrderRow)
      (mem : row ∈ w.table.rows) :
      ∃ row' ∈ table.rows, row'.id = row.id ∧ row'.intentId = row.intentId := by
    obtain ⟨row', held, id, intent, _⟩ := wrote.kept mem
    exact ⟨row', held, id, intent⟩
  cases course with
  | registered process account mode broker free =>
    exact ⟨sends.recorded, sends.rows, sends.unsent, sends.once⟩
  | crashed process =>
    exact ⟨fun t p o is => sends.recorded t p o (crash_tasks is).1, sends.rows,
      fun t p o is => sends.unsent t p o (crash_tasks is).1, sends.once⟩
  | moved e t task q same taken =>
    refine sends.advance rest fun p o is waits => ?_
    obtain ⟨s, _, other, _⟩ := taken o (by rw [is]; exact Stage.order?_of_waiting waits)
    rw [is] at other
    cases other
  | created e t p m o is fresh held intent status =>
    refine sends.advance rest fun p' x isPass waits => ?_
    cases isPass
    cases waits
    exact ⟨sends.fresh ids fresh, fun there => by cases there⟩
  | begun e t p o table q is here wrote recorded created same =>
    have id := (ids.met is (by rw [here]; rfl)).1
    refine sends.advance (written wrote) fun p' x isPass waits => ?_
    cases isPass
    cases waits
    refine ⟨?_, fun _ => recorded (d.records_of_durable durable p)⟩
    rw [id]
    exact sends.unsent t p o is (by rw [here]; rfl)
  | sent e t p o now spec o' is here evolves ran =>
    exact sends.send ids is here
      (evolves.same.id.trans (ids.met is (by rw [here]; rfl)).1)
  | handled e t p p' o table q is order wrote process account key later ends touches =>
    refine sends.advance (written wrote) fun p'' x isPass waits => ?_
    cases isPass
    rw [(later x (Stage.order?_of_waiting waits)).1] at waits
    cases waits
  | read t s s' o orders positions now o' q is here process account next evolves same =>
    exact sends.advance rest fun p x isPass => by cases isPass
  | settled e t s s' o table q is here wrote process ends same =>
    exact sends.advance (written wrote) fun p x isPass => by cases isPass

theorem sends_of_run (durable : ∀ process, d.durable process = true) {events : List Event}
    (run : Run.exec (World.step d) World.start events = some w) : w.Sends :=
  (Run.invariant_all (P := fun w => w.Ids ∧ w.Sends)
    (fun _ _ _ held taken => ⟨held.1.step taken,
      held.2.along held.1 durable (held.1.course (step_cases taken))⟩)
    ⟨.start, .start⟩ run).2

theorem Sends.orderId_eq (sends : w.Sends) {a b : Sent} (mem : a ∈ w.sent) (mem' : b ∈ w.sent)
    (same : a.intentId = b.intentId) : a.orderId = b.orderId := by
  obtain ⟨row, held, id, intent⟩ := sends.rows a mem
  obtain ⟨row', held', id', intent'⟩ := sends.rows b mem'
  have one := OrdersTable.eq_of_intentId held held' (intent.trans (same.trans intent'.symm))
  rw [← id, ← id', one]

/-- Where every pipeline has a store, `place_order` is awaited at most once for an intent, in any
number of processes and whatever crashes. -/
theorem sent_at_most_once (durable : ∀ process, d.durable process = true) {events : List Event}
    (run : Run.exec (World.step d) World.start events = some w) (intentId : String) :
    (w.sent.filter fun s => decide (s.intentId = intentId)).length ≤ 1 := by
  have sends := sends_of_run durable run
  generalize found : (w.sent.filter fun s => decide (s.intentId = intentId)) = l
  have once : (l.map Sent.orderId).Nodup := found ▸ (List.filter_sublist.map _).nodup sends.once
  have ofIntent (s : Sent) (mem : s ∈ l) : s ∈ w.sent ∧ s.intentId = intentId := by
    rw [← found, List.mem_filter, decide_eq_true_iff] at mem
    exact mem
  match l with
  | [] => exact Nat.zero_le 1
  | [_] => exact le_refl 1
  | a :: b :: _ =>
    obtain ⟨heldA, intentA⟩ := ofIntent a List.mem_cons_self
    obtain ⟨heldB, intentB⟩ := ofIntent b (List.mem_cons_of_mem _ List.mem_cons_self)
    have same := sends.orderId_eq heldA heldB (intentA.trans intentB.symm)
    have differ := (List.nodup_cons.mp once).1
    exact absurd (same ▸ List.mem_cons_self) differ

def resumed : List Event :=
  plainSend ++ [.crash "worker", .register "worker" "account" .demo none] ++ plainCreate 1 "again"

theorem sent_at_most_once_resumed :
    ∃ w, Run.exec (World.step allDurable) World.start resumed = some w ∧
      w.sent.map Sent.intentId = ["intent"] ∧
      (w.sent.filter fun s => decide (s.intentId = "intent")).length ≤ 1 := by
  have shows : (Run.exec (World.step allDurable) World.start resumed).map (fun w =>
      w.sent.map Sent.intentId) = some ["intent"] := by
    decide +kernel
  obtain ⟨w, run, sent⟩ := Option.map_eq_some_iff.mp shows
  exact ⟨w, run, sent, sent_at_most_once (fun _ => rfl) run "intent"⟩

end World

end TradeResearch.Execution
