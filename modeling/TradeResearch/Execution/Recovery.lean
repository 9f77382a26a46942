import TradeResearch.Execution.Phases

/-!
# A crash in mid-send

`submit` marks the order `submitting` with the reason "persisted before transmission; a crash here
is reconcilable", and both queries of the restart recovery look for that state. The mark is made
in memory only: the row was written before it, in `intent`, and is written again when the venue
has answered. A process that dies while `place_order` is outstanding leaves a row that neither
query returns.

* `Recoverable` is what recovery needs.
* `recoverable_along_iff_idle` says which runs give it: those that send nothing.
-/

namespace TradeResearch.Execution

open Oms

namespace World

variable {d : Deployment} {w w' : World}

def Idle (w : World) : Prop :=
  ∀ t p o, w.tasks t = some (.pass p) → p.stage ≠ .place o

def Recoverable (w : World) : Prop :=
  ∀ t p o, w.tasks t = some (.pass p) → p.stage = .place o →
    ∃ row ∈ w.table.rows, row.id = o.id ∧ row.status ∈ [OrderStatus.submitting, .unknown] ∧
      row ∈ w.table.unresolvedOrders ∧ row ∈ w.table.loadUnresolved row.mode

theorem recoverable_iff :
    w.Recoverable ↔ ∀ t p o, w.tasks t = some (.pass p) → p.stage = .place o →
      ∃ row ∈ w.table.rows, row.id = o.id ∧ row.status.needsReconciliation = true := by
  refine forall₅_congr fun t p o is here => ⟨?_, ?_⟩
  · rintro ⟨row, mem, id, _, unresolved, _⟩
    exact ⟨row, mem, id, (OrdersTable.mem_unresolvedOrders_iff.mp unresolved).2⟩
  · rintro ⟨row, mem, id, needs⟩
    refine ⟨row, mem, id, ?_, ?_, ?_⟩
    · rcases OrderStatus.needsReconciliation_iff.mp needs with unknown | submitting
      · simp [unknown]
      · simp [submitting]
    · exact OrdersTable.mem_unresolvedOrders_iff.mpr ⟨mem, needs⟩
    · exact OrdersTable.mem_loadUnresolved_iff.mpr ⟨mem, rfl, needs⟩

theorem Phases.row_intent (phases : w.Phases) (idle : w.Idle) (course : Course d w e w') {t : ℕ}
    {p : Pass} {o : ManagedOrder} (is : w'.tasks t = some (.pass p)) (here : p.stage = .place o) :
    ∀ row ∈ w'.table.rows, row.id = o.id → row.status = .intent := by
  cases course with
  | registered process account mode broker free => exact absurd here (idle t p o is)
  | crashed process => exact absurd here (idle t p o (crash_tasks is).1)
  | moved e t' task q same taken =>
    rcases advance_tasks is with ⟨_, rfl⟩ | ⟨_, there⟩
    · obtain ⟨s, _, other, _⟩ := taken o (by rw [Task.order?, here]; rfl)
      cases other
    · exact absurd here (idle t p o there)
  | created e t' p' m o' is' fresh held intent status
  | begun e t' p' o' table q is' here' wrote recorded created same =>
    rcases advance_tasks is with ⟨_, same⟩ | ⟨_, there⟩
    · cases same
      cases here
    · exact absurd here (idle t p o there)
  | sent e t' p' o' now spec x is' here' evolves ran =>
    rcases advance_tasks is with ⟨_, same⟩ | ⟨_, there⟩
    · cases same
      cases here
      intro row mem named
      have id := (phases.ids.met is' (by rw [here']; rfl)).1
      exact (phases.waiting t' p' o' is' (by rw [here']; rfl)).rows row mem
        (named.trans (evolves.same.id.trans id))
    · exact absurd here (idle t p o there)
  | handled e t' p' p'' o' table q is' order wrote process account key later ends touches =>
    rcases advance_tasks is with ⟨_, same⟩ | ⟨_, there⟩
    · cases same
      rw [here] at ends
      cases ends
    · exact absurd here (idle t p o there)
  | read t' s s' o' orders positions now x q is' here' process account next evolves same
  | settled e t' s s' o' table q is' here' wrote process ends same =>
    rcases advance_tasks is with ⟨_, same⟩ | ⟨_, there⟩
    · cases same
    · exact absurd here (idle t p o there)

/-- The runs in which every outstanding send is recoverable are the runs that never have one. -/
theorem recoverable_along_iff_idle (d : Deployment) (events : List Event) :
    Run.Along (World.step d) Recoverable World.start events ↔
      Run.Along (World.step d) Idle World.start events := by
  refine Run.along_congr (I := Phases) (fun _ _ _ phases taken => phases.step taken)
    (fun w e w' phases idle taken => ?_) .start ?_ ?_
  · rw [recoverable_iff]
    constructor
    · intro recoverable t p o is here
      obtain ⟨row, mem, id, needs⟩ := recoverable t p o is here
      rw [phases.row_intent idle (phases.course taken) is here row mem id] at needs
      cases needs
    · exact fun idle t p o is here => absurd here (idle t p o is)
  · exact fun t p o is => by cases is
  · exact fun t p o is => by cases is

theorem plainSend_row :
    (Run.exec (World.step allDurable) World.start plainSend).map (fun w =>
      (w.table.rows.map OrderRow.status, (w.passAt 0).map fun p => p.stage.sending)) =
        some ([.intent], some true) := by
  decide +kernel

/-- A send that is outstanding is not recoverable. -/
theorem not_forall_recoverable :
    ¬ ∀ (d : Deployment) (events : List Event),
      Run.Along (World.step d) Recoverable World.start events := by
  intro always
  obtain ⟨w, run, shows⟩ := Option.map_eq_some_iff.mp plainSend_row
  have statuses : w.table.rows.map OrderRow.status = [.intent] := congrArg Prod.fst shows
  obtain ⟨p, is, sending⟩ := Option.map_eq_some_iff.mp (congrArg Prod.snd shows)
  obtain ⟨o, here⟩ := Stage.sending_iff.mp sending
  have recoverable := recoverable_iff.mp ((always allDurable plainSend).last run)
  obtain ⟨row, mem, _, needs⟩ := recoverable 0 p o (passAt_eq_some_iff.mp is) here
  have status : row.status ∈ [OrderStatus.intent] := statuses ▸ List.mem_map_of_mem mem
  rw [List.mem_singleton.mp status] at needs
  cases needs

end World

end TradeResearch.Execution
