import TradeResearch.Journal.Service

/-!
# Positions, their log and the journal

The `positions` table, `position_events` and `trades` under the writers of all three: the calls of
the book, and the sweeps of the journal. A call of the manager and the entries it writes are one
transaction, which the CHECK on the closed quantity may refuse; a sweep the journal raises in leaves
nothing.

* `Desk.step` is one call. `Desk.confirmed` is no table: it keeps what the venue confirmed of each
  close, whatever was written of it.
* `called_case`: a call of the manager books one confirmed close, and logs it, or books none.
-/

namespace TradeResearch.Journal

open Oms Positions

structure Confirmed where
  positionId : String
  quantity : ℚ
  fillPrice : ℚ
  money : Option ℚ

structure Desk where
  positions : PositionsTable
  events : List Entry
  trades : TradesTable
  confirmed : List Confirmed

inductive DeskEvent where
  | book (call : BookEvent)
  | recordPending (refs : References) (q : Query) (mode : Option Mode) (limit : ℕ)

def confirmation (result : ManagedResult) : Option (ExitDecision × CloseOutcome × ℚ) :=
  match result.decision, result.outcome with
  | some decision, some outcome =>
    if outcome.status = .confirmed then
      outcome.fillPrice.map fun fill => (decision, outcome, fill)
    else none
  | _, _ => none

def confirmedClose (row : PositionRow) (decision : ExitDecision) (outcome : CloseOutcome)
    (fill : ℚ) : Confirmed :=
  { positionId := row.id
    quantity := row.closedNow decision
    fillPrice := fill
    money := row.booked fill (row.closedNow decision) outcome }

def confirmedBy (row : PositionRow) (result : ManagedResult) : List Confirmed :=
  (confirmation result).toList.map fun (decision, outcome, fill) =>
    confirmedClose row decision outcome fill

def called (positions : PositionsTable) :
    BookEvent → Option (PositionRow × (PositionRow × List PassRecord × ManagedResult))
  | .process positionId pass =>
    (positions.find? positionId).map fun row => (row, row.process pass)
  | .closeNow positionId symbolCode quantityExponent decision outcome =>
    (positions.find? positionId).map fun row =>
      (row, row.closeNow symbolCode quantityExponent decision outcome)
  | .recordFill _ _ => none
  | .sweep _ _ _ _ => none

def logged (positions : PositionsTable) (call : BookEvent) : List Entry :=
  match called positions call with
  | some (row, row', records, _) =>
    if row'.Checked then records.map (recordEntry row.id) else []
  | none => []

def sweptEntries (positions : PositionsTable) : BookEvent → List Entry
  | .sweep mode accountId read time =>
    (Positions.sweep mode accountId read time
      (positions.rows.map PositionRow.toPosition)).2.1.map sweptEntry
  | _ => []

def written (positions : PositionsTable) (call : BookEvent) : List Entry :=
  logged positions call ++ sweptEntries positions call

def confirmedIn (positions : PositionsTable) (call : BookEvent) : List Confirmed :=
  match called positions call with
  | some (row, _, _, result) => confirmedBy row result
  | none => []

def Desk.step (s : Desk) : DeskEvent → Option Desk
  | .book call =>
    (s.positions.step call).map fun positions =>
      { positions
        events := s.events ++ written s.positions call
        trades := s.trades
        confirmed := s.confirmed ++ confirmedIn s.positions call }
  | .recordPending refs q mode limit =>
    match Journal.recordPending s.positions s.trades s.events refs q mode limit with
    | .ok (trades, _) => some { s with trades }
    | .error _ => some s

def closesIn (positionId : String) (records : List PassRecord) : List Close :=
  (records.map (recordEntry positionId)).filterMap Entry.close?

theorem closesIn_append (positionId : String) (records records' : List PassRecord) :
    closesIn positionId (records ++ records') =
      closesIn positionId records ++ closesIn positionId records' := by
  unfold closesIn
  rw [List.map_append, List.filterMap_append]

theorem closesIn_eq_nil {positionId : String} {records : List PassRecord}
    (other : ∀ record ∈ records, ∀ close, record.event ≠ .partiallyClosed close ∧
      record.event ≠ .closed close) : closesIn positionId records = [] := by
  unfold closesIn
  rw [List.filterMap_map, List.filterMap_eq_nil_iff]
  intro record mem
  have kind := other record mem
  obtain ⟨event, time⟩ := record
  cases event with
  | partiallyClosed close => exact absurd rfl (kind close).1
  | closed close => exact absurd rfl (kind close).2
  | _ => exact close?_eq_none_of_type (by simp [recordEntry, closing])

def Close.figures (close : Close) : ℚ × ℚ := (close.quantity, close.fillPrice)

def Confirmed.figures (close : Confirmed) : ℚ × ℚ := (close.quantity, close.fillPrice)

inductive CallCase (row : PositionRow) : PositionRow × List PassRecord × ManagedResult → Prop
  | quiet (row' : PositionRow) (records : List PassRecord) (result : ManagedResult)
      (money : row'.realizedPnl = row.realizedPnl) (closes : closesIn row.id records = [])
      (nothing : confirmation result = none) : CallCase row (row', records, result)
  | booked (decision : ExitDecision) (outcome : CloseOutcome) (fill : ℚ) (row' : PositionRow)
      (records : List PassRecord) (result : ManagedResult)
      (confirmed : confirmation result = some (decision, outcome, fill))
      (money : row'.realizedPnl = (row.book decision outcome fill).realizedPnl)
      (checked : row'.Checked ↔ (row.book decision outcome fill).Checked)
      (closes : 0 < decision.quantity.getD row.quantity →
        decision.quantity.getD row.quantity ≤ row.quantity →
        (closesIn row.id records).map Close.figures =
          [(row.closedNow decision, fill)]) :
    CallCase row (row', records, result)

section Act

variable (row : PositionRow) {position : PositionView} (decision : ExitDecision)
  (outcome : CloseOutcome)

theorem closesIn_bookedClose (same : position.quantity = row.quantity) (fill : ℚ) (time : Time)
    (row' : PositionRow) (positive : 0 < decision.quantity.getD row.quantity)
    (within : decision.quantity.getD row.quantity ≤ row.quantity) :
    (closesIn row.id [⟨row'.bookedClose position decision outcome fill, time⟩]).map
      Close.figures = [(row.closedNow decision, fill)] := by
  have taken : row.closedNow decision = decision.quantity.getD row.quantity := by
    unfold PositionRow.closedNow
    rw [if_neg (not_lt.mpr within)]
  have logged : (decision.quantity.filter (· ≠ 0)).getD position.quantity =
      decision.quantity.getD row.quantity := by
    rw [same]
    cases decided : decision.quantity with
    | none => rfl
    | some quantity =>
      rw [decided, Option.getD_some] at positive
      rw [Option.filter_some_pos (by simpa using positive.ne')]
  have entry : ∀ kind ∈ closing, ∀ close : BookedClose,
      close.closedQuantity = decision.quantity.getD row.quantity → close.fillPrice = fill →
      ([closeEntry row.id kind time close].filterMap Entry.close?).map Close.figures =
        [(decision.quantity.getD row.quantity, fill)] := by
    intro kind mem close quantity price
    rw [List.filterMap_cons_some (close?_closeEntry mem (quantity ▸ positive)), List.filterMap_nil,
      List.map_singleton, ← quantity, ← price]
    rfl
  rw [taken]
  unfold closesIn PositionRow.bookedClose
  rw [List.map_singleton]
  dsimp only
  split
  · exact entry "partially_closed" (by decide) _ logged rfl
  · exact entry "closed" (by decide) _ logged rfl

theorem act_case (same : position.quantity = row.quantity) (records : List PassRecord)
    (quiet : closesIn row.id records = []) {result : ManagedResult}
    (decided : result.decision = some decision)
    (told : result.outcome = some (row.act position decision outcome).2.2) :
    CallCase row ((row.act position decision outcome).1,
      records ++ [(row.act position decision outcome).2.1], result) := by
  have unbooked : ∀ event time, (∀ close, event ≠ .partiallyClosed close ∧ event ≠ .closed close) →
      closesIn row.id (records ++ [⟨event, time⟩]) = [] := by
    intro event time other
    rw [closesIn_append, quiet, List.nil_append]
    refine closesIn_eq_nil fun record mem => ?_
    obtain rfl := List.mem_singleton.mp mem
    exact other
  have answer : ∀ told', result.outcome = some told' → told'.status ≠ .confirmed →
      confirmation result = none := by
    intro told' told unconfirmed
    unfold confirmation
    rw [decided, told]
    exact if_neg unconfirmed
  unfold PositionRow.act at told ⊢
  cases status : outcome.status with
  | confirmed =>
    cases filled : outcome.fillPrice with
    | some fill =>
      rw [status, filled] at told
      refine .booked decision outcome fill _ _ _ ?_ rfl Iff.rfl ?_
      · unfold confirmation
        rw [decided, told]
        dsimp only
        rw [if_pos status, filled]
        rfl
      · intro positive within
        rw [closesIn_append, quiet, List.nil_append]
        exact closesIn_bookedClose row decision outcome same fill _ _ positive within
    | none =>
      rw [status, filled] at told
      exact .quiet _ _ _ rfl (unbooked _ _ (by simp)) (answer _ told (by simp))
  | unknown | rejected =>
    rw [status] at told
    exact .quiet _ _ _ rfl (unbooked _ _ (by simp)) (answer _ told (by rw [status]; simp))

end Act

theorem CallCase.of_withStop {row : PositionRow} (proposal : Option StopProposal)
    {out : PositionRow × List PassRecord × ManagedResult}
    (case : CallCase (row.withStop proposal) out) : CallCase row out := by
  cases proposal with
  | none => exact case
  | some proposal =>
    cases case with
    | quiet row' records result money closes nothing =>
      exact .quiet row' records result money closes nothing
    | booked decision outcome fill row' records result confirmed money checked closes =>
      exact .booked decision outcome fill row' records result confirmed money checked closes

theorem process_case (row : PositionRow) (pass : Pass) : CallCase row (row.process pass) := by
  unfold PositionRow.process
  cases managed : row.status.skipped with
  | some why => exact .quiet row [] _ rfl rfl rfl
  | none =>
    dsimp only
    have quiet : ∀ proposal : Option StopProposal, ∀ position : PositionView,
        closesIn row.id ((proposal.toList.map fun m => ⟨.stopModified m, m.modification.at_⟩) ++
          PositionRow.mismatch position pass.market) = [] := by
      intro proposal position
      refine closesIn_eq_nil fun record mem close => ?_
      rcases List.mem_append.mp mem with moved | gap
      · obtain ⟨m, _, rfl⟩ := List.mem_map.mp moved
        simp
      · unfold PositionRow.mismatch at gap
        split at gap
        · cases gap
        · obtain rfl := List.mem_singleton.mp gap
          simp
    split
    case h_1 =>
      refine .quiet _ _ _ ?_ (quiet _ _) rfl
      cases pass.policies.bestStop _ _ <;> rfl
    case h_2 decision decided =>
      refine CallCase.of_withStop (pass.policies.bestStop
        (row.view pass.floatingPnl pass.symbolCode pass.quantityExponent) pass.market) ?_
      rw [List.append_cons]
      refine act_case _ decision pass.outcome (PositionRow.withStop_quantity ..).symm _ ?_ rfl rfl
      rw [PositionRow.withStop_id, closesIn_append, quiet, List.nil_append]
      refine closesIn_eq_nil fun record mem close => ?_
      obtain rfl := List.mem_singleton.mp mem
      simp

theorem closeNow_case (row : PositionRow) (symbolCode : Option String) (quantityExponent : ℤ)
    (decision : ExitDecision) (outcome : CloseOutcome) :
    CallCase row (row.closeNow symbolCode quantityExponent decision outcome) := by
  refine act_case row decision outcome rfl
    [⟨.exitDecided decision row.mode true, decision.decidedAt⟩] ?_ rfl rfl
  refine closesIn_eq_nil fun record mem close => ?_
  obtain rfl := List.mem_singleton.mp mem
  simp

theorem called_case {positions : PositionsTable} {call : BookEvent} {row : PositionRow}
    {out : PositionRow × List PassRecord × ManagedResult}
    (here : called positions call = some (row, out)) :
    row ∈ positions.rows ∧ CallCase row out := by
  cases call with
  | process positionId pass =>
    obtain ⟨row', found, same⟩ := Option.map_eq_some_iff.mp here
    cases same
    exact ⟨List.mem_of_find?_eq_some found, process_case row pass⟩
  | closeNow positionId symbolCode quantityExponent decision outcome =>
    obtain ⟨row', found, same⟩ := Option.map_eq_some_iff.mp here
    cases same
    exact ⟨List.mem_of_find?_eq_some found, closeNow_case row ..⟩
  | recordFill order recording | sweep mode accountId read time => cases here

end TradeResearch.Journal
