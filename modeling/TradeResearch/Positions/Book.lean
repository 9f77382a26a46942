import TradeResearch.Lib.Run
import TradeResearch.Positions.Manager

/-!
# The book of positions

The writers of the `positions` table, one call at a time: a pass of the manager or a close its
caller decided, over one row; a recorded fill; and a sweep over the rows of an account. Each runs in
one transaction, which the CHECK on the closed quantity may refuse.

* `PositionsTable.step` is one call; `PositionsTable.step_iff` says what it does to a property of
  every row.
-/

namespace TradeResearch.Positions

open Oms Brokers

def PositionRow.Checked (row : PositionRow) : Prop :=
  0 ≤ row.closedQuantity ∧ row.closedQuantity ≤ row.initialQuantity

instance (row : PositionRow) : Decidable row.Checked := inferInstanceAs (Decidable (_ ∧ _))

def PositionRow.flushed (row row' : PositionRow) : PositionRow :=
  if row'.Checked then row' else row

def PositionRow.settled (row : PositionRow) (positions : List BrokerPosition) (time : Time) :
    PositionRow :=
  { row with toPosition := (settle (marked row.toPosition) positions row.status time).1 }

inductive BookEvent where
  | process (positionId : String) (pass : Pass)
  | closeNow (positionId : String) (symbolCode : Option String) (quantityExponent : ℤ)
      (decision : ExitDecision) (outcome : CloseOutcome)
  | recordFill (order : ManagedOrder) (recording : Recording)
  | sweep (mode : Mode) (accountId : String) (read : Answer (List BrokerPosition)) (time : Time)

@[simp] theorem marked_id (row : Position) : (marked row).id = row.id := by
  unfold marked
  split <;> rfl

@[simp] theorem marked_quantity (row : Position) : (marked row).quantity = row.quantity := by
  unfold marked
  split <;> rfl

@[simp] theorem marked_stopLoss (row : Position) : (marked row).stopLoss = row.stopLoss := by
  unfold marked
  split <;> rfl

theorem settle_frame (row : Position) (positions : List BrokerPosition)
    (previous : PositionStatus) (time : Time) :
    (settle row positions previous time).1.id = row.id ∧
      (settle row positions previous time).1.stopLoss = row.stopLoss := by
  unfold settle
  dsimp only
  split <;> exact ⟨rfl, rfl⟩

theorem PositionRow.settled_id (row : PositionRow) (positions : List BrokerPosition)
    (time : Time) : (row.settled positions time).id = row.id :=
  (settle_frame _ positions row.status time).1.trans (marked_id _)

theorem PositionRow.flushed_id {row row' : PositionRow} (same : row'.id = row.id) :
    (row.flushed row').id = row.id := by
  unfold PositionRow.flushed
  split
  · exact same
  · rfl

namespace PositionsTable

variable (t : PositionsTable)

def process (positionId : String) (pass : Pass) : PositionsTable :=
  t.modify positionId (fun row => row.flushed (row.process pass).1) fun row =>
    PositionRow.flushed_id (row.process_frame pass).1

def closeNow (positionId : String) (symbolCode : Option String) (quantityExponent : ℤ)
    (decision : ExitDecision) (outcome : CloseOutcome) : PositionsTable :=
  t.modify positionId
    (fun row => row.flushed (row.closeNow symbolCode quantityExponent decision outcome).1)
    fun row => PositionRow.flushed_id (row.closeNow_frame ..).1

def sweep (mode : Mode) (accountId : String) (time : Time) :
    Answer (List BrokerPosition) → PositionsTable
  | .error _ => t
  | .ok positions =>
    t.map (fun row => if localTo mode accountId row.toPosition then row.settled positions time
      else row) fun row => by
        split
        · exact row.settled_id positions time
        · rfl

def step : BookEvent → Option PositionsTable
  | .process positionId pass => some (t.process positionId pass)
  | .closeNow positionId symbolCode quantityExponent decision outcome =>
    some (t.closeNow positionId symbolCode quantityExponent decision outcome)
  | .recordFill order recording => some ((t.recordFill order recording).toOption.getD t)
  | .sweep mode accountId read time => some (t.sweep mode accountId time read)

end PositionsTable

def RowsKept (P : PositionRow → Prop) (t : PositionsTable) : BookEvent → Prop
  | .process positionId pass =>
    ∀ row ∈ t.rows, row.id = positionId → P (row.flushed (row.process pass).1)
  | .closeNow positionId symbolCode quantityExponent decision outcome =>
    ∀ row ∈ t.rows, row.id = positionId →
      P (row.flushed (row.closeNow symbolCode quantityExponent decision outcome).1)
  | .recordFill order recording =>
    ∀ fill, confirmedFill order = some fill →
      (∀ row, t.existing fill.venueId fill.mode = some row → P (row.refilled fill)) ∧
        (t.existing fill.venueId fill.mode = none →
          recording.positionId ∉ (t.rows.map fun row => row.id) →
          P (fill.row order.filledAt recording))
  | .sweep mode accountId read time =>
    ∀ positions, read = .ok positions → ∀ row ∈ t.rows,
      localTo mode accountId row.toPosition = true → P (row.settled positions time)

theorem PositionsTable.step_iff {t' : PositionsTable} {e : BookEvent}
    (held : ∀ row ∈ t.rows, P row) (taken : t.step e = some t') :
    (∀ row ∈ t'.rows, P row) ↔ RowsKept P t e := by
  cases e with
  | process positionId pass | closeNow positionId symbolCode quantityExponent decision outcome =>
    cases taken
    exact Table.forall_modify_iff held
  | recordFill order recording =>
    cases taken
    have outcome := t.recordFill_cases order recording
    generalize t.recordFill order recording = out at outcome
    cases outcome with
    | unconfirmed nothing =>
      refine iff_of_true held fun fill confirmed => ?_
      rw [nothing] at confirmed
      cases confirmed
    | refilled fill row confirmed found =>
      dsimp only [Except.toOption, Option.getD_some]
      unfold PositionsTable.refill
      rw [Table.forall_modify_iff held]
      obtain ⟨mem, _, _⟩ := PositionsTable.mem_of_existing found
      constructor
      · intro rewritten fill' confirmed'
        cases confirmed.symm.trans confirmed'
        refine ⟨fun row' found' => ?_, fun absent => ?_⟩
        · cases found.symm.trans found'
          exact rewritten row mem rfl
        · rw [found] at absent
          cases absent
      · intro kept row' mem' same
        have this : row' = row := Table.eq_of_key mem' mem same
        exact this ▸ (kept fill confirmed).1 row found
    | opened fill confirmed absent free =>
      dsimp only [Except.toOption, Option.getD_some]
      rw [Table.forall_insert_iff]
      constructor
      · intro both fill' confirmed'
        cases confirmed.symm.trans confirmed'
        refine ⟨fun row' found' => ?_, fun _ _ => both.2⟩
        rw [absent] at found'
        cases found'
      · intro kept
        exact ⟨held, (kept fill confirmed).2 absent free⟩
    | taken fill confirmed absent used =>
      refine iff_of_true held fun fill' confirmed' => ?_
      cases confirmed.symm.trans confirmed'
      refine ⟨fun row' found' => ?_, fun _ free => absurd used free⟩
      rw [absent] at found'
      cases found'
  | sweep mode accountId read time =>
    cases taken
    cases read with
    | error e => exact iff_of_true held fun positions read => by cases read
    | ok positions =>
      unfold PositionsTable.sweep
      rw [Table.forall_map_iff]
      constructor
      · intro after positions' same row mem here
        cases same
        have settled := after row mem
        rwa [if_pos here] at settled
      · intro kept row mem
        by_cases here : localTo mode accountId row.toPosition = true
        · rw [if_pos here]
          exact kept positions rfl row mem here
        · rw [if_neg here]
          exact held row mem

end TradeResearch.Positions
