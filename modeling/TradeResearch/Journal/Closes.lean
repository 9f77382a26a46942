import Mathlib.Data.List.Sort
import TradeResearch.Positions.Manager

/-!
# The closes of a position

`backend/app/journal/closes.py`: the confirmed closes read back from `position_events`, the one exit
derived from them, and the money they came to.

* `Entry` is a row of `position_events`, its payload as `_decimal` reads it; `PassRecord.entry` and
  `SweepEvent.entry` are what the manager and the reconciler write.
* `closesFrom_perm`: the closes of a log are those of its entries, in some order.
* `exitOf_of_perm`: the weighted exit and the quantity do not depend on that order.
-/

namespace TradeResearch.Journal

open Positions

structure Entry where
  positionId : String
  eventType : String
  occurredAt : Time
  fillPrice : Option ℚ := none
  closedQuantity : Option ℚ := none
  realizedPnl : Option ℚ := none
  reason : Option String := none
  brokerDealId : Option String := none
  fillSource : Option String := none
  commission : Option ℚ := none
  swap : Option ℚ := none
  fee : Option ℚ := none

def closing : List String := ["partially_closed", "closed"]

def reasonName : ExitReason → String
  | .stopLoss => "stop_loss"
  | .takeProfit => "take_profit"
  | .trailingStop => "trailing_stop"
  | .strategyExit => "strategy_exit"
  | .timeExit => "time_exit"
  | .riskExit => "risk_exit"
  | .emergencyExit => "emergency_exit"
  | .partialTakeProfit => "partial_take_profit"

def closeEntry (positionId eventType : String) (time : Time) (close : BookedClose) : Entry :=
  { positionId, eventType
    occurredAt := time
    fillPrice := some close.fillPrice
    closedQuantity := some close.closedQuantity
    realizedPnl := close.realizedPnl
    reason := some (reasonName close.reason)
    brokerDealId := close.brokerDealId
    fillSource := some close.fillSource }

def recordEntry (positionId : String) (record : PassRecord) : Entry :=
  match record.event with
  | .stopModified _ =>
    { positionId, eventType := "stop_modified", occurredAt := record.occurredAt }
  | .protectionMismatch _ _ _ =>
    { positionId, eventType := "protection_mismatch", occurredAt := record.occurredAt }
  | .exitDecided decision _ _ =>
    { positionId, eventType := "exit_decided", occurredAt := record.occurredAt
      reason := some (reasonName decision.reason) }
  | .partiallyClosed close => closeEntry positionId "partially_closed" record.occurredAt close
  | .closed close => closeEntry positionId "closed" record.occurredAt close
  | .closeUnknown reason _ =>
    { positionId, eventType := "close_unknown", occurredAt := record.occurredAt
      reason := some (reasonName reason) }
  | .closeRejected reason _ =>
    { positionId, eventType := "close_rejected", occurredAt := record.occurredAt
      reason := some (reasonName reason) }

def sweptEntry (event : PositionEvent) : Entry :=
  { positionId := event.positionId
    eventType :=
      match event.event with
      | .inconclusive _ => "reconcile_inconclusive"
      | .closed _ => "reconcile_closed"
      | .reconciled _ _ _ => "reconciled"
    occurredAt := event.occurredAt }

structure Close where
  time : Time
  quantity : ℚ
  fillPrice : ℚ
  reason : String
  realizedRunning : Option ℚ
  brokerDealId : Option String
  fillSource : Option String

def Entry.close? (entry : Entry) : Option Close :=
  if entry.eventType ∈ closing then
    match entry.fillPrice, entry.closedQuantity with
    | some fillPrice, some quantity =>
      if quantity ≤ 0 then none
      else
        some
          { time := entry.occurredAt, quantity, fillPrice
            reason := entry.reason.getD ""
            realizedRunning := entry.realizedPnl
            brokerDealId := entry.brokerDealId
            fillSource := entry.fillSource }
    | _, _ => none
  else none

def closesFrom (events : List Entry) : List Close :=
  (events.filterMap Entry.close?).insertionSort fun a b => a.time ≤ b.time

structure Exit where
  price : Option ℚ
  quantity : ℚ
  time : Option Time
  closes : ℕ
  reason : String
  complete : Bool

def closedTotal (closes : List Close) : ℚ := (closes.map Close.quantity).sum

def closedValue (closes : List Close) : ℚ :=
  (closes.map fun close => close.fillPrice * close.quantity).sum

def exitOf (closes : List Close) : Exit :=
  match closes.getLast? with
  | none =>
    { price := none, quantity := 0, time := none, closes := 0, reason := "", complete := false }
  | some last =>
    { price := some (closedValue closes / closedTotal closes)
      quantity := closedTotal closes
      time := some last.time
      closes := closes.length
      reason := last.reason
      complete := true }

def realizedFrom (closes : List Close) (booked : Option ℚ) : Option ℚ :=
  booked.or (closes.filterMap Close.realizedRunning).getLast?

theorem closesFrom_perm (events : List Entry) :
    (closesFrom events).Perm (events.filterMap Entry.close?) :=
  List.perm_insertionSort _ _

theorem closedTotal_of_perm {closes closes' : List Close} (same : closes.Perm closes') :
    closedTotal closes = closedTotal closes' :=
  (same.map _).sum_eq

theorem closedValue_of_perm {closes closes' : List Close} (same : closes.Perm closes') :
    closedValue closes = closedValue closes' :=
  (same.map _).sum_eq

theorem exitOf_price_eq_none {closes : List Close} :
    (exitOf closes).price = none ↔ closes = [] := by
  unfold exitOf
  cases last : closes.getLast? with
  | none => exact iff_of_true rfl (List.getLast?_eq_none_iff.mp last)
  | some close =>
    refine iff_of_false (by simp) fun empty => ?_
    rw [empty] at last
    cases last

theorem exitOf_of_perm {closes closes' : List Close} (same : closes.Perm closes')
    (some' : closes' ≠ []) :
    (exitOf closes).price = some (closedValue closes' / closedTotal closes') ∧
      (exitOf closes).quantity = closedTotal closes' := by
  have present : closes ≠ [] := fun empty => some' (List.perm_nil.mp (empty ▸ same.symm))
  unfold exitOf
  cases last : closes.getLast? with
  | none => exact absurd (List.getLast?_eq_none_iff.mp last) present
  | some close => rw [closedValue_of_perm same, closedTotal_of_perm same]; exact ⟨rfl, rfl⟩

theorem close?_eq_none_of_type {entry : Entry} (other : entry.eventType ∉ closing) :
    entry.close? = none := by
  unfold Entry.close?
  rw [if_neg other]

theorem close?_sweptEntry (event : PositionEvent) : (sweptEntry event).close? = none := by
  obtain ⟨id, event, time⟩ := event
  cases event <;> exact close?_eq_none_of_type (by simp [sweptEntry, closing])

theorem close?_closeEntry {positionId eventType : String} {time : Time} {close : BookedClose}
    (kind : eventType ∈ closing) (positive : 0 < close.closedQuantity) :
    (closeEntry positionId eventType time close).close? =
      some
        { time, quantity := close.closedQuantity, fillPrice := close.fillPrice
          reason := reasonName close.reason, realizedRunning := close.realizedPnl
          brokerDealId := close.brokerDealId, fillSource := some close.fillSource } := by
  unfold Entry.close? closeEntry
  dsimp only
  rw [if_pos kind, if_neg (not_le.mpr positive)]
  rfl

end TradeResearch.Journal
