import TradeResearch.Oms.Service

/-!
# Settling positions against the venue

`PositionReconciler` of `backend/app/positions/reconciler.py`. A sweep reads the live rows of one
account and mode, reads the venue's positions once, and settles each row against the position its
broker id names. Nothing is concluded from a venue that could not be read.

The comparison that is only reported (`reconcile_positions`) and the bus events are left out; the
audit entries are kept.

* `sweep_failed` and `sweep_read` are the two outcomes of a sweep.
* `settle_absent`, `settle_unnamed` and `settle_held` are the three of a row.
-/

namespace TradeResearch.Positions

open Oms Brokers

inductive PositionStatus where
  | opening
  | open
  | partiallyClosed
  | closing
  | closed
  | unknown
  | reconciling
  deriving DecidableEq

structure Position where
  id : String
  mode : Mode
  brokerAccountId : Option String
  paperAccountId : Option String
  brokerPositionId : Option String
  quantity : ℚ
  stopLoss : Option ℚ
  takeProfit : Option ℚ
  status : PositionStatus
  closedAt : Option Time
  brokerStopLoss : Option ℚ
  brokerTakeProfit : Option ℚ
  brokerSyncedAt : Option Time

structure Differences where
  quantity : Option (ℚ × Figure)
  stopLoss : Option (Option ℚ × Option ℚ)
  takeProfit : Option (Option ℚ × Option ℚ)
  deriving DecidableEq

inductive SweepEvent where
  /-- `reconcile_inconclusive`: the venue cannot be asked about the position by id. -/
  | inconclusive (restored : PositionStatus)
  /-- `reconcile_closed`: the venue does not hold the position. -/
  | closed (brokerPositionId : String)
  /-- `reconciled`: the position was compared. -/
  | reconciled (differences : Differences) (brokerStopLoss brokerTakeProfit : Option ℚ)

structure PositionEvent where
  positionId : String
  event : SweepEvent
  occurredAt : Time

structure ReconcileReport where
  time : Time
  accountId : String
  closedLocally : List String
  synced : List String
  unattributed : List String
  failed : Option Text

def live : List PositionStatus := [.open, .partiallyClosed, .unknown, .closing, .opening]

def localTo (mode : Mode) (accountId : String) (row : Position) : Bool :=
  decide (row.mode = mode) && decide (row.status ∈ live) &&
    (decide (row.brokerAccountId = some accountId) || decide (row.paperAccountId = some accountId))

def unattributed (mode : Mode) (row : Position) : Bool :=
  decide (row.mode = mode) && decide (row.status ∈ live) && row.brokerAccountId.isNone &&
    row.paperAccountId.isNone

def byBrokerId (positions : List BrokerPosition) (positionId : String) : Option BrokerPosition :=
  positions.reverse.find? fun p => decide (p.positionId = positionId)

def marked (row : Position) : Position :=
  if row.status ∈ [.open, .partiallyClosed, .unknown] then { row with status := .reconciling }
  else row

def differences (row : Position) (held : BrokerPosition) : Differences :=
  { quantity :=
      if held.volume = .finite row.quantity then none else some (row.quantity, held.volume)
    stopLoss := if held.stopLoss = row.stopLoss then none else some (row.stopLoss, held.stopLoss)
    takeProfit :=
      if held.takeProfit = row.takeProfit then none else some (row.takeProfit, held.takeProfit) }

def settle (row : Position) (positions : List BrokerPosition) (previous : PositionStatus)
    (time : Time) : Position × SweepEvent :=
  let held :=
    if truthy row.brokerPositionId then row.brokerPositionId.bind (byBrokerId positions) else none
  match held, row.brokerPositionId with
  | none, none => ({ row with status := previous }, .inconclusive previous)
  | none, some brokerPositionId =>
    ({ row with
        status := .closed
        closedAt := some (row.closedAt.getD time)
        quantity := 0 },
      .closed brokerPositionId)
  | some held, _ =>
    ({ row with
        brokerStopLoss := held.stopLoss
        brokerTakeProfit := held.takeProfit
        brokerSyncedAt := some time
        status := if previous = .partiallyClosed then .partiallyClosed else .open },
      .reconciled (differences row held) held.stopLoss held.takeProfit)

def idsOf (kind : SweepEvent → Bool) (settled : List (Position × SweepEvent)) : List String :=
  (settled.filter fun r => kind r.2).map fun r => r.1.id

def SweepEvent.isClosed : SweepEvent → Bool
  | closed _ => true
  | _ => false

def SweepEvent.isReconciled : SweepEvent → Bool
  | reconciled _ _ _ => true
  | _ => false

def failedReport (time : Time) (accountId : String) (e : Exn) : ReconcileReport :=
  { time, accountId, closedLocally := [], synced := [], unattributed := [],
    failed := some (Text.lit "the venue could not be read: " ++ e.describe) }

def sweep (mode : Mode) (accountId : String) (getPositions : Answer (List BrokerPosition))
    (time : Time) (table : List Position) :
    List Position × List PositionEvent × ReconcileReport :=
  match getPositions with
  | .error e => (table, [], failedReport time accountId e)
  | .ok positions =>
    let settleRow (row : Position) := settle (marked row) positions row.status time
    let settled := (table.filter (localTo mode accountId)).map settleRow
    let table' := table.map fun row =>
      if localTo mode accountId row then (settleRow row).1 else row
    (table',
      settled.map fun r => ⟨r.1.id, r.2, time⟩,
      { time, accountId
        closedLocally := idsOf SweepEvent.isClosed settled
        synced := idsOf SweepEvent.isReconciled settled
        unattributed := (table'.filter (unattributed mode)).map Position.id
        failed := none })

section Settle

variable (row : Position) (positions : List BrokerPosition) (time : Time)

@[simp] theorem marked_brokerPositionId : (marked row).brokerPositionId = row.brokerPositionId := by
  unfold marked
  split <;> rfl

theorem settle_restored (unnamed : row.brokerPositionId = none) (previous : PositionStatus) :
    (settle row positions previous time).1 = { row with status := previous } := by
  cases row
  cases unnamed
  rfl

theorem settle_unnamed (unnamed : row.brokerPositionId = none) (previous : PositionStatus) :
    (settle row positions previous time).1.status = previous := by
  rw [settle_restored row positions time unnamed]

theorem settle_absent {id : String} (named : row.brokerPositionId = some id)
    (absent : byBrokerId positions id = none) (previous : PositionStatus) :
    (settle row positions previous time).1.status = .closed ∧
      (settle row positions previous time).1.quantity = 0 := by
  unfold settle
  rw [named]
  have unheld : (if truthy (some id) then (some id).bind (byBrokerId positions) else none) =
      none := by
    rw [Option.bind_some, absent, ite_self]
  rw [unheld]
  exact ⟨rfl, rfl⟩

theorem settle_empty (named : row.brokerPositionId = some "") (previous : PositionStatus) :
    (settle row positions previous time).1.status = .closed ∧
      (settle row positions previous time).1.quantity = 0 := by
  unfold settle
  rw [named]
  exact ⟨rfl, rfl⟩

theorem settle_held {id : String} {held : BrokerPosition}
    (named : row.brokerPositionId = some id) (present : id ≠ "")
    (found : byBrokerId positions id = some held) (previous : PositionStatus) :
    let row' := (settle row positions previous time).1
    row'.status = (if previous = .partiallyClosed then .partiallyClosed else .open) ∧
      row'.quantity = row.quantity ∧ row'.stopLoss = row.stopLoss ∧
      row'.takeProfit = row.takeProfit := by
  unfold settle
  rw [named]
  have held' : (if truthy (some id) then (some id).bind (byBrokerId positions) else none) =
      some held := by
    rw [if_pos (truthy_iff.mpr ⟨id, rfl, present⟩), Option.bind_some, found]
  rw [held']
  exact ⟨rfl, rfl, rfl, rfl⟩

end Settle

section Sweep

variable (mode : Mode) (accountId : String) (time : Time) (table : List Position)

def swept (getPositions : Answer (List BrokerPosition)) : List Position :=
  (sweep mode accountId getPositions time table).1

theorem sweep_failed (e : Exn) : swept mode accountId time table (.error e) = table := rfl

theorem sweep_read (positions : List BrokerPosition) :
    swept mode accountId time table (.ok positions) =
      table.map fun row =>
        if localTo mode accountId row then
          (settle (marked row) positions row.status time).1
        else row := rfl

theorem sweep_empty_iff :
    (swept mode accountId time table (.ok [])).map Position.status =
        table.map Position.status ↔
      ∀ row ∈ table, localTo mode accountId row = true → row.brokerPositionId = none := by
  rw [sweep_read, List.map_map, List.map_inj_left]
  refine forall₂_congr fun row _ => ?_
  dsimp only [Function.comp]
  cases here : localTo mode accountId row with
  | false => simp
  | true =>
    rw [if_pos rfl, imp_iff_right rfl]
    cases named : row.brokerPositionId with
    | none => exact iff_of_true (settle_unnamed _ _ _ (by simp [named]) _) rfl
    | some id =>
      obtain ⟨closed, _⟩ :=
        settle_absent (marked row) [] time
          (show (marked row).brokerPositionId = some id by simp [named]) rfl row.status
      refine iff_of_false (fun same => ?_) (by simp)
      have isLive : row.status ∈ live := by
        unfold localTo at here
        rw [Bool.and_eq_true, Bool.and_eq_true] at here
        exact of_decide_eq_true here.1.2
      rw [← same, closed] at isLive
      exact absurd isLive (by decide)

end Sweep

end TradeResearch.Positions
