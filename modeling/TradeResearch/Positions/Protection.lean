import TradeResearch.Oms.Calls
import TradeResearch.Positions.Book

/-!
# A stop that is not loosened

Every policy that moves a stop proposes a better one, and a pass takes the best of them, so a pass
never loosens a stop. Nor does a close or a sweep, which leave it alone. A recorded fill does: it
copies the levels of its order onto the row, and the order's stop is the one it was opened with.

* `PositionRow.StopKept` says that a stop, once set, is covered by the one that follows it.
* `process_stopKept` is the pass; `stopKept_refilled_iff` is the recorded fill.
* `stops_kept_iff_meets`: the steps of a run keep every stop exactly when each recorded fill brings
  one that covers the stop it is written over.
-/

namespace TradeResearch.Positions

open Oms Brokers

def PositionRow.StopKept (old row : PositionRow) : Prop :=
  old.status ≠ .closed → row.status ≠ .closed → ∀ stop, old.stopLoss = some stop →
    ∃ stop', row.stopLoss = some stop' ∧ old.side.Covers stop' stop

def StopsKept (t t' : PositionsTable) : Prop :=
  ∀ old ∈ t.rows, ∀ row ∈ t'.rows, row.id = old.id → old.StopKept row

theorem PositionRow.StopKept.of_eq {old row : PositionRow} (same : row.stopLoss = old.stopLoss) :
    old.StopKept row := fun _ _ stop set => ⟨stop, same.trans set, Side.Covers.refl _ stop⟩

theorem PolicySet.proposed_of_bestStop {set : PolicySet} {position : PositionView}
    {market : MarketState} {proposal : StopProposal}
    (best : set.bestStop position market = some proposal) :
    ∃ policy ∈ set.policies, policy.proposedStop position market = some proposal.modification := by
  -- The best so far is the one the fold starts from, or one of the policies passed.
  have found : ∀ (policies : List ExitPolicy) (start : Option StopProposal),
      policies.foldl (better position market) start = some proposal →
      start = some proposal ∨
        ∃ policy ∈ policies, policy.proposedStop position market = some proposal.modification := by
    intro policies
    induction policies with
    | nil => exact fun start same => .inl same
    | cons policy policies ih =>
      intro start folded
      rcases ih _ folded with here | ⟨later, mem, proposed⟩
      · unfold better at here
        cases own : policy.proposedStop position market with
        | none =>
          rw [own] at here
          exact .inl here
        | some modification =>
          rw [own] at here
          cases start with
          | none =>
            cases here
            exact .inr ⟨policy, List.mem_cons_self .., own⟩
          | some standing =>
            dsimp only at here
            split at here
            · cases here
              exact .inr ⟨policy, List.mem_cons_self .., own⟩
            · exact .inl here
      · exact .inr ⟨later, List.mem_cons_of_mem _ mem, proposed⟩
  rcases found set.policies none best with start | policy
  · cases start
  · exact policy

theorem process_stopKept (row : PositionRow) (pass : Pass) :
    row.StopKept (row.flushed (row.process pass).1) := by
  unfold PositionRow.flushed
  split
  case isFalse => exact .of_eq rfl
  case isTrue =>
    obtain ⟨_, _, same | ⟨proposal, best, moved⟩⟩ := row.process_frame pass
    · exact .of_eq same
    · intro _ _ stop set
      obtain ⟨policy, _, proposed⟩ := PolicySet.proposed_of_bestStop best
      exact ⟨_, moved, (policy.proposedStop_improves proposed set).covers⟩

theorem closeNow_stopKept (row : PositionRow) (symbolCode : Option String) (quantityExponent : ℤ)
    (decision : ExitDecision) (outcome : CloseOutcome) :
    row.StopKept
      (row.flushed (row.closeNow symbolCode quantityExponent decision outcome).1) := by
  unfold PositionRow.flushed
  split
  · exact .of_eq (row.closeNow_frame symbolCode quantityExponent decision outcome).2.2
  · exact .of_eq rfl

theorem settled_stopKept (row : PositionRow) (positions : List BrokerPosition) (time : Time) :
    row.StopKept (row.settled positions time) :=
  .of_eq ((settle_frame _ positions row.status time).2.trans (marked_stopLoss _))

theorem stopKept_refilled_iff {row : PositionRow} {fill : ConfirmedFill} :
    row.StopKept (row.refilled fill) ↔
      (row.status ≠ .closed → ∀ stop, row.stopLoss = some stop →
        ∃ stop', fill.stopLoss = some stop' ∧ row.side.Covers stop' stop) :=
  ⟨fun kept live => kept live live, fun covers live _ => covers live⟩

def StopCovered (t : PositionsTable) : BookEvent → Prop
  | .recordFill order _ =>
    ∀ fill, confirmedFill order = some fill →
      ∀ row, t.existing fill.venueId fill.mode = some row → row.status ≠ .closed →
        ∀ stop, row.stopLoss = some stop →
          ∃ stop', order.stopLoss = some stop' ∧ row.side.Covers stop' stop
  | _ => True

theorem stopsKept_step_iff {t t' : PositionsTable} {e : BookEvent} (taken : t.step e = some t') :
    StopsKept t t' ↔ StopCovered t e := by
  -- A row of the next state is compared with the row it was, and with no other.
  let Kept (row : PositionRow) : Prop := ∀ old ∈ t.rows, row.id = old.id → old.StopKept row
  have kept_iff : ∀ row ∈ t.rows, ∀ row' : PositionRow, row'.id = row.id →
      (Kept row' ↔ row.StopKept row') := by
    intro row mem row' same
    constructor
    · exact fun kept => kept row mem same
    · intro kept old held id
      have this : old = row := Table.eq_of_key held mem (id.symm.trans same)
      exact this ▸ kept
  have initial : ∀ row ∈ t.rows, Kept row := fun row mem =>
    (kept_iff row mem row rfl).mpr (.of_eq rfl)
  have swap : StopsKept t t' ↔ ∀ row ∈ t'.rows, Kept row :=
    ⟨fun kept row mem old held => kept old held row mem,
      fun kept old held row mem => kept row mem old held⟩
  rw [swap, PositionsTable.step_iff initial taken]
  cases e with
  | process positionId pass =>
    refine iff_of_true (fun row mem _ => ?_) True.intro
    exact (kept_iff row mem _ (PositionRow.flushed_id (row.process_frame pass).1)).mpr
      (process_stopKept row pass)
  | closeNow positionId symbolCode quantityExponent decision outcome =>
    refine iff_of_true (fun row mem _ => ?_) True.intro
    exact (kept_iff row mem _ (PositionRow.flushed_id (row.closeNow_frame ..).1)).mpr
      (closeNow_stopKept row symbolCode quantityExponent decision outcome)
  | recordFill order recording =>
    refine forall₂_congr fun fill confirmed => ?_
    have new : t.existing fill.venueId fill.mode = none →
        recording.positionId ∉ (t.rows.map fun row => row.id) →
        Kept (fill.row order.filledAt recording) := by
      intro _ free old held id
      exact absurd (List.mem_map.mpr ⟨old, held, id.symm⟩) free
    rw [and_iff_left new, ← (confirmedFill_eq_some confirmed).2]
    refine forall₂_congr fun row found => ?_
    obtain ⟨mem, _, _⟩ := PositionsTable.mem_of_existing found
    rw [kept_iff row mem _ (row.refilled_id fill), stopKept_refilled_iff]
  | sweep mode accountId read time =>
    refine iff_of_true (fun positions _ row mem _ => ?_) True.intro
    exact (kept_iff row mem _ (row.settled_id positions time)).mpr
      (settled_stopKept row positions time)

/-- The steps of a run keep every stop exactly when each order that is recorded over a position
that is not closed has a stop that covers the one the position has. Every other call keeps them,
whatever the prices, the policies and the answers of the venue. -/
theorem stops_kept_iff_meets (t : PositionsTable) (es : List BookEvent) :
    Run.Steps PositionsTable.step StopsKept t es ↔
      Run.Meets PositionsTable.step StopCovered t es := by
  apply Run.steps_iff_meets
  · exact fun t e t' taken => stopsKept_step_iff taken
  · intro t e untaken
    cases e <;> cases untaken

def openingOrder : ManagedOrder :=
  let filled : OrderResult :=
    { OrderResult.bare .accepted (Text.lit "filled") with
      orderId := some "1001"
      fillPrice := some (.finite 100)
      filledVolume := some (.finite 1) }
  (ManagedOrder.submit 0 (.ok (some (plainSymbol "EURUSD"))) (.ok filled)).left
    { plainOrder 1 oneLot_pos with stopLoss := some 90 }

def trailingPass : Pass :=
  { policies := ⟨[.trailingStop ⟨none, some 5⟩]⟩
    market := { symbol := "EURUSD", bid := 110, ask := 110, asOf := 1, atr := none }
    context :=
      { emergencyStop := false, killSwitchReason := none, maxFloatingLoss := none,
        dailyLossBreached := false, strategyExitSignalled := false, maxHold := none }
    floatingPnl := none
    symbolCode := some "EURUSD"
    quantityExponent := 0
    outcome := .refused [] }

def recordedAgain : List BookEvent :=
  [.recordFill openingOrder (plainRecording "position"), .process "position" trailingPass,
    .recordFill openingOrder (plainRecording "again")]

def recordedStep (n : ℕ) : PositionsTable :=
  (Run.exec PositionsTable.step (Table.empty _) (recordedAgain.take n)).getD (Table.empty _)

/-- The second recording puts the stop back to ninety. -/
theorem not_forall_stops_kept :
    ¬ ∀ (t : PositionsTable) (es : List BookEvent),
      Run.Steps PositionsTable.step StopsKept t es := by
  intro kept
  obtain ⟨_, rest⟩ := kept (Table.empty _) recordedAgain _ rfl
  obtain ⟨_, rest⟩ := rest _ rfl
  obtain ⟨loosened, _⟩ := rest _ rfl
  have stops : ∃ old ∈ (recordedStep 2).rows, ∃ row ∈ (recordedStep 3).rows,
      row.id = old.id ∧ old.status ≠ .closed ∧ row.status ≠ .closed ∧
        old.stopLoss = some 105 ∧ row.stopLoss = some 90 ∧ old.side = .long := by
    decide +kernel
  obtain ⟨old, held, row, mem, id, live, live', trailed, opening, long⟩ := stops
  obtain ⟨stop, set, covers⟩ := loosened old held row mem id live live' 105 trailed
  cases set.symm.trans opening
  rw [long] at covers
  exact absurd covers (by decide +kernel)

end TradeResearch.Positions
