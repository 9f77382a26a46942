import TradeResearch.Brokers.Dispatch
import TradeResearch.Brokers.Fake
import TradeResearch.Positions.Exposure
import TradeResearch.Positions.Manager

/-!
# A close of part of a position

The volume of a close goes from the decision through `BrokerExitExecutor.close` and
`OrderManager.close` to `close_position` of the adapter, and neither adapter reads it: both close
all of the position. The fill that comes back is larger than the order, which refuses it, and the
refusal is raised through the executor, past the row.

* `Adapter` is the MetaTrader5 adapter before a terminal, or the simulator; `Adapter.left` is what
  the venue still holds of the position after it was asked.
* `BrokerExitExecutor.execute` is the whole close: what it answers or raises, and what is left.
* `ClosesPart` is what a close of part of a position should come to; `not_closesPart` says that none
  does.
-/

namespace TradeResearch.Positions

open Oms Oms.ManagedOrder Brokers

structure Terminal where
  state : ConnectionState
  positionsGet : Mt5.TerminalCall Mt5.OpenBook
  calls : Mt5.Position → Mt5.CloseCalls
  position : Mt5.Position
  executed : ℚ

inductive Adapter where
  | mt5 (terminal : Terminal)
  | fake (broker : FakeBroker)

def reads (positionsGet : Mt5.TerminalCall Mt5.OpenBook) (p : Mt5.Position) : Bool :=
  match positionsGet with
  | .answered book => decide (p ∈ book.positions)
  | _ => false

def Terminal.sends (t : Terminal) (positionId : String) : Bool :=
  decide (t.state = .connected) && reads t.positionsGet t.position &&
    decide (t.position.magic = Mt5.magic) &&
    decide (Mt5.ticketText t.position.ticket = positionId) &&
    (match (t.calls t.position).symbolInfoTick with
      | .answered _ => true
      | _ => false) &&
    (match (t.calls t.position).fillingFor with
      | .raised _ _ => false
      | _ => true)

namespace Adapter

def closePosition (a : Adapter) (positionId : String) (volume : ℚ) (now : Time) :
    Answer OrderResult :=
  match a with
  | mt5 t => Mt5.closePosition t.state t.positionsGet t.calls positionId now
  | fake b => (FakeBroker.closePosition positionId (some volume)).answer b

def volume (a : Adapter) (positionId : String) : ℚ :=
  match a with
  | mt5 t => t.position.volume
  | fake b => b.volumeOf positionId

def left (a : Adapter) (positionId : String) (volume : ℚ) : ℚ :=
  match a with
  | mt5 t =>
    if t.sends positionId = true then t.position.volume - t.executed else t.position.volume
  | fake b => ((FakeBroker.closePosition positionId (some volume)).left b).volumeOf positionId

def Completes : Adapter → Prop
  | mt5 t => Mt5.done (t.calls t.position).orderSend = true → t.executed = t.position.volume
  | fake _ => True

end Adapter

structure Executed where
  answer : Answer CloseOutcome
  left : ℚ

def BrokerExitExecutor.unbuilt (x : BrokerExitExecutor) (r : CloseRequest) (run : CloseRun) :
    Answer CloseOutcome :=
  match r.prepare x run.preparedAt run.decisionId with
  | .error outcome => .ok outcome
  | .ok (m, ticket) =>
    match ((ticket.build run.orderId run.lockedAt).exec m).1 with
    | .error e => .error e
    | .ok (.error outcome) => .ok outcome
    | .ok (.ok orderId) => .error (.other "KeyError" (Text.lit orderId))

def BrokerExitExecutor.execute (x : BrokerExitExecutor) (a : Adapter) (positionId : String)
    (r : CloseRequest) (run : CloseRun) (db : Database) : Executed :=
  match x.built r run with
  | none => { answer := x.unbuilt r run, left := a.volume positionId }
  | some (t, _, order) =>
    let told := { run with answer := a.closePosition t.brokerPositionId order.quantity run.sentAt }
    { answer := (told.settle t.brokerPositionId order db).1
      left :=
        match (closeBegin run.sentAt t.brokerPositionId).answer order with
        | .ok () => a.left t.brokerPositionId order.quantity
        | .error _ => a.volume positionId }

def PositionRow.afterClose (row : PositionRow) (position : PositionView) (decision : ExitDecision) :
    Answer CloseOutcome → PositionRow
  | .ok outcome => (row.act position decision outcome).1
  | .error _ => row

structure ClosesPart (wanted before : ℚ) (row row' : PositionRow) (e : Executed) : Prop where
  leaves : e.left = before - wanted
  taken : ∀ reason, e.answer ≠ .error (.fillError reason)
  reduced : row.quantity - row'.quantity = before - e.left

section Rows

variable {row : PositionRow} {position : PositionView}

theorem afterClose_quantity {answer : Answer CloseOutcome}
    (unconfirmed : ∀ outcome, answer = .ok outcome → outcome.status ≠ .confirmed) :
    (row.afterClose position decision answer).quantity = row.quantity := by
  cases answer with
  | error e => rfl
  | ok outcome =>
    have acted := row.act_cases position decision outcome
    show (row.act position decision outcome).1.quantity = row.quantity
    generalize (row.act position decision outcome).1 = row' at acted
    cases acted with
    | booked fill confirmed filled => exact absurd confirmed (unconfirmed outcome rfl)
    | parked unclear | refused unclear => rfl

theorem closeOutcome_unfilled {closed : ManagedOrder} (unfilled : closed.status ≠ .filled)
    (now : Time) : (closeOutcome closed now).status ≠ .confirmed := by
  unfold closeOutcome
  cases status : closed.status with
  | filled => exact absurd status unfilled
  | _ =>
    intro confirmed
    cases confirmed

theorem applyAnswer_unfilled {o : ManagedOrder} (sent : o.status = .submitting) (now : Time)
    {answer : Answer OrderResult}
    (unaccepted : ∀ result, answer = .ok result → result.status ≠ .accepted) :
    ((applyAnswer now answer).left o).status ≠ .filled := by
  have legal : ∀ s, s = .submitted ∨ s = .failed ∨ s = .unknown → s ∈ o.status.transitions := by
    rintro s (rfl | rfl | rfl) <;> rw [sent] <;> decide
  unfold Method.left
  cases answer with
  | ok result =>
    show ((applyResult now result).exec o).2.status ≠ _
    cases verdict : result.status with
    | accepted => exact absurd verdict (unaccepted result rfl)
    | rejected =>
      rw [exec_applyResult_rejected o now result verdict (legal _ (.inl rfl)), refused_status]
      decide
    | unknown =>
      rw [exec_applyResult_unknown o now result verdict, parked_status, named_status, sent]
      decide
  | error e =>
    by_cases broker : ∃ type reason, e = .brokerError type reason
    · obtain ⟨type, reason, rfl⟩ := broker
      rw [exec_applyAnswer_broker o now (legal _ (.inr (.inl rfl)))]
      simp
    · rw [exec_applyAnswer_raised o now fun type reason same => broker ⟨type, reason, same⟩,
        parked_status, sent]
      decide

theorem settle_unconfirmed {order : ManagedOrder} (run : CloseRun) (brokerPositionId : String)
    (db : Database)
    (unaccepted : ∀ result, run.answer = .ok result → result.status ≠ .accepted) :
    ∀ outcome, (run.settle brokerPositionId order db).1 = .ok outcome →
      outcome.status ≠ .confirmed := by
  intro outcome settled
  have sent := close_cases order run.sentAt brokerPositionId run.answer
  unfold CloseRun.settle at settled
  generalize (ManagedOrder.close run.sentAt brokerPositionId run.answer).exec order = out
    at sent settled
  cases sent with
  | refused reason => cases settled
  | unsent o' created failed book unnamed =>
    cases settled
    exact closeOutcome_unfilled (by rw [failed]; decide) _
  | sent reason created =>
    have unfilled := applyAnswer_unfilled (o := order.sending run.sentAt reason) rfl run.sentAt
      unaccepted
    unfold Method.left at unfilled
    generalize (applyAnswer run.sentAt run.answer).exec (order.sending run.sentAt reason) = out
      at unfilled settled
    obtain ⟨answer, closed⟩ := out
    cases answer with
    | error e => cases settled
    | ok _ =>
      cases settled
      exact closeOutcome_unfilled unfilled _

end Rows

theorem Terminal.sends_iff {t : Terminal} {positionId : String} :
    t.sends positionId = true ↔
      Mt5.CloseDispatched t.state t.positionsGet t.calls positionId t.position := by
  obtain ⟨state, positionsGet, calls, position, executed⟩ := t
  unfold sends reads Mt5.CloseDispatched Mt5.Returned
  cases positionsGet with
  | raised type reason | noAnswer => simp
  | answered book =>
    cases (calls position).symbolInfoTick <;> cases (calls position).fillingFor <;>
      simp [and_assoc]

theorem left_cases {a : Adapter} (completes : a.Completes) (positionId : String) (volume : ℚ)
    (now : Time) :
    a.left positionId volume = a.volume positionId ∨ a.left positionId volume = 0 ∨
      ∀ result, a.closePosition positionId volume now = .ok result →
        result.status ≠ .accepted := by
  cases a with
  | fake b =>
    rcases b.volumeOf_closePosition positionId (some volume) with same | gone
    · exact .inl same
    · exact .inr (.inl gone)
  | mt5 t =>
    show (if t.sends positionId = true then _ else _) = t.position.volume ∨
      (if t.sends positionId = true then _ else _) = _ ∨ _
    by_cases sends : t.sends positionId = true
    case neg => exact .inl (if_neg sends)
    case pos =>
      by_cases did : Mt5.done (t.calls t.position).orderSend = true
      · rw [if_pos sends, completes did, sub_self]
        exact .inr (.inl rfl)
      · refine .inr (.inr fun result answered => ?_)
        have dispatched := Terminal.sends_iff.mp sends
        change Mt5.closePosition t.state t.positionsGet t.calls positionId now = _ at answered
        rw [Mt5.closePosition_of_dispatched t.state dispatched] at answered
        obtain ⟨_, _, _, _, quoted, filled⟩ := dispatched
        rcases Mt5.closeOne_of_dispatched quoted filled with
          ⟨type, reason, raised, _⟩ | ⟨row, closed, _, _, status⟩
        · rw [raised] at answered
          cases answered
        · rw [if_neg did] at status
          rw [closed] at answered
          cases answered
          rw [Mt5.closeResult_of_failed status]
          decide

structure CloseRequest.PartOf (r : CloseRequest) (row : PositionRow) (positionId : String)
    (wanted : Decimal) : Prop where
  quantity : r.quantity.value = row.quantity
  asked : r.wanted = some wanted
  named : r.brokerPositionId = some positionId
  positive : 0 < wanted.value
  part : wanted.value < row.quantity

section Part

variable {x : BrokerExitExecutor} {a : Adapter} {positionId : String} {r : CloseRequest}
  {run : CloseRun} {db : Database} {row : PositionRow} {wanted : Decimal} {t : CloseTicket}
  {m : OrderManager}

theorem CloseRequest.PartOf.built (part : r.PartOf row positionId wanted)
    (built : x.built r run = some (t, m, order)) :
    t.brokerPositionId = positionId ∧ Untouched order ∧ order.quantity = wanted.value := by
  obtain ⟨m₀, prepared, volume, positive, approved, rfl⟩ := BrokerExitExecutor.built_eq_some built
  obtain ⟨_, _, _, named, _, _, found, passed⟩ := CloseRequest.prepare_ok prepared
  obtain ⟨_, _, same, _⟩ := Risk.RiskEngine.approveClose_some passed
  refine ⟨Option.some.inj (named.symm.trans part.named), ⟨rfl, rfl, rfl⟩, ?_⟩
  have fits : ¬ (wanted.value ≤ 0 ∨ r.quantity.value < wanted.value) := by
    rw [part.quantity]
    exact not_or.mpr ⟨not_le.mpr part.positive, not_lt.mpr part.part.le⟩
  have asked : r.volume = some wanted := by
    unfold CloseRequest.volume
    rw [part.asked]
    exact if_neg fits
  have all : t.approval.approvedVolume = some t.volume.value := same
  rw [Option.some.inj (found.symm.trans asked)] at all
  exact Option.some.inj (approved.symm.trans all)

/-- No close of part of a position closes what was asked. -/
theorem not_closesPart (part : r.PartOf row positionId wanted)
    (held : a.volume positionId = row.quantity) (completes : a.Completes)
    (position : PositionView) (decision : ExitDecision) :
    ¬ ClosesPart wanted.value (a.volume positionId) row
      (row.afterClose position decision (x.execute a positionId r run db).answer)
      (x.execute a positionId r run db) := by
  intro closes
  have leaves := closes.leaves
  have reduced := closes.reduced
  have positive := part.positive
  have less := part.part
  rw [held] at leaves reduced
  -- The venue holds something, and less than it held: neither adapter leaves that.
  have some_left : (x.execute a positionId r run db).left ≠ a.volume positionId := by
    rw [leaves, held]
    exact (sub_lt_self _ positive).ne
  have some_gone : (x.execute a positionId r run db).left ≠ 0 := by
    rw [leaves]
    exact (sub_pos.mpr less).ne'
  cases built : x.built r run with
  | none =>
    unfold BrokerExitExecutor.execute at some_left
    rw [built] at some_left
    exact some_left rfl
  | some made =>
    obtain ⟨t, m, order⟩ := made
    obtain ⟨named, _, _⟩ := part.built built
    unfold BrokerExitExecutor.execute at some_left some_gone leaves reduced
    rw [built] at some_left some_gone leaves reduced
    dsimp only at some_left some_gone leaves reduced
    rw [named] at some_left some_gone leaves reduced
    cases begun : (closeBegin run.sentAt positionId).answer order with
    | error e =>
      rw [begun] at some_left
      exact some_left rfl
    | ok _ =>
      rw [begun] at some_left some_gone leaves
      rcases left_cases completes positionId order.quantity run.sentAt with same | gone | unaccepted
      · exact some_left same
      · exact some_gone gone
      · have kept := @afterClose_quantity row position decision _
          (@settle_unconfirmed order
            { run with answer := a.closePosition positionId order.quantity run.sentAt }
            positionId db unaccepted)
        rw [begun] at reduced
        linarith

end Part

def heldBroker : FakeBroker :=
  { state := .connected
    quotes := fun _ => some ⟨1, 1, 0⟩
    failNext := none
    unknownNext := false
    positions := [⟨"fake-pos-1", "EURUSD", "long", 1, 1⟩]
    deals := []
    balance := 100000
    nextId := 2 }

def heldRow : PositionRow := plainRow "fake-pos-1" 1 none

def tenths : Decimal := ⟨false, 3, -1⟩

def tenthsDecision : ExitDecision :=
  { reason := .partialTakeProfit, detail := [], referencePrice := 1, decidedAt := 0,
    quantity := some tenths.value }

def tenthsRequest : CloseRequest :=
  { closeAll with brokerPositionId := some "fake-pos-1", wanted := some tenths }

theorem tenthsRequest_partOf : tenthsRequest.PartOf heldRow "fake-pos-1" tenths :=
  { quantity := by decide +kernel
    asked := rfl
    named := rfl
    positive := by decide +kernel
    part := by decide +kernel }

def tenthsExecuted : Executed :=
  demoExecutor.execute (.fake heldBroker) "fake-pos-1" tenthsRequest
    (closeRunOf (.ok ticketedClose)) ticketedDatabase

theorem not_closesPart_tenths :
    ¬ ClosesPart tenths.value 1 heldRow
      (heldRow.afterClose (heldRow.view none (some "EURUSD") 0) tenthsDecision
        tenthsExecuted.answer) tenthsExecuted :=
  @not_closesPart demoExecutor (.fake heldBroker) "fake-pos-1" tenthsRequest
    (closeRunOf (.ok ticketedClose)) ticketedDatabase heldRow tenths tenthsRequest_partOf rfl
    True.intro _ _

/-- The simulator holds nothing of the lot any more. -/
theorem not_forall_closesPart :
    ¬ ∀ (x : BrokerExitExecutor) (a : Adapter) (positionId : String) (r : CloseRequest)
      (run : CloseRun) (db : Database) (row : PositionRow) (wanted : Decimal)
      (position : PositionView) (decision : ExitDecision),
      r.PartOf row positionId wanted → a.volume positionId = row.quantity → a.Completes →
        ClosesPart wanted.value (a.volume positionId) row
          (row.afterClose position decision (x.execute a positionId r run db).answer)
          (x.execute a positionId r run db) := by
  intro every
  have closes := every demoExecutor (.fake heldBroker) "fake-pos-1" tenthsRequest
    (closeRunOf (.ok ticketedClose)) ticketedDatabase heldRow tenths
    (heldRow.view none (some "EURUSD") 0) tenthsDecision
    tenthsRequest_partOf rfl True.intro
  have leaves : tenthsExecuted.left = 1 - tenths.value := closes.leaves
  exact absurd leaves (by decide +kernel)

end TradeResearch.Positions
