import TradeResearch.Oms.Calls
import TradeResearch.Oms.Create

/-!
# What a modification checks of its approval

`modify` takes the new protective levels beside the approval. It asks the approval for the order's
account, type, mode and volume; the levels, the symbol and the side of the proposal it was issued
for are read by nobody. `create` takes all of these from the proposal itself.

* `ModifyAdmits` collects the checks of `modify`; `modifyLevels_ok_iff` is when a call succeeds.
* `FollowsApproval` says that a successful modification has sent and stored the proposal's levels,
  for an order of the proposal's symbol and side, and `followsApproval_iff` is when it does.
-/

namespace TradeResearch.Risk.Approval

def ownFields (a : Approval) : BoundFields :=
  a.boundFields (a.proposal.accountId.getD "") "market" a.proposal.mode

end TradeResearch.Risk.Approval

namespace TradeResearch.Oms

open Brokers Risk

namespace ManagedOrder

section Modify

variable {o : ManagedOrder} {now : Time} {approval : Approval} {stopLoss takeProfit : Option ℚ}

structure ModifyAdmits (o : ManagedOrder) (now : Time) (approval : Approval) : Prop where
  active : o.terminal = false
  settled : o.needsReconciliation = false
  approved : approval.approved = true
  standing : approval.expired now = false
  binds : approval.bindsOrder o.accountId o.orderType o.mode = true
  volume : approval.approvedVolume = some o.quantity
  known : o.brokerOrderId.isSome = true

def Accepted (answer : Answer OrderResult) : Prop :=
  ∃ result, answer = .ok result ∧ result.status = .accepted

theorem exec_validateApproval_of_not {σ : Type}
    (refused : ¬ (approval.approved = true ∧ approval.expired now = false)) (s : σ) :
    ∃ e, (validateApproval approval now).exec s = (.error e, s) := by
  unfold validateApproval
  by_cases approved : approval.approved = true
  · rw [if_neg (by simp [approved])]
    have expired : approval.expired now = true := by
      by_contra standing
      exact refused ⟨approved, by simpa using standing⟩
    rw [if_pos expired]
    exact ⟨_, rfl⟩
  · rw [if_pos (by simpa using approved)]
    exact ⟨_, rfl⟩

theorem exec_validateBinding_of_not {σ : Type} {accountId orderType : String} {mode : Mode}
    (refused : ¬ approval.bindsOrder accountId orderType mode = true) (s : σ) :
    ∃ e, (validateBinding approval accountId orderType mode).exec s = (.error e, s) := by
  unfold validateBinding
  rw [if_neg refused]
  exact ⟨_, rfl⟩

theorem exec_modifyBegin (o : ManagedOrder) (now : Time) (approval : Approval) :
    o.ModifyAdmits now approval ∧ (modifyBegin now approval).exec o = (.ok (), o) ∨
      ¬ o.ModifyAdmits now approval ∧ ∃ e, (modifyBegin now approval).exec o = (.error e, o) := by
  unfold modifyBegin
  rw [Method.exec_get_bind, Method.exec_guard]
  by_cases terminal : o.terminal = true
  · rw [if_pos terminal]
    refine .inr ⟨fun admits => ?_, _, rfl⟩
    exact absurd (admits.active.symm.trans terminal) (by simp)
  rw [if_neg terminal, Method.exec_guard]
  by_cases unsettled : o.needsReconciliation = true
  · rw [if_pos unsettled]
    refine .inr ⟨fun admits => ?_, _, rfl⟩
    exact absurd (admits.settled.symm.trans unsettled) (by simp)
  rw [if_neg unsettled]
  by_cases live : approval.approved = true ∧ approval.expired now = false
  swap
  · obtain ⟨e, raised⟩ := exec_validateApproval_of_not live o
    rw [Method.exec_bind_error raised]
    exact .inr ⟨fun admits => live ⟨admits.approved, admits.standing⟩, e, rfl⟩
  rw [Method.exec_bind_ok (OrderManager.exec_validateApproval_of_standing live.1 live.2 o)]
  by_cases binds : approval.bindsOrder o.accountId o.orderType o.mode = true
  swap
  · obtain ⟨e, raised⟩ := exec_validateBinding_of_not binds o
    rw [Method.exec_bind_error raised]
    exact .inr ⟨fun admits => binds admits.binds, e, rfl⟩
  rw [Method.exec_bind_ok (OrderManager.exec_validateBinding_of_binds binds o), Method.exec_guard]
  by_cases resized : approval.approvedVolume ≠ some o.quantity
  · rw [if_pos resized]
    exact .inr ⟨fun admits => resized admits.volume, _, rfl⟩
  rw [if_neg resized]
  by_cases unknown : o.brokerOrderId.isNone = true
  · rw [if_pos unknown]
    refine .inr ⟨fun admits => ?_, _, rfl⟩
    have known := admits.known
    rw [Option.isNone_iff_eq_none.mp unknown] at known
    cases known
  · rw [if_neg unknown]
    refine .inl ⟨⟨by simpa using terminal, by simpa using unsettled, live.1, live.2, binds,
      not_not.mp resized, by simpa [Option.isSome_iff_ne_none] using unknown⟩, rfl⟩

theorem exec_modifyAnswer (o : ManagedOrder) (now : Time) (approval : Approval)
    (stopLoss takeProfit : Option ℚ) (answer : Answer OrderResult) :
    (∃ result, answer = .ok result ∧ result.status = .accepted ∧
      (modifyAnswer now approval stopLoss takeProfit answer).exec o =
        (.ok (), o.modified now approval stopLoss takeProfit result)) ∨
      ¬ Accepted answer ∧
        ∃ e o', (modifyAnswer now approval stopLoss takeProfit answer).exec o = (.error e, o') := by
  have parks (reason : Text) (e : Exn) : ∃ e' o', (do
      parkUnknown now reason
      throw e : Method Exn ManagedOrder Unit).exec o = (.error e', o') := by
    rw [Method.exec_bind_ok (exec_parkUnknown o now reason)]
    exact ⟨_, _, rfl⟩
  cases answer with
  | error e =>
    refine .inr ⟨(fun ⟨_, answered, _⟩ => by cases answered), ?_⟩
    cases e with
    | brokerError _ _ => exact ⟨_, _, rfl⟩
    | illegalOrderTransition _ _ | fillError _ | orderRefused _ | reconciliationRequired _ =>
        exact parks _ _
    | other _ _ => exact parks _ _
  | ok result =>
    cases verdict : result.status with
    | unknown =>
      refine .inr ⟨?_, ?_⟩
      · rintro ⟨_, answered, accepted⟩
        cases answered
        rw [verdict] at accepted
        cases accepted
      · simp only [modifyAnswer, verdict]
        exact parks _ _
    | rejected =>
      refine .inr ⟨?_, ?_⟩
      · rintro ⟨_, answered, accepted⟩
        cases answered
        rw [verdict] at accepted
        cases accepted
      · simp only [modifyAnswer, verdict]
        exact ⟨_, _, rfl⟩
    | accepted =>
      refine .inl ⟨result, rfl, verdict, ?_⟩
      simp only [modifyAnswer, verdict]
      rfl

theorem modifyLevels_ok_iff :
    (modifyLevels now approval stopLoss takeProfit answer).answer o = .ok () ↔
      o.ModifyAdmits now approval ∧ Accepted answer := by
  unfold modifyLevels Method.answer
  rcases exec_modifyBegin o now approval with ⟨admits, passed⟩ | ⟨refused, e, raised⟩
  · rw [Method.exec_bind_ok passed]
    rcases exec_modifyAnswer o now approval stopLoss takeProfit answer with
      ⟨result, answered, accepted, wrote⟩ | ⟨refused, e, o', raised⟩
    · rw [wrote]
      exact ⟨fun _ => ⟨admits, result, answered, accepted⟩, fun _ => rfl⟩
    · rw [raised]
      exact ⟨(fun returned => by cases returned), fun both => absurd both.2 refused⟩
  · rw [Method.exec_bind_error raised]
    exact ⟨(fun returned => by cases returned), fun both => absurd both.1 refused⟩

theorem modifyLevels_left_of_ok (stopLoss takeProfit : Option ℚ)
    (admits : o.ModifyAdmits now approval) (accepted : Accepted answer) :
    ∃ result, (modifyLevels now approval stopLoss takeProfit answer).left o =
      o.modified now approval stopLoss takeProfit result := by
  unfold modifyLevels Method.left
  rcases exec_modifyBegin o now approval with ⟨-, passed⟩ | ⟨refused, -⟩
  · rw [Method.exec_bind_ok passed]
    rcases exec_modifyAnswer o now approval stopLoss takeProfit answer with
      ⟨result, -, -, wrote⟩ | ⟨refused, -⟩
    · exact ⟨result, by rw [wrote]⟩
    · exact absurd accepted refused
  · exact absurd admits refused

structure ModifyRequest where
  brokerOrderId : String
  stopLoss : Option ℚ
  takeProfit : Option ℚ

def modifySent (o : ManagedOrder) (now : Time) (approval : Approval)
    (stopLoss takeProfit : Option ℚ) : Option ModifyRequest :=
  match (modifyBegin now approval).answer o with
  | .ok _ => o.brokerOrderId.map fun brokerOrderId => { brokerOrderId, stopLoss, takeProfit }
  | .error _ => none

def FollowsApproval (o : ManagedOrder) (now : Time) (approval : Approval)
    (stopLoss takeProfit : Option ℚ) (answer : Answer OrderResult) : Prop :=
  (modifyLevels now approval stopLoss takeProfit answer).answer o = .ok () →
    (∃ sent, o.modifySent now approval stopLoss takeProfit = some sent ∧
      sent.stopLoss = approval.proposal.stopLoss ∧
        sent.takeProfit = approval.proposal.takeProfit) ∧
    ((modifyLevels now approval stopLoss takeProfit answer).left o).stopLoss =
      approval.proposal.stopLoss ∧
    ((modifyLevels now approval stopLoss takeProfit answer).left o).takeProfit =
      approval.proposal.takeProfit ∧
    approval.proposal.symbol = o.symbol ∧ approval.proposal.side = o.side

structure LevelsApproved (o : ManagedOrder) (approval : Approval)
    (stopLoss takeProfit : Option ℚ) : Prop where
  stop : stopLoss = approval.proposal.stopLoss
  target : takeProfit = approval.proposal.takeProfit
  noStop : stopLoss = none → o.stopLoss = none
  noTarget : takeProfit = none → o.takeProfit = none
  symbol : approval.proposal.symbol = o.symbol
  side : approval.proposal.side = o.side

theorem modifySent_of_admits (stopLoss takeProfit : Option ℚ)
    (admits : o.ModifyAdmits now approval) :
    ∃ brokerOrderId, o.modifySent now approval stopLoss takeProfit =
      some { brokerOrderId, stopLoss, takeProfit } := by
  obtain ⟨brokerOrderId, known⟩ := Option.isSome_iff_exists.mp admits.known
  unfold modifySent Method.answer
  rcases exec_modifyBegin o now approval with ⟨-, passed⟩ | ⟨refused, -⟩
  · rw [passed, known]
    exact ⟨brokerOrderId, rfl⟩
  · exact absurd admits refused

theorem or_eq_self_iff {given held : Option ℚ} :
    given.or held = given ↔ (given = none → held = none) := by
  cases given with
  | none | some level => simp

/-- The levels follow the approval exactly where the caller makes them. -/
theorem followsApproval_iff (o : ManagedOrder) (now : Time) (approval : Approval)
    (stopLoss takeProfit : Option ℚ) (answer : Answer OrderResult) :
    o.FollowsApproval now approval stopLoss takeProfit answer ↔
      (o.ModifyAdmits now approval → Accepted answer →
        o.LevelsApproved approval stopLoss takeProfit) := by
  unfold FollowsApproval
  rw [modifyLevels_ok_iff]
  constructor
  · intro follows admits accepted
    obtain ⟨⟨sent, request, sentStop, sentTarget⟩, stop, target, symbol, side⟩ :=
      follows ⟨admits, accepted⟩
    obtain ⟨brokerOrderId, sends⟩ := modifySent_of_admits stopLoss takeProfit admits
    obtain ⟨result, left⟩ := modifyLevels_left_of_ok stopLoss takeProfit admits accepted
    rw [left] at stop target
    rw [sends] at request
    cases request
    have stopStored : stopLoss.or o.stopLoss = stopLoss := stop.trans sentStop.symm
    have targetStored : takeProfit.or o.takeProfit = takeProfit := target.trans sentTarget.symm
    exact ⟨sentStop, sentTarget, or_eq_self_iff.mp stopStored, or_eq_self_iff.mp targetStored,
      symbol, side⟩
  · rintro approved ⟨admits, accepted⟩
    have levels := approved admits accepted
    obtain ⟨brokerOrderId, sends⟩ := modifySent_of_admits stopLoss takeProfit admits
    obtain ⟨result, left⟩ := modifyLevels_left_of_ok stopLoss takeProfit admits accepted
    have stopStored : stopLoss.or o.stopLoss = stopLoss := or_eq_self_iff.mpr levels.noStop
    have targetStored : takeProfit.or o.takeProfit = takeProfit :=
      or_eq_self_iff.mpr levels.noTarget
    rw [left]
    exact ⟨⟨_, sends, levels.stop, levels.target⟩, stopStored.trans levels.stop,
      targetStored.trans levels.target, levels.symbol, levels.side⟩

end Modify

def workedOrder : ManagedOrder :=
  { plainOrder 1 oneLot_pos with status := .accepted, brokerOrderId := some "B-1" }

def stopApproval : Approval :=
  let plain := plainApproval "EURUSD" "buy" 1
  let approval := { plain with
    proposal := { plain.proposal with stopLoss := some (21 / 20) }
    expiresAt := some 30 }
  { approval with requestHash := some approval.ownFields }

/-- Another stop than the approved one is sent, and stored. -/
theorem not_forall_followsApproval :
    ¬ ∀ (o : ManagedOrder) (now : Time) (approval : Approval) (stopLoss takeProfit : Option ℚ)
        (answer : Answer OrderResult),
      o.FollowsApproval now approval stopLoss takeProfit answer := by
  intro all
  have admits : workedOrder.ModifyAdmits 10 stopApproval :=
    { active := rfl
      settled := rfl
      approved := rfl
      standing := by decide +kernel
      binds := by decide +kernel
      volume := rfl
      known := rfl }
  have accepted : Accepted (.ok (OrderResult.bare .accepted [])) := ⟨_, rfl, rfl⟩
  have follows := all workedOrder 10 stopApproval (some (1 / 2)) none
    (.ok (OrderResult.bare .accepted [])) (modifyLevels_ok_iff.mpr ⟨admits, accepted⟩)
  obtain ⟨result, left⟩ := modifyLevels_left_of_ok (some (1 / 2)) none admits accepted
  have stored : some (1 / 2 : ℚ) = some (21 / 20) := by
    have held := follows.2.1
    rw [left] at held
    exact held
  exact absurd (Option.some.inj stored) (by norm_num)

end ManagedOrder

end TradeResearch.Oms
