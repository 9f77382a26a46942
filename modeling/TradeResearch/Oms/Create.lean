import TradeResearch.Oms.Effects

/-!
# Creating an order

`create` answers an intent it knows with the order it has, whatever its state, and otherwise makes
a new one when its checks pass.

* `OrderManager.Accepts` collects the checks that are not about the intent.
* `exec_create_of_known` and `exec_create_of_new` are what `create` does once they pass.
* `accepts_of_created`: nothing else gets a fresh order.
* `guardResend_ok_iff` says which intents `guard_resend` lets pass.
-/

namespace TradeResearch.Oms.OrderManager

open Risk

structure Accepts (m : OrderManager) (approval : Approval) (args : CreateArgs) (now : Time) :
    Prop where
  approved : approval.approved = true
  standing : approval.expired now = false
  mode : approval.proposal.mode = m.mode
  orderType : args.orderType ∈ ["market", "limit", "stop"]
  priced : ¬ (args.orderType ∈ ["limit", "stop"] ∧ approval.proposal.entryPrice.isNone = true)
  timeInForce : args.timeInForce ∈ ["gtc", "ioc", "fok", "day"]
  binds : approval.bindsOrder args.accountId args.orderType m.mode = true
  volume : ∃ volume, approval.approvedVolume = some volume ∧ 0 < volume

section Create

variable {m : OrderManager} {approval : Approval} {args : CreateArgs}

theorem exec_validateApproval_of_standing {σ : Type} (approved : approval.approved = true)
    (standing : approval.expired now = false) (s : σ) :
    (ManagedOrder.validateApproval approval now).exec s = (.ok (), s) := by
  unfold ManagedOrder.validateApproval
  rw [Method.exec_guard, if_neg (by simp [approved]), if_neg (by simp [standing])]
  rfl

theorem exec_validateBinding_of_binds {σ : Type} {accountId orderType : String} {mode : Mode}
    (binds : approval.bindsOrder accountId orderType mode = true) (s : σ) :
    (ManagedOrder.validateBinding approval accountId orderType mode).exec s = (.ok (), s) := by
  unfold ManagedOrder.validateBinding
  rw [if_pos binds]
  rfl

theorem exec_create_of_known {existing : ManagedOrder} (approved : approval.approved = true)
    (standing : approval.expired now = false) (known : m.orderFor args.intentId = some existing) :
    (create approval args now).exec m = (.ok ⟨existing.id, true⟩, m) := by
  unfold create
  rw [Method.exec_bind_ok (exec_validateApproval_of_standing approved standing m),
    Method.exec_get_bind, known]
  rfl

theorem exec_create_of_new (accepts : m.Accepts approval args now)
    (new : m.orderFor args.intentId = none) :
    ∃ (volume : ℚ) (positive : 0 < volume), approval.approvedVolume = some volume ∧
      (create approval args now).exec m =
        (.ok ⟨args.orderId, false⟩,
          m.register (m.newOrder approval args volume positive now)) := by
  obtain ⟨volume, approved, positive⟩ := accepts.volume
  refine ⟨volume, positive, approved, ?_⟩
  unfold create
  rw [Method.exec_bind_ok (exec_validateApproval_of_standing accepts.approved accepts.standing m),
    Method.exec_get_bind, new]
  rw [Method.exec_guard, if_neg (not_not.mpr accepts.mode), Method.exec_guard,
    if_neg (not_not.mpr accepts.orderType), Method.exec_guard, if_neg accepts.priced,
    Method.exec_guard, if_neg (not_not.mpr accepts.timeInForce),
    Method.exec_bind_ok (exec_validateBinding_of_binds accepts.binds m), approved]
  simp only [dif_pos positive]
  rfl

theorem not_of_guard_ok {σ α : Type} {c : Prop} [Decidable c] {e : Exn} {x : Except Exn α × σ}
    {s t : σ} {a : α} (passed : (if c then (.error e, s) else x) = (.ok a, t)) :
    ¬ c ∧ x = (.ok a, t) := by
  split at passed
  case isTrue => cases passed
  case isFalse clear => exact ⟨clear, passed⟩

theorem standing_of_validated {σ : Type} {s : σ}
    (passed : (ManagedOrder.validateApproval approval now).exec s = (.ok (), s)) :
    approval.approved = true ∧ approval.expired now = false := by
  unfold ManagedOrder.validateApproval at passed
  rw [Method.exec_guard] at passed
  obtain ⟨approved, passed⟩ := not_of_guard_ok passed
  refine ⟨by simpa using approved, ?_⟩
  by_contra expired
  rw [if_pos (by simpa using expired)] at passed
  cases passed

theorem binds_of_validated {σ : Type} {s : σ} {accountId orderType : String} {mode : Mode}
    (passed : (ManagedOrder.validateBinding approval accountId orderType mode).exec s =
      (.ok (), s)) : approval.bindsOrder accountId orderType mode = true := by
  unfold ManagedOrder.validateBinding at passed
  by_contra unbound
  rw [if_neg unbound] at passed
  cases passed

theorem accepts_of_created {m' : OrderManager} {id : String}
    (created : (create approval args now).exec m = (.ok ⟨id, false⟩, m')) :
    m.orderFor args.intentId = none ∧ m.Accepts approval args now := by
  unfold create at created
  rcases exec_validateApproval approval now m with ⟨e, raised⟩ | validated
  · rw [Method.exec_bind_error raised] at created
    cases created
  obtain ⟨approved, standing⟩ := standing_of_validated validated
  rw [Method.exec_bind_ok validated, Method.exec_get_bind] at created
  cases known : m.orderFor args.intentId with
  | some existing =>
    rw [known] at created
    cases created
  | none =>
    rw [known] at created
    rw [Method.exec_guard] at created
    obtain ⟨mode, created⟩ := not_of_guard_ok created
    rw [Method.exec_guard] at created
    obtain ⟨orderType, created⟩ := not_of_guard_ok created
    rw [Method.exec_guard] at created
    obtain ⟨priced, created⟩ := not_of_guard_ok created
    rw [Method.exec_guard] at created
    obtain ⟨timeInForce, created⟩ := not_of_guard_ok created
    rcases exec_validateBinding approval args.accountId args.orderType m.mode m with
      ⟨e, raised⟩ | bound
    · rw [Method.exec_bind_error raised] at created
      cases created
    rw [Method.exec_bind_ok bound] at created
    refine ⟨rfl, approved, standing, not_not.mp mode, not_not.mp orderType, priced,
      not_not.mp timeInForce, binds_of_validated bound, ?_⟩
    cases volume : approval.approvedVolume with
    | none =>
      rw [volume] at created
      cases created
    | some volume' =>
      rw [volume] at created
      by_cases positive : 0 < volume'
      · exact ⟨volume', rfl, positive⟩
      · simp only [dif_neg positive] at created
        cases created

theorem guardResend_ok_iff {intentId : String} {previous : ManagedOrder}
    (known : m.orderFor intentId = some previous) :
    m.guardResend intentId = .ok () ↔ previous.status = .failed := by
  unfold guardResend ManagedOrder.needsReconciliation ManagedOrder.terminal
  rw [known]
  dsimp only
  generalize previous.status = status
  cases status with
  | failed =>
    simp [OrderStatus.needsReconciliation, OrderStatus.terminal, OrderStatus.canResend]
  | _ =>
    simp [OrderStatus.needsReconciliation, OrderStatus.terminal, OrderStatus.canResend]

theorem orderFor_register (o : ManagedOrder) :
    (m.register o).orderFor o.clientOrderId = some o := by
  unfold orderFor register put
  simp

end Create

end TradeResearch.Oms.OrderManager
