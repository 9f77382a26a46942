import TradeResearch.Execution.Store
import TradeResearch.Oms.Calls
import TradeResearch.Oms.Create

/-!
# One order for one intent

`failed` is the one state `guard_resend` lets a further order follow. `create` does not ask it: it
looks the intent up and hands back the order it finds, whatever the order's state, and the table
has one row for an intent. So a retry is a new intent, as the durable guard says.

* `OrdersTable.persist_ok_iff` says when the table takes a new order.
* `one_order_per_intent` puts the two guards, `create` and the table together.
-/

namespace TradeResearch.Execution

open Oms Risk

theorem OrdersTable.mem_intents_iff {t : OrdersTable} {intentId : String} :
    intentId ∈ t.rows.map OrderRow.intentId ↔ t.orderForIntent intentId ≠ none := by
  rw [Ne, OrdersTable.orderForIntent_eq_none_iff, List.mem_map]
  push Not
  rfl

theorem OrdersTable.persist_ok_iff {t : OrdersTable} {o : ManagedOrder}
    (fresh : o.id ∉ t.rows.map OrderRow.id) :
    (∃ t', t.persist o = .ok t') ↔ t.orderForIntent o.clientOrderId = none := by
  unfold OrdersTable.persist
  rw [dif_neg fresh]
  by_cases intent : o.clientOrderId ∈ t.rows.map OrderRow.intentId
  · rw [dif_pos intent]
    refine iff_of_false ?_ (OrdersTable.mem_intents_iff.mp intent)
    rintro ⟨t', written⟩
    cases written
  · rw [dif_neg intent]
    exact iff_of_true ⟨_, rfl⟩ (not_not.mp (mt OrdersTable.mem_intents_iff.mpr intent))

/-- One intent has one order. The intent of an order in any state, `failed` included, gets that
order back as a duplicate; a new intent gets a fresh order, which the table takes unless it has a
row of the intent; and the durable guards turn every intent with a row away. -/
theorem one_order_per_intent (m : OrderManager) (t : OrdersTable) (approval : Approval)
    (args : CreateArgs) (now : Time) (accepts : m.Accepts approval args now) :
    (∀ previous, m.orderFor args.intentId = some previous →
      (m.guardResend args.intentId = .ok () ↔ previous.status = .failed) ∧
        (OrderManager.create approval args now).exec m = (.ok ⟨previous.id, true⟩, m)) ∧
      (m.orderFor args.intentId = none →
        m.guardResend args.intentId = .ok () ∧
          ∃ o, (OrderManager.create approval args now).exec m =
              (.ok ⟨args.orderId, false⟩, m.register o) ∧
            (m.register o).orderFor args.intentId = some o ∧ o.status = .intent ∧
            (args.orderId ∉ t.rows.map OrderRow.id →
              ((∃ t', t.persist o = .ok t') ↔ t.orderForIntent args.intentId = none))) ∧
      ∀ row, t.orderForIntent args.intentId = some row →
        guardResendDurably args.intentId (some (priorFrom row)) ≠ .ok () ∧
          guardRecorded args.intentId (some row) ≠ .ok () := by
  refine ⟨fun previous known => ⟨?_, ?_⟩, fun new => ⟨?_, ?_⟩, fun row _ => ⟨?_, ?_⟩⟩
  · exact OrderManager.guardResend_ok_iff known
  · exact OrderManager.exec_create_of_known accepts.approved accepts.standing known
  · unfold OrderManager.guardResend
    rw [new]
  · obtain ⟨volume, positive, _, created⟩ := OrderManager.exec_create_of_new accepts new
    let o := m.newOrder approval args volume positive now
    refine ⟨o, created, OrderManager.orderFor_register o, rfl, fun fresh => ?_⟩
    exact OrdersTable.persist_ok_iff (o := o) fresh
  · exact mt guardResendDurably_ok_iff.mp (Option.some_ne_none _)
  · exact mt guardRecorded_ok_iff.mp (Option.some_ne_none _)

def unsentManager : OrderManager :=
  let answer : Exn := .brokerError "BrokerError" (Text.lit "not connected")
  (OrderManager.fresh .demo none).register
    ((ManagedOrder.submit 0 (.error answer) (.error answer)).left (plainOrder 1 oneLot_pos))

theorem unsentManager_accepts :
    unsentManager.Accepts (plainApproval "EURUSD" "buy" 1) (plainArgs "intent" "retry") 0 := by
  refine ⟨rfl, rfl, rfl, ?_, ?_, ?_, rfl, 1, rfl, one_pos⟩ <;> decide

/-- The retry of the failed order gets the failed order back. -/
theorem one_order_unsentManager :
    (OrderManager.create (plainApproval "EURUSD" "buy" 1) (plainArgs "intent" "retry") 0).exec
      unsentManager = (.ok ⟨"order", true⟩, unsentManager) :=
  ((one_order_per_intent unsentManager .empty (plainApproval "EURUSD" "buy" 1)
    (plainArgs "intent" "retry") 0 unsentManager_accepts).1 _ rfl).2

/-- A guard that lets an intent pass does not promise a fresh order for it. -/
theorem not_forall_resendable :
    ¬ ∀ (m : OrderManager) (approval : Approval) (args : CreateArgs) (now : Time)
        (previous : ManagedOrder), m.orderFor args.intentId = some previous →
      previous.status = .failed → m.guardResend args.intentId = .ok () →
      m.Accepts approval args now →
      ∃ after, (OrderManager.create approval args now).exec m =
        (.ok ⟨args.orderId, false⟩, after) := by
  intro resendable
  have known : unsentManager.orderFor "intent" = some _ := rfl
  obtain ⟨after, created⟩ := resendable unsentManager (plainApproval "EURUSD" "buy" 1)
    (plainArgs "intent" "retry") 0 _ known rfl
    ((OrderManager.guardResend_ok_iff known).mpr rfl) unsentManager_accepts
  have found := @OrderManager.exec_create_of_known unsentManager (plainApproval "EURUSD" "buy" 1)
    (plainArgs "intent" "retry") 0 _ rfl rfl known
  have same := created.symm.trans found
  have fresh : false = true := congrArg
    (fun out => (out.1.map Submission.duplicate).toOption.getD false) same
  cases fresh

end TradeResearch.Execution
