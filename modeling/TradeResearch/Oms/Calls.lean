import TradeResearch.Lib.Run
import TradeResearch.Oms.Effects

/-!
# Sequences of calls on a manager

`OrderCall` is one awaited method of `OrderManager` on one of its orders, with every answer the
venue gave it, and `OrderManager.step` takes one event: an order created, or a call on an order. A
call that raises has still been made, and the sequence goes on from what it left. Order ids are
drawn by `uuid4`, so a creation under an id in use is no event.
-/

namespace TradeResearch.Oms

open Brokers Risk

inductive OrderCall where
  | submit (now : Time) (spec : Answer (Option SymbolInfo)) (answer : Answer OrderResult)
  | close (now : Time) (brokerPositionId : String) (answer : Answer OrderResult)
  | report (now : Time) (quantity price : Figure) (deal : Option String) (commission swap : ℚ)
      (fillSource : String)
  | cancel (now : Time) (reason : Text) (answer : Answer OrderResult)
  | modify (now : Time) (approval : Approval) (stopLoss takeProfit : Option ℚ)
      (answer : Answer OrderResult)
  | reconcile (now : Time) (openOrders : Answer (List BrokerOrder))
      (positions : Answer (List BrokerPosition))
  | expire (now : Time)

def OrderCall.body : OrderCall → Method Exn ManagedOrder Unit
  | submit now spec answer => ManagedOrder.submit now spec answer
  | close now brokerPositionId answer => ManagedOrder.close now brokerPositionId answer
  | report now quantity price deal commission swap fillSource =>
    discard (ManagedOrder.applyExecutionReport now quantity price deal commission swap fillSource)
  | cancel now reason answer => ManagedOrder.cancel now reason answer
  | modify now approval stopLoss takeProfit answer =>
    ManagedOrder.modifyLevels now approval stopLoss takeProfit answer
  | reconcile now openOrders positions => ManagedOrder.reconcile now openOrders positions
  | expire now => ManagedOrder.expire now

inductive ManagerEvent where
  | create (approval : Approval) (args : CreateArgs) (now : Time)
  | call (id : String) (c : OrderCall)

namespace OrderManager

def step (m : OrderManager) : ManagerEvent → Option OrderManager
  | .create approval args now =>
    if (m.orders args.orderId).isSome then none else some ((create approval args now).left m)
  | .call id c =>
    (m.orders id).map fun o =>
      { m with orders := Function.update m.orders id (some (c.body.left o)) }

@[simp] theorem register_orders (m : OrderManager) (o : ManagedOrder) :
    (m.register o).orders = Function.update m.orders o.id (some o) := rfl

theorem create_left (m : OrderManager) (approval : Approval) (args : CreateArgs) (now : Time) :
    (create approval args now).left m = m ∨
      ∃ volume positive, (create approval args now).left m =
        m.register (m.newOrder approval args volume positive now) := by
  unfold Method.left
  generalize called : (create approval args now).exec m = out
  have outcome := create_cases m approval args now
  rw [called] at outcome
  cases outcome with
  | refused e | duplicate existing known => exact .inl rfl
  | created volume positive fresh => exact .inr ⟨volume, positive, rfl⟩

theorem step_call {m t : OrderManager} {id : String} {c : OrderCall}
    (taken : m.step (.call id c) = some t) :
    ∃ o, m.orders id = some o ∧
      t = { m with orders := Function.update m.orders id (some (c.body.left o)) } := by
  obtain ⟨o, held, same⟩ := Option.map_eq_some_iff.mp taken
  exact ⟨o, held, same.symm⟩

theorem step_create {m t : OrderManager} {approval : Approval} {args : CreateArgs} {now : Time}
    (taken : m.step (.create approval args now) = some t) :
    m.orders args.orderId = none ∧ t = (create approval args now).left m := by
  dsimp only [step] at taken
  by_cases used : (m.orders args.orderId).isSome
  · rw [if_pos used] at taken
    exact absurd taken (by simp)
  · rw [if_neg used] at taken
    exact ⟨by simpa using used, (Option.some.inj taken).symm⟩

end OrderManager

def plainApproval (symbol side : String) (volume : ℚ) : Approval :=
  { approved := true
    decision := "approve"
    proposal :=
      { symbol, side, mode := .demo, volume := some volume, entryPrice := none, stopLoss := none,
        takeProfit := none, accountId := some "account", strategyId := none, signalId := none }
    approvedVolume := some volume
    approvedAt := 0
    decisionId := "decision"
    requestHash := none
    expiresAt := none }

def plainArgs (intentId orderId : String) : CreateArgs :=
  { intentId, accountId := "account", orderId, orderType := "market", timeInForce := "gtc",
    botId := none, expiresAt := none }

def plainOrder (volume : ℚ) (positive : 0 < volume) : ManagedOrder :=
  (OrderManager.fresh .demo none).newOrder (plainApproval "EURUSD" "buy" volume)
    (plainArgs "intent" "order") volume positive 0

theorem oneLot_pos : (0 : ℚ) < 1 := one_pos

def plainSymbol (symbol : String) : SymbolInfo :=
  { symbol, volumeMin := none, volumeMax := none, volumeStep := none }

def plainPosition (positionId symbol side : String) (volume price : ℚ) : BrokerPosition :=
  { positionId, symbol, side, volume := .finite volume, entryPrice := .finite price,
    openedAt := 1, stopLoss := none, takeProfit := none, magic := none }

end TradeResearch.Oms
