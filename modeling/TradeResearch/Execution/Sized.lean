import TradeResearch.Execution.System
import TradeResearch.Oms.Create
import TradeResearch.Risk.Engine
import TradeResearch.Sizing.Safe

/-!
# The budget of a bot, and the order it comes to

`_process` of `backend/app/execution/pipeline.py`, from the contract specification to the order. The
amount a bot may risk rides on the signal that was routed to it, sizing turns it into a volume, and
the order has that volume.

* `created` is what a pass makes of a signal.
* `created_eq_go`: an order has the size that was calculated, and the levels of the signal.
* `created_within`: by a fixed risk, it risks no more than the bot's budget, or the default's.
-/

namespace TradeResearch.Execution

open Oms Brokers Risk Symbols

structure BotSignal extends IncomingSignal where
  signalId : String
  stopLoss : Option ℚ
  takeProfit : Option ℚ
  riskAmount : Option ℚ

structure ExecutionPipeline where
  sizingMethod : Sizing.SizingMethod := .fixedRisk
  riskAmount : Option ℚ := none
  riskPercent : Option ℚ := none
  quantity : Option ℚ := none
  equity : Option ℚ := none

def orAmount (first second : Option ℚ) : Option ℚ := first.filter (· ≠ 0) <|> second

def Gate.turnedAway {α : Type} (refused : Outcome) : Exn → Gate α
  | .reconciliationRequired reason => .parks .executionUnknown reason
  | .orderRefused reason => .consumes refused reason
  | e => .raise e

def readSizing (sizing : Sizing.SizingResult) : SizingResult where
  refused := sizing.refused
  volume := sizing.volume
  gap := sizing.gap.getD []

def readVerdict (verdict : Risk.RiskVerdict) : RiskVerdict where
  decision := verdict.decision.name
  reason := verdict.reason
  failed := verdict.failed.map fun c => c.limit.name

structure PassContext where
  spec : ContractSpec
  manager : OrderManager
  engine : RiskEngine
  portfolio : Answer PortfolioState
  /-- `guard_resend`, and the same question asked of the database. -/
  guarded : Except Exn Unit
  seen : List String
  now : Time
  decisionId : String
  orderId : String

namespace ExecutionPipeline

variable (p : ExecutionPipeline) (s : BotSignal) (c : PassContext)

def request : Sizing.SizingRequest where
  method := p.sizingMethod
  spec := c.spec
  quantity := p.quantity
  riskAmount := orAmount s.riskAmount p.riskAmount
  equity := p.equity
  riskPercent := p.riskPercent
  side := some s.side
  entryPrice := s.entryPrice
  stopLoss := s.stopLoss
  takeProfit := s.takeProfit

def sizing : Sizing.SizingResult := Sizing.calculate (p.request s c)

def proposal : OrderProposal where
  symbol := c.spec.internalSymbol
  side := s.side
  mode := c.manager.mode
  volume := (p.sizing s c).volume
  entryPrice := s.entryPrice
  stopLoss := s.stopLoss
  takeProfit := s.takeProfit
  riskAmount := (p.sizing s c).riskActual
  accountId := some s.accountId
  strategyId := s.strategyId
  signalId := some s.signalId
  signalTime := some s.signalTime

def verdict : Answer (Option Approval × RiskVerdict) :=
  c.portfolio.map fun portfolio =>
    ((c.engine.approve (p.proposal s c) portfolio c.now c.seen c.decisionId).map id readVerdict)

def placed (approval : Approval) : Gate ManagedOrder :=
  match c.guarded with
  | .error e => .turnedAway .duplicateSignal e
  | .ok () =>
    let made := (OrderManager.create approval
      ((Caller.pipeline s.toIncomingSignal c.now).createArgs s.accountId c.orderId) c.now).exec
        c.manager
    match made.1 with
    | .error e => .turnedAway .executionRejected e
    | .ok submission =>
      match submission.duplicate, made.2.orders submission.orderId with
      | false, some order => .go order
      | _, _ =>
        .consumes .duplicateSignal
          ((Caller.pipeline s.toIncomingSignal c.now).duplicated submission.orderId)

def created : Gate ManagedOrder :=
  match gateSizing s.toIncomingSignal (.ok true) (.ok (readSizing (p.sizing s c))) with
  | .refuse refusal => .refuse refusal
  | .raise e => .raise e
  | .go () =>
    match gateRisk (p.verdict s c) with
    | .refuse refusal => .refuse refusal
    | .raise e => .raise e
    | .go approval => placed s c approval

end ExecutionPipeline

section Order

variable {p : ExecutionPipeline} {s : BotSignal} {c : PassContext}

theorem approve_of_gateRisk {approval : Approval}
    (passed : gateRisk (p.verdict s c) = .go approval) :
    approval.proposal = p.proposal s c ∧ approval.approvedVolume = (p.sizing s c).volume := by
  unfold gateRisk ExecutionPipeline.verdict at passed
  cases read : c.portfolio with
  | error e =>
    rw [read] at passed
    cases passed
  | ok portfolio =>
    rw [read] at passed
    cases approved : c.engine.approve (p.proposal s c) portfolio c.now c.seen c.decisionId with
    | mk granted verdict =>
      simp only [Except.map, approved, Prod.map] at passed
      cases granted with
      | none => cases passed
      | some granted =>
        cases passed
        unfold RiskEngine.approve at approved
        dsimp only at approved
        split at approved
        · cases approved
          exact ⟨RiskEngine.evaluate_proposal .., rfl⟩
        · cases approved

theorem placed_eq_go {approval : Approval}
    (placed : ExecutionPipeline.placed s c approval = .go order) :
    ∃ volume positive, approval.approvedVolume = some volume ∧
      order = c.manager.newOrder approval
        ((Caller.pipeline s.toIncomingSignal c.now).createArgs s.accountId c.orderId) volume
        positive c.now := by
  unfold ExecutionPipeline.placed at placed
  cases answered : c.guarded with
  | error e =>
    rw [answered] at placed
    cases e <;> cases placed
  | ok clear =>
    rw [answered] at placed
    generalize (Caller.pipeline s.toIncomingSignal c.now).createArgs s.accountId c.orderId = args
      at placed ⊢
    generalize made : (OrderManager.create approval args c.now).exec c.manager = out at placed
    obtain ⟨answer, m⟩ := out
    cases answer with
    | error e => cases e <;> cases placed
    | ok submission =>
      obtain ⟨id, duplicate⟩ := submission
      dsimp only at placed
      cases duplicate with
      | true => cases placed
      | false =>
        obtain ⟨new, accepts⟩ := OrderManager.accepts_of_created made
        obtain ⟨volume, positive, approved, ran⟩ := OrderManager.exec_create_of_new accepts new
        rw [made] at ran
        cases ran
        have kept : (c.manager.register
            (c.manager.newOrder approval args volume positive c.now)).orders args.orderId =
            some (c.manager.newOrder approval args volume positive c.now) :=
          Function.update_self ..
        rw [kept] at placed
        cases placed
        exact ⟨volume, positive, approved, rfl⟩

theorem created_eq_go (created : p.created s c = .go order) :
    (p.sizing s c).volume = some order.quantity ∧ order.requestedPrice = s.entryPrice ∧
      order.stopLoss = s.stopLoss := by
  unfold ExecutionPipeline.created at created
  split at created
  · cases created
  · cases created
  · split at created
    · cases created
    · cases created
    · rename_i approval passed
      obtain ⟨proposed, approved⟩ := approve_of_gateRisk passed
      obtain ⟨volume, positive, granted, rfl⟩ := placed_eq_go created
      refine ⟨approved.symm.trans granted, ?_, ?_⟩
      · exact congrArg OrderProposal.entryPrice proposed
      · exact congrArg OrderProposal.stopLoss proposed

theorem orAmount_of_ne_zero {first second : Option ℚ} (asked : first ≠ some 0) :
    orAmount first second = (first <|> second) := by
  unfold orAmount
  cases first with
  | none => rfl
  | some amount =>
    have kept : amount ≠ 0 := fun zero => asked (congrArg some zero)
    simp [Option.filter, kept]

def riskPerUnit (spec : ContractSpec) (entry stop : ℚ) : ℚ :=
  |entry - stop| * (spec.tickValue / spec.tickSize)

def Within (spec : ContractSpec) (tolerance budget : ℚ) (order : ManagedOrder) : Prop :=
  ∃ entry stop, order.requestedPrice = some entry ∧ order.stopLoss = some stop ∧
    order.quantity * riskPerUnit spec entry stop ≤
      budget + tolerance * spec.volumeStep * riskPerUnit spec entry stop

theorem within_of_created (risky : p.sizingMethod ≠ .fixedQuantity)
    (created : p.created s c = .go order) :
    ∃ budget, Sizing.riskBudget (p.request s c) = .ok budget ∧
      Within c.spec stepEpsilon budget order := by
  obtain ⟨volume, price, stop⟩ := created_eq_go created
  obtain ⟨budget, distance, budgeted, measured, risk⟩ :=
    (Sizing.sized_of_sized (Sizing.sized_of_volume volume) volume).risk risky
  refine ⟨budget, budgeted, ?_⟩
  unfold Sizing.sizedDistance at measured
  cases named : (p.request s c).side.mapM Sizing.direction with
  | error gap =>
    rw [named] at measured
    cases measured
  | ok side =>
    rw [named] at measured
    dsimp only at measured
    cases between : Sizing.stopDistance side (p.request s c).entryPrice
        (p.request s c).stopLoss with
    | error gap =>
      rw [between] at measured
      cases measured
    | ok derived =>
      rw [between] at measured
      cases derived with
      | none => cases measured
      | some d =>
        cases measured
        obtain ⟨entry, level, entered, stopped, rfl⟩ := Sizing.stopDistance_eq_some between
        exact ⟨entry, level, price.trans entered, stop.trans stopped, risk⟩

/-- By a fixed risk, an order is within the budget of the bot where that is set, and within the
default where it is not. -/
theorem created_within (fixed : p.sizingMethod = .fixedRisk) (asked : s.riskAmount ≠ some 0)
    (created : p.created s c = .go order) :
    ∃ budget, (s.riskAmount <|> p.riskAmount) = some budget ∧ 0 < budget ∧
      Within c.spec stepEpsilon budget order := by
  have risky : p.sizingMethod ≠ .fixedQuantity := by
    rw [fixed]
    decide
  obtain ⟨budget, budgeted, within⟩ := within_of_created risky created
  obtain ⟨given, positive⟩ := Sizing.riskBudget_of_fixed fixed budgeted
  exact ⟨budget, (orAmount_of_ne_zero asked).symm.trans given, positive, within⟩

end Order

def unitSignal (riskAmount : Option ℚ) : BotSignal where
  signalKey := "s-1"
  source := "strategy"
  symbol := "EURUSD"
  side := "buy"
  signalTime := 0
  aware := true
  accountId := "a-1"
  mode := "paper"
  strategyId := some "trend"
  entryPrice := some 2
  authStrength := "strong"
  signalId := "1"
  stopLoss := some 1
  takeProfit := none
  riskAmount := riskAmount

def lotSpec : ContractSpec := { Sizing.contract 1 10 1 0 with tickSize := 1 / 100000 }

def clearPass : PassContext where
  spec := lotSpec
  manager := OrderManager.fresh .paper none
  engine := { limits := RiskLimits.default, switches := {} }
  portfolio := .ok {}
  guarded := .ok ()
  seen := []
  now := 1
  decisionId := "d-1"
  orderId := "o-1"

def Gate.value? {α : Type} : Gate α → Option α
  | .go a => some a
  | _ => none

theorem Gate.value?_eq_some {α : Type} {gate : Gate α} {a : α} (is : gate.value? = some a) :
    gate = .go a := by
  cases gate with
  | refuse refusal | raise e => cases is
  | go b => exact congrArg Gate.go (Option.some.inj is)

def levels (o : ManagedOrder) : ℚ × Option ℚ × Option ℚ :=
  (o.quantity, o.requestedPrice, o.stopLoss)

/-- A budget that pays for two lots buys two. -/
theorem created_within_lots : ∃ order,
    ({} : ExecutionPipeline).created (unitSignal (some 200000)) clearPass = .go order ∧
      ∃ budget, ((unitSignal (some 200000)).riskAmount <|> none) = some budget ∧ 0 < budget ∧
        Within clearPass.spec stepEpsilon budget order := by
  have made : (({} : ExecutionPipeline).created (unitSignal (some 200000)) clearPass).value?.map
      levels = some (2, some 2, some 1) := by
    decide +kernel
  obtain ⟨order, is, -⟩ := Option.map_eq_some_iff.mp made
  exact ⟨order, Gate.value?_eq_some is,
    created_within rfl (by decide) (Gate.value?_eq_some is)⟩

def Budgeted (p : ExecutionPipeline) (s : BotSignal) (c : PassContext) : Prop :=
  ∀ order, p.created s c = .go order → ∀ budget, s.riskAmount = some budget →
    Within c.spec 0 budget order

theorem not_budgeted {p : ExecutionPipeline} {budget : ℚ}
    (made : (p.created (unitSignal (some budget)) clearPass).value?.map levels =
      some (2, some 2, some 1)) (less : budget < 200000) :
    ¬ Budgeted p (unitSignal (some budget)) clearPass := by
  intro budgeted
  obtain ⟨order, is, same⟩ := Option.map_eq_some_iff.mp made
  obtain ⟨entry, stop, entered, stopped, risk⟩ :=
    budgeted order (Gate.value?_eq_some is) budget rfl
  obtain ⟨quantity, price, level⟩ : order.quantity = 2 ∧ order.requestedPrice = some 2 ∧
      order.stopLoss = some 1 := by
    simpa [levels] using same
  cases Option.some.inj (entered.symm.trans price)
  cases Option.some.inj (stopped.symm.trans level)
  have unit : riskPerUnit clearPass.spec 2 1 = 100000 := by decide +kernel
  rw [quantity, unit] at risk
  linarith

/-- A budget a hair short of two lots buys two; a budget of zero is sized by the default; and a
share of the equity is sized whatever the budget. -/
theorem not_forall_budgeted :
    ¬ Budgeted {} (unitSignal (some (1999999999 / 10000))) clearPass ∧
      ¬ Budgeted { riskAmount := some 200000 } (unitSignal (some 0)) clearPass ∧
      ¬ Budgeted { sizingMethod := .percentEquity, equity := some 20000000, riskPercent := some 1 }
        (unitSignal (some 5)) clearPass := by
  refine ⟨not_budgeted (by decide +kernel) (by norm_num),
    not_budgeted (by decide +kernel) (by norm_num),
    not_budgeted (by decide +kernel) (by norm_num)⟩

end TradeResearch.Execution
