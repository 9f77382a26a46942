import TradeResearch.Lib.Decimal
import TradeResearch.Oms.Create
import TradeResearch.Positions.Ingest
import TradeResearch.Risk.Engine

/-!
# Closing a position at the venue

`BrokerExitExecutor.close` of `backend/app/positions/broker_executor.py`, cut where it awaits: what
it checks before it asks for the account's lock, what it creates under the lock, and how it reads
the order the venue's answer left. The order is recorded before the send and after it, and a
recording that fails is passed over.

* `CloseRequest.prepare` ends in a `CloseTicket` or in an outcome, and `CloseTicket.build` in a new
  order or in an outcome.
* `CloseRun.settle` takes a new order through the send and both recordings to `closeOutcome`.
* `BrokerExitExecutor.built` is the order a request ends up with, where it ends up with one.
-/

namespace TradeResearch.Positions

open Oms Brokers Risk Execution

inductive CloseStatus where
  | confirmed
  | rejected
  | unknown
  deriving DecidableEq

structure CloseOutcome where
  status : CloseStatus
  detail : Text
  fillPrice : Option ℚ := none
  closedAt : Option Time := none
  brokerDealId : Option String := none
  fillSource : String := "unknown"
  realizedPnl : Option ℚ := none

namespace CloseOutcome

def refused (detail : Text) : CloseOutcome :=
  { status := .rejected, detail, fillSource := "none" }

def unclear (detail : Text) : CloseOutcome :=
  { status := .unknown, detail := detail.take 300, fillSource := "none" }

end CloseOutcome

structure CloseRequest where
  positionId : String
  symbol : String
  side : Side
  quantity : Decimal
  brokerPositionId : Option String
  accountId : Option String
  strategyVersionId : Option String
  /-- `decision.quantity`. -/
  wanted : Option Decimal
  referencePrice : ℚ

structure BrokerExitExecutor where
  managers : String → Option OrderManager
  mode : Mode
  risk : RiskEngine

structure CloseTicket where
  positionId : String
  accountId : String
  brokerPositionId : String
  volume : Decimal
  approval : Approval

namespace CloseRequest

def volume (r : CloseRequest) : Option Decimal :=
  match r.wanted with
  | none => if r.quantity.value ≤ 0 then none else some r.quantity
  | some wanted =>
    if wanted.value ≤ 0 ∨ r.quantity.value < wanted.value then none else some wanted

def proposal (r : CloseRequest) (mode : Mode) (accountId : String) (volume : Decimal) :
    OrderProposal :=
  { symbol := r.symbol
    side := if r.side = .long then "sell" else "buy"
    mode
    volume := some volume.value
    entryPrice := some r.referencePrice
    stopLoss := none
    takeProfit := none
    accountId := some accountId
    strategyId := r.strategyVersionId
    signalId := none }

def noManager (accountId : String) : Text :=
  Text.lit (s!"no order manager is registered for account {accountId}. An adapter is " ++
    "registered by an operator, not by the API booting, so this is the " ++
    "expected state of a deployment that has not been pointed at a venue")

def excess (r : CloseRequest) : Text :=
  let wanted := (r.wanted.map Decimal.text).getD "None"
  Text.lit (s!"a close of {wanted} exceeds the " ++
    s!"{r.quantity.text} open on {r.symbol}; refusing rather than clamping, because the " ++
    "difference is a position size nobody chose")

def prepare (r : CloseRequest) (x : BrokerExitExecutor) (now : Time) (decisionId : String) :
    Except CloseOutcome (OrderManager × CloseTicket) :=
  match r.brokerPositionId with
  | none => .error (.unclear
      (Text.lit "the position has no broker id, so the venue cannot be asked about it"))
  | some brokerPositionId =>
    match r.accountId.filter (· ≠ "") with
    | none => .error (.refused
        (Text.lit ("the position names no account, so there is no order manager to route " ++
          "the close through")))
    | some accountId =>
      match x.managers accountId with
      | none => .error (.refused (noManager accountId))
      | some manager =>
        if manager.mode ≠ x.mode then
          .error (.refused
            (Text.lit (s!"the position is {x.mode.name} and the account's manager runs " ++
              s!"{manager.mode.name}; refusing to close in an environment the position is " ++
              "not in")))
        else
          match r.volume with
          | none => .error (.refused r.excess)
          | some volume =>
            if r.symbol = "" then
              .error (.refused
                (Text.lit (s!"position {r.positionId} has no resolved symbol code, so a close " ++
                  "order cannot be built; the venue was not asked")))
            else
              match x.risk.approveClose (r.proposal x.mode accountId volume) {} now decisionId with
              | (none, verdict) => .error (.refused
                  (Text.take 300 (Text.lit "the risk engine refused this close: " ++
                    verdict.reason)))
              | (some approval, _) =>
                .ok (manager,
                  { positionId := r.positionId, accountId, brokerPositionId, volume, approval })

end CloseRequest

namespace CloseTicket

def intentId (t : CloseTicket) : String := s!"close:{t.positionId}:{t.volume.text}"

def args (t : CloseTicket) (orderId : String) : CreateArgs :=
  { intentId := t.intentId, accountId := t.accountId, orderId, orderType := "market",
    timeInForce := "gtc", botId := none, expiresAt := none }

def request (t : CloseTicket) (orderId : String) (now : Time) :
    Method Exn OrderManager (Except CloseOutcome Submission) := do
  let m ← get
  match m.guardResend t.intentId with
  | .error e => throw e
  | .ok () => pure ()
  let submission ← OrderManager.create t.approval (t.args orderId) now
  return .ok submission

def submission (t : CloseTicket) (orderId : String) (now : Time) :
    Method Exn OrderManager (Except CloseOutcome Submission) :=
  tryCatch (t.request orderId now) fun
      | .reconciliationRequired reason => pure (.error (.unclear reason))
      | .orderRefused reason => pure (.error (.refused (reason.take 300)))
      | e => throw e

def duplicated (m : OrderManager) (orderId : String) : Text :=
  let status := ((m.orders orderId).map fun o => o.status.name).getD ""
  Text.lit s!"this close is already order {orderId} in state {status}; it is not sent twice"

def build (t : CloseTicket) (orderId : String) (now : Time) :
    Method Exn OrderManager (Except CloseOutcome String) := do
  match ← t.submission orderId now with
  | .error outcome => return .error outcome
  | .ok submission =>
    if submission.duplicate then
      let m ← get
      return .error (.refused (duplicated m submission.orderId))
    return .ok submission.orderId

end CloseTicket

def closeOutcome (closed : ManagedOrder) (now : Time) : CloseOutcome :=
  match closed.status with
  | .unknown => .unclear
      ((closed.rejectReason.getD []).orElse (Text.lit "the venue's answer was unclear"))
  | .rejected | .failed => .refused
      (Text.take 300
        ((closed.rejectReason.getD []).orElse (Text.lit "the venue refused the close")))
  | .filled =>
    match closed.book.averagePrice with
    | none => .unclear
        (Text.lit ("the venue accepted the close but reported no fill price; a close is " ++
          "not confirmed until the fill is known"))
    | some price =>
      { status := .confirmed
        detail := Text.lit s!"closed at the venue as order {closed.id}"
        fillPrice := some price
        closedAt := some (closed.filledAt.getD now)
        brokerDealId := closed.brokerOrderId
        fillSource := (closed.book.fills.getLast?.map FillRecord.fillSource).getD "broker"
        realizedPnl := closed.book.fills.getLast?.bind FillRecord.realizedPnl }
  | status => .unclear
      (Text.lit (s!"the venue left the close in `{status.name}`; a close is confirmed " ++
        "only on a full fill"))

structure CloseRun where
  preparedAt : Time
  decisionId : String
  lockedAt : Time
  orderId : String
  before : Transaction
  recordedBefore : Recording
  sentAt : Time
  answer : Answer OrderResult
  after : Transaction
  recordedAfter : Recording
  endedAt : Time

def CloseRun.settle (run : CloseRun) (brokerPositionId : String) (order : ManagedOrder)
    (db : Database) : Answer CloseOutcome × ManagedOrder × Database :=
  let db := (db.record run.before order run.recordedBefore).1
  match (ManagedOrder.close run.sentAt brokerPositionId run.answer).exec order with
  | (.error e, order) => (.error e, order, db)
  | (.ok (), closed) =>
    (.ok (closeOutcome closed run.endedAt), closed,
      (db.record run.after closed run.recordedAfter).1)

def BrokerExitExecutor.built (x : BrokerExitExecutor) (r : CloseRequest) (run : CloseRun) :
    Option (CloseTicket × OrderManager × ManagedOrder) := do
  let (m, ticket) ← (r.prepare x run.preparedAt run.decisionId).toOption
  match (ticket.build run.orderId run.lockedAt).exec m with
  | (.ok (.ok id), m) => (m.orders id).map fun order => (ticket, m, order)
  | _ => none

theorem CloseRequest.prepare_ok {r : CloseRequest} {x : BrokerExitExecutor} {now : Time}
    {decisionId : String} {m : OrderManager} {t : CloseTicket}
    (prepared : r.prepare x now decisionId = .ok (m, t)) :
    x.managers t.accountId = some m ∧ m.mode = x.mode ∧ t.positionId = r.positionId ∧
      r.brokerPositionId = some t.brokerPositionId ∧ r.accountId = some t.accountId ∧
      t.accountId ≠ "" ∧ r.volume = some t.volume ∧
      (x.risk.approveClose (r.proposal x.mode t.accountId t.volume) {} now decisionId).1 =
        some t.approval := by
  unfold prepare at prepared
  split at prepared
  case h_1 => cases prepared
  case h_2 brokerPositionId named =>
    split at prepared
    case h_1 => cases prepared
    case h_2 accountId account =>
      rw [Option.filter_eq_some_iff] at account
      split at prepared
      case h_1 => cases prepared
      case h_2 manager registered =>
        split at prepared
        case isTrue => cases prepared
        case isFalse same =>
          split at prepared
          case h_1 => cases prepared
          case h_2 volume found =>
            split at prepared
            case isTrue => cases prepared
            case isFalse =>
              split at prepared
              case h_1 => cases prepared
              case h_2 approval verdict approved =>
                cases prepared
                refine ⟨registered, not_not.mp same, rfl, named, account.1, ?_, found, ?_⟩
                · simpa using account.2
                · rw [approved]

theorem CloseRequest.prepare_accepts {r : CloseRequest} {x : BrokerExitExecutor} {now time : Time}
    {decisionId : String} {m : OrderManager} {t : CloseTicket}
    (prepared : r.prepare x now decisionId = .ok (m, t))
    (standing : t.approval.expired time = false) (orderId : String) :
    m.Accepts t.approval (t.args orderId) time := by
  obtain ⟨_, mode, _, _, _, _, _, approved⟩ := CloseRequest.prepare_ok prepared
  obtain ⟨passed, same, volume, _, ⟨size, sized, positive⟩, binds⟩ :=
    RiskEngine.approveClose_some approved
  have sameMode : t.approval.proposal.mode = m.mode := by
    rw [same]
    exact mode.symm
  refine ⟨passed, standing, sameMode, ?_, ?_, ?_, ?_, size, volume.trans sized, positive⟩
  · show "market" ∈ ["market", "limit", "stop"]
    decide
  · show ¬ ("market" ∈ ["limit", "stop"] ∧ _)
    exact fun limited => absurd limited.1 (by decide)
  · show "gtc" ∈ ["gtc", "ioc", "fok", "day"]
    decide
  · rw [← sameMode, same]
    exact binds t.accountId rfl

namespace CloseTicket

variable (t : CloseTicket) (orderId : String) (now : Time) (m : OrderManager)

theorem exec_build_of_new {m : OrderManager} (new : m.orderFor t.intentId = none)
    (accepts : m.Accepts t.approval (t.args orderId) now) :
    ∃ (volume : ℚ) (positive : 0 < volume), (t.build orderId now).exec m =
      (.ok (.ok orderId),
        m.register (m.newOrder t.approval (t.args orderId) volume positive now)) := by
  obtain ⟨volume, positive, _, created⟩ := OrderManager.exec_create_of_new accepts new
  have passes : m.guardResend t.intentId = .ok () := by
    unfold OrderManager.guardResend
    rw [new]
  have requested : (t.request orderId now).exec m = (.ok (.ok ⟨orderId, false⟩),
      m.register (m.newOrder t.approval (t.args orderId) volume positive now)) := by
    unfold request
    rw [Method.exec_get_bind, passes]
    exact Method.exec_bind_ok created _
  refine ⟨volume, positive, ?_⟩
  unfold build submission
  rw [Method.exec_bind, Method.exec_tryCatch, requested]
  rfl

theorem exec_request_cases :
    (∃ e, (t.request orderId now).exec m = (.error e, m)) ∨
      (∃ id, (t.request orderId now).exec m = (.ok (.ok ⟨id, true⟩), m)) ∨
      (m.orderFor t.intentId = none ∧ m.Accepts t.approval (t.args orderId) now ∧
        ∃ (volume : ℚ) (positive : 0 < volume), t.approval.approvedVolume = some volume ∧
          (t.request orderId now).exec m = (.ok (.ok ⟨orderId, false⟩),
            m.register (m.newOrder t.approval (t.args orderId) volume positive now))) := by
  unfold request
  rw [Method.exec_get_bind]
  cases guarded : m.guardResend t.intentId with
  | error e => exact .inl ⟨e, rfl⟩
  | ok _ =>
    rw [Method.exec_bind]
    generalize called : (OrderManager.create t.approval (t.args orderId) now).exec m = out
    have outcome := OrderManager.create_cases m t.approval (t.args orderId) now
    rw [called] at outcome
    cases outcome with
    | refused e => exact .inl ⟨e, rfl⟩
    | duplicate existing known => exact .inr (.inl ⟨existing.id, rfl⟩)
    | created volume positive fresh =>
      obtain ⟨new, accepts⟩ := OrderManager.accepts_of_created called
      obtain ⟨volume', positive', approved, created⟩ :=
        OrderManager.exec_create_of_new accepts new
      rw [called] at created
      have left : m.register _ = m.register _ := congrArg Prod.snd created
      exact .inr (.inr ⟨new, accepts, volume', positive', approved, by rw [← left]; rfl⟩)

inductive BuildCase (t : CloseTicket) (orderId : String) (now : Time) (m : OrderManager) :
    Except Exn (Except CloseOutcome String) × OrderManager → Prop
  | raised (e : Exn) : BuildCase t orderId now m (.error e, m)
  | refused (outcome : CloseOutcome) : BuildCase t orderId now m (.ok (.error outcome), m)
  | created (new : m.orderFor t.intentId = none)
      (accepts : m.Accepts t.approval (t.args orderId) now) (volume : ℚ) (positive : 0 < volume)
      (approved : t.approval.approvedVolume = some volume) :
    BuildCase t orderId now m
      (.ok (.ok orderId), m.register (m.newOrder t.approval (t.args orderId) volume positive now))

theorem build_cases : BuildCase t orderId now m ((t.build orderId now).exec m) := by
  unfold build submission
  rw [Method.exec_bind, Method.exec_tryCatch]
  rcases t.exec_request_cases orderId now m with
    ⟨e, raised⟩ | ⟨id, duplicate⟩ | ⟨new, accepts, volume, positive, approved, created⟩
  · rw [raised]
    cases e with
    | reconciliationRequired reason | orderRefused reason => exact .refused _
    | illegalOrderTransition current wanted | fillError reason | brokerError type reason =>
        exact .raised _
    | other type reason => exact .raised _
  · rw [duplicate]
    exact .refused _
  · rw [created]
    exact .created new accepts volume positive approved

end CloseTicket

theorem BrokerExitExecutor.built_eq_some {x : BrokerExitExecutor} {r : CloseRequest}
    {run : CloseRun} {t : CloseTicket} {m : OrderManager} {order : ManagedOrder}
    (built : x.built r run = some (t, m, order)) :
    ∃ m₀, r.prepare x run.preparedAt run.decisionId = .ok (m₀, t) ∧
      ∃ (volume : ℚ) (positive : 0 < volume), t.approval.approvedVolume = some volume ∧
        order = m₀.newOrder t.approval (t.args run.orderId) volume positive run.lockedAt := by
  obtain ⟨⟨m₀, t'⟩, prepared, rest⟩ := Option.bind_eq_some_iff.mp built
  have outcome := t'.build_cases run.orderId run.lockedAt m₀
  dsimp only at rest
  generalize (t'.build run.orderId run.lockedAt).exec m₀ = out at outcome rest
  cases outcome with
  | raised e | refused outcome => cases rest
  | created new accepts volume positive approved =>
    obtain ⟨order', held, same⟩ := Option.map_eq_some_iff.mp rest
    cases same
    refine ⟨m₀, ?_, volume, positive, approved, ?_⟩
    · cases out : r.prepare x run.preparedAt run.decisionId with
      | ok pair =>
        rw [out] at prepared
        exact congrArg Except.ok (Option.some.inj prepared)
      | error outcome =>
        rw [out] at prepared
        cases prepared
    · have kept : (m₀.register (m₀.newOrder t.approval (t.args run.orderId) volume positive
          run.lockedAt)).orders run.orderId = _ := Function.update_self ..
      exact Option.some.inj (held.symm.trans kept)

end TradeResearch.Positions
