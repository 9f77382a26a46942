import TradeResearch.Brokers.Mt5
import TradeResearch.Oms.Order

/-!
# The simulator

`FakeBroker` of `backend/app/brokers/fake.py`, as far as a close goes: its positions, its quotes,
the faults a test sets, its deals and its balance. The profit and the tag of a deal are left out.

* `FakeBroker.closePosition` takes the position off the book before it asks for a quote, and does
  not read the volume.
* `closePosition_cases` says what it comes to; `volumeOf_closePosition`: the position is as it was,
  or it is gone.
-/

namespace TradeResearch.Brokers

open Oms

structure SimulatedPosition where
  positionId : String
  symbol : String
  side : String
  volume : ℚ
  entryPrice : ℚ
  deriving DecidableEq

structure SimulatedQuote where
  bid : ℚ
  ask : ℚ
  time : Time

def SimulatedQuote.exit (quote : SimulatedQuote) (side : String) : ℚ :=
  if side = "long" then quote.bid else quote.ask

structure FakeBroker where
  state : ConnectionState
  quotes : String → Option SimulatedQuote
  failNext : Option String
  unknownNext : Bool
  positions : List SimulatedPosition
  deals : List Deal
  balance : ℚ
  nextId : ℕ

namespace FakeBroker

def find? (b : FakeBroker) (positionId : String) : Option SimulatedPosition :=
  b.positions.find? fun p => p.positionId = positionId

def volumeOf (b : FakeBroker) (positionId : String) : ℚ :=
  ((b.find? positionId).map fun p => p.volume).getD 0

def without (b : FakeBroker) (positionId : String) : FakeBroker :=
  { b with positions := b.positions.filter fun p => p.positionId ≠ positionId }

def requireConnection : Method Exn FakeBroker Unit := do
  let b ← get
  if b.state ≠ .connected then
    throw (.brokerError "NotConnected" (Text.lit ("fake is " ++ b.state.name)))

def getQuote (symbol : String) : Method Exn FakeBroker SimulatedQuote := do
  requireConnection
  let b ← get
  match b.quotes symbol with
  | some quote => return quote
  | none =>
    throw (.brokerError "NotConnected" (Text.lit s!"no quote for {symbol} in the simulator"))

def bare (status : ResultStatus) (detail : Text) : OrderResult :=
  { OrderResult.bare status detail with fillSource := "simulator" }

def takeFault : Method Exn FakeBroker (Option OrderResult) := do
  let b ← get
  if b.unknownNext = true then
    modify fun b => { b with unknownNext := false }
    return some (bare .unknown (Text.lit "simulated: no reply from the venue"))
  else if truthy b.failNext = true then
    modify fun b => { b with failNext := none }
    return some (bare .rejected
      (Text.lit ("simulated rejection: " ++ b.failNext.getD "")))
  else return none

def profit (p : SimulatedPosition) (quote : SimulatedQuote) : ℚ :=
  (if p.side = "long" then quote.exit p.side - p.entryPrice
    else p.entryPrice - quote.exit p.side) * p.volume

def closedResult (p : SimulatedPosition) (quote : SimulatedQuote) : OrderResult :=
  { bare .accepted (Text.lit "simulated close") with
    positionId := some p.positionId
    fillPrice := some (.finite (quote.exit p.side))
    filledVolume := some (.finite p.volume)
    filledAt := some quote.time
    retcode := some 0 }

def settled (b : FakeBroker) (p : SimulatedPosition) (quote : SimulatedQuote) : FakeBroker :=
  { b with
    balance := b.balance + profit p quote
    deals := b.deals ++
      [{ dealId := s!"fake-deal-{b.nextId}", positionId := p.positionId, symbol := p.symbol,
         entry := "out", volume := p.volume, price := quote.exit p.side,
         time := quote.time }]
    nextId := b.nextId + 1 }

def closePosition (positionId : String) (_volume : Option ℚ) :
    Method Exn FakeBroker OrderResult := do
  requireConnection
  match ← takeFault with
  | some fault => return fault
  | none =>
    let b ← get
    match b.find? positionId with
    | none => return bare .rejected (Text.lit ("no position " ++ positionId))
    | some p =>
      modify fun b => b.without positionId
      let quote ← getQuote p.symbol
      modify fun b => b.settled p quote
      return closedResult p quote

inductive CloseCase (b : FakeBroker) (positionId : String) :
    Except Exn OrderResult × FakeBroker → Prop
  | unconnected (type : String) (reason : Text) (down : b.state ≠ .connected) :
    CloseCase b positionId (.error (.brokerError type reason), b)
  | refused (result : OrderResult) (after : FakeBroker) (unfilled : result.status ≠ .accepted)
      (same : after.positions = b.positions) :
    CloseCase b positionId (.ok result, after)
  | unquoted (type : String) (reason : Text) (p : SimulatedPosition)
      (held : b.find? positionId = some p) :
    CloseCase b positionId (.error (.brokerError type reason), b.without positionId)
  | filled (p : SimulatedPosition) (held : b.find? positionId = some p) (quote : SimulatedQuote)
      (quoted : b.quotes p.symbol = some quote) :
    CloseCase b positionId (.ok (closedResult p quote), (b.without positionId).settled p quote)

theorem closePosition_cases (b : FakeBroker) (positionId : String) (volume : Option ℚ) :
    CloseCase b positionId ((closePosition positionId volume).exec b) := by
  unfold closePosition
  by_cases down : b.state ≠ .connected
  · have raised : requireConnection.exec b = (.error (.brokerError "NotConnected"
        (Text.lit ("fake is " ++ b.state.name))), b) := by
      unfold requireConnection
      rw [Method.exec_get_bind, if_pos down, Method.exec_throw]
    rw [Method.exec_bind_error raised]
    exact .unconnected _ _ down
  have up : ∀ c : FakeBroker, c.state = b.state → requireConnection.exec c = (.ok (), c) := by
    intro c same
    unfold requireConnection
    rw [Method.exec_get_bind, if_neg (same ▸ down), Method.exec_pure]
  rw [Method.exec_bind_ok (up b rfl)]
  by_cases unknown : b.unknownNext = true
  · have taken : takeFault.exec b = (.ok (some (bare .unknown
        (Text.lit "simulated: no reply from the venue"))), { b with unknownNext := false }) := by
      unfold takeFault
      rw [Method.exec_get_bind, if_pos unknown]
      rfl
    rw [Method.exec_bind_ok taken]
    exact .refused _ _ (fun accepted => by cases accepted) rfl
  by_cases fails : truthy b.failNext = true
  · have taken : takeFault.exec b = (.ok (some (bare .rejected
        (Text.lit ("simulated rejection: " ++ b.failNext.getD "")))),
          { b with failNext := none }) := by
      unfold takeFault
      rw [Method.exec_get_bind, if_neg unknown, if_pos fails]
      rfl
    rw [Method.exec_bind_ok taken]
    exact .refused _ _ (fun accepted => by cases accepted) rfl
  have clear : takeFault.exec b = (.ok none, b) := by
    unfold takeFault
    rw [Method.exec_get_bind, if_neg unknown, if_neg fails, Method.exec_pure]
  rw [Method.exec_bind_ok clear]
  rw [Method.exec_get_bind]
  cases held : b.find? positionId with
  | none => exact .refused _ _ (fun accepted => by cases accepted) rfl
  | some p =>
    rw [Method.exec_modify_bind]
    cases quoted : b.quotes p.symbol with
    | none =>
      have raised : (getQuote p.symbol).exec (b.without positionId) =
          (.error (.brokerError "NotConnected"
            (Text.lit s!"no quote for {p.symbol} in the simulator")), b.without positionId) := by
        unfold getQuote
        rw [Method.exec_bind_ok (up (b.without positionId) rfl), Method.exec_get_bind]
        show Method.exec (match b.quotes p.symbol with
          | some quote => _
          | none => _) _ = _
        rw [quoted]
        rfl
      rw [Method.exec_bind_error raised]
      exact .unquoted _ _ p held
    | some quote =>
      have answered : (getQuote p.symbol).exec (b.without positionId) =
          (.ok quote, b.without positionId) := by
        unfold getQuote
        rw [Method.exec_bind_ok (up (b.without positionId) rfl), Method.exec_get_bind]
        show Method.exec (match b.quotes p.symbol with
          | some quote => _
          | none => _) _ = _
        rw [quoted]
        rfl
      rw [Method.exec_bind_ok answered, Method.exec_modify_bind, Method.exec_pure]
      exact .filled p held quote quoted

theorem volumeOf_closePosition (b : FakeBroker) (positionId : String) (volume : Option ℚ) :
    ((closePosition positionId volume).left b).volumeOf positionId = b.volumeOf positionId ∨
      ((closePosition positionId volume).left b).volumeOf positionId = 0 := by
  have gone : (b.without positionId).volumeOf positionId = 0 := by
    have none : (b.without positionId).find? positionId = Option.none := by
      refine List.find?_eq_none.mpr fun p mem => ?_
      simpa using of_decide_eq_true (List.mem_filter.mp mem).2
    unfold volumeOf
    rw [none]
    rfl
  have outcome := closePosition_cases b positionId volume
  unfold Method.left
  generalize (closePosition positionId volume).exec b = out at outcome
  cases outcome with
  | unconnected type reason down => exact .inl rfl
  | refused result after unfilled same =>
    refine .inl ?_
    show (((after.positions.find? _).map _).getD 0 : ℚ) = _
    rw [same]
    rfl
  | unquoted type reason p held | filled p held quote quoted => exact .inr gone

end FakeBroker

end TradeResearch.Brokers
