import TradeResearch.Positions.Ingest

/-!
# Exit policies

`backend/app/positions/policies.py`: when a position should be closed, and where its stop should
be. A policy reads a view of the position, a quote and the account's state, and touches nothing.

* `ExitPolicy.evaluate` is the decision of one policy and `ExitPolicy.proposedStop` its stop.
* `PolicySet.decide` takes the first decision in the order of `priority`.
* `ExitPolicy.proposedStop_improves`: no policy proposes a stop that is not better than the one in
  place.

Prices and sizes are exact; durations are in seconds.
-/

namespace TradeResearch.Positions

open Oms Brokers

inductive ExitReason where
  | stopLoss
  | takeProfit
  | trailingStop
  | strategyExit
  | timeExit
  | riskExit
  | emergencyExit
  | partialTakeProfit
  deriving DecidableEq

def priority : List ExitReason :=
  [.emergencyExit, .riskExit, .stopLoss, .takeProfit, .partialTakeProfit, .trailingStop, .timeExit,
    .strategyExit]

structure PositionView where
  id : String
  symbol : String
  side : Side
  quantity : ℚ
  quantityExponent : ℤ
  entryPrice : ℚ
  openedAt : Time
  mode : Mode
  stopLoss : Option ℚ
  takeProfit : Option ℚ
  extremePrice : Option ℚ
  floatingPnl : Option ℚ
  strategyVersionId : Option String
  accountId : Option String
  brokerPositionId : Option String
  initialQuantity : Option ℚ
  closedQuantity : ℚ
  brokerStopLoss : Option ℚ
  brokerTakeProfit : Option ℚ

structure MarketState where
  symbol : String
  bid : ℚ
  ask : ℚ
  asOf : Time
  atr : Option ℚ

structure RiskContext where
  emergencyStop : Bool
  killSwitchReason : Option String
  maxFloatingLoss : Option ℚ
  dailyLossBreached : Bool
  strategyExitSignalled : Bool
  maxHold : Option Time

structure ExitDecision where
  reason : ExitReason
  detail : Text
  referencePrice : ℚ
  decidedAt : Time
  quantity : Option ℚ := none

structure StopModification where
  positionId : String
  oldStop : Option ℚ
  newStop : ℚ
  reason : Text
  at_ : Time

def MarketState.exitPrice (market : MarketState) : Side → ℚ
  | .long => market.bid
  | .short => market.ask

def PositionView.protectionGap (position : PositionView) : Option Text :=
  match position.stopLoss, position.brokerStopLoss with
  | some intended, some held =>
    if held = intended then none
    else some (Text.lit "the record says the stop is " ++ Text.num intended ++
      Text.lit " and the venue is holding " ++ Text.num held)
  | _, _ => none

namespace Side

def ahead : Side → ℚ → ℚ → ℚ
  | long, price, points => price + points
  | short, price, points => price - points

def gained : Side → ℚ → ℚ → ℚ
  | long, entry, price => price - entry
  | short, entry, price => entry - price

def reached : Side → ℚ → ℚ → Bool
  | long, price, level => decide (level ≤ price)
  | short, price, level => decide (price ≤ level)

def Tighter : Side → ℚ → ℚ → Prop
  | long, stop, other => other < stop
  | short, stop, other => stop < other

instance : ∀ (side : Side) (stop other : ℚ), Decidable (side.Tighter stop other)
  | long, stop, other => inferInstanceAs (Decidable (other < stop))
  | short, stop, other => inferInstanceAs (Decidable (stop < other))

def Covers (side : Side) (stop other : ℚ) : Prop := ¬ side.Tighter other stop

instance (side : Side) (stop other : ℚ) : Decidable (side.Covers stop other) :=
  inferInstanceAs (Decidable (¬ _))

end Side

structure TrailingStopPolicy where
  atrMultiple : Option ℚ
  distance : Option ℚ

structure BreakEvenPolicy where
  atrMultiple : Option ℚ
  triggerDistance : Option ℚ
  buffer : ℚ
  bufferAtrMultiple : Option ℚ

structure PartialTakeProfitPolicy where
  level : Option ℚ
  fraction : ℚ

inductive ExitPolicy where
  | emergencyExit
  | riskExit
  | stopLoss
  | takeProfit
  | trailingStop (policy : TrailingStopPolicy)
  | breakEven (policy : BreakEvenPolicy)
  | partialTakeProfit (policy : PartialTakeProfitPolicy)
  | timeExit (maxHold : Option Time)
  | strategyExit

structure PolicySet where
  policies : List ExitPolicy

def ExitPolicy.name : ExitPolicy → String
  | emergencyExit => "emergency_exit"
  | riskExit => "risk_exit"
  | stopLoss => "stop_loss"
  | takeProfit => "take_profit"
  | trailingStop _ => "trailing_stop"
  | breakEven _ => "break_even"
  | partialTakeProfit _ => "partial_take_profit"
  | timeExit _ => "time_exit"
  | strategyExit => "strategy_exit"

section Policies

variable (position : PositionView) (market : MarketState)

def gapOf (distance multiple : Option ℚ) : Option ℚ :=
  (distance.or (multiple.bind fun m => market.atr.map (m * ·))).filter (0 < ·)

def moveTo (candidate : ℚ) (reason : Text) : Option StopModification :=
  if position.stopLoss.all fun current => position.side.Tighter candidate current then
    some { positionId := position.id, oldStop := position.stopLoss, newStop := candidate, reason,
           at_ := market.asOf }
  else none

def newExtreme : ℚ :=
  let price := market.exitPrice position.side
  match position.extremePrice, position.side with
  | none, _ => price
  | some extreme, .long => max extreme price
  | some extreme, .short => min extreme price

def TrailingStopPolicy.proposedStop (policy : TrailingStopPolicy) : Option StopModification :=
  (gapOf market policy.distance policy.atrMultiple).bind fun gap =>
    let extreme := newExtreme position market
    moveTo position market (position.side.ahead extreme (-gap))
      (Text.lit "trail " ++ Text.num gap ++ Text.lit " behind " ++ Text.num extreme)

def BreakEvenPolicy.bufferFor (policy : BreakEvenPolicy) : Option ℚ :=
  match policy.bufferAtrMultiple with
  | none => some policy.buffer
  | some multiple => market.atr.map (multiple * ·)

def BreakEvenPolicy.proposedStop (policy : BreakEvenPolicy) : Option StopModification :=
  (gapOf market policy.triggerDistance policy.atrMultiple).bind fun gap =>
    let price := market.exitPrice position.side
    let advanced := position.side.gained position.entryPrice price
    if advanced < gap then none
    else
      (policy.bufferFor market).bind fun buffer =>
        moveTo position market (position.side.ahead position.entryPrice buffer)
          (Text.lit "break-even: " ++ Text.num advanced ++ Text.lit " ahead, at or past the " ++
            Text.num gap ++ Text.lit " trigger")

def ExitPolicy.proposedStop : ExitPolicy → Option StopModification
  | trailingStop policy => policy.proposedStop position market
  | breakEven policy => policy.proposedStop position market
  | _ => none

def exitNow (reason : ExitReason) (detail : Text) : ExitDecision :=
  { reason, detail, referencePrice := market.exitPrice position.side, decidedAt := market.asOf }

def riskExit (context : RiskContext) : Option ExitDecision :=
  if context.dailyLossBreached = true then
    some (exitNow position market .riskExit (Text.lit "daily loss limit breached"))
  else
    match context.maxFloatingLoss, position.floatingPnl with
    | some limit, some floating =>
      if floating ≤ -|limit| then
        some (exitNow position market .riskExit
          (Text.lit "floating " ++ Text.num floating ++ Text.lit " at or beyond limit " ++
            Text.num (-|limit|) ++ Text.lit " (net of swap)"))
      else none
    | _, _ => none

def stopLossExit : Option ExitDecision :=
  position.stopLoss.bind fun stop =>
    let price := market.exitPrice position.side
    let hit :=
      match position.side with
      | .long => decide (price ≤ stop)
      | .short => decide (stop ≤ price)
    if hit = true then
      some (exitNow position market .stopLoss
        (Text.lit "price " ++ Text.num price ++ Text.lit " reached stop " ++ Text.num stop))
    else none

def takeProfitExit : Option ExitDecision :=
  position.takeProfit.bind fun target =>
    let price := market.exitPrice position.side
    if position.side.reached price target = true then
      some (exitNow position market .takeProfit
        (Text.lit "price " ++ Text.num price ++ Text.lit " reached target " ++ Text.num target))
    else none

def quantize (q : ℚ) (exponent : ℤ) : ℚ :=
  roundHalfEven (q / (10 : ℚ) ^ exponent) * (10 : ℚ) ^ exponent

def PartialTakeProfitPolicy.remaining (policy : PartialTakeProfitPolicy) : Option (ℚ × ℚ) :=
  if policy.fraction ≤ 0 ∨ 1 ≤ policy.fraction then none
  else
    let initial := (position.initialQuantity.filter (· ≠ 0)).getD position.quantity
    let wanted := quantize (initial * policy.fraction) position.quantityExponent
    if initial ≤ 0 ∨ wanted ≤ 0 ∨ wanted ≤ position.closedQuantity then none
    else
      let take := min (wanted - position.closedQuantity) position.quantity
      if take ≤ 0 then none else some (take, initial)

def PartialTakeProfitPolicy.evaluate (policy : PartialTakeProfitPolicy) : Option ExitDecision :=
  policy.level.bind fun level =>
    (policy.remaining position).bind fun (take, initial) =>
      let price := market.exitPrice position.side
      if position.side.reached price level = true then
        some
          { exitNow position market .partialTakeProfit
              (Text.lit "price " ++ Text.num price ++ Text.lit " reached the partial target " ++
                Text.num level ++ Text.lit "; taking " ++ Text.num take ++ Text.lit " of " ++
                Text.num initial) with
            quantity := some take }
      else none

def timeExit (maxHold : Option Time) (context : RiskContext) : Option ExitDecision :=
  ((maxHold.filter (· ≠ 0)).or context.maxHold).bind fun limit =>
    let held := market.asOf - position.openedAt
    if held < limit then none
    else
      some (exitNow position market .timeExit
        (Text.lit "held " ++ Text.num held ++ Text.lit " at or beyond " ++ Text.num limit))

def ExitPolicy.evaluate (context : RiskContext) : ExitPolicy → Option ExitDecision
  | emergencyExit =>
    if context.emergencyStop = true then
      some (exitNow position market .emergencyExit
        (Text.lit (if truthy context.killSwitchReason = true then
          context.killSwitchReason.getD "" else "emergency stop engaged")))
    else none
  | riskExit => Positions.riskExit position market context
  | stopLoss => stopLossExit position market
  | takeProfit => takeProfitExit position market
  | trailingStop _ => none
  | breakEven _ => none
  | partialTakeProfit policy => policy.evaluate position market
  | timeExit maxHold => Positions.timeExit position market maxHold context
  | strategyExit =>
    if context.strategyExitSignalled = true then
      some (exitNow position market .strategyExit (Text.lit "strategy signalled exit"))
    else none

def PolicySet.decide (set : PolicySet) (context : RiskContext) : Option ExitDecision :=
  let made := set.policies.filterMap (ExitPolicy.evaluate position market context)
  priority.findSome? fun reason => made.find? fun decision => decision.reason = reason

end Policies

namespace Side

theorem Covers.refl (side : Side) (stop : ℚ) : side.Covers stop stop := by
  cases side <;> exact lt_irrefl stop

theorem Tighter.covers {side : Side} {stop other : ℚ} (tighter : side.Tighter stop other) :
    side.Covers stop other := by
  cases side <;> exact not_lt_of_gt tighter

theorem Covers.trans {side : Side} {a b c : ℚ} (first : side.Covers a b)
    (second : side.Covers b c) : side.Covers a c := by
  cases side with
  | long => exact not_lt.mpr (le_trans (not_lt.mp second) (not_lt.mp first))
  | short => exact not_lt.mpr (le_trans (not_lt.mp first) (not_lt.mp second))

end Side

theorem moveTo_improves {candidate : ℚ} {reason : Text}
    (proposed : moveTo position market candidate reason = some moved) {current : ℚ}
    (stop : position.stopLoss = some current) : position.side.Tighter moved.newStop current := by
  unfold moveTo at proposed
  split at proposed
  case isFalse => cases proposed
  case isTrue improves =>
    cases proposed
    rw [stop] at improves
    simpa using improves

theorem ExitPolicy.proposedStop_improves {policy : ExitPolicy}
    (proposed : policy.proposedStop position market = some moved) {current : ℚ}
    (stop : position.stopLoss = some current) : position.side.Tighter moved.newStop current := by
  cases policy with
  | trailingStop policy =>
    obtain ⟨gap, _, proposed⟩ := Option.bind_eq_some_iff.mp proposed
    exact moveTo_improves proposed stop
  | breakEven policy =>
    obtain ⟨gap, _, proposed⟩ := Option.bind_eq_some_iff.mp proposed
    dsimp only at proposed
    split at proposed
    · cases proposed
    · obtain ⟨buffer, _, proposed⟩ := Option.bind_eq_some_iff.mp proposed
      exact moveTo_improves proposed stop
  | emergencyExit | riskExit | stopLoss | takeProfit | partialTakeProfit policy
  | timeExit maxHold =>
      cases proposed
  | strategyExit => cases proposed

theorem PartialTakeProfitPolicy.evaluate_quantity {policy : PartialTakeProfitPolicy}
    {position : PositionView} {market : MarketState} {decision : ExitDecision}
    (decided : policy.evaluate position market = some decision) :
    ∃ take, decision.quantity = some take ∧ 0 < take ∧ take ≤ position.quantity := by
  obtain ⟨level, _, decided⟩ := Option.bind_eq_some_iff.mp decided
  obtain ⟨⟨take, initial⟩, remaining, decided⟩ := Option.bind_eq_some_iff.mp decided
  dsimp only at decided
  split at decided
  case isFalse => cases decided
  case isTrue =>
    cases decided
    refine ⟨take, rfl, ?_⟩
    unfold PartialTakeProfitPolicy.remaining at remaining
    dsimp only at remaining
    split at remaining
    case isTrue => cases remaining
    case isFalse =>
      split at remaining
      case isTrue => cases remaining
      case isFalse =>
        split at remaining
        case isTrue => cases remaining
        case isFalse positive =>
          cases remaining
          exact ⟨not_le.mp positive, min_le_right _ _⟩

theorem PolicySet.evaluate_of_decide {set : PolicySet} {position : PositionView}
    {market : MarketState} {context : RiskContext} {decision : ExitDecision}
    (decided : set.decide position market context = some decision) :
    ∃ policy ∈ set.policies, policy.evaluate position market context = some decision := by
  obtain ⟨reason, _, found⟩ := List.exists_of_findSome?_eq_some decided
  exact List.mem_filterMap.mp (List.mem_of_find?_eq_some found)

theorem PolicySet.decide_quantity {set : PolicySet} {position : PositionView}
    {market : MarketState} {context : RiskContext} {decision : ExitDecision}
    (decided : set.decide position market context = some decision) :
    decision.quantity = none ∨
      ∃ take, decision.quantity = some take ∧ 0 < take ∧ take ≤ position.quantity := by
  obtain ⟨policy, _, made⟩ := PolicySet.evaluate_of_decide decided
  cases policy with
  | emergencyExit =>
    simp only [ExitPolicy.evaluate, Option.ite_none_right_eq_some, Option.some.injEq] at made
    exact .inl (made.2 ▸ rfl)
  | riskExit =>
    simp only [ExitPolicy.evaluate, riskExit] at made
    split at made
    · cases made
      exact .inl rfl
    · split at made
      · split at made <;> cases made
        exact .inl rfl
      · cases made
  | stopLoss =>
    obtain ⟨stop, _, made⟩ := Option.bind_eq_some_iff.mp made
    simp only [Option.ite_none_right_eq_some, Option.some.injEq] at made
    exact .inl (made.2 ▸ rfl)
  | takeProfit =>
    obtain ⟨target, _, made⟩ := Option.bind_eq_some_iff.mp made
    simp only [Option.ite_none_right_eq_some, Option.some.injEq] at made
    exact .inl (made.2 ▸ rfl)
  | trailingStop policy | breakEven policy => cases made
  | partialTakeProfit policy => exact .inr (policy.evaluate_quantity made)
  | timeExit maxHold =>
    obtain ⟨limit, _, made⟩ := Option.bind_eq_some_iff.mp made
    simp only [Option.ite_none_left_eq_some, Option.some.injEq] at made
    exact .inl (made.2 ▸ rfl)
  | strategyExit =>
    simp only [ExitPolicy.evaluate, Option.ite_none_right_eq_some, Option.some.injEq] at made
    exact .inl (made.2 ▸ rfl)

end TradeResearch.Positions
