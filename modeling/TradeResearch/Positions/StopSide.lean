import TradeResearch.Positions.Protection

/-!
# The side of the market a stop is proposed on

A stop is behind the market when the price the position closes at is strictly ahead of it. A trail
is a gap behind the best price seen, so it is behind the market as long as the price has not come
back by the gap; a break-even is a buffer past the entry, so it is behind the market as long as the
price has advanced by more than the buffer, which the trigger does not ask. The stop a pass takes is
the most protective one, behind the market exactly when all proposals are; one at the market or past
it has the stop-loss policy close the position on the same pass.

* `ExitPolicy.Clear` is what each mover needs, and `proposedStop_behind_iff` says that it is enough.
* `covers_of_bestStop`: no proposal protects more than the one taken.
* `bestStop_behind_iff` is the stop taken; `stopLossExit_iff` is the close on the same pass.
-/

namespace TradeResearch.Positions

section Clear

variable (position : PositionView) (market : MarketState)

def Behind (stop : ℚ) : Prop := position.side.Tighter (market.exitPrice position.side) stop

def TrailingStopPolicy.Clear (policy : TrailingStopPolicy) : Prop :=
  ∀ gap, gapOf market policy.distance policy.atrMultiple = some gap →
    position.side.gained (market.exitPrice position.side) (newExtreme position market) < gap

def BreakEvenPolicy.Clear (policy : BreakEvenPolicy) : Prop :=
  ∀ buffer, policy.bufferFor market = some buffer →
    buffer < position.side.gained position.entryPrice (market.exitPrice position.side)

def ExitPolicy.Clear : ExitPolicy → Prop
  | trailingStop policy => policy.Clear position market
  | breakEven policy => policy.Clear position market
  | _ => True

end Clear

theorem moveTo_newStop {candidate : ℚ} {reason : Text}
    (proposed : moveTo position market candidate reason = some moved) :
    moved.newStop = candidate := by
  unfold moveTo at proposed
  split at proposed
  case isFalse => cases proposed
  case isTrue => exact Option.some.inj proposed ▸ rfl

theorem gapOf_pos {distance multiple : Option ℚ} {gap : ℚ}
    (given : gapOf market distance multiple = some gap) : 0 < gap := by
  have positive := (Option.filter_eq_some_iff.mp given).2
  exact of_decide_eq_true positive

theorem Side.tighter_ahead_iff (side : Side) (price level points : ℚ) :
    side.Tighter price (side.ahead level points) ↔ points < side.gained level price := by
  cases side with
  | long =>
    exact lt_sub_iff_add_lt'.symm
  | short =>
    exact lt_sub_comm

theorem Side.gained_swap (side : Side) (price level : ℚ) :
    side.gained level price = -side.gained price level := by
  cases side with
  | long => exact (neg_sub level price).symm
  | short => exact (neg_sub price level).symm

theorem ExitPolicy.proposedStop_behind_iff {policy : ExitPolicy}
    (proposed : policy.proposedStop position market = some moved) :
    Behind position market moved.newStop ↔ policy.Clear position market := by
  unfold Behind
  cases policy with
  | trailingStop policy =>
    obtain ⟨gap, given, proposed⟩ := Option.bind_eq_some_iff.mp proposed
    rw [moveTo_newStop proposed, Side.tighter_ahead_iff, Side.gained_swap, neg_lt_neg_iff]
    show _ ↔ TrailingStopPolicy.Clear position market policy
    unfold TrailingStopPolicy.Clear
    rw [given]
    simp
  | breakEven policy =>
    obtain ⟨gap, _, proposed⟩ := Option.bind_eq_some_iff.mp proposed
    dsimp only at proposed
    split at proposed
    · cases proposed
    · obtain ⟨buffer, given, proposed⟩ := Option.bind_eq_some_iff.mp proposed
      rw [moveTo_newStop proposed, Side.tighter_ahead_iff]
      show _ ↔ BreakEvenPolicy.Clear position market policy
      unfold BreakEvenPolicy.Clear
      rw [given]
      simp
  | emergencyExit | riskExit | stopLoss | takeProfit | partialTakeProfit policy
  | timeExit maxHold =>
      cases proposed
  | strategyExit => cases proposed

theorem TrailingStopPolicy.clear_of_unkept {policy : TrailingStopPolicy}
    (unkept : position.extremePrice = none) : policy.Clear position market := by
  intro gap given
  have present : newExtreme position market = market.exitPrice position.side := by
    unfold newExtreme
    rw [unkept]
  rw [present]
  have none : position.side.gained (market.exitPrice position.side)
      (market.exitPrice position.side) = 0 := by
    cases position.side <;> exact sub_self _
  rw [none]
  exact gapOf_pos given

section Best

variable {position : PositionView} {market : MarketState} {set : PolicySet}

theorem better_covers (best : Option StopProposal) (policy : ExitPolicy) :
    (∀ standing, best = some standing → ∃ next, better position market best policy = some next ∧
      position.side.Covers next.modification.newStop standing.modification.newStop) ∧
    (∀ moved, policy.proposedStop position market = some moved →
      ∃ next, better position market best policy = some next ∧
        position.side.Covers next.modification.newStop moved.newStop) := by
  unfold better
  cases own : policy.proposedStop position market with
  | none =>
    exact ⟨fun standing here => ⟨standing, here, Side.Covers.refl _ _⟩,
      fun _ here => absurd here (by simp)⟩
  | some modification =>
    cases best with
    | none =>
      refine ⟨fun _ here => absurd here (by simp), fun moved here => ?_⟩
      cases here
      exact ⟨_, rfl, Side.Covers.refl _ _⟩
    | some standing =>
      by_cases tighter : position.side.Tighter modification.newStop standing.modification.newStop
      · dsimp only
        rw [if_pos tighter]
        constructor
        · rintro _ ⟨⟩
          exact ⟨_, rfl, tighter.covers⟩
        · rintro _ ⟨⟩
          exact ⟨_, rfl, Side.Covers.refl _ _⟩
      · dsimp only
        rw [if_neg tighter]
        constructor
        · rintro _ ⟨⟩
          exact ⟨_, rfl, Side.Covers.refl _ _⟩
        · rintro _ ⟨⟩
          exact ⟨_, rfl, tighter⟩

theorem PolicySet.covers_of_bestStop (best : set.bestStop position market = some proposal)
    {policy : ExitPolicy} (mem : policy ∈ set.policies) {moved : StopModification}
    (proposed : policy.proposedStop position market = some moved) :
    position.side.Covers proposal.modification.newStop moved.newStop := by
  -- The fold ends with one that covers where it started and all it passed.
  have covers : ∀ (policies : List ExitPolicy) (start : Option StopProposal),
      policies.foldl (better position market) start = some proposal →
      (∀ standing, start = some standing → position.side.Covers proposal.modification.newStop
        standing.modification.newStop) ∧
      ∀ policy ∈ policies, ∀ moved, policy.proposedStop position market = some moved →
        position.side.Covers proposal.modification.newStop moved.newStop := by
    intro policies
    induction policies with
    | nil =>
      rintro start rfl
      refine ⟨fun standing here => ?_, fun _ mem => absurd mem List.not_mem_nil⟩
      cases here
      exact Side.Covers.refl _ _
    | cons policy policies ih =>
      intro start folded
      obtain ⟨later, rest⟩ := ih _ folded
      obtain ⟨stands, passes⟩ := @better_covers position market start policy
      constructor
      · intro standing here
        obtain ⟨next, taken, covered⟩ := stands standing here
        exact (later next taken).trans covered
      · intro other mem moved proposed
        rcases List.mem_cons.mp mem with rfl | mem
        · obtain ⟨next, taken, covered⟩ := passes moved proposed
          exact (later next taken).trans covered
        · exact rest other mem moved proposed
  exact (covers set.policies none best).2 policy mem moved proposed

theorem Side.Tighter.trans_covers {side : Side} {price stop other : ℚ}
    (behind : side.Tighter price stop) (covers : side.Covers stop other) :
    side.Tighter price other := by
  cases side with
  | long => exact lt_of_le_of_lt (not_lt.mp covers) behind
  | short => exact lt_of_lt_of_le behind (not_lt.mp covers)

theorem PolicySet.bestStop_behind_iff (best : set.bestStop position market = some proposal) :
    Behind position market proposal.modification.newStop ↔
      ∀ policy ∈ set.policies, policy.proposedStop position market ≠ none →
        policy.Clear position market := by
  obtain ⟨winner, mem, proposed⟩ := PolicySet.proposed_of_bestStop best
  have own := winner.proposedStop_behind_iff proposed
  refine ⟨fun behind policy mem' some => ?_, fun clear => ?_⟩
  · obtain ⟨moved, proposed'⟩ := Option.ne_none_iff_exists'.mp some
    refine (policy.proposedStop_behind_iff proposed').mp ?_
    exact behind.trans_covers (PolicySet.covers_of_bestStop best mem' proposed')
  · exact own.mpr (clear winner mem (by rw [proposed]; exact Option.some_ne_none _))

theorem stopLossExit_iff {stop : ℚ} :
    stopLossExit { position with stopLoss := some stop } market ≠ none ↔
      ¬ Behind position market stop := by
  unfold stopLossExit Behind
  cases position.side with
  | long | short => simp [Side.Tighter]

theorem PolicySet.decide_ne_none {context : RiskContext} {policy : ExitPolicy}
    (mem : policy ∈ set.policies) (made : policy.evaluate position market context ≠ none) :
    set.decide position market context ≠ none := by
  obtain ⟨decision, made⟩ := Option.ne_none_iff_exists'.mp made
  intro none
  have unfound := List.findSome?_eq_none_iff.mp none decision.reason
    (by cases decision.reason <;> decide)
  have other := List.find?_eq_none.mp unfound decision (List.mem_filterMap.mpr ⟨policy, mem, made⟩)
  simp at other

end Best

/-- A proposed stop is strictly behind the market exactly when its policy leaves room for it: a
trail always does in the view a pass of the manager has, and a break-even when its buffer is less
than the price has advanced. The stop taken is behind the market exactly when all that are proposed
are; when it is not, a set with the stop-loss policy decides to close on the same pass. -/
theorem proposals_behind (set : PolicySet) (position : PositionView) (market : MarketState) :
    (∀ policy ∈ set.policies, ∀ moved, policy.proposedStop position market = some moved →
      (Behind position market moved.newStop ↔ policy.Clear position market)) ∧
    (∀ (row : PositionRow) (floatingPnl : Option ℚ) (symbolCode : Option String)
      (quantityExponent : ℤ) (trail : TrailingStopPolicy),
      trail.Clear (row.view floatingPnl symbolCode quantityExponent) market) ∧
    ∀ proposal, set.bestStop position market = some proposal →
      (∃ policy ∈ set.policies,
        policy.proposedStop position market = some proposal.modification) ∧
      (Behind position market proposal.modification.newStop ↔
        ∀ policy ∈ set.policies, policy.proposedStop position market ≠ none →
          policy.Clear position market) ∧
      (.stopLoss ∈ set.policies → ¬ Behind position market proposal.modification.newStop →
        ∀ context, set.decide { position with stopLoss := some proposal.modification.newStop }
          market context ≠ none) := by
  refine ⟨fun policy _ moved proposed => policy.proposedStop_behind_iff proposed,
    fun row floatingPnl symbolCode quantityExponent trail => trail.clear_of_unkept rfl,
    fun proposal best => ⟨PolicySet.proposed_of_bestStop best, PolicySet.bestStop_behind_iff best,
      fun mem past context => ?_⟩⟩
  exact PolicySet.decide_ne_none mem (stopLossExit_iff.mpr past)

/-- A break-even one point ahead with a buffer of five puts the stop of a long from a hundred at a
hundred and five, four above the price. -/
theorem not_forall_behind :
    ¬ ∀ (set : PolicySet) (position : PositionView) (market : MarketState)
      (proposal : StopProposal), set.bestStop position market = some proposal →
        Behind position market proposal.modification.newStop := by
  intro every
  let position : PositionView :=
    ({ plainRow "1001" 1 none with entryPrice := 100 } : PositionRow).view none (some "EURUSD") 0
  let market : MarketState := { symbol := "EURUSD", bid := 101, ask := 101, asOf := 0, atr := none }
  let set : PolicySet := ⟨[.breakEven ⟨none, some 1, 5, none⟩]⟩
  have taken : (set.bestStop position market).map (fun p => p.modification.newStop) = some 105 := by
    decide +kernel
  obtain ⟨proposal, best, stop⟩ := Option.map_eq_some_iff.mp taken
  have behind := every set position market proposal best
  rw [stop] at behind
  exact absurd behind (show ¬ (105 : ℚ) < 101 by norm_num)

end TradeResearch.Positions
