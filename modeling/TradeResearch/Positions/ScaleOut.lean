import TradeResearch.Positions.Ledger

/-!
# What a partial target takes

`PartialTakeProfitPolicy` takes a fraction of what a position opened with, rounded at the precision
the quantity was read with, and remembers that it did by what was taken off. Over the passes of the
manager it takes no more than the fraction, once, and leaves some open, exactly when the rounding
never goes up and no later pass reads a precision that rounds to more. A restart reads the quantity
at the precision of its column, so every pass comes with the precision it read.

* `PositionRow.cut` is what a pass takes off for the target, and `PositionRow.cuts` what a run does.
* `PositionRow.Sized` is what the passes keep: the size is what is open and what was taken off.
* `cut_cases`: a cut brings what was taken off to the rounded fraction, or takes all that is left.
* `scalesOut_iff_steady` is the whole run.
-/

namespace TradeResearch.Positions

structure Cut where
  taken : ℚ
  left : ℚ

namespace PositionRow

def cut (row : PositionRow) (pass : Pass) : Option Cut :=
  let row' := (row.process pass).1
  if (row.process pass).2.2.decision.map (fun decision => decision.reason) =
      some .partialTakeProfit ∧ row'.quantity ≠ row.quantity then
    some ⟨row.quantity - row'.quantity, row'.quantity⟩
  else none

def cuts (row : PositionRow) : List Pass → List Cut
  | [] => []
  | pass :: passes => (row.cut pass).toList ++ (row.process pass).1.cuts passes

structure ScalesOut (fraction size : ℚ) (row : PositionRow) (passes : List Pass) : Prop where
  bounded : ((row.cuts passes).map fun cut => cut.taken).sum ≤ fraction * size
  once : (row.cuts passes).length ≤ 1
  leaves : ∀ cut ∈ row.cuts passes, 0 < cut.left

end PositionRow

def Pass.Takes (fraction : ℚ) (pass : Pass) : Prop :=
  ∀ policy, .partialTakeProfit policy ∈ pass.policies.policies → policy.fraction = fraction

def wanted (fraction size : ℚ) (exponent : ℤ) : ℚ := quantize (size * fraction) exponent

def Steady (fraction size : ℚ) (exponents : List ℤ) : Prop :=
  (∀ e ∈ exponents, wanted fraction size e ≤ fraction * size) ∧
    exponents.Pairwise fun e e' =>
      0 < wanted fraction size e → wanted fraction size e' ≤ wanted fraction size e

instance Steady.decidable (fraction size : ℚ) (exponents : List ℤ) :
    Decidable (Steady fraction size exponents) :=
  inferInstanceAs (Decidable (_ ∧ _))

namespace PositionRow

structure Sized (size : ℚ) (row : PositionRow) : Prop where
  conserved : row.quantity + row.closedQuantity = size
  opened : row.initialQuantity = size ∨ row.initialQuantity = 0 ∧ row.closedQuantity = 0
  nonneg : 0 ≤ row.quantity
  taken : 0 ≤ row.closedQuantity

structure Opened (size : ℚ) (row : PositionRow) : Prop extends row.Sized size where
  managed : row.status.skipped = none
  untouched : row.closedQuantity = 0
  positive : 0 < size

variable {size : ℚ} {row : PositionRow}

theorem Sized.withStop (sized : row.Sized size) (proposal : Option StopProposal) :
    (row.withStop proposal).Sized size := by
  cases proposal with
  | none => exact sized
  | some proposal => exact ⟨sized.conserved, sized.opened, sized.nonneg, sized.taken⟩

theorem Sized.book (sized : row.Sized size) {decision : ExitDecision} {outcome : CloseOutcome}
    {fill : ℚ} (positive : 0 ≤ row.closedNow decision) :
    (row.book decision outcome fill).Sized size := by
  have conserved := sized.conserved
  refine ⟨?_, .inl ?_, sub_nonneg.mpr (closedNow_le row decision),
    add_nonneg sized.taken positive⟩
  · show row.quantity - row.closedNow decision + (row.closedQuantity + row.closedNow decision) = _
    linarith
  · show (if row.initialQuantity = 0 then row.quantity + row.closedQuantity
      else row.initialQuantity) = size
    split
    case isTrue => exact conserved
    case isFalse stated => exact sized.opened.resolve_right fun legacy => stated legacy.1

theorem closedNow_nonneg {decision : ExitDecision} (nonneg : 0 ≤ row.quantity)
    (decided : decision.quantity = none ∨
      ∃ take, decision.quantity = some take ∧ 0 < take ∧ take ≤ row.quantity) :
    0 ≤ row.closedNow decision := by
  unfold closedNow
  rcases decided with all | ⟨take, some, positive, fits⟩
  · rw [all, Option.getD_none, if_neg (lt_irrefl _)]
    exact nonneg
  · rw [some, Option.getD_some, if_neg (not_lt.mpr fits)]
    exact positive.le

theorem Sized.process (sized : row.Sized size) (pass : Pass) :
    (row.process pass).1.Sized size ∧
      row.closedQuantity ≤ (row.process pass).1.closedQuantity := by
  have outcome := row.process_cases pass
  generalize (row.process pass).1 = row' at outcome
  cases outcome with
  | skipped => exact ⟨sized, le_refl _⟩
  | held managed => exact ⟨sized.withStop _, (withStop_closedQuantity ..).ge⟩
  | acted managed position same decision decided row' outcome =>
    have stopped := sized.withStop
      (pass.policies.bestStop (row.view pass.floatingPnl pass.symbolCode pass.quantityExponent)
        pass.market)
    have before := withStop_closedQuantity row
      (pass.policies.bestStop (row.view pass.floatingPnl pass.symbolCode pass.quantityExponent)
        pass.market)
    have quantity := PolicySet.decide_quantity decided
    rw [same, ← withStop_quantity row (pass.policies.bestStop
      (row.view pass.floatingPnl pass.symbolCode pass.quantityExponent) pass.market)] at quantity
    rw [← before]
    cases outcome with
    | booked fill confirmed filled =>
      have positive := closedNow_nonneg stopped.nonneg quantity
      exact ⟨stopped.book positive, le_add_of_nonneg_right positive⟩
    | parked unclear =>
      exact ⟨⟨stopped.conserved, stopped.opened, stopped.nonneg, stopped.taken⟩, le_refl _⟩
    | refused unclear => exact ⟨stopped, le_refl _⟩

end PositionRow

section Decision

variable {position : PositionView} {market : MarketState} {context : RiskContext}
  {decision : ExitDecision}

theorem ExitPolicy.target_of_evaluate {policy : ExitPolicy}
    (made : policy.evaluate position market context = some decision)
    (reason : decision.reason = .partialTakeProfit) :
    ∃ target, policy = .partialTakeProfit target ∧
      target.evaluate position market = some decision := by
  -- Every other policy that decides gives another reason.
  cases policy with
  | emergencyExit =>
    simp only [ExitPolicy.evaluate, Option.ite_none_right_eq_some, Option.some.injEq] at made
    rw [← made.2] at reason
    cases reason
  | riskExit =>
    simp only [ExitPolicy.evaluate, Positions.riskExit] at made
    split at made
    · cases made
      cases reason
    · split at made
      · split at made <;> cases made
        cases reason
      · cases made
  | stopLoss =>
    obtain ⟨stop, _, made⟩ := Option.bind_eq_some_iff.mp made
    simp only [Option.ite_none_right_eq_some, Option.some.injEq] at made
    rw [← made.2] at reason
    cases reason
  | takeProfit =>
    obtain ⟨target, _, made⟩ := Option.bind_eq_some_iff.mp made
    simp only [Option.ite_none_right_eq_some, Option.some.injEq] at made
    rw [← made.2] at reason
    cases reason
  | trailingStop policy | breakEven policy => cases made
  | partialTakeProfit target => exact ⟨target, rfl, made⟩
  | timeExit maxHold =>
    obtain ⟨limit, _, made⟩ := Option.bind_eq_some_iff.mp made
    simp only [Option.ite_none_left_eq_some, Option.some.injEq] at made
    rw [← made.2] at reason
    cases reason
  | strategyExit =>
    simp only [ExitPolicy.evaluate, Option.ite_none_right_eq_some, Option.some.injEq] at made
    rw [← made.2] at reason
    cases reason

theorem PartialTakeProfitPolicy.reason_of_evaluate {policy : PartialTakeProfitPolicy}
    (evaluated : policy.evaluate position market = some decision) :
    decision.reason = .partialTakeProfit := by
  obtain ⟨level, _, evaluated⟩ := Option.bind_eq_some_iff.mp evaluated
  obtain ⟨⟨take, initial⟩, _, evaluated⟩ := Option.bind_eq_some_iff.mp evaluated
  simp only [Option.ite_none_right_eq_some, Option.some.injEq] at evaluated
  exact evaluated.2 ▸ rfl

theorem PartialTakeProfitPolicy.remaining_eq_some {policy : PartialTakeProfitPolicy}
    {size take initial : ℚ} (part : 0 < policy.fraction ∧ policy.fraction < 1) (positive : 0 < size)
    (opened : position.initialQuantity = some size) :
    policy.remaining position = some (take, initial) ↔
      0 < wanted policy.fraction size position.quantityExponent ∧
        position.closedQuantity < wanted policy.fraction size position.quantityExponent ∧
        0 < position.quantity ∧
        take = min (wanted policy.fraction size position.quantityExponent -
          position.closedQuantity) position.quantity ∧
        initial = size := by
  have stated : (position.initialQuantity.filter (· ≠ 0)).getD position.quantity = size := by
    simp [opened, Option.filter, positive.ne']
  unfold remaining
  rw [if_neg (not_or.mpr ⟨not_le.mpr part.1, not_le.mpr part.2⟩), stated]
  dsimp only
  show (if size ≤ 0 ∨ wanted policy.fraction size position.quantityExponent ≤ 0 ∨
      wanted policy.fraction size position.quantityExponent ≤ position.closedQuantity then none
    else _) = _ ↔ _
  split
  case isTrue refused =>
    refine iff_of_false (by simp) fun taken => ?_
    rcases refused with none | nothing | before
    · exact absurd none (not_le.mpr positive)
    · exact absurd nothing (not_le.mpr taken.1)
    · exact absurd before (not_le.mpr taken.2.1)
  case isFalse ready =>
    simp only [not_or, not_le] at ready
    have some_left := sub_pos.mpr ready.2.2
    split
    case isTrue nothing =>
      refine iff_of_false (by simp) fun taken => ?_
      exact absurd nothing (not_le.mpr (lt_min some_left taken.2.2.1))
    case isFalse something =>
      have left := (lt_min_iff.mp (not_le.mp something)).2
      simp only [Option.some.injEq, Prod.mk.injEq]
      exact ⟨fun same => ⟨ready.2.1, ready.2.2, left, same.1.symm, same.2.symm⟩,
        fun taken => ⟨taken.2.2.2.1.symm, taken.2.2.2.2.symm⟩⟩

end Decision

namespace PositionRow

variable {size fraction : ℚ} {row : PositionRow} {pass : Pass}

def seen (row : PositionRow) (pass : Pass) : PositionView :=
  let position := row.view pass.floatingPnl pass.symbolCode pass.quantityExponent
  { position with
    stopLoss := (row.withStop (pass.policies.bestStop position pass.market)).stopLoss }

theorem process_skipped {why : String} (skipped : row.status.skipped = some why) (pass : Pass) :
    row.process pass = (row, [], { positionId := row.id, skipped := some why }) := by
  unfold process
  rw [skipped]

theorem process_decision (managed : row.status.skipped = none) (pass : Pass) :
    (row.process pass).2.2.decision =
      pass.policies.decide (row.seen pass) pass.market pass.context := by
  unfold process
  rw [managed]
  dsimp only
  show _ = pass.policies.decide
    { row.view pass.floatingPnl pass.symbolCode pass.quantityExponent with stopLoss := _ }
    pass.market pass.context
  split
  case h_1 held => exact held.symm
  case h_2 decision decided => exact decided.symm

theorem process_acted (managed : row.status.skipped = none) {decision : ExitDecision}
    (decided : pass.policies.decide (row.seen pass) pass.market pass.context = some decision) :
    (row.process pass).1 =
      ((row.withStop (pass.policies.bestStop
        (row.view pass.floatingPnl pass.symbolCode pass.quantityExponent) pass.market)).act
          (row.seen pass) decision pass.outcome).1 := by
  unfold process
  rw [managed]
  dsimp only
  split
  case h_1 held => exact absurd (held.symm.trans decided) (by simp)
  case h_2 decision' decided' =>
    cases decided'.symm.trans decided
    rfl

theorem process_held (managed : row.status.skipped = none)
    (held : pass.policies.decide (row.seen pass) pass.market pass.context = none) :
    (row.process pass).1 =
      row.withStop (pass.policies.bestStop
        (row.view pass.floatingPnl pass.symbolCode pass.quantityExponent) pass.market) := by
  unfold process
  rw [managed]
  dsimp only
  split
  case h_1 => rfl
  case h_2 decision decided => exact absurd (held.symm.trans decided) (by simp)

theorem Sized.seen_initial (sized : row.Sized size) (pass : Pass) :
    (row.seen pass).initialQuantity = some size := by
  show some (if row.initialQuantity = 0 then row.quantity else row.initialQuantity) = some size
  rcases sized.opened with stated | ⟨legacy, untouched⟩
  · rw [stated]
    split
    case isTrue nothing =>
      have := sized.conserved
      have := sized.nonneg
      have := sized.taken
      rw [nothing, show row.quantity = 0 by linarith]
    case isFalse => rfl
  · rw [if_pos legacy, ← sized.conserved, untouched, add_zero]

theorem cut_cases {cut : Cut} (sized : row.Sized size) (positive : 0 < size)
    (part : 0 < fraction ∧ fraction < 1) (takes : pass.Takes fraction)
    (made : row.cut pass = some cut) :
    0 < wanted fraction size pass.quantityExponent ∧
      row.closedQuantity < wanted fraction size pass.quantityExponent ∧
      cut.taken =
        min (wanted fraction size pass.quantityExponent - row.closedQuantity) row.quantity ∧
      cut.left = row.quantity - cut.taken ∧
      (row.process pass).1.closedQuantity = row.closedQuantity + cut.taken := by
  unfold PositionRow.cut at made
  dsimp only at made
  split at made
  case isFalse => cases made
  case isTrue fired =>
    obtain ⟨named, less⟩ := fired
    cases made
    cases skipped : row.status.skipped with
    | some why =>
      rw [process_skipped skipped] at less
      exact absurd rfl less
    | none =>
      rw [process_decision skipped] at named
      obtain ⟨decision, decided, reason⟩ := Option.map_eq_some_iff.mp named
      obtain ⟨policy, mem, evaluated⟩ := PolicySet.evaluate_of_decide decided
      obtain ⟨target, rfl, evaluated⟩ := policy.target_of_evaluate evaluated reason
      obtain ⟨level, _, evaluated⟩ := Option.bind_eq_some_iff.mp evaluated
      obtain ⟨⟨take, initial⟩, remaining, evaluated⟩ := Option.bind_eq_some_iff.mp evaluated
      obtain rfl := takes target mem
      obtain ⟨something, before, left, take_eq, _⟩ :=
        (target.remaining_eq_some part positive (sized.seen_initial pass)).mp remaining
      simp only [Option.ite_none_right_eq_some, Option.some.injEq] at evaluated
      have quantity : decision.quantity = some take := by rw [← evaluated.2]
      have outcome := act_cases (row.withStop (pass.policies.bestStop
        (row.view pass.floatingPnl pass.symbolCode pass.quantityExponent) pass.market))
        (row.seen pass) decision pass.outcome
      rw [← process_acted skipped decided] at outcome
      generalize (row.process pass).1 = row' at outcome less
      cases outcome with
      | parked unclear | refused unclear => exact absurd (withStop_quantity ..) less
      | booked fill confirmed filled =>
        have within : take ≤ row.quantity := take_eq.trans_le (min_le_right _ _)
        have closed : (row.withStop (pass.policies.bestStop
            (row.view pass.floatingPnl pass.symbolCode pass.quantityExponent)
            pass.market)).closedNow decision = take := by
          unfold closedNow
          rw [quantity, Option.getD_some, withStop_quantity, if_neg (not_lt.mpr within)]
        have after : ((row.withStop (pass.policies.bestStop
            (row.view pass.floatingPnl pass.symbolCode pass.quantityExponent)
            pass.market)).book decision pass.outcome fill).quantity = row.quantity - take := by
          show (row.withStop _).quantity - (row.withStop _).closedNow decision = _
          rw [closed, withStop_quantity]
        have off : row.quantity - (row.quantity - take) = take := sub_sub_cancel _ _
        rw [after, off]
        refine ⟨something, before, take_eq, rfl, ?_⟩
        show (row.withStop _).closedQuantity + (row.withStop _).closedNow decision = _
        rw [closed, withStop_closedQuantity]

theorem cuts_of_spent {passes : List Pass} (sized : row.Sized size) (positive : 0 < size)
    (part : 0 < fraction ∧ fraction < 1) (takes : ∀ pass ∈ passes, pass.Takes fraction)
    (spent : ∀ pass ∈ passes, wanted fraction size pass.quantityExponent ≤ row.closedQuantity) :
    row.cuts passes = [] := by
  induction passes generalizing row with
  | nil => rfl
  | cons pass passes ih =>
    obtain ⟨sized', more⟩ := sized.process pass
    have rest : (row.process pass).1.cuts passes = [] :=
      ih sized' (fun p mem => takes p (List.mem_cons_of_mem _ mem))
        fun p mem => (spent p (List.mem_cons_of_mem _ mem)).trans more
    unfold cuts
    cases made : row.cut pass with
    | none => exact rest
    | some cut =>
      obtain ⟨_, before, _⟩ :=
        cut_cases sized positive part (takes pass (List.mem_cons_self ..)) made
      exact absurd (spent pass (List.mem_cons_self ..)) (not_le.mpr before)

theorem scalesOut_of_steady {passes : List Pass} (sized : row.Sized size) (positive : 0 < size)
    (part : 0 < fraction ∧ fraction < 1) (takes : ∀ pass ∈ passes, pass.Takes fraction)
    (steady : Steady fraction size (passes.map fun pass => pass.quantityExponent)) :
    row.ScalesOut fraction size passes := by
  -- By induction on the passes. Until the target fires nothing is counted; when it does, what is
  -- taken off is the rounded fraction, which no later pass wants more than.
  induction passes generalizing row with
  | nil => exact ⟨(mul_pos part.1 positive).le, Nat.zero_le 1, fun _ mem => by cases mem⟩
  | cons pass passes ih =>
    obtain ⟨bounds, pairs⟩ := steady
    rw [List.map_cons, List.pairwise_cons] at pairs
    have takes' : ∀ p ∈ passes, p.Takes fraction :=
      fun p mem => takes p (List.mem_cons_of_mem _ mem)
    cases made : row.cut pass with
    | none =>
      have same : row.cuts (pass :: passes) = (row.process pass).1.cuts passes := by
        rw [cuts, made, Option.toList_none, List.nil_append]
      have rest := ih (sized.process pass).1 takes'
        ⟨fun e mem => bounds e (List.mem_cons_of_mem _ mem), pairs.2⟩
      exact ⟨same ▸ rest.bounded, same ▸ rest.once, same ▸ rest.leaves⟩
    | some cut =>
      obtain ⟨something, before, taken, left, after⟩ :=
        cut_cases sized positive part (takes pass (List.mem_cons_self ..)) made
      have bound := bounds _ (List.mem_cons_self ..)
      have below : fraction * size < size := mul_lt_of_lt_one_left positive part.2
      have conserved := sized.conserved
      have nonneg := sized.taken
      rw [min_eq_left (by linarith)] at taken
      have spent : (row.process pass).1.cuts passes = [] := by
        refine cuts_of_spent (sized.process pass).1 positive part takes' fun p mem => ?_
        have later := pairs.1 _ (List.mem_map_of_mem mem) something
        linarith
      have same : row.cuts (pass :: passes) = [cut] := by
        rw [cuts, made, spent, Option.toList_some, List.append_nil]
      refine ⟨?_, ?_, ?_⟩
      · rw [same, List.map_singleton, List.sum_singleton]
        linarith
      · rw [same, List.length_singleton]
      · intro c mem
        rw [same, List.mem_singleton] at mem
        rw [mem, left, taken]
        linarith

end PositionRow

def targetPass (fraction price : ℚ) (exponent : ℤ) : Pass :=
  { policies := ⟨[.partialTakeProfit ⟨some 1, fraction⟩]⟩
    market := { symbol := "EURUSD", bid := price, ask := price, asOf := 0, atr := none }
    context :=
      { emergencyStop := false, killSwitchReason := none, maxFloatingLoss := none,
        dailyLossBreached := false, strategyExitSignalled := false, maxHold := none }
    floatingPnl := none
    symbolCode := some "EURUSD"
    quantityExponent := exponent
    outcome := filledOutcome }

section Target

variable {fraction price : ℚ} {exponent : ℤ}

theorem targetPass_takes : (targetPass fraction price exponent).Takes fraction := by
  intro policy mem
  cases List.mem_singleton.mp mem
  rfl

theorem decide_targetPass (position : PositionView) :
    (targetPass fraction price exponent).policies.decide position
        (targetPass fraction price exponent).market (targetPass fraction price exponent).context =
      PartialTakeProfitPolicy.evaluate position (targetPass fraction price exponent).market
        ⟨some 1, fraction⟩ := by
  have made : (targetPass fraction price exponent).policies.policies.filterMap
      (ExitPolicy.evaluate position (targetPass fraction price exponent).market
        (targetPass fraction price exponent).context) =
      (PartialTakeProfitPolicy.evaluate position (targetPass fraction price exponent).market
        ⟨some 1, fraction⟩).toList := by
    show [ExitPolicy.partialTakeProfit ⟨some 1, fraction⟩].filterMap _ = _
    cases evaluated : PartialTakeProfitPolicy.evaluate position
      (targetPass fraction price exponent).market ⟨some 1, fraction⟩ with
    | none | some decision => simp [ExitPolicy.evaluate, evaluated]
  unfold PolicySet.decide
  rw [made]
  cases evaluated : PartialTakeProfitPolicy.evaluate position
    (targetPass fraction price exponent).market ⟨some 1, fraction⟩ with
  | none => rfl
  | some decision =>
    have reason := PartialTakeProfitPolicy.reason_of_evaluate evaluated
    simp [priority, reason]

theorem targetPass_exitPrice (side : Side) :
    (targetPass fraction price exponent).market.exitPrice side = price := by
  cases side <;> rfl

end Target

namespace PositionRow

variable {size fraction : ℚ} {row : PositionRow}

def unreachedPrice (row : PositionRow) : ℚ := row.side.ahead 1 (-1)

theorem process_unreached (row : PositionRow) (exponent : ℤ) :
    (row.process (targetPass fraction row.unreachedPrice exponent)).1 = row ∧
      row.cut (targetPass fraction row.unreachedPrice exponent) = none := by
  have same : (row.process (targetPass fraction row.unreachedPrice exponent)).1 = row := by
    cases skipped : row.status.skipped with
    | some why => rw [process_skipped skipped]
    | none =>
      have short : row.side.reached row.unreachedPrice 1 = false := by
        unfold unreachedPrice
        cases row.side <;> simp [Side.reached, Side.ahead]
      refine process_held skipped ?_
      rw [decide_targetPass]
      unfold PartialTakeProfitPolicy.evaluate
      rw [targetPass_exitPrice]
      show (_ : Option _).bind (fun _ : ℚ × ℚ =>
        if row.side.reached row.unreachedPrice 1 = true then _ else none) = none
      rw [short]
      simp
  refine ⟨same, ?_⟩
  unfold cut
  rw [same, if_neg fun fired => fired.2 rfl]

theorem cut_reached (sized : row.Sized size) (positive : 0 < size)
    (part : 0 < fraction ∧ fraction < 1) (managed : row.status.skipped = none) {exponent : ℤ}
    (something : 0 < wanted fraction size exponent)
    (less : row.closedQuantity < wanted fraction size exponent) (left : 0 < row.quantity) :
    ∃ cut, row.cut (targetPass fraction 1 exponent) = some cut ∧
      (0 < cut.left → (row.process (targetPass fraction 1 exponent)).1.status.skipped = none) := by
  have remaining : PartialTakeProfitPolicy.remaining (row.seen (targetPass fraction 1 exponent))
      ⟨some 1, fraction⟩ =
        some (min (wanted fraction size exponent - row.closedQuantity) row.quantity, size) :=
    (PartialTakeProfitPolicy.remaining_eq_some part positive (sized.seen_initial _)).mpr
      ⟨something, less, left, rfl, rfl⟩
  have reached : row.side.reached 1 1 = true := by cases row.side <;> simp [Side.reached]
  obtain ⟨decision, evaluated, reason, quantity⟩ : ∃ decision,
      PartialTakeProfitPolicy.evaluate (row.seen (targetPass fraction 1 exponent))
          (targetPass fraction 1 exponent).market ⟨some 1, fraction⟩ = some decision ∧
        decision.reason = .partialTakeProfit ∧
        decision.quantity =
          some (min (wanted fraction size exponent - row.closedQuantity) row.quantity) := by
    unfold PartialTakeProfitPolicy.evaluate
    rw [targetPass_exitPrice, remaining]
    exact ⟨_, if_pos reached, rfl, rfl⟩
  have decided := (decide_targetPass (row.seen (targetPass fraction 1 exponent))).trans evaluated
  have booked : (row.process (targetPass fraction 1 exponent)).1 =
      row.book decision filledOutcome 1 := process_acted managed decided
  have closed : row.closedNow decision =
      min (wanted fraction size exponent - row.closedQuantity) row.quantity := by
    unfold closedNow
    rw [quantity, Option.getD_some, if_neg (not_lt.mpr (min_le_right _ _))]
  have takes : 0 < row.closedNow decision := closed ▸ lt_min (sub_pos.mpr less) left
  refine ⟨⟨row.quantity - (row.book decision filledOutcome 1).quantity,
    (row.book decision filledOutcome 1).quantity⟩, ?_, fun more => ?_⟩
  · unfold cut
    rw [process_decision managed, decided, booked]
    exact if_pos ⟨congrArg some reason, (sub_lt_self _ takes).ne⟩
  · change 0 < row.quantity - row.closedNow decision at more
    rw [booked]
    show (if row.quantity - row.closedNow decision ≤ 0 then PositionStatus.closed
      else .partiallyClosed).skipped = none
    rw [if_neg (not_le.mpr more)]
    rfl

theorem ScalesOut.of_cut {pass : Pass} {passes : List Pass} {cut : Cut}
    (scales : row.ScalesOut fraction size (pass :: passes)) (made : row.cut pass = some cut) :
    cut.taken ≤ fraction * size ∧ 0 < cut.left ∧ (row.process pass).1.cuts passes = [] := by
  have all : row.cuts (pass :: passes) = cut :: (row.process pass).1.cuts passes := by
    rw [cuts, made, Option.toList_some, List.singleton_append]
  have once := scales.once
  rw [all, List.length_cons, Nat.succ_le_succ_iff, Nat.le_zero, List.length_eq_zero_iff] at once
  have bounded := scales.bounded
  rw [all, once, List.map_singleton, List.sum_singleton] at bounded
  exact ⟨bounded, scales.leaves cut (all ▸ List.mem_cons_self ..), once⟩

theorem cuts_ne_nil {exponents : List ℤ} {exponent : ℤ} (mem : exponent ∈ exponents)
    (fires : row.cut (targetPass fraction 1 exponent) ≠ none) :
    row.cuts (exponents.map fun e =>
      targetPass fraction (if e = exponent then 1 else row.unreachedPrice) e) ≠ [] := by
  induction exponents with
  | nil => cases mem
  | cons e es ih =>
    rw [List.map_cons, cuts]
    by_cases same : e = exponent
    · obtain ⟨cut, made⟩ := Option.ne_none_iff_exists'.mp fires
      rw [if_pos same, same, made, Option.toList_some]
      exact List.cons_ne_nil _ _
    · obtain ⟨unmoved, none⟩ := row.process_unreached e
      rw [if_neg same, none, unmoved, Option.toList_none, List.nil_append]
      exact ih ((List.mem_cons.mp mem).resolve_left fun here => same here.symm)

theorem steady_of_scalesOut {exponents : List ℤ} (opened : row.Opened size)
    (part : 0 < fraction ∧ fraction < 1)
    (every : ∀ passes : List Pass, (∀ pass ∈ passes, pass.Takes fraction) →
      passes.map (fun pass => pass.quantityExponent) = exponents →
      row.ScalesOut fraction size passes) :
    Steady fraction size exponents := by
  -- By induction on the precisions. The first one is tried at the target, alone and with one later.
  have positive := opened.positive
  have share : 0 < fraction * size := mul_pos part.1 positive
  have conserved := opened.conserved
  rw [opened.untouched, add_zero] at conserved
  induction exponents with
  | nil => exact ⟨fun e mem => absurd mem List.not_mem_nil, .nil⟩
  | cons e es ih =>
    have quoted : ∀ (price : ℤ → ℚ) (l : List ℤ),
        (∀ pass ∈ l.map (fun e => targetPass fraction (price e) e), pass.Takes fraction) ∧
          (l.map fun e => targetPass fraction (price e) e).map
            (fun pass => pass.quantityExponent) = l := by
      intro price l
      refine ⟨fun pass mem => ?_, by simp [targetPass, Function.comp_def]⟩
      obtain ⟨e, _, rfl⟩ := List.mem_map.mp mem
      exact targetPass_takes
    obtain ⟨unmoved, none⟩ := row.process_unreached e
    have rest : Steady fraction size es := by
      refine ih fun passes takes same => ?_
      have scales := every (targetPass fraction row.unreachedPrice e :: passes)
        (List.forall_mem_cons.mpr ⟨targetPass_takes, takes⟩) (by rw [List.map_cons, same]; rfl)
      have cuts_eq : row.cuts (targetPass fraction row.unreachedPrice e :: passes) =
          row.cuts passes := by
        rw [cuts, none, unmoved, Option.toList_none, List.nil_append]
      exact ⟨cuts_eq ▸ scales.bounded, cuts_eq ▸ scales.once, cuts_eq ▸ scales.leaves⟩
    by_cases something : 0 < wanted fraction size e
    case neg =>
      have nothing := not_lt.mp something
      exact ⟨List.forall_mem_cons.mpr ⟨nothing.trans share.le, rest.1⟩,
        List.pairwise_cons.mpr ⟨fun _ _ more => absurd more something, rest.2⟩⟩
    case pos =>
      obtain ⟨cut, made, managed⟩ := cut_reached opened.toSized positive part opened.managed
        something (opened.untouched.trans_lt something) (conserved ▸ positive)
      obtain ⟨_, _, taken, left, closed⟩ :=
        cut_cases opened.toSized positive part targetPass_takes made
      rw [opened.untouched, sub_zero, conserved] at taken
      change cut.taken = min (wanted fraction size e) size at taken
      rw [opened.untouched, zero_add] at closed
      -- Whatever the prices of the later passes, nothing more may be taken.
      have first : ∀ price : ℤ → ℚ, cut.taken ≤ fraction * size ∧ 0 < cut.left ∧
          (row.process (targetPass fraction 1 e)).1.cuts
            (es.map fun e => targetPass fraction (price e) e) = [] := by
        intro price
        obtain ⟨takes, same⟩ := quoted price es
        exact (every (targetPass fraction 1 e :: es.map fun e => targetPass fraction (price e) e)
          (List.forall_mem_cons.mpr ⟨targetPass_takes, takes⟩)
          (by rw [List.map_cons, same]; rfl)).of_cut made
      obtain ⟨bounded, more, _⟩ := first fun _ => 1
      have below : fraction * size < size := mul_lt_of_lt_one_left positive part.2
      have all : cut.taken = wanted fraction size e := by
        rcases min_choice (wanted fraction size e) size with same | same
        · rw [taken, same]
        · rw [taken, same] at bounded
          exact absurd bounded (not_le.mpr below)
      have sized := (opened.toSized.process (targetPass fraction 1 e)).1
      refine ⟨List.forall_mem_cons.mpr ⟨all ▸ bounded, rest.1⟩,
        List.pairwise_cons.mpr ⟨fun e' mem _ => not_lt.mp fun larger => ?_, rest.2⟩⟩
      have still : (row.process (targetPass fraction 1 e)).1.quantity = cut.left := by
        have := sized.conserved
        linarith
      obtain ⟨second, again, _⟩ := cut_reached sized positive part (managed more)
        (something.trans larger) (by rw [closed, all]; exact larger) (still ▸ more)
      refine cuts_ne_nil mem (fun none => ?_) (first _).2.2
      rw [again] at none
      cases none

end PositionRow

/-- Whatever the prices, the other policies and the answers of the venue, the passes of a position
take off no more than the fraction of what it opened with, at most once, and leave some open,
exactly when the precisions they read round the fraction steadily. -/
theorem scalesOut_iff_steady {fraction size : ℚ} {row : PositionRow} (opened : row.Opened size)
    (part : 0 < fraction ∧ fraction < 1) (exponents : List ℤ) :
    (∀ passes : List Pass, (∀ pass ∈ passes, pass.Takes fraction) →
      passes.map (fun pass => pass.quantityExponent) = exponents →
      row.ScalesOut fraction size passes) ↔ Steady fraction size exponents := by
  constructor
  · exact PositionRow.steady_of_scalesOut opened part
  · rintro steady passes takes rfl
    exact PositionRow.scalesOut_of_steady opened.toSized opened.positive part takes steady

def openedRow (size : ℚ) : PositionRow := plainRow "1001" size none

theorem openedRow_opened {size : ℚ} (positive : 0 < size) : (openedRow size).Opened size :=
  { conserved := add_zero size
    opened := .inl rfl
    nonneg := positive.le
    taken := le_refl _
    managed := rfl
    untouched := rfl
    positive }

/-- Three tenths of one lot, read to the hundredth and then, after a restart, at the precision of
the column. -/
theorem scalesOut_tenths :
    (openedRow 1).ScalesOut (3 / 10) 1
      [targetPass (3 / 10) 1 (-2), targetPass (3 / 10) 1 (-8)] := by
  refine (scalesOut_iff_steady (openedRow_opened one_pos) ⟨by norm_num, by norm_num⟩ [-2, -8]).mpr
    (by decide +kernel) _ ?_ rfl
  exact List.forall_mem_cons.mpr
    ⟨targetPass_takes, List.forall_mem_singleton.mpr targetPass_takes⟩

/-- Six tenths of a hundredth of a lot, read to the hundredth, is all of it. -/
theorem not_forall_scalesOut :
    ¬ ∀ (fraction size : ℚ) (row : PositionRow) (passes : List Pass),
      0 < fraction ∧ fraction < 1 → row.Opened size → (∀ pass ∈ passes, pass.Takes fraction) →
        row.ScalesOut fraction size passes := by
  intro every
  have scales := every (6 / 10) (1 / 100) (openedRow (1 / 100)) [targetPass (6 / 10) 1 (-2)]
    ⟨by norm_num, by norm_num⟩ (openedRow_opened (by norm_num))
    (List.forall_mem_singleton.mpr targetPass_takes)
  have left : ((openedRow (1 / 100)).cuts [targetPass (6 / 10) 1 (-2)]).map
      (fun cut => cut.left) = [0] := by
    decide +kernel
  obtain ⟨cut, mem, none⟩ := List.mem_map.mp (left ▸ List.mem_singleton_self _)
  exact absurd none (scales.leaves cut mem).ne'

end TradeResearch.Positions
