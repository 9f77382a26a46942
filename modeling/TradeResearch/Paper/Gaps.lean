import TradeResearch.Paper.Service

/-!
# Exits at a bar that gaps

`check_brackets` closes a position at the level of the bracket, and asks of the bar only that its
far end reaches the level. A bar that opened past the stop, or that lies past the target as a whole,
never traded there.

* `TradedBar` is a bar with its open, its four prices in order.
* `PaperPosition.PricedInside` is what an exit price should be.
* `checkBrackets_hit` is the exit that is booked; `pricedInside_iff_unjumped` says at which bars its
  price is inside.
-/

namespace TradeResearch.Paper

structure TradedBar extends PaperBar where
  opened : ℚ
  low_le_opened : low ≤ opened
  opened_le_high : opened ≤ high
  low_le_close : low ≤ close
  close_le_high : close ≤ high

def Side.Better : Side → ℚ → ℚ → Prop
  | long, price, other => other < price
  | short, price, other => price < other

def PaperBar.worst (bar : PaperBar) : Side → ℚ
  | .long => bar.low
  | .short => bar.high

def PaperBar.best (bar : PaperBar) : Side → ℚ
  | .long => bar.high
  | .short => bar.low

structure PaperPosition.PricedInside (p : PaperPosition) (bar : TradedBar) (price : ℚ) : Prop where
  above : bar.low ≤ price
  below : price ≤ bar.high
  fair : ∀ stop, p.stopLoss = some stop → p.side.Better stop bar.opened →
    ¬ p.side.Better price bar.opened

structure PaperPosition.Unjumped (p : PaperPosition) (bar : TradedBar) : Prop where
  stop : ∀ stop, p.stopLoss = some stop → ¬ p.side.Better stop bar.opened
  target : (∀ stop, p.stopLoss = some stop → p.side.Better (bar.worst p.side) stop) →
    ∀ target, p.takeProfit = some target → ¬ p.side.Better (bar.worst p.side) target

section Hit

variable {p : PaperPosition} {bar : TradedBar}

inductive HitCase (p : PaperPosition) (bar : PaperBar) : Option (ℚ × String) → Prop
  | stop (level : ℚ) (is : p.stopLoss = some level)
      (reached : ¬ p.side.Better (bar.worst p.side) level) :
    HitCase p bar (some (level, "stop_loss"))
  | target (level : ℚ) (is : p.takeProfit = some level)
      (clear : ∀ stop, p.stopLoss = some stop → p.side.Better (bar.worst p.side) stop)
      (reached : ¬ p.side.Better level (bar.best p.side)) :
    HitCase p bar (some (level, "take_profit"))
  | none (clear : ∀ stop, p.stopLoss = some stop → p.side.Better (bar.worst p.side) stop)
      (unreached : ∀ target, p.takeProfit = some target →
        p.side.Better target (bar.best p.side)) :
    HitCase p bar none

theorem or_map_cases (stop target : Option ℚ) (lost won : ℚ → Bool) (a b : String) :
    (∃ level, stop = some level ∧ lost level = true ∧
      ((stop.filter lost).map fun price => (price, a)).or
        ((target.filter won).map fun price => (price, b)) = some (level, a)) ∨
    (∀ level, stop = some level → lost level = false) ∧
      ((∃ level, target = some level ∧ won level = true ∧
        ((stop.filter lost).map fun price => (price, a)).or
          ((target.filter won).map fun price => (price, b)) = some (level, b)) ∨
      (∀ level, target = some level → won level = false) ∧
        ((stop.filter lost).map fun price => (price, a)).or
          ((target.filter won).map fun price => (price, b)) = none) := by
  cases stop with
  | none => cases target with
    | none => simp
    | some t => cases hit : won t <;> simp [Option.filter, hit]
  | some s =>
    cases stopped : lost s with
    | true => simp [Option.filter, stopped]
    | false => cases target with
      | none => simp [Option.filter, stopped]
      | some t => cases hit : won t <;> simp [Option.filter, stopped, hit]

theorem hit_cases (p : PaperPosition) (bar : PaperBar) : HitCase p bar (p.hit bar) := by
  unfold PaperPosition.hit
  cases side : p.side with
  | long =>
    rcases or_map_cases p.stopLoss p.takeProfit (fun stop => bar.low ≤ stop)
      (fun target => target ≤ bar.high) "stop_loss" "take_profit" with
      ⟨level, is, reached, eq⟩ | ⟨clear, ⟨level, is, reached, eq⟩ | ⟨unreached, eq⟩⟩
    all_goals dsimp only; rw [eq]
    · exact .stop level is (by rw [side]; exact not_lt.mpr (of_decide_eq_true reached))
    · refine .target level is (fun stop set => ?_)
        (by rw [side]; exact not_lt.mpr (of_decide_eq_true reached))
      rw [side]
      exact not_le.mp (of_decide_eq_false (clear stop set))
    · refine .none (fun stop set => ?_) fun target set => ?_
      · rw [side]
        exact not_le.mp (of_decide_eq_false (clear stop set))
      · rw [side]
        exact not_le.mp (of_decide_eq_false (unreached target set))
  | short =>
    rcases or_map_cases p.stopLoss p.takeProfit (fun stop => stop ≤ bar.high)
      (fun target => bar.low ≤ target) "stop_loss" "take_profit" with
      ⟨level, is, reached, eq⟩ | ⟨clear, ⟨level, is, reached, eq⟩ | ⟨unreached, eq⟩⟩
    all_goals dsimp only; rw [eq]
    · exact .stop level is (by rw [side]; exact not_lt.mpr (of_decide_eq_true reached))
    · refine .target level is (fun stop set => ?_)
        (by rw [side]; exact not_lt.mpr (of_decide_eq_true reached))
      rw [side]
      exact not_le.mp (of_decide_eq_false (clear stop set))
    · refine .none (fun stop set => ?_) fun target set => ?_
      · rw [side]
        exact not_le.mp (of_decide_eq_false (clear stop set))
      · rw [side]
        exact not_le.mp (of_decide_eq_false (unreached target set))

theorem unpassed_of_clear {stop : ℚ} (clear : p.side.Better (bar.worst p.side) stop) :
    ¬ p.side.Better stop bar.opened := by
  intro past
  cases side : p.side with
  | long =>
    rw [side] at clear past
    exact absurd (lt_trans past clear) (not_lt.mpr bar.low_le_opened)
  | short =>
    rw [side] at clear past
    exact absurd (lt_trans clear past) (not_lt.mpr bar.opened_le_high)

theorem unjumped_of_unreached {target : ℚ} (unreached : p.side.Better target (bar.best p.side)) :
    ¬ p.side.Better (bar.worst p.side) target := by
  intro past
  have ordered := bar.low_le_opened.trans bar.opened_le_high
  cases side : p.side with
  | long =>
    rw [side] at unreached past
    exact absurd (lt_trans unreached past) (not_lt.mpr ordered)
  | short =>
    rw [side] at unreached past
    exact absurd (lt_trans past unreached) (not_lt.mpr ordered)

theorem pricedInside_stop_iff {stop : ℚ} (is : p.stopLoss = some stop)
    (reached : ¬ p.side.Better (bar.worst p.side) stop) :
    p.PricedInside bar stop ↔ ¬ p.side.Better stop bar.opened := by
  refine ⟨fun inside past => inside.fair stop is past past, fun before => ?_⟩
  have low := bar.low_le_opened
  have high := bar.opened_le_high
  have fair : ∀ other, p.stopLoss = some other → p.side.Better other bar.opened →
      ¬ p.side.Better stop bar.opened := fun _ _ _ => before
  cases side : p.side with
  | long =>
    rw [side] at reached before
    exact ⟨not_lt.mp reached, (not_lt.mp before).trans high, fair⟩
  | short =>
    rw [side] at reached before
    exact ⟨low.trans (not_lt.mp before), not_lt.mp reached, fair⟩

theorem pricedInside_target_iff {target : ℚ}
    (clear : ∀ stop, p.stopLoss = some stop → p.side.Better (bar.worst p.side) stop)
    (reached : ¬ p.side.Better target (bar.best p.side)) :
    p.PricedInside bar target ↔ ¬ p.side.Better (bar.worst p.side) target := by
  have fair : ∀ stop, p.stopLoss = some stop → p.side.Better stop bar.opened →
      ¬ p.side.Better target bar.opened :=
    fun stop set past => absurd past (unpassed_of_clear (clear stop set))
  constructor
  · intro inside
    cases side : p.side with
    | long => exact not_lt.mpr inside.above
    | short => exact not_lt.mpr inside.below
  · intro before
    cases side : p.side with
    | long =>
      rw [side] at reached before
      exact ⟨not_lt.mp before, not_lt.mp reached, fair⟩
    | short =>
      rw [side] at reached before
      exact ⟨not_lt.mp reached, not_lt.mp before, fair⟩

end Hit

section Exit

variable {b : PaperBot}

theorem fillOnce_closingFill (held : b.portfolio.positions.find? b.symbol = some p) (price : ℚ)
    (reason : String) (now : Time) :
    ∃ portfolio, fillOnce b.portfolio (some (b.closingFill p price reason now)) =
      .ok ([p.closedTrade (b.closingFill p price reason now) p.quantity], portfolio) := by
  have other : ∀ side : Side, side ≠ if side.closing = "buy" then .long else .short := by
    intro side
    cases side <;> decide
  have against : p.side ≠ (b.closingFill p price reason now).wanted := other p.side
  have whole : p.quantity = (b.closingFill p price reason now).quantity := rfl
  have filled := PaperPortfolio.applyFill_cases (b.closingFill p price reason now) b.portfolio
  unfold fillOnce
  dsimp only
  generalize (PaperPortfolio.applyFill (b.closingFill p price reason now)).exec b.portfolio = made
    at filled
  cases filled with
  | refused e empty => exact absurd p.positive (not_lt.mpr empty)
  | opened positive flat => exact absurd (held.symm.trans flat) (by simp)
  | added positive existing found along =>
    cases held.symm.trans found
    exact absurd along against
  | reduced positive existing found _ left =>
    cases held.symm.trans found
    exact absurd left (by rw [whole, sub_self]; exact lt_irrefl 0)
  | closed positive existing found _ exact_ =>
    cases held.symm.trans found
    exact ⟨_, rfl⟩
  | reversed positive existing found _ surplus =>
    cases held.symm.trans found
    exact absurd surplus (by rw [whole, sub_self]; exact lt_irrefl 0)

theorem checkBrackets_hit (held : b.portfolio.positions.find? b.symbol = some p) {bar : PaperBar}
    {level : ℚ × String} (hit : p.hit bar = some level) (now : Time) :
    ∃ b' o, b.checkBrackets bar now = .ok (b', [o]) ∧ ∃ trade, o.closed = [trade] ∧
      trade.exitPrice = level.1 ∧ trade.exitReason = level.2 ∧ trade.quantity = p.quantity := by
  have fill : b.bracketFill bar now = some (b.closingFill p level.1 level.2 now) := by
    unfold PaperBot.bracketFill
    rw [held, Option.bind_some, hit, Option.map_some]
  obtain ⟨portfolio, made⟩ := fillOnce_closingFill held level.1 level.2 now
  unfold PaperBot.checkBrackets
  rw [fill]
  dsimp only
  rw [made]
  exact ⟨_, _, rfl, _, rfl, rfl, rfl, rfl⟩

theorem checkBrackets_unhit (held : b.portfolio.positions.find? b.symbol = some p) {bar : PaperBar}
    (unhit : p.hit bar = none) (now : Time) : b.checkBrackets bar now = .ok (b, []) := by
  unfold PaperBot.checkBrackets PaperBot.bracketFill
  rw [held, Option.bind_some, unhit]
  rfl

/-- The exit that a check of the brackets books is priced inside what the bar traded exactly when
the bar jumps neither bracket. -/
theorem pricedInside_iff_unjumped (held : b.portfolio.positions.find? b.symbol = some p)
    (bar : TradedBar) (now : Time) :
    (∀ b' outcomes, b.checkBrackets bar.toPaperBar now = .ok (b', outcomes) →
      ∀ o ∈ outcomes, ∀ trade ∈ o.closed, p.PricedInside bar trade.exitPrice) ↔
      p.Unjumped bar := by
  -- Where the check books something, the question is put to the level it books.
  have booked : ∀ level, p.hit bar.toPaperBar = some level →
      ((∀ b' outcomes, b.checkBrackets bar.toPaperBar now = .ok (b', outcomes) →
        ∀ o ∈ outcomes, ∀ trade ∈ o.closed, p.PricedInside bar trade.exitPrice) ↔
        p.PricedInside bar level.1) := by
    intro level hit
    obtain ⟨b', o, checked, trade, closed, price, -, -⟩ := checkBrackets_hit held hit now
    constructor
    · intro every
      exact price ▸ every b' [o] checked o (List.mem_singleton_self o) trade
        (closed ▸ List.mem_singleton_self trade)
    · intro inside c outcomes checked' o' mem trade' mem'
      cases checked.symm.trans checked'
      rw [List.mem_singleton.mp mem, closed] at mem'
      rw [List.mem_singleton.mp mem', price]
      exact inside
  have hit := hit_cases p bar.toPaperBar
  generalize is_hit : p.hit bar.toPaperBar = what at hit
  cases hit with
  | stop level is reached =>
    rw [booked _ is_hit, pricedInside_stop_iff is reached]
    constructor
    · intro before
      refine ⟨fun stop set => ?_, fun clear => absurd (clear level is) reached⟩
      exact Option.some.inj (is.symm.trans set) ▸ before
    · exact fun unjumped => unjumped.stop level is
  | target level is clear reached =>
    rw [booked _ is_hit, pricedInside_target_iff clear reached]
    constructor
    · intro before
      refine ⟨fun stop set => unpassed_of_clear (clear stop set), fun _ target set => ?_⟩
      exact Option.some.inj (is.symm.trans set) ▸ before
    · exact fun unjumped => unjumped.target clear level is
  | none clear unreached =>
    refine iff_of_true (fun b' outcomes checked o mem => ?_)
      ⟨fun stop set => unpassed_of_clear (clear stop set),
        fun _ target set => unjumped_of_unreached (unreached target set)⟩
    cases (checkBrackets_unhit held is_hit now).symm.trans checked
    exact absurd mem List.not_mem_nil

end Exit

def bracketedLong : PaperPosition :=
  { symbol := "EURUSD", side := .long, quantity := 1, averageEntry := 100, openedAt := 0,
    updatedAt := 0, valuePerUnit := 1, stopLoss := some 95, takeProfit := some 110,
    trailingStop := none, realizedPnl := 0, strategyId := none, positive := one_pos }

def bracketedBot : PaperBot :=
  { run := 0, accountId := "account", symbol := "EURUSD", perUnit := some 1,
    commissionPerTrade := 0, strategyId := none,
    portfolio := (PaperPortfolio.fresh 1000).put bracketedLong }

theorem bracketedBot_holds :
    bracketedBot.portfolio.positions.find? bracketedBot.symbol = some bracketedLong := rfl

def throughBar : TradedBar :=
  { low := 94, high := 98, close := 96, opened := 97, low_le_opened := by norm_num,
    opened_le_high := by norm_num, low_le_close := by norm_num, close_le_high := by norm_num }

def gapBar : TradedBar :=
  { low := 88, high := 92, close := 91, opened := 90, low_le_opened := by norm_num,
    opened_le_high := by norm_num, low_le_close := by norm_num, close_le_high := by norm_num }

/-- The stop is booked inside the bar that trades through it. -/
theorem pricedInside_through :
    ∃ b' o trade, bracketedBot.checkBrackets throughBar.toPaperBar 1 = .ok (b', [o]) ∧
      o.closed = [trade] ∧ bracketedLong.PricedInside throughBar trade.exitPrice := by
  obtain ⟨b', o, checked, trade, closed, -⟩ :=
    @checkBrackets_hit bracketedBot bracketedLong bracketedBot_holds throughBar.toPaperBar
      (95, "stop_loss") (by decide +kernel) 1
  have unjumped : bracketedLong.Unjumped throughBar :=
    { stop := by
        intro stop set
        cases set
        exact not_lt.mpr (show (95 : ℚ) ≤ 97 by norm_num)
      target := by
        intro clear
        exact absurd (clear 95 rfl) (not_lt.mpr (show (94 : ℚ) ≤ 95 by norm_num)) }
  exact ⟨b', o, trade, checked, closed,
    (pricedInside_iff_unjumped bracketedBot_holds throughBar 1).mpr unjumped b' [o] checked o
      (List.mem_singleton_self o) trade (closed ▸ List.mem_singleton_self trade)⟩

/-- At the gap the exit is booked at ninety-five: above the bar, and above its open. -/
theorem not_forall_pricedInside :
    ¬ ∀ (b : PaperBot) (p : PaperPosition) (bar : TradedBar) (now : Time),
      b.portfolio.positions.find? b.symbol = some p →
        ∀ b' outcomes, b.checkBrackets bar.toPaperBar now = .ok (b', outcomes) →
          ∀ o ∈ outcomes, ∀ trade ∈ o.closed, p.PricedInside bar trade.exitPrice := by
  intro every
  obtain ⟨b', o, checked, trade, closed, price, -, -⟩ :=
    @checkBrackets_hit bracketedBot bracketedLong bracketedBot_holds gapBar.toPaperBar
      (95, "stop_loss") (by decide +kernel) 1
  have inside := every bracketedBot bracketedLong gapBar 1 bracketedBot_holds b' [o] checked o
    (List.mem_singleton_self o) trade (closed ▸ List.mem_singleton_self trade)
  rw [price] at inside
  exact absurd inside.below (show ¬ (95 : ℚ) ≤ 92 by norm_num)

end TradeResearch.Paper
