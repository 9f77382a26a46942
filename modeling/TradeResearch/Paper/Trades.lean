import TradeResearch.Paper.Portfolio

/-!
# What the trade records explain

The net figure of a closed trade is what it made less the commission of the fill that closed it. The
commission of a fill that opened a position, or added to one, leaves the balance and is written into
no trade.

* `unexplained_applyFill`: each fill moves the sum of the trades away from the balance by its
  commission when it opens or adds, and by nothing when it closes.
* `explained_iff`: the trades explain the balance of every sequence of fills in which these
  commissions come to nothing, and of no other.
-/

namespace TradeResearch.Paper

namespace PaperPortfolio

def netPnl (trades : List ClosedTrade) : ℚ := (trades.map ClosedTrade.netPnl).sum

def realisedSince (p : PaperPortfolio) (start : Time) : ℚ :=
  netPnl (p.trades.filter fun t => start ≤ t.closedAt)

def Flat (p : PaperPortfolio) : Prop := p.positions.rows = []

def entryCommission (p : PaperPortfolio) (f : Fill) : ℚ :=
  if 0 < f.quantity ∧ 0 ≤ f.wanted.direction * p.signedQuantity f.symbol then f.commission else 0

def entryCommissions : PaperPortfolio → List Fill → ℚ
  | _, [] => 0
  | p, f :: fills => p.entryCommission f + entryCommissions ((applyFill f).left p) fills

def unexplained (p : PaperPortfolio) : ℚ := netPnl p.trades - p.balance

theorem netPnl_append (trades trades' : List ClosedTrade) :
    netPnl (trades ++ trades') = netPnl trades + netPnl trades' := by
  unfold netPnl
  rw [List.map_append, List.sum_append]

theorem netPnl_singleton (trade : ClosedTrade) : netPnl [trade] = trade.netPnl :=
  List.sum_singleton

theorem unexplained_charged (p : PaperPortfolio) (f : Fill) :
    (p.charged f).unexplained = p.unexplained + f.commission := by
  unfold unexplained charged
  ring

theorem unexplained_booked (p : PaperPortfolio) (existing : PaperPosition) (f : Fill)
    (quantity : ℚ) :
    ((p.charged f).booked (existing.closedTrade f quantity)).unexplained = p.unexplained := by
  unfold unexplained booked charged
  rw [netPnl_append, netPnl_singleton]
  unfold PaperPosition.closedTrade
  ring

theorem direction_mul_self (side : Side) : side.direction * side.direction = 1 := by
  cases side
  · exact one_mul 1
  · exact neg_one_mul (-1) |>.trans (neg_neg 1)

theorem entryCommission_of_refused {p : PaperPortfolio} {f : Fill} (empty : f.quantity ≤ 0) :
    p.entryCommission f = 0 :=
  if_neg fun both => absurd both.1 (not_lt.mpr empty)

theorem entryCommission_of_flat {p : PaperPortfolio} {f : Fill} (positive : 0 < f.quantity)
    (flat : p.positions.find? f.symbol = none) : p.entryCommission f = f.commission := by
  refine if_pos ⟨positive, ?_⟩
  unfold signedQuantity
  rw [flat]
  exact (mul_zero _).ge

theorem entryCommission_of_along {p : PaperPortfolio} {f : Fill} {existing : PaperPosition}
    (positive : 0 < f.quantity) (held : p.positions.find? f.symbol = some existing)
    (along : existing.side = f.wanted) : p.entryCommission f = f.commission := by
  refine if_pos ⟨positive, ?_⟩
  rw [p.signedQuantity_of_held held, PaperPosition.signed, along, ← mul_assoc, direction_mul_self,
    one_mul]
  exact existing.positive.le

theorem entryCommission_of_against {p : PaperPortfolio} {f : Fill} {existing : PaperPosition}
    (held : p.positions.find? f.symbol = some existing) (against : existing.side ≠ f.wanted) :
    p.entryCommission f = 0 := by
  refine if_neg fun both => ?_
  have further := both.2
  rw [p.signedQuantity_of_held held, PaperPosition.signed,
    PaperPosition.direction_of_ne against, ← mul_assoc, mul_neg, direction_mul_self] at further
  have positive := existing.positive
  linarith

theorem unexplained_applyFill (p : PaperPortfolio) (f : Fill) :
    ((applyFill f).left p).unexplained = p.unexplained + p.entryCommission f := by
  have outcome := applyFill_cases f p
  unfold Method.left
  generalize (applyFill f).exec p = out at outcome
  cases outcome with
  | refused e empty => rw [entryCommission_of_refused empty, add_zero]
  | opened positive flat =>
    rw [entryCommission_of_flat positive flat]
    exact p.unexplained_charged f
  | added positive existing held along =>
    rw [entryCommission_of_along positive held along]
    exact p.unexplained_charged f
  | reduced positive existing held against left | closed positive existing held against exact
  | reversed positive existing held against surplus =>
    rw [entryCommission_of_against held against, add_zero]
    exact p.unexplained_booked existing f _

theorem unexplained_applyFills (p : PaperPortfolio) (fills : List Fill) :
    (p.applyFills fills).unexplained = p.unexplained + p.entryCommissions fills := by
  induction fills generalizing p with
  | nil => exact (add_zero _).symm
  | cons f fills ih =>
    have rest := ih ((applyFill f).left p)
    rw [unexplained_applyFill, add_assoc] at rest
    exact rest

theorem applyFills_append (p : PaperPortfolio) (before after : List Fill) :
    p.applyFills (before ++ after) = (p.applyFills before).applyFills after :=
  List.foldl_append ..

theorem trades_applyFill (p : PaperPortfolio) (f : Fill) :
    ∃ closed, ((applyFill f).left p).trades = p.trades ++ closed ∧
      ∀ t ∈ closed, t.closedAt = f.time := by
  have outcome := applyFill_cases f p
  unfold Method.left
  generalize (applyFill f).exec p = out at outcome
  have none (trades : List ClosedTrade) :
      ∃ closed, trades = trades ++ closed ∧ ∀ t ∈ closed, t.closedAt = f.time :=
    ⟨[], (List.append_nil _).symm, fun t mem => absurd mem List.not_mem_nil⟩
  have one (existing : PaperPosition) (quantity : ℚ) :
      ∃ closed, p.trades ++ [existing.closedTrade f quantity] = p.trades ++ closed ∧
        ∀ t ∈ closed, t.closedAt = f.time :=
    ⟨_, rfl, fun t mem => by rw [List.mem_singleton.mp mem]; rfl⟩
  cases outcome with
  | refused e empty | opened positive flat | added positive existing held along =>
      exact none p.trades
  | reduced positive existing held against left | closed positive existing held against exact =>
      exact one existing _
  | reversed positive existing held against surplus => exact one existing _

theorem trades_applyFills (p : PaperPortfolio) (fills : List Fill) :
    ∃ closed, (p.applyFills fills).trades = p.trades ++ closed ∧
      ∀ t ∈ closed, ∃ f ∈ fills, t.closedAt = f.time := by
  induction fills generalizing p with
  | nil => exact ⟨[], (List.append_nil _).symm, fun t mem => absurd mem List.not_mem_nil⟩
  | cons f fills ih =>
    obtain ⟨first, here, times⟩ := p.trades_applyFill f
    obtain ⟨rest, there, times'⟩ := ih ((applyFill f).left p)
    refine ⟨first ++ rest, ?_, fun t mem => ?_⟩
    · rw [← List.append_assoc, ← here]
      exact there
    · rcases List.mem_append.mp mem with now | later
      · exact ⟨f, List.mem_cons_self .., times t now⟩
      · obtain ⟨g, mem', time⟩ := times' t later
        exact ⟨g, List.mem_cons_of_mem _ mem', time⟩

structure Divides (start : Time) (before after : List Fill) : Prop where
  earlier : ∀ f ∈ before, f.time < start
  later : ∀ f ∈ after, start ≤ f.time

theorem realisedSince_of_divides {startingBalance : ℚ} {start : Time} {before after : List Fill}
    (divides : Divides start before after) :
    ((fresh startingBalance).applyFills (before ++ after)).realisedSince start =
      netPnl ((fresh startingBalance).applyFills (before ++ after)).trades -
        netPnl ((fresh startingBalance).applyFills before).trades := by
  rw [applyFills_append]
  obtain ⟨old, first, times⟩ := (fresh startingBalance).trades_applyFills before
  obtain ⟨new, second, times'⟩ :=
    ((fresh startingBalance).applyFills before).trades_applyFills after
  have none : old.filter (fun t => start ≤ t.closedAt) = [] := by
    rw [List.filter_eq_nil_iff]
    intro t mem
    obtain ⟨f, mem', time⟩ := times t mem
    simpa [time] using divides.earlier f mem'
  have all : new.filter (fun t => start ≤ t.closedAt) = new := by
    rw [List.filter_eq_self]
    intro t mem
    obtain ⟨f, mem', time⟩ := times' t mem
    simpa [time] using divides.later f mem'
  have began : ((fresh startingBalance).applyFills before).trades = old := first
  unfold realisedSince
  rw [second, began, List.filter_append, none, all, List.nil_append, netPnl_append,
    add_sub_cancel_left]

structure Explained (startingBalance : ℚ) (fills : List Fill) : Prop where
  total : netPnl ((fresh startingBalance).applyFills fills).trades =
    ((fresh startingBalance).applyFills fills).balance - startingBalance
  since : ∀ before after start, fills = before ++ after → Divides start before after →
    ((fresh startingBalance).applyFills fills).realisedSince start ≤
      ((fresh startingBalance).applyFills fills).balance -
        ((fresh startingBalance).applyFills before).balance

structure Uncharged (startingBalance : ℚ) (fills : List Fill) : Prop where
  total : (fresh startingBalance).entryCommissions fills = 0
  since : ∀ before after start, fills = before ++ after → Divides start before after →
    ((fresh startingBalance).applyFills before).entryCommissions after ≤ 0

theorem fresh_unexplained (startingBalance : ℚ) :
    (fresh startingBalance).unexplained = -startingBalance := by
  show 0 - (if (0 : ℚ) = 0 then startingBalance else 0) = -startingBalance
  rw [if_pos rfl, zero_sub]

/-- The trades explain the balance exactly when the commissions of the fills that open or add
come to nothing. -/
theorem explained_iff (startingBalance : ℚ) (fills : List Fill) :
    Explained startingBalance fills ↔ Uncharged startingBalance fills := by
  have whole : netPnl ((fresh startingBalance).applyFills fills).trades -
      ((fresh startingBalance).applyFills fills).balance =
        -startingBalance + (fresh startingBalance).entryCommissions fills :=
    fresh_unexplained startingBalance ▸ (fresh startingBalance).unexplained_applyFills fills
  have part : ∀ before after start, fills = before ++ after → Divides start before after →
      ((fresh startingBalance).applyFills fills).realisedSince start -
        (((fresh startingBalance).applyFills fills).balance -
          ((fresh startingBalance).applyFills before).balance) =
        ((fresh startingBalance).applyFills before).entryCommissions after := by
    rintro before after start rfl divides
    have moved := ((fresh startingBalance).applyFills before).unexplained_applyFills after
    rw [← applyFills_append] at moved
    unfold unexplained at moved
    rw [realisedSince_of_divides divides]
    linarith
  constructor
  · rintro ⟨total, since⟩
    refine ⟨by linarith, fun before after start split divides => ?_⟩
    have most := since before after start split divides
    have same := part before after start split divides
    linarith
  · rintro ⟨total, since⟩
    refine ⟨by linarith, fun before after start split divides => ?_⟩
    have most := since before after start split divides
    have same := part before after start split divides
    linarith

def roundTrip : List Fill :=
  [{ symbol := "EURUSD", side := "buy", quantity := 1, price := 100, commission := 1, time := 0,
      valuePerUnit := 1, exitReason := "signal", strategyId := none },
    { symbol := "EURUSD", side := "sell", quantity := 1, price := 100, commission := 1, time := 1,
      valuePerUnit := 1, exitReason := "signal", strategyId := none }]

/-- The round trip costs two and its trade shows one. -/
theorem not_forall_explained :
    ¬ ∀ (startingBalance : ℚ) (fills : List Fill),
      ((fresh startingBalance).applyFills fills).Flat → Explained startingBalance fills := by
  intro all
  have flat : ((fresh 1000).applyFills roundTrip).Flat :=
    List.length_eq_zero_iff.mp (by decide +kernel)
  have wrong := (all 1000 roundTrip flat).total
  revert wrong
  decide +kernel

end PaperPortfolio

end TradeResearch.Paper
