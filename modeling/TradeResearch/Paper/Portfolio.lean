import Mathlib.Algebra.Order.Ring.Rat
import Mathlib.Tactic.FieldSimp
import Mathlib.Tactic.Linarith
import Mathlib.Tactic.Ring
import TradeResearch.Lib.Method
import TradeResearch.Lib.Table
import TradeResearch.Lib.Text

/-!
# The paper account

Position accounting and equity of `backend/app/paper/portfolio.py`, over exact decimals. What no
fill reads (the account's id, currency and lifecycle state) is left out.

* `PaperPosition` carries that its quantity is positive, and `PaperPortfolio.positions` that no
  symbol has two.
* `FillCase` lists what applying a fill comes to.
* `equity_applyFill` is the conservation of one fill: marked at the price of the fill, the account
  loses the commission and nothing else.
* `conserves_applyFills` is what a sequence of fills leaves: the balance is the starting balance
  less the commissions and plus what was realised, and each position is the sum of its fills.
-/

namespace TradeResearch.Paper

inductive Side where
  | long
  | short
  deriving DecidableEq

def Side.direction : Side → ℚ
  | long => 1
  | short => -1

structure PaperPosition where
  symbol : String
  side : Side
  quantity : ℚ
  averageEntry : ℚ
  openedAt : Time
  updatedAt : Time
  valuePerUnit : ℚ
  stopLoss : Option ℚ
  takeProfit : Option ℚ
  trailingStop : Option ℚ
  realizedPnl : ℚ
  strategyId : Option String
  positive : 0 < quantity

structure ClosedTrade where
  symbol : String
  side : Side
  quantity : ℚ
  entryPrice : ℚ
  exitPrice : ℚ
  openedAt : Time
  closedAt : Time
  grossPnl : ℚ
  commission : ℚ
  netPnl : ℚ
  exitReason : String
  strategyId : Option String

structure Fill where
  symbol : String
  side : String
  quantity : ℚ
  price : ℚ
  commission : ℚ
  time : Time
  valuePerUnit : ℚ
  exitReason : String
  strategyId : Option String

def Fill.wanted (f : Fill) : Side := if f.side = "buy" then .long else .short

def Fill.signed (f : Fill) : ℚ := f.wanted.direction * f.quantity

namespace PaperPosition

def unrealized (p : PaperPosition) (price : ℚ) : ℚ :=
  (price - p.averageEntry) * p.side.direction * p.quantity * p.valuePerUnit

def opened (f : Fill) (quantity : ℚ) (positive : 0 < quantity) : PaperPosition :=
  { symbol := f.symbol
    side := f.wanted
    quantity
    averageEntry := f.price
    openedAt := f.time
    updatedAt := f.time
    valuePerUnit := f.valuePerUnit
    stopLoss := none
    takeProfit := none
    trailingStop := none
    realizedPnl := 0
    strategyId := f.strategyId
    positive }

def added (p : PaperPosition) (f : Fill) (positive : 0 < f.quantity) : PaperPosition :=
  { p with
    quantity := p.quantity + f.quantity
    averageEntry := (p.averageEntry * p.quantity + f.price * f.quantity) /
      (p.quantity + f.quantity)
    updatedAt := f.time
    positive := add_pos p.positive positive }

def gross (p : PaperPosition) (quantity price : ℚ) : ℚ :=
  (price - p.averageEntry) * p.side.direction * quantity * p.valuePerUnit

def closedTrade (p : PaperPosition) (f : Fill) (quantity : ℚ) : ClosedTrade :=
  { symbol := p.symbol
    side := p.side
    quantity
    entryPrice := p.averageEntry
    exitPrice := f.price
    openedAt := p.openedAt
    closedAt := f.time
    grossPnl := p.gross quantity f.price
    commission := f.commission
    netPnl := p.gross quantity f.price - f.commission
    exitReason := f.exitReason
    strategyId := p.strategyId }

def reduced (p : PaperPosition) (f : Fill) (quantity : ℚ) (left : 0 < p.quantity - quantity) :
    PaperPosition :=
  { p with
    quantity := p.quantity - quantity
    realizedPnl := p.realizedPnl + p.gross quantity f.price
    updatedAt := f.time
    positive := left }

def signed (p : PaperPosition) : ℚ := p.side.direction * p.quantity

theorem unrealized_opened (f : Fill) (quantity : ℚ) (positive : 0 < quantity) :
    (opened f quantity positive).unrealized f.price = 0 := by
  unfold unrealized opened
  rw [sub_self, zero_mul, zero_mul, zero_mul]

theorem unrealized_added (p : PaperPosition) (f : Fill) (positive : 0 < f.quantity) :
    (p.added f positive).unrealized f.price = p.unrealized f.price := by
  have total : p.quantity + f.quantity ≠ 0 := (add_pos p.positive positive).ne'
  unfold unrealized added
  field_simp
  ring

theorem unrealized_reduced (p : PaperPosition) (f : Fill) (quantity : ℚ)
    (left : 0 < p.quantity - quantity) :
    p.gross quantity f.price + (p.reduced f quantity left).unrealized f.price =
      p.unrealized f.price := by
  unfold unrealized gross reduced
  ring

theorem gross_whole (p : PaperPosition) (price : ℚ) :
    p.gross p.quantity price = p.unrealized price := rfl

theorem signed_opened (f : Fill) (quantity : ℚ) (positive : 0 < quantity) :
    (opened f quantity positive).signed = f.wanted.direction * quantity := rfl

theorem signed_added {p : PaperPosition} {f : Fill} (along : p.side = f.wanted)
    (positive : 0 < f.quantity) : (p.added f positive).signed = p.signed + f.signed := by
  unfold signed Fill.signed added
  rw [along]
  ring

theorem direction_of_ne {a b : Side} (against : a ≠ b) : a.direction = -b.direction := by
  cases a <;> cases b
  · exact absurd rfl against
  · rfl
  · exact (neg_neg _).symm
  · exact absurd rfl against

theorem signed_reduced {p : PaperPosition} {f : Fill} (against : p.side ≠ f.wanted)
    (left : 0 < p.quantity - f.quantity) :
    (p.reduced f f.quantity left).signed = p.signed + f.signed := by
  unfold signed Fill.signed reduced
  rw [direction_of_ne against]
  ring

theorem signed_closed {p : PaperPosition} {f : Fill} (against : p.side ≠ f.wanted)
    (exact : p.quantity = f.quantity) : p.signed + f.signed = 0 := by
  unfold signed Fill.signed
  rw [direction_of_ne against, exact]
  ring

theorem signed_reversed {p : PaperPosition} {f : Fill} (against : p.side ≠ f.wanted)
    (surplus : 0 < f.quantity - p.quantity) :
    (opened f (f.quantity - p.quantity) surplus).signed = p.signed + f.signed := by
  rw [signed_opened]
  unfold signed Fill.signed
  rw [direction_of_ne against]
  ring

end PaperPosition

structure PaperPortfolio where
  startingBalance : ℚ
  balance : ℚ
  peakEquity : ℚ
  positions : Table PaperPosition.symbol
  trades : List ClosedTrade
  commissionPaid : ℚ

structure PositionError where
  reason : Text

namespace PaperPortfolio

def opened (startingBalance balance peakEquity : ℚ) : PaperPortfolio :=
  { startingBalance
    balance := if balance = 0 then startingBalance else balance
    peakEquity := if peakEquity = 0 then startingBalance else peakEquity
    positions := Table.empty PaperPosition.symbol
    trades := []
    commissionPaid := 0 }

def fresh (startingBalance : ℚ) : PaperPortfolio := opened startingBalance 0 0

def realise (position : PaperPosition) (f : Fill) (quantity : ℚ) :
    Method PositionError PaperPortfolio ClosedTrade := do
  let trade := position.closedTrade f quantity
  modify fun p => { p with balance := p.balance + trade.grossPnl, trades := p.trades ++ [trade] }
  return trade

def take (p : PaperPortfolio) (existing : PaperPosition) (f : Fill) (closing : ℚ) :
    PaperPortfolio :=
  if gone : existing.quantity - closing ≤ 0 then
    { p with positions := p.positions.erase f.symbol }
  else { p with positions := p.positions.put (existing.reduced f closing (not_le.mp gone)) }

def put (p : PaperPortfolio) (position : PaperPosition) : PaperPortfolio :=
  { p with positions := p.positions.put position }

def applyFill (f : Fill) : Method PositionError PaperPortfolio (List ClosedTrade) :=
  if refused : f.quantity ≤ 0 then
    throw ⟨Text.lit "a fill quantity must be positive, not " ++ Text.num f.quantity⟩
  else do
    modify fun p =>
      { p with
        balance := p.balance - f.commission
        commissionPaid := p.commissionPaid + f.commission }
    let p ← get
    match p.positions.find? f.symbol with
    | none => do
      modify fun p => p.put (.opened f f.quantity (not_le.mp refused))
      return []
    | some existing =>
      if existing.side = f.wanted then do
        modify fun p => p.put (existing.added f (not_le.mp refused))
        return []
      else do
        let closing := min existing.quantity f.quantity
        let trade ← realise existing f closing
        modify fun p => p.take existing f closing
        if surplus : 0 < f.quantity - closing then
          modify fun p => p.put (.opened f (f.quantity - closing) surplus)
        return [trade]

def mark (prices : String → Option ℚ) (position : PaperPosition) : ℚ :=
  match prices position.symbol with
  | some price => position.unrealized price
  | none => 0

def unrealized (p : PaperPortfolio) (prices : String → Option ℚ) : ℚ :=
  p.positions.sum (mark prices)

def equity (p : PaperPortfolio) (prices : String → Option ℚ) : ℚ × PaperPortfolio :=
  (p.balance + p.unrealized prices,
    { p with peakEquity := max p.peakEquity (p.balance + p.unrealized prices) })

def charged (p : PaperPortfolio) (f : Fill) : PaperPortfolio :=
  { p with balance := p.balance - f.commission, commissionPaid := p.commissionPaid + f.commission }

def booked (p : PaperPortfolio) (trade : ClosedTrade) : PaperPortfolio :=
  { p with balance := p.balance + trade.grossPnl, trades := p.trades ++ [trade] }

def dropped (p : PaperPortfolio) (symbol : String) : PaperPortfolio :=
  { p with positions := p.positions.erase symbol }

inductive FillCase (f : Fill) (p : PaperPortfolio) :
    Except PositionError (List ClosedTrade) × PaperPortfolio → Prop
  | refused (e : PositionError) (empty : f.quantity ≤ 0) : FillCase f p (.error e, p)
  | opened (positive : 0 < f.quantity) (flat : p.positions.find? f.symbol = none) :
    FillCase f p (.ok [], (p.charged f).put (.opened f f.quantity positive))
  | added (positive : 0 < f.quantity) (existing : PaperPosition)
      (held : p.positions.find? f.symbol = some existing) (along : existing.side = f.wanted) :
    FillCase f p (.ok [], (p.charged f).put (existing.added f positive))
  | reduced (positive : 0 < f.quantity) (existing : PaperPosition)
      (held : p.positions.find? f.symbol = some existing) (against : existing.side ≠ f.wanted)
      (left : 0 < existing.quantity - f.quantity) :
    FillCase f p (.ok [existing.closedTrade f f.quantity],
      ((p.charged f).booked (existing.closedTrade f f.quantity)).put
        (existing.reduced f f.quantity left))
  | closed (positive : 0 < f.quantity) (existing : PaperPosition)
      (held : p.positions.find? f.symbol = some existing) (against : existing.side ≠ f.wanted)
      (exact : existing.quantity = f.quantity) :
    FillCase f p (.ok [existing.closedTrade f existing.quantity],
      ((p.charged f).booked (existing.closedTrade f existing.quantity)).dropped f.symbol)
  | reversed (positive : 0 < f.quantity) (existing : PaperPosition)
      (held : p.positions.find? f.symbol = some existing) (against : existing.side ≠ f.wanted)
      (surplus : 0 < f.quantity - existing.quantity) :
    FillCase f p (.ok [existing.closedTrade f existing.quantity],
      (((p.charged f).booked (existing.closedTrade f existing.quantity)).dropped f.symbol).put
        (.opened f (f.quantity - existing.quantity) surplus))

theorem exec_realise (position : PaperPosition) (f : Fill) (quantity : ℚ) (p : PaperPortfolio) :
    (realise position f quantity).exec p =
      (.ok (position.closedTrade f quantity), p.booked (position.closedTrade f quantity)) := rfl

theorem take_of_left {p : PaperPortfolio} {existing : PaperPosition} {f : Fill} {closing : ℚ}
    (left : 0 < existing.quantity - closing) :
    p.take existing f closing = p.put (existing.reduced f closing left) :=
  dif_neg (not_le.mpr left)

theorem take_of_gone {p : PaperPortfolio} {existing : PaperPosition} {f : Fill} {closing : ℚ}
    (gone : existing.quantity - closing ≤ 0) :
    p.take existing f closing = p.dropped f.symbol :=
  dif_pos gone

theorem applyFill_cases (f : Fill) (p : PaperPortfolio) :
    FillCase f p ((applyFill f).exec p) := by
  unfold applyFill
  by_cases refused : f.quantity ≤ 0
  · rw [dif_pos refused]
    exact .refused _ refused
  have positive : 0 < f.quantity := not_le.mp refused
  rw [dif_neg refused, Method.exec_modify_bind, Method.exec_get_bind]
  cases held : p.positions.find? f.symbol with
  | none => exact .opened positive held
  | some existing =>
    dsimp only
    by_cases along : existing.side = f.wanted
    · rw [if_pos along]
      exact .added positive existing held along
    rw [if_neg along]
    rcases lt_trichotomy f.quantity existing.quantity with part | whole | beyond
    · have left : 0 < existing.quantity - f.quantity := sub_pos.mpr part
      rw [min_eq_right part.le, Method.exec_bind_ok (exec_realise ..), Method.exec_modify_bind,
        take_of_left left, dif_neg (by rw [sub_self]; exact lt_irrefl 0)]
      exact .reduced positive existing held along left
    · rw [whole, min_self, Method.exec_bind_ok (exec_realise ..), Method.exec_modify_bind,
        take_of_gone (by rw [sub_self]), dif_neg (by rw [sub_self]; exact lt_irrefl 0)]
      exact .closed positive existing held along whole.symm
    · have surplus : 0 < f.quantity - existing.quantity := sub_pos.mpr beyond
      rw [min_eq_left beyond.le, Method.exec_bind_ok (exec_realise ..), Method.exec_modify_bind,
        take_of_gone (by rw [sub_self]), dif_pos surplus, Method.exec_modify_bind]
      exact .reversed positive existing held along surplus

section Conservation

variable (p : PaperPortfolio) (f : Fill)

def paidIn : ℚ := p.balance - (p.trades.map ClosedTrade.grossPnl).sum

def signedQuantity (symbol : String) : ℚ :=
  ((p.positions.find? symbol).map PaperPosition.signed).getD 0

theorem paidIn_booked (trade : ClosedTrade) : (p.booked trade).paidIn = p.paidIn := by
  unfold paidIn booked
  rw [List.map_append, List.sum_append, List.map_singleton, List.sum_singleton]
  ring

theorem paidIn_charged : (p.charged f).paidIn = p.paidIn - f.commission := by
  unfold paidIn charged
  ring

theorem paidIn_applyFill :
    ((applyFill f).left p).paidIn =
      if 0 < f.quantity then p.paidIn - f.commission else p.paidIn := by
  have outcome := applyFill_cases f p
  unfold Method.left
  generalize (applyFill f).exec p = out at outcome
  cases outcome with
  | refused e empty => rw [if_neg (not_lt.mpr empty)]
  | opened positive flat | added positive existing held along =>
    rw [if_pos positive]
    exact p.paidIn_charged f
  | reduced positive existing held against left | closed positive existing held against exact
  | reversed positive existing held against surplus =>
    rw [if_pos positive]
    exact ((p.charged f).paidIn_booked _).trans (p.paidIn_charged f)

theorem signedQuantity_put (position : PaperPosition) (symbol : String) :
    (p.put position).signedQuantity symbol =
      if symbol = position.symbol then position.signed else p.signedQuantity symbol := by
  unfold signedQuantity put
  rw [Table.find?_put]
  split
  · rfl
  · rfl

theorem signedQuantity_dropped (gone symbol : String) :
    (p.dropped gone).signedQuantity symbol =
      if symbol = gone then 0 else p.signedQuantity symbol := by
  unfold signedQuantity dropped
  rw [Table.find?_erase]
  split
  · rfl
  · rfl

theorem signedQuantity_of_held {existing : PaperPosition} {symbol : String}
    (held : p.positions.find? symbol = some existing) :
    p.signedQuantity symbol = existing.signed := by
  unfold signedQuantity
  rw [held]
  rfl

theorem signedQuantity_applyFill (symbol : String) :
    ((applyFill f).left p).signedQuantity symbol =
      p.signedQuantity symbol + if 0 < f.quantity ∧ f.symbol = symbol then f.signed else 0 := by
  have outcome := applyFill_cases f p
  unfold Method.left
  generalize (applyFill f).exec p = out at outcome
  by_cases here : symbol = f.symbol
  · subst here
    cases outcome with
    | refused e empty =>
      rw [if_neg fun taken => absurd taken.1 (not_lt.mpr empty), add_zero]
    | opened positive flat =>
      have none : p.signedQuantity f.symbol = 0 := by
        unfold signedQuantity
        rw [flat]
        rfl
      rw [if_pos ⟨positive, rfl⟩, none, zero_add, signedQuantity_put]
      exact if_pos rfl
    | added positive existing held along =>
      rw [if_pos ⟨positive, rfl⟩, p.signedQuantity_of_held held, signedQuantity_put]
      have same := Table.key_of_find? held
      rw [← PaperPosition.signed_added along positive]
      exact if_pos same.symm
    | reduced positive existing held against left =>
      rw [if_pos ⟨positive, rfl⟩, p.signedQuantity_of_held held, signedQuantity_put]
      have same := Table.key_of_find? held
      rw [← PaperPosition.signed_reduced against left]
      exact if_pos same.symm
    | closed positive existing held against exact =>
      rw [if_pos ⟨positive, rfl⟩, p.signedQuantity_of_held held, signedQuantity_dropped,
        PaperPosition.signed_closed against exact]
      exact if_pos rfl
    | reversed positive existing held against surplus =>
      rw [if_pos ⟨positive, rfl⟩, p.signedQuantity_of_held held, signedQuantity_put,
        ← PaperPosition.signed_reversed against surplus]
      exact if_pos rfl
  · rw [if_neg fun taken => here taken.2.symm, add_zero]
    cases outcome with
    | refused e empty => rfl
    | opened positive flat =>
      rw [signedQuantity_put]
      exact if_neg here
    | added positive existing held along | reduced positive existing held against left =>
      have same := Table.key_of_find? held
      rw [signedQuantity_put]
      exact if_neg fun there => here (there.trans same)
    | closed positive existing held against exact =>
      rw [signedQuantity_dropped]
      exact if_neg here
    | reversed positive existing held against surplus =>
      rw [signedQuantity_put, signedQuantity_dropped, if_neg here]
      exact if_neg here

variable {p f}

theorem mark_of_priced {position : PaperPosition} {price : ℚ} (here : position.symbol = f.symbol)
    (priced : prices f.symbol = some price) : mark prices position = position.unrealized price := by
  unfold mark
  rw [here, priced]

theorem equity_charged (p : PaperPortfolio) (f : Fill) (prices : String → Option ℚ) :
    ((p.charged f).equity prices).1 = (p.equity prices).1 - f.commission := by
  unfold equity unrealized charged
  ring

theorem equity_booked (p : PaperPortfolio) (trade : ClosedTrade) (prices : String → Option ℚ) :
    ((p.booked trade).equity prices).1 = (p.equity prices).1 + trade.grossPnl := by
  unfold equity unrealized booked
  ring

theorem equity_put_of_free {position : PaperPosition}
    (free : p.positions.find? position.symbol = none) :
    ((p.put position).equity prices).1 = (p.equity prices).1 + mark prices position := by
  have written := Table.sum_put (mark prices) p.positions position
  rw [free] at written
  change (p.put position).unrealized prices + 0 = p.unrealized prices + _ at written
  show p.balance + (p.put position).unrealized prices = p.balance + p.unrealized prices + _
  linarith

theorem equity_put_of_held {existing position : PaperPosition}
    (held : p.positions.find? position.symbol = some existing) :
    ((p.put position).equity prices).1 =
      (p.equity prices).1 - mark prices existing + mark prices position := by
  have written := Table.sum_put (mark prices) p.positions position
  rw [held] at written
  change (p.put position).unrealized prices + mark prices existing =
    p.unrealized prices + _ at written
  show p.balance + (p.put position).unrealized prices = p.balance + p.unrealized prices - _ + _
  linarith

theorem equity_dropped {existing : PaperPosition} {symbol : String}
    (held : p.positions.find? symbol = some existing) :
    ((p.dropped symbol).equity prices).1 = (p.equity prices).1 - mark prices existing := by
  have left := Table.sum_erase (mark prices) p.positions symbol
  rw [held] at left
  change (p.dropped symbol).unrealized prices + mark prices existing = p.unrealized prices at left
  show p.balance + (p.dropped symbol).unrealized prices = p.balance + p.unrealized prices - _
  linarith

theorem equity_applyFill (positive : 0 < f.quantity) (priced : prices f.symbol = some f.price) :
    (((applyFill f).left p).equity prices).1 = (p.equity prices).1 - f.commission := by
  have outcome := applyFill_cases f p
  unfold Method.left
  generalize (applyFill f).exec p = out at outcome
  rw [← equity_charged]
  cases outcome with
  | refused e empty => exact absurd positive (not_lt.mpr empty)
  | opened positive flat =>
    have free : (p.charged f).positions.find?
        (PaperPosition.opened f f.quantity positive).symbol = none := flat
    rw [equity_put_of_free free, mark_of_priced rfl priced, PaperPosition.unrealized_opened,
      add_zero]
  | added positive existing held along =>
    have here := Table.key_of_find? held
    have there : (existing.added f positive).symbol = f.symbol := here
    rw [equity_put_of_held (p := p.charged f) (there ▸ held), mark_of_priced here priced,
      mark_of_priced there priced, PaperPosition.unrealized_added, sub_add_cancel]
  | reduced positive existing held against left =>
    have here := Table.key_of_find? held
    have there : (existing.reduced f f.quantity left).symbol = f.symbol := here
    have split := existing.unrealized_reduced f f.quantity left
    rw [equity_put_of_held (p := (p.charged f).booked _) (there ▸ held), equity_booked,
      mark_of_priced here priced, mark_of_priced there priced, ← split]
    show _ + existing.gross f.quantity f.price - _ + _ = _
    ring
  | closed positive existing held against exact =>
    have here := Table.key_of_find? held
    rw [equity_dropped (p := (p.charged f).booked _) held, equity_booked,
      mark_of_priced here priced]
    show _ + existing.gross existing.quantity f.price - _ = _
    rw [PaperPosition.gross_whole, add_sub_cancel_right]
  | reversed positive existing held against surplus =>
    have here := Table.key_of_find? held
    have free : (((p.charged f).booked (existing.closedTrade f existing.quantity)).dropped
        f.symbol).positions.find? f.symbol = none := by
      show (p.positions.erase f.symbol).find? f.symbol = none
      rw [Table.find?_erase, if_pos rfl]
    rw [equity_put_of_free free, mark_of_priced rfl priced, PaperPosition.unrealized_opened,
      add_zero, equity_dropped (p := (p.charged f).booked _) held, equity_booked,
      mark_of_priced here priced]
    show _ + existing.gross existing.quantity f.price - _ = _
    rw [PaperPosition.gross_whole, add_sub_cancel_right]

end Conservation

def applyFills (p : PaperPortfolio) (fills : List Fill) : PaperPortfolio :=
  fills.foldl (fun p f => (applyFill f).left p) p

def taken (fills : List Fill) : List Fill := fills.filter fun f => 0 < f.quantity

structure Conserves (startingBalance : ℚ) (fills : List Fill) (p : PaperPortfolio) : Prop where
  balance : p.balance = startingBalance - ((taken fills).map Fill.commission).sum +
    (p.trades.map ClosedTrade.grossPnl).sum
  quantity : ∀ symbol, p.signedQuantity symbol =
    (((taken fills).filter fun f => f.symbol = symbol).map Fill.signed).sum

def Neutral (p : PaperPortfolio) (f : Fill) : Prop :=
  0 < f.quantity → ∀ prices : String → Option ℚ, prices f.symbol = some f.price →
    (((applyFill f).left p).equity prices).1 = (p.equity prices).1 - f.commission

theorem taken_cons (f : Fill) (fills : List Fill) :
    taken (f :: fills) = if 0 < f.quantity then f :: taken fills else taken fills := by
  unfold taken
  rw [List.filter_cons]
  simp only [decide_eq_true_eq]

theorem paidIn_applyFills (p : PaperPortfolio) (fills : List Fill) :
    (p.applyFills fills).paidIn = p.paidIn - ((taken fills).map Fill.commission).sum := by
  induction fills generalizing p with
  | nil => exact (sub_zero _).symm
  | cons f fills ih =>
    have rest := ih ((applyFill f).left p)
    rw [paidIn_applyFill] at rest
    rw [taken_cons]
    change (((applyFill f).left p).applyFills fills).paidIn = _
    rw [rest]
    split
    · rw [List.map_cons, List.sum_cons]
      ring
    · rfl

theorem signedQuantity_applyFills (p : PaperPortfolio) (fills : List Fill) (symbol : String) :
    (p.applyFills fills).signedQuantity symbol = p.signedQuantity symbol +
      (((taken fills).filter fun f => f.symbol = symbol).map Fill.signed).sum := by
  induction fills generalizing p with
  | nil => exact (add_zero _).symm
  | cons f fills ih =>
    have rest := ih ((applyFill f).left p)
    rw [signedQuantity_applyFill] at rest
    rw [taken_cons]
    change (((applyFill f).left p).applyFills fills).signedQuantity symbol = _
    rw [rest]
    by_cases positive : 0 < f.quantity
    · rw [if_pos positive]
      by_cases here : f.symbol = symbol
      · rw [if_pos ⟨positive, here⟩, List.filter_cons_of_pos (by simpa using here), List.map_cons,
          List.sum_cons, add_assoc]
      · rw [if_neg fun both => here both.2, List.filter_cons_of_neg (by simpa using here), add_zero]
    · rw [if_neg positive, if_neg fun both => positive both.1, add_zero]

/-- Every sequence of fills leaves the account with what was paid in, less the commissions, and
what was realised; every symbol with the sum of its fills; and every fill on the way costs, at its
own price, its commission. -/
theorem conserves_applyFills (startingBalance : ℚ) (fills : List Fill) :
    Conserves startingBalance fills ((fresh startingBalance).applyFills fills) ∧
      ∀ before f after, fills = before ++ f :: after →
        ((fresh startingBalance).applyFills before).Neutral f := by
  refine ⟨⟨?_, fun symbol => ?_⟩, fun before f after _ positive prices priced => ?_⟩
  · have paid := (fresh startingBalance).paidIn_applyFills fills
    have start : (fresh startingBalance).paidIn = startingBalance := by
      show (if (0 : ℚ) = 0 then startingBalance else 0) - 0 = startingBalance
      rw [if_pos rfl, sub_zero]
    rw [start] at paid
    unfold paidIn at paid
    linarith
  · rw [signedQuantity_applyFills]
    exact zero_add _
  · exact equity_applyFill positive priced

end PaperPortfolio

end TradeResearch.Paper
