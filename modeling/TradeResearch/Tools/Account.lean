import Mathlib.Algebra.BigOperators.Group.List.Basic
import Mathlib.Algebra.Order.Field.Rat
import Mathlib.Data.List.Sort
import Mathlib.Tactic.Linarith
import Mathlib.Tactic.Ring

/-!
# Round trips out of the deal log

`closed_trades` of `tools/mt5_account.py`, which pairs the deals of an account into trades. Money
and volumes are rationals; `rounded` is Python's `round`, and `iso` the text of an instant.

* `volumes` is what the deals of a position opened and closed, by the exposure each was taken at.
* `mem_closedTrades_iff`: a trade is reported of each position with an opening and a closing deal.
* `closedTrades_flat_iff` is when only finished positions are.
-/

namespace TradeResearch.Tools

inductive DealEntry where
  | in
  | out
  | inOut
  | outBy
  deriving DecidableEq, Repr

structure Deal where
  ticket : ℤ
  positionId : ℤ
  type : ℕ
  entry : DealEntry
  symbol : String
  volume : ℚ
  price : ℚ
  profit : ℚ
  commission : ℚ
  swap : ℚ
  fee : ℚ
  time : ℤ
  timeMsc : ℤ
  reason : ℤ
  magic : ℤ
  comment : String
  deriving DecidableEq

namespace Deal

def opens (d : Deal) : Bool := decide (d.entry = .in ∨ d.entry = .inOut)

def closes (d : Deal) : Bool := decide (d.entry = .out ∨ d.entry = .inOut ∨ d.entry = .outBy)

def net (d : Deal) : ℚ := d.profit + d.commission + d.swap + d.fee

def signed (d : Deal) : ℚ := if d.type = 0 then d.volume else -d.volume

def Before (a b : Deal) : Prop :=
  a.timeMsc < b.timeMsc ∨ (a.timeMsc = b.timeMsc ∧ a.ticket ≤ b.ticket)

instance : DecidableRel Before := fun _ _ => inferInstanceAs (Decidable (_ ∨ _))

end Deal

def trading (deals : List Deal) : List Deal := deals.filter fun d => decide (d.type < 2)

def dealsOf (deals : List Deal) (positionId : ℤ) : List Deal :=
  (trading deals).filter fun d => decide (d.positionId = positionId)

def inOrder (ds : List Deal) : List Deal := ds.insertionSort Deal.Before

structure ClosedTrade where
  positionId : ℤ
  symbol : String
  direction : String
  volume : ℚ
  openTime : String
  closeTime : String
  holdSeconds : ℤ
  holdHours : ℚ
  entryPrice : ℚ
  exitPrice : ℚ
  grossProfit : ℚ
  commission : ℚ
  swap : ℚ
  netProfit : ℚ
  dealCount : ℕ
  closeReason : ℤ
  magic : ℤ

def weightedPrice (ds : List Deal) (other : Deal) : ℚ :=
  if (ds.map Deal.volume).sum = 0 then other.price
  else (ds.map fun d => d.price * d.volume).sum / (ds.map Deal.volume).sum

def netOf (ds : List Deal) : ℚ := (ds.map Deal.net).sum

section Closed

variable (iso : ℤ → String) (rounded : ℕ → ℚ → ℚ)

def roundTrip (positionId : ℤ) (ds : List Deal) : Option ClosedTrade :=
  match (ds.filter Deal.opens).head?, (ds.filter Deal.closes).getLast? with
  | some first, some last =>
    some
      { positionId
        symbol := first.symbol
        direction := if first.type = 0 then "long" else "short"
        volume := rounded 4 ((ds.filter Deal.opens).map Deal.volume).sum
        openTime := iso first.time
        closeTime := iso last.time
        holdSeconds := last.time - first.time
        holdHours := rounded 2 ((last.time - first.time : ℤ) / 3600)
        entryPrice := rounded 6 (weightedPrice (ds.filter Deal.opens) first)
        exitPrice := rounded 6 (weightedPrice (ds.filter Deal.closes) last)
        grossProfit := rounded 2 (ds.map Deal.profit).sum
        commission := rounded 2 (ds.map Deal.commission).sum
        swap := rounded 2 (ds.map Deal.swap).sum
        netProfit := rounded 2 (netOf ds)
        dealCount := ds.length
        closeReason := last.reason
        magic := first.magic }
  | _, _ => none

def positionIds (deals : List Deal) : List ℤ := ((trading deals).map Deal.positionId).eraseDups

def closedTrades (deals : List Deal) : List ClosedTrade :=
  ((positionIds deals).filterMap fun positionId =>
    roundTrip iso rounded positionId (inOrder (dealsOf deals positionId))).insertionSort
      fun a b => a.closeTime ≤ b.closeTime

end Closed

def volumes : ℚ → List Deal → ℚ × ℚ
  | _, [] => (0, 0)
  | held, d :: ds =>
    let after := volumes (held + d.signed) ds
    if 0 ≤ held * d.signed then (after.1 + |d.signed|, after.2)
    else (after.1 + (|d.signed| - min |d.signed| |held|), after.2 + min |d.signed| |held|)

def openingVolume (ds : List Deal) : ℚ := (volumes 0 (inOrder ds)).1

def closingVolume (ds : List Deal) : ℚ := (volumes 0 (inOrder ds)).2

def Flat (ds : List Deal) : Prop := closingVolume ds = openingVolume ds

instance (ds : List Deal) : Decidable (Flat ds) := inferInstanceAs (Decidable (_ = _))

def Paired (ds : List Deal) : Prop := (∃ d ∈ ds, d.opens = true) ∧ ∃ d ∈ ds, d.closes = true

instance (ds : List Deal) : Decidable (Paired ds) := inferInstanceAs (Decidable (_ ∧ _))

theorem netOf_of_perm {ds ds' : List Deal} (same : ds.Perm ds') : netOf ds = netOf ds' :=
  (same.map _).sum_eq

theorem exists_roundTrip_iff {ds : List Deal} :
    (∃ trade, roundTrip iso rounded positionId ds = some trade) ↔ Paired ds := by
  unfold roundTrip Paired
  constructor
  · rintro ⟨trade, made⟩
    cases first : (ds.filter Deal.opens).head? with
    | none =>
      rw [first] at made
      cases made
    | some d =>
      cases last : (ds.filter Deal.closes).getLast? with
      | none =>
        rw [first, last] at made
        cases made
      | some d' =>
        have opening := List.mem_filter.mp (List.mem_of_mem_head? first)
        have closing := List.mem_filter.mp (List.mem_of_mem_getLast? last)
        exact ⟨⟨d, opening⟩, d', closing⟩
  · rintro ⟨⟨d, mem, opens⟩, d', mem', closes⟩
    cases first : (ds.filter Deal.opens).head? with
    | none =>
      have missed := List.mem_filter.mpr ⟨mem, opens⟩
      rw [List.head?_eq_none_iff.mp first] at missed
      cases missed
    | some _ =>
      cases last : (ds.filter Deal.closes).getLast? with
      | none =>
        have missed := List.mem_filter.mpr ⟨mem', closes⟩
        rw [List.getLast?_eq_none_iff.mp last] at missed
        cases missed
      | some _ => exact ⟨_, rfl⟩

theorem roundTrip_eq_some {ds : List Deal} {trade : ClosedTrade}
    (made : roundTrip iso rounded positionId ds = some trade) :
    trade.positionId = positionId ∧ trade.netProfit = rounded 2 (netOf ds) ∧
      (ds.filter Deal.opens).head?.map Deal.magic = some trade.magic := by
  unfold roundTrip at made
  cases first : (ds.filter Deal.opens).head? with
  | none =>
    rw [first] at made
    cases made
  | some d =>
    cases last : (ds.filter Deal.closes).getLast? with
    | none =>
      rw [first, last] at made
      cases made
    | some d' =>
      rw [first, last] at made
      cases made
      exact ⟨rfl, rfl, rfl⟩

theorem mem_closedTrades_iff {trade : ClosedTrade} : trade ∈ closedTrades iso rounded deals ↔
    ∃ positionId, roundTrip iso rounded positionId (inOrder (dealsOf deals positionId)) =
      some trade := by
  unfold closedTrades
  rw [List.mem_insertionSort, List.mem_filterMap]
  refine exists_congr fun positionId => and_iff_right_of_imp fun made => ?_
  obtain ⟨⟨d, mem, _⟩, _⟩ := exists_roundTrip_iff.mp ⟨trade, made⟩
  rw [inOrder, List.mem_insertionSort] at mem
  obtain ⟨mem, same⟩ := List.mem_filter.mp mem
  unfold positionIds
  rw [List.mem_eraseDups]
  exact List.mem_map.mpr ⟨d, mem, of_decide_eq_true same⟩

theorem paired_inOrder {ds : List Deal} : Paired (inOrder ds) ↔ Paired ds := by
  unfold Paired inOrder
  simp only [List.mem_insertionSort]

theorem closedTrades_flat_iff :
    (∀ trade ∈ closedTrades iso rounded deals, Flat (dealsOf deals trade.positionId)) ↔
      ∀ positionId, Paired (dealsOf deals positionId) → Flat (dealsOf deals positionId) := by
  constructor
  · intro flat positionId paired
    obtain ⟨trade, made⟩ : ∃ trade, roundTrip iso rounded positionId
        (inOrder (dealsOf deals positionId)) = some trade :=
      exists_roundTrip_iff.mpr (paired_inOrder.mpr paired)
    have own := flat trade (mem_closedTrades_iff.mpr ⟨positionId, made⟩)
    rwa [(roundTrip_eq_some made).1] at own
  · intro flat trade mem
    obtain ⟨positionId, made⟩ := mem_closedTrades_iff.mp mem
    rw [(roundTrip_eq_some made).1]
    exact flat positionId (paired_inOrder.mp (exists_roundTrip_iff.mp ⟨trade, made⟩))

end TradeResearch.Tools
