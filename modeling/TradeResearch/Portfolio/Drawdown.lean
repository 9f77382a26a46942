import Mathlib.Algebra.Order.Ring.Rat
import Mathlib.Data.List.Induction
import TradeResearch.Lib.Drops
import TradeResearch.Lib.Text

/-!
# Drawdown

`Drawdown` of `backend/app/portfolio/pnl.py`, folded over an equity curve. `as_dict` is left out.

* `observed_fromCurve`: the largest drawdown is the furthest fall of the curve.
-/

namespace TradeResearch.Portfolio

structure Drawdown where
  peakEquity : Option ℚ := none
  peakAt : Option Time := none
  currentEquity : Option ℚ := none
  maxDrawdown : Option ℚ := none
  maxDrawdownAt : Option Time := none
  deriving DecidableEq

namespace Drawdown

variable (d : Drawdown)

def raised (equity : ℚ) (at_ : Time) : ℚ × Option Time :=
  match d.peakEquity with
  | none => (equity, some at_)
  | some peak => if peak < equity then (equity, some at_) else (peak, d.peakAt)

def observe (equity : ℚ) (at_ : Time) : Drawdown :=
  let (peak, peakAt) := d.raised equity at_
  let drop := peak - equity
  let d := { d with peakEquity := some peak, peakAt, currentEquity := some equity }
  if 0 < drop ∧ d.maxDrawdown.all (· < drop) then
    { d with maxDrawdown := some drop, maxDrawdownAt := some at_ }
  else d

end Drawdown

def fromCurve (points : List (Time × ℚ)) : Drawdown :=
  points.foldl (fun d point => d.observe point.2 point.1) {}

namespace Drawdown

structure Observed (xs : List ℚ) (d : Drawdown) : Prop where
  peak : ∀ p, d.peakEquity = some p → IsPeak xs p
  unread : d.peakEquity = none → xs = []
  drop : IsLargestDrop xs (d.maxDrawdown.getD 0)

variable {xs : List ℚ} {d : Drawdown}

theorem observed_nil : Observed [] {} :=
  ⟨fun _ here => (by cases here), fun _ => rfl, isLargestDrop_nil⟩

theorem Observed.raised (observed : Observed xs d) (equity : ℚ) (at_ : Time) :
    IsPeak (xs ++ [equity]) (d.raised equity at_).1 := by
  unfold Drawdown.raised
  cases is : d.peakEquity with
  | none =>
    rw [observed.unread is]
    exact isPeak_singleton equity
  | some peak =>
    have higher := (observed.peak peak is).append equity
    dsimp only
    by_cases above : peak < equity
    · rw [if_pos above]
      rwa [max_eq_right above.le] at higher
    · rw [if_neg above]
      rwa [max_eq_left (not_lt.mp above)] at higher

theorem observe_maxDrawdown (kept : 0 ≤ d.maxDrawdown.getD 0) (equity : ℚ) (at_ : Time) :
    (d.observe equity at_).maxDrawdown.getD 0 =
      max (d.maxDrawdown.getD 0) ((d.raised equity at_).1 - equity) := by
  unfold Drawdown.observe
  dsimp only
  generalize (d.raised equity at_).1 - equity = drop
  by_cases larger : d.maxDrawdown.getD 0 < drop
  · have all : d.maxDrawdown.all (· < drop) = true := by
      cases is : d.maxDrawdown with
      | none => rfl
      | some most =>
        rw [is] at larger
        exact decide_eq_true larger
    rw [if_pos ⟨kept.trans_lt larger, all⟩, max_eq_right larger.le]
    rfl
  · have stays : ¬ (0 < drop ∧ d.maxDrawdown.all (· < drop) = true) := by
      intro ⟨positive, all⟩
      cases is : d.maxDrawdown with
      | none =>
        rw [is] at larger
        exact larger positive
      | some most =>
        rw [is] at larger all
        exact larger (of_decide_eq_true all)
    rw [if_neg stays, max_eq_left (not_lt.mp larger)]

theorem Observed.observe (observed : Observed xs d) (equity : ℚ) (at_ : Time) :
    Observed (xs ++ [equity]) (d.observe equity at_) := by
  have peak := observed.raised equity at_
  have kept : (d.observe equity at_).peakEquity = some (d.raised equity at_).1 := by
    unfold Drawdown.observe
    dsimp only
    split <;> rfl
  refine ⟨?_, ?_, ?_⟩
  · intro p is
    rw [kept] at is
    exact Option.some.inj is ▸ peak
  · intro none_
    rw [kept] at none_
    cases none_
  · rw [observe_maxDrawdown (observed.drop.2 (Set.mem_insert _ _))]
    exact observed.drop.append peak

end Drawdown

theorem observed_fromCurve (points : List (Time × ℚ)) :
    (fromCurve points).Observed (points.map Prod.snd) := by
  unfold fromCurve
  induction points using List.reverseRecOn with
  | nil => exact Drawdown.observed_nil
  | append_singleton points point ih =>
    rw [List.foldl_append, List.map_append]
    exact ih.observe point.2 point.1

end TradeResearch.Portfolio
