import Mathlib.Data.List.MinMax
import TradeResearch.Datasets.Features

/-!
# The label engine

`backend/app/datasets/labels.py`: what happened after a bar, within the horizon. A configuration
that `__post_init__` refuses cannot be built. The fingerprint and the manifest are left out.

* `within_labelRows`: a row of labels reads the horizon ahead and no further.
-/

namespace TradeResearch.Datasets

open Marketdata Lookahead

inductive Outcome where
  | win
  | loss
  | timeout
  | ambiguous
  deriving DecidableEq, Repr

inductive Direction where
  | up
  | down
  | flat
  deriving DecidableEq, Repr

def implausibleSpreadPrice : ℚ := 1 / 10

structure LabelConfig where
  spreadPoints : ℚ
  horizon : ℕ := 24
  flatThreshold : ℚ := 0
  stopAtr : ℚ := 3 / 2
  takeProfitAtr : ℚ := 3 / 2
  atrPeriod : ℕ := 14
  horizon_pos : 1 ≤ horizon := by decide
  spread_bounds : 0 ≤ spreadPoints ∧ spreadPoints ≤ implausibleSpreadPrice := by decide +kernel
  threshold_nonneg : 0 ≤ flatThreshold := by decide +kernel
  distances_pos : 0 < stopAtr ∧ 0 < takeProfitAtr := by decide +kernel
  period_bound : 2 ≤ atrPeriod := by decide

inductive Label where
  | forwardReturn
  | direction
  | bracketOutcome
  | mfeAtr
  | maeAtr
  deriving DecidableEq, Repr

namespace Label

def name : Label → String
  | forwardReturn => "forward_return"
  | direction => "direction"
  | bracketOutcome => "bracket_outcome"
  | mfeAtr => "mfe_atr"
  | maeAtr => "mae_atr"

def catalogue : List Label := [forwardReturn, direction, bracketOutcome, mfeAtr, maeAtr]

end Label

inductive LabelError where
  | unknown (name : String)
  deriving DecidableEq, Repr

def labelFor (name : String) : Except LabelError Label :=
  match Label.catalogue.find? fun l => l.name = name with
  | some l => .ok l
  | none => .error (.unknown name)

structure Labels where
  forwardReturn : Option ℚ := none
  direction : Option Direction := none
  bracketOutcome : Option Outcome := none
  mfeAtr : Option ℚ := none
  maeAtr : Option ℚ := none
  deriving DecidableEq

structure LabelRow extends Labels where
  resolvedAtOffset : Option ℕ := none
  deriving DecidableEq

def Labels.has (labels : Labels) : Label → Bool
  | .forwardReturn => labels.forwardReturn.isSome
  | .direction => labels.direction.isSome
  | .bracketOutcome => labels.bracketOutcome.isSome
  | .mfeAtr => labels.mfeAtr.isSome
  | .maeAtr => labels.maeAtr.isSome

def Labels.isComplete (labels : Labels) (names : List Label) : Bool := names.all labels.has

def walk (highs lows : List ℚ) (start last : ℕ) (stop target : ℚ) : Outcome × Option ℕ :=
  let reached (j : ℕ) : Option (Outcome × Option ℕ) :=
    let hitTarget := target ≤ highs.getD j 0
    let hitStop := lows.getD j 0 ≤ stop
    if hitTarget ∧ hitStop then some (.ambiguous, some (j - start + 1))
    else if hitTarget then some (.win, some (j - start + 1))
    else if hitStop then some (.loss, some (j - start + 1))
    else none
  ((List.range' start (last + 1 - start)).findSome? reached).getD (.timeout, none)

def ahead (values : List ℚ) (i last : ℕ) : List ℚ := (values.take (last + 1)).drop (i + 1)

def labelRow (config : LabelConfig) (closes highs lows : List ℚ) (atr : List (Option ℚ)) (i : ℕ) :
    LabelRow :=
  let last := i + config.horizon
  if closes.length ≤ last then {}
  else
    let entry := closes.getD i 0
    let netExit := closes.getD last 0 - config.spreadPoints
    let forward := if 0 < entry then some (netExit / entry - 1) else none
    let direction := forward.map fun move =>
      if |move| ≤ config.flatThreshold then Direction.flat
      else if 0 < move then .up else .down
    match (atr.getD i none).filter (0 < ·) with
    | none => { forwardReturn := forward, direction }
    | some distance =>
      let found := walk highs lows (i + 1) last (entry - config.stopAtr * distance)
        (entry + config.takeProfitAtr * distance)
      { forwardReturn := forward, direction, bracketOutcome := some found.1,
        mfeAtr := (ahead highs i last).max?.map fun top => (top - entry) / distance,
        maeAtr := (ahead lows i last).min?.map fun bottom => (entry - bottom) / distance,
        resolvedAtOffset := found.2 }

def labelRows (config : LabelConfig) (bars : List Bar) : List LabelRow :=
  let atr := Tools.atrSeries bars config.atrPeriod
  (List.range bars.length).map
    (labelRow config (bars.map Bar.close) (bars.map Bar.high) (bars.map Bar.low) atr)

def computeLabels (bars : List Bar) (config : LabelConfig) (names : List String) :
    Except LabelError (List LabelRow) := do
  let _ ← names.mapM labelFor
  return labelRows config bars

@[simp] theorem length_labelRows (config : LabelConfig) (bars : List Bar) :
    (labelRows config bars).length = bars.length := by
  simp [labelRows]

theorem getElem?_labelRows (config : LabelConfig) {bars : List Bar} {i : ℕ}
    (inside : i < bars.length) :
    (labelRows config bars)[i]? = some
      (labelRow config (bars.map Bar.close) (bars.map Bar.high) (bars.map Bar.low)
        (Tools.atrSeries bars config.atrPeriod) i) := by
  unfold labelRows
  rw [List.getElem?_map, List.getElem?_range inside, Option.map_some]

theorem findSome?_congr {α β : Type} {f g : α → Option β} {xs : List α}
    (same : ∀ a ∈ xs, f a = g a) : xs.findSome? f = xs.findSome? g := by
  induction xs with
  | nil => rfl
  | cons a xs ih =>
    rw [List.findSome?_cons, List.findSome?_cons, same a List.mem_cons_self,
      ih fun b mem => same b (List.mem_cons_of_mem a mem)]

theorem walk_take (highs lows : List ℚ) {start last k : ℕ} (inside : last < k) (stop target : ℚ) :
    walk (highs.take k) (lows.take k) start last stop target =
      walk highs lows start last stop target := by
  refine congrArg (Option.getD · _) (findSome?_congr fun j among => ?_)
  obtain ⟨after, below⟩ := List.mem_range'_1.mp among
  have before : j < k := by omega
  rw [getD_take before, getD_take before]

theorem ahead_take (values : List ℚ) {i last k : ℕ} (inside : last < k) :
    ahead (values.take k) i last = ahead values i last := by
  unfold ahead
  rw [List.take_take, min_eq_left (by omega)]

theorem labelRow_take (config : LabelConfig) (closes highs lows : List ℚ) (atr : List (Option ℚ))
    {i k : ℕ} (inside : i + config.horizon < k) :
    labelRow config (closes.take k) (highs.take k) (lows.take k) (atr.take k) i =
      labelRow config closes highs lows atr i := by
  have before : i < k := by omega
  have ends : (closes.take k).length ≤ i + config.horizon ↔ closes.length ≤ i + config.horizon := by
    rw [List.length_take]
    omega
  unfold labelRow
  simp only [getD_take before, getD_take inside, walk_take _ _ inside, ahead_take _ inside, ends]

theorem within_labelRows (config : LabelConfig) : Within config.horizon (labelRows config) := by
  intro bars k i inside
  by_cases short : i < bars.length
  · rw [getElem?_labelRows config (by rw [List.length_take]; omega),
      getElem?_labelRows config short, List.map_take, List.map_take, List.map_take,
      Tools.atrSeries_take, labelRow_take config _ _ _ _ inside]
  · rw [List.getElem?_eq_none (by rw [length_labelRows, List.length_take]; omega),
      List.getElem?_eq_none (by rw [length_labelRows]; omega)]

end TradeResearch.Datasets
