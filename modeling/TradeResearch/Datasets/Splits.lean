import Mathlib.Data.Rat.Floor
import TradeResearch.Lib.Text

/-!
# Splitting

`backend/app/datasets/splits.py`: chronological cuts of an ordered series, and the walk-forward
folds. An error keeps what it is about; its text is left out, and so is what a split says of itself.

* `Tiles`: ranges one after the other that hold exactly the rows between two ends.
* `tiles_chronological` and `tiles_walkForward`: the parts of a split, and those of the folds.
-/

namespace TradeResearch.Datasets

structure Rows where
  start : ℕ
  stop : ℕ
  deriving DecidableEq, Repr

structure Split where
  train : Rows
  validation : Rows
  test : Rows
  boundaries : Option Time × Option Time
  deriving DecidableEq

structure Fold where
  index : ℕ
  train : Rows
  test : Rows
  deriving DecidableEq

inductive SplitError where
  | emptySeries
  | fractions
  | noTest
  | unordered (row : ℕ)
  | tooFewRows
  | singleFold
  | initialTrain
  deriving DecidableEq, Repr

def requireOrdered (times : List Time) : Except SplitError Unit :=
  match (List.range times.length).find? fun i => 1 ≤ i ∧ times.getD i 0 < times.getD (i - 1) 0 with
  | some row => .error (.unordered row)
  | none => .ok ()

def share (n : ℕ) (fraction : ℚ) : ℕ := ⌊n * fraction⌋.toNat

def chronological (times : List Time) (train validation : ℚ) : Except SplitError Split :=
  if times = [] then .error .emptySeries
  else if train ≤ 0 ∨ validation < 0 then .error .fractions
  else if 1 ≤ train + validation then .error .noTest
  else
    match requireOrdered times with
    | .error e => .error e
    | .ok () =>
      let n := times.length
      let trainEnd := share n train
      let validationEnd := trainEnd + share n validation
      if trainEnd < 1 ∨ n ≤ validationEnd then .error .tooFewRows
      else
        .ok
          { train := ⟨0, trainEnd⟩, validation := ⟨trainEnd, validationEnd⟩,
            test := ⟨validationEnd, n⟩,
            boundaries := (times[trainEnd - 1]?, times[validationEnd - 1]?) }

def defaultInitialTrain : ℚ := 2 / 5

def testStart (n folds : ℕ) (initialTrain : ℚ) (k : ℕ) : ℕ :=
  let start := share n initialTrain
  start + k * ((n - start) / folds)

def walkForward (times : List Time) (folds : ℕ) (initialTrain : ℚ) :
    Except SplitError (List Fold) :=
  if folds < 2 then .error .singleFold
  else if ¬(0 < initialTrain ∧ initialTrain < 1) then .error .initialTrain
  else
    match requireOrdered times with
    | .error e => .error e
    | .ok () =>
      let n := times.length
      let start := share n initialTrain
      let remaining := n - start
      if start < 1 ∨ remaining < folds then .error .tooFewRows
      else
        let from_ := testStart n folds initialTrain
        .ok ((List.range folds).map fun k =>
          let testEnd := if k = folds - 1 then n else from_ k + remaining / folds
          ⟨k + 1, ⟨0, from_ k⟩, ⟨from_ k, testEnd⟩⟩)

def Rows.Holds (part : Rows) (row : ℕ) : Prop := part.start ≤ row ∧ row < part.stop

structure Tiles (parts : List Rows) (first last : ℕ) : Prop where
  ordered : parts.Pairwise fun earlier later => earlier.stop ≤ later.start
  held : ∀ row, (∃ part ∈ parts, part.Holds row) ↔ first ≤ row ∧ row < last

theorem Tiles.nil (first : ℕ) : Tiles [] first first where
  ordered := List.Pairwise.nil
  held row := by
    constructor
    · rintro ⟨part, mem, _⟩
      exact absurd mem List.not_mem_nil
    · omega

theorem Tiles.cons {parts : List Rows} {start stop last : ℕ} (tiles : Tiles parts stop last)
    (forward : start ≤ stop) (on : stop ≤ last) (nonempty : ∀ part ∈ parts,
      part.start < part.stop) :
    Tiles (⟨start, stop⟩ :: parts) start last where
  ordered := by
    refine List.Pairwise.cons (fun part mem => ?_) tiles.ordered
    exact ((tiles.held part.start).mp ⟨part, mem, le_rfl, nonempty part mem⟩).1
  held row := by
    rw [List.exists_mem_cons_iff, tiles.held row]
    unfold Rows.Holds
    dsimp only
    omega

theorem chronological_ok {times : List Time} {train validation : ℚ} {split : Split}
    (returned : chronological times train validation = .ok split) :
    1 ≤ split.train.stop ∧ split.train.stop = share times.length train ∧
      split.train = ⟨0, split.train.stop⟩ ∧
      split.validation = ⟨split.train.stop, split.validation.stop⟩ ∧
      split.test = ⟨split.validation.stop, times.length⟩ ∧
      split.train.stop ≤ split.validation.stop ∧ split.validation.stop < times.length := by
  unfold chronological at returned
  by_cases nothing : times = []
  · rw [if_pos nothing] at returned
    cases returned
  by_cases fractions : train ≤ 0 ∨ validation < 0
  · rw [if_neg nothing, if_pos fractions] at returned
    cases returned
  by_cases noTest : 1 ≤ train + validation
  · rw [if_neg nothing, if_neg fractions, if_pos noTest] at returned
    cases returned
  rw [if_neg nothing, if_neg fractions, if_neg noTest] at returned
  cases ordered : requireOrdered times with
  | error e =>
    rw [ordered] at returned
    cases returned
  | ok =>
    rw [ordered] at returned
    dsimp only at returned
    split at returned
    · cases returned
    · next enough =>
      cases returned
      dsimp only
      refine ⟨by omega, rfl, rfl, rfl, rfl, by omega, by omega⟩

theorem tiles_chronological {times : List Time} {train validation : ℚ} {split : Split}
    (returned : chronological times train validation = .ok split)
    (nonempty : split.validation.start < split.validation.stop) :
    Tiles [split.train, split.validation, split.test] 0 times.length := by
  obtain ⟨one, _, trains, validates, tests, upTo, below⟩ := chronological_ok returned
  rw [validates] at nonempty
  rw [trains, validates, tests]
  refine Tiles.cons (Tiles.cons (Tiles.cons (Tiles.nil _) below.le le_rfl ?_) upTo below.le ?_)
    (Nat.zero_le _) (upTo.trans below.le) ?_
  · intro part mem
    exact absurd mem List.not_mem_nil
  · intro part mem
    rw [List.mem_singleton.mp mem]
    exact below
  · intro part mem
    rcases List.mem_cons.mp mem with rfl | mem
    · exact nonempty
    · rw [List.mem_singleton.mp mem]
      exact below

theorem walkForward_ok {times : List Time} {count : ℕ} {initialTrain : ℚ} {folds : List Fold}
    (returned : walkForward times count initialTrain = .ok folds) :
    2 ≤ count ∧ 1 ≤ share times.length initialTrain ∧
      count ≤ times.length - share times.length initialTrain ∧
      folds = (List.range count).map fun k =>
        ⟨k + 1, ⟨0, testStart times.length count initialTrain k⟩,
          ⟨testStart times.length count initialTrain k,
            if k = count - 1 then times.length
            else testStart times.length count initialTrain (k + 1)⟩⟩ := by
  unfold walkForward at returned
  by_cases single : count < 2
  · rw [if_pos single] at returned
    cases returned
  by_cases fraction : 0 < initialTrain ∧ initialTrain < 1
  · rw [if_neg single, if_neg (not_not_intro fraction)] at returned
    cases ordered : requireOrdered times with
    | error e =>
      rw [ordered] at returned
      cases returned
    | ok =>
      rw [ordered] at returned
      dsimp only at returned
      split at returned
      · cases returned
      · next enough =>
        refine ⟨by omega, by omega, by omega, ?_⟩
        rw [← Except.ok.inj returned]
        refine List.map_congr_left fun k _ => ?_
        rw [show testStart times.length count initialTrain (k + 1) =
          testStart times.length count initialTrain k +
            (times.length - share times.length initialTrain) / count by
              unfold testStart; dsimp only; rw [Nat.succ_mul]; omega]
  · rw [if_neg single, if_pos fraction] at returned
    cases returned

theorem testStart_bounds {n count : ℕ} {initialTrain : ℚ} (some_ : 1 ≤ count)
    (enough : count ≤ n - share n initialTrain) {k : ℕ} (inside : k < count) :
    testStart n count initialTrain k < testStart n count initialTrain (k + 1) ∧
      testStart n count initialTrain (k + 1) ≤ n ∧
      share n initialTrain ≤ testStart n count initialTrain k := by
  have block : 1 ≤ (n - share n initialTrain) / count := (Nat.one_le_div_iff some_).mpr enough
  have all : (k + 1) * ((n - share n initialTrain) / count) ≤ n - share n initialTrain :=
    (Nat.mul_le_mul_right _ inside).trans (Nat.mul_div_le _ _)
  unfold testStart
  dsimp only
  have next : (k + 1) * ((n - share n initialTrain) / count) =
      k * ((n - share n initialTrain) / count) + (n - share n initialTrain) / count :=
    Nat.succ_mul _ _
  omega

theorem tiles_range {m : ℕ} {ends : ℕ → ℕ} (rises : ∀ k < m, ends k < ends (k + 1)) :
    Tiles ((List.range m).map fun k => ⟨ends k, ends (k + 1)⟩) (ends 0) (ends m) ∧
      ends 0 ≤ ends m := by
  induction m generalizing ends with
  | zero => exact ⟨Tiles.nil _, le_rfl⟩
  | succ m ih =>
    have first : ends 0 < ends 1 := rises 0 (Nat.succ_pos m)
    have rest : ∀ k < m, ends (k + 1) < ends (k + 1 + 1) := fun k inside =>
      rises (k + 1) (by omega)
    obtain ⟨tiles, on⟩ := ih rest
    refine ⟨?_, first.le.trans on⟩
    rw [List.range_succ_eq_map, List.map_cons, List.map_map]
    refine Tiles.cons tiles first.le on fun part mem => ?_
    obtain ⟨k, inside, rfl⟩ := List.mem_map.mp mem
    exact rises (k + 1) (Nat.succ_lt_succ (List.mem_range.mp inside))

theorem tiles_walkForward {times : List Time} {count : ℕ} {initialTrain : ℚ} {folds : List Fold}
    (returned : walkForward times count initialTrain = .ok folds) :
    Tiles (folds.map Fold.test) (share times.length initialTrain) times.length ∧
      ∀ fold ∈ folds, Tiles [fold.train, fold.test] 0 fold.test.stop ∧
        1 ≤ fold.train.stop ∧ fold.test.start < fold.test.stop ∧
        fold.test.stop ≤ times.length := by
  obtain ⟨two, one, enough, rfl⟩ := walkForward_ok returned
  let ends (k : ℕ) : ℕ :=
    if k = count then times.length else testStart times.length count initialTrain k
  have part : ∀ k < count, (⟨testStart times.length count initialTrain k,
      if k = count - 1 then times.length
      else testStart times.length count initialTrain (k + 1)⟩ : Rows) = ⟨ends k, ends (k + 1)⟩ := by
    intro k inside
    have last : k = count - 1 ↔ k + 1 = count := by omega
    rw [show ends k = _ from if_neg (by omega)]
    simp only [ends, last]
  have rises : ∀ k < count, ends k < ends (k + 1) := by
    intro k inside
    obtain ⟨up, within, _⟩ := testStart_bounds (by omega) enough inside
    rw [show ends k = _ from if_neg (by omega)]
    by_cases last : k + 1 = count
    · rw [show ends (k + 1) = _ from if_pos last]
      omega
    · rw [show ends (k + 1) = _ from if_neg last]
      exact up
  constructor
  · have tests : ((List.range count).map fun k => ⟨k + 1,
        ⟨0, testStart times.length count initialTrain k⟩,
        ⟨testStart times.length count initialTrain k,
          if k = count - 1 then times.length
          else testStart times.length count initialTrain (k + 1)⟩⟩).map Fold.test =
        (List.range count).map fun k => (⟨ends k, ends (k + 1)⟩ : Rows) := by
      rw [List.map_map]
      exact List.map_congr_left fun k inside => part k (List.mem_range.mp inside)
    have from_ : ends 0 = share times.length initialTrain := by
      rw [show ends 0 = _ from if_neg (by omega)]
      unfold testStart
      dsimp only
      rw [Nat.zero_mul, Nat.add_zero]
    have upTo : ends count = times.length := if_pos rfl
    rw [tests, ← from_, ← upTo]
    exact (tiles_range rises).1
  · intro fold mem
    obtain ⟨k, among, rfl⟩ := List.mem_map.mp mem
    have inside : k < count := List.mem_range.mp among
    obtain ⟨_, _, after⟩ := testStart_bounds (by omega) enough inside
    have up := rises k inside
    have within : ends (k + 1) ≤ times.length := by
      by_cases last : k + 1 = count
      · exact (if_pos last).le
      · rw [show ends (k + 1) = _ from if_neg last]
        exact (testStart_bounds (by omega) enough (k := k) inside).2.1
    have starts := congrArg Rows.start (part k inside)
    have stops := congrArg Rows.stop (part k inside)
    dsimp only at starts stops ⊢
    rw [starts] at after
    rw [stops, starts]
    refine ⟨Tiles.cons (Tiles.cons (Tiles.nil _) up.le le_rfl ?_) (Nat.zero_le _) up.le ?_,
      one.trans after, up, within⟩
    · intro part mem
      exact absurd mem List.not_mem_nil
    · intro part mem
      rw [List.mem_singleton.mp mem]
      exact up

end TradeResearch.Datasets
