import Mathlib.Algebra.BigOperators.Group.List.Basic
import Mathlib.Algebra.Order.Ring.Abs
import Mathlib.Tactic.Ring
import TradeResearch.Marketdata.Types

/-!
# The indicators of the toolkit

The series of `tools/rule_backtest.py`, with the exponential average of `tools/rule_search.py`, over
rationals. A series has one entry for each price; `none` is the NaN it starts with.

* `getElem?_sma` and `getElem?_atrSeries`: an entry is the mean of the window that ends there.
* `sma_take`, `ema_take`, `wilderRsi_take` and `atrSeries_take`: an entry is that of the prices up
  to it.
-/

namespace TradeResearch.Tools

open Marketdata (Bar)

def mean (a : List ℚ) : ℚ := a.sum / a.length

def diff (a : List ℚ) : List ℚ := List.zipWith (fun earlier later => later - earlier) a a.tail

def gains (d : List ℚ) : List ℚ := d.map fun x => if 0 < x then x else 0

def losses (d : List ℚ) : List ℚ := d.map fun x => if x < 0 then -x else 0

def smooth (n : ℕ) (average x : ℚ) : ℚ := (average * (n - 1) + x) / n

def rsiOf (ag al : ℚ) : ℚ := if al = 0 then 100 else 100 - 100 / (1 + ag / al)

def rsiFrom (n : ℕ) : ℚ → ℚ → List (ℚ × ℚ) → List (Option ℚ)
  | _, _, [] => []
  | ag, al, (gain, loss) :: rest =>
    some (rsiOf (smooth n ag gain) (smooth n al loss)) ::
      rsiFrom n (smooth n ag gain) (smooth n al loss) rest

def wilderRsi (close : List ℚ) (n : ℕ) : List (Option ℚ) :=
  let d := diff close
  if d.length < n then List.replicate close.length none
  else
    List.replicate (n + 1) none ++
      rsiFrom n (mean ((gains d).take n)) (mean ((losses d).take n))
        (((gains d).drop n).zip ((losses d).drop n))

def trueRanges (bars : List Bar) : List ℚ :=
  List.zipWith (fun prev bar =>
    max (bar.high - bar.low) (max |bar.high - prev.close| |bar.low - prev.close|)) bars bars.tail

def atrSeries (bars : List Bar) (n : ℕ) : List (Option ℚ) :=
  let tr := trueRanges bars
  let csum := tr.partialSums
  (List.range bars.length).map fun i =>
    if n ≤ i ∧ i ≤ tr.length then some ((csum.getD i 0 - csum.getD (i - n) 0) / n) else none

def sma (a : List ℚ) (n : ℕ) : List (Option ℚ) :=
  if a.length < n then List.replicate a.length none
  else
    let csum := a.partialSums
    List.replicate (n - 1) none ++
      List.zipWith (fun upTo before : ℚ => some ((upTo - before) / n)) (csum.drop n)
        (csum.take (csum.length - n))

def emaFrom (k : ℚ) : ℚ → List ℚ → List (Option ℚ)
  | _, [] => []
  | acc, x :: rest => some (x * k + acc * (1 - k)) :: emaFrom k (x * k + acc * (1 - k)) rest

def ema (a : List ℚ) (n : ℕ) : List (Option ℚ) :=
  if a.length < n then List.replicate a.length none
  else
    List.replicate (n - 1) none ++
      some (mean (a.take n)) :: emaFrom (2 / (n + 1)) (mean (a.take n)) (a.drop n)

theorem length_sums (a : List ℚ) : a.partialSums.length = a.length + 1 := List.length_scanl

@[simp] theorem length_diff (a : List ℚ) : (diff a).length = a.length - 1 := by simp [diff]

@[simp] theorem length_gains (d : List ℚ) : (gains d).length = d.length := by simp [gains]

@[simp] theorem length_losses (d : List ℚ) : (losses d).length = d.length := by simp [losses]

@[simp] theorem length_rsiFrom (n : ℕ) (ag al : ℚ) (moves : List (ℚ × ℚ)) :
    (rsiFrom n ag al moves).length = moves.length := by
  induction moves generalizing ag al with
  | nil => rfl
  | cons move moves ih =>
    unfold rsiFrom
    rw [List.length_cons, List.length_cons, ih]

@[simp] theorem length_trueRanges (bars : List Bar) :
    (trueRanges bars).length = bars.length - 1 := by simp [trueRanges]

@[simp] theorem length_atrSeries (bars : List Bar) (n : ℕ) :
    (atrSeries bars n).length = bars.length := by simp [atrSeries]

@[simp] theorem length_sma {n : ℕ} (a : List ℚ) (pos : 0 < n) : (sma a n).length = a.length := by
  unfold sma
  split
  · exact List.length_replicate
  · simp only [List.length_append, List.length_replicate, List.length_zipWith, List.length_drop,
      List.length_take, length_sums]
    omega

@[simp] theorem length_wilderRsi (close : List ℚ) {n : ℕ} (pos : 0 < n) :
    (wilderRsi close n).length = close.length := by
  unfold wilderRsi
  dsimp only
  split
  · exact List.length_replicate
  · next enough =>
    rw [length_diff] at enough
    simp only [List.length_append, List.length_replicate, length_rsiFrom, List.length_zip,
      List.length_drop, length_gains, length_losses, length_diff]
    omega

theorem sum_window (a : List ℚ) {i n : ℕ} (fits : n ≤ i) :
    (a.take i).sum - (a.take (i - n)).sum = ((a.drop (i - n)).take n).sum := by
  have split : a.take i = a.take (i - n) ++ (a.drop (i - n)).take n := by
    conv => lhs; rw [show i = i - n + n by omega]
    exact List.take_add
  rw [split, List.sum_append]
  ring

theorem getElem?_sums {a : List ℚ} {i : ℕ} (inside : i ≤ a.length) :
    a.partialSums[i]? = some (a.take i).sum := by
  unfold List.partialSums
  rw [List.getElem?_scanl, if_pos inside, List.sum_eq_foldl]

theorem getD_sums {a : List ℚ} {i : ℕ} (inside : i ≤ a.length) :
    a.partialSums.getD i 0 = (a.take i).sum := by
  rw [List.getD_eq_getElem?_getD, getElem?_sums inside, Option.getD_some]

theorem getElem?_atrSeries {bars : List Bar} {n i : ℕ} (inside : i < bars.length) :
    (atrSeries bars n)[i]? = some
      (if n ≤ i then some ((((trueRanges bars).drop (i - n)).take n).sum / n) else none) := by
  have short : i ≤ (trueRanges bars).length := by
    rw [length_trueRanges]
    omega
  unfold atrSeries
  rw [List.getElem?_map, List.getElem?_range inside, Option.map_some]
  by_cases full : n ≤ i
  · rw [if_pos ⟨full, short⟩, if_pos full, getD_sums short, getD_sums (by omega),
      sum_window _ full]
  · rw [if_neg fun both => full both.1, if_neg full]

theorem getElem?_sma {a : List ℚ} {n i : ℕ} (pos : 0 < n) (inside : i < a.length)
    (full : n ≤ i + 1) :
    (sma a n)[i]? = some (some (((a.drop (i + 1 - n)).take n).sum / n)) := by
  unfold sma
  rw [if_neg (by omega)]
  rw [List.getElem?_append_right (by rw [List.length_replicate]; omega), List.length_replicate,
    List.getElem?_zipWith, List.getElem?_drop, List.getElem?_take_of_lt (by
      rw [length_sums]; omega), getElem?_sums (by omega), getElem?_sums (by omega)]
  rw [← sum_window a full, show n + (i - (n - 1)) = i + 1 by omega,
    show i - (n - 1) = i + 1 - n by omega]

theorem trueRanges_take (bars : List Bar) (k : ℕ) :
    trueRanges (bars.take k) = (trueRanges bars).take (k - 1) := by
  unfold trueRanges
  refine List.ext_getElem (by simp; omega) fun i _ _ => ?_
  simp

theorem atrSeries_take (bars : List Bar) (n k : ℕ) :
    atrSeries (bars.take k) n = (atrSeries bars n).take k := by
  refine List.ext_getElem? fun i => ?_
  by_cases inside : i < k ∧ i < bars.length
  · obtain ⟨before, within⟩ := inside
    have here : i < (bars.take k).length := by
      rw [List.length_take]
      exact lt_min before within
    have window : ((trueRanges (bars.take k)).drop (i - n)).take n =
        ((trueRanges bars).drop (i - n)).take n ∨ ¬ n ≤ i := by
      by_cases full : n ≤ i
      · left
        rw [trueRanges_take, List.drop_take, List.take_take, min_eq_left (by omega)]
      · exact .inr full
    rw [getElem?_atrSeries here, List.getElem?_take_of_lt before, getElem?_atrSeries within]
    rcases window with same | short
    · rw [same]
    · rw [if_neg short, if_neg short]
  · have ends : min k bars.length ≤ i := by omega
    rw [List.getElem?_eq_none (by simpa using ends), List.getElem?_eq_none (by simpa using ends)]

theorem diff_take (a : List ℚ) (k : ℕ) : diff (a.take k) = (diff a).take (k - 1) := by
  unfold diff
  refine List.ext_getElem (by simp; omega) fun i _ _ => ?_
  simp

theorem emaFrom_take (k acc : ℚ) (rest : List ℚ) (m : ℕ) :
    emaFrom k acc (rest.take m) = (emaFrom k acc rest).take m := by
  induction rest generalizing acc m with
  | nil => cases m <;> rfl
  | cons x rest ih =>
    cases m with
    | zero => rfl
    | succ m =>
      rw [List.take_succ_cons]
      unfold emaFrom
      rw [List.take_succ_cons, ih]

theorem rsiFrom_take (n : ℕ) (ag al : ℚ) (moves : List (ℚ × ℚ)) (m : ℕ) :
    rsiFrom n ag al (moves.take m) = (rsiFrom n ag al moves).take m := by
  induction moves generalizing ag al m with
  | nil => cases m <;> rfl
  | cons move moves ih =>
    cases m with
    | zero => rfl
    | succ m =>
      rw [List.take_succ_cons]
      unfold rsiFrom
      rw [List.take_succ_cons, ih]

theorem take_blanks {m k : ℕ} {rest : List (Option ℚ)} :
    (List.replicate m none ++ rest).take k =
      if k ≤ m then List.replicate k none else List.replicate m none ++ rest.take (k - m) := by
  rw [List.take_append, List.take_replicate, List.length_replicate]
  split
  · next inside => rw [min_eq_left inside, Nat.sub_eq_zero_of_le inside, List.take_zero,
      List.append_nil]
  · next past => rw [min_eq_right (by omega)]

theorem sma_take {n : ℕ} (pos : 0 < n) (a : List ℚ) (k : ℕ) :
    sma (a.take k) n = (sma a n).take k := by
  refine List.ext_getElem? fun i => ?_
  by_cases inside : i < k ∧ i < a.length
  · obtain ⟨before, within⟩ := inside
    have here : i < (a.take k).length := by
      rw [List.length_take]
      exact lt_min before within
    rw [List.getElem?_take_of_lt before]
    by_cases full : n ≤ i + 1
    · rw [getElem?_sma pos here full, getElem?_sma pos within full, List.drop_take, List.take_take,
        min_eq_left (by omega)]
    · have blank : ∀ b : List ℚ, i < b.length → (sma b n)[i]? = some none := by
        intro b short
        unfold sma
        split
        · rw [List.getElem?_replicate_of_lt short]
        · dsimp only
          rw [List.getElem?_append_left (by rw [List.length_replicate]; omega),
            List.getElem?_replicate_of_lt (by omega)]
      rw [blank _ here, blank _ within]
  · rw [List.getElem?_eq_none (by rw [length_sma _ pos, List.length_take]; omega),
      List.getElem?_eq_none (by rw [List.length_take, length_sma _ pos]; omega)]

theorem ema_take {n : ℕ} (pos : 0 < n) (a : List ℚ) (k : ℕ) :
    ema (a.take k) n = (ema a n).take k := by
  unfold ema
  by_cases short : a.length < n
  · rw [if_pos short, if_pos (by rw [List.length_take]; omega), List.take_replicate,
      List.length_take]
  · rw [if_neg short]
    by_cases few : k < n
    · rw [if_pos (by rw [List.length_take]; omega), take_blanks, if_pos (by omega),
        List.length_take, min_eq_left (by omega)]
    · have mean_ : (a.take k).take n = a.take n := by rw [List.take_take, min_eq_left (by omega)]
      rw [if_neg (by rw [List.length_take]; omega), take_blanks, if_neg (by omega), mean_,
        show k - (n - 1) = k - n + 1 by omega, List.take_succ_cons, List.drop_take, emaFrom_take]

theorem wilderRsi_take {n : ℕ} (pos : 0 < n) (a : List ℚ) (k : ℕ) :
    wilderRsi (a.take k) n = (wilderRsi a n).take k := by
  have gains_ : ∀ m, gains ((diff a).take m) = (gains (diff a)).take m := fun m => List.map_take
  have losses_ : ∀ m, losses ((diff a).take m) = (losses (diff a)).take m := fun m => List.map_take
  unfold wilderRsi
  rw [diff_take]
  by_cases short : (diff a).length < n
  · rw [if_pos short, if_pos (by rw [List.length_take]; omega), List.take_replicate,
      List.length_take]
  · rw [if_neg short]
    rw [length_diff] at short
    by_cases few : k ≤ n
    · rw [if_pos (by rw [List.length_take, length_diff]; omega), take_blanks, if_pos (by omega),
        List.length_take, min_eq_left (by omega)]
    · rw [if_neg (by rw [List.length_take, length_diff]; omega), take_blanks, gains_, losses_,
        List.take_take, List.take_take, min_eq_left (by omega)]
      by_cases first : k = n + 1
      · subst first
        rw [if_pos le_rfl, Nat.add_sub_cancel, List.drop_eq_nil_of_le (by simp),
          List.zip_nil_left]
        exact List.append_nil _
      · have before : ∀ d : List ℚ, (d.take (k - 1)).drop n = (d.drop n).take (k - 1 - n) :=
          fun d => List.drop_take
        rw [if_neg (by omega), before, before, List.zip, ← List.take_zipWith, rsiFrom_take,
          show k - 1 - n = k - (n + 1) by omega]

end TradeResearch.Tools
