import Mathlib.Algebra.Order.Field.Basic
import Mathlib.Algebra.Order.Field.Rat
import Mathlib.Tactic.Linarith
import Mathlib.Tactic.Positivity
import TradeResearch.Tools.Indicators

/-!
# The rules

The rules of `tools/mt5_paper.py`, which decide on the closed bars of a window, and the vectors of
the same rules in `tools/rule_backtest.py`, which decide on every bar of a series. `rule_random` is
left out.

* `getLast?_wilderRsi`, `getD_sma` and `getLast?_atrSeries`: where a series ends.
* `wilder_eq_zero_iff`: the average loss is zero exactly where no price falls.
* `signalOf_ruleRsiReversion` and `signalOf_ruleSmaCross`: what the live rules decide, next to
  `getLast?_signalsRsiReversion` and `getLast?_signalsSmaCross`, where their vectors end.
-/

namespace TradeResearch.Tools

open Marketdata (Bar)

inductive BuySell where
  | buy
  | sell
  deriving DecidableEq, Repr

def signalOf : Option BuySell → ℤ
  | some .buy => 1
  | some .sell => -1
  | none => 0

def lastOf {α : Type} (n : ℕ) (a : List α) : List α := a.drop (a.length - n)

def averages (n : ℕ) (ag al : ℚ) (moves : List (ℚ × ℚ)) : ℚ × ℚ :=
  moves.foldl (fun averages move => (smooth n averages.1 move.1, smooth n averages.2 move.2))
    (ag, al)

def wilder (c : List ℚ) (n : ℕ) : ℚ × ℚ :=
  averages n (mean ((gains (diff c)).take n)) (mean ((losses (diff c)).take n))
    (((gains (diff c)).drop n).zip ((losses (diff c)).drop n))

def ruleSmaCross (rates : List Bar) : Option BuySell :=
  let c := (rates.map Bar.close).dropLast
  if c.length < 60 then none
  else
    let fastNow := mean (lastOf 20 c)
    let slowNow := mean (lastOf 50 c)
    let fastPrev := mean (lastOf 21 c).dropLast
    let slowPrev := mean (lastOf 51 c).dropLast
    if fastPrev ≤ slowPrev ∧ slowNow < fastNow then some .buy
    else if slowPrev ≤ fastPrev ∧ fastNow < slowNow then some .sell
    else none

def ruleRsiReversion (rates : List Bar) (n : ℕ) : Option BuySell :=
  let c := (rates.map Bar.close).dropLast
  if c.length < 3 * n then none
  else
    let (ag, al) := wilder c n
    if al = 0 then none
    else
      let rsi := 100 - 100 / (1 + ag / al)
      if rsi < 30 then some .buy else if 70 < rsi then some .sell else none

def atrFrom (rates : List Bar) (n : ℕ) : Option ℚ :=
  let closed := rates.dropLast
  if closed.length < n + 2 then none else some (mean (lastOf n (trueRanges closed)))

def reverted : Option ℚ → ℤ
  | none => 0
  | some r => if r < 30 then 1 else if 70 < r then -1 else 0

def signalsRsiReversion (c : List ℚ) : List ℤ := (wilderRsi c 14).map reverted

def crossed : Option ℚ → Option ℚ → Option ℚ → Option ℚ → ℤ
  | some fastPrev, some slowPrev, some fast, some slow =>
    if slowPrev ≤ fastPrev ∧ fast < slow then -1
    else if fastPrev ≤ slowPrev ∧ slow < fast then 1
    else 0
  | _, _, _, _ => 0

def signalsSmaCross (c : List ℚ) : List ℤ :=
  let f := sma c 20
  let s := sma c 50
  (List.range c.length).map fun i =>
    if i = 0 then 0
    else crossed (f.getD (i - 1) none) (s.getD (i - 1) none) (f.getD i none) (s.getD i none)

theorem getLast?_rsiFrom (n : ℕ) (ag al : ℚ) {moves : List (ℚ × ℚ)} (some_ : moves ≠ []) :
    (rsiFrom n ag al moves).getLast? =
      some (some (rsiOf (averages n ag al moves).1 (averages n ag al moves).2)) := by
  induction moves generalizing ag al with
  | nil => exact absurd rfl some_
  | cons move moves ih =>
    unfold rsiFrom
    rw [List.getLast?_cons]
    cases moves with
    | nil => rfl
    | cons move' moves =>
      rw [ih _ _ (List.cons_ne_nil _ _)]
      rfl

theorem getLast?_wilderRsi {c : List ℚ} {n : ℕ} (long : n + 1 < c.length) :
    (wilderRsi c n).getLast? = some (some (rsiOf (wilder c n).1 (wilder c n).2)) := by
  unfold wilderRsi
  have enough : ¬ (diff c).length < n := by
    rw [length_diff]
    omega
  have some_ : ((gains (diff c)).drop n).zip ((losses (diff c)).drop n) ≠ [] := by
    refine List.ne_nil_of_length_pos ?_
    rw [List.length_zip, List.length_drop, List.length_drop, length_gains, length_losses,
      length_diff, min_self]
    omega
  rw [if_neg enough, List.getLast?_append, getLast?_rsiFrom _ _ _ some_]
  rfl

theorem take_drop_eq_lastOf {α : Type} {a : List α} {n : ℕ} (fits : n ≤ a.length) :
    (a.drop (a.length - n)).take n = lastOf n a := by
  refine List.take_of_length_le ?_
  rw [List.length_drop]
  omega

theorem mean_lastOf {a : List ℚ} {n : ℕ} (fits : n ≤ a.length) :
    mean (lastOf n a) = (lastOf n a).sum / n := by
  unfold mean
  congr 2
  unfold lastOf
  rw [List.length_drop]
  omega

theorem getD_sma {a : List ℚ} {n : ℕ} (pos : 0 < n) (fits : n ≤ a.length) :
    (sma a n).getD (a.length - 1) none = some (mean (lastOf n a)) := by
  rw [List.getD_eq_getElem?_getD, getElem?_sma pos (by omega) (by omega), Option.getD_some,
    mean_lastOf fits, show a.length - 1 + 1 - n = a.length - n by omega, take_drop_eq_lastOf fits]

theorem getD_sma_before {a : List ℚ} {n : ℕ} (pos : 0 < n) (fits : n + 1 ≤ a.length) :
    (sma a n).getD (a.length - 2) none = some (mean (lastOf (n + 1) a).dropLast) := by
  have window : (a.drop (a.length - 2 + 1 - n)).take n = (lastOf (n + 1) a).dropLast := by
    unfold lastOf
    rw [List.dropLast_eq_take, List.length_drop, show a.length - 2 + 1 - n = a.length - (n + 1) by
      omega]
    congr 1
    omega
  have size : (lastOf (n + 1) a).dropLast.length = n := by
    unfold lastOf
    rw [List.length_dropLast, List.length_drop]
    omega
  unfold mean
  rw [List.getD_eq_getElem?_getD, getElem?_sma pos (by omega) (by omega), Option.getD_some, window,
    size]

theorem getLast?_atrSeries {bars : List Bar} {n : ℕ} (fits : n + 1 ≤ bars.length) :
    (atrSeries bars n).getLast? = some (some (mean (lastOf n (trueRanges bars)))) := by
  have size : n ≤ (trueRanges bars).length := by
    rw [length_trueRanges]
    omega
  rw [List.getLast?_eq_getElem?, length_atrSeries, getElem?_atrSeries (by omega),
    if_pos (show n ≤ bars.length - 1 by omega), mean_lastOf size, ← length_trueRanges,
    take_drop_eq_lastOf size]

def Falls (c : List ℚ) : Prop := ∃ move ∈ diff c, move < 0

theorem sum_eq_zero_iff {a : List ℚ} (nonneg : ∀ x ∈ a, 0 ≤ x) :
    0 ≤ a.sum ∧ (a.sum = 0 ↔ ∀ x ∈ a, x = 0) := by
  induction a with
  | nil => exact ⟨le_rfl, iff_of_true rfl fun x mem => absurd mem List.not_mem_nil⟩
  | cons x a ih =>
    obtain ⟨first, rest⟩ := List.forall_mem_cons.mp nonneg
    obtain ⟨sum, zero⟩ := ih rest
    rw [List.sum_cons, List.forall_mem_cons, ← zero]
    exact ⟨add_nonneg first sum, add_eq_zero_iff_of_nonneg first sum⟩

theorem smooth_eq_zero_iff {n : ℕ} {average x : ℚ} (long : 2 ≤ n) (some_ : 0 ≤ average)
    (move : 0 ≤ x) :
    0 ≤ smooth n average x ∧ (smooth n average x = 0 ↔ average = 0 ∧ x = 0) := by
  have more : (1 : ℚ) < n := Nat.one_lt_cast.mpr long
  have weight : (0 : ℚ) < n - 1 := sub_pos.mpr more
  have whole : (0 : ℚ) < n := by linarith
  have weighted : 0 ≤ average * (n - 1) := mul_nonneg some_ weight.le
  unfold smooth
  refine ⟨div_nonneg (add_nonneg weighted move) whole.le, ?_⟩
  rw [div_eq_zero_iff, or_iff_left whole.ne', add_eq_zero_iff_of_nonneg weighted move,
    mul_eq_zero, or_iff_left weight.ne']

theorem averages_eq_zero_iff {n : ℕ} (long : 2 ≤ n) {ag al : ℚ} {moves : List (ℚ × ℚ)}
    (some_ : 0 ≤ al) (nonneg : ∀ move ∈ moves, 0 ≤ move.2) :
    (averages n ag al moves).2 = 0 ↔ al = 0 ∧ ∀ move ∈ moves, move.2 = 0 := by
  induction moves generalizing ag al with
  | nil => exact ⟨fun zero => ⟨zero, fun move mem => absurd mem List.not_mem_nil⟩, And.left⟩
  | cons move moves ih =>
    obtain ⟨first, rest⟩ := List.forall_mem_cons.mp nonneg
    obtain ⟨next, zero⟩ := smooth_eq_zero_iff long some_ first
    rw [List.forall_mem_cons, ← and_assoc, ← zero]
    exact ih next rest

theorem losses_nonneg (d : List ℚ) : ∀ x ∈ losses d, 0 ≤ x := by
  refine List.forall_mem_map.mpr fun x _ => ?_
  split
  · next down => exact neg_nonneg.mpr down.le
  · exact le_rfl

theorem wilder_eq_zero_iff {c : List ℚ} {n : ℕ} (long : 2 ≤ n) (fits : n + 1 ≤ c.length) :
    (wilder c n).2 = 0 ↔ ¬ Falls c := by
  have nonneg := losses_nonneg (diff c)
  have lengths : ((losses (diff c)).drop n).length ≤ ((gains (diff c)).drop n).length := by
    rw [List.length_drop, List.length_drop, length_losses, length_gains]
  have later : ∀ P : ℚ → Prop, (∀ move ∈ ((gains (diff c)).drop n).zip ((losses (diff c)).drop n),
      P move.2) ↔ ∀ x ∈ (losses (diff c)).drop n, P x := fun P => by
    conv => rhs; rw [← List.map_snd_zip lengths, List.forall_mem_map]
  have seed : 0 ≤ ((losses (diff c)).take n).sum ∧ (((losses (diff c)).take n).sum = 0 ↔
      ∀ x ∈ (losses (diff c)).take n, x = 0) :=
    sum_eq_zero_iff fun x mem => nonneg x (List.mem_of_mem_take mem)
  have size : (((losses (diff c)).take n).length : ℚ) ≠ 0 := by
    rw [List.length_take, length_losses, length_diff, min_eq_left (by omega)]
    exact Nat.cast_ne_zero.mpr (by omega)
  have seeded : mean ((losses (diff c)).take n) = 0 ↔ ∀ x ∈ (losses (diff c)).take n, x = 0 := by
    unfold mean
    rw [div_eq_zero_iff, or_iff_left size, seed.2]
  have start : 0 ≤ mean ((losses (diff c)).take n) := div_nonneg seed.1 (Nat.cast_nonneg _)
  unfold wilder
  rw [averages_eq_zero_iff long start ((later (0 ≤ ·)).mpr fun x mem =>
    nonneg x (List.mem_of_mem_drop mem)), later (· = 0), seeded, ← List.forall_mem_append,
    List.take_append_drop]
  unfold losses Falls
  rw [List.forall_mem_map]
  push Not
  refine forall₂_congr fun x _ => ?_
  split
  · next down => exact iff_of_false (neg_ne_zero.mpr down.ne) (not_le.mpr down)
  · next up => exact iff_of_true rfl (not_lt.mp up)

def closes (rates : List Bar) : List ℚ := rates.dropLast.map Bar.close

theorem map_close_dropLast : (rates.map Bar.close).dropLast = closes rates :=
  List.map_dropLast.symm

theorem length_closes : (closes rates).length = rates.dropLast.length := List.length_map _

theorem signalOf_reverted (r : ℚ) :
    signalOf (if r < 30 then some .buy else if 70 < r then some .sell else none) =
      reverted (some r) := by
  unfold reverted
  dsimp only
  split_ifs <;> rfl

theorem signalOf_ruleRsiReversion (enough : 60 ≤ (closes rates).length) :
    signalOf (ruleRsiReversion rates 14) =
      if (wilder (closes rates) 14).2 = 0 then 0
      else reverted (some (rsiOf (wilder (closes rates) 14).1 (wilder (closes rates) 14).2)) := by
  unfold ruleRsiReversion
  dsimp only
  rw [map_close_dropLast, if_neg (show ¬ (closes rates).length < 3 * 14 by omega)]
  by_cases zero : (wilder (closes rates) 14).2 = 0
  · rw [if_pos zero, if_pos zero]
    rfl
  · rw [if_neg zero, if_neg zero]
    unfold rsiOf
    rw [if_neg zero]
    exact signalOf_reverted _

theorem getLast?_signalsRsiReversion {c : List ℚ} (enough : 60 ≤ c.length) :
    (signalsRsiReversion c).getLast? =
      some (reverted (some (rsiOf (wilder c 14).1 (wilder c 14).2))) := by
  unfold signalsRsiReversion
  rw [List.getLast?_map, getLast?_wilderRsi (by omega)]
  rfl

theorem signalOf_ruleSmaCross (enough : 60 ≤ (closes rates).length) :
    signalOf (ruleSmaCross rates) =
      crossed (some (mean (lastOf 21 (closes rates)).dropLast))
        (some (mean (lastOf 51 (closes rates)).dropLast)) (some (mean (lastOf 20 (closes rates))))
        (some (mean (lastOf 50 (closes rates)))) := by
  unfold ruleSmaCross crossed
  dsimp only
  rw [map_close_dropLast, if_neg (Nat.not_lt.mpr enough)]
  by_cases up :
      mean (lastOf 21 (closes rates)).dropLast ≤ mean (lastOf 51 (closes rates)).dropLast ∧
      mean (lastOf 50 (closes rates)) < mean (lastOf 20 (closes rates))
  · rw [if_pos up, if_neg fun down => lt_asymm up.2 down.2, if_pos up]
    rfl
  · rw [if_neg up, if_neg up]
    split <;> rfl

theorem getLast?_signalsSmaCross {c : List ℚ} (enough : 60 ≤ c.length) :
    (signalsSmaCross c).getLast? =
      some (crossed (some (mean (lastOf 21 c).dropLast)) (some (mean (lastOf 51 c).dropLast))
        (some (mean (lastOf 20 c))) (some (mean (lastOf 50 c)))) := by
  unfold signalsSmaCross
  rw [List.getLast?_map, List.getLast?_range, if_neg (by omega), Option.map_some,
    if_neg (show c.length - 1 ≠ 0 by omega), show c.length - 1 - 1 = c.length - 2 by omega,
    getD_sma_before (by decide) (by omega), getD_sma_before (by decide) (by omega),
    getD_sma (by decide) (by omega), getD_sma (by decide) (by omega)]

theorem getLast?_atrSeries_eq_atrFrom (enough : 60 ≤ (closes rates).length) :
    (atrSeries rates.dropLast 14).getLast? = some (atrFrom rates 14) := by
  rw [length_closes] at enough
  unfold atrFrom
  rw [getLast?_atrSeries (by omega), if_neg (by omega)]

end TradeResearch.Tools
