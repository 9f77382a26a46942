import Mathlib.Data.Int.Notation
import TradeResearch.Lib.Walk
import TradeResearch.Tools.Indicators

/-!
# The simulator

`simulate` of `tools/rule_backtest.py`, with `nights_between` of `tools/swap.py`: a walk over bars
that opens on the signal of the bar before and leaves at the stop, the target or the time limit. The
four price arrays and the times are the columns of one list of bars.

* `enter` is a trade as the bars from its entry on decide it, with the signal and the range it was
  opened on.
* `getElem?_simulate_take`: what a run on the first bars completes stays where it is on all of them.
* `pairwise_simulate`: trades do not overlap.
-/

namespace TradeResearch.Tools

open Marketdata (Bar)

def nightsBetween (entry exit : ℤ) (tripleDow : Option ℤ) : ℕ :=
  if exit ≤ entry then 0
  else
    let first := entry / 86400 + 1
    let last := exit / 86400
    ((List.range (last + 1 - first).toNat).map fun k =>
      if some ((first + k + 4) % 7) = tripleDow then 3 else 1).sum

inductive ExitReason where
  | sl
  | tp
  | timeout
  deriving DecidableEq, Repr

structure Terms where
  spread : ℚ
  slAtr : ℚ
  tpAtr : ℚ
  maxHold : ℕ
  swap : Option (ℚ × ℚ)
  tripleDow : Option ℤ

structure RawTrade where
  dir : ℤ
  gross : ℚ
  net : ℚ
  bars : ℕ
  nights : ℕ
  financing : ℚ
  reason : ExitReason
  entryIdx : ℕ
  deriving DecidableEq

namespace RawTrade

def exitIdx (t : RawTrade) : ℕ := t.entryIdx + (t.bars - 1)

def Complete (terms : Terms) (t : RawTrade) : Prop :=
  t.reason = .sl ∨ t.reason = .tp ∨ t.bars = terms.maxHold

end RawTrade

def bracket (terms : Terms) (s : ℤ) (entry a : ℚ) : ℚ × ℚ :=
  if 0 < s then (entry - terms.slAtr * a, entry + terms.tpAtr * a)
  else (entry + terms.slAtr * a, entry - terms.tpAtr * a)

def hitSl (s : ℤ) (sl : ℚ) (bar : Bar) : Bool := if 0 < s then bar.low ≤ sl else sl ≤ bar.high

def hitTp (s : ℤ) (tp : ℚ) (bar : Bar) : Bool := if 0 < s then tp ≤ bar.high else bar.low ≤ tp

def touched (s : ℤ) (sl tp : ℚ) (bar : Bar) : Option (ℚ × ExitReason) :=
  if hitSl s sl bar then some (sl, .sl) else if hitTp s tp bar then some (tp, .tp) else none

structure Exit where
  held : ℕ
  price : ℚ
  reason : ExitReason
  deriving DecidableEq

def firstTouch (s : ℤ) (sl tp : ℚ) : List Bar → Option Exit
  | [] => none
  | bar :: rest =>
    match touched s sl tp bar with
    | some (price, reason) => some ⟨1, price, reason⟩
    | none => (firstTouch s sl tp rest).map fun exit => { exit with held := exit.held + 1 }

def leave (terms : Terms) (s : ℤ) (a : ℚ) (first : Bar) (rest : List Bar) : Exit :=
  let levels := bracket terms s first.open_ a
  let window := (first :: rest).take terms.maxHold
  match firstTouch s levels.1 levels.2 window with
  | some exit => exit
  | none => ⟨window.length, (window.getLast?.getD first).close, .timeout⟩

def enter (terms : Terms) (s : ℤ) (a : ℚ) (i : ℕ) (first : Bar) (rest : List Bar) : RawTrade :=
  let exit := leave terms s a first rest
  let left := ((first :: rest)[exit.held - 1]?).getD first
  let gross := if 0 < s then exit.price - first.open_ else first.open_ - exit.price
  let nights :=
    if terms.swap.isSome then nightsBetween first.epoch left.epoch terms.tripleDow else 0
  let rates := terms.swap.getD (0, 0)
  let financing := nights * if 0 < s then rates.1 else rates.2
  { dir := s, gross, net := gross - terms.spread + financing, bars := exit.held, nights, financing,
    reason := exit.reason, entryIdx := i }

def visit (terms : Terms) (bars : List Bar) (sig : List ℤ) (atr : List (Option ℚ)) (i : ℕ) :
    Option (RawTrade × ℕ) :=
  let s := sig.getD (i - 1) 0
  match atr.getD (i - 1) none, bars.drop i with
  | some a, first :: rest =>
    if s = 0 ∨ a ≤ 0 then none
    else
      let trade := enter terms s a i first rest
      some (trade, trade.bars - 1)
  | _, _ => none

def firstEntry : ℕ := 60

def simulate (terms : Terms) (bars : List Bar) (sig : List ℤ) (atr : List (Option ℚ)) :
    List RawTrade :=
  Walk.run (visit terms bars sig atr) (bars.length - 1) firstEntry

section Ahead

variable {bars : List Bar} {i : ℕ} {first : Bar} {rest : List Bar}

theorem length_of_ahead (ahead : bars.drop i = first :: rest) :
    bars.length = i + (rest.length + 1) := by
  have all := congrArg List.length ahead
  rw [List.length_drop, List.length_cons] at all
  omega

theorem getD_of_ahead (ahead : bars.drop i = first :: rest) (n : ℕ) :
    bars.getD (i + n) default = (first :: rest).getD n default := by
  rw [List.getD_eq_getElem?_getD, ← List.getElem?_drop, ahead, List.getD_eq_getElem?_getD]

theorem getD_first (ahead : bars.drop i = first :: rest) : bars.getD i default = first :=
  getD_of_ahead ahead 0

end Ahead

section Trade

variable {terms : Terms} {s : ℤ} {a : ℚ} {first : Bar} {rest : List Bar}

theorem touched_eq_some {sl tp price : ℚ} {bar : Bar} {reason : ExitReason}
    (here : touched s sl tp bar = some (price, reason)) :
    (reason = .sl ∧ price = sl) ∨ (reason = .tp ∧ price = tp) := by
  unfold touched at here
  split at here
  · cases here
    exact .inl ⟨rfl, rfl⟩
  · split at here
    · cases here
      exact .inr ⟨rfl, rfl⟩
    · cases here

theorem firstTouch_cons {sl tp : ℚ} {bar : Bar} {window : List Bar} :
    firstTouch s sl tp (bar :: window) =
      match touched s sl tp bar with
      | some (price, reason) => some ⟨1, price, reason⟩
      | none => (firstTouch s sl tp window).map fun exit => { exit with held := exit.held + 1 } :=
  rfl

theorem firstTouch_eq_some {sl tp : ℚ} {window : List Bar} {exit : Exit}
    (found : firstTouch s sl tp window = some exit) :
    1 ≤ exit.held ∧ exit.held ≤ window.length ∧
      ((exit.reason = .sl ∧ exit.price = sl) ∨ (exit.reason = .tp ∧ exit.price = tp)) := by
  induction window generalizing exit with
  | nil => cases found
  | cons bar window ih =>
    rw [firstTouch_cons] at found
    cases here : touched s sl tp bar with
    | some what =>
      rw [here] at found
      cases found
      exact ⟨le_rfl, Nat.succ_le_succ (Nat.zero_le _), touched_eq_some here⟩
    | none =>
      rw [here] at found
      obtain ⟨later, ahead, rfl⟩ := Option.map_eq_some_iff.mp found
      obtain ⟨-, within, why⟩ := ih ahead
      exact ⟨Nat.succ_le_succ (Nat.zero_le _), Nat.succ_le_succ within, why⟩

theorem firstTouch_append {sl tp : ℚ} {window more : List Bar} {exit : Exit}
    (found : firstTouch s sl tp window = some exit) :
    firstTouch s sl tp (window ++ more) = some exit := by
  induction window generalizing exit with
  | nil => cases found
  | cons bar window ih =>
    rw [firstTouch_cons] at found
    rw [List.cons_append, firstTouch_cons]
    cases here : touched s sl tp bar with
    | some what =>
      rw [here] at found
      exact found
    | none =>
      rw [here] at found
      obtain ⟨later, ahead, rfl⟩ := Option.map_eq_some_iff.mp found
      rw [ih ahead, Option.map_some]

theorem leave_held_le :
    (leave terms s a first rest).held ≤ ((first :: rest).take terms.maxHold).length := by
  unfold leave
  dsimp only
  split
  · next exit found => exact (firstTouch_eq_some found).2.1
  · exact le_rfl

variable (s a first rest) in
theorem leave_price (holds : 1 ≤ terms.maxHold) :
    1 ≤ (leave terms s a first rest).held ∧
      (((leave terms s a first rest).reason = .sl ∧
          (leave terms s a first rest).price = (bracket terms s first.open_ a).1) ∨
        ((leave terms s a first rest).reason = .tp ∧
          (leave terms s a first rest).price = (bracket terms s first.open_ a).2) ∨
        ((leave terms s a first rest).reason = .timeout ∧
          (leave terms s a first rest).price =
            (((first :: rest)[(leave terms s a first rest).held - 1]?).getD first).close)) := by
  unfold leave
  dsimp only
  split
  · next exit found =>
    obtain ⟨held, -, stop | target⟩ := firstTouch_eq_some found
    · exact ⟨held, .inl stop⟩
    · exact ⟨held, .inr (.inl target)⟩
  · have some_ : 1 ≤ ((first :: rest).take terms.maxHold).length := by
      rw [List.length_take, List.length_cons]
      exact le_min holds (Nat.le_add_left 1 _)
    refine ⟨some_, .inr (.inr ⟨rfl, ?_⟩)⟩
    rw [List.getLast?_eq_getElem?, List.getElem?_take_of_lt]
    have short := List.length_take_le terms.maxHold (first :: rest)
    omega

variable (terms s a first) in
theorem leave_take (m : ℕ) (short : m ≤ rest.length) :
    leave terms s a first (rest.take m) = leave terms s a first rest ∨
      ((leave terms s a first (rest.take m)).reason = .timeout ∧
        (leave terms s a first (rest.take m)).held = m + 1 ∧ m + 1 < terms.maxHold) := by
  have window : first :: rest.take m = (first :: rest).take (m + 1) := rfl
  unfold leave
  dsimp only
  rw [window, List.take_take]
  by_cases enough : terms.maxHold ≤ m + 1
  · left
    rw [min_eq_left enough]
  · have fewer : m + 1 < terms.maxHold := Nat.lt_of_not_le enough
    rw [min_eq_right fewer.le]
    cases found : firstTouch s (bracket terms s first.open_ a).1 (bracket terms s first.open_ a).2
        ((first :: rest).take (m + 1)) with
    | some exit =>
      left
      have longer : (first :: rest).take terms.maxHold = (first :: rest).take (m + 1) ++
          ((first :: rest).drop (m + 1)).take (terms.maxHold - (m + 1)) := by
        rw [← List.take_add, Nat.add_sub_cancel' fewer.le]
      rw [longer, firstTouch_append found]
    | none =>
      right
      refine ⟨rfl, ?_, fewer⟩
      rw [List.length_take, List.length_cons, min_eq_left (Nat.succ_le_succ short)]

@[simp] theorem enter_entryIdx (i : ℕ) : (enter terms s a i first rest).entryIdx = i := rfl

theorem enter_bars_le (i : ℕ) : (enter terms s a i first rest).bars ≤ terms.maxHold :=
  leave_held_le.trans (List.length_take_le _ _)

variable (terms s a first) in
theorem enter_take (i m : ℕ) (short : m ≤ rest.length) :
    enter terms s a i first (rest.take m) = enter terms s a i first rest ∨
      (¬ (enter terms s a i first (rest.take m)).Complete terms ∧
        (enter terms s a i first (rest.take m)).bars = m + 1) := by
  rcases leave_take terms s a first m short with same | ⟨timeout, held, fewer⟩
  · left
    have within : (leave terms s a first rest).held ≤ m + 1 := by
      rw [← same]
      refine leave_held_le.trans ((List.length_take_le' _ _).trans ?_)
      rw [List.length_cons, List.length_take]
      exact Nat.succ_le_succ (min_le_left _ _)
    have left : (first :: rest.take m)[(leave terms s a first rest).held - 1]? =
        (first :: rest)[(leave terms s a first rest).held - 1]? := by
      rw [show first :: rest.take m = (first :: rest).take (m + 1) from rfl]
      exact List.getElem?_take_of_lt (by omega)
    unfold enter
    rw [same]
    dsimp only
    rw [left]
  · right
    refine ⟨?_, held⟩
    rintro (stop | target | full)
    · exact absurd (timeout.symm.trans stop) (by decide)
    · exact absurd (timeout.symm.trans target) (by decide)
    · exact absurd (held.symm.trans full) fewer.ne

end Trade

section Runs

variable {terms : Terms} {bars : List Bar} {sig : List ℤ} {atr : List (Option ℚ)}

theorem visit_eq_some {i span : ℕ} {t : RawTrade} :
    visit terms bars sig atr i = some (t, span) ↔
      ∃ a first rest, atr.getD (i - 1) none = some a ∧ bars.drop i = first :: rest ∧
        sig.getD (i - 1) 0 ≠ 0 ∧ 0 < a ∧ t = enter terms (sig.getD (i - 1) 0) a i first rest ∧
        span = t.bars - 1 := by
  unfold visit
  dsimp only
  constructor
  · intro found
    split at found
    · next a first rest ranged ahead =>
      split at found
      · cases found
      · next standing =>
        cases found
        obtain ⟨signal, positive⟩ := not_or.mp standing
        exact ⟨a, first, rest, ranged, ahead, signal, not_le.mp positive, rfl, rfl⟩
    · cases found
  · rintro ⟨a, first, rest, ranged, ahead, signal, positive, rfl, rfl⟩
    rw [ranged, ahead]
    dsimp only
    rw [if_neg (not_or.mpr ⟨signal, not_le.mpr positive⟩)]

theorem visit_take (k i : ℕ) (inside : i < (bars.take k).length - 1) :
    visit terms bars sig atr i = visit terms (bars.take k) (sig.take k) (atr.take k) i ∨
      ∃ t span, visit terms (bars.take k) (sig.take k) (atr.take k) i = some (t, span) ∧
        ¬ t.Complete terms ∧ (bars.take k).length - 1 ≤ i + span + 1 := by
  rw [List.length_take] at inside ⊢
  have signal : (sig.take k).getD (i - 1) 0 = sig.getD (i - 1) 0 := by
    rw [List.getD_eq_getElem?_getD, List.getElem?_take_of_lt (by omega),
      ← List.getD_eq_getElem?_getD]
  have ranged : (atr.take k).getD (i - 1) none = atr.getD (i - 1) none := by
    rw [List.getD_eq_getElem?_getD, List.getElem?_take_of_lt (by omega),
      ← List.getD_eq_getElem?_getD]
  unfold visit
  rw [signal, ranged]
  cases atr.getD (i - 1) none with
  | none => exact .inl rfl
  | some a =>
    have within : i < bars.length := by omega
    obtain ⟨first, rest, ahead⟩ : ∃ first rest, bars.drop i = first :: rest :=
      ⟨_, _, List.drop_eq_getElem_cons within⟩
    have size := length_of_ahead ahead
    have before : (bars.take k).drop i = first :: rest.take (min k bars.length - i - 1) := by
      rw [List.drop_take, ahead, show k - i = (k - i - 1) + 1 by omega, List.take_succ_cons]
      congr 1
      refine List.take_eq_take_iff.mpr ?_
      omega
    rw [ahead, before]
    dsimp only
    by_cases idle : sig.getD (i - 1) 0 = 0 ∨ a ≤ 0
    · rw [if_pos idle, if_pos idle]
      exact .inl rfl
    · rw [if_neg idle, if_neg idle]
      have short : min k bars.length - i - 1 ≤ rest.length := by omega
      rcases enter_take terms (sig.getD (i - 1) 0) a first i _ short with same | ⟨open_, ends⟩
      · rw [same]
        exact .inl rfl
      · refine .inr ⟨_, _, rfl, open_, ?_⟩
        omega

theorem getElem?_simulate_take (k m : ℕ) (t : RawTrade)
    (found : (simulate terms (bars.take k) (sig.take k) (atr.take k))[m]? = some t)
    (complete : t.Complete terms) : (simulate terms bars sig atr)[m]? = some t := by
  refine Walk.getElem?_run_of_extends ?_ (fun i inside => visit_take k i inside) _ m t found
    complete
  rw [List.length_take]
  omega

theorem pairwise_simulate :
    (simulate terms bars sig atr).Pairwise fun t t' => t.exitIdx < t'.entryIdx := by
  refine Walk.pairwise_run (fun i t span i' t' span' found found' behind => ?_) _
  obtain ⟨a, first, rest, -, -, -, -, rfl, rfl⟩ := visit_eq_some.mp found
  obtain ⟨a', first', rest', -, -, -, -, rfl, -⟩ := visit_eq_some.mp found'
  exact behind

theorem mem_simulate {t : RawTrade} (mem : t ∈ simulate terms bars sig atr) :
    ∃ s a first rest, sig.getD (t.entryIdx - 1) 0 = s ∧ atr.getD (t.entryIdx - 1) none = some a ∧
      bars.drop t.entryIdx = first :: rest ∧ s ≠ 0 ∧ 0 < a ∧
      t = enter terms s a t.entryIdx first rest := by
  obtain ⟨i, -, span, found⟩ := Walk.mem_run.mp mem
  obtain ⟨a, first, rest, ranged, ahead, signal, positive, rfl, -⟩ := visit_eq_some.mp found
  exact ⟨_, a, first, rest, rfl, ranged, ahead, signal, positive, rfl⟩

end Runs

end TradeResearch.Tools
