import TradeResearch.Backtest.Accounting
import TradeResearch.Replay.Course

/-!
# Replay against backtest

The replay looks for an exit from the bar after the entry on, and records the price the exit was at;
the backtest looks from the entry bar on, and records the close of the exit bar.

* `replay_eq_backtest_iff`: when the two record the same trades.
-/

namespace TradeResearch.Replay

open Marketdata Strategies Tools Backtest

section Agreement

variable {rounded : ℕ → ℚ → ℚ} {setup : Setup}

def signals (setup : Setup) : List ℤ :=
  buildSignalVector setup.strategy setup.bars setup.config.symbol setup.config.timeframe

def standing (setup : Setup) : ℕ → Option (RawTrade × ℕ) :=
  visit setup.config.terms setup.bars (signals setup) setup.atr

def reported (rounded : ℕ → ℚ → ℚ) (setup : Setup) (t : RawTrade) : Figures :=
  (record rounded setup.config setup.bars t (setup.config.quantity, none)).toFigures

def Alike (setup : Setup) (s : ℤ) (a : ℚ) (first : Bar) (rest : List Bar) : Prop :=
  let levels := bracket setup.config.terms s first.open_ a
  2 ≤ setup.config.maxHoldBars ∧ touched s levels.1 levels.2 first = none ∧
    ClosesThere s levels.1 levels.2 (rest.take (setup.config.maxHoldBars - 1))

def AlikeAt (setup : Setup) (k : ℕ) : Prop :=
  ∀ a first rest, setup.atr.getD (k - 1) none = some a → setup.bars.drop k = first :: rest →
    decision setup (k - 1) ≠ 0 → 0 < a → Alike setup (decision setup (k - 1)) a first rest

theorem enrichFrom_fixed (fixed : setup.config.sizingMode = .fixedQuantity) (balance : ℚ)
    (raw : List RawTrade) :
    enrichFrom rounded setup.config spec setup.bars setup.atr balance raw =
      (raw.map fun t => record rounded setup.config setup.bars t (setup.config.quantity, none),
        []) := by
  have size (balance : ℚ) (t : RawTrade) :
      Backtest.sizeOf setup.config spec setup.bars setup.atr balance t =
        .ok (setup.config.quantity, none) := by
    unfold Backtest.sizeOf
    rw [fixed]
  induction raw generalizing balance with
  | nil => rfl
  | cons t raw ih =>
    unfold enrichFrom
    rw [size]
    dsimp only
    rw [ih]
    rfl

theorem getD_signals {k : ℕ} (inside : k < setup.bars.length) :
    (signals setup).getD k 0 = decision setup k := by
  unfold signals buildSignalVector
  rw [List.getD_eq_getElem?_getD, List.getElem?_map, List.getElem?_range inside]
  rfl

theorem leave_eq_exitOf {s : ℤ} {a : ℚ} {first : Bar} {rest : List Bar}
    (long : 2 ≤ setup.config.maxHoldBars)
    (untouched : touched s (bracket setup.config.terms s first.open_ a).1
      (bracket setup.config.terms s first.open_ a).2 first = none) :
    leave setup.config.terms s a first rest = exitOf setup s a first rest := by
  have hold : setup.config.terms.maxHold = setup.config.maxHoldBars - 1 + 1 :=
    show setup.config.maxHoldBars = _ by omega
  unfold leave exitOf
  dsimp only
  rw [follow_eq (by omega), hold, List.take_succ_cons, firstTouch_cons, untouched]
  cases firstTouch s (bracket setup.config.terms s first.open_ a).1
      (bracket setup.config.terms s first.open_ a).2
      (rest.take (setup.config.maxHoldBars - 1)) with
  | some exit => rfl
  | none => simp only [Option.map_none, List.length_cons, List.getLast?_cons, Option.getD_some]

theorem leave_held_of_touched {s : ℤ} {a : ℚ} {first : Bar} (rest : List Bar)
    (touches : touched s (bracket setup.config.terms s first.open_ a).1
      (bracket setup.config.terms s first.open_ a).2 first ≠ none) :
    (leave setup.config.terms s a first rest).held ≤ 1 := by
  by_cases none_ : setup.config.terms.maxHold = 0
  · refine leave_held_le.trans ?_
    rw [none_]
    exact Nat.zero_le 1
  · obtain ⟨n, some_⟩ := Nat.exists_eq_succ_of_ne_zero none_
    obtain ⟨what, touch⟩ := Option.ne_none_iff_exists'.mp touches
    unfold leave
    dsimp only
    rw [some_, List.take_succ_cons, firstTouch_cons, touch]

theorem reported_of_leave {k : ℕ} {s : ℤ} {a : ℚ} {first : Bar} {rest : List Bar}
    (ahead : setup.bars.drop k = first :: rest)
    (same : leave setup.config.terms s a first rest = exitOf setup s a first rest) :
    reported rounded setup (enter setup.config.terms s a k first rest) =
      { recorded rounded setup k s a first (exitOf setup s a first rest) with
        exitPrice := ((first :: rest).getD ((exitOf setup s a first rest).held - 1)
          default).close } := by
  obtain ⟨least, most, -⟩ : 1 ≤ (exitOf setup s a first rest).held ∧
      (exitOf setup s a first rest).held ≤ 1 + rest.length ∧
        (rest ≠ [] → 2 ≤ (exitOf setup s a first rest).held) := follow_held
  have size := length_of_ahead ahead
  have bar := getD_of_ahead ahead
  unfold reported recorded record enter booked entered
  dsimp only
  rw [same]
  generalize exitOf setup s a first rest = exit at least most
  have last : min (k + exit.held - 1) (setup.bars.length - 1) = k + (exit.held - 1) := by omega
  have left : ((first :: rest)[exit.held - 1]?).getD first =
      (first :: rest).getD (exit.held - 1) default := by
    rw [List.getD_eq_getElem?_getD, List.getElem?_eq_getElem (by rw [List.length_cons]; omega)]
    rfl
  have entry : setup.bars.getD k default = first := bar 0
  have net (gross financing : ℚ) : gross - setup.config.costs.spreadPoints + financing -
      setup.config.costs.slippagePoints =
        gross - setup.config.costs.spreadPoints - setup.config.costs.slippagePoints +
          financing := by
    ring
  rw [last, Nat.add_sub_assoc least, bar, entry, left]
  by_cases up : 0 < s
  · simp only [up, if_true]
    rw [← net]
    rfl
  · simp only [up, if_false]
    rw [← net]
    rfl

variable (rounded) in
theorem reported_eq_recorded_iff {k : ℕ} {s : ℤ} {a : ℚ} {first : Bar} {rest : List Bar}
    (ahead : setup.bars.drop k = first :: rest) (more : rest ≠ []) :
    reported rounded setup (enter setup.config.terms s a k first rest) =
        recorded rounded setup k s a first (exitOf setup s a first rest) ↔
      Alike setup s a first rest := by
  have held : 2 ≤ (exitOf setup s a first rest).held := follow_held.2.2 more
  have counted (equal : reported rounded setup (enter setup.config.terms s a k first rest) =
      recorded rounded setup k s a first (exitOf setup s a first rest)) :
      (leave setup.config.terms s a first rest).held = (exitOf setup s a first rest).held :=
    congrArg Figures.barsHeld equal
  unfold Alike
  by_cases long : 2 ≤ setup.config.maxHoldBars
  · by_cases untouched : touched s (bracket setup.config.terms s first.open_ a).1
        (bracket setup.config.terms s first.open_ a).2 first = none
    · have closes : ((first :: rest).getD ((exitOf setup s a first rest).held - 1) default).close =
          (exitOf setup s a first rest).price ↔ _ := closes_follow_iff (by omega)
      rw [and_iff_right long, and_iff_right untouched, ← closes,
        reported_of_leave ahead (leave_eq_exitOf long untouched)]
      constructor
      · exact fun equal => congrArg Figures.exitPrice equal
      · intro price
        rw [price]
        rfl
    · refine iff_of_false (fun equal => ?_) fun alike => untouched alike.2.1
      have one := leave_held_of_touched rest untouched
      rw [counted equal] at one
      omega
  · refine iff_of_false (fun equal => ?_) fun alike => long alike.1
    have few : (leave setup.config.terms s a first rest).held ≤ setup.config.maxHoldBars :=
      leave_held_le.trans (List.length_take_le _ _)
    rw [counted equal] at few
    omega

theorem finds (rounded : ℕ → ℚ → ℚ) (setup : Setup) (k : ℕ) :
    (standing setup k = none ∧ found rounded setup k = none ∧
        ∀ a first rest, setup.atr.getD (k - 1) none = some a → setup.bars.drop k = first :: rest →
          decision setup (k - 1) ≠ 0 → ¬ 0 < a) ∨
      ∃ a first rest, setup.atr.getD (k - 1) none = some a ∧ setup.bars.drop k = first :: rest ∧
        decision setup (k - 1) ≠ 0 ∧ 0 < a ∧
        standing setup k = some (enter setup.config.terms (decision setup (k - 1)) a k first rest,
          (enter setup.config.terms (decision setup (k - 1)) a k first rest).bars - 1) := by
  by_cases trade : ∃ a first rest, setup.atr.getD (k - 1) none = some a ∧
      setup.bars.drop k = first :: rest ∧ decision setup (k - 1) ≠ 0 ∧ 0 < a
  · obtain ⟨a, first, rest, ranged, ahead, signal, positive⟩ := trade
    have size := length_of_ahead ahead
    have given : (signals setup).getD (k - 1) 0 = decision setup (k - 1) :=
      getD_signals (by omega)
    refine .inr ⟨a, first, rest, ranged, ahead, signal, positive, ?_⟩
    refine visit_eq_some.mpr ⟨a, first, rest, ranged, ahead, ?_, positive, ?_, rfl⟩
    · rwa [given]
    · rw [given]
  · left
    have idle (a : ℚ) (first : Bar) (rest : List Bar)
        (ranged : setup.atr.getD (k - 1) none = some a) (ahead : setup.bars.drop k = first :: rest)
        (signal : decision setup (k - 1) ≠ 0) : ¬ 0 < a :=
      fun positive => trade ⟨a, first, rest, ranged, ahead, signal, positive⟩
    refine ⟨?_, ?_, idle⟩
    · refine Option.eq_none_iff_forall_ne_some.mpr fun thing stands => ?_
      obtain ⟨a, first, rest, ranged, ahead, signal, positive, -, -⟩ := visit_eq_some.mp stands
      have size := length_of_ahead ahead
      rw [getD_signals (by omega)] at signal
      exact idle a first rest ranged ahead signal positive
    · unfold found
      cases ranged : setup.atr.getD (k - 1) none with
      | none => rfl
      | some a =>
        cases ahead : setup.bars.drop k with
        | nil => rfl
        | cons first rest =>
          refine if_pos ?_
          by_cases signal : decision setup (k - 1) = 0
          · exact .inl signal
          · exact .inr (not_lt.mp (idle a first rest ranged ahead signal))

theorem read_eq_found_iff {k : ℕ} (inside : k < setup.bars.length - 1) :
    Walk.read (reported rounded setup) (standing setup) k = found rounded setup k ↔
      AlikeAt setup k := by
  rcases finds rounded setup k with ⟨nothing, none_, idle⟩ |
    ⟨a, first, rest, ranged, ahead, signal, positive, trade⟩
  · refine iff_of_true ?_ ?_
    · rw [Walk.read, nothing, none_]
      rfl
    · exact fun a first rest ranged ahead signal positive =>
        absurd positive (idle a first rest ranged ahead signal)
  · have more : rest ≠ [] := by
      have size := length_of_ahead ahead
      exact List.ne_nil_of_length_pos (by omega)
    have both := reported_eq_recorded_iff rounded (s := decision setup (k - 1)) (a := a)
      ahead more
    have alike : AlikeAt setup k ↔ Alike setup (decision setup (k - 1)) a first rest := by
      refine ⟨fun alike => alike a first rest ranged ahead signal positive,
        fun alike a' first' rest' ranged' ahead' _ _ => ?_⟩
      obtain rfl := Option.some.inj (ranged.symm.trans ranged')
      obtain ⟨rfl, rfl⟩ := List.cons.inj (ahead.symm.trans ahead')
      exact alike
    rw [alike, ← both, Walk.read, trade, found_of_signal ranged ahead signal positive,
      Option.map_some, Option.some.injEq, Prod.map_apply, Prod.mk.injEq]
    refine and_iff_left_of_imp fun equal => ?_
    have counted := congrArg Figures.barsHeld equal
    exact congrArg (· - 1) counted

theorem read_eq_none_iff (rounded : ℕ → ℚ → ℚ) (setup : Setup) (k : ℕ) :
    Walk.read (reported rounded setup) (standing setup) k = none ↔
      found rounded setup k = none := by
  rcases finds rounded setup k with ⟨nothing, none_, -⟩ |
    ⟨a, first, rest, ranged, ahead, signal, positive, trade⟩
  · rw [Walk.read, nothing, none_]
    rfl
  · rw [Walk.read, trade, found_of_signal ranged ahead signal positive]
    exact iff_of_false (Option.some_ne_none _) (Option.some_ne_none _)

theorem span_eq_of_figures {k : ℕ} {figures : Figures} {span span' : ℕ}
    (here : Walk.read (reported rounded setup) (standing setup) k = some (figures, span))
    (there : found rounded setup k = some (figures, span')) : span = span' := by
  rcases finds rounded setup k with ⟨nothing, -, -⟩ |
    ⟨a, first, rest, ranged, ahead, signal, positive, trade⟩
  · rw [Walk.read, nothing] at here
    cases here
  · rw [Walk.read, trade] at here
    rw [found_of_signal ranged ahead signal positive] at there
    obtain ⟨equal, rfl⟩ := Prod.mk.inj (Option.some.inj here)
    obtain ⟨equal', rfl⟩ := Prod.mk.inj (Option.some.inj there)
    exact congrArg (· - 1) (congrArg Figures.barsHeld (equal.trans equal'.symm))

/-- The trades a replay of a fixed size records are those the backtest reports exactly when the two
are alike at every bar the backtest stands at. -/
theorem replay_eq_backtest_iff {trades : List TradeRecord} {refused : List Refusal}
    (permits : setup.risk = permissive) (pos : 0 < setup.config.quantity)
    (fixed : setup.config.sizingMode = .fixedQuantity)
    (made : enrich rounded setup.config spec setup.bars setup.atr
      (simulate setup.config.terms setup.bars (signals setup) setup.atr) = .ok (trades, refused)) :
    (runToCompletion rounded setup).portfolio.trades.map Trade.toFigures =
        trades.map TradeRecord.toFigures ↔
      ∀ k ∈ Walk.positions (standing setup) (setup.bars.length - 1) firstEntry,
        AlikeAt setup k := by
  have sized : trades.map TradeRecord.toFigures =
      Walk.run (Walk.read (reported rounded setup) (standing setup)) (setup.bars.length - 1)
        firstEntry := by
    unfold enrich at made
    rw [if_neg (fun risky => risky.1 fixed), enrichFrom_fixed fixed] at made
    cases made
    rw [Walk.run_read, List.map_map]
    rfl
  have replayed := told_runToCompletion rounded permits pos
  unfold told at replayed
  rw [sized, replayed, eq_comm, Walk.run_eq_iff, Walk.positions_read]
  · exact forall₂_congr fun k stood => read_eq_found_iff (Walk.mem_positions stood).2
  · exact read_eq_none_iff rounded setup
  · exact fun k figures span span' here there => span_eq_of_figures here there

def buysOnce : Strategy :=
  { key := "buys_once"
    generateSignal := fun candles now =>
      .ok { noSignal "buys_once" candles now [] with
        signalType := if now = 3600 * (firstEntry - 1 : ℕ) then .entryLong else .noSignal } }

def once (bars : List Bar) : Setup :=
  { config := plain, strategy := buysOnce, bars, atr := atrSeries bars 14, risk := permissive,
    accountId := none }

theorem replay_eq_backtest_iff_reached :
    ∃ trades refused, enrich unrounded plain none reached (atrSeries reached 14)
        (simulate plain.terms reached (signals (once reached)) (atrSeries reached 14)) =
          .ok (trades, refused) ∧
      ((runToCompletion unrounded (once reached)).portfolio.trades.map Trade.toFigures =
          trades.map TradeRecord.toFigures ↔
        ∀ k ∈ Walk.positions (standing (once reached)) (reached.length - 1) firstEntry,
          AlikeAt (once reached) k) :=
  ⟨_, _, rfl, @replay_eq_backtest_iff _ (once reached) none _ _ rfl (by decide +kernel)
    rfl rfl⟩

/-- The target is passed on the entry bar: the backtest has left after one bar, the replay holds on
until the data ends. -/
theorem not_forall_replay_eq_backtest :
    ¬ ∀ (setup : Setup) trades refused, setup.config.validate = .ok () →
      setup.config.sizingMode = .fixedQuantity → setup.risk = permissive →
      (∀ bar ∈ setup.bars, ohlcIsConsistent bar) →
      enrich unrounded setup.config none setup.bars setup.atr
          (simulate setup.config.terms setup.bars (signals setup) setup.atr) =
        .ok (trades, refused) →
      (runToCompletion unrounded setup).portfolio.trades.map Trade.toFigures =
        trades.map TradeRecord.toFigures := by
  intro all
  have same := all (once passed) _ _ validate_plain rfl rfl (by decide +kernel) rfl
  have replayed : ((runToCompletion unrounded (once passed)).portfolio.trades.map
      Trade.toFigures).map Figures.barsHeld = [2] := by
    decide +kernel
  have reported : ((enrichFrom unrounded plain none passed (atrSeries passed 14)
      plain.initialCapital (simulate plain.terms passed (signals (once passed))
        (atrSeries passed 14))).1.map TradeRecord.toFigures).map Figures.barsHeld = [1] := by
    decide +kernel
  rw [same] at replayed
  exact absurd (replayed.symm.trans reported) (by decide)

end Agreement

end TradeResearch.Replay
