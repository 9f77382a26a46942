import TradeResearch.Replay.Engine

/-!
# What a replay finds

With no limit set the replay engine is a walk over bars like the simulator's, which looks for an
exit from the bar after the entry on.

* `follow` is the course of a position over the bars to come.
* `told_runToCompletion`: what a replay records is what its walk finds.
-/

namespace TradeResearch.Replay

open Marketdata Tools Backtest Risk

section Permissive

variable {limits : RiskLimits} {proposal : OrderProposal} {portfolio : PortfolioState} {now : Time}

theorem passed_reported_of_unset (caps : ∀ cap, limits.cap cap = none)
    (floors : ∀ floor, limits.floor floor = none) (flags : ∀ flag, limits.flag flag = false)
    (mode : proposal.mode = .paper) (unnamed : proposal.signalId = none)
    (volume : ∃ v, proposal.volume = some v ∧ 0 < v) (silent : Passed (statusChecks portfolio)) :
    Passed (Risk.reported limits proposal portfolio now []) := by
  have uncapped {cap : Cap} {P : ℚ → Prop} : ∀ bound, limits.cap cap = some bound → P bound :=
    fun bound isSet => absurd isSet (by simp [caps])
  have unflagged {flag : Flag} {P : Prop} : limits.flag flag = true → P :=
    fun required => absurd required (by simp [flags])
  unfold Risk.reported
  simp only [passed_append, and_assoc]
  refine ⟨?mode, ?single, ?fresh, ?stop, ?size, ?one, ?positions, ?perDay, ?daily, ?weekly,
    ?streak, ?correlated, ?drawdown, ?risk, ?exposure, ?leverage, ?spread, silent, ?isOpen, ?data,
    ?largest, ?concentration, ?margin, ?frequency, ?cooldown, ?reward⟩
  case mode =>
    unfold tradingModeCheck
    rw [passed_check, mode]
    rfl
  case single =>
    unfold duplicateSignalCheck
    rw [unnamed]
    exact passed_nil
  case size =>
    obtain ⟨v, given, pos⟩ := volume
    unfold positionSizeCheck
    rw [given, passed_check]
    exact decide_eq_true pos
  case stop => exact passed_stopLossCheck_iff.mpr unflagged
  case one => exact passed_onePositionPerSymbolCheck_iff.mpr unflagged
  case isOpen => exact passed_marketOpenCheck_iff.mpr unflagged
  case exposure => exact passed_maxExposureCheck_iff.mpr uncapped
  case cooldown =>
    refine passed_cooldownCheck_iff.mpr fun seconds isSet => ?_
    exact absurd isSet (by simp [floors])
  case frequency =>
    unfold tradeFrequencyChecks frequencyCheck
    rw [passed_append, passed_append, if_pos ⟨caps _, caps _⟩]
    exact ⟨⟨(passed_limited_iff passed_nil).mpr uncapped,
      (passed_limited_iff passed_nil).mpr uncapped⟩, passed_unenforced _ _⟩
  case reward =>
    refine (passed_limited_iff (passed_unenforced _ _)).mpr fun bound isSet => ?_
    exact absurd isSet (by simp [floors])
  case fresh => exact (passed_limited_iff (passed_unenforced _ _)).mpr uncapped
  case positions => exact (passed_limited_iff (passed_unenforced _ _)).mpr uncapped
  case data => exact (passed_limited_iff (passed_unenforced _ _)).mpr uncapped
  case largest => exact (passed_limited_iff (passed_unenforced _ _)).mpr uncapped
  case concentration => exact (passed_limited_iff (passed_unenforced _ _)).mpr uncapped
  case margin => exact (passed_limited_iff (passed_unenforced _ _)).mpr uncapped
  all_goals exact (passed_limited_iff passed_nil).mpr uncapped

end Permissive

theorem approved_permissive {setup : Setup} {e : ReplayEngine} {bar : Bar} {side : Side}
    {entry stop target : ℚ} {now : Time} (pos : 0 < e.portfolio.quantity) :
    (permissive.evaluate (proposal setup e bar side entry stop target) (portfolioState e) now
      []).approved = true := by
  refine (RiskEngine.approved_iff ..).mpr ⟨?_, ?_⟩
  · simp [KillSwitches.engagedFor, permissive]
  · refine passed_reported_of_unset (fun _ => rfl) (fun _ => rfl) (fun flag => ?_) rfl rfl
      ⟨_, rfl, pos⟩ ?_
    · cases flag <;> rfl
    · unfold statusChecks
      simp only [portfolioState, supplied, passed_append, passed_unenforced, and_self]

section OneBar

variable {rounded : ℕ → ℚ → ℚ} {setup : Setup} {e : ReplayEngine} {i k : ℕ} {s : ℤ} {a : ℚ}
  {first bar : Bar}

def decision (setup : Setup) (i : ℕ) : ℤ :=
  signalAt setup.strategy setup.config.symbol setup.config.timeframe setup.bars i

def told (e : ReplayEngine) : List Figures := e.portfolio.trades.map Trade.toFigures

def entered (setup : Setup) (s : ℤ) (a : ℚ) (k : ℕ) (first : Bar) : OpenPosition :=
  let levels := bracket setup.config.terms s first.open_ a
  { side := if 0 < s then .long else .short
    entryIndex := k
    entryTime := first.barTime
    entryPrice := first.open_
    stopLoss := levels.1
    takeProfit := levels.2 }

def heard (setup : Setup) (e : ReplayEngine) (i : ℕ) : ReplayEngine :=
  { e with signals := e.signals ++ [decision setup i] }

def acted (rounded : ℕ → ℚ → ℚ) (setup : Setup) (e : ReplayEngine) (i : ℕ) : ReplayEngine :=
  let bar := setup.bars.getD i default
  let e := match (heard setup e i).position with
    | some position => checkExit rounded setup (heard setup e i) position i bar
    | none => heard setup e i
  if e.position.isNone then maybeOpen setup e i bar else e

variable (rounded setup e i) in
theorem step_eq :
    (step rounded setup e i).position = (acted rounded setup e i).position ∧
      (step rounded setup e i).nextEntryAllowedFrom =
        (acted rounded setup e i).nextEntryAllowedFrom ∧
      told (step rounded setup e i) = told (acted rounded setup e i) ∧
      (step rounded setup e i).portfolio.quantity = (acted rounded setup e i).portfolio.quantity ∧
      (step rounded setup e i).signals = (acted rounded setup e i).signals :=
  ⟨rfl, rfl, rfl, rfl, rfl⟩

theorem told_close {position : OpenPosition} {price : ℚ} {reason : ExitReason} {held : ℕ} :
    told (close rounded setup e position i bar price reason held) =
      told e ++
        [(booked rounded setup e.portfolio.quantity position bar price reason held).toFigures] := by
  unfold told close ReplayPortfolio.record
  rw [List.map_append]
  rfl

variable (rounded setup e i k s a first bar) in
theorem checkExit_entered :
    checkExit rounded setup e (entered setup s a k first) i bar =
      match touched s (bracket setup.config.terms s first.open_ a).1
          (bracket setup.config.terms s first.open_ a).2 bar with
      | some (price, reason) =>
        close rounded setup e (entered setup s a k first) i bar price reason (i - k + 1)
      | none =>
        if setup.config.maxHoldBars ≤ i - k + 1 then
          close rounded setup e (entered setup s a k first) i bar bar.close .timeout (i - k + 1)
        else e := by
  unfold checkExit touched hitSl hitTp entered
  by_cases up : 0 < s
  · simp only [up, if_true, decide_eq_true_eq]
    split
    · rfl
    · split <;> rfl
  · simp only [up, if_false, decide_eq_true_eq]
    split
    · rfl
    · split <;> rfl

theorem maybeOpen_of_blocked
    (blocked : setup.bars.length - 1 ≤ i ∨ i < e.nextEntryAllowedFrom ∨ i = 0) :
    maybeOpen setup e i bar = e := by
  unfold maybeOpen
  rw [if_pos blocked]

theorem maybeOpen_of_idle
    (idle : ∀ a, setup.atr.getD (i - 1) none = some a → e.signals.getD (i - 1) 0 = 0 ∨ a ≤ 0) :
    maybeOpen setup e i bar = e := by
  unfold maybeOpen
  split
  · rfl
  · dsimp only
    split
    · rfl
    · next signal =>
      have unusable : (setup.atr.getD (i - 1) none).filter (0 < ·) = none := by
        cases ranged : setup.atr.getD (i - 1) none with
        | none => rfl
        | some a =>
          have nonpos : a ≤ 0 := (idle a ranged).resolve_left signal
          exact Option.filter_some_neg (by simpa using nonpos)
      rw [unusable]

variable (setup e bar) in
theorem maybeOpen_of_signal (permits : setup.risk = permissive) (pos : 0 < e.portfolio.quantity)
    (free : ¬ (setup.bars.length - 1 ≤ i ∨ i < e.nextEntryAllowedFrom ∨ i = 0))
    (ranged : setup.atr.getD (i - 1) none = some a) (signal : e.signals.getD (i - 1) 0 ≠ 0)
    (positive : 0 < a) :
    ∃ verdicts, maybeOpen setup e i bar =
      { e with
        riskVerdicts := verdicts
        position := some (entered setup (e.signals.getD (i - 1) 0) a i bar) } := by
  have usable : (setup.atr.getD (i - 1) none).filter (0 < ·) = some a := by
    rw [ranged]
    exact Option.filter_some_pos (by simpa using positive)
  unfold maybeOpen
  rw [if_neg free]
  rw [if_neg signal, usable, permits]
  dsimp only
  rw [if_pos (approved_permissive pos)]
  unfold entered bracket
  by_cases up : 0 < e.signals.getD (i - 1) 0
  · simp only [if_pos up]
    exact ⟨_, rfl⟩
  · simp only [if_neg up]
    exact ⟨_, rfl⟩

theorem acted_of_flat (flat : e.position = none) :
    acted rounded setup e i = maybeOpen setup (heard setup e i) i (setup.bars.getD i default) := by
  have none_ : (heard setup e i).position = none := flat
  unfold acted
  rw [none_]
  dsimp only
  rw [none_]
  rfl

theorem acted_of_close {position : OpenPosition} {price : ℚ} {reason : ExitReason} {held : ℕ}
    (open_ : e.position = some position)
    (closes : checkExit rounded setup (heard setup e i) position i (setup.bars.getD i default) =
      close rounded setup (heard setup e i) position i (setup.bars.getD i default) price reason
        held) :
    acted rounded setup e i = close rounded setup (heard setup e i) position i
      (setup.bars.getD i default) price reason held := by
  have some_ : (heard setup e i).position = some position := open_
  unfold acted
  rw [some_]
  dsimp only
  rw [closes]
  exact maybeOpen_of_blocked (.inr (.inl (Nat.lt_succ_self i)))

theorem acted_of_hold {position : OpenPosition} (open_ : e.position = some position)
    (holds : checkExit rounded setup (heard setup e i) position i (setup.bars.getD i default) =
      heard setup e i) :
    acted rounded setup e i = heard setup e i := by
  have some_ : (heard setup e i).position = some position := open_
  unfold acted
  rw [some_]
  dsimp only
  rw [holds, some_]
  rfl

end OneBar

def follow (maxHold : ℕ) (s : ℤ) (sl tp : ℚ) : ℕ → Bar → List Bar → Exit
  | held, last, [] => ⟨held, last.close, .timeout⟩
  | held, _, bar :: rest =>
    match touched s sl tp bar with
    | some (price, reason) => ⟨held + 1, price, reason⟩
    | none =>
      if maxHold ≤ held + 1 then ⟨held + 1, bar.close, .timeout⟩
      else follow maxHold s sl tp (held + 1) bar rest

def ClosesThere (s : ℤ) (sl tp : ℚ) : List Bar → Prop
  | [] => True
  | bar :: rest =>
    match touched s sl tp bar with
    | some (price, _) => bar.close = price
    | none => ClosesThere s sl tp rest

section Follow

variable {maxHold held : ℕ} {s : ℤ} {sl tp : ℚ} {last : Bar}

theorem follow_held : held ≤ (follow maxHold s sl tp held last rest).held ∧
    (follow maxHold s sl tp held last rest).held ≤ held + rest.length ∧
    (rest ≠ [] → held + 1 ≤ (follow maxHold s sl tp held last rest).held) := by
  induction rest generalizing held last with
  | nil => exact ⟨le_rfl, le_rfl, fun some_ => absurd rfl some_⟩
  | cons bar rest ih =>
    have one : held + 1 ≤ held + (bar :: rest).length := by
      rw [List.length_cons]
      omega
    unfold follow
    split
    · exact ⟨Nat.le_succ held, one, fun _ => le_rfl⟩
    · split
      · exact ⟨Nat.le_succ held, one, fun _ => le_rfl⟩
      · obtain ⟨least, most, -⟩ := @ih (held + 1) bar
        rw [List.length_cons]
        omega

theorem follow_eq (long : held < maxHold) :
    follow maxHold s sl tp held last rest =
      match firstTouch s sl tp (rest.take (maxHold - held)) with
      | some exit => { exit with held := exit.held + held }
      | none => ⟨(rest.take (maxHold - held)).length + held,
          ((rest.take (maxHold - held)).getLast?.getD last).close, .timeout⟩ := by
  induction rest generalizing held last with
  | nil =>
    simp [follow, firstTouch]
  | cons bar rest ih =>
    rw [show maxHold - held = maxHold - (held + 1) + 1 by omega, List.take_succ_cons,
      firstTouch_cons]
    unfold follow
    cases touched s sl tp bar with
    | some what => simp [Nat.add_comm]
    | none =>
      by_cases past : maxHold ≤ held + 1
      · rw [if_pos past, Nat.sub_eq_zero_of_le past, List.take_zero]
        simp [firstTouch, Nat.add_comm]
      · rw [if_neg past, ih (Nat.lt_of_not_le past)]
        cases firstTouch s sl tp (rest.take (maxHold - (held + 1))) with
        | some exit => simp [Nat.add_comm, Nat.add_left_comm]
        | none =>
          simp only [List.length_cons, List.getLast?_cons, Option.getD_some]
          congr 1
          omega

theorem closes_follow_iff (long : held < maxHold) :
    ((last :: rest).getD ((follow maxHold s sl tp held last rest).held - held) default).close =
        (follow maxHold s sl tp held last rest).price ↔
      ClosesThere s sl tp (rest.take (maxHold - held)) := by
  induction rest generalizing held last with
  | nil =>
    simp [follow, ClosesThere]
  | cons bar rest ih =>
    rw [show maxHold - held = maxHold - (held + 1) + 1 by omega, List.take_succ_cons]
    unfold follow ClosesThere
    cases touched s sl tp bar with
    | some what => simp
    | none =>
      by_cases past : maxHold ≤ held + 1
      · rw [if_pos past, Nat.sub_eq_zero_of_le past, List.take_zero]
        simp [ClosesThere]
      · have later : held + 1 ≤ (follow maxHold s sl tp (held + 1) bar rest).held := follow_held.1
        rw [if_neg past, ← ih (Nat.lt_of_not_le past),
          show (follow maxHold s sl tp (held + 1) bar rest).held - held =
            (follow maxHold s sl tp (held + 1) bar rest).held - (held + 1) + 1 by omega,
          List.getD_cons_succ]

end Follow

section Feed

variable {rounded : ℕ → ℚ → ℚ}

theorem checkExit_frame {e : ReplayEngine} {position : OpenPosition} {i : ℕ} {bar : Bar} :
    (checkExit rounded setup e position i bar).signals = e.signals ∧
      (checkExit rounded setup e position i bar).portfolio.quantity = e.portfolio.quantity := by
  unfold checkExit
  dsimp only
  split_ifs <;> exact ⟨rfl, rfl⟩

theorem maybeOpen_frame {e : ReplayEngine} {i : ℕ} {bar : Bar} :
    (maybeOpen setup e i bar).signals = e.signals ∧
      (maybeOpen setup e i bar).portfolio = e.portfolio := by
  unfold maybeOpen
  dsimp only
  split_ifs
  · exact ⟨rfl, rfl⟩
  · exact ⟨rfl, rfl⟩
  all_goals
    split
    · exact ⟨rfl, rfl⟩
    · split <;> exact ⟨rfl, rfl⟩

theorem step_frame {e : ReplayEngine} {i : ℕ} :
    (step rounded setup e i).signals = e.signals ++ [decision setup i] ∧
      (step rounded setup e i).portfolio.quantity = e.portfolio.quantity := by
  obtain ⟨-, -, -, quantity, signals⟩ := step_eq rounded setup e i
  have opened (e : ReplayEngine) : (if e.position.isNone then
      maybeOpen setup e i (setup.bars.getD i default) else e).signals = e.signals ∧
      (if e.position.isNone then
        maybeOpen setup e i (setup.bars.getD i default) else e).portfolio = e.portfolio := by
    split
    · exact maybeOpen_frame
    · exact ⟨rfl, rfl⟩
  rw [quantity, signals]
  unfold acted
  rw [(opened _).1, (opened _).2]
  split
  · exact checkExit_frame
  · exact ⟨rfl, rfl⟩

theorem feed_frame (m : ℕ) :
    (feed rounded setup m).signals = (List.range m).map (decision setup) ∧
      (feed rounded setup m).portfolio.quantity = setup.config.quantity := by
  induction m with
  | zero => exact ⟨rfl, rfl⟩
  | succ m ih =>
    rw [feed_succ, step_frame.1, step_frame.2, ih.1, ih.2, List.range_succ, List.map_append]
    exact ⟨rfl, rfl⟩

theorem heard_signal {i : ℕ} (later : i ≠ 0) :
    (heard setup (feed rounded setup i) i).signals.getD (i - 1) 0 = decision setup (i - 1) := by
  unfold heard
  rw [(feed_frame i).1, List.getD_eq_getElem?_getD, List.getElem?_append_left]
  · rw [List.getElem?_map, List.getElem?_range (by omega)]
    rfl
  · rw [List.length_map, List.length_range]
    omega

end Feed

def recorded (rounded : ℕ → ℚ → ℚ) (setup : Setup) (k : ℕ) (s : ℤ) (a : ℚ) (first : Bar)
    (exit : Exit) : Figures :=
  (booked rounded setup setup.config.quantity (entered setup s a k first)
    (setup.bars.getD (k + exit.held - 1) default) exit.price exit.reason exit.held).toFigures

def exitOf (setup : Setup) (s : ℤ) (a : ℚ) (first : Bar) (rest : List Bar) : Exit :=
  let levels := bracket setup.config.terms s first.open_ a
  follow setup.config.maxHoldBars s levels.1 levels.2 1 first rest

def found (rounded : ℕ → ℚ → ℚ) (setup : Setup) (k : ℕ) : Option (Figures × ℕ) :=
  let s := decision setup (k - 1)
  match setup.atr.getD (k - 1) none, setup.bars.drop k with
  | some a, first :: rest =>
    if s = 0 ∨ a ≤ 0 then none
    else
      let exit := exitOf setup s a first rest
      some (recorded rounded setup k s a first exit, exit.held - 1)
  | _, _ => none

section Found

variable {rounded : ℕ → ℚ → ℚ}

structure Flat (e : ReplayEngine) (i : ℕ) : Prop where
  position : e.position = none
  free : e.nextEntryAllowedFrom ≤ i

def Continues (rounded : ℕ → ℚ → ℚ) (setup : Setup) (i : ℕ) : Prop :=
  Flat (feed rounded setup i) i →
    told (runToCompletion rounded setup) = told (feed rounded setup i) ++
      Walk.run (found rounded setup) (setup.bars.length - 1) i

theorem told_of_closed {k held : ℕ} {s : ℤ} {a price : ℚ} {first bar : Bar} {reason : ExitReason}
    (open_ : (feed rounded setup (k + held)).position = some (entered setup s a k first))
    (here : setup.bars.getD (k + held) default = bar)
    (closes : checkExit rounded setup (heard setup (feed rounded setup (k + held)) (k + held))
        (entered setup s a k first) (k + held) bar =
      close rounded setup (heard setup (feed rounded setup (k + held)) (k + held))
        (entered setup s a k first) (k + held) bar price reason (held + 1))
    (behind : Continues rounded setup (k + (held + 1))) :
    told (runToCompletion rounded setup) = told (feed rounded setup (k + held)) ++
      recorded rounded setup k s a first ⟨held + 1, price, reason⟩ ::
        Walk.run (found rounded setup) (setup.bars.length - 1) (k + (held + 1)) := by
  obtain ⟨position, free, tells, -, -⟩ := step_eq rounded setup
    (feed rounded setup (k + held)) (k + held)
  rw [← feed_succ, acted_of_close open_ (by rw [here]; exact closes)] at position free tells
  rw [behind ⟨position, free.le⟩]
  unfold recorded
  have size : (heard setup (feed rounded setup (k + held)) (k + held)).portfolio.quantity =
      setup.config.quantity := (feed_frame _).2
  rw [← Nat.add_assoc, Nat.add_sub_cancel, tells, told_close, size, List.append_assoc, here]
  rfl

theorem told_of_open {k held : ℕ} {s : ℤ} {a : ℚ} {first last : Bar} {rest : List Bar}
    (inside : k + held ≤ setup.bars.length) (begun : 1 ≤ held)
    (ahead : setup.bars.drop (k + held) = rest)
    (before : setup.bars.getD (k + held - 1) default = last)
    (open_ : (feed rounded setup (k + held)).position = some (entered setup s a k first))
    {exit : Exit} (leaves : follow setup.config.maxHoldBars s
      (bracket setup.config.terms s first.open_ a).1
      (bracket setup.config.terms s first.open_ a).2 held last rest = exit)
    (behind : Continues rounded setup (k + exit.held)) :
    told (runToCompletion rounded setup) = told (feed rounded setup (k + held)) ++
      recorded rounded setup k s a first exit ::
        Walk.run (found rounded setup) (setup.bars.length - 1) (k + exit.held) := by
  induction rest generalizing held last with
  | nil =>
    -- the data runs out: what is open is closed on the last bar
    have all : setup.bars.length = k + held := by
      have none_ := congrArg List.length ahead
      rw [List.length_drop, List.length_nil] at none_
      omega
    have final : setup.bars.getLast? = some last := by
      rw [List.getLast?_eq_getElem?, all, ← before, List.getD_eq_getElem?_getD,
        List.getElem?_eq_getElem (by omega)]
      rfl
    obtain rfl : (⟨held, last.close, .timeout⟩ : Exit) = exit := leaves
    unfold runToCompletion finalise recorded
    rw [all, open_, final]
    dsimp only
    rw [told_close, (feed_frame _).2, before, Walk.run_of_le (by omega),
      show k + held - 1 - (entered setup s a k first).entryIndex + 1 = held from
        show k + held - 1 - k + 1 = held by omega]
  | cons bar rest ih =>
    have within : k + held < setup.bars.length := by
      have size := length_of_ahead ahead
      omega
    have here := getD_first ahead
    have later : setup.bars.drop (k + (held + 1)) = rest := by
      rw [← Nat.add_assoc, ← List.drop_drop, ahead]
      rfl
    have count : k + held - k + 1 = held + 1 := by omega
    have check := checkExit_entered rounded setup
      (heard setup (feed rounded setup (k + held)) (k + held)) (k + held) k s a first bar
    rw [count] at check
    unfold follow at leaves
    cases touch : touched s (bracket setup.config.terms s first.open_ a).1
        (bracket setup.config.terms s first.open_ a).2 bar with
    | some what =>
      rw [touch] at leaves check
      obtain rfl := leaves
      exact told_of_closed open_ here check behind
    | none =>
      rw [touch] at leaves check
      by_cases past : setup.config.maxHoldBars ≤ held + 1
      · rw [if_pos past] at leaves check
        obtain rfl := leaves
        exact told_of_closed open_ here check behind
      · rw [if_neg past] at leaves check
        obtain ⟨position, -, tells, -, -⟩ := step_eq rounded setup
          (feed rounded setup (k + held)) (k + held)
        rw [← feed_succ] at position tells
        rw [acted_of_hold open_ (by rw [here]; exact check)] at position tells
        have same : told (feed rounded setup (k + (held + 1))) =
            told (feed rounded setup (k + held)) := tells
        rw [← same]
        refine ih (by omega) (by omega) later ?_ (position.trans open_) leaves
        exact here

theorem found_of_idle {i : ℕ} (idle : ∀ a, setup.atr.getD (i - 1) none = some a →
    decision setup (i - 1) = 0 ∨ a ≤ 0) : found rounded setup i = none := by
  unfold found
  cases ranged : setup.atr.getD (i - 1) none with
  | none => rfl
  | some a =>
    cases setup.bars.drop i with
    | nil => rfl
    | cons first rest => exact if_pos (idle a ranged)

theorem found_of_signal {i : ℕ} {a : ℚ} {first : Bar} {rest : List Bar}
    (ranged : setup.atr.getD (i - 1) none = some a) (ahead : setup.bars.drop i = first :: rest)
    (signal : decision setup (i - 1) ≠ 0) (positive : 0 < a) :
    found rounded setup i =
      some (recorded rounded setup i (decision setup (i - 1)) a first
          (exitOf setup (decision setup (i - 1)) a first rest),
        (exitOf setup (decision setup (i - 1)) a first rest).held - 1) := by
  unfold found
  rw [ranged, ahead]
  exact if_neg (not_or.mpr ⟨signal, not_le.mpr positive⟩)

theorem passed_over {i : ℕ} (flat : Flat (feed rounded setup i) i)
    (idle : setup.bars.length - 1 ≤ i ∨ i = 0 ∨ ∀ a, setup.atr.getD (i - 1) none = some a →
      decision setup (i - 1) = 0 ∨ a ≤ 0) :
    Flat (feed rounded setup (i + 1)) (i + 1) ∧
      told (feed rounded setup (i + 1)) = told (feed rounded setup i) := by
  obtain ⟨position, free, tells, -, -⟩ := step_eq rounded setup (feed rounded setup i) i
  have stays : maybeOpen setup (heard setup (feed rounded setup i) i) i
      (setup.bars.getD i default) = heard setup (feed rounded setup i) i := by
    rcases idle with last | first | idle
    · exact maybeOpen_of_blocked (.inl last)
    · exact maybeOpen_of_blocked (.inr (.inr first))
    · by_cases first : i = 0
      · exact maybeOpen_of_blocked (.inr (.inr first))
      · refine maybeOpen_of_idle ?_
        rw [heard_signal first]
        exact idle
  rw [acted_of_flat flat.position, stays, ← feed_succ] at position free tells
  exact ⟨⟨position.trans flat.position, free.le.trans (flat.free.trans (Nat.le_succ i))⟩, tells⟩

theorem opened {i : ℕ} {a : ℚ} (permits : setup.risk = permissive)
    (pos : 0 < setup.config.quantity) (later : i ≠ 0) (within : i < setup.bars.length - 1)
    (flat : Flat (feed rounded setup i) i) (ranged : setup.atr.getD (i - 1) none = some a)
    (signal : decision setup (i - 1) ≠ 0) (positive : 0 < a) :
    (feed rounded setup (i + 1)).position =
        some (entered setup (decision setup (i - 1)) a i (setup.bars.getD i default)) ∧
      told (feed rounded setup (i + 1)) = told (feed rounded setup i) := by
  obtain ⟨position, -, tells, -, -⟩ := step_eq rounded setup (feed rounded setup i) i
  obtain ⟨verdicts, opens⟩ := maybeOpen_of_signal setup
    (heard setup (feed rounded setup i) i) (setup.bars.getD i default) permits
    (show 0 < (heard setup (feed rounded setup i) i).portfolio.quantity from
      pos.trans_eq (feed_frame i).2.symm)
    (not_or.mpr ⟨Nat.not_le.mpr within, not_or.mpr ⟨Nat.not_lt.mpr flat.free, later⟩⟩)
    ranged (by rw [heard_signal later]; exact signal) positive
  rw [acted_of_flat flat.position, opens, heard_signal later, ← feed_succ] at position tells
  exact ⟨position, tells⟩

theorem continues (permits : setup.risk = permissive) (pos : 0 < setup.config.quantity) {i : ℕ}
    (after : firstEntry ≤ i) (inside : i ≤ setup.bars.length) : Continues rounded setup i := by
  have sixty : firstEntry = 60 := rfl
  induction i using Walk.induction (found rounded setup) (setup.bars.length - 1) with
  | done i done =>
    intro flat
    have still : (feed rounded setup setup.bars.length).position = none ∧
        told (feed rounded setup setup.bars.length) = told (feed rounded setup i) := by
      by_cases last : i = setup.bars.length
      · rw [← last]
        exact ⟨flat.position, rfl⟩
      · -- the last bar opens nothing
        obtain ⟨past, same⟩ := passed_over flat (.inl done)
        rw [show setup.bars.length = i + 1 by omega]
        exact ⟨past.position, same⟩
    unfold runToCompletion finalise
    rw [still.1, still.2, Walk.run_of_le done, List.append_nil]
  | back i within ih =>
    intro flat
    unfold Walk.next at ih
    by_cases idle : ∀ a, setup.atr.getD (i - 1) none = some a → decision setup (i - 1) = 0 ∨ a ≤ 0
    · have nothing : found rounded setup i = none := found_of_idle idle
      obtain ⟨past, same⟩ := passed_over flat (.inr (.inr idle))
      rw [nothing] at ih
      dsimp only at ih
      rw [Walk.run_of_none within nothing, ← same]
      exact ih (by omega) (by omega) past
    · push Not at idle
      obtain ⟨a, ranged, signal, positive⟩ := idle
      obtain ⟨first, rest, ahead⟩ : ∃ first rest, setup.bars.drop i = first :: rest :=
        ⟨_, _, List.drop_eq_getElem_cons (by omega)⟩
      have here := getD_first ahead
      have some_ : found rounded setup i = some _ := found_of_signal ranged ahead signal positive
      obtain ⟨position, same⟩ := opened permits pos (by omega) within flat ranged signal positive
      rw [here] at position
      have size := length_of_ahead ahead
      obtain ⟨-, most, least⟩ : 1 ≤ (exitOf setup (decision setup (i - 1)) a first rest).held ∧
          (exitOf setup (decision setup (i - 1)) a first rest).held ≤ 1 + rest.length ∧
            (rest ≠ [] → 2 ≤ (exitOf setup (decision setup (i - 1)) a first rest).held) :=
        follow_held
      have held := least (List.ne_nil_of_length_pos (by omega))
      rw [some_] at ih
      dsimp only at ih
      rw [Walk.run_of_some within some_, ← same]
      rw [show ∀ n, 2 ≤ n → i + (n - 1) + 1 = i + n from fun n long => by omega] at ih ⊢
      refine told_of_open (by omega) le_rfl ?_ here position rfl (ih ?_ ?_)
      · rw [← List.drop_drop, ahead]
        rfl
      · omega
      · omega
      · exact held
      · exact held

variable (rounded setup) in
theorem quiet_before {i : ℕ} (before : i ≤ firstEntry) :
    (feed rounded setup i).position = none ∧
      (feed rounded setup i).nextEntryAllowedFrom = firstEntry ∧
      told (feed rounded setup i) = [] := by
  induction i with
  | zero => exact ⟨rfl, rfl, rfl⟩
  | succ i ih =>
    obtain ⟨flat, from_, nothing⟩ := ih (Nat.le_of_succ_le before)
    obtain ⟨position, free, tells, -, -⟩ := step_eq rounded setup (feed rounded setup i) i
    have early : i < (heard setup (feed rounded setup i) i).nextEntryAllowedFrom :=
      before.trans_eq from_.symm
    rw [acted_of_flat flat, maybeOpen_of_blocked (.inr (.inl early)), ← feed_succ]
      at position free tells
    exact ⟨position.trans flat, free.trans from_, tells.trans nothing⟩

variable (rounded)
theorem told_runToCompletion (permits : setup.risk = permissive)
    (pos : 0 < setup.config.quantity) :
    told (runToCompletion rounded setup) =
      Walk.run (found rounded setup) (setup.bars.length - 1) firstEntry := by
  by_cases short : setup.bars.length ≤ firstEntry
  · obtain ⟨flat, -, nothing⟩ := quiet_before rounded setup short
    unfold runToCompletion finalise
    rw [flat, Walk.run_of_le (by omega)]
    exact nothing
  · obtain ⟨flat, from_, nothing⟩ := quiet_before rounded setup (i := firstEntry) le_rfl
    have run := (continues permits pos le_rfl (Nat.le_of_not_le short) :
      Continues rounded setup firstEntry) ⟨flat, from_.le⟩
    rw [run, nothing, List.nil_append]

end Found

end TradeResearch.Replay
