import Mathlib.Order.MinMax
import TradeResearch.Brokers.Base
import TradeResearch.Lib.Fallible

/-!
# The limits of a bot under those of its account

`backend/app/bots/limits.py`: two layers of limits, each field of which may say nothing, are
combined into the stricter of the two, and a bot may open a trade while no limit stops it.

* `Stops` is a limit that is set and stops something; `stops_tighter` and `stops_looser` say that
  the combined field stops what either does.
* `check_effective_iff`: the combined limits allow what both layers allow.
-/

namespace TradeResearch.Bots

def tighter {α : Type} [Min α] : Option α → Option α → Option α
  | none, b => b
  | a, none => a
  | some a, some b => some (min a b)

def looser {α : Type} [Max α] : Option α → Option α → Option α
  | none, b => b
  | a, none => a
  | some a, some b => some (max a b)

structure BotLimits where
  maxPositions : Option ℤ := none
  maxDailyTrades : Option ℤ := none
  maxDailyLoss : Option ℚ := none
  maxRiskPerTrade : Option ℚ := none
  cooldownSeconds : Option ℤ := none

def BotLimits.effective (bot account : BotLimits) : BotLimits where
  maxPositions := tighter bot.maxPositions account.maxPositions
  maxDailyTrades := tighter bot.maxDailyTrades account.maxDailyTrades
  maxDailyLoss := tighter bot.maxDailyLoss account.maxDailyLoss
  maxRiskPerTrade := tighter bot.maxRiskPerTrade account.maxRiskPerTrade
  cooldownSeconds := looser bot.cooldownSeconds account.cooldownSeconds

structure ClockTime where
  shown : ℚ
  offset : Option ℚ

structure BotCounters where
  openPositions : ℤ := 0
  tradesToday : ℤ := 0
  realisedToday : ℚ := 0
  lastTradeAt : Option ClockTime := none

structure LimitVerdict where
  allowed : Bool
  code : String := ""
  detail : Text := []

def allowedVerdict : LimitVerdict := { allowed := true }

def elapsedSince (now last : ClockTime) : Except Text ℚ :=
  match now.offset, last.offset.or now.offset with
  | some offset, some offset' => .ok ((now.shown - offset) - (last.shown - offset'))
  | none, none => .ok (now.shown - last.shown)
  | _, _ => .error (Text.lit "can't subtract offset-naive and offset-aware datetimes")

def checkCooldown (limits : BotLimits) (counters : BotCounters) (now : ClockTime) :
    Except Text LimitVerdict :=
  match limits.cooldownSeconds.filter (· ≠ 0), counters.lastTradeAt with
  | some cooldown, some last => do
    let elapsed ← elapsedSince now last
    if elapsed < cooldown then
      return {
        allowed := false
        code := "bot_cooldown"
        detail := Text.lit "this bot traded " ++ Text.num (Brokers.roundHalfEven elapsed) ++
          Text.lit "s ago and its cooldown is " ++ Text.num cooldown ++ Text.lit "s; " ++
          Text.num (Brokers.roundHalfEven (cooldown - elapsed)) ++ Text.lit "s remaining" }
    else return allowedVerdict
  | _, _ => return allowedVerdict

def check (limits : BotLimits) (counters : BotCounters) (now : ClockTime) :
    Except Text LimitVerdict :=
  match limits.maxDailyLoss.filter fun most => counters.realisedToday ≤ -most with
  | some most =>
    return {
      allowed := false
      code := "bot_daily_loss"
      detail := Text.lit "this bot has realised " ++ Text.num counters.realisedToday ++
        Text.lit " today against a " ++ Text.num most ++
        Text.lit (" limit; no new trades. Open positions are " ++
          "unaffected and stay under the position manager") }
  | none =>
    match limits.maxPositions.filter fun most => most ≤ counters.openPositions with
    | some most =>
      return {
        allowed := false
        code := "bot_max_positions"
        detail := Text.lit "this bot holds " ++ Text.num counters.openPositions ++
          Text.lit " of a permitted " ++ Text.num most ++ Text.lit " positions" }
    | none =>
      match limits.maxDailyTrades.filter fun most => most ≤ counters.tradesToday with
      | some most =>
        return {
          allowed := false
          code := "bot_daily_trades"
          detail := Text.lit "this bot has taken " ++ Text.num counters.tradesToday ++
            Text.lit " of a permitted " ++ Text.num most ++ Text.lit " trades today" }
      | none => checkCooldown limits counters now

section Stops

variable {α : Type}

def Stops (p : α → Prop) (limit : Option α) : Prop := ∃ x, limit = some x ∧ p x

theorem stops_some {x : α} : Stops p (some x) ↔ p x := by
  constructor
  · rintro ⟨y, is, stops⟩
    exact Option.some.inj is ▸ stops
  · exact fun stops => ⟨x, rfl, stops⟩

theorem not_stops_none : ¬ Stops p none := by
  rintro ⟨x, is, -⟩
  cases is

theorem stops_tighter [LinearOrder α] (lower : ∀ x y, y ≤ x → p x → p y) (a b : Option α) :
    Stops p (tighter a b) ↔ Stops p a ∨ Stops p b := by
  cases a with
  | none => exact (or_iff_right not_stops_none).symm
  | some x =>
    cases b with
    | none => exact (or_iff_left not_stops_none).symm
    | some y =>
      show Stops p (some (min x y)) ↔ _
      rw [stops_some, stops_some, stops_some]
      rcases min_choice x y with is | is
      · rw [is]
        exact (or_iff_left_of_imp (lower y x (is ▸ min_le_right x y))).symm
      · rw [is]
        exact (or_iff_right_of_imp (lower x y (is ▸ min_le_left x y))).symm

theorem stops_looser [LinearOrder α] {a b : Option α}
    (upper : ∀ x y, a = some x → b = some y → (x ≤ y → p x → p y) ∧ (y ≤ x → p y → p x)) :
    Stops p (looser a b) ↔ Stops p a ∨ Stops p b := by
  cases a with
  | none => exact (or_iff_right not_stops_none).symm
  | some x =>
    cases b with
    | none => exact (or_iff_left not_stops_none).symm
    | some y =>
      obtain ⟨first, second⟩ := upper x y rfl rfl
      show Stops p (some (max x y)) ↔ _
      rw [stops_some, stops_some, stops_some]
      rcases max_choice x y with is | is
      · rw [is]
        exact (or_iff_left_of_imp (second (is ▸ le_max_right x y))).symm
      · rw [is]
        exact (or_iff_right_of_imp (first (is ▸ le_max_left x y))).symm

theorem filter_eq_none_iff [DecidablePred p] {limit : Option α} :
    (limit.filter fun x => decide (p x)) = none ↔ ¬ Stops p limit := by
  cases limit with
  | none => exact iff_of_true rfl not_stops_none
  | some x =>
    rw [stops_some]
    by_cases stops : p x
    · simp [Option.filter, stops]
    · simp [Option.filter, stops]

end Stops

def Allows (limits : BotLimits) (counters : BotCounters) (now : ClockTime) : Prop :=
  ∃ verdict, check limits counters now = .ok verdict ∧ verdict.allowed = true

def Cooling (counters : BotCounters) (now : ClockTime) (cooldown : ℤ) : Prop :=
  cooldown ≠ 0 ∧ ∃ last, counters.lastTradeAt = some last ∧
    ∀ elapsed, elapsedSince now last = .ok elapsed → elapsed < cooldown

structure Unstopped (limits : BotLimits) (counters : BotCounters) (now : ClockTime) : Prop where
  loss : ¬ Stops (fun most => counters.realisedToday ≤ -most) limits.maxDailyLoss
  positions : ¬ Stops (fun most => most ≤ counters.openPositions) limits.maxPositions
  trades : ¬ Stops (fun most => most ≤ counters.tradesToday) limits.maxDailyTrades
  cooldown : ¬ Stops (Cooling counters now) limits.cooldownSeconds

theorem checkCooldown_iff : (∃ verdict, checkCooldown limits counters now = .ok verdict ∧
      verdict.allowed = true) ↔ ¬ Stops (Cooling counters now) limits.cooldownSeconds := by
  unfold checkCooldown
  cases set : limits.cooldownSeconds with
  | none => exact iff_of_true ⟨_, rfl, rfl⟩ not_stops_none
  | some cooldown =>
    rw [stops_some]
    by_cases zero : cooldown = 0
    · subst zero
      exact iff_of_true ⟨_, rfl, rfl⟩ fun cooling => cooling.1 rfl
    · have kept : (some cooldown).filter (fun n => decide (n ≠ 0)) = some cooldown :=
        Option.filter_eq_some_iff.mpr ⟨rfl, decide_eq_true zero⟩
      rw [kept]
      cases traded : counters.lastTradeAt with
      | none =>
        refine iff_of_true ⟨_, rfl, rfl⟩ ?_
        rintro ⟨-, last, is, -⟩
        exact absurd (traded.symm.trans is) (Option.some_ne_none last).symm
      | some last =>
        have cooling_iff : Cooling counters now cooldown ↔
            ∀ elapsed, elapsedSince now last = .ok elapsed → elapsed < cooldown := by
          constructor
          · rintro ⟨-, last', is, short⟩
            cases traded.symm.trans is
            exact short
          · exact fun short => ⟨zero, last, traded, short⟩
        rw [cooling_iff]
        dsimp only
        cases measured : elapsedSince now last with
        | error e =>
          refine iff_of_false ?_ fun some_ => some_ fun _ is => by cases is
          rintro ⟨verdict, is, -⟩
          cases is
        | ok elapsed =>
          rw [Fallible.ok_bind]
          by_cases short : elapsed < cooldown
          · rw [if_pos short]
            refine iff_of_false ?_ fun some_ => some_ fun _ is => Except.ok.inj is ▸ short
            rintro ⟨verdict, is, allowed⟩
            cases is
            cases allowed
          · rw [if_neg short]
            exact iff_of_true ⟨_, rfl, rfl⟩ fun every => short (every elapsed rfl)

theorem allows_iff_unstopped : Allows limits counters now ↔ Unstopped limits counters now := by
  have refused : ∀ {code : String} {detail : Text},
      ¬ ∃ verdict, (pure { allowed := false, code, detail } : Except Text LimitVerdict) =
        .ok verdict ∧ verdict.allowed = true := by
    rintro code detail ⟨verdict, is, allowed⟩
    cases is
    cases allowed
  unfold Allows check
  cases loss : limits.maxDailyLoss.filter fun most => decide (counters.realisedToday ≤ -most) with
  | some most =>
    refine iff_of_false refused fun unstopped => ?_
    have none := filter_eq_none_iff.mpr unstopped.loss
    exact absurd (loss.symm.trans none) (Option.some_ne_none most)
  | none =>
    cases positions : limits.maxPositions.filter fun most =>
        decide (most ≤ counters.openPositions) with
    | some most =>
      refine iff_of_false refused fun unstopped => ?_
      have none := filter_eq_none_iff.mpr unstopped.positions
      exact absurd (positions.symm.trans none) (Option.some_ne_none most)
    | none =>
      cases trades : limits.maxDailyTrades.filter fun most =>
          decide (most ≤ counters.tradesToday) with
      | some most =>
        refine iff_of_false refused fun unstopped => ?_
        have none := filter_eq_none_iff.mpr unstopped.trades
        exact absurd (trades.symm.trans none) (Option.some_ne_none most)
      | none =>
        rw [checkCooldown_iff]
        constructor
        · intro cooldown
          exact
            { loss := filter_eq_none_iff.mp loss
              positions := filter_eq_none_iff.mp positions
              trades := filter_eq_none_iff.mp trades
              cooldown }
        · exact fun unstopped => unstopped.cooldown

def Uncrossed (bot account : BotLimits) : Prop :=
  ∀ x y, bot.cooldownSeconds = some x → account.cooldownSeconds = some y →
    (y = 0 → 0 ≤ x) ∧ (x = 0 → 0 ≤ y)

theorem uncrossed_of_nonneg {bot account : BotLimits}
    (first : ∀ x ∈ bot.cooldownSeconds, 0 ≤ x) (second : ∀ y ∈ account.cooldownSeconds, 0 ≤ y) :
    Uncrossed bot account :=
  fun x y isFirst isSecond => ⟨fun _ => first x isFirst, fun _ => second y isSecond⟩

theorem Cooling.mono {counters : BotCounters} {now : ClockTime} {x y : ℤ}
    (cooling : Cooling counters now x) (le : x ≤ y) (nonzero : y ≠ 0) :
    Cooling counters now y := by
  obtain ⟨-, last, traded, short⟩ := cooling
  refine ⟨nonzero, last, traded, fun elapsed is => (short elapsed is).trans_le ?_⟩
  exact_mod_cast le

/-- For all limits of a bot and of its account that are not crossed, and whatever was done and when
it is asked: the combined limits allow a trade exactly when both layers allow it. -/
theorem check_effective_iff (bot account : BotLimits) (counters : BotCounters) (now : ClockTime)
    (uncrossed : Uncrossed bot account) :
    Allows (bot.effective account) counters now ↔
      Allows bot counters now ∧ Allows account counters now := by
  have loss : Stops (fun most => counters.realisedToday ≤ -most)
        (bot.effective account).maxDailyLoss ↔
      Stops (fun most => counters.realisedToday ≤ -most) bot.maxDailyLoss ∨
        Stops (fun most => counters.realisedToday ≤ -most) account.maxDailyLoss :=
    stops_tighter (fun x y le stops => stops.trans (neg_le_neg le)) _ _
  have positions : Stops (fun most => most ≤ counters.openPositions)
        (bot.effective account).maxPositions ↔
      Stops (fun most => most ≤ counters.openPositions) bot.maxPositions ∨
        Stops (fun most => most ≤ counters.openPositions) account.maxPositions :=
    stops_tighter (fun x y le stops => le.trans stops) _ _
  have trades : Stops (fun most => most ≤ counters.tradesToday)
        (bot.effective account).maxDailyTrades ↔
      Stops (fun most => most ≤ counters.tradesToday) bot.maxDailyTrades ∨
        Stops (fun most => most ≤ counters.tradesToday) account.maxDailyTrades :=
    stops_tighter (fun x y le stops => le.trans stops) _ _
  have cooldown : Stops (Cooling counters now) (bot.effective account).cooldownSeconds ↔
      Stops (Cooling counters now) bot.cooldownSeconds ∨
        Stops (Cooling counters now) account.cooldownSeconds := by
    refine stops_looser fun x y isFirst isSecond => ?_
    obtain ⟨first, second⟩ := uncrossed x y isFirst isSecond
    refine ⟨fun le cooling => cooling.mono le fun zero => ?_,
      fun le cooling => cooling.mono le fun zero => ?_⟩
    · exact cooling.1 (le_antisymm (zero ▸ le) (first zero))
    · exact cooling.1 (le_antisymm (zero ▸ le) (second zero))
  rw [allows_iff_unstopped, allows_iff_unstopped, allows_iff_unstopped]
  constructor
  · intro both
    exact
      ⟨{ loss := fun stops => both.loss (loss.mpr (.inl stops))
         positions := fun stops => both.positions (positions.mpr (.inl stops))
         trades := fun stops => both.trades (trades.mpr (.inl stops))
         cooldown := fun stops => both.cooldown (cooldown.mpr (.inl stops)) },
       { loss := fun stops => both.loss (loss.mpr (.inr stops))
         positions := fun stops => both.positions (positions.mpr (.inr stops))
         trades := fun stops => both.trades (trades.mpr (.inr stops))
         cooldown := fun stops => both.cooldown (cooldown.mpr (.inr stops)) }⟩
  · rintro ⟨first, second⟩
    exact
      { loss := fun stops => (loss.mp stops).elim first.loss second.loss
        positions := fun stops => (positions.mp stops).elim first.positions second.positions
        trades := fun stops => (trades.mp stops).elim first.trades second.trades
        cooldown := fun stops => (cooldown.mp stops).elim first.cooldown second.cooldown }

/-- A trade a minute ago, with cooldowns of half a minute and of ten: the account does not allow
another one, and neither do both. -/
theorem check_effective_minute :
    ¬ Allows ({ cooldownSeconds := some 30 : BotLimits }.effective
      { cooldownSeconds := some 600 }) { lastTradeAt := some ⟨0, none⟩ } ⟨60, some 0⟩ := by
  intro allows
  obtain ⟨-, verdict, is, allowed⟩ := (check_effective_iff _ _ _ _
    (uncrossed_of_nonneg (by decide) (by decide))).mp allows
  have refused : (check { cooldownSeconds := some 600 } { lastTradeAt := some ⟨0, none⟩ }
      ⟨60, some 0⟩).toOption.map LimitVerdict.allowed = some false := by
    decide +kernel
  rw [is] at refused
  exact absurd (allowed.symm.trans (Option.some.inj refused)) (by decide)

/-- Beside a cooldown of zero, one of less than zero no longer stops a trade when the last one is
stamped in the future. -/
theorem not_forall_check_effective :
    ¬ ∀ (bot account : BotLimits) (counters : BotCounters) (now : ClockTime),
      Allows (bot.effective account) counters now ↔
        Allows bot counters now ∧ Allows account counters now := by
  intro every
  have combined : Allows ({ cooldownSeconds := some (-5) : BotLimits }.effective
      { cooldownSeconds := some 0 }) { lastTradeAt := some ⟨10, none⟩ } ⟨0, some 0⟩ :=
    ⟨_, rfl, rfl⟩
  obtain ⟨⟨verdict, is, allowed⟩, -⟩ := (every _ _ _ _).mp combined
  have refused : (check { cooldownSeconds := some (-5) } { lastTradeAt := some ⟨10, none⟩ }
      ⟨0, some 0⟩).toOption.map LimitVerdict.allowed = some false := by
    decide +kernel
  rw [is] at refused
  exact absurd (allowed.symm.trans (Option.some.inj refused)) (by decide)

end TradeResearch.Bots
