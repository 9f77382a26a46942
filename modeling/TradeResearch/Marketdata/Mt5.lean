import Mathlib.Tactic.FieldSimp
import TradeResearch.Brokers.Rounding
import TradeResearch.Marketdata.Validation

/-!
# The MT5 market data adapter

`backend/app/marketdata/providers/mt5.py`, with `fetch_rates` of `tools/rule_backtest.py`. The
terminal is not part of the repository: `Terminal` is what it shows, a sequence of bars for each
symbol and timeframe, of which the newest is still forming, stamped with the clock of its server.

* `measuredOffset_eq_iff`: which offset is measured from a tick.
* `exec_mt5GetBars_of_answers`: what a read of the history returns, and when it returns.
-/

namespace TradeResearch.Marketdata

structure CandleFigures where
  open_ : ℚ
  high : ℚ
  low : ℚ
  close : ℚ
  tickVolume : Option ℚ
  spread : Option ℤ
  deriving DecidableEq

structure History where
  /-- The UTC second at which a bar opens. -/
  opens : ℕ → ℤ
  opens_lt : ∀ n, opens n < opens (n + 1)
  /-- How many bars have opened. -/
  opened : Time → ℕ
  lt_opened_iff : ∀ n t, n < opened t ↔ (opens n : ℚ) ≤ t
  figures : ℕ → Time → CandleFigures
  figures_kept : ∀ n t t', (opens (n + 1) : ℚ) ≤ t → t ≤ t' → figures n t' = figures n t

def History.Closed (h : History) (n : ℕ) (t : Time) : Prop := (h.opens (n + 1) : ℚ) ≤ t

inductive Connection where
  | up
  /-- No terminal runs here, or its package is not installed. -/
  | missing (detail : Text)
  | failed (className : String)
  /-- `SystemExit`, which is no `Exception`. -/
  | exits

structure Terminal where
  connection : Time → Connection
  /-- How many seconds the clock of the server is ahead at a UTC second. -/
  offset : ℤ → ℤ
  offset_dvd : ∀ u, 1800 ∣ offset u
  /-- The UTC second of the last tick of a symbol. -/
  lastTick : String → Time → Option ℤ
  history : String → Timeframe → History
  /-- How many bars it returns when it is asked for so many; none where it rejects the request. -/
  grants : String → Timeframe → ℕ → Time → Option ℕ

def Terminal.stamp (w : Terminal) (u : ℤ) : ℤ := u + w.offset u

structure Rate where
  time : ℤ
  figures : CandleFigures
  origin : Origin

def Terminal.rate (w : Terminal) (symbol : String) (timeframe : Timeframe) (now : Time) (n : ℕ) :
    Rate where
  time := w.stamp ((w.history symbol timeframe).opens n)
  figures := (w.history symbol timeframe).figures n now
  origin := ⟨n, now⟩

def Terminal.copyRatesFromPos (w : Terminal) (symbol : String) (timeframe : Timeframe) (now : Time)
    (count : ℕ) : Option (List Rate) :=
  (w.grants symbol timeframe count now).map fun granted =>
    let opened := (w.history symbol timeframe).opened now
    let returned := min (min granted count) opened
    (List.range' (opened - returned) returned).map (w.rate symbol timeframe now)

def Terminal.tickTime (w : Terminal) (now : Time) (symbol : String) : Option ℤ :=
  ((w.lastTick symbol now).map w.stamp).filter fun time => time ≠ 0

inductive ReadError where
  /-- `ProviderUnavailable`. -/
  | unavailable (detail : Text)
  /-- `SymbolNotSupported`. -/
  | notSupported (detail : Text)
  | validationFailed (detail : Text)
  | notFound (detail : Text)
  | symbolError (detail : Text)
  /-- `SystemExit`. -/
  | exit
  /-- Any other `Exception`, by its class. -/
  | other (className : String)

def ReadError.className : ReadError → String
  | unavailable _ => "ProviderUnavailable"
  | notSupported _ => "SymbolNotSupported"
  | validationFailed _ => "ValidationFailed"
  | notFound _ => "NotFound"
  | symbolError _ => "SymbolError"
  | exit => "SystemExit"
  | other className => className

abbrev Adapter := Method ReadError (Option ℤ)

def offsetQuantum : ℤ := 1800

def measuredOffset (raw : ℚ) : ℤ := Brokers.roundHalfEven (raw / offsetQuantum) * offsetQuantum

def clockSymbols : List String := ["EURUSD", "GBPUSD", "USDJPY", "XAUUSD"]

def Terminal.clockTick (w : Terminal) (now : Time) : Option ℤ :=
  clockSymbols.findSome? (w.tickTime now)

def serverOffsetSeconds (w : Terminal) (now : Time) : Adapter ℤ := do
  match ← get with
  | some held => return held
  | none =>
    match w.clockTick now with
    | some time =>
      set (some (measuredOffset (time - now)))
      return measuredOffset (time - now)
    | none =>
      throw (.unavailable (Text.lit ("cannot measure the broker's server offset: no tick from " ++
        "any of EURUSD, GBPUSD, USDJPY, XAUUSD")))

def toUtc (serverEpoch offset : ℤ) : Time := serverEpoch - offset

def connect (w : Terminal) (now : Time) : Adapter Unit :=
  match w.connection now with
  | .up => return ()
  | .missing detail => throw (.unavailable detail)
  | .failed className => throw (.unavailable (Text.lit s!"MT5 connect failed: {className}"))
  | .exits => throw .exit

def supported : List Timeframe := [.h1, .h4, .d1]

def ladder (want : ℕ) : List ℕ :=
  [want, 50000, 20000, 10000, 5000, 2000, 1000].filter fun count => count ≤ want

def fetchRates (w : Terminal) (symbol : String) (want : ℕ) (timeframe : Timeframe) (minBars : ℕ)
    (now : Time) : Option (List Rate) :=
  (ladder want).findSome? fun count =>
    (w.copyRatesFromPos symbol timeframe now count).filter fun rates => minBars ≤ rates.length

def Rate.toBar (rate : Rate) (symbol : String) (timeframe : Timeframe) (offset : ℤ) :
    ServedBar where
  symbol
  timeframe
  barTime := toUtc rate.time offset
  open_ := rate.figures.open_
  high := rate.figures.high
  low := rate.figures.low
  close := rate.figures.close
  volume := rate.figures.tickVolume
  complete := true
  provider := .mt5
  -- a recorded 0 is not recorded
  spread := if 0 < rate.figures.spread.getD 0 then some (rate.figures.spread.getD 0) else none
  spreadAvailability :=
    if 0 < rate.figures.spread.getD 0 then .available else .notAvailable
  origin := some rate.origin

def takeLast {α : Type} (limit : ℕ) (l : List α) : List α := l.drop (l.length - limit)

def barsSync (w : Terminal) (symbol : String) (timeframe : Timeframe) (limit : ℕ)
    (measuredAt readAt : Time) : Adapter (List ServedBar) := do
  connect w measuredAt
  let offset ← serverOffsetSeconds w measuredAt
  match fetchRates w symbol limit timeframe 1 readAt with
  | none =>
    throw (.unavailable
      (Text.lit s!"the terminal returned no {timeframe.name} history for '{symbol}'"))
  | some rates => return takeLast limit (rates.map fun rate => rate.toBar symbol timeframe offset)

def mt5GetBars (w : Terminal) (symbol : String) (timeframe : Timeframe) (limit : ℕ)
    (measuredAt readAt : Time) : Adapter (List ServedBar) := do
  if timeframe ∉ supported then
    throw (.notSupported (Text.lit (s!"mt5 does not serve {timeframe.name}; it serves " ++
      "H1, H4, D1")))
  barsSync w symbol timeframe limit measuredAt readAt

def Nearest (raw : ℚ) (offset : ℤ) : Prop :=
  |raw - offset| < 900 ∨ |raw - offset| = 900 ∧ 3600 ∣ offset

theorem measuredOffset_eq_iff {raw : ℚ} {offset : ℤ} (halves : 1800 ∣ offset) :
    measuredOffset raw = offset ↔ Nearest raw offset := by
  obtain ⟨k, rfl⟩ := halves
  have scaled : |raw / (1800 : ℤ) - k| = |raw - ((1800 * k : ℤ) : ℚ)| / 1800 := by
    have quotient : raw / (1800 : ℤ) - k = (raw - ((1800 * k : ℤ) : ℚ)) / 1800 := by
      push_cast
      field_simp
    rw [quotient, abs_div, abs_of_pos (by norm_num : (0 : ℚ) < 1800)]
  have counted : measuredOffset raw = 1800 * k ↔ Brokers.roundHalfEven (raw / (1800 : ℤ)) = k := by
    unfold measuredOffset offsetQuantum
    omega
  rw [counted, Brokers.roundHalfEven_eq_iff, scaled, div_lt_iff₀ (by norm_num),
    div_eq_iff (by norm_num)]
  unfold Nearest
  have even : (3600 : ℤ) ∣ 1800 * k ↔ 2 ∣ k := by omega
  rw [even]
  norm_num

def clock (w : Terminal) (held : Option ℤ) (now : Time) : Option ℤ :=
  held.or ((w.clockTick now).map fun time : ℤ => measuredOffset (time - now))

theorem exec_serverOffsetSeconds_some {w : Terminal} {held : Option ℤ} {now : Time} {offset : ℤ}
    (reads : clock w held now = some offset) :
    (serverOffsetSeconds w now).exec held = (.ok offset, some offset) := by
  cases held with
  | some o =>
    cases reads
    rfl
  | none =>
    obtain ⟨time, tick, rfl⟩ := Option.map_eq_some_iff.mp reads
    unfold serverOffsetSeconds
    rw [Method.exec_get_bind, tick]
    rfl

theorem exec_serverOffsetSeconds_none {w : Terminal} {held : Option ℤ} {now : Time}
    (unread : clock w held now = none) :
    ∃ e, (serverOffsetSeconds w now).exec held = (.error e, held) := by
  obtain ⟨rfl, none⟩ := Option.or_eq_none_iff.mp unread
  unfold serverOffsetSeconds
  rw [Method.exec_get_bind, Option.map_eq_none_iff.mp none]
  exact ⟨_, rfl⟩

theorem exec_connect_up {w : Terminal} {now : Time} (up : w.connection now = .up)
    (held : Option ℤ) : (connect w now).exec held = (.ok (), held) := by
  unfold connect
  rw [up]
  rfl

theorem exec_connect_down {w : Terminal} {now : Time} (down : w.connection now ≠ .up)
    (held : Option ℤ) : ∃ e, (connect w now).exec held = (.error e, held) := by
  unfold connect
  cases connection : w.connection now with
  | up => exact absurd connection down
  | missing | failed | exits => exact ⟨_, rfl⟩

theorem fetchRates_eq_some {w : Terminal} {symbol : String} {want : ℕ} {timeframe : Timeframe}
    {now : Time} {rates : List Rate}
    (fetched : fetchRates w symbol want timeframe 1 now = some rates) :
    ∃ returned, 0 < returned ∧ returned ≤ want ∧
      returned ≤ (w.history symbol timeframe).opened now ∧
      rates = (List.range' ((w.history symbol timeframe).opened now - returned) returned).map
        (w.rate symbol timeframe now) := by
  obtain ⟨count, tried, answered⟩ := List.exists_of_findSome?_eq_some fetched
  obtain ⟨copied, some_⟩ := Option.filter_eq_some_iff.mp answered
  obtain ⟨granted, -, rfl⟩ := Option.map_eq_some_iff.mp copied
  have below : count ≤ want := of_decide_eq_true (List.mem_filter.mp tried).2
  have least := of_decide_eq_true some_
  rw [List.length_map, List.length_range'] at least
  exact ⟨_, least, (min_le_left _ _).trans ((min_le_right _ _).trans below), min_le_right _ _, rfl⟩

theorem takeLast_of_length_le {α : Type} {limit : ℕ} {l : List α} (few : l.length ≤ limit) :
    takeLast limit l = l := by
  unfold takeLast
  rw [Nat.sub_eq_zero_of_le few, List.drop_zero]

structure Answers (w : Terminal) (held : Option ℤ) (symbol : String) (timeframe : Timeframe)
    (limit : ℕ) (measuredAt readAt : Time) : Prop where
  supported : timeframe ∈ supported
  up : w.connection measuredAt = .up
  clock : (clock w held measuredAt).isSome = true
  fetched : (fetchRates w symbol limit timeframe 1 readAt).isSome = true

theorem exec_mt5GetBars_of_answers
    (answers : Answers w held symbol timeframe limit measuredAt readAt) :
    ∃ offset rates, clock w held measuredAt = some offset ∧
      fetchRates w symbol limit timeframe 1 readAt = some rates ∧
      (mt5GetBars w symbol timeframe limit measuredAt readAt).exec held =
        (.ok (rates.map fun rate => rate.toBar symbol timeframe offset), some offset) := by
  obtain ⟨offset, reads⟩ := Option.isSome_iff_exists.mp answers.clock
  obtain ⟨rates, fetched⟩ := Option.isSome_iff_exists.mp answers.fetched
  refine ⟨offset, rates, reads, fetched, ?_⟩
  obtain ⟨returned, -, few, -, is⟩ := fetchRates_eq_some fetched
  have all : takeLast limit (rates.map fun rate => rate.toBar symbol timeframe offset) =
      rates.map fun rate => rate.toBar symbol timeframe offset := by
    apply takeLast_of_length_le
    rw [List.length_map, is, List.length_map, List.length_range']
    exact few
  unfold mt5GetBars
  rw [if_neg (not_not.mpr answers.supported)]
  unfold barsSync
  rw [Method.exec_bind_ok (exec_connect_up answers.up held),
    Method.exec_bind_ok (exec_serverOffsetSeconds_some reads),
    fetched, ← all]
  rfl

theorem exec_mt5GetBars_of_not_answers
    (lacks : ¬ Answers w held symbol timeframe limit measuredAt readAt) :
    ∃ e held', (mt5GetBars w symbol timeframe limit measuredAt readAt).exec held =
        (.error e, held') ∧ clock w held' measuredAt = clock w held measuredAt := by
  unfold mt5GetBars
  by_cases serves : timeframe ∈ supported
  · rw [if_neg (not_not.mpr serves)]
    unfold barsSync
    by_cases up : w.connection measuredAt = .up
    · have connected := exec_connect_up up held
      cases reads : clock w held measuredAt with
      | none =>
        obtain ⟨e, raised⟩ := exec_serverOffsetSeconds_none reads
        refine ⟨e, held, ?_, reads⟩
        rw [Method.exec_bind_ok connected, Method.exec_bind_error raised]
      | some offset =>
        cases fetched : fetchRates w symbol limit timeframe 1 readAt with
        | none =>
          exact ⟨_, some offset, (Method.exec_bind_ok connected _).trans
            (Method.exec_bind_ok (exec_serverOffsetSeconds_some reads) _), rfl⟩
        | some rates =>
          refine absurd ⟨serves, up, ?_, ?_⟩ lacks
          · rw [reads]
            rfl
          · rw [fetched]
            rfl
    · obtain ⟨e, raised⟩ := exec_connect_down up held
      exact ⟨e, held, Method.exec_bind_error raised _, rfl⟩
  · rw [if_pos serves]
    exact ⟨_, held, rfl, rfl⟩

end TradeResearch.Marketdata
