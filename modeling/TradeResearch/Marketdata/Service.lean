import Mathlib.Logic.Function.Basic
import TradeResearch.Lib.Run
import TradeResearch.Marketdata.Mt5

/-!
# The market data service

`get_bars` and `store_bars` of `backend/app/marketdata/service.py`, over the MT5 adapter. What the
other providers and the symbol layer answer is part of a call; what they answer may be anything.

* `exec_getBars_of_answered`, `getBars_cases`: when the terminal serves a call, and with what.
* `mem_storeBars`: what is in the table after a write.
* `step` is one call by one of the processes, each with an adapter of its own over one table.
-/

namespace TradeResearch.Marketdata

structure Series where
  symbol : String
  provider : Provider
  timeframe : Timeframe
  bars : List ServedBar
  quality : SeriesQuality

structure SeriesResult where
  series : Series
  stale : Bool
  providerUsed : Provider
  fellBack : Bool

structure Report where
  note : Option String
  invalidBars : ℕ
  openEqualsCloseRate : ℚ

def isLiteral (note : String) : Text → Bool
  | [.str s] => s = note
  | _ => false

def mergeProviderReport (provider : Provider) (report : Option Report) (quality : SeriesQuality) :
    SeriesQuality :=
  match report with
  | none => quality
  | some report =>
    { quality with
      invalidOhlc := max quality.invalidOhlc report.invalidBars
      openEqualsCloseRate := max quality.openEqualsCloseRate report.openEqualsCloseRate
      notes := match report.note with
        | some note =>
          if note = "" ∨ quality.notes.any (isLiteral note) then quality.notes
          else quality.notes ++ [Text.lit s!"{provider.name}: {note}"]
        | none => quality.notes }

inductive Source where
  /-- It is no `HistoricalProvider`. -/
  | quotesOnly
  | history (answer : Except ReadError (List Bar)) (report : Option Report)

structure Call where
  symbol : String
  timeframe : Timeframe
  provider : Provider
  fallbacks : List Provider := []
  limit : ℤ := 500
  marketOpen : Option Bool := none
  /-- The name of the symbol at a provider, or why there is none. -/
  mapping : Provider → Except Text String
  /-- What is registered under the other names. -/
  others : Provider → Option Source
  measuredAt : Time
  readAt : Time
  now : Time

def Bar.servedBy (bar : Bar) (provider : Provider) : ServedBar := { toBar := bar, provider }

namespace Call

variable (c : Call)

def attempted : List Provider := c.provider :: c.fallbacks

def maxBars : ℤ := 5000

def asks (w : Terminal) (p : Provider) : Option (Option (String → Adapter (List ServedBar))) :=
  if p = .mt5 then
    some (some fun name => mt5GetBars w name c.timeframe c.limit.toNat c.measuredAt c.readAt)
  else
    (c.others p).map fun
      | .quotesOnly => none
      | .history (.ok bars) _ => some fun _ => return bars.map fun bar => bar.servedBy p
      | .history (.error e) _ => some fun _ => throw e

def report (p : Provider) : Option Report :=
  match c.others p with
  | some (.history _ report) => if p = .mt5 then none else report
  | _ => none

def result (index : ℕ) (candidate : Provider) (raw : List ServedBar) : SeriesResult :=
  let bars := deduplicate raw
  { series :=
      { symbol := c.symbol
        provider := candidate
        timeframe := c.timeframe
        bars
        quality := mergeProviderReport candidate (c.report candidate)
          (inspectSeries raw c.timeframe c.now) }
    stale := bars.getLast?.any fun newest =>
      isStale newest.barTime c.timeframe c.now c.marketOpen
    providerUsed := candidate
    fellBack := 0 < index }

def exhausted (symbolError lastError : Option ReadError) : ReadError :=
  match symbolError, lastError with
  | some e, none => e
  | _, lastError =>
    .unavailable (Text.lit (s!"no provider served {c.symbol} {c.timeframe.name}; tried " ++
      commaList (c.attempted.map Provider.name)) ++
      lastError.elim [] fun e => Text.lit s!" (last error: {e.className})")

def guarded (ask : Adapter (List ServedBar)) : Adapter (Except ReadError (List ServedBar)) :=
  tryCatch (do return .ok (← ask)) fun
    | .exit => throw .exit
    | e => return .error e

def tryCandidates (w : Terminal) :
    ℕ → List Provider → Option ReadError → Option ReadError → Adapter SeriesResult
  | _, [], symbolError, lastError => throw (c.exhausted symbolError lastError)
  | index, candidate :: rest, symbolError, lastError =>
    match c.asks w candidate with
    | none => throw (.notFound (Text.lit s!"no market-data provider {candidate.name}"))
    | some none =>
      tryCandidates w (index + 1) rest symbolError
        (some (.validationFailed (Text.lit s!"{candidate.name} does not serve history")))
    | some (some ask) =>
      match c.mapping candidate with
      | .error detail =>
        tryCandidates w (index + 1) rest (some (.symbolError detail)) lastError
      | .ok name => do
        match ← guarded (ask name) with
        | .error e => tryCandidates w (index + 1) rest symbolError (some e)
        | .ok raw => return c.result index candidate raw

def getBars (w : Terminal) : Adapter SeriesResult := do
  if c.limit < 1 ∨ maxBars < c.limit then
    throw (.validationFailed (Text.lit "limit must be between 1 and " ++ Text.num maxBars))
  c.tryCandidates w 0 c.attempted none none

end Call

section Guarded

variable {ask : Adapter (List ServedBar)}

theorem exec_guarded_ok {bars : List ServedBar} (returned : ask.exec held = (.ok bars, held')) :
    (Call.guarded ask).exec held = (.ok (.ok bars), held') := by
  unfold Call.guarded
  rw [Method.exec_tryCatch, Method.exec_bind_ok returned]
  rfl

theorem exec_guarded_exit (raised : ask.exec held = (.error .exit, held')) :
    (Call.guarded ask).exec held = (.error .exit, held') := by
  unfold Call.guarded
  rw [Method.exec_tryCatch, Method.exec_bind_error raised]
  rfl

theorem exec_guarded_error {e : ReadError} (raised : ask.exec held = (.error e, held'))
    (stays : e ≠ .exit) : (Call.guarded ask).exec held = (.ok (.error e), held') := by
  unfold Call.guarded
  rw [Method.exec_tryCatch, Method.exec_bind_error raised]
  cases e with
  | exit => exact absurd rfl stays
  | unavailable | notSupported | validationFailed | notFound | symbolError | other => rfl

end Guarded

namespace Call

variable {c : Call} {w : Terminal} {held : Option ℤ}

def Declines (c : Call) (p : Provider) : Prop :=
  c.others p = some .quotesOnly ∨
    ∃ answer report, c.others p = some (.history answer report) ∧
      ((∃ detail, c.mapping p = .error detail) ∨ ∃ e, answer = .error e ∧ e ≠ .exit)

def Reaches (c : Call) : List Provider → Prop
  | [] => False
  | p :: rest => p = .mt5 ∨ c.Declines p ∧ c.Reaches rest

def Serves (c : Call) (w : Terminal) (held : Option ℤ) : Prop :=
  ∃ name, c.mapping .mt5 = .ok name ∧
    Answers w held name c.timeframe c.limit.toNat c.measuredAt c.readAt

structure Answered (c : Call) (w : Terminal) (held : Option ℤ) : Prop where
  limit : 1 ≤ c.limit ∧ c.limit ≤ maxBars
  reaches : c.Reaches c.attempted
  serves : c.Serves w held

def ServedFrom (c : Call) (w : Terminal) (held : Option ℤ) (r : SeriesResult) : Prop :=
  r.series.provider = .mt5 ∧ ∃ name offset rates, c.mapping .mt5 = .ok name ∧
    clock w held c.measuredAt = some offset ∧
    fetchRates w name c.limit.toNat c.timeframe 1 c.readAt = some rates ∧
    r.series.bars = deduplicate (rates.map fun rate => rate.toBar name c.timeframe offset)

def ServedBesides (r : SeriesResult) : Prop :=
  r.series.provider ≠ .mt5 ∧ ∃ bars : List Bar,
    r.series.bars = deduplicate (bars.map fun bar => bar.servedBy r.series.provider)

theorem Serves.of_clock {held' : Option ℤ} (serves : c.Serves w held)
    (same : clock w held' c.measuredAt = clock w held c.measuredAt) : c.Serves w held' := by
  obtain ⟨name, named, answers⟩ := serves
  exact ⟨name, named, { answers with clock := same ▸ answers.clock }⟩

theorem asks_mt5 : c.asks w .mt5 = some (some fun name =>
    mt5GetBars w name c.timeframe c.limit.toNat c.measuredAt c.readAt) := rfl

section Candidate

variable {index : ℕ} {p : Provider} {rest : List Provider}
  {symbolError lastError : Option ReadError} {held' : Option ℤ}
  {ask : String → Adapter (List ServedBar)}

theorem tryCandidates_quotesOnly (asked : c.asks w p = some none) :
    c.tryCandidates w index (p :: rest) symbolError lastError =
      c.tryCandidates w (index + 1) rest symbolError
        (some (.validationFailed (Text.lit s!"{p.name} does not serve history"))) := by
  rw [tryCandidates, asked]

theorem tryCandidates_unmapped (asked : c.asks w p = some (some ask)) {detail : Text}
    (unmapped : c.mapping p = .error detail) :
    c.tryCandidates w index (p :: rest) symbolError lastError =
      c.tryCandidates w (index + 1) rest (some (.symbolError detail)) lastError := by
  rw [tryCandidates, asked]
  rw [unmapped]

theorem exec_tryCandidates_none (asked : c.asks w p = none) :
    ∃ e, (c.tryCandidates w index (p :: rest) symbolError lastError).exec held =
      (.error e, held) := by
  rw [tryCandidates, asked]
  exact ⟨_, rfl⟩

theorem exec_tryCandidates_ok (asked : c.asks w p = some (some ask))
    (named : c.mapping p = .ok name) {raw : List ServedBar}
    (returned : (ask name).exec held = (.ok raw, held')) :
    (c.tryCandidates w index (p :: rest) symbolError lastError).exec held =
      (.ok (c.result index p raw), held') := by
  rw [tryCandidates, asked]
  rw [named]
  rw [Method.exec_bind_ok (exec_guarded_ok returned)]
  rfl

theorem exec_tryCandidates_exit (asked : c.asks w p = some (some ask))
    (named : c.mapping p = .ok name) (raised : (ask name).exec held = (.error .exit, held')) :
    (c.tryCandidates w index (p :: rest) symbolError lastError).exec held =
      (.error .exit, held') := by
  rw [tryCandidates, asked]
  rw [named]
  rw [Method.exec_bind_error (exec_guarded_exit raised)]

theorem exec_tryCandidates_error (asked : c.asks w p = some (some ask))
    (named : c.mapping p = .ok name) {e : ReadError}
    (raised : (ask name).exec held = (.error e, held'))
    (stays : e ≠ .exit) :
    (c.tryCandidates w index (p :: rest) symbolError lastError).exec held =
      (c.tryCandidates w (index + 1) rest symbolError (some e)).exec held' := by
  rw [tryCandidates, asked]
  rw [named]
  rw [Method.exec_bind_ok (exec_guarded_error raised stays)]

end Candidate

theorem asks_other {p : Provider} (other : p ≠ .mt5) :
    c.asks w p = (c.others p).map fun
      | .quotesOnly => none
      | .history (.ok bars) _ => some fun _ => return bars.map fun bar => bar.servedBy p
      | .history (.error e) _ => some fun _ => throw e :=
  if_neg other

theorem exec_of_declines {p : Provider} (other : p ≠ .mt5) (declines : c.Declines p)
    (held : Option ℤ) (index : ℕ) (rest : List Provider)
    (symbolError lastError : Option ReadError) :
    ∃ symbolError' lastError',
      (c.tryCandidates w index (p :: rest) symbolError lastError).exec held =
        (c.tryCandidates w (index + 1) rest symbolError' lastError').exec held := by
  have asked := @asks_other c w p other
  rcases declines with registered | ⟨answer, report, registered, declines⟩
  · rw [registered] at asked
    exact ⟨_, _, congrArg (fun x => x.exec held) (tryCandidates_quotesOnly asked)⟩
  · rw [registered] at asked
    cases named : c.mapping p with
    | error detail =>
      refine ⟨some (.symbolError detail), lastError, ?_⟩
      cases answer with
      | ok | error => rw [tryCandidates_unmapped asked named]
    | ok name =>
      rcases declines with ⟨detail, unmapped⟩ | ⟨e, rfl, stays⟩
      · cases named.symm.trans unmapped
      · exact ⟨_, _, exec_tryCandidates_error asked named (Method.exec_throw _ _) stays⟩

theorem exec_of_not_declines {p : Provider} (other : p ≠ .mt5) (stands : ¬ c.Declines p)
    (held : Option ℤ) (index : ℕ) (rest : List Provider)
    (symbolError lastError : Option ReadError) :
    (∃ e held', (c.tryCandidates w index (p :: rest) symbolError lastError).exec held =
      (.error e, held')) ∨
    ∃ r, (c.tryCandidates w index (p :: rest) symbolError lastError).exec held = (.ok r, held) ∧
      ServedBesides r := by
  have asked := @asks_other c w p other
  cases registered : c.others p with
  | none =>
    rw [registered] at asked
    obtain ⟨e, raised⟩ := @exec_tryCandidates_none c w held index p rest symbolError lastError asked
    exact .inl ⟨e, held, raised⟩
  | some source =>
    rw [registered] at asked
    cases source with
    | quotesOnly => exact absurd (.inl registered) stands
    | history answer report =>
      cases named : c.mapping p with
      | error detail => exact absurd (.inr ⟨_, _, registered, .inl ⟨detail, named⟩⟩) stands
      | ok name =>
        cases answer with
        | ok bars =>
          exact .inr ⟨_, exec_tryCandidates_ok asked named (Method.exec_pure _ _), other, bars, rfl⟩
        | error e =>
          have exits : e = .exit := by
            by_contra stays
            exact stands (.inr ⟨_, _, registered, .inr ⟨e, rfl, stays⟩⟩)
          subst exits
          exact .inl ⟨_, _, exec_tryCandidates_exit asked named (Method.exec_throw _ _)⟩

theorem exec_mt5 (serves : c.Serves w held) (index : ℕ) (rest : List Provider)
    (symbolError lastError : Option ReadError) :
    ∃ r held', (c.tryCandidates w index (.mt5 :: rest) symbolError lastError).exec held =
      (.ok r, held') ∧ c.ServedFrom w held r := by
  obtain ⟨name, named, answers⟩ := serves
  obtain ⟨offset, rates, reads, fetched, returned⟩ := exec_mt5GetBars_of_answers answers
  exact ⟨_, _, exec_tryCandidates_ok asks_mt5 named returned, rfl, name, offset, rates, named,
    reads, fetched, rfl⟩

theorem exec_mt5_of_not_serves (lacks : ¬ c.Serves w held) (index : ℕ) (rest : List Provider)
    (symbolError lastError : Option ReadError) :
    (∃ held' symbolError' lastError',
      (c.tryCandidates w index (.mt5 :: rest) symbolError lastError).exec held =
        (c.tryCandidates w (index + 1) rest symbolError' lastError').exec held' ∧
      clock w held' c.measuredAt = clock w held c.measuredAt) ∨
    ∃ e held', (c.tryCandidates w index (.mt5 :: rest) symbolError lastError).exec held =
      (.error e, held') := by
  cases named : c.mapping .mt5 with
  | error detail =>
    exact .inl ⟨held, _, _,
      congrArg (fun x => x.exec held) (tryCandidates_unmapped asks_mt5 named), rfl⟩
  | ok name =>
    obtain ⟨e, held', raised, same⟩ := exec_mt5GetBars_of_not_answers
      fun answers => lacks ⟨name, named, answers⟩
    by_cases exits : e = .exit
    · subst exits
      exact .inr ⟨_, _, exec_tryCandidates_exit asks_mt5 named raised⟩
    · exact .inl ⟨held', _, _, exec_tryCandidates_error asks_mt5 named raised exits, same⟩

theorem exec_tryCandidates_of_serves (serves : c.Serves w held) {candidates : List Provider}
    (reaches : c.Reaches candidates) (index : ℕ) (symbolError lastError : Option ReadError) :
    ∃ r held', (c.tryCandidates w index candidates symbolError lastError).exec held =
      (.ok r, held') ∧ c.ServedFrom w held r := by
  induction candidates generalizing index symbolError lastError with
  | nil => exact reaches.elim
  | cons p rest ih =>
    by_cases terminal : p = .mt5
    · subst terminal
      exact exec_mt5 serves index rest symbolError lastError
    · obtain ⟨declines, reaches⟩ := reaches.resolve_left terminal
      obtain ⟨symbolError', lastError', next⟩ :=
        @exec_of_declines c w p terminal declines held index rest symbolError lastError
      rw [next]
      exact ih reaches (index + 1) symbolError' lastError'

theorem tryCandidates_cases {candidates : List Provider} {index : ℕ}
    {symbolError lastError : Option ReadError} {r : SeriesResult} {held' : Option ℤ}
    (returned : (c.tryCandidates w index candidates symbolError lastError).exec held =
      (.ok r, held')) :
    (c.Reaches candidates ∧ c.Serves w held ∧ c.ServedFrom w held r) ∨ ServedBesides r := by
  induction candidates generalizing held index symbolError lastError with
  | nil => cases returned
  | cons p rest ih =>
    by_cases terminal : p = .mt5
    · subst terminal
      by_cases serves : c.Serves w held
      · obtain ⟨r', held'', returned', served⟩ :=
          exec_mt5 serves index rest symbolError lastError
        cases returned'.symm.trans returned
        exact .inl ⟨.inl rfl, serves, served⟩
      · rcases exec_mt5_of_not_serves serves index rest symbolError lastError with
          ⟨held'', _, _, next, same⟩ | ⟨_, _, raised⟩
        · rcases ih (next.symm.trans returned) with ⟨-, serves', -⟩ | besides
          · exact absurd (serves'.of_clock same.symm) serves
          · exact .inr besides
        · cases raised.symm.trans returned
    · by_cases declines : c.Declines p
      · obtain ⟨_, _, next⟩ :=
          @exec_of_declines c w p terminal declines held index rest symbolError lastError
        rcases ih (next.symm.trans returned) with ⟨reaches, rest⟩ | besides
        · exact .inl ⟨.inr ⟨declines, reaches⟩, rest⟩
        · exact .inr besides
      · rcases @exec_of_not_declines c w p terminal declines held index rest symbolError lastError
          with ⟨_, _, raised⟩ | ⟨r', returned', besides⟩
        · cases raised.symm.trans returned
        · cases returned'.symm.trans returned
          exact .inr besides

theorem getBars_of_limit (fits : 1 ≤ c.limit ∧ c.limit ≤ maxBars) :
    c.getBars w = c.tryCandidates w 0 c.attempted none none := by
  unfold getBars
  rw [if_neg (not_or.mpr ⟨not_lt.mpr fits.1, not_lt.mpr fits.2⟩)]

theorem exec_getBars_of_answered (answered : c.Answered w held) :
    ∃ r held', (c.getBars w).exec held = (.ok r, held') ∧ c.ServedFrom w held r := by
  rw [getBars_of_limit answered.limit]
  exact exec_tryCandidates_of_serves answered.serves answered.reaches 0 none none

theorem getBars_cases {r : SeriesResult} {held' : Option ℤ}
    (returned : (c.getBars w).exec held = (.ok r, held')) :
    (c.Answered w held ∧ c.ServedFrom w held r) ∨ ServedBesides r := by
  by_cases fits : 1 ≤ c.limit ∧ c.limit ≤ maxBars
  · rw [getBars_of_limit fits] at returned
    rcases tryCandidates_cases returned with ⟨reaches, serves, served⟩ | besides
    · exact .inl ⟨⟨fits, reaches, serves⟩, served⟩
    · exact .inr besides
  · have beyond : c.limit < 1 ∨ maxBars < c.limit := by
      by_contra neither
      obtain ⟨low, high⟩ := not_or.mp neither
      exact fits ⟨not_lt.mp low, not_lt.mp high⟩
    unfold getBars at returned
    rw [if_pos beyond] at returned
    cases returned

end Call

structure MarketBar where
  bar : ServedBar
  symbolId : Option String
  ingestedAt : Time

def MarketBar.key (row : MarketBar) : Provider × String × Timeframe × Time :=
  (row.bar.provider, row.bar.symbol, row.bar.timeframe, row.bar.barTime)

abbrev MarketBars := Table MarketBar.key

def insertOrIgnore (rows : MarketBars) (row : MarketBar) : MarketBars :=
  if free : row.key ∉ rows.rows.map MarketBar.key then rows.insert row free else rows

def storeBars (rows : MarketBars) (bars : List ServedBar) (symbolId : Option String) (now : Time) :
    MarketBars × ℕ :=
  let offered := bars.filter fun bar => (checkBar bar now).isEmpty && bar.complete
  let after := (offered.map fun bar => ⟨bar, symbolId, now⟩).foldl insertOrIgnore rows
  (after, after.rows.length - rows.rows.length)

theorem mem_insertOrIgnore {rows : MarketBars} {row row' : MarketBar}
    (mem : row' ∈ (insertOrIgnore rows row).rows) : row' ∈ rows.rows ∨ row' = row := by
  unfold insertOrIgnore at mem
  split at mem
  · exact Table.mem_insert.mp mem
  · exact .inl mem

theorem mem_storeBars {rows : MarketBars} {bars : List ServedBar} {symbolId : Option String}
    {now : Time} {row : MarketBar} (mem : row ∈ (storeBars rows bars symbolId now).1.rows) :
    row ∈ rows.rows ∨ row.bar ∈ bars ∧ row.bar.complete = true := by
  have each : ∀ (offered : List ServedBar) (rows : MarketBars),
      row ∈ ((offered.map fun bar => (⟨bar, symbolId, now⟩ : MarketBar)).foldl
        insertOrIgnore rows).rows →
        row ∈ rows.rows ∨ row.bar ∈ offered := by
    intro offered
    induction offered with
    | nil => exact fun rows mem => .inl mem
    | cons bar offered ih =>
      intro rows mem
      rcases ih (insertOrIgnore rows ⟨bar, symbolId, now⟩) mem with mem | mem
      · rcases mem_insertOrIgnore mem with mem | rfl
        · exact .inl mem
        · exact .inr List.mem_cons_self
      · exact .inr (List.mem_cons_of_mem bar mem)
  rcases each _ rows mem with mem | mem
  · exact .inl mem
  · obtain ⟨mem, valid⟩ := List.mem_filter.mp mem
    exact .inr ⟨mem, (Bool.and_eq_true_iff.mp valid).2⟩

structure Feed where
  offsets : ℕ → Option ℤ
  served : List SeriesResult
  rows : MarketBars

def Feed.fresh : Feed where
  offsets := fun _ => none
  served := []
  rows := Table.empty _

inductive Event where
  | getBars (process : ℕ) (call : Call)
  | storeBars (result first count : ℕ) (symbolId : Option String) (now : Time) (accepted : Bool)

def Feed.part (s : Feed) (result first count : ℕ) : List ServedBar :=
  ((s.served[result]?.elim [] fun r => r.series.bars).drop first).take count

theorem Feed.mem_part {s : Feed} {result first count : ℕ} {bar : ServedBar}
    (mem : bar ∈ s.part result first count) : ∃ r ∈ s.served, bar ∈ r.series.bars := by
  have taken := List.mem_of_mem_drop (List.mem_of_mem_take mem)
  cases found : s.served[result]? with
  | none =>
    rw [found] at taken
    cases taken
  | some r =>
    rw [found] at taken
    exact ⟨r, List.mem_of_getElem? found, taken⟩

def Feed.receive (s : Feed) : Except ReadError SeriesResult → List SeriesResult
  | .ok r => s.served ++ [r]
  | .error _ => s.served

def step (w : Terminal) (s : Feed) : Event → Option Feed
  | .getBars process call =>
    let ended := (call.getBars w).exec (s.offsets process)
    some { s with
      offsets := Function.update s.offsets process ended.2
      served := s.receive ended.1 }
  | .storeBars result first count symbolId now accepted =>
    some (if accepted then
      { s with rows := (storeBars s.rows (s.part result first count) symbolId now).1 } else s)

end TradeResearch.Marketdata
