import TradeResearch.Marketdata.Service
import TradeResearch.Strategies.Base

/-!
# Which bars are history

The adapter returns every bar it reads as a closed one, and the newest of them is still forming.

* `Truthful` is what is asked of the service after every call: a bar that is returned as closed, or
  stored, had closed when it was read, keeps its figures, and is stamped with the time it opened.
* `truthful_iff_unanswered` is the result, for every sequence of calls: that is so exactly where the
  terminal serves none of them. The times are true exactly where the clock is, and all bars but the
  newest of a read are final.
-/

namespace TradeResearch.Marketdata

structure ServedBar.Shows (bar : ServedBar) (f : CandleFigures) : Prop where
  open_ : bar.open_ = f.open_
  high : bar.high = f.high
  low : bar.low = f.low
  close : bar.close = f.close
  volume : bar.volume = f.tickVolume
  spread : bar.spread = if 0 < f.spread.getD 0 then some (f.spread.getD 0 : ℚ) else none

variable (w : Terminal)

def Terminal.historyOf (bar : ServedBar) : History := w.history bar.symbol bar.timeframe

def Final (bar : ServedBar) (o : Origin) : Prop :=
  (w.historyOf bar).Closed o.index o.readAt ∧
    ∀ t, o.readAt ≤ t → bar.Shows ((w.historyOf bar).figures o.index t)

def Settled (bar : ServedBar) : Prop :=
  ∀ o ∈ bar.origin, Final w bar o ∧ bar.barTime = (w.historyOf bar).opens o.index

def Stamped (bar : ServedBar) : Prop :=
  ∀ o ∈ bar.origin, bar.barTime = (w.historyOf bar).opens o.index

def Past (bar : ServedBar) : Prop :=
  ∀ o ∈ bar.origin, bar.provider = .mt5 ∧
    (o.index + 1 = (w.historyOf bar).opened o.readAt ∨ Final w bar o)

namespace Feed

structure Keeps (P : ServedBar → Prop) (s : Feed) : Prop where
  served : ∀ r ∈ s.served, ∀ bar ∈ r.series.bars, bar.complete = true → P bar
  rows : ∀ row ∈ s.rows.rows, P row.bar

def Ordered (s : Feed) : Prop :=
  ∀ r ∈ s.served, (r.series.bars.Pairwise fun a b => a.barTime < b.barTime) ∧
    ∀ bar ∈ r.series.bars, bar.provider = r.series.provider

def Once (s : Feed) : Prop :=
  ∀ row ∈ s.rows.rows, ∀ row' ∈ s.rows.rows, ∀ o ∈ row.bar.origin, ∀ o' ∈ row'.bar.origin,
    row.bar.symbol = row'.bar.symbol → row.bar.timeframe = row'.bar.timeframe →
      o.index = o'.index → row = row'

structure Truthful (s : Feed) : Prop where
  ordered : s.Ordered
  settled : s.Keeps (Settled w)
  once : s.Once

structure Timed (s : Feed) : Prop where
  stamped : s.Keeps (Stamped w)
  once : s.Once

structure Founded (s : Feed) : Prop where
  ordered : s.Ordered
  past : s.Keeps (Past w)

end Feed

def Unanswered (s : Feed) : Event → Prop
  | .getBars process call => ¬ call.Answered w (s.offsets process)
  | .storeBars .. => True

def Stands (rates : List Rate) (rate : Rate) : Prop :=
  ∃ before after, rates = before ++ rate :: after ∧ ∀ later ∈ after, later.time ≠ rate.time

def Reads (held : Option ℤ) (now : Time) (offset : ℤ) : Prop :=
  held = some offset ∨
    held = none ∧ ∃ time, w.clockTick now = some time ∧ Nearest (time - now) offset

def Clocked (s : Feed) : Event → Prop
  | .getBars process call => call.Answered w (s.offsets process) →
      ∀ name rates, call.mapping .mt5 = .ok name →
        fetchRates w name call.limit.toNat call.timeframe 1 call.readAt = some rates →
          ∀ rate, Stands rates rate → Reads w (s.offsets process) call.measuredAt
            (w.offset ((w.history name call.timeframe).opens rate.origin.index))
  | .storeBars .. => True

variable {w} {s t : Feed}

section Keeps

theorem Feed.Keeps.store (keeps : s.Keeps P) {result first count : ℕ} {symbolId : Option String}
    {now : Time} {accepted : Bool}
    (taken : step w s (.storeBars result first count symbolId now accepted) = some t) :
    t.Keeps P := by
  cases taken
  cases accepted with
  | false => exact keeps
  | true =>
    refine ⟨keeps.served, fun row mem => ?_⟩
    rcases mem_storeBars mem with mem | ⟨mem, complete⟩
    · exact keeps.rows row mem
    · obtain ⟨r, served, mem⟩ := Feed.mem_part mem
      exact keeps.served r served row.bar mem complete

theorem Feed.Keeps.getBars_iff (keeps : s.Keeps P) {process : ℕ} {call : Call}
    (taken : step w s (.getBars process call) = some t) :
    t.Keeps P ↔ ∀ r held', (call.getBars w).exec (s.offsets process) = (.ok r, held') →
      ∀ bar ∈ r.series.bars, bar.complete = true → P bar := by
  cases taken
  constructor
  · intro kept r held' returned bar mem complete
    refine kept.served r ?_ bar mem complete
    rw [returned]
    exact List.mem_append_right s.served (List.mem_singleton_self r)
  · intro every
    refine ⟨fun r mem bar inside complete => ?_, keeps.rows⟩
    cases ended : (call.getBars w).exec (s.offsets process) with
    | mk answer held' =>
      rw [ended] at mem
      cases answer with
      | error e => exact keeps.served r mem bar inside complete
      | ok r' =>
        rcases List.mem_append.mp mem with mem | mem
        · exact keeps.served r mem bar inside complete
        · cases List.mem_singleton.mp mem
          exact every r held' ended bar inside complete

end Keeps

theorem shows_rate (symbol : String) (timeframe : Timeframe) (now : Time) (n : ℕ) (offset : ℤ) :
    ((w.rate symbol timeframe now n).toBar symbol timeframe offset).Shows
      ((w.history symbol timeframe).figures n now) :=
  ⟨rfl, rfl, rfl, rfl, rfl, rfl⟩

theorem final_of_closed {symbol : String} {timeframe : Timeframe} {now : Time} {n : ℕ} (offset : ℤ)
    (closed : (w.history symbol timeframe).Closed n now) :
    Final w ((w.rate symbol timeframe now n).toBar symbol timeframe offset) ⟨n, now⟩ := by
  refine ⟨closed, fun later after => ?_⟩
  have kept := (w.history symbol timeframe).figures_kept n now later closed after
  exact kept.symm ▸ shows_rate symbol timeframe now n offset

theorem mem_deduplicate_rates {rates : List Rate} {symbol : String} {timeframe : Timeframe}
    {offset : ℤ} {bar : ServedBar} :
    bar ∈ deduplicate (rates.map fun rate => rate.toBar symbol timeframe offset) ↔
      ∃ rate, Stands rates rate ∧ rate.toBar symbol timeframe offset = bar := by
  have time (rate later : Rate) : (later.toBar symbol timeframe offset).barTime ≠
      (rate.toBar symbol timeframe offset).barTime ↔ later.time ≠ rate.time := by
    show (later.time - offset : ℚ) ≠ rate.time - offset ↔ _
    rw [Ne, sub_left_inj, Int.cast_inj]
  rw [mem_deduplicate_iff_append]
  constructor
  · rintro ⟨before, after, split, others⟩
    obtain ⟨before', rest, rfl, rfl, parted⟩ := List.map_eq_append_iff.mp split
    obtain ⟨rate, after', rfl, rfl, rfl⟩ := List.map_eq_cons_iff.mp parted
    exact ⟨rate, ⟨before', after', rfl, fun later mem =>
      (time rate later).mp (others _ (List.mem_map_of_mem mem))⟩, rfl⟩
  · rintro ⟨rate, ⟨before, after, rfl, others⟩, rfl⟩
    refine ⟨_, _, by rw [List.map_append, List.map_cons], fun later mem => ?_⟩
    obtain ⟨later, inside, rfl⟩ := List.mem_map.mp mem
    exact (time rate later).mpr (others later inside)

theorem mem_fetchRates {symbol : String} {want : ℕ} {timeframe : Timeframe} {now : Time}
    {rates : List Rate} (fetched : fetchRates w symbol want timeframe 1 now = some rates)
    {rate : Rate} (mem : rate ∈ rates) :
    ∃ n < (w.history symbol timeframe).opened now, rate = w.rate symbol timeframe now n := by
  obtain ⟨returned, -, -, within, rfl⟩ := fetchRates_eq_some fetched
  obtain ⟨n, inside, rfl⟩ := List.mem_map.mp mem
  refine ⟨n, ?_, rfl⟩
  have below := (List.mem_range'_1.mp inside).2
  omega

theorem stands_newest {symbol : String} {want : ℕ} {timeframe : Timeframe} {now : Time}
    {rates : List Rate} (fetched : fetchRates w symbol want timeframe 1 now = some rates) :
    ∃ n, n + 1 = (w.history symbol timeframe).opened now ∧
      Stands rates (w.rate symbol timeframe now n) := by
  obtain ⟨returned, positive, -, within, rfl⟩ := fetchRates_eq_some fetched
  obtain ⟨k, rfl⟩ := Nat.exists_eq_add_of_lt positive
  refine ⟨(w.history symbol timeframe).opened now - 1, by omega, ?_⟩
  refine ⟨(List.range' ((w.history symbol timeframe).opened now - (0 + k + 1)) k).map
    (w.rate symbol timeframe now), [], ?_, fun _ mem => absurd mem List.not_mem_nil⟩
  rw [Nat.zero_add, List.range'_1_concat, List.map_append, List.map_singleton]
  congr 4
  omega

theorem origin_of_besides {r : SeriesResult} (besides : Call.ServedBesides r) {bar : ServedBar}
    (mem : bar ∈ r.series.bars) : bar.origin = none ∧ bar.provider = r.series.provider := by
  obtain ⟨-, bars, is⟩ := besides
  rw [is] at mem
  obtain ⟨before, after, split, -⟩ := mem_deduplicate_iff_append.mp mem
  obtain ⟨b, -, rfl⟩ := List.mem_map.mp (split ▸ List.mem_append_right before List.mem_cons_self)
  exact ⟨rfl, rfl⟩

theorem Feed.Keeps.getBars_iff_rates {P : ServedBar → Prop}
    (besides : ∀ bar : ServedBar, bar.origin = none → P bar) (keeps : s.Keeps P) {process : ℕ}
    {call : Call} (taken : step w s (.getBars process call) = some t) :
    t.Keeps P ↔ (call.Answered w (s.offsets process) → ∀ name offset rates,
      call.mapping .mt5 = .ok name → clock w (s.offsets process) call.measuredAt = some offset →
        fetchRates w name call.limit.toNat call.timeframe 1 call.readAt = some rates →
          ∀ rate, Stands rates rate → P (rate.toBar name call.timeframe offset)) := by
  rw [keeps.getBars_iff taken]
  constructor
  · intro every answered name offset rates named reads fetched rate stands
    obtain ⟨r, held', returned, -, name', offset', rates', named', reads', fetched', is⟩ :=
      Call.exec_getBars_of_answered answered
    cases named.symm.trans named'
    cases reads.symm.trans reads'
    cases fetched.symm.trans fetched'
    exact every r held' returned _ (is ▸ mem_deduplicate_rates.mpr ⟨rate, stands, rfl⟩) rfl
  · intro every r held' returned bar mem _
    rcases Call.getBars_cases returned with
      ⟨answered, -, name, offset, rates, named, reads, fetched, is⟩ | other
    · rw [is] at mem
      obtain ⟨rate, stands, rfl⟩ := mem_deduplicate_rates.mp mem
      exact every answered name offset rates named reads fetched rate stands
    · exact besides bar (origin_of_besides other mem).1

theorem settled_getBars_iff (keeps : s.Keeps (Settled w)) {process : ℕ} {call : Call}
    (taken : step w s (.getBars process call) = some t) :
    t.Keeps (Settled w) ↔ ¬ call.Answered w (s.offsets process) := by
  rw [keeps.getBars_iff_rates (fun bar none o is => by rw [none] at is; cases is) taken]
  constructor
  · intro every answered
    obtain ⟨name, named, answers⟩ := answered.serves
    obtain ⟨offset, reads⟩ := Option.isSome_iff_exists.mp answers.clock
    obtain ⟨rates, fetched⟩ := Option.isSome_iff_exists.mp answers.fetched
    obtain ⟨n, newest, stands⟩ := stands_newest fetched
    have settled := every answered name offset rates named reads fetched _ stands
    have closed := (settled ⟨n, call.readAt⟩ rfl).1.1
    have opened := ((w.history name call.timeframe).lt_opened_iff (n + 1) call.readAt).mpr closed
    omega
  · exact fun unanswered answered => absurd answered unanswered

theorem Feed.Keeps.getBars_past (keeps : s.Keeps (Past w)) {process : ℕ} {call : Call}
    (taken : step w s (.getBars process call) = some t) : t.Keeps (Past w) := by
  rw [keeps.getBars_iff_rates (fun bar none o is => by rw [none] at is; cases is) taken]
  rintro - name offset rates - - fetched rate ⟨before, after, split, -⟩ o is
  obtain ⟨n, below, rfl⟩ := mem_fetchRates fetched
    (split ▸ List.mem_append_right before List.mem_cons_self)
  cases is
  refine ⟨rfl, ?_⟩
  by_cases newest : n + 1 = (w.history name call.timeframe).opened call.readAt
  · exact .inl newest
  · refine .inr (final_of_closed offset ?_)
    exact ((w.history name call.timeframe).lt_opened_iff (n + 1) call.readAt).mp
      (Nat.lt_of_le_of_ne below newest)

theorem clock_eq_some_iff {held : Option ℤ} {now : Time} {u : ℤ} :
    clock w held now = some (w.offset u) ↔ Reads w held now (w.offset u) := by
  unfold clock Reads
  cases held with
  | some offset => simp
  | none =>
    simp [measuredOffset_eq_iff (w.offset_dvd u)]

theorem stamped_rate_iff {symbol : String} {timeframe : Timeframe} {now : Time} {n : ℕ}
    {offset : ℤ} :
    Stamped w ((w.rate symbol timeframe now n).toBar symbol timeframe offset) ↔
      offset = w.offset ((w.history symbol timeframe).opens n) := by
  have time : ((w.rate symbol timeframe now n).toBar symbol timeframe offset).barTime =
      (w.history symbol timeframe).opens n + w.offset ((w.history symbol timeframe).opens n) -
        offset := by
    show ((w.stamp _ : ℤ) : ℚ) - offset = _
    unfold Terminal.stamp
    push_cast
    rfl
  constructor
  · intro stamped
    have opens := stamped ⟨n, now⟩ rfl
    rw [time] at opens
    have same : (offset : ℚ) = w.offset ((w.history symbol timeframe).opens n) := by
      have opens' : ((w.history symbol timeframe).opens n +
        w.offset ((w.history symbol timeframe).opens n) - offset : ℚ) =
          (w.history symbol timeframe).opens n := opens
      linarith
    exact_mod_cast same
  · rintro rfl o is
    cases is
    rw [time, add_sub_cancel_right]
    rfl

theorem stamped_getBars_iff (keeps : s.Keeps (Stamped w)) {process : ℕ} {call : Call}
    (taken : step w s (.getBars process call) = some t) :
    t.Keeps (Stamped w) ↔ Clocked w s (.getBars process call) := by
  rw [keeps.getBars_iff_rates (fun bar none o is => by rw [none] at is; cases is) taken]
  have each {name : String} {rates : List Rate}
      (fetched : fetchRates w name call.limit.toNat call.timeframe 1 call.readAt = some rates)
      {rate : Rate} (stands : Stands rates rate) (offset : ℤ) :
      Stamped w (rate.toBar name call.timeframe offset) ↔
        offset = w.offset ((w.history name call.timeframe).opens rate.origin.index) := by
    obtain ⟨before, after, split, -⟩ := stands
    obtain ⟨n, -, rfl⟩ := mem_fetchRates fetched
      (split ▸ List.mem_append_right before List.mem_cons_self)
    exact stamped_rate_iff
  constructor
  · intro every answered name rates named fetched rate stands
    obtain ⟨name', named', answers⟩ := answered.serves
    obtain ⟨offset, reads⟩ := Option.isSome_iff_exists.mp answers.clock
    have right := (each fetched stands offset).mp
      (every answered name offset rates named reads fetched rate stands)
    exact clock_eq_some_iff.mp (right ▸ reads)
  · intro clocked answered name offset rates named reads fetched rate stands
    have right := clock_eq_some_iff.mpr (clocked answered name rates named fetched rate stands)
    exact (each fetched stands offset).mpr (Option.some.inj (reads.symm.trans right))

theorem Feed.Ordered.step (ordered : s.Ordered) {e : Event} (taken : step w s e = some t) :
    t.Ordered := by
  cases e with
  | storeBars result first count symbolId now accepted =>
    cases taken
    cases accepted with
    | false | true => exact ordered
  | getBars process call =>
    cases taken
    intro r mem
    cases ended : (call.getBars w).exec (s.offsets process) with
    | mk answer held' =>
      rw [ended] at mem
      cases answer with
      | error e => exact ordered r mem
      | ok r' =>
        rcases List.mem_append.mp mem with mem | mem
        · exact ordered r mem
        · cases List.mem_singleton.mp mem
          rcases Call.getBars_cases ended with
            ⟨-, provider, name, offset, rates, -, -, -, is⟩ | other
          · rw [is]
            refine ⟨deduplicate_sorted _, fun bar mem => ?_⟩
            obtain ⟨rate, -, rfl⟩ := mem_deduplicate_rates.mp mem
            exact provider.symm
          · refine ⟨?_, fun bar mem => (origin_of_besides other mem).2⟩
            obtain ⟨-, bars, is⟩ := other
            rw [is]
            exact deduplicate_sorted _

theorem Feed.Founded.step (founded : s.Founded w) {e : Event} (taken : step w s e = some t) :
    t.Founded w := by
  refine ⟨founded.ordered.step taken, ?_⟩
  cases e with
  | storeBars => exact founded.past.store taken
  | getBars => exact founded.past.getBars_past taken

theorem Feed.Founded.once (founded : s.Founded w) (stamped : s.Keeps (Stamped w)) : s.Once := by
  intro row mem row' mem' o is o' is' symbol timeframe index
  apply Table.eq_of_key mem mem'
  have time := stamped.rows row mem o is
  have time' := stamped.rows row' mem' o' is'
  unfold MarketBar.key
  unfold Terminal.historyOf at time time'
  rw [(founded.past.rows row mem o is).1, (founded.past.rows row' mem' o' is').1, symbol, timeframe,
    time, time', symbol, timeframe, index]

theorem Settled.stamped {bar : ServedBar} (settled : Settled w bar) : Stamped w bar :=
  fun o is => (settled o is).2

theorem Feed.Keeps.mono {P Q : ServedBar → Prop} (keeps : s.Keeps P)
    (weaker : ∀ bar, P bar → Q bar) : s.Keeps Q :=
  ⟨fun r mem bar inside complete => weaker bar (keeps.served r mem bar inside complete),
    fun row mem => weaker row.bar (keeps.rows row mem)⟩

theorem Feed.Founded.truthful_iff (founded : s.Founded w) :
    s.Truthful w ↔ s.Keeps (Settled w) :=
  ⟨fun truthful => truthful.settled, fun settled => ⟨founded.ordered, settled,
    founded.once (settled.mono fun _ => Settled.stamped)⟩⟩

theorem Feed.Founded.timed_iff (founded : s.Founded w) : s.Timed w ↔ s.Keeps (Stamped w) :=
  ⟨fun timed => timed.stamped, fun stamped => ⟨stamped, founded.once stamped⟩⟩

theorem Feed.keeps_fresh {P : ServedBar → Prop} : Feed.fresh.Keeps P :=
  ⟨fun _ mem => absurd mem List.not_mem_nil, fun _ mem => absurd mem List.not_mem_nil⟩

theorem Feed.founded_fresh : Feed.fresh.Founded w :=
  ⟨fun _ mem => absurd mem List.not_mem_nil, Feed.keeps_fresh⟩

/-- For every terminal and every sequence of calls: the service is truthful after each of them
exactly where the terminal serves none; the times it gives are true, and each bar has one row,
exactly where the clock of the adapter is that of the server for each bar; and every bar but the
newest of its read is final, in a series of one provider that is strictly increasing. -/
theorem truthful_iff_unanswered (w : Terminal) (events : List Event) :
    (Run.Along (step w) (Feed.Truthful w) .fresh events ↔
      Run.Meets (step w) (Unanswered w) .fresh events) ∧
    (Run.Along (step w) (Feed.Timed w) .fresh events ↔
      Run.Meets (step w) (Clocked w) .fresh events) ∧
    Run.Along (step w) (Feed.Founded w) .fresh events := by
  have kept : ∀ s e t, Feed.Founded w s → step w s e = some t → Feed.Founded w t :=
    fun _ _ _ founded taken => founded.step taken
  have never : ∀ s e, step w s e ≠ none := by
    intro s e
    cases e with
    | getBars | storeBars => exact Option.some_ne_none _
  refine ⟨?_, ?_, ?_⟩
  · refine Run.along_iff_meets_of_invariant kept ?_ (fun s e none => absurd none (never s e))
      Feed.founded_fresh (Feed.founded_fresh.truthful_iff.mpr Feed.keeps_fresh)
    intro s e t founded truthful taken
    rw [(founded.step taken).truthful_iff]
    cases e with
    | storeBars => exact iff_of_true (truthful.settled.store taken) True.intro
    | getBars => exact settled_getBars_iff truthful.settled taken
  · refine Run.along_iff_meets_of_invariant kept ?_ (fun s e none => absurd none (never s e))
      Feed.founded_fresh (Feed.founded_fresh.timed_iff.mpr Feed.keeps_fresh)
    intro s e t founded timed taken
    rw [(founded.step taken).timed_iff]
    cases e with
    | storeBars => exact iff_of_true (timed.stamped.store taken) True.intro
    | getBars => exact stamped_getBars_iff timed.stamped taken
  · exact Run.along_of_meets (fun s e t founded _ taken => founded.step taken) Feed.founded_fresh
      (Run.Meets.trivial _ _)

def hourly : History where
  opens n := 3600 * n
  opens_lt n := by
    push_cast
    omega
  opened t := (⌊t / 3600⌋ + 1).toNat
  lt_opened_iff n t := by
    rw [Int.lt_toNat, Int.lt_add_one_iff, Int.le_floor, le_div_iff₀ (by norm_num)]
    push_cast
    rw [mul_comm]
  figures n t :=
    { open_ := 1, high := 2, low := 1, tickVolume := none, spread := none
      close := if ((3600 * (n + 1 : ℕ) : ℤ) : ℚ) ≤ t then 2 else 1 }
  figures_kept n t t' closed later := by
    rw [if_pos closed, if_pos (closed.trans later)]

def threeHours : Terminal where
  connection _ := .up
  offset _ := 10800
  offset_dvd _ := by decide
  lastTick _ t := some ⌊t⌋
  history _ _ := hourly
  grants _ _ count _ := some count

def halfPast : Call where
  symbol := "EURUSD"
  timeframe := .h1
  provider := .mt5
  limit := 2
  mapping _ := .ok "EURUSD"
  others _ := none
  measuredAt := 5400
  readAt := 5400
  now := 5400

theorem halfPast_answered : halfPast.Answered threeHours none where
  limit := by decide
  reaches := .inl rfl
  serves := ⟨"EURUSD", rfl,
    { supported := by decide
      up := rfl
      clock := rfl
      fetched := by decide +kernel }⟩

/-- The second bar is returned as closed when it has half an hour to go. -/
theorem not_forall_truthful :
    ¬ ∀ (w : Terminal) (events : List Event),
      Run.Along (step w) (Feed.Truthful w) .fresh events := by
  intro every
  have along := every threeHours [.getBars 0 halfPast]
  have after := (along.2 _ rfl).first
  have unanswered := (@settled_getBars_iff threeHours .fresh _ Feed.keeps_fresh 0 halfPast rfl).mp
    after.settled
  exact unanswered halfPast_answered

end TradeResearch.Marketdata
