import TradeResearch.Lib.Fallible
import TradeResearch.Marketdata.Validation
import TradeResearch.Symbols.Precision

/-!
# How a paper order is filled

`backend/app/paper/execution.py`: a buy lifts the ask and a sell hits the bid, worsened by the
slippage, and what comes of that is snapped to the nearest tick. The fields of a fill that are the
same for every fill are left out.

* `NeverBetter` is what is asked of the fills at one reference.
* `neverBetter_iff_adverse`: the nearest tick keeps it exactly where neither side is snapped across
  the book; a round trip loses in any case.
-/

namespace TradeResearch.Paper

open Marketdata (Availability)
open Symbols

inductive ExecutionMode where
  | backtest
  | replay
  | paper
  | live
  deriving DecidableEq

def providerFor : ExecutionMode → String
  | .backtest => "BATCH_SIMULATION_ONLY"
  | .replay => "SIMULATED_EXECUTION_ONLY"
  | .paper => "PAPER_EXECUTION_ONLY"
  | .live => "LIVE_BROKER_ADAPTER"

def ExecutionMode.name : ExecutionMode → String
  | backtest => "backtest"
  | replay => "replay"
  | paper => "paper"
  | live => "live"

def assertPaperExecution (mode : ExecutionMode) : Except Text String :=
  if providerFor mode ≠ "PAPER_EXECUTION_ONLY" then
    .error (Text.lit (s!"mode {mode.name} routes to {providerFor mode}, not " ++
      "PAPER_EXECUTION_ONLY; the paper execution " ++
      "provider refuses to fill an order it is not the provider for"))
  else .ok (providerFor mode)

structure CostModel where
  spreadPoints : ℚ
  commissionPerTrade : ℚ := 0
  slippagePoints : ℚ := 0

structure Reference where
  time : Time
  bid : Option ℚ
  ask : Option ℚ
  last : Option ℚ
  source : String
  bidAsk : Availability

structure Quote where
  time : Time
  bid : Option ℚ
  ask : Option ℚ
  last : Option ℚ

def Quote.mid (q : Quote) : Option ℚ :=
  match q.bid, q.ask with
  | some bid, some ask => some ((bid + ask) / 2)
  | _, _ => none

def Reference.fromQuote (q : Quote) : Reference where
  time := q.time
  bid := q.bid
  ask := q.ask
  last := q.last.or q.mid
  source := "quote"
  bidAsk := if q.bid.isSome && q.ask.isSome then .available else .notAvailable

def Reference.fromBar (time : Time) (close : ℚ) : Reference where
  time
  bid := none
  ask := none
  last := some close
  source := "bar_close"
  bidAsk := .notAvailable

structure SimulatedFill where
  price : ℚ
  quantity : ℚ
  time : Time
  side : String
  referencePrice : ℚ
  slippagePoints : ℚ
  spreadPoints : ℚ
  commission : ℚ
  bidAsk : Availability
  reference : Reference

namespace CostModel

variable (costs : CostModel)

def book (reference : Reference) : Except Text (ℚ × ℚ × Availability) :=
  match reference.bid, reference.ask, reference.last with
  | some bid, some ask, _ => .ok (bid, ask, .available)
  | _, _, none =>
    .error (Text.lit ("the reference carries no bid/ask and no last price; there is " ++
      "nothing to fill against, and a fill at a guessed price is worse " ++
      "than no fill"))
  | _, _, some last =>
    .ok (last - costs.spreadPoints / 2, last + costs.spreadPoints / 2, .notAvailable)

def raw (side : String) (bid ask : ℚ) : ℚ :=
  if side = "buy" then ask + costs.slippagePoints else bid - costs.slippagePoints

def snapped (raw : ℚ) (tickSize : Option ℚ) (pricePrecision : Option ℤ) : Except Text ℚ :=
  match tickSize with
  | none => .ok raw
  | some tick => (normalizePrice raw (some tick) pricePrecision).map fun n => n.value

def fill (mode : ExecutionMode) (side : String) (quantity : ℚ) (reference : Reference)
    (tickSize : Option ℚ) (pricePrecision : Option ℤ) (time : Option Time) :
    Except Text SimulatedFill := do
  let _ ← assertPaperExecution mode
  if side ≠ "buy" ∧ side ≠ "sell" then
    throw (Text.lit s!"side must be 'buy' or 'sell', not '{side}'")
  if quantity ≤ 0 then
    throw (Text.lit "quantity must be positive, not " ++ Text.num quantity)
  let (bid, ask, known) ← costs.book reference
  if ask < bid then
    throw (Text.lit "inverted book: ask " ++ Text.num ask ++ Text.lit " is below bid " ++
      Text.num bid ++ Text.lit (". Filling against it " ++
        "would manufacture a profit that the market did not offer"))
  let price ← snapped (costs.raw side bid ask) tickSize pricePrecision
  return {
    price
    quantity
    time := time.getD reference.time
    side
    referencePrice := reference.last.getD ((bid + ask) / 2)
    slippagePoints := costs.slippagePoints
    spreadPoints := ask - bid
    commission := costs.commissionPerTrade
    bidAsk := known
    reference }

def Fills (reference : Reference) (tick : Option ℚ) (side : String) (f : SimulatedFill) : Prop :=
  ∃ mode quantity digits time, costs.fill mode side quantity reference tick digits time = .ok f

def Priced (tick : Option ℚ) (raw price : ℚ) : Prop :=
  match tick with
  | none => price = raw
  | some t => 0 < raw ∧ 0 < t ∧ price = Brokers.roundHalfEven (raw / t) * t

theorem snapped_priced {raw price : ℚ} {tick : Option ℚ} {digits : Option ℤ}
    (ended : snapped raw tick digits = .ok price) : Priced tick raw price := by
  cases tick with
  | none =>
    cases ended
    exact rfl
  | some t =>
    obtain ⟨n, accepted, rfl⟩ := Fallible.map_eq_ok.mp ended
    exact normalizePrice_tick accepted

theorem snapped_of_priced {raw price : ℚ} {tick : Option ℚ} (digits : Option ℤ)
    (priced : Priced tick raw price) : snapped raw tick digits = .ok price := by
  cases tick with
  | none =>
    cases priced
    rfl
  | some t =>
    obtain ⟨positive, positive', rfl⟩ := priced
    obtain ⟨n, accepted⟩ := @normalizePrice_of_pos raw t digits positive positive'
    obtain ⟨-, -, is⟩ := normalizePrice_tick accepted
    exact Fallible.map_eq_ok.mpr ⟨n, accepted, is⟩

section Fills

variable {costs} {reference : Reference} {tick : Option ℚ}

theorem fill_eq_ok {mode : ExecutionMode} {quantity : ℚ} {digits : Option ℤ} {time : Option Time}
    {f : SimulatedFill}
    (filled : costs.fill mode side quantity reference tick digits time = .ok f) :
    f.side = side ∧ 0 < f.quantity ∧ ∃ bid ask known,
      costs.book reference = .ok (bid, ask, known) ∧ bid ≤ ask ∧
      Priced tick (costs.raw side bid ask) f.price := by
  obtain ⟨_, -, filled⟩ := Fallible.bind_eq_ok.mp filled
  by_cases unknown : side ≠ "buy" ∧ side ≠ "sell"
  · rw [if_pos unknown] at filled
    cases filled
  · rw [if_neg unknown] at filled
    by_cases empty : quantity ≤ 0
    · rw [if_pos empty] at filled
      cases filled
    · rw [if_neg empty] at filled
      obtain ⟨⟨bid, ask, known⟩, booked, filled⟩ := Fallible.bind_eq_ok.mp filled
      by_cases inverted : ask < bid
      · simp only [if_pos inverted] at filled
        cases filled
      · simp only [if_neg inverted] at filled
        obtain ⟨price, priced, filled⟩ := Fallible.bind_eq_ok.mp filled
        cases filled
        exact ⟨rfl, not_le.mp empty, bid, ask, known, booked, not_lt.mp inverted,
          snapped_priced priced⟩

theorem Fills.priced {f : SimulatedFill} (fills : costs.Fills reference tick side f) :
    ∃ bid ask known, costs.book reference = .ok (bid, ask, known) ∧ bid ≤ ask ∧
      0 < f.quantity ∧ Priced tick (costs.raw side bid ask) f.price := by
  obtain ⟨mode, quantity, digits, time, filled⟩ := fills
  obtain ⟨-, positive, bid, ask, known, booked, upright, priced⟩ := fill_eq_ok filled
  exact ⟨bid, ask, known, booked, upright, positive, priced⟩

theorem fills_of_book {bid ask : ℚ} {known : Availability}
    (booked : costs.book reference = .ok (bid, ask, known)) (upright : bid ≤ ask)
    (named : side = "buy" ∨ side = "sell") {price : ℚ}
    (priced : Priced tick (costs.raw side bid ask) price) :
    ∃ f, costs.Fills reference tick side f ∧ f.quantity = 1 ∧ f.price = price := by
  have known' : ¬ (side ≠ "buy" ∧ side ≠ "sell") := by
    rintro ⟨buy, sell⟩
    exact named.elim buy sell
  let f : SimulatedFill :=
    { price, quantity := 1, time := reference.time, side
      referencePrice := reference.last.getD ((bid + ask) / 2)
      slippagePoints := costs.slippagePoints, spreadPoints := ask - bid
      commission := costs.commissionPerTrade, bidAsk := known, reference }
  refine ⟨f, ⟨.paper, 1, none, none, ?_⟩, rfl, rfl⟩
  unfold fill
  rw [if_neg known', if_neg (by norm_num), booked]
  show (if ask < bid then _ else _) = _
  rw [if_neg (not_lt.mpr upright)]
  rw [snapped_of_priced none priced]
  rfl

end Fills

structure NeverBetter (reference : Reference) (tick : Option ℚ) : Prop where
  buy : ∀ f bid ask known, costs.Fills reference tick "buy" f →
    costs.book reference = .ok (bid, ask, known) → ask ≤ f.price
  sell : ∀ f bid ask known, costs.Fills reference tick "sell" f →
    costs.book reference = .ok (bid, ask, known) → f.price ≤ bid
  roundTrip : ∀ bought sold, costs.Fills reference tick "buy" bought →
    costs.Fills reference tick "sell" sold → bought.quantity = sold.quantity →
      (sold.price - bought.price) * sold.quantity ≤ 0

def StaysAbove (tick : Option ℚ) (level : ℚ) : Prop :=
  match tick with
  | none => 0 ≤ costs.slippagePoints
  | some t => 0 < t → 0 < level + costs.slippagePoints →
    TickAbove t level (level + costs.slippagePoints)

def StaysBelow (tick : Option ℚ) (level : ℚ) : Prop :=
  match tick with
  | none => 0 ≤ costs.slippagePoints
  | some t => 0 < t → 0 < level - costs.slippagePoints →
    TickBelow t level (level - costs.slippagePoints)

def Adverse (reference : Reference) (tick : Option ℚ) : Prop :=
  ∀ bid ask known, costs.book reference = .ok (bid, ask, known) → bid ≤ ask →
    costs.StaysAbove tick ask ∧ costs.StaysBelow tick bid

variable {costs} {reference : Reference}

theorem staysAbove_iff (level : ℚ) : costs.StaysAbove tick level ↔
    ∀ price, Priced tick (level + costs.slippagePoints) price → level ≤ price := by
  cases tick with
  | none =>
    unfold StaysAbove
    constructor
    · rintro worse price rfl
      linarith
    · intro every
      have le := every _ rfl
      linarith
  | some t =>
    constructor
    · rintro above price ⟨positive', positive, rfl⟩
      exact (le_tick_iff positive level _).mpr (above positive positive')
    · intro every positive positive'
      exact (le_tick_iff positive level _).mp (every _ ⟨positive', positive, rfl⟩)

theorem staysBelow_iff (level : ℚ) : costs.StaysBelow tick level ↔
    ∀ price, Priced tick (level - costs.slippagePoints) price → price ≤ level := by
  cases tick with
  | none =>
    unfold StaysBelow
    constructor
    · rintro worse price rfl
      linarith
    · intro every
      have le := every _ rfl
      linarith
  | some t =>
    constructor
    · rintro below price ⟨positive', positive, rfl⟩
      exact (tick_le_iff positive level _).mpr (below positive positive')
    · intro every positive positive'
      exact (tick_le_iff positive level _).mp (every _ ⟨positive', positive, rfl⟩)

theorem Priced.mono {raw raw' price price' : ℚ} (priced : Priced tick raw price)
    (priced' : Priced tick raw' price') (le : raw ≤ raw') : price ≤ price' := by
  cases tick with
  | none =>
    cases priced
    cases priced'
    exact le
  | some t =>
    obtain ⟨-, positive, rfl⟩ := priced
    obtain ⟨-, -, rfl⟩ := priced'
    exact tick_mono positive le

theorem roundTrip_nonpos (worse : 0 ≤ costs.slippagePoints) {bought sold : SimulatedFill}
    (buys : costs.Fills reference tick "buy" bought)
    (sells : costs.Fills reference tick "sell" sold) :
    (sold.price - bought.price) * sold.quantity ≤ 0 := by
  obtain ⟨bid, ask, known, booked, upright, -, above⟩ := buys.priced
  obtain ⟨bid', ask', known', booked', -, positive, below⟩ := sells.priced
  cases booked.symm.trans booked'
  have le : costs.raw "sell" bid ask ≤ costs.raw "buy" bid ask := by
    show bid - costs.slippagePoints ≤ ask + costs.slippagePoints
    linarith
  exact mul_nonpos_of_nonpos_of_nonneg (sub_nonpos.mpr (below.mono above le)) positive.le

/-- For every cost model, reference and tick: the fills are never better than the book exactly where
snapping takes neither side across it. With slippage that is not negative, a round trip makes no
money in any case. -/
theorem neverBetter_iff_adverse (costs : CostModel) (reference : Reference) (tick : Option ℚ) :
    (costs.NeverBetter reference tick ↔ costs.Adverse reference tick) ∧
      (0 ≤ costs.slippagePoints → ∀ bought sold, costs.Fills reference tick "buy" bought →
        costs.Fills reference tick "sell" sold →
          (sold.price - bought.price) * sold.quantity ≤ 0) := by
  refine ⟨⟨fun never bid ask known booked upright => ⟨?_, ?_⟩, fun adverse => ?_⟩,
    fun worse _ _ buys sells => roundTrip_nonpos worse buys sells⟩
  · refine (staysAbove_iff ask).mpr fun price priced => ?_
    obtain ⟨f, buys, -, rfl⟩ := @fills_of_book costs reference tick "buy" bid ask known booked
      upright (.inl rfl) price priced
    exact never.buy f bid ask known buys booked
  · refine (staysBelow_iff bid).mpr fun price priced => ?_
    obtain ⟨f, sells, -, rfl⟩ := @fills_of_book costs reference tick "sell" bid ask known booked
      upright (.inr rfl) price priced
    exact never.sell f bid ask known sells booked
  · have buy : ∀ f bid ask known, costs.Fills reference tick "buy" f →
        costs.book reference = .ok (bid, ask, known) → ask ≤ f.price := by
      intro f bid ask known buys booked
      obtain ⟨bid', ask', known', booked', upright, -, priced⟩ := buys.priced
      cases booked.symm.trans booked'
      exact (staysAbove_iff ask).mp (adverse bid ask known booked upright).1 f.price priced
    have sell : ∀ f bid ask known, costs.Fills reference tick "sell" f →
        costs.book reference = .ok (bid, ask, known) → f.price ≤ bid := by
      intro f bid ask known sells booked
      obtain ⟨bid', ask', known', booked', upright, -, priced⟩ := sells.priced
      cases booked.symm.trans booked'
      exact (staysBelow_iff bid).mp (adverse bid ask known booked upright).2 f.price priced
    refine ⟨buy, sell, fun bought sold buys sells _ => ?_⟩
    obtain ⟨bid, ask, known, booked, upright, -, -⟩ := buys.priced
    obtain ⟨-, -, -, -, -, positive, -⟩ := sells.priced
    have below := sell sold bid ask known sells booked
    have above := buy bought bid ask known buys booked
    exact mul_nonpos_of_nonpos_of_nonneg (by linarith) positive.le

def betweenTicks : Quote where
  time := 0
  bid := some (100004 / 100000)
  ask := some (100004 / 100000)
  last := none

/-- With a tick of 0.0001 the buy is filled at 1, below the ask. -/
theorem not_forall_neverBetter :
    ¬ ∀ (costs : CostModel) (q : Quote) (tick bid ask : ℚ), 0 ≤ costs.slippagePoints →
      0 ≤ costs.spreadPoints → q.bid = some bid → q.ask = some ask → bid ≤ ask → 0 < tick →
        costs.NeverBetter (.fromQuote q) (some tick) := by
  intro every
  have never := every { spreadPoints := 0 } betweenTicks (1 / 10000) _ _ le_rfl le_rfl rfl rfl
    le_rfl (by norm_num)
  obtain ⟨f, buys, -, price⟩ := @fills_of_book { spreadPoints := 0 } (.fromQuote betweenTicks)
    (some (1 / 10000)) "buy" _ _ _ rfl le_rfl (.inl rfl) 1
    ⟨by decide +kernel, by decide +kernel, by decide +kernel⟩
  have above := never.buy f _ _ _ buys rfl
  rw [price] at above
  exact absurd above (by decide +kernel)

end CostModel

end TradeResearch.Paper
