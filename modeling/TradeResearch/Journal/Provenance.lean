import TradeResearch.Journal.Desk
import TradeResearch.Positions.Protection

/-!
# The order a trade names

`positions` has no column for the order that opened one. `_entry_order` looks for it among the
filled orders of the position's account, symbol and side that were created by the time it opened,
and takes the one created last; the signal, the AI decision and the risk event are reached through
it. The order that opened the position is the one whose fill `record_fill` made it of.

* `Registry` is the desk with the tables a trade refers to. `Registry.opener` is no table: it keeps
  which order's fill opened a position.
* `Identified` is when the order created last is the one that opened the position.
* `traced_of_meets`: on a run in which each position is identified when it is recorded, a trade
  names that order and what belongs to it, or nothing.
-/

namespace TradeResearch.Journal

open Oms Positions

structure Registry where
  desk : Desk
  orders : Table OrderEntry.id
  signals : List String
  aiDecisions : List AiDecisionRecord
  riskEvents : List RiskEvent
  opener : String → Option String

inductive RegistryEvent where
  /-- `persist` of the order repository; `known` is whether its account has a row. -/
  | persist (order : ManagedOrder) (symbolId : String) (known : Bool)
  /-- The paper service records an order of the simulator. -/
  | paperOrder (row : OrderEntry)
  /-- The paper service records a position, opened by the fill of an order. -/
  | paperPosition (row : PositionRow) (orderId : String)
  /-- The services that write signals, AI decisions and risk events. -/
  | refer (signals : List String) (aiDecisions : List AiDecisionRecord)
      (riskEvents : List RiskEvent)
  | book (call : BookEvent)
  | recordClose (positionId : String) (q : Query) (currency : Option String)
  | recordPending (q : Query) (mode : Option Mode) (limit : ℕ)

def OrderEntry.of (order : ManagedOrder) (symbolId : String) (known : Bool) : OrderEntry :=
  let account := if order.accountId ≠ "" ∧ known = true then some order.accountId else none
  { id := order.id
    brokerAccountId := if order.mode = .paper then none else account
    paperAccountId := if order.mode = .paper then account else none
    symbolId
    side := order.side
    status := order.status
    createdAt := order.createdAt
    requestedPrice := order.requestedPrice
    signalId := order.signalId }

def OrderEntry.apply (row : OrderEntry) (order : ManagedOrder) : OrderEntry :=
  { row with
    status := order.status
    requestedPrice := order.requestedPrice
    signalId := order.signalId }

def persist (orders : Table OrderEntry.id) (order : ManagedOrder) (symbolId : String)
    (known : Bool) : Table OrderEntry.id :=
  if free : (OrderEntry.of order symbolId known).id ∉ orders.rows.map OrderEntry.id then
    orders.insert (.of order symbolId known) free
  else orders.modify order.id (fun row => row.apply order) fun _ => rfl

namespace Registry

def refs (s : Registry) : References :=
  ⟨s.orders.rows, s.signals, s.aiDecisions, s.riskEvents⟩

def openerAfter (s : Registry) (positions : PositionsTable) : BookEvent → String → Option String
  | .recordFill order recording, id =>
    if id = recording.positionId ∧ (s.desk.positions.find? id).isNone ∧
        (positions.find? id).isSome then
      some order.id
    else s.opener id
  | _, id => s.opener id

def step (s : Registry) : RegistryEvent → Option Registry
  | .persist order symbolId known =>
    some { s with orders := Journal.persist s.orders order symbolId known }
  | .paperOrder row =>
    if free : row.id ∉ s.orders.rows.map OrderEntry.id then
      some { s with orders := s.orders.insert row free }
    else some s
  | .paperPosition row orderId =>
    if free : row.id ∉ s.desk.positions.rows.map fun row => row.id then
      some
        { s with
          desk := { s.desk with positions := s.desk.positions.insert row free }
          opener := fun id => if id = row.id then some orderId else s.opener id }
    else some s
  | .refer signals aiDecisions riskEvents => some { s with signals, aiDecisions, riskEvents }
  | .book call =>
    (s.desk.step (.book call)).map fun desk =>
      { s with desk, opener := s.openerAfter desk.positions call }
  | .recordClose positionId q currency =>
    match s.desk.positions.find? positionId with
    | none => some s
    | some row =>
      match Journal.recordClose s.desk.trades s.desk.events s.refs q currency row with
      | .ok (trades, _) => some { s with desk := { s.desk with trades } }
      | .error _ => some s
  | .recordPending q mode limit =>
    (s.desk.step (.recordPending s.refs q mode limit)).map fun desk => { s with desk }

end Registry

structure Names (s : Registry) (trade : TradeRow) (order : OrderEntry) : Prop where
  named : trade.orderId = some order.id
  signal : trade.signalId = order.signalId.filter fun id => decide (id ∈ s.signals)
  decision : ∀ id, trade.aiDecisionId = some id →
    ∃ ai ∈ s.aiDecisions, ai.id = id ∧ ai.orderId = some order.id
  undecided : trade.aiDecisionId = none → ∀ ai ∈ s.aiDecisions, ai.orderId ≠ some order.id
  risk : ∀ id, trade.riskEventId = some id →
    ∃ event ∈ s.riskEvents, event.id = id ∧ event.orderId = some order.id
  unassessed : trade.riskEventId = none → ∀ event ∈ s.riskEvents, event.orderId ≠ some order.id

structure Anonymous (trade : TradeRow) : Prop where
  unnamed : trade.orderId = none
  signal : trade.signalId = none
  decision : trade.aiDecisionId = none
  risk : trade.riskEventId = none

def Traced (s : Registry) (trade : TradeRow) : Prop :=
  Anonymous trade ∨ ∃ positionId, trade.positionId = some positionId ∧
    ∃ order ∈ s.orders.rows, s.opener positionId = some order.id ∧ Names s trade order

def TracedStep (s t : Registry) : Prop :=
  ∀ trade ∈ t.desk.trades.rows, trade ∈ s.desk.trades.rows ∨ Traced s trade

structure Matches (order : OrderEntry) (row : PositionRow) : Prop where
  attributed : accountOf row ≠ none
  account : order.accountIn row.mode = accountOf row
  symbol : order.symbolId = row.symbolId
  side : order.side = if row.side = .long then "buy" else "sell"
  filled : order.status = .filled
  created : order.createdAt ≤ row.openedAt

def Identified (s : Registry) (row : PositionRow) : Prop :=
  (∀ order ∈ s.orders.rows, ¬ Matches order row) ∨
    ∃ order ∈ s.orders.rows, s.opener row.id = some order.id ∧ Matches order row ∧
      ∀ other ∈ s.orders.rows, Matches other row → other.id ≠ order.id →
        other.createdAt < order.createdAt

def Registry.Identifies (s : Registry) : RegistryEvent → Prop
  | .recordClose positionId _ _ =>
    ∀ row ∈ s.desk.positions.find? positionId, Measured s.desk.events row → Identified s row
  | .recordPending q mode limit =>
    ∀ row ∈ batch s.desk.positions s.desk.trades q mode limit,
      Measured s.desk.events row → Identified s row
  | _ => True

section Lookup

variable {s : Registry} {q : Query} {row : PositionRow}

theorem mem_candidates :
    order ∈ s.refs.candidates row ↔ order ∈ s.orders.rows ∧ Matches order row := by
  unfold References.candidates
  by_cases attributed : accountOf row = none
  · rw [if_pos attributed]
    exact iff_of_false List.not_mem_nil fun both => both.2.attributed attributed
  · rw [if_neg attributed, List.mem_filter]
    simp only [Bool.and_eq_true, decide_eq_true_iff]
    refine and_congr_right fun _ => ?_
    constructor
    · rintro ⟨⟨⟨⟨account, symbol⟩, side⟩, filled⟩, created⟩
      exact ⟨attributed, account, symbol, side, filled, created⟩
    · intro here
      exact ⟨⟨⟨⟨here.account, here.symbol⟩, here.side⟩, here.filled⟩, here.created⟩

theorem Query.arranged_perm {α : Type} (q : Query) (id : α → String) (rows : List α) :
    (q.arranged id rows).Perm rows :=
  List.perm_insertionSort _ _

theorem entryOrder_eq_none_iff :
    s.refs.entryOrder q row = none ↔ ∀ order ∈ s.orders.rows, ¬ Matches order row := by
  unfold References.entryOrder
  rw [List.head?_eq_none_iff, ← List.length_eq_zero_iff, List.length_insertionSort,
    (q.arranged_perm _ _).length_eq, List.length_eq_zero_iff, List.eq_nil_iff_forall_not_mem]
  refine forall_congr' fun order => ?_
  rw [mem_candidates, not_and]

theorem entryOrder_latest (found : s.refs.entryOrder q row = some order) :
    (order ∈ s.orders.rows ∧ Matches order row) ∧
      ∀ other ∈ s.orders.rows, Matches other row → other.createdAt ≤ order.createdAt := by
  unfold References.entryOrder at found
  have total : Std.Total fun a b : OrderEntry => b.createdAt ≤ a.createdAt :=
    ⟨fun a b => le_total b.createdAt a.createdAt⟩
  have transitive : IsTrans OrderEntry fun a b => b.createdAt ≤ a.createdAt :=
    ⟨fun a b c first second => second.trans first⟩
  have sorted := List.pairwise_insertionSort
    (fun a b : OrderEntry => b.createdAt ≤ a.createdAt)
    (q.arranged OrderEntry.id (s.refs.candidates row))
  have mem : ∀ other, other ∈ (q.arranged OrderEntry.id (s.refs.candidates row)).insertionSort
      (fun a b => b.createdAt ≤ a.createdAt) ↔ other ∈ s.orders.rows ∧ Matches other row := by
    intro other
    rw [List.mem_insertionSort, (q.arranged_perm _ _).mem_iff, mem_candidates]
  cases sort : (q.arranged OrderEntry.id (s.refs.candidates row)).insertionSort
      fun a b => b.createdAt ≤ a.createdAt with
  | nil =>
    rw [sort] at found
    cases found
  | cons first rest =>
    rw [sort] at found sorted mem
    cases found
    refine ⟨(mem order).mp (List.mem_cons_self ..), fun other here agrees => ?_⟩
    rcases List.mem_cons.mp ((mem other).mpr ⟨here, agrees⟩) with rfl | later
    · exact le_refl _
    · exact List.rel_of_pairwise_cons sorted later

theorem find_of_order {α : Type} {id : α → String} {of : α → Option String} {rows : List α}
    {orderId : String} :
    (∀ a, (q.arranged id rows).find? (fun a => of a = some orderId) = some a →
      a ∈ rows ∧ of a = some orderId) ∧
      ((q.arranged id rows).find? (fun a => of a = some orderId) = none →
        ∀ a ∈ rows, of a ≠ some orderId) := by
  constructor
  · intro a found
    refine ⟨(q.arranged_perm id rows).mem_iff.mp (List.mem_of_find?_eq_some found), ?_⟩
    simpa using List.find?_some found
  · intro missed a mem
    have other := List.find?_eq_none.mp missed a ((q.arranged_perm id rows).mem_iff.mpr mem)
    simpa using other

theorem anonymous_tradeOf (none' : ∀ order ∈ s.orders.rows, ¬ Matches order row) :
    Anonymous (tradeOf events s.refs q currency row price realized) := by
  have missed : s.refs.entryOrder q row = none := entryOrder_eq_none_iff.mpr none'
  unfold tradeOf
  rw [missed]
  exact ⟨rfl, rfl, rfl, rfl⟩

theorem names_tradeOf (found : s.refs.entryOrder q row = some order) :
    Names s (tradeOf events s.refs q currency row price realized) order := by
  unfold tradeOf
  rw [found]
  refine ⟨rfl, rfl, fun id named => ?_, fun missed => ?_, fun id named => ?_, fun missed => ?_⟩
  · obtain ⟨ai, here, rfl⟩ := Option.map_eq_some_iff.mp named
    obtain ⟨mem, of⟩ := find_of_order.1 ai here
    exact ⟨ai, mem, rfl, of⟩
  · exact find_of_order.2 (Option.map_eq_none_iff.mp missed)
  · obtain ⟨event, here, rfl⟩ := Option.map_eq_some_iff.mp named
    obtain ⟨mem, of⟩ := find_of_order.1 event here
    exact ⟨event, mem, rfl, of⟩
  · exact find_of_order.2 (Option.map_eq_none_iff.mp missed)

theorem traced_tradeOf (identified : Identified s row) :
    Traced s (tradeOf events s.refs q currency row price realized) := by
  rcases identified with none' | ⟨order, mem, opened, agrees, latest⟩
  · exact .inl (anonymous_tradeOf none')
  · cases found : s.refs.entryOrder q row with
    | none => exact absurd agrees (entryOrder_eq_none_iff.mp found order mem)
    | some first =>
      obtain ⟨⟨mem', agrees'⟩, newest⟩ := entryOrder_latest found
      have same : first.id = order.id := by
        by_contra other
        exact absurd (newest order mem agrees) (not_le.mpr (latest first mem' agrees' other))
      obtain rfl : first = order := Table.eq_of_key mem' mem same
      exact .inr ⟨row.id, rfl, first, mem, opened, names_tradeOf found⟩

end Lookup

section Written

variable {trades trades' : TradesTable} {events : List Entry} {refs : References} {q : Query}

theorem mem_of_recordClose {currency : Option String} {position : PositionRow} {recorded : Recorded}
    (done : recordClose trades events refs q currency position = .ok (trades', recorded))
    (mem : trade ∈ trades'.rows) : trade ∈ trades.rows ∨ Measured events position ∧
      ∃ price realized, trade =
        tradeOf (entriesOf events position.id) refs q currency position price realized := by
  have outcome : RecordCase trades events refs q currency position _ := recordClose_cases
  rw [done] at outcome
  cases outcome with
  | existing trade found reason | nothing absent gap reason => exact .inl mem
  | written absent measured price realized exit booked _ inserted =>
    rw [TradesTable.rows_of_insert inserted] at mem
    refine (List.mem_append.mp mem).imp_right fun new => ⟨measured, price, realized, ?_⟩
    exact List.mem_singleton.mp new

theorem mem_of_recordAll {positions : List PositionRow} {out : List Recorded}
    (done : recordAll events refs q trades positions = .ok (trades', out))
    (mem : trade ∈ trades'.rows) : trade ∈ trades.rows ∨ ∃ position ∈ positions,
      Measured events position ∧ ∃ price realized, trade =
        tradeOf (entriesOf events position.id) refs q none position price realized := by
  induction positions generalizing trades out with
  | nil =>
    cases done
    exact .inl mem
  | cons position rest ih =>
    unfold recordAll at done
    cases first : recordClose trades events refs q none position with
    | error e =>
      rw [first] at done
      cases done
    | ok both =>
      obtain ⟨trades₁, recorded⟩ := both
      rw [first] at done
      cases later : recordAll events refs q trades₁ rest with
      | error e =>
        change (recordAll events refs q trades₁ rest >>= _) = _ at done
        rw [later] at done
        cases done
      | ok both =>
        change (recordAll events refs q trades₁ rest >>= _) = _ at done
        rw [later] at done
        cases done
        rcases ih later with old | ⟨position', mem', new⟩
        · rcases mem_of_recordClose first old with old | new
          · exact .inl old
          · exact .inr ⟨position, List.mem_cons_self .., new⟩
        · exact .inr ⟨position', List.mem_cons_of_mem _ mem', new⟩

end Written

section Runs

variable {s t : Registry}

theorem tracedStep_of_identifies (identifies : s.Identifies e) (taken : s.step e = some t) :
    TracedStep s t := by
  intro trade mem
  cases e with
  | persist order symbolId known =>
    cases taken
    exact .inl mem
  | paperOrder row | paperPosition row orderId =>
    unfold Registry.step at taken
    dsimp only at taken
    split at taken
    · cases taken
      exact .inl mem
    · cases taken
      exact .inl mem
  | refer signals aiDecisions riskEvents =>
    cases taken
    exact .inl mem
  | book call =>
    obtain ⟨desk, stepped, rfl⟩ := Option.map_eq_some_iff.mp taken
    obtain ⟨positions, _, rfl⟩ := Option.map_eq_some_iff.mp stepped
    exact .inl mem
  | recordClose positionId q currency =>
    unfold Registry.step at taken
    dsimp only at taken
    cases found : s.desk.positions.find? positionId with
    | none =>
      rw [found] at taken
      cases taken
      exact .inl mem
    | some row =>
      rw [found] at taken
      cases done : Journal.recordClose s.desk.trades s.desk.events s.refs q currency row with
      | error e =>
        simp only [done] at taken
        cases taken
        exact .inl mem
      | ok both =>
        simp only [done] at taken
        cases taken
        refine (mem_of_recordClose done mem).imp_right ?_
        rintro ⟨measured, price, realized, rfl⟩
        exact traced_tradeOf (identifies row found measured)
  | recordPending q mode limit =>
    obtain ⟨desk, stepped, rfl⟩ := Option.map_eq_some_iff.mp taken
    unfold Desk.step at stepped
    cases done : Journal.recordPending s.desk.positions s.desk.trades s.desk.events s.refs q mode
        limit with
    | error e =>
      simp only [done] at stepped
      cases stepped
      exact .inl mem
    | ok both =>
      simp only [done] at stepped
      cases stepped
      refine (mem_of_recordAll done mem).imp_right ?_
      rintro ⟨row, here, measured, price, realized, rfl⟩
      exact traced_tradeOf (identifies row here measured)

/-- On a run in which each position is identified when it is recorded, every trade names the order
that opened its position, or none. -/
theorem traced_of_meets {events : List RegistryEvent}
    (identifies : Run.Meets Registry.step Registry.Identifies s events) :
    Run.Steps Registry.step TracedStep s events := by
  refine Run.steps_of_meets (P := fun _ => True) ?_ True.intro identifies
  exact fun s e t _ met taken => ⟨True.intro, tracedStep_of_identifies met taken⟩

end Runs

instance (order : OrderEntry) (row : PositionRow) : Decidable (Matches order row) :=
  decidable_of_iff
    ((accountOf row).isSome ∧ order.accountIn row.mode = accountOf row ∧
      order.symbolId = row.symbolId ∧ (order.side = if row.side = .long then "buy" else "sell") ∧
      order.status = .filled ∧ order.createdAt ≤ row.openedAt)
    ⟨fun ⟨attributed, account, symbol, side, filled, created⟩ =>
      ⟨Option.isSome_iff_ne_none.mp attributed, account, symbol, side, filled, created⟩,
      fun here => ⟨Option.isSome_iff_ne_none.mpr here.attributed, here.account, here.symbol,
        here.side, here.filled, here.created⟩⟩

instance (s : Registry) (row : PositionRow) : Decidable (Identified s row) :=
  inferInstanceAs (Decidable (_ ∨ _))

instance (s : Registry) (e : RegistryEvent) : Decidable (s.Identifies e) :=
  match e with
  | .recordClose positionId _ _ =>
    inferInstanceAs (Decidable (∀ row ∈ s.desk.positions.find? positionId,
      Measured s.desk.events row → Identified s row))
  | .recordPending q mode limit =>
    inferInstanceAs (Decidable (∀ row ∈ batch s.desk.positions s.desk.trades q mode limit,
      Measured s.desk.events row → Identified s row))
  | .persist _ _ _ => inferInstanceAs (Decidable True)
  | .paperOrder _ => inferInstanceAs (Decidable True)
  | .paperPosition _ _ => inferInstanceAs (Decidable True)
  | .refer _ _ _ => inferInstanceAs (Decidable True)
  | .book _ => inferInstanceAs (Decidable True)

def emptyRegistry : Registry :=
  { desk := { positions := Table.empty _, events := [], trades := .empty, confirmed := [] }
    orders := Table.empty _
    signals := []
    aiDecisions := []
    riskEvents := []
    opener := fun _ => none }

def filledOrder (id venueId : String) (createdAt filledAt : Time) : ManagedOrder :=
  { openingOrder with id, brokerOrderId := some venueId, createdAt, filledAt := some filledAt }

def twoOrders (createdAt filledAt : Time) : List RegistryEvent :=
  [.persist (filledOrder "first" "1001" 0 5) "symbol" true,
    .book (.recordFill (filledOrder "first" "1001" 0 5) (plainRecording "position")),
    .persist (filledOrder "second" "1002" createdAt filledAt) "symbol" true,
    .book (.recordFill (filledOrder "second" "1002" createdAt filledAt) (plainRecording "other")),
    .book (.closeNow "position" none 0
      { reason := .strategyExit, detail := [], referencePrice := 110, decidedAt := 9 }
      { status := .confirmed, detail := [], fillPrice := some 110, realizedPnl := some 10 })]

def recordFirst : RegistryEvent := .recordClose "position" ⟨true, fun _ => 0⟩ none

/-- An order created once the position was open is not taken for the one that opened it. -/
theorem traced_of_later_order :
    Run.Steps Registry.step TracedStep emptyRegistry (twoOrders 6 7 ++ [recordFirst]) ∧
      ∃ t ∈ Run.exec Registry.step emptyRegistry (twoOrders 6 7 ++ [recordFirst]),
        t.desk.trades.rows.map TradeRow.orderId = [some "first"] :=
  ⟨traced_of_meets (by decide +kernel), by decide +kernel⟩

/-- An order created later that was filled by then is. -/
theorem not_forall_traced :
    ¬ ∀ (s : Registry) (events : List RegistryEvent),
      Run.Steps Registry.step TracedStep s events := by
  intro traced
  have wrong : ∃ s ∈ Run.exec Registry.step emptyRegistry (twoOrders 3 4),
      s.desk.trades.rows = [] ∧ s.opener "position" = some "first" ∧
      ∃ t ∈ s.step recordFirst, ∃ trade ∈ t.desk.trades.rows,
        trade.positionId = some "position" ∧ trade.orderId = some "second" := by
    decide +kernel
  obtain ⟨s, run, fresh, first, t, taken, trade, mem, of, second⟩ := wrong
  have step := (traced emptyRegistry (twoOrders 3 4 ++ [recordFirst])).between run taken
  rcases step trade mem with old | anonymous | ⟨id, of', order, _, opened, names⟩
  · rw [fresh] at old
    cases old
  · exact absurd (anonymous.unnamed.symm.trans second) (by decide)
  · cases of.symm.trans of'
    have same : some order.id = some "second" := names.named.symm.trans second
    exact absurd (first.symm.trans (opened.trans same)) (by decide)

end TradeResearch.Journal
