import Mathlib.Data.List.Pairwise
import TradeResearch.Journal.Closes
import TradeResearch.Positions.Book

/-!
# Writing the journal

`TradeJournalService` of `backend/app/journal/service.py`: `record_close` writes the one row of a
finished position, and `record_pending` is the sweep over the finished positions that have none. The
findings of `data_quality` are left out.

* `recordClose_cases` says what recording one position comes to.
* `recordAll` is the loop of a sweep; a row the table refuses ends it, and the caller's transaction
  with it.
* `Query` is what a query leaves to the database: where an absent instant sorts, and the order of
  rows that sort alike.
-/

namespace TradeResearch.Journal

open Oms Positions

inductive TradeStatus where
  | open
  | partiallyClosed
  | closed
  | reconciliationRequired
  | unknown
  deriving DecidableEq

structure TradeRow where
  mode : Mode
  status : TradeStatus
  positionId : Option String
  brokerPositionId : Option String
  symbolId : String
  strategyVersionId : Option String
  brokerAccountId : Option String
  paperAccountId : Option String
  orderId : Option String
  signalId : Option String
  aiDecisionId : Option String
  riskEventId : Option String
  botId : Option String
  side : Side
  volume : ℚ
  entryPrice : ℚ
  exitPrice : ℚ
  requestedEntryPrice : Option ℚ
  openedAt : Time
  closedAt : Time
  grossProfit : ℚ
  commission : ℚ
  swap : ℚ
  fees : Option ℚ
  netProfit : ℚ
  currency : Option String
  exitReason : String
  source : String

structure TradesTable where
  rows : List TradeRow
  positions : (rows.filterMap TradeRow.positionId).Nodup
  brokerPositions : (rows.filterMap TradeRow.brokerPositionId).Nodup

namespace TradesTable

def empty : TradesTable := ⟨[], List.nodup_nil, List.nodup_nil⟩

def ofPosition (t : TradesTable) (positionId : String) : Option TradeRow :=
  t.rows.find? fun trade => trade.positionId = some positionId

def insert (t : TradesTable) (trade : TradeRow) : Option TradesTable :=
  if fits : ((t.rows ++ [trade]).filterMap TradeRow.positionId).Nodup ∧
      ((t.rows ++ [trade]).filterMap TradeRow.brokerPositionId).Nodup then
    some ⟨t.rows ++ [trade], fits.1, fits.2⟩
  else none

end TradesTable

structure OrderEntry where
  id : String
  brokerAccountId : Option String
  paperAccountId : Option String
  symbolId : String
  side : String
  status : OrderStatus
  createdAt : Time
  requestedPrice : Option ℚ
  signalId : Option String

structure AiDecisionRecord where
  id : String
  orderId : Option String
  botId : Option String

structure RiskEvent where
  id : String
  orderId : Option String

structure References where
  orders : List OrderEntry
  signals : List String
  aiDecisions : List AiDecisionRecord
  riskEvents : List RiskEvent

structure Query where
  nullsFirst : Bool
  rank : String → ℕ

namespace Query

variable (q : Query)

def arranged {α : Type} (id : α → String) (rows : List α) : List α :=
  rows.insertionSort fun a b => q.rank (id a) ≤ q.rank (id b)

def before : Option Time → Option Time → Bool
  | none, none => true
  | none, some _ => q.nullsFirst
  | some _, none => !q.nullsFirst
  | some a, some b => decide (a ≤ b)

def oldestFirst (rows : List PositionRow) : List PositionRow :=
  (q.arranged (fun row => row.id) rows).insertionSort fun a b =>
    q.before a.closedAt b.closedAt = true

theorem oldestFirst_perm (rows : List PositionRow) : (q.oldestFirst rows).Perm rows :=
  (List.perm_insertionSort _ _).trans (List.perm_insertionSort _ _)

end Query

def accountOf (position : PositionRow) : Option String :=
  if position.mode = .paper then position.paperAccountId else position.brokerAccountId

def OrderEntry.accountIn (order : OrderEntry) (mode : Mode) : Option String :=
  if mode = .paper then order.paperAccountId else order.brokerAccountId

namespace References

variable (refs : References) (q : Query)

def candidates (position : PositionRow) : List OrderEntry :=
  if accountOf position = none then []
  else
    refs.orders.filter fun order =>
      decide (order.accountIn position.mode = accountOf position) &&
      decide (order.symbolId = position.symbolId) &&
      decide (order.side = if position.side = .long then "buy" else "sell") &&
      decide (order.status = .filled) && decide (order.createdAt ≤ position.openedAt)

def entryOrder (position : PositionRow) : Option OrderEntry :=
  ((q.arranged OrderEntry.id (refs.candidates position)).insertionSort fun a b =>
    b.createdAt ≤ a.createdAt).head?

def signal (order : Option OrderEntry) : Option String :=
  (order.bind OrderEntry.signalId).filter fun id => decide (id ∈ refs.signals)

def aiDecision (order : Option OrderEntry) : Option AiDecisionRecord :=
  order.bind fun order =>
    (q.arranged AiDecisionRecord.id refs.aiDecisions).find? fun ai => ai.orderId = some order.id

def riskEvent (order : Option OrderEntry) : Option RiskEvent :=
  order.bind fun order =>
    (q.arranged RiskEvent.id refs.riskEvents).find? fun risk => risk.orderId = some order.id

end References

def recordable : List PositionStatus := [.closed, .unknown]

structure Recorded where
  trade : Option TradeRow
  created : Bool
  reason : Text

def exitReasons : List String :=
  priority.map reasonName ++ ["manual_exit", "broker_exit", "unknown"]

def exitReasonOf (recorded : String) : String :=
  if recorded ∈ exitReasons then recorded else "unknown"

structure Costs where
  commission : ℚ
  swap : ℚ
  fees : ℚ

def Costs.total (costs : Costs) : ℚ := costs.commission + costs.swap + costs.fees

def costsOf (events : List Entry) : Costs :=
  { commission := (events.filterMap Entry.commission).sum
    swap := (events.filterMap Entry.swap).sum
    fees := (events.filterMap Entry.fee).sum }

def entriesOf (events : List Entry) (positionId : String) : List Entry :=
  events.filter fun entry => entry.positionId = positionId

def tradeOf (events : List Entry) (refs : References) (q : Query) (currency : Option String)
    (position : PositionRow) (price realized : ℚ) : TradeRow :=
  let exit := exitOf (closesFrom events)
  let costs := costsOf events
  let order := refs.entryOrder q position
  let ai := refs.aiDecision q order
  { mode := position.mode
    status := if position.status = .closed then .closed else .unknown
    positionId := some position.id
    brokerPositionId := position.brokerPositionId
    symbolId := position.symbolId
    strategyVersionId := position.strategyVersionId
    brokerAccountId := position.brokerAccountId
    paperAccountId := position.paperAccountId
    orderId := order.map OrderEntry.id
    signalId := refs.signal order
    aiDecisionId := ai.map AiDecisionRecord.id
    riskEventId := (refs.riskEvent q order).map RiskEvent.id
    botId := ai.bind AiDecisionRecord.botId
    side := position.side
    volume := exit.quantity
    entryPrice := position.entryPrice
    exitPrice := price
    requestedEntryPrice := order.bind OrderEntry.requestedPrice
    openedAt := position.openedAt
    closedAt := (exit.time.or position.closedAt).getD position.openedAt
    grossProfit := realized + costs.total
    commission := costs.commission
    swap := costs.swap
    fees := if costs.fees ≠ 0 then some costs.fees else none
    netProfit := realized
    currency
    exitReason := exitReasonOf exit.reason
    source := "pipeline" }

def unfinished (status : PositionStatus) : Text :=
  Text.lit ("the position is '" ++ status.name ++ "'. A trade is recorded when the episode has " ++
    "ended, and marking one closed before the venue confirmed would put an unconfirmed fact in " ++
    "the record.")

def unmeasured : Text :=
  Text.lit ("no confirmed close carried both a fill price and a booked P&L, so there is nothing " ++
    "measured to record. Reported rather than written with substituted values.")

def journalError : Exn :=
  .other "JournalError" (Text.lit "the journal row could not be written: UNIQUE constraint failed")

def recordClose (trades : TradesTable) (events : List Entry) (refs : References) (q : Query)
    (currency : Option String) (position : PositionRow) :
    Except Exn (TradesTable × Recorded) :=
  match trades.ofPosition position.id with
  | some trade => .ok (trades, ⟨some trade, false, Text.lit "a journal row already exists"⟩)
  | none =>
    if position.status ∉ recordable then
      .ok (trades, ⟨none, false, unfinished position.status⟩)
    else
      let own := entriesOf events position.id
      let parts := closesFrom own
      match (exitOf parts).price, realizedFrom parts position.realizedPnl with
      | some price, some realized =>
        let trade := tradeOf own refs q currency position price realized
        match trades.insert trade with
        | some trades' => .ok (trades', ⟨some trade, true, []⟩)
        | none => .error journalError
      | _, _ => .ok (trades, ⟨none, false, unmeasured⟩)

def pending (positions : PositionsTable) (trades : TradesTable) (mode : Option Mode) :
    List PositionRow :=
  positions.rows.filter fun row =>
    decide (row.status ∈ recordable) && (trades.ofPosition row.id).isNone &&
      mode.all fun mode => decide (row.mode = mode)

def batch (positions : PositionsTable) (trades : TradesTable) (q : Query) (mode : Option Mode)
    (limit : ℕ) : List PositionRow :=
  (q.oldestFirst (pending positions trades mode)).take limit

def recordAll (events : List Entry) (refs : References) (q : Query) :
    TradesTable → List PositionRow → Except Exn (TradesTable × List Recorded)
  | trades, [] => .ok (trades, [])
  | trades, position :: rest => do
    let (trades, recorded) ← recordClose trades events refs q none position
    let (trades, out) ← recordAll events refs q trades rest
    return (trades, recorded :: out)

def recordPending (positions : PositionsTable) (trades : TradesTable) (events : List Entry)
    (refs : References) (q : Query) (mode : Option Mode) (limit : ℕ) :
    Except Exn (TradesTable × List Recorded) :=
  recordAll events refs q trades (batch positions trades q mode limit)

def Measured (events : List Entry) (position : PositionRow) : Prop :=
  position.status ∈ recordable ∧
    (exitOf (closesFrom (entriesOf events position.id))).price ≠ none ∧
    realizedFrom (closesFrom (entriesOf events position.id)) position.realizedPnl ≠ none

instance (events : List Entry) (position : PositionRow) : Decidable (Measured events position) :=
  inferInstanceAs (Decidable (_ ∧ _ ∧ _))

inductive RecordCase (trades : TradesTable) (events : List Entry) (refs : References) (q : Query)
    (currency : Option String) (position : PositionRow) :
    Except Exn (TradesTable × Recorded) → Prop
  | existing (trade : TradeRow) (found : trades.ofPosition position.id = some trade)
      (reason : Text) :
    RecordCase trades events refs q currency position (.ok (trades, ⟨some trade, false, reason⟩))
  | nothing (absent : trades.ofPosition position.id = none) (gap : ¬ Measured events position)
      (reason : Text) :
    RecordCase trades events refs q currency position (.ok (trades, ⟨none, false, reason⟩))
  | written (absent : trades.ofPosition position.id = none) (measured : Measured events position)
      (price realized : ℚ)
      (exit : (exitOf (closesFrom (entriesOf events position.id))).price = some price)
      (booked : realizedFrom (closesFrom (entriesOf events position.id)) position.realizedPnl =
        some realized) (trades' : TradesTable)
      (inserted : trades.insert (tradeOf (entriesOf events position.id) refs q currency position
        price realized) = some trades') :
    RecordCase trades events refs q currency position
      (.ok (trades', ⟨some (tradeOf (entriesOf events position.id) refs q currency position
        price realized), true, []⟩))
  | refused (absent : trades.ofPosition position.id = none) (measured : Measured events position)
      (price realized : ℚ)
      (taken : trades.insert (tradeOf (entriesOf events position.id) refs q currency position
        price realized) = none) :
    RecordCase trades events refs q currency position (.error journalError)

theorem recordClose_cases :
    RecordCase trades events refs q currency position
      (recordClose trades events refs q currency position) := by
  unfold recordClose
  cases found : trades.ofPosition position.id with
  | some trade => exact .existing trade found _
  | none =>
    dsimp only
    by_cases finished : position.status ∈ recordable
    · rw [if_neg (not_not.mpr finished)]
      cases exit : (exitOf (closesFrom (entriesOf events position.id))).price with
      | none => exact .nothing found (fun measured => measured.2.1 exit) _
      | some price =>
        cases booked : realizedFrom (closesFrom (entriesOf events position.id))
            position.realizedPnl with
        | none => exact .nothing found (fun measured => measured.2.2 booked) _
        | some realized =>
          dsimp only
          have measured : Measured events position :=
            ⟨finished, by rw [exit]; simp, by rw [booked]; simp⟩
          cases inserted : trades.insert (tradeOf (entriesOf events position.id) refs q currency
              position price realized) with
          | some trades' =>
            exact .written found measured price realized exit booked trades' inserted
          | none => exact .refused found measured price realized inserted
    · rw [if_pos finished]
      exact .nothing found (fun measured => finished measured.1) _

section Insert

variable {t t' : TradesTable}

theorem TradesTable.eq_of_rows (same : t.rows = t'.rows) : t = t' := by
  cases t'
  cases same
  rfl

theorem TradesTable.rows_of_insert (inserted : t.insert trade = some t') :
    t'.rows = t.rows ++ [trade] := by
  unfold TradesTable.insert at inserted
  split at inserted
  · cases inserted
    rfl
  · cases inserted

theorem TradesTable.ofPosition_eq_none {positionId : String} :
    t.ofPosition positionId = none ↔ ∀ trade ∈ t.rows, trade.positionId ≠ some positionId := by
  unfold ofPosition
  simp

theorem TradesTable.ofPosition_eq_some {positionId : String}
    (found : t.ofPosition positionId = some trade) :
    trade ∈ t.rows ∧ trade.positionId = some positionId :=
  ⟨List.mem_of_find?_eq_some found, by simpa using List.find?_some found⟩

theorem TradesTable.eq_of_position {trade' : TradeRow} {positionId : String}
    (mem : trade ∈ t.rows) (of : trade.positionId = some positionId) (mem' : trade' ∈ t.rows)
    (of' : trade'.positionId = some positionId) : trade = trade' := by
  have apart := List.pairwise_filterMap.mp t.positions
  have symmetric : Std.Symm fun a b : TradeRow =>
      ∀ x, a.positionId = some x → ∀ y, b.positionId = some y → x ≠ y :=
    ⟨fun a b different x ofX y ofY same => different y ofY x ofX same.symm⟩
  by_contra other
  exact apart.forall mem mem' other positionId of positionId of' rfl

theorem TradesTable.mem_positions {positionId : String} :
    positionId ∈ t.rows.filterMap TradeRow.positionId ↔ t.ofPosition positionId ≠ none := by
  rw [Ne, ofPosition_eq_none, List.mem_filterMap]
  push Not
  exact Iff.rfl

theorem TradesTable.exists_insert {positionId : String} (of : trade.positionId = some positionId)
    (absent : t.ofPosition positionId = none)
    (free : ∀ id, trade.brokerPositionId = some id →
      id ∉ t.rows.filterMap TradeRow.brokerPositionId) :
    ∃ t', t.insert trade = some t' := by
  have key : ((t.rows ++ [trade]).filterMap TradeRow.positionId).Nodup := by
    rw [List.filterMap_append, List.filterMap_cons_some of, List.filterMap_nil,
      ← List.concat_eq_append]
    exact List.Nodup.concat (fun mem => mem_positions.mp mem absent) t.positions
  have brokerKey : ((t.rows ++ [trade]).filterMap TradeRow.brokerPositionId).Nodup := by
    rw [List.filterMap_append]
    cases broker : trade.brokerPositionId with
    | none =>
      rw [List.filterMap_cons_none broker, List.filterMap_nil, List.append_nil]
      exact t.brokerPositions
    | some id =>
      rw [List.filterMap_cons_some broker, List.filterMap_nil, ← List.concat_eq_append]
      exact List.Nodup.concat (free id broker) t.brokerPositions
  unfold insert
  rw [dif_pos ⟨key, brokerKey⟩]
  exact ⟨_, rfl⟩

end Insert

def tradeFor (events : List Entry) (refs : References) (q : Query) (position : PositionRow) :
    TradeRow :=
  tradeOf (entriesOf events position.id) refs q none position
    ((exitOf (closesFrom (entriesOf events position.id))).price.getD 0)
    ((realizedFrom (closesFrom (entriesOf events position.id)) position.realizedPnl).getD 0)

section Sweep

variable {trades : TradesTable} {events : List Entry} {refs : References}

theorem recordClose_of_absent (refs : References) (q : Query) {position : PositionRow}
    (absent : trades.ofPosition position.id = none)
    (free : Measured events position → ∀ id, position.brokerPositionId = some id →
      id ∉ trades.rows.filterMap TradeRow.brokerPositionId) :
    ∃ trades' recorded, recordClose trades events refs q none position = .ok (trades', recorded) ∧
      trades'.rows = trades.rows ++
        ([position].filter fun row => decide (Measured events row)).map
          (tradeFor events refs q) := by
  have outcome : RecordCase trades events refs q none position _ := recordClose_cases
  generalize recordClose trades events refs q none position = out at outcome
  cases outcome with
  | existing trade found reason => exact absurd (found.symm.trans absent) (by simp)
  | nothing absent gap reason =>
    refine ⟨trades, _, rfl, ?_⟩
    rw [List.filter_cons_of_neg (by simpa using gap), List.filter_nil, List.map_nil,
      List.append_nil]
  | written absent measured price realized exit booked trades' inserted =>
    refine ⟨trades', _, rfl, ?_⟩
    rw [List.filter_cons_of_pos (by simpa using measured), List.filter_nil, List.map_singleton,
      TradesTable.rows_of_insert inserted]
    unfold tradeFor
    rw [exit, booked]
    rfl
  | refused absent measured price realized taken =>
    have fits : ∃ trades', trades.insert (tradeOf (entriesOf events position.id) refs q none
        position price realized) = some trades' :=
      TradesTable.exists_insert rfl absent (free measured)
    obtain ⟨trades', inserted⟩ := fits
    exact absurd (taken.symm.trans inserted) (by simp)

theorem recordAll_of_absent {positions : List PositionRow}
    (distinct : (positions.map fun row => row.id).Nodup)
    (absent : ∀ row ∈ positions, trades.ofPosition row.id = none)
    (free : (trades.rows.filterMap TradeRow.brokerPositionId ++
      (positions.filter fun row => decide (Measured events row)).filterMap
        fun row => row.brokerPositionId).Nodup) :
    ∃ trades' out, recordAll events refs q trades positions = .ok (trades', out) ∧
      trades'.rows = trades.rows ++
        (positions.filter fun row => decide (Measured events row)).map
          (tradeFor events refs q) := by
  induction positions generalizing trades with
  | nil => exact ⟨trades, [], rfl, (List.append_nil _).symm⟩
  | cons position rest ih =>
    rw [List.map_cons, List.nodup_cons] at distinct
    have here : trades.ofPosition position.id = none := absent position (List.mem_cons_self ..)
    obtain ⟨trades₁, recorded, first, rows⟩ :=
      recordClose_of_absent refs q here (by
        intro measured id broker mem
        rw [List.filter_cons_of_pos (by simpa using measured), List.nodup_append] at free
        refine free.2.2 id mem id ?_ rfl
        exact List.mem_filterMap.mpr ⟨position, List.mem_cons_self .., broker⟩)
    have absent₁ : ∀ row ∈ rest, trades₁.ofPosition row.id = none := by
      intro row mem
      rw [TradesTable.ofPosition_eq_none, rows]
      intro trade mem' of
      rcases List.mem_append.mp mem' with old | new
      · exact TradesTable.ofPosition_eq_none.mp (absent row (List.mem_cons_of_mem _ mem)) trade
          old of
      · obtain ⟨position', mem'', rfl⟩ := List.mem_map.mp new
        obtain rfl := List.mem_singleton.mp (List.mem_of_mem_filter mem'')
        have same : position'.id = row.id := Option.some.inj of
        exact distinct.1 (same ▸ List.mem_map_of_mem mem)
    have split : ((position :: rest).filter fun row => decide (Measured events row)) =
        ([position].filter fun row => decide (Measured events row)) ++
          rest.filter fun row => decide (Measured events row) :=
      List.filter_append [position] rest
    have free₁ : (trades₁.rows.filterMap TradeRow.brokerPositionId ++
        (rest.filter fun row => decide (Measured events row)).filterMap
          fun row => row.brokerPositionId).Nodup := by
      rw [rows, List.filterMap_append, List.filterMap_map, List.append_assoc,
        show TradeRow.brokerPositionId ∘ tradeFor events refs q =
          fun row : PositionRow => row.brokerPositionId from rfl, ← List.filterMap_append, ← split]
      exact free
    obtain ⟨trades', out, rest', rows'⟩ := ih distinct.2 absent₁ free₁
    refine ⟨trades', recorded :: out, ?_, ?_⟩
    · unfold recordAll
      rw [first]
      show (recordAll events refs q trades₁ rest >>= _) = _
      rw [rest']
      rfl
    · rw [rows', rows, split, List.map_append, List.append_assoc]

end Sweep

end TradeResearch.Journal
