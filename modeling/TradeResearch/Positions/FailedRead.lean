import TradeResearch.Brokers.Dispatch
import TradeResearch.Oms.Reconciliation
import TradeResearch.Positions.Reconciler

/-!
# A failed read through the MetaTrader5 adapter

The terminal answers a failed read with `None`, and the adapter makes an empty list of it. Both
consumers, the order manager's reconciliation and the position sweep, then see an empty book and
not a read that failed.

* `settle_status_eq_iff` says when settling leaves an order's status alone.
* `Survives` and `Unswept` say when a reconciliation and a sweep change no status, in terms of what
  the terminal answered.
* `failed_read_iff` is the connection for a failed read.
-/

namespace TradeResearch.Positions

open Oms Brokers

section Settle

variable {o : ManagedOrder} (now : Time)

theorem settlePosition_status_eq_iff (unknown : o.status = .unknown) (found : BrokerPosition) :
    ((ManagedOrder.settlePosition now found).left o).status = .unknown ↔
      ¬ ManagedOrder.Takes o.book (ManagedOrder.positionFill found) := by
  unfold Method.left
  generalize settled : (ManagedOrder.settlePosition now found).exec o = out
  have outcome := ManagedOrder.settlePosition_cases now unknown found
  rw [settled] at outcome
  cases outcome with
  | refused reason unfit fresh =>
    refine iff_of_true unknown ?_
    rintro ⟨f, made, known | fits⟩
    · have new := fresh.resolve_right (not_not.mpr (FillReport.valid_of_make made))
      exact absurd (known.symm.trans new) (by decide)
    · exact absurd fits (not_le.mpr (unfit f made))
  | recorded o' valid known status book =>
    obtain ⟨f, made⟩ := FillReport.make_of_valid valid
    exact iff_of_false (by rw [status]; decide) (not_not.mpr ⟨f, made, .inl known⟩)
  | applied f o' made fresh fits status book =>
    refine iff_of_false ?_ (not_not.mpr ⟨f, made, .inr fits⟩)
    rw [status]
    unfold ManagedOrder.impliedStatus
    split <;> decide

def Undecided (o : ManagedOrder) (orders : List BrokerOrder) (positions : List BrokerPosition) :
    Prop :=
  o.status = .unknown ∧ o.matchOrder orders = none ∧
    ∃ found, o.matchPosition positions = some found ∧
      ¬ ManagedOrder.Takes o.book (ManagedOrder.positionFill found)

theorem settle_status_eq_iff (needs : o.needsReconciliation = true)
    (orders : List BrokerOrder) (positions : List BrokerPosition) :
    ((ManagedOrder.settle now orders positions).left o).status = o.status ↔
      Undecided o orders positions := by
  rcases ManagedOrder.needsReconciliation_iff.mp needs with unknown | submitting
  · have same : o.suspect now = o := by
      unfold ManagedOrder.suspect
      rw [if_neg (by rw [unknown]; decide)]
    unfold Undecided Method.left
    rw [ManagedOrder.exec_settle, same, unknown, eq_self, true_and]
    cases o.matchOrder orders with
    | some found =>
      obtain ⟨o', settled, status, _⟩ :=
        ManagedOrder.exec_settleOrder now unknown found (o.matchPosition positions)
      rw [settled, status]
      refine iff_of_false ?_ (fun undecided => by cases undecided.1)
      unfold ManagedOrder.heldStatus
      split
      · decide
      · split <;> decide
    | none =>
      cases o.matchPosition positions with
      | none =>
        obtain ⟨o', settled, status, _⟩ := ManagedOrder.exec_settleAbsent now unknown
        rw [settled, status]
        refine iff_of_false (by decide) ?_
        rintro ⟨_, found, same, _⟩
        cases same
      | some found =>
        refine (settlePosition_status_eq_iff now unknown found).trans ⟨?_, ?_⟩
        · exact fun refuses => ⟨rfl, found, rfl, refuses⟩
        · rintro ⟨_, _, same, refuses⟩
          cases same
          exact refuses
  · refine iff_of_false (fun same => ?_) (fun undecided => ?_)
    · exact ManagedOrder.settle_status_ne_submitting now needs orders positions
        (same.trans submitting)
    · rw [Undecided, submitting] at undecided
      cases undecided.1

end Settle

section Adapter

variable (state : ConnectionState) (ordersGet : Mt5.TerminalCall (List Mt5.Order))
  (positionsGet : Mt5.TerminalCall Mt5.OpenBook)

def ordersShown : Mt5.TerminalCall (List Mt5.Order) → List BrokerOrder
  | .answered rows => rows.map Mt5.Order.toBroker
  | _ => []

def positionsShown : Mt5.TerminalCall Mt5.OpenBook → List BrokerPosition
  | .answered book => book.positions.map Mt5.Position.toBroker
  | _ => []

def Unreadable {α : Type} (call : Mt5.TerminalCall α) : Prop :=
  state ≠ .connected ∨ ¬ Mt5.Returned call

theorem getOrders_cases :
    (Unreadable state ordersGet ∧ ∃ e, Mt5.getOrders state ordersGet none = .error e) ∨
      (¬ Unreadable state ordersGet ∧
        Mt5.getOrders state ordersGet none = .ok (ordersShown ordersGet)) := by
  by_cases connected : state = .connected
  · cases ordersGet with
    | raised type reason =>
      exact .inl ⟨.inr id, .other type reason, by simp [Mt5.getOrders, connected]⟩
    | noAnswer =>
      refine .inr ⟨fun unread => unread.elim (absurd connected) (absurd True.intro), ?_⟩
      simp [Mt5.getOrders, connected, ordersShown]
    | answered rows =>
      refine .inr ⟨fun unread => unread.elim (absurd connected) (absurd True.intro), ?_⟩
      simp [Mt5.getOrders, connected, ordersShown, Mt5.tagged]
  · exact .inl ⟨.inl connected, Mt5.notConnected state, by simp [Mt5.getOrders, connected]⟩

theorem getPositions_cases :
    (Unreadable state positionsGet ∧ ∃ e, Mt5.getPositions state positionsGet none = .error e) ∨
      (¬ Unreadable state positionsGet ∧
        Mt5.getPositions state positionsGet none = .ok (positionsShown positionsGet)) := by
  by_cases connected : state = .connected
  · cases positionsGet with
    | raised type reason =>
      exact .inl ⟨.inr id, .other type reason, by simp [Mt5.getPositions, connected]⟩
    | noAnswer =>
      refine .inr ⟨fun unread => unread.elim (absurd connected) (absurd True.intro), ?_⟩
      simp [Mt5.getPositions, connected, positionsShown]
    | answered book =>
      refine .inr ⟨fun unread => unread.elim (absurd connected) (absurd True.intro), ?_⟩
      simp [Mt5.getPositions, connected, positionsShown, Mt5.tagged]
  · exact .inl ⟨.inl connected, Mt5.notConnected state, by simp [Mt5.getPositions, connected]⟩

def Survives (o : ManagedOrder) : Prop :=
  o.needsReconciliation = false ∨ Unreadable state ordersGet ∨ Unreadable state positionsGet ∨
    Undecided o (ordersShown ordersGet) (positionsShown positionsGet)

def reconciled (now : Time) (o : ManagedOrder) : ManagedOrder :=
  (ManagedOrder.reconcile now (Mt5.getOrders state ordersGet none)
    (Mt5.getPositions state positionsGet none)).left o

theorem reconciled_status_eq_iff (now : Time) (o : ManagedOrder) :
    (reconciled state ordersGet positionsGet now o).status = o.status ↔
      Survives state ordersGet positionsGet o := by
  unfold reconciled Survives
  cases needs : o.needsReconciliation with
  | false =>
    unfold Method.left
    rw [ManagedOrder.exec_reconcile_settled now needs]
    exact iff_of_true rfl (.inl rfl)
  | true =>
    have unread (raised : (∃ e, Mt5.getOrders state ordersGet none = .error e) ∨
        ∃ e, Mt5.getPositions state positionsGet none = .error e) :
        ((ManagedOrder.reconcile now (Mt5.getOrders state ordersGet none)
          (Mt5.getPositions state positionsGet none)).left o).status = o.status := by
      obtain ⟨e, left⟩ := ManagedOrder.exec_reconcile_unread now needs _ _ raised
      unfold Method.left
      rw [left]
    rcases getOrders_cases state ordersGet with ⟨unreadable, raised⟩ | ⟨orders, read⟩
    · exact iff_of_true (unread (.inl raised)) (.inr (.inl unreadable))
    rcases getPositions_cases state positionsGet with ⟨unreadable, raised⟩ | ⟨positions, read'⟩
    · exact iff_of_true (unread (.inr raised)) (.inr (.inr (.inl unreadable)))
    have settled : (ManagedOrder.reconcile now (Mt5.getOrders state ordersGet none)
          (Mt5.getPositions state positionsGet none)).left o =
        (ManagedOrder.settle now (ordersShown ordersGet) (positionsShown positionsGet)).left o := by
      unfold Method.left
      rw [read, read', ManagedOrder.exec_reconcile_read now needs]
    rw [settled, settle_status_eq_iff now needs]
    simp [orders, positions]

def Unswept (mode : Mode) (accountId : String) (table : List Position) : Prop :=
  state ≠ .connected ∨
    ∀ row ∈ table, localTo mode accountId row = true → row.brokerPositionId = none

theorem swept_unread_iff (mode : Mode) (accountId : String) (time : Time)
    (table : List Position) :
    (swept mode accountId time table (Mt5.getPositions state .noAnswer none)).map Position.status =
        table.map Position.status ↔
      Unswept state mode accountId table := by
  unfold Unswept
  by_cases connected : state = .connected
  · have read : Mt5.getPositions state .noAnswer none = .ok [] := by
      simp [Mt5.getPositions, connected]
    rw [read, sweep_empty_iff]
    simp [connected]
  · have raised : Mt5.getPositions state .noAnswer none = .error (Mt5.notConnected state) := by
      simp [Mt5.getPositions, connected]
    rw [raised, sweep_failed]
    exact iff_of_true rfl (.inl connected)

/-- A read that answered `None` changes no order's status, and closes and reopens no position,
exactly when the order survives the reconciliation and no row can be swept. -/
theorem failed_read_iff (now : Time) (o : ManagedOrder) (mode : Mode) (accountId : String)
    (table : List Position) :
    ((ordersGet = .noAnswer ∨ positionsGet = .noAnswer →
          (reconciled state ordersGet positionsGet now o).status = o.status) ∧
        (swept mode accountId now table (Mt5.getPositions state .noAnswer none)).map
          Position.status = table.map Position.status) ↔
      (ordersGet = .noAnswer ∨ positionsGet = .noAnswer →
          Survives state ordersGet positionsGet o) ∧
        Unswept state mode accountId table :=
  and_congr
    (imp_congr_right fun _ => reconciled_status_eq_iff state ordersGet positionsGet now o)
    (swept_unread_iff state mode accountId now table)

end Adapter

def openRow : Position :=
  { id := "p1", mode := .demo, brokerAccountId := some "acct", paperAccountId := none,
    brokerPositionId := some "7", quantity := 1, stopLoss := none, takeProfit := none,
    status := .open, closedAt := none, brokerStopLoss := none, brokerTakeProfit := none,
    brokerSyncedAt := none }

/-- A failed read is an empty book: an order whose answer was lost becomes `failed`, and an open
position is closed. -/
theorem not_forall_failed_read :
    (¬ ∀ (state : ConnectionState) (ordersGet : Mt5.TerminalCall (List Mt5.Order))
        (positionsGet : Mt5.TerminalCall Mt5.OpenBook) (now : Time) (o : ManagedOrder),
      ordersGet = .noAnswer ∨ positionsGet = .noAnswer →
        (reconciled state ordersGet positionsGet now o).status = o.status) ∧
    ¬ ∀ (state : ConnectionState) (mode : Mode) (accountId : String) (now : Time)
        (table : List Position),
      (swept mode accountId now table (Mt5.getPositions state .noAnswer none)).map
        Position.status = table.map Position.status := by
  constructor
  · intro always
    have same := always .connected .noAnswer .noAnswer 3 ManagedOrder.lostAnswer (.inl rfl)
    exact absurd same (by decide +kernel)
  · intro always
    have same := always .connected .demo "acct" 3 [openRow]
    exact absurd same (by decide +kernel)

end TradeResearch.Positions
