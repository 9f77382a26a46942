import TradeResearch.Oms.Calls

/-!
# What reconciliation concludes from the venue

A `Venue` is what the venue knows: every working order, open position and deal, each with the
intent whose request it came from. Reconciliation reads two of the three, without the intents:
`_match_order` and `_match_position` look at the open orders and the open positions only, and a
working order or position carries no intent.

* `Venue.Landed` says the venue received the request of an intent and acted on it.
* `Venue.Shows` says what reconciliation can see of it.
* `not_failed_iff_shows` is the connection: an order that landed is spared `failed` exactly when
  the venue shows it.
-/

namespace TradeResearch.Oms

open Brokers

structure FromIntent (α : Type) where
  intentId : String
  of : α

structure Venue where
  working : List (FromIntent BrokerOrder)
  positions : List (FromIntent BrokerPosition)
  deals : List (FromIntent Deal)

namespace Venue

def getOrders (v : Venue) : List BrokerOrder := v.working.map FromIntent.of

def getPositions (v : Venue) : List BrokerPosition := v.positions.map FromIntent.of

def Landed (v : Venue) (intentId : String) : Prop :=
  (∃ w ∈ v.working, w.intentId = intentId) ∨ (∃ p ∈ v.positions, p.intentId = intentId) ∨
    ∃ d ∈ v.deals, d.intentId = intentId

def Shows (v : Venue) (o : ManagedOrder) : Prop :=
  (truthy o.brokerOrderId = true ∧
      ((∃ w ∈ v.getOrders, some w.orderId = o.brokerOrderId) ∨
        ∃ p ∈ v.getPositions, some p.positionId = o.brokerOrderId)) ∨
    (truthy o.brokerOrderId = false ∧
      ∃ p ∈ v.getPositions, p.symbol = o.symbol ∧ p.side = o.wantedSide ∧
        (p.magic = none ∨ p.magic = some platformMagic))

end Venue

namespace ManagedOrder

theorem matchOrder_isSome_iff (o : ManagedOrder) (orders : List BrokerOrder) :
    (o.matchOrder orders).isSome ↔
      truthy o.brokerOrderId = true ∧ ∃ w ∈ orders, some w.orderId = o.brokerOrderId := by
  unfold matchOrder
  rw [List.find?_isSome]
  constructor
  · rintro ⟨w, member, fits⟩
    obtain ⟨named, same⟩ := Bool.and_eq_true_iff.mp fits
    exact ⟨named, w, member, of_decide_eq_true same⟩
  · rintro ⟨named, w, member, same⟩
    exact ⟨w, member, Bool.and_eq_true_iff.mpr ⟨named, decide_eq_true same⟩⟩

theorem eligible_iff (o : ManagedOrder) (p : BrokerPosition) :
    o.eligible p = true ↔ p.symbol = o.symbol ∧ p.side = o.wantedSide ∧
      (p.magic = none ∨ p.magic = some platformMagic) := by
  unfold eligible
  rw [Bool.and_eq_true_iff, Bool.and_eq_true_iff, decide_eq_true_iff, decide_eq_true_iff,
    and_assoc]
  cases p.magic with
  | none | some m => simp

theorem matchPosition_isSome_iff (o : ManagedOrder) (positions : List BrokerPosition) :
    (o.matchPosition positions).isSome ↔
      (truthy o.brokerOrderId = true ∧
          ∃ p ∈ positions, some p.positionId = o.brokerOrderId) ∨
        (truthy o.brokerOrderId = false ∧ ∃ p ∈ positions, o.eligible p = true) := by
  unfold matchPosition
  cases named : truthy o.brokerOrderId with
  | true =>
    simp
  | false =>
    simp

theorem shows_iff (o : ManagedOrder) (v : Venue) :
    v.Shows o ↔ (o.matchOrder v.getOrders).isSome ∨ (o.matchPosition v.getPositions).isSome := by
  rw [matchOrder_isSome_iff, matchPosition_isSome_iff]
  simp only [eligible_iff]
  constructor
  · rintro (⟨named, working | position⟩ | unnamed)
    · exact .inl ⟨named, working⟩
    · exact .inr (.inl ⟨named, position⟩)
    · exact .inr (.inr unnamed)
  · rintro (⟨named, working⟩ | ⟨named, position⟩ | unnamed)
    · exact .inl ⟨named, .inl working⟩
    · exact .inl ⟨named, .inr position⟩
    · exact .inr unnamed

variable {o : ManagedOrder} (now : Time)

theorem settle_failed_iff (needs : o.needsReconciliation = true) (orders : List BrokerOrder)
    (positions : List BrokerPosition) :
    ((settle now orders positions).left o).status = .failed ↔
      ¬ ((o.matchOrder orders).isSome ∨ (o.matchPosition positions).isSome) := by
  have unknown := suspect_status now needs
  unfold Method.left
  rw [exec_settle]
  cases o.matchOrder orders with
  | some found =>
    obtain ⟨o', settled, status, _⟩ :=
      exec_settleOrder now unknown found (o.matchPosition positions)
    rw [settled, status]
    unfold heldStatus
    refine iff_of_false ?_ (by simp)
    split
    · decide
    · split <;> decide
  | none =>
    cases o.matchPosition positions with
    | some found =>
      refine iff_of_false ?_ (by simp)
      generalize settled : (settlePosition now found).exec (o.suspect now) = out
      have outcome := settlePosition_cases now unknown found
      rw [settled] at outcome
      cases outcome with
      | refused reason unfit fresh =>
        rw [unknown]
        decide
      | recorded o' valid known status book =>
        rw [status]
        decide
      | applied f o' made fresh fits status book =>
        rw [status]
        unfold impliedStatus
        split <;> decide
    | none =>
      obtain ⟨o', settled, status, _⟩ := exec_settleAbsent now unknown
      rw [settled, status]
      exact iff_of_true rfl (by simp)

/-- For an order whose outcome is not known, and any venue that could be read: a request that
landed is not called failed exactly when, if it landed, the venue shows it. -/
theorem not_failed_iff_shows (needs : o.needsReconciliation = true) (v : Venue) :
    (v.Landed o.clientOrderId →
        ((reconcile now (.ok v.getOrders) (.ok v.getPositions)).left o).status ≠ .failed) ↔
      (v.Landed o.clientOrderId → v.Shows o) := by
  refine forall_congr' fun _ => ?_
  unfold Method.left
  rw [exec_reconcile_read now needs]
  show ((settle now v.getOrders v.getPositions).left o).status ≠ .failed ↔ _
  rw [Ne, settle_failed_iff now needs, not_not, shows_iff]

def lostAnswer : ManagedOrder :=
  (submit 1 (.ok (some (plainSymbol "EURUSD"))) (.error (.other "TimeoutError" []))).left
    (plainOrder 1 (by decide +kernel))

def openFill : Venue :=
  { working := []
    positions := [⟨"intent", plainPosition "7" "EURUSD" "long" 1 1⟩]
    deals := [⟨"intent", ⟨"d1", "7", "EURUSD", "in", 1, 1, 1⟩⟩] }

def closedFill : Venue :=
  { working := []
    positions := []
    deals := [⟨"intent", ⟨"d1", "7", "EURUSD", "in", 1, 1, 1⟩⟩,
      ⟨"", ⟨"d2", "7", "EURUSD", "out", 1, 1, 2⟩⟩] }

theorem not_failed_openFill :
    ((reconcile 3 (.ok openFill.getOrders) (.ok openFill.getPositions)).left
      lostAnswer).status ≠ .failed := by
  refine (not_failed_iff_shows 3 (o := lostAnswer) (by decide +kernel) openFill).mpr ?_ ?_
  · intro _
    refine .inr ⟨by decide +kernel, plainPosition "7" "EURUSD" "long" 1 1, ?_, ?_⟩
    · exact List.mem_cons_self
    · exact ⟨by decide +kernel, by decide +kernel, .inl rfl⟩
  · exact .inr (.inl ⟨_, List.mem_cons_self, by decide +kernel⟩)

/-- The deals are never read: an order that filled and was closed since is called failed. -/
theorem not_forall_landed_not_failed :
    ¬ ∀ (o : ManagedOrder) (v : Venue) (now : Time), o.needsReconciliation = true →
      v.Landed o.clientOrderId →
        ((reconcile now (.ok v.getOrders) (.ok v.getPositions)).left o).status ≠ .failed := by
  intro always
  refine always lostAnswer closedFill 3 (by decide +kernel) ?_ (by decide +kernel)
  exact .inr (.inr ⟨_, List.mem_cons_self, by decide +kernel⟩)

end ManagedOrder

end TradeResearch.Oms
