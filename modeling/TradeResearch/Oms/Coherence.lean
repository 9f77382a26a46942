import TradeResearch.Oms.Calls

/-!
# Whether status and fill book agree

`record_fill` derives the state from the book; every other method writes a state of its own. An
order is `Coherent` when the two agree, and `OrderCall.Sound` is, for each method, exactly what it
needs of the order and of the venue's answers to leave a coherent order coherent.

* A book is reduced to its `Shape`: nothing filled, some of it, all of it. `coherent_iff` says
  which states each shape admits.
* `coherent_body_iff` is the step: the order a call leaves is coherent exactly when the call was
  sound.
* `along_coherent_iff_meets_sound` is the run: a manager's orders are coherent all along a
  sequence of calls exactly when each call of it was sound.
-/

namespace TradeResearch.Oms

open Brokers Risk

structure ManagedOrder.Coherent (o : ManagedOrder) : Prop where
  filled_iff : o.status = .filled ↔ o.filledQuantity = o.quantity
  partly : o.status = .partiallyFilled → 0 < o.filledQuantity ∧ o.filledQuantity < o.quantity
  untouched :
    o.status ∈ [.intent, .submitting, .submitted, .accepted, .rejected, .failed] →
      o.filledQuantity = 0

inductive Shape where
  | untouched
  | part
  | full
  deriving DecidableEq

def Shape.admits : Shape → OrderStatus → Bool
  | untouched, s => s ∉ [OrderStatus.filled, .partiallyFilled]
  | part, s => s ∈ [OrderStatus.partiallyFilled, .cancelRequested, .cancelled, .expired, .unknown]
  | full, s => s ∈ [OrderStatus.filled]

theorem Shape.admits_iff (shape : Shape) (s : OrderStatus) :
    shape.admits s = true ↔
      (s = .filled ↔ shape = .full) ∧ (s = .partiallyFilled → shape = .part) ∧
        (s ∈ [OrderStatus.intent, .submitting, .submitted, .accepted, .rejected, .failed] →
          shape = .untouched) := by
  cases shape <;> cases s <;> decide

namespace FillBook

def shape (b : FillBook) : Shape :=
  if b.fills.isEmpty then .untouched else if b.complete then .full else .part

theorem shape_of_fills_nil {b : FillBook} (empty : b.fills = []) : b.shape = .untouched := by
  unfold shape
  rw [empty]
  rfl

theorem shape_of_complete {b : FillBook} (complete : b.complete = true) : b.shape = .full := by
  have nonempty := fills_ne_nil_of_complete complete
  unfold shape
  rw [if_neg (by simpa using nonempty), if_pos complete]

theorem shape_of_part {b : FillBook} (begun : b.fills ≠ []) (open_ : b.complete = false) :
    b.shape = .part := by
  unfold shape
  rw [if_neg (by simpa using begun), if_neg (by simp [open_])]

theorem shape_eq_untouched_iff {b : FillBook} : b.shape = .untouched ↔ b.fills = [] := by
  refine ⟨fun shape => ?_, shape_of_fills_nil⟩
  by_contra begun
  cases complete : b.complete with
  | true => exact absurd (shape_of_complete complete ▸ shape) (by decide)
  | false => exact absurd (shape_of_part begun complete ▸ shape) (by decide)

theorem shape_eq_full_iff {b : FillBook} : b.shape = .full ↔ b.complete = true := by
  refine ⟨fun shape => ?_, shape_of_complete⟩
  by_contra open_
  by_cases empty : b.fills = []
  · exact absurd (shape_of_fills_nil empty ▸ shape) (by decide)
  · exact absurd (shape_of_part empty (by simpa using open_) ▸ shape) (by decide)

theorem admits_impliedStatus {b : FillBook} (begun : b.fills ≠ []) :
    b.shape.admits (ManagedOrder.impliedStatus b) = true := by
  unfold ManagedOrder.impliedStatus
  cases complete : b.complete with
  | true =>
    rw [shape_of_complete complete]
    decide
  | false =>
    rw [shape_of_part begun complete]
    decide

theorem append_fills_ne_nil {b : FillBook} {f : FillRecord}
    (fits : f.quantity ≤ b.remainingQuantity) : (b.append f fits).fills ≠ [] := by
  simp

theorem append_complete_iff {b : FillBook} {f : FillRecord}
    (fits : f.quantity ≤ b.remainingQuantity) :
    (b.append f fits).complete = true ↔ f.quantity = b.remainingQuantity := by
  rw [complete_iff, append_filledQuantity, append_requested, remainingQuantity]
  constructor
  · intro full
    linarith
  · intro full
    linarith

end FillBook

namespace ManagedOrder

theorem coherent_iff {o : ManagedOrder} : o.Coherent ↔ o.book.shape.admits o.status = true := by
  have filled : o.filledQuantity = o.quantity ↔ o.book.shape = .full := by
    rw [FillBook.shape_eq_full_iff, FillBook.complete_iff, o.book_requested]
    rfl
  have untouched : o.filledQuantity = 0 ↔ o.book.shape = .untouched := by
    rw [FillBook.shape_eq_untouched_iff, ← FillBook.filledQuantity_eq_zero_iff]
    rfl
  have part : 0 < o.filledQuantity ∧ o.filledQuantity < o.quantity ↔ o.book.shape = .part := by
    have most : o.filledQuantity ≤ o.quantity :=
      o.book_requested ▸ o.book.filledQuantity_le_requested
    have least : 0 ≤ o.filledQuantity := o.book.filledQuantity_nonneg
    rw [least.lt_iff_ne', most.lt_iff_ne, Ne, Ne, untouched, filled]
    cases o.book.shape <;> decide
  rw [Shape.admits_iff, ← filled, ← part, ← untouched]
  exact ⟨fun c => ⟨c.filled_iff, c.partly, c.untouched⟩, fun c => ⟨c.1, c.2.1, c.2.2⟩⟩

theorem coherent_of {o : ManagedOrder} {status : OrderStatus} {book : FillBook}
    (hasStatus : o.status = status) (hasBook : o.book = book) :
    o.Coherent ↔ book.shape.admits status = true := by
  rw [coherent_iff, hasStatus, hasBook]

section Calls

variable (o : ManagedOrder) (now : Time)

theorem coherent_record {o : ManagedOrder} (coherent : o.Coherent) (report : FillReport) :
    ((record report now).left o).Coherent ∨
      ∃ f, ∃ fits : f.quantity ≤ o.book.remainingQuantity,
        report.make = .ok f ∧ o.book.alreadyRecorded report.brokerDealId = false ∧
          impliedStatus (o.book.append f fits) ∉ o.status.transitions ∧
            (record report now).left o = o.withFill f fits := by
  unfold Method.left
  generalize recorded : (record report now).exec o = out
  have outcome := record_cases report now o
  rw [recorded] at outcome
  cases outcome with
  | invalid reason refused | recorded f made known | overfilled f made fresh overfull =>
      exact .inl coherent
  | applied f made fresh fits legal time reason =>
    refine .inl ((coherent_of (moved_status _ _ _ _ _ _) (moved_book _ _ _ _ _ _)).mpr ?_)
    exact FillBook.admits_impliedStatus (FillBook.append_fills_ne_nil fits)
  | stranded f made fresh fits illegal => exact .inr ⟨f, fits, made, fresh, illegal, rfl⟩

theorem coherent_applyAnswer {o : ManagedOrder} (sending : o.status = .submitting)
    (empty : o.book.fills = []) (answer : Answer OrderResult) :
    ((applyAnswer now answer).left o).Coherent := by
  have untouched := FillBook.shape_of_fills_nil empty
  have parks : ∀ reason, (o.parked now reason).Coherent := fun reason => by
    refine (coherent_of (parked_status _ _ _) (parked_book _ _ _)).mpr ?_
    rw [untouched, sending]
    decide
  have mayFail : .failed ∈ o.status.transitions := by rw [sending]; decide
  have maySend : .submitted ∈ o.status.transitions := by rw [sending]; decide
  unfold Method.left
  cases answer with
  | error e =>
    by_cases broker : ∃ type reason, e = .brokerError type reason
    · obtain ⟨type, reason, rfl⟩ := broker
      rw [exec_applyAnswer_broker o now mayFail]
      refine (coherent_of (failedAs_status _ _ _ _) (failedAs_book _ _ _ _)).mpr ?_
      rw [untouched]
      decide
    · rw [exec_applyAnswer_raised o now fun type reason same => broker ⟨type, reason, same⟩]
      exact parks _
  | ok result =>
    show ((applyResult now result).exec o).2.Coherent
    cases verdict : result.status with
    | unknown =>
      rw [exec_applyResult_unknown o now result verdict]
      refine (coherent_of (parked_status _ _ _) (parked_book _ _ _)).mpr ?_
      rw [named_book, named_status, untouched, sending]
      decide
    | rejected =>
      rw [exec_applyResult_rejected o now result verdict maySend]
      refine (coherent_of (refused_status _ _ _) (refused_book _ _ _)).mpr ?_
      rw [untouched]
      decide
    | accepted =>
      have taken : (o.taken now result).Coherent := by
        refine (coherent_of (taken_status _ _ _) (taken_book _ _ _)).mpr ?_
        rw [untouched]
        decide
      cases fill : resultFill result now with
      | none =>
        rw [exec_applyResult_accepted o now result verdict maySend fill]
        exact taken
      | some report =>
        rw [exec_applyResult_filled o now result verdict maySend fill]
        rcases coherent_record now taken report with coherent | ⟨f, fits, _, _, illegal, _⟩
        · exact coherent
        · exact absurd (impliedStatus_mem_transitions (.inl (taken_status _ _ _)) _) illegal

theorem Coherent.fills_nil_of_intent {o : ManagedOrder} (coherent : o.Coherent)
    (created : o.status = .intent) : o.book.fills = [] := by
  refine (FillBook.filledQuantity_eq_zero_iff _).mp (coherent.untouched ?_)
  rw [created]
  decide

theorem coherent_send {o : ManagedOrder} (coherent : o.Coherent) {answer : Answer OrderResult}
    {out : Except Exn Unit × ManagedOrder} (sent : SendCase o now answer out) :
    out.2.Coherent := by
  cases sent with
  | refused reason => exact coherent
  | unsent o' created failed book unnamed =>
    refine (coherent_of failed book).mpr ?_
    rw [FillBook.shape_of_fills_nil (coherent.fills_nil_of_intent created)]
    decide
  | sent reason created =>
    refine coherent_applyAnswer now (sending_status _ _ _) ?_ answer
    exact coherent.fills_nil_of_intent created

def closedShort (s : OrderStatus) : Bool :=
  s ∈ [OrderStatus.rejected, .failed, .cancelled, .expired]

def ReportSound (o : ManagedOrder) (report : FillReport) : Prop :=
  o.status = .intent ∨ o.status = .submitting ∨ ¬ report.Valid ∨
    o.book.alreadyRecorded report.brokerDealId = true ∨
    (∀ q, report.quantity = .finite q → o.book.remainingQuantity < q) ∨
    closedShort o.status = false ∨
    (o.status = .cancelled ∨ o.status = .expired) ∧
      report.quantity ≠ .finite o.book.remainingQuantity

theorem closedShort_of_stranded {o : ManagedOrder} (coherent : o.Coherent) {f : FillRecord}
    (fits : f.quantity ≤ o.book.remainingQuantity)
    (acknowledged : ¬ (o.status = .intent ∨ o.status = .submitting))
    (illegal : impliedStatus (o.book.append f fits) ∉ o.status.transitions) :
    closedShort o.status = true := by
  have notFilled : o.status ≠ .filled := by
    intro filled
    have whole := coherent.filled_iff.mp filled
    have complete : o.book.complete = true := by
      rw [FillBook.complete_iff, o.book_requested]
      exact whole
    exact absurd fits (not_le.mpr (FillBook.not_fits_of_complete complete f))
  unfold impliedStatus at illegal
  revert illegal acknowledged notFilled
  generalize o.status = status
  cases status <;> split <;> decide

theorem withFill_coherent_iff {o : ManagedOrder} {f : FillRecord}
    (fits : f.quantity ≤ o.book.remainingQuantity) (closed : closedShort o.status = true) :
    (o.withFill f fits).Coherent ↔
      (o.status = .cancelled ∨ o.status = .expired) ∧ f.quantity ≠ o.book.remainingQuantity := by
  rw [coherent_of (withFill_status o f fits) (withFill_book o f fits), Ne,
    ← FillBook.append_complete_iff fits]
  have begun := FillBook.append_fills_ne_nil fits
  cases complete : (o.book.append f fits).complete with
  | true =>
    rw [FillBook.shape_of_complete complete]
    revert closed
    generalize o.status = status
    cases status <;> decide
  | false =>
    rw [FillBook.shape_of_part begun complete]
    revert closed
    generalize o.status = status
    cases status <;> decide

theorem coherent_report_iff {o : ManagedOrder} (coherent : o.Coherent) (quantity price : Figure)
    (deal : Option String) (commission swap : ℚ) (fillSource : String) :
    ((applyExecutionReport now quantity price deal commission swap fillSource).left o).Coherent ↔
      o.ReportSound (executionReport now quantity price deal commission swap fillSource) := by
  unfold Method.left
  by_cases early : o.status = .intent ∨ o.status = .submitting
  · obtain ⟨reason, refused⟩ :=
      exec_applyExecutionReport_early o now quantity price deal commission swap fillSource early
    rw [refused]
    refine ⟨fun _ => ?_, fun _ => coherent⟩
    rcases early with intent | submitting
    · exact .inl intent
    · exact .inr (.inl submitting)
  rw [exec_applyExecutionReport o now quantity price deal commission swap fillSource early]
  generalize is : executionReport now quantity price deal commission swap fillSource = report
  generalize recorded : (record report now).exec o = out
  have outcome := record_cases report now o
  rw [recorded] at outcome
  cases outcome with
  | invalid reason refused =>
    exact ⟨fun _ => .inr (.inr (.inl refused)), fun _ => coherent⟩
  | recorded f made known =>
    exact ⟨fun _ => .inr (.inr (.inr (.inl known))), fun _ => coherent⟩
  | overfilled f made fresh overfull =>
    refine ⟨fun _ => .inr (.inr (.inr (.inr (.inl fun q same => ?_)))), fun _ => coherent⟩
    rw [(FillReport.make_eq made).1, Figure.finite.injEq] at same
    exact same ▸ overfull
  | applied f made fresh fits legal time reason =>
    have after : ((o.withFill f fits).moved (impliedStatus (o.book.append f fits)) time .broker
        reason none).Coherent :=
      (coherent_of (moved_status _ _ _ _ _ _) (moved_book _ _ _ _ _ _)).mpr
        (FillBook.admits_impliedStatus (FillBook.append_fills_ne_nil fits))
    refine ⟨fun _ => .inr (.inr (.inr (.inr (.inr (.inl ?_))))), fun _ => after⟩
    revert legal
    unfold impliedStatus
    generalize o.status = status
    cases status <;> split <;> decide
  | stranded f made fresh fits illegal =>
    have closed := closedShort_of_stranded coherent fits early illegal
    have figures := FillReport.make_eq made
    rw [withFill_coherent_iff fits closed]
    constructor
    · rintro ⟨state, short⟩
      refine .inr (.inr (.inr (.inr (.inr (.inr ⟨state, fun same => short ?_⟩)))))
      rw [figures.1, Figure.finite.injEq] at same
      exact same
    · rintro (intent | submitting | refused | known | overfull | live | ⟨state, short⟩)
      · exact absurd (.inl intent) early
      · exact absurd (.inr submitting) early
      · exact absurd (FillReport.valid_of_make made) refused
      · exact absurd known (by simp [fresh])
      · exact absurd fits (not_le.mpr (overfull _ figures.1))
      · exact absurd closed (by simp [live])
      · exact ⟨state, fun same => short (by rw [figures.1, same])⟩

def CancelSound (o : ManagedOrder) (answer : Answer OrderResult) : Prop :=
  o.status = .partiallyFilled → o.brokerOrderId ≠ none → cancelVerdict answer ≠ .accepted

theorem cancelVerdict_mem (answer : Answer OrderResult) :
    cancelVerdict answer ∈ [OrderStatus.unknown, .accepted, .cancelled] := by
  rcases answer with e | result
  · exact List.mem_cons_self
  · simp only [cancelVerdict]
    cases result.status <;> simp

theorem coherent_cancel_iff {o : ManagedOrder} (coherent : o.Coherent) (reason : Text)
    (answer : Answer OrderResult) :
    ((cancel now reason answer).left o).Coherent ↔ o.CancelSound answer := by
  have admits := coherent_iff.mp coherent
  unfold Method.left
  generalize called : (cancel now reason answer).exec o = out
  have outcome := cancel_cases o now reason answer
  rw [called] at outcome
  cases outcome with
  | refused e settled =>
    refine ⟨fun _ part => absurd ?_ settled, fun _ => coherent⟩
    rw [part]
    decide
  | unnamed o' live noId status book =>
    refine ⟨fun _ _ named => absurd noId named, fun _ => (coherent_of status book).mpr ?_⟩
    revert admits live
    generalize o.book.shape = shape
    generalize o.status = before
    cases before <;> cases shape <;> decide
  | asked id o' live venueId status book =>
    rw [coherent_of status book]
    unfold CancelSound
    have named : o.brokerOrderId ≠ none := by simp [venueId]
    have verdicts := cancelVerdict_mem answer
    revert admits live verdicts
    simp only [named, ne_eq, not_false_eq_true, forall_true_left]
    generalize cancelVerdict answer = verdict
    generalize o.book.shape = shape
    generalize o.status = before
    cases before <;> cases shape <;> cases verdict <;> decide

theorem admits_of_transition {shape : Shape} {s t : OrderStatus}
    (target : t = .unknown ∨ t = .expired) (legal : t ∈ s.transitions)
    (admits : shape.admits s = true) : shape.admits t = true := by
  revert legal admits
  rcases target with rfl | rfl <;> cases s <;> cases shape <;> decide

theorem coherent_modify {o : ManagedOrder} (coherent : o.Coherent) (approval : Approval)
    (stopLoss takeProfit : Option ℚ) (answer : Answer OrderResult) :
    ((modifyLevels now approval stopLoss takeProfit answer).left o).Coherent := by
  have admits := coherent_iff.mp coherent
  obtain ⟨book, same | ⟨legal, status⟩⟩ :=
    modifyLevels_left o now approval stopLoss takeProfit answer
  · exact (coherent_of same book).mpr admits
  · exact (coherent_of status book).mpr (admits_of_transition (.inl rfl) legal admits)

theorem coherent_expire {o : ManagedOrder} (coherent : o.Coherent) :
    ((expire now).left o).Coherent := by
  have admits := coherent_iff.mp coherent
  obtain ⟨book, same | ⟨legal, status⟩⟩ := expire_left o now
  · exact (coherent_of same book).mpr admits
  · exact (coherent_of status book).mpr (admits_of_transition (.inr rfl) legal admits)

def SettleSound (o : ManagedOrder) (openOrders : List BrokerOrder)
    (positions : List BrokerPosition) : Prop :=
  match o.matchOrder openOrders, o.matchPosition positions with
  | some _, position => o.book.fills ≠ [] ∨ position = none
  | none, some found =>
    (positionFill found).Valid → o.book.alreadyRecorded (some found.positionId) = false
  | none, none => o.book.fills = []

def ReconcileSound (o : ManagedOrder) (openOrders : Answer (List BrokerOrder))
    (positions : Answer (List BrokerPosition)) : Prop :=
  match openOrders, positions with
  | .ok openOrders, .ok positions =>
    o.needsReconciliation = true → o.SettleSound openOrders positions
  | _, _ => True

theorem reconcileSound_of_unread {openOrders : Answer (List BrokerOrder)}
    {positions : Answer (List BrokerPosition)}
    (unread : (∃ e, openOrders = .error e) ∨ ∃ e, positions = .error e) :
    o.ReconcileSound openOrders positions := by
  rcases unread with ⟨e, rfl⟩ | ⟨e, rfl⟩
  · exact True.intro
  · cases openOrders <;> exact True.intro

theorem Coherent.not_full_of_needs {o : ManagedOrder} (coherent : o.Coherent)
    (needs : o.needsReconciliation = true) : o.book.shape ≠ .full := by
  have admits := coherent_iff.mp coherent
  intro full
  rw [full] at admits
  rcases needsReconciliation_iff.mp needs with status | status <;>
    · rw [status] at admits
      exact absurd admits (by decide)

theorem coherent_settle_iff {o : ManagedOrder} (coherent : o.Coherent)
    (needs : o.needsReconciliation = true) (openOrders : List BrokerOrder)
    (positions : List BrokerPosition) :
    ((settle now openOrders positions).left o).Coherent ↔ o.SettleSound openOrders positions := by
  have unknown := suspect_status now needs
  have notFull := coherent.not_full_of_needs needs
  have begun : o.book.fills ≠ [] → o.book.shape = .part := fun some => by
    have := mt FillBook.shape_eq_untouched_iff.mp some
    cases shape : o.book.shape with
    | untouched => exact absurd shape this
    | part => rfl
    | full => exact absurd shape notFull
  unfold Method.left SettleSound
  rw [exec_settle]
  cases o.matchOrder openOrders with
  | some found =>
    obtain ⟨o', settled, status, book⟩ :=
      exec_settleOrder now unknown found (o.matchPosition positions)
    rw [settled, coherent_of status book, suspect_book]
    unfold heldStatus
    rw [suspect_book]
    by_cases empty : o.book.fills = []
    · rw [FillBook.shape_of_fills_nil empty, empty]
      cases o.matchPosition positions <;> simp [Shape.admits]
    · rw [begun empty]
      simp [empty, Shape.admits]
  | none =>
    cases o.matchPosition positions with
    | some found =>
      generalize settled : (settlePosition now found).exec (o.suspect now) = out
      have outcome := settlePosition_cases now unknown found
      rw [settled] at outcome
      cases outcome with
      | refused reason unfit fresh =>
        rw [coherent_of unknown (suspect_book o now)]
        refine ⟨fun _ valid => ?_, fun _ => ?_⟩
        · rw [suspect_book] at fresh
          exact fresh.resolve_right (not_not.mpr valid)
        · revert notFull
          generalize o.book.shape = shape
          cases shape <;> decide
      | recorded o' valid known status book =>
        rw [suspect_book] at known
        rw [coherent_of status book, suspect_book]
        constructor
        · intro admits
          refine absurd ?_ notFull
          revert admits
          generalize o.book.shape = shape
          cases shape <;> decide
        · intro sound
          exact absurd (sound valid) (by simp [known])
      | applied f o' made fresh fits status book =>
        rw [coherent_of status book]
        refine ⟨fun _ _ => ?_, fun _ => ?_⟩
        · rwa [suspect_book] at fresh
        · exact FillBook.admits_impliedStatus (FillBook.append_fills_ne_nil fits)
    | none =>
      obtain ⟨o', settled, status, book⟩ := exec_settleAbsent now unknown
      dsimp only
      rw [settled, coherent_of status book, suspect_book, ← FillBook.shape_eq_untouched_iff]
      generalize o.book.shape = shape
      cases shape <;> decide

theorem coherent_reconcile_iff {o : ManagedOrder} (coherent : o.Coherent)
    (openOrders : Answer (List BrokerOrder)) (positions : Answer (List BrokerPosition)) :
    ((reconcile now openOrders positions).left o).Coherent ↔
      o.ReconcileSound openOrders positions := by
  unfold Method.left
  cases needs : o.needsReconciliation with
  | false =>
    rw [exec_reconcile_settled now needs]
    refine ⟨fun _ => ?_, fun _ => coherent⟩
    unfold ReconcileSound
    split
    · simp [needs]
    · exact True.intro
  | true =>
    have unread : (∃ e, openOrders = .error e) ∨ (∃ e, positions = .error e) →
        (((reconcile now openOrders positions).exec o).2.Coherent ↔
          o.ReconcileSound openOrders positions) := fun unread => by
      obtain ⟨e, raised⟩ := exec_reconcile_unread now needs openOrders positions unread
      rw [raised]
      exact ⟨fun _ => reconcileSound_of_unread o unread, fun _ => coherent⟩
    cases openOrders with
    | error e => exact unread (.inl ⟨e, rfl⟩)
    | ok openOrders =>
      cases positions with
      | error e => exact unread (.inr ⟨e, rfl⟩)
      | ok positions =>
        rw [exec_reconcile_read now needs]
        exact (coherent_settle_iff now coherent needs openOrders positions).trans
          ⟨fun sound _ => sound, fun sound => sound needs⟩

end Calls

end ManagedOrder

def OrderCall.Sound (o : ManagedOrder) : OrderCall → Prop
  | .submit _ _ _ => True
  | .close _ _ _ => True
  | .report now quantity price deal commission swap fillSource =>
    o.ReportSound
      (ManagedOrder.executionReport now quantity price deal commission swap fillSource)
  | .cancel _ _ answer => o.CancelSound answer
  | .modify _ _ _ _ _ => True
  | .reconcile _ openOrders positions => o.ReconcileSound openOrders positions
  | .expire _ => True

theorem OrderCall.coherent_body_iff {o : ManagedOrder} (coherent : o.Coherent) (c : OrderCall) :
    (c.body.left o).Coherent ↔ c.Sound o := by
  cases c with
  | submit now spec answer =>
    exact iff_of_true
      (ManagedOrder.coherent_send now coherent (ManagedOrder.submit_cases o now spec answer))
      True.intro
  | close now brokerPositionId answer =>
    exact iff_of_true (ManagedOrder.coherent_send now coherent
      (ManagedOrder.close_cases o now brokerPositionId answer)) True.intro
  | report now quantity price deal commission swap fillSource =>
    have same : (OrderCall.report now quantity price deal commission swap fillSource).body.left o =
        (ManagedOrder.applyExecutionReport now quantity price deal commission swap
          fillSource).left o := by
      exact congrArg Prod.snd (Method.exec_discard _ _)
    rw [same]
    exact ManagedOrder.coherent_report_iff now coherent quantity price deal commission swap
      fillSource
  | cancel now reason answer => exact ManagedOrder.coherent_cancel_iff now coherent reason answer
  | modify now approval stopLoss takeProfit answer =>
    exact iff_of_true
      (ManagedOrder.coherent_modify now coherent approval stopLoss takeProfit answer) True.intro
  | reconcile now openOrders positions =>
    exact ManagedOrder.coherent_reconcile_iff now coherent openOrders positions
  | expire now => exact iff_of_true (ManagedOrder.coherent_expire now coherent) True.intro

namespace OrderManager

def Coherent (m : OrderManager) : Prop := ∀ id o, m.orders id = some o → o.Coherent

def Sound (m : OrderManager) : ManagerEvent → Prop
  | .create _ _ _ => True
  | .call id c => ∀ o, m.orders id = some o → c.Sound o

theorem coherent_newOrder (m : OrderManager) (approval : Approval) (args : CreateArgs)
    (volume : ℚ) (positive : 0 < volume) (now : Time) :
    (m.newOrder approval args volume positive now).Coherent :=
  (ManagedOrder.coherent_of rfl rfl).mpr rfl

theorem coherent_update {m : OrderManager} (coherent : m.Coherent) (id : String)
    (o : ManagedOrder) (byIntent : String → Option String) :
    Coherent { m with orders := Function.update m.orders id (some o), byIntent } ↔
      o.Coherent := by
  constructor
  · intro after
    exact after id o (by simp)
  · intro changed id' o' held
    by_cases same : id' = id
    · subst same
      have is : o = o' := by simpa using held
      exact is ▸ changed
    · exact coherent id' o' (by simpa [Function.update_of_ne same] using held)

theorem coherent_step_iff {m t : OrderManager} {e : ManagerEvent} (coherent : m.Coherent)
    (taken : m.step e = some t) : t.Coherent ↔ m.Sound e := by
  cases e with
  | create approval args now =>
    obtain ⟨_, rfl⟩ := step_create taken
    refine iff_of_true ?_ True.intro
    rcases create_left m approval args now with same | ⟨volume, positive, registered⟩
    · rwa [same]
    · rw [registered]
      exact (coherent_update coherent _ _ _).mpr (coherent_newOrder m approval args _ positive now)
  | call id c =>
    obtain ⟨o, held, rfl⟩ := step_call taken
    rw [coherent_update coherent id _ m.byIntent,
      OrderCall.coherent_body_iff (coherent id o held) c]
    refine ⟨fun sound o' held' => ?_, fun sound => sound o held⟩
    rw [held, Option.some.injEq] at held'
    exact held' ▸ sound

theorem sound_of_step_none {m : OrderManager} {e : ManagerEvent} (blocked : m.step e = none) :
    m.Sound e := by
  cases e with
  | create approval args now => exact True.intro
  | call id c =>
    intro o held
    rw [step, held] at blocked
    exact absurd blocked (by simp)

theorem coherent_fresh (mode : Mode) (broker : Option String) : (fresh mode broker).Coherent :=
  fun _ _ held => absurd held (by simp [fresh])

/-- A manager's orders are coherent all along a sequence of events exactly when each event of it
was sound where it was taken. -/
theorem along_coherent_iff_meets_sound (mode : Mode) (broker : Option String)
    (events : List ManagerEvent) :
    Run.Along step Coherent (fresh mode broker) events ↔
      Run.Meets step Sound (fresh mode broker) events :=
  Run.along_iff_meets (fun _ _ _ coherent taken => coherent_step_iff coherent taken)
    (fun _ _ blocked => sound_of_step_none blocked) (coherent_fresh mode broker)

def refusedCancel : List ManagerEvent :=
  [.create (plainApproval "EURUSD" "buy" 100) (plainArgs "intent" "order") 0,
    .call "order" (.submit 1 (.ok (some (plainSymbol "EURUSD")))
      (.ok { OrderResult.bare .accepted [] with
        orderId := some "7", filledVolume := some (.finite 40), fillPrice := some (.finite 1) })),
    .call "order" (.cancel 2 [] (.ok (OrderResult.bare .rejected [])))]

theorem refusedCancel_order :
    ((Run.exec step (fresh .demo none) refusedCancel).bind fun m =>
      (m.orders "order").map fun o => (o.status, o.filledQuantity)) = some (.accepted, 40) := by
  decide +kernel

/-- Not every sequence of calls keeps every order coherent. -/
theorem not_forall_along_coherent :
    ¬ ∀ mode broker events, Run.Along step Coherent (fresh mode broker) events := by
  intro always
  obtain ⟨m, run, last⟩ := Option.bind_eq_some_iff.mp refusedCancel_order
  obtain ⟨o, held, shows⟩ := Option.map_eq_some_iff.mp last
  obtain ⟨status, filled⟩ := Prod.mk.inj shows
  have coherent := (always .demo none refusedCancel).last run "order" o held
  have untouched := coherent.untouched (by rw [status]; decide)
  rw [untouched] at filled
  exact absurd filled (by decide +kernel)

end OrderManager

end TradeResearch.Oms
