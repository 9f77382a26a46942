import TradeResearch.Oms.Effects

/-!
# Recording a fill, and a fill that cannot be recorded

`record_fill` writes the book and then asks whether the order may move; a move that is refused
leaves the fill in the book, and the same report is then taken for a deal that was recorded.

* `Atomic` is what is asked of a body that raises.
* `atomic_recordFill`, `atomic_report`: when `record_fill` and `apply_execution_report` are
  atomic.
-/

namespace TradeResearch.Oms

open ManagedOrder

def Atomic (body : Time → Method Exn ManagedOrder Bool) (now : Time) (o : ManagedOrder) : Prop :=
  ∀ (e : Exn) (o' : ManagedOrder), (body now).exec o = (.error e, o') →
    (o'.book = o.book ∧ o'.status = o.status ∧ o'.transitions = o.transitions) ∧
      ∀ later, (body later).answer o' = .error e

def OrderStatus.recordsFills (s : OrderStatus) : Bool :=
  s ∈ [.submitted, .accepted, .partiallyFilled, .cancelRequested, .unknown]

theorem impliedStatus_mem_iff {s : OrderStatus} (b : FillBook) :
    impliedStatus b ∈ s.transitions ↔ s.recordsFills = true := by
  unfold impliedStatus
  cases b.complete with
  | true | false => cases s <;> decide

def Records (o : ManagedOrder) (quantity : ℚ) (deal : Option String) : Prop :=
  o.book.alreadyRecorded deal = true ∨ o.book.remainingQuantity < quantity ∨
    o.status.recordsFills = true

variable {o : ManagedOrder}

theorem atomic_of_refused {body : Time → Method Exn ManagedOrder Bool} {now : Time} (e : Exn)
    (refused : ∀ later, (body later).exec o = (.error e, o)) : Atomic body now o := by
  intro e' o' raised
  cases (refused now).symm.trans raised
  exact ⟨⟨rfl, rfl, rfl⟩, fun later => congrArg Prod.fst (refused later)⟩

theorem atomic_of_returned {body : Time → Method Exn ManagedOrder Bool} {now : Time} {b : Bool}
    {o' : ManagedOrder} (returned : (body now).exec o = (.ok b, o')) : Atomic body now o := by
  intro e o'' raised
  cases returned.symm.trans raised

theorem withFill_book_ne {f : FillRecord} (fits : f.quantity ≤ o.book.remainingQuantity) :
    (o.withFill f fits).book ≠ o.book := by
  intro same
  have longer : (o.withFill f fits).book.fills.length = o.book.fills.length + 1 := by
    simp [FillBook.append]
  rw [same] at longer
  omega

theorem atomic_iff {body : Time → Method Exn ManagedOrder Bool} {fill : Time → FillRecord}
    {source : Source} {quantity : ℚ} {deal : Option String} (now : Time)
    (runs : ∀ later, (body later).exec o = (recordFill (fill later) later source).exec o)
    (quantities : ∀ later, (fill later).quantity = quantity)
    (deals : ∀ later, (fill later).brokerDealId = deal) :
    Atomic body now o ↔ Records o quantity deal := by
  unfold Records
  cases known : o.book.alreadyRecorded deal with
  | true =>
    rw [← deals now] at known
    have returned := (runs now).trans (exec_recordFill_recorded now source known)
    exact iff_of_true (atomic_of_returned returned) (Or.inl rfl)
  | false =>
    have fresh (later : Time) : o.book.alreadyRecorded (fill later).brokerDealId = false := by
      rw [deals later]
      exact known
    by_cases fits : quantity ≤ o.book.remainingQuantity
    · have room : (fill now).quantity ≤ o.book.remainingQuantity := (quantities now).trans_le fits
      by_cases legal : impliedStatus (o.book.append (fill now) room) ∈ o.status.transitions
      · have returned := (runs now).trans
          (exec_recordFill_applied now source (fresh now) room legal)
        exact iff_of_true (atomic_of_returned returned)
          (Or.inr (Or.inr ((impliedStatus_mem_iff _).mp legal)))
      · have raised := (runs now).trans
          (exec_recordFill_illegal now source (fresh now) room legal)
        refine iff_of_false (fun atomic => withFill_book_ne room (atomic _ _ raised).1.1) ?_
        rintro (same | overfull | records)
        · cases same
        · exact absurd fits (not_le.mpr overfull)
        · exact legal ((impliedStatus_mem_iff _).mpr records)
    · have overfull (later : Time) : o.book.remainingQuantity < (fill later).quantity := by
        rw [quantities later]
        exact not_le.mp fits
      refine iff_of_true (atomic_of_refused (o.book.overfill (fill now)) fun later => ?_)
        (Or.inr (Or.inl (not_le.mp fits)))
      rw [runs later, exec_recordFill_overfill later source (fresh later) (overfull later)]
      unfold FillBook.overfill
      rw [quantities later, quantities now]

theorem atomic_recordFill (f : FillRecord) (time : Time) (source : Source) :
    Atomic (fun later => recordFill f later source) time o ↔
      Records o f.quantity f.brokerDealId :=
  atomic_iff time (fun _ => rfl) (fun _ => rfl) fun _ => rfl

section Reports

variable (quantity price : Figure) (deal : Option String) (commission swap : ℚ)
  (fillSource : String)

theorem make_executionReport_error {now later : Time} {e : Exn}
    (refused : (executionReport now quantity price deal commission swap fillSource).make =
      .error e) :
    (executionReport later quantity price deal commission swap fillSource).make = .error e := by
  unfold FillReport.make at refused ⊢
  split at refused
  · next none =>
    cases refused
    split
    · rfl
    · next q some =>
      cases none.symm.trans some
  · next q some =>
    split at refused
    · next none' =>
      cases refused
      split
      · next none =>
        cases none.symm.trans some
      · split
        · rfl
        · next p some' =>
          cases none'.symm.trans some'
    · cases refused

def ReportRecords (o : ManagedOrder) (quantity price : Figure) (deal : Option String) : Prop :=
  o.status = .intent ∨ o.status = .submitting ∨ quantity.positive? = none ∨
    price.positive? = none ∨ ∃ q, quantity = .finite q ∧ Records o q deal

theorem atomic_report (now : Time) :
    Atomic (fun later => applyExecutionReport later quantity price deal commission swap fillSource)
      now o ↔ ReportRecords o quantity price deal := by
  by_cases early : o.status = .intent ∨ o.status = .submitting
  · let unacknowledged : Exn := .orderRefused
      (Text.lit (s!"an order in `{o.status.name}` has not been acknowledged; a fill for it " ++
        "is a disagreement with the venue and must be reconciled, not applied"))
    refine iff_of_true (atomic_of_refused unacknowledged fun later => ?_) (early.imp_right Or.inl)
    unfold applyExecutionReport
    rw [Method.exec_get_bind, if_pos early]
    rfl
  · have recorded (later : Time) :=
      exec_applyExecutionReport o later quantity price deal commission swap fillSource early
    obtain ⟨intent, submitting⟩ := not_or.mp early
    unfold ReportRecords
    rw [or_iff_right intent, or_iff_right submitting]
    by_cases figures : quantity.positive? = none ∨ price.positive? = none
    · rcases (executionReport now quantity price deal commission swap fillSource).make_cases with
        ⟨⟨priced, valued⟩, -⟩ | ⟨-, reason, refused⟩
      · rcases figures with none | none
        · exact absurd none (Option.isSome_iff_ne_none.mp priced)
        · exact absurd none (Option.isSome_iff_ne_none.mp valued)
      · refine iff_of_true (atomic_of_refused (.fillError reason) fun later => ?_)
          (figures.imp_right Or.inl)
        rw [recorded later, record, make_executionReport_error quantity price deal commission swap
          fillSource refused]
        rfl
    · obtain ⟨priced, valued⟩ := not_or.mp figures
      rw [or_iff_right priced, or_iff_right valued]
      have each (later : Time) := FillReport.make_of_valid
        (r := executionReport later quantity price deal commission swap fillSource)
        ⟨Option.isSome_iff_ne_none.mpr priced, Option.isSome_iff_ne_none.mpr valued⟩
      choose fill made using each
      have is := (FillReport.make_eq (made now)).1
      have runs (later : Time) :
          (applyExecutionReport later quantity price deal commission swap fillSource).exec o =
            (recordFill (fill later) later .broker).exec o := by
        rw [recorded later, record, made later]
      have quantities (later : Time) : (fill later).quantity = (fill now).quantity :=
        Figure.finite.inj ((FillReport.make_eq (made later)).1.symm.trans is)
      rw [atomic_iff now runs quantities fun later => (FillReport.make_eq (made later)).2.2]
      constructor
      · exact fun records => ⟨_, is, records⟩
      · rintro ⟨q, is', records⟩
        cases is.symm.trans is'
        exact records

end Reports

/-- When recording a fill is atomic, for every order, every fill and every report. -/
theorem atomic_iff_records (o : ManagedOrder) (now : Time) :
    (∀ (f : FillRecord) (source : Source),
      Atomic (fun later => recordFill f later source) now o ↔
        Records o f.quantity f.brokerDealId) ∧
      ∀ (quantity price : Figure) (deal : Option String) (commission swap : ℚ)
        (fillSource : String),
        Atomic (fun later =>
          applyExecutionReport later quantity price deal commission swap fillSource) now o ↔
          ReportRecords o quantity price deal :=
  ⟨fun f source => atomic_recordFill f now source,
    fun quantity price deal commission swap fillSource =>
      atomic_report quantity price deal commission swap fillSource now⟩

def cancelledOrder : ManagedOrder where
  id := "o"
  clientOrderId := "c"
  accountId := "a"
  symbol := "EURUSD"
  side := "buy"
  quantity := 2
  mode := .demo
  createdAt := 0
  orderType := "market"
  timeInForce := "gtc"
  status := .cancelled
  brokerOrderId := some "7"
  broker := none
  requestedPrice := none
  stopLoss := none
  takeProfit := none
  signalId := none
  strategyId := none
  botId := none
  riskDecisionId := none
  expiresAt := none
  submittedAt := none
  acknowledgedAt := none
  filledAt := none
  cancelledAt := some 1
  rejectReason := none
  errorCode := none
  transitions := []
  book := FillBook.empty 2 (by norm_num)
  book_requested := rfl

/-- The late report raises, and is dismissed as a duplicate when it is replayed. -/
theorem not_forall_atomic :
    ¬ ∀ (o : ManagedOrder) (now : Time) (quantity price : Figure) (deal : Option String)
      (commission swap : ℚ) (fillSource : String),
      Atomic (fun later =>
        applyExecutionReport later quantity price deal commission swap fillSource) now o := by
  intro always
  have records := (atomic_report (.finite 1) (.finite 1) (some "d") 0 0 "broker" 2).mp
    (always cancelledOrder 2 (.finite 1) (.finite 1) (some "d") 0 0 "broker")
  rcases records with intent | submitting | none | none | ⟨q, is, recorded | overfull | records⟩
  · cases intent
  · cases submitting
  · exact absurd none (by decide)
  · exact absurd none (by decide)
  · exact absurd recorded (by decide)
  · cases is
    exact absurd overfull (by decide +kernel)
  · exact absurd records (by decide)

end TradeResearch.Oms
