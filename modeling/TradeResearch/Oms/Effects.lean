import TradeResearch.Oms.Service

/-!
# What the lifecycle methods do to an order

One equation or inversion for each method of `Oms/Service.lean`, so that no later proof unfolds a
method body. The orders a method can leave behind have names of their own (`parked`, `failedAs`,
`refused`, `taken`), each with its state and its book.

* `RecordCase` lists what recording a report can come to.
* `applyAnswer_ok_iff` says which answers can be written on an order.
* `exec_applyResult_*` read a venue's answer in the state an order is sent from, and
  `exec_applyResult_illegal` in any other.
* `SameOrder` is the part of an order no method rewrites.
-/

namespace TradeResearch.Oms

open Brokers Risk

namespace OrderStatus

theorem submitted_mem_transitions {s : OrderStatus} :
    .submitted ∈ s.transitions ↔ s = .intent ∨ s = .submitting := by
  cases s <;> decide

end OrderStatus

namespace ManagedOrder

/-! ## Shared endings -/

section Endings

variable (o : ManagedOrder) (now : Time) (reason : Text) (code : String)

def failedAs : ManagedOrder :=
  { o.moved .failed now .broker (Text.take 500 reason) none with
    rejectReason := some (Text.take 500 reason), errorCode := some code }

@[simp] theorem failedAs_status : (o.failedAs now reason code).status = .failed := by
  simp [failedAs]

@[simp] theorem failedAs_book : (o.failedAs now reason code).book = o.book := by
  simp [failedAs]

@[simp] theorem failedAs_brokerOrderId :
    (o.failedAs now reason code).brokerOrderId = o.brokerOrderId := by
  simp [failedAs]

theorem exec_fail_of_mem {o : ManagedOrder} (legal : .failed ∈ o.status.transitions) :
    (fail now reason code).exec o = (.ok (), o.failedAs now reason code) := by
  unfold fail
  rw [Method.exec_bind_ok (exec_move_of_mem now .broker (Text.take 500 reason) none legal),
    Method.exec_modify]
  rfl

theorem exec_fail_of_not_mem {o : ManagedOrder} (illegal : .failed ∉ o.status.transitions) :
    (fail now reason code).exec o =
      (.error (.illegalOrderTransition o.status .failed), o) := by
  exact Method.exec_bind_error
    (exec_move_of_not_mem now .broker (Text.take 500 reason) none illegal) _

theorem exec_tryMove (wanted : OrderStatus) (source : Source) :
    (tryMove wanted now source reason).exec o =
      (.ok (), if wanted ∈ o.status.transitions then o.moved wanted now source reason none
        else o) := by
  unfold tryMove
  rw [Method.exec_tryCatch]
  by_cases legal : wanted ∈ o.status.transitions
  · rw [exec_move_of_mem now source reason none legal, if_pos legal]
  · rw [exec_move_of_not_mem now source reason none legal, if_neg legal]
    rfl

def parked : ManagedOrder :=
  let after :=
    if .unknown ∈ o.status.transitions then
      o.moved .unknown now .broker (Text.take 500 reason) none
    else o
  { after with
    errorCode := if truthy after.errorCode then after.errorCode else some "UNKNOWN_VENUE_STATE" }

theorem parked_status :
    (o.parked now reason).status =
      if .unknown ∈ o.status.transitions then .unknown else o.status := by
  unfold parked
  split <;> simp

@[simp] theorem parked_book : (o.parked now reason).book = o.book := by
  unfold parked
  split <;> simp

theorem exec_parkUnknown : (parkUnknown now reason).exec o = (.ok (), o.parked now reason) := by
  unfold parkUnknown
  rw [Method.exec_bind_ok (exec_tryMove o now (Text.take 500 reason) .unknown .broker),
    Method.exec_modify]
  rfl

end Endings

/-! ## Recording a report -/

inductive RecordCase (report : FillReport) (o : ManagedOrder) :
    Except Exn Bool × ManagedOrder → Prop
  /-- The figures of the report are refused. -/
  | invalid (reason : Text) (refused : ¬ report.Valid) :
    RecordCase report o (.error (.fillError reason), o)
  /-- The book has the deal. -/
  | recorded (f : FillRecord) (made : report.make = .ok f)
      (known : o.book.alreadyRecorded report.brokerDealId = true) :
    RecordCase report o (.ok false, o)
  /-- The book has no room for it. -/
  | overfilled (f : FillRecord) (made : report.make = .ok f)
      (fresh : o.book.alreadyRecorded report.brokerDealId = false)
      (overfull : o.book.remainingQuantity < f.quantity) :
    RecordCase report o (.error (o.book.overfill f), o)
  /-- Written, and the order moved to the state its book implies. -/
  | applied (f : FillRecord) (made : report.make = .ok f)
      (fresh : o.book.alreadyRecorded report.brokerDealId = false)
      (fits : f.quantity ≤ o.book.remainingQuantity)
      (legal : impliedStatus (o.book.append f fits) ∈ o.status.transitions)
      (time : Time) (reason : Text) :
    RecordCase report o (.ok true,
      (o.withFill f fits).moved (impliedStatus (o.book.append f fits)) time .broker reason none)
  /-- Written, and the move to that state refused. -/
  | stranded (f : FillRecord) (made : report.make = .ok f)
      (fresh : o.book.alreadyRecorded report.brokerDealId = false)
      (fits : f.quantity ≤ o.book.remainingQuantity)
      (illegal : impliedStatus (o.book.append f fits) ∉ o.status.transitions) :
    RecordCase report o
      (.error (.illegalOrderTransition o.status (impliedStatus (o.book.append f fits))),
        o.withFill f fits)

theorem impliedStatus_mem_transitions {s : OrderStatus}
    (live : s = .accepted ∨ s = .unknown) (b : FillBook) : impliedStatus b ∈ s.transitions := by
  unfold impliedStatus
  rcases live with rfl | rfl <;> split <;> decide

theorem record_cases (report : FillReport) (now : Time) (o : ManagedOrder) :
    RecordCase report o ((record report now).exec o) := by
  unfold record
  rcases report.make_cases with ⟨_, f, made, _, _, deal⟩ | ⟨refused, reason, made⟩
  · rw [made]
    cases known : o.book.alreadyRecorded f.brokerDealId with
    | true =>
      rw [exec_recordFill_recorded now .broker known]
      exact .recorded f made (deal ▸ known)
    | false =>
      by_cases fits : f.quantity ≤ o.book.remainingQuantity
      · by_cases legal : impliedStatus (o.book.append f fits) ∈ o.status.transitions
        · rw [exec_recordFill_applied now .broker known fits legal]
          exact .applied f made (deal ▸ known) fits legal _ _
        · rw [exec_recordFill_illegal now .broker known fits legal]
          exact .stranded f made (deal ▸ known) fits legal
      · rw [exec_recordFill_overfill now .broker known (not_le.mp fits)]
        exact .overfilled f made (deal ▸ known) (not_le.mp fits)
  · rw [made]
    exact .invalid reason refused

def Takes (b : FillBook) (report : FillReport) : Prop :=
  ∃ f, report.make = .ok f ∧
    (b.alreadyRecorded report.brokerDealId = true ∨ f.quantity ≤ b.remainingQuantity)

theorem record_ok_iff {o : ManagedOrder} (live : o.status = .accepted ∨ o.status = .unknown)
    (report : FillReport) (now : Time) :
    (∃ applied, ((record report now).exec o).1 = .ok applied) ↔ Takes o.book report := by
  generalize ran : (record report now).exec o = out
  have outcome := record_cases report now o
  rw [ran] at outcome
  cases outcome with
  | invalid reason refused =>
    refine iff_of_false (by simp) ?_
    rintro ⟨f, made, _⟩
    exact refused (FillReport.valid_of_make made)
  | recorded f made known => exact iff_of_true ⟨false, rfl⟩ ⟨f, made, .inl known⟩
  | overfilled f made fresh overfull =>
    refine iff_of_false (by simp) ?_
    rintro ⟨g, made', known | fits⟩
    · rw [known] at fresh
      cases fresh
    · rw [made] at made'
      exact absurd (Except.ok.inj made' ▸ fits) (not_le.mpr overfull)
  | applied f made fresh fits legal time reason =>
    exact iff_of_true ⟨true, rfl⟩ ⟨f, made, .inr fits⟩
  | stranded f made fresh fits illegal =>
    exact absurd (impliedStatus_mem_transitions live _) illegal

/-! ## The venue's answer -/

section Answers

variable (o : ManagedOrder) (now : Time) (result : OrderResult)

def named : ManagedOrder :=
  if truthy result.orderId then { o with brokerOrderId := result.orderId } else o

@[simp] theorem named_status : (o.named result).status = o.status := by
  unfold named
  split <;> rfl

@[simp] theorem named_book : (o.named result).book = o.book := by
  unfold named
  split <;> rfl

def refused : ManagedOrder :=
  { ((o.named result).moved .submitted now .pipeline (Text.lit "transmitted")
      result.retcode).moved .rejected now .broker (result.detail.take 500) result.retcode with
    rejectReason := some (result.detail.take 500)
    errorCode := result.retcode.map fun code => toString code }

@[simp] theorem refused_status : (o.refused now result).status = .rejected := by
  simp [refused]

@[simp] theorem refused_book : (o.refused now result).book = o.book := by
  simp [refused]

def taken : ManagedOrder :=
  ((o.named result).moved .submitted now .pipeline (Text.lit "transmitted")
    result.retcode).moved .accepted now .broker
      ((result.detail.take 500).orElse (Text.lit "accepted by the venue")) result.retcode

@[simp] theorem taken_status : (o.taken now result).status = .accepted := by
  simp [taken]

@[simp] theorem taken_book : (o.taken now result).book = o.book := by
  simp [taken]

theorem exec_applyResult :
    (applyResult now result).exec o = (applyVerdict now result).exec (o.named result) := by
  unfold applyResult named
  by_cases present : truthy result.orderId = true
  · rw [if_pos present, if_pos present]
    rfl
  · rw [if_neg present, if_neg present]

theorem exec_applyResult_unknown (unclear : result.status = .unknown) :
    (applyResult now result).exec o =
      (.ok (), (o.named result).parked now
        (result.detail.orElse (Text.lit "the venue's answer was unclear"))) := by
  rw [exec_applyResult, applyVerdict, unclear]
  exact exec_parkUnknown _ _ _

theorem exec_applyResult_illegal (clear : result.status ≠ .unknown)
    (elsewhere : .submitted ∉ o.status.transitions) :
    (applyResult now result).exec o =
      (.error (.illegalOrderTransition o.status .submitted), o.named result) := by
  have stays := exec_move_of_not_mem now .pipeline (Text.lit "transmitted") result.retcode
    (show .submitted ∉ (o.named result).status.transitions by rwa [named_status])
  rw [named_status] at stays
  cases verdict : result.status with
  | unknown => exact absurd verdict clear
  | rejected | accepted =>
    rw [exec_applyResult, applyVerdict, verdict]
    exact Method.exec_bind_error stays _

theorem exec_transmitted (sending : .submitted ∈ o.status.transitions) :
    (move .submitted now .pipeline (Text.lit "transmitted") result.retcode).exec (o.named result) =
      (.ok (), (o.named result).moved .submitted now .pipeline (Text.lit "transmitted")
        result.retcode) :=
  exec_move_of_mem now .pipeline _ _ (by rwa [named_status])

theorem exec_applyResult_rejected (verdict : result.status = .rejected)
    (sending : .submitted ∈ o.status.transitions) :
    (applyResult now result).exec o = (.ok (), o.refused now result) := by
  rw [exec_applyResult, applyVerdict, verdict]
  rw [Method.exec_bind_ok (exec_transmitted o now result sending),
    Method.exec_bind_ok (exec_move_of_mem now .broker
    (result.detail.take 500) result.retcode (by rw [moved_status]; decide)), Method.exec_modify]
  rfl

theorem exec_applyResult_accepted (verdict : result.status = .accepted)
    (sending : .submitted ∈ o.status.transitions) (unfilled : resultFill result now = none) :
    (applyResult now result).exec o = (.ok (), o.taken now result) := by
  rw [exec_applyResult, applyVerdict, verdict]
  rw [Method.exec_bind_ok (exec_transmitted o now result sending),
    Method.exec_bind_ok (exec_move_of_mem now .broker
    ((result.detail.take 500).orElse (Text.lit "accepted by the venue")) result.retcode
    (by rw [moved_status]; decide)), unfilled]
  rfl

theorem exec_applyResult_filled {report : FillReport} (verdict : result.status = .accepted)
    (sending : .submitted ∈ o.status.transitions) (fill : resultFill result now = some report) :
    (applyResult now result).exec o =
      (((record report now).exec (o.taken now result)).1.map fun _ => (),
        ((record report now).exec (o.taken now result)).2) := by
  rw [exec_applyResult, applyVerdict, verdict]
  rw [Method.exec_bind_ok (exec_transmitted o now result sending),
    Method.exec_bind_ok (exec_move_of_mem now .broker
    ((result.detail.take 500).orElse (Text.lit "accepted by the venue")) result.retcode
    (by rw [moved_status]; decide)), fill]
  exact Method.exec_discard _ _

theorem exec_applyAnswer_broker {type : String} {reason : Text}
    (legal : .failed ∈ o.status.transitions) :
    (applyAnswer now (.error (.brokerError type reason))).exec o =
      (.ok (), o.failedAs now (Exn.brokerError type reason).describe "BROKER_ERROR") :=
  exec_fail_of_mem now _ _ legal

theorem exec_applyAnswer_broker_illegal {type : String} {reason : Text}
    (illegal : .failed ∉ o.status.transitions) :
    (applyAnswer now (.error (.brokerError type reason))).exec o =
      (.error (.illegalOrderTransition o.status .failed), o) :=
  exec_fail_of_not_mem now _ _ illegal

theorem exec_applyAnswer_raised {e : Exn} (unsure : ∀ type reason, e ≠ .brokerError type reason) :
    (applyAnswer now (.error e)).exec o = (.ok (), o.parked now e.describe) := by
  cases e with
  | brokerError type reason => exact absurd rfl (unsure type reason)
  | illegalOrderTransition _ _ | fillError _ | orderRefused _ | reconciliationRequired _ =>
      exact exec_parkUnknown _ _ _
  | other _ _ => exact exec_parkUnknown _ _ _

def Recordable (now : Time) (o : ManagedOrder) : Answer OrderResult → Prop
  | .error e => e.broker = true → .failed ∈ o.status.transitions
  | .ok result =>
    (result.status ≠ .unknown → .submitted ∈ o.status.transitions) ∧
      (result.status = .accepted →
        ∀ report, resultFill result now = some report → Takes o.book report)

theorem applyAnswer_ok_iff (answer : Answer OrderResult) :
    ((applyAnswer now answer).exec o).1 = .ok () ↔ Recordable now o answer := by
  cases answer with
  | error e =>
    by_cases sure : e.broker = true
    · cases e <;> try cases sure
      next type reason =>
      by_cases legal : .failed ∈ o.status.transitions
      · rw [exec_applyAnswer_broker o now legal]
        exact iff_of_true rfl fun _ => legal
      · rw [exec_applyAnswer_broker_illegal o now legal]
        exact iff_of_false (by simp) fun recordable => legal (recordable rfl)
    · rw [exec_applyAnswer_raised o now (by rintro type reason rfl; exact sure rfl)]
      exact iff_of_true rfl fun yes => absurd yes sure
  | ok result =>
    show ((applyResult now result).exec o).1 = .ok () ↔ (_ ∧ _)
    cases verdict : result.status with
    | unknown =>
      rw [exec_applyResult_unknown o now result verdict]
      exact iff_of_true rfl ⟨fun clear => absurd rfl clear, fun other => by cases other⟩
    | rejected =>
      by_cases sending : .submitted ∈ o.status.transitions
      · rw [exec_applyResult_rejected o now result verdict sending]
        exact iff_of_true rfl ⟨fun _ => sending, fun other => by cases other⟩
      · rw [exec_applyResult_illegal o now result (by rw [verdict]; decide) sending]
        exact iff_of_false (by simp) fun recordable => sending (recordable.1 (by decide))
    | accepted =>
      by_cases sending : .submitted ∈ o.status.transitions
      · cases fill : resultFill result now with
        | none =>
          rw [exec_applyResult_accepted o now result verdict sending fill]
          exact iff_of_true rfl ⟨fun _ => sending, fun _ report filled => by cases filled⟩
        | some report =>
          have recorded := record_ok_iff (o := o.taken now result)
            (.inl (taken_status o now result)) report now
          rw [taken_book] at recorded
          rw [exec_applyResult_filled o now result verdict sending fill]
          constructor
          · intro returned
            refine ⟨fun _ => sending, fun _ report' same =>
              Option.some.inj same ▸ recorded.mp ?_⟩
            cases ran : ((record report now).exec (o.taken now result)).1 with
            | error e =>
              rw [ran] at returned
              cases returned
            | ok applied => exact ⟨applied, rfl⟩
          · rintro ⟨_, takes⟩
            obtain ⟨applied, ran⟩ := recorded.mpr (takes rfl report rfl)
            rw [ran]
            rfl
      · rw [exec_applyResult_illegal o now result (by rw [verdict]; decide) sending]
        exact iff_of_false (by simp) fun recordable => sending (recordable.1 (by decide))

end Answers

/-! ## Sending -/

section Sending

variable (o : ManagedOrder) (now : Time)

def sending (reason : Text) : ManagedOrder := o.moved .submitting now .pipeline reason none

@[simp] theorem sending_status (reason : Text) : (o.sending now reason).status = .submitting := by
  simp [sending]

@[simp] theorem sending_book (reason : Text) : (o.sending now reason).book = o.book := by
  simp [sending]

@[simp] theorem sending_brokerOrderId (reason : Text) :
    (o.sending now reason).brokerOrderId = o.brokerOrderId := by
  simp [sending]

def expiredUnsent : ManagedOrder :=
  { o.moved .failed now .expiry
      (Text.lit "the order expired before it was sent; nothing was transmitted") none with
    errorCode := some "EXPIRED_BEFORE_SUBMIT" }

@[simp] theorem expiredUnsent_status : (o.expiredUnsent now).status = .failed := by
  simp [expiredUnsent]

@[simp] theorem expiredUnsent_book : (o.expiredUnsent now).book = o.book := by
  simp [expiredUnsent]

@[simp] theorem expiredUnsent_brokerOrderId :
    (o.expiredUnsent now).brokerOrderId = o.brokerOrderId := by
  simp [expiredUnsent]

inductive BeginCase (o : ManagedOrder) (now : Time) : Except Exn Bool × ManagedOrder → Prop
  | refused (reason : Text) (elsewhere : o.status ≠ .intent) :
    BeginCase o now (.error (.orderRefused reason), o)
  | expired (created : o.status = .intent) : BeginCase o now (.ok false, o.expiredUnsent now)
  | goes (created : o.status = .intent) : BeginCase o now (.ok true, o)

theorem submitBegin_cases : BeginCase o now ((submitBegin now).exec o) := by
  unfold submitBegin
  rw [Method.exec_get_bind]
  by_cases created : o.status = .intent
  · rw [if_neg (not_not.mpr created)]
    by_cases late : (o.expiresAt.any fun t => decide (t ≤ now)) = true
    · rw [if_pos late]
      have fails := exec_move_of_mem now .expiry
        (Text.lit "the order expired before it was sent; nothing was transmitted") none
        (show .failed ∈ o.status.transitions by rw [created]; decide)
      rw [Method.exec_bind_ok fails]
      exact .expired created
    · rw [if_neg late]
      exact .goes created
  · rw [if_pos created]
    exact .refused _ created

inductive SpecCase (o : ManagedOrder) (now : Time) : Except Exn Bool × ManagedOrder → Prop
  | refused (reason : Text) (code : String) : SpecCase o now (.ok false, o.failedAs now reason code)
  | sends (reason : Text) : SpecCase o now (.ok true, o.sending now reason)

theorem submitSpec_cases {o : ManagedOrder} (created : o.status = .intent)
    (spec : Answer (Option SymbolInfo)) : SpecCase o now ((submitSpec now spec).exec o) := by
  have mayFail : .failed ∈ o.status.transitions := by rw [created]; decide
  have maySend : .submitting ∈ o.status.transitions := by rw [created]; decide
  unfold submitSpec
  rw [Method.exec_get_bind]
  cases spec with
  | error exc =>
    rw [Method.exec_bind_ok (exec_fail_of_mem now _ _ mayFail)]
    exact .refused _ _
  | ok info =>
    dsimp only
    by_cases fit : (validateOrder o.request info).isEmpty = true
    · rw [if_pos fit, Method.exec_bind_ok (exec_move_of_mem now .pipeline _ none maySend)]
      exact .sends _
    · rw [if_neg fit, Method.exec_bind_ok (exec_fail_of_mem now _ _ mayFail)]
      exact .refused _ _

inductive SendCase (o : ManagedOrder) (now : Time) (answer : Answer OrderResult) :
    Except Exn Unit × ManagedOrder → Prop
  | refused (reason : Text) : SendCase o now answer (.error (.orderRefused reason), o)
  | unsent (o' : ManagedOrder) (created : o.status = .intent) (failed : o'.status = .failed)
      (book : o'.book = o.book) (unnamed : o'.brokerOrderId = o.brokerOrderId) :
    SendCase o now answer (.ok (), o')
  | sent (reason : Text) (created : o.status = .intent) :
    SendCase o now answer ((applyAnswer now answer).exec (o.sending now reason))

theorem submit_cases (spec : Answer (Option SymbolInfo)) (answer : Answer OrderResult) :
    SendCase o now answer ((submit now spec answer).exec o) := by
  unfold submit
  rw [Method.exec_bind]
  generalize begin : (submitBegin now).exec o = out
  have first := submitBegin_cases o now
  rw [begin] at first
  cases first with
  | refused reason elsewhere => exact .refused reason
  | expired created => exact .unsent _ created (by simp) (by simp) (by simp)
  | goes created =>
    dsimp only
    rw [if_pos rfl, Method.exec_bind]
    generalize terms : (submitSpec now spec).exec o = out
    have second := submitSpec_cases now created spec
    rw [terms] at second
    cases second with
    | refused reason code => exact .unsent _ created (by simp) (by simp) (by simp)
    | sends reason => exact .sent reason created

theorem exec_closeBegin_of_created {o : ManagedOrder} {brokerPositionId : String}
    (created : o.status = .intent) (named : brokerPositionId ≠ "") :
    ∃ reason, (closeBegin now brokerPositionId).exec o = (.ok (), o.sending now reason) := by
  have marks := exec_move_of_mem now .pipeline
    (Text.lit "close persisted before transmission; a crash here is reconcilable") none
    (show .submitting ∈ o.status.transitions by rw [created]; decide)
  refine ⟨Text.lit "close persisted before transmission; a crash here is reconcilable", ?_⟩
  unfold closeBegin
  rw [Method.exec_get_bind, if_neg (not_not.mpr created), if_neg named]
  exact marks

theorem exec_closeBegin_refused {o : ManagedOrder} {brokerPositionId : String}
    (unfit : o.status ≠ .intent ∨ brokerPositionId = "") :
    ∃ reason, (closeBegin now brokerPositionId).exec o = (.error (.orderRefused reason), o) := by
  unfold closeBegin
  rw [Method.exec_get_bind]
  by_cases created : o.status = .intent
  · rw [if_neg (not_not.mpr created), if_pos (unfit.resolve_left (not_not.mpr created))]
    exact ⟨_, rfl⟩
  · rw [if_pos created]
    exact ⟨_, rfl⟩

theorem exec_close_of_created {o : ManagedOrder} {brokerPositionId : String}
    (created : o.status = .intent) (named : brokerPositionId ≠ "") (answer : Answer OrderResult) :
    ∃ reason, (close now brokerPositionId answer).exec o =
      (applyAnswer now answer).exec (o.sending now reason) := by
  obtain ⟨reason, begun⟩ := exec_closeBegin_of_created now created named
  exact ⟨reason, Method.exec_bind_ok begun _⟩

theorem exec_close_refused {o : ManagedOrder} {brokerPositionId : String}
    (unfit : o.status ≠ .intent ∨ brokerPositionId = "") (answer : Answer OrderResult) :
    ∃ reason, (close now brokerPositionId answer).exec o = (.error (.orderRefused reason), o) := by
  obtain ⟨reason, refused⟩ := exec_closeBegin_refused now unfit
  exact ⟨reason, Method.exec_bind_error refused _⟩

theorem close_cases (brokerPositionId : String) (answer : Answer OrderResult) :
    SendCase o now answer ((close now brokerPositionId answer).exec o) := by
  by_cases unfit : o.status ≠ .intent ∨ brokerPositionId = ""
  · obtain ⟨reason, refused⟩ := exec_close_refused now unfit answer
    rw [refused]
    exact .refused reason
  · obtain ⟨created, named⟩ := not_or.mp unfit
    obtain ⟨reason, sent⟩ := exec_close_of_created now (not_not.mp created) named answer
    rw [sent]
    exact .sent reason (not_not.mp created)

end Sending

section Reports

variable (o : ManagedOrder) (now : Time) (quantity price : Figure) (deal : Option String)
  (commission swap : ℚ) (fillSource : String)

theorem exec_applyExecutionReport_early (early : o.status = .intent ∨ o.status = .submitting) :
    ∃ reason,
      (applyExecutionReport now quantity price deal commission swap fillSource).exec o =
        (.error (.orderRefused reason), o) := by
  unfold applyExecutionReport
  rw [Method.exec_get_bind, if_pos early]
  exact ⟨_, rfl⟩

theorem exec_applyExecutionReport (known : ¬ (o.status = .intent ∨ o.status = .submitting)) :
    (applyExecutionReport now quantity price deal commission swap fillSource).exec o =
      (record (executionReport now quantity price deal commission swap fillSource) now).exec o := by
  unfold applyExecutionReport
  rw [Method.exec_get_bind, if_neg known]

end Reports

/-! ## Cancel -/

section Cancel

variable (o : ManagedOrder) (now : Time) (reason : Text)

def cancelling : ManagedOrder :=
  o.moved .cancelRequested now .operator
    ((reason.take 500).orElse (Text.lit "cancel requested")) none

@[simp] theorem cancelling_status : (o.cancelling now reason).status = .cancelRequested := by
  simp [cancelling]

@[simp] theorem cancelling_book : (o.cancelling now reason).book = o.book := by
  simp [cancelling]

def cancelVerdict : Answer OrderResult → OrderStatus
  | .error _ => .unknown
  | .ok result =>
    match result.status with
    | .unknown => .unknown
    | .rejected => .accepted
    | .accepted => .cancelled

theorem exec_cancelAnswer {o : ManagedOrder} (requested : o.status = .cancelRequested)
    (answer : Answer OrderResult) :
    ∃ o', (cancelAnswer now answer).exec o = (.ok (), o') ∧ o'.status = cancelVerdict answer ∧
      o'.book = o.book := by
  have mayPark : .unknown ∈ o.status.transitions := by rw [requested]; decide
  have parks : ∀ reason, ∃ o', (parkUnknown now reason).exec o = (.ok (), o') ∧
      o'.status = .unknown ∧ o'.book = o.book := fun reason =>
    ⟨_, exec_parkUnknown o now reason, by rw [parked_status, if_pos mayPark], parked_book _ _ _⟩
  have moves : ∀ wanted ∈ o.status.transitions, ∀ reason retcode, ∃ o',
      (move wanted now .broker reason retcode).exec o = (.ok (), o') ∧ o'.status = wanted ∧
        o'.book = o.book := fun wanted legal reason retcode =>
    ⟨_, exec_move_of_mem now .broker reason retcode legal, moved_status _ _ _ _ _ _,
      moved_book _ _ _ _ _ _⟩
  cases answer with
  | error e =>
    cases e with
    | brokerError _ _ | illegalOrderTransition _ _ | fillError _ | orderRefused _
    | reconciliationRequired _ | other _ _ => exact parks _
  | ok result =>
    cases verdict : result.status with
    | unknown =>
      simp only [cancelAnswer, cancelVerdict, verdict]
      exact parks _
    | rejected =>
      simp only [cancelAnswer, cancelVerdict, verdict]
      exact moves .accepted (by rw [requested]; decide) _ _
    | accepted =>
      simp only [cancelAnswer, cancelVerdict, verdict]
      exact moves .cancelled (by rw [requested]; decide) _ _

inductive CancelCase (o : ManagedOrder) (now : Time) (answer : Answer OrderResult) :
    Except Exn Unit × ManagedOrder → Prop
  | refused (e : Exn) (settled : .cancelRequested ∉ o.status.transitions) :
    CancelCase o now answer (.error e, o)
  | unnamed (o' : ManagedOrder) (live : .cancelRequested ∈ o.status.transitions)
      (noId : o.brokerOrderId = none) (status : o'.status = .unknown) (book : o'.book = o.book) :
    CancelCase o now answer (.ok (), o')
  | asked (id : String) (o' : ManagedOrder) (live : .cancelRequested ∈ o.status.transitions)
      (venueId : o.brokerOrderId = some id) (status : o'.status = cancelVerdict answer)
      (book : o'.book = o.book) :
    CancelCase o now answer (.ok (), o')

theorem cancel_cases (answer : Answer OrderResult) :
    CancelCase o now answer ((cancel now reason answer).exec o) := by
  unfold cancel cancelBegin
  rw [bind_assoc, Method.exec_get_bind]
  by_cases ended : o.terminal = true
  · rw [if_pos ended]
    refine .refused _ fun live => ?_
    rw [(OrderStatus.terminal_iff_transitions_nil o.status).mp ended] at live
    exact absurd live (by simp)
  rw [if_neg ended]
  by_cases needs : o.needsReconciliation = true
  · rw [if_pos needs]
    refine .refused _ fun live => ?_
    rcases OrderStatus.needsReconciliation_iff.mp needs with status | status <;>
      rw [status] at live <;> exact absurd live (by decide)
  rw [if_neg needs]
  by_cases live : .cancelRequested ∈ o.status.transitions
  · have requests := exec_move_of_mem (o := o) now .operator
      ((reason.take 500).orElse (Text.lit "cancel requested")) none live
    rw [bind_assoc, Method.exec_bind_ok requests]
    cases venueId : o.brokerOrderId with
    | none =>
      rw [if_pos (by simp), bind_assoc, Method.exec_bind_ok (exec_parkUnknown _ _ _)]
      refine .unnamed _ live venueId ?_ (by simp)
      rw [parked_status, moved_status]
      decide
    | some id =>
      obtain ⟨o', answered, status, book⟩ :=
        exec_cancelAnswer now (cancelling_status o now reason) answer
      show CancelCase o now answer ((cancelAnswer now answer).exec (o.cancelling now reason))
      rw [answered]
      exact .asked id _ live venueId status (by rw [book, cancelling_book])
  · dsimp only
    rw [bind_assoc, Method.exec_bind_error (exec_move_of_not_mem now .operator _ none live)]
    exact .refused _ live

end Cancel

/-! ## Modify and expire -/

section Levels

variable (o : ManagedOrder) (now : Time)

theorem validateApproval_keeps {σ : Type} {P : σ → Prop} (approval : Approval) :
    Method.Keeps P (validateApproval approval now) := by
  refine Method.Keeps.guard ?_
  exact Method.Keeps.ite (Method.Keeps.throw _) (Method.Keeps.pure _)

theorem validateBinding_keeps {σ : Type} {P : σ → Prop} (approval : Approval)
    (accountId orderType : String) (mode : Mode) :
    Method.Keeps P (validateBinding approval accountId orderType mode) := by
  exact Method.Keeps.ite (Method.Keeps.pure _) (Method.Keeps.throw _)

theorem modifyBegin_keeps {P : ManagedOrder → Prop} (approval : Approval) :
    Method.Keeps P (modifyBegin now approval) := by
  refine Method.Keeps.bind Method.Keeps.get fun o => ?_
  refine Method.Keeps.guard ?_
  refine Method.Keeps.guard ?_
  refine Method.Keeps.bind (validateApproval_keeps now approval) fun _ => ?_
  refine Method.Keeps.bind (validateBinding_keeps approval _ _ _) fun _ => ?_
  refine Method.Keeps.guard ?_
  exact Method.Keeps.ite (Method.Keeps.throw _) (Method.Keeps.pure _)

def AtMostParked (o o' : ManagedOrder) : Prop :=
  o'.book = o.book ∧
    (o'.status = o.status ∨ .unknown ∈ o.status.transitions ∧ o'.status = .unknown)

theorem parkUnknown_keeps (reason : Text) :
    Method.Keeps (AtMostParked o) (parkUnknown now reason) := by
  rintro s ⟨book, status⟩
  unfold Method.left
  rw [exec_parkUnknown]
  refine ⟨by rw [parked_book, book], ?_⟩
  rw [parked_status]
  split
  · next legal =>
    rcases status with same | ⟨mayPark, _⟩
    · exact .inr ⟨same ▸ legal, rfl⟩
    · exact .inr ⟨mayPark, rfl⟩
  · exact status

theorem modifyLevels_keeps (approval : Approval) (stopLoss takeProfit : Option ℚ)
    (answer : Answer OrderResult) :
    Method.Keeps (AtMostParked o) (modifyLevels now approval stopLoss takeProfit answer) := by
  have parksAndRaises : ∀ reason e, Method.Keeps (AtMostParked o)
      (do parkUnknown now reason; throw e : Method Exn ManagedOrder Unit) := fun reason e =>
    Method.Keeps.bind (parkUnknown_keeps o now reason) fun _ => Method.Keeps.throw e
  refine Method.Keeps.bind (modifyBegin_keeps now approval) fun _ => ?_
  cases answer with
  | error e =>
    cases e with
    | brokerError _ _ => exact Method.Keeps.throw _
    | illegalOrderTransition _ _ | fillError _ | orderRefused _ | reconciliationRequired _ =>
        exact parksAndRaises _ _
    | other _ _ => exact parksAndRaises _ _
  | ok result =>
    cases verdict : result.status with
    | unknown =>
      simp only [modifyAnswer, verdict]
      exact parksAndRaises _ _
    | rejected =>
      simp only [modifyAnswer, verdict]
      exact Method.Keeps.throw _
    | accepted =>
      simp only [modifyAnswer, verdict]
      exact Method.Keeps.modify fun _ held => held

theorem modifyLevels_left (approval : Approval) (stopLoss takeProfit : Option ℚ)
    (answer : Answer OrderResult) :
    AtMostParked o ((modifyLevels now approval stopLoss takeProfit answer).left o) :=
  modifyLevels_keeps o now approval stopLoss takeProfit answer o ⟨rfl, .inl rfl⟩

theorem expire_left :
    ((expire now).left o).book = o.book ∧
      (((expire now).left o).status = o.status ∨
        (.expired ∈ o.status.transitions ∧ ((expire now).left o).status = .expired)) := by
  unfold Method.left expire
  rw [Method.exec_get_bind]
  by_cases needs : o.needsReconciliation = true
  · rw [if_pos needs]
    exact ⟨rfl, .inl rfl⟩
  rw [if_neg needs]
  by_cases legal : .expired ∈ o.status.transitions
  · dsimp only
    rw [exec_move_of_mem now .expiry _ none legal]
    exact ⟨moved_book _ _ _ _ _ _, .inr ⟨legal, moved_status _ _ _ _ _ _⟩⟩
  · dsimp only
    rw [exec_move_of_not_mem now .expiry _ none legal]
    exact ⟨rfl, .inl rfl⟩

end Levels

/-! ## Reconcile -/

section Reconcile

variable (o : ManagedOrder) (now : Time)

theorem needsReconciliation_iff {o : ManagedOrder} :
    o.needsReconciliation = true ↔ o.status = .unknown ∨ o.status = .submitting :=
  OrderStatus.needsReconciliation_iff

def suspect : ManagedOrder :=
  if o.status = .submitting then
    o.moved .unknown now .recovery (Text.lit "found mid-submission after a restart") none
  else o

theorem suspect_status {o : ManagedOrder} (needs : o.needsReconciliation = true) :
    (o.suspect now).status = .unknown := by
  unfold suspect
  split
  · exact moved_status _ _ _ _ _ _
  · next elsewhere => exact (needsReconciliation_iff.mp needs).resolve_right elsewhere

@[simp] theorem suspect_book : (o.suspect now).book = o.book := by
  unfold suspect
  split <;> simp

@[simp] theorem suspect_brokerOrderId : (o.suspect now).brokerOrderId = o.brokerOrderId := by
  unfold suspect
  split <;> simp

theorem exec_settle (openOrders : List BrokerOrder) (positions : List BrokerPosition) :
    (settle now openOrders positions).exec o =
      (match o.matchOrder openOrders with
        | some found => settleOrder now found (o.matchPosition positions)
        | none =>
          match o.matchPosition positions with
          | some found => settlePosition now found
          | none => settleAbsent now : Method Exn ManagedOrder Unit).exec (o.suspect now) := by
  unfold settle suspect
  rw [Method.exec_get_bind]
  by_cases midway : o.status = .submitting
  · have moves := exec_move_of_mem now .recovery
      (Text.lit "found mid-submission after a restart") none
      (show .unknown ∈ o.status.transitions by rw [midway]; decide)
    rw [if_pos midway, if_pos midway]
    exact Method.exec_bind_ok moves _
  · rw [if_neg midway]
    exact congrArg (Method.exec _) (if_neg midway).symm

def heldStatus (o : ManagedOrder) (position : Option BrokerPosition) : OrderStatus :=
  if !o.book.fills.isEmpty then .partiallyFilled
  else if position.isSome then .filled
  else .accepted

theorem exec_settleOrder {o : ManagedOrder} (unknown : o.status = .unknown) (found : BrokerOrder)
    (position : Option BrokerPosition) :
    ∃ o', (settleOrder now found position).exec o = (.ok (), o') ∧
      o'.status = o.heldStatus position ∧ o'.book = o.book := by
  refine ⟨_, exec_move_of_mem now .reconciliation _ none ?_, moved_status _ _ _ _ _ _,
    moved_book _ _ _ _ _ _⟩
  rw [unknown]
  split
  · decide
  · split <;> decide

inductive PositionCase (o : ManagedOrder) (found : BrokerPosition) :
    Except Exn Unit × ManagedOrder → Prop
  /-- The position's figures are refused, or the book has no room for them. -/
  | refused (reason : Text)
      (unfit : ∀ f, (positionFill found).make = .ok f → o.book.remainingQuantity < f.quantity)
      (fresh : o.book.alreadyRecorded (some found.positionId) = false ∨
        ¬ (positionFill found).Valid) :
    PositionCase o found (.error (.fillError reason), o)
  /-- The book has the position: the order is called filled whatever the book holds. -/
  | recorded (o' : ManagedOrder) (valid : (positionFill found).Valid)
      (known : o.book.alreadyRecorded (some found.positionId) = true)
      (status : o'.status = .filled) (book : o'.book = o.book) :
    PositionCase o found (.ok (), o')
  /-- The position's volume is written as one fill. -/
  | applied (f : FillRecord) (o' : ManagedOrder) (made : (positionFill found).make = .ok f)
      (fresh : o.book.alreadyRecorded (some found.positionId) = false)
      (fits : f.quantity ≤ o.book.remainingQuantity)
      (status : o'.status = impliedStatus (o.book.append f fits))
      (book : o'.book = o.book.append f fits) :
    PositionCase o found (.ok (), o')

theorem settlePosition_cases {o : ManagedOrder} (unknown : o.status = .unknown)
    (found : BrokerPosition) : PositionCase o found ((settlePosition now found).exec o) := by
  unfold settlePosition
  rw [Method.exec_bind]
  generalize recorded : (record (positionFill found) now).exec o = out
  have outcome := record_cases (positionFill found) now o
  rw [recorded] at outcome
  cases outcome with
  | invalid reason refused =>
    exact .refused reason (fun f made => absurd (FillReport.valid_of_make made) refused)
      (.inr refused)
  | overfilled f made fresh overfull =>
    refine .refused _ (fun g made' => ?_) (.inl fresh)
    rw [made] at made'
    exact Except.ok.inj made' ▸ overfull
  | recorded f made known =>
    have open_ : o.terminal = false := by
      unfold terminal
      rw [unknown]
      decide
    dsimp only
    rw [Method.exec_get_bind, open_, if_pos (by decide),
      exec_move_of_mem now .reconciliation _ none (by rw [unknown]; decide)]
    exact .recorded _ (FillReport.valid_of_make made) known (moved_status _ _ _ _ _ _)
      (moved_book _ _ _ _ _ _)
  | applied f made fresh fits legal time reason =>
    exact .applied f _ made fresh fits (moved_status _ _ _ _ _ _) (moved_book _ _ _ _ _ _)
  | stranded f made fresh fits illegal =>
    exact absurd (impliedStatus_mem_transitions (.inr unknown) _) illegal

theorem exec_settleAbsent {o : ManagedOrder} (unknown : o.status = .unknown) :
    ∃ o', (settleAbsent now).exec o = (.ok (), o') ∧ o'.status = .failed ∧ o'.book = o.book := by
  unfold settleAbsent
  rw [Method.exec_bind_ok (exec_move_of_mem now .reconciliation _ none (by rw [unknown]; decide)),
    Method.exec_modify]
  exact ⟨_, rfl, moved_status _ _ _ _ _ _, moved_book _ _ _ _ _ _⟩

theorem settle_status_ne_submitting {o : ManagedOrder} (needs : o.needsReconciliation = true)
    (orders : List BrokerOrder) (positions : List BrokerPosition) :
    ((settle now orders positions).left o).status ≠ .submitting := by
  have unknown := suspect_status now needs
  unfold Method.left
  rw [exec_settle]
  cases o.matchOrder orders with
  | some found =>
    obtain ⟨o', settled, status, _⟩ :=
      exec_settleOrder now unknown found (o.matchPosition positions)
    rw [settled, status]
    unfold heldStatus
    split
    · decide
    · split <;> decide
  | none =>
    cases o.matchPosition positions with
    | none =>
      obtain ⟨o', settled, status, _⟩ := exec_settleAbsent now unknown
      rw [settled, status]
      decide
    | some found =>
      generalize settled : (settlePosition now found).exec (o.suspect now) = out
      have outcome := settlePosition_cases now unknown found
      rw [settled] at outcome
      cases outcome with
      | refused reason unfit fresh =>
        rw [unknown]
        decide
      | recorded o' valid known status book =>
        rw [status]
        decide
      | applied f o' made fresh fits status book =>
        rw [status]
        unfold impliedStatus
        split <;> decide

theorem exec_reconcile_settled {o : ManagedOrder} (settled : o.needsReconciliation = false)
    (openOrders : Answer (List BrokerOrder)) (positions : Answer (List BrokerPosition)) :
    (reconcile now openOrders positions).exec o = (.ok (), o) := by
  unfold reconcile
  rw [Method.exec_get_bind, settled, if_pos (by decide)]
  rfl

theorem exec_reconcile_unread {o : ManagedOrder} (needs : o.needsReconciliation = true)
    (openOrders : Answer (List BrokerOrder)) (positions : Answer (List BrokerPosition))
    (unread : (∃ e, openOrders = .error e) ∨ ∃ e, positions = .error e) :
    ∃ e, (reconcile now openOrders positions).exec o = (.error (unreadable e), o) := by
  unfold reconcile
  rw [Method.exec_get_bind, needs, if_neg (by decide)]
  cases openOrders with
  | error e => exact ⟨e, rfl⟩
  | ok openOrders =>
    cases positions with
    | error e => exact ⟨e, rfl⟩
    | ok positions =>
      rcases unread with ⟨e, raised⟩ | ⟨e, raised⟩ <;> exact absurd raised (by simp)

theorem exec_reconcile_read {o : ManagedOrder} (needs : o.needsReconciliation = true)
    (openOrders : List BrokerOrder) (positions : List BrokerPosition) :
    (reconcile now (.ok openOrders) (.ok positions)).exec o =
      (settle now openOrders positions).exec o := by
  unfold reconcile
  rw [Method.exec_get_bind, needs, if_neg (by decide)]

end Reconcile

end ManagedOrder

/-! ## Create -/

namespace OrderManager

inductive CreateCase (m : OrderManager) (approval : Approval) (args : CreateArgs) (now : Time) :
    Except Exn Submission × OrderManager → Prop
  | refused (e : Exn) : CreateCase m approval args now (.error e, m)
  | duplicate (existing : ManagedOrder) (known : m.orderFor args.intentId = some existing) :
    CreateCase m approval args now (.ok ⟨existing.id, true⟩, m)
  | created (volume : ℚ) (positive : 0 < volume) (fresh : m.orderFor args.intentId = none) :
    CreateCase m approval args now
      (.ok ⟨args.orderId, false⟩, m.register (m.newOrder approval args volume positive now))

theorem exec_validateBinding {σ : Type} (approval : Approval) (accountId orderType : String)
    (mode : Mode) (s : σ) :
    (∃ e, (ManagedOrder.validateBinding approval accountId orderType mode).exec s =
        (.error e, s)) ∨
      (ManagedOrder.validateBinding approval accountId orderType mode).exec s = (.ok (), s) := by
  unfold ManagedOrder.validateBinding
  split
  · exact .inr rfl
  · exact .inl ⟨_, rfl⟩

theorem exec_validateApproval {σ : Type} (approval : Approval) (now : Time) (s : σ) :
    (∃ e, (ManagedOrder.validateApproval approval now).exec s = (.error e, s)) ∨
      (ManagedOrder.validateApproval approval now).exec s = (.ok (), s) := by
  unfold ManagedOrder.validateApproval
  rw [Method.exec_guard]
  split
  · exact .inl ⟨_, rfl⟩
  · split
    · exact .inl ⟨_, rfl⟩
    · exact .inr rfl

theorem create_cases (m : OrderManager) (approval : Approval) (args : CreateArgs) (now : Time) :
    CreateCase m approval args now ((create approval args now).exec m) := by
  unfold create
  rcases exec_validateApproval approval now m with ⟨e, raised⟩ | passed
  · rw [Method.exec_bind_error raised]
    exact .refused e
  rw [Method.exec_bind_ok passed, Method.exec_get_bind]
  cases known : m.orderFor args.intentId with
  | some existing => exact .duplicate existing known
  | none =>
    dsimp only
    split
    · exact .refused _
    split
    · exact .refused _
    split
    · exact .refused _
    split
    · exact .refused _
    rcases exec_validateBinding approval args.accountId args.orderType m.mode m with
      ⟨e, raised⟩ | passed
    · rw [Method.exec_bind_error raised]
      exact .refused e
    rw [Method.exec_bind_ok passed]
    cases approval.approvedVolume with
    | none => exact .refused _
    | some volume =>
      by_cases positive : 0 < volume
      · simp only [dif_pos positive]
        exact .created volume positive known
      · simp only [dif_neg positive]
        exact .refused _

end OrderManager

end TradeResearch.Oms
