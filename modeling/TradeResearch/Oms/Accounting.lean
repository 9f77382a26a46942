import Mathlib.Algebra.Order.BigOperators.Group.Finset
import TradeResearch.Oms.Calls

/-!
# What a book holds against what the venue executed

The venue executes deals, all belonging to one order; answers, reports and reconciliations tell
the order about them, in any order and as often as they like. A `Tally` keeps the order beside the
deals executed so far, the deals its book stands for, and every exception a call raised.

* `OrderCall.fill?` is the fill a call hands to the book, and `bookCase` that a call writes nothing
  else in it.
* `Tally.Consistent` says the fill is true of deals the venue executed. `Tally.Distinct` says the
  book has its identifier, or holds none of those deals: the book asks for the first only, so the
  same deal under another identifier is a second fill.
* `filledQuantity_le_executed` is the run: under `Distinct`, the book never holds more than was
  executed, and no consistent fill is refused.
-/

namespace TradeResearch.Oms

open Brokers Risk

structure Execution where
  dealId : String
  volume : ℚ
  volume_pos : 0 < volume
  deriving DecidableEq

def Exn.NotFill (e : Exn) : Prop := ∀ reason, e ≠ .fillError reason

def answerFill (now : Time) : Answer OrderResult → Option FillReport
  | .ok result =>
    if result.status = .accepted then ManagedOrder.resultFill result now else none
  | .error _ => none

def OrderCall.fill? (o : ManagedOrder) : OrderCall → Option FillReport
  | submit now _ answer => if o.status = .intent then answerFill now answer else none
  | close now _ answer => if o.status = .intent then answerFill now answer else none
  | report now quantity price deal commission swap fillSource =>
    if o.status = .intent ∨ o.status = .submitting then none
    else some (ManagedOrder.executionReport now quantity price deal commission swap fillSource)
  | reconcile _ (.ok openOrders) (.ok positions) =>
    if o.needsReconciliation && (o.matchOrder openOrders).isNone then
      (o.matchPosition positions).map ManagedOrder.positionFill
    else none
  | _ => none

inductive BookCase (o : ManagedOrder) (c : OrderCall) : Except Exn Unit × ManagedOrder → Prop
  | kept (out : Except Exn Unit) (o' : ManagedOrder) (book : o'.book = o.book)
      (calm : ∀ e, out = .error e → e.NotFill) :
    BookCase o c (out, o')
  | told (report : FillReport) (fill : c.fill? o = some report) (before : ManagedOrder)
      (same : before.book = o.book) (recorded : Except Exn Bool × ManagedOrder)
      (outcome : ManagedOrder.RecordCase report before recorded) (out : Except Exn Unit)
      (o' : ManagedOrder) (book : o'.book = recorded.2.book)
      (raised : ∀ reason, out = .error (.fillError reason) →
        ∃ reason', recorded.1 = .error (.fillError reason')) :
    BookCase o c (out, o')

namespace ManagedOrder

theorem raises_checkTransition {σ : Type} (current wanted : OrderStatus) :
    Method.Raises Exn.NotFill (checkTransition current wanted : Method Exn σ Unit) := by
  exact Method.Raises.ite (Method.Raises.pure _) (Method.Raises.throw fun _ => by simp)

theorem raises_move (wanted : OrderStatus) (now : Time) (source : Source) (reason : Text)
    (retcode : Option ℤ) :
    Method.Raises Exn.NotFill (move wanted now source reason retcode) := by
  refine Method.Raises.bind Method.Raises.get fun o => ?_
  refine Method.Raises.bind (raises_checkTransition _ _) fun _ => ?_
  exact Method.Raises.modify _

theorem raises_parkUnknown (now : Time) (reason : Text) :
    Method.Raises Exn.NotFill (parkUnknown now reason) :=
  Method.Raises.of_ok fun o => ⟨(), _, exec_parkUnknown o now reason⟩

theorem raises_cancel (now : Time) (reason : Text) (answer : Answer OrderResult) :
    Method.Raises Exn.NotFill (cancel now reason answer) := by
  refine Method.Raises.bind ?_ fun id => ?_
  · refine Method.Raises.bind Method.Raises.get fun o => ?_
    refine Method.Raises.guard (fun _ => by simp) ?_
    refine Method.Raises.guard (fun _ => by simp) ?_
    refine Method.Raises.bind (raises_move _ _ _ _ _) fun _ => ?_
    refine Method.Raises.ite ?_ (Method.Raises.pure _)
    exact Method.Raises.bind (raises_parkUnknown _ _) fun _ => Method.Raises.pure _
  · cases id with
    | none => exact Method.Raises.pure _
    | some id =>
      rcases answer with (_ | _ | _ | _ | _ | _) | result
      case ok =>
        cases verdict : result.status <;> simp only [cancelAnswer, verdict]
        · exact raises_move _ _ _ _ _
        · exact raises_move _ _ _ _ _
        · exact raises_parkUnknown _ _
      all_goals exact raises_parkUnknown _ _

theorem raises_modifyLevels (now : Time) (approval : Approval) (stopLoss takeProfit : Option ℚ)
    (answer : Answer OrderResult) :
    Method.Raises Exn.NotFill (modifyLevels now approval stopLoss takeProfit answer) := by
  have parks : ∀ reason text, Method.Raises Exn.NotFill
      (do parkUnknown now reason; throw (.reconciliationRequired text) :
        Method Exn ManagedOrder Unit) := fun reason text =>
    Method.Raises.bind (raises_parkUnknown now reason) fun _ =>
      Method.Raises.throw fun _ => by simp
  refine Method.Raises.bind ?_ fun _ => ?_
  · refine Method.Raises.bind Method.Raises.get fun o => ?_
    refine Method.Raises.guard (fun _ => by simp) ?_
    refine Method.Raises.guard (fun _ => by simp) ?_
    refine Method.Raises.bind ?_ fun _ => Method.Raises.bind ?_ fun _ => ?_
    · unfold validateApproval
      refine Method.Raises.guard (fun _ => by simp) ?_
      exact Method.Raises.ite (Method.Raises.throw fun _ => by simp) (Method.Raises.pure _)
    · unfold validateBinding
      exact Method.Raises.ite (Method.Raises.pure _) (Method.Raises.throw fun _ => by simp)
    · refine Method.Raises.guard (fun _ => by simp) ?_
      exact Method.Raises.ite (Method.Raises.throw fun _ => by simp) (Method.Raises.pure _)
  · rcases answer with (_ | _ | _ | _ | _ | _) | result
    case ok =>
      cases verdict : result.status <;> simp only [modifyAnswer, verdict]
      · exact Method.Raises.modify _
      · exact Method.Raises.throw fun _ => by simp
      · exact parks _ _
    case error.brokerError => exact Method.Raises.throw fun _ => by simp
    all_goals exact parks _ _

theorem raises_expire (now : Time) : Method.Raises Exn.NotFill (expire now) := by
  refine Method.Raises.bind Method.Raises.get fun o => ?_
  exact Method.Raises.guard (fun _ => by simp) (raises_move _ _ _ _ _)

end ManagedOrder

namespace OrderCall

open ManagedOrder

theorem bookCase_of_kept {o : ManagedOrder} {c : OrderCall}
    (calm : Method.Raises Exn.NotFill c.body) (book : (c.body.left o).book = o.book) :
    BookCase o c (c.body.exec o) :=
  .kept _ _ book fun e raised => calm o e (c.body.left o) (Prod.ext raised rfl)

theorem bookCase_of_send {o : ManagedOrder} {c : OrderCall} {now : Time}
    {answer : Answer OrderResult}
    (fill : c.fill? o = if o.status = .intent then answerFill now answer else none)
    {out : Except Exn Unit × ManagedOrder} (sent : SendCase o now answer out) :
    BookCase o c out := by
  cases sent with
  | refused reason => exact .kept _ _ rfl fun e same => by cases same; exact fun _ => by simp
  | unsent o' created failed book unnamed => exact .kept _ _ book fun e same => by cases same
  | sent reason created =>
    have mayFail : .failed ∈ (o.sending now reason).status.transitions := by
      rw [sending_status]; decide
    have maySend : .submitted ∈ (o.sending now reason).status.transitions := by
      rw [sending_status]; decide
    have quiet : ∀ o' : ManagedOrder, o'.book = (o.sending now reason).book →
        BookCase o c (.ok (), o') := fun o' book =>
      .kept _ _ (by rw [book, sending_book]) fun e same => by cases same
    cases answer with
    | error e =>
      by_cases broker : ∃ type text, e = .brokerError type text
      · obtain ⟨type, text, rfl⟩ := broker
        exact quiet _ (failedAs_book _ _ _ _)
      · rw [exec_applyAnswer_raised _ now fun type text same => broker ⟨type, text, same⟩]
        exact quiet _ (parked_book _ _ _)
    | ok result =>
      show BookCase o c ((applyResult now result).exec (o.sending now reason))
      cases verdict : result.status with
      | unknown =>
        rw [exec_applyResult_unknown _ now result verdict]
        exact quiet _ (by rw [parked_book, named_book])
      | rejected =>
        rw [exec_applyResult_rejected _ now result verdict maySend]
        exact quiet _ (refused_book _ _ _)
      | accepted =>
        rw [if_pos created, answerFill, if_pos verdict] at fill
        cases reported : resultFill result now with
        | none =>
          rw [exec_applyResult_accepted _ now result verdict maySend reported]
          exact quiet _ (taken_book _ _ _)
        | some report =>
          rw [exec_applyResult_filled _ now result verdict maySend reported]
          refine .told report (fill.trans reported) ((o.sending now reason).taken now result)
            (by rw [taken_book, sending_book]) _ (record_cases report now _) _ _ rfl ?_
          intro text raised
          rcases outcome : (record report now).exec ((o.sending now reason).taken now result)
            with ⟨e' | b, t⟩ <;> rw [outcome] at raised <;> cases raised
          exact ⟨text, rfl⟩

theorem bookCase_of_report (o : ManagedOrder) (now : Time) (quantity price : Figure)
    (deal : Option String) (commission swap : ℚ) (fillSource : String) :
    BookCase o (.report now quantity price deal commission swap fillSource)
      ((OrderCall.report now quantity price deal commission swap fillSource).body.exec o) := by
  rw [OrderCall.body, Method.exec_discard]
  by_cases early : o.status = .intent ∨ o.status = .submitting
  · obtain ⟨reason, refused⟩ :=
      exec_applyExecutionReport_early o now quantity price deal commission swap fillSource early
    rw [refused]
    exact .kept _ _ rfl fun e same => by cases same; exact fun _ => by simp
  · rw [exec_applyExecutionReport o now quantity price deal commission swap fillSource early]
    refine .told _ (by rw [OrderCall.fill?, if_neg early]) o rfl _ (record_cases _ now o) _ _ rfl ?_
    intro text raised
    rcases outcome : (record (executionReport now quantity price deal commission swap fillSource)
      now).exec o with ⟨e' | b, t⟩ <;> rw [outcome] at raised <;> cases raised
    exact ⟨text, rfl⟩

theorem bookCase_of_position {o before : ManagedOrder} {c : OrderCall} {found : BrokerPosition}
    (fill : c.fill? o = some (positionFill found)) (same : before.book = o.book)
    (unknown : before.status = .unknown) {out : Except Exn Unit × ManagedOrder}
    (settled : PositionCase before found out) : BookCase o c out := by
  cases settled with
  | refused reason unfit fresh =>
    by_cases valid : (positionFill found).Valid
    · obtain ⟨f, made⟩ := FillReport.make_of_valid valid
      exact .told _ fill before same _
        (.overfilled f made (fresh.resolve_right (not_not.mpr valid)) (unfit f made)) _ _ rfl
        fun _ _ => ⟨_, rfl⟩
    · exact .told _ fill before same _ (.invalid reason valid) _ _ rfl fun _ _ => ⟨_, rfl⟩
  | recorded o' valid known status book =>
    obtain ⟨f, made⟩ := FillReport.make_of_valid valid
    exact .told _ fill before same _ (.recorded f made known) _ _ book
      fun reason raised => by cases raised
  | applied f o' made fresh fits status book =>
    exact .told _ fill before same _
      (.applied f made fresh fits (impliedStatus_mem_transitions (.inr unknown) _) 0 []) _ _
      (book.trans (by simp)) fun reason raised => by cases raised

theorem bookCase_of_reconcile (o : ManagedOrder) (now : Time)
    (openOrders : Answer (List BrokerOrder)) (positions : Answer (List BrokerPosition)) :
    BookCase o (.reconcile now openOrders positions)
      ((OrderCall.reconcile now openOrders positions).body.exec o) := by
  show BookCase o _ ((ManagedOrder.reconcile now openOrders positions).exec o)
  cases needs : o.needsReconciliation with
  | false =>
    rw [exec_reconcile_settled now needs]
    exact .kept _ _ rfl fun e same => by cases same
  | true =>
    have unread : (∃ e, openOrders = .error e) ∨ (∃ e, positions = .error e) →
        BookCase o (.reconcile now openOrders positions)
          ((ManagedOrder.reconcile now openOrders positions).exec o) := fun unread => by
      obtain ⟨e, raised⟩ := exec_reconcile_unread now needs openOrders positions unread
      rw [raised]
      exact .kept _ _ rfl fun e same => by cases same; exact fun _ => by simp [unreadable]
    cases openOrders with
    | error e => exact unread (.inl ⟨e, rfl⟩)
    | ok openOrders =>
      cases positions with
      | error e => exact unread (.inr ⟨e, rfl⟩)
      | ok positions =>
        have unknown := suspect_status now needs
        rw [exec_reconcile_read now needs, exec_settle]
        cases working : o.matchOrder openOrders with
        | some found =>
          obtain ⟨o', settled, _, book⟩ :=
            exec_settleOrder now unknown found (o.matchPosition positions)
          rw [settled]
          exact .kept _ _ (by rw [book, suspect_book]) fun e same => by cases same
        | none =>
          cases seen : o.matchPosition positions with
          | some found =>
            exact bookCase_of_position (by simp [OrderCall.fill?, needs, working, seen])
              (suspect_book o now) unknown (settlePosition_cases now unknown found)
          | none =>
            obtain ⟨o', settled, _, book⟩ := exec_settleAbsent now unknown
            rw [settled]
            exact .kept _ _ (by rw [book, suspect_book]) fun e same => by cases same

theorem bookCase (o : ManagedOrder) (c : OrderCall) : BookCase o c (c.body.exec o) := by
  cases c with
  | submit now spec answer => exact bookCase_of_send rfl (submit_cases o now spec answer)
  | close now position answer => exact bookCase_of_send rfl (close_cases o now position answer)
  | report now quantity price deal commission swap fillSource =>
    exact bookCase_of_report o now quantity price deal commission swap fillSource
  | cancel now reason answer =>
    refine bookCase_of_kept (raises_cancel now reason answer) ?_
    show ((ManagedOrder.cancel now reason answer).exec o).2.book = o.book
    generalize called : (ManagedOrder.cancel now reason answer).exec o = out
    have outcome := cancel_cases o now reason answer
    rw [called] at outcome
    cases outcome with
    | refused e settled => rfl
    | unnamed o' live noId status book | asked id o' live venueId status book => exact book
  | modify now approval stopLoss takeProfit answer =>
    exact bookCase_of_kept (raises_modifyLevels now approval stopLoss takeProfit answer)
      (modifyLevels_left o now approval stopLoss takeProfit answer).1
  | reconcile now openOrders positions =>
    exact bookCase_of_reconcile o now openOrders positions
  | expire now => exact bookCase_of_kept (raises_expire now) (expire_left o now).1

end OrderCall

structure Tally where
  order : ManagedOrder
  /-- The deals the venue has executed. -/
  executed : Finset Execution
  /-- The deals the fills in the book were reported for. -/
  counted : Finset Execution
  /-- What the calls raised. -/
  raised : List Exn

inductive TallyEvent where
  | execute (d : Execution)
  | call (c : OrderCall) (deals : Finset Execution)

namespace Tally

def volume (deals : Finset Execution) : ℚ := ∑ d ∈ deals, d.volume

def Consistent (t : Tally) (c : OrderCall) (deals : Finset Execution) : Prop :=
  match c.fill? t.order with
  | none => True
  | some report => deals ⊆ t.executed ∧ report.Valid ∧
    match report.quantity with
    | .finite q => q ≤ volume deals
    | .notFinite => False

instance (t : Tally) (c : OrderCall) (deals : Finset Execution) :
    Decidable (t.Consistent c deals) :=
  match h : c.fill? t.order with
  | none => isTrue (by unfold Consistent; rw [h]; exact True.intro)
  | some report =>
    match q : report.quantity with
    | .notFinite => isFalse (by unfold Consistent; rw [h]; simp [q])
    | .finite r =>
      decidable_of_iff (deals ⊆ t.executed ∧ report.Valid ∧ r ≤ volume deals)
        (by unfold Consistent; rw [h]; simp [q])

def step (t : Tally) : TallyEvent → Option Tally
  | .execute d =>
    if (∀ e ∈ t.executed, e.dealId ≠ d.dealId) ∧
        volume (insert d t.executed) ≤ t.order.quantity then
      some { t with executed := insert d t.executed }
    else none
  | .call c deals =>
    if t.Consistent c deals then
      let after := c.body.left t.order
      some
        { t with
          order := after
          counted :=
            if after.book.fills.length = t.order.book.fills.length then t.counted
            else t.counted ∪ deals
          raised := t.raised ++
            match c.body.answer t.order with
            | .error e => [e]
            | .ok _ => [] }
    else none

def Distinct (t : Tally) : TallyEvent → Prop
  | .execute _ => True
  | .call c deals => ∀ report, c.fill? t.order = some report →
    t.order.book.alreadyRecorded report.brokerDealId = true ∨ Disjoint deals t.counted

instance (t : Tally) (e : TallyEvent) : Decidable (t.Distinct e) :=
  match e with
  | .execute _ => isTrue True.intro
  | .call c deals =>
    match fill : c.fill? t.order with
    | none => isTrue fun _ is => absurd is (by simp [fill])
    | some report =>
      decidable_of_iff
        (t.order.book.alreadyRecorded report.brokerDealId = true ∨ Disjoint deals t.counted)
        ⟨fun known _ is => Option.some.inj (fill.symm.trans is) ▸ known,
          fun distinct => distinct report fill⟩

def start (o : ManagedOrder) : Tally := { order := o, executed := ∅, counted := ∅, raised := [] }

structure Inv (t : Tally) : Prop where
  counted_executed : t.counted ⊆ t.executed
  filled_le : t.order.filledQuantity ≤ volume t.counted
  executed_le : volume t.executed ≤ t.order.quantity
  calm : ∀ e ∈ t.raised, e.NotFill

theorem volume_nonneg (deals : Finset Execution) : 0 ≤ volume deals :=
  Finset.sum_nonneg fun d _ => d.volume_pos.le

theorem volume_le_of_subset {few many : Finset Execution} (sub : few ⊆ many) :
    volume few ≤ volume many :=
  Finset.sum_le_sum_of_subset_of_nonneg sub fun d _ _ => d.volume_pos.le

theorem volume_union {xs ys : Finset Execution} (apart : Disjoint xs ys) :
    volume (xs ∪ ys) = volume xs + volume ys :=
  Finset.sum_union apart

theorem Inv.room {t : Tally} (inv : Inv t) {deals : Finset Execution} {f : FillRecord}
    (executed : deals ⊆ t.executed) (apart : Disjoint deals t.counted)
    (most : f.quantity ≤ volume deals) : f.quantity ≤ t.order.book.remainingQuantity := by
  have both : volume (t.counted ∪ deals) = volume t.counted + volume deals :=
    volume_union apart.symm
  have within : volume (t.counted ∪ deals) ≤ volume t.executed :=
    volume_le_of_subset (Finset.union_subset inv.counted_executed executed)
  have filled : t.order.book.filledQuantity ≤ volume t.counted := inv.filled_le
  have asked : t.order.book.requested = t.order.quantity := t.order.book_requested
  have executed_le := inv.executed_le
  unfold FillBook.remainingQuantity
  linarith

theorem Consistent.of_fill {t : Tally} {c : OrderCall} {deals : Finset Execution}
    {report : FillReport} (consistent : t.Consistent c deals)
    (fill : c.fill? t.order = some report) :
    deals ⊆ t.executed ∧ report.Valid ∧
      ∀ f, report.make = .ok f → f.quantity ≤ volume deals := by
  unfold Consistent at consistent
  rw [fill] at consistent
  obtain ⟨executed, valid, most⟩ := consistent
  refine ⟨executed, valid, fun f made => ?_⟩
  rw [(FillReport.make_eq made).1] at most
  exact most

theorem Inv.call {t : Tally} (inv : Inv t) {c : OrderCall} {deals : Finset Execution}
    (consistent : t.Consistent c deals) (distinct : t.Distinct (.call c deals)) :
    (∀ e, c.body.answer t.order = .error e → e.NotFill) ∧
      ((c.body.left t.order).book = t.order.book ∨
        deals ⊆ t.executed ∧ Disjoint deals t.counted ∧
          ∃ f fits, f.quantity ≤ volume deals ∧
            (c.body.left t.order).book = t.order.book.append f fits) := by
  unfold Method.answer Method.left
  generalize called : c.body.exec t.order = out
  have outcome := OrderCall.bookCase t.order c
  rw [called] at outcome
  cases outcome with
  | kept out o' book calm => exact ⟨calm, .inl book⟩
  | told report fill before same recorded outcome out o' book raised =>
    obtain ⟨executed, valid, most⟩ := consistent.of_fill fill
    have calm : (∀ e', recorded.1 = .error e' → e'.NotFill) →
        ∀ e, out = .error e → e.NotFill := fun quiet e failed reason is => by
      obtain ⟨reason', refused⟩ := raised reason (failed.trans (congrArg _ is))
      exact quiet _ refused reason' rfl
    have apart : ∀ {b}, before.book.alreadyRecorded report.brokerDealId = b → b = false →
        Disjoint deals t.counted := fun known unknown => by
      refine (distinct report fill).resolve_left ?_
      rw [← same, known, unknown]
      decide
    cases outcome with
    | invalid reason refused => exact absurd valid refused
    | recorded f made known =>
      exact ⟨calm fun e' failed => absurd failed (by simp), .inl (book.trans same)⟩
    | overfilled f made fresh overfull =>
      have room := inv.room executed (apart fresh rfl) (most f made)
      rw [same] at overfull
      exact absurd room (not_le.mpr overfull)
    | applied f made fresh fits legal time reason =>
      obtain ⟨rest, is⟩ := FillBook.append_congr same fits
      refine ⟨calm fun e' failed => absurd failed (by simp), .inr ⟨executed, apart fresh rfl, f,
        rest, most f made, ?_⟩⟩
      rw [book, ← is]
      simp
    | stranded f made fresh fits illegal =>
      obtain ⟨rest, is⟩ := FillBook.append_congr same fits
      refine ⟨calm fun e' failed reason same => ?_, .inr ⟨executed, apart fresh rfl, f,
        rest, most f made, ?_⟩⟩
      · rw [same] at failed
        exact absurd failed (by simp)
      · rw [book, ← is]
        rfl

theorem quantity_of_book {o o' : ManagedOrder} (same : o'.book.requested = o.book.requested) :
    o'.quantity = o.quantity := by
  rw [← o'.book_requested, same, o.book_requested]

theorem Inv.step {t u : Tally} (inv : Inv t) {e : TallyEvent} (distinct : t.Distinct e)
    (taken : t.step e = some u) : Inv u := by
  cases e with
  | execute d =>
    dsimp only [Tally.step] at taken
    split at taken
    · next allowed =>
      cases taken
      exact
        { counted_executed := inv.counted_executed.trans (Finset.subset_insert _ _)
          filled_le := inv.filled_le
          executed_le := allowed.2
          calm := inv.calm }
    · exact absurd taken (by simp)
  | call c deals =>
    dsimp only [Tally.step] at taken
    split at taken
    · next consistent =>
      cases taken
      obtain ⟨calm, book⟩ := inv.call consistent distinct
      have quiet : ∀ e ∈ t.raised ++ (match c.body.answer t.order with
          | .error e => [e]
          | .ok _ => []), e.NotFill := by
        intro e raised
        rcases List.mem_append.mp raised with before | now
        · exact inv.calm e before
        · cases answered : c.body.answer t.order with
          | error e' =>
            rw [answered, List.mem_singleton] at now
            exact now ▸ calm e' answered
          | ok a =>
            rw [answered] at now
            exact absurd now (by simp)
      rcases book with same | ⟨executed, apart, f, fits, most, appended⟩
      · have asked := quantity_of_book (congrArg FillBook.requested same)
        refine ⟨?_, ?_, ?_, quiet⟩
        · rw [same, if_pos rfl]
          exact inv.counted_executed
        · dsimp only
          rw [if_pos (by rw [same]), ManagedOrder.filledQuantity, same]
          exact inv.filled_le
        · rw [asked]
          exact inv.executed_le
      · have asked : (c.body.left t.order).quantity = t.order.quantity :=
          quantity_of_book (by rw [appended]; rfl)
        have grown : (c.body.left t.order).book.fills.length ≠ t.order.book.fills.length := by
          rw [appended]
          simp
        refine ⟨?_, ?_, ?_, quiet⟩
        · rw [if_neg grown]
          exact Finset.union_subset inv.counted_executed executed
        · dsimp only
          rw [if_neg grown, ManagedOrder.filledQuantity, appended,
            FillBook.append_filledQuantity, volume_union apart.symm]
          exact add_le_add inv.filled_le most
        · rw [asked]
          exact inv.executed_le
    · exact absurd taken (by simp)

theorem Inv.start {o : ManagedOrder} (untouched : o.book.fills = []) : Inv (start o) where
  counted_executed := Finset.Subset.refl _
  filled_le := by
    show o.book.filledQuantity ≤ volume ∅
    rw [(FillBook.filledQuantity_eq_zero_iff _).mpr untouched]
    exact volume_nonneg _
  executed_le := by
    show volume ∅ ≤ o.quantity
    rw [← o.book_requested]
    exact o.book.requested_pos.le
  calm := fun e raised => absurd raised (by simp [Tally.start])

/-- Where every fill is distinct, the book of an order never holds more than the venue executed for
it, and no call refuses a consistent fill. -/
theorem filledQuantity_le_executed {o : ManagedOrder} {t : Tally} {events : List TallyEvent}
    (untouched : o.book.fills = []) (distinct : Run.Meets step Distinct (Tally.start o) events)
    (run : Run.exec step (Tally.start o) events = some t) :
    t.order.filledQuantity ≤ volume t.executed ∧ ∀ e ∈ t.raised, e.NotFill := by
  have inv : Inv t :=
    Run.invariant (fun _ _ _ inv distinct taken => Inv.step inv distinct taken)
      (Inv.start untouched) distinct run
  exact ⟨inv.filled_le.trans (volume_le_of_subset inv.counted_executed), inv.calm⟩

def order100 : ManagedOrder := plainOrder 100 (by decide +kernel)

def deal40 : Execution := { dealId := "d1", volume := 40, volume_pos := by decide +kernel }

def filled40 : List TallyEvent :=
  [.execute deal40,
    .call (.submit 1 (.ok (some (plainSymbol "EURUSD")))
      (.ok { OrderResult.bare .accepted [] with
        orderId := some "7", dealId := some "d1", filledVolume := some (.finite 40),
        fillPrice := some (.finite 1) })) {deal40}]

def replay40 : TallyEvent :=
  .call (.report 2 (.finite 40) (.finite 1) (some "d1") 0 0 "broker") {deal40}

theorem filledQuantity_le_executed_replay :
    ∃ t, Run.exec step (Tally.start order100) (filled40 ++ [replay40]) = some t ∧
      t.order.filledQuantity ≤ volume t.executed ∧ ∀ e ∈ t.raised, e.NotFill := by
  have ran : (Run.exec step (Tally.start order100) (filled40 ++ [replay40])).isSome := by
    decide +kernel
  obtain ⟨t, run⟩ := Option.isSome_iff_exists.mp ran
  exact ⟨t, run, filledQuantity_le_executed rfl (by decide +kernel) run⟩

def reconcile40 : List TallyEvent :=
  [.call (.cancel 2 [] (.error (.other "TimeoutError" []))) ∅,
    .call (.reconcile 3 (.ok []) (.ok [plainPosition "7" "EURUSD" "long" 40 1])) {deal40}]

theorem reconcile40_order :
    ((Run.exec step (Tally.start order100) (filled40 ++ reconcile40)).map fun t =>
      (t.order.filledQuantity, volume t.executed)) = some (80, 40) := by
  decide +kernel

/-- Consistent messages alone do not keep the book within what was executed. -/
theorem not_forall_filledQuantity_le_executed :
    ¬ ∀ (o : ManagedOrder) (t : Tally) (events : List TallyEvent), o.book.fills = [] →
      Run.exec step (Tally.start o) events = some t →
        t.order.filledQuantity ≤ volume t.executed ∧ ∀ e ∈ t.raised, e.NotFill := by
  intro always
  obtain ⟨t, run, shows⟩ := Option.map_eq_some_iff.mp reconcile40_order
  obtain ⟨filled, executed⟩ := Prod.mk.inj shows
  have bound := (always order100 t _ rfl run).1
  rw [filled, executed] at bound
  exact absurd bound (by decide +kernel)

end Tally

end TradeResearch.Oms
