import TradeResearch.Oms.Frames
import TradeResearch.Oms.Reconciliation

/-!
# Which order a venue position is attributed to

A `Desk` is a manager beside the attributions made so far: which order acquired a fill, or the
state `filled`, from which venue position. A submission takes the position its answer names, a
report the position under the order's own ticket (a position is named by the order that opened
it), a reconciliation the position it matched.

* `ShowsPosition` is what an order's own data says about a position: it is the order's venue id, or
  the identifier of one of its fills. `Unowned` says that no other order of the manager shows it.
* `Desk.Unclaimed` asks this of the position a call would take. Nothing in `_match_position` does:
  its fallback looks at symbol, side and tag.
* `attributed_unique` is the run: under `Unclaimed`, no position is attributed to two orders.
-/

namespace TradeResearch.Oms

open Brokers Risk

namespace ManagedOrder

def ShowsPosition (o : ManagedOrder) (positionId : String) : Prop :=
  o.brokerOrderId = some positionId ∨ ∃ f ∈ o.book.fills, f.brokerDealId = some positionId

def fits (o : ManagedOrder) (p : BrokerPosition) : Bool :=
  if truthy o.brokerOrderId then decide (some p.positionId = o.brokerOrderId) else o.eligible p

theorem matchPosition_eq_find? (o : ManagedOrder) (positions : List BrokerPosition) :
    o.matchPosition positions = positions.find? o.fits := by
  unfold matchPosition fits
  split <;> rfl

end ManagedOrder

namespace ManagedOrder

theorem named_brokerOrderId (o : ManagedOrder) (result : OrderResult) :
    (o.named result).brokerOrderId =
      if truthy result.orderId then result.orderId else o.brokerOrderId := by
  unfold named
  split <;> rfl

theorem applyAnswer_brokerOrderId (now : Time) (o : ManagedOrder) (answer : Answer OrderResult) :
    ((applyAnswer now answer).left o).brokerOrderId =
      match answer with
      | .ok result => (o.named result).brokerOrderId
      | .error _ => o.brokerOrderId := by
  have same := (stable_brokerOrderId o.brokerOrderId).lasting
  rcases answer with (_ | _ | _ | _ | _ | _) | result
  case ok =>
    show ((applyResult now result).exec o).2.brokerOrderId = _
    rw [exec_applyResult]
    exact keeps_applyVerdict (stable_brokerOrderId _).lasting.standing now result _ rfl
  case error.brokerError => exact keeps_fail same.standing now _ _ o rfl
  all_goals exact keeps_parkUnknown same.standing now _ o rfl

theorem keeps_settleOrder_brokerOrderId (now : Time) {b : Option String}
    (named : truthy b = true) (found : BrokerOrder) (position : Option BrokerPosition) :
    Method.Keeps (fun o : ManagedOrder => o.brokerOrderId = b)
      (settleOrder now found position) := by
  refine Method.Keeps.bind (Method.Keeps.modify fun o held => ?_) fun _ =>
    Method.Keeps.bind Method.Keeps.get fun o =>
      keeps_move (stable_brokerOrderId b).lasting.standing now _ _ _ _
  rw [held, if_pos named]

theorem reconcile_brokerOrderId (now : Time) (o : ManagedOrder)
    (openOrders : Answer (List BrokerOrder)) (positions : Answer (List BrokerPosition)) :
    ((reconcile now openOrders positions).left o).brokerOrderId = o.brokerOrderId := by
  have same := (stable_brokerOrderId o.brokerOrderId).lasting
  cases needs : o.needsReconciliation with
  | false =>
    unfold Method.left
    rw [exec_reconcile_settled now needs]
  | true =>
    by_cases unread : (∃ e, openOrders = .error e) ∨ ∃ e, positions = .error e
    · obtain ⟨e, raised⟩ := exec_reconcile_unread now needs openOrders positions unread
      unfold Method.left
      rw [raised]
    rcases openOrders with e | openOrders
    · exact absurd (.inl ⟨e, rfl⟩) unread
    rcases positions with e | positions
    · exact absurd (.inr ⟨e, rfl⟩) unread
    unfold Method.left
    rw [exec_reconcile_read now needs, exec_settle]
    cases working : o.matchOrder openOrders with
    | some found =>
      have named := ((matchOrder_isSome_iff o openOrders).mp (by simp [working])).1
      exact keeps_settleOrder_brokerOrderId now named found _ _ (suspect_brokerOrderId o now)
    | none =>
      cases o.matchPosition positions with
      | some found =>
        exact keeps_settlePosition same.standing now found _ (suspect_brokerOrderId o now)
      | none => exact keeps_settleAbsent same.standing now _ (suspect_brokerOrderId o now)

end ManagedOrder

namespace OrderCall

open ManagedOrder

def sentAnswer? : OrderCall → Option OrderResult
  | submit _ _ (.ok result) => some result
  | close _ _ (.ok result) => some result
  | _ => none

def readPositions? : OrderCall → Option (List BrokerPosition)
  | reconcile _ (.ok _) (.ok positions) => some positions
  | _ => none

def grows (o : ManagedOrder) (c : OrderCall) : Bool :=
  decide ((c.body.left o).book.fills.length ≠ o.book.fills.length)

def acquired (o : ManagedOrder) (c : OrderCall) : Option String :=
  match c with
  | submit _ _ (.ok result) =>
    if c.grows o then
      if truthy result.positionId then result.positionId
      else if truthy result.orderId then result.orderId
      else none
    else none
  | report _ _ _ _ _ _ _ =>
    if c.grows o && truthy o.brokerOrderId then o.brokerOrderId else none
  | reconcile _ (.ok _) (.ok positions) =>
    if o.needsReconciliation && (c.grows o || decide ((c.body.left o).status = .filled)) then
      (o.matchPosition positions).map BrokerPosition.positionId
    else none
  | _ => none

theorem brokerOrderId_cases (o : ManagedOrder) (c : OrderCall) :
    (c.body.left o).brokerOrderId = o.brokerOrderId ∨
      o.status = .intent ∧ ∃ result, c.sentAnswer? = some result ∧
        truthy result.orderId = true ∧ (c.body.left o).brokerOrderId = result.orderId := by
  have same := (stable_brokerOrderId o.brokerOrderId).lasting
  have sends : ∀ now answer out, ManagedOrder.SendCase o now answer out →
      (∀ result, answer = .ok result → c.sentAnswer? = some result) →
      (out.2.brokerOrderId = o.brokerOrderId ∨
        o.status = .intent ∧ ∃ result, c.sentAnswer? = some result ∧
          truthy result.orderId = true ∧ out.2.brokerOrderId = result.orderId) := by
    intro now answer out sent answered
    cases sent with
    | refused reason => exact .inl rfl
    | unsent o' created failed book unnamed => exact .inl unnamed
    | sent reason created =>
      have ticket := applyAnswer_brokerOrderId now (o.sending now reason) answer
      unfold Method.left at ticket
      rw [ticket]
      cases answer with
      | error e => exact .inl (sending_brokerOrderId o now reason)
      | ok result =>
        dsimp only
        rw [named_brokerOrderId]
        by_cases present : truthy result.orderId = true
        · rw [if_pos present]
          exact .inr ⟨created, result, answered result rfl, present, rfl⟩
        · rw [if_neg present]
          exact .inl (sending_brokerOrderId o now reason)
  cases c with
  | submit now spec answer =>
    exact sends now answer _ (submit_cases o now spec answer) fun _ is => by subst is; rfl
  | close now brokerPositionId answer =>
    exact sends now answer _ (close_cases o now brokerPositionId answer)
      fun _ is => by subst is; rfl
  | report now quantity price deal commission swap fillSource =>
    left
    unfold Method.left OrderCall.body
    rw [Method.exec_discard]
    exact keeps_applyExecutionReport same.standing now quantity price deal commission swap
      fillSource o rfl
  | cancel now reason answer => exact .inl (keeps_cancel same.standing now reason answer o rfl)
  | modify now approval stopLoss takeProfit answer =>
    exact .inl (keeps_modifyLevels same now approval stopLoss takeProfit answer o rfl)
  | reconcile now openOrders positions =>
    exact .inl (reconcile_brokerOrderId now o openOrders positions)
  | expire now => exact .inl (keeps_expire same.standing now o rfl)

theorem showsPosition_of_begun {o : ManagedOrder} (begun : o.status ≠ .intent) {p : String}
    (shown : o.ShowsPosition p) (c : OrderCall) : (c.body.left o).ShowsPosition p := by
  rcases shown with ticket | ⟨f, recorded, deal⟩
  · rcases brokerOrderId_cases o c with same | ⟨created, _⟩
    · exact .inl (same.trans ticket)
    · exact absurd created begun
  · exact .inr ⟨f, keeps_body (stable_recorded f).lasting (renamable_recorded f) c o recorded, deal⟩

theorem begun_of_begun {o : ManagedOrder} (begun : o.status ≠ .intent) (c : OrderCall) :
    (c.body.left o).status ≠ .intent :=
  keeps_body stable_begun.lasting renamable_begun c o begun

theorem begun_of_grows {o : ManagedOrder} {now : Time} {answer : Answer OrderResult}
    {out : Except Exn Unit × ManagedOrder} (sent : ManagedOrder.SendCase o now answer out)
    (grew : out.2.book.fills.length ≠ o.book.fills.length) :
    o.status = .intent ∧ out.2.status ≠ .intent ∧
      ∀ result, answer = .ok result → truthy result.orderId = true →
        out.2.brokerOrderId = result.orderId := by
  cases sent with
  | refused reason => exact absurd rfl grew
  | unsent o' created failed book unnamed => exact absurd (by rw [book]) grew
  | sent reason created =>
    refine ⟨created, ?_, fun result is present => ?_⟩
    · exact keeps_applyAnswer stable_begun.lasting.standing renamable_begun now answer _
        (by dsimp only; rw [sending_status]; decide)
    · subst is
      have ticket := applyAnswer_brokerOrderId now (o.sending now reason) (.ok result)
      unfold Method.left at ticket
      rw [ticket]
      dsimp only
      rw [named_brokerOrderId, if_pos present]

inductive Acquisition (o : ManagedOrder) (c : OrderCall) (p : String) : Prop
  | answered (result : OrderResult) (answer : c.sentAnswer? = some result)
      (created : o.status = .intent) (ticket : result.orderId = some p) (named : p ≠ "")
  | reported (ticket : o.brokerOrderId = some p) (named : p ≠ "")
  | matched (positions : List BrokerPosition) (q : BrokerPosition)
      (read : c.readPositions? = some positions) (needs : o.needsReconciliation = true)
      (found : positions.find? o.fits = some q) (same : q.positionId = p)

theorem acquired_submit {o : ManagedOrder} {now : Time} {spec : Answer (Option SymbolInfo)}
    {result : OrderResult} {p : String}
    (conventional : o.status = .intent → truthy result.positionId = true →
      result.orderId = result.positionId)
    (took : (submit now spec (.ok result)).acquired o = some p) :
    ((submit now spec (.ok result)).body.left o).status ≠ .intent ∧
      ((submit now spec (.ok result)).body.left o).ShowsPosition p ∧
        Acquisition o (submit now spec (.ok result)) p := by
  unfold acquired at took
  by_cases grew : (submit now spec (.ok result)).grows o = true
  · dsimp only at took
    rw [if_pos grew] at took
    obtain ⟨created, begun, ticketed⟩ := begun_of_grows
      (submit_cases o now spec (.ok result)) (of_decide_eq_true grew)
    have ticket : truthy result.orderId = true ∧ result.orderId = some p := by
      by_cases position : truthy result.positionId = true
      · rw [if_pos position] at took
        have same := conventional created position
        exact ⟨same ▸ position, same.trans took⟩
      · rw [if_neg position] at took
        by_cases order : truthy result.orderId = true
        · rw [if_pos order] at took
          exact ⟨order, took⟩
        · rw [if_neg order] at took
          exact absurd took (by simp)
    refine ⟨begun, .inl ((ticketed result rfl ticket.1).trans ticket.2), ?_⟩
    refine .answered result rfl created ticket.2 fun empty => ?_
    obtain ⟨id, is, named⟩ := truthy_iff.mp ticket.1
    rw [ticket.2, Option.some.injEq] at is
    exact named (is ▸ empty)
  · dsimp only at took
    rw [if_neg grew] at took
    exact absurd took (by simp)

theorem acquired_report {o : ManagedOrder} {now : Time} {quantity price : Figure}
    {deal : Option String} {commission swap : ℚ} {fillSource : String} {p : String}
    (took : (report now quantity price deal commission swap fillSource).acquired o = some p) :
    ((report now quantity price deal commission swap fillSource).body.left o).status ≠ .intent ∧
      ((report now quantity price deal commission swap fillSource).body.left o).ShowsPosition p ∧
        Acquisition o (report now quantity price deal commission swap fillSource) p := by
  generalize is : report now quantity price deal commission swap fillSource = c at *
  have took' :
      (if c.grows o && truthy o.brokerOrderId then o.brokerOrderId else none) = some p := by
    subst is
    exact took
  split at took'
  · next both =>
    obtain ⟨grew, present⟩ := Bool.and_eq_true_iff.mp both
    have begun : o.status ≠ .intent := by
      intro created
      subst is
      obtain ⟨reason, refused⟩ := exec_applyExecutionReport_early o now quantity price deal
        commission swap fillSource (.inl created)
      refine absurd ?_ (of_decide_eq_true grew)
      unfold Method.left body
      rw [Method.exec_discard, refused]
    refine ⟨begun_of_begun begun c, showsPosition_of_begun begun (.inl took') c, ?_⟩
    refine .reported took' fun empty => ?_
    obtain ⟨id, is, named⟩ := truthy_iff.mp present
    rw [took', Option.some.injEq] at is
    exact named (is ▸ empty)
  · exact absurd took' (by simp)

theorem acquired_reconcile {o : ManagedOrder} {now : Time} {openOrders : List BrokerOrder}
    {positions : List BrokerPosition} {p : String}
    (took : (reconcile now (.ok openOrders) (.ok positions)).acquired o = some p) :
    ((reconcile now (.ok openOrders) (.ok positions)).body.left o).status ≠ .intent ∧
      ((reconcile now (.ok openOrders) (.ok positions)).body.left o).ShowsPosition p ∧
        Acquisition o (reconcile now (.ok openOrders) (.ok positions)) p := by
  generalize is : reconcile now (.ok openOrders) (.ok positions) = c at *
  have took' : (if o.needsReconciliation &&
        (c.grows o || decide ((c.body.left o).status = .filled)) then
      (o.matchPosition positions).map BrokerPosition.positionId else none) = some p := by
    subst is
    exact took
  by_cases both : (o.needsReconciliation &&
      (c.grows o || decide ((c.body.left o).status = .filled))) = true
  swap
  · rw [if_neg both] at took'
    exact absurd took' (by simp)
  rw [if_pos both] at took'
  obtain ⟨needs, changed⟩ := Bool.and_eq_true_iff.mp both
  obtain ⟨q, found, same⟩ := Option.map_eq_some_iff.mp took'
  have begun : o.status ≠ .intent := by
    rcases needsReconciliation_iff.mp needs with status | status <;> rw [status] <;> decide
  have fitting : positions.find? o.fits = some q := by rwa [← matchPosition_eq_find?]
  refine ⟨begun_of_begun begun c, ?_, .matched positions q (by subst is; rfl) needs fitting same⟩
  by_cases ticket : truthy o.brokerOrderId = true
  · have fits := List.find?_some fitting
    unfold ManagedOrder.fits at fits
    rw [if_pos ticket] at fits
    exact showsPosition_of_begun begun (.inl (same ▸ (of_decide_eq_true fits).symm)) c
  · have unnamed : o.matchOrder openOrders = none := by
      rw [← Option.not_isSome_iff_eq_none, matchOrder_isSome_iff]
      exact fun working => ticket working.1
    have settles : c.body.exec o = (settlePosition now q).exec (o.suspect now) := by
      subst is
      show (ManagedOrder.reconcile now (.ok openOrders) (.ok positions)).exec o = _
      rw [exec_reconcile_read now needs, exec_settle, unnamed, found]
    have unknown := suspect_status now needs
    have outcome := settlePosition_cases now unknown q
    rw [← settles] at outcome
    unfold grows Method.left at changed
    unfold Method.left
    generalize c.body.exec o = out at outcome changed
    cases outcome with
    | refused reason unfit fresh =>
      rw [unknown, suspect_book] at changed
      exact absurd changed (by simp)
    | recorded o' valid known status book =>
      obtain ⟨id, is, f, recorded, deal⟩ := FillBook.alreadyRecorded_iff.mp known
      refine .inr ⟨f, ?_, ?_⟩
      · rw [book]
        exact recorded
      · rw [deal, ← is, same]
    | applied f o' made fresh fits status book =>
      refine .inr ⟨f, ?_, ?_⟩
      · rw [book]
        exact List.mem_append_right _ List.mem_cons_self
      · rw [(FillReport.make_eq made).2.2]
        exact congrArg some same

theorem acquired_cases {o : ManagedOrder} {c : OrderCall} {p : String}
    (conventional : ∀ result, c.sentAnswer? = some result → o.status = .intent →
      truthy result.positionId = true → result.orderId = result.positionId)
    (took : c.acquired o = some p) :
    (c.body.left o).status ≠ .intent ∧ (c.body.left o).ShowsPosition p ∧ Acquisition o c p := by
  cases c with
  | submit now spec answer =>
    cases answer with
    | error e => exact absurd took (by simp [acquired])
    | ok result => exact acquired_submit (conventional result rfl) took
  | report now quantity price deal commission swap fillSource => exact acquired_report took
  | reconcile now openOrders positions =>
    rcases openOrders with e | openOrders
    · exact absurd took (by simp [acquired])
    rcases positions with e | positions
    · exact absurd took (by simp [acquired])
    exact acquired_reconcile took
  | close now brokerPositionId answer | cancel now reason answer
  | modify now approval stopLoss takeProfit answer | expire now =>
      exact absurd took (by simp [acquired])

end OrderCall

structure Desk where
  manager : OrderManager
  attributed : List (String × String)

inductive DeskEvent where
  | create (approval : Approval) (args : CreateArgs) (now : Time)
  | call (id : String) (c : OrderCall)
  | resume (o : ManagedOrder)

namespace Desk

def start (mode : Mode) (broker : Option String) : Desk :=
  { manager := OrderManager.fresh mode broker, attributed := [] }

def brought (o : ManagedOrder) : List (String × String) :=
  match o.brokerOrderId with
  | some ticket =>
    if ticket ≠ "" ∧ (o.book.fills ≠ [] ∨ o.status = .filled) then [(o.id, ticket)] else []
  | none => []

def step (d : Desk) : DeskEvent → Option Desk
  | .create approval args now =>
    (d.manager.step (.create approval args now)).map fun manager => { d with manager }
  | .call id c =>
    (d.manager.orders id).map fun o =>
      { manager :=
          { d.manager with
            orders := Function.update d.manager.orders id (some (c.body.left o)) }
        attributed := d.attributed ++ ((c.acquired o).map fun p => (id, p)).toList }
  | .resume o =>
    some { manager := d.manager.resume [o], attributed := d.attributed ++ brought o }

def Unowned (m : OrderManager) (id positionId : String) : Prop :=
  ∀ j o, j ≠ id → m.orders j = some o → ¬ o.ShowsPosition positionId

structure CallUnclaimed (d : Desk) (id : String) (o : ManagedOrder) (c : OrderCall) : Prop where
  conventional : ∀ result, c.sentAnswer? = some result → o.status = .intent →
    truthy result.positionId = true → result.orderId = result.positionId
  ticket : ∀ result p, c.sentAnswer? = some result → o.status = .intent →
    result.orderId = some p → p ≠ "" → Unowned d.manager id p
  position : ∀ positions p, c.readPositions? = some positions → o.needsReconciliation = true →
    positions.find? o.fits = some p → Unowned d.manager id p.positionId

structure ResumeUnclaimed (d : Desk) (o : ManagedOrder) : Prop where
  fresh : d.manager.orders o.id = none
  ticket : ∀ p, o.brokerOrderId = some p → p ≠ "" → Unowned d.manager o.id p
  unsent : o.status = .intent → o.book.fills = []

def Unclaimed (d : Desk) : DeskEvent → Prop
  | .create _ _ _ => True
  | .call id c => ∀ o, d.manager.orders id = some o → d.CallUnclaimed id o c
  | .resume o => d.ResumeUnclaimed o

structure Inv (d : Desk) : Prop where
  shown : ∀ i p, (i, p) ∈ d.attributed →
    ∃ o, d.manager.orders i = some o ∧ o.status ≠ .intent ∧ o.ShowsPosition p
  unique : ∀ i j p, (i, p) ∈ d.attributed → (j, p) ∈ d.attributed → i = j
  tickets : ∀ i o p, d.manager.orders i = some o → o.brokerOrderId = some p → p ≠ "" →
    ∀ j, (j, p) ∈ d.attributed → j = i
  distinct : ∀ i j o o' p, d.manager.orders i = some o → d.manager.orders j = some o' →
    o.brokerOrderId = some p → o'.brokerOrderId = some p → p ≠ "" → i = j

structure Sole (d : Desk) (id p : String) : Prop where
  attributed : ∀ j, (j, p) ∈ d.attributed → j = id
  ticket : ∀ i o, d.manager.orders i = some o → o.brokerOrderId = some p → p ≠ "" → i = id

section Steps

variable (inv : Inv d)
include inv

theorem Inv.sole_of_unowned {id p : String} (unowned : Unowned d.manager id p) : Sole d id p where
  attributed j made := by
    by_contra other
    obtain ⟨o, held, _, shown⟩ := inv.shown j p made
    exact unowned j o other held shown
  ticket i o held ticket _ := by
    by_contra other
    exact unowned i o other held (.inl ticket)

theorem Inv.sole_of_ticket {id p : String} {o : ManagedOrder}
    (held : d.manager.orders id = some o) (ticket : o.brokerOrderId = some p) (named : p ≠ "") :
    Sole d id p where
  attributed := inv.tickets id o p held ticket named
  ticket i o' held' ticket' _ := inv.distinct i id o' o p held' held ticket' ticket named

theorem Inv.sole_of_acquisition {id p : String} {o : ManagedOrder} {c : OrderCall}
    (held : d.manager.orders id = some o) (unclaimed : d.CallUnclaimed id o c)
    (acquisition : c.Acquisition o p) : Sole d id p := by
  cases acquisition with
  | answered result answer created ticket named =>
    exact inv.sole_of_unowned (unclaimed.ticket result p answer created ticket named)
  | reported ticket named => exact inv.sole_of_ticket held ticket named
  | matched positions q read needs found same =>
    exact inv.sole_of_unowned (same ▸ unclaimed.position positions q read needs found)

theorem Inv.sole_of_left {id p : String} {o : ManagedOrder} {c : OrderCall}
    (held : d.manager.orders id = some o) (unclaimed : d.CallUnclaimed id o c)
    (ticket : (c.body.left o).brokerOrderId = some p) (named : p ≠ "") : Sole d id p := by
  rcases OrderCall.brokerOrderId_cases o c with same | ⟨created, result, answer, _, is⟩
  · exact inv.sole_of_ticket held (same ▸ ticket) named
  · exact inv.sole_of_unowned (unclaimed.ticket result p answer created (is ▸ ticket) named)

theorem Inv.call {id : String} {o : ManagedOrder} {c : OrderCall}
    (held : d.manager.orders id = some o) (unclaimed : d.CallUnclaimed id o c) :
    Inv
      { manager :=
          { d.manager with
            orders := Function.update d.manager.orders id (some (c.body.left o)) }
        attributed := d.attributed ++ ((c.acquired o).map fun p => (id, p)).toList } := by
  have lookup : ∀ i o', Function.update d.manager.orders id (some (c.body.left o)) i = some o' →
      (i = id ∧ o' = c.body.left o) ∨ (i ≠ id ∧ d.manager.orders i = some o') := by
    intro i o' found
    by_cases same : i = id
    · subst same
      rw [Function.update_self, Option.some.injEq] at found
      exact .inl ⟨rfl, found.symm⟩
    · rw [Function.update_of_ne same] at found
      exact .inr ⟨same, found⟩
  have attributed : ∀ j p, (j, p) ∈ d.attributed ++ ((c.acquired o).map fun p => (id, p)).toList →
      (j, p) ∈ d.attributed ∨ (j = id ∧ c.acquired o = some p) := by
    intro j p made
    rcases List.mem_append.mp made with before | now
    · exact .inl before
    · obtain ⟨q, took, same⟩ := Option.map_eq_some_iff.mp (Option.mem_toList.mp now)
      obtain ⟨rfl, rfl⟩ := Prod.mk.inj same
      exact .inr ⟨rfl, took⟩
  have taken : ∀ p, c.acquired o = some p → (c.body.left o).status ≠ .intent ∧
      (c.body.left o).ShowsPosition p ∧ Sole d id p := by
    intro p took
    obtain ⟨begun, shown, acquisition⟩ :=
      OrderCall.acquired_cases (fun result => unclaimed.conventional result) took
    exact ⟨begun, shown, inv.sole_of_acquisition held unclaimed acquisition⟩
  refine ⟨?shown, ?unique, ?tickets, ?distinct⟩
  case shown =>
    intro i p made
    rcases attributed i p made with before | ⟨rfl, took⟩
    · obtain ⟨o', held', begun, shown⟩ := inv.shown i p before
      by_cases same : i = id
      · subst same
        obtain rfl : o = o' := Option.some.inj (held.symm.trans held')
        exact ⟨c.body.left o, Function.update_self _ _ _, OrderCall.begun_of_begun begun c,
          OrderCall.showsPosition_of_begun begun shown c⟩
      · exact ⟨o', (Function.update_of_ne same _ _).trans held', begun, shown⟩
    · exact ⟨c.body.left o, Function.update_self _ _ _, (taken p took).1, (taken p took).2.1⟩
  case unique =>
    intro i j p first second
    rcases attributed i p first with before | ⟨rfl, took⟩
    · rcases attributed j p second with before' | ⟨rfl, took'⟩
      · exact inv.unique i j p before before'
      · exact (taken p took').2.2.attributed i before
    · rcases attributed j p second with before' | ⟨rfl, _⟩
      · exact ((taken p took).2.2.attributed j before').symm
      · rfl
  case tickets =>
    intro i o' p found ticket named j made
    rcases attributed j p made with before | ⟨rfl, took⟩
    · rcases lookup i o' found with ⟨rfl, rfl⟩ | ⟨_, held'⟩
      · exact (inv.sole_of_left held unclaimed ticket named).attributed j before
      · exact inv.tickets i o' p held' ticket named j before
    · rcases lookup i o' found with ⟨rfl, _⟩ | ⟨_, held'⟩
      · rfl
      · exact ((taken p took).2.2.ticket i o' held' ticket named).symm
  case distinct =>
    intro i j o₁ o₂ p first second ticket ticket' named
    rcases lookup i o₁ first with ⟨rfl, rfl⟩ | ⟨_, held₁⟩
    · rcases lookup j o₂ second with ⟨rfl, _⟩ | ⟨_, held₂⟩
      · rfl
      · exact ((inv.sole_of_left held unclaimed ticket named).ticket j o₂ held₂ ticket' named).symm
    · rcases lookup j o₂ second with ⟨rfl, rfl⟩ | ⟨_, held₂⟩
      · exact (inv.sole_of_left held unclaimed ticket' named).ticket i o₁ held₁ ticket named
      · exact inv.distinct i j o₁ o₂ p held₁ held₂ ticket ticket' named

theorem Inv.register {o : ManagedOrder} (unclaimed : d.ResumeUnclaimed o) :
    Inv { manager := d.manager.register o, attributed := d.attributed ++ brought o } := by
  have lookup : ∀ i o', (d.manager.register o).orders i = some o' →
      (i = o.id ∧ o' = o) ∨ (i ≠ o.id ∧ d.manager.orders i = some o') := by
    intro i o' found
    rw [OrderManager.register_orders] at found
    by_cases same : i = o.id
    · subst same
      rw [Function.update_self, Option.some.injEq] at found
      exact .inl ⟨rfl, found.symm⟩
    · rw [Function.update_of_ne same] at found
      exact .inr ⟨same, found⟩
  have brings : ∀ j p, (j, p) ∈ brought o → j = o.id ∧ o.brokerOrderId = some p ∧ p ≠ "" ∧
      (o.book.fills ≠ [] ∨ o.status = .filled) := by
    intro j p made
    unfold brought at made
    cases ticket : o.brokerOrderId with
    | none =>
      rw [ticket] at made
      exact absurd made (by simp)
    | some t =>
      rw [ticket] at made
      dsimp only at made
      split at made
      · next both =>
        obtain ⟨rfl, rfl⟩ := Prod.mk.inj (List.mem_singleton.mp made)
        exact ⟨rfl, rfl, both.1, both.2⟩
      · exact absurd made (by simp)
  have sole : ∀ p, o.brokerOrderId = some p → p ≠ "" → Sole d o.id p := fun p ticket named =>
    inv.sole_of_unowned (unclaimed.ticket p ticket named)
  refine ⟨?shown, ?unique, ?tickets, ?distinct⟩
  case shown =>
    intro i p made
    rcases List.mem_append.mp made with before | now
    · obtain ⟨o', held, begun, shown⟩ := inv.shown i p before
      have other : i ≠ o.id := fun same => by
        rw [same, unclaimed.fresh] at held
        exact absurd held (by simp)
      exact ⟨o', (Function.update_of_ne other _ _).trans held, begun, shown⟩
    · obtain ⟨rfl, ticket, _, filled⟩ := brings i p now
      refine ⟨o, Function.update_self _ _ _, fun created => ?_, .inl ticket⟩
      rcases filled with some | filled
      · exact some (unclaimed.unsent created)
      · rw [created] at filled
        exact absurd filled (by decide)
  case unique =>
    intro i j p first second
    rcases List.mem_append.mp first with before | now
    · rcases List.mem_append.mp second with before' | now'
      · exact inv.unique i j p before before'
      · obtain ⟨rfl, ticket, named, _⟩ := brings j p now'
        exact (sole p ticket named).attributed i before
    · obtain ⟨rfl, ticket, named, _⟩ := brings i p now
      rcases List.mem_append.mp second with before' | now'
      · exact ((sole p ticket named).attributed j before').symm
      · exact (brings j p now').1.symm
  case tickets =>
    intro i o' p found ticket named j made
    rcases List.mem_append.mp made with before | now
    · rcases lookup i o' found with ⟨rfl, rfl⟩ | ⟨_, held⟩
      · exact (sole p ticket named).attributed j before
      · exact inv.tickets i o' p held ticket named j before
    · obtain ⟨rfl, ticket', named', _⟩ := brings j p now
      rcases lookup i o' found with ⟨rfl, _⟩ | ⟨_, held⟩
      · rfl
      · exact ((sole p ticket' named').ticket i o' held ticket named).symm
  case distinct =>
    intro i j o₁ o₂ p first second ticket ticket' named
    rcases lookup i o₁ first with ⟨rfl, rfl⟩ | ⟨_, held₁⟩
    · rcases lookup j o₂ second with ⟨rfl, _⟩ | ⟨_, held₂⟩
      · rfl
      · exact ((sole p ticket named).ticket j o₂ held₂ ticket' named).symm
    · rcases lookup j o₂ second with ⟨rfl, rfl⟩ | ⟨_, held₂⟩
      · exact (sole p ticket' named).ticket i o₁ held₁ ticket named
      · exact inv.distinct i j o₁ o₂ p held₁ held₂ ticket ticket' named

theorem Inv.step {d' : Desk} {e : DeskEvent} (unclaimed : d.Unclaimed e)
    (taken : d.step e = some d') : Inv d' := by
  cases e with
  | create approval args now =>
    obtain ⟨m, created, rfl⟩ := Option.map_eq_some_iff.mp taken
    obtain ⟨unused, rfl⟩ := OrderManager.step_create created
    rcases OrderManager.create_left d.manager approval args now with
      same | ⟨volume, positive, registered⟩
    · rw [same]
      exact inv
    · have added := inv.register
        (o := d.manager.newOrder approval args volume positive now)
        { fresh := unused
          ticket := fun p ticket _ => absurd ticket (by simp [OrderManager.newOrder])
          unsent := fun _ => rfl }
      rw [registered]
      simpa [brought, OrderManager.newOrder] using added
  | call id c =>
    obtain ⟨o, held, rfl⟩ := Option.map_eq_some_iff.mp taken
    exact inv.call held (unclaimed o held)
  | resume o =>
    cases taken
    exact inv.register unclaimed

end Steps

theorem Inv.start (mode : Mode) (broker : Option String) : Inv (start mode broker) where
  shown _ _ made := absurd made (by simp [Desk.start])
  unique _ _ _ made := absurd made (by simp [Desk.start])
  tickets _ _ _ held := absurd held (by simp [Desk.start, OrderManager.fresh])
  distinct _ _ _ _ _ held := absurd held (by simp [Desk.start, OrderManager.fresh])

def onePosition : OrderCall :=
  .reconcile 3 (.ok []) (.ok [plainPosition "7" "EURUSD" "long" 1 1])

def restart : List DeskEvent := [.resume ManagedOrder.lostAnswer, .call "order" onePosition]

def twoLost : List DeskEvent :=
  [.create (plainApproval "EURUSD" "buy" 1) (plainArgs "intent-a" "a") 0,
    .create (plainApproval "EURUSD" "buy" 1) (plainArgs "intent-b" "b") 0,
    .call "a" (.submit 1 (.ok (some (plainSymbol "EURUSD"))) (.error (.other "TimeoutError" []))),
    .call "b" (.submit 2 (.ok (some (plainSymbol "EURUSD"))) (.error (.other "TimeoutError" []))),
    .call "a" onePosition, .call "b" onePosition]

theorem twoLost_attributed :
    (Run.exec step (start .demo none) twoLost).map Desk.attributed =
      some [("a", "7"), ("b", "7")] := by
  decide +kernel

end Desk

end TradeResearch.Oms
