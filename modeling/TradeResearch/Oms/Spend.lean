import TradeResearch.Oms.Create
import TradeResearch.Oms.Frames

/-!
# What is sent under one approval

`create` and `submit` as a sequence of calls on one manager. Nothing takes an approval back: while
it stands, every intent that is new gets an order of its whole volume from it, and `submit` reads
the order's expiry and not the approval's.

* `Sendable` is when `submit` calls `place_order`; `exec_submit` is what becomes of the order.
* `Sender.step` is one call, with the requests the venue took kept in `Sender.sent`.
* `Honours` says that the volume sent under the decision of an approval stays within it, and that
  nothing is sent once it has expired. `honours_along_iff` is when a sequence of calls keeps it.
-/

namespace TradeResearch.Oms

open Brokers Risk

namespace ManagedOrder

def placing (now : Time) (spec : Answer (Option SymbolInfo)) : Method Exn ManagedOrder Bool := do
  if ← submitBegin now then submitSpec now spec else return false

structure Sendable (o : ManagedOrder) (now : Time) (spec : Answer (Option SymbolInfo)) : Prop where
  created : o.status = .intent
  live : ¬ (o.expiresAt.any fun t => decide (t ≤ now)) = true
  fits : ∃ info, spec = .ok info ∧ (validateOrder o.request info).isEmpty = true

section Placing

variable {o : ManagedOrder} {now : Time}

inductive PlacingCase (o : ManagedOrder) (now : Time) (spec : Answer (Option SymbolInfo)) :
    Except Exn Bool × ManagedOrder → Prop
  | refused (reason : Text) (elsewhere : o.status ≠ .intent) :
    PlacingCase o now spec (.error (.orderRefused reason), o)
  | unsent (o' : ManagedOrder) (created : o.status = .intent) (failed : o'.status = .failed)
      (unfit : ¬ o.Sendable now spec) : PlacingCase o now spec (.ok false, o')
  | sends (reason : Text) (sendable : o.Sendable now spec) :
    PlacingCase o now spec (.ok true, o.sending now reason)

theorem placing_cases (o : ManagedOrder) (now : Time) (spec : Answer (Option SymbolInfo)) :
    PlacingCase o now spec ((placing now spec).exec o) := by
  unfold placing submitBegin
  rw [Method.exec_bind, Method.exec_get_bind]
  by_cases created : o.status = .intent
  swap
  · rw [if_pos created]
    exact .refused _ created
  rw [if_neg (not_not.mpr created)]
  have mayFail : .failed ∈ o.status.transitions := by
    rw [created]
    decide
  have maySend : .submitting ∈ o.status.transitions := by
    rw [created]
    decide
  by_cases late : (o.expiresAt.any fun t => decide (t ≤ now)) = true
  · rw [if_pos late]
    rw [Method.exec_bind_ok (exec_move_of_mem now .expiry
      (Text.lit "the order expired before it was sent; nothing was transmitted") none mayFail)]
    refine .unsent _ created ?_ fun sendable => sendable.live late
    exact moved_status ..
  rw [if_neg late]
  dsimp only [Method.exec_pure]
  rw [if_pos rfl]
  unfold submitSpec
  rw [Method.exec_get_bind]
  cases spec with
  | error exc =>
    rw [Method.exec_bind_ok (exec_fail_of_mem now _ _ mayFail)]
    refine .unsent _ created (by simp) fun sendable => ?_
    obtain ⟨info, answered, -⟩ := sendable.fits
    cases answered
  | ok info =>
    dsimp only
    by_cases fit : (validateOrder o.request info).isEmpty = true
    · rw [if_pos fit, Method.exec_bind_ok (exec_move_of_mem now .pipeline _ none maySend)]
      exact .sends _ ⟨created, late, info, rfl, fit⟩
    · rw [if_neg fit, Method.exec_bind_ok (exec_fail_of_mem now _ _ mayFail)]
      refine .unsent _ created (by simp) fun sendable => ?_
      obtain ⟨info', answered, fit'⟩ := sendable.fits
      cases answered
      exact fit fit'

theorem exec_submit (answer : Answer OrderResult) :
    (submit now spec answer).exec o =
      match (placing now spec).exec o with
      | (.ok true, t) => (applyAnswer now answer).exec t
      | (.ok false, t) => (.ok (), t)
      | (.error e, t) => (.error e, t) := by
  unfold submit placing
  rw [Method.exec_bind, Method.exec_bind]
  rcases (submitBegin now).exec o with ⟨e | goes, t⟩
  · rfl
  · cases goes with
    | false => rfl
    | true =>
      dsimp only
      rw [if_pos rfl, if_pos rfl, Method.exec_bind]
      rcases (submitSpec now spec).exec t with ⟨e | sends, u⟩
      · rfl
      · cases sends <;> rfl

def unsent : Answer OrderResult → Bool
  | .error e => e.broker
  | .ok _ => false

def Reached (o : ManagedOrder) : Prop := o.status ≠ .intent ∧ o.status ≠ .failed

theorem reached_of_status {status : OrderStatus} (here : o.status = status)
    (new : status ≠ .intent) (failed : status ≠ .failed) : o.Reached := by
  rw [← here] at new failed
  exact ⟨new, failed⟩

theorem reached_parked (sending : o.status = .submitting) (reason : Text) :
    (o.parked now reason).Reached := by
  refine reached_of_status (parked_status o now reason) ?_ ?_
  · rw [sending]
    decide
  · rw [sending]
    decide

theorem reached_record (accepted : o.status = .accepted) (report : FillReport) :
    ((record report now).left o).Reached := by
  have here : o.Reached := reached_of_status accepted (by decide) (by decide)
  have outcome := record_cases report now o
  unfold Method.left
  generalize ran : (record report now).exec o = out at outcome
  cases outcome with
  | invalid reason refused | recorded f made known | overfilled f made fresh overfull => exact here
  | applied f made fresh fits legal time reason =>
    refine reached_of_status (moved_status ..) ?_ ?_
    · unfold impliedStatus
      split <;> decide
    · unfold impliedStatus
      split <;> decide
  | stranded f made fresh fits illegal => exact here

theorem reached_applyAnswer (sending : o.status = .submitting) {answer : Answer OrderResult}
    (sent : unsent answer = false) : ((applyAnswer now answer).left o).Reached := by
  have mayGo : .submitted ∈ o.status.transitions := by
    rw [sending]
    decide
  unfold Method.left
  cases answer with
  | error e =>
    have unsure : ∀ type reason, e ≠ .brokerError type reason := by
      rintro type reason rfl
      cases sent
    rw [exec_applyAnswer_raised o now unsure]
    exact reached_parked sending _
  | ok result =>
    show ((applyResult now result).exec o).2.Reached
    cases verdict : result.status with
    | unknown =>
      rw [exec_applyResult_unknown o now result verdict]
      exact reached_parked (by rw [named_status, sending]) _
    | rejected =>
      rw [exec_applyResult_rejected o now result verdict mayGo]
      exact reached_of_status (refused_status o now result) (by decide) (by decide)
    | accepted =>
      cases fill : resultFill result now with
      | none =>
        rw [exec_applyResult_accepted o now result verdict mayGo fill]
        exact reached_of_status (taken_status o now result) (by decide) (by decide)
      | some report =>
        rw [exec_applyResult_filled o now result verdict mayGo fill]
        exact reached_record (taken_status o now result) report

theorem failed_applyAnswer (sending : o.status = .submitting) {answer : Answer OrderResult}
    (refused : unsent answer = true) : ((applyAnswer now answer).left o).status = .failed := by
  have mayFail : .failed ∈ o.status.transitions := by
    rw [sending]
    decide
  unfold Method.left
  cases answer with
  | error e =>
    cases e with
    | brokerError type reason =>
      rw [exec_applyAnswer_broker o now mayFail]
      exact failedAs_status ..
    | _ => cases refused
  | ok result => cases refused

end Placing

section Decision

variable {decision : Option String} (now : Time)

def Under (decision : Option String) (o : ManagedOrder) : Prop := o.riskDecisionId = decision

theorem standing_under : Standing (Under decision) where
  moved o wanted _ _ _ _ _ under := by
    cases wanted <;> exact under
  filled _ _ _ _ under := under
  annotated _ _ _ under := under

theorem renamable_under : Renamable (Under decision) := fun _ _ under => under

theorem under_submit (spec : Answer (Option SymbolInfo)) (answer : Answer OrderResult) :
    Method.Keeps (Under decision) (submit now spec answer) :=
  keeps_submit standing_under renamable_under now spec answer

end Decision

end ManagedOrder

structure Transmission where
  orderId : String
  decisionId : Option String
  volume : ℚ
  time : Time

def ManagedOrder.transmits (o : ManagedOrder) (now : Time) (spec : Answer (Option SymbolInfo))
    (answer : Answer OrderResult) : List Transmission :=
  match (ManagedOrder.placing now spec).answer o with
  | .ok true =>
    if ManagedOrder.unsent answer then []
    else [{ orderId := o.id, decisionId := o.riskDecisionId, volume := o.request.volume
            time := now }]
  | _ => []

structure Sender where
  manager : OrderManager
  sent : List Transmission

inductive SendCall where
  | create (approval : Approval) (args : CreateArgs) (now : Time)
  | submit (id : String) (now : Time) (spec : Answer (Option SymbolInfo))
      (answer : Answer OrderResult)

def volumeUnder (decision : String) (sent : List Transmission) : ℚ :=
  ((sent.filter fun t => t.decisionId = some decision).map Transmission.volume).sum

namespace Sender

def fresh (mode : Mode) (broker : Option String) : Sender :=
  { manager := OrderManager.fresh mode broker, sent := [] }

def step (d : Sender) : SendCall → Option Sender
  | .create approval args now =>
    (d.manager.step (.create approval args now)).map fun manager => { d with manager }
  | .submit id now spec answer =>
    (d.manager.orders id).map fun o =>
      { manager :=
          { d.manager with
            orders := Function.update d.manager.orders id
              (some ((ManagedOrder.submit now spec answer).left o)) }
        sent := d.sent ++ o.transmits now spec answer }

def Honours (approval : Approval) (d : Sender) : Prop :=
  volumeUnder approval.decisionId d.sent ≤ approval.approvedVolume.getD 0 ∧
    ∀ t ∈ d.sent, t.decisionId = some approval.decisionId →
      ∀ expiry ∈ approval.expiresAt, t.time < expiry

def IssuedOnce (approval : Approval) (_ : Sender) : SendCall → Prop
  | .create other _ _ => other.decisionId = approval.decisionId → other = approval
  | .submit .. => True

def Unspent (approval : Approval) (d : Sender) : SendCall → Prop
  | .create .. => True
  | .submit id now spec answer =>
    ∀ o, d.manager.orders id = some o → o.Under (some approval.decisionId) →
      o.Sendable now spec → ManagedOrder.unsent answer = false →
        (∀ id' o', id' ≠ id → d.manager.orders id' = some o' →
          o'.Under (some approval.decisionId) → ¬ o'.Reached) ∧
        ∀ expiry ∈ approval.expiresAt, now < expiry

structure Accounted (approval : Approval) (d : Sender) : Prop where
  ordered : ∀ id o, d.manager.orders id = some o → o.Under (some approval.decisionId) →
    approval.approvedVolume = some o.quantity ∧ 0 < o.quantity
  taken : ∀ t ∈ d.sent, t.decisionId = some approval.decisionId →
    approval.approvedVolume = some t.volume ∧ 0 < t.volume
  reached : (∃ t ∈ d.sent, t.decisionId = some approval.decisionId) ↔
    ∃ id o, d.manager.orders id = some o ∧ o.Under (some approval.decisionId) ∧ o.Reached

end Sender

section Volume

variable {decision : String}

theorem volumeUnder_append (sent more : List Transmission) :
    volumeUnder decision (sent ++ more) =
      volumeUnder decision sent + volumeUnder decision more := by
  unfold volumeUnder
  rw [List.filter_append, List.map_append, List.sum_append]

theorem volumeUnder_singleton_of_under {t : Transmission} (under : t.decisionId = some decision) :
    volumeUnder decision [t] = t.volume := by
  unfold volumeUnder
  simp [under]

theorem volumeUnder_singleton_of_not {t : Transmission} (other : t.decisionId ≠ some decision) :
    volumeUnder decision [t] = 0 := by
  unfold volumeUnder
  simp [other]

theorem volumeUnder_nonpos_iff
    (positive : ∀ t ∈ sent, t.decisionId = some decision → 0 < t.volume) :
    volumeUnder decision sent ≤ 0 ↔ ∀ t ∈ sent, t.decisionId ≠ some decision := by
  unfold volumeUnder
  constructor
  · intro nothing t mem under
    have kept : t ∈ sent.filter fun t => t.decisionId = some decision :=
      List.mem_filter.mpr ⟨mem, decide_eq_true under⟩
    have rest : ∀ v ∈ (sent.filter fun t => t.decisionId = some decision).map Transmission.volume,
        0 ≤ v := by
      intro v held
      obtain ⟨u, kept', rfl⟩ := List.mem_map.mp held
      obtain ⟨mem', under'⟩ := List.mem_filter.mp kept'
      exact (positive u mem' (of_decide_eq_true under')).le
    have counted := List.single_le_sum rest t.volume (List.mem_map_of_mem kept)
    have volume := positive t mem under
    linarith
  · intro none
    have empty : (sent.filter fun t => t.decisionId = some decision) = [] :=
      List.filter_eq_nil_iff.mpr fun t mem under => none t mem (of_decide_eq_true under)
    rw [empty]
    exact le_refl _

end Volume

section Calls

variable {o : ManagedOrder} {now : Time} {spec : Answer (Option SymbolInfo)}

theorem ManagedOrder.transmits_cases (o : ManagedOrder) (now : Time)
    (spec : Answer (Option SymbolInfo)) (answer : Answer OrderResult) :
    (o.Sendable now spec ∧ unsent answer = false ∧
      o.transmits now spec answer =
        [{ orderId := o.id, decisionId := o.riskDecisionId, volume := o.quantity, time := now }]) ∨
      ¬ (o.Sendable now spec ∧ unsent answer = false) ∧ o.transmits now spec answer = [] := by
  unfold transmits Method.answer
  have outcome := placing_cases o now spec
  generalize (placing now spec).exec o = out at outcome
  cases outcome with
  | refused reason elsewhere =>
    exact .inr ⟨fun both => elsewhere both.1.created, rfl⟩
  | unsent o' created failed unfit => exact .inr ⟨fun both => unfit both.1, rfl⟩
  | sends reason sendable =>
    cases refused : ManagedOrder.unsent answer with
    | true => exact .inr ⟨(fun both => by cases both.2), rfl⟩
    | false => exact .inl ⟨sendable, rfl, rfl⟩

theorem ManagedOrder.reached_submit_iff :
    ((submit now spec answer).left o).Reached ↔
      o.Reached ∨ o.Sendable now spec ∧ unsent answer = false := by
  unfold Method.left
  rw [exec_submit]
  have outcome := placing_cases o now spec
  generalize (placing now spec).exec o = out at outcome
  cases outcome with
  | refused reason elsewhere =>
    refine ⟨.inl, fun either => ?_⟩
    rcases either with reached | ⟨sendable, -⟩
    · exact reached
    · exact absurd sendable.created elsewhere
  | unsent o' created failed unfit =>
    refine ⟨fun reached => absurd failed reached.2, fun either => ?_⟩
    rcases either with reached | ⟨sendable, -⟩
    · exact absurd created reached.1
    · exact absurd sendable unfit
  | sends reason sendable =>
    have created := sendable.created
    have sending : (o.sending now reason).status = .submitting := sending_status o now reason
    cases refused : ManagedOrder.unsent answer with
    | true =>
      have failed : ((applyAnswer now answer).left (o.sending now reason)).status = .failed :=
        failed_applyAnswer sending refused
      refine ⟨fun reached => absurd failed reached.2, fun either => ?_⟩
      rcases either with reached | ⟨-, sent⟩
      · exact absurd created reached.1
      · cases sent
    | false =>
      exact ⟨fun _ => .inr ⟨sendable, rfl⟩, fun _ => reached_applyAnswer sending refused⟩

theorem ManagedOrder.under_submit_iff {decision : Option String} :
    ((submit now spec answer).left o).Under decision ↔ o.Under decision := by
  have same : ((submit now spec answer).left o).Under o.riskDecisionId :=
    under_submit now spec answer o rfl
  unfold Under at same ⊢
  rw [same]

theorem ManagedOrder.quantity_submit : ((submit now spec answer).left o).quantity = o.quantity :=
  (keeps_body (stable_sameOrder o).lasting (renamable_sameOrder o) (.submit now spec answer) o
    (SameOrder.refl o)).quantity

end Calls

theorem OrderManager.create_left_of_approved (m : OrderManager) (approval : Approval)
    (args : CreateArgs) (now : Time) :
    (create approval args now).left m = m ∨
      ∃ volume positive, approval.approvedVolume = some volume ∧
        (create approval args now).left m =
          m.register (m.newOrder approval args volume positive now) := by
  unfold Method.left
  generalize called : (create approval args now).exec m = out
  have outcome := create_cases m approval args now
  rw [called] at outcome
  cases outcome with
  | refused e | duplicate existing known => exact .inl rfl
  | created volume positive fresh =>
    obtain ⟨new, accepts⟩ := accepts_of_created called
    obtain ⟨volume', positive', approved, ran⟩ := exec_create_of_new accepts new
    refine .inr ⟨volume', positive', approved, ?_⟩
    rw [called] at ran
    exact congrArg Prod.snd ran

namespace Sender

section Steps

variable {d d' : Sender}

theorem create_taken {other : Approval} {args : CreateArgs} {now : Time}
    (taken : d.step (.create other args now) = some d') :
    d' = d ∨ ∃ volume positive, d.manager.orders args.orderId = none ∧
      other.approvedVolume = some volume ∧
        d' = { d with
          manager := d.manager.register (d.manager.newOrder other args volume positive now) } := by
  obtain ⟨m, made, rfl⟩ := Option.map_eq_some_iff.mp taken
  obtain ⟨free, rfl⟩ := OrderManager.step_create made
  rcases OrderManager.create_left_of_approved d.manager other args now with
    same | ⟨volume, positive, approved, registered⟩
  · refine .inl ?_
    rw [same]
  · refine .inr ⟨volume, positive, free, approved, ?_⟩
    rw [registered]

theorem submit_taken {id : String} {now : Time} {spec : Answer (Option SymbolInfo)}
    {answer : Answer OrderResult} (taken : d.step (.submit id now spec answer) = some d') :
    ∃ o, d.manager.orders id = some o ∧
      d'.manager.orders = Function.update d.manager.orders id
        (some ((ManagedOrder.submit now spec answer).left o)) ∧
      d'.sent = d.sent ++ o.transmits now spec answer := by
  obtain ⟨o, held, rfl⟩ := Option.map_eq_some_iff.mp taken
  exact ⟨o, held, rfl, rfl⟩

theorem Accounted.create {other : Approval} {args : CreateArgs} {now : Time}
    (accounted : d.Accounted approval) (once : d.IssuedOnce approval (.create other args now))
    (taken : d.step (.create other args now) = some d') : d'.Accounted approval := by
  rcases create_taken taken with rfl | ⟨volume, positive, free, approved, rfl⟩
  · exact accounted
  have orders (id : String) :
      (d.manager.register (d.manager.newOrder other args volume positive now)).orders id =
        if id = args.orderId then some (d.manager.newOrder other args volume positive now)
        else d.manager.orders id := by
    exact Function.update_apply ..
  refine ⟨fun id o held under => ?_, accounted.taken, accounted.reached.trans ?_⟩
  · rw [orders] at held
    by_cases here : id = args.orderId
    · rw [if_pos here] at held
      cases held
      have same : other = approval := once (Option.some.inj under)
      rw [← same]
      exact ⟨approved, positive⟩
    · rw [if_neg here] at held
      exact accounted.ordered id o held under
  · constructor
    · rintro ⟨id, o, held, under, reached⟩
      have elsewhere : id ≠ args.orderId := by
        rintro rfl
        rw [free] at held
        cases held
      refine ⟨id, o, ?_, under, reached⟩
      rw [orders, if_neg elsewhere]
      exact held
    · rintro ⟨id, o, held, under, reached⟩
      rw [orders] at held
      by_cases here : id = args.orderId
      · rw [if_pos here] at held
        cases held
        exact absurd rfl reached.1
      · rw [if_neg here] at held
        exact ⟨id, o, held, under, reached⟩

theorem Accounted.submit {id : String} {now : Time} {spec : Answer (Option SymbolInfo)}
    {answer : Answer OrderResult} (accounted : d.Accounted approval)
    (taken : d.step (.submit id now spec answer) = some d') : d'.Accounted approval := by
  obtain ⟨o, held, orders, sent⟩ := submit_taken taken
  have there (id' : String) (o' : ManagedOrder) (held' : d'.manager.orders id' = some o') :
      id' = id ∧ o' = (ManagedOrder.submit now spec answer).left o ∨
        id' ≠ id ∧ d.manager.orders id' = some o' := by
    rw [orders, Function.update_apply] at held'
    by_cases here : id' = id
    · rw [if_pos here] at held'
      exact .inl ⟨here, (Option.some.inj held').symm⟩
    · rw [if_neg here] at held'
      exact .inr ⟨here, held'⟩
  have after : d'.manager.orders id = some ((ManagedOrder.submit now spec answer).left o) := by
    rw [orders, Function.update_self]
  refine ⟨fun id' o' held' under => ?_, fun t mem under => ?_, ?_⟩
  · rcases there id' o' held' with ⟨-, rfl⟩ | ⟨-, before⟩
    · rw [ManagedOrder.quantity_submit]
      exact accounted.ordered id o held (ManagedOrder.under_submit_iff.mp under)
    · exact accounted.ordered id' o' before under
  · rw [sent] at mem
    rcases List.mem_append.mp mem with mem | mem
    · exact accounted.taken t mem under
    · rcases o.transmits_cases now spec answer with ⟨-, -, one⟩ | ⟨-, none⟩
      · rw [one] at mem
        cases List.mem_singleton.mp mem
        exact accounted.ordered id o held under
      · rw [none] at mem
        exact absurd mem List.not_mem_nil
  · constructor
    · rintro ⟨t, mem, under⟩
      rw [sent] at mem
      rcases List.mem_append.mp mem with mem | mem
      · obtain ⟨id', o', held', under', reached⟩ := accounted.reached.mp ⟨t, mem, under⟩
        by_cases here : id' = id
        · subst here
          cases held.symm.trans held'
          exact ⟨id', _, after, ManagedOrder.under_submit_iff.mpr under',
            ManagedOrder.reached_submit_iff.mpr (.inl reached)⟩
        · refine ⟨id', o', ?_, under', reached⟩
          rw [orders, Function.update_of_ne here]
          exact held'
      · rcases o.transmits_cases now spec answer with ⟨sendable, answered, one⟩ | ⟨-, none⟩
        · rw [one] at mem
          cases List.mem_singleton.mp mem
          exact ⟨id, _, after, ManagedOrder.under_submit_iff.mpr under,
            ManagedOrder.reached_submit_iff.mpr (.inr ⟨sendable, answered⟩)⟩
        · rw [none] at mem
          exact absurd mem List.not_mem_nil
    · rintro ⟨id', o', held', under, reached⟩
      rw [sent]
      rcases there id' o' held' with ⟨-, rfl⟩ | ⟨-, before⟩
      · have under' := ManagedOrder.under_submit_iff.mp under
        rcases ManagedOrder.reached_submit_iff.mp reached with earlier | ⟨sendable, answered⟩
        · obtain ⟨t, mem, same⟩ := accounted.reached.mpr ⟨id, o, held, under', earlier⟩
          exact ⟨t, List.mem_append_left _ mem, same⟩
        · rcases o.transmits_cases now spec answer with ⟨-, -, one⟩ | ⟨refused, -⟩
          · rw [one]
            exact ⟨_, List.mem_append_right _ (List.mem_singleton_self _), under'⟩
          · exact absurd ⟨sendable, answered⟩ refused
      · obtain ⟨t, mem, same⟩ := accounted.reached.mpr ⟨id', o', before, under, reached⟩
        exact ⟨t, List.mem_append_left _ mem, same⟩

theorem honours_sent_iff {id : String} {o : ManagedOrder} {now : Time}
    {spec : Answer (Option SymbolInfo)} {answer : Answer OrderResult}
    (accounted : d.Accounted approval)
    (held : d.manager.orders id = some o) (under : o.Under (some approval.decisionId))
    (sendable : o.Sendable now spec) (answered : ManagedOrder.unsent answer = false)
    (sent : d'.sent = d.sent ++
      [{ orderId := o.id, decisionId := o.riskDecisionId, volume := o.quantity, time := now }]) :
    d'.Honours approval ↔ d.Unspent approval (.submit id now spec answer) := by
  obtain ⟨approved, positive⟩ := accounted.ordered id o held under
  have volume : volumeUnder approval.decisionId d'.sent =
      volumeUnder approval.decisionId d.sent + o.quantity := by
    rw [sent, volumeUnder_append]
    exact congrArg _ (volumeUnder_singleton_of_under under)
  have nothing := volumeUnder_nonpos_iff fun t mem same => (accounted.taken t mem same).2
  unfold Honours
  rw [volume, approved, Option.getD_some]
  constructor
  · rintro ⟨within, before⟩ o₁ held₁ - - -
    have none := nothing.mp (by linarith)
    refine ⟨fun id' o' _ held' under' reached => ?_, ?_⟩
    · obtain ⟨t, mem, same⟩ := accounted.reached.mpr ⟨id', o', held', under', reached⟩
      exact none t mem same
    · have last := List.mem_append_right d.sent (List.mem_singleton_self
        ({ orderId := o.id, decisionId := o.riskDecisionId, volume := o.quantity
           time := now } : Transmission))
      rw [← sent] at last
      exact before _ last under
  · intro unspent
    obtain ⟨others, live⟩ := unspent o held under sendable answered
    have none (t : Transmission) (mem : t ∈ d.sent) :
        t.decisionId ≠ some approval.decisionId := by
      intro same
      obtain ⟨id', o', held', under', reached⟩ := accounted.reached.mp ⟨t, mem, same⟩
      by_cases here : id' = id
      · subst here
        cases held.symm.trans held'
        exact reached.1 sendable.created
      · exact others id' o' here held' under' reached
    have still := nothing.mpr none
    refine ⟨by linarith, fun t mem same => ?_⟩
    rw [sent] at mem
    rcases List.mem_append.mp mem with mem | mem
    · exact absurd same (none t mem)
    · cases List.mem_singleton.mp mem
      exact live

theorem honours_step_iff {call : SendCall} (accounted : d.Accounted approval)
    (honours : d.Honours approval) (taken : d.step call = some d') :
    d'.Honours approval ↔ d.Unspent approval call := by
  cases call with
  | create other args now =>
    refine iff_of_true ?_ trivial
    rcases create_taken taken with rfl | ⟨volume, positive, -, -, rfl⟩
    · exact honours
    · exact honours
  | submit id now spec answer =>
    obtain ⟨o, held, -, sent⟩ := submit_taken taken
    rcases o.transmits_cases now spec answer with ⟨sendable, answered, one⟩ | ⟨refused, none⟩
    · rw [one] at sent
      by_cases under : o.Under (some approval.decisionId)
      · exact honours_sent_iff accounted held under sendable answered sent
      · have other : volumeUnder approval.decisionId d'.sent =
            volumeUnder approval.decisionId d.sent := by
          rw [sent, volumeUnder_append, add_eq_left]
          exact volumeUnder_singleton_of_not under
        refine iff_of_true ⟨?_, fun t mem same => ?_⟩ fun o₁ held₁ under₁ => ?_
        · rw [other]
          exact honours.1
        · rw [sent] at mem
          rcases List.mem_append.mp mem with mem | mem
          · exact honours.2 t mem same
          · cases List.mem_singleton.mp mem
            exact absurd same under
        · cases held.symm.trans held₁
          exact absurd under₁ under
    · rw [none, List.append_nil] at sent
      refine iff_of_true ⟨by rw [sent]; exact honours.1, by rw [sent]; exact honours.2⟩ ?_
      intro o₁ held₁ _ sendable answered
      cases held.symm.trans held₁
      exact absurd ⟨sendable, answered⟩ refused

end Steps

theorem accounted_fresh (mode : Mode) (broker : Option String) (approval : Approval) :
    (fresh mode broker).Accounted approval where
  ordered _ _ held := by cases held
  taken _ mem := absurd mem List.not_mem_nil
  reached := by
    refine ⟨fun ⟨_, mem, _⟩ => absurd mem List.not_mem_nil, fun ⟨_, _, held, _⟩ => ?_⟩
    cases held

/-- A sequence of calls honours an approval exactly when every submission finds it unspent. -/
theorem honours_along_iff (mode : Mode) (broker : Option String) (approval : Approval)
    (calls : List SendCall)
    (once : Run.Meets step (IssuedOnce approval) (fresh mode broker) calls) :
    Run.Along step (Honours approval) (fresh mode broker) calls ↔
      0 ≤ approval.approvedVolume.getD 0 ∧
        Run.Meets step (Unspent approval) (fresh mode broker) calls := by
  have start : (fresh mode broker).Honours approval ↔ 0 ≤ approval.approvedVolume.getD 0 :=
    and_iff_left fun _ mem => absurd mem List.not_mem_nil
  have kept (d : Sender) (call : SendCall) (d' : Sender) (accounted : d.Accounted approval)
      (once : d.IssuedOnce approval call) (taken : d.step call = some d') :
      d'.Accounted approval := by
    cases call with
    | create other args now => exact accounted.create once taken
    | submit id now spec answer => exact accounted.submit taken
  have blocked (d : Sender) (call : SendCall) (refused : d.step call = none) :
      d.Unspent approval call := by
    cases call with
    | create other args now => exact trivial
    | submit id now spec answer =>
      intro o held
      have unknown : d.manager.orders id = none := Option.map_eq_none_iff.mp refused
      rw [unknown] at held
      cases held
  have along (volume : 0 ≤ approval.approvedVolume.getD 0) :=
    Run.along_iff_meets_of_given kept
      (fun _ _ _ accounted honours _ taken => honours_step_iff accounted honours taken) blocked
      (accounted_fresh mode broker approval) (start.mpr volume) once
  constructor
  · intro honours
    have volume := start.mp honours.first
    exact ⟨volume, (along volume).mp honours⟩
  · rintro ⟨volume, unspent⟩
    exact (along volume).mpr unspent

end Sender

def minuteApproval : Approval :=
  { plainApproval "EURUSD" "buy" 1 with expiresAt := some 60 }

def takes : Answer OrderResult := .ok (OrderResult.bare .accepted [])

def onceSent : List SendCall :=
  [.create minuteApproval (plainArgs "intent-1" "order-1") 0,
    .submit "order-1" 10 (.ok (some (plainSymbol "EURUSD"))) takes]

theorem honours_onceSent :
    Run.Meets Sender.step (Sender.IssuedOnce minuteApproval) (Sender.fresh .demo none) onceSent ∧
      (Run.Along Sender.step (Sender.Honours minuteApproval) (Sender.fresh .demo none) onceSent ↔
        0 ≤ minuteApproval.approvedVolume.getD 0 ∧
          Run.Meets Sender.step (Sender.Unspent minuteApproval) (Sender.fresh .demo none)
            onceSent) := by
  have once : Run.Meets Sender.step (Sender.IssuedOnce minuteApproval)
      (Sender.fresh .demo none) onceSent :=
    ⟨fun _ => rfl, fun _ _ => ⟨trivial, fun _ _ => trivial⟩⟩
  exact ⟨once, Sender.honours_along_iff .demo none minuteApproval onceSent once⟩

def twiceSent : List SendCall :=
  [.create minuteApproval (plainArgs "intent-1" "order-1") 0,
    .create minuteApproval (plainArgs "intent-2" "order-2") 1,
    .submit "order-1" 10 (.ok (some (plainSymbol "EURUSD"))) takes,
    .submit "order-2" 70 (.ok (some (plainSymbol "EURUSD"))) takes]

theorem twiceSent_ends :
    (Run.exec Sender.step (Sender.fresh .demo none) twiceSent).map
      (fun d => d.sent.map fun t => (t.decisionId, t.volume, t.time)) =
      some [(some "decision", 1, 10), (some "decision", 1, 70)] := by
  decide +kernel

/-- One approval authorises as many orders as there are intents, for as long as they wait. -/
theorem not_forall_honours :
    ¬ ∀ (mode : Mode) (broker : Option String) (approval : Approval) (calls : List SendCall),
      Run.Meets Sender.step (Sender.IssuedOnce approval) (Sender.fresh mode broker) calls →
        Run.Along Sender.step (Sender.Honours approval) (Sender.fresh mode broker) calls := by
  intro all
  have once : Run.Meets Sender.step (Sender.IssuedOnce minuteApproval)
      (Sender.fresh .demo none) twiceSent :=
    ⟨fun _ => rfl, fun _ _ => ⟨fun _ => rfl, fun _ _ => ⟨trivial, fun _ _ =>
      ⟨trivial, fun _ _ => trivial⟩⟩⟩⟩
  obtain ⟨d, run, ended⟩ := Option.map_eq_some_iff.mp twiceSent_ends
  have honours := (all .demo none minuteApproval twiceSent once).last run
  have late : (some "decision", (1 : ℚ), (70 : Time)) ∈
      d.sent.map fun t => (t.decisionId, t.volume, t.time) := by
    rw [ended]
    exact List.mem_cons_of_mem _ (List.mem_singleton_self _)
  obtain ⟨t, mem, same⟩ := List.mem_map.mp late
  obtain ⟨under, rest⟩ := Prod.mk.inj same
  have inTime : t.time < 60 := honours.2 t mem under 60 rfl
  rw [(Prod.mk.inj rest).2] at inTime
  exact absurd inTime (by norm_num)

end TradeResearch.Oms
