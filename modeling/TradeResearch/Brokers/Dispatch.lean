import TradeResearch.Brokers.Mt5

/-!
# What a result says about the request

A request is dispatched by one terminal call. When that call raised or gave no answer the request
may have been executed, and the only true results are `unknown` and an exception that is not a
`BrokerError`; `rejected` and a `BrokerError` are read as nothing having happened. `Honest` says a
result respects this, `Refusals` which retcodes refuse.

* `placeOrder_honest_iff`, `modifyOrder_honest_iff`, `cancelOrder_honest_iff` and
  `closePosition_honest_iff` say when each of the four requests is answered honestly.
-/

namespace TradeResearch.Brokers.Mt5

open Oms

structure Refusals where
  codes : ℤ → Prop
  not_done : ¬ codes tradeRetcodeDone

def Denies : Answer OrderResult → Prop
  | .ok result => result.status = .rejected
  | .error e => e.broker = true

def Unsure : Answer OrderResult → Prop
  | .ok result => result.status = .unknown
  | .error e => e.broker = false

def Honest (refusals : Refusals) (dispatched : Prop) (send : TerminalCall SendResult)
    (out : Answer OrderResult) : Prop :=
  dispatched →
    match send with
    | .answered result => Denies out → refusals.codes result.retcode
    | _ => Unsure out

def Returned {α : Type} : TerminalCall α → Prop
  | .raised _ _ => False
  | _ => True

def Settled (refusals : Refusals) (result : SendResult) : Prop :=
  result.retcode = tradeRetcodeDone ∨ refusals.codes result.retcode

variable (refusals : Refusals) (state : ConnectionState)

theorem not_denies_of_unsure {out : Answer OrderResult} (unsure : Unsure out) : ¬ Denies out := by
  cases out with
  | ok result | error e =>
    intro denied
    rw [Denies, unsure] at denied
    exact absurd denied (by decide)

theorem done_iff {send : TerminalCall SendResult} :
    done send = true ↔ ∃ result, send = .answered result ∧ result.retcode = tradeRetcodeDone := by
  cases send with
  | raised type reason | noAnswer | answered result => simp [done]

theorem not_denies_of_accepted {result : OrderResult} (accepted : result.status = .accepted) :
    ¬ Denies (.ok result) := by
  intro denied
  rw [Denies, accepted] at denied
  exact absurd denied (by decide)

def SafelyRead : TerminalCall SendResult → Prop
  | .raised _ _ => True
  | .noAnswer => False
  | .answered result => Settled refusals result

def CancelDispatched : Prop := state = .connected

theorem cancelOrder_honest_iff (send : TerminalCall SendResult) (orderId : String) :
    Honest refusals (CancelDispatched state) send (cancelOrder state send orderId) ↔
      (CancelDispatched state → SafelyRead refusals send) := by
  refine forall_congr' fun connected => ?_
  have is : state = .connected := connected
  unfold cancelOrder
  rw [if_neg (not_not.mpr is)]
  cases send with
  | raised type reason => exact iff_of_true rfl True.intro
  | noAnswer => exact iff_of_false (fun unsure => by cases unsure) id
  | answered result =>
    by_cases did : result.retcode = tradeRetcodeDone
    · refine iff_of_true (fun denied => absurd denied (not_denies_of_accepted ?_)) (.inl did)
      simp [done, did, OrderResult.bare]
    · refine ⟨fun honest => .inr (honest ?_), fun settled _ => settled.resolve_left did⟩
      simp [Denies, done, did, OrderResult.bare]

def ModifyDispatched (positionsGet : TerminalCall OpenBook) (positionId : String) : Prop :=
  state = .connected ∧
    ∃ book, positionsGet = .answered book ∧
      ∃ p ∈ book.positions, ticketText p.ticket = positionId

theorem modifyOrder_error {positionsGet : TerminalCall OpenBook}
    {orderSend : TerminalCall SendResult} {positionId : String} {e : Exn}
    (raised : modifyOrder state positionsGet orderSend positionId = .error e) :
    e.broker = true ↔ state ≠ .connected := by
  unfold modifyOrder at raised
  by_cases is : state = .connected
  · rw [if_neg (not_not.mpr is)] at raised
    unfold getPositions at raised
    rw [if_neg (not_not.mpr is)] at raised
    cases positionsGet with
    | raised type reason =>
      cases raised
      exact iff_of_false Bool.false_ne_true (not_not.mpr is)
    | noAnswer => cases raised
    | answered book =>
      simp only at raised
      split at raised
      · cases orderSend <;> cases raised
      · cases raised
  · rw [if_pos is] at raised
    cases raised
    exact iff_of_true rfl is

theorem modifyOrder_dispatched {positionsGet : TerminalCall OpenBook} {positionId : String}
    (dispatched : ModifyDispatched state positionsGet positionId) :
    state = .connected ∧ ∃ positions, getPositions state positionsGet none = .ok positions ∧
      (positions.any fun p => decide (p.positionId = positionId)) = true := by
  obtain ⟨is, book, rfl, p, mem, named⟩ := dispatched
  refine ⟨is, book.positions.map Position.toBroker, ?_, ?_⟩
  · simp [getPositions, is, tagged]
  · rw [List.any_eq_true]
    exact ⟨p.toBroker, List.mem_map_of_mem mem, decide_eq_true named⟩

theorem modifyOrder_honest_iff (positionsGet : TerminalCall OpenBook)
    (send : TerminalCall SendResult) (positionId : String) :
    Honest refusals (ModifyDispatched state positionsGet positionId) send
        (modifyOrder state positionsGet send positionId) ↔
      (ModifyDispatched state positionsGet positionId → SafelyRead refusals send) := by
  refine forall_congr' fun dispatched => ?_
  obtain ⟨is, positions, read, held⟩ := modifyOrder_dispatched state dispatched
  unfold modifyOrder
  rw [if_neg (not_not.mpr is), read]
  dsimp only
  rw [if_pos held]
  cases send with
  | raised type reason => exact iff_of_true rfl True.intro
  | noAnswer => exact iff_of_false (fun unsure => by cases unsure) id
  | answered result =>
    by_cases did : result.retcode = tradeRetcodeDone
    · refine iff_of_true (fun denied => absurd denied (not_denies_of_accepted ?_)) (.inl did)
      simp [done, did, OrderResult.bare]
    · refine ⟨fun honest => .inr (honest ?_), fun settled _ => settled.resolve_left did⟩
      simp [Denies, done, did, OrderResult.bare]

def PlaceDispatched (reads : PlaceReads) : Prop :=
  state = .connected ∧ preflight reads = .ok none

def LevelsApplied (followUp : FollowUp) (request : OrderRequest) (result : SendResult) : Prop :=
  result.price ≠ 0 → (levelSet request.stopLoss || levelSet request.takeProfit) = true →
    followUp.state = .connected

def PlaceAnswered (log : TerminalCall Unit) (followUp : FollowUp) (request : OrderRequest)
    (send : TerminalCall SendResult) : Prop :=
  Returned log →
    ∃ result, send = .answered result ∧
      (result.retcode = tradeRetcodeDone ∧ LevelsApplied followUp request result ∨
        refusals.codes result.retcode)

theorem placeResult_of_not_done {send : TerminalCall SendResult} (undone : done send = false)
    (lot : ℚ) (now : Time) : (placeResult (sentRecord send lot) now).status = .rejected := by
  cases send with
  | raised type reason | noAnswer => rfl
  | answered result =>
    have status : (sentRecord (.answered result) lot).status = "REJECTED" := by
      simp [sentRecord, undone]
    simp [placeResult, status, OrderResult.bare]

theorem placeResult_of_done {result : SendResult} (did : result.retcode = tradeRetcodeDone)
    (lot : ℚ) (now : Time) :
    (placeResult (sentRecord (.answered result) lot) now).status =
      if result.price = 0 then .unknown else .accepted := by
  have did' : done (.answered result) = true := done_iff.mpr ⟨result, rfl, did⟩
  by_cases price : result.price = 0
  · simp [placeResult, sentRecord, did', field, orNone, price, OrderResult.bare]
  · simp [placeResult, sentRecord, did', field, orNone, price]

theorem placeOrder_of_kept {reads : PlaceReads} {log : TerminalCall Unit}
    (dispatched : PlaceDispatched state reads) (kept : Returned log)
    (send : TerminalCall SendResult) (followUp : FollowUp) (request : OrderRequest) (now : Time) :
    placeOrder state reads send log followUp request now =
      let result := placeResult (sentRecord send request.volume) now
      if result.status = .accepted ∧
          (levelSet request.stopLoss || levelSet request.takeProfit) = true then
        match modifyOrder followUp.state followUp.positionsGet followUp.orderSend
            (result.positionId.getD "") with
        | .error e => .error e
        | .ok _ => .ok result
      else .ok result := by
  obtain ⟨is, clear⟩ := dispatched
  have placed : place reads send log request.volume = .ok (sentRecord send request.volume) := by
    unfold place
    rw [clear]
    cases log with
    | raised type reason => exact absurd kept id
    | noAnswer | answered u => rfl
  unfold placeOrder
  rw [if_neg (not_not.mpr is)]
  exact placed ▸ rfl

theorem placeOrder_denies_iff {reads : PlaceReads} {log : TerminalCall Unit}
    (dispatched : PlaceDispatched state reads) (kept : Returned log) {result : SendResult}
    (did : result.retcode = tradeRetcodeDone) (followUp : FollowUp) (request : OrderRequest)
    (now : Time) :
    Denies (placeOrder state reads (.answered result) log followUp request now) ↔
      ¬ LevelsApplied followUp request result := by
  rw [placeOrder_of_kept state dispatched kept]
  have status := placeResult_of_done did request.volume now
  by_cases price : result.price = 0
  · rw [if_pos price] at status
    rw [if_neg (fun both => by rw [status] at both; exact absurd both.1 (by decide))]
    exact iff_of_false (not_denies_of_unsure status)
      (not_not.mpr fun nonzero => absurd price nonzero)
  · rw [if_neg price] at status
    by_cases levels : (levelSet request.stopLoss || levelSet request.takeProfit) = true
    · rw [if_pos ⟨status, levels⟩]
      have applied : LevelsApplied followUp request result ↔ followUp.state = .connected :=
        ⟨fun applied => applied price levels, fun is _ _ => is⟩
      rw [applied]
      cases modified : modifyOrder followUp.state followUp.positionsGet followUp.orderSend
          ((placeResult (sentRecord (.answered result) request.volume) now).positionId.getD "") with
      | error e => exact modifyOrder_error followUp.state modified
      | ok answer =>
        refine iff_of_false (not_denies_of_accepted status) (not_not.mpr ?_)
        by_contra lost
        unfold modifyOrder at modified
        rw [if_pos lost] at modified
        cases modified
    · rw [if_neg (fun both => levels both.2)]
      exact iff_of_false (not_denies_of_accepted status)
        (not_not.mpr fun _ set => absurd set levels)

theorem placeOrder_kept_iff {reads : PlaceReads} {log : TerminalCall Unit}
    (dispatched : PlaceDispatched state reads) (kept : Returned log)
    (send : TerminalCall SendResult) (followUp : FollowUp) (request : OrderRequest) (now : Time) :
    (match send with
      | .answered result =>
        Denies (placeOrder state reads send log followUp request now) →
          refusals.codes result.retcode
      | _ => Unsure (placeOrder state reads send log followUp request now)) ↔
      PlaceAnswered refusals log followUp request send := by
  have undone : done send = false →
      placeOrder state reads send log followUp request now =
        .ok (placeResult (sentRecord send request.volume) now) := by
    intro undone
    rw [placeOrder_of_kept state dispatched kept]
    rw [if_neg]
    rw [placeResult_of_not_done undone]
    exact fun both => absurd both.1 (by decide)
  cases send with
  | raised type reason | noAnswer =>
    rw [undone rfl]
    refine iff_of_false (fun unsure => by cases unsure) (fun answered => ?_)
    obtain ⟨result, same, _⟩ := answered kept
    cases same
  | answered result =>
    by_cases did : result.retcode = tradeRetcodeDone
    · have unrefused : ¬ refusals.codes result.retcode := did ▸ refusals.not_done
      rw [placeOrder_denies_iff state dispatched kept did]
      constructor
      · intro honest _
        exact ⟨result, rfl, .inl ⟨did, not_not.mp fun unapplied => unrefused (honest unapplied)⟩⟩
      · intro answered unapplied
        obtain ⟨_, same, ⟨_, applied⟩ | refused⟩ := answered kept
        · cases same
          exact absurd applied unapplied
        · cases same
          exact refused
    · have undone' := undone (by simp [done, did])
      rw [undone']
      have denied : Denies (.ok (placeResult (sentRecord (.answered result) request.volume) now)) :=
        placeResult_of_not_done (by simp [done, did]) request.volume now
      constructor
      · exact fun honest _ => ⟨result, rfl, .inr (honest denied)⟩
      · intro answered _
        obtain ⟨_, same, ⟨did', _⟩ | refused⟩ := answered kept
        · cases same
          exact absurd did' did
        · cases same
          exact refused

theorem placeOrder_honest_iff (reads : PlaceReads) (send : TerminalCall SendResult)
    (log : TerminalCall Unit) (followUp : FollowUp) (request : OrderRequest) (now : Time) :
    Honest refusals (PlaceDispatched state reads) send
        (placeOrder state reads send log followUp request now) ↔
      (PlaceDispatched state reads → PlaceAnswered refusals log followUp request send) := by
  refine forall_congr' fun dispatched => ?_
  cases log with
  | raised type reason =>
    have unsure : Unsure
        (placeOrder state reads send (.raised type reason) followUp request now) := by
      unfold placeOrder place
      rw [if_neg (not_not.mpr dispatched.1), dispatched.2]
      rfl
    refine iff_of_true ?_ (fun kept => absurd kept id)
    cases send with
    | raised _ _ | noAnswer => exact unsure
    | answered result => exact fun denied => absurd denied (not_denies_of_unsure unsure)
  | noAnswer =>
    have kept : Returned (.noAnswer : TerminalCall Unit) := True.intro
    exact placeOrder_kept_iff refusals state dispatched kept send followUp request now
  | answered u =>
    have kept : Returned (.answered u) := True.intro
    exact placeOrder_kept_iff refusals state dispatched kept send followUp request now

def CloseDispatched (positionsGet : TerminalCall OpenBook) (calls : Position → CloseCalls)
    (positionId : String) (p : Position) : Prop :=
  state = .connected ∧
    (∃ book, positionsGet = .answered book ∧ p ∈ book.positions) ∧
    p.magic = magic ∧ ticketText p.ticket = positionId ∧
    (∃ tick, (calls p).symbolInfoTick = .answered tick) ∧ Returned (calls p).fillingFor

def CloseAnswered (calls : CloseCalls) : Prop :=
  Returned calls.log → SafelyRead refusals calls.orderSend

theorem filter_key_eq_singleton {α : Type} {l : List α} {key : α → String}
    (distinct : (l.map key).Nodup) {a : α} (mem : a ∈ l) :
    l.filter (fun b => decide (key b = key a)) = [a] := by
  induction l with
  | nil => cases mem
  | cons b l ih =>
    rw [List.map_cons, List.nodup_cons] at distinct
    obtain ⟨fresh, distinct⟩ := distinct
    rcases List.mem_cons.mp mem with rfl | mem
    · rw [List.filter_cons, if_pos (decide_eq_true rfl), List.filter_eq_nil_iff.mpr]
      intro c held same
      exact fresh (of_decide_eq_true same ▸ List.mem_map_of_mem held)
    · rw [List.filter_cons, if_neg, ih distinct mem]
      intro same
      exact fresh (of_decide_eq_true same ▸ List.mem_map_of_mem mem)

theorem closeOwn_of_own {book : OpenBook} {p : Position} (mem : p ∈ book.positions)
    (own : p.magic = magic) (calls : Position → CloseCalls) :
    closeOwn (.answered book) (fun q => decide (ticketText q.ticket = ticketText p.ticket)) magic
        calls = (closeOne p (calls p)).map fun row => [row] := by
  have distinct : ((book.positions.filter fun q => decide (q.magic = magic)).map
      fun q => ticketText q.ticket).Nodup :=
    book.distinct.sublist (List.filter_sublist.map _)
  have held : p ∈ book.positions.filter fun q => decide (q.magic = magic) :=
    List.mem_filter.mpr ⟨mem, decide_eq_true own⟩
  have picked := filter_key_eq_singleton distinct held
  simp only [closeOwn, ownPositions, bind, Except.bind, picked, List.mapM_cons, List.mapM_nil]
  cases closeOne p (calls p) <;> rfl

theorem closePosition_of_dispatched {positionsGet : TerminalCall OpenBook}
    {calls : Position → CloseCalls} {positionId : String} {p : Position}
    (dispatched : CloseDispatched state positionsGet calls positionId p) (now : Time) :
    closePosition state positionsGet calls positionId now =
      match closeOne p (calls p) with
      | .error e => .error e
      | .ok row => .ok (closeResult row positionId now) := by
  obtain ⟨is, ⟨book, rfl, mem⟩, own, rfl, _⟩ := dispatched
  unfold closePosition
  rw [if_neg (not_not.mpr is), closeOwn_of_own mem own]
  cases closeOne p (calls p) <;> rfl

theorem closeResult_of_closed {row : CloseRecord} (closed : row.status = "CLOSED")
    (positionId : String) (now : Time) : ¬ Denies (.ok (closeResult row positionId now)) := by
  unfold closeResult
  rw [if_pos closed]
  split
  · exact not_denies_of_accepted rfl
  · exact not_denies_of_unsure rfl

theorem closeResult_of_failed {row : CloseRecord} (failed : row.status = "FAILED")
    (positionId : String) (now : Time) : (closeResult row positionId now).status = .rejected := by
  unfold closeResult
  rw [if_neg (by rw [failed]; decide), if_neg (by rw [failed]; decide)]
  rfl

theorem closeOne_of_dispatched {p : Position} {calls : CloseCalls}
    (quoted : ∃ tick, calls.symbolInfoTick = .answered tick) (filled : Returned calls.fillingFor) :
    (∃ type reason, closeOne p calls = .error (.other type reason) ∧
        ((∃ type reason, calls.orderSend = .raised type reason) ∨ ¬ Returned calls.log)) ∨
      ∃ row, closeOne p calls = .ok row ∧ Returned calls.log ∧
        (∀ type reason, calls.orderSend ≠ .raised type reason) ∧
        row.status = if done calls.orderSend then "CLOSED" else "FAILED" := by
  obtain ⟨tick, quoted⟩ := quoted
  obtain ⟨symbolInfoTick, fillingFor, orderSend, dealMoney, log⟩ := calls
  cases quoted
  cases fillingFor with
  | raised type reason => exact absurd filled id
  | _ =>
    cases orderSend with
    | raised type reason => exact .inl ⟨type, reason, rfl, .inl ⟨type, reason, rfl⟩⟩
    | _ =>
      cases log with
      | raised type reason => exact .inl ⟨type, reason, rfl, .inr id⟩
      | _ => exact .inr ⟨_, rfl, True.intro, fun _ _ same => (by cases same), rfl⟩

theorem closePosition_honest_iff (positionsGet : TerminalCall OpenBook)
    (calls : Position → CloseCalls) (positionId : String) (now : Time) (p : Position) :
    Honest refusals (CloseDispatched state positionsGet calls positionId p) (calls p).orderSend
        (closePosition state positionsGet calls positionId now) ↔
      (CloseDispatched state positionsGet calls positionId p →
        CloseAnswered refusals (calls p)) := by
  refine forall_congr' fun dispatched => ?_
  rw [closePosition_of_dispatched state dispatched]
  obtain ⟨_, _, _, _, quoted, filled⟩ := dispatched
  rcases closeOne_of_dispatched quoted filled with
    ⟨type, reason, raised, cause⟩ | ⟨row, closed, kept, sent, status⟩
  · rw [raised]
    have unsure : Unsure (.error (.other type reason)) := rfl
    refine iff_of_true ?_ (fun kept => ?_)
    · cases (calls p).orderSend with
      | answered result => exact fun denied => absurd denied (not_denies_of_unsure unsure)
      | _ => exact unsure
    · obtain ⟨type, reason, send⟩ := cause.resolve_right (not_not.mpr kept)
      rw [send]
      exact True.intro
  · rw [closed, CloseAnswered, imp_iff_right kept]
    cases send : (calls p).orderSend with
    | raised type reason => exact absurd send (sent type reason)
    | noAnswer =>
      rw [send] at status
      have rejected := closeResult_of_failed status positionId now
      refine iff_of_false (fun unsure => ?_) id
      rw [Unsure, rejected] at unsure
      cases unsure
    | answered result =>
      rw [send] at status
      by_cases did : result.retcode = tradeRetcodeDone
      · rw [if_pos (done_iff.mpr ⟨result, rfl, did⟩)] at status
        exact iff_of_true
          (fun denied => absurd denied (closeResult_of_closed status positionId now)) (.inl did)
      · rw [if_neg (by simp [done, did])] at status
        have denied : Denies (.ok (closeResult row positionId now)) :=
          closeResult_of_failed status positionId now
        exact ⟨fun honest => .inr (honest denied), fun settled _ => settled.resolve_left did⟩

/-- Each of the four requests is answered honestly exactly when its terminal call came to an
answer the adapter reads as what it is. -/
theorem requests_honest_iff (now : Time) :
    (∀ reads send log followUp request,
      Honest refusals (PlaceDispatched state reads) send
          (placeOrder state reads send log followUp request now) ↔
        (PlaceDispatched state reads → PlaceAnswered refusals log followUp request send)) ∧
    (∀ positionsGet send positionId,
      Honest refusals (ModifyDispatched state positionsGet positionId) send
          (modifyOrder state positionsGet send positionId) ↔
        (ModifyDispatched state positionsGet positionId → SafelyRead refusals send)) ∧
    (∀ send orderId,
      Honest refusals (CancelDispatched state) send (cancelOrder state send orderId) ↔
        (CancelDispatched state → SafelyRead refusals send)) ∧
    ∀ positionsGet calls positionId p,
      Honest refusals (CloseDispatched state positionsGet calls positionId p) (calls p).orderSend
          (closePosition state positionsGet calls positionId now) ↔
        (CloseDispatched state positionsGet calls positionId p →
          CloseAnswered refusals (calls p)) :=
  ⟨fun reads send log followUp request =>
      placeOrder_honest_iff refusals state reads send log followUp request now,
    modifyOrder_honest_iff refusals state,
    cancelOrder_honest_iff refusals state,
    fun positionsGet calls positionId p =>
      closePosition_honest_iff refusals state positionsGet calls positionId now p⟩

def anyRefusal : Refusals := ⟨(· ≠ tradeRetcodeDone), fun refused => refused rfl⟩

def openMarket : PlaceReads :=
  { symbolInfo := .answered ()
    symbolSelect := .answered true
    symbolInfoAgain := .answered ()
    symbolInfoTick := .answered ⟨1, 1⟩
    atr := .answered 1
    fillingFor := .answered () }

theorem openMarket_dispatched : PlaceDispatched .connected openMarket :=
  ⟨rfl, by norm_num [preflight, openMarket]⟩

def plainRequest : OrderRequest :=
  { symbol := "EURUSD", side := "buy", volume := 1, stopLoss := none, takeProfit := none,
    comment := [], intentId := "intent" }

/-- No answer is called a refusal: the order was sent, the terminal answered nothing, and the
result is `rejected`. -/
theorem not_forall_requests_honest :
    ¬ ∀ (state : ConnectionState) (reads : PlaceReads) (send : TerminalCall SendResult)
        (log : TerminalCall Unit) (followUp : FollowUp) (request : OrderRequest) (now : Time),
      Honest anyRefusal (PlaceDispatched state reads) send
        (placeOrder state reads send log followUp request now) := by
  intro always
  have unsure := always .connected openMarket .noAnswer (.answered ())
    ⟨.connected, .noAnswer, .noAnswer⟩ plainRequest 1 openMarket_dispatched
  have rejected : Denies (placeOrder .connected openMarket .noAnswer (.answered ())
      ⟨.connected, .noAnswer, .noAnswer⟩ plainRequest 1) := by
    rw [placeOrder_of_kept .connected openMarket_dispatched
      (show Returned (.answered () : TerminalCall Unit) from True.intro)]
    rfl
  exact not_denies_of_unsure unsure rejected

end TradeResearch.Brokers.Mt5
