import TradeResearch.Journal.Desk

/-!
# A journal that is final

A trade reflects the closes confirmed for its position when its volume is what they took off, its
exit their weighted average, and its net the money they came to. A row is written once and never
revised, so it reflects them for ever only if no further close is confirmed: `unknown` positions are
recorded too, and come back.

* `Desk.Conduct` is what each call has to meet, and `Desk.Sound` the invariant it keeps.
* `Adds` is what a call of the book adds: no close, or one, confirmed, logged and booked alike.
* `Desk.step_of_unshared` is what a sweep leaves; `Desk.Sound.step` is the step.
-/

namespace TradeResearch.Journal

open Oms Positions

def Desk.confirmedOf (s : Desk) (positionId : String) : List Confirmed :=
  s.confirmed.filter fun close => close.positionId = positionId

structure Reflects (trade : TradeRow) (closes : List Confirmed) : Prop where
  volume : trade.volume = (closes.map Confirmed.quantity).sum
  exit : trade.exitPrice =
    (closes.map fun close => close.fillPrice * close.quantity).sum /
      (closes.map Confirmed.quantity).sum
  net : ∃ moneys : List ℚ, closes.map Confirmed.money = moneys.map some ∧
    trade.netProfit = moneys.sum

def Desk.Final (s : Desk) : Prop :=
  ∀ trade ∈ s.trades.rows, ∀ id, trade.positionId = some id → Reflects trade (s.confirmedOf id)

structure Desk.Started (s : Desk) : Prop where
  unlogged : s.events = []
  unconfirmed : s.confirmed = []
  unbooked : ∀ row ∈ s.positions.rows, row.realizedPnl = none
  imported : ∀ trade ∈ s.trades.rows, trade.positionId = none

structure Proper (s : Desk) (row : PositionRow) (decision : ExitDecision) (outcome : CloseOutcome) :
    Prop where
  positive : 0 < decision.quantity.getD row.quantity
  within : decision.quantity.getD row.quantity ≤ row.quantity
  paid : outcome.realizedPnl ≠ none ∨ row.mode = .paper
  nonneg : 0 ≤ row.closedQuantity + decision.quantity.getD row.quantity
  allowed : row.closedQuantity + decision.quantity.getD row.quantity ≤
    if row.initialQuantity = 0 then row.quantity + row.closedQuantity else row.initialQuantity
  unrecorded : s.trades.ofPosition row.id = none

def Attended (positions : PositionsTable) : BookEvent → Prop
  | .closeNow positionId _ _ _ _ =>
    ∀ row ∈ positions.rows, row.id = positionId → row.status.skipped = none
  | _ => True

def GetsOn (s : Desk) (q : Query) (mode : Option Mode) (limit : ℕ) : Prop :=
  (∃ row ∈ pending s.positions s.trades mode, Measured s.events row) →
    ∃ row ∈ batch s.positions s.trades q mode limit, Measured s.events row

def Unshared (s : Desk) (q : Query) (mode : Option Mode) (limit : ℕ) : Prop :=
  (s.trades.rows.filterMap TradeRow.brokerPositionId ++
    ((batch s.positions s.trades q mode limit).filter fun row =>
      decide (Measured s.events row)).filterMap fun row => row.brokerPositionId).Nodup

def Desk.Conduct (s : Desk) : DeskEvent → Prop
  | .book call =>
    (∀ row out, called s.positions call = some (row, out) → ∀ decision outcome fill,
      confirmation out.2.2 = some (decision, outcome, fill) → Proper s row decision outcome) ∧
    Attended s.positions call
  | .recordPending _ q mode limit => GetsOn s q mode limit ∧ Unshared s q mode limit

def figuresOf (events : List Entry) (positionId : String) : List (ℚ × ℚ) :=
  ((entriesOf events positionId).filterMap Entry.close?).map Close.figures

def Booked (closes : List Confirmed) (realizedPnl : Option ℚ) : Prop :=
  ∃ moneys : List ℚ, closes.map Confirmed.money = moneys.map some ∧
    realizedPnl = if moneys = [] then none else some moneys.sum

structure Desk.Sound (s : Desk) : Prop where
  logged : ∀ id, figuresOf s.events id = (s.confirmedOf id).map Confirmed.figures
  booked : ∀ row ∈ s.positions.rows, Booked (s.confirmedOf row.id) row.realizedPnl
  known : ∀ close ∈ s.confirmed, close.positionId ∈ s.positions.rows.map fun row => row.id
  linked : ∀ trade ∈ s.trades.rows, ∀ id, trade.positionId = some id →
    id ∈ s.positions.rows.map fun row => row.id
  final : s.Final

theorem Desk.Started.sound {s : Desk} (started : s.Started) : s.Sound := by
  have none' : ∀ id, s.confirmedOf id = [] := by
    intro id
    unfold Desk.confirmedOf
    rw [started.unconfirmed, List.filter_nil]
  have unlinked : ∀ trade ∈ s.trades.rows, ∀ id, trade.positionId ≠ some id := by
    intro trade mem id of
    rw [started.imported trade mem] at of
    cases of
  refine ⟨fun id => ?_, fun row mem => ?_, fun close mem => ?_, fun trade mem id of => ?_,
    fun trade mem id of => ?_⟩
  · rw [none']
    unfold figuresOf entriesOf
    rw [started.unlogged, List.filter_nil]
    rfl
  · exact ⟨[], by rw [none']; rfl, started.unbooked row mem⟩
  · rw [started.unconfirmed] at mem
    cases mem
  · exact absurd of (unlinked trade mem id)
  · exact absurd of (unlinked trade mem id)

section Sound

variable {s : Desk}

theorem Booked.eq_none_iff {closes : List Confirmed} {realizedPnl : Option ℚ}
    (booked : Booked closes realizedPnl) : realizedPnl = none ↔ closes = [] := by
  obtain ⟨moneys, known, rfl⟩ := booked
  cases moneys with
  | nil => exact iff_of_true rfl (List.map_eq_nil_iff.mp known)
  | cons money moneys =>
    refine iff_of_false (by simp) fun empty => ?_
    rw [empty] at known
    cases known

theorem Booked.append {closes : List Confirmed} {realizedPnl : Option ℚ} {close : Confirmed}
    {money : ℚ} (booked : Booked closes realizedPnl) (known : close.money = some money) :
    Booked (closes ++ [close]) (some (realizedPnl.getD 0 + money)) := by
  obtain ⟨moneys, same, rfl⟩ := booked
  refine ⟨moneys ++ [money], ?_, ?_⟩
  · rw [List.map_append, List.map_append, same, List.map_singleton, List.map_singleton, known]
  · have total : (if moneys = [] then none else some moneys.sum).getD 0 = moneys.sum := by
      cases moneys <;> rfl
    rw [if_neg (List.append_ne_nil_of_right_ne_nil moneys (List.cons_ne_nil money [])), total,
      List.sum_append, List.sum_singleton]

theorem closedTotal_eq (events : List Entry) (positionId : String) :
    closedTotal ((entriesOf events positionId).filterMap Entry.close?) =
      ((figuresOf events positionId).map Prod.fst).sum := by
  unfold closedTotal figuresOf
  rw [List.map_map]
  rfl

theorem closedValue_eq (events : List Entry) (positionId : String) :
    closedValue ((entriesOf events positionId).filterMap Entry.close?) =
      ((figuresOf events positionId).map fun figures => figures.2 * figures.1).sum := by
  unfold closedValue figuresOf
  rw [List.map_map]
  rfl

theorem Desk.Sound.closes_eq_nil_iff (sound : s.Sound) (positionId : String) :
    (entriesOf s.events positionId).filterMap Entry.close? = [] ↔
      s.confirmedOf positionId = [] := by
  have same := sound.logged positionId
  unfold figuresOf at same
  rw [← List.map_eq_nil_iff, same, List.map_eq_nil_iff]

theorem Desk.Sound.measured_iff (sound : s.Sound) (mem : row ∈ s.positions.rows) :
    Measured s.events row ↔ row.status ∈ recordable ∧ s.confirmedOf row.id ≠ [] := by
  have perm := closesFrom_perm (entriesOf s.events row.id)
  have priced : (exitOf (closesFrom (entriesOf s.events row.id))).price ≠ none ↔
      s.confirmedOf row.id ≠ [] := by
    rw [Ne, exitOf_price_eq_none]
    refine not_congr (Iff.trans ?_ (sound.closes_eq_nil_iff row.id))
    exact ⟨fun empty => List.perm_nil.mp (empty ▸ perm.symm),
      fun empty => List.perm_nil.mp (empty ▸ perm)⟩
  unfold Measured
  rw [priced]
  refine and_congr_right fun _ => and_iff_left_of_imp fun some' => ?_
  have booked : row.realizedPnl ≠ none := fun absent =>
    some' ((sound.booked row mem).eq_none_iff.mp absent)
  obtain ⟨money, same⟩ := Option.ne_none_iff_exists'.mp booked
  unfold realizedFrom
  rw [same]
  simp

theorem Desk.Sound.reflects (sound : s.Sound) (mem : row ∈ s.positions.rows)
    (measured : Measured s.events row) (refs : References) (q : Query) :
    Reflects (tradeFor s.events refs q row) (s.confirmedOf row.id) := by
  have confirmed := ((sound.measured_iff mem).mp measured).2
  obtain ⟨price, quantity⟩ := exitOf_of_perm (closesFrom_perm (entriesOf s.events row.id))
    (mt (sound.closes_eq_nil_iff row.id).mp confirmed)
  rw [closedTotal_eq, sound.logged, List.map_map] at quantity
  rw [closedValue_eq, closedTotal_eq, sound.logged, List.map_map, List.map_map] at price
  obtain ⟨moneys, known, realized⟩ := sound.booked row mem
  have some' : moneys ≠ [] := by
    rintro rfl
    exact confirmed (List.map_eq_nil_iff.mp known)
  rw [if_neg some'] at realized
  refine ⟨quantity, ?_, moneys, known, ?_⟩
  · show (exitOf _).price.getD 0 = _
    rw [price]
    rfl
  · show (realizedFrom _ _).getD 0 = _
    rw [realized]
    rfl

end Sound

section Positions

variable {t t' : PositionsTable} {call : BookEvent}

inductive Origin (t : PositionsTable) (call : BookEvent) (row' : PositionRow) : Prop
  | kept (row : PositionRow) (mem : row ∈ t.rows) (id : row'.id = row.id)
      (money : row'.realizedPnl = row.realizedPnl)
      (closed : row.status = .closed → row'.status = .closed ∧ row'.mode = row.mode)
      (uncalled : ∀ row₀ out, called t call = some (row₀, out) → row₀.id ≠ row.id)
  | called (row : PositionRow) (out : PositionRow × List PassRecord × ManagedResult)
      (here : called t call = some (row, out)) (id : row'.id = row.id)
      (flushed : row' = row.flushed out.1)
  | fresh (free : row'.id ∉ t.rows.map fun row => row.id) (money : row'.realizedPnl = none)

theorem origin_modify {positionId : String}
    {f : PositionRow → PositionRow × List PassRecord × ManagedResult}
    {keeps : ∀ row : PositionRow, (row.flushed (f row).1).id = row.id}
    (over' : called t call = (t.find? positionId).map fun row => (row, f row))
    (mem : row' ∈ (t.modify positionId (fun row => row.flushed (f row).1) keeps).rows) :
    Origin t call row' := by
  rcases Table.mem_modify.mp mem with ⟨row, mem', here, rfl⟩ | ⟨mem', elsewhere⟩
  · refine .called row (f row) ?_ (keeps row) rfl
    rw [over', ← here, Table.find?_of_mem mem', Option.map_some]
  · refine .kept row' mem' rfl rfl (fun closed => ⟨closed, rfl⟩) fun row₀ out called => ?_
    rw [over'] at called
    obtain ⟨row₁, found, same⟩ := Option.map_eq_some_iff.mp called
    cases same
    rw [Table.key_of_find? found]
    exact elsewhere.symm

theorem Origin.of_kept {row : PositionRow} (mem : row ∈ t.rows) (id : row'.id = row.id)
    (money : row'.realizedPnl = row.realizedPnl)
    (closed : row.status = .closed → row'.status = .closed ∧ row'.mode = row.mode)
    (uncalled : Journal.called t call = none) : Origin t call row' := by
  refine .kept row mem id money closed fun row₀ out here => ?_
  rw [uncalled] at here
  cases here

theorem origin_of_step (taken : t.step call = some t') (mem : row' ∈ t'.rows) :
    Origin t call row' := by
  cases call with
  | process positionId pass | closeNow positionId symbolCode quantityExponent decision outcome =>
    cases taken
    exact origin_modify rfl mem
  | recordFill order recording =>
    cases taken
    have outcome := t.recordFill_cases order recording
    generalize t.recordFill order recording = out at outcome mem
    cases outcome with
    | unconfirmed nothing => exact .of_kept mem rfl rfl (fun closed => ⟨closed, rfl⟩) rfl
    | refilled fill row confirmed found =>
      dsimp only [Except.toOption, Option.getD_some] at mem
      rcases Table.mem_modify.mp mem with ⟨row, mem', _, rfl⟩ | ⟨mem', _⟩
      · exact .of_kept mem' rfl rfl (fun closed => ⟨closed, rfl⟩) rfl
      · exact .of_kept mem' rfl rfl (fun closed => ⟨closed, rfl⟩) rfl
    | opened fill confirmed absent free =>
      dsimp only [Except.toOption, Option.getD_some] at mem
      rcases Table.mem_insert.mp mem with old | rfl
      · exact .of_kept old rfl rfl (fun closed => ⟨closed, rfl⟩) rfl
      · exact .fresh free rfl
    | taken fill confirmed absent used =>
      exact .of_kept mem rfl rfl (fun closed => ⟨closed, rfl⟩) rfl
  | sweep mode accountId read time =>
    cases taken
    cases read with
    | error e => exact .of_kept mem rfl rfl (fun closed => ⟨closed, rfl⟩) rfl
    | ok positions =>
      unfold PositionsTable.sweep at mem
      obtain ⟨row, mem', rfl⟩ := Table.mem_map.mp mem
      by_cases here : localTo mode accountId row.toPosition = true
      · rw [if_pos here]
        refine .of_kept mem' (row.settled_id positions time) rfl (fun closed => ?_) rfl
        unfold localTo at here
        rw [closed] at here
        simp [live] at here
      · rw [if_neg here]
        exact .of_kept mem' rfl rfl (fun closed => ⟨closed, rfl⟩) rfl

theorem ids_of_step (taken : t.step call = some t') {id : String}
    (mem : id ∈ t.rows.map fun row => row.id) : id ∈ t'.rows.map fun row => row.id := by
  cases call with
  | process positionId pass =>
    cases taken
    unfold PositionsTable.process
    rw [Table.keys_modify]
    exact mem
  | closeNow positionId symbolCode quantityExponent decision outcome =>
    cases taken
    unfold PositionsTable.closeNow
    rw [Table.keys_modify]
    exact mem
  | recordFill order recording =>
    cases taken
    have outcome := t.recordFill_cases order recording
    generalize t.recordFill order recording = out at outcome
    cases outcome with
    | unconfirmed nothing => exact mem
    | refilled fill row confirmed found =>
      dsimp only [Except.toOption, Option.getD_some]
      unfold PositionsTable.refill
      rw [Table.keys_modify]
      exact mem
    | opened fill confirmed absent free =>
      obtain ⟨row, mem', rfl⟩ := List.mem_map.mp mem
      refine List.mem_map.mpr ⟨row, ?_, rfl⟩
      dsimp only [Except.toOption, Option.getD_some]
      exact Table.mem_insert.mpr (.inl mem')
    | taken fill confirmed absent used => exact mem
  | sweep mode accountId read time =>
    cases taken
    cases read with
    | error e => exact mem
    | ok positions =>
      unfold PositionsTable.sweep
      rw [Table.keys_map]
      exact mem

end Positions

theorem figuresOf_append (events events' : List Entry) (id : String) :
    figuresOf (events ++ events') id = figuresOf events id ++ figuresOf events' id := by
  unfold figuresOf entriesOf
  rw [List.filter_append, List.filterMap_append, List.map_append]

theorem figuresOf_eq_nil {events : List Entry} (none' : ∀ entry ∈ events, entry.close? = none)
    (id : String) : figuresOf events id = [] := by
  unfold figuresOf
  rw [List.map_eq_nil_iff, List.filterMap_eq_nil_iff]
  exact fun entry mem => none' entry (List.mem_of_mem_filter mem)

theorem recordEntry_positionId (positionId : String) (record : PassRecord) :
    (recordEntry positionId record).positionId = positionId := by
  obtain ⟨event, time⟩ := record
  cases event <;> rfl

theorem figuresOf_records (positionId id : String) (records : List PassRecord) :
    figuresOf (records.map (recordEntry positionId)) id =
      if positionId = id then (closesIn positionId records).map Close.figures else [] := by
  unfold figuresOf entriesOf
  by_cases same : positionId = id
  · rw [if_pos same, List.filter_eq_self.mpr fun entry mem => ?_]
    · rfl
    · obtain ⟨record, _, rfl⟩ := List.mem_map.mp mem
      rw [recordEntry_positionId, decide_eq_true_iff]
      exact same
  · rw [if_neg same, List.filter_eq_nil_iff.mpr fun entry mem => ?_]
    · rfl
    · obtain ⟨record, _, rfl⟩ := List.mem_map.mp mem
      rw [recordEntry_positionId, decide_eq_true_iff]
      exact same

inductive Adds (s : Desk) (call : BookEvent) : Prop
  | nothing (confirmed : confirmedIn s.positions call = [])
      (logged : ∀ id, figuresOf (written s.positions call) id = [])
      (money : ∀ row out, called s.positions call = some (row, out) →
        (row.flushed out.1).realizedPnl = row.realizedPnl)
  | close (row : PositionRow) (out : PositionRow × List PassRecord × ManagedResult)
      (close : Confirmed) (money : ℚ) (here : called s.positions call = some (row, out))
      (mem : row ∈ s.positions.rows) (of : close.positionId = row.id)
      (confirmed : confirmedIn s.positions call = [close])
      (logged : ∀ id, figuresOf (written s.positions call) id =
        if row.id = id then [close.figures] else [])
      (known : close.money = some money)
      (booked : (row.flushed out.1).realizedPnl = some (row.realizedPnl.getD 0 + money))
      (unrecorded : s.trades.ofPosition row.id = none)

theorem exists_booked {row : PositionRow} (decision : ExitDecision) {outcome : CloseOutcome}
    (fill : ℚ) (paid : outcome.realizedPnl ≠ none ∨ row.mode = .paper) :
    ∃ money, (confirmedClose row decision outcome fill).money = some money ∧
      (row.book decision outcome fill).realizedPnl = some (row.realizedPnl.getD 0 + money) := by
  have known : ∃ money, row.booked fill (row.closedNow decision) outcome = some money := by
    unfold PositionRow.booked
    cases reported : outcome.realizedPnl with
    | some money => exact ⟨money, rfl⟩
    | none =>
      rcases paid with paid | paper
      · exact absurd reported paid
      · exact ⟨_, if_pos paper⟩
  obtain ⟨money, same⟩ := known
  refine ⟨money, same, ?_⟩
  unfold PositionRow.book
  dsimp only
  rw [same]

theorem Proper.checked {row : PositionRow} {decision : ExitDecision} {outcome : CloseOutcome}
    (proper : Proper s row decision outcome) (fill : ℚ) :
    (row.book decision outcome fill).Checked := by
  have taken : row.closedNow decision = decision.quantity.getD row.quantity := by
    unfold PositionRow.closedNow
    rw [if_neg (not_lt.mpr proper.within)]
  have nonneg := proper.nonneg
  have allowed := proper.allowed
  rw [← taken] at nonneg allowed
  exact ⟨nonneg, allowed⟩

theorem figuresOf_written (positions : PositionsTable) (call : BookEvent) (id : String) :
    figuresOf (written positions call) id = figuresOf (logged positions call) id := by
  have none' : figuresOf (sweptEntries positions call) id = [] := by
    refine figuresOf_eq_nil (fun entry mem => ?_) id
    cases call with
    | sweep mode accountId read time =>
      obtain ⟨event, _, rfl⟩ := List.mem_map.mp mem
      exact close?_sweptEntry event
    | _ => cases mem
  unfold written
  rw [figuresOf_append, none', List.append_nil]

theorem adds_of_conduct (conduct : s.Conduct (.book call)) : Adds s call := by
  cases here : called s.positions call with
  | none =>
    refine .nothing ?_ (fun id => ?_) fun row out there => ?_
    · unfold confirmedIn
      rw [here]
    · rw [figuresOf_written]
      unfold logged
      rw [here]
      rfl
    · rw [here] at there
      cases there
  | some both =>
    obtain ⟨row, out⟩ := both
    obtain ⟨mem, case⟩ := called_case here
    have log : logged s.positions call =
        if out.1.Checked then out.2.1.map (recordEntry row.id) else [] := by
      unfold logged
      rw [here]
    have confirmed : confirmedIn s.positions call = confirmedBy row out.2.2 := by
      unfold confirmedIn
      rw [here]
    cases case with
    | quiet row' records result money closes nothing =>
      refine .nothing ?_ (fun id => ?_) fun row₀ out₀ there => ?_
      · rw [confirmed]
        unfold confirmedBy
        rw [nothing]
        rfl
      · rw [figuresOf_written, log]
        split
        · rw [figuresOf_records, closes, List.map_nil, ite_self]
        · rfl
      · cases here.symm.trans there
        unfold PositionRow.flushed
        split
        · exact money
        · rfl
    | booked decision outcome fill row' records result confirmation' money checked closes =>
      have proper := conduct.1 row _ here decision outcome fill confirmation'
      obtain ⟨amount, known, total⟩ := exists_booked decision fill proper.paid
      have stored : row'.Checked := checked.mpr (proper.checked fill)
      refine .close row _ (confirmedClose row decision outcome fill) amount here mem rfl ?_
        (fun id => ?_) known ?_ proper.unrecorded
      · rw [confirmed]
        unfold confirmedBy
        rw [confirmation']
        rfl
      · rw [figuresOf_written, log, if_pos stored, figuresOf_records,
          closes proper.positive proper.within]
        rfl
      · unfold PositionRow.flushed
        rw [if_pos stored, money, total]

section Step

variable {s : Desk}

theorem Desk.Sound.confirmedOf_eq_nil (sound : s.Sound) {id : String}
    (absent : id ∉ s.positions.rows.map fun row => row.id) : s.confirmedOf id = [] := by
  refine List.filter_eq_nil_iff.mpr fun close mem => ?_
  rw [decide_eq_true_iff]
  rintro rfl
  exact absent (sound.known close mem)

theorem Desk.Sound.book {call : BookEvent} {positions : PositionsTable} (sound : s.Sound)
    (adds : Adds s call) (taken : s.positions.step call = some positions) :
    Desk.Sound ⟨positions, s.events ++ written s.positions call, s.trades,
      s.confirmed ++ confirmedIn s.positions call⟩ := by
  have confirmedOf : ∀ id, Desk.confirmedOf ⟨positions, s.events ++ written s.positions call,
      s.trades, s.confirmed ++ confirmedIn s.positions call⟩ id = s.confirmedOf id ++
        (confirmedIn s.positions call).filter fun close => close.positionId = id :=
    fun id => List.filter_append ..
  have linked : ∀ trade ∈ s.trades.rows, ∀ id, trade.positionId = some id →
      id ∈ positions.rows.map fun row => row.id := fun trade mem id of =>
    ids_of_step taken (sound.linked trade mem id of)
  cases adds with
  | nothing confirmed log money =>
    have same : ∀ id, Desk.confirmedOf ⟨positions, s.events ++ written s.positions call,
        s.trades, s.confirmed ++ confirmedIn s.positions call⟩ id = s.confirmedOf id := by
      intro id
      rw [confirmedOf, confirmed, List.filter_nil, List.append_nil]
    refine ⟨fun id => ?_, fun row' mem => ?_, fun close mem => ?_, linked,
      fun trade mem id of => ?_⟩
    · rw [same, figuresOf_append, log, List.append_nil]
      exact sound.logged id
    · rw [same]
      cases origin_of_step taken mem with
      | kept row mem' id money' closed uncalled =>
        rw [id, money']
        exact sound.booked row mem'
      | called row out here id flushed =>
        rw [id, flushed, money row out here]
        exact sound.booked row (called_case here).1
      | fresh free none' =>
        rw [sound.confirmedOf_eq_nil free, none']
        exact ⟨[], rfl, rfl⟩
    · dsimp only at mem
      rw [confirmed, List.append_nil] at mem
      exact ids_of_step taken (sound.known close mem)
    · rw [same]
      exact sound.final trade mem id of
  | close row out close money here mem of confirmed log known booked unrecorded =>
    have own : Desk.confirmedOf ⟨positions, s.events ++ written s.positions call,
        s.trades, s.confirmed ++ confirmedIn s.positions call⟩ row.id =
          s.confirmedOf row.id ++ [close] := by
      rw [confirmedOf, confirmed, List.filter_cons_of_pos (by simp [of]), List.filter_nil]
    have other : ∀ id, row.id ≠ id → Desk.confirmedOf ⟨positions,
        s.events ++ written s.positions call, s.trades,
        s.confirmed ++ confirmedIn s.positions call⟩ id = s.confirmedOf id := by
      intro id different
      rw [confirmedOf, confirmed, List.filter_cons_of_neg (by simp [of, different]),
        List.filter_nil, List.append_nil]
    refine ⟨fun id => ?_, fun row' mem' => ?_, fun close' mem' => ?_, linked,
      fun trade mem' id of' => ?_⟩
    · dsimp only
      rw [figuresOf_append, log, sound.logged]
      by_cases same : row.id = id
      · rw [if_pos same, ← same, own, List.map_append]
        rfl
      · rw [if_neg same, other id same, List.append_nil]
    · cases origin_of_step taken mem' with
      | kept row₀ mem₀ id money' closed uncalled =>
        rw [id, money', other row₀.id (uncalled row out here)]
        exact sound.booked row₀ mem₀
      | called row₀ out₀ here₀ id flushed =>
        cases here.symm.trans here₀
        rw [id, flushed, own, booked]
        exact (sound.booked row mem).append known
      | fresh free none' =>
        have different : row.id ≠ row'.id := fun same => free (same ▸ List.mem_map_of_mem mem)
        rw [other row'.id different, sound.confirmedOf_eq_nil free, none']
        exact ⟨[], rfl, rfl⟩
    · dsimp only at mem'
      rw [confirmed] at mem'
      rcases List.mem_append.mp mem' with old | new
      · exact ids_of_step taken (sound.known close' old)
      · obtain rfl := List.mem_singleton.mp new
        rw [of]
        exact ids_of_step taken (List.mem_map_of_mem mem)
    · have different : row.id ≠ id := by
        rintro rfl
        exact TradesTable.ofPosition_eq_none.mp unrecorded trade mem' of'
      rw [other id different]
      exact sound.final trade mem' id of'

theorem mem_pending {positions : PositionsTable} {trades : TradesTable} {mode : Option Mode}
    {row : PositionRow} : row ∈ pending positions trades mode ↔ row ∈ positions.rows ∧
      row.status ∈ recordable ∧ trades.ofPosition row.id = none ∧
        ∀ mode' ∈ mode, row.mode = mode' := by
  unfold pending
  rw [List.mem_filter, Bool.and_eq_true, Bool.and_eq_true, decide_eq_true_iff, and_assoc,
    Option.isNone_iff_eq_none]
  cases mode with
  | none | some mode => simp

theorem mem_pending_of_mem_batch {positions : PositionsTable} {trades : TradesTable} {q : Query}
    {mode : Option Mode} {limit : ℕ} {row : PositionRow}
    (mem : row ∈ batch positions trades q mode limit) : row ∈ pending positions trades mode :=
  (q.oldestFirst_perm _).mem_iff.mp (List.mem_of_mem_take mem)

theorem batch_nodup (positions : PositionsTable) (trades : TradesTable) (q : Query)
    (mode : Option Mode) (limit : ℕ) :
    ((batch positions trades q mode limit).map fun row => row.id).Nodup := by
  have rows : ((pending positions trades mode).map fun row => row.id).Nodup :=
    positions.keys.sublist (List.filter_sublist.map _)
  have sorted := (((q.oldestFirst_perm _).map fun row => row.id).nodup_iff).mpr rows
  exact sorted.sublist ((List.take_sublist ..).map _)

theorem recordPending_of_unshared (refs : References) {q : Query} {mode : Option Mode} {limit : ℕ}
    (unshared : Unshared s q mode limit) :
    ∃ trades out, Journal.recordPending s.positions s.trades s.events refs q mode limit =
        .ok (trades, out) ∧
      trades.rows = s.trades.rows ++ ((batch s.positions s.trades q mode limit).filter fun row =>
        decide (Measured s.events row)).map (tradeFor s.events refs q) :=
  recordAll_of_absent (batch_nodup ..)
    (fun _ mem => (mem_pending.mp (mem_pending_of_mem_batch mem)).2.2.1) unshared

theorem Desk.step_of_unshared {refs : References} {q : Query} {mode : Option Mode} {limit : ℕ}
    (unshared : Unshared s q mode limit)
    (taken : s.step (.recordPending refs q mode limit) = some u) :
    ∃ trades : TradesTable, u = { s with trades } ∧
      trades.rows = s.trades.rows ++ ((batch s.positions s.trades q mode limit).filter fun row =>
        decide (Measured s.events row)).map (tradeFor s.events refs q) := by
  obtain ⟨trades, out, recorded, rows⟩ := recordPending_of_unshared refs unshared
  refine ⟨trades, ?_, rows⟩
  unfold Desk.step at taken
  dsimp only at taken
  rw [recorded] at taken
  exact (Option.some.inj taken).symm

theorem Desk.Sound.step {e : DeskEvent} (sound : s.Sound) (conduct : s.Conduct e)
    (taken : s.step e = some u) : u.Sound := by
  cases e with
  | book call =>
    obtain ⟨positions, stepped, rfl⟩ := Option.map_eq_some_iff.mp taken
    exact sound.book (adds_of_conduct conduct) stepped
  | recordPending refs q mode limit =>
    obtain ⟨trades, rfl, rows⟩ := Desk.step_of_unshared conduct.2 taken
    have new : ∀ trade ∈ trades.rows, trade ∈ s.trades.rows ∨ ∃ row ∈ s.positions.rows,
        Measured s.events row ∧ tradeFor s.events refs q row = trade := by
      intro trade mem
      rw [rows] at mem
      refine (List.mem_append.mp mem).imp_right fun mem => ?_
      obtain ⟨row, mem, same⟩ := List.mem_map.mp mem
      obtain ⟨mem, measured⟩ := List.mem_filter.mp mem
      exact ⟨row, (mem_pending.mp (mem_pending_of_mem_batch mem)).1,
        of_decide_eq_true measured, same⟩
    refine ⟨sound.logged, sound.booked, sound.known, fun trade mem id of => ?_,
      fun trade mem id of => ?_⟩
    · rcases new trade mem with old | ⟨row, there, measured, rfl⟩
      · exact sound.linked trade old id of
      · cases of
        exact List.mem_map_of_mem there
    · rcases new trade mem with old | ⟨row, there, measured, rfl⟩
      · exact sound.final trade old id of
      · cases of
        exact sound.reflects there measured refs q

end Step

end TradeResearch.Journal
