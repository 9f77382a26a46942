import TradeResearch.Execution.Repository

/-!
# What the record of an order keeps

The executions of a record are the fills of the order, whatever is called and however often a
process restarts. The audit trail is not: the rows `persist` writes are counted by a trail that a
restart empties, so a transition of a reloaded order is passed over. The order a restart loads is
the one that was persisted when nothing in it was without a column.

* `Life.Kept` is the invariant of every life, and `step_kept` its step.
* `Life.Lossless` is what a record should be.
* `lossless_along_iff_meets` says in which lives it is.
-/

namespace TradeResearch.Execution

open Oms

@[simp] theorem length_eventRows (sequence : ℕ) (ts : List OrderTransition) :
    (eventRows sequence ts).length = ts.length := by
  induction ts generalizing sequence with
  | nil => rfl
  | cons t ts ih => rw [eventRows, List.length_cons, ih, List.length_cons]

theorem eventRows_append (sequence : ℕ) (ts us : List OrderTransition) :
    eventRows sequence (ts ++ us) =
      eventRows sequence ts ++ eventRows (sequence + ts.length) us := by
  induction ts generalizing sequence with
  | nil => rfl
  | cons t ts ih =>
    have next : sequence + 1 + ts.length = sequence + (ts.length + 1) := by omega
    rw [List.cons_append, eventRows, eventRows, ih, List.cons_append, List.length_cons, next]

namespace StoredOrder

section Events

variable {d : StoredOrder} {o o' : ManagedOrder}

theorem length_writeEvents (d : StoredOrder) (o : ManagedOrder) :
    (d.writeEvents o).length = max d.events.length o.transitions.length := by
  unfold writeEvents
  rw [List.length_append, length_eventRows, List.length_drop]
  omega

theorem writeEvents_of_abreast (log : d.events = eventRows 0 trail)
    (abreast : o.transitions.length = d.events.length) :
    d.writeEvents o' = eventRows 0 (trail ++ o'.transitions.drop o.transitions.length) := by
  have length : d.events.length = trail.length := by rw [log, length_eventRows]
  unfold writeEvents
  rw [abreast, eventRows_append, ← log, length, Nat.zero_add]

theorem writeEvents_of_le (behind : o.transitions.length ≤ d.events.length) :
    d.writeEvents o = d.events := by
  unfold writeEvents
  rw [List.drop_eq_nil_of_le behind]
  exact List.append_nil _

theorem writeEvents_ne_of_behind (log : d.events = eventRows 0 trail)
    (behind : o.transitions.length < d.events.length)
    (further : o.transitions <+: o'.transitions) (moves : o'.transitions ≠ o.transitions) :
    d.writeEvents o' ≠ eventRows 0 (trail ++ o'.transitions.drop o.transitions.length) := by
  have length : d.events.length = trail.length := by rw [log, length_eventRows]
  have longer : o.transitions.length < o'.transitions.length := by
    rcases Nat.lt_or_eq_of_le further.length_le with longer | same
    · exact longer
    · exact absurd (further.eq_of_length same).symm moves
  intro written
  have lengths := congrArg List.length written
  rw [length_writeEvents, length_eventRows, List.length_append, List.length_drop] at lengths
  omega

end Events

section Executions

variable {d : StoredOrder} {o : ManagedOrder}

theorem any_executions_eq (stored : d.executions.Perm (o.book.fills.map ExecutionRow.of))
    (deal : String) :
    (d.executions.any fun row => row.brokerDealId == some deal) =
      o.book.alreadyRecorded (some deal) := by
  rw [stored.any_eq, List.any_map]
  rfl

theorem covers_of_mem (stored : d.executions.Perm (o.book.fills.map ExecutionRow.of))
    {place : FillRecord × ℕ} (mem : place.1 ∈ o.book.fills)
    (bound : place.2 < o.book.fills.length) : d.covers place = true := by
  have length : d.executions.length = o.book.fills.length := by
    rw [stored.length_eq, List.length_map]
  unfold covers
  cases deal : place.1.brokerDealId with
  | none => exact decide_eq_true (length ▸ bound)
  | some deal' =>
    dsimp only
    rw [any_executions_eq stored]
    exact FillBook.alreadyRecorded_iff.mpr ⟨deal', rfl, place.1, mem, deal⟩

theorem not_covers_of_fresh (stored : d.executions.Perm (o.book.fills.map ExecutionRow.of))
    {place : FillRecord × ℕ} (fresh : o.book.alreadyRecorded place.1.brokerDealId = false)
    (past : o.book.fills.length ≤ place.2) : d.covers place = false := by
  have length : d.executions.length = o.book.fills.length := by
    rw [stored.length_eq, List.length_map]
  unfold covers
  cases deal : place.1.brokerDealId with
  | none => exact decide_eq_false (by omega)
  | some deal' =>
    dsimp only
    rw [any_executions_eq stored, ← deal]
    exact fresh

theorem writeExecutions_perm (stored : d.executions.Perm (o.book.fills.map ExecutionRow.of))
    (further : o.Continues o') :
    (d.writeExecutions o').Perm (o'.book.fills.map ExecutionRow.of) := by
  obtain ⟨added, grown, fresh⟩ := further.fills
  have old : (o.book.fills.zipIdx.filter fun place => !d.covers place) = [] := by
    rw [List.filter_eq_nil_iff]
    intro place mem
    have bound := List.snd_lt_add_of_mem_zipIdx mem
    rw [covers_of_mem stored (List.fst_mem_of_mem_zipIdx mem) (by omega)]
    decide
  have new : ((added.zipIdx o.book.fills.length).filter fun place => !d.covers place) =
      added.zipIdx o.book.fills.length := by
    rw [List.filter_eq_self]
    intro place mem
    rw [not_covers_of_fresh stored (fresh _ (List.fst_mem_of_mem_zipIdx mem))
      (List.le_snd_of_mem_zipIdx mem)]
    rfl
  have written : (added.zipIdx o.book.fills.length).map (fun place => ExecutionRow.of place.1) =
      added.map ExecutionRow.of := by
    rw [← List.zipIdx_map_fst o.book.fills.length added, List.map_map]
    simp
  unfold writeExecutions
  rw [grown, List.zipIdx_append, List.filter_append, old, Nat.zero_add, new, List.nil_append,
    written, List.map_append]
  exact stored.append_right _

end Executions

end StoredOrder

def recorded (f : FillRecord) : FillRecord := { f with realizedPnl := none }

theorem recorded_eq_iff {f : FillRecord} : recorded f = f ↔ f.realizedPnl = none := by
  constructor
  · intro same
    rw [← same]
    rfl
  · intro unsaid
    cases f
    cases unsaid
    rfl

theorem make_report (f : FillRecord) : (ExecutionRow.of f).report.make = .ok (recorded f) := by
  have quantity : (Figure.finite f.quantity).positive? = some f.quantity := if_pos f.quantity_pos
  have price : (Figure.finite f.price).positive? = some f.price := if_pos f.price_pos
  unfold FillReport.make
  split
  · next absent => exact absurd (quantity.symm.trans absent) (by simp)
  · next q here =>
    split
    · next absent => exact absurd (price.symm.trans absent) (by simp)
    · next r here' =>
      have q_eq : f.quantity = q := Option.some.inj (quantity.symm.trans here)
      have r_eq : f.price = r := Option.some.inj (price.symm.trans here')
      subst q_eq r_eq
      rfl

theorem exec_rebuild (fs : List FillRecord) (o : ManagedOrder)
    (room : (fs.map FillRecord.quantity).sum ≤ o.book.remainingQuantity) :
    ∃ (book : FillBook) (book_requested : book.requested = o.quantity),
      (StoredOrder.rebuild (fs.map ExecutionRow.of)).exec o =
          (.ok (), { o with book, book_requested }) ∧
        book.fills = o.book.fills ++ fs.map recorded := by
  induction fs generalizing o with
  | nil => exact ⟨o.book, o.book_requested, rfl, (List.append_nil _).symm⟩
  | cons f fs ih =>
    rw [List.map_cons, List.sum_cons] at room
    have rest : 0 ≤ (fs.map FillRecord.quantity).sum :=
      List.sum_nonneg fun q mem => by
        obtain ⟨g, _, rfl⟩ := List.mem_map.mp mem
        exact g.quantity_pos.le
    have fits : (recorded f).quantity ≤ o.book.remainingQuantity := by
      show f.quantity ≤ _
      linarith
    have room' : (fs.map FillRecord.quantity).sum ≤
        (o.withFill (recorded f) fits).book.remainingQuantity := by
      unfold FillBook.remainingQuantity at room ⊢
      rw [ManagedOrder.withFill_book, FillBook.append_filledQuantity, FillBook.append_requested]
      show _ ≤ _ - (_ + f.quantity)
      linarith
    obtain ⟨book, book_requested, rebuilt, fills⟩ := ih _ room'
    refine ⟨book, book_requested, ?_, ?_⟩
    · rw [List.map_cons, StoredOrder.rebuild, make_report]
      rw [Method.exec_bind_ok (ManagedOrder.exec_addFill_of_fits fits), rebuilt]
      rfl
    · rw [fills, ManagedOrder.withFill_book, FillBook.append_fills, List.append_assoc]
      rfl

structure SameRecord (o p : ManagedOrder) : Prop where
  status : o.status = p.status
  requested : o.book.requested = p.book.requested
  fills : o.book.fills.Perm p.book.fills
  id : o.id = p.id
  clientOrderId : o.clientOrderId = p.clientOrderId
  accountId : o.accountId = p.accountId
  brokerOrderId : o.brokerOrderId = p.brokerOrderId
  signalId : o.signalId = p.signalId
  strategyId : o.strategyId = p.strategyId
  botId : o.botId = p.botId
  riskDecisionId : o.riskDecisionId = p.riskDecisionId
  requestedPrice : o.requestedPrice = p.requestedPrice
  stopLoss : o.stopLoss = p.stopLoss
  takeProfit : o.takeProfit = p.takeProfit

theorem SameRecord.refl (o : ManagedOrder) : SameRecord o o :=
  ⟨rfl, rfl, .refl _, rfl, rfl, rfl, rfl, rfl, rfl, rfl, rfl, rfl, rfl, rfl⟩

structure Lossless (s : Life) : Prop where
  events : s.stored.events = eventRows 0 s.trail
  executions : s.stored.executions.Perm (s.persisted.book.fills.map ExecutionRow.of)
  live : ∀ o, s.live = some o → SameRecord o s.persisted

def Storable (repo : OrderRepository) (o : ManagedOrder) : Prop :=
  (o.accountId = "" ∨ repo.accounts o.mode o.accountId = true) ∧ o.strategyId = none ∧
    o.botId = none ∧ ∀ f ∈ o.book.fills, f.realizedPnl = none

def Recordable (repo : OrderRepository) (s : Life) : LifeEvent → Prop
  | .call c => ∀ o, s.live = some o →
    o.transitions.length = s.stored.events.length ∨
      (c.body.left o).transitions = o.transitions
  | .restart mode rows =>
    s.Reads rows → s.persisted.mode = mode → s.persisted.needsReconciliation = true →
      Storable repo s.persisted

structure SameColumns (o p : ManagedOrder) : Prop where
  id : o.id = p.id
  clientOrderId : o.clientOrderId = p.clientOrderId
  mode : o.mode = p.mode
  symbol : o.symbol = p.symbol
  side : o.side = p.side
  orderType : o.orderType = p.orderType
  quantity : o.quantity = p.quantity
  createdAt : o.createdAt = p.createdAt

theorem SameColumns.refl (o : ManagedOrder) : SameColumns o o :=
  ⟨rfl, rfl, rfl, rfl, rfl, rfl, rfl, rfl⟩

theorem SameColumns.continues {o p o' : ManagedOrder} (same : SameColumns o p)
    (further : o.Continues o') : SameColumns o' p :=
  ⟨further.id.trans same.id, further.clientOrderId.trans same.clientOrderId,
    further.mode.trans same.mode, further.symbol.trans same.symbol,
    further.side.trans same.side, further.orderType.trans same.orderType,
    further.quantity.trans same.quantity, further.createdAt.trans same.createdAt⟩

theorem new_apply {o p : ManagedOrder} (same : SameColumns o p) :
    (OrderRow.new p).apply o = .new o := by
  unfold OrderRow.new OrderRow.apply
  rw [same.id, same.clientOrderId, same.mode, same.symbol, same.side, same.orderType,
    same.quantity, same.createdAt]

def accountOf (repo : OrderRepository) (o : ManagedOrder) : String :=
  if repo.accounts o.mode o.accountId then o.accountId else ""

theorem accountOf_eq_iff {repo : OrderRepository} {o : ManagedOrder} :
    accountOf repo o = o.accountId ↔
      o.accountId = "" ∨ repo.accounts o.mode o.accountId = true := by
  unfold accountOf
  split
  · next known => exact iff_of_true rfl (.inr known)
  · next unknown => exact ⟨fun same => .inl same.symm, fun is => (is.resolve_right unknown).symm⟩

structure LiveKept (d : StoredOrder) (p o : ManagedOrder) : Prop where
  columns : SameColumns o p
  account : o.accountId = p.accountId ∨ o.accountId = d.account
  executions : d.executions.Perm (o.book.fills.map ExecutionRow.of)
  trail : o.transitions.length ≤ d.events.length

structure Kept (repo : OrderRepository) (s : Life) : Prop where
  symbol : repo.symbols s.persisted.symbol = true
  row : s.stored.row = .new s.persisted
  account : s.stored.account = accountOf repo s.persisted
  executions : s.stored.executions.Perm (s.persisted.book.fills.map ExecutionRow.of)
  live : ∀ o, s.live = some o → LiveKept s.stored s.persisted o

theorem LiveKept.rewrite {repo : OrderRepository} {d : StoredOrder} {p o o' : ManagedOrder}
    (kept : LiveKept d p o) (row : d.row = .new p) (account : d.account = accountOf repo p)
    (further : o.Continues o') :
    (d.rewrite o').row = .new o' ∧ (d.rewrite o').account = accountOf repo o' ∧
      (d.rewrite o').executions.Perm (o'.book.fills.map ExecutionRow.of) ∧
      o'.transitions.length ≤ (d.rewrite o').events.length := by
  refine ⟨?_, ?_, StoredOrder.writeExecutions_perm kept.executions further, ?_⟩
  · show d.row.apply o' = _
    rw [row, new_apply (kept.columns.continues further)]
  · have mode : o'.mode = p.mode := further.mode.trans kept.columns.mode
    show d.account = _
    rcases kept.account with same | stored
    · unfold accountOf at account ⊢
      rw [mode, further.accountId, same]
      exact account
    · unfold accountOf at account ⊢
      rw [mode, further.accountId, stored]
      by_cases known : repo.accounts p.mode p.accountId = true
      · rw [if_pos known] at account
        rw [account, if_pos known]
      · rw [if_neg known] at account
        rw [account, ite_self]
  · show _ ≤ (d.writeEvents o').length
    rw [StoredOrder.length_writeEvents]
    exact le_max_right _ _

theorem insert_eq_some {repo : OrderRepository} {o : ManagedOrder} {d : StoredOrder}
    (inserted : repo.insert o = some d) :
    repo.symbols o.symbol = true ∧ d.row = .new o ∧ d.account = accountOf repo o ∧
      d.events = [] ∧ d.executions = [] := by
  unfold OrderRepository.insert at inserted
  rw [Option.ite_none_right_eq_some, Option.some.injEq] at inserted
  obtain ⟨resolves, rfl⟩ := inserted
  refine ⟨resolves, rfl, ?_, rfl, rfl⟩
  unfold StoredOrder.account OrderRepository.accountColumn accountOf
  by_cases named : o.accountId = ""
  · by_cases paper : o.mode = .paper <;> simp [named, paper, truthy]
  · by_cases known : repo.accounts o.mode o.accountId = true
    · by_cases paper : o.mode = .paper <;> simp_all [truthy]
    · by_cases paper : o.mode = .paper <;> simp_all [truthy]

section Life

variable {repo : OrderRepository} {s : Life}

theorem start_eq_some {o : ManagedOrder} (begun : Life.start repo o = some s) :
    ∃ d, repo.insert o = some d ∧
      s = { stored := d.rewrite o, live := some o, persisted := o, trail := o.transitions } := by
  unfold Life.start OrderRepository.persist at begun
  rw [Option.none_or, Option.map_map, Option.map_eq_some_iff] at begun
  obtain ⟨d, inserted, rfl⟩ := begun
  exact ⟨d, inserted, rfl⟩

theorem step_call {c : OrderCall} (taken : s.step repo (.call c) = some t) :
    ∃ o, s.live = some o ∧
      t =
        { stored := s.stored.rewrite (c.body.left o)
          live := some (c.body.left o)
          persisted := c.body.left o
          trail := s.trail ++ (c.body.left o).transitions.drop o.transitions.length } := by
  obtain ⟨o, held, written⟩ := Option.bind_eq_some_iff.mp taken
  exact ⟨o, held, (Option.some.inj written).symm⟩

theorem step_restart {mode : Mode} {rows : List ExecutionRow}
    (taken : s.step repo (.restart mode rows) = some t) :
    s.Reads rows ∧
      t =
        { s with
          live :=
            if s.stored.unresolved repo mode then (s.stored.rehydrate rows).toOption
            else none } := by
  unfold Life.step at taken
  rw [Option.ite_none_right_eq_some, Option.some.injEq] at taken
  exact ⟨taken.1, taken.2.symm⟩

theorem rehydrate_eq {d : StoredOrder} {p : ManagedOrder} {rows : List ExecutionRow}
    (row : d.row = .new p)
    (executions : d.executions.Perm (p.book.fills.map ExecutionRow.of))
    (read : rows.Perm d.executions) :
    ∃ (positive : 0 < d.row.quantity) (book : FillBook)
      (book_requested : book.requested = d.row.quantity) (fs : List FillRecord),
      d.rehydrate rows = .ok { d.shell positive with book, book_requested } ∧
        fs.Perm p.book.fills ∧ rows = fs.map ExecutionRow.of ∧ book.fills = fs.map recorded := by
  have positive : 0 < d.row.quantity := by
    rw [row]
    show 0 < p.quantity
    rw [← p.book_requested]
    exact p.book.requested_pos
  obtain ⟨fs, rfl, same⟩ := (congrFun (congrFun (List.eq_map_comp_perm ExecutionRow.of) rows)
    p.book.fills).mpr (read.trans executions)
  have room : (fs.map FillRecord.quantity).sum ≤ (d.shell positive).book.remainingQuantity := by
    have within := p.book.filledQuantity_le_requested
    rw [p.book_requested, FillBook.filledQuantity,
      ← (same.map FillRecord.quantity).sum_eq] at within
    show _ ≤ d.row.quantity - 0
    rw [sub_zero, row]
    exact within
  obtain ⟨book, book_requested, rebuilt, fills⟩ := exec_rebuild fs (d.shell positive) room
  refine ⟨positive, book, book_requested, fs, ?_, same, rfl, fills⟩
  unfold StoredOrder.rehydrate
  rw [dif_pos positive, rebuilt]

theorem sameRecord_rehydrated_iff {d : StoredOrder} {p o : ManagedOrder}
    {rows : List ExecutionRow} (row : d.row = .new p) (account : d.account = accountOf repo p)
    (executions : d.executions.Perm (p.book.fills.map ExecutionRow.of))
    (read : rows.Perm d.executions) (loaded : d.rehydrate rows = .ok o) :
    SameRecord o p ↔ Storable repo p := by
  obtain ⟨positive, book, book_requested, fs, built, same, _, fills⟩ :=
    rehydrate_eq row executions read
  cases loaded.symm.trans built
  constructor
  · intro record
    refine ⟨accountOf_eq_iff.mp (account.symm.trans record.accountId), record.strategyId.symm,
      record.botId.symm, fun f mem => ?_⟩
    have back : f ∈ fs.map recorded := fills ▸ record.fills.mem_iff.mpr mem
    obtain ⟨g, _, rfl⟩ := List.mem_map.mp back
    rfl
  · rintro ⟨known, strategyId, botId, unsaid⟩
    have whole : fs.map recorded = fs := by
      refine (List.map_congr_left fun f mem => ?_).trans (List.map_id fs)
      exact recorded_eq_iff.mpr (unsaid f (same.mem_iff.mp mem))
    exact
      { status := congrArg OrderRow.status row
        requested := book_requested.trans
          ((congrArg OrderRow.quantity row).trans p.book_requested.symm)
        fills := by rw [fills, whole]; exact same
        id := congrArg OrderRow.id row
        clientOrderId := congrArg OrderRow.intentId row
        accountId := account.trans (accountOf_eq_iff.mpr known)
        brokerOrderId := congrArg OrderRow.brokerOrderId row
        signalId := congrArg OrderRow.signalId row
        strategyId := strategyId.symm
        botId := botId.symm
        riskDecisionId := congrArg OrderRow.riskDecisionId row
        requestedPrice := congrArg OrderRow.requestedPrice row
        stopLoss := congrArg OrderRow.stopLoss row
        takeProfit := congrArg OrderRow.takeProfit row }

theorem liveKept_rehydrated {d : StoredOrder} {p o : ManagedOrder} {rows : List ExecutionRow}
    (row : d.row = .new p) (executions : d.executions.Perm (p.book.fills.map ExecutionRow.of))
    (read : rows.Perm d.executions) (loaded : d.rehydrate rows = .ok o) : LiveKept d p o := by
  obtain ⟨positive, book, book_requested, fs, built, same, rfl, fills⟩ :=
    rehydrate_eq row executions read
  cases loaded.symm.trans built
  refine
    { columns :=
        { id := congrArg OrderRow.id row
          clientOrderId := congrArg OrderRow.intentId row
          mode := congrArg OrderRow.mode row
          symbol := congrArg OrderRow.symbol row
          side := congrArg OrderRow.side row
          orderType := congrArg OrderRow.orderType row
          quantity := congrArg OrderRow.quantity row
          createdAt := congrArg OrderRow.createdAt row }
      account := .inr rfl
      executions := ?_
      trail := Nat.zero_le _ }
  have rows_eq : book.fills.map ExecutionRow.of = fs.map ExecutionRow.of := by
    rw [fills, List.map_map]
    rfl
  exact read.symm.trans (.of_eq rows_eq.symm)

theorem start_kept {o : ManagedOrder} (begun : Life.start repo o = some s) : Kept repo s := by
  obtain ⟨d, inserted, rfl⟩ := start_eq_some begun
  obtain ⟨resolves, filed, named, noEvents, noExecutions⟩ := insert_eq_some inserted
  let unfilled : ManagedOrder :=
    { o with
      book := FillBook.empty o.quantity (o.book_requested ▸ o.book.requested_pos)
      book_requested := rfl
      transitions := [] }
  have further : unfilled.Continues o :=
    ⟨⟨rfl, rfl, rfl, rfl, rfl, rfl, rfl⟩, rfl, rfl, rfl, rfl, List.nil_prefix, o.book.fills, rfl,
      fun f _ => FillBook.not_alreadyRecorded_of_fills_nil rfl _⟩
  have begins : LiveKept d o unfilled :=
    { columns := ⟨rfl, rfl, rfl, rfl, rfl, rfl, rfl, rfl⟩
      account := .inl rfl
      executions := noExecutions ▸ .refl []
      trail := Nat.zero_le _ }
  obtain ⟨row, account, executions, trail⟩ := begins.rewrite filed named further
  refine ⟨resolves, row, account, executions, fun o' held => ?_⟩
  cases held
  exact ⟨.refl o, .inl rfl, executions, trail⟩

theorem step_kept {e : LifeEvent} (kept : Kept repo s) (taken : s.step repo e = some t) :
    Kept repo t := by
  cases e with
  | call c =>
    obtain ⟨o, held, rfl⟩ := step_call taken
    have further := ManagedOrder.keeps_body (ManagedOrder.lasting_continues o)
      (ManagedOrder.renamable_continues o) c o (.refl o)
    have live := kept.live o held
    obtain ⟨row, account, executions, trail⟩ := live.rewrite kept.row kept.account further
    refine ⟨?_, row, account, executions, fun o' held' => ?_⟩
    · rw [further.symbol, live.columns.symbol]
      exact kept.symbol
    · cases held'
      exact ⟨.refl _, .inl rfl, executions, trail⟩
  | restart mode rows =>
    obtain ⟨⟨read, _⟩, rfl⟩ := step_restart taken
    refine ⟨kept.symbol, kept.row, kept.account, kept.executions, fun o held => ?_⟩
    rw [Option.ite_none_right_eq_some] at held
    cases loaded : s.stored.rehydrate rows with
    | error e =>
      rw [loaded] at held
      exact absurd held.2 (by simp [Except.toOption])
    | ok o' =>
      rw [loaded] at held
      cases held.2
      exact liveKept_rehydrated kept.row kept.executions read loaded

theorem start_lossless {o : ManagedOrder} (begun : Life.start repo o = some s) : Lossless s := by
  have kept := start_kept begun
  obtain ⟨d, inserted, rfl⟩ := start_eq_some begun
  obtain ⟨_, _, _, noEvents, _⟩ := insert_eq_some inserted
  refine ⟨?_, kept.executions, fun o' held => ?_⟩
  · show d.writeEvents o = _
    unfold StoredOrder.writeEvents
    rw [noEvents]
    rfl
  · cases held
    exact .refl o

theorem step_lossless_iff {e : LifeEvent} (kept : Kept repo s) (lossless : Lossless s)
    (taken : s.step repo e = some t) : Lossless t ↔ Recordable repo s e := by
  have kept' := step_kept kept taken
  cases e with
  | call c =>
    obtain ⟨o, held, rfl⟩ := step_call taken
    have further := ManagedOrder.keeps_body (ManagedOrder.lasting_continues o)
      (ManagedOrder.renamable_continues o) c o (.refl o)
    have same : ∀ o', some (c.body.left o) = some o' → SameRecord o' (c.body.left o) := by
      intro o' is
      cases is
      exact .refl _
    constructor
    · intro lossless' o' held'
      cases held.symm.trans held'
      by_contra moves
      push Not at moves
      have behind := lt_of_le_of_ne (kept.live o held).trail moves.1
      exact StoredOrder.writeEvents_ne_of_behind lossless.events behind further.trail moves.2
        lossless'.events
    · intro recordable
      refine ⟨?_, kept'.executions, same⟩
      rcases recordable o held with abreast | still
      · exact StoredOrder.writeEvents_of_abreast lossless.events abreast
      · have behind : (c.body.left o).transitions.length ≤ s.stored.events.length := by
          rw [still]
          exact (kept.live o held).trail
        show s.stored.writeEvents _ = _
        rw [StoredOrder.writeEvents_of_le behind, still, List.drop_length, List.append_nil]
        exact lossless.events
  | restart mode rows =>
    obtain ⟨reads, rfl⟩ := step_restart taken
    obtain ⟨positive, book, book_requested, fs, built, _⟩ :=
      rehydrate_eq kept.row kept.executions reads.1
    have loads : s.stored.unresolved repo mode = true ↔
        s.persisted.mode = mode ∧ s.persisted.needsReconciliation = true := by
      unfold StoredOrder.unresolved
      rw [kept.row, Bool.and_eq_true, Bool.and_eq_true, decide_eq_true_iff]
      exact ⟨fun asked => asked.1, fun asked => ⟨asked, kept.symbol⟩⟩
    have same := sameRecord_rehydrated_iff kept.row kept.account kept.executions reads.1 built
    constructor
    · intro lossless' _ here needs
      refine same.mp (lossless'.live _ ?_)
      rw [if_pos (loads.mpr ⟨here, needs⟩), built]
      rfl
    · intro recordable
      refine ⟨lossless.events, lossless.executions, fun o held => ?_⟩
      rw [Option.ite_none_right_eq_some, built] at held
      obtain ⟨here, needs⟩ := loads.mp held.1
      cases held.2
      exact same.mpr (recordable reads here needs)

theorem recordable_of_blocked {e : LifeEvent} (blocked : s.step repo e = none) :
    Recordable repo s e := by
  cases e with
  | call c =>
    intro o held
    dsimp only [Life.step] at blocked
    rw [held] at blocked
    cases blocked
  | restart mode rows =>
    intro reads
    dsimp only [Life.step] at blocked
    rw [if_pos reads] at blocked
    cases blocked

end Life

/-- A record loses nothing all along a life exactly when every event of it can be recorded: no
call moves an order a restart loaded, and no restart loads an order of which something has no
column. -/
theorem lossless_along_iff_meets (repo : OrderRepository) (o : ManagedOrder) (s : Life)
    (begun : Life.start repo o = some s) (events : List LifeEvent) :
    Run.Along (Life.step repo) Lossless s events ↔
      Run.Meets (Life.step repo) (Recordable repo) s events := by
  refine Run.along_iff_meets_of_invariant (I := Kept repo) ?_ ?_ ?_ (start_kept begun)
    (start_lossless begun)
  · exact fun _ _ _ kept taken => step_kept kept taken
  · exact fun _ _ _ kept lossless taken => step_lossless_iff kept lossless taken
  · exact fun _ _ blocked => recordable_of_blocked blocked

def plainRepository : OrderRepository :=
  { symbols := fun symbol => symbol == "EURUSD"
    accounts := fun _ account => account == "account" }

theorem plainOrder_starts : (Life.start plainRepository (plainOrder 1 oneLot_pos)).isSome := rfl

def plainLife : Life := (Life.start plainRepository (plainOrder 1 oneLot_pos)).get plainOrder_starts

def lostAnswer : List LifeEvent :=
  [.call (.submit 0 (.ok (some (plainSymbol "EURUSD"))) (.error (.other "TimeoutError" []))),
    .restart .demo []]

/-- Up to the restart the record has all of the order. -/
theorem lossless_lostAnswer :
    Run.Along (Life.step plainRepository) Lossless plainLife lostAnswer := by
  refine (lossless_along_iff_meets plainRepository (plainOrder 1 oneLot_pos) plainLife
    (Option.some_get _).symm lostAnswer).mpr ⟨fun o held => ?_, fun s taken => ⟨?_, ?_⟩⟩
  · cases held
    exact .inl rfl
  · cases taken
    exact fun _ _ _ => ⟨.inr rfl, rfl, rfl, fun f mem => absurd mem List.not_mem_nil⟩
  · exact fun _ _ => True.intro

/-- The venue holds nothing for the order a restart loaded: what that makes of it is not logged. -/
theorem not_forall_lossless :
    ¬ ∀ (repo : OrderRepository) (o : ManagedOrder) (s : Life), Life.start repo o = some s →
      ∀ events, Run.Along (Life.step repo) Lossless s events := by
  intro lossless
  have along := lossless plainRepository (plainOrder 1 oneLot_pos) plainLife
    (Option.some_get _).symm (lostAnswer ++ [.call (.reconcile 1 (.ok []) (.ok []))])
  have counts : ((Run.exec (Life.step plainRepository) plainLife
      (lostAnswer ++ [.call (.reconcile 1 (.ok []) (.ok []))])).map fun s =>
        (s.stored.events.length, s.trail.length)) = some (2, 3) := by
    decide +kernel
  obtain ⟨s, run, lengths⟩ := Option.map_eq_some_iff.mp counts
  have logged := congrArg List.length (along.last run).events
  rw [length_eventRows] at logged
  rw [Prod.mk.injEq] at lengths
  omega

end TradeResearch.Execution
