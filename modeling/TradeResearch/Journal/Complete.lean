import TradeResearch.Journal.Final

/-!
# A journal that is complete

A sweep reads the oldest pending positions up to its limit, those it cannot record among them. As
long as its batch holds one it can record, it records one, and a closed position is reached at last.

* `Desk.Sound.nearer`: each sweep that reaches a closed position records it or another one.
* `final_and_complete` is the journal over whole runs.
* `plainDesk` shows both faults: the row written too early, and the batch that stays full.
-/

namespace TradeResearch.Journal

open Oms Positions

def reaches (mode : Mode) : DeskEvent → Bool
  | .book _ => false
  | .recordPending _ _ asked _ => asked.all fun mode' => decide (mode = mode')

def Desk.recorded (s : Desk) : ℕ := (s.trades.rows.filterMap TradeRow.positionId).length

def Desk.Finished (s : Desk) (id : String) (mode : Mode) : Prop :=
  s.confirmedOf id ≠ [] ∧
    ∃ row ∈ s.positions.rows, row.id = id ∧ row.status = .closed ∧ row.mode = mode

section Progress

variable {s u : Desk} {e : DeskEvent} {id : String}

theorem called_closed {positions : PositionsTable} {call : BookEvent} {row : PositionRow}
    {out : PositionRow × List PassRecord × ManagedResult}
    (here : called positions call = some (row, out)) (closed : row.status = .closed)
    (attended : Attended positions call) : out.1 = row := by
  cases call with
  | process positionId pass =>
    obtain ⟨row', found, same⟩ := Option.map_eq_some_iff.mp here
    cases same
    unfold PositionRow.process
    rw [closed]
    rfl
  | closeNow positionId symbolCode quantityExponent decision outcome =>
    obtain ⟨row', found, same⟩ := Option.map_eq_some_iff.mp here
    cases same
    have managed := attended row (List.mem_of_find?_eq_some found)
      (by simpa using List.find?_some found)
    rw [closed] at managed
    cases managed
  | recordFill order recording | sweep mode accountId read time => cases here

theorem Desk.Finished.step (finished : s.Finished id mode) (conduct : s.Conduct e)
    (taken : s.step e = some u) : u.Finished id mode := by
  obtain ⟨confirmed, row, mem, rfl, closed, rfl⟩ := finished
  cases e with
  | book call =>
    obtain ⟨positions, stepped, rfl⟩ := Option.map_eq_some_iff.mp taken
    refine ⟨fun none' => confirmed ?_, ?_⟩
    · have split : Desk.confirmedOf ⟨positions, s.events ++ written s.positions call, s.trades,
          s.confirmed ++ confirmedIn s.positions call⟩ row.id = s.confirmedOf row.id ++
            (confirmedIn s.positions call).filter fun close => close.positionId = row.id :=
        List.filter_append ..
      rw [split] at none'
      exact (List.append_eq_nil_iff.mp none').1
    · obtain ⟨row', mem', same⟩ := List.mem_map.mp (ids_of_step stepped (List.mem_map_of_mem mem))
      refine ⟨row', mem', same, ?_⟩
      cases origin_of_step stepped mem' with
      | kept row₀ mem₀ id money closed' uncalled =>
        have this : row₀ = row := Table.eq_of_key mem₀ mem (id.symm.trans same)
        exact this ▸ closed' (this ▸ closed)
      | called row₀ out here id flushed =>
        have this : row₀ = row :=
          Table.eq_of_key (called_case here).1 mem (id.symm.trans same)
        rw [this] at here flushed
        have left : row.flushed row = row := ite_self _
        rw [flushed, called_closed here closed conduct.2, left]
        exact ⟨closed, rfl⟩
      | fresh free money => exact absurd (same ▸ List.mem_map_of_mem mem) free
  | recordPending refs q asked limit =>
    obtain ⟨trades, rfl, _⟩ := Desk.step_of_unshared conduct.2 taken
    exact ⟨confirmed, row, mem, rfl, closed, rfl⟩

theorem Desk.recorded_recordPending {refs : References} {q : Query} {asked : Option Mode}
    {limit : ℕ} (unshared : Unshared s q asked limit)
    (taken : s.step (.recordPending refs q asked limit) = some u) :
    u.recorded = s.recorded + ((batch s.positions s.trades q asked limit).filter fun row =>
      decide (Measured s.events row)).length := by
  obtain ⟨trades, rfl, rows⟩ := Desk.step_of_unshared unshared taken
  unfold Desk.recorded
  rw [rows, List.filterMap_append, List.filterMap_map, List.length_append,
    show TradeRow.positionId ∘ tradeFor s.events refs q =
      some ∘ fun row : PositionRow => row.id from rfl, List.filterMap_eq_map, List.length_map]

theorem Desk.step_of_unmeasured {refs : References} {q : Query} {asked : Option Mode} {limit : ℕ}
    (none' : ∀ row ∈ batch s.positions s.trades q asked limit, ¬ Measured s.events row)
    (taken : s.step (.recordPending refs q asked limit) = some u) : u = s := by
  have empty : ((batch s.positions s.trades q asked limit).filter fun row =>
      decide (Measured s.events row)) = [] :=
    List.filter_eq_nil_iff.mpr fun row mem => by simpa using none' row mem
  have unshared : Unshared s q asked limit := by
    unfold Unshared
    rw [empty, List.filterMap_nil, List.append_nil]
    exact s.trades.brokerPositions
  obtain ⟨trades, rfl, rows⟩ := Desk.step_of_unshared unshared taken
  rw [empty, List.map_nil, List.append_nil] at rows
  rw [TradesTable.eq_of_rows rows]

theorem Desk.Sound.nearer (sound : s.Sound) (finished : s.Finished id mode)
    (conduct : s.Conduct e) (taken : s.step e = some u)
    (absent : ¬ s.trades.ofPosition id ≠ none) :
    s.recorded + (if reaches mode e then 1 else 0) ≤ u.recorded := by
  cases e with
  | book call =>
    obtain ⟨positions, stepped, rfl⟩ := Option.map_eq_some_iff.mp taken
    exact le_refl _
  | recordPending refs q asked limit =>
    rw [Desk.recorded_recordPending conduct.2 taken]
    by_cases reached : reaches mode (.recordPending refs q asked limit) = true
    · rw [if_pos reached]
      obtain ⟨confirmed, row, mem, rfl, closed, rfl⟩ := finished
      have measured : Measured s.events row :=
        (sound.measured_iff mem).mpr ⟨by rw [closed]; decide, confirmed⟩
      have waiting : row ∈ pending s.positions s.trades asked := by
        refine mem_pending.mpr ⟨mem, measured.1, not_not.mp absent, fun mode' asked' => ?_⟩
        rw [Option.mem_def.mp asked'] at reached
        exact of_decide_eq_true reached
      obtain ⟨row', mem', measured'⟩ := conduct.1 ⟨row, waiting, measured⟩
      have some' : 0 < ((batch s.positions s.trades q asked limit).filter fun row =>
          decide (Measured s.events row)).length :=
        List.length_pos_of_mem (List.mem_filter.mpr ⟨mem', decide_eq_true measured'⟩)
      omega
    · rw [if_neg reached]
      omega

theorem Desk.recorded_step (conduct : s.Conduct e) (taken : s.step e = some u)
    (present : s.trades.ofPosition id ≠ none) : u.trades.ofPosition id ≠ none := by
  cases e with
  | book call =>
    obtain ⟨positions, stepped, rfl⟩ := Option.map_eq_some_iff.mp taken
    exact present
  | recordPending refs q asked limit =>
    obtain ⟨trades, rfl, rows⟩ := Desk.step_of_unshared conduct.2 taken
    rw [← TradesTable.mem_positions] at present ⊢
    rw [rows, List.filterMap_append]
    exact List.mem_append_left _ present

theorem Desk.Sound.recorded_of_length_le (sound : s.Sound)
    (all : s.positions.rows.length ≤ s.recorded)
    (mem : id ∈ s.positions.rows.map fun row => row.id) : s.trades.ofPosition id ≠ none := by
  have subset : s.trades.rows.filterMap TradeRow.positionId ⊆
      s.positions.rows.map fun row => row.id := by
    intro id linked
    obtain ⟨trade, mem, of⟩ := List.mem_filterMap.mp linked
    exact sound.linked trade mem id of
  have perm := (List.subperm_of_subset s.trades.positions subset).perm_of_length_le
    (by rw [List.length_map]; exact all)
  exact TradesTable.mem_positions.mp (perm.mem_iff.mpr mem)

theorem Desk.Sound.recorded_of_swept {es : List DeskEvent} (sound : s.Sound)
    (finished : s.Finished id mode) (conduct : Run.Meets Desk.step Desk.Conduct s es)
    (run : Run.exec Desk.step s es = some u)
    (enough : u.positions.rows.length ≤ es.countP (reaches mode)) :
    u.trades.ofPosition id ≠ none := by
  have kept : ∀ (s : Desk) e u, s.Sound ∧ s.Finished id mode → s.Conduct e → s.step e = some u →
      u.Sound ∧ u.Finished id mode := fun s e u both met taken =>
    ⟨both.1.step met taken, both.2.step met taken⟩
  have end' := Run.invariant kept ⟨sound, finished⟩ conduct run
  have outcome := Run.reached_or_counted (Q := fun s : Desk => s.trades.ofPosition id ≠ none)
    (m := Desk.recorded) (reaches mode) kept
    (fun s e u _ met taken => Desk.recorded_step met taken)
    (fun s e u both met taken absent => both.1.nearer both.2 met taken absent)
    ⟨sound, finished⟩ conduct run
  rcases outcome with reached | counted
  · exact reached
  · obtain ⟨row, mem, rfl, _⟩ := end'.2.2
    exact end'.1.recorded_of_length_le (by omega) (List.mem_map_of_mem mem)

end Progress

/-- On a run of proper calls every trade reflects, at all times, all the closes confirmed for its
position, and a position that is closed after `early` has one trade once as many sweeps reached it
as there are positions. -/
theorem final_and_complete {s t u : Desk} {early late : List DeskEvent} (started : s.Started)
    (conduct : Run.Meets Desk.step Desk.Conduct s (early ++ late))
    (run : Run.exec Desk.step s early = some t) (rest : Run.exec Desk.step t late = some u) :
    Run.Along Desk.step Desk.Final s (early ++ late) ∧
      ∀ row ∈ t.positions.rows, row.status = .closed → t.confirmedOf row.id ≠ [] →
        u.positions.rows.length ≤ late.countP (reaches row.mode) →
        ∃! trade, trade ∈ u.trades.rows ∧ trade.positionId = some row.id := by
  have kept : ∀ (s : Desk) e u, s.Sound → s.Conduct e → s.step e = some u → u.Sound :=
    fun s e u sound met taken => sound.step met taken
  refine ⟨?_, fun row mem closed confirmed enough => ?_⟩
  · exact (Run.along_of_meets kept started.sound conduct).mono fun s sound => sound.final
  · have sound : t.Sound := Run.invariant kept started.sound conduct.start run
    have present := sound.recorded_of_swept ⟨confirmed, row, mem, rfl, closed, rfl⟩
      (conduct.rest run) rest enough
    obtain ⟨trade, found⟩ := Option.ne_none_iff_exists'.mp present
    obtain ⟨held, of⟩ := TradesTable.ofPosition_eq_some found
    exact ⟨trade, ⟨held, of⟩, fun trade' both =>
      TradesTable.eq_of_position both.1 both.2 held of⟩

instance (s : Desk) (row : PositionRow) (decision : ExitDecision) (outcome : CloseOutcome) :
    Decidable (Proper s row decision outcome) :=
  decidable_of_iff
    ((0 < decision.quantity.getD row.quantity ∧
        decision.quantity.getD row.quantity ≤ row.quantity) ∧
      (outcome.realizedPnl.isSome ∨ row.mode = .paper) ∧
      (0 ≤ row.closedQuantity + decision.quantity.getD row.quantity ∧
        row.closedQuantity + decision.quantity.getD row.quantity ≤
          if row.initialQuantity = 0 then row.quantity + row.closedQuantity
          else row.initialQuantity) ∧ (s.trades.ofPosition row.id).isNone)
    ⟨fun ⟨⟨positive, within⟩, paid, ⟨nonneg, allowed⟩, unrecorded⟩ =>
      ⟨positive, within, paid.imp_left Option.isSome_iff_ne_none.mp, nonneg, allowed,
        Option.isNone_iff_eq_none.mp unrecorded⟩,
      fun proper => ⟨⟨proper.positive, proper.within⟩,
        proper.paid.imp_left Option.isSome_iff_ne_none.mpr, ⟨proper.nonneg, proper.allowed⟩,
        Option.isNone_iff_eq_none.mpr proper.unrecorded⟩⟩

instance (positions : PositionsTable) (call : BookEvent) : Decidable (Attended positions call) :=
  match call with
  | .closeNow positionId _ _ _ _ =>
    inferInstanceAs
      (Decidable (∀ row ∈ positions.rows, row.id = positionId → row.status.skipped = none))
  | .process _ _ => inferInstanceAs (Decidable True)
  | .recordFill _ _ => inferInstanceAs (Decidable True)
  | .sweep _ _ _ _ => inferInstanceAs (Decidable True)

instance (s : Desk) (e : DeskEvent) : Decidable (s.Conduct e) :=
  match e with
  | .book call =>
    decidable_of_iff
      ((∀ both ∈ called s.positions call, ∀ close ∈ confirmation both.2.2.2,
        Proper s both.1 close.1 close.2.1) ∧ Attended s.positions call)
      ⟨fun ⟨proper, attended⟩ => ⟨fun row out here decision outcome fill close =>
          proper (row, out) here (decision, outcome, fill) close, attended⟩,
        fun ⟨proper, attended⟩ => ⟨fun both here close of =>
          proper both.1 both.2 here close.1 close.2.1 close.2.2 of, attended⟩⟩
  | .recordPending _ q mode limit =>
    inferInstanceAs (Decidable (((∃ row ∈ pending s.positions s.trades mode,
      Measured s.events row) → ∃ row ∈ batch s.positions s.trades q mode limit,
        Measured s.events row) ∧ List.Nodup _))

def plainDesk : Desk :=
  { positions :=
      ⟨[plainRow "700" 1 none,
        { plainRow "699" 0 none with id := "gone", status := .closed, closedAt := some 1 }],
        by decide⟩
    events := []
    trades := .empty
    confirmed := [] }

def closeAt (time : Time) (quantity : Option ℚ) (outcome : CloseOutcome) : DeskEvent :=
  .book (.closeNow "position" none 0
    { reason := .strategyExit, detail := [], referencePrice := 1, decidedAt := time, quantity }
    outcome)

def filledAt (price money : ℚ) : CloseOutcome :=
  { status := .confirmed, detail := [], fillPrice := some price, realizedPnl := some money }

def sweepOf (limit : ℕ) : DeskEvent := .recordPending ⟨[], [], [], []⟩ ⟨true, fun _ => 0⟩ none limit

def inTwoParts : List DeskEvent :=
  [closeAt 10 (some (2 / 5)) (filledAt 2 4), closeAt 20 none (filledAt 3 12)]

/-- A position closed in two parts has its trade after two sweeps, whatever else is pending. -/
theorem final_and_complete_in_two_parts : ∃ t u, Run.exec Desk.step plainDesk inTwoParts = some t ∧
    Run.exec Desk.step t [sweepOf 2, sweepOf 2] = some u ∧
    Run.Along Desk.step Desk.Final plainDesk (inTwoParts ++ [sweepOf 2, sweepOf 2]) ∧
    ∃! trade, trade ∈ u.trades.rows ∧ trade.positionId = some "position" := by
  have started : plainDesk.Started :=
    ⟨rfl, rfl, by decide, fun trade mem => by cases mem⟩
  have conduct : Run.Meets Desk.step Desk.Conduct plainDesk
      (inTwoParts ++ [sweepOf 2, sweepOf 2]) := by decide +kernel
  have both : ∃ t ∈ Run.exec Desk.step plainDesk inTwoParts,
      (∃ row ∈ t.positions.rows, row.id = "position" ∧ row.status = .closed ∧ row.mode = .demo ∧
        t.confirmedOf row.id ≠ []) ∧
      ∃ u ∈ Run.exec Desk.step t [sweepOf 2, sweepOf 2], u.positions.rows.length ≤ 2 := by
    decide +kernel
  obtain ⟨t, run, ⟨row, mem, named, closed, demo, confirmed⟩, u, rest, few⟩ := both
  obtain ⟨final, complete⟩ := final_and_complete started conduct run rest
  have reached : [sweepOf 2, sweepOf 2].countP (reaches row.mode) = 2 := by
    rfl
  exact ⟨t, u, run, rest, final, named ▸ complete row mem closed confirmed (reached ▸ few)⟩

def afterDetour : List DeskEvent :=
  [closeAt 10 (some (2 / 5)) (filledAt 2 4), closeAt 20 none (.unclear []), sweepOf 200,
    .book (.sweep .demo "account"
      (.ok [⟨"700", "SYMBOL", "long", .finite (3 / 5), .finite 1, 0, none, none, none⟩]) 30),
    closeAt 40 none (filledAt 3 12)]

/-- A trade written while its position was `unknown` misses the close that ended it; and a position
no sweep can record keeps a batch of one for ever. -/
theorem not_final_nor_complete :
    (¬ ∀ (s u : Desk) (events : List DeskEvent), s.Started →
      Run.exec Desk.step s events = some u → u.Final) ∧
    ¬ ∀ (s t : Desk) (events : List DeskEvent) (row : PositionRow) (limit : ℕ), s.Started →
      Run.exec Desk.step s events = some t → row ∈ t.positions.rows → row.status = .closed →
      t.confirmedOf row.id ≠ [] → 0 < limit →
      ∃ n u, Run.exec Desk.step t (List.replicate n (sweepOf limit)) = some u ∧
        u.trades.ofPosition row.id ≠ none := by
  have started : plainDesk.Started :=
    ⟨rfl, rfl, by decide, fun trade mem => by cases mem⟩
  constructor
  · intro final
    have missed : ∃ u ∈ Run.exec Desk.step plainDesk afterDetour, ∃ trade ∈ u.trades.rows,
        trade.positionId = some "position" ∧
          trade.volume ≠ ((u.confirmedOf "position").map Confirmed.quantity).sum := by
      decide +kernel
    obtain ⟨u, run, trade, mem, of, missed⟩ := missed
    exact missed (final plainDesk u afterDetour started run trade mem _ of).volume
  · intro complete
    have starved : ∃ t ∈ Run.exec Desk.step plainDesk inTwoParts,
        (∃ row ∈ t.positions.rows, row.id = "position" ∧ row.status = .closed ∧
          t.confirmedOf row.id ≠ []) ∧ t.trades.ofPosition "position" = none ∧
        ∀ row ∈ batch t.positions t.trades ⟨true, fun _ => 0⟩ none 1, ¬ Measured t.events row := by
      decide +kernel
    obtain ⟨t, run, ⟨row, mem, named, closed, confirmed⟩, absent, none'⟩ := starved
    obtain ⟨n, u, rest, present⟩ :=
      complete plainDesk t inTwoParts row 1 started run mem closed confirmed (by decide)
    have same : u = t := by
      have sweeps : Run.Meets Desk.step (fun _ e => e = sweepOf 1) t
          (List.replicate n (sweepOf 1)) :=
        Run.Meets.of_mem fun e mem s => (List.mem_replicate.mp mem).2
      refine Run.invariant (P := fun s => s = t) (fun s e u here sweep taken => ?_) rfl sweeps rest
      rw [here, sweep] at taken
      exact Desk.step_of_unmeasured none' taken
    rw [same, named] at present
    exact present absent

end TradeResearch.Journal
