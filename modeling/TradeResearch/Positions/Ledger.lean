import TradeResearch.Oms.Calls
import TradeResearch.Positions.Book

/-!
# The quantity ledger

What a position opened with is what it has open and what was taken off it, and its status says which
of the two is left. A pass of the manager keeps the books. The other three writers keep them on
conditions: a caller's close has to take something off; a recorded fill has to say what is open, or
more on a position nothing was taken off; and a sweep has to find at the venue what is open, and may
settle an uncertain position only if nothing was taken off it.

* `PositionRow.Ledger` is the ledger, and `ledger_iff_fits` says it status by status.
* `ledger_book_iff`, `ledger_refilled_iff` and `ledger_settled_iff` are the three writers.
* `ledger_along_iff_meets`: a run keeps the ledger exactly when each of its calls meets `Balanced`.
-/

namespace TradeResearch.Positions

open Oms Brokers

def PositionRow.StatusAgrees (row : PositionRow) : Prop :=
  row.status ≠ .closing → row.status ≠ .unknown →
    (row.status = .closed ↔ row.quantity = 0) ∧
      (row.status = .partiallyClosed ↔
        0 < row.quantity ∧ row.quantity < row.initialQuantity) ∧
      (row.status = .open ↔ row.quantity = row.initialQuantity)

structure PositionRow.Ledger (row : PositionRow) : Prop where
  conserved : row.initialQuantity = row.quantity + row.closedQuantity
  nonneg : 0 ≤ row.quantity
  taken : 0 ≤ row.closedQuantity
  agrees : row.StatusAgrees

def Ledgered (t : PositionsTable) : Prop := ∀ row ∈ t.rows, row.Ledger

def PositionStatus.Fits (quantity closedQuantity : ℚ) : PositionStatus → Prop
  | .open => closedQuantity = 0 ∧ quantity ≠ 0
  | .partiallyClosed => closedQuantity ≠ 0 ∧ quantity ≠ 0
  | .closed => closedQuantity ≠ 0 ∧ quantity = 0
  | .closing => True
  | .unknown => True
  | .opening => False
  | .reconciling => False

section Fits

variable {row : PositionRow}

theorem statusAgrees_iff_fits (conserved : row.initialQuantity = row.quantity + row.closedQuantity)
    (nonneg : 0 ≤ row.quantity) (taken : 0 ≤ row.closedQuantity) :
    row.StatusAgrees ↔ row.status.Fits row.quantity row.closedQuantity := by
  have all : row.quantity = row.initialQuantity ↔ row.closedQuantity = 0 := by
    rw [conserved]
    exact left_eq_add
  have some : row.quantity < row.initialQuantity ↔ row.closedQuantity ≠ 0 := by
    rw [conserved]
    exact lt_add_iff_pos_right _ |>.trans taken.lt_iff_ne'
  have positive : 0 < row.quantity ↔ row.quantity ≠ 0 := nonneg.lt_iff_ne'
  unfold PositionRow.StatusAgrees
  rw [all, some, positive]
  cases row.status with
  | closing | unknown => simp [PositionStatus.Fits]
  | opening | reconciling | «open» | partiallyClosed | closed => simp [PositionStatus.Fits]; tauto

theorem ledger_iff_fits :
    row.Ledger ↔ row.initialQuantity = row.quantity + row.closedQuantity ∧ 0 ≤ row.quantity ∧
      0 ≤ row.closedQuantity ∧ row.status.Fits row.quantity row.closedQuantity := by
  constructor
  · rintro ⟨conserved, nonneg, taken, agrees⟩
    exact ⟨conserved, nonneg, taken, (statusAgrees_iff_fits conserved nonneg taken).mp agrees⟩
  · rintro ⟨conserved, nonneg, taken, fits⟩
    exact ⟨conserved, nonneg, taken, (statusAgrees_iff_fits conserved nonneg taken).mpr fits⟩

theorem PositionRow.Ledger.fits (ledger : row.Ledger) :
    row.status.Fits row.quantity row.closedQuantity :=
  (ledger_iff_fits.mp ledger).2.2.2

theorem PositionRow.Ledger.quantity_pos (ledger : row.Ledger)
    (managed : row.status.skipped = none) : 0 < row.quantity := by
  have fits := ledger.fits
  refine lt_of_le_of_ne ledger.nonneg (Ne.symm ?_)
  revert fits managed
  cases row.status with
  | «open» | partiallyClosed => exact fun _ fits => fits.2
  | _ => exact fun managed => absurd managed (by decide)

theorem PositionRow.Ledger.flushed {row' : PositionRow} (ledger : row.Ledger)
    (written : row'.Ledger) : (row.flushed row').Ledger := by
  unfold PositionRow.flushed
  split
  · exact written
  · exact ledger

end Fits

section Manager

variable {row : PositionRow} {decision : ExitDecision} {outcome : CloseOutcome}

theorem closedNow_le (row : PositionRow) (decision : ExitDecision) :
    row.closedNow decision ≤ row.quantity := by
  unfold PositionRow.closedNow
  split
  · exact le_refl _
  · next fits => exact not_lt.mp fits

theorem ledger_book_iff (ledger : row.Ledger)
    (taken : 0 ≤ row.closedQuantity + row.closedNow decision) :
    (row.book decision outcome fill).Ledger ↔
      row.closedQuantity + row.closedNow decision ≠ 0 := by
  have conserved := ledger.conserved
  have within := closedNow_le row decision
  have total : (row.book decision outcome fill).initialQuantity =
      (row.quantity - row.closedNow decision) +
        (row.closedQuantity + row.closedNow decision) := by
    show (if row.initialQuantity = 0 then row.quantity + row.closedQuantity
      else row.initialQuantity) = _
    rw [← conserved, ite_self, conserved]
    ring
  rw [ledger_iff_fits]
  show _ = (row.quantity - row.closedNow decision) +
      (row.closedQuantity + row.closedNow decision) ∧ 0 ≤ row.quantity - row.closedNow decision ∧
    0 ≤ row.closedQuantity + row.closedNow decision ∧
    PositionStatus.Fits (row.quantity - row.closedNow decision)
      (row.closedQuantity + row.closedNow decision)
      (if row.quantity - row.closedNow decision ≤ 0 then .closed else .partiallyClosed) ↔ _
  have rest : 0 ≤ row.quantity - row.closedNow decision := sub_nonneg.mpr within
  split
  case isTrue none =>
    have zero : row.quantity - row.closedNow decision = 0 := le_antisymm none rest
    exact ⟨fun all => all.2.2.2.1, fun some => ⟨total, rest, taken, some, zero⟩⟩
  case isFalse left =>
    refine ⟨fun all => all.2.2.2.1, fun some => ⟨total, rest, taken, some, ?_⟩⟩
    exact (not_le.mp left).ne'

theorem ledger_flushed_book_iff {stored : PositionRow} (before : stored.Ledger)
    (ledger : row.Ledger) :
    (stored.flushed (row.book decision outcome fill)).Ledger ↔
      row.closedQuantity + row.closedNow decision ≠ 0 := by
  have within := closedNow_le row decision
  unfold PositionRow.flushed
  by_cases taken : 0 ≤ row.closedQuantity + row.closedNow decision
  · have checked : (row.book decision outcome fill).Checked := by
      refine ⟨taken, ?_⟩
      show row.closedQuantity + row.closedNow decision ≤
        if row.initialQuantity = 0 then row.quantity + row.closedQuantity else row.initialQuantity
      rw [← ledger.conserved, ite_self, ledger.conserved]
      linarith
    rw [if_pos checked, ledger_book_iff ledger taken]
  · rw [if_neg fun checked => taken checked.1]
    exact iff_of_true before (not_le.mp taken).ne

theorem ledger_parked (ledger : row.Ledger) :
    PositionRow.Ledger { row with status := .unknown } := by
  obtain ⟨conserved, nonneg, taken, _⟩ := ledger_iff_fits.mp ledger
  exact ledger_iff_fits.mpr ⟨conserved, nonneg, taken, True.intro⟩

theorem ledger_withStop (proposal : Option StopProposal) (ledger : row.Ledger) :
    (row.withStop proposal).Ledger := by
  rw [ledger_iff_fits] at ledger ⊢
  simpa only [PositionRow.withStop_initialQuantity, PositionRow.withStop_quantity,
    PositionRow.withStop_closedQuantity, PositionRow.withStop_status] using ledger

theorem ledger_process (ledger : row.Ledger) (pass : Pass) :
    (row.flushed (row.process pass).1).Ledger := by
  have outcome := row.process_cases pass
  generalize (row.process pass).1 = row' at outcome
  cases outcome with
  | skipped => exact ledger.flushed ledger
  | held managed => exact ledger.flushed (ledger_withStop _ ledger)
  | acted managed position same decision decided row' outcome =>
    cases outcome with
    | booked fill confirmed filled =>
      rw [ledger_flushed_book_iff ledger (ledger_withStop _ ledger)]
      have positive := ledger.quantity_pos managed
      have taken := ledger.taken
      unfold PositionRow.closedNow
      rw [PositionRow.withStop_quantity, PositionRow.withStop_closedQuantity]
      rcases PolicySet.decide_quantity decided with all | ⟨take, some, some_pos, fits⟩
      · rw [all, Option.getD_none, if_neg (lt_irrefl _)]
        linarith
      · rw [some, Option.getD_some, if_neg (not_lt.mpr (same ▸ fits))]
        linarith
    | parked unclear => exact ledger.flushed (ledger_parked (ledger_withStop _ ledger))
    | refused unclear => exact ledger.flushed (ledger_withStop _ ledger)

theorem ledger_closeNow_iff (ledger : row.Ledger) (symbolCode : Option String)
    (quantityExponent : ℤ) (decision : ExitDecision) (outcome : CloseOutcome) :
    (row.flushed (row.closeNow symbolCode quantityExponent decision outcome).1).Ledger ↔
      (outcome.status = .confirmed → outcome.fillPrice ≠ none →
        row.closedQuantity + row.closedNow decision ≠ 0) := by
  show (row.flushed (row.act (row.view none symbolCode quantityExponent) decision
    outcome).1).Ledger ↔ _
  have acted := row.act_cases (row.view none symbolCode quantityExponent) decision outcome
  generalize (row.act (row.view none symbolCode quantityExponent) decision outcome).1 = row'
    at acted
  have vacuous : (outcome.status ≠ .confirmed ∨ outcome.fillPrice = none) →
      outcome.status = .confirmed → outcome.fillPrice ≠ none →
        row.closedQuantity + row.closedNow decision ≠ 0 := by
    intro unclear confirmed filled
    exact unclear.elim (fun unconfirmed => absurd confirmed unconfirmed)
      fun unfilled => absurd unfilled filled
  cases acted with
  | booked fill confirmed filled =>
    rw [ledger_flushed_book_iff ledger ledger]
    exact ⟨fun some _ _ => some, fun some => some confirmed (by simp [filled])⟩
  | parked unclear => exact iff_of_true (ledger.flushed (ledger_parked ledger)) (vacuous unclear)
  | refused unclear => exact iff_of_true (ledger.flushed ledger) (vacuous unclear)

end Manager

theorem ledger_row {fill : ConfirmedFill} (positive : 0 < fill.quantity) (filledAt : Option Time)
    (r : Recording) : (fill.row filledAt r).Ledger :=
  ledger_iff_fits.mpr ⟨(add_zero _).symm, positive.le, le_refl _, rfl, positive.ne'⟩

theorem ledger_refilled_iff {row : PositionRow} {fill : ConfirmedFill} (ledger : row.Ledger)
    (positive : 0 < fill.quantity) :
    (row.refilled fill).Ledger ↔
      fill.quantity = row.quantity ∨
        (row.closedQuantity = 0 ∧ row.quantity ≤ fill.quantity) := by
  obtain ⟨conserved, nonneg, taken, fits⟩ := ledger_iff_fits.mp ledger
  have initial : (row.refilled fill).initialQuantity =
      if row.initialQuantity < fill.quantity then fill.quantity else row.initialQuantity := rfl
  constructor
  · intro kept
    have conserved' : (row.refilled fill).initialQuantity =
      fill.quantity + row.closedQuantity := kept.conserved
    rw [initial] at conserved'
    split at conserved'
    case isTrue more =>
      have untouched : row.closedQuantity = 0 := by linarith
      exact .inr ⟨untouched, by rw [conserved, untouched, add_zero] at more; exact more.le⟩
    case isFalse =>
      exact .inl (by linarith)
  · intro sound
    rw [ledger_iff_fits]
    show (row.refilled fill).initialQuantity = fill.quantity + row.closedQuantity ∧
      0 ≤ fill.quantity ∧ 0 ≤ row.closedQuantity ∧
        row.status.Fits fill.quantity row.closedQuantity
    rw [initial]
    rcases sound with same | ⟨untouched, more⟩
    · rw [same, if_neg (not_lt.mpr (by linarith))]
      exact ⟨conserved, nonneg, taken, fits⟩
    · rw [untouched, add_zero] at conserved ⊢
      refine ⟨?_, positive.le, le_refl _, ?_⟩
      · split
        · rfl
        · next within => linarith
      · rw [untouched] at fits
        revert fits
        cases row.status with
        | «open» => exact fun _ => ⟨rfl, positive.ne'⟩
        | partiallyClosed | closed => exact fun fits => absurd rfl fits.1
        | _ => exact id

def Held (positions : List BrokerPosition) (id : String) : Prop :=
  id ≠ "" ∧ byBrokerId positions id ≠ none

instance (positions : List BrokerPosition) (id : String) : Decidable (Held positions id) :=
  inferInstanceAs (Decidable (_ ∧ _))

section Sweep

variable {row : PositionRow} (positions : List BrokerPosition) (time : Time)

theorem settled_unnamed (unnamed : row.brokerPositionId = none) :
    row.settled positions time = row := by
  have restored : { marked row.toPosition with status := row.status } = row.toPosition := by
    unfold marked
    split <;> rfl
  unfold PositionRow.settled
  rw [settle_restored _ positions time (by rw [marked_brokerPositionId]; exact unnamed), restored]

theorem settled_absent {id : String} (named : row.brokerPositionId = some id)
    (absent : ¬ Held positions id) :
    (row.settled positions time).status = .closed ∧ (row.settled positions time).quantity = 0 := by
  have named' : (marked row.toPosition).brokerPositionId = some id := by
    rw [marked_brokerPositionId]
    exact named
  by_cases empty : id = ""
  · subst empty
    exact settle_empty (marked row.toPosition) positions time named' row.status
  · refine settle_absent (marked row.toPosition) positions time named' ?_ row.status
    by_contra held
    exact absent ⟨empty, held⟩

theorem settled_held {id : String} (named : row.brokerPositionId = some id)
    (held : Held positions id) :
    (row.settled positions time).status =
        (if row.status = .partiallyClosed then .partiallyClosed else .open) ∧
      (row.settled positions time).quantity = row.quantity := by
  obtain ⟨found, same⟩ := Option.ne_none_iff_exists'.mp held.2
  have named' : (marked row.toPosition).brokerPositionId = some id := by
    rw [marked_brokerPositionId]
    exact named
  obtain ⟨status, quantity, _⟩ :=
    settle_held (marked row.toPosition) positions time named' held.1 same row.status
  exact ⟨status, quantity.trans (marked_quantity _)⟩

def Settles (positions : List BrokerPosition) (row : PositionRow) : Prop :=
  ∀ id, row.brokerPositionId = some id →
    if Held positions id then
      row.status = .open ∨ row.status = .partiallyClosed ∨
        (row.closedQuantity = 0 ∧ row.quantity ≠ 0)
    else row.closedQuantity ≠ 0 ∧ row.quantity = 0

theorem ledger_settled_iff (ledger : row.Ledger) :
    (row.settled positions time).Ledger ↔ Settles positions row := by
  obtain ⟨conserved, nonneg, taken, fits⟩ := ledger_iff_fits.mp ledger
  have initial : (row.settled positions time).initialQuantity = row.initialQuantity := rfl
  have closedQuantity : (row.settled positions time).closedQuantity = row.closedQuantity := rfl
  unfold Settles
  cases named : row.brokerPositionId with
  | none =>
    rw [settled_unnamed positions time named]
    exact iff_of_true ledger fun id same => by cases same
  | some id =>
    rw [ledger_iff_fits, initial, closedQuantity]
    by_cases held : Held positions id
    · obtain ⟨status, quantity⟩ := settled_held positions time named held
      rw [status, quantity]
      constructor
      · intro kept id' same
        cases same
        rw [if_pos held]
        have fits' := kept.2.2.2
        split at fits'
        case isTrue partly => exact .inr (.inl partly)
        case isFalse => exact .inr (.inr fits')
      · intro sound
        have sound := sound id rfl
        rw [if_pos held] at sound
        refine ⟨conserved, nonneg, taken, ?_⟩
        rcases sound with whole | partly | untouched
        · rw [whole] at fits ⊢
          exact fits
        · rw [partly] at fits ⊢
          exact fits
        · split
          case isTrue partly =>
            rw [partly] at fits
            exact fits
          case isFalse => exact untouched
    · obtain ⟨status, quantity⟩ := settled_absent positions time named held
      rw [status, quantity]
      constructor
      · intro kept id' same
        cases same
        rw [if_neg held]
        refine ⟨kept.2.2.2.1, ?_⟩
        linarith [kept.1]
      · intro sound
        have sound := sound id rfl
        rw [if_neg held] at sound
        refine ⟨?_, le_refl _, taken, sound.1, rfl⟩
        rw [conserved, sound.2]

end Sweep

def Balanced (t : PositionsTable) : BookEvent → Prop
  | .process _ _ => True
  | .closeNow positionId _ _ decision outcome =>
    ∀ row ∈ t.rows, row.id = positionId → outcome.status = .confirmed →
      outcome.fillPrice ≠ none → row.closedQuantity + row.closedNow decision ≠ 0
  | .recordFill order _ =>
    ∀ fill, confirmedFill order = some fill →
      ∀ row, t.existing fill.venueId fill.mode = some row →
        fill.quantity = row.quantity ∨
          (row.closedQuantity = 0 ∧ row.quantity ≤ fill.quantity)
  | .sweep mode accountId read _ =>
    ∀ positions, read = .ok positions → ∀ row ∈ t.rows,
      localTo mode accountId row.toPosition = true → Settles positions row

theorem ledgered_step_iff {t t' : PositionsTable} {e : BookEvent} (ledgered : Ledgered t)
    (taken : t.step e = some t') : Ledgered t' ↔ Balanced t e := by
  unfold Ledgered
  rw [PositionsTable.step_iff ledgered taken]
  cases e with
  | process positionId pass =>
    exact iff_of_true (fun row mem _ => ledger_process (ledgered row mem) pass) True.intro
  | closeNow positionId symbolCode quantityExponent decision outcome =>
    refine forall₂_congr fun row mem => imp_congr_right fun _ => ?_
    exact ledger_closeNow_iff (ledgered row mem) symbolCode quantityExponent decision outcome
  | recordFill order recording =>
    refine forall₂_congr fun fill confirmed => ?_
    have positive := (confirmedFill_eq_some confirmed).1
    have fresh : t.existing fill.venueId fill.mode = none →
        recording.positionId ∉ (t.rows.map fun row => row.id) →
        (fill.row order.filledAt recording).Ledger :=
      fun _ _ => ledger_row positive order.filledAt recording
    rw [and_iff_left fresh]
    refine forall₂_congr fun row found => ?_
    obtain ⟨mem, _, _⟩ := PositionsTable.mem_of_existing found
    exact ledger_refilled_iff (ledgered row mem) positive
  | sweep mode accountId read time =>
    refine forall₂_congr fun positions _ => forall₂_congr fun row mem => ?_
    exact imp_congr_right fun _ => ledger_settled_iff positions time (ledgered row mem)

/-- A run keeps every ledger all along exactly when each of its calls is balanced: a close its
caller decided takes something off, a recorded fill says what is open or more on a position nothing
was taken off, and a sweep finds at the venue what is open, with nothing taken off a position it
was uncertain about. The passes of the manager need nothing. -/
theorem ledger_along_iff_meets {t : PositionsTable} (initial : Ledgered t)
    (es : List BookEvent) :
    Run.Along PositionsTable.step Ledgered t es ↔ Run.Meets PositionsTable.step Balanced t es :=
  Run.along_iff_meets (fun _ _ _ ledgered taken => ledgered_step_iff ledgered taken)
    (fun _ e untaken => by cases e <;> cases untaken) initial

def hundredLots : PositionsTable := .single (plainRow "1001" 100 none)

theorem hundredLots_ledgered : Ledgered hundredLots := by
  rintro row mem
  rw [List.mem_singleton.mp mem]
  exact ledger_iff_fits.mpr
    ⟨by decide +kernel, by decide +kernel, le_refl _, rfl, by decide +kernel⟩

def callerDecision (quantity : Option ℚ) : ExitDecision :=
  { reason := .partialTakeProfit, detail := [], referencePrice := 1, decidedAt := 0, quantity }

def filledOutcome : CloseOutcome := { status := .confirmed, detail := [], fillPrice := some 1 }

def lostOutcome : CloseOutcome := { status := .unknown, detail := [] }

def closeLots (quantity : Option ℚ) (outcome : CloseOutcome) : BookEvent :=
  .closeNow "position" (some "EURUSD") 0 (callerDecision quantity) outcome

/-- Thirty lots closed, and then the rest. -/
theorem ledger_along_closed :
    Run.Along PositionsTable.step Ledgered hundredLots
      [closeLots (some 30) filledOutcome, closeLots none filledOutcome] := by
  refine (ledger_along_iff_meets hundredLots_ledgered _).mpr ⟨?_, fun t taken => ⟨?_, ?_⟩⟩
  · intro row mem _ _ _
    rw [List.mem_singleton.mp mem]
    decide +kernel
  · cases taken
    intro row mem _ _ _
    rw [List.mem_singleton.mp mem]
    decide +kernel
  · exact fun _ _ => True.intro

def detour : List BookEvent :=
  [closeLots (some 30) filledOutcome, closeLots (some 10) lostOutcome,
    .sweep .demo "account" (.ok [plainPosition "1001" "EURUSD" "long" 70 1]) 1]

/-- It leaves seventy of a hundred lots `open`, as if nothing had been taken off. -/
theorem not_forall_ledgered :
    ¬ ∀ (t : PositionsTable) (es : List BookEvent), Ledgered t →
      Run.Along PositionsTable.step Ledgered t es := by
  intro kept
  have along := kept hundredLots detour hundredLots_ledgered
  have left : (Run.exec PositionsTable.step hundredLots detour).map
      (fun t => t.rows.map fun row => (row.status, row.quantity, row.initialQuantity)) =
        some [(.open, 70, 100)] := by
    decide +kernel
  obtain ⟨t, run, rows⟩ := Option.map_eq_some_iff.mp left
  obtain ⟨row, mem, figures⟩ :=
    List.mem_map.mp (rows ▸ List.mem_singleton_self _ :
      (PositionStatus.open, (70 : ℚ), (100 : ℚ)) ∈
        t.rows.map fun row => (row.status, row.quantity, row.initialQuantity))
  simp only [Prod.mk.injEq] at figures
  obtain ⟨status, quantity, initial⟩ := figures
  obtain ⟨_, _, whole⟩ := (along.last run row mem).agrees (by rw [status]; decide)
    (by rw [status]; decide)
  have same := whole.mp status
  rw [quantity, initial] at same
  exact absurd same (by decide +kernel)

end TradeResearch.Positions
