import Mathlib.Algebra.Order.Ring.Abs
import Mathlib.Tactic.NormNum
import TradeResearch.Lib.Table
import TradeResearch.Lib.Text

/-!
# Comparing the books

`backend/app/brokers/reconcile.py`: what the platform believes it holds against what the venue
holds. Both sides are first put into dictionaries by position id, so of several positions of one id
only the last is compared, and what is compared is whether the id is there, the volume, the entry
price and the bracket. What the warning that is logged says is left out.

* `Caught` is when a finding names an id, and `exists_finding_iff` says so of the report.
* `Irregular` is when the books do not agree about an id: it is held twice, or under another symbol
  or side.
* `faithful_iff`: the report shows every irregular id, and is clean for books that agree only,
  exactly when each irregular id is caught by one of the things that are compared.
-/

namespace TradeResearch.Brokers.Reconcile

inductive Finding where
  | unexpectedAtBroker
  | missingAtBroker
  | volumeMismatch
  | priceMismatch
  | bracketMismatch
  | unresolvedUnknown
  | unexpectedOrderAtBroker
  deriving DecidableEq

structure Mismatch where
  finding : Finding
  positionId : Option String
  symbol : Option String
  detail : Text
  ours : Option Text := none
  theirs : Option Text := none

structure InternalPosition where
  positionId : String
  symbol : String
  side : String
  volume : ℚ
  entryPrice : Option ℚ
  stopLoss : Option ℚ
  takeProfit : Option ℚ
  status : String

structure VenuePosition where
  positionId : String
  symbol : String
  side : String
  volume : ℚ
  entryPrice : ℚ
  stopLoss : Option ℚ
  takeProfit : Option ℚ

structure VenueOrder where
  orderId : String
  symbol : String
  side : String
  volume : ℚ
  price : Option ℚ

structure Reconciliation where
  checkedAt : Time
  brokerPositions : ℕ
  internalPositions : ℕ
  mismatches : List Mismatch
  unresolvedUnknowns : List String

namespace Reconciliation

def clean (r : Reconciliation) : Prop := r.mismatches = [] ∧ r.unresolvedUnknowns = []

end Reconciliation

def priceTolerance : ℚ := 1 / 100000

def differs (a b : Option ℚ) (tolerance : ℚ) : Bool :=
  match a, b with
  | some a, some b => tolerance < |a - b|
  | none, none => false
  | _, _ => true

def unexpected (theirs : VenuePosition) : Mismatch :=
  { finding := .unexpectedAtBroker
    positionId := some theirs.positionId
    symbol := some theirs.symbol
    detail := Text.lit
      ("the venue holds a position the platform has no open record of; " ++
        "it may have been opened by hand or by a run whose log was lost. " ++
        "Investigate before acting: closing it would close somebody's trade")
    theirs := some (Text.lit s!"{theirs.side} " ++ Text.num theirs.volume ++ Text.lit " @ " ++
      Text.num theirs.entryPrice) }

def missing (ours : InternalPosition) : Mismatch :=
  { finding := .missingAtBroker
    positionId := some ours.positionId
    symbol := some ours.symbol
    detail := Text.lit
      ("the platform believes this is open and the venue does not hold " ++
        "it; it closed while we were not watching, or never opened. " ++
        "Resolve by reading the deal history, never by re-sending")
    ours := some (Text.lit s!"{ours.side} " ++ Text.num ours.volume) }

def levels (stopLoss takeProfit : Option ℚ) : Text :=
  Text.lit "sl=" ++ Text.num? stopLoss ++ Text.lit " tp=" ++ Text.num? takeProfit

def found (condition : Prop) [Decidable condition] (m : Mismatch) : List Mismatch :=
  if condition then [m] else []

section Compare

variable (tolerance : ℚ) (ours : InternalPosition) (theirs : VenuePosition)

def priceDiffers : Bool := differs ours.entryPrice (some theirs.entryPrice) tolerance

def bracketDiffers : Bool :=
  differs ours.stopLoss theirs.stopLoss tolerance ||
    differs ours.takeProfit theirs.takeProfit tolerance

def disagreement (finding : Finding) (detail : String) (oursText theirsText : Text) : Mismatch :=
  { finding
    positionId := some theirs.positionId
    symbol := some theirs.symbol
    detail := Text.lit detail
    ours := some oursText
    theirs := some theirsText }

def compared : List Mismatch :=
  found (ours.volume ≠ theirs.volume)
      (disagreement theirs .volumeMismatch
        "size disagrees; the venue is authoritative for what is held"
        (Text.num ours.volume) (Text.num theirs.volume)) ++
    found (priceDiffers tolerance ours theirs)
      (disagreement theirs .priceMismatch "entry price disagrees; read the fill, never the quote"
        (Text.num? ours.entryPrice) (Text.num theirs.entryPrice)) ++
    found (bracketDiffers tolerance ours theirs)
      (disagreement theirs .bracketMismatch
        ("the bracket at the venue is not the one recorded; server-side " ++
          "stop and target are what actually protect the position")
        (levels ours.stopLoss ours.takeProfit) (levels theirs.stopLoss theirs.takeProfit))

end Compare

def unexpectedOrder (order : VenueOrder) : Mismatch :=
  { finding := .unexpectedOrderAtBroker
    positionId := none
    symbol := some order.symbol
    detail := Text.lit "the venue holds a pending order the platform has no record of"
    theirs := some (Text.lit s!"{order.side} " ++ Text.num order.volume ++ Text.lit " @ " ++
      Text.num? order.price) }

def unresolved (intentId : String) : Mismatch :=
  { finding := .unresolvedUnknown
    positionId := none
    symbol := none
    detail := Text.lit
      (s!"intent {intentId} was sent and never resolved. Settle it against " ++
        "the venue's deal history before sending another order for it. " ++
        "Retrying is how one intent becomes two positions") }

section Report

variable (broker : List VenuePosition) (internal : List InternalPosition) (now : Time)
  (unresolvedUnknowns : List String) (brokerOrders : List VenueOrder)
  (knownOrderIds : Option (List String)) (tolerance : ℚ)

def openInternal : List InternalPosition := internal.filter fun p => p.status = "open"

def byBrokerId : Table VenuePosition.positionId := Table.ofRows VenuePosition.positionId broker

def byInternalId : Table InternalPosition.positionId :=
  Table.ofRows InternalPosition.positionId (openInternal internal)

def heldFindings (theirs : VenuePosition) : List Mismatch :=
  match (byInternalId internal).find? theirs.positionId with
  | none => [unexpected theirs]
  | some ours => compared tolerance ours theirs

def missingFindings : List Mismatch :=
  ((byInternalId internal).rows.filter fun ours =>
    ((byBrokerId broker).find? ours.positionId).isNone).map missing

def orderFindings : List Mismatch :=
  match knownOrderIds with
  | none => []
  | some known => (brokerOrders.filter fun order => order.orderId ∉ known).map unexpectedOrder

def reconcilePositions : Reconciliation :=
  { checkedAt := now
    brokerPositions := broker.length
    internalPositions := (openInternal internal).length
    mismatches :=
      (byBrokerId broker).rows.flatMap (heldFindings internal tolerance) ++
        missingFindings broker internal ++ orderFindings brokerOrders knownOrderIds ++
        unresolvedUnknowns.map unresolved
    unresolvedUnknowns }

end Report

def Caught (broker : List VenuePosition) (internal : List InternalPosition) (tolerance : ℚ)
    (id : String) : Prop :=
  match (byInternalId internal).find? id, (byBrokerId broker).find? id with
  | none, none => False
  | some ours, some theirs =>
    ours.volume ≠ theirs.volume ∨ priceDiffers tolerance ours theirs = true ∨
      bracketDiffers tolerance ours theirs = true
  | _, _ => True

theorem mem_found_iff {condition : Prop} [Decidable condition] {m m' : Mismatch} :
    m' ∈ found condition m ↔ condition ∧ m' = m := by
  unfold found
  split
  · next holds => rw [List.mem_singleton, and_iff_right holds]
  · next fails => exact ⟨fun mem => absurd mem List.not_mem_nil, fun both => absurd both.1 fails⟩

theorem found_eq_nil_iff {condition : Prop} [Decidable condition] {m : Mismatch} :
    found condition m = [] ↔ ¬ condition := by
  unfold found
  split
  · next holds =>
    exact ⟨fun empty => (List.cons_ne_nil _ _ empty).elim, fun fails => absurd holds fails⟩
  · next fails => exact ⟨fun _ => fails, fun _ => rfl⟩

theorem positionId_of_mem_compared {ours : InternalPosition} {theirs : VenuePosition} {m : Mismatch}
    (mem : m ∈ compared tolerance ours theirs) : m.positionId = some theirs.positionId := by
  unfold compared at mem
  rw [List.mem_append, List.mem_append, mem_found_iff, mem_found_iff, mem_found_iff] at mem
  rcases mem with (⟨_, rfl⟩ | ⟨_, rfl⟩) | ⟨_, rfl⟩
  · rfl
  · rfl
  · rfl

theorem compared_eq_nil_iff {ours : InternalPosition} {theirs : VenuePosition} :
    compared tolerance ours theirs = [] ↔
      ¬ (ours.volume ≠ theirs.volume ∨ priceDiffers tolerance ours theirs = true ∨
        bracketDiffers tolerance ours theirs = true) := by
  unfold compared
  rw [List.append_eq_nil_iff, List.append_eq_nil_iff, found_eq_nil_iff, found_eq_nil_iff,
    found_eq_nil_iff, not_or, not_or, and_assoc]

theorem positionId_of_mem_heldFindings {theirs : VenuePosition} {m : Mismatch}
    (mem : m ∈ heldFindings internal tolerance theirs) :
    m.positionId = some theirs.positionId := by
  unfold heldFindings at mem
  split at mem
  · rw [List.mem_singleton.mp mem]
    rfl
  · exact positionId_of_mem_compared mem

theorem heldFindings_ne_nil_iff {theirs : VenuePosition}
    (held : (byBrokerId broker).find? theirs.positionId = some theirs) :
    heldFindings internal tolerance theirs ≠ [] ↔
      Caught broker internal tolerance theirs.positionId := by
  unfold heldFindings Caught
  rw [held]
  cases (byInternalId internal).find? theirs.positionId with
  | none => simp
  | some ours => exact compared_eq_nil_iff.not_left

theorem positionId_of_mem_missingFindings {m : Mismatch}
    (mem : m ∈ missingFindings broker internal) :
    ∃ ours, (byInternalId internal).find? ours.positionId = some ours ∧
      (byBrokerId broker).find? ours.positionId = none ∧
      m.positionId = some ours.positionId := by
  obtain ⟨ours, kept, rfl⟩ := List.mem_map.mp mem
  obtain ⟨row, absent⟩ := List.mem_filter.mp kept
  exact ⟨ours, Table.find?_of_mem row, Option.isNone_iff_eq_none.mp absent, rfl⟩

theorem positionId_of_mem_orderFindings {m : Mismatch}
    (mem : m ∈ orderFindings brokerOrders knownOrderIds) : m.positionId = none := by
  unfold orderFindings at mem
  split at mem
  · exact absurd mem List.not_mem_nil
  · obtain ⟨order, _, rfl⟩ := List.mem_map.mp mem
    rfl

section Findings

variable (broker internal now unresolvedUnknowns brokerOrders knownOrderIds tolerance)

def Named (id : String) : Prop :=
  ∃ m ∈ (reconcilePositions broker internal now unresolvedUnknowns brokerOrders knownOrderIds
    tolerance).mismatches, m.positionId = some id

theorem exists_finding_iff (id : String) :
    Named broker internal now unresolvedUnknowns brokerOrders knownOrderIds tolerance id ↔
      Caught broker internal tolerance id := by
  constructor
  · rintro ⟨m, mem, here⟩
    rcases List.mem_append.mp mem with mem | unknown
    · rcases List.mem_append.mp mem with mem | order
      · rcases List.mem_append.mp mem with held | lost
        · obtain ⟨theirs, row, found⟩ := List.mem_flatMap.mp held
          have same : theirs.positionId = id :=
            Option.some.inj ((positionId_of_mem_heldFindings found).symm.trans here)
          rw [← same, ← heldFindings_ne_nil_iff (Table.find?_of_mem row)]
          exact List.ne_nil_of_mem found
        · obtain ⟨ours, kept, absent, named⟩ := positionId_of_mem_missingFindings lost
          have same : ours.positionId = id := Option.some.inj (named.symm.trans here)
          rw [← same]
          unfold Caught
          rw [kept, absent]
          exact True.intro
      · rw [positionId_of_mem_orderFindings order] at here
        cases here
    · obtain ⟨intent, _, rfl⟩ := List.mem_map.mp unknown
      cases here
  · intro caught
    cases held : (byBrokerId broker).find? id with
    | some theirs =>
      have same : theirs.positionId = id := Table.key_of_find? held
      subst same
      have some_ := (heldFindings_ne_nil_iff held).mpr caught
      obtain ⟨m, found⟩ := List.exists_mem_of_ne_nil _ some_
      refine ⟨m, ?_, positionId_of_mem_heldFindings found⟩
      refine List.mem_append_left _ (List.mem_append_left _ (List.mem_append_left _ ?_))
      exact List.mem_flatMap.mpr ⟨theirs, Table.mem_rows_iff.mpr held, found⟩
    | none =>
      cases kept : (byInternalId internal).find? id with
      | none =>
        unfold Caught at caught
        rw [held, kept] at caught
        exact caught.elim
      | some ours =>
        have same : ours.positionId = id := Table.key_of_find? kept
        subst same
        refine ⟨missing ours, ?_, rfl⟩
        refine List.mem_append_left _ (List.mem_append_left _ (List.mem_append_right _ ?_))
        refine List.mem_map.mpr ⟨ours, List.mem_filter.mpr ⟨Table.mem_rows_iff.mpr kept, ?_⟩, rfl⟩
        exact Option.isNone_iff_eq_none.mpr held

end Findings

structure Shown where
  positionId : String
  symbol : String
  side : String
  volume : ℚ
  deriving DecidableEq

def InternalPosition.shown (p : InternalPosition) : Shown :=
  ⟨p.positionId, p.symbol, p.side, p.volume⟩

def VenuePosition.shown (p : VenuePosition) : Shown :=
  ⟨p.positionId, p.symbol, p.side, p.volume⟩

structure Agree (broker : List VenuePosition) (held : List InternalPosition) : Prop where
  brokerOnce : (broker.map VenuePosition.positionId).Nodup
  heldOnce : (held.map InternalPosition.positionId).Nodup
  matched : (broker.map VenuePosition.shown).Perm (held.map InternalPosition.shown)

inductive Irregular (broker : List VenuePosition) (held : List InternalPosition) (id : String) :
    Prop
  | broker (twice : 1 < (broker.map VenuePosition.positionId).count id)
  | held (twice : 1 < (held.map InternalPosition.positionId).count id)
  | differ {theirs : VenuePosition} {ours : InternalPosition} (mem : theirs ∈ broker)
    (mem' : ours ∈ held) (here : theirs.positionId = id) (here' : ours.positionId = id)
    (apart : theirs.symbol ≠ ours.symbol ∨ theirs.side ≠ ours.side)

structure Faithful (broker : List VenuePosition) (internal : List InternalPosition) (now : Time)
    (unresolvedUnknowns : List String) (brokerOrders : List VenueOrder)
    (knownOrderIds : Option (List String)) (tolerance : ℚ) : Prop where
  clean : (reconcilePositions broker internal now unresolvedUnknowns brokerOrders knownOrderIds
    tolerance).clean → Agree broker (openInternal internal)
  reported : ∀ id, Irregular broker (openInternal internal) id →
    Named broker internal now unresolvedUnknowns brokerOrders knownOrderIds tolerance id

theorem not_caught_of_clean
    (clean : (reconcilePositions broker internal now unresolvedUnknowns brokerOrders knownOrderIds
      tolerance).clean) (id : String) : ¬ Caught broker internal tolerance id := by
  rw [← exists_finding_iff broker internal now unresolvedUnknowns brokerOrders knownOrderIds]
  rintro ⟨m, mem, _⟩
  rw [clean.1] at mem
  exact List.not_mem_nil mem

theorem nodup_of_count_le {ids : List String} (once : ∀ id, ¬ 1 < ids.count id) : ids.Nodup :=
  List.nodup_iff_count_le_one.mpr fun id => not_lt.mp (once id)

theorem nodup_shown {α : Type} {rows : List α} {shown : α → Shown} {key : α → String}
    (same : ∀ a, (shown a).positionId = key a) (once : (rows.map key).Nodup) :
    (rows.map shown).Nodup := by
  have keys : (rows.map shown).map Shown.positionId = rows.map key := by
    rw [List.map_map]
    exact List.map_congr_left fun a _ => same a
  exact List.Nodup.of_map Shown.positionId (keys ▸ once)

theorem find?_byBrokerId_of_mem (once : (broker.map VenuePosition.positionId).Nodup)
    {theirs : VenuePosition} (mem : theirs ∈ broker) :
    (byBrokerId broker).find? theirs.positionId = some theirs :=
  Table.find?_ofRows_of_nodup once mem

theorem find?_byInternalId_of_mem
    (once : ((openInternal internal).map InternalPosition.positionId).Nodup)
    {ours : InternalPosition} (mem : ours ∈ openInternal internal) :
    (byInternalId internal).find? ours.positionId = some ours :=
  Table.find?_ofRows_of_nodup once mem

theorem shown_eq_of_regular {theirs : VenuePosition} {ours : InternalPosition}
    (mem : theirs ∈ broker) (mem' : ours ∈ openInternal internal)
    (read : (byBrokerId broker).find? theirs.positionId = some theirs)
    (read' : (byInternalId internal).find? theirs.positionId = some ours)
    (regular : ¬ Irregular broker (openInternal internal) theirs.positionId)
    (missed : ¬ Caught broker internal tolerance theirs.positionId) :
    theirs.shown = ours.shown := by
  have here : ours.positionId = theirs.positionId := Table.key_of_find? read'
  have volume : ours.volume = theirs.volume := by
    unfold Caught at missed
    rw [read, read'] at missed
    exact not_not.mp fun apart => missed (.inl apart)
  have symbol : theirs.symbol = ours.symbol :=
    not_not.mp fun apart => regular (.differ mem mem' rfl here (.inl apart))
  have side : theirs.side = ours.side :=
    not_not.mp fun apart => regular (.differ mem mem' rfl here (.inr apart))
  unfold VenuePosition.shown InternalPosition.shown
  rw [here, volume, symbol, side]

theorem agree_of_regular
    (regular : ∀ id, ¬ Irregular broker (openInternal internal) id)
    (missed : ∀ id, ¬ Caught broker internal tolerance id) :
    Agree broker (openInternal internal) := by
  have once : (broker.map VenuePosition.positionId).Nodup :=
    nodup_of_count_le fun id twice => regular id (.broker twice)
  have once' : ((openInternal internal).map InternalPosition.positionId).Nodup :=
    nodup_of_count_le fun id twice => regular id (.held twice)
  refine ⟨once, once', ?_⟩
  rw [List.perm_ext_iff_of_nodup (nodup_shown (fun _ => rfl) once)
    (nodup_shown (fun _ => rfl) once')]
  intro shown
  rw [List.mem_map, List.mem_map]
  constructor
  · rintro ⟨theirs, mem, rfl⟩
    have read := find?_byBrokerId_of_mem once mem
    cases read' : (byInternalId internal).find? theirs.positionId with
    | none =>
      refine absurd ?_ (missed theirs.positionId)
      unfold Caught
      rw [read, read']
      exact True.intro
    | some ours =>
      have mem' : ours ∈ openInternal internal := Table.mem_of_find?_ofRows read'
      exact ⟨ours, mem', (shown_eq_of_regular mem mem' read read' (regular _) (missed _)).symm⟩
  · rintro ⟨ours, mem', rfl⟩
    have read' := find?_byInternalId_of_mem once' mem'
    cases read : (byBrokerId broker).find? ours.positionId with
    | none =>
      refine absurd ?_ (missed ours.positionId)
      unfold Caught
      rw [read, read']
      exact True.intro
    | some theirs =>
      have mem : theirs ∈ broker := Table.mem_of_find?_ofRows read
      have here : theirs.positionId = ours.positionId := Table.key_of_find? read
      rw [← here] at read read'
      exact ⟨theirs, mem, shown_eq_of_regular mem mem' read read' (regular _) (missed _)⟩

/-- The report is faithful exactly when every irregular id is caught by what is compared. -/
theorem faithful_iff (broker : List VenuePosition) (internal : List InternalPosition) (now : Time)
    (unresolvedUnknowns : List String) (brokerOrders : List VenueOrder)
    (knownOrderIds : Option (List String)) (tolerance : ℚ) :
    Faithful broker internal now unresolvedUnknowns brokerOrders knownOrderIds tolerance ↔
      ∀ id, Irregular broker (openInternal internal) id → Caught broker internal tolerance id := by
  constructor
  · intro faithful id irregular
    exact (exists_finding_iff ..).mp (faithful.reported id irregular)
  · intro caught
    refine ⟨fun clean => ?_, fun id irregular => (exists_finding_iff ..).mpr (caught id irregular)⟩
    have missed := not_caught_of_clean clean
    exact agree_of_regular (fun id irregular => missed id (caught id irregular)) missed

def flipped : VenuePosition × InternalPosition :=
  (⟨"1", "EURUSD", "long", 1, 100, none, none⟩,
    ⟨"1", "EURUSD", "short", 1, some 100, none, none, "open"⟩)

/-- The two sides of one position are opposite, and nothing is reported. -/
theorem not_forall_faithful :
    ¬ ∀ (broker : List VenuePosition) (internal : List InternalPosition) (now : Time)
        (unresolvedUnknowns : List String) (brokerOrders : List VenueOrder)
        (knownOrderIds : Option (List String)) (tolerance : ℚ),
      Faithful broker internal now unresolvedUnknowns brokerOrders knownOrderIds tolerance := by
  intro all
  have faithful := all [flipped.1] [flipped.2] 0 [] [] none priceTolerance
  have irregular : Irregular [flipped.1] (openInternal [flipped.2]) "1" :=
    .differ (List.mem_singleton_self _) (List.mem_singleton_self _) rfl rfl (.inr (by decide))
  obtain ⟨m, mem, _⟩ := faithful.reported "1" irregular
  have none : (reconcilePositions [flipped.1] [flipped.2] 0 [] [] none priceTolerance).mismatches =
      [] := by
    decide +kernel
  rw [none] at mem
  exact List.not_mem_nil mem

end TradeResearch.Brokers.Reconcile
