import Mathlib.Data.List.Sort
import TradeResearch.Lib.Table
import TradeResearch.Lib.Text

/-!
# Safe mode

`backend/app/recovery/safe_mode.py`: the latch, with at most one entry for each reason. What
`describe` and the log say is left out.

* `latched_engage` and `latched_release` say which latches stand after each write.
-/

namespace TradeResearch.Recovery

inductive SafeModeReason where
  | startupReconciliationFailed
  | unknownOrderState
  | positionMismatch
  | brokerUnreachable
  | staleMarketData
  | databaseInconsistent
  | recoveryFailed
  | operator
  deriving DecidableEq

structure Latch where
  reason : SafeModeReason
  detail : Text
  at_ : Time
  actorUserId : Option String

inductive LatchEvent where
  | engaged (latch : Latch)
  | released (reason : SafeModeReason) (why : Text) (at_ : Time) (actorUserId : String)
    (wasEngagedAt : Time)

structure SafeMode where
  latches : Table Latch.reason
  history : List LatchEvent

namespace SafeMode

def fresh : SafeMode := ⟨Table.empty Latch.reason, []⟩

variable (s : SafeMode)

def Latched (reason : SafeModeReason) : Prop := reason ∈ s.latches.rows.map Latch.reason

instance (reason : SafeModeReason) : Decidable (s.Latched reason) :=
  inferInstanceAs (Decidable (reason ∈ s.latches.rows.map Latch.reason))

def engaged : Bool := !s.latches.rows.isEmpty

def reasons : List Latch := s.latches.rows.insertionSort fun l l' => l.at_ ≤ l'.at_

def engage (reason : SafeModeReason) (detail : Text) (actorUserId : Option String) (now : Time) :
    SafeMode :=
  if free : ¬ s.Latched reason then
    let latch : Latch := ⟨reason, detail.take 300, now, actorUserId⟩
    { latches := s.latches.insert latch free, history := s.history ++ [.engaged latch] }
  else s

def release (reason : SafeModeReason) (actorUserId : String) (why : Text) (now : Time) :
    Bool × SafeMode :=
  match s.latches.find? reason with
  | none => (false, s)
  | some latch =>
    (true,
      { latches := s.latches.erase reason
        history := s.history ++ [.released reason (why.take 300) now actorUserId latch.at_] })

variable {s} {reason reason' : SafeModeReason} {detail why : Text}

theorem latched_engage {actor : Option String} :
    (s.engage reason detail actor now).Latched reason' ↔ s.Latched reason' ∨ reason' = reason := by
  unfold engage
  split
  · unfold Latched Table.insert
    rw [List.map_append, List.map_singleton, List.mem_append, List.mem_singleton]
  · next held =>
    constructor
    · exact .inl
    · rintro (already | rfl)
      · exact already
      · exact not_not.mp held

theorem latched_release {actor : String} :
    (s.release reason actor why now).2.Latched reason' ↔ s.Latched reason' ∧ reason' ≠ reason := by
  unfold release Latched
  cases found : s.latches.find? reason with
  | none =>
    refine ⟨fun latched => ⟨latched, ?_⟩, And.left⟩
    rintro rfl
    obtain ⟨latch, mem, same⟩ := List.mem_map.mp latched
    have missed := List.find?_eq_none.mp found latch mem
    simp [same] at missed
  | some latch =>
    rw [List.mem_map, List.mem_map]
    constructor
    · rintro ⟨kept, mem, rfl⟩
      obtain ⟨row, other⟩ := List.mem_filter.mp mem
      exact ⟨⟨kept, row, rfl⟩, by simpa using other⟩
    · rintro ⟨⟨kept, row, rfl⟩, other⟩
      exact ⟨kept, List.mem_filter.mpr ⟨row, by simpa using other⟩, rfl⟩

end SafeMode

end TradeResearch.Recovery
