import Mathlib.Data.Rat.Floor
import TradeResearch.Lib.Run
import TradeResearch.Risk.Decision

/-!
# Latched risk states

`backend/app/risk/state.py`: an account's latched risk state, the locks that set it and the two
ways out of it. `AccountRiskState.lock`, `clear` and `refresh` are the source's methods; a method
that raises has written nothing, so a raise leaves the state as it was.

* `RiskCall` is one such call and `RiskCall.step` the state it leaves.
* `StaysBlocked` says that no number of refreshes and unauthorised clears unblocks the account.
* `staysBlocked_along_iff_meets` is the latch: an account that needs an authorised reset stays
  blocked along a run without one exactly when no daily lock takes the place of its lock.
-/

namespace TradeResearch.Risk

inductive RiskState where
  | normal
  | warning
  | dailyLossLocked
  | weeklyLossLocked
  | drawdownLocked
  | emergencyStop
  | disabled
  deriving DecidableEq, Repr

namespace RiskState

def name : RiskState → String
  | normal => "NORMAL"
  | warning => "WARNING"
  | dailyLossLocked => "DAILY_LOSS_LOCKED"
  | weeklyLossLocked => "WEEKLY_LOSS_LOCKED"
  | drawdownLocked => "DRAWDOWN_LOCKED"
  | emergencyStop => "EMERGENCY_STOP"
  | disabled => "DISABLED"

def blockingCode : RiskState → Option RejectionCode
  | dailyLossLocked => some .dailyLossLocked
  | weeklyLossLocked => some .weeklyLossLocked
  | drawdownLocked => some .drawdownLocked
  | emergencyStop => some .emergencyStop
  | disabled => some .accountDisabled
  | normal | warning => none

def blocking (s : RiskState) : Bool := s.blockingCode.isSome

def needsAuthorisedReset : RiskState → Bool
  | weeklyLossLocked | drawdownLocked | emergencyStop | disabled => true
  | normal | warning | dailyLossLocked => false

theorem blocking_of_needsAuthorisedReset {s : RiskState}
    (needs : s.needsAuthorisedReset = true) : s.blocking = true := by
  cases s <;> first | rfl | cases needs

theorem needsAuthorisedReset_iff {s : RiskState} (blocked : s.blocking = true) :
    s.needsAuthorisedReset = true ↔ s ≠ .dailyLossLocked := by
  cases s <;> simp_all [needsAuthorisedReset, blocking, blockingCode]

end RiskState

inductive RiskError where
  | illegalRiskTransition (message : String)
  | resetNotPermitted (message : String)
  | boundaryHour (hour : ℤ)
  deriving DecidableEq, Repr

def dayStart (now : Time) (boundaryHour : ℤ) : Except RiskError Time :=
  if 0 ≤ boundaryHour ∧ boundaryHour ≤ 23 then
    let start : Time := (⌊now / 86400⌋ : ℚ) * 86400 + boundaryHour * 3600
    .ok (if now < start then start - 86400 else start)
  else .error (.boundaryHour boundaryHour)

structure HistoryEntry where
  at_ : Time
  action : Text
  detail : Text
  from_ : RiskState

structure AccountRiskState where
  scope : String
  scopeRef : Option String
  state : RiskState
  reason : Text
  since : Option Time
  setBy : Option String
  /-- For a daily lock, the trading day it belongs to. -/
  lockedDay : Option Time
  history : List HistoryEntry

namespace AccountRiskState

def fresh (scope : String) (scopeRef : Option String) : AccountRiskState :=
  { scope, scopeRef, state := .normal, reason := [], since := none, setBy := none,
    lockedDay := none, history := [] }

def blocking (s : AccountRiskState) : Bool := s.state.blocking

def code (s : AccountRiskState) : Option RejectionCode := s.state.blockingCode

def entry (s : AccountRiskState) (at' : Time) (action detail : Text) : HistoryEntry :=
  { at_ := at', action, detail := Text.take 300 detail, from_ := s.state }

def lock (s : AccountRiskState) (state : RiskState) (reason : Text) (at' : Time)
    (setBy : Option String) (day : Option Time) : Except RiskError AccountRiskState :=
  if state.blocking = false then
    .error (.illegalRiskTransition s!"{state.name} is not a locking state")
  else if s.state = .emergencyStop ∧ state ≠ .emergencyStop then .ok s
  else
    .ok
      { s with
        history := s.history ++ [s.entry at' (Text.lit s!"lock -> {state.name}") reason]
        state := state
        reason := Text.take 500 reason
        since := some at'
        setBy := setBy
        lockedDay := day }

def named (authorisedBy : Option String) : Bool := authorisedBy.any fun name => name ≠ ""

def released (s : AccountRiskState) (at' : Time) (authorisedBy : Option String) :
    AccountRiskState :=
  { s with
    history := s.history ++
      [s.entry at' (Text.lit s!"clear <- {s.state.name}")
        (if named authorisedBy then Text.lit (authorisedBy.getD "")
          else Text.lit "boundary passed")]
    state := .normal
    reason := []
    since := some at'
    setBy := authorisedBy
    lockedDay := none }

def clear (s : AccountRiskState) (at' : Time) (authorisedBy : Option String) (force : Bool) :
    Except RiskError AccountRiskState :=
  if s.blocking = false then .ok s
  else if s.state.needsAuthorisedReset = true ∧ force = false then
    .error (.resetNotPermitted
      s!"a {s.state.name} lock does not clear on its own; it requires an authorised reset")
  else if force = true ∧ named authorisedBy = false then
    .error (.resetNotPermitted "an authorised reset must record who authorised it")
  else .ok (s.released at' authorisedBy)

theorem clear_of_earned {s : AccountRiskState} {authorisedBy : Option String} {force : Bool}
    (blocked : s.blocking = true)
    (earned : force = true ∨ s.state.needsAuthorisedReset = false)
    (signed : force = true → named authorisedBy = true) (at' : Time) :
    s.clear at' authorisedBy force = .ok (s.released at' authorisedBy) := by
  unfold clear
  rw [if_neg (by rw [blocked]; decide), if_neg, if_neg]
  · rintro ⟨forced, unnamed⟩
    rw [signed forced] at unnamed
    cases unnamed
  · rintro ⟨needs, unforced⟩
    rcases earned with forced | free
    · rw [forced] at unforced
      cases unforced
    · rw [free] at needs
      cases needs

def refresh (s : AccountRiskState) (now : Time) (boundaryHour : ℤ) :
    Except RiskError AccountRiskState :=
  if s.state ≠ .dailyLossLocked then .ok s
  else
    match s.lockedDay with
    | none => .ok s
    | some day => do
      let start ← dayStart now boundaryHour
      if start > day then s.clear now none false else pure s

end AccountRiskState

inductive RiskCall where
  | lock (state : RiskState) (reason : Text) (at_ : Time) (setBy : Option String)
      (day : Option Time)
  | clear (at_ : Time) (authorisedBy : Option String) (force : Bool)
  | refresh (now : Time) (boundaryHour : ℤ)

namespace RiskCall

def apply (s : AccountRiskState) : RiskCall → Except RiskError AccountRiskState
  | lock state reason at' setBy day => s.lock state reason at' setBy day
  | clear at' authorisedBy force => s.clear at' authorisedBy force
  | refresh now boundaryHour => s.refresh now boundaryHour

def after (s : AccountRiskState) (c : RiskCall) : AccountRiskState :=
  (c.apply s).toOption.getD s

theorem after_lock (s : AccountRiskState) (state : RiskState) (reason : Text) (at' : Time)
    (setBy : Option String) (day : Option Time) :
    (lock state reason at' setBy day).after s =
      (s.lock state reason at' setBy day).toOption.getD s := rfl

theorem after_clear (s : AccountRiskState) (at' : Time) (authorisedBy : Option String)
    (force : Bool) :
    (clear at' authorisedBy force).after s = (s.clear at' authorisedBy force).toOption.getD s := rfl

theorem after_refresh (s : AccountRiskState) (now : Time) (boundaryHour : ℤ) :
    (refresh now boundaryHour).after s = (s.refresh now boundaryHour).toOption.getD s := rfl

def step (s : AccountRiskState) (c : RiskCall) : Option AccountRiskState := some (c.after s)

def replay (s : AccountRiskState) (calls : List RiskCall) : AccountRiskState :=
  calls.foldl after s

def Authorised : RiskCall → Prop
  | clear _ authorisedBy force => force = true ∧ AccountRiskState.named authorisedBy = true
  | _ => False

def Unauthorised (c : RiskCall) : Prop :=
  ¬ c.Authorised ∧ ∀ state reason at' setBy day, c ≠ lock state reason at' setBy day

def DisplacesWithDaily (s : AccountRiskState) : RiskCall → Prop
  | lock state _ _ _ _ => state = .dailyLossLocked ∧ s.state ≠ .emergencyStop
  | _ => False

end RiskCall

def StaysBlocked (s : AccountRiskState) : Prop :=
  ∀ rest : List RiskCall, (∀ c ∈ rest, c.Unauthorised) → (RiskCall.replay s rest).blocking = true

namespace RiskCall

theorem needs_after_lock_iff (latched : s.state.needsAuthorisedReset = true) (state : RiskState)
    (reason : Text) (at' : Time) (setBy : Option String) (day : Option Time) :
    ((lock state reason at' setBy day).after s).state.needsAuthorisedReset = true ↔
      ¬ (state = .dailyLossLocked ∧ s.state ≠ .emergencyStop) := by
  rw [after_lock]
  unfold AccountRiskState.lock
  by_cases blocks : state.blocking = false
  · rw [if_pos blocks]
    refine iff_of_true latched fun displaced => ?_
    rw [displaced.1] at blocks
    cases blocks
  rw [if_neg blocks]
  by_cases kept : s.state = .emergencyStop ∧ state ≠ .emergencyStop
  · rw [if_pos kept]
    exact iff_of_true latched fun displaced => displaced.2 kept.1
  rw [if_neg kept]
  have locks : state.blocking = true := by simpa using blocks
  refine (RiskState.needsAuthorisedReset_iff locks).trans ?_
  refine not_congr ⟨fun daily => ⟨daily, fun stopped => ?_⟩, And.left⟩
  exact kept ⟨stopped, by rw [daily]; decide⟩

theorem after_clear_of_needs (latched : s.state.needsAuthorisedReset = true) {at' : Time}
    {authorisedBy : Option String} {force : Bool}
    (unauthorised : ¬ (clear at' authorisedBy force).Authorised) :
    (clear at' authorisedBy force).after s = s := by
  have blocked : s.blocking = true := RiskState.blocking_of_needsAuthorisedReset latched
  rw [after_clear]
  unfold AccountRiskState.clear
  rw [if_neg (by rw [blocked]; decide)]
  cases force with
  | false =>
    rw [if_pos ⟨latched, rfl⟩]
    rfl
  | true =>
    have unnamed : AccountRiskState.named authorisedBy = false := by
      cases name : AccountRiskState.named authorisedBy with
      | false => rfl
      | true => exact absurd ⟨rfl, name⟩ unauthorised
    rw [if_neg (fun forced => by cases forced.2), if_pos ⟨rfl, unnamed⟩]
    rfl

theorem after_refresh_of_needs (latched : s.state.needsAuthorisedReset = true) (now : Time)
    (boundaryHour : ℤ) : (refresh now boundaryHour).after s = s := by
  have other : s.state ≠ .dailyLossLocked := by
    intro daily
    rw [daily] at latched
    cases latched
  rw [after_refresh]
  unfold AccountRiskState.refresh
  rw [if_pos other]
  rfl

theorem needs_after_iff (latched : s.state.needsAuthorisedReset = true) (c : RiskCall) :
    (c.after s).state.needsAuthorisedReset = true ↔
      ¬ c.Authorised ∧ ¬ c.DisplacesWithDaily s := by
  cases c with
  | lock state reason at' setBy day =>
    rw [needs_after_lock_iff latched]
    exact ⟨fun kept => ⟨id, kept⟩, And.right⟩
  | refresh now boundaryHour =>
    rw [after_refresh_of_needs latched]
    exact iff_of_true latched ⟨id, id⟩
  | clear at' authorisedBy force =>
    by_cases authorised : (clear at' authorisedBy force).Authorised
    · refine iff_of_false ?_ fun kept => kept.1 authorised
      obtain ⟨forced, name⟩ := authorised
      have blocked : s.blocking = true := RiskState.blocking_of_needsAuthorisedReset latched
      rw [after_clear, AccountRiskState.clear_of_earned blocked (.inl forced) (fun _ => name) at']
      exact Bool.false_ne_true
    · rw [after_clear_of_needs latched authorised]
      exact iff_of_true latched ⟨authorised, id⟩

theorem needs_replay (latched : s.state.needsAuthorisedReset = true) {rest : List RiskCall}
    (unauthorised : ∀ c ∈ rest, c.Unauthorised) :
    (replay s rest).state.needsAuthorisedReset = true := by
  induction rest generalizing s with
  | nil => exact latched
  | cons c rest ih =>
    apply ih
    · refine (needs_after_iff latched c).mpr ⟨(unauthorised c (List.mem_cons_self ..)).1, ?_⟩
      intro displaced
      cases c with
      | lock state reason at' setBy day =>
        exact (unauthorised _ (List.mem_cons_self ..)).2 _ _ _ _ _ rfl
      | clear _ _ _ | refresh _ _ => exact displaced
    · exact fun c' mem => unauthorised c' (List.mem_cons_of_mem _ mem)

end RiskCall

theorem staysBlocked_iff (s : AccountRiskState) :
    StaysBlocked s ↔ s.state.needsAuthorisedReset = true := by
  constructor
  · intro stays
    have blocked : s.state.blocking = true := stays [] (fun c mem => absurd mem (by simp))
    refine (RiskState.needsAuthorisedReset_iff blocked).mpr fun daily => ?_
    have plain : RiskCall.Unauthorised (.clear 0 none false) := by
      refine ⟨fun authorised => ?_, fun _ _ _ _ _ same => ?_⟩
      · exact Bool.false_ne_true authorised.1
      · cases same
    have cleared := stays [.clear 0 none false] fun c mem => by
      rw [List.mem_singleton.mp mem]
      exact plain
    have free : s.state.needsAuthorisedReset = false := by
      rw [daily]
      rfl
    have released : s.clear 0 none false = .ok (s.released 0 none) :=
      AccountRiskState.clear_of_earned blocked (.inr free) (fun forced => by cases forced) 0
    have normal : (RiskCall.clear 0 none false).after s = s.released 0 none := by
      rw [RiskCall.after_clear, released]
      rfl
    rw [RiskCall.replay, List.foldl_cons, normal] at cleared
    exact Bool.false_ne_true cleared
  · intro latched rest unauthorised
    exact RiskState.blocking_of_needsAuthorisedReset (RiskCall.needs_replay latched unauthorised)

/-- **The latch.** An account that needs an authorised reset stays blocked all along a run without
one, exactly when no daily lock of the run takes the place of the lock it holds. -/
theorem staysBlocked_along_iff_meets (s : AccountRiskState)
    (latched : s.state.needsAuthorisedReset = true) (calls : List RiskCall)
    (unauthorised : ∀ c ∈ calls, ¬ c.Authorised) :
    Run.Along RiskCall.step StaysBlocked s calls ↔
      Run.Meets RiskCall.step (fun t c => ¬ c.DisplacesWithDaily t) s calls := by
  have exactly : Run.Along RiskCall.step StaysBlocked s calls ↔
      Run.Meets RiskCall.step (fun t c => ¬ c.Authorised ∧ ¬ c.DisplacesWithDaily t) s calls := by
    refine Run.along_iff_meets ?_ (fun t c stuck => by cases stuck)
      ((staysBlocked_iff s).mpr latched)
    intro t c u stays taken
    cases taken
    rw [staysBlocked_iff] at stays ⊢
    exact RiskCall.needs_after_iff stays c
  rw [exactly, Run.meets_and]
  exact ⟨And.right, fun kept => ⟨Run.Meets.of_mem fun c mem _ => unauthorised c mem, kept⟩⟩

def weeklyLocked : AccountRiskState :=
  { AccountRiskState.fresh "paper_account" (some "acct-a") with state := .weeklyLossLocked }

/-- A week's lock under refreshes and an unauthorised clear. -/
theorem staysBlocked_weeklyLocked :
    weeklyLocked.state.needsAuthorisedReset = true ∧
      (Run.Along RiskCall.step StaysBlocked weeklyLocked
          [.refresh 86400 0, .clear 90000 none false] ↔
        Run.Meets RiskCall.step (fun t c => ¬ c.DisplacesWithDaily t) weeklyLocked
          [.refresh 86400 0, .clear 90000 none false]) := by
  refine ⟨rfl, staysBlocked_along_iff_meets weeklyLocked rfl _ fun c mem authorised => ?_⟩
  rcases List.mem_cons.mp mem with rfl | mem
  · exact authorised
  · rw [List.mem_singleton.mp mem] at authorised
    exact Bool.false_ne_true authorised.1

/-- A daily lock takes the place of the week's, and the next day's refresh releases it. -/
theorem not_forall_latched :
    ¬ ∀ (s : AccountRiskState) (calls : List RiskCall), s.state.needsAuthorisedReset = true →
      (∀ c ∈ calls, ¬ c.Authorised) → (RiskCall.replay s calls).blocking = true := by
  intro latched
  have blocked := latched weeklyLocked
    [.lock .dailyLossLocked (Text.lit "max_daily_loss") 3600 (some "risk_engine") (some 0),
      .refresh 86400 0] rfl fun c mem authorised => by
    rcases List.mem_cons.mp mem with rfl | mem
    · exact authorised
    · rw [List.mem_singleton.mp mem] at authorised
      exact authorised
  revert blocked
  decide +kernel

end TradeResearch.Risk
