import TradeResearch.Replay.Engine

/-!
# Replay sessions

`backend/app/replay/clock.py` and `backend/app/replay/service.py`: the states of a session, the
clock that reveals its bars, the commands on it, and the task that drives it. Calls and the driver
run on one event loop and meet at their awaits: what stands between two awaits is one event here.
The writes to the database, the events published and the pace of the driver are left out, but for
the awaits they are.

* `Session.apply` is one event: a command up to its await, a call behind it, a turn of the driver.
* `apply_cases`: what an event does; `apply_spec`: what it makes of the engine and of the state.
-/

namespace TradeResearch.Replay

open Backtest

inductive ReplayState where
  | created
  | running
  | paused
  | completed
  | stopped
  | failed
  deriving DecidableEq, Repr

namespace ReplayState

def name : ReplayState → String
  | created => "queued"
  | running => "running"
  | paused => "paused"
  | completed => "finished"
  | stopped => "cancelled"
  | failed => "failed"

def transitions : ReplayState → List ReplayState
  | created => [running, stopped, failed]
  | running => [paused, completed, stopped, failed]
  | paused => [running, stopped, failed]
  | completed => []
  | stopped => []
  | failed => []

def terminal (s : ReplayState) : Bool := s ∈ [completed, stopped, failed]

def checkTransition (current wanted : ReplayState) : Except Text Unit :=
  if wanted ∈ current.transitions then .ok ()
  else .error (Text.lit s!"a {current.name} session cannot become {wanted.name}; it may become " ++
    if current.transitions.isEmpty then Text.lit "nothing"
    else Text.lit (", ".intercalate
      ((current.transitions.map name).mergeSort fun a b => decide (a ≤ b))))

theorem terminal_iff_transitions_nil (s : ReplayState) :
    s.terminal = true ↔ s.transitions = [] := by
  cases s <;> decide

theorem checkTransition_eq_ok {current wanted : ReplayState} :
    checkTransition current wanted = .ok () ↔ wanted ∈ current.transitions := by
  unfold checkTransition
  by_cases legal : wanted ∈ current.transitions
  · simp [legal]
  · simp [legal]

end ReplayState

inductive Driver where
  /-- There is none, or it is done. -/
  | absent
  /-- It looks at the state next. -/
  | ready
  /-- It waits at the gate. -/
  | waiting
  /-- The gate was opened where it waited. -/
  | woken
  /-- In `_one_bar`, behind a bar it revealed. -/
  | revealed
  /-- In `_one_bar`, behind the close of what was open at the end. -/
  | closing
  deriving DecidableEq, Repr

inductive Call where
  | start
  | resume
  | stop
  /-- A `step`, behind the bar it revealed. -/
  | revealed
  /-- A `step`, behind the close of what was open at the end. -/
  | closing
  deriving DecidableEq, Repr

structure Session where
  state : ReplayState
  error : Option Text
  /-- `clock.revealed`: the bars revealed so far, the cursor and one. -/
  revealed : ℕ
  engine : ReplayEngine
  /-- `_resume`: the gate is open. -/
  gate : Bool
  driver : Driver
  calls : List Call

namespace Session

section Service

variable (rounded : ℕ → ℚ → ℚ) (setup : Setup) (s : Session)

def opened : Session :=
  { state := .created, error := none, revealed := 0, engine := fresh setup, gate := false,
    driver := .absent, calls := [] }

def create : Except Text Session := do
  setup.config.validate
  if setup.bars.length < 62 then
    .error (Text.num setup.bars.length ++ Text.lit (" bars in this window; a replay needs more " ++
      "than 61 before it can open anything. This is a data shortfall, not a session"))
  else
    let invalid := setup.bars.countP fun bar => Marketdata.ohlcIsConsistent bar = false
    if invalid ≠ 0 then
      .error (Text.num invalid ++ Text.lit (" bars have impossible OHLC; refusing to replay " ++
        "corrupt data rather than silently repairing it"))
    else .ok (opened setup)

def exhausted : Prop := setup.bars.length ≤ s.revealed

instance : Decidable (s.exhausted setup) := inferInstanceAs (Decidable (_ ≤ _))

def setState (wanted : ReplayState) : Except Text Session := do
  if s.state ≠ wanted then
    s.state.checkTransition wanted
  return { s with state := wanted }

def finish : Except Text Session := if s.state.terminal then .ok s else s.setState .completed

inductive Stretch where
  | returns (s : Session)
  | awaits (s : Session)
  | raises (s : Session) (reason : Text)

def finishing : Stretch :=
  match s.finish with
  | .ok t => .returns t
  | .error reason => .raises s reason

def oneBar : Stretch :=
  if s.exhausted setup then s.finishing
  else
    .awaits { s with
      revealed := s.revealed + 1
      engine := step rounded setup s.engine s.revealed }

def behindBar : Stretch :=
  if s.exhausted setup then
    let closed := { s with engine := finalise rounded setup s.engine }
    if s.engine.position.isSome then .awaits closed else closed.finishing
  else .returns s

def driven (next : Driver) : Stretch → Session
  | .returns t => { t with driver := if t.state.terminal then .absent else .ready }
  | .awaits t => { t with driver := next }
  | .raises t reason =>
    let told := { t with
      error := some (Text.take 300 (Text.lit "IllegalTransition: " ++ reason))
      driver := .absent }
    match told.setState .failed with
    | .ok failed => failed
    | .error _ => told

def pastGate : Session :=
  if s.state ≠ .running then { s with driver := .absent }
  else driven .revealed (s.oneBar rounded setup)

def drive : Option Session :=
  match s.driver with
  | .absent => none
  | .waiting => none
  | .ready =>
    if s.state = .running ∨ s.state = .paused then
      if s.gate then some (s.pastGate rounded setup) else some { s with driver := .waiting }
    else some { s with driver := .absent }
  | .woken => some (s.pastGate rounded setup)
  | .revealed => some (driven .closing (s.behindBar rounded setup))
  | .closing => some (driven .closing s.finishing)

def start : Except Text Session := do
  s.state.checkTransition .running
  let s ← s.setState .running
  return { s with calls := s.calls ++ [.start] }

def pause : Except Text Session := do
  s.state.checkTransition .paused
  setState { s with gate := false } .paused

def resume : Except Text Session := do
  s.state.checkTransition .running
  let s ← s.setState .running
  return { s with calls := s.calls ++ [.resume] }

def stop : Except Text Session := do
  s.state.checkTransition .stopped
  let s ← s.setState .stopped
  return { s with calls := s.calls ++ [.stop] }

def stepOne : Except Text Session :=
  if s.state = .created ∨ s.state = .paused then
    match s.oneBar rounded setup with
    | .returns t => .ok t
    | .awaits t => .ok { t with calls := t.calls ++ [.revealed] }
    | .raises _ reason => .error reason
  else .error (Text.lit ("step is only allowed on a created or paused session, not a " ++
    s!"{s.state.name} one"))

def openGate : Session :=
  { s with gate := true, driver := if s.driver = .waiting then .woken else s.driver }

def stepped : Stretch → Session
  | .returns t => t
  | .awaits t => { t with calls := t.calls ++ [.closing] }
  | .raises t _ => t

def goOn : Call → Session
  | .start =>
    let opened := s.openGate
    { opened with driver := if opened.driver = .absent then .ready else opened.driver }
  | .resume => s.openGate
  | .stop => { s.openGate with driver := .absent }
  | .revealed => stepped (s.behindBar rounded setup)
  | .closing => stepped s.finishing

inductive Event where
  | start
  | pause
  | resume
  | step
  | stop
  /-- The call at a place goes on. -/
  | goOn (place : ℕ)
  | drive
  deriving DecidableEq, Repr

def orRefused : Except Text Session → Session
  | .ok t => t
  | .error _ => s

def apply : Event → Option Session
  | .start => some (s.orRefused s.start)
  | .pause => some (s.orRefused s.pause)
  | .resume => some (s.orRefused s.resume)
  | .step => some (s.orRefused (s.stepOne rounded setup))
  | .stop => some (s.orRefused s.stop)
  | .goOn place =>
    s.calls[place]?.map fun call =>
      goOn rounded setup { s with calls := s.calls.eraseIdx place } call
  | .drive => s.drive rounded setup

end Service

section Events

variable {rounded : ℕ → ℚ → ℚ} {setup : Setup} {s : Session}

def Legal (s t : Session) : Prop := t.state = s.state ∨ t.state ∈ s.state.transitions

inductive Moves (rounded : ℕ → ℚ → ℚ) (setup : Setup) (s t : Session) : Prop
  | rests : t.engine = s.engine → t.revealed = s.revealed → Moves rounded setup s t
  | reveals : ¬ s.exhausted setup → t.engine = step rounded setup s.engine s.revealed →
      t.revealed = s.revealed + 1 → Moves rounded setup s t
  | closes : s.exhausted setup → t.engine = finalise rounded setup s.engine →
      t.revealed = s.revealed → Moves rounded setup s t

theorem create_eq_ok : create setup = .ok s ↔ setup.config.validate = .ok () ∧
    62 ≤ setup.bars.length ∧
    (setup.bars.countP fun bar => Marketdata.ohlcIsConsistent bar = false) = 0 ∧
    s = opened setup := by
  unfold create
  cases setup.config.validate with
  | error reason =>
    refine iff_of_false (fun created => ?_) fun valid => ?_
    · cases created
    · cases valid.1
  | ok _ =>
    rw [and_iff_right rfl]
    refine BacktestConfig.ite_error_eq_ok.trans (and_congr Nat.not_lt ?_)
    refine BacktestConfig.ite_error_eq_ok.trans (and_congr not_not ?_)
    exact ⟨fun created => (Except.ok.inj created).symm, fun same => congrArg Except.ok same.symm⟩

theorem setState_eq_ok {wanted : ReplayState} :
    s.setState wanted = .ok t ↔
      (s.state = wanted ∨ wanted ∈ s.state.transitions) ∧ t = { s with state := wanted } := by
  unfold setState
  by_cases same : s.state = wanted
  · rw [if_neg (not_not.mpr same), and_iff_right (.inl same)]
    exact ⟨fun set => (Except.ok.inj set).symm, fun set => congrArg Except.ok set.symm⟩
  · rw [if_pos same, or_iff_right same, ← ReplayState.checkTransition_eq_ok]
    cases s.state.checkTransition wanted with
    | error reason =>
      refine iff_of_false (fun set => ?_) fun legal => ?_
      · cases set
      · cases legal.1
    | ok _ =>
      rw [and_iff_right rfl]
      exact ⟨fun set => (Except.ok.inj set).symm, fun set => congrArg Except.ok set.symm⟩

theorem command_eq_ok {wanted : ReplayState} {f : Session → Session} :
    (do
      s.state.checkTransition wanted
      let s ← s.setState wanted
      return f s) = .ok t ↔
      wanted ∈ s.state.transitions ∧ t = f { s with state := wanted } := by
  rw [← ReplayState.checkTransition_eq_ok]
  cases checked : s.state.checkTransition wanted with
  | error reason =>
    refine iff_of_false (fun done => ?_) fun legal => ?_
    · cases done
    · cases legal.1
  | ok _ =>
    have set : s.setState wanted = .ok { s with state := wanted } :=
      setState_eq_ok.mpr ⟨.inr (ReplayState.checkTransition_eq_ok.mp checked), rfl⟩
    rw [and_iff_right rfl]
    rw [set]
    exact ⟨fun done => (Except.ok.inj done).symm, fun done => congrArg Except.ok done.symm⟩

theorem start_eq_ok : s.start = .ok t ↔ .running ∈ s.state.transitions ∧
    t = { s with state := .running, calls := s.calls ++ [.start] } :=
  command_eq_ok (f := fun s => { s with calls := s.calls ++ [.start] })

theorem resume_eq_ok : s.resume = .ok t ↔ .running ∈ s.state.transitions ∧
    t = { s with state := .running, calls := s.calls ++ [.resume] } :=
  command_eq_ok (f := fun s => { s with calls := s.calls ++ [.resume] })

theorem stop_eq_ok : s.stop = .ok t ↔ .stopped ∈ s.state.transitions ∧
    t = { s with state := .stopped, calls := s.calls ++ [.stop] } :=
  command_eq_ok (f := fun s => { s with calls := s.calls ++ [.stop] })

theorem pause_eq_ok : s.pause = .ok t ↔ .paused ∈ s.state.transitions ∧
    t = { s with state := .paused, gate := false } := by
  rw [← ReplayState.checkTransition_eq_ok]
  unfold pause
  cases checked : s.state.checkTransition .paused with
  | error reason =>
    refine iff_of_false (fun done => ?_) fun legal => ?_
    · cases done
    · cases legal.1
  | ok _ =>
    rw [and_iff_right rfl]
    change setState { s with gate := false } .paused = _ ↔ _
    rw [setState_eq_ok, and_iff_right (.inr (ReplayState.checkTransition_eq_ok.mp checked))]

theorem finishing_cases (s : Session) :
    (s.state.terminal = true ∧ s.finishing = .returns s) ∨
      (s.state = .running ∧ s.finishing = .returns { s with state := .completed }) ∨
      ((s.state = .created ∨ s.state = .paused) ∧ ∃ reason, s.finishing = .raises s reason) := by
  unfold finishing finish setState
  cases state : s.state with
  | completed | stopped | failed => exact .inl ⟨rfl, rfl⟩
  | running => exact .inr (.inl ⟨rfl, rfl⟩)
  | created => exact .inr (.inr ⟨.inl rfl, _, rfl⟩)
  | paused => exact .inr (.inr ⟨.inr rfl, _, rfl⟩)

theorem stepOne_eq_ok : s.stepOne rounded setup = .ok t ↔
    (s.state = .created ∨ s.state = .paused) ∧ ¬ s.exhausted setup ∧
      t = { s with
        revealed := s.revealed + 1
        engine := step rounded setup s.engine s.revealed
        calls := s.calls ++ [.revealed] } := by
  unfold stepOne oneBar
  by_cases idle : s.state = .created ∨ s.state = .paused
  · rw [if_pos idle, and_iff_right idle]
    by_cases past : s.exhausted setup
    · rw [if_pos past]
      refine iff_of_false (fun done => ?_) fun left => left.1 past
      rcases finishing_cases s with ⟨terminal, -⟩ | ⟨running, -⟩ | ⟨-, reason, raises⟩
      · rcases idle with state | state <;> rw [state] at terminal <;> cases terminal
      · rcases idle with state | state <;> rw [state] at running <;> cases running
      · rw [raises] at done
        cases done
    · rw [if_neg past, and_iff_right past]
      exact ⟨fun done => (Except.ok.inj done).symm, fun done => congrArg Except.ok done.symm⟩
  · rw [if_neg idle]
    exact iff_of_false (fun done => by cases done) fun left => idle left.1

theorem orRefused_cases (answer : Except Text Session) :
    s.orRefused answer = s ∨ answer = .ok (s.orRefused answer) := by
  cases answer with
  | error reason => exact .inl rfl
  | ok t => exact .inr rfl

def Stretch.session : Stretch → Session
  | .returns s => s
  | .awaits s => s
  | .raises s _ => s

theorem finishing_frame (s : Session) :
    s.finishing.session.engine = s.engine ∧ s.finishing.session.revealed = s.revealed ∧
      s.finishing.session.driver = s.driver ∧ s.finishing.session.calls = s.calls := by
  rcases finishing_cases s with ⟨-, same⟩ | ⟨-, ended⟩ | ⟨-, reason, raised⟩
  · rw [same]
    exact ⟨rfl, rfl, rfl, rfl⟩
  · rw [ended]
    exact ⟨rfl, rfl, rfl, rfl⟩
  · rw [raised]
    exact ⟨rfl, rfl, rfl, rfl⟩

def closed (rounded : ℕ → ℚ → ℚ) (setup : Setup) (s : Session) : Session :=
  { s with engine := finalise rounded setup s.engine }

theorem behindBar_cases (rounded : ℕ → ℚ → ℚ) (setup : Setup) (s : Session) :
    (¬ s.exhausted setup ∧ s.behindBar rounded setup = .returns s) ∨
      (s.exhausted setup ∧ (s.behindBar rounded setup = .awaits (s.closed rounded setup) ∨
        s.behindBar rounded setup = (s.closed rounded setup).finishing)) := by
  unfold behindBar
  by_cases past : s.exhausted setup
  · rw [if_pos past]
    refine .inr ⟨past, ?_⟩
    split
    · exact .inl rfl
    · exact .inr rfl
  · rw [if_neg past]
    exact .inl ⟨past, rfl⟩

theorem behindBar_frame (rounded : ℕ → ℚ → ℚ) (setup : Setup) (s : Session) :
    (s.behindBar rounded setup).session.driver = s.driver ∧
      (s.behindBar rounded setup).session.calls = s.calls ∧
      (s.behindBar rounded setup).session.revealed = s.revealed ∧
      ((¬ s.exhausted setup ∧ (s.behindBar rounded setup).session.engine = s.engine) ∨
        (s.exhausted setup ∧
          (s.behindBar rounded setup).session.engine = finalise rounded setup s.engine)) := by
  rcases behindBar_cases rounded setup s with ⟨more, same⟩ | ⟨past, awaits | ends⟩
  · rw [same]
    exact ⟨rfl, rfl, rfl, .inl ⟨more, rfl⟩⟩
  · rw [awaits]
    exact ⟨rfl, rfl, rfl, .inr ⟨past, rfl⟩⟩
  · obtain ⟨engine, revealed, driver, calls⟩ := finishing_frame (s.closed rounded setup)
    rw [ends]
    exact ⟨driver, calls, revealed, .inr ⟨past, engine⟩⟩

theorem driven_frame (next : Driver) (stretch : Stretch) :
    (driven next stretch).engine = stretch.session.engine ∧
      (driven next stretch).revealed = stretch.session.revealed ∧
      (driven next stretch).calls = stretch.session.calls ∧
      (((driven next stretch).state = stretch.session.state) ∨
        (.failed ∈ stretch.session.state.transitions ∧ (driven next stretch).state = .failed)) := by
  cases stretch with
  | returns t | awaits t => exact ⟨rfl, rfl, rfl, .inl rfl⟩
  | raises t reason =>
    unfold driven
    dsimp only
    split
    · next failed set =>
      obtain ⟨legal, rfl⟩ := setState_eq_ok.mp set
      refine ⟨rfl, rfl, rfl, ?_⟩
      rcases legal with already | legal
      · exact .inl already.symm
      · exact .inr ⟨legal, rfl⟩
    · exact ⟨rfl, rfl, rfl, .inl rfl⟩

theorem stepped_frame (stretch : Stretch) :
    (stepped stretch).engine = stretch.session.engine ∧
      (stepped stretch).revealed = stretch.session.revealed ∧
      (stepped stretch).driver = stretch.session.driver ∧
      (stepped stretch).state = stretch.session.state := by
  cases stretch <;> exact ⟨rfl, rfl, rfl, rfl⟩

theorem legal_finishing (s : Session) : Legal s s.finishing.session := by
  rcases finishing_cases s with ⟨-, same⟩ | ⟨running, ended⟩ | ⟨-, reason, raised⟩
  · rw [same]
    exact .inl rfl
  · rw [ended]
    refine .inr (show ReplayState.completed ∈ s.state.transitions from ?_)
    rw [running]
    decide
  · rw [raised]
    exact .inl rfl

theorem legal_behindBar (rounded : ℕ → ℚ → ℚ) (setup : Setup) (s : Session) :
    Legal s (s.behindBar rounded setup).session := by
  rcases behindBar_cases rounded setup s with ⟨-, same⟩ | ⟨-, awaits | ends⟩
  · rw [same]
    exact .inl rfl
  · rw [awaits]
    exact .inl rfl
  · rw [ends]
    exact legal_finishing (s.closed rounded setup)

theorem legal_driven {next : Driver} {stretch : Stretch} (legal : Legal s stretch.session)
    (raised : ∀ t reason, stretch = .raises t reason → t.state = s.state) :
    Legal s (driven next stretch) := by
  cases stretch with
  | returns t | awaits t => exact legal
  | raises t reason =>
    have same : t.state = s.state := raised t reason rfl
    obtain ⟨-, -, -, kept | ⟨fails, failed⟩⟩ := driven_frame next (.raises t reason)
    · exact .inl (kept.trans same)
    · exact .inr (by rw [failed, ← same]; exact fails)

theorem raised_finishing {reason : Text} (raised : s.finishing = .raises t reason) : t = s := by
  rcases finishing_cases s with ⟨-, same⟩ | ⟨-, ended⟩ | ⟨-, reason', raised'⟩
  · rw [same] at raised
    cases raised
  · rw [ended] at raised
    cases raised
  · rw [raised'] at raised
    cases raised
    rfl

theorem raised_behindBar {reason : Text} (raised : s.behindBar rounded setup = .raises t reason) :
    t.state = s.state := by
  rcases behindBar_cases rounded setup s with ⟨-, same⟩ | ⟨-, awaits | ends⟩
  · rw [same] at raised
    cases raised
  · rw [awaits] at raised
    cases raised
  · rw [ends] at raised
    rw [raised_finishing raised]
    rfl

theorem drive_cases (taken : s.drive rounded setup = some t) :
    ((s.driver = .ready ∨ s.driver = .woken) ∧
        ((∃ d, (d = .absent ∨ d = .waiting) ∧ t = { s with driver := d }) ∨
          (s.state = .running ∧ s.exhausted setup ∧ t = driven .revealed s.finishing) ∨
          (s.state = .running ∧ ¬ s.exhausted setup ∧ t = { s with
            revealed := s.revealed + 1
            engine := step rounded setup s.engine s.revealed
            driver := .revealed }))) ∨
      (s.driver = .revealed ∧ t = driven .closing (s.behindBar rounded setup)) ∨
      (s.driver = .closing ∧ t = driven .closing s.finishing) := by
  have past : s.pastGate rounded setup = { s with driver := .absent } ∨
      (s.state = .running ∧ s.exhausted setup ∧
        s.pastGate rounded setup = driven .revealed s.finishing) ∨
      (s.state = .running ∧ ¬ s.exhausted setup ∧ s.pastGate rounded setup = { s with
        revealed := s.revealed + 1
        engine := step rounded setup s.engine s.revealed
        driver := .revealed }) := by
    unfold pastGate oneBar
    by_cases running : s.state = .running
    · rw [if_neg (not_not.mpr running)]
      by_cases past : s.exhausted setup
      · rw [if_pos past]
        exact .inr (.inl ⟨running, past, rfl⟩)
      · rw [if_neg past]
        exact .inr (.inr ⟨running, past, rfl⟩)
    · rw [if_pos running]
      exact .inl rfl
  unfold drive at taken
  cases place : s.driver with
  | absent | waiting =>
    rw [place] at taken
    cases taken
  | ready =>
    rw [place] at taken
    dsimp only at taken
    refine .inl ⟨.inl rfl, ?_⟩
    split at taken
    · split at taken
      · cases taken
        exact past.imp_left fun left => ⟨.absent, .inl rfl, left⟩
      · cases taken
        exact .inl ⟨.waiting, .inr rfl, rfl⟩
    · cases taken
      exact .inl ⟨.absent, .inl rfl, rfl⟩
  | woken =>
    rw [place] at taken
    cases taken
    exact .inl ⟨.inr rfl, past.imp_left fun left => ⟨.absent, .inl rfl, left⟩⟩
  | revealed =>
    rw [place] at taken
    cases taken
    exact .inr (.inl ⟨rfl, rfl⟩)
  | closing =>
    rw [place] at taken
    cases taken
    exact .inr (.inr ⟨rfl, rfl⟩)

theorem moves_finishing {u : Session} (engine : u.engine = s.finishing.session.engine)
    (revealed : u.revealed = s.finishing.session.revealed) : Moves rounded setup s u :=
  .rests (engine.trans (finishing_frame s).1) (revealed.trans (finishing_frame s).2.1)

theorem moves_behindBar {u : Session}
    (engine : u.engine = (s.behindBar rounded setup).session.engine)
    (revealed : u.revealed = (s.behindBar rounded setup).session.revealed) :
    Moves rounded setup s u := by
  obtain ⟨-, -, same, ⟨-, rests⟩ | ⟨past, closes⟩⟩ := behindBar_frame rounded setup s
  · exact .rests (engine.trans rests) (revealed.trans same)
  · exact .closes past (engine.trans closes) (revealed.trans same)

variable (rounded setup s) in
theorem goOn_spec (call : Call) :
    Moves rounded setup s (s.goOn rounded setup call) ∧
      Legal s (s.goOn rounded setup call) := by
  cases call with
  | start | resume | stop => exact ⟨.rests rfl rfl, .inl rfl⟩
  | revealed =>
    obtain ⟨engine, revealed, -, state⟩ := stepped_frame (s.behindBar rounded setup)
    refine ⟨moves_behindBar engine revealed, ?_⟩
    unfold Legal goOn
    rw [state]
    exact legal_behindBar rounded setup s
  | closing =>
    obtain ⟨engine, revealed, -, state⟩ := stepped_frame s.finishing
    refine ⟨moves_finishing engine revealed, ?_⟩
    unfold Legal goOn
    rw [state]
    exact legal_finishing s

theorem drive_spec (taken : s.drive rounded setup = some t) :
    Moves rounded setup s t ∧ Legal s t := by
  have finishes (next : Driver) : Moves rounded setup s (driven next s.finishing) ∧
      Legal s (driven next s.finishing) := by
    obtain ⟨engine, revealed, -, -⟩ := driven_frame next s.finishing
    exact ⟨moves_finishing engine revealed, legal_driven (legal_finishing s)
      fun t reason raised => congrArg state (raised_finishing raised)⟩
  rcases drive_cases taken with
    ⟨-, ⟨d, -, rfl⟩ | ⟨-, -, rfl⟩ | ⟨-, more, rfl⟩⟩ | ⟨-, rfl⟩ | ⟨-, rfl⟩
  · exact ⟨.rests rfl rfl, .inl rfl⟩
  · exact finishes .revealed
  · exact ⟨.reveals more rfl rfl, .inl rfl⟩
  · obtain ⟨engine, revealed, -, -⟩ := driven_frame .closing (s.behindBar rounded setup)
    exact ⟨moves_behindBar engine revealed, legal_driven (legal_behindBar rounded setup s)
      fun t reason raised => raised_behindBar raised⟩
  · exact finishes .closing

inductive Commanded (rounded : ℕ → ℚ → ℚ) (setup : Setup) (s : Session) (e : Event) :
    Session → Prop
  | refused : Commanded rounded setup s e s
  | moved (wanted : ReplayState) (gate : Bool) (calls : List Call)
      (legal : wanted ∈ s.state.transitions)
      (which : wanted = .running ∨ e = .pause ∨ e = .stop)
      (awaits : ∀ call ∈ calls, call ≠ .closing ∧ (call = .stop → wanted = .stopped)) :
      Commanded rounded setup s e { s with state := wanted, gate, calls := s.calls ++ calls }
  | stepped (which : e = .step) (idle : s.state = .created ∨ s.state = .paused)
      (more : ¬ s.exhausted setup) :
      Commanded rounded setup s e { s with
        revealed := s.revealed + 1
        engine := step rounded setup s.engine s.revealed
        calls := s.calls ++ [.revealed] }

theorem apply_cases {e : Event} (taken : s.apply rounded setup e = some t) :
    Commanded rounded setup s e t ∨
      (∃ place call, t = goOn rounded setup { s with calls := s.calls.eraseIdx place } call ∧
        call ∈ s.calls) ∨
      s.drive rounded setup = some t := by
  cases e with
  | start =>
    cases taken
    rcases orRefused_cases (s := s) s.start with same | done
    · rw [same]
      exact .inl .refused
    · obtain ⟨legal, begun⟩ := start_eq_ok.mp done
      rw [begun]
      exact .inl (.moved .running s.gate [.start] legal (.inl rfl) (by decide))
  | pause =>
    cases taken
    rcases orRefused_cases (s := s) s.pause with same | done
    · rw [same]
      exact .inl .refused
    · obtain ⟨legal, paused⟩ := pause_eq_ok.mp done
      rw [paused, ← List.append_nil s.calls]
      exact .inl (.moved .paused false [] legal (.inr (.inl rfl)) (by decide))
  | resume =>
    cases taken
    rcases orRefused_cases (s := s) s.resume with same | done
    · rw [same]
      exact .inl .refused
    · obtain ⟨legal, begun⟩ := resume_eq_ok.mp done
      rw [begun]
      exact .inl (.moved .running s.gate [.resume] legal (.inl rfl) (by decide))
  | step =>
    cases taken
    rcases orRefused_cases (s := s) (s.stepOne rounded setup) with same | done
    · rw [same]
      exact .inl .refused
    · obtain ⟨idle, more, stepped⟩ := stepOne_eq_ok.mp done
      rw [stepped]
      exact .inl (.stepped rfl idle more)
  | stop =>
    cases taken
    rcases orRefused_cases (s := s) s.stop with same | done
    · rw [same]
      exact .inl .refused
    · obtain ⟨legal, stopped⟩ := stop_eq_ok.mp done
      rw [stopped]
      exact .inl (.moved .stopped s.gate [.stop] legal (.inr (.inr rfl)) (by decide))
  | goOn place =>
    obtain ⟨call, held, rfl⟩ := Option.map_eq_some_iff.mp taken
    exact .inr (.inl ⟨place, call, rfl, List.mem_of_getElem? held⟩)
  | drive => exact .inr (.inr taken)

theorem apply_spec {e : Event} (taken : s.apply rounded setup e = some t) :
    Moves rounded setup s t ∧ Legal s t := by
  rcases apply_cases taken with commanded | ⟨place, call, rfl, -⟩ | driven
  · cases commanded with
    | refused => exact ⟨.rests rfl rfl, .inl rfl⟩
    | moved wanted gate calls legal which awaits => exact ⟨.rests rfl rfl, .inr legal⟩
    | stepped which idle more => exact ⟨.reveals more rfl rfl, .inl rfl⟩
  · obtain ⟨moves, legal⟩ := goOn_spec rounded setup
      { s with calls := s.calls.eraseIdx place } call
    refine ⟨?_, legal⟩
    cases moves with
    | rests engine revealed => exact .rests engine revealed
    | reveals more engine revealed => exact .reveals more engine revealed
    | closes past engine revealed => exact .closes past engine revealed
  · exact drive_spec driven

end Events

end Session

end TradeResearch.Replay
