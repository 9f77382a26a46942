import TradeResearch.Lib.Run
import TradeResearch.Replay.Service

/-!
# The control of a session

A session is stepped by hand, driven, paused and resumed in any order: that does not show in what
its engine is given, and each move is one its table allows. That a session whose data has ended is
completed holds where the end of the data is left to the driver: `_finish` raises on a session that
is not running.

* `Inv` says what holds of a session whatever it is told, `Due` what holds where nobody takes the
  end of the data from the driver.
* `transparent_along`: every run in which nobody does is a replay, and ends completed.
-/

namespace TradeResearch.Replay

open Backtest

namespace Session

section Invariants

variable {rounded : ℕ → ℚ → ℚ} {setup : Setup} {s : Session}

def Fed (rounded : ℕ → ℚ → ℚ) (setup : Setup) (s : Session) : Prop :=
  s.engine = feed rounded setup s.revealed ∨
    (s.exhausted setup ∧ s.engine = runToCompletion rounded setup)

structure Inv (rounded : ℕ → ℚ → ℚ) (setup : Setup) (s : Session) : Prop where
  fed : Fed rounded setup s
  within : s.revealed ≤ setup.bars.length
  closed : s.driver = .closing ∨ .closing ∈ s.calls →
    s.exhausted setup ∧ s.engine = runToCompletion rounded setup
  stopping : .stop ∈ s.calls → s.state.terminal = true

def Completing (rounded : ℕ → ℚ → ℚ) (setup : Setup) (s : Session) : Prop :=
  (s.state = .completed ∧ s.engine = runToCompletion rounded setup) ∨
    (s.state = .running ∧ (s.driver = .revealed ∨ s.driver = .closing))

def Due (rounded : ℕ → ℚ → ℚ) (setup : Setup) (s : Session) : Prop :=
  s.exhausted setup → Completing rounded setup s

def Careful (setup : Setup) (s : Session) : Event → Prop
  | .step => s.state = .created ∨ s.state = .paused → s.revealed + 1 ≠ setup.bars.length
  | .pause | .stop => s.exhausted setup → s.state.terminal = true
  | _ => True

instance decidableCareful : ∀ e, Decidable (Careful setup s e)
  | .step => inferInstanceAs (Decidable (_ ∨ _ → _ ≠ _))
  | .pause => inferInstanceAs (Decidable (_ → _))
  | .stop => inferInstanceAs (Decidable (_ → _))
  | .start => isTrue True.intro
  | .resume => isTrue True.intro
  | .goOn _ => isTrue True.intro
  | .drive => isTrue True.intro

def AtRest (s : Session) : Prop :=
  s.calls = [] ∧ (s.driver = .absent ∨ s.driver = .waiting)

theorem finalise_of_exhausted (fed : Fed rounded setup s) (within : s.revealed ≤ setup.bars.length)
    (past : s.exhausted setup) :
    finalise rounded setup s.engine = runToCompletion rounded setup := by
  rcases fed with open_ | ⟨-, closed⟩
  · have all : s.revealed = setup.bars.length := le_antisymm within past
    rw [open_, all]
    rfl
  · rw [closed]
    exact finalise_finalise rounded setup _

theorem fed_of_moves (fed : Fed rounded setup s) (within : s.revealed ≤ setup.bars.length)
    (moves : Moves rounded setup s t) :
    Fed rounded setup t ∧ t.revealed ≤ setup.bars.length := by
  unfold Fed exhausted at *
  cases moves with
  | rests engine revealed =>
    rw [engine, revealed]
    exact ⟨fed, within⟩
  | reveals more engine revealed =>
    unfold exhausted at more
    rw [engine, revealed]
    refine ⟨.inl ?_, by omega⟩
    rw [fed.resolve_right fun past => more past.1, feed_succ]
  | closes past engine revealed =>
    rw [engine, revealed]
    exact ⟨.inr ⟨past, finalise_of_exhausted fed within past⟩, within⟩

theorem finishing_ne_awaits : s.finishing ≠ .awaits t := by
  intro awaits
  rcases finishing_cases s with ⟨-, same⟩ | ⟨-, ended⟩ | ⟨-, reason, raised⟩
  · rw [same] at awaits
    cases awaits
  · rw [ended] at awaits
    cases awaits
  · rw [raised] at awaits
    cases awaits

theorem awaits_behindBar (awaits : s.behindBar rounded setup = .awaits t) :
    s.exhausted setup ∧ t = s.closed rounded setup := by
  rcases behindBar_cases rounded setup s with ⟨-, same⟩ | ⟨past, awaits' | ends⟩
  · rw [same] at awaits
    cases awaits
  · rw [awaits'] at awaits
    cases awaits
    exact ⟨past, rfl⟩
  · rw [ends] at awaits
    exact absurd awaits finishing_ne_awaits

theorem driver_driven {next : Driver} {stretch : Stretch}
    (closing : (driven next stretch).driver = .closing) : ∃ u, stretch = .awaits u := by
  cases stretch with
  | returns u =>
    unfold driven at closing
    dsimp only at closing
    split at closing <;> cases closing
  | awaits u => exact ⟨u, rfl⟩
  | raises u reason =>
    unfold driven at closing
    dsimp only at closing
    split at closing
    · next failed set =>
      obtain ⟨-, rfl⟩ := setState_eq_ok.mp set
      cases closing
    · cases closing

theorem calls_stepped {stretch : Stretch} {call : Call} (held : call ∈ (stepped stretch).calls) :
    call ∈ stretch.session.calls ∨ (call = .closing ∧ ∃ u, stretch = .awaits u) := by
  cases stretch with
  | returns u => exact .inl held
  | awaits u =>
    rcases List.mem_append.mp held with before | new
    · exact .inl before
    · exact .inr ⟨List.mem_singleton.mp new, u, rfl⟩
  | raises u reason => exact .inl held

def Closing (s : Session) : Prop := s.driver = .closing ∨ .closing ∈ s.calls

theorem closing_goOn {call : Call} (closing : (s.goOn rounded setup call).Closing) :
    s.Closing ∨ (s.exhausted setup ∧
      (s.goOn rounded setup call).engine = finalise rounded setup s.engine) := by
  cases call with
  | start | resume =>
    refine .inl (closing.imp_left fun here => ?_)
    unfold goOn openGate at here
    dsimp only at here
    split_ifs at here
    exact here
  | stop =>
    rcases closing with here | held
    · cases here
    · exact .inl (.inr held)
  | revealed =>
    obtain ⟨engine, -, driver, -⟩ := stepped_frame (s.behindBar rounded setup)
    obtain ⟨driver', calls, -, -⟩ := behindBar_frame rounded setup s
    rcases closing with here | held
    · exact .inl (.inl (driver'.symm.trans (driver.symm.trans here)))
    · rcases calls_stepped held with before | ⟨-, u, awaits⟩
      · exact .inl (.inr (calls ▸ before))
      · obtain ⟨past, rfl⟩ := awaits_behindBar awaits
        refine .inr ⟨past, engine.trans ?_⟩
        rw [awaits]
        rfl
  | closing =>
    obtain ⟨-, -, driver, -⟩ := stepped_frame s.finishing
    obtain ⟨-, -, driver', calls⟩ := finishing_frame s
    rcases closing with here | held
    · exact .inl (.inl (driver'.symm.trans (driver.symm.trans here)))
    · rcases calls_stepped held with before | ⟨-, u, awaits⟩
      · exact .inl (.inr (calls ▸ before))
      · exact absurd awaits finishing_ne_awaits

theorem closing_drive (taken : s.drive rounded setup = some t) (closing : t.Closing) :
    s.Closing ∨ (s.exhausted setup ∧ t.engine = finalise rounded setup s.engine) := by
  have finishes (next : Driver) (closing : (driven next s.finishing).Closing) : s.Closing := by
    obtain ⟨-, -, calls, -⟩ := driven_frame next s.finishing
    rcases closing with here | held
    · obtain ⟨u, awaits⟩ := driver_driven here
      exact absurd awaits finishing_ne_awaits
    · rw [calls, (finishing_frame s).2.2.2] at held
      exact .inr held
  rcases drive_cases taken with
    ⟨-, ⟨d, leaves, rfl⟩ | ⟨-, -, rfl⟩ | ⟨-, -, rfl⟩⟩ | ⟨-, rfl⟩ | ⟨-, rfl⟩
  · refine .inl (closing.imp_left fun here => ?_)
    obtain rfl : d = .closing := here
    rcases leaves with left | waits
    · cases left
    · cases waits
  · exact .inl (finishes .revealed closing)
  · refine .inl (closing.imp_left fun here => ?_)
    cases here
  · obtain ⟨engine, -, calls, -⟩ := driven_frame .closing (s.behindBar rounded setup)
    rcases closing with here | held
    · obtain ⟨u, awaits⟩ := driver_driven here
      obtain ⟨past, rfl⟩ := awaits_behindBar awaits
      refine .inr ⟨past, engine.trans ?_⟩
      rw [awaits]
      rfl
    · rw [calls, (behindBar_frame rounded setup s).2.1] at held
      exact .inl (.inr held)
  · exact .inl (finishes .closing closing)

theorem stop_goOn {call : Call} (held : .stop ∈ (s.goOn rounded setup call).calls) :
    .stop ∈ s.calls := by
  cases call with
  | start | resume | stop => exact held
  | revealed =>
    rcases calls_stepped held with before | ⟨other, -⟩
    · rwa [(behindBar_frame rounded setup s).2.1] at before
    · cases other
  | closing =>
    rcases calls_stepped held with before | ⟨other, -⟩
    · rwa [(finishing_frame s).2.2.2] at before
    · cases other

theorem calls_drive (taken : s.drive rounded setup = some t) : t.calls = s.calls := by
  rcases drive_cases taken with
    ⟨-, ⟨d, -, rfl⟩ | ⟨-, -, rfl⟩ | ⟨-, -, rfl⟩⟩ | ⟨-, rfl⟩ | ⟨-, rfl⟩
  · rfl
  · exact (driven_frame .revealed _).2.2.1.trans (finishing_frame s).2.2.2
  · rfl
  · exact (driven_frame .closing _).2.2.1.trans (behindBar_frame rounded setup s).2.1
  · exact (driven_frame .closing _).2.2.1.trans (finishing_frame s).2.2.2

theorem inv_create (created : create setup = .ok s) : Inv rounded setup s := by
  obtain ⟨-, -, -, rfl⟩ := create_eq_ok.mp created
  refine ⟨.inl rfl, Nat.zero_le _, fun closing => ?_, fun held => ?_⟩
  · rcases closing with here | held
    · cases here
    · exact absurd held List.not_mem_nil
  · exact absurd held List.not_mem_nil

theorem due_create (created : create setup = .ok s) : Due rounded setup s := by
  obtain ⟨-, some_, -, rfl⟩ := create_eq_ok.mp created
  intro past
  exact absurd (some_.trans (show setup.bars.length ≤ 0 from past)) (by decide)

theorem ended_of_moves (inv : Inv rounded setup s) (moves : Moves rounded setup s t)
    (past : s.exhausted setup) (ended : s.engine = runToCompletion rounded setup ∨
      t.engine = finalise rounded setup s.engine) :
    t.exhausted setup ∧ t.engine = runToCompletion rounded setup := by
  have finalised := finalise_of_exhausted inv.fed inv.within past
  unfold exhausted at *
  cases moves with
  | rests engine revealed =>
    rw [revealed]
    refine ⟨past, ?_⟩
    rcases ended with ended | ended
    · exact engine.trans ended
    · exact ended.trans finalised
  | reveals more => exact absurd past more
  | closes _ engine revealed =>
    rw [revealed]
    exact ⟨past, engine.trans finalised⟩

theorem state_of_terminal (legal : Legal s t) (past : s.state.terminal = true) :
    t.state = s.state := by
  rcases legal with same | moved
  · exact same
  · rw [(ReplayState.terminal_iff_transitions_nil _).mp past] at moved
    cases moved

theorem inv_apply {e : Event} (inv : Inv rounded setup s)
    (taken : s.apply rounded setup e = some t) : Inv rounded setup t := by
  obtain ⟨moves, legal⟩ := apply_spec taken
  obtain ⟨fed, within⟩ := fed_of_moves inv.fed inv.within moves
  have terminal (past : s.state.terminal = true) : t.state.terminal = true := by
    rw [state_of_terminal legal past]
    exact past
  have kept (closing : s.Closing) :
      t.exhausted setup ∧ t.engine = runToCompletion rounded setup :=
    ended_of_moves inv moves (inv.closed closing).1 (.inl (inv.closed closing).2)
  rcases apply_cases taken with commanded | ⟨place, call, rfl, held⟩ | driven
  · refine ⟨fed, within, fun closing => ?_, fun held => ?_⟩
    · refine kept (closing.imp ?_ ?_)
      · cases commanded <;> exact id
      · intro held
        cases commanded with
        | refused => exact held
        | moved wanted gate calls legal which awaits =>
          exact (List.mem_append.mp held).resolve_right fun new => (awaits _ new).1 rfl
        | stepped which idle more =>
          refine (List.mem_append.mp held).resolve_right fun new => ?_
          cases List.mem_singleton.mp new
    · cases commanded with
      | refused => exact inv.stopping held
      | moved wanted gate calls legal which awaits =>
        rcases List.mem_append.mp held with before | new
        · exact terminal (inv.stopping before)
        · rw [(awaits _ new).2 rfl]
          rfl
      | stepped which idle more =>
        rcases List.mem_append.mp held with before | new
        · exact terminal (inv.stopping before)
        · cases List.mem_singleton.mp new
  · refine ⟨fed, within, fun closing => ?_, fun there => ?_⟩
    · rcases closing_goOn closing with before | ⟨past, ended⟩
      · exact kept (before.imp_right List.mem_of_mem_eraseIdx)
      · exact ended_of_moves inv moves past (.inr ended)
    · exact terminal (inv.stopping (List.mem_of_mem_eraseIdx (stop_goOn there)))
  · refine ⟨fed, within, fun closing => ?_, fun there => ?_⟩
    · rcases closing_drive driven closing with before | ⟨past, ended⟩
      · exact kept before
      · exact ended_of_moves inv moves past (.inr ended)
    · rw [calls_drive driven] at there
      exact terminal (inv.stopping there)

theorem behindBar_of_running (inv : Inv rounded setup s) (past : s.exhausted setup)
    (running : s.state = .running) :
    s.behindBar rounded setup = .awaits (s.closed rounded setup) ∨
      s.behindBar rounded setup =
        .returns { s with
          state := .completed
          engine := runToCompletion rounded setup } := by
  rcases behindBar_cases rounded setup s with ⟨more, -⟩ | ⟨-, awaits | ends⟩
  · exact absurd past more
  · exact .inl awaits
  · right
    rw [ends]
    rcases finishing_cases (s.closed rounded setup) with ⟨terminal, -⟩ | ⟨-, ended⟩ | ⟨idle, -⟩
    · rw [show (s.closed rounded setup).state = .running from running] at terminal
      cases terminal
    · rw [ended, ← finalise_of_exhausted inv.fed inv.within past]
      rfl
    · rw [show (s.closed rounded setup).state = .running from running] at idle
      rcases idle with idle | idle <;> cases idle

theorem finishing_of_running (running : s.state = .running) :
    s.finishing = .returns { s with state := .completed } := by
  rcases finishing_cases s with ⟨terminal, -⟩ | ⟨-, ended⟩ | ⟨idle, -⟩
  · rw [running] at terminal
    cases terminal
  · exact ended
  · rw [running] at idle
    rcases idle with idle | idle <;> cases idle

theorem completing_goOn {call : Call} (inv : Inv rounded setup s) (past : s.exhausted setup)
    (running : s.state = .running) (ends : s.driver = .revealed ∨ s.driver = .closing)
    (stopping : call ≠ .stop)
    (closed : call = .closing → s.engine = runToCompletion rounded setup) :
    Completing rounded setup (s.goOn rounded setup call) := by
  have woken : s.openGate.driver = s.driver := by
    unfold openGate
    rcases ends with place | place <;> rw [place] <;> rfl
  cases call with
  | start =>
    refine .inr ⟨running, ?_⟩
    unfold goOn
    dsimp only
    rw [woken]
    rcases ends with place | place
    · rw [place]
      exact .inl rfl
    · rw [place]
      exact .inr rfl
  | resume =>
    refine .inr ⟨running, ?_⟩
    unfold goOn
    rwa [woken]
  | stop => exact absurd rfl stopping
  | revealed =>
    unfold goOn
    rcases behindBar_of_running inv past running with awaits | ended
    · rw [awaits]
      exact .inr ⟨running, ends⟩
    · rw [ended]
      exact .inl ⟨rfl, rfl⟩
  | closing =>
    unfold goOn
    rw [finishing_of_running running]
    exact .inl ⟨rfl, closed rfl⟩

theorem revealed_goOn (call : Call) : (s.goOn rounded setup call).revealed = s.revealed := by
  cases call with
  | start | resume | stop => rfl
  | revealed => exact (stepped_frame _).2.1.trans (behindBar_frame rounded setup s).2.2.1
  | closing => exact (stepped_frame _).2.1.trans (finishing_frame s).2.1

theorem due_apply {e : Event} (inv : Inv rounded setup s) (due : Due rounded setup s)
    (careful : Careful setup s e) (taken : s.apply rounded setup e = some t) :
    Due rounded setup t := by
  intro after
  obtain ⟨moves, legal⟩ := apply_spec taken
  by_cases past : s.exhausted setup
  · rcases due past with ⟨completed, ended⟩ | ⟨running, ends⟩
    · -- what is over stays over
      refine .inl ⟨?_, (ended_of_moves inv moves past (.inl ended)).2⟩
      rw [state_of_terminal legal (by rw [completed]; rfl)]
      exact completed
    · have alive : ¬ s.state.terminal = true := by
        rw [running]
        decide
      rcases apply_cases taken with commanded | ⟨place, call, rfl, held⟩ | driven
      · cases commanded with
        | refused => exact due past
        | moved wanted gate calls allowed which awaits =>
          rw [running] at allowed
          rcases which with rfl | rfl | rfl
          · exact absurd allowed (by decide)
          · exact absurd (careful past) alive
          · exact absurd (careful past) alive
        | stepped which idle more => exact absurd past more
      · refine completing_goOn (s := { s with calls := s.calls.eraseIdx place }) ?_ past running
          ends ?_ ?_
        · exact ⟨inv.fed, inv.within,
            fun closing => inv.closed (closing.imp_right List.mem_of_mem_eraseIdx),
            fun there => inv.stopping (List.mem_of_mem_eraseIdx there)⟩
        · rintro rfl
          exact alive (inv.stopping held)
        · rintro rfl
          exact (inv.closed (.inr held)).2
      · rcases drive_cases driven with ⟨place, -⟩ | ⟨-, rfl⟩ | ⟨place, rfl⟩
        · rcases ends with ends | ends <;> rw [ends] at place <;>
            rcases place with place | place <;> cases place
        · rcases behindBar_of_running inv past running with awaits | ended
          · rw [awaits]
            exact .inr ⟨running, .inr rfl⟩
          · rw [ended]
            exact .inl ⟨rfl, rfl⟩
        · rw [finishing_of_running running]
          exact .inl ⟨rfl, (inv.closed (.inl place)).2⟩
  · -- the event reveals the last bar, and is a turn of the driver
    have reveals (same : t.revealed = s.revealed) : Completing rounded setup t := by
      unfold exhausted at after past
      rw [same] at after
      exact absurd after past
    rcases apply_cases taken with commanded | ⟨place, call, rfl, -⟩ | driven
    · cases commanded with
      | refused | moved wanted gate calls allowed which awaits => exact reveals rfl
      | stepped which idle more =>
        subst which
        have early := careful idle
        unfold exhausted at after past
        dsimp only at after
        omega
    · exact reveals (revealed_goOn call)
    · rcases drive_cases driven with
        ⟨-, ⟨d, -, rfl⟩ | ⟨-, ended, -⟩ | ⟨running, -, rfl⟩⟩ | ⟨-, rfl⟩ | ⟨-, rfl⟩
      · exact reveals rfl
      · exact absurd ended past
      · exact .inr ⟨running, .inl rfl⟩
      · exact reveals ((driven_frame .closing _).2.1.trans (behindBar_frame rounded setup s).2.2.1)
      · exact reveals ((driven_frame .closing _).2.1.trans (finishing_frame s).2.1)

end Invariants

section Runs

variable {rounded : ℕ → ℚ → ℚ} {setup : Setup}

def Completed (rounded : ℕ → ℚ → ℚ) (setup : Setup) (s : Session) : Prop :=
  s.state = .completed ∧
    s.engine.portfolio.trades = (runToCompletion rounded setup).portfolio.trades

structure Transparent (rounded : ℕ → ℚ → ℚ) (setup : Setup) (s : Session) : Prop where
  fed : Fed rounded setup s
  ends : s.exhausted setup → ∃ turns ≤ 2, ∃ t,
    Run.exec (apply rounded setup) s (List.replicate turns .drive) = some t ∧
      Completed rounded setup t
  rests : s.exhausted setup → s.AtRest → Completed rounded setup s

theorem ends_of_closing (inv : Inv rounded setup s) (running : s.state = .running)
    (place : s.driver = .closing) :
    ∃ t, s.drive rounded setup = some t ∧ Completed rounded setup t := by
  refine ⟨driven .closing s.finishing, ?_, ?_⟩
  · unfold drive
    rw [place]
  · rw [finishing_of_running running]
    exact ⟨rfl, congrArg (·.portfolio.trades) (inv.closed (.inl place)).2⟩

theorem transparent_of_due (inv : Inv rounded setup s) (due : Due rounded setup s) :
    Transparent rounded setup s := by
  refine ⟨inv.fed, fun past => ?_, fun past rest => ?_⟩
  · rcases due past with ⟨completed, ended⟩ | ⟨running, place | place⟩
    · exact ⟨0, Nat.zero_le 2, s, rfl, completed, congrArg (·.portfolio.trades) ended⟩
    · have taken : s.apply rounded setup .drive =
          some (driven .closing (s.behindBar rounded setup)) := by
        unfold apply drive
        rw [place]
      rcases behindBar_of_running inv past running with awaits | ended
      · rw [awaits] at taken
        obtain ⟨t, ends, completed⟩ := ends_of_closing (inv_apply inv taken) running rfl
        refine ⟨2, le_rfl, t, ?_, completed⟩
        exact Run.exec_cons_eq_some.mpr ⟨_, taken, Run.exec_cons_eq_some.mpr ⟨t, ends, rfl⟩⟩
      · rw [ended] at taken
        refine ⟨1, by decide, _, Run.exec_cons_eq_some.mpr ⟨_, taken, rfl⟩, rfl, rfl⟩
    · obtain ⟨t, ends, completed⟩ := ends_of_closing inv running place
      exact ⟨1, by decide, t, Run.exec_cons_eq_some.mpr ⟨t, ends, rfl⟩, completed⟩
  · rcases due past with ⟨completed, ended⟩ | ⟨-, place⟩
    · exact ⟨completed, congrArg (·.portfolio.trades) ended⟩
    · rcases rest.2 with rest | rest <;> rw [rest] at place <;>
        rcases place with place | place <;> cases place

/-- In every run in which the last bar is left to the driver, the control of the session does not
show, and each event leads to a state the table allows. -/
theorem transparent_along (created : create setup = .ok s) (events : List Event)
    (careful : Run.Meets (apply rounded setup) (Careful setup) s events) :
    Run.Along (apply rounded setup) (Transparent rounded setup) s events ∧
      Run.Steps (apply rounded setup) Legal s events := by
  have initial : Inv rounded setup s ∧ Due rounded setup s :=
    ⟨inv_create created, due_create created⟩
  have preserved (s : Session) (e : Event) (t : Session)
      (held : Inv rounded setup s ∧ Due rounded setup s) (careful : Careful setup s e)
      (taken : s.apply rounded setup e = some t) :
      (Inv rounded setup t ∧ Due rounded setup t) ∧ Legal s t :=
    ⟨⟨inv_apply held.1 taken, due_apply held.1 held.2 careful taken⟩, (apply_spec taken).2⟩
  have along := Run.along_of_meets
    (fun s e t held careful taken => (preserved s e t held careful taken).1) initial careful
  exact ⟨along.mono fun s held => transparent_of_due held.1 held.2,
    Run.steps_of_meets preserved initial careful⟩

def idle : Setup :=
  { config := plain
    strategy :=
      { key := "idle"
        generateSignal := fun candles now => .ok (Strategies.noSignal "idle" candles now []) }
    bars := (List.range 62).map calm
    atr := Tools.atrSeries ((List.range 62).map calm) 14
    risk := permissive
    accountId := none }

theorem created_idle : create idle = .ok (opened idle) :=
  create_eq_ok.mpr ⟨validate_plain, by decide, by decide +kernel, rfl⟩

def mixed : List Event :=
  [.step, .goOn 0, .step, .start, .goOn 0, .goOn 0] ++ List.replicate 120 .drive

theorem transparent_along_mixed :
    ((Run.exec (apply unrounded idle) (opened idle) mixed).map state) = some .completed ∧
      Run.Along (apply unrounded idle) (Transparent unrounded idle) (opened idle) mixed ∧
      Run.Steps (apply unrounded idle) Legal (opened idle) mixed :=
  ⟨by decide +kernel, transparent_along created_idle mixed (by decide +kernel)⟩

def byHand : List Event := (List.replicate 62 [.step, .goOn 0]).flatten

/-- The last bar is revealed by hand: the session may not be completed from there, and stays. -/
theorem not_forall_transparent_along :
    ¬ ∀ rounded setup s events, create setup = .ok s →
      Run.Along (apply rounded setup) (Transparent rounded setup) s events := by
  intro all
  have ran : ((Run.exec (apply unrounded idle) (opened idle) byHand).map fun t =>
      (t.state, t.revealed, t.calls, t.driver)) = some (.created, 62, [], .absent) := by
    decide +kernel
  obtain ⟨t, ran, told⟩ := Option.map_eq_some_iff.mp ran
  have last := (all unrounded idle _ byHand created_idle).last ran
  have past : t.exhausted idle := by
    unfold exhausted
    rw [show t.revealed = 62 from congrArg (·.2.1) told]
    decide
  have rest : t.AtRest := ⟨congrArg (·.2.2.1) told, .inl (congrArg (·.2.2.2) told)⟩
  have completed := (last.rests past rest).1
  rw [show t.state = .created from congrArg (·.1) told] at completed
  cases completed

end Runs

end Session

end TradeResearch.Replay
