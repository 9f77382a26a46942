import TradeResearch.Bots.Runner

/-!
# What an operator decided

Restarts and the commands of operators. A run somebody paused beats no more than a crashed one, and
the supervisor tells them apart by the row alone: once the row of a paused run says crashed, nothing
remembers that it was paused.

* `AtRest` says that no run an operator holds is crashed or being restarted.
* `NeverRevives` says of a step that it starts no restart of a held run.
* `IntentKept` is what a step needs for it: no row of a held run is marked crashed.
* `neverRevives_steps` is the result over whole histories.
-/

namespace TradeResearch.Bots

def AtRest (t : Tables) : Prop :=
  ∀ r ∈ t.runs.rows, t.held r.id = true → r.status ≠ .crashed ∧ r.status ≠ .recovering

def Spares (s t : Tables) : Prop :=
  ∃ new, t.events = s.events ++ new ∧
    ∀ e ∈ new, e.eventType = .recoveryStarted → s.held e.runId = false

def NeverRevives (w w' : World) : Prop :=
  Spares w.tables w'.tables ∧
    ∀ r ∈ w'.tables.runs.rows, w'.tables.held r.id = true → r.status ≠ .recovering

def IntentKept (v : Supervisor) (w : World) : Event → Prop
  | .sweep _ at' => ∀ r ∈ w.tables.runs.rows,
      w.tables.held r.id = true → r.status.active = true → v.stale at' r = false
  | .planRestart _ => ∀ bot ∈ w.tables.bots.rows, bot.isDisabled = false →
      ∀ r ∈ w.tables.latestRun bot.id,
        w.tables.held r.id = true → r.status.active = true → r.status = .paused
  | .fail botId _ _ => ∀ bot ∈ w.live botId, w.tables.held bot.runId = false
  | .start .. | .launch _ | .pause .. | .resume .. | .stop .. | .beat .. | .processRestart => True

instance decidableIntentKept (v : Supervisor) (w : World) (event : Event) :
    Decidable (IntentKept v w event) :=
  match event with
  | .sweep _ at' => inferInstanceAs (Decidable (∀ r ∈ w.tables.runs.rows,
      w.tables.held r.id = true → r.status.active = true → v.stale at' r = false))
  | .planRestart _ => inferInstanceAs (Decidable (∀ bot ∈ w.tables.bots.rows,
      bot.isDisabled = false → ∀ r ∈ w.tables.latestRun bot.id,
        w.tables.held r.id = true → r.status.active = true → r.status = .paused))
  | .fail botId _ _ =>
    inferInstanceAs (Decidable (∀ bot ∈ w.live botId, w.tables.held bot.runId = false))
  | .start .. | .launch _ | .pause .. | .resume .. | .stop .. | .beat .. | .processRestart =>
    isTrue True.intro

def Unforced (s : Tables) (new : List BotEvent) : Prop :=
  ∀ e ∈ new, (∀ runId, Tables.commandOf runId e = none) ∧
    (e.eventType = .recoveryStarted → s.held e.runId = false)

def Supervised (s t : Tables) : Prop :=
  AtRest t ∧ ∃ new, t.events = s.events ++ new ∧ Unforced s new

namespace Supervised

variable {s t : Tables}

theorem held_eq (done : Supervised s t) (runId : String) : t.held runId = s.held runId := by
  obtain ⟨-, new, added, unforced⟩ := done
  exact Tables.held_append new added fun e mem => (unforced e mem).1 runId

theorem record (done : Supervised s t) {runId : String} {eventType : EventType} {at' : Time}
    {detail : Text} {was : Option BotState} {attempted : Option ℕ}
    (supervisory : ∀ status, eventType ≠ .botStatus status)
    (unheld : eventType = .recoveryStarted → s.held runId = false) :
    Supervised s (t.record runId eventType at' detail was attempted) := by
  have quiet (id : String) :
      Tables.commandOf id (eventType.about runId at' detail was attempted) = none := by
    cases eventType with
    | botStatus status => exact absurd rfl (supervisory status)
    | _ => rfl
  obtain ⟨rest, new, added, unforced⟩ := done
  have same (id : String) :
      (t.record runId eventType at' detail was attempted).held id = t.held id :=
    Tables.held_append _ rfl fun e mem => by
      rw [List.mem_singleton.mp mem]
      exact quiet id
  refine ⟨fun r mem held => ?_,
    new ++ [eventType.about runId at' detail was attempted], ?_, fun e mem => ?_⟩
  · rw [same] at held
    exact rest r mem held
  · unfold Tables.record
    rw [added, List.append_assoc]
  · rcases List.mem_append.mp mem with old | last
    · exact unforced e old
    · rw [List.mem_singleton.mp last]
      exact ⟨quiet, unheld⟩

theorem move (done : Supervised s t) {run : BotRun} (unheld : s.held run.id = false)
    {wanted : BotState} {at' : Time} {reason : Text} :
    Supervised s (t.move run wanted at' reason).1 := by
  have same (id : String) : (t.move run wanted at' reason).1.held id = t.held id := by
    apply Tables.held_append []
    · rw [Tables.move_events, List.append_nil]
    · exact fun e mem => absurd mem List.not_mem_nil
  have before := done.held_eq run.id
  obtain ⟨rest, new, added, unforced⟩ := done
  refine ⟨fun r mem held => ?_, new, ?_, unforced⟩
  · rw [same] at held
    rcases Tables.mem_move mem with mem | ⟨r₀, mem₀, here, rfl⟩
    · exact rest r mem held
    · rw [BotRun.moved_id, here, before, unheld] at held
      cases held
  · rw [Tables.move_events, added]

variable {v : Supervisor} {a : Answers} {run : BotRun}

theorem checkHeartbeat (done : Supervised s t)
    (kept : s.held run.id = true → v.stale at' run = false) :
    Supervised s (v.checkHeartbeat at' t run).1 := by
  rcases v.checkHeartbeat_cases at' t run with same | ⟨silent, reason, marked⟩
  · rw [same]
    exact done
  · have unheld : s.held run.id = false := by
      cases held : s.held run.id with
      | false => rfl
      | true =>
        rw [kept held] at silent
        cases silent
    rw [marked]
    exact (done.move unheld).record (fun status same => by cases same) fun _ => unheld

theorem considerRecovery (done : Supervised s t) (unheld : s.held run.id = false) :
    Supervised s (v.considerRecovery a at' t run).1 := by
  have considered := v.considered a at' t run
  generalize (v.considerRecovery a at' t run).1 = after at considered
  cases considered with
  | kept => exact done
  | refused eventType refusal detail attempts =>
    refine done.record (fun status same => ?_) fun _ => unheld
    rcases refusal with rfl | rfl <;> cases same
  | restarted reason detail safe afforded asked =>
    have moved : Supervised s (t.move run .recovering at' reason).1 := done.move unheld
    have begun : Supervised s ((t.move run .recovering at' reason).1.record run.id .recoveryStarted
        at' detail none none) :=
      moved.record (fun status same => by cases same) fun _ => unheld
    cases asked with
    | marked => exact begun
    | completed detail' => exact begun.record (fun status same => by cases same) fun _ => unheld
    | failed reason' detail' =>
      have still : s.held (run.moved .recovering at' []).id = false := by
        exact unheld
      exact (begun.move still).record (fun status same => by cases same) fun _ => unheld

end Supervised

section Passes

variable {v : Supervisor} {a : Answers} {t : Tables}

theorem Supervised.refl (rest : AtRest t) : Supervised t t :=
  ⟨rest, [], (List.append_nil _).symm, fun _ mem => absurd mem List.not_mem_nil⟩

theorem supervised_sweep (rest : AtRest t)
    (kept : ∀ r ∈ t.runs.rows, t.held r.id = true → r.status.active = true →
      v.stale at' r = false) : Supervised t (v.sweep a at' t).1 := by
  have checked : Supervised t (t.pass (v.checkHeartbeat at') t.activeRuns).1 := by
    refine Tables.pass_induction (.refl rest) fun t' run mem done => done.checkHeartbeat ?_
    obtain ⟨mem, active⟩ := Tables.mem_activeRuns.mp mem
    exact fun held => kept run mem held active
  refine Tables.pass_induction checked fun t' run mem done => done.considerRecovery ?_
  -- the second pass goes over the crashed runs the first one left, none of them held
  obtain ⟨mem, crashed⟩ := Tables.mem_crashedRuns.mp mem
  rw [← checked.held_eq]
  cases held : (t.pass (v.checkHeartbeat at') t.activeRuns).1.held run.id with
  | false => rfl
  | true => exact absurd crashed (checked.1 run mem held).1

structure Planning (s : Tables) (rest : List Bot) (t : Tables) : Prop where
  done : Supervised s t
  distinct : (rest.map Bot.id).Nodup
  remain : ∀ bot ∈ rest, t.runsOf bot.id = s.runsOf bot.id
  listed : ∀ bot ∈ rest, bot ∈ s.bots.rows

theorem supervised_planRestart (at' : Time) (rest : AtRest t)
    (kept : ∀ bot ∈ t.bots.rows, bot.isDisabled = false → ∀ r ∈ t.latestRun bot.id,
      t.held r.id = true → r.status.active = true → r.status = .paused) :
    Supervised t (planRestart at' t).1 := by
  have planned : Planning t [] (planRestart at' t).1 := by
    refine planRestart_induction ⟨.refl rest, t.bots.keys, fun bot _ => rfl, fun bot mem => mem⟩ ?_
    intro t' bot others planning
    have distinct := planning.distinct
    rw [List.map_cons, List.nodup_cons] at distinct
    have remain (other : Bot) (mem : other ∈ others) : t'.runsOf other.id = t.runsOf other.id :=
      planning.remain other (List.mem_cons_of_mem _ mem)
    have listed (other : Bot) (mem : other ∈ others) : other ∈ t.bots.rows :=
      planning.listed other (List.mem_cons_of_mem _ mem)
    rcases planBot_cases at' t' bot with
      same | ⟨run, reason, latest, enabled, notPaused, notStopped, notHalted, notDisabled, marked⟩
    · rw [same]
      exact ⟨planning.done, distinct.2, remain, listed⟩
    · obtain ⟨mem, mine⟩ := Tables.mem_of_latestRun latest
      have before : t.latestRun bot.id = some run := by
        unfold Tables.latestRun at latest ⊢
        rw [← planning.remain bot (List.mem_cons_self ..)]
        exact latest
      have unheld : t.held run.id = false := by
        cases held : t.held run.id with
        | false => rfl
        | true =>
          have alive := planning.done.1 run mem (by rw [planning.done.held_eq]; exact held)
          have active : run.status.active = true := by
            cases status : run.status with
            | starting | running | stopping => rfl
            | paused => exact absurd status notPaused
            | stopped => exact absurd status notStopped
            | halted => exact absurd status notHalted
            | disabled => exact absurd status notDisabled
            | crashed => exact absurd status alive.1
            | recovering => exact absurd status alive.2
          exact absurd (kept bot (planning.listed bot (List.mem_cons_self ..)) enabled run before
            held active) notPaused
      rw [marked]
      refine ⟨(planning.done.move unheld).record (fun status same => by cases same) fun _ => unheld,
        distinct.2, fun other mem' => ?_, listed⟩
      have apart : run.botId ≠ other.id := by
        rw [mine]
        intro same
        exact distinct.1 (List.mem_map.mpr ⟨other, mem', same.symm⟩)
      rw [← remain other mem', ← Tables.runsOf_move mem apart]
      rfl
  exact planned.done

end Passes

theorem atRest_setRunStatus {t : Tables} {runId : String} {status : BotState} {reason : Text}
    {at' : Time} (rest : AtRest t) (settled : status ≠ .recovering)
    (unheld : status = .crashed → t.held runId = false) :
    AtRest (t.setRunStatus runId status reason at') := by
  rcases Tables.setRunStatus_cases t runId status reason at' with ⟨same, -⟩ | ⟨-, recorded, rows⟩
  · rw [same]
    exact rest
  · intro r mem held
    rcases rows r mem with ⟨mem, elsewhere⟩ | ⟨r₀, mem₀, here, rfl⟩
    · have same : (t.setRunStatus runId status reason at').held r.id = t.held r.id := by
        refine Tables.held_append _ recorded fun e last => ?_
        rw [List.mem_singleton.mp last]
        exact if_neg fun mine => elsewhere mine.1.symm
      rw [same] at held
      exact rest r mem held
    · refine ⟨fun crashed => ?_, settled⟩
      have same : (t.setRunStatus runId status reason at').held runId = t.held runId := by
        refine Tables.held_append _ recorded fun e last => ?_
        rw [List.mem_singleton.mp last]
        exact if_neg fun mine => mine.2 crashed
      have sameRun : (r₀.written status reason at').id = runId := here
      rw [sameRun, same, unheld crashed] at held
      cases held

theorem Supervised.spares {s t : Tables} (done : Supervised s t) : Spares s t := by
  obtain ⟨-, new, added, unforced⟩ := done
  exact ⟨new, added, fun e mem => (unforced e mem).2⟩

theorem spares_of_same {s t : Tables} (same : t.events = s.events) : Spares s t :=
  ⟨[], by rw [same, List.append_nil], fun e mem => absurd mem List.not_mem_nil⟩

theorem spares_of_quiet {s t : Tables} {e : BotEvent} (added : t.events = s.events ++ [e])
    (quiet : e.eventType ≠ .recoveryStarted) : Spares s t := by
  refine ⟨[e], added, fun e' mem started => ?_⟩
  rw [List.mem_singleton.mp mem] at started
  exact absurd started quiet

theorem spares_setRunStatus {t : Tables} {runId : String} {status : BotState} {reason : Text}
    {at' : Time} : Spares t (t.setRunStatus runId status reason at') := by
  rcases Tables.setRunStatus_cases t runId status reason at' with ⟨same, -⟩ | ⟨-, recorded, -⟩
  · exact spares_of_same (by rw [same])
  · exact spares_of_quiet recorded fun isStart => by cases isStart

theorem atRest_step {event : Event} (rest : AtRest w.tables) (kept : IntentKept v w event)
    (taken : w.step v event = some w') : AtRest w'.tables ∧ Spares w.tables w'.tables := by
  have command {botId : String} {accepts : BotState → Bool} {status : BotState} {reason : Text}
      {at' : Time} {keep : Bool}
      (taken : w.commanded botId accepts status reason at' keep = some w')
      (settled : status ≠ .recovering)
      (unheld : status = .crashed → ∀ bot ∈ w.live botId, w.tables.held bot.runId = false) :
      AtRest w'.tables ∧ Spares w.tables w'.tables := by
    obtain ⟨bot, live, -, wrote⟩ := World.commanded_tables taken
    rw [wrote]
    exact ⟨atRest_setRunStatus rest settled fun crashed => unheld crashed bot live,
      spares_setRunStatus⟩
  cases event with
  | start botId runId at' =>
    obtain ⟨free, rfl⟩ := World.start_tables taken
    have recorded : (w.started botId runId at' free).tables.events = w.tables.events ++
        [{ runId, eventType := .botStarted, level := "info", occurredAt := at' }] := rfl
    have same (id : String) : (w.started botId runId at' free).tables.held id =
        w.tables.held id := by
      refine Tables.held_append _ recorded fun e mem => ?_
      rw [List.mem_singleton.mp mem]
      rfl
    refine ⟨fun r mem held => ?_, spares_of_quiet recorded fun isStart => by cases isStart⟩
    rw [same] at held
    rcases List.mem_append.mp mem with mem | mem
    · exact rest r mem held
    · rw [List.mem_singleton.mp mem]
      exact ⟨(fun crashed => by cases crashed), (fun recovering => by cases recovering)⟩
  | launch runId =>
    obtain ⟨-, marked⟩ := World.launch_tables taken
    rw [marked]
    refine ⟨fun r mem held => ?_, spares_of_same rfl⟩
    rcases Tables.mem_modify BotRun.launched_id mem with ⟨mem, -⟩ | ⟨r₀, mem₀, here, rfl⟩
    · exact rest r mem held
    · exact ⟨(fun crashed => by cases crashed), (fun recovering => by cases recovering)⟩
  | pause botId at' | resume botId at' | stop botId reason at' =>
    dsimp only [World.step] at taken
    exact command taken (by decide) fun crashed => by cases crashed
  | fail botId error at' =>
    dsimp only [World.step] at taken
    exact command taken (by decide) fun _ => kept
  | beat runId at' =>
    cases taken
    refine ⟨fun r mem held => ?_, spares_of_same rfl⟩
    rcases Tables.mem_modify (BotRun.beaten_id at') mem with ⟨mem, -⟩ | ⟨r₀, mem₀, here, rfl⟩
    · exact rest r mem held
    · exact rest r₀ mem₀ held
  | sweep answers at' =>
    cases taken
    have done := supervised_sweep (a := answers) rest kept
    exact ⟨done.1, done.spares⟩
  | planRestart at' =>
    cases taken
    have done := supervised_planRestart at' rest kept
    exact ⟨done.1, done.spares⟩
  | processRestart =>
    cases taken
    exact ⟨rest, spares_of_same rfl⟩

/-- **Restart is for crashes.** In every history from tables where the held runs are at rest, as
long as no step marks a held run crashed, no step starts a restart of a run whose last command was
to pause or to stop. -/
theorem neverRevives_steps (v : Supervisor) {w : World} (rest : AtRest w.tables)
    {events : List Event} (kept : Run.Meets (World.step v) (IntentKept v) w events) :
    Run.Steps (World.step v) NeverRevives w events := by
  refine Run.steps_of_meets (P := fun w => AtRest w.tables) (fun w event w' rest kept taken => ?_)
    rest kept
  obtain ⟨rest', spares⟩ := atRest_step rest kept taken
  exact ⟨rest', spares, fun r mem held => (rest' r mem held).2⟩

def commandedRun : List Event :=
  [.start "bot-a" "run-1" 0, .launch "run-1", .pause "bot-a" 10, .sweep unguarded 60,
    .resume "bot-a" 70, .stop "bot-a" [] 80, .processRestart, .planRestart 500,
    .sweep unguarded 1000]

theorem neverRevives_commandedRun :
    AtRest (World.fresh oneBot).tables ∧
      Run.Meets (World.step {}) (IntentKept {}) (World.fresh oneBot) commandedRun ∧
      Run.Steps (World.step {}) NeverRevives (World.fresh oneBot) commandedRun := by
  have rest : AtRest (World.fresh oneBot).tables := fun r mem => absurd mem List.not_mem_nil
  have kept : Run.Meets (World.step {}) (IntentKept {}) (World.fresh oneBot) commandedRun := by
    decide +kernel
  exact ⟨rest, kept, neverRevives_steps {} rest kept⟩

def pausedRun : List Event :=
  [.start "bot-a" "run-1" 0, .launch "run-1", .pause "bot-a" 10, .sweep unguarded 200]

theorem pausedRun_recovering :
    (Run.exec (World.step {}) (World.fresh oneBot) pausedRun).map (fun w =>
      w.tables.runs.rows.map fun r => (r.status, w.tables.held r.id)) =
        some [(.recovering, true)] := by
  decide +kernel

/-- The supervisor restarts a run an operator paused. -/
theorem not_forall_neverRevives :
    ¬ ∀ (v : Supervisor) (bots : Table Bot.id) (events : List Event),
        Run.Steps (World.step v) NeverRevives (World.fresh bots) events := by
  intro all
  obtain ⟨w, run, revived⟩ := Option.map_eq_some_iff.mp pausedRun_recovering
  obtain ⟨w₁, started, run⟩ := Run.exec_cons_eq_some.mp run
  obtain ⟨w₂, launched, run⟩ := Run.exec_cons_eq_some.mp run
  obtain ⟨w₃, paused, run⟩ := Run.exec_cons_eq_some.mp run
  obtain ⟨w₄, swept, run⟩ := Run.exec_cons_eq_some.mp run
  cases run
  have steps := all {} oneBot pausedRun
  have last := ((((steps w₁ started).2 w₂ launched).2 w₃ paused).2 w swept).1
  have mem : (BotState.recovering, true) ∈
      w.tables.runs.rows.map fun r => (r.status, w.tables.held r.id) := by
    rw [revived]
    exact List.mem_singleton.mpr rfl
  obtain ⟨r, mem, same⟩ := List.mem_map.mp mem
  obtain ⟨recovering, held⟩ := Prod.mk.inj same
  exact last.2 r mem held recovering

end TradeResearch.Bots
