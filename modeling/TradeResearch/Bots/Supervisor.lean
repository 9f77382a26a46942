import Mathlib.Data.List.Sort
import TradeResearch.Bots.State

/-!
# The bot supervisor

`backend/app/bots/supervisor.py` and `backend/app/bots/budget.py`. A pass goes over a list of runs,
each handled on the tables the runs before it left; the safety check and the runner a restart is
asked of are what they answer for each run.

* `sweep` is two passes: `checkHeartbeat` over the runs that are going, then `considerRecovery` over
  the crashed ones.
* `planRestart` is `plan_restart`, one bot after the other.
* `Tables.pass_induction` is the rule for a pass: what every run of it preserves, it preserves.
-/

namespace TradeResearch.Bots

structure Finding where
  runId : String
  botId : String
  was : BotState
  now : BotState
  reason : Text

structure SweepReport where
  at_ : Time
  checked : ℕ := 0
  stale : List Finding := []
  recovered : List Finding := []
  refused : List Finding := []

inductive RestartAction where
  | leave
  | markCrashed
  | resumePaused
  deriving DecidableEq

structure RestartPlan where
  botId : String
  runId : Option String
  was : Option BotState
  action : RestartAction
  reason : Text

structure RecoveryBudget where
  maxAttempts : ℕ := 3
  window : Time := 3600
  cooldown : Time := 300

def RecoveryBudget.refusal (b : RecoveryBudget) (attemptsInWindow : ℕ)
    (lastAttemptAt : Option Time) (now : Time) : Option Text :=
  match lastAttemptAt.filter fun last => now - last < b.cooldown with
  | some last =>
    some (Text.lit "the last automatic restart was " ++ Text.num (now - last) ++
      Text.lit "s ago and the cooldown is " ++ Text.num b.cooldown ++ Text.lit "s; waiting " ++
      Text.num (b.cooldown - (now - last)) ++
      Text.lit ("s more. A bot that fails on start restarts as fast as it is swept, and that is " ++
        "a loop rather than a recovery"))
  | none =>
    if b.maxAttempts ≤ attemptsInWindow then
      some (Text.lit "this bot has been restarted automatically " ++ Text.num attemptsInWindow ++
        Text.lit " time(s) in the last " ++ Text.num (b.window / 3600) ++
        Text.lit "h, which is its budget of " ++ Text.num b.maxAttempts ++
        Text.lit (". A bot that has crashed this often is not having a transient problem, so it " ++
          "stays crashed and needs a person"))
    else none

def recoveryAttempts (t : Tables) (botId : String) (start : Time) : ℕ × Option Time :=
  let rows := ((t.attempts botId).filter fun occurredAt => start ≤ occurredAt).mergeSort
    fun a b => b ≤ a
  (rows.length, rows.head?)

inductive Restart where
  | started
  | declined
  | raised (error : Text)

structure Supervisor where
  staleAfter : Time := 90
  budget : RecoveryBudget := {}

structure Answers where
  /-- `safe_to_recover`: the refusal, if there is one. -/
  safeToRecover : String → Option Text
  /-- `restart`, where a runner is wired. -/
  restart : Option (String → Restart) := none

def BotRun.reference (run : BotRun) : Time := run.lastHeartbeatAt.getD run.startedAt

namespace Supervisor

variable (v : Supervisor)

def stale (at' : Time) (run : BotRun) : Bool := v.staleAfter < at' - run.reference

def checkHeartbeat (at' : Time) (t : Tables) (run : BotRun) : Tables × Option Finding :=
  if v.stale at' run = false then (t, none)
  else
    let reason := Text.lit "no heartbeat for " ++ Text.num (at' - run.reference) ++
      Text.lit "s against a " ++ Text.num v.staleAfter ++ Text.lit "s limit; the process is gone"
    let moved := t.move run .crashed at' reason
    if moved.2 = false then (moved.1, none)
    else
      (moved.1.record run.id .heartbeatStale at' reason (some run.status) none,
        some ⟨run.id, run.botId, run.status, .crashed, reason⟩)

end Supervisor

def Answers.askRestart (a : Answers) (at' : Time) (t : Tables) (run : BotRun) :
    Tables × Option Finding :=
  let recovering := run.moved .recovering at' []
  match a.restart with
  | none =>
    (t, some ⟨run.id, run.botId, .crashed, .recovering,
      Text.lit "marked for recovery; no runner is wired to this supervisor"⟩)
  | some restart =>
    match restart run.id with
    | .raised error =>
      ((t.move recovering .crashed at' (Text.lit "restart raised: " ++ error)).1.record run.id
          .recoveryFailed at' (Text.take 300 error) none none,
        some ⟨run.id, run.botId, .recovering, .crashed, Text.take 300 error⟩)
    | .declined =>
      ((t.move recovering .crashed at' (Text.lit "the runner declined to restart it")).1.record
          run.id .recoveryFailed at' (Text.lit "runner declined") none none,
        some ⟨run.id, run.botId, .recovering, .crashed, Text.lit "the runner declined"⟩)
    | .started =>
      (t.record run.id .recoveryCompleted at' (Text.lit "restarted") none none,
        some ⟨run.id, run.botId, .crashed, .recovering, Text.lit "restarted"⟩)

def Supervisor.considerRecovery (v : Supervisor) (a : Answers) (at' : Time) (t : Tables)
    (run : BotRun) : Tables × Option Finding :=
  match a.safeToRecover run.id with
  | some refusal =>
    (t.record run.id .recoveryRefused at' refusal none none,
      some ⟨run.id, run.botId, .crashed, .crashed, refusal⟩)
  | none =>
    let counted := recoveryAttempts t run.botId (at' - v.budget.window)
    match v.budget.refusal counted.1 counted.2 at' with
    | some refusal =>
      (t.record run.id .recoveryBudgetExhausted at' refusal none (some counted.1),
        some ⟨run.id, run.botId, .crashed, .crashed, refusal⟩)
    | none =>
      let moved := t.move run .recovering at' (Text.lit "supervisor is restarting it")
      if moved.2 = false then (moved.1, none)
      else
        a.askRestart at'
          (moved.1.record run.id .recoveryStarted at' (Text.lit "supervisor restart") none none) run

namespace Tables

def runsWhere (t : Tables) (select : BotRun → Bool) : List BotRun :=
  (t.runs.rows.filter select).mergeSort fun a b => a.startedAt ≤ b.startedAt

def activeRuns (t : Tables) : List BotRun := t.runsWhere fun run => run.status.active

def crashedRuns (t : Tables) : List BotRun := t.runsWhere fun run => run.status = .crashed

def pass (handle : Tables → BotRun → Tables × Option Finding) (t : Tables) (runs : List BotRun) :
    Tables × List Finding :=
  runs.foldl (fun done run =>
    let handled := handle done.1 run
    (handled.1, done.2 ++ handled.2.toList)) (t, [])

def runsOf (t : Tables) (botId : String) : List BotRun :=
  t.runs.rows.filter fun run => run.botId = botId

def latestRun (t : Tables) (botId : String) : Option BotRun :=
  ((t.runsOf botId).mergeSort fun a b => b.startedAt ≤ a.startedAt).head?

end Tables

def Supervisor.sweep (v : Supervisor) (a : Answers) (at' : Time) (t : Tables) :
    Tables × SweepReport :=
  let active := t.activeRuns
  let checked := t.pass (v.checkHeartbeat at') active
  let considered := checked.1.pass (v.considerRecovery a at') checked.1.crashedRuns
  (considered.1,
    { at_ := at', checked := active.length, stale := checked.2
      recovered := considered.2.filter fun f => f.now = .recovering
      refused := considered.2.filter fun f => f.now ≠ .recovering })

def planBot (at' : Time) (t : Tables) (bot : Bot) : Tables × RestartPlan :=
  let run := t.latestRun bot.id
  let runId := run.map BotRun.id
  let was := run.map BotRun.status
  if bot.isDisabled = true then
    (t, ⟨bot.id, runId, was, .leave, Text.lit "the bot is disabled"⟩)
  else
    match run with
    | none => (t, ⟨bot.id, none, none, .leave,
        Text.lit "the run is over; a restart does not revive it"⟩)
    | some run =>
      match run.status with
      | .stopped | .halted | .disabled =>
        (t, ⟨bot.id, runId, was, .leave, Text.lit "the run is over; a restart does not revive it"⟩)
      | .paused =>
        (t, ⟨bot.id, runId, was, .resumePaused,
          Text.lit "somebody paused this deliberately; it stays paused"⟩)
      | state =>
        let reason := Text.lit s!"the row says {state.name} but this process did not start it; " ++
          Text.lit "marked crashed for the supervisor to consider"
        ((t.move run .crashed at' reason).1.record run.id .restartOrphan at' reason (some state)
            none,
          ⟨bot.id, runId, was, .markCrashed, reason⟩)

def planRestart (at' : Time) (t : Tables) : Tables × List RestartPlan :=
  t.bots.rows.foldl (fun done bot =>
    let planned := planBot at' done.1 bot
    (planned.1, done.2 ++ [planned.2])) (t, [])

inductive Asked (run : BotRun) (at' : Time) (t : Tables) : Tables → Prop
  /-- No runner is wired. -/
  | marked : Asked run at' t t
  | completed (detail : Text) :
    Asked run at' t (t.record run.id .recoveryCompleted at' detail none none)
  | failed (reason detail : Text) :
    Asked run at' t
      ((t.move (run.moved .recovering at' []) .crashed at' reason).1.record run.id .recoveryFailed
        at' detail none none)

inductive Considered (v : Supervisor) (a : Answers) (at' : Time) (t : Tables) (run : BotRun) :
    Tables → Prop
  /-- The run could not be moved. -/
  | kept : Considered v a at' t run t
  | refused (eventType : EventType)
      (refusal : eventType = .recoveryRefused ∨ eventType = .recoveryBudgetExhausted)
      (detail : Text) (attempts : Option ℕ) :
    Considered v a at' t run (t.record run.id eventType at' detail none attempts)
  /-- The safety check and the budget let it through, and it was recorded as started. -/
  | restarted {after : Tables} (reason detail : Text) (safe : a.safeToRecover run.id = none)
      (afforded : v.budget.refusal (recoveryAttempts t run.botId (at' - v.budget.window)).1
        (recoveryAttempts t run.botId (at' - v.budget.window)).2 at' = none)
      (asked : Asked run at' ((t.move run .recovering at' reason).1.record run.id .recoveryStarted
        at' detail none none) after) :
    Considered v a at' t run after

theorem Answers.asked (a : Answers) (at' : Time) (t : Tables) (run : BotRun) :
    Asked run at' t (a.askRestart at' t run).1 := by
  unfold askRestart
  cases a.restart with
  | none => exact .marked
  | some restart =>
    dsimp only
    cases restart run.id with
    | started => exact .completed _
    | declined | raised error => exact .failed _ _

theorem Supervisor.considered (v : Supervisor) (a : Answers) (at' : Time) (t : Tables)
    (run : BotRun) : Considered v a at' t run (v.considerRecovery a at' t run).1 := by
  unfold considerRecovery
  cases safe : a.safeToRecover run.id with
  | some refusal => exact .refused _ (.inl rfl) _ _
  | none =>
    dsimp only
    cases afforded : v.budget.refusal (recoveryAttempts t run.botId (at' - v.budget.window)).1
        (recoveryAttempts t run.botId (at' - v.budget.window)).2 at' with
    | some refusal => exact .refused _ (.inr rfl) _ _
    | none =>
      dsimp only
      split
      case isTrue unmoved =>
        have same :
            (t.move run .recovering at' (Text.lit "supervisor is restarting it")).1 = t := by
          unfold Tables.move at unmoved ⊢
          split at unmoved
          · cases unmoved
          · rw [if_neg ‹_›]
        rw [same]
        exact .kept
      case isFalse => exact .restarted _ _ safe afforded (a.asked at' _ run)

theorem Supervisor.checkHeartbeat_cases (v : Supervisor) (at' : Time) (t : Tables) (run : BotRun) :
    (v.checkHeartbeat at' t run).1 = t ∨
      v.stale at' run = true ∧ ∃ reason,
        (v.checkHeartbeat at' t run).1 =
          (t.move run .crashed at' reason).1.record run.id .heartbeatStale at' reason
            (some run.status) none := by
  unfold checkHeartbeat
  cases silent : v.stale at' run with
  | false => exact .inl rfl
  | true =>
    rw [if_neg (by decide)]
    dsimp only
    split
    case isTrue unmoved =>
      refine .inl ?_
      unfold Tables.move at unmoved ⊢
      split at unmoved
      · cases unmoved
      · rw [if_neg ‹_›]
    case isFalse => exact .inr ⟨rfl, _, rfl⟩

theorem Supervisor.checkHeartbeat_of_stale (v : Supervisor) {at' : Time} {t : Tables} {run : BotRun}
    (silent : v.stale at' run = true) (active : run.status.active = true) :
    ∃ reason, (v.checkHeartbeat at' t run).1.runs = t.runs.modify run.id
      (BotRun.moved .crashed at' reason) (BotRun.moved_id .crashed at' reason) := by
  have legal : run.status ≠ .crashed ∧ .crashed ∈ run.status.transitions := by
    cases status : run.status <;> rw [status] at active <;> first | decide | cases active
  unfold checkHeartbeat
  rw [if_neg (by rw [silent]; decide)]
  dsimp only
  have moved (reason : Text) : t.move run .crashed at' reason =
      ({ t with runs := t.runs.modify run.id (BotRun.moved .crashed at' reason)
                  (BotRun.moved_id .crashed at' reason) }, true) := if_pos legal
  rw [moved]
  exact ⟨_, rfl⟩

theorem planBot_cases (at' : Time) (t : Tables) (bot : Bot) :
    (planBot at' t bot).1 = t ∨
      ∃ run reason, t.latestRun bot.id = some run ∧ bot.isDisabled = false ∧
        run.status ≠ .paused ∧ run.status ≠ .stopped ∧ run.status ≠ .halted ∧
        run.status ≠ .disabled ∧
        (planBot at' t bot).1 = (t.move run .crashed at' reason).1.record run.id .restartOrphan at'
          reason (some run.status) none := by
  unfold planBot
  cases enabled : bot.isDisabled with
  | true => exact .inl rfl
  | false =>
    cases latest : t.latestRun bot.id with
    | none => exact .inl rfl
    | some run =>
      dsimp only
      cases status : run.status with
      | stopped | halted | disabled | paused => exact .inl rfl
      | starting | running | stopping | crashed | recovering =>
        refine .inr ⟨run,
          Text.lit s!"the row says {run.status.name} but this process did not start it; " ++
            Text.lit "marked crashed for the supervisor to consider", rfl, rfl, ?_⟩
        rw [status]
        exact ⟨by decide, by decide, by decide, by decide, rfl⟩

theorem Tables.pass_recursion {P : List BotRun → Tables → Prop}
    {handle : Tables → BotRun → Tables × Option Finding} {t : Tables} {runs : List BotRun}
    (initial : P runs t) (kept : ∀ t' run rest, P (run :: rest) t' → P rest (handle t' run).1) :
    P [] (t.pass handle runs).1 := by
  have general : ∀ done : Tables × List Finding, P runs done.1 →
      P [] (runs.foldl (fun done run =>
        ((handle done.1 run).1, done.2 ++ (handle done.1 run).2.toList)) done).1 := by
    clear initial
    induction runs with
    | nil => exact fun done held => held
    | cons run runs ih =>
      intro done held
      exact ih _ (kept done.1 run runs held)
  exact general (t, []) initial

theorem Tables.pass_induction {P : Tables → Prop}
    {handle : Tables → BotRun → Tables × Option Finding} {t : Tables} {runs : List BotRun}
    (initial : P t) (kept : ∀ t' run, run ∈ runs → P t' → P (handle t' run).1) :
    P (t.pass handle runs).1 := by
  have listed : (∀ run ∈ ([] : List BotRun), run ∈ runs) ∧ P (t.pass handle runs).1 := by
    refine pass_recursion (P := fun rest t' => (∀ run ∈ rest, run ∈ runs) ∧ P t')
      ⟨fun run mem => mem, initial⟩ fun t' run rest held => ⟨?_, ?_⟩
    · exact fun run' mem => held.1 run' (List.mem_cons_of_mem _ mem)
    · exact kept t' run (held.1 run (List.mem_cons_self ..)) held.2
  exact listed.2

theorem planRestart_induction {P : List Bot → Tables → Prop} {at' : Time} {t : Tables}
    (initial : P t.bots.rows t)
    (kept : ∀ t' bot rest, P (bot :: rest) t' → P rest (planBot at' t' bot).1) :
    P [] (planRestart at' t).1 := by
  unfold planRestart
  generalize t.bots.rows = bots at initial
  have general : ∀ done : Tables × List RestartPlan, P bots done.1 →
      P [] (bots.foldl (fun done bot =>
        ((planBot at' done.1 bot).1, done.2 ++ [(planBot at' done.1 bot).2])) done).1 := by
    clear initial
    induction bots with
    | nil => exact fun done held => held
    | cons bot bots ih =>
      intro done held
      exact ih _ (kept done.1 bot bots held)
  exact general (t, []) initial

theorem Tables.mem_runsWhere {t : Tables} {select : BotRun → Bool} {run : BotRun} :
    run ∈ t.runsWhere select ↔ run ∈ t.runs.rows ∧ select run = true := by
  unfold runsWhere
  rw [List.mem_mergeSort, List.mem_filter]

theorem Tables.mem_activeRuns {t : Tables} {run : BotRun} :
    run ∈ t.activeRuns ↔ run ∈ t.runs.rows ∧ run.status.active = true :=
  mem_runsWhere

theorem Tables.mem_crashedRuns {t : Tables} {run : BotRun} :
    run ∈ t.crashedRuns ↔ run ∈ t.runs.rows ∧ run.status = .crashed := by
  unfold crashedRuns
  rw [mem_runsWhere, decide_eq_true_eq]

theorem Tables.mem_of_latestRun {t : Tables} {botId : String} {run : BotRun}
    (latest : t.latestRun botId = some run) : run ∈ t.runs.rows ∧ run.botId = botId := by
  have mem := List.mem_of_head? latest
  unfold runsOf at mem
  rw [List.mem_mergeSort, List.mem_filter, decide_eq_true_eq] at mem
  exact mem

theorem Tables.runsOf_move {t : Tables} {run : BotRun} {wanted : BotState} {at' : Time}
    {reason : Text} {botId : String} (mem : run ∈ t.runs.rows) (other : run.botId ≠ botId) :
    (t.move run wanted at' reason).1.runsOf botId = t.runsOf botId := by
  unfold move
  split
  case isFalse => rfl
  case isTrue =>
    unfold runsOf Table.modify Table.map
    rw [List.filter_map]
    have same : (t.runs.rows.filter ((fun r : BotRun => decide (r.botId = botId)) ∘ fun r =>
          if r.id = run.id then r.moved wanted at' reason else r)) =
        t.runs.rows.filter fun r => r.botId = botId := by
      refine List.filter_congr fun r _ => ?_
      dsimp only [Function.comp]
      split
      · rw [BotRun.moved_botId]
      · rfl
    rw [same]
    refine (List.map_congr_left fun r mem' => ?_).trans (List.map_id _)
    obtain ⟨here, mine⟩ := List.mem_filter.mp mem'
    rw [decide_eq_true_eq] at mine
    refine if_neg fun same => other ?_
    rw [← Table.eq_of_key here mem same, mine]

end TradeResearch.Bots
