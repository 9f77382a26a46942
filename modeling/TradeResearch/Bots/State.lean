import TradeResearch.Lib.Run
import TradeResearch.Lib.Table
import TradeResearch.Lib.Text

/-!
# Bot runs

`backend/app/bots/state.py` and the tables of `backend/app/models/bots.py` the supervisor reads: the
states of a run, the moves between them, the runs of each bot and the events recorded about them.

* `Tables.move` is `_move`: a legal transition of a run's row, or nothing.
* `Tables.record` is `_event`.
* `Tables.attempts` are the automatic restarts recorded for a bot, whichever of its runs they are
  of; `Tables.held` says whose last command from an operator was to pause or to stop.
-/

namespace TradeResearch.Bots

inductive BotState where
  | starting
  | running
  | paused
  | stopping
  | stopped
  | crashed
  | recovering
  | halted
  | disabled
  deriving DecidableEq, Repr

namespace BotState

def name : BotState → String
  | starting => "starting"
  | running => "running"
  | paused => "paused"
  | stopping => "stopping"
  | stopped => "stopped"
  | crashed => "crashed"
  | recovering => "recovering"
  | halted => "halted"
  | disabled => "disabled"

def transitions : BotState → List BotState
  | starting => [running, crashed, stopped, halted]
  | running => [paused, stopping, stopped, crashed, halted]
  | paused => [running, stopping, stopped, crashed, halted, disabled]
  | stopping => [stopped, crashed, halted]
  | stopped => [disabled]
  | halted => [disabled]
  | crashed => [recovering, stopped, disabled]
  | recovering => [starting, crashed, stopped, halted]
  | disabled => []

def active : BotState → Bool
  | starting | running | paused | stopping => true
  | stopped | crashed | recovering | halted | disabled => false

def finished : BotState → Bool
  | stopped | crashed | halted | disabled => true
  | starting | running | paused | stopping | recovering => false

def executing : BotState → Bool
  | recovering => true
  | state => state.active

end BotState

structure Bot where
  id : String
  isDisabled : Bool := false

structure BotRun where
  id : String
  botId : String
  startedAt : Time
  endedAt : Option Time := none
  status : BotState := .starting
  lastHeartbeatAt : Option Time := none
  stopReason : Text := []

inductive EventType where
  | botStarted
  /-- `bot_{status}`: the runner wrote a status. -/
  | botStatus (status : BotState)
  | heartbeatStale
  | recoveryBudgetExhausted
  | recoveryRefused
  | recoveryStarted
  | recoveryFailed
  | recoveryCompleted
  | restartOrphan
  deriving DecidableEq

def EventType.level : EventType → String
  | heartbeatStale | recoveryFailed => "error"
  | _ => "info"

structure BotEvent where
  runId : String
  eventType : EventType
  level : String
  occurredAt : Time
  detail : Text := []
  was : Option BotState := none
  attempts : Option ℕ := none

def EventType.about (eventType : EventType) (runId : String) (occurredAt : Time) (detail : Text)
    (was : Option BotState) (attempts : Option ℕ) : BotEvent :=
  { runId, eventType, level := eventType.level, occurredAt, detail, was, attempts }

structure Tables where
  bots : Table Bot.id
  runs : Table BotRun.id
  events : List BotEvent

def BotRun.moved (wanted : BotState) (at' : Time) (reason : Text) (r : BotRun) : BotRun :=
  if wanted = .crashed ∨ wanted = .halted ∨ wanted = .stopped then
    { r with status := wanted, endedAt := some (r.endedAt.getD at')
             stopReason := r.stopReason.orElse (Text.take 500 reason) }
  else { r with status := wanted }

theorem BotRun.moved_id (wanted : BotState) (at' : Time) (reason : Text) (r : BotRun) :
    (r.moved wanted at' reason).id = r.id := by
  unfold moved
  split <;> rfl

theorem BotRun.moved_botId (wanted : BotState) (at' : Time) (reason : Text) (r : BotRun) :
    (r.moved wanted at' reason).botId = r.botId := by
  unfold moved
  split <;> rfl

theorem BotRun.moved_status (wanted : BotState) (at' : Time) (reason : Text) (r : BotRun) :
    (r.moved wanted at' reason).status = wanted := by
  unfold moved
  split <;> rfl

namespace Tables

def keys (t : Tables) : List (String × String) := t.runs.rows.map fun r => (r.id, r.botId)

def move (t : Tables) (run : BotRun) (wanted : BotState) (at' : Time) (reason : Text) :
    Tables × Bool :=
  if run.status ≠ wanted ∧ wanted ∈ run.status.transitions then
    ({ t with runs := t.runs.modify run.id (BotRun.moved wanted at' reason)
                (BotRun.moved_id wanted at' reason) },
      true)
  else (t, false)

def record (t : Tables) (runId : String) (eventType : EventType) (at' : Time) (detail : Text)
    (was : Option BotState) (attempts : Option ℕ) : Tables :=
  { t with events := t.events ++ [eventType.about runId at' detail was attempts] }

def ofBot (t : Tables) (botId : String) (e : BotEvent) : Bool :=
  t.runs.rows.any fun r => r.id = e.runId ∧ r.botId = botId

def attempts (t : Tables) (botId : String) : List Time :=
  (t.events.filter fun e => e.eventType = .recoveryStarted ∧ t.ofBot botId e = true).map
    BotEvent.occurredAt

def commandOf (runId : String) (e : BotEvent) : Option BotState :=
  match e.eventType with
  | .botStatus status => if e.runId = runId ∧ status ≠ .crashed then some status else none
  | _ => none

def lastCommand (t : Tables) (runId : String) : Option BotState :=
  (t.events.filterMap (commandOf runId)).getLast?

def held (t : Tables) (runId : String) : Bool :=
  t.lastCommand runId ∈ [some .paused, some .stopping, some .stopped]

section Writes

variable {t : Tables} {run : BotRun} {wanted : BotState} {at' : Time} {runId : String}
  {eventType : EventType} {detail : Text} {was : Option BotState}

theorem ofBot_eq_true {botId : String} {e : BotEvent} :
    t.ofBot botId e = true ↔ (e.runId, botId) ∈ t.keys := by
  unfold ofBot keys
  simp only [List.any_eq_true, List.mem_map, decide_eq_true_eq, Prod.mk.injEq]

theorem keys_unique {botId botId' : String} (mem : (runId, botId) ∈ t.keys)
    (mem' : (runId, botId') ∈ t.keys) : botId = botId' := by
  obtain ⟨r, here, same⟩ := List.mem_map.mp mem
  obtain ⟨r', here', same'⟩ := List.mem_map.mp mem'
  obtain ⟨id, rfl⟩ := Prod.mk.inj same
  obtain ⟨id', rfl⟩ := Prod.mk.inj same'
  have one : r = r' := Table.eq_of_key here here' (id.trans id'.symm)
  rw [one]

@[simp] theorem move_events : (t.move run wanted at' reason).1.events = t.events := by
  unfold move
  split <;> rfl

theorem keys_modify {f : BotRun → BotRun} (keeps : ∀ r, (f r).id = r.id)
    (same : ∀ r, (f r).botId = r.botId) :
    ((t.runs.modify runId f keeps).rows.map fun r => (r.id, r.botId)) = t.keys := by
  unfold keys Table.modify Table.map
  rw [List.map_map]
  refine List.map_congr_left fun r _ => ?_
  dsimp only [Function.comp]
  split
  · rw [keeps, same]
  · rfl

@[simp] theorem move_keys : (t.move run wanted at' reason).1.keys = t.keys := by
  unfold move
  split
  · exact keys_modify (BotRun.moved_id wanted at' reason) (BotRun.moved_botId wanted at' reason)
  · rfl

@[simp] theorem record_keys :
    (t.record runId eventType at' detail was attempted).keys = t.keys := rfl

theorem record_events : (t.record runId eventType at' detail was attempted).events =
    t.events ++ [eventType.about runId at' detail was attempted] := rfl

@[simp] theorem record_runs :
    (t.record runId eventType at' detail was attempted).runs = t.runs := rfl

theorem mem_modify {f : BotRun → BotRun} (keeps : ∀ r, (f r).id = r.id) {r : BotRun}
    (mem : r ∈ (t.runs.modify runId f keeps).rows) :
    (r ∈ t.runs.rows ∧ r.id ≠ runId) ∨ ∃ r₀ ∈ t.runs.rows, r₀.id = runId ∧ r = f r₀ := by
  rcases Table.mem_modify.mp mem with ⟨r₀, mem₀, here, rfl⟩ | ⟨mem₀, elsewhere⟩
  · exact .inr ⟨r₀, mem₀, here, rfl⟩
  · exact .inl ⟨mem₀, elsewhere⟩

theorem mem_move {r : BotRun} (mem : r ∈ (t.move run wanted at' reason).1.runs.rows) :
    r ∈ t.runs.rows ∨ ∃ r₀ ∈ t.runs.rows, r₀.id = run.id ∧ r = r₀.moved wanted at' reason := by
  unfold move at mem
  split at mem
  · rcases mem_modify (BotRun.moved_id wanted at' reason) mem with ⟨mem₀, -⟩ | moved
    · exact .inl mem₀
    · exact .inr moved
  · exact .inl mem

theorem held_append {t' : Tables} (new : List BotEvent) (added : t'.events = t.events ++ new)
    (uncommanded : ∀ e ∈ new, commandOf runId e = none) : t'.held runId = t.held runId := by
  have none : new.filterMap (commandOf runId) = [] := List.filterMap_eq_nil_iff.mpr uncommanded
  unfold held lastCommand
  rw [added, List.filterMap_append, none, List.append_nil]

theorem attempts_append {t' : Tables} {botId : String} (new : List BotEvent)
    (added : t'.events = t.events ++ new) (quiet : ∀ e ∈ new, e.eventType ≠ .recoveryStarted)
    (keyed : t'.keys = t.keys) : t'.attempts botId = t.attempts botId := by
  have none :
      new.filter (fun e => e.eventType = .recoveryStarted ∧ t'.ofBot botId e = true) = [] := by
    refine List.filter_eq_nil_iff.mpr fun e mem counted => ?_
    exact quiet e mem (of_decide_eq_true counted).1
  unfold attempts
  rw [added, List.filter_append, none, List.append_nil]
  congr 1
  refine List.filter_congr fun e _ => ?_
  rw [decide_eq_decide, ofBot_eq_true, ofBot_eq_true, keyed]

@[simp] theorem attempts_move {botId : String} :
    (t.move run wanted at' reason).1.attempts botId = t.attempts botId := by
  apply attempts_append []
  · rw [move_events, List.append_nil]
  · exact fun e mem => absurd mem List.not_mem_nil
  · exact move_keys

theorem attempts_record {botId : String} :
    (t.record runId eventType at' detail was attempted).attempts botId =
      t.attempts botId ++
        if eventType = .recoveryStarted ∧ (runId, botId) ∈ t.keys then [at'] else [] := by
  unfold attempts
  have added : (t.record runId eventType at' detail was attempted).events = t.events ++
      [eventType.about runId at' detail was attempted] := rfl
  rw [added, List.filter_append, List.map_append]
  have old : (t.events.filter fun e => e.eventType = .recoveryStarted ∧
        (t.record runId eventType at' detail was attempted).ofBot botId e = true) =
      t.events.filter fun e => e.eventType = .recoveryStarted ∧ t.ofBot botId e = true :=
    List.filter_congr fun e _ => rfl
  congr 1
  rw [List.filter_cons, List.filter_nil]
  simp only [decide_eq_true_eq, ofBot_eq_true, record_keys, EventType.about]
  split <;> rfl

end Writes

end Tables

end TradeResearch.Bots
