import TradeResearch.Bots.Supervisor

/-!
# Bots in service

The part of `backend/app/paper/service.py` that starts, pauses, resumes and stops a bot's runs,
beside the supervisor. The runner keeps the bots it drives in memory and writes the status of their
rows as it goes, whatever the row said; a restart of the process forgets the memory and leaves the
rows.

* `World` is the tables and that memory.
* `Event` is one thing that happens to it, and `World.step` takes it; a call the code refuses is not
  taken.
-/

namespace TradeResearch.Bots

structure LiveBot where
  runId : String
  status : BotState
  deriving DecidableEq

structure World where
  tables : Tables
  live : String → Option LiveBot
  launching : List String

namespace BotRun

def written (status : BotState) (reason : Text) (at' : Time) (r : BotRun) : BotRun :=
  { r with status, stopReason := reason.orElse r.stopReason
           endedAt := if status.finished = true then some at' else r.endedAt
           lastHeartbeatAt := some at' }

def launched (r : BotRun) : BotRun := { r with status := .running }

def beaten (at' : Time) (r : BotRun) : BotRun := { r with lastHeartbeatAt := some at' }

theorem written_id (status : BotState) (reason : Text) (at' : Time) (r : BotRun) :
    (r.written status reason at').id = r.id := rfl

theorem launched_id (r : BotRun) : r.launched.id = r.id := rfl

theorem beaten_id (at' : Time) (r : BotRun) : (r.beaten at').id = r.id := rfl

end BotRun

namespace Tables

def setRunStatus (t : Tables) (runId : String) (status : BotState) (reason : Text) (at' : Time) :
    Tables :=
  if runId ∈ t.runs.rows.map BotRun.id then
    { t with
      runs := t.runs.modify runId (BotRun.written status reason at')
        (BotRun.written_id status reason at')
      events := t.events ++ [{ runId, eventType := .botStatus status, level := "info"
                               occurredAt := at', detail := reason }] }
  else t

def markRunning (t : Tables) (runId : String) : Tables :=
  { t with runs := t.runs.modify runId BotRun.launched BotRun.launched_id }

def beat (t : Tables) (runId : String) (at' : Time) : Tables :=
  { t with runs := t.runs.modify runId (BotRun.beaten at') (BotRun.beaten_id at') }

end Tables

inductive Event where
  /-- `start_bot`, to its first commit: a new run. -/
  | start (botId runId : String) (at_ : Time)
  /-- `start_bot`, its second commit. -/
  | launch (runId : String)
  | pause (botId : String) (at_ : Time)
  | resume (botId : String) (at_ : Time)
  | stop (botId : String) (reason : Text) (at_ : Time)
  /-- `_drive`: a pass raised. -/
  | fail (botId : String) (error : Text) (at_ : Time)
  | beat (runId : String) (at_ : Time)
  | sweep (answers : Answers) (at_ : Time)
  | planRestart (at_ : Time)
  /-- The process restarts, and its memory is gone. -/
  | processRestart

namespace World

def fresh (bots : Table Bot.id) : World :=
  { tables := { bots, runs := Table.empty _, events := [] }
    live := fun _ => none
    launching := [] }

def setLive (w : World) (botId : String) (bot : Option LiveBot) : World :=
  { w with live := fun id => if id = botId then bot else w.live id }

def driving (w : World) (botId : String) : Bool :=
  (w.live botId).any fun bot => bot.status = .running ∨ bot.status = .paused

def started (w : World) (botId runId : String) (at' : Time)
    (free : runId ∉ w.tables.runs.rows.map BotRun.id) : World :=
  { (w.setLive botId (some ⟨runId, .running⟩)) with
    tables :=
      { w.tables with
        runs := w.tables.runs.insert { id := runId, botId, startedAt := at' } free
        events := w.tables.events ++
          [{ runId, eventType := .botStarted, level := "info", occurredAt := at' }] }
    launching := w.launching ++ [runId] }

def commanded (w : World) (botId : String) (accepts : BotState → Bool) (status : BotState)
    (reason : Text) (at' : Time) (keep : Bool) : Option World :=
  match w.live botId with
  | none => none
  | some bot =>
    if accepts bot.status = true then
      some { (w.setLive botId (if keep = true then some { bot with status } else none)) with
        tables := w.tables.setRunStatus bot.runId status reason at' }
    else none

def step (v : Supervisor) (w : World) : Event → Option World
  | .start botId runId at' =>
    if w.driving botId = true then none
    else if botId ∉ w.tables.bots.rows.map Bot.id then none
    else if free : runId ∉ w.tables.runs.rows.map BotRun.id then
      some (w.started botId runId at' free)
    else none
  | .launch runId =>
    if runId ∈ w.launching then
      some { w with tables := w.tables.markRunning runId
                    launching := w.launching.filter fun id => id ≠ runId }
    else none
  | .pause botId at' =>
    w.commanded botId (fun s => s = .running) .paused (Text.lit "paused by the user") at' true
  | .resume botId at' => w.commanded botId (fun s => s = .paused) .running [] at' true
  | .stop botId reason at' => w.commanded botId (fun _ => true) .stopped reason at' false
  | .fail botId error at' =>
    w.commanded botId (fun s => s = .running ∨ s = .paused) .crashed (Text.take 300 error) at' true
  | .beat runId at' => some { w with tables := w.tables.beat runId at' }
  | .sweep answers at' => some { w with tables := (v.sweep answers at' w.tables).1 }
  | .planRestart at' => some { w with tables := (planRestart at' w.tables).1 }
  | .processRestart => some { w with live := fun _ => none, launching := [] }

theorem started_rows (w : World) (botId runId : String) (at' : Time)
    (free : runId ∉ w.tables.runs.rows.map BotRun.id) :
    (w.started botId runId at' free).tables.runs.rows =
      w.tables.runs.rows ++ [{ id := runId, botId, startedAt := at' }] := rfl

theorem commanded_tables {w w' : World} {botId : String} {accepts : BotState → Bool}
    {status : BotState} {reason : Text} {at' : Time} {keep : Bool}
    (taken : w.commanded botId accepts status reason at' keep = some w') :
    ∃ bot, w.live botId = some bot ∧ accepts bot.status = true ∧
      w'.tables = w.tables.setRunStatus bot.runId status reason at' := by
  unfold commanded at taken
  split at taken
  case h_1 => cases taken
  case h_2 bot live =>
    split at taken
    case isTrue accepted =>
      cases taken
      exact ⟨bot, live, accepted, rfl⟩
    case isFalse => cases taken

theorem start_tables {v : Supervisor} {w w' : World} {botId runId : String} {at' : Time}
    (taken : w.step v (.start botId runId at') = some w') :
    ∃ free, w' = w.started botId runId at' free := by
  dsimp only [step] at taken
  split at taken
  · cases taken
  · split at taken
    · cases taken
    · split at taken
      case isTrue free =>
        cases taken
        exact ⟨free, rfl⟩
      case isFalse => cases taken

theorem launch_tables {v : Supervisor} {w w' : World} {runId : String}
    (taken : w.step v (.launch runId) = some w') :
    runId ∈ w.launching ∧ w'.tables = w.tables.markRunning runId := by
  dsimp only [step] at taken
  split at taken
  case isTrue launching =>
    cases taken
    exact ⟨launching, rfl⟩
  case isFalse => cases taken

end World

section Writes

variable {t : Tables} {runId : String} {status : BotState} {reason : Text}

theorem Tables.setRunStatus_cases (t : Tables) (runId : String) (status : BotState)
    (reason : Text) (at' : Time) :
    (t.setRunStatus runId status reason at' = t ∧ runId ∉ t.runs.rows.map BotRun.id) ∨
      runId ∈ t.runs.rows.map BotRun.id ∧
        (t.setRunStatus runId status reason at').events = t.events ++
          [{ runId, eventType := .botStatus status, level := "info", occurredAt := at'
             detail := reason }] ∧
        ∀ r ∈ (t.setRunStatus runId status reason at').runs.rows,
          (r ∈ t.runs.rows ∧ r.id ≠ runId) ∨
            ∃ r₀ ∈ t.runs.rows, r₀.id = runId ∧ r = r₀.written status reason at' := by
  by_cases known : runId ∈ t.runs.rows.map BotRun.id
  · refine .inr ⟨known, ?_, ?_⟩
    · unfold setRunStatus
      rw [if_pos known]
    · unfold setRunStatus
      rw [if_pos known]
      exact fun r mem => mem_modify (BotRun.written_id status reason at') mem
  · refine .inl ⟨?_, known⟩
    unfold setRunStatus
    rw [if_neg known]

@[simp] theorem Tables.setRunStatus_keys :
    (t.setRunStatus runId status reason at').keys = t.keys := by
  unfold setRunStatus
  split
  · exact keys_modify (BotRun.written_id status reason at') fun _ => rfl
  · rfl

@[simp] theorem Tables.markRunning_keys : (t.markRunning runId).keys = t.keys :=
  keys_modify BotRun.launched_id fun _ => rfl

@[simp] theorem Tables.beat_keys : (t.beat runId at').keys = t.keys :=
  keys_modify (BotRun.beaten_id at') fun _ => rfl

end Writes

def oneBot : Table Bot.id := (Table.empty Bot.id).insert { id := "bot-a" } (by decide)

def unguarded : Answers := { safeToRecover := fun _ => none }

end TradeResearch.Bots
