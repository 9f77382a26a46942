import TradeResearch.Bots.Runner
import TradeResearch.Lib.Window

/-!
# The recovery budget over whole runs

The attempts the supervisor counts are the restarts it recorded, over all the runs of a bot. Each is
recorded when the budget let it through, so the times of a bot's restarts are `Paced`, and with that
bounded in every window and spread by the cooldown. `restarts_along` says it of every state of every
history; no order of the times is needed for it.
-/

namespace TradeResearch.Bots

theorem recoveryAttempts_length (t : Tables) (botId : String) (start : Time) :
    (recoveryAttempts t botId start).1 = (since start (t.attempts botId)).length := by
  exact List.length_mergeSort _

theorem le_recoveryAttempts_last {t : Tables} {botId : String} {start attempt : Time}
    (counted : attempt ∈ since start (t.attempts botId)) :
    ∃ last, (recoveryAttempts t botId start).2 = some last ∧ attempt ≤ last := by
  unfold recoveryAttempts
  have sorted : ((since start (t.attempts botId)).mergeSort fun a b => decide (b ≤ a)).Pairwise
      fun a b => decide (b ≤ a) = true := List.pairwise_mergeSort
    (fun a b c first second => by
      rw [decide_eq_true_eq] at first second ⊢
      exact second.trans first)
    (fun a b => by
      rw [Bool.or_eq_true, decide_eq_true_eq, decide_eq_true_eq]
      exact le_total b a)
    (since start (t.attempts botId))
  have mem : attempt ∈ (since start (t.attempts botId)).mergeSort fun a b => decide (b ≤ a) :=
    List.mem_mergeSort.mpr counted
  unfold since at sorted mem
  generalize ((t.attempts botId).filter fun occurredAt => start ≤ occurredAt).mergeSort
    (fun a b => decide (b ≤ a)) = rows at sorted mem
  cases rows with
  | nil => cases mem
  | cons last rest =>
    refine ⟨last, rfl, ?_⟩
    rcases List.mem_cons.mp mem with rfl | mem
    · exact le_rfl
    · exact of_decide_eq_true ((List.pairwise_cons.mp sorted).1 attempt mem)

theorem RecoveryBudget.of_refusal_eq_none {b : RecoveryBudget} {attempts : ℕ} {last : Option Time}
    {now : Time} (afforded : b.refusal attempts last now = none) :
    attempts < b.maxAttempts ∧ ∀ t, last = some t → b.cooldown ≤ now - t := by
  unfold refusal at afforded
  split at afforded
  case h_1 => cases afforded
  case h_2 cooled =>
    split at afforded
    case isTrue => cases afforded
    case isFalse room =>
      refine ⟨not_le.mp room, fun t isLast => ?_⟩
      rw [isLast, Option.filter_some] at cooled
      split at cooled
      case isTrue => cases cooled
      case isFalse past =>
        rw [decide_eq_true_eq] at past
        exact not_lt.mp past

structure PacedTables (b : RecoveryBudget) (t : Tables) : Prop where
  owned : ∀ e ∈ t.events, e.runId ∈ t.keys.map Prod.fst
  paced : ∀ botId, Paced b.window b.cooldown b.maxAttempts (t.attempts botId)

namespace PacedTables

theorem append (held : PacedTables b t) (new : List BotEvent) (added : t'.events = t.events ++ new)
    (quiet : ∀ e ∈ new, e.eventType ≠ .recoveryStarted)
    (about : ∀ e ∈ new, e.runId ∈ t.keys.map Prod.fst) (keyed : t'.keys = t.keys) :
    PacedTables b t' := by
  refine ⟨fun e mem => ?_, fun botId => ?_⟩
  · rw [keyed]
    rw [added] at mem
    rcases List.mem_append.mp mem with mem | mem
    · exact held.owned e mem
    · exact about e mem
  · rw [Tables.attempts_append new added quiet keyed]
    exact held.paced botId

theorem record (held : PacedTables b t) {runId : String} {eventType : EventType} {at' : Time}
    {detail : Text} {was : Option BotState} {attempted : Option ℕ}
    (quiet : eventType ≠ .recoveryStarted) (about : runId ∈ t.keys.map Prod.fst) :
    PacedTables b (t.record runId eventType at' detail was attempted) := by
  apply held.append [eventType.about runId at' detail was attempted] rfl
  · intro e mem
    rw [List.mem_singleton.mp mem]
    exact quiet
  · intro e mem
    rw [List.mem_singleton.mp mem]
    exact about
  · rfl

theorem move (held : PacedTables b t) {run : BotRun} {wanted : BotState} {at' : Time}
    {reason : Text} : PacedTables b (t.move run wanted at' reason).1 := by
  apply held.append []
  · rw [Tables.move_events, List.append_nil]
  · exact fun e mem => absurd mem List.not_mem_nil
  · exact fun e mem => absurd mem List.not_mem_nil
  · exact Tables.move_keys

theorem restart (held : PacedTables b t) {run : BotRun} (keyed : (run.id, run.botId) ∈ t.keys)
    {at' : Time}
    (afforded : b.refusal (recoveryAttempts t run.botId (at' - b.window)).1
      (recoveryAttempts t run.botId (at' - b.window)).2 at' = none) {detail : Text} :
    PacedTables b (t.record run.id .recoveryStarted at' detail none none) := by
  obtain ⟨room, cooled⟩ := RecoveryBudget.of_refusal_eq_none afforded
  refine ⟨fun e recorded => ?_, fun botId => ?_⟩
  · rcases List.mem_append.mp recorded with old | new
    · exact held.owned e old
    · rw [List.mem_singleton.mp new]
      exact List.mem_map.mpr ⟨_, keyed, rfl⟩
  · rw [Tables.attempts_record]
    split
    case isFalse =>
      rw [List.append_nil]
      exact held.paced botId
    case isTrue here =>
      rw [Tables.keys_unique here.2 keyed]
      refine (held.paced run.botId).snoc ?_ fun t counted => ?_
      · rw [← recoveryAttempts_length]
        exact room
      · obtain ⟨last, isLast, latest⟩ := le_recoveryAttempts_last counted
        have past := cooled last isLast
        linarith

end PacedTables

section Supervision

variable {v : Supervisor} {a : Answers} {t : Tables} {run : BotRun}

def PacedOver (v : Supervisor) (keys : List (String × String)) (t : Tables) : Prop :=
  PacedTables v.budget t ∧ t.keys = keys

theorem mem_keys {t' : Tables} (keyed : t'.keys = t.keys) (mem : run ∈ t.runs.rows) :
    (run.id, run.botId) ∈ t'.keys := by
  rw [keyed]
  exact List.mem_map.mpr ⟨run, mem, rfl⟩

theorem PacedOver.move_record {keys : List (String × String)} (held : PacedOver v keys t)
    (about : (run.id, run.botId) ∈ keys) {moving : BotRun} {wanted : BotState} {reason : Text}
    {eventType : EventType} (quiet : eventType ≠ .recoveryStarted) {detail : Text}
    {was : Option BotState} {attempted : Option ℕ} :
    PacedOver v keys ((t.move moving wanted at' reason).1.record run.id eventType at' detail was
      attempted) := by
  obtain ⟨paced, keyed⟩ := held
  refine ⟨paced.move.record quiet ?_, ?_⟩
  · rw [Tables.move_keys, keyed]
    exact List.mem_map.mpr ⟨_, about, rfl⟩
  · rw [Tables.record_keys, Tables.move_keys, keyed]

theorem PacedOver.record {keys : List (String × String)} (held : PacedOver v keys t)
    (about : (run.id, run.botId) ∈ keys) {eventType : EventType}
    (quiet : eventType ≠ .recoveryStarted) {detail : Text} {was : Option BotState}
    {attempted : Option ℕ} :
    PacedOver v keys (t.record run.id eventType at' detail was attempted) := by
  refine ⟨held.1.record quiet ?_, held.2⟩
  rw [held.2]
  exact List.mem_map.mpr ⟨_, about, rfl⟩

theorem pacedOver_checkHeartbeat {keys : List (String × String)} (held : PacedOver v keys t)
    (about : (run.id, run.botId) ∈ keys) : PacedOver v keys (v.checkHeartbeat at' t run).1 := by
  rcases v.checkHeartbeat_cases at' t run with same | ⟨-, reason, marked⟩
  · rw [same]
    exact held
  · rw [marked]
    exact held.move_record about (by decide)

theorem pacedOver_considerRecovery {keys : List (String × String)} (held : PacedOver v keys t)
    (about : (run.id, run.botId) ∈ keys) : PacedOver v keys (v.considerRecovery a at' t run).1 := by
  have considered := v.considered a at' t run
  generalize (v.considerRecovery a at' t run).1 = after at considered
  cases considered with
  | kept => exact held
  | refused eventType refusal detail attempts =>
    refine held.record about ?_
    rcases refusal with rfl | rfl <;> decide
  | restarted reason detail safe afforded asked =>
    obtain ⟨paced, keyed⟩ := held
    have moved : PacedTables v.budget (t.move run .recovering at' reason).1 := paced.move
    have same : recoveryAttempts (t.move run .recovering at' reason).1 run.botId
        (at' - v.budget.window) = recoveryAttempts t run.botId (at' - v.budget.window) := by
      unfold recoveryAttempts
      rw [Tables.attempts_move]
    have begun : PacedOver v keys ((t.move run .recovering at' reason).1.record run.id
        .recoveryStarted at' detail none none) := by
      refine ⟨moved.restart ?_ ?_, ?_⟩
      · rw [Tables.move_keys, keyed]
        exact about
      · rw [same]
        exact afforded
      · rw [Tables.record_keys, Tables.move_keys, keyed]
    cases asked with
    | marked => exact begun
    | completed => exact begun.record about (by decide)
    | failed => exact begun.move_record about (by decide)

theorem pacedOver_sweep (held : PacedTables v.budget t) :
    PacedOver v t.keys (v.sweep a at' t).1 := by
  have checked : PacedOver v t.keys (t.pass (v.checkHeartbeat at') t.activeRuns).1 :=
    Tables.pass_induction ⟨held, rfl⟩ fun t' run mem held' =>
      pacedOver_checkHeartbeat held' (mem_keys rfl (Tables.mem_activeRuns.mp mem).1)
  refine Tables.pass_induction checked fun t' run mem held' =>
    pacedOver_considerRecovery held' ?_
  exact mem_keys checked.2.symm (Tables.mem_crashedRuns.mp mem).1

theorem pacedOver_planRestart (held : PacedTables v.budget t) :
    PacedOver v t.keys (planRestart at' t).1 := by
  refine planRestart_induction (P := fun _ t' => PacedOver v t.keys t') ⟨held, rfl⟩
    fun t' bot _ held' => ?_
  rcases planBot_cases at' t' bot with same | ⟨run, reason, latest, -, -, -, -, -, marked⟩
  · rw [same]
    exact held'
  · rw [marked]
    have mem := mem_keys held'.2.symm (Tables.mem_of_latestRun latest).1
    exact held'.move_record mem (by decide)

end Supervision

theorem PacedTables.same (held : PacedTables b t) (unchanged : t'.events = t.events)
    (keyed : t'.keys = t.keys) : PacedTables b t' := by
  apply held.append []
  · rw [unchanged, List.append_nil]
  · exact fun e mem => absurd mem List.not_mem_nil
  · exact fun e mem => absurd mem List.not_mem_nil
  · exact keyed

theorem PacedTables.setRunStatus (held : PacedTables b t) {runId : String} {status : BotState}
    {reason : Text} {at' : Time} : PacedTables b (t.setRunStatus runId status reason at') := by
  rcases Tables.setRunStatus_cases t runId status reason at' with ⟨same, -⟩ | ⟨known, recorded, -⟩
  · rw [same]
    exact held
  · apply held.append _ recorded
    · intro e mem
      rw [List.mem_singleton.mp mem]
      exact fun isStart => by cases isStart
    · intro e mem
      rw [List.mem_singleton.mp mem]
      obtain ⟨r, mem, same⟩ := List.mem_map.mp known
      exact List.mem_map.mpr ⟨(r.id, r.botId), List.mem_map.mpr ⟨r, mem, rfl⟩, same⟩
    · exact Tables.setRunStatus_keys

theorem PacedTables.started {w : World} (held : PacedTables b w.tables) (botId runId : String)
    (at' : Time) (free : runId ∉ w.tables.runs.rows.map BotRun.id) :
    PacedTables b (w.started botId runId at' free).tables := by
  have keyed : (w.started botId runId at' free).tables.keys =
      w.tables.keys ++ [(runId, botId)] := by
    unfold World.started Tables.keys Table.insert
    rw [List.map_append]
    rfl
  have recorded : (w.started botId runId at' free).tables.events = w.tables.events ++
      [{ runId, eventType := .botStarted, level := "info", occurredAt := at' }] := rfl
  have absent : ∀ e ∈ w.tables.events, e.runId ≠ runId := by
    rintro e mem rfl
    obtain ⟨key, keyMem, same⟩ := List.mem_map.mp (held.owned e mem)
    obtain ⟨r, rMem, rfl⟩ := List.mem_map.mp keyMem
    exact free (List.mem_map.mpr ⟨r, rMem, same⟩)
  refine ⟨fun e mem => ?_, fun bot => ?_⟩
  · rw [keyed, List.map_append, List.mem_append]
    rcases List.mem_append.mp mem with old | new
    · exact .inl (held.owned e old)
    · rw [List.mem_singleton.mp new]
      exact .inr (List.mem_singleton.mpr rfl)
  · have counted : (w.started botId runId at' free).tables.attempts bot =
        w.tables.attempts bot := by
      unfold Tables.attempts
      rw [recorded, List.filter_append, List.filter_cons, List.filter_nil]
      rw [if_neg (by simp), List.append_nil]
      congr 1
      refine List.filter_congr fun e mem => ?_
      rw [decide_eq_decide, Tables.ofBot_eq_true, Tables.ofBot_eq_true, keyed, List.mem_append,
        List.mem_singleton, Prod.mk.injEq]
      tauto
    rw [counted]
    exact held.paced bot

theorem pacedTables_step {w w' : World} {event : Event} (held : PacedTables v.budget w.tables)
    (taken : w.step v event = some w') : PacedTables v.budget w'.tables := by
  have command {botId : String} {accepts : BotState → Bool} {status : BotState} {reason : Text}
      {at' : Time} {keep : Bool}
      (taken : w.commanded botId accepts status reason at' keep = some w') :
      PacedTables v.budget w'.tables := by
    obtain ⟨bot, -, -, wrote⟩ := World.commanded_tables taken
    rw [wrote]
    exact held.setRunStatus
  cases event with
  | start botId runId at' =>
    obtain ⟨free, rfl⟩ := World.start_tables taken
    exact held.started botId runId at' free
  | launch runId =>
    obtain ⟨-, marked⟩ := World.launch_tables taken
    rw [marked]
    exact held.same rfl Tables.markRunning_keys
  | pause botId at' | resume botId at' | stop botId reason at' | fail botId error at' =>
    dsimp only [World.step] at taken
    exact command taken
  | beat runId at' =>
    cases taken
    exact held.same rfl Tables.beat_keys
  | sweep answers at' =>
    cases taken
    exact (pacedOver_sweep held).1
  | planRestart at' =>
    cases taken
    exact (pacedOver_planRestart held).1
  | processRestart =>
    cases taken
    exact held

end TradeResearch.Bots
