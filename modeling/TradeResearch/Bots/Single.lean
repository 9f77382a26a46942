import TradeResearch.Bots.Pace

/-!
# One executing run for each bot

The supervisor goes over runs, not over bots: a crashed run stays in the table when its bot is
started again, and the next sweep considers it beside the run that took its place. Neither the sweep
nor a start looks at the other rows of the bot.

* `Single` says that no bot has two runs executing; `RecoversAlone` says of a step that it recovered
  no run of a bot that has another one active.
* `Undisputed` is what a step needs to keep both.
* `Marked` and `Reviving` are what the two passes of a sweep keep.
-/

namespace TradeResearch.Bots

def Single (t : Tables) : Prop :=
  ∀ r ∈ t.runs.rows, ∀ r' ∈ t.runs.rows, r.botId = r'.botId → r.status.executing = true →
    r'.status.executing = true → r.id = r'.id

def RecoversAlone (w w' : World) : Prop :=
  ∃ new, w'.tables.events = w.tables.events ++ new ∧
    ∀ e ∈ new, e.eventType = .recoveryStarted → ∀ r ∈ w'.tables.runs.rows, r.id = e.runId →
      ∀ r' ∈ w'.tables.runs.rows, r'.botId = r.botId → r'.id ≠ r.id → r'.status.active = false

def OthersIdle (t : Tables) (run : BotRun) : Prop :=
  ∀ r ∈ t.runs.rows, r.botId = run.botId → r.id ≠ run.id → r.status.executing = false

def Supervisor.Candidate (v : Supervisor) (at' : Time) (r : BotRun) : Prop :=
  r.status = .crashed ∨ r.status.active = true ∧ v.stale at' r = true

def Supervisor.Likely (v : Supervisor) (a : Answers) (at' : Time) (t : Tables) (r : BotRun) :
    Prop :=
  v.Candidate at' r ∧ a.safeToRecover r.id = none ∧
    v.budget.refusal (recoveryAttempts t r.botId (at' - v.budget.window)).1
      (recoveryAttempts t r.botId (at' - v.budget.window)).2 at' = none

def Supervisor.SweepsAlone (v : Supervisor) (a : Answers) (at' : Time) (t : Tables) : Prop :=
  ∀ r ∈ t.runs.rows, v.Likely a at' t r → ∀ r' ∈ t.runs.rows, r'.botId = r.botId → r'.id ≠ r.id →
    (r'.status.executing = true → v.Candidate at' r') ∧
      (v.Candidate at' r' → a.safeToRecover r'.id = none →
        0 < v.budget.cooldown ∧ 0 ≤ v.budget.window)

def Undisputed (v : Supervisor) (w : World) : Event → Prop
  | .start botId _ _ => ∀ r ∈ w.tables.runs.rows, r.botId = botId → r.status.executing = false
  | .launch runId => ∀ r ∈ w.tables.runs.rows, r.id = runId → OthersIdle w.tables r
  | .pause botId _ | .resume botId _ => ∀ bot ∈ w.live botId, ∀ r ∈ w.tables.runs.rows,
      r.id = bot.runId → OthersIdle w.tables r
  | .sweep answers at' => v.SweepsAlone answers at' w.tables
  | .stop .. | .fail .. | .beat .. | .planRestart _ | .processRestart => True

instance decidableOthersIdle (t : Tables) (run : BotRun) : Decidable (OthersIdle t run) :=
  inferInstanceAs (Decidable (∀ r ∈ t.runs.rows, r.botId = run.botId → r.id ≠ run.id →
    r.status.executing = false))

instance decidableCandidate (v : Supervisor) (at' : Time) (r : BotRun) :
    Decidable (v.Candidate at' r) :=
  inferInstanceAs (Decidable (r.status = .crashed ∨ r.status.active = true ∧ v.stale at' r = true))

instance decidableLikely (v : Supervisor) (a : Answers) (at' : Time) (t : Tables) (r : BotRun) :
    Decidable (v.Likely a at' t r) :=
  inferInstanceAs (Decidable (v.Candidate at' r ∧ a.safeToRecover r.id = none ∧
    v.budget.refusal (recoveryAttempts t r.botId (at' - v.budget.window)).1
      (recoveryAttempts t r.botId (at' - v.budget.window)).2 at' = none))

instance decidableSweepsAlone (v : Supervisor) (a : Answers) (at' : Time) (t : Tables) :
    Decidable (v.SweepsAlone a at' t) :=
  inferInstanceAs (Decidable (∀ r ∈ t.runs.rows, v.Likely a at' t r → ∀ r' ∈ t.runs.rows,
    r'.botId = r.botId → r'.id ≠ r.id → (r'.status.executing = true → v.Candidate at' r') ∧
      (v.Candidate at' r' → a.safeToRecover r'.id = none →
        0 < v.budget.cooldown ∧ 0 ≤ v.budget.window)))

instance decidableUndisputed (v : Supervisor) (w : World) (event : Event) :
    Decidable (Undisputed v w event) :=
  match event with
  | .start botId _ _ => inferInstanceAs (Decidable (∀ r ∈ w.tables.runs.rows,
      r.botId = botId → r.status.executing = false))
  | .launch runId => inferInstanceAs (Decidable (∀ r ∈ w.tables.runs.rows,
      r.id = runId → OthersIdle w.tables r))
  | .pause botId _ | .resume botId _ => inferInstanceAs (Decidable (∀ bot ∈ w.live botId,
      ∀ r ∈ w.tables.runs.rows, r.id = bot.runId → OthersIdle w.tables r))
  | .sweep answers at' => inferInstanceAs (Decidable (v.SweepsAlone answers at' w.tables))
  | .stop .. | .fail .. | .beat .. | .planRestart _ | .processRestart => isTrue True.intro

section Rows

theorem Single.of_rows (single : Single t)
    (origin : ∀ r ∈ t'.runs.rows, ∃ r₀ ∈ t.runs.rows, r₀.id = r.id ∧ r₀.botId = r.botId ∧
      (r.status.executing = true → r₀.status.executing = true)) : Single t' := by
  intro r mem r' mem' same executing executing'
  obtain ⟨r₀, mem₀, id, bot, before⟩ := origin r mem
  obtain ⟨r₁, mem₁, id', bot', before'⟩ := origin r' mem'
  have one := single r₀ mem₀ r₁ mem₁ (bot.trans (same.trans bot'.symm)) (before executing)
    (before' executing')
  rw [← id, ← id', one]

theorem Single.of_idle (single : Single t) (runId : String)
    (origin : ∀ r ∈ t'.runs.rows, r ∈ t.runs.rows ∨ r.id = runId ∧
      ∃ r₀ ∈ t.runs.rows, r₀.id = runId ∧ r₀.botId = r.botId ∧ OthersIdle t r₀) : Single t' := by
  -- a row as it was, beside the one rewritten
  have beside {r r' : BotRun} (mem : r ∈ t.runs.rows) (bot : r.botId = r'.botId)
      (executing : r.status.executing = true)
      (rewritten : r'.id = runId ∧ ∃ r₀ ∈ t.runs.rows, r₀.id = runId ∧ r₀.botId = r'.botId ∧
        OthersIdle t r₀) : r.id = r'.id := by
    obtain ⟨here, r₀, -, id, bot', idle⟩ := rewritten
    by_contra apart
    have still := idle r mem (bot.trans bot'.symm) (by rw [id, ← here]; exact apart)
    rw [still] at executing
    cases executing
  intro r mem r' mem' bot executing executing'
  rcases origin r mem with mem | rewritten
  · rcases origin r' mem' with mem' | rewritten'
    · exact single r mem r' mem' bot executing executing'
    · exact beside mem bot executing rewritten'
  · rcases origin r' mem' with mem' | rewritten'
    · exact (beside mem' bot.symm executing' rewritten).symm
    · exact rewritten.1.trans rewritten'.1.symm

end Rows

section Marking

variable {v : Supervisor} {at' : Time} {s t : Tables} {run : BotRun}

structure Marked (v : Supervisor) (at' : Time) (s : Tables) (rest : List BotRun) (t : Tables) :
    Prop where
  single : Single t
  keyed : t.keys = s.keys
  quiet : ∃ new, t.events = s.events ++ new ∧ ∀ e ∈ new, e.eventType ≠ .recoveryStarted
  origin : ∀ r ∈ t.runs.rows, r ∈ s.runs.rows ∨ r.status = .crashed ∧
    ∃ r₀ ∈ s.runs.rows, r₀.id = r.id ∧ r₀.botId = r.botId ∧ v.Candidate at' r₀
  awake : ∀ r ∈ t.runs.rows, r.status.active = true → v.stale at' r = true → r ∈ rest
  listed : ∀ r ∈ rest, r ∈ s.runs.rows ∧ r.status.active = true

theorem botId_eq_of_keys {r : BotRun} (keyed : t.keys = s.keys) (mem : r ∈ t.runs.rows)
    (mem' : run ∈ s.runs.rows) (same : run.id = r.id) : run.botId = r.botId := by
  have here : (r.id, r.botId) ∈ s.keys := by
    rw [← keyed]
    exact List.mem_map.mpr ⟨r, mem, rfl⟩
  have there : (r.id, run.botId) ∈ s.keys := by
    rw [← same]
    exact List.mem_map.mpr ⟨run, mem', rfl⟩
  exact Tables.keys_unique there here

theorem checkHeartbeat_quiet (v : Supervisor) (at' : Time) (t : Tables) (run : BotRun) :
    (v.checkHeartbeat at' t run).1.keys = t.keys ∧
      ∃ new, (v.checkHeartbeat at' t run).1.events = t.events ++ new ∧
        ∀ e ∈ new, e.eventType ≠ .recoveryStarted := by
  rcases v.checkHeartbeat_cases at' t run with same | ⟨-, reason, marked⟩
  · rw [same]
    exact ⟨rfl, [], (List.append_nil _).symm, fun e mem => absurd mem List.not_mem_nil⟩
  · rw [marked]
    refine ⟨Tables.move_keys,
      [EventType.heartbeatStale.about run.id at' reason (some run.status) none], ?_,
      fun e mem => ?_⟩
    · rw [Tables.record_events, Tables.move_events]
    · rw [List.mem_singleton.mp mem]
      exact fun isStart => by cases isStart

theorem Marked.initial (single : Single s) : Marked v at' s s.activeRuns s where
  single := single
  keyed := rfl
  quiet := ⟨[], (List.append_nil _).symm, fun _ mem => absurd mem List.not_mem_nil⟩
  origin := fun _ mem => .inl mem
  awake := fun _ mem active _ => Tables.mem_activeRuns.mpr ⟨mem, active⟩
  listed := fun _ mem => Tables.mem_activeRuns.mp mem

theorem Marked.checkHeartbeat (marked : Marked v at' s (run :: rest) t) :
    Marked v at' s rest (v.checkHeartbeat at' t run).1 := by
  obtain ⟨keyed, new, added, quiet⟩ := checkHeartbeat_quiet v at' t run
  obtain ⟨old, before, silent⟩ := marked.quiet
  have listed (r : BotRun) (mem : r ∈ rest) : r ∈ s.runs.rows ∧ r.status.active = true :=
    marked.listed r (List.mem_cons_of_mem _ mem)
  have events : ∃ new, (v.checkHeartbeat at' t run).1.events = s.events ++ new ∧
      ∀ e ∈ new, e.eventType ≠ .recoveryStarted := by
    refine ⟨old ++ new, by rw [added, before, List.append_assoc], fun e mem => ?_⟩
    rcases List.mem_append.mp mem with mem | mem
    · exact silent e mem
    · exact quiet e mem
  cases isStale : v.stale at' run with
  | false =>
    have same : (v.checkHeartbeat at' t run).1 = t := by
      unfold Supervisor.checkHeartbeat
      rw [if_pos isStale]
    rw [same] at events ⊢
    refine ⟨marked.single, marked.keyed, events, marked.origin,
      fun r mem active stale => ?_, listed⟩
    rcases List.mem_cons.mp (marked.awake r mem active stale) with rfl | mem'
    · rw [isStale] at stale
      cases stale
    · exact mem'
  | true =>
    obtain ⟨mem', active'⟩ := marked.listed run (List.mem_cons_self ..)
    obtain ⟨reason, rows⟩ := v.checkHeartbeat_of_stale (t := t) isStale active'
    have cases {r : BotRun} (mem : r ∈ (v.checkHeartbeat at' t run).1.runs.rows) :
        (r ∈ t.runs.rows ∧ r.id ≠ run.id) ∨
          ∃ r₀ ∈ t.runs.rows, r₀.id = run.id ∧ r = r₀.moved .crashed at' reason := by
      rw [rows] at mem
      exact Tables.mem_modify (BotRun.moved_id .crashed at' reason) mem
    refine ⟨marked.single.of_rows fun r mem => ?_, keyed.trans marked.keyed, events,
      fun r mem => ?_, fun r mem active stale => ?_, listed⟩
    · rcases cases mem with ⟨mem, -⟩ | ⟨r₀, mem₀, here, rfl⟩
      · exact ⟨r, mem, rfl, rfl, id⟩
      · refine ⟨r₀, mem₀, (BotRun.moved_id ..).symm, (BotRun.moved_botId ..).symm,
          fun executing => ?_⟩
        cases executing
    · have mem₁ := mem
      rcases cases mem with ⟨mem, -⟩ | ⟨r₀, mem₀, here, rfl⟩
      · exact marked.origin r mem
      · have same : run.id = (r₀.moved .crashed at' reason).id := by rw [BotRun.moved_id, here]
        exact .inr ⟨BotRun.moved_status .., run, mem', same,
          botId_eq_of_keys (keyed.trans marked.keyed) mem₁ mem' same, .inr ⟨active', isStale⟩⟩
    · rcases cases mem with ⟨mem, elsewhere⟩ | ⟨r₀, mem₀, here, rfl⟩
      · rcases List.mem_cons.mp (marked.awake r mem active stale) with rfl | mem'
        · exact absurd rfl elsewhere
        · exact mem'
      · rw [BotRun.moved_status] at active
        cases active

theorem marked_pass (single : Single s) :
    Marked v at' s [] (s.pass (v.checkHeartbeat at') s.activeRuns).1 :=
  Tables.pass_recursion (.initial single) fun _ _ _ marked => marked.checkHeartbeat

end Marking

section Reviving

variable {v : Supervisor} {a : Answers} {at' : Time} {s t₁ t t' : Tables} {run : BotRun}

structure Reviving (v : Supervisor) (a : Answers) (at' : Time) (s t₁ : Tables)
    (rest : List BotRun) (t : Tables) : Prop where
  single : Single t
  keyed : t.keys = s.keys
  origin : ∀ r ∈ t.runs.rows, r ∈ t₁.runs.rows ∨
    r.status.active = false ∧ (s.attempts r.botId).length < (t.attempts r.botId).length
  counted : ∀ botId, t.attempts botId = s.attempts botId ∨ at' ∈ t.attempts botId ∧
    ∃ r₀ ∈ s.runs.rows, r₀.botId = botId ∧ v.Likely a at' s r₀ ∧ ∀ r ∈ rest, r.id ≠ r₀.id
  recorded : ∃ new, t.events = s.events ++ new ∧ ∀ e ∈ new, e.eventType = .recoveryStarted →
    ∃ r₀ ∈ s.runs.rows, r₀.id = e.runId ∧ v.Likely a at' s r₀
  distinct : (rest.map BotRun.id).Nodup
  listed : ∀ r ∈ rest, r ∈ t₁.runs.rows ∧ r.status = .crashed

theorem Asked.quiet (asked : Asked run at' t t') :
    t'.keys = t.keys ∧
      (∃ new, t'.events = t.events ++ new ∧ ∀ e ∈ new, e.eventType ≠ .recoveryStarted) ∧
      ∀ r ∈ t'.runs.rows, r ∈ t.runs.rows ∨
        r.status = .crashed ∧ ∃ r₀ ∈ t.runs.rows, r₀.id = run.id ∧ r₀.id = r.id ∧
          r₀.botId = r.botId := by
  cases asked with
  | marked =>
    exact ⟨rfl, ⟨[], (List.append_nil _).symm, fun e mem => absurd mem List.not_mem_nil⟩,
      fun r mem => .inl mem⟩
  | completed detail =>
    refine ⟨rfl, ⟨[_], Tables.record_events, fun e mem => ?_⟩, fun r mem => .inl mem⟩
    rw [List.mem_singleton.mp mem]
    exact fun isStart => by cases isStart
  | failed reason detail =>
    refine ⟨Tables.move_keys, ⟨[EventType.recoveryFailed.about run.id at' detail none none], ?_,
      fun e mem => ?_⟩, fun r mem => ?_⟩
    · rw [Tables.record_events, Tables.move_events]
    · rw [List.mem_singleton.mp mem]
      exact fun isStart => by cases isStart
    · rw [Tables.record_runs] at mem
      rcases Tables.mem_move mem with mem | ⟨r₀, mem₀, here, rfl⟩
      · exact .inl mem
      · rw [BotRun.moved_id] at here
        exact .inr ⟨BotRun.moved_status .., r₀, mem₀, here, (BotRun.moved_id ..).symm,
          (BotRun.moved_botId ..).symm⟩

theorem Reviving.next (reviving : Reviving v a at' s t₁ (run :: rest) t) :
    Reviving v a at' s t₁ rest t where
  single := reviving.single
  keyed := reviving.keyed
  origin := reviving.origin
  counted := fun botId => by
    rcases reviving.counted botId with same | ⟨now, r₀, mem, bot, likely, others⟩
    · exact .inl same
    · exact .inr ⟨now, r₀, mem, bot, likely, fun r mem => others r (List.mem_cons_of_mem _ mem)⟩
  recorded := reviving.recorded
  distinct := (List.nodup_cons.mp (by simpa using reviving.distinct)).2
  listed := fun r mem => reviving.listed r (List.mem_cons_of_mem _ mem)

theorem Reviving.append (reviving : Reviving v a at' s t₁ rest t) {new : List BotEvent}
    (added : t'.events = t.events ++ new) (quiet : ∀ e ∈ new, e.eventType ≠ .recoveryStarted)
    (keyed : t'.keys = t.keys) (rows : ∀ r ∈ t'.runs.rows, r ∈ t.runs.rows ∨
      r.status = .crashed ∧ ∃ r₀ ∈ t.runs.rows, r₀.id = r.id ∧ r₀.botId = r.botId ∧
        (s.attempts r₀.botId).length < (t.attempts r₀.botId).length) :
    Reviving v a at' s t₁ rest t' where
  single := reviving.single.of_rows fun r mem => by
    rcases rows r mem with mem | ⟨crashed, r₀, mem₀, id, bot, -⟩
    · exact ⟨r, mem, rfl, rfl, fun executing => executing⟩
    · refine ⟨r₀, mem₀, id, bot, fun executing => ?_⟩
      rw [crashed] at executing
      cases executing
  keyed := keyed.trans reviving.keyed
  origin := fun r mem => by
    rw [Tables.attempts_append new added quiet keyed]
    rcases rows r mem with mem | ⟨crashed, r₀, mem₀, id, bot, grown⟩
    · exact reviving.origin r mem
    · rw [bot] at grown
      refine .inr ⟨?_, grown⟩
      rw [crashed]
      rfl
  counted := fun botId => by
    rw [Tables.attempts_append new added quiet keyed]
    exact reviving.counted botId
  recorded := by
    obtain ⟨old, before, likely⟩ := reviving.recorded
    refine ⟨old ++ new, by rw [added, before, List.append_assoc], fun e mem started => ?_⟩
    rcases List.mem_append.mp mem with mem | mem
    · exact likely e mem started
    · exact absurd started (quiet e mem)
  distinct := reviving.distinct
  listed := reviving.listed

theorem Marked.candidate (marked : Marked v at' s [] t₁) (mem : run ∈ t₁.runs.rows)
    (crashed : run.status = .crashed) :
    ∃ r₀ ∈ s.runs.rows, r₀.id = run.id ∧ r₀.botId = run.botId ∧ v.Candidate at' r₀ := by
  rcases marked.origin run mem with mem | ⟨-, candidate⟩
  · exact ⟨run, mem, rfl, rfl, .inl crashed⟩
  · exact candidate

theorem Reviving.first (alone : v.SweepsAlone a at' s)
    (reviving : Reviving v a at' s t₁ (run :: rest) t) {r₀ : BotRun} (mem₀ : r₀ ∈ s.runs.rows)
    (id : r₀.id = run.id) (bot : r₀.botId = run.botId) (candidate : v.Candidate at' r₀)
    (safe : a.safeToRecover run.id = none)
    (afforded : v.budget.refusal (recoveryAttempts t run.botId (at' - v.budget.window)).1
      (recoveryAttempts t run.botId (at' - v.budget.window)).2 at' = none) :
    t.attempts run.botId = s.attempts run.botId := by
  rcases reviving.counted run.botId with same | ⟨now, r₁, mem₁, bot₁, likely, others⟩
  · exact same
  · have apart : r₀.id ≠ r₁.id := by
      rw [id]
      exact others run (List.mem_cons_self ..)
    obtain ⟨cooling, opening⟩ := (alone r₁ mem₁ likely r₀ mem₀ (bot.trans bot₁.symm) apart).2
      candidate (by rw [id]; exact safe)
    have recent : at' ∈ since (at' - v.budget.window) (t.attempts run.botId) := by
      refine List.mem_filter.mpr ⟨now, decide_eq_true ?_⟩
      linarith
    obtain ⟨last, isLast, latest⟩ := le_recoveryAttempts_last recent
    have past := (RecoveryBudget.of_refusal_eq_none afforded).2 last isLast
    linarith

theorem Reviving.idle (marked : Marked v at' s [] t₁) (alone : v.SweepsAlone a at' s)
    (reviving : Reviving v a at' s t₁ (run :: rest) t) {r₀ : BotRun} (mem₀ : r₀ ∈ s.runs.rows)
    (id : r₀.id = run.id) (bot : r₀.botId = run.botId) (likely : v.Likely a at' s r₀)
    (first : t.attempts run.botId = s.attempts run.botId) {r : BotRun} (mem : r ∈ t.runs.rows)
    (mine : r.botId = run.botId) (apart : r.id ≠ run.id) : r.status.executing = false := by
  cases executing : r.status.executing with
  | false => rfl
  | true =>
    rcases reviving.origin r mem with before | ⟨-, grown⟩
    · have going : r.status ≠ .crashed := by
        intro crashed
        rw [crashed] at executing
        cases executing
      rcases marked.origin r before with old | ⟨crashed, -⟩
      · have other := (alone r₀ mem₀ likely r old (mine.trans bot.symm)
          (by rw [id]; exact apart)).1 executing
        rcases other with crashed | ⟨active, stale⟩
        · exact absurd crashed going
        · exact absurd (marked.awake r before active stale) List.not_mem_nil
      · exact absurd crashed going
    · rw [mine, first] at grown
      exact absurd grown (lt_irrefl _)

theorem Reviving.restart (marked : Marked v at' s [] t₁) (alone : v.SweepsAlone a at' s)
    (reviving : Reviving v a at' s t₁ (run :: rest) t) (reason detail : Text)
    (safe : a.safeToRecover run.id = none)
    (afforded : v.budget.refusal (recoveryAttempts t run.botId (at' - v.budget.window)).1
      (recoveryAttempts t run.botId (at' - v.budget.window)).2 at' = none) :
    Reviving v a at' s t₁ rest ((t.move run .recovering at' reason).1.record run.id
      .recoveryStarted at' detail none none) ∧
      (s.attempts run.botId).length < (((t.move run .recovering at' reason).1.record run.id
        .recoveryStarted at' detail none none).attempts run.botId).length := by
  obtain ⟨mem, crashed⟩ := reviving.listed run (List.mem_cons_self ..)
  obtain ⟨r₀, mem₀, id, bot, candidate⟩ := marked.candidate mem crashed
  have first := reviving.first alone mem₀ id bot candidate safe afforded
  have likely : v.Likely a at' s r₀ := by
    refine ⟨candidate, by rw [id]; exact safe, ?_⟩
    unfold recoveryAttempts at afforded ⊢
    rw [bot, ← first]
    exact afforded
  have idle {r : BotRun} (mem : r ∈ t.runs.rows) (mine : r.botId = run.botId)
      (apart : r.id ≠ run.id) : r.status.executing = false :=
    reviving.idle marked alone mem₀ id bot likely first mem mine apart
  have keyed : (run.id, run.botId) ∈ t.keys := by
    rw [reviving.keyed]
    exact List.mem_map.mpr ⟨r₀, mem₀, by rw [id, bot]⟩
  have counts (botId : String) : ((t.move run .recovering at' reason).1.record run.id
      .recoveryStarted at' detail none none).attempts botId =
        t.attempts botId ++ if botId = run.botId then [at'] else [] := by
    rw [Tables.attempts_record, Tables.attempts_move, Tables.move_keys]
    congr 1
    refine if_congr ⟨fun here => Tables.keys_unique here.2 keyed, ?_⟩ rfl rfl
    rintro rfl
    exact ⟨rfl, keyed⟩
  have grows (botId : String) : (t.attempts botId).length ≤ (((t.move run .recovering at'
      reason).1.record run.id .recoveryStarted at' detail none none).attempts botId).length := by
    rw [counts, List.length_append]
    omega
  have grown : (s.attempts run.botId).length < (((t.move run .recovering at' reason).1.record run.id
      .recoveryStarted at' detail none none).attempts run.botId).length := by
    rw [counts, if_pos rfl, first, List.length_append, List.length_singleton]
    omega
  have distinct : run.id ∉ rest.map BotRun.id ∧ (rest.map BotRun.id).Nodup := by
    have all := reviving.distinct
    rw [List.map_cons, List.nodup_cons] at all
    exact all
  -- a row is as it was, or it is the run's and says recovering
  have rows {r : BotRun} (mem : r ∈ (t.move run .recovering at' reason).1.runs.rows) :
      r ∈ t.runs.rows ∨ r.status = .recovering ∧ r.id = run.id ∧ r.botId = run.botId ∧
        ∃ r₁ ∈ t.runs.rows, r₁.id = run.id ∧ r₁.botId = run.botId := by
    rcases Tables.mem_move mem with mem | ⟨r₁, mem₁, here, rfl⟩
    · exact .inl mem
    · have mine : r₁.botId = run.botId := by
        have listed : (run.id, r₁.botId) ∈ t.keys := List.mem_map.mpr ⟨r₁, mem₁, by rw [here]⟩
        exact Tables.keys_unique listed keyed
      exact .inr ⟨BotRun.moved_status .., by rw [BotRun.moved_id, here],
        by rw [BotRun.moved_botId, mine], r₁, mem₁, here, mine⟩
  refine ⟨⟨?_, ?_, fun r mem => ?_, fun botId => ?_, ?_, distinct.2, fun r mem => ?_⟩, grown⟩
  · refine reviving.single.of_idle run.id fun r mem => ?_
    rcases rows mem with mem | ⟨-, here, mine, r₁, mem₁, here₁, mine₁⟩
    · exact .inl mem
    · refine .inr ⟨here, r₁, mem₁, here₁, mine₁.trans mine.symm, fun other mem' same apart => ?_⟩
      exact idle mem' (same.trans mine₁) (by rw [← here₁]; exact apart)
  · rw [Tables.record_keys, Tables.move_keys, reviving.keyed]
  · rcases rows mem with mem | ⟨recovering, here, mine, -⟩
    · rcases reviving.origin r mem with before | ⟨idle', grown'⟩
      · exact .inl before
      · exact .inr ⟨idle', lt_of_lt_of_le grown' (grows r.botId)⟩
    · refine .inr ⟨by rw [recovering]; rfl, ?_⟩
      rw [mine]
      exact grown
  · by_cases mine : botId = run.botId
    · rw [counts, if_pos mine]
      refine .inr ⟨List.mem_append_right _ (List.mem_singleton.mpr rfl), r₀, mem₀,
        bot.trans mine.symm, likely, fun r mem same => distinct.1 ?_⟩
      exact List.mem_map.mpr ⟨r, mem, same.trans id⟩
    · rw [counts, if_neg mine, List.append_nil]
      exact reviving.next.counted botId
  · obtain ⟨old, before, known⟩ := reviving.recorded
    refine ⟨old ++ [EventType.recoveryStarted.about run.id at' detail none none], ?_,
      fun e mem started => ?_⟩
    · rw [Tables.record_events, Tables.move_events, before, List.append_assoc]
    · rcases List.mem_append.mp mem with mem | mem
      · exact known e mem started
      · rw [List.mem_singleton.mp mem]
        exact ⟨r₀, mem₀, id, likely⟩
  · exact reviving.next.listed r mem

theorem Reviving.considerRecovery (marked : Marked v at' s [] t₁) (alone : v.SweepsAlone a at' s)
    (reviving : Reviving v a at' s t₁ (run :: rest) t) :
    Reviving v a at' s t₁ rest (v.considerRecovery a at' t run).1 := by
  have considered := v.considered a at' t run
  generalize (v.considerRecovery a at' t run).1 = after at considered
  cases considered with
  | kept => exact reviving.next
  | refused eventType refusal detail attempts =>
    refine reviving.next.append Tables.record_events (fun e mem => ?_) rfl fun r mem => .inl mem
    rw [List.mem_singleton.mp mem]
    intro isStart
    have isStart : eventType = .recoveryStarted := isStart
    rw [isStart] at refusal
    rcases refusal with refusal | refusal <;> cases refusal
  | restarted reason detail safe afforded asked =>
    obtain ⟨begun, grown⟩ := reviving.restart marked alone reason detail safe afforded
    obtain ⟨keyed, ⟨new, added, quiet⟩, rows⟩ := asked.quiet
    refine begun.append added quiet keyed fun r mem => ?_
    rcases rows r mem with mem | ⟨crashed, r₁, mem₁, here, id, bot⟩
    · exact .inl mem
    · refine .inr ⟨crashed, r₁, mem₁, id, bot, ?_⟩
      have mine : run.botId = r₁.botId := by
        obtain ⟨before, -⟩ := reviving.listed run (List.mem_cons_self ..)
        exact botId_eq_of_keys (begun.keyed.trans marked.keyed.symm) mem₁ before here.symm
      rw [← mine]
      exact grown

theorem Reviving.initial (marked : Marked v at' s [] t₁) :
    Reviving v a at' s t₁ t₁.crashedRuns t₁ where
  single := marked.single
  keyed := marked.keyed
  origin := fun r mem => .inl mem
  counted := fun botId => by
    obtain ⟨new, added, quiet⟩ := marked.quiet
    exact .inl (Tables.attempts_append new added quiet marked.keyed)
  recorded := by
    obtain ⟨new, added, quiet⟩ := marked.quiet
    exact ⟨new, added, fun e mem started => absurd started (quiet e mem)⟩
  distinct := by
    unfold Tables.crashedRuns Tables.runsWhere
    refine List.Nodup.map_on (fun r mem r' mem' same => ?_) ?_
    · rw [List.mem_mergeSort, List.mem_filter] at mem mem'
      exact Table.eq_of_key mem.1 mem'.1 same
    · refine (List.mergeSort_perm _ _).nodup_iff.mpr ?_
      exact (List.Nodup.of_map _ t₁.runs.keys).filter _
  listed := fun r mem => Tables.mem_crashedRuns.mp mem

theorem reviving_sweep (single : Single s) (alone : v.SweepsAlone a at' s) :
    ∃ t₁, Marked v at' s [] t₁ ∧ Reviving v a at' s t₁ [] (v.sweep a at' s).1 := by
  have marked : Marked v at' s [] (s.pass (v.checkHeartbeat at') s.activeRuns).1 :=
    marked_pass single
  refine ⟨_, marked, ?_⟩
  exact Tables.pass_recursion (.initial marked) fun t run rest reviving =>
    reviving.considerRecovery marked alone

theorem Reviving.recoversAlone (marked : Marked v at' s [] t₁) (alone : v.SweepsAlone a at' s)
    (reviving : Reviving v a at' s t₁ [] t) :
    ∃ new, t.events = s.events ++ new ∧
      ∀ e ∈ new, e.eventType = .recoveryStarted → ∀ r ∈ t.runs.rows, r.id = e.runId →
        ∀ r' ∈ t.runs.rows, r'.botId = r.botId → r'.id ≠ r.id → r'.status.active = false := by
  obtain ⟨new, added, known⟩ := reviving.recorded
  refine ⟨new, added, fun e mem started r here about r' there bot apart => ?_⟩
  obtain ⟨r₀, mem₀, id, likely⟩ := known e mem started
  have mine : r₀.botId = r.botId :=
    botId_eq_of_keys reviving.keyed here mem₀ (id.trans about.symm)
  cases active : r'.status.active with
  | false => rfl
  | true =>
    have going : r'.status ≠ .crashed := by
      intro crashed
      rw [crashed] at active
      cases active
    have executing : r'.status.executing = true := by
      cases status : r'.status <;> rw [status] at active <;> first | rfl | cases active
    rcases reviving.origin r' there with before | ⟨inactive, -⟩
    · rcases marked.origin r' before with old | ⟨crashed, -⟩
      · have other := (alone r₀ mem₀ likely r' old (bot.trans mine.symm)
          (by rw [id, ← about]; exact apart)).1 executing
        rcases other with crashed | ⟨-, stale⟩
        · exact absurd crashed going
        · exact absurd (marked.awake r' before active stale) List.not_mem_nil
      · exact absurd crashed going
    · rw [inactive] at active
      cases active

end Reviving

theorem single_planRestart (at' : Time) (single : Single t) :
    Single (planRestart at' t).1 ∧
      ∃ new, (planRestart at' t).1.events = t.events ++ new ∧
        ∀ e ∈ new, e.eventType ≠ .recoveryStarted := by
  refine planRestart_induction (P := fun _ t' => Single t' ∧ ∃ new, t'.events = t.events ++ new ∧
    ∀ e ∈ new, e.eventType ≠ .recoveryStarted)
    ⟨single, [], (List.append_nil _).symm, fun e mem => absurd mem List.not_mem_nil⟩
    fun t' bot _ held => ?_
  obtain ⟨single', new, added, quiet⟩ := held
  rcases planBot_cases at' t' bot with same | ⟨run, reason, -, -, -, -, -, -, marked⟩
  · rw [same]
    exact ⟨single', new, added, quiet⟩
  · rw [marked]
    refine ⟨single'.of_rows fun r mem => ?_,
      new ++ [EventType.restartOrphan.about run.id at' reason (some run.status) none], ?_,
      fun e mem => ?_⟩
    · rw [Tables.record_runs] at mem
      rcases Tables.mem_move mem with mem | ⟨r₀, mem₀, -, rfl⟩
      · exact ⟨r, mem, rfl, rfl, fun executing => executing⟩
      · refine ⟨r₀, mem₀, (BotRun.moved_id ..).symm, (BotRun.moved_botId ..).symm,
          fun executing => ?_⟩
        cases executing
    · rw [Tables.record_events, Tables.move_events, added, List.append_assoc]
    · rcases List.mem_append.mp mem with mem | mem
      · exact quiet e mem
      · rw [List.mem_singleton.mp mem]
        exact fun isStart => by cases isStart

theorem single_setRunStatus (single : Single t) {runId : String} {status : BotState}
    {reason : Text} {at' : Time}
    (idle : status.executing = true → ∀ r ∈ t.runs.rows, r.id = runId → OthersIdle t r) :
    Single (t.setRunStatus runId status reason at') := by
  rcases Tables.setRunStatus_cases t runId status reason at' with ⟨same, -⟩ | ⟨-, -, rows⟩
  · rw [same]
    exact single
  · cases executing : status.executing with
    | true =>
      refine single.of_idle runId fun r mem => ?_
      rcases rows r mem with ⟨mem, -⟩ | ⟨r₀, mem₀, here, rfl⟩
      · exact .inl mem
      · exact .inr ⟨here, r₀, mem₀, here, rfl, idle executing r₀ mem₀ here⟩
    | false =>
      refine single.of_rows fun r mem => ?_
      rcases rows r mem with ⟨mem, -⟩ | ⟨r₀, mem₀, here, rfl⟩
      · exact ⟨r, mem, rfl, rfl, fun executing => executing⟩
      · refine ⟨r₀, mem₀, rfl, rfl, fun going => ?_⟩
        have going : status.executing = true := going
        rw [executing] at going
        cases going

theorem recoversAlone_of_quiet (new : List BotEvent)
    (added : w'.tables.events = w.tables.events ++ new)
    (quiet : ∀ e ∈ new, e.eventType ≠ .recoveryStarted) : RecoversAlone w w' :=
  ⟨new, added, fun e mem started => absurd started (quiet e mem)⟩

theorem recoversAlone_of_same (same : w'.tables.events = w.tables.events) : RecoversAlone w w' :=
  ⟨[], by rw [same, List.append_nil], fun e mem => absurd mem List.not_mem_nil⟩

theorem single_step {event : Event} (single : Single w.tables) (undisputed : Undisputed v w event)
    (taken : w.step v event = some w') : Single w'.tables ∧ RecoversAlone w w' := by
  have command {botId : String} {accepts : BotState → Bool} {status : BotState} {reason : Text}
      {at' : Time} {keep : Bool}
      (taken : w.commanded botId accepts status reason at' keep = some w')
      (idle : status.executing = true → ∀ bot ∈ w.live botId, ∀ r ∈ w.tables.runs.rows,
        r.id = bot.runId → OthersIdle w.tables r) :
      Single w'.tables ∧ RecoversAlone w w' := by
    obtain ⟨bot, live, -, wrote⟩ := World.commanded_tables taken
    refine ⟨?_, ?_⟩
    · rw [wrote]
      exact single_setRunStatus single fun executing => idle executing bot live
    · rcases Tables.setRunStatus_cases w.tables bot.runId status reason at' with
        ⟨same, -⟩ | ⟨-, recorded, -⟩
      · exact recoversAlone_of_same (by rw [wrote, same])
      · refine recoversAlone_of_quiet _ (by rw [wrote, recorded]) fun e mem => ?_
        rw [List.mem_singleton.mp mem]
        exact fun isStart => by cases isStart
  cases event with
  | start botId runId at' =>
    obtain ⟨free, rfl⟩ := World.start_tables taken
    refine ⟨fun r mem r' mem' bot executing executing' => ?_, ?_⟩
    · rw [World.started_rows] at mem mem'
      rcases List.mem_append.mp mem with mem | mem
      · rcases List.mem_append.mp mem' with mem' | mem'
        · exact single r mem r' mem' bot executing executing'
        · rw [List.mem_singleton.mp mem'] at bot
          rw [undisputed r mem bot] at executing
          cases executing
      · rcases List.mem_append.mp mem' with mem' | mem'
        · rw [List.mem_singleton.mp mem] at bot
          rw [undisputed r' mem' bot.symm] at executing'
          cases executing'
        · rw [List.mem_singleton.mp mem, List.mem_singleton.mp mem']
    · refine recoversAlone_of_quiet
        [{ runId, eventType := .botStarted, level := "info", occurredAt := at' }] rfl
        fun e mem => ?_
      rw [List.mem_singleton.mp mem]
      exact fun isStart => by cases isStart
  | launch runId =>
    obtain ⟨-, marked⟩ := World.launch_tables taken
    refine ⟨?_, recoversAlone_of_same (by rw [marked]; rfl)⟩
    rw [marked]
    refine single.of_idle runId fun r mem => ?_
    rcases Tables.mem_modify BotRun.launched_id mem with ⟨mem, -⟩ | ⟨r₀, mem₀, here, rfl⟩
    · exact .inl mem
    · exact .inr ⟨here, r₀, mem₀, here, rfl, undisputed r₀ mem₀ here⟩
  | pause botId at' | resume botId at' =>
    dsimp only [World.step] at taken
    exact command taken fun _ => undisputed
  | stop botId reason at' | fail botId error at' =>
    dsimp only [World.step] at taken
    exact command taken fun executing => by cases executing
  | beat runId at' =>
    cases taken
    refine ⟨single.of_rows fun r mem => ?_, recoversAlone_of_same rfl⟩
    rcases Tables.mem_modify (BotRun.beaten_id at') mem with ⟨mem, -⟩ | ⟨r₀, mem₀, here, rfl⟩
    · exact ⟨r, mem, rfl, rfl, fun executing => executing⟩
    · exact ⟨r₀, mem₀, rfl, rfl, fun executing => executing⟩
  | sweep answers at' =>
    cases taken
    obtain ⟨t₁, marked, reviving⟩ := reviving_sweep single undisputed
    exact ⟨reviving.single, reviving.recoversAlone marked undisputed⟩
  | planRestart at' =>
    cases taken
    obtain ⟨single', new, added, quiet⟩ := single_planRestart at' single
    exact ⟨single', recoversAlone_of_quiet new added quiet⟩
  | processRestart =>
    cases taken
    exact ⟨single, recoversAlone_of_same rfl⟩

/-- **One run for each bot.** In every history whose steps put a run to execution only where no
other run of its bot is executing, no bot ever has two runs executing, and the supervisor recovers
no run of a bot that has another one active. -/
theorem single_steps (v : Supervisor) (bots : Table Bot.id) {events : List Event}
    (undisputed : Run.Meets (World.step v) (Undisputed v) (World.fresh bots) events) :
    Run.Along (World.step v) (fun w => Single w.tables) (World.fresh bots) events ∧
      Run.Steps (World.step v) RecoversAlone (World.fresh bots) events := by
  have fresh : Single (World.fresh bots).tables := fun r mem => absurd mem List.not_mem_nil
  constructor
  · exact Run.along_of_meets (fun w event w' single undisputed taken =>
      (single_step single undisputed taken).1) fresh undisputed
  · exact Run.steps_of_meets (P := fun w => Single w.tables)
      (fun w event w' single undisputed taken => single_step single undisputed taken) fresh
      undisputed

def crashedAlone : List Event :=
  [.start "bot-a" "run-1" 0, .launch "run-1", .fail "bot-a" [] 10, .sweep unguarded 60]

theorem single_crashedAlone :
    Run.Meets (World.step {}) (Undisputed {}) (World.fresh oneBot) crashedAlone ∧
      Run.Along (World.step {}) (fun w => Single w.tables) (World.fresh oneBot) crashedAlone ∧
      Run.Steps (World.step {}) RecoversAlone (World.fresh oneBot) crashedAlone := by
  have undisputed :
      Run.Meets (World.step {}) (Undisputed {}) (World.fresh oneBot) crashedAlone := by
    decide +kernel
  exact ⟨undisputed, single_steps {} oneBot undisputed⟩

def startedAgain : List Event :=
  [.start "bot-a" "run-1" 0, .launch "run-1", .fail "bot-a" [] 10, .start "bot-a" "run-2" 20,
    .launch "run-2", .sweep unguarded 60]

theorem startedAgain_statuses :
    (Run.exec (World.step {}) (World.fresh oneBot) startedAgain).map (fun w =>
      w.tables.runs.rows.map fun r => (r.id, r.botId, r.status)) =
        some [("run-1", "bot-a", .recovering), ("run-2", "bot-a", .running)] := by
  decide +kernel

/-- The supervisor recovers a crashed run beside the one that replaced it. -/
theorem not_forall_single :
    ¬ ∀ (v : Supervisor) (bots : Table Bot.id) (events : List Event),
        Run.Along (World.step v) (fun w => Single w.tables) (World.fresh bots) events ∧
          Run.Steps (World.step v) RecoversAlone (World.fresh bots) events := by
  intro all
  obtain ⟨w, run, statuses⟩ := Option.map_eq_some_iff.mp startedAgain_statuses
  have single := (all {} oneBot startedAgain).1.last run
  have row (key : String × String × BotState)
      (mem : key ∈
        [("run-1", "bot-a", BotState.recovering), ("run-2", "bot-a", BotState.running)]) :
      ∃ r ∈ w.tables.runs.rows, (r.id, r.botId, r.status) = key := by
    rw [← statuses] at mem
    exact List.mem_map.mp mem
  obtain ⟨r, mem, is⟩ := row _ (List.mem_cons_self ..)
  obtain ⟨r', mem', is'⟩ := row _ (List.mem_cons_of_mem _ (List.mem_cons_self ..))
  obtain ⟨id, bot, status⟩ : r.id = "run-1" ∧ r.botId = "bot-a" ∧ r.status = .recovering := by
    simpa using is
  obtain ⟨id', bot', status'⟩ : r'.id = "run-2" ∧ r'.botId = "bot-a" ∧ r'.status = .running := by
    simpa using is'
  have same := single r mem r' mem' (bot.trans bot'.symm) (by rw [status]; rfl)
    (by rw [status']; rfl)
  rw [id, id'] at same
  exact absurd same (by decide)

end TradeResearch.Bots
