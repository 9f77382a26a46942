import TradeResearch.Lib.Run
import TradeResearch.Positions.Reconciler
import TradeResearch.Recovery.SafeMode

/-!
# Startup recovery and the release of a latch

`backend/app/recovery/manager.py`, with the checks of `backend/app/recovery/reconciliation.py` that
may latch. A run of the startup sequence awaits between its checks, so the platform, the latch and
other runs move between them: `World.step` interleaves runs, each check one event and what follows
the last await another. The checks that never latch answer what the platform says they answer, and
the facts and the audit rows of a step are left out.

* `RecoveryManager.concluded` is the end of `run_startup`, and `RecoveryManager.released` what
  `release` does after it.
* `latched_latchFrom` and `not_blocking_of_released` say what each does to a latch.
-/

namespace TradeResearch.Recovery

open Oms (OrderStatus)
open Positions (PositionStatus)

inductive StepStatus where
  | ok
  | attention
  | skipped
  | failed
  deriving DecidableEq

inductive StepName where
  | configuration
  | database
  | migrations
  | eventBus
  | marketData
  | webhookGateway
  | broker
  | omsReconciliation
  | positionReconciliation
  | riskEngine
  | botRecovery
  | notifications
  | monitoring
  | operationalMode
  | safeModeRelease
  deriving DecidableEq

structure Step where
  name : StepName
  status : StepStatus
  detail : Text
  at_ : Time

def Step.blocking (step : Step) : Bool := step.status = .attention ∨ step.status = .failed

def StepName.latches : StepName → Option SafeModeReason
  | omsReconciliation => some .unknownOrderState
  | positionReconciliation => some .positionMismatch
  | broker => some .brokerUnreachable
  | database => some .databaseInconsistent
  | migrations => some .databaseInconsistent
  | _ => none

structure Fault where
  typeName : String
  message : Text

structure Platform where
  environment : String
  tradingMode : String
  liveTrading : Bool
  selectOne : Except Fault ℤ
  expectedTables : List String
  tables : Except Fault (List String)
  adapters : Except Fault (List String)
  health : Except Fault (List (String × Bool))
  orders : Except Fault (List OrderStatus)
  positions : Except Fault (List PositionStatus)
  sessionFactory : Bool
  other : StepName → Except Fault (StepStatus × Text)

section Checks

variable (p : Platform)

def count (n : ℕ) : Text := Text.num n

def checkDatabase : Except Fault (StepStatus × Text) := do
  let value ← p.selectOne
  return if value ≠ 1 then (.failed, Text.lit "unexpected reply " ++ Text.num value)
    else (.ok, Text.lit "SELECT 1 ok")

def missingTables (present : List String) : List String :=
  p.expectedTables.filter fun table => table ∉ present

def checkSchema : Except Fault (StepStatus × Text) := do
  let present ← p.tables
  let missing := missingTables p present
  return if missing ≠ [] then
      (.failed, count missing.length ++ Text.lit
        (" table(s) the models expect are not present. This " ++
          "process is running against a schema it does not match; migrations " ++
          "have not been applied. Nothing is migrated here -- a process that " ++
          "migrates on boot is N processes racing to migrate."))
    else (.ok, Text.lit "all " ++ count p.expectedTables.length ++
      Text.lit " expected tables are present")

def checkBroker : Except Fault (StepStatus × Text) := do
  let adapters ← p.adapters
  if adapters = [] then
    return (.skipped, Text.lit
      ("no broker adapter is registered, so there is nothing to reconcile " ++
        "against. This is not a clean reconciliation; it is the absence of one."))
  let health ← p.health
  let usable := health.filter Prod.snd
  return if usable.length = health.length then
      (.ok, count usable.length ++ Text.lit " adapter(s) connected")
    else
      (.attention, count (health.length - usable.length) ++ Text.lit " of " ++
        count health.length ++ Text.lit
        (" adapter(s) are not usable. " ++
          "New orders must not be sent on an account whose venue link is not " ++
          "established; the adapter refuses regardless, and safe mode says so."))

def checkOrders : Except Fault (StepStatus × Text) := do
  let rows := (← p.orders).filter fun status => status = .unknown ∨ status = .submitting
  return if rows = [] then
      (.ok, Text.lit "no order is in a state whose venue answer was never established")
    else
      (.attention, count rows.length ++ Text.lit
        (" order(s) whose venue state was never established. They are " ++
          "settled by asking the venue (POST /v1/orders/{id}/reconcile), never by " ++
          "re-sending: an IPC timeout after order_send looks exactly like a " ++
          "rejection from this side."))

def checkPositions : Except Fault (StepStatus × Text) := do
  let rows ← p.positions
  let unsettled := rows.filter fun status => status = .unknown ∨ status = .reconciling
  let held := rows.filter fun status => status = .open ∨ status = .partiallyClosed
  return if unsettled = [] then
      (.ok, count held.length ++ Text.lit " open position(s); none flagged as unsettled")
    else
      (.attention, count unsettled.length ++ Text.lit
        (" position(s) the platform could not settle against the venue. " ++
          "Nothing is closed or opened to resolve this: an unexpected venue position " ++
          "may be a trade somebody made by hand."))

def configuration : StepStatus × Text :=
  let live := if p.liveTrading then "on" else "off"
  (.ok, Text.lit s!"{p.environment}, trading mode {p.tradingMode}, live trading {live}")

def answer : StepName → Except Fault (StepStatus × Text)
  | .configuration => .ok (configuration p)
  | .database => checkDatabase p
  | .migrations => checkSchema p
  | .broker => checkBroker p
  | .omsReconciliation => checkOrders p
  | .positionReconciliation => checkPositions p
  | name => p.other name

def wrapped : StepName → Bool
  | .database | .migrations | .marketData | .broker | .omsReconciliation
  | .positionReconciliation | .botRecovery => true
  | _ => false

def evaluate (name : StepName) (now : Time) : Except Fault Step :=
  match answer p name with
  | .ok (status, detail) => .ok ⟨name, status, detail, now⟩
  | .error fault =>
    if wrapped name then
      .ok ⟨name, .failed, (Text.lit s!"the check itself failed: {fault.typeName}: " ++
        fault.message).take 300, now⟩
    else .error fault

def sequence : List StepName :=
  [.configuration, .database, .migrations, .eventBus, .marketData, .webhookGateway, .broker,
    .omsReconciliation, .positionReconciliation, .riskEngine] ++
  (if p.sessionFactory then [.botRecovery] else []) ++ [.notifications, .monitoring]

end Checks

structure RecoveryReport where
  at_ : Time
  steps : List Step
  safeModeEngaged : List SafeModeReason

structure RecoveryManager where
  safeMode : SafeMode
  lastStartup : Option RecoveryReport

def latchStep (now : Time) (s : SafeMode) (step : Step) : SafeMode :=
  if step.blocking then
    match step.name.latches with
    | some reason => s.engage reason step.detail none now
    | none => s
  else s

def latchFrom (now : Time) (s : SafeMode) (steps : List Step) : SafeMode :=
  steps.foldl (latchStep now) s

def operationalMode (p : Platform) (s : SafeMode) (now : Time) : Step :=
  { name := .operationalMode
    status := if s.engaged then .attention else .ok
    detail := if s.engaged then Text.lit
        ("SAFE MODE. New orders, automated execution and bot recovery are " ++
          "blocked until the conditions below are resolved and an " ++
          "administrator releases the latch.")
      else Text.lit
        (s!"normal, in {p.tradingMode} mode. Starting " ++
          "successfully does not enable live trading and never will: that " ++
          "is a configuration and a set of gates, neither of which recovery " ++
          "can touch.")
    at_ := now }

def RecoveryManager.concluded (m : RecoveryManager) (p : Platform) (began now : Time)
    (steps : List Step) : RecoveryManager :=
  let safeMode := latchFrom now m.safeMode steps
  { safeMode
    lastStartup := some
      { at_ := began
        steps := steps ++ [operationalMode p safeMode now]
        safeModeEngaged := safeMode.reasons.map Latch.reason } }

def blockingReasons (steps : List Step) : List (Option SafeModeReason) :=
  (steps.filter Step.blocking).map fun step => step.name.latches

def releaseLatch (steps : List Step) (actorUserId : String) (why : Text) (now : Time)
    (cleared : List SafeModeReason × SafeMode) (latch : Latch) : List SafeModeReason × SafeMode :=
  if some latch.reason ∈ blockingReasons steps then cleared
  else
    match cleared.2.release latch.reason actorUserId why now with
    | (true, safeMode) => (cleared.1 ++ [latch.reason], safeMode)
    | (false, safeMode) => (cleared.1, safeMode)

def RecoveryManager.released (m : RecoveryManager) (actorUserId : String) (why : Text)
    (now : Time) : RecoveryManager :=
  match m.lastStartup with
  | none => m
  | some report =>
    let (cleared, safeMode) := m.safeMode.reasons.foldl
      (releaseLatch report.steps actorUserId why now) ([], m.safeMode)
    let still := safeMode.reasons.map Latch.reason
    { safeMode
      lastStartup := some
        { report with
          safeModeEngaged := still
          steps := report.steps ++
            [{ name := .safeModeRelease
               status := if cleared ≠ [] then .ok else .attention
               detail := Text.lit "released " ++ count cleared.length ++
                Text.lit " latch(es); " ++ count still.length ++ Text.lit " still holding"
               at_ := now }] } }

section Latches

variable {now : Time} {s : SafeMode}

theorem latched_latchStep {step : Step} :
    (latchStep now s step).Latched reason ↔
      s.Latched reason ∨ (step.blocking = true ∧ step.name.latches = some reason) := by
  unfold latchStep
  by_cases blocking : step.blocking = true
  · rw [if_pos blocking]
    cases maps : step.name.latches with
    | none => simp
    | some reason' =>
      rw [SafeMode.latched_engage, and_iff_right blocking, Option.some.injEq, eq_comm (a := reason)]
  · rw [if_neg blocking, iff_self_or]
    exact fun both => absurd both.1 blocking

theorem latched_latchFrom {steps : List Step} :
    (latchFrom now s steps).Latched reason ↔
      s.Latched reason ∨
        ∃ step ∈ steps, step.blocking = true ∧ step.name.latches = some reason := by
  unfold latchFrom
  induction steps generalizing s with
  | nil => simp
  | cons step steps ih =>
    rw [List.foldl_cons, ih, latched_latchStep, List.exists_mem_cons_iff, or_assoc]

theorem not_mem_blockingReasons_of_released {steps : List Step} {actorUserId : String} {why : Text}
    (latches : List Latch) (cleared : List SafeModeReason × SafeMode)
    (before : cleared.2.Latched reason)
    (after : ¬ (latches.foldl (releaseLatch steps actorUserId why now) cleared).2.Latched reason) :
    some reason ∉ blockingReasons steps := by
  induction latches generalizing cleared with
  | nil => exact absurd before after
  | cons latch latches ih =>
    by_cases still : (releaseLatch steps actorUserId why now cleared latch).2.Latched reason
    · exact ih _ still after
    · unfold releaseLatch at still
      by_cases blocking : some latch.reason ∈ blockingReasons steps
      · rw [if_pos blocking] at still
        exact absurd before still
      · rw [if_neg blocking] at still
        have opened : ¬ (cleared.2.release latch.reason actorUserId why now).2.Latched reason := by
          rcases out : cleared.2.release latch.reason actorUserId why now with ⟨_ | _, t⟩
          · rwa [out] at still
          · rwa [out] at still
        rw [SafeMode.latched_release, not_and_not_right] at opened
        rw [opened before]
        exact blocking

theorem not_blocking_of_released {m : RecoveryManager} {p : Platform} {began : Time}
    {steps : List Step} {actorUserId : String} {why : Text}
    (before : m.safeMode.Latched reason)
    (after : ¬ ((m.concluded p began now steps).released actorUserId why now).safeMode.Latched
      reason) {step : Step} (mem : step ∈ steps) (maps : step.name.latches = some reason) :
    step.blocking = false := by
  have latched : (latchFrom now m.safeMode steps).Latched reason :=
    latched_latchFrom.mpr (.inl before)
  have missing := not_mem_blockingReasons_of_released _ ([], latchFrom now m.safeMode steps) latched
    after
  by_contra blocking
  rw [Bool.not_eq_false] at blocking
  refine missing (List.mem_map.mpr ⟨step, List.mem_filter.mpr ⟨?_, blocking⟩, maps⟩)
  exact List.mem_append_left _ mem

end Latches

inductive Caller where
  | startup
  | release (actorUserId : String) (why : Text)

structure Checking where
  id : ℕ
  caller : Caller
  began : Time
  evaluated : List (Step × ℕ)
  remaining : List StepName

def Checking.steps (run : Checking) : List Step := run.evaluated.map Prod.fst

structure World where
  platform : Platform
  manager : RecoveryManager
  runs : Table Checking.id
  clock : ℕ
  origin : SafeModeReason → Option (StepName × ℕ)

inductive Event where
  /-- The platform changes under the checks. -/
  | change (platform : Platform)
  /-- An operator enters safe mode. -/
  | engage (detail : Text) (actorUserId : String) (now : Time)
  /-- The startup sequence, or the commit after it, failed. -/
  | startupFailed (now : Time)
  | start (id : ℕ) (caller : Caller) (now : Time)
  | check (id : ℕ) (now : Time)
  | finish (id : ℕ) (now : Time)

namespace World

def fresh (platform : Platform) : World :=
  { platform
    manager := ⟨SafeMode.fresh, none⟩
    runs := Table.empty Checking.id
    clock := 0
    origin := fun _ => none }

variable (w : World)

def Latched (reason : SafeModeReason) : Prop := w.manager.safeMode.Latched reason

instance (reason : SafeModeReason) : Decidable (w.Latched reason) :=
  inferInstanceAs (Decidable (w.manager.safeMode.Latched reason))

def originAfter (steps : List Step) (reason : SafeModeReason) : Option (StepName × ℕ) :=
  if w.Latched reason then w.origin reason
  else
    match steps.find? fun step => step.blocking ∧ step.name.latches = some reason with
    | some step => some (step.name, w.clock)
    | none => w.origin reason

def startupFailed (now : Time) : World :=
  { w with
    manager.safeMode := w.manager.safeMode.engage .recoveryFailed
      (Text.lit "the startup recovery sequence itself failed; nothing was verified") none now }

def finished (run : Checking) (now : Time) : World :=
  let concluded := w.manager.concluded w.platform run.began now run.steps
  { w with
    manager := match run.caller with
      | .startup => concluded
      | .release actorUserId why => concluded.released actorUserId why now
    runs := w.runs.erase run.id
    origin := w.originAfter run.steps }

def aborted (run : Checking) (now : Time) : World :=
  match run.caller with
  | .startup => { w with runs := w.runs.erase run.id }.startupFailed now
  | .release _ _ => { w with runs := w.runs.erase run.id }

def checked (run : Checking) (name : StepName) (rest : List StepName) (now : Time) : World :=
  match evaluate w.platform name now with
  | .ok step =>
    { w with
      runs := w.runs.put
        { run with evaluated := run.evaluated ++ [(step, w.clock)], remaining := rest } }
  | .error _ => w.aborted run now

def act : Event → Option World
  | .change platform => some { w with platform }
  | .engage detail actorUserId now =>
    some { w with
      manager.safeMode := w.manager.safeMode.engage .operator detail (some actorUserId) now }
  | .startupFailed now => some (w.startupFailed now)
  | .start id caller now =>
    if free : id ∉ w.runs.rows.map Checking.id then
      some { w with runs := w.runs.insert ⟨id, caller, now, [], sequence w.platform⟩ free }
    else none
  | .check id now =>
    match w.runs.find? id with
    | none => none
    | some run =>
      match run.remaining with
      | [] => none
      | name :: rest => some (w.checked run name rest now)
  | .finish id now =>
    match w.runs.find? id with
    | none => none
    | some run => if run.remaining = [] then some (w.finished run now) else none

def step (e : Event) : Option World := (w.act e).map fun t => { t with clock := w.clock + 1 }

end World

end TradeResearch.Recovery
