import Mathlib.Data.Fintype.Basic
import TradeResearch.Execution.Pipeline
import TradeResearch.Lib.Run
import TradeResearch.Lib.Table

/-!
# The execution workers over the signal table

`ExecutionWorker` of `backend/app/execution/worker.py`: any number of workers take recorded signals
from one table and hand them to their pipelines. `_claim` reads a batch `FOR UPDATE SKIP LOCKED` and
writes nothing to the rows it can act on, so its commit gives them back to the next query as they
were.

* `World.step` is one step of one worker, or of the gateway that records a signal. The translation
  of a row and the answer of the pipeline are arguments.
* `Apart` holds in every run: two claims that are open at one time share no row.
* `Exclusive` says that a signal without a final status went to one worker's pipeline at most, and
  `ClaimsFree` is what keeps it: no claim takes a row another worker has in hand or was handed.
-/

namespace TradeResearch.Execution.Workers

inductive SignalStatus where
  | new
  | approved
  | vetoed
  | expired
  | executed
  deriving DecidableEq

structure Settlement where
  executionId : String
  outcome : Outcome
  detail : Text
  settledAt : Time

structure Signal where
  id : String
  signalKey : String
  source : String
  direction : String
  mode : String
  signalTime : Time
  authStrength : String
  status : SignalStatus := .new
  /-- The metadata the gateway wrote. -/
  meta_ : List (String × Text) := []
  settlement : Option Settlement := none

def statusFor : Outcome → Option SignalStatus
  | .filled => some .executed
  | .partiallyFilled => some .executed
  | .orderSubmitted => some .executed
  | .duplicateSignal => some .executed
  | .riskVetoed => some .vetoed
  | .riskHalted => some .vetoed
  | .killSwitch => some .vetoed
  | .aiRejected => some .vetoed
  | .sizingRefused => some .vetoed
  | .strategyDisabled => some .vetoed
  | .signalStale => some .expired
  | .signalInvalid => some .vetoed
  | .strategyUnknown => some .vetoed
  | .sourceUnauthorized => some .vetoed
  | .executionRejected => some .executed
  | _ => none

def Signal.vetoed (s : Signal) : Signal := { s with status := .vetoed }

def Signal.settled (status : SignalStatus) (executionId : String) (result : ExecutionResult)
    (now : Time) (s : Signal) : Signal :=
  { s with
    status
    settlement := some
      { executionId, outcome := result.outcome, detail := result.detail.take 300
        settledAt := now } }

structure ExecutionWorker where
  toSignal : Signal → Option IncomingSignal
  batch : ℕ := 20

abbrev Claimed := String × IncomingSignal

inductive Stage where
  /-- The transaction of `_claim` is open and holds the rows locked. -/
  | claiming (claimed : List Claimed) (vetoed : List String)
  /-- The rows still to be processed; none between two ticks. -/
  | working (rows : List Claimed)
  /-- A row is with the pipeline. -/
  | processing (id : String) (rest : List Claimed)
  /-- The pipeline has answered, and `_settle` is to come. -/
  | settling (id executionId : String) (result : ExecutionResult) (rest : List Claimed)

namespace Stage

def locked : Stage → List String
  | claiming claimed vetoed => claimed.map Prod.fst ++ vetoed
  | _ => []

def batch : Stage → List String
  | claiming _ _ => []
  | working rows => rows.map Prod.fst
  | processing id rest => id :: rest.map Prod.fst
  | settling id _ _ rest => id :: rest.map Prod.fst

def held (stage : Stage) : List String := stage.locked ++ stage.batch

theorem mem_held {stage : Stage} {id : String} :
    id ∈ stage.held ↔ id ∈ stage.locked ∨ id ∈ stage.batch :=
  List.mem_append

end Stage

structure World (ι : Type) where
  signals : Table Signal.id
  stages : ι → Stage
  /-- Which worker called `pipeline.process` with which signal, in order. -/
  handed : List (ι × String)

inductive Event (ι : Type) where
  | record (signal : Signal)
  /-- The query of `_claim` returns rows, in this order. -/
  | claim (worker : ι) (ids : List String)
  | commit (worker : ι)
  | process (worker : ι)
  | answer (worker : ι) (executionId : String) (result : ExecutionResult)
  | settle (worker : ι) (now : Time)
  /-- The pass raises, or its process dies: an open transaction is rolled back. -/
  | abandon (worker : ι)

namespace World

def start (signals : Table Signal.id) : World ι where
  signals
  stages := fun _ => .working []
  handed := []

variable [Fintype ι]

def Locked (w : World ι) (id : String) : Prop := ∃ i, id ∈ (w.stages i).locked

instance (w : World ι) (id : String) : Decidable (w.Locked id) :=
  inferInstanceAs (Decidable (∃ i, id ∈ (w.stages i).locked))

def claimable (w : World ι) : List Signal :=
  w.signals.rows.filter fun s => s.status = .new ∧ ¬ w.Locked s.id

def selected (w : World ι) (ids : List String) : List Signal :=
  ids.filterMap fun id => w.claimable.find? fun s => s.id = id

def Returns (w : World ι) (batch : ℕ) (ids : List String) : Prop :=
  (w.selected ids).map Signal.id = ids ∧ ids.Nodup ∧
    ids.length = min batch w.claimable.length ∧
      (w.selected ids).Pairwise (fun s t => s.signalTime ≤ t.signalTime) ∧
        ∀ t ∈ w.claimable, t.id ∉ ids → ∀ s ∈ w.selected ids, s.signalTime ≤ t.signalTime

instance (w : World ι) (batch : ℕ) (ids : List String) : Decidable (w.Returns batch ids) :=
  inferInstanceAs (Decidable (_ ∧ _))

end World

def claimRows (toSignal : Signal → Option IncomingSignal) :
    List Signal → List Claimed × List String
  | [] => ([], [])
  | row :: rows =>
    match toSignal row with
    | none => ((claimRows toSignal rows).1, row.id :: (claimRows toSignal rows).2)
    | some incoming =>
      ((row.id, incoming) :: (claimRows toSignal rows).1, (claimRows toSignal rows).2)

def veto (signals : Table Signal.id) (ids : List String) : Table Signal.id :=
  signals.map (fun s => if s.id ∈ ids then s.vetoed else s) fun s => by
    split <;> rfl

def settle (signals : Table Signal.id) (id executionId : String) (result : ExecutionResult)
    (now : Time) : Table Signal.id :=
  match statusFor result.outcome with
  | none => signals
  | some status => signals.modify id (Signal.settled status executionId result now) fun _ => rfl

namespace World

variable [Fintype ι] [DecidableEq ι]

def goes (w : World ι) (i : ι) (stage : Stage) : World ι :=
  { w with stages := Function.update w.stages i stage }

def step (workers : ι → ExecutionWorker) (w : World ι) : Event ι → Option (World ι)
  | .record signal =>
    if free : signal.id ∉ w.signals.rows.map Signal.id then
      if signal.status = .new then some { w with signals := w.signals.insert signal free } else none
    else none
  | .claim i ids =>
    match w.stages i with
    | .working [] =>
      if w.Returns (workers i).batch ids then
        let rows := claimRows (workers i).toSignal (w.selected ids)
        some (w.goes i (.claiming rows.1 rows.2))
      else none
    | _ => none
  | .commit i =>
    match w.stages i with
    | .claiming claimed vetoed =>
      some { w.goes i (.working claimed) with signals := veto w.signals vetoed }
    | _ => none
  | .process i =>
    match w.stages i with
    | .working ((id, _) :: rest) =>
      some { w.goes i (.processing id rest) with handed := w.handed ++ [(i, id)] }
    | _ => none
  | .answer i executionId result =>
    match w.stages i with
    | .processing id rest => some (w.goes i (.settling id executionId result rest))
    | _ => none
  | .settle i now =>
    match w.stages i with
    | .settling id executionId result rest =>
      if w.Locked id ∧ statusFor result.outcome ≠ none then none
      else some { w.goes i (.working rest) with
        signals := Workers.settle w.signals id executionId result now }
    | _ => none
  | .abandon i => some (w.goes i (.working []))

end World

theorem mem_claimRows {toSignal : Signal → Option IncomingSignal} {rows : List Signal}
    {id : String} (mem : id ∈ (Stage.claiming (claimRows toSignal rows).1
      (claimRows toSignal rows).2).locked) : id ∈ rows.map Signal.id := by
  induction rows with
  | nil => exact mem
  | cons row rows ih =>
    unfold claimRows at mem
    rw [List.map_cons, List.mem_cons]
    cases translated : toSignal row with
    | none =>
      rw [translated] at mem
      rcases List.mem_append.mp mem with claimed | retired
      · exact .inr (ih (List.mem_append.mpr (.inl claimed)))
      · rcases List.mem_cons.mp retired with same | later
        · exact .inl same
        · exact .inr (ih (List.mem_append.mpr (.inr later)))
    | some incoming =>
      rw [translated] at mem
      rcases List.mem_append.mp mem with claimed | retired
      · rcases List.mem_cons.mp claimed with same | later
        · exact .inl same
        · exact .inr (ih (List.mem_append.mpr (.inl later)))
      · exact .inr (ih (List.mem_append.mpr (.inr retired)))

section Writes

end Writes

namespace World

variable [Fintype ι] [DecidableEq ι] {workers : ι → ExecutionWorker} {w w' : World ι}

omit [DecidableEq ι] in
theorem Returns.free {batch : ℕ} {ids : List String} (returns : w.Returns batch ids) {id : String}
    (mem : id ∈ ids) : ∃ s ∈ w.signals.rows, s.id = id ∧ s.status = .new ∧ ¬ w.Locked id := by
  rw [← returns.1] at mem
  obtain ⟨s, selected, rfl⟩ := List.mem_map.mp mem
  obtain ⟨id, -, found⟩ := List.mem_filterMap.mp selected
  obtain ⟨row, claimable⟩ := List.mem_filter.mp (List.mem_of_find?_eq_some found)
  obtain ⟨new, unlocked⟩ := of_decide_eq_true claimable
  exact ⟨s, row, rfl, new, unlocked⟩

theorem record_taken {signal : Signal} (taken : step workers w (.record signal) = some w') :
    ∃ free, signal.status = .new ∧ w' = { w with signals := w.signals.insert signal free } := by
  dsimp only [step] at taken
  split at taken
  case isTrue free =>
    split at taken
    case isTrue new =>
      cases taken
      exact ⟨free, new, rfl⟩
    case isFalse => cases taken
  case isFalse => cases taken

theorem claim_taken {ids : List String} (taken : step workers w (.claim i ids) = some w') :
    w.stages i = .working [] ∧ w.Returns (workers i).batch ids ∧
      w' = w.goes i (.claiming (claimRows (workers i).toSignal (w.selected ids)).1
        (claimRows (workers i).toSignal (w.selected ids)).2) := by
  dsimp only [step] at taken
  split at taken
  case h_1 here =>
    split at taken
    case isTrue returns =>
      cases taken
      exact ⟨here, returns, rfl⟩
    case isFalse => cases taken
  case h_2 => cases taken

theorem commit_taken (taken : step workers w (.commit i) = some w') :
    ∃ claimed vetoed, w.stages i = .claiming claimed vetoed ∧
      w' = { w.goes i (.working claimed) with signals := veto w.signals vetoed } := by
  dsimp only [step] at taken
  split at taken
  case h_1 claimed vetoed here =>
    cases taken
    exact ⟨claimed, vetoed, here, rfl⟩
  case h_2 => cases taken

theorem process_taken (taken : step workers w (.process i) = some w') :
    ∃ id incoming rest, w.stages i = .working ((id, incoming) :: rest) ∧
      w' = { w.goes i (.processing id rest) with handed := w.handed ++ [(i, id)] } := by
  dsimp only [step] at taken
  split at taken
  case h_1 id incoming rest here =>
    cases taken
    exact ⟨id, incoming, rest, here, rfl⟩
  case h_2 => cases taken

theorem answer_taken {executionId : String} {result : ExecutionResult}
    (taken : step workers w (.answer i executionId result) = some w') :
    ∃ id rest, w.stages i = .processing id rest ∧
      w' = w.goes i (.settling id executionId result rest) := by
  dsimp only [step] at taken
  split at taken
  case h_1 id rest here =>
    cases taken
    exact ⟨id, rest, here, rfl⟩
  case h_2 => cases taken

theorem settle_taken {now : Time} (taken : step workers w (.settle i now) = some w') :
    ∃ id executionId result rest, w.stages i = .settling id executionId result rest ∧
      w' = { w.goes i (.working rest) with
        signals := Workers.settle w.signals id executionId result now } := by
  dsimp only [step] at taken
  split at taken
  case h_1 id executionId result rest here =>
    split at taken
    case isTrue => cases taken
    case isFalse =>
      cases taken
      exact ⟨id, executionId, result, rest, here, rfl⟩
  case h_2 => cases taken

def Passes (w : World ι) (e : Event ι) (i : ι) (stage : Stage) : Prop :=
  (stage.locked = [] ∧ ∀ id ∈ stage.batch, id ∈ (w.stages i).held) ∨
    ∃ ids, e = .claim i ids ∧ stage.batch = [] ∧
      ∀ id ∈ stage.locked, id ∈ ids ∧ ¬ w.Locked id

theorem step_stages (taken : step workers w e = some w') :
    w'.stages = w.stages ∨
      ∃ i stage, w'.stages = Function.update w.stages i stage ∧ w.Passes e i stage := by
  cases e with
  | record signal =>
    obtain ⟨-, -, rfl⟩ := record_taken taken
    exact .inl rfl
  | claim i ids =>
    obtain ⟨-, returns, rfl⟩ := claim_taken taken
    refine .inr ⟨i, _, rfl, .inr ⟨ids, rfl, rfl, fun id locked => ?_⟩⟩
    have mem := mem_claimRows locked
    rw [returns.1] at mem
    obtain ⟨-, -, -, -, unlocked⟩ := returns.free mem
    exact ⟨mem, unlocked⟩
  | commit i =>
    obtain ⟨claimed, vetoed, here, rfl⟩ := commit_taken taken
    refine .inr ⟨i, _, rfl, .inl ⟨rfl, fun id mem => ?_⟩⟩
    rw [here, Stage.mem_held]
    exact .inl (List.mem_append_left _ mem)
  | process i =>
    obtain ⟨id, incoming, rest, here, rfl⟩ := process_taken taken
    refine .inr ⟨i, _, rfl, .inl ⟨rfl, fun id mem => ?_⟩⟩
    rw [here, Stage.mem_held]
    exact .inr mem
  | answer i executionId result =>
    obtain ⟨id, rest, here, rfl⟩ := answer_taken taken
    refine .inr ⟨i, _, rfl, .inl ⟨rfl, fun id mem => ?_⟩⟩
    rw [here, Stage.mem_held]
    exact .inr mem
  | settle i now =>
    obtain ⟨id, executionId, result, rest, here, rfl⟩ := settle_taken taken
    refine .inr ⟨i, _, rfl, .inl ⟨rfl, fun id mem => ?_⟩⟩
    rw [here, Stage.mem_held]
    exact .inr (List.mem_cons_of_mem _ mem)
  | abandon i =>
    cases taken
    exact .inr ⟨i, _, rfl, .inl ⟨rfl, fun id mem => absurd mem List.not_mem_nil⟩⟩

theorem step_handed (taken : step workers w e = some w') :
    w'.handed = w.handed ∨
      ∃ i id, e = .process i ∧ id ∈ (w.stages i).held ∧ w'.handed = w.handed ++ [(i, id)] := by
  cases e with
  | record signal =>
    obtain ⟨-, -, rfl⟩ := record_taken taken
    exact .inl rfl
  | claim i ids =>
    obtain ⟨-, -, rfl⟩ := claim_taken taken
    exact .inl rfl
  | commit i =>
    obtain ⟨claimed, vetoed, -, rfl⟩ := commit_taken taken
    exact .inl rfl
  | process i =>
    obtain ⟨id, incoming, rest, here, rfl⟩ := process_taken taken
    refine .inr ⟨i, id, rfl, ?_, rfl⟩
    rw [here, Stage.mem_held]
    exact .inr List.mem_cons_self
  | answer i executionId result =>
    obtain ⟨id, rest, -, rfl⟩ := answer_taken taken
    exact .inl rfl
  | settle i now =>
    obtain ⟨id, executionId, result, rest, -, rfl⟩ := settle_taken taken
    exact .inl rfl
  | abandon i =>
    cases taken
    exact .inl rfl

theorem step_held (taken : step workers w e = some w') {j : ι} {id : String}
    (held : id ∈ (w'.stages j).held) :
    id ∈ (w.stages j).held ∨ ∃ ids, e = .claim j ids ∧ id ∈ ids ∧ ¬ w.Locked id := by
  rcases step_stages taken with same | ⟨i, stage, moved, passes⟩
  · rw [same] at held
    exact .inl held
  · rw [moved, Function.update_apply] at held
    by_cases acting : j = i
    · rw [if_pos acting] at held
      subst acting
      rcases passes with ⟨unlocked, kept⟩ | ⟨ids, rfl, fresh, claimed⟩
      · rw [Stage.mem_held, unlocked] at held
        rcases held with held | held
        · exact absurd held List.not_mem_nil
        · exact .inl (kept id held)
      · rw [Stage.mem_held, fresh] at held
        rcases held with held | held
        · obtain ⟨mem, free⟩ := claimed id held
          exact .inr ⟨ids, rfl, mem, free⟩
        · exact absurd held List.not_mem_nil
    · rw [if_neg acting] at held
      exact .inl held

def Exclusive (w : World ι) : Prop :=
  ∀ s ∈ w.signals.rows, s.status = .new →
    ∀ i j, (i, s.id) ∈ w.handed → (j, s.id) ∈ w.handed → i = j

def ClaimsFree (w : World ι) : Event ι → Prop
  | .claim i ids => ∀ id ∈ ids, ∀ j, j ≠ i → id ∉ (w.stages j).batch ∧ (j, id) ∉ w.handed
  | _ => True

instance (w : World ι) : ∀ e : Event ι, Decidable (w.ClaimsFree e)
  | .claim i ids => inferInstanceAs (Decidable (∀ id ∈ ids, ∀ j, j ≠ i → _))
  | .record _ | .commit _ | .process _ | .answer .. | .settle .. | .abandon _ => .isTrue trivial

structure Owned (w : World ι) : Prop where
  held : ∀ i j id, id ∈ (w.stages i).held → id ∈ (w.stages j).held → i = j
  given : ∀ i j id, id ∈ (w.stages i).held → (j, id) ∈ w.handed → i = j
  handed : ∀ i j id, (i, id) ∈ w.handed → (j, id) ∈ w.handed → i = j

omit [Fintype ι] [DecidableEq ι] in
theorem ClaimsFree.others {i j : ι} {ids : List String} {id : String}
    (free : w.ClaimsFree (.claim i ids)) (mem : id ∈ ids) (unlocked : ¬ w.Locked id)
    (other : i ≠ j) : id ∉ (w.stages j).held ∧ (j, id) ∉ w.handed := by
  obtain ⟨batch, handed⟩ := free id mem j (Ne.symm other)
  refine ⟨fun held => ?_, handed⟩
  rcases Stage.mem_held.mp held with locked | held
  · exact unlocked ⟨j, locked⟩
  · exact batch held

theorem Owned.step (owned : w.Owned) (free : w.ClaimsFree e) (taken : step workers w e = some w') :
    w'.Owned := by
  have one (i j : ι) (id : String) (heldI : id ∈ (w'.stages i).held)
      (heldJ : id ∈ (w'.stages j).held) : i = j := by
    by_contra other
    rcases step_held taken heldI with beforeI | ⟨ids, rfl, mem, unlocked⟩
    · rcases step_held taken heldJ with beforeJ | ⟨ids, rfl, mem, unlocked⟩
      · exact other (owned.held i j id beforeI beforeJ)
      · exact (free.others mem unlocked (Ne.symm other)).1 beforeI
    · rcases step_held taken heldJ with beforeJ | ⟨ids', same, -, -⟩
      · exact (free.others mem unlocked other).1 beforeJ
      · exact other (Event.claim.inj same).1
  have before (i j : ι) (id : String) (held : id ∈ (w'.stages i).held)
      (handed : (j, id) ∈ w.handed) : i = j := by
    by_contra other
    rcases step_held taken held with beforeI | ⟨ids, rfl, mem, unlocked⟩
    · exact other (owned.given i j id beforeI handed)
    · exact (free.others mem unlocked other).2 handed
  rcases step_handed taken with same | ⟨k, given, processed, holds, appended⟩
  · refine ⟨one, fun i j id held handed => ?_, fun i j id => ?_⟩
    · rw [same] at handed
      exact before i j id held handed
    · rw [same]
      exact owned.handed i j id
  · have still (i : ι) (held : given ∈ (w'.stages i).held) : i = k := by
      rcases step_held taken held with beforeI | ⟨ids, claimed, -, -⟩
      · exact owned.held i k given beforeI holds
      · rw [processed] at claimed
        cases claimed
    refine ⟨one, fun i j id held handed => ?_, fun i j id first second => ?_⟩
    · rw [appended] at handed
      rcases List.mem_append.mp handed with earlier | now
      · exact before i j id held earlier
      · cases List.mem_singleton.mp now
        exact still i held
    · rw [appended] at first second
      rcases List.mem_append.mp first with first | first
      · rcases List.mem_append.mp second with second | second
        · exact owned.handed i j id first second
        · cases List.mem_singleton.mp second
          exact (owned.given k i given holds first).symm
      · cases List.mem_singleton.mp first
        rcases List.mem_append.mp second with second | second
        · exact owned.given k j given holds second
        · cases List.mem_singleton.mp second
          rfl

omit [Fintype ι] [DecidableEq ι] in
theorem Owned.exclusive (owned : w.Owned) : w.Exclusive :=
  fun s _ _ i j => owned.handed i j s.id

/-- In a run whose claims are all of free rows, each signal has one worker until it is settled. -/
theorem exclusive_along (workers : ι → ExecutionWorker) (signals : Table Signal.id)
    (events : List (Event ι)) (free : Run.Meets (step workers) ClaimsFree (start signals) events) :
    Run.Along (step workers) Exclusive (start signals) events := by
  have owned : Run.Along (step workers) Owned (start signals) events :=
    Run.along_of_meets (fun _ _ _ owned free => owned.step free)
      ⟨fun _ _ _ held _ => absurd held List.not_mem_nil,
        fun _ _ _ held _ => absurd held List.not_mem_nil,
        fun _ _ _ handed _ => absurd handed List.not_mem_nil⟩ free
  exact Run.Along.mono (fun _ owned => owned.exclusive) owned

end World

def eager : ExecutionWorker where
  toSignal := fun s => some
    { signalKey := s.signalKey, source := s.source, symbol := "EURUSD", side := s.direction
      signalTime := s.signalTime, aware := true, accountId := "a-1", mode := s.mode
      strategyId := none, entryPrice := some 1, authStrength := s.authStrength }
  batch := 1

def alert (id : String) (signalTime : Time) : Signal where
  id
  signalKey := id
  source := "tradingview"
  direction := "buy"
  mode := "paper"
  signalTime
  authStrength := "strong"

def answered (id : String) (outcome : Outcome) : ExecutionResult where
  signalKey := id
  outcome
  time := 0
  detail := []

def overlapping : List (Event (Fin 2)) :=
  [.record (alert "s-1" 1), .record (alert "s-2" 2), .claim 0 ["s-1"], .claim 1 ["s-2"], .commit 0,
    .commit 1, .process 0, .process 1, .answer 0 "e-1" (answered "s-1" .filled), .settle 0 3]

theorem exclusive_overlapping :
    Run.Meets (World.step fun _ => eager) World.ClaimsFree (World.start (Table.empty _))
        overlapping ∧
      Run.Along (World.step fun _ => eager) World.Exclusive (World.start (Table.empty _))
        overlapping := by
  have free : Run.Meets (World.step fun _ => eager) World.ClaimsFree
      (World.start (Table.empty _)) overlapping := by
    decide +kernel
  exact ⟨free, World.exclusive_along (fun _ => eager) _ overlapping free⟩

def claimedTwice : List (Event (Fin 2)) :=
  [.record (alert "s-1" 1), .claim 0 ["s-1"], .commit 0, .claim 1 ["s-1"], .commit 1, .process 0,
    .process 1]

theorem claimedTwice_ends :
    (Run.exec (World.step fun _ => eager) (World.start (Table.empty _)) claimedTwice).map
      (fun w => (w.signals.rows.map (fun s => (s.id, s.status)), w.handed)) =
      some ([("s-1", .new)], [(0, "s-1"), (1, "s-1")]) := by
  decide +kernel

/-- Two workers on one table may both be handed a signal that nothing has become of. -/
theorem not_forall_exclusive :
    ¬ ∀ (workers : Fin 2 → ExecutionWorker) (signals : Table Signal.id)
        (events : List (Event (Fin 2))),
      Run.Along (World.step workers) World.Exclusive (World.start signals) events := by
  intro all
  obtain ⟨w, run, ended⟩ := Option.map_eq_some_iff.mp claimedTwice_ends
  have rows := congrArg Prod.fst ended
  have handed := congrArg Prod.snd ended
  have exclusive := (all (fun _ => eager) (Table.empty _) claimedTwice).last run
  have row : ("s-1", SignalStatus.new) ∈ w.signals.rows.map (fun s => (s.id, s.status)) := by
    rw [show w.signals.rows.map (fun s => (s.id, s.status)) = _ from rows]
    exact List.mem_singleton_self _
  obtain ⟨s, mem, same⟩ := List.mem_map.mp row
  obtain ⟨id, status⟩ := Prod.mk.inj same
  have both (i : Fin 2) (given : (i, "s-1") ∈ [((0 : Fin 2), "s-1"), (1, "s-1")]) :
      (i, s.id) ∈ w.handed := by
    rw [id, show w.handed = _ from handed]
    exact given
  have one : (0 : Fin 2) = 1 :=
    exclusive s mem status 0 1 (both 0 (by decide)) (both 1 (by decide))
  exact absurd one (by decide)

end TradeResearch.Execution.Workers
