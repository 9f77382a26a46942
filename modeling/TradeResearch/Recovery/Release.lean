import TradeResearch.Recovery.Manager

/-!
# Releasing a latch

A release re-runs the startup sequence and opens the latches no blocking step of its own report
stands for. The sequence awaits between its checks, so a second run may close a latch after the
first has passed the check that would have found the condition; the first then opens it.

* `World.Rechecked` is what a release owes: the step that set the latch, evaluated again.
* `World.rechecked_steps`: every history in which no run begins while another is under way keeps it.
-/

namespace TradeResearch.Recovery.World

def Rechecked (w t : World) : Prop :=
  ∀ reason, w.Latched reason → ¬ t.Latched reason →
    ∀ name set, w.origin reason = some (name, set) →
      ∃ run ∈ w.runs.rows, run.id ∉ t.runs.rows.map Checking.id ∧
        ∃ e ∈ run.evaluated, e.1.name = name ∧ e.1.blocking = false ∧ set < e.2

def Alone (w : World) : Event → Prop
  | .start _ _ _ => w.runs.rows = []
  | _ => True

def Checking.Covers (run : Checking) : Prop :=
  ∀ name : StepName, name.latches.isSome →
    (∃ e ∈ run.evaluated, e.1.name = name) ∨ name ∈ run.remaining

structure Inv (w : World) : Prop where
  single : ∀ run ∈ w.runs.rows, ∀ run' ∈ w.runs.rows, run = run'
  stamped : ∀ run ∈ w.runs.rows, ∀ e ∈ run.evaluated, e.2 < w.clock
  later : ∀ run ∈ w.runs.rows, ∀ e ∈ run.evaluated, ∀ reason name set,
    w.origin reason = some (name, set) → set < e.2
  covers : ∀ run ∈ w.runs.rows, Checking.Covers run
  origins : ∀ reason name set, w.origin reason = some (name, set) →
    name.latches = some reason ∧ set < w.clock

theorem inv_fresh (p : Platform) : (fresh p).Inv where
  single run mem := absurd mem List.not_mem_nil
  stamped run mem := absurd mem List.not_mem_nil
  later run mem := absurd mem List.not_mem_nil
  covers run mem := absurd mem List.not_mem_nil
  origins reason name set here := by cases here

theorem mem_sequence {p : Platform} {name : StepName} (latches : name.latches.isSome) :
    name ∈ sequence p := by
  unfold sequence
  cases name <;> simp_all [StepName.latches]

theorem name_of_evaluate {p : Platform} {name : StepName} {now : Time} {step : Step}
    (evaluated : evaluate p name now = .ok step) : step.name = name := by
  unfold evaluate at evaluated
  split at evaluated
  · exact Except.ok.inj evaluated ▸ rfl
  · split at evaluated
    · exact Except.ok.inj evaluated ▸ rfl
    · cases evaluated

section Steps

variable {w t : World}

theorem Inv.counted (inv : w.Inv) (fewer : ∀ run ∈ t.runs.rows, run ∈ w.runs.rows)
    (same : t.origin = w.origin) : Inv { t with clock := w.clock + 1 } where
  single run mem run' mem' := inv.single run (fewer run mem) run' (fewer run' mem')
  stamped run mem e here := Nat.lt_succ_of_lt (inv.stamped run (fewer run mem) e here)
  later run mem e here reason name set from_ :=
    inv.later run (fewer run mem) e here reason name set (same ▸ from_)
  covers run mem := inv.covers run (fewer run mem)
  origins reason name set from_ := by
    obtain ⟨maps, earlier⟩ := inv.origins reason name set (same ▸ from_)
    exact ⟨maps, Nat.lt_succ_of_lt earlier⟩

theorem rechecked_of_grows {n : ℕ}
    (grows : ∀ reason, w.Latched reason → t.Latched reason) :
    w.Rechecked { t with clock := n } :=
  fun reason before after => absurd (grows reason before) after

theorem latched_engaged {reason reason' : SafeModeReason} {detail : Text} {actor : Option String}
    {now : Time} (before : w.Latched reason') :
    (w.manager.safeMode.engage reason detail actor now).Latched reason' :=
  SafeMode.latched_engage.mpr (.inl before)

theorem Inv.started (inv : w.Inv) {id : ℕ} (caller : Caller) (now : Time)
    (alone : w.runs.rows = []) (free : id ∉ w.runs.rows.map Checking.id) :
    let begun : World :=
      { w with runs := w.runs.insert ⟨id, caller, now, [], sequence w.platform⟩ free }
    Inv { begun with clock := w.clock + 1 } ∧ w.Rechecked { begun with clock := w.clock + 1 } := by
  have only : ∀ run ∈ (w.runs.insert ⟨id, caller, now, [], sequence w.platform⟩ free).rows,
      run = ⟨id, caller, now, [], sequence w.platform⟩ := by
    intro run mem
    rcases Table.mem_insert.mp mem with other | rfl
    · rw [alone] at other
      exact absurd other List.not_mem_nil
    · rfl
  refine ⟨⟨fun run mem run' mem' => (only run mem).trans (only run' mem').symm,
    fun run mem e here => ?_, fun run mem e here => ?_, fun run mem name latches => ?_,
    fun reason name set from_ => ?_⟩, rechecked_of_grows fun _ before => before⟩
  · rw [only run mem] at here
    exact absurd here List.not_mem_nil
  · rw [only run mem] at here
    exact absurd here List.not_mem_nil
  · rw [only run mem]
    exact .inr (mem_sequence latches)
  · obtain ⟨maps, earlier⟩ := inv.origins reason name set from_
    exact ⟨maps, Nat.lt_succ_of_lt earlier⟩

theorem Inv.checked (inv : w.Inv) {run : Checking} {name : StepName} {rest : List StepName}
    {now : Time} (held : run ∈ w.runs.rows) (next : run.remaining = name :: rest) :
    Inv { w.checked run name rest now with clock := w.clock + 1 } ∧
      w.Rechecked { w.checked run name rest now with clock := w.clock + 1 } := by
  unfold World.checked
  cases evaluated : evaluate w.platform name now with
  | error fault =>
    unfold World.aborted
    cases run.caller with
    | startup =>
      exact ⟨inv.counted (fun run' mem => (Table.mem_erase.mp mem).1) rfl,
        rechecked_of_grows fun reason before => latched_engaged before⟩
    | release actor why =>
      exact ⟨inv.counted (fun run' mem => (Table.mem_erase.mp mem).1) rfl,
        rechecked_of_grows fun reason before => before⟩
  | ok step =>
    refine ⟨?_, rechecked_of_grows fun reason before => before⟩
    -- the one run there is is the one that was checked
    have only : ∀ run' ∈ (w.runs.put
        { run with evaluated := run.evaluated ++ [(step, w.clock)], remaining := rest }).rows,
        run' = { run with evaluated := run.evaluated ++ [(step, w.clock)], remaining := rest } := by
      intro run' mem
      rcases Table.mem_put.mp mem with ⟨other, apart⟩ | rfl
      · exact absurd (congrArg Checking.id (inv.single run' other run held)) apart
      · rfl
    refine ⟨fun run' mem run'' mem' => (only run' mem).trans (only run'' mem').symm,
      fun run' mem e here => ?_, fun run' mem e here reason name' set from_ => ?_,
      fun run' mem name' latches => ?_, fun reason name' set from_ => ?_⟩
    · rw [only run' mem] at here
      rcases List.mem_append.mp here with before | last
      · exact Nat.lt_succ_of_lt (inv.stamped run held e before)
      · rw [List.mem_singleton.mp last]
        exact Nat.lt_succ_self w.clock
    · rw [only run' mem] at here
      rcases List.mem_append.mp here with before | last
      · exact inv.later run held e before reason name' set from_
      · rw [List.mem_singleton.mp last]
        exact (inv.origins reason name' set from_).2
    · rw [only run' mem]
      rcases inv.covers run held name' latches with ⟨e, before, there⟩ | ahead
      · exact .inl ⟨e, List.mem_append_left _ before, there⟩
      · rw [next] at ahead
        rcases List.mem_cons.mp ahead with rfl | later
        · exact .inl ⟨(step, w.clock), List.mem_append_right _ (List.mem_singleton_self _),
            name_of_evaluate evaluated⟩
        · exact .inr later
    · obtain ⟨maps, earlier⟩ := inv.origins reason name' set from_
      exact ⟨maps, Nat.lt_succ_of_lt earlier⟩

theorem originAfter_cases {steps : List Step} {reason : SafeModeReason} {name : StepName} {set : ℕ}
    (from_ : w.originAfter steps reason = some (name, set)) :
    w.origin reason = some (name, set) ∨ (name.latches = some reason ∧ set = w.clock) := by
  unfold originAfter at from_
  split at from_
  · exact .inl from_
  · split at from_
    · next step first =>
      have closes := List.find?_some first
      simp only [decide_eq_true_eq] at closes
      cases from_
      exact .inr ⟨closes.2, rfl⟩
    · exact .inl from_

theorem Inv.finished (inv : w.Inv) {run : Checking} {now : Time} (held : run ∈ w.runs.rows)
    (done : run.remaining = []) :
    Inv { w.finished run now with clock := w.clock + 1 } ∧
      w.Rechecked { w.finished run now with clock := w.clock + 1 } := by
  have none : ∀ run', run' ∉ (w.runs.erase run.id).rows := by
    intro run' mem
    obtain ⟨other, apart⟩ := Table.mem_erase.mp mem
    exact apart (congrArg Checking.id (inv.single run' other run held))
  refine ⟨⟨fun run' mem => absurd mem (none run'), fun run' mem => absurd mem (none run'),
    fun run' mem => absurd mem (none run'), fun run' mem => absurd mem (none run'),
    fun reason name set from_ => ?_⟩, fun reason before after name set from_ => ?_⟩
  · rcases originAfter_cases from_ with old | ⟨maps, rfl⟩
    · obtain ⟨maps, earlier⟩ := inv.origins reason name set old
      exact ⟨maps, Nat.lt_succ_of_lt earlier⟩
    · exact ⟨maps, Nat.lt_succ_self _⟩
  · -- the run that ends evaluated the step, and not to a blocking one
    obtain ⟨maps, _⟩ := inv.origins reason name set from_
    have latches : name.latches.isSome := by rw [maps]; rfl
    have passed : ∃ e ∈ run.evaluated, e.1.name = name := by
      rcases inv.covers run held name latches with evaluated | ahead
      · exact evaluated
      · rw [done] at ahead
        exact absurd ahead List.not_mem_nil
    obtain ⟨e, mem, here⟩ := passed
    refine ⟨run, held, (w.runs.not_mem_erase run.id), e, mem, here, ?_,
      inv.later run held e mem reason name set from_⟩
    have step : e.1 ∈ run.steps := List.mem_map_of_mem mem
    have opened : ¬ (w.finished run now).manager.safeMode.Latched reason := after
    unfold World.finished at opened
    cases caller : run.caller with
    | startup =>
      rw [caller] at opened
      exact absurd (latched_latchFrom.mpr (.inl before)) opened
    | release actorUserId why =>
      rw [caller] at opened
      exact not_blocking_of_released before opened step (here ▸ maps)

theorem inv_step {e : Event} (inv : w.Inv) (alone : w.Alone e) (taken : w.step e = some t) :
    t.Inv ∧ w.Rechecked t := by
  obtain ⟨u, acted, rfl⟩ := Option.map_eq_some_iff.mp taken
  cases e with
  | change platform =>
    cases acted
    exact ⟨inv.counted (fun _ mem => mem) rfl, rechecked_of_grows fun _ before => before⟩
  | engage detail actor now | startupFailed now =>
    cases acted
    exact ⟨inv.counted (fun _ mem => mem) rfl,
      rechecked_of_grows fun _ before => latched_engaged before⟩
  | start id caller now =>
    change (if free : id ∉ w.runs.rows.map Checking.id then
      some { w with runs := w.runs.insert ⟨id, caller, now, [], sequence w.platform⟩ free }
      else none) = some u at acted
    split at acted
    · next free =>
      cases acted
      exact inv.started caller now alone free
    · cases acted
  | check id now =>
    unfold act at acted
    dsimp only at acted
    cases found : w.runs.find? id with
    | none =>
      rw [found] at acted
      cases acted
    | some run =>
      rw [found] at acted
      dsimp only at acted
      cases next : run.remaining with
      | nil =>
        rw [next] at acted
        cases acted
      | cons name rest =>
        rw [next] at acted
        cases acted
        exact inv.checked (List.mem_of_find?_eq_some found) next
  | finish id now =>
    unfold act at acted
    dsimp only at acted
    cases found : w.runs.find? id with
    | none =>
      rw [found] at acted
      cases acted
    | some run =>
      rw [found] at acted
      dsimp only at acted
      split at acted
      · next done =>
        cases acted
        exact inv.finished (List.mem_of_find?_eq_some found) done
      · cases acted

/-- In every history in which no run begins while another is under way, a latch a step had set is
opened only by a release that evaluated the step again and found it not blocking. -/
theorem rechecked_steps (p : Platform) (events : List Event)
    (alone : Run.Meets step Alone (fresh p) events) :
    Run.Steps step Rechecked (fresh p) events :=
  Run.steps_of_meets (fun _ _ _ inv met taken => inv_step inv met taken) (inv_fresh p) alone

end Steps

instance (w : World) : DecidablePred w.Alone
  | .start _ _ _ => decidable_of_iff (w.runs.rows.isEmpty) List.isEmpty_iff
  | .change _ | .engage _ _ _ | .startupFailed _ | .check _ _ | .finish _ _ => isTrue True.intro

def quiet (orders : List Oms.OrderStatus) : Platform :=
  { environment := "production"
    tradingMode := "paper"
    liveTrading := false
    selectOne := .ok 1
    expectedTables := ["orders"]
    tables := .ok ["orders"]
    adapters := .ok ["mt5"]
    health := .ok [("mt5", true)]
    orders := .ok orders
    positions := .ok []
    sessionFactory := true
    other := fun _ => .ok (.ok, Text.lit "in order") }

def checks (id n : ℕ) (now : Time) : List Event := List.replicate n (.check id now)

def settled : List Event :=
  [.change (quiet [.unknown]), .start 0 .startup 0] ++ checks 0 13 1 ++ [.finish 0 2,
    .change (quiet [.filled]), .start 1 (.release "root" (Text.lit "settled")) 3] ++
    checks 1 13 4 ++ [.finish 1 5]

/-- The latch of the unknown order is opened, by a run that was alone. -/
theorem rechecked_settled :
    (∃ w, Run.exec step (fresh (quiet [])) settled = some w ∧ w.manager.safeMode.engaged = false) ∧
      Run.Steps step Rechecked (fresh (quiet [])) settled := by
  refine ⟨⟨_, rfl, rfl⟩, rechecked_steps (quiet []) settled ?_⟩
  decide +kernel

def crossed : List Event :=
  [.engage (Text.lit "pause") "root" 0, .start 0 (.release "alice" (Text.lit "resume")) 1] ++
    checks 0 9 2 ++
    [.change (quiet [.unknown]), .start 1 (.release "bob" (Text.lit "resume")) 3] ++
    checks 1 13 4 ++ [.finish 1 5] ++ checks 0 4 6

def opensUnseen (w t : World) : Bool :=
  decide (w.Latched .unknownOrderState ∧ ¬ t.Latched .unknownOrderState) &&
    (w.origin .unknownOrderState).any fun origin =>
      w.runs.rows.all fun run =>
        run.evaluated.all fun e => decide (e.1.name = origin.1 → e.2 ≤ origin.2)

theorem not_rechecked_of_opensUnseen {w t : World} (unseen : opensUnseen w t = true) :
    ¬ w.Rechecked t := by
  intro rechecked
  obtain ⟨opened, never⟩ := (Bool.and_eq_true _ _).mp unseen
  obtain ⟨before, after⟩ := of_decide_eq_true opened
  obtain ⟨origin, from_, none⟩ := (Option.any_eq_true _ _).mp never
  obtain ⟨run, held, -, e, mem, here, -, later⟩ :=
    rechecked .unknownOrderState before after origin.1 origin.2 from_
  have earlier := of_decide_eq_true (List.all_eq_true.mp (List.all_eq_true.mp none run held) e mem)
  exact absurd later (Nat.not_lt.mpr (earlier here))

/-- The end of the first release opens the latch of the order that is unknown. -/
theorem not_forall_rechecked : ¬ ∀ p events, Run.Steps step Rechecked (fresh p) events := by
  intro all
  have related := all (quiet []) (crossed ++ [.finish 0 7])
  have opened : ((Run.exec step (fresh (quiet [])) crossed).bind fun w =>
      (w.step (.finish 0 7)).map fun t => opensUnseen w t) = some true := by decide +kernel
  obtain ⟨w, ran, ends⟩ := Option.bind_eq_some_iff.mp opened
  obtain ⟨t, taken, unseen⟩ := Option.map_eq_some_iff.mp ends
  exact not_rechecked_of_opensUnseen unseen (related.between ran taken)

end TradeResearch.Recovery.World
