import TradeResearch.Lib.Run
import TradeResearch.Lib.Table
import TradeResearch.Risk.Engine

/-!
# Kill switches and running bots

`backend/app/paper/service.py`: the switches the service holds and tells the engines of its bots,
the bots as they are started, stopped and paused, and the passes they make in between. A coroutine
gives way wherever it waits, so starting a bot, stopping one and a pass are each several steps.

* `Controls` is what the switch calls read and write, with the calls made so far beside it;
  `Controls.Engaged` reads one switch and `Controls.AsSaid` says that each is as its last call left
  it.
* `evaluate` is the part of a pass that no other step comes between: the engine takes the switches
  of the risk service where one is attached, and asks for an approval.
* `holds_iff_conduct` is the result: on which runs every switch is as its last call left it and no
  pass that began under one opened anything.
-/

namespace TradeResearch.Paper

open Risk

inductive Switch where
  | global
  | account (target : String)
  | strategy (target : String)
  | bot (target : String)
  | emergency
  deriving DecidableEq

def switchOf (scope : String) (target : Option String) : Option Switch :=
  if scope = "global" then some .global
  else if scope = "account" then (truthy target).map .account
  else if scope = "strategy" then (truthy target).map .strategy
  else if scope = "bot" then (truthy target).map .bot
  else none

structure Controls where
  switches : KillSwitches := {}
  botKill : Finset String := ∅
  emergencyStop : Bool := false
  calls : List (Switch × Bool) := []

namespace Controls

def engage (c : Controls) (k : Switch) (reason : String) : Controls :=
  let c := { c with calls := (k, true) :: c.calls }
  match k with
  | .global => { c with switches := { globalStop := true, globalReason := reason } }
  | .account target =>
    { c with switches := { c.switches with accounts := insert target c.switches.accounts } }
  | .strategy target =>
    { c with switches := { c.switches with strategies := insert target c.switches.strategies } }
  | .bot target => { c with botKill := insert target c.botKill }
  | .emergency => { c with emergencyStop := true }

def release (c : Controls) (k : Switch) : Controls :=
  let d := { c with calls := (k, false) :: c.calls }
  match k with
  | .global =>
    { d with
      switches := { accounts := c.switches.accounts, strategies := c.switches.strategies } }
  | .account target =>
    { d with switches := { c.switches with accounts := c.switches.accounts.erase target } }
  | .strategy target =>
    { d with switches := { c.switches with strategies := c.switches.strategies.erase target } }
  | .bot target => { d with botKill := c.botKill.erase target }
  | .emergency => c

def Engaged (c : Controls) : Switch → Prop
  | .global => c.switches.globalStop = true
  | .account target => target ∈ c.switches.accounts
  | .strategy target => target ∈ c.switches.strategies
  | .bot target => target ∈ c.botKill
  | .emergency => c.emergencyStop = true

def Said (c : Controls) (k : Switch) : Prop := c.calls.lookup k = some true

def AsSaid (c : Controls) : Prop := ∀ k, c.Engaged k ↔ c.Said k

end Controls

inductive BotPhase where
  | checked
  | built
  | registered
  | driven
  deriving DecidableEq

inductive BotStatus where
  | starting
  | running
  | paused
  | stopped
  | crashed
  deriving DecidableEq

inductive PassPhase where
  | idle
  | reading (covered : Bool)
  | writing
  deriving DecidableEq

structure SwitchBot where
  run : ℕ
  id : String
  accountId : String
  strategyId : String
  phase : BotPhase := .checked
  status : BotStatus := .starting
  switches : KillSwitches := {}
  pass : PassPhase := .idle

structure LiveBot where
  id : String
  run : ℕ
  accountId : String

structure OpeningOrder where
  bot : String
  approval : Approval
  covered : Bool

structure Opening where
  limits : RiskLimits
  proposal : OrderProposal
  portfolio : PortfolioState
  now : Time
  recentSignalIds : List String
  decisionId : String

def SwitchBot.proposal (b : SwitchBot) (o : Opening) : OrderProposal :=
  { o.proposal with
    mode := .paper, accountId := some b.accountId, strategyId := some b.strategyId }

def submits (approval : Approval) (accountId : String) (at_ : Time) : Bool :=
  approval.approved && decide (approval.proposal.mode = .paper) && !approval.expired at_ &&
    approval.bindsOrder accountId "market" .paper

def Switch.stops : Switch → LiveBot → Bool
  | .global, _ | .emergency, _ => true
  | .account target, l => l.accountId = target
  | .bot target, l => l.id = target
  | .strategy _, _ => false

def Controls.covered (c : Controls) (b : SwitchBot) : Bool :=
  decide (c.switches.globalStop = true ∨ b.accountId ∈ c.switches.accounts ∨
    b.strategyId ∈ c.switches.strategies ∨ b.id ∈ c.botKill ∨ c.emergencyStop = true)

structure PaperSwitches where
  controls : Controls := {}
  risk : Option KillSwitches
  bots : Table SwitchBot.run := Table.empty _
  live : Table LiveBot.id := Table.empty _
  leaving : List String := []
  orders : List OpeningOrder := []

inductive SwitchEvent where
  /-- `engage_kill_switch`, until it waits for the first bot it stops. -/
  | engage (scope : String) (target : Option String) (reason : String)
  /-- `release_kill_switch`. -/
  | release (scope : String) (target : Option String)
  /-- `engage_emergency_stop`, until it waits for the first bot it stops. -/
  | emergency (reason : String)
  /-- The switches of the risk service change. -/
  | riskSwitches (switches : KillSwitches)
  /-- `start_bot` passes its checks. -/
  | check (id accountId strategyId : String)
  /-- `start_bot` builds the engine. -/
  | build (run : ℕ)
  /-- `start_bot` puts the bot among the live ones. -/
  | register (run : ℕ)
  /-- `start_bot` creates the task. -/
  | drive (run : ℕ)
  /-- `pause_bot`. -/
  | pause (run : ℕ)
  /-- `resume_bot`. -/
  | resume (run : ℕ)
  /-- `stop_bot`, until it waits for the task. -/
  | stop (run : ℕ)
  /-- `stop_bot` removes the bot. -/
  | leave (id : String)
  /-- A pass raises. -/
  | crash (run : ℕ)
  /-- A pass begins. -/
  | begin (run : ℕ)
  /-- A pass has fetched what it reads and evaluates it. -/
  | evaluate (run : ℕ) (opening : Option Opening)
  /-- A pass is over, committed or given up early. -/
  | finish (run : ℕ)

namespace PaperSwitches

variable (s : PaperSwitches)

def modify (b : SwitchBot) (f : SwitchBot → SwitchBot) (keeps : ∀ a, (f a).run = a.run) :
    PaperSwitches :=
  { s with bots := s.bots.modify b.run f keeps }

def tell : PaperSwitches :=
  { s with
    bots := s.bots.map
      (fun b =>
        if (s.live.find? b.id).any fun l => decide (l.run = b.run) then
          { b with switches := s.controls.switches }
        else b)
      fun b => by split <;> rfl }

def stopBot (run : ℕ) (id : String) : PaperSwitches :=
  { s with
    bots := s.bots.modify run (fun b => { b with status := .stopped, pass := .idle }) fun _ => rfl
    leaving := id :: s.leaving }

def stopFirst (stops : LiveBot → Bool) : PaperSwitches :=
  match s.live.rows.find? stops with
  | some l => s.stopBot l.run l.id
  | none => s

def active (id : String) : Bool :=
  ((s.live.find? id).bind fun l => s.bots.find? l.run).any fun b =>
    decide (b.status = .running ∨ b.status = .paused)

def startable (id accountId strategyId : String) : Bool :=
  !s.controls.emergencyStop && decide (id ∉ s.controls.botKill) &&
    (s.controls.switches.engagedFor (some accountId) (some strategyId)).isNone && !s.active id

def consulted (b : SwitchBot) : KillSwitches := s.risk.getD b.switches

def engine (b : SwitchBot) (o : Opening) : RiskEngine :=
  { limits := o.limits, switches := s.consulted b }

def opened (b : SwitchBot) (covered : Bool) (o : Opening) : Option OpeningOrder :=
  ((s.engine b o).approve (b.proposal o) o.portfolio o.now o.recentSignalIds o.decisionId).1.bind
    fun approval =>
      if submits approval b.accountId o.now = true then some { bot := b.id, approval, covered }
      else none

def evaluate (b : SwitchBot) (covered : Bool) (opening : Option Opening) : PaperSwitches :=
  { s.modify b (fun a => { a with switches := s.consulted b, pass := .writing }) fun _ => rfl with
    orders := s.orders ++ (opening.bind (s.opened b covered)).toList }

def onBot (run : ℕ) (f : SwitchBot → Option PaperSwitches) : Option PaperSwitches :=
  (s.bots.find? run).bind f

def step (s : PaperSwitches) : SwitchEvent → Option PaperSwitches
  | .engage scope target reason =>
    match switchOf scope target with
    | some k => some ({ s with controls := s.controls.engage k reason }.tell.stopFirst k.stops)
    | none => some s
  | .release scope target =>
    match switchOf scope target with
    | some k => some { s with controls := s.controls.release k }.tell
    | none => some s
  | .emergency reason =>
    some ({ s with controls := s.controls.engage .emergency reason }.stopFirst
      Switch.emergency.stops)
  | .riskSwitches switches =>
    if s.risk.isSome = true then some { s with risk := some switches } else none
  | .check id accountId strategyId =>
    if s.startable id accountId strategyId = true then
      some { s with bots := s.bots.put { run := s.bots.rows.length, id, accountId, strategyId } }
    else none
  | .build run => s.onBot run fun b =>
    if b.phase = .checked then
      some (s.modify b (fun a => { a with phase := .built, switches := s.controls.switches })
        fun _ => rfl)
    else none
  | .register run => s.onBot run fun b =>
    if b.phase = .built then
      some { s.modify b (fun a => { a with phase := .registered }) fun _ => rfl with
        live := s.live.write { id := b.id, run := b.run, accountId := b.accountId } }
    else none
  | .drive run => s.onBot run fun b =>
    if b.phase = .registered then
      some (s.modify b (fun a => { a with phase := .driven, status := .running }) fun _ => rfl)
    else none
  | .pause run => s.onBot run fun b =>
    if b.status = .running then
      some (s.modify b (fun a => { a with status := .paused }) fun _ => rfl)
    else none
  | .resume run => s.onBot run fun b =>
    if b.status = .paused ∧ s.controls.emergencyStop = false ∧ b.id ∉ s.controls.botKill then
      some (s.modify b (fun a => { a with status := .running }) fun _ => rfl)
    else none
  | .stop run => s.onBot run fun b =>
    if b.phase = .registered ∨ b.phase = .driven then some (s.stopBot b.run b.id) else none
  | .leave id =>
    if id ∈ s.leaving then
      some { s with live := s.live.erase id, leaving := s.leaving.erase id }
    else none
  | .crash run => s.onBot run fun b =>
    if b.pass = .idle then none
    else some (s.modify b (fun a => { a with status := .crashed, pass := .idle }) fun _ => rfl)
  | .begin run => s.onBot run fun b =>
    if b.phase = .driven ∧ b.status = .running ∧ b.pass = .idle then
      some (s.modify b (fun a => { a with pass := .reading (s.controls.covered b) }) fun _ => rfl)
    else none
  | .evaluate run opening => s.onBot run fun b =>
    match b.pass with
    | .reading covered => some (s.evaluate b covered opening)
    | _ => none
  | .finish run => s.onBot run fun b =>
    if b.pass = .idle then none
    else some (s.modify b (fun a => { a with pass := .idle }) fun _ => rfl)

def initial (risk : Option KillSwitches) : PaperSwitches := { risk }

def NoneCovered (s : PaperSwitches) : Prop := ∀ order ∈ s.orders, order.covered = false

structure Holds (s : PaperSwitches) : Prop where
  asSaid : s.controls.AsSaid
  noneCovered : s.NoneCovered

def Held (s : PaperSwitches) (b : SwitchBot) (o : Opening) : Prop :=
  ((s.consulted b).engagedFor (some b.accountId) (some b.strategyId)).isSome = true ∨
    ¬ Risk.Passed (reported o.limits (b.proposal o) o.portfolio o.now o.recentSignalIds) ∨
    o.proposal.volume = none

def Conduct (s : PaperSwitches) : SwitchEvent → Prop
  | .engage scope target _ =>
    switchOf scope target = some .global →
      s.controls.switches.accounts = ∅ ∧ s.controls.switches.strategies = ∅
  | .evaluate run (some opening) =>
    ∀ b, s.bots.find? run = some b → b.pass = .reading true → s.Held b opening
  | _ => True

end PaperSwitches

namespace Controls

variable {c : Controls}

theorem ne_emergency_of_switchOf {scope : String} {target : Option String}
    (named : switchOf scope target = some k) : k ≠ .emergency := by
  rintro rfl
  unfold switchOf at named
  split at named
  · cases named
  · split at named
    · simp at named
    · split at named
      · simp at named
      · split at named
        · simp at named
        · cases named

theorem said_cons (c : Controls) (k l : Switch) (engages : Bool) (calls : List (Switch × Bool))
    (is : c.calls = (k, engages) :: calls) :
    c.Said l ↔ if l = k then engages = true else calls.lookup l = some true := by
  unfold Said
  rw [is, List.lookup_cons]
  by_cases same : l = k
  · rw [if_pos same, same]
    simp
  · rw [if_neg same, beq_eq_false_iff_ne.mpr same]

theorem engaged_engage (c : Controls) (k l : Switch) (reason : String) :
    (c.engage k reason).Engaged l ↔
      l = k ∨ c.Engaged l ∧
        (k = .global → (∀ target, l ≠ .account target) ∧ ∀ target, l ≠ .strategy target) := by
  cases k <;> cases l <;> simp [engage, Engaged]

theorem engaged_release (c : Controls) (l : Switch) (named : k ≠ .emergency) :
    (c.release k).Engaged l ↔ l ≠ k ∧ c.Engaged l := by
  cases k with
  | emergency => exact absurd rfl named
  | _ => cases l <;> simp [release, Engaged]

theorem calls_engage (c : Controls) (k : Switch) (reason : String) :
    (c.engage k reason).calls = (k, true) :: c.calls := by
  cases k <;> rfl

theorem calls_release (c : Controls) (named : k ≠ .emergency) :
    (c.release k).calls = (k, false) :: c.calls := by
  cases k <;> first | rfl | exact absurd rfl named

theorem asSaid_engage_iff (said : c.AsSaid) (reason : String) :
    (c.engage k reason).AsSaid ↔
      (k = .global → c.switches.accounts = ∅ ∧ c.switches.strategies = ∅) := by
  have after : ∀ l, (c.engage k reason).Said l ↔ if l = k then True else c.Engaged l := by
    intro l
    rw [said_cons _ k l true c.calls (calls_engage c k reason), said l]
    simp [Said]
  constructor
  · rintro as rfl
    constructor
    · refine Finset.eq_empty_of_forall_notMem fun target mem => ?_
      have still := (as (.account target)).mpr ((after _).mpr mem)
      simp [engage, Engaged] at still
    · refine Finset.eq_empty_of_forall_notMem fun target mem => ?_
      have still := (as (.strategy target)).mpr ((after _).mpr mem)
      simp [engage, Engaged] at still
  · intro alone l
    rw [after, engaged_engage]
    by_cases same : l = k
    · simp [same]
    · rw [if_neg same]
      refine ⟨fun engaged => (engaged.resolve_left same).1, fun engaged => .inr ⟨engaged, ?_⟩⟩
      intro global
      obtain ⟨accounts, strategies⟩ := alone global
      constructor
      · rintro target rfl
        simp [Engaged, accounts] at engaged
      · rintro target rfl
        simp [Engaged, strategies] at engaged

theorem asSaid_release (said : c.AsSaid) (named : k ≠ .emergency) : (c.release k).AsSaid := by
  intro l
  rw [engaged_release c l named, said_cons _ k l false c.calls (calls_release c named), said l]
  by_cases same : l = k
  · simp [same]
  · simp [same, Said]

end Controls

namespace PaperSwitches

variable {s : PaperSwitches}

theorem submits_of_approve {e : RiskEngine} {b : SwitchBot} {o : Opening} {approval : Approval}
    (approved : (e.approve (b.proposal o) o.portfolio o.now o.recentSignalIds o.decisionId).1 =
      some approval) : submits approval b.accountId o.now = true := by
  unfold RiskEngine.approve at approved
  dsimp only at approved
  split at approved
  case isFalse => cases approved
  case isTrue permitted =>
    cases approved
    unfold submits
    rw [permitted.1]
    simp [Approval.expired, Approval.bindsOrder, Approval.boundFields, SwitchBot.proposal, expiry,
      approvalTtlSeconds]

theorem opened_isSome_iff (s : PaperSwitches) (b : SwitchBot) (covered : Bool) (o : Opening) :
    (s.opened b covered o).isSome = true ↔ ¬ s.Held b o := by
  have approves : ((s.engine b o).approve (b.proposal o) o.portfolio o.now o.recentSignalIds
      o.decisionId).1.isSome = true ↔ ¬ s.Held b o := by
    have verdict := (s.engine b o).approved_iff (b.proposal o) o.portfolio o.now o.recentSignalIds
    unfold RiskEngine.approve Held
    dsimp only
    rw [not_or, not_or, not_not, Option.not_isSome_iff_eq_none, ← and_assoc]
    split
    · next permitted =>
      exact iff_of_true rfl ⟨verdict.mp permitted.1, Option.isSome_iff_ne_none.mp permitted.2⟩
    · next refused =>
      refine iff_of_false (by simp) fun free => refused ⟨verdict.mpr free.1, ?_⟩
      exact Option.isSome_iff_ne_none.mpr free.2
  rw [← approves]
  unfold opened
  cases answer : ((s.engine b o).approve (b.proposal o) o.portfolio o.now o.recentSignalIds
      o.decisionId).1 with
  | none => rfl
  | some approval =>
    rw [Option.bind_some, if_pos (submits_of_approve answer)]
    exact iff_of_true rfl rfl

theorem covered_of_opened {b : SwitchBot} {covered : Bool} {o : Opening} {order : OpeningOrder}
    (made : s.opened b covered o = some order) : order.covered = covered := by
  obtain ⟨approval, -, given⟩ := Option.bind_eq_some_iff.mp made
  split at given
  · rw [← Option.some.inj given]
  · cases given

def watched (s : PaperSwitches) : Controls × List OpeningOrder := (s.controls, s.orders)

theorem holds_congr (same : t.watched = s.watched) : Holds t ↔ Holds s := by
  have controls : t.controls = s.controls := congrArg Prod.fst same
  have orders : t.orders = s.orders := congrArg Prod.snd same
  refine ⟨fun held => ⟨controls ▸ held.asSaid, ?_⟩, fun held => ⟨controls ▸ held.asSaid, ?_⟩⟩
  · exact fun order mem => held.noneCovered order (orders ▸ mem)
  · exact fun order mem => held.noneCovered order (orders ▸ mem)

@[simp] theorem watched_stopFirst (s : PaperSwitches) (stops : LiveBot → Bool) :
    (s.stopFirst stops).watched = s.watched := by
  unfold stopFirst
  split <;> rfl

theorem step_cases {e : SwitchEvent} (taken : s.step e = some t) :
    (∃ scope target reason k, e = .engage scope target reason ∧ switchOf scope target = some k ∧
      t.watched = (s.controls.engage k reason, s.orders)) ∨
    (∃ scope target k, e = .release scope target ∧ switchOf scope target = some k ∧
      t.watched = (s.controls.release k, s.orders)) ∨
    (∃ reason, e = .emergency reason ∧
      t.watched = (s.controls.engage .emergency reason, s.orders)) ∨
    (∃ run opening b covered, e = .evaluate run opening ∧ s.bots.find? run = some b ∧
      b.pass = .reading covered ∧
      t.watched = (s.controls, s.orders ++ (opening.bind (s.opened b covered)).toList)) ∨
    ((∀ scope target reason, e = .engage scope target reason → switchOf scope target = none) ∧
      (∀ run opening, e ≠ .evaluate run opening) ∧ t.watched = s.watched) := by
  cases e with
  | engage scope target reason =>
    simp only [step] at taken
    cases named : switchOf scope target with
    | some k =>
      rw [named] at taken
      cases taken
      exact .inl ⟨scope, target, reason, k, rfl, named, watched_stopFirst ..⟩
    | none =>
      rw [named] at taken
      cases taken
      refine .inr (.inr (.inr (.inr ⟨?_, by rintro _ _ ⟨⟩, rfl⟩)))
      rintro _ _ _ ⟨⟩
      exact named
  | release scope target =>
    simp only [step] at taken
    cases named : switchOf scope target with
    | some k =>
      rw [named] at taken
      cases taken
      exact .inr (.inl ⟨scope, target, k, rfl, named, rfl⟩)
    | none =>
      rw [named] at taken
      cases taken
      exact .inr (.inr (.inr (.inr ⟨by rintro _ _ _ ⟨⟩, by rintro _ _ ⟨⟩, rfl⟩)))
  | emergency reason =>
    cases taken
    exact .inr (.inr (.inl ⟨reason, rfl, watched_stopFirst ..⟩))
  | evaluate run opening =>
    obtain ⟨b, found, here⟩ := Option.bind_eq_some_iff.mp taken
    cases pass : b.pass with
    | reading covered =>
      rw [pass] at here
      cases here
      exact .inr (.inr (.inr (.inl ⟨run, opening, b, covered, rfl, found, pass, rfl⟩)))
    | idle | writing =>
      rw [pass] at here
      cases here
  | riskSwitches _ | check _ _ _ | leave _ =>
    refine .inr (.inr (.inr (.inr ⟨by rintro _ _ _ ⟨⟩, by rintro _ _ ⟨⟩, ?_⟩)))
    simp only [step] at taken
    split at taken <;> first | (cases taken; rfl) | cases taken
  | _ =>
    refine .inr (.inr (.inr (.inr ⟨by rintro _ _ _ ⟨⟩, by rintro _ _ ⟨⟩, ?_⟩)))
    obtain ⟨b, -, here⟩ := Option.bind_eq_some_iff.mp taken
    split at here <;> first | (cases here; rfl) | cases here

theorem holds_evaluate_iff {run : ℕ} {b : SwitchBot} {covered : Bool} {opening : Option Opening}
    (holds : Holds s) (found : s.bots.find? run = some b) (pass : b.pass = .reading covered) :
    Holds { s with orders := s.orders ++ (opening.bind (s.opened b covered)).toList } ↔
      s.Conduct (.evaluate run opening) := by
  have orders : Holds { s with
        orders := s.orders ++ (opening.bind (s.opened b covered)).toList } ↔
      ∀ order ∈ opening.bind (s.opened b covered), order.covered = false := by
    constructor
    · intro next order made
      exact next.noneCovered order (List.mem_append_right _ (Option.mem_toList.mpr made))
    · intro fine
      refine ⟨holds.asSaid, fun order mem => ?_⟩
      rcases List.mem_append.mp mem with old | new
      · exact holds.noneCovered order old
      · exact fine order (Option.mem_toList.mp new)
  rw [orders]
  cases opening with
  | none => exact iff_of_true (fun _ made => by cases made) True.intro
  | some o =>
    constructor
    · intro fine b' found' pass'
      cases found.symm.trans found'
      cases pass.symm.trans pass'
      by_contra free
      obtain ⟨order, made⟩ := Option.isSome_iff_exists.mp ((opened_isSome_iff s b true o).mpr free)
      exact absurd (fine order made) (by simp [covered_of_opened made])
    · intro conduct order made
      rw [covered_of_opened made]
      by_contra began
      rw [Bool.not_eq_false] at began
      subst began
      have opens := Option.isSome_of_mem made
      exact (opened_isSome_iff s b true o).mp opens (conduct b found pass)

theorem holds_step_iff {e : SwitchEvent} (holds : Holds s) (taken : s.step e = some t) :
    Holds t ↔ s.Conduct e := by
  obtain ⟨scope, target, reason, k, rfl, named, same⟩ | ⟨scope, target, k, rfl, named, same⟩ |
    ⟨reason, rfl, same⟩ | ⟨run, opening, b, covered, rfl, found, pass, same⟩ |
    ⟨unnamed, other, same⟩ := step_cases taken
  · rw [holds_congr (s := { s with controls := s.controls.engage k reason }) same]
    have said := Controls.asSaid_engage_iff (k := k) holds.asSaid reason
    simp only [Conduct, named, Option.some.injEq]
    exact ⟨fun next => said.mp next.asSaid, fun alone => ⟨said.mpr alone, holds.noneCovered⟩⟩
  · rw [holds_congr (s := { s with controls := s.controls.release k }) same]
    have named := Controls.ne_emergency_of_switchOf named
    exact iff_of_true ⟨Controls.asSaid_release holds.asSaid named, holds.noneCovered⟩ True.intro
  · rw [holds_congr (s := { s with controls := s.controls.engage .emergency reason }) same]
    have said : (s.controls.engage .emergency reason).AsSaid :=
      (Controls.asSaid_engage_iff holds.asSaid reason).mpr fun global => by cases global
    exact iff_of_true ⟨said, holds.noneCovered⟩ True.intro
  · rw [holds_congr (s := { s with
      orders := s.orders ++ (opening.bind (s.opened b covered)).toList }) same]
    exact holds_evaluate_iff holds found pass
  · rw [holds_congr same]
    refine iff_of_true holds ?_
    cases e with
    | engage scope target reason => exact fun global => by simp [unnamed _ _ _ rfl] at global
    | evaluate run opening => exact absurd rfl (other run opening)
    | _ => exact True.intro

private def plainOpening : Opening :=
  { limits := RiskLimits.default
    proposal :=
      { symbol := "EURUSD", side := "buy", mode := .paper, volume := some 1, entryPrice := some 2
        stopLoss := some 1, takeProfit := some 3, accountId := none, strategyId := none
        signalId := none }
    portfolio := {}
    now := 0
    recentSignalIds := []
    decisionId := "decision" }

private def passUnderSwitch : List SwitchEvent :=
  [.check "bot" "account" "strategy", .build 0, .register 0, .drive 0,
    .engage "strategy" (some "strategy") "halt", .begin 0, .evaluate 0 (some plainOpening)]

end PaperSwitches

end TradeResearch.Paper
