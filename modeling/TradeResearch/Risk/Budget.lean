import TradeResearch.Risk.Reserved

/-!
# Budget held by decisions

What the calls of the risk service leave reserved on an account. `evaluatedFrom` is `_evaluate` from
its reads on: what `load` and `configuration` read may raise as well as what is written, and an
exception `except Exception` does not catch escapes.

* `recordVerdict` is `record_verdict`, which persists a verdict and reserves nothing.
* `Consultation` is one call about an order, and `Consultation.answered` runs it.
* `HoldsNoBudget` says that a call that did not end in a recorded approval leaves the live
  reservations as they were; `holdsNoBudget_iff` says exactly when it is so.
-/

namespace TradeResearch.Risk

open Oms

structure Stored where
  switches : KillSwitches
  state : Option AccountRiskState

structure Reads where
  load : Option (Except RiskExn Stored) := none
  rules : Except RiskExn (List LimitRule)

def loadState (settings : RiskSettings) (load : Option (Except RiskExn Stored)) :
    Method RiskExn AccountRisk RiskSettings :=
  match load with
  | none => pure settings
  | some answer => do
    let stored ← await answer
    modify fun a => { a with state := stored.state.getD a.state }
    return { settings with switches := stored.switches }

def decideFrom (settings : RiskSettings) (reads : Reads) (request : RiskRequest) (now : Time)
    (decisionId : String) (writes : Writes) (persist reserve : Bool) :
    Method RiskExn AccountRisk RiskDecision := do
  let settings ← loadState settings reads.load
  let rules ← await reads.rules
  decide settings rules request now decisionId writes persist reserve

def RiskExn.escapes : RiskExn → Bool
  | .database type _ =>
    type ∈ ["CancelledError", "KeyboardInterrupt", "SystemExit", "GeneratorExit"]
  | .configuration _ | .state _ => false

def evaluatedFrom (settings : RiskSettings) (reads : Reads) (request : RiskRequest) (now : Time)
    (decisionId : String) (writes : Writes) (persist reserve : Bool) :
    Method RiskExn AccountRisk RiskDecision :=
  tryCatch (decideFrom settings reads request now decisionId writes persist reserve) fun e =>
    if e.escapes = true then throw e else pure (errorDecision request now decisionId e.detail)

def outcomeOf (verdict : RiskVerdict) : RiskOutcome :=
  if ((checkRecords verdict).filter fun c => c.passed = false).isEmpty = true then .approved
  else if latched verdict ≠ [] ∨ verdict.decision = .halt then .halted
  else .rejected

def verdictDecision (verdict : RiskVerdict) (accountId : Option String) (executionMode : Mode)
    (version : ℤ) (orderType : String) (decisionId : String) : RiskDecision :=
  let records := checkRecords verdict
  let failed := records.filter fun c => c.passed = false
  let filed := decision { proposal := verdict.proposal, executionMode, orderType }
    (outcomeOf verdict) verdict.at_ records version verdict.reason
    (failed.filterMap CheckRecord.code).eraseDups decisionId (warningsOf records [])
    (if failed.isEmpty = true then verdict.proposal.volume else none)
    (if failed.isEmpty = true then some (expiry verdict.at_) else none)
  { filed with accountId }

def recordVerdict (settings : RiskSettings) (verdict : RiskVerdict) (accountId : Option String)
    (executionMode : Mode) (version : ℤ) (orderType : String) (decisionId : String)
    (writes : Writes) : Method RiskExn AccountRisk RiskDecision := do
  let filed := verdictDecision verdict accountId executionMode version orderType decisionId
  match latched verdict with
  | state :: _ => lockAccount settings state (Text.take 400 filed.reason) filed.at_ writes.lock
  | [] => pure ()
  await writes.event
  return filed

inductive Consultation where
  /-- `check`: a preview. -/
  | check (request : RiskRequest)
  /-- `evaluate`: the real thing. -/
  | evaluate (request : RiskRequest) (writes : Writes)
  | recordVerdict (verdict : RiskVerdict) (accountId : Option String) (executionMode : Mode)
      (version : ℤ) (orderType : String) (writes : Writes)

namespace Consultation

def answered (settings : RiskSettings) (reads : Reads) (now : Time) (decisionId : String) :
    Consultation → Method RiskExn AccountRisk RiskDecision
  | check request => evaluatedFrom settings reads request now decisionId {} false false
  | evaluate request writes => evaluatedFrom settings reads request now decisionId writes true true
  | recordVerdict verdict accountId executionMode version orderType writes =>
    Risk.recordVerdict settings verdict accountId executionMode version orderType decisionId writes

def persists : Consultation → Bool
  | check _ => false
  | evaluate .. | recordVerdict .. => true

end Consultation

def Approves (answer : Except RiskExn RiskDecision) : Prop :=
  ∃ d, answer = .ok d ∧ d.outcome = .approved

def SameBudget (now : Time) (before after : AccountRisk) : Prop :=
  ∀ t, now ≤ t → liveGrants after.grants t = liveGrants before.grants t

def HoldsNoBudget (settings : RiskSettings) (reads : Reads) (now : Time) (decisionId : String)
    (call : Consultation) (a : AccountRisk) : Prop :=
  ¬ (call.persists = true ∧ Approves ((call.answered settings reads now decisionId).answer a)) →
    SameBudget now a ((call.answered settings reads now decisionId).left a)

def Passes (settings : RiskSettings) (rules : List LimitRule) (request : RiskRequest) (now : Time)
    (a : AccountRisk) : Prop :=
  ∃ config state,
    configuration rules request.proposal.accountId request.proposal.strategyId
      request.proposal.symbol = .ok config ∧
    a.state.refresh now settings.dayBoundaryHour = .ok state ∧ state.code = none ∧
    (RiskEngine.evaluate ⟨withSignalAge config.limits request, settings.switches⟩ request.proposal
      (withReservations request.portfolio ((liveGrants a.grants now).map Grant.toReservation)) now
      request.recentSignalIds).approved = true

def Reads.InForce (reads : Reads) (settings : RiskSettings) (a : AccountRisk)
    (settings' : RiskSettings) (a' : AccountRisk) (rules : List LimitRule) : Prop :=
  reads.rules = .ok rules ∧
    match reads.load with
    | none => settings' = settings ∧ a' = a
    | some answer => ∃ stored, answer = .ok stored ∧
      settings' = { settings with switches := stored.switches } ∧
      a' = { a with state := stored.state.getD a.state }

def Consultation.Unrecorded (settings : RiskSettings) (reads : Reads) (now : Time)
    (a : AccountRisk) : Consultation → Prop
  | .evaluate request writes =>
    truthy request.proposal.accountId ≠ none ∧ (∃ e, writes.event = .error e) ∧
      ∃ settings' a' rules, reads.InForce settings a settings' a' rules ∧
        Passes settings' rules request now a'
  | .check _ | .recordVerdict .. => False

inductive Decided (settings : RiskSettings) (rules : List LimitRule) (request : RiskRequest)
    (now : Time) (decisionId : String) (writes : Writes) (persist reserve : Bool)
    (a : AccountRisk) : Except RiskExn RiskDecision × AccountRisk → Prop
  | kept {answer : Except RiskExn RiskDecision} {b : AccountRisk}
      (same : b.grants = a.grants ∨ b.grants = liveGrants a.grants now)
      (unreserved : reserve = true → truthy request.proposal.accountId ≠ none →
        ¬ Passes settings rules request now a) :
      Decided settings rules request now decisionId writes persist reserve a (answer, b)
  | granted {b : AccountRisk} {account : String} {approval : RiskDecision}
      (reserves : reserve = true)
      (named : truthy request.proposal.accountId = some account)
      (passes : Passes settings rules request now a)
      (reserved : b.grants =
        liveGrants a.grants now ++ [grantOf request.proposal account decisionId now])
      (approves : approval.outcome = .approved) :
      Decided settings rules request now decisionId writes persist reserve a
        ((if persist = true then writes.event else .ok ()).map fun _ => approval, b)

theorem volume_of_approved {e : RiskEngine} {proposal : OrderProposal} {portfolio : PortfolioState}
    {now : Time} {recentSignalIds : List String}
    (approved : (e.evaluate proposal portfolio now recentSignalIds).approved = true) :
    ∃ volume, proposal.volume = some volume ∧ 0 < volume := by
  have passed := ((e.approved_iff proposal portfolio now recentSignalIds).mp approved).2
  unfold reported at passed
  simp only [passed_append, and_assoc] at passed
  obtain ⟨-, -, -, -, size, -⟩ := passed
  unfold positionSizeCheck at size
  cases given : proposal.volume with
  | none => simp [given] at size
  | some volume => exact ⟨volume, rfl, by simpa [given] using size⟩

section Decided

variable (settings : RiskSettings) (rules : List LimitRule) (request : RiskRequest) (now : Time)
  (decisionId : String) (writes : Writes) (persist reserve : Bool)

theorem exec_recordEvent_bind (d : RiskDecision) (a : AccountRisk) :
    (recordEvent persist writes >>= fun _ => pure d).exec a =
      ((if persist = true then writes.event else .ok ()).map fun _ => d, a) := by
  unfold recordEvent
  cases persist with
  | false => rfl
  | true => cases writes.event <;> rfl

theorem reserveFor_of_unnamed {proposal : OrderProposal}
    (unnamed : reserve = false ∨ truthy proposal.accountId = none) :
    reserveFor reserve proposal decisionId now = pure () := by
  unfold reserveFor
  rcases unnamed with off | unnamed
  · rw [off]
  · rw [unnamed]
    cases reserve <;> rfl

theorem liveGrants_liveGrants (grants : List Grant) {t : Time} (later : now ≤ t) :
    liveGrants (liveGrants grants now) t = liveGrants grants t := by
  unfold liveGrants
  rw [List.filter_filter]
  refine List.filter_congr fun g _ => ?_
  have still : g.live t = true → g.live now = true := by
    unfold Reservation.live
    simp only [decide_eq_true_eq]
    exact fun live => later.trans live
  cases live : g.live t with
  | false => simp
  | true => simp [still live]

theorem liveGrants_granted_ne (grants : List Grant) (proposal : OrderProposal) (account : String) :
    liveGrants (liveGrants grants now ++ [grantOf proposal account decisionId now]) now ≠
      liveGrants grants now := by
  have live : (grantOf proposal account decisionId now).live now = true := by
    have minute : now ≤ now + approvalTtlSeconds := by
      unfold approvalTtlSeconds
      linarith
    exact decide_eq_true minute
  have split : liveGrants (liveGrants grants now ++ [grantOf proposal account decisionId now]) now =
      liveGrants grants now ++ [grantOf proposal account decisionId now] := by
    have earlier := liveGrants_liveGrants now grants (le_refl now)
    unfold liveGrants at earlier ⊢
    rw [List.filter_append, earlier, List.filter_cons, if_pos live, List.filter_nil]
  rw [split]
  intro same
  have lengths := congrArg List.length same
  rw [List.length_append, List.length_singleton] at lengths
  omega

theorem decided_judge {config : Resolved} {a b : AccountRisk}
    (same : b.grants = a.grants)
    (passes_iff : Passes settings rules request now a ↔
      (RiskEngine.evaluate ⟨withSignalAge config.limits request, settings.switches⟩
        request.proposal
        (withReservations request.portfolio ((liveGrants a.grants now).map Grant.toReservation))
        now request.recentSignalIds).approved = true) :
    Decided settings rules request now decisionId writes persist reserve a
      ((judge settings config request now decisionId writes persist reserve).exec b) := by
  let Pruned : List Grant → Prop := fun gs => gs = a.grants ∨ gs = liveGrants a.grants now
  have refused (verdict : RiskVerdict) (records : List CheckRecord) (warnings : List String)
      (c : AccountRisk) (pruned : Pruned c.grants) : Pruned ((refuse settings config request now
        decisionId writes persist verdict records warnings).left c).grants :=
    keeps_refuse (R := Pruned) settings config request now decisionId writes persist verdict
      records warnings c pruned
  unfold judge
  cases mine : request.proposal.accountId with
  | none =>
    -- no account: nothing is pruned and nothing can be reserved
    have unnamed : truthy request.proposal.accountId = none := by
      rw [mine]
      rfl
    have pruned : (liveReservations none now).exec b = (.ok [], b) := rfl
    rw [Method.exec_bind_ok pruned]
    dsimp only
    split
    · unfold conclude
      rw [reserveFor_of_unnamed now decisionId reserve (.inr unnamed), pure_bind,
        exec_recordEvent_bind]
      exact .kept (.inl same) fun _ named => absurd unnamed named
    · exact .kept (refused _ _ _ b (.inl same)) fun _ named => absurd unnamed named
  | some account =>
    have pruned : (liveReservations (some account) now).exec b =
        (.ok ((liveGrants a.grants now).map Grant.toReservation),
          { b with grants := liveGrants a.grants now }) := by
      rw [← same]
      rfl
    have exactly := failed_isEmpty_iff ⟨withSignalAge config.limits request, settings.switches⟩
      request.proposal
      (withReservations request.portfolio ((liveGrants a.grants now).map Grant.toReservation)) now
      request.recentSignalIds
    rw [Method.exec_bind_ok pruned]
    dsimp only
    split
    case isTrue clean =>
      have approved := exactly.mp clean
      obtain ⟨volume, sized, -⟩ := volume_of_approved approved
      unfold conclude
      by_cases unnamed : reserve = false ∨ truthy request.proposal.accountId = none
      · rw [reserveFor_of_unnamed now decisionId reserve unnamed, pure_bind, exec_recordEvent_bind]
        refine .kept (.inr rfl) fun reserves named => ?_
        rcases unnamed with off | unnamed
        · rw [off] at reserves
          cases reserves
        · exact absurd unnamed named
      · obtain ⟨reserves, named⟩ := not_or.mp unnamed
        obtain ⟨name, named⟩ := Option.ne_none_iff_exists'.mp named
        have reserves : reserve = true := by simpa using reserves
        unfold reserveFor
        rw [reserves, named, sized]
        rw [Method.exec_modify_bind, exec_recordEvent_bind]
        exact .granted rfl named (passes_iff.mpr approved) rfl rfl
    case isFalse unclean =>
      refine .kept (refused _ _ _ _ (.inr rfl)) fun _ _ passes => ?_
      exact unclean (exactly.mpr (passes_iff.mp passes))

theorem decided_decide (a : AccountRisk) :
    Decided settings rules request now decisionId writes persist reserve a
      ((decide settings rules request now decisionId writes persist reserve).exec a) := by
  unfold decide
  cases configured : configuration rules request.proposal.accountId request.proposal.strategyId
    request.proposal.symbol with
  | error invalid =>
    refine .kept (.inl rfl) fun _ _ passes => ?_
    obtain ⟨config, state, resolved, -⟩ := passes
    rw [configured] at resolved
    cases resolved
  | ok config =>
    simp only [Except.mapError, exec_await_ok, Method.exec_get_bind]
    cases refreshed : a.state.refresh now settings.dayBoundaryHour with
    | error e =>
      refine .kept (.inl rfl) fun _ _ passes => ?_
      obtain ⟨_, state, -, known, -⟩ := passes
      rw [refreshed] at known
      cases known
    | ok state =>
      simp only [exec_await_ok, Method.exec_modify_bind]
      cases blocked : state.code with
      | some code =>
        refine .kept (.inl rfl) fun _ _ passes => ?_
        obtain ⟨_, state', -, known, unblocked, -⟩ := passes
        rw [refreshed] at known
        cases known
        rw [blocked] at unblocked
        cases unblocked
      | none =>
        refine decided_judge settings rules request now decisionId writes persist reserve rfl ?_
        constructor
        · rintro ⟨config', state', resolved, -, -, approved⟩
          rw [configured] at resolved
          cases resolved
          exact approved
        · exact fun approved => ⟨config, state, configured, refreshed, blocked, approved⟩

theorem decide_reserves_nothing (a : AccountRisk) :
    ((decide settings rules request now decisionId writes persist false).left a).grants =
        a.grants ∨
      ((decide settings rules request now decisionId writes persist false).left a).grants =
        liveGrants a.grants now := by
  have decided := decided_decide settings rules request now decisionId writes persist false a
  unfold Method.left
  generalize (decide settings rules request now decisionId writes persist false).exec a = out
    at decided ⊢
  cases decided with
  | kept same => exact same
  | granted reserves => cases reserves

end Decided

theorem exec_loadState_bind {β : Type} (settings : RiskSettings)
    (load : Option (Except RiskExn Stored)) (rest : RiskSettings → Method RiskExn AccountRisk β)
    (a : AccountRisk) :
    (∃ e, load = some (.error e) ∧ (loadState settings load >>= rest).exec a = (.error e, a)) ∨
      ∃ settings' a', a'.grants = a.grants ∧
        (∀ rules, Reads.InForce ⟨load, .ok rules⟩ settings a settings' a' rules) ∧
        (loadState settings load >>= rest).exec a = (rest settings').exec a' := by
  rcases load with _ | ⟨e | stored⟩
  · exact .inr ⟨settings, a, rfl, fun rules => ⟨rfl, rfl, rfl⟩, rfl⟩
  · exact .inl ⟨e, rfl, rfl⟩
  · exact .inr ⟨{ settings with switches := stored.switches },
      { a with state := stored.state.getD a.state }, rfl,
      fun rules => ⟨rfl, stored, rfl, rfl, rfl⟩, rfl⟩

theorem Reads.InForce.unique {reads : Reads} {settings s₁ s₂ : RiskSettings}
    {a a₁ a₂ : AccountRisk} {rules₁ rules₂ : List LimitRule}
    (first : reads.InForce settings a s₁ a₁ rules₁)
    (second : reads.InForce settings a s₂ a₂ rules₂) :
    s₁ = s₂ ∧ a₁ = a₂ ∧ rules₁ = rules₂ := by
  obtain ⟨read₁, force₁⟩ := first
  obtain ⟨read₂, force₂⟩ := second
  have same : rules₁ = rules₂ := Except.ok.inj (read₁.symm.trans read₂)
  rcases load : reads.load with _ | answer
  · rw [load] at force₁ force₂
    exact ⟨force₁.1.trans force₂.1.symm, force₁.2.trans force₂.2.symm, same⟩
  · rw [load] at force₁ force₂
    obtain ⟨stored₁, rfl, rfl, rfl⟩ := force₁
    obtain ⟨stored₂, stored_eq, rfl, rfl⟩ := force₂
    cases stored_eq
    exact ⟨rfl, rfl, same⟩

section Calls

variable (settings : RiskSettings) (reads : Reads) (now : Time) (decisionId : String)

theorem evaluatedFrom_exec (request : RiskRequest) (writes : Writes) (persist reserve : Bool)
    (a : AccountRisk) :
    ((evaluatedFrom settings reads request now decisionId writes persist reserve).left a =
        (decideFrom settings reads request now decisionId writes persist reserve).left a) ∧
      (Approves
          ((evaluatedFrom settings reads request now decisionId writes persist reserve).answer a) ↔
        Approves
          ((decideFrom settings reads request now decisionId writes persist reserve).answer
            a)) := by
  unfold evaluatedFrom Method.left Method.answer
  rw [Method.exec_tryCatch]
  rcases (decideFrom settings reads request now decisionId writes persist reserve).exec a
    with ⟨e | d, b⟩
  · dsimp only
    have refused : ¬ Approves (.error e) := fun ⟨d, answered, _⟩ => by cases answered
    split
    · exact ⟨rfl, Iff.rfl⟩
    · refine ⟨rfl, iff_of_false ?_ refused⟩
      rintro ⟨d, answered, approved⟩
      cases answered
      cases approved
  · exact ⟨rfl, Iff.rfl⟩

theorem evaluate_holdsNoBudget_iff (request : RiskRequest) (writes : Writes) (a : AccountRisk) :
    HoldsNoBudget settings reads now decisionId (.evaluate request writes) a ↔
      ¬ (Consultation.evaluate request writes).Unrecorded settings reads now a := by
  obtain ⟨left, approves⟩ :=
    evaluatedFrom_exec settings reads now decisionId request writes true true a
  unfold HoldsNoBudget Consultation.answered Consultation.persists
  rw [left, approves]
  simp only [true_and]
  unfold Method.left Method.answer decideFrom
  rcases exec_loadState_bind settings reads.load
      (fun settings => await reads.rules >>= fun rules =>
        decide settings rules request now decisionId writes true true) a
    with ⟨e, failed, ran⟩ | ⟨settings', a', same, inForce, ran⟩
  · rw [ran]
    refine iff_of_true (fun _ t _ => rfl) ?_
    rintro ⟨-, -, settings', a', rules, ⟨-, loaded⟩, -⟩
    rw [failed] at loaded
    obtain ⟨stored, answered, -⟩ := loaded
    cases answered
  · rw [ran]
    cases read : reads.rules with
    | error e =>
      refine iff_of_true (fun _ t _ => congrArg (liveGrants · t) same) ?_
      rintro ⟨-, -, settings', a', rules, ⟨answered, -⟩, -⟩
      rw [read] at answered
      cases answered
    | ok rules =>
      rw [exec_await_ok]
      have force : reads.InForce settings a settings' a' rules := ⟨read, (inForce rules).2⟩
      have decided :=
        decided_decide settings' rules request now decisionId writes true true a'
      generalize (decide settings' rules request now decisionId writes true true).exec a' = out
        at decided
      cases decided with
      | @kept answer b kept unreserved =>
        refine iff_of_true (fun _ t later => ?_) ?_
        · rw [← same]
          rcases kept with kept | kept
          · exact congrArg (liveGrants · t) kept
          · show liveGrants b.grants t = liveGrants a'.grants t
            rw [kept, liveGrants_liveGrants now a'.grants later]
        · rintro ⟨named, -, s₂, a₂, rules₂, force₂, passes⟩
          obtain ⟨rfl, rfl, rfl⟩ := force.unique force₂
          exact unreserved rfl named passes
      | @granted b account approval _ named passes reserved approves =>
        have grown : ¬ SameBudget now a b := fun unchanged =>
          liveGrants_granted_ne now decisionId a.grants request.proposal account
            (by rw [← same, ← reserved, same]; exact unchanged now le_rfl)
        cases written : writes.event with
        | ok recorded =>
          refine iff_of_true (fun refused => absurd ⟨approval, rfl, approves⟩ refused) ?_
          rintro ⟨-, ⟨e, failed⟩, -⟩
          rw [written] at failed
          cases failed
        | error e =>
          refine iff_of_false (fun holds => grown (holds ?_)) (not_not_intro ?_)
          · rintro ⟨d, answered, -⟩
            cases answered
          · refine ⟨?_, ⟨e, written⟩, settings', a', rules, force, passes⟩
            rw [named]
            exact Option.some_ne_none account

theorem check_sameBudget (request : RiskRequest) (a : AccountRisk) :
    SameBudget now a
      (((Consultation.check request).answered settings reads now decisionId).left a) := by
  obtain ⟨left, -⟩ := evaluatedFrom_exec settings reads now decisionId request {} false false a
  unfold Consultation.answered
  rw [left]
  unfold Method.left decideFrom
  rcases exec_loadState_bind settings reads.load
      (fun settings => await reads.rules >>= fun rules =>
        decide settings rules request now decisionId {} false false) a
    with ⟨e, failed, ran⟩ | ⟨settings', a', same, -, ran⟩
  · rw [ran]
    exact fun t _ => rfl
  · rw [ran]
    cases reads.rules with
    | error e => exact fun t _ => congrArg (liveGrants · t) same
    | ok rules =>
      rw [exec_await_ok]
      have kept := decide_reserves_nothing settings' rules request now decisionId {} false a'
      intro t later
      rw [← same]
      rcases kept with kept | kept
      · exact congrArg (liveGrants · t) kept
      · unfold Method.left at kept
        rw [kept, liveGrants_liveGrants now a'.grants later]

theorem recordVerdict_grants (verdict : RiskVerdict) (accountId : Option String)
    (executionMode : Mode) (version : ℤ) (orderType : String) (writes : Writes) (a : AccountRisk) :
    ((recordVerdict settings verdict accountId executionMode version orderType decisionId
      writes).left a).grants = a.grants := by
  have ends (filed : RiskDecision) : Method.Keeps (fun b : AccountRisk => b.grants = a.grants)
      (await writes.event >>= fun _ => pure filed) :=
    Method.Keeps.bind (keeps_await _) fun _ => Method.Keeps.pure _
  unfold recordVerdict
  cases latched verdict with
  | nil => exact ends _ a rfl
  | cons state rest =>
    exact Method.Keeps.bind
      (keeps_lockAccount (R := fun gs => gs = a.grants) settings state _ _ writes.lock)
      (fun _ => ends _) a rfl

/-- **Budget of a refused order.** A call that does not end in a recorded approval, whatever ended
it, leaves the account's live reservations exactly as they were, unless it is an evaluation whose
order passed every check and whose decision could not be written. -/
theorem holdsNoBudget_iff (call : Consultation) (a : AccountRisk) :
    HoldsNoBudget settings reads now decisionId call a ↔
      ¬ call.Unrecorded settings reads now a := by
  cases call with
  | check request =>
    exact iff_of_true (fun _ => check_sameBudget settings reads now decisionId request a) id
  | evaluate request writes =>
    exact evaluate_holdsNoBudget_iff settings reads now decisionId request writes a
  | recordVerdict verdict accountId executionMode version orderType writes =>
    refine iff_of_true (fun _ t _ => ?_) id
    exact congrArg (liveGrants · t) (recordVerdict_grants settings decisionId verdict accountId
      executionMode version orderType writes a)

end Calls

def lostEvent : Consultation :=
  .evaluate (buyOne "EURUSD")
    { event := .error (.database "OperationalError" (Text.lit "disk full")) }

theorem lostEvent_reserves :
    ((lostEvent.answered {} ⟨none, .ok []⟩ 0 "d-1").answer openAccount).toOption.map
        RiskDecision.outcome = some .error ∧
      (liveGrants ((lostEvent.answered {} ⟨none, .ok []⟩ 0 "d-1").left openAccount).grants 0).map
        (fun g => g.proposal.symbol) = ["EURUSD"] := by
  decide +kernel

/-- An evaluation that ends in an error verdict can hold budget. -/
theorem not_forall_holdsNoBudget :
    ¬ ∀ (settings : RiskSettings) (reads : Reads) (now : Time) (decisionId : String)
        (call : Consultation) (a : AccountRisk),
        HoldsNoBudget settings reads now decisionId call a := by
  intro all
  obtain ⟨answered, reserved⟩ := lostEvent_reserves
  have refused :
      ¬ Approves ((lostEvent.answered {} ⟨none, .ok []⟩ 0 "d-1").answer openAccount) := by
    rintro ⟨d, approved, outcome⟩
    rw [approved] at answered
    have same : some d.outcome = some RiskOutcome.error := answered
    rw [outcome] at same
    cases same
  have held := all {} ⟨none, .ok []⟩ 0 "d-1" lostEvent openAccount
    fun recorded => refused recorded.2
  rw [held 0 le_rfl] at reserved
  cases reserved

end TradeResearch.Risk
