import TradeResearch.Execution.Steps

/-!
# What a pass says it did

`process` makes one outcome of every path, an exception included, and `NO_ORDER` lists the
outcomes that deny an order. A pass that awaited `place_order` and then could not write the
venue's answer on its order raises, and what it raised becomes `strategy_error`, which denies it.

* `Pass.Told` is what a pass has done by each of its stages.
* `denial_true_iff` says when the outcome of a finished pass is true.
-/

namespace TradeResearch.Execution

open Oms Brokers

def Pass.outcome? (p : Pass) : Option Outcome :=
  match p.stage with
  | .done (.outcome result) => some result.outcome
  | _ => none

def Pass.AnswerRecordable (p : Pass) (now : Time) : Prop :=
  ∀ o answer, p.answered = some (o, answer) → ManagedOrder.Recordable now o answer

inductive Pass.Told (p : Pass) : Prop
  | unsent (silent : p.sent = false) (unanswered : p.answered = none)
      (elsewhere : p.stage.sending = false)
  | outstanding (o : ManagedOrder) (here : p.stage = .place o) (sent : p.sent = true)
      (unanswered : p.answered = none)
  | written (o : ManagedOrder) (here : p.stage = .recordAfter o) (sent : p.sent = true)
      (met : ManagedOrder) (answer : Answer OrderResult)
      (answered : p.answered = some (met, answer))
      (recordable : ∀ signal now, p.caller = .pipeline signal now →
        ManagedOrder.Recordable now met answer)
  | ended (ending : Ending) (here : p.stage = .done ending) (sent : p.sent = true)
      (met : ManagedOrder) (answer : Answer OrderResult)
      (answered : p.answered = some (met, answer))
      (told : ∀ signal now, p.caller = .pipeline signal now →
        ∃ result, ending = .outcome result ∧
          (result.outcome ∈ noOrder ↔ ¬ ManagedOrder.Recordable now met answer))

def Stage.beforeSend : Stage → Bool
  | prior _ => true
  | record _ => true
  | venueSpec _ => true
  | stage => stage.early

theorem Stage.beforeSend_of_early {stage : Stage} (early : stage.early = true) :
    stage.beforeSend = true := by
  cases stage <;> first | rfl | cases early

theorem Pass.Told.silent {p : Pass} (told : p.Told) (before : p.stage.beforeSend = true) :
    p.sent = false ∧ p.answered = none := by
  cases told with
  | unsent silent unanswered _ => exact ⟨silent, unanswered⟩
  | outstanding o here | written o here | ended ending here =>
    rw [here] at before
    cases before

theorem Pass.Told.onward {p : Pass} (nothing : p.sent = false ∧ p.answered = none) {stage : Stage}
    (elsewhere : stage.sending = false) : Pass.Told { p with stage } :=
  .unsent nothing.1 nothing.2 elsewhere

variable {d : Deployment} {w w' : World}

theorem Pass.Told.denied {p : Pass} {o met : ManagedOrder} {answer : Answer OrderResult}
    {now : Time} {raised : Exn} {o' : ManagedOrder} (told : p.Told) (here : p.stage = .place o)
    (ran : (ManagedOrder.applyAnswer (p.caller.clock now) answer).exec met = (.error raised, o')) :
    Pass.Told
      { p with answered := some (met, answer), stage := .done (p.caller.fault raised) } := by
  cases told with
  | unsent _ _ elsewhere =>
    rw [here] at elsewhere
    cases elsewhere
  | written _ there | ended _ there =>
    rw [here] at there
    cases there
  | outstanding _ _ sent _ =>
    refine .ended _ rfl sent met answer rfl fun signal start caller => ?_
    rw [caller] at ran ⊢
    refine ⟨_, rfl, iff_of_true strategyError_mem_noOrder fun recordable => ?_⟩
    have returned := (ManagedOrder.applyAnswer_ok_iff met start answer).mpr recordable
    have raises : ((ManagedOrder.applyAnswer start answer).exec met).1 = .error raised := by
      rw [show ManagedOrder.applyAnswer start answer =
        ManagedOrder.applyAnswer (Caller.clock (.pipeline signal start) now) answer from rfl, ran]
    rw [raises] at returned
    cases returned

theorem Pass.Told.answered {p : Pass} {o met : ManagedOrder} {answer : Answer OrderResult}
    {now : Time} {o' : ManagedOrder} (told : p.Told) (here : p.stage = .place o)
    (ran : (ManagedOrder.applyAnswer (p.caller.clock now) answer).exec met = (.ok (), o')) :
    Pass.Told { p with answered := some (met, answer), stage := .recordAfter o' } := by
  cases told with
  | unsent _ _ elsewhere =>
    rw [here] at elsewhere
    cases elsewhere
  | written _ there | ended _ there =>
    rw [here] at there
    cases there
  | outstanding _ _ sent _ =>
    refine .written _ rfl sent met answer rfl fun signal start caller => ?_
    rw [caller] at ran
    exact (ManagedOrder.applyAnswer_ok_iff met start answer).mp (congrArg Prod.fst ran)

theorem Pass.Told.conclude {p : Pass} {o o' : ManagedOrder} {ending : Ending} (told : p.Told)
    (here : p.stage = .recordAfter o)
    (said : ∀ signal now, p.caller = .pipeline signal now → ending = p.caller.concluded o') :
    Pass.Told { p with stage := .done ending } := by
  cases told with
  | unsent silent unanswered _ => exact .unsent silent unanswered rfl
  | outstanding _ there | ended _ there =>
    rw [here] at there
    cases there
  | written _ _ sent met answer answered recordable =>
    refine .ended ending rfl sent met answer answered fun signal now caller => ?_
    have wrote := recordable signal now caller
    refine ⟨_, (said signal now caller).trans (by rw [show p.caller = _ from caller]; rfl), ?_⟩
    exact iff_of_false (outcomeFor_notMem_noOrder o'.status) (not_not.mpr wrote)

theorem StepCase.told (step : StepCase d w e w') (held : w.EachPass Pass.Told) :
    w'.EachPass Pass.Told := by
  have at_ {t : ℕ} {p : Pass} (is : w.tasks t = some (.pass p)) : p.Told := held t p is
  cases step with
  | registered process account mode broker free => exact held
  | crashed process => exact held.crash process
  | gated e t p stage q came idle same =>
    refine held.advance (Pass.Told.onward ?_ ?_)
    · rcases came with ⟨_, nothing⟩ | ⟨is, early⟩
      · exact nothing
      · exact (at_ is).silent (Stage.beforeSend_of_early early)
    · exact Stage.sending_of_unlocked idle.1
  | acquired t p approval is here free | turned e t p approval ending q is here same =>
    exact held.advance (Pass.Told.onward ((at_ is).silent (by rw [here]; rfl)) rfl)
  | created t p approval orderId now m o is here fresh passed held' id intent status =>
    refine World.EachPass.advance (w := { w with issued := _ :: w.issued }) held ?_
    exact .onward ((at_ is).silent (by rw [here]; rfl)) rfl
  | unrecorded t p o tx now table ending q is here wrote forgets
  | begun t p o tx now table q is here wrote recorded same created
  | expired t p o tx now table q o' is here wrote recorded same evolves
  | unbegun t p o tx now table q ending is here wrote same =>
    refine World.EachPass.advance (w := { w with table }) held ?_
    exact .onward ((at_ is).silent (by rw [here]; rfl)) rfl
  | sent t p o spec now o' is here ran =>
    have nothing := (at_ is).silent (by rw [here]; rfl)
    refine World.EachPass.advance (w := { w with sent := _ :: w.sent }) held ?_
    exact .outstanding o' rfl rfl nothing.2
  | unsent t p o spec now o' is here ran | specRaised t p o spec now o' ending is here evolves =>
    exact held.advance (Pass.Told.onward ((at_ is).silent (by rw [here]; rfl)) rfl)
  | placed t p o answer now o' is here ran =>
    exact held.advance ((at_ is).answered here ran)
  | placeRaised t p o answer now raised o' is here ran =>
    exact held.advance ((at_ is).denied here ran)
  | concluded t p o tx table ending is here wrote told =>
    exact World.EachPass.advance (w := { w with table }) held ((at_ is).conclude here told)
  | queued t process account orderId free => exact held.settle
  | requested t process account orderId o stage free known goes
  | settling t s orderId o is here worker free known needs | gone t s orderId q is here same =>
    exact held.settle
  | unread t s o orders positions now verdict is here
  | read t s o orders positions now o' is here evolves => exact held.settle
  | readRaised t s o orders positions now o' verdict is here evolves =>
    exact held.settle
  | settled t s o tx table verdict is here wrote =>
    exact World.EachPass.settle (w := { w with table }) held

theorem told_of_run {events : List Event}
    (run : Run.exec (World.step d) World.start events = some w) : w.EachPass Pass.Told :=
  Run.invariant_all (P := World.EachPass Pass.Told)
    (fun _ _ _ held taken => (step_cases taken).told held) (.start _) run

/-- The outcome of a finished pass of the pipeline, when it denies an order, is true of the pass
exactly when the answer it met, if it met one, could be written on its order. -/
theorem denial_true_iff {events : List Event} {t : ℕ} {p : Pass} {signal : IncomingSignal}
    {now : Time} {outcome : Outcome}
    (run : Run.exec (World.step d) World.start events = some w)
    (is : w.tasks t = some (.pass p)) (caller : p.caller = .pipeline signal now)
    (returned : p.outcome? = some outcome) :
    (outcome ∈ noOrder → p.sent = false) ↔ p.AnswerRecordable now := by
  have finished : ∃ result, p.stage = .done (.outcome result) ∧ result.outcome = outcome := by
    unfold Pass.outcome? at returned
    split at returned
    · next result here => exact ⟨result, here, Option.some.inj returned⟩
    · cases returned
  obtain ⟨result, here, same⟩ := finished
  cases told_of_run run t p is with
  | unsent silent unanswered _ =>
    exact iff_of_true (fun _ => silent) fun o answer met => by rw [unanswered] at met; cases met
  | outstanding _ there | written _ there =>
    rw [here] at there
    cases there
  | ended _ there sent met answer answered told =>
    obtain ⟨result', ending, denies⟩ := told signal now caller
    rw [here, ending] at there
    cases there
    rw [same] at denies
    constructor
    · intro honest o answer' meets
      rw [answered] at meets
      cases meets
      by_contra unrecordable
      have silent := honest (denies.mpr unrecordable)
      rw [sent] at silent
      cases silent
    · intro recordable denied
      exact absurd (recordable met answer answered) (denies.mp denied)

def plainAnswered (result : OrderResult) : List Event :=
  plainSend ++ [.place 0 (.ok result) 0, .recordAfter 0 .commits]

theorem denial_true_plain :
    ∃ w p, Run.exec (World.step allDurable) World.start
        (plainAnswered (.bare .accepted [])) = some w ∧
      w.tasks 0 = some (.pass p) ∧
      ((Outcome.orderSubmitted ∈ noOrder → p.sent = false) ↔ p.AnswerRecordable 0) := by
  have shows : ((Run.exec (World.step allDurable) World.start
      (plainAnswered (.bare .accepted []))).bind fun w => (w.passAt 0).map fun p =>
        (p.caller, p.outcome?)) = some (.pipeline plainSignal 0, some .orderSubmitted) := by
    decide +kernel
  obtain ⟨w, run, shows⟩ := Option.bind_eq_some_iff.mp shows
  obtain ⟨p, is, shows⟩ := Option.map_eq_some_iff.mp shows
  have is := World.passAt_eq_some_iff.mp is
  exact ⟨w, p, run, is, denial_true_iff run is (congrArg Prod.fst shows)
    (congrArg Prod.snd shows)⟩

def overfilled : OrderResult :=
  { OrderResult.bare .accepted [] with
    fillPrice := some (.finite 1), filledVolume := some (.finite 2) }

/-- The venue accepts and overfills an order, and the pass reports that there was no order. -/
theorem not_forall_denial_true :
    ¬ ∀ (d : Deployment) (events : List Event) (w : World) (t : ℕ) (p : Pass)
        (signal : IncomingSignal) (now : Time) (outcome : Outcome),
      Run.exec (World.step d) World.start events = some w → w.tasks t = some (.pass p) →
        p.caller = .pipeline signal now → p.outcome? = some outcome →
          outcome ∈ noOrder → p.sent = false := by
  intro always
  have shows : ((Run.exec (World.step allDurable) World.start
      (plainSend ++ [.place 0 (.ok overfilled) 0])).bind fun w => (w.passAt 0).map fun p =>
        (p.caller, p.outcome?, p.sent)) =
      some (.pipeline plainSignal 0, some .strategyError, true) := by
    decide +kernel
  obtain ⟨w, run, shows⟩ := Option.bind_eq_some_iff.mp shows
  obtain ⟨p, is, shows⟩ := Option.map_eq_some_iff.mp shows
  have silent := always allDurable _ w 0 p plainSignal 0 .strategyError run
    (World.passAt_eq_some_iff.mp is) (congrArg (·.1) shows) (congrArg (·.2.1) shows)
    strategyError_mem_noOrder
  rw [show p.sent = true from congrArg (·.2.2) shows] at silent
  cases silent

end TradeResearch.Execution
