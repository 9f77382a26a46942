import TradeResearch.Risk.Engine

/-!
# The mode fence

When the engine issues an approval for a mode that is neither paper nor demo. An opening order needs
every check to pass, the mode among them. A close is approved over every check but the mode's; where
a kill switch holds the order, the verdict lists the switch alone, and no mode check is left to
refuse it.

* `OpensFenced` and `ClosesFenced` say what an approval of each kind has to have passed.
* `fenced_iff` is when both hold.
-/

namespace TradeResearch.Risk

def OrderProposal.simulated (p : OrderProposal) : Prop := p.mode = .paper ∨ p.mode = .demo

def KillSwitches.Holds (k : KillSwitches) (p : OrderProposal) : Prop :=
  k.engagedFor p.accountId p.strategyId ≠ none

def OrderProposal.Sized (p : OrderProposal) : Prop := ∃ volume, p.volume = some volume ∧ 0 < volume

namespace RiskEngine

variable (e : RiskEngine) (proposal : OrderProposal) (portfolio : PortfolioState) (now : Time)
  (recentSignalIds : List String) (decisionId : String)

def OpensFenced : Prop :=
  ∀ approval, (e.approve proposal portfolio now recentSignalIds decisionId).1 = some approval →
    proposal.simulated ∧ ¬ e.switches.Holds proposal ∧
      Passed (reported e.limits proposal portfolio now recentSignalIds)

def ClosesFenced : Prop :=
  ∀ approval, (e.approveClose proposal portfolio now decisionId).1 = some approval →
    proposal.simulated

theorem simulated_of_passed
    (passed : Passed (reported e.limits proposal portfolio now recentSignalIds)) :
    proposal.simulated := by
  unfold reported at passed
  simp only [passed_append, and_assoc] at passed
  obtain ⟨mode, -⟩ := passed
  unfold tradingModeCheck at mode
  rw [passed_check, decide_eq_true_eq] at mode
  exact mode

theorem opensFenced : e.OpensFenced proposal portfolio now recentSignalIds decisionId := by
  intro approval issued
  unfold approve at issued
  dsimp only at issued
  split at issued
  case isFalse => cases issued
  case isTrue permitted =>
    obtain ⟨free, passed⟩ :=
      (e.approved_iff proposal portfolio now recentSignalIds).mp permitted.1
    refine ⟨e.simulated_of_passed proposal portfolio now recentSignalIds passed, ?_, passed⟩
    exact fun holds => holds free

def modeOk (verdict : RiskVerdict) : Bool :=
  verdict.checks.all fun c => decide (c.limit = .tradingMode → c.passed = true)

theorem approveClose_isSome_iff :
    (∃ approval, (e.approveClose proposal portfolio now decisionId).1 = some approval) ↔
      modeOk (e.evaluate proposal portfolio now []) = true ∧ proposal.Sized := by
  have sized_iff : (proposal.volume.any fun volume => decide (0 < volume)) = true ↔
      proposal.Sized := by
    unfold OrderProposal.Sized
    cases proposal.volume with
    | none | some volume => simp
  rw [← sized_iff]
  unfold approveClose modeOk
  dsimp only
  split
  case isTrue permitted => exact iff_of_true ⟨_, rfl⟩ permitted
  case isFalse refused =>
    refine iff_of_false ?_ refused
    rintro ⟨approval, issued⟩
    cases issued

theorem modeOk_of_holds (holds : e.switches.Holds proposal) :
    modeOk (e.evaluate proposal portfolio now []) = true := by
  unfold modeOk evaluate
  rcases engaged : e.switches.engagedFor proposal.accountId proposal.strategyId with _ | ⟨kind, why⟩
  · exact absurd engaged holds
  · have switched : kind ≠ .tradingMode := by
      rintro rfl
      unfold KillSwitches.engagedFor at engaged
      split at engaged
      · cases engaged
      · split at engaged
        · cases engaged
        · split at engaged <;> cases engaged
    simp [check, switched]

theorem simulated_of_modeOk (free : ¬ e.switches.Holds proposal)
    (ok : modeOk (e.evaluate proposal portfolio now []) = true) : proposal.simulated := by
  have free : e.switches.engagedFor proposal.accountId proposal.strategyId = none :=
    not_not.mp free
  have listed : (e.evaluate proposal portfolio now []).checks =
      checks e.limits proposal portfolio now [] := by
    unfold evaluate
    rw [free]
    dsimp only
    split <;> rfl
  unfold modeOk at ok
  rw [listed, List.all_eq_true] at ok
  have made : (⟨.tradingMode, decide (proposal.mode = .paper ∨ proposal.mode = .demo),
      Text.lit s!"mode {proposal.mode.name}", true⟩ : CheckOutcome) ∈
        checks e.limits proposal portfolio now [] := by
    unfold checks reported
    simp only [List.append_assoc]
    exact List.mem_append_left _ (List.mem_singleton.mpr rfl)
  have passed : decide (proposal.mode = .paper ∨ proposal.mode = .demo) = true :=
    of_decide_eq_true (ok _ made) rfl
  rw [decide_eq_true_eq] at passed
  exact passed

/-- **Mode fence.** An approval, to open or to close, is issued only in paper or demo and over no
breached limit that applies to it, unless a kill switch holds a close of some volume in another
mode. -/
theorem fenced_iff :
    (e.OpensFenced proposal portfolio now recentSignalIds decisionId ∧
        e.ClosesFenced proposal portfolio now decisionId) ↔
      ¬ (e.switches.Holds proposal ∧ ¬ proposal.simulated ∧ proposal.Sized) := by
  have opens := e.opensFenced proposal portfolio now recentSignalIds decisionId
  have issued := e.approveClose_isSome_iff proposal portfolio now decisionId
  constructor
  · rintro ⟨-, closes⟩ ⟨holds, other, sized⟩
    have ok := e.modeOk_of_holds proposal portfolio now holds
    obtain ⟨approval, approved⟩ := issued.mpr ⟨ok, sized⟩
    exact other (closes approval approved)
  · intro open'
    refine ⟨opens, fun approval approved => ?_⟩
    obtain ⟨ok, sized⟩ := issued.mp ⟨approval, approved⟩
    by_contra other
    have free : ¬ e.switches.Holds proposal := fun holds => open' ⟨holds, other, sized⟩
    exact other (e.simulated_of_modeOk proposal portfolio now free ok)

end RiskEngine

def liveClose : OrderProposal :=
  { symbol := "EURUSD", side := "sell", mode := .live, volume := some 1, entryPrice := none,
    stopLoss := none, takeProfit := none, accountId := some "acct-a", strategyId := none,
    signalId := none }

/-- With the global kill switch engaged, a live close is approved. -/
theorem not_forall_closesFenced :
    ¬ ∀ (e : RiskEngine) (proposal : OrderProposal) (portfolio : PortfolioState) (now : Time)
        (recentSignalIds : List String) (decisionId : String),
        e.OpensFenced proposal portfolio now recentSignalIds decisionId ∧
          e.ClosesFenced proposal portfolio now decisionId := by
  intro fenced
  have closes := (fenced ⟨.default, { globalStop := true }⟩ liveClose {} 0 [] "d-1").2
  have live := closes _ rfl
  rcases live with paper | demo
  · cases paper
  · cases demo

end TradeResearch.Risk
