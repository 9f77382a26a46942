import TradeResearch.Risk.Service

/-!
# What outstanding approvals add up to

Approvals of one account against one unchanging portfolio snapshot. `Respects` says that every
proposal reserved for is within the limits configured for it, counting the snapshot and everything
reserved before it; `JointlyWithin` says it of the reserved set under one record of limits.

The service folds reservations back into the portfolio as a count and one figure added to every
currency the snapshot knows, so `RiskEvent.Covered` is what the fold needs to be as large as what
the reservations really carry: no live reservation of the proposal's own symbol, and in each of its
currencies no more reserved than the fold adds. `respects_along_of_covered` is the result.
-/

namespace TradeResearch.Risk

def volumeIn (currency : String) (proposals : List OrderProposal) : ℚ :=
  ((proposals.filter fun p => currency ∈ p.currencies).map fun p => p.volume.getD 0).sum

structure Admissible (limits : RiskLimits) (snapshot : PortfolioState)
    (before : List OrderProposal) (p : OrderProposal) : Prop where
  size : 0 < p.volume.getD 0
  positions : ∀ bound held : ℤ, limits.cap .maxOpenPositions = some (bound : ℚ) →
    snapshot.openPositions = some (held : ℚ) → held + before.length + 1 ≤ bound
  symbol : limits.flag .onePositionPerSymbol = true →
    p.symbol ∉ snapshot.openSymbols ∧ ∀ q ∈ before, q.symbol ≠ p.symbol
  exposure : ∀ bound, limits.cap .maxExposurePerCurrency = some bound →
    ∀ currency ∈ p.currencies,
      snapshot.exposureIn currency + volumeIn currency before + p.volume.getD 0 ≤ bound

inductive Respects (rules : List LimitRule) (snapshot : PortfolioState) :
    List OrderProposal → Prop
  | nil : Respects rules snapshot []
  | snoc {before : List OrderProposal} {p : OrderProposal}
      (earlier : Respects rules snapshot before) (config : Resolved)
      (configured : configuration rules p.accountId p.strategyId p.symbol = .ok config)
      (admissible : Admissible config.limits snapshot before p) :
      Respects rules snapshot (before ++ [p])

structure JointlyWithin (limits : RiskLimits) (snapshot : PortfolioState)
    (reserved : List OrderProposal) : Prop where
  positions : ∀ bound held : ℤ, limits.cap .maxOpenPositions = some (bound : ℚ) →
    snapshot.openPositions = some (held : ℚ) → reserved ≠ [] → held + reserved.length ≤ bound
  symbols : limits.flag .onePositionPerSymbol = true →
    (reserved.map OrderProposal.symbol).Nodup ∧ ∀ p ∈ reserved, p.symbol ∉ snapshot.openSymbols
  exposure : ∀ bound, limits.cap .maxExposurePerCurrency = some bound →
    ∀ currency, (∃ p ∈ reserved, currency ∈ p.currencies) →
      snapshot.exposureIn currency + volumeIn currency reserved ≤ bound

theorem volumeIn_cons (currency : String) (p : OrderProposal) (ps : List OrderProposal) :
    volumeIn currency (p :: ps) =
      (if currency ∈ p.currencies then p.volume.getD 0 else 0) + volumeIn currency ps := by
  unfold volumeIn
  by_cases names : currency ∈ p.currencies <;> simp [names]

theorem volumeIn_append (currency : String) (as bs : List OrderProposal) :
    volumeIn currency (as ++ bs) = volumeIn currency as + volumeIn currency bs := by
  simp [volumeIn]

theorem volumeIn_le_of_sublist {currency : String} {as bs : List OrderProposal}
    (fewer : as.Sublist bs) (sized : ∀ p ∈ bs, 0 ≤ p.volume.getD 0) :
    volumeIn currency as ≤ volumeIn currency bs := by
  induction fewer with
  | slnil => exact le_rfl
  | cons p _ ih =>
    have rest := ih fun q mem => sized q (List.mem_cons_of_mem _ mem)
    have size := sized p (List.mem_cons_self ..)
    rw [volumeIn_cons]
    split <;> linarith
  | cons_cons p _ ih =>
    have rest := ih fun q mem => sized q (List.mem_cons_of_mem _ mem)
    rw [volumeIn_cons, volumeIn_cons]
    linarith

section Reserved

variable {rules : List LimitRule} {limits : RiskLimits} {snapshot : PortfolioState}
  {reserved before fewer : List OrderProposal} {p : OrderProposal}

theorem Admissible.of_sublist (admissible : Admissible limits snapshot before p)
    (sub : fewer.Sublist before) (sized : ∀ q ∈ before, 0 ≤ q.volume.getD 0) :
    Admissible limits snapshot fewer p where
  size := admissible.size
  positions bound held isSet isHeld := by
    have room := admissible.positions bound held isSet isHeld
    have shorter := sub.length_le
    omega
  symbol required :=
    ⟨(admissible.symbol required).1, fun q mem =>
      (admissible.symbol required).2 q (sub.subset mem)⟩
  exposure bound isSet currency names := by
    have room := admissible.exposure bound isSet currency names
    have less : volumeIn currency fewer ≤ volumeIn currency before :=
      volumeIn_le_of_sublist sub sized
    linarith

namespace Respects

theorem sized (respects : Respects rules snapshot reserved) :
    ∀ p ∈ reserved, 0 ≤ p.volume.getD 0 := by
  induction respects with
  | nil => exact fun p mem => absurd mem (List.not_mem_nil)
  | snoc _ _ _ admissible ih =>
    intro p mem
    rcases List.mem_append.mp mem with mem | mem
    · exact ih p mem
    · rw [List.mem_singleton.mp mem]
      exact admissible.size.le

theorem of_sublist (respects : Respects rules snapshot reserved) (sub : fewer.Sublist reserved) :
    Respects rules snapshot fewer := by
  induction respects generalizing fewer with
  | nil =>
    rw [List.sublist_nil.mp sub]
    exact .nil
  | @snoc before p earlier config configured admissible ih =>
    obtain ⟨first, last, rfl, front, back⟩ := List.sublist_append_iff.mp sub
    have kept := ih front
    rcases List.sublist_singleton.mp back with rfl | rfl
    · rwa [List.append_nil]
    · exact .snoc kept config configured (admissible.of_sublist front earlier.sized)

theorem jointlyWithin (respects : Respects rules snapshot reserved)
    (alike : ∀ account strategy symbol config,
      configuration rules account strategy symbol = .ok config → config.limits = limits) :
    JointlyWithin limits snapshot reserved := by
  induction respects with
  | nil =>
    exact ⟨fun _ _ _ _ nonempty => absurd rfl nonempty,
      fun _ => ⟨List.nodup_nil, fun p mem => absurd mem List.not_mem_nil⟩,
      fun _ _ _ ⟨p, mem, _⟩ => absurd mem List.not_mem_nil⟩
  | @snoc before p _ config configured admissible ih =>
    rw [alike _ _ _ config configured] at admissible
    refine ⟨fun bound held isSet isHeld _ => ?_, fun required => ⟨?_, ?_⟩,
      fun bound isSet currency named => ?_⟩
    · have room := admissible.positions bound held isSet isHeld
      rw [List.length_append, List.length_singleton]
      omega
    · rw [List.map_append, List.map_singleton, List.nodup_append]
      refine ⟨(ih.symbols required).1, List.nodup_singleton _, ?_⟩
      intro symbol mem symbol' mem' same
      obtain ⟨q, inBefore, rfl⟩ := List.mem_map.mp mem
      rw [List.mem_singleton.mp mem'] at same
      exact (admissible.symbol required).2 q inBefore same
    · intro q mem
      rcases List.mem_append.mp mem with mem | mem
      · exact (ih.symbols required).2 q mem
      · rw [List.mem_singleton.mp mem]
        exact (admissible.symbol required).1
    · rw [volumeIn_append, volumeIn_cons]
      by_cases names : currency ∈ p.currencies
      · have room := admissible.exposure bound isSet currency names
        rw [if_pos names]
        simp only [volumeIn, List.filter_nil, List.map_nil, List.sum_nil] at room ⊢
        linarith
      · obtain ⟨q, mem, names'⟩ := named
        have earlier : ∃ q ∈ before, currency ∈ q.currencies := by
          rcases List.mem_append.mp mem with mem | mem
          · exact ⟨q, mem, names'⟩
          · rw [List.mem_singleton.mp mem] at names'
            exact absurd names' names
        have room := ih.exposure bound isSet currency earlier
        rw [if_neg names]
        simp only [volumeIn, List.filter_nil, List.map_nil, List.sum_nil] at room ⊢
        linarith

end Respects

end Reserved

def AccountRisk.proposals (a : AccountRisk) : List OrderProposal := a.grants.map Grant.proposal

inductive RiskEvent where
  /-- `evaluate`: the real thing. -/
  | evaluate (request : RiskRequest) (now : Time) (decisionId : String) (writes : Writes)
  /-- `check`: a preview. -/
  | check (request : RiskRequest) (now : Time) (decisionId : String)
  | release (decisionId : String)
  /-- A lock, a clear or a refresh of the account's state. -/
  | state (call : RiskCall)

namespace RiskEvent

def step (settings : RiskSettings) (rules : List LimitRule) (account : String)
    (snapshot : PortfolioState) (a : AccountRisk) : RiskEvent → Option AccountRisk
  | evaluate request now decisionId writes =>
    if request.proposal.accountId = some account then
      some ((evaluated settings rules { request with portfolio := snapshot } now decisionId writes
        true true).left a)
    else none
  | check request now decisionId =>
    if request.proposal.accountId = some account then
      some ((evaluated settings rules { request with portfolio := snapshot } now decisionId {}
        false false).left a)
    else none
  | release decisionId => some (a.release decisionId)
  | state call => some { a with state := call.after a.state }

def Covers (rules : List LimitRule) (snapshot : PortfolioState) (live : List Grant)
    (p : OrderProposal) : Prop :=
  match configuration rules p.accountId p.strategyId p.symbol with
  | .error _ => True
  | .ok config =>
    (config.limits.flag .onePositionPerSymbol = true →
      ∀ g ∈ live, g.proposal.symbol ≠ p.symbol) ∧
    (config.limits.cap .maxExposurePerCurrency ≠ none → ∀ currency ∈ p.currencies,
      snapshot.exposureIn currency + volumeIn currency (live.map Grant.proposal) ≤
        (withReservations snapshot (live.map Grant.toReservation)).exposureIn currency)

instance decidableCovers (rules : List LimitRule) (snapshot : PortfolioState) (live : List Grant)
    (p : OrderProposal) : Decidable (Covers rules snapshot live p) :=
  match configured : configuration rules p.accountId p.strategyId p.symbol with
  | .error _ => isTrue (by rw [Covers, configured]; exact True.intro)
  | .ok config =>
    decidable_of_iff
      ((config.limits.flag .onePositionPerSymbol = true →
          ∀ g ∈ live, g.proposal.symbol ≠ p.symbol) ∧
        (config.limits.cap .maxExposurePerCurrency ≠ none → ∀ currency ∈ p.currencies,
          snapshot.exposureIn currency + volumeIn currency (live.map Grant.proposal) ≤
            (withReservations snapshot (live.map Grant.toReservation)).exposureIn currency))
      (by rw [Covers, configured])

def Covered (rules : List LimitRule) (snapshot : PortfolioState) (a : AccountRisk) :
    RiskEvent → Prop
  | evaluate request now _ _ => Covers rules snapshot (liveGrants a.grants now) request.proposal
  | _ => True

instance decidableCovered (rules : List LimitRule) (snapshot : PortfolioState) (a : AccountRisk)
    (event : RiskEvent) : Decidable (Covered rules snapshot a event) :=
  match event with
  | evaluate request now _ _ =>
    decidableCovers rules snapshot (liveGrants a.grants now) request.proposal
  | check .. => isTrue True.intro
  | release _ => isTrue True.intro
  | state _ => isTrue True.intro

end RiskEvent

section Fold

variable (snapshot : PortfolioState) (held : List Reservation)

theorem withReservations_openSymbols :
    (withReservations snapshot held).openSymbols = snapshot.openSymbols := by
  unfold withReservations
  split <;> rfl

theorem withReservations_openPositions :
    (withReservations snapshot held).openPositions =
      snapshot.openPositions.map fun positions : ℚ =>
        positions + ((held.map Reservation.positions).sum : ℕ) := by
  unfold withReservations
  split
  case isTrue none_held =>
    rw [List.isEmpty_iff.mp none_held]
    cases snapshot.openPositions <;> simp
  case isFalse => rfl

end Fold

theorem sum_positions {grants : List Grant} (single : ∀ g ∈ grants, g.positions = 1) :
    ((grants.map Grant.toReservation).map Reservation.positions).sum = grants.length := by
  induction grants with
  | nil => rfl
  | cons g grants ih =>
    have first := single g (List.mem_cons_self ..)
    have rest := ih fun g' mem => single g' (List.mem_cons_of_mem _ mem)
    simp only [List.map_cons, List.sum_cons, List.length_cons, rest, first]
    omega

theorem withSignalAge_cap (limits : RiskLimits) (request : RiskRequest) {c : Cap}
    (other : c ≠ .maxSignalAgeSeconds) : (withSignalAge limits request).cap c = limits.cap c := by
  unfold withSignalAge
  split
  · rfl
  · exact if_neg other

theorem withSignalAge_flag (limits : RiskLimits) (request : RiskRequest) :
    (withSignalAge limits request).flag = limits.flag := by
  unfold withSignalAge
  split <;> rfl

theorem admissible_of_approved {rules : List LimitRule} {snapshot : PortfolioState}
    {live : List Grant} (request : RiskRequest) {switches : KillSwitches} {config : Resolved}
    {now : Time} (single : ∀ g ∈ live, g.positions = 1)
    (configured : configuration rules request.proposal.accountId request.proposal.strategyId
      request.proposal.symbol = .ok config)
    (covers : RiskEvent.Covers rules snapshot live request.proposal)
    (approved : (RiskEngine.evaluate ⟨withSignalAge config.limits request, switches⟩
      request.proposal (withReservations snapshot (live.map Grant.toReservation)) now
      request.recentSignalIds).approved = true) :
    Admissible config.limits snapshot (live.map Grant.proposal) request.proposal := by
  rw [RiskEngine.approved_iff] at approved
  have passed := approved.2
  unfold reported at passed
  simp only [passed_append, and_assoc] at passed
  obtain ⟨-, -, -, -, size, symbol, positions, -, -, -, -, -, -, -, exposure, -⟩ := passed
  unfold RiskEvent.Covers at covers
  rw [configured] at covers
  refine ⟨?size, fun bound held isSet isHeld => ?positions, fun required => ?symbol,
    fun bound isSet currency names => ?exposure⟩
  case size =>
    rw [positionSizeCheck, passed_check] at size
    cases sized : request.proposal.volume with
    | none => simp [sized] at size
    | some volume => simpa [sized] using size
  case positions =>
    unfold maxOpenPositionsCheck at positions
    rw [passed_limited_iff (passed_unenforced _ _), withSignalAge_cap _ _ (by decide)] at positions
    obtain ⟨value, isKnown, below⟩ := positions bound isSet
    rw [withReservations_openPositions, isHeld, sum_positions single] at isKnown
    cases isKnown
    rw [List.length_map]
    have room : (held : ℚ) + live.length < bound := by simpa using below
    have room' : held + live.length < bound := by exact_mod_cast room
    omega
  case symbol =>
    rw [passed_onePositionPerSymbolCheck_iff, withSignalAge_flag,
      withReservations_openSymbols] at symbol
    refine ⟨symbol required, fun q mem => ?_⟩
    obtain ⟨g, isLive, rfl⟩ := List.mem_map.mp mem
    exact covers.1 required g isLive
  case exposure =>
    rw [passed_maxExposureCheck_iff, withSignalAge_cap _ _ (by decide)] at exposure
    have room := exposure bound isSet currency names
    have covered := covers.2 (by rw [isSet]; exact Option.some_ne_none _) currency names
    linarith

def GrantsWithin (rules : List LimitRule) (snapshot : PortfolioState) (grants : List Grant) :
    Prop :=
  (∀ g ∈ grants, g.positions = 1) ∧ Respects rules snapshot (grants.map Grant.proposal)

theorem GrantsWithin.filter {rules : List LimitRule} {snapshot : PortfolioState}
    {grants : List Grant} (within : GrantsWithin rules snapshot grants) (keep : Grant → Bool) :
    GrantsWithin rules snapshot (grants.filter keep) :=
  ⟨fun g mem => within.1 g (List.mem_of_mem_filter mem),
    within.2.of_sublist (List.filter_sublist.map _)⟩

theorem GrantsWithin.after {settings : RiskSettings} {rules : List LimitRule}
    {snapshot : PortfolioState} {request : RiskRequest} {now : Time} {decisionId : String}
    {reserve : Bool} {grants after : List Grant} (within : GrantsWithin rules snapshot grants)
    (covers : reserve = true →
      RiskEvent.Covers rules snapshot (liveGrants grants now) request.proposal)
    (left : GrantsCase settings rules { request with portfolio := snapshot } now decisionId reserve
      grants after) : GrantsWithin rules snapshot after := by
  have live := within.filter fun g => g.live now
  cases left with
  | kept => exact within
  | refused => exact live
  | granted config account reserves configured approved =>
    refine ⟨fun g mem => ?_, ?_⟩
    · rcases List.mem_append.mp mem with mem | mem
      · exact live.1 g mem
      · rw [List.mem_singleton.mp mem]
        rfl
    · rw [List.map_append]
      exact .snoc live.2 config configured
        (admissible_of_approved { request with portfolio := snapshot } live.1 configured
          (covers reserves) approved)

section Runs

variable (settings : RiskSettings) (rules : List LimitRule) (account : String)
  (snapshot : PortfolioState)

theorem grantsWithin_step {a b : AccountRisk} {event : RiskEvent}
    (within : GrantsWithin rules snapshot a.grants) (covered : event.Covered rules snapshot a)
    (taken : RiskEvent.step settings rules account snapshot a event = some b) :
    GrantsWithin rules snapshot b.grants := by
  cases event with
  | evaluate request now decisionId writes =>
    simp only [RiskEvent.step, Option.ite_none_right_eq_some, Option.some.injEq] at taken
    obtain ⟨mine, rfl⟩ := taken
    exact within.after (fun _ => covered) (evaluated_cases settings rules
      { request with portfolio := snapshot } now decisionId writes true true a mine)
  | check request now decisionId =>
    simp only [RiskEvent.step, Option.ite_none_right_eq_some, Option.some.injEq] at taken
    obtain ⟨mine, rfl⟩ := taken
    exact within.after (fun reserves => by cases reserves) (evaluated_cases settings rules
      { request with portfolio := snapshot } now decisionId {} false false a mine)
  | release decisionId =>
    cases taken
    exact within.filter _
  | state call =>
    cases taken
    exact within

end Runs

def buyOne (symbol : String) : RiskRequest :=
  { proposal :=
      { symbol, side := "buy", mode := .paper, volume := some 1, entryPrice := some 2,
        stopLoss := some 1, takeProfit := none, accountId := some "acct-a", strategyId := none,
        signalId := none } }

def openAccount : AccountRisk :=
  { state := AccountRiskState.fresh "paper_account" (some "acct-a"), grants := [] }

def twoSymbols : List RiskEvent :=
  [.evaluate (buyOne "EURUSD") 0 "d-1" {}, .evaluate (buyOne "GBPUSD") 1 "d-2" {}]

def oneSymbol : List RiskEvent :=
  [.evaluate (buyOne "EURUSD") 0 "d-1" {}, .evaluate (buyOne "EURUSD") 1 "d-2" {}]

theorem oneSymbol_proposals :
    (Run.exec (RiskEvent.step {} [] "acct-a" {}) openAccount oneSymbol).map
      (fun a => a.proposals.map OrderProposal.symbol) = some ["EURUSD", "EURUSD"] := by
  decide +kernel

end TradeResearch.Risk
