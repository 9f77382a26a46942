import TradeResearch.Portfolio.Exposure
import TradeResearch.Positions.StopSide

/-!
# Open risk

`open_risk` of `backend/app/portfolio/exposure.py`. Figures are numbers here: the texts of a report
are read back as the numbers they were written from.

* `openRisk_eq`: the totals of a report are those of the risk of each position.
* `risk_eq_loss_iff`: the risk of a position is what its stop would lose exactly when the stop is on
  the losing side of the entry.
* `trueRisk_iff`: the claim of a report, and exactly when it holds.
-/

namespace TradeResearch.Portfolio

structure RiskEntry where
  positionId : String
  symbol : String
  risk : Option ℚ
  reason : String
  deriving DecidableEq

structure OpenRisk where
  total : ℚ
  positions : List RiskEntry
  bySymbol : Totals String ℚ
  byStrategy : Totals String ℚ
  unstoppedPositions : ℕ
  uncomputablePositions : ℕ
  complete : Bool
  note : String

structure Pass where
  perPosition : List RiskEntry := []
  total : ℚ := 0
  unstopped : ℕ := 0
  uncomputable : ℕ := 0

def Pass.take (s : Pass) (p : PositionView) : Pass :=
  match p.stopLoss, p.tickSize.filter (· ≠ 0), p.tickValue with
  | none, _, _ =>
    { s with
      unstopped := s.unstopped + 1
      perPosition := s.perPosition ++ [⟨p.positionId, p.symbol, none,
        "no stop loss, so there is no risk-to-stop. NOT zero: an unstopped position is the one " ++
        "whose loss has no floor."⟩] }
  | some stop, some tickSize, some tickValue =>
    let distance := |p.entryPrice - stop|
    let ticks := distance / tickSize
    let risk := ticks * tickValue * |p.quantity|
    { s with
      total := s.total + risk
      perPosition := s.perPosition ++ [⟨p.positionId, p.symbol, some risk, ""⟩] }
  | some _, _, _ =>
    { s with
      uncomputable := s.uncomputable + 1
      perPosition := s.perPosition ++ [⟨p.positionId, p.symbol, none,
        s!"{p.symbol} has no measured tick value, so a stop distance cannot be turned into " ++
        "money. Refused rather than guessed -- the rule `app.sizing` already applies."⟩] }

def gather (key : PositionView → String) (t : Totals String ℚ) (x : PositionView × RiskEntry) :
    Totals String ℚ :=
  match x.2.risk with
  | none => t
  | some risk => t.update (key x.1) 0 (· + risk)

def openRisk (positions : List PositionView) : OpenRisk :=
  let pass := positions.foldl Pass.take {}
  let entries := positions.zip pass.perPosition
  { total := pass.total
    positions := pass.perPosition
    bySymbol := entries.foldl (gather PositionView.symbol) (.empty Prod.fst)
    byStrategy := entries.foldl (gather strategyKey) (.empty Prod.fst)
    unstoppedPositions := pass.unstopped
    uncomputablePositions := pass.uncomputable
    complete := pass.unstopped = 0 ∧ pass.uncomputable = 0
    note := "the sum covers only the positions whose risk to stop could be computed. " ++
      s!"{pass.unstopped} have no stop and {pass.uncomputable} lack a measured tick value; " ++
      "neither is counted as zero, because zero would say the position cannot lose." }

namespace PositionView

def terms (p : PositionView) : Option (ℚ × ℚ × ℚ) :=
  match p.stopLoss, p.tickSize.filter (· ≠ 0), p.tickValue with
  | some stop, some tickSize, some tickValue => some (stop, tickSize, tickValue)
  | _, _, _ => none

def risk? (p : PositionView) : Option ℚ :=
  p.terms.map fun (stop, tickSize, tickValue) =>
    |p.entryPrice - stop| / tickSize * tickValue * |p.quantity|

def loss? (p : PositionView) : Option ℚ :=
  p.terms.map fun (stop, tickSize, tickValue) =>
    max 0 ((p.entryPrice - stop) * p.direction / tickSize * tickValue * |p.quantity|)

end PositionView

structure Passed (ps : List PositionView) (s : Pass) : Prop where
  risks : s.perPosition.map RiskEntry.risk = ps.map PositionView.risk?
  total : s.total = (ps.filterMap PositionView.risk?).sum
  left : s.unstopped + s.uncomputable = ps.countP fun p => p.risk?.isNone

theorem passed_nil : Passed [] {} := ⟨rfl, rfl, rfl⟩

theorem Pass.take_cases (s : Pass) (p : PositionView) :
    (p.risk? = none ∧ ∃ entry : RiskEntry, entry.risk = none ∧
      (s.take p).perPosition = s.perPosition ++ [entry] ∧ (s.take p).total = s.total ∧
        (s.take p).unstopped + (s.take p).uncomputable = s.unstopped + s.uncomputable + 1) ∨
    ∃ risk, p.risk? = some risk ∧ ∃ entry : RiskEntry, entry.risk = some risk ∧
      (s.take p).perPosition = s.perPosition ++ [entry] ∧ (s.take p).total = s.total + risk ∧
        (s.take p).unstopped = s.unstopped ∧ (s.take p).uncomputable = s.uncomputable := by
  unfold Pass.take PositionView.risk? PositionView.terms
  cases p.stopLoss with
  | none => exact Or.inl ⟨rfl, _, rfl, rfl, rfl, Nat.add_right_comm ..⟩
  | some stop =>
    cases p.tickSize.filter (· ≠ 0) with
    | none => exact Or.inl ⟨rfl, _, rfl, rfl, rfl, rfl⟩
    | some tickSize =>
      cases p.tickValue with
      | none => exact Or.inl ⟨rfl, _, rfl, rfl, rfl, rfl⟩
      | some tickValue => exact Or.inr ⟨_, rfl, _, rfl, rfl, rfl, rfl, rfl⟩

theorem Passed.take {ps : List PositionView} {s : Pass} (passed : Passed ps s) (p : PositionView) :
    Passed (ps ++ [p]) (s.take p) := by
  obtain ⟨risks, total, left⟩ := passed
  rcases s.take_cases p with ⟨none_, entry, is, entries, same, more⟩ |
    ⟨risk, some_, entry, is, entries, more, same, same'⟩
  · refine ⟨?_, ?_, ?_⟩
    · rw [entries, List.map_append, List.map_append, risks, List.map_singleton,
        List.map_singleton, is, none_]
    · rw [same, total, List.filterMap_append]
      simp [none_]
    · rw [more, left, List.countP_append]
      simp [none_]
  · refine ⟨?_, ?_, ?_⟩
    · rw [entries, List.map_append, List.map_append, risks, List.map_singleton,
        List.map_singleton, is, some_]
    · rw [more, total, List.filterMap_append, List.sum_append]
      simp [some_]
    · rw [same, same', left, List.countP_append]
      simp [some_]

theorem passed_foldl (ps : List PositionView) : Passed ps (ps.foldl Pass.take {}) := by
  induction ps using List.reverseRecOn with
  | nil => exact passed_nil
  | append_singleton ps p ih =>
    rw [List.foldl_append]
    exact ih.take p

def PositionView.riskUnder (key : PositionView → String) (p : PositionView) :
    Option (String × ℚ) :=
  p.risk?.map fun risk => (key p, risk)

theorem foldl_gather (key : PositionView → String) {ps : List PositionView}
    {entries : List RiskEntry} (risks : entries.map RiskEntry.risk = ps.map PositionView.risk?) :
    (ps.zip entries).foldl (gather key) (.empty Prod.fst) =
      Totals.collect (ps.filterMap (·.riskUnder key)) := by
  unfold Totals.collect
  generalize (Table.empty Prod.fst : Totals String ℚ) = t
  induction ps generalizing entries t with
  | nil => rfl
  | cons p ps ih =>
    cases entries with
    | nil => cases risks
    | cons entry entries =>
      rw [List.map_cons, List.map_cons, List.cons_eq_cons] at risks
      obtain ⟨is, risks⟩ := risks
      rw [List.zip_cons_cons, List.foldl_cons, ih risks]
      unfold gather
      rw [is]
      cases known : p.risk? with
      | none =>
        have under : p.riskUnder key = none := by
          unfold PositionView.riskUnder
          rw [known]
          rfl
        rw [List.filterMap_cons_none under]
      | some risk =>
        have under : p.riskUnder key = some (key p, risk) := by
          unfold PositionView.riskUnder
          rw [known]
          rfl
        rw [List.filterMap_cons_some under, List.foldl_cons]

theorem openRisk_eq (ps : List PositionView) :
    (openRisk ps).total = (ps.filterMap PositionView.risk?).sum ∧
      (openRisk ps).positions.map RiskEntry.risk = ps.map PositionView.risk? ∧
      (openRisk ps).bySymbol = Totals.collect (ps.filterMap (·.riskUnder PositionView.symbol)) ∧
      (openRisk ps).byStrategy = Totals.collect (ps.filterMap (·.riskUnder strategyKey)) ∧
      ((openRisk ps).complete = true ↔ ∀ p ∈ ps, p.risk?.isSome = true) := by
  obtain ⟨risks, total, left⟩ := passed_foldl ps
  refine ⟨total, risks, foldl_gather _ risks, foldl_gather _ risks, ?_⟩
  have none_ : (ps.countP fun p => p.risk?.isNone) = 0 ↔ ∀ p ∈ ps, p.risk?.isSome = true := by
    rw [List.countP_eq_zero]
    refine forall₂_congr fun p _ => ?_
    cases p.risk? <;> simp
  rw [← none_, ← left]
  unfold openRisk
  rw [decide_eq_true_iff, Nat.add_eq_zero_iff]

def OnLosingSide (p : PositionView) : Prop :=
  ∀ stop tickSize tickValue, p.terms = some (stop, tickSize, tickValue) →
    (p.entryPrice - stop) * (tickValue / tickSize * |p.quantity|) = 0 ∨
      (0 < tickValue / tickSize * |p.quantity| ∧ 0 < (p.entryPrice - stop) * p.direction)

theorem abs_mul_eq_max_iff {y u : ℚ} : |y| * u = max 0 (y * u) ↔ y * u = 0 ∨ (0 < u ∧ 0 < y) := by
  rcases lt_trichotomy u 0 with below | rfl | above
  · have none_ : |y| * u ≤ 0 := mul_nonpos_of_nonneg_of_nonpos (abs_nonneg y) below.le
    constructor
    · intro same
      have zero : |y| * u = 0 := le_antisymm none_ (same ▸ le_max_left ..)
      rcases mul_eq_zero.mp zero with zero | zero
      · exact Or.inl (by rw [abs_eq_zero.mp zero, zero_mul])
      · exact absurd zero below.ne
    · intro side
      rcases side with zero | ⟨above, -⟩
      · rcases mul_eq_zero.mp zero with rfl | zero
        · simp
        · exact absurd zero below.ne
      · exact absurd above below.not_gt
  · simp
  · rcases le_or_gt y 0 with out | losing
    · have gone : y * u ≤ 0 := mul_nonpos_of_nonpos_of_nonneg out above.le
      rw [abs_of_nonpos out, max_eq_left gone, neg_mul, neg_eq_zero]
      exact ⟨Or.inl, fun side => side.elim id fun here => absurd here.2 out.not_gt⟩
    · rw [abs_of_pos losing, max_eq_right (mul_pos losing above).le]
      exact iff_of_true rfl (Or.inr ⟨above, losing⟩)

theorem PositionView.direction_eq (p : PositionView) :
    (p.direction : ℚ) = 1 ∨ (p.direction : ℚ) = -1 := by
  unfold PositionView.direction
  split
  · exact Or.inl Int.cast_one
  · exact Or.inr (by norm_num)

theorem PositionView.abs_mul_direction (p : PositionView) (x : ℚ) : |x * p.direction| = |x| := by
  rcases p.direction_eq with is | is
  · rw [is, mul_one]
  · rw [is, mul_neg_one, abs_neg]

theorem PositionView.risk?_eq (p : PositionView) : p.risk? = p.terms.map fun terms =>
    |(p.entryPrice - terms.1) * p.direction| * (terms.2.2 / terms.2.1 * |p.quantity|) := by
  refine congrArg (p.terms.map ·) (funext fun (stop, tickSize, tickValue) => ?_)
  rw [p.abs_mul_direction]
  ring

theorem PositionView.loss?_eq (p : PositionView) : p.loss? = p.terms.map fun terms =>
    max 0 ((p.entryPrice - terms.1) * p.direction * (terms.2.2 / terms.2.1 * |p.quantity|)) := by
  refine congrArg (p.terms.map ·) (funext fun (stop, tickSize, tickValue) => ?_)
  exact congrArg (max 0) (by ring)

theorem risk_eq_loss_iff (p : PositionView) : p.risk? = p.loss? ↔ OnLosingSide p := by
  rw [p.risk?_eq, p.loss?_eq]
  unfold OnLosingSide
  cases p.terms with
  | none => exact iff_of_true rfl fun _ _ _ here => by cases here
  | some terms =>
    obtain ⟨stop, tickSize, tickValue⟩ := terms
    have nothing : (p.entryPrice - stop) * p.direction * (tickValue / tickSize * |p.quantity|) = 0 ↔
        (p.entryPrice - stop) * (tickValue / tickSize * |p.quantity|) = 0 := by
      rcases p.direction_eq with is | is
      · rw [is, mul_one]
      · rw [is, mul_neg_one, neg_mul, neg_eq_zero]
    rw [Option.map_some, Option.map_some, Option.some_inj]
    rw [abs_mul_eq_max_iff, nothing]
    constructor
    · intro side stop' tickSize' tickValue' here
      cases here
      exact side
    · intro side
      exact side stop tickSize tickValue rfl

theorem isSome_risk? (p : PositionView) : p.risk?.isSome = p.loss?.isSome := by
  unfold PositionView.risk? PositionView.loss?
  rw [Option.isSome_map, Option.isSome_map]

theorem amount_riskUnder (key : PositionView → String) (ps : List PositionView) (k : String) :
    Totals.amount (ps.filterMap (·.riskUnder key)) k =
      ((ps.filter fun p => key p = k).filterMap PositionView.risk?).sum := by
  induction ps with
  | nil => rfl
  | cons p ps ih =>
    rw [← List.singleton_append, List.filterMap_append, Totals.amount_append, ih,
      List.filter_append, List.filterMap_append, List.sum_append]
    congr 1
    unfold PositionView.riskUnder
    cases known : p.risk? with
    | none =>
      have none_ : ([p].filter fun p => key p = k).filterMap PositionView.risk? = [] :=
        List.filterMap_eq_nil_iff.mpr fun q mem => by
          rw [List.mem_singleton.mp (List.mem_of_mem_filter mem), known]
      rw [none_, List.filterMap_cons_none (by rw [known]; rfl)]
      rfl
    | some risk =>
      rw [List.filterMap_cons_some (by rw [known]; rfl), List.filterMap_nil,
        Totals.amount_singleton, List.filter_singleton]
      by_cases same : key p = k
      · rw [if_pos same, decide_eq_true same, cond_true, List.filterMap_cons_some known]
        exact List.sum_singleton.symm
      · rw [if_neg same, decide_eq_false same, cond_false]
        rfl

theorem sum_riskUnder (key : PositionView → String) (ps : List PositionView) :
    (Totals.collect (ps.filterMap (·.riskUnder key))).sum Prod.snd =
      (ps.filterMap PositionView.risk?).sum := by
  refine (Totals.sum_collect (AddMonoidHom.id ℚ) _).trans (congrArg List.sum ?_)
  rw [List.map_filterMap]
  refine congrFun (congrArg _ (funext fun p => ?_)) ps
  unfold PositionView.riskUnder
  rw [Option.map_map]
  exact Option.map_id'

structure TrueRisk (ps : List PositionView) : Prop where
  risks : (openRisk ps).positions.map RiskEntry.risk = ps.map PositionView.loss?
  total : (openRisk ps).total = (ps.filterMap PositionView.loss?).sum
  bySymbol : ∀ k, (openRisk ps).bySymbol.get k 0 =
    ((ps.filter fun p => p.symbol = k).filterMap PositionView.loss?).sum
  byStrategy : ∀ k, (openRisk ps).byStrategy.get k 0 =
    ((ps.filter fun p => strategyKey p = k).filterMap PositionView.loss?).sum
  symbols : (openRisk ps).bySymbol.sum Prod.snd = (openRisk ps).total
  strategies : (openRisk ps).byStrategy.sum Prod.snd = (openRisk ps).total
  complete : (openRisk ps).complete = true ↔ ∀ p ∈ ps, p.loss?.isSome = true

/-- A report counts what the stops would lose exactly when every stop is on the losing side. -/
theorem trueRisk_iff (ps : List PositionView) : TrueRisk ps ↔ ∀ p ∈ ps, OnLosingSide p := by
  obtain ⟨total, risks, bySymbol, byStrategy, complete⟩ := openRisk_eq ps
  constructor
  · intro report p mem
    exact (risk_eq_loss_iff p).mp (List.map_inj_left.mp (risks.symm.trans report.risks) p mem)
  · intro sides
    have same : ∀ p ∈ ps, p.risk? = p.loss? := fun p mem => (risk_eq_loss_iff p).mpr (sides p mem)
    have under : ∀ key : PositionView → String, ∀ k,
        (Totals.collect (ps.filterMap (·.riskUnder key))).get k 0 =
          ((ps.filter fun p => key p = k).filterMap PositionView.loss?).sum := by
      intro key k
      rw [Totals.get_collect, amount_riskUnder]
      exact congrArg List.sum
        (List.filterMap_congr fun p mem => same p (List.mem_of_mem_filter mem))
    refine ⟨?_, ?_, ?_, ?_, ?_, ?_, ?_⟩
    · rw [risks]
      exact List.map_congr_left same
    · rw [total]
      exact congrArg List.sum (List.filterMap_congr same)
    · rw [bySymbol]
      exact under PositionView.symbol
    · rw [byStrategy]
      exact under strategyKey
    · rw [bySymbol, total, sum_riskUnder]
    · rw [byStrategy, total, sum_riskUnder]
    · rw [complete]
      exact forall₂_congr fun p _ => by rw [isSome_risk?]

def lockedIn : PositionView :=
  { positionId := "p", symbol := "EURUSD", side := "long", quantity := 1
    entryPrice := 11000 / 10000, stopLoss := some (11010 / 10000), tickSize := some (1 / 100000)
    tickValue := some 1 }

/-- Its stop locks in 100, and 100 is counted at risk. -/
theorem not_forall_trueRisk : ¬ ∀ ps, TrueRisk ps := by
  intro report
  have total := (report [lockedIn]).total
  have counted : (openRisk [lockedIn]).total = 100 := by decide +kernel
  have lost : ([lockedIn].filterMap PositionView.loss?).sum = 0 := by decide +kernel
  rw [counted, lost] at total
  exact absurd total (by decide)

end TradeResearch.Portfolio
