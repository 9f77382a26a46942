import TradeResearch.Backtest.Runner

/-!
# What a record says of its money

A record explains its money when its prices give its gross points, these with the charges and the
configured rate of its side its net points, and these with its size and the commission its money.
The recorded exit price is the close of the exit bar, and a short rate of zero is taken for one that
was not given: `accounted_iff` says when a record is explained all the same.
-/

namespace TradeResearch.Backtest

open Marketdata Symbols Tools

def Side.direction : Side → ℚ
  | long => 1
  | short => -1

def CostModel.rate (costs : CostModel) : Side → ℚ
  | .long => costs.swapLongPerNight.getD 0
  | .short => (costs.swapShortPerNight <|> costs.swapLongPerNight).getD 0

structure Explained (costs : CostModel) (t : TradeRecord) : Prop where
  gross : t.grossPoints = t.side.direction * (t.exitPrice - t.entryPrice)
  net : t.netPoints =
    t.grossPoints - costs.spreadPoints - costs.slippagePoints + t.nights * costs.rate t.side
  money : t.netMoney = t.netPoints * t.quantity - costs.commissionPerTrade

def finalBalance (curve : List CurvePoint) : Option ℚ := curve.getLast?.map CurvePoint.balance

def level (terms : Terms) (bars : List Bar) (atr : List (Option ℚ)) (t : RawTrade) : Option ℚ :=
  let levels := bracket terms t.dir (bars.getD t.entryIdx default).open_
    ((atr.getD (t.entryIdx - 1) none).getD 0)
  match t.reason with
  | .sl => some levels.1
  | .tp => some levels.2
  | .timeout => none

def ClosesAtLevel (terms : Terms) (bars : List Bar) (atr : List (Option ℚ)) (t : RawTrade) : Prop :=
  ∀ price, level terms bars atr t = some price → (bars.getD t.exitIdx default).close = price

def Overcharged (costs : CostModel) (t : RawTrade) : Prop :=
  t.dir ≤ 0 ∧ t.nights ≠ 0 ∧ costs.swapShortPerNight = some 0 ∧
    ∃ long, costs.swapLongPerNight = some long ∧ long ≠ 0

section Explained

variable {config : BacktestConfig} {spec : Option ContractSpec} {bars : List Bar} {signals : List ℤ}

theorem level_enter {terms : Terms} {s : ℤ} {a : ℚ} {i : ℕ} {first : Bar} {rest : List Bar}
    (entry : bars.getD i default = first) (ranged : atr.getD (i - 1) none = some a) :
    level terms bars atr (enter terms s a i first rest) =
      match (leave terms s a first rest).reason with
      | .sl => some (bracket terms s first.open_ a).1
      | .tp => some (bracket terms s first.open_ a).2
      | .timeout => none := by
  unfold level
  rw [enter_entryIdx, entry, ranged]
  rfl

theorem figures_of_mem {terms : Terms} {t : RawTrade} (holds : 1 ≤ terms.maxHold)
    (mem : t ∈ simulate terms bars signals atr) :
    ∃ price, t.gross = (if 0 < t.dir then 1 else -1) *
        (price - (bars.getD t.entryIdx default).open_) ∧
      ((bars.getD t.exitIdx default).close = price ↔ ClosesAtLevel terms bars atr t) ∧
      t.net = t.gross - terms.spread + t.financing ∧
      t.financing = t.nights * (if 0 < t.dir then (terms.swap.getD (0, 0)).1
        else (terms.swap.getD (0, 0)).2) ∧
      (terms.swap = none → t.nights = 0) ∧ 1 ≤ t.bars ∧ t.exitIdx < bars.length := by
  obtain ⟨i, -, span, found⟩ := Walk.mem_run.mp mem
  obtain ⟨a, first, rest, ranged, ahead, -, -, rfl, -⟩ := visit_eq_some.mp found
  generalize signals.getD (i - 1) 0 = s
  have entry := getD_first ahead
  have size : bars.length = i + (first :: rest).length := length_of_ahead ahead
  obtain ⟨held, why⟩ := leave_price s a first rest holds
  have within : (leave terms s a first rest).held ≤ (first :: rest).length :=
    leave_held_le.trans (List.length_take_le' _ _)
  have exit : bars.getD (i + ((leave terms s a first rest).held - 1)) default =
      ((first :: rest)[(leave terms s a first rest).held - 1]?).getD first := by
    rw [getD_of_ahead ahead, List.getD_eq_getElem?_getD, List.getElem?_eq_getElem (by omega),
      Option.getD_some, Option.getD_some]
  refine ⟨(leave terms s a first rest).price, ?_, ?_, rfl, rfl, fun off => ?_, held, ?_⟩
  · change (if 0 < s then (leave terms s a first rest).price - first.open_
      else first.open_ - (leave terms s a first rest).price) = (if 0 < s then 1 else -1) * _
    rw [enter_entryIdx, entry]
    split
    · rw [one_mul]
    · rw [neg_one_mul, neg_sub]
  · unfold ClosesAtLevel
    rw [level_enter entry ranged]
    rcases why with ⟨reason, price⟩ | ⟨reason, price⟩ | ⟨reason, price⟩
    · rw [reason, price]
      exact ⟨fun closes level here => closes.trans (Option.some.inj here), fun all => all _ rfl⟩
    · rw [reason, price]
      exact ⟨fun closes level here => closes.trans (Option.some.inj here), fun all => all _ rfl⟩
    · rw [reason, price]
      exact iff_of_true (congrArg Bar.close exit) fun level here => by cases here
  · change (if terms.swap.isSome then _ else 0) = 0
    rw [off]
    rfl
  · change i + ((leave terms s a first rest).held - 1) < bars.length
    omega

theorem charged_iff {t : RawTrade} (financed : config.swap = none → t.nights = 0) :
    (t.nights : ℚ) * (if 0 < t.dir then (config.swap.getD (0, 0)).1
        else (config.swap.getD (0, 0)).2) =
      t.nights * config.costs.rate (if 0 < t.dir then .long else .short) ↔
        ¬ Overcharged config.costs t := by
  unfold Overcharged
  by_cases free : t.nights = 0
  · rw [free]
    simp
  · have pos : (t.nights : ℚ) ≠ 0 := Nat.cast_ne_zero.mpr free
    unfold BacktestConfig.swap at financed ⊢
    cases long : config.costs.swapLongPerNight with
    | none =>
      rw [long] at financed
      exact absurd (financed rfl) free
    | some rate =>
      unfold CostModel.rate
      rw [long]
      by_cases up : 0 < t.dir
      · simp [up]
      · have down : t.dir ≤ 0 := not_lt.mp up
        cases config.costs.swapShortPerNight with
        | none => simp [up]
        | some short =>
          by_cases zero : short = 0
          · simp [up, down, free, zero]
          · simp [up, zero]

theorem explained_record_iff {t : RawTrade} {size : ℚ × Option SizingDetail}
    (holds : 1 ≤ config.maxHoldBars)
    (mem : t ∈ simulate config.terms bars signals atr) :
    Explained config.costs (record unrounded config bars t size) ↔
      ClosesAtLevel config.terms bars atr t ∧ ¬ Overcharged config.costs t := by
  obtain ⟨price, gross, closes, net, financing, financed, held, inside⟩ :=
    figures_of_mem holds mem
  have exit : min (t.entryIdx + t.bars - 1) (bars.length - 1) = t.exitIdx := by
    unfold RawTrade.exitIdx at inside ⊢
    omega
  have direction : Side.direction (if 0 < t.dir then .long else .short) =
      if 0 < t.dir then 1 else -1 := by
    split <;> rfl
  have nonzero : (if 0 < t.dir then 1 else -1 : ℚ) ≠ 0 := by
    split
    · exact one_ne_zero
    · exact neg_ne_zero.mpr one_ne_zero
  have grossly : t.gross = Side.direction (if 0 < t.dir then .long else .short) *
        ((bars.getD (min (t.entryIdx + t.bars - 1) (bars.length - 1)) default).close -
          (bars.getD t.entryIdx default).open_) ↔
      (bars.getD t.exitIdx default).close = price := by
    rw [exit, direction, gross, mul_right_inj' nonzero, sub_left_inj, eq_comm]
  have netly : t.net - config.costs.slippagePoints =
        t.gross - config.costs.spreadPoints - config.costs.slippagePoints +
          t.nights * config.costs.rate (if 0 < t.dir then .long else .short) ↔
      (t.nights : ℚ) * (if 0 < t.dir then (config.swap.getD (0, 0)).1
        else (config.swap.getD (0, 0)).2) =
      t.nights * config.costs.rate (if 0 < t.dir then .long else .short) := by
    have same : t.financing = (t.nights : ℚ) * (if 0 < t.dir then (config.swap.getD (0, 0)).1
        else (config.swap.getD (0, 0)).2) := financing
    have spread : config.terms.spread = config.costs.spreadPoints := rfl
    constructor <;> intro equal <;> linarith
  rw [← closes, ← charged_iff financed, ← grossly, ← netly]
  exact ⟨fun explained => ⟨explained.gross, explained.net⟩,
    fun both => ⟨both.1, both.2, rfl⟩⟩

theorem finalBalance_curveFrom (balance peak : ℚ) (trades : List TradeRecord) (first : CurvePoint)
    (from_ : first.balance = balance) :
    finalBalance (first :: curveFrom unrounded balance peak trades) =
      some (balance + (trades.map fun t => t.netMoney).sum) := by
  induction trades generalizing balance peak first with
  | nil => simp [finalBalance, curveFrom, from_]
  | cons trade trades ih =>
    unfold finalBalance curveFrom
    rw [List.getLast?_cons_cons, List.map_cons, List.sum_cons, ← add_assoc]
    exact ih (balance + trade.netMoney) (max peak (balance + trade.netMoney)) _ rfl

def EachSized (config : BacktestConfig) (spec : Option ContractSpec) (bars : List Bar)
    (signals : List ℤ) (P : RawTrade → Prop) : Prop :=
  Walk.EachSettled (settle unrounded config spec bars (atrSeries bars 14)) (fun _ t => P t)
    config.initialCapital (simulate config.terms bars signals (atrSeries bars 14))

/-- Every record of a run explains its money, and the curve ends on the capital and what the records
sum to, exactly when each trade that was sized closed at its level and was charged its own rate. -/
theorem accounted_iff {result : BacktestResult} (valid : config.validate = .ok ())
    (ran : runOn unrounded config spec bars signals = .ok result) :
    ((∀ t ∈ result.trades, Explained config.costs t) ∧
        finalBalance result.equityCurve =
          some (config.initialCapital + (result.trades.map fun t => t.netMoney).sum)) ↔
      EachSized config spec bars signals fun t =>
        ClosesAtLevel config.terms bars (atrSeries bars 14) t ∧ ¬ Overcharged config.costs t := by
  obtain ⟨trades, curve⟩ := of_runOn ran
  have balance : finalBalance result.equityCurve =
      some (config.initialCapital + (result.trades.map fun t => t.netMoney).sum) := by
    rw [curve]
    exact finalBalance_curveFrom config.initialCapital config.initialCapital result.trades _ rfl
  rw [and_iff_left balance, trades, enrichFrom_fst]
  unfold EachSized
  rw [← Walk.forall_mem_settleAll_iff (Q := fun b : RawTrade × TradeRecord =>
    Explained config.costs b.2)]
  · exact List.forall_mem_map
  · intro balance t mem b after settled
    unfold settle at settled
    cases size : sizeOf config spec bars (atrSeries bars 14) balance t with
    | error refusal =>
      rw [size] at settled
      cases settled
    | ok size' =>
      rw [size] at settled
      cases settled
      exact explained_record_iff (BacktestConfig.of_validate valid).2 mem

def reached : List Bar :=
  calmUpTo [{ calm 60 with high := 103, close := 103 }, { calm 61 with open_ := 103, high := 104 }]

theorem accounted_iff_reached :
    ∃ result, runOn unrounded plain none reached (buyThere [0, 0]) = .ok result ∧
      (((∀ t ∈ result.trades, Explained plain.costs t) ∧
          finalBalance result.equityCurve =
            some (plain.initialCapital + (result.trades.map fun t => t.netMoney).sum)) ↔
        EachSized plain none reached (buyThere [0, 0]) fun t =>
          ClosesAtLevel plain.terms reached (atrSeries reached 14) t ∧
            ¬ Overcharged plain.costs t) :=
  ⟨_, rfl, accounted_iff validate_plain rfl⟩

def passed : List Bar :=
  calmUpTo [{ calm 60 with high := 104, close := 101 }, { calm 61 with open_ := 101 }]

/-- The record of the trade says 3 points, and prices that are 1 apart. -/
theorem not_forall_accounted :
    ¬ ∀ config spec bars signals result, BacktestConfig.validate config = .ok () →
      runOn unrounded config spec bars signals = .ok result →
        (∀ t ∈ result.trades, Explained config.costs t) ∧
          finalBalance result.equityCurve =
            some (config.initialCapital + (result.trades.map fun t => t.netMoney).sum) := by
  intro all
  obtain ⟨result, ran, told⟩ : ∃ result,
      runOn unrounded plain none passed (buyThere [0, 0]) = .ok result ∧
        (result.trades.head?.map fun t =>
          (t.grossPoints, t.side.direction * (t.exitPrice - t.entryPrice))) = some (3, 1) :=
    ⟨_, rfl, by decide +kernel⟩
  obtain ⟨t, first, figures⟩ := Option.map_eq_some_iff.mp told
  have explained := (all plain none passed (buyThere [0, 0]) result validate_plain ran).1 t
    (List.mem_of_head? first)
  have apart := explained.gross
  rw [(Prod.mk.inj figures).1, (Prod.mk.inj figures).2] at apart
  exact absurd apart (by decide +kernel)

end Explained

end TradeResearch.Backtest
