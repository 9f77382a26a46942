import Mathlib.Tactic.LinearCombination
import TradeResearch.Portfolio.Exposure

/-!
# What a report leaves out

When a report of exposure is not a partial figure in the place of a whole one.

* `gross_total`, `grosses_under`: the total and every grouping have one gross.
* `same_of_perm`: the order of the positions does not matter.
* `sum_byCurrency`: a breakdown by currency sums to zero, whatever it leaves out.
* `movesAsMarked_iff`: a notional is in the currency a position is marked in exactly when its
  contract size is what a price unit is worth.
* `wholeReport_iff` puts these together.
-/

namespace TradeResearch.Portfolio

def grosses (t : Totals String Bucket) : ℚ := t.sum fun r => r.2.gross

theorem grosses_collect (xs : List (String × Bucket)) :
    grosses (Totals.collect xs) = (xs.map fun x => x.2.gross).sum :=
  Totals.sum_collect Bucket.grossHom xs

theorem gross_inSymbol (p : PositionView) : p.inSymbol.2.gross = p.value?.getD 0 := by
  unfold PositionView.inSymbol
  cases p.value? with
  | none => exact Bucket.gross_missed
  | some value => exact Bucket.gross_of p value

theorem gross_total (ps : List PositionView) :
    (compute ps).total.gross = (ps.filterMap PositionView.value?).sum := by
  obtain ⟨total, -⟩ := compute_eq ps
  rw [total, ← sum_map_getD]
  change Bucket.grossHom _ = _
  rw [map_list_sum, List.map_map]
  exact congrArg List.sum (List.map_congr_left fun p _ => gross_inSymbol p)

theorem grosses_bySymbol (ps : List PositionView) :
    grosses (Totals.collect (ps.map PositionView.inSymbol)) =
      (ps.filterMap PositionView.value?).sum := by
  rw [grosses_collect, List.map_map, ← sum_map_getD]
  exact congrArg List.sum (List.map_congr_left fun p _ => gross_inSymbol p)

theorem grosses_under (ps : List PositionView) (key : PositionView → String) :
    grosses (Totals.collect (ps.filterMap (·.under key))) =
      (ps.filterMap PositionView.value?).sum := by
  rw [grosses_collect, List.map_filterMap]
  refine congrArg List.sum (List.filterMap_congr fun p _ => ?_)
  unfold PositionView.under
  cases p.value? with
  | none => rfl
  | some value => exact congrArg some (Bucket.gross_of p value)

structure ExposureReport.Same (r r' : ExposureReport) : Prop where
  total : r.total = r'.total
  bySymbol : ∀ k, r.bySymbol.find? k = r'.bySymbol.find? k
  byStrategy : ∀ k, r.byStrategy.find? k = r'.byStrategy.find? k
  byBot : ∀ k, r.byBot.find? k = r'.byBot.find? k
  byAssetClass : ∀ k, r.byAssetClass.find? k = r'.byAssetClass.find? k
  byCurrency : ∀ k, r.byCurrency.find? k = r'.byCurrency.find? k
  currencyAvailable : r.currencyAvailable = r'.currencyAvailable
  uncomputable : r.uncomputable.Perm r'.uncomputable

theorem same_of_perm {ps ps' : List PositionView} (perm : ps.Perm ps') :
    (compute ps).Same (compute ps') := by
  obtain ⟨total, symbol, strategy, bot, asset, available, missing, currency⟩ := compute_eq ps
  obtain ⟨total', symbol', strategy', bot', asset', available', missing', currency'⟩ :=
    compute_eq ps'
  have withheld : ps.any PositionView.withholds = ps'.any PositionView.withholds := by
    rw [Bool.eq_iff_iff, List.any_eq_true, List.any_eq_true]
    simp only [perm.mem_iff]
  refine ⟨?_, fun k => ?_, fun k => ?_, fun k => ?_, fun k => ?_, fun k => ?_, ?_, ?_⟩
  · rw [total, total']
    exact (perm.map _).sum_eq
  · rw [symbol, symbol']
    exact Totals.find?_collect_of_perm (perm.map _) k
  · rw [strategy, strategy']
    exact Totals.find?_collect_of_perm (perm.filterMap _) k
  · rw [bot, bot']
    exact Totals.find?_collect_of_perm (perm.filterMap _) k
  · rw [asset, asset']
    exact Totals.find?_collect_of_perm (perm.filterMap _) k
  · rw [currency, currency', withheld]
    cases ps'.any PositionView.withholds with
    | true => rfl
    | false => exact Totals.find?_collect_of_perm (perm.flatMap_right _) k
  · rw [available, available', withheld]
  · rw [missing, missing']
    exact perm.filterMap _

def PositionView.inCurrency (p : PositionView) (currency : String) : ℚ :=
  match p.value?, currencies p with
  | some value, some (base, quote) =>
    (if base = currency then value * p.direction else 0) -
      if quote = currency then value * p.direction else 0
  | _, _ => 0

theorem amount_inCurrencies (p : PositionView) (currency : String) :
    Totals.amount p.inCurrencies currency = p.inCurrency currency := by
  unfold PositionView.inCurrencies PositionView.inCurrency
  cases p.value? with
  | none => rfl
  | some value =>
    cases currencies p with
    | none => rfl
    | some pair =>
      obtain ⟨base, quote⟩ := pair
      change Totals.amount ([(base, value * p.direction)] ++ [(quote, -(value * p.direction))]) _ =
        (if base = currency then _ else 0) - if quote = currency then _ else 0
      rw [Totals.amount_append, Totals.amount_singleton, Totals.amount_singleton, sub_eq_add_neg]
      have signed : (if quote = currency then -(value * p.direction) else 0) =
          -(if quote = currency then value * p.direction else 0) := by
        by_cases here : quote = currency
        · rw [if_pos here, if_pos here]
        · rw [if_neg here, if_neg here, neg_zero]
      exact congrArg (fun x : ℚ => (if base = currency then value * p.direction else 0) + x) signed

theorem get_byCurrency {ps : List PositionView} (given : (compute ps).currencyAvailable = true)
    (currency : String) :
    (compute ps).byCurrency.get currency 0 = (ps.map (·.inCurrency currency)).sum := by
  obtain ⟨-, -, -, -, -, available, -, is⟩ := compute_eq ps
  rw [available, Bool.not_eq_true'] at given
  rw [is, given, if_neg Bool.false_ne_true, Totals.get_collect]
  clear is available given
  induction ps with
  | nil => rfl
  | cons p ps ih =>
    rw [List.flatMap_cons, Totals.amount_append, ih, amount_inCurrencies, List.map_cons,
      List.sum_cons]

theorem sum_byCurrency (ps : List PositionView) :
    (compute ps).byCurrency.sum (fun r => r.2) = 0 := by
  obtain ⟨-, -, -, -, -, -, -, is⟩ := compute_eq ps
  rw [is]
  cases ps.any PositionView.withholds with
  | true => rfl
  | false =>
    refine (Totals.sum_collect (AddMonoidHom.id ℚ) _).trans ?_
    clear is
    induction ps with
    | nil => rfl
    | cons p ps ih =>
      rw [List.flatMap_cons, List.map_append, List.sum_append, ih, add_zero]
      unfold PositionView.inCurrencies
      cases p.value? with
      | none => rfl
      | some value =>
        cases currencies p with
        | none => rfl
        | some pair => simp

def PositionView.at_ (p : PositionView) (price : ℚ) : PositionView :=
  { p with currentPrice := some price }

def MovesAsMarked (p : PositionView) : Prop :=
  ∀ price price' n n' m m', (notionalOf (p.at_ price)).value = some n →
    (notionalOf (p.at_ price')).value = some n' → markToMarket (p.at_ price) = some m →
      markToMarket (p.at_ price') = some m' → p.direction * (n' - n) = m' - m

def Agreeing (p : PositionView) : Prop :=
  ∀ size unit, p.contractSize = some size → perUnit p = some unit → p.quantity = 0 ∨ size = unit

theorem notionalOf_at {p : PositionView} {size : ℚ} (known : p.contractSize = some size)
    (price : ℚ) : (notionalOf (p.at_ price)).value = some (|p.quantity| * size * price) := by
  unfold notionalOf PositionView.at_
  rw [known]
  rfl

theorem markToMarket_at {p : PositionView} {unit : ℚ} (worth : perUnit p = some unit)
    (price : ℚ) : markToMarket (p.at_ price) =
      some ((price - p.entryPrice) * p.direction * |p.quantity| * unit) := by
  change (perUnit p).map _ = _
  rw [worth]
  rfl

theorem movesAsMarked_iff (p : PositionView) : MovesAsMarked p ↔ Agreeing p := by
  constructor
  · intro moves size unit known worth
    have one := moves 0 1 _ _ _ _ (notionalOf_at known 0) (notionalOf_at known 1)
      (markToMarket_at worth 0) (markToMarket_at worth 1)
    have direction : (p.direction : ℚ) ≠ 0 := by
      unfold PositionView.direction
      split <;> norm_num
    have product : (p.direction : ℚ) * (|p.quantity| * (size - unit)) = 0 := by
      linear_combination one
    rcases mul_eq_zero.mp ((mul_eq_zero.mp product).resolve_left direction) with none_ | same
    · exact Or.inl (abs_eq_zero.mp none_)
    · exact Or.inr (sub_eq_zero.mp same)
  · intro agree price price' n n' m m' is is' marked marked'
    cases known : p.contractSize with
    | none =>
      unfold notionalOf PositionView.at_ at is
      rw [known] at is
      cases is
    | some size =>
      cases worth : perUnit p with
      | none =>
        change (perUnit p).map _ = _ at marked
        rw [worth] at marked
        cases marked
      | some unit =>
        cases (notionalOf_at known price).symm.trans is
        cases (notionalOf_at known price').symm.trans is'
        cases (markToMarket_at worth price).symm.trans marked
        cases (markToMarket_at worth price').symm.trans marked'
        rcases agree size unit known worth with none_ | rfl
        · rw [none_, abs_zero]
          ring
        · ring

def OneCurrency (ps : List PositionView) : Prop :=
  ∀ p ∈ ps, ∀ p' ∈ ps, (notionalOf p).computable = true → (notionalOf p').computable = true →
    ∀ currency currency', p.quoteCurrency = some currency → p'.quoteCurrency = some currency' →
      currency ≠ "" → currency' ≠ "" → currency = currency'

structure WholeReport (ps : List PositionView) : Prop where
  bySymbol : grosses (compute ps).bySymbol = (compute ps).total.gross
  byStrategy : grosses (compute ps).byStrategy = (compute ps).total.gross
  byBot : grosses (compute ps).byBot = (compute ps).total.gross
  byAssetClass : grosses (compute ps).byAssetClass = (compute ps).total.gross
  unordered : ∀ ps', ps'.Perm ps → (compute ps').Same (compute ps)
  balanced : (compute ps).currencyAvailable = true → (compute ps).byCurrency.sum (fun r => r.2) = 0
  figures : (compute ps).currencyAvailable = true → ∀ currency,
    (compute ps).byCurrency.get currency 0 = (ps.map (·.inCurrency currency)).sum
  included : (compute ps).currencyAvailable = true →
    ∀ p ∈ ps, (notionalOf p).computable = true ∧ (currencies p).isSome = true
  oneCurrency : OneCurrency ps
  asMarked : ∀ p ∈ ps, MovesAsMarked p

def Withheld (ps : List PositionView) : Prop :=
  (∀ p ∈ ps, (notionalOf p).computable = true) ∨
    ∃ p ∈ ps, (notionalOf p).computable = true ∧ currencies p = none

theorem computable_eq (p : PositionView) : (notionalOf p).computable = p.value?.isSome := by
  unfold notionalOf PositionView.value?
  cases p.contractSize <;> rfl

theorem currencyAvailable_iff (ps : List PositionView) :
    (compute ps).currencyAvailable = true ↔
      ∀ p ∈ ps, (notionalOf p).computable = true → (currencies p).isSome = true := by
  obtain ⟨-, -, -, -, -, available, -⟩ := compute_eq ps
  rw [available, Bool.not_eq_true', List.any_eq_false]
  refine forall₂_congr fun p _ => ?_
  unfold PositionView.withholds
  rw [computable_eq]
  cases p.value? <;> cases currencies p <;> simp

theorem included_iff (ps : List PositionView) :
    ((compute ps).currencyAvailable = true →
      ∀ p ∈ ps, (notionalOf p).computable = true ∧ (currencies p).isSome = true) ↔
        Withheld ps := by
  rw [currencyAvailable_iff]
  constructor
  · intro included
    by_cases lacking : ∃ p ∈ ps, (notionalOf p).computable = true ∧ currencies p = none
    · exact Or.inr lacking
    · refine Or.inl fun p mem => (included (fun p mem known => ?_) p mem).1
      rw [Option.isSome_iff_ne_none]
      exact fun none_ => lacking ⟨p, mem, known, none_⟩
  · rintro (all | ⟨p, mem, known, none_⟩) given
    · exact fun p mem => ⟨all p mem, given p mem (all p mem)⟩
    · have here := given p mem known
      rw [none_] at here
      cases here

/-- A report is whole exactly when the breakdown by currency is withheld where a position has no
notional, the notionals are in one currency, and contract sizes are what price units are worth. -/
theorem wholeReport_iff (ps : List PositionView) :
    WholeReport ps ↔ Withheld ps ∧ OneCurrency ps ∧ ∀ p ∈ ps, Agreeing p := by
  constructor
  · intro whole
    exact ⟨(included_iff ps).mp whole.included, whole.oneCurrency,
      fun p mem => (movesAsMarked_iff p).mp (whole.asMarked p mem)⟩
  · rintro ⟨withheld, one, agree⟩
    obtain ⟨-, symbol, strategy, bot, asset, -⟩ := compute_eq ps
    have gross := gross_total ps
    exact
      { bySymbol := by rw [symbol, gross, grosses_bySymbol]
        byStrategy := by rw [strategy, gross, grosses_under]
        byBot := by rw [bot, gross, grosses_under]
        byAssetClass := by rw [asset, gross, grosses_under]
        unordered := fun ps' perm => same_of_perm perm
        balanced := fun _ => sum_byCurrency ps
        figures := get_byCurrency
        included := (included_iff ps).mpr withheld
        oneCurrency := one
        asMarked := fun p mem => (movesAsMarked_iff p).mpr (agree p mem) }

def tenthOf (symbol base quote : String) (price : ℚ) (size tick value : Option ℚ) : PositionView :=
  { positionId := symbol, symbol, side := "long", quantity := 1 / 10, entryPrice := price
    currentPrice := some price, baseCurrency := some base, quoteCurrency := some quote
    contractSize := size, tickSize := tick, tickValue := value }

def euros : PositionView :=
  tenthOf "EURUSD" "EUR" "USD" (108 / 100) (some 100000) (some (1 / 100000)) (some 1)

def yen : PositionView :=
  tenthOf "USDJPY" "USD" "JPY" 150 (some 100000) (some (1 / 1000)) (some (2 / 3))

def gold : PositionView := tenthOf "XAUUSD" "XAU" "USD" 2400 none none none

/-- A breakdown leaves a position out, and yen are summed with dollars. -/
theorem not_forall_wholeReport :
    ((compute [euros, gold]).currencyAvailable = true ∧ ¬ WholeReport [euros, gold]) ∧
      ((compute [euros, yen]).total.gross = 10800 + 1500000 ∧ ¬ WholeReport [euros, yen]) ∧
        ¬ WholeReport [yen] := by
  have available : (compute [euros, gold]).currencyAvailable = true := by decide +kernel
  have moves : ¬ MovesAsMarked yen := by
    intro moves
    rcases (movesAsMarked_iff yen).mp moves 100000 (2000 / 3) rfl (by decide +kernel) with h | h
    · exact absurd h (by decide +kernel)
    · exact absurd h (by decide +kernel)
  refine ⟨⟨available, fun whole => ?_⟩, ⟨by decide +kernel, fun whole => ?_⟩, fun whole => ?_⟩
  · have counted := (whole.included available gold (by simp)).1
    cases counted
  · have same := whole.oneCurrency euros (by simp) yen (by simp) rfl rfl "USD" "JPY" rfl rfl
      (by decide) (by decide)
    exact absurd same (by decide)
  · exact moves (whole.asMarked yen (by simp))

end TradeResearch.Portfolio
