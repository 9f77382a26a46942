import Mathlib.Algebra.BigOperators.Group.List.Basic
import Mathlib.Algebra.Order.BigOperators.Group.List
import Mathlib.Algebra.Order.Field.Rat
import Mathlib.Tactic.Linarith
import TradeResearch.Oms.State

/-!
# Fill accounting

`backend/app/oms/fills.py`. Decimals are exact rationals; `Figure` is a decimal as it arrives from
outside, which may also be a NaN or an infinity. A `FillRecord` carries the positivity its
constructor checks, and a `FillBook` that it was never overfilled, so neither can be built wrong.
-/

namespace TradeResearch.Oms

inductive Figure where
  | finite (q : ℚ)
  | notFinite
  deriving DecidableEq

namespace Figure

def positive? : Figure → Option ℚ
  | finite q => if 0 < q then some q else none
  | notFinite => none

def text : Figure → Text
  | finite q => Text.num q
  | notFinite => Text.lit "NaN"

theorem positive?_eq_some {f : Figure} {q : ℚ} : f.positive? = some q ↔ f = .finite q ∧ 0 < q := by
  cases f with
  | notFinite => simp [positive?]
  | finite r =>
    unfold positive?
    by_cases positive : 0 < r
    · simp only [if_pos positive, Option.some.injEq, finite.injEq]
      exact ⟨fun same => ⟨same, same ▸ positive⟩, fun same => same.1⟩
    · simp only [if_neg positive, reduceCtorEq, finite.injEq, false_iff, not_and]
      rintro rfl
      exact positive

end Figure

structure FillRecord where
  quantity : ℚ
  price : ℚ
  time : Time
  fillSource : String
  brokerDealId : Option String
  commission : ℚ
  swap : ℚ
  slippagePoints : Option ℚ
  realizedPnl : Option ℚ
  quantity_pos : 0 < quantity
  price_pos : 0 < price

structure FillReport where
  quantity : Figure
  price : Figure
  time : Time
  fillSource : String
  brokerDealId : Option String
  commission : ℚ
  swap : ℚ
  slippagePoints : Option ℚ
  realizedPnl : Option ℚ

namespace FillReport

def make (r : FillReport) : Except Exn FillRecord :=
  match quantity : r.quantity.positive? with
  | none => .error (.fillError
      (Text.lit "a fill quantity must be positive and finite, not " ++ r.quantity.text))
  | some q =>
    match price : r.price.positive? with
    | none => .error (.fillError
        (Text.lit "a fill price must be positive and finite, not " ++ r.price.text))
    | some p => .ok
        { quantity := q
          price := p
          time := r.time
          fillSource := r.fillSource
          brokerDealId := r.brokerDealId
          commission := r.commission
          swap := r.swap
          slippagePoints := r.slippagePoints
          realizedPnl := r.realizedPnl
          quantity_pos := (Figure.positive?_eq_some.mp quantity).2
          price_pos := (Figure.positive?_eq_some.mp price).2 }

def Valid (r : FillReport) : Prop := (r.quantity.positive?).isSome ∧ (r.price.positive?).isSome

instance (r : FillReport) : Decidable r.Valid := inferInstanceAs (Decidable (_ ∧ _))

theorem make_cases (r : FillReport) :
    (r.Valid ∧ ∃ f, r.make = .ok f ∧ r.quantity = .finite f.quantity ∧
      r.price = .finite f.price ∧ f.brokerDealId = r.brokerDealId) ∨
    (¬ r.Valid ∧ ∃ reason, r.make = .error (.fillError reason)) := by
  unfold make
  split
  · next absent =>
    refine Or.inr ⟨fun valid => ?_, _, rfl⟩
    rw [Valid, absent] at valid
    exact absurd valid.1 (by simp)
  · next q quantity =>
    split
    · next absent =>
      refine Or.inr ⟨fun valid => ?_, _, rfl⟩
      rw [Valid, absent] at valid
      exact absurd valid.2 (by simp)
    · next p price =>
      refine Or.inl ⟨⟨by simp [quantity], by simp [price]⟩, _, rfl, ?_, ?_, rfl⟩
      · exact (Figure.positive?_eq_some.mp quantity).1
      · exact (Figure.positive?_eq_some.mp price).1

theorem valid_of_make {r : FillReport} {f : FillRecord} (made : r.make = .ok f) : r.Valid := by
  rcases r.make_cases with ⟨valid, _⟩ | ⟨_, _, raised⟩
  · exact valid
  · rw [raised] at made
    exact absurd made (by simp)

theorem make_of_valid {r : FillReport} (valid : r.Valid) : ∃ f, r.make = .ok f := by
  rcases r.make_cases with ⟨_, f, made, _⟩ | ⟨refused, _⟩
  · exact ⟨f, made⟩
  · exact absurd valid refused

theorem make_eq {r : FillReport} {f : FillRecord} (made : r.make = .ok f) :
    r.quantity = .finite f.quantity ∧ r.price = .finite f.price ∧
      f.brokerDealId = r.brokerDealId := by
  rcases r.make_cases with ⟨_, g, made', quantity, price, deal⟩ | ⟨_, _, raised⟩
  · rw [made] at made'
    cases made'
    exact ⟨quantity, price, deal⟩
  · rw [raised] at made
    exact absurd made (by simp)

end FillReport

structure FillBook where
  requested : ℚ
  fills : List FillRecord
  requested_pos : 0 < requested
  within : (fills.map FillRecord.quantity).sum ≤ requested

namespace FillBook

def filledQuantity (b : FillBook) : ℚ := (b.fills.map FillRecord.quantity).sum

def remainingQuantity (b : FillBook) : ℚ := b.requested - b.filledQuantity

def complete (b : FillBook) : Bool := decide (b.remainingQuantity ≤ 0)

def averagePrice (b : FillBook) : Option ℚ :=
  if b.filledQuantity ≤ 0 then none
  else some ((b.fills.map fun f => f.quantity * f.price).sum / b.filledQuantity)

def empty (requested : ℚ) (requested_pos : 0 < requested) : FillBook :=
  { requested, fills := [], requested_pos, within := requested_pos.le }

theorem within_append {b : FillBook} {f : FillRecord}
    (fits : f.quantity ≤ b.remainingQuantity) :
    ((b.fills ++ [f]).map FillRecord.quantity).sum ≤ b.requested := by
  simp only [List.map_append, List.map_cons, List.map_nil, List.sum_append, List.sum_cons,
    List.sum_nil, add_zero]
  unfold remainingQuantity filledQuantity at fits
  linarith

def append (b : FillBook) (f : FillRecord) (fits : f.quantity ≤ b.remainingQuantity) : FillBook :=
  { b with fills := b.fills ++ [f], within := within_append fits }

def overfill (b : FillBook) (f : FillRecord) : Exn :=
  .fillError
    (Text.lit "a fill of " ++ Text.num f.quantity ++ Text.lit " exceeds the " ++
      Text.num b.remainingQuantity ++ Text.lit " remaining on an order for " ++
      Text.num b.requested ++ Text.lit " (" ++ Text.num b.filledQuantity ++
      Text.lit (" already filled). Refusing rather than truncating: the venue and this " ++
        "record disagree, and that has to be reconciled, not rounded away"))

def add (b : FillBook) (f : FillRecord) : Except Exn FillBook :=
  if fits : f.quantity ≤ b.remainingQuantity then .ok (b.append f fits)
  else .error (b.overfill f)

def alreadyRecorded (b : FillBook) : Option String → Bool
  | none => false
  | some deal => b.fills.any fun f => f.brokerDealId == some deal

@[simp] theorem append_requested (b : FillBook) (f : FillRecord)
    (fits : f.quantity ≤ b.remainingQuantity) : (b.append f fits).requested = b.requested := rfl

@[simp] theorem append_fills (b : FillBook) (f : FillRecord)
    (fits : f.quantity ≤ b.remainingQuantity) : (b.append f fits).fills = b.fills ++ [f] := rfl

theorem append_congr {b c : FillBook} (same : b = c) {f : FillRecord}
    (fits : f.quantity ≤ b.remainingQuantity) : ∃ fits', b.append f fits = c.append f fits' := by
  subst same
  exact ⟨fits, rfl⟩

@[simp] theorem append_filledQuantity (b : FillBook) (f : FillRecord)
    (fits : f.quantity ≤ b.remainingQuantity) :
    (b.append f fits).filledQuantity = b.filledQuantity + f.quantity := by
  simp [filledQuantity]

@[simp] theorem empty_requested (q : ℚ) (positive : 0 < q) :
    (empty q positive).requested = q := rfl

theorem sum_quantity_pos : ∀ {fills : List FillRecord}, fills ≠ [] →
    0 < (fills.map FillRecord.quantity).sum
  | [], nonempty => absurd rfl nonempty
  | [f], _ => by simpa using f.quantity_pos
  | f :: g :: rest, _ => by
    have later := sum_quantity_pos (List.cons_ne_nil g rest)
    exact add_pos f.quantity_pos later

theorem filledQuantity_pos_iff (b : FillBook) : 0 < b.filledQuantity ↔ b.fills ≠ [] := by
  constructor
  · rintro positive empty
    rw [filledQuantity, empty] at positive
    exact lt_irrefl _ positive
  · exact sum_quantity_pos

theorem filledQuantity_nonneg (b : FillBook) : 0 ≤ b.filledQuantity := by
  by_cases nonempty : b.fills = []
  · rw [filledQuantity, nonempty]
    exact le_refl _
  · exact (b.filledQuantity_pos_iff.mpr nonempty).le

theorem filledQuantity_eq_zero_iff (b : FillBook) : b.filledQuantity = 0 ↔ b.fills = [] := by
  constructor
  · intro zero
    by_contra nonempty
    exact (b.filledQuantity_pos_iff.mpr nonempty).ne' zero
  · intro empty
    rw [filledQuantity, empty]
    rfl

theorem filledQuantity_le_requested (b : FillBook) : b.filledQuantity ≤ b.requested := b.within

theorem complete_iff (b : FillBook) : b.complete = true ↔ b.filledQuantity = b.requested := by
  have within := b.filledQuantity_le_requested
  simp only [complete, remainingQuantity, decide_eq_true_eq, sub_nonpos]
  exact ⟨fun full => le_antisymm within full, fun same => same.ge⟩

theorem fills_ne_nil_of_complete {b : FillBook} (complete : b.complete = true) : b.fills ≠ [] := by
  have full := b.complete_iff.mp complete
  rw [← b.filledQuantity_pos_iff, full]
  exact b.requested_pos

theorem not_fits_of_complete {b : FillBook} (complete : b.complete = true) (f : FillRecord) :
    b.remainingQuantity < f.quantity := by
  have none : b.remainingQuantity ≤ 0 := by simpa [FillBook.complete] using complete
  exact lt_of_le_of_lt none f.quantity_pos

theorem alreadyRecorded_iff {b : FillBook} {deal : Option String} :
    b.alreadyRecorded deal = true ↔
      ∃ id, deal = some id ∧ ∃ f ∈ b.fills, f.brokerDealId = some id := by
  cases deal with
  | none | some id => simp [alreadyRecorded]

theorem not_alreadyRecorded_of_fills_nil {b : FillBook} (empty : b.fills = [])
    (deal : Option String) : b.alreadyRecorded deal = false := by
  cases deal <;> simp [alreadyRecorded, empty]

def make : Figure → Except Exn FillBook
  | .finite q =>
    if positive : 0 < q then .ok (empty q positive)
    else .error (.fillError (Text.lit "a requested quantity must be positive, not " ++ Text.num q))
  | .notFinite =>
    .error (.fillError
      (Text.lit "a requested quantity must be positive, not " ++ Figure.notFinite.text))

structure Attempt where
  report : FillReport
  filtered : Bool

def attempt (b : FillBook) (a : Attempt) : FillBook :=
  if a.filtered && b.alreadyRecorded a.report.brokerDealId then b
  else
    match a.report.make with
    | .error _ => b
    | .ok fill =>
      match b.add fill with
      | .error _ => b
      | .ok next => next

def attempts (b : FillBook) (as : List Attempt) : FillBook := as.foldl attempt b

def notional (fills : List FillRecord) : ℚ := (fills.map fun f => f.quantity * f.price).sum

theorem add_eq_ok {b c : FillBook} {f : FillRecord} (added : b.add f = .ok c) :
    c.requested = b.requested ∧ c.fills = b.fills ++ [f] := by
  unfold add at added
  split at added
  · cases added
    exact ⟨rfl, rfl⟩
  · cases added

theorem attempt_requested (b : FillBook) (a : Attempt) :
    (b.attempt a).requested = b.requested := by
  unfold attempt
  split
  · rfl
  · split
    · rfl
    · split
      · rfl
      · next added => exact (add_eq_ok added).1

theorem attempts_requested (b : FillBook) (as : List Attempt) :
    (b.attempts as).requested = b.requested := by
  induction as generalizing b with
  | nil => rfl
  | cons a rest ih => exact (ih (b.attempt a)).trans (b.attempt_requested a)

/-- The attempt changes nothing any more: its deal is recorded, or its fill is more than remains. -/
def Done (b : FillBook) (a : Attempt) : Prop :=
  a.filtered = true ∧ (b.alreadyRecorded a.report.brokerDealId = true ∨
    ∀ f, a.report.make = .ok f → b.remainingQuantity < f.quantity)

theorem Done.attempt_eq {b : FillBook} {a : Attempt} (done : b.Done a) : b.attempt a = b := by
  obtain ⟨filtered, known | over_⟩ := done
  · exact if_pos (by rw [filtered, known]; rfl)
  · unfold attempt
    split
    · rfl
    · split
      · rfl
      · next fill made =>
        unfold add
        rw [dif_neg (not_le.mpr (over_ fill made))]

theorem attempt_cases (b : FillBook) (a : Attempt) : b.attempt a = b ∨
    ∃ f, a.report.make = .ok f ∧ (b.attempt a).fills = b.fills ++ [f] := by
  unfold attempt
  split
  · exact .inl rfl
  · split
    · exact .inl rfl
    · next fill made =>
      split
      · exact .inl rfl
      · next added => exact .inr ⟨fill, made, (add_eq_ok added).2⟩

theorem Done.later {b : FillBook} {a : Attempt} (done : b.Done a) (next : Attempt) :
    (b.attempt next).Done a := by
  rcases b.attempt_cases next with same | ⟨f, -, fills⟩
  · rw [same]
    exact done
  · refine ⟨done.1, done.2.imp (fun known => ?_) fun over_ g made => ?_⟩
    · obtain ⟨id, is, g, mem, deal⟩ := alreadyRecorded_iff.mp known
      refine alreadyRecorded_iff.mpr ⟨id, is, g, ?_, deal⟩
      rw [fills]
      exact List.mem_append_left _ mem
    · refine lt_of_le_of_lt ?_ (over_ g made)
      have positive := f.quantity_pos
      unfold remainingQuantity filledQuantity
      rw [attempt_requested, fills]
      simp only [List.map_append, List.map_singleton, List.sum_append, List.sum_singleton]
      linarith

theorem done_attempt (b : FillBook) {a : Attempt} (filtered : a.filtered = true)
    (dealt : a.report.brokerDealId ≠ none) : (b.attempt a).Done a := by
  rcases b.attempt_cases a with same | ⟨f, made, fills⟩
  · refine ⟨filtered, ?_⟩
    rw [same]
    unfold attempt at same
    split at same
    · next known => exact .inl (Bool.and_eq_true_iff.mp known).2
    · refine .inr fun f made => ?_
      rw [made] at same
      refine not_le.mp fun fits => ?_
      dsimp only [add] at same
      rw [dif_pos fits] at same
      have fills := congrArg FillBook.fills same
      rw [append_fills] at fills
      exact absurd fills (by simp)
  · obtain ⟨id, deal⟩ := Option.ne_none_iff_exists'.mp dealt
    refine ⟨filtered, .inl (alreadyRecorded_iff.mpr ⟨id, deal, f, ?_, ?_⟩)⟩
    · rw [fills]
      exact List.mem_append_right _ (List.mem_singleton_self f)
    · exact (FillReport.make_eq made).2.2.trans deal

theorem done_attempts {a : Attempt} (filtered : a.filtered = true)
    (dealt : a.report.brokerDealId ≠ none) (as : List Attempt) (b : FillBook)
    (tried : a ∈ as ∨ b.Done a) : (b.attempts as).Done a := by
  induction as generalizing b with
  | nil => exact tried.resolve_left List.not_mem_nil
  | cons next rest ih =>
    refine ih (b.attempt next) ?_
    rcases tried with tried | done
    · rcases List.mem_cons.mp tried with rfl | tried
      · exact .inr (b.done_attempt filtered dealt)
      · exact .inl tried
    · exact .inr (done.later next)

/-- What was delivered once can be delivered again, in any order and any number of times. -/
theorem attempts_again (b : FillBook) (as again : List Attempt)
    (delivered : ∀ a ∈ again, a ∈ as ∧ a.filtered = true ∧ a.report.brokerDealId ≠ none) :
    (b.attempts as).attempts again = b.attempts as := by
  induction again with
  | nil => rfl
  | cons a rest ih =>
    obtain ⟨tried, filtered, dealt⟩ := delivered a List.mem_cons_self
    have done := done_attempts filtered dealt as b (.inl tried)
    have later := ih fun a mem => delivered a (List.mem_cons_of_mem _ mem)
    change ((b.attempts as).attempt a).attempts rest = _
    rw [done.attempt_eq, later]

def oneDeal : Attempt :=
  ⟨⟨.finite 1, .finite 2, 0, "venue", some "7", 0, 0, none, none⟩, true⟩

/-- One deal, delivered three times. -/
theorem attempts_again_thrice : ((empty 1 one_pos).attempts [oneDeal]).attempts [oneDeal, oneDeal] =
    (empty 1 one_pos).attempts [oneDeal] :=
  attempts_again _ _ _ (by simp [oneDeal])

theorem averagePrice_eq_none_iff (b : FillBook) : b.averagePrice = none ↔ b.fills = [] := by
  unfold averagePrice
  split
  · next empty =>
    refine iff_of_true rfl ?_
    exact b.filledQuantity_eq_zero_iff.mp (le_antisymm empty b.filledQuantity_nonneg)
  · next some_ =>
    refine iff_of_false (fun none => by cases none) fun empty => some_ ?_
    exact (b.filledQuantity_eq_zero_iff.mpr empty).le

theorem averagePrice_of_perm {b c : FillBook} (same : b.fills.Perm c.fills) :
    b.averagePrice = c.averagePrice := by
  have filled : b.filledQuantity = c.filledQuantity := (same.map _).sum_eq
  have money : notional b.fills = notional c.fills := (same.map _).sum_eq
  unfold averagePrice
  unfold notional at money
  rw [filled, money]

theorem notional_bounds {fills : List FillRecord} {low high : ℚ}
    (bounds : ∀ f ∈ fills, low ≤ f.price ∧ f.price ≤ high) :
    low * (fills.map FillRecord.quantity).sum ≤ notional fills ∧
      notional fills ≤ high * (fills.map FillRecord.quantity).sum := by
  unfold notional
  induction fills with
  | nil => simp
  | cons f rest ih =>
    obtain ⟨below, above⟩ := ih fun g mem => bounds g (List.mem_cons_of_mem f mem)
    obtain ⟨least, most⟩ := bounds f (List.mem_cons_self ..)
    have less := mul_le_mul_of_nonneg_left least f.quantity_pos.le
    have more := mul_le_mul_of_nonneg_left most f.quantity_pos.le
    simp only [List.map_cons, List.sum_cons]
    constructor <;> linarith

theorem averagePrice_bounds {b : FillBook} {average low high : ℚ}
    (is : b.averagePrice = some average)
    (bounds : ∀ f ∈ b.fills, low ≤ f.price ∧ f.price ≤ high) :
    low ≤ average ∧ average ≤ high := by
  obtain ⟨least, most⟩ := notional_bounds bounds
  unfold averagePrice at is
  split at is
  · cases is
  · next filled =>
    have positive := not_le.mp filled
    cases is
    exact ⟨(le_div_iff₀ positive).mpr least, (div_le_iff₀ positive).mpr most⟩

structure Accounts (b : FillBook) (requested : ℚ) : Prop where
  parts : b.filledQuantity + b.remainingQuantity = requested
  nonneg : 0 ≤ b.filledQuantity
  within : b.filledQuantity ≤ requested
  average : b.averagePrice = none ↔ b.fills = []
  between : ∀ average low high, b.averagePrice = some average →
    (∀ f ∈ b.fills, low ≤ f.price ∧ f.price ≤ high) → low ≤ average ∧ average ≤ high
  unordered : ∀ c : FillBook, c.fills.Perm b.fills → c.averagePrice = b.averagePrice

end FillBook

end TradeResearch.Oms
