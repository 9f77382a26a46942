import Mathlib.Algebra.Order.Ring.Rat
import Mathlib.Data.List.Sort
import Mathlib.Tactic.Linarith
import TradeResearch.Lib.Run
import TradeResearch.Lib.Table
import TradeResearch.Lib.Text

/-!
# The book of reservations

`backend/app/risk/reservations.py`: the durable record of the budget that intents have claimed, in
the session of a caller. What is written is seen by the caller at once, and by others when it is
committed; a claim the table refuses rolls the caller back to what was committed.

* `ReservationBook.reserve`, `release`, `expireStale` and `heldFor`, and `conservesBudget`.
* `Accepted`: what a claim that was accepted has come to; what was promised is held until somebody
  lets it go.
* `accepted_of_run`: in every run, a claim is accepted so.
-/

namespace TradeResearch.Risk.Reservations

inductive ReservationStatus where
  | pending
  | active
  | consumed
  | released
  | expired
  | cancelled
  | rejected
  deriving DecidableEq

def ReservationStatus.holding : ReservationStatus → Bool
  | pending | active => true
  | _ => false

structure Claim where
  decisionId : String
  intentId : String
  accountId : String
  mode : String
  riskAmount : ℚ
  exposure : ℚ
  expiresAt : Time
  strategyId : Option String := none
  botId : Option String := none
  symbol : Option String := none
  positions : ℤ := 1

def Claim.Valid (c : Claim) : Prop := 0 ≤ c.riskAmount ∧ 0 ≤ c.exposure ∧ 0 ≤ c.positions

instance decidableValid (c : Claim) : Decidable c.Valid :=
  inferInstanceAs (Decidable (_ ∧ _ ∧ _))

structure CapitalReservation where
  claim : Claim
  status : ReservationStatus
  releaseReason : Option Text
  releasedAt : Option Time
  orderId : Option String
  valid : claim.Valid

def CapitalReservation.intentId (r : CapitalReservation) : String := r.claim.intentId

structure Held where
  riskAmount : ℚ
  exposure : ℚ
  positions : ℤ
  count : ℕ

abbrev Rows := Table CapitalReservation.intentId

def CapitalReservation.holdsAt (r : CapitalReservation) (now : Time) : Bool :=
  r.status.holding && decide (now < r.claim.expiresAt)

def heldRows (rows : Rows) (accountId : String) (now : Time) : List CapitalReservation :=
  rows.rows.filter fun r => decide (r.claim.accountId = accountId) && r.holdsAt now

def heldFor (rows : Rows) (accountId : String) (now : Time) : Held :=
  let held := heldRows rows accountId now
  { riskAmount := (held.map fun r => r.claim.riskAmount).sum
    exposure := (held.map fun r => r.claim.exposure).sum
    positions := (held.map fun r => r.claim.positions).sum
    count := held.length }

structure ReservationBook where
  saved : Rows
  current : Rows

namespace ReservationBook

def empty : ReservationBook := ⟨Table.empty _, Table.empty _⟩

def active (c : Claim) (valid : c.Valid) : CapitalReservation :=
  { claim := c, status := .active, releaseReason := none, releasedAt := none, orderId := none
    valid }

def rollback (b : ReservationBook) (raced : Option CapitalReservation) : ReservationBook :=
  let saved := raced.elim b.saved b.saved.put
  ⟨saved, saved⟩

def flush (b : ReservationBook) (c : Claim) (raced : Option CapitalReservation) :
    Option CapitalReservation × ReservationBook :=
  match raced with
  | some _ => (none, b.rollback raced)
  | none =>
    if valid : c.Valid then
      (some (active c valid), { b with current := b.current.put (active c valid) })
    else (none, b.rollback none)

def reserve (b : ReservationBook) (c : Claim) (raced : Option CapitalReservation) :
    Option CapitalReservation × ReservationBook :=
  match b.current.find? c.intentId with
  | some existing => (some existing, b)
  | none =>
    let (row, after) := b.flush c (raced.filter fun r => r.intentId = c.intentId)
    (row <|> after.current.find? c.intentId, after)

def update (b : ReservationBook) (which : CapitalReservation → Bool)
    (status : ReservationStatus) (reason : Text) (now : Time) (orderId : Option String) :
    ReservationBook :=
  { b with
    current := b.current.map
      (fun r =>
        if which r then
          { r with
            status
            releaseReason := some reason
            releasedAt := some now
            orderId := orderId <|> r.orderId }
        else r)
      fun r => by
        split
        · rfl
        · rfl }

def releases (intentId : String) (r : CapitalReservation) : Bool :=
  decide (r.intentId = intentId) && r.status.holding

def stale (now : Time) (r : CapitalReservation) : Bool :=
  r.status.holding && decide (r.claim.expiresAt ≤ now)

def release (b : ReservationBook) (intentId : String) (status : ReservationStatus) (reason : Text)
    (now : Time) (orderId : Option String) : Bool × ReservationBook :=
  (b.current.rows.any (releases intentId),
    b.update (releases intentId) status (reason.take 500) now (orderId.filter (· ≠ "")))

def expireStale (b : ReservationBook) (now : Time) : ℕ × ReservationBook :=
  (b.current.rows.countP (stale now),
    b.update (stale now) .expired
      (Text.lit "the approval expired before anything consumed it") now none)

end ReservationBook

inductive Call where
  | reserve (c : Claim) (raced : Option CapitalReservation)
  | release (intentId : String) (status : ReservationStatus) (reason : Text) (now : Time)
    (orderId : Option String)
  | expireStale (now : Time)
  | commit

def step (b : ReservationBook) : Call → Option ReservationBook
  | .reserve c raced => some (b.reserve c raced).2
  | .release intentId status reason now orderId =>
    some (b.release intentId status reason now orderId).2
  | .expireStale now => some (b.expireStale now).2
  | .commit => some { b with saved := b.current }

def conservesBudget (allocations : List (String × ℚ)) (approved : ℚ) : Bool × Text :=
  if approved < 0 then
    (false, Text.lit "the approved budget is negative (" ++ Text.num approved ++
      Text.lit "); that is not a budget")
  else
    let negative := ((allocations.filter fun a => a.2 < 0).map Prod.fst).insertionSort (· ≤ ·)
    if negative ≠ [] then
      (false, Text.lit "negative allocation for " ++ Text.join ", " (negative.map Text.lit) ++
        Text.lit (". A negative share creates budget somewhere else, which is the one direction " ++
          "allocation may not go"))
    else
      let total := (allocations.map Prod.snd).sum
      if approved < total then
        (false, Text.lit "the allocation totals " ++ Text.num total ++
          Text.lit " against an approved budget of " ++ Text.num approved ++
          Text.lit ", which is " ++ Text.num (total - approved) ++
          Text.lit (" over. Rejected whole: a partially accepted allocation is an allocation " ++
            "nobody chose"))
      else
        (true, Text.num total ++ Text.lit " of " ++ Text.num approved ++ Text.lit " allocated, " ++
          Text.num (approved - total) ++ Text.lit " unallocated")

def heldAllocations (rows : Rows) (accountId : String) (now : Time) : List (String × ℚ) :=
  (heldRows rows accountId now).map fun r => (r.intentId, r.claim.riskAmount)

theorem conservesBudget_iff (allocations : List (String × ℚ)) (approved : ℚ) :
    (conservesBudget allocations approved).1 = true ↔
      0 ≤ approved ∧ (∀ a ∈ allocations, 0 ≤ a.2) ∧ (allocations.map Prod.snd).sum ≤ approved := by
  unfold conservesBudget
  have negative : ((allocations.filter fun a => a.2 < 0).map Prod.fst).insertionSort (· ≤ ·) ≠ [] ↔
      ¬ ∀ a ∈ allocations, 0 ≤ a.2 := by
    rw [Ne, ← List.length_eq_zero_iff, List.length_insertionSort, List.length_eq_zero_iff,
      List.map_eq_nil_iff, List.filter_eq_nil_iff]
    simp
  by_cases below : approved < 0
  · rw [if_pos below]
    exact iff_of_false Bool.false_ne_true fun fits => absurd fits.1 (not_le.mpr below)
  · rw [if_neg below]
    by_cases some_ : ∀ a ∈ allocations, 0 ≤ a.2
    · rw [if_neg fun ne => negative.mp ne some_]
      by_cases room : approved < (allocations.map Prod.snd).sum
      · rw [if_pos room]
        exact iff_of_false Bool.false_ne_true fun fits => absurd fits.2.2 (not_le.mpr room)
      · rw [if_neg room]
        exact iff_of_true rfl ⟨not_lt.mp below, some_, not_lt.mp room⟩
    · rw [if_pos (negative.mpr some_)]
      exact iff_of_false Bool.false_ne_true fun fits => some_ fits.2.1

theorem conservesBudget_held_iff (rows : Rows) (accountId : String) (now : Time) (approved : ℚ) :
    (conservesBudget (heldAllocations rows accountId now) approved).1 = true ↔
      (heldFor rows accountId now).riskAmount ≤ approved := by
  rw [conservesBudget_iff]
  have total : (heldAllocations rows accountId now).map Prod.snd =
      (heldRows rows accountId now).map fun r => r.claim.riskAmount := by
    unfold heldAllocations
    rw [List.map_map]
    rfl
  have nonneg : ∀ a ∈ heldAllocations rows accountId now, 0 ≤ a.2 := by
    unfold heldAllocations
    rw [List.forall_mem_map]
    exact fun r _ => r.valid.1
  rw [total]
  constructor
  · exact fun fits => fits.2.2
  · refine fun fits => ⟨le_trans (List.sum_nonneg ?_) fits, nonneg, fits⟩
    rw [List.forall_mem_map]
    exact fun r _ => r.valid.1

def Follows (b : ReservationBook) : Prop :=
  ∀ r ∈ b.saved.rows, ∃ s ∈ b.current.rows, s.claim = r.claim ∧
    (s.status.holding = true → r.status.holding = true)

namespace ReservationBook

variable {b : ReservationBook} {c : Claim} {raced : Option CapitalReservation}

theorem follows_of_same {rows : Rows} : Follows ⟨rows, rows⟩ := fun r mem => ⟨r, mem, rfl, id⟩

theorem mem_update {which : CapitalReservation → Bool} {status : ReservationStatus} {reason : Text}
    {now : Time} {orderId : Option String} (mem : r ∈ b.current.rows) :
    ∃ s ∈ (b.update which status reason now orderId).current.rows, s.claim = r.claim ∧
      s.status = if which r then status else r.status := by
  refine ⟨_, List.mem_map_of_mem mem, ?_⟩
  by_cases here : which r = true
  · rw [if_pos here, if_pos here]
    exact ⟨rfl, rfl⟩
  · rw [if_neg here, if_neg here]
    exact ⟨rfl, rfl⟩

theorem follows_update (follows : Follows b) {which : CapitalReservation → Bool}
    (holding : ∀ r, which r = true → r.status.holding = true) (status : ReservationStatus)
    (reason : Text) (now : Time) (orderId : Option String) :
    Follows (b.update which status reason now orderId) := by
  intro r mem
  obtain ⟨s, seen, same, held⟩ := follows r mem
  obtain ⟨t, written, claim, is⟩ := mem_update seen
  refine ⟨t, written, claim.trans same, fun holds => held ?_⟩
  rw [is] at holds
  split_ifs at holds with here
  · exact holding s here
  · exact holds

theorem ne_of_free {rows : Rows} {intentId : String} (free : rows.find? intentId = none)
    (mem : r ∈ rows.rows) : r.intentId ≠ intentId := by
  rintro rfl
  cases free.symm.trans (Table.find?_of_mem mem)

theorem mem_rollback (other : ∀ w ∈ raced, r.intentId ≠ w.intentId) :
    r ∈ (b.rollback raced).saved.rows ↔ r ∈ b.saved.rows := by
  cases raced with
  | none => exact Iff.rfl
  | some w =>
    have other := other w rfl
    refine Table.mem_put.trans ⟨fun mem => ?_, fun mem => .inl ⟨mem, other⟩⟩
    rcases mem with ⟨mem, -⟩ | rfl
    · exact mem
    · exact absurd rfl other

theorem reserve_of_found (found : b.current.find? c.intentId = some r) :
    b.reserve c raced = (some r, b) := by
  unfold reserve
  rw [found]

theorem reserve_of_free (free : b.current.find? c.intentId = none)
    (alone : raced.filter (fun r => r.intentId = c.intentId) = none) (valid : c.Valid) :
    b.reserve c raced =
      (some (active c valid), { b with current := b.current.put (active c valid) }) := by
  unfold reserve flush
  rw [free]
  rw [alone]
  rw [dif_pos valid]
  rfl

theorem reserve_of_refused (free : b.current.find? c.intentId = none)
    (refused : raced.filter (fun r => r.intentId = c.intentId) = none → ¬ c.Valid) :
    b.reserve c raced =
      ((b.rollback (raced.filter fun r => r.intentId = c.intentId)).current.find? c.intentId,
        b.rollback (raced.filter fun r => r.intentId = c.intentId)) := by
  unfold reserve flush
  rw [free]
  cases is : raced.filter (fun r => r.intentId = c.intentId) with
  | none =>
    rw [dif_neg (refused is)]
    rfl
  | some w => rfl

theorem follows_reserve (follows : Follows b) : Follows (b.reserve c raced).2 := by
  cases found : b.current.find? c.intentId with
  | some existing =>
    rw [reserve_of_found found]
    exact follows
  | none =>
    by_cases accepted : raced.filter (fun r => r.intentId = c.intentId) = none ∧ c.Valid
    · rw [reserve_of_free found accepted.1 accepted.2]
      intro r mem
      obtain ⟨s, seen, same, held⟩ := follows r mem
      exact ⟨s, Table.mem_put.mpr (.inl ⟨seen, ne_of_free found seen⟩), same, held⟩
    · rw [reserve_of_refused found (not_and.mp accepted)]
      exact follows_of_same

theorem follows_step {e : Call} (follows : Follows b) (taken : step b e = some b') :
    Follows b' := by
  cases e with
  | reserve c raced =>
    cases taken
    exact follows_reserve follows
  | release intentId status reason now orderId =>
    cases taken
    exact follows_update follows (fun r which => (Bool.and_eq_true_iff.mp which).2) _ _ _ _
  | expireStale now =>
    cases taken
    exact follows_update follows (fun r which => (Bool.and_eq_true_iff.mp which).1) _ _ _ _
  | commit =>
    cases taken
    exact follows_of_same

def Keeps (claim : Claim) (b : ReservationBook) : Call → Prop
  | .reserve c raced =>
    b.current.find? c.intentId = none →
      (raced.filter (fun r => r.intentId = c.intentId) = none ∧ c.Valid) ∨
        claim.intentId ∈ b.saved.rows.map CapitalReservation.intentId
  | .release intentId status _ _ _ => intentId = claim.intentId → status.holding = true
  | .expireStale now => now < claim.expiresAt
  | .commit => True

structure Holds (claim : Claim) (b : ReservationBook) : Prop where
  seen : ∃ r ∈ b.current.rows, r.claim = claim ∧ r.status.holding = true
  saved : ∀ r ∈ b.saved.rows, r.intentId = claim.intentId →
    r.claim = claim ∧ r.status.holding = true

theorem holds_of_mem (follows : Follows b) (mem : r ∈ b.current.rows)
    (holding : r.status.holding = true) : Holds r.claim b where
  seen := ⟨r, mem, rfl, holding⟩
  saved s committed same := by
    obtain ⟨t, seen, claim, held⟩ := follows s committed
    have one : t = r := Table.eq_of_key seen mem ((congrArg Claim.intentId claim).trans same)
    rw [one] at claim held
    exact ⟨claim.symm, held holding⟩

theorem holds_update {claim : Claim} (holds : Holds claim b)
    {which : CapitalReservation → Bool} {status : ReservationStatus} {reason : Text} {now : Time}
    {orderId : Option String}
    (keeps : ∀ r, r.claim = claim → which r = true → status.holding = true) :
    Holds claim (b.update which status reason now orderId) where
  seen := by
    obtain ⟨r, mem, same, holding⟩ := holds.seen
    obtain ⟨s, written, is, status_⟩ := mem_update mem
    refine ⟨s, written, is.trans same, ?_⟩
    rw [status_]
    split_ifs with here
    · exact keeps r same here
    · exact holding
  saved := holds.saved

theorem holds_step {claim : Claim} {e : Call} (holds : Holds claim b) (keeps : Keeps claim b e)
    (taken : step b e = some b') : Holds claim b' := by
  cases e with
  | reserve c raced =>
    cases taken
    obtain ⟨r, mem, same, holding⟩ := holds.seen
    cases found : b.current.find? c.intentId with
    | some existing =>
      rw [reserve_of_found found]
      exact holds
    | none =>
      have other := ne_of_free found mem
      by_cases accepted : raced.filter (fun r => r.intentId = c.intentId) = none ∧ c.Valid
      · rw [reserve_of_free found accepted.1 accepted.2]
        exact ⟨⟨r, Table.mem_put.mpr (.inl ⟨mem, other⟩), same, holding⟩, holds.saved⟩
      · rw [reserve_of_refused found (not_and.mp accepted)]
        obtain ⟨s, committed, named⟩ := List.mem_map.mp ((keeps found).resolve_left accepted)
        obtain ⟨claim_, holding⟩ := holds.saved s committed named
        -- The row of the race is of another intent than the claim's.
        have elsewhere : ∀ t : CapitalReservation, t.intentId = claim.intentId →
            ∀ w ∈ raced.filter (fun r => r.intentId = c.intentId), t.intentId ≠ w.intentId := by
          intro t named w is taken
          have here := of_decide_eq_true (Option.filter_eq_some_iff.mp is).2
          exact other ((congrArg Claim.intentId same).trans (named.symm.trans (taken.trans here)))
        exact ⟨⟨s, (mem_rollback (elsewhere s named)).mpr committed, claim_, holding⟩,
          fun t mem' named => holds.saved t ((mem_rollback (elsewhere t named)).mp mem') named⟩
  | release intentId status reason now orderId =>
    cases taken
    refine holds_update holds fun r same which => keeps ?_
    rw [← same]
    exact (of_decide_eq_true (Bool.and_eq_true_iff.mp which).1).symm
  | expireStale now =>
    cases taken
    refine holds_update holds fun r same which => ?_
    have late := of_decide_eq_true (Bool.and_eq_true_iff.mp which).2
    rw [same] at late
    exact absurd keeps (not_lt.mpr late)
  | commit =>
    cases taken
    obtain ⟨r, mem, same, holding⟩ := holds.seen
    refine ⟨holds.seen, fun s mem' named => ?_⟩
    rw [Table.eq_of_key mem' mem (named.trans (congrArg Claim.intentId same).symm)]
    exact ⟨same, holding⟩

end ReservationBook

structure Includes (held : Held) (claim : Claim) : Prop where
  riskAmount : claim.riskAmount ≤ held.riskAmount
  exposure : claim.exposure ≤ held.exposure
  positions : claim.positions ≤ held.positions
  count : 1 ≤ held.count

open ReservationBook

theorem includes_of_holds {claim : Claim} {b : ReservationBook} (holds : Holds claim b) {now : Time}
    (early : now < claim.expiresAt) : Includes (heldFor b.current claim.accountId now) claim := by
  obtain ⟨r, mem, rfl, holding⟩ := holds.seen
  have held : r ∈ heldRows b.current r.claim.accountId now := by
    unfold heldRows CapitalReservation.holdsAt
    rw [List.mem_filter]
    exact ⟨mem, by simp [holding, early]⟩
  have part {α : Type} [AddCommMonoid α] [PartialOrder α] [IsOrderedAddMonoid α]
      (f : CapitalReservation → α) (nonneg : ∀ s, 0 ≤ f s) :
      f r ≤ ((heldRows b.current r.claim.accountId now).map f).sum :=
    List.single_le_sum (List.forall_mem_map.mpr fun s _ => nonneg s) _ (List.mem_map_of_mem held)
  exact ⟨part _ fun s => s.valid.1, part _ fun s => s.valid.2.1, part _ fun s => s.valid.2.2,
    List.length_pos_of_mem held⟩

structure Accepted (b : ReservationBook) (c : Claim) (raced : Option CapitalReservation)
    (r : CapitalReservation) (b' : ReservationBook) : Prop where
  /-- The row is that of the intent. -/
  row : r ∈ b'.current.rows ∧ r.intentId = c.intentId
  /-- An intent that has a row is answered with it, and adds nothing. -/
  again : ∀ existing, b.current.find? c.intentId = some existing → r = existing ∧ b' = b
  /-- An intent that has none, and that nobody else claims, is recorded as it was claimed. -/
  fresh : b.current.find? c.intentId = none →
    raced.filter (fun r => r.intentId = c.intentId) = none →
      r.claim = c ∧ r.status = .active ∧ b'.current = b.current.put r
  /-- What the row holds is held for its account until a call lets it go, or it expires. -/
  held : r.status.holding = true → ∀ calls after, Run.Meets step (Keeps r.claim) b' calls →
    Run.exec step b' calls = some after → ∀ now < r.claim.expiresAt,
      Includes (heldFor after.current r.claim.accountId now) r.claim

theorem accepted_of_follows {b b' : ReservationBook} (follows : Follows b) {c : Claim}
    {raced : Option CapitalReservation} {r : CapitalReservation}
    (answered : b.reserve c raced = (some r, b')) : Accepted b c raced r b' := by
  have follows' : Follows b' := by
    have after : Follows (b.reserve c raced).2 := follows_reserve follows
    rw [answered] at after
    exact after
  have row : r ∈ b'.current.rows ∧ r.intentId = c.intentId := by
    cases found : b.current.find? c.intentId with
    | some existing =>
      rw [reserve_of_found found] at answered
      cases answered
      exact ⟨List.mem_of_find?_eq_some found, Table.key_of_find? found⟩
    | none =>
      by_cases accepted : raced.filter (fun r => r.intentId = c.intentId) = none ∧ c.Valid
      · rw [reserve_of_free found accepted.1 accepted.2] at answered
        cases answered
        exact ⟨Table.mem_put.mpr (.inr rfl), rfl⟩
      · rw [reserve_of_refused found (not_and.mp accepted)] at answered
        obtain ⟨read, rfl⟩ := Prod.mk.inj answered
        exact ⟨List.mem_of_find?_eq_some read, Table.key_of_find? read⟩
  refine ⟨row, fun existing found => ?_, fun free alone => ?_, fun holding calls after keeps run now
    early => ?_⟩
  · rw [reserve_of_found found] at answered
    cases answered
    exact ⟨rfl, rfl⟩
  · by_cases valid : c.Valid
    · rw [reserve_of_free free alone valid] at answered
      cases answered
      exact ⟨rfl, rfl, rfl⟩
    · rw [reserve_of_refused free fun _ => valid, alone] at answered
      have read : b.saved.find? c.intentId = some r := (Prod.mk.inj answered).1
      obtain ⟨s, seen, same, -⟩ := follows r (List.mem_of_find?_eq_some read)
      have here : r.intentId = c.intentId := Table.key_of_find? read
      exact absurd ((congrArg Claim.intentId same).trans here) (ne_of_free free seen)
  · have held := Run.invariant (fun s e t => holds_step) (holds_of_mem follows' row.1 holding)
      keeps run
    exact includes_of_holds held early

/-- In every run, a claim that is accepted is held as `Accepted` says; and what an account holds
fits a budget exactly where its total does, whatever the budget. -/
theorem accepted_of_run (calls : List Call) (b : ReservationBook)
    (run : Run.exec step empty calls = some b) :
    (∀ c raced r b', b.reserve c raced = (some r, b') → Accepted b c raced r b') ∧
      ∀ accountId now approved,
        (conservesBudget (heldAllocations b.current accountId now) approved).1 = true ↔
          (heldFor b.current accountId now).riskAmount ≤ approved := by
  have follows : Follows b :=
    Run.invariant_all (fun s e t => follows_step) follows_of_same run
  exact ⟨fun c raced r b' => accepted_of_follows follows, conservesBudget_held_iff b.current⟩

def hundred : Claim where
  decisionId := "d"
  intentId := "i"
  accountId := "a"
  mode := "paper"
  riskAmount := 100
  exposure := 1000
  expiresAt := 300

/-- Its first reservation is accepted. -/
theorem accepted_hundred :
    Accepted empty hundred none (active hundred (by decide +kernel))
      ⟨Table.empty _, (Table.empty _).put (active hundred (by decide +kernel))⟩ :=
  (accepted_of_run [] empty rfl).1 hundred none _ _
    (reserve_of_free rfl rfl (by decide +kernel))

/-- Once it was released, a second reservation returns normally and nothing is held; and a first one
is held whatever the budget is. -/
theorem not_forall_held :
    (∃ b r b', Run.exec step empty
        [.reserve hundred none, .release "i" .released (Text.lit "gone") 1 none] = some b ∧
      b.reserve hundred none = (some r, b') ∧ (heldFor b'.current "a" 2).riskAmount = 0) ∧
    ∃ b, Run.exec step empty [.reserve hundred none] = some b ∧
      (conservesBudget (heldAllocations b.current "a" 2) 50).1 = false := by
  exact ⟨⟨_, _, _, rfl, rfl, by decide +kernel⟩, _, rfl, by decide +kernel⟩

end TradeResearch.Risk.Reservations
