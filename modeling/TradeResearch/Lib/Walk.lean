import Mathlib.Algebra.Order.Ring.Nat
import Mathlib.Data.List.Basic
import Mathlib.Data.Nat.Find

/-!
# Walks over positions

The loop `while i < last`, where at each position something is found that covers a span of further
positions, or nothing is: the walk goes on behind what it found.

* `Walk.run` is what a walk finds, in order; `Walk.positions` where it stands.
* `Walk.run_eq_iff`: two walks find the same when they find the same wherever the first stands.
* `Walk.getElem?_run_of_extends`: what a shorter walk finds complete, a longer one finds there too.
* `Walk.settleAll` settles what a walk found against an account, and `Walk.account` settles each
  thing before it walks on; `settleAll_eq_account_iff` says when they agree.
-/

namespace TradeResearch.Walk

variable {α β σ : Type}

def next (visit : ℕ → Option (α × ℕ)) (i : ℕ) : ℕ :=
  match visit i with
  | none => i + 1
  | some (_, span) => i + span + 1

def stands (visit : ℕ → Option (α × ℕ)) (last : ℕ) : ℕ → ℕ → List ℕ
  | 0, _ => []
  | fuel + 1, i => if i < last then i :: stands visit last fuel (next visit i) else []

def positions (visit : ℕ → Option (α × ℕ)) (last i : ℕ) : List ℕ :=
  stands visit last (last - i) i

def run (visit : ℕ → Option (α × ℕ)) (last i : ℕ) : List α :=
  (positions visit last i).filterMap fun k => (visit k).map Prod.fst

section Positions

variable {visit visit' : ℕ → Option (α × ℕ)}

theorem lt_next (i : ℕ) : i < next visit i := by
  unfold next
  split <;> omega

theorem stands_eq_positions {fuel i : ℕ} (enough : last - i ≤ fuel) :
    stands visit last fuel i = positions visit last i := by
  unfold positions
  generalize least : last - i = n at enough
  induction n using Nat.strong_induction_on generalizing fuel i with
  | _ n ih =>
    have further : i < next visit i := lt_next i
    by_cases inside : i < last
    · obtain ⟨fuel, rfl⟩ := Nat.exists_eq_succ_of_ne_zero (show fuel ≠ 0 by omega)
      obtain ⟨n, rfl⟩ := Nat.exists_eq_succ_of_ne_zero (show n ≠ 0 by omega)
      unfold stands
      rw [if_pos inside, if_pos inside, ih (last - next visit i) (by omega) rfl (by omega),
        ih (last - next visit i) (by omega) rfl (show last - next visit i ≤ n by omega)]
    · obtain rfl : n = 0 := by omega
      cases fuel with
      | zero => rfl
      | succ fuel =>
        unfold stands
        rw [if_neg inside]

theorem positions_of_le {i : ℕ} (done : last ≤ i) : positions visit last i = [] := by
  unfold positions
  rw [Nat.sub_eq_zero_of_le done]
  rfl

theorem positions_of_lt {i : ℕ} (inside : i < last) :
    positions visit last i = i :: positions visit last (next visit i) := by
  have further : i < next visit i := lt_next i
  obtain ⟨n, remaining⟩ := Nat.exists_eq_succ_of_ne_zero (show last - i ≠ 0 by omega)
  conv => lhs; unfold positions
  rw [remaining]
  unfold stands
  rw [if_pos inside, stands_eq_positions (by omega)]

theorem run_of_le {i : ℕ} (done : last ≤ i) : run visit last i = [] := by
  unfold run
  rw [positions_of_le done, List.filterMap_nil]

theorem run_of_none {i : ℕ} (inside : i < last) (nothing : visit i = none) :
    run visit last i = run visit last (i + 1) := by
  unfold run
  rw [positions_of_lt inside, List.filterMap_cons_none (by rw [nothing]; rfl)]
  unfold next
  rw [nothing]

theorem run_of_some {i span : ℕ} {a : α} (inside : i < last) (found : visit i = some (a, span)) :
    run visit last i = a :: run visit last (i + span + 1) := by
  unfold run
  rw [positions_of_lt inside, List.filterMap_cons_some (by rw [found]; rfl)]
  unfold next
  rw [found]

theorem induction {P : ℕ → Prop} (visit : ℕ → Option (α × ℕ)) (last : ℕ)
    (done : ∀ i, last ≤ i → P i) (back : ∀ i, i < last → P (next visit i) → P i) (i : ℕ) : P i := by
  generalize remaining : last - i = n
  induction n using Nat.strong_induction_on generalizing i with
  | _ n ih =>
    by_cases inside : i < last
    · have further : i < next visit i := lt_next i
      exact back i inside (ih (last - next visit i) (by omega) (next visit i) rfl)
    · exact done i (by omega)

theorem mem_positions {i k : ℕ} (stood : k ∈ positions visit last i) : i ≤ k ∧ k < last := by
  induction i using induction visit last with
  | done i done =>
    rw [positions_of_le done] at stood
    exact absurd stood List.not_mem_nil
  | back i inside ih =>
    rw [positions_of_lt inside] at stood
    rcases List.mem_cons.mp stood with rfl | later
    · exact ⟨le_rfl, inside⟩
    · have further : i < next visit i := lt_next i
      exact ⟨further.le.trans (ih later).1, (ih later).2⟩

theorem mem_run {i : ℕ} {a : α} :
    a ∈ run visit last i ↔ ∃ k ∈ positions visit last i, ∃ span, visit k = some (a, span) := by
  unfold run
  rw [List.mem_filterMap]
  simp only [Option.map_eq_some_iff, Prod.exists, exists_and_right, exists_eq_right]

theorem pairwise_run {R : α → α → Prop}
    (apart : ∀ k a span k' a' span', visit k = some (a, span) → visit k' = some (a', span') →
      k + span < k' → R a a') (i : ℕ) : (run visit last i).Pairwise R := by
  induction i using induction visit last with
  | done i done =>
    rw [run_of_le done]
    exact List.Pairwise.nil
  | back i inside ih =>
    cases found : visit i with
    | none =>
      rw [run_of_none inside found]
      unfold next at ih
      rwa [found] at ih
    | some thing =>
      obtain ⟨a, span⟩ := thing
      unfold next at ih
      rw [found] at ih
      rw [run_of_some inside found, List.pairwise_cons]
      refine ⟨fun a' mem => ?_, ih⟩
      obtain ⟨k', stood, span', found'⟩ := mem_run.mp mem
      exact apart i a span k' a' span' found found' (mem_positions stood).1

def read (f : α → β) (visit : ℕ → Option (α × ℕ)) (i : ℕ) : Option (β × ℕ) :=
  (visit i).map (Prod.map f id)

theorem next_read (f : α → β) (i : ℕ) : next (read f visit) i = next visit i := by
  unfold next read
  cases visit i <;> rfl

theorem positions_read (f : α → β) (i : ℕ) :
    positions (read f visit) last i = positions visit last i := by
  induction i using induction visit last with
  | done i done => rw [positions_of_le done, positions_of_le done]
  | back i inside ih => rw [positions_of_lt inside, positions_of_lt inside, next_read, ih]

theorem run_read (f : α → β) (i : ℕ) : run (read f visit) last i = (run visit last i).map f := by
  unfold run
  rw [positions_read, List.map_filterMap]
  congr 1
  funext k
  unfold read
  cases visit k <;> rfl

theorem run_eq_iff {i : ℕ} (same : ∀ k, visit k = none ↔ visit' k = none)
    (spans : ∀ k a span span', visit k = some (a, span) → visit' k = some (a, span') →
      span = span') :
    run visit last i = run visit' last i ↔
      ∀ k ∈ positions visit last i, visit k = visit' k := by
  induction i using induction visit last with
  | done i done => simp [run_of_le done, positions_of_le done]
  | back i inside ih =>
    rw [positions_of_lt inside, List.forall_mem_cons, ← ih]
    unfold next
    cases found : visit i with
    | none =>
      have found' : visit' i = none := (same i).mp found
      simp [run_of_none inside found, run_of_none inside found', found']
    | some thing =>
      obtain ⟨a, span⟩ := thing
      cases found' : visit' i with
      | none =>
        rw [(same i).mpr found'] at found
        cases found
      | some thing' =>
        obtain ⟨a', span'⟩ := thing'
        rw [run_of_some inside found, run_of_some inside found']
        constructor
        · intro runs
          obtain ⟨rfl, rest⟩ := List.cons.inj runs
          obtain rfl := spans i a span span' found found'
          exact ⟨rfl, rest⟩
        · rintro ⟨things, rest⟩
          cases things
          exact congrArg (a :: ·) rest

theorem getElem?_run_of_extends {Complete : α → Prop} (longer : last ≤ last')
    (extends_ : ∀ k < last, visit' k = visit k ∨
      ∃ a span, visit k = some (a, span) ∧ ¬ Complete a ∧ last ≤ k + span + 1)
    (i m : ℕ) (a : α) (found : (run visit last i)[m]? = some a) (complete : Complete a) :
    (run visit' last' i)[m]? = some a := by
  induction i using induction visit last generalizing m with
  | done i done => simp [run_of_le done] at found
  | back i inside ih =>
    unfold next at ih
    rcases extends_ i inside with agree | ⟨b, span, here, open_, past⟩
    · cases here : visit i with
      | none =>
        rw [here] at agree ih
        rw [run_of_none inside here] at found
        rw [run_of_none (inside.trans_le longer) agree]
        exact ih m found
      | some thing =>
        rw [here] at agree ih
        rw [run_of_some inside here] at found
        rw [run_of_some (inside.trans_le longer) agree]
        cases m with
        | zero => exact found
        | succ m => exact ih m found
    · -- what covers the rest is the last thing found, and it is not complete
      rw [run_of_some inside here, run_of_le past] at found
      cases m with
      | zero =>
        cases found
        exact absurd complete open_
      | succ m => cases found

end Positions

section Settle

variable (visit : ℕ → Option (α × ℕ)) (settle : σ → α → Option (β × σ)) (last : ℕ)

def settleAll : σ → List α → List β
  | _, [] => []
  | s, a :: rest =>
    match settle s a with
    | none => settleAll s rest
    | some (b, t) => b :: settleAll t rest

def EachSettled (P : σ → α → Prop) : σ → List α → Prop
  | _, [] => True
  | s, a :: rest =>
    match settle s a with
    | none => EachSettled P s rest
    | some (_, t) => P s a ∧ EachSettled P t rest

def accountUpTo : ℕ → σ → ℕ → List β
  | 0, _, _ => []
  | fuel + 1, s, i =>
    if i < last then
      match visit i with
      | none => accountUpTo fuel s (i + 1)
      | some (a, span) =>
        match settle s a with
        | none => accountUpTo fuel s (i + 1)
        | some (b, t) => b :: accountUpTo fuel t (i + span + 1)
    else []

def account (s : σ) (i : ℕ) : List β := accountUpTo visit settle last (last - i) s i

def Refuses (s : σ) (k : ℕ) : Prop := ∀ a span, visit k = some (a, span) → settle s a = none

def Clear : σ → List ℕ → Prop
  | _, [] => True
  | s, k :: rest =>
    match visit k with
    | none => Clear s rest
    | some (a, span) =>
      match settle s a with
      | none => (∀ j < last, k < j → j ≤ k + span → Refuses visit settle s j) ∧ Clear s rest
      | some (_, t) => Clear t rest

end Settle

section Agree

theorem forall_mem_settleAll_iff {settle : σ → α → Option (β × σ)} {P : σ → α → Prop}
    {Q : β → Prop} {things : List α}
    (exact : ∀ s, ∀ a ∈ things, ∀ b t, settle s a = some (b, t) → (Q b ↔ P s a)) (s : σ) :
    (∀ b ∈ settleAll settle s things, Q b) ↔ EachSettled settle P s things := by
  induction things generalizing s with
  | nil => exact iff_of_true (fun _ mem => absurd mem List.not_mem_nil) True.intro
  | cons a things ih =>
    have rest := fun s' a' mem => exact s' a' (List.mem_cons_of_mem a mem)
    unfold settleAll EachSettled
    cases settled : settle s a with
    | none => exact ih rest s
    | some pair =>
      rw [List.forall_mem_cons, ih rest pair.2,
        exact s a List.mem_cons_self pair.1 pair.2 settled]

variable {visit : ℕ → Option (α × ℕ)} {settle : σ → α → Option (β × σ)} {last : ℕ}

theorem accountUpTo_eq_account {fuel i : ℕ} {s : σ} (enough : last - i ≤ fuel) :
    accountUpTo visit settle last fuel s i = account visit settle last s i := by
  unfold account
  generalize least : last - i = n at enough
  induction n using Nat.strong_induction_on generalizing fuel s i with
  | _ n ih =>
    by_cases inside : i < last
    · obtain ⟨fuel, rfl⟩ := Nat.exists_eq_succ_of_ne_zero (show fuel ≠ 0 by omega)
      obtain ⟨n, rfl⟩ := Nat.exists_eq_succ_of_ne_zero (show n ≠ 0 by omega)
      have further (j : ℕ) (t : σ) (beyond : i < j) :
          accountUpTo visit settle last fuel t j = accountUpTo visit settle last n t j :=
        (ih (last - j) (by omega) rfl (by omega)).trans
          (ih (last - j) (by omega) rfl (show last - j ≤ n by omega)).symm
      unfold accountUpTo
      rw [if_pos inside, if_pos inside]
      cases visit i with
      | none => exact further (i + 1) s (by omega)
      | some thing =>
        dsimp only
        cases settle s thing.1 with
        | none => exact further (i + 1) s (by omega)
        | some settled => exact congrArg (settled.1 :: ·) (further _ settled.2 (by omega))
    · obtain rfl : n = 0 := by omega
      cases fuel with
      | zero => rfl
      | succ fuel =>
        unfold accountUpTo
        rw [if_neg inside]

theorem account_of_le {i : ℕ} {s : σ} (done : last ≤ i) : account visit settle last s i = [] := by
  unfold account
  rw [Nat.sub_eq_zero_of_le done]
  rfl

theorem account_of_lt {i : ℕ} {s : σ} (inside : i < last) :
    account visit settle last s i =
      match visit i with
      | none => account visit settle last s (i + 1)
      | some (a, span) =>
        match settle s a with
        | none => account visit settle last s (i + 1)
        | some (b, t) => b :: account visit settle last t (i + span + 1) := by
  obtain ⟨n, remaining⟩ := Nat.exists_eq_succ_of_ne_zero (show last - i ≠ 0 by omega)
  conv => lhs; unfold account
  rw [remaining]
  unfold accountUpTo
  rw [if_pos inside]
  cases visit i with
  | none => exact accountUpTo_eq_account (by omega)
  | some thing =>
    dsimp only
    cases settle s thing.1 with
    | none => exact accountUpTo_eq_account (by omega)
    | some settled => exact congrArg (settled.1 :: ·) (accountUpTo_eq_account (by omega))

theorem account_of_refuses {i : ℕ} {s : σ} (refused : i < last → Refuses visit settle s i) :
    account visit settle last s i = account visit settle last s (i + 1) := by
  by_cases inside : i < last
  · rw [account_of_lt inside]
    cases found : visit i with
    | none => rfl
    | some thing =>
      dsimp only
      rw [refused inside thing.1 thing.2 found]
  · rw [account_of_le (by omega), account_of_le (by omega)]

theorem account_skip {i j : ℕ} {s : σ} (before : i ≤ j)
    (refused : ∀ k, i ≤ k → k < j → k < last → Refuses visit settle s k) :
    account visit settle last s i = account visit settle last s j := by
  induction j, before using Nat.le_induction with
  | base => rfl
  | succ j before ih =>
    rw [ih fun k from_ below => refused k from_ (by omega)]
    exact account_of_refuses fun inside => refused j before (by omega) inside

variable {place : β → ℕ}

theorem le_place_of_mem_settleAll
    (placed : ∀ k a span s b t, visit k = some (a, span) → settle s a = some (b, t) → place b = k)
    (s : σ) (i : ℕ) : ∀ b ∈ settleAll settle s (run visit last i), i ≤ place b := by
  have each : ∀ (things : List α) (s : σ),
      (∀ a ∈ things, ∃ k span, i ≤ k ∧ visit k = some (a, span)) →
        ∀ b ∈ settleAll settle s things, i ≤ place b := by
    intro things
    induction things with
    | nil => exact fun _ _ b mem => absurd mem List.not_mem_nil
    | cons a things ih =>
      intro s found b mem
      have rest := fun a' mem' => found a' (List.mem_cons_of_mem a mem')
      unfold settleAll at mem
      cases settled : settle s a with
      | none =>
        rw [settled] at mem
        exact ih s rest b mem
      | some pair =>
        rw [settled] at mem
        rcases List.mem_cons.mp mem with rfl | later
        · obtain ⟨k, span, after, here⟩ := found a List.mem_cons_self
          rwa [placed k a span s pair.1 pair.2 here settled]
        · exact ih pair.2 rest b later
  refine each _ s fun a mem => ?_
  obtain ⟨k, stood, span, found⟩ := mem_run.mp mem
  exact ⟨k, span, (mem_positions stood).1, found⟩

theorem exists_least_of_not_refuses {i j : ℕ} {s : σ}
    (some_ : ∃ k, i ≤ k ∧ k < j ∧ k < last ∧ ¬ Refuses visit settle s k) :
    ∃ k a span b t, i ≤ k ∧ k < j ∧ k < last ∧ visit k = some (a, span) ∧
      settle s a = some (b, t) ∧ account visit settle last s i = account visit settle last s k := by
  classical
  obtain ⟨k, ⟨from_, below, inside, accepted⟩, least⟩ :
      ∃ k, (i ≤ k ∧ k < j ∧ k < last ∧ ¬ Refuses visit settle s k) ∧
        ∀ m < k, ¬ (i ≤ m ∧ m < j ∧ m < last ∧ ¬ Refuses visit settle s m) :=
    ⟨Nat.find some_, Nat.find_spec some_, fun m earlier => Nat.find_min some_ earlier⟩
  unfold Refuses at accepted
  push Not at accepted
  obtain ⟨a, span, found, settled⟩ := accepted
  obtain ⟨⟨b, t⟩, settled⟩ := Option.ne_none_iff_exists'.mp settled
  refine ⟨k, a, span, b, t, from_, below, inside, found, settled, account_skip from_ ?_⟩
  intro m start earlier _
  by_contra accepted
  exact least m earlier ⟨start, earlier.trans below, earlier.trans inside, accepted⟩

variable (place)
theorem settleAll_eq_account_iff
    (placed : ∀ k a span s b t, visit k = some (a, span) → settle s a = some (b, t) → place b = k)
    (s : σ) (i : ℕ) :
    settleAll settle s (run visit last i) = account visit settle last s i ↔
      Clear visit settle last s (positions visit last i) := by
  induction i using induction visit last generalizing s with
  | done i done =>
    rw [run_of_le done, account_of_le done, positions_of_le done]
    exact iff_of_true rfl True.intro
  | back i inside ih =>
    unfold next at ih
    rw [positions_of_lt inside]
    unfold Clear next
    rw [account_of_lt inside]
    cases found : visit i with
    | none =>
      rw [found] at ih
      rw [run_of_none inside found]
      exact ih s
    | some thing =>
      obtain ⟨a, span⟩ := thing
      rw [found] at ih
      rw [run_of_some inside found]
      unfold settleAll
      dsimp only at ih ⊢
      cases settled : settle s a with
      | some pair =>
        dsimp only
        rw [← ih pair.2]
        exact ⟨List.tail_eq_of_cons_eq, congrArg (pair.1 :: ·)⟩
      | none =>
        dsimp only
        rw [← ih s]
        constructor
        · intro same
          have covered : ∀ k, i + 1 ≤ k → k < i + span + 1 → k < last →
              Refuses visit settle s k := by
            by_contra hidden
            push Not at hidden
            obtain ⟨k, a', span', b, t, from_, below, within, found', settled', skip⟩ :=
              exists_least_of_not_refuses hidden
            rw [skip, account_of_lt within, found'] at same
            dsimp only at same
            rw [settled'] at same
            have mem : b ∈ settleAll settle s (run visit last (i + span + 1)) := by
              rw [same]
              exact List.mem_cons_self
            have late := le_place_of_mem_settleAll placed s (i + span + 1) b mem
            rw [placed k a' span' s b t found' settled'] at late
            omega
          refine ⟨fun j within after below => covered j (by omega) (by omega) within, ?_⟩
          rw [same]
          exact account_skip (by omega) covered
        · rintro ⟨covered, rest⟩
          rw [rest]
          exact (account_skip (by omega) fun k from_ below within =>
            covered k within (by omega) (by omega)).symm

end Agree

end TradeResearch.Walk
