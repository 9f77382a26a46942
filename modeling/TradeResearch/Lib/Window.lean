import Mathlib.Algebra.Order.Field.Basic
import Mathlib.Data.List.Basic
import Mathlib.Tactic.Linarith

/-!
# Times in windows

`Paced window cooldown most times` says of times admitted one after the other that each was admitted
when fewer than `most` of those before it were in the window that ends there, and none of these was
less than `cooldown` back. `Batched lock most full part bar` says of times that come in batches that
no time is let in behind a full batch until a lock has run out: the times `full` of the batches that
filled, the times `part` of the one that did not, and the end `bar` of the last lock.

* `Paced.count_le`: no window of that length, wherever it begins, holds more than `most` times.
* `Paced.spaced`: with a cooldown no longer than the window, any two times are that far apart.
* `Batched.snoc_part`, `Batched.snoc_full`: one more time is let in.
* `Batched.count_le`: no window as long as the lock holds more times than a batch.
* `Slid window most now kept times` says of a list of times that no window holds more than `most` of
  them, and of a second list that it agrees with it on what has not gone by at `now`.
* `Windowed.count_le`: of times counted anew in windows that do not overlap, no window of that
  length holds more than two counts.
-/

namespace TradeResearch

variable {K : Type} [Field K] [LinearOrder K] [IsStrictOrderedRing K]

def since (start : K) (times : List K) : List K := times.filter fun t => start ≤ t

def within (start window : K) (times : List K) : List K :=
  times.filter fun t => start ≤ t ∧ t ≤ start + window

inductive Paced (window cooldown : K) (most : ℕ) : List K → Prop
  | nil : Paced window cooldown most []
  | snoc {times : List K} {now : K} (earlier : Paced window cooldown most times)
      (room : (since (now - window) times).length < most)
      (cooled : ∀ t ∈ since (now - window) times, cooldown ≤ now - t) :
      Paced window cooldown most (times ++ [now])

namespace Paced

variable {window cooldown : K} {most : ℕ}

theorem within_length_le_since (times : List K) {start now : K}
    (inside : now ≤ start + window) :
    (within start window times).length ≤ (since (now - window) times).length := by
  have earlier : now - window ≤ start := by linarith
  have counted : (within start window times).Sublist (since (now - window) times) := by
    refine List.monotone_filter_right times fun t held => ?_
    have after : start ≤ t := (of_decide_eq_true held).1
    exact decide_eq_true (earlier.trans after)
  exact counted.length_le

theorem count_le (paced : Paced window cooldown most times) (start : K) :
    (within start window times).length ≤ most := by
  induction paced with
  | nil => exact Nat.zero_le most
  | @snoc times now earlier room cooled ih =>
    have split : within start window (times ++ [now]) =
        within start window times ++ within start window [now] := List.filter_append ..
    rw [split, List.length_append]
    by_cases inside : start ≤ now ∧ now ≤ start + window
    · have last : (within start window [now]).length ≤ 1 := List.length_filter_le _ [now]
      have counted := within_length_le_since times inside.2
      omega
    · have none : within start window [now] = [] := by
        unfold within
        rw [List.filter_cons_of_neg (by simpa using inside), List.filter_nil]
      rw [none, List.length_nil, Nat.add_zero]
      exact ih

theorem spaced (paced : Paced window cooldown most times) (shorter : cooldown ≤ window) :
    times.Pairwise fun t t' => cooldown ≤ t' - t := by
  induction paced with
  | nil => exact List.Pairwise.nil
  | @snoc times now earlier room cooled ih =>
    rw [List.pairwise_append]
    refine ⟨ih, List.pairwise_singleton _ _, fun t mem t' mem' => ?_⟩
    rw [List.mem_singleton.mp mem']
    by_cases recent : now - window ≤ t
    · exact cooled t (List.mem_filter.mpr ⟨mem, decide_eq_true recent⟩)
    · have gone : t < now - window := not_le.mp recent
      linarith

end Paced

end TradeResearch

namespace TradeResearch

variable {K : Type} [Field K] [LinearOrder K]

def during (start window : K) (times : List K) : List K :=
  times.filter fun t => start ≤ t ∧ t < start + window

theorem during_append (start window : K) (times times' : List K) :
    during start window (times ++ times') =
      during start window times ++ during start window times' :=
  List.filter_append ..

theorem during_length_le (start window : K) (times : List K) :
    (during start window times).length ≤ times.length :=
  List.length_filter_le _ times

theorem during_eq_nil {start window : K} {times : List K}
    (outside : ∀ t ∈ times, ¬ (start ≤ t ∧ t < start + window)) : during start window times = [] :=
  List.filter_eq_nil_iff.mpr fun t mem inside => outside t mem (of_decide_eq_true inside)

structure Batched (lock : K) (most : ℕ) (full part : List K) (bar : K) : Prop where
  room : part.length < most
  since : ∀ t ∈ part, bar ≤ t
  locked : ∀ t ∈ full, t ≤ bar - lock
  paced : ∀ start, (during start lock full).length ≤ most

namespace Batched

variable {lock bar now : K} {most : ℕ} {full part : List K}

theorem nil (some_ : 0 < most) (bar : K) : Batched lock most [] [] bar :=
  ⟨some_, List.forall_mem_nil _, List.forall_mem_nil _, fun _ => Nat.zero_le most⟩

theorem since_snoc (batched : Batched lock most full part bar) (after : bar ≤ now) :
    ∀ t ∈ part ++ [now], bar ≤ t :=
  List.forall_mem_append.mpr ⟨batched.since, List.forall_mem_singleton.mpr after⟩

theorem snoc_part (batched : Batched lock most full part bar) (after : bar ≤ now)
    (more : part.length + 1 < most) : Batched lock most full (part ++ [now]) bar where
  room := by
    rw [List.length_append]
    exact more
  since := batched.since_snoc after
  locked := batched.locked
  paced := batched.paced

variable [IsStrictOrderedRing K]

theorem length_during_le (batched : Batched lock most full part bar) {more : List K}
    (since : ∀ t ∈ more, bar ≤ t) (few : more.length ≤ most) (start : K) :
    (during start lock (full ++ more)).length ≤ most := by
  rw [during_append, List.length_append]
  by_cases early : start ≤ bar - lock
  · have none_ : during start lock more = [] := by
      refine during_eq_nil fun t mem inside => ?_
      have after := since t mem
      linarith [inside.2]
    rw [none_, List.length_nil, Nat.add_zero]
    exact batched.paced start
  · have none_ : during start lock full = [] := by
      refine during_eq_nil fun t mem inside => ?_
      exact early (inside.1.trans (batched.locked t mem))
    rw [none_, List.length_nil, Nat.zero_add]
    exact (during_length_le start lock more).trans few

theorem count_le (batched : Batched lock most full part bar) (start : K) :
    (during start lock (full ++ part)).length ≤ most :=
  batched.length_during_le batched.since batched.room.le start

theorem snoc_full (batched : Batched lock most full part bar) (positive : 0 ≤ lock)
    (after : bar ≤ now) (last : ∀ t ∈ part, t ≤ now) (fills : part.length + 1 = most) :
    Batched lock most (full ++ (part ++ [now])) [] (now + lock) where
  room := by
    rw [List.length_nil]
    omega
  since := List.forall_mem_nil _
  locked := by
    rw [add_sub_cancel_right]
    refine List.forall_mem_append.mpr ⟨fun t mem => ?_, List.forall_mem_append.mpr
      ⟨last, List.forall_mem_singleton.mpr le_rfl⟩⟩
    have early := batched.locked t mem
    linarith
  paced := by
    refine batched.length_during_le (batched.since_snoc after) ?_
    rw [List.length_append]
    exact fills.le

end Batched

structure Slid (window : K) (most : ℕ) (now : K) (kept times : List K) : Prop where
  past : ∀ t ∈ kept, t ≤ now
  agree : ∀ c, now - window ≤ c → kept.filter (c < ·) = times.filter (c < ·)
  bound : ∀ a, (during a window times).length ≤ most

namespace Slid

variable {window now later : K} {most : ℕ} {kept times : List K}

theorem nil (now : K) : Slid window most now [] [] :=
  ⟨List.forall_mem_nil _, fun _ _ => rfl, fun _ => Nat.zero_le most⟩

omit [Field K] in
theorem filter_filter {c d : K} (after : c ≤ d) :
    (times.filter (c < ·)).filter (d < ·) = times.filter (d < ·) := by
  rw [List.filter_filter]
  refine List.filter_congr fun t _ => ?_
  rw [← Bool.decide_and]
  exact decide_eq_decide.mpr ⟨And.left, fun inside => ⟨inside, after.trans_lt inside⟩⟩

variable [IsStrictOrderedRing K]

theorem prune (slid : Slid window most now kept times) (after : now ≤ later) :
    Slid window most later (kept.filter (later - window < ·)) times where
  past := fun t mem => (slid.past t (List.mem_of_mem_filter mem)).trans after
  agree := by
    intro c recent
    rw [filter_filter recent]
    exact slid.agree c ((sub_le_sub_right after window).trans recent)
  bound := slid.bound

theorem wait (slid : Slid window most now kept times) (after : now ≤ later) :
    Slid window most later kept times where
  past := fun t mem => (slid.past t mem).trans after
  agree := fun c recent => slid.agree c ((sub_le_sub_right after window).trans recent)
  bound := slid.bound

theorem snoc (slid : Slid window most now kept times)
    (room : (kept.filter (now - window < ·)).length < most) :
    Slid window most now (kept ++ [now]) (times ++ [now]) where
  past := List.forall_mem_append.mpr ⟨slid.past, List.forall_mem_singleton.mpr le_rfl⟩
  agree := by
    intro c recent
    rw [List.filter_append, List.filter_append, slid.agree c recent]
  bound := by
    intro a
    rw [during_append, List.length_append]
    by_cases inside : a ≤ now ∧ now < a + window
    · have counted : (during a window times).length ≤ (times.filter (now - window < ·)).length := by
        refine (List.monotone_filter_right _ fun t held => ?_).length_le
        have after := (of_decide_eq_true held).1
        exact decide_eq_true (by linarith [inside.2])
      rw [← slid.agree _ le_rfl] at counted
      have one := during_length_le a window [now]
      rw [List.length_singleton] at one
      omega
    · rw [during_eq_nil (List.forall_mem_singleton.mpr inside), List.length_nil, Nat.add_zero]
      exact slid.bound a

end Slid

structure Windowed (window : K) (most : ℕ) (old last part : List K) (start : K) : Prop where
  few : part.length ≤ most
  few_last : last.length ≤ most
  since : ∀ t ∈ part, start ≤ t
  before : ∀ t ∈ last, t ≤ start
  past : ∀ t ∈ old, t ≤ start - window
  paced : ∀ a, (during a window (old ++ last)).length ≤ 2 * most

namespace Windowed

variable {window start now : K} {most : ℕ} {old last part : List K}

theorem opened (some_ : 0 < most) (start : K) : Windowed window most [] [] [start] start where
  few := some_
  few_last := Nat.zero_le most
  since := List.forall_mem_singleton.mpr le_rfl
  before := List.forall_mem_nil _
  past := List.forall_mem_nil _
  paced := fun _ => Nat.zero_le _

theorem snoc (windowed : Windowed window most old last part start) (after : start ≤ now)
    (room : part.length < most) : Windowed window most old last (part ++ [now]) start where
  few := by
    rw [List.length_append]
    exact room
  few_last := windowed.few_last
  since := List.forall_mem_append.mpr
    ⟨windowed.since, List.forall_mem_singleton.mpr after⟩
  before := windowed.before
  past := windowed.past
  paced := windowed.paced

variable [IsStrictOrderedRing K]

theorem count_le (windowed : Windowed window most old last part start) (a : K) :
    (during a window (old ++ last ++ part)).length ≤ 2 * most := by
  rw [during_append, List.length_append]
  by_cases early : a ≤ start - window
  · have none_ : during a window part = [] := by
      refine during_eq_nil fun t mem inside => ?_
      have after := windowed.since t mem
      linarith [inside.2]
    rw [none_, List.length_nil, Nat.add_zero]
    exact windowed.paced a
  · have none_ : during a window old = [] := by
      refine during_eq_nil fun t mem inside => ?_
      exact early (inside.1.trans (windowed.past t mem))
    rw [during_append, none_, List.nil_append]
    have counted := (during_length_le a window last).trans windowed.few_last
    have counted' := (during_length_le a window part).trans windowed.few
    omega

theorem roll (windowed : Windowed window most old last part start) (positive : 0 < most)
    (nonneg : 0 ≤ window) (after : start + window ≤ now) (times : ∀ t ∈ part, t ≤ now) :
    Windowed window most (old ++ last) part [now] now where
  few := positive
  few_last := windowed.few
  since := List.forall_mem_singleton.mpr le_rfl
  before := times
  past := by
    refine List.forall_mem_append.mpr ⟨fun t mem => ?_, fun t mem => ?_⟩
    · linarith [windowed.past t mem]
    · linarith [windowed.before t mem]
  paced := windowed.count_le

end Windowed

end TradeResearch
