import Mathlib.Algebra.Order.Field.Rat
import Mathlib.Data.Rat.Floor
import TradeResearch.Lib.Marks
import TradeResearch.Lib.Run
import TradeResearch.Lib.Window

/-!
# Rate limiting

`backend/app/auth/ratelimit.py`. The limiter in memory keeps the times of the hits it allowed; the
one in Redis counts the hits under a name and lets the count expire, in commands of their own, so
that another process may come between, or the process may stop.

* `InMemory.Enforces` and `Redis.Enforces` are what each of them comes to in every state of a run.
* `enforced_along` is the result; `not_forall_sliding` is a burst around the end of a window.
-/

namespace TradeResearch.Auth

structure RateLimit where
  limit : ℕ
  windowSeconds : ℕ
  limit_pos : 0 < limit

structure Decision where
  allowed : Bool
  remaining : ℕ
  retryAfter : ℤ
  deriving DecidableEq

abbrev Pair := List Char × List Char

namespace InMemory

variable (limits : Pair → RateLimit)

structure State where
  now : ℚ
  hits : Pair → List ℚ
  allowed : Pair → List ℚ

inductive Event where
  | hit (at_ : ℚ) (pair : Pair)
  | reset (at_ : ℚ) (pair : Pair)

def entry (s : State) (pair : Pair) (now : ℚ) : List ℚ :=
  (s.hits pair).filter fun t => now - (limits pair).windowSeconds < t

def Admits (s : State) (pair : Pair) (now : ℚ) : Prop :=
  (entry limits s pair now).length < (limits pair).limit

def decision (entry : List ℚ) (limit : RateLimit) (now : ℚ) : Decision :=
  if limit.limit ≤ entry.length then
    ⟨false, 0, max 1 ⌊limit.windowSeconds - (now - entry.min?.getD now)⌋⟩
  else ⟨true, limit.limit - (entry.length + 1), 0⟩

def hit (s : State) (pair : Pair) (now : ℚ) : Decision × State :=
  let entry := entry limits s pair now
  let decision := decision entry (limits pair) now
  (decision,
    if decision.allowed then
      { now
        hits := Function.update s.hits pair (entry ++ [now])
        allowed := Function.update s.allowed pair (s.allowed pair ++ [now]) }
    else { s with now, hits := Function.update s.hits pair entry })

def step (s : State) : Event → Option State
  | .hit at_ pair => if s.now ≤ at_ then some (hit limits s pair at_).2 else none
  | .reset at_ pair =>
    if s.now ≤ at_ then
      some ⟨at_, Function.update s.hits pair [], Function.update s.allowed pair []⟩
    else none

def start (now : ℚ) : State := ⟨now, fun _ => [], fun _ => []⟩

structure Enforces (s : State) : Prop where
  bound : ∀ pair a,
    (during a ((limits pair).windowSeconds : ℚ) (s.allowed pair)).length ≤ (limits pair).limit
  free : ∀ pair now, s.now ≤ now → (∀ t ∈ s.allowed pair, t + (limits pair).windowSeconds ≤ now) →
    Admits limits s pair now

structure Fair : Prop where
  refused : ∀ s pair now later, (hit limits s pair now).1.allowed = false → now ≤ later →
    (Admits limits (hit limits s pair now).2 pair later ↔ Admits limits s pair later)
  apart : ∀ s pair other now later, other ≠ pair →
    (Admits limits (hit limits s pair now).2 other later ↔ Admits limits s other later)

variable {limits}

def Inv (limits : Pair → RateLimit) (s : State) : Prop :=
  ∀ pair, Slid ((limits pair).windowSeconds : ℚ) (limits pair).limit s.now (s.hits pair)
    (s.allowed pair)

theorem Inv.enforces {s : State} (inv : Inv limits s) : Enforces limits s where
  bound := fun pair => (inv pair).bound
  free := by
    intro pair now later gone
    have none_ : entry limits s pair now = [] := by
      refine ((inv pair).agree _ (sub_le_sub_right later _)).trans ?_
      refine List.filter_eq_nil_iff.mpr fun t mem inside => ?_
      have after := of_decide_eq_true inside
      linarith [gone t mem]
    unfold Admits
    rw [none_]
    exact (limits pair).limit_pos

theorem allowed_iff {s : State} {pair : Pair} {now : ℚ} :
    (hit limits s pair now).1.allowed = true ↔ Admits limits s pair now := by
  unfold hit decision Admits
  dsimp only
  split
  · next full => exact iff_of_false Bool.false_ne_true (not_lt.mpr full)
  · next room => exact iff_of_true rfl (not_le.mp room)

theorem hit_of_admits {s : State} {pair : Pair} {now : ℚ} (admits : Admits limits s pair now) :
    (hit limits s pair now).2 =
      { now
        hits := Function.update s.hits pair (entry limits s pair now ++ [now])
        allowed := Function.update s.allowed pair (s.allowed pair ++ [now]) } :=
  if_pos (allowed_iff.mpr admits)

theorem hit_of_not_admits {s : State} {pair : Pair} {now : ℚ}
    (refused : ¬ Admits limits s pair now) :
    (hit limits s pair now).2 =
      { s with now, hits := Function.update s.hits pair (entry limits s pair now) } :=
  if_neg fun allowed => refused (allowed_iff.mp allowed)

theorem hits_of_ne {s : State} {pair other : Pair} {now : ℚ} (ne : other ≠ pair) :
    (hit limits s pair now).2.hits other = s.hits other ∧
      (hit limits s pair now).2.allowed other = s.allowed other := by
  by_cases admits : Admits limits s pair now
  · rw [hit_of_admits admits]
    exact ⟨Function.update_of_ne ne .., Function.update_of_ne ne ..⟩
  · rw [hit_of_not_admits admits]
    exact ⟨Function.update_of_ne ne .., rfl⟩

theorem fair : Fair limits where
  refused := by
    intro s pair now later refused after
    have not_ : ¬ Admits limits s pair now := fun admits =>
      Bool.noConfusion (refused.symm.trans (allowed_iff.mpr admits))
    rw [hit_of_not_admits not_]
    unfold Admits entry
    dsimp only
    rw [Function.update_self, Slid.filter_filter (sub_le_sub_right after _)]
  apart := by
    intro s pair other now later ne
    unfold Admits entry
    rw [(hits_of_ne ne).1]

theorem Inv.hit {s : State} (inv : Inv limits s) {pair : Pair} {now : ℚ} (later : s.now ≤ now) :
    Inv limits (hit limits s pair now).2 := by
  have clock : (InMemory.hit limits s pair now).2.now = now := by
    unfold InMemory.hit
    dsimp only
    split <;> rfl
  intro other
  rw [clock]
  by_cases same : other = pair
  · subst same
    have pruned := (inv other).prune later
    by_cases admits : Admits limits s other now
    · rw [hit_of_admits admits]
      dsimp only
      rw [Function.update_self, Function.update_self]
      refine pruned.snoc ?_
      rw [Slid.filter_filter le_rfl]
      exact admits
    · rw [hit_of_not_admits admits]
      dsimp only
      rw [Function.update_self]
      exact pruned
  · rw [(hits_of_ne same).1, (hits_of_ne same).2]
    exact (inv other).wait later

theorem Inv.step {s t : State} {e : Event} (inv : Inv limits s) (taken : step limits s e = some t) :
    Inv limits t := by
  cases e with
  | hit at_ pair =>
    dsimp only [InMemory.step] at taken
    split at taken
    · next later =>
      cases taken
      exact inv.hit later
    · cases taken
  | reset at_ pair =>
    dsimp only [InMemory.step] at taken
    split at taken
    · next later =>
      cases taken
      intro other
      by_cases same : other = pair
      · subst same
        dsimp only
        rw [Function.update_self, Function.update_self]
        exact Slid.nil at_
      · dsimp only
        rw [Function.update_of_ne same, Function.update_of_ne same]
        exact (inv other).wait later
    · cases taken

theorem enforces_along (now : ℚ) (es : List Event) :
    Run.Along (step limits) (Enforces limits) (start now) es :=
  (Run.along_of_meets (P := Inv limits) (fun _ _ _ inv _ taken => inv.step taken)
    (fun _ => Slid.nil now) (Run.Meets.trivial _ es)).mono fun _ inv => inv.enforces

end InMemory

namespace Redis

variable (limits : List Char → RateLimit)

def name (keyPrefix : List Char) (pair : Pair) : List Char :=
  keyPrefix ++ ':' :: (pair.1 ++ ':' :: pair.2)

structure Counter where
  count : ℕ
  expiry : Option ℚ

inductive Stage where
  /-- `INCR` has answered 1, and `EXPIRE` is next. -/
  | expiring
  | timing
  | answered (decision : Decision)

structure Call where
  name : List Char
  count : ℕ
  stage : Stage
  running : Bool

structure Log where
  old : List ℚ
  last : List ℚ
  part : List ℚ
  start : ℚ

def Log.times (log : Log) : List ℚ := log.old ++ log.last ++ log.part

structure State where
  now : ℚ
  counters : List Char → Option Counter
  calls : List Call
  log : List Char → Log
  touched : List Char → ℚ

inductive Event where
  | incr (at_ : ℚ) (name : List Char)
  | expire (at_ : ℚ) (n : ℕ)
  | ttl (at_ : ℚ) (n : ℕ)
  | del (at_ : ℚ) (name : List Char)
  | stop (n : ℕ)

def Counter.Expired (c : Counter) (now : ℚ) : Prop := ∃ e ∈ c.expiry, e ≤ now

instance (c : Counter) (now : ℚ) : Decidable (c.Expired now) := by
  unfold Counter.Expired
  infer_instance

def State.live (s : State) (name : List Char) (now : ℚ) : Option Counter :=
  (s.counters name).filter fun c => !decide (c.Expired now)

def State.counted (s : State) (name : List Char) (now : ℚ) : ℕ :=
  (s.live name now).elim 0 Counter.count + 1

def Admits (s : State) (name : List Char) (now : ℚ) : Prop :=
  s.counted name now ≤ (limits name).limit

def decision (limit : RateLimit) (count : ℕ) (expiry : Option ℚ) (now : ℚ) : Decision :=
  let ttl : Option ℤ := expiry.map fun e => ⌊e - now + 1 / 2⌋
  let retry : ℤ := ((ttl.filter (0 < ·)).map (max 1)).getD limit.windowSeconds
  if limit.limit < count then ⟨false, 0, retry⟩ else ⟨true, limit.limit - count, 0⟩

def Log.roll (log : Log) (now : ℚ) : Log := ⟨log.old ++ log.last, log.part, [now], now⟩

def Log.add (log : Log) (now : ℚ) : Log := { log with part := log.part ++ [now] }

def incr (s : State) (name : List Char) (now : ℚ) : State :=
  let count := s.counted name now
  { now
    counters := Function.update s.counters name
      (some ⟨count, (s.live name now).bind Counter.expiry⟩)
    calls := s.calls ++ [⟨name, count, if count = 1 then .expiring else .timing, true⟩]
    log := Function.update s.log name
      (if (s.live name now).isNone then (s.log name).roll now
        else if (limits name).limit < count then s.log name else (s.log name).add now)
    touched := Function.update s.touched name now }

def expire (s : State) (name : List Char) (now : ℚ) : Option Counter :=
  match s.live name now with
  | some c => some { c with expiry := some (now + (limits name).windowSeconds) }
  | none => s.counters name

def step (s : State) : Event → Option State
  | .incr at_ name => if s.now ≤ at_ then some (incr limits s name at_) else none
  | .expire at_ n =>
    match s.calls[n]? with
    | some ⟨name, count, .expiring, true⟩ =>
      if s.now ≤ at_ then
        some { s with
          now := at_
          counters := Function.update s.counters name (expire limits s name at_)
          calls := s.calls.set n ⟨name, count, .timing, true⟩
          touched := Function.update s.touched name at_ }
      else none
    | _ => none
  | .ttl at_ n =>
    match s.calls[n]? with
    | some ⟨name, count, .timing, true⟩ =>
      if s.now ≤ at_ then
        some { s with
          now := at_
          calls := s.calls.set n ⟨name, count, .answered (decision (limits name) count
            ((s.live name at_).bind Counter.expiry) at_), true⟩ }
      else none
    | _ => none
  | .del at_ name =>
    if s.now ≤ at_ then
      some { s with
        now := at_
        counters := Function.update s.counters name none
        log := Function.update s.log name ⟨[], [], [], at_⟩ }
    else none
  | .stop n =>
    match s.calls[n]? with
    | some call => some { s with calls := s.calls.set n { call with running := false } }
    | none => none

def start (now : ℚ) : State := ⟨now, fun _ => none, [], fun _ => ⟨[], [], [], now⟩, fun _ => now⟩

def Pending (calls : List Call) (name : List Char) : Prop :=
  ∃ call ∈ calls, call.name = name ∧ call.stage = .expiring

structure Enforces (s : State) : Prop where
  window : ∀ name, (s.log name).part.length ≤ (limits name).limit
  bound : ∀ name a, (during a ((limits name).windowSeconds : ℚ) (s.log name).times).length ≤
    2 * (limits name).limit
  free : ∀ name now, ¬ Pending s.calls name →
    s.touched name + (limits name).windowSeconds ≤ now → Admits limits s name now

def Event.writes (s : State) : Event → Option (List Char)
  | .incr _ name | .del _ name => some name
  | .expire _ n => s.calls[n]?.map Call.name
  | .ttl .. | .stop _ => none

structure Fair : Prop where
  allowed : ∀ limit count expiry now,
    (decision limit count expiry now).allowed = true ↔ count ≤ limit.limit
  refused : ∀ s name now later, ¬ Admits limits s name now → now ≤ later →
    (Admits limits (incr limits s name now) name later ↔ Admits limits s name later)
  apart : ∀ s e t other, step limits s e = some t → e.writes s ≠ some other →
    t.counters other = s.counters other
  shared : ∀ keyPrefix pair other, name keyPrefix pair = name keyPrefix other → pair = other ∨
    (∃ more, other.1 = pair.1 ++ ':' :: more) ∨ ∃ more, pair.1 = other.1 ++ ':' :: more

variable {limits}

theorem shared_name {keyPrefix : List Char} {pair other : Pair}
    (same : name keyPrefix pair = name keyPrefix other) : pair = other ∨
      (∃ more, other.1 = pair.1 ++ ':' :: more) ∨ ∃ more, pair.1 = other.1 ++ ':' :: more := by
  have rest := (List.cons.inj (List.append_cancel_left same)).2
  rcases List.append_eq_append_iff.mp rest with ⟨w, is, tail⟩ | ⟨w, is, tail⟩
  · cases w with
    | nil =>
      rw [List.append_nil] at is
      exact .inl (Prod.ext is.symm (List.cons.inj tail).2)
    | cons c w =>
      rw [← (List.cons.inj tail).1] at is
      exact .inr (.inl ⟨w, is⟩)
  · cases w with
    | nil =>
      rw [List.append_nil] at is
      exact .inl (Prod.ext is (List.cons.inj tail).2.symm)
    | cons c w =>
      rw [← (List.cons.inj tail).1] at is
      exact .inr (.inr ⟨w, is⟩)

theorem live_eq_some {s : State} {name : List Char} {now : ℚ} {c : Counter} :
    s.live name now = some c ↔ s.counters name = some c ∧ ¬ c.Expired now := by
  unfold State.live
  rw [Option.filter_eq_some_iff, Bool.not_eq_true', decide_eq_false_iff_not]

theorem counted_of_expired {s : State} {name : List Char} {now : ℚ}
    (gone : ∀ c ∈ s.counters name, c.Expired now) : s.counted name now = 1 := by
  have none_ : s.live name now = none := by
    refine Option.eq_none_iff_forall_ne_some.mpr fun c live => ?_
    obtain ⟨is, not_⟩ := live_eq_some.mp live
    exact not_ (gone c is)
  unfold State.counted
  rw [none_]
  rfl

theorem counted_of_live {s : State} {name : List Char} {now : ℚ} {c : Counter}
    (is : s.counters name = some c) (live : ¬ c.Expired now) :
    s.counted name now = c.count + 1 := by
  unfold State.counted
  rw [live_eq_some.mpr ⟨is, live⟩]
  rfl

theorem refused {s : State} {name : List Char} {now later : ℚ}
    (not_ : ¬ Admits limits s name now) :
    Admits limits (incr limits s name now) name later ↔ Admits limits s name later := by
  have some_ : ∃ c, s.live name now = some c := by
    refine Option.ne_none_iff_exists'.mp fun none_ => not_ ?_
    unfold Admits State.counted
    rw [none_]
    exact (limits name).limit_pos
  obtain ⟨c, live⟩ := some_
  obtain ⟨is, fresh⟩ := live_eq_some.mp live
  have full : ¬ c.count + 1 ≤ (limits name).limit := by
    unfold Admits at not_
    rw [counted_of_live is fresh] at not_
    exact not_
  have after : (incr limits s name now).counters name = some ⟨c.count + 1, c.expiry⟩ := by
    unfold incr
    dsimp only
    rw [Function.update_self, counted_of_live is fresh, live]
    rfl
  unfold Admits
  by_cases gone : c.Expired later
  · rw [counted_of_expired fun d mem => (Option.some.inj (after.symm.trans mem)) ▸ gone,
      counted_of_expired fun d mem => (Option.some.inj (is.symm.trans mem)) ▸ gone]
  · rw [counted_of_live is gone, counted_of_live after gone]
    dsimp only
    omega

theorem Pending.set {calls : List Call} {name : List Char} {n : ℕ} {call new : Call}
    (pending : Pending calls name) (found : calls[n]? = some call)
    (still : call.name = name → call.stage = .expiring → new.name = name ∧ new.stage = .expiring) :
    Pending (calls.set n new) name := by
  obtain ⟨other, mem, same, stage⟩ := pending
  obtain ⟨m, at_⟩ := List.mem_iff_getElem?.mp mem
  by_cases here : n = m
  · subst here
    obtain rfl := Option.some.inj (found.symm.trans at_)
    have bound := (List.getElem?_eq_some_iff.mp found).1
    exact ⟨new, List.mem_set bound new, still same stage⟩
  · refine ⟨other, List.mem_iff_getElem?.mpr ⟨m, ?_⟩, same, stage⟩
    rw [List.getElem?_set_ne here]
    exact at_

structure Unchanged (s t : State) (name : List Char) : Prop where
  later : s.now ≤ t.now
  counter : t.counters name = s.counters name
  log : t.log name = s.log name
  touched : t.touched name = s.touched name
  pending : Pending s.calls name → Pending t.calls name

theorem step_unchanged {s t : State} {e : Event} {other : List Char}
    (taken : step limits s e = some t) (apart : e.writes s ≠ some other) : Unchanged s t other := by
  cases e with
  | incr at_ name =>
    have ne : other ≠ name := fun same => apart (congrArg some same.symm)
    dsimp only [step] at taken
    split at taken
    · next later =>
      cases taken
      refine ⟨later, Function.update_of_ne ne .., Function.update_of_ne ne ..,
        Function.update_of_ne ne .., ?_⟩
      rintro ⟨call, mem, pending⟩
      exact ⟨call, List.mem_append_left _ mem, pending⟩
    · cases taken
  | expire at_ n =>
    dsimp only [step] at taken
    split at taken
    · next name count found =>
      have ne : other ≠ name := by
        intro same
        refine apart ?_
        rw [same]
        dsimp only [Event.writes]
        rw [found]
        rfl
      split at taken
      · next later =>
        cases taken
        refine ⟨later, Function.update_of_ne ne .., rfl, Function.update_of_ne ne .., ?_⟩
        exact fun pending => pending.set found fun same => absurd same.symm ne
      · cases taken
    · cases taken
  | ttl at_ n =>
    dsimp only [step] at taken
    split at taken
    · next name count found =>
      split at taken
      · next later =>
        cases taken
        exact ⟨later, rfl, rfl, rfl, fun pending =>
          pending.set found fun _ stage => Stage.noConfusion stage⟩
      · cases taken
    · cases taken
  | del at_ name =>
    have ne : other ≠ name := fun same => apart (congrArg some same.symm)
    dsimp only [step] at taken
    split at taken
    · next later =>
      cases taken
      exact ⟨later, Function.update_of_ne ne .., Function.update_of_ne ne .., rfl, id⟩
    · cases taken
  | stop n =>
    dsimp only [step] at taken
    split at taken
    · next call found =>
      cases taken
      exact ⟨le_rfl, rfl, rfl, rfl, fun pending =>
        pending.set found fun same stage => ⟨same, stage⟩⟩
    · cases taken

theorem fair : Fair limits where
  allowed := by
    intro limit count expiry now
    unfold decision
    split
    · next over_ => exact iff_of_false Bool.false_ne_true (not_le.mpr over_)
    · next room => exact iff_of_true rfl (not_lt.mp room)
  refused := fun s name now later not_ _ => refused not_
  apart := fun s e t other taken apart => (step_unchanged taken apart).counter
  shared := fun keyPrefix pair other same => shared_name same

structure Counted (limit : RateLimit) (c : Counter) (log : Log) : Prop where
  windowed : Windowed (limit.windowSeconds : ℚ) limit.limit log.old log.last log.part log.start
  length : log.part.length = min c.count limit.limit
  lasts : ∀ e ∈ c.expiry, log.start + limit.windowSeconds ≤ e

structure Kept (limits : List Char → RateLimit) (s : State) (name : List Char) : Prop where
  fresh : s.counters name = none → (s.log name).times = []
  counted : ∀ c ∈ s.counters name, Counted (limits name) c (s.log name)
  due : ∀ c ∈ s.counters name, Pending s.calls name ∨
    ∃ e ∈ c.expiry, e ≤ s.touched name + (limits name).windowSeconds
  opened : (s.log name).start ≤ s.now
  past : ∀ t ∈ (s.log name).part, t ≤ s.now
  reached : s.touched name ≤ s.now

theorem Kept.unchanged {s t : State} {name : List Char} (kept : Kept limits s name)
    (same : Unchanged s t name) : Kept limits t name where
  fresh := by
    rw [same.counter, same.log]
    exact kept.fresh
  counted := by
    rw [same.counter, same.log]
    exact kept.counted
  due := by
    rw [same.counter, same.touched]
    exact fun c mem => (kept.due c mem).imp_left same.pending
  opened := by
    rw [same.log]
    exact kept.opened.trans same.later
  past := by
    rw [same.log]
    exact fun t mem => (kept.past t mem).trans same.later
  reached := by
    rw [same.touched]
    exact kept.reached.trans same.later

theorem Kept.enforces {s : State} (inv : ∀ name, Kept limits s name) : Enforces limits s := by
  have empty : ∀ name, s.counters name = none → (s.log name).times = [] ∧ (s.log name).part = [] :=
    fun name none_ =>
      ⟨(inv name).fresh none_, (List.append_eq_nil_iff.mp ((inv name).fresh none_)).2⟩
  refine ⟨fun name => ?_, fun name a => ?_, fun name now not_ over_ => ?_⟩
  · cases is : s.counters name with
    | none =>
      rw [(empty name is).2]
      exact Nat.zero_le _
    | some c => exact ((inv name).counted c is).windowed.few
  · cases is : s.counters name with
    | none =>
      rw [(empty name is).1]
      exact Nat.zero_le _
    | some c => exact ((inv name).counted c is).windowed.count_le a
  · have gone : ∀ c ∈ s.counters name, c.Expired now := by
      intro c mem
      obtain ⟨e, has, early⟩ := ((inv name).due c mem).resolve_left not_
      exact ⟨e, has, early.trans over_⟩
    unfold Admits
    rw [counted_of_expired gone]
    exact (limits name).limit_pos

theorem Kept.incr {s : State} {name : List Char} {now : ℚ} (kept : Kept limits s name)
    (later : s.now ≤ now) : Kept limits (incr limits s name now) name := by
  unfold Redis.incr
  cases live : s.live name now with
  | none =>
    have one : s.counted name now = 1 := by
      unfold State.counted
      rw [live]
      rfl
    have positive : (0 : ℚ) ≤ (limits name).windowSeconds := Nat.cast_nonneg _
    have windowed : Windowed ((limits name).windowSeconds : ℚ) (limits name).limit
        ((s.log name).old ++ (s.log name).last) (s.log name).part [now] now := by
      cases is : s.counters name with
      | none =>
        obtain ⟨front, part⟩ := List.append_eq_nil_iff.mp (kept.fresh is)
        rw [front, part]
        exact Windowed.opened (limits name).limit_pos now
      | some c =>
        obtain ⟨e, has, early⟩ : c.Expired now := by
          by_contra fresh
          exact Option.some_ne_none c ((live_eq_some.mpr ⟨is, fresh⟩).symm.trans live)
        have counted := kept.counted c is
        refine counted.windowed.roll (limits name).limit_pos positive
          ((counted.lasts e has).trans early) fun t mem => (kept.past t mem).trans later
    rw [one]
    refine ⟨?_, ?_, ?_, ?_, ?_, ?_⟩ <;> dsimp only <;> simp only [Function.update_self]
    · exact fun none_ => absurd none_ (Option.some_ne_none _)
    · intro c mem
      cases mem
      refine ⟨windowed, ?_, fun e has => (nomatch has)⟩
      exact (min_eq_left (limits name).limit_pos).symm
    · intro c mem
      exact .inl ⟨_, List.mem_append_right _ (List.mem_singleton_self _), rfl, rfl⟩
    · exact le_rfl
    · exact List.forall_mem_singleton.mpr le_rfl
    · exact le_rfl
  | some d =>
    obtain ⟨is, fresh⟩ := live_eq_some.mp live
    have counted := kept.counted d is
    have after : (s.log name).start ≤ now := kept.opened.trans later
    rw [counted_of_live is fresh]
    refine ⟨?_, ?_, ?_, ?_, ?_, ?_⟩ <;> dsimp only <;> simp only [Function.update_self]
    · exact fun none_ => absurd none_ (Option.some_ne_none _)
    · intro c mem
      cases mem
      by_cases over_ : (limits name).limit < d.count + 1
      · rw [Option.isNone_some, if_neg Bool.false_ne_true, if_pos over_]
        refine ⟨counted.windowed, ?_, counted.lasts⟩
        rw [counted.length]
        dsimp only
        omega
      · rw [Option.isNone_some, if_neg Bool.false_ne_true, if_neg over_]
        have room : (s.log name).part.length < (limits name).limit := by
          rw [counted.length]
          omega
        refine ⟨counted.windowed.snoc after room, ?_, counted.lasts⟩
        unfold Log.add
        dsimp only
        rw [List.length_append, counted.length, List.length_singleton]
        omega
    · intro c mem
      cases mem
      refine (kept.due d is).imp ?_ ?_
      · rintro ⟨call, mem, pending⟩
        exact ⟨call, List.mem_append_left _ mem, pending⟩
      · rintro ⟨e, has, early⟩
        exact ⟨e, has, early.trans (add_le_add_left (kept.reached.trans later) _)⟩
    · rw [Option.isNone_some, if_neg Bool.false_ne_true]
      split
      · exact after
      · exact after
    · rw [Option.isNone_some, if_neg Bool.false_ne_true]
      split
      · exact fun t mem => (kept.past t mem).trans later
      · exact List.forall_mem_append.mpr ⟨fun t mem => (kept.past t mem).trans later,
          List.forall_mem_singleton.mpr le_rfl⟩
    · exact le_rfl

theorem Kept.expire {s : State} {name : List Char} {now : ℚ} {calls : List Call}
    (kept : Kept limits s name) (later : s.now ≤ now) :
    Kept limits
      { s with
        now
        counters := Function.update s.counters name (expire limits s name now)
        calls
        touched := Function.update s.touched name now } name := by
  have positive : (0 : ℚ) ≤ (limits name).windowSeconds := Nat.cast_nonneg _
  have shape : (s.counters name = none ∧ Redis.expire limits s name now = none) ∨
      ∃ c e, s.counters name = some c ∧ (s.log name).start + (limits name).windowSeconds ≤ e ∧
        e ≤ now + (limits name).windowSeconds ∧
        Redis.expire limits s name now = some { c with expiry := some e } := by
    unfold Redis.expire
    cases live : s.live name now with
    | some c =>
      obtain ⟨is, -⟩ := live_eq_some.mp live
      exact .inr ⟨c, _, is, add_le_add_left (kept.opened.trans later) _, le_rfl, rfl⟩
    | none =>
      cases is : s.counters name with
      | none => exact .inl ⟨rfl, rfl⟩
      | some c =>
        obtain ⟨e, has, early⟩ : c.Expired now := by
          by_contra fresh
          exact Option.some_ne_none c ((live_eq_some.mpr ⟨is, fresh⟩).symm.trans live)
        refine .inr ⟨c, e, rfl, (kept.counted c is).lasts e has, by linarith, ?_⟩
        obtain ⟨count, expiry⟩ := c
        cases has
        rfl
  refine ⟨?_, ?_, ?_, kept.opened.trans later, fun t mem => (kept.past t mem).trans later, ?_⟩ <;>
    dsimp only <;> simp only [Function.update_self]
  · rcases shape with ⟨none_, -⟩ | ⟨c, e, -, -, -, some_⟩
    · exact fun _ => kept.fresh none_
    · rw [some_]
      exact fun absurd_ => absurd absurd_ (Option.some_ne_none _)
  · rcases shape with ⟨-, none_⟩ | ⟨c, e, is, lasts, -, some_⟩
    · rw [none_]
      exact fun c mem => (nomatch mem)
    · rw [some_]
      intro d mem
      cases mem
      have counted := kept.counted c is
      refine ⟨counted.windowed, counted.length, fun f has => ?_⟩
      cases has
      exact lasts
  · rcases shape with ⟨-, none_⟩ | ⟨c, e, -, -, early, some_⟩
    · rw [none_]
      exact fun c mem => (nomatch mem)
    · rw [some_]
      intro d mem
      cases mem
      exact .inr ⟨e, rfl, early⟩
  · exact le_rfl

theorem Kept.step {s t : State} {e : Event} (inv : ∀ name, Kept limits s name)
    (taken : step limits s e = some t) : ∀ name, Kept limits t name := by
  intro name
  by_cases apart : e.writes s = some name
  · cases e with
    | incr at_ other =>
      obtain rfl := Option.some.inj apart
      dsimp only [Redis.step] at taken
      split at taken
      · next later =>
        cases taken
        exact (inv other).incr later
      · cases taken
    | expire at_ n =>
      dsimp only [Redis.step] at taken
      split at taken
      · next other count found =>
        dsimp only [Event.writes] at apart
        rw [found] at apart
        obtain rfl := Option.some.inj apart
        split at taken
        · next later =>
          cases taken
          exact (inv _).expire later
        · cases taken
      · cases taken
    | del at_ other =>
      obtain rfl := Option.some.inj apart
      dsimp only [Redis.step] at taken
      split at taken
      · next later =>
        cases taken
        refine ⟨?_, ?_, ?_, ?_, ?_, (inv other).reached.trans later⟩ <;> dsimp only <;>
          simp only [Function.update_self]
        · exact fun _ => rfl
        · exact fun c mem => (nomatch mem)
        · exact fun c mem => (nomatch mem)
        · exact le_rfl
        · exact List.forall_mem_nil _
      · cases taken
    | ttl at_ n => cases apart
    | stop n => cases apart
  · exact (inv name).unchanged (step_unchanged taken apart)

theorem enforces_along (now : ℚ) (es : List Event) :
    Run.Along (step limits) (Enforces limits) (start now) es := by
  have first : ∀ name, Kept limits (start now) name := fun name =>
    ⟨fun _ => rfl, fun _ mem => (nomatch mem), fun _ mem => (nomatch mem), le_rfl,
      List.forall_mem_nil _, le_rfl⟩
  exact (Run.along_of_meets (P := fun s => ∀ name, Kept limits s name)
    (fun _ _ _ inv _ taken => Kept.step inv taken) first (Run.Meets.trivial _ es)).mono
    fun _ inv => Kept.enforces inv

end Redis

/-- In memory no window of the pair's length holds more hits than its limit; in Redis each window
that a first hit opens holds no more, and so no window of that length more than twice as many. -/
theorem enforced_along (limits : Pair → RateLimit) (limits' : List Char → RateLimit) :
    (InMemory.Fair limits ∧ ∀ now es,
      Run.Along (InMemory.step limits) (InMemory.Enforces limits) (InMemory.start now) es) ∧
    Redis.Fair limits' ∧ ∀ now es,
      Run.Along (Redis.step limits') (Redis.Enforces limits') (Redis.start now) es :=
  ⟨⟨InMemory.fair, InMemory.enforces_along⟩, Redis.fair, Redis.enforces_along⟩

/-- Two hits each minute: one at the end of a minute and two in the next. -/
theorem not_forall_sliding :
    ¬ ∀ (limits : List Char → RateLimit) (now : ℚ) (es : List Redis.Event) (s : Redis.State),
      Run.exec (Redis.step limits) (Redis.start now) es = some s → ∀ name a,
      (during a ((limits name).windowSeconds : ℚ) (s.log name).times).length ≤
        (limits name).limit := by
  intro all
  have reached : (Run.exec (Redis.step fun _ => ⟨2, 60, by decide⟩) (Redis.start 0)
      [.incr 0 [], .expire 0 0, .incr 59 [], .incr 60 [], .expire 60 2, .incr 61 []]).isSome := by
    decide +kernel
  have three := all _ 0 _ _ (Option.some_get reached).symm [] 59
  revert reached
  decide +kernel

end TradeResearch.Auth
