import Mathlib.Data.Finset.Card
import TradeResearch.Brokers.Base
import TradeResearch.Lib.Run

/-!
# Reading what the venue lists

`_venue_spec` of `backend/app/oms/service.py`: the contract terms of a symbol, from a snapshot of
everything the venue lists that is kept for a while. A symbol the snapshot does not have is read for
again, once, and `_missing` remembers that it was.

* `SpecReads` is a run of the submits, with what they asked for and the calls that were made.
* `bounded_of_steady`: in one window, no more than one call, and one for each symbol that was
  absent.
* `not_bounded_alternating`: two missing symbols take each other's place in `_missing`.
-/

namespace TradeResearch.Oms

open Brokers

structure SpecCache where
  specs : String → Option SymbolInfo
  readAt : Option Time
  missing : Finset String

def listed (rows : List SymbolInfo) (symbol : String) : Option SymbolInfo :=
  rows.reverse.find? fun r => r.symbol = symbol

namespace SpecCache

def fresh : SpecCache := { specs := fun _ => none, readAt := none, missing := ∅ }

def expired (c : SpecCache) (window : ℚ) (now : Time) : Bool :=
  c.readAt.all fun t => decide (window ≤ now - t)

def stale (c : SpecCache) (window : ℚ) (symbol : String) (now : Time) : Bool :=
  c.expired window now || ((c.specs symbol).isNone && decide (symbol ∉ c.missing))

def look (c : SpecCache) (symbol : String) : Option SymbolInfo × SpecCache :=
  (c.specs symbol,
    if (c.specs symbol).isNone then { c with missing := insert symbol c.missing } else c)

def venueSpec (c : SpecCache) (window : ℚ) (symbol : String) (now : Time)
    (read : Answer (List SymbolInfo)) : Answer (Option SymbolInfo) × SpecCache :=
  if c.stale window symbol now then
    match read with
    | .error e => (.error e, c)
    | .ok rows =>
      ({ specs := listed rows, readAt := some now, missing := ∅ : SpecCache }.look symbol).map
        .ok id
  else (c.look symbol).map .ok id

@[simp] theorem look_specs (c : SpecCache) (symbol : String) :
    (c.look symbol).2.specs = c.specs := by
  unfold look
  split <;> rfl

@[simp] theorem look_readAt (c : SpecCache) (symbol : String) :
    (c.look symbol).2.readAt = c.readAt := by
  unfold look
  split <;> rfl

end SpecCache

structure Ask where
  symbol : String
  now : Time
  read : Answer (List SymbolInfo)

structure SpecReads where
  cache : SpecCache
  /-- The calls of `get_symbols`. -/
  calls : ℕ := 0
  /-- The symbols that were asked for. -/
  asked : Finset String := ∅
  /-- Those the snapshot did not have when they were first asked for. -/
  absent : Finset String := ∅
  /-- The snapshots that were read, with their times. -/
  snapshots : List (Time × List SymbolInfo) := []
  /-- The last submit, and what it was told. -/
  told : Option (Ask × Answer (Option SymbolInfo)) := none

namespace SpecReads

variable {window start : ℚ} {s t : SpecReads}

def step (window : ℚ) (s : SpecReads) (a : Ask) : Option SpecReads :=
  let reads := s.cache.stale window a.symbol a.now
  let out := s.cache.venueSpec window a.symbol a.now a.read
  some
    { cache := out.2
      calls := if reads then s.calls + 1 else s.calls
      asked := insert a.symbol s.asked
      absent :=
        if a.symbol ∉ s.asked ∧ (s.cache.specs a.symbol).isNone then insert a.symbol s.absent
        else s.absent
      snapshots :=
        match reads, a.read with
        | true, .ok rows => (a.now, rows) :: s.snapshots
        | _, _ => s.snapshots
      told := some (a, out.1) }

def opened (s : SpecReads) : SpecReads := { cache := s.cache, snapshots := s.snapshots }

def fresh : SpecReads := { cache := .fresh }

def Inside (start window : ℚ) (a : Ask) : Prop := start ≤ a.now ∧ a.now < start + window

def Answered (window : ℚ) (s : SpecReads) : Prop :=
  ∀ a, s.told = some (a, .ok none) → ∃ snapshot ∈ s.snapshots,
    (∀ r ∈ snapshot.2, r.symbol ≠ a.symbol) ∧ a.now - snapshot.1 ≤ window

structure Bounded (window : ℚ) (s : SpecReads) : Prop where
  calls : s.calls ≤ 1 + s.absent.card
  answered : s.Answered window

def Steady (window : ℚ) (s : SpecReads) (a : Ask) : Prop :=
  s.cache.stale window a.symbol a.now = true →
    a.read.toOption.isSome = true ∧
      (s.cache.expired window a.now = true ∨ a.symbol ∉ s.asked)

theorem listed_eq_none {rows : List SymbolInfo} {symbol : String} :
    listed rows symbol = none ↔ ∀ r ∈ rows, r.symbol ≠ symbol := by
  unfold listed
  rw [List.find?_eq_none]
  simp only [List.mem_reverse, decide_eq_true_eq]

inductive StepCase (window : ℚ) (s : SpecReads) (a : Ask) (t : SpecReads) : Prop
  | kept (clear : s.cache.stale window a.symbol a.now = false)
      (specs : t.cache.specs = s.cache.specs) (readAt : t.cache.readAt = s.cache.readAt)
      (calls : t.calls = s.calls) (snapshots : t.snapshots = s.snapshots)
      (told : t.told = some (a, .ok (s.cache.specs a.symbol)))
  | failed (e : Exn) (stale : s.cache.stale window a.symbol a.now = true)
      (raised : a.read = .error e) (cache : t.cache = s.cache) (calls : t.calls = s.calls + 1)
      (snapshots : t.snapshots = s.snapshots) (told : t.told = some (a, .error e))
  | read (rows : List SymbolInfo) (stale : s.cache.stale window a.symbol a.now = true)
      (answered : a.read = .ok rows) (specs : t.cache.specs = listed rows)
      (readAt : t.cache.readAt = some a.now) (calls : t.calls = s.calls + 1)
      (snapshots : t.snapshots = (a.now, rows) :: s.snapshots)
      (told : t.told = some (a, .ok (listed rows a.symbol)))

theorem step_cases (stepped : s.step window a = some t) : StepCase window s a t := by
  cases stepped
  cases here : s.cache.stale window a.symbol a.now with
  | false =>
    refine .kept here ?_ ?_ ?_ ?_ ?_ <;> simp [SpecCache.venueSpec, here]
    rfl
  | true =>
    cases answer : a.read with
    | error e => refine .failed e here answer ?_ ?_ ?_ ?_ <;> simp [SpecCache.venueSpec, here]
    | ok rows =>
      refine .read rows here answer ?_ ?_ ?_ ?_ ?_ <;> simp [SpecCache.venueSpec, here]
      rfl

theorem asked_of_step (stepped : s.step window a = some t) : t.asked = insert a.symbol s.asked := by
  cases stepped
  rfl

theorem absent_of_step (stepped : s.step window a = some t) :
    t.absent = if a.symbol ∉ s.asked ∧ (s.cache.specs a.symbol).isNone then
      insert a.symbol s.absent else s.absent := by
  cases stepped
  rfl

def Held (s : SpecReads) : Prop :=
  ∀ at', s.cache.readAt = some at' →
    ∃ snapshot ∈ s.snapshots, snapshot.1 = at' ∧ s.cache.specs = listed snapshot.2

theorem held_step (held : s.Held) (stepped : s.step window a = some t) : t.Held := by
  intro at' dated
  cases step_cases stepped with
  | kept _ specs readAt _ snapshots _ =>
    rw [specs, snapshots]
    exact held at' (readAt ▸ dated)
  | failed _ _ _ cache _ snapshots _ =>
    rw [cache, snapshots]
    exact held at' (cache ▸ dated)
  | read rows _ _ specs readAt _ snapshots _ =>
    rw [snapshots]
    exact ⟨_, List.mem_cons_self, Option.some.inj (readAt.symm.trans dated), specs⟩

theorem held_of_run {asks : List Ask} (run : Run.exec (step window) fresh asks = some s) :
    s.Held := by
  refine Run.invariant_all (fun _ _ _ held stepped => held_step held stepped) ?_ run
  intro at' dated
  cases dated

theorem young_of_not_stale {c : SpecCache} {symbol : String} {now : Time}
    (clear : c.stale window symbol now = false) :
    ∃ at', c.readAt = some at' ∧ now - at' < window := by
  unfold SpecCache.stale SpecCache.expired at clear
  cases dated : c.readAt with
  | none =>
    rw [dated] at clear
    cases clear
  | some at' =>
    rw [dated] at clear
    have young := (Bool.or_eq_false_iff.mp clear).1
    exact ⟨at', rfl, not_le.mp (of_decide_eq_false young)⟩

theorem answered_step (held : s.Held) (positive : 0 < window)
    (stepped : s.step window a = some t) : t.Answered window := by
  intro a' denied
  cases step_cases stepped with
  | kept clear _ _ _ snapshots told =>
    obtain ⟨rfl, unlisted⟩ : a = a' ∧ s.cache.specs a.symbol = none := by
      simpa using told.symm.trans denied
    obtain ⟨at', dated, young⟩ := young_of_not_stale clear
    obtain ⟨snapshot, mem, rfl, is⟩ := held at' dated
    rw [is] at unlisted
    rw [snapshots]
    exact ⟨snapshot, mem, listed_eq_none.mp unlisted, young.le⟩
  | failed e _ _ _ _ _ told => cases told.symm.trans denied
  | read rows _ _ _ _ _ snapshots told =>
    obtain ⟨rfl, unlisted⟩ : a = a' ∧ listed rows a.symbol = none := by
      simpa using told.symm.trans denied
    rw [snapshots]
    refine ⟨_, List.mem_cons_self, listed_eq_none.mp unlisted, ?_⟩
    rw [sub_self]
    exact positive.le

structure Counted (start : ℚ) (s : SpecReads) : Prop where
  asked : s.absent ⊆ s.asked
  calls : s.calls ≤ s.absent.card ∨
    s.calls ≤ s.absent.card + 1 ∧ ∃ at', s.cache.readAt = some at' ∧ start ≤ at'

theorem absent_le_of_step (stepped : s.step window a = some t) : s.absent ⊆ t.absent := by
  rw [absent_of_step stepped]
  split
  · exact Finset.subset_insert _ _
  · exact Finset.Subset.refl _

theorem not_expired {c : SpecCache} {at' : Time} (dated : c.readAt = some at')
    (young : start ≤ at') (inside : Inside start window a) : c.expired window a.now = false := by
  unfold SpecCache.expired
  rw [dated]
  refine decide_eq_false (not_le.mpr ?_)
  linarith [inside.2]

theorem counted_step (counted : s.Counted start) (inside : Inside start window a)
    (steady : s.Steady window a) (stepped : s.step window a = some t) : t.Counted start := by
  have grown : s.absent.card ≤ t.absent.card := Finset.card_le_card (absent_le_of_step stepped)
  constructor
  · rw [absent_of_step stepped, asked_of_step stepped]
    split
    · exact Finset.insert_subset_insert _ counted.asked
    · exact counted.asked.trans (Finset.subset_insert _ _)
  cases step_cases stepped with
  | kept _ _ readAt calls _ _ =>
    rw [calls, readAt]
    exact counted.calls.imp (fun few => few.trans grown)
      fun ⟨few, recent⟩ => ⟨few.trans (Nat.add_le_add_right grown 1), recent⟩
  | failed e stale raised _ _ _ _ =>
    have answered := (steady stale).1
    rw [raised] at answered
    cases answered
  | read rows stale _ _ readAt calls _ _ =>
    refine Or.inr ⟨?_, a.now, readAt, inside.1⟩
    rw [calls]
    cases out : s.cache.expired window a.now with
    | true =>
      -- the call every window has: the snapshot was not of this one
      rcases counted.calls with few | ⟨few, at', dated, young⟩
      · exact Nat.succ_le_succ (few.trans grown)
      · rw [not_expired dated young inside] at out
        cases out
    | false =>
      -- the call for a symbol that is absent, and now counted as such
      have new : a.symbol ∉ s.asked := by
        rcases (steady stale).2 with expired | new
        · rw [out] at expired
          cases expired
        · exact new
      have lacks : (s.cache.specs a.symbol).isNone = true := by
        unfold SpecCache.stale at stale
        rw [out, Bool.false_or] at stale
        exact (Bool.and_eq_true_iff.mp stale).1
      have more : t.absent.card = s.absent.card + 1 := by
        rw [absent_of_step stepped, if_pos ⟨new, lacks⟩]
        exact Finset.card_insert_of_notMem fun mem => new (counted.asked mem)
      rw [more]
      rcases counted.calls with few | ⟨few, -⟩
      · exact (Nat.succ_le_succ few).trans (Nat.le_succ _)
      · exact Nat.succ_le_succ few

/-- In one window, of a manager in any state it comes to: where each submit is steady, there is no
more than one call, and one for each symbol that was absent when it was first asked for; and what is
said not to be listed is not in a snapshot that is no older than the window. -/
theorem bounded_of_steady {past asks : List Ask}
    (reached : Run.exec (step window) fresh past = some s)
    (meets : Run.Meets (step window) (fun s a => Inside start window a ∧ s.Steady window a)
      s.opened asks) :
    Run.Along (step window) (Bounded window) s.opened asks := by
  have held : s.opened.Held := fun at' dated => held_of_run reached at' dated
  have counted : s.opened.Counted start := ⟨Finset.Subset.refl _, Or.inl le_rfl⟩
  have quiet : s.opened.Answered window := by
    intro a denied
    cases denied
  refine Run.Along.mono (P := fun s => s.Held ∧ s.Counted start ∧ s.Answered window) ?_
    (Run.along_of_meets ?_ ⟨held, counted, quiet⟩ meets)
  · rintro s ⟨-, counted, answered⟩
    refine ⟨?_, answered⟩
    rw [add_comm]
    exact counted.calls.elim (fun few => few.trans (Nat.le_succ _)) And.left
  · rintro s a t ⟨held, counted, -⟩ ⟨inside, steady⟩ stepped
    have positive : 0 < window := by linarith [inside.1, inside.2]
    exact ⟨held_step held stepped, counted_step counted inside steady stepped,
      answered_step held positive stepped⟩

def ask (symbol : String) (now : Time) : Ask :=
  { symbol, now, read := .ok [⟨"EURUSD", none, none, none⟩] }

instance (start window : ℚ) (a : Ask) : Decidable (Inside start window a) :=
  inferInstanceAs (Decidable (_ ∧ _))

instance (window : ℚ) (s : SpecReads) (a : Ask) : Decidable (s.Steady window a) :=
  inferInstanceAs (Decidable (_ → _))

/-- A symbol the venue lists and one it does not, asked for over and over. -/
theorem bounded_steady : Run.Along (step 300) (Bounded 300) fresh.opened
    [ask "EURUSD" 0, ask "XAUUSD" 1, ask "XAUUSD" 2, ask "EURUSD" 3, ask "XAUUSD" 4] :=
  @bounded_of_steady 300 0 fresh [] _ rfl (by decide +kernel)

def alternating : List Ask := [ask "XAUUSD" 0, ask "XAGUSD" 1, ask "XAUUSD" 2, ask "XAGUSD" 3]

/-- Each of them has the other forgotten, and is read for every time. -/
theorem not_bounded_alternating : (∀ a ∈ alternating, Inside 0 300 a) ∧
    ¬ Run.Along (step 300) (Bounded 300) fresh.opened alternating := by
  refine ⟨by decide +kernel, fun bounded => ?_⟩
  have made : (Run.exec (step 300) fresh.opened alternating).map
      (fun s => (s.calls, s.absent.card)) = some (4, 2) := by
    decide +kernel
  obtain ⟨s, run, counts⟩ := Option.map_eq_some_iff.mp made
  have calls := (bounded.last run).calls
  rw [(Prod.mk.inj counts).1, (Prod.mk.inj counts).2] at calls
  exact absurd calls (by decide)

end SpecReads

end TradeResearch.Oms
