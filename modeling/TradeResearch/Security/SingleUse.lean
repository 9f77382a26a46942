import Mathlib.Data.Set.Function
import Mathlib.Tactic.Choose
import Mathlib.Tactic.NormNum
import TradeResearch.Lib.Window
import TradeResearch.Security.StepUp

/-!
# Confirmations are single use, and counted

Runs of a registry of step-up grants: calls at times that never go back, from a registry that holds
nothing.

* `held_of_run`: each grant that is held was issued, and its key not consumed since.
* `batched_of_run`: the checks under a key come in batches of five, with a lock behind each.
* `single_use_and_counted`: what is spent was issued for it, once, and at most five checks are
  answered in a window.
-/

namespace TradeResearch.Security

structure Event where
  at_ : Time
  call : Call
  answer : Answer

structure World where
  registry : StepUp
  history : List Event

namespace World

def take (w : World) (timed : Time × Call) : World where
  registry := (w.registry.step timed.1 timed.2).2
  history := w.history ++ [⟨timed.1, timed.2, (w.registry.step timed.1 timed.2).1⟩]

def fresh (ttl : ℚ) : World := ⟨{ ttl }, []⟩

def run (ttl : ℚ) (calls : List (Time × Call)) : World := calls.foldl take (fresh ttl)

theorem run_append_singleton : run ttl (calls ++ [timed]) = (run ttl calls).take timed :=
  List.foldl_concat ..

theorem ttl_run : (run ttl calls).registry.ttl = ttl := by
  induction calls using List.reverseRecOn with
  | nil => rfl
  | append_singleton calls timed ih =>
    rw [run_append_singleton]
    exact (StepUp.ttl_step _).trans ih

theorem map_history :
    (run ttl calls).history.map (fun e => (e.at_, e.call)) = calls := by
  induction calls using List.reverseRecOn with
  | nil => rfl
  | append_singleton calls timed ih =>
    rw [run_append_singleton, take, List.map_append, ih]
    rfl

end World

structure Timeline where
  calls : List (Time × Call)
  ordered : calls.Pairwise fun a b => a.1 ≤ b.1

theorem getElem?_snoc_iff {α : Type} {xs : List α} {x a : α} {i : ℕ} :
    (xs ++ [x])[i]? = some a ↔ xs[i]? = some a ∨ i = xs.length ∧ x = a := by
  rcases lt_trichotomy i xs.length with before | rfl | past
  · rw [List.getElem?_append_left before]
    exact ⟨.inl, fun either => either.resolve_right fun last => before.ne last.1⟩
  · rw [List.getElem?_concat_length, Option.some_inj]
    have none_ : xs[xs.length]? ≠ some a := by
      rw [List.getElem?_eq_none le_rfl]
      exact nofun
    exact ⟨fun same => .inr ⟨rfl, same⟩, fun either => (either.resolve_left none_).2⟩
  · rw [List.getElem?_eq_none (by rw [List.length_append, List.length_singleton]; omega),
      List.getElem?_eq_none past.le]
    exact ⟨nofun, fun either => either.elim nofun fun last => absurd last.1 past.ne'⟩

structure Issued (ttl : ℚ) (history : List Event) (session : String) (scope : StepUpScope)
    (subject : String) (expiresAt : Time) (i j : ℕ) : Prop where
  issue : ∃ e, history[i]? = some e ∧ e.call = .grant session scope subject true ∧
    e.answer = .granted { session, scope, subject, expiresAt } ∧ expiresAt = e.at_ + ttl
  before : i < j
  unspent : ∀ l e, i < l → l < j → history[l]? = some e → e.call ≠ .consume session scope subject

theorem Issued.snoc {ttl : ℚ} {history : List Event} {session subject : String}
    {scope : StepUpScope} {expiresAt : Time} {i j : ℕ} {e : Event}
    (issued : Issued ttl history session scope subject expiresAt i j)
    (inside : j ≤ history.length) :
    Issued ttl (history ++ [e]) session scope subject expiresAt i j where
  issue := issued.issue.imp fun _ is => ⟨getElem?_snoc_iff.mpr (.inl is.1), is.2⟩
  before := issued.before
  unspent := by
    intro l e after before found
    rcases getElem?_snoc_iff.mp found with old | ⟨last, -⟩
    · exact issued.unspent l e after before old
    · omega

theorem held_of_run (ttl : ℚ) (calls : List (Time × Call)) :
    ∀ g ∈ (World.run ttl calls).registry.grants.rows, ∃ i,
      Issued ttl (World.run ttl calls).history g.session g.scope g.subject g.expiresAt i
        (World.run ttl calls).history.length := by
  induction calls using List.reverseRecOn with
  | nil => exact List.forall_mem_nil _
  | append_singleton calls timed ih =>
    intro g mem
    rw [World.run_append_singleton] at mem ⊢
    unfold World.take at mem ⊢
    rw [List.length_append, List.length_singleton]
    rcases StepUp.mem_grants_step mem with ⟨old, other⟩ | ⟨call, answer, expires⟩
    · obtain ⟨i, issued⟩ := ih g old
      have longer := issued.snoc
        (e := ⟨timed.1, timed.2, ((World.run ttl calls).registry.step timed.1 timed.2).1⟩) le_rfl
      refine ⟨i, longer.issue, issued.before.trans (Nat.lt_succ_self _), ?_⟩
      intro l e after before found
      rcases getElem?_snoc_iff.mp found with there | ⟨-, rfl⟩
      · exact issued.unspent l e after (List.getElem?_eq_some_iff.mp there).1 there
      · exact other
    · refine ⟨_, ⟨_, getElem?_snoc_iff.mpr (.inr ⟨rfl, rfl⟩), call, answer, ?_⟩,
        Nat.lt_succ_self _, ?_⟩
      · rw [expires, World.ttl_run]
      · intro l e after before _
        omega

def Spends (ttl : ℚ) (history : List Event) (i j : ℕ) : Prop :=
  ∃ session scope subject expiresAt spent, history[j]? = some spent ∧
    spent.call = .consume session scope subject ∧
    Issued ttl history session scope subject expiresAt i j ∧ spent.at_ < expiresAt

theorem spends_of_run (ttl : ℚ) (calls : List (Time × Call)) :
    ∀ j e, (World.run ttl calls).history[j]? = some e → e.answer = .spent →
      ∃ i, Spends ttl (World.run ttl calls).history i j := by
  induction calls using List.reverseRecOn with
  | nil => exact fun j e found => nomatch found
  | append_singleton calls timed ih =>
    intro j e found spent
    rw [World.run_append_singleton] at found ⊢
    rcases getElem?_snoc_iff.mp found with old | ⟨rfl, rfl⟩
    · obtain ⟨i, session, scope, subject, expiresAt, spent, there, call, issued, alive⟩ :=
        ih j e old spent
      exact ⟨i, session, scope, subject, expiresAt, spent, getElem?_snoc_iff.mpr (.inl there), call,
        issued.snoc (List.getElem?_eq_some_iff.mp there).1.le, alive⟩
    · obtain ⟨g, held, call, alive⟩ := StepUp.spent_cases spent
      obtain ⟨i, issued⟩ := held_of_run ttl calls g held
      exact ⟨i, g.session, g.scope, g.subject, g.expiresAt, _, found, call, issued.snoc le_rfl,
        alive⟩

theorem Spends.inj {ttl : ℚ} {history : List Event} {i j j' : ℕ} (spends : Spends ttl history i j)
    (spends' : Spends ttl history i j') : j = j' := by
  -- the earlier of two consumes would stand between the grant and the later one
  have apart : ∀ {j j'}, Spends ttl history i j → Spends ttl history i j' → ¬ j < j' := by
    intro j j' ⟨_, _, _, _, spent, found, call, issued, _⟩ ⟨_, _, _, _, _, _, _, issued', _⟩ before
    obtain ⟨e, there, grant, -⟩ := issued.issue
    obtain ⟨e', there', grant', -⟩ := issued'.issue
    cases there.symm.trans there'
    cases grant.symm.trans grant'
    exact issued'.unspent j spent issued.before before found call
  exact le_antisymm (not_lt.mp (apart spends' spends)) (not_lt.mp (apart spends spends'))

def Event.answered (session : String) (scope : StepUpScope) (e : Event) : Bool :=
  e.call.checks session scope = true ∧ e.answer.isLocked = false

def answeredAt (session : String) (scope : StepUpScope) (history : List Event) : List Time :=
  (history.filter (Event.answered session scope)).map Event.at_

def Unmatched (session : String) (scope : StepUpScope) (history : List Event) : Prop :=
  ∀ e ∈ history, e.call.confirms session scope = true → e.answer.isLocked = true

section Counted

variable {session : String} {scope : StepUpScope}

theorem answeredAt_snoc (history : List Event) (e : Event) :
    answeredAt session scope (history ++ [e]) =
      answeredAt session scope history ++
        if e.answered session scope = true then [e.at_] else [] := by
  unfold answeredAt
  rw [List.filter_append, List.map_append]
  by_cases answered : e.answered session scope = true
  · rw [if_pos answered, List.filter_cons_of_pos answered]
    rfl
  · rw [if_neg answered, List.filter_cons_of_neg answered]
    rfl

theorem answeredAt_le {ttl : ℚ} {calls : List (Time × Call)} {now : Time}
    (after : ∀ c ∈ calls, c.1 ≤ now) :
    ∀ t ∈ answeredAt session scope (World.run ttl calls).history, t ≤ now := by
  intro t mem
  obtain ⟨e, kept, rfl⟩ := List.mem_map.mp mem
  have here := List.mem_map_of_mem (f := fun e : Event => (e.at_, e.call))
    (List.mem_filter.mp kept).1
  rw [World.map_history] at here
  exact after _ here

def Tallied (s : StepUp) (session : String) (scope : StepUpScope) (part : List Time)
    (bar now : Time) : Prop :=
  (s.attempts.find? (session, scope) = none ∧ part = [] ∧ bar ≤ now) ∨
    ∃ a, s.attempts.find? (session, scope) = some a ∧ part.length = a.count ∧
      (bar ≤ now ∨ bar ≤ a.lockedUntil)

variable {s s' : StepUp} {part : List Time}

theorem Tallied.stays (tallied : Tallied s session scope part bar now) (le : now ≤ now')
    (stays : s.Stays s' now session scope) : Tallied s' session scope part bar now' := by
  rcases stays with same | ⟨gone, a, found, lapsed⟩
  · unfold Tallied
    rw [same]
    rcases tallied with ⟨none_, empty, past⟩ | ⟨a, found, count, past⟩
    · exact .inl ⟨none_, empty, past.trans le⟩
    · exact .inr ⟨a, found, count, past.imp_left fun past => past.trans le⟩
  · obtain ⟨-, past, zero⟩ := of_decide_eq_true lapsed
    rcases tallied with ⟨none_, -, -⟩ | ⟨b, found', count, past'⟩
    · rw [none_] at found
      cases found
    · cases found.symm.trans found'
      refine .inl ⟨gone, List.eq_nil_of_length_eq_zero (count.trans zero), ?_⟩
      exact (past'.elim id fun locked => locked.trans past).trans le

theorem Tallied.counts (tallied : Tallied s session scope part bar now)
    (counts : s.Counts s' now session scope) :
    bar ≤ now ∧ ∃ a, s'.attempts.find? (session, scope) = some a ∧
      if maxAttempts ≤ part.length + 1 then a.count = 0 ∧ a.lockedUntil = now + lockoutSeconds
      else a.count = part.length + 1 := by
  obtain ⟨found, unlocked⟩ := counts
  have failed : ∀ a : Attempts, part.length = a.count →
      if maxAttempts ≤ part.length + 1 then
        (a.failed now).count = 0 ∧ (a.failed now).lockedUntil = now + lockoutSeconds
      else (a.failed now).count = part.length + 1 := by
    intro a count
    unfold Attempts.failed
    rw [count]
    split
    · exact ⟨rfl, rfl⟩
    · rfl
  rcases tallied with ⟨none_, rfl, past⟩ | ⟨a, held, count, past⟩
  · refine ⟨past, _, found, ?_⟩
    unfold StepUp.mistaken
    rw [none_]
    exact failed _ rfl
  · refine ⟨past.elim id fun locked => locked.trans (unlocked a held), _, found, ?_⟩
    unfold StepUp.mistaken
    rw [held]
    exact failed a count

theorem batched_of_run {ttl : ℚ} {calls : List (Time × Call)}
    (ordered : calls.Pairwise fun a b => a.1 ≤ b.1)
    (unmatched : Unmatched session scope (World.run ttl calls).history)
    (after : ∀ c ∈ calls, c.1 ≤ now) :
    ∃ full part bar,
      answeredAt session scope (World.run ttl calls).history = full ++ part ∧
        Batched lockoutSeconds maxAttempts full part bar ∧
          Tallied (World.run ttl calls).registry session scope part bar now := by
  induction calls using List.reverseRecOn generalizing now with
  | nil => exact ⟨[], [], now, rfl, .nil (by decide) now, .inl ⟨rfl, rfl, le_rfl⟩⟩
  | append_singleton calls timed ih =>
    obtain ⟨ordered, -, before⟩ := List.pairwise_append.mp ordered
    obtain ⟨-, last⟩ := List.forall_mem_append.mp after
    rw [World.run_append_singleton] at unmatched ⊢
    unfold World.take at unmatched ⊢
    obtain ⟨old, new⟩ := List.forall_mem_append.mp unmatched
    have until_ : ∀ c ∈ calls, c.1 ≤ timed.1 := fun c mem =>
      before c mem timed (List.mem_singleton_self timed)
    have le : timed.1 ≤ now := last timed (List.mem_singleton_self timed)
    obtain ⟨full, part, bar, split, batched, tallied⟩ := ih ordered old until_
    have step := @StepUp.attempts_step (World.run ttl calls).registry timed.1 session scope
      timed.2 (new _ (List.mem_singleton_self _))
    rw [answeredAt_snoc, split]
    unfold Event.answered
    by_cases counted : timed.2.checks session scope = true ∧
        ((World.run ttl calls).registry.step timed.1 timed.2).1.isLocked = false
    · rw [if_pos counted] at step
      obtain ⟨past, a, found, count⟩ := tallied.counts step
      rw [if_pos (decide_eq_true counted)]
      by_cases fills : maxAttempts ≤ part.length + 1
      · rw [if_pos fills] at count
        have full_ : part.length + 1 = maxAttempts := le_antisymm batched.room fills
        refine ⟨full ++ (part ++ [timed.1]), [], timed.1 + lockoutSeconds, ?_, ?_, ?_⟩
        · rw [List.append_nil, List.append_assoc]
        · refine batched.snoc_full (by norm_num [lockoutSeconds]) past (fun t mem => ?_) full_
          exact answeredAt_le until_ t (split ▸ List.mem_append_right full mem)
        · exact .inr ⟨a, found, count.1.symm, .inr count.2.ge⟩
      · rw [if_neg fills] at count
        refine ⟨full, part ++ [timed.1], bar, List.append_assoc _ _ _,
          batched.snoc_part past (not_le.mp fills), .inr ⟨a, found, ?_, .inl (past.trans le)⟩⟩
        rw [count, List.length_append, List.length_singleton]
    · rw [if_neg counted] at step
      rw [if_neg fun answered => counted (of_decide_eq_true answered), List.append_nil]
      exact ⟨full, part, bar, rfl, batched, tallied.stays le step⟩

end Counted

theorem exists_le_forall (calls : List (Time × Call)) : ∃ now, ∀ c ∈ calls, c.1 ≤ now := by
  induction calls with
  | nil => exact ⟨0, List.forall_mem_nil _⟩
  | cons c calls ih =>
    obtain ⟨now, after⟩ := ih
    exact ⟨max c.1 now, List.forall_mem_cons.mpr
      ⟨le_max_left _ _, fun d mem => (after d mem).trans (le_max_right _ _)⟩⟩

theorem at_le_of_lt {ttl : ℚ} {calls : List (Time × Call)}
    (ordered : calls.Pairwise fun a b => a.1 ≤ b.1) {i j : ℕ} {e e' : Event} (before : i < j)
    (found : (World.run ttl calls).history[i]? = some e)
    (found' : (World.run ttl calls).history[j]? = some e') : e.at_ ≤ e'.at_ := by
  have history := ordered
  rw [← @World.map_history ttl calls, List.pairwise_map] at history
  obtain ⟨inside, rfl⟩ := List.getElem?_eq_some_iff.mp found
  obtain ⟨inside', rfl⟩ := List.getElem?_eq_some_iff.mp found'
  exact List.pairwise_iff_getElem.mp history i j inside inside' before

def IsSpent (history : List Event) (j : ℕ) : Prop :=
  ∃ e, history[j]? = some e ∧ e.answer = .spent

/-- Every consume that returns spends a grant of its own, issued for the same session, scope and
subject no longer than the time to live before, with no consume of it in between; and where no check
of a session and scope matches, except while that is locked, at most five are answered as anything
but locked in a window as long as the lock. -/
theorem single_use_and_counted (ttl : ℚ) (timeline : Timeline) :
    (∃ grantOf : ℕ → ℕ,
      Set.InjOn grantOf {j | IsSpent (World.run ttl timeline.calls).history j} ∧
        ∀ j, IsSpent (World.run ttl timeline.calls).history j →
          Spends ttl (World.run ttl timeline.calls).history (grantOf j) j ∧
            ∀ issue spent, (World.run ttl timeline.calls).history[grantOf j]? = some issue →
              (World.run ttl timeline.calls).history[j]? = some spent →
                issue.at_ ≤ spent.at_ ∧ spent.at_ - issue.at_ ≤ ttl) ∧
      ∀ session scope, Unmatched session scope (World.run ttl timeline.calls).history → ∀ start,
        (during start lockoutSeconds
          (answeredAt session scope (World.run ttl timeline.calls).history)).length ≤
            maxAttempts := by
  constructor
  · have each : ∀ j, IsSpent (World.run ttl timeline.calls).history j →
        ∃ i, Spends ttl (World.run ttl timeline.calls).history i j :=
      fun j ⟨e, found, spent⟩ => spends_of_run ttl timeline.calls j e found spent
    choose! grantOf spends using each
    refine ⟨grantOf, fun j here j' here' same => ?_, fun j here => ⟨spends j here, ?_⟩⟩
    · exact (spends j here).inj (same ▸ spends j' here')
    · intro issue spent found found'
      obtain ⟨session, scope, subject, expiresAt, e, there, -, issued, alive⟩ := spends j here
      obtain ⟨e', there', -, -, expires⟩ := issued.issue
      cases found.symm.trans there'
      cases found'.symm.trans there
      refine ⟨at_le_of_lt timeline.ordered issued.before found found', ?_⟩
      rw [sub_le_iff_le_add', ← expires]
      exact alive.le
  · intro session scope unmatched start
    obtain ⟨last, after⟩ := exists_le_forall timeline.calls
    obtain ⟨full, part, bar, split, batched, -⟩ :=
      batched_of_run timeline.ordered unmatched after
    rw [split]
    exact batched.count_le start

def named (n : ℕ) : String := String.ofList (List.replicate n 'x')

theorem named_injective : Function.Injective named := by
  intro m n same
  have lists := congrArg String.toList same
  unfold named at lists
  simpa using congrArg List.length lists

def crowding (n : ℕ) : Time × Call := (0, .grant "b" .killSwitch (named n) true)

def retry : Time × Call := (0, .grant "a" .killSwitch "x" true)

structure Crowded (s : StepUp) (n : ℕ) : Prop where
  many : s.grants.rows.length = n
  alive : ∀ g ∈ s.grants.rows, g.alive 0 = true
  subjects : ∀ g ∈ s.grants.rows, ∃ i < n, g.subject = named i
  uncounted : ∀ k, s.attempts.find? k = none
  ttl : s.ttl = ttlSeconds

namespace Crowded

theorem unlocked (crowded : Crowded s n) (session : String) (scope : StepUpScope) :
    s.remaining 0 session scope = none := by
  unfold StepUp.remaining
  rw [crowded.uncounted]
  rfl

theorem rows_confirmed (crowded : Crowded s n) (session : String) (scope : StepUpScope) :
    (s.confirmed 0 session scope).grants.rows = s.grants.rows :=
  List.filter_eq_self.mpr crowded.alive

theorem confirmed (crowded : Crowded s n) (session : String) (scope : StepUpScope) :
    Crowded (s.confirmed 0 session scope) n where
  many := crowded.rows_confirmed session scope ▸ crowded.many
  alive := crowded.rows_confirmed session scope ▸ crowded.alive
  subjects := crowded.rows_confirmed session scope ▸ crowded.subjects
  uncounted := by
    intro k
    have erased : (s.attempts.erase (session, scope)).find? k = none := by
      rw [Table.find?_erase, crowded.uncounted, ite_self]
    have swept : (s.confirmed 0 session scope).attempts.find? k =
        ((s.attempts.erase (session, scope)).find? k).filter fun a => !a.lapsed 0 :=
      Table.find?_filter _ _ _
    rw [swept, erased]
    rfl
  ttl := crowded.ttl

theorem step (crowded : Crowded s n) (room : n < maxGrants) :
    Crowded (s.step (crowding n).1 (crowding n).2).2 (n + 1) := by
  have kept := crowded.confirmed "b" .killSwitch
  have free : ¬ maxGrants ≤ (s.confirmed 0 "b" .killSwitch).grants.rows.length := by
    rw [kept.many]
    exact room.not_ge
  have issued : s.grant 0 "b" .killSwitch (named n) true = _ :=
    StepUp.grant_of_right (crowded.unlocked "b" .killSwitch) free
  have result : (s.step (crowding n).1 (crowding n).2).2 =
      { s.confirmed 0 "b" .killSwitch with
        grants := (s.confirmed 0 "b" .killSwitch).grants.write
          { session := "b", scope := .killSwitch, subject := named n, expiresAt := 0 + s.ttl } } :=
    congrArg Prod.snd issued
  rw [result]
  constructor
  · refine (Table.length_write_of_free fun held => ?_).trans (congrArg (· + 1) kept.many)
    obtain ⟨g, mem, same⟩ := List.mem_map.mp held
    obtain ⟨i, before, is⟩ := kept.subjects g mem
    have subject : g.subject = named n := congrArg (fun k => k.2.2) same
    exact before.ne (named_injective (is.symm.trans subject))
  · intro g mem
    rcases Table.mem_write.mp mem with ⟨old, -⟩ | rfl
    · exact kept.alive g old
    · have later : (0 : ℚ) < 0 + s.ttl := by norm_num [crowded.ttl, ttlSeconds]
      exact decide_eq_true later
  · intro g mem
    rcases Table.mem_write.mp mem with ⟨old, -⟩ | rfl
    · obtain ⟨i, before, is⟩ := kept.subjects g old
      exact ⟨i, before.trans (Nat.lt_succ_self n), is⟩
    · exact ⟨n, Nat.lt_succ_self n, rfl⟩
  · exact kept.uncounted
  · exact kept.ttl

theorem run (n : ℕ) (room : n ≤ maxGrants) :
    Crowded (World.run ttlSeconds ((List.range n).map crowding)).registry n := by
  induction n with
  | zero =>
    exact ⟨rfl, List.forall_mem_nil _, List.forall_mem_nil _, fun _ => rfl, rfl⟩
  | succ n ih =>
    rw [List.range_succ, List.map_append, List.map_singleton, World.run_append_singleton]
    exact (ih (Nat.le_of_succ_le room)).step room

theorem retries (k : ℕ) {w : World} (crowded : Crowded w.registry maxGrants) :
    ((List.replicate k retry).foldl World.take w).history =
      w.history ++ List.replicate k ⟨0, retry.2, .refused .full⟩ := by
  induction k generalizing w with
  | zero => exact (List.append_nil _).symm
  | succ k ih =>
    have full : w.registry.grant 0 "a" .killSwitch "x" true = _ :=
      StepUp.grant_of_full (crowded.unlocked "a" .killSwitch)
        (crowded.confirmed "a" .killSwitch).many.ge
    have result : w.registry.step retry.1 retry.2 =
        (.refused .full, w.registry.confirmed 0 "a" .killSwitch) :=
      congrArg (Prod.map Answer.ofGrant id) full
    rw [List.replicate_succ, List.foldl_cons, ih, List.replicate_succ]
    · unfold World.take
      rw [result]
      exact List.append_assoc _ _ _
    · unfold World.take
      rw [result]
      exact crowded.confirmed "a" .killSwitch

end Crowded

def crowdedOut : Timeline where
  calls := (List.range maxGrants).map crowding ++ List.replicate 6 retry
  ordered := by
    have zero : ∀ c ∈ (List.range maxGrants).map crowding ++ List.replicate 6 retry, c.1 = 0 := by
      intro c mem
      rcases List.mem_append.mp mem with crowd | again
      · obtain ⟨n, -, rfl⟩ := List.mem_map.mp crowd
        rfl
      · rw [List.eq_of_mem_replicate again]
        rfl
    exact List.pairwise_of_forall_mem_list fun a mem b mem' =>
      ((zero a mem).trans (zero b mem').symm).le

/-- Without any confirmation that succeeds, six checks are answered at one instant: each has the
right password, and there is no room for its grant. -/
theorem not_forall_counted :
    ¬ ∀ (timeline : Timeline) (session : String) (scope : StepUpScope),
      (∀ e ∈ (World.run ttlSeconds timeline.calls).history, e.call.checks session scope = true →
        ∀ g, e.answer ≠ .granted g) →
      ∀ start, (during start lockoutSeconds
        (answeredAt session scope (World.run ttlSeconds timeline.calls).history)).length ≤
          maxAttempts := by
  intro counted
  have history : (World.run ttlSeconds crowdedOut.calls).history =
      (World.run ttlSeconds ((List.range maxGrants).map crowding)).history ++
        List.replicate 6 ⟨0, retry.2, .refused .full⟩ := by
    unfold World.run crowdedOut
    rw [List.foldl_append]
    exact Crowded.retries 6 (Crowded.run maxGrants le_rfl)
  have other : ∀ e ∈ (World.run ttlSeconds ((List.range maxGrants).map crowding)).history,
      ¬ e.call.checks "a" .killSwitch = true := by
    intro e mem
    have here := List.mem_map_of_mem (f := fun e : Event => (e.at_, e.call)) mem
    rw [World.map_history] at here
    obtain ⟨n, -, is⟩ := List.mem_map.mp here
    have call : e.call = (crowding n).2 := (congrArg Prod.snd is).symm
    rw [call]
    exact of_decide_eq_false rfl
  have fine := counted crowdedOut "a" .killSwitch ?_ 0
  · rw [history, answeredAt, List.filter_append, List.filter_eq_nil_iff.mpr] at fine
    · revert fine
      decide +kernel
    · intro e mem answered
      exact other e mem (of_decide_eq_true answered).1
  · intro e mem checks g
    rw [history] at mem
    rcases List.mem_append.mp mem with crowd | again
    · exact absurd checks (other e crowd)
    · rw [List.eq_of_mem_replicate again]
      exact Answer.noConfusion

end TradeResearch.Security
