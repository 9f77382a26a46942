import TradeResearch.Brokers.Base
import TradeResearch.Lib.Table

/-!
# Step-up confirmations

`backend/app/security/stepup.py`: the grants a process holds, and the checks it counts. The security
events it logs and `holds` are left out. A dictionary is a `Table`, and what a caller is answered is
kept in a `history`.

* `mem_grants_step`, `spent_cases`: which grants are held after a call, and what is spent.
* `attempts_step`: what a call makes of the count under a session and a scope.
-/

namespace TradeResearch.Security

def ttlSeconds : ℚ := 300

def maxGrants : ℕ := 512

def maxAttempts : ℕ := 5

def lockoutSeconds : ℚ := 900

inductive StepUpScope where
  | adminUserAccess
  | adminSessionRevoke
  | safeModeExit
  | killSwitch
  | brokerCredentials
  | botBracketSource
  deriving DecidableEq

def StepUpScope.value : StepUpScope → String
  | adminUserAccess => "ADMIN_USER_ACCESS"
  | adminSessionRevoke => "ADMIN_SESSION_REVOKE"
  | safeModeExit => "SAFE_MODE_EXIT"
  | killSwitch => "KILL_SWITCH"
  | brokerCredentials => "BROKER_CREDENTIALS"
  | botBracketSource => "BOT_BRACKET_SOURCE"

def StepUpScope.all : List StepUpScope :=
  [adminUserAccess, adminSessionRevoke, safeModeExit, killSwitch, brokerCredentials,
    botBracketSource]

inductive StepUpError where
  | locked (remaining : ℤ)
  | unconfirmed
  | full
  | missing (seconds : ℤ)
  deriving DecidableEq

structure Grant where
  session : String
  scope : StepUpScope
  subject : String
  expiresAt : Time
  deriving DecidableEq

def Grant.key (g : Grant) : String × StepUpScope × String := (g.session, g.scope, g.subject)

def Grant.alive (g : Grant) (now : Time) : Bool := now < g.expiresAt

structure Attempts where
  session : String
  scope : StepUpScope
  count : ℕ := 0
  lockedUntil : Time := 0

def Attempts.key (a : Attempts) : String × StepUpScope := (a.session, a.scope)

def Attempts.failed (a : Attempts) (now : Time) : Attempts :=
  if maxAttempts ≤ a.count + 1 then { a with count := 0, lockedUntil := now + lockoutSeconds }
  else { a with count := a.count + 1 }

def Attempts.lapsed (a : Attempts) (now : Time) : Bool :=
  a.lockedUntil ≠ 0 ∧ a.lockedUntil ≤ now ∧ a.count = 0

structure StepUp where
  ttl : ℚ := ttlSeconds
  grants : Table Grant.key := .empty Grant.key
  attempts : Table Attempts.key := .empty Attempts.key

structure Stats where
  liveGrants : ℕ
  lockedScopes : ℕ
  ttl : ℤ
  singleUse : Bool := true
  scopes : List String := StepUpScope.all.map StepUpScope.value

namespace StepUp

variable (s : StepUp)

def sweep (now : Time) : StepUp :=
  { s with
    grants := s.grants.filter (·.alive now)
    attempts := s.attempts.filter fun a => !a.lapsed now }

def remaining (now : Time) (session : String) (scope : StepUpScope) : Option ℤ :=
  ((s.attempts.find? (session, scope)).filter fun a => now < a.lockedUntil).map fun a =>
    Brokers.roundDown (a.lockedUntil - now)

def confirmed (now : Time) (session : String) (scope : StepUpScope) : StepUp :=
  { s with attempts := s.attempts.erase (session, scope) }.sweep now

def mistaken (now : Time) (session : String) (scope : StepUpScope) : Attempts :=
  ((s.attempts.find? (session, scope)).getD { session, scope }).failed now

def grant (now : Time) (session : String) (scope : StepUpScope) (subject : String)
    (passwordOk : Bool) : Except StepUpError Grant × StepUp :=
  match s.remaining now session scope with
  | some remaining => (.error (.locked remaining), s)
  | none =>
    if passwordOk = false then
      (.error .unconfirmed, { s with attempts := s.attempts.write (s.mistaken now session scope) })
    else
      let swept := s.confirmed now session scope
      if maxGrants ≤ swept.grants.rows.length then (.error .full, swept)
      else
        let issued : Grant := { session, scope, subject, expiresAt := now + s.ttl }
        (.ok issued, { swept with grants := swept.grants.write issued })

def consume (now : Time) (session : String) (scope : StepUpScope) (subject : String) :
    Except StepUpError Unit × StepUp :=
  let rest := { s with grants := s.grants.erase (session, scope, subject) }
  if (s.grants.find? (session, scope, subject)).any (·.alive now) = true then (.ok (), rest)
  else (.error (.missing (Brokers.roundDown s.ttl)), rest)

def stats (now : Time) : Stats × StepUp :=
  let swept := s.sweep now
  ({ liveGrants := swept.grants.rows.length
     lockedScopes := swept.attempts.rows.countP fun a => now < a.lockedUntil
     ttl := Brokers.roundDown s.ttl }, swept)

end StepUp

inductive Call where
  | grant (session : String) (scope : StepUpScope) (subject : String) (passwordOk : Bool)
  | consume (session : String) (scope : StepUpScope) (subject : String)
  | stats
  deriving DecidableEq

inductive Answer where
  | granted (g : Grant)
  | refused (e : StepUpError)
  | spent
  | counted (s : Stats)

def Answer.ofGrant : Except StepUpError Grant → Answer
  | .ok g => .granted g
  | .error e => .refused e

def Answer.ofConsume : Except StepUpError Unit → Answer
  | .ok () => .spent
  | .error e => .refused e

namespace StepUp

variable (s : StepUp)

def step (now : Time) : Call → Answer × StepUp
  | .grant session scope subject passwordOk =>
    (s.grant now session scope subject passwordOk).map .ofGrant id
  | .consume session scope subject => (s.consume now session scope subject).map .ofConsume id
  | .stats => (s.stats now).map .counted id

variable {s} {now : Time} {session : String} {scope : StepUpScope} {subject : String}

theorem grant_of_locked {rest : ℤ} (locked : s.remaining now session scope = some rest) :
    s.grant now session scope subject passwordOk = (.error (.locked rest), s) := by
  unfold grant
  rw [locked]

theorem grant_of_wrong (unlocked : s.remaining now session scope = none) :
    s.grant now session scope subject false =
      (.error .unconfirmed,
        { s with attempts := s.attempts.write (s.mistaken now session scope) }) := by
  unfold grant
  rw [unlocked]
  exact if_pos rfl

theorem grant_of_full (unlocked : s.remaining now session scope = none)
    (full : maxGrants ≤ (s.confirmed now session scope).grants.rows.length) :
    s.grant now session scope subject true = (.error .full, s.confirmed now session scope) := by
  unfold grant
  rw [unlocked]
  exact if_pos full

theorem grant_of_right (unlocked : s.remaining now session scope = none)
    (room : ¬ maxGrants ≤ (s.confirmed now session scope).grants.rows.length) :
    s.grant now session scope subject true =
      (.ok { session, scope, subject, expiresAt := now + s.ttl },
        { s.confirmed now session scope with
          grants := (s.confirmed now session scope).grants.write
            { session, scope, subject, expiresAt := now + s.ttl } }) := by
  unfold grant
  rw [unlocked]
  exact if_neg room

theorem grant_cases (P : Except StepUpError Grant × StepUp → Prop)
    (locked : ∀ rest, s.remaining now session scope = some rest → P (.error (.locked rest), s))
    (wrong : s.remaining now session scope = none → passwordOk = false →
      P (.error .unconfirmed,
        { s with attempts := s.attempts.write (s.mistaken now session scope) }))
    (full : s.remaining now session scope = none → passwordOk = true →
      P (.error .full, s.confirmed now session scope))
    (right : s.remaining now session scope = none → passwordOk = true →
      P (.ok { session, scope, subject, expiresAt := now + s.ttl },
        { s.confirmed now session scope with
          grants := (s.confirmed now session scope).grants.write
            { session, scope, subject, expiresAt := now + s.ttl } })) :
    P (s.grant now session scope subject passwordOk) := by
  cases running : s.remaining now session scope with
  | some rest => exact grant_of_locked running ▸ locked rest running
  | none =>
    cases passwordOk with
    | false => exact grant_of_wrong running ▸ wrong running rfl
    | true =>
      by_cases room : maxGrants ≤ (s.confirmed now session scope).grants.rows.length
      · exact grant_of_full running room ▸ full running rfl
      · exact grant_of_right running room ▸ right running rfl

theorem ttl_step (call : Call) : (s.step now call).2.ttl = s.ttl := by
  cases call with
  | grant session scope subject passwordOk =>
    exact grant_cases (fun result => result.2.ttl = s.ttl) (fun _ _ => rfl) (fun _ _ => rfl)
      (fun _ _ => rfl) fun _ _ => rfl
  | consume session scope subject =>
    unfold step consume
    dsimp only
    split <;> rfl
  | stats => rfl

theorem mem_sweep {g : Grant} (mem : g ∈ (s.sweep now).grants.rows) : g ∈ s.grants.rows :=
  (Table.mem_filter.mp mem).1

theorem mem_grants_grant {g : Grant}
    (mem : g ∈ (s.grant now session scope subject passwordOk).2.grants.rows) :
    g ∈ s.grants.rows ∨
      ((session, scope, subject) = g.key ∧ passwordOk = true ∧
        (s.grant now session scope subject passwordOk).1 = .ok g ∧ g.expiresAt = now + s.ttl) := by
  revert mem
  refine grant_cases (fun result => g ∈ result.2.grants.rows → g ∈ s.grants.rows ∨
    ((session, scope, subject) = g.key ∧ passwordOk = true ∧ result.1 = .ok g ∧
      g.expiresAt = now + s.ttl)) (fun _ _ => .inl) (fun _ _ => .inl)
    (fun _ _ mem => .inl (mem_sweep mem)) fun _ right mem => ?_
  rcases Table.mem_write.mp mem with ⟨old, -⟩ | rfl
  · exact .inl (mem_sweep old)
  · exact .inr ⟨rfl, right, rfl, rfl⟩

theorem mem_grants_step {call : Call} {g : Grant} (mem : g ∈ (s.step now call).2.grants.rows) :
    (g ∈ s.grants.rows ∧ call ≠ .consume g.session g.scope g.subject) ∨
      (call = .grant g.session g.scope g.subject true ∧ (s.step now call).1 = .granted g ∧
        g.expiresAt = now + s.ttl) := by
  cases call with
  | grant session scope subject passwordOk =>
    rcases mem_grants_grant mem with old | ⟨key, rfl, issued, expires⟩
    · exact .inl ⟨old, Call.noConfusion⟩
    · cases key
      exact .inr ⟨rfl, congrArg Answer.ofGrant issued, expires⟩
  | consume session scope subject =>
    left
    have kept : g ∈ (s.grants.erase (session, scope, subject)).rows := by
      unfold step consume at mem
      dsimp only at mem
      split at mem <;> exact mem
    obtain ⟨old, other⟩ := Table.mem_erase.mp kept
    refine ⟨old, fun same => other ?_⟩
    cases same
    rfl
  | stats => exact .inl ⟨mem_sweep mem, Call.noConfusion⟩

theorem spent_cases {call : Call} (spent : (s.step now call).1 = .spent) :
    ∃ g ∈ s.grants.rows, call = .consume g.session g.scope g.subject ∧ now < g.expiresAt := by
  cases call with
  | grant session scope subject passwordOk =>
    have other : Answer.ofGrant (s.grant now session scope subject passwordOk).1 ≠ .spent := by
      cases (s.grant now session scope subject passwordOk).1 <;> exact Answer.noConfusion
    exact absurd spent other
  | consume session scope subject =>
    by_cases alive : (s.grants.find? (session, scope, subject)).any (·.alive now) = true
    · obtain ⟨g, found, alive⟩ := (Option.any_eq_true _ _).mp alive
      have key := Table.key_of_find? found
      refine ⟨g, List.mem_of_find?_eq_some found, ?_, of_decide_eq_true alive⟩
      cases key
      rfl
    · unfold step consume at spent
      dsimp only at spent
      rw [if_neg alive] at spent
      cases spent
  | stats => cases spent

end StepUp

def Call.checks (session : String) (scope : StepUpScope) : Call → Bool
  | .grant session' scope' _ _ => session' = session ∧ scope' = scope
  | _ => false

def Call.confirms (session : String) (scope : StepUpScope) : Call → Bool
  | .grant session' scope' _ passwordOk =>
    (session' = session ∧ scope' = scope) ∧ passwordOk = true
  | _ => false

def Answer.isLocked : Answer → Bool
  | .refused (.locked _) => true
  | _ => false

theorem Attempts.key_failed (a : Attempts) (now : Time) : (a.failed now).key = a.key := by
  unfold Attempts.failed
  split <;> rfl

namespace StepUp

variable {s : StepUp} {now : Time} {session : String}

theorem remaining_eq_none (unlocked : s.remaining now session scope = none) {a : Attempts}
    (found : s.attempts.find? (session, scope) = some a) : a.lockedUntil ≤ now := by
  unfold remaining at unlocked
  rw [found, Option.map_eq_none_iff, Option.filter_some] at unlocked
  split at unlocked
  · cases unlocked
  · next running => exact not_lt.mp fun less => running (decide_eq_true less)

theorem find?_sweep (k : String × StepUpScope) :
    (s.sweep now).attempts.find? k = s.attempts.find? k ∨
      (s.sweep now).attempts.find? k = none ∧
        ∃ a, s.attempts.find? k = some a ∧ a.lapsed now = true := by
  have swept : (s.sweep now).attempts.find? k =
      (s.attempts.find? k).filter fun a => !a.lapsed now := Table.find?_filter _ _ _
  rw [swept]
  cases found : s.attempts.find? k with
  | none => exact .inl rfl
  | some a =>
    rw [Option.filter_some]
    by_cases lapsed : a.lapsed now = true
    · exact .inr ⟨if_neg (by rw [lapsed]; exact Bool.false_ne_true), a, rfl, lapsed⟩
    · exact .inl (if_pos (by rw [Bool.eq_false_of_not_eq_true lapsed]; rfl))

def Stays (s s' : StepUp) (now : Time) (session : String) (scope : StepUpScope) : Prop :=
  s'.attempts.find? (session, scope) = s.attempts.find? (session, scope) ∨
    s'.attempts.find? (session, scope) = none ∧
      ∃ a, s.attempts.find? (session, scope) = some a ∧ a.lapsed now = true

def Counts (s s' : StepUp) (now : Time) (session : String) (scope : StepUpScope) : Prop :=
  s'.attempts.find? (session, scope) = some (s.mistaken now session scope) ∧
    ∀ a, s.attempts.find? (session, scope) = some a → a.lockedUntil ≤ now

theorem key_mistaken : (s.mistaken now session scope).key = (session, scope) := by
  unfold mistaken
  rw [Attempts.key_failed]
  cases found : s.attempts.find? (session, scope) with
  | none => rfl
  | some a => exact Table.key_of_find? found

theorem stays_confirmed {session' : String} {scope' : StepUpScope}
    (other : ¬ (session' = session ∧ scope' = scope)) :
    s.Stays (s.confirmed now session' scope') now session scope := by
  have kept : (s.attempts.erase (session', scope')).find? (session, scope) =
      s.attempts.find? (session, scope) := by
    rw [Table.find?_erase, if_neg]
    intro same
    cases same
    exact other ⟨rfl, rfl⟩
  unfold Stays
  rw [← kept]
  exact find?_sweep _

theorem attempts_step (call : Call)
    (unmatched : call.confirms session scope = true → (s.step now call).1.isLocked = true) :
    if call.checks session scope = true ∧ (s.step now call).1.isLocked = false then
      s.Counts (s.step now call).2 now session scope
    else s.Stays (s.step now call).2 now session scope := by
  cases call with
  | grant session' scope' subject passwordOk =>
    revert unmatched
    refine grant_cases (fun result =>
      (Call.confirms session scope (.grant session' scope' subject passwordOk) = true →
        (Answer.ofGrant result.1).isLocked = true) →
      if Call.checks session scope (.grant session' scope' subject passwordOk) = true ∧
          (Answer.ofGrant result.1).isLocked = false then
        s.Counts result.2 now session scope
      else s.Stays result.2 now session scope) ?locked ?wrong ?full ?right
    case locked =>
      intro rest _ _
      rw [if_neg fun both => Bool.noConfusion both.2]
      exact .inl rfl
    case wrong =>
      intro unlocked _ _
      by_cases here : session' = session ∧ scope' = scope
      · rw [if_pos ⟨decide_eq_true here, rfl⟩]
        obtain ⟨rfl, rfl⟩ := here
        refine ⟨?_, fun a found => remaining_eq_none unlocked found⟩
        rw [Table.find?_write, key_mistaken, if_pos rfl]
      · rw [if_neg fun both => here (of_decide_eq_true both.1)]
        left
        rw [Table.find?_write, key_mistaken, if_neg]
        intro same
        cases same
        exact here ⟨rfl, rfl⟩
    case full =>
      intro _ right unmatched
      have other : ¬ (session' = session ∧ scope' = scope) := fun here =>
        Bool.noConfusion (unmatched (decide_eq_true ⟨here, right⟩))
      rw [if_neg fun both => other (of_decide_eq_true both.1)]
      exact stays_confirmed other
    case right =>
      intro _ right unmatched
      have other : ¬ (session' = session ∧ scope' = scope) := fun here =>
        Bool.noConfusion (unmatched (decide_eq_true ⟨here, right⟩))
      rw [if_neg fun both => other (of_decide_eq_true both.1)]
      exact stays_confirmed other
  | consume session' scope' subject =>
    left
    unfold step consume
    dsimp only
    split <;> rfl
  | stats =>
    exact find?_sweep _

end StepUp

end TradeResearch.Security
