import TradeResearch.Lib.Run
import TradeResearch.Lib.Table

/-!
# Password resets

`request_reset` and `complete_reset` of `backend/app/auth/reset.py` for one user, each a transaction
of a few statements under read committed, between sign-ins and with time passing. Tokens and
passwords are what their hashes are; `order` numbers the rows and the completions as they are
committed.

* `Reset.Secure` says that what was there before a completion opens nothing any more.
* `secure_along` is the result for whole runs, and `not_forall_secure` a second token that still
  changes the password.
-/

namespace TradeResearch.Auth.Reset

structure Token where
  tokenHash : String
  expiresAt : ℕ
  usedAt : Option ℕ
  order : ℕ
  deriving DecidableEq

def Token.Valid (t : Token) (now : ℕ) : Prop := t.usedAt = none ∧ now < t.expiresAt

instance (t : Token) (now : ℕ) : Decidable (t.Valid now) := inferInstanceAs (Decidable (_ ∧ _))

structure Session where
  revokedAt : Option ℕ
  order : ℕ
  deriving DecidableEq

inductive Request where
  | requestReset (tokenHash : String) (ttl : ℕ)
  | completeReset (tokenHash passwordHash : String)
  deriving DecidableEq

inductive Stage where
  | begun
  /-- The row of `request_reset` is added, and not committed. -/
  | adding (expiresAt : ℕ)
  /-- `complete_reset` has found its token valid; nothing is written. -/
  | checked (token : Token)
  /-- The password and the token are written, and the user's row is locked. -/
  | written (token : Token) (usedAt : ℕ)
  /-- The sessions there were, those before `upTo`, are revoked as well. -/
  | revoked (token : Token) (usedAt revokedAt upTo : ℕ)
  | done
  | refused
  deriving DecidableEq

structure Call where
  request : Request
  stage : Stage
  deriving DecidableEq

structure Change where
  issued : ℕ
  order : ℕ
  deriving DecidableEq

structure World where
  isActive : Bool
  passwordHash : String
  tokens : Table Token.tokenHash
  sessions : List Session
  changes : List Change
  next : ℕ
  now : ℕ
  calls : List Call

inductive Event where
  | tick (seconds : ℕ)
  /-- A sign-in commits its session. -/
  | signIn
  | start (request : Request)
  | read (n : ℕ)
  | write (n : ℕ)
  | revoke (n : ℕ)
  | commit (n : ℕ)
  deriving DecidableEq

def Stage.locks : Stage → Bool
  | written .. => true
  | revoked .. => true
  | _ => false

def Stage.token? : Stage → Option Token
  | checked token => some token
  | written token _ => some token
  | revoked token .. => some token
  | _ => none

namespace World

def goTo (w : World) (n : ℕ) (call : Call) (stage : Stage) : World :=
  { w with calls := w.calls.set n { call with stage } }

def first (w : World) : Request → Stage
  | .requestReset _ ttl => if w.isActive then .adding (w.now + ttl) else .refused
  | .completeReset tokenHash _ =>
    match w.tokens.find? tokenHash with
    | none => .refused
    | some token =>
      if token.Valid w.now ∧ w.isActive = true then .checked token else .refused

def complete (w : World) (passwordHash : String) (token : Token) (usedAt revokedAt upTo : ℕ) :
    World :=
  { w with
    passwordHash
    tokens :=
      w.tokens.modify token.tokenHash (fun t => { t with usedAt := some usedAt }) fun _ => rfl
    sessions := w.sessions.map fun s =>
      if s.order < upTo ∧ s.revokedAt = none then { s with revokedAt := some revokedAt } else s
    changes := ⟨token.order, w.next⟩ :: w.changes
    next := w.next + 1 }

def step (w : World) : Event → Option World
  | .tick seconds => some { w with now := w.now + seconds }
  | .signIn =>
    some { w with sessions := w.sessions ++ [⟨none, w.next⟩], next := w.next + 1 }
  | .start request => some { w with calls := w.calls ++ [⟨request, .begun⟩] }
  | .read n =>
    match w.calls[n]? with
    | some ⟨request, .begun⟩ => some (w.goTo n ⟨request, .begun⟩ (w.first request))
    | _ => none
  | .write n =>
    match w.calls[n]? with
    | some ⟨request, .checked token⟩ =>
      if (w.calls.eraseIdx n).any fun call => call.stage.locks then none
      else some (w.goTo n ⟨request, .checked token⟩ (.written token w.now))
    | _ => none
  | .revoke n =>
    match w.calls[n]? with
    | some ⟨request, .written token usedAt⟩ =>
      some (w.goTo n ⟨request, .written token usedAt⟩ (.revoked token usedAt w.now w.next))
    | _ => none
  | .commit n =>
    match w.calls[n]? with
    | some ⟨.requestReset tokenHash ttl, .adding expiresAt⟩ =>
      if free : tokenHash ∉ w.tokens.rows.map Token.tokenHash then
        some { w.goTo n ⟨.requestReset tokenHash ttl, .adding expiresAt⟩ .done with
          tokens := w.tokens.insert ⟨tokenHash, expiresAt, none, w.next⟩ free
          next := w.next + 1 }
      else some (w.goTo n ⟨.requestReset tokenHash ttl, .adding expiresAt⟩ .refused)
    | some ⟨.completeReset tokenHash passwordHash, .revoked token usedAt revokedAt upTo⟩ =>
      some ((w.goTo n ⟨.completeReset tokenHash passwordHash,
        .revoked token usedAt revokedAt upTo⟩ .done).complete passwordHash token usedAt revokedAt
          upTo)
    | _ => none

def Outlived (w : World) (order : ℕ) : Prop := ∃ change ∈ w.changes.head?, order < change.order

def Fresh : List Change → Prop
  | [] => True
  | change :: rest => (∀ before ∈ rest, before.order < change.issued) ∧ Fresh rest

structure Secure (w : World) : Prop where
  once : (w.changes.map Change.issued).Nodup
  fresh : Fresh w.changes
  sessions : ∀ s ∈ w.sessions, w.Outlived s.order → s.revokedAt ≠ none
  tokens : ∀ t ∈ w.tokens.rows, w.Outlived t.order → ¬ t.Valid w.now

def Alone (w : World) : Event → Prop
  | .commit n =>
    ∀ call ∈ w.calls[n]?.toList,
      match call.stage with
      | .revoked token _ _ upTo =>
        (∀ s ∈ w.sessions, s.order < upTo ∨ s.revokedAt ≠ none) ∧
          (∀ t ∈ w.tokens.rows, t.tokenHash ≠ token.tokenHash → ¬ t.Valid w.now) ∧
          ∀ call' ∈ w.calls.eraseIdx n, call'.stage.token? = none
      | _ => True
  | _ => True

instance (w : World) (e : Event) : Decidable (w.Alone e) :=
  match e with
  | .commit n => by
    dsimp only [Alone]
    refine @List.decidableBAll _ _ (fun call => ?_) _
    split <;> infer_instance
  | .tick _ | .signIn | .start _ | .read _ | .write _ | .revoke _ => isTrue True.intro

structure Inv (w : World) : Prop where
  bounded : ∀ change ∈ w.changes, change.issued < change.order ∧ change.order < w.next
  issued : ∀ t ∈ w.tokens.rows, t.order < w.next
  valid : ∀ t ∈ w.tokens.rows, t.Valid w.now → ∀ change ∈ w.changes, change.order < t.order
  opened : ∀ s ∈ w.sessions, s.revokedAt = none → ∀ change ∈ w.changes, change.order < s.order
  checked : ∀ call ∈ w.calls, ∀ token ∈ call.stage.token?,
    token.order < w.next ∧ ∀ change ∈ w.changes, change.order < token.order
  fresh : Fresh w.changes

theorem once_of_fresh {changes : List Change}
    (bounded : ∀ change ∈ changes, change.issued < change.order) (fresh : Fresh changes) :
    (changes.map Change.issued).Nodup := by
  induction changes with
  | nil => exact List.nodup_nil
  | cons change rest ih =>
    rw [List.map_cons, List.nodup_cons]
    refine ⟨fun mem => ?_, ih (fun c mem => bounded c (List.mem_cons_of_mem _ mem)) fresh.2⟩
    obtain ⟨before, here, same⟩ := List.mem_map.mp mem
    have later := fresh.1 before here
    have own := bounded before (List.mem_cons_of_mem _ here)
    omega

theorem Inv.secure {w : World} (inv : w.Inv) : w.Secure where
  once := once_of_fresh (fun change mem => (inv.bounded change mem).1) inv.fresh
  fresh := inv.fresh
  sessions := by
    rintro s mem ⟨change, last, after⟩ none
    have before := inv.opened s mem none change (List.mem_of_mem_head? last)
    omega
  tokens := by
    rintro t mem ⟨change, last, after⟩ valid
    have before := inv.valid t mem valid change (List.mem_of_mem_head? last)
    omega

theorem Inv.goTo {w : World} (inv : w.Inv) {n : ℕ} {call : Call} {stage : Stage}
    (calm : ∀ token ∈ stage.token?,
      token.order < w.next ∧ ∀ change ∈ w.changes, change.order < token.order) :
    (w.goTo n call stage).Inv where
  bounded := inv.bounded
  issued := inv.issued
  valid := inv.valid
  opened := inv.opened
  checked := by
    intro call' mem
    rcases List.mem_or_eq_of_mem_set mem with old | rfl
    · exact inv.checked call' old
    · exact calm
  fresh := inv.fresh

theorem Inv.idle {w : World} (inv : w.Inv) {n : ℕ} {call : Call} {stage : Stage}
    (idle : stage.token? = none) : (w.goTo n call stage).Inv := by
  refine inv.goTo fun token flies => ?_
  rw [idle] at flies
  cases flies

theorem Inv.first {w : World} (inv : w.Inv) (request : Request) :
    ∀ token ∈ (w.first request).token?,
      token.order < w.next ∧ ∀ change ∈ w.changes, change.order < token.order := by
  cases request with
  | requestReset =>
    dsimp only [World.first]
    split <;> exact fun _ none => nomatch none
  | completeReset tokenHash passwordHash =>
    dsimp only [World.first]
    split
    · exact fun _ none => nomatch none
    · next token found =>
      have mem := List.mem_of_find?_eq_some found
      split
      · next valid =>
        rintro _ ⟨⟩
        exact ⟨inv.issued token mem, inv.valid token mem valid.1⟩
      · exact fun _ none => nomatch none

theorem Inv.add {w : World} (inv : w.Inv) {tokenHash : String} {expiresAt : ℕ}
    (free : tokenHash ∉ w.tokens.rows.map Token.tokenHash) :
    Inv { w with
      tokens := w.tokens.insert ⟨tokenHash, expiresAt, none, w.next⟩ free
      next := w.next + 1 } where
  bounded := fun change mem => ⟨(inv.bounded change mem).1, (inv.bounded change mem).2.le.trans_lt
    (Nat.lt_succ_self _)⟩
  issued := by
    intro t mem
    rcases List.mem_append.mp mem with old | new
    · exact (inv.issued t old).trans (Nat.lt_succ_self _)
    · cases List.mem_singleton.mp new
      exact Nat.lt_succ_self _
  valid := by
    intro t mem valid change was
    rcases List.mem_append.mp mem with old | new
    · exact inv.valid t old valid change was
    · cases List.mem_singleton.mp new
      exact (inv.bounded change was).2
  opened := inv.opened
  checked := fun call mem token flies =>
    ⟨(inv.checked call mem token flies).1.trans (Nat.lt_succ_self _),
      (inv.checked call mem token flies).2⟩
  fresh := inv.fresh

theorem mem_tokens_complete {w : World} {passwordHash : String} {token t : Token}
    {usedAt revokedAt upTo : ℕ} :
    t ∈ (w.complete passwordHash token usedAt revokedAt upTo).tokens.rows ↔
      (∃ a ∈ w.tokens.rows, a.tokenHash = token.tokenHash ∧ { a with usedAt := some usedAt } = t) ∨
        t ∈ w.tokens.rows ∧ t.tokenHash ≠ token.tokenHash := by
  unfold World.complete
  rw [Table.mem_modify]

theorem Inv.complete {w : World} (inv : w.Inv) {passwordHash : String} {token : Token}
    {usedAt revokedAt upTo : ℕ}
    (own : token.order < w.next ∧ ∀ change ∈ w.changes, change.order < token.order)
    (sessions : ∀ s ∈ w.sessions, s.order < upTo ∨ s.revokedAt ≠ none)
    (others : ∀ t ∈ w.tokens.rows, t.tokenHash ≠ token.tokenHash → ¬ t.Valid w.now)
    (alone : ∀ call ∈ w.calls, call.stage.token? = none) :
    (w.complete passwordHash token usedAt revokedAt upTo).Inv where
  bounded := by
    intro change mem
    rcases List.mem_cons.mp mem with rfl | old
    · exact ⟨own.1, Nat.lt_succ_self _⟩
    · exact ⟨(inv.bounded change old).1, (inv.bounded change old).2.trans (Nat.lt_succ_self _)⟩
  issued := by
    intro t mem
    rcases mem_tokens_complete.mp mem with ⟨a, old, -, rfl⟩ | ⟨old, -⟩
    · exact (inv.issued a old).trans (Nat.lt_succ_self _)
    · exact (inv.issued t old).trans (Nat.lt_succ_self _)
  valid := by
    intro t mem valid
    rcases mem_tokens_complete.mp mem with ⟨a, -, -, rfl⟩ | ⟨old, other⟩
    · cases valid.1
    · exact absurd valid (others t old other)
  opened := by
    intro s mem none
    obtain ⟨s, old, rfl⟩ := List.mem_map.mp mem
    split at none
    · cases none
    · next kept =>
      rcases sessions s old with before | revoked
      · exact absurd ⟨before, none⟩ kept
      · exact absurd none revoked
  checked := by
    intro call mem token flies
    rw [alone call mem] at flies
    cases flies
  fresh := ⟨own.2, inv.fresh⟩

theorem Inv.step {w w' : World} {e : Event} (inv : w.Inv) (alone : w.Alone e)
    (taken : w.step e = some w') : w'.Inv := by
  cases e with
  | tick seconds =>
    cases taken
    exact { inv with
      valid := fun t mem valid =>
        inv.valid t mem ⟨valid.1, (Nat.le_add_right ..).trans_lt valid.2⟩ }
  | signIn =>
    cases taken
    refine
      { bounded := fun change mem =>
          ⟨(inv.bounded change mem).1, (inv.bounded change mem).2.trans (Nat.lt_succ_self _)⟩
        issued := fun t mem => (inv.issued t mem).trans (Nat.lt_succ_self _)
        valid := inv.valid
        opened := fun s mem none change was => ?_
        checked := fun call mem token flies =>
          ⟨(inv.checked call mem token flies).1.trans (Nat.lt_succ_self _),
            (inv.checked call mem token flies).2⟩
        fresh := inv.fresh }
    rcases List.mem_append.mp mem with old | new
    · exact inv.opened s old none change was
    · cases List.mem_singleton.mp new
      exact (inv.bounded change was).2
  | start request =>
    cases taken
    refine { inv with checked := fun call mem => ?_ }
    rcases List.mem_append.mp mem with old | new
    · exact inv.checked call old
    · cases List.mem_singleton.mp new
      exact fun _ none => nomatch none
  | read n =>
    dsimp only [World.step] at taken
    split at taken
    · cases taken
      exact inv.goTo (inv.first _)
    · cases taken
  | write n =>
    dsimp only [World.step] at taken
    split at taken
    · next request token is =>
      split at taken
      · cases taken
      · cases taken
        exact inv.goTo (inv.checked _ (List.mem_of_getElem? is))
    · cases taken
  | revoke n =>
    dsimp only [World.step] at taken
    split at taken
    · next request token usedAt is =>
      cases taken
      exact inv.goTo (inv.checked _ (List.mem_of_getElem? is))
    · cases taken
  | commit n =>
    dsimp only [World.step] at taken
    split at taken
    · split at taken
      · next free =>
        cases taken
        exact (inv.idle rfl).add free
      · cases taken
        exact inv.idle rfl
    · next tokenHash passwordHash token usedAt revokedAt upTo is =>
      cases taken
      have own := inv.checked _ (List.mem_of_getElem? is) token rfl
      obtain ⟨sessions, others, calls⟩ := alone _ (Option.mem_toList.mpr is)
      refine (inv.idle rfl).complete own sessions others ?_
      intro call mem
      obtain ⟨m, at_⟩ := List.mem_iff_getElem?.mp mem
      by_cases same : n = m
      · subst same
        rw [World.goTo, List.getElem?_set_self'] at at_
        obtain ⟨_, -, rfl⟩ := Option.map_eq_some_iff.mp at_
        rfl
      · rw [World.goTo, List.getElem?_set_ne same] at at_
        exact calls call (List.mem_eraseIdx_iff_getElem?.mpr ⟨m, Ne.symm same, at_⟩)
    · cases taken

def opened (isActive : Bool) (passwordHash : String) (sessions : List Session) (next : ℕ) : World :=
  ⟨isActive, passwordHash, Table.empty _, sessions, [], next, 0, []⟩

end World

/-- In every run of which each step meets `Alone`, after every commit of a completion, nothing of
what was there before it opens the account again, and no token changes the password twice. -/
theorem secure_along (isActive : Bool) (passwordHash : String) (sessions : List Session) (next : ℕ)
    (es : List Event)
    (meets : Run.Meets World.step World.Alone (.opened isActive passwordHash sessions next) es) :
    Run.Along World.step World.Secure (.opened isActive passwordHash sessions next) es := by
  have start : (World.opened isActive passwordHash sessions next).Inv :=
    { bounded := fun _ mem => nomatch mem
      issued := fun _ mem => nomatch mem
      valid := fun _ mem => nomatch mem
      opened := fun _ _ _ _ mem => nomatch mem
      checked := fun _ mem => nomatch mem
      fresh := True.intro }
  exact (Run.along_of_meets (fun w e w' inv alone taken => inv.step alone taken) start meets).mono
    fun w inv => inv.secure

/-- One token, and the reset it is for. -/
theorem secure_along_oneToken :
    Run.Along World.step World.Secure (.opened true "old" [⟨none, 0⟩] 1)
      [.start (.requestReset "t" 3600), .read 0, .commit 0, .start (.completeReset "t" "new"),
        .read 1, .write 1, .revoke 1, .commit 1] :=
  secure_along true "old" [⟨none, 0⟩] 1 _ (by decide +kernel)

/-- Of two tokens, the second changes the password after the first one did. -/
theorem not_forall_secure :
    ¬ Run.Along World.step World.Secure (.opened true "old" [] 0)
      [.start (.requestReset "t" 3600), .read 0, .commit 0, .start (.requestReset "u" 3600),
        .read 1, .commit 1, .start (.completeReset "t" "new"), .read 2, .write 2, .revoke 2,
        .commit 2, .start (.completeReset "u" "mine"), .read 3, .write 3, .revoke 3,
        .commit 3] := by
  intro along
  have last : ∃ w, Run.exec World.step (.opened true "old" [] 0)
      [.start (.requestReset "t" 3600), .read 0, .commit 0, .start (.requestReset "u" 3600),
        .read 1, .commit 1, .start (.completeReset "t" "new"), .read 2, .write 2, .revoke 2,
        .commit 2, .start (.completeReset "u" "mine"), .read 3, .write 3, .revoke 3,
        .commit 3] = some w ∧ w.changes = [⟨1, 3⟩, ⟨0, 2⟩] := ⟨_, rfl, rfl⟩
  obtain ⟨w, run, changes⟩ := last
  have fresh := (along.last run).fresh
  rw [changes] at fresh
  exact absurd (fresh.1 ⟨0, 2⟩ (List.mem_singleton_self _)) (by decide)

end TradeResearch.Auth.Reset
