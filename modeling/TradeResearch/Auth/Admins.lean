import TradeResearch.Lib.Run
import TradeResearch.Realtime.Channels

/-!
# Administrators

`set_role` and `ensure_admin` of `backend/app/auth/service.py` and `set_active` of
`backend/app/admin/service.py`, each a transaction of a few statements, under read committed: a
statement sees what is committed, and a row that was written is locked until its commit.

* `World.step` takes one statement or one commit of one of the calls.
* `Headed` is the invariant: a demotion that waits for its commit leaves another administrator.
* `administered_along` is the result for whole runs, and `not_forall_administered` two
  administrators that demote each other.
-/

namespace TradeResearch.Auth

open Realtime (Role)

structure User where
  id : String
  email : String
  role : Role
  isActive : Bool
  deriving DecidableEq

def User.administers (u : User) : Bool := decide (u.role = .admin) && u.isActive

abbrev Users := Table User.id

def countAdmins (users : Users) : ℕ := (users.rows.filter User.administers).length

def Administered (users : Users) : Prop := ∃ u ∈ users.rows, u.administers = true

instance (users : Users) : Decidable (Administered users) := List.decidableBEx ..

inductive Request where
  | setRole (userId : String) (role : Role)
  | setActive (userId : String) (active : Bool) (actorId : String)
  /-- `newId` is the id a new row would be given. -/
  | ensureAdmin (email newId : String)
  deriving DecidableEq

inductive Write where
  | assignRole (userId : String) (role : Role)
  | assignActive (userId : String) (active : Bool)
  | create (newId email : String)
  deriving DecidableEq

namespace Write

def target : Write → String
  | assignRole userId _ => userId
  | assignActive userId _ => userId
  | create newId _ => newId

def apply (users : Users) : Write → Users
  | assignRole userId role => users.modify userId (fun u => { u with role }) fun _ => rfl
  | assignActive userId active =>
    users.modify userId (fun u => { u with isActive := active }) fun _ => rfl
  | create newId email => users.write ⟨newId, email, .admin, true⟩

def keeps : Write → Bool
  | assignRole _ role => decide (role = .admin)
  | assignActive _ active => active
  | create .. => true

def clashes : Write → Write → Bool
  | create newId email, create newId' email' => decide (newId = newId' ∨ email = email')
  | w, w' => decide (w.target = w'.target)

end Write

inductive Refusal where
  | noUser
  | alreadySo
  | ownAccount
  | lastAdmin
  | taken
  deriving DecidableEq

inductive Stage where
  | begun
  /-- `count_admins` is next; the row is as it was read. -/
  | counting (user : User)
  /-- The write is next; `none` where the row already has the value. -/
  | writing (write : Option Write)
  | committing (write : Option Write)
  | done
  | refused (why : Refusal)
  deriving DecidableEq

structure Call where
  request : Request
  stage : Stage
  deriving DecidableEq

def Request.write (user : User) : Request → Option Write
  | .setRole _ role => if user.role = role then none else some (.assignRole user.id role)
  | .setActive _ active _ => some (.assignActive user.id active)
  | .ensureAdmin .. => if user.role = .admin then none else some (.assignRole user.id .admin)

def Request.read (users : Users) (request : Request) : Stage :=
  match request with
  | .setRole userId role =>
    match users.find? userId with
    | none => .refused .noUser
    | some user =>
      if user.role = .admin ∧ role ≠ .admin then .counting user else .writing (request.write user)
  | .setActive userId active actorId =>
    match users.find? userId with
    | none => .refused .noUser
    | some user =>
      if user.isActive = active then .refused .alreadySo
      else if active = false ∧ user.id = actorId then .refused .ownAccount
      else if active = false ∧ user.role = .admin then .counting user
      else .writing (request.write user)
  | .ensureAdmin email newId =>
    match users.rows.find? fun u => u.email = email with
    | none => .writing (some (.create newId email))
    | some user => .writing (request.write user)

structure World where
  users : Users
  calls : List Call

inductive Event where
  | start (request : Request)
  | read (n : ℕ)
  | count (n : ℕ)
  | write (n : ℕ)
  | commit (n : ℕ)
  deriving DecidableEq

namespace World

def goTo (w : World) (n : ℕ) (call : Call) (stage : Stage) : World :=
  { w with calls := w.calls.set n { call with stage } }

def locked (w : World) (n : ℕ) (write : Write) : Bool :=
  (w.calls.eraseIdx n).any fun call =>
    match call.stage with
    | .committing (some held) => held.clashes write
    | _ => false

def collides (w : World) : Write → Bool
  | .create newId email => w.users.rows.any fun u => u.id = newId ∨ u.email = email
  | _ => false

def step (w : World) : Event → Option World
  | .start request => some { w with calls := w.calls ++ [⟨request, .begun⟩] }
  | .read n =>
    match w.calls[n]? with
    | some call =>
      if call.stage = .begun then some (w.goTo n call (call.request.read w.users)) else none
    | none => none
  | .count n =>
    match w.calls[n]? with
    | some call =>
      match call.stage with
      | .counting user =>
        some (w.goTo n call (if countAdmins w.users ≤ 1 then .refused .lastAdmin
          else .writing (call.request.write user)))
      | _ => none
    | none => none
  | .write n =>
    match w.calls[n]? with
    | some call =>
      match call.stage with
      | .writing none => some (w.goTo n call (.committing none))
      | .writing (some write) =>
        if w.locked n write then none
        else if w.collides write then some (w.goTo n call (.refused .taken))
        else some (w.goTo n call (.committing (some write)))
      | _ => none
    | none => none
  | .commit n =>
    match w.calls[n]? with
    | some call =>
      match call.stage with
      | .committing write =>
        some { w.goTo n call .done with users := write.elim w.users (Write.apply w.users) }
      | _ => none
    | none => none

end World

def Heads (users : Users) (id : String) : Prop :=
  ∃ u ∈ users.rows, u.id = id ∧ u.administers = true

instance (users : Users) (id : String) : Decidable (Heads users id) := List.decidableBEx ..

theorem administered_iff {users : Users} : Administered users ↔ ∃ id, Heads users id := by
  constructor
  · rintro ⟨u, mem, is⟩
    exact ⟨u.id, u, mem, rfl, is⟩
  · rintro ⟨_, u, mem, -, is⟩
    exact ⟨u, mem, is⟩

theorem exists_other {users : Users} (more : 1 < countAdmins users) (id : String) :
    ∃ other, other ≠ id ∧ Heads users other := by
  by_contra none
  push Not at none
  have all : ∀ k ∈ (users.rows.filter User.administers).map User.id, k = id := by
    intro k mem
    obtain ⟨u, kept, rfl⟩ := List.mem_map.mp mem
    obtain ⟨here, is⟩ := List.mem_filter.mp kept
    by_contra other
    exact none u.id other ⟨u, here, rfl, is⟩
  have distinct : ((users.rows.filter User.administers).map User.id).Nodup :=
    users.keys.sublist (List.filter_sublist.map User.id)
  rw [List.eq_replicate_of_mem all, List.nodup_replicate, List.length_map] at distinct
  exact absurd more (not_lt.mpr distinct)

section Apply

variable {users : Users} {w : Write}

theorem mem_assignRole {userId : String} {role : Role} {u : User} :
    u ∈ (Write.apply users (.assignRole userId role)).rows ↔
      (∃ a ∈ users.rows, a.id = userId ∧ { a with role } = u) ∨ u ∈ users.rows ∧ u.id ≠ userId := by
  unfold Write.apply
  rw [Table.mem_modify]

theorem mem_assignActive {userId : String} {active : Bool} {u : User} :
    u ∈ (Write.apply users (.assignActive userId active)).rows ↔
      (∃ a ∈ users.rows, a.id = userId ∧ { a with isActive := active } = u) ∨
        u ∈ users.rows ∧ u.id ≠ userId := by
  unfold Write.apply
  rw [Table.mem_modify]

theorem heads_apply_of_ne {id : String} (other : id ≠ w.target) :
    Heads (w.apply users) id ↔ Heads users id := by
  have same : ∀ u : User, u.id = id → (u ∈ (w.apply users).rows ↔ u ∈ users.rows) := by
    rintro u rfl
    cases w with
    | assignRole userId role =>
      refine mem_assignRole.trans ⟨fun mem => ?_, fun mem => .inr ⟨mem, other⟩⟩
      rcases mem with ⟨a, -, here, rfl⟩ | ⟨mem, -⟩
      · exact absurd here other
      · exact mem
    | assignActive userId active =>
      refine mem_assignActive.trans ⟨fun mem => ?_, fun mem => .inr ⟨mem, other⟩⟩
      rcases mem with ⟨a, -, here, rfl⟩ | ⟨mem, -⟩
      · exact absurd here other
      · exact mem
    | create =>
      refine Table.mem_write.trans ⟨fun mem => ?_, fun mem => .inl ⟨mem, other⟩⟩
      rcases mem with ⟨mem, -⟩ | rfl
      · exact mem
      · exact absurd rfl other
  constructor
  · rintro ⟨u, mem, here, is⟩
    exact ⟨u, (same u here).mp mem, here, is⟩
  · rintro ⟨u, mem, here, is⟩
    exact ⟨u, (same u here).mpr mem, here, is⟩

theorem heads_apply_of_keeps {id : String} (keeps : w.keeps = true) (heads : Heads users id) :
    Heads (w.apply users) id := by
  by_cases other : id = w.target
  · obtain ⟨u, mem, here, is⟩ := heads
    cases w with
    | assignRole userId role =>
      refine ⟨{ u with role }, mem_assignRole.mpr (.inl ⟨u, mem, here.trans other, rfl⟩), here, ?_⟩
      unfold User.administers at is ⊢
      rw [Bool.and_eq_true] at is ⊢
      exact ⟨keeps, is.2⟩
    | assignActive userId active =>
      refine ⟨{ u with isActive := active },
        mem_assignActive.mpr (.inl ⟨u, mem, here.trans other, rfl⟩), here, ?_⟩
      unfold User.administers at is ⊢
      rw [Bool.and_eq_true] at is ⊢
      exact ⟨is.1, keeps⟩
    | create newId email =>
      exact ⟨⟨newId, email, .admin, true⟩, Table.mem_write.mpr (.inr rfl), other.symm, rfl⟩
  · exact (heads_apply_of_ne other).mpr heads

theorem not_heads_apply (drops : w.keeps = false) : ¬ Heads (w.apply users) w.target := by
  rintro ⟨u, mem, here, is⟩
  unfold User.administers at is
  rw [Bool.and_eq_true] at is
  cases w with
  | assignRole userId role =>
    rcases mem_assignRole.mp mem with ⟨a, -, -, rfl⟩ | ⟨-, other⟩
    · exact Bool.noConfusion (drops.symm.trans is.1)
    · exact other here
  | assignActive userId active =>
    rcases mem_assignActive.mp mem with ⟨a, -, -, rfl⟩ | ⟨-, other⟩
    · exact Bool.noConfusion (drops.symm.trans is.2)
    · exact other here
  | create => cases drops

end Apply

def Stage.pending? : Stage → Option Write
  | writing write => write
  | committing write => write
  | _ => none

def Stage.Drops (stage : Stage) (id : String) : Prop :=
  ∃ w ∈ stage.pending?, w.keeps = false ∧ w.target = id

instance (stage : Stage) (id : String) : Decidable (stage.Drops id) := by
  unfold Stage.Drops
  infer_instance

theorem not_heads_of_read {users : Users} {request : Request} {id : String}
    (drops : (request.read users).Drops id) : ¬ Heads users id := by
  have apart : ∀ {user : User}, user ∈ users.rows → user.administers = false →
      ¬ Heads users user.id := by
    rintro user mem is ⟨u, mem', here, is'⟩
    cases Table.eq_of_key mem mem' here.symm
    exact Bool.noConfusion (is.symm.trans is')
  obtain ⟨w, pending, dropped, rfl⟩ := drops
  cases request with
  | setRole userId role =>
    dsimp only [Request.read] at pending
    split at pending
    · cases pending
    · next user found =>
      split at pending
      · cases pending
      · next unchecked =>
        dsimp only [Stage.pending?, Request.write] at pending
        split at pending
        · cases pending
        · cases pending
          refine apart (List.mem_of_find?_eq_some found) ?_
          have lower : role ≠ .admin := of_decide_eq_false dropped
          have other : user.role ≠ .admin := fun is => unchecked ⟨is, lower⟩
          simp [User.administers, other]
  | setActive userId active actorId =>
    dsimp only [Request.read] at pending
    split at pending
    · cases pending
    · next user found =>
      split_ifs at pending with same own unchecked
      · cases pending
      · cases pending
      · cases pending
      · cases pending
        refine apart (List.mem_of_find?_eq_some found) ?_
        have other : user.role ≠ .admin := fun is => unchecked ⟨dropped, is⟩
        simp [User.administers, other]
  | ensureAdmin email newId =>
    dsimp only [Request.read] at pending
    split at pending
    · cases pending
      cases dropped
    · dsimp only [Stage.pending?, Request.write] at pending
      split at pending
      · cases pending
      · cases pending
        cases dropped

namespace World

structure Headed (w : World) : Prop where
  administered : Administered w.users
  another : ∀ call ∈ w.calls, ∀ id, call.stage.Drops id → Heads w.users id →
    ∃ other, other ≠ id ∧ Heads w.users other

def Threatens (users : Users) (write other : Write) : Prop :=
  other.keeps = false ∧
    (write.keeps = false ∧ Heads users write.target ∧ Heads users other.target ∨
      ¬ Heads users write.target ∧ Heads (write.apply users) write.target ∧
        other.target = write.target)

instance (users : Users) (write other : Write) : Decidable (Threatens users write other) :=
  inferInstanceAs (Decidable (_ ∧ _))

def Apart (w : World) : Event → Prop
  | .commit n =>
    ∀ call ∈ w.calls[n]?.toList, ∀ write ∈ call.stage.pending?.toList,
      ∀ call' ∈ w.calls.eraseIdx n, ∀ other ∈ call'.stage.pending?.toList,
        ¬ Threatens w.users write other
  | _ => True

instance (w : World) (e : Event) : Decidable (w.Apart e) := by
  cases e <;> dsimp only [Apart] <;> infer_instance

theorem Headed.goTo {w : World} (headed : w.Headed) {n : ℕ} {call : Call} {stage : Stage}
    (calm : ∀ id, stage.Drops id → Heads w.users id →
      ∃ other, other ≠ id ∧ Heads w.users other) : (w.goTo n call stage).Headed where
  administered := headed.administered
  another := by
    intro call' mem id drops heads
    rcases List.mem_or_eq_of_mem_set mem with old | rfl
    · exact headed.another call' old id drops heads
    · exact calm id drops heads

theorem mem_eraseIdx_of_mem_set {calls : List Call} {n : ℕ} {call call' : Call}
    (mem : call' ∈ calls.set n call) : call' = call ∨ call' ∈ calls.eraseIdx n := by
  obtain ⟨m, at_⟩ := List.mem_iff_getElem?.mp mem
  by_cases same : n = m
  · subst same
    rw [List.getElem?_set_self'] at at_
    obtain ⟨_, -, rfl⟩ := Option.map_eq_some_iff.mp at_
    exact .inl rfl
  · rw [List.getElem?_set_ne same] at at_
    exact .inr (List.mem_eraseIdx_iff_getElem?.mpr ⟨m, Ne.symm same, at_⟩)

theorem Headed.commit {w : World} (headed : w.Headed) {n : ℕ} {call : Call} {write : Write}
    (is : w.calls[n]? = some call) (stage : call.stage = .committing (some write))
    (apart : w.Apart (.commit n)) :
    Headed { w.goTo n call .done with users := write.apply w.users } := by
  have mine := List.mem_of_getElem? is
  have pending : write ∈ call.stage.pending? := by
    rw [stage]
    rfl
  have apart_ : ∀ call' ∈ w.calls.eraseIdx n, ∀ o ∈ call'.stage.pending?,
      ¬ Threatens w.users write o := fun call' old o waits =>
    apart call (Option.mem_toList.mpr is) write (Option.mem_toList.mpr pending) call' old o
      (Option.mem_toList.mpr waits)
  have other : ∀ call' ∈ w.calls.set n { call with stage := .done }, ∀ id, call'.stage.Drops id →
      call' ∈ w.calls.eraseIdx n := by
    rintro call' mem id ⟨_, waits, -⟩
    rcases mem_eraseIdx_of_mem_set mem with rfl | old
    · cases waits
    · exact old
  cases keeps : write.keeps with
  | true =>
    refine ⟨?_, fun call' mem id drops heads => ?_⟩
    · obtain ⟨id, heads⟩ := administered_iff.mp headed.administered
      exact administered_iff.mpr ⟨id, heads_apply_of_keeps keeps heads⟩
    · have old := other call' mem id drops
      have before : Heads w.users id := by
        by_cases same : id = write.target
        · by_contra new
          obtain ⟨o, waits, dropped, here⟩ := drops
          exact apart_ call' old o waits ⟨dropped, .inr ⟨same ▸ new, same ▸ heads, here.trans same⟩⟩
        · exact (heads_apply_of_ne same).mp heads
      obtain ⟨id', ne, heads'⟩ :=
        headed.another call' (List.mem_of_mem_eraseIdx old) id drops before
      exact ⟨id', ne, heads_apply_of_keeps keeps heads'⟩
  | false =>
    have kept : ∀ id, Heads (write.apply w.users) id ↔ Heads w.users id ∧ id ≠ write.target := by
      intro id
      by_cases same : id = write.target
      · subst same
        exact iff_of_false (not_heads_apply keeps) fun both => both.2 rfl
      · rw [heads_apply_of_ne same]
        exact ⟨fun heads => ⟨heads, same⟩, And.left⟩
    by_cases heads : Heads w.users write.target
    · obtain ⟨id, ne, heads'⟩ := headed.another call mine _ ⟨write, pending, keeps, rfl⟩ heads
      refine ⟨administered_iff.mpr ⟨id, (kept id).mpr ⟨heads', ne⟩⟩, ?_⟩
      intro call' mem id' drops after
      have old := other call' mem id' drops
      obtain ⟨o, waits, dropped, rfl⟩ := drops
      exact absurd ⟨dropped, .inl ⟨keeps, heads, ((kept _).mp after).1⟩⟩ (apart_ call' old o waits)
    · have unchanged : ∀ id, Heads (write.apply w.users) id ↔ Heads w.users id := fun id =>
        (kept id).trans ⟨And.left, fun here => ⟨here, fun same => heads (same ▸ here)⟩⟩
      refine ⟨?_, fun call' mem id drops after => ?_⟩
      · obtain ⟨id, here⟩ := administered_iff.mp headed.administered
        exact administered_iff.mpr ⟨id, (unchanged id).mpr here⟩
      · have old := List.mem_of_mem_eraseIdx (other call' mem id drops)
        obtain ⟨id', ne, here⟩ := headed.another call' old id drops ((unchanged id).mp after)
        exact ⟨id', ne, (unchanged id').mpr here⟩

theorem Headed.step {w w' : World} {e : Event} (headed : w.Headed) (apart : w.Apart e)
    (taken : w.step e = some w') : w'.Headed := by
  cases e with
  | start request =>
    cases taken
    refine ⟨headed.administered, fun call mem id drops heads => ?_⟩
    rcases List.mem_append.mp mem with old | new
    · exact headed.another call old id drops heads
    · cases List.mem_singleton.mp new
      obtain ⟨_, waits, -⟩ := drops
      cases waits
  | read n =>
    dsimp only [World.step] at taken
    split at taken
    · split at taken
      · cases taken
        exact headed.goTo fun id drops heads => absurd heads (not_heads_of_read drops)
      · cases taken
    · cases taken
  | count n =>
    dsimp only [World.step] at taken
    split at taken
    · split at taken
      · cases taken
        refine headed.goTo fun id drops heads => ?_
        split at drops
        · obtain ⟨_, waits, -⟩ := drops
          cases waits
        · next more => exact exists_other (not_le.mp more) id
      · cases taken
    · cases taken
  | write n =>
    dsimp only [World.step] at taken
    split at taken
    · next call is =>
      have mine := List.mem_of_getElem? is
      split at taken
      · cases taken
        refine headed.goTo fun id drops _ => ?_
        obtain ⟨_, waits, -⟩ := drops
        cases waits
      · next write stage =>
        split at taken
        · cases taken
        · split at taken
          · cases taken
            refine headed.goTo fun id drops _ => ?_
            obtain ⟨_, waits, -⟩ := drops
            cases waits
          · cases taken
            refine headed.goTo fun id drops heads => headed.another call mine id ?_ heads
            rw [stage]
            exact drops
      · cases taken
    · cases taken
  | commit n =>
    dsimp only [World.step] at taken
    split at taken
    · next call is =>
      split at taken
      · next write stage =>
        cases taken
        cases write with
        | none =>
          refine headed.goTo fun id drops _ => ?_
          obtain ⟨_, waits, -⟩ := drops
          cases waits
        | some write => exact headed.commit is stage apart
      · cases taken
    · cases taken

def Refuses (w w' : World) : Prop :=
  ∃ n : ℕ, ∃ call : Call, w'.calls[n]? = some call ∧ call.stage = .refused .lastAdmin ∧
    w.calls[n]? ≠ some call

theorem users_of_refuses {w w' : World} {e : Event} (taken : w.step e = some w')
    (refuses : w.Refuses w') : w'.users = w.users := by
  cases e with
  | start | read | count | write =>
    dsimp only [World.step] at taken
    grind [World.goTo]
  | commit n =>
    dsimp only [World.step] at taken
    split at taken
    · split at taken
      · cases taken
        obtain ⟨m, call', at_, refused, new⟩ := refuses
        by_cases same : n = m
        · subst same
          change (w.calls.set n _)[n]? = some call' at at_
          rw [List.getElem?_set_self'] at at_
          obtain ⟨_, -, rfl⟩ := Option.map_eq_some_iff.mp at_
          cases refused
        · exact absurd ((List.getElem?_set_ne same).symm.trans at_) new
      · cases taken
    · cases taken

end World

/-- From any users with an administrator on, in every run of statements and commits of which each
meets `Apart`, there is an administrator at every commit; and a call that is refused as the last one
writes nothing. -/
theorem administered_along (users : Users) (administered : Administered users) (es : List Event)
    (meets : Run.Meets World.step World.Apart ⟨users, []⟩ es) :
    Run.Along World.step (fun w => Administered w.users) ⟨users, []⟩ es ∧
      ∀ w w' e, World.step w e = some w' → w.Refuses w' → w'.users = w.users := by
  have start : World.Headed ⟨users, []⟩ := ⟨administered, fun _ mem => nomatch mem⟩
  refine ⟨?_, fun w w' e taken refuses => World.users_of_refuses taken refuses⟩
  refine (Run.along_of_meets (fun w e w' headed apart taken => ?_) start meets).mono
    fun w headed => headed.administered
  exact World.Headed.step headed apart taken

def twoAdmins : Users where
  rows := [⟨"a", "a@x", .admin, true⟩, ⟨"b", "b@x", .admin, true⟩]
  keys := by decide

/-- One demotes the other, and is not demoted in turn. -/
theorem administered_along_twoAdmins :
    Run.Along World.step (fun w => Administered w.users) ⟨twoAdmins, []⟩
        [.start (.setRole "b" .user), .read 0, .count 0, .write 0, .commit 0,
          .start (.setRole "a" .user), .read 1, .count 1] ∧
      ∀ w w' e, World.step w e = some w' → w.Refuses w' → w'.users = w.users :=
  administered_along twoAdmins (by decide) _ (by decide +kernel)

/-- Two administrators demote each other: both are counted before either is demoted. -/
theorem not_forall_administered :
    ¬ Run.Along World.step (fun w => Administered w.users) ⟨twoAdmins, []⟩
      [.start (.setRole "b" .user), .start (.setRole "a" .user), .read 0, .read 1, .count 0,
        .count 1, .write 0, .write 1, .commit 0, .commit 1] := by
  intro along
  have last : ∃ w, Run.exec World.step ⟨twoAdmins, []⟩
      [.start (.setRole "b" .user), .start (.setRole "a" .user), .read 0, .read 1, .count 0,
        .count 1, .write 0, .write 1, .commit 0, .commit 1] = some w ∧ ¬ Administered w.users :=
    ⟨_, rfl, by decide +kernel⟩
  obtain ⟨w, run, none⟩ := last
  exact none (along.last run)

end TradeResearch.Auth
