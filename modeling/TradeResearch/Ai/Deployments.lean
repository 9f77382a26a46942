import TradeResearch.Ai.Course

/-!
# Statuses and deployments

Whether the status of a version and the deployments that serve it tell one story.

* `Placed` is so of the active deployments after every call; `View.Agrees` and `View.Chained` are
  the statuses' side of it.
* `Orderly` is when a call that ends a deployment finds no other of its version.
* `told_iff_conduct` is the result, for every sequence of calls.
-/

namespace TradeResearch.Ai

/-! ## The table of transitions -/

theorem legal_iff {current target : ModelStatus} :
    Legal current target ↔ canTransition current target = true := by
  unfold Legal checkTransition
  constructor
  · intro legal
    split at legal
    · cases legal
    · split at legal
      · cases legal
      · split at legal
        · cases legal
        · next can => exact (Bool.not_eq_false _).mp can
  · intro can
    have moves : current ≠ target ∧ current ∉ terminal := by
      revert can
      cases current <;> cases target <;> decide
    rw [if_neg moves.1, if_neg moves.2, if_neg (by rw [can]; decide)]

instance (current target : ModelStatus) : Decidable (Legal current target) :=
  decidable_of_iff _ legal_iff.symm

def ModelStatus.Deployed (status : ModelStatus) : Prop := status = .paper ∨ status = .promoted

instance (status : ModelStatus) : Decidable status.Deployed := by
  unfold ModelStatus.Deployed
  infer_instance

def Walks (first : ModelStatus) : List (ModelStatus × ModelStatus) → ModelStatus → Prop
  | [], last => first = last
  | change :: rest, last => change.1 = first ∧ Legal first change.2 ∧ Walks change.2 rest last

theorem Walks.concat {first current target : ModelStatus}
    {changes : List (ModelStatus × ModelStatus)} (walks : Walks first changes current)
    (legal : Legal current target) : Walks first (changes ++ [(current, target)]) target := by
  induction changes generalizing first with
  | nil =>
    cases walks
    exact ⟨rfl, legal, rfl⟩
  | cons change rest ih => exact ⟨walks.1, walks.2.1, ih walks.2.2⟩

namespace View

variable (v : View)

def Deployed (id : String) : Prop := v.status id = some .paper ∨ v.status id = some .promoted

def changesOf (id : String) : List (ModelStatus × ModelStatus) :=
  (v.changes.filter fun change => change.1 = id).map Prod.snd

def Chained : Prop :=
  ∀ id status, v.status id = some status → Walks .draft (v.changesOf id) status

def Agrees : Prop := ∀ id, v.Deployed id ↔ ∃ d ∈ v.active, d.modelVersionId = id

variable {v} {id : String}

theorem changesOf_move_self :
    (v.move id current target).changesOf id = v.changesOf id ++ [(current, target)] := by
  simp [changesOf, View.move]

theorem changesOf_move_of_ne {other : String} (apart : other ≠ id) :
    (v.move id current target).changesOf other = v.changesOf other := by
  simp [changesOf, View.move, Ne.symm apart]

theorem Chained.move (chained : v.Chained) (is : v.status id = some current)
    (legal : Legal current target) : (v.move id current target).Chained := by
  intro id' status now
  unfold View.move at now
  dsimp only at now
  by_cases same : id' = id
  · subst same
    rw [Function.update_self] at now
    cases now
    rw [changesOf_move_self]
    exact (chained id' current is).concat legal
  · rw [Function.update_of_ne same] at now
    rw [changesOf_move_of_ne same]
    exact chained id' status now

theorem deployed_move_self : (v.move id current target).Deployed id ↔ target.Deployed := by
  unfold Deployed View.move ModelStatus.Deployed
  dsimp only
  rw [Function.update_self]
  simp only [Option.some.injEq]

theorem deployed_move_of_ne {other : String} (apart : other ≠ id) :
    (v.move id current target).Deployed other ↔ v.Deployed other := by
  unfold Deployed View.move
  dsimp only
  rw [Function.update_of_ne apart]

theorem deployed_iff (is : v.status id = some current) : v.Deployed id ↔ current.Deployed := by
  unfold Deployed ModelStatus.Deployed
  rw [is]
  simp only [Option.some.injEq]

theorem Agrees.move_idle (agrees : v.Agrees) (idle : ¬ v.Deployed id) (stays : ¬ target.Deployed) :
    (v.move id current target).Agrees := by
  intro other
  by_cases same : other = id
  · subst same
    refine iff_of_false (fun now => stays (deployed_move_self.mp now)) fun serving => ?_
    exact idle ((agrees other).mpr serving)
  · exact (deployed_move_of_ne same).trans (agrees other)

theorem Agrees.move_deployed (agrees : v.Agrees) (was : v.Deployed id) (stays : target.Deployed) :
    (v.move id current target).Agrees := by
  intro other
  by_cases same : other = id
  · subst same
    exact iff_of_true (deployed_move_self.mpr stays) ((agrees other).mp was)
  · exact (deployed_move_of_ne same).trans (agrees other)

theorem mem_finish {d : ModelDeployment} {number : ℕ} :
    d ∈ (v.finish number).active ↔ d ∈ v.active ∧ d.id ≠ number := by
  unfold View.finish
  simp only [List.mem_filter, decide_eq_true_eq]

theorem mem_place {d e : ModelDeployment} : e ∈ (v.place d).active ↔ e ∈ v.active ∨ e = d := by
  unfold View.place
  simp only [List.mem_append, List.mem_singleton]

theorem Agrees.finish (agrees : v.Agrees) {d : ModelDeployment}
    (alone : ∀ e ∈ v.active, e.modelVersionId = d.modelVersionId → e = d)
    (distinct : ∀ e ∈ v.active, e.id = d.id → e = d) (stays : ¬ target.Deployed) :
    ((v.finish d.id).move d.modelVersionId current target).Agrees := by
  intro other
  by_cases same : other = d.modelVersionId
  · subst same
    refine iff_of_false (fun now => stays (deployed_move_self.mp now)) ?_
    rintro ⟨e, mem, version⟩
    obtain ⟨mem, apart⟩ := mem_finish.mp mem
    exact apart (congrArg ModelDeployment.id (alone e mem version))
  · refine (deployed_move_of_ne same).trans ((agrees other).trans ?_)
    constructor
    · rintro ⟨e, mem, rfl⟩
      refine ⟨e, mem_finish.mpr ⟨mem, fun number => same ?_⟩, rfl⟩
      rw [distinct e mem number]
    · rintro ⟨e, mem, version⟩
      exact ⟨e, (mem_finish.mp mem).1, version⟩

theorem Agrees.place (agrees : v.Agrees) {d : ModelDeployment} (version : d.modelVersionId = id)
    (becomes : target.Deployed) : ((v.place d).move id current target).Agrees := by
  intro other
  by_cases same : other = id
  · subst same
    exact iff_of_true (deployed_move_self.mpr becomes)
      ⟨d, mem_place.mpr (.inr rfl), version⟩
  · refine (deployed_move_of_ne same).trans ((agrees other).trans ?_)
    constructor
    · rintro ⟨e, mem, is⟩
      exact ⟨e, mem_place.mpr (.inl mem), is⟩
    · rintro ⟨e, mem, is⟩
      rcases mem_place.mp mem with mem | rfl
      · exact ⟨e, mem, is⟩
      · exact absurd (is.symm.trans version) same

theorem Agrees.enter (agrees : v.Agrees) {d : ModelDeployment} (version : d.modelVersionId = id)
    (is : v.status id = some current) : ((v.place d).enter id current).Agrees := by
  unfold View.enter
  split
  · next paper =>
    subst paper
    intro other
    refine (agrees other).trans ⟨fun ⟨e, mem, of⟩ => ⟨e, mem_place.mpr (.inl mem), of⟩, ?_⟩
    rintro ⟨e, mem, of⟩
    rcases mem_place.mp mem with mem | rfl
    · exact ⟨e, mem, of⟩
    · exact (agrees other).mp (of ▸ version ▸ .inl is)
  · exact agrees.place version (.inl rfl)

theorem Agrees.revive (agrees : v.Agrees) (is : v.status id = some current) :
    (v.revive id current).Agrees := by
  unfold View.revive
  split
  · next rolledBack =>
    subst rolledBack
    exact agrees.move_idle (fun deployed => absurd ((deployed_iff is).mp deployed) (by decide))
      (by decide)
  · exact agrees

end View

/-! ## The active deployments -/

structure Placed (v : View) : Prop where
  numbered : ∀ d ∈ v.active, d.id < v.next
  distinct : ∀ d ∈ v.active, ∀ e ∈ v.active, d.id = e.id → d = e
  unique : ∀ d ∈ v.active, ∀ e ∈ v.active, d.slot = e.slot → d = e
  keyed : ∀ d ∈ v.active, d.scopeKey = d.scope.key
  modelled : ∀ d ∈ v.active, v.key d.modelVersionId = some d.modelKey
  heir : ∀ d ∈ v.active, ∀ previous ∈ d.previousVersionId, v.key previous = some d.modelKey

namespace Placed

theorem congr (placed : Placed v) (active : v'.active = v.active) (key : v'.key = v.key)
    (next : v'.next = v.next) : Placed v' where
  numbered := by
    rw [active, next]
    exact placed.numbered
  distinct := by
    rw [active]
    exact placed.distinct
  unique := by
    rw [active]
    exact placed.unique
  keyed := by
    rw [active]
    exact placed.keyed
  modelled := by
    rw [active, key]
    exact placed.modelled
  heir := by
    rw [active, key]
    exact placed.heir

theorem finish (placed : Placed v) (number : ℕ) : Placed (v.finish number) where
  numbered := fun d mem => placed.numbered d (View.mem_finish.mp mem).1
  distinct := fun d mem e mem' =>
    placed.distinct d (View.mem_finish.mp mem).1 e (View.mem_finish.mp mem').1
  unique := fun d mem e mem' =>
    placed.unique d (View.mem_finish.mp mem).1 e (View.mem_finish.mp mem').1
  keyed := fun d mem => placed.keyed d (View.mem_finish.mp mem).1
  modelled := fun d mem => placed.modelled d (View.mem_finish.mp mem).1
  heir := fun d mem => placed.heir d (View.mem_finish.mp mem).1

theorem place (placed : Placed v) {d : ModelDeployment} {id key : String} {scope : Scope}
    {previous : Option String} (new : New v.next d id key scope previous)
    (free : ∀ e ∈ v.active, e.slot ≠ scope.slot key) (model : v.key id = some key)
    (heir : ∀ p ∈ previous, v.key p = some key) : Placed (v.place d) := by
  have slot : d.slot = scope.slot key := by
    unfold ModelDeployment.slot Scope.slot
    rw [new.model, new.keyed, new.named]
  have later : ∀ e ∈ v.active, e.id ≠ d.id := by
    intro e mem same
    have before := placed.numbered e mem
    have number := new.number
    omega
  refine
    { numbered := fun e mem => ?_
      distinct := fun e mem e' mem' same => ?_
      unique := fun e mem e' mem' same => ?_
      keyed := fun e mem => ?_
      modelled := fun e mem => ?_
      heir := fun e mem => ?_ }
  · rcases View.mem_place.mp mem with old | rfl
    · exact (placed.numbered e old).trans (Nat.lt_succ_self _)
    · exact new.number ▸ Nat.lt_succ_self _
  · rcases View.mem_place.mp mem with old | rfl
    · rcases View.mem_place.mp mem' with old' | rfl
      · exact placed.distinct e old e' old' same
      · exact absurd same (later e old)
    · rcases View.mem_place.mp mem' with old' | rfl
      · exact absurd same.symm (later e' old')
      · rfl
  · rcases View.mem_place.mp mem with old | rfl
    · rcases View.mem_place.mp mem' with old' | rfl
      · exact placed.unique e old e' old' same
      · exact absurd (same.trans slot) (free e old)
    · rcases View.mem_place.mp mem' with old' | rfl
      · exact absurd (same.symm.trans slot) (free e' old')
      · rfl
  · rcases View.mem_place.mp mem with old | rfl
    · exact placed.keyed e old
    · rw [new.keyed, new.named]
  · rcases View.mem_place.mp mem with old | rfl
    · exact placed.modelled e old
    · rw [new.version, new.model]
      exact model
  · rcases View.mem_place.mp mem with old | rfl
    · exact placed.heir e old
    · rw [new.replaces, new.model]
      exact heir

theorem step (placed : Placed v) {call : Call} (course : Course v call v') : Placed v' := by
  cases course with
  | register | reject | promote | retire => exact placed.congr rfl rfl rfl
  | withdraw | stop => exact (placed.finish _).congr rfl rfl rfl
  | deploy is eligible key_ new free =>
    exact (placed.place new free key_ fun p mem => by cases mem).congr (by simp) (by simp)
      (by simp)
  | @supersede id scope actor reason key current d e is eligible key_ mem slot other new free =>
    have ended : Placed ((v.finish e.id).lower e.modelVersionId) :=
      (placed.finish _).congr (View.lower_active ..) (View.lower_key ..) (View.lower_next ..)
    have model : e.modelKey = key := (Prod.mk.inj slot).1
    have new₁ : New ((v.finish e.id).lower e.modelVersionId).next d id key scope
        (some e.modelVersionId) := by
      rw [View.lower_next]
      exact new
    have free₁ : ∀ e' ∈ ((v.finish e.id).lower e.modelVersionId).active,
        e'.slot ≠ scope.slot key := by
      rw [View.lower_active]
      exact free
    refine (ended.place new₁ free₁ ?_ ?_).congr (View.enter_active ..) (View.enter_key ..)
      (View.enter_next ..)
    · rw [View.lower_key]
      exact key_
    · intro p is
      cases is
      rw [View.lower_key]
      exact model ▸ placed.modelled e mem
  | @restore id scope actor reason key previous current before d e is deployed key_ mem slot version
      replaced was eligible new free =>
    have model : d.modelKey = key := (Prod.mk.inj slot).1
    have ended : Placed (((v.finish d.id).move id current .rolledBack).revive previous before) :=
      ((placed.finish _).congr rfl rfl rfl).congr (View.revive_active ..) (View.revive_key ..)
        (View.revive_next ..)
    have new₁ : New (((v.finish d.id).move id current .rolledBack).revive previous before).next e
        previous key scope (some id) := by
      rw [View.revive_next]
      exact new
    have free₁ : ∀ e' ∈ (((v.finish d.id).move id current .rolledBack).revive previous
        before).active, e'.slot ≠ scope.slot key := by
      rw [View.revive_active]
      exact free
    refine Placed.congr (ended.place new₁ free₁ ?_ ?_) rfl rfl rfl
    · rw [View.revive_key]
      exact model ▸ placed.heir d mem previous replaced
    · intro p is
      cases is
      rw [View.revive_key]
      exact key_

end Placed

/-! ## Calls that end a deployment -/

def Call.scope : Call → Option Scope
  | .deployToPaper _ scope _ _ | .promote _ scope _ _ | .rollback _ scope _ _
  | .stopDeployment _ scope _ _ => some scope
  | .register .. | .reject .. | .retire .. => none

def Call.ends : Call → Option (String × Scope)
  | .deployToPaper id scope _ _ | .rollback id scope _ _ | .stopDeployment id scope _ _ =>
    some (id, scope)
  | .register .. | .reject .. | .promote .. | .retire .. => none

def Orderly (v : View) (call : Call) : Prop :=
  ∀ id scope key, call.ends = some (id, scope) → v.key id = some key →
    ∀ d ∈ v.active, d.slot = scope.slot key →
      d.scope = scope ∧ ∀ e ∈ v.active, e.modelVersionId = d.modelVersionId → e = d

def View.Serves (v : View) (d : ModelDeployment) : Prop :=
  d ∈ v.active ∧ ∃ status ∈ servingStatuses, v.status d.modelVersionId = some status

def Keeps (v : View) (call : Call) (v' : View) : Prop :=
  ∀ d, v.Serves d → ¬ v'.Serves d → call.scope = some d.scope

namespace View

variable {v v' : View} {id : String}

theorem Serves.of_deployed (mem : d ∈ v.active) (deployed : v.Deployed d.modelVersionId) :
    v.Serves d := by
  rcases deployed with is | is
  · exact ⟨mem, .paper, by decide, is⟩
  · exact ⟨mem, .promoted, by decide, is⟩

theorem Serves.congr (serves : v.Serves d) (mem : d ∈ v'.active)
    (same : v'.status d.modelVersionId = v.status d.modelVersionId) : v'.Serves d := by
  obtain ⟨-, status, serving, is⟩ := serves
  exact ⟨mem, status, serving, same.trans is⟩

theorem status_move_of_ne {current target : ModelStatus} {other : String} (apart : other ≠ id) :
    (v.move id current target).status other = v.status other := Function.update_of_ne apart ..

theorem status_lower_of_ne {other : String} (apart : other ≠ id) :
    (v.lower id).status other = v.status other := by
  unfold lower
  split
  · exact status_move_of_ne apart
  · split
    · exact status_move_of_ne apart
    · rfl

theorem status_revive_of_ne {current : ModelStatus} {other : String} (apart : other ≠ id) :
    (v.revive id current).status other = v.status other := by
  unfold revive
  split
  · exact status_move_of_ne apart
  · rfl

theorem status_enter_of_ne {current : ModelStatus} {other : String} (apart : other ≠ id) :
    (v.enter id current).status other = v.status other := by
  unfold enter
  split
  · rfl
  · exact status_move_of_ne apart

theorem status_enter_self {current : ModelStatus} (is : v.status id = some current) :
    (v.enter id current).status id = some .paper := by
  unfold enter
  split
  · next paper => exact paper ▸ is
  · exact Function.update_self ..

theorem status_lower_self (deployed : v.Deployed id) :
    (v.lower id).status id = some .registered := by
  unfold lower
  rcases deployed with is | is
  · rw [if_pos is]
    exact Function.update_self ..
  · rw [is, if_neg (by decide), if_pos rfl]
    exact Function.update_self ..

end View

/-! ## One call -/

section

variable {v v' : View}

theorem View.Agrees.ne_of_mem (agrees : v.Agrees) {d : ModelDeployment} {id : String}
    (mem : d ∈ v.active) (idle : ¬ v.Deployed id) : d.modelVersionId ≠ id := by
  rintro rfl
  exact idle ((agrees _).mpr ⟨d, mem, rfl⟩)

theorem View.not_deployed {id : String} {current : ModelStatus} (is : v.status id = some current)
    (idle : ¬ current.Deployed) : ¬ v.Deployed id := fun deployed =>
  idle ((View.deployed_iff is).mp deployed)

theorem View.lower_eq {id : String} (deployed : v.Deployed id) :
    ∃ current, v.lower id = v.move id current .registered := by
  unfold View.lower
  rcases deployed with is | is
  · exact ⟨.paper, if_pos is⟩
  · exact ⟨.promoted, by rw [is, if_neg (by decide), if_pos rfl]⟩

theorem not_deployed_of_rejected {current : ModelStatus} (legal : Legal current .rejected) :
    ¬ current.Deployed := by
  revert legal
  cases current <;> decide

theorem ne_of_eligible {id previous : String} {current before : ModelStatus}
    (is : v.status id = some current) (deployed : current = .paper ∨ current = .promoted)
    (was : v.status previous = some before)
    (eligible : before = .registered ∨ before = .rolledBack) : previous ≠ id := by
  rintro rfl
  cases Option.some.inj (is.symm.trans was)
  rcases deployed with rfl | rfl <;> rcases eligible with no | no <;> cases no

theorem View.Agrees.step (agrees : v.Agrees) (placed : Placed v) (orderly : Orderly v call)
    (course : Course v call v') : v'.Agrees := by
  cases course with
  | register is into =>
    refine (agrees.move_idle (View.not_deployed is (by decide)) (by decide)).move_idle
      (View.not_deployed (Function.update_self ..) (by decide)) ?_
    rcases into with rfl | rfl <;> decide
  | reject is legal =>
    exact agrees.move_idle (View.not_deployed is (not_deployed_of_rejected legal)) (by decide)
  | deploy is eligible key_ new free => exact agrees.enter new.version is
  | @supersede id scope actor reason key current d e is eligible key_ mem slot other new free =>
    obtain ⟨-, alone⟩ := orderly id scope key rfl key_ e mem slot
    have deployed : (v.finish e.id).Deployed e.modelVersionId := (agrees _).mpr ⟨e, mem, rfl⟩
    obtain ⟨was, lowered⟩ := View.lower_eq deployed
    have ended : ((v.finish e.id).lower e.modelVersionId).Agrees :=
      lowered ▸ agrees.finish alone (fun e' mem' => placed.distinct e' mem' e mem) (by decide)
    exact ended.enter new.version ((View.status_lower_of_ne (Ne.symm other)).trans is)
  | promote is => exact agrees.move_deployed (.inl is) (by decide)
  | @withdraw id scope actor reason key current d is deployed key_ mem slot version =>
    obtain ⟨-, alone⟩ := orderly id scope key rfl key_ d mem slot
    subst version
    exact agrees.finish alone (fun e mem' => placed.distinct e mem' d mem) (by decide)
  | @restore id scope actor reason key previous current before d e is deployed key_ mem slot version
      replaced was eligible new free =>
    obtain ⟨-, alone⟩ := orderly id scope key rfl key_ d mem slot
    have apart := ne_of_eligible is deployed was eligible
    subst version
    have ended : ((v.finish d.id).move d.modelVersionId current .rolledBack).Agrees :=
      agrees.finish alone (fun e mem' => placed.distinct e mem' d mem) (by decide)
    have now : ((v.finish d.id).move d.modelVersionId current .rolledBack).status previous =
        some before := (View.status_move_of_ne apart).trans was
    exact (ended.revive now).place new.version (by decide)
  | @stop id scope actor reason key current d is legal key_ mem slot version =>
    obtain ⟨-, alone⟩ := orderly id scope key rfl key_ d mem slot
    subst version
    exact agrees.finish alone (fun e mem' => placed.distinct e mem' d mem) (by decide)
  | retire is legal idle =>
    refine agrees.move_idle (fun deployed => ?_) (by decide)
    obtain ⟨d, mem, version⟩ := (agrees _).mp deployed
    exact idle d mem version

theorem View.Chained.lower (chained : v.Chained) (id : String) : (v.lower id).Chained := by
  unfold View.lower
  split
  · next is => exact chained.move is (by decide)
  · split
    · next is => exact chained.move is (by decide)
    · exact chained

theorem View.Chained.revive (chained : v.Chained) {id : String} {current : ModelStatus}
    (is : v.status id = some current) : (v.revive id current).Chained := by
  unfold View.revive
  split
  · next rolledBack =>
    subst rolledBack
    exact chained.move is (by decide)
  · exact chained

theorem View.Chained.enter (chained : v.Chained) {id : String} {current : ModelStatus}
    (is : v.status id = some current) (eligible : current = .registered ∨ current = .paper) :
    (v.enter id current).Chained := by
  unfold View.enter
  split
  · exact chained
  · next other =>
    cases eligible.resolve_right other
    exact chained.move is (by decide)

theorem View.Chained.step (chained : v.Chained) (course : Course v call v') : v'.Chained := by
  cases course with
  | register is into =>
    refine (chained.move is (by decide)).move (Function.update_self ..) ?_
    rcases into with rfl | rfl <;> decide
  | reject is legal => exact chained.move is legal
  | @deploy id scope actor reason key current d is eligible =>
    have placed : (v.place d).Chained := chained
    exact placed.enter is eligible
  | @supersede id scope actor reason key current d e is eligible key_ mem slot other new free =>
    have ended : (v.finish e.id).Chained := chained
    have placed : (((v.finish e.id).lower e.modelVersionId).place d).Chained :=
      ended.lower e.modelVersionId
    exact placed.enter ((View.status_lower_of_ne (Ne.symm other)).trans is) eligible
  | promote is => exact chained.move is (by decide)
  | @withdraw id scope actor reason key current d is deployed =>
    have ended : (v.finish d.id).Chained := chained
    refine ended.move is ?_
    rcases deployed with rfl | rfl <;> decide
  | @restore id scope actor reason key previous current before d e is deployed key_ mem slot version
      replaced was eligible new free =>
    have apart := ne_of_eligible is deployed was eligible
    have ended : (v.finish d.id).Chained := chained
    have withdrawn : ((v.finish d.id).move id current .rolledBack).Chained := by
      refine ended.move is ?_
      rcases deployed with rfl | rfl <;> decide
    have now : ((v.finish d.id).move id current .rolledBack).status previous = some before :=
      (View.status_move_of_ne apart).trans was
    have placed : ((((v.finish d.id).move id current .rolledBack).revive previous before).place
        e).Chained := withdrawn.revive now
    exact placed.move (View.revive_status now eligible) (by decide)
  | @stop id scope actor reason key current d is legal =>
    have ended : (v.finish d.id).Chained := chained
    exact ended.move is legal
  | retire is legal => exact chained.move is legal

theorem Placed.mem_finish (placed : Placed v) {d e : ModelDeployment} (mem : e ∈ v.active)
    (mem' : d ∈ v.active) (apart : e ≠ d) : e ∈ (v.finish d.id).active :=
  View.mem_finish.mpr ⟨mem, fun number => apart (placed.distinct e mem d mem' number)⟩

theorem Keeps.of_orderly (agrees : v.Agrees) (placed : Placed v) (orderly : Orderly v call)
    (course : Course v call v') : Keeps v call v' := by
  intro d₀ serves stops
  have mem₀ := serves.1
  cases course with
  | register is into =>
    have apart := agrees.ne_of_mem mem₀ (View.not_deployed is (by decide))
    exact (stops (serves.congr mem₀
      ((View.status_move_of_ne apart).trans (View.status_move_of_ne apart)))).elim
  | reject is legal =>
    have apart := agrees.ne_of_mem mem₀ (View.not_deployed is (not_deployed_of_rejected legal))
    exact (stops (serves.congr mem₀ (View.status_move_of_ne apart))).elim
  | retire is legal idle =>
    exact (stops (serves.congr mem₀ (View.status_move_of_ne (idle d₀ mem₀)))).elim
  | @deploy id scope actor reason key current d is eligible key_ new free =>
    have mem : d₀ ∈ ((v.place d).enter id current).active := by
      rw [View.enter_active]
      exact View.mem_place.mpr (.inl mem₀)
    by_cases same : d₀.modelVersionId = id
    · subst same
      exact (stops ⟨mem, .paper, by decide, View.status_enter_self is⟩).elim
    · exact (stops (serves.congr mem (View.status_enter_of_ne same))).elim
  | @promote id scope actor reason is =>
    by_cases same : d₀.modelVersionId = id
    · subst same
      exact (stops ⟨mem₀, .promoted, by decide, Function.update_self ..⟩).elim
    · exact (stops (serves.congr mem₀ (View.status_move_of_ne same))).elim
  | @supersede id scope actor reason key current d e is eligible key_ mem slot other new free =>
    obtain ⟨named, alone⟩ := orderly id scope key rfl key_ e mem slot
    by_cases ended : d₀ = e
    · exact congrArg some (ended ▸ named.symm)
    · have kept := placed.mem_finish mem₀ mem ended
      have still : d₀ ∈ ((((v.finish e.id).lower e.modelVersionId).place d).enter id
          current).active := by
        rw [View.enter_active]
        refine View.mem_place.mpr (.inl ?_)
        rw [View.lower_active]
        exact kept
      have apart : d₀.modelVersionId ≠ e.modelVersionId := fun same => ended (alone d₀ mem₀ same)
      by_cases same : d₀.modelVersionId = id
      · subst same
        have is₁ := (View.status_lower_of_ne (v := v.finish e.id) apart).trans is
        exact (stops ⟨still, .paper, by decide, View.status_enter_self is₁⟩).elim
      · exact (stops (serves.congr still
          ((View.status_enter_of_ne same).trans (View.status_lower_of_ne apart)))).elim
  | @withdraw id scope actor reason key current d is deployed key_ mem slot version
  | @stop id scope actor reason key current d is legal key_ mem slot version =>
    obtain ⟨named, alone⟩ := orderly id scope key rfl key_ d mem slot
    by_cases ended : d₀ = d
    · exact congrArg some (ended ▸ named.symm)
    · have still := placed.mem_finish mem₀ mem ended
      have apart : d₀.modelVersionId ≠ id := fun same =>
        ended (alone d₀ mem₀ (same.trans version.symm))
      exact (stops (serves.congr still (View.status_move_of_ne apart))).elim
  | @restore id scope actor reason key previous current before d e is deployed key_ mem slot version
      replaced was eligible new free =>
    obtain ⟨named, alone⟩ := orderly id scope key rfl key_ d mem slot
    by_cases ended : d₀ = d
    · exact congrArg some (ended ▸ named.symm)
    · have kept := placed.mem_finish mem₀ mem ended
      have still : d₀ ∈ (((((v.finish d.id).move id current .rolledBack).revive previous
          before).place e).move previous .registered .paper).active := by
        refine View.mem_place.mpr (.inl ?_)
        rw [View.revive_active]
        exact kept
      have apart : d₀.modelVersionId ≠ id := fun same =>
        ended (alone d₀ mem₀ (same.trans version.symm))
      by_cases same : d₀.modelVersionId = previous
      · subst same
        exact (stops ⟨still, .paper, by decide, Function.update_self ..⟩).elim
      · refine (stops (serves.congr still ?_)).elim
        exact (View.status_move_of_ne same).trans
          ((View.status_revive_of_ne same).trans (View.status_move_of_ne apart))

theorem ended_of_course (agrees : v.Agrees) (placed : Placed v) (course : Course v call v')
    {id key : String} {scope : Scope} {d : ModelDeployment} (ends : call.ends = some (id, scope))
    (key_ : v.key id = some key) (mem : d ∈ v.active) (slot : d.slot = scope.slot key) :
    d ∉ v'.active ∧ ¬ v'.Deployed d.modelVersionId ∧ ∀ e ∈ v.active, e ≠ d → e ∈ v'.active := by
  have gone : d ∉ (v.finish d.id).active := fun still => (View.mem_finish.mp still).2 rfl
  cases course with
  | register | reject | promote | retire => cases ends
  | deploy _ _ model _ free =>
    cases ends
    cases Option.some.inj (key_.symm.trans model)
    exact absurd slot (free d mem)
  | @supersede id scope actor reason key' current new_ e is eligible model mem' slot' other new =>
    cases ends
    cases Option.some.inj (key_.symm.trans model)
    cases placed.unique d mem e mem' (slot.trans slot'.symm)
    refine ⟨fun still => ?_, fun deployed => ?_, fun e mem'' apart => ?_⟩
    · rw [View.enter_active] at still
      rcases View.mem_place.mp still with still | rfl
      · rw [View.lower_active] at still
        exact gone still
      · have before := placed.numbered d mem
        have number := new.number
        omega
    · have lowered : ((v.finish d.id).lower d.modelVersionId).status d.modelVersionId =
          some .registered := View.status_lower_self ((agrees _).mpr ⟨d, mem, rfl⟩)
      have now : ((((v.finish d.id).lower d.modelVersionId).place new_).enter id current).status
          d.modelVersionId = some .registered := (View.status_enter_of_ne other).trans lowered
      exact View.not_deployed now (by decide) deployed
    · rw [View.enter_active]
      refine View.mem_place.mpr (.inl ?_)
      rw [View.lower_active]
      exact placed.mem_finish mem'' mem apart
  | withdraw is deployed model mem' slot' version | stop is legal model mem' slot' version =>
    cases ends
    cases Option.some.inj (key_.symm.trans model)
    cases placed.unique _ mem _ mem' (slot.trans slot'.symm)
    refine ⟨gone, ?_, fun e mem'' apart => placed.mem_finish mem'' mem apart⟩
    rw [version]
    exact View.not_deployed (Function.update_self ..) (by decide)
  | @restore id scope actor reason key' previous current before d' e is deployed model mem' slot'
      version replaced was eligible new =>
    cases ends
    cases Option.some.inj (key_.symm.trans model)
    cases placed.unique d mem d' mem' (slot.trans slot'.symm)
    have apart := ne_of_eligible is deployed was eligible
    refine ⟨fun still => ?_, ?_, fun e mem'' apart => ?_⟩
    · rcases View.mem_place.mp still with still | rfl
      · rw [View.revive_active] at still
        exact gone still
      · have before := placed.numbered d mem
        have number := new.number
        omega
    · rw [version]
      have withdrawn : ((v.finish d.id).move id current .rolledBack).status id =
          some .rolledBack := Function.update_self ..
      exact View.not_deployed ((View.status_move_of_ne apart.symm).trans
        ((View.status_revive_of_ne apart.symm).trans withdrawn)) (by decide)
    · refine View.mem_place.mpr (.inl ?_)
      rw [View.revive_active]
      exact placed.mem_finish mem'' mem apart

theorem Orderly.of_keeps (agrees : v.Agrees) (placed : Placed v) (course : Course v call v')
    (agrees' : v'.Agrees) (keeps : Keeps v call v') : Orderly v call := by
  intro id scope key ends key_ d mem slot
  obtain ⟨gone, idle, others⟩ := ended_of_course agrees placed course ends key_ mem slot
  constructor
  · have serves := View.Serves.of_deployed mem ((agrees _).mpr ⟨d, mem, rfl⟩)
    have named := keeps d serves fun still => gone still.1
    cases call with
    | register | reject | promote | retire => cases ends
    | deployToPaper | rollback | stopDeployment =>
      cases ends
      exact (Option.some.inj named).symm
  · intro e mem' version
    by_contra apart
    exact idle ((agrees' _).mpr ⟨e, others e mem' apart, version⟩)

end

theorem slot_of_mem {v : View} (placed : Placed v) {d : ModelDeployment} (mem : d ∈ v.active) :
    d.slot = d.scope.slot d.modelKey := by
  unfold ModelDeployment.slot Scope.slot
  rw [placed.keyed d mem]

/-! ## The story -/

structure Story (s : Registry) : Prop where
  deployed : ∀ id, s.view.status id = some .paper ∨ s.view.status id = some .promoted ↔
    ∃ d ∈ s.view.active, d.modelVersionId = id
  withdrawn : ∀ id, s.view.status id = some .retired ∨ s.view.status id = some .rejected ∨
    s.view.status id = some .rolledBack → ∀ d ∈ s.view.active, d.modelVersionId ≠ id
  unique : ∀ d ∈ s.view.active, ∀ e ∈ s.view.active, d.modelKey = e.modelKey →
    d.scope = e.scope → d = e
  stoppable : ∀ d ∈ s.view.active, ∀ w actor reason, reason ≠ "" →
    ∃ s', stopDeployment w s d.modelVersionId actor reason d.scope = .ok s'
  chained : ∀ id status, s.view.status id = some status →
    Walks .draft (s.view.changesOf id) status

theorem exists_stopDeployment {s : Registry} (placed : Placed s.view) {d : ModelDeployment}
    (mem : d ∈ s.view.active) (deployed : s.view.Deployed d.modelVersionId) (w : World)
    (actor : Option String) {reason : String} (stated : reason ≠ "") :
    ∃ s', stopDeployment w s d.modelVersionId actor reason d.scope = .ok s' := by
  obtain ⟨version, row, keyOf⟩ := Option.map_eq_some_iff.mp (placed.modelled d mem)
  have slot := slot_of_mem placed mem
  obtain ⟨e, found⟩ := Registry.activeDeployment_of_mem mem slot
  obtain ⟨mem', slot'⟩ := Registry.activeDeployment_some found
  cases placed.unique d mem e mem' (slot.trans slot'.symm)
  have legal : checkTransition version.status .registered = .ok () := by
    have is : version.status.Deployed := (View.deployed_iff (status_view row)).mp deployed
    rcases is with is | is <;> rw [is] <;> rfl
  have ended : ∀ (number : ℕ) (status : DeploymentStatus) (at_ : Time) (note : Text),
      (s.finish number status at_ note).versions d.modelVersionId = some version :=
    fun _ _ _ _ => row
  unfold stopDeployment
  rw [row]
  dsimp only
  rw [if_neg stated, keyOf, found]
  dsimp only
  rw [if_neg (not_not.mpr rfl)]
  unfold Registry.transition
  rw [ended]
  dsimp only
  rw [legal]
  exact ⟨_, rfl⟩

theorem Story.of_agrees {s : Registry} (placed : Placed s.view) (agrees : s.view.Agrees)
    (chained : s.view.Chained) : Story s where
  deployed := agrees
  withdrawn := by
    intro id is d mem
    refine agrees.ne_of_mem mem ?_
    rcases is with is | is | is <;> exact View.not_deployed is (by decide)
  unique := by
    intro d mem e mem' key scope
    refine placed.unique d mem e mem' ?_
    rw [slot_of_mem placed mem, slot_of_mem placed mem', key, scope]
  stoppable := fun d mem w actor _ stated =>
    exists_stopDeployment placed mem ((agrees _).mpr ⟨d, mem, rfl⟩) w actor stated
  chained := chained

/-! ## Runs -/

def opened (models : String → Option String) (candidates : String → Option ModelVersion) :
    Registry where
  models
  versions := fun id => (candidates id).map fun version => { version with status := .draft }

def Told (s : Registry) : List (World × Call) → Prop
  | [] => Story s
  | step :: rest =>
    Story s ∧ Keeps s.view step.2 (after s step).view ∧ Told (after s step) rest

def Conduct (s : Registry) : List (World × Call) → Prop
  | [] => True
  | step :: rest =>
    ((∃ s', perform step.1 s step.2 = .ok s') → Orderly s.view step.2) ∧
      Conduct (after s step) rest

theorem Keeps.refl (v : View) (call : Call) : Keeps v call v := fun _ serves stops =>
  absurd serves stops

theorem told_iff {s : Registry} (steps : List (World × Call)) (placed : Placed s.view)
    (agrees : s.view.Agrees) (chained : s.view.Chained) : Told s steps ↔ Conduct s steps := by
  have story := Story.of_agrees placed agrees chained
  induction steps generalizing s with
  | nil => exact iff_of_true story trivial
  | cons step rest ih =>
    unfold Told Conduct
    rw [and_iff_right story]
    cases through : perform step.1 s step.2 with
    | error raised =>
      have stays : after s step = s := by
        unfold after
        rw [through]
      rw [stays, and_iff_right (Keeps.refl _ _), and_iff_right]
      · exact ih placed agrees chained story
      · rintro ⟨s', same⟩
        cases same
    | ok s' =>
      have moves : after s step = s' := by
        unfold after
        rw [through]
      have course := course_perform through
      rw [moves]
      constructor
      · rintro ⟨keeps, told⟩
        have agrees' : s'.view.Agrees := by
          cases rest with
          | nil => exact told.deployed
          | cons => exact told.1.deployed
        have orderly := Orderly.of_keeps agrees placed course agrees' keeps
        have story' := Story.of_agrees (placed.step course) agrees' (chained.step course)
        exact ⟨fun _ => orderly,
          (ih (placed.step course) agrees' (chained.step course) story').mp told⟩
      · rintro ⟨orderly, conduct⟩
        have orderly := orderly ⟨s', rfl⟩
        have agrees' := agrees.step placed orderly course
        have story' := Story.of_agrees (placed.step course) agrees' (chained.step course)
        exact ⟨Keeps.of_orderly agrees placed orderly course,
          (ih (placed.step course) agrees' (chained.step course) story').mpr conduct⟩

/-- Over every sequence of calls, from any drafts of any models, the statuses, the deployments and
the events tell one story exactly where every call that goes through and ends what serves a scope
finds a deployment of this very scope there, and no other of its version. -/
theorem told_iff_conduct (models : String → Option String)
    (candidates : String → Option ModelVersion) (steps : List (World × Call)) :
    Told (opened models candidates) steps ↔ Conduct (opened models candidates) steps := by
  have none : (opened models candidates).view.active = [] := rfl
  refine told_iff steps ?_ ?_ ?_
  · constructor <;> rw [none] <;> intro d mem <;> cases mem
  · intro id
    refine iff_of_false (fun deployed => ?_) fun ⟨d, mem, _⟩ => by cases mem
    unfold View.Deployed Registry.view opened at deployed
    cases candidates id <;> simp at deployed
  · intro id status is
    unfold Registry.view opened at is
    cases row : candidates id with
    | none => simp [row] at is
    | some version =>
      simp only [row, Option.map_some, Option.some.injEq] at is
      exact is

theorem Told.story_run {s : Registry} {steps : List (World × Call)} (told : Told s steps) :
    Story (run s steps) := by
  induction steps generalizing s with
  | nil => exact told
  | cons step rest ih => exact ih told.2.2

private def willing : World :=
  { now := 0
    featureSetVersion := "1"
    catalogue := []
    validation := fun _ => some ⟨"run", "PASS", none⟩
    training := fun _ => none
    stamp := fun _ => .ok ⟨"sha", 1, "logistic"⟩
    verify := fun _ => .ok (true, [])
    load := fun _ => .ok true }

private def oneDraft : Registry :=
  opened (fun _ => some "trade_probability") fun id =>
    if id = "v" then some { modelId := "m", featureVersion := some "1" } else none

private def twoScopes : List (World × Call) :=
  [(willing, .register "v" none ""), (willing, .deployToPaper "v" {} none ""),
    (willing, .deployToPaper "v" { symbol := some "EURUSD" } none ""),
    (willing, .stopDeployment "v" {} none "why")]

/-- A version that is stopped on one of two scopes is registered, and still serves the other. -/
theorem not_forall_runs_told :
    ¬ ∀ (models : String → Option String) (candidates : String → Option ModelVersion)
      (steps : List (World × Call)), Told (opened models candidates) steps := by
  intro all
  have story := (all (fun _ => some "trade_probability")
    (fun id => if id = "v" then some { modelId := "m", featureVersion := some "1" } else none)
    twoScopes).story_run
  have registered : (run oneDraft twoScopes).view.status "v" = some .registered := by
    decide +kernel
  have serving : ((run oneDraft twoScopes).view.active.any fun d =>
      decide (d.modelVersionId = "v")) = true := by decide +kernel
  obtain ⟨d, mem, version⟩ := List.any_eq_true.mp serving
  rcases (story.deployed "v").mpr ⟨d, mem, of_decide_eq_true version⟩ with is | is
  · cases registered.symm.trans is
  · cases registered.symm.trans is

end TradeResearch.Ai
