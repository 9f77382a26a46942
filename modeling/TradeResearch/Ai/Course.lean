import TradeResearch.Ai.Registry

/-!
# What a call does to the registry

* `View` is what the statuses, the active deployments and the lifecycle events of a registry say.
* `Course` is what each call does to it; `course_perform` reads every call that goes through as one.
-/

namespace TradeResearch.Ai

abbrev Slot : Type := String × String × String

def Scope.slot (scope : Scope) (key : String) : Slot := (key, scope.key, scope.environment)

def ModelDeployment.slot (d : ModelDeployment) : Slot :=
  (d.modelKey, d.scopeKey, d.scope.environment)

abbrev Change : Type := String × ModelStatus × ModelStatus

@[ext]
structure View where
  status : String → Option ModelStatus
  key : String → Option String
  active : List ModelDeployment
  next : ℕ
  changes : List Change

def Legal (current target : ModelStatus) : Prop := checkTransition current target = .ok ()

namespace View

variable (v : View)

def move (id : String) (current target : ModelStatus) : View :=
  { v with
    status := Function.update v.status id (some target)
    changes := v.changes ++ [(id, current, target)] }

def finish (id : ℕ) : View := { v with active := v.active.filter fun d => d.id ≠ id }

def place (d : ModelDeployment) : View := { v with active := v.active ++ [d], next := v.next + 1 }

def lower (id : String) : View :=
  if v.status id = some .paper then v.move id .paper .registered
  else if v.status id = some .promoted then v.move id .promoted .registered
  else v

def revive (id : String) (current : ModelStatus) : View :=
  if current = .rolledBack then v.move id .rolledBack .registered else v

def enter (id : String) (current : ModelStatus) : View :=
  if current = .paper then v else v.move id current .paper

end View

section

variable (v : View) (id : String) (current : ModelStatus)

@[simp] theorem View.lower_key : (v.lower id).key = v.key := by
  unfold View.lower
  split
  · rfl
  · split <;> rfl

@[simp] theorem View.lower_active : (v.lower id).active = v.active := by
  unfold View.lower
  split
  · rfl
  · split <;> rfl

@[simp] theorem View.lower_next : (v.lower id).next = v.next := by
  unfold View.lower
  split
  · rfl
  · split <;> rfl

@[simp] theorem View.revive_key : (v.revive id current).key = v.key := by
  unfold View.revive
  split <;> rfl

@[simp] theorem View.revive_active : (v.revive id current).active = v.active := by
  unfold View.revive
  split <;> rfl

@[simp] theorem View.revive_next : (v.revive id current).next = v.next := by
  unfold View.revive
  split <;> rfl

@[simp] theorem View.enter_key : (v.enter id current).key = v.key := by
  unfold View.enter
  split <;> rfl

@[simp] theorem View.enter_active : (v.enter id current).active = v.active := by
  unfold View.enter
  split <;> rfl

@[simp] theorem View.enter_next : (v.enter id current).next = v.next := by
  unfold View.enter
  split <;> rfl

end

namespace Registry

def view (s : Registry) : View where
  status := fun id => (s.versions id).map ModelVersion.status
  key := fun id => (s.versions id).map s.keyOf
  active := s.deployments.filter fun d => d.status = .active
  next := s.deployments.length
  changes := s.events.map fun e => (e.modelVersionId, e.fromStatus, e.toStatus)

variable {s s' : Registry} {w : World} {id : String}

theorem view_put {version version' : ModelVersion} (row : s.versions id = some version)
    (model : version'.modelId = version.modelId) (status : version'.status = version.status) :
    (s.put id version').view = s.view := by
  refine View.ext (funext fun id' => ?_) (funext fun id' => ?_) rfl rfl rfl
  · by_cases same : id' = id
    · subst same
      simp only [view, put, Function.update_self, row, Option.map_some, status]
    · simp only [view, put, Function.update_of_ne same]
  · by_cases same : id' = id
    · subst same
      simp only [view, put, Function.update_self, row, Option.map_some, keyOf, model]
    · simp only [view, put, Function.update_of_ne same]
      rfl

theorem view_transition {target : ModelStatus} {note : Note}
    (moved : s.transition w id target note = .ok s') :
    ∃ current, s.view.status id = some current ∧ Legal current target ∧
      s'.view = s.view.move id current target := by
  unfold transition at moved
  split at moved
  · cases moved
  · next version row =>
    split at moved
    · cases moved
    · next legal =>
      cases moved
      refine ⟨version.status, by simp only [view, row, Option.map_some], legal, ?_⟩
      refine View.ext (funext fun id' => ?_) (funext fun id' => ?_) rfl rfl ?_
      · by_cases same : id' = id
        · subst same
          simp only [view, put, View.move, Function.update_self, Option.map_some, Registry.moved]
        · simp only [view, put, View.move, Function.update_of_ne same]
      · by_cases same : id' = id
        · subst same
          simp only [view, put, View.move, Function.update_self, Option.map_some, row, keyOf,
            Registry.moved]
        · simp only [view, put, View.move, Function.update_of_ne same]
          rfl
      · simp only [view, View.move, List.map_append, List.map_cons, List.map_nil, event]

theorem view_finish {d : ℕ} {status : DeploymentStatus} {at_ : Time} {note : Text}
    (ended : status ≠ .active) : (s.finish d status at_ note).view = s.view.finish d := by
  refine View.ext rfl rfl ?_ (List.length_map ..) rfl
  unfold finish view View.finish
  dsimp only
  induction s.deployments with
  | nil => rfl
  | cons e rest ih =>
    rw [List.map_cons, List.filter_cons, ih, List.filter_cons]
    by_cases same : e.id = d
    · rw [if_pos same, if_neg (by simpa using ended)]
      split
      · rw [List.filter_cons, if_neg (by simpa using same)]
      · rfl
    · rw [if_neg same]
      split
      · rw [List.filter_cons, if_pos (by simpa using same)]
      · rfl

theorem view_insert {d : ModelDeployment} (inserted : s.insert d = .ok s')
    (active : d.status = .active) :
    s'.view = s.view.place d ∧ ∀ e ∈ s.view.active, e.slot ≠ d.slot := by
  unfold insert at inserted
  split at inserted
  · cases inserted
  · next free =>
    cases inserted
    refine ⟨View.ext rfl rfl ?_ (List.length_append ..) rfl, ?_⟩
    · unfold view View.place
      rw [List.filter_append, List.filter_cons, if_pos (by simpa using active), List.filter_nil]
    · intro e mem taken
      obtain ⟨mem, live⟩ := List.mem_filter.mp mem
      refine free (List.any_eq_true.mpr ⟨e, mem, ?_⟩)
      unfold ModelDeployment.slot at taken
      simp only [Prod.mk.injEq] at taken
      exact decide_eq_true ⟨taken.1, taken.2.1, taken.2.2, of_decide_eq_true live⟩

theorem activeDeployment_some {key : String} {scope : Scope} {d : ModelDeployment}
    (found : s.activeDeployment key scope = some d) :
    d ∈ s.view.active ∧ d.slot = scope.slot key := by
  have mem := List.mem_of_find?_eq_some found
  have serves_ := List.find?_some found
  obtain ⟨key, scopeKey, environment, active⟩ := of_decide_eq_true serves_
  refine ⟨List.mem_filter.mpr ⟨mem, decide_eq_true active⟩, ?_⟩
  unfold ModelDeployment.slot Scope.slot
  rw [key, scopeKey, environment]

theorem activeDeployment_of_mem {key : String} {scope : Scope} {d : ModelDeployment}
    (mem : d ∈ s.view.active) (slot : d.slot = scope.slot key) :
    ∃ e, s.activeDeployment key scope = some e := by
  obtain ⟨mem, active⟩ := List.mem_filter.mp mem
  unfold ModelDeployment.slot Scope.slot at slot
  simp only [Prod.mk.injEq] at slot
  cases found : s.activeDeployment key scope with
  | some e => exact ⟨e, rfl⟩
  | none =>
    refine absurd (List.find?_eq_none.mp found d mem) (not_not.mpr ?_)
    exact decide_eq_true ⟨slot.1, slot.2.1, slot.2.2, of_decide_eq_true active⟩

end Registry

structure New (next : ℕ) (d : ModelDeployment) (id key : String) (scope : Scope)
    (previous : Option String) : Prop where
  number : d.id = next
  version : d.modelVersionId = id
  model : d.modelKey = key
  named : d.scope = scope
  keyed : d.scopeKey = scope.key
  replaces : d.previousVersionId = previous

inductive Course (v : View) : Call → View → Prop where
  | register {id : String} {actor : Option String} {reason : String} {target : ModelStatus}
      (is : v.status id = some .draft) (into : target = .registered ∨ target = .rejected) :
      Course v (.register id actor reason) ((v.move id .draft .validated).move id .validated target)
  | reject {id : String} {actor : Option String} {reason : String} {current : ModelStatus}
      (is : v.status id = some current) (legal : Legal current .rejected) :
      Course v (.reject id actor reason) (v.move id current .rejected)
  | deploy {id : String} {scope : Scope} {actor : Option String} {reason key : String}
      {current : ModelStatus} {d : ModelDeployment} (is : v.status id = some current)
      (eligible : current = .registered ∨ current = .paper) (key_ : v.key id = some key)
      (new : New v.next d id key scope none) (free : ∀ e ∈ v.active, e.slot ≠ scope.slot key) :
      Course v (.deployToPaper id scope actor reason) ((v.place d).enter id current)
  | supersede {id : String} {scope : Scope} {actor : Option String} {reason key : String}
      {current : ModelStatus} {d e : ModelDeployment} (is : v.status id = some current)
      (eligible : current = .registered ∨ current = .paper) (key_ : v.key id = some key)
      (mem : e ∈ v.active) (slot : e.slot = scope.slot key) (other : e.modelVersionId ≠ id)
      (new : New v.next d id key scope (some e.modelVersionId))
      (free : ∀ e' ∈ (v.finish e.id).active, e'.slot ≠ scope.slot key) :
      Course v (.deployToPaper id scope actor reason)
        ((((v.finish e.id).lower e.modelVersionId).place d).enter id current)
  | promote {id : String} {scope : Scope} {actor : Option String} {reason : String}
      (is : v.status id = some .paper) :
      Course v (.promote id scope actor reason) (v.move id .paper .promoted)
  | withdraw {id : String} {scope : Scope} {actor : Option String} {reason key : String}
      {current : ModelStatus} {d : ModelDeployment} (is : v.status id = some current)
      (deployed : current = .paper ∨ current = .promoted) (key_ : v.key id = some key)
      (mem : d ∈ v.active) (slot : d.slot = scope.slot key) (version : d.modelVersionId = id) :
      Course v (.rollback id scope actor reason) ((v.finish d.id).move id current .rolledBack)
  | restore {id : String} {scope : Scope} {actor : Option String} {reason key previous : String}
      {current before : ModelStatus} {d e : ModelDeployment} (is : v.status id = some current)
      (deployed : current = .paper ∨ current = .promoted) (key_ : v.key id = some key)
      (mem : d ∈ v.active) (slot : d.slot = scope.slot key) (version : d.modelVersionId = id)
      (replaced : d.previousVersionId = some previous) (was : v.status previous = some before)
      (eligible : before = .registered ∨ before = .rolledBack)
      (new : New v.next e previous key scope (some id))
      (free : ∀ e' ∈ (v.finish d.id).active, e'.slot ≠ scope.slot key) :
      Course v (.rollback id scope actor reason)
        (((((v.finish d.id).move id current .rolledBack).revive previous before).place e).move
          previous .registered .paper)
  | stop {id : String} {scope : Scope} {actor : Option String} {reason key : String}
      {current : ModelStatus} {d : ModelDeployment} (is : v.status id = some current)
      (legal : Legal current .registered) (key_ : v.key id = some key) (mem : d ∈ v.active)
      (slot : d.slot = scope.slot key) (version : d.modelVersionId = id) :
      Course v (.stopDeployment id scope actor reason) ((v.finish d.id).move id current .registered)
  | retire {id : String} {actor : Option String} {reason : String} {current : ModelStatus}
      (is : v.status id = some current) (legal : Legal current .retired)
      (idle : ∀ d ∈ v.active, d.modelVersionId ≠ id) :
      Course v (.retire id actor reason) (v.move id current .retired)

theorem bind_eq_ok {α β : Type} {x : Except Raised α} {f : α → Except Raised β} {b : β}
    (through : (x >>= f) = .ok b) : ∃ a, x = .ok a ∧ f a = .ok b := by
  cases x with
  | error => cases through
  | ok a => exact ⟨a, rfl, through⟩

theorem refuse_ne_ok {why : Text} {s : Registry} : refuse why ≠ .ok s := by
  intro same
  cases same

section

variable {w : World} {s s' : Registry} {id : String} {actor : Option String} {reason : String}

theorem status_view {version : ModelVersion} (row : s.versions id = some version) :
    s.view.status id = some version.status := by
  simp only [Registry.view, row, Option.map_some]

theorem key_view {version : ModelVersion} (row : s.versions id = some version) :
    s.view.key id = some (s.keyOf version) := by
  simp only [Registry.view, row, Option.map_some]

theorem course_register {answer : Option Text}
    (through : register w s id actor reason = .ok (s', answer)) :
    Course s.view (.register id actor reason) s'.view := by
  unfold register at through
  split at through
  · cases through
  · next version row =>
    split at through
    · cases through
    · next draft =>
      obtain ⟨run, -, through⟩ := bind_eq_ok through
      obtain ⟨s₁, moved, through⟩ := bind_eq_ok through
      obtain ⟨current, is, legal, view₁⟩ := Registry.view_transition moved
      have draft : current = .draft := by
        rw [status_view row] at is
        exact (Option.some.inj is).symm.trans (not_not.mp draft)
      subst draft
      split at through
      · cases through
      · next validated row₁ =>
        -- what else is written into the row of the version leaves the view as it was
        have view₂ : (s₁.put id (gated validated run)).view = s₁.view :=
          Registry.view_put row₁ rfl rfl
        rw [view₁] at view₂
        have now : (s.view.move id .draft .validated).status id = some .validated :=
          Function.update_self ..
        split at through
        · cases through
        · obtain ⟨s₃, rejected, through⟩ := bind_eq_ok through
          cases through
          obtain ⟨current, is', -, view₃⟩ := Registry.view_transition rejected
          rw [view₂] at is' view₃
          cases Option.some.inj (now.symm.trans is')
          rw [view₃]
          exact .register is (.inr rfl)
        · next stamp _ =>
          obtain ⟨s₃, registered, through⟩ := bind_eq_ok through
          cases through
          obtain ⟨current, is', -, view₃⟩ := Registry.view_transition registered
          have row₂ : (s₁.put id (gated validated run)).versions id = some (gated validated run) :=
            Function.update_self ..
          have again : ((s₁.put id (gated validated run)).put id
              (stamped w id (gated validated run) stamp)).view =
                (s₁.put id (gated validated run)).view :=
            Registry.view_put row₂ rfl rfl
          rw [again, view₂] at is' view₃
          cases Option.some.inj (now.symm.trans is')
          rw [view₃]
          exact .register is (.inl rfl)

theorem course_reject (through : reject w s id actor reason = .ok s') :
    Course s.view (.reject id actor reason) s'.view := by
  unfold reject at through
  split at through
  · exact absurd through refuse_ne_ok
  · obtain ⟨current, is, legal, view⟩ := Registry.view_transition through
    rw [view]
    exact .reject is legal

theorem course_retire (through : retire w s id actor reason = .ok s') :
    Course s.view (.retire id actor reason) s'.view := by
  unfold retire at through
  split at through
  · exact absurd through refuse_ne_ok
  · split at through
    · exact absurd through refuse_ne_ok
    · next none =>
      obtain ⟨current, is, legal, view⟩ := Registry.view_transition through
      rw [view]
      refine .retire is legal fun d mem version => ?_
      obtain ⟨mem, active⟩ := List.mem_filter.mp mem
      exact List.find?_eq_none.mp none d mem
        (decide_eq_true ⟨version, of_decide_eq_true active⟩)

theorem course_promote (through : promote w s id actor reason scope = .ok s') :
    Course s.view (.promote id scope actor reason) s'.view := by
  unfold promote at through
  split at through
  · cases through
  · next version row =>
    split at through
    · exact absurd through refuse_ne_ok
    · split at through
      · exact absurd through refuse_ne_ok
      · next paper =>
        split at through
        · cases through
        · split at through
          · exact absurd through refuse_ne_ok
          · split at through
            · exact absurd through refuse_ne_ok
            · obtain ⟨current, is, -, view⟩ := Registry.view_transition through
              rw [view]
              have paper := not_not.mp paper
              cases Option.some.inj ((status_view row).symm.trans is)
              rw [paper] at is ⊢
              exact .promote is

theorem course_stopDeployment (through : stopDeployment w s id actor reason scope = .ok s') :
    Course s.view (.stopDeployment id scope actor reason) s'.view := by
  unfold stopDeployment at through
  split at through
  · cases through
  · next version row =>
    split at through
    · exact absurd through refuse_ne_ok
    · split at through
      · exact absurd through refuse_ne_ok
      · next d found =>
        split at through
        · exact absurd through refuse_ne_ok
        · next mine =>
          obtain ⟨current, is, legal, view⟩ := Registry.view_transition through
          obtain ⟨mem, slot⟩ := Registry.activeDeployment_some found
          rw [Registry.view_finish (by decide)] at is view
          rw [view]
          exact .stop is legal (key_view row) mem slot (not_not.mp mine)

theorem Registry.versions_transition {other : String} {target : ModelStatus} {note : Registry.Note}
    (moved : s.transition w id target note = .ok s') (apart : other ≠ id) :
    s'.versions other = s.versions other := by
  unfold Registry.transition at moved
  split at moved
  · cases moved
  · split at moved
    · cases moved
    · cases moved
      exact Function.update_of_ne apart ..

theorem course_release {superseded label : String}
    (through : release w s actor superseded label scope = .ok s') :
    s'.view = s.view.lower superseded ∧ ∀ id ≠ superseded, s'.versions id = s.versions id := by
  unfold release at through
  unfold View.lower
  split at through
  · next none =>
    cases through
    have gone : s.view.status superseded = .none := by
      simp only [Registry.view, none, Option.map_none]
    rw [gone, if_neg (by simp), if_neg (by simp)]
    exact ⟨rfl, fun id _ => rfl⟩
  · next version row =>
    rw [status_view row]
    split at through
    · next deployed =>
      obtain ⟨current, is, -, view⟩ := Registry.view_transition through
      refine ⟨?_, fun id apart => Registry.versions_transition through apart⟩
      cases Option.some.inj ((status_view row).symm.trans is)
      rcases deployed with paper | promoted
      · rw [view, paper, if_pos rfl]
      · rw [view, promoted, if_neg (by decide), if_pos rfl]
    · next idle =>
      cases through
      rw [if_neg fun paper => idle (.inl (Option.some.inj paper)),
        if_neg fun promoted => idle (.inr (Option.some.inj promoted))]
      exact ⟨rfl, fun id _ => rfl⟩

theorem course_supersede {existing : ModelDeployment} {label : String}
    (through : supersede w s actor existing label scope = .ok s') :
    s'.view = (s.view.finish existing.id).lower existing.modelVersionId ∧
      ∀ id ≠ existing.modelVersionId, s'.versions id = s.versions id := by
  obtain ⟨view, versions⟩ := course_release through
  rw [Registry.view_finish (by decide)] at view
  exact ⟨view, versions⟩

theorem new_deployment {version : ModelVersion} {previous : Option String} {why : Text} :
    New s.view.next (s.deployment w id version scope actor why previous) id (s.keyOf version) scope
      previous :=
  ⟨rfl, rfl, rfl, rfl, rfl, rfl⟩

theorem course_place {version : ModelVersion} {previous : Option String}
    (row : s.versions id = some version)
    (through : place w s id actor reason version scope previous = .ok s') :
    ∃ d, New s.view.next d id (s.keyOf version) scope previous ∧
      (∀ e ∈ s.view.active, e.slot ≠ scope.slot (s.keyOf version)) ∧
      s'.view = (s.view.place d).enter id version.status := by
  obtain ⟨s₁, inserted, through⟩ := bind_eq_ok through
  obtain ⟨view, free⟩ := Registry.view_insert inserted rfl
  refine ⟨s.deployment w id version scope actor
    (Text.lit (if reason ≠ "" then reason else s!"deployed to {scope.describe}")) previous,
    new_deployment, free, ?_⟩
  unfold View.enter
  split at through
  · next moves =>
    obtain ⟨current, is, -, view'⟩ := Registry.view_transition through
    rw [view] at is view'
    cases Option.some.inj ((status_view row).symm.trans is)
    rw [if_neg moves, view']
  · next stays =>
    cases through
    rw [if_pos (not_not.mp stays), view]

theorem course_deployToPaper (through : deployToPaper w s id actor reason scope = .ok s') :
    Course s.view (.deployToPaper id scope actor reason) s'.view := by
  unfold deployToPaper at through
  split at through
  · cases through
  · next version row =>
    split at through
    · exact absurd through refuse_ne_ok
    · split at through
      · exact absurd through refuse_ne_ok
      · next eligible =>
        have eligible : version.status = .registered ∨ version.status = .paper := by
          by_contra other
          exact eligible (not_or.mp other)
        split at through
        · cases through
        · split at through
          · obtain ⟨d, new, free, view⟩ := course_place row through
            rw [view]
            exact .deploy (status_view row) eligible (key_view row) new free
          · next existing found =>
            obtain ⟨mem, slot⟩ := Registry.activeDeployment_some found
            split at through
            · exact absurd through refuse_ne_ok
            · next other =>
              obtain ⟨s₁, superseded, through⟩ := bind_eq_ok through
              obtain ⟨view₁, versions⟩ := course_supersede superseded
              have row₁ : s₁.versions id = some version :=
                (versions id fun same => other same.symm).trans row
              obtain ⟨d, new, free, view⟩ := course_place row₁ through
              have keyOf : s₁.keyOf version = s.keyOf version := by
                have kept : s₁.view.key id = s.view.key id := by
                  rw [view₁, View.lower_key]
                  rfl
                rw [key_view row₁, key_view row] at kept
                exact Option.some.inj kept
              rw [view₁, View.lower_next] at new
              rw [view₁, View.lower_active, keyOf] at free
              rw [keyOf] at new
              rw [view, view₁]
              exact .supersede (status_view row) eligible (key_view row) mem slot other new free

theorem course_restorable {previous : String} {before : ModelVersion}
    (through : restorable w s previous scope = .ok before) :
    s.versions previous = some before ∧ (before.status = .registered ∨ before.status = .rolledBack)
      := by
  unfold restorable at through
  split at through
  · cases through
  · next version row =>
    obtain ⟨-, -, through⟩ := bind_eq_ok through
    split at through
    · cases through
    · next eligible =>
      cases through
      refine ⟨row, ?_⟩
      by_contra other
      exact eligible (not_or.mp other)

theorem Registry.keyOf_transition {target : ModelStatus} {note : Registry.Note}
    (moved : s.transition w id target note = .ok s') (version : ModelVersion) :
    s'.keyOf version = s.keyOf version := by
  unfold Registry.transition at moved
  split at moved
  · cases moved
  · split at moved
    · cases moved
    · cases moved
      rfl

theorem View.revive_status {v : View} {current : ModelStatus} (is : v.status id = some current)
    (eligible : current = .registered ∨ current = .rolledBack) :
    (v.revive id current).status id = some .registered := by
  rcases eligible with rfl | rfl
  · exact is
  · exact Function.update_self ..

theorem course_restore {withdrawn before : ModelVersion} {previous : String}
    (is : s.view.status previous = some before.status)
    (eligible : before.status = .registered ∨ before.status = .rolledBack)
    (through : restore w s id actor reason withdrawn previous before scope = .ok s') :
    ∃ e, New s.view.next e previous (s.keyOf withdrawn) scope (some id) ∧
      (∀ e' ∈ s.view.active, e'.slot ≠ scope.slot (s.keyOf withdrawn)) ∧
      s'.view = ((s.view.revive previous before.status).place e).move previous .registered
        .paper := by
  obtain ⟨s₁, revived, through⟩ := bind_eq_ok through
  have view₁ : s₁.view = s.view.revive previous before.status := by
    unfold readmit at revived
    unfold View.revive
    split at revived
    · next rolledBack =>
      obtain ⟨current, is', -, view⟩ := Registry.view_transition revived
      cases Option.some.inj (is.symm.trans is')
      rw [if_pos rolledBack, view, rolledBack]
    · next plain =>
      cases revived
      rw [if_neg plain]
  obtain ⟨s₂, inserted, through⟩ := bind_eq_ok through
  obtain ⟨view₂, free⟩ := Registry.view_insert inserted rfl
  obtain ⟨current, is', -, view⟩ := Registry.view_transition through
  rw [view₂, view₁] at is' view
  cases Option.some.inj ((View.revive_status is eligible).symm.trans is')
  rw [view₁, View.revive_active] at free
  have next : s₁.deployments.length = s.view.next :=
    (congrArg View.next view₁).trans (View.revive_next ..)
  exact ⟨_, ⟨next, rfl, rfl, rfl, rfl, rfl⟩, free, view⟩

theorem course_rollback (through : rollback w s id actor reason scope = .ok s') :
    Course s.view (.rollback id scope actor reason) s'.view := by
  unfold rollback at through
  split at through
  · cases through
  · next version row =>
    split at through
    · exact absurd through refuse_ne_ok
    · split at through
      · exact absurd through refuse_ne_ok
      · next deployed =>
        have deployed : version.status = .paper ∨ version.status = .promoted := by
          by_contra other
          exact deployed (not_or.mp other)
        split at through
        · exact absurd through refuse_ne_ok
        · next d found =>
          obtain ⟨mem, slot⟩ := Registry.activeDeployment_some found
          split at through
          · exact absurd through refuse_ne_ok
          · next mine =>
            split at through
            · obtain ⟨current, is, -, view⟩ := Registry.view_transition through
              rw [Registry.view_finish (by decide)] at is view
              cases Option.some.inj ((status_view row).symm.trans is)
              rw [view]
              exact .withdraw is deployed (key_view row) mem slot (not_not.mp mine)
            · next previous replaced =>
              obtain ⟨before, restorable, through⟩ := bind_eq_ok through
              obtain ⟨row', eligible⟩ := course_restorable restorable
              obtain ⟨s₁, withdrawn, through⟩ := bind_eq_ok through
              have keyOf := Registry.keyOf_transition withdrawn version
              obtain ⟨current, is, -, view₁⟩ := Registry.view_transition withdrawn
              rw [Registry.view_finish (by decide)] at is view₁
              cases Option.some.inj ((status_view row).symm.trans is)
              have apart : previous ≠ id := by
                rintro rfl
                cases Option.some.inj (row.symm.trans row')
                rcases deployed with now | now <;> rcases eligible with was | was <;>
                  cases now.symm.trans was
              have was : s₁.view.status previous = some before.status := by
                rw [view₁]
                exact (Function.update_of_ne apart ..).trans (status_view row')
              obtain ⟨e, new, free, view⟩ := course_restore was eligible through
              rw [view₁, keyOf] at new free
              rw [view, view₁]
              exact .restore is deployed (key_view row) mem slot (not_not.mp mine) replaced
                (status_view row') eligible new free

end

theorem course_perform {w : World} {s s' : Registry} {call : Call}
    (through : perform w s call = .ok s') : Course s.view call s'.view := by
  cases call with
  | register id actor reason =>
    dsimp only [perform] at through
    cases answer : register w s id actor reason with
    | error => rw [answer] at through; cases through
    | ok outcome =>
      rw [answer] at through
      cases through
      exact course_register answer
  | reject => exact course_reject through
  | deployToPaper => exact course_deployToPaper through
  | promote => exact course_promote through
  | rollback => exact course_rollback through
  | stopDeployment => exact course_stopDeployment through
  | retire => exact course_retire through

end TradeResearch.Ai
