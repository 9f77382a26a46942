import Mathlib.Logic.Basic

/-!
# Method bodies that may raise

`Method ε σ α` is a method body over one mutable record `σ`: it reads and writes the record,
returns an `α` or raises an `ε`, and what it wrote before raising stays written.

* `Method.exec` runs a body; the `exec_*` lemmas are its equations, one for each way a body is
  put together.
* `Method.Keeps P x` says the body `x` leaves `P` standing on every path, the raising ones
  included; `Keeps.bind` and its siblings derive it from the parts.
* `Method.Raises E x` says that whatever `x` raises satisfies `E`, with rules of the same shape,
  and `Method.Returns Q x` that whatever `x` returns in satisfies `Q`.
* `Method.Mirrors view y x` says that `y`, seen through `view`, is `x`; `Method.within` runs a body
  on a part of a record.
-/

namespace TradeResearch

abbrev Method (ε σ α : Type) := ExceptT ε (StateM σ) α

namespace Method

variable {ε σ α β : Type}

def exec (x : Method ε σ α) (s : σ) : Except ε α × σ := (ExceptT.run x) s

def left (x : Method ε σ α) (s : σ) : σ := (x.exec s).2

def answer (x : Method ε σ α) (s : σ) : Except ε α := (x.exec s).1

@[simp] theorem exec_pure (a : α) (s : σ) : (pure a : Method ε σ α).exec s = (.ok a, s) := rfl

@[simp] theorem exec_throw (e : ε) (s : σ) :
    (throw e : Method ε σ α).exec s = (.error e, s) := rfl

@[simp] theorem exec_modify (f : σ → σ) (s : σ) :
    (modify f : Method ε σ PUnit).exec s = (.ok ⟨⟩, f s) := rfl

theorem exec_bind (x : Method ε σ α) (f : α → Method ε σ β) (s : σ) :
    (x >>= f).exec s =
      match x.exec s with
      | (.ok a, t) => (f a).exec t
      | (.error e, t) => (.error e, t) := by
  show ExceptT.bindCont f (x.exec s).1 (x.exec s).2 = _
  rcases x.exec s with ⟨_ | _, t⟩ <;> rfl

theorem exec_bind_ok {x : Method ε σ α} {s t : σ} {a : α} (returned : x.exec s = (.ok a, t))
    (f : α → Method ε σ β) : (x >>= f).exec s = (f a).exec t := by
  rw [exec_bind, returned]

theorem exec_bind_error {x : Method ε σ α} {s t : σ} {e : ε} (raised : x.exec s = (.error e, t))
    (f : α → Method ε σ β) : (x >>= f).exec s = (.error e, t) := by
  rw [exec_bind, raised]

@[simp] theorem exec_get_bind (f : σ → Method ε σ β) (s : σ) :
    (get >>= f).exec s = (f s).exec s := rfl

@[simp] theorem exec_modify_bind (g : σ → σ) (f : PUnit → Method ε σ β) (s : σ) :
    ((modify g : Method ε σ PUnit) >>= f).exec s = (f ⟨⟩).exec (g s) := rfl

theorem exec_guard (c : Prop) [Decidable c] (e : ε) (f : PUnit → Method ε σ β) (s : σ) :
    (if c then (throw e : Method ε σ PUnit) >>= f else f ⟨⟩).exec s =
      if c then (.error e, s) else (f ⟨⟩).exec s := by
  split <;> rfl

theorem exec_tryCatch (x : Method ε σ α) (handler : ε → Method ε σ α) (s : σ) :
    (tryCatch x handler).exec s =
      match x.exec s with
      | (.ok a, t) => (.ok a, t)
      | (.error e, t) => (handler e).exec t := by
  have run : ExceptT.run (tryCatch x handler) = ExceptT.run x >>= fun out =>
      match out with
      | .ok a => Pure.pure (.ok a)
      | .error e => ExceptT.run (handler e) := rfl
  unfold exec
  show (fun out t => (match out with
    | .ok a => Pure.pure (.ok a)
    | .error e => ExceptT.run (handler e) : StateM σ (Except ε α)) t)
      (ExceptT.run x s).1 (ExceptT.run x s).2 = _
  rcases ExceptT.run x s with ⟨_ | _, t⟩ <;> rfl

theorem exec_discard (x : Method ε σ α) (s : σ) :
    (Functor.discard x : Method ε σ PUnit).exec s =
      ((x.exec s).1.map fun _ => ⟨⟩, (x.exec s).2) := by
  show ((fun _ => ⟨⟩) <$> x : Method ε σ PUnit).exec s = _
  rw [← bind_pure_comp, exec_bind]
  rcases x.exec s with ⟨_ | _, t⟩ <;> rfl

def Keeps (P : σ → Prop) (x : Method ε σ α) : Prop := ∀ s, P s → P (x.left s)

section Keeps

theorem Keeps.pure (a : α) : Keeps P (pure a : Method ε σ α) := fun _ held => held

theorem Keeps.throw (e : ε) : Keeps P (throw e : Method ε σ α) := fun _ held => held

theorem Keeps.get : Keeps P (get : Method ε σ σ) := fun _ held => held

theorem Keeps.modify {f : σ → σ} (kept : ∀ s, P s → P (f s)) :
    Keeps P (modify f : Method ε σ PUnit) := kept

theorem Keeps.bind {x : Method ε σ α} {f : α → Method ε σ β} (first : Keeps P x)
    (rest : ∀ a, Keeps P (f a)) : Keeps P (x >>= f) := by
  intro s held
  have after := first s held
  unfold left at after ⊢
  rw [exec_bind]
  rcases out : x.exec s with ⟨_ | a, t⟩
  · rwa [out] at after
  · rw [out] at after
    exact rest a t after

theorem Keeps.ite {c : Prop} [Decidable c] {x y : Method ε σ α} (yes : Keeps P x)
    (no : Keeps P y) : Keeps P (if c then x else y) := by
  split
  · exact yes
  · exact no

theorem Keeps.guard {c : Prop} [Decidable c] {e : ε} {f : PUnit → Method ε σ β}
    (rest : Keeps P (f ⟨⟩)) :
    Keeps P (if c then (MonadExcept.throw e : Method ε σ PUnit) >>= f else f ⟨⟩) :=
  Keeps.ite (Keeps.bind (Keeps.throw e) fun _ => rest) rest

theorem Keeps.tryCatch {x : Method ε σ α} {handler : ε → Method ε σ α} (body : Keeps P x)
    (handled : ∀ e, Keeps P (handler e)) : Keeps P (tryCatch x handler) := by
  intro s held
  have after := body s held
  unfold left at after ⊢
  rw [exec_tryCatch]
  rcases out : x.exec s with ⟨e | _, t⟩
  · rw [out] at after
    exact handled e t after
  · rwa [out] at after

end Keeps

def Raises (E : ε → Prop) (x : Method ε σ α) : Prop := ∀ s e t, x.exec s = (.error e, t) → E e

section Raises

theorem Raises.of_ok {x : Method ε σ α} (returns : ∀ s, ∃ a t, x.exec s = (.ok a, t)) :
    Raises E x := by
  intro s e t raised
  obtain ⟨a, u, returned⟩ := returns s
  rw [returned] at raised
  exact absurd (congrArg Prod.fst raised) (by simp)

theorem Raises.pure (a : α) : Raises E (pure a : Method ε σ α) :=
  Raises.of_ok fun s => ⟨a, s, rfl⟩

theorem Raises.get : Raises E (get : Method ε σ σ) := Raises.of_ok fun s => ⟨s, s, rfl⟩

theorem Raises.modify (f : σ → σ) : Raises E (modify f : Method ε σ PUnit) :=
  Raises.of_ok fun s => ⟨⟨⟩, f s, rfl⟩

theorem Raises.throw {e : ε} (allowed : E e) : Raises E (throw e : Method ε σ α) := by
  intro s e' t raised
  have same : e = e' := Except.error.inj (congrArg Prod.fst raised)
  exact same ▸ allowed

theorem Raises.bind {x : Method ε σ α} {f : α → Method ε σ β} (first : Raises E x)
    (rest : ∀ a, Raises E (f a)) : Raises E (x >>= f) := by
  intro s e t raised
  rw [exec_bind] at raised
  rcases out : x.exec s with ⟨e' | a, u⟩
  · rw [out] at raised
    have same : e' = e := Except.error.inj (congrArg Prod.fst raised)
    exact same ▸ first s e' u out
  · rw [out] at raised
    exact rest a u e t raised

theorem Raises.ite {c : Prop} [Decidable c] {x y : Method ε σ α} (yes : Raises E x)
    (no : Raises E y) : Raises E (if c then x else y) := by
  split
  · exact yes
  · exact no

theorem Raises.guard {c : Prop} [Decidable c] {e : ε} {f : PUnit → Method ε σ β} (allowed : E e)
    (rest : Raises E (f ⟨⟩)) :
    Raises E (if c then (MonadExcept.throw e : Method ε σ PUnit) >>= f else f ⟨⟩) :=
  Raises.ite (Raises.bind (Raises.throw allowed) fun _ => rest) rest

end Raises

def Returns (Q : σ → Prop) (x : Method ε σ α) : Prop := ∀ s a t, x.exec s = (.ok a, t) → Q t

theorem Returns.modify {f : σ → σ} (reached : ∀ s, Q (f s)) :
    Returns Q (modify f : Method ε σ PUnit) := by
  intro s a t returned
  have same : f s = t := congrArg Prod.snd returned
  exact same ▸ reached s

theorem Returns.bind (x : Method ε σ α) {f : α → Method ε σ β} (last : ∀ a, Returns Q (f a)) :
    Returns Q (x >>= f) := by
  intro s b u returned
  rw [exec_bind] at returned
  rcases out : x.exec s with ⟨e | a, t⟩
  · rw [out] at returned
    cases congrArg Prod.fst returned
  · rw [out] at returned
    exact last a t b u returned

theorem Returns.ite {c : Prop} [Decidable c] {x y : Method ε σ α} (yes : Returns Q x)
    (no : Returns Q y) : Returns Q (if c then x else y) := by
  split
  · exact yes
  · exact no

def Mirrors {τ : Type} (view : σ → τ) (y : Method ε σ α) (x : Method ε τ α) : Prop :=
  ∀ s, ((y.exec s).1, view (y.exec s).2) = x.exec (view s)

def within {τ : Type} (view : σ → τ) (put : τ → σ → σ) (x : Method ε τ α) : Method ε σ α :=
  ExceptT.mk fun s => ((x.exec (view s)).1, put (x.exec (view s)).2 s)

section Mirrors

variable {τ : Type}

theorem exec_within (put : τ → σ → σ) (x : Method ε τ α) (s : σ) :
    (within view put x).exec s = ((x.exec (view s)).1, put (x.exec (view s)).2 s) := rfl

theorem exec_within_of {put : τ → σ → σ} {x : Method ε τ α} {s : σ} {answer : Except ε α} {t : τ}
    (ran : x.exec (view s) = (answer, t)) : (within view put x).exec s = (answer, put t s) := by
  rw [exec_within, ran]

theorem Mirrors.within {put : τ → σ → σ} (shown : ∀ t s, view (put t s) = t)
    (x : Method ε τ α) : Mirrors view (within view put x) x := by
  intro s
  rw [exec_within, shown]

theorem Mirrors.pure (a : α) :
    Mirrors view (pure a : Method ε σ α) (pure a : Method ε τ α) := fun _ => rfl

theorem Mirrors.throw (e : ε) :
    Mirrors view (throw e : Method ε σ α) (throw e : Method ε τ α) := fun _ => rfl

theorem Mirrors.modify {f : σ → σ} (hidden : ∀ s, view (f s) = view s) :
    Mirrors view (modify f : Method ε σ PUnit) (Pure.pure ⟨⟩ : Method ε τ PUnit) := by
  intro s
  show ((.ok ⟨⟩ : Except ε PUnit), view (f s)) = (.ok ⟨⟩, view s)
  rw [hidden]

theorem Mirrors.bind {y : Method ε σ α} {x : Method ε τ α} {g : α → Method ε σ β}
    {f : α → Method ε τ β} (first : Mirrors view y x) (rest : ∀ a, Mirrors view (g a) (f a)) :
    Mirrors view (y >>= g) (x >>= f) := by
  intro s
  have seen := first s
  rw [exec_bind, exec_bind, ← seen]
  rcases y.exec s with ⟨e | a, t⟩
  · rfl
  · exact rest a t

theorem Mirrors.andThen {y : Method ε σ PUnit} {x : Method ε τ PUnit} {z : Method ε σ PUnit}
    (first : Mirrors view y x) (hidden : Mirrors view z (Pure.pure ⟨⟩)) :
    Mirrors view (y >>= fun _ => z) x := by
  have whole := first.bind fun _ => hidden
  rwa [bind_pure_unit] at whole

end Mirrors

end Method

end TradeResearch
