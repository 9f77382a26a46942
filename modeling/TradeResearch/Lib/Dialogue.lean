/-!
# Dialogues

A computation that puts questions to its surroundings and goes on with what they answer: a free
monad with exceptions. `Always` is what holds of it whatever they answer, `Possible` what some
answers lead to.

* `always_bind`: what holds of a sequence is what holds of its parts.
* `Always.mono`: a weaker postcondition.
* `Always.possible`: what always holds holds of what is possible.
* `Always.frame`: what holds without a state holds beside one that is left alone.
-/

namespace TradeResearch

inductive Dialogue (Q : Type) (A : Q → Type) (ε α : Type) where
  | done (a : α)
  | raised (e : ε)
  | ask (q : Q) (next : A q → Dialogue Q A ε α)

namespace Dialogue

variable {Q : Type} {A : Q → Type} {ε α β S : Type}

def bind : Dialogue Q A ε α → (α → Dialogue Q A ε β) → Dialogue Q A ε β
  | done a, f => f a
  | raised e, _ => raised e
  | ask q next, f => ask q fun a => (next a).bind f

instance : Monad (Dialogue Q A ε) where
  pure := done
  bind := bind

def put (q : Q) : Dialogue Q A ε (A q) := ask q done

def lift : Except ε α → Dialogue Q A ε α
  | .error e => raised e
  | .ok a => done a

structure Surroundings (Q : Type) (A : Q → Type) (S : Type) where
  may : S → Q → Prop
  can : S → (q : Q) → A q → Prop
  next : S → (q : Q) → A q → S

variable {W : Surroundings Q A S}

def Always (W : Surroundings Q A S) (post : S → α → Prop) (fail : S → ε → Prop) :
    S → Dialogue Q A ε α → Prop
  | s, done a => post s a
  | s, raised e => fail s e
  | s, ask q next => W.may s q ∧ ∀ a, W.can s q a → Always W post fail (W.next s q a) (next a)

variable {post : S → β → Prop} {fail : S → ε → Prop} {s : S}

theorem always_bind {x : Dialogue Q A ε α} {f : α → Dialogue Q A ε β} :
    Always W post fail s (x >>= f) ↔ Always W (fun s a => Always W post fail s (f a)) fail s x := by
  induction x generalizing s with
  | done a | raised e => exact Iff.rfl
  | ask q next ih =>
    exact and_congr_right fun _ => forall_congr' fun a => imp_congr_right fun _ => ih a

theorem Always.mono {post post' : S → α → Prop} {fail' : S → ε → Prop} {x : Dialogue Q A ε α}
    (held : Always W post fail s x) (weaker : ∀ s a, post s a → post' s a)
    (milder : ∀ s e, fail s e → fail' s e) : Always W post' fail' s x := by
  induction x generalizing s with
  | done a => exact weaker s a held
  | raised e => exact milder s e held
  | ask q next ih => exact ⟨held.1, fun a can => ih a (held.2 a can)⟩

def Possible (W : Surroundings Q A S) (post : S → α → Prop) : S → Dialogue Q A ε α → Prop
  | s, done a => post s a
  | _, raised _ => False
  | s, ask q next => ∃ a, W.can s q a ∧ Possible W post (W.next s q a) (next a)

theorem Always.possible {post post' : S → α → Prop} {fail : S → ε → Prop} {x : Dialogue Q A ε α}
    (held : Always W post fail s x) (possible : Possible W post' s x) :
    ∃ s' a, post s' a ∧ post' s' a := by
  induction x generalizing s with
  | done a => exact ⟨s, a, held, possible⟩
  | raised e => exact possible.elim
  | ask q next ih =>
    obtain ⟨a, can, rest⟩ := possible
    exact ih a (held.2 a can) rest

def eval (oracle : (q : Q) → A q) : Dialogue Q A ε α → Except ε α
  | done a => .ok a
  | raised e => .error e
  | ask q next => (next (oracle q)).eval oracle

theorem always_iff_eval {V : Surroundings Q A Unit} {post' : Unit → α → Prop} 
    {fail' : Unit → ε → Prop}
    {post : S → α → Prop} {fail : S → ε → Prop} {oracle : (q : Q) → A q} {x : Dialogue Q A ε α}
    (held : Always V post' fail' () x)
    (told : ∀ q, V.may () q → V.can () q (oracle q) ∧ W.may s q ∧
      (∀ a, W.can s q a ↔ a = oracle q) ∧ W.next s q (oracle q) = s) :
    Always W post fail s x ↔
      (∀ a, x.eval oracle = .ok a → post s a) ∧ ∀ e, x.eval oracle = .error e → fail s e := by
  induction x with
  | done a =>
    exact ⟨fun is => ⟨fun _ same => Except.ok.inj same ▸ is, fun _ same => nomatch same⟩,
      fun both => both.1 a rfl⟩
  | raised e =>
    exact ⟨fun is => ⟨fun _ same => (nomatch same), fun _ same => Except.error.inj same ▸ is⟩,
      fun both => both.2 e rfl⟩
  | ask q next ih =>
    obtain ⟨could, may, only, same⟩ := told q held.1
    have rest := ih (oracle q) (held.2 (oracle q) could)
    constructor
    · rintro ⟨-, all⟩
      have here := all (oracle q) ((only _).mpr rfl)
      rw [same] at here
      exact rest.mp here
    · intro both
      refine ⟨may, fun a can => ?_⟩
      rw [(only a).mp can, same]
      exact rest.mpr both

theorem Always.frame {V : Surroundings Q A Unit} {post : Unit → α → Prop} {fail : Unit → ε → Prop}
    {x : Dialogue Q A ε α} (held : Always V post fail () x)
    (stays : ∀ q, V.may () q →
      W.may s q ∧ ∀ a, W.can s q a → V.can () q a ∧ W.next s q a = s) :
    Always W (fun s' a => s' = s ∧ post () a) (fun s' e => s' = s ∧ fail () e) s x := by
  induction x with
  | done a | raised e => exact ⟨rfl, held⟩
  | ask q next ih =>
    obtain ⟨may, rest⟩ := stays q held.1
    refine ⟨may, fun a can => ?_⟩
    obtain ⟨could, same⟩ := rest a can
    rw [same]
    exact ih a (held.2 a could)

end Dialogue

end TradeResearch
