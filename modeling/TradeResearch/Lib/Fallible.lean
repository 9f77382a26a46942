import Mathlib.Data.List.Basic

/-!
# Computations that may fail

What a computation in `Except` that ended one way or the other went through.

* `bind_eq_ok`, `bind_eq_error`: the first step, and the rest; `forM_eq_ok`: every step.
* `foldlM_rule`: what every step of a loop preserves holds where the loop has ended.
* `foldlM_eq_ok`: a loop each of whose steps goes through on its entry alone.
* `foldlM_eq_error`: the step a loop was left at.
-/

namespace TradeResearch.Fallible

universe u v w

variable {ε : Type u} {α β : Type v} {γ : Type w}

theorem ok_bind {a : α} {f : α → Except ε β} : (Except.ok a >>= f) = f a := rfl

theorem error_bind {e : ε} {f : α → Except ε β} : (Except.error e >>= f) = .error e := rfl

theorem bind_eq_ok {x : Except ε α} {f : α → Except ε β} {b : β} :
    (x >>= f) = .ok b ↔ ∃ a, x = .ok a ∧ f a = .ok b := by
  cases x with
  | error e | ok a => simp [bind, Except.bind]

theorem bind_eq_error {x : Except ε α} {f : α → Except ε β} {e : ε} :
    (x >>= f) = .error e ↔ x = .error e ∨ ∃ a, x = .ok a ∧ f a = .error e := by
  cases x with
  | error e' | ok a => simp [bind, Except.bind]

theorem map_eq_ok {x : Except ε α} {f : α → β} {b : β} :
    x.map f = .ok b ↔ ∃ a, x = .ok a ∧ f a = b := by
  cases x with
  | error e | ok a => simp [Except.map]

theorem toOption_eq_some {x : Except ε α} {a : α} : x.toOption = some a ↔ x = .ok a := by
  cases x with
  | error e | ok b => simp [Except.toOption]

theorem isOk_iff {x : Except ε α} : x.isOk = true ↔ ∃ a, x = .ok a := by
  cases x with
  | error e | ok a => simp [Except.isOk, Except.toBool]

theorem mapError_eq_ok {ε' : Type u} {x : Except ε α} {f : ε → ε'} {a : α} :
    x.mapError f = .ok a ↔ x = .ok a := by
  cases x with
  | error e | ok b => simp [Except.mapError]

theorem forM_eq_ok {f : γ → Except ε PUnit} {xs : List γ} :
    xs.forM f = .ok ⟨⟩ ↔ ∀ x ∈ xs, f x = .ok ⟨⟩ := by
  induction xs with
  | nil => exact iff_of_true rfl (List.forall_mem_nil _)
  | cons x xs ih =>
    change (f x >>= fun _ => xs.forM f) = .ok ⟨⟩ ↔ _
    rw [bind_eq_ok, List.forall_mem_cons, ← ih]
    exact ⟨fun ⟨_, first, rest⟩ => ⟨first, rest⟩, fun ⟨first, rest⟩ => ⟨⟨⟩, first, rest⟩⟩

section Loops

variable {f : β → γ → Except ε β}

theorem foldlM_rule {motive : List γ → β → Prop} {xs : List γ} {a b : β}
    (ended : xs.foldlM f a = .ok b) (start : motive [] a)
    (step : ∀ past x a b, x ∈ xs → motive past a → f a x = .ok b → motive (past ++ [x]) b) :
    motive xs b := by
  suffices rule : ∀ (rest past : List γ) (a : β), (∀ x ∈ rest, x ∈ xs) → motive past a →
      rest.foldlM f a = .ok b → motive (past ++ rest) b from
    rule xs [] a (fun _ mem => mem) start ended
  intro rest
  induction rest with
  | nil =>
    intro past a _ holds ended
    cases ended
    rwa [List.append_nil]
  | cons x rest ih =>
    intro past a inside holds ended
    obtain ⟨next, first, others⟩ := bind_eq_ok.mp ended
    have stepped := step past x a next (inside x List.mem_cons_self) holds first
    have last := ih (past ++ [x]) next (fun y mem => inside y (List.mem_cons_of_mem x mem))
      stepped others
    rwa [List.append_assoc] at last

theorem foldlM_eq_ok {goes : γ → Prop} {next : β → γ → β}
    (step : ∀ a x b, f a x = .ok b ↔ goes x ∧ b = next a x) {xs : List γ} {a b : β} :
    xs.foldlM f a = .ok b ↔ (∀ x ∈ xs, goes x) ∧ b = xs.foldl next a := by
  induction xs generalizing a with
  | nil =>
    constructor
    · intro ended
      cases ended
      exact ⟨fun _ none => (List.not_mem_nil none).elim, rfl⟩
    · rintro ⟨-, rfl⟩
      rfl
  | cons x rest ih =>
    rw [List.foldlM_cons, bind_eq_ok, List.foldl_cons, List.forall_mem_cons]
    constructor
    · rintro ⟨between, first, ended⟩
      obtain ⟨goes, rfl⟩ := (step a x between).mp first
      obtain ⟨others, is⟩ := ih.mp ended
      exact ⟨⟨goes, others⟩, is⟩
    · rintro ⟨⟨goes, others⟩, is⟩
      exact ⟨next a x, (step a x _).mpr ⟨goes, rfl⟩, ih.mpr ⟨others, is⟩⟩

theorem foldlM_eq_error {xs : List γ} {a : β} {e : ε} :
    xs.foldlM f a = .error e ↔
      ∃ before x after b, xs = before ++ x :: after ∧ before.foldlM f a = .ok b ∧
        f b x = .error e := by
  induction xs generalizing a with
  | nil =>
    constructor
    · intro failed
      cases failed
    · rintro ⟨before, x, after, b, is, -⟩
      cases List.append_ne_nil_of_right_ne_nil before (List.cons_ne_nil x after) is.symm
  | cons x rest ih =>
    rw [List.foldlM_cons, bind_eq_error]
    constructor
    · rintro (failed | ⟨next, first, failed⟩)
      · exact ⟨[], x, rest, a, rfl, rfl, failed⟩
      · obtain ⟨before, y, after, b, is, ended, stopped⟩ := ih.mp failed
        refine ⟨x :: before, y, after, b, congrArg (x :: ·) is, ?_, stopped⟩
        exact bind_eq_ok.mpr ⟨next, first, ended⟩
    · rintro ⟨before, y, after, b, is, ended, stopped⟩
      cases before with
      | nil =>
        cases is
        cases ended
        exact Or.inl stopped
      | cons z before =>
        cases is
        obtain ⟨next, first, others⟩ := bind_eq_ok.mp ended
        exact Or.inr ⟨next, first, ih.mpr ⟨before, y, after, b, rfl, others, stopped⟩⟩

end Loops

end TradeResearch.Fallible
