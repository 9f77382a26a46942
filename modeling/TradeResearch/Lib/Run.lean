import Mathlib.Data.List.Basic

/-!
# Runs of a partial step function

`Run.exec step s events` takes the events one after the other; an event the system cannot take
ends the run with `none`. `Run.Meets` says that every event of a run met a condition on the state
it was taken in, and `Run.invariant` is the induction: what each such step preserves holds at the
end of every run. `Run.Along` collects the states a run passes through, and `Run.Steps` the pairs of
states its steps lead between. `Run.reached_or_counted` is the induction for what a run gets done.
-/

namespace TradeResearch.Run

variable {σ ε : Type}

def exec (step : σ → ε → Option σ) : σ → List ε → Option σ
  | s, [] => some s
  | s, e :: es => (step s e).bind fun t => exec step t es

def Meets (step : σ → ε → Option σ) (cond : σ → ε → Prop) : σ → List ε → Prop
  | _, [] => True
  | s, e :: es => cond s e ∧ ∀ t, step s e = some t → Meets step cond t es

def Along (step : σ → ε → Option σ) (P : σ → Prop) : σ → List ε → Prop
  | s, [] => P s
  | s, e :: es => P s ∧ ∀ t, step s e = some t → Along step P t es

def Steps (step : σ → ε → Option σ) (R : σ → σ → Prop) : σ → List ε → Prop
  | _, [] => True
  | s, e :: es => ∀ t, step s e = some t → R s t ∧ Steps step R t es

variable {step : σ → ε → Option σ} {cond : σ → ε → Prop} {P : σ → Prop}

@[simp] theorem exec_nil (s : σ) : exec step s [] = some s := rfl

theorem exec_cons (s : σ) (e : ε) (es : List ε) :
    exec step s (e :: es) = (step s e).bind fun t => exec step t es := rfl

theorem exec_cons_eq_some {s u : σ} {e : ε} {es : List ε} :
    exec step s (e :: es) = some u ↔ ∃ t, step s e = some t ∧ exec step t es = some u := by
  rw [exec_cons, Option.bind_eq_some_iff]

instance decidableMeets [∀ s e, Decidable (cond s e)] :
    ∀ s es, Decidable (Meets step cond s es)
  | _, [] => isTrue True.intro
  | s, e :: es =>
    match taken : step s e with
    | none =>
      decidable_of_iff (cond s e)
        ⟨fun met => ⟨met, fun t here => absurd here (by simp [taken])⟩, And.left⟩
    | some t =>
      have := decidableMeets t es
      decidable_of_iff (cond s e ∧ Meets step cond t es)
        ⟨fun both => ⟨both.1, fun u here => Option.some.inj (taken.symm.trans here) ▸ both.2⟩,
          fun met => ⟨met.1, met.2 t taken⟩⟩

theorem Meets.trivial (s : σ) (es : List ε) : Meets step (fun _ _ => True) s es := by
  induction es generalizing s with
  | nil => exact True.intro
  | cons e es ih => exact ⟨True.intro, fun t _ => ih t⟩

theorem Meets.of_mem {s : σ} {es : List ε} (met : ∀ e ∈ es, ∀ t, cond t e) :
    Meets step cond s es := by
  induction es generalizing s with
  | nil => exact True.intro
  | cons e es ih =>
    refine ⟨met e (List.mem_cons_self ..) s, fun t _ => ?_⟩
    exact ih fun e' mem => met e' (List.mem_cons_of_mem _ mem)

theorem meets_and {cond' : σ → ε → Prop} {s : σ} {es : List ε} :
    Meets step (fun t e => cond t e ∧ cond' t e) s es ↔
      Meets step cond s es ∧ Meets step cond' s es := by
  induction es generalizing s with
  | nil => exact ⟨fun _ => ⟨True.intro, True.intro⟩, fun _ => True.intro⟩
  | cons e es ih =>
    constructor
    · rintro ⟨⟨here, here'⟩, rest⟩
      exact ⟨⟨here, fun t taken => (ih.mp (rest t taken)).1⟩,
        ⟨here', fun t taken => (ih.mp (rest t taken)).2⟩⟩
    · rintro ⟨⟨here, rest⟩, ⟨here', rest'⟩⟩
      exact ⟨⟨here, here'⟩, fun t taken => ih.mpr ⟨rest t taken, rest' t taken⟩⟩

theorem Along.first {s : σ} {es : List ε} (along : Along step P s es) : P s := by
  cases es with
  | nil => exact along
  | cons _ _ => exact along.1

theorem Along.last {s u : σ} {es : List ε} (along : Along step P s es)
    (run : exec step s es = some u) : P u := by
  induction es generalizing s with
  | nil =>
    cases run
    exact along
  | cons e es ih =>
    obtain ⟨t, taken, rest⟩ := exec_cons_eq_some.mp run
    exact ih (along.2 t taken) rest

theorem invariant (preserved : ∀ s e t, P s → cond s e → step s e = some t → P t)
    {s u : σ} {es : List ε} (initial : P s) (meets : Meets step cond s es)
    (run : exec step s es = some u) : P u := by
  induction es generalizing s with
  | nil =>
    cases run
    exact initial
  | cons e es ih =>
    obtain ⟨t, taken, rest⟩ := exec_cons_eq_some.mp run
    exact ih (preserved s e t initial meets.1 taken) (meets.2 t taken) rest

theorem invariant_all (preserved : ∀ s e t, P s → step s e = some t → P t)
    {s u : σ} {es : List ε} (initial : P s) (run : exec step s es = some u) : P u :=
  invariant (fun s e t held _ taken => preserved s e t held taken)
    initial (Meets.trivial s es) run

theorem along_of_meets (preserved : ∀ s e t, P s → cond s e → step s e = some t → P t)
    {s : σ} {es : List ε} (initial : P s) (meets : Meets step cond s es) :
    Along step P s es := by
  induction es generalizing s with
  | nil => exact initial
  | cons e es ih =>
    exact ⟨initial, fun t taken => ih (preserved s e t initial meets.1 taken) (meets.2 t taken)⟩

theorem meets_of_invariant {cond' : σ → ε → Prop}
    (preserved : ∀ s e t, P s → cond s e → step s e = some t → P t)
    (gives : ∀ s e, P s → cond' s e) {s : σ} {es : List ε} (initial : P s)
    (meets : Meets step cond s es) : Meets step cond' s es := by
  induction es generalizing s with
  | nil => exact True.intro
  | cons e es ih =>
    exact ⟨gives s e initial, fun t taken =>
      ih (preserved s e t initial meets.1 taken) (meets.2 t taken)⟩

theorem Along.mono {Q : σ → Prop} (weaker : ∀ s, P s → Q s) {s : σ} {es : List ε}
    (along : Along step P s es) : Along step Q s es := by
  induction es generalizing s with
  | nil => exact weaker s along
  | cons e es ih => exact ⟨weaker s along.1, fun t taken => ih (along.2 t taken)⟩

theorem along_iff_meets_of_given {I : σ → Prop} {given : σ → ε → Prop}
    (kept : ∀ s e t, I s → given s e → step s e = some t → I t)
    (exact : ∀ s e t, I s → P s → given s e → step s e = some t → (P t ↔ cond s e))
    (blocked : ∀ s e, step s e = none → cond s e)
    {s : σ} {es : List ε} (invariant : I s) (initial : P s) (meets : Meets step given s es) :
    Along step P s es ↔ Meets step cond s es := by
  induction es generalizing s with
  | nil => exact ⟨fun _ => True.intro, fun _ => initial⟩
  | cons e es ih =>
    cases taken : step s e with
    | none =>
      have never : ∀ t, step s e ≠ some t := fun t => by simp [taken]
      exact ⟨fun _ => ⟨blocked s e taken, fun t here => absurd here (never t)⟩,
        fun _ => ⟨initial, fun t here => absurd here (never t)⟩⟩
    | some t =>
      have only : ∀ t', step s e = some t' → t' = t := fun t' taken' =>
        Option.some.inj (taken'.symm.trans taken)
      have still := kept s e t invariant meets.1 taken
      have agree := exact s e t invariant initial meets.1 taken
      constructor
      · rintro ⟨_, rest⟩
        have next : P t := (rest t taken).first
        refine ⟨agree.mp next, fun t' taken' => ?_⟩
        rw [only t' taken']
        exact (ih still next (meets.2 t taken)).mp (rest t taken)
      · rintro ⟨met, rest⟩
        have next : P t := agree.mpr met
        refine ⟨initial, fun t' taken' => ?_⟩
        rw [only t' taken']
        exact (ih still next (meets.2 t taken)).mpr (rest t taken)

theorem along_iff_meets_of_invariant {I : σ → Prop}
    (kept : ∀ s e t, I s → step s e = some t → I t)
    (exact : ∀ s e t, I s → P s → step s e = some t → (P t ↔ cond s e))
    (blocked : ∀ s e, step s e = none → cond s e)
    {s : σ} {es : List ε} (invariant : I s) (initial : P s) :
    Along step P s es ↔ Meets step cond s es :=
  along_iff_meets_of_given (fun s e t held _ => kept s e t held)
    (fun s e t held here _ => exact s e t held here) blocked invariant initial (Meets.trivial s es)

theorem along_iff_meets
    (exact : ∀ s e t, P s → step s e = some t → (P t ↔ cond s e))
    (blocked : ∀ s e, step s e = none → cond s e)
    {s : σ} {es : List ε} (initial : P s) :
    Along step P s es ↔ Meets step cond s es :=
  along_iff_meets_of_invariant (I := fun _ => True) (fun _ _ _ _ _ => True.intro)
    (fun s e t _ => exact s e t) blocked True.intro initial

theorem steps_iff_meets {R : σ → σ → Prop}
    (exact : ∀ s e t, step s e = some t → (R s t ↔ cond s e))
    (blocked : ∀ s e, step s e = none → cond s e) {s : σ} {es : List ε} :
    Steps step R s es ↔ Meets step cond s es := by
  induction es generalizing s with
  | nil => exact Iff.rfl
  | cons e es ih =>
    constructor
    · intro related
      refine ⟨?_, fun t taken => ih.mp (related t taken).2⟩
      cases taken : step s e with
      | none => exact blocked s e taken
      | some t => exact (exact s e t taken).mp (related t taken).1
    · rintro ⟨met, rest⟩ t taken
      exact ⟨(exact s e t taken).mpr met, ih.mpr (rest t taken)⟩

theorem steps_of_meets {R : σ → σ → Prop}
    (related : ∀ s e t, P s → cond s e → step s e = some t → P t ∧ R s t)
    {s : σ} {es : List ε} (initial : P s) (meets : Meets step cond s es) : Steps step R s es := by
  induction es generalizing s with
  | nil => exact True.intro
  | cons e es ih =>
    intro t taken
    obtain ⟨next, here⟩ := related s e t initial meets.1 taken
    exact ⟨here, ih next (meets.2 t taken)⟩

theorem Steps.between {R : σ → σ → Prop} {s t u : σ} {e : ε} {es fs : List ε}
    (related : Steps step R s (es ++ e :: fs)) (run : exec step s es = some t)
    (taken : step t e = some u) : R t u := by
  induction es generalizing s with
  | nil =>
    cases run
    exact (related u taken).1
  | cons e' es ih =>
    obtain ⟨s', here, rest⟩ := exec_cons_eq_some.mp run
    exact ih (related s' here).2 rest

theorem along_congr {I Q : σ → Prop} (kept : ∀ s e t, I s → step s e = some t → I t)
    (agree : ∀ s e t, I s → Q s → step s e = some t → (P t ↔ Q t))
    {s : σ} {es : List ε} (invariant : I s) (here : P s) (here' : Q s) :
    Along step P s es ↔ Along step Q s es := by
  induction es generalizing s with
  | nil => exact ⟨fun _ => here', fun _ => here⟩
  | cons e es ih =>
    constructor
    · rintro ⟨_, rest⟩
      refine ⟨here', fun t taken => ?_⟩
      have next : P t := (rest t taken).first
      have next' : Q t := (agree s e t invariant here' taken).mp next
      exact (ih (kept s e t invariant taken) next next').mp (rest t taken)
    · rintro ⟨_, rest⟩
      refine ⟨here, fun t taken => ?_⟩
      have next' : Q t := (rest t taken).first
      have next : P t := (agree s e t invariant here' taken).mpr next'
      exact (ih (kept s e t invariant taken) next next').mpr (rest t taken)

theorem Meets.rest {s t : σ} {es fs : List ε} (met : Meets step cond s (es ++ fs))
    (run : exec step s es = some t) : Meets step cond t fs := by
  induction es generalizing s with
  | nil =>
    cases run
    exact met
  | cons e es ih =>
    obtain ⟨s', here, rest⟩ := exec_cons_eq_some.mp run
    exact ih (met.2 s' here) rest

theorem Meets.start {s : σ} {es fs : List ε} (met : Meets step cond s (es ++ fs)) :
    Meets step cond s es := by
  induction es generalizing s with
  | nil => exact True.intro
  | cons e es ih => exact ⟨met.1, fun t taken => ih (met.2 t taken)⟩

theorem reached_or_counted {Q : σ → Prop} {m : σ → ℕ} (counts : ε → Bool)
    (kept : ∀ s e t, P s → cond s e → step s e = some t → P t)
    (lasts : ∀ s e t, P s → cond s e → step s e = some t → Q s → Q t)
    (nearer : ∀ s e t, P s → cond s e → step s e = some t → ¬ Q s →
      m s + (if counts e then 1 else 0) ≤ m t)
    {s u : σ} {es : List ε} (initial : P s) (meets : Meets step cond s es)
    (run : exec step s es = some u) : Q u ∨ m s + es.countP counts ≤ m u := by
  induction es generalizing s with
  | nil =>
    cases run
    exact .inr (Nat.le_refl _)
  | cons e es ih =>
    obtain ⟨t, taken, rest⟩ := exec_cons_eq_some.mp run
    by_cases reached : Q s
    · have both : P u ∧ Q u :=
        invariant (P := fun s => P s ∧ Q s)
          (fun s e t here met taken =>
            ⟨kept s e t here.1 met taken, lasts s e t here.1 met taken here.2⟩)
          ⟨kept s e t initial meets.1 taken, lasts s e t initial meets.1 taken reached⟩
          (meets.2 t taken) rest
      exact .inl both.2
    · have step := nearer s e t initial meets.1 taken reached
      rcases ih (kept s e t initial meets.1 taken) (meets.2 t taken) rest with done | counted
      · exact .inl done
      · right
        rw [List.countP_cons]
        omega

end TradeResearch.Run
