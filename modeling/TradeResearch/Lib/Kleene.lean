import Mathlib.Data.List.Basic

/-!
# Three-valued logic

Conditions over atoms whose truth may be unknown, joined by negation, by "all of" and by "any of".

* `Formula.fold` is the recursion over a formula, `Formula.induction` the induction.
* `Truth` is a strong Kleene value: `none` is unknown, and is passed on unless the rest decides.
* `Formula.holds_of_eval`: where every atom that is known is read as it is, a formula that is known
  is read as it is, whatever the others are read as.
* `find?_eq_of_known`: the first formula of a list that is read as true is the first that is true,
  unless it is unknown.
-/

namespace TradeResearch.Kleene

abbrev Truth := Option Bool

def Truth.neg (t : Truth) : Truth := t.map not

def Truth.all (ts : List Truth) : Truth :=
  if some false ∈ ts then some false else if none ∈ ts then none else some true

def Truth.any (ts : List Truth) : Truth :=
  if some true ∈ ts then some true else if none ∈ ts then none else some false

theorem Truth.all_eq_false {ts : List Truth} : Truth.all ts = some false ↔ some false ∈ ts := by
  unfold Truth.all
  split
  · next here => exact iff_of_true rfl here
  · next none_ =>
    refine iff_of_false (fun known => ?_) none_
    split at known <;> cases known

theorem Truth.all_eq_true {ts : List Truth} :
    Truth.all ts = some true ↔ ∀ t ∈ ts, t = some true := by
  unfold Truth.all
  constructor
  · intro known t mem
    split at known
    · cases known
    · next false_ =>
      split at known
      · cases known
      · next unknown =>
        cases t with
        | none => exact absurd mem unknown
        | some x =>
          cases x with
          | false => exact absurd mem false_
          | true => rfl
  · intro each
    have apart {t : Truth} (other : t ≠ some true) : t ∉ ts := fun mem => other (each t mem)
    rw [if_neg (apart (by decide)), if_neg (apart (by decide))]

theorem Truth.any_eq_true {ts : List Truth} : Truth.any ts = some true ↔ some true ∈ ts := by
  unfold Truth.any
  split
  · next here => exact iff_of_true rfl here
  · next none_ =>
    refine iff_of_false (fun known => ?_) none_
    split at known <;> cases known

theorem Truth.any_eq_false {ts : List Truth} :
    Truth.any ts = some false ↔ ∀ t ∈ ts, t = some false := by
  unfold Truth.any
  constructor
  · intro known t mem
    split at known
    · cases known
    · next true_ =>
      split at known
      · cases known
      · next unknown =>
        cases t with
        | none => exact absurd mem unknown
        | some x =>
          cases x with
          | true => exact absurd mem true_
          | false => rfl
  · intro each
    have apart {t : Truth} (other : t ≠ some false) : t ∉ ts := fun mem => other (each t mem)
    rw [if_neg (apart (by decide)), if_neg (apart (by decide))]

inductive Formula (α : Type) where
  | atom (a : α)
  | not (f : Formula α)
  | all (fs : List (Formula α))
  | any (fs : List (Formula α))

namespace Formula

variable {β : Type}

section Fold

variable (atom : α → β) (not : β → β) (all any : List β → β)

mutual
def fold : Formula α → β
  | .atom a => atom a
  | .not f => not (fold f)
  | .all fs => all (foldEach fs)
  | .any fs => any (foldEach fs)

def foldEach : List (Formula α) → List β
  | [] => []
  | f :: fs => fold f :: foldEach fs
end

theorem foldEach_eq_map (fs : List (Formula α)) :
    foldEach atom not all any fs = fs.map (fold atom not all any) := by
  induction fs with
  | nil => rfl
  | cons f fs ih =>
    unfold foldEach
    rw [ih, List.map_cons]

theorem fold_atom (a : α) : fold atom not all any (.atom a) = atom a := by
  rfl

theorem fold_not (f : Formula α) :
    fold atom not all any (.not f) = not (fold atom not all any f) := by
  conv => lhs; unfold fold

theorem fold_all (fs : List (Formula α)) :
    fold atom not all any (.all fs) = all (fs.map (fold atom not all any)) := by
  conv => lhs; unfold fold
  rw [foldEach_eq_map]

theorem fold_any (fs : List (Formula α)) :
    fold atom not all any (.any fs) = any (fs.map (fold atom not all any)) := by
  conv => lhs; unfold fold
  rw [foldEach_eq_map]

end Fold

theorem induction {P : Formula α → Prop} (atom : ∀ a, P (.atom a)) (not : ∀ f, P f → P (.not f))
    (all : ∀ fs, (∀ f ∈ fs, P f) → P (.all fs)) (any : ∀ fs, (∀ f ∈ fs, P f) → P (.any fs))
    (f : Formula α) : P f :=
  @Formula.rec α P (fun fs => ∀ f ∈ fs, P f) atom not all any
    (fun _ mem => absurd mem List.not_mem_nil)
    (fun _ _ first rest => List.forall_mem_cons.mpr ⟨first, rest⟩) f

def eval (v : α → Truth) : Formula α → Truth := fold v Truth.neg Truth.all Truth.any

def holds (b : α → Bool) : Formula α → Bool :=
  fold b Bool.not (fun bs => bs.all id) (fun bs => bs.any id)

theorem holds_of_eval {v : α → Truth} {b : α → Bool} (reads : ∀ a x, v a = some x → b a = x)
    (f : Formula α) : ∀ x, eval v f = some x → holds b f = x := by
  induction f using induction with
  | atom a => exact fun x known => reads a x known
  | not f ih =>
    intro x known
    obtain ⟨y, inner, rfl⟩ := Option.map_eq_some_iff.mp known
    exact congrArg Bool.not (ih y inner)
  | all fs ih =>
    intro x known
    unfold eval at known
    rw [fold_all] at known
    unfold holds
    rw [fold_all]
    cases x with
    | true =>
      refine List.all_eq_true.mpr fun y mem => ?_
      obtain ⟨f, member, rfl⟩ := List.mem_map.mp mem
      exact ih f member true (Truth.all_eq_true.mp known _ (List.mem_map_of_mem member))
    | false =>
      obtain ⟨f, member, here⟩ := List.mem_map.mp (Truth.all_eq_false.mp known)
      refine List.all_eq_false.mpr ⟨_, List.mem_map_of_mem member, ?_⟩
      exact Bool.eq_false_iff.mp (ih f member false here)
  | any fs ih =>
    intro x known
    unfold eval at known
    rw [fold_any] at known
    unfold holds
    rw [fold_any]
    cases x with
    | true =>
      obtain ⟨f, member, here⟩ := List.mem_map.mp (Truth.any_eq_true.mp known)
      exact List.any_eq_true.mpr ⟨_, List.mem_map_of_mem member, ih f member true here⟩
    | false =>
      refine List.any_eq_false.mpr fun y mem => ?_
      obtain ⟨f, member, rfl⟩ := List.mem_map.mp mem
      exact Bool.eq_false_iff.mp
        (ih f member false (Truth.any_eq_false.mp known _ (List.mem_map_of_mem member)))

end Formula

theorem find?_eq_of_known {α : Type} {p : α → Bool} {t : α → Truth}
    (reads : ∀ a x, t a = some x → p a = x) (l : List α)
    (known : ∀ a, l.find? p = some a → t a ≠ none) :
    l.find? p = l.find? fun a => t a = some true := by
  induction l with
  | nil => rfl
  | cons a l ih =>
    rw [List.find?_cons] at known
    rw [List.find?_cons, List.find?_cons]
    cases here : t a with
    | none =>
      -- what is unknown is passed over: were it accepted, it would be the first
      cases accepted : p a with
      | true =>
        rw [accepted] at known
        exact absurd here (known a rfl)
      | false =>
        rw [accepted] at known
        exact ih known
    | some x =>
      have read := reads a x here
      rw [read] at known
      rw [read]
      cases x with
      | true => rfl
      | false => exact ih known

end TradeResearch.Kleene
