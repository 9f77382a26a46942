import Mathlib.Data.List.Induction
import Mathlib.Data.List.Nodup
import Mathlib.Data.List.Pairwise
import Mathlib.Order.Bounds.Basic

/-!
# Runs of a list

The entries of a list under their keys: `runs key xs` is what a dictionary of lists holds when the
entries were appended one after the other, in the order its keys were first used.

* `Stretches` says that a list falls into stretches of one key each, the keys rising.
  `stretches_runs`: the runs of a list whose keys never fall are such stretches;
  `Stretches.eq_runs`: no other stretches are.
* `Stretches.filter_key`: a stretch has the entries of its key, and no others.
* `Run.fold_join`: what an operation joins of runs it joins of all their entries.
* `mem_runs_append`: a run stays what it is until its key is used again.
-/

namespace TradeResearch.Runs

universe u v w

structure Run (α : Type u) (κ : Type v) where
  key : κ
  first : α
  rest : List α

namespace Run

variable {α : Type u} {β : Type w} {κ : Type v}

def all (r : Run α κ) : List α := r.first :: r.rest

theorem all_ne_nil (r : Run α κ) : r.all ≠ [] := List.cons_ne_nil _ _

def add (r : Run α κ) (a : α) : Run α κ := { r with rest := r.rest ++ [a] }

def map (f : α → β) (r : Run α κ) : Run β κ := ⟨r.key, f r.first, r.rest.map f⟩

theorem add_all (r : Run α κ) (a : α) : (r.add a).all = r.all ++ [a] := rfl

theorem map_all (f : α → β) (r : Run α κ) : (r.map f).all = r.all.map f := rfl

def join {ι : Type v} (r : Run (Run α κ) ι) : Run α ι :=
  ⟨r.key, r.first.first, r.first.rest ++ (r.rest.map all).flatten⟩

theorem join_all {ι : Type v} (r : Run (Run α κ) ι) : r.join.all = (r.all.map all).flatten := rfl

theorem mem_join {ι : Type v} {r : Run (Run α κ) ι} {a : α} :
    a ∈ r.join.all ↔ ∃ s ∈ r.all, a ∈ s.all := by
  rw [join_all, List.mem_flatten]
  constructor
  · rintro ⟨_, mem, inside⟩
    obtain ⟨s, here, rfl⟩ := List.mem_map.mp mem
    exact ⟨s, here, inside⟩
  · rintro ⟨s, here, inside⟩
    exact ⟨s.all, List.mem_map_of_mem here, inside⟩

section Fold

variable {op : β → β → β} {f : α → β}

def fold (op : β → β → β) (f : α → β) (r : Run α κ) : β := (r.rest.map f).foldl op (f r.first)

theorem fold_map {γ : Type u} (g : γ → α) (r : Run γ κ) :
    (r.map g).fold op f = r.fold op fun a => f (g a) := by
  unfold fold map
  rw [List.map_map]
  rfl

theorem foldl_fold [Std.Associative op] (rs : List (Run α κ)) (b : β) :
    (rs.map (fold op f)).foldl op b = ((rs.map all).flatten.map f).foldl op b := by
  induction rs generalizing b with
  | nil => rfl
  | cons r rs ih =>
    rw [List.map_cons, List.foldl_cons, ih, List.map_cons, List.flatten_cons, List.map_append,
      List.foldl_append]
    refine congrArg (List.foldl op · _) ?_
    exact List.foldl_assoc.symm

theorem fold_join {ι : Type v} [Std.Associative op] (r : Run (Run α κ) ι) :
    r.fold op (fold op f) = r.join.fold op f := by
  change (r.rest.map (fold op f)).foldl op (r.first.fold op f) = _
  rw [foldl_fold]
  change _ = ((r.first.rest ++ (r.rest.map all).flatten).map f).foldl op (f r.first.first)
  rw [List.map_append, List.foldl_append]
  rfl

variable [LinearOrder β]

theorem isGreatest_fold (r : Run α κ) : IsGreatest {b | ∃ a ∈ r.all, f a = b} (r.fold max f) := by
  obtain ⟨k, first, rest⟩ := r
  induction rest using List.reverseRecOn with
  | nil => exact ⟨⟨first, List.mem_cons_self, rfl⟩, fun b ⟨a, mem, is⟩ => by
      rw [← is, List.mem_singleton.mp mem]
      rfl⟩
  | append_singleton rest a ih =>
    have is : fold max f ⟨k, first, rest ++ [a]⟩ = max (fold max f ⟨k, first, rest⟩) (f a) := by
      unfold fold
      rw [List.map_append, List.foldl_append]
      rfl
    obtain ⟨⟨top, mem, same⟩, most⟩ := ih
    rw [is]
    constructor
    · rcases le_total (f a) (fold max f ⟨k, first, rest⟩) with here | here
      · rw [max_eq_left here]
        exact ⟨top, List.mem_append_left [a] mem, same⟩
      · rw [max_eq_right here]
        exact ⟨a, List.mem_append_right (first :: rest) (List.mem_singleton_self a), rfl⟩
    · rintro _ ⟨b, inside, rfl⟩
      rcases List.mem_append.mp (show b ∈ (first :: rest) ++ [a] from inside) with before | last
      · exact (most ⟨b, before, rfl⟩).trans (le_max_left _ _)
      · rw [List.mem_singleton.mp last]
        exact le_max_right _ _

theorem isLeast_fold (r : Run α κ) : IsLeast {b | ∃ a ∈ r.all, f a = b} (r.fold min f) :=
  @isGreatest_fold α βᵒᵈ κ f _ r

end Fold

end Run

section Filing

variable {α : Type u} {κ : Type v} [DecidableEq κ]

def file (k : κ) (a : α) : List (Run α κ) → List (Run α κ)
  | [] => [⟨k, a, []⟩]
  | r :: rs => if r.key = k then r.add a :: rs else r :: file k a rs

def runs (key : α → κ) (xs : List α) : List (Run α κ) :=
  xs.foldl (fun rs a => file (key a) a rs) []

variable {key : α → κ} {k : κ} {a : α} {rs : List (Run α κ)} {xs ys : List α}

theorem runs_append_singleton : runs key (xs ++ [a]) = file (key a) a (runs key xs) := by
  unfold runs
  rw [List.foldl_append]
  rfl

theorem mem_file_of_ne (mem : r ∈ rs) (other : r.key ≠ k) : r ∈ file k a rs := by
  induction rs with
  | nil => cases mem
  | cons s rs ih =>
    unfold file
    by_cases here : s.key = k
    · rw [if_pos here]
      rcases List.mem_cons.mp mem with rfl | mem
      · exact absurd here other
      · exact List.mem_cons_of_mem _ mem
    · rw [if_neg here]
      rcases List.mem_cons.mp mem with rfl | mem
      · exact List.mem_cons_self
      · exact List.mem_cons_of_mem _ (ih mem)

theorem file_of_new (new : ∀ s ∈ rs, s.key ≠ k) : file k a rs = rs ++ [⟨k, a, []⟩] := by
  induction rs with
  | nil => rfl
  | cons s rs ih =>
    obtain ⟨other, new⟩ := List.forall_mem_cons.mp new
    unfold file
    rw [if_neg other, ih new]
    rfl

theorem file_of_last (new : ∀ s ∈ rs, s.key ≠ r.key) :
    file r.key a (rs ++ [r]) = rs ++ [r.add a] := by
  induction rs with
  | nil =>
    change file r.key a [r] = [r.add a]
    unfold file
    rw [if_pos rfl]
  | cons s rs ih =>
    obtain ⟨other, new⟩ := List.forall_mem_cons.mp new
    rw [List.cons_append]
    unfold file
    rw [if_neg other, ih new]
    rfl

theorem mem_runs_append (mem : r ∈ runs key xs) (unused : ∀ a ∈ ys, key a ≠ r.key) :
    r ∈ runs key (xs ++ ys) := by
  induction ys using List.reverseRecOn with
  | nil =>
    rw [List.append_nil]
    exact mem
  | append_singleton ys a ih =>
    obtain ⟨before, last⟩ := List.forall_mem_append.mp unused
    rw [← List.append_assoc, runs_append_singleton]
    exact mem_file_of_ne (ih before) (last a (List.mem_singleton_self a)).symm

theorem runs_append_all (new : ∀ s ∈ runs key xs, s.key ≠ r.key)
    (keyed : ∀ a ∈ r.all, key a = r.key) : runs key (xs ++ r.all) = runs key xs ++ [r] := by
  obtain ⟨k, first, rest⟩ := r
  induction rest using List.reverseRecOn with
  | nil =>
    change runs key (xs ++ [first]) = _
    rw [runs_append_singleton, keyed first List.mem_cons_self, file_of_new new]
  | append_singleton rest a ih =>
    obtain ⟨before, last⟩ := List.forall_mem_append.mp
      (show ∀ b ∈ (first :: rest) ++ [a], key b = k from keyed)
    change runs key (xs ++ ((first :: rest) ++ [a])) = _
    rw [← List.append_assoc, runs_append_singleton, last a (List.mem_singleton_self a)]
    change file k a (runs key (xs ++ Run.all ⟨k, first, rest⟩)) = _
    rw [ih new before]
    exact @file_of_last _ _ _ a _ ⟨k, first, rest⟩ new

end Filing

section Sorted

variable {α : Type u} {β : Type w} {κ : Type v} [LinearOrder κ]

structure Stretches (key : α → κ) (xs : List α) (rs : List (Run α κ)) : Prop where
  flat : (rs.map Run.all).flatten = xs
  keyed : ∀ r ∈ rs, ∀ a ∈ r.all, key a = r.key
  rising : rs.Pairwise fun r s => r.key < s.key

variable {key : α → κ} {rs : List (Run α κ)} {xs : List α}

theorem stretches_nil : Stretches key [] ([] : List (Run α κ)) :=
  ⟨rfl, List.forall_mem_nil _, List.Pairwise.nil⟩

theorem stretches_append_singleton :
    Stretches key xs (rs ++ [r]) ↔
      ∃ ys, xs = ys ++ r.all ∧ Stretches key ys rs ∧ (∀ a ∈ r.all, key a = r.key) ∧
        ∀ s ∈ rs, s.key < r.key := by
  constructor
  · rintro ⟨rfl, keyed, rising⟩
    obtain ⟨before, last⟩ := List.forall_mem_append.mp keyed
    obtain ⟨rising, -, less⟩ := List.pairwise_append.mp rising
    refine ⟨_, ?_, ⟨rfl, before, rising⟩, last r (List.mem_singleton_self r),
      fun s mem => less s mem r (List.mem_singleton_self r)⟩
    simp
  · rintro ⟨ys, rfl, ⟨rfl, before, rising⟩, last, less⟩
    refine ⟨?_, List.forall_mem_append.mpr ⟨before, List.forall_mem_singleton.mpr last⟩,
      List.pairwise_append.mpr ⟨rising, List.pairwise_singleton _ r, fun s mem t here => ?_⟩⟩
    · rw [List.map_append, List.flatten_append]
      simp
    · rw [List.mem_singleton.mp here]
      exact less s mem

theorem stretches_runs (sorted : xs.Pairwise fun a b => key a ≤ key b) :
    Stretches key xs (runs key xs) := by
  induction xs using List.reverseRecOn with
  | nil => exact stretches_nil
  | append_singleton xs a ih =>
    obtain ⟨sorted, -, less⟩ := List.pairwise_append.mp sorted
    have split := ih sorted
    rw [runs_append_singleton]
    rcases List.eq_nil_or_concat (runs key xs) with none_ | ⟨rs, r, is⟩
    · rw [none_] at split ⊢
      obtain ⟨rfl, -, -⟩ := split
      exact @stretches_append_singleton _ _ _ key [] _ ⟨key a, a, []⟩ |>.mpr
        ⟨[], rfl, stretches_nil, List.forall_mem_singleton.mpr rfl, List.forall_mem_nil _⟩
    · rw [List.concat_eq_append] at is
      rw [is] at split ⊢
      obtain ⟨ys, rfl, before, keyed, rising⟩ := stretches_append_singleton.mp split
      have later : r.key ≤ key a := by
        rw [← keyed r.first List.mem_cons_self]
        exact less r.first (List.mem_append_right _ List.mem_cons_self) a
          (List.mem_singleton_self a)
      rcases later.eq_or_lt with same | new
      · rw [← same, file_of_last fun s mem => (rising s mem).ne]
        refine stretches_append_singleton.mpr
          ⟨ys, by rw [Run.add_all, List.append_assoc], before, ?_, rising⟩
        exact List.forall_mem_append.mpr ⟨keyed, List.forall_mem_singleton.mpr same.symm⟩
      · have past : ∀ s ∈ rs ++ [r], s.key < key a :=
          List.forall_mem_append.mpr
            ⟨fun s mem => (rising s mem).trans new, List.forall_mem_singleton.mpr new⟩
        rw [file_of_new fun s mem => (past s mem).ne]
        exact stretches_append_singleton.mpr
          ⟨_, rfl, split, List.forall_mem_singleton.mpr rfl, past⟩

namespace Stretches

theorem eq_runs (split : Stretches key xs rs) : rs = runs key xs := by
  induction rs using List.reverseRecOn generalizing xs with
  | nil =>
    obtain ⟨rfl, -, -⟩ := split
    rfl
  | append_singleton rs r ih =>
    obtain ⟨ys, rfl, before, keyed, rising⟩ := stretches_append_singleton.mp split
    have same := ih before
    rw [runs_append_all (fun s mem => (rising s (same ▸ mem)).ne) keyed, ← same]

theorem mem_of_mem (split : Stretches key xs rs) (mem : r ∈ rs) {a : α} (inside : a ∈ r.all) :
    a ∈ xs := by
  rw [← split.flat]
  exact List.mem_flatten.mpr ⟨r.all, List.mem_map_of_mem mem, inside⟩

theorem exists_of_mem (split : Stretches key xs rs) {a : α} (mem : a ∈ xs) :
    ∃ r ∈ rs, a ∈ r.all := by
  rw [← split.flat] at mem
  obtain ⟨_, stretch, inside⟩ := List.mem_flatten.mp mem
  obtain ⟨r, here, rfl⟩ := List.mem_map.mp stretch
  exact ⟨r, here, inside⟩

theorem eq_of_key (split : Stretches key xs rs) {s : Run α κ} (mem : r ∈ rs) (mem' : s ∈ rs)
    (same : r.key = s.key) : r = s := by
  have apart : rs.Pairwise fun r s => r.key ≠ s.key := split.rising.imp fun less => less.ne
  exact List.inj_on_of_nodup_map (List.pairwise_map.mpr apart) mem mem' same

theorem filter_key (split : Stretches key xs rs) (mem : r ∈ rs) :
    xs.filter (fun a => key a = r.key) = r.all := by
  obtain ⟨before, after, rfl⟩ := List.append_of_mem mem
  obtain ⟨-, later, less⟩ := List.pairwise_append.mp split.rising
  have apart : ∀ s ∈ before ++ after, s.key ≠ r.key :=
    List.forall_mem_append.mpr ⟨fun s here => (less s here r List.mem_cons_self).ne,
      fun s here => ((List.pairwise_cons.mp later).1 s here).ne'⟩
  have none_ : ∀ part : List (Run α κ), (∀ s ∈ part, s ∈ before ++ r :: after) →
      (∀ s ∈ part, s.key ≠ r.key) →
        ((part.map Run.all).flatten.filter fun a => key a = r.key) = [] := by
    intro part known other
    refine List.filter_eq_nil_iff.mpr fun a inside => ?_
    obtain ⟨_, stretch, inside⟩ := List.mem_flatten.mp inside
    obtain ⟨s, here, rfl⟩ := List.mem_map.mp stretch
    rw [split.keyed s (known s here) a inside]
    simpa using other s here
  obtain ⟨earlier, after_⟩ := List.forall_mem_append.mp apart
  rw [← split.flat, List.map_append, List.map_cons, List.flatten_append, List.flatten_cons,
    List.filter_append, List.filter_append,
    none_ before (fun s here => List.mem_append_left _ here) earlier,
    none_ after (fun s here => List.mem_append_right _ (List.mem_cons_of_mem _ here)) after_,
    List.nil_append, List.append_nil]
  exact List.filter_eq_self.mpr fun a inside => decide_eq_true (split.keyed r mem a inside)

theorem map {key' : β → κ} (f : α → β) (split : Stretches (fun a => key' (f a)) xs rs) :
    Stretches key' (xs.map f) (rs.map (Run.map f)) := by
  refine ⟨?_, List.forall_mem_map.mpr fun r mem => ?_, List.pairwise_map.mpr split.rising⟩
  · rw [← split.flat, List.map_flatten, List.map_map, List.map_map]
    rfl
  · rw [Run.map_all]
    exact List.forall_mem_map.mpr (split.keyed r mem)

theorem join {ι : Type v} [LinearOrder ι] {key' : α → ι} {g : κ → ι} {rs' : List (Run (Run α κ) ι)}
    (split : Stretches key xs rs) (split' : Stretches (fun r => g r.key) rs rs')
    (coarser : ∀ a ∈ xs, key' a = g (key a)) : Stretches key' xs (rs'.map Run.join) := by
  refine ⟨?_, List.forall_mem_map.mpr fun r mem a inside => ?_, List.pairwise_map.mpr split'.rising⟩
  · rw [← split.flat, ← split'.flat, List.map_flatten, List.flatten_flatten, List.map_map,
      List.map_map, List.map_map]
    rfl
  · rw [Run.join_all] at inside
    obtain ⟨_, stretch, inside⟩ := List.mem_flatten.mp inside
    obtain ⟨s, here, rfl⟩ := List.mem_map.mp stretch
    have known := split'.mem_of_mem mem here
    rw [coarser a (split.mem_of_mem known inside), split.keyed s known a inside]
    exact split'.keyed r mem s here

end Stretches

end Sorted

end TradeResearch.Runs
