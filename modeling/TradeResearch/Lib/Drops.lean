import Mathlib.Algebra.Order.Group.Defs
import Mathlib.Order.Bounds.Basic
import Mathlib.Tactic.Basic

/-!
# Drops

How far the values of a list fall from one place to a later one.

* `IsLargestDrop xs d`: nothing in `xs` falls further than `d`, and something falls that far.
* `IsLargestDrop.append`: one more value falls furthest from the highest of all.
-/

namespace TradeResearch

variable {α : Type} [LinearOrder α] {xs : List α} {d p x : α}

def IsPeak (xs : List α) (p : α) : Prop := IsGreatest {v | v ∈ xs} p

theorem isPeak_singleton (x : α) : IsPeak [x] x :=
  ⟨List.mem_singleton_self x, fun _ mem => (List.mem_singleton.mp mem).le⟩

theorem IsPeak.append (peak : IsPeak xs p) (x : α) : IsPeak (xs ++ [x]) (max p x) := by
  constructor
  · rcases le_total p x with below | above
    · rw [max_eq_right below]
      exact List.mem_append_right _ (List.mem_singleton_self x)
    · rw [max_eq_left above]
      exact List.mem_append_left _ peak.1
  · intro v mem
    rcases List.mem_append.mp mem with old | new
    · exact (peak.2 old).trans (le_max_left _ _)
    · exact (List.mem_singleton.mp new).le.trans (le_max_right _ _)

variable [AddCommGroup α]

def drops (xs : List α) : Set α :=
  {d | ∃ (i j : ℕ) (x y : α), i ≤ j ∧ xs[i]? = some x ∧ xs[j]? = some y ∧ d = x - y}

def IsLargestDrop (xs : List α) (d : α) : Prop := IsGreatest (insert 0 (drops xs)) d

omit [LinearOrder α] in
theorem mem_drops_append : d ∈ drops (xs ++ [x]) ↔ d ∈ drops xs ∨ ∃ v ∈ xs ++ [x], d = v - x := by
  constructor
  · rintro ⟨i, j, v, w, before, first, second, rfl⟩
    by_cases last : j < xs.length
    · rw [List.getElem?_append_left last] at second
      rw [List.getElem?_append_left (before.trans_lt last)] at first
      exact Or.inl ⟨i, j, v, w, before, first, second, rfl⟩
    · rw [List.getElem?_append_right (not_lt.mp last)] at second
      have is : w = x := List.mem_singleton.mp (List.mem_of_getElem? second)
      exact Or.inr ⟨v, List.mem_of_getElem? first, by rw [is]⟩
  · rintro (⟨i, j, v, w, before, first, second, rfl⟩ | ⟨v, mem, rfl⟩)
    · refine ⟨i, j, v, w, before, ?_, ?_, rfl⟩
      · rw [List.getElem?_append_left (List.getElem?_eq_some_iff.mp first).1, first]
      · rw [List.getElem?_append_left (List.getElem?_eq_some_iff.mp second).1, second]
    · obtain ⟨i, is⟩ := List.getElem?_of_mem mem
      have inside := (List.getElem?_eq_some_iff.mp is).1
      rw [List.length_append, List.length_singleton] at inside
      exact ⟨i, xs.length, v, x, Nat.lt_succ_iff.mp inside, is, List.getElem?_concat_length, rfl⟩

theorem isLargestDrop_nil : IsLargestDrop ([] : List α) 0 := by
  refine ⟨Set.mem_insert _ _, ?_⟩
  rintro _ (rfl | ⟨i, j, v, w, _, first, _⟩)
  · exact le_rfl
  · rw [List.getElem?_nil] at first
    cases first

variable [IsOrderedAddMonoid α]

theorem IsLargestDrop.append (largest : IsLargestDrop xs d) (peak : IsPeak (xs ++ [x]) p) :
    IsLargestDrop (xs ++ [x]) (max d (p - x)) := by
  constructor
  · rcases le_total d (p - x) with below | above
    · rw [max_eq_right below]
      exact Or.inr (mem_drops_append.mpr (Or.inr ⟨p, peak.1, rfl⟩))
    · rw [max_eq_left above]
      rcases largest.1 with zero | mem
      · exact Or.inl zero
      · exact Or.inr (mem_drops_append.mpr (Or.inl mem))
  · rintro e (rfl | mem)
    · exact (largest.2 (Set.mem_insert _ _)).trans (le_max_left _ _)
    · rcases mem_drops_append.mp mem with old | ⟨v, here, rfl⟩
      · exact (largest.2 (Or.inr old)).trans (le_max_left _ _)
      · exact (sub_le_sub_right (peak.2 here) x).trans (le_max_right _ _)

theorem isLargestDrop_singleton (x : α) : IsLargestDrop [x] 0 := by
  have one := isLargestDrop_nil.append (isPeak_singleton x)
  rwa [sub_self, max_self] at one

end TradeResearch
