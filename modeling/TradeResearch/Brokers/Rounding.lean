import Mathlib.Tactic.NormNum
import TradeResearch.Brokers.Base

/-!
# Rounding to the nearest whole number

`ROUND_HALF_EVEN` against a whole number: what is rounded is on one side of it exactly where the
middle next to it is passed, or is met and goes to it.

* `le_roundHalfEven_iff`, `roundHalfEven_le_iff`, `roundHalfEven_eq_iff`.
* `roundHalfEven_mono`, and `abs_sub_roundHalfEven`: no further than half away.
-/

namespace TradeResearch.Brokers

theorem le_roundHalfEven_iff (q : ℚ) (k : ℤ) :
    k ≤ roundHalfEven q ↔ k - 1 / 2 < q ∨ q = k - 1 / 2 ∧ 2 ∣ k := by
  have below := Int.floor_le q
  have above := Int.lt_floor_add_one q
  have le_iff : ∀ n : ℤ, k ≤ n ↔ (k : ℚ) ≤ n := fun n => Int.cast_le.symm
  have lt_succ : ∀ n : ℤ, (k : ℚ) < n + 1 → k ≤ n := fun n lt =>
    Int.lt_add_one_iff.mp (by exact_mod_cast lt)
  unfold roundHalfEven
  dsimp only
  split_ifs with small large even
  · constructor
    · intro le
      have cast := (le_iff _).mp le
      exact .inl (by linarith)
    · rintro (lt | ⟨half, -⟩) <;> exact lt_succ _ (by linarith)
  · constructor
    · intro le
      have cast := (le_iff _).mp le
      push_cast at cast
      exact .inl (by linarith)
    · rintro (lt | ⟨half, -⟩) <;>
      · apply lt_succ
        push_cast
        linarith
  · constructor
    · intro le
      have cast := (le_iff _).mp le
      exact .inl (by linarith)
    · rintro (lt | ⟨half, two⟩)
      · exact lt_succ _ (by linarith)
      · have next : k = ⌊q⌋ + 1 := by
          have cast : (k : ℚ) = ⌊q⌋ + 1 := by linarith
          exact_mod_cast cast
        omega
  · constructor
    · intro le
      rcases Int.lt_or_eq_of_le le with lt | rfl
      · have cast := (le_iff _).mp (Int.lt_add_one_iff.mp lt)
        exact .inl (by linarith)
      · push_cast
        exact .inr ⟨by linarith, by omega⟩
    · rintro (lt | ⟨half, -⟩) <;>
      · apply lt_succ
        push_cast
        linarith

theorem roundHalfEven_le_iff (q : ℚ) (k : ℤ) :
    roundHalfEven q ≤ k ↔ q < k + 1 / 2 ∨ q = k + 1 / 2 ∧ 2 ∣ k := by
  rw [← Int.lt_add_one_iff, ← not_le, le_roundHalfEven_iff, not_or, not_lt, not_and]
  push_cast
  have middle : (k : ℚ) + 1 - 1 / 2 = k + 1 / 2 := by ring
  rw [middle]
  constructor
  · rintro ⟨le, odd⟩
    rcases le.lt_or_eq with lt | same
    · exact .inl lt
    · have := odd same
      exact .inr ⟨same, by omega⟩
  · rintro (lt | ⟨same, even⟩)
    · exact ⟨lt.le, fun same => absurd same lt.ne⟩
    · exact ⟨same.le, fun _ => by omega⟩

theorem roundHalfEven_eq_iff (q : ℚ) (k : ℤ) :
    roundHalfEven q = k ↔ |q - k| < 1 / 2 ∨ |q - k| = 1 / 2 ∧ 2 ∣ k := by
  rw [le_antisymm_iff, le_roundHalfEven_iff, roundHalfEven_le_iff, abs_lt,
    abs_eq (by norm_num : (0 : ℚ) ≤ 1 / 2)]
  constructor
  · rintro ⟨high | ⟨half, even⟩, low | ⟨half', even'⟩⟩
    · exact .inl ⟨by linarith, by linarith⟩
    · exact .inr ⟨.inr (by linarith), even'⟩
    · exact .inr ⟨.inl (by linarith), even⟩
    · exact .inr ⟨.inl (by linarith), even⟩
  · rintro (⟨low, high⟩ | ⟨half | half, even⟩)
    · exact ⟨.inl (by linarith), .inl (by linarith)⟩
    · exact ⟨.inr ⟨by linarith, even⟩, .inl (by linarith)⟩
    · exact ⟨.inl (by linarith), .inr ⟨by linarith, even⟩⟩

theorem roundHalfEven_mono {p q : ℚ} (le : p ≤ q) : roundHalfEven p ≤ roundHalfEven q := by
  rw [le_roundHalfEven_iff]
  rcases (le_roundHalfEven_iff p _).mp le_rfl with lt | ⟨half, even⟩
  · exact .inl (lt.trans_le le)
  · rcases le.lt_or_eq with lt | rfl
    · exact .inl (half ▸ lt)
    · exact .inr ⟨half, even⟩

theorem abs_sub_roundHalfEven (q : ℚ) : |q - roundHalfEven q| ≤ 1 / 2 := by
  rcases (roundHalfEven_eq_iff q _).mp rfl with near | ⟨half, -⟩
  · exact near.le
  · exact half.le

theorem roundHalfEven_intCast (k : ℤ) : roundHalfEven k = k := by
  refine (roundHalfEven_eq_iff k k).mpr (.inl ?_)
  norm_num

end TradeResearch.Brokers
