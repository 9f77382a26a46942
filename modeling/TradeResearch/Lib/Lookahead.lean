import Mathlib.Data.List.Basic

/-!
# Lookahead

A function from series to series reads `h` ahead when its entry `i` is decided by the first
`i + h + 1` entries of what it is given: cutting the series behind that leaves the entry as it is.
With `h = 0` it is causal.

* `Within.same`: on series that agree up to there, the entry is the same.
* `within_trailing`: an entry computed from the series up to it is causal.
-/

namespace TradeResearch.Lookahead

variable {α β : Type}

def Within (h : ℕ) (f : List α → List β) : Prop :=
  ∀ xs k i, i + h < k → (f (xs.take k))[i]? = (f xs)[i]?

theorem Within.same {h : ℕ} {f : List α → List β} (within : Within h f) {xs ys : List α} {k i : ℕ}
    (agree : xs.take k = ys.take k) (inside : i + h < k) : (f xs)[i]? = (f ys)[i]? := by
  rw [← within xs k i inside, agree, within ys k i inside]

theorem within_trailing (g : List α → ℕ → β) :
    Within 0 fun xs => (List.range xs.length).map fun i => g (xs.take (i + 1)) i := by
  intro xs k i inside
  by_cases short : i < xs.length
  · have here : i < (xs.take k).length := by
      rw [List.length_take]
      exact Nat.lt_min.mpr ⟨inside, short⟩
    rw [List.getElem?_map, List.getElem?_map, List.getElem?_range here, List.getElem?_range short,
      Option.map_some, Option.map_some, List.take_take, Nat.min_eq_left (by omega)]
  · rw [List.getElem?_eq_none, List.getElem?_eq_none]
    · rw [List.length_map, List.length_range]
      omega
    · rw [List.length_map, List.length_range, List.length_take]
      omega

end TradeResearch.Lookahead
