import Mathlib.Algebra.Order.Ring.Nat
import Mathlib.Data.Char
import Mathlib.Data.List.Infix
import Mathlib.Data.Nat.Notation
import Mathlib.Tactic.SplitIfs

/-!
# Texts that can be read back

Digits of a fixed width, dates and instants of the calendar as ISO texts, and the strings of JSON.
What reads them is in `Lib/Iso.lean` and `Lib/Json.lean`.

* `Date.valid_after`: the day-by-day calendar agrees with the count of its days.
-/

namespace TradeResearch.Encoding

def pad (base : ℕ) : ℕ → ℕ → List Char
  | 0, _ => []
  | width + 1, n => pad base width (n / base) ++ [Nat.digitChar (n % base)]

@[simp] theorem length_pad (base width n : ℕ) : (pad base width n).length = width := by
  induction width generalizing n with
  | zero => rfl
  | succ width ih =>
    unfold pad
    rw [List.length_append, ih, List.length_singleton]

structure Date where
  year : ℕ
  month : ℕ
  day : ℕ
  deriving DecidableEq, Repr

def isLeap (year : ℕ) : Prop := 4 ∣ year ∧ (¬100 ∣ year ∨ 400 ∣ year)

instance (year : ℕ) : Decidable (isLeap year) := inferInstanceAs (Decidable (_ ∧ _))

def daysInMonth (year month : ℕ) : ℕ :=
  if month = 2 then if isLeap year then 29 else 28
  else if month ∈ [4, 6, 9, 11] then 30 else 31

namespace Date

def next (d : Date) : Date :=
  if d.day < daysInMonth d.year d.month then { d with day := d.day + 1 }
  else if d.month < 12 then ⟨d.year, d.month + 1, 1⟩
  else ⟨d.year + 1, 1, 1⟩

def first : Date := ⟨1, 1, 1⟩

def after : ℕ → Date
  | 0 => first
  | n + 1 => (after n).next

structure Valid (d : Date) : Prop where
  year : 1 ≤ d.year
  month : 1 ≤ d.month ∧ d.month ≤ 12
  day : 1 ≤ d.day ∧ d.day ≤ daysInMonth d.year d.month

def daysBeforeYear (year : ℕ) : ℕ :=
  (year - 1) * 365 + (year - 1) / 4 + (year - 1) / 400 - (year - 1) / 100

def daysBeforeMonth (year month : ℕ) : ℕ :=
  ((List.range (month - 1)).map fun m => daysInMonth year (m + 1)).sum

def ordinal (d : Date) : ℕ := daysBeforeYear d.year + daysBeforeMonth d.year d.month + (d.day - 1)

theorem daysInMonth_bounds (year month : ℕ) :
    28 ≤ daysInMonth year month ∧ daysInMonth year month ≤ 31 := by
  unfold daysInMonth
  split_ifs <;> omega

theorem Valid.next {d : Date} (valid : d.Valid) : d.next.Valid := by
  obtain ⟨year, month, day⟩ := valid
  have nextMonth := daysInMonth_bounds d.year (d.month + 1)
  have nextYear := daysInMonth_bounds (d.year + 1) 1
  unfold Date.next
  split_ifs with inMonth inYear
  · exact ⟨year, month, by dsimp only; omega⟩
  · exact ⟨year, by dsimp only; omega, by dsimp only; omega⟩
  · exact ⟨by dsimp only; omega, by dsimp only; omega, by dsimp only; omega⟩

theorem daysBeforeMonth_succ {year month : ℕ} (some_ : 1 ≤ month) :
    daysBeforeMonth year (month + 1) = daysBeforeMonth year month + daysInMonth year month := by
  obtain ⟨m, rfl⟩ := Nat.exists_eq_add_of_le' some_
  unfold daysBeforeMonth
  rw [Nat.add_sub_cancel, Nat.add_sub_cancel, List.range_succ, List.map_append, List.sum_append]
  rfl

theorem daysBeforeYear_succ {year : ℕ} (some_ : 1 ≤ year) :
    daysBeforeYear (year + 1) =
      daysBeforeYear year + daysBeforeMonth year 12 + daysInMonth year 12 := by
  have months : daysBeforeMonth year 12 + daysInMonth year 12 =
      if isLeap year then 366 else 365 := by
    unfold daysBeforeMonth daysInMonth
    by_cases leap : isLeap year
    · simp [List.range_succ, leap]
    · simp [List.range_succ, leap]
  rw [Nat.add_assoc, months]
  by_cases leap : isLeap year
  · rw [if_pos leap]
    unfold isLeap at leap
    unfold daysBeforeYear
    omega
  · rw [if_neg leap]
    unfold isLeap at leap
    unfold daysBeforeYear
    omega

theorem ordinal_next {d : Date} (valid : d.Valid) : d.next.ordinal = d.ordinal + 1 := by
  obtain ⟨year, month, day⟩ := valid
  unfold Date.next
  split_ifs with inMonth inYear
  · unfold ordinal
    dsimp only
    omega
  · unfold ordinal
    dsimp only
    rw [daysBeforeMonth_succ month.1]
    omega
  · have last : d.month = 12 := by omega
    unfold ordinal
    dsimp only
    rw [last] at inMonth day ⊢
    rw [daysBeforeYear_succ year, show daysBeforeMonth (d.year + 1) 1 = 0 from rfl]
    omega

theorem valid_after (n : ℕ) : (after n).Valid ∧ (after n).ordinal = n := by
  induction n with
  | zero => exact ⟨⟨by decide, by decide, by decide⟩, by decide⟩
  | succ n ih => exact ⟨ih.1.next, by rw [after, ordinal_next ih.1, ih.2]⟩

theorem year_after {n : ℕ} (inside : n < 3652059) : (after n).year < 10000 := by
  obtain ⟨valid, ordinal_⟩ := valid_after n
  by_contra late
  have years : daysBeforeYear (after n).year ≤ (after n).ordinal := by
    unfold ordinal
    omega
  unfold daysBeforeYear at years
  omega

def iso (d : Date) : List Char :=
  pad 10 4 d.year ++ '-' :: pad 10 2 d.month ++ '-' :: pad 10 2 d.day

end Date

def dayLength : ℕ := 86400 * 1000000

def calendarEnd : ℕ := 3652059 * dayLength

def isoUtc (instant : ℕ) : List Char :=
  let time := instant % dayLength
  let seconds := time / 1000000
  let micros := time % 1000000
  (Date.after (instant / dayLength)).iso ++ 'T' :: pad 10 2 (seconds / 3600) ++
    ':' :: pad 10 2 (seconds / 60 % 60) ++ ':' :: pad 10 2 (seconds % 60) ++
    (if micros = 0 then [] else '.' :: pad 10 6 micros) ++ ['+', '0', '0', ':', '0', '0']

abbrev CodePoint := Fin 0x110000

instance : LawfulBEq CodePoint := inferInstance

instance codePoints_neZero : NeZero 0x110000 := ⟨by decide⟩

def CodePoint.ofChar (c : Char) : CodePoint := Fin.ofNat 0x110000 c.toNat

def isSurrogate (c : CodePoint) : Bool := 0xD800 ≤ c.val ∧ c.val < 0xE000

def units (c : CodePoint) : List ℕ :=
  if c.val < 65536 then [c.val]
  else [0xD800 + (c.val - 65536) / 1024, 0xDC00 + (c.val - 65536) % 1024]

def shortEscape (unit : ℕ) : Option Char :=
  if unit = 34 then some '"'
  else if unit = 92 then some '\\'
  else if unit = 10 then some 'n'
  else if unit = 13 then some 'r'
  else if unit = 9 then some 't'
  else if unit = 12 then some 'f'
  else if unit = 8 then some 'b'
  else none

def escape (unit : ℕ) : List Char :=
  match shortEscape unit with
  | some letter => ['\\', letter]
  | none =>
    if 32 ≤ unit ∧ unit ≤ 126 then [Char.ofNat unit] else '\\' :: 'u' :: pad 16 4 unit

def jsonString (s : List CodePoint) : List Char :=
  '"' :: (s.flatMap units).flatMap escape ++ ['"']

theorem units_lt {c : CodePoint} : ∀ unit ∈ units c, unit < 65536 := by
  intro unit mem
  unfold units at mem
  split_ifs at mem with short
  · rw [List.mem_singleton.mp mem]
    exact short
  · simp only [List.mem_cons, List.not_mem_nil, or_false] at mem
    omega

theorem val_ofChar (c : Char) : (CodePoint.ofChar c).val = c.toNat := by
  have valid := c.valid
  have : c.val.toNat = c.toNat := rfl
  exact Nat.mod_eq_of_lt (by omega)

theorem ofChar_plain (c : Char) : isSurrogate (CodePoint.ofChar c) = false := by
  have valid := c.valid
  have : c.val.toNat = c.toNat := rfl
  simp only [isSurrogate, val_ofChar, decide_eq_false_iff_not]
  omega

theorem ofChar_injective : Function.Injective CodePoint.ofChar := fun c d same => by
  have vals := congrArg Fin.val same
  rw [val_ofChar, val_ofChar] at vals
  exact Char.toNat_inj.mp vals

theorem toNat_printable : ∀ unit < 127, (Char.ofNat unit).toNat = unit := by
  decide

theorem letter_ne {unit : ℕ} {letter : Char} (short : shortEscape unit = some letter) :
    letter ≠ 'u' := by
  unfold shortEscape at short
  split_ifs at short <;> cases short <;> decide

end TradeResearch.Encoding
