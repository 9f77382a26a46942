import Mathlib.Algebra.Order.Field.Rat
import Mathlib.Data.Nat.Digits.Defs
import Mathlib.Data.Rat.Defs
import Mathlib.Tactic.FieldSimp
import Mathlib.Tactic.Ring

/-!
# Decimals as they are written

A finite `Decimal` of Python: a sign, a coefficient and an exponent. Many decimals have one value,
and each has its own text: `0.3` and `0.30` are equal numbers that print differently.

* `Decimal.value` is the number, and `Decimal.text` is `str`.
* `Decimal.plain` is `format(d, "f")`, and `Decimal.ofText` reads a number back.
* `ofText_plain`: what is read back has the sign and the value of what was written.
-/

namespace TradeResearch

structure Decimal where
  negative : Bool
  coefficient : ℕ
  exponent : ℤ
  deriving DecidableEq

namespace Decimal

def value (d : Decimal) : ℚ :=
  (if d.negative then -1 else 1) * (d.coefficient : ℚ) * (10 : ℚ) ^ d.exponent

def digits (d : Decimal) : List Char := Nat.toDigits 10 d.coefficient

def signed (i : ℤ) : List Char :=
  (if i < 0 then '-' else '+') :: Nat.toDigits 10 i.natAbs

def pointed (digits : List Char) (place : ℤ) : List Char :=
  if place ≤ 0 then '0' :: '.' :: (List.replicate (-place).toNat '0' ++ digits)
  else if (digits.length : ℤ) ≤ place then
    digits ++ List.replicate (place - digits.length).toNat '0'
  else digits.take place.toNat ++ '.' :: digits.drop place.toNat

def text (d : Decimal) : String :=
  let left := d.exponent + d.digits.length
  let place := if d.exponent ≤ 0 ∧ -6 < left then left else 1
  String.ofList
    ((if d.negative then ['-'] else []) ++ pointed d.digits place ++
      (if left = place then [] else 'E' :: signed (left - place)))

example : (text ⟨false, 3, -1⟩, text ⟨false, 30, -2⟩, text ⟨false, 5, 3⟩, text ⟨true, 12, -9⟩) =
    ("0.3", "0.30", "5E+3", "-1.2E-8") := by
  decide +kernel

end Decimal

end TradeResearch

namespace TradeResearch.Decimal

def signText (negative : Bool) : List Char := if negative then ['-'] else []

def plain (d : Decimal) : List Char :=
  signText d.negative ++
    if d.coefficient = 0 ∧ 0 < d.exponent then ['0']
    else pointed d.digits (d.exponent + d.digits.length)

def sign : List Char → Bool × List Char
  | '-' :: rest => (true, rest)
  | '+' :: rest => (false, rest)
  | rest => (false, rest)

def fraction : List Char → List Char × List Char
  | '.' :: rest => (rest.takeWhile Char.isDigit, rest.dropWhile Char.isDigit)
  | rest => ([], rest)

def power : List Char → Option ℤ
  | [] => some 0
  | e :: rest =>
    let signed := sign rest
    if (e = 'e' ∨ e = 'E') ∧ signed.2 ≠ [] ∧ signed.2.all Char.isDigit = true then
      some ((if signed.1 then -1 else 1) * Nat.ofDigitChars 10 signed.2 0)
    else none

def ofText (text : List Char) : Option Decimal :=
  let signed := sign text
  let whole := signed.2.takeWhile Char.isDigit
  let part := fraction (signed.2.dropWhile Char.isDigit)
  if whole ++ part.1 = [] then none
  else (power part.2).map fun e =>
    { negative := signed.1
      coefficient := Nat.ofDigitChars 10 (whole ++ part.1) 0
      exponent := e - part.1.length }

example : (ofText "-0.30".toList, ofText "5E+3".toList, ofText "1.2.3".toList) =
    (some ⟨true, 30, -2⟩, some ⟨false, 5, 3⟩, none) := by
  decide +kernel

def Digits (text : List Char) : Prop := ∀ c ∈ text, c.isDigit = true

theorem digits_digits (d : Decimal) : Digits d.digits := fun _ mem =>
  Nat.isDigit_of_mem_toDigits (by decide) (by decide) mem

theorem digits_zeros (n : ℕ) : Digits (List.replicate n '0') := fun c mem => by
  rw [List.eq_of_mem_replicate mem]
  rfl

theorem Digits.append {s t : List Char} (left : Digits s) (right : Digits t) : Digits (s ++ t) :=
  fun c mem => (List.mem_append.mp mem).elim (left c) (right c)

theorem sign_signText (negative : Bool) {text : List Char} (digits : Digits text)
    (some_ : text ≠ []) (rest : List Char) :
    sign (signText negative ++ (text ++ rest)) = (negative, text ++ rest) := by
  obtain ⟨c, text, rfl⟩ := List.exists_cons_of_ne_nil some_
  cases negative with
  | true => rfl
  | false =>
    have digit := digits c List.mem_cons_self
    unfold sign
    split
    · next is =>
      cases (List.cons.inj is).1
      cases digit
    · next is =>
      cases (List.cons.inj is).1
      cases digit
    · rfl

theorem takeWhile_digits {text rest : List Char} (digits : Digits text)
    (stops : ∀ c ∈ rest.head?, c.isDigit = false) :
    (text ++ rest).takeWhile Char.isDigit = text ∧
      (text ++ rest).dropWhile Char.isDigit = rest := by
  rw [List.takeWhile_append_of_pos digits, List.dropWhile_append_of_pos digits]
  cases rest with
  | nil => exact ⟨List.append_nil text, rfl⟩
  | cons c rest =>
    have stop := stops c rfl
    rw [List.takeWhile_cons_of_neg (by simp [stop]), List.dropWhile_cons_of_neg (by simp [stop])]
    exact ⟨List.append_nil text, rfl⟩

theorem ofText_whole (negative : Bool) {whole : List Char} (digits : Digits whole)
    (some_ : whole ≠ []) :
    ofText (signText negative ++ whole) = some ⟨negative, Nat.ofDigitChars 10 whole 0, 0⟩ := by
  have signed := sign_signText negative digits some_ []
  rw [List.append_nil] at signed
  have parts := @takeWhile_digits whole [] digits (by simp)
  rw [List.append_nil] at parts
  unfold ofText
  rw [signed]
  simp only [parts.1, parts.2, fraction, power, List.append_nil, if_neg some_]
  rfl

theorem ofText_pointed (negative : Bool) {whole part : List Char} (digits : Digits whole)
    (digits' : Digits part) (some_ : whole ≠ []) :
    ofText (signText negative ++ (whole ++ '.' :: part)) =
      some ⟨negative, Nat.ofDigitChars 10 (whole ++ part) 0, -part.length⟩ := by
  have parts := @takeWhile_digits whole ('.' :: part) digits (by simp)
  have parts' := @takeWhile_digits part [] digits' (by simp)
  rw [List.append_nil] at parts'
  unfold ofText
  rw [sign_signText negative digits some_]
  simp only [parts.1, parts.2, fraction, parts'.1, parts'.2, power, List.append_eq_nil_iff, some_,
    false_and, if_false]
  simp

theorem ofDigitChars_digits (d : Decimal) : Nat.ofDigitChars 10 d.digits 0 = d.coefficient :=
  Nat.ofDigitChars_ten_toDigits

theorem ofDigitChars_zeros_digits (d : Decimal) (n : ℕ) :
    Nat.ofDigitChars 10 (List.replicate n '0' ++ d.digits) 0 = d.coefficient := by
  rw [Nat.ofDigitChars_append, Nat.ofDigitChars_replicate_zero, mul_zero, ofDigitChars_digits]

theorem digits_ne_nil (d : Decimal) : d.digits ≠ [] := Nat.toDigits_ne_nil

def readBack (d : Decimal) : Decimal :=
  if 0 < d.exponent then ⟨d.negative, d.coefficient * 10 ^ d.exponent.toNat, 0⟩ else d

theorem ofText_plain (d : Decimal) : ofText d.plain = some d.readBack := by
  unfold plain readBack
  by_cases large : 0 < d.exponent
  · rw [if_pos large]
    by_cases zero : d.coefficient = 0
    · rw [if_pos ⟨zero, large⟩,
        @ofText_whole d.negative ['0'] (digits_zeros 1) (by decide), zero, zero_mul]
      rfl
    · have whole : pointed d.digits (d.exponent + d.digits.length) =
          d.digits ++ List.replicate d.exponent.toNat '0' := by
        unfold pointed
        rw [if_neg (by omega), if_pos (by omega)]
        congr 2
        omega
      rw [if_neg fun both => zero both.1, whole,
        ofText_whole d.negative ((digits_digits d).append (digits_zeros _))
          (by simp [digits_ne_nil]),
        Nat.ofDigitChars_append, Nat.ofDigitChars_replicate_zero, ofDigitChars_digits, mul_comm]
  · rw [if_neg large, if_neg fun both => large both.2]
    unfold pointed
    by_cases low : d.exponent + d.digits.length ≤ 0
    · rw [if_pos low]
      refine (@ofText_pointed d.negative ['0'] _ (digits_zeros 1)
        ((digits_zeros _).append (digits_digits d)) (by decide)).trans ?_
      rw [← List.append_assoc, ← List.replicate_one, List.replicate_append_replicate,
        ofDigitChars_zeros_digits]
      simp only [List.length_append, List.length_replicate]
      congr 2
      omega
    · rw [if_neg low]
      by_cases whole : (d.digits.length : ℤ) ≤ d.exponent + d.digits.length
      · have exact : d.exponent = 0 := by omega
        rw [if_pos whole, exact]
        simp only [zero_add, sub_self, Int.toNat_zero, List.replicate_zero, List.append_nil]
        rw [ofText_whole d.negative (digits_digits d) (digits_ne_nil d), ofDigitChars_digits,
          ← exact]
      · rw [if_neg whole]
        have some_ : d.digits.take (d.exponent + d.digits.length).toNat ≠ [] := by
          rw [Ne, List.take_eq_nil_iff, not_or]
          exact ⟨by omega, digits_ne_nil d⟩
        refine (ofText_pointed d.negative
          (fun c mem => digits_digits d c (List.mem_of_mem_take mem))
          (fun c mem => digits_digits d c (List.mem_of_mem_drop mem)) some_).trans ?_
        rw [List.take_append_drop, List.length_drop, ofDigitChars_digits]
        have places : -((d.digits.length - (d.exponent + d.digits.length).toNat : ℕ) : ℤ) =
            d.exponent := by omega
        rw [places]

theorem value_readBack (d : Decimal) : d.readBack.value = d.value := by
  unfold readBack
  by_cases large : 0 < d.exponent
  · have whole : (10 : ℚ) ^ d.exponent = 10 ^ d.exponent.toNat := by
      rw [← zpow_natCast, Int.toNat_of_nonneg large.le]
    rw [if_pos large]
    unfold value
    rw [whole, zpow_zero, mul_one]
    push_cast
    exact (mul_assoc _ _ _).symm
  · rw [if_neg large]

theorem value_eq_of_plain_eq {d e : Decimal} (same : d.plain = e.plain) : d.value = e.value := by
  have read := (ofText_plain d).symm.trans ((congrArg ofText same).trans (ofText_plain e))
  rw [← value_readBack d, ← value_readBack e, Option.some.inj read]

theorem plain_ne_nil (d : Decimal) : d.plain ≠ [] := by
  intro none_
  have read := ofText_plain d
  rw [none_] at read
  cases read

theorem mem_plain {d : Decimal} {c : Char} (mem : c ∈ d.plain) :
    c.isDigit = true ∨ c = '.' ∨ c = '-' := by
  have digit : ∀ {cs : List Char}, Digits cs → c ∈ cs → c.isDigit = true := fun all mem => all c mem
  have zero : Digits ['0'] := digits_zeros 1
  rcases List.mem_append.mp mem with mem | mem
  · unfold signText at mem
    split_ifs at mem
    · exact .inr (.inr (List.mem_singleton.mp mem))
    · cases mem
  · split_ifs at mem
    · exact .inl (digit zero mem)
    · unfold pointed at mem
      split_ifs at mem
      · rcases List.mem_cons.mp mem with rfl | mem
        · exact .inl rfl
        · rcases List.mem_cons.mp mem with rfl | mem
          · exact .inr (.inl rfl)
          · exact .inl (digit ((digits_zeros _).append (digits_digits d)) mem)
      · exact .inl (digit ((digits_digits d).append (digits_zeros _)) mem)
      · rcases List.mem_append.mp mem with mem | mem
        · exact .inl (digits_digits d c (List.mem_of_mem_take mem))
        · rcases List.mem_cons.mp mem with rfl | mem
          · exact .inr (.inl rfl)
          · exact .inl (digits_digits d c (List.mem_of_mem_drop mem))

theorem value_shift (d : Decimal) (k : ℕ) :
    value ⟨d.negative, d.coefficient * 10 ^ k, d.exponent - k⟩ = d.value := by
  unfold value
  rw [zpow_sub₀ (by norm_num), zpow_natCast]
  push_cast
  field_simp

theorem coefficient_eq_of_value {d e : Decimal} (sign : d.negative = e.negative)
    (exponent : d.exponent = e.exponent) (same : d.value = e.value) :
    d.coefficient = e.coefficient := by
  unfold value at same
  rw [sign, exponent] at same
  have scale : (10 : ℚ) ^ e.exponent ≠ 0 := zpow_ne_zero _ (by norm_num)
  have signed : (if e.negative = true then (-1 : ℚ) else 1) ≠ 0 := by
    split_ifs <;> norm_num
  exact_mod_cast mul_left_cancel₀ signed (mul_right_cancel₀ scale same)

def cut (coefficient places : ℕ) : ℕ :=
  let kept := coefficient / 10 ^ places
  let lost := coefficient % 10 ^ places
  if 10 ^ places < 2 * lost ∨ (10 ^ places = 2 * lost ∧ kept % 2 = 1) then kept + 1 else kept

def fix (precision : ℕ) (d : Decimal) : Decimal :=
  let places := d.digits.length - precision
  { negative := d.negative
    coefficient := cut d.coefficient places
    exponent := d.exponent + places }

def stripZeros : ℕ → ℕ → ℤ → ℕ × ℤ
  | 0, c, e => (c, e)
  | n + 1, c, e => if c % 10 = 0 then stripZeros n (c / 10) (e + 1) else (c, e)

def normalize (precision : ℕ) (d : Decimal) : Decimal :=
  let fixed := d.fix precision
  if fixed.coefficient = 0 then ⟨d.negative, 0, 0⟩
  else
    let stripped := stripZeros fixed.digits.length fixed.coefficient fixed.exponent
    ⟨d.negative, stripped.1, stripped.2⟩

example : (normalize 28 ⟨false, 100, -2⟩, normalize 2 ⟨true, 9950, 0⟩) =
    (⟨false, 1, 0⟩, ⟨true, 1, 4⟩) := by
  decide +kernel

theorem stripZeros_eq (n c : ℕ) (e : ℤ) :
    ∃ k ≤ n, c = (stripZeros n c e).1 * 10 ^ k ∧ (stripZeros n c e).2 = e + k ∧
      ((stripZeros n c e).1 % 10 ≠ 0 ∨ k = n) := by
  induction n generalizing c e with
  | zero => exact ⟨0, le_rfl, by simp [stripZeros], by simp [stripZeros], .inr rfl⟩
  | succ n ih =>
    unfold stripZeros
    by_cases zero : c % 10 = 0
    · rw [if_pos zero]
      obtain ⟨k, le, is, up, last⟩ := ih (c / 10) (e + 1)
      refine ⟨k + 1, by omega, ?_, ?_, last.imp_right (congrArg (· + 1))⟩
      · rw [pow_succ, ← mul_assoc, ← is]
        omega
      · rw [up]
        push_cast
        ring
    · rw [if_neg zero]
      exact ⟨0, by omega, by simp, by simp, .inl zero⟩

theorem stripZeros_mul {c : ℕ} (last : c % 10 ≠ 0) {n k : ℕ} (room : k ≤ n) (e : ℤ) :
    stripZeros n (c * 10 ^ k) e = (c, e + k) := by
  induction k generalizing n e with
  | zero =>
    cases n with
    | zero => simp [stripZeros]
    | succ n => simp [stripZeros, last]
  | succ k ih =>
    obtain ⟨n, rfl⟩ := Nat.exists_eq_add_of_le' (Nat.one_le_of_lt (Nat.lt_of_succ_le room))
    have tenth : c * 10 ^ (k + 1) / 10 = c * 10 ^ k := by
      rw [pow_succ, ← mul_assoc]
      omega
    unfold stripZeros
    rw [if_pos (by rw [pow_succ, ← mul_assoc]; omega), tenth, ih (by omega)]
    congr 1
    push_cast
    ring

theorem length_toDigits_mul {c : ℕ} (positive : 0 < c) {k r : ℕ} (below : r < 10 ^ k) :
    (Nat.toDigits 10 (c * 10 ^ k + r)).length = (Nat.toDigits 10 c).length + k := by
  have some_ : 0 < (Nat.toDigits 10 c).length := Nat.length_toDigits_pos
  refine le_antisymm ((Nat.length_toDigits_le_iff (by decide) (by omega)).mpr ?_) ?_
  · have within : c < 10 ^ (Nat.toDigits 10 c).length :=
      (Nat.length_toDigits_le_iff (by decide) some_).mp le_rfl
    calc c * 10 ^ k + r < (c + 1) * 10 ^ k := by rw [add_mul, one_mul]; omega
      _ ≤ 10 ^ (Nat.toDigits 10 c).length * 10 ^ k := Nat.mul_le_mul_right _ within
      _ = 10 ^ ((Nat.toDigits 10 c).length + k) := (pow_add _ _ _).symm
  · by_contra shorter
    obtain ⟨m, is⟩ := Nat.exists_eq_add_of_le' some_
    have few : c * 10 ^ k + r < 10 ^ (m + k) := by
      by_cases none_ : m + k = 0
      · have zero : (Nat.toDigits 10 (c * 10 ^ k + r)).length = 0 := by omega
        exact absurd (List.length_eq_zero_iff.mp zero) Nat.toDigits_ne_nil
      · exact (Nat.length_toDigits_le_iff (by decide) (Nat.pos_of_ne_zero none_)).mp (by omega)
    rw [pow_add] at few
    have less : c < 10 ^ m := Nat.lt_of_mul_lt_mul_right ((Nat.le_add_right _ r).trans_lt few)
    by_cases none_ : m = 0
    · rw [none_] at less
      omega
    · have short := (Nat.length_toDigits_le_iff (by decide) (Nat.pos_of_ne_zero none_)).mpr less
      omega

structure Normal (precision : ℕ) (d : Decimal) : Prop where
  last : d.coefficient % 10 ≠ 0
  fits : d.coefficient < 10 ^ precision

theorem Normal.positive (normal : Normal precision d) : 0 < d.coefficient := by
  have last := normal.last
  omega

theorem Normal.length_le (normal : Normal precision d) (some_ : 0 < precision) :
    d.digits.length ≤ precision :=
  (Nat.length_toDigits_le_iff (by decide) some_).mpr normal.fits

theorem value_eq_zero_iff (d : Decimal) : d.value = 0 ↔ d.coefficient = 0 := by
  unfold value
  have signed : (if d.negative = true then (-1 : ℚ) else 1) ≠ 0 := by
    split_ifs <;> norm_num
  have scale : (10 : ℚ) ^ d.exponent ≠ 0 := zpow_ne_zero _ (by norm_num)
  rw [mul_eq_zero, or_iff_left scale, mul_eq_zero, or_iff_right signed, Nat.cast_eq_zero]

theorem coefficient_normalize_of_zero (precision : ℕ) {d : Decimal} (zero : d.coefficient = 0) :
    (d.normalize precision).coefficient = 0 := by
  unfold normalize fix cut
  simp [zero]

theorem cut_zero (c : ℕ) : cut c 0 = c := by
  unfold cut
  simp [Nat.mod_one]

theorem coefficient_fix (precision : ℕ) (d : Decimal) (positive : 0 < d.coefficient)
    (some_ : 0 < precision) :
    0 < (d.fix precision).coefficient ∧ (d.fix precision).coefficient ≤ 10 ^ precision := by
  have length : 0 < d.digits.length := Nat.length_toDigits_pos
  have within : d.coefficient < 10 ^ d.digits.length :=
    (Nat.length_toDigits_le_iff (by decide) length).mp le_rfl
  have split : 10 ^ d.digits.length ≤ 10 ^ precision * 10 ^ (d.digits.length - precision) := by
    rw [← pow_add]
    exact Nat.pow_le_pow_right (by decide) (by omega)
  have least : 10 ^ (d.digits.length - precision) ≤ d.coefficient := by
    by_contra less
    by_cases none_ : d.digits.length - precision = 0
    · rw [none_] at less
      omega
    · have shorter := (Nat.length_toDigits_le_iff (by decide) (Nat.pos_of_ne_zero none_)).mpr
        (not_le.mp less)
      have same : (Nat.toDigits 10 d.coefficient).length = d.digits.length := rfl
      omega
  have kept : 0 < d.coefficient / 10 ^ (d.digits.length - precision) :=
    Nat.div_pos least (by positivity)
  have most : d.coefficient / 10 ^ (d.digits.length - precision) < 10 ^ precision :=
    Nat.div_lt_of_lt_mul (by rw [mul_comm]; exact within.trans_le split)
  unfold fix cut
  dsimp only
  split_ifs
  · exact ⟨by omega, by omega⟩
  · exact ⟨by omega, by omega⟩

theorem normal_normalize (d : Decimal) (positive : 0 < d.coefficient) (some_ : 0 < precision) :
    Normal precision (d.normalize precision) := by
  obtain ⟨left, fits⟩ := coefficient_fix precision d positive some_
  have within : (d.fix precision).coefficient < 10 ^ (d.fix precision).digits.length :=
    (Nat.length_toDigits_le_iff (by decide) Nat.length_toDigits_pos).mp le_rfl
  unfold normalize
  dsimp only
  rw [if_neg (Nat.ne_of_gt left)]
  obtain ⟨k, -, is, -, last⟩ := stripZeros_eq (d.fix precision).digits.length
    (d.fix precision).coefficient (d.fix precision).exponent
  generalize (stripZeros (d.fix precision).digits.length (d.fix precision).coefficient
    (d.fix precision).exponent).1 = stripped at is last
  have ended : stripped % 10 ≠ 0 := by
    refine last.resolve_right fun all => ?_
    rw [is, all] at left
    have none_ : stripped < 1 := by
      refine Nat.lt_of_mul_lt_mul_right (a := 10 ^ k) ?_
      rw [← is, one_mul, all]
      exact within
    rw [Nat.lt_one_iff.mp none_, zero_mul] at left
    exact absurd left (lt_irrefl 0)
  refine ⟨ended, lt_of_le_of_ne ((Nat.le_mul_of_pos_right _ (by positivity)).trans
    (is.symm.trans_le fits)) ?_⟩
  rintro rfl
  obtain ⟨n, rfl⟩ := Nat.exists_eq_add_of_le' some_
  rw [pow_succ] at ended
  omega

theorem Normal.normalize (normal : Normal precision d) (some_ : 0 < precision) :
    d.normalize precision = d := by
  have fixed : d.fix precision = d := by
    unfold fix
    dsimp only
    rw [Nat.sub_eq_zero_of_le (normal.length_le some_), cut_zero]
    simp
  have stripped := stripZeros_mul normal.last (Nat.zero_le d.digits.length) d.exponent
  rw [pow_zero, mul_one] at stripped
  unfold Decimal.normalize
  rw [fixed]
  rw [if_neg normal.positive.ne', stripped]
  simp

theorem Normal.exists_near (normal : Normal precision d) (some_ : 0 < precision) :
    ∃ e : Decimal, e.value ≠ d.value ∧ e.normalize precision = d := by
  have length := normal.length_le some_
  let near : Decimal :=
    ⟨d.negative, d.coefficient * 10 ^ (precision + 1) + 1, d.exponent - (precision + 1 : ℕ)⟩
  have digits : near.digits.length = d.digits.length + (precision + 1) :=
    length_toDigits_mul normal.positive (Nat.one_lt_pow (by omega) (by decide))
  have places : near.digits.length - precision = d.digits.length + 1 := by omega
  have shifted : near.coefficient =
      d.coefficient * 10 ^ (precision - d.digits.length) * 10 ^ (d.digits.length + 1) + 1 := by
    rw [mul_assoc, ← pow_add]
    have exact : precision - d.digits.length + (d.digits.length + 1) = precision + 1 := by omega
    rw [exact]
  have large : 2 < 10 ^ (d.digits.length + 1) := by
    calc 2 < 10 ^ 1 := by decide
      _ ≤ 10 ^ (d.digits.length + 1) := Nat.pow_le_pow_right (by decide) (by omega)
  have cut_ : cut near.coefficient (d.digits.length + 1) =
      d.coefficient * 10 ^ (precision - d.digits.length) := by
    unfold cut
    have lost : near.coefficient % 10 ^ (d.digits.length + 1) = 1 := by
      rw [shifted, Nat.mul_add_mod_of_lt (by omega)]
    have kept : near.coefficient / 10 ^ (d.digits.length + 1) =
        d.coefficient * 10 ^ (precision - d.digits.length) := by
      rw [shifted, mul_comm _ (10 ^ (d.digits.length + 1)), Nat.mul_add_div (by omega),
        Nat.div_eq_of_lt (by omega), add_zero]
    rw [lost, kept]
    rw [if_neg (by omega)]
  have fixed : near.fix precision = ⟨d.negative, d.coefficient * 10 ^ (precision - d.digits.length),
      d.exponent - (precision - d.digits.length : ℕ)⟩ := by
    unfold fix
    dsimp only
    rw [places, cut_]
    have exact : d.exponent - (precision + 1 : ℕ) + (d.digits.length + 1 : ℕ) =
        d.exponent - (precision - d.digits.length : ℕ) := by omega
    exact congrArg (fun e => (⟨d.negative, _, e⟩ : Decimal)) exact
  have room : precision - d.digits.length ≤ (near.fix precision).digits.length := by
    have length' : (near.fix precision).digits.length =
        d.digits.length + (precision - d.digits.length) := by
      rw [fixed]
      exact length_toDigits_mul (r := 0) normal.positive (by positivity)
    omega
  refine ⟨near, fun same => ?_, ?_⟩
  · rw [← value_shift d (precision + 1)] at same
    have coefficients : d.coefficient * 10 ^ (precision + 1) + 1 =
        d.coefficient * 10 ^ (precision + 1) :=
      coefficient_eq_of_value (d := near)
        (e := ⟨d.negative, d.coefficient * 10 ^ (precision + 1), d.exponent - (precision + 1 : ℕ)⟩)
        rfl rfl same
    exact absurd coefficients (Nat.succ_ne_self _)
  · unfold Decimal.normalize
    rw [if_neg (by rw [fixed]; exact (Nat.mul_pos normal.positive (by positivity)).ne')]
    have stripped := stripZeros_mul normal.last room (near.fix precision).exponent
    rw [fixed] at stripped ⊢
    rw [stripped]
    rw [sub_add_cancel]

end TradeResearch.Decimal
