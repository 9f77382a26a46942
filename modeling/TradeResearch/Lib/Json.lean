import Mathlib.Tactic.IntervalCases
import TradeResearch.Lib.Decimal
import TradeResearch.Lib.Encoding
import TradeResearch.Lib.Table

/-!
# JSON

The texts `json.loads` reads and `json.dumps` writes, and what it makes of them.

* `readText_jsonString`: a string is read back.
* `loads_dumps`: so is every plain value that is written at all.
-/

namespace TradeResearch.Json

open Encoding

/-! ## Strings -/

abbrev Str := List CodePoint

def hexDigit (c : Char) : Option ℕ :=
  if '0' ≤ c ∧ c ≤ '9' then some (c.toNat - 48)
  else if 'a' ≤ c ∧ c ≤ 'f' then some (c.toNat - 87)
  else if 'A' ≤ c ∧ c ≤ 'F' then some (c.toNat - 55)
  else none

def fourHex (a b c d : Char) : Option ℕ :=
  match hexDigit a, hexDigit b, hexDigit c, hexDigit d with
  | some a, some b, some c, some d => some (((a * 16 + b) * 16 + c) * 16 + d)
  | _, _, _, _ => none

def unescape (letter : Char) : Option ℕ :=
  if letter = '"' then some 34
  else if letter = '\\' then some 92
  else if letter = '/' then some 47
  else if letter = 'b' then some 8
  else if letter = 'f' then some 12
  else if letter = 'n' then some 10
  else if letter = 'r' then some 13
  else if letter = 't' then some 9
  else none

def prepend (unit : ℕ) (read : Option (Str × List Char)) : Option (Str × List Char) :=
  read.map fun r => (Fin.ofNat 0x110000 unit :: r.1, r.2)

def readUnits : List Char → Option (Str × List Char)
  | [] => none
  | c :: text =>
    if c = '"' then some ([], text)
    else if c = '\\' then
      match text with
      | 'u' :: a :: b :: c :: d :: rest =>
        (fourHex a b c d).bind fun unit => prepend unit (readUnits rest)
      | letter :: rest => (unescape letter).bind fun unit => prepend unit (readUnits rest)
      | [] => none
    else if c.toNat < 32 then none
    else prepend c.toNat (readUnits text)

def isHigh (c : CodePoint) : Bool := 0xD800 ≤ c.val ∧ c.val < 0xDC00

def isLow (c : CodePoint) : Bool := 0xDC00 ≤ c.val ∧ c.val < 0xE000

def paired (high low : CodePoint) : CodePoint :=
  Fin.ofNat 0x110000 (0x10000 + (high.val - 0xD800) * 1024 + (low.val - 0xDC00))

def joinPairs : Str → Str
  | high :: low :: rest =>
    if isHigh high = true ∧ isLow low = true then paired high low :: joinPairs rest
    else high :: joinPairs (low :: rest)
  | s => s

def readText (text : List Char) : Option (Str × List Char) :=
  (readUnits text).map fun r => (joinPairs r.1, r.2)

/-! ### Strings are read back -/

theorem hexDigit_digitChar : ∀ d < 16, hexDigit (Nat.digitChar d) = some d := by decide

theorem unescape_of_short {unit : ℕ} {letter : Char} (short : shortEscape unit = some letter) :
    unescape letter = some unit := by
  unfold shortEscape at short
  split_ifs at short with quote backslash newline return_ tab feed back
  · cases short
    exact congrArg some quote.symm
  · cases short
    exact congrArg some backslash.symm
  · cases short
    exact congrArg some newline.symm
  · cases short
    exact congrArg some return_.symm
  · cases short
    exact congrArg some tab.symm
  · cases short
    exact congrArg some feed.symm
  · cases short
    exact congrArg some back.symm

theorem fourHex_pad {unit : ℕ} (below : unit < 65536) :
    ∃ a b c d, pad 16 4 unit = [a, b, c, d] ∧ fourHex a b c d = some unit := by
  refine ⟨Nat.digitChar (unit / 16 / 16 / 16 % 16), Nat.digitChar (unit / 16 / 16 % 16),
    Nat.digitChar (unit / 16 % 16), Nat.digitChar (unit % 16), rfl, ?_⟩
  have digit : ∀ n, hexDigit (Nat.digitChar (n % 16)) = some (n % 16) := fun n =>
    hexDigit_digitChar _ (Nat.mod_lt n (by decide))
  unfold fourHex
  rw [digit, digit, digit, digit]
  exact congrArg some (by omega)

theorem readUnits_escape {unit : ℕ} (below : unit < 65536) (text : List Char) :
    readUnits (escape unit ++ text) = prepend unit (readUnits text) := by
  unfold escape
  cases short : shortEscape unit with
  | some letter =>
    dsimp only
    have other := letter_ne short
    rw [List.cons_append, List.singleton_append, readUnits.eq_def]
    dsimp only
    rw [if_neg (by decide), if_pos rfl]
    split
    · next is => exact absurd (List.cons.inj is).1 other
    · next is =>
      obtain ⟨rfl, rfl⟩ := List.cons.inj is
      rw [unescape_of_short short]
      rfl
    · next is => cases is
  | none =>
    dsimp only
    split_ifs with printable
    · have code := toNat_printable unit (by omega)
      have plain : ∀ c : Char, (shortEscape c.toNat).isSome = true → Char.ofNat unit ≠ c := by
        intro c special same
        rw [← same, code, short] at special
        cases special
      rw [List.singleton_append, readUnits.eq_def]
      dsimp only
      rw [if_neg (plain '"' rfl), if_neg (plain '\\' rfl), code, if_neg (by omega)]
    · obtain ⟨a, b, c, d, digits, value⟩ := fourHex_pad below
      rw [digits, List.cons_append, readUnits.eq_def]
      dsimp only [List.cons_append, List.nil_append]
      rw [if_neg (by decide), if_pos rfl]
      change ((fourHex a b c d).bind fun unit => prepend unit (readUnits text)) = _
      rw [value]
      rfl

theorem readUnits_escapes {units : List ℕ} (below : ∀ u ∈ units, u < 65536) (rest : List Char) :
    readUnits (units.flatMap escape ++ '"' :: rest) =
      some (units.map (Fin.ofNat 0x110000), rest) := by
  induction units with
  | nil =>
    rw [List.flatMap_nil, List.nil_append, readUnits.eq_def]
    exact if_pos rfl
  | cons u us ih =>
    obtain ⟨first, others⟩ := List.forall_mem_cons.mp below
    rw [List.flatMap_cons, List.append_assoc, readUnits_escape first, ih others]
    rfl

def Unpaired : Str → Prop
  | [] => True
  | [_] => True
  | high :: low :: rest => ¬(isHigh high = true ∧ isLow low = true) ∧ Unpaired (low :: rest)

theorem Unpaired.tail {c : CodePoint} {s : Str} (unpaired : Unpaired (c :: s)) : Unpaired s := by
  cases s with
  | nil => trivial
  | cons d s => exact unpaired.2

theorem units_of_small {c : CodePoint} (small : c.val < 65536) :
    (units c).map (Fin.ofNat 0x110000) = [c] := by
  have own : units c = [c.val] := if_pos small
  rw [own, List.map_singleton, show Fin.ofNat 0x110000 c.val = c from
    Fin.ext (Nat.mod_eq_of_lt c.isLt)]

theorem units_of_large {c : CodePoint} (large : ¬c.val < 65536) :
    ∃ high low, (units c).map (Fin.ofNat 0x110000) = [high, low] ∧ isHigh high = true ∧
      isLow low = true ∧ isLow high = false ∧ paired high low = c := by
  have below := c.isLt
  have own : units c = [0xD800 + (c.val - 65536) / 1024, 0xDC00 + (c.val - 65536) % 1024] :=
    if_neg large
  have high : (Fin.ofNat 0x110000 (0xD800 + (c.val - 65536) / 1024)).val =
      0xD800 + (c.val - 65536) / 1024 := Nat.mod_eq_of_lt (by omega)
  have low : (Fin.ofNat 0x110000 (0xDC00 + (c.val - 65536) % 1024)).val =
      0xDC00 + (c.val - 65536) % 1024 := Nat.mod_eq_of_lt (by omega)
  refine ⟨_, _, by rw [own, List.map_cons, List.map_singleton], ?_, ?_, ?_, Fin.ext ?_⟩
  · exact decide_eq_true (by rw [high]; omega)
  · exact decide_eq_true (by rw [low]; omega)
  · exact decide_eq_false (by rw [high]; omega)
  · unfold paired
    rw [high, low]
    exact (Nat.mod_eq_of_lt (by omega)).trans (by omega)

theorem head_units (d : CodePoint) (s : Str) :
    ∃ e rest, ((d :: s).flatMap units).map (Fin.ofNat 0x110000) = e :: rest ∧
      (isLow e = true → e = d) := by
  rw [List.flatMap_cons, List.map_append]
  by_cases small : d.val < 65536
  · rw [units_of_small small]
    exact ⟨d, _, rfl, fun _ => rfl⟩
  · obtain ⟨high, low, two, -, -, first, -⟩ := units_of_large small
    rw [two]
    exact ⟨high, _, rfl, fun is => absurd (first.symm.trans is) (by decide)⟩

theorem joinPairs_units {s : Str} (unpaired : Unpaired s) :
    joinPairs ((s.flatMap units).map (Fin.ofNat 0x110000)) = s := by
  induction s with
  | nil => rfl
  | cons c s ih =>
    have others := ih unpaired.tail
    by_cases small : c.val < 65536
    · rw [List.flatMap_cons, List.map_append, units_of_small small, List.singleton_append]
      cases s with
      | nil => rfl
      | cons d s =>
        obtain ⟨e, rest, is, second⟩ := head_units d s
        have apart : ¬(isHigh c = true ∧ isLow e = true) := fun both =>
          unpaired.1 ⟨both.1, second both.2 ▸ both.2⟩
        rw [is] at others ⊢
        rw [joinPairs, if_neg apart, others]
    · obtain ⟨high, low, two, first, second, -, whole⟩ := units_of_large small
      rw [List.flatMap_cons, List.map_append, two, List.cons_append, List.singleton_append,
        joinPairs, if_pos ⟨first, second⟩, whole, others]

theorem unpaired_of_plain {s : Str} (plain : ∀ c ∈ s, isSurrogate c = false) : Unpaired s := by
  induction s with
  | nil => trivial
  | cons c s ih =>
    cases s with
    | nil => trivial
    | cons d s =>
      refine ⟨?_, ih fun e mem => plain e (List.mem_cons_of_mem c mem)⟩
      rintro ⟨high, -⟩
      have other := plain c List.mem_cons_self
      simp only [isHigh, isSurrogate, decide_eq_true_eq, decide_eq_false_iff_not] at high other
      omega

theorem flatMap_units_inj {s t : Str} (plain : ∀ c ∈ s, isSurrogate c = false)
    (plain' : ∀ c ∈ t, isSurrogate c = false) (same : s.flatMap units = t.flatMap units) :
    s = t := by
  rw [← joinPairs_units (unpaired_of_plain plain), same,
    joinPairs_units (unpaired_of_plain plain')]

theorem flatMap_units_lt {s : Str} : ∀ u ∈ s.flatMap units, u < 65536 := by
  intro u mem
  obtain ⟨c, -, here⟩ := List.mem_flatMap.mp mem
  exact units_lt u here

theorem jsonString_append_inj {s t : Str} {rest rest' : List Char}
    (same : jsonString s ++ rest = jsonString t ++ rest') :
    s.flatMap units = t.flatMap units ∧ rest = rest' := by
  unfold jsonString at same
  rw [List.append_assoc, List.append_assoc] at same
  have read : readUnits (_ ++ '"' :: rest) = readUnits (_ ++ '"' :: rest') :=
    congrArg readUnits (List.cons.inj same).2
  rw [readUnits_escapes flatMap_units_lt, readUnits_escapes flatMap_units_lt] at read
  obtain ⟨codes, rests⟩ := Prod.ext_iff.mp (Option.some.inj read)
  have values : ∀ s : Str,
      ((s.flatMap units).map (Fin.ofNat 0x110000)).map Fin.val = s.flatMap units := by
    intro s
    rw [List.map_map]
    refine (List.map_congr_left fun u mem => ?_).trans (List.map_id _)
    have below := flatMap_units_lt u mem
    exact Nat.mod_eq_of_lt (by omega)
  exact ⟨(values s).symm.trans ((congrArg (List.map Fin.val) codes).trans (values t)), rests⟩

theorem readText_jsonString {s : Str} (plain : Unpaired s) (rest : List Char) :
    ∃ text, jsonString s ++ rest = '"' :: text ∧ readText text = some (s, rest) := by
  refine ⟨(s.flatMap units).flatMap escape ++ '"' :: rest, ?_, ?_⟩
  · unfold jsonString
    rw [List.append_assoc]
    rfl
  · unfold readText
    rw [readUnits_escapes flatMap_units_lt, Option.map_some, joinPairs_units plain]

/-! ## Numbers -/

def readSign : List Char → List Char × List Char
  | [] => ([], [])
  | c :: rest => if c = '+' ∨ c = '-' then ([c], rest) else ([], c :: rest)

def readMinus : List Char → List Char × List Char
  | [] => ([], [])
  | c :: rest => if c = '-' then ([c], rest) else ([], c :: rest)

def readWhole : List Char → Option (List Char × List Char)
  | [] => none
  | c :: rest =>
    if c = '0' then some (['0'], rest)
    else if c.isDigit = true then
      some (c :: rest.takeWhile Char.isDigit, rest.dropWhile Char.isDigit)
    else none

def readFraction : List Char → List Char × List Char
  | [] => ([], [])
  | c :: rest =>
    if c = '.' ∧ rest.takeWhile Char.isDigit ≠ [] then
      (c :: rest.takeWhile Char.isDigit, rest.dropWhile Char.isDigit)
    else ([], c :: rest)

def readPower : List Char → List Char × List Char
  | [] => ([], [])
  | e :: rest =>
    let signed := readSign rest
    if (e = 'e' ∨ e = 'E') ∧ signed.2.takeWhile Char.isDigit ≠ [] then
      (e :: (signed.1 ++ signed.2.takeWhile Char.isDigit), signed.2.dropWhile Char.isDigit)
    else ([], e :: rest)

structure Numeral where
  minus : List Char
  whole : List Char
  float : List Char

def Numeral.text (n : Numeral) : List Char := n.minus ++ n.whole ++ n.float

def readNumeral (text : List Char) : Option (Numeral × List Char) :=
  (readWhole (readMinus text).2).map fun whole =>
    ({ minus := (readMinus text).1
       whole := whole.1
       float := (readFraction whole.2).1 ++ (readPower (readFraction whole.2).2).1 },
      (readPower (readFraction whole.2).2).2)

def Whole (text : List Char) : Prop :=
  text = ['0'] ∨ ∃ c rest, text = c :: rest ∧ c ≠ '0' ∧ c.isDigit = true ∧ Decimal.Digits rest

def Fraction (text : List Char) : Prop :=
  text = [] ∨ ∃ digits, text = '.' :: digits ∧ digits ≠ [] ∧ Decimal.Digits digits

def Power (text : List Char) : Prop :=
  text = [] ∨ ∃ sign digits, text = 'e' :: (sign ++ digits) ∧
    (sign = [] ∨ sign = ['+'] ∨ sign = ['-']) ∧ digits ≠ [] ∧ Decimal.Digits digits

def Ends (rest : List Char) : Prop :=
  ∀ c ∈ rest.head?, c.isDigit = false ∧ c ≠ '.' ∧ c ≠ 'e' ∧ c ≠ 'E'

theorem Ends.digit {rest : List Char} (ends : Ends rest) : ∀ c ∈ rest.head?, c.isDigit = false :=
  fun c mem => (ends c mem).1

theorem ne_of_digit {c d : Char} (digit : c.isDigit = true) (other : d.isDigit = false) : c ≠ d :=
  fun same => Bool.noConfusion (digit.symm.trans (same ▸ other))

theorem readWhole_append {whole rest : List Char} (is : Whole whole)
    (stops : ∀ c ∈ rest.head?, c.isDigit = false) :
    readWhole (whole ++ rest) = some (whole, rest) := by
  rcases is with rfl | ⟨c, more, rfl, nonzero, digit, digits⟩
  · rfl
  · obtain ⟨taken, dropped⟩ := Decimal.takeWhile_digits digits stops
    unfold readWhole
    dsimp only [List.cons_append]
    rw [if_neg nonzero, if_pos digit, taken, dropped]

theorem readMinus_append {minus whole : List Char} (sign : minus = [] ∨ minus = ['-'])
    (is : Whole whole) (rest : List Char) :
    readMinus (minus ++ (whole ++ rest)) = (minus, whole ++ rest) := by
  rcases sign with rfl | rfl
  · rcases is with rfl | ⟨c, more, rfl, -, digit, -⟩
    · rfl
    · exact if_neg (ne_of_digit digit rfl)
  · rfl

theorem readFraction_append {fraction rest : List Char} (is : Fraction fraction)
    (stops : ∀ c ∈ rest.head?, c.isDigit = false ∧ c ≠ '.') :
    readFraction (fraction ++ rest) = (fraction, rest) := by
  rcases is with rfl | ⟨digits, rfl, some_, all⟩
  · cases rest with
    | nil => rfl
    | cons c rest => exact if_neg fun both => (stops c rfl).2 both.1
  · obtain ⟨taken, dropped⟩ := Decimal.takeWhile_digits all fun c mem => (stops c mem).1
    unfold readFraction
    dsimp only [List.cons_append]
    rw [taken, dropped, if_pos ⟨rfl, some_⟩]

theorem readSign_append {sign digits : List Char} (is : sign = [] ∨ sign = ['+'] ∨ sign = ['-'])
    (some_ : digits ≠ []) (all : Decimal.Digits digits) (rest : List Char) :
    readSign (sign ++ (digits ++ rest)) = (sign, digits ++ rest) := by
  rcases is with rfl | rfl | rfl
  · obtain ⟨c, more, rfl⟩ := List.exists_cons_of_ne_nil some_
    have digit := all c List.mem_cons_self
    exact if_neg fun either => either.elim (ne_of_digit digit rfl) (ne_of_digit digit rfl)
  · rfl
  · rfl

theorem readPower_append {power rest : List Char} (is : Power power) (ends : Ends rest) :
    readPower (power ++ rest) = (power, rest) := by
  rcases is with rfl | ⟨sign, digits, rfl, signed, some_, all⟩
  · cases rest with
    | nil => rfl
    | cons c rest =>
      obtain ⟨-, -, small, large⟩ := ends c rfl
      exact if_neg fun both => both.1.elim small large
  · obtain ⟨taken, dropped⟩ := Decimal.takeWhile_digits all ends.digit
    unfold readPower
    dsimp only [List.cons_append]
    rw [List.append_assoc, readSign_append signed some_ all rest]
    dsimp only
    rw [taken, dropped, if_pos ⟨.inl rfl, some_⟩]

theorem readNumeral_append {minus whole fraction power rest : List Char}
    (sign : minus = [] ∨ minus = ['-']) (is : Whole whole) (fractional : Fraction fraction)
    (powered : Power power) (ends : Ends rest) :
    readNumeral (minus ++ (whole ++ (fraction ++ (power ++ rest)))) =
      some (⟨minus, whole, fraction ++ power⟩, rest) := by
  -- a power neither is a digit nor starts with a point, and a fraction is no digit
  have noPoint : ∀ c ∈ (power ++ rest).head?, c.isDigit = false ∧ c ≠ '.' := by
    intro c mem
    rcases powered with rfl | ⟨sign, digits, rfl, -⟩
    · exact ⟨(ends c mem).1, (ends c mem).2.1⟩
    · cases mem
      exact ⟨rfl, by decide⟩
  have noDigit : ∀ c ∈ (fraction ++ (power ++ rest)).head?, c.isDigit = false := by
    intro c mem
    rcases fractional with rfl | ⟨digits, rfl, -⟩
    · exact (noPoint c mem).1
    · cases mem
      rfl
  unfold readNumeral
  rw [readMinus_append sign is]
  dsimp only
  rw [readWhole_append is noDigit, Option.map_some]
  dsimp only
  rw [readFraction_append fractional noPoint]
  dsimp only
  rw [readPower_append powered ends]

def FloatText (text : List Char) : Prop :=
  ∃ minus whole fraction power, text = minus ++ (whole ++ (fraction ++ power)) ∧
    (minus = [] ∨ minus = ['-']) ∧ Whole whole ∧ Fraction fraction ∧ Power power ∧
      fraction ++ power ≠ []

/-! ## Values -/

inductive Value (φ : Type) where
  | null
  | bool (b : Bool)
  | int (z : ℤ)
  | float (x : φ)
  | str (s : Str)
  | arr (items : List (Value φ))
  | obj (members : List (Str × Value φ))

structure Floats (φ : Type) where
  read : List Char → φ
  text : φ → List Char
  nan : φ
  infinity (negative : Bool) : φ
  isZero : φ → Bool
  Finite : φ → Prop
  shape : ∀ x, Finite x → FloatText (text x)
  read_text : ∀ x, Finite x → read (text x) = x

inductive LoadsError where
  | decode
  | digits
  | recursion
  | starved
  deriving DecidableEq

variable {φ : Type}

abbrev Read (α : Type) := Except LoadsError (α × List Char)

def isBlank (c : Char) : Bool := c = ' ' ∨ c = '\t' ∨ c = '\n' ∨ c = '\r'

def skip (text : List Char) : List Char := text.dropWhile isBlank

def dict (members : List (Str × Value φ)) : List (Str × Value φ) :=
  (Table.ofRows Prod.fst members).rows

def maxDigits : ℕ := 4300

namespace Floats

variable (F : Floats φ)

def words : List (List Char × Value φ) :=
  [("null".toList, .null), ("true".toList, .bool true), ("false".toList, .bool false),
    ("NaN".toList, .float F.nan), ("Infinity".toList, .float (F.infinity false)),
    ("-Infinity".toList, .float (F.infinity true))]

def word (text : List Char) : Option (Value φ × List Char) :=
  F.words.findSome? fun w =>
    if w.1 <+: text then some (w.2, text.drop w.1.length) else none

def number (n : Numeral) : Except LoadsError (Value φ) :=
  if n.float = [] then
    if maxDigits < n.whole.length then .error .digits
    else
      let magnitude : ℤ := Nat.ofDigitChars 10 n.whole 0
      .ok (.int (if n.minus = [] then magnitude else -magnitude))
  else .ok (.float (F.read n.text))

def scalar (text : List Char) : Read (Value φ) :=
  match F.word text with
  | some found => .ok found
  | none =>
    match readNumeral text with
    | none => .error .decode
    | some (n, rest) => (F.number n).map fun v => (v, rest)

mutual

def value : ℕ → ℕ → List Char → Read (Value φ)
  | 0, _, _ => .error .starved
  | _ + 1, _, [] => .error .decode
  | fuel + 1, depth, c :: text =>
    if c = '"' then
      match readText text with
      | none => .error .decode
      | some (s, rest) => .ok (.str s, rest)
    else if c = '{' then
      if depth = 0 then .error .recursion
      else if (skip text).head? = some '}' then .ok (.obj [], (skip text).tail)
      else (members fuel (depth - 1) (skip text)).map fun r => (.obj (dict r.1), r.2)
    else if c = '[' then
      if depth = 0 then .error .recursion
      else if (skip text).head? = some ']' then .ok (.arr [], (skip text).tail)
      else (elements fuel (depth - 1) (skip text)).map fun r => (.arr r.1, r.2)
    else F.scalar (c :: text)

def elements : ℕ → ℕ → List Char → Read (List (Value φ))
  | 0, _, _ => .error .starved
  | fuel + 1, depth, text =>
    match value fuel depth text with
    | .error e => .error e
    | .ok (v, rest) =>
      if (skip rest).head? = some ']' then .ok ([v], (skip rest).tail)
      else if (skip rest).head? = some ',' then
        (elements fuel depth (skip (skip rest).tail)).map fun r => (v :: r.1, r.2)
      else .error .decode

def members : ℕ → ℕ → List Char → Read (List (Str × Value φ))
  | 0, _, _ => .error .starved
  | fuel + 1, depth, text =>
    if text.head? = some '"' then
      match readText text.tail with
      | none => .error .decode
      | some (key, rest) =>
        if (skip rest).head? = some ':' then
          match value fuel depth (skip (skip rest).tail) with
          | .error e => .error e
          | .ok (v, rest) =>
            if (skip rest).head? = some '}' then .ok ([(key, v)], (skip rest).tail)
            else if (skip rest).head? = some ',' then
              (members fuel depth (skip (skip rest).tail)).map fun r => ((key, v) :: r.1, r.2)
            else .error .decode
        else .error .decode
    else .error .decode

end

def loads (limit : ℕ) (text : List Char) : Except LoadsError (Value φ) :=
  if text.head? = some '\ufeff' then .error .decode
  else
    match F.value (2 * text.length + 1) limit (skip text) with
    | .error e => .error e
    | .ok (v, rest) => if skip rest = [] then .ok v else .error .decode

end Floats

/-! ## Reading comes to an end -/

namespace Floats

variable (F : Floats φ)

/-! ## Writing -/

def intText (z : ℤ) : List Char :=
  (if z < 0 then ['-'] else []) ++ Nat.toDigits 10 z.natAbs

mutual

def dumps : Value φ → List Char
  | .null => "null".toList
  | .bool true => "true".toList
  | .bool false => "false".toList
  | .int z => intText z
  | .float x => F.text x
  | .str s => jsonString s
  | .arr items => '[' :: (dumpsItems items ++ [']'])
  | .obj members => '{' :: (dumpsMembers members ++ ['}'])

def dumpsItems : List (Value φ) → List Char
  | [] => []
  | [v] => dumps v
  | v :: w :: rest => dumps v ++ ',' :: ' ' :: dumpsItems (w :: rest)

def dumpsMembers : List (Str × Value φ) → List Char
  | [] => []
  | [(k, v)] => jsonString k ++ ':' :: ' ' :: dumps v
  | (k, v) :: m :: rest =>
    jsonString k ++ ':' :: ' ' :: (dumps v ++ ',' :: ' ' :: dumpsMembers (m :: rest))

end

inductive DumpsError where
  | digits
  | recursion
  deriving DecidableEq

mutual

def refusal : ℕ → Value φ → Option DumpsError
  | _, .int z => if maxDigits < (Nat.toDigits 10 z.natAbs).length then some .digits else none
  | 0, .arr _ => some .recursion
  | 0, .obj _ => some .recursion
  | limit + 1, .arr items => refusalItems limit items
  | limit + 1, .obj members => refusalMembers limit members
  | _, _ => none

def refusalItems : ℕ → List (Value φ) → Option DumpsError
  | _, [] => none
  | limit, v :: rest => (refusal limit v).or (refusalItems limit rest)

def refusalMembers : ℕ → List (Str × Value φ) → Option DumpsError
  | _, [] => none
  | limit, (_, v) :: rest => (refusal limit v).or (refusalMembers limit rest)

end

mutual

def Plain : Value φ → Prop
  | .float x => F.Finite x
  | .str s => Unpaired s
  | .arr items => PlainItems items
  | .obj members => (members.map Prod.fst).Nodup ∧ PlainMembers members
  | .null | .bool _ | .int _ => True

def PlainItems : List (Value φ) → Prop
  | [] => True
  | v :: rest => Plain v ∧ PlainItems rest

def PlainMembers : List (Str × Value φ) → Prop
  | [] => True
  | (k, v) :: rest => (Unpaired k ∧ Plain v) ∧ PlainMembers rest

end

/-! ## Reading what was written -/

theorem whole_toDigits_of_pos (n : ℕ) : 0 < n → ∃ c rest, Nat.toDigits 10 n = c :: rest ∧ c ≠ '0' ∧
    c.isDigit = true ∧ Decimal.Digits rest := by
  induction n using Nat.strong_induction_on with
  | _ n ih =>
    intro positive
    by_cases small : n < 10
    · refine ⟨n.digitChar, [], Nat.toDigits_of_lt_base small, ?_, ?_, List.forall_mem_nil _⟩
      · interval_cases n <;> decide
      · interval_cases n <;> decide
    · obtain ⟨c, rest, is, nonzero, digit, digits⟩ := ih (n / 10) (by omega) (by omega)
      refine ⟨c, rest ++ [(n % 10).digitChar], ?_, nonzero, digit, digits.append ?_⟩
      · rw [Nat.toDigits_of_base_le (by decide) (by omega), is, List.cons_append]
      · refine List.forall_mem_singleton.mpr ?_
        have below := Nat.mod_lt n (show 0 < 10 by decide)
        interval_cases n % 10 <;> decide

theorem whole_toDigits (n : ℕ) : Whole (Nat.toDigits 10 n) := by
  rcases Nat.eq_zero_or_pos n with rfl | positive
  · exact .inl (Nat.toDigits_zero 10)
  · exact .inr (whole_toDigits_of_pos n positive)

theorem head_numeral {minus whole : List Char} (sign : minus = [] ∨ minus = ['-'])
    (is : Whole whole) (rest : List Char) :
    ∃ d more, d.isDigit = true ∧
      (minus ++ (whole ++ rest) = d :: more ∨ minus ++ (whole ++ rest) = '-' :: d :: more) := by
  obtain ⟨d, more, digit, shape⟩ : ∃ d more, d.isDigit = true ∧ whole ++ rest = d :: more := by
    rcases is with rfl | ⟨c, others, rfl, -, digit, -⟩
    · exact ⟨'0', rest, rfl, rfl⟩
    · exact ⟨c, others ++ rest, digit, rfl⟩
  rw [shape]
  rcases sign with rfl | rfl
  · exact ⟨d, more, digit, .inl rfl⟩
  · exact ⟨d, more, digit, .inr rfl⟩

theorem word_numeral {minus whole : List Char} (sign : minus = [] ∨ minus = ['-'])
    (is : Whole whole) (rest : List Char) : F.word (minus ++ (whole ++ rest)) = none := by
  have starts : ∀ w ∈ F.words, ∃ c d more, w.1 = c :: d :: more ∧ c.isDigit = false ∧
      d.isDigit = false := by
    intro w mem
    simp only [words, List.mem_cons, List.not_mem_nil, or_false] at mem
    rcases mem with rfl | rfl | rfl | rfl | rfl | rfl <;> exact ⟨_, _, _, rfl, rfl, rfl⟩
  refine List.findSome?_eq_none_iff.mpr fun w mem => if_neg fun first => ?_
  obtain ⟨c, d, more, word, letter, letter'⟩ := starts w mem
  rw [word] at first
  obtain ⟨e, others, digit, shape | shape⟩ := head_numeral sign is rest
  · rw [shape, List.cons_prefix_cons] at first
    rw [first.1, digit] at letter
    cases letter
  · rw [shape, List.cons_prefix_cons, List.cons_prefix_cons] at first
    rw [first.2.1, digit] at letter'
    cases letter'

theorem scalar_int {z : ℤ} (plain : (Nat.toDigits 10 z.natAbs).length ≤ maxDigits)
    {rest : List Char} (ends : Ends rest) :
    F.scalar (intText z ++ rest) = .ok (.int z, rest) := by
  have sign : (if z < 0 then ['-'] else []) = [] ∨ (if z < 0 then ['-'] else []) = ['-'] := by
    split
    · exact .inr rfl
    · exact .inl rfl
  have read := readNumeral_append sign (whole_toDigits z.natAbs) (.inl rfl) (.inl rfl) ends
  rw [List.nil_append, List.nil_append] at read
  unfold scalar intText
  rw [List.append_assoc, F.word_numeral sign (whole_toDigits _), read]
  dsimp only
  unfold number
  dsimp only [List.nil_append]
  rw [if_pos rfl, if_neg plain.not_gt, Nat.ofDigitChars_ten_toDigits]
  by_cases negative : z < 0
  · rw [if_pos negative, if_neg (List.cons_ne_nil _ _)]
    exact congrArg (fun k => Except.ok (Value.int k, rest)) (by omega)
  · rw [if_neg negative, if_pos rfl]
    exact congrArg (fun k => Except.ok (Value.int k, rest)) (by omega)

theorem scalar_float {x : φ} (finite : F.Finite x) {rest : List Char} (ends : Ends rest) :
    F.scalar (F.text x ++ rest) = .ok (.float x, rest) := by
  obtain ⟨minus, whole, fraction, power, text, sign, is, fractional, powered, some_⟩ :=
    F.shape x finite
  have read := readNumeral_append sign is fractional powered ends
  have whole_ : (⟨minus, whole, fraction ++ power⟩ : Numeral).text = F.text x := by
    rw [text, Numeral.text, List.append_assoc]
  unfold scalar
  rw [text, List.append_assoc, List.append_assoc, List.append_assoc, F.word_numeral sign is, read]
  dsimp only
  unfold number
  rw [if_neg some_, whole_, F.read_text x finite]
  rfl

def Opens (c : Char) : Prop := isBlank c = false ∧ c ≠ ']' ∧ c ≠ '\ufeff'

theorem opens_digit {c : Char} (digit : c.isDigit = true) : Opens c := by
  refine ⟨decide_eq_false fun blank => ?_, ne_of_digit digit rfl, ne_of_digit digit rfl⟩
  rcases blank with rfl | rfl | rfl | rfl <;> cases digit

theorem exists_opens {v : Value φ} (plain : F.Plain v) (rest : List Char) :
    ∃ c text, F.dumps v ++ rest = c :: text ∧ Opens c := by
  have minus : Opens '-' := ⟨rfl, by decide, by decide⟩
  have numeral : ∀ {sign whole : List Char} (more : List Char), sign = [] ∨ sign = ['-'] →
      Whole whole → ∃ c text, sign ++ (whole ++ more) = c :: text ∧ Opens c := by
    intro sign whole more signed is
    obtain ⟨d, others, digit, shape | shape⟩ := head_numeral signed is more
    · exact ⟨d, others, shape, opens_digit digit⟩
    · exact ⟨'-', d :: others, shape, minus⟩
  cases v with
  | null => exact ⟨'n', _, rfl, rfl, by decide, by decide⟩
  | bool b =>
    cases b
    · exact ⟨'f', _, rfl, rfl, by decide, by decide⟩
    · exact ⟨'t', _, rfl, rfl, by decide, by decide⟩
  | int z =>
    have sign : (if z < 0 then ['-'] else []) = [] ∨ (if z < 0 then ['-'] else []) = ['-'] := by
      split
      · exact .inr rfl
      · exact .inl rfl
    obtain ⟨c, text, is, opens⟩ := numeral rest sign (whole_toDigits z.natAbs)
    exact ⟨c, text, (List.append_assoc _ _ _).trans is, opens⟩
  | float x =>
    unfold Plain at plain
    obtain ⟨minus, whole, fraction, power, text, sign, is, -⟩ := F.shape x plain
    obtain ⟨c, more, shape, opens⟩ := numeral (fraction ++ power ++ rest) sign is
    refine ⟨c, more, ?_, opens⟩
    unfold dumps
    rw [text, ← shape, List.append_assoc, List.append_assoc]
  | str s => exact ⟨'"', _, rfl, rfl, by decide, by decide⟩
  | arr items => exact ⟨'[', _, rfl, rfl, by decide, by decide⟩
  | obj members => exact ⟨'{', _, rfl, rfl, by decide, by decide⟩

theorem skip_cons {c : Char} (opens : isBlank c = false) (text : List Char) :
    skip (c :: text) = c :: text := by
  unfold skip
  rw [List.dropWhile_cons_of_neg (by rw [opens]; exact Bool.false_ne_true)]

theorem skip_dumps {v : Value φ} (plain : F.Plain v) (rest : List Char) :
    skip (F.dumps v ++ rest) = F.dumps v ++ rest := by
  obtain ⟨c, text, is, opens⟩ := F.exists_opens plain rest
  rw [is, skip_cons opens.1]

theorem ends_of_mark {c : Char} (rest : List Char)
    (mark : c.isDigit = false ∧ c ≠ '.' ∧ c ≠ 'e' ∧ c ≠ 'E') : Ends (c :: rest) := by
  intro d mem
  cases mem
  exact mark

theorem dict_of_nodup {members : List (Str × Value φ)} (keys : (members.map Prod.fst).Nodup) :
    dict members = members :=
  Table.rows_ofRows_of_nodup keys

theorem value_scalar {c : Char} (other : c ≠ '"' ∧ c ≠ '{' ∧ c ≠ '[') (fuel limit : ℕ)
    (text : List Char) : F.value (fuel + 1) limit (c :: text) = F.scalar (c :: text) := by
  unfold value
  rw [if_neg other.1, if_neg other.2.1, if_neg other.2.2]

theorem value_numeral {minus whole : List Char} (sign : minus = [] ∨ minus = ['-'])
    (is : Whole whole) (fuel limit : ℕ) (rest : List Char) :
    F.value (fuel + 1) limit (minus ++ (whole ++ rest)) = F.scalar (minus ++ (whole ++ rest)) := by
  obtain ⟨d, more, digit, shape | shape⟩ := head_numeral sign is rest
  · rw [shape]
    exact F.value_scalar
      ⟨ne_of_digit digit rfl, ne_of_digit digit rfl, ne_of_digit digit rfl⟩ fuel limit more
  · rw [shape]
    exact F.value_scalar (by decide) fuel limit _

theorem value_int {z : ℤ} (plain : (Nat.toDigits 10 z.natAbs).length ≤ maxDigits)
    {rest : List Char} (ends : Ends rest) (fuel limit : ℕ) :
    F.value (fuel + 1) limit (intText z ++ rest) = .ok (.int z, rest) := by
  have sign : (if z < 0 then ['-'] else []) = [] ∨ (if z < 0 then ['-'] else []) = ['-'] := by
    split
    · exact .inr rfl
    · exact .inl rfl
  have read := F.value_numeral sign (whole_toDigits z.natAbs) fuel limit rest
  rw [← List.append_assoc] at read
  exact read.trans (F.scalar_int plain ends)

theorem value_float {x : φ} (finite : F.Finite x) {rest : List Char} (ends : Ends rest)
    (fuel limit : ℕ) : F.value (fuel + 1) limit (F.text x ++ rest) = .ok (.float x, rest) := by
  have scalar := F.scalar_float finite ends
  obtain ⟨minus, whole, fraction, power, text, sign, is, -⟩ := F.shape x finite
  rw [text, List.append_assoc, List.append_assoc] at scalar ⊢
  rw [F.value_numeral sign is, scalar]

theorem value_str {s : Str} (plain : Unpaired s) (fuel limit : ℕ)
    (rest : List Char) : F.value (fuel + 1) limit (jsonString s ++ rest) = .ok (.str s, rest) := by
  obtain ⟨text, shape, read⟩ := readText_jsonString plain rest
  rw [shape]
  unfold value
  rw [if_pos rfl, read]

theorem exists_opens_items {v : Value φ} {items : List (Value φ)}
    (plain : F.PlainItems (v :: items))
    (rest : List Char) : ∃ c text, F.dumpsItems (v :: items) ++ rest = c :: text ∧ Opens c := by
  obtain ⟨first, -⟩ := plain
  cases items with
  | nil => exact F.exists_opens first rest
  | cons w items =>
    obtain ⟨c, text, is, opens⟩ := F.exists_opens first
      (',' :: ' ' :: F.dumpsItems (w :: items) ++ rest)
    refine ⟨c, text, ?_, opens⟩
    rw [← is, dumpsItems, List.append_assoc, List.cons_append, List.cons_append]

theorem exists_quote_members (m : Str × Value φ) (members : List (Str × Value φ))
    (rest : List Char) : ∃ text, F.dumpsMembers (m :: members) ++ rest = '"' :: text := by
  obtain ⟨k, v⟩ := m
  cases members with
  | nil | cons n members => exact ⟨_, rfl⟩

theorem skip_comma {text : List Char} (opens : ∃ c more, text = c :: more ∧ Opens c) :
    skip (skip (',' :: ' ' :: text)).tail = text := by
  obtain ⟨c, more, rfl, open_⟩ := opens
  rw [skip_cons rfl]
  change skip (' ' :: c :: more) = c :: more
  have blank : skip (' ' :: c :: more) = skip (c :: more) := rfl
  rw [blank, skip_cons open_.1]

theorem comma_ne {c : Char} (other : ',' ≠ c) {text : List Char} :
    (skip (',' :: text)).head? ≠ some c := by
  rw [skip_cons rfl]
  exact fun same => other (Option.some.inj same)

theorem refusal_int {limit : ℕ} {z : ℤ} (written : refusal limit (.int z : Value φ) = none) :
    (Nat.toDigits 10 z.natAbs).length ≤ maxDigits := by
  unfold refusal at written
  by_contra more
  rw [if_pos (Nat.lt_of_not_le more)] at written
  cases written

theorem refusal_arr {limit : ℕ} {items : List (Value φ)}
    (written : refusal limit (.arr items) = none) :
    ∃ below, limit = below + 1 ∧ refusalItems below items = none := by
  cases limit with
  | zero => cases written
  | succ below => exact ⟨below, rfl, written⟩

theorem refusal_obj {limit : ℕ} {members : List (Str × Value φ)}
    (written : refusal limit (.obj members) = none) :
    ∃ below, limit = below + 1 ∧ refusalMembers below members = none := by
  cases limit with
  | zero => cases written
  | succ below => exact ⟨below, rfl, written⟩

theorem read_dumps (fuel : ℕ) : ∀ limit rest,
    (∀ v, F.Plain v → refusal limit v = none → Ends rest →
      2 * (F.dumps v ++ rest).length < fuel →
        F.value fuel limit (F.dumps v ++ rest) = .ok (v, rest)) ∧
    (∀ v items, F.PlainItems (v :: items) → refusalItems limit (v :: items) = none →
      2 * (F.dumpsItems (v :: items) ++ ']' :: rest).length + 1 < fuel →
        F.elements fuel limit (F.dumpsItems (v :: items) ++ ']' :: rest) =
          .ok (v :: items, rest)) ∧
    ∀ m members, F.PlainMembers (m :: members) → refusalMembers limit (m :: members) = none →
      2 * (F.dumpsMembers (m :: members) ++ '}' :: rest).length + 1 < fuel →
        F.members fuel limit (F.dumpsMembers (m :: members) ++ '}' :: rest) =
          .ok (m :: members, rest) := by
  induction fuel with
  | zero => exact fun _ _ => ⟨fun _ _ _ _ => nofun, fun _ _ _ _ => nofun, fun _ _ _ _ => nofun⟩
  | succ fuel ih =>
    intro limit rest
    refine ⟨fun v plain written ends less => ?value, fun v items plain written less => ?elements,
      fun m ms plain written less => ?members⟩
    case value =>
      cases v with
      | null => rfl
      | bool b => cases b <;> rfl
      | int z => exact F.value_int (refusal_int written) ends fuel limit
      | float x => exact F.value_float plain ends fuel limit
      | str s => exact F.value_str plain fuel limit rest
      | arr items =>
        obtain ⟨below, rfl, inner⟩ := refusal_arr written
        have shape : F.dumps (.arr items) ++ rest =
            '[' :: (F.dumpsItems items ++ ']' :: rest) := by
          rw [dumps, List.cons_append, List.append_assoc]
          rfl
        rw [shape] at less ⊢
        unfold value
        rw [if_neg (by decide), if_neg (by decide), if_pos rfl, if_neg (Nat.succ_ne_zero below),
          Nat.add_sub_cancel]
        cases items with
        | nil => exact if_pos rfl
        | cons w items =>
          obtain ⟨c, text, is, opens⟩ := F.exists_opens_items plain (']' :: rest)
          have still : skip (F.dumpsItems (w :: items) ++ ']' :: rest) =
              F.dumpsItems (w :: items) ++ ']' :: rest := by
            rw [is, skip_cons opens.1]
          have head : (F.dumpsItems (w :: items) ++ ']' :: rest).head? ≠ some ']' := by
            rw [is]
            exact fun same => opens.2.1 (Option.some.inj same)
          rw [List.length_cons] at less
          rw [still, if_neg head, (ih below rest).2.1 w items plain inner (by omega)]
          rfl
      | obj members =>
        obtain ⟨below, rfl, inner⟩ := refusal_obj written
        have shape : F.dumps (.obj members) ++ rest =
            '{' :: (F.dumpsMembers members ++ '}' :: rest) := by
          rw [dumps, List.cons_append, List.append_assoc]
          rfl
        rw [shape] at less ⊢
        unfold value
        rw [if_neg (by decide), if_pos rfl, if_neg (Nat.succ_ne_zero below),
          Nat.add_sub_cancel]
        cases members with
        | nil => exact if_pos rfl
        | cons m members =>
          obtain ⟨keys, plain⟩ := plain
          obtain ⟨text, is⟩ := F.exists_quote_members m members ('}' :: rest)
          have still : skip (F.dumpsMembers (m :: members) ++ '}' :: rest) =
              F.dumpsMembers (m :: members) ++ '}' :: rest := by
            rw [is, skip_cons rfl]
          have head : (F.dumpsMembers (m :: members) ++ '}' :: rest).head? ≠ some '}' := by
            rw [is]
            exact fun same => absurd (Option.some.inj same) (by decide)
          rw [List.length_cons] at less
          rw [still, if_neg head, (ih below rest).2.2 m members plain inner (by omega)]
          exact congrArg (fun ms => Except.ok (Value.obj ms, rest)) (dict_of_nodup keys)
    case elements =>
      obtain ⟨first, others⟩ := plain
      obtain ⟨firstWritten, othersWritten⟩ := Option.or_eq_none_iff.mp written
      unfold elements
      cases items with
      | nil =>
        rw [dumpsItems] at less ⊢
        rw [(ih limit (']' :: rest)).1 v first firstWritten
          (ends_of_mark rest (by decide)) (by omega)]
        exact if_pos rfl
      | cons w items =>
        have shape : F.dumpsItems (v :: w :: items) ++ ']' :: rest =
            F.dumps v ++ ',' :: ' ' :: (F.dumpsItems (w :: items) ++ ']' :: rest) := by
          rw [dumpsItems, List.append_assoc]
          rfl
        rw [shape] at less ⊢
        have inside : 2 * (F.dumpsItems (w :: items) ++ ']' :: rest).length + 1 < fuel := by
          rw [List.length_append, List.length_cons, List.length_cons] at less
          omega
        rw [(ih limit _).1 v first firstWritten (ends_of_mark _ (by decide)) (by omega)]
        dsimp only
        rw [if_neg (comma_ne (by decide)), if_pos (by rw [skip_cons rfl]; rfl),
          skip_comma (F.exists_opens_items others _),
          (ih limit rest).2.1 w items others othersWritten inside]
        rfl
    case members =>
      obtain ⟨k, v⟩ := m
      obtain ⟨⟨key, first⟩, others⟩ := plain
      obtain ⟨firstWritten, othersWritten⟩ := Option.or_eq_none_iff.mp written
      -- the value of a key, whatever follows it
      have entry : ∀ tail, Ends tail → 2 * (F.dumps v ++ tail).length < fuel →
          F.members (fuel + 1) limit (jsonString k ++ ':' :: ' ' :: (F.dumps v ++ tail)) =
            if (skip tail).head? = some '}' then .ok ([(k, v)], (skip tail).tail)
            else if (skip tail).head? = some ',' then
              (F.members fuel limit (skip (skip tail).tail)).map fun r => ((k, v) :: r.1, r.2)
            else .error .decode := by
        intro tail ends inside
        obtain ⟨text, shape, read⟩ :=
          readText_jsonString key (':' :: ' ' :: (F.dumps v ++ tail))
        have blank : skip (' ' :: (F.dumps v ++ tail)) = F.dumps v ++ tail :=
          F.skip_dumps first tail
        rw [shape, Floats.members, List.head?_cons, if_pos rfl, List.tail_cons, read]
        dsimp only
        rw [skip_cons rfl, List.head?_cons, if_pos rfl, List.tail_cons, blank,
          (ih limit tail).1 v first firstWritten ends inside]
      cases ms with
      | nil =>
        have shape : F.dumpsMembers [(k, v)] ++ '}' :: rest =
            jsonString k ++ ':' :: ' ' :: (F.dumps v ++ '}' :: rest) := by
          rw [dumpsMembers, List.append_assoc]
          rfl
        rw [shape] at less ⊢
        rw [List.length_append, List.length_cons, List.length_cons] at less
        rw [entry ('}' :: rest) (ends_of_mark rest (by decide)) (by omega)]
        exact if_pos rfl
      | cons n ms =>
        have shape : F.dumpsMembers ((k, v) :: n :: ms) ++ '}' :: rest =
            jsonString k ++ ':' :: ' ' ::
              (F.dumps v ++ ',' :: ' ' :: (F.dumpsMembers (n :: ms) ++ '}' :: rest)) := by
          rw [dumpsMembers, List.append_assoc, List.cons_append, List.cons_append,
            List.append_assoc]
          rfl
        rw [shape] at less ⊢
        rw [List.length_append, List.length_cons, List.length_cons] at less
        have inside : 2 * (F.dumpsMembers (n :: ms) ++ '}' :: rest).length + 1 < fuel := by
          rw [List.length_append, List.length_cons, List.length_cons] at less
          omega
        have opens : ∃ c more, F.dumpsMembers (n :: ms) ++ '}' :: rest = c :: more ∧ Opens c := by
          obtain ⟨text, is⟩ := F.exists_quote_members n ms ('}' :: rest)
          exact ⟨'"', text, is, rfl, by decide, by decide⟩
        rw [entry _ (ends_of_mark _ (by decide)) (by omega), if_neg (comma_ne (by decide)),
          if_pos (by rw [skip_cons rfl]; rfl), skip_comma opens,
          (ih limit rest).2.2 n ms others othersWritten inside]
        rfl

theorem loads_dumps {v : Value φ} (plain : F.Plain v) {limit : ℕ}
    (written : refusal limit v = none) : F.loads limit (F.dumps v) = .ok v := by
  have read := (F.read_dumps (2 * (F.dumps v).length + 1) limit []).1 v plain written
    (fun c mem => nomatch mem)
  have still := F.skip_dumps plain []
  rw [List.append_nil] at read still
  obtain ⟨c, text, is, opens⟩ := F.exists_opens plain []
  rw [List.append_nil] at is
  unfold loads
  rw [if_neg, still, read (Nat.lt_succ_self _)]
  · exact if_pos rfl
  · rw [is]
    exact fun same => opens.2.2 (Option.some.inj same)

end Floats

end TradeResearch.Json
