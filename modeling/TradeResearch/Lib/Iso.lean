import TradeResearch.Lib.Encoding

/-!
# Times as ISO texts

`datetime.isoformat(timespec="milliseconds")` and the reading of the texts it writes.

* `number_pad`: digits of a width are read back.
* `readIso_isoMillis`: so is a time of whole milliseconds.
* `isoUtc_inj`: an instant can be read off its text.
-/

namespace TradeResearch.Iso

open Encoding

structure DateTime where
  date : Date
  time : ℕ
  offset : Option ℤ
  valid : date.Valid
  inside : date.year < 10000
  day : time < dayLength
  near : ∀ o ∈ offset, o.natAbs < dayLength

def clock (seconds : ℕ) : List Char :=
  pad 10 2 (seconds / 3600) ++ ':' :: pad 10 2 (seconds / 60 % 60) ++ ':' :: pad 10 2 (seconds % 60)

def zoneText : Option ℤ → List Char
  | none => []
  | some o =>
    let seconds := o.natAbs / 1000000
    let micros := o.natAbs % 1000000
    (if o < 0 then '-' else '+') ::
      (if micros ≠ 0 then clock seconds ++ '.' :: pad 10 6 micros
        else if seconds % 60 ≠ 0 then clock seconds
        else pad 10 2 (seconds / 3600) ++ ':' :: pad 10 2 (seconds / 60 % 60))

def isoMillis (d : DateTime) : List Char :=
  d.date.iso ++ 'T' :: (clock (d.time / 1000000) ++
    '.' :: (pad 10 3 (d.time % 1000000 / 1000) ++ zoneText d.offset))

def number (width : ℕ) (text : List Char) : Option (ℕ × List Char) :=
  if (text.take width).length = width ∧ (text.take width).all Char.isDigit = true then
    some (Nat.ofDigitChars 10 (text.take width) 0, text.drop width)
  else none

def mark (c : Char) : List Char → Option (List Char)
  | [] => none
  | d :: text => if d = c then some text else none

def readDate (text : List Char) : Option (Date × List Char) := do
  let year ← number 4 text
  let month ← (mark '-' year.2).bind (number 2)
  let day ← (mark '-' month.2).bind (number 2)
  some (⟨year.1, month.1, day.1⟩, day.2)

def readMinutes (text : List Char) : Option (ℕ × List Char) := do
  let hours ← number 2 text
  let minutes ← (mark ':' hours.2).bind (number 2)
  if hours.1 < 24 ∧ minutes.1 < 60 then some (hours.1 * 3600 + minutes.1 * 60, minutes.2) else none

def readClock (text : List Char) : Option (ℕ × List Char) := do
  let minutes ← readMinutes text
  let seconds ← (mark ':' minutes.2).bind (number 2)
  if seconds.1 < 60 then some (minutes.1 + seconds.1, seconds.2) else none

def readAhead (text : List Char) : Option ℕ :=
  match readMinutes text with
  | none => none
  | some (minutes, []) => some (minutes * 1000000)
  | some _ => do
    let seconds ← readClock text
    if seconds.2 = [] then some (seconds.1 * 1000000)
    else
      let micros ← (mark '.' seconds.2).bind (number 6)
      if micros.2 = [] then some (seconds.1 * 1000000 + micros.1) else none

def readZone : List Char → Option (Option ℤ)
  | [] => some none
  | c :: text =>
    if c = '+' then (readAhead text).map fun n => some (n : ℤ)
    else if c = '-' then (readAhead text).map fun n => some (-(n : ℤ))
    else none

instance (d : Date) : Decidable d.Valid :=
  decidable_of_iff (1 ≤ d.year ∧ (1 ≤ d.month ∧ d.month ≤ 12) ∧
      (1 ≤ d.day ∧ d.day ≤ daysInMonth d.year d.month))
    ⟨fun h => ⟨h.1, h.2.1, h.2.2⟩, fun h => ⟨h.year, h.month, h.day⟩⟩

def ofParts (date : Date) (time : ℕ) (offset : Option ℤ) : Option DateTime :=
  if are : date.Valid ∧ date.year < 10000 ∧ time < dayLength ∧
      ∀ o ∈ offset, o.natAbs < dayLength then
    some ⟨date, time, offset, are.1, are.2.1, are.2.2.1, are.2.2.2⟩
  else none

def readIso (text : List Char) : Option DateTime := do
  let date ← readDate text
  let seconds ← (mark 'T' date.2).bind readClock
  let millis ← (mark '.' seconds.2).bind (number 3)
  let offset ← readZone millis.2
  ofParts date.1 (seconds.1 * 1000000 + millis.1 * 1000) offset

theorem digits_pad (width n : ℕ) : (pad 10 width n).all Char.isDigit = true := by
  induction width generalizing n with
  | zero => rfl
  | succ width ih =>
    unfold pad
    rw [List.all_append, ih, List.all_cons, List.all_nil, Nat.isDigit_digitChar,
      decide_eq_true (Nat.mod_lt n (by decide))]
    rfl

theorem ofDigitChars_pad {width n : ℕ} (below : n < 10 ^ width) :
    Nat.ofDigitChars 10 (pad 10 width n) 0 = n := by
  induction width generalizing n with
  | zero =>
    exact (Nat.lt_one_iff.mp below).symm
  | succ width ih =>
    have high : n / 10 < 10 ^ width :=
      Nat.div_lt_of_lt_mul (by rwa [Nat.pow_succ, Nat.mul_comm] at below)
    unfold pad
    rw [Nat.ofDigitChars_append, ih high,
      Nat.ofDigitChars_cons_digitChar_of_lt_ten (Nat.mod_lt n (by decide)), Nat.ofDigitChars_nil]
    omega

theorem number_pad {width n : ℕ} (below : n < 10 ^ width) (rest : List Char) :
    number width (pad 10 width n ++ rest) = some (n, rest) := by
  have size := length_pad 10 width n
  unfold number
  rw [List.take_left' size, List.drop_left' size, if_pos ⟨size, digits_pad width n⟩,
    ofDigitChars_pad below]

theorem mark_cons (c : Char) (text : List Char) : mark c (c :: text) = some text := if_pos rfl

theorem readDate_iso {d : Date} (valid : d.Valid) (inside : d.year < 10000) (rest : List Char) :
    readDate (d.iso ++ rest) = some (d, rest) := by
  have month := Date.daysInMonth_bounds d.year d.month
  have few := valid.month
  have days := valid.day
  unfold readDate Date.iso
  simp only [List.append_assoc, List.cons_append]
  rw [number_pad (by omega)]
  simp only [Option.bind_eq_bind, Option.bind_some, mark_cons]
  rw [number_pad (by omega)]
  simp only [Option.bind_some, mark_cons]
  rw [number_pad (by omega)]
  rfl

theorem readMinutes_text {seconds : ℕ} (below : seconds < 86400) (rest : List Char) :
    readMinutes (pad 10 2 (seconds / 3600) ++ ':' :: (pad 10 2 (seconds / 60 % 60) ++ rest)) =
      some (seconds / 60 * 60, rest) := by
  unfold readMinutes
  rw [number_pad (by omega)]
  simp only [Option.bind_eq_bind, Option.bind_some, mark_cons]
  rw [number_pad (by omega)]
  dsimp only [Option.bind_some]
  rw [if_pos (by omega)]
  exact congrArg some (Prod.ext (by dsimp only; omega) rfl)

theorem clock_append (seconds : ℕ) (rest : List Char) :
    clock seconds ++ rest = pad 10 2 (seconds / 3600) ++ ':' :: (pad 10 2 (seconds / 60 % 60) ++
      ':' :: (pad 10 2 (seconds % 60) ++ rest)) := by
  rfl

theorem readClock_clock {seconds : ℕ} (below : seconds < 86400) (rest : List Char) :
    readClock (clock seconds ++ rest) = some (seconds, rest) := by
  unfold readClock
  rw [clock_append, readMinutes_text below]
  simp only [Option.bind_eq_bind, Option.bind_some, mark_cons]
  rw [number_pad (by omega)]
  dsimp only [Option.bind_some]
  rw [if_pos (by omega)]
  exact congrArg some (Prod.ext (by dsimp only; omega) rfl)

theorem isoUtc_inj {a b : ℕ} (inside : a < calendarEnd) (inside' : b < calendarEnd)
    (same : isoUtc a = isoUtc b) : a = b := by
  have parts : ∀ instant < calendarEnd, ∃ tail,
      readDate (isoUtc instant) = some (Date.after (instant / dayLength), 'T' :: tail) ∧
        readClock tail = some (instant % dayLength / 1000000,
          (if instant % dayLength % 1000000 = 0 then []
            else '.' :: pad 10 6 (instant % dayLength % 1000000)) ++ "+00:00".toList) := by
    intro instant inside
    unfold calendarEnd dayLength at inside
    refine ⟨_, ?_, readClock_clock (by unfold dayLength; omega) _⟩
    unfold isoUtc
    simp only [List.append_assoc]
    exact readDate_iso (Date.valid_after _).1 (Date.year_after (by unfold dayLength; omega)) _
  obtain ⟨tail, date, clock⟩ := parts a inside
  obtain ⟨tail', date', clock'⟩ := parts b inside'
  rw [same, date'] at date
  obtain ⟨days, tails⟩ := Prod.ext_iff.mp (Option.some.inj date)
  cases tails
  rw [clock'] at clock
  obtain ⟨seconds, fractions⟩ := Prod.ext_iff.mp (Option.some.inj clock)
  have sameDay := congrArg Date.ordinal days
  rw [(Date.valid_after _).2, (Date.valid_after _).2] at sameDay
  have micros : b % dayLength % 1000000 = a % dayLength % 1000000 := by
    dsimp only at fractions
    split at fractions <;> split at fractions
    · omega
    · exact absurd (List.cons.inj fractions).1 (by decide)
    · exact absurd (List.cons.inj fractions).1 (by decide)
    · have below : ∀ n, n % 1000000 < 10 ^ 6 := fun n => Nat.mod_lt n (by decide)
      have read : number 6 (pad 10 6 _ ++ _) = number 6 (pad 10 6 _ ++ _) :=
        congrArg (number 6) (List.cons.inj fractions).2
      rw [number_pad (below _), number_pad (below _)] at read
      exact congrArg Prod.fst (Option.some.inj read)
  unfold dayLength at sameDay seconds micros
  dsimp only at seconds
  omega

theorem readAhead_of_seconds {seconds : ℕ} (below : seconds < 86400) (rest : List Char) :
    readAhead (clock seconds ++ rest) =
      if rest = [] then some (seconds * 1000000)
      else (mark '.' rest).bind fun text => (number 6 text).bind fun micros =>
        if micros.2 = [] then some (seconds * 1000000 + micros.1) else none := by
  unfold readAhead
  rw [clock_append, readMinutes_text below, ← clock_append, readClock_clock below]
  cases rest with
  | nil => rfl
  | cons c rest =>
    simp only [Option.bind_eq_bind, Option.bind_some, reduceCtorEq, if_false]
    cases mark '.' (c :: rest) <;> rfl

theorem readAhead_text {n : ℕ} (near : n < dayLength) :
    readAhead (if n % 1000000 ≠ 0 then clock (n / 1000000) ++ '.' :: pad 10 6 (n % 1000000)
      else if n / 1000000 % 60 ≠ 0 then clock (n / 1000000)
      else pad 10 2 (n / 1000000 / 3600) ++ ':' :: pad 10 2 (n / 1000000 / 60 % 60)) = some n := by
  have below : n / 1000000 < 86400 := by
    unfold dayLength at near
    omega
  split_ifs with micros seconds
  · have read := @number_pad 6 (n % 1000000) (by omega) []
    rw [List.append_nil] at read
    rw [readAhead_of_seconds below, if_neg (by nofun), mark_cons, Option.bind_some, read,
      Option.bind_some, if_pos rfl]
    exact congrArg some (by dsimp only; omega)
  · have read := readAhead_of_seconds below []
    rw [List.append_nil, if_pos rfl] at read
    rw [read]
    exact congrArg some (by omega)
  · have read := readMinutes_text below []
    rw [List.append_nil] at read
    unfold readAhead
    rw [read]
    exact congrArg some (by omega)

theorem readZone_zoneText {offset : Option ℤ} (near : ∀ o ∈ offset, o.natAbs < dayLength) :
    readZone (zoneText offset) = some offset := by
  cases offset with
  | none => rfl
  | some o =>
    have read := readAhead_text (near o rfl)
    unfold zoneText
    dsimp only
    by_cases behind : o < 0
    · rw [if_pos behind]
      unfold readZone
      dsimp only
      rw [if_neg (by decide), if_pos rfl, read]
      exact congrArg (fun z => some (some z)) (by omega)
    · rw [if_neg behind]
      unfold readZone
      dsimp only
      rw [if_pos rfl, read]
      exact congrArg (fun z => some (some z)) (by omega)

theorem readIso_isoMillis {d : DateTime} (whole : d.time % 1000 = 0) :
    readIso (isoMillis d) = some d := by
  have day := d.day
  unfold dayLength at day
  unfold readIso isoMillis
  rw [readDate_iso d.valid d.inside]
  simp only [Option.bind_eq_bind, Option.bind_some, mark_cons]
  rw [readClock_clock (by omega)]
  simp only [Option.bind_some, mark_cons]
  rw [number_pad (by omega)]
  simp only [Option.bind_some]
  rw [readZone_zoneText d.near]
  simp only [Option.bind_some]
  have time : d.time / 1000000 * 1000000 + d.time % 1000000 / 1000 * 1000 = d.time := by omega
  unfold ofParts
  rw [time, dif_pos ⟨d.valid, d.inside, d.day, d.near⟩]

end TradeResearch.Iso
