import TradeResearch.Webhooks.Gateway

/-!
# Texts that can be stored

What the texts of an alert, of a refusal and of a signal are made of. A plain text has no surrogate
and no NUL; what Python writes of a value is plain, and so is what is quoted.

* `parseAlert_error`: an alert is refused with a plain reason, unless its time cannot be converted.
* `metaOf_standard`: what a standard payload leaves in a signal is standard.
-/

namespace TradeResearch.Webhooks

open Encoding

structure Runtime.Lawful (py : Runtime) : Prop where
  repr_plain : ∀ s, isPlain (py.repr s) = true
  str_plain : ∀ v, (∀ s, v ≠ .str s) → isPlain (py.str v) = true
  decimal_plain : ∀ s value finite, py.decimal s = some (value, finite) → isPlain value = true
  sha256_plain : ∀ s, isPlain (py.sha256 s) = true
  sha256_length : ∀ s, (py.sha256 s).length = 64

@[simp] theorem isPlain_append {s t : Str} : isPlain (s ++ t) = (isPlain s && isPlain t) :=
  List.all_append

theorem isPlain_of_subset {s t : Str} (plain : isPlain t = true) (sub : s ⊆ t) :
    isPlain s = true :=
  List.all_eq_true.mpr fun c mem => List.all_eq_true.mp plain c (sub mem)

theorem isPlain_take {s : Str} {n : ℕ} (plain : isPlain s = true) : isPlain (s.take n) = true :=
  isPlain_of_subset plain (List.take_subset n s)

theorem strip_subset (s : Str) : strip s ⊆ s := (trim_inside _ s).subset

theorem isPlain_strip {s : Str} (plain : isPlain s = true) : isPlain (strip s) = true :=
  isPlain_of_subset plain (strip_subset s)

theorem isPlain_ofChars {s : List Char} (some_ : ∀ c ∈ s, 0 < c.toNat) :
    isPlain (ofChars s) = true := by
  unfold isPlain ofChars
  rw [List.all_map, List.all_eq_true]
  intro c mem
  simp only [Function.comp_apply, ofChar_plain, Bool.not_false, Bool.true_and, decide_eq_true_eq]
  intro zero
  have val := val_ofChar c
  rw [zero] at val
  exact absurd val (some_ c mem).ne

theorem isPlain_pad {base width n : ℕ} (some_ : 0 < base) (few : base ≤ 16) :
    isPlain (ofChars (pad base width n)) = true := by
  have digits : ∀ d < 16, 0 < (Nat.digitChar d).toNat := by
    decide
  refine isPlain_ofChars fun c mem => ?_
  induction width generalizing n with
  | zero => cases mem
  | succ width ih =>
    rcases List.mem_append.mp mem with front | last
    · exact ih front
    · rw [List.mem_singleton.mp last]
      exact digits _ ((Nat.mod_lt n some_).trans_le few)

theorem isPlain_intText (i : ℤ) : isPlain (intText i) = true := by
  have digits : ∀ n : ℕ, ∀ c ∈ n.repr.toList, 0 < c.toNat := fun n c mem => by
    rw [Nat.toList_repr] at mem
    have digit := Nat.isDigit_of_mem_toDigits (by decide) (by decide) mem
    simp only [Char.isDigit, Bool.and_eq_true, decide_eq_true_eq] at digit
    exact Nat.lt_of_lt_of_le (by decide) digit.1
  refine isPlain_ofChars fun c mem => ?_
  rw [Int.toString_eq_repr, Int.repr_eq_if] at mem
  split_ifs at mem with sign
  · exact digits _ c mem
  · rw [String.toList_append] at mem
    rcases List.mem_append.mp mem with minus | digit
    · rw [List.mem_singleton.mp minus]
      decide
    · exact digits _ c digit

def Gentle (e : Raised) : Prop := ∃ reason, e = .payload reason ∧ isPlain reason = true

theorem Gentle.of_refuse {α : Type} {reason : Str} {e : Raised} (plain : isPlain reason = true)
    (refused : (refuse reason : Except Raised α) = .error e) : Gentle e := by
  cases refused
  exact ⟨reason, rfl, plain⟩

theorem textOf_error {raw : Json} {name : String} {required : Bool} {e : Raised}
    (plain : isPlain (lit name) = true) (error : textOf raw name required = .error e) :
    Gentle e := by
  have words : ∀ rest, isPlain (lit rest) = true → isPlain (lit name ++ lit rest) = true :=
    fun rest also => by rw [isPlain_append, plain, also]; rfl
  unfold textOf at error
  split at error
  · split_ifs at error
    exact .of_refuse (words _ (by decide)) error
  · split_ifs at error
    exact .of_refuse (words _ (by decide)) error
  · split_ifs at error
    exact .of_refuse (words _ (by decide)) error
  · exact .of_refuse (words _ (by decide)) error

theorem decimalOf_error {raw : Json} {e : Raised} (error : decimalOf py raw "price" = .error e) :
    Gentle e := by
  unfold decimalOf at error
  split at error
  · cases error
  · cases error
  · split at error
    · exact .of_refuse (by decide) error
    · exact .of_refuse (by decide) error
    · cases error

theorem parseAction_error (law : py.Lawful) {raw : Json} {e : Raised}
    (error : parseAction py raw = .error e) : Gentle e := by
  unfold parseAction at error
  split at error
  · split_ifs at error
    · exact .of_refuse (by decide) error
    · split at error
      · cases error
      · refine .of_refuse ?_ error
        rw [isPlain_append, isPlain_append, law.repr_plain]
        decide
  · exact .of_refuse (by decide) error

def FloatConvertible (py : Runtime) (f : Float64) : Prop :=
  (py.fromTimestamp (epochSeconds f)).isSome

def IntConvertible (py : Runtime) (i : ℤ) : Prop := ∃ f, py.float i = some f ∧ FloatConvertible py f

def Convertible (py : Runtime) : Json → Prop
  | .bool b => IntConvertible py b.toInt
  | .int i => IntConvertible py i
  | .float f => FloatConvertible py f
  | .str raw => raw ≠ [] → py.isDigit (strip raw) →
    ∃ i, py.int (strip raw) = some i ∧ IntConvertible py i
  | .null | .arr _ | .obj _ => True

def Harsh (e : Raised) : Prop := e = .value ∨ e = .overflow

theorem floatTime_error {f : Float64} :
    (∃ e, floatTime py f = .error e ∧ Harsh e) ↔ ¬FloatConvertible py f := by
  unfold floatTime FloatConvertible
  cases py.fromTimestamp (epochSeconds f) with
  | none => simp [Harsh]
  | some t => simp

theorem intTime_error {i : ℤ} :
    (∃ e, intTime py i = .error e ∧ Harsh e) ↔ ¬IntConvertible py i := by
  unfold intTime IntConvertible
  cases py.float i with
  | none => simp [Harsh]
  | some f => simpa using floatTime_error

theorem floatTime_harsh {f : Float64} {e : Raised} (error : floatTime py f = .error e) :
    Harsh e := by
  unfold floatTime at error
  split at error
  · cases error
  · cases error
    exact .inl rfl

theorem intTime_harsh {i : ℤ} {e : Raised} (error : intTime py i = .error e) : Harsh e := by
  unfold intTime at error
  split at error
  · exact floatTime_harsh error
  · cases error
    exact .inr rfl

theorem parseTimestamp_harsh {raw : Json} (not : ¬Convertible py raw) :
    ∃ e, parseTimestamp py raw = .error e ∧ Harsh e := by
  cases raw with
  | null | arr _ | obj _ => exact absurd True.intro not
  | bool b | int i => exact intTime_error.mpr not
  | float f => exact floatTime_error.mpr not
  | str raw =>
    simp only [Convertible, Classical.not_imp] at not
    obtain ⟨given, digits, unread⟩ := not
    simp only [parseTimestamp, if_neg given, digits, if_true]
    cases read : py.int (strip raw) with
    | none => exact ⟨.value, rfl, .inl rfl⟩
    | some i => exact intTime_error.mpr fun convertible => unread ⟨i, read, convertible⟩

theorem parseTimestamp_error (law : py.Lawful) {raw : Json} {e : Raised}
    (convertible : Convertible py raw) (error : parseTimestamp py raw = .error e) : Gentle e := by
  have no_int : ∀ {i}, IntConvertible py i → intTime py i ≠ .error e := fun converts error =>
    intTime_error.mp ⟨e, error, intTime_harsh error⟩ converts
  cases raw with
  | null | arr _ | obj _ => exact .of_refuse (by decide) error
  | bool b | int i => exact absurd error (no_int convertible)
  | float f => exact absurd convertible (floatTime_error.mp ⟨e, error, floatTime_harsh error⟩)
  | str raw =>
    unfold parseTimestamp at error
    by_cases given : raw = []
    · simp only [if_pos given] at error
      exact .of_refuse (by decide) error
    · simp only [if_neg given] at error
      by_cases digits : py.isDigit (strip raw) = true
      · obtain ⟨i, read, converts⟩ := convertible given digits
        simp only [digits, if_true, read] at error
        exact absurd error (no_int converts)
      · simp only [if_neg digits] at error
        split at error
        · cases error
        · cases error
        · refine .of_refuse ?_ error
          rw [isPlain_append, isPlain_append, law.repr_plain]
          decide

def IsTicker : Json → Prop
  | .str s => s ≠ [] ∧ (strip s).length ≤ maxField
  | _ => False

def IsAction (py : Runtime) : Json → Prop
  | .str s => strip s ≠ [] ∧ ∃ action ∈ Action.all, lit action.word = py.upper (strip s)
  | _ => False

theorem textOf_isTicker {raw : Json} :
    IsTicker raw ↔ ∃ ticker, textOf raw "ticker" true = .ok ticker := by
  unfold IsTicker textOf
  cases raw with
  | str s =>
    cases s with
    | nil => simp [refuse]
    | cons c s =>
      by_cases long : maxField < (strip (c :: s)).length
      · simp [refuse, long]
      · simp [if_neg long, not_lt.mp long]
  | _ => simp [refuse]

theorem parseAction_isAction {raw : Json} :
    IsAction py raw ↔ ∃ action, parseAction py raw = .ok action := by
  unfold IsAction parseAction
  cases raw with
  | str s =>
    by_cases empty : strip s = []
    · simp [empty, refuse]
    · simp only [if_neg empty]
      cases found : Action.all.find? fun a => lit a.word = py.upper (strip s) with
      | none =>
        have none := List.find?_eq_none.mp found
        simp only [decide_eq_true_eq] at none
        simp only [refuse, reduceCtorEq, exists_false, iff_false]
        rintro ⟨-, action, mem, same⟩
        exact none action mem same
      | some action =>
        have same := List.find?_some found
        simp only [decide_eq_true_eq] at same
        simp only [Except.ok.injEq, exists_eq', iff_true]
        exact ⟨empty, action, List.mem_of_find?_eq_some found, same⟩
  | _ => simp [refuse]

def tickerOf (payload : Fields) : Json := (payload.get "ticker").or (payload.get "symbol")

def actionOf (payload : Fields) : Json := (payload.get "action").or (payload.get "side")

def timeOf (payload : Fields) : Json := (payload.get "time").or (payload.get "timestamp")

def Timed (py : Runtime) (payload : Fields) : Prop :=
  IsTicker (tickerOf payload) → IsAction py (actionOf payload) → Convertible py (timeOf payload)

theorem bind_error {α β : Type} {x : Except Raised α} {f : α → Except Raised β} {e : Raised}
    (error : x >>= f = .error e) : x = .error e ∨ ∃ a, x = .ok a ∧ f a = .error e := by
  cases x with
  | error e' =>
    cases error
    exact .inl rfl
  | ok a => exact .inr ⟨a, rfl, error⟩

theorem parseAlert_error (law : py.Lawful) {payload : Fields} (timed : Timed py payload)
    {e : Raised} (error : parseAlert py payload = .error e) : Gentle e := by
  rcases bind_error error with first | ⟨ticker, isTicker, error⟩
  · exact textOf_error (by decide) first
  rcases bind_error error with second | ⟨action, isAction, error⟩
  · exact parseAction_error law second
  rcases bind_error error with third | ⟨time, -, error⟩
  · exact parseTimestamp_error law (timed (textOf_isTicker.mpr ⟨ticker, isTicker⟩)
      (parseAction_isAction.mpr ⟨action, isAction⟩)) third
  rcases bind_error error with exchange | ⟨_, -, error⟩
  · exact textOf_error (by decide) exchange
  rcases bind_error error with timeframe | ⟨_, -, error⟩
  · exact textOf_error (by decide) timeframe
  rcases bind_error error with price | ⟨_, -, error⟩
  · exact decimalOf_error price
  rcases bind_error error with strategy | ⟨_, -, error⟩
  · exact textOf_error (by decide) strategy
  rcases bind_error error with version | ⟨_, -, error⟩
  · exact textOf_error (by decide) version
  rcases bind_error error with id | ⟨_, -, error⟩
  · exact textOf_error (by decide) id
  · cases error

theorem parseAlert_harsh {payload : Fields} (untimed : ¬Timed py payload) :
    ∃ e, parseAlert py payload = .error e ∧ Harsh e := by
  unfold Timed at untimed
  simp only [Classical.not_imp] at untimed
  obtain ⟨isTicker, isAction, not⟩ := untimed
  obtain ⟨ticker, first⟩ := textOf_isTicker.mp isTicker
  obtain ⟨action, second⟩ := parseAction_isAction.mp isAction
  obtain ⟨e, third, harsh⟩ := parseTimestamp_harsh not
  refine ⟨e, ?_, harsh⟩
  unfold tickerOf at first
  unfold actionOf at second
  unfold timeOf at third
  unfold parseAlert
  rw [first, second, third]
  rfl

theorem fieldsAreStandard_iff {fields : Fields} :
    fieldsAreStandard fields = true ↔
      ∀ field ∈ fields, isPlain field.1 = true ∧ field.2.isStandard = true := by
  induction fields with
  | nil => simp [fieldsAreStandard]
  | cons field rest ih =>
    simp only [fieldsAreStandard, Bool.and_eq_true, ih, List.forall_mem_cons]

theorem Json.or_cases (a b : Json) : a.or b = a ∨ a.or b = b := by
  unfold Json.or
  split_ifs
  · exact .inl rfl
  · exact .inr rfl

theorem isStandard_get {payload : Fields} (standard : fieldsAreStandard payload = true)
    (key : String) : (payload.get key).isStandard = true := by
  unfold Fields.get
  cases found : payload.lookup (lit key) with
  | none => rfl
  | some v =>
    obtain ⟨before, after, rfl, -⟩ := List.lookup_eq_some_iff.mp found
    exact (fieldsAreStandard_iff.mp standard _
      (List.mem_append_right _ (List.mem_cons_self ..))).2

theorem isStandard_or {a b : Json} (first : a.isStandard = true) (second : b.isStandard = true) :
    (a.or b).isStandard = true := by
  rcases Json.or_cases a b with same | same
  · rwa [same]
  · rwa [same]

theorem isPlain_text (law : py.Lawful) {v : Json} (standard : v.isStandard = true) :
    isPlain (v.text py) = true := by
  cases v with
  | str s => exact standard
  | null | bool _ | int _ | float _ | arr _ | obj _ =>
    exact law.str_plain _ fun _ same => nomatch same

theorem textOf_plain {raw : Json} {name : String} {required : Bool} {text : Option Str}
    (standard : raw.isStandard = true) (ok : textOf raw name required = .ok text) :
    ∀ s ∈ text, isPlain s = true := by
  unfold textOf at ok
  split at ok
  · split_ifs at ok
    · cases ok
    · cases ok
      exact fun _ none => nomatch none
  · split_ifs at ok
    · cases ok
    · cases ok
      exact fun _ none => nomatch none
  · split_ifs at ok
    · cases ok
    · cases ok
      rintro _ ⟨⟩
      exact isPlain_strip standard
  · cases ok

theorem decimalOf_plain (law : py.Lawful) {raw : Json} {name : String} {text : Option Str}
    (ok : decimalOf py raw name = .ok text) : ∀ s ∈ text, isPlain s = true := by
  unfold decimalOf at ok
  split at ok
  · cases ok
    exact fun _ none => nomatch none
  · cases ok
    exact fun _ none => nomatch none
  · split at ok
    · cases ok
    · cases ok
    · rename_i value found
      cases ok
      rintro _ ⟨⟩
      exact law.decimal_plain _ _ _ found

def PlainTexts (d : List (Str × Str)) : Prop :=
  ∀ entry ∈ d, isPlain entry.1 = true ∧ isPlain entry.2 = true

theorem PlainTexts.assign {d : List (Str × Str)} {key value : Str} (plain : PlainTexts d)
    (keyed : isPlain key = true) (valued : isPlain value = true) :
    PlainTexts (assign d key value) := by
  intro entry mem
  unfold Webhooks.assign at mem
  split_ifs at mem
  · obtain ⟨old, here, rfl⟩ := List.mem_map.mp mem
    split_ifs
    · exact ⟨keyed, valued⟩
    · exact plain old here
  · rcases List.mem_append.mp mem with old | last
    · exact plain entry old
    · rw [List.mem_singleton.mp last]
      exact ⟨keyed, valued⟩

theorem advisoryOf_plain (law : py.Lawful) {payload : Fields}
    (standard : fieldsAreStandard payload = true) : PlainTexts (advisoryOf py payload) := by
  intro entry mem
  obtain ⟨key, here, is⟩ := List.mem_filterMap.mp mem
  have keyed : ∀ key ∈ advisoryKeys, isPlain (lit key) = true := by decide
  split at is
  · cases is
  · cases is
  · cases is
    exact ⟨keyed key here, isPlain_take (isPlain_text law (isStandard_get standard key))⟩

theorem extraOf_plain (law : py.Lawful) {payload : Fields}
    (standard : fieldsAreStandard payload = true) : PlainTexts (extraOf py payload) := by
  have kept : ∀ field ∈ payload.filter fun field =>
      !(known.map lit).contains field.1 && !isSecretKey py field.1,
      isPlain field.1 = true ∧ field.2.isStandard = true := fun field mem =>
    fieldsAreStandard_iff.mp standard field (List.mem_of_mem_filter mem)
  refine List.foldlRecOn (motive := PlainTexts) _ _ (fun _ none => nomatch none) ?_
  intro d plain field mem
  obtain ⟨keyed, valued⟩ := kept field mem
  exact plain.assign (isPlain_take keyed) (isPlain_take (isPlain_text law valued))

structure Alert.Plain (a : Alert) : Prop where
  ticker : isPlain a.ticker = true
  exchange : ∀ s ∈ a.exchange, isPlain s = true
  timeframe : ∀ s ∈ a.timeframe, isPlain s = true
  price : ∀ s ∈ a.price, isPlain s = true
  strategy : ∀ s ∈ a.strategy, isPlain s = true
  advisory : PlainTexts a.advisory
  extra : PlainTexts a.extra

theorem bind_ok {α β : Type} {x : Except Raised α} {f : α → Except Raised β} {b : β}
    (ok : x >>= f = .ok b) : ∃ a, x = .ok a ∧ f a = .ok b := by
  cases x with
  | error e => cases ok
  | ok a => exact ⟨a, rfl, ok⟩

theorem parseAlert_plain (law : py.Lawful) {payload : Fields} {a : Alert}
    (standard : fieldsAreStandard payload = true) (ok : parseAlert py payload = .ok a) :
    a.Plain := by
  have get := isStandard_get standard
  obtain ⟨ticker, isTicker, ok⟩ := bind_ok ok
  obtain ⟨action, -, ok⟩ := bind_ok ok
  obtain ⟨time, -, ok⟩ := bind_ok ok
  obtain ⟨exchange, isExchange, ok⟩ := bind_ok ok
  obtain ⟨timeframe, isTimeframe, ok⟩ := bind_ok ok
  obtain ⟨price, isPrice, ok⟩ := bind_ok ok
  obtain ⟨strategy, isStrategy, ok⟩ := bind_ok ok
  obtain ⟨version, -, ok⟩ := bind_ok ok
  obtain ⟨id, -, ok⟩ := bind_ok ok
  cases ok
  refine ⟨?_, textOf_plain (get _) isExchange,
    textOf_plain (isStandard_or (get _) (get _)) isTimeframe, decimalOf_plain law isPrice,
    textOf_plain (get _) isStrategy, advisoryOf_plain law standard, extraOf_plain law standard⟩
  cases ticker with
  | none => rfl
  | some ticker => exact textOf_plain (isStandard_or (get _) (get _)) isTicker ticker rfl

theorem ofText?_standard {text : Option Str} (plain : ∀ s ∈ text, isPlain s = true) :
    (Json.ofText? text).isStandard = true := by
  cases text with
  | none => rfl
  | some s => exact plain s rfl

theorem ofTexts_standard {d : List (Str × Str)} (plain : PlainTexts d) :
    (Json.ofTexts d).isStandard = true := by
  refine fieldsAreStandard_iff.mpr fun field mem => ?_
  obtain ⟨entry, here, rfl⟩ := List.mem_map.mp mem
  exact plain entry here

def Routing.Plain : Routing → Prop
  | .route botId accountId riskAmount _ =>
    isPlain botId = true ∧ isPlain accountId = true ∧ ∀ risk ∈ riskAmount, isPlain risk = true
  | .noRoute reason => isPlain reason = true

theorem firstOf_plain {d : List (Str × Str)} (plain : PlainTexts d) {keys : List String} :
    ∀ s ∈ firstOf d keys, isPlain s = true := by
  intro s found
  obtain ⟨key, -, here⟩ := List.exists_of_findSome?_eq_some found
  obtain ⟨looked, -⟩ := Option.filter_eq_some_iff.mp here
  obtain ⟨before, after, rfl, -⟩ := List.lookup_eq_some_iff.mp looked
  exact (plain _ (List.mem_append_right _ (List.mem_cons_self ..))).2

def StandardEntries (entries : List (String × Json)) : Prop :=
  ∀ entry ∈ entries, isPlain (lit entry.1) = true ∧ entry.2.isStandard = true

theorem StandardEntries.append {l₁ l₂ : List (String × Json)} (first : StandardEntries l₁)
    (second : StandardEntries l₂) : StandardEntries (l₁ ++ l₂) := fun entry mem =>
  (List.mem_append.mp mem).elim (first entry) (second entry)

theorem bracketMeta_standard {a : Alert} (plain : a.Plain) {uses : Bool} :
    StandardEntries (bracketMeta a uses) := by
  have target : (Json.ofText? (firstOf a.advisory ["take_profit", "tp"])).isStandard = true :=
    ofText?_standard (firstOf_plain plain.advisory)
  unfold bracketMeta StandardEntries
  cases uses with
  | false =>
    simp only [Bool.not_false, if_true]
    decide
  | true =>
    cases found : firstOf a.advisory ["stop_loss", "sl"] with
    | none =>
      simp only [Bool.not_true, Bool.false_eq_true, if_false]
      decide
    | some stop =>
      have stopped := firstOf_plain plain.advisory stop found
      simp only [Bool.not_true, Bool.false_eq_true, if_false, List.forall_mem_cons]
      exact ⟨⟨by decide, by decide⟩, ⟨by decide, stopped⟩, ⟨by decide, target⟩,
        ⟨by decide, by decide⟩, fun _ none => nomatch none⟩

theorem routingMeta_standard {a : Alert} (plain : a.Plain) {routing : Routing}
    (routed : routing.Plain) : StandardEntries (routingMeta a routing) := by
  cases routing with
  | route botId accountId riskAmount uses =>
    obtain ⟨bot, account, risk⟩ := routed
    refine StandardEntries.append ?_ (bracketMeta_standard plain)
    unfold StandardEntries
    simp only [List.forall_mem_cons]
    exact ⟨⟨by decide, account⟩, ⟨by decide, bot⟩, ⟨by decide, ofText?_standard risk⟩,
      fun _ none => nomatch none⟩
  | noRoute reason =>
    unfold StandardEntries routingMeta
    simp only [List.forall_mem_cons]
    exact ⟨⟨by decide, routed⟩, fun _ none => nomatch none⟩

theorem word_plain (action : Action) : isPlain (lit action.word) = true := by
  cases action <;> decide

theorem metaOf_standard {a : Alert} (plain : a.Plain) {symbol : SymbolRow}
    (coded : isPlain symbol.code = true) {correlationId : Option Str}
    (correlated : ∀ s ∈ correlationId, isPlain s = true) {routing : Routing}
    (routed : routing.Plain) : (metaOf a symbol correlationId routing).isStandard = true := by
  have entries : StandardEntries (metaEntries a symbol correlationId routing) := by
    refine StandardEntries.append ?_ (routingMeta_standard plain routed)
    unfold StandardEntries
    simp only [List.forall_mem_cons]
    exact ⟨⟨by decide, plain.ticker⟩, ⟨by decide, ofText?_standard plain.exchange⟩,
      ⟨by decide, ofText?_standard plain.timeframe⟩, ⟨by decide, word_plain a.action⟩,
      ⟨by decide, ofText?_standard plain.price⟩, ⟨by decide, ofTexts_standard plain.advisory⟩,
      ⟨by decide, ofTexts_standard plain.extra⟩, ⟨by decide, ofText?_standard correlated⟩,
      ⟨by decide, coded⟩, ⟨by decide, ofText?_standard plain.strategy⟩,
      fun _ none => nomatch none⟩
  refine fieldsAreStandard_iff.mpr fun field mem => ?_
  obtain ⟨entry, here, rfl⟩ := List.mem_map.mp mem
  exact entries entry here

end TradeResearch.Webhooks
