import TradeResearch.Lib.Decimal
import TradeResearch.Lib.Fallible
import TradeResearch.Risk.Config

/-!
# Limits as they are stored

`to_json`, `from_json` and `resolve` of `backend/app/risk/config.py` over the values a stored layer
can hold. A figure is stored as a text; it is read back as a figure where its name is on
`DECIMAL_FIELDS`, and stays a text where it is not.

* `Fits`, `Params.Typed`: values of the kinds the fields of `RiskLimits` are declared as.
* `resolve_figures`: on layers that hold what their fields are declared to, `resolve` is the one of
  `Risk/Config.lean`.
-/

namespace TradeResearch.Risk.Stored

inductive Value where
  | bool (b : Bool)
  | int (i : ℤ)
  | float (q : ℚ)
  | decimal (d : Decimal)
  | text (s : String)
  deriving DecidableEq

inductive Kind where
  | bool
  | int
  | float
  | decimal
  | text
  deriving DecidableEq

namespace Value

def kind : Value → Kind
  | bool _ => .bool
  | int _ => .int
  | float _ => .float
  | decimal _ => .decimal
  | text _ => .text

def number? : Value → Option ℚ
  | bool b => some (if b then 1 else 0)
  | int i => some i
  | float q => some q
  | decimal d => some d.value
  | text _ => none

def text? : Value → Option String
  | text s => some s
  | _ => none

def figure? : Value → Option ℚ
  | int i => some i
  | float q => some q
  | decimal d => some d.value
  | _ => none

def flag? : Value → Option Bool
  | bool b => some b
  | _ => none

def truth : Value → Bool
  | bool b => b
  | int i => Decidable.decide (i ≠ 0)
  | float q => Decidable.decide (q ≠ 0)
  | decimal d => Decidable.decide (d.coefficient ≠ 0)
  | text s => Decidable.decide (s ≠ "")

def same (a b : Value) : Bool := Decidable.decide (a.number? = b.number? ∧ a.text? = b.text?)

end Value

inductive Raised where
  | typeError
  | notANumber (field : LimitField) (value : Value)
  | invalid (problem : ConfigurationInvalid)

def Value.less (a b : Value) : Except Raised Bool :=
  match a.number?, b.number? with
  | some x, some y => .ok (Decidable.decide (x < y))
  | none, none => .ok (Decidable.decide (a.text?.getD "" < b.text?.getD ""))
  | _, _ => .error .typeError

structure Params where
  value : LimitField → Option Value
  unknown : Finset String := ∅

structure Layer where
  scope : Scope
  scopeRef : Option String
  params : Params
  version : ℤ := 1
  name : String := ""

def Layer.source (l : Layer) : String :=
  let ref := (truthy l.scopeRef).getD "*"
  s!"{l.scope.name}:{ref}"

def kindOf : LimitField → Kind
  | .cap .maxConsecutiveLosses | .cap .maxOpenPositions | .cap .maxTradesPerDay
  | .cap .maxTradesPerHour | .cap .maxTradesPerMinute | .floor .cooldownSeconds => .int
  | .cap .marketDataMaxAgeSeconds | .cap .maxSignalAgeSeconds => .float
  | .flag _ => .bool
  | _ => .decimal

def decimalField : LimitField → Bool
  | .cap .maxRiskPerTrade | .cap .maxDailyLoss | .cap .maxDrawdownPct
  | .cap .maxExposurePerCurrency | .cap .maxLeverage | .cap .maxPositionSize
  | .cap .maxConcentrationPct | .cap .maxMarginUtilisationPct | .cap .maxSpreadPoints
  | .floor .minRiskReward => true
  | _ => false

def fields : List LimitField :=
  numericFields.map Prod.fst ++
    [.flag .onePositionPerSymbol, .flag .requireStopLoss, .flag .requireMarketOpen]

theorem mem_fields (field : LimitField) : field ∈ fields := by
  rcases field with c | f | g
  · cases c <;> decide
  · cases f <;> decide
  · cases g <;> decide

def failure? {α : Type} : Except Raised α → Option Raised
  | .error raised => some raised
  | .ok _ => none

def each (read : LimitField → Except Raised (Option Value)) :
    Except Raised (LimitField → Option Value) :=
  match fields.findSome? fun field => failure? (read field) with
  | some raised => .error raised
  | none => .ok fun field => (read field).toOption.join

def Value.stored : Value → Value
  | decimal d => text (String.ofList d.plain)
  | value => value

def toJson (params : Params) : Params :=
  { params with value := fun field => (params.value field).map Value.stored }

section Read

variable (repr : ℚ → String)

def Value.str : Value → String
  | bool b => if b then "True" else "False"
  | int i => toString i
  | float q => repr q
  | decimal d => d.text
  | text s => s

def restored (field : LimitField) : Option Value → Except Raised (Option Value)
  | none => .ok none
  | some value =>
    if decimalField field = true ∧ value.kind ≠ .decimal then
      match Decimal.ofText (value.str repr).toList with
      | some d => .ok (some (.decimal d))
      | none => .error (.notANumber field value)
    else .ok (some value)

def fromJson (params : Params) : Except Raised Params := do
  let value ← each fun field => restored repr field (params.value field)
  pure { params with value }

def least (a b : Value) : Except Raised Value := do
  if ← b.less a then pure b else pure a

def greatest (a b : Value) : Except Raised Value := do
  if ← a.less b then pure b else pure a

def combine (field : LimitField) (current : Option Value) (value : Value) : Except Raised Value :=
  match field, current with
  | .flag _, current => .ok (.bool (current.any Value.truth || value.truth))
  | _, none => .ok value
  | .cap _, some current => least current value
  | .floor _, some current => greatest current value

def combined (field : LimitField) (current : Option Value) :
    Option Value → Except Raised (Option Value)
  | none => .ok current
  | some value => (combine field current value).map some

structure Merge where
  effective : LimitField → Option Value
  sources : LimitField → Option String
  unknown : Finset String

def attributed (source : String) (current value combined : Option Value)
    (before : Option String) : Option String :=
  match value, current, combined with
  | none, _, _ => before
  | _, some current, some combined => if combined.same current then before else some source
  | _, _, _ => some source

def Merge.add (m : Merge) (layer : Layer) : Except Raised Merge := do
  let stated ← fromJson repr layer.params
  let effective ← each fun field => combined field (m.effective field) (stated.value field)
  pure
    { effective
      sources := fun field =>
        attributed layer.source (m.effective field) (stated.value field) (effective field)
          (m.sources field)
      unknown := m.unknown ∪ stated.unknown }

def limitsOf (effective : LimitField → Option Value) : LimitField → Option Value
  | .flag g => some ((effective (.flag g)).getD (.bool (Flag.default g)))
  | field => effective field

def numbers (limits : LimitField → Option Value) : RiskLimits where
  cap c := (limits (.cap c)).bind Value.figure?
  floor f := (limits (.floor f)).bind Value.figure?
  flag g := (limits (.flag g)).any Value.truth

def checked (field : LimitField) : Bool :=
  positiveOnly field || percentage field || nonNegative field

def checkValid (limits : LimitField → Option Value) : Except Raised Unit :=
  if fields.any fun field => checked field && (limits field).any fun v => v.kind = .text then
    .error .typeError
  else if (numbers limits).validate = [] then .ok ()
  else .error (.invalid (.problems (numbers limits).validate))

structure Resolved where
  limits : LimitField → Option Value
  version : ℤ
  sources : LimitField → Option String
  layers : List String

def versionOf (layers : List Layer) : ℤ :=
  let total := (layers.map Layer.version).sum
  if total = 0 then 1 else total

def resolve (layers : List Layer) : Except Raised Resolved := do
  let merged ← layers.foldlM (Merge.add repr) ⟨fun _ => none, fun _ => none, ∅⟩
  if merged.unknown ≠ ∅ then throw (.invalid (.unknownLimits merged.unknown))
  let limits := limitsOf merged.effective
  checkValid limits
  pure
    { limits
      version := versionOf layers
      sources := merged.sources
      layers := layers.map fun layer => s!"{layer.source}@v{layer.version}" }

end Read

theorem each_eq_ok {read : LimitField → Except Raised (Option Value)}
    {values : LimitField → Option Value} :
    each read = .ok values ↔ ∀ field, read field = .ok (values field) := by
  unfold each
  constructor
  · intro ended field
    cases none_ : fields.findSome? fun field => failure? (read field) with
    | some raised =>
      rw [none_] at ended
      cases ended
    | none =>
      rw [none_] at ended
      cases ended
      have went := List.findSome?_eq_none_iff.mp none_ field (mem_fields field)
      cases is : read field with
      | error raised =>
        rw [is] at went
        cases went
      | ok value =>
        dsimp only
        rw [is]
        rfl
  · intro went
    have none_ : (fields.findSome? fun field => failure? (read field)) = none :=
      List.findSome?_eq_none_iff.mpr fun field _ => by rw [went field]; rfl
    rw [none_]
    refine congrArg Except.ok (funext fun field => ?_)
    rw [went field]
    rfl

def Fits (field : LimitField) (value : Option Value) : Prop := ∀ v ∈ value, v.kind = kindOf field

def Params.Typed (p : Params) : Prop := ∀ field, Fits field (p.value field)

def Params.figures (p : Params) : Risk.Params where
  cap c := (p.value (.cap c)).bind Value.figure?
  floor f := (p.value (.floor f)).bind Value.figure?
  flag g := (p.value (.flag g)).bind Value.flag?
  unknown := p.unknown

def Layer.figures (l : Layer) : Risk.Layer :=
  { scope := l.scope, scopeRef := l.scopeRef, params := l.params.figures, version := l.version
    name := l.name }

def Merge.figures (m : Merge) : Risk.Merge where
  effective := Params.figures ⟨m.effective, m.unknown⟩
  sources := m.sources

theorem kindOf_of_decimalField {field : LimitField} (listed : decimalField field = true) :
    kindOf field = .decimal := by
  rcases field with c | f | g
  · cases c <;> first | rfl | cases listed
  · cases f <;> first | rfl | cases listed
  · cases listed

variable {repr : ℚ → String}

theorem restored_of_fits {value : Option Value} (fits : Fits field value) :
    restored repr field value = .ok value := by
  cases value with
  | none => rfl
  | some v =>
    exact if_neg fun both => both.2 ((fits v rfl).trans (kindOf_of_decimalField both.1))

theorem fromJson_of_typed {p : Params} (typed : p.Typed) : fromJson repr p = .ok p := by
  unfold fromJson
  rw [each_eq_ok.mpr fun field => restored_of_fits (typed field)]
  rfl

theorem exists_figure {v : Value} (number : v.kind = .decimal ∨ v.kind = .int ∨ v.kind = .float) :
    ∃ q, v.figure? = some q ∧ v.number? = some q := by
  cases v with
  | bool b => rcases number with is | is | is <;> cases is
  | int i => exact ⟨i, rfl, rfl⟩
  | float q => exact ⟨q, rfl, rfl⟩
  | decimal d => exact ⟨d.value, rfl, rfl⟩
  | text s => rcases number with is | is | is <;> cases is

theorem exists_flag {v : Value} (flag : v.kind = .bool) : ∃ b, v = .bool b := by
  cases v with
  | bool b => exact ⟨b, rfl⟩
  | int i | float q | decimal d | text s => cases flag

theorem kindOf_cap (c : Cap) :
    kindOf (.cap c) = .decimal ∨ kindOf (.cap c) = .int ∨ kindOf (.cap c) = .float := by
  cases c <;> decide

theorem kindOf_floor (f : Floor) :
    kindOf (.floor f) = .decimal ∨ kindOf (.floor f) = .int ∨ kindOf (.floor f) = .float := by
  cases f <;> decide

theorem kindOf_ne_text (field : LimitField) : kindOf field ≠ .text := by
  rcases field with c | f | g
  · cases c <;> decide
  · cases f <;> decide
  · intro is
    cases is

theorem less_of_number {a b : Value} {x y : ℚ} (left : a.number? = some x)
    (right : b.number? = some y) : a.less b = .ok (Decidable.decide (x < y)) := by
  unfold Value.less
  rw [left, right]

theorem least_eq_ok {a b : Value} {x y : ℚ} (left : a.number? = some x)
    (right : b.number? = some y) : least a b = .ok (if y < x then b else a) := by
  unfold least
  rw [less_of_number right left]
  by_cases lower : y < x
  · rw [if_pos lower, decide_eq_true lower]
    rfl
  · rw [if_neg lower, decide_eq_false lower]
    rfl

theorem greatest_eq_ok {a b : Value} {x y : ℚ} (left : a.number? = some x)
    (right : b.number? = some y) : greatest a b = .ok (if x < y then b else a) := by
  unfold greatest
  rw [less_of_number left right]
  by_cases lower : x < y
  · rw [if_pos lower, decide_eq_true lower]
    rfl
  · rw [if_neg lower, decide_eq_false lower]
    rfl

theorem combined_cap (c : Cap) {current value : Option Value} (fits : Fits (.cap c) current)
    (fits' : Fits (.cap c) value) :
    ∃ w, combined (.cap c) current value = .ok w ∧ Fits (.cap c) w ∧
      w.bind Value.figure? = minOpt (current.bind Value.figure?) (value.bind Value.figure?) := by
  cases value with
  | none =>
    refine ⟨current, rfl, fits, ?_⟩
    cases current.bind Value.figure? <;> rfl
  | some v =>
    cases current with
    | none => exact ⟨some v, rfl, fits', rfl⟩
    | some u =>
      have kinds := kindOf_cap c
      obtain ⟨x, isFigure, isNumber⟩ := exists_figure ((fits u rfl).symm ▸ kinds)
      obtain ⟨y, isFigure', isNumber'⟩ := exists_figure ((fits' v rfl).symm ▸ kinds)
      refine ⟨some (if y < x then v else u), ?_, ?_, ?_⟩
      · exact congrArg (Except.map some) (least_eq_ok isNumber isNumber')
      · split_ifs
        · exact fits'
        · exact fits
      · simp only [Option.bind_some, isFigure, isFigure', minOpt]
        split_ifs with lower
        · rw [isFigure', min_eq_right lower.le]
        · rw [isFigure, min_eq_left (not_lt.mp lower)]

theorem combined_floor (f : Floor) {current value : Option Value} (fits : Fits (.floor f) current)
    (fits' : Fits (.floor f) value) :
    ∃ w, combined (.floor f) current value = .ok w ∧ Fits (.floor f) w ∧
      w.bind Value.figure? = maxOpt (current.bind Value.figure?) (value.bind Value.figure?) := by
  cases value with
  | none =>
    refine ⟨current, rfl, fits, ?_⟩
    cases current.bind Value.figure? <;> rfl
  | some v =>
    cases current with
    | none => exact ⟨some v, rfl, fits', rfl⟩
    | some u =>
      have kinds := kindOf_floor f
      obtain ⟨x, isFigure, isNumber⟩ := exists_figure ((fits u rfl).symm ▸ kinds)
      obtain ⟨y, isFigure', isNumber'⟩ := exists_figure ((fits' v rfl).symm ▸ kinds)
      refine ⟨some (if x < y then v else u), ?_, ?_, ?_⟩
      · exact congrArg (Except.map some) (greatest_eq_ok isNumber isNumber')
      · split_ifs
        · exact fits'
        · exact fits
      · simp only [Option.bind_some, isFigure, isFigure', maxOpt]
        split_ifs with higher
        · rw [isFigure', max_eq_right higher.le]
        · rw [isFigure, max_eq_left (not_lt.mp higher)]

theorem combined_flag (g : Flag) {current value : Option Value} (fits : Fits (.flag g) current)
    (fits' : Fits (.flag g) value) :
    ∃ w, combined (.flag g) current value = .ok w ∧ Fits (.flag g) w ∧
      w.bind Value.flag? = orOpt (current.bind Value.flag?) (value.bind Value.flag?) := by
  cases value with
  | none =>
    refine ⟨current, rfl, fits, ?_⟩
    cases current.bind Value.flag? <;> rfl
  | some v =>
    refine ⟨_, rfl, ?_, ?_⟩
    · intro w is
      cases is
      rfl
    · obtain ⟨b, rfl⟩ := exists_flag (fits' v rfl)
      cases current with
      | none => exact congrArg some (Bool.false_or _)
      | some u =>
        obtain ⟨a, rfl⟩ := exists_flag (fits u rfl)
        rfl

theorem attributed_eq {α : Type} [DecidableEq α] {read : Value → Option α}
    (reads : ∀ v, v.kind = kindOf field → read v ≠ none)
    (tells : ∀ a b, a.kind = kindOf field → b.kind = kindOf field →
      (a.same b = true ↔ read a = read b))
    {current value combined : Option Value} (fits : Fits field current) (fits' : Fits field value)
    (fits'' : Fits field combined) (source : String) (before : Option String) :
    attributed source current value combined before =
      Risk.Merge.attributed source (current.bind read) (value.bind read) (combined.bind read)
        before := by
  unfold Risk.Merge.attributed
  cases value with
  | none => rfl
  | some v =>
    rw [Option.bind_some, if_neg (reads v (fits' v rfl))]
    cases current with
    | none => exact (if_pos (Or.inl rfl)).symm
    | some u =>
      have stated := reads u (fits u rfl)
      cases combined with
      | none => exact (if_pos (Or.inr stated.symm)).symm
      | some w =>
        have same := tells w u (fits'' w rfl) (fits u rfl)
        unfold attributed
        simp only [Option.bind_some, or_iff_right stated]
        by_cases is : w.same u = true
        · rw [if_pos is, if_neg (not_not.mpr (same.mp is))]
        · rw [if_neg is, if_pos fun read => is (same.mpr read)]

theorem same_iff_figure {a b : Value}
    (left : a.kind = .decimal ∨ a.kind = .int ∨ a.kind = .float)
    (right : b.kind = .decimal ∨ b.kind = .int ∨ b.kind = .float) :
    a.same b = true ↔ a.figure? = b.figure? := by
  cases a <;> cases b <;>
    simp_all [Value.same, Value.number?, Value.text?, Value.figure?, Value.kind]

theorem same_iff_flag {a b : Value} (left : a.kind = .bool) (right : b.kind = .bool) :
    a.same b = true ↔ a.flag? = b.flag? := by
  obtain ⟨x, rfl⟩ := exists_flag left
  obtain ⟨y, rfl⟩ := exists_flag right
  cases x <;> cases y <;> decide

theorem add_figures {m : Merge} (typed : ∀ field, Fits field (m.effective field)) {layer : Layer}
    (typed' : layer.params.Typed) :
    ∃ m', m.add repr layer = .ok m' ∧ (∀ field, Fits field (m'.effective field)) ∧
      m'.figures = m.figures.add layer.figures := by
  choose cap capped capFits capIs using fun c => combined_cap c (typed (.cap c)) (typed' (.cap c))
  choose floor floored floorFits floorIs using fun f =>
    combined_floor f (typed (.floor f)) (typed' (.floor f))
  choose flag flagged flagFits flagIs using fun g =>
    combined_flag g (typed (.flag g)) (typed' (.flag g))
  let effective (field : LimitField) : Option Value := field.rec cap floor flag
  have all : ∀ field, combined field (m.effective field) (layer.params.value field) =
      .ok (effective field) := by
    rintro (c | f | g)
    · exact capped c
    · exact floored f
    · exact flagged g
  have fits : ∀ field, Fits field (effective field) := by
    rintro (c | f | g)
    · exact capFits c
    · exact floorFits f
    · exact flagFits g
  let sources (field : LimitField) : Option String :=
    attributed layer.source (m.effective field) (layer.params.value field) (effective field)
      (m.sources field)
  refine ⟨⟨effective, sources, m.unknown ∪ layer.params.unknown⟩, ?_, fits, ?_⟩
  · unfold Merge.add
    rw [fromJson_of_typed typed', Fallible.ok_bind, each_eq_ok.mpr all]
    rfl
  · refine (Risk.Merge.mk.injEq ..).mpr ⟨?_, funext ?_⟩
    · exact (Risk.Params.mk.injEq ..).mpr ⟨funext capIs, funext floorIs, funext flagIs, rfl⟩
    · rintro (c | f | g)
      · refine (attributed_eq (fun v is => ?_) (fun a b left right => same_iff_figure
          (left ▸ kindOf_cap c) (right ▸ kindOf_cap c)) (typed _) (typed' _) (fits _) _ _).trans ?_
        · obtain ⟨q, read, -⟩ := exists_figure (is.symm ▸ kindOf_cap c)
          exact read ▸ Option.some_ne_none q
        · exact congrArg (Risk.Merge.attributed layer.source _ _ · _) (capIs c)
      · refine (attributed_eq (fun v is => ?_) (fun a b left right => same_iff_figure
          (left ▸ kindOf_floor f) (right ▸ kindOf_floor f)) (typed _) (typed' _) (fits _) _ _).trans
          ?_
        · obtain ⟨q, read, -⟩ := exists_figure (is.symm ▸ kindOf_floor f)
          exact read ▸ Option.some_ne_none q
        · exact congrArg (Risk.Merge.attributed layer.source _ _ · _) (floorIs f)
      · refine (attributed_eq (fun v is => ?_)
          (fun a b (left : a.kind = kindOf (.flag g)) right => same_iff_flag left right)
          (typed _) (typed' _) (fits _) _ _).trans ?_
        · obtain ⟨b, rfl⟩ := exists_flag is
          exact Option.some_ne_none b
        · exact congrArg (Risk.Merge.attributed layer.source _ _ · _) (flagIs g)

theorem foldlM_figures {layers : List Layer} (typed : ∀ l ∈ layers, l.params.Typed) {m : Merge}
    (fits : ∀ field, Fits field (m.effective field)) :
    ∃ m', layers.foldlM (Merge.add repr) m = .ok m' ∧ (∀ field, Fits field (m'.effective field)) ∧
      m'.figures = (layers.map Layer.figures).foldl Risk.Merge.add m.figures := by
  induction layers generalizing m with
  | nil => exact ⟨m, rfl, fits, rfl⟩
  | cons layer layers ih =>
    obtain ⟨next, added, fits', is⟩ :=
      @add_figures repr _ fits _ (typed layer List.mem_cons_self)
    obtain ⟨last, ended, fits'', is'⟩ :=
      ih (fun l mem => typed l (List.mem_cons_of_mem _ mem)) fits'
    refine ⟨last, ?_, fits'', ?_⟩
    · rw [List.foldlM_cons, added, Fallible.ok_bind, ended]
    · rw [is', is]
      rfl

theorem fits_limitsOf {effective : LimitField → Option Value}
    (fits : ∀ field, Fits field (effective field)) :
    ∀ field, Fits field (limitsOf effective field) := by
  rintro (c | f | g)
  · exact fits _
  · exact fits _
  · intro v is
    cases is
    cases stated : effective (.flag g) with
    | none => rfl
    | some v => exact fits _ v stated

theorem numbers_limitsOf {m : Merge} (fits : ∀ field, Fits field (m.effective field)) :
    numbers (limitsOf m.effective) = m.figures.effective.limits := by
  refine (RiskLimits.mk.injEq ..).mpr ⟨rfl, rfl, funext fun g => ?_⟩
  unfold limitsOf Merge.figures Params.figures
  dsimp only
  cases stated : m.effective (.flag g) with
  | none => rfl
  | some v =>
    obtain ⟨b, rfl⟩ := exists_flag (fits _ v stated)
    rfl

theorem checkValid_of_fits {limits : LimitField → Option Value}
    (fits : ∀ field, Fits field (limits field)) :
    checkValid limits =
      if (numbers limits).validate = [] then .ok ()
      else .error (.invalid (.problems (numbers limits).validate)) := by
  unfold checkValid
  rw [if_neg]
  intro some_
  obtain ⟨field, -, held⟩ := List.any_eq_true.mp some_
  obtain ⟨-, text⟩ := Bool.and_eq_true_iff.mp held
  cases is : limits field with
  | none =>
    rw [is] at text
    cases text
  | some v =>
    rw [is] at text
    exact kindOf_ne_text field ((fits field v is).symm.trans (of_decide_eq_true text))

def Resolved.figures (r : Resolved) : Risk.Resolved where
  limits := numbers r.limits
  version := r.version
  sources := r.sources
  layers := r.layers

def Merge.empty : Merge := ⟨fun _ => none, fun _ => none, ∅⟩

theorem fits_empty : ∀ field, Fits field (Merge.empty.effective field) := by
  intro field v is
  cases is

theorem limits_of_resolve {layers : List Layer} {r : Resolved}
    (resolved : resolve repr layers = .ok r) :
    ∃ m, layers.foldlM (Merge.add repr) Merge.empty = .ok m ∧ r.limits = limitsOf m.effective := by
  obtain ⟨m, ended, resolved⟩ := Fallible.bind_eq_ok.mp resolved
  refine ⟨m, ended, ?_⟩
  split_ifs at resolved
  · cases resolved
  · obtain ⟨-, -, resolved⟩ := Fallible.bind_eq_ok.mp resolved
    cases resolved
    rfl

theorem fits_of_resolve {layers : List Layer} (typed : ∀ l ∈ layers, l.params.Typed) {r : Resolved}
    (resolved : resolve repr layers = .ok r) :
    (∀ field, Fits field (r.limits field)) ∧ ∃ effective, r.limits = limitsOf effective := by
  obtain ⟨m, ended, is⟩ := limits_of_resolve resolved
  obtain ⟨n, ended', fits, -⟩ := @foldlM_figures repr _ typed _ fits_empty
  cases ended.symm.trans ended'
  exact ⟨is ▸ fits_limitsOf fits, m.effective, is⟩

theorem resolve_figures {layers : List Layer} (typed : ∀ l ∈ layers, l.params.Typed) :
    (resolve repr layers).map Resolved.figures =
      (Risk.resolve (layers.map Layer.figures)).mapError Raised.invalid := by
  obtain ⟨m, ended, fits, is⟩ := @foldlM_figures repr _ typed _ fits_empty
  have all : m.figures = Risk.Merge.all (layers.map Layer.figures) := is
  have version : Risk.versionOf (layers.map Layer.figures) = versionOf layers := by
    unfold Risk.versionOf versionOf
    rw [List.map_map]
    rfl
  have names : (layers.map Layer.figures).map (fun layer => s!"{layer.source}@v{layer.version}") =
      layers.map fun layer => s!"{layer.source}@v{layer.version}" := by
    rw [List.map_map]
    rfl
  have limits := numbers_limitsOf fits
  unfold resolve Risk.resolve
  rw [← Merge.empty, ended, Fallible.ok_bind, ← all, version, names]
  dsimp only
  by_cases stray : m.unknown ≠ ∅
  · have stray' : m.figures.effective.unknown ≠ ∅ := stray
    rw [if_pos stray, if_pos stray']
    rfl
  · have stray' : ¬ m.figures.effective.unknown ≠ ∅ := stray
    rw [if_neg stray, if_neg stray', checkValid_of_fits (fits_limitsOf fits)]
    unfold RiskLimits.checkValid
    rw [← limits]
    by_cases valid : (numbers (limitsOf m.effective)).validate = []
    · rw [if_pos valid, if_pos valid]
      rfl
    · rw [if_neg valid, if_neg valid]
      rfl

end TradeResearch.Risk.Stored
