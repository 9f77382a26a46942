import TradeResearch.Risk.Stored

/-!
# Limits that are stored and read back

A layer that was stored is read back as it was, and layers that were stored resolve to the limits
they resolved to before, but for the figures that `DECIMAL_FIELDS` leaves out.

* `fromJson_toJson`: what is read back of a layer.
* `keeps_iff_listed`: what is stored is kept exactly where no layer states a figure that the list
  leaves out.
-/

namespace TradeResearch.Risk.Stored

variable {repr : ℚ → String}

def Value.reread (field : LimitField) : Value → Value
  | decimal d =>
    if decimalField field = true then decimal d.readBack else text (String.ofList d.plain)
  | value => value

theorem reread_of_listed (on : decimalField field = true) (d : Decimal) :
    Value.reread field (.decimal d) = .decimal d.readBack := if_pos on

theorem reread_of_off (off : ¬ decimalField field = true) (d : Decimal) :
    Value.reread field (.decimal d) = .text (String.ofList d.plain) := if_neg off

def Params.reread (p : Params) : Params :=
  { p with value := fun field => (p.value field).map (Value.reread field) }

theorem restored_stored {value : Option Value} (fits : Fits field value) :
    restored repr field (value.map Value.stored) = .ok (value.map (Value.reread field)) := by
  cases value with
  | none => rfl
  | some v =>
    have kind := fits v rfl
    by_cases listed : decimalField field = true
    · cases v with
      | decimal d =>
        unfold restored
        simp only [Option.map_some, Value.stored, Value.reread, Value.kind, Value.str,
          String.toList_ofList, Decimal.ofText_plain, listed, ne_eq, reduceCtorEq,
          not_false_eq_true, and_self, if_true]
      | _ => cases kind.trans (kindOf_of_decimalField listed)
    · cases v <;> simp [restored, Value.stored, Value.reread, listed]

theorem fromJson_toJson {p : Params} (typed : p.Typed) :
    fromJson repr (toJson p) = .ok p.reread := by
  have each_ : each (fun field => restored repr field ((toJson p).value field)) =
      .ok p.reread.value := each_eq_ok.mpr fun field => restored_stored (typed field)
  unfold fromJson
  rw [each_]
  rfl

def Alike (a b : Option Value) : Prop :=
  Option.Rel (fun v w => v.kind = w.kind ∧ v.same w = true) a b

structure Params.Listed (p : Params) : Prop where
  weekly : p.value (.cap .maxWeeklyLoss) = none
  correlated : p.value (.cap .maxCorrelatedExposure) = none

theorem listed_or {field : LimitField} (is : kindOf field = .decimal) :
    decimalField field = true ∨ field = .cap .maxWeeklyLoss ∨
      field = .cap .maxCorrelatedExposure := by
  rcases field with c | f | g
  · cases c <;> first | exact .inl rfl | exact .inr (.inl rfl) | exact .inr (.inr rfl) | cases is
  · cases f <;> first | exact .inl rfl | cases is
  · cases is

theorem same_self (v : Value) : v.same v = true := decide_eq_true ⟨rfl, rfl⟩

theorem Params.Listed.reread {p : Params} (listed : p.Listed) (typed : p.Typed)
    (field : LimitField) :
    Alike (p.reread.value field) (p.value field) := by
  unfold Params.reread
  dsimp only
  cases is : p.value field with
  | none => exact .none
  | some v =>
    refine .some ?_
    cases v with
    | decimal d =>
      have kind : kindOf field = .decimal := (typed field _ is).symm
      have on : decimalField field = true := by
        rcases listed_or kind with on | rfl | rfl
        · exact on
        · cases listed.weekly.symm.trans is
        · cases listed.correlated.symm.trans is
      rw [reread_of_listed on]
      refine ⟨rfl, decide_eq_true ⟨?_, rfl⟩⟩
      exact congrArg some d.value_readBack
    | _ => exact ⟨rfl, same_self _⟩

theorem text_reread {p : Params} (typed : p.Typed) {field : LimitField}
    (off : kindOf field = .decimal ∧ decimalField field = false) :
    ∀ v ∈ p.reread.value field, v.kind = .text := by
  intro v is
  obtain ⟨u, stated, rfl⟩ := Option.map_eq_some_iff.mp is
  have kind := (typed field u stated).trans off.1
  cases u with
  | decimal d =>
    rw [reread_of_off (by rw [off.2]; exact Bool.false_ne_true)]
    rfl
  | _ => cases kind

theorem weekly_off : kindOf (.cap .maxWeeklyLoss) = .decimal ∧
    decimalField (.cap .maxWeeklyLoss) = false := ⟨rfl, rfl⟩

theorem correlated_off : kindOf (.cap .maxCorrelatedExposure) = .decimal ∧
    decimalField (.cap .maxCorrelatedExposure) = false := ⟨rfl, rfl⟩

def Layer.store (l : Layer) : Layer := { l with params := toJson l.params }

def Layer.reread (l : Layer) : Layer := { l with params := l.params.reread }

theorem add_eq_ok {m m' : Merge} {l : Layer} (added : m.add repr l = .ok m') :
    ∃ stated, fromJson repr l.params = .ok stated ∧
      ∀ field, combined field (m.effective field) (stated.value field) =
        .ok (m'.effective field) := by
  obtain ⟨stated, read, added⟩ := Fallible.bind_eq_ok.mp added
  obtain ⟨effective, each_, added⟩ := Fallible.bind_eq_ok.mp added
  cases added
  exact ⟨stated, read, each_eq_ok.mp each_⟩

theorem combined_ne_none {current value w : Option Value}
    (is : combined field current value = .ok w) (some_ : current ≠ none ∨ value ≠ none) :
    w ≠ none := by
  cases value with
  | none =>
    cases is
    exact some_.resolve_right (not_not.mpr rfl)
  | some v =>
    have is : (combine field current v).map some = .ok w := is
    cases combined_ : combine field current v with
    | error raised =>
      rw [combined_] at is
      cases is
    | ok u =>
      rw [combined_] at is
      cases is
      exact Option.some_ne_none u

theorem least_or {a b w : Value} (is : least a b = .ok w) : w = a ∨ w = b := by
  obtain ⟨lower, -, is⟩ := Fallible.bind_eq_ok.mp is
  cases lower with
  | true =>
    cases is
    exact .inr rfl
  | false =>
    cases is
    exact .inl rfl

theorem combined_cap_or {c : Cap} {current value w : Option Value}
    (is : combined (.cap c) current value = .ok w) : w = current ∨ w = value := by
  cases value with
  | none =>
    cases is
    exact .inl rfl
  | some v =>
    cases current with
    | none =>
      cases is
      exact .inr rfl
    | some u =>
      have is : (least u v).map some = .ok w := is
      cases least_ : least u v with
      | error raised =>
        rw [least_] at is
        cases is
      | ok x =>
        rw [least_] at is
        cases is
        exact (least_or least_).imp (congrArg some) (congrArg some)

theorem effective_ne_none {layers : List Layer} {m : Merge} (typed : ∀ l ∈ layers, l.params.Typed)
    (ended : layers.foldlM (Merge.add repr) Merge.empty = .ok m)
    (stated : ∃ l ∈ layers, l.params.value field ≠ none) : m.effective field ≠ none := by
  refine Fallible.foldlM_rule (motive := fun past m =>
    (∃ l ∈ past, l.params.value field ≠ none) → m.effective field ≠ none) ended ?_ ?_ stated
  · rintro ⟨l, mem, -⟩
    cases mem
  · rintro past l m m' mem ih added ⟨l', mem', stated⟩
    obtain ⟨stated', read, all⟩ := add_eq_ok added
    cases read.symm.trans (fromJson_of_typed (typed l mem))
    refine combined_ne_none (all field) ?_
    rcases List.mem_append.mp mem' with before | last
    · exact .inl (ih ⟨l', before, stated⟩)
    · rw [← List.mem_singleton.mp last]
      exact .inr stated

theorem text_of_store {layers : List Layer} {m : Merge} (typed : ∀ l ∈ layers, l.params.Typed)
    (ended : (layers.map Layer.store).foldlM (Merge.add repr) Merge.empty = .ok m) {c : Cap}
    (off : kindOf (.cap c) = .decimal ∧ decimalField (.cap c) = false) :
    ∀ v ∈ m.effective (.cap c), v.kind = .text := by
  refine Fallible.foldlM_rule (motive := fun _ m => ∀ v ∈ m.effective (.cap c), v.kind = .text)
    ended (fun v is => by cases is) ?_
  intro past stored m m' mem' texts added v is
  obtain ⟨l, mem, rfl⟩ := List.mem_map.mp mem'
  obtain ⟨stated, read, all⟩ := add_eq_ok added
  cases read.symm.trans (fromJson_toJson (typed l mem))
  rcases combined_cap_or (all (.cap c)) with same | same
  · exact texts v (same ▸ is)
  · exact text_reread (typed l mem) off v (same ▸ is)

theorem typed_reread {p : Params} (typed : p.Typed) (listed : p.Listed) : p.reread.Typed := by
  intro field v is
  obtain ⟨u, stated, rfl⟩ := Option.map_eq_some_iff.mp is
  have alike := listed.reread typed field
  rw [is, stated] at alike
  cases alike with
  | some both => exact both.1.trans (typed field u stated)

theorem figure_of_alike {a b : Option Value} (alike : Alike a b)
    (kind : ∀ v ∈ b, v.kind = .decimal ∨ v.kind = .int ∨ v.kind = .float) :
    a.bind Value.figure? = b.bind Value.figure? := by
  cases alike with
  | none => rfl
  | some both =>
    have right := kind _ rfl
    exact (same_iff_figure (both.1 ▸ right) right).mp both.2

theorem flag_of_alike {a b : Option Value} (alike : Alike a b) (kind : ∀ v ∈ b, v.kind = .bool) :
    a.bind Value.flag? = b.bind Value.flag? := by
  cases alike with
  | none => rfl
  | some both =>
    have right := kind _ rfl
    exact (same_iff_flag (both.1.trans right) right).mp both.2

theorem figures_reread {l : Layer} (typed : l.params.Typed) (listed : l.params.Listed) :
    l.reread.figures = l.figures := by
  have alike := listed.reread typed
  refine (Risk.Layer.mk.injEq ..).mpr ⟨rfl, rfl, (Risk.Params.mk.injEq ..).mpr ⟨?_, ?_, ?_, rfl⟩,
    rfl, rfl⟩
  · exact funext fun c => figure_of_alike (alike _) fun v is => typed _ v is ▸ kindOf_cap c
  · exact funext fun f => figure_of_alike (alike _) fun v is => typed _ v is ▸ kindOf_floor f
  · exact funext fun g => flag_of_alike (alike _) fun v is => typed _ v is

theorem resolve_store {layers : List Layer} (typed : ∀ l ∈ layers, l.params.Typed)
    (listed : ∀ l ∈ layers, l.params.Listed) :
    resolve repr (layers.map Layer.store) = resolve repr (layers.map Layer.reread) := by
  have folds : ∀ (layers : List Layer) (m : Merge), (∀ l ∈ layers, l.params.Typed) →
      (∀ l ∈ layers, l.params.Listed) →
      (layers.map Layer.store).foldlM (Merge.add repr) m =
        (layers.map Layer.reread).foldlM (Merge.add repr) m := by
    intro layers
    induction layers with
    | nil => exact fun _ _ _ => rfl
    | cons l layers ih =>
      intro m typed listed
      have same : m.add repr l.store = m.add repr l.reread := by
        have typed' := typed l List.mem_cons_self
        unfold Merge.add
        rw [show l.store.params = toJson l.params from rfl, fromJson_toJson typed',
          show l.reread.params = l.params.reread from rfl,
          fromJson_of_typed (typed_reread typed' (listed l List.mem_cons_self))]
        rfl
      rw [List.map_cons, List.map_cons, List.foldlM_cons, List.foldlM_cons, same]
      exact bind_congr fun next => ih next (fun l mem => typed l (List.mem_cons_of_mem _ mem))
        fun l mem => listed l (List.mem_cons_of_mem _ mem)
  have version : versionOf (layers.map Layer.store) = versionOf (layers.map Layer.reread) := by
    unfold versionOf
    rw [List.map_map, List.map_map]
    rfl
  have names : (layers.map Layer.store).map (fun layer => s!"{layer.source}@v{layer.version}") =
      (layers.map Layer.reread).map fun layer => s!"{layer.source}@v{layer.version}" := by
    rw [List.map_map, List.map_map]
    rfl
  unfold resolve
  rw [folds layers _ typed listed, version, names]

theorem alike_of_figure {a b : Option Value} (fits : Fits field a) (fits' : Fits field b)
    (kind : kindOf field = .decimal ∨ kindOf field = .int ∨ kindOf field = .float)
    (same : a.bind Value.figure? = b.bind Value.figure?) : Alike a b := by
  cases a with
  | none =>
    cases b with
    | none => exact .none
    | some w =>
      obtain ⟨q, is, -⟩ := exists_figure ((fits' w rfl).symm ▸ kind)
      cases same.trans is
  | some v =>
    cases b with
    | none =>
      obtain ⟨q, is, -⟩ := exists_figure ((fits v rfl).symm ▸ kind)
      cases is.symm.trans same
    | some w =>
      have left := fits v rfl
      have right := fits' w rfl
      exact .some ⟨left.trans right.symm, (same_iff_figure (left ▸ kind) (right ▸ kind)).mpr same⟩

theorem alike_of_numbers {a b : LimitField → Option Value}
    (fits : ∀ field, Fits field (limitsOf a field)) (fits' : ∀ field, Fits field (limitsOf b field))
    (same : numbers (limitsOf a) = numbers (limitsOf b)) (field : LimitField) :
    Alike (limitsOf a field) (limitsOf b field) := by
  obtain ⟨caps, floors, flags⟩ := (RiskLimits.mk.injEq ..).mp same
  rcases field with c | f | g
  · exact alike_of_figure (fits _) (fits' _) (kindOf_cap c) (congrFun caps c)
  · exact alike_of_figure (fits _) (fits' _) (kindOf_floor f) (congrFun floors f)
  · have flag : (limitsOf a (.flag g)).any Value.truth = (limitsOf b (.flag g)).any Value.truth :=
      congrFun flags g
    have left := fits (.flag g)
    have right := fits' (.flag g)
    unfold limitsOf at flag left right ⊢
    dsimp only at flag left right ⊢
    obtain ⟨x, is⟩ := exists_flag (left _ rfl)
    obtain ⟨y, is'⟩ := exists_flag (right _ rfl)
    rw [is, is'] at flag ⊢
    have flag : x = y := flag
    rw [flag]
    exact .some ⟨rfl, same_self _⟩

def Keeps (repr : ℚ → String) (layers : List Layer) (r : Resolved) : Prop :=
  ∃ r', resolve repr (layers.map Layer.store) = .ok r' ∧
    ∀ field, Alike (r'.limits field) (r.limits field)

def RoundTrips (repr : ℚ → String) (p : Params) : Prop :=
  ∃ q, fromJson repr (toJson p) = .ok q ∧ q.unknown = p.unknown ∧
    ∀ field, Alike (q.value field) (p.value field)

theorem keeps_of_listed (typed : ∀ l ∈ layers, l.params.Typed)
    (listed : ∀ l ∈ layers, l.params.Listed) {r : Resolved}
    (resolved : resolve repr layers = .ok r) : Keeps repr layers r := by
  have typed' : ∀ l ∈ layers.map Layer.reread, l.params.Typed := by
    intro _ mem'
    obtain ⟨l, mem, rfl⟩ := List.mem_map.mp mem'
    exact typed_reread (typed l mem) (listed l mem)
  have figures : (layers.map Layer.reread).map Layer.figures = layers.map Layer.figures := by
    rw [List.map_map]
    exact List.map_congr_left fun l mem => figures_reread (typed l mem) (listed l mem)
  have same := @resolve_figures repr _ typed'
  rw [figures, ← @resolve_figures repr _ typed, resolved] at same
  cases resolved' : resolve repr (layers.map Layer.reread) with
  | error raised =>
    rw [resolved'] at same
    cases same
  | ok r' =>
    rw [resolved'] at same
    obtain ⟨fits, effective, is⟩ := fits_of_resolve typed resolved
    obtain ⟨fits', effective', is'⟩ := fits_of_resolve typed' resolved'
    refine ⟨r', (resolve_store typed listed).trans resolved', fun field => ?_⟩
    have numbers_ : numbers r'.limits = numbers r.limits :=
      congrArg Risk.Resolved.limits (Except.ok.inj same)
    rw [is] at fits numbers_ ⊢
    rw [is'] at fits' numbers_ ⊢
    exact alike_of_numbers fits' fits numbers_ field

theorem unstated_of_keeps (typed : ∀ l ∈ layers, l.params.Typed) {r : Resolved}
    (resolved : resolve repr layers = .ok r) (keeps : Keeps repr layers r) {c : Cap}
    (off : kindOf (.cap c) = .decimal ∧ decimalField (.cap c) = false) :
    ∀ l ∈ layers, l.params.value (.cap c) = none := by
  intro l mem
  by_contra stated
  obtain ⟨r', resolved', alike⟩ := keeps
  obtain ⟨m, ended, is⟩ := limits_of_resolve resolved
  obtain ⟨m', ended', is'⟩ := limits_of_resolve resolved'
  obtain ⟨fits, -⟩ := fits_of_resolve typed resolved
  have some_ := effective_ne_none typed ended ⟨l, mem, stated⟩
  obtain ⟨v, effective⟩ := Option.ne_none_iff_exists'.mp some_
  have alike := alike (.cap c)
  rw [is, is'] at alike
  have alike : Alike (m'.effective (.cap c)) (m.effective (.cap c)) := alike
  rw [effective] at alike
  cases effective' : m'.effective (.cap c) with
  | none =>
    rw [effective'] at alike
    cases alike
  | some w =>
    rw [effective'] at alike
    cases alike with
    | some both =>
      have text := text_of_store typed ended' off w effective'
      have declared : v.kind = kindOf (.cap c) := fits (.cap c) v (is ▸ effective)
      cases text.symm.trans (both.1.trans (declared.trans off.1))

theorem roundTrips_iff {p : Params} (typed : p.Typed) : RoundTrips repr p ↔ p.Listed := by
  constructor
  · rintro ⟨q, read, -, alike⟩
    cases read.symm.trans (fromJson_toJson typed)
    have unstated {field : LimitField}
        (off : kindOf field = .decimal ∧ decimalField field = false) : p.value field = none := by
      by_contra stated
      obtain ⟨v, is⟩ := Option.ne_none_iff_exists'.mp stated
      have reread : p.reread.value field = some (v.reread field) := congrArg (Option.map _) is
      have alike := alike field
      rw [is, reread] at alike
      cases alike with
      | some both =>
        have text := text_reread typed off _ reread
        have decimal := (typed field v is).trans off.1
        cases text.symm.trans (both.1.trans decimal)
    exact ⟨unstated weekly_off, unstated correlated_off⟩
  · exact fun listed => ⟨p.reread, fromJson_toJson typed, rfl, listed.reread typed⟩

/-- What is stored is kept exactly where no weekly loss and no correlated exposure is stated: a
layer read back, and the limits that layers resolve to. -/
theorem keeps_iff_listed (repr : ℚ → String) :
    (∀ p : Params, p.Typed → (RoundTrips repr p ↔ p.Listed)) ∧
      ∀ (layers : List Layer) (r : Resolved), (∀ l ∈ layers, l.params.Typed) →
        resolve repr layers = .ok r → (Keeps repr layers r ↔ ∀ l ∈ layers, l.params.Listed) := by
  refine ⟨fun p typed => roundTrips_iff typed, fun layers r typed resolved => ?_⟩
  constructor
  · exact fun keeps l mem => ⟨unstated_of_keeps typed resolved keeps weekly_off l mem,
      unstated_of_keeps typed resolved keeps correlated_off l mem⟩
  · exact fun listed => keeps_of_listed typed listed resolved

def capLayer (c : Cap) (value : ℕ) : Layer :=
  { scope := .paperAccount, scopeRef := some "acct-a"
    params :=
      { value := fun field =>
          if field = .cap c then some (.decimal ⟨false, value, 0⟩) else none } }

theorem typed_capLayer {c : Cap} (decimal : kindOf (.cap c) = .decimal) (value : ℕ) :
    (capLayer c value).params.Typed := by
  intro field v is
  unfold capLayer at is
  dsimp only at is
  split_ifs at is with here
  · cases is
    rw [here, decimal]
    rfl
  · cases is

/-- A daily loss is kept. -/
theorem keeps_dailyLoss :
    RoundTrips toString (capLayer .maxDailyLoss 500).params ∧
      ∃ r, resolve toString [capLayer .maxDailyLoss 500] = .ok r ∧
        Keeps toString [capLayer .maxDailyLoss 500] r := by
  have typed := typed_capLayer (c := .maxDailyLoss) rfl 500
  have listed : (capLayer .maxDailyLoss 500).params.Listed := ⟨rfl, rfl⟩
  refine ⟨((keeps_iff_listed toString).1 _ typed).mpr listed, ?_⟩
  have resolves : (resolve toString [capLayer .maxDailyLoss 500]).toOption.isSome = true := by
    decide +kernel
  cases resolved : resolve toString [capLayer .maxDailyLoss 500] with
  | error raised =>
    rw [resolved] at resolves
    cases resolves
  | ok r =>
    refine ⟨r, rfl, ((keeps_iff_listed toString).2 _ r ?_ resolved).mpr ?_⟩
    · exact List.forall_mem_singleton.mpr typed
    · exact List.forall_mem_singleton.mpr listed

/-- A weekly loss is not: it is read back as a text, and of two the text that sorts first binds. -/
theorem not_roundTrips_weeklyLoss :
    ¬ RoundTrips toString (capLayer .maxWeeklyLoss 500).params ∧
      (resolve toString (([500, 1000].map (capLayer .maxWeeklyLoss)).map Layer.store)).toOption.map
        (fun r => r.limits (.cap .maxWeeklyLoss)) = some (some (.text "1000")) := by
  refine ⟨fun kept => ?_, by decide +kernel⟩
  have listed := (roundTrips_iff (typed_capLayer rfl 500)).mp kept
  cases listed.weekly

end TradeResearch.Risk.Stored
