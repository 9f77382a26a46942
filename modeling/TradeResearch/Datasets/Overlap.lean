import TradeResearch.Datasets.TwoRun

/-!
# Label overlap

What the labels of training rows depend on, and where the parts they are kept from begin. `Depends`
is semantic: another bar there changes the labels as the row stores them.

* `Depends.le` and `depends_horizon`: labels depend on nothing past their horizon, and on the bar at
  it.
* `wellSplit_of_ready`: the parts of a dataset that is READY are disjoint, ordered and complete.
* `ready_noOverlap_iff`: no label of a training row reaches into a part that is held out exactly
  where the horizon of the last training row ends before the next usable bar, at each cut.
-/

namespace TradeResearch.Datasets

open Marketdata

def Depends (config : LabelConfig) (bars : List Bar) (i j : ℕ) : Prop :=
  ∃ bar, ((labelRows config (bars.set j bar))[i]?).map LabelRow.toLabels ≠
    ((labelRows config bars)[i]?).map LabelRow.toLabels

theorem Depends.le {config : LabelConfig} {bars : List Bar} {i j : ℕ}
    (depends : Depends config bars i j) : j ≤ i + config.horizon := by
  obtain ⟨bar, differ⟩ := depends
  by_contra past
  refine differ (congrArg _ ((within_labelRows config).same (k := j) ?_ (by omega)))
  exact List.take_set_of_le le_rfl

theorem Depends.lt_length {config : LabelConfig} {bars : List Bar} {i j : ℕ}
    (depends : Depends config bars i j) : j < bars.length := by
  obtain ⟨bar, differ⟩ := depends
  by_contra past
  rw [List.set_eq_of_length_le (by omega)] at differ
  exact differ rfl

theorem getD_set_ne {α : Type} {xs : List α} {i j : ℕ} {a blank : α} (other : i ≠ j) :
    (xs.set i a).getD j blank = xs.getD j blank := by
  rw [List.getD_eq_getElem?_getD, List.getD_eq_getElem?_getD, List.getElem?_set_ne other]

theorem getD_set_self {α : Type} {xs : List α} {i : ℕ} {a blank : α} (inside : i < xs.length) :
    (xs.set i a).getD i blank = a := by
  rw [List.getD_eq_getElem?_getD, List.getElem?_set_self inside, Option.getD_some]

section

variable {config : LabelConfig} {closes highs lows : List ℚ} {atr : List (Option ℚ)}

theorem labelRow_of_le (ends : closes.length ≤ i + config.horizon) :
    labelRow config closes highs lows atr i = {} := if_pos ends

theorem forwardReturn_labelRow (inside : i + config.horizon < closes.length) :
    (labelRow config closes highs lows atr i).forwardReturn =
      if 0 < closes.getD i 0 then
        some ((closes.getD (i + config.horizon) 0 - config.spreadPoints) / closes.getD i 0 - 1)
      else none := by
  unfold labelRow
  rw [if_neg (by omega)]
  split <;> rfl

theorem maeAtr_labelRow (inside : i + config.horizon < closes.length) {distance : ℚ}
    (ranged : (atr.getD i none).filter (0 < ·) = some distance) :
    (labelRow config closes highs lows atr i).maeAtr =
      (ahead lows i (i + config.horizon)).min?.map fun bottom =>
        (closes.getD i 0 - bottom) / distance := by
  unfold labelRow
  rw [if_neg (by omega), ranged]

theorem exists_of_isComplete {names : List Label} (some_ : names ≠ [])
    (complete : (labelRow config closes highs lows atr i).isComplete names = true) :
    i + config.horizon < closes.length ∧
      (0 < closes.getD i 0 ∨ ∃ distance, (atr.getD i none).filter (0 < ·) = some distance) := by
  obtain ⟨name, among⟩ := List.exists_mem_of_ne_nil names some_
  have has := List.all_eq_true.mp complete name among
  by_cases ends : closes.length ≤ i + config.horizon
  · rw [labelRow_of_le ends] at has
    cases name <;> cases has
  · refine ⟨by omega, ?_⟩
    by_cases pos : 0 < closes.getD i 0
    · exact .inl pos
    · right
      cases ranged : (atr.getD i none).filter (0 < ·) with
      | some distance => exact ⟨distance, rfl⟩
      | none =>
        unfold labelRow at has
        dsimp only at has
        rw [if_neg ends, if_neg pos, ranged] at has
        cases name <;> cases has

end

theorem mem_ahead (xs : List ℚ) {i j last : ℕ} (after : i < j) (upTo : j ≤ last)
    (inside : j < xs.length) : xs.getD j 0 ∈ ahead xs i last := by
  refine List.mem_of_getElem? (i := j - (i + 1)) ?_
  unfold ahead
  rw [List.getElem?_drop, Nat.add_sub_cancel' after, List.getElem?_take_of_lt (by omega),
    List.getD_eq_getElem?_getD, List.getElem?_eq_getElem inside, Option.getD_some]

theorem exists_min?_of_mem {xs : List ℚ} {x : ℚ} (mem : x ∈ xs) : ∃ m, xs.min? = some m := by
  cases least : xs.min? with
  | some m => exact ⟨m, rfl⟩
  | none =>
    rw [List.min?_eq_none_iff] at least
    rw [least] at mem
    exact absurd mem List.not_mem_nil

theorem depends_horizon {config : LabelConfig} {bars : List Bar} {i : ℕ} {names : List Label}
    (some_ : names ≠ []) (inside : i < bars.length)
    (complete : ((labelRows config bars).getD i {}).isComplete names = true) :
    Depends config bars i (i + config.horizon) := by
  have reaches : i < i + config.horizon := by
    have := config.horizon_pos
    omega
  rw [List.getD_eq_getElem?_getD, getElem?_labelRows config inside, Option.getD_some] at complete
  obtain ⟨reach, found⟩ := exists_of_isComplete some_ complete
  rw [List.length_map] at reach
  have sameRange : ∀ bar, (Tools.atrSeries (bars.set (i + config.horizon) bar)
      config.atrPeriod).getD i none = (Tools.atrSeries bars config.atrPeriod).getD i none := by
    intro bar
    rw [← getD_take (Nat.lt_succ_self i), ← Tools.atrSeries_take, List.take_set_of_le (by omega),
      Tools.atrSeries_take, getD_take (Nat.lt_succ_self i)]
  have sameEntry : ∀ bar : Bar, ((bars.set (i + config.horizon) bar).map Bar.close).getD i 0 =
      (bars.map Bar.close).getD i 0 := by
    intro bar
    rw [List.map_set, getD_set_ne (by omega)]
  have rowOf : ∀ bar, (labelRows config (bars.set (i + config.horizon) bar))[i]? = _ :=
    fun bar => getElem?_labelRows config (by rw [List.length_set]; exact inside)
  have longEnough : ∀ bar, i + config.horizon <
      ((bars.set (i + config.horizon) bar).map Bar.close).length := by
    intro bar
    rw [List.length_map, List.length_set]
    exact reach
  rcases found with pos | ⟨distance, ranged⟩
  · -- the return is read off the close at the horizon
    let moved : Bar := { (default : Bar) with
      close := (bars.map Bar.close).getD (i + config.horizon) 0 + 1 }
    refine ⟨moved, fun same => ?_⟩
    rw [rowOf, getElem?_labelRows config inside, Option.map_some, Option.map_some] at same
    have returns := congrArg Labels.forwardReturn (Option.some.inj same)
    rw [forwardReturn_labelRow (longEnough _), forwardReturn_labelRow (by simpa using reach),
      sameEntry, if_pos pos, if_pos pos, List.map_set, getD_set_self (by simpa using reach)]
      at returns
    have equal := Option.some.inj returns
    field_simp at equal
    linarith
  · -- the adverse excursion is read off the low at the horizon
    have within : i + config.horizon < (bars.map Bar.low).length := by simpa using reach
    obtain ⟨bottom, lowest⟩ := exists_min?_of_mem (mem_ahead _ reaches le_rfl within)
    let moved : Bar := { (default : Bar) with low := bottom - 1 }
    refine ⟨moved, fun same => ?_⟩
    rw [rowOf, getElem?_labelRows config inside, Option.map_some, Option.map_some] at same
    have excursions := congrArg Labels.maeAtr (Option.some.inj same)
    rw [maeAtr_labelRow (longEnough _) (by rw [sameRange, ranged]),
      maeAtr_labelRow (by simpa using reach) ranged, sameEntry, lowest, List.map_set] at excursions
    have lower := mem_ahead ((bars.map Bar.low).set (i + config.horizon) moved.low) reaches le_rfl
      (by rw [List.length_set]; exact within)
    obtain ⟨bottom', lowest'⟩ := exists_min?_of_mem lower
    have below : bottom' ≤ bottom - 1 := by
      rw [getD_set_self within] at lower
      exact (List.min?_eq_some_iff.mp lowest').2 _ lower
    rw [lowest'] at excursions
    have equal := Option.some.inj excursions
    have pos : 0 < distance := of_decide_eq_true (Option.filter_eq_some_iff.mp ranged).2
    rw [div_left_inj' pos.ne'] at equal
    linarith

def timeOf (bars : List Bar) (i : ℕ) : Time := (bars.getD i default).barTime

theorem pairwise_of_findOutOfOrder {times : List Time} (none_ : findOutOfOrder times = []) :
    times.Pairwise (· ≤ ·) := by
  refine List.isChain_iff_pairwise.mp ?_
  induction times with
  | nil => exact List.IsChain.nil
  | cons first rest ih =>
    cases rest with
    | nil => exact List.IsChain.singleton _
    | cons second rest =>
      unfold findOutOfOrder at none_
      split_ifs at none_ with late
      exact List.isChain_cons_cons.mpr ⟨le_of_not_gt late, ih none_⟩

theorem ordered_of_usable {bars : List Bar} {now : Option Time}
    (usable : (assess bars now).usable = true) {i j : ℕ} (le : i ≤ j) (inside : j < bars.length) :
    timeOf bars i ≤ timeOf bars j := by
  have inOrder : findOutOfOrder (bars.map Bar.barTime) = [] := by
    unfold assess at usable
    rw [if_neg (by omega)] at usable
    by_contra late
    have some_ : (inspectSeries bars now).outOfOrder ≠ 0 := fun zero =>
      late (List.length_eq_zero_iff.mp zero)
    rw [QualityReport.usable] at usable
    simp [some_] at usable
  have sorted := pairwise_of_findOutOfOrder inOrder
  have read : ∀ k, timeOf bars k = (bars.getD k default).barTime := fun _ => rfl
  rcases le.eq_or_lt with rfl | lt
  · exact le_rfl
  · have here := List.pairwise_iff_getElem.mp sorted i j (by simp; omega) (by simpa using inside) lt
    rw [List.getElem_map, List.getElem_map] at here
    rw [read, read, List.getD_eq_getElem?_getD, List.getD_eq_getElem?_getD,
      List.getElem?_eq_getElem (by omega), List.getElem?_eq_getElem inside]
    exact here

def usableBar (maths : Maths) (config : DatasetConfig) (names : List Feature) (bars : List Bar)
    (i : ℕ) : Bool :=
  warmupFor names ≤ i ∧
    ((labelRows config.labelConfig bars).getD i {}).isComplete config.labelNames = true ∧
    featureRowIsComplete ((featureRows maths names bars).getD i []) names = true

def usableBars (maths : Maths) (config : DatasetConfig) (names : List Feature) (bars : List Bar) :
    List ℕ :=
  (List.range bars.length).filter (usableBar maths config names bars)

section

theorem rowAt_eq (i : ℕ) : (rowAt maths config names bars i).map
      (fun k => (k.index, k.row.at_)) =
    if usableBar maths config names bars i then some (i, timeOf bars i) else none := by
  have asked : usableBar maths config names bars i = true ↔ _ := decide_eq_true_iff
  unfold rowAt decideRow
  by_cases cold : i < warmupFor names
  · rw [if_pos cold, if_neg fun held => absurd (asked.mp held).1 (by omega)]
    rfl
  · rw [if_neg cold]
    cases complete : ((labelRows config.labelConfig bars).getD i {}).isComplete
      config.labelNames with
    | false =>
      rw [if_neg fun held => absurd (asked.mp held).2.1 (by rw [complete]; decide)]
      split_ifs <;> first | rfl | contradiction
    | true =>
      cases full : featureRowIsComplete ((featureRows maths names bars).getD i []) names with
      | false =>
        rw [if_neg fun held => absurd (asked.mp held).2.2 (by rw [full]; decide)]
        rfl
      | true =>
        rw [if_pos (asked.mpr ⟨by omega, complete, full⟩)]
        rfl

variable (maths config names bars) in
theorem map_keptRows : (keptRows maths config names bars).map (fun k => (k.index, k.row.at_)) =
    (usableBars maths config names bars).map fun i => (i, timeOf bars i) := by
  unfold usableBars
  rw [keptRows_eq, List.map_filterMap, ← List.filterMap_eq_filter, List.map_filterMap]
  refine List.filterMap_congr fun i _ => (rowAt_eq i).trans ?_
  rw [Option.guard]
  split_ifs <;> rfl

theorem usable_of_kept {r : ℕ} {k : Kept}
    (kept : (keptRows maths config names bars)[r]? = some k) :
    (usableBars maths config names bars)[r]? = some k.index ∧ k.row.at_ = timeOf bars k.index := by
  have entries := congrArg (·[r]?) (map_keptRows maths config names bars)
  rw [List.getElem?_map, List.getElem?_map, kept, Option.map_some] at entries
  obtain ⟨i, usable, same⟩ := Option.map_eq_some_iff.mp entries.symm
  have index : i = k.index := congrArg Prod.fst same
  exact ⟨by rw [usable, index], by rw [← index]; exact (congrArg Prod.snd same).symm⟩

theorem kept_of_usable {r i : ℕ} (usable : (usableBars maths config names bars)[r]? = some i) :
    ∃ k, (keptRows maths config names bars)[r]? = some k ∧ k.index = i := by
  have entries := congrArg (·[r]?) (map_keptRows maths config names bars)
  rw [List.getElem?_map, List.getElem?_map, usable, Option.map_some] at entries
  obtain ⟨k, kept, same⟩ := Option.map_eq_some_iff.mp entries
  exact ⟨k, kept, congrArg Prod.fst same⟩

theorem length_keptRows : (keptRows maths config names bars).length =
    (usableBars maths config names bars).length := by
  have lengths := congrArg List.length (map_keptRows maths config names bars)
  rwa [List.length_map, List.length_map] at lengths

theorem depends_of_usable {r i : ℕ} (usable : (usableBars maths config names bars)[r]? = some i) :
    Depends config.labelConfig bars i (i + config.labelConfig.horizon) := by
  obtain ⟨inside, held⟩ := List.mem_filter.mp (List.mem_of_getElem? usable)
  obtain ⟨_, complete, _⟩ := of_decide_eq_true held
  exact depends_horizon config.labels_nonempty (List.mem_range.mp inside) complete

theorem usable_lt {r s i j : ℕ} (lt : r < s)
    (here : (usableBars maths config names bars)[r]? = some i)
    (there : (usableBars maths config names bars)[s]? = some j) : i < j := by
  have rising : (usableBars maths config names bars).Pairwise (· < ·) :=
    List.pairwise_lt_range.filter _
  obtain ⟨inside, rfl⟩ := List.getElem?_eq_some_iff.mp here
  obtain ⟨inside', rfl⟩ := List.getElem?_eq_some_iff.mp there
  exact List.pairwise_iff_getElem.mp rising r s inside inside' lt

end

def Clear (config : LabelConfig) (bars : List Bar) (kept : List Kept) (train part : Rows) : Prop :=
  ∀ r, train.Holds r → ∀ k ∈ kept[r]?, ∀ first ∈ kept[part.start]?, ∀ j,
    Depends config bars k.index j → timeOf bars j < first.row.at_

def Gap (config : LabelConfig) (bars : List Bar) (usable : List ℕ) (c : ℕ) : Prop :=
  ∀ last ∈ usable[c - 1]?, ∀ next ∈ usable[c]?,
    timeOf bars (last + config.horizon) < timeOf bars next

def cuts (config : DatasetConfig) (n : ℕ) : List ℕ :=
  share n config.trainFraction ::
    (List.range config.walkForwardFolds).map
      (testStart n config.walkForwardFolds defaultInitialTrain)

section

variable {maths : Maths} {config : DatasetConfig} {names : List Feature}

theorem clear_of_gap {now : Option Time} (usable : (assess bars now).usable = true) {c s e : ℕ}
    (from_ : c ≤ s)
    (gap : Gap config.labelConfig bars (usableBars maths config names bars) c) :
    Clear config.labelConfig bars (keptRows maths config names bars) ⟨0, c⟩ ⟨s, e⟩ := by
  intro r held k kept first start j depends
  obtain ⟨here, _⟩ := usable_of_kept kept
  obtain ⟨there, stamped⟩ := usable_of_kept start
  have before : r < c := held.2
  have inside : s < (usableBars maths config names bars).length :=
    (List.getElem?_eq_some_iff.mp there).1
  have lastIs : ∃ last, (usableBars maths config names bars)[c - 1]? = some last :=
    ⟨_, List.getElem?_eq_getElem (by omega)⟩
  have nextIs : ∃ next, (usableBars maths config names bars)[c]? = some next :=
    ⟨_, List.getElem?_eq_getElem (by omega)⟩
  obtain ⟨last, lastAt⟩ := lastIs
  obtain ⟨next, nextAt⟩ := nextIs
  have upToLast : k.index ≤ last := by
    rcases (show r ≤ c - 1 by omega).eq_or_lt with rfl | lt
    · exact (Option.some.inj (here.symm.trans lastAt)).le
    · exact (usable_lt lt here lastAt).le
  have fromNext : next ≤ first.index := by
    rcases from_.eq_or_lt with rfl | lt
    · exact (Option.some.inj (nextAt.symm.trans there)).le
    · exact (usable_lt lt nextAt there).le
  have reach := (depends_of_usable lastAt).lt_length
  have within := (depends_of_usable there).lt_length
  rw [stamped]
  calc timeOf bars j ≤ timeOf bars (last + config.labelConfig.horizon) :=
        ordered_of_usable usable (by have := depends.le; omega) reach
    _ < timeOf bars next := gap last lastAt next nextAt
    _ ≤ timeOf bars first.index := ordered_of_usable usable fromNext (by omega)

theorem clear_iff_gap {now : Option Time} (usable : (assess bars now).usable = true) {c e : ℕ}
    (some_ : 1 ≤ c) :
    Clear config.labelConfig bars (keptRows maths config names bars) ⟨0, c⟩ ⟨c, e⟩ ↔
      Gap config.labelConfig bars (usableBars maths config names bars) c := by
  refine ⟨fun clear last lastAt next nextAt => ?_, clear_of_gap usable le_rfl⟩
  obtain ⟨k, kept, rfl⟩ := kept_of_usable lastAt
  obtain ⟨first, start, rfl⟩ := kept_of_usable nextAt
  have held : Rows.Holds ⟨0, c⟩ (c - 1) := ⟨Nat.zero_le _, by dsimp only; omega⟩
  have before := clear (c - 1) held k kept first start _ (depends_of_usable lastAt)
  rwa [(usable_of_kept start).2] at before

end

def InOrder (rows : List DatasetRow) (earlier later : Rows) : Prop :=
  ∀ r s, earlier.Holds r → later.Holds s → ∀ a ∈ rows[r]?, ∀ b ∈ rows[s]?, a.at_ < b.at_

structure WellSplit (d : Dataset) : Prop where
  sorted : (d.rows.map DatasetRow.at_).Pairwise (· ≤ ·)
  split : ∃ s, d.split = some s ∧
    Tiles [s.train, s.validation, s.test] 0 d.rows.length ∧
    InOrder d.rows s.train s.validation ∧ InOrder d.rows s.validation s.test
  tested : ∃ first, Tiles (d.folds.map Fold.test) first d.rows.length
  folds : ∀ fold ∈ d.folds, Tiles [fold.train, fold.test] 0 fold.test.stop ∧
    1 ≤ fold.train.stop ∧ fold.test.start < fold.test.stop ∧ fold.test.stop ≤ d.rows.length

structure NoOverlap (config : DatasetConfig) (bars : List Bar) (kept : List Kept) (d : Dataset) :
    Prop where
  split : ∀ s, d.split = some s → Clear config.labelConfig bars kept s.train s.validation ∧
    Clear config.labelConfig bars kept s.train s.test
  folds : ∀ fold ∈ d.folds, Clear config.labelConfig bars kept fold.train fold.test

theorem ordered_of_audit {maths : Maths} {config : DatasetConfig} {names : List Feature}
    {bars : List Bar} {kept : List Kept} {split : Split} {scaler : Option Scaler}
    {findings : List Finding}
    (audited : audit maths config names bars kept split scaler = .ok findings)
    (passed : findings.all Finding.passed = true) :
    (splitsAreOrdered (kept.map fun k => k.row.at_) split).passed = true := by
  refine List.all_eq_true.mp passed _ ?_
  unfold audit at audited
  cases scaler with
  | none =>
    cases audited
    simp
  | some scaler =>
    dsimp only at audited
    cases fitted : scalerFittedOnTrainOnly maths scaler (kept.map fun k => k.row.features) split
        names with
    | error e =>
      rw [fitted] at audited
      cases audited
    | ok finding =>
      rw [fitted] at audited
      cases audited
      simp

theorem inOrder_of_ends {rows : List DatasetRow} {earlier later : Rows}
    (sorted : (rows.map DatasetRow.at_).Pairwise (· ≤ ·)) (fits : earlier.stop ≤ rows.length)
    (ends : (rows.map DatasetRow.at_).getD (earlier.stop - 1) 0 <
      (rows.map DatasetRow.at_).getD later.start 0) : InOrder rows earlier later := by
  have upTo : ∀ (i j : ℕ) (a b : DatasetRow), i ≤ j → rows[i]? = some a → rows[j]? = some b →
      a.at_ ≤ b.at_ := by
    intro i j a b le here there
    obtain ⟨inside, rfl⟩ := List.getElem?_eq_some_iff.mp here
    obtain ⟨inside', rfl⟩ := List.getElem?_eq_some_iff.mp there
    rcases le.eq_or_lt with rfl | lt
    · exact le_rfl
    · have := List.pairwise_iff_getElem.mp sorted i j (by simpa using inside)
        (by simpa using inside') lt
      rwa [List.getElem_map, List.getElem_map] at this
  have read : ∀ i (inside : i < rows.length),
      (rows.map DatasetRow.at_).getD i 0 = rows[i].at_ := by
    intro i inside
    rw [List.getD_eq_getElem?_getD, List.getElem?_map, List.getElem?_eq_getElem inside]
    rfl
  rintro r s ⟨_, before⟩ ⟨after, _⟩ a here b there
  have inside : s < rows.length := (List.getElem?_eq_some_iff.mp there).1
  have last : earlier.stop - 1 < rows.length := by omega
  have first : later.start < rows.length := by omega
  rw [read _ last, read _ first] at ends
  calc a.at_ ≤ rows[earlier.stop - 1].at_ :=
        upTo r _ _ _ (by omega) here (List.getElem?_eq_getElem last)
    _ < rows[later.start].at_ := ends
    _ ≤ b.at_ := upTo _ s _ _ after (List.getElem?_eq_getElem first) there

theorem ready_cases {maths : Maths} {bars : List Bar} {config : DatasetConfig} {now : Option Time}
    {d : Dataset} (built : build maths bars config now = .ok d) (ready : d.status = .ready) :
    (assess bars now).usable = true ∧
      d.rows = (keptBy maths config now bars).map Kept.row ∧
      ∃ split, d.split = some split ∧
        chronological (d.rows.map DatasetRow.at_) config.trainFraction
          config.validationFraction = .ok split ∧
        walkForward (d.rows.map DatasetRow.at_) config.walkForwardFolds defaultInitialTrain =
          .ok d.folds ∧
        (splitsAreOrdered (d.rows.map DatasetRow.at_) split).passed = true := by
  rcases build_cases built with
    ⟨reason, status, dropped, unready, rfl⟩ |
    ⟨split, folds, scaler, findings, ⟨usable, reached⟩, rfl⟩
  · exact absurd ready unready
  · have passed : findings.all Finding.passed = true := by
      by_contra failed
      rw [if_neg failed] at ready
      cases ready
    have times : ((keptRows maths config (usableNames bars config now) bars).map Kept.row).map
        DatasetRow.at_ = (keptRows maths config (usableNames bars config now) bars).map
          fun k => k.row.at_ := List.map_map
    have cut_ := reached.cut
    unfold cut at cut_
    refine ⟨usable, rfl, split, rfl, ?_⟩
    rw [times]
    cases chosen : chronological ((keptRows maths config (usableNames bars config now) bars).map
        fun k => k.row.at_) config.trainFraction config.validationFraction with
    | error e =>
      rw [chosen] at cut_
      cases cut_
    | ok split' =>
      rw [chosen] at cut_
      cases walked : walkForward ((keptRows maths config (usableNames bars config now) bars).map
          fun k => k.row.at_) config.walkForwardFolds defaultInitialTrain with
      | error e =>
        rw [walked] at cut_
        cases cut_
      | ok folds' =>
        rw [walked] at cut_
        cases cut_
        exact ⟨rfl, rfl, ordered_of_audit reached.audited passed⟩

theorem splitsAreOrdered_passed {times : List Time} {split : Split}
    (passed : (splitsAreOrdered times split).passed = true) :
    split.validation.start < split.validation.stop ∧
      times.getD (split.train.stop - 1) 0 < times.getD split.validation.start 0 ∧
      times.getD (split.validation.stop - 1) 0 < times.getD split.test.start 0 := by
  obtain ⟨nonempty, first, second⟩ := of_decide_eq_true passed
  exact ⟨nonempty split.validation (by simp), first, second⟩

theorem wellSplit_of_ready {maths : Maths} {bars : List Bar} {config : DatasetConfig}
    {now : Option Time} {d : Dataset} (built : build maths bars config now = .ok d)
    (ready : d.status = .ready) : WellSplit d := by
  obtain ⟨usable, rows, split, splits, chosen, walked, passed⟩ := ready_cases built ready
  obtain ⟨nonempty, first, second⟩ := splitsAreOrdered_passed passed
  obtain ⟨_, _, _, _, _, upTo, below⟩ := chronological_ok chosen
  obtain ⟨tests, folds⟩ := tiles_walkForward walked
  have parts := tiles_chronological chosen nonempty
  rw [List.length_map] at parts tests below
  have sorted : (d.rows.map DatasetRow.at_).Pairwise (· ≤ ·) := by
    have times : d.rows.map DatasetRow.at_ =
        (usableBars maths config (usableNames bars config now) bars).map (timeOf bars) := by
      have both := congrArg (List.map Prod.snd)
        (map_keptRows maths config (usableNames bars config now) bars)
      rw [List.map_map, List.map_map] at both
      rw [rows, keptBy, List.map_map]
      exact both
    rw [times]
    refine List.pairwise_map.mpr (List.Pairwise.imp_of_mem (fun {i j} _ mem lt => ?_)
      (List.pairwise_lt_range.filter _))
    exact ordered_of_usable usable lt.le (List.mem_range.mp (List.mem_filter.mp mem).1)
  exact {
    sorted := sorted
    split := ⟨split, splits, parts, inOrder_of_ends sorted (by omega) first,
      inOrder_of_ends sorted (by omega) second⟩
    tested := ⟨_, tests⟩
    folds := fun fold mem => by
      have := folds fold mem
      rwa [List.length_map] at this }

theorem length_of_rows {maths : Maths} {bars : List Bar} {config : DatasetConfig}
    {now : Option Time} {d : Dataset}
    (rows : d.rows = (keptBy maths config now bars).map Kept.row) :
    (d.rows.map DatasetRow.at_).length =
      (usableBars maths config (usableNames bars config now) bars).length := by
  rw [List.length_map, rows, List.length_map, keptBy, length_keptRows]

theorem gap_of_noOverlap {maths : Maths} {bars : List Bar} {config : DatasetConfig}
    {now : Option Time} {d : Dataset} (built : build maths bars config now = .ok d)
    (ready : d.status = .ready)
    (clear : NoOverlap config bars (keptBy maths config now bars) d) :
    ∀ c ∈ cuts config (usableBars maths config (usableNames bars config now) bars).length,
      Gap config.labelConfig bars
        (usableBars maths config (usableNames bars config now) bars) c := by
  obtain ⟨usable, rows, split, splits, chosen, walked, _⟩ := ready_cases built ready
  have count := length_of_rows rows
  obtain ⟨one, share_, trains, validates, tests, upTo, _⟩ := chronological_ok chosen
  obtain ⟨_, first, _, folds⟩ := walkForward_ok walked
  rw [count] at share_ first folds
  intro c among
  rcases List.mem_cons.mp among with rfl | among
  · have free := (clear.split _ splits).1
    rw [trains, validates] at free
    rw [← share_]
    exact (clear_iff_gap usable one).mp free
  · obtain ⟨k, inside, rfl⟩ := List.mem_map.mp among
    have free := clear.folds _ (folds ▸ List.mem_map_of_mem inside)
    refine (clear_iff_gap usable ?_).mp free
    exact first.trans (Nat.le_add_right _ _)

theorem noOverlap_of_gap {maths : Maths} {bars : List Bar} {config : DatasetConfig}
    {now : Option Time} {d : Dataset} (built : build maths bars config now = .ok d)
    (ready : d.status = .ready)
    (gaps : ∀ c ∈ cuts config (usableBars maths config (usableNames bars config now) bars).length,
      Gap config.labelConfig bars (usableBars maths config (usableNames bars config now) bars) c) :
    NoOverlap config bars (keptBy maths config now bars) d := by
  obtain ⟨usable, rows, split, splits, chosen, walked, _⟩ := ready_cases built ready
  have count := length_of_rows rows
  obtain ⟨one, share_, trains, validates, tests, upTo, _⟩ := chronological_ok chosen
  obtain ⟨_, _, _, folds⟩ := walkForward_ok walked
  rw [count] at share_ folds
  refine ⟨fun s chosen' => ?_, fun fold mem => ?_⟩
  · have gap := gaps _ List.mem_cons_self
    rw [← share_] at gap
    obtain rfl : split = s := Option.some.inj (splits.symm.trans chosen')
    rw [trains, validates, tests]
    exact ⟨clear_of_gap usable le_rfl gap, clear_of_gap usable upTo gap⟩
  · rw [folds] at mem
    obtain ⟨k, inside, rfl⟩ := List.mem_map.mp mem
    have gap := gaps _ (List.mem_cons_of_mem _ (List.mem_map_of_mem inside))
    exact clear_of_gap usable le_rfl gap

/-- The labels of the training rows of a dataset that is READY stay clear of what is held out from
them exactly where, at each cut, the horizon of the last usable bar ends before the next one. -/
theorem ready_noOverlap_iff {maths : Maths} {bars : List Bar} {config : DatasetConfig}
    {now : Option Time} {d : Dataset} (built : build maths bars config now = .ok d)
    (ready : d.status = .ready) :
    (WellSplit d ∧ NoOverlap config bars (keptBy maths config now bars) d) ↔
      ∀ c ∈ cuts config (usableBars maths config (usableNames bars config now) bars).length,
        Gap config.labelConfig bars (usableBars maths config (usableNames bars config now) bars)
          c :=
  ⟨fun both => gap_of_noOverlap built ready both.2,
    fun gaps => ⟨wellSplit_of_ready built ready, noOverlap_of_gap built ready gaps⟩⟩

def hourly (volumes : List (Option ℚ)) : List Bar :=
  volumes.zipIdx.map fun (volume, i) =>
    { symbol := "EURUSD", timeframe := .h1, barTime := 3600 * i, open_ := 1, high := 1, low := 1,
      close := 1, volume }

def volumeDataset : DatasetConfig where
  symbol := "EURUSD"
  timeframe := .h1
  labelConfig := { spreadPoints := 0, horizon := 1 }
  featureNames := [.volumeChange1]
  labelNames := [.direction]
  walkForwardFolds := 2
  normalise := false

def noMaths : Maths := ⟨fun _ => 0, fun _ => 0⟩

def interrupted : List Bar :=
  hourly [some 1, some 1, some 1, some 1, some 1, none, some 1, some 1, some 1, none,
    some 1, some 1,
    none, some 1, some 1, some 1, some 1, some 1]

theorem exists_ready (bars : List Bar) (decided : (build noMaths bars volumeDataset
    none).toOption.map
    Dataset.status = some .ready) :
    ∃ d, build noMaths bars volumeDataset none = .ok d ∧ d.status = .ready := by
  cases built : build noMaths bars volumeDataset none with
  | error e =>
    rw [built] at decided
    cases decided
  | ok d =>
    rw [built] at decided
    exact ⟨d, rfl, Option.some.inj decided⟩

theorem ready_noOverlap_interrupted : ∃ d, build noMaths interrupted volumeDataset none = .ok d ∧
    d.status = .ready ∧ WellSplit d ∧
      NoOverlap volumeDataset interrupted (keptBy noMaths volumeDataset none interrupted) d := by
  obtain ⟨d, built, ready⟩ := exists_ready interrupted (by decide +kernel)
  exact ⟨d, built, ready, (ready_noOverlap_iff built ready).mpr (by unfold Gap; decide +kernel)⟩

/-- Twelve bars in a row give a dataset that is READY, and the label of its last training row is
read off the first row of its validation part. -/
theorem not_forall_noOverlap : ¬∀ (maths : Maths) (bars : List Bar) (config : DatasetConfig)
    (now : Option Time) (d : Dataset), build maths bars config now = .ok d → d.status = .ready →
      WellSplit d ∧ NoOverlap config bars (keptBy maths config now bars) d := by
  intro all
  let steady := hourly (List.replicate 12 (some 1))
  obtain ⟨d, built, ready⟩ := exists_ready steady (by decide +kernel)
  have gaps := gap_of_noOverlap built ready (all _ _ _ _ d built ready).2
  exact absurd gaps (by unfold Gap; decide +kernel)

end TradeResearch.Datasets
