import TradeResearch.Datasets.Builder

/-!
# Datasets cannot see the future

Two series that agree on their first `k` bars are given to the engines and to the builder.

* `keptRows_two_run`: the rows whose horizon ends before bar `k` are the same.
* `rows_of_build`: what a dataset holds are the rows that were kept, or none.
* `datasets_two_run`: so are the rows of features below `k`, and those of labels.
-/

namespace TradeResearch.Datasets

open Marketdata

theorem toOption_admit (total total' index : ℕ) (bar : Bar) (features : FeatureRow)
    (labels : LabelRow) :
    (decideRow config names total index bar features labels).toOption =
      (decideRow config names total' index bar features labels).toOption := by
  unfold decideRow
  split_ifs <;> rfl

theorem index_of_admit {total index : ℕ} {bar : Bar} {features : FeatureRow} {labels : LabelRow}
    {k : Kept} (admitted : decideRow config names total index bar features labels = .ok k) :
    k.index = index := by
  unfold decideRow at admitted
  split_ifs at admitted
  cases admitted
  rfl

def rowAt (maths : Maths) (config : DatasetConfig) (names : List Feature) (bars : List Bar)
    (i : ℕ) : Option Kept :=
  (decideRow config names bars.length i (bars.getD i default)
    ((featureRows maths names bars).getD i []) ((labelRows config.labelConfig bars).getD i
      {})).toOption

theorem index_of_rowAt {bars : List Bar} {i : ℕ} {k : Kept}
    (kept : rowAt maths config names bars i = some k) : k.index = i := by
  unfold rowAt at kept
  cases admitted : decideRow config names bars.length i (bars.getD i default)
      ((featureRows maths names bars).getD i [])
      ((labelRows config.labelConfig bars).getD i {}) with
  | error why =>
    rw [admitted] at kept
    cases kept
  | ok k' =>
    rw [admitted] at kept
    cases kept
    exact index_of_admit admitted

theorem keptRows_eq (bars : List Bar) : keptRows maths config names bars =
    (List.range bars.length).filterMap (rowAt maths config names bars) := by
  unfold keptRows admissions
  rw [List.filterMap_map]
  rfl

theorem rowAt_two_run {bars bars' : List Bar} {k i : ℕ} (agree : bars.take k = bars'.take k)
    (inside : i + config.labelConfig.horizon < k) :
    rowAt maths config names bars i = rowAt maths config names bars' i := by
  have bar : bars[i]? = bars'[i]? := by
    rw [← List.getElem?_take_of_lt (i := i) (j := k) (by omega), agree,
      List.getElem?_take_of_lt (by omega)]
  have features := (within_featureRows maths names).same agree (i := i) (by omega)
  have labels := (within_labelRows config.labelConfig).same agree inside
  unfold rowAt
  rw [List.getD_eq_getElem?_getD, List.getD_eq_getElem?_getD, List.getD_eq_getElem?_getD, bar,
    features, labels, List.getD_eq_getElem?_getD, List.getD_eq_getElem?_getD,
    List.getD_eq_getElem?_getD]
  exact toOption_admit _ _ _ _ _ _

theorem filter_keptRows {bars : List Bar} {k : ℕ} (reaches : k ≤ bars.length) :
    (keptRows maths config names bars).filter
        (fun kept => kept.index + config.labelConfig.horizon < k) =
      (List.range k).filterMap fun i =>
        if i + config.labelConfig.horizon < k then rowAt maths config names bars i else none := by
  have split : List.range bars.length =
      List.range k ++ (List.range (bars.length - k)).map (k + ·) := by
    rw [← List.range_add, Nat.add_sub_cancel' reaches]
  have sifted : ∀ i, (rowAt maths config names bars i).filter
        (fun kept => kept.index + config.labelConfig.horizon < k) =
      if i + config.labelConfig.horizon < k then rowAt maths config names bars i else none := by
    intro i
    cases row : rowAt maths config names bars i with
    | none => exact (ite_self none).symm
    | some kept =>
      rw [Option.filter_some, index_of_rowAt row]
      simp only [decide_eq_true_eq]
  have past : ((List.range (bars.length - k)).map (k + ·)).filterMap (fun i =>
      if i + config.labelConfig.horizon < k then rowAt maths config names bars i
      else none) = [] := by
    refine List.filterMap_eq_nil_iff.mpr fun i among => ?_
    obtain ⟨j, _, rfl⟩ := List.mem_map.mp among
    exact if_neg (by omega)
  rw [keptRows_eq, List.filter_filterMap, split, List.filterMap_append]
  rw [funext sifted, past, List.append_nil]

theorem keptRows_two_run {bars bars' : List Bar} {k : ℕ} (agree : bars.take k = bars'.take k) :
    (keptRows maths config names bars).filter
        (fun kept => kept.index + config.labelConfig.horizon < k) =
      (keptRows maths config names bars').filter
        (fun kept => kept.index + config.labelConfig.horizon < k) := by
  have lengths := congrArg List.length agree
  rw [List.length_take, List.length_take] at lengths
  by_cases short : bars.length < k
  · have whole : bars = bars' := by
      rw [List.take_of_length_le short.le, List.take_of_length_le (by omega)] at agree
      exact agree
    rw [whole]
  · rw [filter_keptRows (by omega), filter_keptRows (by omega)]
    refine List.filterMap_congr fun i _ => ?_
    by_cases inside : i + config.labelConfig.horizon < k
    · rw [if_pos inside, if_pos inside, rowAt_two_run agree inside]
    · rw [if_neg inside, if_neg inside]

def keptBy (maths : Maths) (config : DatasetConfig) (now : Option Time) (bars : List Bar) :
    List Kept :=
  keptRows maths config (usableNames bars config now) bars

theorem rows_of_build {bars : List Bar} {now : Option Time} {d : Dataset}
    (built : build maths bars config now = .ok d) :
    d.rows = [] ∨ d.rows = (keptBy maths config now bars).map Kept.row := by
  rcases build_cases built with ⟨reason, status, dropped, _, rfl⟩ | ⟨_, _, _, _, _, rfl⟩
  · exact .inl rfl
  · exact .inr rfl

/-- Two series that agree on their first `k` bars give the same rows of features below `k`, the same
rows of labels whose horizon ends before `k`, and the builder keeps the same rows of those. -/
theorem datasets_two_run (maths : Maths) {bars bars' : List Bar} {k : ℕ}
    (agree : bars.take k = bars'.take k) :
    (∀ names, ∀ i < k, (computeFeatures maths bars names).map (·[i]?) =
      (computeFeatures maths bars' names).map (·[i]?)) ∧
    (∀ config names i, i + config.horizon < k →
      (computeLabels bars config names).map (·[i]?) =
        (computeLabels bars' config names).map (·[i]?)) ∧
    ∀ config now now', usableNames bars config now = usableNames bars' config now' →
      (keptBy maths config now bars).filter
          (fun kept => kept.index + config.labelConfig.horizon < k) =
        (keptBy maths config now' bars').filter
          (fun kept => kept.index + config.labelConfig.horizon < k) ∧
      (∀ d, build maths bars config now = .ok d →
        d.rows = [] ∨ d.rows = (keptBy maths config now bars).map Kept.row) ∧
      ∀ d, build maths bars' config now' = .ok d →
        d.rows = [] ∨ d.rows = (keptBy maths config now' bars').map Kept.row := by
  refine ⟨fun names i inside => ?_, fun config names i inside => ?_,
    fun config now now' same => ⟨?_, fun d => rows_of_build, fun d => rows_of_build⟩⟩
  · unfold computeFeatures
    cases names.mapM specFor with
    | error e => rfl
    | ok wanted => exact congrArg Except.ok ((within_featureRows maths wanted).same agree inside)
  · unfold computeLabels
    cases names.mapM labelFor with
    | error e => rfl
    | ok _ => exact congrArg Except.ok ((within_labelRows config).same agree inside)
  · unfold keptBy
    rw [same]
    exact keptRows_two_run agree

theorem datasets_two_run_of_two_bars :
    (computeFeatures ⟨fun _ => 0, fun _ => 0⟩
      [⟨"EURUSD", .h1, 0, 1, 2, 1, 2, none, true⟩, ⟨"EURUSD", .h1, 3600, 2, 2, 2, 2, none, true⟩]
      ["body_pct", "hour_utc"]).map (·[0]?) =
    (computeFeatures ⟨fun _ => 0, fun _ => 0⟩
      [⟨"EURUSD", .h1, 0, 1, 2, 1, 2, none, true⟩, ⟨"EURUSD", .h1, 7200, 2, 9, 1, 5, none, true⟩]
      ["body_pct", "hour_utc"]).map (·[0]?) :=
  (datasets_two_run _ rfl).1 _ 0 Nat.zero_lt_one

end TradeResearch.Datasets
