import Mathlib.Data.List.Forall2
import Mathlib.Data.List.MinMax
import TradeResearch.Backtest.Runner
import TradeResearch.Portfolio.Drawdown

/-!
# Equity curves

`periods` of `backend/app/analytics/equity.py`. Values are rationals. How a curve is read from its
rows, the report over its periods and `as_dict` are left out. The running peak of a portfolio, the
episodes of a curve and the curve of a backtest each find the largest drawdown in one pass, with
different things kept; all three are the furthest fall of the values.

* `Episode` is a period, at its places on the curve.
* `told_periods`: the periods of a curve are its episodes, apart and in order, and the deepest is
  the furthest fall of the curve.
* `isLargestDrop_equityCurve`: the largest drawdown of a backtest is that of its balances.
* `drawdowns_agree` puts the three together.
-/

namespace TradeResearch.Analytics

structure Point where
  at_ : Time
  value : ℚ
  ref : Option String := none
  deriving DecidableEq

structure Curve where
  points : List Point
  environment : String
  kind : String
  startingValue : ℚ := 0

structure Period where
  peakAt : Time
  peakValue : ℚ
  troughAt : Time
  troughValue : ℚ
  recoveredAt : Option Time := none
  deriving DecidableEq

namespace Period

variable (p : Period)

def depth : ℚ := p.peakValue - p.troughValue

end Period

structure Scan where
  found : List Period := []
  peak : Point
  trough : Option Point := none

namespace Scan

variable (s : Scan)

def period (trough : Point) (recoveredAt : Option Time) : Period :=
  { peakAt := s.peak.at_, peakValue := s.peak.value, troughAt := trough.at_
    troughValue := trough.value, recoveredAt }

def closed (recoveredAt : Option Time) : List Period :=
  match s.trough with
  | none => s.found
  | some trough => s.found ++ [s.period trough recoveredAt]

def take (point : Point) : Scan :=
  if s.peak.value ≤ point.value then { found := s.closed (some point.at_), peak := point }
  else if s.trough.all (point.value < ·.value) then { s with trough := some point }
  else s

end Scan

def periods (curve : Curve) : List Period :=
  if curve.points.length < 2 then []
  else
    match curve.points with
    | [] => []
    | first :: rest => (rest.foldl Scan.take { peak := first }).closed none

def deepest (found : List Period) : Option Period := found.argmax Period.depth

def maxDrawdown (found : List Period) : ℚ := (deepest found).elim 0 Period.depth

structure Span where
  peak : ℕ
  trough : ℕ
  recovered : Option ℕ

structure Episode (points : List Point) (span : Span) (p : Period) : Prop where
  peak : ∃ x, points[span.peak]? = some x ∧ x.at_ = p.peakAt ∧ x.value = p.peakValue
  trough : ∃ x, points[span.trough]? = some x ∧ x.at_ = p.troughAt ∧ x.value = p.troughValue
  later : span.peak < span.trough
  within : ∀ r, span.recovered = some r → span.trough < r
  below : ∀ (i : ℕ) x, points[i]? = some x → span.peak < i →
    (∀ r, span.recovered = some r → i < r) →
    x.value < p.peakValue ∧ p.troughValue ≤ x.value
  recovered : ∀ r, span.recovered = some r →
    ∃ x, points[r]? = some x ∧ p.recoveredAt = some x.at_ ∧ p.peakValue ≤ x.value
  open_ : span.recovered = none → p.recoveredAt = none

def Span.Before (a b : Span) : Prop := ∃ r, a.recovered = some r ∧ r ≤ b.peak

def Episodes (points : List Point) (found : List Period) : Prop :=
  ∃ spans : List Span, List.Forall₂ (Episode points) spans found ∧ spans.Pairwise Span.Before

structure Scanned (points : List Point) (place : ℕ) (s : Scan) : Prop where
  peak : points[place]? = some s.peak
  highest : IsPeak (points.map Point.value) s.peak.value
  fallen : ∀ (i : ℕ) x, points[i]? = some x → place < i → x.value < s.peak.value
  level : s.trough = none → place + 1 = points.length
  trough : ∀ t, s.trough = some t → ∃ k, place < k ∧ points[k]? = some t ∧
    ∀ (i : ℕ) x, points[i]? = some x → place < i → t.value ≤ x.value
  found : ∃ spans : List Span, List.Forall₂ (Episode points) spans s.found ∧
    spans.Pairwise Span.Before ∧ ∀ span ∈ spans, ∃ r, span.recovered = some r ∧ r ≤ place

def depths (found : List Period) : Set ℚ := {d | ∃ p ∈ found, p.depth = d}

def Deep (points : List Point) (s : Scan) : Prop :=
  ∃ d, IsLargestDrop (points.map Point.value) d ∧ IsGreatest (insert 0 (depths (s.closed none))) d

section Points

variable {points : List Point} {place : ℕ} {s : Scan} {point : Point} {p : Period}

theorem getElem?_append_of_some {i : ℕ} {x : Point} (here : points[i]? = some x) (point : Point) :
    (points ++ [point])[i]? = some x := by
  rw [List.getElem?_append_left (List.getElem?_eq_some_iff.mp here).1, here]

theorem getElem?_append_cases {i : ℕ} {x : Point} (here : (points ++ [point])[i]? = some x) :
    points[i]? = some x ∨ (i = points.length ∧ x = point) := by
  by_cases inside : i < points.length
  · rw [List.getElem?_append_left inside] at here
    exact Or.inl here
  · rw [List.getElem?_append_right (not_lt.mp inside)] at here
    have bound := (List.getElem?_eq_some_iff.mp here).1
    rw [List.length_singleton] at bound
    exact Or.inr ⟨by omega, List.mem_singleton.mp (List.mem_of_getElem? here)⟩

theorem Episode.append (episode : Episode points span p) {r : ℕ} (over_ : span.recovered = some r)
    (point : Point) : Episode (points ++ [point]) span p := by
  obtain ⟨x, atPeak, px⟩ := episode.peak
  obtain ⟨y, atTrough, py⟩ := episode.trough
  refine ⟨⟨x, getElem?_append_of_some atPeak point, px⟩,
    ⟨y, getElem?_append_of_some atTrough point, py⟩, episode.later, episode.within, ?_, ?_,
    episode.open_⟩
  · intro i z here after before
    obtain ⟨w, last, -⟩ := episode.recovered r over_
    have inside := (List.getElem?_eq_some_iff.mp last).1
    rcases getElem?_append_cases here with here | ⟨rfl, -⟩
    · exact episode.below i z here after before
    · exact absurd (before r over_) (by omega)
  · intro r' is
    obtain ⟨w, last, at_, high⟩ := episode.recovered r' is
    exact ⟨w, getElem?_append_of_some last point, at_, high⟩

theorem forall₂_append {spans : List Span} {found : List Period}
    (episodes : List.Forall₂ (Episode points) spans found)
    (ended : ∀ span ∈ spans, ∃ r, span.recovered = some r) (point : Point) :
    List.Forall₂ (Episode (points ++ [point])) spans found := by
  refine List.forall₂_iff_zip.mpr ⟨episodes.length_eq, fun {span p} mem => ?_⟩
  obtain ⟨r, over_⟩ := ended span (List.of_mem_zip mem).1
  exact ((List.forall₂_iff_zip.mp episodes).2 mem).append over_ point

theorem Scanned.episode (scanned : Scanned points place s) {t : Point} (is : s.trough = some t) :
    ∃ span : Span, span.peak = place ∧ span.recovered = none ∧
      Episode points span (s.period t none) := by
  obtain ⟨k, later, here, lowest⟩ := scanned.trough t is
  refine ⟨⟨place, k, none⟩, rfl, rfl, ⟨s.peak, scanned.peak, rfl, rfl⟩, ⟨t, here, rfl, rfl⟩, later,
    ?_, ?_, ?_, fun _ => rfl⟩
  · intro r here
    cases here
  · intro i x here after _
    exact ⟨scanned.fallen i x here after, lowest i x here after⟩
  · intro r here
    cases here

theorem Scanned.episode_closed (scanned : Scanned points place s) {t : Point}
    (is : s.trough = some t) (regained : s.peak.value ≤ point.value) :
    ∃ span : Span, span.peak = place ∧ span.recovered = some points.length ∧
      Episode (points ++ [point]) span (s.period t (some point.at_)) := by
  obtain ⟨k, later, here, lowest⟩ := scanned.trough t is
  refine ⟨⟨place, k, some points.length⟩, rfl, rfl,
    ⟨s.peak, getElem?_append_of_some scanned.peak point, rfl, rfl⟩,
    ⟨t, getElem?_append_of_some here point, rfl, rfl⟩, later, ?_, ?_, ?_, ?_⟩
  · intro r last
    cases last
    exact (List.getElem?_eq_some_iff.mp here).1
  · intro i x at_ after before
    rcases getElem?_append_cases at_ with old | ⟨rfl, -⟩
    · exact ⟨scanned.fallen i x old after, lowest i x old after⟩
    · exact absurd (before _ rfl) (lt_irrefl _)
  · intro r last
    cases last
    exact ⟨point, List.getElem?_concat_length, rfl, regained⟩
  · intro none_
    cases none_

theorem Scanned.found_closed (scanned : Scanned points place s)
    (regained : s.peak.value ≤ point.value) :
    ∃ spans : List Span,
      List.Forall₂ (Episode (points ++ [point])) spans (s.closed (some point.at_)) ∧
        spans.Pairwise Span.Before ∧
          ∀ span ∈ spans, ∃ r, span.recovered = some r ∧ r ≤ points.length := by
  obtain ⟨spans, episodes, apart, ended⟩ := scanned.found
  have inside : place < points.length := (List.getElem?_eq_some_iff.mp scanned.peak).1
  have kept := forall₂_append episodes (fun span mem => (ended span mem).imp fun _ is => is.1) point
  unfold Scan.closed
  cases is : s.trough with
  | none =>
    refine ⟨spans, kept, apart, fun span mem => ?_⟩
    obtain ⟨r, over_, before⟩ := ended span mem
    exact ⟨r, over_, before.trans inside.le⟩
  | some t =>
    obtain ⟨span, start, over_, episode⟩ := scanned.episode_closed is regained
    refine ⟨spans ++ [span], List.rel_append kept (.cons episode .nil), ?_, ?_⟩
    · refine List.pairwise_append.mpr ⟨apart, List.pairwise_singleton _ _, fun a mem b last => ?_⟩
      obtain ⟨r, is, before⟩ := ended a mem
      cases List.mem_singleton.mp last
      exact ⟨r, is, start ▸ before⟩
    · intro a mem
      rcases List.mem_append.mp mem with old | new
      · obtain ⟨r, is, before⟩ := ended a old
        exact ⟨r, is, before.trans inside.le⟩
      · cases List.mem_singleton.mp new
        exact ⟨_, over_, le_rfl⟩

theorem Scanned.take (scanned : Scanned points place s) (point : Point) :
    ∃ place', Scanned (points ++ [point]) place' (s.take point) := by
  have inside : place < points.length := (List.getElem?_eq_some_iff.mp scanned.peak).1
  have high := scanned.highest.append point.value
  have values : (points ++ [point]).map Point.value = points.map Point.value ++ [point.value] :=
    List.map_append ..
  have length : (points ++ [point]).length = points.length + 1 := List.length_append
  unfold Scan.take
  by_cases regained : s.peak.value ≤ point.value
  · rw [if_pos regained]
    refine ⟨points.length, List.getElem?_concat_length, ?_, ?_, fun _ => length.symm, ?_,
      scanned.found_closed regained⟩
    · rw [values]
      rwa [max_eq_right regained] at high
    · intro i x here after
      have bound := (List.getElem?_eq_some_iff.mp here).1
      omega
    · intro t is
      cases is
  · have lower : point.value < s.peak.value := not_le.mp regained
    have highest : IsPeak ((points ++ [point]).map Point.value) s.peak.value := by
      rw [values]
      rwa [max_eq_left lower.le] at high
    have fallen : ∀ (i : ℕ) x, (points ++ [point])[i]? = some x → place < i →
        x.value < s.peak.value := by
      intro i x here after
      rcases getElem?_append_cases here with old | ⟨-, rfl⟩
      · exact scanned.fallen i x old after
      · exact lower
    obtain ⟨spans, episodes, apart, ended⟩ := scanned.found
    have kept := forall₂_append episodes
      (fun span mem => (ended span mem).imp fun _ is => is.1) point
    have peak := getElem?_append_of_some scanned.peak point
    rw [if_neg regained]
    by_cases deeper : s.trough.all (point.value < ·.value) = true
    · rw [if_pos deeper]
      refine ⟨place, peak, highest, fallen, (fun none_ => by cases none_), ?_,
        ⟨spans, kept, apart, ended⟩⟩
      intro t is
      cases is
      refine ⟨points.length, inside, List.getElem?_concat_length, ?_⟩
      intro i x here after
      rcases getElem?_append_cases here with old | ⟨-, rfl⟩
      · cases was : s.trough with
        | none =>
          have level := scanned.level was
          have bound := (List.getElem?_eq_some_iff.mp old).1
          omega
        | some t =>
          rw [was] at deeper
          obtain ⟨k, -, -, lowest⟩ := scanned.trough t was
          exact (of_decide_eq_true deeper : point.value < t.value).le.trans (lowest i x old after)
      · exact le_rfl
    · rw [if_neg deeper]
      refine ⟨place, peak, highest, fallen, ?_, ?_, ⟨spans, kept, apart, ended⟩⟩
      · intro none_
        rw [none_] at deeper
        exact absurd rfl deeper
      · intro t is
        obtain ⟨k, later, here, lowest⟩ := scanned.trough t is
        refine ⟨k, later, getElem?_append_of_some here point, ?_⟩
        intro i x at_ after
        rcases getElem?_append_cases at_ with old | ⟨-, rfl⟩
        · exact lowest i x old after
        · rw [is] at deeper
          exact not_lt.mp fun less => deeper (decide_eq_true less)

theorem depths_closed (recoveredAt : Option Time) :
    depths (s.closed recoveredAt) = depths (s.closed none) := by
  unfold Scan.closed
  cases s.trough with
  | none => rfl
  | some t =>
    ext d
    simp [depths, Scan.period, Period.depth]

theorem depths_append (found : List Period) (p : Period) :
    depths (found ++ [p]) = insert p.depth (depths found) := by
  ext d
  simp [depths, or_comm, eq_comm]

theorem deepest_of_deeper {d : ℚ} (deepest : IsGreatest (insert 0 (depths (s.closed none))) d)
    (deeper : s.trough.all (point.value < ·.value) = true) :
    IsGreatest (insert 0 (insert (s.peak.value - point.value) (depths s.found)))
      (max d (s.peak.value - point.value)) := by
  have found : depths s.found ⊆ depths (s.closed none) := by
    unfold Scan.closed
    cases s.trough with
    | none => exact subset_rfl
    | some t =>
      rw [depths_append]
      exact Set.subset_insert _ _
  have most : d ∈ insert 0 (depths s.found) ∨ d ≤ s.peak.value - point.value := by
    have mem := deepest.1
    unfold Scan.closed at mem
    cases is : s.trough with
    | none =>
      rw [is] at mem
      exact Or.inl mem
    | some t =>
      rw [is] at mem deeper
      rw [depths_append] at mem
      rcases mem with zero | this | old
      · exact Or.inl (Or.inl zero)
      · have less : point.value < t.value := of_decide_eq_true deeper
        exact Or.inr (this.le.trans (sub_le_sub_left less.le _))
      · exact Or.inl (Or.inr old)
  constructor
  · rcases le_total d (s.peak.value - point.value) with below | above
    · rw [max_eq_right below]
      exact Or.inr (Or.inl rfl)
    · rw [max_eq_left above]
      rcases most with (zero | old) | below
      · exact Or.inl zero
      · exact Or.inr (Or.inr old)
      · exact Or.inr (Or.inl (le_antisymm below above))
  · rintro e (rfl | rfl | old)
    · exact (deepest.2 (Set.mem_insert _ _)).trans (le_max_left _ _)
    · exact le_max_right _ _
    · exact (deepest.2 (Or.inr (found old))).trans (le_max_left _ _)

theorem Scanned.deep_take (scanned : Scanned points place s) (deep : Deep points s)
    (point : Point) : Deep (points ++ [point]) (s.take point) := by
  obtain ⟨d, largest, deepest⟩ := deep
  have values : (points ++ [point]).map Point.value = points.map Point.value ++ [point.value] :=
    List.map_append ..
  have high := scanned.highest.append point.value
  have none_ : 0 ≤ d := largest.2 (Set.mem_insert _ _)
  unfold Deep Scan.take
  rw [values]
  by_cases regained : s.peak.value ≤ point.value
  · rw [max_eq_right regained] at high
    have next := largest.append high
    rw [sub_self, max_eq_left none_] at next
    rw [if_pos regained]
    refine ⟨d, next, ?_⟩
    show IsGreatest (insert 0 (depths (s.closed (some point.at_)))) d
    rwa [depths_closed]
  · rw [max_eq_left (not_le.mp regained).le] at high
    have next := largest.append high
    rw [if_neg regained]
    by_cases deeper : s.trough.all (point.value < ·.value) = true
    · rw [if_pos deeper]
      refine ⟨_, next, ?_⟩
      have now : depths (Scan.closed { s with trough := some point } none) =
          insert (s.peak.value - point.value) (depths s.found) := depths_append _ _
      rw [now]
      exact deepest_of_deeper deepest deeper
    · rw [if_neg deeper]
      cases is : s.trough with
      | none =>
        rw [is] at deeper
        exact absurd rfl deeper
      | some t =>
        rw [is] at deeper
        have above : t.value ≤ point.value := not_lt.mp fun less => deeper (decide_eq_true less)
        have open_ : s.closed none = s.found ++ [s.period t none] := by
          unfold Scan.closed
          rw [is]
        have before : s.peak.value - t.value ≤ d := by
          refine deepest.2 (Or.inr ?_)
          rw [open_, depths_append]
          exact Or.inl rfl
        have same : s.peak.value - point.value ≤ d := (sub_le_sub_left above _).trans before
        rw [max_eq_left same] at next
        exact ⟨d, next, deepest⟩

theorem scanned_foldl (first : Point) (rest : List Point) :
    ∃ place, Scanned (first :: rest) place (rest.foldl Scan.take { peak := first }) ∧
      Deep (first :: rest) (rest.foldl Scan.take { peak := first }) := by
  induction rest using List.reverseRecOn with
  | nil =>
    refine ⟨0, ⟨rfl, isPeak_singleton _, ?_, fun _ => rfl, ?_, ⟨[], .nil, .nil, ?_⟩⟩,
      0, isLargestDrop_singleton _, ⟨Set.mem_insert _ _, ?_⟩⟩
    · intro i x here after
      have bound := (List.getElem?_eq_some_iff.mp here).1
      rw [List.length_singleton] at bound
      omega
    · intro t is
      cases is
    · intro span mem
      cases mem
    · rintro d (rfl | ⟨p, mem, -⟩)
      · exact le_rfl
      · cases mem
  | append_singleton rest point ih =>
    obtain ⟨place, scanned, deep⟩ := ih
    obtain ⟨place', next⟩ := scanned.take point
    rw [List.foldl_append, ← List.cons_append]
    exact ⟨place', next, scanned.deep_take deep point⟩

end Points

theorem Episode.depth_pos {points : List Point} {span : Span} {p : Period}
    (episode : Episode points span p) : 0 < p.depth := by
  obtain ⟨x, here, -, value⟩ := episode.trough
  have below := (episode.below span.trough x here episode.later episode.within).1
  exact sub_pos.mpr (value ▸ below)

theorem maxDrawdown_eq {found : List Period} {d : ℚ}
    (deepest_ : IsGreatest (insert 0 (depths found)) d) (falls : ∀ p ∈ found, 0 < p.depth) :
    maxDrawdown found = d := by
  unfold maxDrawdown deepest
  cases is : found.argmax Period.depth with
  | none =>
    rw [List.argmax_eq_none] at is
    rcases deepest_.1 with zero | ⟨p, mem, -⟩
    · exact zero.symm
    · rw [is] at mem
      cases mem
  | some p =>
    have mem := List.argmax_mem is
    refine le_antisymm (deepest_.2 (Or.inr ⟨p, mem, rfl⟩)) ?_
    rcases deepest_.1 with rfl | ⟨q, here, rfl⟩
    · exact (falls p mem).le
    · exact List.le_of_mem_argmax here is

theorem Scanned.episodes {points : List Point} {place : ℕ} {s : Scan}
    (scanned : Scanned points place s) : Episodes points (s.closed none) := by
  obtain ⟨spans, episodes, apart, ended⟩ := scanned.found
  unfold Scan.closed
  cases is : s.trough with
  | none => exact ⟨spans, episodes, apart⟩
  | some t =>
    obtain ⟨span, start, -, episode⟩ := scanned.episode is
    refine ⟨spans ++ [span], List.rel_append episodes (.cons episode .nil), ?_⟩
    refine List.pairwise_append.mpr ⟨apart, List.pairwise_singleton _ _, fun a mem b last => ?_⟩
    obtain ⟨r, over_, before⟩ := ended a mem
    cases List.mem_singleton.mp last
    exact ⟨r, over_, start ▸ before⟩

theorem Episodes.depth_pos {points : List Point} {found : List Period}
    (episodes : Episodes points found) : ∀ p ∈ found, 0 < p.depth := by
  obtain ⟨spans, each, -⟩ := episodes
  induction each with
  | nil => exact fun p mem => by cases mem
  | cons episode _ ih =>
    intro p mem
    rcases List.mem_cons.mp mem with rfl | mem
    · exact episode.depth_pos
    · exact ih p mem

theorem periods_of_cons (curve : Curve) {first : Point} {rest : List Point}
    (points : curve.points = first :: rest) :
    periods curve = (rest.foldl Scan.take { peak := first }).closed none := by
  unfold periods
  rw [points]
  cases rest with
  | nil | cons second rest => rfl

theorem told_periods (curve : Curve) :
    Episodes curve.points (periods curve) ∧
      IsLargestDrop (curve.points.map Point.value) (maxDrawdown (periods curve)) := by
  cases points : curve.points with
  | nil =>
    have none_ : periods curve = [] := by
      unfold periods
      rw [points]
      rfl
    rw [none_]
    exact ⟨⟨[], .nil, .nil⟩, isLargestDrop_nil⟩
  | cons first rest =>
    obtain ⟨place, scanned, d, largest, deepest⟩ := scanned_foldl first rest
    rw [periods_of_cons curve points]
    have episodes := scanned.episodes
    rw [maxDrawdown_eq deepest episodes.depth_pos]
    exact ⟨episodes, largest⟩

end TradeResearch.Analytics

namespace TradeResearch.Analytics

open Backtest Portfolio

def largestDrawdown (curve : List CurvePoint) : ℚ := (curve.map CurvePoint.drawdown).max?.getD 0

theorem isLargestDrop_curveFrom {balances found : List ℚ} {balance peak d : ℚ}
    (high : IsPeak balances peak) (largest : IsLargestDrop balances d) (most : IsPeak found d)
    (trades : List TradeRecord) :
    ∃ d', IsLargestDrop
        (balances ++ (curveFrom unrounded balance peak trades).map CurvePoint.balance) d' ∧
      IsPeak (found ++ (curveFrom unrounded balance peak trades).map CurvePoint.drawdown) d' := by
  induction trades generalizing balances found balance peak d with
  | nil =>
    unfold curveFrom
    rw [List.map_nil, List.map_nil, List.append_nil, List.append_nil]
    exact ⟨d, largest, most⟩
  | cons trade trades ih =>
    have high' := high.append (balance + trade.netMoney)
    obtain ⟨d', next, kept⟩ := ih high' (largest.append high') (most.append _)
    unfold curveFrom
    rw [List.map_cons, List.map_cons, List.append_cons, List.append_cons found]
    exact ⟨d', next, kept⟩

theorem isLargestDrop_equityCurve (trades : List TradeRecord) (config : BacktestConfig) :
    IsLargestDrop ((equityCurve unrounded trades config).map CurvePoint.balance)
      (largestDrawdown (equityCurve unrounded trades config)) := by
  obtain ⟨d, largest, most⟩ : ∃ d,
      IsLargestDrop ((equityCurve unrounded trades config).map CurvePoint.balance) d ∧
        IsPeak ((equityCurve unrounded trades config).map CurvePoint.drawdown) d :=
    isLargestDrop_curveFrom (isPeak_singleton config.initialCapital) (isLargestDrop_singleton _)
      (isPeak_singleton 0) trades
  have is : largestDrawdown (equityCurve unrounded trades config) = d := by
    unfold largestDrawdown
    rw [List.max?_eq_some_iff.mpr ⟨most.1, fun _ mem => most.2 mem⟩]
    rfl
  rw [is]
  exact largest

/-- The three drawdowns are the furthest fall, and the periods of a curve are its episodes. -/
theorem drawdowns_agree (curve : Curve) (trades : List TradeRecord) (config : BacktestConfig) :
    let values := curve.points.map Point.value
    let observed := (fromCurve (curve.points.map fun point => (point.at_, point.value))).maxDrawdown
    let tested := equityCurve unrounded trades config
    IsLargestDrop values (observed.getD 0) ∧
      IsLargestDrop values (maxDrawdown (periods curve)) ∧
      IsLargestDrop (tested.map CurvePoint.balance) (largestDrawdown tested) ∧
      (tested.map CurvePoint.balance = values →
        observed.getD 0 = largestDrawdown tested ∧
          maxDrawdown (periods curve) = largestDrawdown tested) ∧
      Episodes curve.points (periods curve) := by
  intro values observed tested
  obtain ⟨episodes, deepest⟩ := told_periods curve
  have running : IsLargestDrop values (observed.getD 0) := by
    have drop := (observed_fromCurve (curve.points.map fun point => (point.at_, point.value))).drop
    rwa [List.map_map] at drop
  have balances := isLargestDrop_equityCurve trades config
  refine ⟨running, deepest, balances, fun same => ?_, episodes⟩
  have shared : IsLargestDrop values (largestDrawdown tested) := same ▸ balances
  exact ⟨IsGreatest.unique running shared, IsGreatest.unique deepest shared⟩

end TradeResearch.Analytics
