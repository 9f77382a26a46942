import TradeResearch.Lib.Iso
import TradeResearch.Lib.Json
import TradeResearch.Webhooks.World

/-!
# What an idempotency key tells apart

Two alerts are the same when they carry one id, or neither carries one and they agree on ticker,
action, instant, strategy and timeframe. A key is an id cut at 122 characters, or a digest.

* `Alert.material_inj`: what the digest is taken of can be read back.
* `Alert.shared_iff_same_iff`: when one key means one alert.
-/

namespace TradeResearch.Webhooks

open Encoding
open Iso (isoUtc_inj)
open TradeResearch.Json (flatMap_units_inj jsonString_append_inj)

def SpelledAlike (s t : Str) : Prop := s.flatMap units = t.flatMap units

def Stamp.Inside (t : Stamp) : Prop := 0 ≤ t.instant ∧ t.instant < calendarEnd

theorem Stamp.utc_eq_ok {t : Stamp} {utc : ℕ} (ok : t.utc = .ok utc) :
    t.Inside ∧ t.instant = utc ∧ utc < calendarEnd := by
  unfold Stamp.utc at ok
  by_cases inside : 0 ≤ t.instant ∧ t.instant < calendarEnd
  · rw [if_pos inside] at ok
    cases ok
    exact ⟨inside, by omega, by omega⟩
  · rw [if_neg inside] at ok
    cases ok

theorem Stamp.utc_of_not_inside {t : Stamp} (outside : ¬t.Inside) : t.utc = .error .overflow := by
  exact if_neg outside

theorem Stamp.Inside.utc {t : Stamp} (inside : t.Inside) : t.utc = .ok t.instant.toNat := by
  exact if_pos inside

namespace Alert

def idText (a : Alert) : Str := a.alertId.getD []

def Same (a b : Alert) : Prop :=
  if a.hasId ∨ b.hasId then a.idText = b.idText
  else a.ticker = b.ticker ∧ a.action = b.action ∧
    a.signalTime.instant = b.signalTime.instant ∧ a.strategy.getD [] = b.strategy.getD [] ∧
    a.timeframe.getD [] = b.timeframe.getD []

variable (py : Runtime)

def Shared (a b : Alert) : Prop :=
  ∃ key, a.idempotencyKey py = .ok key ∧ b.idempotencyKey py = .ok key

def DigestsApart (a b : Alert) : Prop :=
  ∀ u v, a.signalTime.utc = .ok u → b.signalTime.utc = .ok v →
    py.sha256 (a.material u) = py.sha256 (b.material v) → a.material u = b.material v

structure Told (a b : Alert) : Prop where
  ids : a.hasId → b.hasId → a.idText.take 122 = b.idText.take 122 → a.idText = b.idText
  dated : ¬a.hasId → ¬b.hasId → a.Same b → a.signalTime.Inside
  spelled : ¬a.hasId → ¬b.hasId → a.signalTime.Inside → a.action = b.action →
    a.signalTime.instant = b.signalTime.instant → SpelledAlike a.ticker b.ticker →
    SpelledAlike (a.strategy.getD []) (b.strategy.getD []) →
    SpelledAlike (a.timeframe.getD []) (b.timeframe.getD []) →
    a.ticker = b.ticker ∧ a.strategy.getD [] = b.strategy.getD [] ∧
      a.timeframe.getD [] = b.timeframe.getD []

theorem word_inj : ∀ {a b : Action}, SpelledAlike (lit a.word) (lit b.word) → a = b := by
  intro a b
  unfold SpelledAlike
  cases a <;> cases b <;> first | exact fun _ => rfl | decide

theorem material_inj {a b : Alert} {u v : ℕ} (inside : u < calendarEnd) (inside' : v < calendarEnd)
    (same : a.material u = b.material v) :
    a.action = b.action ∧ u = v ∧ SpelledAlike a.ticker b.ticker ∧
      SpelledAlike (a.strategy.getD []) (b.strategy.getD []) ∧
      SpelledAlike (a.timeframe.getD []) (b.timeframe.getD []) := by
  unfold material at same
  simp only [List.append_assoc] at same
  obtain ⟨word, same⟩ := jsonString_append_inj (List.append_cancel_left same)
  obtain ⟨strategy, same⟩ := jsonString_append_inj (List.append_cancel_left same)
  obtain ⟨ticker, same⟩ := jsonString_append_inj (List.append_cancel_left same)
  obtain ⟨time, same⟩ := jsonString_append_inj (List.append_cancel_left same)
  obtain ⟨timeframe, -⟩ := jsonString_append_inj (List.append_cancel_left same)
  have plain : ∀ s : List Char, ∀ c ∈ ofChars s, isSurrogate c = false := fun s c mem => by
    obtain ⟨char, -, rfl⟩ := List.mem_map.mp mem
    exact ofChar_plain char
  have stamps := flatMap_units_inj (plain _) (plain _) time
  have instants := isoUtc_inj inside inside' (List.map_injective_iff.mpr ofChar_injective stamps)
  exact ⟨word_inj word, instants, ticker, strategy, timeframe⟩

theorem material_congr {a b : Alert} {u : ℕ} (action : a.action = b.action)
    (ticker : SpelledAlike a.ticker b.ticker)
    (strategy : SpelledAlike (a.strategy.getD []) (b.strategy.getD []))
    (timeframe : SpelledAlike (a.timeframe.getD []) (b.timeframe.getD [])) :
    a.material u = b.material u := by
  unfold material jsonString
  rw [action, ticker, strategy, timeframe]

variable {py : Runtime} {a b : Alert}

theorem hasId_congr (same : a.idText = b.idText) : a.hasId = b.hasId :=
  congrArg (fun id : Str => decide (id ≠ [])) same

theorem Shared.symm (shared : a.Shared py b) : b.Shared py a := by
  obtain ⟨key, named, named'⟩ := shared
  exact ⟨key, named', named⟩

theorem idempotencyKey_of_id (given : a.hasId) :
    a.idempotencyKey py = .ok (lit "tv:id:" ++ a.idText.take 122) := by
  unfold idempotencyKey
  rw [if_pos given, List.take_append]
  rfl

theorem idempotencyKey_of_no_id (length : ∀ s, (py.sha256 s).length = 64) (none : ¬a.hasId)
    {key : Str} : a.idempotencyKey py = .ok key ↔
      a.signalTime.Inside ∧
        key = lit "tv:fp:" ++ py.sha256 (a.material a.signalTime.instant.toNat) := by
  have whole : ∀ s, (lit "tv:fp:" ++ py.sha256 s).take 128 = lit "tv:fp:" ++ py.sha256 s := by
    intro s
    refine List.take_of_length_le ?_
    rw [List.length_append, length]
    decide
  unfold idempotencyKey fingerprint
  rw [if_neg none]
  by_cases inside : a.signalTime.Inside
  · rw [inside.utc]
    constructor
    · intro ok
      cases ok
      exact ⟨inside, whole _⟩
    · rintro ⟨-, rfl⟩
      exact congrArg Except.ok (whole _)
  · cases utc : a.signalTime.utc with
    | ok u => exact absurd (Stamp.utc_eq_ok utc).1 inside
    | error e =>
      constructor
      · intro ok
        cases ok
      · exact fun held => absurd held.1 inside

theorem shared_of_ids (given : a.hasId) (given' : b.hasId) :
    a.Shared py b ↔ a.idText.take 122 = b.idText.take 122 := by
  unfold Shared
  simp only [idempotencyKey_of_id given, idempotencyKey_of_id given', Except.ok.injEq]
  constructor
  · rintro ⟨key, rfl, same⟩
    exact (List.append_cancel_left same).symm
  · intro same
    exact ⟨_, rfl, by rw [same]⟩

theorem not_shared_of_one (length : ∀ s, (py.sha256 s).length = 64) (given : a.hasId)
    (none : ¬b.hasId) : ¬a.Shared py b := by
  rintro ⟨key, named, named'⟩
  rw [idempotencyKey_of_id given, Except.ok.injEq] at named
  obtain ⟨-, same⟩ := (idempotencyKey_of_no_id length none).mp named'
  have fourth := congrArg (fun s : Str => s[3]?) (named.trans same)
  simp [lit, ofChars] at fourth
  revert fourth
  decide

theorem shared_of_no_ids (length : ∀ s, (py.sha256 s).length = 64) (apart : DigestsApart py a b)
    (none : ¬a.hasId) (none' : ¬b.hasId) :
    a.Shared py b ↔ a.signalTime.Inside ∧ a.action = b.action ∧
      a.signalTime.instant = b.signalTime.instant ∧ SpelledAlike a.ticker b.ticker ∧
      SpelledAlike (a.strategy.getD []) (b.strategy.getD []) ∧
      SpelledAlike (a.timeframe.getD []) (b.timeframe.getD []) := by
  unfold Shared
  simp only [idempotencyKey_of_no_id length none, idempotencyKey_of_no_id length none']
  constructor
  · rintro ⟨key, ⟨inside, rfl⟩, inside', same⟩
    have materials := apart _ _ inside.utc inside'.utc (List.append_cancel_left same)
    obtain ⟨low, high⟩ := inside
    obtain ⟨low', high'⟩ := inside'
    obtain ⟨action, instants, texts⟩ := material_inj (by omega) (by omega) materials
    exact ⟨⟨low, high⟩, action, by omega, texts⟩
  · rintro ⟨inside, action, instant, ticker, strategy, timeframe⟩
    have inside' : b.signalTime.Inside := by
      unfold Stamp.Inside
      rw [← instant]
      exact inside
    refine ⟨_, ⟨inside, rfl⟩, inside', ?_⟩
    rw [instant, material_congr action ticker strategy timeframe]

theorem told_of_ids (given : a.hasId) (given' : b.hasId) :
    (a.Shared py b ↔ a.Same b) ↔ a.Told b := by
  rw [shared_of_ids given given', Same, if_pos (.inl given)]
  constructor
  · intro exact_
    exact ⟨fun _ _ => exact_.mp, fun none => absurd given none, fun none => absurd given none⟩
  · exact fun told => ⟨told.ids given given', fun same => by rw [same]⟩

theorem told_of_one (given : a.hasId ∨ b.hasId) (one : ¬(a.hasId ∧ b.hasId))
    (apart : ¬a.Shared py b) (differ : a.idText ≠ b.idText) :
    (a.Shared py b ↔ a.Same b) ↔ a.Told b := by
  rw [Same, if_pos given]
  refine iff_of_true (iff_of_false apart differ) ?_
  exact {
    ids := fun first second => absurd ⟨first, second⟩ one
    dated := fun first second => absurd given (not_or_intro first second)
    spelled := fun first second => absurd given (not_or_intro first second) }

theorem told_of_no_ids (none : ¬a.hasId) (none' : ¬b.hasId)
    (shared : a.Shared py b ↔ a.signalTime.Inside ∧ a.action = b.action ∧
      a.signalTime.instant = b.signalTime.instant ∧ SpelledAlike a.ticker b.ticker ∧
      SpelledAlike (a.strategy.getD []) (b.strategy.getD []) ∧
      SpelledAlike (a.timeframe.getD []) (b.timeframe.getD [])) :
    (a.Shared py b ↔ a.Same b) ↔ a.Told b := by
  have same : a.Same b ↔ a.ticker = b.ticker ∧ a.action = b.action ∧
      a.signalTime.instant = b.signalTime.instant ∧ a.strategy.getD [] = b.strategy.getD [] ∧
      a.timeframe.getD [] = b.timeframe.getD [] := by
    rw [Same, if_neg (not_or_intro none none')]
  rw [shared]
  constructor
  · intro exact_
    refine ⟨fun given => absurd given none, fun _ _ equal => (exact_.mpr equal).1, ?_⟩
    intro _ _ inside action instant ticker strategy timeframe
    obtain ⟨tickers, -, -, strategies, timeframes⟩ :=
      same.mp (exact_.mp ⟨inside, action, instant, ticker, strategy, timeframe⟩)
    exact ⟨tickers, strategies, timeframes⟩
  · intro told
    constructor
    · rintro ⟨inside, action, instant, ticker, strategy, timeframe⟩
      obtain ⟨tickers, strategies, timeframes⟩ :=
        told.spelled none none' inside action instant ticker strategy timeframe
      exact same.mpr ⟨tickers, action, instant, strategies, timeframes⟩
    · intro equal
      obtain ⟨tickers, action, instant, strategies, timeframes⟩ := same.mp equal
      unfold SpelledAlike
      exact ⟨told.dated none none' equal, action, instant, by rw [tickers], by rw [strategies],
        by rw [timeframes]⟩

/-- Of two alerts that are accepted, one key means one alert exactly where their keys tell them
apart. -/
theorem shared_iff_same_iff (length : ∀ s, (py.sha256 s).length = 64) {p q : Fields}
    (_accepted : parseAlert py p = .ok a) (_accepted' : parseAlert py q = .ok b)
    (apart : DigestsApart py a b) : (a.Shared py b ↔ a.Same b) ↔ a.Told b := by
  by_cases given : a.hasId
  · by_cases given' : b.hasId
    · exact told_of_ids given given'
    · refine told_of_one (.inl given) (fun both => given' both.2)
        (not_shared_of_one length given given') fun same => given' ?_
      rwa [← hasId_congr same]
  · by_cases given' : b.hasId
    · refine told_of_one (.inr given') (fun both => given both.1)
        (fun shared => not_shared_of_one length given' given shared.symm) fun same => given ?_
      rwa [hasId_congr same]
    · exact told_of_no_ids given given' (shared_of_no_ids length apart given given')

def onThirdDay (ticker : Str) (id : Json) : Fields :=
  [(lit "ticker", .str ticker), (lit "action", .str (lit "buy")), (lit "time", .int (-62135424000)),
    (lit "id", id)]

def ofThirdDay (ticker : Str) (id : Option Str) : Alert where
  ticker
  action := .buy
  signalTime := ⟨172800000000, 0, by decide⟩
  exchange := none
  timeframe := none
  price := none
  strategy := none
  strategyVersion := none
  alertId := id
  advisory := []
  extra := []

def thirdDayDigests : List (List Char × Str) :=
  [((ofThirdDay (lit "EURUSD") none).material 172800000000,
      lit "9fb52b98cb1dbab971ab5b00f1e981cde1380f970e5a9f670b9a451d4024d6bc"),
    ((ofThirdDay (lit "GBPUSD") none).material 172800000000,
      lit "a20b6b1efef1af0bd72c43098e24e6d38530277c9d70b80347f161dcbf58ae71")]

theorem length_sample_sha256 {digests : List (List Char × Str)}
    (all : ∀ entry ∈ digests, entry.2.length = 64) (s : List Char) :
    ((sample digests).sha256 s).length = 64 := by
  show ((digests.lookup s).getD _).length = 64
  cases found : digests.lookup s with
  | none => rfl
  | some digest =>
    obtain ⟨before, after, rfl, -⟩ := List.lookup_eq_some_iff.mp found
    exact all _ (List.mem_append_right _ (List.mem_cons_self ..))

theorem shared_iff_same_iff_of_tickers :
    ((ofThirdDay (lit "EURUSD") none).Shared (sample thirdDayDigests)
        (ofThirdDay (lit "GBPUSD") none) ↔
      (ofThirdDay (lit "EURUSD") none).Same (ofThirdDay (lit "GBPUSD") none)) ↔
      (ofThirdDay (lit "EURUSD") none).Told (ofThirdDay (lit "GBPUSD") none) := by
  refine shared_iff_same_iff (p := onThirdDay (lit "EURUSD") .null)
    (q := onThirdDay (lit "GBPUSD") .null) (length_sample_sha256 (by decide +kernel))
    (by decide +kernel) (by decide +kernel) ?_
  intro u v first second
  cases first
  cases second
  decide +kernel

def longId (last : String) : Str := List.replicate 122 (CodePoint.ofChar 'x') ++ lit last

/-- Two ids that differ in their last character only have one key. -/
theorem not_forall_shared_iff_same : ¬∀ py : Runtime, (∀ s, (py.sha256 s).length = 64) →
    ∀ p q a b, parseAlert py p = .ok a → parseAlert py q = .ok b → DigestsApart py a b →
      (a.Shared py b ↔ a.Same b) := by
  intro claimed
  have exact_ := claimed (sample thirdDayDigests) (length_sample_sha256 (by decide +kernel))
    (onThirdDay (lit "EURUSD") (.str (longId "a"))) (onThirdDay (lit "EURUSD") (.str (longId "b")))
    (ofThirdDay (lit "EURUSD") (longId "a")) (ofThirdDay (lit "EURUSD") (longId "b"))
    (by decide +kernel) (by decide +kernel) ?_
  · have shared : (ofThirdDay (lit "EURUSD") (longId "a")).Shared (sample thirdDayDigests)
        (ofThirdDay (lit "EURUSD") (longId "b")) :=
      (shared_of_ids (by decide +kernel) (by decide +kernel)).mpr (by decide +kernel)
    have same := exact_.mp shared
    rw [Same, if_pos (.inl (by decide +kernel))] at same
    exact absurd same (by decide +kernel)
  · intro u v first second _
    cases first
    cases second
    rfl

end Alert

end TradeResearch.Webhooks
