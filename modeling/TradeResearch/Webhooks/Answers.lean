import Mathlib.Data.List.Dedup
import TradeResearch.Webhooks.Identity
import TradeResearch.Webhooks.Texts

/-!
# When a delivery is answered

A delivery is answered when no statement it sends is refused by the database, whatever the tables
answer, nothing but an `Unauthorized` is raised, and the row of a rejection fits its columns.

* `WebhookGateway.Answerable`: what has to hold of a delivery for that.
* `WebhookGateway.answered_iff`: it is what has to hold.
-/

namespace TradeResearch.Webhooks

open Encoding Dialogue

/-! ## Surroundings -/

namespace Database

variable (db : Database)

def Gives : (q : Question) → q.Answer → Prop
  | .mapping _, (mapping : Option Mapping) => ∀ m ∈ mapping, db.TakesText m.providerSymbol
  | .qualified _, (mappings : List Mapping) => ∀ m ∈ mappings, db.TakesText m.providerSymbol
  | .symbol _, (symbol : Option SymbolRow) => ∀ row ∈ symbol, db.TakesText row.code
  | .version _ _, (version : Option Str) => ∀ id ∈ version, db.TakesText id
  | .bots _, (bots : List Bot) => ∀ bot ∈ bots, db.TakesText bot.id ∧
    (∀ id ∈ bot.paperAccountId, db.TakesText id) ∧ (∀ id ∈ bot.brokerAccountId, db.TakesText id) ∧
    ∀ risk ∈ bot.maxRiskPerTrade, db.TakesText risk
  | .strategy _, _ | .existing _, _ | .insertEvent _, _ | .insertSignal _, _ | .link _ _, _
  | .insertRejection _, _ => True

def May (q : Question) : Prop := db.Takes q ∧ ∀ row, q = .insertRejection row → row.Fits

def serving : Surroundings Question Question.Answer Unit where
  may _ := db.May
  can _ := db.Gives
  next _ _ _ := ()

def Refused (e : Raised) : Prop := ∃ reason, e = .unauthorized reason

def Answers {α : Type} (post : α → Prop) (x : Delivery α) : Prop :=
  Always db.serving (fun _ => post) (fun _ => Refused) () x

end Database

structure Arrival.WellFormed (arrival : Arrival) : Prop where
  sourceIp : ∀ ip ∈ arrival.sourceIp, isPlain ip = true ∧ ip.length ≤ 64
  correlationId : ∀ id ∈ arrival.correlationId, isPlain id = true
  now : arrival.now < calendarEnd

/-! ## Texts of a database -/

section Texts

variable {db : Database}

theorem takesText_of_plain {s : Str} (plain : isPlain s = true) : db.TakesText s := by
  have each : ∀ c ∈ s, isSurrogate c = false ∧ c ≠ nul := fun c mem => by
    have here := List.all_eq_true.mp plain c mem
    simpa only [Bool.and_eq_true, Bool.not_eq_true', decide_eq_true_eq] using here
  exact ⟨fun c mem => (each c mem).1, fun _ mem => (each nul mem).2 rfl⟩

theorem plain_of_takesText {s : Str} (strict : db.strict = true) (takes : db.TakesText s) :
    isPlain s = true := by
  refine List.all_eq_true.mpr fun c mem => ?_
  simp only [Bool.and_eq_true, Bool.not_eq_true', decide_eq_true_eq]
  exact ⟨takes.1 c mem, fun same => takes.2 strict (same ▸ mem)⟩

theorem Database.TakesText.append {s t : Str} (first : db.TakesText s) (second : db.TakesText t) :
    db.TakesText (s ++ t) := by
  refine ⟨fun c mem => ?_, fun strict mem => ?_⟩
  · exact (List.mem_append.mp mem).elim (first.1 c) (second.1 c)
  · exact (List.mem_append.mp mem).elim (first.2 strict) (second.2 strict)

theorem Database.TakesText.subset {s t : Str} (takes : db.TakesText t) (sub : s ⊆ t) :
    db.TakesText s :=
  ⟨fun c mem => takes.1 c (sub mem), fun strict mem => takes.2 strict (sub mem)⟩

theorem takesText_lit {s : String} (plain : isPlain (lit s) = true) : db.TakesText (lit s) :=
  takesText_of_plain plain

theorem joinTexts_takes {separator : String} (plain : isPlain (lit separator) = true)
    {texts : List Str} (takes : ∀ s ∈ texts, db.TakesText s) :
    db.TakesText (joinTexts separator texts) := by
  have each : ∀ s ∈ texts.intersperse (lit separator), db.TakesText s := by
    induction texts with
    | nil => exact fun _ none => nomatch none
    | cons first rest ih =>
      have tail := ih fun s mem => takes s (List.mem_cons_of_mem _ mem)
      cases rest with
      | nil => exact takes
      | cons second rest =>
        intro s mem
        rcases List.mem_cons.mp mem with rfl | mem
        · exact takes _ (List.mem_cons_self ..)
        · rcases List.mem_cons.mp mem with rfl | mem
          · exact takesText_of_plain plain
          · exact tail s mem
  refine ⟨fun c mem => ?_, fun strict mem => ?_⟩
  · obtain ⟨s, here, inside⟩ := List.mem_flatten.mp mem
    exact (each s here).1 c inside
  · obtain ⟨s, here, inside⟩ := List.mem_flatten.mp mem
    exact (each s here).2 strict inside

theorem sortTexts_takes {texts : List Str} (takes : ∀ s ∈ texts, db.TakesText s) :
    ∀ s ∈ sortTexts texts, db.TakesText s :=
  fun s mem => takes s (List.mem_mergeSort.mp mem)

end Texts

theorem stampText_plain (now : ℕ) : isPlain (stampText now) = true := by
  unfold stampText
  have sign : isPlain (if (now : ℤ) - epochStart < 0 then lit "-" else []) = true := by
    split_ifs
    · decide
    · rfl
  rw [isPlain_append, isPlain_append, isPlain_append, sign, isPlain_intText,
    isPlain_pad (by decide) (by decide)]
  decide

theorem length_stampText {now : ℕ} (inside : now < calendarEnd) : (stampText now).length ≤ 20 := by
  have whole : ∀ n : ℕ, n < 10 ^ 12 → (intText n).length ≤ 12 := fun n below => by
    unfold intText lit ofChars
    rw [List.length_map, Int.toString_eq_repr, Int.repr_eq_if, if_pos (Int.natCast_nonneg n),
      Int.toNat_natCast, String.length_toList]
    exact (Nat.length_repr_le_iff (by decide)).mpr below
  unfold calendarEnd dayLength at inside
  have since : ((now : ℤ) - epochStart).natAbs / 1000000 < 10 ^ 12 := by
    unfold epochStart dayLength
    omega
  have seconds := whole _ since
  have sign : (if (now : ℤ) - epochStart < 0 then lit "-" else []).length ≤ 1 := by
    split_ifs
    · exact le_of_eq rfl
    · exact Nat.zero_le 1
  have point : (lit ".").length = 1 := rfl
  unfold stampText
  simp only [List.length_append, ofChars, List.length_map, length_pad]
  rw [Int.natCast_div, Nat.cast_ofNat] at seconds
  omega

/-! ## Rejections -/

section Stages

variable {db : Database} {py : Runtime} {arrival : Arrival} {safe : Fields} {reason : Str}
  {strength : Strength}

def Short (arrival : Arrival) (key : Option Str) : Prop :=
  ∀ k ∈ key, 8 + k.length + (stampText arrival.now).length ≤ 128

theorem rejectionRow_fits (arrives : arrival.WellFormed) {key : Option Str} :
    (rejectionRow arrival safe reason strength key).Fits ↔ Short arrival key := by
  have stamp := length_stampText arrives.now
  unfold EventRow.Fits Short rejectionRow
  have addressed : ∀ ip ∈ arrival.sourceIp, ip.length ≤ 64 := fun ip mem =>
    (arrives.sourceIp ip mem).2
  have before : (lit "tv:rej:").length = 7 := rfl
  have between : (lit ":").length = 1 := rfl
  cases key with
  | none =>
    simp only [List.length_append, before]
    exact ⟨fun _ _ none => (nomatch none), fun _ => ⟨by omega, addressed⟩⟩
  | some key =>
    simp only [List.length_append, before, between, Option.mem_some_iff, forall_eq']
    constructor
    · exact fun fits => by omega
    · exact fun short => ⟨by omega, addressed⟩

theorem recordRejection_stored (arrives : arrival.WellFormed) {key : Option Str}
    {post : Result → Prop}
    (answers : db.Answers post (recordRejection arrival safe reason strength key)) :
    db.TakesJson (.obj safe) ∧ Short arrival key := by
  obtain ⟨⟨takes, fits⟩, -⟩ := answers
  have stored : db.TakesEvent (rejectionRow arrival safe reason strength key) := takes
  exact ⟨stored.payload, (rejectionRow_fits arrives).mp (fits _ rfl)⟩

theorem recordRejection_answers (arrives : arrival.WellFormed) (reasoned : db.TakesText reason)
    {key : Option Str} (keyed : ∀ k ∈ key, db.TakesText k) (stored : db.TakesJson (.obj safe))
    (short : Short arrival key) :
    db.Answers (fun _ => True) (recordRejection arrival safe reason strength key) := by
  have fits : (rejectionRow arrival safe reason strength key).Fits :=
    (rejectionRow_fits arrives).mpr short
  have stamped : db.TakesText (stampText arrival.now) :=
    takesText_of_plain (stampText_plain arrival.now)
  refine ⟨⟨?_, ?_⟩, fun (made : Bool) _ => ?_⟩
  · show db.TakesEvent _
    refine ⟨?_, fun ip mem => takesText_of_plain (arrives.sourceIp ip mem).1, stored, ?_,
      fun _ => fits⟩
    · cases key with
      | none => exact Database.TakesText.append (takesText_lit (by decide)) stamped
      | some key =>
        exact ((Database.TakesText.append (takesText_lit (by decide)) (keyed key rfl)).append
          (takesText_lit (by decide))).append stamped
    · rintro _ ⟨⟩
      exact reasoned.subset (List.take_subset 500 reason)
  · rintro row ⟨⟩
    exact fits
  · cases made with
    | true | false => exact True.intro

/-! ## Symbols -/

theorem Database.Answers.bind {α β : Type} {x : Delivery α} {f : α → Delivery β} {post : α → Prop}
    {post' : β → Prop} (first : db.Answers post x) (rest : ∀ a, post a → db.Answers post' (f a)) :
    db.Answers post' (x >>= f) :=
  always_bind.mpr (first.mono (fun _ a held => rest a held) fun _ _ held => held)

theorem Database.Answers.bound {α β : Type} {x : Delivery α} {f : α → Delivery β} {post : β → Prop}
    (answers : db.Answers post (x >>= f)) : db.Answers (fun a => db.Answers post (f a)) x :=
  always_bind.mp answers

theorem Database.Answers.possible {α : Type} {x : Delivery α} {post post' : α → Prop}
    (answers : db.Answers post x) (possible : Possible db.serving (fun _ => post') () x) :
    ∃ a, post a ∧ post' a := by
  obtain ⟨_, a, held, is⟩ := Always.possible answers possible
  exact ⟨a, held, is⟩

theorem mapping_answers {candidate : Str} (takes : db.TakesText candidate) :
    db.Answers (fun mapping => ∀ m ∈ mapping, db.TakesText m.providerSymbol)
      (Ask.mapping candidate) :=
  ⟨⟨takes, fun _ other => nomatch other⟩, fun _ can => can⟩

theorem qualified_answers {raw : Str} (takes : db.TakesText raw) :
    db.Answers (fun mappings => ∀ m ∈ mappings, db.TakesText m.providerSymbol)
      (Ask.qualified raw) :=
  ⟨⟨takes, fun _ other => nomatch other⟩, fun _ can => can⟩

theorem symbol_answers {id : Str} :
    db.Answers (fun symbol => ∀ row ∈ symbol, db.TakesText row.code) (Ask.symbol id) :=
  ⟨⟨True.intro, fun _ other => nomatch other⟩, fun _ can => can⟩

theorem strategy_answers {key : Str} (takes : db.TakesText key) :
    db.Answers (fun _ => True) (Ask.strategy key) :=
  ⟨⟨takes, fun _ other => nomatch other⟩, fun _ can => can⟩

theorem version_answers {strategyId : Str} {number : Option ℤ}
    (takes : ∀ n ∈ number, db.TakesInt n) :
    db.Answers (fun version => ∀ id ∈ version, db.TakesText id) (Ask.version strategyId number) :=
  ⟨⟨takes, fun _ other => nomatch other⟩, fun _ can => can⟩

def Resolved {α : Type} (db : Database) (post : α → Prop) : Except Str α → Prop
  | .ok a => post a
  | .error reason => db.TakesText reason

theorem finish_answers {mapping : Mapping} {shown : Str} (takes : db.TakesText shown) :
    db.Answers (Resolved db fun symbol : SymbolRow => db.TakesText symbol.code)
      (finish mapping shown) := by
  have around : ∀ {before after : String} {s : Str}, isPlain (lit before) = true →
      isPlain (lit after) = true → db.TakesText s → db.TakesText (lit before ++ s ++ lit after) :=
    fun first last middle => ((takesText_lit first).append middle).append (takesText_lit last)
  unfold finish
  by_cases inactive : (!mapping.isActive) = true
  · rw [if_pos inactive]
    exact around (by decide) (by decide) takes
  · rw [if_neg inactive]
    refine symbol_answers.bind fun symbol coded => ?_
    cases symbol with
    | none => exact around (by decide) (by decide) takes
    | some symbol =>
      cases active : symbol.isActive with
      | true =>
        simp only [active]
        exact coded symbol rfl
      | false =>
        simp only [active]
        exact around (by decide) (by decide) (coded symbol rfl)

theorem noMapping_takes (law : py.Lawful) {raw : Str} : db.TakesText (noMapping py raw) := by
  refine takesText_of_plain ?_
  unfold noMapping
  rw [isPlain_append, isPlain_append, law.repr_plain]
  decide

theorem resolveQualified_answers (law : py.Lawful) {raw : Str} (takes : db.TakesText raw) :
    db.Answers (Resolved db fun symbol : SymbolRow => db.TakesText symbol.code)
      (resolveQualified py raw) := by
  unfold resolveQualified
  by_cases exchange : colon ∈ raw
  · rw [if_pos exchange]
    exact noMapping_takes law
  · rw [if_neg exchange]
    refine (qualified_answers takes).bind fun qualified held => ?_
    cases (qualified.map Mapping.symbolId).dedup with
    | nil => exact noMapping_takes law
    | cons id ids =>
      cases ids with
      | nil =>
        cases found : qualified.reverse.find? fun m => m.symbolId = id with
        | none =>
          simp only [found]
          exact noMapping_takes law
        | some mapping =>
          simp only [found]
          have mem := List.mem_reverse.mp (List.mem_of_find?_eq_some found)
          exact finish_answers (held mapping mem)
      | cons other ids =>
        have listed : db.TakesText
            (joinTexts ", " (sortTexts (qualified.map Mapping.providerSymbol))) := by
          refine joinTexts_takes (by decide) (sortTexts_takes fun s mem => ?_)
          obtain ⟨m, here, rfl⟩ := List.mem_map.mp mem
          exact held m here
        have before : isPlain (lit "tradingview ticker " ++ py.repr raw ++ lit " matches " ++
            intText (id :: other :: ids).length ++ lit " instruments (") = true := by
          simp only [isPlain_append, law.repr_plain, isPlain_intText]
          decide
        exact ((takesText_of_plain before).append listed).append (takesText_lit (by decide))

theorem resolveExact_answers (law : py.Lawful) {raw : Str} (takes : db.TakesText raw)
    {candidates : List Str} (each : ∀ s ∈ candidates, db.TakesText s) :
    db.Answers (Resolved db fun symbol : SymbolRow => db.TakesText symbol.code)
      (resolveExact py raw candidates) := by
  induction candidates with
  | nil => exact resolveQualified_answers law takes
  | cons candidate rest ih =>
    have here := each candidate (List.mem_cons_self ..)
    refine (mapping_answers here).bind fun mapping _ => ?_
    cases mapping with
    | none => exact ih fun s mem => each s (List.mem_cons_of_mem _ mem)
    | some mapping => exact finish_answers here

def rawOf (py : Runtime) (ticker : Str) : Str := py.upper (strip ticker)

def LookedUp (py : Runtime) (ticker : Str) : Prop :=
  rawOf py ticker ≠ [] ∧ (rawOf py ticker).length ≤ maxProviderSymbol

theorem resolveSource_of_lookedUp {ticker : Str} (looked : LookedUp py ticker) :
    resolveSource py ticker = resolveExact py (rawOf py ticker)
      [rawOf py ticker, stripExchangePrefix (rawOf py ticker)].dedup := by
  have some_ : py.upper (strip ticker) ≠ [] := looked.1
  have short : ¬maxProviderSymbol < (py.upper (strip ticker)).length := not_lt.mpr looked.2
  unfold resolveSource rawOf
  simp only [if_neg some_, if_neg short]

theorem resolveSource_of_not {ticker : Str} (not : ¬LookedUp py ticker) :
    ∃ reason, isPlain reason = true ∧ resolveSource py ticker = pure (.error reason) := by
  unfold resolveSource
  by_cases empty : py.upper (strip ticker) = []
  · simp only [if_pos empty]
    exact ⟨_, by decide, rfl⟩
  · have long : maxProviderSymbol < (py.upper (strip ticker)).length := by
      by_contra short
      exact not ⟨empty, not_lt.mp short⟩
    simp only [if_neg empty, if_pos long]
    exact ⟨_, by decide, rfl⟩

theorem resolveSource_answers (law : py.Lawful) {ticker : Str}
    (takes : LookedUp py ticker → db.TakesText (rawOf py ticker)) :
    db.Answers (fun r => Resolved db (fun symbol : SymbolRow => db.TakesText symbol.code) r ∧
      ((∃ symbol, r = .ok symbol) → LookedUp py ticker)) (resolveSource py ticker) := by
  by_cases looked : LookedUp py ticker
  · rw [resolveSource_of_lookedUp looked]
    refine Always.mono (resolveExact_answers law (takes looked) fun s mem => ?_)
      (fun _ _ held => ⟨held, fun _ => looked⟩) fun _ _ held => held
    rw [List.mem_dedup] at mem
    rcases List.mem_cons.mp mem with rfl | mem
    · exact takes looked
    · rw [List.mem_singleton.mp mem]
      refine (takes looked).subset ?_
      unfold stripExchangePrefix
      split_ifs
      · exact List.Subset.trans (List.drop_subset 1 _) (List.dropWhile_suffix _).subset
      · exact List.Subset.refl _
  · obtain ⟨reason, plain, same⟩ := resolveSource_of_not looked
    rw [same]
    refine ⟨takesText_of_plain plain, ?_⟩
    rintro ⟨symbol, ok⟩
    cases ok

theorem resolveExact_possible_error {raw : Str} {candidates : List Str} :
    Possible db.serving (fun _ r => ∃ reason, r = .error reason) ()
      (resolveExact py raw candidates) := by
  induction candidates with
  | nil =>
    change Possible _ _ _ (resolveQualified py raw)
    unfold resolveQualified
    by_cases exchange : colon ∈ raw
    · rw [if_pos exchange]
      exact ⟨_, rfl⟩
    · rw [if_neg exchange]
      exact ⟨([] : List Mapping), fun _ none => (nomatch none), _, rfl⟩
  | cons candidate rest ih => exact ⟨(none : Option Mapping), fun _ none => (nomatch none), ih⟩

theorem resolveSource_possible_error {ticker : Str} :
    Possible db.serving (fun _ r => ∃ reason, r = .error reason) () (resolveSource py ticker) := by
  by_cases looked : LookedUp py ticker
  · rw [resolveSource_of_lookedUp looked]
    exact resolveExact_possible_error
  · obtain ⟨reason, -, same⟩ := resolveSource_of_not looked
    rw [same]
    exact ⟨reason, rfl⟩

theorem dedup_pair {α : Type} [DecidableEq α] (a b : α) : ∃ rest, [a, b].dedup = a :: rest := by
  by_cases same : a = b
  · exact ⟨[], by simp [same]⟩
  · exact ⟨[b], by simp [same]⟩

theorem resolveSource_takes {ticker : Str} {post : Except Str SymbolRow → Prop}
    (answers : db.Answers post (resolveSource py ticker)) (looked : LookedUp py ticker) :
    db.TakesText (rawOf py ticker) := by
  obtain ⟨rest, candidates⟩ :=
    dedup_pair (rawOf py ticker) (stripExchangePrefix (rawOf py ticker))
  rw [resolveSource_of_lookedUp looked, candidates] at answers
  exact answers.1.1

theorem resolveSource_possible_ok {ticker : Str} (looked : LookedUp py ticker) :
    Possible db.serving (fun _ r => ∃ symbol : SymbolRow, r = .ok symbol) ()
      (resolveSource py ticker) := by
  obtain ⟨rest, candidates⟩ :=
    dedup_pair (rawOf py ticker) (stripExchangePrefix (rawOf py ticker))
  rw [resolveSource_of_lookedUp looked, candidates]
  have empty : db.TakesText [] := takesText_of_plain rfl
  refine ⟨some ⟨[], [], true⟩, ?_, some ⟨[], [], true⟩, ?_, ⟨[], [], true⟩, rfl⟩
  · rintro m ⟨⟩
    exact empty
  · rintro row ⟨⟩
    exact empty

/-! ## Strategies -/

def namedOf (alert : Alert) : Str := alert.strategy.getD []

def askedOf (alert : Alert) : Str := alert.strategyVersion.getD []

def Askable (db : Database) (py : Runtime) (alert : Alert) : Prop :=
  namedOf alert ≠ [] → db.TakesText (namedOf alert) ∧
    (askedOf alert ≠ [] → py.isDigit (askedOf alert) →
      ∃ n, py.int (askedOf alert) = some n ∧ db.TakesInt n)

def Versioned (py : Runtime) (alert : Alert) : Prop :=
  namedOf alert = [] ∨ askedOf alert = [] ∨ py.isDigit (askedOf alert)

theorem strategyVersionId_answers (law : py.Lawful) {alert : Alert}
    (askable : Askable db py alert) :
    db.Answers (fun r => Resolved db (fun version : Option Str => ∀ id ∈ version,
      db.TakesText id) r ∧
      ((∃ version, r = .ok version) → Versioned py alert)) (strategyVersionId py alert) := by
  have quoted : ∀ {after : String}, isPlain (lit after) = true →
      db.TakesText (lit "strategy " ++ py.repr (namedOf alert) ++ lit after) := fun last => by
    refine takesText_of_plain ?_
    rw [isPlain_append, isPlain_append, law.repr_plain, last]
    decide
  unfold Askable Versioned namedOf askedOf at *
  unfold strategyVersionId
  by_cases unnamed : alert.strategy.getD [] = []
  · simp only [if_pos unnamed]
    exact ⟨fun _ none => (nomatch none), fun _ => .inl unnamed⟩
  · simp only [if_neg unnamed]
    obtain ⟨taken, numbered⟩ := askable unnamed
    refine (strategy_answers taken).bind fun strategy _ => ?_
    cases strategy with
    | none =>
      refine ⟨takesText_of_plain ?_, ?_⟩
      · rw [isPlain_append, isPlain_append, law.repr_plain]
        decide
      · rintro ⟨version, ok⟩
        cases ok
    | some strategy =>
      by_cases word : alert.strategyVersion.getD [] ≠ [] ∧
          ¬py.isDigit (alert.strategyVersion.getD [])
      · simp only [if_pos word]
        refine ⟨takesText_lit (by decide), ?_⟩
        rintro ⟨version, ok⟩
        cases ok
      · simp only [if_neg word]
        have versioned : alert.strategyVersion.getD [] = [] ∨
            py.isDigit (alert.strategyVersion.getD []) = true := by
          by_contra neither
          rw [not_or] at neither
          exact word neither
        have number : ¬(alert.strategyVersion.getD [] ≠ [] ∧
            py.int (alert.strategyVersion.getD []) = none) := by
          rintro ⟨given, unread⟩
          obtain ⟨n, read, -⟩ := numbered given (versioned.resolve_left given)
          rw [unread] at read
          cases read
        simp only [if_neg number]
        refine (version_answers ?_).bind fun version held => ?_
        · intro n mem
          split_ifs at mem with given
          · cases mem
          · obtain ⟨n', read, takes⟩ := numbered given (versioned.resolve_left given)
            rw [read] at mem
            cases mem
            exact takes
        · cases version with
          | none =>
            refine ⟨quoted (by decide), ?_⟩
            rintro ⟨version, ok⟩
            cases ok
          | some version => exact ⟨held, fun _ => .inr versioned⟩

theorem strategyVersionId_askable {alert : Alert} {post : Except Str (Option Str) → Prop}
    (answers : db.Answers post (strategyVersionId py alert)) : Askable db py alert := by
  intro given
  unfold namedOf askedOf at *
  unfold strategyVersionId at answers
  simp only [if_neg given] at answers
  refine ⟨answers.1.1, fun asked digits => ?_⟩
  have rest := answers.2 (some []) True.intro
  change Always _ _ _ _ (ite _ _ _) at rest
  rw [if_neg fun word => word.2 digits] at rest
  cases read : py.int (alert.strategyVersion.getD []) with
  | none =>
    rw [if_pos ⟨asked, read⟩] at rest
    obtain ⟨reason, other⟩ := rest
    cases other
  | some n =>
    have number : ¬(alert.strategyVersion.getD [] ≠ [] ∧
        py.int (alert.strategyVersion.getD []) = none) := by
      rw [read]
      exact fun both => nomatch both.2
    rw [if_neg number, if_neg asked] at rest
    exact ⟨n, rfl, rest.1.1 n read⟩

theorem strategyVersionId_possible_ok {alert : Alert} (askable : Askable db py alert)
    (versioned : Versioned py alert) :
    Possible db.serving (fun _ r => ∃ version : Option Str, r = .ok version) ()
      (strategyVersionId py alert) := by
  unfold Askable Versioned namedOf askedOf at *
  unfold strategyVersionId
  by_cases unnamed : alert.strategy.getD [] = []
  · simp only [if_pos unnamed]
    exact ⟨none, rfl⟩
  · have versioned := versioned.resolve_left unnamed
    simp only [if_neg unnamed]
    refine ⟨some [], True.intro, ?_⟩
    change Possible _ _ _ (ite _ _ _)
    have number : ¬(alert.strategyVersion.getD [] ≠ [] ∧
        py.int (alert.strategyVersion.getD []) = none) := by
      rintro ⟨given, unread⟩
      obtain ⟨n, read, -⟩ := (askable unnamed).2 given (versioned.resolve_left given)
      rw [unread] at read
      cases read
    rw [if_neg fun word => word.2 (versioned.resolve_left word.1), if_neg number]
    refine ⟨some [], ?_, some [], rfl⟩
    rintro id ⟨⟩
    exact takesText_of_plain rfl

/-! ## Signals -/

def Bot.Plain (bot : Bot) : Prop :=
  isPlain bot.id = true ∧ (∀ id ∈ bot.paperAccountId, isPlain id = true) ∧
    (∀ id ∈ bot.brokerAccountId, isPlain id = true) ∧
    ∀ risk ∈ bot.maxRiskPerTrade, isPlain risk = true

theorem mode_plain (mode : Mode) : isPlain (lit mode.word) = true := by
  cases mode <;> decide

theorem isPlain_joinTexts {separator : String} (plain : isPlain (lit separator) = true)
    {texts : List Str} (each : ∀ s ∈ texts, isPlain s = true) :
    isPlain (joinTexts separator texts) = true :=
  @plain_of_takesText ⟨true⟩ _ rfl
    (joinTexts_takes plain fun s mem => takesText_of_plain (each s mem))

theorem routeOf_plain {version : Str} (versioned : isPlain version = true) {mode : Mode}
    {bots : List Bot} (each : ∀ bot ∈ bots, bot.Plain) : (routeOf version mode bots).Plain := by
  match bots with
  | [] =>
    show isPlain _ = true
    simp only [isPlain_append, versioned, mode_plain]
    decide
  | [bot] =>
    obtain ⟨named, paper, broker, risk⟩ := each bot (List.mem_singleton_self bot)
    unfold routeOf
    cases found : (bot.paperAccountId.filter (· ≠ [])).or (bot.brokerAccountId.filter (· ≠ [])) with
    | none =>
      simp only [found]
      show isPlain _ = true
      simp only [isPlain_append, named]
      decide
    | some account =>
      simp only [found]
      refine ⟨named, ?_, risk⟩
      rcases Option.or_eq_some_iff.mp found with first | ⟨-, second⟩
      · exact paper account (Option.filter_eq_some_iff.mp first).1
      · exact broker account (Option.filter_eq_some_iff.mp second).1
  | first :: second :: rest =>
    have listed : isPlain
        (joinTexts ", " (sortTexts ((first :: second :: rest).map Bot.id))) = true := by
      refine isPlain_joinTexts (by decide) fun s mem => ?_
      obtain ⟨bot, here, rfl⟩ := List.mem_map.mp (List.mem_mergeSort.mp mem)
      exact (each bot here).1
    show isPlain _ = true
    simp only [isPlain_append, isPlain_intText, versioned, mode_plain, listed]
    decide

theorem routeFor_answers {version : Option Str} (takes : ∀ id ∈ version, db.TakesText id)
    {mode : Mode} : db.Answers (fun routing => db.strict = true → routing.Plain)
      (routeFor version mode) := by
  unfold routeFor
  cases some_ : version.filter (· ≠ []) with
  | none =>
    intro _
    show isPlain _ = true
    decide
  | some id =>
    have here := takes id (Option.filter_eq_some_iff.mp some_).1
    refine ⟨⟨True.intro, fun _ other => nomatch other⟩, fun (bots : List Bot)
      (held : ∀ bot ∈ bots, _) strict => ?_⟩
    have plain : ∀ {s}, db.TakesText s → isPlain s = true := plain_of_takesText strict
    refine routeOf_plain (plain here) fun bot mem => ?_
    obtain ⟨named, paper, broker, risk⟩ := held bot mem
    exact ⟨plain named, fun id is => plain (paper id is), fun id is => plain (broker id is),
      fun id is => plain (risk id is)⟩

variable {g : WebhookGateway} {key : Str} {alert : Alert} {symbol : SymbolRow}

theorem existing_answers (keyed : db.TakesText key) {post : Result → Prop}
    (all : ∀ row, post (duplicateOf row)) :
    db.Answers post (Ask.existing key >>= fun row => pure (duplicateOf row)) :=
  ⟨⟨keyed, fun _ other => nomatch other⟩, fun row _ => all row⟩

theorem Alert.length_key (named : alert.idempotencyKey py = .ok key) : key.length ≤ 128 := by
  unfold Alert.idempotencyKey at named
  split_ifs at named
  · cases named
    exact List.length_take_le 128 _
  · obtain ⟨fingerprint, -, ok⟩ := bind_ok named
    cases ok
    exact List.length_take_le 128 _

theorem recordSignal_answers (arrives : arrival.WellFormed) (plain : db.strict = true → alert.Plain)
    (coded : db.TakesText symbol.code) (versioned : ∀ id ∈ version, db.TakesText id)
    (keyed : db.TakesText key) (length : key.length ≤ 128) (inside : alert.signalTime.Inside) :
    db.Answers (fun _ => True) (g.recordSignal arrival strength key alert symbol version) := by
  refine (routeFor_answers versioned).bind fun routing routed => ?_
  rw [inside.utc]
  refine ⟨⟨?_, fun _ other => nomatch other⟩, fun (made : Bool) _ => ?_⟩
  · show db.TakesSignal _
    refine ⟨keyed, fun strict => ?_, fun _ => length⟩
    exact metaOf_standard (plain strict) (plain_of_takesText strict coded) arrives.correlationId
      (routed strict)
  · cases made with
    | true => exact ⟨⟨True.intro, fun _ other => nomatch other⟩, fun _ _ => True.intro⟩
    | false => exact existing_answers keyed fun _ => True.intro

theorem record_answers (arrives : arrival.WellFormed) (plain : db.strict = true → alert.Plain)
    (coded : db.TakesText symbol.code) (versioned : ∀ id ∈ version, db.TakesText id)
    (keyed : db.TakesText key) (length : key.length ≤ 128) (inside : alert.signalTime.Inside)
    (stored : db.TakesJson (.obj safe)) :
    db.Answers (fun _ => True) (g.record arrival safe strength key alert symbol version) := by
  refine ⟨⟨?_, fun _ other => nomatch other⟩, fun (made : Bool) _ => ?_⟩
  · show db.TakesEvent _
    exact ⟨keyed, fun ip mem => takesText_of_plain (arrives.sourceIp ip mem).1, stored,
      fun _ none => (nomatch none), fun _ => ⟨length, fun ip mem => (arrives.sourceIp ip mem).2⟩⟩
  · cases made with
    | true => exact recordSignal_answers arrives plain coded versioned keyed length inside
    | false => exact existing_answers keyed fun _ => True.intro

theorem record_inside
    (answers : db.Answers (fun _ => True)
      (g.record arrival safe strength key alert symbol version)) : alert.signalTime.Inside := by
  have inserted := answers.2 true True.intro
  change db.Answers _ (g.recordSignal arrival strength key alert symbol version) at inserted
  have routed : Possible db.serving (fun _ _ => True) () (routeFor version g.mode) := by
    unfold routeFor
    cases version.filter (· ≠ []) with
    | none => exact True.intro
    | some id => exact ⟨([] : List Bot), fun _ none => (nomatch none), True.intro⟩
  obtain ⟨routing, rest, -⟩ := inserted.bound.possible routed
  by_contra outside
  rw [Stamp.utc_of_not_inside outside] at rest
  obtain ⟨reason, other⟩ := rest
  cases other

structure Deliverable (db : Database) (py : Runtime) (arrival : Arrival) (safe : Fields)
    (alert : Alert) (key : Str) : Prop where
  keyed : db.TakesText key
  stored : db.TakesJson (.obj safe)
  short : Short arrival (some key)
  taken : LookedUp py alert.ticker → db.TakesText (rawOf py alert.ticker)
  askable : LookedUp py alert.ticker → Askable db py alert
  inside : LookedUp py alert.ticker → Versioned py alert → alert.signalTime.Inside

theorem deliver_answers (law : py.Lawful) (arrives : arrival.WellFormed)
    (named : alert.idempotencyKey py = .ok key) (plain : db.strict = true →
      db.TakesJson (.obj safe) →
      alert.Plain) :
    db.Answers (fun _ => True) (g.deliver py arrival safe strength alert key) ↔
      Deliverable db py arrival safe alert key := by
  constructor
  · intro answers
    have first := answers.2 none True.intro
    change db.Answers _ (resolveSource py alert.ticker >>= _) at first
    have resolving := first.bound
    obtain ⟨_, refused, reason, rfl⟩ := resolving.possible resolveSource_possible_error
    obtain ⟨stored, short⟩ := recordRejection_stored arrives refused
    have onward : LookedUp py alert.ticker → Askable db py alert ∧
        (Versioned py alert → alert.signalTime.Inside) := fun looked => by
      obtain ⟨_, second, symbol, rfl⟩ := resolving.possible (resolveSource_possible_ok looked)
      have asking := second.bound
      have askable : Askable db py alert := strategyVersionId_askable asking
      refine ⟨askable, fun versioned => ?_⟩
      obtain ⟨_, third, version, rfl⟩ :=
        asking.possible (strategyVersionId_possible_ok askable versioned)
      exact record_inside third
    exact {
      keyed := answers.1.1
      stored, short
      taken := fun looked => resolveSource_takes resolving looked
      askable := fun looked => (onward looked).1
      inside := fun looked => (onward looked).2 }
  · intro can
    have keyed : ∀ k ∈ some key, db.TakesText k := fun _ same => Option.some.inj same ▸ can.keyed
    refine ⟨⟨can.keyed, fun _ other => nomatch other⟩, fun (row : Option EventRow) _ => ?_⟩
    cases row with
    | some row => exact True.intro
    | none =>
      refine (resolveSource_answers law can.taken).bind ?_
      rintro (reason | symbol) ⟨resolved, looked⟩
      · exact recordRejection_answers arrives resolved keyed can.stored can.short
      · have here := looked ⟨symbol, rfl⟩
        refine (strategyVersionId_answers law (can.askable here)).bind ?_
        rintro (reason | version) ⟨found, versioned⟩
        · exact recordRejection_answers arrives found keyed can.stored can.short
        · exact record_answers arrives (fun strict => plain strict can.stored) resolved found
            can.keyed (Alert.length_key named)
              (can.inside here (versioned ⟨version, rfl⟩)) can.stored

end Stages

/-! ## Deliveries -/

structure Alert.Answerable (db : Database) (py : Runtime) (arrival : Arrival) (alert : Alert) :
    Prop where
  dated : ¬alert.hasId → alert.signalTime.Inside
  keyed : db.TakesText (alert.idText.take 122)
  short : alert.hasId → alert.idText.length + (stampText arrival.now).length ≤ 114
  taken : LookedUp py alert.ticker → db.TakesText (rawOf py alert.ticker)
  askable : LookedUp py alert.ticker → Askable db py alert
  inside : LookedUp py alert.ticker → Versioned py alert → alert.signalTime.Inside

namespace WebhookGateway

variable (g : WebhookGateway) (py : Runtime)

def Known (arrival : Arrival) : Prop :=
  g.restrictToTradingviewIps = true → arrival.sourceIp ∈ tradingviewIps.map fun ip => some (lit ip)

def LetIn (payload : Fields) (arrival : Arrival) : Prop :=
  g.Known arrival ∧ g.secret ≠ [] ∧
    (supplied py payload = g.secret ∨ g.secret <:+: arrival.rawBody)

structure Answerable (db : Database) (payload : Fields) (arrival : Arrival) : Prop where
  compared : g.Known arrival → g.secret ≠ [] → supplied py payload ≠ [] →
    isAscii (supplied py payload) = true ∧ isAscii g.secret = true
  shallow : g.LetIn py payload arrival → visitedFields py payload < py.nesting
  timed : g.LetIn py payload arrival → Timed py (redactFields py g.secret payload)
  stored : g.LetIn py payload arrival → db.TakesJson (.obj (redactFields py g.secret payload))
  alert : g.LetIn py payload arrival → ∀ alert,
    parseAlert py (redactFields py g.secret payload) = .ok alert →
      checkAge alert.signalTime arrival.now g.maxAgeSeconds g.futureToleranceSeconds = .ok () →
        alert.Answerable db py arrival

def Answered (db : Database) (payload : Fields) (arrival : Arrival) : Prop :=
  db.Answers (fun r => r.outcome = .accepted ∨ r.outcome = .duplicate ∨ r.outcome = .rejected)
    (g.receive py payload arrival)

end WebhookGateway

section Deliveries

variable {db : Database} {py : Runtime} {g : WebhookGateway} {payload safe : Fields}
  {arrival : Arrival} {alert : Alert}

theorem answered_iff_answers :
    g.Answered py db payload arrival ↔
      db.Answers (fun _ => True) (g.receive py payload arrival) := by
  constructor
  · exact fun answered => answered.mono (fun _ _ _ => True.intro) fun _ _ held => held
  · refine fun answers => answers.mono (fun _ r _ => ?_) fun _ _ held => held
    cases r.outcome with
    | accepted => exact .inl rfl
    | duplicate => exact .inr (.inl rfl)
    | rejected => exact .inr (.inr rfl)

theorem deliverable_iff (law : py.Lawful) (arrives : arrival.WellFormed)
    (named : alert.idempotencyKey py = .ok key) (stored : db.TakesJson (.obj safe)) :
    Deliverable db py arrival safe alert key ↔ alert.Answerable db py arrival := by
  have stamp := length_stampText arrives.now
  have keys : (db.TakesText key ↔ db.TakesText (alert.idText.take 122)) ∧
      (Short arrival (some key) ↔
        (alert.hasId → alert.idText.length + (stampText arrival.now).length ≤ 114)) ∧
      (¬alert.hasId → alert.signalTime.Inside) := by
    unfold Short
    by_cases given : alert.hasId
    · rw [Alert.idempotencyKey_of_id given, Except.ok.injEq] at named
      subst named
      refine ⟨⟨fun takes => takes.subset (List.subset_append_right _ _),
        fun takes => (takesText_lit (by decide)).append takes⟩, ?_, fun none => absurd given none⟩
      have before : (lit "tv:id:").length = 6 := rfl
      simp only [Option.mem_some_iff, forall_eq', List.length_append, before, List.length_take,
        given, true_implies]
      omega
    · obtain ⟨inside, rfl⟩ := (Alert.idempotencyKey_of_no_id law.sha256_length given).mp named
      have empty : alert.idText = [] := by
        by_contra some_
        exact given (decide_eq_true some_)
      refine ⟨iff_of_true ?_ ?_, iff_of_true ?_ fun is => absurd is given, fun _ => inside⟩
      · exact (takesText_lit (by decide)).append (takesText_of_plain (law.sha256_plain _))
      · rw [empty]
        exact takesText_of_plain rfl
      · have before : (lit "tv:fp:").length = 6 := rfl
        simp only [Option.mem_some_iff, forall_eq', List.length_append, before, law.sha256_length]
        omega
  obtain ⟨keyed, short, dated⟩ := keys
  constructor
  · exact fun can => ⟨dated, keyed.mp can.keyed, short.mp can.short, can.taken, can.askable,
      can.inside⟩
  · exact fun can => ⟨keyed.mpr can.keyed, stored, short.mpr can.short, can.taken, can.askable,
      can.inside⟩

theorem checkAge_error {signalTime : Stamp} {now : ℕ} {maxAge tolerance : ℤ} {e : Raised}
    (error : checkAge signalTime now maxAge tolerance = .error e) : Gentle e := by
  unfold checkAge at error
  simp only at error
  split_ifs at error
  · refine .of_refuse ?_ error
    simp only [isPlain_append, isPlain_intText]
    decide
  · refine .of_refuse ?_ error
    simp only [isPlain_append, isPlain_intText]
    decide

def Comparable (py : Runtime) (g : WebhookGateway) (payload : Fields) (arrival : Arrival) : Prop :=
  g.Known arrival → g.secret ≠ [] → supplied py payload ≠ [] →
    isAscii (supplied py payload) = true ∧ isAscii g.secret = true

theorem checkSource_of_known (known : g.Known arrival) :
    g.checkSource arrival.sourceIp = .ok () := by
  refine if_neg fun both => both.2 (known both.1)

theorem admitted_of_unknown (unknown : ¬g.Known arrival) :
    ∃ reason, g.admitted py payload arrival = .error (.unauthorized reason) := by
  unfold WebhookGateway.Known at unknown
  rw [Classical.not_imp] at unknown
  unfold WebhookGateway.admitted WebhookGateway.checkSource
  rw [if_pos unknown]
  exact ⟨_, rfl⟩

theorem admitted_cases (compared : Comparable py g payload arrival) :
    (g.LetIn py payload arrival ∧ ∃ strength, g.admitted py payload arrival = .ok strength) ∨
      (¬g.LetIn py payload arrival ∧
        ∃ reason, g.admitted py payload arrival = .error (.unauthorized reason)) := by
  by_cases known : g.Known arrival
  · have open_ : g.admitted py payload arrival =
        authenticate py payload arrival.rawBody g.secret := by
      unfold WebhookGateway.admitted
      rw [checkSource_of_known known]
      rfl
    rw [open_]
    unfold authenticate WebhookGateway.LetIn
    by_cases unset : g.secret = []
    · rw [if_pos unset]
      exact .inr ⟨fun let_in => let_in.2.1 unset, _, rfl⟩
    · have comparable : ¬(supplied py payload ≠ [] ∧
          ¬((isAscii (supplied py payload) : Prop) ∧ isAscii g.secret)) :=
        fun both => both.2 (compared known unset both.1)
      rw [if_neg unset, if_neg comparable]
      by_cases same : supplied py payload = g.secret
      · have given : supplied py payload ≠ [] := same ▸ unset
        rw [if_pos ⟨given, same⟩]
        exact .inl ⟨⟨known, unset, .inl same⟩, _, rfl⟩
      · rw [if_neg fun both => same both.2]
        by_cases inside : g.secret <:+: arrival.rawBody
        · rw [if_pos inside]
          exact .inl ⟨⟨known, unset, .inr inside⟩, _, rfl⟩
        · rw [if_neg inside]
          refine .inr ⟨?_, _, rfl⟩
          rintro ⟨-, -, same' | inside'⟩
          · exact same same'
          · exact inside inside'
  · exact .inr ⟨fun let_in => known let_in.1, admitted_of_unknown known⟩

theorem admitted_of_not_comparable (not : ¬Comparable py g payload arrival) :
    g.admitted py payload arrival = .error .type := by
  unfold Comparable at not
  simp only [Classical.not_imp] at not
  obtain ⟨known, set, given, incomparable⟩ := not
  unfold WebhookGateway.admitted authenticate
  rw [checkSource_of_known known, if_neg set, if_pos ⟨given, incomparable⟩]
  rfl

theorem read_error (law : py.Lawful) (timed : Timed py safe) {now : ℕ} {e : Raised}
    (error : g.read py safe now = .error e) : Gentle e := by
  rcases bind_error error with parsing | ⟨alert, -, error⟩
  · exact parseAlert_error law timed parsing
  · rcases bind_error error with aging | ⟨_, -, error⟩
    · exact checkAge_error aging
    · cases error

theorem read_ok {now : ℕ} : g.read py safe now = .ok alert ↔ parseAlert py safe = .ok alert ∧
    checkAge alert.signalTime now g.maxAgeSeconds g.futureToleranceSeconds = .ok () := by
  unfold WebhookGateway.read
  constructor
  · intro ok
    obtain ⟨alert', parsed, ok⟩ := bind_ok ok
    obtain ⟨_, aged, ok⟩ := bind_ok ok
    cases ok
    exact ⟨parsed, aged⟩
  · rintro ⟨parsed, aged⟩
    rw [parsed]
    show (checkAge _ _ _ _ >>= fun _ => pure alert) = _
    rw [aged]
    rfl

theorem read_harsh (untimed : ¬Timed py safe) {now : ℕ} :
    ∃ e, g.read py safe now = .error e ∧ Harsh e := by
  obtain ⟨e, parsing, harsh⟩ := parseAlert_harsh untimed
  refine ⟨e, ?_, harsh⟩
  unfold WebhookGateway.read
  rw [parsing]
  rfl

theorem receive_of_admitted {strength : Strength}
    (admitted : g.admitted py payload arrival = .ok strength)
    (shallow : visitedFields py payload < py.nesting) :
    g.receive py payload arrival =
      g.intake py (redactFields py g.secret payload) arrival strength := by
  unfold WebhookGateway.receive
  rw [admitted]
  exact if_neg (by omega)

theorem exists_key (dated : ¬alert.hasId → alert.signalTime.Inside) :
    ∃ key, alert.idempotencyKey py = .ok key := by
  by_cases given : alert.hasId
  · exact ⟨_, Alert.idempotencyKey_of_id given⟩
  · unfold Alert.idempotencyKey Alert.fingerprint
    rw [if_neg given, (dated given).utc]
    exact ⟨_, rfl⟩

theorem key_error {e : Raised} (error : alert.idempotencyKey py = .error e) : e = .overflow := by
  unfold Alert.idempotencyKey Alert.fingerprint at error
  split_ifs at error with given
  by_cases inside : alert.signalTime.Inside
  · rw [inside.utc] at error
    cases error
  · rw [Stamp.utc_of_not_inside inside] at error
    cases error
    rfl

/-- A delivery is answered exactly where it can be. -/
theorem answered_iff (law : py.Lawful) (arrives : arrival.WellFormed) :
    g.Answered py db payload arrival ↔ g.Answerable py db payload arrival := by
  rw [answered_iff_answers]
  have plain : ∀ {alert}, parseAlert py (redactFields py g.secret payload) = .ok alert →
      db.strict = true → db.TakesJson (.obj (redactFields py g.secret payload)) → alert.Plain :=
    fun parsed strict stored => parseAlert_plain law (stored strict) parsed
  constructor
  · intro answers
    have compared : Comparable py g payload arrival := by
      by_contra not
      unfold WebhookGateway.receive at answers
      rw [admitted_of_not_comparable not] at answers
      obtain ⟨reason, other⟩ := answers
      cases other
    have let_in : g.LetIn py payload arrival → visitedFields py payload < py.nesting ∧
        Timed py (redactFields py g.secret payload) ∧
        db.TakesJson (.obj (redactFields py g.secret payload)) ∧
        ∀ alert, g.read py (redactFields py g.secret payload) arrival.now = .ok alert →
          alert.Answerable db py arrival := by
      intro here
      obtain ⟨-, strength, admitted⟩ :=
        (admitted_cases compared).resolve_right fun other => other.1 here
      have shallow : visitedFields py payload < py.nesting := by
        by_contra deep
        unfold WebhookGateway.receive at answers
        rw [admitted] at answers
        simp only [if_pos (show py.nesting < visitedFields py payload + 1 by omega)] at answers
        obtain ⟨reason, other⟩ := answers
        cases other
      rw [receive_of_admitted admitted shallow] at answers
      unfold WebhookGateway.intake at answers
      have timed : Timed py (redactFields py g.secret payload) := by
        by_contra untimed
        obtain ⟨e, reading, rfl | rfl⟩ : ∃ e, g.read py (redactFields py g.secret payload)
            arrival.now = .error e ∧ Harsh e := read_harsh untimed
        · rw [reading] at answers
          obtain ⟨reason, other⟩ := answers
          cases other
        · rw [reading] at answers
          obtain ⟨reason, other⟩ := answers
          cases other
      refine ⟨shallow, timed, ?_⟩
      cases reading : g.read py (redactFields py g.secret payload) arrival.now with
      | error e =>
        obtain ⟨reason, rfl, -⟩ := read_error law timed reading
        rw [reading] at answers
        exact ⟨(recordRejection_stored arrives answers).1, fun alert ok => nomatch ok⟩
      | ok alert =>
        rw [reading] at answers
        cases named : alert.idempotencyKey py with
        | error e =>
          simp only [named, key_error named] at answers
          obtain ⟨reason, other⟩ := answers
          cases other
        | ok key =>
          simp only [named] at answers
          have can := (deliver_answers law arrives named (plain (read_ok.mp reading).1)).mp answers
          refine ⟨can.stored, ?_⟩
          rintro _ ⟨⟩
          exact (deliverable_iff law arrives named can.stored).mp can
    exact {
      compared
      shallow := fun here => (let_in here).1
      timed := fun here => (let_in here).2.1
      stored := fun here => (let_in here).2.2.1
      alert := fun here alert parsed aged =>
        (let_in here).2.2.2 alert (read_ok.mpr ⟨parsed, aged⟩) }
  · intro can
    rcases admitted_cases can.compared with ⟨here, strength, admitted⟩ | ⟨-, reason, refused⟩
    · rw [receive_of_admitted admitted (can.shallow here)]
      unfold WebhookGateway.intake
      cases reading : g.read py (redactFields py g.secret payload) arrival.now with
      | error e =>
        obtain ⟨reason, rfl, gentle⟩ := read_error law (can.timed here) reading
        exact recordRejection_answers arrives (takesText_of_plain gentle)
          (fun _ none => nomatch none) (can.stored here) fun _ none => nomatch none
      | ok alert =>
        obtain ⟨parsed, aged⟩ := read_ok.mp reading
        have answerable := can.alert here alert parsed aged
        obtain ⟨key, named⟩ : ∃ key, alert.idempotencyKey py = .ok key :=
          exists_key answerable.dated
        simp only [named]
        exact (deliver_answers law arrives named (plain parsed)).mpr
          ((deliverable_iff law arrives named (can.stored here)).mpr answerable)
    · unfold WebhookGateway.receive
      rw [refused]
      exact ⟨reason, rfl⟩

end Deliveries

/-! ## On fixed inputs -/

theorem reprAscii_plain (c : CodePoint) : isPlain (reprAscii c) = true := by
  unfold reprAscii
  split_ifs with quoted printable short
  · rcases quoted with same | same
    · rw [show c = 92 from Fin.ext same]
      decide
    · rw [show c = 39 from Fin.ext same]
      decide
  · have plain : isSurrogate c = false := by
      simp only [isSurrogate, decide_eq_false_iff_not]
      omega
    have some_ : c ≠ nul := by
      rintro rfl
      exact absurd printable.1 (by decide)
    simp only [isPlain, List.all_cons, List.all_nil, plain, some_, ne_eq, not_false_eq_true,
      Bool.not_false, decide_true, Bool.and_self]
  · rw [isPlain_append, isPlain_pad (by decide) (by decide)]
    decide
  · rw [isPlain_append, isPlain_pad (by decide) (by decide)]
    decide
  · rw [isPlain_append, isPlain_pad (by decide) (by decide)]
    decide

theorem sample_lawful {digests : List (List Char × Str)}
    (all : ∀ entry ∈ digests, entry.2.length = 64 ∧ isPlain entry.2 = true) :
    (sample digests).Lawful where
  repr_plain s := by
    have inner : isPlain (s.flatMap reprAscii) = true := by
      refine List.all_eq_true.mpr fun c mem => ?_
      obtain ⟨d, -, here⟩ := List.mem_flatMap.mp mem
      exact List.all_eq_true.mp (reprAscii_plain d) c here
    show isPlain (lit "'" ++ s.flatMap reprAscii ++ lit "'") = true
    rw [isPlain_append, isPlain_append, inner]
    decide
  str_plain v other := by
    cases v with
    | str s => exact absurd rfl (other s)
    | int i => exact isPlain_intText i
    | bool b => cases b <;> rfl
    | null => rfl
    | float _ | arr _ | obj _ =>
      show isPlain (lit "...") = true
      decide
  decimal_plain s value finite read := by
    have digits : (if !s.isEmpty && s.all isDigitAscii then some (s, true) else none) =
        some (value, finite) := read
    split_ifs at digits with numeral
    cases digits
    rw [Bool.and_eq_true] at numeral
    refine List.all_eq_true.mpr fun c mem => ?_
    have digit := List.all_eq_true.mp numeral.2 c mem
    simp only [isDigitAscii, decide_eq_true_eq] at digit
    have plain : isSurrogate c = false := by
      simp only [isSurrogate, decide_eq_false_iff_not]
      omega
    have some_ : c ≠ nul := by
      rintro rfl
      exact absurd digit.1 (by decide)
    simp only [plain, some_, ne_eq, not_false_eq_true, Bool.not_false, decide_true, Bool.and_self]
  sha256_plain s := by
    show isPlain ((digests.lookup s).getD _) = true
    cases found : digests.lookup s with
    | none => decide
    | some digest =>
      obtain ⟨before, after, rfl, -⟩ := List.lookup_eq_some_iff.mp found
      exact (all _ (List.mem_append_right _ (List.mem_cons_self ..))).2
  sha256_length := Alert.length_sample_sha256 fun entry mem => (all entry mem).1

theorem sampleArrival_wellFormed {eventId signalId : RowId} :
    (sampleArrival eventId signalId).WellFormed where
  sourceIp := fun _ none => nomatch none
  correlationId := fun _ none => nomatch none
  now := by
    show epochStart + 1700000001 * 1000000 < calendarEnd
    decide

theorem answered_iff_of_sample :
    sampleGate.Answered (sample []) ⟨true⟩ sampleAlert (sampleArrival 1 2) ↔
      sampleGate.Answerable (sample []) ⟨true⟩ sampleAlert (sampleArrival 1 2) :=
  answered_iff (sample_lawful fun _ none => nomatch none) sampleArrival_wellFormed

/-- A secret that is no ASCII is not answered. -/
theorem not_forall_answered : ¬∀ (py : Runtime) (db : Database) (g : WebhookGateway)
    (payload : Fields) (arrival : Arrival), py.Lawful → arrival.WellFormed →
      g.Answered py db payload arrival := by
  intro claimed
  have answered := claimed (sample []) ⟨false⟩ sampleGate [(lit "secret", .str (lit "é"))]
    (sampleArrival 1 2) (sample_lawful fun _ none => nomatch none) sampleArrival_wellFormed
  have raised : sampleGate.receive (sample []) [(lit "secret", .str (lit "é"))]
    (sampleArrival 1 2) =
      Dialogue.raised .type := rfl
  obtain ⟨reason, other⟩ := answered
  cases other

end TradeResearch.Webhooks
