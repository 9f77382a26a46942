import Mathlib.Data.List.Dedup
import TradeResearch.Lib.Fallible
import TradeResearch.Lib.Table
import TradeResearch.Webhooks.World

/-!
# From a provider's symbol to an instrument

`backend/app/symbols/service.py`: the tables of symbols and of mappings, `upsert_mapping` which
writes them, and `resolve_source` which reads them. The fields of a contract in a mapping are left
out; a text that no database takes is not told apart.

* `SymbolTables` carries the keys of the tables: a provider lists no symbol twice, and no instrument
  twice.
* `Chosen` is the mapping a symbol stands for; `resolveSource_eq_ok_iff` says that it is the one
  that is resolved, and that two instruments under one ticker are refused.
* `resolveSource_upsertMapping`: a mapping that was written is found.
-/

namespace TradeResearch.Symbols

open Encoding Webhooks

structure SymbolMapping extends Mapping where
  provider : Str
  deriving DecidableEq

def SymbolMapping.key (m : SymbolMapping) : Str × Str := (m.provider, m.providerSymbol)

structure SymbolTables where
  symbols : Table SymbolRow.id
  mappings : Table SymbolMapping.key
  listed : ∀ m ∈ mappings.rows, ∀ m' ∈ mappings.rows, m.provider = m'.provider →
    m.symbolId = m'.symbolId → m = m'
  known : ∀ m ∈ mappings.rows, ∃ symbol, symbols.find? m.symbolId = some symbol

inductive SymbolError where
  | invalidCode (reason : Str)
  | unknownSymbol (reason : Str)
  | unknownSource (reason : Str)
  | ambiguous (reason : Str)
  | inactive (reason : Str)
  | duplicate (reason : Str)
  | database
  deriving DecidableEq

def providers : List Str := ["mt5", "tradingview", "ccxt", "yfinance", "simulator"].map lit

def maxCode : ℕ := 32

variable (py : Runtime)

def checkProvider (provider : Str) : Except SymbolError Unit :=
  if provider ∉ providers then
    .error (.invalidCode (lit "unknown provider " ++ py.repr provider ++
      lit "; expected one of (" ++ joinTexts ", " (providers.map py.repr) ++ lit ")"))
  else .ok ()

def normaliseProviderSymbol (value : Str) : Except SymbolError Str :=
  let cleaned := py.upper (strip value)
  if cleaned = [] then .error (.invalidCode (lit "provider symbol is empty"))
  else if maxProviderSymbol < cleaned.length then
    .error (.invalidCode (lit "provider symbol longer than 64 characters"))
  else .ok cleaned

def normaliseCode (code : Str) : Except SymbolError Str :=
  let cleaned := py.upper (strip code)
  if cleaned = [] then .error (.invalidCode (lit "symbol code is empty"))
  else if maxCode < cleaned.length then
    .error (.invalidCode (lit "symbol code longer than 32 characters: " ++
      py.repr (cleaned.take 40)))
  else if cleaned.any isSpace then
    .error (.invalidCode (lit "symbol code contains whitespace: " ++ py.repr code))
  else .ok cleaned

def getSymbol (t : SymbolTables) (internal : Str) : Except SymbolError SymbolRow := do
  let code ← normaliseCode py internal
  match t.symbols.rows.find? fun symbol => symbol.code = code with
  | none => .error (.unknownSymbol (lit "no internal symbol " ++ py.repr code))
  | some symbol => .ok symbol

def wildcards : Like.Wildcards CodePoint where
  any := .ofChar '%'
  one := .ofChar '_'
  escape := .ofChar '\\'

def finishMapping (t : SymbolTables) (allowInactive : Bool) (mapping : SymbolMapping)
    (shown : Str) : Except SymbolError SymbolRow :=
  let named := lit "mapping " ++ mapping.provider ++ lit ":" ++ shown
  if (!mapping.isActive && !allowInactive) = true then
    .error (.inactive (named ++ lit " is inactive"))
  else
    match t.symbols.find? mapping.symbolId with
    | none => .error (.unknownSymbol (named ++ lit " points at a missing symbol"))
    | some symbol =>
      if (!symbol.isActive && !allowInactive) = true then
        .error (.inactive (lit "symbol " ++ symbol.code ++ lit " is inactive"))
      else .ok symbol

def listedAt (t : SymbolTables) (provider : Str) : List SymbolMapping :=
  t.mappings.rows.filter fun m => m.provider = provider

def qualifiedMappings (t : SymbolTables) (provider raw : Str) :
    Except SymbolError (List SymbolMapping) :=
  let tested := (listedAt t provider).map fun m =>
    (m, Like.like wildcards (.ofChar '%' :: colon :: raw) m.providerSymbol)
  if tested.any fun row => row.2 = none then .error .database
  else .ok ((tested.filter fun row => row.2 = some true).map Prod.fst)

def unknownSource (provider raw : Str) : SymbolError :=
  .unknownSource (provider ++ lit " symbol " ++ py.repr raw ++
    lit " has no mapping; add one rather than assuming it matches a broker symbol")

def resolveTicker (t : SymbolTables) (provider raw : Str) (allowInactive : Bool) :
    Except SymbolError SymbolRow := do
  if raw.contains colon then
    throw (unknownSource py provider raw)
  let qualified ← qualifiedMappings t provider raw
  match (qualified.map fun m => m.symbolId).dedup with
  | [] => throw (unknownSource py provider raw)
  | [id] =>
    -- under one key a dictionary holds the last value it was given
    match qualified.reverse.find? fun m => m.symbolId = id with
    | some mapping => finishMapping t allowInactive mapping mapping.providerSymbol
    | none => throw (unknownSource py provider raw)
  | ids =>
    throw (.ambiguous (provider ++ lit " ticker " ++ py.repr raw ++ lit " matches " ++
      intText ids.length ++ lit " instruments (" ++
      joinTexts ", " (sortTexts (qualified.map fun m => m.providerSymbol)) ++
      lit "); send the exchange-qualified symbol"))

def resolveCandidates (t : SymbolTables) (provider raw : Str) (allowInactive : Bool) :
    List Str → Except SymbolError SymbolRow
  | [] => resolveTicker py t provider raw allowInactive
  | candidate :: rest =>
    match t.mappings.find? (provider, candidate) with
    | some mapping => finishMapping t allowInactive mapping candidate
    | none => resolveCandidates t provider raw allowInactive rest

def resolveSource (t : SymbolTables) (provider source : Str) (allowInactive : Bool) :
    Except SymbolError SymbolRow := do
  checkProvider py provider
  let raw ← normaliseProviderSymbol py source
  resolveCandidates py t provider raw allowInactive [raw, stripExchangePrefix raw].dedup

theorem mem_of_getSymbol {t : SymbolTables} {internal : Str} {symbol : SymbolRow}
    (found : getSymbol py t internal = .ok symbol) : symbol ∈ t.symbols.rows := by
  obtain ⟨code, -, found⟩ := Fallible.bind_eq_ok.mp found
  cases here : t.symbols.rows.find? fun symbol => symbol.code = code with
  | none =>
    rw [here] at found
    cases found
  | some row =>
    rw [here] at found
    cases found
    exact List.mem_of_find?_eq_some here

def SymbolTables.renamed (t : SymbolTables) (provider name : Str) (symbol : SymbolRow) :
    SymbolMapping :=
  match t.mappings.rows.find? fun m => m.symbolId = symbol.id ∧ m.provider = provider with
  | some mapping => { mapping with providerSymbol := name }
  | none => { provider, providerSymbol := name, symbolId := symbol.id, isActive := true }

theorem SymbolTables.renamed_eq (t : SymbolTables) (provider name : Str) (symbol : SymbolRow) :
    (t.renamed provider name symbol).provider = provider ∧
      (t.renamed provider name symbol).providerSymbol = name ∧
      (t.renamed provider name symbol).symbolId = symbol.id := by
  unfold renamed
  split
  · rename_i mapping found
    have is := List.find?_some found
    simp only [Bool.decide_and, Bool.and_eq_true, decide_eq_true_eq] at is
    exact ⟨is.2, rfl, is.1⟩
  · exact ⟨rfl, rfl, rfl⟩

def SymbolTables.others (t : SymbolTables) (provider : Str) (symbol : SymbolRow) :
    Table SymbolMapping.key where
  rows := t.mappings.rows.filter fun m => ¬ (m.symbolId = symbol.id ∧ m.provider = provider)
  keys := t.mappings.keys.sublist (List.filter_sublist.map SymbolMapping.key)

theorem SymbolTables.mem_others {t : SymbolTables} {provider : Str} {symbol : SymbolRow}
    {m : SymbolMapping} : m ∈ (t.others provider symbol).rows ↔
      m ∈ t.mappings.rows ∧ ¬ (m.symbolId = symbol.id ∧ m.provider = provider) := by
  unfold others
  rw [List.mem_filter, decide_eq_true_iff]

def SymbolTables.relisted (t : SymbolTables) (provider name : Str) (symbol : SymbolRow)
    (there : symbol ∈ t.symbols.rows) : SymbolTables where
  symbols := t.symbols
  mappings := (t.others provider symbol).put (t.renamed provider name symbol)
  listed := by
    obtain ⟨at_, -, of⟩ := t.renamed_eq provider name symbol
    have apart : ∀ m ∈ (t.others provider symbol).rows, m.provider = provider →
        m.symbolId ≠ symbol.id := fun m mem here same =>
      (SymbolTables.mem_others.mp mem).2 ⟨same, here⟩
    intro m mem m' mem' same same'
    rcases Table.mem_put.mp mem with ⟨old, -⟩ | rfl
    · rcases Table.mem_put.mp mem' with ⟨old', -⟩ | rfl
      · exact t.listed m (SymbolTables.mem_others.mp old).1 m' (SymbolTables.mem_others.mp old').1
          same same'
      · exact absurd (same'.trans of) (apart m old (same.trans at_))
    · rcases Table.mem_put.mp mem' with ⟨old', -⟩ | rfl
      · exact absurd (same'.symm.trans of) (apart m' old' (same.symm.trans at_))
      · rfl
  known := by
    intro m mem
    rcases Table.mem_put.mp mem with ⟨old, -⟩ | rfl
    · exact t.known m (SymbolTables.mem_others.mp old).1
    · rw [(t.renamed_eq provider name symbol).2.2]
      exact ⟨symbol, Table.find?_of_mem there⟩

def upsertMapping (t : SymbolTables) (internal provider providerSymbol : Str) :
    Except SymbolError SymbolTables := do
  checkProvider py provider
  match found : getSymbol py t internal with
  | .error e => throw e
  | .ok symbol =>
    let name ← normaliseProviderSymbol py providerSymbol
    match t.mappings.find? (provider, name) with
    | some clash =>
      if clash.symbolId ≠ symbol.id then
        throw (.duplicate (provider ++ lit " symbol " ++ py.repr name ++
          lit " is already mapped to " ++
          ((t.symbols.find? clash.symbolId).map SymbolRow.code).getD clash.symbolId))
      else return t
    | none => return t.relisted provider name symbol (mem_of_getSymbol py found)

def Qualified (raw stored : Str) : Prop := ∃ exchange, stored = exchange ++ colon :: raw

section Chosen

variable (t : SymbolTables) (provider raw : Str)

def Unlisted (stored : Str) : Prop :=
  ∀ m ∈ t.mappings.rows, m.provider = provider → m.providerSymbol ≠ stored

structure Chosen (m : SymbolMapping) : Prop where
  mem : m ∈ t.mappings.rows
  at_provider : m.provider = provider
  answers : m.providerSymbol = raw ∨
    Unlisted t provider raw ∧ m.providerSymbol = stripExchangePrefix raw ∨
    Unlisted t provider raw ∧ Unlisted t provider (stripExchangePrefix raw) ∧
      colon ∉ raw ∧ Qualified raw m.providerSymbol ∧
      ∀ m' ∈ t.mappings.rows, m'.provider = provider → Qualified raw m'.providerSymbol → m' = m

def PlainTicker : Prop :=
  Like.Literal wildcards raw ∨ colon ∈ raw ∨ ¬ Unlisted t provider raw

end Chosen

section Resolve

variable {py} {t : SymbolTables} {provider raw : Str} {allowInactive : Bool}

theorem mem_listedAt {m : SymbolMapping} :
    m ∈ listedAt t provider ↔ m ∈ t.mappings.rows ∧ m.provider = provider := by
  unfold listedAt
  rw [List.mem_filter, decide_eq_true_iff]

theorem unlisted_iff (stored : Str) :
    Unlisted t provider stored ↔ t.mappings.find? (provider, stored) = none := by
  constructor
  · intro unlisted
    refine List.find?_eq_none.mpr fun m mem same => ?_
    have key : SymbolMapping.key m = (provider, stored) := of_decide_eq_true same
    exact unlisted m mem (Prod.mk.inj key).1 (Prod.mk.inj key).2
  · intro free m mem here same
    have found := Table.find?_of_mem mem
    have key : SymbolMapping.key m = (provider, stored) := Prod.ext here same
    rw [key, free] at found
    cases found

theorem find?_mapping_iff {m : SymbolMapping} {stored : Str} :
    t.mappings.find? (provider, stored) = some m ↔
      m ∈ t.mappings.rows ∧ m.provider = provider ∧ m.providerSymbol = stored := by
  constructor
  · intro found
    have key := Table.key_of_find? found
    exact ⟨List.mem_of_find?_eq_some found, (Prod.mk.inj key).1, (Prod.mk.inj key).2⟩
  · rintro ⟨mem, rfl, rfl⟩
    exact Table.find?_of_mem mem

theorem finishMapping_eq_ok {m : SymbolMapping} {shown : Str} :
    finishMapping t allowInactive m shown = .ok S ↔
      t.symbols.find? m.symbolId = some S ∧
        (allowInactive = true ∨ m.isActive = true ∧ S.isActive = true) := by
  unfold finishMapping
  by_cases off : (!m.isActive && !allowInactive) = true
  · rw [if_pos off]
    refine iff_of_false nofun fun given => ?_
    rcases given.2 with asked | ⟨active, -⟩
    · simp [asked] at off
    · simp [active] at off
  · rw [if_neg off]
    cases found : t.symbols.find? m.symbolId with
    | none => exact iff_of_false nofun nofun
    | some symbol =>
      dsimp only
      by_cases off' : (!symbol.isActive && !allowInactive) = true
      · rw [if_pos off']
        refine iff_of_false nofun fun given => ?_
        cases given.1
        rcases given.2 with asked | ⟨-, active⟩
        · simp [asked] at off'
        · simp [active] at off'
      · rw [if_neg off']
        simp only [Bool.and_eq_true, Bool.not_eq_true', not_and, Bool.not_eq_false] at off off'
        constructor
        · intro given
          cases given
          refine ⟨rfl, ?_⟩
          cases active : m.isActive with
          | false => exact .inl (off active)
          | true =>
            cases active' : S.isActive with
            | false => exact .inl (off' active')
            | true => exact .inr ⟨rfl, rfl⟩
        · rintro ⟨is, -⟩
          cases is
          rfl

def tickers (t : SymbolTables) (provider raw : Str) : List SymbolMapping :=
  (listedAt t provider).filter fun m => decide (colon :: raw <:+ m.providerSymbol)

theorem mem_tickers {m : SymbolMapping} : m ∈ tickers t provider raw ↔
    m ∈ t.mappings.rows ∧ m.provider = provider ∧ Qualified raw m.providerSymbol := by
  unfold tickers
  rw [List.mem_filter, mem_listedAt, decide_eq_true_iff, and_assoc]
  refine and_congr_right fun _ => and_congr_right fun _ => ?_
  constructor
  · rintro ⟨exchange, same⟩
    exact ⟨exchange, same.symm⟩
  · rintro ⟨exchange, same⟩
    exact ⟨exchange, same.symm⟩

theorem literal_cons (literal : Like.Literal wildcards raw) :
    Like.Literal wildcards (colon :: raw) := by
  intro c mem
  rcases List.mem_cons.mp mem with rfl | mem
  · decide
  · exact literal c mem

theorem qualifiedMappings_of_literal (t : SymbolTables) (provider : Str)
    (literal : Like.Literal wildcards raw) :
    qualifiedMappings t provider raw = .ok
      (tickers t provider raw) := by
  have tested : ∀ stored, Like.like wildcards (.ofChar '%' :: colon :: raw) stored =
      some (decide (colon :: raw <:+ stored)) := fun stored =>
    Like.like_any_literal (w := wildcards) (by decide) (literal_cons literal) stored
  unfold qualifiedMappings
  simp only [tested]
  rw [List.filter_map, List.map_map]
  simp [Function.comp_def, tickers]

theorem eq_of_tickers {m m' : SymbolMapping} (mem : m ∈ tickers t provider raw)
    (mem' : m' ∈ tickers t provider raw) (same : m.symbolId = m'.symbolId) : m = m' := by
  obtain ⟨here, at_, -⟩ := mem_tickers.mp mem
  obtain ⟨here', at', -⟩ := mem_tickers.mp mem'
  exact t.listed m here m' here' (at_.trans at'.symm) same

theorem resolveTicker_cases (literal : Like.Literal wildcards raw) (bare : colon ∉ raw) :
    (tickers t provider raw = [] ∧
      resolveTicker py t provider raw allowInactive = .error (unknownSource py provider raw)) ∨
    (∃ m ∈ tickers t provider raw, (∀ m' ∈ tickers t provider raw, m' = m) ∧
      resolveTicker py t provider raw allowInactive =
        finishMapping t allowInactive m m.providerSymbol) ∨
    (∃ m ∈ tickers t provider raw, ∃ m' ∈ tickers t provider raw, m ≠ m') ∧
      ∃ reason, resolveTicker py t provider raw allowInactive = .error (.ambiguous reason) := by
  have ids : ∀ id, id ∈ ((tickers t provider raw).map fun m => m.symbolId).dedup ↔
      ∃ m ∈ tickers t provider raw, m.symbolId = id := fun id => by
    rw [List.mem_dedup, List.mem_map]
  unfold resolveTicker
  rw [if_neg (bare ∘ List.contains_iff_mem.mp)]
  simp only [qualifiedMappings_of_literal t provider literal, Fallible.ok_bind]
  cases is : ((tickers t provider raw).map fun m => m.symbolId).dedup with
  | nil =>
    left
    refine ⟨List.eq_nil_iff_forall_not_mem.mpr fun m mem => ?_, rfl⟩
    have mem' := (ids m.symbolId).mpr ⟨m, mem, rfl⟩
    rw [is] at mem'
    cases mem'
  | cons id rest =>
    obtain ⟨m, mem, of⟩ := (ids id).mp (is ▸ List.mem_cons_self ..)
    right
    cases rest with
    | nil =>
      left
      have only : ∀ m' ∈ tickers t provider raw, m' = m := fun m' mem' => by
        have mem'' := (ids m'.symbolId).mpr ⟨m', mem', rfl⟩
        rw [is, List.mem_singleton] at mem''
        exact eq_of_tickers mem' mem (mem''.trans of.symm)
      refine ⟨m, mem, only, ?_⟩
      cases found : (tickers t provider raw).reverse.find? fun m => m.symbolId = id with
      | none =>
        have miss := List.find?_eq_none.mp found m (List.mem_reverse.mpr mem)
        exact absurd (decide_eq_true of) miss
      | some last =>
        dsimp only
        rw [found]
        rw [only last (List.mem_reverse.mp (List.mem_of_find?_eq_some found))]
    | cons id' rest =>
      right
      have distinct : id ≠ id' := fun same => by
        have nodup := List.nodup_dedup ((tickers t provider raw).map fun m => m.symbolId)
        rw [is, same] at nodup
        exact (List.nodup_cons.mp nodup).1 (List.mem_cons_self ..)
      obtain ⟨m', mem', of'⟩ := (ids id').mp
        (is ▸ List.mem_cons_of_mem _ (List.mem_cons_self ..))
      refine ⟨⟨m, mem, m', mem', fun same => distinct ?_⟩, _, rfl⟩
      rw [← of, ← of', same]

theorem stripExchangePrefix_of_bare (bare : colon ∉ raw) : stripExchangePrefix raw = raw :=
  if_neg bare

theorem resolveCandidates_eq : resolveCandidates py t provider raw allowInactive
      [raw, stripExchangePrefix raw].dedup =
    match t.mappings.find? (provider, raw),
      t.mappings.find? (provider, stripExchangePrefix raw) with
    | some m, _ => finishMapping t allowInactive m raw
    | none, some m => finishMapping t allowInactive m (stripExchangePrefix raw)
    | none, none => resolveTicker py t provider raw allowInactive := by
  by_cases same : raw = stripExchangePrefix raw
  · have once : [raw, stripExchangePrefix raw].dedup = [raw] := by
      rw [← same, List.dedup_cons_of_mem (List.mem_singleton_self raw), List.dedup_cons_of_notMem
        List.not_mem_nil, List.dedup_nil]
    rw [once, ← same]
    unfold resolveCandidates
    cases t.mappings.find? (provider, raw) with
    | none | some m => rfl
  · have both : [raw, stripExchangePrefix raw].dedup = [raw, stripExchangePrefix raw] :=
      List.Nodup.dedup (List.nodup_cons.mpr
        ⟨fun mem => same (List.mem_singleton.mp mem), List.nodup_singleton _⟩)
    rw [both]
    unfold resolveCandidates
    cases t.mappings.find? (provider, raw) with
    | some m => rfl
    | none =>
      unfold resolveCandidates
      cases t.mappings.find? (provider, stripExchangePrefix raw) with
      | some m | none => rfl

theorem chosen_listed {m : SymbolMapping} (found : t.mappings.find? (provider, raw) = some m)
    (m' : SymbolMapping) : Chosen t provider raw m' ↔ m' = m := by
  obtain ⟨mem, here, same⟩ := find?_mapping_iff.mp found
  constructor
  · intro chosen
    rcases chosen.answers with same' | ⟨unlisted, -⟩ | ⟨unlisted, -⟩
    · have found' := find?_mapping_iff.mpr ⟨chosen.mem, chosen.at_provider, same'⟩
      exact Option.some.inj (found'.symm.trans found)
    · exact absurd same (unlisted m mem here)
    · exact absurd same (unlisted m mem here)
  · rintro rfl
    exact ⟨mem, here, .inl same⟩

theorem chosen_stripped {m : SymbolMapping} (unlisted : Unlisted t provider raw)
    (found : t.mappings.find? (provider, stripExchangePrefix raw) = some m) (m' : SymbolMapping) :
    Chosen t provider raw m' ↔ m' = m := by
  obtain ⟨mem, here, same⟩ := find?_mapping_iff.mp found
  constructor
  · intro chosen
    rcases chosen.answers with same' | ⟨-, same'⟩ | ⟨-, unlisted', -⟩
    · exact absurd same' (unlisted m' chosen.mem chosen.at_provider)
    · have found' := find?_mapping_iff.mpr ⟨chosen.mem, chosen.at_provider, same'⟩
      exact Option.some.inj (found'.symm.trans found)
    · exact absurd same (unlisted' m mem here)
  · rintro rfl
    exact ⟨mem, here, .inr (.inl ⟨unlisted, same⟩)⟩

theorem chosen_ticker (unlisted : Unlisted t provider raw)
    (unlisted' : Unlisted t provider (stripExchangePrefix raw)) (m : SymbolMapping) :
    Chosen t provider raw m ↔
      colon ∉ raw ∧ m ∈ tickers t provider raw ∧ ∀ m' ∈ tickers t provider raw, m' = m := by
  constructor
  · intro chosen
    rcases chosen.answers with same | ⟨-, same⟩ | ⟨-, -, bare, qualified, only⟩
    · exact absurd same (unlisted m chosen.mem chosen.at_provider)
    · exact absurd same (unlisted' m chosen.mem chosen.at_provider)
    · refine ⟨bare, mem_tickers.mpr ⟨chosen.mem, chosen.at_provider, qualified⟩, fun m' mem' => ?_⟩
      obtain ⟨mem', here, qualified'⟩ := mem_tickers.mp mem'
      exact only m' mem' here qualified'
  · rintro ⟨bare, mem, only⟩
    obtain ⟨mem, here, qualified⟩ := mem_tickers.mp mem
    exact ⟨mem, here, .inr (.inr ⟨unlisted, unlisted', bare, qualified,
      fun m' mem' here' qualified' => only m' (mem_tickers.mpr ⟨mem', here', qualified'⟩)⟩)⟩

theorem resolveTicker_of_exchange (exchange : colon ∈ raw) :
    resolveTicker py t provider raw allowInactive = .error (unknownSource py provider raw) := by
  unfold resolveTicker
  rw [if_pos (List.contains_iff_mem.mpr exchange)]
  rfl

theorem resolveTicker_eq_ok (unlisted : Unlisted t provider raw)
    (unlisted' : Unlisted t provider (stripExchangePrefix raw))
    (plain : PlainTicker t provider raw) :
    resolveTicker py t provider raw allowInactive = .ok S ↔
      ∃ m, Chosen t provider raw m ∧ t.symbols.find? m.symbolId = some S ∧
        (allowInactive = true ∨ m.isActive = true ∧ S.isActive = true) := by
  simp only [chosen_ticker unlisted unlisted']
  by_cases exchange : colon ∈ raw
  · rw [resolveTicker_of_exchange exchange]
    refine iff_of_false nofun ?_
    rintro ⟨m, ⟨bare, -⟩, -⟩
    exact bare exchange
  · have literal : Like.Literal wildcards raw := by
      rcases plain with literal | with_ | listed
      · exact literal
      · exact absurd with_ exchange
      · exact absurd unlisted listed
    rcases @resolveTicker_cases py t provider raw allowInactive literal exchange with
      ⟨nothing, is⟩ | ⟨m, mem, only, is⟩ | ⟨⟨m, mem, m', mem', apart⟩, reason, is⟩
    · rw [is, nothing]
      refine iff_of_false nofun ?_
      rintro ⟨m, ⟨-, mem, -⟩, -⟩
      cases mem
    · rw [is, finishMapping_eq_ok]
      constructor
      · exact fun given => ⟨m, ⟨exchange, mem, only⟩, given⟩
      · rintro ⟨m', ⟨-, mem', -⟩, given⟩
        exact only m' mem' ▸ given
    · rw [is]
      refine iff_of_false nofun ?_
      rintro ⟨m'', ⟨-, -, only⟩, -⟩
      exact apart ((only m mem).trans (only m' mem').symm)

theorem resolveCandidates_eq_ok (plain : PlainTicker t provider raw) :
    resolveCandidates py t provider raw allowInactive [raw, stripExchangePrefix raw].dedup =
        .ok S ↔
      ∃ m, Chosen t provider raw m ∧ t.symbols.find? m.symbolId = some S ∧
        (allowInactive = true ∨ m.isActive = true ∧ S.isActive = true) := by
  rw [resolveCandidates_eq]
  cases listed : t.mappings.find? (provider, raw) with
  | some m =>
    simp only [chosen_listed listed, exists_eq_left, finishMapping_eq_ok]
  | none =>
    have unlisted := (unlisted_iff raw).mpr listed
    cases stripped : t.mappings.find? (provider, stripExchangePrefix raw) with
    | some m =>
      simp only [chosen_stripped unlisted stripped, exists_eq_left, finishMapping_eq_ok]
    | none => exact resolveTicker_eq_ok unlisted ((unlisted_iff _).mpr stripped) plain

end Resolve

theorem checkProvider_eq_ok {py : Runtime} {provider : Str} {u : Unit} :
    checkProvider py provider = .ok u ↔ provider ∈ providers := by
  unfold checkProvider
  by_cases known : provider ∈ providers
  · rw [if_neg (not_not.mpr known)]
    exact iff_of_true rfl known
  · rw [if_pos known]
    exact iff_of_false nofun known

theorem resolveSource_of_read {py : Runtime} {provider source raw : Str}
    (known : provider ∈ providers) (read : normaliseProviderSymbol py source = .ok raw)
    (t : SymbolTables) (allowInactive : Bool) :
    resolveSource py t provider source allowInactive =
      resolveCandidates py t provider raw allowInactive [raw, stripExchangePrefix raw].dedup := by
  have checked : checkProvider py provider = .ok () := checkProvider_eq_ok.mpr known
  unfold resolveSource
  rw [checked, Fallible.ok_bind, read, Fallible.ok_bind]

/-- For every table and every symbol that no pattern is made of: what is resolved is the instrument
of the mapping it stands for, if both are active or need not be; and a ticker that two instruments
list with an exchange, and none as it is, is refused. -/
theorem resolveSource_eq_ok_iff (py : Runtime) (t : SymbolTables) (provider source : Str)
    (allowInactive : Bool)
    (plain : ∀ raw, normaliseProviderSymbol py source = .ok raw → PlainTicker t provider raw) :
    (∀ S, resolveSource py t provider source allowInactive = .ok S ↔
      provider ∈ providers ∧ ∃ raw m, normaliseProviderSymbol py source = .ok raw ∧
        Chosen t provider raw m ∧ t.symbols.find? m.symbolId = some S ∧
          (allowInactive = true ∨ m.isActive = true ∧ S.isActive = true)) ∧
    ∀ raw, provider ∈ providers → normaliseProviderSymbol py source = .ok raw →
      Unlisted t provider raw → colon ∉ raw →
      ∀ m ∈ t.mappings.rows, ∀ m' ∈ t.mappings.rows, m.provider = provider →
        m'.provider = provider → Qualified raw m.providerSymbol → Qualified raw m'.providerSymbol →
        m.symbolId ≠ m'.symbolId → ∃ reason,
          resolveSource py t provider source allowInactive = .error (.ambiguous reason) := by
  constructor
  · intro S
    constructor
    · intro given
      obtain ⟨_, known, rest⟩ := Fallible.bind_eq_ok.mp given
      obtain ⟨raw, read, found⟩ := Fallible.bind_eq_ok.mp rest
      obtain ⟨m, chosen, is⟩ := (resolveCandidates_eq_ok (plain raw read)).mp found
      exact ⟨checkProvider_eq_ok.mp known, raw, m, read, chosen, is⟩
    · rintro ⟨known, raw, m, read, chosen, is⟩
      rw [resolveSource_of_read known read]
      exact (resolveCandidates_eq_ok (plain raw read)).mpr ⟨m, chosen, is⟩
  · intro raw known read unlisted bare m mem m' mem' here here' qualified qualified' apart
    have literal : Like.Literal wildcards raw := by
      rcases plain raw read with literal | exchange | listed
      · exact literal
      · exact absurd exchange bare
      · exact absurd unlisted listed
    have free := (unlisted_iff raw).mp unlisted
    rw [resolveSource_of_read known read, resolveCandidates_eq, stripExchangePrefix_of_bare bare,
      free]
    have first := mem_tickers.mpr ⟨mem, here, qualified⟩
    have second := mem_tickers.mpr ⟨mem', here', qualified'⟩
    rcases @resolveTicker_cases py t provider raw allowInactive literal bare with
      ⟨nothing, -⟩ | ⟨m'', -, only, -⟩ | ⟨-, refused⟩
    · rw [nothing] at first
      cases first
    · have same : m = m' := (only m first).trans (only m' second).symm
      exact absurd (congrArg (fun m => m.symbolId) same) apart
    · exact refused

def twoInstruments (first second : String) (apart : lit first ≠ lit second) : SymbolTables where
  symbols := ⟨[⟨lit "1", lit "FIRST", true⟩, ⟨lit "2", lit "SECOND", true⟩], by decide⟩
  mappings := ⟨[⟨⟨lit first, lit "1", true⟩, lit "tradingview"⟩,
    ⟨⟨lit second, lit "2", true⟩, lit "tradingview"⟩], List.nodup_cons.mpr
      ⟨fun mem => apart (Prod.mk.inj (List.mem_singleton.mp mem)).2, List.nodup_singleton _⟩⟩
  listed := by
    have ids : lit "1" ≠ lit "2" := by decide
    intro m mem m' mem' _ same
    rcases List.mem_cons.mp mem with rfl | mem
    · rcases List.mem_cons.mp mem' with rfl | mem'
      · rfl
      · rw [List.mem_singleton.mp mem'] at same
        exact absurd same ids
    · rw [List.mem_singleton.mp mem] at same ⊢
      rcases List.mem_cons.mp mem' with rfl | mem'
      · exact absurd same.symm ids
      · rw [List.mem_singleton.mp mem']
  known := by
    intro m mem
    rcases List.mem_cons.mp mem with rfl | mem
    · exact ⟨⟨lit "1", lit "FIRST", true⟩, rfl⟩
    · rw [List.mem_singleton.mp mem]
      exact ⟨⟨lit "2", lit "SECOND", true⟩, rfl⟩

def twoExchanges : SymbolTables := twoInstruments "NASDAQ:AAPL" "XETR:AAPL" (by decide)

/-- The bare ticker is refused, and with its exchange it is resolved. -/
theorem resolveSource_twoExchanges :
    (∃ reason, resolveSource (sample []) twoExchanges (lit "tradingview") (lit "aapl") false =
      .error (.ambiguous reason)) ∧
      resolveSource (sample []) twoExchanges (lit "tradingview") (lit "NASDAQ:AAPL") false =
        .ok ⟨lit "1", lit "FIRST", true⟩ := by
  have bare : normaliseProviderSymbol (sample []) (lit "aapl") = .ok (lit "AAPL") :=
    Fallible.toOption_eq_some.mp (by decide +kernel)
  have full : normaliseProviderSymbol (sample []) (lit "NASDAQ:AAPL") = .ok (lit "NASDAQ:AAPL") :=
    Fallible.toOption_eq_some.mp (by decide +kernel)
  constructor
  · refine (resolveSource_eq_ok_iff (sample []) twoExchanges (lit "tradingview") (lit "aapl") false
      fun raw read => .inl ?_).2 _ (by decide) bare
      ((unlisted_iff _).mpr (by decide)) (by decide)
      ⟨⟨lit "NASDAQ:AAPL", lit "1", true⟩, lit "tradingview"⟩ (by decide)
      ⟨⟨lit "XETR:AAPL", lit "2", true⟩, lit "tradingview"⟩ (by decide) rfl rfl
      ⟨lit "NASDAQ", rfl⟩ ⟨lit "XETR", rfl⟩ (by decide)
    cases bare.symm.trans read
    decide
  · refine ((resolveSource_eq_ok_iff (sample []) twoExchanges (lit "tradingview")
      (lit "NASDAQ:AAPL") false fun raw read => .inl ?_).1 _).mpr ⟨by decide, _,
        ⟨⟨lit "NASDAQ:AAPL", lit "1", true⟩, lit "tradingview"⟩, full,
        ⟨by decide, rfl, .inl rfl⟩, rfl, .inr ⟨rfl, rfl⟩⟩
    cases full.symm.trans read
    decide

def Answering (raw stored : Str) : Prop :=
  stored = raw ∨ stored = stripExchangePrefix raw ∨ Qualified raw stored

/-- A symbol with a wildcard is resolved by a mapping that it does not spell; and one with an
exchange is resolved by the mapping of its whole, though another instrument is listed under its
ticker. -/
theorem not_forall_exact :
    (¬ ∀ (py : Runtime) (t : SymbolTables) (provider source raw : Str) (S : SymbolRow),
      normaliseProviderSymbol py source = .ok raw →
      resolveSource py t provider source false = .ok S →
      ∃ m ∈ t.mappings.rows, m.provider = provider ∧ m.isActive = true ∧
        Answering raw m.providerSymbol ∧ m.symbolId = S.id) ∧
    ¬ ∀ (py : Runtime) (t : SymbolTables) (provider source raw : Str) (S : SymbolRow),
      normaliseProviderSymbol py source = .ok raw →
      resolveSource py t provider source false = .ok S →
      ∀ m ∈ t.mappings.rows, m.provider = provider → m.isActive = true →
        Answering raw m.providerSymbol → m.symbolId = S.id := by
  constructor
  · intro every
    obtain ⟨m, mem, -, -, answers, -⟩ := every (sample [])
      (twoInstruments "OANDA:EURUSD" "OANDA:GBPJPY" (by decide)) (lit "tradingview")
      (lit "E_RUSD") (lit "E_RUSD") ⟨lit "1", lit "FIRST", true⟩
      (Fallible.toOption_eq_some.mp (by decide +kernel))
      (Fallible.toOption_eq_some.mp (by decide +kernel))
    have spelt : ∀ stored, Answering (lit "E_RUSD") stored → CodePoint.ofChar '_' ∈ stored := by
      rintro stored (rfl | rfl | ⟨exchange, rfl⟩)
      · decide
      · decide
      · exact List.mem_append_right _ (by decide)
    have here := spelt _ answers
    rcases List.mem_cons.mp mem with rfl | mem
    · exact absurd here (by decide)
    · rw [List.mem_singleton.mp mem] at here
      exact absurd here (by decide)
  · intro every
    have same := every (sample []) (twoInstruments "OANDA:EURUSD" "EURUSD" (by decide))
      (lit "tradingview") (lit "OANDA:EURUSD") (lit "OANDA:EURUSD") ⟨lit "1", lit "FIRST", true⟩
      (Fallible.toOption_eq_some.mp (by decide +kernel))
      (Fallible.toOption_eq_some.mp (by decide +kernel))
      ⟨⟨lit "EURUSD", lit "2", true⟩, lit "tradingview"⟩
      (List.mem_cons_of_mem _ (List.mem_singleton_self _)) rfl rfl (.inr (.inl rfl))
    exact absurd same (by decide)

/-- What was mapped is resolved to the symbol it was mapped to, also where it is inactive. -/
theorem resolveSource_upsertMapping {py : Runtime} {t t' : SymbolTables}
    {internal provider providerSymbol : Str} {symbol : SymbolRow}
    (written : upsertMapping py t internal provider providerSymbol = .ok t')
    (named : getSymbol py t internal = .ok symbol) :
    resolveSource py t' provider providerSymbol true = .ok symbol := by
  obtain ⟨_, known, written⟩ := Fallible.bind_eq_ok.mp written
  have known := checkProvider_eq_ok.mp known
  split at written
  · cases written
  · rename_i symbol' named'
    cases named.symm.trans named'
    obtain ⟨name, read, written⟩ := Fallible.bind_eq_ok.mp written
    have there : t.symbols.find? symbol.id = some symbol :=
      Table.find?_of_mem (mem_of_getSymbol py named)
    rw [resolveSource_of_read known read, resolveCandidates_eq]
    cases clash : t.mappings.find? (provider, name) with
    | some m =>
      rw [clash] at written
      dsimp only at written
      by_cases same : m.symbolId = symbol.id
      · rw [if_neg (not_not.mpr same)] at written
        cases written
        rw [clash]
        exact finishMapping_eq_ok.mpr ⟨same.symm ▸ there, .inl rfl⟩
      · rw [if_pos same] at written
        cases written
    | none =>
      rw [clash] at written
      cases written
      obtain ⟨at_, under, of⟩ := t.renamed_eq provider name symbol
      have listed : (t.relisted provider name symbol (mem_of_getSymbol py named')).mappings.find?
          (provider, name) = some (t.renamed provider name symbol) :=
        (Table.find?_put ..).trans (if_pos (Prod.ext at_.symm under.symm))
      rw [listed]
      exact finishMapping_eq_ok.mpr ⟨of.symm ▸ there, .inl rfl⟩

/-- A second name for the first instrument. -/
theorem resolveSource_upsertMapping_renamed :
    ∃ t', upsertMapping (sample []) twoExchanges (lit "FIRST") (lit "tradingview") (lit "AAPL") =
      .ok t' ∧ resolveSource (sample []) t' (lit "tradingview") (lit "AAPL") true =
        .ok ⟨lit "1", lit "FIRST", true⟩ := by
  have named :
      getSymbol (sample []) twoExchanges (lit "FIRST") = .ok ⟨lit "1", lit "FIRST", true⟩ :=
    Fallible.toOption_eq_some.mp (by decide +kernel)
  obtain ⟨t', written⟩ := Fallible.isOk_iff.mp (show (upsertMapping (sample []) twoExchanges
    (lit "FIRST") (lit "tradingview") (lit "AAPL")).isOk = true by decide +kernel)
  exact ⟨t', written, resolveSource_upsertMapping written named⟩

end TradeResearch.Symbols
