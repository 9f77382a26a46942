import Mathlib.Data.Fin.Basic
import Mathlib.Data.List.Lex
import Mathlib.Order.Fin.Basic
import TradeResearch.Lib.Dialogue
import TradeResearch.Webhooks.Schema

/-!
# The webhook gateway

`backend/app/webhooks/gateway.py`, with what it calls: `resolve_source` of
`backend/app/symbols/service.py` and `route_for` of `backend/app/execution/routing.py`. A delivery
is a dialogue: its questions are the statements it sends to the database, one at a time, and what
the tables answer is left to what surrounds it. The log lines and the event that is published are
left out.

* `WebhookGateway.receive`: one delivery.
* `Database`: what a database refuses to be asked or to store.
-/

namespace TradeResearch.Webhooks

open Encoding Dialogue

inductive Outcome where
  | accepted
  | duplicate
  | rejected
  deriving DecidableEq, Repr

inductive Strength where
  | strong
  | weak
  deriving DecidableEq, Repr

inductive Mode where
  | paper
  | demo
  | live
  deriving DecidableEq, Repr

def Mode.word : Mode → String
  | paper => "paper"
  | demo => "demo"
  | live => "live"

abbrev RowId := ℕ

structure EventRow where
  id : RowId
  idempotencyKey : Str
  receivedAt : ℕ
  sourceIp : Option Str
  authStrength : Strength
  payload : Json
  status : Outcome
  error : Option Str := none
  signalId : Option RowId := none

structure SignalRow where
  id : RowId
  signalKey : Str
  strategyVersionId : Option Str
  webhookEventId : RowId
  symbolId : Str
  direction : String
  mode : Mode
  signalTime : ℕ
  receivedAt : ℕ
  authStrength : Strength
  metadata : Json

structure Mapping where
  providerSymbol : Str
  symbolId : Str
  isActive : Bool
  deriving DecidableEq

structure SymbolRow where
  id : Str
  code : Str
  isActive : Bool
  deriving DecidableEq

structure Bot where
  id : Str
  paperAccountId : Option Str
  brokerAccountId : Option Str
  maxRiskPerTrade : Option Str
  useAlertBracket : Bool
  deriving DecidableEq

inductive Question where
  | existing (key : Str)
  | mapping (providerSymbol : Str)
  | qualified (raw : Str)
  | symbol (id : Str)
  | strategy (key : Str)
  | version (strategyId : Str) (number : Option ℤ)
  | insertEvent (row : EventRow)
  | bots (strategyVersionId : Str)
  | insertSignal (row : SignalRow)
  | link (event signal : RowId)
  | insertRejection (row : EventRow)

def Question.Answer : Question → Type
  | existing _ => Option EventRow
  | mapping _ => Option Mapping
  | qualified _ => List Mapping
  | symbol _ => Option SymbolRow
  | strategy _ => Option Str
  | version _ _ => Option Str
  | insertEvent _ => Bool
  | bots _ => List Bot
  | insertSignal _ => Bool
  | link _ _ => Unit
  | insertRejection _ => Bool

abbrev Delivery (α : Type) := Dialogue Question Question.Answer Raised α

namespace Ask

def existing (key : Str) : Delivery (Option EventRow) := put (Question.existing key)

def mapping (providerSymbol : Str) : Delivery (Option Mapping) :=
    put (Question.mapping providerSymbol)

def qualified (raw : Str) : Delivery (List Mapping) := put (Question.qualified raw)

def symbol (id : Str) : Delivery (Option SymbolRow) := put (Question.symbol id)

def strategy (key : Str) : Delivery (Option Str) := put (Question.strategy key)

def version (strategyId : Str) (number : Option ℤ) : Delivery (Option Str) :=
  put (Question.version strategyId number)

def insertEvent (row : EventRow) : Delivery Bool := put (Question.insertEvent row)

def bots (strategyVersionId : Str) : Delivery (List Bot) := put (Question.bots strategyVersionId)

def insertSignal (row : SignalRow) : Delivery Bool := put (Question.insertSignal row)

def link (event signal : RowId) : Delivery Unit := put (Question.link event signal)

def insertRejection (row : EventRow) : Delivery Bool := put (Question.insertRejection row)

end Ask

structure Result where
  outcome : Outcome
  detail : Str
  signalId : Option RowId := none
  webhookEventId : Option RowId := none
  deriving DecidableEq

def tradingviewIps : List String :=
  ["52.89.214.238", "34.212.75.30", "54.218.53.128", "52.32.178.7"]

structure WebhookGateway where
  secret : Str
  mode : Mode := .paper
  maxAgeSeconds : ℤ := 120
  futureToleranceSeconds : ℤ := 30
  restrictToTradingviewIps : Bool := false

def WebhookGateway.checkSource (g : WebhookGateway) (sourceIp : Option Str) : Except Raised Unit :=
  if g.restrictToTradingviewIps ∧ sourceIp ∉ tradingviewIps.map fun ip => some (lit ip) then
    .error (.unauthorized (lit "source address is not a published TradingView address"))
  else .ok ()

def isAscii (s : Str) : Bool := s.all fun c => c.val < 128

variable (py : Runtime)

def supplied (payload : Fields) : Str :=
  (((payload.get "secret").or (payload.get "passphrase")).or (.str [])).text py

def authenticate (payload : Fields) (rawBody secret : Str) : Except Raised Strength :=
  if secret = [] then
    .error (.unauthorized
      (lit "no webhook secret is configured; the receiver refuses all alerts"))
  else if supplied py payload ≠ [] ∧ ¬(isAscii (supplied py payload) ∧ isAscii secret) then
    .error .type
  else if supplied py payload ≠ [] ∧ supplied py payload = secret then .ok .strong
  else if secret <:+: rawBody then .ok .weak
  else .error (.unauthorized (lit "bad or missing secret"))

mutual

def Json.visited : Json → ℕ
  | .arr values => visitedValues values + 1
  | .obj fields => visitedFields fields + 1
  | _ => 1

def visitedValues : List Json → ℕ
  | [] => 0
  | v :: rest => max v.visited (visitedValues rest)

def visitedFields : Fields → ℕ
  | [] => 0
  | (key, v) :: rest =>
    if isSecretKey py key then visitedFields rest else max (v.visited) (visitedFields rest)

end

def joinTexts (separator : String) (texts : List Str) : Str :=
  (texts.intersperse (lit separator)).flatten

def sortTexts (texts : List Str) : List Str := texts.mergeSort fun a b => decide (a ≤ b)

def colon : CodePoint := .ofChar ':'

def stripExchangePrefix (raw : Str) : Str :=
  if colon ∈ raw then (raw.dropWhile (· ≠ colon)).drop 1 else raw

def finish (mapping : Mapping) (shown : Str) : Delivery (Except Str SymbolRow) := do
  if !mapping.isActive then
    return .error (lit "mapping tradingview:" ++ shown ++ lit " is inactive")
  match ← Ask.symbol mapping.symbolId with
  | none =>
    return .error (lit "mapping tradingview:" ++ shown ++ lit " points at a missing symbol")
  | some symbol =>
    if !symbol.isActive then return .error (lit "symbol " ++ symbol.code ++ lit " is inactive")
    return .ok symbol

def noMapping (raw : Str) : Str :=
  lit "tradingview symbol " ++ py.repr raw ++
    lit " has no mapping; add one rather than assuming it matches a broker symbol"

def resolveQualified (raw : Str) : Delivery (Except Str SymbolRow) := do
  if colon ∈ raw then return .error (noMapping py raw)
  let qualified ← Ask.qualified raw
  match (qualified.map Mapping.symbolId).dedup with
  | [] => return .error (noMapping py raw)
  | [id] =>
    -- the last of the mappings is the one the dictionary holds
    match qualified.reverse.find? fun m => m.symbolId = id with
    | some mapping => finish mapping mapping.providerSymbol
    | none => return .error (noMapping py raw)
  | ids =>
    return .error (lit "tradingview ticker " ++ py.repr raw ++ lit " matches " ++
      intText ids.length ++ lit " instruments (" ++
      joinTexts ", " (sortTexts (qualified.map Mapping.providerSymbol)) ++
      lit "); send the exchange-qualified symbol")

def resolveExact (raw : Str) : List Str → Delivery (Except Str SymbolRow)
  | [] => resolveQualified py raw
  | candidate :: rest => do
    match ← Ask.mapping candidate with
    | some mapping => finish mapping candidate
    | none => resolveExact raw rest

def maxProviderSymbol : ℕ := 64

def resolveSource (ticker : Str) : Delivery (Except Str SymbolRow) :=
  let raw := py.upper (strip ticker)
  if raw = [] then return .error (lit "provider symbol is empty")
  else if maxProviderSymbol < raw.length then
    return .error (lit "provider symbol longer than 64 characters")
  else resolveExact py raw [raw, stripExchangePrefix raw].dedup

def strategyVersionId (alert : Alert) : Delivery (Except Str (Option Str)) :=
  let named := alert.strategy.getD []
  let asked := alert.strategyVersion.getD []
  if named = [] then return .ok none
  else do
    match ← Ask.strategy named with
    | none =>
      return .error (lit "unknown strategy " ++ py.repr named ++
        lit "; register it before sending alerts for it")
    | some strategy =>
      if asked ≠ [] ∧ ¬py.isDigit asked then
        return .error (lit "strategy_version must be a version number")
      else if asked ≠ [] ∧ py.int asked = none then Dialogue.raised .value
      else
        match ← Ask.version strategy (if asked = [] then none else py.int asked) with
        | none =>
          return .error (lit "strategy " ++ py.repr named ++ lit " has no matching version")
        | some version => return .ok (some version)

inductive Routing where
  | route (botId accountId : Str) (riskAmount : Option Str) (useAlertBracket : Bool)
  | noRoute (reason : Str)
  deriving DecidableEq

def routeOf (version : Str) (mode : Mode) : List Bot → Routing
  | [] =>
    .noRoute (lit "no enabled bot runs strategy version " ++ version ++ lit " in " ++
      lit mode.word ++
      lit "; the alert is recorded and nothing executes it")
  | [bot] =>
    match (bot.paperAccountId.filter (· ≠ [])).or (bot.brokerAccountId.filter (· ≠ [])) with
    | some account => .route bot.id account bot.maxRiskPerTrade bot.useAlertBracket
    | none =>
      .noRoute (lit "bot " ++ bot.id ++ lit
        " runs this strategy but names no account, so there is no " ++
        lit "order manager to route the signal through")
  | bots =>
    .noRoute (intText bots.length ++ lit " enabled bots run strategy version " ++ version ++
      lit " in " ++ lit mode.word ++ lit " (" ++ joinTexts ", " (sortTexts (bots.map Bot.id)) ++
      lit "); refusing to choose one, because the account an order lands on would be arbitrary")

def routeFor (version : Option Str) (mode : Mode) : Delivery Routing :=
  match version.filter (· ≠ []) with
  | none =>
    return .noRoute (lit "the alert names no strategy, so no bot claims it. An external alert " ++
      lit "is recorded and not executed; that is the documented 'external alert' case")
  | some version => do
    let bots ← Ask.bots version
    return routeOf version mode bots

def Json.ofText? : Option Str → Json
  | some s => .str s
  | none => .null

def Json.ofTexts (d : List (Str × Str)) : Json := .obj (d.map fun (key, value) => (key, .str value))

def firstOf (advisory : List (Str × Str)) (keys : List String) : Option Str :=
  keys.findSome? fun key => (advisory.lookup (lit key)).filter (· ≠ [])

def bracketMeta (alert : Alert) (useAlertBracket : Bool) : List (String × Json) :=
  let stop := firstOf alert.advisory ["stop_loss", "sl"]
  let target := firstOf alert.advisory ["take_profit", "tp"]
  if !useAlertBracket then
    [("bracket_source", .str (lit "none")),
      ("bracket_detail", .str (lit
        "this bot has not opted into the alert's bracket, and the platform " ++
        lit "has no bracket policy of its own; sizing will refuse this signal"))]
  else
    match stop with
    | none =>
      [("bracket_source", .str (lit "alert")),
        ("bracket_detail", .str (lit
          "this bot uses the alert's bracket and the alert carried no stop; " ++
          lit "sizing will refuse this signal"))]
    | some stop =>
      [("bracket_source", .str (lit "alert")), ("stop_loss", .str stop),
        ("take_profit", Json.ofText? target),
        ("bracket_detail",
          .str (lit "the stop and target were taken from the alert, per bot policy"))]

def routingMeta (alert : Alert) : Routing → List (String × Json)
  | .route botId accountId riskAmount useAlertBracket =>
    [("account_id", .str accountId), ("bot_id", .str botId),
      ("risk_amount", Json.ofText? riskAmount)] ++ bracketMeta alert useAlertBracket
  | .noRoute reason => [("not_executable", .str reason)]

def metaEntries (alert : Alert) (symbol : SymbolRow) (correlationId : Option Str)
    (routing : Routing) : List (String × Json) :=
  [("ticker", .str alert.ticker), ("exchange", Json.ofText? alert.exchange),
    ("timeframe", Json.ofText? alert.timeframe), ("action", .str (lit alert.action.word)),
    ("price_reported", Json.ofText? alert.price), ("advisory_ignored", Json.ofTexts alert.advisory),
    ("extra", Json.ofTexts alert.extra), ("correlation_id", Json.ofText? correlationId),
    ("internal_symbol", .str symbol.code), ("strategy_id", Json.ofText? alert.strategy)] ++
    routingMeta alert routing

def metaOf (alert : Alert) (symbol : SymbolRow) (correlationId : Option Str) (routing : Routing) :
    Json :=
  .obj ((metaEntries alert symbol correlationId routing).map fun (key, value) => (lit key, value))

def epochStart : ℕ := 719162 * dayLength

def stampText (now : ℕ) : Str :=
  let since : ℤ := now - epochStart
  (if since < 0 then lit "-" else []) ++ intText (since.natAbs / 1000000) ++
    lit "." ++ ofChars (pad 10 6 (since.natAbs % 1000000))

structure Arrival where
  rawBody : Str
  sourceIp : Option Str
  correlationId : Option Str
  now : ℕ
  eventId : RowId
  signalId : RowId

def rejectionRow (arrival : Arrival) (safe : Fields) (reason : Str) (strength : Strength)
    (key : Option Str) : EventRow where
  id := arrival.eventId
  idempotencyKey :=
    match key with
    | some key => lit "tv:rej:" ++ key ++ lit ":" ++ stampText arrival.now
    | none => lit "tv:rej:" ++ stampText arrival.now
  receivedAt := arrival.now
  sourceIp := arrival.sourceIp
  authStrength := strength
  payload := .obj safe
  status := .rejected
  error := some (reason.take 500)

def recordRejection (arrival : Arrival) (safe : Fields) (reason : Str) (strength : Strength)
    (key : Option Str) : Delivery Result := do
  let row := rejectionRow arrival safe reason strength key
  if ← Ask.insertRejection row then
    return { outcome := .rejected, detail := reason, webhookEventId := some row.id }
  else return { outcome := .duplicate, detail := lit "already received" }

def duplicateOf (row : Option EventRow) : Result where
  outcome := .duplicate
  detail := lit "already received; no second signal was created"
  signalId := row.bind EventRow.signalId
  webhookEventId := row.map EventRow.id

def eventRow (arrival : Arrival) (safe : Fields) (strength : Strength) (key : Str) : EventRow where
  id := arrival.eventId
  idempotencyKey := key
  receivedAt := arrival.now
  sourceIp := arrival.sourceIp
  authStrength := strength
  payload := .obj safe
  status := .accepted

namespace WebhookGateway

variable (g : WebhookGateway)

def signalRow (arrival : Arrival) (strength : Strength) (key : Str) (alert : Alert)
    (symbol : SymbolRow) (version : Option Str) (routing : Routing) (utc : ℕ) : SignalRow where
  id := arrival.signalId
  signalKey := key
  strategyVersionId := version
  webhookEventId := arrival.eventId
  symbolId := symbol.id
  direction := alert.action.direction
  mode := g.mode
  signalTime := utc
  receivedAt := arrival.now
  authStrength := strength
  metadata := metaOf alert symbol arrival.correlationId routing

def recordSignal (arrival : Arrival) (strength : Strength) (key : Str) (alert : Alert)
    (symbol : SymbolRow) (version : Option Str) : Delivery Result := do
  let routing ← routeFor version g.mode
  let utc ← Dialogue.lift alert.signalTime.utc
  if ← Ask.insertSignal (g.signalRow arrival strength key alert symbol version routing utc) then
    Ask.link arrival.eventId arrival.signalId
    return {
      outcome := .accepted, detail := lit "signal recorded", signalId := some arrival.signalId,
      webhookEventId := some arrival.eventId }
  else return duplicateOf (← Ask.existing key)

def record (arrival : Arrival) (safe : Fields) (strength : Strength) (key : Str) (alert : Alert)
    (symbol : SymbolRow) (version : Option Str) : Delivery Result := do
  if ← Ask.insertEvent (eventRow arrival safe strength key) then
    g.recordSignal arrival strength key alert symbol version
  else return duplicateOf (← Ask.existing key)

def deliver (arrival : Arrival) (safe : Fields) (strength : Strength) (alert : Alert) (key : Str) :
    Delivery Result := do
  match ← Ask.existing key with
  | some row => return duplicateOf (some row)
  | none =>
    match ← resolveSource py alert.ticker with
    | .error reason => recordRejection arrival safe reason strength (some key)
    | .ok symbol =>
      match ← strategyVersionId py alert with
      | .error reason => recordRejection arrival safe reason strength (some key)
      | .ok version => g.record arrival safe strength key alert symbol version

def read (safe : Fields) (now : ℕ) : Except Raised Alert := do
  let alert ← parseAlert py safe
  checkAge alert.signalTime now g.maxAgeSeconds g.futureToleranceSeconds
  return alert

def admitted (payload : Fields) (arrival : Arrival) : Except Raised Strength := do
  g.checkSource arrival.sourceIp
  authenticate py payload arrival.rawBody g.secret

def intake (safe : Fields) (arrival : Arrival) (strength : Strength) : Delivery Result :=
  match g.read py safe arrival.now with
  | .error (.payload reason) => recordRejection arrival safe reason strength none
  | .error e => Dialogue.raised e
  | .ok alert =>
    match alert.idempotencyKey py with
    | .error e => Dialogue.raised e
    | .ok key => g.deliver py arrival safe strength alert key

def receive (payload : Fields) (arrival : Arrival) : Delivery Result :=
  match g.admitted py payload arrival with
  | .error e => Dialogue.raised e
  | .ok strength =>
    if py.nesting < visitedFields py payload + 1 then Dialogue.raised .recursion
    else g.intake py (redactFields py g.secret payload) arrival strength

end WebhookGateway

structure Database where
  strict : Bool

def nul : CodePoint := 0

def isPlain (s : Str) : Bool := s.all fun c => !isSurrogate c && c ≠ nul

mutual

def Json.isStandard : Json → Bool
  | .float (.finite _) => true
  | .float _ => false
  | .str s => isPlain s
  | .arr values => areStandard values
  | .obj fields => fieldsAreStandard fields
  | _ => true

def areStandard : List Json → Bool
  | [] => true
  | v :: rest => v.isStandard && areStandard rest

def fieldsAreStandard : Fields → Bool
  | [] => true
  | (key, v) :: rest => isPlain key && v.isStandard && fieldsAreStandard rest

end

def EventRow.Fits (row : EventRow) : Prop :=
  row.idempotencyKey.length ≤ 128 ∧ ∀ ip ∈ row.sourceIp, ip.length ≤ 64

namespace Database

variable (db : Database)

def TakesText (s : Str) : Prop :=
  (∀ c ∈ s, isSurrogate c = false) ∧ (db.strict = true → nul ∉ s)

def TakesJson (v : Json) : Prop := db.strict = true → v.isStandard = true

def TakesInt (i : ℤ) : Prop :=
  if db.strict then -2 ^ 31 ≤ i ∧ i < 2 ^ 31 else -2 ^ 63 ≤ i ∧ i < 2 ^ 63

structure TakesEvent (row : EventRow) : Prop where
  key : db.TakesText row.idempotencyKey
  sourceIp : ∀ ip ∈ row.sourceIp, db.TakesText ip
  payload : db.TakesJson row.payload
  error : ∀ reason ∈ row.error, db.TakesText reason
  fits : db.strict = true → row.Fits

structure TakesSignal (row : SignalRow) : Prop where
  key : db.TakesText row.signalKey
  metadata : db.TakesJson row.metadata
  fits : db.strict = true → row.signalKey.length ≤ 128

def Takes : Question → Prop
  | .existing key => db.TakesText key
  | .mapping providerSymbol => db.TakesText providerSymbol
  | .qualified raw => db.TakesText raw
  | .strategy key => db.TakesText key
  | .version _ number => ∀ n ∈ number, db.TakesInt n
  | .insertEvent row => db.TakesEvent row
  | .insertSignal row => db.TakesSignal row
  | .insertRejection row => db.TakesEvent row
  | .symbol _ | .bots _ | .link _ _ => True

end Database

end TradeResearch.Webhooks
