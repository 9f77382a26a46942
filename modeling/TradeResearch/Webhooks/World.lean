import TradeResearch.Lib.Run
import TradeResearch.Webhooks.Gateway

/-!
# Deliveries side by side

Any number of deliveries under way at one database. A delivery goes one statement at a time; the
rows it has inserted are its own until the route commits them. Both keys are unique: a key that is
committed is taken, and one that another delivery has inserted holds the statement up until that one
has come to its end.

* `World.step`: one event.
* `World.close`: what a commit does.

At the end stands a runtime to evaluate with: Python's functions on ASCII texts and whole seconds,
with the digests of a table, and a gateway with the tables of one symbol, for the runs on fixed
inputs of the modules after this one.
-/

namespace TradeResearch.Webhooks

structure Config where
  mapping : Str → Option Mapping
  qualified : Str → List Mapping
  symbol : Str → Option SymbolRow
  strategy : Str → Option Str
  version : Str → Option ℤ → Option Str
  bots : Str → List Bot

def Config.Says (c : Config) : (q : Question) → q.Answer → Prop
  | .mapping providerSymbol, a => a = c.mapping providerSymbol
  | .qualified raw, a => a = c.qualified raw
  | .symbol id, a => a = c.symbol id
  | .strategy key, a => a = c.strategy key
  | .version strategyId number, a => a = c.version strategyId number
  | .bots strategyVersionId, a => a = c.bots strategyVersionId
  | .existing _, _ | .insertEvent _, _ | .insertSignal _, _ | .link _ _, _
  | .insertRejection _, _ => True

structure Pending where
  events : List EventRow := []
  signals : List SignalRow := []

def Pending.next (p : Pending) : (q : Question) → q.Answer → Pending
  | .insertEvent row, (made : Bool) =>
    if made then { p with events := p.events ++ [row] } else p
  | .insertSignal row, (made : Bool) =>
    if made then { p with signals := p.signals ++ [row] } else {}
  | .insertRejection row, (made : Bool) =>
    if made then { p with events := p.events ++ [row] } else {}
  | .link event signal, _ =>
    { p with
      events := p.events.map fun row =>
        if row.id = event then { row with signalId := some signal } else row }
  | .existing _, _ | .mapping _, _ | .qualified _, _ | .symbol _, _ | .strategy _, _
  | .version _ _, _ | .bots _, _ => p

inductive Fate where
  | running
  | committed
  | lost
  deriving DecidableEq, Repr

structure Session where
  payload : Fields
  arrival : Arrival
  heard : List ((q : Question) × q.Answer) := []
  rest : Delivery Result
  pending : Pending := {}
  fate : Fate := .running

structure World where
  events : List EventRow := []
  signals : List SignalRow := []
  config : Config
  sessions : List Session := []

inductive Event where
  | arrive (payload : Fields) (arrival : Arrival)
  | go (i : ℕ)
  | close (i : ℕ)
  | crash (i : ℕ)
  | configure (config : Config)

namespace World

variable (w : World)

def eventHeld (i : ℕ) (key : Str) : Bool :=
  (w.sessions.eraseIdx i).any fun s => s.pending.events.any (·.idempotencyKey = key)

def signalHeld (i : ℕ) (key : Str) : Bool :=
  (w.sessions.eraseIdx i).any fun s => s.pending.signals.any (·.signalKey = key)

def answer (i : ℕ) (p : Pending) : (q : Question) → Option q.Answer
  | .existing key =>
    some ((w.events ++ p.events).find? fun row =>
      row.idempotencyKey = key ∧ row.status = .accepted)
  | .mapping providerSymbol => some (w.config.mapping providerSymbol)
  | .qualified raw => some (w.config.qualified raw)
  | .symbol id => some (w.config.symbol id)
  | .strategy key => some (w.config.strategy key)
  | .version strategyId number => some (w.config.version strategyId number)
  | .bots strategyVersionId => some (w.config.bots strategyVersionId)
  | .insertEvent row | .insertRejection row =>
    if w.eventHeld i row.idempotencyKey then none
    else some (!(w.events ++ p.events).any (·.idempotencyKey = row.idempotencyKey))
  | .insertSignal row =>
    if w.signalHeld i row.signalKey then none
    else some (!(w.signals ++ p.signals).any (·.signalKey = row.signalKey))
  | .link _ _ => some ()

def close (i : ℕ) (s : Session) : Option World :=
  match s.rest with
  | .done _ =>
    some { w with
      events := w.events ++ s.pending.events
      signals := w.signals ++ s.pending.signals
      sessions := w.sessions.set i { s with pending := {}, fate := .committed } }
  | .raised _ =>
    some { w with sessions := w.sessions.set i { s with pending := {}, fate := .lost } }
  | .ask _ _ => none

def go (i : ℕ) (s : Session) : Option World :=
  match s.rest with
  | .ask q next =>
    (w.answer i s.pending q).map fun a =>
      { w with
        sessions := w.sessions.set i { s with
          heard := s.heard ++ [⟨q, a⟩]
          rest := next a
          pending := s.pending.next q a } }
  | .done _ | .raised _ => none

def running (i : ℕ) : Option Session := w.sessions[i]?.filter fun s => s.fate = .running

variable (py : Runtime) (g : WebhookGateway)

def step (w : World) : Event → Option World
  | .arrive payload arrival =>
    some { w with
      sessions := w.sessions ++ [{ payload, arrival, rest := g.receive py payload arrival }] }
  | .go i => (w.running i).bind fun s => w.go i s
  | .close i => (w.running i).bind fun s => w.close i s
  | .crash i =>
    (w.running i).map fun s =>
      { w with sessions := w.sessions.set i { s with pending := {}, fate := .lost } }
  | .configure config => some { w with config }

end World

end TradeResearch.Webhooks

namespace TradeResearch.Webhooks

open Encoding

def upperAscii (c : CodePoint) : CodePoint :=
  if 97 ≤ c.val ∧ c.val ≤ 122 then Fin.ofNat _ (c.val - 32) else c

def lowerAscii (c : CodePoint) : CodePoint :=
  if 65 ≤ c.val ∧ c.val ≤ 90 then Fin.ofNat _ (c.val + 32) else c

def isDigitAscii (c : CodePoint) : Bool := 48 ≤ c.val ∧ c.val ≤ 57

def reprAscii (c : CodePoint) : Str :=
  if c.val = 92 ∨ c.val = 39 then [92, c]
  else if 32 ≤ c.val ∧ c.val ≤ 126 then [c]
  else if c.val < 256 then lit "\\x" ++ ofChars (pad 16 2 c.val)
  else if c.val < 65536 then lit "\\u" ++ ofChars (pad 16 4 c.val)
  else lit "\\U" ++ ofChars (pad 16 8 c.val)

def timestampOf (seconds : ℚ) : Option Stamp :=
  let instant : ℤ := epochStart + ⌊seconds * 1000000⌋
  if inside : 0 ≤ instant ∧ instant < calendarEnd then
    some ⟨instant.toNat, 0, by omega⟩
  else none

def sample (digests : List (List Char × Str)) : Runtime where
  lower s := s.map lowerAscii
  upper s := s.map upperAscii
  isDigit s := !s.isEmpty && s.all isDigitAscii
  int s :=
    if s.all isDigitAscii then some (s.foldl (fun n c => 10 * n + (c.val - 48 : ℕ)) 0) else none
  float i := some (.finite i)
  fromTimestamp
    | .finite seconds => timestampOf seconds
    | .nan | .inf _ => none
  fromIsoFormat _ := none
  decimal s := if !s.isEmpty && s.all isDigitAscii then some (s, true) else none
  str
    | .null => lit "None"
    | .bool b => lit (if b then "True" else "False")
    | .int i => intText i
    | .float _ | .arr _ | .obj _ => lit "..."
    | .str s => s
  repr s := lit "'" ++ s.flatMap reprAscii ++ lit "'"
  sha256 s := (digests.lookup s).getD (List.replicate 64 48)
  nesting := 900

def sampleGate : WebhookGateway := { secret := lit "a long shared secret" }

def sampleTables : Config where
  mapping s := if s = lit "EURUSD" then some ⟨s, lit "1", true⟩ else none
  qualified _ := []
  symbol id := if id = lit "1" then some ⟨id, lit "EURUSD", true⟩ else none
  strategy _ := none
  version _ _ := none
  bots _ := []

def sampleAlert : Fields :=
  [(lit "secret", .str (lit "a long shared secret")), (lit "ticker", .str (lit "EURUSD")),
    (lit "action", .str (lit "buy")), (lit "time", .int 1700000000), (lit "id", .str (lit "a1"))]

def sampleArrival (eventId signalId : RowId) : Arrival where
  rawBody := []
  sourceIp := none
  correlationId := none
  now := epochStart + 1700000001 * 1000000
  eventId
  signalId

end TradeResearch.Webhooks
