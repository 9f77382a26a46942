import TradeResearch.Lib.Encoding
import TradeResearch.Lib.Replace
import TradeResearch.Sizing.Calculator

/-!
# The alert payload

`backend/app/webhooks/schema.py`. A text is a list of code points, as in Python; what the gateway
takes from Python's own library and cannot be told in a few words is a `Runtime`.

* `parseAlert`, `checkAge`, `Alert.idempotencyKey` and `redact` are the functions of the module.
* `Json.induction`: induction over a payload.
-/

namespace TradeResearch.Webhooks

open Encoding

abbrev Str := List CodePoint

def ofChars (s : List Char) : Str := s.map CodePoint.ofChar

def lit (s : String) : Str := ofChars s.toList

def isSpace (c : CodePoint) : Bool := !isSurrogate c && Sizing.isSpace (Char.ofNat c.val)

def strip (s : Str) : Str := trim isSpace s

inductive Float64 where
  | nan
  | inf (negative : Bool)
  | finite (q : ℚ)
  deriving DecidableEq, Repr

inductive Json where
  | null
  | bool (b : Bool)
  | int (i : ℤ)
  | float (f : Float64)
  | str (s : Str)
  | arr (values : List Json)
  | obj (fields : List (Str × Json))

namespace Json

theorem induction {P : Json → Prop} (null : P .null) (bool : ∀ b, P (.bool b))
    (int : ∀ i, P (.int i)) (float : ∀ f, P (.float f)) (str : ∀ s, P (.str s))
    (arr : ∀ values, (∀ v ∈ values, P v) → P (.arr values))
    (obj : ∀ fields, (∀ f ∈ fields, P f.2) → P (.obj fields)) : ∀ v, P v
  | .null => null
  | .bool b => bool b
  | .int i => int i
  | .float f => float f
  | .str s => str s
  | .arr values => arr values fun v _ => induction null bool int float str arr obj v
  | .obj fields => obj fields fun f _ => induction null bool int float str arr obj f.2
termination_by v => sizeOf v
decreasing_by
  · have := List.sizeOf_lt_of_mem ‹v ∈ values›
    simp only [Json.arr.sizeOf_spec]
    omega
  · have := List.sizeOf_lt_of_mem ‹f ∈ fields›
    have : sizeOf f.2 < sizeOf f := by
      cases f
      simp only [Prod.mk.sizeOf_spec]
      omega
    simp only [Json.obj.sizeOf_spec]
    omega

def truthy : Json → Bool
  | null => false
  | bool b => b
  | int i => i ≠ 0
  | float (.finite q) => q ≠ 0
  | float _ => true
  | str s => s ≠ []
  | arr values => !values.isEmpty
  | obj fields => !fields.isEmpty

def or (a b : Json) : Json := if a.truthy then a else b

end Json

abbrev Fields := List (Str × Json)

def Fields.get (payload : Fields) (key : String) : Json := (payload.lookup (lit key)).getD .null

def assign (d : List (Str × Str)) (key value : Str) : List (Str × Str) :=
  if d.any (·.1 = key) then d.map fun e => if e.1 = key then (key, value) else e
  else d ++ [(key, value)]

structure Stamp where
  wall : ℕ
  offset : ℤ
  inside : wall < calendarEnd
  deriving DecidableEq

def Stamp.instant (t : Stamp) : ℤ := t.wall - t.offset

inductive Raised where
  | payload (reason : Str)
  | unauthorized (reason : Str)
  | symbol (reason : Str)
  | value
  | overflow
  | type
  | recursion
  | database
  deriving DecidableEq, Repr

structure Runtime where
  lower : Str → Str
  upper : Str → Str
  isDigit : Str → Bool
  int : Str → Option ℤ
  float : ℤ → Option Float64
  fromTimestamp : Float64 → Option Stamp
  fromIsoFormat : Str → Option (Stamp × Bool)
  decimal : Str → Option (Str × Bool)
  str : Json → Str
  repr : Str → Str
  sha256 : List Char → Str
  nesting : ℕ

variable (py : Runtime)

def Json.text : Json → Str
  | .str s => s
  | v => py.str v

def Stamp.utc (t : Stamp) : Except Raised ℕ :=
  if 0 ≤ t.instant ∧ t.instant < calendarEnd then .ok t.instant.toNat else .error .overflow

inductive Action where
  | buy
  | sell
  | long
  | short
  | close
  | exit
  | alert
  deriving DecidableEq, Repr

namespace Action

def word : Action → String
  | buy => "BUY"
  | sell => "SELL"
  | long => "LONG"
  | short => "SHORT"
  | close => "CLOSE"
  | exit => "EXIT"
  | alert => "ALERT"

def all : List Action := [buy, sell, long, short, close, exit, alert]

def direction : Action → String
  | buy | long => "buy"
  | sell | short => "sell"
  | close | exit | alert => "flat"

end Action

def maxField : ℕ := 128

def refuse {α : Type} (reason : Str) : Except Raised α := .error (.payload reason)

def parseAction : Json → Except Raised Action
  | .str raw =>
    if strip raw = [] then refuse (lit "action is required")
    else
      match Action.all.find? fun a => lit a.word = py.upper (strip raw) with
      | some action => .ok action
      | none =>
        refuse (lit "unsupported action " ++ py.repr (raw.take 32) ++
          lit "; expected one of BUY, SELL, LONG, SHORT, CLOSE, EXIT, ALERT")
  | _ => refuse (lit "action is required")

def epochSeconds : Float64 → Float64
  | .finite q => if 10 ^ 11 < q then .finite (q / 1000) else .finite q
  | f => f

def floatTime (f : Float64) : Except Raised Stamp :=
  match py.fromTimestamp (epochSeconds f) with
  | some t => .ok t
  | none => .error .value

def intTime (i : ℤ) : Except Raised Stamp :=
  match py.float i with
  | some f => floatTime py f
  | none => .error .overflow

def parseTimestamp : Json → Except Raised Stamp
  | .null => refuse (lit "time is required; a missing stamp cannot be aged")
  | .bool b => intTime py b.toInt
  | .int i => intTime py i
  | .float f => floatTime py f
  | .str raw =>
    if raw = [] then refuse (lit "time is required; a missing stamp cannot be aged")
    else
      let text := strip raw
      if py.isDigit text then
        match py.int text with
        | some i => intTime py i
        | none => .error .value
      else
        match py.fromIsoFormat (replaceAll (lit "Z") (lit "+00:00") text) with
        | some (parsed, true) => .ok parsed
        | some (parsed, false) => .ok { parsed with offset := 0 }
        | none =>
          refuse (lit "time " ++ py.repr (text.take 32) ++ lit " is not an ISO-8601 timestamp")
  | _ => refuse (lit "time must be a string or a number")

def decimalOf (raw : Json) (name : String) : Except Raised (Option Str) :=
  match raw with
  | .null | .str [] => .ok none
  | raw =>
    match py.decimal (raw.text py) with
    | none => refuse (lit name ++ lit " is not a number")
    | some (_, false) => refuse (lit name ++ lit " is not a finite number")
    | some (value, true) => .ok (some value)

def textOf (raw : Json) (name : String) (required : Bool := false) : Except Raised (Option Str) :=
  match raw with
  | .null | .str [] => if required then refuse (lit name ++ lit " is required") else .ok none
  | .str raw =>
    if maxField < (strip raw).length then
      refuse (lit name ++ lit " is longer than 128 characters")
    else .ok (some (strip raw))
  | _ => refuse (lit name ++ lit " must be a string")

structure Alert where
  ticker : Str
  action : Action
  signalTime : Stamp
  exchange : Option Str
  timeframe : Option Str
  price : Option Str
  strategy : Option Str
  strategyVersion : Option Str
  alertId : Option Str
  advisory : List (Str × Str)
  extra : List (Str × Str)
  deriving DecidableEq

def secretKeys : List String := ["secret", "passphrase", "password", "token", "api_key", "apikey"]

def advisoryKeys : List String :=
  ["quantity", "qty", "size", "lots", "volume", "stop_loss", "sl", "take_profit", "tp", "risk"]

def known : List String :=
  ["ticker", "symbol", "action", "side", "time", "timestamp", "exchange", "timeframe", "interval",
    "price", "close", "strategy", "strategy_version", "id", "alert_id", "signal_id"] ++
    advisoryKeys ++ secretKeys

def isSecretKey (key : Str) : Bool := (secretKeys.map lit).contains (py.lower key)

def advisoryOf (payload : Fields) : List (Str × Str) :=
  advisoryKeys.filterMap fun key =>
    match payload.get key with
    | .null | .str [] => none
    | value => some (lit key, (value.text py).take maxField)

def extraOf (payload : Fields) : List (Str × Str) :=
  (payload.filter fun field => !(known.map lit).contains field.1 && !isSecretKey py field.1).foldl
    (fun d field => assign d (field.1.take maxField) ((field.2.text py).take maxField)) []

def parseAlert (payload : Fields) : Except Raised Alert := do
  let ticker ← textOf ((payload.get "ticker").or (payload.get "symbol")) "ticker" true
  let action ← parseAction py ((payload.get "action").or (payload.get "side"))
  let signalTime ← parseTimestamp py ((payload.get "time").or (payload.get "timestamp"))
  let exchange ← textOf (payload.get "exchange") "exchange"
  let timeframe ← textOf ((payload.get "timeframe").or (payload.get "interval")) "timeframe"
  let price ← decimalOf py ((payload.get "price").or (payload.get "close")) "price"
  let strategy ← textOf (payload.get "strategy") "strategy"
  let strategyVersion ← textOf (payload.get "strategy_version") "strategy_version"
  let alertId ←
    textOf (((payload.get "id").or (payload.get "alert_id")).or (payload.get "signal_id")) "id"
  return {
    ticker := ticker.getD [], action, signalTime, exchange, timeframe, price, strategy,
    strategyVersion, alertId, advisory := advisoryOf py payload, extra := extraOf py payload }

def intText (i : ℤ) : Str := lit (toString i)

def checkAge (signalTime : Stamp) (now : ℕ) (maxAgeSeconds futureToleranceSeconds : ℤ) :
    Except Raised Unit :=
  let age : ℤ := now - signalTime.instant
  if maxAgeSeconds * 1000000 < age then
    refuse (lit "alert is " ++ intText (age.tdiv 1000000) ++ lit
      "s old; the maximum accepted age is " ++
      intText maxAgeSeconds ++ lit "s")
  else if futureToleranceSeconds * 1000000 < -age then
    refuse (lit "alert is stamped " ++ intText ((-age).tdiv 1000000) ++
      lit "s in the future; check the sender's clock")
  else .ok ()

namespace Alert

def material (a : Alert) (utc : ℕ) : List Char :=
  "\x7b\"action\": ".toList ++ jsonString (lit a.action.word) ++
    ", \"strategy\": ".toList ++ jsonString (a.strategy.getD []) ++
    ", \"ticker\": ".toList ++ jsonString a.ticker ++
    ", \"time\": ".toList ++ jsonString (ofChars (isoUtc utc)) ++
    ", \"timeframe\": ".toList ++ jsonString (a.timeframe.getD []) ++ "\x7d".toList

def fingerprint (a : Alert) : Except Raised Str := do
  let utc ← a.signalTime.utc
  return py.sha256 (a.material utc)

def hasId (a : Alert) : Bool := a.alertId.getD [] ≠ []

def idempotencyKey (a : Alert) : Except Raised Str :=
  if a.hasId then .ok ((lit "tv:id:" ++ a.alertId.getD []).take 128)
  else do
    let fingerprint ← a.fingerprint py
    return (lit "tv:fp:" ++ fingerprint).take 128

end Alert

def marker : Str := lit "[redacted]"

mutual

def redact (secret : Str) : Json → Json
  | .obj fields => .obj (redactFields secret fields)
  | .arr values => .arr (redactValues secret values)
  | .str s =>
    if secret ≠ [] ∧ secret <:+: s then .str (strip (replaceAll secret marker s)) else .str s
  | .null => .null
  | .bool b => .bool b
  | .int i => .int i
  | .float f => .float f

def redactValues (secret : Str) : List Json → List Json
  | [] => []
  | v :: rest => redact secret v :: redactValues secret rest

def redactFields (secret : Str) : Fields → Fields
  | [] => []
  | (key, v) :: rest =>
    if isSecretKey py key then redactFields secret rest
    else (key, redact secret v) :: redactFields secret rest

end

end TradeResearch.Webhooks
