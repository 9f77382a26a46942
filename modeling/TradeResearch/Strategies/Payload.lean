import TradeResearch.Strategies.Definition
import TradeResearch.Webhooks.Schema

/-!
# The payload of a strategy

`parse_definition` and `to_payload` of `backend/app/strategies/definition.py`, with
`validate_params` of `backend/app/strategies/indicators.py`: a definition is read from any JSON
value, and written back as one. What is read here is what the source builds: a constant is any
`float`, and a period any integer that passed its bounds.

* `parseDefinition` and `StrategyDefinition.toPayload` are the two directions.
* `Fault` is what a reading can end with: a `DefinitionError`, or what none of its arms catches.
-/

namespace TradeResearch.Strategies.Payload

open Kleene Marketdata Webhooks

structure Python extends Runtime where
  sorted : List Json → List Json

inductive Fault where
  | definition (reason : Str)
  | overflow
  | attribute
  | type_
  deriving DecidableEq

abbrev Parse (α : Type) := Except Fault α

def refuse {α : Type} (reason : Str) : Parse α := .error (.definition reason)

inductive OperandKind where
  | indicator
  | price
  | constant
  deriving DecidableEq, Repr

def OperandKind.name : OperandKind → String
  | indicator => "indicator"
  | price => "price"
  | constant => "constant"

def OperandKind.all : List OperandKind := [indicator, price, constant]

def comparisons : List Comparison :=
  [.greaterThan, .lessThan, .greaterOrEqual, .lessOrEqual, .equal, .crossesAbove, .crossesBelow]

def comparisonName : Comparison → String
  | .greaterThan => "GREATER_THAN"
  | .lessThan => "LESS_THAN"
  | .greaterOrEqual => "GREATER_OR_EQUAL"
  | .lessOrEqual => "LESS_OR_EQUAL"
  | .equal => "EQUAL"
  | .crossesAbove => "CROSSES_ABOVE"
  | .crossesBelow => "CROSSES_BELOW"

inductive Logical where
  | and_
  | or_
  | not_
  deriving DecidableEq, Repr

def Logical.name : Logical → String
  | and_ => "AND"
  | or_ => "OR"
  | not_ => "NOT"

def Logical.all : List Logical := [and_, or_, not_]

def signalTypes : List SignalType :=
  [.entryLong, .entryShort, .exitLong, .exitShort, .close, .hold, .noSignal]

def timeframes : List Timeframe := [.m1, .m5, .m15, .m30, .h1, .h4, .d1, .w1]

def indicators : List Indicator := [.atr, .ema, .rsi, .sma]

def priceFields : List PriceField := [.close, .high, .low, .open_, .volume]

def unitName : ValueUnit → String
  | .price => "price"
  | .oscillator => "oscillator"
  | .volatility => "volatility"
  | .volume => "volume"
  | .ratio => "ratio"
  | .scalar => "scalar"

inductive Operand where
  | indicator (ref : Indicator) (period : ℤ)
  | price (ref : PriceField)
  | constant (value : Float64)
  deriving DecidableEq

namespace Operand

def kind : Operand → OperandKind
  | indicator _ _ => .indicator
  | price _ => .price
  | constant _ => .constant

def ref : Operand → String
  | indicator ref _ => ref.key
  | price ref => ref.ref
  | constant _ => ""

def params : Operand → Fields
  | indicator _ period => [(lit "period", .int period)]
  | _ => []

def value : Operand → Json
  | constant value => .float value
  | _ => .null

def unit : Operand → ValueUnit
  | indicator ref _ => ref.unit
  | price ref => ref.unit
  | constant _ => .scalar

def label (py : Python) : Operand → Str
  | indicator ref period => lit ref.key ++ lit "(" ++ intText period ++ lit ")"
  | price ref => py.upper (lit ref.ref)
  | constant value => py.str (.float value)

def asDict (o : Operand) : Json :=
  .obj [(lit "kind", .str (lit o.kind.name)), (lit "ref", .str (lit o.ref)),
    (lit "params", .obj o.params), (lit "value", o.value)]

end Operand

structure Condition where
  left : Operand
  comparison : Comparison
  right : Operand
  deriving DecidableEq

def Condition.asDict (c : Condition) : Json :=
  .obj [(lit "type", .str (lit "condition")), (lit "left", c.left.asDict),
    (lit "comparison", .str (lit (comparisonName c.comparison))), (lit "right", c.right.asDict)]

abbrev Node := Formula Condition

def groupDict (logical : Logical) (children : List Json) : Json :=
  .obj [(lit "type", .str (lit "group")), (lit "logical", .str (lit logical.name)),
    (lit "children", .arr children)]

def Node.asDict : Node → Json :=
  Formula.fold Condition.asDict (fun child => groupDict .not_ [child]) (groupDict .and_)
    (groupDict .or_)

def Node.countConditions : Node → ℕ := Formula.fold (fun _ => 1) id List.sum List.sum

def Node.conditions : Node → List Condition :=
  Formula.fold (fun c => [c]) id List.flatten List.flatten

structure Rule where
  when_ : Node
  then_ : SignalType

def Rule.asDict (r : Rule) : Json :=
  .obj [(lit "when", r.when_.asDict), (lit "then", .str (lit r.then_.name))]

structure StrategyDefinition where
  name : Str
  symbol : Str
  timeframe : Timeframe
  entryRules : List Rule
  exitRules : List Rule
  description : Str

namespace StrategyDefinition

def toPayload (d : StrategyDefinition) : Json :=
  .obj [(lit "name", .str d.name), (lit "description", .str d.description),
    (lit "symbol", .str d.symbol), (lit "timeframe", .str (lit d.timeframe.name)),
    (lit "entry_rules", .arr (d.entryRules.map Rule.asDict)),
    (lit "exit_rules", .arr (d.exitRules.map Rule.asDict))]

def conditions (d : StrategyDefinition) : List Condition :=
  (d.entryRules ++ d.exitRules).flatMap fun r => r.when_.conditions

end StrategyDefinition

section Reading

variable (py : Python)

def reprOf : Json → Str
  | .str s => py.repr s
  | v => py.str v

def textOf (v : Json) : Str := v.text py.toRuntime

def typeName : Json → String
  | .null => "NoneType"
  | .bool _ => "bool"
  | .int _ => "int"
  | .float _ => "float"
  | .str _ => "str"
  | .arr _ => "list"
  | .obj _ => "dict"

def isText (v : Json) (s : String) : Bool :=
  match v with
  | .str t => t = lit s
  | _ => false

def choose {α : Type} (all : List α) (name : α → String) (text : Str) : Option α :=
  all.find? fun a => lit (name a) = text

def sortedText (values : List Json) : Str := py.str (.arr (py.sorted values))

def require (payload : Json) (path : Str) : Parse Fields :=
  match payload with
  | .obj fields => .ok fields
  | v => refuse (path ++ lit s!" must be an object, not {typeName v}")

def noUnknown (payload : Fields) (allowed : List String) (path : Str) : Parse Unit :=
  let unknown := payload.filter fun f => allowed.all fun key => f.1 ≠ lit key
  if unknown.isEmpty then .ok ()
  else
    refuse (path ++ lit " has unknown fields " ++ sortedText py (unknown.map fun f => .str f.1) ++
      lit "; allowed: " ++ sortedText py (allowed.map fun key => .str (lit key)))

def string (payload : Fields) (key : String) (path : Str) (maxLength : ℕ) : Parse Str :=
  match payload.get key with
  | .str value =>
    if strip value = [] then
      refuse (path ++ lit s!".{key} is required and must be a non-empty string")
    else if maxLength < value.length then
      refuse (path ++ lit s!".{key} is longer than {maxLength} characters")
    else .ok (strip value)
  | _ => refuse (path ++ lit s!".{key} is required and must be a non-empty string")

def defaultPeriod : Indicator → ℤ
  | .sma | .ema => 20
  | .rsi | .atr => 14

def validatePeriod : Json → Except Str ℤ
  | .bool _ => .error (lit "period must be a number, not a boolean")
  | .int i =>
    if 2 ≤ i ∧ i ≤ 500 then .ok i
    else .error (lit "period must be between 2 and 500, not " ++ intText i)
  | v => .error (lit s!"period must be an integer, not {typeName v}")

def hashable : Json → Bool
  | .arr _ | .obj _ => false
  | _ => true

def isNumber : Json → Bool
  | .bool _ | .int _ | .float _ => true
  | _ => false

def isString : Json → Bool
  | .str _ => true
  | _ => false

def sortable (values : List Json) : Bool :=
  values.all isString || values.all isNumber || values.all fun v => !isString v && !isNumber v

def unknownParams (ref : Indicator) (unknown : List Json) (path : Str) : Parse ℤ :=
  refuse (path ++ lit s!": {ref.key} has no parameter " ++ sortedText py unknown ++
    lit "; it accepts ['period']")

def validateParams (ref : Indicator) (given : Json) (path : Str) : Parse ℤ :=
  match given with
  | .obj fields =>
    let unknown := fields.filter fun f => f.1 ≠ lit "period"
    if unknown.isEmpty then
      match fields.lookup (lit "period") with
      | none => .ok (defaultPeriod ref)
      | some v =>
        match validatePeriod v with
        | .ok period => .ok period
        | .error reason => refuse (path ++ lit ": " ++ reason)
    else unknownParams py ref (unknown.map fun f => .str f.1) path
  | .str s => unknownParams py ref (s.map fun c => .str [c]) path
  | .arr values =>
    -- `set(given)` takes a list, and only `given.get` does not
    let unknown := values.filter fun v => !isText v "period"
    if values.all hashable then
      if unknown.isEmpty then .error .attribute
      else if sortable unknown then unknownParams py ref unknown path
      else .error .type_
    else .error .type_
  | _ => .error .type_

def parseOperand (payload : Json) (path : Str) : Parse Operand := do
  let data ← require payload path
  noUnknown py data ["kind", "ref", "params", "value"] path
  match choose OperandKind.all OperandKind.name (textOf py (data.get "kind")) with
  | none =>
    refuse (path ++ lit (".kind must be one of indicator, price, constant, not ") ++
      reprOf py (data.get "kind"))
  | some .constant =>
    match data.get "value" with
    | .int i =>
      match py.float i with
      | some value => return .constant value
      | none => throw .overflow
    | .float value => return .constant value
    | _ => refuse (path ++ lit ".value must be a number for a constant operand")
  | some .price =>
    match data.get "ref" with
    | .str (c :: cs) =>
      match choose priceFields PriceField.ref (c :: cs) with
      | some ref => return .price ref
      | none =>
        refuse (path ++ lit ".ref " ++ py.repr (c :: cs) ++
          lit " is not a price field; available: close, high, low, open, volume")
    | _ => refuse (path ++ lit ".ref is required for a price operand")
  | some .indicator =>
    match data.get "ref" with
    | .str (c :: cs) =>
      match choose indicators Indicator.key (c :: cs) with
      | some ref =>
        return .indicator ref (← validateParams py ref ((data.get "params").or (.obj [])) path)
      | none =>
        refuse (path ++ lit ": unknown indicator " ++ py.repr (c :: cs) ++
          lit "; available indicators are ATR, EMA, RSI, SMA")
    | _ => refuse (path ++ lit ".ref is required for a indicator operand")

def checkComparable (left right : Operand) (path : Str) : Parse Unit :=
  if left.kind = .constant ∧ right.kind = .constant then
    refuse (path ++ lit " compares two constants, which is a fixed answer rather than a condition")
  else if left.unit = .scalar ∨ right.unit = .scalar then .ok ()
  else if left.unit ≠ right.unit then
    refuse (path ++ lit ": cannot compare " ++ left.label py ++
      lit s!" ({unitName left.unit}) with " ++ right.label py ++
      lit (s!" ({unitName right.unit}). They are different quantities, and a " ++
        "comparison between them means nothing"))
  else .ok ()

def parseCondition (data : Fields) (path : Str) : Parse Condition := do
  noUnknown py data ["type", "left", "comparison", "right"] path
  match choose comparisons comparisonName (textOf py (data.get "comparison")) with
  | none =>
    refuse (path ++ lit (".comparison must be one of " ++
      commaList (comparisons.map comparisonName) ++ ", not ") ++
        reprOf py (data.get "comparison"))
  | some comparison =>
    let left ← parseOperand py (data.get "left") (path ++ lit ".left")
    let right ← parseOperand py (data.get "right") (path ++ lit ".right")
    checkComparable py left right path
    return { left, comparison, right }

def parseEach {α : Type} (parse : Json → Str → Parse α) (path : Str) : ℕ → List Json →
    Parse (List α)
  | _, [] => return []
  | i, v :: vs => do
    let first ← parse v (path ++ lit "[" ++ intText i ++ lit "]")
    return first :: (← parseEach parse path (i + 1) vs)

def parseGroup (parse : Json → Str → Parse Node) (data : Fields) (path : Str) : Parse Node := do
  noUnknown py data ["type", "logical", "children"] path
  match choose Logical.all Logical.name (textOf py (data.get "logical")) with
  | none =>
    refuse (path ++ lit ".logical must be AND, OR or NOT, not " ++
      reprOf py (data.get "logical"))
  | some logical =>
    match data.get "children" with
    | .arr (first :: rest) =>
      match logical, rest with
      | .not_, [] => return .not (← parse first (path ++ lit ".children[0]"))
      | .not_, _ =>
        refuse (path ++ lit ": NOT takes exactly one child, not " ++ intText (rest.length + 1))
      | .and_, [] => refuse (path ++ lit ": AND needs at least two children")
      | .or_, [] => refuse (path ++ lit ": OR needs at least two children")
      | .and_, _ => return .all (← parseEach parse (path ++ lit ".children") 0 (first :: rest))
      | .or_, _ => return .any (← parseEach parse (path ++ lit ".children") 0 (first :: rest))
    | _ => refuse (path ++ lit ".children must be a non-empty list")

def parseNode : ℕ → Json → Str → Parse Node
  | 0, _, path =>
    refuse (path ++ lit (" nests deeper than 6 levels; a tree that deep is " ++
      "unreadable and almost always a mistake"))
  | levels + 1, payload, path => do
    let data ← require payload path
    if isText (data.get "type") "condition" then return .atom (← parseCondition py data path)
    else if isText (data.get "type") "group" then parseGroup py (parseNode levels) data path
    else
      refuse (path ++ lit ".type must be 'condition' or 'group', not " ++
        reprOf py (data.get "type"))

def levels : ℕ := maxDepth + 1

def parseRule (allowed : List SignalType) (payload : Json) (path : Str) : Parse Rule := do
  let data ← require payload path
  noUnknown py data ["when", "then"] path
  match choose signalTypes SignalType.name (textOf py (data.get "then")) with
  | none =>
    refuse (path ++ lit (".then must be one of " ++ commaList (allowed.map SignalType.name) ++
      ", not ") ++ reprOf py (data.get "then"))
  | some action =>
    if action ∉ allowed then
      refuse (path ++ lit (s!".then may not be {action.name} here; allowed: " ++
        commaList (allowed.map SignalType.name)))
    else return ⟨← parseNode py levels (data.get "when") (path ++ lit ".when"), action⟩

def parseTimeframe (value : Str) : Parse Timeframe :=
  match choose timeframes Timeframe.name (py.upper (strip value)) with
  | some timeframe => .ok timeframe
  | none =>
    refuse (lit "unknown timeframe " ++ py.repr value ++ lit ("; expected one of " ++
      commaList (timeframes.map Timeframe.name)))

def parseDescription (v : Json) : Parse Str :=
  match v.or (.str []) with
  | .str s =>
    if 1000 < s.length then
      refuse (lit "definition.description must be a string of at most 1000 characters")
    else .ok s
  | _ => refuse (lit "definition.description must be a string of at most 1000 characters")

def entriesOf (v : Json) : Parse (List Json) :=
  match v with
  | .arr (first :: rest) =>
    if maxRules < (first :: rest).length then refuse (lit s!"at most {maxRules} entry rules")
    else .ok (first :: rest)
  | _ =>
    refuse (lit ("definition.entry_rules must contain at least one rule; a strategy with no " ++
      "entry rule can never do anything"))

def exitsOf (v : Json) : Parse (List Json) :=
  match v.or (.arr []) with
  | .arr rules =>
    if maxRules < rules.length then refuse (lit s!"at most {maxRules} exit rules") else .ok rules
  | _ => refuse (lit "definition.exit_rules must be a list")

structure Header where
  name : Str
  symbol : Str
  description : Str
  timeframe : Timeframe
  entries : List Json
  exits : List Json

def parseHeader (payload : Json) : Parse Header := do
  let data ← require payload (lit "definition")
  noUnknown py data ["name", "description", "symbol", "timeframe", "entry_rules", "exit_rules"]
    (lit "definition")
  let name ← string data "name" (lit "definition") 120
  let symbol ← string data "symbol" (lit "definition") 32
  let description ← parseDescription (data.get "description")
  let timeframe ← parseTimeframe py (← string data "timeframe" (lit "definition") 8)
  let entries ← entriesOf (data.get "entry_rules")
  let exits ← exitsOf (data.get "exit_rules")
  return { name, symbol := py.upper symbol, description, timeframe, entries, exits }

def parseDefinition (payload : Json) : Parse StrategyDefinition := do
  let header ← parseHeader py payload
  let entryRules ← parseEach (parseRule py entryActions) (lit "entry_rules") 0 header.entries
  let exitRules ← parseEach (parseRule py exitActions) (lit "exit_rules") 0 header.exits
  let total := ((entryRules ++ exitRules).map fun r => r.when_.countConditions).sum
  if maxConditions < total then
    refuse (lit s!"at most {maxConditions} conditions in one strategy, not {total}")
  else
    return {
      name := header.name, symbol := header.symbol, timeframe := header.timeframe, entryRules,
      exitRules, description := header.description }

end Reading

end TradeResearch.Strategies.Payload
