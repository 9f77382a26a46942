import TradeResearch.Lib.Run
import TradeResearch.Paper.Portfolio

/-!
# Paper accounts and the bots that trade them

`backend/app/paper/service.py` and the passes of `backend/app/paper/engine.py`: a bot reads the
account when it starts, keeps a portfolio of its own from then on, and writes the balance and the
positions of that portfolio back after every pass. What a strategy, the AI seat, sizing and risk
answer is an argument of a pass.

* `PaperAccountRow` is what is stored of an account, with the fills recorded for it since it was
  last reset beside it.
* `PaperBot.evaluate` is the part of a pass between two waits: the brackets, then the decision.
  `PaperAccountRow.persist` is its transaction.
* `PaperAccounts.step` takes any step of any bot, with a start in two parts and a stop at any
  moment; `step_cases` says what each one leaves.
-/

namespace TradeResearch.Paper

structure PositionRow where
  symbol : String
  side : Side
  quantity : ℚ
  entryPrice : ℚ
  stopLoss : Option ℚ
  takeProfit : Option ℚ
  openedAt : Time
  isOpen : Bool
  positive : 0 < quantity

structure RecordedFill where
  fill : Fill
  closed : List ClosedTrade

structure PaperAccountRow where
  id : String
  startingBalance : ℚ
  balance : ℚ
  equity : ℚ
  commissionPaid : ℚ
  positions : List PositionRow
  fills : List RecordedFill

structure Outcome where
  filled : Option Fill
  closed : List ClosedTrade

inductive PaperBotPhase where
  | loading
  | idle
  | evaluated (outcomes : List Outcome)
  | gone

def PaperBotPhase.live : PaperBotPhase → Bool
  | gone => false
  | _ => true

def PaperBotPhase.outcomes : PaperBotPhase → List Outcome
  | evaluated outcomes => outcomes
  | _ => []

structure PaperBot where
  run : ℕ
  accountId : String
  symbol : String
  perUnit : Option ℚ
  commissionPerTrade : ℚ
  strategyId : Option String
  portfolio : PaperPortfolio
  lastPrice : Option ℚ := none
  phase : PaperBotPhase := .loading

structure PaperBar where
  low : ℚ
  high : ℚ
  close : ℚ

inductive Decision where
  | quiet
  | considered
  | exit (price : ℚ) (reason : String)
  | entry (side : String) (quantity price : ℚ) (stopLoss takeProfit : Option ℚ)

def PaperPosition.hit (p : PaperPosition) (bar : PaperBar) : Option (ℚ × String) :=
  let covered (level : Option ℚ) (reached : ℚ → Bool) (reason : String) :=
    (level.filter reached).map fun price => (price, reason)
  match p.side with
  | .long =>
    (covered p.stopLoss (fun stop => bar.low ≤ stop) "stop_loss").or
      (covered p.takeProfit (fun target => target ≤ bar.high) "take_profit")
  | .short =>
    (covered p.stopLoss (fun stop => stop ≤ bar.high) "stop_loss").or
      (covered p.takeProfit (fun target => bar.low ≤ target) "take_profit")

def Side.closing : Side → String
  | .long => "sell"
  | .short => "buy"

def fillOnce (p : PaperPortfolio) :
    Option Fill → Except PositionError (List ClosedTrade × PaperPortfolio)
  | none => .ok ([], p)
  | some f =>
    match (PaperPortfolio.applyFill f).exec p with
    | (.ok closed, q) => .ok (closed, q)
    | (.error e, _) => .error e

def PaperPosition.bracketed (p : PaperPosition) (stopLoss takeProfit : Option ℚ) : PaperPosition :=
  { p with stopLoss, takeProfit }

def PaperPortfolio.bracketed (p : PaperPortfolio) (symbol : String)
    (stopLoss takeProfit : Option ℚ) : PaperPortfolio :=
  match p.positions.find? symbol with
  | none => p
  | some position => p.put (position.bracketed stopLoss takeProfit)

namespace PaperBot

variable (b : PaperBot)

def prices (symbol : String) : Option ℚ := if symbol = b.symbol then b.lastPrice else none

def closingFill (p : PaperPosition) (price : ℚ) (reason : String) (now : Time) : Fill :=
  { symbol := b.symbol
    side := p.side.closing
    quantity := p.quantity
    price
    commission := b.commissionPerTrade
    time := now
    valuePerUnit := p.valuePerUnit
    exitReason := reason
    strategyId := b.strategyId }

def bracketFill (bar : PaperBar) (now : Time) : Option Fill :=
  (b.portfolio.positions.find? b.symbol).bind fun p =>
    (p.hit bar).map fun hit => b.closingFill p hit.1 hit.2 now

def decidedFill (now : Time) : Decision → Option Fill
  | .quiet | .considered => none
  | .exit price reason =>
    (b.portfolio.positions.find? b.symbol).map fun p => b.closingFill p price reason now
  | .entry side quantity price _ _ =>
    b.perUnit.map fun valuePerUnit =>
      { symbol := b.symbol
        side
        quantity
        price
        commission := b.commissionPerTrade
        time := now
        valuePerUnit
        exitReason := "reversal"
        strategyId := b.strategyId }

def sized : Decision → PaperPortfolio
  | .quiet | .exit _ _ => b.portfolio
  | .considered | .entry _ _ _ _ _ =>
    if b.perUnit.isSome = true then (b.portfolio.equity b.prices).2 else b.portfolio

def afterFill (p : PaperPortfolio) : Decision → PaperPortfolio
  | .entry _ _ _ stopLoss takeProfit =>
    if b.perUnit.isSome = true then p.bracketed b.symbol stopLoss takeProfit else p
  | _ => p

def checkBrackets (bar : PaperBar) (now : Time) : Except PositionError (PaperBot × List Outcome) :=
  match b.bracketFill bar now with
  | none => .ok (b, [])
  | some f =>
    (fillOnce b.portfolio (some f)).map fun made =>
      ({ b with portfolio := made.2 }, [{ filled := some f, closed := made.1 }])

def process (close : Option ℚ) (now : Time) (d : Decision) :
    Except PositionError (PaperBot × List Outcome) :=
  match close with
  | none => .ok (b, [{ filled := none, closed := [] }])
  | some price =>
    let b := { b with lastPrice := some price }
    (fillOnce (b.sized d) (b.decidedFill now d)).map fun made =>
      ({ b with portfolio := b.afterFill made.2 d },
        [{ filled := b.decidedFill now d, closed := made.1 }])

def evaluate (bar : PaperBar) (enough : Bool) (now : Time) (d : Decision) :
    Except PositionError (PaperBot × List Outcome) := do
  let closed ← b.checkBrackets bar now
  let result ← closed.1.process (if enough = true then some bar.close else none) now d
  return (result.1, closed.2 ++ result.2)

end PaperBot

def PositionRow.of (p : PaperPosition) : PositionRow :=
  { symbol := p.symbol
    side := p.side
    quantity := p.quantity
    entryPrice := p.averageEntry
    stopLoss := p.stopLoss
    takeProfit := p.takeProfit
    openedAt := p.openedAt
    isOpen := true
    positive := p.positive }

def PositionRow.updated (r : PositionRow) (p : PaperPosition) : PositionRow :=
  { r with
    quantity := p.quantity
    entryPrice := p.averageEntry
    stopLoss := p.stopLoss
    takeProfit := p.takeProfit
    positive := p.positive }

def openRows (rows : List PositionRow) (symbol : String) : List PositionRow :=
  rows.filter fun r => r.isOpen && decide (r.symbol = symbol)

def rewrite (rows : List PositionRow) (symbol : String) (f : PositionRow → PositionRow) :
    List PositionRow :=
  rows.map fun r => if (r.isOpen && decide (r.symbol = symbol)) = true then f r else r

def persistPositions (rows : List PositionRow) (symbol : String) (live : Option PaperPosition)
    (closed : List ClosedTrade) : List PositionRow :=
  let kept := if closed = [] then rows
    else rewrite rows symbol fun r => { r with isOpen := false }
  match live with
  | none => kept
  | some p =>
    if openRows rows symbol = [] ∨ closed ≠ [] then kept ++ [PositionRow.of p]
    else rewrite kept symbol fun r => r.updated p

namespace PaperAccountRow

def record (a : PaperAccountRow) (symbol : String) (live : Option PaperPosition) (o : Outcome) :
    PaperAccountRow :=
  { a with
    fills := a.fills ++ (o.filled.map fun fill => { fill, closed := o.closed }).toList
    positions := persistPositions a.positions symbol live o.closed }

def recorded (a : PaperAccountRow) (known : Bool) (b : PaperBot) (outcomes : List Outcome) :
    PaperAccountRow :=
  if known = true then
    outcomes.foldl (fun a o => a.record b.symbol (b.portfolio.positions.find? b.symbol) o) a
  else a

def persist (a : PaperAccountRow) (p : PaperPortfolio) (equity : ℚ) : PaperAccountRow :=
  { a with balance := p.balance, equity, commissionPaid := p.commissionPaid }

def load (a : PaperAccountRow) : PaperPortfolio :=
  { PaperPortfolio.opened a.startingBalance a.balance 0 with
    peakEquity := max a.equity a.startingBalance }

def reset (a : PaperAccountRow) (startingBalance : Option ℚ) : PaperAccountRow :=
  let start := match startingBalance with
    | some value => if value = 0 then a.startingBalance else value
    | none => a.startingBalance
  { a with
    startingBalance := start
    balance := start
    equity := start
    commissionPaid := 0
    positions := a.positions.map fun r => { r with isOpen := false }
    fills := [] }

end PaperAccountRow

def PositionRow.restored (r : PositionRow) (symbol : String) (perUnit : ℚ) : PaperPosition :=
  { symbol
    side := r.side
    quantity := r.quantity
    averageEntry := r.entryPrice
    openedAt := r.openedAt
    updatedAt := r.openedAt
    valuePerUnit := perUnit
    stopLoss := r.stopLoss
    takeProfit := r.takeProfit
    trailingStop := none
    realizedPnl := 0
    strategyId := none
    positive := r.positive }

def restorePositions (p : PaperPortfolio) (rows : List PositionRow) (symbol : String)
    (perUnit : Option ℚ) : Option PaperPortfolio :=
  match rows.filter PositionRow.isOpen with
  | [] => some p
  | r :: rest =>
    perUnit.map fun value => (r :: rest).foldl (fun p r => p.put (r.restored symbol value)) p

structure PaperAccounts where
  accounts : Table PaperAccountRow.id := Table.empty _
  bots : Table PaperBot.run := Table.empty _

structure BotStart where
  accountId : String
  symbol : String
  perUnit : Option ℚ
  commissionPerTrade : ℚ
  strategyId : Option String

inductive AccountEvent where
  /-- `create_account`. -/
  | create (id : String) (startingBalance : ℚ)
  /-- `start_bot` reads the account. -/
  | load (run : ℕ) (start : BotStart)
  /-- `start_bot` reads the open positions, and the bot is started. -/
  | restore (run : ℕ)
  /-- A pass has fetched its bars and evaluates them. -/
  | evaluate (run : ℕ) (bar : PaperBar) (enough : Bool) (now : Time) (decision : Decision)
  /-- The pass commits; the market data may know the symbol or not. -/
  | persist (run : ℕ) (known : Bool)
  /-- A bot is stopped, it crashes, or its start fails: what it did not commit is lost. -/
  | stop (run : ℕ)
  /-- `reset_account` commits. -/
  | reset (id : String) (startingBalance : Option ℚ)

namespace PaperAccounts

variable (s : PaperAccounts)

def Held (accountId : String) : Prop :=
  ∃ b ∈ s.bots.rows, b.accountId = accountId ∧ b.phase.live = true

def started (run : ℕ) (start : BotStart) (a : PaperAccountRow) : PaperBot :=
  { run
    accountId := a.id
    symbol := start.symbol
    perUnit := start.perUnit
    commissionPerTrade := start.commissionPerTrade
    strategyId := start.strategyId
    portfolio := a.load }

def put (b : PaperBot) : PaperAccounts := { s with bots := s.bots.put b }

def step (s : PaperAccounts) : AccountEvent → Option PaperAccounts
  | .create id startingBalance =>
    if s.accounts.find? id = none ∧ 0 < startingBalance then
      some
        { s with
          accounts := s.accounts.put
            { id, startingBalance, balance := startingBalance, equity := startingBalance
              commissionPaid := 0, positions := [], fills := [] } }
    else none
  | .load run start =>
    if s.bots.find? run = none then
      (s.accounts.find? start.accountId).map fun a => s.put (started run start a)
    else none
  | .restore run =>
    (s.bots.find? run).bind fun b => (s.accounts.find? b.accountId).bind fun a =>
      match b.phase with
      | .loading =>
        (restorePositions b.portfolio a.positions b.symbol b.perUnit).map fun portfolio =>
          s.put { b with portfolio, phase := .idle }
      | _ => none
  | .evaluate run bar enough now decision =>
    (s.bots.find? run).bind fun b =>
      match b.phase with
      | .idle =>
        match b.evaluate bar enough now decision with
        | .ok made => some (s.put { made.1 with phase := .evaluated made.2 })
        | .error _ => some (s.put { b with phase := .gone })
      | _ => none
  | .persist run known =>
    (s.bots.find? run).bind fun b => (s.accounts.find? b.accountId).bind fun a =>
      match b.phase with
      | .evaluated outcomes =>
        let marked := b.portfolio.equity b.prices
        some
          { s.put { b with portfolio := marked.2, phase := .idle } with
            accounts := s.accounts.put ((a.recorded known b outcomes).persist marked.2 marked.1) }
      | _ => none
  | .stop run => (s.bots.find? run).map fun b => s.put { b with phase := .gone }
  | .reset id startingBalance =>
    (s.accounts.find? id).map fun a =>
      { s with accounts := s.accounts.put (a.reset startingBalance) }

end PaperAccounts

end TradeResearch.Paper
