import TradeResearch.Brokers.Base

/-!
# The MetaTrader5 adapter

`backend/app/brokers/mt5.py`, with the two functions of the toolkit that own its requests: `place`
and `close_own` of `tools/mt5_paper.py`. The terminal is its answers: a `TerminalCall` is what one
call of the MetaTrader5 package came to, and a call that failed answers `None` without raising.

`place` is modelled with the arguments the adapter passes (live, approved upstream, no bracket, no
risk sizing), so its bracket repair is not reached. The fields of its record no adapter branch
reads are left out, as are the levels a modification transmits.
-/

namespace TradeResearch.Brokers

open Oms

inductive ConnectionState where
  | disconnected
  | connecting
  | connected
  | degraded
  | reconnecting
  | reconciling
  | error
  deriving DecidableEq

def ConnectionState.name : ConnectionState → String
  | disconnected => "disconnected"
  | connecting => "connecting"
  | connected => "connected"
  | degraded => "degraded"
  | reconnecting => "reconnecting"
  | reconciling => "reconciling"
  | error => "error"

namespace Mt5

inductive TerminalCall (α : Type) where
  | raised (type : String) (reason : Text)
  | noAnswer
  | answered (a : α)

def magic : ℤ := 770316

def tradeRetcodeDone : ℤ := 10009

def orNone {α : Type} [Zero α] [DecidableEq α] (a : α) : Option α := if a = 0 then none else some a

def ticketText (ticket : ℤ) : String := toString ticket

structure Position where
  ticket : ℤ
  symbol : String
  type : ℤ
  volume : ℚ
  priceOpen : ℚ
  time : Time
  sl : ℚ
  tp : ℚ
  magic : ℤ
  deriving DecidableEq

structure OpenBook where
  positions : List Position
  distinct : (positions.map fun p => ticketText p.ticket).Nodup

structure Order where
  ticket : ℤ
  symbol : String
  type : ℤ
  volumeCurrent : ℚ
  priceOpen : ℚ
  state : String
  timeSetup : Time
  magic : ℤ
  deriving DecidableEq

structure SendResult where
  retcode : ℤ
  order : ℤ
  deal : ℤ
  price : ℚ
  volume : ℚ
  comment : Text

structure Tick where
  ask : ℚ
  bid : ℚ

def notConnected (state : ConnectionState) : Exn :=
  .brokerError "NotConnected" (Text.lit ("mt5 adapter is " ++ state.name))

def Position.toBroker (p : Position) : BrokerPosition :=
  { positionId := ticketText p.ticket
    symbol := p.symbol
    side := if p.type = 0 then "long" else "short"
    volume := .finite p.volume
    entryPrice := .finite p.priceOpen
    openedAt := p.time
    stopLoss := orNone p.sl
    takeProfit := orNone p.tp
    magic := some p.magic }

def Order.toBroker (o : Order) : BrokerOrder :=
  { orderId := ticketText o.ticket
    symbol := o.symbol
    side := if o.type ∈ [0, 2, 4] then "buy" else "sell"
    volume := o.volumeCurrent
    price := some o.priceOpen
    state := o.state
    placedAt := o.timeSetup
    magic := some o.magic }

def tagged (wanted : Option ℤ) (m : ℤ) : Bool := wanted.all fun w => decide (m = w)

def getPositions (state : ConnectionState) (positionsGet : TerminalCall OpenBook)
    (wanted : Option ℤ) : Answer (List BrokerPosition) :=
  if state ≠ .connected then .error (notConnected state)
  else
    match positionsGet with
    | .raised type reason => .error (.other type reason)
    | .noAnswer => .ok []
    | .answered book =>
      .ok ((book.positions.filter fun p => tagged wanted p.magic).map Position.toBroker)

def getOrders (state : ConnectionState) (ordersGet : TerminalCall (List Order))
    (wanted : Option ℤ) : Answer (List BrokerOrder) :=
  if state ≠ .connected then .error (notConnected state)
  else
    match ordersGet with
    | .raised type reason => .error (.other type reason)
    | .noAnswer => .ok []
    | .answered rows =>
      .ok ((rows.filter fun o => tagged wanted o.magic).map Order.toBroker)

structure PlaceReads where
  symbolInfo : TerminalCall Unit
  symbolSelect : TerminalCall Bool
  symbolInfoAgain : TerminalCall Unit
  symbolInfoTick : TerminalCall Tick
  /-- The average range, absent when there are no rates or too few of them. -/
  atr : TerminalCall ℚ
  fillingFor : TerminalCall Unit

structure PlaceRecord where
  status : String
  comment : Option Text
  retcode : Option ℤ
  order : Option ℤ
  deal : Option ℤ
  lot : Option ℚ
  filledLot : Option ℚ
  fillPrice : Option ℚ

def PlaceRecord.unsent (status : String) : PlaceRecord :=
  { status, comment := none, retcode := none, order := none, deal := none, lot := none,
    filledLot := none, fillPrice := none }

def preflight (reads : PlaceReads) : Except Exn (Option String) :=
  match reads.symbolInfo, reads.symbolSelect with
  | .raised type reason, _ => .error (.other type reason)
  | .noAnswer, .raised type reason => .error (.other type reason)
  | .noAnswer, .noAnswer => .ok (some "symbol_unavailable")
  | .noAnswer, .answered false => .ok (some "symbol_unavailable")
  | _, _ =>
    match reads.symbolInfoAgain, reads.symbolInfoTick with
    | .raised type reason, _ => .error (.other type reason)
    | _, .raised type reason => .error (.other type reason)
    | _, .noAnswer => .ok (some "no_quote_market_probably_closed")
    | _, .answered tick =>
      if tick.ask ≤ 0 ∨ tick.bid ≤ 0 then .ok (some "no_quote_market_probably_closed")
      else
        match reads.atr with
        | .raised type reason => .error (.other type reason)
        | .noAnswer => .ok (some "insufficient_history_for_atr")
        | .answered atr =>
          if atr = 0 then .ok (some "insufficient_history_for_atr")
          else
            match reads.fillingFor with
            | .raised type reason => .error (.other type reason)
            | _ => .ok none

def done : TerminalCall SendResult → Bool
  | .answered result => decide (result.retcode = tradeRetcodeDone)
  | _ => false

def field {α : Type} (read : SendResult → α) : TerminalCall SendResult → Option α
  | .answered result => some (read result)
  | _ => none

def sentRecord (orderSend : TerminalCall SendResult) (lot : ℚ) : PlaceRecord :=
  { status :=
      if done orderSend then "SENT"
      else
        match orderSend with
        | .answered _ => "REJECTED"
        | _ => "UNKNOWN"
    comment := field SendResult.comment orderSend
    retcode := field SendResult.retcode orderSend
    order := field SendResult.order orderSend
    deal := (field SendResult.deal orderSend).bind orNone
    lot := some lot
    filledLot := if done orderSend then (field SendResult.volume orderSend).bind orNone else none
    fillPrice := if done orderSend then (field SendResult.price orderSend).bind orNone else none }

def place (reads : PlaceReads) (orderSend : TerminalCall SendResult) (log : TerminalCall Unit)
    (lot : ℚ) : Except Exn PlaceRecord :=
  match preflight reads with
  | .error e => .error e
  | .ok (some status) => .ok (PlaceRecord.unsent status)
  | .ok none =>
    match log with
    | .raised type reason => .error (.other type reason)
    | _ => .ok (sentRecord orderSend lot)

def placeResult (raw : PlaceRecord) (now : Time) : OrderResult :=
  if raw.status = "SENT" ∧ raw.fillPrice.isSome then
    { status := .accepted
      detail := (raw.comment.getD []).orElse (Text.lit "filled")
      orderId := (raw.order.bind orNone).map ticketText
      positionId := (raw.order.bind orNone).map ticketText
      dealId := raw.deal.map ticketText
      fillPrice := raw.fillPrice.map Figure.finite
      filledVolume := (raw.filledLot.or raw.lot).map Figure.finite
      filledAt := some now
      retcode := raw.retcode
      fillSource := "broker"
      realizedPnl := none }
  else if raw.status = "SENT" then
    { OrderResult.bare .unknown (Text.lit "venue reported SENT without a fill price") with
      retcode := raw.retcode }
  else
    { OrderResult.bare .rejected ((raw.comment.getD []).orElse (Text.lit raw.status)) with
      retcode := raw.retcode }

def modifyOrder (state : ConnectionState) (positionsGet : TerminalCall OpenBook)
    (orderSend : TerminalCall SendResult) (positionId : String) : Answer OrderResult :=
  if state ≠ .connected then .error (notConnected state)
  else
    match getPositions state positionsGet none with
    | .error e => .error e
    | .ok positions =>
      if positions.any fun p => decide (p.positionId = positionId) then
        match orderSend with
        | .raised _ reason =>
          .ok (OrderResult.bare .unknown (Text.take 200 (Text.lit "modify raised: " ++ reason)))
        | _ => .ok
          { OrderResult.bare (if done orderSend then .accepted else .rejected)
              (((field SendResult.comment orderSend).getD []).orElse
                (Text.lit (if done orderSend then "levels modified" else "modify refused"))) with
            positionId := some positionId
            retcode := field SendResult.retcode orderSend }
      else .ok (OrderResult.bare .rejected (Text.lit ("no position " ++ positionId)))

def cancelOrder (state : ConnectionState) (orderSend : TerminalCall SendResult)
    (orderId : String) : Answer OrderResult :=
  if state ≠ .connected then .error (notConnected state)
  else
    match orderSend with
    | .raised _ reason =>
      .ok (OrderResult.bare .unknown (Text.take 200 (Text.lit "cancel raised: " ++ reason)))
    | _ => .ok
      { OrderResult.bare (if done orderSend then .accepted else .rejected)
          ((field SendResult.comment orderSend).getD []) with
        orderId := some orderId
        retcode := field SendResult.retcode orderSend }

structure FollowUp where
  state : ConnectionState
  positionsGet : TerminalCall OpenBook
  orderSend : TerminalCall SendResult

def levelSet : Option ℚ → Bool
  | some level => decide (level ≠ 0)
  | none => false

def placeOrder (state : ConnectionState) (reads : PlaceReads)
    (orderSend : TerminalCall SendResult) (log : TerminalCall Unit) (followUp : FollowUp)
    (request : OrderRequest) (now : Time) : Answer OrderResult :=
  if state ≠ .connected then .error (notConnected state)
  else
    match place reads orderSend log request.volume with
    | .error e => .ok (OrderResult.bare .unknown
        (Text.take 300 (Text.lit "send raised after dispatch: " ++ e.describe)))
    | .ok raw =>
      let result := placeResult raw now
      if result.status = .accepted ∧
          (levelSet request.stopLoss || levelSet request.takeProfit) = true then
        match modifyOrder followUp.state followUp.positionsGet followUp.orderSend
            (result.positionId.getD "") with
        | .error e => .error e
        | .ok _ => .ok result
      else .ok result

def venueUnreadable : Exn :=
  .other "VenueUnreadable"
    (Text.lit "positions_get returned None; the open book is unknown")

def ownPositions (positionsGet : TerminalCall OpenBook) (magic : ℤ) : Except Exn (List Position) :=
  match positionsGet with
  | .raised type reason => .error (.other type reason)
  | .noAnswer => .error venueUnreadable
  | .answered book => .ok (book.positions.filter fun p => decide (p.magic = magic))

structure CloseCalls where
  symbolInfoTick : TerminalCall Tick
  fillingFor : TerminalCall Unit
  orderSend : TerminalCall SendResult
  /-- The money of the deal, as history has it. -/
  dealMoney : TerminalCall ℚ
  log : TerminalCall Unit

structure CloseRecord where
  ticket : ℤ
  status : String
  retcode : Option ℤ
  order : Option ℤ
  fillPrice : Option ℚ
  closedVolume : Option ℚ
  net : Option ℚ
  deal : Option ℤ

def moneyOf (dealMoney : TerminalCall ℚ) (deal : Option ℤ) : Option (ℤ × ℚ) :=
  match deal.bind orNone, dealMoney with
  | some ticket, .answered net => some (ticket, net)
  | _, _ => none

def closeOne (p : Position) (calls : CloseCalls) : Except Exn CloseRecord :=
  match calls.symbolInfoTick with
  | .raised type reason => .error (.other type reason)
  | .noAnswer => .ok
    { ticket := p.ticket, status := "no_quote", retcode := none, order := none, fillPrice := none,
      closedVolume := none, net := none, deal := none }
  | .answered _ =>
    match calls.fillingFor, calls.orderSend, calls.log with
    | .raised type reason, _, _ => .error (.other type reason)
    | _, .raised type reason, _ => .error (.other type reason)
    | _, _, .raised type reason => .error (.other type reason)
    | _, orderSend, _ =>
      let money :=
        if done orderSend then moneyOf calls.dealMoney (field SendResult.deal orderSend) else none
      .ok
        { ticket := p.ticket
          status := if done orderSend then "CLOSED" else "FAILED"
          retcode := field SendResult.retcode orderSend
          order := (field SendResult.order orderSend).bind orNone
          fillPrice := if done orderSend then field SendResult.price orderSend else none
          closedVolume := if done orderSend then field SendResult.volume orderSend else none
          net := money.map Prod.snd
          deal := money.map Prod.fst }

def closeOwn (positionsGet : TerminalCall OpenBook) (picks : Position → Bool) (magic : ℤ)
    (calls : Position → CloseCalls) : Except Exn (List CloseRecord) := do
  let own ← ownPositions positionsGet magic
  (own.filter picks).mapM fun p => closeOne p (calls p)

def closeResult (row : CloseRecord) (positionId : String) (now : Time) : OrderResult :=
  if row.status = "CLOSED" then
    match row.fillPrice, row.closedVolume.bind orNone with
    | some price, some volume =>
      { status := .accepted
        detail := Text.lit "closed"
        orderId := row.order.map ticketText
        positionId := some positionId
        dealId := row.deal.map ticketText
        fillPrice := some (.finite price)
        filledVolume := some (.finite volume)
        filledAt := some now
        retcode := row.retcode
        fillSource := "broker"
        realizedPnl := row.net }
    | _, _ =>
      { OrderResult.bare .unknown
          (Text.lit "venue reported the close done without a fill price or volume") with
        orderId := row.order.map ticketText
        positionId := some positionId
        retcode := row.retcode }
  else if row.status = "no_quote" then
    OrderResult.bare .rejected (Text.lit "no quote to close against")
  else
    { OrderResult.bare .rejected (Text.lit row.status) with
      orderId := row.order.map ticketText
      retcode := row.retcode }

def closePosition (state : ConnectionState) (positionsGet : TerminalCall OpenBook)
    (calls : Position → CloseCalls) (positionId : String) (now : Time) : Answer OrderResult :=
  if state ≠ .connected then .error (notConnected state)
  else
    match closeOwn positionsGet (fun p => decide (ticketText p.ticket = positionId)) magic
        calls with
    | .error e => .error e
    | .ok [] => .ok (OrderResult.bare .rejected
        (Text.lit ("no own position " ++ positionId ++ " to close")))
    | .ok (row :: _) => .ok (closeResult row positionId now)

end Mt5

end TradeResearch.Brokers
