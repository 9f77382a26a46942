import Mathlib.Data.Finset.Card
import TradeResearch.Lib.Replace
import TradeResearch.Sizing.Calculator

/-!
# The live trading gate

`backend/app/live/gate.py` and `backend/app/live/allowlist.py`. Instants and spans are whole
microseconds; `repr` of a text is a parameter.

* `LiveContext` is what the gate is given to look at. Its fields that are `bool | None` are one
  function of their name, and so are those that count.
* `LiveTradingGate.evaluate` runs the checks; `GateReport.ready` is its verdict.
-/

namespace TradeResearch.Live

inductive Verdict where
  | passed
  | failed
  | warning
  deriving DecidableEq, Repr

structure Check where
  name : String
  verdict : Verdict
  detail : Text
  group : String
  mandatory : Bool := true

def Check.blocking (c : Check) : Bool := c.mandatory && c.verdict ≠ .passed

structure GateReport where
  checks : List Check
  generatedAt : ℤ

def GateReport.ready (r : GateReport) : Bool :=
  if r.checks.isEmpty then false else !r.checks.any Check.blocking

def strip (s : String) : String := String.ofList (trim Sizing.isSpace s.toList)

structure Allowlist where
  accounts : Finset String := ∅

namespace Allowlist

def configured (l : Allowlist) : Bool := l.accounts ≠ ∅

def permits (l : Allowlist) (accountId : String) : Bool :=
  if l.accounts = ∅ then false else strip accountId ∈ l.accounts

end Allowlist

structure Settings where
  environment : Option String
  tradingMode : Option String
  liveTrading : Bool
  enableLiveTradingConfirmation : String
  liveExecutionBlockers : List String

structure ConnectedAccount where
  accountId : String
  server : String
  accountType : String
  balance : Option ℚ := none
  equity : Option ℚ := none
  freeMargin : Option ℚ := none
  leverage : Option ℤ := none
  tradeAllowed : Option Bool := none

structure SymbolState where
  internal : String
  venueSymbol : Option String
  bid : Option ℚ
  ask : Option ℚ
  quotedAt : Option ℤ
  marketOpen : Option Bool
  maxSpread : Option ℚ := none

def SymbolState.spread (s : SymbolState) : Option ℚ :=
  match s.bid, s.ask with
  | some bid, some ask => some (ask - bid)
  | _, _ => none

structure StrategyLock where
  strategyId : String
  versionId : String
  status : String
  fingerprint : Option String
  hasStop : Bool := false
  hasTarget : Bool := false

structure ModelLock where
  modelId : String
  version : String
  status : String
  fingerprint : Option String

inductive CapitalLimit where
  | approvedCapital
  | riskBudget
  | maxDailyLoss
  | maxDrawdown
  | maxExposure
  | maxPositionSize
  | maxOpenPositions
  | maxDailyOrders
  deriving DecidableEq, Repr

namespace CapitalLimit

def name : CapitalLimit → String
  | approvedCapital => "approved_capital"
  | riskBudget => "risk_budget"
  | maxDailyLoss => "max_daily_loss"
  | maxDrawdown => "max_drawdown"
  | maxExposure => "max_exposure"
  | maxPositionSize => "max_position_size"
  | maxOpenPositions => "max_open_positions"
  | maxDailyOrders => "max_daily_orders"

def all : List CapitalLimit :=
  [approvedCapital, riskBudget, maxDailyLoss, maxDrawdown, maxExposure, maxPositionSize,
    maxOpenPositions, maxDailyOrders]

end CapitalLimit

abbrev CapitalLimits := CapitalLimit → Option ℚ

def CapitalLimits.missing (capital : CapitalLimits) : List String :=
  (CapitalLimit.all.filter fun l => (capital l).isNone).map CapitalLimit.name

inductive Fact where
  | adapterRegistered
  | adapterHealthy
  | terminalReachable
  | aiFallbackDefined
  | riskEngineHealthy
  | riskLimitsConfigured
  | killSwitchesAvailable
  | positionSizerHealthy
  | omsHealthy
  | positionManagerHealthy
  | positionsReconciled
  | ordersReconciled
  | safeModeEngaged
  | recoveryAvailable
  | monitoringActive
  | notificationsHealthy
  | databaseHealthy
  | redisHealthy
  | workersHealthy
  | auditLoggingActive
  | stepUpRequired
  | releaseStamped
  deriving DecidableEq, Repr

inductive Count where
  | unresolvedOrders
  | unknownOrders
  | unexpectedPositions
  deriving DecidableEq, Repr

structure LiveContext where
  settings : Option Settings
  now : ℤ
  allowlist : Allowlist := ⟨∅⟩
  expectedAccountId : Option String := none
  expectedServer : Option String := none
  connectedAccount : Option ConnectedAccount := none
  adapterMode : Option String := none
  symbols : List SymbolState := []
  marketDataMaxAgeSeconds : ℚ := 60
  strategies : List StrategyLock := []
  aiEnabled : Bool := false
  models : List ModelLock := []
  capital : Option CapitalLimits := none
  killSwitchEngaged : Option String := none
  fact : Fact → Option Bool := fun _ => none
  count : Count → Option ℤ := fun _ => none

def timedelta (seconds : ℚ) : ℤ := Brokers.roundHalfEven (seconds * 1000000)

def LiveContext.limit (ctx : LiveContext) : ℤ := timedelta ctx.marketDataMaxAgeSeconds

def confirmationPhrase : String := "YES_I_UNDERSTAND"

def check (name group : String) (ok : Option Bool) (yes no : Text) (unknown : Option Text := none)
    (mandatory : Bool := true) : Check :=
  match ok with
  | none => {
      name, group, mandatory
      verdict := .failed
      detail := unknown.getD (no ++ Text.lit " (nothing was supplied to check)") }
  | some ok => {
      name, group, mandatory
      verdict := if ok then .passed else .failed
      detail := if ok then yes else no }

def stated (name group : String) (ok : Option Bool) (yes no : String) : Check :=
  check name group ok (Text.lit yes) (Text.lit no)

def listed (names : List String) : Text := Text.join ", " (names.map Text.lit)

namespace LiveTradingGate

variable (repr : String → String) (ctx : LiveContext)

def shown (text : Option String) : Text := Text.lit ((text.map repr).getD "None")

def configuration : List Check :=
  let environment := ctx.settings.bind Settings.environment
  let mode := ctx.settings.bind Settings.tradingMode
  let liveFlag := (ctx.settings.map Settings.liveTrading).getD false
  let confirmation := (ctx.settings.map Settings.enableLiveTradingConfirmation).getD ""
  let blockers := (ctx.settings.map Settings.liveExecutionBlockers).getD ["unavailable"]
  [ check "environment_is_production" "configuration" (some (environment = some "production"))
      (Text.lit "ENVIRONMENT=production")
      (Text.lit "ENVIRONMENT=" ++ shown repr environment ++
        Text.lit ("; a live account reached from a development environment is the accident this " ++
          "check exists for")),
    check "trading_mode_is_live" "configuration" (some (mode = some "live"))
      (Text.lit "TRADING_MODE=live") (Text.lit "TRADING_MODE=" ++ shown repr mode),
    stated "live_trading_flag_set" "configuration" (some liveFlag) "LIVE_TRADING=true"
      "LIVE_TRADING=false",
    check "explicit_confirmation_phrase" "configuration" (some (confirmation = confirmationPhrase))
      (Text.lit "ENABLE_LIVE_TRADING_CONFIRMATION is set to the required phrase")
      (Text.lit "ENABLE_LIVE_TRADING_CONFIRMATION must be set to " ++
        Text.lit (repr confirmationPhrase) ++ Text.lit "; it is " ++
        Text.lit (if confirmation = "" then "unset" else "set to something else")),
    check "live_gates_all_built" "configuration" (some blockers.isEmpty)
      (Text.lit "every LIVE_GATES entry is built and verified")
      (Text.num blockers.length ++ Text.lit " live blocker(s): " ++
        Text.join "; " ((blockers.take 12).map Text.lit)) ]

def unread : List Check :=
  [("account_allowlisted", "no account was read, so none is allowlisted"),
    ("account_matches_expected", "no account was read to compare"),
    ("server_matches_expected", "no server was read to compare"),
    ("account_type_is_live", "no account type was read"),
    ("account_trading_permitted", "no trading permission was read"),
    ("account_has_equity", "no equity was read"),
    ("account_has_free_margin", "no free margin was read")].map fun (name, detail) =>
      { name, verdict := .failed, detail := Text.lit detail, group := "account" }

def identity (acct : ConnectedAccount) : List Check :=
  let expectedId := strip (ctx.expectedAccountId.getD "")
  let expectedServer := strip (ctx.expectedServer.getD "")
  [ check "account_allowlisted" "account" (some (ctx.allowlist.permits acct.accountId))
      (Text.lit s!"account {acct.accountId} is allowlisted")
      (Text.lit s!"account {acct.accountId} is NOT allowlisted; live trading blocked"),
    check "account_matches_expected" "account"
      (some (expectedId ≠ "" ∧ expectedId = strip acct.accountId))
      (Text.lit s!"connected account {acct.accountId} matches the approved account")
      (if expectedId ≠ "" then
        Text.lit s!"connected account {acct.accountId} does not match approved " ++
          Text.lit (repr expectedId)
      else
        Text.lit ("LIVE_EXPECTED_ACCOUNT_ID is unset; there is nothing to compare the connected " ++
          "account against")),
    check "server_matches_expected" "account"
      (some (expectedServer ≠ "" ∧ expectedServer = strip acct.server))
      (Text.lit s!"connected server {acct.server} matches the approved server")
      (if expectedServer ≠ "" then
        Text.lit "connected server " ++ Text.lit (repr acct.server) ++
          Text.lit " does not match approved " ++ Text.lit (repr expectedServer)
      else
        Text.lit ("LIVE_EXPECTED_SERVER is unset; there is nothing to compare the connected " ++
          "server against")),
    check "account_type_is_live" "account" (some (acct.accountType.toUpper = "REAL"))
      (Text.lit "the connected account is a REAL account")
      (Text.lit (s!"the connected account is {acct.accountType}; tools/mt5_paper.assert_demo " ++
        "refuses anything but DEMO in code, so this platform cannot reach a real account today")),
    stated "account_trading_permitted" "account" acct.tradeAllowed
      "the terminal reports trading permitted"
      ("the terminal reports trading NOT permitted (Algo Trading switch, or a broker-side " ++
        "restriction)"),
    check "account_has_equity" "account" (acct.equity.map fun equity => 0 < equity)
      (Text.lit "equity " ++ Text.num? acct.equity) (Text.lit "equity is zero or negative"),
    check "account_has_free_margin" "account" (acct.freeMargin.map fun margin => 0 < margin)
      (Text.lit "free margin " ++ Text.num? acct.freeMargin)
      (Text.lit "no free margin available") ]

def account : List Check :=
  let unconfigured := Text.lit ("LIVE_ALLOWED_ACCOUNT_IDS is empty; an unconfigured allowlist " ++
    "permits nothing, which is the fail-closed reading")
  [ check "allowlist_configured" "account" (if ctx.allowlist.configured then some true else none)
      (Text.num ctx.allowlist.accounts.card ++
        Text.lit " account(s) allowlisted for live trading")
      unconfigured (some unconfigured),
    check "account_readable" "account" (some ctx.connectedAccount.isSome)
      (Text.lit "the connected account was read from the terminal")
      (Text.lit "no connected account was read; identity cannot be verified")
      (some (Text.lit ("no connected account was read; identity cannot be verified and an " ++
        "unverified account may not trade"))) ] ++
    match ctx.connectedAccount with
    | none => unread
    | some acct => identity repr ctx acct

def venue : List Check :=
  [ stated "broker_adapter_registered" "venue" (ctx.fact .adapterRegistered)
      "a broker adapter is registered for the account"
      "no broker adapter is registered; a routed signal stops at no_venue",
    check "broker_adapter_mode_is_live" "venue" (ctx.adapterMode.map fun mode => mode = "live")
      (Text.lit "the registered adapter is a live venue")
      (Text.lit "the registered adapter is a " ++ shown repr ctx.adapterMode ++
        Text.lit " venue; a live platform may not be pointed at a simulator or a demo")
      (some (Text.lit ("no adapter mode was supplied; a venue nobody can name is not a venue " ++
        "anybody approved"))),
    stated "broker_connection_healthy" "venue" (ctx.fact .adapterHealthy)
      "the adapter reports a healthy connection"
      "the adapter does not report a healthy connection",
    stated "terminal_reachable" "venue" (ctx.fact .terminalReachable)
      "the MetaTrader terminal answered" "the MetaTrader terminal did not answer" ]

def stale (s : SymbolState) : Bool :=
  match s.quotedAt with
  | none => true
  | some quotedAt => ctx.limit < ctx.now - quotedAt

def crossed (s : SymbolState) : Bool :=
  match s.spread with
  | none => false
  | some spread => spread < 0

def wide (s : SymbolState) : Bool :=
  match s.maxSpread, s.spread with
  | some maxSpread, some spread => maxSpread < spread
  | _, _ => false

def marketData : List Check :=
  let symbols (p : SymbolState → Bool) : List String :=
    (ctx.symbols.filter p).map SymbolState.internal
  let unmapped := symbols fun s => s.venueSymbol.getD "" = ""
  let noQuote := symbols fun s => s.bid.isNone || s.ask.isNone
  let stale := symbols (stale ctx)
  let closed := symbols fun s => s.marketOpen ≠ some true
  let crossed := symbols crossed
  let wide := symbols wide
  if ctx.symbols.isEmpty then
    [{ name := "symbols_present", verdict := .failed, group := "market_data"
       detail := Text.lit ("no symbol was supplied; a live session with no tradable symbol is " ++
        "not a configuration anybody meant") }]
  else
    [ { name := "symbols_present", verdict := .passed, group := "market_data"
        detail := Text.num ctx.symbols.length ++ Text.lit " symbol(s) configured" },
      check "symbols_mapped" "market_data" (some unmapped.isEmpty)
        (Text.lit "every symbol maps to a venue symbol") (Text.lit "unmapped: " ++ listed unmapped),
      check "quotes_available" "market_data" (some noQuote.isEmpty)
        (Text.lit "every symbol has a bid and an ask")
        (Text.lit "no quote for: " ++ listed noQuote),
      check "quotes_fresh" "market_data" (some stale.isEmpty)
        (Text.lit "every quote is newer than " ++ Text.num ctx.marketDataMaxAgeSeconds ++
          Text.lit "s")
        (Text.lit "stale or undated quote for: " ++ listed stale),
      check "market_open" "market_data" (some closed.isEmpty)
        (Text.lit "every symbol's market is open")
        (Text.lit "market not confirmed open for: " ++ listed closed),
      check "quotes_not_crossed" "market_data" (some crossed.isEmpty) (Text.lit "no crossed quote")
        (Text.lit "ask below bid for: " ++ listed crossed),
      check "spread_within_limit" "market_data" (some wide.isEmpty)
        (Text.lit "every spread is inside its configured limit")
        (Text.lit "spread over limit for: " ++ listed wide) ]

def approvedStrategy (s : StrategyLock) : Bool :=
  ["approved", "active", "live"].contains s.status.toLower

def strategy : List Check :=
  let strategies (p : StrategyLock → Bool) : List String :=
    (ctx.strategies.filter p).map StrategyLock.strategyId
  let unapproved := strategies fun s => !approvedStrategy s
  let unpinned := strategies fun s => s.versionId = "" || s.fingerprint.getD "" = ""
  let unprotected := strategies fun s => !(s.hasStop && s.hasTarget)
  if ctx.strategies.isEmpty then
    [("strategy_authorised", "no strategy is authorised for live trading"),
      ("strategy_version_locked", "no strategy, so no version is locked"),
      ("strategy_has_protection", "no strategy, so no stop or target was checked")].map
        fun (name, detail) =>
          { name, verdict := .failed, detail := Text.lit detail, group := "strategy" }
  else
    [ check "strategy_authorised" "strategy" (some unapproved.isEmpty)
        (Text.num ctx.strategies.length ++ Text.lit " strategy/strategies approved for live")
        (Text.lit "not approved: " ++ listed unapproved),
      check "strategy_version_locked" "strategy" (some unpinned.isEmpty)
        (Text.lit "every live strategy is pinned to a version and a fingerprint")
        (Text.lit "no version or fingerprint for: " ++ listed unpinned),
      check "strategy_has_protection" "strategy" (some unprotected.isEmpty)
        (Text.lit "every live strategy defines a stop and a target")
        (Text.lit "missing stop or target: " ++ listed unprotected ++
          Text.lit "; a position that cannot be protected must not be entered") ]

def approvedModel (m : ModelLock) : Bool :=
  ["promoted", "approved", "active"].contains m.status.toLower

def ai : List Check :=
  let models (p : ModelLock → Bool) : List String := (ctx.models.filter p).map ModelLock.modelId
  let unapproved := models fun m => !approvedModel m
  let unpinned := models fun m => m.version = "" || m.fingerprint.getD "" = ""
  if !ctx.aiEnabled then
    [{ name := "ai_seat_configured", verdict := .passed, group := "ai"
       detail := Text.lit ("the AI seat is disabled; no opinion is not approval, and the " ++
        "deterministic path is unaffected") }]
  else
    [ check "ai_model_present" "ai" (some !ctx.models.isEmpty)
        (Text.num ctx.models.length ++ Text.lit " model(s) supplied")
        (Text.lit "the AI seat is enabled but no model was supplied"),
      check "ai_model_approved" "ai" (some (!ctx.models.isEmpty && unapproved.isEmpty))
        (Text.lit "every model is approved")
        (Text.lit "not approved: " ++
          (listed unapproved).orElse (Text.lit "no model supplied")),
      check "ai_model_version_locked" "ai" (some (!ctx.models.isEmpty && unpinned.isEmpty))
        (Text.lit "every model is pinned to a version and a fingerprint")
        (Text.lit "no version or fingerprint for: " ++
          (listed unpinned).orElse (Text.lit "no model supplied")),
      stated "ai_fallback_defined" "ai" (ctx.fact .aiFallbackDefined)
        "a deterministic fallback is defined for model unavailability"
        ("no fallback is defined; an unavailable model must not stop the deterministic path, " ++
          "and must never widen it either") ]

def risk : List Check :=
  let missing := (ctx.capital.map CapitalLimits.missing).getD []
  [ stated "risk_engine_healthy" "risk" (ctx.fact .riskEngineHealthy)
      "the RiskEngine answered and is the final veto"
      ("the RiskEngine is not available; with no engine there is no approval, and with no " ++
        "approval there is no order"),
    stated "risk_limits_configured" "risk" (ctx.fact .riskLimitsConfigured)
      "risk limits are configured for the account"
      "no risk limits are configured; an unset limit is an unenforced one",
    check "capital_limits_configured" "risk" (ctx.capital.map fun _ => missing.isEmpty)
      (Text.lit "every approved capital limit is set")
      (Text.lit "capital limits not set: " ++ listed missing)
      (some (Text.lit ("no capital limits were supplied; the approved budget must be explicit " ++
        "before it can be enforced"))),
    stated "kill_switches_available" "risk" (ctx.fact .killSwitchesAvailable)
      "kill switches are reachable at global, account and strategy scope"
      "kill switches are not reachable",
    check "no_kill_switch_engaged" "risk" (some ctx.killSwitchEngaged.isNone)
      (Text.lit "no kill switch is engaged")
      (Text.lit "kill switch engaged: " ++ Text.lit (ctx.killSwitchEngaged.getD "None")) ]

def counted (name : String) (count : Option ℤ) (yes no unknown : String) : Check :=
  check name "execution" (count.map fun n => n = 0) (Text.lit yes)
    (Text.num? (count.map fun n => (n : ℚ)) ++ Text.lit no) (some (Text.lit unknown))

def execution : List Check :=
  [ stated "position_sizer_healthy" "execution" (ctx.fact .positionSizerHealthy)
      "the position sizer answered" "the position sizer is not available",
    stated "oms_healthy" "execution" (ctx.fact .omsHealthy)
      "the OMS answered and holds the only path to a venue" "the OMS is not available",
    stated "position_manager_healthy" "execution" (ctx.fact .positionManagerHealthy)
      "the position manager answered" "the position manager is not available",
    counted "no_unresolved_orders" (ctx.count .unresolvedOrders) "no unresolved order"
      (" unresolved order(s); an order the venue may be holding makes a new one a second order " ++
        "waiting to happen")
      ("unresolved orders were not counted; an order the venue may be holding makes a new one a " ++
        "second order waiting to happen"),
    counted "no_unknown_order_states" (ctx.count .unknownOrders) "no order in unknown state"
      " order(s) in unknown state; these are settled by reconciliation, never by a retry"
      ("orders in unknown state were not counted; these are settled by reconciliation, never by " ++
        "a retry"),
    stated "positions_reconciled" "execution" (ctx.fact .positionsReconciled)
      "internal positions agree with the venue"
      "positions do not agree with the venue, or were not compared",
    stated "orders_reconciled" "execution" (ctx.fact .ordersReconciled)
      "internal orders agree with the venue"
      "orders do not agree with the venue, or were not compared",
    counted "no_unexpected_positions" (ctx.count .unexpectedPositions)
      "the venue holds nothing the platform does not know about"
      (" position(s) at the venue that the platform does not know about; these are flagged for " ++
        "a person, never closed or adopted automatically")
      ("the venue's positions were not compared against the platform's; an unexpected position " ++
        "is flagged for a person, never closed or adopted") ]

def platform : List Check :=
  [ stated "safe_mode_clear" "platform" ((ctx.fact .safeModeEngaged).map not)
      "safe mode is not engaged"
      "safe mode is engaged; it is released by reconciling, not by activating",
    stated "recovery_available" "platform" (ctx.fact .recoveryAvailable)
      "the recovery manager is available" "the recovery manager is not available",
    stated "monitoring_active" "platform" (ctx.fact .monitoringActive) "monitoring is collecting"
      ("monitoring is not collecting; a live session nobody is watching is one whose first " ++
        "failure is discovered from the balance"),
    stated "database_healthy" "platform" (ctx.fact .databaseHealthy) "the database answered"
      "the database did not answer; order state must be durable before a venue is called",
    stated "redis_healthy" "platform" (ctx.fact .redisHealthy) "Redis answered"
      "Redis did not answer",
    stated "workers_healthy" "platform" (ctx.fact .workersHealthy)
      "the background workers are running"
      ("the background workers are not running; execution does not happen in the browser and " ++
        "does not happen in the HTTP request"),
    stated "audit_logging_active" "platform" (ctx.fact .auditLoggingActive)
      "audit logging is active"
      "audit logging is not active; an unrecorded activation is one nobody can be asked about",
    stated "step_up_required" "platform" (ctx.fact .stepUpRequired)
      "step-up re-authentication is in force for dangerous actions"
      "STEP_UP_REQUIRED is false; activation would rest on a session cookie",
    check "notifications_healthy" "platform" (ctx.fact .notificationsHealthy)
      (Text.lit "notification delivery is configured and healthy")
      (Text.lit ("notification delivery is not healthy; alerts may not arrive, but trading " ++
        "safety does not depend on them"))
      (some (Text.lit "notification delivery state was not supplied")) false,
    check "release_stamped" "platform" (ctx.fact .releaseStamped)
      (Text.lit "the running image carries a commit and a build time")
      (Text.lit ("the running image is not stamped; a release you cannot identify is one you " ++
        "cannot roll back to"))
      (some (Text.lit "release stamping state was not supplied")) false ]

def evaluate : GateReport where
  checks :=
    configuration repr ctx ++ account repr ctx ++ venue repr ctx ++ marketData ctx ++
      strategy ctx ++ ai ctx ++ risk ctx ++ execution ctx ++ platform ctx
  generatedAt := ctx.now

end LiveTradingGate

end TradeResearch.Live
