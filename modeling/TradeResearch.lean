import TradeResearch.Oms.Accounting
import TradeResearch.Oms.Attribution
import TradeResearch.Oms.Coherence
import TradeResearch.Positions.FailedRead
import TradeResearch.Risk.Unknown
import TradeResearch.Risk.Reserved
import TradeResearch.Execution.Told
import TradeResearch.Execution.Transmission
import TradeResearch.Execution.Recovery
import TradeResearch.Execution.Interleaving
import TradeResearch.Execution.Resend
import TradeResearch.Execution.Durability
import TradeResearch.Positions.Exposure
import TradeResearch.Positions.Ledger
import TradeResearch.Positions.Protection
import TradeResearch.Positions.Closing
import TradeResearch.Risk.Budget
import TradeResearch.Risk.Fence
import TradeResearch.Bots.Pace
import TradeResearch.Bots.Intent
import TradeResearch.Bots.Single
import TradeResearch.Execution.Worker
import TradeResearch.Oms.Modify
import TradeResearch.Oms.Spend
import TradeResearch.Oms.Feed
import TradeResearch.Paper.Portfolio
import TradeResearch.Paper.Trades
import TradeResearch.Recovery.Release
import TradeResearch.Brokers.Reconcile
import TradeResearch.Backtest.Runner
import TradeResearch.Backtest.Accounting
import TradeResearch.Backtest.Refusals
import TradeResearch.Replay.Agreement
import TradeResearch.Replay.Transparency
import TradeResearch.Strategies.SameRule
import TradeResearch.Datasets.TwoRun
import TradeResearch.Datasets.Overlap
import TradeResearch.Webhooks.ExactlyOnce
import TradeResearch.Webhooks.Identity
import TradeResearch.Webhooks.Answers
import TradeResearch.Webhooks.Secrecy
import TradeResearch.Live.FailClosed
import TradeResearch.Journal.Complete
import TradeResearch.Journal.Provenance
import TradeResearch.Tools.TrackRecord
import TradeResearch.Paper.Limits
import TradeResearch.Paper.Switches
import TradeResearch.Paper.Restart
import TradeResearch.Safety.Lifecycle
import TradeResearch.Ai.Deployments
import TradeResearch.Ai.Subtract
import TradeResearch.Oms.Atomic
import TradeResearch.Sizing.Safe
import TradeResearch.Risk.Digest
import TradeResearch.Risk.Kept
import TradeResearch.Risk.Reservations
import TradeResearch.Positions.ScaleOut
import TradeResearch.Positions.StopSide
import TradeResearch.Paper.Gaps
import TradeResearch.Positions.PartClose
import TradeResearch.Marketdata.Forming
import TradeResearch.Symbols.Precision
import TradeResearch.Paper.Execution
import TradeResearch.Paper.Brackets
import TradeResearch.Symbols.Resolution
import TradeResearch.Bots.Limits
import TradeResearch.Execution.Sized
import TradeResearch.Oms.VenueSpec
import TradeResearch.Strategies.Supplied
import TradeResearch.Datasets.Composed
import TradeResearch.Portfolio.Unpartial
import TradeResearch.Portfolio.OpenRisk
import TradeResearch.Analytics.Equity
import TradeResearch.Portfolio.Evidence
import TradeResearch.Portfolio.Horizon
import TradeResearch.Portfolio.Stress
import TradeResearch.Tools.Lots
import TradeResearch.Security.SingleUse
import TradeResearch.Realtime.Events
import TradeResearch.Realtime.Permission
import TradeResearch.Auth.Admins
import TradeResearch.Auth.Reset
import TradeResearch.Auth.RateLimit
import TradeResearch.Ai.Resolution
