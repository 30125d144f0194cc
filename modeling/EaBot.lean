import EaBot.Agents.DebateTally
import EaBot.Agents.DecisionSoundness
import EaBot.Agents.SynthesisFairness
import EaBot.Agents.SynthesisThreshold
import EaBot.Execution.AcceptedReplies
import EaBot.Execution.ConfirmedPositions
import EaBot.Execution.FanoutGate
import EaBot.Execution.IntentDesk
import EaBot.Execution.Interleaving
import EaBot.Execution.LedgerClosure
import EaBot.Execution.Payload
import EaBot.Execution.ReconciliationReport
import EaBot.Execution.ReconciliationRunner
import EaBot.Execution.RetrySafety
import EaBot.Execution.SignalRollup
import EaBot.Execution.TerminalSizing
import EaBot.Execution.WriteAhead
import EaBot.Learning.EngineV2
import EaBot.Llm.BudgetBalance
import EaBot.Llm.CacheTransparency
import EaBot.Llm.PromptContext
import EaBot.Llm.RoutingPolicy
import EaBot.Monitoring.ChangeEvents
import EaBot.Monitoring.TradeManager
import EaBot.Mt5.ArmingConsent
import EaBot.Mt5.HistoryPaging
import EaBot.Mt5.Probing
import EaBot.Mt5.SymbolCache
import EaBot.Mt5.WriteGuard
import EaBot.Orchestration.CanonicalTrigger
import EaBot.Orchestration.EntryBooks
import EaBot.Orchestration.LevelCompletion
import EaBot.Orchestration.OrderLocator
import EaBot.Orchestration.ReleasedPositions
import EaBot.Orchestration.RiskSizing
import EaBot.Orchestration.SignalIdentity
import EaBot.Orchestration.SignalMachine
import EaBot.Orchestration.SignalRelease
import EaBot.Orchestration.SingleEntry
import EaBot.Orchestration.StaleEvidence
import EaBot.Orchestration.SupervisedCycle
import EaBot.Orchestration.UnreadBook
import EaBot.Paper.PaperAccount
import EaBot.Persistence.IntentReplay
import EaBot.Persistence.ReviewStore
import EaBot.Persistence.SwitchRecovery
import EaBot.Persistence.TradeLedger
import EaBot.Research.Bookkeeping
import EaBot.Research.CostCharges
import EaBot.Research.MonteCarloUnits
import EaBot.Research.PrefixStability
import EaBot.Research.StateReplay
import EaBot.Research.StopRisk
import EaBot.Research.TradeMetrics
import EaBot.Research.WalkForwardSplits
import EaBot.Review.EntryContext
import EaBot.Review.RMultiple
import EaBot.Risk.DependencyBreakers
import EaBot.Risk.HalfOpenTrials
import EaBot.Risk.MultiLevelBreaker
import EaBot.Security.AuditLog
import EaBot.Strategy.ActiveVersions
import EaBot.Strategy.Governance
import EaBot.System.RestartedRisk
import EaBot.Telegram.Poller
import EaBot.Telegram.SignalLifecycle
import EaBot.Trading.DuplicateGuard
import EaBot.Trading.EntryLifecycle
import EaBot.Trading.EventDetector
import EaBot.Trading.FeedRetry
import EaBot.Trading.FormingCandle
import EaBot.Trading.LiveConsistency
import EaBot.Trading.OncePerBar
import EaBot.Trading.OscillatorSymmetry
import EaBot.Trading.ZoneIdentity
import EaBot.Trading.ZoneSides
