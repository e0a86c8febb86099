import QuantApp.Services.EmergencyLeaseAllowance
import QuantApp.Services.EmergencySellSafety
import QuantApp.Services.PersistableOrders
import QuantApp.Services.RowOrder
import QuantApp.Services.SubmissionFaithful
import QuantApp.Services.EntryExposure
import QuantApp.Services.ReconciliationRuns
import QuantApp.Services.BreachDelivery
import QuantApp.Services.CoalescingAgrees
import QuantApp.Services.StopNeverWidens
import QuantApp.Services.OrderLookupRuns
import QuantApp.Services.PortfolioLimitRuns
import QuantApp.Services.DocumentHistories
import QuantApp.Services.LeaseEpochs
import QuantApp.Services.OperatorCommandRuns
import QuantApp.Services.OperatorCommandService
import QuantApp.Services.OrderStoreRuns
import QuantApp.Services.StandbyGenerations
import QuantApp.Services.BreachAcknowledgement
import QuantApp.Services.FeedCapacity
import QuantApp.Services.BoardActionRuns
import QuantApp.Services.StickyLiquidation
import QuantApp.Api.KisWebSocketClient
import QuantApp.Core.TransitionInPlace
import QuantApp.Services.CommittedWritesVisible
import QuantApp.Services.OrderDiscovery
import QuantApp.Utils.FileLock
import QuantApp.Services.AdoptionExclusive
import QuantApp.Services.AlertsCounted
import QuantApp.Services.BrokerOrderIdentity
import QuantApp.Services.CumulativeSettlement
import QuantApp.Services.EntryCapital
import QuantApp.Services.EntryFinality
import QuantApp.Services.HoldingsAllocation
import QuantApp.Services.MutationRuns
import QuantApp.Services.CancelMerges
import QuantApp.Services.ProjectedCommitments
import QuantApp.Services.EntrySubmission
import QuantApp.Services.EventOrder
import QuantApp.Services.ChannelRecovery
import QuantApp.Services.CoordinatedStops
import QuantApp.Services.BuyTodayExpiry
import QuantApp.Services.CancelMarkers
import QuantApp.Services.EntryIdentities
import QuantApp.Services.RecordCorrelation
import QuantApp.Services.SchemaMigration
import QuantApp.Services.PlanningMembership
import QuantApp.Utils.HolidayRule
import QuantApp.Api.ReconnectBackoff
import QuantApp.Services.CardSnapshotRuns
import QuantApp.Services.LedgerReload
