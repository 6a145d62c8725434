import PaladinsCat.Interleaving
import PaladinsCat.KeyedList
import PaladinsCat.Text
import PaladinsCat.Binary64
import PaladinsCat.Grouping
import PaladinsCat.KeyPool
import PaladinsCat.KeyPoolPrograms
import PaladinsCat.KeySelection
import PaladinsCat.KeyAvailability
import PaladinsCat.Revival
import PaladinsCat.EstimateRevival
import PaladinsCat.UsageLedger
import PaladinsCat.ReloadLedger
import PaladinsCat.Upstream
import PaladinsCat.HirezClient
import PaladinsCat.RequestCourse
import PaladinsCat.KeyFaults
import PaladinsCat.RequestAccounting
import PaladinsCat.RowErrors
import PaladinsCat.SessionCache
import PaladinsCat.SingleFlight
import PaladinsCat.Relay
import PaladinsCat.QuotaRotation
import PaladinsCat.MatchDetails
import PaladinsCat.JsValues
import PaladinsCat.MatchRows
import PaladinsCat.MatchPartition
import PaladinsCat.DatabaseRows
import PaladinsCat.Resolver
import PaladinsCat.BatchResolution
import PaladinsCat.CompleteRosters
import PaladinsCat.CacheOrder
import PaladinsCat.RowConsensus
import PaladinsCat.BackendStore
import PaladinsCat.Rating
import PaladinsCat.Projections
import PaladinsCat.MatchLifecycle
import PaladinsCat.BackendPrograms
import PaladinsCat.GapRepair
import PaladinsCat.FactUpserts
import PaladinsCat.DrainTally
import PaladinsCat.LimitedDrain
import PaladinsCat.BackendFootprints
import PaladinsCat.RatingLedger
import PaladinsCat.RatingEligibility
import PaladinsCat.RebuildPhases
import PaladinsCat.RebuildRequests
import PaladinsCat.ProjectionLedgers
import PaladinsCat.RowSteps
import PaladinsCat.RankedStages
import PaladinsCat.Completion
import PaladinsCat.LifecycleTables
import PaladinsCat.Classification
import PaladinsCat.Leases
import PaladinsCat.RelayPayload
import PaladinsCat.SqlLogic
import PaladinsCat.HourLedger
import PaladinsCat.HourOperations
import PaladinsCat.HourPrograms
import PaladinsCat.HourDrains
import PaladinsCat.HourPhases
import PaladinsCat.HourSteps
import PaladinsCat.HourSearch
import PaladinsCat.HourFinish
import PaladinsCat.HourExclusion
import PaladinsCat.Deployment
import PaladinsCat.RequestDrain
import PaladinsCat.ProfileRefresh
import PaladinsCat.ProfileEnrichment
import PaladinsCat.Coordination
import PaladinsCat.SchedulerOwnership
import PaladinsCat.JobLeases
import PaladinsCat.RawBuffer
import PaladinsCat.RowCustody
import PaladinsCat.RootForest
import PaladinsCat.IdentityScore
import PaladinsCat.PrivateIdentity
import PaladinsCat.IdentityLinks
import PaladinsCat.IdentityTimeline
import PaladinsCat.Ensures
import PaladinsCat.HourClosing
import PaladinsCat.GapRecovery
import PaladinsCat.ViewCounts
import PaladinsCat.Transactions
import PaladinsCat.LikeToggles
import PaladinsCat.OidcTransactions
import PaladinsCat.OidcAdmission
import PaladinsCat.LinkLimits
import PaladinsCat.PlayerLinks
import PaladinsCat.ClientAddress
import PaladinsCat.RemoteLookup
import PaladinsCat.HistoryRows
import PaladinsCat.Json
import PaladinsCat.JsonParser
import PaladinsCat.JsonCleaning
import PaladinsCat.Decimal
import PaladinsCat.NumericDecoding
import PaladinsCat.FormUrlencoded
import PaladinsCat.RouteCache
import PaladinsCat.RouteKeys
import PaladinsCat.Ranking
import PaladinsCat.PrivateSlots
import PaladinsCat.IdentitySoundness
import PaladinsCat.AdaptiveBisection
import PaladinsCat.LifecyclePlans
import PaladinsCat.HourlyCounts
import PaladinsCat.OrderStatistics
import PaladinsCat.PerformanceStats
import PaladinsCat.ConflictInserts
import PaladinsCat.PartyLedger
import PaladinsCat.ItemLevels
import PaladinsCat.HistoryEntries
import PaladinsCat.Regex
import PaladinsCat.DeveloperApi
import PaladinsCat.PlayerLevels
import PaladinsCat.RoleClasses
import PaladinsCat.CookieSessions
import PaladinsCat.CronMatching
import PaladinsCat.DrainWaiter
import PaladinsCat.RateLimits
import PaladinsCat.SyntheticNames
import PaladinsCat.CivilTime
import PaladinsCat.RefreshCooldowns
import PaladinsCat.ProfileWriters
import PaladinsCat.Base64Url
import PaladinsCat.KeysetPaging
import PaladinsCat.PresenceDetails
import PaladinsCat.SqlSessions
import PaladinsCat.Migrations
import PaladinsCat.MigrationSteps
import PaladinsCat.MigrationHistory
import PaladinsCat.MigrationCompletion
import PaladinsCat.Ownership
import PaladinsCat.OwnerLease
import PaladinsCat.OwnerLeaseSteps
import PaladinsCat.OwnerLeaseRuns
import PaladinsCat.OwnerLeaseRecovery
