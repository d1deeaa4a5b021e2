import PullWatch.Database.Edit
import PullWatch.GitHub.Client
import PullWatch.GitHub.Overlap
import PullWatch.GitHub.Script
import PullWatch.Main
import PullWatch.Report.Failure
import PullWatch.Report.Reader
import PullWatch.Discovery.Overlap
import PullWatch.Proofs.Outcome
import PullWatch.Proofs.QueryNames
import PullWatch.Proofs.Schema
import PullWatch.Proofs.Writing
import PullWatch.Proofs.Series
import PullWatch.Proofs.WrittenNames
import PullWatch.Proofs.WrittenRows
import PullWatch.Proofs.Detection
import PullWatch.Proofs.DetectedChanges
import PullWatch.Proofs.Fitting
import PullWatch.Proofs.FittedChanges
import PullWatch.Proofs.Passes
import PullWatch.Proofs.Overlap
import PullWatch.Proofs.Selection
import PullWatch.Proofs.Sessions
import PullWatch.Proofs.Reachable
import PullWatch.Proofs.Pending
import PullWatch.Proofs.HistoryChain
import PullWatch.Proofs.DiscoveryCache
import PullWatch.Proofs.Convergence
import PullWatch.Proofs.Rollback
import PullWatch.Proofs.KeptListings
import PullWatch.Proofs.LooseTime
import PullWatch.Proofs.PolledTimes
import PullWatch.Proofs.ReceivedPages
import PullWatch.Proofs.IncrementalPasses
import PullWatch.Proofs.SerialPasses
import PullWatch.Proofs.Consistency
import PullWatch.Proofs.Ledger
import PullWatch.Proofs.OverlappingLookups
import PullWatch.Proofs.TransparentCache
import PullWatch.Proofs.Dossiers
import PullWatch.Proofs.Pairs
import PullWatch.Proofs.Abreast
import PullWatch.Proofs.PassesAbreast
import PullWatch.Proofs.SessionViews
import PullWatch.Proofs.Visits
import PullWatch.Proofs.Noninterference
import PullWatch.Proofs.Succession
import PullWatch.Proofs.Batches
import PullWatch.Proofs.SessionEndings
import PullWatch.Proofs.SessionPhases
import PullWatch.Proofs.BatchAccounts
import PullWatch.Proofs.Footprint
import PullWatch.Proofs.SessionFootprint
import PullWatch.Proofs.Previews
import PullWatch.Proofs.QuotaUse
import PullWatch.Proofs.Panics
import PullWatch.Proofs.ExactDetection
import PullWatch.Proofs.ExclusiveSessions
import PullWatch.Proofs.Provenance
import PullWatch.Proofs.StoredRecords
import PullWatch.Proofs.Paging
import PullWatch.Proofs.CheckPaging
import PullWatch.Proofs.FailingPages
import PullWatch.Proofs.FailedDiscoveries
import PullWatch.Proofs.RenderedPayloads
import PullWatch.Proofs.OverlappingPasses
import PullWatch.Proofs.LonePasses
import PullWatch.Proofs.TunedSessions
import PullWatch.Proofs.LocalTimes
import PullWatch.Proofs.CacheHistory
import PullWatch.Proofs.PollSelection
import PullWatch.Proofs.FailedSelections
import PullWatch.Proofs.CoherentResults
import PullWatch.Proofs.LookupOrders
import PullWatch.Proofs.Actionability
import PullWatch.Proofs.Reopening
import PullWatch.Proofs.QuotaPauses
import PullWatch.Proofs.QuotaSpacing
