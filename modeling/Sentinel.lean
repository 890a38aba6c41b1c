import Sentinel.App.Bootstrap
import Sentinel.App.Logging
import Sentinel.App.Startup
import Sentinel.Chain
import Sentinel.ChunkText
import Sentinel.Handlers.Admin.Authorization
import Sentinel.Handlers.FollowByText
import Sentinel.Handlers.MenuRuns
import Sentinel.Handlers.Migration
import Sentinel.Handlers.Subscriptions
import Sentinel.Handlers.Tracking
import Sentinel.Jobs
import Sentinel.Modules.Adapters
import Sentinel.Modules.AggregationResults
import Sentinel.Modules.Curated.BondCurves
import Sentinel.Modules.Curated.OperatorGroups
import Sentinel.Modules.DistributionReports
import Sentinel.Modules.Formatting
import Sentinel.Modules.OperatorChanges
import Sentinel.Modules.OperatorLease
import Sentinel.Paging
import Sentinel.Rpc.ChainValidation
import Sentinel.Rpc.DeliveryRuns
import Sentinel.Rpc.FailoverCalls
import Sentinel.Rpc.FailoverCharges
import Sentinel.Rpc.FailoverErrors
import Sentinel.Rpc.FailoverGenerations
import Sentinel.Services.AggregationInvariant
import Sentinel.Services.DepositDigests
import Sentinel.Services.Digest
import Sentinel.Services.ModuleRuntime
import Sentinel.StallAlerts
import Sentinel.Storage.Migrations
import Sentinel.Storage.RuntimeIdentity
import Sentinel.Supervisor.CatchUp
import Sentinel.Supervisor.Checkpoint
import Sentinel.Supervisor.Once
import Sentinel.Supervisor.Ownership
import Sentinel.Supervisor.Readiness
import Sentinel.Supervisor.StartFromHead
import Sentinel.Supervisor.Waiters
import Sentinel.Tiles
