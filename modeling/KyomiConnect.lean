import KyomiConnect.ExecutorAnswers
import KyomiConnect.CatalogAccounting
import KyomiConnect.RefreshSoundness
import KyomiConnect.WireRoundTrip
import KyomiConnect.Lib.Chunking
import KyomiConnect.Lib.Loop
import KyomiConnect.ChunkedStreams
import KyomiConnect.SnowflakeStatements
import KyomiConnect.BufferedRows
import KyomiConnect.RemotePaging
import KyomiConnect.ClickHouseExecutions
import KyomiConnect.Listings
import KyomiConnect.CatalogCompleteness
import KyomiConnect.Lib.SqlText
import KyomiConnect.NoexecConnection
import KyomiConnect.Lib.Noexec
import KyomiConnect.StatementsSent
import KyomiConnect.WsSession
import KyomiConnect.JobLifeCycles
import KyomiConnect.WrappedResults
import KyomiConnect.JsonCells
import KyomiConnect.ClickHouseCells
import KyomiConnect.RestCells
import KyomiConnect.CanonicalQuery
import KyomiConnect.SetupWizard
import KyomiConnect.ServiceEnvironment
import KyomiConnect.TemporaryCredentials
import KyomiConnect.PageLoops
import KyomiConnect.ResumedJobs
import KyomiConnect.TdsColumns
import KyomiConnect.Lib.Nesting
import KyomiConnect.OrderByDepth
import KyomiConnect.TsqlPaging
import KyomiConnect.SelectBounds
import KyomiConnect.RevokedGrants
import KyomiConnect.ExpiryRanges
import KyomiConnect.ErrorPositions
import KyomiConnect.ExplainedPositions
import KyomiConnect.PgIntervals
import KyomiConnect.TypeWrappers
import KyomiConnect.TypeParameters
import KyomiConnect.Lib.Terminated
import KyomiConnect.ProxyRequests
import KyomiConnect.Lib.Copying
import KyomiConnect.ForwardedConnections
import KyomiConnect.CatalogLiterals
import KyomiConnect.BranchPreservation
import KyomiConnect.StrandedMarkers
import KyomiConnect.Readiness
import KyomiConnect.BrowserToken
import KyomiConnect.ReceivedAnswers
import KyomiConnect.ReceivedPages
import KyomiConnect.SignedRequests
import KyomiConnect.MarkerCreation
import KyomiConnect.BranchRelease
import KyomiConnect.GitListings
