import Fgw.Library.Table
import Fgw.Library.Effect
import Fgw.Library.Fallible
import Fgw.Library.FirstMatch
import Fgw.Library.Runs
import Fgw.Library.Trim
import Fgw.Library.WatchedReads
import Fgw.Library.Quota
import Fgw.Library.Places
import Fgw.Library.PaddedNumbers
import Fgw.Library.SortedSearch
import Fgw.Library.TrailingRun
import Fgw.Library.SharedWrites
import Fgw.Library.Memo
import Fgw.Library.Projection
import Fgw.Library.WeightedChoice
import Fgw.Library.Segments
import Fgw.Library.Scanf
import Fgw.Library.Json
import Fgw.Library.Debounce
import Fgw.Library.Outbox
import Fgw.ScriptValue
import Fgw.ResourcesCore
import Fgw.ResourcesReload
import Fgw.MeshCore
import Fgw.MeshOrder
import Fgw.GatewayCore
import Fgw.UpdatersCore
import Fgw.ModulesCore
import Fgw.ModulesBuild
import Fgw.BackendCache
import Fgw.UpdatersLost
import Fgw.GatewayNotify
import Fgw.RouterHttpCore
import Fgw.RouterHttpSelector
import Fgw.RouterHttpAgreement
import Fgw.RouterHttpConditions
import Fgw.RouterHttpContext
import Fgw.RouterDubboCore
import Fgw.RouterDubboCache
import Fgw.GatewayPorts
import Fgw.GatewayRouters
import Fgw.BackendLinks
import Fgw.SessionCore
import Fgw.SessionCookies
import Fgw.SessionShared
import Fgw.HealthCheckCore
import Fgw.HealthCheckSet
import Fgw.HealthCheckLoop
import Fgw.CircuitBreakCore
import Fgw.CircuitBreakConcurrency
import Fgw.CircuitBreakWatch
import Fgw.CircuitBreakWindow
import Fgw.CircuitBreakOpen
import Fgw.RateLimit
import Fgw.ConcurrencyLimit
import Fgw.ResourcesNotices
import Fgw.GatewayProjection
import Fgw.PolicyCore
import Fgw.PolicyBuild
import Fgw.PolicyInForce
import Fgw.RouterPassthrough
import Fgw.GatewayFlush
import Fgw.PjsTls
import Fgw.PjsDomains
import Fgw.PjsHealthCheck
import Fgw.PjsThrottle
import Fgw.RouterHttpPriority
import Fgw.RouterHttpRetry
import Fgw.RouterDubboPriority
import Fgw.RouterTies
import Fgw.RouterHosts
import Fgw.RouterTls
import Fgw.TerminateTls
import Fgw.HealthCheckCount
import Fgw.PjsHealthCount
import Fgw.HealthCheckMatches
import Fgw.UrlRewrite
import Fgw.PjsCircuitBreaker
import Fgw.BackendConcurrency
import Fgw.HeaderModifier
import Fgw.IPRestriction
import Fgw.DnsModifier
import Fgw.Options
import Fgw.ConfiguredShares
import Fgw.ConfigCommand
import Fgw.PjsForwardCore
import Fgw.PjsRetry
import Fgw.PjsSticky
import Fgw.PjsBreakerQuota
import Fgw.PjsAccessControl
import Fgw.PjsArguments
import Fgw.PjsErrorPage
import Fgw.PjsRoute
import Fgw.PjsPrefixRewrite
import Fgw.Shuffle
import Fgw.ModbusRecords
import Fgw.ModbusReport
import Fgw.RepoClient
import Fgw.GatewayTimer
import Fgw.RouterUpdates
import Fgw.RoutesInForce
import Fgw.LinksInForce
import Fgw.GatewayWedged
import Fgw.IotUploads
import Fgw.IotConfig
import Fgw.PjsCredentials
import Fgw.Tracing
import Fgw.RepoScripts
import Fgw.PjsBodySize
import Fgw.PjsTermination
import Fgw.PjsWebServer
import Fgw.HotReload
import Fgw.RouterListing
import Fgw.PjsRouting
