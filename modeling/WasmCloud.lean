import WasmCloud.Lib.Attempt
import WasmCloud.Lib.Bytes
import WasmCloud.Lib.Checks
import WasmCloud.Lib.Commit
import WasmCloud.Lib.JsonText
import WasmCloud.Lib.Lease
import WasmCloud.Lib.Lines
import WasmCloud.Lib.MultiMap
import WasmCloud.Lib.Orbit
import WasmCloud.Lib.OrdTable
import WasmCloud.Lib.RevCell
import WasmCloud.Lib.Roster
import WasmCloud.Lib.Run
import WasmCloud.Lib.Tally
import WasmCloud.Lib.Text
import WasmCloud.Lib.TokenBucket
import WasmCloud.Lib.UriText
import WasmCloud.Gateway.Authz
import WasmCloud.Gateway.BodyLimit
import WasmCloud.Gateway.CircuitBreaker
import WasmCloud.Gateway.ClientIp
import WasmCloud.Gateway.Config
import WasmCloud.Gateway.EastWest
import WasmCloud.Gateway.External
import WasmCloud.Gateway.Forwarding
import WasmCloud.Gateway.Http
import WasmCloud.Gateway.Internal
import WasmCloud.Gateway.Manifest
import WasmCloud.Gateway.Names
import WasmCloud.Gateway.Outcomes
import WasmCloud.Gateway.Roles
import WasmCloud.Gateway.RouteBreaker
import WasmCloud.Gateway.Transform
import WasmCloud.Storage.Collect
import WasmCloud.Storage.Lifecycle
import WasmCloud.Storage.Migrations
import WasmCloud.Storage.Redeploy
import WasmCloud.Storage.Retention
import WasmCloud.Storage.Runnable
import WasmCloud.Storage.Store
import WasmCloud.Messaging.Delivery
import WasmCloud.Messaging.NatsHealth
import WasmCloud.Routing.HostRouter
import WasmCloud.Routing.LongestPrefix
import WasmCloud.Routing.NodeHealth
import WasmCloud.Routing.Rebuild
import WasmCloud.Routing.Removal
import WasmCloud.Routing.RoundRobin
import WasmCloud.Routing.Steered
import WasmCloud.Routing.Steering
import WasmCloud.Routing.Stripped
import WasmCloud.Routing.UpstreamHealth
import WasmCloud.Billing.Export
import WasmCloud.Billing.Omissions
import WasmCloud.Billing.Queries
import WasmCloud.Billing.Record
import WasmCloud.Billing.Report
import WasmCloud.Billing.Shutdown
import WasmCloud.Billing.Store
import WasmCloud.Billing.Writer
import WasmCloud.Artifact.Contents
import WasmCloud.Artifact.Fetch
import WasmCloud.Artifact.Manifest
import WasmCloud.Artifact.Pinned
import WasmCloud.Artifact.Server
import WasmCloud.Supervisor.Budget
import WasmCloud.Supervisor.Conservation
import WasmCloud.Supervisor.Demand
import WasmCloud.Supervisor.Discovery
import WasmCloud.Supervisor.Fleet
import WasmCloud.Supervisor.Idle
import WasmCloud.Supervisor.PolicyExport
import WasmCloud.Supervisor.Ports
import WasmCloud.Supervisor.Restore
import WasmCloud.Supervisor.Rollout
import WasmCloud.Supervisor.SocketCheck
import WasmCloud.Supervisor.Sockets
import WasmCloud.Supervisor.Ticks
import WasmCloud.Supervisor.Undeploy
import WasmCloud.Supervisor.Workers
import WasmCloud.Runtime.MemoryLimiter
import WasmCloud.Runtime.OpenConnections
import WasmCloud.Runtime.Reservations
import WasmCloud.Monitor.Callers
import WasmCloud.Monitor.NamespaceMap
import WasmCloud.Monitor.Pressure
import WasmCloud.Monitor.Threads
import WasmCloud.Node.ApiKeys
import WasmCloud.Node.Bootstrap
import WasmCloud.Node.DnsStub
import WasmCloud.Node.HotConfig
import WasmCloud.Node.Policy
import WasmCloud.Node.Release
import WasmCloud.Node.Secrets
import WasmCloud.Node.Upgrade
import WasmCloud.Ingress.Intent
import WasmCloud.Ingress.Leader
import WasmCloud.Ingress.Replication
import WasmCloud.Ingress.Signature
import WasmCloud.Secrets.Provider
import WasmCloud.Secrets.Updates
import WasmCloud.Limits.Admission
import WasmCloud.Limits.Cluster
import WasmCloud.Limits.Pruning
import WasmCloud.Limits.Quota
import WasmCloud.Limits.RouteLimits
