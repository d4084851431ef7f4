import Router1.Keenetic.Interfaces
import Router1.Keenetic.Routing
import Router1.Keenetic.Setup
import Router1.Keenetic.Router
import Router1.Keenetic.Exchanges
import Router1.Keenetic.Batches
import Router1.Keenetic.Switching
import Router1.Keenetic.Rollback
import Router1.Keenetic.History
import Router1.Keenetic.AiTraffic
import Router1.App.Shell
import Router1.Remote.Runs
import Router1.App.ConfigOwner
import Router1.App.Payment
import Router1.Failover.Controller
import Router1.Failover.Windows
import Router1.Failover.Android
import Router1.Remote.Pacing
import Router1.Failover.Cooldown
import Router1.Failover.Agreement
import Router1.App.Startup
import Router1.App.Navigation
import Router1.App.Entitlement
import Router1.App.Progress
import Router1.App.RouterWatch
import Router1.App.FailoverAttempts
import Router1.Failover.Disconnect
import Router1.Keenetic.Atomicity
import Router1.Keenetic.Shapes
import Router1.Keenetic.Records
import Router1.Keenetic.Standby
import Router1.Remote.Passes
import Router1.Remote.Rely
import Router1.Keenetic.Interleaving
import Router1.Failover.Evaluations
import Router1.Failover.WindowsService
import Router1.Failover.WindowsStatus
import Router1.Failover.MethodChannel
import Router1.Failover.Restarts
import Router1.Keenetic.Neighbours
import Router1.Dart.LinkedMap
import Router1.Dart.Value
import Router1.Keenetic.Redaction
import Router1.App.Purchase
import Router1.Dart.JsonText
import Router1.Api.FailoverBundle
import Router1.Failover.BundleCache
import Router1.App.TrialEnd
import Router1.Failover.Activation
import Router1.Keenetic.ConfigSections
import Router1.Dart.Lines
import Router1.Keenetic.ConfigText
import Router1.Keenetic.Undo
import Router1.Keenetic.Conflicts
import Router1.Keenetic.Verification
import Router1.Keenetic.Reports
import Router1.Keenetic.SingleTunnel
import Router1.Dart.Cidr
import Router1.Failover.DefaultRoutes
import Router1.Failover.WindowsConfig
import Router1.Keenetic.Attach
import Router1.Keenetic.HostRoutes
import Router1.Awg.Key
import Router1.Awg.RoundTrip
import Router1.Awg.Userspace
import Router1.Awg.Backend
import Router1.Awg.Statistics
import Router1.Keenetic.Auth
import Router1.Awg.Curve25519
import Router1.Awg.Residues
import Router1.Montgomery.Ladder
import Router1.Montgomery.Points
import Router1.Awg.ScalarMult
import Router1.Primes.Certificate
import Router1.Awg.PublicKey
