import ClusterAccess.Main
import ClusterAccess.Proofs.Api.Addressing
import ClusterAccess.Proofs.Api.Creation
import ClusterAccess.Proofs.Api.Listing
import ClusterAccess.Proofs.Api.Rejections
import ClusterAccess.Proofs.Api.Tokens
import ClusterAccess.Proofs.Pool.Cancellation
import ClusterAccess.Proofs.Pool.Closing
import ClusterAccess.Proofs.Pool.Failure
import ClusterAccess.Proofs.Pool.Ledger
import ClusterAccess.Proofs.Pool.Retries
import ClusterAccess.Proofs.Pool.Secrets
import ClusterAccess.Proofs.Pool.Together
import ClusterAccess.Proofs.Pool.Validated
import ClusterAccess.Proofs.Probe.Bypass
import ClusterAccess.Proofs.Proxy.UserPart
import ClusterAccess.Proofs.Settings.File
import ClusterAccess.Proofs.Socks5.Connect
import ClusterAccess.Proofs.Socks5.Pieces
import ClusterAccess.Proofs.Uri
import ClusterAccess.Rehearsal.Disk
import ClusterAccess.Rehearsal.Site
import ClusterAccess.Proofs.Api.Users
import ClusterAccess.Proofs.Api.Lifetimes
import ClusterAccess.Proofs.Pool.Deadlines
import ClusterAccess.Proofs.Json.Records
import ClusterAccess.Proofs.Json.Lexemes
import ClusterAccess.Proofs.Json.Entries
import ClusterAccess.Proofs.Settings.Partial
import ClusterAccess.Proofs.Api.Shapes
import ClusterAccess.Proofs.Probe.Connections
import ClusterAccess.Proofs.Pool.Orders
import ClusterAccess.Proofs.Api.Verdicts
import ClusterAccess.Proofs.Command.Layering
import ClusterAccess.Proofs.Command.Probing
import ClusterAccess.Proofs.Password
import ClusterAccess.Proofs.Probe.Hosts
