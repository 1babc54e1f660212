import CopySync.Address
import CopySync.Android.Capture
import CopySync.Android.Delivery
import CopySync.Android.Inbound
import CopySync.Android.Outbound
import CopySync.Android.Privacy
import CopySync.Android.Secrecy
import CopySync.Android.SyncService
import CopySync.Android.Wire
import CopySync.Client.E2e
import CopySync.Client.Privacy
import CopySync.Copyctl.Run
import CopySync.Desktop.Agent
import CopySync.Desktop.Attribution
import CopySync.Desktop.Docket
import CopySync.Desktop.Downloads
import CopySync.Desktop.Echo
import CopySync.Desktop.EchoRing
import CopySync.Desktop.Engine
import CopySync.Desktop.History
import CopySync.Desktop.HoldRing
import CopySync.Desktop.Inbox
import CopySync.Desktop.Ipc
import CopySync.Desktop.Machine
import CopySync.Desktop.Plan
import CopySync.Desktop.Polling
import CopySync.Desktop.Privacy
import CopySync.Desktop.Protocol
import CopySync.Desktop.Retention
import CopySync.Desktop.Ring
import CopySync.Desktop.Roster
import CopySync.Desktop.Secrecy
import CopySync.Desktop.Serving
import CopySync.Desktop.Telemetry
import CopySync.Desktop.Turn
import CopySync.Desktop.Uploads
import CopySync.Desktop.Watcher
import CopySync.Desktop.Wire
import CopySync.Foundation.Clock
import CopySync.Foundation.Custody
import CopySync.Foundation.Expiry
import CopySync.Foundation.Fifo
import CopySync.Foundation.FileName
import CopySync.Foundation.Files
import CopySync.Foundation.Framing
import CopySync.Foundation.GoJson
import CopySync.Foundation.History
import CopySync.Foundation.Holdings
import CopySync.Foundation.IdTable
import CopySync.Foundation.Json
import CopySync.Foundation.Latest
import CopySync.Foundation.Mailbox
import CopySync.Foundation.NameIndex
import CopySync.Foundation.OrderedMap
import CopySync.Foundation.Parties
import CopySync.Foundation.Path
import CopySync.Foundation.PlatformPath
import CopySync.Foundation.Recoding
import CopySync.Foundation.Tiling
import CopySync.Foundation.TokenBucket
import CopySync.Foundation.Transition
import CopySync.Foundation.Unicode
import CopySync.Foundation.Unwinding
import CopySync.Foundation.Utf16
import CopySync.Foundation.Utf8
import CopySync.Foundation.Waiters
import CopySync.Foundation.Window
import CopySync.Interop.Classifiers
import CopySync.Interop.Confidentiality
import CopySync.Interop.Frames
import CopySync.Interop.Integrity
import CopySync.Interop.Network
import CopySync.Interop.Origins
import CopySync.Interop.RelayedClips
import CopySync.Interop.TextDelivery
import CopySync.Interop.Traffic
import CopySync.Server.Admin.Announcements
import CopySync.Server.Admin.Console
import CopySync.Server.Admin.Departures
import CopySync.Server.Admin.Effect
import CopySync.Server.Admin.Enrollment
import CopySync.Server.Admin.Guesses
import CopySync.Server.Admin.Housekeeping
import CopySync.Server.Admin.InForce
import CopySync.Server.Admin.Mediation
import CopySync.Server.Admin.Routes
import CopySync.Server.Admin.Sessions
import CopySync.Server.Admin.Warrants
import CopySync.Server.Blob.Disk
import CopySync.Server.Blob.GC
import CopySync.Server.Blob.Pass
import CopySync.Server.Blob.Path
import CopySync.Server.Blob.Pull
import CopySync.Server.Blob.Retention
import CopySync.Server.Blob.Sweep
import CopySync.Server.Blob.Upload
import CopySync.Server.Blob.Wakeup
import CopySync.Server.Hub.Basic
import CopySync.Server.Hub.Frame
import CopySync.Server.Hub.Handlers
import CopySync.Server.Hub.Monitor
import CopySync.Server.Identity
import CopySync.Server.Lifetimes
import CopySync.Server.PairClaims
import CopySync.Server.Privacy
import CopySync.Server.RateLimit
import CopySync.Server.Relay.Access
import CopySync.Server.Relay.Authorization
import CopySync.Server.Relay.Blank
import CopySync.Server.Relay.Claims
import CopySync.Server.Relay.Collect
import CopySync.Server.Relay.Connections
import CopySync.Server.Relay.Conservation
import CopySync.Server.Relay.Custody
import CopySync.Server.Relay.Deletion
import CopySync.Server.Relay.Delivery
import CopySync.Server.Relay.Effect
import CopySync.Server.Relay.Enrollment
import CopySync.Server.Relay.Inversion
import CopySync.Server.Relay.Machine
import CopySync.Server.Relay.Names
import CopySync.Server.Relay.Order
import CopySync.Server.Relay.Persistence
import CopySync.Server.Relay.Pins
import CopySync.Server.Relay.Presence
import CopySync.Server.Relay.Provenance
import CopySync.Server.Relay.Registry
import CopySync.Server.Relay.Routing
import CopySync.Server.Relay.Secrecy
import CopySync.Server.Relay.Settings
import CopySync.Server.Relay.Unseen
import CopySync.Server.Rotation.Lockout
import CopySync.Server.Rotation.Machine
import CopySync.Server.Rotation.Phases
import CopySync.Server.Store.Basic
import CopySync.Server.Store.Blobs
import CopySync.Server.Store.Fifo
import CopySync.Server.Store.Pairing
import CopySync.Server.Store.Queue
import CopySync.Server.Store.Tokens
import CopySync.Server.Throttle
import CopySync.Server.Thumbnail
import CopySync.Server.Types
import CopySync.Server.WebUI
import CopySync.Server.Wire
