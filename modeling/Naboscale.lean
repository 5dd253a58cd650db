import Naboscale.Rust.Method
import Naboscale.Rust.Bytes
import Naboscale.Crypto.Primitives
import Naboscale.Transition
import Naboscale.Crypto.Basic
import Naboscale.Crypto.Transport
import Naboscale.Crypto.Handshake
import Naboscale.Crypto.HandshakeSpec
import Naboscale.Tunnel.Session
import Naboscale.Tunnel.Manager
import Naboscale.Crypto.Symbolic
import Naboscale.Crypto.Channel
import Naboscale.Tunnel.Changes
import Naboscale.Tunnel.Gate
import Naboscale.Tunnel.Upkeep
import Naboscale.Tunnel.Dispatch
import Naboscale.Tunnel.Runs
import Naboscale.Tunnel.Panics
import Naboscale.Tunnel.Identity
import Naboscale.Tunnel.Responses
import Naboscale.Tunnel.Replay
import Naboscale.Concurrent
import Naboscale.Coord.RateLimit
import Naboscale.Table
import Naboscale.Coord.Database
import Naboscale.Coord.IpAllocator
import Naboscale.Coord.Routes
import Naboscale.Ledger
import Naboscale.Coord.Handlers
import Naboscale.Coord.Server
import Naboscale.Coord.Addresses
import Naboscale.Coord.Parties
import Naboscale.Coord.Tokens
import Naboscale.Renewal
import Naboscale.Coord.Refresh
import Naboscale.Tunnel.Errors
import Naboscale.Index
import Naboscale.Rust.Frame
import Naboscale.Tunnel.Routes
import Naboscale.Tunnel.Relayed
import Naboscale.Cli.Up
import Naboscale.Cli.Daemon
import Naboscale.Cli.Mesh
import Naboscale.Cli.Owners
import Naboscale.Cli.Roles
import Naboscale.Cli.Delivery
import Naboscale.Cli.Client
import Naboscale.Coord.Journal
import Naboscale.Coord.Replays
import Naboscale.Crypto.Acceptance
import Naboscale.Crypto.Link
import Naboscale.Crypto.RoundTrip
import Naboscale.Tunnel.EndToEnd
import Naboscale.Tunnel.Admission
import Naboscale.Tunnel.Flood
import Naboscale.Tunnel.Lockout
import Naboscale.Tunnel.Stalled
import Naboscale.Tunnel.Recovery
import Naboscale.Cli.Agreement
import Naboscale.Cli.Commands
import Naboscale.Cli.Listings
import Naboscale.Coord.Statements
import Naboscale.Tunnel.Rejection
import Naboscale.Tunnel.Sources
import Naboscale.Cli.Lifetime
import Naboscale.Cli.Races
import Naboscale.Rust.Log
import Naboscale.Tunnel.Freshness
import Naboscale.Coord.Leaks
import Naboscale.Coord.Holder
import Naboscale.Tunnel.Isolation
import Naboscale.Crypto.Window
import Naboscale.Coord.Checks
import Naboscale.Tunnel.Authors
import Naboscale.Tunnel.Maintenance
import Naboscale.Cli.Heartbeat
import Naboscale.Cli.Init
import Naboscale.Tunnel.Pair
import Naboscale.Crypto.Reuse
import Naboscale.Crypto.Counter
import Naboscale.Cli.SessionIds
import Naboscale.Rust.Budget
import Naboscale.Tunnel.Traffic
import Naboscale.Tunnel.Loops
import Naboscale.Crypto.Completion
import Naboscale.Tunnel.Waiting
import Naboscale.Tunnel.Bringup
import Naboscale.Cli.Startup
import Naboscale.Marks
import Naboscale.Tunnel.Pacing
import Naboscale.Coord.Authority
import Naboscale.Rust.Json
import Naboscale.Coord.Wire
import Naboscale.Cli.Wire
import Naboscale.Refinement
import Naboscale.Cli.StateFile
import Naboscale.Coord.Availability
import Naboscale.Upgrade
import Naboscale.Coord.Schema
import Naboscale.Coord.Records
import Naboscale.Cli.Routines
import Naboscale.Cli.Enrolment
