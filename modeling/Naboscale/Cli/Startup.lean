import Naboscale.Cli.Agreement
import Naboscale.Cli.Roles
import Naboscale.Tunnel.Bringup

/-!
# Two nodes that start up

From the records that the coordinator lists to sessions that are in sync. Two nodes without a relay
find each other in their listings, make sessions for each other of which the one with the greater key
asks, and one INIT and its RESPONSE bring these up.
-/

namespace Naboscale

open Rust

section General

variable [Profile] [Primitives]

namespace TunnelManager

variable {self : TunnelManager} {env : Env} {peer : PeerSession}

end TunnelManager

namespace Cli

open Coord

variable [CoordCrates]

namespace Daemon

end Daemon

end Cli

end General

namespace Cli

/-! ## Two nodes -/

section Symbolic

open Coord Coord.Parties Symbolic

attribute [local instance] Symbolic.primitives Symbolic.release crates

end Symbolic

end Cli

end Naboscale
