import Naboscale.Crypto.Handshake
import Naboscale.Rust.Net

/-!
# The state of the tunnel manager

The data of `manager.rs`: configurations, sessions, and the manager itself. The socket and the
tun device are logs of what was handed to them. Clock readings, random draws and the results of
system calls are inputs of a call and are collected in `Env`.
-/

namespace Naboscale

open Rust

/-- `INIT_RETRY_INTERVAL`. -/
def initRetryInterval : ℕ := 2 * second
/-- `COOKIE_SECRET_ROTATION`. -/
def cookieSecretRotation : ℕ := 120 * second
/-- `COOKIE_INIT_RATE_LIMIT`. -/
def cookieInitRateLimit : ℕ := 5
/-- `RELAY_HEADER_SIZE`: type, sender's public key, destination address. -/
def relayHeaderSize : ℕ := 1 + 32 + 4
/-- `MAC1_LEN`. -/
def mac1Len : ℕ := 16
/-- `MAC2_OFFSET_INIT`. -/
def mac2OffsetInit : ℕ := 148

/-! ## The outside -/

/-- `UdpTransport`: the datagrams handed to the network so far, with their destinations. -/
structure UdpTransport where
  sent : List (SocketAddr × Bytes)

/-- `Device`: the packets written to the tun device so far. -/
structure Device where
  written : List Bytes

variable [Primitives]

/-- The inputs of one call: the clocks, the random draws, and what the system calls answer. The
draw for a handshake of the session at index `i` is `ephemeral i`. -/
structure Env where
  now : Instant
  tai : Tai64N
  ephemeral : ℕ → Ephemeral
  cookieSecret : Key
  sendError : SocketAddr → Bytes → Option String
  writeError : Bytes → Option String

/-- `naboscale_tunnel::Error`. -/
inductive TunnelError where
  | tun (error : String)
  | io (error : String)
  | crypto (error : CryptoError)
  | bufferTooSmall (needed actual : ℕ)
  | handshakeTimeout
  | notReady
  | invalidConfig (message : String)

/-- `UdpTransport::send_to`. -/
def UdpTransport.sendTo (env : Env) (peer : SocketAddr) (buf : Bytes) :
    Method UdpTransport TunnelError Unit :=
  match env.sendError peer buf with
  | some e => Method.fail (.io e)
  | none => Method.modify fun self => { self with sent := self.sent ++ [(peer, buf)] }

/-- `Device::write`. -/
def Device.write (env : Env) (buf : Bytes) : Method Device TunnelError Unit :=
  match env.writeError buf with
  | some e => Method.fail (.io e)
  | none => Method.modify fun self => { self with written := self.written ++ [buf] }

/-! ## Sessions -/

/-- `ManagerTimings`. -/
structure ManagerTimings where
  keepalive : ℕ
  rekeyAfter : ℕ
  rejectAfter : ℕ
  maintenanceTick : ℕ

/-- `ManagerTimings::default`. -/
def ManagerTimings.default : ManagerTimings where
  keepalive := 10 * second
  rekeyAfter := 120 * second
  rejectAfter := 180 * second
  maintenanceTick := second / 2

/-- `ManagerConfig`. -/
structure ManagerConfig where
  localKeypair : Keypair
  localIp : Ipv4Addr
  timings : ManagerTimings

/-- `PeerConfig`. -/
structure PeerConfig where
  peerPub : Key
  psk : Key
  localSenderId : UInt32
  isInitiator : Bool
  peerEndpoint : SocketAddr
  peerIp : Ipv4Addr
  viaRelay : Option SocketAddr
  deriving DecidableEq

/-- `Rehandshake`: a rekey in flight. -/
structure Rehandshake where
  initiator : Initiator
  initMsg : Bytes
  nextRetryAt : Instant

/-- `PeerState`. -/
inductive PeerState where
  | init
  | handshakingAsInitiator (initiator : Initiator)
  | handshakingAsResponder (responder : Responder)
  | ready (transport : Transport) (peerSenderId : UInt32) (rehandshake : Option Rehandshake)

/-- `PeerSession`. -/
structure PeerSession where
  config : PeerConfig
  state : PeerState
  nextInitAt : Option Instant
  cachedInit : Option Bytes
  lastRxAt : Option Instant
  lastTxAt : Option Instant
  lastHandshakeAt : Option Instant
  stale : Bool
  initRxCount : UInt32
  initRxWindowStart : Instant
  cookieRequired : Bool
  sentCookie : Option (Arr 16)
  receivedCookie : Option (Arr 16)

/-- `matches!(state, PeerState::Ready { .. })`. -/
def PeerState.isReady : PeerState → Bool
  | ready _ _ _ => true
  | _ => false

/-- `TunnelManager`. The hash maps are partial functions. -/
structure TunnelManager where
  device : Device
  transport : UdpTransport
  config : ManagerConfig
  peers : List PeerSession
  endpointToPeer : SocketAddr → Option ℕ
  pubkeyToPeer : Key → Option ℕ
  learnedEndpoints : Key → Option SocketAddr
  lastMaintenanceAt : Instant
  cookieSecret : Key
  cookieSecretRotatedAt : Instant
  lastCookieSecret : Option Key

end Naboscale
