import Naboscale.Tunnel.Manager

/-!
# A gate that can answer

`generate_cookie` is made to return a cookie. What the rest of the gate does with the cookies that
it gets can be followed when the function is a parameter: with `generate_cookie` in its place,
each definition here is the one of the manager.
-/

namespace Naboscale

open Rust

variable [Profile] [Primitives]

/-- A function in the place of `generate_cookie`. -/
abbrev CookieGenerator :=
  (cookieSecret : Key) → (source : SocketAddr) → Method Session TunnelError (Arr 16)

namespace Session

/-- `check_init_cookie`, with the cookie that a call makes. -/
def checkInitCookieWith (generateCookie : Method Session TunnelError (Arr 16)) (env : Env)
    (source : SocketAddr) (pkt : Bytes) : Method Session TunnelError Bool := do
  modifyPeer (restartWindow env.now)
  let self ← Method.get
  let count ← nextCount self.peer.initRxCount
  modifyPeer fun peer => { peer with initRxCount := count }
  if self.peer.cookieRequired then
    if pkt.length < initWithCookieSize then pure true
    else
      match self.peer.sentCookie with
      | some sent => do
          let before ← slice pkt 0 mac2OffsetInit
          let mac2 ← slice pkt mac2OffsetInit (mac2OffsetInit + mac1Len)
          if (computeMac2 sent before).val ≠ mac2 then pure true
          else do
            modifyPeer fun peer =>
              { peer with cookieRequired := false, sentCookie := none, initRxCount := 0 }
            pure false
      | none => do
          modifyPeer fun peer => { peer with cookieRequired := false, initRxCount := 0 }
          pure false
  else if count.toNat > cookieInitRateLimit then do
    let cookie ← generateCookie
    sendCookieReply env source cookie
    modifyPeer fun peer => { peer with cookieRequired := true, sentCookie := some cookie }
    pure true
  else pure false

theorem checkInitCookieWith_eq (cookieSecret : Key) (env : Env) (source : SocketAddr)
    (pkt : Bytes) :
    checkInitCookieWith (generateCookie cookieSecret source) env source pkt =
      checkInitCookie cookieSecret env source pkt := rfl

end Session

namespace TunnelManager

variable (generate : CookieGenerator)

/-- `check_init_cookie` and `handle_init`. -/
def gateInitWith (env : Env) (idx : ℕ) (source : SocketAddr) (pkt : Bytes) :
    Method TunnelManager TunnelError Unit := do
  let self ← Method.get
  let handled ← atPeer idx
    (Session.checkInitCookieWith (generate self.cookieSecret source) env source pkt)
  if handled then pure ()
  else
    atPeer idx
      (Session.handleInit self.config.localKeypair env (env.ephemeral idx) source pkt)

/-- The branch of `handle_incoming` for packets from a known endpoint. -/
def handleDirectWith (env : Env) (idx : ℕ) (source : SocketAddr) (msgType : UInt8) (pkt : Bytes) :
    Method TunnelManager TunnelError Unit :=
  if msgType = messageTypeInit then gateInitWith generate env idx source pkt
  else if msgType = messageTypeResponse then atPeer idx (Session.handleResponse env pkt)
  else if msgType = messageTypeTransport then atPeer idx (Session.handleTransport env pkt)
  else if msgType = messageTypeCookie then atPeer idx (Session.handleCookie env pkt)
  else pure ()

/-- `handle_incoming`. -/
def handleIncomingWith (env : Env) (source : SocketAddr) (pkt : Bytes) :
    Method TunnelManager TunnelError Unit :=
  if pkt.isEmpty then pure ()
  else do
    let msgType ← index pkt 0
    let self ← Method.get
    if msgType = messageTypeRelay then
      if pkt.length < relayHeaderSize then pure ()
      else do
        let header ← slice pkt 1 33
        let fromPub ← expectArr 32 header
        match self.pubkeyToPeer fromPub with
        | none => pure ()
        | some idx => do
            Method.modify (learnEndpoint source fromPub)
            touch env idx
            handleRelay env source pkt
    else
      match self.endpointToPeer source with
      | none =>
          if msgType = messageTypeInit ∧ initSize ≤ pkt.length ∧
              mac1OffsetInit + mac1Len ≤ pkt.length then do
            match ← identifyInitiatorByMac1 pkt with
            | none => pure ()
            | some idx => do
                refreshEndpoint env idx source
                gateInitWith generate env idx source pkt
          else pure ()
      | some idx => do
          refreshEndpoint env idx source
          handleDirectWith generate env idx source msgType pkt

/-- The call that an event stands for. -/
def Event.callWith : Event → Method TunnelManager TunnelError Unit
  | incoming env source pkt => handleIncomingWith generate env source pkt
  | event => event.call

/-- The state after an event, unless its call panics. -/
def fireWith (self : TunnelManager) (event : Event) : Option TunnelManager :=
  (event.callWith generate self).state?

theorem handleIncomingWith_eq (env : Env) (source : SocketAddr) (pkt : Bytes) :
    handleIncomingWith Session.generateCookie env source pkt = handleIncoming env source pkt := rfl

theorem fireWith_eq (self : TunnelManager) (event : Event) :
    fireWith Session.generateCookie self event = fire self event := by
  cases event <;> rfl

end TunnelManager

end Naboscale
