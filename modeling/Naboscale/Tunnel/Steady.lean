import Naboscale.Tunnel.Runs
import Naboscale.Rust.Frame

/-!
# What a handler leaves alone

No handler of a session touches its configuration, and only the cookie gate touches what the gate
keeps: its counter and its cookie. The INIT that is cached changes only in the INIT loop and with a
COOKIE. Sending and maintenance leave all of that alone.
-/

namespace Naboscale

open Rust Method

variable [Profile] [Primitives]

/-- What the cookie gate keeps for a session. -/
structure CookieGate where
  cookieRequired : Bool
  sentCookie : Option (Arr 16)
  initRxCount : UInt32
  initRxWindowStart : Instant

namespace PeerSession

/-- The gate of a session. -/
def gate (peer : PeerSession) : CookieGate where
  cookieRequired := peer.cookieRequired
  sentCookie := peer.sentCookie
  initRxCount := peer.initRxCount
  initRxWindowStart := peer.initRxWindowStart

/-- The configuration of a session and its gate. -/
def settings (peer : PeerSession) : PeerConfig × CookieGate := (peer.config, peer.gate)

/-- A session but for its handshake, its times and whether it is stale. -/
def fixed (peer : PeerSession) : PeerSession :=
  { peer with
    state := .init, lastRxAt := none, lastTxAt := none, lastHandshakeAt := none, stale := false }

end PeerSession

namespace Session

variable {env : Env} {keypair : Keypair} {rng : Ephemeral} {source : SocketAddr} {pkt : Bytes}
  {α : Type}

/-- The handler leaves all of its session but the handshake, the times and the stale mark as it
is. -/
abbrev KeepsFixed (handler : Method Session TunnelError α) : Prop :=
  Keeps (fun self : Session => self.peer.fixed) handler

/-- The handler leaves the configuration and the gate of its session as they are. -/
abbrev KeepsSettings (handler : Method Session TunnelError α) : Prop :=
  Keeps (fun self : Session => self.peer.settings) handler

/-- The handler leaves the configuration of its session as it is. -/
abbrev KeepsConfig (handler : Method Session TunnelError α) : Prop :=
  Keeps (fun self : Session => self.peer.config) handler

omit [Profile] in
theorem KeepsSettings.config {handler : Method Session TunnelError α} (h : KeepsSettings handler) :
    KeepsConfig handler :=
  Keeps.comp Prod.fst h

omit [Profile] in
theorem KeepsSettings.gate {handler : Method Session TunnelError α} (h : KeepsSettings handler) :
    Keeps (fun self : Session => self.peer.gate) handler :=
  Keeps.comp Prod.snd h

omit [Profile] in
theorem KeepsFixed.settings {handler : Method Session TunnelError α} (h : KeepsFixed handler) :
    KeepsSettings handler := by
  have hsettings : Keeps (fun self : Session => self.peer.fixed.settings) handler :=
    Keeps.comp PeerSession.settings h
  exact hsettings

omit [Profile] in
theorem KeepsFixed.config {handler : Method Session TunnelError α} (h : KeepsFixed handler) :
    KeepsConfig handler :=
  h.settings.config

omit [Profile] in
theorem keepsFixed_sendTo (dest : SocketAddr) (buf : Bytes) :
    KeepsFixed (sendTo env dest buf) :=
  keeps_zoom _ fun _ _ => rfl

omit [Profile] in
theorem keepsFixed_write (buf : Bytes) : KeepsFixed (write env buf) :=
  keeps_zoom _ fun _ _ => rfl

omit [Profile] in
theorem keepsFixed_modifyPeer {f : PeerSession → PeerSession}
    (h : ∀ peer, (f peer).fixed = peer.fixed) : KeepsFixed (modifyPeer f) :=
  keeps_modify fun self => h self.peer

omit [Profile] in
theorem keepsSettings_modifyPeer {f : PeerSession → PeerSession}
    (h : ∀ peer, (f peer).settings = peer.settings) : KeepsSettings (modifyPeer f) :=
  keeps_modify fun self => h self.peer

omit [Profile] in
theorem keepsFixed_setState (state : PeerState) : KeepsFixed (setState state) :=
  keepsFixed_modifyPeer fun _ => rfl

omit [Profile] [Primitives] in
theorem keeps_readU32 {σ ε υ : Type} {view : σ → υ} (bytes : Bytes) :
    Keeps view (readU32 bytes : Method σ ε UInt32) :=
  (keeps_expectArr 4 bytes).bind fun _ => keeps_pure _

omit [Primitives] in
theorem keeps_nextCount {σ ε υ : Type} {view : σ → υ} (count : UInt32) :
    Keeps view (nextCount count : Method σ ε UInt32) :=
  Keeps.ite (fun _ => keeps_pure _) fun _ =>
    Keeps.ite (fun _ => keeps_panic) fun _ => keeps_pure _

theorem keepsFixed_respond {frame : Arr responseSize → Method Session TunnelError Bytes}
    (hframe : ∀ response, KeepsFixed (frame response)) (responder : Responder) :
    KeepsFixed (respond keypair env rng source pkt responder frame) := by
  unfold respond
  refine keeps_get_bind fun self => (keeps_on _ _).bind fun (result, responder) => ?_
  refine (keepsFixed_setState _).bind fun _ => ?_
  cases result with
  | error e => exact (keeps_lift _ _).bind fun _ => keepsFixed_setState _
  | ok response =>
      refine (hframe response).bind fun out => (keepsFixed_sendTo _ _).bind fun _ =>
        (keeps_slice _ _ _).bind fun id => (keeps_readU32 id).bind fun sid => ?_
      refine (keepsFixed_setState _).bind fun _ => (keeps_lift _ _).bind fun transport => ?_
      exact keepsFixed_modifyPeer fun _ => rfl

theorem keepsFixed_respondRekey (peerSenderId : UInt32) (rehandshake : Option Rehandshake) :
    KeepsFixed (respondRekey keypair env rng source pkt peerSenderId rehandshake) := by
  unfold respondRekey
  refine keeps_get_bind fun self => (keeps_lift _ _).bind fun responder =>
    (keeps_on _ _).bind fun (result, responder) => ?_
  cases result with
  | error e => exact keeps_pure _
  | ok response =>
      refine (keeps_lift _ _).bind fun transport => (keepsFixed_sendTo _ _).bind fun _ => ?_
      exact keepsFixed_modifyPeer fun _ => rfl

theorem keepsFixed_handleInit : KeepsFixed (handleInit keypair env rng source pkt) := by
  unfold handleInit
  refine Keeps.ite (fun _ => keeps_fail _) fun _ => (keeps_slice _ _ _).bind fun id =>
    (keeps_readU32 id).bind fun sid => keeps_get_bind fun self => ?_
  cases self.peer.state with
  | ready transport sid' rehandshake => exact keepsFixed_respondRekey _ _
  | handshakingAsResponder responder => exact keepsFixed_respond (fun _ => keeps_pure _) responder
  | init => exact keeps_pure _
  | handshakingAsInitiator initiator => exact keeps_pure _

theorem keepsFixed_handleInitViaRelay :
    KeepsFixed (handleInitViaRelay keypair env rng source pkt) := by
  unfold handleInitViaRelay
  refine Keeps.ite (fun _ => keeps_fail _) fun _ => keeps_get_bind fun self => ?_
  cases self.peer.state with
  | handshakingAsResponder responder =>
      refine keepsFixed_respond (fun response => ?_) responder
      rw [wrapRelay_eq]
      exact keeps_pure _
  | init => exact keeps_pure _
  | handshakingAsInitiator initiator => exact keeps_pure _
  | ready transport sid rehandshake => exact keeps_pure _

omit [Profile] in
theorem keepsFixed_handleResponse : KeepsFixed (handleResponse env pkt) := by
  unfold handleResponse
  refine Keeps.ite (fun _ => keeps_fail _) fun _ => (keeps_slice _ _ _).bind fun id =>
    (keeps_readU32 id).bind fun sid => keeps_get_bind fun self => ?_
  rcases self.peer.state with _ | initiator | responder | ⟨transport, sid', _ | rehandshake⟩
  · exact keepsFixed_setState _
  · refine (keepsFixed_setState _).bind fun _ => (keeps_on _ _).bind fun _ =>
      (keeps_lift _ _).bind fun transport => ?_
    exact keepsFixed_modifyPeer fun _ => rfl
  · exact keepsFixed_setState _
  · exact keepsFixed_setState _
  · refine (keepsFixed_setState _).bind fun _ => (keeps_on _ _).bind fun _ =>
      (keeps_lift _ _).bind fun transport => ?_
    exact keepsFixed_modifyPeer fun _ => rfl

omit [Profile] in
theorem keepsFixed_handleTransport : KeepsFixed (handleTransport env pkt) := by
  unfold handleTransport
  refine Keeps.ite (fun _ => keeps_fail _) fun _ => keeps_get_bind fun self =>
    Keeps.ite (fun _ => keeps_pure _) fun _ => ?_
  cases self.peer.state with
  | ready transport sid rehandshake =>
      refine (keeps_on _ _).bind fun (result, transport) =>
        (keepsFixed_setState _).bind fun _ => ?_
      cases result with
      | error e => exact keeps_pure _
      | ok plaintext => exact Keeps.ite (fun _ => keepsFixed_write _) fun _ => keeps_pure _
  | init => exact keeps_pure _
  | handshakingAsInitiator initiator => exact keeps_pure _
  | handshakingAsResponder responder => exact keeps_pure _

omit [Profile] in
theorem keepsFixed_handleRelayedTransport : KeepsFixed (handleRelayedTransport env pkt) := by
  unfold handleRelayedTransport
  refine keeps_get_bind fun self => ?_
  cases self.peer.state with
  | ready transport sid rehandshake =>
      refine Keeps.ite (fun _ => keeps_fail _) fun _ => (keeps_on _ _).bind fun (result, transport) =>
        (keepsFixed_setState _).bind fun _ => (keeps_lift _ _).bind fun plaintext => ?_
      exact Keeps.ite (fun _ => keepsFixed_write _) fun _ => keeps_pure _
  | init => exact keeps_pure _
  | handshakingAsInitiator initiator => exact keeps_pure _
  | handshakingAsResponder responder => exact keeps_pure _

omit [Profile] in
theorem keepsSettings_handleCookie : KeepsSettings (handleCookie env pkt) := by
  unfold handleCookie
  refine Keeps.ite (fun _ => keeps_pure _) fun _ => (keeps_slice _ _ _).bind fun body =>
    (Arr.keeps_copyFromSlice _ _ _ _).bind fun cookie => ?_
  exact keepsSettings_modifyPeer fun _ => rfl

omit [Profile] in
theorem keepsFixed_sendMaybeRelay (config : PeerConfig) (fromPub : Key) (inner : Bytes) :
    KeepsFixed (sendMaybeRelay env config fromPub inner) := by
  unfold sendMaybeRelay
  cases config.viaRelay with
  | none => exact keepsFixed_sendTo _ _
  | some relay =>
      simp only
      rw [wrapRelay_eq, pure_bind]
      exact keepsFixed_sendTo _ _

theorem keepsFixed_sendEncrypted (room : ℕ) :
    KeepsFixed (sendEncrypted keypair env pkt room) := by
  unfold sendEncrypted
  refine keeps_get_bind fun self => ?_
  cases self.peer.state with
  | ready transport sid rehandshake =>
      refine (keeps_on _ _).bind fun (result, transport) => (keepsFixed_setState _).bind fun _ =>
        (keeps_lift _ _).bind fun ciphertext => (keepsFixed_sendMaybeRelay _ _ _).bind fun _ => ?_
      exact keepsFixed_modifyPeer fun _ => rfl
  | init => exact keeps_pure _
  | handshakingAsInitiator initiator => exact keeps_pure _
  | handshakingAsResponder responder => exact keeps_pure _

omit [Profile] in
theorem keeps_fullInit {σ ε υ : Type} {view : σ → υ} (receivedCookie : Option (Arr 16))
    (initMsg : Arr initSize) : Keeps view (fullInit receivedCookie initMsg : Method σ ε Bytes) := by
  cases receivedCookie with
  | none => exact keeps_pure _
  | some cookie =>
      exact (Arr.keeps_copyFromSlice _ _ _ _).bind fun _ => (keeps_slice _ _ _).bind fun _ =>
        (Arr.keeps_copyFromSlice _ _ _ _).bind fun _ => keeps_pure _

omit [Profile] in
theorem keepsSettings_cacheInit (initiator : Initiator) : KeepsSettings (cacheInit rng initiator) := by
  unfold cacheInit
  refine keeps_get_bind fun self => ?_
  cases self.peer.cachedInit with
  | some msg => exact keeps_pure _
  | none =>
      refine (keeps_on _ _).bind fun (result, initiator) =>
        (keepsFixed_setState _).settings.bind fun _ => (keeps_lift _ _).bind fun initMsg =>
        (keeps_fullInit _ _).bind fun msg => ?_
      exact Keeps.bind (keepsSettings_modifyPeer fun _ => rfl) fun _ => keeps_pure _

omit [Profile] in
theorem keepsSettings_retryInit : KeepsSettings (retryInit keypair env rng) := by
  unfold retryInit
  refine keeps_get_bind fun self => Keeps.ite (fun _ => ?_) fun _ => keeps_pure _
  cases self.peer.state with
  | handshakingAsInitiator initiator =>
      refine (keepsSettings_cacheInit initiator).bind fun msg =>
        (keepsFixed_sendMaybeRelay _ _ _).settings.bind fun _ => ?_
      exact keepsSettings_modifyPeer fun _ => rfl
  | init => exact keepsSettings_modifyPeer fun _ => rfl
  | handshakingAsResponder responder => exact keepsSettings_modifyPeer fun _ => rfl
  | ready transport sid rehandshake => exact keepsSettings_modifyPeer fun _ => rfl

theorem keepsFixed_perform (action : Action) : KeepsFixed (perform keypair env action) := by
  cases action with
  | markStale => exact keepsFixed_modifyPeer fun _ => rfl
  | sendKeepalive => exact keepsFixed_sendEncrypted _
  | startRekey initiator initMsg =>
      refine keeps_get_bind fun self => (keepsFixed_sendMaybeRelay _ _ _).bind fun _ => ?_
      cases self.peer.state with
      | ready transport sid rehandshake => exact keepsFixed_setState _
      | init => exact keeps_pure _
      | handshakingAsInitiator initiator => exact keeps_pure _
      | handshakingAsResponder responder => exact keeps_pure _
  | retryRekey =>
      refine keeps_get_bind fun self => ?_
      rcases self.peer.state with _ | initiator | responder | ⟨transport, sid, _ | rehandshake⟩
      case ready.some =>
        exact (keepsFixed_sendMaybeRelay _ _ _).bind fun _ => keepsFixed_setState _
      all_goals exact keeps_pure _

/-- Only a direct INIT meets the gate. -/
theorem keepsSettings_deliver (cookieSecret : Key) {message : Message}
    (h : ∀ pkt, message ≠ .init pkt) :
    KeepsSettings (deliver keypair cookieSecret env rng source message) := by
  cases message with
  | init pkt => exact absurd rfl (h pkt)
  | relayedInit pkt => exact keepsFixed_handleInitViaRelay.settings
  | response pkt => exact keepsFixed_handleResponse.settings
  | transport pkt => exact keepsFixed_handleTransport.settings
  | relayedTransport pkt => exact keepsFixed_handleRelayedTransport.settings
  | cookie pkt => exact keepsSettings_handleCookie

/-! ## The gate -/

omit [Profile] in
/-- Sending a cookie does not touch the session. -/
theorem keepsPeer_sendCookieReply (cookie : Arr 16) :
    Keeps (fun self : Session => self.peer) (sendCookieReply env source cookie) :=
  keeps_get_bind fun _ => (Arr.keeps_store _ _ _).bind fun _ =>
    (Arr.keeps_copyFromSlice _ _ _ _).bind fun _ =>
    (Arr.keeps_copyFromSlice _ _ _ _).bind fun _ => keeps_zoom _ fun _ _ => rfl

/-- The gate keeps whatever of its session does not depend on the gate. -/
theorem keeps_checkInitCookieWith {υ : Type} (view : PeerSession → υ)
    (hview : ∀ (peer : PeerSession) required sent count start, view
      { peer with cookieRequired := required, sentCookie := sent, initRxCount := count,
                  initRxWindowStart := start } = view peer)
    {generate : Method Session TunnelError (Arr 16)}
    (hgenerate : Keeps (fun self : Session => view self.peer) generate) :
    Keeps (fun self : Session => view self.peer) (checkInitCookieWith generate env source pkt) := by
  have hmodify : ∀ {f : PeerSession → PeerSession}, (∀ peer, view (f peer) = view peer) →
      Keeps (fun self : Session => view self.peer) (modifyPeer f) :=
    fun h => keeps_modify fun self => h self.peer
  have hrestart : ∀ peer, view (restartWindow env.now peer) = view peer := by
    intro peer
    rw [restartWindow]
    split
    · exact hview peer _ _ _ _
    · rfl
  refine (hmodify hrestart).bind fun _ => keeps_get_bind fun self =>
    (keeps_nextCount _).bind fun count => (hmodify fun peer => hview peer _ _ _ _).bind fun _ =>
      Keeps.ite (fun _ => ?_) fun _ => ?_
  · refine Keeps.ite (fun _ => keeps_pure _) fun _ => ?_
    cases self.peer.sentCookie with
    | none => exact (hmodify fun peer => hview peer _ _ _ _).bind fun _ => keeps_pure _
    | some sent =>
        refine (keeps_slice _ _ _).bind fun _ => (keeps_slice _ _ _).bind fun _ =>
          Keeps.ite (fun _ => keeps_pure _) fun _ => ?_
        exact (hmodify fun peer => hview peer _ _ _ _).bind fun _ => keeps_pure _
  · refine Keeps.ite (fun _ => ?_) fun _ => keeps_pure _
    refine hgenerate.bind fun cookie => ?_
    refine Keeps.bind ((keepsPeer_sendCookieReply cookie).comp view) fun _ => ?_
    exact (hmodify fun peer => hview peer _ _ _ _).bind fun _ => keeps_pure _

omit [Profile] in
theorem keeps_generateCookie {σ ε υ : Type} {view : σ → υ} (cookieSecret : Key) :
    Keeps view (generateCookie cookieSecret source : Method σ ε (Arr 16)) := by
  rw [generateCookie_panic]
  exact keeps_panic

theorem keepsConfig_checkInitCookie (cookieSecret : Key) :
    KeepsConfig (checkInitCookie cookieSecret env source pkt) :=
  keeps_checkInitCookieWith PeerSession.config (fun _ _ _ _ _ => rfl)
    (keeps_generateCookie cookieSecret)

end Session

/-! ## Views of the manager -/

namespace TunnelManager

omit [Profile] [Primitives] in
/-- Replacing an element by one that looks the same. -/
theorem map_set_of_eq {α β : Type} {f : α → β} {l : List α} {i : ℕ} {a b : α}
    (h : l[i]? = some a) (hf : f b = f a) : (l.set i b).map f = l.map f := by
  obtain ⟨hlt, hget⟩ := List.getElem?_eq_some_iff.1 h
  rw [List.map_set, hf, ← hget, ← List.getElem_map f, List.set_getElem_self]
  rwa [List.length_map]

omit [Profile] in
/-- A handler keeps every view of the manager that depends on its session only through what the
handler keeps of it. -/
theorem keeps_atPeer {α β υ : Type} {view : TunnelManager → υ} {f : PeerSession → β}
    {handler : Method Session TunnelError α} (idx : ℕ)
    (h : Keeps (fun self : Session => f self.peer) handler)
    (hview : ∀ (self : TunnelManager) peers transport device, peers.map f = self.peers.map f →
      view { self with peers, transport, device } = view self) :
    Keeps view (atPeer idx handler) := by
  intro self
  cases hpeer : self.peers[idx]? with
  | none =>
      rw [wp_def, atPeer, bind_ok (get_apply self), hpeer]
      trivial
  | some peer =>
      have hpost := h ⟨peer, self.transport, self.device⟩
      rw [wp_def, atPeer_eq hpeer]
      rw [wp_def] at hpost
      cases hrun : handler ⟨peer, self.transport, self.device⟩ with
      | ok a session =>
          rw [hrun] at hpost
          exact hview self _ _ _ (map_set_of_eq hpeer hpost)
      | err e session =>
          rw [hrun] at hpost
          exact hview self _ _ _ (map_set_of_eq hpeer hpost)
      | panic => trivial

/-- A view of the manager that does not depend on the handshakes and the times of the sessions. -/
structure Steady {υ : Type} (view : TunnelManager → υ) : Prop where
  handled {α : Type} {handler : Method Session TunnelError α} (idx : ℕ) :
    Session.KeepsFixed handler → Keeps view (atPeer idx handler)
  rotated (env : Env) (self : TunnelManager) :
    view (rotateCookieSecret env { self with lastMaintenanceAt := env.now }) = view self

namespace Steady

variable {υ : Type} {view : TunnelManager → υ} {env : Env}

theorem dispatchTunPacket (h : Steady view) (pkt : Bytes) :
    Keeps view (dispatchTunPacket env pkt) := by
  refine keeps_get_bind fun self => ?_
  cases self.lookupPeerByDestIp pkt with
  | none => exact keeps_pure _
  | some idx => exact h.handled idx (Session.keepsFixed_sendEncrypted _)

theorem performAll (h : Steady view) (keypair : Keypair) (actions : List (ℕ × Session.Action)) :
    Keeps view (performAll keypair env actions) := by
  induction actions with
  | nil => exact keeps_pure _
  | cons entry rest ih =>
      obtain ⟨idx, action⟩ := entry
      exact (h.handled idx (Session.keepsFixed_perform action)).bind fun _ => ih

theorem maintenance (h : Steady view) : Keeps view (maintenance env) := by
  intro self
  rw [TunnelManager.maintenance, wp_get_bind, wp_ite]
  refine ⟨fun _ => rfl, fun _ => ?_⟩
  rw [wp_modify_bind, wp_def]
  obtain ⟨actions, hplan, _⟩ := plan_ok self.config env
    (rotateCookieSecret env { self with lastMaintenanceAt := env.now }) self.peers
  rw [bind_ok hplan, ← h.rotated env self]
  exact h.performAll _ actions _

end Steady

end TunnelManager

end Naboscale
