import Naboscale.Rust.Log
import Naboscale.Tunnel.Invariant

/-!
# How old the INITs are that a manager sends

The timestamp of an INIT is fixed when its initiator is made: with the session, or when a rekey
starts. The INIT is then sent again every two seconds, for as long as the peer does not answer, and
neither its bytes nor its timestamp change. It is fresh as long as its attempt has begun no longer
ago than the replay window.
-/

namespace Naboscale

open Rust Method

/-! ## INITs among the datagrams -/

/-- The packet that a datagram carries: what follows the RELAY header, or the datagram itself. -/
def payload (datagram : Bytes) : Bytes :=
  if datagram[0]? = some messageTypeRelay then datagram.drop relayHeaderSize else datagram

/-- The datagram carries an INIT. -/
def CarriesInit (datagram : Bytes) : Prop := (payload datagram)[0]? = some messageTypeInit

instance (datagram : Bytes) : Decidable (CarriesInit datagram) :=
  inferInstanceAs (Decidable (_ = _))

theorem payload_direct {packet : Bytes} (h : packet[0]? ≠ some messageTypeRelay) :
    payload packet = packet := if_neg h

theorem payload_relayFrame (fromPub : Key) (destIp : Ipv4Addr) (inner : Bytes) :
    payload (Session.relayFrame fromPub destIp inner) = inner := by
  have hlen : (fromPub.val ++ destIp.octets.val).length = 36 := by
    rw [List.length_append, fromPub.length_eq, destIp.octets.length_eq]
  have hdrop : (Session.relayFrame fromPub destIp inner).drop relayHeaderSize = inner := by
    show (fromPub.val ++ destIp.octets.val ++ inner).drop 36 = inner
    rw [← hlen, List.drop_left]
  have htype : (Session.relayFrame fromPub destIp inner)[0]? = some messageTypeRelay := rfl
  rw [payload, if_pos htype, hdrop]

/-- A RESPONSE is no INIT. -/
theorem not_carriesInit_response {packet : Bytes} (h : packet[0]? = some messageTypeResponse) :
    ¬ CarriesInit packet := by
  have hdirect : packet[0]? ≠ some messageTypeRelay := by
    rw [h]
    decide
  rw [CarriesInit, payload_direct hdirect, h]
  decide

theorem not_carriesInit_relayed {fromPub : Key} {destIp : Ipv4Addr} {inner : Bytes}
    (h : inner[0]? = some messageTypeResponse) :
    ¬ CarriesInit (Session.relayFrame fromPub destIp inner) := by
  rw [CarriesInit, payload_relayFrame, h]
  decide

/-- The clocks differ by no more than the replay window. -/
def Near (now timestamp : Tai64N) : Prop :=
  |(now.seconds.toNat : ℤ) - timestamp.seconds.toNat| ≤ replayWindowSeconds

instance (now timestamp : Tai64N) : Decidable (Near now timestamp) :=
  inferInstanceAs (Decidable (_ ≤ _))

theorem Near.refl (now : Tai64N) : Near now now := by
  unfold Near replayWindowSeconds
  rw [sub_self, abs_zero]
  omega

/-- A responder with the clock `now` lets a timestamp pass that is near to it. -/
theorem Near.in_window [Profile] {now timestamp : Tai64N} (h : Near now timestamp)
    (hnow : now.seconds.toNat + 120 < 2 ^ 63) : Responder.InWindow now timestamp := by
  have hbounds := abs_le.1 (show _ ≤ (120 : ℤ) from h)
  have hn : now.signedSeconds = now.seconds.toNat := I64.wrap_eq ⟨by omega, by omega⟩
  have ht : timestamp.signedSeconds = timestamp.seconds.toNat :=
    I64.wrap_eq ⟨by omega, by omega⟩
  have hdistance : Responder.distance now timestamp ≤ replayWindowSeconds := by
    rw [Responder.distance, hn, ht]
    exact h
  have hlt : Responder.distance now timestamp < 2 ^ 63 := lt_of_le_of_lt hdistance (by decide)
  refine ⟨fun hover => absurd hover.2 (not_le.2 hlt), ?_⟩
  exact (Responder.wrapped_distance_eq hlt).trans_le hdistance

section General

variable [Primitives]

/-- What an initiator writes is an INIT. -/
theorem Initiator.Wrote.head {initiator : Initiator} {datagram : Bytes}
    (h : initiator.Wrote datagram) : datagram[0]? = some messageTypeInit := by
  obtain ⟨start, rng, init, hwrite, hdatagram⟩ := h
  have hframe : (Initiator.writeInit rng).wp ⟨fun out _ => out.val[0]? = some messageTypeInit,
      fun _ _ => True, True⟩ start := by
    refine Initiator.wp_writeInit (fun message state out _ hout => ?_) fun _ _ _ _ _ => trivial
    show out.val[0]? = some messageTypeInit
    rw [hout]
    rfl
  rw [wp_def, hwrite] at hframe
  have hhead : (sub datagram 0 initSize)[0]? = datagram[0]? := by
    rw [sub, List.drop_zero, List.getElem?_take_of_lt (by decide)]
  rw [← hhead, hdatagram]
  exact hframe

/-- The network takes datagrams for where the packets to a peer are sent. -/
def Env.Takes (env : Env) (config : PeerConfig) : Prop :=
  ∃ buf, env.sendError (config.viaRelay.getD config.peerEndpoint) buf = none

/-- If the datagram carries an INIT, the INIT is as required. -/
def InitsAre (G : Bytes → Prop) (entry : SocketAddr × Bytes) : Prop :=
  CarriesInit entry.2 → G (payload entry.2)

/-- The timestamp of a fresh initiator is the clock reading. -/
theorem Initiator.Fresh.timestamp {keypair : Keypair} {env : Env} {rng : Ephemeral}
    {config : PeerConfig} {initiator : Initiator} (h : initiator.Fresh keypair env rng config) :
    initiator.timestamp = env.tai := by
  obtain ⟨start, message, state, hnew, _, rfl⟩ := h
  unfold Initiator.new at hnew
  cases hbuild : buildInitiator keypair.secret config.peerPub wgIdentifier config.psk with
  | error e =>
      rw [hbuild] at hnew
      cases hnew
  | ok made =>
      rw [hbuild] at hnew
      cases hnew
      rfl

/-- The rekey that is in flight. -/
def PeerState.pending : PeerState → Option Rehandshake
  | .ready _ _ rehandshake => rehandshake
  | _ => none

/-- The initiator of a pending rekey wrote its INIT. -/
theorem PeerSession.Valid.pending {peer : PeerSession} {rehandshake : Rehandshake}
    (h : peer.Valid) (hpending : rehandshake ∈ peer.state.pending) :
    rehandshake.initiator.Wrote rehandshake.initMsg := by
  cases hstate : peer.state with
  | ready transport sid pending =>
      rw [PeerSession.Valid, hstate] at h
      rw [hstate] at hpending
      exact (h.2.2 rehandshake hpending).2.2
  | init =>
      rw [hstate] at hpending
      cases hpending
  | handshakingAsInitiator initiator =>
      rw [hstate] at hpending
      cases hpending
  | handshakingAsResponder responder =>
      rw [hstate] at hpending
      cases hpending

namespace Session

variable {self : Session} {env : Env} {keypair : Keypair} {rng : Ephemeral} {source : SocketAddr}
  {pkt : Bytes} {G : Bytes → Prop}

/-- The datagrams that the network was handed. -/
abbrev sent (self : Session) : List (SocketAddr × Bytes) := self.transport.sent

/-- The handler hands the network no INIT but those as required. -/
abbrev SendsInits (G : Bytes → Prop) {α : Type} (handler : Method Session TunnelError α) : Prop :=
  Logs sent (InitsAre G) handler

/-! ## Sending -/

theorem sendTo_sends {dest : SocketAddr} {buf : Bytes}
    (h : env.sendError dest buf = none → InitsAre G (dest, buf)) :
    SendsInits G (sendTo env dest buf) := by
  intro self
  rw [wp_sendTo]
  exact ⟨fun htakes => Extends.snoc (h htakes), fun e _ => Extends.refl self.sent⟩

/-- A packet to a peer is carried as it is, whether a relay is used or not. -/
theorem sendMaybeRelay_sends {config : PeerConfig} {fromPub : Key} {inner : Bytes}
    (hdirect : inner[0]? ≠ some messageTypeRelay)
    (h : env.Takes config → inner[0]? = some messageTypeInit → G inner) :
    SendsInits G (sendMaybeRelay env config fromPub inner) := by
  unfold sendMaybeRelay
  cases hrelay : config.viaRelay with
  | none =>
      refine sendTo_sends fun htakes hinit => ?_
      rw [CarriesInit, payload_direct hdirect] at hinit
      show G (payload inner)
      rw [payload_direct hdirect]
      refine h ⟨inner, ?_⟩ hinit
      rw [hrelay]
      exact htakes
  | some relay =>
      simp only
      rw [wrapRelay_eq, pure_bind]
      refine sendTo_sends fun htakes hinit => ?_
      rw [CarriesInit, payload_relayFrame] at hinit
      show G (payload _)
      rw [payload_relayFrame]
      refine h ⟨relayFrame fromPub config.peerIp inner, ?_⟩ hinit
      rw [hrelay]
      exact htakes

/-- Sending does not touch the session. -/
theorem keepsPeer_sendMaybeRelay (config : PeerConfig) (fromPub : Key) (inner : Bytes) :
    Keeps peer (sendMaybeRelay env config fromPub inner) := by
  unfold sendMaybeRelay
  cases config.viaRelay with
  | none => exact keeps_zoom _ fun _ _ => rfl
  | some relay =>
      simp only
      rw [wrapRelay_eq, pure_bind]
      exact keeps_zoom _ fun _ _ => rfl

/-- An INIT is sent as it is. -/
theorem sendInit_sends {config : PeerConfig} {fromPub : Key} {initMsg : Bytes}
    (hinit : initMsg[0]? = some messageTypeInit) (h : env.Takes config → G initMsg) :
    SendsInits G (sendMaybeRelay env config fromPub initMsg) := by
  refine sendMaybeRelay_sends (fun hrelay => ?_) fun htakes _ => h htakes
  rw [hinit] at hrelay
  exact absurd hrelay (by decide)

variable [Profile]

/-- A TRANSPORT packet is no INIT. -/
theorem sendEncrypted_sends (packet : Bytes) (room : ℕ) :
    SendsInits G (sendEncrypted keypair env packet room) := by
  unfold sendEncrypted
  refine logs_get_bind fun self => ?_
  cases self.peer.state with
  | ready transport sid rehandshake =>
      refine logs_on_bind (Transport.wp_encrypt (fun ciphertext inner _ => ?_)
        (fun e transport' _ => ?_) fun _ _ => trivial)
      · have hhead : (Transport.framePacket sid transport.sendCounter ciphertext)[0]? =
            some messageTypeTransport := rfl
        refine Logs.bind (Keeps.logs fun _ => rfl) fun _ => ?_
        rw [lift_ok, pure_bind]
        refine Logs.bind (sendMaybeRelay_sends (fun h => ?_) fun _ h => ?_) fun _ =>
          Keeps.logs fun _ => rfl
        · rw [hhead] at h
          exact absurd h (by decide)
        · rw [hhead] at h
          exact absurd h (by decide)
      · exact Logs.bind (Keeps.logs fun _ => rfl) fun _ => logs_fail _
  | init => exact logs_pure _
  | handshakingAsInitiator initiator => exact logs_pure _
  | handshakingAsResponder responder => exact logs_pure _

/-! ## Answers -/

/-- A responder sends its RESPONSE and nothing else. -/
theorem respond_sends {responder : Responder} {bytes : Arr responseSize → Bytes}
    {frame : Arr responseSize → Method Session TunnelError Bytes}
    (hframe : ∀ response, frame response = pure (bytes response))
    (hbytes : ∀ response : Arr responseSize, response.val[0]? = some messageTypeResponse →
      ¬ CarriesInit (bytes response)) :
    SendsInits G (respond keypair env rng source pkt responder frame) := by
  unfold respond
  refine logs_get_bind fun self => logs_on_bind (Responder.wp_consumeInit
    (fun pub reply state response _ hresponse => ?_) (fun e state _ => ?_) fun _ => trivial)
  · have hhead : response.val[0]? = some messageTypeResponse := by
      rw [hresponse]
      rfl
    refine Logs.bind (Keeps.logs fun _ => rfl) fun _ => ?_
    simp only
    rw [hframe, pure_bind]
    refine Logs.bind (sendTo_sends fun _ hinit => absurd hinit (hbytes response hhead)) fun _ =>
      Keeps.logs ?_
    refine (keeps_slice _ _ _).bind fun id => (keeps_readU32 id).bind fun sid => ?_
    refine Keeps.bind (fun _ => rfl) fun _ => (keeps_lift _ _).bind fun transport => ?_
    exact fun _ => rfl
  · refine Logs.bind (Keeps.logs fun _ => rfl) fun _ => Keeps.logs ?_
    exact (keeps_lift _ _).bind fun _ => fun _ => rfl

theorem respondRekey_sends (peerSenderId : UInt32) (rehandshake : Option Rehandshake) :
    SendsInits G (respondRekey keypair env rng source pkt peerSenderId rehandshake) := by
  intro self
  refine wp_respondRekey (Extends.refl _) (fun _ _ => Extends.refl _)
    (fun _ _ _ _ _ _ _ => Extends.refl _) (fun _ _ _ => Extends.refl _)
    (fun responder pub reply state inner response _ _ hresponse _ _ => ?_) fun _ _ _ => trivial
  have hhead : response.val[0]? = some messageTypeResponse := by
    rw [hresponse]
    rfl
  exact Extends.snoc fun hinit => absurd hinit (not_carriesInit_response hhead)

theorem handleInit_sends : SendsInits G (handleInit keypair env rng source pkt) := by
  unfold handleInit
  refine Logs.ite (fun _ => logs_fail _) fun _ => Logs.bind (keeps_slice _ _ _).logs fun id =>
    Logs.bind (keeps_readU32 id).logs fun sid => logs_get_bind fun self => ?_
  cases self.peer.state with
  | ready transport sid' rehandshake => exact respondRekey_sends sid rehandshake
  | handshakingAsResponder responder =>
      exact respond_sends (fun response => rfl) fun response hhead => not_carriesInit_response hhead
  | init => exact logs_pure _
  | handshakingAsInitiator initiator => exact logs_pure _

theorem handleInitViaRelay_sends :
    SendsInits G (handleInitViaRelay keypair env rng source pkt) := by
  unfold handleInitViaRelay
  refine Logs.ite (fun _ => logs_fail _) fun _ => logs_get_bind fun self => ?_
  cases self.peer.state with
  | handshakingAsResponder responder =>
      exact respond_sends (fun response => wrapRelay_eq _ _ _) fun response hhead =>
        not_carriesInit_relayed hhead
  | init => exact logs_pure _
  | handshakingAsInitiator initiator => exact logs_pure _
  | ready transport sid rehandshake => exact logs_pure _

omit [Profile] in
theorem keepsSent_handleResponse : Keeps sent (handleResponse env pkt) := by
  unfold handleResponse
  refine Keeps.ite (fun _ => keeps_fail _) fun _ => (keeps_slice _ _ _).bind fun id =>
    (keeps_readU32 id).bind fun sid => keeps_get_bind fun self => ?_
  rcases self.peer.state with _ | initiator | responder | ⟨transport, sid', _ | rehandshake⟩
  case handshakingAsInitiator =>
    exact Keeps.bind (fun _ => rfl) fun _ => (keeps_on _ _).bind fun _ =>
      (keeps_lift _ _).bind fun _ _ => rfl
  case ready.some =>
    exact Keeps.bind (fun _ => rfl) fun _ => (keeps_on _ _).bind fun _ =>
      (keeps_lift _ _).bind fun _ _ => rfl
  all_goals exact fun _ => rfl

omit [Profile] in
theorem keepsSent_handleCookie : Keeps sent (handleCookie env pkt) := by
  unfold handleCookie
  exact Keeps.ite (fun _ => keeps_pure _) fun _ => (keeps_slice _ _ _).bind fun _ =>
    (Arr.keeps_copyFromSlice _ _ _ _).bind fun _ _ => rfl

omit [Profile] in
theorem keepsSent_handleTransport : Keeps sent (handleTransport env pkt) :=
  Keeps.comp UdpTransport.sent keepsTransport_handleTransport

omit [Profile] in
theorem keepsSent_handleRelayedTransport : Keeps sent (handleRelayedTransport env pkt) :=
  Keeps.comp UdpTransport.sent keepsTransport_handleRelayedTransport

/-- The gate sends at most a COOKIE. -/
theorem checkInitCookie_sends (cookieSecret : Key) :
    SendsInits G (checkInitCookie cookieSecret env source pkt) := by
  unfold checkInitCookie
  refine Logs.bind (Keeps.logs fun _ => rfl) fun _ => logs_get_bind fun self =>
    Logs.bind (keeps_nextCount _).logs fun count => Logs.bind (Keeps.logs fun _ => rfl) fun _ =>
    Logs.ite (fun _ => Keeps.logs ?_) fun _ => Logs.ite (fun _ => ?_) fun _ => logs_pure _
  · refine Keeps.ite (fun _ => keeps_pure _) fun _ => ?_
    cases self.peer.sentCookie with
    | none => exact fun _ => rfl
    | some sent =>
        exact (keeps_slice _ _ _).bind fun _ => (keeps_slice _ _ _).bind fun _ =>
          Keeps.ite (fun _ => keeps_pure _) fun _ _ => rfl
  · -- No cookie is ever made: the key material is copied into an array of another length.
    rw [generateCookie_panic]
    exact fun _ => trivial

/-! ## The INIT loop and maintenance -/

omit [Profile] in
/-- The INIT loop sends the INIT that the initiator of the session wrote. -/
theorem retryInit_sends (hvalid : self.peer.Valid)
    (h : ∀ (start initiator : Initiator) msg, self.peer.state = .handshakingAsInitiator start →
      self.peer.nextInitAt.any (fun due => decide (due ≤ env.now)) = true →
      env.Takes self.peer.config → initiator.timestamp = start.timestamp → initiator.Wrote msg →
      G msg) :
    (retryInit keypair env rng).wp (Grows sent (InitsAre G) self.sent) self := by
  unfold retryInit
  rw [wp_get_bind, wp_ite]
  refine ⟨fun hdue => ?_, fun _ => Extends.refl _⟩
  cases hstate : self.peer.state with
  | init => exact Extends.refl _
  | handshakingAsResponder responder => exact Extends.refl _
  | ready transport sid rehandshake => exact Extends.refl _
  | handshakingAsInitiator start =>
      rw [PeerSession.Valid, hstate] at hvalid
      obtain ⟨_, _, _, hcached⟩ := hvalid
      have hsends : ∀ (initiator : Initiator) msg (s : Session), s.sent = self.sent →
          initiator.timestamp = start.timestamp → initiator.Wrote msg →
          (sendMaybeRelay env self.peer.config keypair.public msg >>= fun _ =>
            modifyPeer fun peer =>
              { peer with nextInitAt := some (env.now + initRetryInterval) }).wp
            (Grows sent (InitsAre G) self.sent) s := by
        intro initiator msg s hsent hstamp hwrote
        have hloop : SendsInits G (sendMaybeRelay env self.peer.config keypair.public msg >>=
            fun _ => modifyPeer fun peer =>
              { peer with nextInitAt := some (env.now + initRetryInterval) }) := by
          refine Logs.bind (sendInit_sends hwrote.head fun htakes => ?_) fun _ =>
            Keeps.logs fun _ => rfl
          exact h start initiator msg hstate hdue htakes hstamp hwrote
        exact hloop.after (Extends.of_eq hsent)
      refine (wp_bind _ _).2 (wp_cacheInit (fun msg hmsg => ?_)
        (fun message state init msg _ hwrite hinit hmsg => ?_)
        (fun e state result _ _ => Extends.refl _))
      · -- The INIT was cached: its timestamp is the one from when it was written.
        exact hsends start msg self rfl rfl (hcached msg hmsg)
      · exact hsends { start with state } msg _ rfl rfl (Initiator.wrote_of_write hwrite hinit hmsg)

/-- The INITs that carrying out the action can send are as required. -/
def Action.Sends (G : Bytes → Prop) (env : Env) (config : PeerConfig)
    (pending : Option Rehandshake) : Action → Prop
  | .startRekey _ initMsg => initMsg[0]? = some messageTypeInit ∧ G initMsg
  | .retryRekey => ∀ rehandshake ∈ pending,
      rehandshake.initMsg[0]? = some messageTypeInit ∧
        (env.Takes config → G rehandshake.initMsg)
  | _ => True

/-- Sending a packet leaves the rekey that is in flight as it is. -/
theorem sendEncrypted_pending (packet : Bytes) (room : ℕ) :
    (sendEncrypted keypair env packet room).wp
      (Leaves fun peer => peer.config = self.peer.config ∧
        peer.state.pending = self.peer.state.pending) self := by
  unfold sendEncrypted
  rw [wp_get_bind]
  cases hstate : self.peer.state with
  | init => exact ⟨rfl, congrArg _ hstate⟩
  | handshakingAsInitiator initiator => exact ⟨rfl, congrArg _ hstate⟩
  | handshakingAsResponder responder => exact ⟨rfl, congrArg _ hstate⟩
  | ready transport sid rehandshake =>
      simp only
      rw [wp_on_bind]
      refine Transport.wp_encrypt (fun ciphertext inner _ => ?_) (fun e transport' _ => ⟨rfl, rfl⟩)
        fun _ _ => trivial
      simp only
      rw [wp_setState_bind, lift_ok, pure_bind, wp_bind]
      exact wp_sendMaybeRelay (fun _ => ⟨rfl, rfl⟩) fun _ => ⟨rfl, rfl⟩

/-- Carrying out an action sends what is required of it, and leaves required what is required of
the actions after it. -/
theorem perform_sends {action : Action} {config : PeerConfig} {pending : Option Rehandshake}
    (hconfig : self.peer.config = config) (hpending : self.peer.state.pending = pending)
    (h : action.Sends G env config pending) :
    (perform keypair env action).wp
      ⟨fun _ s => Extends (InitsAre G) self.sent s.sent ∧ ∀ next : Action,
          next.Sends G env config pending → next.Sends G env s.peer.config s.peer.state.pending,
        fun _ s => Extends (InitsAre G) self.sent s.sent, True⟩ self := by
  have hsame : ∀ peer : PeerSession, peer.config = self.peer.config →
      peer.state.pending = self.peer.state.pending → ∀ next : Action,
      next.Sends G env config pending → next.Sends G env peer.config peer.state.pending := by
    intro peer hc hp next hnext
    rw [hc, hp, hconfig, hpending]
    exact hnext
  -- Before the state is assigned, an action has at most sent its INIT.
  have hsend : ∀ {initMsg : Bytes}, initMsg[0]? = some messageTypeInit →
      (env.Takes config → G initMsg) →
      (sendMaybeRelay env self.peer.config keypair.public initMsg).wp
        ⟨fun _ s => Extends (InitsAre G) self.sent s.sent ∧ s.peer = self.peer,
          fun _ s => Extends (InitsAre G) self.sent s.sent, True⟩ self := by
    intro initMsg hhead hgood
    have hlogs : SendsInits G (sendMaybeRelay env self.peer.config keypair.public initMsg) :=
      sendInit_sends hhead (hconfig ▸ hgood)
    exact wp_mono (wp_and (hlogs self) (keepsPeer_sendMaybeRelay _ _ _ self)) (fun _ s hs => hs)
      (fun _ s hs => hs.1) fun hpanic => hpanic.1
  cases action with
  | markStale => exact ⟨Extends.refl _, hsame _ rfl rfl⟩
  | sendKeepalive =>
      refine wp_mono (wp_and (sendEncrypted_sends [] _ self) (sendEncrypted_pending [] _))
        (fun _ s hs => ?_) (fun _ s hs => hs.1) fun hpanic => hpanic.1
      exact ⟨hs.1, hsame _ hs.2.1 hs.2.2⟩
  | startRekey initiator initMsg =>
      obtain ⟨hhead, hgood⟩ := h
      unfold perform
      rw [wp_get_bind, wp_bind]
      refine wp_mono (hsend hhead fun _ => hgood) (fun _ s hs => ?_) (fun _ _ hs => hs) id
      obtain ⟨hsends, hpeer⟩ := hs
      cases hstate : self.peer.state with
      | ready transport sid rehandshake =>
          refine ⟨hsends, fun next hnext => ?_⟩
          cases next with
          | retryRekey =>
              intro r hr
              cases hr
              exact ⟨hhead, fun _ => hgood⟩
          | markStale => trivial
          | sendKeepalive => trivial
          | startRekey other otherMsg => exact hnext
      | init => exact ⟨hsends, hpeer ▸ hsame _ rfl rfl⟩
      | handshakingAsInitiator initiator => exact ⟨hsends, hpeer ▸ hsame _ rfl rfl⟩
      | handshakingAsResponder responder => exact ⟨hsends, hpeer ▸ hsame _ rfl rfl⟩
  | retryRekey =>
      unfold perform
      rw [wp_get_bind]
      rcases hstate : self.peer.state with _ | _ | _ | ⟨transport, sid, _ | rehandshake⟩
      case ready.some =>
        rw [hstate] at hpending
        obtain ⟨hhead, hgood⟩ := h rehandshake hpending.symm
        simp only
        rw [wp_bind]
        refine wp_mono (hsend hhead hgood) (fun _ s hs => ?_) (fun _ _ hs => hs) id
        obtain ⟨hsends, hpeer⟩ := hs
        refine ⟨hsends, fun next hnext => ?_⟩
        cases next with
        | retryRekey =>
            intro r hr
            cases hr
            show _ ∧ (env.Takes s.peer.config → _)
            rw [hpeer, hconfig]
            exact ⟨hhead, hgood⟩
        | markStale => trivial
        | sendKeepalive => trivial
        | startRekey other otherMsg => exact hnext
      all_goals exact ⟨Extends.refl _, hsame _ rfl rfl⟩

omit [Profile] in
/-- A rekey is sent again only when it is due. -/
theorem planPeer_due {σ : Type} {timings : ManagerTimings} {peer : PeerSession} (s : σ) :
    (planPeer keypair timings env rng peer).wp
      ⟨fun actions _ => Action.retryRekey ∈ actions →
        ∃ r ∈ peer.state.pending, r.nextRetryAt ≤ env.now, fun _ _ => True, True⟩ s := by
  have hnever : ∀ {actions : List Action}, (∀ action ∈ actions, action ≠ .retryRekey) →
      Action.retryRekey ∈ actions → ∃ r ∈ peer.state.pending, r.nextRetryAt ≤ env.now :=
    fun hall hmem => absurd rfl (hall _ hmem)
  unfold planPeer
  rw [wp_ite]
  refine ⟨fun _ => hnever (by simp), fun _ => ?_⟩
  cases hstate : peer.state with
  | init => exact fun hmem => nomatch hmem
  | handshakingAsInitiator initiator => exact fun hmem => nomatch hmem
  | handshakingAsResponder responder => exact fun hmem => nomatch hmem
  | ready transport sid rehandshake =>
      rw [hstate] at hnever
      cases rehandshake with
      | some rehandshake =>
          intro hmem
          refine ⟨rehandshake, rfl, ?_⟩
          by_contra hlate
          rw [if_neg hlate] at hmem
          cases hmem
      | none =>
          simp only
          rw [wp_ite]
          refine ⟨fun _ => hnever (by simp), fun _ => ?_⟩
          have hthen : ∀ actions : List Action, (∀ action ∈ actions, action ≠ .retryRekey) →
              (if peer.lastTxAt.all (fun t => decide (timings.keepalive < env.now.durationSince t))
                then pure (.sendKeepalive :: actions) else pure actions :
                Method σ TunnelError (List Action)).wp
              ⟨fun actions _ => Action.retryRekey ∈ actions → ∃ r ∈
                (PeerState.ready transport sid none).pending, r.nextRetryAt ≤ env.now,
                fun _ _ => True, True⟩ s := by
            intro actions hactions
            rw [wp_ite]
            refine ⟨fun _ => hnever (List.forall_mem_cons.2 ⟨nofun, hactions⟩),
              fun _ => hnever hactions⟩
          rw [wp_bind, planRekey, wp_ite]
          refine ⟨fun _ => wp_buildRekey (hthen [] (by simp)) fun initiator msg _ _ =>
            hthen _ (by simp), fun _ => hthen [] (by simp)⟩

end Session

namespace TunnelManager

variable {self self' : TunnelManager} {env : Env} {idx : ℕ} {source : SocketAddr} {pkt : Bytes}
  {G : Bytes → Prop} {P : SocketAddr × Bytes → Prop}

/-- The datagrams that the network was handed. -/
abbrev sent (self : TunnelManager) : List (SocketAddr × Bytes) := self.transport.sent

/-! ## Datagrams that come in -/

/-- The datagrams that a handler sends are the ones that it sends at its peer. -/
theorem atPeer_grows {α : Type} {handler : Method Session TunnelError α}
    (h : ∀ peer, self.peers[idx]? = some peer →
      handler.wp (Grows Session.sent P self.sent) ⟨peer, self.transport, self.device⟩) :
    (atPeer idx handler).wp (Grows sent P self.sent) self := by
  cases hpeer : self.peers[idx]? with
  | none =>
      rw [wp_def, atPeer, bind_ok (get_apply self), hpeer]
      trivial
  | some peer =>
      have hpost := h peer hpeer
      rw [wp_def, atPeer_eq hpeer]
      rw [wp_def] at hpost
      cases hrun : handler ⟨peer, self.transport, self.device⟩ with
      | ok a session =>
          rw [hrun] at hpost
          exact hpost
      | err e session =>
          rw [hrun] at hpost
          exact hpost
      | panic => trivial

theorem atPeer_logs {α : Type} {handler : Method Session TunnelError α} (idx : ℕ)
    (h : Logs Session.sent P handler) : Logs sent P (atPeer idx handler) :=
  fun _ => atPeer_grows fun _ _ => h _

theorem keepsSent_modifyAt (idx : ℕ) (f : PeerSession → PeerSession) :
    Keeps sent (atPeer idx (Session.modifyPeer f)) :=
  keeps_get_bind fun _ => (keeps_unwrap _).bind fun _ _ => rfl

/-- The datagram carries no INIT, unless it is the received one. -/
def Forwards (pkt : Bytes) (entry : SocketAddr × Bytes) : Prop :=
  CarriesInit entry.2 → entry.2 = pkt

/-- A handler that sends no INIT does so at its peer. -/
theorem atPeer_forwards {α : Type} {handler : Method Session TunnelError α} (idx : ℕ)
    (h : Session.SendsInits (fun _ => False) handler) :
    Logs sent (Forwards pkt) (atPeer idx handler) :=
  atPeer_logs idx (h.mono fun _ hnone hinit => (hnone hinit).elim)

theorem keepsSent_refreshEndpoint (idx : ℕ) : Keeps sent (refreshEndpoint env idx source) := by
  refine keeps_get_bind fun self => (keeps_unwrap _).bind fun peer =>
    Keeps.ite (fun _ => ?_) fun _ => keepsSent_modifyAt _ _
  refine Keeps.bind (fun _ => rfl) fun _ => (keepsSent_modifyAt _ _).bind fun _ => ?_
  exact keepsSent_modifyAt _ _

variable [Profile]

theorem gateInit_forwards (idx : ℕ) {initPkt : Bytes} :
    Logs sent (Forwards pkt) (gateInit env idx source initPkt) :=
  logs_get_bind fun _ => Logs.bind (atPeer_forwards _ (Session.checkInitCookie_sends _)) fun _ =>
    Logs.ite (fun _ => logs_pure _) fun _ => atPeer_forwards _ Session.handleInit_sends

theorem handleDirect_forwards (idx : ℕ) (msgType : UInt8) :
    Logs sent (Forwards pkt) (handleDirect env idx source msgType pkt) :=
  Logs.ite (fun _ => gateInit_forwards idx) fun _ =>
    Logs.ite (fun _ => atPeer_forwards _ Session.keepsSent_handleResponse.logs) fun _ =>
    Logs.ite (fun _ => atPeer_forwards _ Session.keepsSent_handleTransport.logs) fun _ =>
    Logs.ite (fun _ => atPeer_forwards _ Session.keepsSent_handleCookie.logs) fun _ => logs_pure _

theorem handleRelayed_forwards (idx : ℕ) (inner : Bytes) :
    Logs sent (Forwards pkt) (handleRelayed env idx source inner) :=
  logs_get_bind fun _ =>
    Logs.ite (fun _ => atPeer_forwards _ Session.keepsSent_handleRelayedTransport.logs) fun _ =>
    Logs.ite (fun _ => atPeer_forwards _ Session.handleInitViaRelay_sends) fun _ =>
    Logs.ite (fun _ => atPeer_forwards _ Session.keepsSent_handleResponse.logs) fun _ => logs_fail _

omit [Profile] in
/-- A packet on its way to another peer is sent as it came. -/
theorem forwardRelay_forwards (destIp : Ipv4Addr) :
    Logs sent (Forwards pkt) (forwardRelay env destIp pkt) := by
  refine logs_get_bind fun self => ?_
  cases self.peers.find? fun peer => peer.config.peerIp = destIp with
  | none => exact logs_fail _
  | some dest =>
      intro s
      simp only
      rw [sendTo, wp_zoom, UdpTransport.sendTo]
      cases env.sendError _ pkt with
      | none => exact Extends.snoc fun _ => rfl
      | some e => exact Extends.refl _

theorem handleRelay_forwards : Logs sent (Forwards pkt) (handleRelay env source pkt) := by
  refine Logs.ite (fun _ => logs_fail _) fun _ => Logs.bind (keeps_slice _ _ _).logs fun header =>
    Logs.bind (keeps_expectArr _ _).logs fun fromPub => Logs.bind (keeps_index _ _).logs fun a =>
    Logs.bind (keeps_index _ _).logs fun b => Logs.bind (keeps_index _ _).logs fun c =>
    Logs.bind (keeps_index _ _).logs fun d => Logs.bind (keeps_slice _ _ _).logs fun inner =>
    logs_get_bind fun self => Logs.ite (fun _ => ?_) fun _ => forwardRelay_forwards _
  cases self.pubkeyToPeer fromPub with
  | none => exact logs_fail _
  | some idx => exact handleRelayed_forwards idx inner

/-- The only INIT that a manager sends because of a datagram is that datagram, on its way to another
peer. -/
theorem handleIncoming_forwards : Logs sent (Forwards pkt) (handleIncoming env source pkt) := by
  refine Logs.ite (fun _ => logs_pure _) fun _ => Logs.bind (keeps_index _ _).logs fun msgType =>
    logs_get_bind fun self => Logs.ite (fun _ => ?_) fun _ => ?_
  · refine Logs.ite (fun _ => logs_pure _) fun _ => Logs.bind (keeps_slice _ _ _).logs fun header =>
      Logs.bind (keeps_expectArr _ _).logs fun fromPub => ?_
    cases self.pubkeyToPeer fromPub with
    | none => exact logs_pure _
    | some idx =>
        refine Logs.bind (keeps_modify fun self => ?_).logs fun _ =>
          Logs.bind (keepsSent_modifyAt _ _).logs fun _ => handleRelay_forwards
        unfold learnEndpoint
        split <;> rfl
  · cases self.endpointToPeer source with
    | some idx =>
        exact Logs.bind (keepsSent_refreshEndpoint idx).logs fun _ => handleDirect_forwards idx _
    | none =>
        refine Logs.ite (fun _ => Logs.bind (Keeps.logs ?_) fun found => ?_) fun _ => logs_pure _
        · exact keeps_get_bind fun _ => (keeps_slice _ _ _).bind fun _ =>
            (keeps_slice _ _ _).bind fun _ => keeps_pure _
        · cases found with
          | none => exact logs_pure _
          | some idx =>
              exact Logs.bind (keepsSent_refreshEndpoint idx).logs fun _ => gateInit_forwards idx

/-! ## What a manager sends on its own -/

/-- What the actions can send is as required. -/
def AllSend (G : Bytes → Prop) (env : Env) (self : TunnelManager)
    (actions : List (ℕ × Session.Action)) : Prop :=
  ∀ entry ∈ actions, ∀ peer, self.peers[entry.1]? = some peer →
    entry.2.Sends G env peer.config peer.state.pending

theorem perform_step {keypair : Keypair} {action : Session.Action}
    {rest : List (ℕ × Session.Action)} (h : self.AllSend G env ((idx, action) :: rest)) :
    (atPeer idx (Session.perform keypair env action)).wp
      ⟨fun _ s => Extends (InitsAre G) self.sent s.sent ∧ s.AllSend G env rest,
        fun _ s => Extends (InitsAre G) self.sent s.sent, True⟩ self := by
  rw [wp_def]
  cases hpeer : self.peers[idx]? with
  | none =>
      rw [atPeer, bind_ok (get_apply self), hpeer]
      trivial
  | some peer =>
      have hperform : (Session.perform keypair env action).wp _
          ⟨peer, self.transport, self.device⟩ :=
        Session.perform_sends rfl rfl (h _ List.mem_cons_self peer hpeer)
      rw [atPeer_eq hpeer]
      rw [wp_def] at hperform
      cases hrun : Session.perform keypair env action ⟨peer, self.transport, self.device⟩ with
      | panic => trivial
      | err e session =>
          rw [hrun] at hperform
          exact hperform
      | ok a session =>
          rw [hrun] at hperform
          obtain ⟨hgrows, hnext⟩ := hperform
          refine ⟨hgrows, fun entry hentry p hp => ?_⟩
          have hbefore := h entry (List.mem_cons_of_mem _ hentry)
          by_cases hsame : entry.1 = idx
          · -- The next action is for the same peer, which has just been changed.
            rw [hsame] at hp hbefore
            cases (List.getElem?_set_self (List.getElem?_eq_some_iff.1 hpeer).1).symm.trans hp
            exact hnext entry.2 (hbefore peer hpeer)
          · rw [List.getElem?_set_ne (Ne.symm hsame)] at hp
            exact hbefore p hp

/-- Carrying out actions sends what is required of them. -/
theorem performAll_sends {keypair : Keypair} {actions : List (ℕ × Session.Action)}
    (h : self.AllSend G env actions) :
    (performAll keypair env actions).wp (Grows sent (InitsAre G) self.sent) self := by
  induction actions generalizing self with
  | nil => exact Extends.refl _
  | cons entry rest ih =>
      rw [performAll, wp_bind]
      refine wp_mono (perform_step h) (fun _ s hs => ?_) (fun _ _ hgrows => hgrows) id
      exact wp_mono (ih hs.2) (fun _ _ hrest => hs.1.trans hrest)
        (fun _ _ hrest => hs.1.trans hrest) id

/-- Maintenance is due. -/
def Ticks (self : TunnelManager) (env : Env) : Prop :=
  self.config.timings.maintenanceTick ≤ env.now.durationSince self.lastMaintenanceAt

/-- Maintenance sends INITs of rekeys that start, and of pending ones that are due. -/
theorem maintenance_sends (hvalid : self.AllValid)
    (hstart : ∀ (initiator : Initiator) msg, initiator.timestamp = env.tai →
      initiator.Wrote msg → G msg)
    (hretry : self.Ticks env → ∀ (idx : ℕ) (peer : PeerSession) (r : Rehandshake),
      self.peers[idx]? = some peer → r ∈ peer.state.pending → r.nextRetryAt ≤ env.now →
      env.Takes peer.config → r.initiator.Wrote r.initMsg → G r.initMsg) :
    (maintenance env).wp (Grows sent (InitsAre G) self.sent) self := by
  rw [maintenance, wp_get_bind, wp_ite]
  refine ⟨fun _ => Extends.refl _, fun hticks => ?_⟩
  obtain ⟨_, hpeers, _, _⟩ :=
    rotateCookieSecret_fields env { self with lastMaintenanceAt := env.now }
  have hsent : (rotateCookieSecret env { self with lastMaintenanceAt := env.now }).sent =
      self.sent := by
    unfold rotateCookieSecret
    split <;> rfl
  rw [wp_modify_bind]
  generalize rotateCookieSecret env { self with lastMaintenanceAt := env.now } = rotated at *
  -- The plan is made for all peers before any of it is carried out.
  obtain ⟨actions, hplan, hplanned, hsuits⟩ := plan_ok self.config env rotated self.peers
  have hdue : (plan self.config env 0 self.peers).wp _ rotated :=
    plan_for (fun _ _ s => Session.planPeer_due s) self.peers 0 rotated
  rw [wp_def, hplan] at hdue
  rw [wp_def, bind_ok hplan, ← hsent]
  refine performAll_sends fun entry hentry peer hpeer => ?_
  rw [hpeers] at hpeer
  have hplan' := hplanned entry hentry peer hpeer
  have hfits := hsuits entry.1 peer hpeer
  have hmem : entry.2 ∈ actionsFor entry.1 actions :=
    List.mem_map_of_mem (List.mem_filter.2 ⟨hentry, decide_eq_true rfl⟩)
  obtain ⟨i, action⟩ := entry
  cases action with
  | markStale => trivial
  | sendKeepalive => trivial
  | startRekey initiator initMsg =>
      have hwrote : initiator.Wrote initMsg := by
        generalize actionsFor i actions = mine at hfits hmem
        cases hfits with
        | none => cases hmem
        | silent _ => cases List.mem_singleton.1 hmem
        | heard _ hproper => exact (hproper _ hmem).2
      have hfresh : initiator.Fresh _ _ _ _ := hplan'
      exact ⟨hwrote.head, hstart initiator initMsg hfresh.timestamp hwrote⟩
  | retryRekey =>
      intro r hr
      have hresent := hdue.2 i peer hpeer
      rw [Nat.zero_add] at hresent
      obtain ⟨r', hr', hdue'⟩ := hresent hmem
      cases (Option.mem_unique hr hr')
      have hwrote := (hvalid _ peer hpeer).pending hr
      refine ⟨hwrote.head, fun htakes => ?_⟩
      exact hretry (not_lt.1 hticks) _ peer r hpeer hr hdue' htakes hwrote

/-! ## Fresh INITs -/

/-- The timestamp is the clock reading from when an attempt began whose INITs the event sends: when
the session was made, or when the rekey started. -/
inductive Attempts (self : TunnelManager) : Event → Tai64N → Prop where
  | first {env : Env} {idx : ℕ} {peer : PeerSession} {initiator : Initiator} :
      self.peers[idx]? = some peer → peer.state = .handshakingAsInitiator initiator →
      Attempts self (.retryInit env idx) initiator.timestamp
  | rekey {env : Env} {idx : ℕ} {peer : PeerSession} {rehandshake : Rehandshake} :
      self.peers[idx]? = some peer → rehandshake ∈ peer.state.pending →
      Attempts self (.maintenance env) rehandshake.initiator.timestamp
  | starts {env : Env} : Attempts self (.maintenance env) env.tai

/-- An initiator of an attempt wrote the INIT. The timestamp that it sealed is near, so that the
replay check of a responder with the clock of the sender lets it pass. -/
def FreshInit (self : TunnelManager) (event : Event) (init : Bytes) : Prop :=
  ∃ initiator : Initiator, initiator.Wrote init ∧ self.Attempts event initiator.timestamp ∧
    Near event.inputs.tai initiator.timestamp ∧
    (event.inputs.tai.seconds.toNat + 120 < 2 ^ 63 →
      Responder.InWindow event.inputs.tai initiator.timestamp)

/-- Every INIT that the event hands the network is fresh, but for one that came in and is forwarded
to another peer. -/
def SendsFresh (self : TunnelManager) (event : Event) : Prop :=
  ∀ self', fire self event = some self' →
    ∀ entry ∈ self'.sent.drop self.sent.length, CarriesInit entry.2 →
      (∃ env source, event = .incoming env source entry.2) ∨
        self.FreshInit event (payload entry.2)

/-- Where the INIT of an attempt is due and the network takes datagrams for the peer, the attempt
has begun no longer ago than the replay window. -/
def Timely (self : TunnelManager) : Event → Prop
  | .retryInit env idx => ∀ (peer : PeerSession) (initiator : Initiator),
      self.peers[idx]? = some peer → peer.state = .handshakingAsInitiator initiator →
      peer.nextInitAt.any (fun due => decide (due ≤ env.now)) = true → env.Takes peer.config →
      Near env.tai initiator.timestamp
  | .maintenance env => self.Ticks env → ∀ peer ∈ self.peers, ∀ rehandshake ∈ peer.state.pending,
      rehandshake.nextRetryAt ≤ env.now → env.Takes peer.config →
      Near env.tai rehandshake.initiator.timestamp
  | _ => True

/-- A timely event sends fresh INITs. -/
theorem Timely.sendsFresh {event : Event} (hvalid : self.AllValid) (h : self.Timely event) :
    self.SendsFresh event := by
  intro self' hfire entry hentry hinit
  cases event with
  | addPeer env config =>
      have hsent : self'.sent = self.sent := by
        obtain rfl | ⟨made, _, rfl⟩ := addPeer_cases hfire
        · rfl
        · rfl
      rw [hsent, List.drop_length] at hentry
      cases hentry
  | incoming env source pkt =>
      have hsame : entry.2 = pkt := handleIncoming_forwards.of_mem_drop hfire hentry hinit
      exact Or.inl ⟨env, source, by rw [hsame]⟩
  | dispatchTunPacket env pkt =>
      have hlogs : Logs sent (InitsAre (self.FreshInit (.dispatchTunPacket env pkt)))
          (TunnelManager.dispatchTunPacket env pkt) := by
        refine logs_get_bind fun self => ?_
        cases self.lookupPeerByDestIp pkt with
        | none => exact logs_pure _
        | some idx => exact atPeer_logs idx (Session.sendEncrypted_sends pkt 1600)
      exact Or.inr (hlogs.of_mem_drop hfire hentry hinit)
  | retryInit env idx =>
      have hwp : (TunnelManager.retryInit env idx).wp
          (Grows sent (InitsAre (self.FreshInit (.retryInit env idx))) self.sent) self := by
        refine atPeer_grows fun peer hpeer => Session.retryInit_sends (hvalid idx peer hpeer) ?_
        intro start initiator msg hstate hdue htakes hstamp hwrote
        have hnear := h peer start hpeer hstate hdue htakes
        rw [← hstamp] at hnear
        exact ⟨initiator, hwrote, hstamp ▸ .first hpeer hstate, hnear, hnear.in_window⟩
      exact Or.inr ((wp_state hwp hfire).of_mem_drop hentry hinit)
  | maintenance env =>
      have hwp : (TunnelManager.maintenance env).wp
          (Grows sent (InitsAre (self.FreshInit (.maintenance env))) self.sent) self := by
        refine maintenance_sends hvalid (fun initiator msg hstamp hwrote => ?_)
          fun hticks idx peer r hpeer hr hdue htakes hwrote => ?_
        · have hnear : Near env.tai initiator.timestamp := hstamp ▸ Near.refl env.tai
          exact ⟨initiator, hwrote, hstamp ▸ .starts, hnear, hnear.in_window⟩
        · have hnear := h hticks peer (List.mem_of_getElem? hpeer) r hr hdue htakes
          exact ⟨r.initiator, hwrote, .rekey hpeer hr, hnear, hnear.in_window⟩
      exact Or.inr ((wp_state hwp hfire).of_mem_drop hentry hinit)

/-- In every run in which no attempt's INIT is due later than the replay window after the attempt
began, every INIT that the manager transmits is fresh. -/
theorem inits_fresh {config : ManagerConfig} {peerCfgs : List PeerConfig} {start : TunnelManager}
    {events : List Event} (hnew : new env config peerCfgs = .ok start)
    (htimely : Transition.AllSteps fire Timely start events) :
    Transition.AllSteps fire SendsFresh start events := by
  have hstart : start.Reachable := ⟨env, config, peerCfgs, start, hnew, .refl start⟩
  have hsame : Transition.AllSteps fire (fun _ _ => True) start events ↔
      Transition.AllSteps fire SendsFresh start events := by
    refine Transition.allSteps_congr (I := fun manager => manager.Sound ∧ manager.AllValid)
      (fun self event next hI _ hfire => ?_) (fun self event hI hgiven => ?_)
      ⟨hstart.sound, hstart.allValid⟩ htimely
    · exact ⟨(fire_advances hI.1 hfire).sound, hI.2.fire hI.1 hfire⟩
    · exact iff_of_true trivial (hgiven.sendsFresh hI.2)
  exact hsame.1 (Transition.allSteps_of_forall (fun _ _ => trivial) start events)

end TunnelManager

end General

section Symbolic

open Symbolic TunnelManager

attribute [local instance] Symbolic.primitives Symbolic.release

/-- A pass of the INIT loop for the only peer, some seconds after the session was made. -/
def initPass (seconds : ℕ) : Event :=
  .retryInit (quietEnv (seconds * second) ⟨1000 + UInt64.ofNat seconds, 0⟩ 7) 0

/-- The session of the only peer waits for a RESPONSE, and its timestamp passes the check. -/
def stamped (check : Tai64N → Bool) (self : TunnelManager) : Bool :=
  self.peers[0]?.any fun peer => match peer.state with
    | .handshakingAsInitiator initiator => check initiator.timestamp
    | _ => false

theorem stamped_spec {check : Tai64N → Bool} {self : TunnelManager} (h : stamped check self = true)
    {peer : PeerSession} {initiator : Initiator} (hpeer : self.peers[0]? = some peer)
    (hstate : peer.state = .handshakingAsInitiator initiator) :
    check initiator.timestamp = true := by
  rw [stamped, hpeer, Option.any_some, hstate] at h
  exact h

/-- The INIT that is sent again after two seconds is fresh. -/
theorem TunnelManager.retry_fresh :
    ∃ start first next, new (quietEnv 0 ⟨1000, 0⟩ 7) (nodeConfig 1) [sessionWith 2 true] =
        .ok start ∧ fire start (initPass 0) = some first ∧ fire first (initPass 2) = some next ∧
      next.sent.length = 2 ∧ (∀ entry ∈ next.sent, CarriesInit entry.2) ∧
      Transition.AllSteps fire SendsFresh start [initPass 0, initPass 2] := by
  have hrun : (new (quietEnv 0 ⟨1000, 0⟩ 7) (nodeConfig 1) [sessionWith 2 true]).toOption.any
      (fun start => stamped (fun stamp => decide (Near ⟨1000, 0⟩ stamp)) start &&
        (fire start (initPass 0)).any fun first =>
          stamped (fun stamp => decide (Near ⟨1002, 0⟩ stamp)) first &&
          (fire first (initPass 2)).any fun next => decide (next.sent.length = 2) &&
            next.sent.all fun entry => decide (CarriesInit entry.2)) = true := by
    decide +kernel
  obtain ⟨start, hnew, hcheck⟩ := of_new hrun
  obtain ⟨hnow, hrest⟩ := Bool.and_eq_true_iff.1 hcheck
  obtain ⟨first, hfirst, hrest⟩ := (Option.any_eq_true _ _).1 hrest
  obtain ⟨hlater, hrest⟩ := Bool.and_eq_true_iff.1 hrest
  obtain ⟨next, hnext, hrest⟩ := (Option.any_eq_true _ _).1 hrest
  obtain ⟨hlength, hinits⟩ := Bool.and_eq_true_iff.1 hrest
  have htimely : Transition.AllSteps fire Timely start [initPass 0, initPass 2] := by
    refine ⟨fun peer initiator hpeer hstate _ _ => ?_, fun after hafter => ⟨?_, fun _ _ => trivial⟩⟩
    · exact of_decide_eq_true (stamped_spec hnow hpeer hstate)
    · cases hfirst.symm.trans hafter
      intro peer initiator hpeer hstate _ _
      exact of_decide_eq_true (stamped_spec hlater hpeer hstate)
  refine ⟨start, first, next, hnew, hfirst, hnext, of_decide_eq_true hlength, ?_,
    inits_fresh hnew htimely⟩
  intro entry hentry
  exact of_decide_eq_true (List.all_eq_true.1 hinits entry hentry)

/-- The INIT of node 1 is refused as too old by a responder of node 2 with this clock. -/
def refusedAt (clock : Tai64N) (init : Bytes) : Bool :=
  (Responder.new (keypair 2) (key 0) 1 clock).toOption.any fun responder =>
    match responder.consumeInit init ((quietEnv 0 clock 8).ephemeral 0) with
    | .err .invalidTimestamp _ => true
    | _ => false

/-- The INIT of a session whose peer has been down for 200 seconds is sent with the timestamp from
when the session was made, and a responder whose clock is the sender's refuses it. -/
theorem TunnelManager.stale_init_sent :
    ∃ self self' entry, self.Reachable ∧ fire self (initPass 200) = some self' ∧
      entry ∈ self'.sent.drop self.sent.length ∧ CarriesInit entry.2 ∧
      refusedAt (initPass 200).inputs.tai (payload entry.2) = true ∧
      ¬ self.SendsFresh (initPass 200) := by
  have hrun : (after (quietEnv 0 ⟨1000, 0⟩ 7) (nodeConfig 1) [sessionWith 2 true]
      [initPass 0]).any (fun self =>
        stamped (fun stamp => decide (¬ Near ⟨1200, 0⟩ stamp)) self &&
        (fire self (initPass 200)).any fun self' =>
          (self'.sent.drop self.sent.length).any fun entry => decide (CarriesInit entry.2) &&
            refusedAt (initPass 200).inputs.tai (payload entry.2)) = true := by
    decide +kernel
  obtain ⟨self, hself, hcheck⟩ := (Option.any_eq_true _ _).1 hrun
  obtain ⟨hfar, hrest⟩ := Bool.and_eq_true_iff.1 hcheck
  obtain ⟨self', hfire, hrest⟩ := (Option.any_eq_true _ _).1 hrest
  obtain ⟨entry, hentry, hrest⟩ := List.any_eq_true.1 hrest
  obtain ⟨hinit, hrefused⟩ := Bool.and_eq_true_iff.1 hrest
  have hinit : CarriesInit entry.2 := of_decide_eq_true hinit
  refine ⟨self, self', entry, reachable_of_after hself, hfire, hentry, hinit, hrefused, ?_⟩
  intro hfresh
  rcases hfresh self' hfire entry hentry hinit with hforwarded | hown
  · obtain ⟨_, _, hevent⟩ := hforwarded
    cases hevent
  · obtain ⟨initiator, _, hattempt, hnear, _⟩ := hown
    generalize initiator.timestamp = stamp at hattempt hnear
    cases hattempt with
    | first hpeer hstate => exact of_decide_eq_true (stamped_spec hfar hpeer hstate) hnear

end Symbolic

end Naboscale
