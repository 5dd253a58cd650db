import Naboscale.Tunnel.Panics

/-!
# When a datagram ends the step

`step` hands every error of `handle_incoming` on, and with it skips its later phases. Most of what
cannot be used is dropped without an error. What is not is listed here: packets that are too short
for their type, a RESPONSE that a waiting session does not accept, and on the way through a relay
also a packet that cannot be decrypted, that holds no message, or that goes to no peer.
-/

namespace Naboscale

open Rust

/-- The network and the tun device take everything. -/
structure Env.Quiet [Primitives] (env : Env) : Prop where
  send : ∀ dest buf, env.sendError dest buf = none
  write : ∀ buf, env.writeError buf = none

section Session

variable [Primitives]

/-- The session has a handshake that a RESPONSE can complete. -/
def PeerState.Awaits : PeerState → Prop
  | .handshakingAsInitiator _ => True
  | .ready _ _ (some _) => True
  | _ => False

/-- The packet has a header of the data channel, and its ciphertext is opened. -/
def Transport.Decrypts (transport : Transport) (pkt : Bytes) : Prop :=
  transportHeaderSize + 16 ≤ pkt.length ∧ pkt[0]? = some messageTypeTransport ∧
    ∃ plaintext inner, transportRead transport.inner
      (sub pkt transportHeaderSize pkt.length) 1500 = (.ok plaintext, inner)

/-- The messages that the handler of a session answers with an error. -/
def Session.Refuses (peer : PeerSession) : Message → Prop
  | .init pkt => pkt.length < initSize
  | .relayedInit pkt => pkt.length < initSize
  | .response pkt => pkt.length < responseSize ∨ peer.state.Awaits ∧ ¬ peer.state.Completes pkt
  | .transport pkt => pkt.length < transportHeaderSize + 16
  | .relayedTransport pkt => ∃ transport sid rehandshake,
      peer.state = .ready transport sid rehandshake ∧ ¬ transport.Decrypts pkt
  | .cookie _ => False

/-- The postcondition of a handler that fails exactly if it refuses its message. -/
def RefusesIff (refuses : Prop) : Method.Post Session TunnelError Unit where
  ok _ _ := ¬ refuses
  err _ _ := refuses
  panic := True

namespace Session

variable {self : Session} {env : Env} {keypair : Keypair} {rng : Ephemeral}
  {source : SocketAddr} {pkt : Bytes}

theorem handleResponse_refuses :
    (handleResponse env pkt).wp (RefusesIff (Refuses self.peer (.response pkt))) self := by
  refine wp_handleResponse (fun hlen _ => .inl hlen) (fun initiator inner hstate haccepts => ?_)
    (fun transport sid rehandshake inner hstate haccepts => ?_)
    (fun transport sid rehandshake hlen hstate hnot _ => ?_)
    (fun initiator hlen hstate hnot _ => ?_) (fun hlen hinitiator hrekey => ?_)
  · rintro (hlen | ⟨-, hnot⟩)
    · exact absurd haccepts.length (not_le.2 hlen)
    · exact hnot (.inl ⟨initiator, inner, hstate, haccepts⟩)
  · rintro (hlen | ⟨-, hnot⟩)
    · exact absurd haccepts.length (not_le.2 hlen)
    · exact hnot (.inr ⟨transport, sid, rehandshake, inner, hstate, haccepts⟩)
  · refine .inr ⟨hstate ▸ trivial, ?_⟩
    rintro (⟨_, _, hother, _⟩ | ⟨_, _, _, inner, hsame, haccepts⟩)
    · cases hstate.symm.trans hother
    · cases hstate.symm.trans hsame
      exact hnot inner haccepts
  · refine .inr ⟨hstate ▸ trivial, ?_⟩
    rintro (⟨_, inner, hsame, haccepts⟩ | ⟨_, _, _, _, hother, _⟩)
    · cases hstate.symm.trans hsame
      exact hnot inner haccepts
    · cases hstate.symm.trans hother
  · rintro (hshort | ⟨hawaits, -⟩)
    · omega
    · rcases hstate : self.peer.state with _ | initiator | _ | ⟨transport, sid, _ | rehandshake⟩ <;>
        rw [hstate] at hawaits
      · exact hawaits
      · exact hinitiator initiator hstate
      · exact hawaits
      · exact hawaits
      · exact hrekey transport sid rehandshake hstate

theorem handleTransport_refuses (hquiet : env.Quiet) :
    (handleTransport env pkt).wp (RefusesIff (Refuses self.peer (.transport pkt))) self := by
  unfold handleTransport
  rw [Method.wp_ite]
  refine ⟨fun hlen => hlen, fun hlen => ?_⟩
  rw [Method.wp_get_bind, Method.wp_ite]
  refine ⟨fun _ => hlen, fun _ => ?_⟩
  rcases hstate : self.peer.state with _ | _ | _ | ⟨transport, sid, rehandshake⟩
  case ready =>
    refine wp_onDecrypt fun result transport' _ => ?_
    simp only
    rw [wp_setState_bind]
    cases result with
    | error e => exact hlen
    | ok plaintext =>
        simp only
        rw [Method.wp_ite]
        refine ⟨fun _ => (wp_write _).2 ⟨fun _ => hlen, fun e he => ?_⟩, fun _ => hlen⟩
        cases (hquiet.write plaintext).symm.trans he
  all_goals exact hlen

theorem handleRelayedTransport_refuses (hquiet : env.Quiet)
    (htype : pkt[0]? = some messageTypeTransport) :
    (handleRelayedTransport env pkt).wp (RefusesIff (Refuses self.peer (.relayedTransport pkt)))
      self := by
  unfold handleRelayedTransport
  rw [Method.wp_get_bind]
  rcases hstate : self.peer.state with _ | _ | _ | ⟨transport, sid, rehandshake⟩
  case ready =>
    have hiff : Refuses self.peer (.relayedTransport pkt) ↔ ¬ transport.Decrypts pkt := by
      constructor
      · rintro ⟨_, _, _, hsame, hnot⟩
        cases hstate.symm.trans hsame
        exact hnot
      · exact fun hnot => ⟨transport, sid, rehandshake, hstate, hnot⟩
    rw [hiff]
    simp only
    rw [Method.wp_ite]
    refine ⟨fun hshort hdecrypts => absurd hdecrypts.1 (not_le.2 hshort), fun hlen => ?_⟩
    have hlen : transportHeaderSize + 16 ≤ pkt.length := not_lt.1 hlen
    rw [Method.wp_on_bind, Method.wp_def, Transport.decrypt_eq hlen htype]
    rcases hread : transportRead transport.inner (sub pkt transportHeaderSize pkt.length) 1500
      with ⟨e | plaintext, inner⟩
    · -- The ciphertext is not opened, and `?` hands the error on.
      rintro ⟨-, -, plaintext, inner', hopened⟩
      cases hread.symm.trans hopened
    · have hdecrypts : ¬ ¬ transport.Decrypts pkt :=
        not_not.2 ⟨hlen, htype, plaintext, inner, hread⟩
      show (setState _ >>= _ : Method Session TunnelError Unit).wp _ self
      rw [wp_setState_bind, Method.lift_ok, pure_bind, Method.wp_ite]
      refine ⟨fun _ => (wp_write _).2 ⟨fun _ => hdecrypts, fun e he => ?_⟩, fun _ => hdecrypts⟩
      cases (hquiet.write plaintext).symm.trans he
  all_goals
    rintro ⟨_, _, _, hready, -⟩
    cases hstate.symm.trans hready

theorem handleCookie_refuses :
    (handleCookie env pkt).wp (RefusesIff (Refuses self.peer (.cookie pkt))) self := by
  unfold handleCookie
  rw [Method.wp_ite]
  refine ⟨fun _ => not_false, fun hlen => ?_⟩
  have hlen : 24 ≤ pkt.length := not_lt.1 hlen
  have hbody : 0 ≤ 16 ∧ 16 ≤ 16 ∧ (sub pkt 8 24).length = 16 - 0 :=
    ⟨by decide, by decide, sub_length hlen⟩
  rw [slice_eq (by decide) hlen, pure_bind, Arr.copyFromSlice_eq _ hbody, pure_bind]
  exact not_false

variable [Profile]

theorem respond_refuses (builds : ResponderBuilds) (finishes : ResponderFinishes)
    (hquiet : env.Quiet) {responder : Responder} {bytes : Arr responseSize → Bytes}
    {frame : Arr responseSize → Method Session TunnelError Bytes}
    (hframe : ∀ response, frame response = pure (bytes response)) (hlen : initSize ≤ pkt.length) :
    (respond keypair env rng source pkt responder frame).wp (RefusesIff (pkt.length < initSize))
      self := by
  have hnot : ¬ pkt.length < initSize := not_lt.2 hlen
  refine wp_respond hframe hlen (fun _ _ => hnot) (fun e state he => ?_)
    (fun e pub reply state response _ he => ?_) (fun e pub reply state response hanswers he => ?_)
    (fun _ _ _ _ _ _ _ _ => hnot) (fun _ => trivial)
  · obtain ⟨h, hbuild⟩ := builds keypair.secret self.peer.config.psk wgIdentifier
    rw [Responder.new, hbuild] at he
    cases he
  · cases (hquiet.send _ _).symm.trans he
  · obtain ⟨stamp, opened, hopens, hwrite⟩ := hanswers
    obtain ⟨t, ht⟩ := finishes _ _ _ _ _ _ _ _ _ _ hopens.read hwrite
    cases he.symm.trans ht

theorem respondRekey_refuses (builds : ResponderBuilds) (finishes : ResponderFinishes)
    (hquiet : env.Quiet) {sid : UInt32} {rehandshake : Option Rehandshake}
    (hlen : initSize ≤ pkt.length) :
    (respondRekey keypair env rng source pkt sid rehandshake).wp
      (RefusesIff (pkt.length < initSize)) self := by
  have hnot : ¬ pkt.length < initSize := not_lt.2 hlen
  refine wp_respondRekey hnot (fun e he => ?_) (fun responder e pub reply state hanswers he => ?_)
    (fun e response he => ?_) (fun _ _ _ _ _ _ _ _ _ _ _ => hnot) (fun _ _ _ => trivial)
  · obtain ⟨h, hbuild⟩ := builds keypair.secret self.peer.config.psk wgIdentifier
    rw [Responder.new, hbuild] at he
    cases he
  · obtain ⟨stamp, opened, hopens, hwrite⟩ := hanswers
    obtain ⟨t, ht⟩ := finishes _ _ _ _ _ _ _ _ _ _ hopens.read hwrite
    cases he.symm.trans ht
  · cases (hquiet.send _ _).symm.trans he

theorem handleInit_refuses (builds : ResponderBuilds) (finishes : ResponderFinishes)
    (hquiet : env.Quiet) :
    (handleInit keypair env rng source pkt).wp (RefusesIff (pkt.length < initSize)) self := by
  unfold handleInit
  rw [Method.wp_ite]
  refine ⟨fun hshort => hshort, fun hlen => ?_⟩
  have hsize : initSize ≤ pkt.length := not_lt.1 hlen
  refine wp_readSenderId (le_trans (by decide) hsize) ?_
  rw [Method.wp_get_bind]
  cases self.peer.state with
  | init | handshakingAsInitiator => exact hlen
  | handshakingAsResponder responder =>
      exact respond_refuses builds finishes hquiet (fun _ => rfl) hsize
  | ready transport sid rehandshake => exact respondRekey_refuses builds finishes hquiet hsize

theorem handleInitViaRelay_refuses (builds : ResponderBuilds) (finishes : ResponderFinishes)
    (hquiet : env.Quiet) :
    (handleInitViaRelay keypair env rng source pkt).wp (RefusesIff (pkt.length < initSize))
      self := by
  unfold handleInitViaRelay
  rw [Method.wp_ite]
  refine ⟨fun hshort => hshort, fun hlen => ?_⟩
  rw [Method.wp_get_bind]
  cases self.peer.state with
  | init | handshakingAsInitiator | ready => exact hlen
  | handshakingAsResponder responder =>
      exact respond_refuses builds finishes hquiet (fun _ => wrapRelay_eq _ _ _) (not_lt.1 hlen)

/-- Where the messages of a type come from: the packet in a RELAY packet has its type byte. -/
def Typed : Message → Prop
  | .relayedTransport pkt => pkt[0]? = some messageTypeTransport
  | _ => True

/-- A handler returns exactly if it neither panics on its message nor refuses it. -/
theorem deliver_ok_iff (builds : ResponderBuilds) (finishes : ResponderFinishes)
    (hquiet : env.Quiet) (hgate : self.peer.GateOpen) {cookieSecret : Key} {message : Message}
    (htyped : Typed message) :
    (∃ self', deliver keypair cookieSecret env rng source message self = .ok () self') ↔
      ¬ Panics self.peer keypair env message ∧ ¬ Refuses self.peer message := by
  have hrefuses : (deliver keypair cookieSecret env rng source message).wp
      (RefusesIff (Refuses self.peer message)) self := by
    cases message with
    | init pkt =>
        rw [deliver, Method.wp_def, Method.bind_eq, checkInitCookie_eq hgate]
        by_cases hover : self.peer.OverLimit env.now
        · rw [if_pos hover]
          trivial
        · rw [if_neg hover]
          exact handleInit_refuses builds finishes hquiet
    | relayedInit pkt => exact handleInitViaRelay_refuses builds finishes hquiet
    | response pkt => exact handleResponse_refuses
    | transport pkt => exact handleTransport_refuses hquiet
    | relayedTransport pkt => exact handleRelayedTransport_refuses hquiet htyped
    | cookie pkt => exact handleCookie_refuses
  have hpanics : deliver keypair cookieSecret env rng source message self = .panic ↔
      Panics self.peer keypair env message := deliver_panic_iff hgate message
  rw [← hpanics]
  rw [Method.wp_def] at hrefuses
  cases hrun : deliver keypair cookieSecret env rng source message self with
  | ok a s =>
      rw [hrun] at hrefuses
      exact iff_of_true ⟨s, rfl⟩ ⟨(fun h => by cases h), hrefuses⟩
  | err e s =>
      rw [hrun] at hrefuses
      refine iff_of_false ?_ fun h => h.2 hrefuses
      rintro ⟨_, h⟩
      cases h
  | panic =>
      refine iff_of_false ?_ fun h => h.1 rfl
      rintro ⟨_, h⟩
      cases h

end Session

end Session

/-! ## The manager -/

namespace TunnelManager

section General

variable [Profile] [Primitives] {self : TunnelManager} {env : Env} {source : SocketAddr}
  {pkt : Bytes} {idx : ℕ} {peer : PeerSession}

/-- The RELAY packet of a known sender that `handle_relay` can neither take in nor forward: for
this node and without a message inside, or for an address that no peer has. -/
def Misdirected (self : TunnelManager) (pkt : Bytes) : Prop :=
  pkt[0]? = some messageTypeRelay ∧ relayHeaderSize ≤ pkt.length ∧
    ((relayFrom pkt).bind self.pubkeyToPeer).isSome ∧ ∃ destIp, relayDest pkt = some destIp ∧
      (destIp = self.config.localIp ∧
          relayedMessage (sub pkt relayHeaderSize pkt.length) = none ∨
        destIp ≠ self.config.localIp ∧ ∀ peer ∈ self.peers, peer.config.peerIp ≠ destIp)

/-- The datagram reaches a session that refuses it, or goes nowhere. -/
def Refused (self : TunnelManager) (source : SocketAddr) (pkt : Bytes) : Prop :=
  (∃ idx message peer, self.route source pkt = some (idx, message) ∧
    self.peers[idx]? = some peer ∧ Session.Refuses peer message) ∨ self.Misdirected pkt

omit [Profile] [Primitives] in
theorem typed_of_relayedMessage {inner : Bytes} {message : Message}
    (h : relayedMessage inner = some message) : Session.Typed message := by
  unfold relayedMessage at h
  repeat' split at h
  all_goals cases h
  · assumption
  · trivial
  · trivial

omit [Profile] [Primitives] in
theorem typed_of_directMessage {message : Message} (h : directMessage pkt = some message) :
    Session.Typed message := by
  unfold directMessage at h
  repeat' split at h
  all_goals cases h
  all_goals trivial

omit [Profile] in
/-- A datagram is routed as a message of its type. -/
theorem typed_of_route {message : Message} (h : self.route source pkt = some (idx, message)) :
    Session.Typed message := by
  unfold route at h
  repeat' split at h
  all_goals first | cases h | skip
  · obtain ⟨m, hm, hpair⟩ := Option.map_eq_some_iff.1 h
    cases hpair
    exact typed_of_relayedMessage hm
  · obtain ⟨_, _, hpair⟩ := Option.map_eq_some_iff.1 h
    cases hpair
    trivial
  · obtain ⟨m, hm, hpair⟩ := Option.map_eq_some_iff.1 h
    cases hpair
    exact typed_of_directMessage hm

omit [Profile] in
theorem refuses_heard (endpoint : SocketAddr) (message : Message) :
    Session.Refuses (peer.heard env endpoint) message ↔ Session.Refuses peer message := by
  cases message <;> exact Iff.rfl

omit [Profile] in
/-- A handler of a session returns exactly if `atPeer` does. -/
theorem atPeer_ok_iff (hpeer : self.peers[idx]? = some peer)
    (handler : Method Session TunnelError Unit) :
    (∃ self', atPeer idx handler self = .ok () self') ↔
      ∃ session, handler ⟨peer, self.transport, self.device⟩ = .ok () session := by
  rw [atPeer_eq hpeer]
  cases handler ⟨peer, self.transport, self.device⟩ with
  | ok a session => exact iff_of_true ⟨_, rfl⟩ ⟨session, rfl⟩
  | err e session => exact iff_of_false (fun ⟨_, h⟩ => nomatch h) fun ⟨_, h⟩ => nomatch h
  | panic => exact iff_of_false (fun ⟨_, h⟩ => nomatch h) fun ⟨_, h⟩ => nomatch h

/-- A datagram that a session handles is no error exactly if the session does not refuse it. -/
theorem routed_ok_iff (builds : ResponderBuilds) (finishes : ResponderFinishes)
    (hsound : self.Sound) (hquiet : env.Quiet) {message : Message}
    (hroute : self.route source pkt = some (idx, message))
    (hpeer : self.peers[idx]? = some peer) :
    (∃ self', handleIncoming env source pkt self = .ok () self') ↔
      ¬ Session.Panics peer self.config.localKeypair env message ∧
        ¬ Session.Refuses peer message := by
  obtain ⟨p, noted, hp, hnoted, heq⟩ := handleIncoming_routed env hsound.wellFormed hroute
  cases hpeer.symm.trans hp
  obtain ⟨endpoint, hheard⟩ := hnoted.getElem?_self hpeer
  have hgate := (peer.keeps_heard env endpoint).gate (hsound.gates hpeer)
  rw [heq, atPeer_ok_iff hheard,
    Session.deliver_ok_iff builds finishes hquiet hgate (typed_of_route hroute)]
  exact and_congr (not_congr (panics_heard peer _ endpoint message))
    (not_congr (refuses_heard endpoint message))

omit [Profile] in
/-- Noting a datagram keeps the addresses of the peers. -/
theorem Noted.forall_peerIp {noted : TunnelManager} (h : Noted env source idx peer self noted)
    (hpeer : self.peers[idx]? = some peer) (destIp : Ipv4Addr) :
    (∀ p ∈ noted.peers, p.config.peerIp ≠ destIp) ↔ ∀ p ∈ self.peers, p.config.peerIp ≠ destIp := by
  obtain ⟨_, _, endpoint, rfl, _⟩ := h
  have hips : (self.peers.set idx (peer.heard env endpoint)).map (fun p => p.config.peerIp) =
      self.peers.map fun p => p.config.peerIp := by
    obtain ⟨hidx, hget⟩ := List.getElem?_eq_some_iff.1 hpeer
    have hidx' : idx < (self.peers.map fun p => p.config.peerIp).length := by
      rwa [List.length_map]
    have hsame : (peer.heard env endpoint).config.peerIp =
        (self.peers.map fun p => p.config.peerIp)[idx] := by
      rw [List.getElem_map, hget]
      rfl
    rw [List.map_set, hsame, List.set_getElem_self]
  have hall (peers : List PeerSession) : (∀ p ∈ peers, p.config.peerIp ≠ destIp) ↔
      destIp ∉ peers.map fun p => p.config.peerIp := by
    simp only [List.mem_map, not_exists, not_and, ne_eq]
  rw [hall, hall, hips]

omit [Profile] in
/-- Forwarding is no error exactly if some peer has the address. -/
theorem forwardRelay_ok_iff (hquiet : env.Quiet) (destIp : Ipv4Addr) :
    (∃ self', forwardRelay env destIp pkt self = .ok () self') ↔
      ¬ ∀ p ∈ self.peers, p.config.peerIp ≠ destIp := by
  rw [forwardRelay, Method.bind_ok (Method.get_apply self)]
  cases hfind : self.peers.find? fun peer => peer.config.peerIp = destIp with
  | none =>
      have hnone : ∀ p ∈ self.peers, p.config.peerIp ≠ destIp := by
        simpa using List.find?_eq_none.1 hfind
      refine iff_of_false ?_ fun h => h hnone
      rintro ⟨_, h⟩
      cases h
  | some dest =>
      have hip : dest.config.peerIp = destIp := by simpa using List.find?_some hfind
      refine iff_of_true ?_ fun h => h dest (List.mem_of_find?_eq_some hfind) hip
      simp only [sendTo, Method.zoom, UdpTransport.sendTo, hquiet.send]
      exact ⟨_, rfl⟩

/-- A datagram that no session handles is no error exactly if it is not misdirected. -/
theorem unrouted_ok_iff (hsound : self.Sound) (hquiet : env.Quiet)
    (hroute : self.route source pkt = none) :
    (∃ self', handleIncoming env source pkt self = .ok () self') ↔ ¬ self.Misdirected pkt := by
  by_cases hrelay : pkt[0]? = some messageTypeRelay ∧ relayHeaderSize ≤ pkt.length ∧
      ((relayFrom pkt).bind self.pubkeyToPeer).isSome
  · obtain ⟨htype, hlen, hknown⟩ := hrelay
    obtain ⟨i, hi⟩ := Option.isSome_iff_exists.1 hknown
    obtain ⟨p, noted, destIp, hp, hnoted, hdest, heq⟩ :=
      handleIncoming_known env source hsound.wellFormed htype hlen hi
    have hmisdirected : self.Misdirected pkt ↔
        (destIp = self.config.localIp ∧
            relayedMessage (sub pkt relayHeaderSize pkt.length) = none ∨
          destIp ≠ self.config.localIp ∧ ∀ peer ∈ self.peers, peer.config.peerIp ≠ destIp) := by
      constructor
      · rintro ⟨-, -, -, _, hsame, h⟩
        cases hdest.symm.trans hsame
        exact h
      · exact fun h => ⟨htype, hlen, hknown, destIp, hdest, h⟩
    rw [heq, hmisdirected]
    by_cases hlocal : destIp = self.config.localIp
    · -- The packet is for this node, and it is not routed only if there is no message in it.
      rw [route_relay htype, if_neg (not_lt.2 hlen), hi] at hroute
      simp only [hdest, hlocal, if_true, Option.map_eq_none_iff] at hroute
      obtain ⟨e, he⟩ := handleRelayed_none env i source noted hroute
      rw [if_pos hlocal, he]
      exact iff_of_false (fun ⟨_, h⟩ => nomatch h) fun h => h (.inl ⟨hlocal, hroute⟩)
    · rw [if_neg hlocal, forwardRelay_ok_iff hquiet, hnoted.forall_peerIp hp]
      exact not_congr ⟨fun h => .inr ⟨hlocal, h⟩, fun h => h.elim (absurd ·.1 hlocal) (·.2)⟩
  · -- Whatever is dropped before `handle_relay` is dropped without an error.
    obtain ⟨self', -, hok⟩ := handleIncoming_dropped env hsound.wellFormed hroute hrelay
    exact iff_of_true ⟨self', hok⟩ fun h => hrelay ⟨h.1, h.2.1, h.2.2.1⟩

omit [Profile] in
/-- A datagram for a session is not misdirected. -/
theorem not_misdirected_of_route {message : Message}
    (hroute : self.route source pkt = some (idx, message)) : ¬ self.Misdirected pkt := by
  rintro ⟨htype, hlen, hknown, destIp, hdest, hcase⟩
  obtain ⟨i, hi⟩ := Option.isSome_iff_exists.1 hknown
  rw [route_relay htype, if_neg (not_lt.2 hlen), hi] at hroute
  simp only [hdest, Option.some.injEq] at hroute
  rcases hcase with ⟨hlocal, hnone⟩ | ⟨hother, -⟩
  · rw [if_pos hlocal, hnone] at hroute
    cases hroute
  · rw [if_neg hother] at hroute
    cases hroute

/-- A datagram that is handled neither panics nor is refused, and any other is not handled. -/
theorem handleIncoming_ok_iff (builds : ResponderBuilds) (finishes : ResponderFinishes)
    (hsound : self.Sound) (hquiet : env.Quiet) :
    (∃ self', handleIncoming env source pkt self = .ok () self') ↔
      ¬ self.Fatal env source pkt ∧ ¬ self.Refused source pkt := by
  cases hroute : self.route source pkt with
  | none =>
      have hfatal : ¬ self.Fatal env source pkt := by
        rintro ⟨_, _, _, hsome, -⟩
        cases hroute.symm.trans hsome
      have hrefused : self.Refused source pkt ↔ self.Misdirected pkt := by
        refine or_iff_right ?_
        rintro ⟨_, _, _, hsome, -⟩
        cases hroute.symm.trans hsome
      rw [unrouted_ok_iff hsound hquiet hroute, hrefused]
      exact (and_iff_right hfatal).symm
  | some target =>
      obtain ⟨idx, message⟩ := target
      obtain ⟨peer, -, hpeer, -⟩ := handleIncoming_routed env hsound.wellFormed hroute
      have hfatal : self.Fatal env source pkt ↔
          Session.Panics peer self.config.localKeypair env message := by
        constructor
        · rintro ⟨_, _, _, hsame, hp, hpanics⟩
          cases hroute.symm.trans hsame
          cases hpeer.symm.trans hp
          exact hpanics
        · exact fun hpanics => ⟨idx, message, peer, hroute, hpeer, hpanics⟩
      have hrefused : self.Refused source pkt ↔ Session.Refuses peer message := by
        constructor
        · rintro (⟨_, _, _, hsame, hp, hrefuses⟩ | hmisdirected)
          · cases hroute.symm.trans hsame
            cases hpeer.symm.trans hp
            exact hrefuses
          · exact absurd hmisdirected (not_misdirected_of_route hroute)
        · exact fun hrefuses => .inl ⟨idx, message, peer, hroute, hpeer, hrefuses⟩
      rw [routed_ok_iff builds finishes hsound hquiet hroute hpeer, hfatal, hrefused]

/-! ## The receive loop -/

/-- The datagram is handled without an error. -/
def Tolerated (self : TunnelManager) : Event → Prop
  | .incoming env source pkt => ¬ self.Fatal env source pkt ∧ ¬ self.Refused source pkt
  | _ => True

/-- The calls that the receive loop makes. -/
def arrivals (received : List (Env × SocketAddr × Bytes)) : List Event :=
  received.map fun (env, source, pkt) => .incoming env source pkt

/-- The phases of `step` after its receive loop. -/
def phases (input : StepInput) : Method TunnelManager TunnelError Unit := do
  let self ← Method.get
  retryAll input.env (List.range self.peers.length)
  let self ← Method.get
  if self.anyPeerReady then do
    let read ← Method.lift .io input.tun
    match read with
    | some pkt => dispatchTunPacket input.env pkt
    | none => pure ()
  else pure ()
  maintenance input.env

theorem step_of_received {input : StepInput} {self' : TunnelManager}
    (h : receiveAll input.received self = .ok () self') (hrecv : input.recvError = none) :
    step input self = phases input self' := by
  rw [step, Method.bind_ok h, hrecv]
  rfl

/-- The receive loop comes to its end exactly if every datagram is tolerated where it arrives. -/
theorem receiveAll_ok_iff (builds : ResponderBuilds) (finishes : ResponderFinishes)
    (hsound : self.Sound) {received : List (Env × SocketAddr × Bytes)}
    (hquiet : ∀ call ∈ received, call.1.Quiet) :
    (∃ self', receiveAll received self = .ok () self') ↔
      Transition.AllSteps fire Tolerated self (arrivals received) := by
  induction received generalizing self with
  | nil => exact iff_of_true ⟨self, rfl⟩ trivial
  | cons call rest ih =>
      obtain ⟨env, source, pkt⟩ := call
      rw [List.forall_mem_cons] at hquiet
      have hfirst : (∃ self', handleIncoming env source pkt self = .ok () self') ↔
          self.Tolerated (.incoming env source pkt) :=
        handleIncoming_ok_iff builds finishes hsound hquiet.1
      show (∃ self', (handleIncoming env source pkt >>= fun _ => receiveAll rest) self = .ok () self') ↔
        self.Tolerated (.incoming env source pkt) ∧ ∀ t, fire self (.incoming env source pkt) = some t →
          Transition.AllSteps fire Tolerated t (arrivals rest)
      cases hcall : handleIncoming env source pkt self with
      | ok a self' =>
          have hfire : fire self (.incoming env source pkt) = some self' := by
            rw [fire, Event.call, hcall, Outcome.state?_ok]
          have hsound' : self'.Sound := (fire_advances hsound hfire).sound
          rw [Method.bind_ok hcall, ih hsound' hquiet.2, and_iff_right (hfirst.1 ⟨self', hcall⟩)]
          constructor
          · intro hrest t ht
            exact Option.some.inj (hfire.symm.trans ht) ▸ hrest
          · exact fun hrest => hrest self' hfire
      | err e self' =>
          rw [Method.bind_err hcall]
          refine iff_of_false (fun ⟨_, h⟩ => nomatch h) fun h => ?_
          obtain ⟨_, hok⟩ := hfirst.2 h.1
          cases hcall.symm.trans hok
      | panic =>
          rw [Method.bind_panic hcall]
          refine iff_of_false (fun ⟨_, h⟩ => nomatch h) fun h => ?_
          obtain ⟨_, hok⟩ := hfirst.2 h.1
          cases hcall.symm.trans hok

/-- In every reachable state, where sends and writes succeed, every call of the receive loop
returns and the step goes on with its other phases exactly if every datagram is tolerated in the
state that it arrives in. -/
theorem step_goes_on_iff (builds : ResponderBuilds) (finishes : ResponderFinishes)
    (hreachable : self.Reachable) (input : StepInput)
    (hquiet : ∀ call ∈ input.received, call.1.Quiet) (hrecv : input.recvError = none) :
    (∃ self', receiveAll input.received self = .ok () self' ∧
        step input self = phases input self') ↔
      Transition.AllSteps fire Tolerated self (arrivals input.received) := by
  rw [← receiveAll_ok_iff builds finishes hreachable.sound hquiet]
  constructor
  · rintro ⟨self', hreceived, -⟩
    exact ⟨self', hreceived⟩
  · rintro ⟨self', hreceived⟩
    exact ⟨self', hreceived, step_of_received hreceived hrecv⟩

end General

section Symbolic

open Symbolic

attribute [local instance] Symbolic.primitives Symbolic.release

/-- What a step receives when one datagram is waiting. -/
def receiving (source : SocketAddr) (pkt : Bytes) : StepInput :=
  ⟨[(quietEnv 5 ⟨1000, 0⟩ 7, source, pkt)], none, quietEnv 5 ⟨1000, 0⟩ 7, .ok none⟩

theorem quiet_receiving (source : SocketAddr) (pkt : Bytes) :
    ∀ call ∈ (receiving source pkt).received, call.1.Quiet := by
  intro call hcall
  cases List.mem_singleton.1 hcall
  exact ⟨fun _ _ => rfl, fun _ => rfl⟩

/-- A step that receives an INIT of its peer goes on. -/
theorem honest_init_tolerated :
    ∃ self self' : TunnelManager, self.Reachable ∧
      step (receiving (address 2) (initFor 2 1 ⟨1000, 0⟩ 3)) self =
        phases (receiving (address 2) (initFor 2 1 ⟨1000, 0⟩ 3)) self' := by
  have hrun : (after (quietEnv 0 ⟨1000, 0⟩ 7) (nodeConfig 1) [sessionWith 2 false] []).any
      (fun self => decide (self.route (address 2) (initFor 2 1 ⟨1000, 0⟩ 3) =
          some (0, .init (initFor 2 1 ⟨1000, 0⟩ 3))) &&
        self.peers.all fun peer => decide (peer.initRxCount = 0)) = true := by
    decide +kernel
  obtain ⟨start, self, hnew, hrun, hcheck⟩ := of_after hrun
  rw [Bool.and_eq_true, decide_eq_true_eq] at hcheck
  obtain ⟨hroute, hcount⟩ := hcheck
  have hreachable := reachable_of_run hnew hrun
  have htolerated : self.Tolerated
      (.incoming (quietEnv 5 ⟨1000, 0⟩ 7) (address 2) (initFor 2 1 ⟨1000, 0⟩ 3)) := by
    refine ⟨?_, ?_⟩
    · rintro ⟨idx, message, peer, hsame, hpeer, hpanics⟩
      cases hroute.symm.trans hsame
      have hzero : peer.initRxCount = 0 :=
        of_decide_eq_true (List.all_eq_true.1 hcount peer (List.mem_of_getElem? hpeer))
      rcases hpanics with hover | ⟨responder, -, htraps⟩
      · exact absurd hover.2 (by rw [hzero]; decide)
      · exact absurd (overflowChecks_of_traps htraps) (by decide)
    · rintro (⟨idx, message, peer, hsame, -, hrefuses⟩ | hmisdirected)
      · cases hroute.symm.trans hsame
        have hlen : ¬ (initFor 2 1 ⟨1000, 0⟩ 3).length < initSize := by decide +kernel
        exact hlen hrefuses
      · exact not_misdirected_of_route hroute hmisdirected
  obtain ⟨self', -, hstep⟩ := (step_goes_on_iff responder_builds responder_finishes hreachable
    (receiving (address 2) (initFor 2 1 ⟨1000, 0⟩ 3)) (quiet_receiving _ _) rfl).2
    ⟨htolerated, fun _ _ => trivial⟩
  exact ⟨self, self', hreachable, hstep⟩

/-- A RELAY packet with the public key of a peer, for an address that no peer has, ends the step
of the manager that gets it. -/
theorem stray_relay_ends_step :
    ∃ self : TunnelManager, self.Reachable ∧ ∃ e self', step (receiving (address 9)
      (Session.relayFrame (publicKey (key 2)) ⟨1, 2, 3, 4⟩ [])) self = .err e self' := by
  have hrun : (after (quietEnv 0 ⟨1000, 0⟩ 7) (nodeConfig 1) [sessionWith 2 false] []).any
      (fun self => (step (receiving (address 9)
        (Session.relayFrame (publicKey (key 2)) ⟨1, 2, 3, 4⟩ [])) self).isErr) = true := by
    decide +kernel
  obtain ⟨start, self, hnew, hrun, hfails⟩ := of_after hrun
  exact ⟨self, reachable_of_run hnew hrun, Outcome.isErr_iff.1 hfails⟩

end Symbolic

end TunnelManager

end Naboscale
