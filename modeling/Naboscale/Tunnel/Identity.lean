import Naboscale.Tunnel.Parties

/-!
# Whose key is behind a transport

A session is configured for one static key. Handshakes that the session starts are bound to that
key from the outset; a handshake that it answers is bound to whatever key the INIT
authenticates, which is compared with nothing.
-/

namespace Naboscale

open Rust Relation

/-! ## The bound states -/

section Bound

variable [Primitives]

/-- Every handshake that the session has finished, or waits to finish, is with the key. -/
def PeerState.Bound (pub : Key) : PeerState → Prop
  | .init => True
  | .handshakingAsInitiator initiator => getRemoteStatic initiator.state = some pub.val
  | .handshakingAsResponder _ => True
  | .ready transport _ rehandshake =>
      transportRemoteStatic transport.inner = some pub.val ∧
        ∀ rekey ∈ rehandshake, getRemoteStatic rekey.initiator.state = some pub.val

/-- The responder that reads the INIT in a message for a session in this state: the one that
waits for it or, for a rekey of a ready session, a fresh one. -/
def PeerState.Reads (state : PeerState) (keypair : Keypair) (env : Env) (config : PeerConfig)
    (message : Message) (pkt : Bytes) (responder : Responder) : Prop :=
  message.initPkt? = some pkt ∧
    (state = .handshakingAsResponder responder ∨
      message = .init pkt ∧ state.isReady = true ∧
        Responder.new keypair config.psk config.localSenderId env.tai = .ok responder)

variable {keypair : Keypair} {env : Env} {rng : Ephemeral} {config : PeerConfig}

theorem StaticKeyLaws.new_initiator (laws : StaticKeyLaws) {pub psk : Key} {senderId : UInt32}
    {tai : Tai64N} {initiator : Initiator}
    (h : Initiator.new keypair pub psk senderId tai = .ok initiator) :
    getRemoteStatic initiator.state = some pub.val :=
  laws.initiator (initiator_new_ok h).1

/-- Using a transport does not change whose key it is bound to. -/
theorem StaticKeyLaws.uses (laws : StaticKeyLaws) {transport transport' : Transport}
    (h : transport.Uses transport') :
    transportRemoteStatic transport'.inner = transportRemoteStatic transport.inner := by
  obtain ⟨_, hsame | ⟨_, _, _, hwrite⟩ | ⟨_, _, _, hread⟩⟩ := h
  · rw [hsame]
  · exact laws.transport_write hwrite
  · exact laws.transport_read hread

/-- An accepted RESPONSE gives a transport bound to the key of the initiator. -/
theorem StaticKeyLaws.accepts (laws : StaticKeyLaws) {initiator : Initiator} {pkt key : Bytes}
    {inner : TransportState} (h : initiator.Accepts pkt inner)
    (hkey : getRemoteStatic initiator.state = some key) :
    transportRemoteStatic inner = some key := by
  obtain ⟨_, _, hread, hinner⟩ := h.finishes
  exact (laws.transport hinner).trans (laws.read hread hkey)

/-- The initiator of a rekey is bound to the configured key. -/
theorem StaticKeyLaws.fresh (laws : StaticKeyLaws) {initiator : Initiator}
    (h : initiator.Fresh keypair env rng config) :
    getRemoteStatic initiator.state = some config.peerPub.val := by
  obtain ⟨start, _, _, hnew, hwrite, rfl⟩ := h
  exact laws.write hwrite (laws.new_initiator hnew)

variable [Profile]

/-- An answered INIT gives a transport bound to the key that the INIT authenticates. -/
theorem StaticKeyLaws.yields (laws : StaticKeyLaws) {responder : Responder} {pkt : Bytes}
    {transport : Transport} (h : responder.Yields env rng pkt transport) :
    ∃ stamp opened pub, (responder.setCurrentTime env.tai).Opens pkt stamp opened pub ∧
      transportRemoteStatic transport.inner = some pub.val := by
  obtain ⟨pub, reply, state, inner, ⟨stamp, opened, hopens, hwrite⟩, hinner, rfl⟩ := h
  exact ⟨stamp, opened, pub, hopens,
    (laws.transport hinner).trans (laws.write hwrite hopens.remote)⟩

/-- The INIT in a message, if the session opens it, authenticates the configured key. -/
def PeerState.Trusts (state : PeerState) (keypair : Keypair) (env : Env) (config : PeerConfig)
    (message : Message) : Prop :=
  ∀ pkt responder stamp opened pub, state.Reads keypair env config message pkt responder →
    (responder.setCurrentTime env.tai).Opens pkt stamp opened pub → pub = config.peerPub

/-- A move on a message whose INIT authenticates the configured key keeps the session bound. -/
theorem StateChange.bound (laws : StaticKeyLaws) {message : Option Message}
    {state state' : PeerState} (h : StateChange keypair env rng config message state state')
    (htrusts : ∀ m ∈ message, state.Trusts keypair env config m)
    (hbound : state.Bound config.peerPub) : state'.Bound config.peerPub := by
  cases h with
  | keep => exact hbound
  | use _ huses => exact ⟨(laws.uses huses).trans hbound.1, hbound.2⟩
  | renew | spend | exhaust | lose | discard => trivial
  | accept hpkt hyields =>
      obtain ⟨stamp, opened, pub, hopens, hstatic⟩ := laws.yields hyields
      have hpub := htrusts _ rfl _ _ stamp opened pub ⟨hpkt, Or.inl rfl⟩ hopens
      exact ⟨hpub ▸ hstatic, fun _ hrekey => nomatch hrekey⟩
  | replace hnew hyields =>
      obtain ⟨stamp, opened, pub, hopens, hstatic⟩ := laws.yields hyields
      have hpub := htrusts _ rfl _ _ stamp opened pub ⟨rfl, Or.inr ⟨rfl, rfl, hnew⟩⟩ hopens
      exact ⟨hpub ▸ hstatic, hbound.2⟩
  | complete haccepts =>
      exact ⟨laws.accepts haccepts hbound, fun _ hrekey => nomatch hrekey⟩
  | completeRekey haccepts =>
      exact ⟨laws.accepts haccepts (hbound.2 _ rfl), fun _ hrekey => nomatch hrekey⟩
  | abort => exact ⟨hbound.1, fun _ hrekey => nomatch hrekey⟩
  | write hwrite => exact laws.write hwrite hbound
  | startRekey hfresh =>
      refine ⟨hbound.1, fun rekey hrekey => ?_⟩
      cases hrekey
      exact laws.fresh hfresh
  | retryRekey =>
      refine ⟨hbound.1, fun rekey hrekey => ?_⟩
      cases hrekey
      have hkey := hbound.2 _ rfl
      exact hkey

end Bound

/-! ## Runs -/

namespace TunnelManager

section General

variable [Profile] [Primitives]

end General

section Symbolic

open Symbolic

attribute [local instance] Symbolic.primitives Symbolic.release

end Symbolic

end TunnelManager

end Naboscale
