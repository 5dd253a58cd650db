import Naboscale.Crypto.Reuse
import Naboscale.Crypto.RoundTrip

/-!
# Completing a given handshake

`completes` says that two parties can complete a handshake. Here the INIT is a given one, which its
initiator wrote at any time before, and the responder was made at any time before: within the replay
window it is answered, the answer is accepted, and both ends start with fresh nonces.
-/

namespace Naboscale

open Rust

variable [Profile] [Primitives]

omit [Profile] in
/-- What is known of an INIT that was written. -/
theorem Initiator.write_init_ok {start initiator : Initiator} {rng : Ephemeral}
    {init : Arr initSize} (h : Initiator.writeInit rng start = .ok init initiator) :
    ∃ (message : Arr noiseInitPayloadSize) (state : HandshakeState),
      writeMessage start.state rng start.timestamp.toBytes.val noiseInitPayloadSize =
        (.ok message.val, state) ∧
      init.val = frameInit (toLe 4 start.senderId.toNat).val message.val start.responderPub ∧
      initiator = { start with state } := by
  have hwp : (Initiator.writeInit rng).wp ⟨fun out i => ∃ (message : Arr noiseInitPayloadSize)
      (state : HandshakeState), writeMessage start.state rng start.timestamp.toBytes.val
        noiseInitPayloadSize = (.ok message.val, state) ∧
      out.val = frameInit (toLe 4 start.senderId.toNat).val message.val start.responderPub ∧
      i = { start with state }, fun _ _ => True, True⟩ start :=
    Initiator.wp_writeInit (fun message state out hwrite hout => ⟨message, state, hwrite, hout, rfl⟩)
      fun _ _ _ _ _ => trivial
  rwa [Method.wp_def, h] at hwp

omit [Profile] in
/-- An initiator is what its parts were built to. -/
theorem Initiator.new_ok {keypair : Keypair} {remotePub psk : Key} {senderId : UInt32}
    {timestamp : Tai64N} {initiator : Initiator}
    (h : Initiator.new keypair remotePub psk senderId timestamp = .ok initiator) :
    ∃ state, buildInitiator keypair.secret remotePub wgIdentifier psk = .ok state ∧
      initiator =
        { state, senderId, localPub := keypair.public, responderPub := remotePub, timestamp } := by
  rw [Initiator.new] at h
  cases hbuild : buildInitiator keypair.secret remotePub wgIdentifier psk with
  | error e =>
      rw [hbuild] at h
      cases h
  | ok state =>
      rw [hbuild] at h
      cases h
      exact ⟨state, rfl, rfl⟩

omit [Profile] in
theorem Responder.new_ok {keypair : Keypair} {psk : Key} {senderId : UInt32} {currentTime : Tai64N}
    {responder : Responder} (h : Responder.new keypair psk senderId currentTime = .ok responder) :
    ∃ state, buildResponder keypair.secret wgIdentifier psk = .ok state ∧
      responder = { state, senderId, localPub := keypair.public, currentTime } := by
  rw [Responder.new] at h
  cases hbuild : buildResponder keypair.secret wgIdentifier psk with
  | error e =>
      rw [hbuild] at h
      cases h
  | ok state =>
      rw [hbuild] at h
      cases h
      exact ⟨state, rfl, rfl⟩

omit [Profile] in
/-- An initiator that was just made for a real public key writes its INIT. -/
theorem Initiator.new_writes (completion : CompletionLaws) {keypair other : Keypair} {psk : Key}
    {senderId : UInt32} {timestamp : Tai64N} {initiator : Initiator} (rng : Ephemeral)
    (h : Initiator.new keypair other.public psk senderId timestamp = .ok initiator) :
    ∃ init initiator', Initiator.writeInit rng initiator = .ok init initiator' := by
  obtain ⟨state, hbuild, rfl⟩ := Initiator.new_ok h
  obtain ⟨message, state', hwrite, hlength⟩ :=
    completion.writes_first rng hbuild (timestamp.toBytes.property : _ = 12)
  obtain ⟨init, hinit, _⟩ := Initiator.write_init_frame
    (i := { state, senderId, localPub := keypair.public, responderPub := other.public,
            timestamp }) hwrite hlength
  exact ⟨init, _, hinit⟩

/-- The two ends of a handshake that was completed just now. -/
structure Joined (initiator responder : TransportState) : Prop where
  forward : Transport.Matches initiator responder
  backward : Transport.Matches responder initiator
  first : sendingNonce initiator = 0
  second : sendingNonce responder = 0

/-- An INIT is answered within the replay window, and its initiator accepts the answer. -/
theorem Initiator.answered (handshake : HandshakeLaws) (completion : CompletionLaws)
    {keypair other : Keypair} {psk : Key} {a b : UInt32} {t made now : Tai64N}
    {start initiator : Initiator} {init : Arr initSize} {responder : Responder} {rng : Ephemeral}
    (rng' : Ephemeral) (hnew : Initiator.new keypair other.public psk a t = .ok start)
    (hwritten : Initiator.writeInit rng start = .ok init initiator)
    (hresponder : Responder.new other psk b made = .ok responder)
    (hwindow : Responder.InWindow now t) :
    ∃ (response : Arr responseSize) (answered : Responder) (ti tr : TransportState),
      Responder.consumeInit init.val rng' (responder.setCurrentTime now) = .ok response answered ∧
      answered.intoTransport = .ok (Transport.new tr b) ∧
      initiator.Accepts response.val ti ∧ Joined ti tr := by
  obtain ⟨hi, hbi, rfl⟩ := Initiator.new_ok hnew
  obtain ⟨hr, hbr, rfl⟩ := Responder.new_ok hresponder
  obtain ⟨message, hi₁, hwrite, hframe, rfl⟩ := Initiator.write_init_ok hwritten
  obtain ⟨hr₁, hread⟩ := completion.reads_first hbi hbr hwrite t.toBytes.property
  have hsid : (toLe 4 a.toNat).val.length = 4 := Arr.length_eq _
  -- The INIT, which the responder opens.
  obtain ⟨htype, hid, hsealed⟩ := Initiator.frame_init_fields other.public hsid message.property []
  rw [List.append_nil] at htype hid hsealed
  have hnoise : Responder.noiseInit init.val = message.val := by
    rw [hframe]
    exact noise_init_frame other.public hsid message.property
  have hopens : Responder.Opens
      { state := hr, senderId := b, localPub := other.public, currentTime := now }
      init.val t.toBytes hr₁ keypair.public := by
    refine ⟨init.length_eq.ge, hframe ▸ htype, by rw [hnoise]; exact hread, ?_, hframe ▸ hsealed,
      handshake.reads_static hbi hbr hwrite hread⟩
    rw [Tai64N.fromBytes_toBytes]
    exact hwindow
  -- The response, which the initiator accepts.
  obtain ⟨reply, hr₂, hreply, hreplylen⟩ := completion.writes_second rng' hbi hbr hwrite hread
  obtain ⟨response, hresponse, hresponseframe⟩ := hopens.answered hreply hreplylen
  have hecho : sub init.val 4 8 = (toLe 4 a.toNat).val := hframe ▸ hid
  rw [hecho] at hresponseframe
  obtain ⟨htype', hid', hsealed'⟩ := Responder.frame_response_fields keypair.public
    (Arr.length_eq (toLe 4 b.toNat)) hsid hreplylen []
  rw [List.append_nil] at htype' hid' hsealed'
  obtain ⟨hi₂, ti, tr, hfinish, hti, htr, hforward, hbackward, hsi, hri, hsr, hrr⟩ :=
    handshake.accepts_reply hbi hbr hwrite hread hreply (Nat.zero_le 256)
  have hbody : sub response.val 12 60 = reply := by
    rw [hresponseframe]
    exact sub_frame_response keypair.public (Arr.length_eq _) hsid hreplylen
  refine ⟨response, _, ti, tr, hresponse, ?_, ⟨response.length_eq.ge, hresponseframe ▸ htype', ?_,
    hresponseframe ▸ hsealed', [], hi₂, ?_, hti⟩, ⟨hforward, hsi.trans hrr.symm⟩,
    ⟨hbackward, hsr.trans hri.symm⟩, hsi, hsr⟩
  · rw [Responder.intoTransport, htr]
  · rw [hresponseframe, hid', fromLe_toLe a.toNat_lt]
    exact UInt32.ofNat_toNat
  · rw [hbody]
    exact hfinish

end Naboscale
