import Naboscale.Crypto.HandshakeSpec

/-!
# Completed handshakes

`exchange` runs the calls of the two ends of one handshake in order. What it leaves are two
transports that come from the same Noise handshake, which `Agreed` says of transport states
without reference to the framing.
-/

namespace Naboscale

open Rust

variable [Profile] [Primitives]

/-- The calls of one handshake: the initiator writes an INIT, the responder consumes it and
answers, the initiator consumes the answer, and both ends have a transport. -/
def exchange (initiator responder : Keypair) (psk : Key) (initiatorId responderId : UInt32)
    (timestamp currentTime : Tai64N) (rng rng' : Ephemeral) :
    Method Unit CryptoError (Transport × Transport) := do
  let i ← Method.lift id (Initiator.new initiator responder.public psk initiatorId timestamp)
  let r ← Method.lift id (Responder.new responder psk responderId currentTime)
  let (init, i) ← Method.on i (Initiator.writeInit rng)
  let init ← Method.lift id init
  let (response, r) ← Method.on r (Responder.consumeInit init.val rng')
  let response ← Method.lift id response
  let ti ← i.consumeResponse response.val
  let tr ← Method.lift id r.intoTransport
  pure (ti, tr)

/-- The transport states are those of an initiator and a responder that completed one Noise
handshake with each other. -/
structure Agreed (ti tr : TransportState) : Prop where
  handshake : ∃ (initiator responder psk : Key) (rng rng' : Ephemeral)
    (stamp p q message reply : Bytes) (hi hi₁ hi₂ hr hr₁ hr₂ : HandshakeState),
    buildInitiator initiator (Primitives.publicKey responder) wgIdentifier psk = .ok hi ∧
    buildResponder responder wgIdentifier psk = .ok hr ∧
    writeMessage hi rng stamp noiseInitPayloadSize = (.ok message, hi₁) ∧
    readMessage hr message 256 = (.ok p, hr₁) ∧
    writeMessage hr₁ rng' [] noiseResponsePayloadSize = (.ok reply, hr₂) ∧
    readMessage hi₁ reply 256 = (.ok q, hi₂) ∧
    intoTransportMode hi₂ = .ok ti ∧ intoTransportMode hr₂ = .ok tr

/-- The two directions of an agreed pair have the same keys at both ends, and start at zero. -/
structure Agreed.Keys (ti tr : TransportState) : Prop where
  forward : sendingKey ti = receivingKey tr
  backward : sendingKey tr = receivingKey ti
  sending : sendingNonce ti = 0 ∧ sendingNonce tr = 0
  receiving : receivingNonce ti = 0 ∧ receivingNonce tr = 0

omit [Profile] in
theorem Agreed.keys (laws : HandshakeLaws) {ti tr : TransportState} (h : Agreed ti tr) :
    Agreed.Keys ti tr := by
  obtain ⟨_, _, _, _, _, _, _, _, _, _, _, _, _, _, _, _, hbi, hbr, hinit, hread, hreply, hfinish,
    hti, htr⟩ := h.handshake
  obtain ⟨hi₂, ti', tr', hread', hti', htr', hforward, hbackward, hsi, hri, hsr, hrr⟩ :=
    laws.accepts_reply hbi hbr hinit hread hreply (Nat.zero_le 256)
  cases hfinish.symm.trans hread'
  cases hti.symm.trans hti'
  cases htr.symm.trans htr'
  exact ⟨hforward, hbackward, ⟨hsi, hsr⟩, ⟨hri, hrr⟩⟩

/-! ## The frames carry the Noise messages -/

omit [Profile] in
theorem noise_init_frame {senderId message : Bytes} (pub : Key) (hsid : senderId.length = 4)
    (hmessage : message.length = noiseInitPayloadSize) :
    Responder.noiseInit (Initiator.frameInit senderId message pub) = message := by
  have hhead : ([messageTypeInit, 0, 0, 0] ++ senderId).length = 8 := by simp [hsid]
  have hframe : Initiator.frameInit senderId message pub =
      ([messageTypeInit, 0, 0, 0] ++ senderId) ++ message ++
        (List.replicate 16 0 ++ (computeMac1 (mac1Key pub)
          (Initiator.initBody senderId message)).val) := by
    simp [Initiator.frameInit, Initiator.initBody]
  rw [Responder.noiseInit, hframe]
  exact sub_append hhead hmessage

omit [Profile] in
theorem sub_frame_response {senderId receiverId reply : Bytes} (pub : Key)
    (hsid : senderId.length = 4) (hrid : receiverId.length = 4)
    (hreply : reply.length = noiseResponsePayloadSize) :
    sub (Responder.frameResponse senderId receiverId reply pub) 12 60 = reply := by
  have hhead : ([messageTypeResponse, 0, 0, 0] ++ senderId ++ receiverId).length = 12 := by
    simp [hsid, hrid]
  have hframe : Responder.frameResponse senderId receiverId reply pub =
      ([messageTypeResponse, 0, 0, 0] ++ senderId ++ receiverId) ++ reply ++
        (List.replicate 16 0 ++ (computeMac1 (mac1Key pub)
          (Responder.responseBody senderId receiverId reply)).val) := by
    simp [Responder.frameResponse, Responder.responseBody]
  rw [hframe]
  exact sub_append hhead hreply

omit [Profile] in
theorem initiator_new_ok {keypair : Keypair} {remotePub psk : Key} {senderId : UInt32}
    {timestamp : Tai64N} {i : Initiator}
    (h : Initiator.new keypair remotePub psk senderId timestamp = .ok i) :
    buildInitiator keypair.secret remotePub wgIdentifier psk = .ok i.state ∧
      i.senderId = senderId ∧ i.localPub = keypair.public ∧ i.responderPub = remotePub ∧
      i.timestamp = timestamp := by
  unfold Initiator.new at h
  cases hbuild : buildInitiator keypair.secret remotePub wgIdentifier psk with
  | ok state =>
      rw [hbuild] at h
      cases h
      exact ⟨rfl, rfl, rfl, rfl, rfl⟩
  | error e =>
      rw [hbuild] at h
      cases h

omit [Profile] in
theorem responder_new_ok {keypair : Keypair} {psk : Key} {senderId : UInt32}
    {currentTime : Tai64N} {r : Responder}
    (h : Responder.new keypair psk senderId currentTime = .ok r) :
    buildResponder keypair.secret wgIdentifier psk = .ok r.state ∧ r.senderId = senderId ∧
      r.localPub = keypair.public ∧ r.currentTime = currentTime := by
  unfold Responder.new at h
  cases hbuild : buildResponder keypair.secret wgIdentifier psk with
  | ok state =>
      rw [hbuild] at h
      cases h
      exact ⟨rfl, rfl, rfl, rfl⟩
  | error e =>
      rw [hbuild] at h
      cases h

omit [Profile] in
theorem into_transport_ok {r : Responder} {t : Transport} (h : r.intoTransport = .ok t) :
    ∃ inner, intoTransportMode r.state = .ok inner ∧ t = Transport.new inner r.senderId := by
  unfold Responder.intoTransport at h
  cases hinto : intoTransportMode r.state with
  | ok inner =>
      rw [hinto] at h
      cases h
      exact ⟨inner, rfl, rfl⟩
  | error e =>
      rw [hinto] at h
      cases h

/-- The transports of a completed exchange come from one Noise handshake. -/
theorem exchange_agreed {initiator responder : Keypair} {psk : Key}
    {initiatorId responderId : UInt32} {timestamp currentTime : Tai64N} {rng rng' : Ephemeral}
    {ti tr : Transport}
    (h : exchange initiator responder psk initiatorId responderId timestamp currentTime rng rng' ()
      = .ok (ti, tr) ()) : Agreed ti.inner tr.inner := by
  suffices hwp : (exchange initiator responder psk initiatorId responderId timestamp currentTime
      rng rng').wp ⟨fun t _ => Agreed t.1.inner t.2.inner, fun _ _ => True, True⟩ () by
    rw [Method.wp_def, h] at hwp
    exact hwp
  unfold exchange
  simp only [Method.wp_bind, Method.wp_lift, Method.wp_on, Method.wp_pure]
  refine ⟨fun i hi => ⟨fun r hr => ?_, fun _ _ => trivial⟩, fun _ _ => trivial⟩
  obtain ⟨hbi, _, _, _, _⟩ := initiator_new_ok hi
  obtain ⟨hbr, _, _, _⟩ := responder_new_ok hr
  refine Initiator.wp_writeInit (fun message state out hwrite hout => ?_) ?_
  · refine ⟨fun init hinit => ?_, fun _ _ => trivial⟩
    cases hinit
    refine Responder.wp_consumeInit (fun pub reply state' response hanswers hresponse => ?_) ?_
      (fun _ => trivial)
    · refine ⟨fun resp hresp => ?_, fun _ _ => trivial⟩
      cases hresp
      refine Initiator.wp_consumeResponse (fun inner haccepts => ?_) (fun _ _ => trivial)
      refine ⟨fun t ht => ?_, fun _ _ => trivial⟩
      obtain ⟨inner', hinto, rfl⟩ := into_transport_ok ht
      obtain ⟨stamp, opened, hopens, hreply⟩ := hanswers
      obtain ⟨q, finished, hread, hfinish⟩ := haccepts.finishes
      have hsid : (toLe 4 i.senderId.toNat).val.length = 4 := Arr.length_eq _
      have hrid : (sub out.val 4 8).length = 4 := by
        rw [sub_length (le_trans (by decide : 8 ≤ initSize) (Arr.length_eq out).ge)]
      have hinit : Responder.noiseInit out.val = message.val := by
        rw [hout]
        exact noise_init_frame _ hsid message.property
      have hresp : sub response.val 12 60 = reply.val := by
        rw [hresponse]
        exact sub_frame_response pub (Arr.length_eq _) hrid reply.property
      refine ⟨_, _, psk, rng, rng', _, stamp.val, q, message.val, reply.val, _, state, finished,
        _, opened, state', hbi, hbr, hwrite, ?_, hreply, ?_, hfinish, hinto⟩
      · rw [← hinit]
        exact hopens.read
      · rw [← hresp]
        exact hread
    · intro e state _
      exact ⟨(fun resp hresp => by cases hresp), fun _ _ => trivial⟩
  · intro e state _ _ _
    exact ⟨(fun init hinit => by cases hinit), fun _ _ => trivial⟩

end Naboscale
