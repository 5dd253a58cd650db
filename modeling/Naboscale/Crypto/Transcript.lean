import Naboscale.Crypto.Channel

/-!
# The two halves of a handshake

An initiator that has written its INIT holds one half of a handshake, and a responder that has
written its RESPONSE the other half. Where the INIT and the RESPONSE are the same, the transports
of both ends come from one handshake, and they keep its keys for as long as they are used.
-/

namespace Naboscale

open Rust Relation

variable [Profile] [Primitives]

/-- The transport after any use of it. -/
def Transport.Becomes : Transport → Transport → Prop := ReflTransGen Transport.Uses

/-- The initiator was made with the key pair for a peer, and its first Noise message is the one in
the INIT. -/
def Initiator.Began (keypair : Keypair) (peerPub psk : Key) (initiator : Initiator)
    (init : Bytes) : Prop :=
  ∃ start rng stamp, buildInitiator keypair.secret peerPub wgIdentifier psk = .ok start ∧
    writeMessage start rng stamp noiseInitPayloadSize =
      (.ok (Responder.noiseInit init), initiator.state)

/-- A responder that was made with the key pair read the Noise message in the INIT and wrote the one
in the RESPONSE. The transport is what its handshake turned into and has become since. -/
structure Replied (keypair : Keypair) (psk : Key) (init response : Bytes) (t : Transport) :
    Prop where
  handshake : ∃ (rng : Ephemeral) (stamp : Bytes) (start opened finished : HandshakeState)
    (inner : TransportState) (senderId : UInt32),
    buildResponder keypair.secret wgIdentifier psk = .ok start ∧
    readMessage start (Responder.noiseInit init) 256 = (.ok stamp, opened) ∧
    writeMessage opened rng [] noiseResponsePayloadSize = (.ok (sub response 12 60), finished) ∧
    intoTransportMode finished = .ok inner ∧ (Transport.new inner senderId).Becomes t

/-- The transports come from the two ends of one Noise handshake. -/
structure SameHandshake (ti tr : Transport) : Prop where
  agreed : ∃ initiator responder : Transport, Agreed initiator.inner responder.inner ∧
    initiator.Becomes ti ∧ responder.Becomes tr

section Halves

omit [Profile]

variable {keypair : Keypair} {peerPub psk : Key} {init response : Bytes} {t t' ti tr : Transport}

theorem Replied.becomes (h : Replied keypair psk init response t) (hbecomes : t.Becomes t') :
    Replied keypair psk init response t' := by
  obtain ⟨rng, stamp, start, opened, finished, inner, senderId, hstart, hread, hwrite, hinner,
    hold⟩ := h.handshake
  exact ⟨rng, stamp, start, opened, finished, inner, senderId, hstart, hread, hwrite, hinner,
    hold.trans hbecomes⟩

theorem SameHandshake.becomes {ti' tr' : Transport} (h : SameHandshake ti tr)
    (hi : ti.Becomes ti') (hr : tr.Becomes tr') : SameHandshake ti' tr' := by
  obtain ⟨initiator, responder, hagreed, hti, htr⟩ := h.agreed
  exact ⟨initiator, responder, hagreed, hti.trans hi, htr.trans hr⟩

/-- The halves with the same INIT and the same RESPONSE belong together. -/
theorem Initiator.Began.same {initiator : Initiator} {responder : Keypair} {inner : TransportState}
    (hbegan : initiator.Began keypair responder.public psk init)
    (haccepts : initiator.Accepts response inner)
    (hreplied : Replied responder psk init response tr) :
    SameHandshake (Transport.new inner initiator.senderId) tr := by
  obtain ⟨hi, rng, stamp, hbuild, hwrite⟩ := hbegan
  obtain ⟨rng', p, hr, opened, finished, inner', senderId, hbuild', hread, hreply, hinner',
    hbecomes⟩ := hreplied.handshake
  obtain ⟨q, hi₂, hfinish, hinner⟩ := haccepts.finishes
  have hagreed : Agreed inner inner' :=
    ⟨keypair.secret, responder.secret, psk, rng, rng', stamp, p, q, Responder.noiseInit init,
      sub response 12 60, hi, initiator.state, hi₂, hr, opened, finished, hbuild, hbuild', hwrite,
      hread, hreply, hfinish, hinner, hinner'⟩
  exact ⟨_, Transport.new inner' senderId, hagreed, ReflTransGen.refl, hbecomes⟩

/-- Using a transport leaves its keys alone. -/
theorem Transport.Uses.keys (laws : TransportLaws) (h : t.Uses t') :
    sendingKey t'.inner = sendingKey t.inner ∧ receivingKey t'.inner = receivingKey t.inner := by
  obtain ⟨-, hsame | ⟨payload, room, result, hwrite⟩ | ⟨message, room, result, hread⟩⟩ := h
  · rw [hsame]
    exact ⟨rfl, rfl⟩
  · cases result with
    | ok c =>
        obtain ⟨-, -, -, -, hsending, hreceiving⟩ := laws.write_ok hwrite
        exact ⟨hsending, hreceiving⟩
    | error e =>
        rw [laws.write_error hwrite]
        exact ⟨rfl, rfl⟩
  · cases result with
    | ok p =>
        obtain ⟨-, -, hsending, hreceiving⟩ := laws.read_ok hread
        exact ⟨hsending, hreceiving⟩
    | error e =>
        rw [laws.read_error hread]
        exact ⟨rfl, rfl⟩

theorem Transport.Becomes.keys (laws : TransportLaws) (h : t.Becomes t') :
    sendingKey t'.inner = sendingKey t.inner ∧ receivingKey t'.inner = receivingKey t.inner := by
  induction h with
  | refl => exact ⟨rfl, rfl⟩
  | tail _ huses ih =>
      obtain ⟨hsending, hreceiving⟩ := huses.keys laws
      exact ⟨hsending.trans ih.1, hreceiving.trans ih.2⟩

/-- Each of two transports of one handshake seals with the key that the other opens with. -/
theorem SameHandshake.keys (handshake : HandshakeLaws) (laws : TransportLaws)
    (h : SameHandshake ti tr) :
    sendingKey ti.inner = receivingKey tr.inner ∧
      sendingKey tr.inner = receivingKey ti.inner := by
  obtain ⟨initiator, responder, hagreed, hti, htr⟩ := h.agreed
  have hkeys := hagreed.keys handshake
  obtain ⟨hsi, hri⟩ := hti.keys laws
  obtain ⟨hsr, hrr⟩ := htr.keys laws
  rw [hsi, hri, hsr, hrr]
  exact ⟨hkeys.forward, hkeys.backward⟩

end Halves

namespace Responder

variable {keypair : Keypair} {psk : Key} {responder : Responder} {init response : Bytes}
  {rng : Ephemeral} {pub : Key} {reply : Arr noiseResponsePayloadSize} {state : HandshakeState}
  {t : Tai64N}

/-- The responder was made with the key pair and was given nothing yet. -/
def AtStart (keypair : Keypair) (psk : Key) (responder : Responder) : Prop :=
  buildResponder keypair.secret wgIdentifier psk = .ok responder.state

/-- The handshake of the responder has written its RESPONSE. -/
def Spent (responder : Responder) : Prop :=
  ∃ (start opened : HandshakeState) (rng : Ephemeral) (message stamp payload reply : Bytes)
    (room room' : ℕ), readMessage start message room = (.ok stamp, opened) ∧
    writeMessage opened rng payload room' = (.ok reply, responder.state)

omit [Profile] in
theorem atStart_of_new {senderId : UInt32}
    (h : Responder.new keypair psk senderId t = .ok responder) : responder.AtStart keypair psk :=
  (responder_new_ok h).1

/-- A responder that has answered an INIT is spent. -/
theorem Answers.spent (h : responder.Answers init rng pub reply state) :
    Spent { responder with state } := by
  obtain ⟨stamp, opened, hopens, hwrite⟩ := h
  exact ⟨_, _, _, _, _, _, _, _, _, hopens.read, hwrite⟩

/-- A spent responder answers no INIT. -/
theorem Spent.not_answers (once : RepliesOnce) (h : responder.Spent) :
    ¬ (responder.setCurrentTime t).Answers init rng pub reply state := by
  obtain ⟨start, opened, rng, message, stamp, payload, reply, room, room', hread, hwrite⟩ := h
  intro ⟨stamp', opened', hopens, _⟩
  obtain ⟨e, next, herror⟩ := once start opened responder.state rng message stamp payload reply
    room room' hread hwrite (noiseInit init) 256
  cases hopens.read.symm.trans herror

/-- The answer of a responder at its start, and the transport it turns into. -/
theorem AtStart.replied (hatStart : responder.AtStart keypair psk)
    (hanswers : (responder.setCurrentTime t).Answers init rng pub reply state)
    (hresponse : response = (responder.setCurrentTime t).answer init pub reply)
    {inner : TransportState} (hinner : intoTransportMode state = .ok inner) (senderId : UInt32) :
    Replied keypair psk init response (Transport.new inner senderId) := by
  obtain ⟨stamp, opened, hopens, hwrite⟩ := hanswers
  have hrid : (sub init 4 8).length = 4 := by
    rw [sub_length (le_trans (by decide : 8 ≤ initSize) hopens.length)]
  have hreply : sub response 12 60 = reply.val := by
    rw [hresponse]
    exact sub_frame_response pub (Arr.length_eq _) hrid reply.property
  refine ⟨rng, stamp.val, responder.state, opened, state, inner, senderId, hatStart, hopens.read,
    ?_, hinner, ReflTransGen.refl⟩
  rw [hreply]
  exact hwrite

end Responder

end Naboscale
