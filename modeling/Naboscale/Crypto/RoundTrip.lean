import Naboscale.Crypto.Link

/-!
# The handshake as a codec

What one side writes the other reads, with any bytes after it, and both ends then decrypt each
other's packets in order. A message in which bytes before the mac1, or of the mac1 alone, are
changed is refused.
-/

namespace Naboscale

open Rust

/-! ## Altered messages -/

section Altered

variable [Primitives]

/-- The message carries the mac1 of its first `n` bytes after them. -/
def Sealed (key : Key) (n : ℕ) (m : Bytes) : Prop :=
  sub m n (n + 16) = (computeMac1 key (sub m 0 n)).val

variable {key : Key} {n : ℕ} {original altered : Bytes}

omit [Primitives] in
theorem sub_zero (m : Bytes) (n : ℕ) : sub m 0 n = m.take n := by
  rw [sub, List.drop_zero, Nat.sub_zero]

end Altered

section General

variable [Profile] [Primitives]

namespace Responder

variable {r : Responder} {initMsg altered : Bytes} {stamp : Arr Tai64N.size}
  {state : HandshakeState} {pub : Key}

end Responder

namespace Initiator

omit [Profile]

variable {i : Initiator} {response altered : Bytes} {inner : TransportState}

end Initiator

/-! ## A completed exchange -/

omit [Profile] [Primitives] in
/-- Clocks below `2 ^ 62` seconds that differ by at most the replay window. -/
theorem Responder.in_window [Profile] {now t : Tai64N} (hnow : now.seconds.toNat < 2 ^ 62)
    (ht : t.seconds.toNat < 2 ^ 62)
    (hnear : |(now.seconds.toNat : ℤ) - t.seconds.toNat| ≤ replayWindowSeconds) :
    InWindow now t := by
  have hn : now.signedSeconds = now.seconds.toNat := I64.wrap_eq ⟨by omega, by omega⟩
  have hs : t.signedSeconds = t.seconds.toNat := I64.wrap_eq ⟨by omega, by omega⟩
  have hdistance : distance now t ≤ replayWindowSeconds := by
    rw [distance, hn, hs]
    exact hnear
  have hlt : distance now t < 2 ^ 63 := lt_of_le_of_lt hdistance (by decide)
  exact ⟨fun hover => absurd hover.2 (not_le.2 hlt), (wrapped_distance_eq hlt).trans_le hdistance⟩

namespace Initiator

variable {i : Initiator} {message : Bytes} {state : HandshakeState} {rng : Ephemeral}

omit [Profile] in
theorem new_eq {keypair : Keypair} {remotePub psk : Key}
    (hbuild : buildInitiator keypair.secret remotePub wgIdentifier psk = .ok state)
    (senderId : UInt32) (timestamp : Tai64N) :
    Initiator.new keypair remotePub psk senderId timestamp =
      .ok { state, senderId, localPub := keypair.public, responderPub := remotePub,
            timestamp } := by
  rw [Initiator.new, hbuild]

omit [Profile] in
theorem frame_init_fields {senderId : Bytes} (pub : Key) (hsid : senderId.length = 4)
    (hlen : message.length = noiseInitPayloadSize) (u : Bytes) :
    (frameInit senderId message pub ++ u)[0]? = some messageTypeInit ∧
      sub (frameInit senderId message pub ++ u) 4 8 = senderId ∧
      Sealed (mac1Key pub) mac1OffsetInit (frameInit senderId message pub ++ u) := by
  have hbody : (initBody senderId message).length = mac1OffsetInit := by
    simp [initBody, hsid, hlen, noiseInitPayloadSize, mac1OffsetInit]
  have hmac : (computeMac1 (mac1Key pub) (initBody senderId message)).val.length =
      mac1OffsetInit + 16 - mac1OffsetInit := Arr.length_eq _
  refine ⟨rfl, ?_, ?_⟩
  · have hframe : frameInit senderId message pub ++ u = [messageTypeInit, 0, 0, 0] ++ senderId ++
        (message ++ List.replicate 16 0 ++
          (computeMac1 (mac1Key pub) (initBody senderId message)).val ++ u) := by
      simp [frameInit, initBody]
    rw [hframe]
    exact sub_append rfl hsid
  · have hbefore : sub (frameInit senderId message pub ++ u) 0 mac1OffsetInit =
        initBody senderId message := by
      rw [sub_zero, frameInit, List.append_assoc]
      exact List.take_left' hbody
    rw [Sealed, hbefore, frameInit]
    exact sub_append hbody hmac

end Initiator

namespace Responder

variable {r : Responder} {initMsg reply : Bytes} {stamp : Arr Tai64N.size}
  {opened state : HandshakeState} {pub : Key} {rng : Ephemeral}

omit [Profile] in
theorem new_eq {keypair : Keypair} {psk : Key}
    (hbuild : buildResponder keypair.secret wgIdentifier psk = .ok state) (senderId : UInt32)
    (currentTime : Tai64N) :
    Responder.new keypair psk senderId currentTime =
      .ok { state, senderId, localPub := keypair.public, currentTime } := by
  rw [Responder.new, hbuild]

/-- The response that frames a Noise message of 48 bytes. -/
theorem Opens.answered (h : r.Opens initMsg stamp opened pub)
    (hwrite : writeMessage opened rng [] noiseResponsePayloadSize = (.ok reply, state))
    (hlen : reply.length = noiseResponsePayloadSize) :
    ∃ out : Arr responseSize, consumeInit initMsg rng r = .ok out { r with state } ∧
      out.val = frameResponse (toLe 4 r.senderId.toNat).val (sub initMsg 4 8) reply pub := by
  have hwp : (writeResponse initMsg pub rng).wp ⟨fun out r' => r' = { r with state } ∧
      out.val = frameResponse (toLe 4 r.senderId.toNat).val (sub initMsg 4 8) reply pub,
      fun _ _ => False, False⟩ { r with state := opened } := by
    refine wp_writeResponse h.length (fun reply' state' out hwrite' hout => ?_)
      (fun e result state' hwrite' hfail => ?_)
    · cases hwrite.symm.trans hwrite'
      exact ⟨rfl, hout⟩
    · cases hwrite.symm.trans hwrite'
      exact hfail reply rfl hlen
  obtain ⟨out, r', hout, rfl, hframe⟩ := Method.ok_of_wp hwp
  refine ⟨out, ?_, hframe⟩
  rw [consumeInit, Method.bind_ok (open_init_ok h)]
  exact hout

omit [Profile] in
theorem frame_response_fields {senderId receiverId : Bytes} (pub : Key)
    (hsid : senderId.length = 4) (hrid : receiverId.length = 4)
    (hlen : reply.length = noiseResponsePayloadSize) (v : Bytes) :
    (frameResponse senderId receiverId reply pub ++ v)[0]? = some messageTypeResponse ∧
      sub (frameResponse senderId receiverId reply pub ++ v) 8 12 = receiverId ∧
      Sealed (mac1Key pub) mac1OffsetResponse
        (frameResponse senderId receiverId reply pub ++ v) := by
  have hbody : (responseBody senderId receiverId reply).length = mac1OffsetResponse := by
    simp [responseBody, hsid, hrid, hlen, noiseResponsePayloadSize, mac1OffsetResponse]
  have hmac : (computeMac1 (mac1Key pub) (responseBody senderId receiverId reply)).val.length =
      mac1OffsetResponse + 16 - mac1OffsetResponse := Arr.length_eq _
  have hhead : ([messageTypeResponse, 0, 0, 0] ++ senderId).length = 8 := by simp [hsid]
  refine ⟨rfl, ?_, ?_⟩
  · have hframe : frameResponse senderId receiverId reply pub ++ v =
        ([messageTypeResponse, 0, 0, 0] ++ senderId) ++ receiverId ++
          (reply ++ List.replicate 16 0 ++
            (computeMac1 (mac1Key pub) (responseBody senderId receiverId reply)).val ++ v) := by
      simp [frameResponse, responseBody]
    rw [hframe]
    exact sub_append hhead hrid
  · have hbefore : sub (frameResponse senderId receiverId reply pub ++ v) 0 mac1OffsetResponse =
        responseBody senderId receiverId reply := by
      rw [sub_zero, frameResponse, List.append_assoc]
      exact List.take_left' hbody
    rw [Sealed, hbefore, frameResponse]
    exact sub_append hbody hmac

end Responder

/-- The calls of one handshake succeed, with the bytes `u` after the INIT and the bytes `v` after
the response. -/
structure Completes (initiator responder : Keypair) (psk : Key) (a b : UInt32) (t now : Tai64N)
    (rng rng' : Ephemeral) (u v : Bytes) (i i' : Initiator) (r r' : Responder)
    (init : Arr initSize) (response : Arr responseSize) (ti tr : Transport) : Prop where
  initiator_new : Initiator.new initiator responder.public psk a t = .ok i
  responder_new : Responder.new responder psk b now = .ok r
  write_init : Initiator.writeInit rng i = .ok init i'
  consume_init : Responder.consumeInit (init.val ++ u) rng' r = .ok response r'
  consume_response : i'.consumeResponse (response.val ++ v) () = .ok ti ()
  into_transport : r'.intoTransport = .ok tr

end General

section Symbolic

attribute [local instance] Symbolic.primitives Symbolic.release

end Symbolic

end Naboscale
