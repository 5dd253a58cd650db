import Naboscale.Crypto.Acceptance

/-!
# Two ends in step

Both ends of a pair of transports send whenever they like, and the packets of each arrive in
order and after any delay. Every packet that arrives is then decrypted to its plaintext.
-/

namespace Naboscale

open Rust Transport

variable [Profile] [Primitives]

/-- What the sender has made and the receiver has not seen is sealed at the nonces that the receiver
expects next, up to the one that the sender uses next. -/
structure InStep (sender receiver : TransportState) (flight : List (Bytes × Bytes)) : Prop where
  key : sendingKey sender = receivingKey receiver
  sealedAt : ∀ i entry, flight[i]? = some entry →
    SealedAt (receivingKey receiver) (receivingNonce receiver + i) entry
  nonce : sendingNonce sender = receivingNonce receiver + flight.length

namespace InStep

variable {sender sender' receiver receiver' : TransportState} {flight : List (Bytes × Bytes)}

omit [Profile] in
/-- Only the sender's outgoing direction and the receiver's incoming one matter. -/
theorem congr (h : InStep sender receiver flight)
    (hsender : sendingKey sender' = sendingKey sender ∧
      sendingNonce sender' = sendingNonce sender)
    (hreceiver : receivingKey receiver' = receivingKey receiver ∧
      receivingNonce receiver' = receivingNonce receiver) : InStep sender' receiver' flight := by
  obtain ⟨hkey, hnonce⟩ := hreceiver
  refine ⟨?_, ?_, ?_⟩
  · rw [hsender.1, hkey, h.key]
  · rw [hkey, hnonce]
    exact h.sealedAt
  · rw [hsender.2, hnonce, h.nonce]

/-- A packet that the sender makes comes last. -/
theorem sent (laws : TransportLaws) {a a' : Transport} {plaintext packet : Bytes}
    {receiverId : UInt32} {room : ℕ} (h : InStep a.inner receiver flight)
    (hencrypt : encrypt plaintext receiverId room a = .ok packet a') :
    InStep a'.inner receiver (flight ++ [(plaintext, packet)]) := by
  obtain ⟨ciphertext, hwrite, hpacket⟩ := encrypt_ok hencrypt
  obtain ⟨_, _, hnonce, _, hkey, _⟩ := laws.write_ok hwrite
  refine ⟨hkey.trans h.key, fun i entry hi => ?_, ?_⟩
  · rw [List.getElem?_append] at hi
    by_cases hlt : i < flight.length
    · rw [if_pos hlt] at hi
      exact h.sealedAt i entry hi
    · rw [if_neg hlt] at hi
      obtain ⟨hlast, hentry⟩ := List.getElem?_eq_some_iff.1 hi
      have hi' : i - flight.length = 0 := by
        rw [List.length_singleton] at hlast
        omega
      rw [List.getElem_singleton] at hentry
      subst hentry
      refine ⟨a.inner, _, _, _, _, ciphertext, hwrite, h.key, ?_, hpacket⟩
      rw [h.nonce]
      omega
  · rw [hnonce, h.nonce, List.length_append, List.length_singleton, Nat.add_assoc]

omit [Profile] in
/-- The first packet in flight is decrypted. -/
theorem delivered (laws : TransportLaws) {b : Transport} {plaintext packet : Bytes}
    {rest : List (Bytes × Bytes)} {room : ℕ}
    (h : InStep sender b.inner ((plaintext, packet) :: rest)) (hfits : plaintext.length ≤ room) :
    ∃ b', decrypt packet room b = .ok plaintext b' ∧ InStep sender b'.inner rest := by
  obtain ⟨b', hdec, hkey, hnonce⟩ := opened_next laws (h.sealedAt 0 _ rfl) rfl hfits
    ⟨rfl, rfl, rfl⟩
  refine ⟨b', hdec, hkey ▸ h.key, fun i entry hi => ?_, ?_⟩
  · have hlater := h.sealedAt (i + 1) entry hi
    rw [hkey, hnonce]
    convert hlater using 1
    omega
  · rw [hnonce, h.nonce, List.length_cons]
    omega

end InStep

/-- The two ends, and the packets in flight from each with their plaintexts. The end `true` is the
initiator. -/
structure Link where
  ends : Bool → Transport
  flight : Bool → List (Bytes × Bytes)

namespace Link

/-- One end encrypts a plaintext, or the other end is given the first packet in flight. -/
inductive Event where
  | send (side : Bool) (plaintext : Bytes) (receiverId : UInt32) (room : ℕ)
  | deliver (side : Bool) (room : ℕ)

/-- The link after an event. The receiver's buffer must have room for the plaintext. -/
def step (link : Link) : Event → Option Link
  | .send side plaintext receiverId room =>
      match encrypt plaintext receiverId room (link.ends side) with
      | .ok packet t =>
          some { ends := Function.update link.ends side t
                 flight := Function.update link.flight side
                   (link.flight side ++ [(plaintext, packet)]) }
      | .err _ t => some { link with ends := Function.update link.ends side t }
      | .panic => none
  | .deliver side room =>
      match link.flight side with
      | [] => none
      | (plaintext, packet) :: rest =>
          if plaintext.length ≤ room then
            (decrypt packet room (link.ends !side)).state?.map fun t =>
              { ends := Function.update link.ends (!side) t
                flight := Function.update link.flight side rest }
          else none

/-- The link of two ends that have sent nothing yet. -/
def start (ti tr : Transport) : Link where
  ends side := cond side ti tr
  flight _ := []

/-- The first packet in flight from either end is decrypted to its plaintext. -/
def Decrypts (link : Link) : Prop :=
  ∀ side plaintext packet rest room, link.flight side = (plaintext, packet) :: rest →
    plaintext.length ≤ room →
    ∃ t, decrypt packet room (link.ends !side) = .ok plaintext t

/-- Each end is in step with the other. -/
def Synced (link : Link) : Prop :=
  ∀ side, InStep (link.ends side).inner (link.ends !side).inner (link.flight side)

variable {link link' : Link}

/-- Sending keeps the ends in step. -/
theorem Synced.send (laws : TransportLaws) (h : link.Synced) {side : Bool} {plaintext : Bytes}
    {receiverId : UInt32} {room : ℕ}
    (hstep : link.step (.send side plaintext receiverId room) = some link') : link'.Synced := by
  have hback := h (!side)
  rw [Bool.not_not] at hback
  simp only [step] at hstep
  cases hencrypt : encrypt plaintext receiverId room (link.ends side) with
  | ok packet t =>
      rw [hencrypt] at hstep
      cases hstep
      obtain ⟨ciphertext, hwrite, _⟩ := encrypt_ok hencrypt
      obtain ⟨_, _, _, hnonce, _, hkey⟩ := laws.write_ok hwrite
      intro side'
      by_cases hside : side' = side
      · subst hside
        simpa using (h side').sent laws hencrypt
      · obtain rfl : side' = !side := Bool.eq_not_of_ne hside
        simpa using hback.congr ⟨rfl, rfl⟩ ⟨hkey, hnonce⟩
  | err e t =>
      rw [hencrypt] at hstep
      cases hstep
      have hinner := encrypt_err laws hencrypt
      intro side'
      by_cases hside : side' = side
      · subst hside
        simpa [hinner] using h side'
      · obtain rfl : side' = !side := Bool.eq_not_of_ne hside
        simpa [hinner] using hback
  | panic =>
      rw [hencrypt] at hstep
      cases hstep

/-- So does the delivery of a packet. -/
theorem Synced.deliver (laws : TransportLaws) (h : link.Synced) {side : Bool} {room : ℕ}
    (hstep : link.step (.deliver side room) = some link') : link'.Synced := by
  have hback := h (!side)
  have hside := h side
  rw [Bool.not_not] at hback
  simp only [step] at hstep
  cases hflight : link.flight side with
  | nil =>
      rw [hflight] at hstep
      cases hstep
  | cons entry rest =>
      obtain ⟨plaintext, packet⟩ := entry
      rw [hflight] at hstep hside
      by_cases hfits : plaintext.length ≤ room
      · obtain ⟨t, hdec, hnext⟩ := hside.delivered laws hfits
        have hreceive : receive room (link.ends !side) packet = some t := by
          rw [receive, hdec]
          rfl
        have hsending := receive_sending laws hreceive
        simp only [if_pos hfits, hdec, Outcome.state?_ok, Option.map_some,
          Option.some.injEq] at hstep
        subst hstep
        intro side'
        by_cases hsame : side' = side
        · subst hsame
          simpa using hnext
        · obtain rfl : side' = !side := Bool.eq_not_of_ne hsame
          simpa using hback.congr hsending ⟨rfl, rfl⟩
      · simp only [if_neg hfits] at hstep
        cases hstep

end Link

end Naboscale
