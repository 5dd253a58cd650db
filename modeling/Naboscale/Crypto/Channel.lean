import Naboscale.Crypto.Exchange
import Naboscale.Crypto.Symbolic

/-!
# What the data channel does

Specifications of `Transport::encrypt` and `Transport::decrypt`, and what they mean for a
stream of packets of which the network loses some. The wire counter is never read, so the
receiver expects exactly the nonce after the last packet it opened.
-/

namespace Naboscale

open Rust

namespace Transport

section General

variable [Profile] [Primitives]

/-- The transport after some use: only the cipher state and the counter move. -/
def Uses (t t' : Transport) : Prop :=
  t'.senderId = t.senderId ∧
    (t'.inner = t.inner ∨
      (∃ payload room result, transportWrite t.inner payload room = (result, t'.inner)) ∨
      ∃ message room result, transportRead t.inner message room = (result, t'.inner))

/-- The bytes of a TRANSPORT packet. -/
def framePacket (receiverId : UInt32) (counter : UInt64) (ciphertext : Bytes) : Bytes :=
  messageTypeTransport :: ([0, 0, 0] ++ (toLe 4 receiverId.toNat).val ++
    (toLe 8 counter.toNat).val) ++ ciphertext

omit [Profile] [Primitives] in
/-- Everything after the header of a packet is its ciphertext. -/
theorem sub_framePacket (receiverId : UInt32) (counter : UInt64) (ciphertext : Bytes) :
    sub (framePacket receiverId counter ciphertext) transportHeaderSize
      (framePacket receiverId counter ciphertext).length = ciphertext := by
  have hhead : (messageTypeTransport :: ([0, 0, 0] ++ (toLe 4 receiverId.toNat).val ++
      (toLe 8 counter.toNat).val)).length = transportHeaderSize := by
    simp [Arr.length_eq, transportHeaderSize]
  have hframe : framePacket receiverId counter ciphertext =
      (messageTypeTransport :: ([0, 0, 0] ++ (toLe 4 receiverId.toNat).val ++
        (toLe 8 counter.toNat).val)) ++ ciphertext ++ [] := by
    simp [framePacket]
  have hlen : ciphertext.length =
      (framePacket receiverId counter ciphertext).length - transportHeaderSize := by
    rw [hframe, List.append_nil, List.length_append, hhead, Nat.add_sub_cancel_left]
  have hsub := sub_append (r := []) hhead hlen
  rwa [← hframe] at hsub

/-- The counter advances, unless the build checks overflow and it is at its maximum. -/
theorem wp_nextCounter {counter : UInt64} {self : Transport}
    {Q : Method.Post Transport CryptoError UInt64} (hok : Q.ok (counter + 1) self)
    (hpanic : Profile.overflowChecks = true → counter.toNat + 1 = 2 ^ 64 → Q.panic) :
    (nextCounter counter).wp Q self := by
  rw [nextCounter, Method.wp_ite, Method.wp_ite]
  refine ⟨fun _ => hok, fun hmax => ⟨fun hchecks => hpanic hchecks ?_, fun _ => hok⟩⟩
  have := counter.toNat_lt
  omega

/-- What a call of `encrypt` that fails leaves: the transport as it was where the buffer has no
room for the packet, and otherwise one whose counter has advanced although snow refused. -/
inductive Refuses (self : Transport) (plaintext : Bytes) (room : ℕ) : Transport → Prop
  | noRoom : room < transportHeaderSize + plaintext.length + 16 → Refuses self plaintext room self
  | unsealed {e : SnowError} {inner : TransportState} :
      transportHeaderSize + plaintext.length + 16 ≤ room →
      transportWrite self.inner plaintext (room - transportHeaderSize) = (.error e, inner) →
      Refuses self plaintext room { self with inner, sendCounter := self.sendCounter + 1 }

omit [Profile] in
theorem Refuses.uses {self self' : Transport} {plaintext : Bytes} {room : ℕ}
    (h : self.Refuses plaintext room self') : self.Uses self' := by
  cases h with
  | noRoom => exact ⟨rfl, Or.inl rfl⟩
  | unsealed _ hwrite => exact ⟨rfl, Or.inr (Or.inl ⟨_, _, _, hwrite⟩)⟩

/-- What `encrypt` can do: frame the ciphertext, fail after at most one use, or trap on the
counter. -/
theorem wp_encrypt {self : Transport} {plaintext : Bytes} {receiverId : UInt32} {room : ℕ}
    {Q : Method.Post Transport CryptoError Bytes}
    (hok : ∀ ciphertext inner,
      transportWrite self.inner plaintext (room - transportHeaderSize) = (.ok ciphertext, inner) →
      Q.ok (framePacket receiverId self.sendCounter ciphertext)
        { self with inner, sendCounter := self.sendCounter + 1 })
    (herr : ∀ e self', self.Refuses plaintext room self' → Q.err e self')
    (hpanic : Profile.overflowChecks = true → self.sendCounter.toNat + 1 = 2 ^ 64 → Q.panic) :
    (encrypt plaintext receiverId room).wp Q self := by
  rcases hwrite : transportWrite self.inner plaintext (room - transportHeaderSize)
    with ⟨result, inner⟩
  unfold encrypt
  simp only [Method.wp_bind, Method.wp_get, Method.wp_ite, Method.wp_fail, hwrite]
  refine ⟨fun hroom => herr _ _ (.noRoom hroom), fun hroom => wp_nextCounter ?_ hpanic⟩
  cases result with
  | ok ciphertext => exact hok ciphertext inner hwrite
  | error e => exact herr _ _ (.unsealed (not_lt.1 hroom) hwrite)

omit [Profile] in
/-- What `decrypt` can do: open the packet, or fail after at most one use. It never panics. -/
theorem wp_decrypt {self : Transport} {packet : Bytes} {room : ℕ}
    {Q : Method.Post Transport CryptoError Bytes}
    (hok : ∀ plaintext self', self.Uses self' → Q.ok plaintext self')
    (herr : ∀ e self', self.Uses self' → Q.err e self') :
    (decrypt packet room).wp Q self := by
  rcases hread : transportRead self.inner
    (sub packet transportHeaderSize packet.length) room with ⟨result, inner⟩
  have huses : self.Uses { self with inner } := ⟨rfl, Or.inr (Or.inr ⟨_, _, _, hread⟩)⟩
  have hself : self.Uses self := ⟨rfl, Or.inl rfl⟩
  unfold decrypt
  simp only [Method.wp_bind, Method.wp_get, Method.wp_ite, Method.wp_fail, Method.wp_set,
    Method.wp_lift, wp_slice, wp_index, hread]
  refine ⟨fun _ => herr _ _ hself, fun hlen => ⟨fun byte _ => ⟨fun _ => herr _ _ hself,
    fun _ => ⟨fun _ => ⟨fun p _ => hok _ _ huses, fun e _ => herr _ _ huses⟩, fun h => ?_⟩⟩,
    fun h => ?_⟩⟩
  · simp only [transportHeaderSize] at *
    omega
  · simp only [transportHeaderSize] at *
    omega

omit [Profile] in
/-- Decrypting a packet with a header is reading what follows it. -/
theorem decrypt_eq {self : Transport} {packet : Bytes} {room : ℕ}
    (hlen : transportHeaderSize + 16 ≤ packet.length)
    (htype : packet[0]? = some messageTypeTransport) :
    decrypt packet room self =
      match transportRead self.inner (sub packet transportHeaderSize packet.length) room with
      | (.ok plaintext, inner) => .ok plaintext { self with inner }
      | (.error e, inner) => .err (.noise e) { self with inner } := by
  unfold decrypt
  rw [Method.bind_ok (Method.get_apply self), if_neg (not_lt.2 hlen), index_eq htype, pure_bind,
    if_neg (not_not.2 rfl), slice_eq (le_trans (Nat.le_add_right _ _) hlen) le_rfl, pure_bind]
  rcases transportRead self.inner _ room with ⟨_ | _, inner⟩ <;> rfl

omit [Profile] in
/-- Decrypting a framed packet is reading its ciphertext. -/
theorem decrypt_framePacket {self : Transport} {receiverId : UInt32} {counter : UInt64}
    {ciphertext : Bytes} {room : ℕ} (hlen : 16 ≤ ciphertext.length) :
    decrypt (framePacket receiverId counter ciphertext) room self =
      match transportRead self.inner ciphertext room with
      | (.ok plaintext, inner) => .ok plaintext { self with inner }
      | (.error e, inner) => .err (.noise e) { self with inner } := by
  have hsize : (framePacket receiverId counter ciphertext).length =
      transportHeaderSize + ciphertext.length := by
    simp only [framePacket, List.length_append, List.length_cons, Arr.length_eq, List.length_nil,
      transportHeaderSize]
  rw [decrypt_eq (by omega) rfl, sub_framePacket]

/-! ## Streams of packets -/

/-- Encrypt the plaintexts in order; each comes with its packet. -/
def sendAll (receiverId : UInt32) (room : ℕ) :
    List Bytes → Method Transport CryptoError (List (Bytes × Bytes))
  | [] => pure []
  | plaintext :: rest => do
      let packet ← encrypt plaintext receiverId room
      let sent ← sendAll receiverId room rest
      pure ((plaintext, packet) :: sent)

/-- Decrypt the packets in order. As in `handle_transport`, a packet that fails is dropped. -/
def receiveAll (room : ℕ) : Transport → List Bytes → List (Option Bytes)
  | _, [] => []
  | self, packet :: rest =>
      match decrypt packet room self with
      | .ok plaintext self' => some plaintext :: receiveAll room self' rest
      | .err _ self' => none :: receiveAll room self' rest
      | .panic => []

/-- The packet was made under the key at a nonce of at least `n`. -/
def SealedFrom (key : CipherKey) (n : ℕ) (entry : Bytes × Bytes) : Prop :=
  ∃ (t t' : TransportState) (room : ℕ) (receiverId : UInt32) (counter : UInt64)
    (ciphertext : Bytes),
    transportWrite t entry.1 room = (.ok ciphertext, t') ∧ sendingKey t = key ∧
      n ≤ sendingNonce t ∧ entry.2 = framePacket receiverId counter ciphertext

/-- The sender's direction matches the receiver's: same key, next nonce expected. -/
def Matches (a b : TransportState) : Prop :=
  sendingKey a = receivingKey b ∧ sendingNonce a = receivingNonce b

/-- What `encrypt` has done when it succeeds. -/
theorem encrypt_ok {self self' : Transport} {plaintext packet : Bytes} {receiverId : UInt32}
    {room : ℕ} (h : encrypt plaintext receiverId room self = .ok packet self') :
    ∃ ciphertext, transportWrite self.inner plaintext (room - transportHeaderSize) =
        (.ok ciphertext, self'.inner) ∧
      packet = framePacket receiverId self.sendCounter ciphertext := by
  suffices hwp : (encrypt plaintext receiverId room).wp
      ⟨fun packet self' => ∃ ciphertext,
        transportWrite self.inner plaintext (room - transportHeaderSize) =
          (.ok ciphertext, self'.inner) ∧
        packet = framePacket receiverId self.sendCounter ciphertext,
        fun _ _ => True, True⟩ self by
    rw [Method.wp_def, h] at hwp
    exact hwp
  exact wp_encrypt (fun ciphertext inner hwrite => ⟨ciphertext, hwrite, rfl⟩)
    (fun _ _ _ => trivial) (fun _ _ => trivial)

/-- The transport can make another packet: neither its nonces nor its counter are used up. -/
def Usable (t : Transport) : Prop :=
  sendingNonce t.inner + 1 < 2 ^ 64 ∧ t.sendCounter.toNat + 1 < 2 ^ 64

/-- A usable transport encrypts what its buffer has room for. -/
theorem Usable.encrypts (laws : TransportLaws) (seals : TransportSeals) {self : Transport}
    (h : self.Usable) {plaintext : Bytes} (receiverId : UInt32) {room : ℕ}
    (hroom : transportHeaderSize + plaintext.length + 16 ≤ room)
    (hlen : plaintext.length + 16 ≤ 65535) :
    ∃ packet next, encrypt plaintext receiverId room self = .ok packet next ∧
      packet.length = transportHeaderSize + plaintext.length + 16 := by
  have hbody : plaintext.length + 16 ≤ room - transportHeaderSize := by omega
  obtain ⟨ciphertext, inner, hwrite⟩ := seals self.inner plaintext _ hbody hlen h.1
  have hciphertext := (laws.write_ok hwrite).1
  refine ⟨framePacket receiverId self.sendCounter ciphertext,
    { self with inner, sendCounter := self.sendCounter + 1 }, ?_, ?_⟩
  · rw [encrypt, Method.bind_ok (Method.get_apply self), if_neg (not_lt.2 hroom), nextCounter,
      if_pos h.2, pure_bind, hwrite]
    rfl
  · simp only [framePacket, List.length_append, List.length_cons, Arr.length_eq, List.length_nil,
      transportHeaderSize]
    omega

/-- A stream that is sent was sent one packet after another. -/
theorem sendAll_cons_ok {self last : Transport} {plaintext : Bytes} {rest : List Bytes}
    {receiverId : UInt32} {room : ℕ} {sent : List (Bytes × Bytes)}
    (h : sendAll receiverId room (plaintext :: rest) self = .ok sent last) :
    ∃ packet next tail, encrypt plaintext receiverId room self = .ok packet next ∧
      sendAll receiverId room rest next = .ok tail last ∧ sent = (plaintext, packet) :: tail := by
  rw [sendAll, Method.bind_eq] at h
  cases hfirst : encrypt plaintext receiverId room self with
  | ok packet next =>
      simp only [hfirst, Method.bind_eq] at h
      cases hrest : sendAll receiverId room rest next with
      | ok tail last' =>
          simp only [hrest] at h
          cases h
          exact ⟨packet, next, tail, rfl, hrest, rfl⟩
      | err e s => simp [hrest] at h
      | panic => simp [hrest] at h
  | err e s => simp [hfirst] at h
  | panic => simp [hfirst] at h

/-- Every packet of a stream is sealed at a nonce the sender had not used before. -/
theorem sendAll_sealed (laws : TransportLaws) {receiverId : UInt32} {room : ℕ}
    {plaintexts : List Bytes} {self last : Transport} {sent : List (Bytes × Bytes)}
    (h : sendAll receiverId room plaintexts self = .ok sent last) :
    ∀ entry ∈ sent, SealedFrom (sendingKey self.inner) (sendingNonce self.inner) entry := by
  induction plaintexts generalizing self sent with
  | nil =>
      cases h
      simp
  | cons plaintext rest ih =>
      obtain ⟨packet, next, tail, hfirst, hrest, rfl⟩ := sendAll_cons_ok h
      obtain ⟨ciphertext, hwrite, rfl⟩ := encrypt_ok hfirst
      obtain ⟨_, _, hnonce, _, hkey, _⟩ := laws.write_ok hwrite
      intro entry hentry
      rcases List.mem_cons.1 hentry with rfl | htail
      · exact ⟨_, _, _, _, _, _, hwrite, rfl, le_rfl, rfl⟩
      · obtain ⟨t, t', room', rid, counter, c, hw, hk, hn, hp⟩ := ih hrest entry htail
        exact ⟨t, t', room', rid, counter, c, hw, hk.trans hkey, by omega, hp⟩

omit [Profile] in
/-- A packet sealed after the nonce that the receiver expects is not opened. -/
theorem not_opened_of_later (laws : TransportLaws) {b : Transport} {entry : Bytes × Bytes} {n : ℕ}
    {room : ℕ} (hsealed : SealedFrom (receivingKey b.inner) n entry)
    (hlater : receivingNonce b.inner < n) :
    ∀ p b', decrypt entry.2 room b ≠ .ok p b' := by
  obtain ⟨t, t', room', rid, counter, c, hwrite, hkey, hn, hpacket⟩ := hsealed
  have hlen := (laws.write_ok hwrite).1
  intro p b' hdec
  rw [hpacket, decrypt_framePacket (by omega)] at hdec
  rcases hread : transportRead b.inner c room with ⟨e | q, inner⟩
  · rw [hread] at hdec
    cases hdec
  · have := laws.opens_only hwrite hkey hread
    omega

/-- The packet at the nonce that the receiver expects is opened, and the directions match
again. -/
theorem opened_of_matches (laws : TransportLaws) {a a' b : Transport} {plaintext packet : Bytes}
    {receiverId : UInt32} {room room' : ℕ} (hmatches : Matches a.inner b.inner)
    (hsend : encrypt plaintext receiverId room a = .ok packet a')
    (hfits : plaintext.length ≤ room') :
    ∃ b', decrypt packet room' b = .ok plaintext b' ∧ Matches a'.inner b'.inner := by
  obtain ⟨ciphertext, hwrite, rfl⟩ := encrypt_ok hsend
  obtain ⟨hlen, _, hnonce, _, hkey, _⟩ := laws.write_ok hwrite
  obtain ⟨inner, hread⟩ := laws.opens hwrite hmatches.1 hmatches.2 hfits
  obtain ⟨_, hnonce', _, hkey'⟩ := laws.read_ok hread
  refine ⟨{ b with inner }, ?_, ?_⟩
  · rw [decrypt_framePacket (by omega), hread]
  · exact ⟨(hkey.trans hmatches.1).trans hkey'.symm, by rw [hnonce, hnonce', hmatches.2]⟩

/-- Between matching directions, the delivered part of a stream is decrypted exactly when it is
an initial part of it. -/
theorem received_iff_prefix (laws : TransportLaws) {receiverId : UInt32} {room room' : ℕ}
    {plaintexts : List Bytes} {a a' b : Transport} {sent delivered : List (Bytes × Bytes)}
    (hmatches : Matches a.inner b.inner)
    (hsend : sendAll receiverId room plaintexts a = .ok sent a')
    (hfits : ∀ plaintext ∈ plaintexts, plaintext.length ≤ room')
    (hdelivered : delivered.Sublist sent) :
    receiveAll room' b (delivered.map Prod.snd) = delivered.map (some ∘ Prod.fst) ↔
      delivered <+: sent := by
  induction plaintexts generalizing a b sent delivered with
  | nil =>
      cases hsend
      cases hdelivered
      exact iff_of_true rfl List.nil_prefix
  | cons plaintext rest ih =>
      obtain ⟨packet, next, tail, hfirst, hrest, rfl⟩ := sendAll_cons_ok hsend
      obtain ⟨b', hdec, hmatches'⟩ := opened_of_matches laws hmatches hfirst
        (hfits plaintext List.mem_cons_self)
      have hfits' : ∀ p ∈ rest, p.length ≤ room' := fun p hp => hfits p (List.mem_cons_of_mem _ hp)
      cases delivered with
      | nil => exact iff_of_true rfl List.nil_prefix
      | cons entry others =>
          by_cases hentry : entry = (plaintext, packet)
          · -- The first packet arrives: it is opened, and the rest of the stream decides.
            subst hentry
            have hothers : others.Sublist tail := List.cons_sublist_cons.1 hdelivered
            rw [List.map_cons, List.map_cons, receiveAll, hdec, List.prefix_cons_inj,
              ← ih hmatches' hrest hfits' hothers]
            exact List.cons_inj_right _
          · -- The first packet is lost: whatever arrives next is sealed at a later nonce.
            have hlost : (entry :: others).Sublist tail := by
              cases hdelivered with
              | cons _ h => exact h
              | cons_cons _ h => exact absurd rfl hentry
            have hsealed := sendAll_sealed laws hrest entry (hlost.subset List.mem_cons_self)
            obtain ⟨ciphertext, hwrite, _⟩ := encrypt_ok hfirst
            obtain ⟨_, _, hnonce, _, hkey, _⟩ := laws.write_ok hwrite
            rw [hkey, hmatches.1] at hsealed
            have hclosed : ∀ p b', decrypt entry.2 room' b ≠ .ok p b' :=
              not_opened_of_later laws hsealed
                (by rw [hnonce, hmatches.2]; exact Nat.lt_succ_self _)
            refine iff_of_false (fun h => ?_) (fun h => hentry (List.cons_prefix_cons.1 h).1)
            rw [List.map_cons, List.map_cons, receiveAll] at h
            cases hopen : decrypt entry.2 room' b with
            | ok p b'' => exact hclosed p b'' hopen
            | err e b'' =>
                rw [hopen] at h
                cases (List.cons.inj h).1
            | panic =>
                rw [hopen] at h
                cases h

/-- Between the two ends of a completed handshake, in either direction, what arrives of a stream
is decrypted to its plaintexts exactly when no packet before it was lost. -/
theorem delivered_decrypts_iff_prefix (handshakeLaws : HandshakeLaws)
    (transportLaws : TransportLaws) {initiator responder : Keypair} {psk : Key}
    {initiatorId responderId : UInt32} {timestamp currentTime : Tai64N} {rng rng' : Ephemeral}
    {ti tr : Transport}
    (hexchange : exchange initiator responder psk initiatorId responderId timestamp currentTime
      rng rng' () = .ok (ti, tr) ())
    {a b a' : Transport} (hends : a = ti ∧ b = tr ∨ a = tr ∧ b = ti)
    {receiverId : UInt32} {room room' : ℕ} {plaintexts : List Bytes}
    {sent delivered : List (Bytes × Bytes)}
    (hsend : sendAll receiverId room plaintexts a = .ok sent a')
    (hfits : ∀ plaintext ∈ plaintexts, plaintext.length ≤ room')
    (hdelivered : delivered.Sublist sent) :
    receiveAll room' b (delivered.map Prod.snd) = delivered.map (some ∘ Prod.fst) ↔
      delivered <+: sent := by
  have hkeys := (exchange_agreed hexchange).keys handshakeLaws
  have hmatches : Matches a.inner b.inner := by
    rcases hends with ⟨rfl, rfl⟩ | ⟨rfl, rfl⟩
    · exact ⟨hkeys.forward, hkeys.sending.1.trans hkeys.receiving.2.symm⟩
    · exact ⟨hkeys.backward, hkeys.sending.2.trans hkeys.receiving.1.symm⟩
  exact received_iff_prefix transportLaws hmatches hsend hfits hdelivered

end General

section Symbolic

attribute [local instance] Symbolic.primitives Symbolic.release

/-- The handshake of two parties with the pre-shared key zero. -/
def symbolicRun : Rust.Outcome Unit CryptoError (Transport × Transport) :=
  exchange ⟨Symbolic.key 1⟩ ⟨Symbolic.key 2⟩ (Symbolic.key 0) 1 2 ⟨1000, 0⟩ ⟨1001, 0⟩
    (7 : UInt8) (8 : UInt8) ()

/-- The first of two packets arrives and is decrypted, as the general theorem says. -/
theorem first_packet_decrypts :
    ∃ ti tr sent last, symbolicRun = .ok (ti, tr) () ∧
      Transport.sendAll 2 1600 [[1], [2]] ti = .ok sent last ∧
      Transport.receiveAll 1500 tr ((sent.take 1).map Prod.snd) =
        (sent.take 1).map (some ∘ Prod.fst) := by
  have hrun : symbolicRun.okAnd (fun t _ =>
      (Transport.sendAll 2 1600 [[1], [2]] t.1).okAnd fun _ _ => true) = true := by
    decide +kernel
  obtain ⟨⟨ti, tr⟩, _, hexchange, hrun⟩ := Outcome.okAnd_iff.1 hrun
  obtain ⟨sent, last, hsend, _⟩ := Outcome.okAnd_iff.1 hrun
  have hfits : ∀ plaintext ∈ ([[1], [2]] : List Bytes), plaintext.length ≤ 1500 := by decide
  refine ⟨ti, tr, sent, last, hexchange, hsend, ?_⟩
  exact (Transport.delivered_decrypts_iff_prefix Symbolic.handshake_laws Symbolic.transport_laws
    hexchange (Or.inl ⟨rfl, rfl⟩) hsend hfits (List.take_sublist 1 sent)).2
    (List.take_prefix 1 sent)

/-- The first of two packets is lost, and the second is not decrypted. -/
theorem lost_packet_breaks_stream :
    ∃ ti tr sent last, ∃ delivered : List (Bytes × Bytes), symbolicRun = .ok (ti, tr) () ∧
      Transport.sendAll 2 1600 [[1], [2]] ti = .ok sent last ∧ delivered.Sublist sent ∧
      Transport.receiveAll 1500 tr (delivered.map Prod.snd) ≠
        delivered.map (some ∘ Prod.fst) := by
  have hrun : symbolicRun.okAnd (fun t _ =>
      (Transport.sendAll 2 1600 [[1], [2]] t.1).okAnd fun sent _ =>
        decide (Transport.receiveAll 1500 t.2 (sent.tail.map Prod.snd) ≠
          sent.tail.map (some ∘ Prod.fst))) = true := by
    decide +kernel
  obtain ⟨⟨ti, tr⟩, _, hexchange, hrun⟩ := Outcome.okAnd_iff.1 hrun
  obtain ⟨sent, last, hsend, hlost⟩ := Outcome.okAnd_iff.1 hrun
  exact ⟨ti, tr, sent, last, sent.tail, hexchange, hsend, List.tail_sublist sent,
    of_decide_eq_true hlost⟩

end Symbolic

end Transport

end Naboscale
