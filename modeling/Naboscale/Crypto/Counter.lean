import Naboscale.Crypto.Acceptance

/-!
# The wire counter and the nonce

`encrypt` writes its own counter into the header, and snow seals the payload under a nonce of its
own. The counter advances before snow is called and the nonce only when snow succeeds, so a
plaintext that the buffer has room for and a Noise message has not sets them one apart, for the
rest of the session.
-/

namespace Naboscale.Transport

open Rust

/-- The counter in the header of a packet. -/
def wireCounter (packet : Bytes) : ℕ := fromLe (sub packet 8 16)

theorem wireCounter_framePacket (receiverId : UInt32) (counter : UInt64) (ciphertext : Bytes) :
    wireCounter (framePacket receiverId counter ciphertext) = counter.toNat := by
  have hhead : (messageTypeTransport :: ([0, 0, 0] ++ (toLe 4 receiverId.toNat).val)).length =
      8 := by
    simp [Arr.length_eq]
  have hframe : framePacket receiverId counter ciphertext =
      (messageTypeTransport :: ([0, 0, 0] ++ (toLe 4 receiverId.toNat).val)) ++
        (toLe 8 counter.toNat).val ++ ciphertext := by
    simp [framePacket]
  have hcounter : sub (framePacket receiverId counter ciphertext) 8 16 =
      (toLe 8 counter.toNat).val := by
    rw [hframe]
    exact sub_append hhead (Arr.length_eq _)
  rw [wireCounter, hcounter, fromLe_toLe (lt_of_lt_of_le counter.toNat_lt (by norm_num))]

/-- The buffer has room for the packet. -/
def Fits (plaintext : Bytes) (room : ℕ) : Prop :=
  transportHeaderSize + plaintext.length + 16 ≤ room

instance (plaintext : Bytes) (room : ℕ) : Decidable (Fits plaintext room) :=
  inferInstanceAs (Decidable (_ ≤ _))

/-- The plaintext is above the limit of a Noise message, and the buffer has room for the packet all
the same. -/
def Oversize (plaintext : Bytes) (room : ℕ) : Prop :=
  Fits plaintext room ∧ 65535 < plaintext.length + 16

instance (plaintext : Bytes) (room : ℕ) : Decidable (Oversize plaintext room) :=
  inferInstanceAs (Decidable (_ ∧ _))

section General

variable [Profile] [Primitives]

/-- A call on a transport. -/
inductive Call where
  | encrypt (plaintext : Bytes) (receiverId : UInt32) (room : ℕ)
  | decrypt (datagram : Bytes) (room : ℕ)

/-- A transport and what has been done with it: the packets that it made, each with the nonce under
which its payload was sealed, and how many plaintexts were oversize. -/
structure Usage where
  transport : Transport
  made : List (Bytes × ℕ)
  oversized : ℕ

namespace Usage

/-- Nothing was done with the transport yet. -/
def start (transport : Transport) : Usage := { transport, made := [], oversized := 0 }

/-- One call. -/
def step (s : Usage) : Call → Option Usage
  | .encrypt plaintext receiverId room =>
      let oversized := s.oversized + if Oversize plaintext room then 1 else 0
      match Transport.encrypt plaintext receiverId room s.transport with
      | .ok packet transport =>
          some
            { transport, made := s.made ++ [(packet, sendingNonce s.transport.inner)], oversized }
      | .err _ transport => some { s with transport, oversized }
      | .panic => none
  | .decrypt datagram room =>
      (receive room s.transport datagram).map fun transport => { s with transport }

/-- Every packet carries the nonce under which it was sealed, and no two carry the same number. -/
structure Faithful (s : Usage) : Prop where
  nonce : ∀ entry ∈ s.made, wireCounter entry.1 = entry.2
  distinct : (s.made.map fun entry => wireCounter entry.1).Nodup

/-- snow can seal the plaintext: there is room for it, and the nonces are not used up. -/
def Seals (s : Usage) (plaintext : Bytes) (room : ℕ) : Prop :=
  Fits plaintext room ∧ plaintext.length + 16 ≤ 65535 ∧ sendingNonce s.transport.inner + 1 < 2 ^ 64

instance (s : Usage) (plaintext : Bytes) (room : ℕ) : Decidable (s.Seals plaintext room) :=
  inferInstanceAs (Decidable (_ ∧ _ ∧ _))

/-- A call that makes a packet comes after as many oversize plaintexts as the counter has values, or
a multiple of it: in practice after none. -/
def InStep (s : Usage) : Call → Prop
  | .encrypt plaintext _ room => s.Seals plaintext room → 2 ^ 64 ∣ s.oversized
  | .decrypt _ _ => True

instance (s : Usage) : (call : Call) → Decidable (s.InStep call)
  | .encrypt plaintext _ room => inferInstanceAs (Decidable (s.Seals plaintext room → _))
  | .decrypt _ _ => .isTrue trivial

/-! ## One call -/

variable {s t : Usage}

/-- What a call does: it makes a packet, or it is refused, or it is not one of `encrypt`. -/
inductive Steps (s : Usage) : Call → Usage → Prop
  | made {plaintext ciphertext : Bytes} {receiverId : UInt32} {room : ℕ} {inner : TransportState} :
      transportWrite s.transport.inner plaintext (room - transportHeaderSize) =
        (.ok ciphertext, inner) →
      Steps s (.encrypt plaintext receiverId room)
        { transport :=
            { s.transport with inner, sendCounter := s.transport.sendCounter + 1 }
          made := s.made ++ [(framePacket receiverId s.transport.sendCounter ciphertext,
            sendingNonce s.transport.inner)]
          oversized := s.oversized + if Oversize plaintext room then 1 else 0 }
  | refused {plaintext : Bytes} {receiverId : UInt32} {room : ℕ} {transport : Transport} :
      s.transport.Refuses plaintext room transport →
      Steps s (.encrypt plaintext receiverId room)
        { s with transport, oversized := s.oversized + if Oversize plaintext room then 1 else 0 }
  | received {datagram : Bytes} {room : ℕ} {transport : Transport} :
      receive room s.transport datagram = some transport →
      Steps s (.decrypt datagram room) { s with transport }

theorem steps_of_step {call : Call} (h : s.step call = some t) : s.Steps call t := by
  cases call with
  | encrypt plaintext receiverId room =>
      have hwp : (Transport.encrypt plaintext receiverId room).wp
          ⟨fun packet transport => s.Steps (.encrypt plaintext receiverId room)
            { transport, made := s.made ++ [(packet, sendingNonce s.transport.inner)],
              oversized := s.oversized + if Oversize plaintext room then 1 else 0 },
          fun _ transport => s.Steps (.encrypt plaintext receiverId room)
            { s with
              transport, oversized := s.oversized + if Oversize plaintext room then 1 else 0 },
          True⟩ s.transport :=
        wp_encrypt (fun _ _ hwrite => .made hwrite) (fun _ _ hrefuses => .refused hrefuses)
          (fun _ _ => trivial)
      rw [Method.wp_def] at hwp
      simp only [step] at h
      cases hcall : Transport.encrypt plaintext receiverId room s.transport with
      | ok packet transport =>
          rw [hcall] at h hwp
          cases h
          exact hwp
      | err e transport =>
          rw [hcall] at h hwp
          cases h
          exact hwp
      | panic =>
          rw [hcall] at h
          cases h
  | decrypt datagram room =>
      obtain ⟨transport, hreceive, rfl⟩ := Option.map_eq_some_iff.1 h
      exact .received hreceive

omit [Profile] in
/-- What snow seals is no oversize plaintext. -/
theorem seals_of_write (laws : TransportLaws) (limits : TransportLimits)
    {plaintext ciphertext : Bytes} {room : ℕ} {inner : TransportState}
    (hwrite : transportWrite s.transport.inner plaintext (room - transportHeaderSize) =
      (.ok ciphertext, inner)) :
    s.Seals plaintext room ∧ ¬ Oversize plaintext room := by
  obtain ⟨hlen, hroom, -⟩ := laws.write_ok hwrite
  obtain ⟨hlimit, hnonce⟩ := limits _ _ _ _ _ hwrite
  have hfits : Fits plaintext room := by
    unfold Fits
    omega
  exact ⟨⟨hfits, hlimit, hnonce⟩, fun h => absurd h.2 (not_lt.2 hlimit)⟩

omit [Profile] in
/-- A plaintext that snow can seal is not refused. -/
theorem not_seals_of_refuses (seals : TransportSeals) {plaintext : Bytes} {room : ℕ}
    {transport : Transport} (h : s.transport.Refuses plaintext room transport) :
    ¬ s.Seals plaintext room := by
  rintro ⟨hfits, hlimit, hnonce⟩
  cases h with
  | noRoom hroom => exact absurd hfits (not_le.2 hroom)
  | unsealed _ hwrite =>
      have hbody : plaintext.length + 16 ≤ room - transportHeaderSize := by
        unfold Fits at hfits
        omega
      obtain ⟨c, t', hok⟩ := seals _ plaintext _ hbody hlimit hnonce
      cases hok.symm.trans hwrite

omit [Profile] in
/-- Decrypting leaves the counter alone. -/
theorem receive_sendCounter (laws : TransportLaws) {transport transport' : Transport}
    {datagram : Bytes} {room : ℕ} (h : receive room transport datagram = some transport') :
    transport'.sendCounter = transport.sendCounter := by
  unfold receive at h
  rcases decrypt_cases laws datagram room transport with ⟨p, inner, hdec, -⟩ | ⟨e, hdec⟩
  · rw [hdec, Outcome.state?_ok] at h
    cases h
    rfl
  · rw [hdec, Outcome.state?_err] at h
    cases h
    rfl

/-- The counter advances also where snow refuses the plaintext. -/
theorem encrypt_unsealed {self : Transport} {plaintext : Bytes} {receiverId : UInt32} {room : ℕ}
    {e : SnowError} {inner : TransportState} (hfits : Fits plaintext room)
    (hcounter : self.sendCounter.toNat + 1 < 2 ^ 64)
    (hwrite : transportWrite self.inner plaintext (room - transportHeaderSize) =
      (.error e, inner)) :
    encrypt plaintext receiverId room self =
      .err (.noise e) { self with inner, sendCounter := self.sendCounter + 1 } := by
  have hroom : ¬ room < transportHeaderSize + plaintext.length + 16 := not_lt.2 hfits
  rw [encrypt, Method.bind_ok (Method.get_apply self), if_neg hroom, nextCounter,
    if_pos hcounter, pure_bind, hwrite]
  rfl

/-! ## Runs -/

/-- The counter runs ahead of the nonce by the number of oversize plaintexts, until the nonces are
used up. The nonces of the packets are those before the next one, each used once. -/
structure Counts (s : Usage) : Prop where
  before : ∀ entry ∈ s.made, entry.2 < sendingNonce s.transport.inner
  nonces : (s.made.map Prod.snd).Nodup
  counter : sendingNonce s.transport.inner + 1 < 2 ^ 64 →
    s.transport.sendCounter.toNat = (sendingNonce s.transport.inner + s.oversized) % 2 ^ 64

omit [Profile] in
theorem counts_start (fresh : FreshNonces) {h : HandshakeState} {inner : TransportState}
    (hinner : intoTransportMode h = .ok inner) (senderId : UInt32) :
    (start (Transport.new inner senderId)).Counts := by
  refine ⟨nofun, List.nodup_nil, fun _ => ?_⟩
  show (0 : UInt64).toNat = (sendingNonce inner + 0) % 2 ^ 64
  rw [(fresh h inner hinner).1]
  rfl

/-- What a call preserves. -/
theorem Counts.step (laws : TransportLaws) (seals : TransportSeals) (limits : TransportLimits)
    {call : Call} (h : s.Counts) (hstep : s.step call = some t) : t.Counts := by
  cases steps_of_step hstep with
  | @made plaintext ciphertext receiverId room inner hwrite =>
      obtain ⟨-, hsize⟩ := seals_of_write laws limits hwrite
      obtain ⟨-, hlast⟩ := limits _ _ _ _ _ hwrite
      obtain ⟨-, -, hnonce, -⟩ := laws.write_ok hwrite
      -- The nonce of the packet is the next one, and all before it are smaller.
      have hfresh : sendingNonce s.transport.inner ∉ s.made.map Prod.snd := by
        intro hmem
        obtain ⟨entry, hentry, heq⟩ := List.mem_map.1 hmem
        exact absurd (h.before entry hentry) (heq ▸ lt_irrefl _)
      refine ⟨fun entry hentry => ?_, ?_, fun _ => ?_⟩
      · show entry.2 < sendingNonce inner
        rw [hnonce]
        rcases List.mem_append.1 hentry with hold | hnew
        · exact Nat.lt_succ_of_lt (h.before entry hold)
        · rw [List.mem_singleton.1 hnew]
          exact Nat.lt_succ_self _
      · rw [List.map_append, List.nodup_append]
        refine ⟨h.nonces, List.nodup_singleton _, fun nonce hold new hnew heq => hfresh ?_⟩
        have hlast : new = sendingNonce s.transport.inner := List.mem_singleton.1 hnew
        rw [← hlast, ← heq]
        exact hold
      · show (s.transport.sendCounter + 1).toNat = (sendingNonce inner + _) % 2 ^ 64
        rw [if_neg hsize, hnonce, UInt64.toNat_add, h.counter hlast]
        simp only [UInt64.toNat_one, Nat.mod_add_mod]
        congr 1
        omega
  | @refused plaintext receiverId room transport hrefuses =>
      -- A plaintext that is refused although there is room for it is oversize, or no nonce is left.
      have hseals := not_seals_of_refuses seals hrefuses
      cases hrefuses with
      | noRoom hroom =>
          have hsize : ¬ Oversize plaintext room := fun h => absurd h.1 (not_le.2 hroom)
          rw [if_neg hsize]
          exact h
      | @unsealed e inner hfits hwrite =>
          obtain rfl := laws.write_error hwrite
          refine ⟨h.before, h.nonces, fun hlast => ?_⟩
          have hsize : Oversize plaintext room :=
            ⟨hfits, not_le.1 fun hlimit => hseals ⟨hfits, hlimit, hlast⟩⟩
          show (s.transport.sendCounter + 1).toNat = (sendingNonce s.transport.inner + _) % 2 ^ 64
          rw [if_pos hsize, UInt64.toNat_add, h.counter hlast]
          simp only [UInt64.toNat_one, Nat.mod_add_mod]
          rfl
  | @received datagram room transport hreceive =>
      obtain ⟨-, hnonce⟩ := receive_sending laws hreceive
      refine ⟨fun entry hentry => hnonce.symm ▸ h.before entry hentry, h.nonces, ?_⟩
      show sendingNonce transport.inner + 1 < 2 ^ 64 →
        transport.sendCounter.toNat = (sendingNonce transport.inner + s.oversized) % 2 ^ 64
      rw [hnonce, receive_sendCounter laws hreceive]
      exact h.counter

omit [Profile] in
/-- Packets that carry their nonces carry different numbers. -/
theorem Counts.faithful (h : s.Counts) (hnonce : ∀ entry ∈ s.made, wireCounter entry.1 = entry.2) :
    s.Faithful := by
  refine ⟨hnonce, ?_⟩
  rw [List.map_congr_left hnonce]
  exact h.nonces

/-- What was faithful stays so exactly in a call that is in step. -/
theorem Faithful.step_iff (laws : TransportLaws) (seals : TransportSeals) (limits : TransportLimits)
    {call : Call} (h : s.Faithful) (hcounts : s.Counts) (hstep : s.step call = some t) :
    t.Faithful ↔ s.InStep call := by
  have hafter := hcounts.step laws seals limits hstep
  cases steps_of_step hstep with
  | @made plaintext ciphertext receiverId room inner hwrite =>
      obtain ⟨hseals, -⟩ := seals_of_write laws limits hwrite
      have hlast := hseals.2.2
      have hcounter := hcounts.counter hlast
      have hcarried := wireCounter_framePacket receiverId s.transport.sendCounter ciphertext
      -- The packet carries the counter, which is ahead of the nonce by the oversize plaintexts.
      have hahead : s.transport.sendCounter.toNat = sendingNonce s.transport.inner ↔
          2 ^ 64 ∣ s.oversized := by
        rw [hcounter]
        omega
      refine Iff.trans ⟨fun hfaithful => ?_, fun hsame => ?_⟩
        (hahead.trans ⟨fun hdvd _ => hdvd, fun hdvd => hdvd hseals⟩)
      · have hnew := hfaithful.nonce (framePacket receiverId s.transport.sendCounter ciphertext,
          sendingNonce s.transport.inner) (List.mem_append_right _ List.mem_cons_self)
        exact hcarried.symm.trans hnew
      · refine hafter.faithful fun entry hentry => ?_
        rcases List.mem_append.1 hentry with hold | hnew
        · exact h.nonce entry hold
        · rw [List.mem_singleton.1 hnew]
          exact hcarried.trans hsame
  | refused hrefuses =>
      exact iff_of_true ⟨h.nonce, h.distinct⟩
        fun hseals => absurd hseals (not_seals_of_refuses seals hrefuses)
  | received => exact iff_of_true ⟨h.nonce, h.distinct⟩ trivial

/-- In a run of calls on a new transport, every packet carries the nonce under which it was sealed,
and no two packets the same counter, exactly when no packet is made after an oversize plaintext,
save after a multiple of `2 ^ 64` of them. -/
theorem faithful_iff_inStep (laws : TransportLaws) (seals : TransportSeals)
    (limits : TransportLimits) (fresh : FreshNonces) {h : HandshakeState} {inner : TransportState}
    (hinner : intoTransportMode h = .ok inner) (senderId : UInt32) {calls : List Call}
    {last : Usage} (hrun : Transition.exec step (start (Transport.new inner senderId)) calls =
      some last) :
    Transition.AllStates step Faithful (start (Transport.new inner senderId)) calls ↔
      Transition.AllSteps step InStep (start (Transport.new inner senderId)) calls := by
  refine Transition.allStates_iff_allSteps (fun s call t hcounts hstep => ?_)
    (fun s call t hcounts hfaithful hstep => ?_) (counts_start fresh hinner senderId)
    ⟨nofun, List.nodup_nil⟩ hrun
  · exact hcounts.step laws seals limits hstep
  · exact hfaithful.step_iff laws seals limits hcounts hstep

end Usage

end General

section Symbolic

attribute [local instance] Symbolic.primitives Symbolic.release

namespace Usage

/-- A new transport. -/
def fresh : Usage := start (Transport.new (⟨true, [], [], [], 0, 0⟩ : Symbolic.Channel) 7)

/-- A plaintext one byte above the limit of a Noise message, in a buffer with room for the packet,
and then a short one. -/
def oversizeFirst : List Call :=
  [.encrypt (List.replicate 65520 0) 2 65552, .encrypt [1] 2 33]

theorem write_oversize (c : Symbolic.Channel) {payload : Bytes} (room : ℕ)
    (h : 65535 < payload.length + 16) : Symbolic.channelWrite c payload room = (.error .size, c) :=
  if_neg fun hroom => absurd hroom.2.1 (not_le.2 h)

theorem step_oversize {s : Usage} {plaintext : Bytes} (receiverId : UInt32) {room : ℕ}
    (hsize : Oversize plaintext room) (hcounter : s.transport.sendCounter.toNat + 1 < 2 ^ 64) :
    s.step (.encrypt plaintext receiverId room) =
      some { s with
        transport := { s.transport with sendCounter := s.transport.sendCounter + 1 }
        oversized := s.oversized + 1 } := by
  have hwrite := write_oversize s.transport.inner (room - transportHeaderSize) hsize.2
  simp only [step, encrypt_unsealed hsize.1 hcounter hwrite, if_pos hsize]

/-- After an oversize plaintext the next packet carries the counter 1, and its payload is sealed
under the nonce 0. -/
theorem oversize_unfaithful :
    ∃ last, Transition.exec step fresh oversizeFirst = some last ∧
      last.made.map (fun entry => (wireCounter entry.1, entry.2)) = [(1, 0)] ∧
      ¬ Transition.AllStates step Faithful fresh oversizeFirst := by
  have hsize : Oversize (List.replicate 65520 0) 65552 := by
    unfold Oversize Fits
    rw [List.length_replicate]
    decide
  -- The long plaintext is not evaluated: the first call goes by its equation.
  have hfirst := step_oversize (s := fresh) 2 hsize (by decide)
  have hcheck : (step { fresh with
      transport := { fresh.transport with sendCounter := fresh.transport.sendCounter + 1 }
      oversized := fresh.oversized + 1 } (.encrypt [1] 2 33)).any (fun last =>
        decide (last.made.map (fun entry => (wireCounter entry.1, entry.2)) = [(1, 0)])) = true := by
    decide +kernel
  obtain ⟨last, hsecond, hmade⟩ := (Option.any_eq_true _ _).1 hcheck
  have hmade := of_decide_eq_true hmade
  have hrun : Transition.exec step fresh oversizeFirst = some last :=
    Transition.exec_cons hfirst (Transition.exec_cons hsecond rfl)
  refine ⟨last, hrun, hmade, fun hall => ?_⟩
  obtain ⟨entry, hentry, heq⟩ := List.mem_map.1 (hmade ▸ List.mem_singleton_self ((1, 0) : ℕ × ℕ))
  obtain ⟨hcounter, hnonce⟩ := Prod.mk.inj heq
  exact Nat.one_ne_zero (hcounter.symm.trans (((hall.last hrun).nonce entry hentry).trans hnonce))

/-- A buffer that is too small does no harm. -/
theorem noRoom_faithful :
    Transition.AllStates step Faithful fresh
      [.encrypt [1] 2 33, .encrypt [2, 2] 2 33, .decrypt [1] 9, .encrypt [3] 2 40] := by
  have hrun : (Transition.exec step fresh [.encrypt [1] 2 33, .encrypt [2, 2] 2 33,
      .decrypt [1] 9, .encrypt [3] 2 40]).isSome := by
    decide +kernel
  obtain ⟨last, hrun⟩ := Option.isSome_iff_exists.1 hrun
  have hinner : intoTransportMode (.finished true [] [] [] : Symbolic.Handshake) =
      .ok (⟨true, [], [], [], 0, 0⟩ : Symbolic.Channel) := rfl
  refine (faithful_iff_inStep Symbolic.transport_laws Symbolic.transport_seals
    Symbolic.transport_limits Symbolic.fresh_nonces hinner 7 hrun).2 ?_
  decide +kernel

end Usage

end Symbolic

end Naboscale.Transport
