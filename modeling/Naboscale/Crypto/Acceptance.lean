import Naboscale.Crypto.Channel
import Naboscale.Greedy
import Naboscale.Transition

/-!
# What a receiver accepts

The packets that one side made are delivered to the other side in any order, any number of times,
with any bytes after the type in their headers, among byte strings that nobody sealed. The receiver
takes the packets of the stream greedily: it opens the next one when it sees it, and nothing else.
-/

namespace Naboscale

open Rust

namespace Transport

section General

variable [Profile] [Primitives]

/-- The transport makes the packets in order, between calls of `encrypt` that fail and packets of
the other side. Each packet is listed with its plaintext. -/
inductive Sends : Transport → List (Bytes × Bytes) → Transport → Prop
  | done {a : Transport} : Sends a [] a
  | sealed {a a' a'' : Transport} {sent : List (Bytes × Bytes)} {plaintext packet : Bytes}
      {receiverId : UInt32} {room : ℕ} :
      encrypt plaintext receiverId room a = .ok packet a' → Sends a' sent a'' →
      Sends a ((plaintext, packet) :: sent) a''
  | refused {a a' a'' : Transport} {sent : List (Bytes × Bytes)} {plaintext : Bytes}
      {receiverId : UInt32} {room : ℕ} {e : CryptoError} :
      encrypt plaintext receiverId room a = .err e a' → Sends a' sent a'' → Sends a sent a''
  | received {a a' a'' : Transport} {sent : List (Bytes × Bytes)} {datagram : Bytes} {room : ℕ} :
      (decrypt datagram room a).state? = some a' → Sends a' sent a'' → Sends a sent a''

/-- The datagram is the packet, but for the header fields after the type byte. -/
def Carries (packet datagram : Bytes) : Prop :=
  datagram.length = packet.length ∧ datagram.take 1 = packet.take 1 ∧
    datagram.drop transportHeaderSize = packet.drop transportHeaderSize

instance (packet datagram : Bytes) : Decidable (Carries packet datagram) :=
  inferInstanceAs (Decidable (_ ∧ _ ∧ _))

/-- The datagram carries the packet of the entry. -/
def CarriesEntry (entry : Bytes × Bytes) (datagram : Bytes) : Prop := Carries entry.2 datagram

instance (entry : Bytes × Bytes) (datagram : Bytes) : Decidable (CarriesEntry entry datagram) :=
  inferInstanceAs (Decidable (Carries _ _))

/-- The datagram is no forgery: under the key its ciphertext opens only if it is the ciphertext of
one of the packets. -/
def Unforged (key : CipherKey) (sent : List (Bytes × Bytes)) (datagram : Bytes) : Prop :=
  ∀ (t t' : TransportState) (room : ℕ) (plaintext : Bytes), receivingKey t = key →
    transportRead t (datagram.drop transportHeaderSize) room = (.ok plaintext, t') →
    ∃ entry ∈ sent, datagram.drop transportHeaderSize = entry.2.drop transportHeaderSize

/-- The transport after it tried to decrypt a datagram. -/
def receive (room : ℕ) (self : Transport) (datagram : Bytes) : Option Transport :=
  (decrypt datagram room self).state?

/-- The packet was made under the key at the nonce. -/
def SealedAt (key : CipherKey) (nonce : ℕ) (entry : Bytes × Bytes) : Prop :=
  ∃ (t t' : TransportState) (room : ℕ) (receiverId : UInt32) (counter : UInt64)
    (ciphertext : Bytes),
    transportWrite t entry.1 room = (.ok ciphertext, t') ∧ sendingKey t = key ∧
      sendingNonce t = nonce ∧ entry.2 = framePacket receiverId counter ciphertext

/-! ## One call -/

/-- A call of `encrypt` that fails leaves the cipher state alone. -/
theorem encrypt_err (laws : TransportLaws) {self self' : Transport} {plaintext : Bytes}
    {receiverId : UInt32} {room : ℕ} {e : CryptoError}
    (h : encrypt plaintext receiverId room self = .err e self') : self'.inner = self.inner := by
  suffices hwp : (encrypt plaintext receiverId room).wp
      ⟨fun _ _ => True, fun _ self' => self'.inner = self.inner, True⟩ self by
    rw [Method.wp_def, h] at hwp
    exact hwp
  refine wp_encrypt (fun _ _ _ => trivial) (fun e self' hrefuses => ?_) (fun _ _ => trivial)
  cases hrefuses with
  | noRoom => rfl
  | unsealed _ hwrite => exact laws.write_error hwrite

omit [Profile] in
/-- Either the datagram has the header of a packet and its ciphertext is opened, or `decrypt` fails
and nothing changes. -/
theorem decrypt_cases (laws : TransportLaws) (datagram : Bytes) (room : ℕ) (self : Transport) :
    (∃ plaintext inner, decrypt datagram room self = .ok plaintext { self with inner } ∧
      transportHeaderSize + 16 ≤ datagram.length ∧ datagram[0]? = some messageTypeTransport ∧
      transportRead self.inner (datagram.drop transportHeaderSize) room = (.ok plaintext, inner)) ∨
      ∃ e, decrypt datagram room self = .err e self := by
  by_cases hlen : datagram.length < transportHeaderSize + 16
  · right
    refine ⟨.invalidLength (transportHeaderSize + 16) datagram.length, ?_⟩
    unfold decrypt
    rw [Method.bind_ok (Method.get_apply self), if_pos hlen]
    rfl
  · have hpos : 0 < datagram.length := by
      simp only [transportHeaderSize] at hlen
      omega
    by_cases htype : datagram[0]? = some messageTypeTransport
    · have hbody : sub datagram transportHeaderSize datagram.length =
          datagram.drop transportHeaderSize := by
        rw [sub, List.take_of_length_le]
        rw [List.length_drop]
      rw [decrypt_eq (not_lt.1 hlen) htype, hbody]
      rcases hread : transportRead self.inner (datagram.drop transportHeaderSize) room
        with ⟨result, inner⟩
      cases result with
      | ok plaintext => exact Or.inl ⟨plaintext, inner, rfl, not_lt.1 hlen, htype, rfl⟩
      | error e =>
          right
          rw [laws.read_error hread]
          exact ⟨_, rfl⟩
    · right
      have hbyte : datagram[0]? = some datagram[0] := List.getElem?_eq_getElem hpos
      have hother : datagram[0] ≠ messageTypeTransport := fun h => htype (hbyte.trans (by rw [h]))
      refine ⟨.invalidMessageType datagram[0], ?_⟩
      unfold decrypt
      rw [Method.bind_ok (Method.get_apply self), if_neg hlen, index_eq hbyte, pure_bind,
        if_pos hother]
      rfl

omit [Profile] in
/-- Decrypting moves neither the key nor the nonce of the direction that the transport sends in. -/
theorem receive_sending (laws : TransportLaws) {datagram : Bytes} {room : ℕ}
    {self self' : Transport} (h : receive room self datagram = some self') :
    sendingKey self'.inner = sendingKey self.inner ∧
      sendingNonce self'.inner = sendingNonce self.inner := by
  unfold receive at h
  rcases decrypt_cases laws datagram room self with ⟨p, inner, hdec, _, _, hread⟩ | ⟨e, hdec⟩
  · rw [hdec, Outcome.state?_ok] at h
    cases h
    obtain ⟨hnonce, _, hkey, _⟩ := laws.read_ok hread
    exact ⟨hkey, hnonce⟩
  · rw [hdec, Outcome.state?_err] at h
    cases h
    exact ⟨rfl, rfl⟩

/-! ## A stream -/

/-- The packets of a stream are sealed at one nonce after another. -/
theorem Sends.sealedAt (laws : TransportLaws) {a a' : Transport} {sent : List (Bytes × Bytes)}
    (h : Sends a sent a') {i : ℕ} {entry : Bytes × Bytes} (hi : sent[i]? = some entry) :
    SealedAt (sendingKey a.inner) (sendingNonce a.inner + i) entry := by
  induction h generalizing i with
  | done => cases hi
  | sealed hencrypt _ ih =>
      obtain ⟨ciphertext, hwrite, hpacket⟩ := encrypt_ok hencrypt
      obtain ⟨_, _, hnonce, _, hkey, _⟩ := laws.write_ok hwrite
      cases i with
      | zero =>
          cases hi
          exact ⟨_, _, _, _, _, ciphertext, hwrite, rfl, rfl, hpacket⟩
      | succ i =>
          have hrest := ih hi
          rw [hkey, hnonce] at hrest
          rwa [show i + 1 = 1 + i from Nat.add_comm i 1, ← Nat.add_assoc]
  | refused hencrypt _ ih =>
      rw [← encrypt_err laws hencrypt]
      exact ih hi
  | received hreceive _ ih =>
      obtain ⟨hkey, hnonce⟩ := receive_sending laws hreceive
      rw [← hkey, ← hnonce]
      exact ih hi

omit [Profile] in
/-- The body of a packet is its ciphertext, and it has the header of a packet. -/
theorem SealedAt.packet (laws : TransportLaws) {key : CipherKey} {nonce : ℕ}
    {entry : Bytes × Bytes} (h : SealedAt key nonce entry) :
    ∃ (t t' : TransportState) (room : ℕ),
      transportWrite t entry.1 room = (.ok (entry.2.drop transportHeaderSize), t') ∧
        sendingKey t = key ∧ sendingNonce t = nonce ∧
        transportHeaderSize + 16 ≤ entry.2.length ∧ entry.2.take 1 = [messageTypeTransport] := by
  obtain ⟨t, t', room, receiverId, counter, ciphertext, hwrite, hkey, hnonce, hpacket⟩ := h
  have hhead : (messageTypeTransport :: ([0, 0, 0] ++ (toLe 4 receiverId.toNat).val ++
      (toLe 8 counter.toNat).val)).length = transportHeaderSize := by
    simp [Arr.length_eq, transportHeaderSize]
  have hlen := (laws.write_ok hwrite).1
  have hbody : entry.2.drop transportHeaderSize = ciphertext := by
    rw [hpacket, framePacket, List.drop_left' hhead]
  refine ⟨t, t', room, hbody.symm ▸ hwrite, hkey, hnonce, ?_, ?_⟩
  · rw [hpacket, framePacket, List.length_append, hhead]
    omega
  · rw [hpacket]
    rfl

omit [Profile] in
/-- The receiver opens the packet that it expects next. -/
theorem opened_next (laws : TransportLaws) {b : Transport} {nonce room : ℕ}
    {entry : Bytes × Bytes} {datagram : Bytes}
    (hsealed : SealedAt (receivingKey b.inner) nonce entry)
    (hnonce : receivingNonce b.inner = nonce) (hfits : entry.1.length ≤ room)
    (hcarries : Carries entry.2 datagram) :
    ∃ b', decrypt datagram room b = .ok entry.1 b' ∧
      receivingKey b'.inner = receivingKey b.inner ∧ receivingNonce b'.inner = nonce + 1 := by
  obtain ⟨t, t', room', hwrite, hkey, hat, hlen, htype⟩ := hsealed.packet laws
  obtain ⟨hlength, hfirst, hbody⟩ := hcarries
  obtain ⟨inner, hread⟩ := laws.opens hwrite hkey (hat.trans hnonce.symm) hfits
  obtain ⟨_, hnext, _, hkept⟩ := laws.read_ok hread
  have hbyte : datagram[0]? = some messageTypeTransport := by
    rw [← List.getElem?_take_of_lt (j := 1) Nat.zero_lt_one, hfirst, htype]
    rfl
  have hdrop : sub datagram transportHeaderSize datagram.length =
      entry.2.drop transportHeaderSize := by
    rw [sub, List.take_of_length_le (List.length_drop ..).le, hbody]
  refine ⟨{ b with inner }, ?_, hkept, by rw [hnext, hnonce]⟩
  rw [decrypt_eq (hlen.trans hlength.ge) hbyte, hdrop, hread]

omit [Profile] in
/-- The receiver refuses a datagram that is not the packet it expects next. -/
theorem refused_other (laws : TransportLaws) {b : Transport} {base k room : ℕ}
    {sent : List (Bytes × Bytes)} {datagram : Bytes}
    (hsealed : ∀ i entry, sent[i]? = some entry →
      SealedAt (receivingKey b.inner) (base + i) entry)
    (hnonce : receivingNonce b.inner = base + k)
    (hgenuine : Unforged (receivingKey b.inner) sent datagram)
    (hother : ∀ entry, sent[k]? = some entry → ¬ Carries entry.2 datagram) :
    ∃ e, decrypt datagram room b = .err e b := by
  rcases decrypt_cases laws datagram room b with ⟨p, inner, _, hlen, htype, hread⟩ | herr
  · -- What opens is the packet of some entry, and its nonce says which.
    exfalso
    obtain ⟨entry, hentry, hbody⟩ := hgenuine _ _ _ _ rfl hread
    obtain ⟨i, hi⟩ := List.mem_iff_getElem?.1 hentry
    obtain ⟨t, t', room', hwrite, hkey, hat, hsize, hfirst⟩ := (hsealed i entry hi).packet laws
    have hsame : sendingNonce t = receivingNonce b.inner :=
      laws.opens_only hwrite hkey (hbody ▸ hread)
    have hik : i = k := by omega
    subst hik
    refine hother entry hi ⟨?_, ?_, hbody⟩
    · have hbodies := congrArg List.length hbody
      simp only [List.length_drop] at hbodies
      omega
    · rw [hfirst, List.take_one, List.head?_eq_getElem?, htype]
      rfl
  · exact herr

/-- Every datagram is decrypted, or refused with nothing changed. -/
def DecryptsOrRefuses (room : ℕ) (self : Transport) (datagram : Bytes) : Prop :=
  (∃ plaintext self', decrypt datagram room self = .ok plaintext self') ∨
    ∃ e, decrypt datagram room self = .err e self

omit [Profile] in
/-- From the packet `k` of the stream on, the receiver takes the packets greedily. -/
theorem receiveAll_greedy (laws : TransportLaws) {b : Transport} {base k room : ℕ}
    {sent : List (Bytes × Bytes)} {delivered : List Bytes}
    (hsealed : ∀ i entry, sent[i]? = some entry →
      SealedAt (receivingKey b.inner) (base + i) entry)
    (hnonce : receivingNonce b.inner = base + k)
    (hfits : ∀ entry ∈ sent, entry.1.length ≤ room)
    (hgenuine : ∀ datagram ∈ delivered, Unforged (receivingKey b.inner) sent datagram) :
    (receiveAll room b delivered).reduceOption =
        ((sent.drop k).take (Greedy.taken CarriesEntry (sent.drop k) delivered)).map Prod.fst ∧
      Transition.AllSteps (receive room) (DecryptsOrRefuses room) b delivered := by
  induction delivered generalizing b k with
  | nil =>
      rw [Greedy.taken_nil_right]
      exact ⟨rfl, trivial⟩
  | cons datagram delivered ih =>
      have hlater := fun d hd => hgenuine d (List.mem_cons_of_mem datagram hd)
      -- The receiver waits for one packet of the sequence at a time, as the greedy match does.
      by_cases hnext : ∃ entry, sent[k]? = some entry ∧ Carries entry.2 datagram
      · obtain ⟨entry, hentry, hcarries⟩ := hnext
        have hsuits : CarriesEntry entry datagram := hcarries
        have hmem : entry ∈ sent := List.mem_of_getElem? hentry
        obtain ⟨b', hdec, hkey, hat⟩ :=
          opened_next laws (hsealed k entry hentry) hnonce (hfits entry hmem) hcarries
        obtain ⟨hlist, hall⟩ := ih (b := b') (k := k + 1) (hkey ▸ hsealed) hat (hkey ▸ hlater)
        have hdrop : sent.drop k = entry :: sent.drop (k + 1) := by
          obtain ⟨hk, rfl⟩ := List.getElem?_eq_some_iff.1 hentry
          exact List.drop_eq_getElem_cons hk
        rw [hdrop, Greedy.taken_pos hsuits, List.take_succ_cons, List.map_cons, ← hlist]
        refine ⟨?_, Or.inl ⟨_, _, hdec⟩, fun t ht => ?_⟩
        · rw [receiveAll, hdec]
          rfl
        · rw [receive, hdec, Outcome.state?_ok] at ht
          cases ht
          exact hall
      · have hother : ∀ entry, sent[k]? = some entry → ¬ Carries entry.2 datagram :=
          fun entry hentry hcarries => hnext ⟨entry, hentry, hcarries⟩
        obtain ⟨e, hdec⟩ : ∃ e, decrypt datagram room b = .err e b :=
          refused_other laws hsealed hnonce (hgenuine datagram List.mem_cons_self) hother
        obtain ⟨hlist, hall⟩ := ih hsealed hnonce hlater
        have htaken : Greedy.taken CarriesEntry (sent.drop k) (datagram :: delivered) =
            Greedy.taken CarriesEntry (sent.drop k) delivered := by
          cases hdrop : sent.drop k with
          | nil => rw [Greedy.taken_nil_left, Greedy.taken_nil_left]
          | cons entry rest =>
              have hentry : sent[k]? = some entry := by
                rw [← Nat.add_zero k, ← List.getElem?_drop, hdrop]
                rfl
              have hsuits : ¬ CarriesEntry entry datagram := hother entry hentry
              exact Greedy.taken_neg hsuits rest delivered
        rw [htaken, ← hlist]
        refine ⟨?_, Or.inr ⟨e, hdec⟩, fun t ht => ?_⟩
        · rw [receiveAll, hdec]
          rfl
        · rw [receive, hdec, Outcome.state?_err] at ht
          cases ht
          exact hall

/-- Between matching directions the receiver decrypts the longest initial part of the stream whose
packets occur in this order in what is delivered: exactly its plaintexts, in order and once each.
Every other datagram is refused and changes nothing. -/
theorem accepted_exactly (laws : TransportLaws) {a a' b : Transport}
    {sent : List (Bytes × Bytes)} {delivered : List Bytes} {room : ℕ}
    (hmatches : Matches a.inner b.inner) (hsends : Sends a sent a')
    (hfits : ∀ entry ∈ sent, entry.1.length ≤ room)
    (hgenuine : ∀ datagram ∈ delivered, Unforged (receivingKey b.inner) sent datagram) :
    ∃ k, IsGreatest {n | Greedy.Occurs CarriesEntry sent delivered n} k ∧
      (receiveAll room b delivered).reduceOption = (sent.take k).map Prod.fst ∧
      Transition.AllSteps (receive room) (DecryptsOrRefuses room) b delivered := by
  have hsealed : ∀ i entry, sent[i]? = some entry →
      SealedAt (receivingKey b.inner) (sendingNonce a.inner + i) entry := by
    intro i entry hi
    rw [← hmatches.1]
    exact hsends.sealedAt laws hi
  exact ⟨_, Greedy.isGreatest_taken sent delivered,
    receiveAll_greedy laws (k := 0) hsealed hmatches.2.symm hfits hgenuine⟩

/-- A stream that `sendAll` makes is a stream. -/
theorem sends_of_sendAll {receiverId : UInt32} {room : ℕ} {plaintexts : List Bytes}
    {self last : Transport} {sent : List (Bytes × Bytes)}
    (h : sendAll receiverId room plaintexts self = .ok sent last) : Sends self sent last := by
  induction plaintexts generalizing self sent with
  | nil =>
      cases h
      exact .done
  | cons plaintext rest ih =>
      obtain ⟨packet, next, tail, hfirst, hrest, rfl⟩ := sendAll_cons_ok h
      exact .sealed hfirst (ih hrest)

end General

section Symbolic

attribute [local instance] Symbolic.primitives Symbolic.release

/-- Junk, the packets in the wrong order, the first one with another header, and both again. -/
def shuffled (sent : List (Bytes × Bytes)) : List Bytes :=
  [[1, 2, 3], List.replicate 40 0] ++ (sent.map Prod.snd).reverse ++
    sent.map (fun entry => entry.2.take 1 ++ List.replicate 15 9 ++
      entry.2.drop transportHeaderSize)

/-- What the check of a shuffled delivery looks at. -/
def notForged (key : CipherKey) (sent : List (Bytes × Bytes)) (datagram : Bytes) : Bool :=
  sent.any (fun entry => datagram.drop transportHeaderSize == entry.2.drop transportHeaderSize) ||
    decide (Symbolic.tagKey (datagram.drop transportHeaderSize) ≠ Symbolic.keyDigest key)

theorem unforged_of_check {key : CipherKey} {sent : List (Bytes × Bytes)} {datagram : Bytes}
    (h : notForged key sent datagram = true) : Unforged key sent datagram := by
  intro t t' room plaintext hkey hread
  rcases Bool.or_eq_true_iff.1 h with hsent | htag
  · obtain ⟨entry, hentry, hbody⟩ := List.any_eq_true.1 hsent
    exact ⟨entry, hentry, eq_of_beq hbody⟩
  · exact absurd (hkey ▸ Symbolic.tagKey_of_read hread) (of_decide_eq_true htag)

/-- Of a shuffled delivery the receiver decrypts what the general theorem says. -/
theorem shuffled_accepted :
    ∃ ti tr sent last k, symbolicRun = .ok (ti, tr) () ∧
      sendAll 2 1600 [[1], [2]] ti = .ok sent last ∧
      IsGreatest {n | Greedy.Occurs CarriesEntry sent (shuffled sent) n} k ∧
      (receiveAll 1500 tr (shuffled sent)).reduceOption = (sent.take k).map Prod.fst ∧
      Transition.AllSteps (receive 1500) (DecryptsOrRefuses 1500) tr (shuffled sent) := by
  have hrun : symbolicRun.okAnd (fun t _ =>
      (sendAll 2 1600 [[1], [2]] t.1).okAnd fun sent _ =>
        (shuffled sent).all (notForged (receivingKey t.2.inner) sent) &&
          sent.all fun entry => decide (entry.1.length ≤ 1500)) = true := by
    decide +kernel
  obtain ⟨⟨ti, tr⟩, _, hexchange, hrun⟩ := Outcome.okAnd_iff.1 hrun
  obtain ⟨sent, last, hsend, hcheck⟩ := Outcome.okAnd_iff.1 hrun
  obtain ⟨hunforged, hfits⟩ := Bool.and_eq_true_iff.1 hcheck
  have hkeys := (exchange_agreed hexchange).keys Symbolic.handshake_laws
  have hroom : ∀ entry ∈ sent, entry.1.length ≤ 1500 :=
    fun entry hentry => of_decide_eq_true (List.all_eq_true.1 hfits entry hentry)
  have hgenuine : ∀ datagram ∈ shuffled sent, Unforged (receivingKey tr.inner) sent datagram :=
    fun datagram hd => unforged_of_check (List.all_eq_true.1 hunforged datagram hd)
  obtain ⟨k, hgreatest, hreceived, hall⟩ := accepted_exactly Symbolic.transport_laws
    ⟨hkeys.forward, hkeys.sending.1.trans hkeys.receiving.2.symm⟩ (sends_of_sendAll hsend)
    hroom hgenuine
  exact ⟨ti, tr, sent, last, k, hexchange, hsend, hgreatest, hreceived, hall⟩

end Symbolic

end Transport

end Naboscale
