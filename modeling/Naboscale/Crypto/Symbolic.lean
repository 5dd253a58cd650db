import Naboscale.Crypto.Primitives

/-!
# A symbolic implementation of the primitives

An implementation of `Primitives` that computes, has the message sizes of the real one, and
satisfies every law. Ciphertexts carry their plaintext, and tags name the keys and the
transcript they are made under. It gives the laws a model, and concrete runs of the tunnel are
evaluated on it.
-/

namespace Naboscale.Symbolic

open Rust

/-- A tag of `n` bytes that depends on every byte of `l`. -/
def digest (n : ℕ) (l : Bytes) : Bytes :=
  leBytes n (l.foldl (fun acc byte => (acc * 257 + byte.toNat + 1) % 2 ^ 64) 0)

theorem digest_length (n : ℕ) (l : Bytes) : (digest n l).length = n := leBytes_length _ _

/-- The public key of a secret. -/
def publicKey (secret : Key) : Key := ⟨secret.val.map (· + 128), by simp [secret.property]⟩

/-- Why a message is refused. -/
inductive Refusal where
  | state
  | size
  | decrypt
  deriving DecidableEq

/-- The progress of an IKpsk2 handshake. -/
inductive Handshake where
  | initiatorStart (secret remotePub psk : Key)
  | initiatorSent (message : Bytes) (remotePub : Key)
  | responderStart (secret psk : Key)
  | responderRead (message : Bytes) (remotePub : Bytes)
  | finished (isInitiator : Bool) (message reply : Bytes) (remotePub : Bytes)

/-- A transport: the transcript it comes from, and a nonce for each direction. -/
structure Channel where
  isInitiator : Bool
  message : Bytes
  reply : Bytes
  remotePub : Bytes
  sendNonce : ℕ
  recvNonce : ℕ
  deriving DecidableEq

/-- The first message: ephemeral key, sealed static key, sealed payload. -/
def firstMessage (secret remotePub psk : Key) (rng : UInt8) (payload : Bytes) : Bytes :=
  List.replicate 32 rng ++ (publicKey secret).val ++ remotePub.val.take 16 ++ payload ++
    psk.val.take 16

/-- The second message: ephemeral key, payload, tag over the transcript. -/
def secondMessage (message : Bytes) (rng : UInt8) (payload : Bytes) : Bytes :=
  List.replicate 32 rng ++ payload ++ digest 16 message

/-- `write_message` of a handshake. -/
def write (h : Handshake) (rng : UInt8) (payload : Bytes) (room : ℕ) :
    Except Refusal Bytes × Handshake :=
  match h with
  | .initiatorStart secret remotePub psk =>
      if 96 + payload.length ≤ room then
        (.ok (firstMessage secret remotePub psk rng payload),
          .initiatorSent (firstMessage secret remotePub psk rng payload) remotePub)
      else (.error .size, h)
  | .responderRead message remotePub =>
      if 48 + payload.length ≤ room then
        (.ok (secondMessage message rng payload),
          .finished false message (secondMessage message rng payload) remotePub)
      else (.error .size, h)
  | _ => (.error .state, h)

/-- The payload of a first message, if it is sealed for this responder. -/
def openFirst (secret psk : Key) (message : Bytes) : Option Bytes :=
  if message.length < 96 then none
  else if sub message 64 80 = (publicKey secret).val.take 16 ∧
      message.drop (message.length - 16) = psk.val.take 16 then
    some (sub message 80 (message.length - 16))
  else none

/-- The payload of a second message, if it answers this first message. -/
def openSecond (message reply : Bytes) : Option Bytes :=
  if reply.length < 48 then none
  else if reply.drop (reply.length - 16) = digest 16 message then
    some (sub reply 32 (reply.length - 16))
  else none

/-- `read_message` of a handshake. -/
def read (h : Handshake) (message : Bytes) (room : ℕ) : Except Refusal Bytes × Handshake :=
  match h with
  | .responderStart secret psk =>
      match openFirst secret psk message with
      | some payload =>
          if payload.length ≤ room then
            (.ok payload, .responderRead message (sub message 32 64))
          else (.error .size, h)
      | none => (.error .decrypt, h)
  | .initiatorSent first remotePub =>
      match openSecond first message with
      | some payload =>
          if payload.length ≤ room then
            (.ok payload, .finished true first message remotePub.val)
          else (.error .size, h)
      | none => (.error .decrypt, h)
  | _ => (.error .state, h)

/-- The remote static key, once it is known. -/
def remoteStatic : Handshake → Option Bytes
  | .initiatorStart _ remotePub _ => some remotePub.val
  | .initiatorSent _ remotePub => some remotePub.val
  | .responderStart _ _ => none
  | .responderRead _ remotePub => some remotePub
  | .finished _ _ _ remotePub => some remotePub

/-- The transport of a finished handshake. -/
def intoTransport : Handshake → Except Refusal Channel
  | .finished isInitiator message reply remotePub =>
      .ok ⟨isInitiator, message, reply, remotePub, 0, 0⟩
  | _ => .error .state

/-- The number of messages one direction can carry. -/
def maxNonce : ℕ := 2 ^ 64 - 1

/-- The key of the direction from the initiator, or from the responder. -/
def directionKey (c : Channel) (fromInitiator : Bool) : Bytes × Bytes × Bool :=
  (c.message, c.reply, fromInitiator)

/-- The tag of a transport message: its nonce and its key. -/
def transportTag (key : Bytes × Bytes × Bool) (nonce : ℕ) : Bytes :=
  leBytes 8 nonce ++ digest 8 (cond key.2.2 1 0 :: key.1 ++ key.2.1)

theorem transportTag_length (key : Bytes × Bytes × Bool) (nonce : ℕ) :
    (transportTag key nonce).length = 16 := by
  simp [transportTag, digest_length]

/-- The half of the tag that depends on the key. -/
def keyDigest (key : Bytes × Bytes × Bool) : Bytes := digest 8 (cond key.2.2 1 0 :: key.1 ++ key.2.1)

/-- The half of a transport message's tag that should be the digest of its key. -/
def tagKey (message : Bytes) : Bytes := message.drop (message.length - 8)

/-- `write_message` of a transport. -/
def channelWrite (c : Channel) (payload : Bytes) (room : ℕ) : Except Refusal Bytes × Channel :=
  if payload.length + 16 ≤ room ∧ payload.length + 16 ≤ 65535 ∧ c.sendNonce < maxNonce then
    (.ok (payload ++ transportTag (directionKey c c.isInitiator) c.sendNonce),
      { c with sendNonce := c.sendNonce + 1 })
  else (.error .size, c)

/-- `read_message` of a transport. -/
def channelRead (c : Channel) (message : Bytes) (room : ℕ) : Except Refusal Bytes × Channel :=
  if 16 ≤ message.length ∧ message.length - 16 ≤ room ∧ c.recvNonce < maxNonce ∧
      message.drop (message.length - 16) = transportTag (directionKey c !c.isInitiator) c.recvNonce then
    (.ok (message.take (message.length - 16)), { c with recvNonce := c.recvNonce + 1 })
  else (.error .decrypt, c)

/-- The implementation. -/
@[reducible] def primitives : Primitives where
  publicKey := publicKey
  blake2s256 l := ⟨(l.reverse ++ List.replicate 32 0).take 32, by simp⟩
  blake2sMac key message := ⟨(digest 8 key) ++ digest 8 message, by simp [digest_length]⟩
  SnowError := Refusal
  HandshakeState := Handshake
  TransportState := Channel
  Ephemeral := UInt8
  CipherKey := Bytes × Bytes × Bool
  buildInitiator secret remotePub _ psk := .ok (.initiatorStart secret remotePub psk)
  buildResponder secret _ psk := .ok (.responderStart secret psk)
  writeMessage := write
  readMessage := read
  getRemoteStatic := remoteStatic
  intoTransportMode := intoTransport
  transportWrite := channelWrite
  transportRead := channelRead
  transportRemoteStatic c := some c.remotePub
  sendingNonce := Channel.sendNonce
  receivingNonce := Channel.recvNonce
  sendingKey c := directionKey c c.isInitiator
  receivingKey c := directionKey c !c.isInitiator

attribute [local instance] primitives

/-! ## The laws -/

theorem channel_write_ok {c c' : Channel} {payload ct : Bytes} {room : ℕ}
    (h : channelWrite c payload room = (.ok ct, c')) :
    payload.length + 16 ≤ room ∧ payload.length + 16 ≤ 65535 ∧ c.sendNonce < maxNonce ∧
      ct = payload ++ transportTag (directionKey c c.isInitiator) c.sendNonce ∧
      c' = { c with sendNonce := c.sendNonce + 1 } := by
  unfold channelWrite at h
  split at h
  case isTrue hroom =>
    cases h
    exact ⟨hroom.1, hroom.2.1, hroom.2.2, rfl, rfl⟩
  case isFalse => cases h

theorem channel_read_ok {c c' : Channel} {message p : Bytes} {room : ℕ}
    (h : channelRead c message room = (.ok p, c')) :
    c.recvNonce < maxNonce ∧
      message.drop (message.length - 16) =
        transportTag (directionKey c !c.isInitiator) c.recvNonce ∧
      p = message.take (message.length - 16) ∧
      c' = { c with recvNonce := c.recvNonce + 1 } := by
  unfold channelRead at h
  split at h
  case isTrue hopen =>
    cases h
    exact ⟨hopen.2.2.1, hopen.2.2.2, rfl, rfl⟩
  case isFalse => cases h

/-- A message that is opened carries the digest of the key. -/
theorem tagKey_of_read {c c' : Channel} {message p : Bytes} {room : ℕ}
    (h : channelRead c message room = (.ok p, c')) :
    tagKey message = keyDigest (directionKey c !c.isInitiator) := by
  obtain ⟨_, htag, _, _⟩ := channel_read_ok h
  have hlen := congrArg List.length htag
  rw [List.length_drop, transportTag_length] at hlen
  have hsplit : message.length - 8 = message.length - 16 + 8 := by omega
  rw [tagKey, hsplit, ← List.drop_drop, htag, transportTag, List.drop_left' (leBytes_length _ _)]
  rfl

/-- Reading at a responder takes it to `responderRead`. -/
theorem read_ok_write_ok {h h₁ h₂ : Handshake} {message payload q reply : Bytes} {rng : UInt8}
    {room₁ room₂ : ℕ} (hr : read h message room₁ = (.ok payload, h₁))
    (hw : write h₁ rng q room₂ = (.ok reply, h₂)) :
    ∃ remotePub, h₁ = .responderRead message remotePub ∧
      reply = secondMessage message rng q ∧ h₂ = .finished false message reply remotePub := by
  unfold read at hr
  cases h <;> simp only at hr
  case responderStart =>
    split at hr
    · split at hr
      · cases hr
        unfold write at hw
        simp only at hw
        split at hw
        · cases hw
          exact ⟨_, rfl, rfl, rfl⟩
        · cases hw
      · cases hr
    · cases hr
  case initiatorSent =>
    split at hr
    · split at hr
      · cases hr
        cases hw
      · cases hr
    · cases hr
  all_goals cases hr

/-- An initiator that has written its first message remembers it. -/
theorem write_initiatorStart_ok {secret remotePub psk : Key} {rng : UInt8}
    {payload message : Bytes} {room : ℕ} {h : Handshake}
    (hw : write (.initiatorStart secret remotePub psk) rng payload room = (.ok message, h)) :
    h = .initiatorSent message remotePub := by
  unfold write at hw
  simp only at hw
  split at hw <;> cases hw
  rfl

/-- A responder that has read a first message holds the static key sealed in it. -/
theorem read_responderStart_ok {secret psk : Key} {message payload : Bytes} {room : ℕ}
    {h : Handshake} (hr : read (.responderStart secret psk) message room = (.ok payload, h)) :
    h = .responderRead message (sub message 32 64) := by
  unfold read at hr
  simp only at hr
  split at hr
  · split at hr <;> cases hr
    rfl
  · cases hr

theorem responder_finishes : ResponderFinishes := by
  intro h h₁ h₂ rng message payload₁ payload₂ reply room₁ room₂ hr hw
  obtain ⟨remotePub, _, _, rfl⟩ := read_ok_write_ok hr hw
  exact ⟨_, rfl⟩

theorem responder_builds : ResponderBuilds := fun _ _ _ => ⟨_, rfl⟩

theorem replies_once : RepliesOnce := by
  intro h h₁ h₂ rng message payload₁ payload₂ reply room₁ room₂ hr hw other room
  obtain ⟨remotePub, _, _, rfl⟩ := read_ok_write_ok hr hw
  exact ⟨_, _, rfl⟩

theorem open_first_firstMessage (secret remotePub psk : Key) (rng : UInt8) (payload : Bytes) :
    sub (firstMessage secret remotePub psk rng payload) 32 64 = (publicKey secret).val := by
  have hpub : (publicKey secret).val.length = 32 := (publicKey secret).property
  have hrng : (List.replicate 32 rng).length = 32 := List.length_replicate
  rw [firstMessage, List.append_assoc, List.append_assoc]
  exact sub_append hrng hpub

theorem open_second_secondMessage (message payload : Bytes) (rng : UInt8) :
    openSecond message (secondMessage message rng payload) = some payload := by
  have htag : (digest 16 message).length = 16 := digest_length 16 message
  have hrng : (List.replicate 32 rng).length = 32 := List.length_replicate
  have hlen : (secondMessage message rng payload).length = 48 + payload.length := by
    simp only [secondMessage, List.length_append, hrng, htag]
    omega
  have hhead : (List.replicate 32 rng ++ payload).length = 48 + payload.length - 16 := by
    rw [List.length_append, hrng]
    omega
  rw [openSecond, hlen, if_neg (by omega)]
  have hdrop : (secondMessage message rng payload).drop (48 + payload.length - 16) =
      digest 16 message := by
    rw [secondMessage, List.drop_left' hhead]
  rw [if_pos hdrop, secondMessage, sub_append hrng (by omega)]

theorem handshake_laws : HandshakeLaws where
  reads_static {initiator responder psk} {prologue message payload p hi hi' hr hr' rng room₁ room₂}
      hbi hbr hw hread := by
    cases hbi
    cases hbr
    have hw : write _ _ _ _ = _ := hw
    rw [read_responderStart_ok hread]
    unfold write at hw
    simp only at hw
    split at hw <;> cases hw
    exact congrArg some (open_first_firstMessage ..)
  accepts_reply {initiator responder psk} {prologue message reply payload p q} {hi hi₁ hr hr₁ hr₂}
      {rng rng'} {room₁ room₂ room₃ room₄} hbi hbr hw hread hreply hroom := by
    obtain ⟨remotePub, _, rfl, rfl⟩ := read_ok_write_ok hread hreply
    cases hbi
    obtain rfl := write_initiatorStart_ok hw
    have hread' : read (.initiatorSent message (publicKey responder))
        (secondMessage message rng' q) room₄ =
        (.ok q, .finished true message (secondMessage message rng' q)
          (publicKey responder).val) := by
      unfold read
      simp only [open_second_secondMessage, if_pos hroom]
    exact ⟨.finished true message (secondMessage message rng' q) (publicKey responder).val,
      ⟨true, message, secondMessage message rng' q, (publicKey responder).val, 0, 0⟩,
      ⟨false, message, secondMessage message rng' q, remotePub, 0, 0⟩, hread',
      rfl, rfl, rfl, rfl, rfl, rfl, rfl, rfl⟩

theorem firstMessage_length (secret remotePub psk : Key) (rng : UInt8) (payload : Bytes) :
    (firstMessage secret remotePub psk rng payload).length = 96 + payload.length := by
  have hpub : (publicKey secret).val.length = 32 := (publicKey secret).property
  have hremote : remotePub.val.length = 32 := remotePub.property
  have hpsk : psk.val.length = 32 := psk.property
  simp only [firstMessage, List.length_append, List.length_replicate, List.length_take, hpub,
    hremote, hpsk]
  omega

theorem open_first_eq (secret responder psk : Key) (rng : UInt8) {payload : Bytes} :
    openFirst responder psk (firstMessage secret (publicKey responder) psk rng payload) =
      some payload := by
  have hpub : (publicKey secret).val.length = 32 := (publicKey secret).property
  have hremote : ((publicKey responder).val.take 16).length = 16 := by
    rw [List.length_take, (publicKey responder).property]
    rfl
  have hrng : (List.replicate 32 rng).length = 32 := List.length_replicate
  have hfirst : (List.replicate 32 rng ++ (publicKey secret).val).length = 64 := by
    rw [List.length_append, hrng, hpub]
  have hhead : (List.replicate 32 rng ++ (publicKey secret).val ++
      (publicKey responder).val.take 16).length = 80 := by
    rw [List.length_append, hfirst, hremote]
  have hbody : (List.replicate 32 rng ++ (publicKey secret).val ++
      (publicKey responder).val.take 16 ++ payload).length = 96 + payload.length - 16 := by
    rw [List.length_append, hhead]
    omega
  have hkey : sub (firstMessage secret (publicKey responder) psk rng payload) 64 80 =
      (publicKey responder).val.take 16 := by
    rw [firstMessage, List.append_assoc _ payload]
    exact sub_append hfirst hremote
  have htail : (firstMessage secret (publicKey responder) psk rng payload).drop
      (96 + payload.length - 16) = psk.val.take 16 := by
    rw [firstMessage, List.drop_left' hbody]
  rw [openFirst, firstMessage_length, if_neg (by omega), if_pos ⟨hkey, htail⟩, firstMessage]
  exact congrArg some (sub_append hhead (by omega))

theorem write_first_ok (secret remotePub psk : Key) (rng : UInt8) {payload : Bytes}
    (hlen : payload.length = 12) :
    write (.initiatorStart secret remotePub psk) rng payload 108 =
      (.ok (firstMessage secret remotePub psk rng payload),
        .initiatorSent (firstMessage secret remotePub psk rng payload) remotePub) := by
  unfold write
  simp only
  rw [if_pos (by omega)]

theorem read_first_ok (initiator responder psk : Key) (rng : UInt8) {payload : Bytes}
    (hlen : payload.length = 12) :
    read (.responderStart responder psk)
        (firstMessage initiator (publicKey responder) psk rng payload) 256 =
      (.ok payload, .responderRead (firstMessage initiator (publicKey responder) psk rng payload)
        (sub (firstMessage initiator (publicKey responder) psk rng payload) 32 64)) := by
  unfold read
  simp only [open_first_eq]
  rw [if_pos (by omega)]

/-- A handshake that refuses every write and stays as it is. -/
def Refuses (h : Handshake) : Prop :=
  ∀ (rng : UInt8) (payload : Bytes) (room : ℕ), write h rng payload room = (.error .state, h)

/-- A handshake that wrote a message refuses to write another one. -/
theorem refuses_of_written {h : Handshake} (hwritten : Written h) : Refuses h := by
  induction hwritten with
  | @once h h' rng payload message room hwrite =>
      have hwrite : write h rng payload room = (.ok message, h') := hwrite
      intro rng payload room
      unfold write at hwrite
      cases h <;> simp only at hwrite
      case initiatorStart =>
        split at hwrite <;> cases hwrite
        rfl
      case responderRead =>
        split at hwrite <;> cases hwrite
        rfl
      all_goals cases hwrite
  | @again h h' rng payload room result _ hwrite ih =>
      have hwrite : write h rng payload room = (result, h') := hwrite
      rw [ih rng payload room] at hwrite
      cases hwrite
      exact ih

/-- A failed read leaves the handshake as it is. -/
theorem read_error_eq {h h' : Handshake} {message : Bytes} {room : ℕ} {e : Refusal}
    (hr : read h message room = (.error e, h')) : h' = h := by
  unfold read at hr
  cases h <;> simp only at hr
  case responderStart =>
    split at hr
    · split at hr <;> cases hr
      rfl
    · cases hr
      rfl
  case initiatorSent =>
    split at hr
    · split at hr <;> cases hr
      rfl
    · cases hr
      rfl
  all_goals
    cases hr
    rfl

theorem read_restores : ReadRestores := by
  intro h h' message room e hr other payload room' next
  rw [read_error_eq hr]

/-- A handshake that is waiting to write, or has finished. -/
def Handshake.IsPastRead : Handshake → Prop
  | .responderRead _ _ => True
  | .finished _ _ _ _ => True
  | _ => False

/-- A handshake past its read refuses another one and stays as it is. -/
theorem Handshake.IsPastRead.read_eq {h : Handshake} (hpast : h.IsPastRead) (message : Bytes)
    (room : ℕ) : read h message room = (.error .state, h) := by
  cases h with
  | responderRead | finished => rfl
  | _ => exact hpast.elim

theorem isPastRead_of_hasRead {h : Handshake} (hread : HasRead h) : h.IsPastRead := by
  induction hread with
  | @once h h' message payload room hr =>
      have hr : read h message room = (.ok payload, h') := hr
      unfold read at hr
      cases h <;> simp only at hr
      case responderStart =>
        split at hr
        · split at hr <;> cases hr
          trivial
        · cases hr
      case initiatorSent =>
        split at hr
        · split at hr <;> cases hr
          trivial
        · cases hr
      all_goals cases hr
  | @again h h' message room result _ hr ih =>
      have hr : read h message room = (result, h') := hr
      rw [ih.read_eq] at hr
      cases hr
      exact ih
  | @wrote h h' rng payload room result _ hw ih =>
      have hw : write h rng payload room = (result, h') := hw
      cases h with
      | responderRead =>
          unfold write at hw
          simp only at hw
          split at hw <;> cases hw <;> trivial
      | finished =>
          cases hw
          trivial
      | _ => exact ih.elim

theorem reads_once : ReadsOnce := fun _ message room hread =>
  ⟨_, _, (isPastRead_of_hasRead hread).read_eq message room⟩

theorem writes_once : WritesOnce := fun _ rng payload room hwritten =>
  ⟨_, _, refuses_of_written hwritten rng payload room⟩

theorem fresh_nonces : FreshNonces := by
  intro h t hinto
  cases h with
  | finished =>
      cases hinto
      exact ⟨rfl, rfl⟩
  | _ => cases hinto

theorem transport_laws : TransportLaws where
  write_ok {t t'} {payload c} {room} h := by
    obtain ⟨hroom, _, _, rfl, rfl⟩ := channel_write_ok h
    simp only [List.length_append, transportTag_length]
    exact ⟨trivial, hroom, rfl, rfl, rfl, rfl⟩
  write_error {t t'} {payload room e} h := by
    have h : channelWrite t payload room = _ := h
    unfold channelWrite at h
    split at h <;> cases h
    rfl
  read_ok {t t'} {message p room} h := by
    obtain ⟨_, _, _, rfl⟩ := channel_read_ok h
    exact ⟨rfl, rfl, rfl, rfl⟩
  read_error {t t'} {message room e} h := by
    have h : channelRead t message room = _ := h
    unfold channelRead at h
    split at h <;> cases h
    rfl
  opens {a a' b} {payload c room room'} h hkey hnonce hroom := by
    obtain ⟨_, _, hmax, rfl, _⟩ := channel_write_ok h
    have hkey : directionKey a a.isInitiator = directionKey b !b.isInitiator := hkey
    have hnonce : a.sendNonce = b.recvNonce := hnonce
    have htag := transportTag_length (directionKey a a.isInitiator) a.sendNonce
    have hlen : (payload ++ transportTag (directionKey a a.isInitiator) a.sendNonce).length - 16 =
        payload.length := by
      rw [List.length_append, htag]
      omega
    refine ⟨{ b with recvNonce := b.recvNonce + 1 }, ?_⟩
    show channelRead _ _ _ = _
    unfold channelRead
    rw [hlen, List.drop_left, List.take_left, if_pos]
    refine ⟨?_, hroom, hnonce ▸ hmax, ?_⟩
    · rw [List.length_append, htag]
      omega
    · rw [hkey, hnonce]
  opens_only {a a' b b'} {payload c p room room'} h hkey hread := by
    obtain ⟨_, _, hmax, rfl, _⟩ := channel_write_ok h
    obtain ⟨hmax', htail, _, _⟩ := channel_read_ok hread
    have htag := transportTag_length (directionKey a a.isInitiator) a.sendNonce
    have hlen : (payload ++ transportTag (directionKey a a.isInitiator) a.sendNonce).length - 16 =
        payload.length := by
      rw [List.length_append, htag]
      omega
    rw [hlen, List.drop_left] at htail
    have hbytes : leBytes 8 a.sendNonce = leBytes 8 b.recvNonce :=
      (List.append_inj htail (by simp)).1
    have hnumber := congrArg ofLeBytes hbytes
    rw [ofLeBytes_leBytes, ofLeBytes_leBytes] at hnumber
    show a.sendNonce = b.recvNonce
    unfold maxNonce at hmax hmax'
    omega

theorem transport_seals : TransportSeals := by
  intro t payload room hroom hlimit hnonce
  have hnonce : Channel.sendNonce t < maxNonce := by
    have hlt : Channel.sendNonce t + 1 < 2 ^ 64 := hnonce
    unfold maxNonce
    omega
  exact ⟨_, _, if_pos ⟨hroom, hlimit, hnonce⟩⟩

theorem transport_limits : TransportLimits := by
  intro t t' payload c room h
  obtain ⟨_, hlimit, hmax, _, _⟩ := channel_write_ok h
  refine ⟨hlimit, ?_⟩
  show Channel.sendNonce t + 1 < 2 ^ 64
  unfold maxNonce at hmax
  omega

/-! ## Parties -/

/-- The build without overflow checks. -/
@[reducible] def release : Profile := ⟨false⟩

/-- A key whose bytes are all the same. -/
def key (byte : UInt8) : Key := ⟨List.replicate 32 byte, List.length_replicate⟩

end Naboscale.Symbolic
