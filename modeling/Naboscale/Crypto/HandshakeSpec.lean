import Naboscale.Crypto.Handshake

/-!
# What the handshake functions do

One specification for each function of `Initiator` and `Responder`: exactly when it succeeds,
with what result, and when it panics. The manager's proofs use these and never unfold the
functions themselves.
-/

namespace Naboscale

open Rust

variable [Profile] [Primitives]

namespace Responder

/-! ## The replay window -/

/-- The distance of the two clocks, both read as `i64` seconds. -/
def distance (currentTime timestamp : Tai64N) : ℤ :=
  |currentTime.signedSeconds - timestamp.signedSeconds|

/-- The distance as the code computes it when overflow wraps. -/
def wrappedDistance (currentTime timestamp : Tai64N) : ℤ :=
  I64.wrap |I64.wrap (currentTime.signedSeconds - timestamp.signedSeconds)|

/-- The comparison of the clocks traps: the build checks overflow and the distance does not fit
an `i64`. -/
def Overflows (currentTime timestamp : Tai64N) : Prop :=
  Profile.overflowChecks = true ∧ 2 ^ 63 ≤ distance currentTime timestamp

/-- The replay check lets the timestamp pass. -/
def InWindow (currentTime timestamp : Tai64N) : Prop :=
  ¬ Overflows currentTime timestamp ∧
    wrappedDistance currentTime timestamp ≤ replayWindowSeconds

instance (currentTime timestamp : Tai64N) : Decidable (Overflows currentTime timestamp) :=
  inferInstanceAs (Decidable (_ ∧ _))

instance (currentTime timestamp : Tai64N) : Decidable (InWindow currentTime timestamp) :=
  inferInstanceAs (Decidable (_ ∧ _))

omit [Profile] [Primitives] in
theorem distance_lt_iff (currentTime timestamp : Tai64N) :
    distance currentTime timestamp < 2 ^ 63 ↔
      I64.InRange |currentTime.signedSeconds - timestamp.signedSeconds| := by
  have := abs_nonneg (currentTime.signedSeconds - timestamp.signedSeconds)
  unfold distance I64.InRange
  omega

omit [Profile] [Primitives] in
/-- Without overflow the wrapped distance is the distance. -/
theorem wrapped_distance_eq {currentTime timestamp : Tai64N}
    (h : distance currentTime timestamp < 2 ^ 63) :
    wrappedDistance currentTime timestamp = distance currentTime timestamp := by
  have habs := (distance_lt_iff currentTime timestamp).1 h
  have hdiff : I64.InRange (currentTime.signedSeconds - timestamp.signedSeconds) := by
    have hle := abs_le.1 (le_of_lt (show |_| < (2 : ℤ) ^ 63 from h))
    have hlt := (abs_lt.1 (show |_| < (2 : ℤ) ^ 63 from h)).2
    exact ⟨hle.1, hlt⟩
  rw [wrappedDistance, I64.wrap_eq hdiff, I64.wrap_eq habs, distance]

/-- The replay check panics, passes, or fails with `InvalidTimestamp`. -/
theorem check_timestamp_eq {σ : Type} (currentTime timestamp : Tai64N) (s : σ) :
    checkTimestamp currentTime timestamp s =
      if Overflows currentTime timestamp then .panic
      else if InWindow currentTime timestamp then .ok () s
      else .err .invalidTimestamp s := by
  by_cases hrange : distance currentTime timestamp < 2 ^ 63
  · have habs := (distance_lt_iff currentTime timestamp).1 hrange
    have hdiff : I64.InRange (currentTime.signedSeconds - timestamp.signedSeconds) := by
      have hlt := abs_lt.1 (show |_| < (2 : ℤ) ^ 63 from hrange)
      exact ⟨le_of_lt hlt.1, hlt.2⟩
    have hno : ¬ Overflows currentTime timestamp := fun h => absurd h.2 (not_le.2 hrange)
    have hwindow : InWindow currentTime timestamp ↔
        ¬ replayWindowSeconds < |currentTime.signedSeconds - timestamp.signedSeconds| := by
      rw [InWindow, wrapped_distance_eq hrange, distance, not_lt]
      exact and_iff_right hno
    rw [if_neg hno]
    simp only [checkTimestamp, I64.sub, I64.abs, I64.checked_eq hdiff, I64.checked_eq habs,
      pure_bind, hwindow, gt_iff_lt, ite_not]
    split <;> rfl
  · have habs := mt (distance_lt_iff currentTime timestamp).2 hrange
    by_cases hchecks : Profile.overflowChecks = true
    · rw [if_pos ⟨hchecks, not_lt.1 hrange⟩, checkTimestamp, I64.sub]
      by_cases hdiff : I64.InRange (currentTime.signedSeconds - timestamp.signedSeconds)
      · rw [I64.checked_eq hdiff, pure_bind, I64.abs, I64.checked_panic hchecks habs]
        rfl
      · rw [I64.checked_panic hchecks hdiff]
        rfl
    · have hno : ¬ Overflows currentTime timestamp := fun h => hchecks h.1
      rw [if_neg hno, checkTimestamp, I64.sub, I64.checked_wrap hchecks, pure_bind, I64.abs,
        I64.checked_wrap hchecks, pure_bind]
      by_cases hle : wrappedDistance currentTime timestamp ≤ replayWindowSeconds
      · have hwindow : InWindow currentTime timestamp := ⟨hno, hle⟩
        rw [if_pos hwindow]
        exact congrFun (if_neg (not_lt.2 hle)) s
      · have hwindow : ¬ InWindow currentTime timestamp := fun h => hle h.2
        rw [if_neg hwindow]
        exact congrFun (if_pos (not_le.1 hle)) s

theorem check_timestamp_ok {σ : Type} {currentTime timestamp : Tai64N}
    (h : InWindow currentTime timestamp) (s : σ) :
    checkTimestamp currentTime timestamp s = .ok () s := by
  rw [check_timestamp_eq, if_neg h.1, if_pos h]

theorem check_timestamp_panic {σ : Type} {currentTime timestamp : Tai64N}
    (h : Overflows currentTime timestamp) (s : σ) :
    checkTimestamp currentTime timestamp s = .panic := by
  rw [check_timestamp_eq, if_pos h]

theorem wp_checkTimestamp {σ : Type} {Q : Method.Post σ CryptoError Unit}
    (currentTime timestamp : Tai64N) (s : σ) :
    (checkTimestamp currentTime timestamp).wp Q s ↔
      (Overflows currentTime timestamp → Q.panic) ∧
      (InWindow currentTime timestamp → Q.ok () s) ∧
      (¬ Overflows currentTime timestamp → ¬ InWindow currentTime timestamp →
        Q.err .invalidTimestamp s) := by
  rw [Method.wp_def, check_timestamp_eq]
  by_cases hover : Overflows currentTime timestamp
  · have hno : ¬ InWindow currentTime timestamp := fun h => h.1 hover
    simp [hover, hno, Method.Post.Holds]
  · by_cases hwindow : InWindow currentTime timestamp <;>
      simp [hover, hwindow, Method.Post.Holds]

/-! ## `consume_init` -/

/-- The Noise message inside an INIT. -/
def noiseInit (initMsg : Bytes) : Bytes :=
  sub initMsg noiseInitPayloadOffset (noiseInitPayloadOffset + noiseInitPayloadSize)

/-- The responder opens the INIT, with the timestamp `stamp`, the Noise state `state` after
the read, and the authenticated static key `pub`. -/
structure Opens (responder : Responder) (initMsg : Bytes) (stamp : Arr Tai64N.size)
    (state : HandshakeState) (pub : Key) : Prop where
  length : initSize ≤ initMsg.length
  type : initMsg[0]? = some messageTypeInit
  read : readMessage responder.state (noiseInit initMsg) 256 = (.ok stamp.val, state)
  window : InWindow responder.currentTime (Tai64N.fromBytes stamp)
  mac1 : sub initMsg mac1OffsetInit (mac1OffsetInit + 16) =
    (computeMac1 (mac1Key responder.localPub) (sub initMsg 0 mac1OffsetInit)).val
  remote : getRemoteStatic state = some pub.val

/-- The responder can decrypt the INIT, and comparing the timestamp sealed in it traps. -/
def Traps (self : Responder) (initMsg : Bytes) : Prop :=
  initSize ≤ initMsg.length ∧ initMsg[0]? = some messageTypeInit ∧
    ∃ (stamp : Arr Tai64N.size) (state : HandshakeState),
      readMessage self.state (noiseInit initMsg) 256 = (.ok stamp.val, state) ∧
      Overflows self.currentTime (Tai64N.fromBytes stamp)

/-- The bytes are long enough for an INIT and have its type. -/
def IsInit (initMsg : Bytes) : Prop :=
  initSize ≤ initMsg.length ∧ initMsg[0]? = some messageTypeInit

/-- The Noise states that a call of `consumeInit` that fails can leave: no message was given to
snow, snow refused it, snow read it, or snow was asked for the answer as well. -/
inductive Leaves (responder : Responder) (initMsg : Bytes) : HandshakeState → Prop
  | skipped : ¬ IsInit initMsg → Leaves responder initMsg responder.state
  | refused {e : SnowError} {state : HandshakeState} :
      readMessage responder.state (noiseInit initMsg) 256 = (.error e, state) →
      Leaves responder initMsg state
  | opened {payload : Bytes} {state : HandshakeState} : IsInit initMsg →
      readMessage responder.state (noiseInit initMsg) 256 = (.ok payload, state) →
      Leaves responder initMsg state
  | unanswered {rng : Ephemeral} {payload : Bytes} {opened state : HandshakeState}
      {result : Except SnowError Bytes} : IsInit initMsg →
      readMessage responder.state (noiseInit initMsg) 256 = (.ok payload, opened) →
      writeMessage opened rng [] noiseResponsePayloadSize = (result, state) →
      Leaves responder initMsg state

/-- What `openInit` can do: open the INIT, fail with only the Noise state changed, or trap on
the sealed timestamp. -/
theorem wp_openInit {self : Responder} {initMsg : Bytes}
    {Q : Method.Post Responder CryptoError Key}
    (hok : ∀ stamp state pub, self.Opens initMsg stamp state pub → Q.ok pub { self with state })
    (herr : ∀ e state, self.Leaves initMsg state → Q.err e { self with state })
    (hpanic : self.Traps initMsg → Q.panic) : (openInit initMsg).wp Q self := by
  rcases hread : readMessage self.state (noiseInit initMsg) 256 with ⟨result, state⟩
  unfold openInit
  simp only [Method.wp_bind, Method.wp_get, Method.wp_ite, Method.wp_fail, Method.wp_set,
    Method.wp_lift, wp_slice, wp_index, wp_expectArr, wp_checkTimestamp, Arr.wp_copyFromSlice,
    ← noiseInit.eq_1, hread, not_not]
  refine ⟨fun hshort => herr _ _ (.skipped fun h => absurd h.1 (not_le.2 hshort)),
    fun hlen => ⟨fun byte hbyte => ⟨fun htype => herr _ _ (.skipped fun h => htype ?_), ?_⟩, ?_⟩⟩
  · exact Option.some.inj (hbyte.symm.trans h.2)
  · rintro rfl
    have hinit : IsInit initMsg := ⟨not_lt.1 hlen, hbyte⟩
    refine ⟨fun _ => ⟨fun payload hpayload => ?_,
      fun e he => herr _ _ (.refused (hread.trans (by rw [he])))⟩, fun h => ?_⟩
    · subst hpayload
      -- The message is read: whatever fails from here on leaves the state after the read.
      have hleaves : self.Leaves initMsg state := .opened hinit hread
      refine ⟨fun _ => herr _ _ hleaves, fun _ => ⟨fun hstamp => ⟨fun hover => ?_,
        fun hwindow => ?_, fun _ _ => herr _ _ hleaves⟩, ?_⟩⟩
      · exact hpanic ⟨not_lt.1 hlen, hbyte, ⟨payload, hstamp⟩, state, hread, hover⟩
      · refine ⟨fun _ => ⟨fun _ => ⟨fun _ => herr _ _ hleaves, fun hmac => ⟨fun key hkey =>
          ⟨fun _ => herr _ _ hleaves, fun hkeylen => ⟨fun h => ?_, fun h => ?_⟩⟩,
          fun e _ => herr _ _ hleaves⟩⟩, fun h => ?_⟩, fun h => ?_⟩
        · -- The remote static key is copied whole into `initiator_pub`.
          have hpub : (Arr.splice (Arr.zeros 32) 0 32 key h).val = key := by
            simp [Arr.splice, splice, Arr.zeros]
          have hremote : getRemoteStatic state = some key := by
            cases hstatic : getRemoteStatic state with
            | none => simp [hstatic] at hkey
            | some static => simpa [hstatic] using hkey
          exact hok ⟨payload, hstamp⟩ state _
            ⟨not_lt.1 hlen, hbyte, hread, hwindow, hmac, hremote.trans (congrArg some hpub.symm)⟩
        · omega
        · simp only [initSize, mac1OffsetInit] at *
          omega
        · simp only [initSize, mac1OffsetInit] at *
          omega
      · exact fun h => absurd ‹_› h
    · simp only [initSize, noiseInitPayloadOffset, noiseInitPayloadSize] at *
      omega
  · simp only [initSize] at *
    omega

/-- Opening an INIT comes down to reading its Noise message. -/
theorem open_init_of_read {self : Responder} {initMsg : Bytes} {stamp : Arr Tai64N.size}
    {state : HandshakeState} (hlen : initSize ≤ initMsg.length)
    (htype : initMsg[0]? = some messageTypeInit)
    (hread : readMessage self.state (noiseInit initMsg) 256 = (.ok stamp.val, state)) :
    openInit initMsg self = (do
      checkTimestamp self.currentTime (Tai64N.fromBytes stamp)
      if sub initMsg mac1OffsetInit (mac1OffsetInit + 16) ≠
          (computeMac1 (mac1Key self.localPub) (sub initMsg 0 mac1OffsetInit)).val then
        Method.fail .macInvalid
      else
        let initiatorStatic ← Method.lift id
          ((getRemoteStatic state).elim (.error .handshakeIncomplete) .ok)
        if initiatorStatic.length ≠ 32 then Method.fail .handshakeIncomplete
        else (Arr.zeros 32).copyFromSlice 0 32 initiatorStatic : Method Responder CryptoError Key)
      { self with state } := by
  have hlength : 148 ≤ initMsg.length := hlen
  have hstamp : stamp.val.length = Tai64N.size := stamp.property
  have hnoise : noiseInitPayloadOffset + noiseInitPayloadSize ≤ initMsg.length := by
    simp only [noiseInitPayloadOffset, noiseInitPayloadSize]
    omega
  have hbefore : mac1OffsetInit ≤ initMsg.length := by
    simp only [mac1OffsetInit]
    omega
  have hafter : mac1OffsetInit + 16 ≤ initMsg.length := by
    simp only [mac1OffsetInit]
    omega
  unfold openInit
  rw [Method.bind_ok (Method.get_apply self), if_neg (not_lt.2 hlen), index_eq htype,
    pure_bind, if_neg (not_not.2 rfl), slice_eq (Nat.le_add_right _ _) hnoise, pure_bind,
    ← noiseInit, hread]
  simp only
  rw [Method.bind_ok (Method.set_apply _ _), Method.lift_ok, pure_bind, if_neg (not_not.2 hstamp),
    expectArr_eq hstamp, pure_bind, slice_eq (Nat.zero_le _) hbefore, pure_bind,
    slice_eq (Nat.le_add_right _ _) hafter, pure_bind]

/-- An INIT that passes the checks is opened. -/
theorem open_init_ok {self : Responder} {initMsg : Bytes} {stamp : Arr Tai64N.size}
    {state : HandshakeState} {pub : Key} (h : self.Opens initMsg stamp state pub) :
    openInit initMsg self = .ok pub { self with state } := by
  have hpub : pub.val.length = 32 := pub.property
  have hcopy : (Arr.zeros 32).splice 0 32 pub.val ⟨by decide, le_refl _, hpub⟩ = pub := by
    apply Subtype.ext
    simp [Arr.splice, splice, Arr.zeros]
  rw [open_init_of_read h.length h.type h.read, Method.bind_ok (check_timestamp_ok h.window _),
    if_neg (not_not.2 h.mac1), h.remote, Option.elim_some, Method.lift_ok, pure_bind,
    if_neg (not_not.2 hpub), Arr.copyFromSlice_eq _ ⟨by decide, le_refl _, hpub⟩, hcopy,
    Method.pure_apply]

/-- An INIT whose sealed timestamp traps makes `openInit` panic. -/
theorem open_init_panic {self : Responder} {initMsg : Bytes} (h : self.Traps initMsg) :
    openInit initMsg self = .panic := by
  obtain ⟨hlen, htype, stamp, state, hread, hover⟩ := h
  rw [open_init_of_read hlen htype hread]
  exact Method.bind_panic (check_timestamp_panic hover _)

/-- The response up to mac1: header, ids, Noise message, and 16 zero bytes. -/
def responseBody (senderId receiverId reply : Bytes) : Bytes :=
  [messageTypeResponse, 0, 0, 0] ++ senderId ++ receiverId ++ reply ++ List.replicate 16 0

/-- The whole response to an initiator. -/
def frameResponse (senderId receiverId reply : Bytes) (initiatorPub : Key) : Bytes :=
  responseBody senderId receiverId reply ++
    (computeMac1 (mac1Key initiatorPub) (responseBody senderId receiverId reply)).val

omit [Profile] in
/-- The writes of `writeResponse` build the frame. -/
theorem frame_response_eq {senderId receiverId reply : Bytes} (pub : Key)
    (hsid : senderId.length = 4) (hrid : receiverId.length = 4) (hreply : reply.length = 48) :
    let out := splice (splice (splice ((Arr.zeros responseSize).val.set 0 messageTypeResponse)
      4 8 senderId) 8 12 receiverId) 12 60 reply
    splice out 76 92 (computeMac1 (mac1Key pub) (sub out 0 76)).val =
      frameResponse senderId receiverId reply pub := by
  have h1 : splice ((Arr.zeros responseSize).val.set 0 messageTypeResponse) 4 8 senderId =
      ([messageTypeResponse, 0, 0, 0] ++ senderId) ++ List.replicate 4 0 ++
        List.replicate 80 0 :=
    (splice_append (p := [messageTypeResponse, 0, 0, 0]) (q := List.replicate 4 0)
      (r := List.replicate 84 0) rfl rfl (by decide)).trans (by simp)
  have hp : ([messageTypeResponse, 0, 0, 0] ++ senderId).length = 8 := by simp [hsid]
  have hp' : ([messageTypeResponse, 0, 0, 0] ++ senderId ++ receiverId).length = 12 := by
    simp [hsid, hrid]
  have h2 : splice (splice ((Arr.zeros responseSize).val.set 0 messageTypeResponse) 4 8 senderId)
      8 12 receiverId = ([messageTypeResponse, 0, 0, 0] ++ senderId ++ receiverId) ++
        List.replicate 48 0 ++ List.replicate 32 0 := by
    rw [h1, splice_append hp rfl (by decide)]
    simp
  have hbody : (responseBody senderId receiverId reply).length = 76 := by
    simp [responseBody, hsid, hrid, hreply]
  intro out
  have h3 : out = responseBody senderId receiverId reply ++ List.replicate 16 0 ++ [] := by
    show splice (splice (splice _ 4 8 senderId) 8 12 receiverId) 12 60 reply = _
    rw [h2, splice_append hp' rfl (by decide)]
    simp [responseBody]
  have h4 : sub out 0 76 = responseBody senderId receiverId reply := by
    rw [h3, List.append_nil]
    exact sub_append (p := []) rfl hbody
  rw [h4, h3, splice_append hbody rfl (by decide), List.append_nil, frameResponse]

omit [Profile] in
/-- What `writeResponse` can do once an INIT is open: frame the Noise message of 48 bytes, or
fail with only the Noise state changed when snow writes no such message. -/
theorem wp_writeResponse {self : Responder} {initMsg : Bytes} {pub : Key} {rng : Ephemeral}
    {Q : Method.Post Responder CryptoError (Arr responseSize)} (hlen : initSize ≤ initMsg.length)
    (hok : ∀ (reply : Arr noiseResponsePayloadSize) state (out : Arr responseSize),
      writeMessage self.state rng [] noiseResponsePayloadSize = (.ok reply.val, state) →
      out.val = frameResponse (toLe 4 self.senderId.toNat).val (sub initMsg 4 8) reply.val pub →
      Q.ok out { self with state })
    (herr : ∀ e result state,
      writeMessage self.state rng [] noiseResponsePayloadSize = (result, state) →
      (∀ reply, result = .ok reply → reply.length ≠ noiseResponsePayloadSize) →
      Q.err e { self with state }) :
    (writeResponse initMsg pub rng).wp Q self := by
  have hlength : 148 ≤ initMsg.length := hlen
  have hid : (sub initMsg 4 8).length = 4 := sub_length (by omega)
  have hsid : (toLe 4 self.senderId.toNat).val.length = 4 := (toLe 4 _).property
  rcases hwrite : writeMessage self.state rng [] noiseResponsePayloadSize with ⟨result, state⟩
  unfold writeResponse
  simp only [Method.wp_bind, Method.wp_get, Method.wp_ite, Method.wp_fail, Method.wp_set,
    Method.wp_lift, wp_slice, Arr.wp_store, Arr.wp_copyFromSlice, hwrite, not_not]
  have hmac (b : Bytes) : (computeMac1 (mac1Key pub) b).val.length = 16 :=
    (computeMac1 (mac1Key pub) b).property
  refine ⟨fun _ => ⟨fun _ => ⟨fun _ => ⟨fun _ => ⟨fun reply hreply => ⟨fun hsize =>
    herr _ result state hwrite fun _ hok => ?_,
    fun hsize => ⟨fun _ => ⟨fun _ => ⟨fun _ => ?_, fun h => ?_⟩, fun h => ?_⟩, fun h => ?_⟩⟩,
    fun e he => herr _ result state hwrite fun _ hok => ?_⟩, fun h => ?_⟩, fun h => ?_⟩,
    fun h => ?_⟩, fun h => ?_⟩
  · cases hreply.symm.trans hok
    exact hsize
  · subst hreply
    exact hok ⟨reply, hsize⟩ state _ hwrite (frame_response_eq pub hsid hid hsize)
  · exact absurd ⟨by decide, by decide, hmac _⟩ h
  · exact absurd ⟨by decide, le_trans (by decide : mac1OffsetResponse ≤ responseSize)
      (Arr.length_eq _).ge⟩ h
  · exact absurd ⟨by decide, by decide, hsize⟩ h
  · cases he.symm.trans hok
  · exact absurd ⟨by decide, by decide, hid⟩ h
  · exact absurd ⟨by decide, by omega⟩ h
  · exact absurd ⟨by decide, by decide, hsid⟩ h
  · exact absurd h (by decide)

/-- The responder answers the INIT: it opens it for the static key `pub`, and `reply` is the
Noise message it writes, which leaves the Noise state `state`. -/
def Answers (responder : Responder) (initMsg : Bytes) (rng : Ephemeral) (pub : Key)
    (reply : Arr noiseResponsePayloadSize) (state : HandshakeState) : Prop :=
  ∃ stamp opened, responder.Opens initMsg stamp opened pub ∧
    writeMessage opened rng [] noiseResponsePayloadSize = (.ok reply.val, state)

/-- The bytes of the answer to an INIT. -/
def answer (responder : Responder) (initMsg : Bytes) (pub : Key)
    (reply : Arr noiseResponsePayloadSize) : Bytes :=
  frameResponse (toLe 4 responder.senderId.toNat).val (sub initMsg 4 8) reply.val pub

/-- What `consumeInit` can do: answer the INIT, fail with only the Noise state changed, or trap
on the sealed timestamp. -/
theorem wp_consumeInit {self : Responder} {initMsg : Bytes} {rng : Ephemeral}
    {Q : Method.Post Responder CryptoError (Arr responseSize)}
    (hok : ∀ pub reply state (out : Arr responseSize), self.Answers initMsg rng pub reply state →
      out.val = self.answer initMsg pub reply → Q.ok out { self with state })
    (herr : ∀ e state, self.Leaves initMsg state → Q.err e { self with state })
    (hpanic : self.Traps initMsg → Q.panic) : (consumeInit initMsg rng).wp Q self := by
  rw [consumeInit, Method.wp_bind]
  refine wp_openInit (fun stamp opened pub hopens => ?_) herr hpanic
  refine wp_writeResponse hopens.length (fun reply state out hwrite hout => ?_)
    (fun e _ state hwrite _ => herr e state
      (.unanswered ⟨hopens.length, hopens.type⟩ hopens.read hwrite))
  exact hok pub reply state out ⟨stamp, opened, hopens, hwrite⟩ hout

/-- `consumeInit` panics exactly on an INIT whose sealed timestamp traps. -/
theorem consume_init_panic_iff (self : Responder) (initMsg : Bytes) (rng : Ephemeral) :
    consumeInit initMsg rng self = .panic ↔ self.Traps initMsg := by
  constructor
  · intro h
    have hwp : (consumeInit initMsg rng).wp
        ⟨fun _ _ => True, fun _ _ => True, self.Traps initMsg⟩ self :=
      wp_consumeInit (fun _ _ _ _ _ _ => trivial) (fun _ _ _ => trivial) id
    rwa [Method.wp_def, h] at hwp
  · intro h
    exact Method.bind_panic (open_init_panic h)

end Responder

namespace Initiator

omit [Profile]

/-- The INIT up to mac1: header, sender id, Noise message, and 16 zero bytes. -/
def initBody (senderId message : Bytes) : Bytes :=
  [messageTypeInit, 0, 0, 0] ++ senderId ++ message ++ List.replicate 16 0

/-- The whole INIT to a responder. -/
def frameInit (senderId message : Bytes) (responderPub : Key) : Bytes :=
  initBody senderId message ++
    (computeMac1 (mac1Key responderPub) (initBody senderId message)).val

/-- The writes of `writeInit` build the frame. -/
theorem frame_init_eq {senderId message : Bytes} (pub : Key) (hsid : senderId.length = 4)
    (hmessage : message.length = 108) :
    let out := splice (splice ((Arr.zeros initSize).val.set 0 messageTypeInit) 4 8 senderId)
      8 116 message
    splice out 132 148 (computeMac1 (mac1Key pub) (sub out 0 132)).val =
      frameInit senderId message pub := by
  have h1 : splice ((Arr.zeros initSize).val.set 0 messageTypeInit) 4 8 senderId =
      ([messageTypeInit, 0, 0, 0] ++ senderId) ++ List.replicate 108 0 ++
        List.replicate 32 0 :=
    (splice_append (p := [messageTypeInit, 0, 0, 0]) (q := List.replicate 4 0)
      (r := List.replicate 140 0) rfl rfl (by decide)).trans (by simp)
  have hp : ([messageTypeInit, 0, 0, 0] ++ senderId).length = 8 := by simp [hsid]
  have hbody : (initBody senderId message).length = 132 := by
    simp [initBody, hsid, hmessage]
  intro out
  have h2 : out = initBody senderId message ++ List.replicate 16 0 ++ [] := by
    show splice (splice _ 4 8 senderId) 8 116 message = _
    rw [h1, splice_append hp rfl (by decide)]
    simp [initBody]
  have h3 : sub out 0 132 = initBody senderId message := by
    rw [h2, List.append_nil]
    exact sub_append (p := []) rfl hbody
  have hmac : (List.replicate 16 (0 : UInt8)).length = 148 - 132 := by simp
  rw [h3, h2, splice_append hbody hmac (by decide), List.append_nil, frameInit]

/-- What `writeInit` can do: frame the Noise message of 108 bytes, or fail with only the Noise
state changed when snow writes no such message. -/
theorem wp_writeInit {self : Initiator} {rng : Ephemeral}
    {Q : Method.Post Initiator CryptoError (Arr initSize)}
    (hok : ∀ (message : Arr noiseInitPayloadSize) state (out : Arr initSize),
      writeMessage self.state rng self.timestamp.toBytes.val noiseInitPayloadSize =
        (.ok message.val, state) →
      out.val = frameInit (toLe 4 self.senderId.toNat).val message.val self.responderPub →
      Q.ok out { self with state })
    (herr : ∀ e state result,
      writeMessage self.state rng self.timestamp.toBytes.val noiseInitPayloadSize =
        (result, state) →
      (∀ message, result = .ok message → message.length ≠ noiseInitPayloadSize) →
      Q.err e { self with state }) :
    (writeInit rng).wp Q self := by
  have hsid : (toLe 4 self.senderId.toNat).val.length = 4 := (toLe 4 _).property
  have hmac (b : Bytes) : (computeMac1 (mac1Key self.responderPub) b).val.length = 16 :=
    (computeMac1 (mac1Key self.responderPub) b).property
  rcases hwrite : writeMessage self.state rng self.timestamp.toBytes.val noiseInitPayloadSize
    with ⟨result, state⟩
  unfold writeInit
  simp only [Method.wp_bind, Method.wp_get, Method.wp_ite, Method.wp_fail, Method.wp_set,
    Method.wp_lift, wp_slice, Arr.wp_store, Arr.wp_copyFromSlice, hwrite, not_not]
  refine ⟨fun _ => ⟨fun _ => ⟨fun message hmessage => ⟨fun hsize =>
    herr _ _ _ hwrite fun _ hok => ?_, fun hsize =>
    ⟨fun _ => ⟨fun _ => ⟨fun _ => ?_, fun h => ?_⟩, fun h => ?_⟩, fun h => ?_⟩⟩,
    fun e he => herr _ _ _ hwrite fun _ hok => ?_⟩, fun h => ?_⟩, fun h => ?_⟩
  · cases hmessage.symm.trans hok
    exact hsize
  · subst hmessage
    exact hok ⟨message, hsize⟩ state _ hwrite (frame_init_eq _ hsid hsize)
  · exact absurd ⟨by decide, by decide, hmac _⟩ h
  · exact absurd ⟨by decide, le_trans (by decide : mac1OffsetInit ≤ initSize)
      (Arr.length_eq _).ge⟩ h
  · exact absurd ⟨by decide, by decide, hsize⟩ h
  · cases he.symm.trans hok
  · exact absurd ⟨by decide, by decide, hsid⟩ h
  · exact absurd h (by decide)

/-- The INIT that frames a Noise message of 108 bytes. -/
theorem write_init_frame {i : Initiator} {message : Bytes} {state : HandshakeState}
    {rng : Ephemeral}
    (hwrite : writeMessage i.state rng i.timestamp.toBytes.val noiseInitPayloadSize =
      (.ok message, state)) (hlen : message.length = noiseInitPayloadSize) :
    ∃ out : Arr initSize, writeInit rng i = .ok out { i with state } ∧
      out.val = frameInit (toLe 4 i.senderId.toNat).val message i.responderPub := by
  have hwp : (writeInit rng).wp ⟨fun out i' => i' = { i with state } ∧
      out.val = frameInit (toLe 4 i.senderId.toNat).val message i.responderPub,
      fun _ _ => False, False⟩ i := by
    refine wp_writeInit (fun message' state' out hwrite' hout => ?_)
      (fun e state' result hwrite' hfail => ?_)
    · cases hwrite.symm.trans hwrite'
      exact ⟨rfl, hout⟩
    · cases hwrite.symm.trans hwrite'
      exact hfail message rfl hlen
  obtain ⟨out, i', hout, rfl, hframe⟩ := Method.ok_of_wp hwp
  exact ⟨out, hout, hframe⟩

/-- The initiator accepts the response: it is framed for it, its Noise message is read, and the
finished handshake turns into the transport state `inner`. -/
structure Accepts (initiator : Initiator) (response : Bytes) (inner : TransportState) :
    Prop where
  length : responseSize ≤ response.length
  type : response[0]? = some messageTypeResponse
  receiver : UInt32.ofNat (fromLe (sub response 8 12)) = initiator.senderId
  mac1 : sub response mac1OffsetResponse (mac1OffsetResponse + 16) =
    (computeMac1 (mac1Key initiator.localPub) (sub response 0 mac1OffsetResponse)).val
  finishes : ∃ payload state, readMessage initiator.state (sub response 12 60) 256 =
    (.ok payload, state) ∧ intoTransportMode state = .ok inner

/-- What `consumeResponse` can do: make the transport of the finished handshake, or fail. It
never panics. -/
theorem wp_consumeResponse {self : Initiator} {response : Bytes}
    {Q : Method.Post Unit CryptoError Transport}
    (hok : ∀ inner, self.Accepts response inner → Q.ok (Transport.new inner self.senderId) ())
    (herr : (∀ inner, ¬ self.Accepts response inner) → ∀ e, Q.err e ()) :
    (self.consumeResponse response).wp Q () := by
  rcases hread : readMessage self.state (sub response 12 60) 256 with ⟨result, state⟩
  unfold consumeResponse
  simp only [Method.wp_bind, Method.wp_ite, Method.wp_fail, Method.wp_pure, Method.wp_lift,
    wp_slice, wp_index, not_not]
  refine ⟨fun hlen => herr (fun _ h => absurd h.length (not_le.2 hlen)) _, fun hlen =>
    ⟨fun byte hbyte => ⟨fun htype => herr (fun _ h => ?_) _, ?_⟩, fun h => ?_⟩⟩
  · exact htype (Option.some.inj (hbyte.symm.trans h.type))
  · rintro rfl
    have hlen' : 92 ≤ response.length := not_lt.1 hlen
    refine ⟨fun _ => ⟨fun hrecv => herr (fun _ h => hrecv h.receiver) _, fun hrecv =>
      ⟨fun _ => ⟨fun _ => ⟨fun hmac => herr (fun _ h => hmac h.mac1) _, fun hmac =>
      ⟨fun _ => ?_, fun h => ?_⟩⟩, fun h => ?_⟩, fun h => ?_⟩⟩, fun h => ?_⟩
    · simp only [noiseResponsePayloadOffset, noiseResponsePayloadSize, hread]
      refine ⟨fun payload hpayload => ⟨fun inner hinner => ?_, fun e he => ?_⟩, fun e he => ?_⟩
      · exact hok inner ⟨not_lt.1 hlen, hbyte, hrecv, hmac, payload, state,
          hread.trans (by rw [hpayload]), hinner⟩
      · refine herr (fun inner h => ?_) _
        obtain ⟨payload', state', hread', hinner⟩ := h.finishes
        rw [hread] at hread'
        cases (Prod.mk.inj hread').2
        rw [he] at hinner
        cases hinner
      · refine herr (fun inner h => ?_) _
        obtain ⟨payload', state', hread', hinner⟩ := h.finishes
        rw [hread, he] at hread'
        cases hread'
    · exact absurd ⟨by decide, le_trans (by decide) hlen'⟩ h
    · exact absurd ⟨by decide, le_trans (by decide) hlen'⟩ h
    · exact absurd ⟨by decide, le_trans (by decide) hlen'⟩ h
    · exact absurd ⟨by decide, le_trans (by decide) hlen'⟩ h
  · simp only [responseSize] at *
    omega

end Initiator

end Naboscale
