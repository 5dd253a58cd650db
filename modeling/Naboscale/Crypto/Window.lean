import Naboscale.Crypto.HandshakeSpec
import Naboscale.Crypto.Symbolic
import Naboscale.Rust.Distance
import Mathlib.Data.UInt

/-!
# The replay window on all inputs

`consume_init` reads two `u64` numbers of seconds as `i64` numbers and compares the absolute value
of their difference with the window. The initiator chooses one of them freely: it is decoded from
the sealed timestamp without a range check.
-/

namespace Naboscale

open Rust

namespace Responder

/-- Neither cast, nor the subtraction, nor `abs` overflows. -/
def ExactCheck (currentTime timestamp : Tai64N) : Prop :=
  currentTime.signedSeconds = currentTime.seconds.toNat ∧
    timestamp.signedSeconds = timestamp.seconds.toNat ∧
    I64.Exact currentTime.signedSeconds timestamp.signedSeconds

/-- The numbers of seconds are at most the window apart. -/
def Near (currentTime timestamp : Tai64N) : Prop :=
  |(currentTime.seconds.toNat : ℤ) - timestamp.seconds.toNat| ≤ replayWindowSeconds

instance (currentTime timestamp : Tai64N) : Decidable (ExactCheck currentTime timestamp) :=
  inferInstanceAs (Decidable (_ ∧ _ ∧ _))

instance (currentTime timestamp : Tai64N) : Decidable (Near currentTime timestamp) :=
  inferInstanceAs (Decidable (_ ≤ _))

/-- With a clock that is an `i64`, everything is exact if the sealed number is an `i64` too. -/
theorem exact_check_iff {currentTime timestamp : Tai64N}
    (hcurrent : currentTime.seconds.toNat < 2 ^ 63) :
    ExactCheck currentTime timestamp ↔ timestamp.seconds.toNat < 2 ^ 63 := by
  have hcast := I64.wrap_natCast_eq_iff timestamp.seconds.toNat_lt
  refine ⟨fun h => hcast.1 h.2.1, fun h => ?_⟩
  have hnow : currentTime.signedSeconds = currentTime.seconds.toNat :=
    (I64.wrap_natCast_eq_iff currentTime.seconds.toNat_lt).2 hcurrent
  have hstamp : timestamp.signedSeconds = timestamp.seconds.toNat := hcast.2 h
  refine ⟨hnow, hstamp, ?_⟩
  rw [hnow, hstamp]
  exact I64.exact_of_nonneg (by omega) (by omega) (by omega) (by omega)

section General

variable [Profile] [Primitives]

omit [Primitives] in
/-- Where everything is exact, the check passes exactly inside the window. -/
theorem in_window_iff {currentTime timestamp : Tai64N} (h : ExactCheck currentTime timestamp) :
    InWindow currentTime timestamp ↔ Near currentTime timestamp := by
  obtain ⟨hcurrent, hstamp, hexact⟩ := h
  have hdistance : distance currentTime timestamp < 2 ^ 63 := (I64.exact_iff _ _).1 hexact
  have hno : ¬ Overflows currentTime timestamp := fun h => absurd h.2 (not_le.2 hdistance)
  rw [InWindow, wrapped_distance_eq hdistance, and_iff_right hno, distance, hcurrent, hstamp]
  rfl

/-- The INIT is well-formed, and the timestamp is sealed in it for the responder. -/
structure Unseals (responder : Responder) (initMsg : Bytes) (stamp : Arr Tai64N.size)
    (state : HandshakeState) : Prop where
  length : initSize ≤ initMsg.length
  type : initMsg[0]? = some messageTypeInit
  read : readMessage responder.state (noiseInit initMsg) 256 = (.ok stamp.val, state)

/-- The responder neither panics on the INIT nor finds its timestamp outside the window. -/
def LetsPass (self : Responder) (initMsg : Bytes) : Prop :=
  openInit initMsg self ≠ .panic ∧ ∀ self', openInit initMsg self ≠ .err .invalidTimestamp self'

/-- What follows the check fails in other ways. -/
theorem lets_pass_iff {self : Responder} {initMsg : Bytes} {stamp : Arr Tai64N.size}
    {state : HandshakeState} (h : self.Unseals initMsg stamp state) :
    self.LetsPass initMsg ↔ InWindow self.currentTime (Tai64N.fromBytes stamp) := by
  unfold LetsPass
  rw [open_init_of_read h.length h.type h.read]
  by_cases hover : Overflows self.currentTime (Tai64N.fromBytes stamp)
  · rw [Method.bind_panic (check_timestamp_panic hover _)]
    exact iff_of_false (fun h => h.1 rfl) (fun h => h.1 hover)
  · by_cases hwindow : InWindow self.currentTime (Tai64N.fromBytes stamp)
    · rw [Method.bind_ok (check_timestamp_ok hwindow _)]
      refine iff_of_true ?_ hwindow
      split
      · exact ⟨nofun, nofun⟩
      · cases getRemoteStatic state with
        | none => exact ⟨nofun, nofun⟩
        | some initiatorStatic =>
            rw [Option.elim_some, Method.lift_ok, pure_bind]
            split
            · exact ⟨nofun, nofun⟩
            · rename_i hlen
              rw [Arr.copyFromSlice_eq _ ⟨by decide, le_refl _, not_not.1 hlen⟩]
              exact ⟨nofun, nofun⟩
    · have hcheck : checkTimestamp self.currentTime (Tai64N.fromBytes stamp)
          { self with state } = .err .invalidTimestamp { self with state } := by
        rw [check_timestamp_eq, if_neg hover, if_neg hwindow]
      rw [Method.bind_err hcheck]
      exact iff_of_false (fun h => h.2 _ rfl) hwindow

/-- With a clock below `2 ^ 62`, the check of the sealed timestamp is exact and passes exactly
inside the window if and only if the number of seconds is an `i64`. -/
theorem window_exact_iff {self : Responder} {initMsg : Bytes} {stamp : Arr Tai64N.size}
    {state : HandshakeState} (hcurrent : self.currentTime.seconds.toNat < 2 ^ 62)
    (h : self.Unseals initMsg stamp state) :
    (ExactCheck self.currentTime (Tai64N.fromBytes stamp) ∧
      (self.LetsPass initMsg ↔ Near self.currentTime (Tai64N.fromBytes stamp))) ↔
      (Tai64N.fromBytes stamp).seconds.toNat < 2 ^ 63 := by
  rw [← exact_check_iff (hcurrent.trans (by decide))]
  exact ⟨fun h => h.1, fun hexact => ⟨hexact, (lets_pass_iff h).trans (in_window_iff hexact)⟩⟩

end General

/-! ## Timestamps that an initiator chose -/

section Symbolic

open Symbolic

attribute [local instance] Symbolic.primitives Symbolic.release

/-- A responder at a time. -/
def waiting (currentTime : Tai64N) : Responder :=
  { state := .responderStart (key 2) (key 9)
    senderId := 7
    localPub := publicKey (key 2)
    currentTime }

/-- An INIT to that responder with a timestamp that the initiator chose, without its MACs. -/
def initAt (timestamp : Tai64N) : Bytes :=
  [messageTypeInit, 0, 0, 0, 5, 0, 0, 0] ++
    firstMessage (key 1) (publicKey (key 2)) (key 9) 3 timestamp.toBytes.val ++
    List.replicate 32 0

theorem unseals_initAt (currentTime timestamp : Tai64N) :
    ∃ state, (waiting currentTime).Unseals (initAt timestamp) timestamp.toBytes state := by
  have hstamp : timestamp.toBytes.val.length = 12 := timestamp.toBytes.property
  have hmessage := firstMessage_length (key 1) (publicKey (key 2)) (key 9) 3 timestamp.toBytes.val
  have hnoise : noiseInit (initAt timestamp) =
      firstMessage (key 1) (publicKey (key 2)) (key 9) 3 timestamp.toBytes.val := by
    refine sub_append (p := [messageTypeInit, 0, 0, 0, 5, 0, 0, 0]) rfl ?_
    rw [hmessage, hstamp]
    rfl
  have hread := read_first_ok (key 1) (key 2) (key 9) 3 hstamp
  rw [← hnoise] at hread
  refine ⟨_, ?_, rfl, hread⟩
  rw [initAt, List.length_append, List.length_append, hmessage, hstamp, List.length_replicate]
  decide

/-- One second before the oldest time, read as a signed number, is in the window of a clock that
stands at zero, and neither clock is near the other. -/
theorem far_future_passes :
    ∃ state, (waiting ⟨0, 0⟩).Unseals (initAt ⟨2 ^ 64 - 1, 0⟩)
        (Tai64N.toBytes ⟨2 ^ 64 - 1, 0⟩) state ∧
      (waiting ⟨0, 0⟩).LetsPass (initAt ⟨2 ^ 64 - 1, 0⟩) ∧
      ¬ Near ⟨0, 0⟩ (Tai64N.fromBytes (Tai64N.toBytes ⟨2 ^ 64 - 1, 0⟩)) := by
  obtain ⟨state, h⟩ := unseals_initAt ⟨0, 0⟩ ⟨2 ^ 64 - 1, 0⟩
  have hwindow : InWindow ⟨0, 0⟩ (Tai64N.fromBytes (Tai64N.toBytes ⟨2 ^ 64 - 1, 0⟩)) := by
    rw [Tai64N.fromBytes_toBytes]
    decide +kernel
  refine ⟨state, h, (lets_pass_iff h).2 hwindow, ?_⟩
  rw [Tai64N.fromBytes_toBytes]
  decide +kernel

/-- A timestamp that is two minutes old passes. -/
theorem two_minutes_pass :
    (waiting ⟨1000, 0⟩).LetsPass (initAt ⟨880, 0⟩) ∧ Near ⟨1000, 0⟩ ⟨880, 0⟩ := by
  obtain ⟨state, h⟩ := unseals_initAt ⟨1000, 0⟩ ⟨880, 0⟩
  have hexact := (window_exact_iff (by decide +kernel) h).2
  rw [Tai64N.fromBytes_toBytes] at hexact
  have hnear : Near (waiting ⟨1000, 0⟩).currentTime ⟨880, 0⟩ := by decide +kernel
  exact ⟨((hexact (by decide +kernel)).2).2 hnear, hnear⟩

end Symbolic

end Responder

end Naboscale
