import Naboscale.Crypto.RoundTrip
import Naboscale.Crypto.Window
import Naboscale.Transition

/-!
# A responder after an error

`consume_init` checks the timestamp, mac1 and the static key only after snow has read the Noise
message, and what snow has read is not given back when a check fails. So a call that fails is of
one of two kinds: before the read it leaves the responder as good as new, and after the read the
responder answers no INIT any more. `handle_init` makes a new responder in either case.
-/

namespace Naboscale.Responder

open Rust

section General

variable [Profile] [Primitives]

variable {responder after next : Responder} {pkt initMsg : Bytes} {rng : Ephemeral}
  {e : CryptoError} {t : Tai64N} {response : Arr responseSize} {state other : HandshakeState}

/-- The call gets past the Noise read: the bytes look like an INIT, and snow decrypts it. -/
def Reads (responder : Responder) (initMsg : Bytes) : Prop :=
  IsInit initMsg ∧
    ∃ payload state, readMessage responder.state (noiseInit initMsg) 256 = (.ok payload, state)

/-- The same messages can be read in both states, with the same result. -/
def SameReads (state other : HandshakeState) : Prop :=
  ∀ message payload room next, readMessage other message room = (.ok payload, next) ↔
    readMessage state message room = (.ok payload, next)

/-! ## What a call that fails leaves -/

omit [Profile] in
/-- A message that snow has read stays read, whatever fails afterwards. -/
theorem Leaves.hasRead (h : responder.Leaves pkt state) (hreads : responder.Reads pkt) :
    HasRead state := by
  obtain ⟨hinit, payload, opened, hread⟩ := hreads
  cases h with
  | skipped hno => exact absurd hinit hno
  | refused hrefused => cases hread.symm.trans hrefused
  | opened _ hopened => exact .once hopened
  | unanswered _ hopened hwrite => exact .wrote (.once hopened) hwrite

omit [Profile] in
/-- A call that did not get past the read takes nothing from the responder. -/
theorem Leaves.sameReads (restores : ReadRestores) (h : responder.Leaves pkt state)
    (hreads : ¬ responder.Reads pkt) : SameReads responder.state state := by
  cases h with
  | skipped => exact fun _ _ _ _ => Iff.rfl
  | refused hrefused =>
      exact fun message payload room next =>
        restores _ _ _ _ _ hrefused message payload room next
  | opened hinit hopened => exact absurd ⟨hinit, _, _, hopened⟩ hreads
  | unanswered hinit hopened _ => exact absurd ⟨hinit, _, _, hopened⟩ hreads

/-- A call that fails changes the Noise state only. -/
theorem leaves_of_err (h : consumeInit pkt rng responder = .err e after) :
    ∃ state, after = { responder with state } ∧ responder.Leaves pkt state := by
  have hwp : (consumeInit pkt rng).wp ⟨fun _ _ => True,
      fun _ self' => ∃ state, self' = { responder with state } ∧ responder.Leaves pkt state,
      True⟩ responder :=
    wp_consumeInit (fun _ _ _ _ _ _ => trivial) (fun _ state hleaves => ⟨state, rfl, hleaves⟩)
      (fun _ => trivial)
  rwa [Method.wp_def, h] at hwp

/-! ## The calls after it -/

/-- `consumeInit` succeeds exactly where the responder answers. -/
theorem consume_init_ok_iff :
    consumeInit initMsg rng responder = .ok response next ↔
      ∃ pub reply state, responder.Answers initMsg rng pub reply state ∧
        response.val = responder.answer initMsg pub reply ∧ next = { responder with state } := by
  constructor
  · intro h
    have hwp : (consumeInit initMsg rng).wp ⟨fun out self' => ∃ pub reply state,
        responder.Answers initMsg rng pub reply state ∧
          out.val = responder.answer initMsg pub reply ∧ self' = { responder with state },
        fun _ _ => True, True⟩ responder :=
      wp_consumeInit (fun pub reply state out hanswers hout => ⟨pub, reply, state, hanswers, hout,
        rfl⟩) (fun _ _ _ => trivial) (fun _ => trivial)
    rwa [Method.wp_def, h] at hwp
  · rintro ⟨pub, reply, state, ⟨stamp, opened, hopens, hwrite⟩, hresponse, rfl⟩
    obtain ⟨out, hout, hframe⟩ := hopens.answered hwrite reply.property
    rw [hout, Subtype.ext (hframe.trans hresponse.symm)]

omit [Profile] in
theorem reads_congr (h : SameReads responder.state other) :
    Reads { responder with state := other } initMsg ↔ responder.Reads initMsg :=
  and_congr_right' (exists_congr fun _ => exists_congr fun _ => h _ _ _ _)

/-- What a responder answers depends on its Noise state only through what can be read in it. -/
theorem answers_congr {pub : Key} {reply : Arr noiseResponsePayloadSize}
    (h : SameReads responder.state other) :
    Answers { responder with state := other } initMsg rng pub reply state ↔
      responder.Answers initMsg rng pub reply state := by
  refine exists_congr fun stamp => exists_congr fun opened => and_congr_left' ?_
  exact ⟨fun h' => ⟨h'.length, h'.type, (h _ _ _ _).1 h'.read, h'.window, h'.mac1, h'.remote⟩,
    fun h' => ⟨h'.length, h'.type, (h _ _ _ _).2 h'.read, h'.window, h'.mac1, h'.remote⟩⟩

/-- Where the same can be read, the same calls succeed, in the same way. -/
theorem ok_congr (responder : Responder) (h : SameReads responder.state other) :
    consumeInit initMsg rng { responder with state := other } = .ok response next ↔
      consumeInit initMsg rng responder = .ok response next := by
  rw [consume_init_ok_iff, consume_init_ok_iff]
  exact exists_congr fun pub => exists_congr fun reply => exists_congr fun state =>
    and_congr_left' (answers_congr h)

/-- A responder that has read a message answers no INIT. -/
theorem not_ok_of_hasRead (once : ReadsOnce) (h : HasRead responder.state) :
    consumeInit initMsg rng responder ≠ .ok response next := by
  intro hok
  obtain ⟨pub, reply, state, ⟨stamp, opened, hopens, _⟩, _⟩ := consume_init_ok_iff.1 hok
  obtain ⟨e, h', herror⟩ := once _ (noiseInit initMsg) 256 h
  cases hopens.read.symm.trans herror

/-- What a call that fails leaves decides about the calls after it. -/
theorem ok_iff_of_leaves (restores : ReadRestores) (once : ReadsOnce)
    (h : responder.Leaves pkt state) :
    consumeInit initMsg rng (setCurrentTime { responder with state } t) = .ok response next ↔
      ¬ responder.Reads pkt ∧
        consumeInit initMsg rng (responder.setCurrentTime t) = .ok response next := by
  -- The failed call either spent the Noise state or left in it all that could be read before.
  by_cases hreads : responder.Reads pkt
  · have hspent : HasRead (setCurrentTime { responder with state } t).state := h.hasRead hreads
    exact iff_of_false (not_ok_of_hasRead once hspent) (fun hok => hok.1 hreads)
  · have hsame : SameReads responder.state state := h.sameReads restores hreads
    rw [and_iff_right hreads]
    exact ok_congr (responder.setCurrentTime t) hsame

/-- After an error, a call succeeds exactly when the one that failed did not get past the Noise
read and the call would have succeeded before it. -/
theorem ok_after_error_iff (restores : ReadRestores) (once : ReadsOnce)
    (h : consumeInit pkt rng responder = .err e after) (initMsg : Bytes) (rng' : Ephemeral)
    (t : Tai64N) (response : Arr responseSize) (next : Responder) :
    consumeInit initMsg rng' (after.setCurrentTime t) = .ok response next ↔
      ¬ responder.Reads pkt ∧
        consumeInit initMsg rng' (responder.setCurrentTime t) = .ok response next := by
  obtain ⟨state, rfl, hleaves⟩ := leaves_of_err h
  exact ok_iff_of_leaves restores once hleaves

/-! ## Runs of calls that fail -/

/-- A call at a time of its own that fails. -/
def refuse (responder : Responder) (call : Tai64N × Bytes × Ephemeral) : Option Responder :=
  match consumeInit call.2.1 call.2.2 (responder.setCurrentTime call.1) with
  | .err _ after => some after
  | _ => none

theorem refuse_some {call : Tai64N × Bytes × Ephemeral} (h : responder.refuse call = some after) :
    ∃ e, consumeInit call.2.1 call.2.2 (responder.setCurrentTime call.1) = .err e after := by
  unfold refuse at h
  cases hcall : consumeInit call.2.1 call.2.2 (responder.setCurrentTime call.1) with
  | err e after' =>
      rw [hcall] at h
      cases h
      exact ⟨e, rfl⟩
  | ok response next =>
      rw [hcall] at h
      cases h
  | panic =>
      rw [hcall] at h
      cases h

/-- After any number of errors, a call succeeds exactly when none of the calls that failed got past
the Noise read and the call would have succeeded before them. -/
theorem ok_after_errors_iff (restores : ReadRestores) (once : ReadsOnce)
    {calls : List (Tai64N × Bytes × Ephemeral)}
    (h : Transition.exec refuse responder calls = some after) :
    consumeInit initMsg rng (after.setCurrentTime t) = .ok response next ↔
      (∀ call ∈ calls, ¬ responder.Reads call.2.1) ∧
        consumeInit initMsg rng (responder.setCurrentTime t) = .ok response next := by
  induction calls generalizing responder with
  | nil =>
      cases h
      simp
  | cons call calls ih =>
      obtain ⟨middle, hstep, hrest⟩ := Transition.exec_cons_inv h
      obtain ⟨e, hcall⟩ := refuse_some hstep
      obtain ⟨state, rfl, hleaves⟩ := leaves_of_err hcall
      rw [ih hrest, ok_iff_of_leaves restores once hleaves, List.forall_mem_cons]
      -- What the first call leaves readable is what the later calls are judged by.
      refine ⟨fun ⟨hlater, hfirst, hok⟩ => ⟨⟨hfirst, fun call hmem hreads => hlater call hmem ?_⟩,
        hok⟩, fun ⟨⟨hfirst, hlater⟩, hok⟩ => ⟨fun call hmem hreads => hlater call hmem ?_, hfirst,
        hok⟩⟩
      · exact (reads_congr (hleaves.sameReads restores hfirst)).2 hreads
      · exact (reads_congr (hleaves.sameReads restores hfirst)).1 hreads

end General

section Symbolic

open Symbolic

attribute [local instance] Symbolic.primitives Symbolic.release

/-- The INIT that an initiator frames with a timestamp. -/
def framedAt (timestamp : Tai64N) : Bytes :=
  Initiator.frameInit [5, 0, 0, 0]
    (firstMessage (key 1) (publicKey (key 2)) (key 9) 3 timestamp.toBytes.val) (publicKey (key 2))

theorem framedAt_answered :
    ∃ response next, consumeInit (framedAt ⟨1000, 0⟩) (8 : UInt8) (waiting ⟨1000, 0⟩) =
      .ok response next := by
  have hrun : (consumeInit (framedAt ⟨1000, 0⟩) (8 : UInt8) (waiting ⟨1000, 0⟩)).okAnd
      (fun _ _ => true) = true := by
    decide +kernel
  obtain ⟨response, next, hok, _⟩ := Outcome.okAnd_iff.1 hrun
  exact ⟨response, next, hok⟩

/-- An INIT whose mac1 is wrong costs a new responder the genuine INIT after it. -/
theorem spent_by_wrong_mac1 :
    ∃ responder after : Responder,
      Responder.new ⟨key 2⟩ (key 9) 7 ⟨1000, 0⟩ = .ok responder ∧
      consumeInit (initAt ⟨1000, 0⟩) (8 : UInt8) responder = .err .macInvalid after ∧
      (∃ response next, consumeInit (framedAt ⟨1000, 0⟩) (8 : UInt8) responder =
        .ok response next) ∧
      ∀ response next, consumeInit (framedAt ⟨1000, 0⟩) (8 : UInt8) after ≠ .ok response next := by
  obtain ⟨state, h⟩ := unseals_initAt ⟨1000, 0⟩ ⟨1000, 0⟩
  have hwindow : InWindow (waiting ⟨1000, 0⟩).currentTime
      (Tai64N.fromBytes (Tai64N.toBytes ⟨1000, 0⟩)) := by
    rw [Tai64N.fromBytes_toBytes]
    decide +kernel
  have hmac : sub (initAt ⟨1000, 0⟩) mac1OffsetInit (mac1OffsetInit + 16) ≠
      (computeMac1 (mac1Key (waiting ⟨1000, 0⟩).localPub)
        (sub (initAt ⟨1000, 0⟩) 0 mac1OffsetInit)).val := by
    decide +kernel
  have hopen : openInit (initAt ⟨1000, 0⟩) (waiting ⟨1000, 0⟩) =
      .err .macInvalid { waiting ⟨1000, 0⟩ with state } := by
    rw [open_init_of_read h.length h.type h.read, Method.bind_ok (check_timestamp_ok hwindow _),
      if_pos hmac]
    rfl
  exact ⟨waiting ⟨1000, 0⟩, _, rfl, Method.bind_err hopen, framedAt_answered,
    fun _ _ => not_ok_of_hasRead reads_once (.once h.read)⟩

/-- Bytes that are no INIT cost it nothing. -/
theorem answers_after_junk :
    ∃ e after, consumeInit [1, 2, 3] (8 : UInt8) (waiting ⟨1000, 0⟩) = .err e after ∧
      ∃ response next, consumeInit (framedAt ⟨1000, 0⟩) (8 : UInt8)
        (after.setCurrentTime ⟨1000, 0⟩) = .ok response next := by
  obtain ⟨response, next, hok⟩ := framedAt_answered
  have herr : consumeInit [1, 2, 3] (8 : UInt8) (waiting ⟨1000, 0⟩) =
      .err (.invalidLength initSize 3) (waiting ⟨1000, 0⟩) := rfl
  have hshort : ¬ (waiting ⟨1000, 0⟩).Reads [1, 2, 3] := fun h => absurd h.1.1 (by decide)
  exact ⟨_, _, herr, response, next,
    (ok_after_error_iff read_restores reads_once herr _ _ _ _ _).2 ⟨hshort, hok⟩⟩

end Symbolic

end Naboscale.Responder
