import Naboscale.Tunnel.Gate

/-!
# What sessions do on their own

The calls that no datagram triggers: sending a packet, the INIT loop, and the actions of
maintenance. Each is a series of moves without a message.
-/

namespace Naboscale

open Rust

variable [Profile] [Primitives]

/-- The datagram begins with an INIT that the initiator wrote; this is the initiator after it. -/
def Initiator.Wrote (initiator : Initiator) (datagram : Bytes) : Prop :=
  ∃ start rng init, Initiator.writeInit rng start = .ok init initiator ∧
    sub datagram 0 initSize = init.val

omit [Profile] in
theorem Initiator.wrote_of_write {initiator : Initiator} {rng : Ephemeral}
    {message : Arr noiseInitPayloadSize} {state : HandshakeState} {init : Arr initSize}
    {datagram : Bytes}
    (hwrite : writeMessage initiator.state rng initiator.timestamp.toBytes.val
      noiseInitPayloadSize = (.ok message.val, state))
    (hinit : init.val = Initiator.frameInit (toLe 4 initiator.senderId.toNat).val message.val
      initiator.responderPub) (hdatagram : sub datagram 0 initSize = init.val) :
    Initiator.Wrote { initiator with state } datagram := by
  obtain ⟨out, hout, hframe⟩ := Initiator.write_init_frame hwrite message.length_eq
  exact ⟨initiator, rng, out, hout, hdatagram.trans (hinit.trans hframe.symm)⟩

namespace Session

variable {self : Session} {env : Env} {keypair : Keypair} {rng : Ephemeral}

omit [Profile] in
/-- Sending leaves the peer as it is. -/
theorem wp_sendMaybeRelay {Q : Method.Post Session TunnelError Unit} {config : PeerConfig}
    {fromPub : Key} {inner : Bytes}
    (hok : ∀ transport, Q.ok () { self with transport })
    (herr : ∀ e, Q.err e self) : (sendMaybeRelay env config fromPub inner).wp Q self := by
  unfold sendMaybeRelay
  cases config.viaRelay with
  | none => exact (wp_sendTo _ _).2 ⟨fun _ => hok _, fun e _ => herr _⟩
  | some relay =>
      simp only
      rw [wrapRelay_eq, pure_bind]
      exact (wp_sendTo _ _).2 ⟨fun _ => hok _, fun e _ => herr _⟩

/-- Sending a packet uses the transport of a ready session. -/
theorem sendEncrypted_moves (pkt : Bytes) (room : ℕ) :
    (sendEncrypted keypair env pkt room).wp (Moves keypair env rng none self.peer True) self := by
  unfold sendEncrypted
  rw [Method.wp_get_bind]
  rcases hstate : self.peer.state with _ | _ | _ | ⟨transport, sid, rehandshake⟩
  case ready =>
    simp only
    rw [Method.wp_on_bind]
    have hmove : ∀ transport', transport.Uses transport' → Change keypair env rng none self.peer
        { self.peer with state := .ready transport' sid rehandshake } :=
      fun transport' huses => ⟨rfl, hstate ▸ .use (fun _ hm => nomatch hm) huses, id⟩
    refine Transport.wp_encrypt (fun ciphertext inner hwrite => ?_) (fun e self' hrefuses => ?_)
      (fun _ _ => trivial)
    · have huses : transport.Uses
          { transport with inner, sendCounter := transport.sendCounter + 1 } :=
        ⟨rfl, Or.inr (Or.inl ⟨_, _, _, hwrite⟩)⟩
      simp only
      rw [wp_setState_bind, Method.lift_ok, pure_bind, Method.wp_bind]
      exact wp_sendMaybeRelay (fun _ => ⟨rfl, hstate ▸ .use (fun _ hm => nomatch hm) huses, id⟩)
        (fun _ => hmove _ huses)
    · exact hmove self' hrefuses.uses
  all_goals exact Change.refl _ _

omit [Profile] in
/-- Extending an INIT never panics, and keeps the INIT as its first part. -/
theorem wp_fullInit {σ ε : Type} {Q : Method.Post σ ε Bytes} {s : σ}
    {receivedCookie : Option (Arr 16)} {initMsg : Arr initSize}
    (hok : ∀ out, sub out 0 initSize = initMsg.val → Q.ok out s) :
    (fullInit receivedCookie initMsg).wp Q s := by
  have hlen := initMsg.length_eq
  have hall : sub initMsg.val 0 initSize = initMsg.val := by
    rw [sub, List.drop_zero, Nat.sub_zero, List.take_of_length_le hlen.le]
  unfold fullInit
  cases receivedCookie with
  | none => exact hok _ hall
  | some cookie =>
      have hinit : 0 ≤ initSize ∧ initSize ≤ initWithCookieSize ∧
          initMsg.val.length = initSize - 0 := ⟨by decide, by decide, hlen⟩
      have hmac (b : Bytes) : mac2OffsetInit ≤ initWithCookieSize ∧
          initWithCookieSize ≤ initWithCookieSize ∧
          (computeMac2 cookie b).val.length = initWithCookieSize - mac2OffsetInit :=
        ⟨by decide, le_rfl, Arr.length_eq _⟩
      simp only
      rw [extendInit, Arr.copyFromSlice_eq _ hinit, pure_bind,
        slice_eq (Nat.zero_le _) (le_trans (by decide) (Arr.length_eq _).ge), pure_bind,
        Arr.copyFromSlice_eq _ (hmac _), pure_bind]
      refine hok _ ?_
      have hwide : initWithCookieSize ≤ ((Arr.zeros initWithCookieSize).splice 0 initSize
          initMsg.val hinit).val.length := (Arr.length_eq _).ge
      show sub (Rust.splice _ mac2OffsetInit initWithCookieSize _) 0 initSize = _
      rw [sub_splice_of_disjoint (by decide) hwide (hmac _).2.2
        (Or.inl (by decide : initSize ≤ mac2OffsetInit))]
      exact sub_splice_same (by decide) (le_trans (by decide) (Arr.length_eq _).ge) hinit.2.2

omit [Profile] in
/-- The INIT is written at most once. -/
theorem wp_cacheInit {Q : Method.Post Session TunnelError Bytes} {initiator : Initiator}
    (hcached : ∀ msg, self.peer.cachedInit = some msg → Q.ok msg self)
    (hwrite : ∀ (message : Arr noiseInitPayloadSize) state (init : Arr initSize) msg,
      self.peer.cachedInit = none →
      writeMessage initiator.state rng initiator.timestamp.toBytes.val noiseInitPayloadSize =
        (.ok message.val, state) →
      init.val = Initiator.frameInit (toLe 4 initiator.senderId.toNat).val message.val
        initiator.responderPub →
      sub msg 0 initSize = init.val →
      Q.ok msg
        { self with
          peer :=
            { self.peer with
              state := .handshakingAsInitiator { initiator with state }
              cachedInit := some msg } })
    (herr : ∀ e state result, self.peer.cachedInit = none →
      writeMessage initiator.state rng initiator.timestamp.toBytes.val noiseInitPayloadSize =
        (result, state) →
      Q.err e (self.withState (.handshakingAsInitiator { initiator with state }))) :
    (cacheInit rng initiator).wp Q self := by
  unfold cacheInit
  rw [Method.wp_get_bind]
  cases hcache : self.peer.cachedInit with
  | some msg => exact hcached msg hcache
  | none =>
      simp only
      rw [Method.wp_on_bind]
      refine Initiator.wp_writeInit (fun message state init hw hinit => ?_)
        (fun e state result hw _ => ?_)
      · simp only
        rw [wp_setState_bind, Method.lift_ok, pure_bind, Method.wp_bind]
        exact wp_fullInit fun msg hmsg => hwrite message state init msg hcache hw hinit hmsg
      · exact herr _ state result hcache hw

/-- The INIT loop writes the INIT of an initiator and sends it. -/
theorem retryInit_moves :
    (retryInit keypair env rng).wp (Moves keypair env rng none self.peer True) self := by
  unfold retryInit
  rw [Method.wp_get_bind, Method.wp_ite]
  refine ⟨fun _ => ?_, fun _ => Change.refl _ _⟩
  rcases hstate : self.peer.state with _ | initiator | _ | _
  case handshakingAsInitiator =>
    simp only
    rw [Method.wp_bind]
    refine wp_cacheInit (fun msg _ => ?_) (fun message state init msg _ hwrite _ _ => ?_)
      (fun e state result _ hwrite => ⟨rfl, hstate ▸ .write hwrite, id⟩) <;>
      refine (Method.wp_bind _ _).2 (wp_sendMaybeRelay (fun _ => ?_) (fun _ => ?_))
    · exact ⟨rfl, .keep, id⟩
    · exact Change.refl _ _
    · exact ⟨rfl, hstate ▸ .write hwrite, id⟩
    · exact ⟨rfl, hstate ▸ .write hwrite, id⟩
  all_goals exact ⟨rfl, .keep, id⟩

/-! ## Maintenance -/

/-- The action was decided for a session with this configuration: the initiator of a rekey is
fresh. -/
def Action.Planned (keypair : Keypair) (env : Env) (rng : Ephemeral) (config : PeerConfig) :
    Action → Prop
  | .startRekey initiator _ => initiator.Fresh keypair env rng config
  | _ => True

omit [Profile] in
/-- Building a rekey never panics. If it succeeds, its fresh initiator wrote the INIT. -/
theorem wp_buildRekey {σ : Type} {Q : Method.Post σ TunnelError (List Action)} {s : σ}
    {peer : PeerSession} (hnone : Q.ok [] s)
    (hstart : ∀ initiator msg, initiator.Fresh keypair env rng peer.config →
      initiator.Wrote msg → Q.ok [.startRekey initiator msg] s) :
    (buildRekey keypair env rng peer).wp Q s := by
  unfold buildRekey
  cases hnew : Initiator.new keypair peer.config.peerPub peer.config.psk
      peer.config.localSenderId env.tai with
  | error e => exact hnone
  | ok initiator =>
      simp only
      rw [Method.wp_on_bind]
      refine Initiator.wp_writeInit (fun message state init hwrite hinit => ?_)
        (fun e state result hwrite _ => hnone)
      simp only
      rw [Method.wp_bind]
      refine wp_fullInit fun msg hmsg => hstart _ msg ?_ ?_
      · exact ⟨initiator, message.val, state, hnew, hwrite, rfl⟩
      · exact Initiator.wrote_of_write hwrite hinit hmsg

/-- The action fits a session that is not stale: a rekey starts only as initiator, with the INIT
that its initiator wrote. -/
def Action.Proper (isInitiator : Bool) : Action → Prop
  | .markStale => False
  | .startRekey initiator initMsg => isInitiator = true ∧ initiator.Wrote initMsg
  | _ => True

/-- The actions that are left for a session fit it. -/
inductive Suits (peer : PeerSession) : List Action → Prop where
  | none : Suits peer []
  /-- It was silent for too long and is marked stale, unless a rekey is pending. -/
  | silent {transport sid} : peer.state = .ready transport sid none → Suits peer [.markStale]
  | heard {actions} : peer.stale = false →
      (∀ action ∈ actions, action.Proper peer.config.isInitiator) → Suits peer actions

omit [Profile] in
/-- Planning for a peer never panics, every rekey it decides is fresh, and what it decides fits the
peer. -/
theorem wp_planPeer {σ : Type} {Q : Method.Post σ TunnelError (List Action)} {s : σ}
    {timings : ManagerTimings} {peer : PeerSession}
    (hok : ∀ actions, (∀ action ∈ actions, action.Planned keypair env rng peer.config) →
      Suits peer actions → Q.ok actions s) :
    (planPeer keypair timings env rng peer).wp Q s := by
  unfold planPeer
  rw [Method.wp_ite]
  refine ⟨fun _ => hok [] (by simp) .none, fun hstale => ?_⟩
  have hstale : peer.stale = false := Bool.eq_false_iff.2 hstale
  cases hstate : peer.state with
  | init => exact hok [] (by simp) .none
  | handshakingAsInitiator initiator => exact hok [] (by simp) .none
  | handshakingAsResponder responder => exact hok [] (by simp) .none
  | ready transport sid rehandshake =>
      cases rehandshake with
      | some rehandshake =>
          show Q.ok (if rehandshake.nextRetryAt ≤ env.now then [.retryRekey] else []) s
          split
          · exact hok _ (by simp [Action.Planned]) (.heard hstale (by simp [Action.Proper]))
          · exact hok [] (by simp) .none
      | none =>
          simp only
          rw [Method.wp_ite]
          refine ⟨fun _ => hok _ (by simp [Action.Planned]) (.silent hstate), fun _ => ?_⟩
          have hthen : ∀ actions : List Action,
              (∀ action ∈ actions, action.Planned keypair env rng peer.config) →
              (∀ action ∈ actions, action.Proper peer.config.isInitiator) →
              (if peer.lastTxAt.all (fun t => decide (timings.keepalive < env.now.durationSince t))
                then pure (.sendKeepalive :: actions) else pure actions :
                Method σ TunnelError (List Action)).wp Q s := by
            intro actions hplanned hproper
            rw [Method.wp_ite]
            refine ⟨fun _ => hok _ (List.forall_mem_cons.2 ⟨trivial, hplanned⟩) (.heard hstale ?_),
              fun _ => hok _ hplanned (.heard hstale hproper)⟩
            exact List.forall_mem_cons.2 ⟨trivial, hproper⟩
          rw [Method.wp_bind, planRekey, Method.wp_ite]
          refine ⟨fun hdue => wp_buildRekey (hthen [] (by simp) (by simp)) ?_,
            fun _ => hthen [] (by simp) (by simp)⟩
          intro initiator msg hfresh hwrote
          refine hthen _ (fun action haction => ?_) (fun action haction => ?_)
          · rw [List.mem_singleton.1 haction]
            exact hfresh
          · rw [List.mem_singleton.1 haction]
            exact ⟨hdue.1, hwrote⟩

/-- Carrying out an action moves the session. -/
theorem perform_moves {action : Action} (h : action.Planned keypair env rng self.peer.config) :
    (perform keypair env action).wp (Moves keypair env rng none self.peer True) self := by
  cases action with
  | markStale => exact ⟨rfl, .keep, id⟩
  | sendKeepalive => exact sendEncrypted_moves _ _
  | startRekey initiator initMsg =>
      unfold perform
      rw [Method.wp_get_bind, Method.wp_bind]
      refine wp_sendMaybeRelay (fun _ => ?_) (fun _ => Change.refl _ _)
      rcases hstate : self.peer.state with _ | _ | _ | ⟨transport, sid, rehandshake⟩
      case ready => exact ⟨rfl, hstate ▸ .startRekey h, id⟩
      all_goals exact Change.refl _ _
  | retryRekey =>
      unfold perform
      rw [Method.wp_get_bind]
      rcases hstate : self.peer.state with _ | _ | _ | ⟨transport, sid, _ | rehandshake⟩
      case ready.some =>
        simp only
        rw [Method.wp_bind]
        exact wp_sendMaybeRelay (fun _ => ⟨rfl, hstate ▸ .retryRekey, id⟩)
          (fun _ => Change.refl _ _)
      all_goals exact Change.refl _ _

end Session

end Naboscale
