import Naboscale.Rust.Budget
import Naboscale.Tunnel.Admission
import Naboscale.Tunnel.EndToEnd
import Naboscale.Tunnel.Flood
import Naboscale.Tunnel.Freshness

/-!
# How much a manager sends

A datagram makes the manager send at most one datagram, and that one is no longer than what came
in, unless it is a COOKIE. A COOKIE is 64 bytes long and may answer a single byte, but the gate
makes one only after five other INITs of the same session: every gate has a credit of INITs that it
counted and did not answer with a COOKIE yet, and a COOKIE uses up six.
-/

namespace Naboscale

open Rust Method Transition

/-! ## Datagrams -/

/-- The number of bytes in the datagrams. -/
def bytesIn (datagrams : List (SocketAddr × Bytes)) : ℕ :=
  (datagrams.map fun entry => entry.2.length).sum

/-- The datagram is a COOKIE. -/
def IsCookie (entry : SocketAddr × Bytes) : Prop := entry.2[0]? = some messageTypeCookie

instance (entry : SocketAddr × Bytes) : Decidable (IsCookie entry) :=
  inferInstanceAs (Decidable (_ = _))

/-- The number of COOKIEs among the datagrams. -/
def cookiesIn (datagrams : List (SocketAddr × Bytes)) : ℕ := datagrams.countP (IsCookie ·)

/-- The datagram is not a COOKIE and has at most the given size. -/
def Plain (size : ℕ) (entry : SocketAddr × Bytes) : Prop :=
  ¬ IsCookie entry ∧ entry.2.length ≤ size

/-- What was sent in answer to a datagram of the given size is at most one datagram and no longer,
but for a COOKIE, which is paid for with credit. The datagram itself is worth `counted`, and `made`
says whether there are COOKIEs at all. -/
def Paid (made : Prop) (size counted : ℕ) (first second : List (SocketAddr × Bytes))
    (credit credit' : ℕ) : Prop :=
  ∃ added, second = first ++ added ∧ added.length ≤ 1 ∧
    bytesIn added ≤ size + cookieSize * cookiesIn added ∧
    (cookieInitRateLimit + 1) * cookiesIn added + credit' ≤ credit + counted ∧
    (0 < cookiesIn added → made)

section Lists

variable {made : Prop} {size counted credit credit' : ℕ} {first second : List (SocketAddr × Bytes)}

/-- An answer that is not a COOKIE. -/
theorem Paid.of_adds (h : Adds 1 (Plain size) first second) (hcredit : credit' ≤ credit + counted) :
    Paid made size counted first second credit credit' := by
  obtain ⟨added, hadded, hlength, hplain⟩ := h
  have hcookies : cookiesIn added = 0 :=
    List.countP_eq_zero.2 fun entry hentry => by simpa using (hplain entry hentry).1
  have hbytes : bytesIn added ≤ size := by
    cases added with
    | nil => exact Nat.zero_le size
    | cons entry rest =>
        obtain rfl : rest = [] := List.length_eq_zero_iff.1 (by
          rw [List.length_cons] at hlength
          omega)
        have hsize := (hplain entry List.mem_cons_self).2
        rw [bytesIn, List.map_singleton, List.sum_singleton]
        exact hsize
  refine ⟨added, hadded, hlength, ?_, ?_, fun hpos => absurd hpos (hcookies ▸ Nat.lt_irrefl 0)⟩
  · rw [hcookies]
    omega
  · rw [hcookies]
    omega

/-- Nothing is sent. -/
theorem Paid.of_eq (h : second = first) (hcredit : credit' ≤ credit + counted) :
    Paid made size counted first second credit credit' :=
  Paid.of_adds (Adds.of_eq h) hcredit

/-- A COOKIE is sent, and the credit of a whole round of INITs is used up. -/
theorem Paid.of_cookie {entry : SocketAddr × Bytes} (hmade : made) (hcookie : IsCookie entry)
    (hsize : entry.2.length = cookieSize)
    (hcredit : cookieInitRateLimit + 1 + credit' ≤ credit + counted) :
    Paid made size counted first (first ++ [entry]) credit credit' := by
  have hone : cookiesIn [entry] = 1 := by
    rw [cookiesIn, List.countP_singleton, if_pos (decide_eq_true hcookie)]
  refine ⟨[entry], rfl, le_rfl, ?_, ?_, fun _ => hmade⟩
  · rw [hone, bytesIn, List.map_singleton, List.sum_singleton, hsize]
    omega
  · rw [hone]
    omega

/-- What is paid with the credit of one gate is paid with the credit of all of them. -/
theorem Paid.part {all all' : ℕ} (h : Paid made size counted first second credit credit')
    (hall : all' + credit = all + credit') : Paid made size counted first second all all' := by
  obtain ⟨added, hadded, hlength, hbytes, hcredit, hmade⟩ := h
  exact ⟨added, hadded, hlength, hbytes, by omega, hmade⟩

end Lists

/-! ## The gate -/

/-- The INITs that the gate counted and did not answer with a COOKIE. -/
def CookieGate.credit (gate : CookieGate) : ℕ :=
  if gate.cookieRequired = true then 0 else gate.initRxCount.toNat

namespace CookieGate

variable {gate : CookieGate} {now : Instant}

/-- Counting an INIT adds to the credit no more than that INIT. -/
theorem credit_counted : (gate.counted now).credit ≤ gate.credit + 1 := by
  rw [credit, credit, counted_cookieRequired]
  by_cases hrequired : gate.cookieRequired = true
  · rw [if_pos hrequired, if_pos hrequired]
    exact Nat.zero_le _
  · rw [if_neg hrequired, if_neg hrequired]
    have hrestarted : (gate.restarted now).initRxCount.toNat ≤ gate.initRxCount.toNat := by
      rw [restarted]
      split
      · exact Nat.zero_le _
      · exact le_rfl
    show ((gate.restarted now).initRxCount + 1).toNat ≤ _
    rw [UInt32.toNat_add]
    exact (Nat.mod_le _ _).trans (Nat.add_le_add_right hrestarted 1)

/-- Over the rate limit there is the credit for a COOKIE. -/
theorem credit_over (hrequired : gate.cookieRequired = false)
    (hcount : cookieInitRateLimit < (gate.counted now).initRxCount.toNat) :
    cookieInitRateLimit + 1 ≤ gate.credit + 1 := by
  have hcounted : (gate.counted now).credit = (gate.counted now).initRxCount.toNat := by
    rw [credit, counted_cookieRequired, hrequired]
    rfl
  exact (Nat.succ_le_of_lt hcount).trans (hcounted ▸ credit_counted)

end CookieGate

/-- Cookies are made without touching the session, if they are made at all. -/
def CookieGenerator.Makes [Primitives] (generate : CookieGenerator) (made : Prop) : Prop :=
  ∀ cookieSecret source self, (generate cookieSecret source).wp
    ⟨fun _ self' => made ∧ self' = self, fun _ self' => self' = self, True⟩ self

section General

variable [Profile] [Primitives]

omit [Profile] in
theorem CookieGenerator.makes_returning (cookie : Key → SocketAddr → Arr 16) :
    (CookieGenerator.returning cookie).Makes True := fun _ _ _ => ⟨trivial, rfl⟩

omit [Profile] in
/-- The cookies of the manager are never made. -/
theorem CookieGenerator.makes_generateCookie :
    CookieGenerator.Makes Session.generateCookie False := by
  intro cookieSecret source self
  rw [Session.generateCookie_panic]
  trivial

namespace Session

variable {self : Session} {env : Env} {keypair : Keypair} {rng : Ephemeral} {source : SocketAddr}
  {pkt : Bytes} {size : ℕ} {made : Prop} {generate : CookieGenerator}

omit [Profile] in
theorem wp_modifyPeer_bind {α : Type} {Q : Post Session TunnelError α}
    (f : PeerSession → PeerSession) (k : Unit → Method Session TunnelError α) :
    (modifyPeer f >>= k).wp Q self ↔ (k ()).wp Q { self with peer := f self.peer } := Iff.rfl

omit [Profile] in
/-- A COOKIE is sent, or the network does not take it. -/
theorem wp_sendCookieReply {Q : Post Session TunnelError Unit} {cookie : Arr 16}
    (hsent : ∀ buf : Bytes, buf[0]? = some messageTypeCookie → buf.length = cookieSize →
      Q.ok () (self.logSend source buf))
    (herr : ∀ e, Q.err e self) : (sendCookieReply env source cookie).wp Q self := by
  have hword (w : Arr 4) : 4 ≤ 8 ∧ 8 ≤ cookieSize ∧ w.val.length = 8 - 4 :=
    ⟨by decide, by decide, w.length_eq⟩
  have hbody : 8 ≤ 24 ∧ 24 ≤ cookieSize ∧ cookie.val.length = 24 - 8 :=
    ⟨by decide, by decide, cookie.length_eq⟩
  rw [sendCookieReply, wp_get_bind, Arr.store_eq _ _ (by decide), pure_bind,
    Arr.copyFromSlice_eq _ (hword _), pure_bind, Arr.copyFromSlice_eq _ hbody, pure_bind, wp_sendTo]
  refine ⟨fun _ => hsent _ ?_ (Arr.length_eq _), fun e _ => herr _⟩
  rfl

variable (size) in
/-- The gate sends nothing but COOKIEs, and it has the credit for them. -/
theorem wp_checkInitCookieWith {Q : Post Session TunnelError Bool} {cookieSecret : Key}
    (hmakes : generate.Makes made)
    (hpasses : ∀ s : Session, s.sent = self.sent → s.peer.gate.credit ≤ self.peer.gate.credit + 1 →
      Q.ok false s)
    (hhandled : ∀ s : Session,
      Paid made size 1 self.sent s.sent self.peer.gate.credit s.peer.gate.credit → Q.ok true s)
    (herr : ∀ e (s : Session),
      Paid made size 1 self.sent s.sent self.peer.gate.credit s.peer.gate.credit → Q.err e s)
    (hpanic : Q.panic) :
    (checkInitCookieWith (generate cookieSecret source) env source pkt).wp Q self := by
  have hgate := self.peer.gate_counted env.now
  have hcredit : (self.peer.counted env.now).gate.credit ≤ self.peer.gate.credit + 1 := by
    rw [hgate]
    exact CookieGate.credit_counted
  have hrequired : (restartWindow env.now self.peer).cookieRequired = self.peer.cookieRequired :=
    (restartWindow_fields env.now self.peer).2.2
  let counted : Session := { self with peer := self.peer.counted env.now }
  have hcounted : Paid made size 1 self.sent counted.sent self.peer.gate.credit
      counted.peer.gate.credit := Paid.of_eq rfl hcredit
  rw [checkInitCookieWith, wp_modifyPeer_bind, wp_get_bind, nextCount_eq_ite]
  split
  case isTrue => exact hpanic
  case isFalse =>
  rw [pure_bind, wp_modifyPeer_bind, wp_ite]
  refine ⟨fun _ => (wp_ite _ _ _).2 ⟨fun _ => hhandled counted hcounted, fun hlen => ?_⟩,
    fun hnot => (wp_ite _ _ _).2 ⟨fun hcount => ?_, fun _ => hpasses counted rfl hcredit⟩⟩
  · -- A cookie is asked for: the INIT proves it or is only counted.
    have hsize : mac2OffsetInit + mac1Len ≤ pkt.length := not_lt.1 hlen
    split
    · rw [slice_eq (Nat.zero_le _) (le_trans (Nat.le_add_right _ _) hsize), pure_bind,
        slice_eq (Nat.le_add_right _ _) hsize, pure_bind, wp_ite]
      exact ⟨fun _ => hhandled counted hcounted, fun _ => hpasses _ rfl (Nat.zero_le _)⟩
    · exact hpasses _ rfl (Nat.zero_le _)
  · -- The INIT is over the rate limit, and a COOKIE answers it.
    have hlimit : cookieInitRateLimit < (self.peer.gate.counted env.now).initRxCount.toNat := by
      rw [← hgate]
      exact hcount
    have hover := CookieGate.credit_over (hrequired.symm.trans (Bool.eq_false_iff.2 hnot)) hlimit
    refine (wp_bind _ _).2 (wp_mono (hmakes cookieSecret source counted) (fun cookie s hs => ?_)
      (fun e s hs => ?_) fun _ => hpanic)
    · obtain ⟨hmade, rfl⟩ := hs
      refine (wp_bind _ _).2 (wp_sendCookieReply (fun buf htype hlength => ?_)
        fun e => herr _ counted hcounted)
      exact hhandled _ (Paid.of_cookie hmade htype hlength hover)
    · rw [show s = counted from hs]
      exact herr e counted hcounted

/-! ## Answers -/

omit [Profile] in
theorem sendTo_spends {dest : SocketAddr} {buf : Bytes} (h : Plain size (dest, buf)) :
    Spends sent 1 (Plain size) (sendTo env dest buf) := by
  intro self
  rw [wp_sendTo]
  exact ⟨fun _ => Adds.snoc h, fun e _ => Adds.refl 1 self.sent⟩

/-- A responder sends its RESPONSE and nothing else. -/
theorem respond_spends {responder : Responder} {bytes : Arr responseSize → Bytes}
    {frame : Arr responseSize → Method Session TunnelError Bytes}
    (hframe : ∀ response, frame response = pure (bytes response))
    (hplain : ∀ response : Arr responseSize, response.val[0]? = some messageTypeResponse →
      Plain size (source, bytes response)) :
    Spends sent 1 (Plain size) (respond keypair env rng source pkt responder frame) := by
  unfold respond
  refine spends_get_bind fun self => spends_on_bind (Responder.wp_consumeInit
    (fun pub reply state response _ hresponse => ?_) (fun e state _ => ?_) fun _ => trivial)
  · have hhead : response.val[0]? = some messageTypeResponse := by
      rw [hresponse]
      rfl
    refine Keeps.bind_spends (fun _ => rfl) fun _ => ?_
    simp only
    rw [hframe, pure_bind]
    refine (sendTo_spends (hplain response hhead)).bind_keeps fun _ => ?_
    refine (keeps_slice _ _ _).bind fun id => (keeps_readU32 id).bind fun sid => ?_
    refine Keeps.bind (fun _ => rfl) fun _ => (keeps_lift _ _).bind fun transport => ?_
    exact fun _ => rfl
  · refine Keeps.bind_spends (fun _ => rfl) fun _ => Keeps.spends ?_ 1
    exact (keeps_lift _ _).bind fun _ => fun _ => rfl

omit [Profile] [Primitives] in
/-- A RESPONSE is shorter than the INIT that it answers. -/
theorem plain_response (dest : SocketAddr) {response : Arr responseSize}
    (hlen : initSize ≤ pkt.length) (hhead : response.val[0]? = some messageTypeResponse) :
    Plain pkt.length (dest, response.val) := by
  have hshort : responseSize ≤ initSize := by decide
  refine ⟨fun hcookie => ?_, (response.length_eq.trans_le hshort).trans hlen⟩
  rw [IsCookie, hhead] at hcookie
  exact absurd hcookie (by decide)

theorem respondRekey_spends (hlen : initSize ≤ pkt.length) (peerSenderId : UInt32)
    (rehandshake : Option Rehandshake) : Spends sent 1 (Plain pkt.length)
      (respondRekey keypair env rng source pkt peerSenderId rehandshake) := by
  intro self
  refine wp_respondRekey (Adds.refl _ _) (fun _ _ => Adds.refl _ _)
    (fun _ _ _ _ _ _ _ => Adds.refl _ _) (fun _ _ _ => Adds.refl _ _)
    (fun responder pub reply state inner response _ _ hresponse _ _ => ?_) fun _ _ _ => trivial
  have hhead : response.val[0]? = some messageTypeResponse := by
    rw [hresponse]
    rfl
  exact Adds.snoc (plain_response _ hlen hhead)

theorem handleInit_spends :
    Spends sent 1 (Plain pkt.length) (handleInit keypair env rng source pkt) := by
  unfold handleInit
  refine Spends.ite (fun _ => spends_fail _ _) fun hlen => (keeps_slice _ _ _).bind_spends fun id =>
    (keeps_readU32 id).bind_spends fun sid => spends_get_bind fun self => ?_
  have hlen : initSize ≤ pkt.length := not_lt.1 hlen
  cases self.peer.state with
  | ready transport sid' rehandshake => exact respondRekey_spends hlen sid rehandshake
  | handshakingAsResponder responder =>
      exact respond_spends (fun response => rfl) fun response hhead =>
        plain_response _ hlen hhead
  | init => exact spends_pure _ _
  | handshakingAsInitiator initiator => exact spends_pure _ _

/-- The RESPONSE to a relayed INIT is wrapped like the INIT was. -/
theorem handleInitViaRelay_spends : Spends sent 1 (Plain (relayHeaderSize + pkt.length))
    (handleInitViaRelay keypair env rng source pkt) := by
  unfold handleInitViaRelay
  refine Spends.ite (fun _ => spends_fail _ _) fun hlen => spends_get_bind fun self => ?_
  have hlen : initSize ≤ pkt.length := not_lt.1 hlen
  cases self.peer.state with
  | handshakingAsResponder responder =>
      refine respond_spends (fun response => wrapRelay_eq _ _ _) fun response hhead => ?_
      have hplain := (plain_response source hlen hhead).2
      refine ⟨fun hcookie => ?_, ?_⟩
      · exact absurd (Option.some.inj hcookie) (by decide)
      · rw [TunnelManager.relayFrame_length]
        exact Nat.add_le_add_left hplain _
  | init => exact spends_pure _ _
  | handshakingAsInitiator initiator => exact spends_pure _ _
  | ready transport sid rehandshake => exact spends_pure _ _

/-- What a handler of a session sends is paid for with the credit of its gate. -/
def Settles (made : Prop) (size counted : ℕ) {α : Type} (handler : Method Session TunnelError α) :
    Prop :=
  ∀ self, handler.wp
    ⟨fun _ s => Paid made size counted self.sent s.sent self.peer.gate.credit s.peer.gate.credit,
      fun _ s => Paid made size counted self.sent s.sent self.peer.gate.credit s.peer.gate.credit,
      True⟩ self

omit [Profile] in
/-- A handler that leaves the gate alone and sends one datagram. -/
theorem settles_of_spends {α : Type} {handler : Method Session TunnelError α}
    (hspends : Spends sent 1 (Plain size) handler) (hkeeps : KeepsSettings handler) :
    Settles made size 0 handler := by
  intro self
  refine wp_mono (wp_and (hspends self) (hkeeps.gate self)) (fun _ s hs => ?_) (fun _ s hs => ?_)
    fun _ => trivial
  · exact Paid.of_adds hs.1 (congrArg CookieGate.credit hs.2).le
  · exact Paid.of_adds hs.1 (congrArg CookieGate.credit hs.2).le

/-- A direct INIT is answered with a COOKIE or with a RESPONSE. -/
theorem deliverWith_settles (hmakes : generate.Makes made) (cookieSecret : Key) :
    Settles made pkt.length 1
      (deliverWith generate keypair cookieSecret env rng source (.init pkt)) := by
  intro self
  refine (wp_bind _ _).2 (wp_checkInitCookieWith pkt.length hmakes
    (fun s hsent hcredit => ?_) (fun s hpaid => hpaid) (fun e s hpaid => hpaid) trivial)
  refine wp_mono (wp_and (handleInit_spends s) (keepsFixed_handleInit.settings.gate s))
    (fun _ t ht => ?_) (fun _ t ht => ?_) fun _ => trivial
  · exact Paid.of_adds (hsent ▸ ht.1) ((congrArg CookieGate.credit ht.2).le.trans hcredit)
  · exact Paid.of_adds (hsent ▸ ht.1) ((congrArg CookieGate.credit ht.2).le.trans hcredit)

end Session

/-! ## A datagram -/

namespace TunnelManager

variable {self self' : TunnelManager} {env : Env} {source : SocketAddr} {pkt : Bytes} {idx : ℕ}
  {size counted : ℕ} {made : Prop} {generate : CookieGenerator} {α β : Type}

/-- The credit of all gates. -/
def credits (self : TunnelManager) : ℕ := (self.gates.map CookieGate.credit).sum

/-- What a call sends is paid for with the credit of the gates. -/
def Pays (made : Prop) (size counted : ℕ) (p : Method TunnelManager TunnelError α) : Prop :=
  ∀ self, p.wp ⟨fun _ s => Paid made size counted self.sent s.sent self.credits s.credits,
    fun _ s => Paid made size counted self.sent s.sent self.credits s.credits, True⟩ self

omit [Profile] in
theorem pays_of_spends {p : Method TunnelManager TunnelError α}
    (hspends : Spends sent 1 (Plain size) p) (hgates : Keeps gates p) : Pays made size counted p := by
  intro self
  have hcredit (s : TunnelManager) (hs : s.gates = self.gates) :
      s.credits ≤ self.credits + counted := by
    rw [credits, hs]
    exact Nat.le_add_right _ counted
  exact wp_mono (wp_and (hspends self) (hgates self))
    (fun _ s hs => Paid.of_adds hs.1 (hcredit s hs.2))
    (fun _ s hs => Paid.of_adds hs.1 (hcredit s hs.2)) fun _ => trivial

omit [Profile] in
theorem pays_of_keeps {p : Method TunnelManager TunnelError α} (hsent : Keeps sent p)
    (hgates : Keeps gates p) : Pays made size counted p :=
  pays_of_spends (hsent.spends 1) hgates

omit [Profile] in
/-- A call that sends nothing, before one that pays. -/
theorem Pays.after {p : Method TunnelManager TunnelError α}
    {f : α → Method TunnelManager TunnelError β} (hf : ∀ a, Pays made size counted (f a))
    (hsent : Keeps sent p) (hgates : Keeps gates p) : Pays made size counted (p >>= f) := by
  intro self
  have hcredit (s : TunnelManager) (hs : s.gates = self.gates) : s.credits = self.credits := by
    rw [credits, hs]
    rfl
  refine (wp_bind _ _).2 (wp_mono (wp_and (hsent self) (hgates self)) (fun a s hs => ?_)
    (fun e s hs => ?_) fun _ => trivial)
  · have hpays := hf a s
    rwa [show s.sent = self.sent from hs.1, hcredit s hs.2] at hpays
  · exact Paid.of_eq hs.1 (by rw [hcredit s hs.2]; exact Nat.le_add_right _ _)

omit [Profile] in
theorem pays_get_bind {f : TunnelManager → Method TunnelManager TunnelError α}
    (h : ∀ s, Pays made size counted (f s)) : Pays made size counted (get >>= f) := fun s => h s s

omit [Profile] in
theorem Pays.ite {c : Prop} [Decidable c] {p q : Method TunnelManager TunnelError α}
    (hp : c → Pays made size counted p) (hq : ¬ c → Pays made size counted q) :
    Pays made size counted (if c then p else q) := by
  split
  · exact hp ‹_›
  · exact hq ‹_›

omit [Profile] in
/-- Only the credit of the session at the index is touched by its handler. -/
theorem atPeer_pays {handler : Method Session TunnelError α}
    (h : Session.Settles made size counted handler) (idx : ℕ) :
    Pays made size counted (atPeer idx handler) := by
  intro self
  cases hpeer : self.peers[idx]? with
  | none =>
      rw [wp_def, atPeer, bind_ok (get_apply self), hpeer]
      trivial
  | some peer =>
      have hpost := h ⟨peer, self.transport, self.device⟩
      have hset (peer' : PeerSession) :
          (((self.peers.set idx peer').map PeerSession.gate).map CookieGate.credit).sum +
            peer.gate.credit = self.credits + peer'.gate.credit := by
        rw [List.map_set]
        exact sum_map_set (getElem?_gates hpeer)
      rw [wp_def, atPeer_eq hpeer]
      rw [wp_def] at hpost
      cases hrun : handler ⟨peer, self.transport, self.device⟩ with
      | ok a s =>
          rw [hrun] at hpost
          exact hpost.part (hset s.peer)
      | err e s =>
          rw [hrun] at hpost
          exact hpost.part (hset s.peer)
      | panic => trivial

theorem gateInitWith_pays (hmakes : generate.Makes made) (idx : ℕ) :
    Pays made pkt.length 1 (gateInitWith generate env idx source pkt) := by
  intro self
  cases hpeer : self.peers[idx]? with
  | none =>
      rw [wp_def, gateInitWith, bind_ok (get_apply self), bind_eq, atPeer, bind_ok (get_apply self),
        hpeer]
      trivial
  | some peer =>
      rw [wp_def, gateInitWith_eq generate hpeer]
      exact atPeer_pays (Session.deliverWith_settles hmakes _) idx self

omit [Profile] in
theorem keepsGates_modifyAt (idx : ℕ) {f : PeerSession → PeerSession}
    (hf : ∀ peer, (f peer).gate = peer.gate) :
    Keeps gates (atPeer idx (Session.modifyPeer f)) :=
  keeps_atPeer (f := PeerSession.gate) idx (keeps_modify fun self : Session => hf self.peer)
    fun _ _ _ _ hmap => hmap

omit [Profile] in
theorem keepsGates_refreshEndpoint (idx : ℕ) : Keeps gates (refreshEndpoint env idx source) := by
  refine keeps_get_bind fun self => (keeps_unwrap _).bind fun peer =>
    Keeps.ite (fun _ => ?_) fun _ => keepsGates_modifyAt _ fun _ => rfl
  refine Keeps.bind (fun _ => rfl) fun _ => Keeps.bind (keepsGates_modifyAt _ ?_) fun _ => ?_
  · exact fun _ => rfl
  · exact keepsGates_modifyAt _ fun _ => rfl

omit [Profile] in
/-- A handler that sends nothing and does not touch the gate. -/
theorem atPeer_quiet {handler : Method Session TunnelError α}
    (hsent : Keeps Session.sent handler) (hkeeps : Session.KeepsSettings handler) (idx : ℕ) :
    Pays made size 0 (atPeer idx handler) :=
  atPeer_pays (Session.settles_of_spends (hsent.spends 1) hkeeps) idx

omit [Profile] in
theorem Pays.mono {p : Method TunnelManager TunnelError α} (h : Pays made size 0 p)
    {size' counted' : ℕ} (hsize : size ≤ size') : Pays made size' counted' p := by
  intro self
  have hmono {s : TunnelManager}
      (hs : Paid made size 0 self.sent s.sent self.credits s.credits) :
      Paid made size' counted' self.sent s.sent self.credits s.credits := by
    obtain ⟨added, hadded, hlength, hbytes, hcredit, hmade⟩ := hs
    exact ⟨added, hadded, hlength, by omega, by omega, hmade⟩
  exact wp_mono (h self) (fun _ _ => hmono) (fun _ _ => hmono) id

theorem handleDirectWith_pays (hmakes : generate.Makes made) (idx : ℕ) {msgType : UInt8}
    (hcounted : msgType = messageTypeInit → counted = 1) :
    Pays made pkt.length counted (handleDirectWith generate env idx source msgType pkt) := by
  refine Pays.ite (fun htype => hcounted htype ▸ gateInitWith_pays hmakes idx) fun _ =>
    Pays.mono ?_ le_rfl
  exact Pays.ite
    (fun _ => atPeer_quiet Session.keepsSent_handleResponse
      Session.keepsFixed_handleResponse.settings _) fun _ => Pays.ite
    (fun _ => atPeer_quiet Session.keepsSent_handleTransport
      Session.keepsFixed_handleTransport.settings _) fun _ => Pays.ite
    (fun _ => atPeer_quiet Session.keepsSent_handleCookie Session.keepsSettings_handleCookie _)
    fun _ => pays_of_keeps (keeps_pure _) (keeps_pure _)

theorem handleRelayed_pays (idx : ℕ) (inner : Bytes) :
    Pays made (relayHeaderSize + inner.length) 0 (handleRelayed env idx source inner) := by
  refine pays_get_bind fun self => Pays.ite
    (fun _ => atPeer_quiet Session.keepsSent_handleRelayedTransport
      Session.keepsFixed_handleRelayedTransport.settings _) fun _ => Pays.ite
    (fun _ => atPeer_pays (Session.settles_of_spends Session.handleInitViaRelay_spends
      Session.keepsFixed_handleInitViaRelay.settings) _) fun _ => Pays.ite
    (fun _ => atPeer_quiet Session.keepsSent_handleResponse
      Session.keepsFixed_handleResponse.settings _) fun _ => ?_
  exact pays_of_keeps (keeps_fail _) (keeps_fail _)

omit [Profile] in
/-- A RELAY packet is sent on as it came. -/
theorem forwardRelay_pays (htype : pkt[0]? = some messageTypeRelay) (destIp : Ipv4Addr) :
    Pays made pkt.length 0 (forwardRelay env destIp pkt) := by
  refine pays_of_spends (spends_get_bind fun self => ?_) (keeps_get_bind fun self => ?_)
  · cases self.peers.find? fun peer => peer.config.peerIp = destIp with
    | none => exact spends_fail _ _
    | some dest =>
        intro s
        simp only
        rw [sendTo, wp_zoom, UdpTransport.sendTo]
        cases env.sendError _ pkt with
        | some e => exact Adds.refl _ _
        | none =>
            refine Adds.snoc ⟨fun hcookie => ?_, le_rfl⟩
            rw [IsCookie, htype] at hcookie
            exact absurd hcookie (by decide)
  · cases self.peers.find? fun peer => peer.config.peerIp = destIp with
    | none => exact keeps_fail _
    | some dest => exact keeps_zoom _ fun _ _ => rfl

theorem handleRelay_pays (htype : pkt[0]? = some messageTypeRelay) :
    Pays made pkt.length 0 (handleRelay env source pkt) := by
  refine Pays.ite (fun _ => pays_of_keeps (keeps_fail _) (keeps_fail _)) fun hlen => ?_
  have hlen : relayHeaderSize ≤ pkt.length := not_lt.1 hlen
  have hinner : (sub pkt relayHeaderSize pkt.length).length = pkt.length - relayHeaderSize :=
    sub_length le_rfl
  refine Pays.after (fun header => ?_) (keeps_slice _ _ _) (keeps_slice _ _ _)
  refine Pays.after (fun fromPub => ?_) (keeps_expectArr _ _) (keeps_expectArr _ _)
  refine Pays.after (fun a => ?_) (keeps_index _ _) (keeps_index _ _)
  refine Pays.after (fun b => ?_) (keeps_index _ _) (keeps_index _ _)
  refine Pays.after (fun c => ?_) (keeps_index _ _) (keeps_index _ _)
  refine Pays.after (fun d => ?_) (keeps_index _ _) (keeps_index _ _)
  rw [slice_eq hlen le_rfl, pure_bind]
  refine pays_get_bind fun self => Pays.ite (fun _ => ?_) fun _ => forwardRelay_pays htype _
  cases self.pubkeyToPeer fromPub with
  | none => exact pays_of_keeps (keeps_fail _) (keeps_fail _)
  | some idx => exact (handleRelayed_pays idx _).mono (by rw [hinner]; omega)

/-- Everything that a datagram makes the manager send is paid for. -/
theorem handleIncomingWith_pays (hmakes : generate.Makes made)
    (hcounted : pkt[0]? = some messageTypeInit → counted = 1) :
    Pays made pkt.length counted (handleIncomingWith generate env source pkt) := by
  refine Pays.ite (fun _ => pays_of_keeps (keeps_pure _) (keeps_pure _)) fun _ => ?_
  rcases htype : pkt[0]? with _ | msgType
  · intro self
    rw [index, htype]
    trivial
  rw [index_eq htype, pure_bind]
  refine pays_get_bind fun self => Pays.ite (fun hrelay => ?_) fun _ => ?_
  · subst hrelay
    refine Pays.mono (Pays.ite (fun _ => pays_of_keeps (keeps_pure _) (keeps_pure _)) fun _ => ?_)
      le_rfl
    refine Pays.after (fun header => ?_) (keeps_slice _ _ _) (keeps_slice _ _ _)
    refine Pays.after (fun fromPub => ?_) (keeps_expectArr _ _) (keeps_expectArr _ _)
    cases self.pubkeyToPeer fromPub with
    | none => exact pays_of_keeps (keeps_pure _) (keeps_pure _)
    | some idx =>
        have hlearn (self : TunnelManager) :
            (learnEndpoint source fromPub self).transport = self.transport ∧
              (learnEndpoint source fromPub self).peers = self.peers := by
          unfold learnEndpoint
          split <;> exact ⟨rfl, rfl⟩
        refine Pays.after (fun _ => ?_) (keeps_modify fun self => ?_) (keeps_modify fun self => ?_)
        · exact Pays.after (fun _ => handleRelay_pays htype) (keepsSent_modifyAt _ _)
            (keepsGates_modifyAt _ fun _ => rfl)
        · exact congrArg UdpTransport.sent (hlearn self).1
        · exact congrArg (List.map PeerSession.gate) (hlearn self).2
  · have hinit : msgType = messageTypeInit → counted = 1 := fun h => hcounted (h ▸ htype)
    cases self.endpointToPeer source with
    | some idx =>
        exact Pays.after (fun _ => handleDirectWith_pays hmakes idx hinit)
          (keepsSent_refreshEndpoint idx) (keepsGates_refreshEndpoint idx)
    | none =>
        refine Pays.ite (fun hdirect => ?_) fun _ => pays_of_keeps (keeps_pure _) (keeps_pure _)
        refine Pays.after (fun found => ?_) ?_ ?_
        · cases found with
          | none => exact pays_of_keeps (keeps_pure _) (keeps_pure _)
          | some idx =>
              rw [hinit hdirect.1]
              exact Pays.after (fun _ => gateInitWith_pays hmakes idx)
                (keepsSent_refreshEndpoint idx) (keepsGates_refreshEndpoint idx)
        · exact keeps_get_bind fun _ => (keeps_slice _ _ _).bind fun _ =>
            (keeps_slice _ _ _).bind fun _ => keeps_pure _
        · exact keeps_get_bind fun _ => (keeps_slice _ _ _).bind fun _ =>
            (keeps_slice _ _ _).bind fun _ => keeps_pure _

/-! ## Runs -/

/-- The datagram that comes in with an event. -/
def Event.datagram : Event → Option Bytes
  | incoming _ _ pkt => some pkt
  | _ => none

/-- The datagrams that come in during a run. -/
def received (events : List Event) : List Bytes := events.filterMap Event.datagram

/-- The INITs among them. -/
def receivedInits (events : List Event) : ℕ :=
  (received events).countP (·[0]? = some messageTypeInit)

/-- The datagrams that a run sends because of the ones that come in. -/
def replies (generate : CookieGenerator) :
    TunnelManager → List Event → List (SocketAddr × Bytes)
  | _, [] => []
  | self, event :: events =>
      match fireWith generate self event with
      | none => []
      | some next =>
          (if event.datagram.isSome then next.sent.drop self.sent.length else []) ++
            replies generate next events

/-- One datagram. -/
theorem fireWith_paid (hmakes : generate.Makes made)
    (h : fireWith generate self (.incoming env source pkt) = some self') :
    Paid made pkt.length (if pkt[0]? = some messageTypeInit then 1 else 0) self.sent self'.sent
      self.credits self'.credits :=
  wp_state (P := fun s => Paid made pkt.length (if pkt[0]? = some messageTypeInit then 1 else 0)
    self.sent s.sent self.credits s.credits)
    (handleIncomingWith_pays hmakes (fun hinit => if_pos hinit) self) h

/-- What the manager does on its own gives no credit. -/
theorem fireWith_credits {event : Event} (hquiet : event.datagram = none)
    (h : fireWith generate self event = some self') : self'.credits = self.credits := by
  have hkept (hdoors : self'.doors = self.doors) : self'.credits = self.credits := by
    have hgates : self'.gates = self.gates := congrArg Prod.fst hdoors
    rw [credits, hgates]
    rfl
  cases event with
  | incoming env source pkt => cases hquiet
  | addPeer env config =>
      obtain rfl | ⟨peer, hnew, rfl⟩ := addPeer_cases h
      · rfl
      · rw [credits, gates_insertSession, newSession_gate hnew, List.map_append, List.sum_append]
        rfl
  | retryInit env idx =>
      have hkeeps : Keeps doors (TunnelManager.retryInit env idx) :=
        keeps_get_bind fun _ => keepsDoors_atPeer Session.keepsSettings_retryInit idx
      exact hkept (hkeeps.state h)
  | dispatchTunPacket env pkt => exact hkept ((steady_doors.dispatchTunPacket pkt).state h)
  | maintenance env => exact hkept (steady_doors.maintenance.state h)

omit [Profile] [Primitives] in
theorem bytesIn_append (first second : List (SocketAddr × Bytes)) :
    bytesIn (first ++ second) = bytesIn first + bytesIn second := by
  rw [bytesIn, List.map_append, List.sum_append]
  rfl

omit [Profile] [Primitives] in
theorem cookiesIn_append (first second : List (SocketAddr × Bytes)) :
    cookiesIn (first ++ second) = cookiesIn first + cookiesIn second :=
  List.countP_append

/-- In every run the replies are no more and, but for the COOKIEs, no longer than what came in, and
six INITs pay for a COOKIE. -/
theorem replies_paid (hmakes : generate.Makes made) {events : List Event}
    (hrun : exec (fireWith generate) self events = some self') :
    (replies generate self events).length ≤ (received events).length ∧
      bytesIn (replies generate self events) ≤ ((received events).map List.length).sum +
        cookieSize * cookiesIn (replies generate self events) ∧
      (cookieInitRateLimit + 1) * cookiesIn (replies generate self events) + self'.credits ≤
        self.credits + receivedInits events ∧
      (0 < cookiesIn (replies generate self events) → made) := by
  induction events generalizing self with
  | nil =>
      cases hrun
      exact ⟨le_rfl, le_rfl, (Nat.zero_add _).le, fun hpos => absurd hpos (Nat.lt_irrefl 0)⟩
  | cons event events ih =>
      obtain ⟨next, hfire, hrest⟩ := exec_cons_inv hrun
      obtain ⟨hlength, hbytes, hcredit, hmade⟩ := ih hrest
      cases hdatagram : event.datagram with
      | none =>
          have hreplies : replies generate self (event :: events) =
              replies generate next events := by
            simp only [replies, hfire, hdatagram]
            rfl
          have hreceived : received (event :: events) = received events := by
            rw [received, List.filterMap_cons, hdatagram]
            rfl
          rw [hreplies, receivedInits, hreceived]
          exact ⟨hlength, hbytes, fireWith_credits hdatagram hfire ▸ hcredit, hmade⟩
      | some pkt =>
          have hreceived : received (event :: events) = pkt :: received events := by
            rw [received, List.filterMap_cons, hdatagram]
            rfl
          obtain ⟨env, source, rfl⟩ : ∃ env source, event = .incoming env source pkt := by
            cases event with
            | incoming env source other =>
                cases hdatagram
                exact ⟨env, source, rfl⟩
            | _ => cases hdatagram
          obtain ⟨added, hadded, hone, hsize, hpaid, hcookie⟩ := fireWith_paid hmakes hfire
          have hreplies : replies generate self (.incoming env source pkt :: events) =
              added ++ replies generate next events := by
            simp only [replies, hfire]
            rw [if_pos (show (Event.incoming env source pkt).datagram.isSome = true from rfl), hadded,
              List.drop_left]
          rw [hreplies, receivedInits, hreceived, List.length_append, List.length_cons,
            bytesIn_append, cookiesIn_append, List.map_cons, List.sum_cons, List.countP_cons]
          simp only [decide_eq_true_eq]
          rw [receivedInits] at hcredit
          refine ⟨by omega, ?_, ?_, fun hpos => ?_⟩
          · rw [Nat.mul_add]
            omega
          · rw [Nat.mul_add]
            omega
          · rcases Nat.add_pos_iff_pos_or_pos.1 hpos with h | h
            · exact hcookie h
            · exact hmade h

/-- The manager sends no more because of what comes in than what came in: a run sends at most one
datagram for each that it receives, and in all no more bytes. -/
theorem no_amplification {events : List Event} (hrun : exec fire self events = some self') :
    (replies Session.generateCookie self events).length ≤ (received events).length ∧
      bytesIn (replies Session.generateCookie self events) ≤
        ((received events).map List.length).sum := by
  have hfire : fireWith Session.generateCookie = fire :=
    funext fun self => funext fun event => fireWith_eq self event
  rw [← hfire] at hrun
  obtain ⟨hlength, hbytes, _, hmade⟩ :=
    replies_paid CookieGenerator.makes_generateCookie hrun
  have hnone : cookiesIn (replies Session.generateCookie self events) = 0 :=
    Nat.eq_zero_of_not_pos hmade
  rw [hnone, Nat.mul_zero, Nat.add_zero] at hbytes
  exact ⟨hlength, hbytes⟩

/-- A gate that makes cookies answers at most one of six INITs with one. Only these answers may be
longer than what came in. -/
theorem cookies_paid {config : ManagerConfig} {peerCfgs : List PeerConfig} {events : List Event}
    (cookie : Key → SocketAddr → Arr 16) (hnew : new env config peerCfgs = .ok self)
    (hrun : exec (fireWith (.returning cookie)) self events = some self') :
    bytesIn (replies (.returning cookie) self events) ≤ ((received events).map List.length).sum +
        cookieSize * cookiesIn (replies (.returning cookie) self events) ∧
      (cookieInitRateLimit + 1) * cookiesIn (replies (.returning cookie) self events) ≤
        receivedInits events := by
  have hcredits : self.credits = 0 := by
    refine List.sum_eq_zero fun credit hcredit => ?_
    obtain ⟨gate, hgate, rfl⟩ := List.mem_map.1 hcredit
    rw [gates_new hnew gate hgate]
    rfl
  obtain ⟨_, hbytes, hcredit, _⟩ := replies_paid (CookieGenerator.makes_returning cookie) hrun
  rw [hcredits] at hcredit
  exact ⟨hbytes, by omega⟩

end TunnelManager

end General

section Symbolic

open Symbolic TunnelManager

attribute [local instance] Symbolic.primitives Symbolic.release

/-- The first INIT of node 1, twice. -/
def repeatedInit : List Event :=
  List.replicate 2 (.incoming (quietEnv 0 ⟨1000, 0⟩ 8) (address 1) (initFor 1 2 ⟨1000, 0⟩ 7))

namespace TunnelManager

/-- Node 2 answers both INITs with a RESPONSE, which is shorter. -/
theorem repeated_init_answered :
    ∃ start self, new (quietEnv 0 ⟨1000, 0⟩ 8) (nodeConfig 2) [sessionWith 1 false] = .ok start ∧
      exec fire start repeatedInit = some self ∧
      (replies Session.generateCookie start repeatedInit).length = 2 ∧
      bytesIn (replies Session.generateCookie start repeatedInit) ≤
        ((received repeatedInit).map List.length).sum := by
  have hrun : (new (quietEnv 0 ⟨1000, 0⟩ 8) (nodeConfig 2) [sessionWith 1 false]).toOption.any
      (fun start => (exec fire start repeatedInit).isSome &&
        decide ((replies Session.generateCookie start repeatedInit).length = 2)) = true := by
    decide +kernel
  obtain ⟨start, hnew, hcheck⟩ := of_new hrun
  obtain ⟨hends, hreplies⟩ := Bool.and_eq_true_iff.1 hcheck
  obtain ⟨self, hself⟩ := Option.isSome_iff_exists.1 hends
  exact ⟨start, self, hnew, hself, of_decide_eq_true hreplies, (no_amplification hself).2⟩

/-- The sixth INIT of a flood is answered with a COOKIE. -/
theorem flood_answered_with_cookie :
    ∃ start self, new (quietEnv 0 ⟨1000, 0⟩ 7) (nodeConfig 1) [sessionWith 2 false] = .ok start ∧
      exec (fireWith (.returning plainCookie)) start directFlood = some self ∧
      cookiesIn (replies (.returning plainCookie) start directFlood) = 1 ∧
      (cookieInitRateLimit + 1) * cookiesIn (replies (.returning plainCookie) start directFlood) ≤
        receivedInits directFlood := by
  have hrun : (new (quietEnv 0 ⟨1000, 0⟩ 7) (nodeConfig 1) [sessionWith 2 false]).toOption.any
      (fun start => (exec (fireWith (.returning plainCookie)) start directFlood).isSome &&
        decide (cookiesIn (replies (.returning plainCookie) start directFlood) = 1)) = true := by
    decide +kernel
  obtain ⟨start, hnew, hcheck⟩ := of_new hrun
  obtain ⟨hends, hcookies⟩ := Bool.and_eq_true_iff.1 hcheck
  obtain ⟨self, hself⟩ := Option.isSome_iff_exists.1 hends
  exact ⟨start, self, hnew, hself, of_decide_eq_true hcookies,
    (cookies_paid plainCookie hnew hself).2⟩

end TunnelManager

end Symbolic

end Naboscale
