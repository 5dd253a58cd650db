import Naboscale.Tunnel.Parties

/-!
# Whose INIT it is

The mac1 of an INIT is made with the public key of the node that the INIT is for, and
`identify_initiator_by_mac1` compares it with the keys of the peers. From a source that is not an
endpoint, an INIT for this node is therefore nobody's, and an INIT for a peer is taken for one that
the peer made.
-/

namespace Naboscale

open Rust

namespace TunnelManager

section General

/-- Tests that agree on a list find the same. -/
theorem findIdx?_congr {α : Type} {p q : α → Bool} {l : List α} (h : ∀ a ∈ l, p a = q a) :
    l.findIdx? p = l.findIdx? q := by
  induction l with
  | nil => rfl
  | cons a l ih =>
      rw [List.findIdx?_cons, List.findIdx?_cons, h a (List.mem_cons_self ..),
        ih fun b hb => h b (List.mem_cons_of_mem _ hb)]

variable [Profile] [Primitives]

/-- Among the keys of the peers, no other key than the one that an INIT was made for gives its
mac1. -/
def Mac1Apart (self : TunnelManager) (responderPub : Key) (initPkt : Bytes) : Prop :=
  ∀ peer ∈ self.peers,
    computeMac1 (mac1Key peer.config.peerPub) (sub initPkt 0 mac1OffsetInit) =
      computeMac1 (mac1Key responderPub) (sub initPkt 0 mac1OffsetInit) →
    peer.config.peerPub = responderPub

/-- The INIT is handled with the session at the index, and its source becomes the endpoint of that
session's peer. -/
structure HandledBy (manager : TunnelManager) (env : Env) (source : SocketAddr) (pkt : Bytes)
    (idx : ℕ) : Prop where
  routed : manager.route source pkt = some (idx, .init pkt)
  learned : ∀ after, (handleIncoming env source pkt manager).state? = some after →
    after.endpointToPeer source = some idx ∧
      ∃ peer, after.peers[idx]? = some peer ∧ peer.config.peerEndpoint = source

/-- An INIT of the initiator reaches the session of its author if it is for this node, and it
reaches no other session. -/
def Attributes (self : TunnelManager) (env : Env) (source : SocketAddr) (author responderPub : Key)
    (pkt : Bytes) : Prop :=
  (responderPub = self.config.localKeypair.public →
    ∀ idx peer, self.peers[idx]? = some peer → peer.config.peerPub = author →
      self.HandledBy env source pkt idx) ∧
  ∀ idx, self.route source pkt = some (idx, .init pkt) →
    ∃ peer, self.peers[idx]? = some peer ∧ peer.config.peerPub = author

variable {self : TunnelManager} {env : Env} {source : SocketAddr} {initiator initiator' : Initiator}
  {rng : Ephemeral} {pkt : Arr initSize}

omit [Profile] in
/-- What an initiator writes is framed with the mac1 of the node that it is for. -/
theorem written_frame (h : Initiator.writeInit rng initiator = .ok pkt initiator') :
    ∃ senderId message : Bytes, senderId.length = 4 ∧ message.length = 108 ∧
      pkt.val = Initiator.frameInit senderId message initiator.responderPub := by
  have hwp : (Initiator.writeInit rng).wp ⟨fun out _ => ∃ senderId message : Bytes,
      senderId.length = 4 ∧ message.length = 108 ∧
        out.val = Initiator.frameInit senderId message initiator.responderPub,
      fun _ _ => True, True⟩ initiator :=
    Initiator.wp_writeInit
      (fun message _ _ _ hout => ⟨_, _, (toLe 4 _).property, message.property, hout⟩)
      (fun _ _ _ _ _ => trivial)
  rw [Method.wp_def, h] at hwp
  exact hwp

omit [Profile] in
/-- From an unknown source an INIT goes to the first peer with the key that it was made for. -/
theorem route_written (hunknown : self.endpointToPeer source = none)
    (h : Initiator.writeInit rng initiator = .ok pkt initiator')
    (hmac : self.Mac1Apart initiator.responderPub pkt.val) :
    self.route source pkt.val =
      (self.peers.findIdx? fun peer => peer.config.peerPub = initiator.responderPub).map
        fun idx => (idx, .init pkt.val) := by
  obtain ⟨senderId, message, hsid, hmessage, hframe⟩ := written_frame h
  have hlen : pkt.val.length = initSize := pkt.property
  have hbody : (Initiator.initBody senderId message).length = 132 := by
    simp [Initiator.initBody, hsid, hmessage]
  have hmaclen : (computeMac1 (mac1Key initiator.responderPub)
      (Initiator.initBody senderId message)).val.length = 16 := Arr.length_eq _
  have htype : pkt.val[0]? = some messageTypeInit := by
    rw [hframe, Initiator.frameInit, Initiator.initBody]
    rfl
  have hbefore : sub pkt.val 0 mac1OffsetInit = Initiator.initBody senderId message := by
    rw [hframe, Initiator.frameInit]
    have hsub := sub_append (p := []) (r := (computeMac1 (mac1Key initiator.responderPub)
      (Initiator.initBody senderId message)).val) rfl hbody
    rwa [List.nil_append] at hsub
  have hmac1 : sub pkt.val mac1OffsetInit (mac1OffsetInit + mac1Len) =
      (computeMac1 (mac1Key initiator.responderPub)
        (Initiator.initBody senderId message)).val := by
    rw [hframe, Initiator.frameInit]
    have hsub := sub_append (r := []) (a := 132) (b := 148) hbody hmaclen
    rwa [List.append_nil] at hsub
  have hinit : messageTypeInit = messageTypeInit ∧ initSize ≤ pkt.val.length := ⟨rfl, hlen.ge⟩
  rw [route_direct htype (by decide), hunknown]
  refine (if_pos hinit).trans (congrArg (Option.map _) (findIdx?_congr fun peer hpeer => ?_))
  rw [hmac1, hbefore, decide_eq_decide]
  have hapart := hmac peer hpeer
  rw [hbefore] at hapart
  exact ⟨fun heq => hapart (Subtype.ext heq), fun heq => by rw [heq]⟩

/-- From an unknown source, an INIT reaches the session of its author exactly if it need not: it is
not an INIT of a peer for this node, and not one for a peer that is not its author. -/
theorem attributes_iff
    (hlocal : ∀ peer ∈ self.peers, peer.config.peerPub ≠ self.config.localKeypair.public)
    (hunknown : self.endpointToPeer source = none)
    (h : Initiator.writeInit rng initiator = .ok pkt initiator')
    (hmac : self.Mac1Apart initiator.responderPub pkt.val) :
    self.Attributes env source initiator.localPub initiator.responderPub pkt.val ↔
      (initiator.responderPub = self.config.localKeypair.public →
        ∀ peer ∈ self.peers, peer.config.peerPub ≠ initiator.localPub) ∧
      ∀ peer ∈ self.peers, peer.config.peerPub = initiator.responderPub →
        initiator.responderPub = initiator.localPub := by
  have hroute := route_written hunknown h hmac
  constructor
  · rintro ⟨hreaches, honly⟩
    refine ⟨fun hhere peer hpeer hauthor => ?_, fun peer hpeer hkey => ?_⟩
    · -- Nobody has the key of this node.
      obtain ⟨idx, hidx⟩ := List.mem_iff_getElem?.1 hpeer
      have hrouted := (hreaches hhere idx peer hidx hauthor).routed
      rw [hroute] at hrouted
      obtain ⟨found, hfound, -⟩ := Option.map_eq_some_iff.1 hrouted
      obtain ⟨hlt, hkey, -⟩ := List.findIdx?_eq_some_iff_getElem.1 hfound
      exact hlocal _ (List.getElem_mem hlt) ((of_decide_eq_true hkey).trans hhere)
    · cases hfound : self.peers.findIdx? fun peer =>
          peer.config.peerPub = initiator.responderPub with
      | none =>
          have hnone := List.findIdx?_eq_none_iff.1 hfound peer hpeer
          exact absurd hkey (of_decide_eq_false hnone)
      | some idx =>
          obtain ⟨hlt, hfirst, -⟩ := List.findIdx?_eq_some_iff_getElem.1 hfound
          obtain ⟨taken, htaken, hauthor⟩ := honly idx (by rw [hroute, hfound]; rfl)
          rw [List.getElem?_eq_getElem hlt] at htaken
          cases htaken
          exact (of_decide_eq_true hfirst).symm.trans hauthor
  · rintro ⟨hnotHere, hapart⟩
    refine ⟨fun hhere idx peer hpeer hauthor => ?_, fun idx hrouted => ?_⟩
    · exact absurd hauthor (hnotHere hhere peer (List.mem_of_getElem? hpeer))
    · rw [hroute] at hrouted
      obtain ⟨found, hfound, hpair⟩ := Option.map_eq_some_iff.1 hrouted
      cases hpair
      obtain ⟨hlt, hkey, -⟩ := List.findIdx?_eq_some_iff_getElem.1 hfound
      refine ⟨_, List.getElem?_eq_getElem hlt, ?_⟩
      exact (of_decide_eq_true hkey).trans
        (hapart _ (List.getElem_mem hlt) (of_decide_eq_true hkey))

/-- An INIT for this node from an unknown source is dropped. -/
theorem init_for_here_dropped
    (hlocal : ∀ peer ∈ self.peers, peer.config.peerPub ≠ self.config.localKeypair.public)
    (hunknown : self.endpointToPeer source = none)
    (h : Initiator.writeInit rng initiator = .ok pkt initiator')
    (hmac : self.Mac1Apart initiator.responderPub pkt.val)
    (hhere : initiator.responderPub = self.config.localKeypair.public) :
    self.route source pkt.val = none ∧
      handleIncoming env source pkt.val self = .ok () self := by
  have hfound : self.peers.findIdx? (fun peer => peer.config.peerPub = initiator.responderPub) =
      none := by
    rw [List.findIdx?_eq_none_iff]
    intro peer hpeer
    exact decide_eq_false fun hkey => hlocal peer hpeer (hkey.trans hhere)
  have hroute := route_written hunknown h hmac
  rw [hfound, Option.map_none] at hroute
  obtain ⟨senderId, message, -, -, hframe⟩ := written_frame h
  have htype : pkt.val[0]? = some messageTypeInit := by
    rw [hframe, Initiator.frameInit, Initiator.initBody]
    rfl
  refine ⟨hroute, ?_⟩
  rw [route_direct htype (by decide), hunknown] at hroute
  rw [handleIncoming_direct htype (by decide), hunknown]
  simp only at hroute ⊢
  split
  · rename_i hinit
    rw [if_pos hinit, Option.map_eq_none_iff] at hroute
    rw [hroute]
    rfl
  · rfl

end General

section Symbolic

open Symbolic

attribute [local instance] Symbolic.primitives Symbolic.release

/-- Node 1 with the nodes 2 and 3 as peers, and an INIT of one node for another one. -/
def visited (author addressee : UInt8) : Option (TunnelManager × Initiator × Arr initSize) := do
  let start ← (new (quietEnv 0 ⟨1000, 0⟩ 8) (nodeConfig 1)
    [sessionWith 2 false, sessionWith 3 false]).toOption
  let initiator ← (Initiator.new (keypair author) (publicKey (key addressee)) (key 0) 1
    ⟨1000, 0⟩).toOption
  match Initiator.writeInit (7 : UInt8) initiator with
  | .ok pkt _ => some (start, initiator, pkt)
  | _ => none

/-- The keys are distinct, none is the local one, the source is unknown, and the mac1 is nobody
else's. -/
def Visited (self : TunnelManager) (initiator : Initiator) (pkt : Arr initSize) : Prop :=
  (self.peers.map fun peer => peer.config.peerPub).Nodup ∧
    (∀ peer ∈ self.peers, peer.config.peerPub ≠ self.config.localKeypair.public) ∧
    self.endpointToPeer (address 4) = none ∧
    ∀ peer ∈ self.peers,
      computeMac1 (mac1Key peer.config.peerPub) (sub pkt.val 0 mac1OffsetInit) =
        computeMac1 (mac1Key initiator.responderPub) (sub pkt.val 0 mac1OffsetInit) →
      peer.config.peerPub = initiator.responderPub

instance (self : TunnelManager) (initiator : Initiator) (pkt : Arr initSize) :
    Decidable (Visited self initiator pkt) :=
  inferInstanceAs (Decidable (_ ∧ _ ∧ _ ∧ _))

/-- What was evaluated holds of a manager and an INIT that an initiator wrote. -/
theorem of_visited (author addressee : UInt8)
    (check : TunnelManager → Initiator → Arr initSize → Bool)
    (h : (visited author addressee).any (fun v => check v.1 v.2.1 v.2.2) = true) :
    ∃ self initiator initiator' pkt,
      new (quietEnv 0 ⟨1000, 0⟩ 8) (nodeConfig 1) [sessionWith 2 false, sessionWith 3 false] =
        .ok self ∧
      Initiator.new (keypair author) (publicKey (key addressee)) (key 0) 1 ⟨1000, 0⟩ =
        .ok initiator ∧
      Initiator.writeInit (7 : UInt8) initiator = .ok pkt initiator' ∧
      check self initiator pkt = true := by
  obtain ⟨⟨self, initiator, pkt⟩, hvisited, hcheck⟩ := (Option.any_eq_true _ _).1 h
  simp only [visited, bind, Option.bind_eq_some_iff] at hvisited
  obtain ⟨start, hstart, made, hmade, hwritten⟩ := hvisited
  split at hwritten
  · rename_i out initiator' hwrite
    cases hwritten
    exact ⟨self, initiator, initiator', pkt, ok_of_toOption hstart, ok_of_toOption hmade, hwrite,
      hcheck⟩
  · cases hwritten

/-- What is evaluated: the INIT is for this node, and its author is the first peer. -/
def isForHere (self : TunnelManager) (initiator : Initiator) (pkt : Arr initSize) : Bool :=
  decide (Visited self initiator pkt ∧
    initiator.responderPub = self.config.localKeypair.public ∧
    (self.peers[0]?.any fun peer => decide (peer.config.peerPub = initiator.localPub)) = true)

/-- What is evaluated: the INIT is for the second peer, who did not write it. -/
def isForSecond (self : TunnelManager) (initiator : Initiator) (pkt : Arr initSize) : Bool :=
  decide (Visited self initiator pkt ∧
    (self.peers.findIdx? fun peer => peer.config.peerPub = initiator.responderPub) = some 1 ∧
    (self.peers[1]?.any fun peer => decide (peer.config.peerPub ≠ initiator.localPub)) = true)

/-- What is evaluated: the INIT is neither for this node nor for a peer. -/
def isForStranger (self : TunnelManager) (initiator : Initiator) (pkt : Arr initSize) : Bool :=
  decide (Visited self initiator pkt ∧
    initiator.responderPub ≠ self.config.localKeypair.public ∧
    ∀ peer ∈ self.peers, peer.config.peerPub ≠ initiator.responderPub)

/-- The INIT of the peer with node 2 for node 1 is dropped when node 2 has moved, and its INIT for
node 3 is attributed to node 3. -/
theorem moved_peer_unheard :
    (∃ self initiator initiator' pkt,
      Initiator.new (keypair 2) (publicKey (key 1)) (key 0) 1 ⟨1000, 0⟩ = .ok initiator ∧
      Initiator.writeInit (7 : UInt8) initiator = .ok pkt initiator' ∧
      Visited self initiator pkt ∧
      handleIncoming (quietEnv 0 ⟨1000, 0⟩ 8) (address 4) pkt.val self = .ok () self ∧
      ¬ self.Attributes (quietEnv 0 ⟨1000, 0⟩ 8) (address 4) initiator.localPub
        initiator.responderPub pkt.val) ∧
    ∃ self initiator initiator' pkt,
      Initiator.new (keypair 2) (publicKey (key 3)) (key 0) 1 ⟨1000, 0⟩ = .ok initiator ∧
      Initiator.writeInit (7 : UInt8) initiator = .ok pkt initiator' ∧
      Visited self initiator pkt ∧
      ¬ self.Attributes (quietEnv 0 ⟨1000, 0⟩ 8) (address 4) initiator.localPub
        initiator.responderPub pkt.val := by
  constructor
  · obtain ⟨self, initiator, initiator', pkt, -, hmade, hwrite, hcheck⟩ :=
      of_visited 2 1 isForHere (by decide +kernel)
    obtain ⟨hvisited, hhere, hauthor⟩ := of_decide_eq_true hcheck
    obtain ⟨peer, hpeer, hauthor⟩ := (Option.any_eq_true _ _).1 hauthor
    obtain ⟨hroute, hdropped⟩ := init_for_here_dropped hvisited.2.1 hvisited.2.2.1 hwrite
      hvisited.2.2.2 hhere
    refine ⟨self, initiator, initiator', pkt, hmade, hwrite, hvisited, hdropped, fun h => ?_⟩
    have hrouted := (h.1 hhere 0 peer hpeer (of_decide_eq_true hauthor)).routed
    exact Option.some_ne_none _ (hrouted.symm.trans hroute)
  · obtain ⟨self, initiator, initiator', pkt, -, hmade, hwrite, hcheck⟩ :=
      of_visited 2 3 isForSecond (by decide +kernel)
    obtain ⟨hvisited, hsecond, hother⟩ := of_decide_eq_true hcheck
    obtain ⟨peer, hpeer, hother⟩ := (Option.any_eq_true _ _).1 hother
    have hroute := route_written hvisited.2.2.1 hwrite hvisited.2.2.2
    rw [hsecond] at hroute
    refine ⟨self, initiator, initiator', pkt, hmade, hwrite, hvisited, fun h => ?_⟩
    obtain ⟨taken, htaken, hauthor⟩ := h.2 1 hroute
    cases hpeer.symm.trans htaken
    exact of_decide_eq_true hother hauthor

/-- An INIT between strangers is nobody's. -/
theorem strangers_unattributed :
    ∃ self initiator pkt, Visited self initiator pkt ∧
      self.Attributes (quietEnv 0 ⟨1000, 0⟩ 8) (address 4) initiator.localPub
        initiator.responderPub pkt.val := by
  obtain ⟨self, initiator, initiator', pkt, -, -, hwrite, hcheck⟩ :=
    of_visited 5 6 isForStranger (by decide +kernel)
  obtain ⟨hvisited, hhere, hapart⟩ := of_decide_eq_true hcheck
  refine ⟨self, initiator, pkt, hvisited,
    (attributes_iff hvisited.2.1 hvisited.2.2.1 hwrite hvisited.2.2.2).2 ⟨?_, ?_⟩⟩
  · exact fun h => absurd h hhere
  · exact fun peer hpeer hkey => absurd hkey (hapart peer hpeer)

end Symbolic

end TunnelManager

end Naboscale
