import Naboscale.Cli.Owners

/-!
# The ids of the sessions

At startup `cmd_up` numbers a session by the place of its peer in the whole listing, and later by
the number of sessions that there are. Entries that startup skips leave a gap between the two, and
discovery hands the numbers in the gap out again.
-/

namespace Naboscale

open Rust

/-! ## The id that a session waits for -/

section Manager

variable [Primitives]

/-- The receiver id that `consume_response` checks for, where the session waits for a RESPONSE. -/
def PeerState.receiverId : PeerState → Option UInt32
  | .handshakingAsInitiator initiator => some initiator.senderId
  | .ready _ _ rehandshake => rehandshake.map fun rekey => rekey.initiator.senderId
  | .init | .handshakingAsResponder _ => none

/-- The session waits for no other id than this one. -/
def PeerState.Expects (id : UInt32) (state : PeerState) : Prop := ∀ id' ∈ state.receiverId, id' = id

/-- A new initiator has the id that the session was given. -/
theorem StateChange.expects [Profile] {keypair : Keypair} {env : Env} {rng : Ephemeral}
    {config : PeerConfig} {message : Option Message} {state state' : PeerState}
    (h : StateChange keypair env rng config message state state')
    (hexpects : state.Expects config.localSenderId) : state'.Expects config.localSenderId := by
  cases h with
  | keep | use | replace | write | retryRekey => exact hexpects
  | startRekey hfresh =>
      obtain ⟨start, message, next, hnew, -, rfl⟩ := hfresh
      intro id hid
      cases hid
      exact (initiator_new_ok hnew).2.1
  | _ => exact nofun

namespace TunnelManager

variable {self : TunnelManager} {peer : PeerSession} {idx : ℕ}

/-- The ids that the sessions were given. -/
def senderIds (self : TunnelManager) : List UInt32 :=
  self.peers.map fun peer => peer.config.localSenderId

theorem senderIds_eq (self : TunnelManager) :
    self.senderIds = self.routes.configs.map PeerConfig.localSenderId := by
  rw [senderIds, routes, List.map_map]
  rfl

theorem kept_expects [Profile] :
    Kept (fun _ _ => True) fun _ peer => peer.state.Expects peer.config.localSenderId where
  made {keypair env config peer} hnew := by
    obtain ⟨rfl, _, _, ⟨initiator, hinitiator, hstate⟩ | ⟨_, _, hstate⟩⟩ := newSession_spec hnew
    · rw [hstate]
      intro id hid
      cases hid
      exact (initiator_new_ok hinitiator).2.1
    · rw [hstate]
      exact nofun
  given {self event idx message peer peer'} _ _ _ hchange hexpects := by
    have hid : peer'.config.localSenderId = peer.config.localSenderId := by rw [hchange.config]
    rw [hid]
    exact hchange.state.expects hexpects
  alone {keypair env rng peer peer'} hchange hexpects := by
    have hid : peer'.config.localSenderId = peer.config.localSenderId := by rw [hchange.config]
    rw [hid]
    exact hchange.state.expects hexpects

/-- In a reachable manager every session waits for the id that it was given. -/
theorem Reachable.expects [Profile] (h : self.Reachable) (hpeer : self.peers[idx]? = some peer) :
    peer.state.Expects peer.config.localSenderId := by
  obtain ⟨env, config, configs, start, hnew, events, hrun⟩ := h
  have hall : Transition.AllSteps TunnelManager.fire (fun _ _ => True) start events :=
    Transition.allSteps_of_forall (fun _ _ => trivial) start events
  exact (kept_expects.run hnew hall hrun).2 idx peer hpeer

/-- No two sessions wait for the same id. -/
def IdentifiesOne (self : TunnelManager) : Prop :=
  ∀ (i j : ℕ) (peer peer' : PeerSession) (id : UInt32), self.peers[i]? = some peer →
    self.peers[j]? = some peer' → peer.state.receiverId = some id →
    peer'.state.receiverId = some id → i = j

/-- With different ids for the sessions, a receiver id identifies one of them. -/
theorem Reachable.identifiesOne [Profile] (h : self.Reachable) (hunique : self.senderIds.Nodup) :
    self.IdentifiesOne := by
  intro i j peer peer' id hpeer hpeer' hid hid'
  have hsame : peer.config.localSenderId = peer'.config.localSenderId :=
    (h.expects hpeer id hid).symm.trans (h.expects hpeer' id hid')
  have hi : self.senderIds[i]? = some peer.config.localSenderId := by
    rw [senderIds, List.getElem?_map, hpeer]
    rfl
  have hj : self.senderIds[j]? = some peer.config.localSenderId := by
    rw [senderIds, List.getElem?_map, hpeer', hsame]
    rfl
  obtain ⟨hlt, -⟩ := List.getElem?_eq_some_iff.1 hi
  exact (List.getElem?_inj hlt hunique).1 (hi.trans hj.symm)

end TunnelManager

end Manager

namespace Cli

open Coord

/-- Startup makes a session for the entry: it has an endpoint that can be reached, or a relay. -/
def isUsed (peer : PeerEntry) : Bool :=
  peer.lastEndpoint.any fun endpoint =>
    !(isWildcard endpoint && (discoveredViaRelay peer).isNone)

/-- The places of the entries that startup uses, in a listing whose first entry has the place
`i + 1`. -/
def places : ℕ → List PeerEntry → List ℕ
  | _, [] => []
  | i, peer :: peers =>
      if isUsed peer then (i + 1) :: places (i + 1) peers else places (i + 1) peers

/-- The numbers are still different as `u32`. -/
def Separate (numbers : List ℕ) : Prop := numbers.Pairwise fun a b => a % 2 ^ 32 ≠ b % 2 ^ 32

/-- The number is not that of a place, and the numbers from the first discovered session on have not
run through all of `u32`. -/
def Free (places : List ℕ) (number : ℕ) : Prop :=
  (∀ place ∈ places, place % 2 ^ 32 ≠ number % 2 ^ 32) ∧ number ≤ places.length + 2 ^ 32

instance (numbers : List ℕ) : Decidable (Separate numbers) :=
  inferInstanceAs (Decidable (List.Pairwise _ _))

instance (places : List ℕ) (number : ℕ) : Decidable (Free places number) :=
  inferInstanceAs (Decidable (_ ∧ _))

/-! ## Numbers as `u32` -/

theorem ofNat_eq_iff {a b : ℕ} : UInt32.ofNat a = UInt32.ofNat b ↔ a % 2 ^ 32 = b % 2 ^ 32 := by
  rw [← UInt32.toNat_inj, UInt32.toNat_ofNat', UInt32.toNat_ofNat']

theorem nodup_map_iff {numbers : List ℕ} :
    (numbers.map UInt32.ofNat).Nodup ↔ Separate numbers := by
  rw [List.Nodup, List.pairwise_map, Separate]
  simp only [ne_eq, ofNat_eq_iff]

/-- The number after a row of less than `2 ^ 32` numbers is none of them. -/
theorem row_iff {m k : ℕ} :
    (∀ a ∈ List.range' (m + 1) k, a % 2 ^ 32 ≠ (m + k + 1) % 2 ^ 32) ↔ m + k + 1 ≤ m + 2 ^ 32 := by
  constructor
  · intro hrow
    by_contra hlong
    -- In a row that is long enough stands the number one turn of `u32` back.
    have hmem : m + k + 1 - 2 ^ 32 ∈ List.range' (m + 1) k := by
      rw [List.mem_range'_1]
      omega
    have hsame : (m + k + 1 - 2 ^ 32) % 2 ^ 32 = (m + k + 1) % 2 ^ 32 := by omega
    exact hrow _ hmem hsame
  · intro hshort a ha hsame
    rw [List.mem_range'_1] at ha
    omega

/-- Numbers stay separate when the next one after a row of them is added exactly if it is free. -/
theorem separate_concat_iff {places : List ℕ} {k : ℕ}
    (h : Separate (places ++ List.range' (places.length + 1) k)) :
    Separate (places ++ List.range' (places.length + 1) (k + 1)) ↔
      Free places (places.length + k + 1) := by
  have hnext : places.length + 1 + k = places.length + k + 1 := by omega
  rw [List.range'_1_concat, ← List.append_assoc, Separate, List.pairwise_append, hnext]
  simp only [List.forall_mem_append, List.mem_singleton, forall_eq]
  rw [row_iff, Free]
  exact and_iff_right h |>.trans (and_iff_right (List.pairwise_singleton _ _))

/-- The places lie in the listing and are in order. -/
theorem places_sorted (i : ℕ) (listing : List PeerEntry) :
    (∀ place ∈ places i listing, i < place ∧ place ≤ i + listing.length) ∧
      (places i listing).Pairwise (· < ·) := by
  induction listing generalizing i with
  | nil => exact ⟨nofun, .nil⟩
  | cons peer listing ih =>
      obtain ⟨hbounds, hsorted⟩ := ih (i + 1)
      have hrest : ∀ place ∈ places (i + 1) listing,
          i < place ∧ place ≤ i + (peer :: listing).length := by
        intro place hplace
        obtain ⟨hlow, hhigh⟩ := hbounds place hplace
        rw [List.length_cons]
        omega
      rw [places]
      split
      · refine ⟨List.forall_mem_cons.2 ⟨?_, hrest⟩, List.pairwise_cons.2 ⟨fun place hplace =>
          (hbounds place hplace).1, hsorted⟩⟩
        rw [List.length_cons]
        omega
      · exact ⟨hrest, hsorted⟩

/-- The places in a listing that `u32` can count are different as `u32`. -/
theorem separate_places {listing : List PeerEntry} (hlength : listing.length ≤ 2 ^ 32) (i : ℕ) :
    Separate (places i listing) := by
  obtain ⟨hbounds, hsorted⟩ := places_sorted i listing
  refine hsorted.imp_of_mem fun {a b} ha hb hlt hsame => ?_
  have hlow := (hbounds a ha).1
  have hhigh := (hbounds b hb).2
  omega

/-! ## The numbers at startup -/

section Startup

variable [CoordCrates] {wgPublic : Key} {relayEndpoint : Option SocketAddr} {peer : PeerEntry}

/-- An entry that is used gets the number of its place. -/
theorem startupPeer_place {i : ℕ} {config : Option PeerConfig}
    (h : startupPeer wgPublic relayEndpoint i peer = .ok config) :
    config.map PeerConfig.localSenderId =
      if isUsed peer then some (UInt32.ofNat (i + 1)) else none := by
  obtain ⟨peerPub, -, h⟩ := ok_of_bind h
  obtain ⟨viaRelay, hrelay, h⟩ := ok_of_bind h
  cases startupViaRelay_ok hrelay
  cases hendpoint : peer.lastEndpoint with
  | none =>
      rw [hendpoint] at h
      cases h
      rw [isUsed, hendpoint]
      rfl
  | some endpoint =>
      rw [isUsed, hendpoint, Option.any_some]
      simp only [hendpoint] at h
      cases hskip : isWildcard endpoint && (discoveredViaRelay peer).isNone with
      | true =>
          rw [hskip] at h
          cases h
          rfl
      | false =>
          rw [hskip] at h
          obtain ⟨addr, -, h⟩ := ok_of_bind h
          cases hip : Ipv4Addr.parse peer.ip with
          | none =>
              rw [hip] at h
              cases h
          | some peerIp =>
              rw [hip] at h
              cases h
              rw [UInt32.ofNat_add]
              rfl

/-- The sessions at startup get the numbers of the places of their entries. -/
theorem startupPeers_places {i : ℕ} {listing : List PeerEntry} {configs : List PeerConfig}
    (h : startupPeers wgPublic relayEndpoint i listing = .ok configs) :
    configs.map PeerConfig.localSenderId = (places i listing).map UInt32.ofNat := by
  induction listing generalizing i configs with
  | nil =>
      cases h
      rfl
  | cons peer listing ih =>
      obtain ⟨first, hfirst, h⟩ := ok_of_bind h
      obtain ⟨rest, hrest, h⟩ := ok_of_bind h
      cases h
      have hplace := startupPeer_place hfirst
      rw [List.map_append, ih hrest, places]
      cases hused : isUsed peer with
      | true =>
          rw [hused, if_pos rfl, Option.map_eq_some_iff] at hplace
          obtain ⟨config, rfl, hid⟩ := hplace
          rw [if_pos rfl, List.map_cons, ← hid]
          rfl
      | false =>
          rw [hused, if_neg Bool.false_ne_true, Option.map_eq_none_iff] at hplace
          rw [if_neg Bool.false_ne_true, hplace]
          rfl

end Startup

/-! ## Runs of the daemon -/

section General

variable [Profile] [Primitives] [CoordCrates]

namespace Daemon

/-- What happens in the loop of `cmd_up`: the discovery of one peer of a listing, or another call of
the manager. -/
inductive Event where
  | discover (env : Env) (peer : PeerEntry)
  | manager (event : TunnelManager.Event)

/-- Make a step. -/
def step (d : Daemon) : Event → Option Daemon
  | .discover env peer => d.discoverPeer env peer
  | .manager event =>
      if Site.isAddPeer event then none
      else (TunnelManager.fire d.manager event).map fun manager => { d with manager }

/-- The ids that the sessions were given are different, and a receiver id identifies one of them. -/
structure UniqueIds (d : Daemon) : Prop where
  distinct : d.manager.senderIds.Nodup
  identifies : d.manager.IdentifiesOne

/-- If discovery makes a session, the number after that of the sessions is free. -/
def AddsFree (places : List ℕ) (d : Daemon) : Event → Prop
  | .discover env peer => ∀ config ∈ d.newPeer peer, d.manager.adds env config = true →
      Free places (d.manager.peers.length + 1)
  | .manager _ => True

instance (places : List ℕ) (d : Daemon) : (event : Event) → Decidable (d.AddsFree places event)
  | .discover _ peer => inferInstanceAs (Decidable (∀ config ∈ d.newPeer peer, _ → _))
  | .manager _ => .isTrue trivial

/-- The ids are the places of the peers at startup, followed by a row of numbers. -/
structure Numbered (places : List ℕ) (d : Daemon) : Prop where
  reachable : d.manager.Reachable
  ids : ∃ k, d.manager.senderIds =
    (places ++ List.range' (places.length + 1) k).map UInt32.ofNat

variable {d d' : Daemon} {env : Env} {peer : PeerEntry} {places : List ℕ}

omit [Profile] [CoordCrates] in
theorem length_senderIds : d.manager.senderIds.length = d.manager.peers.length := List.length_map _

/-- After startup the ids are the places. -/
theorem start_ids {config : ManagerConfig} {args : UpArgs} {listing : List PeerEntry}
    (h : start env config args listing = some d) :
    d.manager.Reachable ∧ d.manager.senderIds = (Cli.places 0 listing ++
      List.range' ((Cli.places 0 listing).length + 1) 0).map UInt32.ofNat := by
  obtain ⟨-, configs, hconfigs, hnew⟩ := start_some h
  refine ⟨⟨env, config, configs, d.manager, hnew, .refl _⟩, ?_⟩
  rw [TunnelManager.senderIds_eq, TunnelManager.new_configs hnew, startupPeers_places hconfigs,
    List.range'_zero, List.append_nil]

omit [Profile] in
/-- Discovery numbers a session by the number of sessions that there are. -/
theorem newPeer_id {config : PeerConfig} (h : d.newPeer peer = some config) :
    config.localSenderId = UInt32.ofNat (d.manager.peers.length + 1) := by
  rw [newPeer] at h
  cases hkey : peerKey peer with
  | error e =>
      rw [hkey] at h
      cases h
  | ok peerPub =>
      simp only [hkey] at h
      split at h
      · cases h
      · obtain ⟨peerIp, endpoint, -, -, rfl⟩ := discoveredPeer_some h
        rw [UInt32.ofNat_add]
        rfl

/-- What a step does to the ids: it adds the number after that of the sessions, where discovery makes
a session. -/
theorem step_ids {event : Event} (hreachable : d.manager.Reachable)
    (h : d.step event = some d') :
    d'.manager.Reachable ∧
      ((d'.manager.senderIds = d.manager.senderIds ∧ ∀ places, d.AddsFree places event) ∨
        d'.manager.senderIds =
            d.manager.senderIds ++ [UInt32.ofNat (d.manager.peers.length + 1)] ∧
          ∀ places, d.AddsFree places event ↔ Free places (d.manager.peers.length + 1)) := by
  cases event with
  | discover env peer =>
      obtain ⟨hnone, rfl⟩ | ⟨config, hnew, hfire⟩ := discoverPeer_cases h
      · exact ⟨hreachable, .inl ⟨rfl, fun _ config hconfig => nomatch hnone.symm.trans hconfig⟩⟩
      · have hconfigs := TunnelManager.addPeer_configs hfire
        refine ⟨hreachable.fire hfire, ?_⟩
        rw [TunnelManager.senderIds_eq, TunnelManager.senderIds_eq, hconfigs]
        cases hadds : d.manager.adds env config with
        | false =>
            refine .inl ⟨by rw [if_neg Bool.false_ne_true, List.append_nil], fun _ other hother =>
              ?_⟩
            cases hnew.symm.trans hother
            exact fun hadds' => nomatch hadds.symm.trans hadds'
        | true =>
            have hid := newPeer_id hnew
            refine .inr ⟨?_, fun places => ⟨fun hfree => hfree config hnew hadds,
              fun hfree _ _ _ => hfree⟩⟩
            rw [if_pos rfl, List.map_append, List.map_singleton, hid]
  | manager event =>
      rw [step] at h
      split at h
      · cases h
      · rename_i hevent
        obtain ⟨manager, hfire, rfl⟩ := Option.map_eq_some_iff.1 h
        refine ⟨hreachable.fire hfire, .inl ⟨?_, fun _ => trivial⟩⟩
        rw [TunnelManager.senderIds_eq, TunnelManager.senderIds_eq]
        exact TunnelManager.fire_map (fun _ _ => rfl) hreachable
          (fun env config heq => hevent (by rw [heq]; rfl)) hfire

omit [CoordCrates] in
theorem Numbered.unique_iff (h : d.Numbered places) {k : ℕ}
    (hk : d.manager.senderIds =
      (places ++ List.range' (places.length + 1) k).map UInt32.ofNat) :
    d.UniqueIds ↔ Separate (places ++ List.range' (places.length + 1) k) := by
  rw [← nodup_map_iff, ← hk]
  exact ⟨UniqueIds.distinct, fun hunique => ⟨hunique, h.reachable.identifiesOne hunique⟩⟩

/-- What a step does to the row of numbers, and when it keeps the ids different. -/
theorem Numbered.step {event : Event} (h : d.Numbered places) (hstep : d.step event = some d') :
    d'.Numbered places ∧ (d.UniqueIds → (d'.UniqueIds ↔ d.AddsFree places event)) := by
  obtain ⟨k, hk⟩ := h.ids
  obtain ⟨hreachable, ⟨hsame, hfree⟩ | ⟨hadded, hfree⟩⟩ := step_ids h.reachable hstep
  · have hk' := hsame.trans hk
    have hnumbered : d'.Numbered places := ⟨hreachable, k, hk'⟩
    refine ⟨hnumbered, fun hunique => iff_of_true ?_ (hfree places)⟩
    rw [hnumbered.unique_iff hk', ← h.unique_iff hk]
    exact hunique
  -- Each session has its id, so the next number continues the row.
  · have hlength : d.manager.peers.length = places.length + k := by
      rw [← length_senderIds, hk, List.length_map, List.length_append, List.length_range']
    have hk' : d'.manager.senderIds =
        (places ++ List.range' (places.length + 1) (k + 1)).map UInt32.ofNat := by
      rw [hadded, hk, hlength, List.range'_1_concat, ← List.append_assoc, Nat.add_right_comm]
      simp only [List.map_append, List.map_singleton]
    have hnumbered : d'.Numbered places := ⟨hreachable, k + 1, hk'⟩
    refine ⟨hnumbered, fun hunique => ?_⟩
    rw [hnumbered.unique_iff hk', hfree places, hlength]
    exact separate_concat_iff ((h.unique_iff hk).1 hunique)

/-- From a start on any listing, and with any peers discovered in any order after it, the ids of the
sessions are always different exactly if the places of the peers at startup are different as `u32`,
and each session that discovery makes gets a number that is free. -/
theorem unique_throughout_iff {config : ManagerConfig} {args : UpArgs} {listing : List PeerEntry}
    {events : List Event} (hstart : start env config args listing = some d)
    (hrun : Transition.exec step d events = some d') :
    Transition.AllStates step UniqueIds d events ↔ Separate (Cli.places 0 listing) ∧
      Transition.AllSteps step (AddsFree (Cli.places 0 listing)) d events := by
  obtain ⟨hreachable, hids⟩ := start_ids hstart
  have hnumbered : d.Numbered (Cli.places 0 listing) := ⟨hreachable, 0, hids⟩
  have hfirst : d.UniqueIds ↔ Separate (Cli.places 0 listing) := by
    rw [hnumbered.unique_iff hids, List.range'_zero, List.append_nil]
  -- Discovery adds to the places; it cannot mend two that are the same.
  by_cases hseparate : Separate (Cli.places 0 listing)
  · rw [and_iff_right hseparate]
    exact Transition.allStates_iff_allSteps (fun _ _ _ h hstep => (h.step hstep).1)
      (fun _ _ _ h hunique hstep => (h.step hstep).2 hunique) hnumbered (hfirst.2 hseparate) hrun
  · exact iff_of_false (fun hall => hseparate (hfirst.1 hall.first)) fun h => hseparate h.1

end Daemon

end General

section Symbolic

open Coord.Parties Symbolic TunnelManager

attribute [local instance] Symbolic.primitives Symbolic.release crates

namespace Daemon

/-- How a node is listed. -/
def listed (node : UInt8) (lastEndpoint : Option String) : PeerEntry where
  nodeId := toString node.toNat
  wgPubkey := CoordCrates.base64Encode (publicKey (Symbolic.key node)).val
  ip := toString (⟨100, 100, 0, node⟩ : Ipv4Addr)
  lastEndpoint := lastEndpoint
  viaRelay := none
  lastSeen := none

/-- A node with its endpoint. -/
def reachable (node : UInt8) : PeerEntry := listed node (some (toString (address node)))

/-- The daemon of the first node on a listing. -/
def startOn (listing : List PeerEntry) : Option Daemon :=
  start (quietEnv 0 ⟨1000, 0⟩ 7) (nodeConfig 1)
    ⟨none, some "10.0.0.1:51820", none, ⟨.v4 .unspecified, 51820⟩⟩ listing

/-- A later listing shows the node with its endpoint. -/
def appears (node : UInt8) : Event := .discover (quietEnv 60 ⟨1060, 0⟩ 8) (reachable node)

/-- Startup skips the first entry and gives the second one the id 2, which discovery gives to the
first node when it appears. -/
theorem skipped_repeats : ∃ d d', startOn [listed 2 none, reachable 3] = some d ∧
    Transition.exec step d [appears 2] = some d' ∧ d'.manager.senderIds = [2, 2] ∧
    ¬ Transition.AllStates step UniqueIds d [appears 2] := by
  have hcheck : (startOn [listed 2 none, reachable 3]).any (fun d =>
      (Transition.exec step d [appears 2]).any fun d' =>
        decide (d'.manager.senderIds = [2, 2])) = true := by
    decide +kernel
  obtain ⟨d, hstart, hcheck⟩ := (Option.any_eq_true _ _).1 hcheck
  obtain ⟨d', hrun, hids⟩ := (Option.any_eq_true _ _).1 hcheck
  have hids := of_decide_eq_true hids
  refine ⟨d, d', hstart, hrun, hids, fun hall => ?_⟩
  have hdistinct := (hall.last hrun).distinct
  rw [hids] at hdistinct
  exact absurd hdistinct (by decide)

/-- An entry that is skipped at the end of the listing leaves no gap. -/
theorem skipped_last_unique : ∃ d, startOn [reachable 2, listed 3 none] = some d ∧
    Transition.AllStates step UniqueIds d
      [appears 3, .manager (.maintenance (quietEnv 61 ⟨1061, 0⟩ 9)), appears 4] := by
  have hcheck : (startOn [reachable 2, listed 3 none]).any (fun d =>
      (Transition.exec step d
        [appears 3, .manager (.maintenance (quietEnv 61 ⟨1061, 0⟩ 9)), appears 4]).isSome &&
      decide (Transition.AllSteps step (AddsFree (Cli.places 0 [reachable 2, listed 3 none])) d
        [appears 3, .manager (.maintenance (quietEnv 61 ⟨1061, 0⟩ 9)), appears 4])) = true := by
    decide +kernel
  obtain ⟨d, hstart, hcheck⟩ := (Option.any_eq_true _ _).1 hcheck
  obtain ⟨hrun, hsteps⟩ := Bool.and_eq_true_iff.1 hcheck
  obtain ⟨d', hrun⟩ := Option.isSome_iff_exists.1 hrun
  exact ⟨d, hstart, (unique_throughout_iff hstart hrun).2
    ⟨separate_places (by decide) 0, of_decide_eq_true hsteps⟩⟩

end Daemon

end Symbolic

end Cli

end Naboscale
