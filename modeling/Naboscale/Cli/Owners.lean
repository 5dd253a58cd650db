import Naboscale.Cli.Daemon
import Naboscale.Cli.Mesh
import Naboscale.Coord.Parties
import Naboscale.Tunnel.Parties

/-!
# The owner of a mesh address

A coordinator and one daemon. The coordinator hands the lowest free address to the next node, and
the daemon keeps the peers that it has learned of, so a packet for an address may go to the session
of a node that had the address before.
-/

namespace Naboscale.Cli

open Rust Coord

section General

variable [Profile] [Primitives] [CoordCrates]

/-- The coordinator, a daemon if one is running, and what is left of the listing that it works on. -/
structure Site where
  coord : Coordinator
  daemon : Option Daemon
  fetched : List PeerEntry

namespace Site

/-- What happens at a site: an operation of a handler, a restart of the coordinator, an answer to
`peers`, a start of the daemon with the peers of that answer, the discovery of the next one of them,
a call of the manager, or the end of the daemon. -/
inductive Event where
  | operation (op : Op)
  | restart (tokenTtlSecs : I64)
  | fetch (nodeId : String)
  | startup (env : Env) (config : ManagerConfig) (args : UpArgs)
  | discover (env : Env)
  | manager (event : TunnelManager.Event)
  | stop

/-- A node is inserted with the text of an address, as `register` does. -/
def isTextual : Op → Bool
  | .insertNode node _ _ => (Ipv4Addr.parse node.ip).any fun ip => toString ip = node.ip
  | _ => true

/-- Whether an event of the manager is `add_peer`, which only discovery calls. -/
def isAddPeer : TunnelManager.Event → Bool
  | .addPeer _ _ => true
  | _ => false

/-- Make a step. -/
def step (s : Site) : Event → Option Site
  | .operation op =>
      if isTextual op then some { s with coord := (Coordinator.handle op s.coord).2 } else none
  | .restart ttl => some { s with coord := .open s.coord.db ttl s.coord.clock s.coord.instant }
  | .fetch nodeId =>
      some { s with fetched := (s.coord.db.listPeers (some nodeId)).map Mesh.entry }
  | .startup env config args =>
      (Daemon.start env config args s.fetched).map fun d => ⟨s.coord, some d, []⟩
  | .discover env =>
      match s.daemon, s.fetched with
      | some d, peer :: rest => (d.discoverPeer env peer).map fun d => ⟨s.coord, some d, rest⟩
      | _, _ => none
  | .manager event =>
      if isAddPeer event then none
      else s.daemon.bind fun d => (TunnelManager.fire d.manager event).map fun manager =>
        { s with daemon := some { d with manager } }
  | .stop => some { s with daemon := none }

/-- A coordinator without nodes, and no daemon. -/
def start (tokenTtlSecs : I64) (clock : Clock) (instant : Instant) : Site :=
  ⟨.open .empty tokenTtlSecs clock instant, none, []⟩

/-- A packet for the address of a node goes to the session with the key of the node, if the daemon
has one. -/
def Delivers (s : Site) : Prop :=
  ∀ d, s.daemon = some d → ∀ row ∈ s.coord.db.nodes.rows, ∀ ip, Ipv4Addr.parse row.ip = some ip →
    ∀ idx peer, d.manager.peers[idx]? = some peer → peer.config.peerPub.val = row.wgPubkey →
      ∀ pkt, TunnelManager.Addressed pkt ip → d.manager.lookupPeerByDestIp pkt = some idx

/-! ## When packets are delivered -/

/-- If the daemon knows the key, it learned it under the address, and no other one before it. -/
def First (d : Daemon) (key : Bytes) (ip : Ipv4Addr) : Prop :=
  Index.Leads (fun owner : Key × Ipv4Addr => owner.1.val = key) (fun owner => owner.2 = ip)
    d.manager.owners

/-- A node that is registered and that the daemon knows gets the address under which the daemon
learned it, and the daemon learned no other peer under it before. -/
def RegistersKnown (s : Site) (node : NodeRecord) : Prop :=
  s.coord.poisoned = false → NodeColumn.clashes s.coord.db.nodes.rows node.inserted = [] →
    ∀ d ∈ s.daemon, ∀ ip ∈ Ipv4Addr.parse node.ip, First d node.wgPubkey ip

/-- The node with the key of a configuration has its address, if it is registered. -/
def Current (s : Site) (config : PeerConfig) : Prop :=
  ∀ row ∈ s.coord.db.nodes.rows, config.peerPub.val = row.wgPubkey →
    Ipv4Addr.parse row.ip = some config.peerIp

/-- Every node that the daemon starts with still has the address that was listed, if it is
registered. -/
def StartsCurrent (s : Site) (config : ManagerConfig) (args : UpArgs) : Prop :=
  ∀ run ∈ (Run.start config.localKeypair.public args).toOption,
    ∀ configs ∈ (startupPeers run.wgPublic run.relayEndpoint 0 s.fetched).toOption,
      ∀ config ∈ configs, s.Current config

/-- A node that discovery adds, if it is registered, has the address that was listed, and the daemon
has learned no peer under it. -/
def DiscoversFresh (s : Site) (env : Env) : Prop :=
  ∀ d ∈ s.daemon, ∀ peer ∈ s.fetched.head?, ∀ config ∈ d.newPeer peer,
    d.manager.adds env config = true → ∀ row ∈ s.coord.db.nodes.rows,
      config.peerPub.val = row.wgPubkey → Ipv4Addr.parse row.ip = some config.peerIp ∧
        ∀ owner ∈ d.manager.owners, owner.2 ≠ config.peerIp

/-- The step hands no address on that the daemon knows another peer by. -/
def KeepsOwners (s : Site) : Event → Prop
  | .operation (.insertNode node _ _) => s.RegistersKnown node
  | .startup _ config args => s.StartsCurrent config args
  | .discover env => s.DiscoversFresh env
  | _ => True

instance (d : Daemon) (key : Bytes) (ip : Ipv4Addr) : Decidable (First d key ip) :=
  inferInstanceAs (Decidable (Index.Leads _ _ _))

instance (s : Site) (node : NodeRecord) : Decidable (s.RegistersKnown node) :=
  inferInstanceAs (Decidable (_ → _ → ∀ d ∈ s.daemon, ∀ ip ∈ Ipv4Addr.parse node.ip, _))

instance (s : Site) (config : PeerConfig) : Decidable (s.Current config) :=
  inferInstanceAs (Decidable (∀ row ∈ s.coord.db.nodes.rows, _ → _))

instance (s : Site) (config : ManagerConfig) (args : UpArgs) :
    Decidable (s.StartsCurrent config args) :=
  inferInstanceAs (Decidable (∀ run ∈ (Run.start config.localKeypair.public args).toOption,
    ∀ configs ∈ (startupPeers run.wgPublic run.relayEndpoint 0 s.fetched).toOption, _))

instance (s : Site) (env : Env) : Decidable (s.DiscoversFresh env) :=
  inferInstanceAs (Decidable (∀ d ∈ s.daemon, ∀ peer ∈ s.fetched.head?, ∀ config ∈ d.newPeer peer, _))

instance (s : Site) : (event : Event) → Decidable (s.KeepsOwners event)
  | .operation (.insertNode node _ _) => inferInstanceAs (Decidable (s.RegistersKnown node))
  | .startup _ config args => inferInstanceAs (Decidable (s.StartsCurrent config args))
  | .discover env => inferInstanceAs (Decidable (s.DiscoversFresh env))
  | .operation (.checkRateLimit ..) | .operation .currentTimestamp | .operation .allocate
  | .operation (.release ..) | .operation (.getNodeByToken ..) | .operation (.listPeers ..)
  | .operation (.updateHeartbeat ..) | .operation (.revokeAllTokensForNode ..)
  | .operation (.createToken ..) | .operation (.deleteNode ..) | .restart .. | .fetch .. | .manager ..
  | .stop => inferInstanceAs (Decidable True)

variable {s t : Site}

omit [Profile] [CoordCrates] in
/-- Delivery is about what the daemon learned first. -/
theorem delivers_iff :
    s.Delivers ↔ ∀ d, s.daemon = some d → ∀ row ∈ s.coord.db.nodes.rows,
      ∀ ip, Ipv4Addr.parse row.ip = some ip → First d row.wgPubkey ip := by
  have hfirst (d : Daemon) (key : Bytes) (ip : Ipv4Addr) :
      First d key ip ↔ ∀ idx peer, d.manager.peers[idx]? = some peer →
        peer.config.peerPub.val = key → ∀ pkt, TunnelManager.Addressed pkt ip →
          d.manager.lookupPeerByDestIp pkt = some idx := by
    have hleads : Index.Leads (fun owner => owner.1.val = key)
        (fun owner => decide (owner.2 = ip) = true) d.manager.owners ↔ _ := Index.leads_iff
    simp only [decide_eq_true_eq] at hleads
    rw [First, hleads]
    constructor
    · intro h idx peer hpeer hkey pkt hpkt
      rw [TunnelManager.lookup_eq hpkt]
      refine h idx (peer.config.peerPub, peer.config.peerIp) ?_ hkey
      rw [TunnelManager.owners, List.getElem?_map, hpeer]
      rfl
    · intro h idx owner howner hkey
      rw [TunnelManager.owners, List.getElem?_map, Option.map_eq_some_iff] at howner
      obtain ⟨peer, hpeer, rfl⟩ := howner
      obtain ⟨pkt, hpkt⟩ := TunnelManager.exists_addressed ip
      rw [← TunnelManager.lookup_eq hpkt]
      exact h idx peer hpeer hkey pkt hpkt
  simp only [Delivers, hfirst]

/-! ## What every run keeps -/

/-- What the site is known to be: the addresses in the database are texts of addresses, what was
fetched is a part of what was listed at some time, and the manager is a reachable one. -/
structure Regular (s : Site) : Prop where
  texts : ∀ row ∈ s.coord.db.nodes.rows, ∃ ip : Ipv4Addr, row.ip = toString ip
  fetched : ∃ rows : List NodeRecord, rows.Pairwise NodeRecord.Apart ∧
    (∀ row ∈ rows, ∃ ip : Ipv4Addr, row.ip = toString ip) ∧ s.fetched = rows.map Mesh.entry
  manager : ∀ d, s.daemon = some d → d.manager.Reachable

omit [Primitives] [CoordCrates] in
theorem texts_operation {op : Op} {coord : Coordinator} (htextual : isTextual op = true)
    (h : ∀ row ∈ coord.db.nodes.rows, ∃ ip : Ipv4Addr, row.ip = toString ip) :
    ∀ row ∈ (Coordinator.handle op coord).2.db.nodes.rows, ∃ ip : Ipv4Addr, row.ip = toString ip := by
  intro row hrow
  rw [Coordinator.handle_rows] at hrow
  split at hrow
  · exact h row hrow
  · cases op with
    | insertNode node token ttlSecs =>
        rw [Op.rows] at hrow
        split at hrow
        · obtain hrow | hrow := List.mem_append.1 hrow
          · exact h row hrow
          · cases List.mem_singleton.1 hrow
            obtain ⟨ip, -, hip⟩ := (Option.any_eq_true _ _).1 htextual
            exact ⟨ip, (of_decide_eq_true hip).symm⟩
        · exact h row hrow
    | updateHeartbeat nodeId endpoint viaRelay lastSeen =>
        obtain ⟨before, hbefore, rfl⟩ := List.mem_map.1 hrow
        obtain ⟨ip, hip⟩ := h before hbefore
        refine ⟨ip, ?_⟩
        split <;> exact hip
    | deleteNode nodeId => exact h row (List.mem_filter.1 hrow).1
    | _ => exact h row hrow

/-- Every step keeps the site regular. -/
theorem Regular.step {event : Event} (h : s.Regular) (hstep : s.step event = some t) :
    t.Regular := by
  cases event with
  | operation op =>
      rw [Site.step] at hstep
      split at hstep
      · rename_i htextual
        cases hstep
        exact ⟨texts_operation htextual h.texts, h.fetched, h.manager⟩
      · cases hstep
  | restart ttl =>
      cases hstep
      exact ⟨h.texts, h.fetched, h.manager⟩
  | fetch nodeId =>
      cases hstep
      refine ⟨h.texts, ⟨s.coord.db.listPeers (some nodeId), ?_, ?_, rfl⟩, h.manager⟩
      · exact s.coord.db.nodes.apart.filter _
      · exact fun row hrow => h.texts row (List.mem_filter.1 hrow).1
  | startup env config args =>
      obtain ⟨d, hd, rfl⟩ := Option.map_eq_some_iff.1 hstep
      refine ⟨h.texts, ⟨[], .nil, nofun, rfl⟩, fun d' hd' => ?_⟩
      cases hd'
      obtain ⟨-, configs, -, hnew⟩ := Daemon.start_some hd
      exact ⟨env, config, configs, d.manager, hnew, .refl _⟩
  | discover env =>
      rw [Site.step] at hstep
      cases hdaemon : s.daemon with
      | none =>
          rw [hdaemon] at hstep
          cases hstep
      | some d =>
          cases hfetched : s.fetched with
          | nil =>
              rw [hdaemon, hfetched] at hstep
              cases hstep
          | cons peer rest =>
              rw [hdaemon, hfetched] at hstep
              obtain ⟨d', hd', rfl⟩ := Option.map_eq_some_iff.1 hstep
              obtain ⟨rows, hapart, htexts, hrows⟩ := h.fetched
              refine ⟨h.texts, ?_, fun d'' hd'' => ?_⟩
              · rw [hfetched] at hrows
                cases rows with
                | nil => cases hrows
                | cons row rows =>
                    refine ⟨rows, (List.pairwise_cons.1 hapart).2,
                      fun r hr => htexts r (List.mem_cons_of_mem _ hr), ?_⟩
                    exact (List.cons.inj hrows).2
              · cases hd''
                have hreachable := h.manager d hdaemon
                -- Whatever discovery does is a call of the manager.
                obtain ⟨-, rfl⟩ | ⟨config, -, hfire⟩ := Daemon.discoverPeer_cases hd'
                · exact hreachable
                · exact hreachable.fire hfire
  | manager event =>
      rw [Site.step] at hstep
      split at hstep
      · cases hstep
      · obtain ⟨d, hd, hstep⟩ := Option.bind_eq_some_iff.1 hstep
        obtain ⟨manager, hfire, rfl⟩ := Option.map_eq_some_iff.1 hstep
        refine ⟨h.texts, h.fetched, fun d' hd' => ?_⟩
        cases hd'
        exact (h.manager d hd).fire hfire
  | stop =>
      cases hstep
      exact ⟨h.texts, h.fetched, fun d hd => nomatch hd⟩

/-! ## One step -/

omit [Profile] [Primitives] in
/-- The address of a configuration is the one that was listed. -/
theorem startup_address {row : NodeRecord} (htext : ∃ ip : Ipv4Addr, row.ip = toString ip)
    {wgPublic : Key} {relayEndpoint : Option SocketAddr} {i : ℕ} {config : PeerConfig}
    (h : startupPeer wgPublic relayEndpoint i (Mesh.entry row) = .ok (some config)) :
    row.ip = toString config.peerIp := by
  obtain ⟨ip, hip⟩ := htext
  obtain ⟨peerIp, _, hparse, -, hconfig⟩ := discoveredPeer_some (discovered_of_startup h).2
  have hparse : Ipv4Addr.parse row.ip = some peerIp := hparse
  rw [hip, Ipv4Addr.parse_toString] at hparse
  rw [hip, hconfig, Option.some.inj hparse]

omit [Profile] [Primitives] in
/-- The peers of one listing are configured under different addresses. -/
theorem startup_apart {rows : List NodeRecord} (hapart : rows.Pairwise NodeRecord.Apart)
    (htexts : ∀ row ∈ rows, ∃ ip : Ipv4Addr, row.ip = toString ip) {wgPublic : Key}
    {relayEndpoint : Option SocketAddr} {i : ℕ} {configs : List PeerConfig}
    (h : startupPeers wgPublic relayEndpoint i (rows.map Mesh.entry) = .ok configs) :
    configs.Pairwise fun c c' => c.peerIp ≠ c'.peerIp := by
  induction rows generalizing i configs with
  | nil =>
      cases h
      exact .nil
  | cons row rows ih =>
      obtain ⟨hrow, hrows⟩ := List.pairwise_cons.1 hapart
      have htext := htexts row (List.mem_cons_self ..)
      have htexts' : ∀ r ∈ rows, ∃ ip : Ipv4Addr, r.ip = toString ip :=
        fun r hr => htexts r (List.mem_cons_of_mem _ hr)
      obtain ⟨first, hfirst, h⟩ := ok_of_bind h
      obtain ⟨rest, hrest, h⟩ := ok_of_bind h
      cases h
      cases first with
      | none => exact ih hrows htexts' hrest
      | some config =>
          refine List.pairwise_cons.2 ⟨fun config' hconfig' hsame => ?_, ih hrows htexts' hrest⟩
          obtain ⟨peer, hpeer, j, hj⟩ := startupPeers_mem hrest hconfig'
          obtain ⟨row', hrow', rfl⟩ := List.mem_map.1 hpeer
          have hip := startup_address htext hfirst
          have hip' := startup_address (htexts' row' hrow') hj
          refine hrow row' hrow' .ip ?_
          show row.ip = row'.ip
          rw [hip, hip', hsame]

/-- A start delivers exactly if what it starts with still is current. -/
theorem startup_iff {env : Env} {config : ManagerConfig} {args : UpArgs} (h : s.Regular)
    (hstep : s.step (.startup env config args) = some t) :
    t.Delivers ↔ s.StartsCurrent config args := by
  obtain ⟨d, hd, rfl⟩ := Option.map_eq_some_iff.1 hstep
  obtain ⟨hrun, configs, hconfigs, hnew⟩ := Daemon.start_some hd
  obtain ⟨rows, hapart, htexts, hrows⟩ := h.fetched
  have howners := TunnelManager.new_owners hnew
  have hfirst (key : Bytes) (ip : Ipv4Addr) : First d key ip ↔
      ∀ c ∈ configs, c.peerPub.val = key → c.peerIp = ip := by
    have hdistinct : configs.Pairwise fun c c' => ¬ (c.peerIp = ip ∧ c'.peerIp = ip) := by
      rw [hrows] at hconfigs
      refine (startup_apart hapart htexts hconfigs).imp fun {c c'} hne hboth => ?_
      exact hne (hboth.1.trans hboth.2.symm)
    rw [First, howners, Index.leads_of_apart (List.pairwise_map.2 hdistinct), List.forall_mem_map]
  rw [delivers_iff]
  constructor
  · intro hall run hrun' configs' hconfigs' c hc row hrow hkey
    rw [hrun] at hrun'
    cases hrun'
    rw [hconfigs] at hconfigs'
    cases hconfigs'
    obtain ⟨ip, hip⟩ := h.texts row hrow
    have hparse : Ipv4Addr.parse row.ip = some ip := by rw [hip, Ipv4Addr.parse_toString]
    rw [hparse, (hfirst row.wgPubkey ip).1 (hall d rfl row hrow ip hparse) c hc hkey]
  · intro hcurrent d' hd' row hrow ip hip
    cases hd'
    refine (hfirst row.wgPubkey ip).2 fun c hc hkey => ?_
    have hrun : d.run ∈ (Run.start config.localKeypair.public args).toOption := by
      rw [hrun]
      rfl
    have hconfigs : configs ∈
        (startupPeers d.run.wgPublic d.run.relayEndpoint 0 s.fetched).toOption := by
      rw [hconfigs]
      rfl
    have hparse := hcurrent d.run hrun configs hconfigs c hc row hrow hkey
    exact Option.some.inj (hparse.symm.trans hip)

/-- A discovery keeps the daemon delivering exactly if it adds a peer under a fresh address. -/
theorem discover_iff {env : Env} (h : s.Regular) (hdelivers : s.Delivers)
    (hstep : s.step (.discover env) = some t) : t.Delivers ↔ s.DiscoversFresh env := by
  rw [Site.step] at hstep
  cases hdaemon : s.daemon with
  | none =>
      rw [hdaemon] at hstep
      cases hstep
  | some d =>
      cases hfetched : s.fetched with
      | nil =>
          rw [hdaemon, hfetched] at hstep
          cases hstep
      | cons peer rest =>
          rw [hdaemon, hfetched] at hstep
          obtain ⟨d', hd', rfl⟩ := Option.map_eq_some_iff.1 hstep
          have hbefore := delivers_iff.1 hdelivers d hdaemon
          -- Without a new session the owners are the same, and the site delivers as before.
          have hkept (hsame : d'.manager.owners = d.manager.owners) :
              Delivers ⟨s.coord, some d', rest⟩ := by
            refine delivers_iff.2 fun d'' hd'' row hrow ip hip => ?_
            cases hd''
            rw [First, hsame]
            exact hbefore row hrow ip hip
          obtain ⟨hnone, rfl⟩ | ⟨config, hnew, hfire⟩ := Daemon.discoverPeer_cases hd'
          · refine iff_of_true (hkept rfl) fun d'' hd'' peer' hpeer' config hnew => ?_
            cases hdaemon.symm.trans hd''
            rw [hfetched] at hpeer'
            cases hpeer'
            cases hnone.symm.trans hnew
          · have howners := TunnelManager.addPeer_owners hfire
            cases hadds : d.manager.adds env config with
            | false =>
                rw [hadds, if_neg Bool.false_ne_true, List.append_nil] at howners
                refine iff_of_true (hkept howners) fun d'' hd'' peer' hpeer' config' hnew' hadds' => ?_
                cases hdaemon.symm.trans hd''
                rw [hfetched] at hpeer'
                cases hpeer'
                cases hnew.symm.trans hnew'
                cases hadds.symm.trans hadds'
            | true =>
                rw [hadds, if_pos rfl] at howners
                rw [delivers_iff]
                -- The new owner goes to the end: it may not be led by an older one, and has to be
                -- the one that the row names.
                constructor
                · intro hall d'' hd'' peer' hpeer' config' hnew' hadds' row hrow hkey
                  cases hdaemon.symm.trans hd''
                  rw [hfetched] at hpeer'
                  cases hpeer'
                  cases hnew.symm.trans hnew'
                  obtain ⟨ip, hip⟩ := h.texts row hrow
                  have hparse : Ipv4Addr.parse row.ip = some ip := by
                    rw [hip, Ipv4Addr.parse_toString]
                  have hfirst := hall d' rfl row hrow ip hparse
                  rw [First, howners, Index.leads_concat] at hfirst
                  obtain ⟨hsame, hfresh⟩ := hfirst.2 hkey
                  have hsame : config.peerIp = ip := hsame
                  rw [hparse, hsame]
                  exact ⟨rfl, hfresh⟩
                · intro hfresh d'' hd'' row hrow ip hip
                  cases hd''
                  rw [First, howners, Index.leads_concat]
                  refine ⟨hbefore row hrow ip hip, fun hkey => ?_⟩
                  obtain ⟨hparse, hall⟩ :=
                    hfresh d hdaemon peer (by rw [hfetched]; rfl) config hnew hadds row hrow hkey
                  cases Option.some.inj (hparse.symm.trans hip)
                  exact ⟨rfl, hall⟩

/-- A registration keeps the daemon delivering exactly if it hands on no known address. -/
theorem register_iff {node : NodeRecord} {token : String} {ttlSecs : ℤ} (hdelivers : s.Delivers)
    (hstep : s.step (.operation (.insertNode node token ttlSecs)) = some t) :
    t.Delivers ↔ s.RegistersKnown node := by
  rw [Site.step] at hstep
  split at hstep
  · cases hstep
    have hbefore := delivers_iff.1 hdelivers
    rw [delivers_iff]
    dsimp only
    rw [Coordinator.handle_rows]
    by_cases hinserted : s.coord.poisoned = false ∧
        NodeColumn.clashes s.coord.db.nodes.rows node.inserted = []
    · rw [hinserted.1, if_neg Bool.false_ne_true, Op.rows, if_pos hinserted.2]
      constructor
      · intro hall _ _ d hd ip hip
        exact hall d hd node.inserted (List.mem_append_right _ (List.mem_singleton_self _)) ip hip
      · intro hknown d hd row hrow ip hip
        obtain hrow | hrow := List.mem_append.1 hrow
        · exact hbefore d hd row hrow ip hip
        · cases List.mem_singleton.1 hrow
          exact hknown hinserted.1 hinserted.2 d hd ip hip
    · -- Nothing is inserted.
      have hrows : (if s.coord.poisoned = true then s.coord.db.nodes.rows
          else Op.rows s.coord.db.nodes.rows (.insertNode node token ttlSecs)) =
          s.coord.db.nodes.rows := by
        cases hpoisoned : s.coord.poisoned with
        | true => exact if_pos rfl
        | false =>
            rw [if_neg Bool.false_ne_true, Op.rows]
            exact if_neg fun hclashes => hinserted ⟨hpoisoned, hclashes⟩
      rw [hrows]
      refine iff_of_true hbefore fun hsound hclashes => ?_
      exact absurd ⟨hsound, hclashes⟩ hinserted
  · cases hstep

omit [CoordCrates] in
/-- An operation that inserts no node changes no key and no address. -/
theorem operation_delivers {op : Op}
    (hinsert : ∀ node token ttlSecs, op ≠ .insertNode node token ttlSecs)
    (hdelivers : s.Delivers) :
    Delivers { s with coord := (Coordinator.handle op s.coord).2 } := by
  have hrows : ∀ row ∈ (Coordinator.handle op s.coord).2.db.nodes.rows,
      ∃ before ∈ s.coord.db.nodes.rows, before.wgPubkey = row.wgPubkey ∧ before.ip = row.ip := by
    intro row hrow
    rw [Coordinator.handle_rows] at hrow
    split at hrow
    · exact ⟨row, hrow, rfl, rfl⟩
    · cases op with
      | insertNode node token ttlSecs => exact absurd rfl (hinsert node token ttlSecs)
      | updateHeartbeat nodeId endpoint viaRelay lastSeen =>
          obtain ⟨before, hbefore, rfl⟩ := List.mem_map.1 hrow
          refine ⟨before, hbefore, ?_⟩
          split <;> exact ⟨rfl, rfl⟩
      | deleteNode nodeId => exact ⟨row, (List.mem_filter.1 hrow).1, rfl, rfl⟩
      | _ => exact ⟨row, hrow, rfl, rfl⟩
  intro d hd row hrow ip hip idx peer hpeer hkey
  obtain ⟨before, hbefore, hsame, haddress⟩ := hrows row hrow
  exact hdelivers d hd before hbefore ip (haddress ▸ hip) idx peer hpeer (hkey.trans hsame.symm)

/-- A step keeps the daemon delivering exactly if it keeps the owners. -/
theorem step_iff {event : Event} (h : s.Regular) (hdelivers : s.Delivers)
    (hstep : s.step event = some t) : t.Delivers ↔ s.KeepsOwners event := by
  have hbefore := delivers_iff.1 hdelivers
  cases event with
  | operation op =>
      cases op with
      | insertNode node token ttlSecs => exact register_iff hdelivers hstep
      | _ =>
          cases hstep
          exact iff_of_true (operation_delivers nofun hdelivers) trivial
  | restart ttl =>
      cases hstep
      exact iff_of_true (delivers_iff.2 hbefore) trivial
  | fetch nodeId =>
      cases hstep
      exact iff_of_true (delivers_iff.2 hbefore) trivial
  | startup env config args => exact startup_iff h hstep
  | discover env => exact discover_iff h hdelivers hstep
  | manager event =>
      refine iff_of_true ?_ trivial
      rw [Site.step] at hstep
      split at hstep
      · cases hstep
      · rename_i hevent
        obtain ⟨d, hd, hstep⟩ := Option.bind_eq_some_iff.1 hstep
        obtain ⟨manager, hfire, rfl⟩ := Option.map_eq_some_iff.1 hstep
        have howners := TunnelManager.fire_owners (h.manager d hd)
          (fun env config heq => hevent (by rw [heq]; rfl)) hfire
        refine delivers_iff.2 fun d' hd' row hrow ip hip => ?_
        cases hd'
        rw [First, howners]
        exact hbefore d hd row hrow ip hip
  | stop =>
      cases hstep
      exact iff_of_true (fun d hd => nomatch hd) trivial

/-- In every run, packets are always delivered to the current owner of their address exactly if no
step hands on an address that the daemon knows another peer by. -/
theorem delivers_throughout_iff {ttl : I64} {clock : Clock} {instant : Instant}
    {events : List Event} (hrun : Transition.exec step (start ttl clock instant) events = some s) :
    Transition.AllStates step Delivers (start ttl clock instant) events ↔
      Transition.AllSteps step KeepsOwners (start ttl clock instant) events := by
  refine Transition.allStates_iff_allSteps (I := Regular) (fun _ _ _ h hstep => h.step hstep)
    (fun _ _ _ h hdelivers hstep => step_iff h hdelivers hstep) ?_ (fun d hd => nomatch hd) hrun
  exact ⟨nofun, ⟨[], .nil, nofun, rfl⟩, nofun⟩

omit [CoordCrates] in
/-- Where packets are delivered, the session of the owner is the only one that a packet for the
address of a node is given to. -/
theorem Delivers.dispatches {d : Daemon} {row : NodeRecord} {ip : Ipv4Addr} {idx : ℕ}
    {peer : PeerSession} {env : Env} {pkt : Bytes} (h : s.Delivers) (hd : s.daemon = some d)
    (hrow : row ∈ s.coord.db.nodes.rows) (hip : Ipv4Addr.parse row.ip = some ip)
    (hpeer : d.manager.peers[idx]? = some peer) (hkey : peer.config.peerPub.val = row.wgPubkey)
    (hpkt : TunnelManager.Addressed pkt ip) :
    TunnelManager.dispatchTunPacket env pkt d.manager =
      TunnelManager.atPeer idx
        (Session.sendEncrypted d.manager.config.localKeypair env pkt 1600) d.manager :=
  TunnelManager.dispatch_eq (h d hd row hrow ip hip idx peer hpeer hkey pkt hpkt)

end Site

end General

namespace Site

/-! ## An address that is handed on -/

section Symbolic

open Coord.Parties Symbolic

attribute [local instance] Symbolic.primitives Symbolic.release crates

/-- The operations of `register` for a node with a number, and of its first heartbeat. -/
def joins (nodeId : String) (node : UInt8) (ip : Ipv4Addr) : List Event :=
  [.operation .allocate,
    .operation (.insertNode {
      nodeId := nodeId
      identityPubkey := (Coord.Parties.key node).val
      wgPubkey := (publicKey (Symbolic.key node)).val
      ip := toString ip
      lastEndpoint := none
      viaRelay := none
      lastSeen := none
      createdAt := 1000 } nodeId 100),
    .operation (.updateHeartbeat nodeId (toString (address node)) none 1000)]

/-- The operations of `delete_node`. -/
def leaves (nodeId : String) (ip : Ipv4Addr) : List Event :=
  [.operation (.deleteNode nodeId), .operation (.release ip)]

/-- The daemon of the first node fetches a listing and takes up a number of peers of it. -/
def discovers (n : ℕ) : List Event :=
  .fetch "a" :: List.replicate n (.discover (quietEnv 60 ⟨1060, 0⟩ 8))

/-- The daemon of the first node starts with the peers that are listed. -/
def starts : List Event :=
  [.fetch "a", .startup (quietEnv 0 ⟨1000, 0⟩ 7) (nodeConfig 1)
    ⟨none, some "10.0.0.1:51820", none, ⟨.v4 .unspecified, 51820⟩⟩]

/-- A coordinator without nodes at the time 1000. -/
def early : Site := start (seconds 100) (moment 1000) 0

/-- The address of the second node. -/
def second : Ipv4Addr := ⟨100, 100, 0, 2⟩

/-- The daemon of the first node starts with the second one as its peer. -/
def twoNodes : List Event := joins "a" 1 ⟨100, 100, 0, 1⟩ ++ joins "b" 2 second ++ starts

/-- A third node joins under another address. -/
def thirdJoins : List Event := twoNodes ++ joins "c" 3 ⟨100, 100, 0, 3⟩ ++ discovers 2

/-- Packets for a node that joined under a free address are delivered. -/
theorem joined_delivers : Transition.AllStates step Delivers early thirdJoins := by
  have hcheck : ((Transition.exec step early thirdJoins).isSome &&
      decide (Transition.AllSteps step KeepsOwners early thirdJoins)) = true := by
    decide +kernel
  rw [Bool.and_eq_true, decide_eq_true_eq] at hcheck
  obtain ⟨s, hrun⟩ := Option.isSome_iff_exists.1 hcheck.1
  exact (delivers_throughout_iff hrun).2 hcheck.2

/-- The second node leaves, and a third one joins under its address. -/
def addressMoves : List Event :=
  twoNodes ++ leaves "b" second ++ joins "c" 3 second ++ discovers 1

/-- A packet for the address of a node is given to the session of the node that had it before. -/
theorem recycled_address_misrouted : ∃ s d row pkt peer former,
    Transition.exec step early addressMoves = some s ∧ s.daemon = some d ∧
      row ∈ s.coord.db.nodes.rows ∧ Ipv4Addr.parse row.ip = some second ∧
      TunnelManager.Addressed pkt second ∧ d.manager.peers[1]? = some peer ∧
      peer.config.peerPub.val = row.wgPubkey ∧ d.manager.lookupPeerByDestIp pkt = some 0 ∧
      d.manager.peers[0]? = some former ∧ former.config.peerPub ≠ peer.config.peerPub := by
  obtain ⟨pkt, hpkt⟩ := TunnelManager.exists_addressed second
  have hcheck : (Transition.exec step early addressMoves).any (fun s => s.daemon.any fun d =>
      s.coord.db.nodes.rows.any fun row => decide (Ipv4Addr.parse row.ip = some second) &&
        d.manager.peers[1]?.any fun peer => decide (peer.config.peerPub.val = row.wgPubkey) &&
          d.manager.peers[0]?.any fun former =>
            decide (former.config.peerPub ≠ peer.config.peerPub) &&
              decide (d.manager.owners.findIdx? (fun owner => owner.2 = second) = some 0)) =
      true := by
    decide +kernel
  simp only [Option.any_eq_true, List.any_eq_true, Bool.and_eq_true, decide_eq_true_eq] at hcheck
  obtain ⟨s, hrun, d, hd, row, hrow, hip, peer, hpeer, hkey, former, hformer, hne, hfind⟩ := hcheck
  exact ⟨s, d, row, pkt, peer, former, hrun, hd, hrow, hip, hpkt, hpeer, hkey,
    (TunnelManager.lookup_eq hpkt).trans hfind, hformer, hne⟩

end Symbolic

end Site

end Naboscale.Cli
