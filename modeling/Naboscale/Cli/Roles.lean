import Naboscale.Cli.Mesh
import Naboscale.Coord.Parties
import Naboscale.Transition

/-!
# Which of two nodes initiates

Each node decides on its own whether it initiates towards another one, from its own flag and the
other's record at the coordinator. A record keeps the relay of an earlier run, so the two
decisions fit together only for some histories of runs.
-/

namespace Naboscale.Cli

open Rust Coord

section General

variable [Profile] [CoordCrates]

namespace Mesh

/-! ## The history of a node -/

/-- What the history of a node comes to: whether its present run has `--relay`, and whether a
heartbeat of a run with `--relay` has come in since the node was registered. -/
structure Usage where
  relays : Bool
  announced : Bool
  deriving DecidableEq

/-- A step of the history of each node. -/
def note (usage : String → Usage) : Event → String → Usage
  | .up nodeId _ args =>
      Function.update usage nodeId { usage nodeId with relays := args.relay.isSome }
  | .heartbeat nodeId _ =>
      Function.update usage nodeId
        { usage nodeId with announced := (usage nodeId).announced || (usage nodeId).relays }
  | .operation (.deleteNode nodeId) =>
      Function.update usage nodeId { usage nodeId with announced := false }
  | .operation _ => usage
  | .restart _ => usage

/-- The history of each node in a run of the mesh. -/
def history (events : List Event) : String → Usage :=
  events.foldl note fun _ => ⟨false, false⟩

/-- One of two nodes initiates: only the one with the greater key has a relay, or that one has
none and the record of the other one is up to date. -/
def OneInitiates (greater smaller : Usage) : Prop :=
  (greater.relays = true ∧ smaller.relays = false) ∨
    (greater.relays = false ∧ smaller.relays = smaller.announced)

instance (greater smaller : Usage) : Decidable (OneInitiates greater smaller) :=
  inferInstanceAs (Decidable (_ ∨ _))

/-- The records and the runs are as the histories say. -/
structure Tracks (usage : String → Usage) (s : Mesh) : Prop where
  relays : ∀ nodeId run, s.runs nodeId = some run →
    run.relayEndpoint.isSome = (usage nodeId).relays
  announced : ∀ row ∈ s.coord.db.nodes.rows,
    (row.viaRelay.bind SocketAddr.parse).isSome = (usage row.nodeId).announced
  absent : ∀ nodeId, (∀ row ∈ s.coord.db.nodes.rows, row.nodeId ≠ nodeId) →
    (usage nodeId).announced = false

variable {s t : Mesh} {usage : String → Usage}

omit [Profile] [CoordCrates] in
/-- Only the runs and the rows matter. -/
theorem Tracks.of_rows (h : Tracks usage s) (hruns : t.runs = s.runs)
    (hrows : t.coord.db.nodes.rows = s.coord.db.nodes.rows) : Tracks usage t := by
  refine ⟨?_, ?_, ?_⟩
  · rw [hruns]
    exact h.relays
  · rw [hrows]
    exact h.announced
  · rw [hrows]
    exact h.absent

omit [Profile] in
theorem start_relays {wgPublic : Key} {args : UpArgs} {run : Run}
    (h : Run.start wgPublic args = .ok run) : run.relayEndpoint.isSome = args.relay.isSome := by
  obtain ⟨relayEndpoint, hrelay, h⟩ := ok_of_bind h
  obtain ⟨_, _, h⟩ := ok_of_bind h
  cases h
  show relayEndpoint.isSome = _
  cases hargs : args.relay with
  | none =>
      rw [hargs] at hrelay
      cases hrelay
      rfl
  | some text =>
      rw [hargs] at hrelay
      simp only [parseRelay] at hrelay
      cases hparse : parseAddr (.invalidRelay text) text with
      | error e =>
          simp only [hparse] at hrelay
          cases hrelay
      | ok addr =>
          simp only [hparse] at hrelay
          cases hrelay
          rfl

omit [Profile] [CoordCrates] in
/-- A heartbeat that is accepted writes the relay of the run, or leaves the one that is there. -/
theorem Tracks.heartbeat {nodeId : String} {run : Run} {lastSeen : ℤ} (h : Tracks usage s)
    (hrun : s.runs nodeId = some run) (haccepts : s.Accepts nodeId run)
    (hruns : t.runs = s.runs)
    (hrows : t.coord.db.nodes.rows =
      (Op.updateHeartbeat nodeId run.advertised run.viaRelay lastSeen).rows s.coord.db.nodes.rows) :
    Tracks (note usage (.heartbeat nodeId lastSeen)) t := by
  have hrelays := h.relays nodeId run hrun
  refine ⟨?_, ?_, ?_⟩
  · intro nodeId' run' hrun'
    rw [hruns] at hrun'
    by_cases hid : nodeId' = nodeId
    · subst hid
      simpa [note] using h.relays nodeId' run' hrun'
    · simpa [note, hid] using h.relays nodeId' run' hrun'
  · intro row hrow
    rw [hrows] at hrow
    obtain ⟨before, hbefore, rfl⟩ := List.mem_map.1 hrow
    have hrecord := h.announced before hbefore
    by_cases hid : before.nodeId = nodeId
    · subst hid
      simp only [if_true, note, Function.update_self]
      rw [← hrecord, ← hrelays, Run.viaRelay]
      cases run.relayEndpoint with
      | none => rw [Option.map_none, Option.none_or, Option.isSome_none, Bool.or_false]
      | some addr =>
          rw [Option.map_some, Option.some_or, Option.bind_some, SocketAddr.parse_toString,
            Option.isSome_some, Bool.or_true]
    · simp only [if_neg hid, note, Function.update_of_ne hid]
      exact hrecord
  · intro nodeId' habsent
    rw [hrows] at habsent
    have hbefore : ∀ row ∈ s.coord.db.nodes.rows, row.nodeId ≠ nodeId' := by
      intro row hrow hid
      refine habsent _ (List.mem_map_of_mem hrow) ?_
      split <;> exact hid
    obtain ⟨row, hrow, hid⟩ := haccepts.2.1
    have hother : nodeId' ≠ nodeId := fun h => hbefore row hrow (hid.trans h.symm)
    simpa [note, hother] using h.absent nodeId' hbefore

omit [CoordCrates] in
/-- The operations of the other handlers add rows without a relay and delete rows. -/
theorem Tracks.operation {op : Op} (h : Tracks usage s) (hsound : s.coord.poisoned = false)
    (hother : ofOtherHandler op = true) :
    Tracks (note usage (.operation op)) { s with coord := (Coordinator.handle op s.coord).2 } := by
  have hrows := Coordinator.handle_rows op s.coord
  rw [hsound, if_neg Bool.false_ne_true] at hrows
  cases op with
  | checkRateLimit | currentTimestamp | allocate | release | getNodeByToken | listPeers
  | createToken | revokeAllTokensForNode => exact h.of_rows rfl hrows
  | updateHeartbeat => cases hother
  | insertNode node token ttlSecs =>
      rw [Op.rows] at hrows
      split at hrows
      · -- The row is new, and so was its node.
        rename_i hclashes
        have hfree : ∀ row ∈ s.coord.db.nodes.rows, row.nodeId ≠ node.nodeId :=
          fun row hrow hid => apart_of_clashes_nil hclashes row hrow .nodeId hid
        refine ⟨h.relays, ?_, ?_⟩
        · intro row hrow
          rw [hrows] at hrow
          obtain hrow | hrow := List.mem_append.1 hrow
          · exact h.announced row hrow
          · cases List.mem_singleton.1 hrow
            have hnone : node.viaRelay = none := Option.isNone_iff_eq_none.1 hother
            show (node.viaRelay.bind _).isSome = (usage node.nodeId).announced
            rw [hnone, h.absent node.nodeId hfree]
            rfl
        · intro nodeId habsent
          rw [hrows] at habsent
          exact h.absent nodeId fun row hrow => habsent row (List.mem_append_left _ hrow)
      · exact h.of_rows rfl hrows
  | deleteNode nodeId =>
      -- The rows of the other nodes stay, and the record of the deleted node is forgotten with its
      -- row.
      have hmem : ∀ row, row ∈ (Coordinator.handle (.deleteNode nodeId) s.coord).2.db.nodes.rows ↔
          row ∈ s.coord.db.nodes.rows ∧ row.nodeId ≠ nodeId := by
        intro row
        rw [hrows, Op.rows, List.mem_filter, Bool.not_eq_true', decide_eq_false_iff_not]
      refine ⟨?_, ?_, ?_⟩
      · intro nodeId' run hrun
        by_cases hid : nodeId' = nodeId
        · subst hid
          simpa [note] using h.relays nodeId' run hrun
        · simpa [note, hid] using h.relays nodeId' run hrun
      · intro row hrow
        obtain ⟨hrow, hid⟩ := (hmem row).1 hrow
        simpa [note, hid] using h.announced row hrow
      · intro nodeId' habsent
        by_cases hid : nodeId' = nodeId
        · subst hid
          simp [note]
        · have hbefore : ∀ row ∈ s.coord.db.nodes.rows, row.nodeId ≠ nodeId' := by
            intro row hrow hid'
            exact habsent row ((hmem row).2 ⟨hrow, fun h => hid (hid'.symm.trans h)⟩) hid'
          simpa [note, hid] using h.absent nodeId' hbefore

/-- Every step keeps the histories in step with the records. -/
theorem Tracks.step {event : Event} (h : Tracks usage s) (hstep : s.step event = some t) :
    Tracks (note usage event) t := by
  cases event with
  | up nodeId wgPublic args =>
      rw [Mesh.step] at hstep
      cases hstart : Run.start wgPublic args with
      | error e =>
          rw [hstart] at hstep
          cases hstep
      | ok run =>
          rw [hstart] at hstep
          cases hstep
          refine ⟨?_, ?_, ?_⟩
          · intro nodeId' run' hrun'
            dsimp only at hrun'
            by_cases hid : nodeId' = nodeId
            · subst hid
              rw [Function.update_self] at hrun'
              cases hrun'
              simpa [note] using start_relays hstart
            · rw [Function.update_of_ne hid] at hrun'
              simpa [note, hid] using h.relays nodeId' run' hrun'
          · intro row hrow
            have hrecord := h.announced row hrow
            by_cases hid : row.nodeId = nodeId
            · simpa [note, hid] using hrecord
            · simpa [note, hid] using hrecord
          · intro nodeId' habsent
            have hnone := h.absent nodeId' habsent
            by_cases hid : nodeId' = nodeId
            · simpa [note, hid] using hnone
            · simpa [note, hid] using hnone
  | heartbeat nodeId lastSeen =>
      obtain ⟨run, hrun, hstep⟩ := Option.bind_eq_some_iff.1 hstep
      split at hstep
      · rename_i haccepts
        cases hstep
        refine h.heartbeat hrun haccepts rfl ?_
        rw [Coordinator.handle_rows, haccepts.1, if_neg Bool.false_ne_true]
      · cases hstep
  | operation op =>
      rw [Mesh.step] at hstep
      split at hstep
      · rename_i hok
        cases hstep
        exact h.operation hok.1 hok.2
      · cases hstep
  | restart ttl =>
      cases hstep
      exact h.of_rows rfl rfl

theorem history_tracks {ttl : I64} {clock : Clock} {instant : Instant} {events : List Event}
    (hrun : Transition.exec step (start ttl clock instant) events = some s) :
    Tracks (history events) s := by
  have hfold : ∀ {usage} {s t : Mesh} {events : List Event}, Tracks usage s →
      Transition.exec Mesh.step s events = some t → Tracks (events.foldl note usage) t := by
    intro usage s t events h hrun
    induction events generalizing usage s with
    | nil =>
        cases hrun
        exact h
    | cons event events ih =>
        obtain ⟨u, hu, hrest⟩ := Transition.exec_cons_inv hrun
        exact ih (h.step hu) hrest
  refine hfold ⟨?_, ?_, ?_⟩ hrun
  · exact fun nodeId run h => nomatch h
  · exact fun row h => nomatch h
  · exact fun nodeId _ => rfl

/-! ## The roles -/

omit [Profile] in
/-- A node whose key is listed is the one that the entry is about. -/
theorem entry_key (hbase64 : Base64RoundTrip) {row : NodeRecord} {key : Key}
    (h : peerKey (entry row) = .ok key) : row.wgPubkey = key.val := by
  rw [peerKey, entry, hbase64 row.wgPubkey] at h
  dsimp only at h
  split at h
  · cases h
    rfl
  · cases h

omit [Profile] in
/-- The role that a node takes towards another one that is up. -/
theorem configures_role (hbase64 : Base64RoundTrip) (htracks : Tracks usage s) {a b : String}
    {runA runB : Run} {config : PeerConfig} (hA : s.Up a runA) (hB : s.Up b runB)
    (hconfig : runA.Configures (s.listing a) config) (hpub : config.peerPub = runB.wgPublic) :
    config.isInitiator =
      ((usage a).relays ||
        !(usage b).announced && decide (runB.wgPublic.val < runA.wgPublic.val)) := by
  obtain ⟨peer, hpeer, senderId, hkey, hdiscovered⟩ := hconfig.discovered
  obtain ⟨row, hrow, rfl⟩ := List.mem_map.1 hpeer
  have hmem : row ∈ s.coord.db.nodes.rows := (List.mem_filter.1 hrow).1
  -- The entry is the one of `b`: keys are unique.
  obtain ⟨rowB, hrowB, hid, hkeyB⟩ := hB.listed
  have hsame : row = rowB := by
    refine s.coord.db.nodes.eq_of_not_apart hmem hrowB fun h => h .wgPubkey ?_
    show row.wgPubkey = rowB.wgPubkey
    rw [entry_key hbase64 hkey, hpub, hkeyB]
  have hannounced := htracks.announced row hmem
  have hrelays := htracks.relays a runA hA.running
  have hrole : config.isInitiator =
      isInitiator runA.wgPublic config.peerPub runA.relayEndpoint
        (discoveredViaRelay (entry row)) := by
    obtain ⟨_, _, _, _, hconfig⟩ := discoveredPeer_some hdiscovered
    exact congrArg PeerConfig.isInitiator hconfig
  rw [hsame, hid] at hannounced
  rw [hrole, hpub, isInitiator, hsame]
  show (if runA.relayEndpoint.isSome = true then true
    else if (rowB.viaRelay.bind SocketAddr.parse).isSome = true then false
    else decide (runB.wgPublic.val < runA.wgPublic.val)) = _
  rw [hannounced, hrelays]
  cases (usage a).relays <;> cases (usage b).announced <;> rfl

/-- The roles of two nodes complement each other exactly if their histories allow it. -/
theorem one_initiates_iff (hbase64 : Base64RoundTrip) {ttl : I64} {clock : Clock}
    {instant : Instant} {events : List Event} {a b : String} {runA runB : Run}
    {configA configB : PeerConfig}
    (hrun : Transition.exec step (start ttl clock instant) events = some s)
    (hmeet : s.Meet a b runA runB configA configB) :
    (configA.isInitiator ≠ configB.isInitiator) ↔
      if runB.wgPublic.val < runA.wgPublic.val then
        OneInitiates (history events a) (history events b)
      else OneInitiates (history events b) (history events a) := by
  have htracks := history_tracks hrun
  rw [configures_role hbase64 htracks hmeet.upA hmeet.upB hmeet.configuresA hmeet.peerA,
    configures_role hbase64 htracks hmeet.upB hmeet.upA hmeet.configuresB hmeet.peerB]
  obtain ⟨relaysA, announcedA⟩ := history events a
  obtain ⟨relaysB, announcedB⟩ := history events b
  by_cases hgreater : runB.wgPublic.val < runA.wgPublic.val
  · have hless : ¬ runA.wgPublic.val < runB.wgPublic.val := List.lt_asymm hgreater
    rw [if_pos hgreater, decide_eq_true hgreater, decide_eq_false hless]
    revert relaysA announcedA relaysB announcedB
    decide
  · -- The keys are in the other order.
    have hless : runA.wgPublic.val < runB.wgPublic.val := by
      by_contra hnot
      exact hmeet.keys
        (Subtype.ext (List.le_antisymm (List.not_lt.1 hgreater) (List.not_lt.1 hnot)))
    rw [if_neg hgreater, decide_eq_true hless, decide_eq_false hgreater]
    revert relaysA announcedA relaysB announcedB
    decide

end Mesh

end General

namespace Mesh

/-! ## Two nodes -/

section Parties

open Coord.Parties

attribute [local instance] crates Symbolic.release

/-- The roles that two nodes that are up take towards each other at startup. -/
def roles (s : Mesh) (a b : String) : Option (Bool × Bool) := do
  let runA ← s.runs a
  let runB ← s.runs b
  let configsA ← (startupPeers runA.wgPublic runA.relayEndpoint 0 (s.listing a)).toOption
  let configsB ← (startupPeers runB.wgPublic runB.relayEndpoint 0 (s.listing b)).toOption
  let configA ← configsA.find? fun config => config.peerPub = runB.wgPublic
  let configB ← configsB.find? fun config => config.peerPub = runA.wgPublic
  if runA.wgPublic ≠ runB.wgPublic ∧
      (∃ row ∈ s.coord.db.nodes.rows, row.nodeId = a ∧ row.wgPubkey = runA.wgPublic.val) ∧
      ∃ row ∈ s.coord.db.nodes.rows, row.nodeId = b ∧ row.wgPubkey = runB.wgPublic.val then
    some (configA.isInitiator, configB.isInitiator)
  else none

theorem meet_of_roles {s : Mesh} {a b : String} {initA initB : Bool}
    (h : s.roles a b = some (initA, initB)) :
    ∃ runA runB configA configB, s.Meet a b runA runB configA configB ∧
      configA.isInitiator = initA ∧ configB.isInitiator = initB := by
  have hconfigures {run : Run} {listing : List PeerEntry} {configs : List PeerConfig}
      {config : PeerConfig} {key : Key}
      (hconfigs : (startupPeers run.wgPublic run.relayEndpoint 0 listing).toOption = some configs)
      (hfind : configs.find? (fun config => config.peerPub = key) = some config) :
      run.Configures listing config ∧ config.peerPub = key := by
    refine ⟨.inl ⟨configs, ?_, List.mem_of_find?_eq_some hfind⟩, ?_⟩
    · cases hresult : startupPeers run.wgPublic run.relayEndpoint 0 listing with
      | error e =>
          rw [hresult] at hconfigs
          cases hconfigs
      | ok result =>
          rw [hresult] at hconfigs
          cases hconfigs
          rfl
    · simpa using List.find?_some hfind
  simp only [roles, bind, Option.bind_eq_some_iff] at h
  obtain ⟨runA, hrunA, runB, hrunB, configsA, hconfigsA, configsB, hconfigsB, configA, hfindA,
    configB, hfindB, h⟩ := h
  split at h
  · rename_i hok
    cases h
    obtain ⟨hA, hpeerA⟩ := hconfigures hconfigsA hfindA
    obtain ⟨hB, hpeerB⟩ := hconfigures hconfigsB hfindB
    exact ⟨runA, runB, configA, configB,
      ⟨⟨hrunA, hok.2.1⟩, ⟨hrunB, hok.2.2⟩, hok.1, hA, hB, hpeerA, hpeerB⟩, rfl, rfl⟩
  · cases h

/-- The registration of a node with a key. -/
def registered (nodeId ip : String) (byte : UInt8) : Event :=
  .operation (.insertNode {
    nodeId := nodeId
    identityPubkey := (key (byte + 100)).val
    wgPubkey := (key byte).val
    ip := ip
    lastEndpoint := none
    viaRelay := none
    lastSeen := none
    createdAt := 1000 } nodeId 100)

/-- What a node on port 51820 is given, with or without a relay. -/
def given (relay : Option String) : UpArgs where
  relay := relay
  advertiseEndpoint := none
  envAdvertiseEndpoint := some "192.0.2.9:51820"
  boundEndpoint := ⟨.v4 .unspecified, 51820⟩

/-- Two nodes register, start and send one heartbeat each; the second one has the greater key. -/
def meeting (relayA relayB : Option String) : List Event :=
  [registered "a" "100.100.0.1" 1, registered "b" "100.100.0.2" 2, .up "a" (key 1) (given relayA),
    .up "b" (key 2) (given relayB), .heartbeat "a" 1000, .heartbeat "b" 1000]

/-- A mesh without nodes at the time 1000. -/
def early : Mesh := start (seconds 100) (moment 1000) 0

theorem base64RoundTrip : Base64RoundTrip := by
  intro bytes
  show (decode (String.ofList (encode bytes)).toList).elim (.error ()) Except.ok = _
  rw [String.toList_ofList, decode_encode]
  rfl

/-- Where only one node has a relay, that one initiates. -/
theorem relayed_meets_direct : ∃ s runA runB configA configB,
    Transition.exec step early (meeting (some "198.51.100.7:51820") none) = some s ∧
      s.Meet "a" "b" runA runB configA configB ∧ configA.isInitiator ≠ configB.isInitiator := by
  have hcheck : (Transition.exec step early (meeting (some "198.51.100.7:51820") none)).any
      (fun s => decide (s.roles "a" "b" = some (true, false))) = true := by
    decide +kernel
  obtain ⟨s, hrun, hroles⟩ := (Option.any_eq_true _ _).1 hcheck
  obtain ⟨runA, runB, configA, configB, hmeet, -, -⟩ := meet_of_roles (of_decide_eq_true hroles)
  refine ⟨s, runA, runB, configA, configB, hrun, hmeet, ?_⟩
  refine (one_initiates_iff base64RoundTrip hrun hmeet).2 ?_
  split <;> decide +kernel

/-- Two nodes that both have a relay both initiate. -/
theorem relayed_meets_relayed : ∃ s runA runB configA configB,
    Transition.exec step early
        (meeting (some "198.51.100.7:51820") (some "198.51.100.7:51820")) = some s ∧
      s.Meet "a" "b" runA runB configA configB ∧
        configA.isInitiator = true ∧ configB.isInitiator = true := by
  have hcheck : (Transition.exec step early
      (meeting (some "198.51.100.7:51820") (some "198.51.100.7:51820"))).any
      (fun s => decide (s.roles "a" "b" = some (true, true))) = true := by
    decide +kernel
  obtain ⟨s, hrun, hroles⟩ := (Option.any_eq_true _ _).1 hcheck
  obtain ⟨runA, runB, configA, configB, hmeet, hA, hB⟩ :=
    meet_of_roles (of_decide_eq_true hroles)
  exact ⟨s, runA, runB, configA, configB, hrun, hmeet, hA, hB⟩

end Parties

end Mesh

end Naboscale.Cli
