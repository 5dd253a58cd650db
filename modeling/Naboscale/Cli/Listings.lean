import Naboscale.Cli.Agreement
import Naboscale.Cli.Roles
import Naboscale.Coord.Journal

/-!
# The listings that startup reads

What the coordinator stores about a node and serves to the others, and what `up` on their machines
makes of it. `register` and `heartbeat` check every field of a row that startup has to read but one:
the endpoint is stored as it was sent, and where it is no address, nobody who is sent it gets up.
-/

namespace Naboscale.Cli

open Rust Coord Concurrent

section General

variable [Profile] [CoordCrates]

/-! ## What a handler stores -/

/-- Where the operation stores a field that startup reads, the field can be read: all but the
endpoint of a heartbeat. -/
def StoresLegibly : Op → Prop
  | .insertNode node _ _ =>
      node.wgPubkey.length = 32 ∧ (∃ ip : Ipv4Addr, node.ip = toString ip) ∧
        node.lastEndpoint = none ∧ node.viaRelay = none
  | .updateHeartbeat _ _ viaRelay _ => ∀ relay, viaRelay = some relay → isSocketAddr relay = true
  | _ => True

variable {request : Request} {ttl : I64} {draws : Draws}

omit [Profile] in
theorem storesLegibly_regular : Regular fun p => p.Always fun op _ => StoresLegibly op where
  finished {p} h := by
    cases p with
    | call => cases h
    | _ => trivial
  call {op _} hop h := by
    refine ⟨?_, h⟩
    cases op with
    | checkRateLimit | currentTimestamp | getNodeByToken => trivial
    | _ => exact hop.elim

/-- Every handler checks what it stores. -/
theorem handler_storesLegibly (request : Request) :
    (request.handler ttl draws).Always fun op _ => StoresLegibly op := by
  have hreg := storesLegibly_regular
  cases request with
  | register peer req =>
      refine hreg.checkRateLimit fun _ => hreg.lift fun identityPubkey => hreg.lift fun wgPubkey =>
        hreg.lift fun _ => hreg.call trivial fun now => hreg.unwrap fun _ _ => hreg.lift fun _ =>
        hreg.lift fun _ => ⟨trivial, fun allocated => ?_⟩
      cases allocated with
      | none => trivial
      | some ip =>
          refine hreg.unwrap fun expiresAt _ => ⟨?_, fun r => hreg.lift fun _ => trivial⟩
          exact ⟨Arr.length_eq wgPubkey, ⟨ip, rfl⟩, rfl, rfl⟩
  | peers peer authorization =>
      exact hreg.checkRateLimit fun _ => hreg.authenticate fun _ _ => ⟨trivial, fun _ => trivial⟩
  | heartbeat peer authorization req =>
      refine hreg.checkRateLimit fun _ => hreg.authenticate fun now caller =>
        hreg.decodeSigned fun _ => hreg.lift fun _ => ?_
      cases hrelay : req.viaRelay.filter fun r => !isSocketAddr r with
      | some r => trivial
      | none =>
          refine ⟨fun relay hsome => ?_, fun _ => trivial⟩
          -- The handler has refused a relay that is no address.
          rw [hsome, Option.filter_some] at hrelay
          by_contra hbad
          simp [hbad] at hrelay
  | refreshToken peer authorization req =>
      exact hreg.checkRateLimit fun _ => hreg.authenticate fun _ _ => hreg.decodeSigned fun _ =>
        hreg.lift fun _ => ⟨trivial, fun _ => ⟨trivial, fun _ => hreg.lift fun _ =>
          hreg.unwrap fun _ _ => trivial⟩⟩
  | deleteNode peer authorization req =>
      refine hreg.checkRateLimit fun _ => hreg.authenticate fun _ _ => hreg.decodeSigned fun _ =>
        hreg.lift fun _ => ⟨trivial, fun ip => ?_⟩
      dsimp only [Program.bind]
      split
      · trivial
      · exact ⟨trivial, fun _ => trivial⟩

/-! ## The rows -/

/-- The endpoint is one that startup can read: a wildcard, or an address. -/
def ReadsEndpoint (endpoint : String) : Prop :=
  isWildcard endpoint = false → (SocketAddr.parse endpoint).isSome = true

instance (endpoint : String) : Decidable (ReadsEndpoint endpoint) :=
  inferInstanceAs (Decidable (_ → _))

/-- Startup can read every field of the row but the endpoint, and it reads a relay only together
with an endpoint. -/
structure Stored (row : NodeRecord) : Prop where
  key : row.wgPubkey.length = 32
  ip : ∃ ip : Ipv4Addr, row.ip = toString ip
  relay : ∀ relay, row.viaRelay = some relay → (SocketAddr.parse relay).isSome = true

/-- The endpoint of the row, where it has one, can be read. -/
def HasLegibleEndpoint (row : NodeRecord) : Prop :=
  ∀ endpoint, row.lastEndpoint = some endpoint → ReadsEndpoint endpoint

omit [Profile] in
/-- The entry of a row in a listing can be read exactly if the endpoint of the row can. -/
theorem legible_iff (hbase64 : Base64RoundTrip) {row : NodeRecord} (h : Stored row) :
    Legible row.listed ↔ HasLegibleEndpoint row := by
  refine ⟨fun hlegible endpoint => hlegible.endpoint endpoint, fun hendpoint => ?_⟩
  refine ⟨⟨⟨row.wgPubkey, h.key⟩, ?_⟩, h.relay, hendpoint, fun _ => ?_⟩
  · rw [peerKey, NodeRecord.listed, hbase64]
    exact dif_pos h.key
  · obtain ⟨ip, hip⟩ := h.ip
    show (Ipv4Addr.parse row.ip).isSome = true
    rw [hip, Ipv4Addr.parse_toString]
    rfl

/-- The operation stores for no node an endpoint that startup cannot read. -/
def Op.Readable (rows : List NodeRecord) : Op → Prop
  | .updateHeartbeat nodeId endpoint _ _ =>
      (∃ row ∈ rows, row.nodeId = nodeId) → ReadsEndpoint endpoint
  | _ => True

omit [Profile] [CoordCrates] in
/-- An operation of a handler keeps the rows as startup can read them. -/
theorem stored_rows {op : Op} {rows : List NodeRecord} (hlegible : StoresLegibly op)
    (h : ∀ row ∈ rows, Stored row) : ∀ row ∈ op.rows rows, Stored row := by
  intro row hrow
  cases op with
  | insertNode node token ttlSecs =>
      rw [Op.rows] at hrow
      split at hrow
      · obtain hrow | hrow := List.mem_append.1 hrow
        · exact h row hrow
        · obtain ⟨hkey, hip, _, hrelay⟩ := hlegible
          cases List.mem_singleton.1 hrow
          refine ⟨hkey, hip, fun relay hsome => ?_⟩
          cases hrelay.symm.trans hsome
      · exact h row hrow
  | updateHeartbeat nodeId endpoint viaRelay lastSeen =>
      obtain ⟨former, hformer, rfl⟩ := List.mem_map.1 hrow
      have hstored := h former hformer
      split
      · refine ⟨hstored.key, hstored.ip, fun relay hsome => ?_⟩
        obtain hnew | ⟨_, hold⟩ := Option.or_eq_some_iff.1 hsome
        · rw [← isSocketAddr_eq]
          exact hlegible relay hnew
        · exact hstored.relay relay hold
      · exact hstored
  | deleteNode nodeId => exact h row (List.mem_filter.1 hrow).1
  | _ => exact h row hrow

omit [Profile] [CoordCrates] in
/-- An operation that stores no unreadable endpoint keeps the endpoints readable. -/
theorem endpoint_rows {op : Op} {rows : List NodeRecord} (hlegible : StoresLegibly op)
    (hreadable : Op.Readable rows op) (h : ∀ row ∈ rows, HasLegibleEndpoint row) :
    ∀ row ∈ op.rows rows, HasLegibleEndpoint row := by
  intro row hrow
  cases op with
  | insertNode node token ttlSecs =>
      rw [Op.rows] at hrow
      split at hrow
      · obtain hrow | hrow := List.mem_append.1 hrow
        · exact h row hrow
        · cases List.mem_singleton.1 hrow
          intro endpoint hsome
          cases hsome
      · exact h row hrow
  | updateHeartbeat nodeId endpoint viaRelay lastSeen =>
      obtain ⟨former, hformer, rfl⟩ := List.mem_map.1 hrow
      split
      · rename_i hid
        intro stored hsome
        cases hsome
        exact hreadable ⟨former, hformer, hid⟩
      · exact h former hformer
  | deleteNode nodeId => exact h row (List.mem_filter.1 hrow).1
  | _ => exact h row hrow

/-! ## Runs of the server -/

/-- The handlers store what can be read, and the rows can be read but for their endpoints. -/
structure Tidy (s : Server) : Prop where
  tasks : ∀ i, (s.task i).Always fun op _ => StoresLegibly op
  rows : ∀ row ∈ s.coord.db.nodes.rows, Stored row

/-- The step stores for no node an endpoint that startup cannot read: no heartbeat with one takes
effect. -/
def ReadableStep (s : Server) : Coord.Event → Prop
  | .advance i =>
      match s.task i with
      | .call op _ => s.coord.poisoned = false → Op.Readable s.coord.db.nodes.rows op
      | _ => True
  | _ => True

variable {s t : Server} {event : Coord.Event}

/-- A step changes the rows of `nodes` by the operation of a handler, or not at all. -/
theorem rows_of_step (hstep : s.step event = some t) :
    t.coord.db.nodes.rows = s.coord.db.nodes.rows ∨
      ∃ i op next, event = .advance i ∧ s.task i = .call op next ∧ s.coord.poisoned = false ∧
        t.coord.db.nodes.rows = op.rows s.coord.db.nodes.rows := by
  cases event with
  | spawn i request draws =>
      rw [Server.step] at hstep
      split at hstep
      · cases hstep
      · cases hstep
        exact Or.inl rfl
  | advance i =>
      cases hstep
      cases htask : s.task i with
      | call op next =>
          have hrows : (s.pool.advance Coordinator.handle i).shared.db.nodes.rows =
              if s.coord.poisoned then s.coord.db.nodes.rows
              else op.rows s.coord.db.nodes.rows := by
            rw [Pool.advance_call htask]
            exact Coordinator.handle_rows op s.coord
          cases hpoisoned : s.coord.poisoned with
          | true =>
              rw [hpoisoned, if_pos rfl] at hrows
              exact Or.inl hrows
          | false =>
              rw [hpoisoned, if_neg Bool.false_ne_true] at hrows
              exact Or.inr ⟨i, op, next, rfl, htask, rfl, hrows⟩
      | _ =>
          refine Or.inl ?_
          show (s.pool.advance Coordinator.handle i).shared.db.nodes.rows = _
          rw [Pool.advance_idle (i := i) (congrArg Program.isRunning htask)]
  | tick clock instant =>
      cases hstep
      exact Or.inl rfl
  | restart ttl =>
      cases hstep
      exact Or.inl rfl

theorem Tidy.step (h : Tidy s) (hstep : s.step event = some t) : Tidy t := by
  constructor
  · intro i
    cases event with
    | spawn j request draws =>
        rw [Server.step] at hstep
        split at hstep
        · cases hstep
        · cases hstep
          by_cases hi : i = j
          · subst hi
            show (Function.update s.pool.tasks i _ i).Always _
            rw [Function.update_self]
            exact handler_storesLegibly request
          · show (Function.update s.pool.tasks j _ i).Always _
            rw [Function.update_of_ne hi]
            exact h.tasks i
    | advance j =>
        cases hstep
        by_cases hi : i = j
        · subst hi
          have hnext : ((s.task i).step Coordinator.handle s.coord).1.Always _ :=
            (h.tasks i).step s.coord
          simpa [Server.task, Pool.advance] using hnext
        · simpa [Server.task, Pool.advance, hi] using h.tasks i
    | tick clock instant =>
        cases hstep
        exact h.tasks i
    | restart ttl =>
        cases hstep
        trivial
  · obtain hsame | ⟨i, op, next, rfl, htask, _, hrows⟩ := rows_of_step hstep
    · rw [hsame]
      exact h.rows
    · have hall : (Program.call op next).Always fun op _ => StoresLegibly op := htask ▸ h.tasks i
      rw [hrows]
      exact stored_rows hall.1 h.rows

omit [Profile] in
theorem start_tidy (ttl : I64) (clock : Clock) (instant : Instant) :
    Tidy (.start ttl clock instant) :=
  ⟨fun _ => trivial, fun _ hrow => absurd hrow List.not_mem_nil⟩

theorem tidy_of_run {clock : Clock} {instant : Instant} {events : List Coord.Event}
    (hrun : Transition.exec Server.step (.start ttl clock instant) events = some s) : Tidy s :=
  Transition.Reaches.invariant (fun _ _ _ h hstep => h.step hstep) (start_tidy ttl clock instant)
    ⟨events, hrun⟩

/-! ## What startup makes of a listing -/

/-- What `peers` answers to a node. -/
def listingFor (s : Server) (nodeId : String) : List PeerEntry :=
  (s.coord.db.listPeers (some nodeId)).map NodeRecord.listed

/-- Startup reads the listing for the node without an error, whatever its key and its relay. -/
def StartsUp (s : Server) (nodeId : String) : Prop :=
  ∀ (wgPublic : Key) (relayEndpoint : Option SocketAddr), ∃ configs,
    startupPeers wgPublic relayEndpoint 0 (listingFor s nodeId) = .ok configs

omit [Profile] in
/-- A node gets up exactly if every other node has no endpoint yet, or one that can be read. -/
theorem startsUp_iff (hbase64 : Base64RoundTrip) (h : Tidy s) (nodeId : String) :
    StartsUp s nodeId ↔
      ∀ row ∈ s.coord.db.nodes.rows, row.nodeId ≠ nodeId → HasLegibleEndpoint row := by
  have hlisted : (∀ peer ∈ listingFor s nodeId, Legible peer) ↔
      ∀ row ∈ s.coord.db.nodes.rows, row.nodeId ≠ nodeId → HasLegibleEndpoint row := by
    rw [listingFor, List.forall_mem_map]
    constructor
    · intro hall row hrow hother
      have hmem : row ∈ s.coord.db.listPeers (some nodeId) :=
        List.mem_filter.2 ⟨hrow, by simpa using Ne.symm hother⟩
      exact (legible_iff hbase64 (h.rows row hrow)).1 (hall row hmem)
    · intro hall row hmem
      obtain ⟨hrow, hother⟩ := List.mem_filter.1 hmem
      refine (legible_iff hbase64 (h.rows row hrow)).2 (hall row hrow ?_)
      intro hsame
      simp [hsame] at hother
  rw [← hlisted]
  constructor
  · intro hup
    exact startupPeers_ok_iff.1 (hup (Arr.zeros 32) none)
  · intro hall wgPublic relayEndpoint
    exact startupPeers_ok_iff.2 hall

omit [Profile] in
/-- Whoever asks gets up exactly if every node has no endpoint yet, or one that can be read. -/
theorem everyone_startsUp_iff (hbase64 : Base64RoundTrip) (h : Tidy s) :
    (∀ nodeId, StartsUp s nodeId) ↔ ∀ row ∈ s.coord.db.nodes.rows, HasLegibleEndpoint row := by
  simp only [startsUp_iff hbase64 h]
  constructor
  · intro hall row hrow
    -- Somebody else asks.
    refine hall (row.nodeId.push 'x') row hrow fun hsame => ?_
    have hlen := congrArg String.length hsame
    rw [String.length_push] at hlen
    omega
  · intro hall nodeId row hrow _
    exact hall row hrow

/-- As long as everyone gets up, a step keeps it so exactly if it stores no endpoint that cannot be
read. -/
theorem startsUp_step (hbase64 : Base64RoundTrip) (h : Tidy s) (hup : ∀ nodeId, StartsUp s nodeId)
    (hstep : s.step event = some t) : (∀ nodeId, StartsUp t nodeId) ↔ ReadableStep s event := by
  rw [everyone_startsUp_iff hbase64 h] at hup
  rw [everyone_startsUp_iff hbase64 (h.step hstep)]
  constructor
  · intro hend
    cases event with
    | advance i =>
        cases htask : s.task i with
        | call op next =>
            simp only [ReadableStep, htask]
            intro hsound
            cases op with
            | updateHeartbeat nodeId endpoint viaRelay lastSeen =>
                intro ⟨row, hrow, hid⟩
                have hrows : t.coord.db.nodes.rows =
                    Op.rows s.coord.db.nodes.rows
                      (.updateHeartbeat nodeId endpoint viaRelay lastSeen) := by
                  cases hstep
                  show (s.pool.advance Coordinator.handle i).shared.db.nodes.rows = _
                  rw [Pool.advance_call htask]
                  exact (Coordinator.handle_rows _ s.coord).trans (if_neg (by rw [hsound]; nofun))
                rw [hrows] at hend
                have hheard := hend _ (List.mem_map_of_mem hrow)
                rw [if_pos hid] at hheard
                exact hheard endpoint rfl
            | _ => trivial
        | _ => simp only [ReadableStep, htask]
    | spawn i request draws => trivial
    | tick clock instant => trivial
    | restart ttl => trivial
  · intro hgood
    obtain hsame | ⟨i, op, next, rfl, htask, hsound, hrows⟩ := rows_of_step hstep
    · rw [hsame]
      exact hup
    · have hall : (Program.call op next).Always fun op _ => StoresLegibly op := htask ▸ h.tasks i
      simp only [ReadableStep, htask] at hgood
      rw [hrows]
      exact endpoint_rows hall.1 (hgood hsound) hup

/-- Everyone gets up in every state of a run exactly if no step stores an endpoint that startup
cannot read. In each state that is reached, a node gets up exactly if no other node has stored such
an endpoint. -/
theorem startsUp_throughout_iff (hbase64 : Base64RoundTrip) {clock : Clock} {instant : Instant}
    {events : List Coord.Event}
    (hrun : Transition.exec Server.step (.start ttl clock instant) events = some s) :
    (Transition.AllStates Server.step (fun s => ∀ nodeId, StartsUp s nodeId)
        (.start ttl clock instant) events ↔
      Transition.AllSteps Server.step ReadableStep (.start ttl clock instant) events) ∧
    ∀ nodeId, StartsUp s nodeId ↔
      ∀ row ∈ s.coord.db.nodes.rows, row.nodeId ≠ nodeId → HasLegibleEndpoint row := by
  have hstart := start_tidy ttl clock instant
  refine ⟨?_, startsUp_iff hbase64 (tidy_of_run hrun)⟩
  refine Transition.allStates_iff_allSteps (I := Tidy) (fun _ _ _ h hstep => h.step hstep)
    (fun _ _ _ h hup hstep => startsUp_step hbase64 h hup hstep) hstart ?_ hrun
  exact (everyone_startsUp_iff hbase64 hstart).2 fun row hrow => absurd hrow List.not_mem_nil

end General

section Symbolic

open Coord.Parties

attribute [local instance] crates Symbolic.release

/-- Two nodes register, and the second one sends a heartbeat with an endpoint. -/
def heartbeatWith (endpoint : String) : List Coord.Event :=
  registration ++ secondRegistration ++
    .spawn 2 (heartbeatBy 2 (key 3) (draws "peer" 9).authToken endpoint none (seconds 1000))
        (draws "" 8) :: advances 2 4

/-- After a heartbeat with an address. -/
theorem address_startsUp : ∃ s,
    Transition.exec Server.step server (heartbeatWith "198.51.100.2:7") = some s ∧
      (Transition.AllStates Server.step (fun s => ∀ nodeId, StartsUp s nodeId) server
          (heartbeatWith "198.51.100.2:7") ↔
        Transition.AllSteps Server.step ReadableStep server (heartbeatWith "198.51.100.2:7")) ∧
      ∀ nodeId, StartsUp s nodeId ↔
        ∀ row ∈ s.coord.db.nodes.rows, row.nodeId ≠ nodeId → HasLegibleEndpoint row := by
  have hcheck : (Transition.exec Server.step server
      (heartbeatWith "198.51.100.2:7")).isSome = true := by
    decide +kernel
  obtain ⟨s, hrun⟩ := Option.isSome_iff_exists.1 hcheck
  exact ⟨s, hrun, startsUp_throughout_iff Mesh.base64RoundTrip hrun⟩

/-- What is evaluated about the heartbeat with a name: the first node is registered, and startup
fails at the entries that it is answered. -/
def failsAtName (s : Server) : Bool :=
  match (s.coord.serve (.peers (client 1) (bearer firstToken)) (draws "" 8)).1 with
  | .ok (.peers entries) =>
      (startupPeers (key 2) none 0 entries).toOption.isNone &&
        (startupPeers (key 2) none 0 (listingFor s "node")).toOption.isNone &&
        s.coord.db.nodes.rows.any fun row => row.nodeId = "node"
  | _ => false

/-- After a heartbeat with a name, startup fails on the machine of the other node. -/
theorem name_keeps_down : ∃ s entries,
    Transition.exec Server.step server (heartbeatWith "node.example:51820") = some s ∧
      (∃ row ∈ s.coord.db.nodes.rows, row.nodeId = "node") ∧
      (s.coord.serve (.peers (client 1) (bearer firstToken)) (draws "" 8)).1 =
        .ok (.peers entries) ∧
      (∃ e, startupPeers (key 2) none 0 entries = .error e) ∧ ¬ StartsUp s "node" := by
  have hcheck : (Transition.exec Server.step server
      (heartbeatWith "node.example:51820")).any failsAtName = true := by
    decide +kernel
  obtain ⟨s, hrun, hfails⟩ := (Option.any_eq_true _ _).1 hcheck
  unfold failsAtName at hfails
  split at hfails
  · rename_i entries hserve
    simp only [Bool.and_eq_true, decide_eq_true_eq, List.any_eq_true] at hfails
    obtain ⟨⟨hentries, hlisting⟩, hrow⟩ := hfails
    have herror : ∃ e, startupPeers (key 2) none 0 entries = .error e := by
      cases hstartup : startupPeers (key 2) none 0 entries with
      | error e => exact ⟨e, rfl⟩
      | ok configs =>
          rw [hstartup] at hentries
          cases hentries
    refine ⟨s, entries, hrun, hrow, hserve, herror, fun hup => ?_⟩
    obtain ⟨configs, hconfigs⟩ := hup (key 2) none
    rw [hconfigs] at hlisting
    cases hlisting
  · cases hfails

end Symbolic

end Naboscale.Cli
