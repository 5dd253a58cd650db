import Naboscale.Cli.Up
import Naboscale.Coord.Granted

/-!
# Nodes around a coordinator

The coordinator together with the runs of `naboscale up` that its nodes are in. A step is one
atomic operation of a handler, or something a node does; the handlers of the coordinator do no
more than these steps.
-/

namespace Naboscale.Cli

open Rust Coord

variable [Profile] [CoordCrates]

/-- `B64.decode` reads what `B64.encode` writes. -/
def Base64RoundTrip : Prop :=
  ∀ bytes, CoordCrates.base64Decode (CoordCrates.base64Encode bytes) = .ok bytes

/-- The coordinator and what each node runs at present. -/
structure Mesh where
  coord : Coordinator
  runs : String → Option Run

namespace Mesh

/-- What happens in a mesh: a node starts `up`, its daemon sends a heartbeat that the coordinator
accepts, the coordinator does one operation of another handler under a sound lock, or it
restarts. -/
inductive Event where
  | up (nodeId : String) (wgPublic : Key) (args : UpArgs)
  | heartbeat (nodeId : String) (lastSeen : ℤ)
  | operation (op : Op)
  | restart (tokenTtlSecs : I64)

/-- The operations of the handlers other than `heartbeat`. What `register` inserts has no relay. -/
def ofOtherHandler : Op → Bool
  | .updateHeartbeat _ _ _ _ => false
  | .insertNode node _ _ => node.viaRelay.isNone
  | _ => true

/-- `heartbeat` serves a node that has a row, and refuses a relay that is no address. -/
def Accepts (s : Mesh) (nodeId : String) (run : Run) : Prop :=
  s.coord.poisoned = false ∧ (∃ row ∈ s.coord.db.nodes.rows, row.nodeId = nodeId) ∧
    run.viaRelay.filter (fun r => !isSocketAddr r) = none

instance (s : Mesh) (nodeId : String) (run : Run) : Decidable (s.Accepts nodeId run) :=
  inferInstanceAs (Decidable (_ ∧ _ ∧ _))

/-- Make a step. -/
def step (s : Mesh) : Event → Option Mesh
  | .up nodeId wgPublic args =>
      match Run.start wgPublic args with
      | .error _ => none
      | .ok run => some { s with runs := Function.update s.runs nodeId (some run) }
  | .heartbeat nodeId lastSeen =>
      (s.runs nodeId).bind fun run =>
        if s.Accepts nodeId run then
          some { s with
            coord := (Coordinator.handle
              (.updateHeartbeat nodeId run.advertised run.viaRelay lastSeen) s.coord).2 }
        else none
  | .operation op =>
      if s.coord.poisoned = false ∧ ofOtherHandler op = true then
        some { s with coord := (Coordinator.handle op s.coord).2 }
      else none
  | .restart ttl => some { s with coord := .open s.coord.db ttl s.coord.clock s.coord.instant }

/-- A mesh without nodes. -/
def start (tokenTtlSecs : I64) (clock : Clock) (instant : Instant) : Mesh :=
  ⟨.open .empty tokenTtlSecs clock instant, fun _ => none⟩

/-- The entry of a node in the listings of the others. -/
def entry (row : NodeRecord) : PeerEntry where
  nodeId := row.nodeId
  wgPubkey := CoordCrates.base64Encode row.wgPubkey
  ip := row.ip
  lastEndpoint := row.lastEndpoint
  viaRelay := row.viaRelay
  lastSeen := row.lastSeen

/-- What `peers` answers to a node at present. -/
def listing (s : Mesh) (nodeId : String) : List PeerEntry :=
  (s.coord.db.listPeers (some nodeId)).map entry

/-- A node runs `up` with the key that its row has. -/
structure Up (s : Mesh) (nodeId : String) (run : Run) : Prop where
  running : s.runs nodeId = some run
  listed : ∃ row ∈ s.coord.db.nodes.rows, row.nodeId = nodeId ∧ row.wgPubkey = run.wgPublic.val

/-- Two nodes with different keys are up, and each has a configuration for the other from what the
coordinator lists at present. -/
structure Meet (s : Mesh) (a b : String) (runA runB : Run) (configA configB : PeerConfig) :
    Prop where
  upA : s.Up a runA
  upB : s.Up b runB
  keys : runA.wgPublic ≠ runB.wgPublic
  configuresA : runA.Configures (s.listing a) configA
  configuresB : runB.Configures (s.listing b) configB
  peerA : configA.peerPub = runB.wgPublic
  peerB : configB.peerPub = runA.wgPublic

/-! ## The handlers behind the steps -/

omit [Profile] in
theorem handler_regular : Regular fun p => p.Always fun op _ => ofOtherHandler op = true where
  finished {p} h := by
    cases p with
    | call => cases h
    | _ => trivial
  call {op _} hop h := by
    cases op with
    | checkRateLimit | currentTimestamp | getNodeByToken => exact ⟨rfl, h⟩
    | _ => exact hop.elim

/-- Every handler but `heartbeat` calls only the operations of the others. -/
theorem handler_ofOtherHandler {ttl : I64} {draws : Draws} {request : Request}
    (h : ∀ peer authorization req, request ≠ .heartbeat peer authorization req) :
    (request.handler ttl draws).Always fun op _ => ofOtherHandler op = true := by
  have hreg := handler_regular
  cases request with
  | register peer req =>
      refine hreg.checkRateLimit fun _ => hreg.lift fun identityPubkey => hreg.lift fun wgPubkey =>
        hreg.lift fun _ => hreg.call trivial fun now => hreg.unwrap fun _ _ => hreg.lift fun _ =>
        hreg.lift fun _ => ⟨rfl, fun ip => ?_⟩
      cases ip with
      | none => trivial
      | some ip =>
          show (insertAllocated ttl draws identityPubkey wgPubkey now.val ip).Always _
          rw [insertAllocated]
          refine hreg.unwrap fun _ _ => ⟨rfl, fun inserted => ?_⟩
          exact hreg.lift fun _ => trivial
  | peers peer authorization =>
      exact hreg.checkRateLimit fun _ => hreg.authenticate fun _ _ => ⟨rfl, fun _ => trivial⟩
  | heartbeat peer authorization req => exact absurd rfl (h peer authorization req)
  | refreshToken peer authorization req =>
      exact hreg.checkRateLimit fun _ => hreg.authenticate fun _ _ => hreg.decodeSigned fun _ =>
        hreg.lift fun _ => ⟨rfl, fun _ => ⟨rfl, fun _ => hreg.lift fun _ =>
          hreg.unwrap fun _ _ => trivial⟩⟩
  | deleteNode peer authorization req =>
      refine hreg.checkRateLimit fun _ => hreg.authenticate fun _ _ => hreg.decodeSigned fun _ =>
        hreg.lift fun _ => ⟨rfl, fun ip => ?_⟩
      dsimp only [Concurrent.Program.bind]
      split
      · trivial
      · exact ⟨rfl, fun _ => trivial⟩

/-- What running a handler alone may do to the database. -/
def Effect (Q : Database → Database → Prop) (p : Handler Response) : Prop :=
  ∀ coord, Q coord.db (p.run Coordinator.handle coord).2.db

omit [Profile] [CoordCrates] in
/-- A read under the lock leaves the database alone. -/
theorem locked_read {α : Type} (coord : Coordinator) (f : Database → Option α) :
    (coord.locked fun db => (f db, db)).2.db = coord.db := by
  obtain h | ⟨_, h⟩ := coord.locked_snd (f := fun db => (f db, db)) <;> rw [h]

/-- A check before a handler's own work leaves the database alone. -/
theorem effect_regular {Q : Database → Database → Prop} (hQ : ∀ db, Q db db) :
    Regular (Effect Q) where
  finished {p} h coord := by
    cases p with
    | call => cases h
    | _ => exact hQ _
  call {op k} hop h coord := by
    have hdb : (Coordinator.handle op coord).2.db = coord.db := by
      cases op with
      | checkRateLimit | currentTimestamp => rfl
      | getNodeByToken token now => exact locked_read coord fun db => some (db.getNodeByToken token now)
      | _ => exact hop.elim
    show Q coord.db ((Concurrent.Program.call op k).run Coordinator.handle coord).2.db
    rcases hhandle : Coordinator.handle op coord with ⟨_ | r, coord'⟩
    · rw [Concurrent.Program.run_call_panic hhandle]
      rw [hhandle] at hdb
      exact hdb ▸ hQ _
    · rw [Concurrent.Program.run_call hhandle]
      rw [hhandle] at hdb
      exact hdb ▸ h r coord'

/-- The heartbeat of one of the callers takes effect, or nothing changes. -/
def Beats (req : HeartbeatRequest) (callers : List NodeRecord) (db db' : Database) : Prop :=
  db' = db ∨ ∃ row ∈ callers, ∃ lastSeen,
    req.viaRelay.filter (fun r => !isSocketAddr r) = none ∧
      db' = db.updateHeartbeat row.nodeId req.endpoint req.viaRelay lastSeen

/-- An operation under the lock that has a result goes on with it, unless the lock is poisoned. -/
theorem run_locked (coord : Coordinator) (op : Op) (k : op.Result → Handler Response)
    (f : Database → op.Result × Database)
    (hop : Coordinator.handle op coord = coord.locked fun db => (some (f db).1, (f db).2)) :
    ((op.call >>= k).run Coordinator.handle coord).2.db = coord.db ∨
      (op.call >>= k).run Coordinator.handle coord =
        (k (f coord.db).1).run Coordinator.handle
          { coord with db := (f coord.db).2, poisoned := false } := by
  cases hpoisoned : coord.poisoned with
  | true =>
      rw [Coordinator.locked_poisoned hpoisoned] at hop
      show ((Concurrent.Program.call op k).run Coordinator.handle coord).2.db = _ ∨ _
      rw [Concurrent.Program.run_call_panic hop]
      exact .inl rfl
  | false => exact .inr (Coordinator.run_sound coord hop hpoisoned)

/-- The part of `heartbeat` for a caller. -/
theorem effect_caller {req : HeartbeatRequest} (caller : NodeRecord) (now : ℤ) :
    Effect (Beats req [caller]) (do
      let x ← decodeSigned caller req.signature req.timestamp now
      let _ ← Concurrent.Program.lift id
        (checkSignature x.1 (buildHeartbeatMessage req.timestamp req.endpoint req.viaRelay) x.2)
      match req.viaRelay.filter fun r => !isSocketAddr r with
      | some r => .fail (.invalidRequest (.viaRelay r))
      | none => do
          (Op.updateHeartbeat caller.nodeId req.endpoint req.viaRelay now).call
          pure .ok) := by
  have hreg : Regular (Effect (Beats req [caller])) := effect_regular fun _ => .inl rfl
  refine hreg.decodeSigned fun x => hreg.lift fun _ coord => ?_
  cases hrelay : req.viaRelay.filter fun r => !isSocketAddr r with
  | some r => exact .inl rfl
  | none =>
      obtain hsame | hrun := run_locked coord
        (.updateHeartbeat caller.nodeId req.endpoint req.viaRelay now)
        (fun _ => pure Response.ok)
        (fun db => ((), db.updateHeartbeat caller.nodeId req.endpoint req.viaRelay now)) rfl
      · exact .inl hsame
      · refine .inr ⟨caller, List.mem_singleton_self _, now, hrelay, ?_⟩
        exact congrArg (fun x => x.2.db) hrun

/-- The handler `heartbeat` updates the row of its caller, or leaves the database alone. -/
theorem heartbeat_effect {peer : SocketAddr} {authorization : Option String}
    {req : HeartbeatRequest} :
    Effect (fun db db' => Beats req db.nodes.rows db db')
      (Coord.heartbeat peer authorization req) := by
  have hreg : Regular (Effect fun db db' => Beats req db.nodes.rows db db') :=
    effect_regular fun _ => .inl rfl
  refine hreg.checkRateLimit fun _ => ?_
  simp only [Coord.authenticate, bind_assoc]
  refine hreg.lift fun token => hreg.call trivial fun now coord => ?_
  -- The caller is read from the rows that are there when the heartbeat takes effect.
  obtain hsame | hrun := run_locked coord (.getNodeByToken token now.val) _
    (fun db => (db.getNodeByToken token now.val, db)) rfl
  · exact .inl hsame
  · rw [hrun]
    dsimp only
    cases hcaller : coord.db.getNodeByToken token now.val with
    | none => exact .inl rfl
    | some caller =>
        have hmem := Database.mem_of_getNodeByToken hcaller
        obtain h | ⟨row, hrow, h⟩ := effect_caller caller now.val { coord with poisoned := false }
        · exact .inl h
        · exact .inr ⟨row, List.mem_singleton.1 hrow ▸ hmem, h⟩

end Mesh

end Naboscale.Cli
