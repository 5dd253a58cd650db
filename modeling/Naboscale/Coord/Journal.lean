import Naboscale.Coord.Parties

/-!
# What requests do

A run of the server with a journal: which request each handler serves, and the operations that
took effect in their order. An operation that takes effect is one that its request asks for.
Heartbeats are stored in the order in which they take effect, whatever times they carry.
-/

namespace Naboscale.Coord

open Rust Concurrent

section

variable [Profile] [CoordCrates]

/-! ## What a request asks for -/

/-- The node has the keys of the registration. -/
def RegisterRequest.Registers (req : RegisterRequest) (node : NodeRecord) : Prop :=
  ∃ identityPubkey wgPubkey, decodePubkey req.identityPubkey = .ok identityPubkey ∧
    decodePubkey req.wgPubkey = .ok wgPubkey ∧ node.identityPubkey = identityPubkey.val ∧
    node.wgPubkey = wgPubkey.val

/-- The request asks for the operation. -/
def Request.Means (request : Request) : Op → Prop
  | .insertNode node _ _ => ∃ peer req, request = .register peer req ∧ req.Registers node
  | .updateHeartbeat _ endpoint viaRelay _ => ∃ peer authorization req,
      request = .heartbeat peer authorization req ∧ endpoint = req.endpoint ∧ viaRelay = req.viaRelay
  | .revokeAllTokensForNode _ | .createToken _ _ _ _ => ∃ peer authorization req,
      request = .refreshToken peer authorization req
  | .deleteNode _ => ∃ peer authorization req, request = .deleteNode peer authorization req
  | _ => True

/-- A handler that calls only what its request asks for. -/
def Meant (request : Request) (p : Handler Response) : Prop := p.Always fun op _ => request.Means op

variable {request : Request} {ttl : I64} {draws : Draws}

omit [Profile] in
theorem meant_regular : Regular (Meant request) where
  finished {p} h := by
    cases p with
    | call => cases h
    | _ => trivial
  call {op _} hop h := by
    refine ⟨?_, h⟩
    cases op with
    | checkRateLimit | currentTimestamp | getNodeByToken => trivial
    | _ => exact hop.elim

/-- Every handler calls only what its request asks for. -/
theorem handler_meant (request : Request) : Meant request (request.handler ttl draws) := by
  have hreg : Regular (Meant request) := meant_regular
  cases request with
  | register peer req =>
      refine hreg.checkRateLimit fun _ => hreg.lift_of_ok fun identityPubkey hidentity =>
        hreg.lift_of_ok fun wgPubkey hwg => hreg.lift fun _ => hreg.call trivial fun now =>
        hreg.unwrap fun _ _ => hreg.lift fun _ => hreg.lift fun _ => ⟨trivial, fun allocated => ?_⟩
      cases allocated with
      | none => trivial
      | some ip =>
          refine hreg.unwrap fun expiresAt _ => ⟨?_, fun r => hreg.lift fun _ => trivial⟩
          exact ⟨peer, req, rfl, identityPubkey, wgPubkey, hidentity, hwg, rfl, rfl⟩
  | peers peer authorization =>
      exact hreg.checkRateLimit fun _ => hreg.authenticate fun _ _ => ⟨trivial, fun _ => trivial⟩
  | heartbeat peer authorization req =>
      refine hreg.checkRateLimit fun _ => hreg.authenticate fun now caller =>
        hreg.decodeSigned fun _ => hreg.lift fun _ => ?_
      cases req.viaRelay.filter fun r => !isSocketAddr r with
      | some r => trivial
      | none => exact ⟨⟨peer, authorization, req, rfl, rfl, rfl⟩, fun _ => trivial⟩
  | refreshToken peer authorization req =>
      refine hreg.checkRateLimit fun _ => hreg.authenticate fun now caller =>
        hreg.decodeSigned fun _ => hreg.lift fun _ => ⟨⟨peer, authorization, req, rfl⟩, fun _ => ?_⟩
      exact ⟨⟨peer, authorization, req, rfl⟩,
        fun r => hreg.lift fun _ => hreg.unwrap fun _ _ => trivial⟩
  | deleteNode peer authorization req =>
      refine hreg.checkRateLimit fun _ => hreg.authenticate fun now caller =>
        hreg.decodeSigned fun _ => hreg.lift fun _ => ⟨⟨peer, authorization, req, rfl⟩, fun ip => ?_⟩
      dsimp only [Program.bind]
      split
      · trivial
      · exact ⟨trivial, fun _ => trivial⟩

/-! ## The journal -/

/-- The operation takes effect: it inserts a node, updates an endpoint, issues a token or deletes
a node. -/
def Coordinator.effective (self : Coordinator) : Op → Bool
  | .insertNode node _ _ =>
      !self.poisoned && (NodeColumn.clashes self.db.nodes.rows node.inserted).isEmpty
  | .updateHeartbeat nodeId _ _ _ | .deleteNode nodeId =>
      !self.poisoned && self.db.nodes.rows.any fun n => n.nodeId = nodeId
  | .createToken nodeId token createdAt ttlSecs =>
      !self.poisoned && match (self.db.createToken nodeId token createdAt ttlSecs).1 with
        | some (.ok ()) => true
        | _ => false
  | _ => false

/-- A request as it arrived: what the clock showed, and how many operations had taken effect. -/
structure Arrival where
  request : Request
  clock : Clock
  seen : ℕ

/-- An operation that took effect for a request. -/
structure Effect where
  arrival : Arrival
  op : Op

/-- A server with the arrival of each handler's request and with the effects so far. -/
structure Journal where
  server : Server
  arrivals : ℕ → Option Arrival
  effects : List Effect

namespace Journal

/-- The effect of the next operation of a handler, if it has one. -/
def effect (j : Journal) (i : ℕ) : List Effect :=
  match j.arrivals i, j.server.task i with
  | some arrival, .call op _ => if j.server.coord.effective op then [⟨arrival, op⟩] else []
  | _, _ => []

/-- A step of the server, written down. -/
def step (j : Journal) (event : Event) : Option Journal :=
  (j.server.step event).map fun server =>
    match event with
    | .spawn i request _ =>
        { server
          arrivals := Function.update j.arrivals i
            (some ⟨request, j.server.coord.clock, j.effects.length⟩)
          effects := j.effects }
    | .advance i => { j with server, effects := j.effects ++ j.effect i }
    | _ => { j with server }

/-- A server that starts on an empty database. -/
def start (ttl : I64) (clock : Clock) (instant : Instant) : Journal :=
  ⟨.start ttl clock instant, fun _ => none, []⟩

variable {j k : Journal} {i : ℕ} {event : Event} {e : Effect}

theorem mem_effect : e ∈ j.effect i ↔ ∃ next, j.arrivals i = some e.arrival ∧
    j.server.task i = .call e.op next ∧ j.server.coord.effective e.op = true := by
  unfold effect
  cases harrival : j.arrivals i with
  | none => exact iff_of_false List.not_mem_nil fun ⟨_, h, _⟩ => nomatch h
  | some arrival =>
      cases htask : j.server.task i with
      | call op next =>
          show e ∈ (if j.server.coord.effective op then [(⟨arrival, op⟩ : Effect)] else []) ↔ _
          split
          · rename_i heffective
            rw [List.mem_singleton]
            constructor
            · rintro rfl
              exact ⟨next, rfl, rfl, heffective⟩
            · rintro ⟨_, h, hop, -⟩
              cases h
              cases hop
              rfl
          · rename_i hidle
            refine iff_of_false List.not_mem_nil fun ⟨_, _, hop, h⟩ => hidle ?_
            cases hop
            exact h
      | _ => exact iff_of_false List.not_mem_nil fun ⟨_, _, hop, _⟩ => nomatch hop

/-- What a step does to the handler at an index: nothing, or it is started, goes on, or ends. -/
theorem task_step (hstep : j.step event = some k) (i : ℕ) :
    (k.server.task i = j.server.task i ∧ k.arrivals i = j.arrivals i) ∨
      (∃ request draws, event = .spawn i request draws ∧
        k.server.task i = request.handler j.server.coord.tokenTtlSecs draws ∧
        k.arrivals i = some ⟨request, j.server.coord.clock, j.effects.length⟩) ∨
      (event = .advance i ∧ k.arrivals i = j.arrivals i ∧
        k.server.task i = ((j.server.task i).step Coordinator.handle j.server.coord).1) ∨
      (k.server.task i = .panic ∧ k.arrivals i = j.arrivals i) := by
  obtain ⟨server, hserver, rfl⟩ := Option.map_eq_some_iff.1 hstep
  cases event with
  | spawn m request draws =>
      rw [Server.step] at hserver
      split at hserver
      · cases hserver
      · cases hserver
        by_cases hi : i = m
        · subst hi
          refine .inr (.inl ⟨request, draws, rfl, ?_, ?_⟩)
          · exact Function.update_self ..
          · exact Function.update_self ..
        · exact .inl ⟨Function.update_of_ne hi .., Function.update_of_ne hi ..⟩
  | advance m =>
      cases hserver
      by_cases hi : i = m
      · subst hi
        exact .inr (.inr (.inl ⟨rfl, rfl, Function.update_self ..⟩))
      · exact .inl ⟨Function.update_of_ne hi .., rfl⟩
  | tick clock instant =>
      cases hserver
      exact .inl ⟨rfl, rfl⟩
  | restart ttl =>
      cases hserver
      exact .inr (.inr (.inr ⟨rfl, rfl⟩))

/-- A step adds the effect of the operation that it makes. -/
theorem effects_step (hstep : j.step event = some k) :
    k.effects = j.effects ∧ (∀ i, event ≠ .advance i) ∨
      ∃ i, event = .advance i ∧ k.effects = j.effects ++ j.effect i := by
  obtain ⟨server, -, rfl⟩ := Option.map_eq_some_iff.1 hstep
  cases event with
  | advance i => exact .inr ⟨i, rfl, rfl⟩
  | _ => exact .inl ⟨rfl, nofun⟩

/-! ## Effects are meant -/

/-- Each handler in flight serves the request that is written down for it, and so did those whose
operations took effect. -/
structure Coherent (j : Journal) : Prop where
  meant : ∀ i arrival, j.arrivals i = some arrival → Meant arrival.request (j.server.task i)
  known : ∀ i, j.arrivals i = none → (j.server.task i).isRunning = false
  effects : ∀ e ∈ j.effects, e.arrival.request.Means e.op

omit [Profile] in
theorem start_coherent {ttl : I64} {clock : Clock} {instant : Instant} :
    (start ttl clock instant).Coherent where
  meant _ _ h := nomatch h
  known _ _ := rfl
  effects _ h := absurd h List.not_mem_nil

theorem Coherent.step (h : j.Coherent) (hstep : j.step event = some k) : k.Coherent where
  meant i arrival harrival := by
    obtain ⟨htask, hsame⟩ | ⟨request, draws, -, htask, hnew⟩ | ⟨-, hsame, htask⟩ | ⟨htask, -⟩ :=
      task_step hstep i
    · rw [htask]
      exact h.meant i arrival (hsame ▸ harrival)
    · cases hnew.symm.trans harrival
      rw [htask]
      exact handler_meant request
    · have hmeant := h.meant i arrival (hsame ▸ harrival)
      rw [htask]
      exact Program.Always.step hmeant _
    · rw [htask]
      trivial
  known i hnone := by
    obtain ⟨htask, hsame⟩ | ⟨request, draws, -, -, hnew⟩ | ⟨-, hsame, htask⟩ | ⟨htask, -⟩ :=
      task_step hstep i
    · rw [htask]
      exact h.known i (hsame ▸ hnone)
    · cases hnew.symm.trans hnone
    · have hidle := h.known i (hsame ▸ hnone)
      rw [htask, Program.step_of_not_running hidle]
      exact hidle
    · rw [htask]
      rfl
  effects e he := by
    obtain ⟨hsame, -⟩ | ⟨i, -, hsame⟩ := effects_step hstep
    · exact h.effects e (hsame ▸ he)
    · rw [hsame, List.mem_append] at he
      obtain he | he := he
      · exact h.effects e he
      · obtain ⟨next, harrival, htask, -⟩ := mem_effect.1 he
        have hmeant := h.meant i _ harrival
        rw [htask] at hmeant
        exact hmeant.1

end Journal

/-! ## Rows -/

/-- A row of `nodes` after an operation that leaves it there. -/
def NodeRecord.heard (n : NodeRecord) : Op → NodeRecord
  | .updateHeartbeat nodeId endpoint viaRelay lastSeen =>
      if n.nodeId = nodeId then
        { n with
          lastEndpoint := some endpoint
          viaRelay := viaRelay.or n.viaRelay
          lastSeen := some lastSeen }
      else n
  | _ => n

omit [Profile] [CoordCrates] in
theorem NodeRecord.heard_keys (n : NodeRecord) (op : Op) :
    (n.heard op).nodeId = n.nodeId ∧ (n.heard op).identityPubkey = n.identityPubkey ∧
      (n.heard op).wgPubkey = n.wgPubkey := by
  cases op with
  | updateHeartbeat nodeId endpoint viaRelay lastSeen =>
      rw [heard]
      split <;> exact ⟨rfl, rfl, rfl⟩
  | _ => exact ⟨rfl, rfl, rfl⟩

omit [CoordCrates] in
/-- A row stays, with what is heard of it, through every operation but the deletion of its node. -/
theorem Coordinator.row_handle {self : Coordinator} {op : Op} {n : NodeRecord}
    (hn : n ∈ self.db.nodes.rows)
    (hkept : self.effective op = true → op ≠ .deleteNode n.nodeId) :
    (if self.effective op then n.heard op else n) ∈ (handle op self).2.db.nodes.rows := by
  rw [handle_rows]
  cases hpoisoned : self.poisoned with
  | true =>
      have hidle : self.effective op = false := by
        cases op with
        | insertNode | updateHeartbeat | createToken | deleteNode =>
            rw [effective, hpoisoned, Bool.not_true, Bool.false_and]
        | _ => rfl
      rw [hidle, if_neg Bool.false_ne_true, if_pos rfl]
      exact hn
  | false =>
      rw [if_neg Bool.false_ne_true]
      have hknown (nodeId : String) (hid : n.nodeId = nodeId) :
          (!self.poisoned && self.db.nodes.rows.any fun n => n.nodeId = nodeId) = true := by
        rw [hpoisoned, Bool.not_false, Bool.true_and, List.any_eq_true]
        exact ⟨n, hn, decide_eq_true hid⟩
      have hsame (h : n.heard op = n) : (if self.effective op then n.heard op else n) = n := by
        rw [h, ite_self]
      cases op with
      | insertNode node token ttlSecs =>
          rw [hsame rfl, Op.rows]
          split
          · exact List.mem_append_left _ hn
          · exact hn
      | updateHeartbeat nodeId endpoint viaRelay lastSeen =>
          have hmem := List.mem_map_of_mem (f := fun n : NodeRecord =>
            n.heard (.updateHeartbeat nodeId endpoint viaRelay lastSeen)) hn
          split
          · exact hmem
          · rename_i hidle
            have hother : n.nodeId ≠ nodeId := fun hid => hidle (hknown nodeId hid)
            rwa [NodeRecord.heard, if_neg hother] at hmem
      | deleteNode nodeId =>
          have hother : n.nodeId ≠ nodeId := by
            rintro rfl
            exact hkept (hknown _ rfl) rfl
          rw [hsame rfl]
          exact List.mem_filter.2 ⟨hn, by simpa using hother⟩
      | _ =>
          rw [hsame rfl]
          exact hn

/-! ## Heartbeats -/

/-- The heartbeat whose endpoint took effect for the node. -/
def Effect.heartbeat? (nodeId : String) (e : Effect) : Option HeartbeatRequest :=
  match e.arrival.request, e.op with
  | .heartbeat _ _ req, .updateHeartbeat id _ _ _ => if id = nodeId then some req else none
  | _, _ => none

/-- The row holds the endpoint of the last heartbeat, and the relay of the last one that names a
relay; without such a heartbeat, what the row held before. -/
structure NodeRecord.Stores (n n' : NodeRecord) (heartbeats : List HeartbeatRequest) : Prop where
  nodeId : n'.nodeId = n.nodeId
  lastEndpoint : n'.lastEndpoint =
    (heartbeats.getLast?.map HeartbeatRequest.endpoint).or n.lastEndpoint
  viaRelay : n'.viaRelay = (heartbeats.filterMap HeartbeatRequest.viaRelay).getLast?.or n.viaRelay

omit [Profile] in
/-- One more operation that takes effect. -/
theorem NodeRecord.Stores.heard {n n' : NodeRecord} {heartbeats : List HeartbeatRequest}
    {e : Effect} (h : n.Stores n' heartbeats) (hmeans : e.arrival.request.Means e.op) :
    n.Stores (n'.heard e.op) (heartbeats ++ (e.heartbeat? n.nodeId).toList) := by
  obtain ⟨arrival, op⟩ := e
  have hnone (hheartbeat : (⟨arrival, op⟩ : Effect).heartbeat? n.nodeId = none)
      (hheard : n'.heard op = n') :
      n.Stores (n'.heard op)
        (heartbeats ++ ((⟨arrival, op⟩ : Effect).heartbeat? n.nodeId).toList) := by
    rw [hheartbeat, hheard, Option.toList_none, List.append_nil]
    exact h
  have hother (hop : ∀ id endpoint relay seen, op ≠ .updateHeartbeat id endpoint relay seen) :
      (⟨arrival, op⟩ : Effect).heartbeat? n.nodeId = none := by
    rw [Effect.heartbeat?]
    split
    · rename_i hheartbeat
      exact absurd hheartbeat (hop _ _ _ _)
    · rfl
  cases op with
  | updateHeartbeat nodeId endpoint viaRelay lastSeen =>
      obtain ⟨peer, authorization, req, hrequest, rfl, rfl⟩ := hmeans
      have hheartbeat : (⟨arrival, .updateHeartbeat nodeId req.endpoint req.viaRelay lastSeen⟩ :
          Effect).heartbeat? n.nodeId = if nodeId = n.nodeId then some req else none := by
        rw [Effect.heartbeat?, hrequest]
      by_cases hid : n'.nodeId = nodeId
      · have hsame : nodeId = n.nodeId := hid.symm.trans h.nodeId
        rw [hheartbeat, if_pos hsame, Option.toList_some, NodeRecord.heard, if_pos hid]
        refine ⟨h.nodeId, ?_, ?_⟩
        · simp
        · show req.viaRelay.or n'.viaRelay = _
          rw [h.viaRelay, List.filterMap_append]
          cases hrelay : req.viaRelay with
          | none => simp [hrelay]
          | some relay => simp [hrelay]
      · have hnot : nodeId ≠ n.nodeId := fun hsame => hid (h.nodeId.trans hsame.symm)
        exact hnone (hheartbeat.trans (if_neg hnot)) (if_neg hid)
  | _ => exact hnone (hother nofun) rfl

/-- The entry of a row in the answers to `peers`. -/
def NodeRecord.listed (n : NodeRecord) : PeerEntry where
  nodeId := n.nodeId
  wgPubkey := CoordCrates.base64Encode n.wgPubkey
  ip := n.ip
  lastEndpoint := n.lastEndpoint
  viaRelay := n.viaRelay
  lastSeen := n.lastSeen

namespace Journal

variable {j k : Journal} {event : Event}

/-- A step changes the rows of `nodes`, and adds effects, only by the operation that it makes. -/
theorem rows_step (hstep : j.step event = some k) :
    (k.server.coord.db.nodes.rows = j.server.coord.db.nodes.rows ∧ k.effects = j.effects) ∨
      ∃ i op next, event = .advance i ∧ j.server.task i = .call op next ∧
        k.server.coord = (Coordinator.handle op j.server.coord).2 ∧
        k.effects = j.effects ++ j.effect i := by
  obtain ⟨server, hserver, rfl⟩ := Option.map_eq_some_iff.1 hstep
  cases event with
  | spawn m request draws =>
      rw [Server.step] at hserver
      split at hserver <;> cases hserver
      exact .inl ⟨rfl, rfl⟩
  | advance i =>
      cases hserver
      cases htask : j.server.task i with
      | call op next =>
          refine .inr ⟨i, op, next, rfl, htask, ?_, rfl⟩
          show (j.server.pool.advance Coordinator.handle i).shared = _
          rw [Pool.advance_call htask]
      | _ =>
          have hidle : (j.server.task i).isRunning = false := congrArg Program.isRunning htask
          have hnone : j.effect i = [] := List.eq_nil_iff_forall_not_mem.2 fun e he => by
            obtain ⟨_, -, hcall, -⟩ := mem_effect.1 he
            cases htask.symm.trans hcall
          refine .inl ⟨?_, ?_⟩
          · show (j.server.pool.advance Coordinator.handle i).shared.db.nodes.rows = _
            rw [Pool.advance_idle hidle]
          · show j.effects ++ j.effect i = _
            rw [hnone, List.append_nil]
  | tick clock instant =>
      cases hserver
      exact .inl ⟨rfl, rfl⟩
  | restart ttl =>
      cases hserver
      exact .inl ⟨rfl, rfl⟩

/-- The effect of the operation that a handler is about to make. -/
theorem Coherent.effect_eq (h : j.Coherent) {i : ℕ} {op : Op} {next : op.Result → Handler Response}
    (htask : j.server.task i = .call op next) :
    ∃ arrival, arrival.request.Means op ∧
      j.effect i = if j.server.coord.effective op then [⟨arrival, op⟩] else [] := by
  cases harrival : j.arrivals i with
  | none =>
      have hidle := h.known i harrival
      rw [htask] at hidle
      cases hidle
  | some arrival =>
      have hmeant := h.meant i arrival harrival
      rw [htask] at hmeant
      refine ⟨arrival, hmeant.1, ?_⟩
      rw [effect, harrival, htask]

/-- What a run since a journal has done to a row that it does not delete. -/
def Follows (j : Journal) (n : NodeRecord) (k : Journal) : Prop :=
  ∃ new, k.effects = j.effects ++ new ∧ ((∀ e ∈ new, e.op ≠ .deleteNode n.nodeId) →
    ∃ n' ∈ k.server.coord.db.nodes.rows, n.Stores n' (new.filterMap (Effect.heartbeat? n.nodeId)))

theorem Follows.step {j₀ : Journal} {n : NodeRecord} (h : j₀.Follows n j) (hcoherent : j.Coherent)
    (hstep : j.step event = some k) : j₀.Follows n k := by
  obtain ⟨new, heffects, hstores⟩ := h
  obtain ⟨hrows, hsame⟩ | ⟨i, op, next, rfl, htask, hcoord, hadded⟩ := rows_step hstep
  · refine ⟨new, hsame.trans heffects, fun hkept => ?_⟩
    rw [hrows]
    exact hstores hkept
  · obtain ⟨arrival, hmeans, heffect⟩ := hcoherent.effect_eq htask
    refine ⟨new ++ j.effect i, ?_, fun hkept => ?_⟩
    · rw [hadded, heffects, List.append_assoc]
    · obtain ⟨n', hn', hbefore⟩ := hstores fun e he => hkept e (List.mem_append_left _ he)
      have hnotDeleted : j.server.coord.effective op = true → op ≠ .deleteNode n'.nodeId := by
        intro heffective
        have hmem : (⟨arrival, op⟩ : Effect) ∈ new ++ j.effect i := by
          rw [heffect, if_pos heffective]
          exact List.mem_append_right _ (List.mem_singleton_self _)
        rw [hbefore.nodeId]
        exact hkept _ hmem
      have hmem := Coordinator.row_handle hn' hnotDeleted
      rw [← hcoord] at hmem
      refine ⟨_, hmem, ?_⟩
      rw [heffect, List.filterMap_append]
      split
      · have hheard := hbefore.heard (e := ⟨arrival, op⟩) hmeans
        cases hcase : (⟨arrival, op⟩ : Effect).heartbeat? n.nodeId <;>
          simpa [hcase] using hheard
      · simpa using hbefore

theorem coherent_of_run {ttl : I64} {clock : Clock} {instant : Instant} {events : List Event}
    (hrun : Transition.exec step (start ttl clock instant) events = some j) : j.Coherent :=
  Transition.Reaches.invariant (fun _ _ _ h hstep => h.step hstep) start_coherent ⟨events, hrun⟩

theorem follows_of_run {n : NodeRecord} {events : List Event} (hcoherent : j.Coherent)
    (hn : n ∈ j.server.coord.db.nodes.rows) (hrun : Transition.exec step j events = some k) :
    j.Follows n k := by
  have hfirst : j.Follows n j := ⟨[], (List.append_nil _).symm, fun _ => ⟨n, hn, rfl, rfl, rfl⟩⟩
  exact (Transition.Reaches.invariant (I := fun m => m.Coherent ∧ j.Follows n m)
    (fun _ _ _ h hstep => ⟨h.1.step hstep, h.2.step h.1 hstep⟩) ⟨hcoherent, hfirst⟩
    ⟨events, hrun⟩).2

/-! ## What the peers are told -/

/-- An answer to `peers` lists the rows of all nodes but the caller. -/
theorem answer_of_peers {self after : Coordinator} {peer : SocketAddr}
    {authorization : Option String} {draws : Draws} {entries : List PeerEntry}
    (h : self.serve (.peers peer authorization) draws = (.ok (.peers entries), after)) :
    ∃ token caller, extractBearer authorization = .ok token ∧
      self.db.getNodeByToken token self.clock.val = some caller ∧
      entries = (self.db.listPeers (some caller.nodeId)).map NodeRecord.listed := by
  obtain ⟨_, admitted, hlimit, hrest⟩ := Program.run_bind_ok h
  have hadmitted := checkRateLimit_ok hlimit
  obtain ⟨⟨now, caller⟩, s, hcaller, hlist⟩ := Program.run_bind_ok hrest
  obtain ⟨hnow, -, hs, token, htoken, hfound⟩ := authenticate_ok hcaller
  subst s
  obtain ⟨rows, s, hcall, hanswer⟩ := Program.run_bind_ok hlist
  have hlocked : admitted.locked (fun db => (some (db.listPeers (some caller.nodeId)), db)) =
      (some rows, s) := Program.run_perform_ok hcall
  obtain ⟨-, hrows, -⟩ := Coordinator.locked_inv hlocked
  cases hanswer
  cases hrows
  rw [hadmitted] at hnow hfound ⊢
  exact ⟨token, caller, htoken, hnow ▸ hfound, rfl⟩

/-- The heartbeats of a node that have taken effect since a journal, in their order. -/
def heartbeats (j k : Journal) (nodeId : String) : List HeartbeatRequest :=
  (k.effects.drop j.effects.length).filterMap (Effect.heartbeat? nodeId)

/-- The last heartbeat that takes effect decides the endpoint, and the last one of them that names
a relay decides the relay, whatever times they carry. What `peers` answers about a node after any
run that does not delete it is that, or what the row held at first. -/
theorem last_heartbeat_served {ttl : I64} {clock : Clock} {instant : Instant}
    {first events : List Event} {n : NodeRecord} {peer : SocketAddr}
    {authorization : Option String} {draws : Draws} {entries : List PeerEntry} {after : Coordinator}
    (hfirst : Transition.exec step (start ttl clock instant) first = some j)
    (hn : n ∈ j.server.coord.db.nodes.rows) (hrun : Transition.exec step j events = some k)
    (hkept : ∀ e ∈ k.effects.drop j.effects.length, e.op ≠ .deleteNode n.nodeId)
    (hanswer : k.server.coord.serve (.peers peer authorization) draws =
      (.ok (.peers entries), after)) :
    (∀ entry ∈ entries, entry.nodeId = n.nodeId →
        entry.lastEndpoint =
            ((j.heartbeats k n.nodeId).getLast?.map HeartbeatRequest.endpoint).or n.lastEndpoint ∧
          entry.viaRelay =
            ((j.heartbeats k n.nodeId).filterMap HeartbeatRequest.viaRelay).getLast?.or n.viaRelay) ∧
      ∃ token caller, extractBearer authorization = .ok token ∧
        k.server.coord.db.getNodeByToken token k.server.coord.clock.val = some caller ∧
        (caller.nodeId ≠ n.nodeId → ∃ entry ∈ entries, entry.nodeId = n.nodeId) := by
  obtain ⟨new, heffects, hstores⟩ := follows_of_run (coherent_of_run hfirst) hn hrun
  have hnew : k.effects.drop j.effects.length = new := by
    rw [heffects, List.drop_left]
  rw [hnew] at hkept
  obtain ⟨n', hn', hstored⟩ := hstores hkept
  obtain ⟨token, caller, htoken, hcaller, rfl⟩ := answer_of_peers hanswer
  have hheartbeats : j.heartbeats k n.nodeId = new.filterMap (Effect.heartbeat? n.nodeId) := by
    rw [heartbeats, hnew]
  refine ⟨fun entry hentry hid => ?_, token, caller, htoken, hcaller, fun hother => ?_⟩
  · obtain ⟨row, hrow, rfl⟩ := List.mem_map.1 hentry
    -- A node has one row.
    have hsame : row = n' := k.server.coord.db.nodes.eq_of_not_apart (List.mem_filter.1 hrow).1 hn'
      fun hapart => hapart .nodeId (hid.trans hstored.nodeId.symm)
    rw [hheartbeats, hsame]
    exact ⟨hstored.lastEndpoint, hstored.viaRelay⟩
  · have hlisted : n' ∈ k.server.coord.db.listPeers (some caller.nodeId) := by
      refine List.mem_filter.2 ⟨hn', ?_⟩
      rw [hstored.nodeId]
      simpa using hother
    exact ⟨n'.listed, List.mem_map_of_mem hlisted, hstored.nodeId⟩

end Journal

end

/-! ## Heartbeats out of order -/

namespace Parties

attribute [local instance] crates Symbolic.release

/-- A server on an empty database at the time 1000. -/
def journal : Journal := .start (seconds 100) (moment 1000) 0

/-- The registration of a second node, with the keys 3 and 4. -/
def secondRegistration : List Event :=
  .spawn 1 (registerBy 2 (key 3) (key 4) (seconds 1000)) (draws "peer" 9) :: advances 1 4

/-- Two heartbeats of the first node. The later one says that the node has moved and names no
relay, and arrives before the earlier one. -/
def swappedHeartbeats : List Event :=
  .spawn 2 (heartbeatBy 1 (key 1) firstToken "198.51.100.2:7" none (seconds 1001)) (draws "" 8) ::
    (advances 2 4 ++
      .spawn 3 (heartbeatBy 1 (key 1) firstToken "198.51.100.1:7" (some "192.0.2.9:7") (seconds 1000))
          (draws "" 8) ::
        advances 3 4)

/-- The request of the second node for its peers. -/
def peersOfSecond : Request := .peers (client 2) (bearer (draws "peer" 9).authToken)

/-- The row of the first node as it is inserted. -/
def firstNode : NodeRecord where
  nodeId := "node"
  identityPubkey := (key 1).val
  wgPubkey := (key 2).val
  ip := "100.100.0.1"
  lastEndpoint := none
  viaRelay := none
  lastSeen := none
  createdAt := 1000

/-- What the second node is told of the first one after a run. -/
def told (k : Journal) : Option (Option String × Option String) :=
  match (k.server.coord.serve peersOfSecond (draws "" 8)).1 with
  | .ok (.peers [entry]) => some (entry.lastEndpoint, entry.viaRelay)
  | _ => none

/-- Whether none of the effects since a journal deletes a node. -/
def keepsNodes (j k : Journal) : Bool :=
  (k.effects.drop j.effects.length).all fun e =>
    match e.op with
    | .deleteNode _ => false
    | _ => true

theorem kept_of_check {j k : Journal} (h : keepsNodes j k = true) (nodeId : String) :
    ∀ e ∈ k.effects.drop j.effects.length, e.op ≠ .deleteNode nodeId := by
  intro e he hop
  have hkeeps := List.all_eq_true.1 h e he
  rw [hop] at hkeeps
  cases hkeeps

/-- The second node is told what the heartbeat that arrived last says. -/
theorem arrived_heartbeat_served : ∃ j k entries,
    Transition.exec Journal.step journal (registration ++ secondRegistration) = some j ∧
      Transition.exec Journal.step j swappedHeartbeats = some k ∧
      (k.server.coord.serve peersOfSecond (draws "" 8)).1 = .ok (.peers entries) ∧
      ∀ entry ∈ entries, entry.nodeId = firstNode.nodeId →
        entry.lastEndpoint = ((j.heartbeats k firstNode.nodeId).getLast?.map
            HeartbeatRequest.endpoint).or firstNode.lastEndpoint ∧
          entry.viaRelay = ((j.heartbeats k firstNode.nodeId).filterMap
            HeartbeatRequest.viaRelay).getLast?.or firstNode.viaRelay := by
  have hcheck : (Transition.exec Journal.step journal (registration ++ secondRegistration)).any
      (fun j => decide (firstNode ∈ j.server.coord.db.nodes.rows) &&
        (Transition.exec Journal.step j swappedHeartbeats).any fun k =>
          keepsNodes j k && (told k).isSome) = true := by
    decide +kernel
  simp only [Option.any_eq_true, Bool.and_eq_true, decide_eq_true_eq] at hcheck
  obtain ⟨j, hj, hrow, k, hk, hkeeps, htold⟩ := hcheck
  obtain ⟨entries, after, hanswer⟩ : ∃ entries after,
      k.server.coord.serve peersOfSecond (draws "" 8) = (.ok (.peers entries), after) := by
    unfold told at htold
    split at htold
    · rename_i entry hserve
      exact ⟨[entry], _, Prod.ext hserve rfl⟩
    · cases htold
  exact ⟨j, k, entries, hj, hk, congrArg Prod.fst hanswer,
    (Journal.last_heartbeat_served hj hrow hk (kept_of_check hkeeps _) hanswer).1⟩

/-- Of two heartbeats that are both accepted, the one with the lesser time is served where it
arrives last. -/
theorem earlier_heartbeat_served : ∃ j k,
    Transition.exec Journal.step journal (registration ++ secondRegistration) = some j ∧
      Transition.exec Journal.step j swappedHeartbeats = some k ∧
      (j.heartbeats k "node").map (fun req => (req.timestamp.val, req.endpoint, req.viaRelay)) =
        [(1001, "198.51.100.2:7", none), (1000, "198.51.100.1:7", some "192.0.2.9:7")] ∧
      told k = some (some "198.51.100.1:7", some "192.0.2.9:7") := by
  have hcheck : (Transition.exec Journal.step journal (registration ++ secondRegistration)).any
      (fun j => (Transition.exec Journal.step j swappedHeartbeats).any fun k =>
        decide ((j.heartbeats k "node").map
            (fun req => (req.timestamp.val, req.endpoint, req.viaRelay)) =
          [(1001, "198.51.100.2:7", none), (1000, "198.51.100.1:7", some "192.0.2.9:7")]) &&
        decide (told k = some (some "198.51.100.1:7", some "192.0.2.9:7"))) = true := by
    decide +kernel
  simp only [Option.any_eq_true, Bool.and_eq_true, decide_eq_true_eq] at hcheck
  obtain ⟨j, hj, k, hk, hheartbeats, htold⟩ := hcheck
  exact ⟨j, k, hj, hk, hheartbeats, htold⟩

end Parties

end Naboscale.Coord
