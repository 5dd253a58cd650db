import Naboscale.Coord.Journal

/-!
# Who may change what is stored

What the coordinator stores for a node is its row and its tokens. It changes in one operation of a
handler, and the request of that handler carries a signature by the identity key of the node. The
handler looks its caller up first and acts only later; that the node of its caller is still the same
then follows from the node ids, which are drawn once each.
-/

namespace Naboscale.Coord

open Rust Concurrent

section General

variable [Profile] [CoordCrates]

/-! ## Signed requests -/

/-- The text is a signature of the message by an identity key. -/
def Signs (key : Bytes) (signature : String) (msg : Bytes) : Prop :=
  ∃ pubkey sig, identityKey key = some pubkey ∧ decodeSignature signature = .ok sig ∧
    identityVerify pubkey msg sig = true

/-- The holder of an identity key has signed the request; a registration names the key. -/
def Request.SignedBy (key : Bytes) : Request → Prop
  | register _ req => ∃ identityPubkey wgPubkey, decodePubkey req.identityPubkey = .ok identityPubkey ∧
      decodePubkey req.wgPubkey = .ok wgPubkey ∧ identityPubkey.val = key ∧
      Signs key req.signature (buildRegisterMessage req.timestamp identityPubkey wgPubkey)
  | peers _ _ => False
  | heartbeat _ _ req =>
      Signs key req.signature (buildHeartbeatMessage req.timestamp req.endpoint req.viaRelay)
  | refreshToken _ _ req => Signs key req.signature (buildRefreshMessage req.timestamp)
  | deleteNode _ _ req => Signs key req.signature (buildDeleteNodeMessage req.timestamp)

/-- The request is a registration. -/
def Request.registers : Request → Bool
  | register _ _ => true
  | _ => false

/-- The node that an operation changes, where it is there already. -/
def Op.subject : Op → Option String
  | updateHeartbeat nodeId _ _ _ | revokeAllTokensForNode nodeId | createToken nodeId _ _ _
  | deleteNode nodeId => some nodeId
  | _ => none

/-! ## The stages of a handler -/

/-- A handler that changes one node only, and that one because the holder of the key signed. -/
def Confined (request : Request) (nodeId : String) (key : Bytes) (p : Handler Response) : Prop :=
  p.Always fun op _ => (∀ id, op.subject = some id → id = nodeId ∧ request.SignedBy key) ∧
    ∀ node token ttlSecs, op ≠ .insertNode node token ttlSecs

/-- A handler that has not looked its caller up: it inserts the node that a registration signs, or
is confined to its caller afterwards. -/
def Unbound (request : Request) (draws : Draws) : Handler Response → Prop
  | .call (.getNodeByToken _ _) next => (next none).isRunning = false ∧
      ∀ caller, Confined request caller.nodeId caller.identityPubkey (next (some caller))
  | .call (.insertNode node _ _) next => request.registers = true ∧ node.nodeId = draws.nodeId ∧
      request.SignedBy node.identityPubkey ∧ ∀ r, (next r).isRunning = false
  | .call op next => op.subject = none ∧ ∀ r, Unbound request draws (next r)
  | _ => True

variable {request : Request} {ttl : I64} {draws : Draws} {nodeId : String} {key : Bytes}
  {peer : SocketAddr} {authorization : Option String} {α δ : Type}

omit [Profile] in
theorem unbound_of_finished {p : Handler Response} (h : p.isRunning = false) :
    Unbound request draws p := by
  cases p with
  | call => cases h
  | _ => trivial

omit [Profile] in
/-- A handler that has not looked its caller up changes no node that is there. -/
theorem unbound_subject {op : Op} {next : op.Result → Handler Response}
    (h : Unbound request draws (.call op next))
    (hop : ∀ node token ttlSecs, op ≠ .insertNode node token ttlSecs) : op.subject = none := by
  cases op with
  | insertNode node token ttlSecs => exact absurd rfl (hop node token ttlSecs)
  | getNodeByToken => rfl
  | _ => exact h.1

omit [Profile] in
theorem unbound_lift {f : δ → Error} {x : Except δ α} {k : α → Handler Response}
    (h : ∀ a, x = .ok a → Unbound request draws (k a)) :
    Unbound request draws (.lift f x >>= k) := by
  cases x with
  | ok a => exact h a rfl
  | error e => trivial

omit [Profile] in
theorem unbound_unwrap {x : Option α} {k : α → Handler Response}
    (h : ∀ a, x = some a → Unbound request draws (k a)) :
    Unbound request draws (.unwrap x >>= k) := by
  cases x with
  | some a => exact h a rfl
  | none => trivial

omit [Profile] in
theorem unbound_checkRateLimit {bucket : Bucket} {k : Unit → Handler Response}
    (h : ∀ u, Unbound request draws (k u)) :
    Unbound request draws (checkRateLimit peer bucket >>= k) := by
  rw [checkRateLimit, bind_assoc]
  exact ⟨rfl, fun admitted => unbound_lift fun u _ => h u⟩

omit [Profile] in
theorem unbound_authenticate {k : ℤ × NodeRecord → Handler Response}
    (h : ∀ (now : Clock) caller,
      Confined request caller.nodeId caller.identityPubkey (k (now.val, caller))) :
    Unbound request draws (authenticate authorization >>= k) := by
  simp only [authenticate, bind_assoc]
  exact unbound_lift fun token _ => ⟨rfl, fun now => ⟨rfl, fun caller => h now caller⟩⟩

omit [Profile] in
theorem confined_regular : Regular (Confined request nodeId key) where
  finished {p} h := by
    cases p with
    | call => cases h
    | _ => trivial
  call {op _} hop h := by
    refine ⟨?_, h⟩
    cases op with
    | checkRateLimit | currentTimestamp | getNodeByToken =>
        exact ⟨fun _ hid => (by cases hid), fun _ _ _ hinsert => (by cases hinsert)⟩
    | _ => exact hop.elim

omit [Profile] in
/-- An operation on the caller, for a request that is signed by its key. -/
theorem confined_call {op : Op} {k : op.Result → Handler Response} (hsigned : request.SignedBy key)
    (hsubject : op.subject = some nodeId ∨ op.subject = none)
    (hop : ∀ node token ttlSecs, op ≠ .insertNode node token ttlSecs)
    (h : ∀ r, Confined request nodeId key (k r)) :
    Confined request nodeId key (op.call >>= k) := by
  refine ⟨⟨fun id hid => ⟨?_, hsigned⟩, hop⟩, h⟩
  obtain hsome | hnone := hsubject
  · exact Option.some.inj (hid.symm.trans hsome)
  · cases hnone.symm.trans hid

/-- The checks of a signed request let it through with the signature of the caller. -/
theorem confined_signed {caller : NodeRecord} {signature : String} {timestamp : I64} {now : ℤ}
    {msg : Bytes} {k : Handler Response}
    (h : Signs caller.identityPubkey signature msg →
      Confined request caller.nodeId caller.identityPubkey k) :
    Confined request caller.nodeId caller.identityPubkey
      (decodeSigned caller signature timestamp now >>= fun x =>
        .lift id (checkSignature x.1 msg x.2) >>= fun _ : Unit => k) := by
  have hreg : Regular (Confined request caller.nodeId caller.identityPubkey) := confined_regular
  refine hreg.decodeSigned_of_ok fun pubkey sig hkey hsig _ => hreg.lift_of_ok fun u hu => h ?_
  refine ⟨pubkey, sig, hkey, hsig, ?_⟩
  dsimp only [checkSignature] at hu
  split at hu
  · assumption
  · cases hu

/-- Every handler looks its caller up before it changes anything, and a registration inserts the
node that it signs. -/
theorem handler_unbound (request : Request) :
    Unbound request draws (request.handler ttl draws) := by
  cases request with
  | register peer req =>
      refine unbound_checkRateLimit fun _ => unbound_lift fun identityPubkey hidentity =>
        unbound_lift fun wgPubkey hwg => unbound_lift fun sig hsig => ⟨rfl, fun now =>
        unbound_unwrap fun valid _ => unbound_lift fun _ _ => unbound_lift fun u hu =>
        ⟨rfl, fun allocated => ?_⟩⟩
      cases allocated with
      | none => trivial
      | some ip =>
          refine unbound_unwrap fun expiresAt _ => ⟨rfl, rfl, ?_, fun r => ?_⟩
          · refine ⟨identityPubkey, wgPubkey, hidentity, hwg, rfl, identityPubkey, sig,
              dif_pos identityPubkey.property, hsig, ?_⟩
            dsimp only [checkSignature] at hu
            split at hu
            · assumption
            · cases hu
          · cases r <;> rfl
  | peers peer authorization =>
      refine unbound_checkRateLimit fun _ => unbound_authenticate fun _ caller => ?_
      exact ⟨⟨fun _ hid => (by cases hid), fun _ _ _ hinsert => (by cases hinsert)⟩, fun _ => trivial⟩
  | heartbeat peer authorization req =>
      refine unbound_checkRateLimit fun _ => unbound_authenticate fun now caller =>
        confined_signed fun hsigned => ?_
      cases req.viaRelay.filter fun r => !isSocketAddr r with
      | some r => trivial
      | none =>
          exact confined_call hsigned (.inl rfl) (fun _ _ _ hinsert => (by cases hinsert))
            fun _ => trivial
  | refreshToken peer authorization req =>
      refine unbound_checkRateLimit fun _ => unbound_authenticate fun now caller =>
        confined_signed fun hsigned => confined_call hsigned (.inl rfl)
          (fun _ _ _ hinsert => (by cases hinsert)) fun _ => ?_
      have hreg : Regular (Confined (.refreshToken peer authorization req) caller.nodeId
        caller.identityPubkey) := confined_regular
      exact confined_call hsigned (.inl rfl) (fun _ _ _ hinsert => (by cases hinsert))
        fun _ => hreg.lift fun _ => hreg.unwrap fun _ _ => trivial
  | deleteNode peer authorization req =>
      refine unbound_checkRateLimit fun _ => unbound_authenticate fun now caller =>
        confined_signed fun hsigned => confined_call hsigned (.inl rfl)
          (fun _ _ _ hinsert => (by cases hinsert)) fun ip => ?_
      split
      · trivial
      · exact confined_call hsigned (.inr rfl) (fun _ _ _ hinsert => (by cases hinsert))
          fun _ => trivial

/-! ## What is stored for a node -/

omit [Profile] [CoordCrates] in
/-- The row of a node and its tokens, each with whether it is revoked. -/
def Database.holdings (db : Database) (nodeId : String) : List NodeRecord × List (String × Bool) :=
  (db.nodes.rows.filter fun n => n.nodeId = nodeId,
    (db.tokens.rows.filter fun t => t.nodeId = nodeId).map fun t => (t.token, t.revoked))

namespace Database

variable {db : Database} {node : NodeRecord} {token other : String} {createdAt ttlSecs : ℤ}

omit [Profile] [CoordCrates] in
/-- Changing rows of other nodes leaves those of a node as they are. -/
theorem filter_map_of_same {ρ : Type} {f : ρ → ρ} {rows : List ρ} (id : ρ → String)
    (hid : ∀ r, id (f r) = id r) (hf : ∀ r, id r = nodeId → f r = r) :
    (rows.map f).filter (fun r => id r = nodeId) = rows.filter fun r => id r = nodeId := by
  rw [List.filter_map]
  have hsame : rows.filter ((fun r => decide (id r = nodeId)) ∘ f) =
      rows.filter fun r => id r = nodeId := by
    refine List.filter_congr fun r _ => ?_
    rw [Function.comp_apply, hid]
  rw [hsame]
  refine (List.map_congr_left fun r hr => ?_).trans (List.map_id _)
  exact hf r (of_decide_eq_true (List.mem_filter.1 hr).2)

omit [CoordCrates] in
/-- A token is made for its node only. -/
theorem holdings_createToken (hother : other ≠ nodeId) :
    (db.createToken other token createdAt ttlSecs).2.holdings nodeId = db.holdings nodeId := by
  unfold createToken
  split
  · rfl
  · split
    · rfl
    · rename_i hadd
      obtain ⟨hnodes, htokens⟩ := rows_addToken hadd
      rw [holdings, holdings, hnodes, htokens, List.filter_append, List.filter_cons_of_neg
        (by simpa using hother), List.filter_nil, List.append_nil]

omit [CoordCrates] in
/-- A node is inserted with a token of its own. -/
theorem holdings_insertNode (hother : node.nodeId ≠ nodeId) :
    (db.insertNode node token ttlSecs).2.holdings nodeId = db.holdings nodeId := by
  unfold insertNode
  cases hadd : db.addNode node.inserted with
  | error e => rfl
  | ok made =>
      obtain ⟨hnodes, htokens⟩ := rows_addNode hadd
      refine (holdings_createToken hother).trans ?_
      have hnode : node.inserted.nodeId ≠ nodeId := hother
      rw [holdings, holdings, hnodes, htokens, List.filter_append, List.filter_cons_of_neg
        (by simpa using hnode), List.filter_nil, List.append_nil]

omit [Profile] [CoordCrates] in
/-- A restart changes when a token expires, but neither the tokens nor the nodes. -/
theorem holdings_initSchema : db.initSchema.holdings nodeId = db.holdings nodeId := by
  unfold initSchema updateTokens holdings Table.update
  simp only [List.filter_map, List.map_map]
  rfl

end Database

omit [CoordCrates] in
/-- An operation on another node leaves what is stored for a node as it is. -/
theorem Coordinator.holdings_handle {op : Op} {self : Coordinator} (hsubject : op.subject ≠ some nodeId)
    (hinsert : ∀ node token ttlSecs, op = .insertNode node token ttlSecs → node.nodeId ≠ nodeId) :
    (handle op self).2.db.holdings nodeId = self.db.holdings nodeId := by
  have hlocked {α : Type} {f : Database → Option α × Database}
      (hf : (f self.db).2.holdings nodeId = self.db.holdings nodeId) :
      (self.locked f).2.db.holdings nodeId = self.db.holdings nodeId := by
    obtain h | ⟨_, h⟩ := self.locked_snd (f := f)
    · rw [h]
    · rw [h]
      exact hf
  cases op with
  | checkRateLimit | currentTimestamp | allocate | release => rfl
  | getNodeByToken | listPeers => exact hlocked rfl
  | insertNode node token ttlSecs =>
      exact hlocked (Database.holdings_insertNode (hinsert node token ttlSecs rfl))
  | createToken other token createdAt ttlSecs =>
      exact hlocked (Database.holdings_createToken fun h => hsubject (congrArg some h))
  | updateHeartbeat other endpoint viaRelay lastSeen =>
      have hother : other ≠ nodeId := fun h => hsubject (congrArg some h)
      refine hlocked (Prod.ext ?_ rfl)
      refine Database.filter_map_of_same NodeRecord.nodeId (fun n => ?_) fun n hn => ?_
      · split <;> rfl
      · exact if_neg fun h => hother (h.symm.trans hn)
  | revokeAllTokensForNode other =>
      have hother : other ≠ nodeId := fun h => hsubject (congrArg some h)
      refine hlocked (Prod.ext rfl (congrArg (List.map fun t : TokenRecord => (t.token, t.revoked)) ?_))
      refine Database.filter_map_of_same TokenRecord.nodeId (fun t => ?_) fun t ht => ?_
      · split <;> rfl
      · refine if_neg fun h => hother ?_
        rw [Bool.and_eq_true, decide_eq_true_eq] at h
        exact h.1.symm.trans ht
  | deleteNode other =>
      have hother : other ≠ nodeId := fun h => hsubject (congrArg some h)
      have hkept {ρ : Type} (id : ρ → String) (rows : List ρ) :
          (rows.filter fun r => !decide (id r = other)).filter (fun r => id r = nodeId) =
            rows.filter fun r => id r = nodeId := by
        rw [List.filter_filter]
        refine List.filter_congr fun r _ => ?_
        by_cases hr : id r = nodeId
        · rw [hr, decide_eq_true rfl, decide_eq_false (Ne.symm hother)]
          rfl
        · rw [decide_eq_false hr, Bool.false_and]
      exact hlocked (Prod.ext (hkept NodeRecord.nodeId _)
        (congrArg (List.map fun t : TokenRecord => (t.token, t.revoked))
          (hkept TokenRecord.nodeId _)))

omit [Profile] [CoordCrates] in
/-- No operation changes the keys of a row; a row that is new is the one that is inserted. -/
theorem Op.mem_rows {op : Op} {rows : List NodeRecord} {n' : NodeRecord} (h : n' ∈ op.rows rows) :
    (∃ n ∈ rows, n'.nodeId = n.nodeId ∧ n'.identityPubkey = n.identityPubkey) ∨
      ∃ node token ttlSecs, op = .insertNode node token ttlSecs ∧ n' = node.inserted := by
  cases op with
  | insertNode node token ttlSecs =>
      rw [Op.rows] at h
      split at h
      · obtain hmem | hmem := List.mem_append.1 h
        · exact .inl ⟨n', hmem, rfl, rfl⟩
        · exact .inr ⟨node, token, ttlSecs, rfl, List.mem_singleton.1 hmem⟩
      · exact .inl ⟨n', h, rfl, rfl⟩
  | updateHeartbeat other endpoint viaRelay lastSeen =>
      obtain ⟨n, hn, rfl⟩ := List.mem_map.1 h
      refine .inl ⟨n, hn, ?_⟩
      split <;> exact ⟨rfl, rfl⟩
  | deleteNode other => exact .inl ⟨n', (List.mem_filter.1 h).1, rfl, rfl⟩
  | _ => exact .inl ⟨n', h, rfl, rfl⟩

/-! ## In a run -/

omit [Profile] [CoordCrates] in
/-- The node id that a registration draws when it arrives. -/
def Event.enrols : Event → Option String
  | .spawn _ (.register _ _) draws => some draws.nodeId
  | _ => none

namespace Journal

variable {j k : Journal} {event : Event} {owner : String → Option Bytes} {ids : List String} {i : ℕ}

omit [Profile] in
/-- The handler at an index serves a registration. -/
def Enrolling (j : Journal) (i : ℕ) : Prop :=
  (j.server.task i).isRunning = true ∧
    ∃ arrival, j.arrivals i = some arrival ∧ arrival.request.registers = true

omit [Profile] in
/-- Whose the nodes are that there have been, with the node ids that were drawn. A registration in
flight has an id of its own that no node has had, and a handler that looked its caller up is
confined to a node of that owner. -/
structure Kept (owner : String → Option Bytes) (ids : List String) (j : Journal) : Prop where
  rows {n : NodeRecord} : n ∈ j.server.coord.db.nodes.rows → owner n.nodeId = some n.identityPubkey
  drew {id : String} : owner id ≠ none → id ∈ ids
  fresh {i : ℕ} : j.Enrolling i →
    (j.server.drawn i).nodeId ∈ ids ∧ owner (j.server.drawn i).nodeId = none
  apart {i i' : ℕ} : j.Enrolling i → j.Enrolling i' →
    (j.server.drawn i).nodeId = (j.server.drawn i').nodeId → i = i'
  staged {i : ℕ} {arrival : Arrival} : j.arrivals i = some arrival →
    Unbound arrival.request (j.server.drawn i) (j.server.task i) ∨
      ∃ id key, owner id = some key ∧ Confined arrival.request id key (j.server.task i)

omit [Profile] in
theorem start_kept {ttl : I64} {clock : Clock} {instant : Instant} :
    Kept (fun _ => none) [] (start ttl clock instant) where
  rows hn := absurd hn List.not_mem_nil
  drew h := absurd rfl h
  fresh h := absurd h.1 Bool.false_ne_true
  apart h := absurd h.1 Bool.false_ne_true
  staged h := (by cases h)

/-- A request that arrives changes nothing at the other indices. -/
theorem spawn_other {request : Request} {draws : Draws} {m : ℕ}
    (hstep : j.step (.spawn m request draws) = some k) (hi : i ≠ m) :
    k.server.task i = j.server.task i ∧ k.server.drawn i = j.server.drawn i ∧
      k.arrivals i = j.arrivals i := by
  obtain ⟨server, hserver, rfl⟩ := Option.map_eq_some_iff.1 hstep
  rw [Server.step] at hserver
  split at hserver
  · cases hserver
  · cases hserver
    exact ⟨Function.update_of_ne hi .., Function.update_of_ne hi .., Function.update_of_ne hi ..⟩

theorem spawn_self {request : Request} {draws : Draws} {m : ℕ}
    (hstep : j.step (.spawn m request draws) = some k) :
    k.server.coord = j.server.coord ∧ k.server.drawn m = draws ∧
      k.server.task m = request.handler j.server.coord.tokenTtlSecs draws ∧
      ∃ clock seen, k.arrivals m = some ⟨request, clock, seen⟩ := by
  obtain ⟨server, hserver, rfl⟩ := Option.map_eq_some_iff.1 hstep
  rw [Server.step] at hserver
  split at hserver
  · cases hserver
  · cases hserver
    exact ⟨rfl, Function.update_self .., Function.update_self .., _, _, Function.update_self ..⟩

/-- A request that arrives. -/
theorem Kept.spawn {request : Request} {draws : Draws} {m : ℕ} (h : Kept owner ids j)
    (hfresh : ∀ id ∈ (Event.spawn m request draws).enrols, id ∉ ids)
    (hstep : j.step (.spawn m request draws) = some k) :
    Kept owner (ids ++ (Event.spawn m request draws).enrols.toList) k := by
  obtain ⟨hcoord, hdrawn, htask, clock, seen, harrival⟩ := spawn_self hstep
  have hkeep {i : ℕ} (hi : i ≠ m) (henrols : k.Enrolling i) : j.Enrolling i := by
    obtain ⟨hother, -, hsame⟩ := spawn_other hstep hi
    rwa [Enrolling, hother, hsame] at henrols
  -- The id that a registration draws was not drawn before.
  have hnew (henrols : k.Enrolling m) : draws.nodeId ∉ ids ∧
      draws.nodeId ∈ ids ++ (Event.spawn m request draws).enrols.toList := by
    obtain ⟨-, arrival, hserves, hregisters⟩ := henrols
    cases harrival.symm.trans hserves
    cases request with
    | register peer req =>
        exact ⟨hfresh _ rfl, List.mem_append_right _ (List.mem_singleton.2 rfl)⟩
    | _ => cases hregisters
  refine ⟨fun hn => h.rows (hcoord ▸ hn), fun hid => List.mem_append_left _ (h.drew hid),
    fun {i} henrols => ?_, fun {i i'} henrols henrols' hsame => ?_, fun {i arrival} hserves => ?_⟩
  · by_cases hi : i = m
    · subst hi
      rw [hdrawn]
      refine ⟨(hnew henrols).2, ?_⟩
      by_contra hsome
      exact (hnew henrols).1 (h.drew hsome)
    · rw [(spawn_other hstep hi).2.1]
      exact (h.fresh (hkeep hi henrols)).imp_left (List.mem_append_left _)
  · have hdiffers {a b : ℕ} (ha : a = m) (hb : b ≠ m) (henrolsA : k.Enrolling a)
        (henrolsB : k.Enrolling b) : (k.server.drawn a).nodeId ≠ (k.server.drawn b).nodeId := by
      intro heq
      rw [ha, hdrawn, (spawn_other hstep hb).2.1] at heq
      exact (hnew (ha ▸ henrolsA)).1 (heq ▸ (h.fresh (hkeep hb henrolsB)).1)
    by_cases hi : i = m
    · by_contra hne
      exact hdiffers hi (fun hi' => hne (hi.trans hi'.symm)) henrols henrols' hsame
    · by_cases hi' : i' = m
      · exact absurd hsame.symm (hdiffers hi' hi henrols' henrols)
      · rw [(spawn_other hstep hi).2.1, (spawn_other hstep hi').2.1] at hsame
        exact h.apart (hkeep hi henrols) (hkeep hi' henrols') hsame
  · by_cases hi : i = m
    · subst hi
      cases harrival.symm.trans hserves
      rw [htask, hdrawn]
      exact .inl (handler_unbound request)
    · obtain ⟨hother, hdrew, hsame⟩ := spawn_other hstep hi
      rw [hother, hdrew]
      exact h.staged (hsame ▸ hserves)

/-- What an operation of a handler changes in the pool. -/
theorem advance_pool {op : Op} {next : op.Result → Handler Response} {m : ℕ}
    (htask : j.server.task m = .call op next) (hstep : j.step (.advance m) = some k) :
    k.server.coord = (Coordinator.handle op j.server.coord).2 ∧ k.server.drawn = j.server.drawn ∧
      k.arrivals = j.arrivals ∧
      k.server.task m = (Coordinator.handle op j.server.coord).1.elim .panic next ∧
      ∀ i, i ≠ m → k.server.task i = j.server.task i := by
  obtain ⟨server, hserver, rfl⟩ := Option.map_eq_some_iff.1 hstep
  cases hserver
  have hpool : j.server.pool.advance Coordinator.handle m = _ := Pool.advance_call htask
  refine ⟨congrArg Pool.shared hpool, rfl, rfl, ?_, fun i hi => Function.update_of_ne hi ..⟩
  exact (congrArg (fun pool => pool.tasks m) hpool).trans (Function.update_self ..)

omit [Profile] in
/-- A handler that has ended enrols no node. -/
theorem not_enrolling {m : ℕ} (h : (j.server.task m).isRunning = false) : ¬ j.Enrolling m :=
  fun henrols => absurd (h.symm.trans henrols.1) Bool.false_ne_true

/-- A handler in flight for a registration was in flight for it before its step. -/
theorem enrolling_of_advance {op : Op} {next : op.Result → Handler Response} {m : ℕ}
    (htask : j.server.task m = .call op next) (hstep : j.step (.advance m) = some k)
    (henrols : k.Enrolling i) : j.Enrolling i := by
  obtain ⟨-, -, harrivals, -, hother⟩ := advance_pool htask hstep
  obtain ⟨hruns, arrival, hserves, hregisters⟩ := henrols
  refine ⟨?_, arrival, harrivals ▸ hserves, hregisters⟩
  by_cases hi : i = m
  · rw [hi, htask]
    rfl
  · rwa [hother i hi] at hruns

/-- The rows after a step are those from before, and the one that it inserts. -/
theorem Kept.rows_advance {op : Op} {next : op.Result → Handler Response} {m : ℕ}
    (h : Kept owner ids j) (htask : j.server.task m = .call op next)
    (hstep : j.step (.advance m) = some k) {n' : NodeRecord}
    (hn' : n' ∈ k.server.coord.db.nodes.rows) :
    owner n'.nodeId = some n'.identityPubkey ∨
      ∃ node token ttlSecs, op = .insertNode node token ttlSecs ∧ n' = node.inserted := by
  rw [(advance_pool htask hstep).1, Coordinator.handle_rows] at hn'
  split at hn'
  · exact .inl (h.rows hn')
  · obtain ⟨n, hn, hid, hkey⟩ | hinserted := Op.mem_rows hn'
    · rw [hid, hkey]
      exact .inl (h.rows hn)
    · exact .inr hinserted

/-- A handler makes a step that inserts no node. -/
theorem Kept.continues {op : Op} {next : op.Result → Handler Response} {m : ℕ}
    (h : Kept owner ids j) (htask : j.server.task m = .call op next)
    (hstep : j.step (.advance m) = some k)
    (hinsert : ∀ node token ttlSecs, op ≠ .insertNode node token ttlSecs)
    (hstage : ∀ arrival, j.arrivals m = some arrival →
      Unbound arrival.request (j.server.drawn m) (k.server.task m) ∨
        ∃ id key, owner id = some key ∧ Confined arrival.request id key (k.server.task m)) :
    Kept owner ids k := by
  obtain ⟨-, hdrawn, harrivals, -, hother⟩ := advance_pool htask hstep
  refine ⟨fun hn => ?_, h.drew, fun henrols => ?_, fun henrols henrols' hsame => ?_,
    fun {i arrival} hserves => ?_⟩
  · obtain hold | ⟨node, token, ttlSecs, hop, -⟩ := h.rows_advance htask hstep hn
    · exact hold
    · exact absurd hop (hinsert node token ttlSecs)
  · rw [hdrawn]
    exact h.fresh (enrolling_of_advance htask hstep henrols)
  · rw [hdrawn] at hsame
    exact h.apart (enrolling_of_advance htask hstep henrols)
      (enrolling_of_advance htask hstep henrols') hsame
  · rw [harrivals] at hserves
    rw [hdrawn]
    by_cases hi : i = m
    · subst hi
      exact hstage arrival hserves
    · rw [hother i hi]
      exact h.staged hserves

/-- A registration inserts its node, whose id no node has had. -/
theorem Kept.inserts {node : NodeRecord} {token : String} {ttlSecs : ℤ}
    {next : (Op.insertNode node token ttlSecs).Result → Handler Response} {m : ℕ}
    (h : Kept owner ids j) (htask : j.server.task m = .call (.insertNode node token ttlSecs) next)
    (hstep : j.step (.advance m) = some k) (henrols : j.Enrolling m)
    (hid : node.nodeId = (j.server.drawn m).nodeId) (hends : ∀ r, (next r).isRunning = false) :
    Kept (Function.update owner node.nodeId (some node.identityPubkey)) ids k := by
  obtain ⟨-, hdrawn, harrivals, hnext, hother⟩ := advance_pool htask hstep
  obtain ⟨hdrew, hnone⟩ := h.fresh henrols
  rw [← hid] at hdrew hnone
  have hended : (k.server.task m).isRunning = false := by
    rw [hnext]
    cases (Coordinator.handle (.insertNode node token ttlSecs) j.server.coord).1 with
    | none => rfl
    | some r => exact hends r
  have howned {id : String} {key : Bytes} (howner : owner id = some key) :
      Function.update owner node.nodeId (some node.identityPubkey) id = some key := by
    have hne : id ≠ node.nodeId := by
      rintro rfl
      cases hnone.symm.trans howner
    rwa [Function.update_of_ne hne]
  refine ⟨fun hn => ?_, fun {id} howner => ?_, fun {i} hi => ?_, fun henrols henrols' hsame => ?_,
    fun {i arrival} hserves => ?_⟩
  · obtain hold | ⟨other, token', ttlSecs', hop, rfl⟩ := h.rows_advance htask hstep hn
    · exact howned hold
    · cases hop
      exact Function.update_self ..
  · by_cases heq : id = node.nodeId
    · exact heq ▸ hdrew
    · rw [Function.update_of_ne heq] at howner
      exact h.drew howner
  · have hold := enrolling_of_advance htask hstep hi
    obtain ⟨hmem, hfree⟩ := h.fresh hold
    rw [hdrawn]
    refine ⟨hmem, ?_⟩
    rw [Function.update_of_ne, hfree]
    intro heq
    have him : i = m := h.apart hold henrols (heq.trans hid)
    exact not_enrolling hended (him ▸ hi)
  · rw [hdrawn] at hsame
    exact h.apart (enrolling_of_advance htask hstep henrols)
      (enrolling_of_advance htask hstep henrols') hsame
  · rw [harrivals] at hserves
    rw [hdrawn]
    by_cases hi : i = m
    · exact .inl (unbound_of_finished (hi ▸ hended))
    · rw [hother i hi]
      obtain hunbound | ⟨id, key, howner, hconfined⟩ := h.staged hserves
      · exact .inl hunbound
      · exact .inr ⟨id, key, howned howner, hconfined⟩

/-- A handler makes a step. -/
theorem Kept.advance {op : Op} {next : op.Result → Handler Response} {m : ℕ}
    (h : Kept owner ids j) (hcoherent : j.Coherent) (htask : j.server.task m = .call op next)
    (hstep : j.step (.advance m) = some k) : ∃ owner', Kept owner' ids k := by
  have hnext := (advance_pool htask hstep).2.2.2.1
  have hrunning : (j.server.task m).isRunning = true := by
    rw [htask]
    rfl
  cases harrived : j.arrivals m with
  | none => exact absurd (hcoherent.known m harrived) (by rw [hrunning]; exact Bool.noConfusion)
  | some arrival =>
      obtain hunbound | ⟨id, key, howner, hconfined⟩ := h.staged harrived
      · rw [htask] at hunbound
        -- A handler that panics or goes on with nothing to do is unbound still.
        have hstays (hgoes : ∀ r, (Coordinator.handle op j.server.coord).1 = some r →
            Unbound arrival.request (j.server.drawn m) (next r) ∨
              ∃ id key, owner id = some key ∧ Confined arrival.request id key (next r)) :
            ∀ other, j.arrivals m = some other →
              Unbound other.request (j.server.drawn m) (k.server.task m) ∨
                ∃ id key, owner id = some key ∧ Confined other.request id key (k.server.task m) := by
          intro other hother
          cases harrived.symm.trans hother
          rw [hnext]
          cases hresult : (Coordinator.handle op j.server.coord).1 with
          | none => exact .inl trivial
          | some r => exact hgoes r hresult
        cases op with
        | insertNode node token ttlSecs =>
            obtain ⟨hregisters, hid, -, hends⟩ := hunbound
            exact ⟨_, h.inserts htask hstep ⟨hrunning, arrival, harrived, hregisters⟩ hid hends⟩
        | getNodeByToken token now =>
            refine ⟨owner, h.continues htask hstep (fun _ _ _ hop => (by cases hop))
              (hstays fun r hresult => ?_)⟩
            cases r with
            | none => exact .inl (unbound_of_finished hunbound.1)
            | some caller =>
                have hlocked : j.server.coord.locked (fun db =>
                    (some (db.getNodeByToken token now), db)) = (some (some caller), _) :=
                  Prod.ext hresult rfl
                have hfound : j.server.coord.db.getNodeByToken token now = some caller :=
                  Option.some.inj (Coordinator.locked_inv hlocked).2.1
                exact .inr ⟨caller.nodeId, caller.identityPubkey,
                  h.rows (List.mem_of_find?_eq_some hfound), hunbound.2 caller⟩
        | _ =>
            exact ⟨owner, h.continues htask hstep (fun _ _ _ hop => (by cases hop))
              (hstays fun r _ => .inl (hunbound.2 r))⟩
      · rw [htask] at hconfined
        refine ⟨owner, h.continues htask hstep hconfined.1.2 fun other hother =>
          .inr ⟨id, key, howner, ?_⟩⟩
        cases harrived.symm.trans hother
        rw [hnext]
        cases (Coordinator.handle op j.server.coord).1 with
        | none => trivial
        | some r => exact hconfined.2 r

/-- One step. -/
theorem Kept.step (h : Kept owner ids j) (hcoherent : j.Coherent)
    (hfresh : ∀ id ∈ event.enrols, id ∉ ids) (hstep : j.step event = some k) :
    ∃ owner', Kept owner' (ids ++ event.enrols.toList) k := by
  cases event with
  | spawn m request draws => exact ⟨owner, h.spawn hfresh hstep⟩
  | advance m =>
      rw [show (Event.advance m).enrols = none from rfl, Option.toList_none, List.append_nil]
      cases htask : j.server.task m with
      | call op next => exact h.advance hcoherent htask hstep
      | _ =>
          have hidle : (j.server.task m).isRunning = false := congrArg Program.isRunning htask
          obtain ⟨server, hserver, rfl⟩ := Option.map_eq_some_iff.1 hstep
          cases hserver
          have hpool : j.server.pool.advance Coordinator.handle m = j.server.pool :=
            Pool.advance_idle hidle
          refine ⟨owner, ?_⟩
          simp only [hpool]
          exact ⟨h.rows, h.drew, h.fresh, h.apart, h.staged⟩
  | tick clock instant =>
      cases hstep
      rw [show (Event.tick clock instant).enrols = none from rfl, Option.toList_none, List.append_nil]
      exact ⟨owner, h.rows, h.drew, h.fresh, h.apart, h.staged⟩
  | restart ttl =>
      cases hstep
      rw [show (Event.restart ttl).enrols = none from rfl, Option.toList_none, List.append_nil]
      exact ⟨owner, h.rows, h.drew, fun henrols => absurd henrols.1 Bool.false_ne_true,
        fun henrols => absurd henrols.1 Bool.false_ne_true, fun _ => .inl trivial⟩

/-- A run. -/
theorem Kept.run {events : List Event} (h : Kept owner ids j) (hcoherent : j.Coherent)
    (hids : (ids ++ events.filterMap Event.enrols).Nodup)
    (hrun : Transition.exec Journal.step j events = some k) :
    ∃ owner', Kept owner' (ids ++ events.filterMap Event.enrols) k := by
  induction events generalizing j owner ids with
  | nil =>
      cases hrun
      exact ⟨owner, by rwa [List.filterMap_nil, List.append_nil]⟩
  | cons event events ih =>
      obtain ⟨next, hstep, hrest⟩ := Transition.exec_cons_inv hrun
      have hsplit : ids ++ (event :: events).filterMap Event.enrols =
          ids ++ event.enrols.toList ++ events.filterMap Event.enrols := by
        rw [List.filterMap_cons, List.append_assoc]
        cases event.enrols <;> rfl
      rw [hsplit] at hids ⊢
      have hfresh : ∀ id ∈ event.enrols, id ∉ ids := by
        intro id hid hmem
        rw [List.append_assoc] at hids
        refine (List.nodup_append.1 hids).2.2 id hmem id ?_ rfl
        exact List.mem_append_left _ (Option.mem_toList.2 hid)
      obtain ⟨owner', hkept⟩ := h.step hcoherent hfresh hstep
      exact ih hkept (hcoherent.step hstep) hids hrest

/-- In any run of the coordinator, with any requests in flight at once, restarts and any clock, what
is stored for a node changes only in a step of a handler whose request the holder of the node's
identity key has signed. -/
theorem changed_by_holder {ttl : I64} {clock : Clock} {instant : Instant} {events : List Event}
    {nodeId : String} (hids : (events.filterMap Event.enrols).Nodup)
    (hrun : Transition.exec Journal.step (start ttl clock instant) events = some j)
    (hstep : j.step event = some k)
    (hchanged : k.server.coord.db.holdings nodeId ≠ j.server.coord.db.holdings nodeId) :
    ∃ i arrival key, event = .advance i ∧ j.arrivals i = some arrival ∧
      arrival.request.SignedBy key ∧
      ∀ n ∈ j.server.coord.db.nodes.rows ++ k.server.coord.db.nodes.rows, n.nodeId = nodeId →
        n.identityPubkey = key := by
  have hcoherent := coherent_of_run hrun
  obtain ⟨owner, hkept⟩ := Kept.run start_kept start_coherent (by rwa [List.nil_append]) hrun
  obtain ⟨m, op, next, rfl, htask⟩ : ∃ m op next, event = .advance m ∧
      j.server.task m = .call op next := by
    cases event with
    | spawn m request draws =>
        exact absurd (congrArg (fun coord => coord.db.holdings nodeId) (spawn_self hstep).1) hchanged
    | advance m =>
        cases htask : j.server.task m with
        | call op next => exact ⟨m, op, next, rfl, htask⟩
        | _ =>
            have hidle : (j.server.task m).isRunning = false := congrArg Program.isRunning htask
            obtain ⟨server, hserver, rfl⟩ := Option.map_eq_some_iff.1 hstep
            cases hserver
            have hpool : j.server.pool.advance Coordinator.handle m = j.server.pool :=
              Pool.advance_idle hidle
            exact absurd (congrArg (fun pool => pool.shared.db.holdings nodeId) hpool) hchanged
    | tick clock instant =>
        cases hstep
        exact absurd rfl hchanged
    | restart ttl =>
        cases hstep
        exact absurd Database.holdings_initSchema hchanged
  obtain ⟨hcoord, -, -, -, -⟩ := advance_pool htask hstep
  rw [hcoord] at hchanged
  have hrunning : (j.server.task m).isRunning = true := by
    rw [htask]
    rfl
  cases harrived : j.arrivals m with
  | none => exact absurd (hcoherent.known m harrived) (by rw [hrunning]; exact Bool.noConfusion)
  | some arrival =>
      obtain hunbound | ⟨id, key, howner, hconfined⟩ := hkept.staged harrived
      · rw [htask] at hunbound
        cases op with
        | insertNode node token ttlSecs =>
            obtain ⟨hregisters, hid, hsigned, -⟩ := hunbound
            have hnone : owner node.nodeId = none :=
              hid ▸ (hkept.fresh ⟨hrunning, arrival, harrived, hregisters⟩).2
            have hsame : node.nodeId = nodeId := by
              by_contra hother
              refine hchanged (Coordinator.holdings_handle (fun h => (by cases h)) ?_)
              rintro _ _ _ hop
              cases hop
              exact hother
            refine ⟨m, arrival, node.identityPubkey, rfl, harrived, hsigned, fun n hn hnode => ?_⟩
            have hold (howned : owner n.nodeId = some n.identityPubkey) :
                n.identityPubkey = node.identityPubkey := by
              rw [hnode, ← hsame, hnone] at howned
              cases howned
            obtain hn | hn := List.mem_append.1 hn
            · exact hold (hkept.rows hn)
            · obtain howned | ⟨_, _, _, hop, rfl⟩ := hkept.rows_advance htask hstep hn
              · exact hold howned
              · cases hop
                rfl
        | _ =>
            have hinsert := unbound_subject hunbound fun _ _ _ hop => (by cases hop)
            refine absurd (Coordinator.holdings_handle ?_ fun _ _ _ hop => (by cases hop)) hchanged
            exact fun h => (by cases hinsert.symm.trans h)
      · rw [htask] at hconfined
        obtain ⟨hsubject, hinsert⟩ := hconfined.1
        have hnode : op.subject = some nodeId := by
          by_contra hother
          exact hchanged (Coordinator.holdings_handle hother fun node token ttlSecs hop =>
            absurd hop (hinsert node token ttlSecs))
        obtain ⟨rfl, hsigned⟩ := hsubject nodeId hnode
        refine ⟨m, arrival, key, rfl, harrived, hsigned, fun n hn hid => ?_⟩
        have hold (howned : owner n.nodeId = some n.identityPubkey) : n.identityPubkey = key := by
          rw [hid, howner] at howned
          exact (Option.some.inj howned).symm
        obtain hn | hn := List.mem_append.1 hn
        · exact hold (hkept.rows hn)
        · obtain howned | ⟨node, token, ttlSecs, hop, -⟩ := hkept.rows_advance htask hstep hn
          · exact hold howned
          · exact absurd hop (hinsert node token ttlSecs)

end Journal

end General

namespace Parties

attribute [local instance] crates Symbolic.release

/-- The first node registers and sends a heartbeat, up to the operation that stores it. -/
def pendingHeartbeat : List Event :=
  registration ++
    .spawn 2 (heartbeatBy 1 (key 1) firstToken "198.51.100.1:7" none (seconds 1000)) (draws "" 8) ::
      advances 2 3

/-- The heartbeat is stored for the holder of the key 1, which is the key of the node. -/
theorem heartbeat_changes_own_node : ∃ j k,
    Transition.exec Journal.step journal pendingHeartbeat = some j ∧
      j.step (.advance 2) = some k ∧
      k.server.coord.db.holdings "node" ≠ j.server.coord.db.holdings "node" ∧
      ∃ i arrival identity, Event.advance 2 = .advance i ∧ j.arrivals i = some arrival ∧
        arrival.request.SignedBy identity ∧
        ∀ n ∈ j.server.coord.db.nodes.rows ++ k.server.coord.db.nodes.rows, n.nodeId = "node" →
          n.identityPubkey = identity := by
  have hcheck : (Transition.exec Journal.step journal pendingHeartbeat).any
      (fun j => (j.step (.advance 2)).any fun k =>
        decide (k.server.coord.db.holdings "node" ≠ j.server.coord.db.holdings "node")) = true := by
    decide +kernel
  simp only [Option.any_eq_true, decide_eq_true_eq] at hcheck
  obtain ⟨j, hj, k, hk, hchanged⟩ := hcheck
  have hids : (pendingHeartbeat.filterMap Event.enrols).Nodup := by decide +kernel
  exact ⟨j, k, hj, hk, hchanged, Journal.changed_by_holder hids hj hk hchanged⟩

end Parties

end Naboscale.Coord
