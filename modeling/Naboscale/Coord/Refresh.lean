import Naboscale.Coord.Tokens
import Naboscale.Renewal

/-!
# One live token for a node

`refresh_token` authenticates, revokes and creates under the lock three times. While it stands
between the last two, its node has no valid token, and a second refresh of the node that comes
there leaves two of them. In a run without that, the coordinator renews tokens as credentials are
renewed in `Renewal`.
-/

namespace Naboscale.Coord

open Rust Concurrent

/-! ## The tokens of a node -/

namespace Database

/-- The tokens of a node that are not revoked. -/
def unrevoked (db : Database) (nodeId : String) : List TokenRecord :=
  db.tokens.rows.filter fun t => t.nodeId = nodeId && !t.revoked

/-- Those that have not expired either: `get_node_by_token` accepts them. -/
def live (db : Database) (nodeId : String) (now : ℤ) : List TokenRecord :=
  (db.unrevoked nodeId).filter fun t => decide (now < t.expiresAt)

/-- The texts of the tokens of a node that are not revoked. -/
def validTokens (db : Database) (nodeId : String) : List String :=
  (db.unrevoked nodeId).map TokenRecord.token

/-- The nodes that have a row. -/
def nodeIds (db : Database) : Set String := {nodeId | ∃ n ∈ db.nodes.rows, n.nodeId = nodeId}

variable {db made : Database} {node n : NodeRecord} {row : TokenRecord} {nodeId token : String}
  {createdAt ttlSecs expiresAt : ℤ}

theorem validTokens_of_unknown (h : nodeId ∉ db.nodeIds) : db.validTokens nodeId = [] := by
  have hnone : db.unrevoked nodeId = [] := by
    refine List.filter_eq_nil_iff.2 fun t ht hvalid => h ?_
    obtain ⟨n, hn, hid⟩ := db.owned t ht
    simp only [Bool.and_eq_true, decide_eq_true_eq] at hvalid
    exact ⟨n, hn, hid.trans hvalid.1⟩
  rw [validTokens, hnone, List.map_nil]

theorem validTokens_revoke :
    (db.revokeAllTokensForNode nodeId).2.validTokens =
      Function.update db.validTokens nodeId [] := by
  funext m
  show ((List.map _ db.tokens.rows).filter _).map _ = _
  rw [List.filter_map, List.map_map]
  by_cases hm : m = nodeId
  · subst hm
    rw [Function.update_self, List.map_eq_nil_iff, List.filter_eq_nil_iff]
    intro t _ hvalid
    rw [Function.comp_apply] at hvalid
    split at hvalid <;> simp_all
  · have hsame : ∀ t ∈ db.tokens.rows, ((fun t : TokenRecord => t.nodeId = m && !t.revoked) ∘
        fun t => if t.nodeId = nodeId && !t.revoked then { t with revoked := true } else t) t =
          (t.nodeId = m && !t.revoked) := by
      intro t _
      simp only [Function.comp_apply]
      split
      · rename_i h
        simp only [Bool.and_eq_true, decide_eq_true_eq] at h
        have hother : t.nodeId ≠ m := fun heq => hm (heq.symm.trans h.1)
        simp [hother]
      · rfl
    rw [Function.update_of_ne hm, List.filter_congr hsame]
    refine List.map_congr_left fun t _ => ?_
    rw [Function.comp_apply]
    split <;> rfl

theorem validTokens_initSchema : db.initSchema.validTokens = db.validTokens := by
  funext m
  show ((List.map _ db.tokens.rows).filter _).map _ = _
  rw [List.filter_map, List.map_map]
  rfl

theorem validTokens_deleteNode :
    (db.deleteNode nodeId).2.validTokens = Function.update db.validTokens nodeId [] := by
  funext m
  show ((db.tokens.rows.filter _).filter _).map _ = _
  rw [List.filter_filter]
  by_cases hm : m = nodeId
  · subst hm
    rw [Function.update_self, List.map_eq_nil_iff, List.filter_eq_nil_iff]
    intro t _ hvalid
    simp only [Bool.and_eq_true, decide_eq_true_eq, Bool.not_eq_true', decide_eq_false_iff_not]
      at hvalid
    exact hvalid.2 hvalid.1.1
  · rw [Function.update_of_ne hm]
    refine congrArg (List.map _) (List.filter_congr fun t _ => ?_)
    by_cases hid : t.nodeId = m
    · simp [hid, hm]
    · simp [hid]

theorem nodeIds_deleteNode : (db.deleteNode nodeId).2.nodeIds = db.nodeIds \ {nodeId} := by
  ext m
  show (∃ n ∈ (db.dropNode nodeId).nodes.rows, n.nodeId = m) ↔ _
  simp only [dropNode, Table.mem_delete, decide_eq_false_iff_not]
  constructor
  · rintro ⟨n, ⟨hn, hid⟩, rfl⟩
    exact ⟨⟨n, hn, rfl⟩, hid⟩
  · rintro ⟨⟨n, hn, rfl⟩, hid⟩
    exact ⟨n, ⟨hn, hid⟩, rfl⟩

theorem nodeIds_updateHeartbeat {endpoint : String} {viaRelay : Option String} {lastSeen : ℤ} :
    (db.updateHeartbeat nodeId endpoint viaRelay lastSeen).nodeIds = db.nodeIds := by
  ext m
  show (∃ n : NodeRecord, n ∈ List.map _ db.nodes.rows ∧ n.nodeId = m) ↔ _
  simp only [List.mem_map, exists_exists_and_eq_and]
  refine exists_congr fun n => and_congr_right fun _ => ?_
  split <;> rfl

theorem addToken_known (hfresh : ∀ t ∈ db.tokens.rows, t.token ≠ row.token)
    (hknown : row.nodeId ∈ db.nodeIds) : ∃ made, db.addToken row = .ok made := by
  unfold addToken
  split
  · split
    · exact ⟨_, rfl⟩
    · rename_i hunknown
      exact absurd hknown hunknown
  · rename_i hstored
    exact absurd hfresh hstored

theorem addToken_unknown (hfresh : ∀ t ∈ db.tokens.rows, t.token ≠ row.token)
    (hunknown : row.nodeId ∉ db.nodeIds) : db.addToken row = .error .foreignKey := by
  unfold addToken
  split
  · split
    · rename_i hknown
      exact absurd hknown hunknown
    · rfl
  · rename_i hstored
    exact absurd hfresh hstored

theorem addToken_stored (hstored : ¬ ∀ t ∈ db.tokens.rows, t.token ≠ row.token) :
    db.addToken row = .error .token := dif_neg hstored

theorem validTokens_addToken (h : db.addToken row = .ok made) (hvalid : row.revoked = false) :
    made.validTokens =
      Function.update db.validTokens row.nodeId (db.validTokens row.nodeId ++ [row.token]) := by
  funext m
  rw [validTokens, unrevoked, (rows_addToken h).2, List.filter_append, List.map_append]
  by_cases hm : m = row.nodeId
  · subst hm
    simp [hvalid, validTokens, unrevoked]
  · have hother : row.nodeId ≠ m := Ne.symm hm
    simp [hm, hother, validTokens, unrevoked]

variable [Profile]

/-- `create_token` for a node that has a row, with a token that is not stored. -/
theorem createToken_known (hvalue : I64.value (createdAt + ttlSecs) = some expiresAt)
    (hfresh : ∀ t ∈ db.tokens.rows, t.token ≠ token) (hknown : nodeId ∈ db.nodeIds) :
    ∃ made, db.createToken nodeId token createdAt ttlSecs = (some (.ok ()), made) ∧
      made.nodes = db.nodes ∧ made.validTokens =
        Function.update db.validTokens nodeId (db.validTokens nodeId ++ [token]) := by
  obtain ⟨made, hadd⟩ : ∃ made, db.addToken ⟨token, nodeId, createdAt, expiresAt, false⟩ = .ok made :=
    addToken_known hfresh hknown
  refine ⟨made, ?_, (rows_addToken hadd).1, validTokens_addToken hadd rfl⟩
  rw [createToken, hvalue]
  simp only [hadd]

/-- `create_token` for a node that has no row. -/
theorem createToken_unknown (hvalue : I64.value (createdAt + ttlSecs) = some expiresAt)
    (hfresh : ∀ t ∈ db.tokens.rows, t.token ≠ token) (hunknown : nodeId ∉ db.nodeIds) :
    db.createToken nodeId token createdAt ttlSecs = (some (.error .foreignKey), db) := by
  have hadd : db.addToken ⟨token, nodeId, createdAt, expiresAt, false⟩ = .error .foreignKey :=
    addToken_unknown hfresh hunknown
  rw [createToken, hvalue]
  simp only [hadd]

/-- `insert_node` changes nothing, or adds the node with one token at most. -/
theorem insertNode_cases (token : String)
    (hvalue : (I64.value (node.createdAt + ttlSecs)).isSome) :
    (∃ e, db.insertNode node token ttlSecs = (some (.error e), db)) ∨
      node.nodeId ∉ db.nodeIds ∧ ∃ result made ks, ks.length ≤ 1 ∧
        db.insertNode node token ttlSecs = (some result, made) ∧
        made.nodeIds = insert node.nodeId db.nodeIds ∧
        made.validTokens = Function.update db.validTokens node.nodeId ks := by
  obtain ⟨expiresAt, hexpiresAt⟩ := Option.isSome_iff_exists.1 hvalue
  cases hadd : db.addNode node.inserted with
  | error e =>
      exact .inl ⟨.nodes (NodeColumn.clashes _ _), by rw [insertNode, hadd, addNode_error hadd]⟩
  | ok added =>
      have hnew : node.nodeId ∉ db.nodeIds := by
        rintro ⟨n, hn, hid⟩
        exact addNode_ok_iff.1 ⟨added, hadd⟩ n hn .nodeId hid
      have hids : added.nodeIds = insert node.nodeId db.nodeIds := by
        ext m
        show (∃ n ∈ added.nodes.rows, n.nodeId = m) ↔ _
        rw [(rows_addNode hadd).1]
        simp only [List.mem_append, List.mem_singleton, or_and_right, exists_or, exists_eq_left,
          Set.mem_insert_iff, or_comm, eq_comm (a := m)]
        rfl
      have hkept : added.validTokens = db.validTokens := by
        funext m
        rw [validTokens, unrevoked, (rows_addNode hadd).2]
        rfl
      have hnone := validTokens_of_unknown hnew
      refine .inr ⟨hnew, ?_⟩
      rw [insertNode, hadd]
      by_cases hfresh : ∀ t ∈ added.tokens.rows, t.token ≠ token
      · have hknown : node.nodeId ∈ added.nodeIds := hids ▸ Set.mem_insert _ _
        obtain ⟨made, hmade, hnodes, hvalid⟩ := createToken_known hexpiresAt hfresh hknown
        refine ⟨.ok (), made, [token], le_rfl, hmade, ?_, ?_⟩
        · rw [nodeIds, hnodes]
          exact hids
        · rw [hvalid, hkept, hnone]
          rfl
      · have hdup : added.addToken ⟨token, node.nodeId, node.createdAt, expiresAt, false⟩ =
            .error .token := addToken_stored hfresh
        refine ⟨.error .token, added, [], Nat.zero_le _, ?_, hids, ?_⟩
        · show added.createToken _ _ _ _ = _
          rw [createToken, hexpiresAt]
          simp only [hdup]
        · rw [hkept, ← hnone, Function.update_eq_self]

end Database

/-! ## Handlers between the revocation and the new token -/

section

variable [CoordCrates]

/-- The node whose tokens a handler has revoked and for which it is about to make a new one. -/
def renews : Handler Response → Option String
  | .call (.createToken nodeId _ _ _) _ => some nodeId
  | _ => none

theorem renews_of_not_running {p : Handler Response} (h : p.isRunning = false) :
    renews p = none := by
  cases p with
  | call => cases h
  | _ => rfl

variable [Profile]

/-- What a handler may call: a token is made for a node only after a revocation of all its tokens,
and then returned, the expiry of the token of a node that is inserted does not overflow, and after
a deletion comes an answer or the release of the address. -/
def Renewing : (op : Op) → (op.Result → Handler Response) → Prop
  | .revokeAllTokensForNode nodeId, next => ∀ r, renews (next r) = some nodeId
  | .createToken _ token createdAt ttlSecs, next =>
      (∀ r, renews (next r) = none) ∧ (∀ e, next (.error e) = .fail (.database e)) ∧
        ∀ expiresAt, I64.value (createdAt + ttlSecs) = some expiresAt →
          next (.ok ()) = .done (.refreshed ⟨token, expiresAt, expiresAt⟩)
  | .deleteNode _, next => ∀ r, renews (next r) = none ∧ next r ≠ .panic
  | .insertNode node _ ttlSecs, next =>
      (I64.value (node.createdAt + ttlSecs)).isSome ∧ ∀ r, renews (next r) = none
  | _, next => ∀ r, renews (next r) = none

/-- A handler that is not about to make a token, and does so only as it may. -/
def Renewable (p : Handler Response) : Prop := renews p = none ∧ p.Always Renewing

variable {ttl : I64} {draws : Draws} {peer : SocketAddr} {authorization : Option String}

theorem renewable_of_finished {p : Handler Response} (h : p.isRunning = false) : Renewable p := by
  cases p with
  | call => cases h
  | _ => exact ⟨rfl, trivial⟩

/-- The operations that make no token, revoke none and delete none. -/
def Op.KeepsTokens : Op → Prop
  | revokeAllTokensForNode _ | insertNode _ _ _ | createToken _ _ _ _ | deleteNode _ => False
  | _ => True

theorem renewable_call {op : Op} {k : op.Result → Handler Response} (hop : op.KeepsTokens)
    (h : ∀ r, Renewable (k r)) : Renewable (op.call >>= k) := by
  have hall : ∀ r, (k r).Always Renewing := fun r => (h r).2
  cases op with
  | revokeAllTokensForNode | insertNode | createToken | deleteNode => exact hop.elim
  | _ => exact ⟨rfl, fun r => (h r).1, hall⟩

theorem renewable_regular : Regular Renewable where
  finished := renewable_of_finished
  call {op _} hop h := by
    cases op with
    | checkRateLimit | currentTimestamp | getNodeByToken => exact renewable_call trivial h
    | _ => exact hop.elim

/-- The second section of a refresh, after which the handler is done. -/
theorem renewable_createToken {nodeId token : String} {createdAt ttlSecs : ℤ}
    {k : Except Violation Unit → Handler Response} (hdone : ∀ r, (k r).isRunning = false)
    (herror : ∀ e, k (.error e) = .fail (.database e))
    (hok : ∀ expiresAt, I64.value (createdAt + ttlSecs) = some expiresAt →
      k (.ok ()) = .done (.refreshed ⟨token, expiresAt, expiresAt⟩)) :
    renews ((Op.createToken nodeId token createdAt ttlSecs).call >>= k) = some nodeId ∧
      ((Op.createToken nodeId token createdAt ttlSecs).call >>= k).Always Renewing :=
  ⟨rfl, ⟨fun r => renews_of_not_running (hdone r), herror, hok⟩,
    fun r => (renewable_of_finished (hdone r)).2⟩

/-- The first section of a refresh, with the second one next. -/
theorem renewable_revoke {nodeId : String} {k : ℕ → Handler Response}
    (h : ∀ r, renews (k r) = some nodeId ∧ (k r).Always Renewing) :
    Renewable ((Op.revokeAllTokensForNode nodeId).call >>= k) :=
  ⟨rfl, fun r => (h r).1, fun r => (h r).2⟩

theorem renewable_deleteNode {nodeId : String} {k : Option String → Handler Response}
    (h : ∀ r, Renewable (k r) ∧ k r ≠ .panic) : Renewable ((Op.deleteNode nodeId).call >>= k) :=
  ⟨rfl, fun r => ⟨(h r).1.1, (h r).2⟩, fun r => (h r).1.2⟩

theorem register_renewable (req : RegisterRequest) : Renewable (register ttl draws peer req) := by
  refine renewable_regular.checkRateLimit fun _ => renewable_regular.lift fun identityPubkey =>
    renewable_regular.lift fun wgPubkey => renewable_regular.lift fun _ =>
    renewable_call trivial fun now => renewable_regular.unwrap fun _ _ =>
    renewable_regular.lift fun _ => renewable_regular.lift fun _ =>
    renewable_call trivial fun allocated => ?_
  cases allocated with
  | none => exact renewable_of_finished rfl
  | some ip =>
      refine renewable_regular.unwrap fun expiresAt hvalue => ?_
      refine ⟨rfl, ⟨Option.isSome_iff_exists.2 ⟨expiresAt, hvalue⟩, ?_⟩, ?_⟩
      · intro r
        cases r <;> rfl
      · intro r
        cases r <;> trivial

theorem refreshToken_renewable (req : SignedRequest) :
    Renewable (refreshToken ttl draws peer authorization req) := by
  refine renewable_regular.checkRateLimit fun _ => renewable_regular.authenticate fun now caller =>
    renewable_regular.decodeSigned fun x => renewable_regular.lift fun _ => ?_
  refine renewable_revoke fun _ => renewable_createToken (fun r => ?_) (fun _ => rfl)
    fun expiresAt hvalue => ?_
  · cases r with
    | error e => rfl
    | ok =>
        show Program.isRunning (Program.unwrap (I64.value (now.val + ttl.val)) >>= _) = false
        cases I64.value (now.val + ttl.val) <;> rfl
  · simp [hvalue]

/-- Every handler makes a token for a node only after it has revoked the others. -/
theorem handler_renewable (request : Request) : Renewable (request.handler ttl draws) := by
  cases request with
  | register peer req => exact register_renewable req
  | peers peer authorization =>
      exact renewable_regular.checkRateLimit fun _ => renewable_regular.authenticate fun _ _ =>
        renewable_call trivial fun _ => renewable_of_finished rfl
  | heartbeat peer authorization req =>
      refine renewable_regular.checkRateLimit fun _ => renewable_regular.authenticate fun now caller =>
        renewable_regular.decodeSigned fun x => renewable_regular.lift fun _ => ?_
      split
      · exact renewable_of_finished rfl
      · exact renewable_call trivial fun _ => renewable_of_finished rfl
  | refreshToken peer authorization req => exact refreshToken_renewable req
  | deleteNode peer authorization req =>
      refine renewable_regular.checkRateLimit fun _ => renewable_regular.authenticate fun now caller =>
        renewable_regular.decodeSigned fun x => renewable_regular.lift fun _ =>
        renewable_deleteNode fun ip => ?_
      split
      · exact ⟨renewable_of_finished rfl, fun h => by cases h⟩
      · exact ⟨renewable_call trivial fun _ => renewable_of_finished rfl, fun h => by cases h⟩

/-! ## The server, watched -/

/-- The last token that a refresh of each node has returned, once a handler goes on from an
operation: a refresh is done with the section that makes its token, and a node that is deleted has
none any more. -/
def note (refreshed : String → Option String) : Op → Handler Response → String → Option String
  | .createToken nodeId _ _ _, .done (.refreshed response) =>
      Function.update refreshed nodeId (some response.authToken)
  | .deleteNode _, .panic => refreshed
  | .deleteNode nodeId, _ => Function.update refreshed nodeId none
  | _, _ => refreshed

/-- A server, and the token that the last refresh of each node has returned. -/
structure Watched where
  server : Server
  refreshed : String → Option String

omit [Profile] in
theorem note_deleteNode {refreshed : String → Option String} {nodeId : String}
    {p : Handler Response} (h : p ≠ .panic) :
    note refreshed (.deleteNode nodeId) p = Function.update refreshed nodeId none := by
  cases p with
  | panic => exact absurd rfl h
  | _ => rfl

namespace Watched

/-- The handler at an index. -/
abbrev task (w : Watched) (i : ℕ) : Handler Response := w.server.task i

/-- The database. -/
abbrev db (w : Watched) : Database := w.server.coord.db

/-- A step of the server. -/
def step (w : Watched) (event : Event) : Option Watched :=
  (w.server.step event).map fun t => {
    server := t
    refreshed :=
      match event with
      | .advance i =>
          match w.task i with
          | .call op _ => note w.refreshed op (t.task i)
          | _ => w.refreshed
      | _ => w.refreshed }

/-- No refresh revokes between the two sections of another one for the same node. A token that is
drawn is not one that is stored, its expiry does not overflow, a node id that is drawn is not that
of a refresh in progress, and no restart comes between the two sections. -/
def Orderly (w : Watched) : Event → Prop
  | .advance i =>
      match w.task i with
      | .call (.revokeAllTokensForNode nodeId) _ => ∀ j, renews (w.task j) ≠ some nodeId
      | .call (.createToken _ token createdAt ttlSecs) _ =>
          (∀ t ∈ w.db.tokens.rows, t.token ≠ token) ∧ (I64.value (createdAt + ttlSecs)).isSome
      | .call (.insertNode node _ _) _ => ∀ j, renews (w.task j) ≠ some node.nodeId
      | _ => True
  | .restart _ => ∀ j, renews (w.task j) = none
  | _ => True

/-- No handler is in flight. -/
def Idle (w : Watched) : Prop := ∀ i, (w.task i).isRunning = false

/-- Each node has at most one token that is neither revoked nor expired, and the one that the last
refresh of a node returned is not revoked, and is that token unless it has expired. -/
def OneLiveToken (w : Watched) : Prop :=
  ∀ nodeId, (w.db.live nodeId w.server.coord.clock.val).length ≤ 1 ∧
    ∀ token, w.refreshed nodeId = some token →
      (∃ t ∈ w.db.unrevoked nodeId, t.token = token) ∧
        ∀ t ∈ w.db.live nodeId w.server.coord.clock.val, t.token = token

/-- The renewals of a server. -/
def renewal (w : Watched) : Renewal String String ℕ where
  valid := w.db.validTokens
  known := w.db.nodeIds
  renewing := renews ∘ w.server.pool.tasks
  last := w.refreshed

/-- The invariant of orderly runs. -/
structure Kept (w : Watched) : Prop where
  shape : ∀ i, (w.task i).Always Renewing
  sound : w.server.coord.poisoned = false
  exclusive : w.renewal.Exclusive

variable {w w' : Watched} {event : Event} {events : List Event} {i : ℕ} {op : Op}
  {next : op.Result → Handler Response}

/-- The program that a handler goes on with after its operation. -/
def resume (w : Watched) (op : Op) (next : op.Result → Handler Response) : Handler Response :=
  (Coordinator.handle op w.server.coord).1.elim .panic next

theorem step_advance (htask : w.task i = .call op next) (hstep : w.step (.advance i) = some w') :
    w'.server.coord = (Coordinator.handle op w.server.coord).2 ∧
      w'.server.pool.tasks = Function.update w.server.pool.tasks i (w.resume op next) ∧
      w'.refreshed = note w.refreshed op (w.resume op next) := by
  obtain ⟨t, ht, rfl⟩ := Option.map_eq_some_iff.1 hstep
  have hadvance : w.server.pool.advance Coordinator.handle i = _ := Pool.advance_call htask
  cases ht
  refine ⟨congrArg Pool.shared hadvance, congrArg Pool.tasks hadvance, ?_⟩
  have htask' : (w.server.pool.advance Coordinator.handle i).tasks i = w.resume op next :=
    (congrFun (congrArg Pool.tasks hadvance) i).trans (Function.update_self ..)
  show (match w.task i with
    | .call op _ => note w.refreshed op ((w.server.pool.advance Coordinator.handle i).tasks i)
    | _ => w.refreshed) = _
  rw [htask, htask']

/-- The renewals after a handler has gone on. -/
theorem renewal_advance (htask : w.task i = .call op next)
    (hstep : w.step (.advance i) = some w') :
    w'.renewal = {
      valid := (Coordinator.handle op w.server.coord).2.db.validTokens
      known := (Coordinator.handle op w.server.coord).2.db.nodeIds
      renewing := Function.update w.renewal.renewing i (renews (w.resume op next))
      last := note w.refreshed op (w.resume op next) } := by
  obtain ⟨hcoord, htasks, hrefreshed⟩ := step_advance htask hstep
  rw [renewal, db, hcoord, htasks, hrefreshed, Function.comp_update]
  rfl

/-- The renewals after an operation that has a result. -/
theorem renewal_of_handle {r : op.Result} {coord : Coordinator} (htask : w.task i = .call op next)
    (hstep : w.step (.advance i) = some w')
    (hhandle : Coordinator.handle op w.server.coord = (some r, coord)) :
    w'.server.coord = coord ∧ w'.renewal = {
      valid := coord.db.validTokens
      known := coord.db.nodeIds
      renewing := Function.update w.renewal.renewing i (renews (next r))
      last := note w.refreshed op (next r) } := by
  have hresume : w.resume op next = next r := by rw [resume, hhandle, Option.elim_some]
  have hrenewal := renewal_advance htask hstep
  rw [hresume, hhandle] at hrenewal
  exact ⟨(step_advance htask hstep).1.trans (congrArg Prod.snd hhandle), hrenewal⟩

/-- What runs under the lock and returns leaves the lock sound. -/
theorem Kept.handled (h : w.Kept) (op : Op) {r : op.Result} {db : Database}
    (f : Database → Option op.Result × Database)
    (hop : Coordinator.handle op w.server.coord = w.server.coord.locked f)
    (hf : f w.db = (some r, db)) :
    Coordinator.handle op w.server.coord =
      (some r, { w.server.coord with db, poisoned := false }) :=
  hop.trans (Coordinator.locked_some h.sound hf)

/-- A handler that goes on from an operation on neither tokens nor nodes moves nothing. -/
theorem move_of_unmoved {r : op.Result} {coord : Coordinator} (htask : w.task i = .call op next)
    (hstep : w.step (.advance i) = some w')
    (hhandle : Coordinator.handle op w.server.coord = (some r, coord))
    (hrenews : renews (.call op next) = none) (hnext : renews (next r) = none)
    (hvalid : coord.db.validTokens = w.db.validTokens) (hknown : coord.db.nodeIds = w.db.nodeIds)
    (hnote : note w.refreshed op (next r) = w.refreshed) (hsound : coord.poisoned = false) :
    w.renewal.Move w'.renewal ∧ w'.server.coord.poisoned = false := by
  obtain ⟨hcoord, hrenewal⟩ := renewal_of_handle htask hstep hhandle
  have hidle : w.renewal.renewing i = none := (congrArg renews htask).trans hrenews
  rw [hrenewal, hcoord, hvalid, hknown, hnote, hnext, ← hidle, Function.update_eq_self]
  exact ⟨.stay, hsound⟩

/-- A handler that goes on makes a move of its renewal. -/
theorem Kept.move (h : w.Kept) (hgood : w.Orderly (.advance i)) (htask : w.task i = .call op next)
    (hstep : w.step (.advance i) = some w') :
    w.renewal.Move w'.renewal ∧ w'.server.coord.poisoned = false := by
  have hshape : Renewing op next := by
    have hall : (Program.call op next).Always Renewing := htask ▸ h.shape i
    exact hall.1
  cases op with
  | checkRateLimit | currentTimestamp | allocate | release =>
      exact move_of_unmoved htask hstep rfl rfl (hshape _) rfl rfl rfl h.sound
  | getNodeByToken token now =>
      have hhandle := h.handled (.getNodeByToken token now)
        (fun db => (some (db.getNodeByToken token now), db)) rfl rfl
      exact move_of_unmoved htask hstep hhandle rfl (hshape _) rfl rfl rfl rfl
  | listPeers excludeNodeId =>
      have hhandle := h.handled (.listPeers excludeNodeId)
        (fun db => (some (db.listPeers excludeNodeId), db)) rfl rfl
      exact move_of_unmoved htask hstep hhandle rfl (hshape _) rfl rfl rfl rfl
  | updateHeartbeat nodeId endpoint viaRelay lastSeen =>
      have hhandle := h.handled (.updateHeartbeat nodeId endpoint viaRelay lastSeen)
        (fun db => (some (), db.updateHeartbeat nodeId endpoint viaRelay lastSeen)) rfl rfl
      exact move_of_unmoved htask hstep hhandle rfl (hshape _) rfl Database.nodeIds_updateHeartbeat
        rfl rfl
  | insertNode node token ttlSecs =>
      have hfree : ∀ j, renews (w.task j) ≠ some node.nodeId := by
        simpa only [Orderly, htask] using hgood
      -- The node enters with the tokens of its row, or nothing is stored.
      obtain ⟨e, hinsert⟩ | ⟨hnew, result, made, ks, hks, hinsert, hids, hvalid⟩ :=
        w.db.insertNode_cases token hshape.1
      · have hhandle := h.handled (.insertNode node token ttlSecs)
          (fun db => db.insertNode node token ttlSecs) rfl hinsert
        exact move_of_unmoved htask hstep hhandle rfl (hshape.2 _) rfl rfl rfl rfl
      · have hhandle := h.handled (.insertNode node token ttlSecs)
          (fun db => db.insertNode node token ttlSecs) rfl hinsert
        obtain ⟨hcoord, hrenewal⟩ := renewal_of_handle htask hstep hhandle
        have hidle : w.renewal.renewing i = none := congrArg renews htask
        rw [hrenewal, hcoord, hshape.2, ← hidle, Function.update_eq_self, hids, hvalid]
        exact ⟨.enter node.nodeId ks hnew hfree hks, rfl⟩
  | revokeAllTokensForNode nodeId =>
      have hfree : ∀ j, renews (w.task j) ≠ some nodeId := by
        simpa only [Orderly, htask] using hgood
      have hhandle := h.handled (.revokeAllTokensForNode nodeId)
        (fun db => (db.revokeAllTokensForNode nodeId).map some id) rfl rfl
      obtain ⟨hcoord, hrenewal⟩ := renewal_of_handle htask hstep hhandle
      have hidle : w.renewal.renewing i = none := congrArg renews htask
      rw [hrenewal, hcoord, hshape]
      refine ⟨?_, rfl⟩
      -- From here on the handler owes the node a token.
      show w.renewal.Move ⟨(w.db.revokeAllTokensForNode nodeId).2.validTokens, _, _, _⟩
      rw [Database.validTokens_revoke]
      exact .withdraw i nodeId hidle hfree
  | createToken nodeId token createdAt ttlSecs =>
      obtain ⟨hfresh, hsome⟩ : (∀ t ∈ w.db.tokens.rows, t.token ≠ token) ∧
          (I64.value (createdAt + ttlSecs)).isSome := by
        simpa only [Orderly, htask] using hgood
      obtain ⟨expiresAt, hvalue⟩ := Option.isSome_iff_exists.1 hsome
      have hrenewing : w.renewal.renewing i = some nodeId := congrArg renews htask
      by_cases hknown : nodeId ∈ w.db.nodeIds
      · obtain ⟨made, hcreate, hnodes, hvalid⟩ :=
          Database.createToken_known hvalue hfresh hknown
        have hhandle := h.handled (.createToken nodeId token createdAt ttlSecs)
          (fun db => db.createToken nodeId token createdAt ttlSecs) rfl hcreate
        obtain ⟨hcoord, hrenewal⟩ := renewal_of_handle htask hstep hhandle
        rw [hrenewal, hcoord, hshape.1, hshape.2.2 expiresAt hvalue, Database.nodeIds, hnodes, hvalid]
        exact ⟨.issue i nodeId token hrenewing hknown, rfl⟩
      · -- The node has been deleted meanwhile: the insertion fails, and the handler with it.
        have hcreate := Database.createToken_unknown hvalue hfresh hknown
        have hhandle := h.handled (.createToken nodeId token createdAt ttlSecs)
          (fun db => db.createToken nodeId token createdAt ttlSecs) rfl hcreate
        obtain ⟨hcoord, hrenewal⟩ := renewal_of_handle htask hstep hhandle
        rw [hrenewal, hcoord, hshape.1, hshape.2.1]
        exact ⟨.giveUp i nodeId hrenewing hknown, rfl⟩
  | deleteNode nodeId =>
      have hhandle := h.handled (.deleteNode nodeId)
        (fun db => (db.deleteNode nodeId).map some id) rfl rfl
      obtain ⟨hcoord, hrenewal⟩ := renewal_of_handle htask hstep hhandle
      have hidle : Function.update w.renewal.renewing i none = w.renewal.renewing :=
        Function.update_eq_self_iff.2 (congrArg renews htask).symm
      obtain ⟨hnext, hanswer⟩ := hshape (w.db.deleteNode nodeId).1
      have hnote : note w.refreshed (.deleteNode nodeId) (next (w.db.deleteNode nodeId).1) =
          Function.update w.refreshed nodeId none := note_deleteNode hanswer
      rw [hrenewal, hcoord]
      show w.renewal.Move ⟨(w.db.deleteNode nodeId).2.validTokens,
        (w.db.deleteNode nodeId).2.nodeIds, Function.update w.renewal.renewing i
          (renews (next (w.db.deleteNode nodeId).1)), note w.refreshed (.deleteNode nodeId)
            (next (w.db.deleteNode nodeId).1)⟩ ∧ _
      rw [hnext, hnote, hidle, Database.validTokens_deleteNode,
        Database.nodeIds_deleteNode]
      exact ⟨.remove nodeId, rfl⟩

/-- A handler that has nothing to call does nothing. -/
theorem step_idle (hidle : (w.task i).isRunning = false) : w.step (.advance i) = some w := by
  have hserver : w.server.step (.advance i) = some w.server := by
    rw [Server.step, Pool.advance_idle hidle]
  rw [step, hserver, Option.map_some]
  cases htask : w.task i with
  | call =>
      have hrunning : (w.task i).isRunning = true := congrArg Program.isRunning htask
      cases hrunning.symm.trans hidle
  | _ => simp only [htask]

/-- Every step keeps the handlers in shape. -/
theorem shape_step (h : ∀ i, (w.task i).Always Renewing) (hstep : w.step event = some w') (i : ℕ) :
    (w'.task i).Always Renewing := by
  obtain ⟨t, ht, rfl⟩ := Option.map_eq_some_iff.1 hstep
  cases event with
  | spawn j request draws =>
      rw [Server.step] at ht
      split at ht
      · cases ht
      · cases ht
        by_cases hi : i = j
        · subst hi
          simpa [task, Server.task, Server.spawn, Pool.assign] using (handler_renewable request).2
        · simpa [task, Server.task, Server.spawn, Pool.assign, hi] using h i
  | advance j =>
      cases ht
      by_cases hi : i = j
      · subst hi
        have hnext : ((w.task i).step Coordinator.handle w.server.coord).1.Always _ :=
          (h i).step w.server.coord
        simpa [task, Server.task, Pool.advance] using hnext
      · simpa [task, Server.task, Pool.advance, hi] using h i
  | tick clock instant =>
      cases ht
      exact h i
  | restart ttl =>
      cases ht
      trivial

theorem Kept.step (h : w.Kept) (hgood : w.Orderly event) (hstep : w.step event = some w') :
    w'.Kept := by
  have hshape := shape_step h.shape hstep
  cases event with
  | advance i =>
      cases htask : w.task i with
      | call op next =>
          obtain ⟨hmove, hsound⟩ := h.move hgood htask hstep
          exact ⟨hshape, hsound, h.exclusive.move hmove⟩
      | _ =>
          have hsame := step_idle (congrArg Program.isRunning htask)
          exact Option.some.inj (hsame.symm.trans hstep) ▸ h
  | spawn i request draws =>
      obtain ⟨t, ht, rfl⟩ := Option.map_eq_some_iff.1 hstep
      rw [Server.step] at ht
      split at ht
      · cases ht
      · rename_i hidle
        cases ht
        -- Neither the handler that ends here nor the new one is between its two sections.
        have hrenewing : renews ∘ Function.update w.server.pool.tasks i
            (request.handler w.server.coord.tokenTtlSecs draws) = w.renewal.renewing := by
          rw [Function.comp_update, (handler_renewable request).1]
          have hnone : renews (w.task i) = none := renews_of_not_running (Bool.eq_false_iff.2 hidle)
          exact Function.update_eq_self_iff.2 hnone.symm
        have hrenewal : renewal ⟨w.server.spawn i request draws, w.refreshed⟩ = w.renewal :=
          congrArg (fun renewing => { w.renewal with renewing }) hrenewing
        exact ⟨hshape, h.sound, hrenewal ▸ h.exclusive⟩
  | tick clock instant =>
      cases hstep
      exact ⟨hshape, h.sound, h.exclusive⟩
  | restart ttl =>
      cases hstep
      have hrenewing : w.renewal.renewing = fun _ => none := funext hgood
      refine ⟨hshape, rfl, ?_⟩
      show Renewal.Exclusive ⟨w.db.initSchema.validTokens, w.db.nodeIds, fun _ => none, w.refreshed⟩
      rw [Database.validTokens_initSchema, ← hrenewing]
      exact h.exclusive

/-- A server that starts on an empty database. -/
def start (ttl : I64) (clock : Clock) (instant : Instant) : Watched :=
  ⟨.start ttl clock instant, fun _ => none⟩

theorem start_kept (ttl : I64) (clock : Clock) (instant : Instant) :
    (start ttl clock instant).Kept where
  shape _ := trivial
  sound := rfl
  exclusive := {
    one := fun _ => Nat.zero_le _
    alone := fun _ _ _ h => nomatch h
    withdrawn := fun _ _ _ => rfl
    known := fun _ _ h => nomatch h
    current := fun _ _ h => nomatch h }

theorem Kept.oneLiveToken (h : w.Kept) (hidle : w.Idle) : w.OneLiveToken := by
  intro nodeId
  have hone : (w.db.unrevoked nodeId).length ≤ 1 := by
    have hvalid : (w.db.validTokens nodeId).length ≤ 1 := h.exclusive.one nodeId
    rwa [Database.validTokens, List.length_map] at hvalid
  refine ⟨(List.length_filter_le _ _).trans hone, fun token htoken => ?_⟩
  have hcurrent : w.db.validTokens nodeId = [token] := by
    refine h.exclusive.current nodeId token htoken fun i hi => ?_
    have hnone : renews (w.task i) = none := renews_of_not_running (hidle i)
    exact nomatch hnone.symm.trans hi
  refine ⟨?_, fun t ht => ?_⟩
  · have hmem : token ∈ w.db.validTokens nodeId := hcurrent ▸ List.mem_singleton_self token
    obtain ⟨t, ht, heq⟩ := List.mem_map.1 hmem
    exact ⟨t, ht, heq⟩
  · have hmem : t.token ∈ w.db.validTokens nodeId := List.mem_map_of_mem (List.mem_filter.1 ht).1
    exact List.mem_singleton.1 (hcurrent ▸ hmem)

/-- In every orderly run each node has at most one token that is neither revoked nor expired, and
in every state without a handler in flight it is the one that the last refresh returned. -/
theorem one_live_token {ttl : I64} {clock : Clock} {instant : Instant}
    (horderly : Transition.AllSteps step Orderly (start ttl clock instant) events)
    (hrun : Transition.exec step (start ttl clock instant) events = some w) (hidle : w.Idle) :
    w.OneLiveToken := by
  have hkept : w.Kept := Transition.invariant (fun _ _ _ hkept hgood hstep => hkept.step hgood hstep)
    (start_kept ttl clock instant) horderly hrun
  exact hkept.oneLiveToken hidle

/-! ## Runs of few handlers -/

/-- No handler is in flight from an index on. -/
def IdleFrom (w : Watched) (n : ℕ) : Prop := ∀ j, n ≤ j → (w.task j).isRunning = false

/-- Only the first handlers are started. -/
def startsBelow (n : ℕ) : Event → Bool
  | .spawn i _ _ => decide (i < n)
  | _ => true

/-- A check of `Orderly` among the first handlers. -/
def orderlyBelow (n : ℕ) (w : Watched) : Event → Bool
  | .advance i =>
      match w.task i with
      | .call (.revokeAllTokensForNode nodeId) _ =>
          decide (∀ j < n, renews (w.task j) ≠ some nodeId)
      | .call (.createToken _ token createdAt ttlSecs) _ =>
          decide (∀ t ∈ w.db.tokens.rows, t.token ≠ token) &&
            (I64.value (createdAt + ttlSecs)).isSome
      | .call (.insertNode node _ _) _ => decide (∀ j < n, renews (w.task j) ≠ some node.nodeId)
      | _ => true
  | .restart _ => decide (∀ j < n, renews (w.task j) = none)
  | _ => true

theorem IdleFrom.step {n : ℕ} (h : w.IdleFrom n) (hstart : startsBelow n event = true)
    (hstep : Watched.step w event = some w') : w'.IdleFrom n := by
  obtain ⟨t, ht, rfl⟩ := Option.map_eq_some_iff.1 hstep
  intro j hj
  by_contra hrunning
  obtain ⟨hbefore, -⟩ | ⟨request, draws, rfl, -⟩ :=
    Server.running_of_step ht (Bool.not_eq_false _ ▸ hrunning)
  · exact Bool.false_ne_true ((h j hj).symm.trans hbefore)
  · have hlt : j < n := of_decide_eq_true hstart
    omega

theorem IdleFrom.orderly {n : ℕ} (h : w.IdleFrom n) (hcheck : w.orderlyBelow n event = true) :
    w.Orderly event := by
  have hall {nodeId : String} (hbelow : ∀ j < n, renews (w.task j) ≠ some nodeId) (j : ℕ) :
      renews (w.task j) ≠ some nodeId := by
    by_cases hj : j < n
    · exact hbelow j hj
    · rw [renews_of_not_running (h j (by omega))]
      exact nofun
  cases event with
  | spawn | tick => trivial
  | advance i =>
      cases htask : w.task i with
      | call op next =>
          simp only [orderlyBelow, Orderly, htask] at hcheck ⊢
          cases op with
          | revokeAllTokensForNode | insertNode => exact hall (of_decide_eq_true hcheck)
          | createToken => rwa [Bool.and_eq_true, decide_eq_true_eq] at hcheck
          | _ => trivial
      | _ => simp only [Orderly, htask]
  | restart ttl =>
      intro j
      by_cases hj : j < n
      · exact of_decide_eq_true hcheck j hj
      · exact renews_of_not_running (h j (by omega))

theorem IdleFrom.run {n : ℕ} (h : w.IdleFrom n) (hstarts : ∀ event ∈ events, startsBelow n event = true)
    (hrun : Transition.exec Watched.step w events = some w') : w'.IdleFrom n := by
  induction events generalizing w with
  | nil => exact Option.some.inj hrun ▸ h
  | cons event events ih =>
      obtain ⟨t, ht, hrest⟩ := Transition.exec_cons_inv hrun
      rw [List.forall_mem_cons] at hstarts
      exact ih (h.step hstarts.1 ht) hstarts.2 hrest

/-- A run of the first handlers that passes the check is orderly. -/
theorem IdleFrom.allSteps {n : ℕ} (h : w.IdleFrom n)
    (hstarts : ∀ event ∈ events, startsBelow n event = true)
    (hcheck : Transition.AllSteps Watched.step (fun w event => w.orderlyBelow n event = true) w
      events) :
    Transition.AllSteps Watched.step Orderly w events := by
  induction events generalizing w with
  | nil => trivial
  | cons event events ih =>
      rw [List.forall_mem_cons] at hstarts
      refine ⟨h.orderly hcheck.1, fun t ht => ?_⟩
      exact ih (h.step hstarts.1 ht) hstarts.2 (hcheck.2 t ht)

end Watched

end

/-! ## Two refreshes of one node -/

namespace Parties

attribute [local instance] crates Symbolic.release

/-- A server on an empty database at the time 1000. -/
def watched : Watched := .start (seconds 100) (moment 1000) 0

/-- Whether the first three handlers have come to their end. -/
def idleBelow (w : Watched) : Bool := (List.range 3).all fun j => !(w.task j).isRunning

/-- A run of the first three handlers that leaves none of them in flight leaves none at all. -/
theorem idle_of_check {events : List Event} {w : Watched}
    (hstarts : ∀ event ∈ events, Watched.startsBelow 3 event = true)
    (hrun : Transition.exec Watched.step watched events = some w) (h : idleBelow w = true) :
    w.Idle := by
  have hstart : watched.IdleFrom 3 := fun _ _ => rfl
  have hbeyond : w.IdleFrom 3 := hstart.run hstarts hrun
  intro j
  by_cases hj : j < 3
  · simpa using List.all_eq_true.1 h j (List.mem_range.2 hj)
  · exact hbeyond j (by omega)

/-- A registration and a refresh, one after the other. -/
def refreshes : List Event := registration ++ refresh

/-- A refreshed node has one live token. -/
theorem refreshed_once : ∃ w, Transition.exec Watched.step watched refreshes = some w ∧
    w.refreshed "node" = some (draws "" 8).authToken ∧ w.OneLiveToken := by
  have hcheck : (Transition.exec Watched.step watched refreshes).any (fun w =>
      decide (Transition.AllSteps Watched.step (fun w event => w.orderlyBelow 3 event = true) watched
        refreshes) &&
      idleBelow w && decide (w.refreshed "node" = some (draws "" 8).authToken)) = true := by
    decide +kernel
  simp only [Option.any_eq_true, Bool.and_eq_true, decide_eq_true_eq] at hcheck
  obtain ⟨w, hrun, ⟨hsteps, hidle⟩, hrefreshed⟩ := hcheck
  have hstarts : ∀ event ∈ refreshes, Watched.startsBelow 3 event = true := by decide
  have hstart : watched.IdleFrom 3 := fun _ _ => rfl
  exact ⟨w, hrun, hrefreshed, Watched.one_live_token (hstart.allSteps hstarts hsteps) hrun
    (idle_of_check hstarts hrun hidle)⟩

/-- Two refreshes of the first token: each authenticates before the other one revokes, and each
revokes before the other one creates. -/
def crossingRefreshes : List Event :=
  registration ++
    .spawn 1 (refreshBy 1 (key 1) firstToken (seconds 1000)) (draws "" 8) ::
    .spawn 2 (refreshBy 1 (key 1) firstToken (seconds 1000)) (draws "" 9) ::
    (advances 1 3 ++ advances 2 4 ++ advances 1 2 ++ advances 2 1)

/-- Two refreshes that cross leave two live tokens. -/
theorem crossing_refreshes : ∃ w, Transition.exec Watched.step watched crossingRefreshes = some w ∧
    w.Idle ∧ ¬ w.OneLiveToken := by
  have hcheck : (Transition.exec Watched.step watched crossingRefreshes).any (fun w =>
      idleBelow w && decide ((w.db.live "node" w.server.coord.clock.val).length = 2)) = true := by
    decide +kernel
  simp only [Option.any_eq_true, Bool.and_eq_true, decide_eq_true_eq] at hcheck
  obtain ⟨w, hrun, hidle, htwo⟩ := hcheck
  have hstarts : ∀ event ∈ crossingRefreshes, Watched.startsBelow 3 event = true := by decide
  refine ⟨w, hrun, idle_of_check hstarts hrun hidle, fun h => ?_⟩
  have hone := (h "node").1
  omega

end Parties

end Naboscale.Coord
