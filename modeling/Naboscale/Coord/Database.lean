import Naboscale.Rust.Bytes
import Naboscale.Table

/-!
# The database of the coordinator

The tables `nodes` and `tokens` of the SQLite database with their constraints, and the functions
of `db.rs` over them. A statement takes effect or violates a constraint; the bundled SQLite
enforces the foreign key of `tokens`. An addition that overflows panics between two statements
and leaves what the first one did.
-/

namespace Naboscale.Coord

open Rust

/-! ## Tables -/

/-- `NodeRecord`: a row of `nodes`. -/
structure NodeRecord where
  nodeId : String
  identityPubkey : Bytes
  wgPubkey : Bytes
  ip : String
  lastEndpoint : Option String
  viaRelay : Option String
  lastSeen : Option ℤ
  createdAt : ℤ
  deriving DecidableEq

/-- `TokenRecord`: a row of `tokens`. -/
structure TokenRecord where
  token : String
  nodeId : String
  createdAt : ℤ
  expiresAt : ℤ
  revoked : Bool
  deriving DecidableEq

/-- The unique columns of `nodes`. -/
inductive NodeColumn where
  | nodeId
  | identityPubkey
  | wgPubkey
  | ip
  deriving DecidableEq

namespace NodeColumn

/-- Two rows have the same value in the column. -/
def Clash (r s : NodeRecord) : NodeColumn → Prop
  | nodeId => r.nodeId = s.nodeId
  | identityPubkey => r.identityPubkey = s.identityPubkey
  | wgPubkey => r.wgPubkey = s.wgPubkey
  | ip => r.ip = s.ip

instance (r s : NodeRecord) : (column : NodeColumn) → Decidable (column.Clash r s)
  | nodeId => inferInstanceAs (Decidable (_ = _))
  | identityPubkey => inferInstanceAs (Decidable (_ = _))
  | wgPubkey => inferInstanceAs (Decidable (_ = _))
  | ip => inferInstanceAs (Decidable (_ = _))

theorem Clash.symm {column : NodeColumn} {r s : NodeRecord} (h : column.Clash r s) :
    column.Clash s r := by
  cases column <;> exact Eq.symm h

/-- The columns in which a row clashes with one of the others. -/
def clashes (rows : List NodeRecord) (row : NodeRecord) : List NodeColumn :=
  [nodeId, identityPubkey, wgPubkey, ip].filter fun column =>
    rows.any fun r => decide (column.Clash r row)

theorem mem_clashes {rows : List NodeRecord} {row : NodeRecord} {column : NodeColumn} :
    column ∈ clashes rows row ↔ ∃ r ∈ rows, column.Clash r row := by
  have hall : column ∈ [nodeId, identityPubkey, wgPubkey, ip] := by cases column <;> simp
  rw [clashes, List.mem_filter, and_iff_right hall, List.any_eq_true]
  simp only [decide_eq_true_eq]

end NodeColumn

/-- The row that `insert_node` writes: `last_endpoint` and `last_seen` are left NULL. -/
def NodeRecord.inserted (node : NodeRecord) : NodeRecord :=
  { node with lastEndpoint := none, lastSeen := none }

/-- Two rows of `nodes` have no value of a unique column in common. -/
def NodeRecord.Apart (r s : NodeRecord) : Prop := ∀ column : NodeColumn, ¬ column.Clash r s

/-- Two rows of `tokens` have different tokens. -/
def TokenRecord.Apart (r s : TokenRecord) : Prop := r.token ≠ s.token

instance : Std.Symm NodeRecord.Apart := ⟨fun _ _ h column hclash => h column hclash.symm⟩

instance : Std.Symm TokenRecord.Apart := ⟨fun _ _ h => Ne.symm h⟩

theorem apart_of_clashes_nil {rows : List NodeRecord} {row : NodeRecord}
    (h : NodeColumn.clashes rows row = []) : ∀ r ∈ rows, r.Apart row := by
  intro r hr column hclash
  have hmem := NodeColumn.mem_clashes.2 ⟨r, hr, hclash⟩
  rw [h] at hmem
  cases hmem

/-- `Connection`: the two tables; every token belongs to a node. -/
structure Database where
  nodes : Table NodeRecord.Apart
  tokens : Table TokenRecord.Apart
  owned : ∀ t ∈ tokens.rows, ∃ n ∈ nodes.rows, n.nodeId = t.nodeId

/-- `rusqlite::Error` of a statement: the constraint it violates. Where a row clashes in several
columns, SQLite reports one of them. -/
inductive Violation where
  | nodes (columns : List NodeColumn)
  | token
  | foreignKey
  deriving DecidableEq

namespace Database

/-! ## Statements -/

/-- The tables as they are created. -/
def empty : Database := ⟨.empty, .empty, fun _ h => nomatch h⟩

/-- `INSERT INTO nodes`. -/
def addNode (db : Database) (row : NodeRecord) : Except Violation Database :=
  if h : NodeColumn.clashes db.nodes.rows row = [] then
    .ok {
      nodes := db.nodes.insert row (apart_of_clashes_nil h)
      tokens := db.tokens
      owned := fun t ht =>
        let ⟨n, hn, hid⟩ := db.owned t ht
        ⟨n, (Table.mem_insert _).2 (.inl hn), hid⟩ }
  else .error (.nodes (NodeColumn.clashes db.nodes.rows row))

/-- `INSERT INTO tokens`. -/
def addToken (db : Database) (row : TokenRecord) : Except Violation Database :=
  if h : ∀ t ∈ db.tokens.rows, t.token ≠ row.token then
    if howned : ∃ n ∈ db.nodes.rows, n.nodeId = row.nodeId then
      .ok { db with
        tokens := db.tokens.insert row h
        owned := fun t ht => ((Table.mem_insert _).1 ht).elim (db.owned t) (fun heq => heq ▸ howned) }
    else .error .foreignKey
  else .error .token

/-- `UPDATE nodes SET` columns that are not unique. -/
def updateNodes (db : Database) (f : NodeRecord → NodeRecord)
    (h : ∀ column r s, NodeColumn.Clash (f r) (f s) column → NodeColumn.Clash r s column)
    (hid : ∀ r, (f r).nodeId = r.nodeId) : Database where
  nodes := db.nodes.update f fun r s hrs column hclash => hrs column (h column r s hclash)
  tokens := db.tokens
  owned := fun t ht =>
    let ⟨n, hn, hn'⟩ := db.owned t ht
    ⟨f n, List.mem_map_of_mem hn, (hid n).trans hn'⟩

/-- `UPDATE tokens SET` columns other than the token and its node. -/
def updateTokens (db : Database) (f : TokenRecord → TokenRecord)
    (h : ∀ t, (f t).token = t.token ∧ (f t).nodeId = t.nodeId) : Database where
  nodes := db.nodes
  tokens := db.tokens.update f fun r s hrs heq => hrs ((h r).1.symm.trans (heq.trans (h s).1))
  owned := by
    intro t ht
    obtain ⟨r, hr, rfl⟩ := List.mem_map.1 ht
    rw [(h r).2]
    exact db.owned r hr

/-- `DELETE FROM tokens` and `DELETE FROM nodes` where `node_id` is the given one. -/
def dropNode (db : Database) (nodeId : String) : Database where
  nodes := db.nodes.delete fun n => n.nodeId = nodeId
  tokens := db.tokens.delete fun t => t.nodeId = nodeId
  owned := by
    intro t ht
    obtain ⟨ht, hne⟩ := Table.mem_delete.1 ht
    obtain ⟨n, hn, hid⟩ := db.owned t ht
    exact ⟨n, Table.mem_delete.2 ⟨hn, hid ▸ hne⟩, hid⟩

/-! ## The functions of `db.rs` -/

/-- `DEFAULT_TOKEN_TTL_SECS`. -/
def defaultTokenTtlSecs : ℤ := 30 * 24 * 60 * 60

/-- `init_schema` on a database with the current columns: the backfill of `expires_at`. -/
def initSchema (db : Database) : Database :=
  db.updateTokens (fun t =>
    { t with expiresAt := if t.expiresAt = 0 then t.createdAt + defaultTokenTtlSecs
        else t.expiresAt }) fun _ => ⟨rfl, rfl⟩

/-- `get_node_by_token`. -/
def getNodeByToken (db : Database) (token : String) (now : ℤ) : Option NodeRecord :=
  db.nodes.rows.find? fun n => db.tokens.rows.any fun t =>
    t.nodeId = n.nodeId && t.token = token && !t.revoked && decide (now < t.expiresAt)

/-- `list_peers`. -/
def listPeers (db : Database) (excludeNodeId : Option String) : List NodeRecord :=
  db.nodes.rows.filter fun r => excludeNodeId ≠ some r.nodeId

/-- `update_heartbeat`. -/
def updateHeartbeat (db : Database) (nodeId endpoint : String) (viaRelay : Option String)
    (lastSeen : ℤ) : Database :=
  db.updateNodes (fun n =>
      if n.nodeId = nodeId then
        { n with
          lastEndpoint := some endpoint
          viaRelay := viaRelay.or n.viaRelay
          lastSeen := some lastSeen }
      else n)
    (by
      intro column r s
      cases column <;> (simp only [NodeColumn.Clash]; split <;> split <;> exact id))
    (fun r => by split <;> rfl)

/-- `revoke_all_tokens_for_node`: the number of tokens revoked. -/
def revokeAllTokensForNode (db : Database) (nodeId : String) : ℕ × Database :=
  (db.tokens.rows.countP fun t => t.nodeId = nodeId && !t.revoked,
    db.updateTokens
      (fun t => if t.nodeId = nodeId && !t.revoked then { t with revoked := true } else t)
      fun t => by split <;> exact ⟨rfl, rfl⟩)

/-- `delete_node`: the address of the node, if there was one. -/
def deleteNode (db : Database) (nodeId : String) : Option String × Database :=
  ((db.nodes.rows.find? fun n => n.nodeId = nodeId).map NodeRecord.ip, db.dropNode nodeId)

variable [Profile]

/-- `create_token`. -/
def createToken (db : Database) (nodeId token : String) (createdAt ttlSecs : ℤ) :
    Option (Except Violation Unit) × Database :=
  match I64.value (createdAt + ttlSecs) with
  | none => (none, db)
  | some expiresAt =>
      match db.addToken ⟨token, nodeId, createdAt, expiresAt, false⟩ with
      | .error e => (some (.error e), db)
      | .ok db => (some (.ok ()), db)

/-- `insert_node`: two statements without a transaction. -/
def insertNode (db : Database) (node : NodeRecord) (token : String) (ttlSecs : ℤ) :
    Option (Except Violation Unit) × Database :=
  match db.addNode node.inserted with
  | .error e => (some (.error e), db)
  | .ok db => db.createToken node.nodeId token node.createdAt ttlSecs

/-! ## What they do to the rows -/

variable {db db' : Database} {node n : NodeRecord} {t : TokenRecord} {nodeId token : String}
  {createdAt ttlSecs : ℤ}

omit [Profile] in
theorem rows_addNode (h : db.addNode node = .ok db') :
    db'.nodes.rows = db.nodes.rows ++ [node] ∧ db'.tokens = db.tokens := by
  unfold addNode at h
  split at h
  · cases h
    exact ⟨rfl, rfl⟩
  · cases h

omit [Profile] in
theorem addNode_error {e : Violation} (h : db.addNode node = .error e) :
    e = .nodes (NodeColumn.clashes db.nodes.rows node) := by
  unfold addNode at h
  split at h
  · cases h
  · cases h
    rfl

omit [Profile] in
theorem rows_addToken (h : db.addToken t = .ok db') :
    db'.nodes = db.nodes ∧ db'.tokens.rows = db.tokens.rows ++ [t] := by
  unfold addToken at h
  split at h
  · split at h
    · cases h
      exact ⟨rfl, rfl⟩
    · cases h
  · cases h

/-- `create_token` leaves the nodes alone. -/
theorem nodes_createToken :
    (db.createToken nodeId token createdAt ttlSecs).2.nodes = db.nodes := by
  unfold createToken
  split
  · rfl
  · split
    · rfl
    · rename_i hadd
      exact (rows_addToken hadd).1

/-- The tokens after `create_token`: none is changed, and a new one is the given one. -/
theorem mem_createToken (h : t ∈ (db.createToken nodeId token createdAt ttlSecs).2.tokens.rows) :
    t ∈ db.tokens.rows ∨ ∃ expiresAt, I64.value (createdAt + ttlSecs) = some expiresAt ∧
      t = ⟨token, nodeId, createdAt, expiresAt, false⟩ := by
  unfold createToken at h
  split at h
  · exact .inl h
  · rename_i expiresAt hvalue
    split at h
    · exact .inl h
    · rename_i hadd
      rw [(rows_addToken hadd).2, List.mem_append, List.mem_singleton] at h
      exact h.imp_right fun heq => ⟨expiresAt, hvalue, heq⟩

/-- The nodes after `insert_node`: the new one is there unless it clashes with another one. -/
theorem nodes_insertNode :
    (db.insertNode node token ttlSecs).2.nodes.rows =
      match db.addNode node.inserted with
      | .error _ => db.nodes.rows
      | .ok _ => db.nodes.rows ++ [node.inserted] := by
  unfold insertNode
  cases hadd : db.addNode node.inserted with
  | error e => rfl
  | ok db' =>
      show (createToken _ _ _ _ _).2.nodes.rows = _
      rw [nodes_createToken, (rows_addNode hadd).1]

theorem mem_insertNode (h : t ∈ (db.insertNode node token ttlSecs).2.tokens.rows) :
    t ∈ db.tokens.rows ∨ ∃ expiresAt, I64.value (node.createdAt + ttlSecs) = some expiresAt ∧
      t = ⟨token, node.nodeId, node.createdAt, expiresAt, false⟩ := by
  unfold insertNode at h
  cases hadd : db.addNode node.inserted with
  | error e =>
      rw [hadd] at h
      exact .inl h
  | ok db' =>
      rw [hadd] at h
      have hmem := mem_createToken h
      rwa [(rows_addNode hadd).2] at hmem

omit [Profile] in
/-- The address that `delete_node` returns is the one of the row that it deletes. -/
theorem deleteNode_ip {ip : String} (h : (db.deleteNode nodeId).1 = some ip) :
    ∃ n ∈ db.nodes.rows, n.nodeId = nodeId ∧ n.ip = ip := by
  obtain ⟨n, hfind, hip⟩ := Option.map_eq_some_iff.1 h
  have hid : n.nodeId = nodeId := by simpa using List.find?_some hfind
  exact ⟨n, List.mem_of_find?_eq_some hfind, hid, hip⟩

omit [Profile] in
/-- `get_node_by_token` refuses a token exactly when no row of it is active. -/
theorem getNodeByToken_eq_none {now : ℤ} :
    db.getNodeByToken token now = none ↔
      ∀ t ∈ db.tokens.rows, t.token = token → t.revoked = true ∨ t.expiresAt ≤ now := by
  rw [getNodeByToken, List.find?_eq_none]
  simp only [List.any_eq_true, Bool.and_eq_true, decide_eq_true_eq, Bool.not_eq_true',
    not_exists, not_and, not_lt]
  constructor
  · intro h t ht htoken
    obtain ⟨n, hn, hid⟩ := db.owned t ht
    rcases Bool.eq_false_or_eq_true t.revoked with hrevoked | hrevoked
    · exact .inl hrevoked
    · exact .inr (h n hn t ht ⟨⟨hid.symm, htoken⟩, hrevoked⟩)
  · rintro h n - t ht ⟨⟨-, htoken⟩, hrevoked⟩
    rcases h t ht htoken with hrevoked' | hexpired
    · rw [hrevoked] at hrevoked'
      cases hrevoked'
    · exact hexpired

omit [Profile] in
theorem mem_of_getNodeByToken {now : ℤ} (h : db.getNodeByToken token now = some n) :
    n ∈ db.nodes.rows := List.mem_of_find?_eq_some h

omit [Profile] in
/-- A token that is accepted has an active row of the node that it finds. -/
theorem row_of_getNodeByToken {now : ℤ} (h : db.getNodeByToken token now = some n) :
    ∃ t ∈ db.tokens.rows, t.token = token ∧ t.nodeId = n.nodeId ∧ t.revoked = false := by
  have hany := List.find?_some h
  obtain ⟨t, ht, hactive⟩ := List.any_eq_true.1 hany
  simp only [Bool.and_eq_true, decide_eq_true_eq, Bool.not_eq_true'] at hactive
  exact ⟨t, ht, hactive.1.1.2, hactive.1.1.1, hactive.1.2⟩

/-! ## Addresses -/

/-- The texts of the addresses that are stored. -/
def ips (db : Database) : List String := db.nodes.rows.map NodeRecord.ip

omit [Profile] in
theorem nodup_ips (db : Database) : db.ips.Nodup :=
  List.pairwise_map.2 (db.nodes.apart.imp fun hapart hip => hapart .ip hip)

omit [Profile] in
theorem ips_updateHeartbeat {endpoint : String} {viaRelay : Option String} {lastSeen : ℤ} :
    (db.updateHeartbeat nodeId endpoint viaRelay lastSeen).ips = db.ips := by
  show (List.map _ db.nodes.rows).map NodeRecord.ip = _
  rw [List.map_map]
  refine List.map_congr_left fun n _ => ?_
  rw [Function.comp_apply]
  split <;> rfl

/-- `insert_node` stores the address of the node unless the node clashes with another one. -/
theorem ips_insertNode :
    (∃ columns, db.addNode node.inserted = .error (.nodes columns) ∧
        db.insertNode node token ttlSecs = (some (.error (.nodes columns)), db)) ∨
      (∃ made, db.addNode node.inserted = .ok made) ∧
        (db.insertNode node token ttlSecs).2.ips = db.ips ++ [node.ip] := by
  cases hadd : db.addNode node.inserted with
  | error e =>
      have he := addNode_error hadd
      exact .inl ⟨_, congrArg Except.error he, by rw [insertNode, hadd, he]⟩
  | ok made =>
      refine .inr ⟨⟨made, rfl⟩, ?_⟩
      rw [ips, nodes_insertNode, hadd, List.map_append]
      rfl

omit [Profile] in
theorem addToken_error {columns : List NodeColumn} : db.addToken t ≠ .error (.nodes columns) := by
  unfold addToken
  split
  · split <;> exact nofun
  · exact nofun

theorem createToken_violation {columns : List NodeColumn} :
    (db.createToken nodeId token createdAt ttlSecs).1 ≠ some (.error (.nodes columns)) := by
  unfold createToken
  split
  · exact nofun
  · split
    · rename_i hadd
      intro h
      cases h
      exact addToken_error hadd
    · exact nofun

/-- An insertion that fails on columns of `nodes` fails on those in which the node clashes. -/
theorem insertNode_violation {columns : List NodeColumn}
    (h : (db.insertNode node token ttlSecs).1 = some (.error (.nodes columns))) :
    columns = NodeColumn.clashes db.nodes.rows node.inserted := by
  unfold insertNode at h
  cases hadd : db.addNode node.inserted with
  | error e =>
      rw [hadd, addNode_error hadd] at h
      cases h
      rfl
  | ok made =>
      rw [hadd] at h
      exact absurd h createToken_violation

omit [Profile] in
/-- A row is inserted unless it clashes with another one. -/
theorem addNode_ok_iff : (∃ made, db.addNode node = .ok made) ↔ ∀ n ∈ db.nodes.rows, n.Apart node := by
  unfold addNode
  split
  · rename_i h
    exact iff_of_true ⟨_, rfl⟩ (apart_of_clashes_nil h)
  · rename_i h
    refine iff_of_false (fun ⟨_, hok⟩ => nomatch hok) fun hall => h ?_
    refine List.eq_nil_iff_forall_not_mem.2 fun column hmem => ?_
    obtain ⟨n, hn, hclash⟩ := NodeColumn.mem_clashes.1 hmem
    exact hall n hn column hclash

omit [Profile] in
/-- The addresses after `delete_node`: all but the one that it returns. -/
theorem mem_ips_deleteNode {ip : String} :
    ip ∈ (db.deleteNode nodeId).2.ips ↔ ip ∈ db.ips ∧ (db.deleteNode nodeId).1 ≠ some ip := by
  simp only [ips, deleteNode, dropNode, List.mem_map, Table.mem_delete, decide_eq_false_iff_not]
  constructor
  · rintro ⟨n, ⟨hn, hid⟩, rfl⟩
    refine ⟨⟨n, hn, rfl⟩, fun hsome => ?_⟩
    obtain ⟨m, hm, hmid, hip⟩ := deleteNode_ip hsome
    have hsame : m = n := db.nodes.eq_of_not_apart hm hn fun hapart => hapart .ip hip
    exact hid (hsame ▸ hmid)
  · rintro ⟨⟨n, hn, rfl⟩, hne⟩
    refine ⟨n, ⟨hn, fun hid => hne ?_⟩, rfl⟩
    cases hfind : db.nodes.rows.find? fun n => n.nodeId = nodeId with
    | none => exact absurd hid (by simpa using List.find?_eq_none.1 hfind n hn)
    | some m =>
        have hmid : m.nodeId = nodeId := by simpa using List.find?_some hfind
        have hm := List.mem_of_find?_eq_some hfind
        have hsame : m = n := db.nodes.eq_of_not_apart hm hn fun hapart =>
          hapart .nodeId (hmid.trans hid.symm)
        rw [Option.map_some, hsame]

omit [Profile] in
theorem ips_deleteNode_of_none (h : (db.deleteNode nodeId).1 = none) :
    (db.deleteNode nodeId).2.ips = db.ips := by
  have hfind := List.find?_eq_none.1 (Option.map_eq_none_iff.1 h)
  refine congrArg (List.map NodeRecord.ip) (List.filter_eq_self.2 fun n hn => ?_)
  exact Bool.not_eq_true' _ ▸ Bool.eq_false_iff.2 (hfind n hn)

omit [Profile] in
theorem mem_ips_of_deleteNode {ip : String} (h : (db.deleteNode nodeId).1 = some ip) :
    ip ∈ db.ips := by
  obtain ⟨n, hn, -, rfl⟩ := deleteNode_ip h
  exact List.mem_map_of_mem hn

end Database

end Naboscale.Coord
