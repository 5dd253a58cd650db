import Naboscale.Coord.Granted
import Naboscale.Coord.Parties
import Naboscale.Coord.Refresh

/-!
# The holder of an identity key

The holder of the identity key of a node signs its requests and keeps the token of the last
response that reached it. A new token needs the last one or a registration, and the row of the node
is in the way of every registration: once the last token is refused, no request of the holder
leads to another one.
-/

namespace Naboscale.Coord

open Rust Concurrent

namespace Database

/-! ## The tokens of a key -/

/-- Some node has the identity key. -/
def Known (db : Database) (key : Bytes) : Prop := ∃ n ∈ db.nodes.rows, n.identityPubkey = key

/-- The token is not revoked and belongs to the node with the identity key. -/
def Owns (db : Database) (key : Bytes) (t : TokenRecord) : Prop :=
  t ∈ db.tokens.rows ∧ t.revoked = false ∧
    ∃ n ∈ db.nodes.rows, n.nodeId = t.nodeId ∧ n.identityPubkey = key

/-- `get_node_by_token` finds the node with the identity key. -/
def Accepts (db : Database) (key : Bytes) (now : ℤ) (token : String) : Prop :=
  ∃ n, db.getNodeByToken token now = some n ∧ n.identityPubkey = key

/-- The holder of the key has the same rows in both databases. -/
def Same (key : Bytes) (db db' : Database) : Prop :=
  (db'.Known key ↔ db.Known key) ∧ ∀ t, db'.Owns key t ↔ db.Owns key t

variable {db made : Database} {node n : NodeRecord} {t row : TokenRecord} {key : Bytes}
  {nodeId token : String} {now : ℤ}

theorem Same.refl (key : Bytes) (db : Database) : Same key db db := ⟨Iff.rfl, fun _ => Iff.rfl⟩

theorem Same.trans {db₁ db₂ db₃ : Database} (h : Same key db₁ db₂) (h' : Same key db₂ db₃) :
    Same key db₁ db₃ := ⟨h'.1.trans h.1, fun t => (h'.2 t).trans (h.2 t)⟩

/-- Two nodes with one id are the same row. -/
theorem eq_of_nodeId {n' : NodeRecord} (hn : n ∈ db.nodes.rows) (hn' : n' ∈ db.nodes.rows)
    (hid : n.nodeId = n'.nodeId) : n = n' :=
  db.nodes.eq_of_not_apart hn hn' fun hapart => hapart .nodeId hid

theorem accepts_iff :
    db.Accepts key now token ↔ ∃ t, db.Owns key t ∧ t.token = token ∧ now < t.expiresAt := by
  constructor
  · rintro ⟨n, hfound, hkey⟩
    have hmem := mem_of_getNodeByToken hfound
    have hany := List.find?_some hfound
    obtain ⟨t, ht, hactive⟩ := List.any_eq_true.1 hany
    simp only [Bool.and_eq_true, decide_eq_true_eq, Bool.not_eq_true'] at hactive
    obtain ⟨⟨⟨hid, htoken⟩, hvalid⟩, hlive⟩ := hactive
    exact ⟨t, ⟨ht, hvalid, n, hmem, hid.symm, hkey⟩, htoken, hlive⟩
  · rintro ⟨t, ⟨ht, hvalid, n, hn, hid, hkey⟩, htoken, hlive⟩
    cases hfound : db.getNodeByToken token now with
    | none =>
        rcases getNodeByToken_eq_none.1 hfound t ht htoken with hrevoked | hexpired
        · cases hvalid.symm.trans hrevoked
        · exact absurd hlive (not_lt.2 hexpired)
    | some n' =>
        -- the row of a token is unique, and so is the node that it names
        obtain ⟨t', ht', htoken', hid', -⟩ := row_of_getNodeByToken hfound
        have hrow : t' = t := db.tokens.eq_of_not_apart ht' ht fun hapart =>
          hapart (htoken'.trans htoken.symm)
        have hnode : n' = n := eq_of_nodeId (mem_of_getNodeByToken hfound) hn
          (hid'.symm.trans ((congrArg _ hrow).trans hid.symm))
        exact ⟨n', hfound, hnode ▸ hkey⟩

theorem Accepts.known (h : db.Accepts key now token) : db.Known key := by
  obtain ⟨n, hfound, hkey⟩ := h
  exact ⟨n, mem_of_getNodeByToken hfound, hkey⟩

theorem Same.accepts {db' : Database} (h : Same key db db') :
    db'.Accepts key now token ↔ db.Accepts key now token := by
  rw [accepts_iff, accepts_iff]
  exact exists_congr fun t => and_congr_left fun _ => h.2 t

/-! ## What the statements do to them -/

theorem same_updateHeartbeat (key : Bytes) (db : Database) (nodeId endpoint : String)
    (viaRelay : Option String) (lastSeen : ℤ) :
    Same key db (db.updateHeartbeat nodeId endpoint viaRelay lastSeen) := by
  have hkept (P : NodeRecord → Prop) (hP : ∀ n e v l, P { n with
      lastEndpoint := e, viaRelay := v, lastSeen := l } ↔ P n) :
      (∃ n ∈ (db.updateHeartbeat nodeId endpoint viaRelay lastSeen).nodes.rows, P n) ↔
        ∃ n ∈ db.nodes.rows, P n := by
    show (∃ n ∈ List.map _ db.nodes.rows, P n) ↔ _
    simp only [List.mem_map, exists_exists_and_eq_and]
    refine exists_congr fun n => and_congr_right fun _ => ?_
    split
    · exact hP n _ _ _
    · exact Iff.rfl
  exact ⟨hkept (fun n => n.identityPubkey = key) fun _ _ _ _ => Iff.rfl, fun t =>
    and_congr_right fun _ => and_congr_right fun _ =>
      hkept (fun n => n.nodeId = t.nodeId ∧ n.identityPubkey = key) fun _ _ _ _ => Iff.rfl⟩

/-- A deletion takes away the tokens of its node. -/
theorem owns_deleteNode :
    (db.deleteNode nodeId).2.Owns key t ↔ db.Owns key t ∧ t.nodeId ≠ nodeId := by
  show (t ∈ (db.tokens.delete _).rows ∧ _ ∧ ∃ n ∈ (db.nodes.delete _).rows, _) ↔ _
  simp only [Table.mem_delete, decide_eq_false_iff_not]
  constructor
  · rintro ⟨⟨ht, hne⟩, hvalid, n, ⟨hn, -⟩, hnode⟩
    exact ⟨⟨ht, hvalid, n, hn, hnode⟩, hne⟩
  · rintro ⟨⟨ht, hvalid, n, hn, hid, hkey⟩, hne⟩
    exact ⟨⟨ht, hne⟩, hvalid, n, ⟨hn, hid ▸ hne⟩, hid, hkey⟩

/-- A revocation takes away the tokens of its node. -/
theorem owns_revoke :
    (db.revokeAllTokensForNode nodeId).2.Owns key t ↔ db.Owns key t ∧ t.nodeId ≠ nodeId := by
  have hrows : t ∈ (db.revokeAllTokensForNode nodeId).2.tokens.rows ∧ t.revoked = false ↔
      (t ∈ db.tokens.rows ∧ t.revoked = false) ∧ t.nodeId ≠ nodeId := by
    constructor
    · rintro ⟨hmem, hvalid⟩
      obtain ⟨before, hbefore, rfl⟩ := List.mem_map.1 hmem
      split at hvalid
      · cases hvalid
      · rename_i hother
        rw [if_neg hother]
        refine ⟨⟨hbefore, hvalid⟩, fun hid => hother ?_⟩
        simp [hid, hvalid]
    · rintro ⟨⟨hmem, hvalid⟩, hne⟩
      refine ⟨List.mem_map.2 ⟨t, hmem, ?_⟩, hvalid⟩
      rw [if_neg (by simp [hne])]
  rw [Owns, Owns, ← and_assoc, hrows, ← and_assoc]
  exact and_right_comm

/-- A token that is stored belongs to the node that it names. -/
theorem owns_addToken (h : db.addToken row = .ok made) (hvalid : row.revoked = false) :
    made.Owns key t ↔ db.Owns key t ∨
      t = row ∧ ∃ n ∈ db.nodes.rows, n.nodeId = row.nodeId ∧ n.identityPubkey = key := by
  obtain ⟨hnodes, hrows⟩ := rows_addToken h
  rw [Owns, Owns, hnodes, hrows, List.mem_append, List.mem_singleton, or_and_right]
  refine or_congr_right ⟨?_, ?_⟩
  · rintro ⟨rfl, -, hnode⟩
    exact ⟨rfl, hnode⟩
  · rintro ⟨rfl, hnode⟩
    exact ⟨rfl, hvalid, hnode⟩

/-- A node that is stored has no tokens yet. -/
theorem owns_addNode (h : db.addNode node = .ok made) : made.Owns key t ↔ db.Owns key t := by
  obtain ⟨hnodes, htokens⟩ := rows_addNode h
  rw [Owns, Owns, hnodes, htokens]
  refine and_congr_right fun ht => and_congr_right fun _ => ?_
  simp only [List.mem_append, List.mem_singleton, or_and_right, exists_or, exists_eq_left]
  refine or_iff_left ?_
  rintro ⟨hid, -⟩
  obtain ⟨n, hn, hid'⟩ := db.owned t ht
  exact addNode_ok_iff.1 ⟨made, h⟩ n hn .nodeId (hid'.trans hid.symm)

/-- The node id is that of another key. -/
def Foreign (db : Database) (key : Bytes) (nodeId : String) : Prop :=
  ∀ n ∈ db.nodes.rows, n.nodeId = nodeId → n.identityPubkey ≠ key

theorem foreign_of_mem (hn : n ∈ db.nodes.rows) (hkey : n.identityPubkey ≠ key) :
    db.Foreign key n.nodeId := fun _ hn' hid => eq_of_nodeId hn' hn hid ▸ hkey

theorem Foreign.nodeId_ne (h : db.Foreign key nodeId) (ht : db.Owns key t) : t.nodeId ≠ nodeId := by
  obtain ⟨-, -, n, hn, hid, hkey⟩ := ht
  exact fun heq => h n hn (hid.trans heq) hkey

theorem Foreign.same_revoke (h : db.Foreign key nodeId) :
    Same key db (db.revokeAllTokensForNode nodeId).2 :=
  ⟨Iff.rfl, fun _ => owns_revoke.trans (and_iff_left_of_imp h.nodeId_ne)⟩

theorem Foreign.same_deleteNode (h : db.Foreign key nodeId) :
    Same key db (db.deleteNode nodeId).2 := by
  refine ⟨?_, fun _ => owns_deleteNode.trans (and_iff_left_of_imp h.nodeId_ne)⟩
  show (∃ n ∈ (db.nodes.delete _).rows, _) ↔ _
  simp only [Table.mem_delete, decide_eq_false_iff_not]
  constructor
  · rintro ⟨n, ⟨hn, -⟩, hkey⟩
    exact ⟨n, hn, hkey⟩
  · rintro ⟨n, hn, hkey⟩
    exact ⟨n, ⟨hn, fun hid => h n hn hid hkey⟩, hkey⟩

/-- The key is not known after its node is deleted. -/
theorem not_known_deleteNode (hn : n ∈ db.nodes.rows) (hkey : n.identityPubkey = key) :
    ¬ (db.deleteNode n.nodeId).2.Known key := by
  rintro ⟨n', hn', hkey'⟩
  obtain ⟨hmem, hne⟩ := Table.mem_delete.1 hn'
  have hnode : n' = n := db.nodes.eq_of_not_apart hmem hn fun hapart =>
    hapart .identityPubkey (hkey'.trans hkey.symm)
  rw [hnode, decide_eq_true rfl] at hne
  cases hne

/-- A revocation leaves the key of the node no token. -/
theorem not_owns_revoke (hn : n ∈ db.nodes.rows) (hkey : n.identityPubkey = key) :
    ¬ (db.revokeAllTokensForNode n.nodeId).2.Owns key t := by
  rw [owns_revoke]
  rintro ⟨⟨-, -, n', hn', hid, hkey'⟩, hne⟩
  have hnode : n' = n := db.nodes.eq_of_not_apart hn' hn fun hapart =>
    hapart .identityPubkey (hkey'.trans hkey.symm)
  exact hne (hnode ▸ hid.symm)

/-- A revocation keeps the texts of the tokens. -/
theorem fresh_revoke :
    (∀ t ∈ (db.revokeAllTokensForNode nodeId).2.tokens.rows, t.token ≠ token) ↔
      ∀ t ∈ db.tokens.rows, t.token ≠ token := by
  show (∀ t ∈ List.map _ db.tokens.rows, TokenRecord.token t ≠ token) ↔ _
  rw [List.forall_mem_map]
  refine forall_congr' fun t => forall_congr' fun _ => ?_
  split <;> exact Iff.rfl

variable [Profile] {createdAt ttlSecs : ℤ}

/-- `create_token` stores the token, or changes nothing and says so. -/
theorem createToken_cases (db : Database) (nodeId token : String) (createdAt ttlSecs : ℤ) :
    (∃ expiresAt made, I64.value (createdAt + ttlSecs) = some expiresAt ∧
        db.addToken ⟨token, nodeId, createdAt, expiresAt, false⟩ = .ok made ∧
        db.createToken nodeId token createdAt ttlSecs = (some (.ok ()), made)) ∨
      (¬ ∃ expiresAt made, I64.value (createdAt + ttlSecs) = some expiresAt ∧
        db.addToken ⟨token, nodeId, createdAt, expiresAt, false⟩ = .ok made) ∧
        (db.createToken nodeId token createdAt ttlSecs).1 ≠ some (.ok ()) ∧
        (db.createToken nodeId token createdAt ttlSecs).2 = db := by
  cases hvalue : I64.value (createdAt + ttlSecs) with
  | none =>
      have hcreate : db.createToken nodeId token createdAt ttlSecs = (none, db) := by
        rw [createToken, hvalue]
      rw [hcreate]
      refine Or.inr ⟨?_, (fun h => by cases h), rfl⟩
      rintro ⟨_, _, heq, _⟩
      cases heq
  | some expiresAt =>
      cases hadd : db.addToken ⟨token, nodeId, createdAt, expiresAt, false⟩ with
      | ok made =>
          refine Or.inl ⟨expiresAt, made, rfl, hadd, ?_⟩
          rw [createToken, hvalue]
          simp only [hadd]
      | error e =>
          have hcreate : db.createToken nodeId token createdAt ttlSecs = (some (.error e), db) := by
            rw [createToken, hvalue]
            simp only [hadd]
          rw [hcreate]
          refine Or.inr ⟨?_, (fun h => by cases h), rfl⟩
          rintro ⟨_, made, heq, hmade⟩
          cases heq
          cases hadd.symm.trans hmade

theorem Foreign.same_createToken (h : db.Foreign key nodeId) :
    Same key db (db.createToken nodeId token createdAt ttlSecs).2 := by
  obtain ⟨expiresAt, made, -, hadd, hmade⟩ | ⟨-, -, hsame⟩ :=
    createToken_cases db nodeId token createdAt ttlSecs
  · rw [hmade]
    refine ⟨by rw [Known, Known, (rows_addToken hadd).1], fun t => ?_⟩
    refine (owns_addToken hadd rfl).trans (or_iff_left ?_)
    rintro ⟨-, n, hn, hid, hkey⟩
    exact h n hn hid hkey
  · rw [hsame]
    exact Same.refl key db

/-- A node of another key does not change what belongs to the key. -/
theorem same_insertNode (hkey : node.identityPubkey ≠ key) :
    Same key db (db.insertNode node token ttlSecs).2 := by
  rw [insertNode]
  cases hadd : db.addNode node.inserted with
  | error e => exact Same.refl key db
  | ok made =>
      obtain ⟨hnodes, -⟩ := rows_addNode hadd
      have hknown : made.Known key ↔ db.Known key := by
        simp only [Known, hnodes, List.mem_append, List.mem_singleton, or_and_right, exists_or,
          exists_eq_left]
        exact or_iff_left hkey
      have hforeign : made.Foreign key node.nodeId :=
        foreign_of_mem (n := node.inserted) (hnodes ▸ List.mem_append_right _
          (List.mem_singleton_self _)) hkey
      have hcreated : Same key made
          (made.createToken node.nodeId token node.createdAt ttlSecs).2 :=
        hforeign.same_createToken
      exact ⟨hcreated.1.trans hknown, fun t => (hcreated.2 t).trans (owns_addNode hadd)⟩

omit [Profile] in
/-- A node that is stored under a key is the first one of the key. -/
theorem not_owns_addNode (h : db.addNode node = .ok made) (hkey : node.identityPubkey = key) :
    ¬ made.Owns key t := by
  rw [owns_addNode h]
  rintro ⟨-, -, n, hn, -, hkey'⟩
  exact addNode_ok_iff.1 ⟨made, h⟩ n hn .identityPubkey (hkey'.trans hkey.symm)

theorem insertNode_of_clash (h : NodeColumn.clashes db.nodes.rows node.inserted ≠ []) :
    ∃ e, ∀ token ttlSecs, db.insertNode node token ttlSecs = (some (.error e), db) := by
  obtain ⟨e, hadd⟩ : ∃ e, db.addNode node.inserted = .error e := ⟨_, dif_neg h⟩
  refine ⟨e, fun token ttlSecs => ?_⟩
  rw [insertNode, hadd]

theorem insertNode_of_free (h : NodeColumn.clashes db.nodes.rows node.inserted = []) :
    ∃ made, db.addNode node.inserted = .ok made ∧ ∀ token ttlSecs,
      db.insertNode node token ttlSecs =
        made.createToken node.inserted.nodeId token node.createdAt ttlSecs := by
  obtain ⟨made, hadd⟩ := addNode_ok_iff.2 (apart_of_clashes_nil h)
  refine ⟨made, hadd, fun token ttlSecs => ?_⟩
  rw [insertNode, hadd]
  rfl

/-- The only token of a key after one was drawn for its node. -/
theorem createToken_owner (hn : n ∈ db.nodes.rows) (hkey : n.identityPubkey = key)
    (hnone : ∀ t, ¬ db.Owns key t) (token : String) (createdAt ttlSecs : ℤ) :
    (∃ expiresAt, (∀ t ∈ db.tokens.rows, t.token ≠ token) ∧
        I64.value (createdAt + ttlSecs) = some expiresAt ∧
        (db.createToken n.nodeId token createdAt ttlSecs).1 = some (.ok ()) ∧
        ∀ t, (db.createToken n.nodeId token createdAt ttlSecs).2.Owns key t ↔
          t = ⟨token, n.nodeId, createdAt, expiresAt, false⟩) ∨
      (¬ ∃ expiresAt, (∀ t ∈ db.tokens.rows, t.token ≠ token) ∧
        I64.value (createdAt + ttlSecs) = some expiresAt) ∧
        (db.createToken n.nodeId token createdAt ttlSecs).1 ≠ some (.ok ()) ∧
        ∀ t, ¬ (db.createToken n.nodeId token createdAt ttlSecs).2.Owns key t := by
  obtain ⟨expiresAt, made, hvalue, hadd, hmade⟩ | ⟨hno, hfailed, hsame⟩ :=
    createToken_cases db n.nodeId token createdAt ttlSecs
  · refine Or.inl ⟨expiresAt, ?_, hvalue, by rw [hmade], fun t => ?_⟩
    · by_contra hstored
      cases (addToken_stored hstored).symm.trans hadd
    · rw [hmade]
      refine (owns_addToken hadd rfl).trans ((or_iff_right (hnone t)).trans ?_)
      exact and_iff_left ⟨n, hn, rfl, hkey⟩
  · refine Or.inr ⟨?_, hfailed, by rw [hsame]; exact hnone⟩
    rintro ⟨expiresAt, hfresh, hvalue⟩
    obtain ⟨made, hadd⟩ := @addToken_known db ⟨token, n.nodeId, createdAt, expiresAt, false⟩
      hfresh ⟨n, hn, rfl⟩
    exact hno ⟨expiresAt, made, hvalue, hadd⟩

end Database

section

variable [CoordCrates] [Profile]

/-- The header of a request. -/
def Request.authorization : Request → Option String
  | register _ _ => none
  | peers _ authorization | heartbeat _ authorization _ | refreshToken _ authorization _
  | deleteNode _ authorization _ => authorization

/-- The token of a response. -/
def Response.token? : Response → Option String
  | registered response => some response.authToken
  | refreshed response => some response.authToken
  | _ => none

namespace Coordinator

/-! ## What a request does to them -/

/-- The node that the bearer token of a request finds. -/
def caller (self : Coordinator) (authorization : Option String) : Option NodeRecord :=
  (extractBearer authorization).toOption.bind fun token =>
    self.db.getNodeByToken token self.clock.val

/-- The identity key for which the request asks for a token. -/
def tokenKey (self : Coordinator) : Request → Option Bytes
  | .register _ req => (decodePubkey req.identityPubkey).toOption.map Subtype.val
  | .refreshToken _ authorization _ =>
      (self.caller authorization).map NodeRecord.identityPubkey
  | _ => none

/-- The token that a response brings to the holder of the key. -/
def brings (self : Coordinator) (key : Bytes) (request : Request) :
    Exit Error Response → Option String
  | .ok response => if self.tokenKey request = some key then response.token? else none
  | _ => none

/-- The row of a registration. -/
def enrolled (draws : Draws) (identity wg : Arr 32) (ip : Ipv4Addr) (now : ℤ) : NodeRecord where
  nodeId := draws.nodeId
  identityPubkey := identity.val
  wgPubkey := wg.val
  ip := toString ip
  lastEndpoint := none
  viaRelay := none
  lastSeen := none
  createdAt := now

/-- The request passes its checks, and then replaces all tokens of the key: a refresh by its node,
or a registration of the key that gets an address, an expiry and a row. -/
def Replaces (self : Coordinator) (key : Bytes) (draws : Draws) : Request → Prop
  | .register peer req => self.poisoned = false ∧ ∃ identity wg ip,
      self.Admits peer req identity wg ∧ identity.val = key ∧
      self.ipAlloc.allocate.1 = some ip ∧
      (I64.value (self.clock.val + self.tokenTtlSecs.val)).isSome ∧
      NodeColumn.clashes self.db.nodes.rows
        (enrolled draws identity wg ip self.clock.val).inserted = []
  | .refreshToken peer authorization req => ∃ caller,
      self.Grants peer .token authorization req.signature req.timestamp
        (buildRefreshMessage req.timestamp) caller ∧ caller.identityPubkey = key
  | _ => False

/-- The drawn token is new, and this is its expiry. -/
def Mints (self : Coordinator) (draws : Draws) (expiresAt : ℤ) : Prop :=
  (∀ t ∈ self.db.tokens.rows, t.token ≠ draws.authToken) ∧
    I64.value (self.clock.val + self.tokenTtlSecs.val) = some expiresAt

/-- The key has the drawn token only, where that is new, and no token otherwise. -/
def Replaced (self : Coordinator) (key : Bytes) (draws : Draws) (db : Database)
    (brought : Option String) : Prop :=
  db.Known key ∧
    ((∃ expiresAt nodeId, self.Mints draws expiresAt ∧ brought = some draws.authToken ∧
        ∀ t, db.Owns key t ↔ t = ⟨draws.authToken, nodeId, self.clock.val, expiresAt, false⟩) ∨
      (¬ ∃ expiresAt, self.Mints draws expiresAt) ∧ brought = none ∧ ∀ t, ¬ db.Owns key t)

/-- The request presents a token that finds the node of the key. -/
def Presents (self : Coordinator) (key : Bytes) (request : Request) : Prop :=
  ∃ token, extractBearer request.authorization = .ok token ∧
    self.db.Accepts key self.clock.val token

/-- The request leaves the rows of the key alone, or presents its token and deletes its node. -/
def Spares (self : Coordinator) (key : Bytes) (request : Request) (db : Database)
    (brought : Option String) : Prop :=
  Database.Same key self.db db ∧ brought = none ∨ ¬ db.Known key ∧ self.Presents key request

variable {self : Coordinator} {peer : SocketAddr} {authorization : Option String} {draws : Draws}
  {key : Bytes}

omit [Profile] in
theorem brings_of_failed {request : Request} {result : Exit Error Response}
    (h : ∀ response, result ≠ .ok response) : self.brings key request result = none := by
  cases result with
  | ok response => exact absurd rfl (h response)
  | _ => rfl

omit [Profile] in
theorem brings_of_other {request : Request} {result : Exit Error Response}
    (h : self.tokenKey request ≠ some key) : self.brings key request result = none := by
  cases result with
  | ok response => exact if_neg h
  | _ => rfl

omit [Profile] in
theorem brings_of_none {request : Request} {result : Exit Error Response}
    (h : self.tokenKey request = none) : self.brings key request result = none := by
  refine brings_of_other ?_
  rw [h]
  exact (Option.some_ne_none key).symm

theorem spares_peers :
    self.Spares key (.peers peer authorization) (self.serve (.peers peer authorization) draws).2.db
      (self.brings key (.peers peer authorization)
        (self.serve (.peers peer authorization) draws).1) := by
  have hpeers : (self.serve (.peers peer authorization) draws).2 = self.limited peer .default := by
    show ((Coord.peers peer authorization).run handle self).2 = _
    have hlist (excluded : Option String) : Still (Op.listPeers excluded).call :=
      still_read (f := fun db => db.listPeers excluded) fun _ => rfl
    rw [Coord.peers, run_checkRateLimit]
    cases (self.rateLimiter.check self.instant peer.ip .default).1 with
    | error retry => rfl
    | ok admitted => exact still_authenticate.bind (fun x => (hlist _).bind fun _ _ => rfl) _
  rw [hpeers]
  exact Or.inl ⟨Database.Same.refl key self.db, brings_of_none rfl⟩

/-- `heartbeat` after its checks. -/
def beat (req : HeartbeatRequest) (now : ℤ) (caller : NodeRecord) : Handler Response :=
  match req.viaRelay.filter fun r => !isSocketAddr r with
  | some r => .fail (.invalidRequest (.viaRelay r))
  | none => do
      (Op.updateHeartbeat caller.nodeId req.endpoint req.viaRelay now).call
      pure .ok

/-- `refresh_token` after its checks. -/
def renew (ttl : I64) (draws : Draws) (now : ℤ) (caller : NodeRecord) : Handler Response := do
  let _ ← (Op.revokeAllTokensForNode caller.nodeId).call
  let created ← (Op.createToken caller.nodeId draws.authToken now ttl.val).call
  .lift .database created
  let expiresAt ← .unwrap (I64.value (now + ttl.val))
  pure (.refreshed ⟨draws.authToken, expiresAt, expiresAt⟩)

/-- `delete_node` after its checks. -/
def remove (caller : NodeRecord) : Handler Response := do
  let ip ← (Op.deleteNode caller.nodeId).call
  match ip.bind Ipv4Addr.parse with
  | none => pure .noContent
  | some addr =>
      (Op.release addr).call
      pure .noContent

theorem spares_heartbeat {req : HeartbeatRequest} :
    self.Spares key (.heartbeat peer authorization req)
      (self.serve (.heartbeat peer authorization req) draws).2.db
      (self.brings key (.heartbeat peer authorization req)
        (self.serve (.heartbeat peer authorization req) draws).1) := by
  refine Or.inl ⟨?_, brings_of_none rfl⟩
  have hserve : self.serve (.heartbeat peer authorization req) draws =
      (signedBy peer .heartbeat authorization req.signature req.timestamp
          (buildHeartbeatMessage req.timestamp req.endpoint req.viaRelay) >>=
        fun x => beat req x.1 x.2).run handle self := by
    show (Coord.heartbeat peer authorization req).run handle self = _
    simp only [Coord.heartbeat, signedBy, bind_assoc, pure_bind]
    rfl
  rw [hserve]
  obtain ⟨caller, hgrants, hrun⟩ | ⟨-, hrefused, -⟩ := self.run_signedBy
  · rw [hrun, beat]
    cases req.viaRelay.filter fun r => !isSocketAddr r with
    | some r => exact Database.Same.refl key self.db
    | none =>
        have hhandle : handle (.updateHeartbeat caller.nodeId req.endpoint req.viaRelay
            self.clock.val) (self.limited peer .heartbeat) = locked _ fun db =>
              (some (), db.updateHeartbeat caller.nodeId req.endpoint req.viaRelay
                self.clock.val) := rfl
        have hbeat := run_sound _ hhandle hgrants.caller.1 (k := fun _ => pure Response.ok)
        dsimp only
        rw [hbeat]
        exact Database.same_updateHeartbeat key self.db _ _ _ _
  · rw [hrefused]
    exact Database.Same.refl key self.db

theorem spares_deleteNode {req : SignedRequest} :
    self.Spares key (.deleteNode peer authorization req)
      (self.serve (.deleteNode peer authorization req) draws).2.db
      (self.brings key (.deleteNode peer authorization req)
        (self.serve (.deleteNode peer authorization req) draws).1) := by
  have hserve : self.serve (.deleteNode peer authorization req) draws =
      (signedBy peer .token authorization req.signature req.timestamp
          (buildDeleteNodeMessage req.timestamp) >>= fun x => remove x.2).run handle self := by
    show (Coord.deleteNode peer authorization req).run handle self = _
    simp only [Coord.deleteNode, signedBy, bind_assoc, pure_bind]
    rfl
  rw [hserve]
  obtain ⟨caller, hgrants, hrun⟩ | ⟨-, hrefused, -⟩ := self.run_signedBy
  · obtain ⟨hsound, token, htoken, hfound⟩ := hgrants.caller
    have hmem := Database.mem_of_getNodeByToken hfound
    have hdb : ((remove caller).run handle (self.limited peer .token)).2.db =
        (self.db.deleteNode caller.nodeId).2 := by
      rw [remove, run_sound (self.limited peer .token)
        (f := fun db => (db.deleteNode caller.nodeId).map some id) rfl hsound]
      dsimp only [Prod.map]
      split <;> rfl
    rw [hrun, hdb]
    by_cases hkey : caller.identityPubkey = key
    · exact Or.inr ⟨Database.not_known_deleteNode hmem hkey, token, htoken, caller, hfound, hkey⟩
    · exact Or.inl ⟨(Database.foreign_of_mem hmem hkey).same_deleteNode, brings_of_none rfl⟩
  · rw [hrefused]
    exact Or.inl ⟨Database.Same.refl key self.db, brings_of_none rfl⟩

/-- The handler ends as the statement that stores its token does: with the token, if that is
stored. -/
structure Concludes (draws : Draws) (result : Exit Error Response × Coordinator)
    (stored : Option (Except Violation Unit) × Database) : Prop where
  db : result.2.db = stored.2
  returned : stored.1 = some (.ok ()) →
    ∃ response, result.1 = .ok response ∧ response.token? = some draws.authToken
  failed : stored.1 ≠ some (.ok ()) → ∀ response, result.1 ≠ .ok response

/-- A handler that draws the first token for the node of the key replaces all its tokens. -/
theorem Concludes.replaced {request : Request} {result : Exit Error Response × Coordinator}
    {db : Database} {n : NodeRecord}
    (h : Concludes draws result (db.createToken n.nodeId draws.authToken self.clock.val
      self.tokenTtlSecs.val))
    (hrequest : self.tokenKey request = some key) (hn : n ∈ db.nodes.rows)
    (hkey : n.identityPubkey = key) (hnone : ∀ t, ¬ db.Owns key t)
    (hfresh : (∀ t ∈ db.tokens.rows, t.token ≠ draws.authToken) ↔
      ∀ t ∈ self.db.tokens.rows, t.token ≠ draws.authToken) :
    self.Replaced key draws result.2.db (self.brings key request result.1) := by
  rw [h.db]
  refine ⟨?_, ?_⟩
  · rw [Database.Known, Database.nodes_createToken]
    exact ⟨n, hn, hkey⟩
  · obtain ⟨expiresAt, hnew, hvalue, hcreated, howns⟩ | ⟨hno, hfailed, hnone⟩ :=
      Database.createToken_owner hn hkey hnone draws.authToken self.clock.val
        self.tokenTtlSecs.val
    · obtain ⟨response, hresult, htoken⟩ := h.returned hcreated
      refine Or.inl ⟨expiresAt, n.nodeId, ⟨hfresh.1 hnew, hvalue⟩, ?_, howns⟩
      rw [hresult, brings, if_pos hrequest, htoken]
    · refine Or.inr ⟨?_, brings_of_failed (h.failed hfailed), hnone⟩
      exact fun ⟨e, hnew, hvalue⟩ => hno ⟨e, hfresh.2 hnew, hvalue⟩

theorem concludes_renew (self : Coordinator) (draws : Draws) (ttl : I64) (now : ℤ)
    (caller : NodeRecord) (hsound : self.poisoned = false) :
    Concludes draws ((renew ttl draws now caller).run handle self)
      ((self.db.revokeAllTokensForNode caller.nodeId).2.createToken caller.nodeId draws.authToken
        now ttl.val) := by
  have hcreate (s : Coordinator) :
      handle (.createToken caller.nodeId draws.authToken now ttl.val) s = s.locked fun db =>
        db.createToken caller.nodeId draws.authToken now ttl.val := rfl
  rw [renew, run_sound self
    (f := fun db => (db.revokeAllTokensForNode caller.nodeId).map some id) rfl hsound]
  dsimp only [Prod.map, id_eq]
  rw [run_sound _ (hcreate _) rfl]
  dsimp only
  obtain ⟨expiresAt, made, hvalue, -, hmade⟩ | ⟨-, hfailed, -⟩ := Database.createToken_cases
    (self.db.revokeAllTokensForNode caller.nodeId).2 caller.nodeId draws.authToken now ttl.val
  · rw [hmade, hvalue]
    exact ⟨rfl, fun _ => ⟨_, rfl, rfl⟩, fun hno => absurd rfl hno⟩
  · rcases hcreated : (self.db.revokeAllTokensForNode caller.nodeId).2.createToken caller.nodeId
      draws.authToken now ttl.val with ⟨_ | _ | _, db⟩
    · exact ⟨rfl, nofun, fun _ => nofun⟩
    · exact ⟨rfl, nofun, fun _ => nofun⟩
    · rw [hcreated] at hfailed
      exact absurd rfl hfailed

/-- What a request for a token does: where it passes its checks, it replaces the tokens of its key,
and otherwise it leaves the rows of the key alone. -/
def Sorted (self : Coordinator) (key : Bytes) (draws : Draws) (request : Request)
    (result : Exit Error Response × Coordinator) : Prop :=
  ¬ self.Replaces key draws request ∧
      self.Spares key request result.2.db (self.brings key request result.1) ∨
    self.Replaces key draws request ∧
      self.Replaced key draws result.2.db (self.brings key request result.1)

theorem sorted_refreshToken {req : SignedRequest} :
    self.Sorted key draws (.refreshToken peer authorization req)
      (self.serve (.refreshToken peer authorization req) draws) := by
  have hserve : self.serve (.refreshToken peer authorization req) draws =
      (signedBy peer .token authorization req.signature req.timestamp
          (buildRefreshMessage req.timestamp) >>=
        fun x => renew self.tokenTtlSecs draws x.1 x.2).run handle self := by
    show (Coord.refreshToken self.tokenTtlSecs draws peer authorization req).run handle self = _
    simp only [Coord.refreshToken, signedBy, bind_assoc, pure_bind]
    rfl
  rw [hserve]
  obtain ⟨caller, hgrants, hrun⟩ | ⟨hno, hafter, hfailed⟩ := self.run_signedBy
  · obtain ⟨hsound, token, htoken, hfound⟩ := hgrants.caller
    have hmem := Database.mem_of_getNodeByToken hfound
    have hcaller : self.tokenKey (.refreshToken peer authorization req) =
        some caller.identityPubkey := by
      rw [tokenKey, Coordinator.caller, htoken]
      exact congrArg (Option.map NodeRecord.identityPubkey) hfound
    have hrenew := concludes_renew (self.limited peer .token) draws self.tokenTtlSecs self.clock.val
      caller hsound
    rw [hrun]
    by_cases hkey : caller.identityPubkey = key
    · exact Or.inr ⟨⟨caller, hgrants, hkey⟩, hrenew.replaced (hkey ▸ hcaller) hmem hkey
        (fun t => Database.not_owns_revoke hmem hkey) Database.fresh_revoke⟩
    · have hforeign := Database.foreign_of_mem hmem hkey
      refine Or.inl ⟨?_, Or.inl ⟨?_, brings_of_other ?_⟩⟩
      · rintro ⟨caller', hgrants', hkey'⟩
        cases hgrants.symm.trans hgrants'
        exact hkey hkey'
      · rw [hrenew.db]
        exact hforeign.same_revoke.trans (Database.Foreign.same_createToken hforeign)
      · rw [hcaller]
        exact fun heq => hkey (Option.some.inj heq)
  · rw [Sorted, hafter, brings_of_failed hfailed]
    refine Or.inl ⟨?_, Or.inl ⟨Database.Same.refl key self.db, rfl⟩⟩
    rintro ⟨caller, hgrants, _⟩
    exact hno caller hgrants

/-- A registration that gets an address and an expiry ends as its insertion does. -/
theorem concludes_assign (self : Coordinator) (draws : Draws) (identity wg : Arr 32) {ttl : I64}
    {now expiresAt : ℤ} {ip : Ipv4Addr} (hsound : self.poisoned = false)
    (hip : self.ipAlloc.allocate.1 = some ip)
    (hvalue : I64.value (now + ttl.val) = some expiresAt) :
    Concludes draws ((assign ttl draws identity wg now).run handle self)
      (self.db.insertNode (enrolled draws identity wg ip now) draws.authToken ttl.val) := by
  have hinsert (s : Coordinator) :
      handle (.insertNode (enrolled draws identity wg ip now) draws.authToken ttl.val) s =
        s.locked fun db =>
          db.insertNode (enrolled draws identity wg ip now) draws.authToken ttl.val := rfl
  have hrun (k : Except Violation Unit → Handler Response) :=
    run_sound { self with ipAlloc := self.ipAlloc.allocate.2 } (hinsert _) hsound (k := k)
  have hassign := run_assign self ttl draws identity wg now
  rw [hip] at hassign
  dsimp only at hassign
  rw [insertAllocated, hvalue, Program.unwrap_some, Program.done_bind] at hassign
  rw [hassign.trans (hrun _)]
  rcases self.db.insertNode (enrolled draws identity wg ip now) draws.authToken ttl.val
    with ⟨_ | _ | _, db⟩
  · exact ⟨rfl, nofun, fun _ => nofun⟩
  · exact ⟨rfl, nofun, fun _ => nofun⟩
  · exact ⟨rfl, fun _ => ⟨_, rfl, rfl⟩, fun hno => absurd rfl hno⟩

/-- A registration that does not come to an insertion changes no row and has no response. -/
theorem run_assign_stopped (self : Coordinator) (draws : Draws) (identity wg : Arr 32) {ttl : I64}
    {now : ℤ} (h : ∀ ip, self.ipAlloc.allocate.1 = some ip →
      I64.value (now + ttl.val) = none ∨ self.poisoned = true) :
    ((assign ttl draws identity wg now).run handle self).2.db = self.db ∧
      ∀ response, ((assign ttl draws identity wg now).run handle self).1 ≠ .ok response := by
  rw [run_assign]
  cases hip : self.ipAlloc.allocate.1 with
  | none => exact ⟨rfl, nofun⟩
  | some ip =>
      dsimp only
      rw [insertAllocated]
      cases hvalue : I64.value (now + ttl.val) with
      | none => exact ⟨rfl, nofun⟩
      | some expiresAt =>
          have hpoisoned : self.poisoned = true := (h ip hip).resolve_left (hvalue ▸ nofun)
          have hhandle : handle
              (.insertNode (enrolled draws identity wg ip now) draws.authToken ttl.val)
              { self with ipAlloc := self.ipAlloc.allocate.2 } =
                (none, { self with ipAlloc := self.ipAlloc.allocate.2 }) :=
            locked_poisoned (f := fun db => db.insertNode _ draws.authToken ttl.val) hpoisoned
          simp only [Program.unwrap_some, Program.done_bind]
          have hrun (k : Except Violation Unit → Handler Response) :
              (Program.call (.insertNode (enrolled draws identity wg ip now) draws.authToken
                ttl.val) k).run handle { self with ipAlloc := self.ipAlloc.allocate.2 } =
              (.panic, { self with ipAlloc := self.ipAlloc.allocate.2 }) :=
            Program.run_call_panic hhandle
          exact ⟨congrArg (fun x => x.2.db) (hrun _), fun response hok =>
            nomatch (congrArg Prod.fst (hrun _)).symm.trans hok⟩

theorem replaces_register_iff {req : RegisterRequest} {identity wg : Arr 32} {ip : Ipv4Addr}
    (hadmits : self.Admits peer req identity wg) (hsound : self.poisoned = false)
    (hip : self.ipAlloc.allocate.1 = some ip)
    (hsome : (I64.value (self.clock.val + self.tokenTtlSecs.val)).isSome) :
    self.Replaces key draws (.register peer req) ↔ identity.val = key ∧
      NodeColumn.clashes self.db.nodes.rows
        (enrolled draws identity wg ip self.clock.val).inserted = [] := by
  constructor
  · rintro ⟨-, identity', wg', ip', hadmits', hkey', hip', -, hfree'⟩
    cases hadmits.identityPubkey.symm.trans hadmits'.identityPubkey
    cases hadmits.wgPubkey.symm.trans hadmits'.wgPubkey
    cases hip.symm.trans hip'
    exact ⟨hkey', hfree'⟩
  · rintro ⟨hkey, hfree⟩
    exact ⟨hsound, identity, wg, ip, hadmits, hkey, hip, hsome, hfree⟩

/-- A registration that comes to its insertion. -/
theorem sorted_assign {req : RegisterRequest} {identity wg : Arr 32} {ip : Ipv4Addr}
    {expiresAt : ℤ} (hadmits : self.Admits peer req identity wg) (hsound : self.poisoned = false)
    (hip : self.ipAlloc.allocate.1 = some ip)
    (hvalue : I64.value (self.clock.val + self.tokenTtlSecs.val) = some expiresAt) :
    self.Sorted key draws (.register peer req)
      ((assign self.tokenTtlSecs draws identity wg self.clock.val).run handle
        (self.limited peer .register)) := by
  have hrequest : self.tokenKey (.register peer req) = some identity.val := by
    rw [tokenKey, hadmits.identityPubkey]
    rfl
  have hassign := concludes_assign (self.limited peer .register) draws identity wg hsound hip hvalue
  have hsome := Option.isSome_iff_exists.2 ⟨expiresAt, hvalue⟩
  rw [Sorted, replaces_register_iff hadmits hsound hip hsome]
  by_cases hkey : identity.val = key
  · by_cases hfree : NodeColumn.clashes self.db.nodes.rows
        (enrolled draws identity wg ip self.clock.val).inserted = []
    · obtain ⟨made, hadd, hinsert⟩ := Database.insertNode_of_free hfree
      obtain ⟨hnodes, htokens⟩ := Database.rows_addNode hadd
      have hmem : (enrolled draws identity wg ip self.clock.val).inserted ∈ made.nodes.rows :=
        hnodes ▸ List.mem_append_right _ (List.mem_singleton_self _)
      have hreplaced := Concludes.replaced (hinsert _ _ ▸ hassign) (hkey ▸ hrequest) hmem hkey
        (fun t => Database.not_owns_addNode hadd hkey) (by rw [htokens])
      exact Or.inr ⟨⟨hkey, hfree⟩, hreplaced⟩
    · obtain ⟨e, hinsert⟩ := Database.insertNode_of_clash hfree
      have hdb := hassign.db.trans (congrArg Prod.snd (hinsert _ _))
      have hfailed := hassign.failed fun hok => by
        cases (congrArg Prod.fst (hinsert _ _)).symm.trans hok
      rw [hdb, brings_of_failed hfailed]
      exact Or.inl ⟨fun h => hfree h.2, Or.inl ⟨Database.Same.refl key self.db, rfl⟩⟩
  · refine Or.inl ⟨fun h => hkey h.1, Or.inl ⟨?_, brings_of_other ?_⟩⟩
    · rw [hassign.db]
      exact Database.same_insertNode hkey
    · rw [hrequest]
      exact fun heq => hkey (Option.some.inj heq)

theorem sorted_register {req : RegisterRequest} :
    self.Sorted key draws (.register peer req) (self.serve (.register peer req) draws) := by
  by_cases hadmits : ∃ identity wg, self.Admits peer req identity wg
  · obtain ⟨identity, wg, hadmits⟩ := hadmits
    rw [hadmits.serve]
    by_cases hgoes : self.poisoned = false ∧ (∃ ip, self.ipAlloc.allocate.1 = some ip) ∧
        (I64.value (self.clock.val + self.tokenTtlSecs.val)).isSome
    · obtain ⟨hsound, ⟨ip, hip⟩, hsome⟩ := hgoes
      obtain ⟨expiresAt, hvalue⟩ := Option.isSome_iff_exists.1 hsome
      exact sorted_assign hadmits hsound hip hvalue
    · have hstopped : ∀ ip, self.ipAlloc.allocate.1 = some ip →
          I64.value (self.clock.val + self.tokenTtlSecs.val) = none ∨ self.poisoned = true := by
        intro ip hip
        cases hvalue : I64.value (self.clock.val + self.tokenTtlSecs.val) with
        | none => exact Or.inl rfl
        | some expiresAt =>
            refine Or.inr (Bool.eq_true_of_not_eq_false fun hsound => ?_)
            exact hgoes ⟨hsound, ⟨ip, hip⟩, Option.isSome_iff_exists.2 ⟨expiresAt, hvalue⟩⟩
      obtain ⟨hdb, hfailed⟩ :=
        run_assign_stopped (self.limited peer .register) draws identity wg hstopped
      rw [Sorted, hdb, brings_of_failed hfailed]
      refine Or.inl ⟨?_, Or.inl ⟨Database.Same.refl key self.db, rfl⟩⟩
      rintro ⟨hsound, identity', wg', ip, -, -, hip, hvalue, -⟩
      exact hgoes ⟨hsound, ⟨ip, hip⟩, hvalue⟩
  · have hno (identity wg) : ¬ self.Admits peer req identity wg :=
      fun hadmits' => hadmits ⟨identity, wg, hadmits'⟩
    obtain ⟨hafter, hfailed⟩ := serve_refused hno draws
    rw [Sorted, hafter, brings_of_failed hfailed]
    exact Or.inl ⟨fun ⟨_, identity, wg, _, hadmits', _⟩ => hno identity wg hadmits',
      Or.inl ⟨Database.Same.refl key self.db, rfl⟩⟩

theorem sorted_serve (self : Coordinator) (key : Bytes) (draws : Draws) (request : Request) :
    self.Sorted key draws request (self.serve request draws) := by
  cases request with
  | register peer req => exact sorted_register
  | peers peer authorization => exact Or.inl ⟨id, spares_peers⟩
  | heartbeat peer authorization req => exact Or.inl ⟨id, spares_heartbeat⟩
  | refreshToken peer authorization req => exact sorted_refreshToken
  | deleteNode peer authorization req => exact Or.inl ⟨id, spares_deleteNode⟩

/-- While the key has a node, only its token replaces its tokens. -/
theorem Replaces.presents {request : Request} (h : self.Replaces key draws request)
    (hknown : self.db.Known key) : self.Presents key request := by
  cases request with
  | register peer req =>
      obtain ⟨-, identity, wg, ip, -, hkey, -, -, hfree⟩ := h
      obtain ⟨n, hn, hkey'⟩ := hknown
      exact absurd (hkey'.trans hkey.symm) (apart_of_clashes_nil hfree n hn .identityPubkey)
  | refreshToken peer authorization req =>
      obtain ⟨caller, hgrants, hkey⟩ := h
      obtain ⟨-, token, htoken, hfound⟩ := hgrants.caller
      exact ⟨token, htoken, caller, hfound, hkey⟩
  | _ => exact h.elim

end Coordinator

/-! ## Runs of a coordinator and a holder -/

/-- The coordinator, and the token of the last response that reached the holder of a key. -/
structure Holder where
  coord : Coordinator
  token : Option String

/-- A request, from anyone, with the random draws of its handler and whether the response arrives;
the passing of time; or a restart. -/
inductive Exchange where
  | serve (request : Request) (draws : Draws) (delivered : Bool)
  | wait (clock : Clock) (instant : Instant)
  | restart (tokenTtlSecs : I64)

namespace Holder

/-- One exchange. -/
def step (key : Bytes) (self : Holder) : Exchange → Option Holder
  | .serve request draws delivered => some {
      coord := (self.coord.serve request draws).2
      token := (if delivered then
        self.coord.brings key request (self.coord.serve request draws).1 else none).or self.token }
  | .wait clock instant => some { self with coord := { self.coord with clock, instant } }
  | .restart tokenTtlSecs => some { self with
      coord := .open self.coord.db tokenTtlSecs self.coord.clock self.coord.instant }

/-- The holder has a token that `get_node_by_token` accepts for its node. -/
def Holds (self : Holder) (key : Bytes) : Prop :=
  ∃ token ∈ self.token, self.coord.db.Accepts key self.coord.clock.val token

/-- The holder of the node's keys may send the request: it registers both keys, and every other
request presents the last token. -/
def MaySend (self : Holder) (n : NodeRecord) : Request → Prop
  | .register _ req => ∃ identity wg, decodePubkey req.identityPubkey = .ok identity ∧
      identity.val = n.identityPubkey ∧ decodePubkey req.wgPubkey = .ok wg ∧ wg.val = n.wgPubkey
  | request => ∀ token, extractBearer request.authorization = .ok token → self.token = some token

/-- What the holder of the node's keys can bring about: its requests, and the passing of time. -/
def Own (n : NodeRecord) (self : Holder) : Exchange → Prop
  | .serve request _ _ => self.MaySend n request
  | .wait clock _ => self.coord.clock.val ≤ clock.val
  | .restart _ => False

variable {self after : Holder} {key : Bytes} {n : NodeRecord}

omit [Profile] in
theorem MaySend.token {request : Request} {token : String} (h : self.MaySend n request)
    (htoken : extractBearer request.authorization = .ok token) : self.token = some token := by
  cases request with
  | register peer req => cases htoken
  | _ => exact h token htoken

omit [Profile] in
/-- A request that presents an accepted token is not sent by a holder that has none. -/
theorem MaySend.holds {request : Request} (h : self.MaySend n request)
    (hpresents : self.coord.Presents key request) : self.Holds key := by
  obtain ⟨token, htoken, haccepts⟩ := hpresents
  exact ⟨token, h.token htoken, haccepts⟩

omit [CoordCrates] [Profile] in
/-- A token that is refused stays refused. -/
theorem accepts_earlier {db : Database} {now later : ℤ} {token : String} (h : now ≤ later)
    (haccepts : db.Accepts key later token) : db.Accepts key now token := by
  obtain ⟨t, howns, htoken, hlive⟩ := Database.accepts_iff.1 haccepts
  exact Database.accepts_iff.2 ⟨t, howns, htoken, h.trans_lt hlive⟩

/-- What a request does to a holder, by what it does to the tokens of the key. -/
theorem serve_cases {request : Request} {draws : Draws} {delivered : Bool}
    (h : self.step key (.serve request draws delivered) = some after) :
    (¬ self.coord.Replaces key draws request ∧
        ((after.coord.db.Known key ↔ self.coord.db.Known key) ∧
            (after.Holds key ↔ self.Holds key) ∨
          ¬ after.coord.db.Known key ∧ self.coord.Presents key request)) ∨
      self.coord.Replaces key draws request ∧ after.coord.db.Known key ∧
        (after.Holds key ↔ (delivered = true ∨ self.token = some draws.authToken) ∧
          ∃ expiresAt, self.coord.Mints draws expiresAt ∧ self.coord.clock.val < expiresAt) := by
  cases h
  have hclock : (self.coord.serve request draws).2.clock = self.coord.clock :=
    (Coordinator.run_config _ _).2
  simp only [Holds, hclock]
  obtain ⟨hno, ⟨hsame, hbrings⟩ | ⟨hgone, hpresents⟩⟩ | ⟨hreplaces, hknown, hreplaced⟩ :=
    self.coord.sorted_serve key draws request
  · refine Or.inl ⟨hno, Or.inl ⟨hsame.1, ?_⟩⟩
    rw [hbrings, ite_self, Option.none_or]
    exact exists_congr fun token => and_congr_right fun _ => hsame.accepts
  · exact Or.inl ⟨hno, Or.inr ⟨hgone, hpresents⟩⟩
  · refine Or.inr ⟨hreplaces, hknown, ?_⟩
    obtain ⟨expiresAt, nodeId, hmints, hbrings, howns⟩ | ⟨hmints, -, hnone⟩ := hreplaced
    · -- the drawn token is the only one of the key
      have haccepts (token : String) : (self.coord.serve request draws).2.db.Accepts key
          self.coord.clock.val token ↔
            token = draws.authToken ∧ self.coord.clock.val < expiresAt := by
        rw [Database.accepts_iff]
        simp only [howns, exists_eq_left, eq_comm]
      have hexpires : (∃ e, self.coord.Mints draws e ∧ self.coord.clock.val < e) ↔
          self.coord.clock.val < expiresAt := by
        constructor
        · rintro ⟨e, hmints', hlive⟩
          cases hmints.2.symm.trans hmints'.2
          exact hlive
        · exact fun hlive => ⟨expiresAt, hmints, hlive⟩
      simp only [haccepts, hexpires, hbrings]
      cases delivered with
      | true => simp
      | false => simp
    · refine iff_of_false ?_ fun ⟨_, e, hmints', _⟩ => hmints ⟨e, hmints'⟩
      rintro ⟨token, -, haccepts⟩
      obtain ⟨t, howns, -⟩ := Database.accepts_iff.1 haccepts
      exact hnone t howns

/-- A holder without an accepted token, whose key has a node. -/
def Locked (key : Bytes) (self : Holder) : Prop :=
  self.coord.db.Known key ∧ ¬ self.Holds key

/-- Nothing that the holder does ends its lockout. -/
theorem Locked.own {exchange : Exchange} (h : self.Locked key) (hown : self.Own n exchange)
    (hstep : self.step key exchange = some after) : after.Locked key := by
  obtain ⟨hknown, hholds⟩ := h
  cases exchange with
  | serve request draws delivered =>
      have hsend : self.MaySend n request := hown
      obtain ⟨-, ⟨hknown', hholds'⟩ | ⟨-, hpresents⟩⟩ | ⟨hreplaces, -⟩ := serve_cases hstep
      · exact ⟨hknown'.2 hknown, fun hafter => hholds (hholds'.1 hafter)⟩
      · exact absurd (hsend.holds hpresents) hholds
      · exact absurd (hsend.holds (hreplaces.presents hknown)) hholds
  | wait clock instant =>
      cases hstep
      refine ⟨hknown, ?_⟩
      rintro ⟨token, htoken, haccepts⟩
      exact hholds ⟨token, htoken, accepts_earlier hown haccepts⟩
  | restart tokenTtlSecs => exact hown.elim

/-- The holder of a key before its first registration. -/
def start (tokenTtlSecs : I64) (clock : Clock) (instant : Instant) : Holder where
  coord := .open .empty tokenTtlSecs clock instant
  token := none

end Holder

end

/-! ## Holders that are locked out -/

namespace Parties

attribute [local instance] crates Symbolic.release

end Parties

end Naboscale.Coord
