import Naboscale.Concurrent
import Naboscale.Coord.IpAllocator
import Naboscale.Coord.RateLimit

/-!
# The state of the coordinator

What the handlers share: the database behind its mutex, the address pool, the rate limiter, and
the clocks that they read. Each operation on it holds one lock and is one atomic step.
-/

namespace Naboscale.Coord

open Rust Concurrent

/-- What the coordinator uses of `ed25519-dalek` and `base64`. -/
class CoordCrates where
  VerifyingKey : Type
  keyFromBytes : Arr 32 → Option VerifyingKey
  verify : VerifyingKey → Bytes → Arr 64 → Bool
  DecodeError : Type
  base64Encode : Bytes → String
  base64Decode : String → Except DecodeError Bytes

/-- What `Error::InvalidRequest` says: `invalid signature length`, or
`via_relay {r:?} is not a valid ip:port`. -/
inductive RequestFault where
  | signatureLength
  | viaRelay (relay : String)

/-- `Error`, as far as the handlers return it. -/
inductive Error [CoordCrates] where
  | database (violation : Violation)
  | ipPoolExhausted
  | invalidSignature
  | invalidTimestamp (seconds : ℤ)
  | invalidPubkey
  | invalidAuthToken
  | rateLimited (secs : ℕ)
  | invalidRequest (fault : RequestFault)
  | base64 (error : CoordCrates.DecodeError)

/-- Seconds since the epoch as an `i64`. -/
abbrev Clock := {t : ℤ // 0 ≤ t ∧ t < 2 ^ 63}

/-- `AppState` and the clocks. A panic under the lock of the database poisons it. -/
structure Coordinator where
  db : Database
  poisoned : Bool
  ipAlloc : IpAllocator
  rateLimiter : RateLimiter
  tokenTtlSecs : I64
  clock : Clock
  instant : Instant

/-- The atomic operations of the handlers. -/
inductive Op where
  | checkRateLimit (peer : IpAddr) (bucket : Bucket)
  | currentTimestamp
  | allocate
  | release (ip : Ipv4Addr)
  | insertNode (node : NodeRecord) (token : String) (ttlSecs : ℤ)
  | getNodeByToken (token : String) (now : ℤ)
  | listPeers (excludeNodeId : Option String)
  | updateHeartbeat (nodeId endpoint : String) (viaRelay : Option String) (lastSeen : ℤ)
  | revokeAllTokensForNode (nodeId : String)
  | createToken (nodeId token : String) (createdAt ttlSecs : ℤ)
  | deleteNode (nodeId : String)

/-- The result of an operation. -/
@[reducible] def Op.Result : Op → Type
  | checkRateLimit _ _ => Except ℕ Unit
  | currentTimestamp => Clock
  | allocate => Option Ipv4Addr
  | release _ => Unit
  | insertNode _ _ _ => Except Violation Unit
  | getNodeByToken _ _ => Option NodeRecord
  | listPeers _ => List NodeRecord
  | updateHeartbeat _ _ _ _ => Unit
  | revokeAllTokensForNode _ => ℕ
  | createToken _ _ _ _ => Except Violation Unit
  | deleteNode _ => Option String

/-- The operation makes a token at a time and with a TTL. -/
def Op.Makes (token : String) (createdAt ttlSecs : ℤ) : Op → Prop
  | insertNode node token' ttlSecs' =>
      token' = token ∧ node.createdAt = createdAt ∧ ttlSecs' = ttlSecs
  | createToken _ token' createdAt' ttlSecs' =>
      token' = token ∧ createdAt' = createdAt ∧ ttlSecs' = ttlSecs
  | _ => False

/-- What may become of a row of `tokens` in one operation, short of deletion. -/
def TokenRecord.Becomes (row row' : TokenRecord) : Prop :=
  row' = row ∨ row' = { row with revoked := true }

/-- The rows of `nodes` after an operation under a sound lock. -/
def Op.rows (rows : List NodeRecord) : Op → List NodeRecord
  | insertNode node _ _ =>
      if NodeColumn.clashes rows node.inserted = [] then rows ++ [node.inserted] else rows
  | updateHeartbeat nodeId endpoint viaRelay lastSeen =>
      rows.map fun n =>
        if n.nodeId = nodeId then
          { n with
            lastEndpoint := some endpoint
            viaRelay := viaRelay.or n.viaRelay
            lastSeen := some lastSeen }
        else n
  | deleteNode nodeId => rows.filter fun n => !decide (n.nodeId = nodeId)
  | _ => rows

namespace Coordinator

/-- `AppState::open` on a database with the current schema. -/
def «open» (db : Database) (tokenTtlSecs : I64) (clock : Clock) (instant : Instant) :
    Coordinator where
  db := db.initSchema
  poisoned := false
  ipAlloc := .new db.initSchema
  rateLimiter := .new
  tokenTtlSecs := tokenTtlSecs
  clock := clock
  instant := instant

/-- A function of `db.rs` under the lock of the database. -/
def locked {α : Type} (self : Coordinator) (f : Database → Option α × Database) :
    Option α × Coordinator :=
  if self.poisoned then (none, self)
  else
    let (result, db) := f self.db
    (result, { self with db, poisoned := result.isNone })

variable [Profile]

/-- What an operation does to the state. -/
def handle : Semantics Op Op.Result Coordinator
  | .checkRateLimit peer bucket, self =>
      let (result, rateLimiter) := self.rateLimiter.check self.instant peer bucket
      (some result, { self with rateLimiter })
  | .currentTimestamp, self => (some self.clock, self)
  | .allocate, self =>
      let (result, ipAlloc) := self.ipAlloc.allocate
      (some result, { self with ipAlloc })
  | .release ip, self => (some (), { self with ipAlloc := self.ipAlloc.release ip })
  | .insertNode node token ttlSecs, self => self.locked fun db => db.insertNode node token ttlSecs
  | .getNodeByToken token now, self =>
      self.locked fun db => (some (db.getNodeByToken token now), db)
  | .listPeers excludeNodeId, self => self.locked fun db => (some (db.listPeers excludeNodeId), db)
  | .updateHeartbeat nodeId endpoint viaRelay lastSeen, self =>
      self.locked fun db => (some (), db.updateHeartbeat nodeId endpoint viaRelay lastSeen)
  | .revokeAllTokensForNode nodeId, self =>
      self.locked fun db => (db.revokeAllTokensForNode nodeId).map some id
  | .createToken nodeId token createdAt ttlSecs, self =>
      self.locked fun db => db.createToken nodeId token createdAt ttlSecs
  | .deleteNode nodeId, self => self.locked fun db => (db.deleteNode nodeId).map some id

/-! ## What the operations leave alone -/

variable {self : Coordinator} {α : Type} {f : Database → Option α × Database}

omit [Profile] in
theorem locked_poisoned (h : self.poisoned = true) : self.locked f = (none, self) := if_pos h

omit [Profile] in
theorem locked_eq (h : self.poisoned = false) :
    self.locked f =
      ((f self.db).1, { self with db := (f self.db).2, poisoned := (f self.db).1.isNone }) := by
  rw [locked, if_neg (h ▸ Bool.false_ne_true)]

omit [Profile] in
/-- A function that does not panic under the lock leaves it sound. -/
theorem locked_some {r : α} {db : Database} (h : self.poisoned = false)
    (hf : f self.db = (some r, db)) :
    self.locked f = (some r, { self with db, poisoned := false }) := by
  rw [locked_eq h, hf]
  rfl

omit [Profile] in
/-- A function that returns found the lock sound. -/
theorem locked_inv {after : Coordinator} {r : α} (h : self.locked f = (some r, after)) :
    self.poisoned = false ∧ (f self.db).1 = some r ∧
      after = { self with db := (f self.db).2, poisoned := false } := by
  cases hpoisoned : self.poisoned with
  | true => cases (locked_poisoned hpoisoned).symm.trans h
  | false =>
      have heq := (locked_eq hpoisoned).symm.trans h
      have hresult : (f self.db).1 = some r := congrArg Prod.fst heq
      have hafter := congrArg Prod.snd heq
      dsimp only at hafter
      rw [hresult] at hafter
      exact ⟨rfl, hresult, hafter.symm⟩

omit [Profile] in
/-- A function under the lock reaches only the database and its lock. -/
theorem locked_snd :
    (self.locked f).2 = self ∨ ∃ poisoned,
      (self.locked f).2 = { self with db := (f self.db).2, poisoned := poisoned } := by
  cases h : self.poisoned with
  | true => exact .inl (congrArg Prod.snd (locked_poisoned h))
  | false => exact .inr ⟨_, congrArg Prod.snd (locked_eq h)⟩

/-- No operation changes the TTL or the clock. -/
theorem handle_config (op : Op) (self : Coordinator) :
    (handle op self).2.tokenTtlSecs = self.tokenTtlSecs ∧ (handle op self).2.clock = self.clock := by
  have hlocked {α : Type} (f : Database → Option α × Database) :
      (self.locked f).2.tokenTtlSecs = self.tokenTtlSecs ∧
        (self.locked f).2.clock = self.clock := by
    obtain h | ⟨_, h⟩ := self.locked_snd (f := f) <;> rw [h] <;> exact ⟨rfl, rfl⟩
  cases op with
  | checkRateLimit | currentTimestamp | allocate | release => exact ⟨rfl, rfl⟩
  | _ => exact hlocked _

/-- An operation changes the rows of `nodes` under a sound lock only. -/
theorem handle_rows (op : Op) (self : Coordinator) :
    (handle op self).2.db.nodes.rows =
      if self.poisoned then self.db.nodes.rows else op.rows self.db.nodes.rows := by
  have hlocked {α : Type} {f : Database → Option α × Database}
      (hf : (f self.db).2.nodes.rows = op.rows self.db.nodes.rows) :
      (self.locked f).2.db.nodes.rows =
        if self.poisoned then self.db.nodes.rows else op.rows self.db.nodes.rows := by
    cases hpoisoned : self.poisoned with
    | true => rw [locked_poisoned hpoisoned, if_pos rfl]
    | false =>
        rw [locked_eq hpoisoned, if_neg Bool.false_ne_true]
        exact hf
  cases op with
  | checkRateLimit | currentTimestamp | allocate | release => exact (ite_self _).symm
  | getNodeByToken | listPeers | revokeAllTokensForNode | updateHeartbeat | deleteNode =>
      exact hlocked rfl
  | createToken => exact hlocked (congrArg Table.rows Database.nodes_createToken)
  | insertNode node token ttlSecs =>
      refine hlocked (Database.nodes_insertNode.trans ?_)
      rw [Op.rows]
      cases hadd : self.db.addNode node.inserted with
      | error e =>
          rw [Database.addNode] at hadd
          split at hadd
          · cases hadd
          · rw [if_neg ‹_›]
      | ok db =>
          rw [Database.addNode] at hadd
          split at hadd
          · rw [if_pos ‹_›]
          · cases hadd

/-- Only `allocate` and `release` change the addresses in use. -/
theorem handle_ipAlloc {op : Op} (halloc : op ≠ .allocate) (hrelease : ∀ ip, op ≠ .release ip) :
    (handle op self).2.ipAlloc = self.ipAlloc := by
  have hlocked {α : Type} (f : Database → Option α × Database) :
      (self.locked f).2.ipAlloc = self.ipAlloc := by
    obtain h | ⟨_, h⟩ := self.locked_snd (f := f) <;> rw [h]
  cases op with
  | allocate => exact absurd rfl halloc
  | release ip => exact absurd rfl (hrelease ip)
  | checkRateLimit | currentTimestamp => rfl
  | _ => exact hlocked _

/-- Only an insertion and a deletion change the addresses that are stored. -/
theorem handle_ips {op : Op} (hinsert : ∀ node token ttlSecs, op ≠ .insertNode node token ttlSecs)
    (hdelete : ∀ nodeId, op ≠ .deleteNode nodeId) :
    (handle op self).2.db.ips = self.db.ips := by
  have hlocked {α : Type} {f : Database → Option α × Database} (hf : (f self.db).2.ips = self.db.ips) :
      (self.locked f).2.db.ips = self.db.ips := by
    obtain h | ⟨_, h⟩ := self.locked_snd (f := f) <;> rw [h]
    exact hf
  cases op with
  | insertNode node token ttlSecs => exact absurd rfl (hinsert node token ttlSecs)
  | deleteNode nodeId => exact absurd rfl (hdelete nodeId)
  | checkRateLimit | currentTimestamp | allocate | release => rfl
  | getNodeByToken | listPeers | revokeAllTokensForNode => exact hlocked rfl
  | updateHeartbeat => exact hlocked Database.ips_updateHeartbeat
  | createToken => exact hlocked (by rw [Database.ips, Database.nodes_createToken, Database.ips])

/-- An insertion leaves the stored addresses alone or adds the one of the node. -/
theorem ips_handle_insertNode (self : Coordinator) (node : NodeRecord) (token : String)
    (ttlSecs : ℤ) :
    (handle (.insertNode node token ttlSecs) self).2.db.ips = self.db.ips ∨
      (handle (.insertNode node token ttlSecs) self).2.db.ips = self.db.ips ++ [node.ip] := by
  obtain h | ⟨_, h⟩ := self.locked_snd (f := fun db => db.insertNode node token ttlSecs)
  · exact .inl (congrArg (fun s => s.db.ips) h)
  · obtain ⟨columns, -, hinsert⟩ | ⟨-, hinsert⟩ :=
      @Database.ips_insertNode _ self.db node token ttlSecs
    · refine .inl ((congrArg (fun s => s.db.ips) h).trans ?_)
      exact congrArg (fun x => x.2.ips) hinsert
    · exact .inr ((congrArg (fun s => s.db.ips) h).trans hinsert)

/-- A row of `tokens` after an operation was there before, possibly active, or is the one that the
operation makes. -/
theorem mem_tokens_handle {op : Op} {row : TokenRecord}
    (h : row ∈ (handle op self).2.db.tokens.rows) :
    (∃ before ∈ self.db.tokens.rows, before.Becomes row) ∨
      ∃ createdAt ttlSecs, op.Makes row.token createdAt ttlSecs ∧
        I64.value (createdAt + ttlSecs) = some row.expiresAt := by
  have hkept (hmem : row ∈ self.db.tokens.rows) :
      (∃ before ∈ self.db.tokens.rows, before.Becomes row) ∨
        ∃ createdAt ttlSecs, op.Makes row.token createdAt ttlSecs ∧
          I64.value (createdAt + ttlSecs) = some row.expiresAt := .inl ⟨row, hmem, .inl rfl⟩
  have hlocked {α : Type} (f : Database → Option α × Database)
      (hmem : row ∈ (self.locked f).2.db.tokens.rows) :
      row ∈ self.db.tokens.rows ∨ row ∈ (f self.db).2.tokens.rows := by
    obtain heq | ⟨_, heq⟩ := self.locked_snd (f := f) <;> rw [heq] at hmem
    · exact .inl hmem
    · exact .inr hmem
  cases op with
  | checkRateLimit | currentTimestamp | allocate | release => exact hkept h
  | getNodeByToken | listPeers | updateHeartbeat =>
      obtain hmem | hmem := hlocked _ h <;> exact hkept hmem
  | insertNode node token ttlSecs =>
      obtain hmem | hmem := hlocked _ h
      · exact hkept hmem
      · obtain hmem | ⟨expiresAt, hvalue, rfl⟩ := Database.mem_insertNode hmem
        · exact hkept hmem
        · exact .inr ⟨node.createdAt, ttlSecs, ⟨rfl, rfl, rfl⟩, hvalue⟩
  | createToken nodeId token createdAt ttlSecs =>
      obtain hmem | hmem := hlocked _ h
      · exact hkept hmem
      · obtain hmem | ⟨expiresAt, hvalue, rfl⟩ := Database.mem_createToken hmem
        · exact hkept hmem
        · exact .inr ⟨createdAt, ttlSecs, ⟨rfl, rfl, rfl⟩, hvalue⟩
  | revokeAllTokensForNode nodeId =>
      obtain hmem | hmem := hlocked _ h
      · exact hkept hmem
      · obtain ⟨before, hbefore, rfl⟩ := List.mem_map.1 hmem
        refine .inl ⟨before, hbefore, ?_⟩
        split
        · exact .inr rfl
        · exact .inl rfl
  | deleteNode nodeId =>
      obtain hmem | hmem := hlocked _ h
      · exact hkept hmem
      · exact hkept (Table.mem_delete.1 hmem).1

/-- An insertion that fails on columns of `nodes` fails on those in which the node clashes. -/
theorem handle_insertNode_violation {node : NodeRecord} {token : String} {ttlSecs : ℤ}
    {columns : List NodeColumn}
    (h : (handle (.insertNode node token ttlSecs) self).1 = some (.error (.nodes columns))) :
    columns = NodeColumn.clashes self.db.nodes.rows node.inserted := by
  cases hpoisoned : self.poisoned with
  | true =>
      have hnone := locked_poisoned (f := fun db => db.insertNode node token ttlSecs) hpoisoned
      exact nomatch h.symm.trans (congrArg Prod.fst hnone)
  | false =>
      have hlocked := locked_eq (f := fun db => db.insertNode node token ttlSecs) hpoisoned
      exact Database.insertNode_violation ((congrArg Prod.fst hlocked).symm.trans h)

end Coordinator

end Naboscale.Coord
