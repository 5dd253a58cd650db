import Naboscale.Coord.State
import Naboscale.Crypto.Symbolic

/-!
# The writes of the coordinator, statement by statement

`insert_node`, `delete_node` and the two calls of `refresh_token` as programs of the SQL
statements that they send. The connection opens no transaction, so that every statement commits
on its own, and each may fail: by a constraint that it violates, or by an error of SQLite, which
the connection carries as the list of what it is going to report. `Coord.Database` has the same
functions for a connection that reports no error.
-/

namespace Naboscale.Coord

open Rust Concurrent

/-- `rusqlite::Error`: a violated constraint, `QueryReturnedNoRows`, or a failure of SQLite with its
result code. -/
inductive SqlError where
  | violation (violation : Violation)
  | noRows
  | failure (code : ℤ)
  deriving DecidableEq

/-- The statements. -/
inductive Statement where
  | insertNode (row : NodeRecord)
  | insertToken (row : TokenRecord)
  | revokeTokens (nodeId : String)
  | selectIp (nodeId : String)
  | deleteTokens (nodeId : String)
  | deleteNodes (nodeId : String)

namespace Database

/-- `DELETE FROM tokens WHERE node_id = ?`. -/
def deleteTokens (db : Database) (nodeId : String) : Database where
  nodes := db.nodes
  tokens := db.tokens.delete fun t => t.nodeId = nodeId
  owned := fun t ht => db.owned t (Table.mem_delete.1 ht).1

/-- `DELETE FROM nodes WHERE node_id = ?`: no token may be left that belongs to the node. -/
def deleteNodes (db : Database) (nodeId : String) : Except Violation Database :=
  if h : ∀ t ∈ db.tokens.rows, t.nodeId ≠ nodeId then
    .ok {
      nodes := db.nodes.delete fun n => n.nodeId = nodeId
      tokens := db.tokens
      owned := fun t ht =>
        let ⟨n, hn, hid⟩ := db.owned t ht
        ⟨n, Table.mem_delete.2 ⟨hn, decide_eq_false (hid ▸ h t ht)⟩, hid⟩ }
  else .error .foreignKey

variable {db : Database} {nodeId : String}

theorem mem_deleteTokens {t : TokenRecord} :
    t ∈ (db.deleteTokens nodeId).tokens.rows ↔ t ∈ db.tokens.rows ∧ t.nodeId ≠ nodeId := by
  rw [deleteTokens, Table.mem_delete, decide_eq_false_iff_not]

/-- The two deletions of `delete_node` drop the node. -/
theorem deleteNodes_deleteTokens :
    (db.deleteTokens nodeId).deleteNodes nodeId = .ok (db.dropNode nodeId) := by
  have hnone : ∀ t ∈ (db.deleteTokens nodeId).tokens.rows, t.nodeId ≠ nodeId :=
    fun t ht => (mem_deleteTokens.1 ht).2
  rw [deleteNodes, dif_pos hnone]
  rfl

end Database

namespace Statement

/-- What a statement returns: the number of rows for the update that is asked for it. -/
@[reducible] def Value : Statement → Type
  | revokeTokens _ => ℕ
  | selectIp _ => String
  | _ => Unit

/-- A statement that violates a constraint, or takes effect. -/
def written : Except Violation Database → Except SqlError (Unit × Database)
  | .error e => .error (.violation e)
  | .ok db => .ok ((), db)

/-- What SQLite does with a statement: nothing where it reports an error. -/
def effect : (stmt : Statement) → Database → Except SqlError (stmt.Value × Database)
  | insertNode row, db => written (db.addNode row)
  | insertToken row, db => written (db.addToken row)
  | revokeTokens nodeId, db => .ok (db.revokeAllTokensForNode nodeId)
  | selectIp nodeId, db =>
      match db.nodes.rows.find? fun n => n.nodeId = nodeId with
      | some n => .ok (n.ip, db)
      | none => .error .noRows
  | deleteTokens nodeId, db => .ok ((), db.deleteTokens nodeId)
  | deleteNodes nodeId, db => written (db.deleteNodes nodeId)

end Statement

/-- A connection: the database, and what SQLite is going to report of the next statements, with
none for one that it carries out. -/
structure Connection where
  db : Database
  faults : List (Option ℤ)

namespace Connection

/-- What SQLite reports of a statement. -/
def attempt (self : Connection) (stmt : Statement) : Except SqlError (stmt.Value × Database) :=
  match self.faults.head?.join with
  | some code => .error (.failure code)
  | none => stmt.effect self.db

/-- One statement: it changes nothing where it fails. -/
def execute : Semantics Statement (fun stmt => Except SqlError stmt.Value) Connection
  | stmt, self =>
      match self.attempt stmt with
      | .error e => (some (.error e), ⟨self.db, self.faults.tail⟩)
      | .ok (value, db) => (some (.ok value), ⟨db, self.faults.tail⟩)

end Connection

/-- Programs of statements. -/
abbrev Script := Program Statement (fun stmt => Except SqlError stmt.Value) SqlError

/-- A statement whose error is returned. -/
def Statement.execute (stmt : Statement) : Script stmt.Value := do
  let result ← .perform stmt
  .lift id result

/-! ## The functions -/

/-- `delete_node`: the query may fail, the deletions may not. -/
def deleteNodeScript (nodeId : String) : Script (Option String) := do
  let ip ← .perform (.selectIp nodeId)
  (Statement.deleteTokens nodeId).execute
  (Statement.deleteNodes nodeId).execute
  pure ip.toOption

/-- `revoke_all_tokens_for_node`. -/
def revokeAllTokensForNodeScript (nodeId : String) : Script ℕ :=
  (Statement.revokeTokens nodeId).execute

section Calls

variable [Profile]

/-- `create_token`. -/
def createTokenScript (nodeId token : String) (createdAt ttlSecs : ℤ) : Script Unit := do
  let expiresAt ← .unwrap (I64.value (createdAt + ttlSecs))
  (Statement.insertToken ⟨token, nodeId, createdAt, expiresAt, false⟩).execute

/-- `insert_node`. -/
def insertNodeScript (node : NodeRecord) (token : String) (ttlSecs : ℤ) : Script Unit := do
  (Statement.insertNode node.inserted).execute
  createTokenScript node.nodeId token node.createdAt ttlSecs

/-- The end of `refresh_token`: revoke, then create. -/
def replaceTokensScript (nodeId token : String) (now ttlSecs : ℤ) : Script Unit := do
  let _ ← revokeAllTokensForNodeScript nodeId
  createTokenScript nodeId token now ttlSecs

/-- The calls that send several statements. -/
inductive Write where
  | insertNode (node : NodeRecord) (token : String) (ttlSecs : ℤ)
  | deleteNode (nodeId : String)
  | replaceTokens (nodeId token : String) (now ttlSecs : ℤ)

namespace Write

/-- The statements of a call. -/
def script : Write → Script Unit
  | insertNode node token ttlSecs => insertNodeScript node token ttlSecs
  | deleteNode nodeId => do
      let _ ← deleteNodeScript nodeId
      pure ()
  | replaceTokens nodeId token now ttlSecs => replaceTokensScript nodeId token now ttlSecs

/-- The statements of a call that come before its first write. -/
def reads : Write → ℕ
  | deleteNode _ => 1
  | _ => 0

/-- The first write of a call. -/
def first : Write → Statement
  | insertNode node _ _ => .insertNode node.inserted
  | deleteNode nodeId => .deleteTokens nodeId
  | replaceTokens nodeId _ _ _ => .revokeTokens nodeId

/-- What the first write of a call alone does to the tables: a node without a token, a node whose
tokens are gone, a node whose tokens are all refused from then on. -/
def HalfDone (db after : Database) : Write → Prop
  | insertNode node _ _ =>
      after.nodes.rows = db.nodes.rows ++ [node.inserted] ∧
        after.tokens.rows = db.tokens.rows ∧ ∀ t ∈ after.tokens.rows, t.nodeId ≠ node.nodeId
  | deleteNode nodeId =>
      after.nodes.rows = db.nodes.rows ∧
        (∀ t, t ∈ after.tokens.rows ↔ t ∈ db.tokens.rows ∧ t.nodeId ≠ nodeId)
  | replaceTokens nodeId _ _ _ =>
      after.nodes.rows = db.nodes.rows ∧
        after.tokens.rows = db.tokens.rows.map (fun t =>
          if t.nodeId = nodeId then { t with revoked := true } else t) ∧
        ∀ t ∈ db.tokens.rows, t.nodeId = nodeId → ∀ now, after.getNodeByToken t.token now = none

end Write

/-! ## Statements that fail -/

section Failures

variable {stmt : Statement} {conn after : Connection} {e : SqlError} {α : Type}

omit [Profile] in
theorem Connection.execute_error (h : conn.attempt stmt = .error e) :
    Connection.execute stmt conn = (some (.error e), ⟨conn.db, conn.faults.tail⟩) := by
  rw [Connection.execute, h]

omit [Profile] in
theorem Connection.execute_ok {value : stmt.Value} {db : Database}
    (h : conn.attempt stmt = .ok (value, db)) :
    Connection.execute stmt conn = (some (.ok value), ⟨db, conn.faults.tail⟩) := by
  rw [Connection.execute, h]

omit [Profile] in
/-- A statement that succeeds has its effect. -/
theorem Connection.effect_of_attempt {result : stmt.Value × Database}
    (h : conn.attempt stmt = .ok result) : stmt.effect conn.db = .ok result := by
  unfold Connection.attempt at h
  split at h
  · cases h
  · exact h

omit [Profile] in
/-- A statement and then the rest: the rest runs where the statement succeeds. -/
theorem Statement.run_execute_bind (stmt : Statement) (f : stmt.Value → Script α)
    (conn : Connection) :
    (stmt.execute >>= f).run Connection.execute conn =
      match conn.attempt stmt with
      | .error e => (.err e, ⟨conn.db, conn.faults.tail⟩)
      | .ok (value, db) => (f value).run Connection.execute ⟨db, conn.faults.tail⟩ := by
  rw [Statement.execute, bind_assoc, Program.perform_bind]
  cases hstmt : conn.attempt stmt with
  | error e =>
      rw [Program.run_call (Connection.execute_error hstmt)]
      rfl
  | ok result =>
      rw [Program.run_call (Connection.execute_ok hstmt)]
      rfl

omit [Profile] in
/-- A script that ends with a statement has changed nothing where it fails. -/
theorem Statement.run_last_err {f : stmt.Value → Script α} (hf : ∀ value, ∃ a, f value = .done a)
    (h : (stmt.execute >>= f).run Connection.execute conn = (.err e, after)) :
    after.db = conn.db := by
  rw [Statement.run_execute_bind] at h
  split at h
  · cases h
    rfl
  · rename_i value db _
    obtain ⟨a, ha⟩ := hf value
    rw [ha] at h
    cases h

omit [Profile] in
/-- The query of `delete_node` changes nothing, and `.ok()` drops its error. -/
theorem Connection.run_selectIp (conn : Connection) (nodeId : String)
    (f : Except SqlError String → Script α) :
    ∃ ip, (Program.perform (.selectIp nodeId) >>= f).run Connection.execute conn =
      (f ip).run Connection.execute ⟨conn.db, conn.faults.tail⟩ := by
  cases hselect : conn.attempt (.selectIp nodeId) with
  | error e => exact ⟨.error e, Program.run_call (Connection.execute_error hselect)⟩
  | ok result =>
      have hkept : result.2 = conn.db := by
        have heffect := Connection.effect_of_attempt hselect
        simp only [Statement.effect] at heffect
        split at heffect
        · cases heffect
          rfl
        · cases heffect
      refine ⟨.ok result.1, (Program.run_call (Connection.execute_ok hselect)).trans ?_⟩
      rw [hkept]
      rfl

theorem run_createTokenScript_err {nodeId token : String} {createdAt ttlSecs : ℤ}
    (h : (createTokenScript nodeId token createdAt ttlSecs).run Connection.execute conn =
      (.err e, after)) : after.db = conn.db := by
  unfold createTokenScript at h
  cases hvalue : I64.value (createdAt + ttlSecs) with
  | none =>
      rw [hvalue] at h
      cases h
  | some expiresAt =>
      rw [hvalue, Program.unwrap_some, Program.done_bind, ← bind_pure (Statement.execute _)] at h
      exact Statement.run_last_err (fun value => ⟨value, rfl⟩) h

end Failures

/-! ## Without failures of SQLite -/

section Faultless

variable {db : Database} {nodeId token : String} {createdAt ttlSecs : ℤ}

/-- How a function of `Coord.Database` ends. -/
def exitOf : Option (Except Violation Unit) → Exit SqlError Unit
  | none => .panic
  | some (.error e) => .err (.violation e)
  | some (.ok ()) => .ok ()

theorem run_createTokenScript :
    (createTokenScript nodeId token createdAt ttlSecs).run Connection.execute ⟨db, []⟩ =
      (exitOf (db.createToken nodeId token createdAt ttlSecs).1,
        ⟨(db.createToken nodeId token createdAt ttlSecs).2, []⟩) := by
  unfold createTokenScript Database.createToken
  cases hvalue : I64.value (createdAt + ttlSecs) with
  | none => rfl
  | some expiresAt =>
      have hattempt : Connection.attempt ⟨db, []⟩
          (.insertToken ⟨token, nodeId, createdAt, expiresAt, false⟩) =
            Statement.written (db.addToken _) := rfl
      rw [Program.unwrap_some, Program.done_bind, ← bind_pure (Statement.execute _),
        Statement.run_execute_bind, hattempt]
      dsimp only
      cases db.addToken ⟨token, nodeId, createdAt, expiresAt, false⟩ <;> rfl

theorem run_insertNodeScript {node : NodeRecord} :
    (insertNodeScript node token ttlSecs).run Connection.execute ⟨db, []⟩ =
      (exitOf (db.insertNode node token ttlSecs).1,
        ⟨(db.insertNode node token ttlSecs).2, []⟩) := by
  unfold insertNodeScript Database.insertNode
  have hattempt : Connection.attempt ⟨db, []⟩ (.insertNode node.inserted) =
      Statement.written (db.addNode node.inserted) := rfl
  rw [Statement.run_execute_bind, hattempt]
  cases db.addNode node.inserted with
  | error e => rfl
  | ok made => exact run_createTokenScript

omit [Profile] in
theorem run_deleteNodeScript :
    (deleteNodeScript nodeId).run Connection.execute ⟨db, []⟩ =
      (.ok (db.deleteNode nodeId).1, ⟨(db.deleteNode nodeId).2, []⟩) := by
  have hrevoke : Connection.attempt ⟨db, []⟩ (.deleteTokens nodeId) =
      .ok ((), db.deleteTokens nodeId) := rfl
  have hdelete : Connection.attempt ⟨db.deleteTokens nodeId, []⟩ (.deleteNodes nodeId) =
      .ok ((), db.dropNode nodeId) :=
    congrArg Statement.written Database.deleteNodes_deleteTokens
  have hselect : Connection.execute (.selectIp nodeId) ⟨db, []⟩ =
      (some (match db.nodes.rows.find? fun n => n.nodeId = nodeId with
        | some n => .ok n.ip
        | none => .error .noRows), ⟨db, []⟩) := by
    simp only [Connection.execute, Connection.attempt, Statement.effect]
    cases db.nodes.rows.find? fun n => n.nodeId = nodeId <;> rfl
  rw [deleteNodeScript, Program.perform_bind, Program.run_call hselect,
    Statement.run_execute_bind, hrevoke, Database.deleteNode]
  dsimp only [List.tail_nil]
  rw [Statement.run_execute_bind, hdelete]
  cases db.nodes.rows.find? fun n => n.nodeId = nodeId <;> rfl

/-- The end of `refresh_token` is its two operations, one after the other. -/
theorem run_replaceTokensScript {now : ℤ} :
    (replaceTokensScript nodeId token now ttlSecs).run Connection.execute ⟨db, []⟩ =
      let revoked := (db.revokeAllTokensForNode nodeId).2
      (exitOf (revoked.createToken nodeId token now ttlSecs).1,
        ⟨(revoked.createToken nodeId token now ttlSecs).2, []⟩) := by
  unfold replaceTokensScript revokeAllTokensForNodeScript
  rw [Statement.run_execute_bind]
  exact run_createTokenScript

end Faultless

namespace Write

variable {db after : Database}

omit [Profile] in
/-- A node that is inserted had no token before. -/
theorem halfDone_insertNode {node : NodeRecord} {token : String} {ttlSecs : ℤ}
    (h : db.addNode node.inserted = .ok after) :
    (insertNode node token ttlSecs).HalfDone db after := by
  obtain ⟨hnodes, htokens⟩ := Database.rows_addNode h
  refine ⟨hnodes, congrArg Table.rows htokens, fun t ht hid => ?_⟩
  rw [htokens] at ht
  obtain ⟨n, hn, hnid⟩ := db.owned t ht
  exact Database.addNode_ok_iff.1 ⟨after, h⟩ n hn .nodeId (hnid.trans hid)

omit [Profile] in
theorem halfDone_deleteNode {nodeId : String} :
    (deleteNode nodeId).HalfDone db (db.deleteTokens nodeId) :=
  ⟨rfl, fun _ => Database.mem_deleteTokens⟩

omit [Profile] in
/-- A token of the node is refused once they are revoked: no other row has it. -/
theorem halfDone_replaceTokens {nodeId token : String} {now ttlSecs : ℤ} :
    (replaceTokens nodeId token now ttlSecs).HalfDone db (db.revokeAllTokensForNode nodeId).2 := by
  have hrows : (db.revokeAllTokensForNode nodeId).2.tokens.rows =
      db.tokens.rows.map fun t =>
        if t.nodeId = nodeId then { t with revoked := true } else t := by
    refine List.map_congr_left fun t _ => ?_
    rcases t with ⟨token, id, createdAt, expiresAt, revoked⟩
    cases revoked <;> simp
  refine ⟨rfl, hrows, fun t ht hid now => Database.getNodeByToken_eq_none.2 fun r hr htoken => ?_⟩
  rw [hrows] at hr
  obtain ⟨s, hs, rfl⟩ := List.mem_map.1 hr
  have hsame : s = t := by
    refine db.tokens.eq_of_not_apart hs ht fun hapart => hapart ?_
    rw [← htoken]
    split <;> rfl
  rw [hsame, if_pos hid]
  exact .inl rfl

omit [Profile] in
/-- A call whose first statement is its first write: what follows changes nothing where it
fails. -/
theorem failed_of_first {write : Write} {faults : List (Option ℤ)} {e : SqlError}
    {after : Connection} {rest : write.first.Value → Script Unit}
    (hrest : ∀ value conn after', (rest value).run Connection.execute conn = (.err e, after') →
      after'.db = conn.db)
    (hdone : ∀ value left, write.first.effect db = .ok (value, left) → write.HalfDone db left)
    (h : (write.first.execute >>= rest).run Connection.execute ⟨db, faults⟩ = (.err e, after)) :
    match Connection.attempt ⟨db, faults⟩ write.first with
    | .error e' => e = e' ∧ after.db = db
    | .ok (_, left) => after.db = left ∧ write.HalfDone db after.db := by
  rw [Statement.run_execute_bind] at h
  cases hfirst : Connection.attempt ⟨db, faults⟩ write.first with
  | error e' =>
      rw [hfirst] at h
      cases h
      exact ⟨rfl, rfl⟩
  | ok result =>
      rw [hfirst] at h
      have hkept : after.db = result.2 := hrest _ _ _ h
      exact ⟨hkept, hkept ▸ hdone _ _ (Connection.effect_of_attempt hfirst)⟩

/-- The calls do not open a transaction. One that returns an error leaves the tables as they were
where its first write failed, and with exactly that write done where a later statement did. -/
theorem failed_leaves (write : Write) (db : Database) (faults : List (Option ℤ)) (e : SqlError)
    (after : Connection)
    (h : write.script.run Connection.execute ⟨db, faults⟩ = (.err e, after)) :
    match Connection.attempt ⟨db, faults.drop write.reads⟩ write.first with
    | .error e' => e = e' ∧ after.db = db
    | .ok (_, left) => after.db = left ∧ write.HalfDone db after.db := by
  cases write with
  | insertNode node token ttlSecs =>
      refine failed_of_first (fun _ _ _ => run_createTokenScript_err) (fun _ left heffect => ?_) h
      replace heffect : Statement.written (db.addNode node.inserted) = .ok ((), left) := heffect
      cases hadd : db.addNode node.inserted with
      | error v =>
          rw [hadd] at heffect
          cases heffect
      | ok made =>
          rw [hadd] at heffect
          cases heffect
          exact halfDone_insertNode hadd
  | replaceTokens nodeId token now ttlSecs =>
      refine failed_of_first (fun _ _ _ => run_createTokenScript_err) (fun _ left heffect => ?_) h
      cases heffect
      exact halfDone_replaceTokens
  | deleteNode nodeId =>
      rw [script, deleteNodeScript, bind_assoc] at h
      obtain ⟨ip, hrun⟩ := Connection.run_selectIp ⟨db, faults⟩ nodeId fun ip =>
        (do
          (Statement.deleteTokens nodeId).execute
          (Statement.deleteNodes nodeId).execute
          pure ip.toOption : Script (Option String)) >>= fun _ => pure ()
      rw [hrun, bind_assoc, ← List.drop_one] at h
      refine failed_of_first (fun _ conn after' hrest => ?_) (fun _ left heffect => ?_) h
      · rw [bind_assoc] at hrest
        exact Statement.run_last_err (fun _ => ⟨(), rfl⟩) hrest
      · cases heffect
        exact halfDone_deleteNode

end Write

end Calls

namespace Write

section Symbolic

attribute [local instance] Symbolic.release

/-- A node. -/
def laptop : NodeRecord := ⟨"laptop", [1], [2], "100.64.0.1", none, none, none, 0⟩

/-- The database after the node was inserted. -/
def registered : Database := (Database.empty.insertNode laptop "token" 60).2

/-- The call returns an error and leaves a changed database. -/
def Spoils (write : Write) (db : Database) (faults : List (Option ℤ)) : Prop :=
  ∃ e after, write.script.run Connection.execute ⟨db, faults⟩ = (.err e, after) ∧ after.db ≠ db

/-- Whether the call returns an error and has changed rows. -/
def spoils (write : Write) (db : Database) (faults : List (Option ℤ)) : Bool :=
  match write.script.run Connection.execute ⟨db, faults⟩ with
  | (.err _, after) =>
      !decide (after.db.nodes.rows = db.nodes.rows ∧ after.db.tokens.rows = db.tokens.rows)
  | _ => false

theorem spoils_of_check {write : Write} {db : Database} {faults : List (Option ℤ)}
    (h : spoils write db faults = true) : write.Spoils db faults := by
  simp only [spoils] at h
  split at h
  · rename_i hrun
    refine ⟨_, _, hrun, fun hsame => ?_⟩
    rw [hsame, decide_eq_true ⟨rfl, rfl⟩] at h
    cases h
  · cases h

/-- The last statement of each call finds the disk full, and its first write stays behind. -/
theorem halfway_on_full_disk :
    (insertNode laptop "token" 60).Spoils .empty [none, some 13] ∧
      (deleteNode "laptop").Spoils registered [none, none, some 13] ∧
      (replaceTokens "laptop" "other" 30 60).Spoils registered [none, some 13] :=
  ⟨spoils_of_check (by decide +kernel), spoils_of_check (by decide +kernel),
    spoils_of_check (by decide +kernel)⟩

/-- A registration that finds the disk full leaves a node without a token. -/
theorem failed_registration :
    ∃ e after, (insertNode laptop "token" 60).script.run Connection.execute
        ⟨.empty, [none, some 13]⟩ = (.err e, after) ∧
      (insertNode laptop "token" 60).HalfDone .empty after.db := by
  obtain ⟨e, after, hrun, -⟩ : (insertNode laptop "token" 60).Spoils .empty [none, some 13] :=
    spoils_of_check (by decide +kernel)
  exact ⟨e, after, hrun, (failed_leaves _ _ _ _ _ hrun).2⟩

end Symbolic

end Write

end Naboscale.Coord
