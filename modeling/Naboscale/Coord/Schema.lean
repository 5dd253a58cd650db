import Naboscale.Upgrade
import Naboscale.Coord.State

/-!
# Databases of older versions

`init_schema` creates the tables, adds the columns that an older database lacks and fills in when its
tokens expire, one statement at a time. A database of any version is upgraded to the one that the
coordinator works on, also where it was opened before and did not come to the end of the statements.
-/

namespace Naboscale.Coord

open Rust

/-! ## Tables as they are stored -/

/-- A value of SQLite. -/
inductive Value where
  | null
  | integer (n : ℤ)
  | text (text : String)
  | blob (bytes : Bytes)
  deriving DecidableEq

/-- A row: the values of its columns. -/
abbrev Row := List (String × Value)

/-- A table with its columns, whose rows have a value for each. -/
structure Sheet where
  columns : List String
  rows : List Row

/-- The tables of the database. -/
inductive TableName where
  | nodes
  | tokens
  deriving DecidableEq

/-- A database file: the tables that it has. -/
abbrev DatabaseFile := TableName → Option Sheet

namespace Sheet

/-- `CREATE TABLE IF NOT EXISTS`. -/
def create (columns : List String) (sheet : Option Sheet) : Option Sheet :=
  some (sheet.getD ⟨columns, []⟩)

end Sheet

/-- A row with another value of a column. -/
def Row.set (name : String) (v : Value) (row : Row) : Row :=
  row.map fun entry => if entry.1 = name then (name, v) else entry

/-- `created_at + DEFAULT_TOKEN_TTL_SECS` where `expires_at` is zero. -/
def Row.backfill (row : Row) : Row :=
  match row.lookup "created_at" with
  | some (.integer createdAt) =>
      if row.lookup "expires_at" = some (.integer 0) then
        row.set "expires_at" (.integer (createdAt + Database.defaultTokenTtlSecs))
      else row
  | _ => row

/-! ## Rows as they are read -/

/-- `FromSql`: the value of a column at a type; a value of another type is an error. -/
class FromSql (α : Type) where
  fromSql : Value → Option α

instance : FromSql String where
  fromSql
    | .text text => some text
    | _ => none

instance : FromSql Bytes where
  fromSql
    | .blob bytes => some bytes
    | _ => none

instance : FromSql ℤ where
  fromSql
    | .integer n => some n
    | _ => none

instance {α : Type} [FromSql α] : FromSql (Option α) where
  fromSql
    | .null => some none
    | v => (FromSql.fromSql v).map some

/-- `Row::get`. -/
def Row.get {α : Type} [FromSql α] (row : Row) (name : String) : Option α :=
  (row.lookup name).bind FromSql.fromSql

/-- `row_to_node`. -/
def rowToNode (row : Row) : Option NodeRecord := do
  let nodeId ← row.get "node_id"
  let identityPubkey ← row.get "identity_pubkey"
  let wgPubkey ← row.get "wg_pubkey"
  let ip ← row.get "ip"
  let lastEndpoint ← row.get "last_endpoint"
  let viaRelay ← row.get "via_relay"
  let lastSeen ← row.get "last_seen"
  let createdAt ← row.get "created_at"
  return { nodeId, identityPubkey, wgPubkey, ip, lastEndpoint, viaRelay, lastSeen, createdAt }

/-- The row of a token as `get_token` reads it. -/
def rowToToken (row : Row) : Option TokenRecord := do
  let token ← row.get "token"
  let nodeId ← row.get "node_id"
  let createdAt ← row.get "created_at"
  let expiresAt ← row.get "expires_at"
  let revoked : ℤ ← row.get "revoked"
  return { token, nodeId, createdAt, expiresAt, revoked := revoked ≠ 0 }

/-- `SELECT` of columns: it fails where the table or one of the columns is missing. -/
def DatabaseFile.select {α : Type} (file : DatabaseFile) (name : TableName) (columns : List String)
    (rowTo : Row → Option α) : Option (List α) :=
  (file name).bind fun sheet =>
    if columns.all (· ∈ sheet.columns) then sheet.rows.mapM rowTo else none

/-- `UPDATE tokens SET expires_at`. -/
def Sheet.backfill (sheet : Sheet) : Sheet := { sheet with rows := sheet.rows.map Row.backfill }

/-! ## The statements -/

/-- The columns of `nodes`. -/
def nodeColumns : List String :=
  ["node_id", "identity_pubkey", "wg_pubkey", "ip", "last_endpoint", "via_relay", "last_seen",
    "created_at"]

/-- The columns of `tokens`. -/
def tokenColumns : List String := ["token", "node_id", "created_at", "expires_at", "revoked"]

namespace Sheet

variable {columns : List String} {sheet : Sheet} {name : String} {default : Value}

end Sheet

namespace Row

variable {row : Row} {name other : String} {v : Value}

theorem lookup_set_same {w : Value} (h : row.lookup name = some w) :
    (row.set name v).lookup name = some v := by
  induction row with
  | nil => cases h
  | cons entry rest ih =>
      rw [set, List.map_cons]
      by_cases hentry : entry.1 = name
      · rw [if_pos hentry, List.lookup_cons_self]
      · rw [List.lookup_cons, beq_false_of_ne (Ne.symm hentry)] at h
        rw [if_neg hentry, List.lookup_cons, beq_false_of_ne (Ne.symm hentry)]
        exact ih h

theorem lookup_set_of_ne (h : other ≠ name) : (row.set name v).lookup other = row.lookup other := by
  induction row with
  | nil => rfl
  | cons entry rest ih =>
      rw [set, List.map_cons]
      by_cases hentry : entry.1 = name
      · have hother : other ≠ entry.1 := fun heq => h (heq.trans hentry)
        rw [if_pos hentry, List.lookup_cons, List.lookup_cons, beq_false_of_ne h,
          beq_false_of_ne hother]
        exact ih
      · rw [if_neg hentry, List.lookup_cons, List.lookup_cons]
        cases other == entry.1 with
        | true => rfl
        | false => exact ih

theorem set_set : (row.set name v).set name v = row.set name v := by
  rw [set, set, List.map_map]
  refine List.map_congr_left fun entry _ => ?_
  rw [Function.comp_apply]
  split <;> simp_all

theorem map_fst_set : (row.set name v).map Prod.fst = row.map Prod.fst := by
  rw [set, List.map_map]
  refine List.map_congr_left fun entry _ => ?_
  rw [Function.comp_apply]
  split
  · exact Eq.symm ‹_›
  · rfl

theorem backfill_of_expiry {createdAt expiresAt : ℤ}
    (hcreated : row.lookup "created_at" = some (.integer createdAt))
    (hexpires : row.lookup "expires_at" = some (.integer expiresAt)) :
    row.backfill = if expiresAt = 0 then
      row.set "expires_at" (.integer (createdAt + Database.defaultTokenTtlSecs)) else row := by
  rw [backfill, hcreated]
  simp only [hexpires, Option.some.injEq, Value.integer.injEq]

end Row

/-- The columns of `nodes` that an older database may lack, with what its rows have in them. -/
def nodeDefaults : Row := [("via_relay", .null)]

/-- The columns of `tokens` that an older database may lack, with what its rows have in them. -/
def tokenDefaults : Row := [("expires_at", .integer 0), ("revoked", .integer 0)]

/-- The row of a node with all its columns. -/
def NodeRecord.row (n : NodeRecord) : Row :=
  [("node_id", .text n.nodeId), ("identity_pubkey", .blob n.identityPubkey),
    ("wg_pubkey", .blob n.wgPubkey), ("ip", .text n.ip),
    ("last_endpoint", n.lastEndpoint.elim .null .text), ("via_relay", n.viaRelay.elim .null .text),
    ("last_seen", n.lastSeen.elim .null .integer), ("created_at", .integer n.createdAt)]

/-- The row of a token with all its columns. -/
def TokenRecord.row (t : TokenRecord) : Row :=
  [("token", .text t.token), ("node_id", .text t.nodeId), ("created_at", .integer t.createdAt),
    ("expires_at", .integer t.expiresAt), ("revoked", .integer (if t.revoked then 1 else 0))]

/-- A row with some columns stores a row: what it has no column for is the default. -/
structure Row.Stores (row full : Row) (stored columns : List String) (defaults : Row) : Prop where
  names : row.map Prod.fst = stored
  values : ∀ name ∈ columns, (row ++ defaults).lookup name = full.lookup name

/-- A table stores rows; the columns that it lacks have defaults. -/
structure Sheet.Stores (columns : List String) (defaults : Row) (sheet : Sheet) (rows : List Row) :
    Prop where
  missing : ∀ name ∈ columns, name ∉ sheet.columns → name ∈ defaults.map Prod.fst
  rows : List.Forall₂ (fun row full : Row => row.Stores full sheet.columns columns defaults)
    sheet.rows rows

/-- The file of some version holds the database; a table that is not there has no rows. -/
structure DatabaseFile.Holds (file : DatabaseFile) (db : Database) : Prop where
  nodes : ((file .nodes).getD ⟨nodeColumns, []⟩).Stores nodeColumns nodeDefaults
    (db.nodes.rows.map NodeRecord.row)
  tokens : ((file .tokens).getD ⟨tokenColumns, []⟩).Stores tokenColumns tokenDefaults
    (db.tokens.rows.map TokenRecord.row)

/-- The statements of the coordinator read the database from the file. -/
structure DatabaseFile.Reads (file : DatabaseFile) (db : Database) : Prop where
  nodes : file.select .nodes nodeColumns rowToNode = some db.nodes.rows
  tokens : file.select .tokens tokenColumns rowToToken = some db.tokens.rows

namespace Row.Stores

variable {stored columns : List String} {defaults row full : Row} {name : String} {v : Value}

/-- A column that is there has the value of the row. -/
theorem lookup_eq (h : row.Stores full stored columns defaults) (hname : name ∈ columns)
    (hstored : name ∈ stored) : row.lookup name = full.lookup name := by
  rw [← h.values name hname, List.lookup_append]
  cases hlookup : row.lookup name with
  | some w => rfl
  | none =>
      rw [← h.names, List.mem_map] at hstored
      obtain ⟨entry, hentry, rfl⟩ := hstored
      exact absurd (List.lookup_eq_none_iff.1 hlookup entry hentry) (by simp)

/-- A new column has the default. -/
theorem append (h : row.Stores full stored columns defaults) (hmissing : name ∉ stored)
    (hdefault : defaults.lookup name = some v) :
    (row ++ [(name, v)]).Stores full (stored ++ [name]) columns defaults where
  names := by rw [List.map_append, h.names, List.map_singleton]
  values := by
    intro other hother
    have hnone : row.lookup name = none := by
      rw [List.lookup_eq_none_iff]
      intro entry hentry
      have hne : name ≠ entry.1 := fun heq => hmissing (heq ▸ h.names ▸ List.mem_map_of_mem hentry)
      exact bne_iff_ne.2 hne
    rw [← h.values other hother, List.append_assoc, List.lookup_append, List.lookup_append,
      List.lookup_append, List.lookup_cons]
    by_cases heq : other = name
    · rw [heq, hnone, hdefault, beq_self_eq_true]
      rfl
    · rw [beq_false_of_ne heq]
      rfl

theorem set (h : row.Stores full stored columns defaults) (hname : name ∈ columns)
    (hstored : name ∈ stored) {w : Value} (hfull : full.lookup name = some w) :
    (row.set name v).Stores (full.set name v) stored columns defaults where
  names := map_fst_set.trans h.names
  values := by
    intro other hother
    rw [List.lookup_append]
    by_cases heq : other = name
    · subst heq
      rw [lookup_set_same ((h.lookup_eq hname hstored).trans hfull), lookup_set_same hfull,
        Option.some_or]
    · rw [lookup_set_of_ne heq, lookup_set_of_ne heq, ← List.lookup_append, h.values other hother]

/-- The backfill of a row is that of the row it stores. -/
theorem backfill {createdAt expiresAt : ℤ} (h : row.Stores full stored columns defaults)
    (hstored : "created_at" ∈ stored ∧ "expires_at" ∈ stored)
    (hcolumns : "created_at" ∈ columns ∧ "expires_at" ∈ columns)
    (hcreated : full.lookup "created_at" = some (.integer createdAt))
    (hexpires : full.lookup "expires_at" = some (.integer expiresAt)) :
    row.backfill.Stores full.backfill stored columns defaults := by
  have hcreated' := (h.lookup_eq hcolumns.1 hstored.1).trans hcreated
  have hexpires' := (h.lookup_eq hcolumns.2 hstored.2).trans hexpires
  rw [backfill_of_expiry hcreated hexpires, backfill_of_expiry hcreated' hexpires']
  split
  · exact h.set hcolumns.2 hstored.2 hexpires
  · exact h

end Row.Stores

namespace Sheet.Stores

variable {columns : List String} {defaults : Row} {sheet : Sheet} {rows : List Row} {name : String}
  {v : Value}

end Sheet.Stores

/-! ## Upgraded databases -/

variable {row : Row}

/-- The backfill of a stored token is what `initSchema` makes of the token. -/
theorem TokenRecord.backfill_row (t : TokenRecord) : t.row.backfill =
    TokenRecord.row { t with
      expiresAt := if t.expiresAt = 0 then t.createdAt + Database.defaultTokenTtlSecs
        else t.expiresAt } := by
  have hcreated : t.row.lookup "created_at" = some (.integer t.createdAt) := rfl
  have hexpires : t.row.lookup "expires_at" = some (.integer t.expiresAt) := rfl
  rw [Row.backfill_of_expiry hcreated hexpires]
  split <;> rfl

/-- The backfill of the tokens that a table stores. -/
theorem Sheet.Stores.backfill {sheet : Sheet} {db : Database}
    (h : sheet.Stores tokenColumns tokenDefaults (db.tokens.rows.map TokenRecord.row))
    (hcolumns : tokenColumns ⊆ sheet.columns) :
    sheet.backfill.Stores tokenColumns tokenDefaults
      (db.initSchema.tokens.rows.map TokenRecord.row) where
  missing := h.missing
  rows := by
    have hrows := List.forall₂_map_right_iff.1 h.rows
    refine List.forall₂_map_left_iff.2 (List.forall₂_map_right_iff.2
      (List.forall₂_map_right_iff.2 (hrows.imp fun row t hrow => ?_)))
    have hcreated : t.row.lookup "created_at" = some (.integer t.createdAt) := rfl
    have hexpires : t.row.lookup "expires_at" = some (.integer t.expiresAt) := rfl
    rw [← t.backfill_row]
    exact hrow.backfill ⟨hcolumns (by decide), hcolumns (by decide)⟩ (by decide) hcreated hexpires

namespace DatabaseFile

variable {file : DatabaseFile} {db : Database}

end DatabaseFile

end Naboscale.Coord
