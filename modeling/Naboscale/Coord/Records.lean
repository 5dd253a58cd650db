import Naboscale.Coord.Authority
import Naboscale.Coord.Replays

/-!
# What node ids and tokens stand for

A node id stands for an identity key and an address, and a token for a node, from the operation on
that stores them: no later operation gives them another meaning, also after the node was deleted.
What a handler tells its client is recorded so before the handler ends.
-/

namespace Naboscale.Coord

open Rust Concurrent

section General

variable [Profile] [CoordCrates]

/-! ## Records -/

/-- What a registration or a refresh draws. -/
inductive Name where
  | node (nodeId : String)
  | token (text : String)
  deriving DecidableEq

/-- What a node id or a token stands for. -/
inductive Record where
  | node (nodeId : String) (identityPubkey : Bytes) (ip : String)
  | token (text nodeId : String)

/-- What the record is about. -/
def Record.name : Record → Name
  | node nodeId _ _ => .node nodeId
  | token text _ => .token text

/-- The records that an operation makes. -/
def Op.records : Op → List Record
  | insertNode node token _ =>
      [.node node.nodeId node.identityPubkey node.ip, .token token node.nodeId]
  | createToken nodeId token _ _ => [.token token nodeId]
  | _ => []

/-- The names that the handler of a request may record. -/
def Request.names (draws : Draws) : Request → List Name
  | register _ _ => [.node draws.nodeId, .token draws.authToken]
  | refreshToken _ _ _ => [.token draws.authToken]
  | _ => []

/-- The names that are drawn when a request arrives. -/
def Event.names : Event → List Name
  | .spawn _ request draws => request.names draws
  | _ => []

omit [Profile] [CoordCrates] in
theorem Op.nodup_names (op : Op) : (op.records.map Record.name).Nodup := by
  cases op with
  | insertNode node token ttlSecs => simp [Op.records, Record.name]
  | createToken nodeId token createdAt ttlSecs => exact List.nodup_singleton _
  | _ => exact List.nodup_nil

omit [Profile] [CoordCrates] in
/-- A name stands for one thing. -/
theorem eq_of_name {ledger : List Record} (honce : (ledger.map Record.name).Nodup) {a b : Record}
    (ha : a ∈ ledger) (hb : b ∈ ledger) (h : a.name = b.name) : a = b :=
  List.inj_on_of_nodup_map honce ha hb h

/-! ## What handlers tell -/

/-- The key that a registration names. -/
def Request.Enrols (key : Bytes) : Request → Prop
  | register _ req => ∃ identityPubkey, decodePubkey req.identityPubkey = .ok identityPubkey ∧
      identityPubkey.val = key
  | _ => False

/-- What a response says is among the records: the node and the token of a registration, and a
token of a refresh for the node of the token that the request came with. -/
def Request.Told (request : Request) (records : List Record) : Response → Prop
  | .registered r => ∃ key, request.Enrols key ∧ .node r.nodeId key r.ip ∈ records ∧
      .token r.authToken r.nodeId ∈ records
  | .refreshed r => ∃ token nodeId, request.bearer = some token ∧ .token token nodeId ∈ records ∧
      .token r.authToken nodeId ∈ records
  | _ => True

/-- A handler that knows of records. It learns of the node that a token stands for, and ends once
it has made records of its own, which are about the names that it drew. -/
def Tells (request : Request) (draws : Draws) : List Record → Handler Response → Prop
  | known, .call (.getNodeByToken token _) next =>
      Tells request draws known (next none) ∧
        ∀ caller, Tells request draws (.token token caller.nodeId :: known) (next (some caller))
  | known, .call op next =>
      (∀ record ∈ op.records, record.name ∈ request.names draws) ∧
        (op.records ≠ [] → ∀ r, (next r).isRunning = false) ∧
        ∀ r, Tells request draws (op.records ++ known) (next r)
  | known, .done response => request.Told known response
  | _, _ => True

variable {request : Request} {ttl : I64} {draws : Draws} {known : List Record} {peer : SocketAddr}
  {authorization : Option String} {α δ : Type}

omit [Profile] in
theorem Request.Told.mono {records more : List Record} {response : Response}
    (h : request.Told records response) (hsub : records ⊆ more) : request.Told more response := by
  cases response with
  | registered r =>
      obtain ⟨key, henrols, hnode, htoken⟩ := h
      exact ⟨key, henrols, hsub hnode, hsub htoken⟩
  | refreshed r =>
      obtain ⟨token, nodeId, hbearer, hold, hnew⟩ := h
      exact ⟨token, nodeId, hbearer, hsub hold, hsub hnew⟩
  | _ => trivial

omit [Profile] in
theorem tells_lift {f : δ → Error} {x : Except δ α} {k : α → Handler Response}
    (h : ∀ a, x = .ok a → Tells request draws known (k a)) :
    Tells request draws known (.lift f x >>= k) := by
  cases x with
  | ok a => exact h a rfl
  | error e => trivial

omit [Profile] in
theorem tells_unwrap {x : Option α} {k : α → Handler Response}
    (h : ∀ a, x = some a → Tells request draws known (k a)) :
    Tells request draws known (.unwrap x >>= k) := by
  cases x with
  | some a => exact h a rfl
  | none => trivial

omit [Profile] in
/-- An operation that makes no record. -/
theorem tells_call {op : Op} {k : op.Result → Handler Response} (hnone : op.records = [])
    (hop : ∀ token now, op ≠ .getNodeByToken token now)
    (h : ∀ r, Tells request draws known (k r)) : Tells request draws known (op.call >>= k) := by
  have hall : (∀ record ∈ op.records, record.name ∈ request.names draws) ∧
      (op.records ≠ [] → ∀ r, (k r).isRunning = false) ∧
      ∀ r, Tells request draws (op.records ++ known) (k r) := by
    rw [hnone]
    exact ⟨fun _ hmem => absurd hmem List.not_mem_nil, fun hne => absurd rfl hne, h⟩
  cases op with
  | getNodeByToken token now => exact absurd rfl (hop token now)
  | _ => exact hall

omit [Profile] in
theorem tells_checkRateLimit {bucket : Bucket} {k : Unit → Handler Response}
    (h : ∀ u, Tells request draws known (k u)) :
    Tells request draws known (checkRateLimit peer bucket >>= k) := by
  rw [checkRateLimit, bind_assoc]
  exact tells_call rfl (fun _ _ hop => (by cases hop)) fun _ => tells_lift fun u _ => h u

omit [Profile] in
/-- The lookup of the caller tells which node the token of the request stands for. -/
theorem tells_authenticate {k : ℤ × NodeRecord → Handler Response}
    (h : ∀ (now : Clock) caller token, extractBearer authorization = .ok token →
      Tells request draws (.token token caller.nodeId :: known) (k (now.val, caller))) :
    Tells request draws known (authenticate authorization >>= k) := by
  simp only [authenticate, bind_assoc]
  refine tells_lift fun token htoken => tells_call rfl (fun _ _ hop => (by cases hop)) fun now => ?_
  exact ⟨trivial, fun caller => h now caller token htoken⟩

theorem tells_decodeSigned {caller : NodeRecord} {signature : String} {timestamp now : ℤ}
    {k : Arr 32 × Arr 64 → Handler Response} (h : ∀ x, Tells request draws known (k x)) :
    Tells request draws known (decodeSigned caller signature timestamp now >>= k) := by
  simp only [decodeSigned, bind_assoc]
  exact tells_lift fun _ _ => tells_unwrap fun _ _ => tells_lift fun _ _ =>
    tells_unwrap fun _ _ => h _

/-- Every handler tells what is recorded. -/
theorem handler_tells (request : Request) :
    Tells request draws [] (request.handler ttl draws) := by
  cases request with
  | register peer req =>
      refine tells_checkRateLimit fun _ => tells_lift fun identityPubkey hidentity =>
        tells_lift fun wgPubkey _ => tells_lift fun sig _ =>
        tells_call rfl (fun _ _ hop => (by cases hop)) fun now => tells_unwrap fun _ _ =>
        tells_lift fun _ _ => tells_lift fun _ _ =>
        tells_call rfl (fun _ _ hop => (by cases hop)) fun allocated => ?_
      cases allocated with
      | none => trivial
      | some ip =>
          refine tells_unwrap fun expiresAt _ => ⟨?_, fun _ r => ?_, fun r => ?_⟩
          · simp [Op.records, Record.name, Request.names]
          · cases r <;> rfl
          · refine tells_lift fun _ _ => ⟨identityPubkey.val, ⟨identityPubkey, hidentity, rfl⟩, ?_, ?_⟩
            · exact List.mem_cons_self
            · exact List.mem_cons_of_mem _ List.mem_cons_self
  | peers peer authorization =>
      exact tells_checkRateLimit fun _ => tells_authenticate fun _ _ _ _ =>
        tells_call rfl (fun _ _ hop => (by cases hop)) fun _ => trivial
  | heartbeat peer authorization req =>
      refine tells_checkRateLimit fun _ => tells_authenticate fun _ _ _ _ =>
        tells_decodeSigned fun _ => tells_lift fun _ _ => ?_
      cases req.viaRelay.filter fun r => !isSocketAddr r with
      | some r => trivial
      | none => exact tells_call rfl (fun _ _ hop => (by cases hop)) fun _ => trivial
  | refreshToken peer authorization req =>
      refine tells_checkRateLimit fun _ => tells_authenticate fun now caller token htoken =>
        tells_decodeSigned fun _ => tells_lift fun _ _ =>
        tells_call rfl (fun _ _ hop => (by cases hop)) fun _ => ⟨?_, fun _ r => ?_, fun r => ?_⟩
      · simp [Op.records, Record.name, Request.names]
      · cases r with
        | error e => rfl
        | ok _ =>
            show (Program.unwrap (I64.value (now.val + ttl.val)) >>= _ : Handler Response).isRunning =
              false
            cases I64.value (now.val + ttl.val) <;> rfl
      · refine tells_lift fun _ _ => tells_unwrap fun expiresAt _ =>
          ⟨token, caller.nodeId, congrArg Except.toOption htoken, ?_, ?_⟩
        · exact List.mem_append_right _ List.mem_cons_self
        · exact List.mem_append_left _ List.mem_cons_self
  | deleteNode peer authorization req =>
      refine tells_checkRateLimit fun _ => tells_authenticate fun _ _ _ _ =>
        tells_decodeSigned fun _ => tells_lift fun _ _ =>
        tells_call rfl (fun _ _ hop => (by cases hop)) fun ip => ?_
      split
      · trivial
      · exact tells_call rfl (fun _ _ hop => (by cases hop)) fun _ => trivial

/-! ## What is stored is recorded -/

omit [Profile] [CoordCrates] in
/-- No operation changes the id, the key or the address of a row. -/
theorem Op.rows_recorded {op : Op} {rows : List NodeRecord} {n' : NodeRecord} (h : n' ∈ op.rows rows) :
    (∃ n ∈ rows, n'.nodeId = n.nodeId ∧ n'.identityPubkey = n.identityPubkey ∧ n'.ip = n.ip) ∨
      .node n'.nodeId n'.identityPubkey n'.ip ∈ op.records := by
  cases op with
  | insertNode node token ttlSecs =>
      rw [Op.rows] at h
      split at h
      · obtain hmem | hmem := List.mem_append.1 h
        · exact .inl ⟨n', hmem, rfl, rfl, rfl⟩
        · cases List.mem_singleton.1 hmem
          exact .inr List.mem_cons_self
      · exact .inl ⟨n', h, rfl, rfl, rfl⟩
  | updateHeartbeat other endpoint viaRelay lastSeen =>
      obtain ⟨n, hn, rfl⟩ := List.mem_map.1 h
      refine .inl ⟨n, hn, ?_⟩
      split <;> exact ⟨rfl, rfl, rfl⟩
  | deleteNode other => exact .inl ⟨n', (List.mem_filter.1 h).1, rfl, rfl, rfl⟩
  | _ => exact .inl ⟨n', h, rfl, rfl, rfl⟩

omit [CoordCrates] in
/-- No operation changes the text or the node of a token. -/
theorem Coordinator.tokens_recorded {op : Op} {self : Coordinator} {row : TokenRecord}
    (h : row ∈ (handle op self).2.db.tokens.rows) :
    (∃ before ∈ self.db.tokens.rows, row.token = before.token ∧ row.nodeId = before.nodeId) ∨
      .token row.token row.nodeId ∈ op.records := by
  have hlocked {α : Type} (f : Database → Option α × Database)
      (hmem : row ∈ (self.locked f).2.db.tokens.rows) :
      row ∈ self.db.tokens.rows ∨ row ∈ (f self.db).2.tokens.rows := by
    obtain heq | ⟨_, heq⟩ := self.locked_snd (f := f) <;> rw [heq] at hmem
    · exact .inl hmem
    · exact .inr hmem
  have hkept (hmem : row ∈ self.db.tokens.rows) :
      (∃ before ∈ self.db.tokens.rows, row.token = before.token ∧ row.nodeId = before.nodeId) ∨
        .token row.token row.nodeId ∈ op.records := .inl ⟨row, hmem, rfl, rfl⟩
  cases op with
  | checkRateLimit | currentTimestamp | allocate | release => exact hkept h
  | getNodeByToken | listPeers | updateHeartbeat =>
      obtain hmem | hmem := hlocked _ h <;> exact hkept hmem
  | insertNode node token ttlSecs =>
      obtain hmem | hmem := hlocked _ h
      · exact hkept hmem
      · obtain hmem | ⟨expiresAt, -, rfl⟩ := Database.mem_insertNode hmem
        · exact hkept hmem
        · exact .inr (List.mem_cons_of_mem _ List.mem_cons_self)
  | createToken nodeId token createdAt ttlSecs =>
      obtain hmem | hmem := hlocked _ h
      · exact hkept hmem
      · obtain hmem | ⟨expiresAt, -, rfl⟩ := Database.mem_createToken hmem
        · exact hkept hmem
        · exact .inr List.mem_cons_self
  | revokeAllTokensForNode nodeId =>
      obtain hmem | hmem := hlocked _ h
      · exact hkept hmem
      · obtain ⟨before, hbefore, rfl⟩ := List.mem_map.1 hmem
        refine .inl ⟨before, hbefore, ?_⟩
        split <;> exact ⟨rfl, rfl⟩
  | deleteNode nodeId =>
      obtain hmem | hmem := hlocked _ h
      · exact hkept hmem
      · exact hkept (Table.mem_delete.1 hmem).1

namespace Journal

variable {j k : Journal} {event : Event} {ledger : List Record} {names : List Name} {i m : ℕ}
  {name : Name}

/-- The names that the handler at an index may record. -/
def pending (j : Journal) (i : ℕ) : List Name :=
  match j.arrivals i with
  | some arrival =>
      if (j.server.task i).isRunning then arrival.request.names (j.server.drawn i) else []
  | none => []

omit [Profile] in
theorem mem_pending : name ∈ j.pending i ↔ (j.server.task i).isRunning = true ∧
    ∃ arrival, j.arrivals i = some arrival ∧ name ∈ arrival.request.names (j.server.drawn i) := by
  unfold pending
  cases j.arrivals i with
  | none => simp
  | some arrival =>
      dsimp only
      split
      · rename_i hrunning
        simp [hrunning]
      · rename_i hidle
        simp [hidle]

/-- What the database stores is recorded, each name once, and a handler in flight has names of its
own that are not recorded yet. Handlers know only of what is recorded. -/
structure Filed (ledger : List Record) (names : List Name) (j : Journal) : Prop where
  rows {n : NodeRecord} : n ∈ j.server.coord.db.nodes.rows →
    .node n.nodeId n.identityPubkey n.ip ∈ ledger
  tokens {t : TokenRecord} : t ∈ j.server.coord.db.tokens.rows → .token t.token t.nodeId ∈ ledger
  once : (ledger.map Record.name).Nodup
  drew : ledger.map Record.name ⊆ names
  fresh {i : ℕ} {name : Name} : name ∈ j.pending i →
    name ∈ names ∧ name ∉ ledger.map Record.name
  apart {i i' : ℕ} {name : Name} : name ∈ j.pending i → name ∈ j.pending i' → i = i'
  tells {i : ℕ} {arrival : Arrival} : j.arrivals i = some arrival → ∃ known, known ⊆ ledger ∧
    Tells arrival.request (j.server.drawn i) known (j.server.task i)

omit [Profile] in
theorem start_filed {ttl : I64} {clock : Clock} {instant : Instant} :
    Filed [] [] (start ttl clock instant) where
  rows hn := absurd hn List.not_mem_nil
  tokens ht := absurd ht List.not_mem_nil
  once := List.nodup_nil
  drew := List.nil_subset _
  fresh h := absurd h List.not_mem_nil
  apart h := absurd h List.not_mem_nil
  tells h := (by cases h)

/-- A request that arrives. -/
theorem Filed.spawn {request : Request} {draws : Draws} (h : Filed ledger names j)
    (hfresh : ∀ name ∈ request.names draws, name ∉ names)
    (hstep : j.step (.spawn m request draws) = some k) :
    Filed ledger (names ++ request.names draws) k := by
  obtain ⟨hcoord, hdrawn, htask, clock, seen, harrival⟩ := spawn_self hstep
  have hself {name : Name} (hname : name ∈ k.pending m) : name ∈ request.names draws := by
    obtain ⟨-, arrival, hserves, hmem⟩ := mem_pending.1 hname
    cases harrival.symm.trans hserves
    rwa [hdrawn] at hmem
  have hother {i : ℕ} (hi : i ≠ m) : k.pending i = j.pending i := by
    obtain ⟨htask, hdrawn, harrivals⟩ := spawn_other hstep hi
    rw [pending, pending, htask, hdrawn, harrivals]
  refine ⟨fun hn => h.rows (hcoord ▸ hn), fun ht => h.tokens (hcoord ▸ ht), h.once,
    fun _ hname => List.mem_append_left _ (h.drew hname), fun {i name} hname => ?_,
    fun {i i' name} hname hname' => ?_, fun {i arrival} hserves => ?_⟩
  · by_cases hi : i = m
    · have hmem := hself (hi ▸ hname)
      exact ⟨List.mem_append_right _ hmem, fun hfiled => hfresh name hmem (h.drew hfiled)⟩
    · rw [hother hi] at hname
      exact (h.fresh hname).imp_left (List.mem_append_left _)
  · by_cases hi : i = m
    · by_contra hne
      have hi' : i' ≠ m := fun hi' => hne (hi.trans hi'.symm)
      rw [hother hi'] at hname'
      exact hfresh name (hself (hi ▸ hname)) (h.fresh hname').1
    · rw [hother hi] at hname
      by_cases hi' : i' = m
      · exact absurd (h.fresh hname).1 (hfresh name (hself (hi' ▸ hname')))
      · rw [hother hi'] at hname'
        exact h.apart hname hname'
  · by_cases hi : i = m
    · subst hi
      cases harrival.symm.trans hserves
      rw [htask, hdrawn]
      exact ⟨[], List.nil_subset _, handler_tells request⟩
    · obtain ⟨htask, hdrawn, harrivals⟩ := spawn_other hstep hi
      rw [htask, hdrawn]
      exact h.tells (harrivals ▸ hserves)

/-- What the handler at an index has left to record is what it had, unless it has made its records. -/
theorem pending_advance {op : Op} {next : op.Result → Handler Response} {name : Name}
    (htask : j.server.task m = .call op next) (hstep : j.step (.advance m) = some k)
    (hname : name ∈ k.pending i) : name ∈ j.pending i ∧
      (i = m → ∃ r, (Coordinator.handle op j.server.coord).1 = some r ∧ (next r).isRunning = true) := by
  obtain ⟨-, hdrawn, harrivals, hnext, hother⟩ := advance_pool htask hstep
  obtain ⟨hruns, arrival, hserves, hmem⟩ := mem_pending.1 hname
  rw [hdrawn] at hmem
  rw [harrivals] at hserves
  by_cases hi : i = m
  · subst hi
    refine ⟨mem_pending.2 ⟨?_, arrival, hserves, hmem⟩, fun _ => ?_⟩
    · rw [htask]
      rfl
    · rw [hnext] at hruns
      cases hresult : (Coordinator.handle op j.server.coord).1 with
      | none =>
          rw [hresult] at hruns
          cases hruns
      | some r =>
          rw [hresult] at hruns
          exact ⟨r, rfl, hruns⟩
  · rw [hother i hi] at hruns
    exact ⟨mem_pending.2 ⟨hruns, arrival, hserves, hmem⟩, fun hi' => absurd hi' hi⟩

/-- An operation that makes the records of its handler. -/
theorem Filed.record {op : Op} {next : op.Result → Handler Response} (h : Filed ledger names j)
    (htask : j.server.task m = .call op next) (hstep : j.step (.advance m) = some k)
    (hnames : ∀ record ∈ op.records, record.name ∈ j.pending m)
    (hends : op.records ≠ [] → ∀ r, (next r).isRunning = false)
    (htells : ∀ arrival, j.arrivals m = some arrival → ∃ known, known ⊆ ledger ++ op.records ∧
      Tells arrival.request (j.server.drawn m) known (k.server.task m)) :
    Filed (ledger ++ op.records) names k := by
  obtain ⟨hcoord, hdrawn, harrivals, hnext, hother⟩ := advance_pool htask hstep
  have hnew {name : Name} (hmem : name ∈ op.records.map Record.name) : name ∈ j.pending m := by
    obtain ⟨record, hrecord, rfl⟩ := List.mem_map.1 hmem
    exact hnames record hrecord
  refine ⟨fun {n} hn => ?_, fun {t} ht => ?_, ?_, ?_, fun {i name} hname => ?_,
    fun hname hname' => ?_, fun {i arrival} hserves => ?_⟩
  · rw [hcoord, Coordinator.handle_rows] at hn
    split at hn
    · exact List.mem_append_left _ (h.rows hn)
    · obtain ⟨before, hbefore, hid, hkey, hip⟩ | hrecord := Op.rows_recorded hn
      · rw [hid, hkey, hip]
        exact List.mem_append_left _ (h.rows hbefore)
      · exact List.mem_append_right _ hrecord
  · rw [hcoord] at ht
    obtain ⟨before, hbefore, htoken, hid⟩ | hrecord := Coordinator.tokens_recorded ht
    · rw [htoken, hid]
      exact List.mem_append_left _ (h.tokens hbefore)
    · exact List.mem_append_right _ hrecord
  · rw [List.map_append]
    refine h.once.append op.nodup_names fun name hold hmem => ?_
    exact (h.fresh (hnew hmem)).2 hold
  · rw [List.map_append]
    exact List.append_subset.2 ⟨h.drew, fun name hmem => (h.fresh (hnew hmem)).1⟩
  · obtain ⟨hbefore, hgoes⟩ := pending_advance htask hstep hname
    refine ⟨(h.fresh hbefore).1, fun hfiled => ?_⟩
    rw [List.map_append] at hfiled
    obtain hold | hmem := List.mem_append.1 hfiled
    · exact (h.fresh hbefore).2 hold
    · -- The name is one of the handler at `m`, which has ended.
      obtain ⟨r, -, hruns⟩ := hgoes (h.apart hbefore (hnew hmem))
      have hne : op.records ≠ [] := fun hnil => by
        rw [hnil] at hmem
        cases hmem
      rw [hends hne r] at hruns
      cases hruns
  · exact h.apart (pending_advance htask hstep hname).1 (pending_advance htask hstep hname').1
  · rw [harrivals] at hserves
    rw [hdrawn]
    by_cases hi : i = m
    · subst hi
      exact htells arrival hserves
    · rw [hother i hi]
      obtain ⟨known, hknown, htells⟩ := h.tells hserves
      exact ⟨known, List.subset_append_of_subset_left _ hknown, htells⟩

/-- A handler makes a step. -/
theorem Filed.advance {op : Op} {next : op.Result → Handler Response} (h : Filed ledger names j)
    (hcoherent : j.Coherent) (htask : j.server.task m = .call op next)
    (hstep : j.step (.advance m) = some k) : Filed (ledger ++ op.records) names k := by
  have hnext := (advance_pool htask hstep).2.2.2.1
  have hrunning : (j.server.task m).isRunning = true := by
    rw [htask]
    rfl
  cases harrived : j.arrivals m with
  | none => exact absurd (hcoherent.known m harrived) (by rw [hrunning]; exact Bool.noConfusion)
  | some arrival =>
      obtain ⟨known, hknown, htells⟩ := h.tells harrived
      rw [htask] at htells
      -- A handler that panics tells nothing.
      have hresult {more : List Record} (hmore : more ⊆ ledger ++ op.records)
          (hgoes : ∀ r, (Coordinator.handle op j.server.coord).1 = some r →
            ∃ known, known ⊆ ledger ++ op.records ∧
              Tells arrival.request (j.server.drawn m) known (next r)) :
          ∀ other, j.arrivals m = some other → ∃ known, known ⊆ ledger ++ op.records ∧
            Tells other.request (j.server.drawn m) known (k.server.task m) := by
        intro other hother
        cases harrived.symm.trans hother
        rw [hnext]
        cases hr : (Coordinator.handle op j.server.coord).1 with
        | none => exact ⟨more, hmore, trivial⟩
        | some r => exact hgoes r hr
      have hold : known ⊆ ledger ++ op.records := List.subset_append_of_subset_left _ hknown
      cases op with
      | getNodeByToken token now =>
          refine h.record htask hstep (fun _ hmem => absurd hmem List.not_mem_nil)
            (fun hne => absurd rfl hne) (hresult hold fun r hr => ?_)
          cases r with
          | none => exact ⟨known, hold, htells.1⟩
          | some caller =>
              have hlocked : j.server.coord.locked (fun db =>
                  (some (db.getNodeByToken token now), db)) = (some (some caller), _) :=
                Prod.ext hr rfl
              have hfound : j.server.coord.db.getNodeByToken token now = some caller :=
                Option.some.inj (Coordinator.locked_inv hlocked).2.1
              obtain ⟨t, ht, htoken, hid, -⟩ := Database.row_of_getNodeByToken hfound
              refine ⟨_, List.cons_subset.2 ⟨List.mem_append_left _ ?_, hold⟩, htells.2 caller⟩
              rw [← htoken, ← hid]
              exact h.tokens ht
      | _ =>
          obtain ⟨hnames, hends, hgoes⟩ := htells
          refine h.record htask hstep (fun record hmem => ?_) hends (hresult hold fun r _ => ?_)
          · exact mem_pending.2 ⟨hrunning, arrival, harrived, hnames record hmem⟩
          · exact ⟨_, List.append_subset.2 ⟨List.subset_append_right _ _, hold⟩, hgoes r⟩

/-- One step. -/
theorem Filed.step (h : Filed ledger names j) (hcoherent : j.Coherent)
    (hfresh : ∀ name ∈ event.names, name ∉ names) (hstep : j.step event = some k) :
    ∃ records, Filed (ledger ++ records) (names ++ event.names) k := by
  cases event with
  | spawn m request draws =>
      refine ⟨[], ?_⟩
      rw [List.append_nil]
      exact h.spawn hfresh hstep
  | advance m =>
      rw [show (Event.advance m).names = [] from rfl, List.append_nil]
      cases htask : j.server.task m with
      | call op next => exact ⟨op.records, h.advance hcoherent htask hstep⟩
      | _ =>
          have hidle : (j.server.task m).isRunning = false := congrArg Program.isRunning htask
          obtain ⟨server, hserver, rfl⟩ := Option.map_eq_some_iff.1 hstep
          cases hserver
          have hpool : j.server.pool.advance Coordinator.handle m = j.server.pool :=
            Pool.advance_idle hidle
          refine ⟨[], ?_⟩
          rw [List.append_nil]
          simp only [hpool]
          exact ⟨h.rows, h.tokens, h.once, h.drew, h.fresh, h.apart, h.tells⟩
  | tick clock instant =>
      cases hstep
      refine ⟨[], ?_⟩
      rw [List.append_nil, show (Event.tick clock instant).names = [] from rfl, List.append_nil]
      exact ⟨h.rows, h.tokens, h.once, h.drew, h.fresh, h.apart, h.tells⟩
  | restart ttl =>
      cases hstep
      refine ⟨[], ?_⟩
      rw [List.append_nil, show (Event.restart ttl).names = [] from rfl, List.append_nil]
      refine ⟨h.rows, fun {t} ht => ?_, h.once, h.drew, fun hname => ?_, fun hname => ?_,
        fun hserves => ⟨[], List.nil_subset _, trivial⟩⟩
      · obtain ⟨before, hbefore, rfl⟩ := List.mem_map.1 ht
        have hrecord := h.tokens hbefore
        exact hrecord
      · exact absurd (mem_pending.1 hname).1 Bool.false_ne_true
      · exact absurd (mem_pending.1 hname).1 Bool.false_ne_true

end Journal

end General

end Naboscale.Coord
