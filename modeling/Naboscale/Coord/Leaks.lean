import Naboscale.Coord.Addresses
import Naboscale.Coord.Granted
import Naboscale.Coord.Parties

/-!
# Leaked addresses

Between requests the pool should mirror the database: the addresses in use are the stored ones. A
registration takes its address out of the pool before the insertion that may fail, and does not
give it back. Every other request keeps the pool and the database together.
-/

namespace Naboscale.Coord

open Rust Concurrent

section

variable [CoordCrates]

/-- A request with the random draws of its handler, the passing of time before the next one, or a
restart. -/
inductive Turn where
  | serve (request : Request) (draws : Draws)
  | wait (clock : Clock) (instant : Instant)
  | restart (tokenTtlSecs : I64)

namespace Coordinator

/-- The addresses in use are exactly those of the rows of `nodes`. -/
def Mirrored (self : Coordinator) : Prop :=
  ∀ x, x ∈ self.db.ips ↔ ∃ ip : Ipv4Addr, self.ipAlloc.Uses ip ∧ x = toString ip

/-- The addresses in use are the stored ones and the one that a handler holds. -/
structure Balanced (state : Coordinator) (held : Option Ipv4Addr) : Prop where
  uses (ip : Ipv4Addr) : state.ipAlloc.Uses ip ↔ toString ip ∈ state.db.ips ∨ held = some ip
  text : ∀ x ∈ state.db.ips, ∃ ip : Ipv4Addr, x = toString ip
  apart : ∀ ip ∈ held, toString ip ∉ state.db.ips

variable {self : Coordinator}

omit [CoordCrates] in
theorem mirrored_iff : self.Mirrored ↔ self.Balanced none := by
  constructor
  · intro h
    refine ⟨fun ip => ?_, fun x hx => ?_, fun ip hip => nomatch hip⟩
    · rw [h]
      constructor
      · intro huses
        exact Or.inl ⟨ip, huses, rfl⟩
      · rintro (⟨ip', huses, hip⟩ | hnone)
        · exact Ipv4Addr.toString_injective hip ▸ huses
        · cases hnone
    · obtain ⟨ip, -, hip⟩ := (h x).1 hx
      exact ⟨ip, hip⟩
  · intro h x
    constructor
    · intro hx
      obtain ⟨ip, rfl⟩ := h.text x hx
      exact ⟨ip, (h.uses ip).2 (Or.inl hx), rfl⟩
    · rintro ⟨ip, hip, rfl⟩
      exact ((h.uses ip).1 hip).resolve_right fun hnone => nomatch hnone

variable [Profile]

/-- One turn. -/
def turn (self : Coordinator) : Turn → Option Coordinator
  | .serve request draws => some (self.serve request draws).2
  | .wait clock instant => some { self with clock, instant }
  | .restart tokenTtlSecs => some (.open self.db tokenTtlSecs self.clock self.instant)

/-! ## Requests that take no address -/

variable {op : Op} {next : op.Result → Handler Response} {ttl : I64} {draws : Draws}

/-- An operation that touches no address, and after which none is held. -/
theorem Balanced.same (h : self.Balanced none)
    (hused : (handle op self).2.ipAlloc = self.ipAlloc)
    (hips : (handle op self).2.db.ips = self.db.ips) (hnext : ∀ r, holds (next r) = none) :
    (handle op self).2.Balanced (holds ((handle op self).1.elim .panic next)) := by
  have hnone : holds ((handle op self).1.elim .panic next) = none := by
    cases (handle op self).1 with
    | none => rfl
    | some r => exact hnext r
  rw [hnone]
  refine ⟨fun ip => ?_, fun x hx => h.text x (hips ▸ hx), fun ip hip => nomatch hip⟩
  rw [hused, hips]
  exact h.uses ip

omit [CoordCrates] in
theorem Balanced.release {ip : Ipv4Addr} (h : self.Balanced (some ip)) :
    (handle (.release ip) self).2.Balanced none := by
  refine ⟨fun b => IpAllocator.uses_release.trans ?_, h.text, fun b hb => nomatch hb⟩
  rw [h.uses b]
  constructor
  · rintro ⟨hne, hstored | hsame⟩
    · exact Or.inl hstored
    · exact absurd (Option.some.inj hsame).symm hne
  · rintro (hstored | hnone)
    · exact ⟨fun heq => h.apart ip rfl (heq ▸ hstored), Or.inl hstored⟩
    · cases hnone

omit [CoordCrates] in
/-- A deletion takes the address of the node out of the database and hands it over. -/
theorem Balanced.deleteNode {nodeId : String} (h : self.Balanced none) :
    (handle (.deleteNode nodeId) self).2.Balanced
      (((handle (.deleteNode nodeId) self).1.bind id).bind Ipv4Addr.parse) := by
  cases hpoisoned : self.poisoned with
  | true =>
      have hhandle : handle (.deleteNode nodeId) self = (none, self) :=
        locked_poisoned (f := fun db => (db.deleteNode nodeId).map some id) hpoisoned
      rw [hhandle]
      exact h
  | false =>
      have hhandle : handle (.deleteNode nodeId) self = (some (self.db.deleteNode nodeId).1,
          { self with db := (self.db.deleteNode nodeId).2, poisoned := false }) :=
        locked_eq (f := fun db => (db.deleteNode nodeId).map some id) hpoisoned
      rw [hhandle, Option.bind_some, id_eq]
      cases hdeleted : (self.db.deleteNode nodeId).1 with
      | none =>
          have hips := Database.ips_deleteNode_of_none hdeleted
          exact ⟨fun b => hips ▸ h.uses b, fun x hx => h.text x (hips ▸ hx), fun b hb => nomatch hb⟩
      | some x =>
          have hmem := Database.mem_ips_of_deleteNode hdeleted
          obtain ⟨ip, rfl⟩ := h.text x hmem
          rw [Option.bind_some, Ipv4Addr.parse_toString]
          have hstored (y : String) : y ∈ (self.db.deleteNode nodeId).2.ips ↔
              y ∈ self.db.ips ∧ y ≠ toString ip := by
            rw [Database.mem_ips_deleteNode, hdeleted, ne_eq, Option.some.injEq, eq_comm]
          refine ⟨fun b => ?_, fun y hy => h.text y ((hstored y).1 hy).1, fun b hb hy => ?_⟩
          · refine (h.uses b).trans ?_
            rw [hstored]
            by_cases hb : b = ip
            · subst hb
              exact iff_of_true (Or.inl hmem) (Or.inr rfl)
            · have hne : toString b ≠ toString ip := fun heq => hb (Ipv4Addr.toString_injective heq)
              have hne' : some ip ≠ some b := fun heq => hb (Option.some.inj heq).symm
              simp only [hne, hne', ne_eq, not_false_eq_true, and_true, or_false, reduceCtorEq]
          · cases hb
            exact ((hstored _).1 hy).2 rfl

/-- The operation takes no address out of the pool and stores none. -/
def TakesNone (op : Op) (_ : op.Result → Handler Response) : Prop :=
  op ≠ .allocate ∧ ∀ node token ttlSecs, op ≠ .insertNode node token ttlSecs

/-- One operation of a handler in shape that takes no address. -/
theorem Balanced.step (hshape : Shaped ttl draws op next) (hnone : TakesNone op next)
    (h : self.Balanced (holds (.call op next))) :
    (handle op self).2.Balanced (holds ((handle op self).1.elim .panic next)) := by
  cases op with
  | allocate => exact absurd rfl hnone.1
  | insertNode node token ttlSecs => exact absurd rfl (hnone.2 node token ttlSecs)
  | release ip =>
      have hend : holds (next ()) = none := holds_of_not_running (hshape ())
      show (handle (.release ip) self).2.Balanced (holds (next ()))
      rw [hend]
      exact Balanced.release h
  | deleteNode nodeId =>
      have hheld : holds ((handle (.deleteNode nodeId) self).1.elim .panic next) =
          ((handle (.deleteNode nodeId) self).1.bind id).bind Ipv4Addr.parse := by
        cases (handle (.deleteNode nodeId) self).1 with
        | none => rfl
        | some r => exact hshape r
      rw [hheld]
      exact Balanced.deleteNode h
  | createToken nodeId token createdAt ttlSecs =>
      exact h.same (handle_ipAlloc nofun nofun) (handle_ips nofun nofun) fun r =>
        holds_of_not_running (hshape.2.2.2 r)
  | checkRateLimit peer bucket =>
      exact h.same (handle_ipAlloc nofun nofun) (handle_ips nofun nofun) hshape
  | currentTimestamp => exact h.same (handle_ipAlloc nofun nofun) (handle_ips nofun nofun) hshape
  | getNodeByToken token now =>
      exact h.same (handle_ipAlloc nofun nofun) (handle_ips nofun nofun) hshape
  | listPeers excludeNodeId =>
      exact h.same (handle_ipAlloc nofun nofun) (handle_ips nofun nofun) hshape
  | updateHeartbeat nodeId endpoint viaRelay lastSeen =>
      exact h.same (handle_ipAlloc nofun nofun) (handle_ips nofun nofun) hshape
  | revokeAllTokensForNode nodeId =>
      exact h.same (handle_ipAlloc nofun nofun) (handle_ips nofun nofun) hshape

/-- A handler in shape that takes no address runs to its end in balance. -/
theorem Balanced.run {p : Handler Response} (hshape : p.Always (Shaped ttl draws))
    (hnone : p.Always TakesNone) (h : self.Balanced (holds p)) :
    (p.run handle self).2.Balanced none := by
  induction p generalizing self with
  | done a => exact h
  | fail e => exact h
  | panic => exact h
  | call op next ih =>
      have hstep := h.step hshape.1 hnone.1
      rcases hhandle : handle op self with ⟨_ | r, after⟩
      · rw [hhandle] at hstep
        rw [Program.run_call_panic hhandle]
        exact hstep
      · rw [hhandle] at hstep
        rw [Program.run_call hhandle]
        exact ih r (hshape.2 r) (hnone.2 r) hstep

/-! ## The handlers that take no address -/

/-- An operation that neither allocates an address nor stores one. -/
def Untaken : Op → Prop
  | .allocate => False
  | .insertNode .. => False
  | _ => True

omit [Profile] in
theorem takesNone_call {k : op.Result → Handler Response} (hop : Untaken op)
    (h : ∀ r, (k r).Always TakesNone) : (op.call >>= k).Always TakesNone := by
  refine ⟨⟨?_, ?_⟩, h⟩
  · rintro rfl
    exact hop
  · rintro _ _ _ rfl
    exact hop

omit [Profile] in
theorem takesNone_regular : Regular fun p => p.Always TakesNone where
  finished {p} h := by
    cases p with
    | call => cases h
    | _ => trivial
  call {op _} hop h := by
    cases op with
    | checkRateLimit | currentTimestamp | getNodeByToken => exact takesNone_call trivial h
    | _ => exact hop.elim

theorem handler_takesNone {request : Request} (h : ∀ peer req, request ≠ .register peer req) :
    (request.handler ttl draws).Always TakesNone := by
  have hdone : ∀ {p : Handler Response}, p.isRunning = false → p.Always TakesNone :=
    takesNone_regular.finished
  cases request with
  | register peer req => exact absurd rfl (h peer req)
  | peers peer authorization =>
      exact takesNone_regular.checkRateLimit fun _ => takesNone_regular.authenticate fun _ _ =>
        takesNone_call trivial fun _ => hdone rfl
  | heartbeat peer authorization req =>
      refine takesNone_regular.checkRateLimit fun _ =>
        takesNone_regular.authenticate fun now caller =>
        takesNone_regular.decodeSigned fun _ => takesNone_regular.lift fun _ => ?_
      split
      · exact hdone rfl
      · exact takesNone_call trivial fun _ => hdone rfl
  | refreshToken peer authorization req =>
      refine takesNone_regular.checkRateLimit fun _ => takesNone_regular.authenticate fun now _ =>
        takesNone_regular.decodeSigned fun _ => takesNone_regular.lift fun _ =>
        takesNone_call trivial fun _ => takesNone_call trivial fun created => ?_
      exact takesNone_regular.lift fun _ => takesNone_regular.unwrap fun _ _ => hdone rfl
  | deleteNode peer authorization req =>
      refine takesNone_regular.checkRateLimit fun _ => takesNone_regular.authenticate fun _ _ =>
        takesNone_regular.decodeSigned fun _ => takesNone_regular.lift fun _ =>
        takesNone_call trivial fun ip => ?_
      split
      · exact hdone rfl
      · exact takesNone_call trivial fun _ => hdone rfl

/-- A request that is no registration keeps the pool a mirror of the database. -/
theorem Mirrored.serve {request : Request} (h : self.Mirrored)
    (hrequest : ∀ peer req, request ≠ .register peer req) :
    (self.serve request draws).2.Mirrored := by
  have htame : Tame self.tokenTtlSecs draws (request.handler self.tokenTtlSecs draws) :=
    handler_tame request
  refine mirrored_iff.2 (Balanced.run htame.2 (handler_takesNone hrequest) ?_)
  rw [htame.1]
  exact mirrored_iff.1 h

/-! ## Registrations -/

variable {peer : SocketAddr} {req : RegisterRequest} {identity wg : Arr 32}

omit [CoordCrates] [Profile] in
/-- An address that is in use and not stored is leaked. -/
theorem not_mirrored {ip : Ipv4Addr} (huses : self.ipAlloc.Uses ip)
    (hstored : toString ip ∉ self.db.ips) : ¬ self.Mirrored := fun h =>
  hstored ((h _).2 ⟨ip, huses, rfl⟩)

/-- Some row has the node id or one of the keys. -/
def Meets (self : Coordinator) (nodeId : String) (identity wg : Arr 32) : Prop :=
  ∃ n ∈ self.db.nodes.rows, n.nodeId = nodeId ∨ n.identityPubkey = identity.val ∨
    n.wgPubkey = wg.val

/-- The pool has an address that is not in use. -/
def HasFree (self : Coordinator) : Prop :=
  ∃ k < ipPoolHostCount, ipPoolFirstHost + k ∉ self.ipAlloc.used

omit [CoordCrates] [Profile] in
theorem hasFree_iff : self.HasFree ↔ self.ipAlloc.allocate.1 ≠ none := by
  rw [ne_eq, IpAllocator.allocate_eq_none, HasFree]
  push Not
  rfl

/-- The insertion of a node with these keys fails. -/
def Blocks (self : Coordinator) (nodeId : String) (identity wg : Arr 32) : Prop :=
  self.poisoned = true ∨ self.Meets nodeId identity wg

omit [CoordCrates] in
/-- An insertion stores the address unless the lock is poisoned or a row is in the way. -/
theorem insertNode_ips {node : NodeRecord} (hfree : node.ip ∉ self.db.ips)
    (hidentity : node.identityPubkey = identity.val) (hwg : node.wgPubkey = wg.val)
    (token : String) (ttlSecs : ℤ) :
    self.Blocks node.nodeId identity wg ∧
        (handle (.insertNode node token ttlSecs) self).2.db.ips = self.db.ips ∨
      ¬ self.Blocks node.nodeId identity wg ∧
        (handle (.insertNode node token ttlSecs) self).2.db.ips = self.db.ips ++ [node.ip] := by
  cases hpoisoned : self.poisoned with
  | true =>
      have hhandle : handle (.insertNode node token ttlSecs) self = (none, self) :=
        locked_poisoned (f := fun db => db.insertNode node token ttlSecs) hpoisoned
      rw [hhandle]
      exact Or.inl ⟨Or.inl hpoisoned, rfl⟩
  | false =>
      have hhandle : (handle (.insertNode node token ttlSecs) self).2.db =
          (self.db.insertNode node token ttlSecs).2 :=
        congrArg (fun x => x.2.db)
          (locked_eq (f := fun db => db.insertNode node token ttlSecs) hpoisoned)
      rw [hhandle]
      have hapart : (∃ made, self.db.addNode node.inserted = .ok made) ↔
          ¬ self.Meets node.nodeId identity wg := by
        rw [Database.addNode_ok_iff]
        constructor
        · rintro hall ⟨n, hn, hid | hkey | hkey⟩
          · exact hall n hn .nodeId hid
          · exact hall n hn .identityPubkey (hkey.trans hidentity.symm)
          · exact hall n hn .wgPubkey (hkey.trans hwg.symm)
        · intro hmeets n hn column hclash
          cases column with
          | nodeId => exact hmeets ⟨n, hn, Or.inl hclash⟩
          | identityPubkey => exact hmeets ⟨n, hn, Or.inr (Or.inl (hclash.trans hidentity))⟩
          | wgPubkey => exact hmeets ⟨n, hn, Or.inr (Or.inr (hclash.trans hwg))⟩
          | ip => exact hfree (List.mem_map.2 ⟨n, hn, hclash⟩)
      obtain ⟨columns, hfail, hsame⟩ | ⟨hmade, hstored⟩ :=
        @Database.ips_insertNode _ self.db node token ttlSecs
      · refine Or.inl ⟨Or.inr ?_, by rw [hsame]⟩
        by_contra hmeets
        obtain ⟨made, hmade⟩ := hapart.2 hmeets
        cases hfail.symm.trans hmade
      · refine Or.inr ⟨?_, hstored⟩
        rintro (htrue | hmeets)
        · cases hpoisoned.symm.trans htrue
        · exact hapart.1 hmade hmeets

/-- The registration gets an address, and then overflows the expiry of its token, finds the lock of
the database poisoned, or meets a row with its node id or one of its keys. -/
def Leaks (self : Coordinator) : Turn → Prop
  | .serve (.register peer req) draws => ∃ identity wg, self.Admits peer req identity wg ∧
      self.HasFree ∧ (I64.value (self.clock.val + self.tokenTtlSecs.val) = none ∨
        self.Blocks draws.nodeId identity wg)
  | _ => False

/-- The last operation of a handler leaves the state behind. -/
theorem run_last {op : Op} {next : op.Result → Handler Response}
    (h : ∀ r, (next r).isRunning = false) :
    ((Program.call op next).run handle self).2 = (handle op self).2 := by
  rcases hhandle : handle op self with ⟨_ | r, after⟩
  · rw [Program.run_call_panic hhandle]
  · rw [Program.run_call hhandle]
    cases hnext : next r with
    | call op' next' =>
        have hrunning := h r
        rw [hnext] at hrunning
        cases hrunning
    | _ => rfl

omit [CoordCrates] [Profile] in
/-- The address that was taken is stored. -/
theorem Mirrored.store {ip : Ipv4Addr} {after : Coordinator} (h : self.Mirrored)
    (huses : ∀ b, after.ipAlloc.Uses b ↔ b = ip ∨ self.ipAlloc.Uses b)
    (hips : after.db.ips = self.db.ips ++ [toString ip]) : after.Mirrored := by
  intro x
  rw [hips, List.mem_append, List.mem_singleton, h x]
  constructor
  · rintro (⟨b, hb, rfl⟩ | rfl)
    · exact ⟨b, (huses b).2 (Or.inr hb), rfl⟩
    · exact ⟨ip, (huses ip).2 (Or.inl rfl), rfl⟩
  · rintro ⟨b, hb, rfl⟩
    rcases (huses b).1 hb with rfl | hb
    · exact Or.inr rfl
    · exact Or.inl ⟨b, hb, rfl⟩

/-- What becomes of the address that is inserted. -/
theorem insertAllocated_mirrored_iff {given : Coordinator} {ip : Ipv4Addr} (h : self.Mirrored)
    (hdb : given.db = self.db) (huses : ∀ b, given.ipAlloc.Uses b ↔ b = ip ∨ self.ipAlloc.Uses b)
    (hunstored : toString ip ∉ self.db.ips) (ttl : I64) (draws : Draws) (identity wg : Arr 32)
    (now : ℤ) :
    ((insertAllocated ttl draws identity wg now ip).run handle given).2.Mirrored ↔
      ¬ (I64.value (now + ttl.val) = none ∨ given.Blocks draws.nodeId identity wg) := by
  have htaken : given.ipAlloc.Uses ip := (huses ip).2 (Or.inl rfl)
  unfold insertAllocated
  cases hvalue : I64.value (now + ttl.val) with
  | none =>
      have hleaked : ¬ given.Mirrored := not_mirrored htaken (by rw [hdb]; exact hunstored)
      exact iff_of_false hleaked fun hno => hno (Or.inl rfl)
  | some expiresAt =>
      simp only [Program.unwrap_some, Program.done_bind, Op.call, Program.perform_bind]
      rw [run_last fun r => by cases r <;> rfl]
      generalize hnode : NodeRecord.mk draws.nodeId _ _ _ _ _ _ _ = node
      have hused : (handle (.insertNode node draws.authToken ttl.val) given).2.ipAlloc =
          given.ipAlloc := handle_ipAlloc nofun nofun
      have hip : node.ip = toString ip := by rw [← hnode]
      have hid : node.nodeId = draws.nodeId := by rw [← hnode]
      have hidentity : node.identityPubkey = identity.val := by rw [← hnode]
      have hwg : node.wgPubkey = wg.val := by rw [← hnode]
      have hfree : node.ip ∉ given.db.ips := by
        rw [hip, hdb]
        exact hunstored
      obtain ⟨hblocks, hips⟩ | ⟨hblocks, hips⟩ :=
        insertNode_ips hfree hidentity hwg draws.authToken ttl.val
      · -- the row is not there, and the address stays in use
        have hleaked := not_mirrored (hused ▸ htaken) (hips ▸ hdb ▸ hunstored)
        exact iff_of_false hleaked fun hno => hno (Or.inr (hid ▸ hblocks))
      · have hstored := h.store (fun b => hused ▸ huses b) (by rw [hips, hdb, hip])
        exact iff_of_true hstored fun hno => hno.elim nofun fun hb => hblocks (hid ▸ hb)

/-- What becomes of the address that a registration takes. -/
theorem assign_mirrored_iff (h : self.Mirrored) (ttl : I64) (draws : Draws) (identity wg : Arr 32)
    (now : ℤ) :
    ((assign ttl draws identity wg now).run handle self).2.Mirrored ↔
      ¬ (self.HasFree ∧ (I64.value (now + ttl.val) = none ∨
        self.Blocks draws.nodeId identity wg)) := by
  rw [hasFree_iff, run_assign]
  cases hfirst : self.ipAlloc.allocate.1 with
  | none =>
      rw [IpAllocator.allocate_of_none hfirst]
      exact iff_of_true h fun hleak => hleak.1 rfl
  | some ip =>
      obtain ⟨-, hunused, -⟩ := IpAllocator.allocate_eq_some.1 hfirst
      have hunstored : toString ip ∉ self.db.ips := fun hmem => by
        obtain ⟨ip', huses, hip⟩ := (h _).1 hmem
        exact hunused (Ipv4Addr.toString_injective hip ▸ huses)
      have hdb : { self with ipAlloc := self.ipAlloc.allocate.2 }.db = self.db := rfl
      refine (insertAllocated_mirrored_iff h hdb (fun b => IpAllocator.uses_allocate hfirst)
        hunstored ttl draws identity wg now).trans (not_congr ?_)
      exact (and_iff_right nofun).symm

/-- A registration keeps the pool a mirror of the database unless it leaks. -/
theorem register_mirrored_iff (h : self.Mirrored) (peer : SocketAddr) (req : RegisterRequest)
    (draws : Draws) :
    (self.serve (.register peer req) draws).2.Mirrored ↔
      ¬ self.Leaks (.serve (.register peer req) draws) := by
  have hlimited : (self.limited peer .register).Mirrored := h
  by_cases hadmits : ∃ identity wg, self.Admits peer req identity wg
  · obtain ⟨identity, wg, hadmits⟩ := hadmits
    rw [hadmits.serve, assign_mirrored_iff hlimited]
    refine not_congr ⟨fun hleak => ⟨identity, wg, hadmits, hleak⟩, ?_⟩
    rintro ⟨identity', wg', hadmits', hleak⟩
    cases hadmits.identityPubkey.symm.trans hadmits'.identityPubkey
    cases hadmits.wgPubkey.symm.trans hadmits'.wgPubkey
    exact hleak
  · rw [(serve_refused (fun identity wg hadmits' => hadmits ⟨identity, wg, hadmits'⟩) draws).1]
    exact iff_of_true hlimited fun ⟨identity, wg, hadmits', _⟩ => hadmits ⟨identity, wg, hadmits'⟩

/-! ## Runs -/

omit [CoordCrates] [Profile] in
/-- A restart reads the addresses in use from the rows. -/
theorem mirrored_open (h : self.Mirrored) (ttl : I64) (clock : Clock) (instant : Instant) :
    (Coordinator.open self.db ttl clock instant).Mirrored := by
  have htext : self.db.Textual := fun x hx => by
    obtain ⟨ip, -, hip⟩ := (h x).1 hx
    exact ⟨ip, hip⟩
  intro x
  have hips : (Coordinator.open self.db ttl clock instant).db.ips = self.db.ips := rfl
  rw [hips]
  constructor
  · intro hx
    obtain ⟨ip, rfl⟩ := htext x hx
    exact ⟨ip, (Server.uses_open htext ttl clock instant).2 hx, rfl⟩
  · rintro ⟨ip, huses, rfl⟩
    exact (Server.uses_open htext ttl clock instant).1 huses

/-- A turn keeps the pool a mirror of the database unless it leaks. -/
theorem turn_mirrored_iff {after : Coordinator} {t : Turn} (h : self.Mirrored)
    (hturn : self.turn t = some after) : after.Mirrored ↔ ¬ self.Leaks t := by
  cases t with
  | wait clock instant =>
      cases hturn
      exact iff_of_true h id
  | restart ttl =>
      cases hturn
      exact iff_of_true (mirrored_open h ttl self.clock self.instant) id
  | serve request draws =>
      cases hturn
      by_cases hregister : ∃ peer req, request = .register peer req
      · obtain ⟨peer, req, rfl⟩ := hregister
        exact register_mirrored_iff h peer req draws
      · have hno : ¬ self.Leaks (.serve request draws) := by
          cases request with
          | register peer req => exact absurd ⟨peer, req, rfl⟩ hregister
          | _ => exact id
        exact iff_of_true (h.serve fun peer req heq => hregister ⟨peer, req, heq⟩) hno

theorem exec_turns (turns : List Turn) : ∃ t, Transition.exec turn self turns = some t := by
  induction turns generalizing self with
  | nil => exact ⟨self, rfl⟩
  | cons t turns ih => cases t <;> exact ih

omit [CoordCrates] [Profile] in
theorem mirrored_empty (ttl : I64) (clock : Clock) (instant : Instant) :
    (Coordinator.open .empty ttl clock instant).Mirrored := by
  have h : Database.empty.Textual := fun x hx => nomatch hx
  refine fun x => iff_of_false (fun hx => nomatch hx) ?_
  rintro ⟨ip, huses, -⟩
  exact nomatch (Server.uses_open h ttl clock instant).1 huses

/-- From the first start on, the addresses in use are the stored ones after each turn exactly when
none of the turns is a registration that leaks. -/
theorem run_mirrored_iff (ttl : I64) (clock : Clock) (instant : Instant) (turns : List Turn) :
    Transition.AllStates turn Mirrored (.open .empty ttl clock instant) turns ↔
      Transition.AllSteps turn (fun self t => ¬ self.Leaks t) (.open .empty ttl clock instant)
        turns := by
  obtain ⟨last, hrun⟩ := exec_turns turns
  exact Transition.allStates_iff_allSteps (fun _ _ _ _ _ => trivial)
    (fun _ _ _ _ hmirrored hturn => turn_mirrored_iff hmirrored hturn) trivial
    (mirrored_empty ttl clock instant) hrun

end Coordinator

end

/-! ## A repeated registration -/

namespace Parties

attribute [local instance] crates Symbolic.release

/-- The owner of the keys 1 and 2 registers them twice. -/
def registeredTwice : List Turn :=
  [.serve (registerBy 1 (key 1) (key 2) (seconds 1000)) (draws "node" 7),
    .serve (registerBy 1 (key 1) (key 2) (seconds 1001)) (draws "again" 8)]

/-- The second registration is refused, and the address that it took stays in use. -/
theorem refused_registration_leaks : ¬ Transition.AllStates Coordinator.turn Coordinator.Mirrored
    (.open .empty (seconds 100) (moment 1000) 0) registeredTwice := by
  have hcheck : (Transition.exec Coordinator.turn (.open .empty (seconds 100) (moment 1000) 0)
      registeredTwice).any (fun after =>
        decide ((Ipv4Addr.mk 100 100 0 2).toU32 ∈ after.ipAlloc.used) &&
          decide (after.db.ips = [toString (Ipv4Addr.mk 100 100 0 1)])) = true := by
    decide +kernel
  simp only [Option.any_eq_true, Bool.and_eq_true, decide_eq_true_eq] at hcheck
  obtain ⟨after, hrun, huses, hips⟩ := hcheck
  have hunstored : toString (Ipv4Addr.mk 100 100 0 2) ∉ after.db.ips := by
    rw [hips, List.mem_singleton]
    decide +kernel
  exact fun hall => Coordinator.not_mirrored huses hunstored (hall.last hrun)

end Parties

end Naboscale.Coord
