import Naboscale.Coord.Parties
import Naboscale.Ledger

/-!
# Unique addresses

The handlers share the addresses of the pool as the clients of a ledger: an address is granted by
`allocate`, stored with a row of `nodes`, withdrawn with the row, and freed by `release`. Every
step of the server is a move of the ledger, so no address ever has two owners.
-/

namespace Naboscale.Coord

open Rust Concurrent

section

variable [CoordCrates]

/-! ## The ledger of a server -/

/-- The addresses in use, those in the database, and the one that each handler is about to store
or to release. -/
def Server.ledger (s : Server) : Ledger Ipv4Addr ℕ where
  used := {ip | s.coord.ipAlloc.Uses ip}
  stored := {ip | toString ip ∈ s.coord.db.ips}
  held := fun i => holds (s.task i)

/-- What is stored are texts of addresses. -/
def Database.Textual (db : Database) : Prop := ∀ x ∈ db.ips, ∃ ip : Ipv4Addr, x = toString ip

variable [Profile]

/-! ## Every step is a move -/

namespace Server

variable {s t : Server} {i : ℕ} {op : Op} {next : op.Result → Handler Response}

/-- The ledger after an operation of a handler. -/
theorem ledger_advance (htask : s.task i = .call op next) :
    ledger { s with pool := s.pool.advance Coordinator.handle i } = {
      used := {ip | (Coordinator.handle op s.coord).2.ipAlloc.Uses ip}
      stored := {ip | toString ip ∈ (Coordinator.handle op s.coord).2.db.ips}
      held := Function.update s.ledger.held i
        (holds ((Coordinator.handle op s.coord).1.elim .panic next)) } := by
  have hheld : (fun j => holds (Function.update s.pool.tasks i
      ((Coordinator.handle op s.coord).1.elim .panic next) j)) =
      Function.update s.ledger.held i
        (holds ((Coordinator.handle op s.coord).1.elim .panic next)) := by
    funext j
    exact Function.apply_update (fun _ => holds) s.pool.tasks i _ j
  rw [ledger, Pool.advance_call htask]
  exact congrArg (Ledger.mk _ _) hheld

/-- An operation that changes no address and after which none is held lets go of what was held. -/
theorem move_of_same (htask : s.task i = .call op next)
    (hused : (Coordinator.handle op s.coord).2.ipAlloc = s.coord.ipAlloc)
    (hstored : (Coordinator.handle op s.coord).2.db.ips = s.coord.db.ips)
    (hheld : ∀ r ∈ (Coordinator.handle op s.coord).1, holds (next r) = none) :
    s.ledger.Move {ip | InPool ip}
      (ledger { s with pool := s.pool.advance Coordinator.handle i }) := by
  have hnone : holds ((Coordinator.handle op s.coord).1.elim .panic next) = none := by
    cases hr : (Coordinator.handle op s.coord).1 with
    | none => rfl
    | some r => exact hheld r hr
  rw [ledger_advance htask, hused, hstored, hnone]
  exact .drop i

/-- `allocate` is a grant of what was not in use. -/
theorem allocate_move {next : Option Ipv4Addr → Handler Response} {ttl : I64} {draws : Draws}
    (htask : s.task i = .call .allocate next) (hshape : Shaped ttl draws .allocate next) :
    s.ledger.Move {ip | InPool ip}
      (ledger { s with pool := s.pool.advance Coordinator.handle i }) := by
  cases hfirst : s.coord.ipAlloc.allocate.1 with
  | none =>
      refine move_of_same htask (IpAllocator.allocate_of_none hfirst) rfl fun r hr => ?_
      have hr : r = none := (Option.some.inj hr).symm.trans hfirst
      subst hr
      exact Option.eq_none_iff_forall_not_mem.2 fun ip hip => nomatch hshape none ip hip
  | some ip =>
      obtain ⟨hpool, hfree, -⟩ := IpAllocator.allocate_eq_some.1 hfirst
      have hx : ∀ b ∈ holds (next (some ip)), b = ip := fun b hb =>
        (Option.some.inj (hshape (some ip) b hb)).symm
      have hused : {b | (Coordinator.handle .allocate s.coord).2.ipAlloc.Uses b} =
          insert ip s.ledger.used := by
        ext b
        exact IpAllocator.uses_allocate hfirst
      rw [ledger_advance htask, hused]
      show s.ledger.Move _ { s.ledger.hold i (holds (next s.coord.ipAlloc.allocate.1)) with
        used := insert ip s.ledger.used }
      rw [hfirst]
      exact .grant i ip _ hpool hfree hx

/-- `release` frees the address that is held. -/
theorem release_move {ip : Ipv4Addr} {next : Unit → Handler Response} {ttl : I64} {draws : Draws}
    (htask : s.task i = .call (.release ip) next) (hshape : Shaped ttl draws (.release ip) next) :
    s.ledger.Move {ip | InPool ip}
      (ledger { s with pool := s.pool.advance Coordinator.handle i }) := by
  have hheld : s.ledger.held i = some ip := congrArg holds htask
  have hused : {b | (Coordinator.handle (.release ip) s.coord).2.ipAlloc.Uses b} =
      s.ledger.used \ {ip} := by
    ext b
    exact IpAllocator.uses_release.trans and_comm
  have hnone : holds (next ()) = none := holds_of_not_running (hshape ())
  rw [ledger_advance htask, hused]
  show s.ledger.Move _ { s.ledger.hold i (holds (next ())) with used := s.ledger.used \ {ip} }
  rw [hnone]
  exact .free i ip hheld

/-- An insertion stores the address that is held, or lets go of it. -/
theorem insertNode_move {node : NodeRecord} {token : String} {ttlSecs : ℤ}
    {next : Except Violation Unit → Handler Response} {ttl : I64} {draws : Draws}
    (htask : s.task i = .call (.insertNode node token ttlSecs) next)
    (hshape : Shaped ttl draws (.insertNode node token ttlSecs) next) :
    s.ledger.Move {ip | InPool ip}
      (ledger { s with pool := s.pool.advance Coordinator.handle i }) := by
  obtain ⟨⟨ip, hip⟩, -, -, -, hfinished⟩ := hshape
  have hnone : ∀ r, holds (next r) = none := fun r => holds_of_not_running (hfinished r)
  have hused : (Coordinator.handle (.insertNode node token ttlSecs) s.coord).2.ipAlloc =
      s.coord.ipAlloc := Coordinator.handle_ipAlloc nofun nofun
  obtain hsame | hadded := Coordinator.ips_handle_insertNode s.coord node token ttlSecs
  · exact move_of_same htask hused hsame fun r _ => hnone r
  · have hheld : s.ledger.held i = some ip := by
      have hfirst : s.ledger.held i = Ipv4Addr.parse node.ip := congrArg holds htask
      rw [hfirst, hip, Ipv4Addr.parse_toString]
    have hstored :
        {b : Ipv4Addr | toString b ∈
            (Coordinator.handle (.insertNode node token ttlSecs) s.coord).2.db.ips} =
          insert ip s.ledger.stored := by
      ext b
      simp only [Set.mem_ofPred_eq, hadded, hip, List.mem_append, List.mem_singleton]
      exact or_comm.trans (or_congr_left ⟨Ipv4Addr.toString_injective, congrArg toString⟩)
    have hnext : holds ((Coordinator.handle (.insertNode node token ttlSecs) s.coord).1.elim
        .panic next) = none := by
      cases (Coordinator.handle (.insertNode node token ttlSecs) s.coord).1 with
      | none => rfl
      | some r => exact hnone r
    rw [ledger_advance htask, hused, hstored, hnext]
    exact .store i ip hheld

/-- A deletion withdraws the address of the node. -/
theorem deleteNode_move {nodeId : String} {next : Option String → Handler Response} {ttl : I64}
    {draws : Draws} (htask : s.task i = .call (.deleteNode nodeId) next)
    (hshape : Shaped ttl draws (.deleteNode nodeId) next) (htext : s.coord.db.Textual) :
    s.ledger.Move {ip | InPool ip}
      (ledger { s with pool := s.pool.advance Coordinator.handle i }) := by
  have hused : (Coordinator.handle (.deleteNode nodeId) s.coord).2.ipAlloc = s.coord.ipAlloc :=
    Coordinator.handle_ipAlloc nofun nofun
  have hnone : holds (next none) = none := hshape none
  cases hpoisoned : s.coord.poisoned with
  | true =>
      have hhandle : Coordinator.handle (.deleteNode nodeId) s.coord = (none, s.coord) :=
        Coordinator.locked_poisoned (f := fun db => (db.deleteNode nodeId).map some id) hpoisoned
      refine move_of_same htask hused (by rw [hhandle]) fun r hr => ?_
      rw [hhandle] at hr
      cases hr
  | false =>
      have hhandle : Coordinator.handle (.deleteNode nodeId) s.coord =
          (some (s.coord.db.deleteNode nodeId).1,
            { s.coord with db := (s.coord.db.deleteNode nodeId).2, poisoned := false }) :=
        Coordinator.locked_eq (f := fun db => (db.deleteNode nodeId).map some id) hpoisoned
      cases hdeleted : (s.coord.db.deleteNode nodeId).1 with
      | none =>
          refine move_of_same htask hused ?_ fun r hr => ?_
          · rw [hhandle]
            exact Database.ips_deleteNode_of_none hdeleted
          · rw [hhandle, hdeleted] at hr
            exact Option.some.inj hr ▸ hnone
      | some x =>
          -- The address leaves the row and is held by the handler, which is about to release it.
          obtain ⟨ip, rfl⟩ := htext x (Database.mem_ips_of_deleteNode hdeleted)
          have hx : ∀ b ∈ holds (next (some (toString ip))), b = ip := by
            intro b hb
            rw [hshape, Option.bind_some, Ipv4Addr.parse_toString] at hb
            exact (Option.some.inj hb).symm
          have hstored : {b : Ipv4Addr |
              toString b ∈ (Coordinator.handle (.deleteNode nodeId) s.coord).2.db.ips} =
                s.ledger.stored \ {ip} := by
            ext b
            rw [Set.mem_ofPred_eq, hhandle]
            refine Database.mem_ips_deleteNode.trans (and_congr_right' ?_)
            rw [hdeleted, ne_eq, Option.some.injEq]
            exact not_congr ⟨fun h => (Ipv4Addr.toString_injective h).symm, fun h => h ▸ rfl⟩
          rw [ledger_advance htask, hused, hstored, hhandle]
          show s.ledger.Move _ { s.ledger.hold i (holds (next (s.coord.db.deleteNode nodeId).1)) with
            stored := s.ledger.stored \ {ip} }
          rw [hdeleted]
          exact .withdraw i ip _ (Database.mem_ips_of_deleteNode hdeleted) hx

/-- Every operation of a handler in shape is a move of the ledger. -/
theorem advance_move (hshape : s.InShape) (htext : s.coord.db.Textual) (i : ℕ) :
    s.ledger.Move {ip | InPool ip}
      (ledger { s with pool := s.pool.advance Coordinator.handle i }) := by
  cases htask : s.task i with
  | call op next =>
      obtain ⟨hop, -⟩ : (Program.call op next).Always (Shaped s.coord.tokenTtlSecs (s.drawn i)) :=
        htask ▸ hshape i
      cases op with
      | allocate => exact allocate_move htask hop
      | release ip => exact release_move htask hop
      | insertNode node token ttlSecs => exact insertNode_move htask hop
      | deleteNode nodeId => exact deleteNode_move htask hop htext
      | createToken nodeId token createdAt ttlSecs =>
          exact move_of_same htask (Coordinator.handle_ipAlloc nofun nofun)
            (Coordinator.handle_ips nofun nofun) fun r _ => holds_of_not_running (hop.2.2.2 r)
      | _ =>
          exact move_of_same htask (Coordinator.handle_ipAlloc nofun nofun)
            (Coordinator.handle_ips nofun nofun) fun r _ => hop r
  | _ =>
      rw [Pool.advance_idle (i := i) (congrArg Program.isRunning htask)]
      exact .stay

/-- What a handler in shape stores are texts of addresses. -/
theorem textual_handle {self : Coordinator} {ttl : I64} {draws : Draws}
    (hshape : Shaped ttl draws op next) (h : self.db.Textual) :
    (Coordinator.handle op self).2.db.Textual := by
  have hsame (hips : (Coordinator.handle op self).2.db.ips = self.db.ips) :
      (Coordinator.handle op self).2.db.Textual := fun x hx => h x (hips ▸ hx)
  cases op with
  | insertNode node token ttlSecs =>
      obtain ⟨hip, -⟩ := hshape
      obtain hips | hips := Coordinator.ips_handle_insertNode self node token ttlSecs
      · exact hsame hips
      · intro x hx
        rw [hips, List.mem_append, List.mem_singleton] at hx
        obtain hx | rfl := hx
        · exact h x hx
        · exact hip
  | deleteNode nodeId =>
      obtain hlocked | ⟨_, hlocked⟩ :=
        self.locked_snd (f := fun db => (db.deleteNode nodeId).map some id)
      · exact hsame (congrArg (fun s => s.db.ips) hlocked)
      · intro x hx
        have hmem : x ∈ (self.db.deleteNode nodeId).2.ips :=
          (congrArg (fun s => x ∈ s.db.ips) hlocked).mp hx
        exact h x (Database.mem_ips_deleteNode.1 hmem).1
  | _ => exact hsame (Coordinator.handle_ips nofun nofun)

omit [Profile] [CoordCrates] in
/-- A restart puts exactly the stored addresses in use. -/
theorem uses_open {db : Database} (h : db.Textual) (ttl : I64) (clock : Clock)
    (instant : Instant) {ip : Ipv4Addr} :
    (Coordinator.open db ttl clock instant).ipAlloc.Uses ip ↔ toString ip ∈ db.ips := by
  show (IpAllocator.new db.initSchema).Uses ip ↔ _
  rw [IpAllocator.uses_new]
  constructor
  · rintro ⟨n, hn, hip⟩
    obtain ⟨ip', hip'⟩ := h n.ip (List.mem_map_of_mem hn)
    rw [hip', IpAllocator.ipv4StrToU32_toString] at hip
    rw [← Ipv4Addr.toU32_injective hip, ← hip']
    exact List.mem_map_of_mem hn
  · intro hmem
    obtain ⟨n, hn, hip⟩ := List.mem_map.1 hmem
    exact ⟨n, hn, by rw [hip, IpAllocator.ipv4StrToU32_toString]⟩

/-! ## Every reachable server -/

/-- The invariant: the handlers are in shape, and no address has two owners. -/
structure Allotted (s : Server) : Prop where
  shape : s.InShape
  text : s.coord.db.Textual
  sound : s.ledger.Sound {ip | InPool ip}

omit [Profile] in
theorem start_allotted (ttl : I64) (clock : Clock) (instant : Instant) :
    (start ttl clock instant).Allotted where
  shape := start_inShape
  text _ hx := nomatch hx
  sound :=
    { used_pool := fun _ hip =>
        absurd ((uses_open (fun _ hx => absurd hx List.not_mem_nil) ttl clock instant).1 hip)
          List.not_mem_nil
      stored_used := fun _ hip => nomatch hip
      held_used := fun _ _ hnone => nomatch hnone
      held_not_stored := fun _ _ hnone => nomatch hnone
      held_once := fun _ _ _ hnone => nomatch hnone }

/-- Every step is a move of the ledger. -/
theorem step_move {event : Event} (hshape : s.InShape) (htext : s.coord.db.Textual)
    (hstep : s.step event = some t) : s.ledger.Move {ip | InPool ip} t.ledger := by
  cases event with
  | spawn i request draws =>
      rw [Server.step] at hstep
      split at hstep
      · cases hstep
      · cases hstep
        have hheld : (s.spawn i request draws).ledger.held = Function.update s.ledger.held i none := by
          funext j
          have hholds := Function.apply_update (fun _ => holds) s.pool.tasks i
            (request.handler s.coord.tokenTtlSecs draws) j
          rwa [(handler_tame request).1] at hholds
        have hledger : (s.spawn i request draws).ledger = s.ledger.hold i none :=
          congrArg (Ledger.mk _ _) hheld
        exact hledger ▸ .drop i
  | advance i =>
      cases hstep
      exact advance_move hshape htext i
  | tick clock instant =>
      cases hstep
      exact .stay
  | restart ttl =>
      cases hstep
      have hused :
          {ip | (Coordinator.open s.coord.db ttl s.coord.clock s.coord.instant).ipAlloc.Uses ip} =
            s.ledger.stored := by
        ext ip
        exact uses_open htext ttl s.coord.clock s.coord.instant
      show s.ledger.Move _
        ⟨{ip | (Coordinator.open _ _ _ _).ipAlloc.Uses ip}, s.ledger.stored, fun _ => none⟩
      rw [hused]
      exact .recover

theorem Allotted.step {event : Event} (h : s.Allotted) (hstep : s.step event = some t) :
    t.Allotted := by
  refine ⟨h.shape.step hstep, ?_, (step_move h.shape h.text hstep).sound h.sound⟩
  cases event with
  | spawn i request draws =>
      rw [Server.step] at hstep
      split at hstep
      · cases hstep
      · cases hstep
        exact h.text
  | advance i =>
      cases hstep
      cases htask : s.task i with
      | call op next =>
          have hshape : (Program.call op next).Always (Shaped s.coord.tokenTtlSecs (s.drawn i)) :=
            htask ▸ h.shape i
          show (s.pool.advance _ i).shared.db.Textual
          rw [Pool.advance_call htask]
          exact textual_handle hshape.1 h.text
      | _ =>
          show (s.pool.advance _ i).shared.db.Textual
          rw [Pool.advance_idle (i := i) (congrArg Program.isRunning htask)]
          exact h.text
  | tick clock instant =>
      cases hstep
      exact h.text
  | restart ttl =>
      cases hstep
      exact h.text

theorem allotted_of_run {ttl : I64} {clock : Clock} {instant : Instant} {events : List Event}
    (hrun : Transition.exec step (start ttl clock instant) events = some s) : s.Allotted :=
  Transition.Reaches.invariant (fun _ _ _ h hstep => h.step hstep)
    (start_allotted ttl clock instant) ⟨events, hrun⟩

/-- In every reachable server, whatever the order of steps and wherever it restarted: the stored
addresses are different addresses of the pool, all of them in use; no insertion fails on the
address; and `allocate` gives the least address of the pool that is not in use, or fails with all
of them in use. -/
theorem addresses_unique {ttl : I64} {clock : Clock} {instant : Instant} {events : List Event}
    (hrun : Transition.exec step (start ttl clock instant) events = some s) :
    s.coord.db.ips.Nodup ∧
      (∀ x ∈ s.coord.db.ips, ∃ ip, x = toString ip ∧ InPool ip ∧ s.coord.ipAlloc.Uses ip) ∧
      (∀ i node token ttlSecs next columns,
        s.task i = .call (.insertNode node token ttlSecs) next →
        (Coordinator.handle (.insertNode node token ttlSecs) s.coord).1 =
          some (.error (.nodes columns)) → .ip ∉ columns) ∧
      (∀ ip, s.coord.ipAlloc.allocate.1 = some ip ↔ InPool ip ∧ ¬ s.coord.ipAlloc.Uses ip ∧
        ∀ ip', InPool ip' → ¬ s.coord.ipAlloc.Uses ip' → ip.toU32 ≤ ip'.toU32) ∧
      (s.coord.ipAlloc.allocate.1 = none ↔
        ∀ k < ipPoolHostCount, ipPoolFirstHost + k ∈ s.coord.ipAlloc.used) := by
  have h := allotted_of_run hrun
  refine ⟨s.coord.db.nodup_ips, ?_, ?_, fun ip => IpAllocator.allocate_eq_some,
    IpAllocator.allocate_eq_none⟩
  · intro x hx
    obtain ⟨ip, rfl⟩ := h.text x hx
    have hused := h.sound.stored_used ip hx
    exact ⟨ip, rfl, h.sound.used_pool ip hused, hused⟩
  · intro i node token ttlSecs next columns htask hfail
    obtain ⟨⟨⟨ip, hip⟩, -⟩, -⟩ :
        (Program.call (.insertNode node token ttlSecs) next).Always
          (Shaped s.coord.tokenTtlSecs (s.drawn i)) := htask ▸ h.shape i
    have hheld : s.ledger.held i = some ip := by
      have hfirst : s.ledger.held i = Ipv4Addr.parse node.ip := congrArg holds htask
      rw [hfirst, hip, Ipv4Addr.parse_toString]
    rw [Coordinator.handle_insertNode_violation hfail, NodeColumn.mem_clashes]
    rintro ⟨n, hn, hclash⟩
    have hstored : toString ip ∈ s.coord.db.ips :=
      hip ▸ List.mem_map.2 ⟨n, hn, hclash⟩
    exact h.sound.held_not_stored i ip hheld hstored

end Server

end

namespace Parties

attribute [local instance] crates Symbolic.release

/-- Two registrations of which the second one overtakes the first between its address and its
insertion, and a restart. -/
def crossing : List Event :=
  .spawn 0 (registerBy 1 (key 1) (key 2) (seconds 1000)) (draws "first" 7) ::
    .spawn 1 (registerBy 2 (key 3) (key 4) (seconds 1000)) (draws "second" 8) ::
    (advances 0 3 ++ advances 1 4 ++ advances 0 1 ++ [.restart (seconds 5)])

theorem crossing_registrations_apart :
    ∃ s, Transition.exec Server.step server crossing = some s ∧
      s.coord.db.ips = ["100.100.0.2", "100.100.0.1"] ∧ s.coord.db.ips.Nodup ∧
      s.coord.ipAlloc.allocate.1 = some ⟨100, 100, 0, 3⟩ := by
  have hcheck : (Transition.exec Server.step server crossing).any (fun s =>
      decide (s.coord.db.ips = ["100.100.0.2", "100.100.0.1"]) &&
      decide (s.coord.ipAlloc.allocate.1 = some ⟨100, 100, 0, 3⟩)) = true := by
    decide +kernel
  simp only [Option.any_eq_true, Bool.and_eq_true, decide_eq_true_eq] at hcheck
  obtain ⟨s, hs, hips, hnext⟩ := hcheck
  exact ⟨s, hs, hips, (Server.addresses_unique hs).1, hnext⟩

end Parties

end Naboscale.Coord
