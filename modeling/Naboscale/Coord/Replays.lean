import Naboscale.Coord.Journal
import Naboscale.Coord.Messages
import Naboscale.Coord.Refresh

/-!
# Replayed requests

The coordinator does not remember the requests that it has served: a signed request that comes
again takes effect again as far as its time, its token and the rows of `nodes` allow. A handler
reads the clock, then looks its caller up, and only then takes effect.
-/

namespace Naboscale.Coord

open Rust Concurrent

section

variable [Profile] [CoordCrates]

/-! ## The stages of a handler -/

/-- The time that a request signs. -/
def Request.timestamp : Request → Option I64
  | register _ req => some req.timestamp
  | peers _ _ => none
  | heartbeat _ _ req => some req.timestamp
  | refreshToken _ _ req => some req.timestamp
  | deleteNode _ _ req => some req.timestamp

/-- The bearer token of a request. -/
def Request.bearer : Request → Option String
  | register _ _ => none
  | peers _ authorization | heartbeat _ authorization _ | refreshToken _ authorization _
  | deleteNode _ authorization _ => (extractBearer authorization).toOption

/-- The request takes the token out of use when it takes effect. -/
def Request.Spends (token : String) : Request → Prop
  | refreshToken _ authorization _ | deleteNode _ authorization _ =>
      extractBearer authorization = .ok token
  | _ => False

/-- The time that the request signs is accepted at the present one. -/
def Request.InTime (request : Request) (now : Clock) : Prop :=
  ∃ timestamp, request.timestamp = some timestamp ∧
    validateTimestamp timestamp.val now.val = some (.ok ())

/-- The node whose tokens an operation replaces or deletes. -/
def Op.owner : Op → Option String
  | revokeAllTokensForNode nodeId | createToken nodeId _ _ _ | deleteNode nodeId => some nodeId
  | _ => none

/-- A handler that takes effect for a request in time, on the tokens of its caller only. -/
def Acting (request : Request) (now : Clock) (caller : Option String)
    (p : Handler Response) : Prop :=
  p.Always fun op _ =>
    (op.TakesEffect → request.InTime now) ∧ ∀ id, op.owner = some id → caller = some id

/-- A handler that has read the clock and looks its caller up. -/
def Dated (request : Request) (now : Clock) : Handler Response → Prop
  | .call (.getNodeByToken token _) next =>
      request.bearer = some token ∧ (next none).isRunning = false ∧
        ∀ caller, Acting request now (some caller.nodeId) (next (some caller))
  | _ => False

/-- A handler that has not read the clock. -/
def Opening (request : Request) : Handler Response → Prop
  | .call (.checkRateLimit _ _) next => ∀ r, Opening request (next r)
  | .call .currentTimestamp next => ∀ now : Clock, Dated request now (next now) ∨
      request.bearer = none ∧ Acting request now none (next now)
  | .call _ _ => False
  | _ => True

variable {request : Request} {ttl : I64} {draws : Draws} {now : Clock} {caller : Option String}
  {peer : SocketAddr} {authorization : Option String} {α δ : Type}

theorem opening_of_finished {p : Handler Response} (h : p.isRunning = false) :
    Opening request p := by
  cases p with
  | call => cases h
  | _ => trivial

theorem opening_lift {f : δ → Error} {x : Except δ α} {k : α → Handler Response}
    (h : ∀ a, x = .ok a → Opening request (k a)) : Opening request (.lift f x >>= k) := by
  cases x with
  | ok a => exact h a rfl
  | error e => trivial

theorem opening_checkRateLimit {bucket : Bucket} {k : Unit → Handler Response}
    (h : ∀ u, Opening request (k u)) : Opening request (checkRateLimit peer bucket >>= k) := by
  rw [checkRateLimit, bind_assoc]
  exact fun admitted => opening_lift fun u _ => h u

theorem opening_authenticate {k : ℤ × NodeRecord → Handler Response}
    (hbearer : request.bearer = (extractBearer authorization).toOption)
    (h : ∀ (now : Clock) caller, Acting request now (some caller.nodeId) (k (now.val, caller))) :
    Opening request (authenticate authorization >>= k) := by
  simp only [authenticate, bind_assoc]
  refine opening_lift fun token htoken => ?_
  rw [htoken] at hbearer
  exact fun now => .inl ⟨hbearer, rfl, fun caller => h now caller⟩

omit [Profile] [CoordCrates] in
theorem unowned {op : Op} (h : op.owner = none) : ∀ id, op.owner = some id → caller = some id := by
  intro id howner
  cases h.symm.trans howner

theorem acting_regular : Regular (Acting request now caller) where
  finished {p} h := by
    cases p with
    | call => cases h
    | _ => trivial
  call {op _} hop h := by
    refine ⟨?_, h⟩
    cases op with
    | checkRateLimit | currentTimestamp | getNodeByToken => exact ⟨fun h => h.elim, unowned rfl⟩
    | _ => exact hop.elim

/-- Every handler starts by reading the clock. -/
theorem handler_opening (request : Request) : Opening request (request.handler ttl draws) := by
  cases request with
  | register peer req =>
      refine opening_checkRateLimit fun _ => opening_lift fun identityPubkey _ =>
        opening_lift fun wgPubkey _ => opening_lift fun _ _ => fun now => .inr ⟨rfl, ?_⟩
      have hreg : Regular (Acting (.register peer req) now none) := acting_regular
      refine hreg.unwrap fun valid hvalid => hreg.lift_of_ok fun _ hok => hreg.lift fun _ =>
        ⟨⟨fun h => h.elim, unowned rfl⟩, fun allocated => ?_⟩
      have htime : (Request.register peer req).InTime now := by
        cases hok
        exact ⟨req.timestamp, rfl, hvalid⟩
      cases allocated with
      | none => trivial
      | some ip =>
          exact hreg.unwrap fun _ _ =>
            ⟨⟨fun _ => htime, unowned rfl⟩, fun _ => hreg.lift fun _ => trivial⟩
  | peers peer authorization =>
      exact opening_checkRateLimit fun _ => opening_authenticate rfl fun _ _ =>
        ⟨⟨fun h => h.elim, unowned rfl⟩, fun _ => trivial⟩
  | heartbeat peer authorization req =>
      refine opening_checkRateLimit fun _ => opening_authenticate rfl fun now caller => ?_
      have hreg : Regular (Acting (.heartbeat peer authorization req) now (some caller.nodeId)) :=
        acting_regular
      refine hreg.decodeSigned_of_ok fun _ _ _ _ hvalid => hreg.lift fun _ => ?_
      cases req.viaRelay.filter fun r => !isSocketAddr r with
      | some r => trivial
      | none => exact ⟨⟨fun _ => ⟨req.timestamp, rfl, hvalid⟩, unowned rfl⟩, fun _ => trivial⟩
  | refreshToken peer authorization req =>
      refine opening_checkRateLimit fun _ => opening_authenticate rfl fun now caller => ?_
      have hreg : Regular (Acting (.refreshToken peer authorization req) now (some caller.nodeId)) :=
        acting_regular
      refine hreg.decodeSigned_of_ok fun _ _ _ _ hvalid => hreg.lift fun _ =>
        ⟨⟨fun h => h.elim, fun _ h => h⟩, fun _ => ?_⟩
      exact ⟨⟨fun _ => ⟨req.timestamp, rfl, hvalid⟩, fun _ h => h⟩,
        fun _ => hreg.lift fun _ => hreg.unwrap fun _ _ => trivial⟩
  | deleteNode peer authorization req =>
      refine opening_checkRateLimit fun _ => opening_authenticate rfl fun now caller => ?_
      have hreg : Regular (Acting (.deleteNode peer authorization req) now (some caller.nodeId)) :=
        acting_regular
      refine hreg.decodeSigned_of_ok fun _ _ _ _ hvalid => hreg.lift fun _ =>
        ⟨⟨fun _ => ⟨req.timestamp, rfl, hvalid⟩, fun _ h => h⟩, fun ip => ?_⟩
      dsimp only [Program.bind]
      split
      · trivial
      · exact ⟨⟨fun h => h.elim, unowned rfl⟩, fun _ => trivial⟩

/-! ## Tokens out of use -/

namespace Server

variable {s t : Server} {event : Event} {token : String} {row : TokenRecord}

/-- The token is out of use for good: none of its rows is active, and no handler makes another. -/
def Dead (s : Server) (token : String) : Prop :=
  s.Settled token ∧ ∀ row ∈ s.coord.db.tokens.rows, row.token = token → row.revoked = true

/-- A row of a settled token was there before a step. -/
theorem Fresh.row_before (h : s.Fresh) (hsettled : s.Settled token)
    (hstep : s.step event = some t) (hrow : row ∈ t.coord.db.tokens.rows)
    (htoken : row.token = token) : ∃ before ∈ s.coord.db.tokens.rows, before.Becomes row := by
  obtain hbefore | ⟨i, -, hrunning, hmade, -⟩ := h.row_of_step hstep hrow
  · exact hbefore
  · exact absurd (hmade.symm.trans htoken) (hsettled.2 i hrunning)

theorem Dead.step (h : s.Dead token) (hfresh : s.Fresh) (hlawful : s.Lawful event)
    (hstep : s.step event = some t) : t.Dead token := by
  refine ⟨h.1.step hlawful hstep, fun row hrow htoken => ?_⟩
  obtain ⟨before, hbefore, hbecomes⟩ := hfresh.row_before h.1 hstep hrow htoken
  exact hbecomes.revoked (h.2 before hbefore (hbecomes.token.symm.trans htoken))

omit [Profile] in
theorem Dead.refused (h : s.Dead token) (now : ℤ) :
    s.coord.db.getNodeByToken token now = none :=
  Database.getNodeByToken_eq_none.2 fun row hrow htoken => .inl (h.2 row hrow htoken)

end Server

/-- After an operation a handler is about to make a token only if the operation has revoked those
of the node. -/
theorem revokes_of_renews {coord : Coordinator} {op : Op} {next : op.Result → Handler Response}
    (hrenewing : Renewing op next)
    (h : renews ((Program.call op next).step Coordinator.handle coord).1 ≠ none) :
    coord.poisoned = false ∧ ∃ nodeId, op = .revokeAllTokensForNode nodeId := by
  rcases hop : Coordinator.handle op coord with ⟨_ | r, after⟩
  · rw [Program.step, hop] at h
    exact absurd rfl h
  · rw [Program.step_call hop] at h
    cases op with
    | revokeAllTokensForNode nodeId =>
        exact ⟨(Coordinator.locked_inv (f := fun db =>
          (db.revokeAllTokensForNode nodeId).map some id) hop).1, nodeId, rfl⟩
    | createToken => exact absurd (hrenewing.1 r) h
    | deleteNode => exact absurd (hrenewing r).1 h
    | insertNode => exact absurd (hrenewing.2 r) h
    | checkRateLimit | currentTimestamp | allocate | release | getNodeByToken | listPeers
    | updateHeartbeat => exact absurd (hrenewing r) h

/-! ## Stages in a run -/

namespace Journal

variable {j k : Journal} {event : Event} {token : String} {i : ℕ} {arrival : Arrival} {e : Effect}
  {p : Handler Response}

/-- What is known of the token with which a handler was admitted as its caller. -/
structure Admitted (j : Journal) (arrival : Arrival) (caller : Option String)
    (p : Handler Response) (token : String) : Prop where
  settled : j.server.Settled token
  owned : ∀ row ∈ j.server.coord.db.tokens.rows, row.token = token → caller = some row.nodeId
  revoked : renews p ≠ none →
    ∀ row ∈ j.server.coord.db.tokens.rows, row.token = token → row.revoked = true
  unspent : ∀ e ∈ j.effects.take arrival.seen, ¬ e.arrival.request.Spends token

/-- The stage of a handler. -/
inductive Stage (j : Journal) (arrival : Arrival) (p : Handler Response) : Prop where
  | opening (h : Opening arrival.request p)
  | dated (now : Clock) (hclock : arrival.clock.val ≤ now.val) (h : Dated arrival.request now p)
  | acting (now : Clock) (caller : Option String) (hclock : arrival.clock.val ≤ now.val)
      (hadmitted : ∀ token, arrival.request.bearer = some token →
        j.Admitted arrival caller p token)
      (h : Acting arrival.request now caller p)

/-- The invariant of a server whose tokens are fresh, with its journal. -/
structure Guarded (j : Journal) : Prop where
  coherent : j.Coherent
  fresh : j.server.Fresh
  renewing : ∀ i, (j.server.task i).Always Renewing
  arrived : ∀ i arrival, j.arrivals i = some arrival →
    arrival.clock.val ≤ j.server.coord.clock.val ∧ arrival.seen ≤ j.effects.length
  stage : ∀ i arrival, j.arrivals i = some arrival → j.Stage arrival (j.server.task i)
  spent : ∀ e ∈ j.effects, ∀ token, e.arrival.request.Spends token → j.server.Dead token
  timely : ∀ e ∈ j.effects, ∃ now : Clock, e.arrival.clock.val ≤ now.val ∧
    e.arrival.request.InTime now
  unspent : ∀ e ∈ j.effects, e.arrival.seen ≤ j.effects.length ∧ ∀ token,
    e.arrival.request.bearer = some token →
      ∀ e' ∈ j.effects.take e.arrival.seen, ¬ e'.arrival.request.Spends token

theorem server_step (hstep : j.step event = some k) : j.server.step event = some k.server := by
  obtain ⟨server, hserver, rfl⟩ := Option.map_eq_some_iff.1 hstep
  cases event <;> exact hserver

/-- Effects are only added. -/
theorem take_effects (hstep : j.step event = some k) {n : ℕ} (hn : n ≤ j.effects.length) :
    k.effects.take n = j.effects.take n := by
  obtain ⟨hsame, -⟩ | ⟨i, -, hsame⟩ := effects_step hstep
  · rw [hsame]
  · rw [hsame, List.take_append_of_le_length hn]

omit [Profile] in
theorem bearer_of_spends {request : Request} (h : request.Spends token) :
    request.bearer = some token := by
  cases request with
  | refreshToken | deleteNode =>
      have h : extractBearer _ = .ok token := h
      rw [Request.bearer, h]
      rfl
  | _ => exact h.elim

/-- What is known of the token stays so while the handler waits. -/
theorem Admitted.wait {caller : Option String} (h : j.Admitted arrival caller p token)
    (hfresh : j.server.Fresh) (hseen : arrival.seen ≤ j.effects.length)
    (hlawful : j.server.Lawful event) (hstep : j.step event = some k) :
    k.Admitted arrival caller p token := by
  have hserver := server_step hstep
  refine ⟨h.settled.step hlawful hserver, fun row hrow htoken => ?_, fun hrenews row hrow htoken => ?_,
    ?_⟩
  · obtain ⟨before, hbefore, hbecomes⟩ := hfresh.row_before h.settled hserver hrow htoken
    rw [hbecomes.nodeId]
    exact h.owned before hbefore (hbecomes.token.symm.trans htoken)
  · obtain ⟨before, hbefore, hbecomes⟩ := hfresh.row_before h.settled hserver hrow htoken
    exact hbecomes.revoked
      (h.revoked hrenews before hbefore (hbecomes.token.symm.trans htoken))
  · rw [take_effects hstep hseen]
    exact h.unspent

theorem Stage.wait (h : j.Stage arrival p) (hfresh : j.server.Fresh)
    (hseen : arrival.seen ≤ j.effects.length) (hlawful : j.server.Lawful event)
    (hstep : j.step event = some k) : k.Stage arrival p := by
  cases h with
  | opening h => exact .opening h
  | dated now hclock h => exact .dated now hclock h
  | acting now caller hclock hadmitted h =>
      exact .acting now caller hclock
        (fun token htoken => (hadmitted token htoken).wait hfresh hseen hlawful hstep) h

/-- What an operation of a handler does to the journal. -/
theorem advance_call {op : Op} {next : op.Result → Handler Response}
    (htask : j.server.task i = .call op next) (hstep : j.step (.advance i) = some k) :
    k.server.coord = (Coordinator.handle op j.server.coord).2 ∧
      k.server.task i = ((Program.call op next).step Coordinator.handle j.server.coord).1 := by
  cases hstep
  refine ⟨?_, ?_⟩
  · show (j.server.pool.advance Coordinator.handle i).shared = _
    rw [Pool.advance_call htask]
  · have htask : j.server.pool.tasks i = .call op next := htask
    show (j.server.pool.advance Coordinator.handle i).tasks i = _
    rw [Pool.advance, htask]
    exact Function.update_self ..

/-- What is known of the token after an operation of the handler: if a new token is next, the
operation has revoked this one. -/
theorem Admitted.advance {caller : Option String} {now : Clock} {op : Op}
    {next : op.Result → Handler Response}
    (h : j.Admitted arrival caller (.call op next) token)
    (hacting : Acting arrival.request now caller (.call op next)) (hrenewing : Renewing op next)
    (hfresh : j.server.Fresh) (hseen : arrival.seen ≤ j.effects.length)
    (htask : j.server.task i = .call op next) (hstep : j.step (.advance i) = some k) :
    k.Admitted arrival caller (k.server.task i) token := by
  have hlawful : j.server.Lawful (.advance i) := trivial
  have hwait := h.wait hfresh hseen hlawful hstep
  obtain ⟨hcoord, hnext⟩ := advance_call htask hstep
  refine ⟨hwait.settled, hwait.owned, fun hrenews row hrow htoken => ?_, hwait.unspent⟩
  rw [hnext] at hrenews
  obtain ⟨hsound, nodeId, rfl⟩ := revokes_of_renews hrenewing hrenews
  have hcaller : caller = some nodeId := hacting.1.2 nodeId rfl
  have hlocked : Coordinator.handle (.revokeAllTokensForNode nodeId) j.server.coord = _ :=
    Coordinator.locked_some (f := fun db => (db.revokeAllTokensForNode nodeId).map some id) hsound rfl
  rw [hcoord, hlocked] at hrow
  obtain ⟨before, hbefore, rfl⟩ := List.mem_map.1 hrow
  have howner : before.nodeId = nodeId := by
    have hsame : before.token = token := by
      rw [← htoken]
      split <;> rfl
    exact Option.some.inj ((h.owned before hbefore hsame).symm.trans hcaller)
  cases hrevoked : before.revoked with
  | true => simp [hrevoked]
  | false => simp [howner]

/-- A handler that has found its caller holds a token that is in use. -/
theorem admitted_of_found {node : NodeRecord} {now : ℤ} (h : j.Guarded)
    (hfound : j.server.coord.db.getNodeByToken token now = some node) (hp : renews p = none) :
    j.Admitted arrival (some node.nodeId) p token := by
  obtain ⟨row, hrow, htoken, howner, -⟩ := Database.row_of_getNodeByToken hfound
  refine ⟨htoken ▸ (h.fresh.stored row hrow).1, fun row' hrow' htoken' => ?_,
    fun hrenews => absurd hp hrenews, fun e he hspends => ?_⟩
  · rw [Server.row_eq_of_token hrow' hrow (htoken'.trans htoken.symm), howner]
  · have hdead := h.spent e (List.mem_of_mem_take he) token hspends
    cases (hdead.refused now).symm.trans hfound

/-- An operation brings a handler to its next stage. -/
theorem Stage.advance {op : Op} {next : op.Result → Handler Response} (hguarded : j.Guarded)
    (h : j.Stage arrival (.call op next))
    (harrival : j.arrivals i = some arrival) (htask : j.server.task i = .call op next)
    (hstep : j.step (.advance i) = some k) : k.Stage arrival (k.server.task i) := by
  obtain ⟨hcoord, hnext⟩ := advance_call htask hstep
  obtain ⟨hclock, hseen⟩ := hguarded.arrived i arrival harrival
  have hlawful : j.server.Lawful (.advance i) := trivial
  have hrenewing : Renewing op next := by
    have hall := hguarded.renewing i
    rw [htask] at hall
    exact hall.1
  cases h with
  | opening h =>
      cases op with
      | checkRateLimit peer bucket =>
          rw [hnext]
          exact .opening (h _)
      | currentTimestamp =>
          rw [hnext]
          obtain hdated | ⟨hnone, hacting⟩ := h j.server.coord.clock
          · exact .dated _ hclock hdated
          · exact .acting _ none hclock (fun _ htoken => nomatch hnone.symm.trans htoken) hacting
      | _ => exact h.elim
  | dated now hclock h =>
      cases op with
      | getNodeByToken token time =>
          obtain ⟨hbearer, hnone, hsome⟩ := h
          rcases hop : Coordinator.handle (.getNodeByToken token time) j.server.coord
            with ⟨_ | found, after⟩
          · rw [hnext, Program.step, hop]
            exact .opening trivial
          · rw [hnext, Program.step_call hop]
            cases found with
            | none => exact .opening (opening_of_finished hnone)
            | some node =>
                refine .acting now (some node.nodeId) hclock (fun token' htoken' => ?_) (hsome node)
                cases hbearer.symm.trans htoken'
                obtain ⟨-, hfound, -⟩ := Coordinator.locked_inv (f := fun db =>
                  (some (db.getNodeByToken token time), db)) hop
                have hrenews : renews (next (some node)) = none := hrenewing _
                exact (admitted_of_found hguarded (Option.some.inj hfound) hrenews).wait
                  hguarded.fresh hseen hlawful hstep
      | _ => exact h.elim
  | acting now caller hclock hadmitted h =>
      refine .acting now caller hclock (fun token htoken => ?_) ?_
      · exact (hadmitted token htoken).advance h hrenewing hguarded.fresh hseen htask hstep
      · rw [hnext]
        exact Program.Always.step h _

/-! ## Effects in a run -/

omit [CoordCrates] in
theorem takesEffect_of_effective {coord : Coordinator} {op : Op}
    (h : coord.effective op = true) : op.TakesEffect := by
  cases op with
  | insertNode | updateHeartbeat | createToken | deleteNode => trivial
  | _ => cases h

/-- A handler whose operation takes effect was admitted before. -/
theorem Stage.of_effective {op : Op} {next : op.Result → Handler Response}
    (h : j.Stage arrival (.call op next)) (heffective : j.server.coord.effective op = true) :
    ∃ now caller, arrival.clock.val ≤ now.val ∧ (∀ token, arrival.request.bearer = some token →
      j.Admitted arrival caller (.call op next) token) ∧
        Acting arrival.request now caller (.call op next) := by
  have htakes := takesEffect_of_effective heffective
  cases h with
  | opening h =>
      cases op with
      | checkRateLimit | currentTimestamp => exact htakes.elim
      | _ => exact h.elim
  | dated now hclock h =>
      cases op with
      | getNodeByToken => exact htakes.elim
      | _ => exact h.elim
  | acting now caller hclock hadmitted h => exact ⟨now, caller, hclock, hadmitted, h⟩

/-- A request that spends a token has taken it out of use when it takes effect. -/
theorem dead_of_spends {caller : Option String} {now : Clock} {op : Op}
    {next : op.Result → Handler Response} (hguarded : j.Guarded)
    (hadmitted : j.Admitted arrival caller (.call op next) token)
    (hacting : Acting arrival.request now caller (.call op next))
    (hmeans : arrival.request.Means op) (heffective : j.server.coord.effective op = true)
    (hspends : arrival.request.Spends token) (htask : j.server.task i = .call op next)
    (hstep : j.step (.advance i) = some k) : k.server.Dead token := by
  have hserver := server_step hstep
  have hlawful : j.server.Lawful (.advance i) := trivial
  refine ⟨hadmitted.settled.step hlawful hserver, fun row hrow htoken => ?_⟩
  obtain ⟨before, hbefore, hbecomes⟩ :=
    hguarded.fresh.row_before hadmitted.settled hserver hrow htoken
  have hsame := hbecomes.token.symm.trans htoken
  cases op with
  | createToken nodeId token' createdAt ttlSecs =>
      exact hbecomes.revoked (hadmitted.revoked nofun before hbefore hsame)
  | deleteNode nodeId =>
      -- The rows of the node are gone, and the token is one of its own.
      have howner := hadmitted.owned before hbefore hsame
      have hcaller : caller = some nodeId := hacting.1.2 nodeId rfl
      have hsound : j.server.coord.poisoned = false := by
        rw [Coordinator.effective, Bool.and_eq_true, Bool.not_eq_true'] at heffective
        exact heffective.1
      have hlocked : Coordinator.handle (.deleteNode nodeId) j.server.coord = _ :=
        Coordinator.locked_some (f := fun db => (db.deleteNode nodeId).map some id) hsound rfl
      rw [(advance_call htask hstep).1, hlocked] at hrow
      have hother := (Table.mem_delete.1 hrow).2
      rw [decide_eq_false_iff_not, hbecomes.nodeId] at hother
      exact absurd (Option.some.inj (howner.symm.trans hcaller)) hother
  | insertNode node token' ttlSecs =>
      obtain ⟨peer, req, hrequest, -⟩ := hmeans
      rw [hrequest] at hspends
      exact hspends.elim
  | updateHeartbeat nodeId endpoint viaRelay lastSeen =>
      obtain ⟨peer, authorization, req, hrequest, -⟩ := hmeans
      rw [hrequest] at hspends
      exact hspends.elim
  | _ => exact (takesEffect_of_effective heffective).elim

/-- An effect after a step was there before, or is the one of the operation that was made. -/
theorem mem_effects_step (hstep : j.step event = some k) (he : e ∈ k.effects) :
    e ∈ j.effects ∨ ∃ i next, event = .advance i ∧ j.arrivals i = some e.arrival ∧
      j.server.task i = .call e.op next ∧ j.server.coord.effective e.op = true := by
  obtain ⟨hsame, -⟩ | ⟨i, rfl, hsame⟩ := effects_step hstep
  · exact .inl (hsame ▸ he)
  · rw [hsame, List.mem_append] at he
    refine he.imp_right fun he => ?_
    obtain ⟨next, harrival, htask, heffective⟩ := mem_effect.1 he
    exact ⟨i, next, rfl, harrival, htask, heffective⟩

theorem length_effects (hstep : j.step event = some k) : j.effects.length ≤ k.effects.length := by
  obtain ⟨hsame, -⟩ | ⟨i, -, hsame⟩ := effects_step hstep
  · rw [hsame]
  · rw [hsame, List.length_append]
    exact Nat.le_add_right _ _

/-- The handler that makes the operation of a new effect was admitted for it. -/
theorem Guarded.of_effective (h : j.Guarded) {next : e.op.Result → Handler Response}
    (harrival : j.arrivals i = some e.arrival) (htask : j.server.task i = .call e.op next)
    (heffective : j.server.coord.effective e.op = true) :
    ∃ now caller, e.arrival.clock.val ≤ now.val ∧ (∀ token, e.arrival.request.bearer = some token →
      j.Admitted e.arrival caller (.call e.op next) token) ∧
        Acting e.arrival.request now caller (.call e.op next) := by
  have hstage := h.stage i e.arrival harrival
  rw [htask] at hstage
  exact hstage.of_effective heffective

theorem Guarded.renewing_step (h : j.Guarded) (hstep : j.step event = some k) (i : ℕ) :
    (k.server.task i).Always Renewing := by
  obtain ⟨htask, -⟩ | ⟨request, draws, -, htask, -⟩ | ⟨-, -, htask⟩ | ⟨htask, -⟩ :=
    task_step hstep i
  · rw [htask]
    exact h.renewing i
  · rw [htask]
    exact (handler_renewable request).2
  · rw [htask]
    exact Program.Always.step (h.renewing i) _
  · rw [htask]
    trivial

theorem Guarded.stage_step (h : j.Guarded) (hlawful : j.server.Lawful event)
    (hstep : j.step event = some k) (i : ℕ) (arrival : Arrival)
    (harrival : k.arrivals i = some arrival) :
    (arrival.clock.val ≤ k.server.coord.clock.val ∧ arrival.seen ≤ k.effects.length) ∧
      k.Stage arrival (k.server.task i) := by
  have hclock := Server.clock_of_step hlawful (server_step hstep)
  have hlength := length_effects hstep
  have harrived (hbefore : j.arrivals i = some arrival) :
      arrival.clock.val ≤ k.server.coord.clock.val ∧ arrival.seen ≤ k.effects.length :=
    ⟨(h.arrived i arrival hbefore).1.trans hclock, (h.arrived i arrival hbefore).2.trans hlength⟩
  have hwait (hbefore : j.arrivals i = some arrival) : k.Stage arrival (j.server.task i) :=
    (h.stage i arrival hbefore).wait h.fresh (h.arrived i arrival hbefore).2 hlawful hstep
  obtain ⟨htask, hsame⟩ | ⟨request, draws, -, htask, hnew⟩ | ⟨rfl, hsame, htask⟩ | ⟨htask, hsame⟩ :=
    task_step hstep i
  · have hbefore := hsame ▸ harrival
    exact ⟨harrived hbefore, htask ▸ hwait hbefore⟩
  · cases hnew.symm.trans harrival
    exact ⟨⟨hclock, hlength⟩, .opening (htask ▸ handler_opening request)⟩
  · have hbefore := hsame ▸ harrival
    refine ⟨harrived hbefore, ?_⟩
    cases hcase : (j.server.task i).isRunning with
    | true =>
        cases hcall : j.server.task i with
        | call op next =>
            have hstage := h.stage i arrival hbefore
            rw [hcall] at hstage
            exact hstage.advance h hbefore hcall hstep
        | _ =>
            rw [hcall] at hcase
            cases hcase
    | false =>
        rw [htask, Program.step_of_not_running hcase]
        exact hwait hbefore
  · rw [htask]
    exact ⟨harrived (hsame ▸ harrival), .opening trivial⟩

theorem Guarded.step (h : j.Guarded) (hlawful : j.server.Lawful event)
    (hstep : j.step event = some k) : k.Guarded where
  coherent := h.coherent.step hstep
  fresh := h.fresh.step hlawful (server_step hstep)
  renewing := h.renewing_step hstep
  arrived i arrival harrival := (h.stage_step hlawful hstep i arrival harrival).1
  stage i arrival harrival := (h.stage_step hlawful hstep i arrival harrival).2
  spent e he token hspends := by
    obtain he | ⟨i, next, rfl, harrival, htask, heffective⟩ := mem_effects_step hstep he
    · exact (h.spent e he token hspends).step h.fresh hlawful (server_step hstep)
    · obtain ⟨now, caller, -, hadmitted, hacting⟩ := h.of_effective harrival htask heffective
      have hmeant := h.coherent.meant i _ harrival
      rw [htask] at hmeant
      exact dead_of_spends h (hadmitted token (bearer_of_spends hspends)) hacting hmeant.1
        heffective hspends htask hstep
  timely e he := by
    obtain he | ⟨i, next, -, harrival, htask, heffective⟩ := mem_effects_step hstep he
    · exact h.timely e he
    · obtain ⟨now, caller, hclock, -, hacting⟩ := h.of_effective harrival htask heffective
      exact ⟨now, hclock, hacting.1.1 (takesEffect_of_effective heffective)⟩
  unspent e he := by
    obtain he | ⟨i, next, -, harrival, htask, heffective⟩ := mem_effects_step hstep he
    · obtain ⟨hseen, hunspent⟩ := h.unspent e he
      rw [take_effects hstep hseen]
      exact ⟨hseen.trans (length_effects hstep), hunspent⟩
    · obtain ⟨now, caller, -, hadmitted, -⟩ := h.of_effective harrival htask heffective
      obtain ⟨-, hseen⟩ := h.arrived i _ harrival
      rw [take_effects hstep hseen]
      exact ⟨hseen.trans (length_effects hstep), fun token htoken => (hadmitted token htoken).unspent⟩

theorem start_guarded {ttl : I64} (httl : 0 < ttl.val) (clock : Clock) (instant : Instant) :
    (start ttl clock instant).Guarded where
  coherent := start_coherent
  fresh := Server.start_fresh httl clock instant
  renewing _ := trivial
  arrived _ _ h := nomatch h
  stage _ _ h := nomatch h
  spent _ h := absurd h List.not_mem_nil
  timely _ h := absurd h List.not_mem_nil
  unspent _ h := absurd h List.not_mem_nil

/-! ## Insertions in a run -/

omit [Profile] [CoordCrates] in
/-- One more entry at the end of a list is the chosen one, or comes after it. -/
theorem snoc_eq {α : Type} {l first rest : List α} {x e : α} (h : l ++ [x] = first ++ e :: rest) :
    (rest = [] ∧ e = x ∧ first = l) ∨ ∃ rest', rest = rest' ++ [x] ∧ l = first ++ e :: rest' := by
  rcases List.eq_nil_or_concat rest with rfl | ⟨rest', y, rfl⟩
  · obtain ⟨rfl, hx⟩ := List.append_inj' h rfl
    exact .inl ⟨rfl, (List.cons.inj hx).1.symm, rfl⟩
  · have hsplit : l ++ [x] = (first ++ e :: rest') ++ [y] := by
      rw [h, List.append_assoc, List.cons_append, List.concat_eq_append]
    obtain ⟨hl, hx⟩ := List.append_inj' hsplit rfl
    exact .inr ⟨rest', by rw [(List.cons.inj hx).1, List.concat_eq_append], hl⟩

/-- A step leaves every row in the database, with its keys, and adds no effect, or it adds the
effect of an operation. -/
theorem effects_cases (h : j.Coherent) (hstep : j.step event = some k) :
    (k.effects = j.effects ∧ ∀ n ∈ j.server.coord.db.nodes.rows,
      ∃ n' ∈ k.server.coord.db.nodes.rows, n'.nodeId = n.nodeId ∧
        n'.identityPubkey = n.identityPubkey ∧ n'.wgPubkey = n.wgPubkey) ∨
      ∃ arrival op, j.server.coord.effective op = true ∧
        k.effects = j.effects ++ [⟨arrival, op⟩] ∧
        k.server.coord = (Coordinator.handle op j.server.coord).2 := by
  obtain ⟨hrows, hsame⟩ | ⟨i, op, next, rfl, htask, hcoord, hadded⟩ := rows_step hstep
  · refine .inl ⟨hsame, fun n hn => ⟨n, ?_, rfl, rfl, rfl⟩⟩
    rw [hrows]
    exact hn
  · obtain ⟨arrival, -, heffect⟩ := h.effect_eq htask
    cases heffective : j.server.coord.effective op with
    | true =>
        rw [heffect, heffective, if_pos rfl] at hadded
        exact .inr ⟨arrival, op, heffective, hadded, hcoord⟩
    | false =>
        rw [heffect, heffective, if_neg Bool.false_ne_true, List.append_nil] at hadded
        refine .inl ⟨hadded, fun n hn => ⟨n, ?_, rfl, rfl, rfl⟩⟩
        have hkept : j.server.coord.effective op = true → op ≠ .deleteNode n.nodeId :=
          fun h => nomatch heffective.symm.trans h
        have hrow := Coordinator.row_handle hn hkept
        rw [heffective, if_neg Bool.false_ne_true] at hrow
        rwa [hcoord]

/-- The rows of the nodes that were inserted: each is there until the node is deleted, and until
then no other node has its keys. -/
structure Accounted (j : Journal) : Prop where
  takes : ∀ e ∈ j.effects, e.op.TakesEffect
  stored : ∀ first e rest node token ttlSecs, j.effects = first ++ e :: rest →
    e.op = .insertNode node token ttlSecs →
      (∃ n ∈ j.server.coord.db.nodes.rows, n.nodeId = node.nodeId ∧
        n.identityPubkey = node.identityPubkey ∧ n.wgPubkey = node.wgPubkey) ∨
        ∃ d ∈ rest, d.op = .deleteNode node.nodeId
  apart : ∀ first e between e' rest node token ttlSecs node' token' ttlSecs',
    j.effects = first ++ e :: (between ++ e' :: rest) → e.op = .insertNode node token ttlSecs →
      e'.op = .insertNode node' token' ttlSecs' →
        (node.identityPubkey = node'.identityPubkey ∨ node.wgPubkey = node'.wgPubkey) →
          ∃ d ∈ between, d.op = .deleteNode node.nodeId

omit [Profile] in
theorem start_accounted {ttl : I64} {clock : Clock} {instant : Instant} :
    (start ttl clock instant).Accounted where
  takes _ h := absurd h List.not_mem_nil
  stored first e rest _ _ _ h := absurd h (by simp [start])
  apart first e between e' rest _ _ _ _ _ _ h := absurd h (by simp [start])

theorem Accounted.step (h : j.Accounted) (hcoherent : j.Coherent) (hstep : j.step event = some k) :
    k.Accounted := by
  obtain ⟨hsame, hrows⟩ | ⟨arrival, op, heffective, hadded, hcoord⟩ := effects_cases hcoherent hstep
  · refine ⟨hsame ▸ h.takes, ?_, hsame ▸ h.apart⟩
    intro first e rest node token ttlSecs heffects hop
    rw [hsame] at heffects
    obtain ⟨n, hn, hid, hidentity, hwg⟩ | hdeleted := h.stored _ _ _ _ _ _ heffects hop
    · obtain ⟨n', hn', hid', hidentity', hwg'⟩ := hrows n hn
      exact .inl ⟨n', hn', hid'.trans hid, hidentity'.trans hidentity, hwg'.trans hwg⟩
    · exact .inr hdeleted
  · have hinserted {node : NodeRecord} {token : String} {ttlSecs : ℤ}
        (hop : op = .insertNode node token ttlSecs) :
        NodeColumn.clashes j.server.coord.db.nodes.rows node.inserted = [] ∧
          node.inserted ∈ k.server.coord.db.nodes.rows := by
      subst hop
      rw [Coordinator.effective, Bool.and_eq_true, Bool.not_eq_true', List.isEmpty_iff]
        at heffective
      obtain ⟨hsound, hclashes⟩ := heffective
      rw [hcoord, Coordinator.handle_rows, hsound, if_neg Bool.false_ne_true, Op.rows, if_pos hclashes]
      exact ⟨hclashes, List.mem_append_right _ (List.mem_singleton_self _)⟩
    refine ⟨?_, ?_, ?_⟩
    · intro e he
      rw [hadded, List.mem_append, List.mem_singleton] at he
      obtain he | rfl := he
      · exact h.takes e he
      · exact takesEffect_of_effective heffective
    · intro first e rest node token ttlSecs heffects hop
      rw [hadded] at heffects
      obtain ⟨rfl, rfl, rfl⟩ | ⟨rest', rfl, hbefore⟩ := snoc_eq heffects
      · exact .inl ⟨node.inserted, (hinserted hop).2, rfl, rfl, rfl⟩
      · obtain ⟨n, hn, hid, hidentity, hwg⟩ | ⟨d, hd, hdeleted⟩ := h.stored _ _ _ _ _ _ hbefore hop
        · by_cases hgone : op = .deleteNode n.nodeId
          · exact .inr ⟨_, List.mem_append_right _ (List.mem_singleton_self _), hid ▸ hgone⟩
          · have hrow := Coordinator.row_handle hn fun _ => hgone
            obtain ⟨hid', hidentity', hwg'⟩ := n.heard_keys op
            rw [heffective, if_pos rfl, ← hcoord] at hrow
            exact .inl ⟨_, hrow, hid'.trans hid, hidentity'.trans hidentity, hwg'.trans hwg⟩
        · exact .inr ⟨d, List.mem_append_left _ hd, hdeleted⟩
    · intro first e between e' rest node token ttlSecs node' token' ttlSecs' heffects hop hop' hkeys
      have heffects' : j.effects ++ [⟨arrival, op⟩] = (first ++ e :: between) ++ e' :: rest := by
        rw [← hadded, heffects, List.append_assoc, List.cons_append]
      obtain ⟨rfl, rfl, hbefore⟩ | ⟨rest', rfl, hbefore⟩ := snoc_eq heffects'
      · obtain ⟨n, hn, -, hidentity, hwg⟩ | hdeleted := h.stored _ _ _ _ _ _ hbefore.symm hop
        · -- A row with the same keys would be in the way.
          have hapart := apart_of_clashes_nil (hinserted hop').1 n hn
          obtain hsame | hsame := hkeys
          · exact absurd (hidentity.trans hsame) (hapart .identityPubkey)
          · exact absurd (hwg.trans hsame) (hapart .wgPubkey)
        · exact hdeleted
      · rw [List.append_assoc, List.cons_append] at hbefore
        exact h.apart _ _ _ _ _ _ _ _ _ _ _ hbefore hop hop' hkeys

/-! ## Replays -/

omit [Profile] in
/-- A registration that takes effect inserts a node with its keys. -/
theorem insertNode_of_register {peer : SocketAddr} {req : RegisterRequest}
    (hrequest : e.arrival.request = .register peer req) (hmeans : e.arrival.request.Means e.op)
    (htakes : e.op.TakesEffect) :
    ∃ node token ttlSecs, e.op = .insertNode node token ttlSecs ∧ req.Registers node := by
  obtain ⟨arrival, op⟩ := e
  have hrequest : arrival.request = .register peer req := hrequest
  have hmeans : arrival.request.Means op := hmeans
  rw [hrequest] at hmeans
  cases op with
  | insertNode node token ttlSecs =>
      obtain ⟨_, _, hsame, hregisters⟩ := hmeans
      cases hsame
      exact ⟨node, token, ttlSecs, rfl, hregisters⟩
  | updateHeartbeat nodeId endpoint viaRelay lastSeen =>
      obtain ⟨_, _, _, hsame, -⟩ := hmeans
      cases hsame
  | createToken | deleteNode =>
      obtain ⟨_, _, _, hsame⟩ := hmeans
      cases hsame
  | _ => exact htakes.elim

/-- The difference of a time that is not negative and the clock does not overflow. -/
theorem clock_le_of_inTime {request : Request} {now : Clock} {timestamp : I64}
    (h : request.InTime now) (htimestamp : request.timestamp = some timestamp)
    (hpositive : 0 ≤ timestamp.val) : now.val ≤ timestamp.val + timestampWindowSeconds := by
  obtain ⟨timestamp', hsame, hvalid⟩ := h
  cases htimestamp.symm.trans hsame
  have hnow := now.property
  have htime := timestamp.property
  unfold I64.InRange at htime
  have hdiff : I64.InRange (now.val - timestamp.val) := by
    unfold I64.InRange
    omega
  have habs : I64.InRange |now.val - timestamp.val| := by
    unfold I64.InRange
    rcases abs_cases (now.val - timestamp.val) with ⟨heq, -⟩ | ⟨heq, -⟩ <;> rw [heq] <;> omega
  rw [validateTimestamp, I64.value_eq hdiff] at hvalid
  simp only [Option.bind_eq_bind, Option.bind_some, I64.value_eq habs, Option.pure_def,
    Option.some.injEq] at hvalid
  split at hvalid
  · cases hvalid
  · rename_i hwindow
    have hle := le_abs_self (now.val - timestamp.val)
    omega

/-- What bounds a replay. In every run with a clock that does not go back and tokens that are not
drawn twice, a request takes effect only if it has come within 300 seconds of the time that it
signs; a registration takes effect again only after the node that it inserted has been deleted;
and once a refresh or a deletion has taken effect with a bearer token, no request that comes later
takes effect with it. -/
theorem replays_bounded {ttl : I64} {clock : Clock} {instant : Instant} {events : List Event}
    (httl : 0 < ttl.val)
    (hlawful : Transition.AllSteps step (fun j event => j.server.Lawful event)
      (start ttl clock instant) events)
    (hrun : Transition.exec step (start ttl clock instant) events = some j) :
    (∀ e ∈ j.effects, ∃ timestamp, e.arrival.request.timestamp = some timestamp ∧
        (0 ≤ timestamp.val → e.arrival.clock.val ≤ timestamp.val + 300)) ∧
      (∀ first e between e' rest peer peer' req,
        j.effects = first ++ e :: (between ++ e' :: rest) →
          e.arrival.request = .register peer req → e'.arrival.request = .register peer' req →
            ∃ node token ttlSecs, e.op = .insertNode node token ttlSecs ∧
              ∃ d ∈ between, d.op = .deleteNode node.nodeId) ∧
      ∀ first e between e' rest token, j.effects = first ++ e :: (between ++ e' :: rest) →
        e.arrival.request.Spends token → e'.arrival.request.bearer = some token →
          e'.arrival.seen ≤ first.length := by
  obtain ⟨hguarded, haccounted⟩ : j.Guarded ∧ j.Accounted :=
    Transition.invariant (I := fun j => j.Guarded ∧ j.Accounted)
      (fun _ _ _ h hgood hstep => ⟨h.1.step hgood hstep, h.2.step h.1.coherent hstep⟩)
      ⟨start_guarded httl clock instant, start_accounted⟩ hlawful hrun
  refine ⟨fun e he => ?_, ?_, ?_⟩
  · obtain ⟨now, hclock, htime⟩ := hguarded.timely e he
    obtain ⟨timestamp, htimestamp, hvalid⟩ := htime
    exact ⟨timestamp, htimestamp, fun hpositive =>
      hclock.trans (clock_le_of_inTime ⟨timestamp, htimestamp, hvalid⟩ htimestamp hpositive)⟩
  · intro first e between e' rest peer peer' req heffects hrequest hrequest'
    have he : e ∈ j.effects := by
      rw [heffects]
      exact List.mem_append_right _ List.mem_cons_self
    have he' : e' ∈ j.effects := by
      rw [heffects]
      exact List.mem_append_right _ (List.mem_cons_of_mem _
        (List.mem_append_right _ List.mem_cons_self))
    obtain ⟨node, token, ttlSecs, hop, identity, wg, hidentity, hwg, hkey, -⟩ :=
      insertNode_of_register hrequest (hguarded.coherent.effects e he) (haccounted.takes e he)
    obtain ⟨node', token', ttlSecs', hop', identity', wg', hidentity', -, hkey', -⟩ :=
      insertNode_of_register hrequest' (hguarded.coherent.effects e' he') (haccounted.takes e' he')
    cases hidentity.symm.trans hidentity'
    exact ⟨node, token, ttlSecs, hop, haccounted.apart _ _ _ _ _ _ _ _ _ _ _ heffects hop hop'
      (.inl (hkey.trans hkey'.symm))⟩
  · intro first e between e' rest token heffects hspends hbearer
    -- The spent token would be among the effects that the later request has seen.
    by_contra hlater
    have he' : e' ∈ j.effects := by
      rw [heffects]
      exact List.mem_append_right _ (List.mem_cons_of_mem _
        (List.mem_append_right _ List.mem_cons_self))
    have htaken : e ∈ j.effects.take e'.arrival.seen := by
      have hpos : e'.arrival.seen - first.length ≠ 0 := by omega
      obtain ⟨n, hn⟩ := Nat.exists_eq_succ_of_ne_zero hpos
      rw [heffects, List.take_append, hn]
      exact List.mem_append_right _ List.mem_cons_self
    exact (hguarded.unspent e' he').2 token hbearer e htaken hspends

end Journal

end

/-! ## A registration that comes again -/

namespace Parties

attribute [local instance] crates Symbolic.release

/-- The owner deletes its node, and another client sends the registration again. -/
def replayedRegistration : List Event :=
  registration ++ .spawn 1 (deleteBy 1 (key 1) firstToken (seconds 1000)) (draws "" 8) ::
    (advances 1 5 ++
      .spawn 2 (registerBy 9 (key 1) (key 2) (seconds 1000)) (draws "again" 9) :: advances 2 4)

/-- The clients and bodies of the registrations that took effect. -/
def registrations (j : Journal) : List (SocketAddr × RegisterRequest) :=
  j.effects.filterMap fun e =>
    match e.arrival.request with
    | .register peer req => some (peer, req)
    | _ => none

/-- The token that a handler has returned. -/
def returned (j : Journal) (i : ℕ) : Option String :=
  match j.server.task i with
  | .done (.registered response) => some response.authToken
  | _ => none

/-- One body registers a node, and again a node after the first one is deleted; the token of the
second one goes to the client that has sent it again. -/
theorem registration_replayed : ∃ j peer peer' req,
    Transition.exec Journal.step journal replayedRegistration = some j ∧
      registrations j = [(peer, req), (peer', req)] ∧ peer ≠ peer' ∧
      returned j 2 = some (draws "again" 9).authToken ∧
      (j.server.coord.db.getNodeByToken (draws "again" 9).authToken 1000).isSome = true := by
  have hcheck : (Transition.exec Journal.step journal replayedRegistration).any (fun j =>
      decide ((registrations j).length = 2) &&
      decide ((registrations j).head?.map Prod.fst ≠ (registrations j).getLast?.map Prod.fst) &&
      decide ((registrations j).head?.map Prod.snd = (registrations j).getLast?.map Prod.snd) &&
      decide (returned j 2 = some (draws "again" 9).authToken) &&
      (j.server.coord.db.getNodeByToken (draws "again" 9).authToken 1000).isSome) = true := by
    decide +kernel
  simp only [Option.any_eq_true, Bool.and_eq_true, decide_eq_true_eq] at hcheck
  obtain ⟨j, hj, ⟨⟨⟨hlength, hpeers⟩, hreqs⟩, hreturned⟩, hfound⟩ := hcheck
  obtain ⟨⟨peer, req⟩, ⟨peer', req'⟩, heq⟩ := List.length_eq_two.1 hlength
  rw [heq] at hpeers hreqs
  cases hreqs
  have hne : peer ≠ peer' := fun h => hpeers (congrArg some h)
  exact ⟨j, peer, peer', req, hj, heq, hne, hreturned, hfound⟩

/-- Each of the registrations came within 300 seconds, and between them their node is deleted. -/
theorem deleted_between_registrations : ∃ j,
    Transition.exec Journal.step journal replayedRegistration = some j ∧ j.effects.length = 3 ∧
      (∀ e ∈ j.effects, ∃ timestamp, e.arrival.request.timestamp = some timestamp ∧
        (0 ≤ timestamp.val → e.arrival.clock.val ≤ timestamp.val + 300)) ∧
      ∀ first e between e' rest peer peer' req,
        j.effects = first ++ e :: (between ++ e' :: rest) →
          e.arrival.request = .register peer req → e'.arrival.request = .register peer' req →
            ∃ node token ttlSecs, e.op = .insertNode node token ttlSecs ∧
              ∃ d ∈ between, d.op = .deleteNode node.nodeId := by
  have hcheck : (Transition.exec Journal.step journal replayedRegistration).any (fun j =>
      decide (Transition.AllSteps Journal.step (fun j event => j.server.Lawful event) journal
        replayedRegistration) && decide (j.effects.length = 3)) = true := by
    decide +kernel
  simp only [Option.any_eq_true, Bool.and_eq_true, decide_eq_true_eq] at hcheck
  obtain ⟨j, hj, hlawful, hlength⟩ := hcheck
  obtain ⟨htimely, hregistered, -⟩ := Journal.replays_bounded (by decide) hlawful hj
  exact ⟨j, hj, hlength, htimely, hregistered⟩

end Parties

end Naboscale.Coord
