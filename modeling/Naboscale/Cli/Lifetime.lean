import Naboscale.Cli.Commands
import Naboscale.Transition

/-!
# The token of a daemon over time

`cmd_up` asks for the peers, sends a heartbeat and starts the heartbeat task, which sleeps for 20 s
before it looks at the expiry for the first time. A token that does not live that long is never
refreshed. Later rounds find the token with 31 s left at the least, which is more than they take.
-/

namespace Naboscale.Cli

open Rust Concurrent Coord

/-- Milliseconds that requests take: until they are handled, and from then on. -/
structure Delays where
  toPeers : ℕ
  afterPeers : ℕ
  toRefresh : ℕ
  afterRefresh : ℕ
  toHeartbeat : ℕ
  afterHeartbeat : ℕ

/-- The time before and after the moment at which a step takes effect. -/
def Delays.of (d : Delays) : Action → ℕ × ℕ
  | .peers _ => (d.toPeers, d.afterPeers)
  | .refreshToken _ => (d.toRefresh, d.afterRefresh)
  | .heartbeat _ _ _ => (d.toHeartbeat, d.afterHeartbeat)
  | .load | .save _ | .timestamp | .taiSeconds => (0, 0)

/-- The time from the moment at which the listing of `cmd_up` is handled to the start of the loop:
the setup of the tunnel lies between the listing and the heartbeat. -/
def Delays.setup (d : Delays) : ℕ := d.afterPeers + d.toHeartbeat + d.afterHeartbeat

/-- One round of the heartbeat task: its requests take less than 10 s together, and the coordinator
draws a token for a refresh. -/
structure Timing extends Delays where
  drawn : String
  short : toRefresh + afterRefresh + toHeartbeat + afterHeartbeat < 10000

/-- The sleep at the start of a round. -/
def sleepMillis : ℕ := 20000

/-- The world, and whether each heartbeat sent so far had a token that the coordinator accepts. -/
structure Watch where
  world : World
  accepted : List Bool

/-- The watch when the heartbeat task wakes up. -/
def Watch.awake (s : Watch) : Watch := { s with world := s.world.later sleepMillis }

/-- The heartbeat task between two rounds. -/
structure Task where
  authToken : String
  watch : Watch

section General

variable [Profile] [CoordCrates]

/-- What a heartbeat that is handled in a world adds to the watch. -/
def World.heard (w : World) : Action → List Bool
  | .heartbeat token _ _ => [(w.db.getNodeByToken token w.now).isSome]
  | _ => []

/-- A step that takes time. -/
def Watch.handle (d : Delays) (drawn : String) : Semantics Action Action.Result Watch
  | action, s =>
      let before := s.world.later (d.of action).1
      let (result, world) := World.handle drawn action before
      (result, ⟨world.later (d.of action).2, s.accepted ++ before.heard action⟩)

/-- `cmd_up` up to the heartbeat task, which gets the token that was loaded. -/
def cmdUp (endpoint : String) (viaRelay : Option String) : Command String := do
  let state ← Action.load.call
  let answer ← (Action.peers state.authToken).call
  let _ ← .lift id answer
  let _ ← (Action.heartbeat state.authToken endpoint viaRelay).call
  let now ← Action.taiSeconds.call
  (Action.save { state with lastEndpoint := some endpoint, lastHandshakeAt := some now }).call
  pure state.authToken

/-- The coordinator can serve the round: what it draws is not stored, and no time of the round
overflows. -/
def Watch.Serves (s : Watch) (t : Timing) : Prop :=
  (∀ row ∈ s.world.db.tokens.rows, row.token ≠ t.drawn) ∧
    (s.world.later (sleepMillis + 10000)).now + s.world.ttlSecs < 2 ^ 63

instance (s : Watch) (t : Timing) : Decidable (s.Serves t) := inferInstanceAs (Decidable (_ ∧ _))

/-- One round of the heartbeat task: it sleeps, and then does its work. -/
def round (endpoint : String) (viaRelay : Option String) (task : Task) (t : Timing) : Option Task :=
  if task.watch.Serves t then
    match (heartbeatRound endpoint viaRelay task.authToken).run
        (Watch.handle t.toDelays t.drawn) task.watch.awake with
    | (.ok authToken, watch) => some ⟨authToken, watch⟩
    | _ => none
  else none

/-- A run of `cmd_up` from the start on, where the coordinator accepts the first listing; it watches
the heartbeats of the loop. -/
def up (endpoint : String) (viaRelay : Option String) (w : World) (startup : Delays)
    (timings : List Timing) : Option Task :=
  match (cmdUp endpoint viaRelay).run (Watch.handle startup "") ⟨w, []⟩ with
  | (.ok authToken, watch) =>
      Transition.exec (round endpoint viaRelay) ⟨authToken, ⟨watch.world, []⟩⟩ timings
  | _ => none

/-! ## One round -/

/-- The token that the task holds is a valid one of the node, and the file has its expiry, where it
has one. -/
structure Ready (task : Task) (nodeId : String) (row : TokenRecord) : Prop where
  unrevoked : row ∈ task.watch.world.db.unrevoked nodeId
  held : task.authToken = row.token
  expiry : task.watch.world.file.authTokenExpiresAt = none ∨
    task.watch.world.file.authTokenExpiresAt = some row.expiresAt

variable {w : World} {s s' : Watch} {task task' : Task} {t : Timing} {nodeId endpoint token : String}
  {viaRelay : Option String} {row : TokenRecord} {d : Delays} {drawn : String}

/-! The steps that take no time. -/

theorem handle_load : Watch.handle d drawn .load s = (some s.world.file, s) := by
  simp [Watch.handle, Delays.of, World.handle, World.heard, World.later]

theorem handle_timestamp : Watch.handle d drawn .timestamp s = (some s.world.now, s) := by
  simp [Watch.handle, Delays.of, World.handle, World.heard, World.later]

theorem handle_taiSeconds :
    Watch.handle d drawn .taiSeconds s = (some (s.world.now + taiOffsetSeconds), s) := by
  simp [Watch.handle, Delays.of, World.handle, World.heard, World.later]

theorem handle_save {state : State} :
    Watch.handle d drawn (.save state) s =
      (some (), { s with world := { s.world with file := state } }) := by
  simp [Watch.handle, Delays.of, World.handle, World.heard, World.later]

/-- A heartbeat changes no token. -/
theorem handle_heartbeat (w : World) (drawn token endpoint : String) (viaRelay : Option String) :
    ∃ answer w', World.handle drawn (.heartbeat token endpoint viaRelay) w = (some answer, w') ∧
      w'.file = w.file ∧ w'.db.tokens = w.db.tokens ∧ w'.ttlSecs = w.ttlSecs ∧
      w'.millis = w.millis := by
  rw [World.handle]
  split <;> exact ⟨_, _, rfl, rfl, rfl, rfl, rfl⟩

/-- What a heartbeat and the save after it do. -/
structure Sent (d : Delays) (token : String) (s s' : Watch) : Prop where
  tokens : s'.world.db.tokens = s.world.db.tokens
  expiry : s'.world.file.authTokenExpiresAt = s.world.file.authTokenExpiresAt
  ttlSecs : s'.world.ttlSecs = s.world.ttlSecs
  millis : s'.world.millis = s.world.millis + d.toHeartbeat + d.afterHeartbeat
  accepted : s'.accepted = s.accepted ++
    [(s.world.db.getNodeByToken token (s.world.later d.toHeartbeat).now).isSome]

/-- The end of a round. -/
theorem run_heartbeat (d : Delays) (drawn token endpoint : String) (viaRelay : Option String)
    (s : Watch) : ∃ s', (do
      let _ ← (Action.heartbeat token endpoint viaRelay).call
      let state ← Action.load.call
      let now ← Action.taiSeconds.call
      (Action.save
        { state with lastEndpoint := some endpoint, lastHandshakeAt := some now }).call
      pure token : Command String).run (Watch.handle d drawn) s = (.ok token, s') ∧
      Sent d token s s' := by
  obtain ⟨answer, w', hw, hfile, htokens, httl, hmillis⟩ :=
    handle_heartbeat (s.world.later d.toHeartbeat) drawn token endpoint viaRelay
  have hhandle : Watch.handle d drawn (.heartbeat token endpoint viaRelay) s =
      (some answer, ⟨w'.later d.afterHeartbeat, s.accepted ++
        [(s.world.db.getNodeByToken token (s.world.later d.toHeartbeat).now).isSome]⟩) := by
    rw [Watch.handle, Delays.of, hw]
    rfl
  refine ⟨_, (Program.run_call hhandle).trans <| (Program.run_call handle_load).trans <|
    (Program.run_call handle_taiSeconds).trans <| Program.run_call handle_save,
    htokens, ?_, httl, ?_, rfl⟩
  · have hexpiry : w'.file.authTokenExpiresAt = s.world.file.authTokenExpiresAt := by rw [hfile]; rfl
    exact hexpiry
  · show w'.millis + d.afterHeartbeat = _
    rw [hmillis]
    rfl

/-- Where the token does not expire soon, nothing is refreshed. -/
theorem run_refreshExpiring_fresh {state : State} {now : ℤ}
    (h : isTokenExpiredSoon state.authTokenExpiresAt 60 now = false) :
    (refreshExpiring token state now).run (Watch.handle d drawn) s = (.ok token, s) := by
  rw [refreshExpiring, h]
  rfl

/-- A refresh that is refused leaves the token expired. -/
theorem run_refreshExpiring_refused {state : State} {now : ℤ}
    (h : isTokenExpiredSoon state.authTokenExpiresAt 60 now = true)
    (hrefused : s.world.db.getNodeByToken token (s.world.later d.toRefresh).now = none) :
    (refreshExpiring token state now).run (Watch.handle d drawn) s =
      (.ok token, { s with world := s.world.later (d.toRefresh + d.afterRefresh) }) := by
  have hhandle : Watch.handle d drawn (.refreshToken token) s =
      (some (.error .server), { s with world := s.world.later (d.toRefresh + d.afterRefresh) }) := by
    have hrefresh : (s.world.later d.toRefresh).refresh token drawn =
        (.error .server, s.world.later d.toRefresh) := World.refresh_refused hrefused
    simp only [Watch.handle, Delays.of, World.handle, hrefresh, World.heard, List.append_nil]
    simp only [World.later, Nat.add_assoc]
  rw [refreshExpiring, h]
  exact (Program.run_call hhandle).trans rfl

/-- A refresh that is granted gives the task and the file the new token of the node. -/
theorem run_refreshExpiring_granted {state : State} {now : ℤ} {caller : NodeRecord}
    (h : isTokenExpiredSoon state.authTokenExpiresAt 60 now = true)
    (hfound : s.world.db.getNodeByToken token (s.world.later d.toRefresh).now = some caller)
    (hserves : (s.world.later d.toRefresh).Serves drawn) :
    ∃ s', (refreshExpiring token state now).run (Watch.handle d drawn) s = (.ok drawn, s') ∧
      s'.accepted = s.accepted ∧ s'.world.ttlSecs = s.world.ttlSecs ∧
      s'.world.millis = s.world.millis + d.toRefresh + d.afterRefresh ∧
      ∃ row, row.token = drawn ∧
        row.expiresAt = (s.world.later d.toRefresh).now + s.world.ttlSecs ∧
        row ∈ s'.world.db.unrevoked caller.nodeId ∧
        s'.world.file.authTokenExpiresAt = some row.expiresAt := by
  obtain ⟨db, hrefresh, hunrevoked⟩ := World.refresh_granted hfound hserves
  have hhandle : Watch.handle d drawn (.refreshToken token) s =
      (some (.ok ⟨drawn, (s.world.later d.toRefresh).now + s.world.ttlSecs,
        (s.world.later d.toRefresh).now + s.world.ttlSecs⟩),
        { s with world := { s.world with db }.later (d.toRefresh + d.afterRefresh) }) := by
    simp only [Watch.handle, Delays.of, World.handle, hrefresh, World.heard, List.append_nil]
    simp only [World.later, Nat.add_assoc]
  rw [refreshExpiring, h]
  refine ⟨_, (Program.run_call hhandle).trans <| (Program.run_call handle_load).trans <|
    (Program.run_call handle_save).trans rfl, rfl, rfl, ?_, _, rfl, rfl,
    hunrevoked ▸ List.mem_singleton_self _, rfl⟩
  exact (Nat.add_assoc _ _ _).symm

omit [Profile] [CoordCrates] in
/-- The end of a round, as it is seen from a ready task: the heartbeat is accepted where the token
has not expired. -/
theorem Sent.ready (hsent : Sent d row.token s s')
    (hunrevoked : row ∈ s.world.db.unrevoked nodeId)
    (hexpiry : s.world.file.authTokenExpiresAt = none ∨
      s.world.file.authTokenExpiresAt = some row.expiresAt) :
    Ready ⟨row.token, s'⟩ nodeId row ∧ s'.accepted = s.accepted ++
      [decide ((s.world.later d.toHeartbeat).now < row.expiresAt)] := by
  refine ⟨⟨?_, rfl, hsent.expiry ▸ hexpiry⟩, ?_⟩
  · rw [Database.unrevoked, hsent.tokens]
    exact hunrevoked
  · have hrefused : s.world.db.getNodeByToken row.token (s.world.later d.toHeartbeat).now = none ↔
        row.expiresAt ≤ (s.world.later d.toHeartbeat).now :=
      Database.getNodeByToken_unrevoked hunrevoked
    rw [hsent.accepted]
    congr 2
    rw [Bool.eq_iff_iff, decide_eq_true_eq, ← not_le, ← hrefused, Option.isSome_iff_ne_none]

/-- A round is a load, a look at the clock, a refresh where one is due, and a heartbeat. -/
theorem run_heartbeatRound {token' : String} (endpoint : String) (viaRelay : Option String)
    (hrefresh : (refreshExpiring token s.world.file s.world.now).run (Watch.handle d drawn) s =
      (.ok token', s')) :
    ∃ s'', (heartbeatRound endpoint viaRelay token).run (Watch.handle d drawn) s =
      (.ok token', s'') ∧ Sent d token' s' s'' := by
  obtain ⟨s'', hrest, hsent⟩ := run_heartbeat d drawn token' endpoint viaRelay s'
  refine ⟨s'', (Program.run_call handle_load).trans <| (Program.run_call handle_timestamp).trans ?_,
    hsent⟩
  show Program.run _ (refreshExpiring token s.world.file s.world.now >>= _) s = _
  rw [Program.run_bind, hrefresh]
  exact hrest

omit [Profile] [CoordCrates] in
@[simp] theorem millis_later (w : World) (millis : ℕ) :
    (w.later millis).millis = w.millis + millis := rfl

omit [Profile] [CoordCrates] in
@[simp] theorem ttlSecs_later (w : World) (millis : ℕ) : (w.later millis).ttlSecs = w.ttlSecs := rfl

omit [Profile] [CoordCrates] in
@[simp] theorem world_awake (s : Watch) : s.awake.world = s.world.later sleepMillis := rfl

/-- A round that ends was served, and its program has returned. -/
theorem round_inv (h : round endpoint viaRelay task t = some task') :
    task.watch.Serves t ∧ (heartbeatRound endpoint viaRelay task.authToken).run
      (Watch.handle t.toDelays t.drawn) task.watch.awake = (.ok task'.authToken, task'.watch) := by
  unfold round at h
  split at h
  · rename_i hserves
    split at h
    · rename_i hrun
      cases h
      exact ⟨hserves, hrun⟩
    · cases h
  · cases h

/-- A round in which the refresh leaves the task with a valid token of the node. -/
theorem round_of_refresh {s : Watch} (hround : round endpoint viaRelay task t = some task')
    (hrefresh : (refreshExpiring task.authToken task.watch.awake.world.file
      task.watch.awake.world.now).run (Watch.handle t.toDelays t.drawn) task.watch.awake =
        (.ok row.token, s))
    (hunrevoked : row ∈ s.world.db.unrevoked nodeId)
    (hexpiry : s.world.file.authTokenExpiresAt = none ∨
      s.world.file.authTokenExpiresAt = some row.expiresAt) :
    Ready task' nodeId row ∧ task'.watch.world.ttlSecs = s.world.ttlSecs ∧
      task'.watch.world.millis = s.world.millis + t.toHeartbeat + t.afterHeartbeat ∧
      task'.watch.accepted = s.accepted ++
        [decide ((s.world.later t.toHeartbeat).now < row.expiresAt)] := by
  obtain ⟨-, hrun⟩ := round_inv hround
  obtain ⟨s'', hrun', hsent⟩ := run_heartbeatRound endpoint viaRelay hrefresh
  obtain ⟨htask, hwatch⟩ : Exit.ok task'.authToken = Exit.ok row.token ∧ task'.watch = s'' :=
    Prod.ext_iff.1 (hrun.symm.trans hrun')
  have htoken : task'.authToken = row.token := Exit.ok.inj htask
  obtain ⟨hready, haccepted⟩ := hsent.ready hunrevoked hexpiry
  have htask' : task' = ⟨row.token, s''⟩ := by
    rw [← htoken, ← hwatch]
  subst htask'
  exact ⟨hready, hsent.ttlSecs, hsent.millis, haccepted⟩

/-- A round before which the token lives for more than a minute leaves the token alone, and sends its
heartbeat in time. -/
theorem round_fresh {watch : Watch} (hunrevoked : row ∈ watch.world.db.unrevoked nodeId)
    (hexpiry : watch.world.file.authTokenExpiresAt = none ∨
      watch.world.file.authTokenExpiresAt = some row.expiresAt)
    (hsoon : isTokenExpiredSoon watch.world.file.authTokenExpiresAt 60 watch.awake.world.now = false)
    (hround : round endpoint viaRelay ⟨row.token, watch⟩ t = some task') :
    watch.awake.world.now + 60 < row.expiresAt ∧ Ready task' nodeId row ∧
      task'.watch.world.ttlSecs = watch.world.ttlSecs ∧
      task'.watch.world.now + 31 ≤ row.expiresAt ∧
      task'.watch.accepted = watch.accepted ++ [true] := by
  have hshort := t.short
  obtain ⟨hready, httl, hmillis, haccepted⟩ :=
    round_of_refresh hround (run_refreshExpiring_fresh hsoon) hunrevoked hexpiry
  have hlong : watch.awake.world.now + 60 < row.expiresAt := by
    obtain hnone | hsome := hexpiry
    · rw [hnone] at hsoon
      cases hsoon
    · rw [hsome] at hsoon
      exact not_le.1 (of_decide_eq_false hsoon)
  have hsent : (watch.awake.world.later t.toHeartbeat).now < row.expiresAt := by
    simp only [World.now, world_awake, millis_later] at hlong ⊢
    omega
  rw [decide_eq_true hsent] at haccepted
  refine ⟨hlong, hready, httl, ?_, haccepted⟩
  simp only [World.now, world_awake, millis_later] at hlong hmillis ⊢
  omega

/-- A refresh that comes too late is refused, and so is the heartbeat after it. -/
theorem round_refused {watch : Watch} (hunrevoked : row ∈ watch.world.db.unrevoked nodeId)
    (hexpiry : watch.world.file.authTokenExpiresAt = none ∨
      watch.world.file.authTokenExpiresAt = some row.expiresAt)
    (hsoon : isTokenExpiredSoon watch.world.file.authTokenExpiresAt 60 watch.awake.world.now = true)
    (hlate : row.expiresAt ≤ (watch.awake.world.later t.toRefresh).now)
    (hround : round endpoint viaRelay ⟨row.token, watch⟩ t = some task') :
    task'.watch.world.ttlSecs = watch.world.ttlSecs ∧
      task'.watch.accepted = watch.accepted ++ [false] := by
  have hrefused : watch.awake.world.db.getNodeByToken row.token
      (watch.awake.world.later t.toRefresh).now = none :=
    (Database.getNodeByToken_unrevoked hunrevoked).2 hlate
  obtain ⟨-, httl, -, haccepted⟩ :=
    round_of_refresh hround (run_refreshExpiring_refused hsoon hrefused) hunrevoked hexpiry
  have hsent : ¬ ((watch.awake.world.later (t.toRefresh + t.afterRefresh)).later
      t.toHeartbeat).now < row.expiresAt := by
    simp only [World.now, world_awake, millis_later] at hlate ⊢
    omega
  rw [decide_eq_false hsent] at haccepted
  exact ⟨httl, haccepted⟩

/-- A refresh that comes in time gives the task a token that outlives the next round. -/
theorem round_granted {watch : Watch} (hunrevoked : row ∈ watch.world.db.unrevoked nodeId)
    (httl : 60 < watch.world.ttlSecs)
    (hsoon : isTokenExpiredSoon watch.world.file.authTokenExpiresAt 60 watch.awake.world.now = true)
    (hearly : (watch.awake.world.later t.toRefresh).now < row.expiresAt)
    (hround : round endpoint viaRelay ⟨row.token, watch⟩ t = some task') :
    task'.watch.world.ttlSecs = watch.world.ttlSecs ∧
      task'.watch.accepted = watch.accepted ++ [true] ∧
      ∃ row', Ready task' nodeId row' ∧ task'.watch.world.now + 31 ≤ row'.expiresAt := by
  have hshort := t.short
  obtain ⟨⟨hfresh, hrange⟩, -⟩ := round_inv hround
  obtain ⟨caller, hfound⟩ : ∃ caller, watch.awake.world.db.getNodeByToken row.token
      (watch.awake.world.later t.toRefresh).now = some caller := by
    refine Option.ne_none_iff_exists'.1 fun hnone => not_le.2 hearly ?_
    exact (Database.getNodeByToken_unrevoked hunrevoked).1 hnone
  have hserves : (watch.awake.world.later t.toRefresh).Serves t.drawn := by
    refine ⟨hfresh, ?_⟩
    simp only [I64.InRange, World.now, world_awake, millis_later, ttlSecs_later] at hrange ⊢
    omega
  obtain ⟨s, hrefresh, hsame, httl', hmillis, row', htoken, hexpires, hunrevoked', hexpiry'⟩ :=
    run_refreshExpiring_granted hsoon hfound hserves
  have hcaller : caller.nodeId = nodeId := Database.nodeId_of_unrevoked hunrevoked hfound
  obtain ⟨hready, httl'', hmillis', haccepted⟩ := round_of_refresh hround (htoken ▸ hrefresh)
    (hcaller ▸ hunrevoked') (.inr hexpiry')
  have hsent : (s.world.later t.toHeartbeat).now < row'.expiresAt := by
    simp only [World.now, world_awake, millis_later, ttlSecs_later] at hexpires hmillis ⊢
    omega
  rw [hsame, decide_eq_true hsent] at haccepted
  refine ⟨httl''.trans httl', haccepted, row', hready, ?_⟩
  simp only [World.now, world_awake, millis_later, ttlSecs_later] at hexpires hmillis hmillis' ⊢
  omega

/-! ## A run -/

/-- A refresh of the next round would be handled before the token expires. -/
def InTime (task : Task) (t : Timing) (row : TokenRecord) : Prop :=
  (task.watch.awake.world.later t.toRefresh).now < row.expiresAt

/-- A round in time sends an accepted heartbeat, and the token lives for another 31 s after it. -/
theorem round_of_inTime (hready : Ready task nodeId row) (httl : 60 < task.watch.world.ttlSecs)
    (hintime : InTime task t row) (hround : round endpoint viaRelay task t = some task') :
    task'.watch.world.ttlSecs = task.watch.world.ttlSecs ∧
      task'.watch.accepted = task.watch.accepted ++ [true] ∧
      ∃ row', Ready task' nodeId row' ∧ task'.watch.world.now + 31 ≤ row'.expiresAt := by
  obtain ⟨authToken, watch⟩ := task
  obtain ⟨hunrevoked, hheld, hexpiry⟩ := hready
  obtain rfl : authToken = row.token := hheld
  cases hsoon : isTokenExpiredSoon watch.world.file.authTokenExpiresAt 60 watch.awake.world.now with
  | false =>
      obtain ⟨-, hready, httl', hlives, haccepted⟩ :=
        round_fresh hunrevoked hexpiry hsoon hround
      exact ⟨httl', haccepted, row, hready, hlives⟩
  | true => exact round_granted hunrevoked httl hsoon hintime hround

/-- A round that is late sends a heartbeat that is refused. -/
theorem round_of_late (hready : Ready task nodeId row) (hlate : ¬ InTime task t row)
    (hround : round endpoint viaRelay task t = some task') :
    task'.watch.accepted = task.watch.accepted ++ [false] := by
  obtain ⟨authToken, watch⟩ := task
  obtain ⟨hunrevoked, hheld, hexpiry⟩ := hready
  obtain rfl : authToken = row.token := hheld
  have hshort := t.short
  cases hsoon : isTokenExpiredSoon watch.world.file.authTokenExpiresAt 60 watch.awake.world.now with
  | false =>
      -- The token would live for a minute, which is longer than the refresh takes.
      obtain ⟨hlong, -⟩ := round_fresh hunrevoked hexpiry hsoon hround
      simp only [InTime, World.now, world_awake, millis_later] at hlate hlong
      omega
  | true => exact (round_refused hunrevoked hexpiry hsoon (not_lt.1 hlate) hround).2

/-- Every heartbeat so far was accepted, and the token lives for another 31 s. -/
structure Alive (nodeId : String) (task : Task) : Prop where
  ttlSecs : 60 < task.watch.world.ttlSecs
  lives : ∃ row, Ready task nodeId row ∧ task.watch.world.now + 31 ≤ row.expiresAt
  accepted : ∀ b ∈ task.watch.accepted, b = true

/-- What holds after the first round holds after every later one. -/
theorem Alive.round (halive : Alive nodeId task)
    (hround : Cli.round endpoint viaRelay task t = some task') : Alive nodeId task' := by
  obtain ⟨httl, ⟨row, hready, hlives⟩, haccepted⟩ := halive
  have hshort := t.short
  have hintime : InTime task t row := by
    simp only [InTime, World.now, world_awake, millis_later, sleepMillis] at hlives ⊢
    omega
  obtain ⟨httl', haccepted', hlives'⟩ := round_of_inTime hready httl hintime hround
  refine ⟨httl'.symm ▸ httl, hlives', ?_⟩
  rw [haccepted']
  simpa using haccepted

/-- A program only adds to the record. -/
theorem accepted_prefix {α : Type} (command : Command α) (d : Delays) (drawn : String) (s : Watch) :
    s.accepted <+: (command.run (Watch.handle d drawn) s).2.accepted := by
  induction command generalizing s with
  | done | fail | panic => exact List.prefix_rfl
  | call action next ih =>
      have hfirst : s.accepted <+: (Watch.handle d drawn action s).2.accepted :=
        List.prefix_append _ _
      rw [Program.run]
      split
      · rename_i hhandle
        rw [hhandle] at hfirst
        exact hfirst.trans (ih _ _)
      · rename_i hhandle
        rw [hhandle] at hfirst
        exact hfirst

/-- A heartbeat that was refused stays in the record. -/
theorem refused_of_round (h : round endpoint viaRelay task t = some task')
    (hrefused : false ∈ task.watch.accepted) : false ∈ task'.watch.accepted := by
  have hprefix := accepted_prefix (heartbeatRound endpoint viaRelay task.authToken) t.toDelays
    t.drawn task.watch.awake
  rw [(round_inv h).2] at hprefix
  exact hprefix.subset hrefused

/-- A run from a ready task: every heartbeat is accepted exactly if the first round is in time. -/
theorem accepted_iff_of_exec {timings : List Timing} (hready : Ready task nodeId row)
    (httl : 60 < task.watch.world.ttlSecs) (hnone : task.watch.accepted = [])
    (hrun : Transition.exec (round endpoint viaRelay) task timings = some task') :
    (∀ b ∈ task'.watch.accepted, b = true) ↔ ∀ t ∈ timings.head?, InTime task t row := by
  cases timings with
  | nil =>
      cases hrun
      simp [hnone]
  | cons t ts =>
      obtain ⟨next, hfirst, hrest⟩ := Transition.exec_cons_inv hrun
      simp only [List.head?_cons, Option.mem_some_iff, forall_eq']
      constructor
      · intro hall
        by_contra hlate
        have hrefused : false ∈ next.watch.accepted := by
          rw [round_of_late hready hlate hfirst, hnone]
          exact List.mem_singleton_self false
        have hstays : false ∈ task'.watch.accepted :=
          Transition.Reaches.invariant (I := fun task => false ∈ task.watch.accepted)
            (fun _ _ _ hmem hstep => refused_of_round hstep hmem) hrefused ⟨ts, hrest⟩
        cases hall false hstays
      · intro hintime
        obtain ⟨httl', haccepted, hlives⟩ := round_of_inTime hready httl hintime hfirst
        have halive : Alive nodeId next := by
          refine ⟨httl'.symm ▸ httl, hlives, ?_⟩
          rw [haccepted, hnone]
          simp
        exact (Transition.Reaches.invariant (I := Alive nodeId)
          (fun _ _ _ halive hstep => halive.round hstep) halive ⟨ts, hrest⟩).accepted

/-! ## The start of `cmd_up` -/

/-- A listing is answered to a token that finds its node. -/
theorem handle_peers_ok {entries : List PeerEntry}
    (h : Watch.handle d drawn (.peers token) s = (some (.ok entries), s')) :
    s.world.db.getNodeByToken token (s.world.later d.toPeers).now ≠ none ∧
      s' = ⟨(s.world.later d.toPeers).later d.afterPeers, s.accepted⟩ := by
  simp only [Watch.handle, Delays.of, World.handle, World.heard, List.append_nil] at h
  split at h
  · cases h
  · rename_i hfound
    cases h
    refine ⟨fun hnone => ?_, rfl⟩
    cases hnone.symm.trans hfound

/-- `cmd_up` hands the token that it loaded to a task that is ready for the first round. -/
theorem ready_of_cmdUp {s : Watch} (hunrevoked : row ∈ w.db.unrevoked nodeId)
    (hfile : w.file.authToken = row.token)
    (hexpiry : w.file.authTokenExpiresAt = none ∨ w.file.authTokenExpiresAt = some row.expiresAt)
    (hrun : (cmdUp endpoint viaRelay).run (Watch.handle d drawn) ⟨w, []⟩ = (.ok token, s)) :
    (w.later d.toPeers).now < row.expiresAt ∧ Ready ⟨token, ⟨s.world, []⟩⟩ nodeId row ∧
      s.world.ttlSecs = w.ttlSecs ∧ s.world.millis = w.millis + d.toPeers + d.setup := by
  obtain ⟨state, s₁, hload, hrest₁⟩ := Program.run_bind_ok hrun
  cases handle_load.symm.trans (Program.run_perform_ok hload)
  obtain ⟨answer, s₂, hpeers, hrest₂⟩ := Program.run_bind_ok hrest₁
  obtain ⟨entries, s₃, hlift, hrest₃⟩ := Program.run_bind_ok hrest₂
  obtain ⟨rfl, hs₃⟩ := Program.run_lift_ok hlift
  obtain ⟨hfound, hs₂⟩ := handle_peers_ok (Program.run_perform_ok hpeers)
  obtain ⟨beat, s₄, hbeat, hrest₄⟩ := Program.run_bind_ok hrest₃
  obtain ⟨seconds, s₅, hseconds, hrest₅⟩ := Program.run_bind_ok hrest₄
  cases handle_taiSeconds.symm.trans (Program.run_perform_ok hseconds)
  obtain ⟨_, s₆, hsave, hpure⟩ := Program.run_bind_ok hrest₅
  cases handle_save.symm.trans (Program.run_perform_ok hsave)
  cases hpure
  rw [hs₃, hs₂] at hbeat
  obtain ⟨answer, w', hw, hkept, htokens, httl, hmillis⟩ := handle_heartbeat
    (((w.later d.toPeers).later d.afterPeers).later d.toHeartbeat) drawn w.file.authToken endpoint
    viaRelay
  have hhandle := Program.run_perform_ok hbeat
  simp only [Watch.handle, Delays.of, hw] at hhandle
  cases hhandle
  rw [hfile, Ne, Database.getNodeByToken_unrevoked hunrevoked, not_le] at hfound
  refine ⟨hfound, ⟨?_, hfile, hexpiry⟩, httl, ?_⟩
  · show row ∈ w'.db.unrevoked nodeId
    rw [Database.unrevoked, htokens]
    exact hunrevoked
  · show w'.millis + d.afterHeartbeat = _
    rw [hmillis, Delays.setup]
    simp only [millis_later]
    omega

/-- From the moment at which the coordinator accepts the first listing of `cmd_up`, every heartbeat
of the loop carries a token that the coordinator accepts exactly if the token has not expired when
the refresh of the first round would be handled, 20 s and the rest of the start later. -/
theorem heartbeats_accepted_iff {timings : List Timing} (hunrevoked : row ∈ w.db.unrevoked nodeId)
    (hfile : w.file.authToken = row.token)
    (hexpiry : w.file.authTokenExpiresAt = none ∨ w.file.authTokenExpiresAt = some row.expiresAt)
    (httl : 60 < w.ttlSecs) (hrun : up endpoint viaRelay w d timings = some task) :
    (∀ b ∈ task.watch.accepted, b = true) ↔ ∀ t ∈ timings.head?,
      (w.later (d.toPeers + d.setup + sleepMillis + t.toRefresh)).now < row.expiresAt := by
  unfold up at hrun
  split at hrun
  · rename_i token s hstart
    obtain ⟨-, hready, httl', hmillis⟩ := ready_of_cmdUp hunrevoked hfile hexpiry hstart
    have htask : 60 < (Task.mk token ⟨s.world, []⟩).watch.world.ttlSecs := httl'.symm ▸ httl
    rw [accepted_iff_of_exec hready htask rfl hrun]
    refine forall₂_congr fun t _ => ?_
    simp only [InTime, World.now, world_awake, millis_later, hmillis, Nat.add_assoc]
  · cases hrun

end General

section Parties

open Coord.Parties

attribute [local instance] crates Symbolic.release

/-- A node whose token was made at the time 0 and lives for a day, before `cmd_up` runs. -/
def registeredAt (millis : ℕ) : World where
  file := ⟨"laptop", "100.100.0.1", "a", some 86400, none, none, []⟩
  db := (Database.empty.insertNode ⟨"laptop", [1], [2], "100.100.0.1", none, none, none, 0⟩
    "a" 86400).2
  ttlSecs := 86400
  millis := millis

/-- The row of its token. -/
def dayToken : TokenRecord := ⟨"a", "laptop", 0, 86400, false⟩

/-- Requests that take 100 ms each way. -/
def prompt : Delays := ⟨100, 100, 100, 100, 100, 100⟩

/-- Two rounds with such requests. -/
def rounds : List Timing := [⟨prompt, "b", by decide⟩, ⟨prompt, "c", by decide⟩]

/-- Whether the run ends with a record of heartbeats. -/
def records (millis : ℕ) (accepted : List Bool) : Bool :=
  (up "10.0.0.1:7" none (registeredAt millis) prompt rounds).any fun task =>
    decide (task.watch.accepted = accepted)

theorem exists_of_records {millis : ℕ} {accepted : List Bool}
    (h : records millis accepted = true) :
    ∃ task, up "10.0.0.1:7" none (registeredAt millis) prompt rounds = some task ∧
      task.watch.accepted = accepted := by
  obtain ⟨task, hrun, haccepted⟩ := (Option.any_eq_true _ _).1 h
  exact ⟨task, hrun, of_decide_eq_true haccepted⟩

/-- With 10 s left when the coordinator accepts the listing, no heartbeat of the loop is accepted. -/
theorem short_lived_token_lost : ∃ task,
    up "10.0.0.1:7" none (registeredAt 86390000) prompt rounds = some task ∧
      ((registeredAt 86390000).later prompt.toPeers).now + 10 = dayToken.expiresAt ∧
      task.watch.accepted = [false, false] := by
  obtain ⟨task, hrun, haccepted⟩ :=
    exists_of_records (show records 86390000 [false, false] = true by decide +kernel)
  exact ⟨task, hrun, by decide +kernel, haccepted⟩

/-- With half a minute left the first round refreshes the token, and all is well. -/
theorem token_refreshed_in_time : ∃ task,
    up "10.0.0.1:7" none (registeredAt 86370000) prompt rounds = some task ∧
      ∀ b ∈ task.watch.accepted, b = true := by
  obtain ⟨task, hrun, -⟩ :=
    exists_of_records (show records 86370000 [true, true] = true by decide +kernel)
  have hrow : dayToken ∈ (registeredAt 86370000).db.unrevoked "laptop" := by decide +kernel
  refine ⟨task, hrun, (heartbeats_accepted_iff hrow rfl (.inr rfl) (by decide) hrun).2 ?_⟩
  simp only [rounds, List.head?_cons, Option.mem_some_iff, forall_eq']
  decide +kernel

end Parties

end Naboscale.Cli
