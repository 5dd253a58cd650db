import Naboscale.Cli.Commands
import Naboscale.Transition

/-!
# The token of a daemon among commands

A daemon keeps its token twice, in `state.json` and in the heartbeat task, and commands on the same
directory write back what they loaded before their request. The task never reads the token again,
and a save restores the token of the load before it. Without a refresh of a command that is granted,
and without a save that puts another token in the place of the valid one, both stay valid.
-/

namespace Naboscale.Cli

open Rust Concurrent Coord

/-- What is started on the directory of a running daemon: the commands of the user, and the
discovery of the daemon itself. -/
inductive Launch where
  | peers
  | heartbeat (endpoint : String) (viaRelay : Option String)
  | refreshToken
  | discovery

/-- The command that is started. -/
def Launch.command : Launch → Command Unit
  | peers => cmdPeers
  | heartbeat endpoint viaRelay => cmdHeartbeat endpoint viaRelay
  | refreshToken => cmdRefreshToken
  | discovery => Cli.discovery

/-- A directory with a running daemon: the node, the arguments of the heartbeat task, the commands
in flight, and the round of the task, which between two rounds is done with the token it holds. -/
structure Host where
  world : World
  nodeId : String
  endpoint : String
  viaRelay : Option String
  commands : List (Command Unit)
  daemon : Command String

namespace Host

/-- What can happen: a command starts, a command or the heartbeat task makes one step, the task
wakes up, the time is another one. -/
inductive Event where
  | launch (command : Launch)
  | advance (i : ℕ) (drawn : String)
  | wake
  | beat (drawn : String)
  | clock (millis : ℕ)

/-! ## The heartbeat task -/

/-- The program sends the valid token only, and once it has replaced it in a refresh it saves the
new one before it ends. It counts on the file where the valid token is saved. -/
def Keeps : Command String → String → Bool → Prop
  | .done token, valid, saved => saved = true ∧ token = valid
  | .fail _, _, _ => False
  | .panic, _, _ => False
  | .call .load next, valid, saved =>
      ∀ state : State, (saved = true → state.authToken = valid) → Keeps (next state) valid saved
  | .call (.save state) next, valid, _ => state.authToken = valid ∧ Keeps (next ()) valid true
  | .call .timestamp next, valid, saved => ∀ time, Keeps (next time) valid saved
  | .call .taiSeconds next, valid, saved => ∀ time, Keeps (next time) valid saved
  | .call (.peers _) next, valid, saved => ∀ answer, Keeps (next answer) valid saved
  | .call (.heartbeat token _ _) next, valid, saved =>
      token = valid ∧ ∀ answer, Keeps (next answer) valid saved
  | .call (.refreshToken token) next, valid, saved =>
      saved = true ∧ token = valid ∧
        (∀ response, Keeps (next (.ok response)) response.authToken false) ∧
        ∀ e, Keeps (next (.error e)) valid true

/-- The rest of a round, after the refresh. -/
theorem keeps_heartbeat {endpoint : String} {viaRelay : Option String} {token : String} :
    Keeps (do
      let _ ← (Action.heartbeat token endpoint viaRelay).call
      let state ← Action.load.call
      let now ← Action.taiSeconds.call
      (Action.save
        { state with lastEndpoint := some endpoint, lastHandshakeAt := some now }).call
      pure token) token true :=
  ⟨rfl, fun _ _ hstate _ => ⟨hstate rfl, rfl, rfl⟩⟩

/-- A round that starts with the valid token keeps it. -/
theorem keeps_heartbeatRound {endpoint : String} {viaRelay : Option String} {token : String} :
    Keeps (heartbeatRound endpoint viaRelay token) token true := by
  intro state hstate now
  show Keeps (refreshExpiring token state now >>= _) token true
  unfold refreshExpiring
  split
  · refine ⟨rfl, rfl, fun response _ _ => ⟨rfl, keeps_heartbeat⟩, fun _ => keeps_heartbeat⟩
  · exact keeps_heartbeat

/-! ## Runs -/

instance (w : World) (drawn : String) : Decidable (w.Serves drawn) :=
  decidable_of_iff ((∀ t ∈ w.db.tokens.rows, t.token ≠ drawn) ∧ I64.InRange (w.now + w.ttlSecs))
    ⟨fun h => ⟨h.1, h.2⟩, fun h => ⟨h.fresh, h.inRange⟩⟩

section General

variable [Profile] [CoordCrates]

/-- One event. A program steps where the coordinator can serve it. -/
def step (h : Host) : Event → Option Host
  | .launch launch => some { h with commands := h.commands ++ [launch.command] }
  | .advance i drawn => do
      let command ← h.commands[i]?
      if h.world.Serves drawn then
        let (next, world) := command.step (World.handle drawn) h.world
        some { h with world, commands := h.commands.set i next }
      else none
  | .wake =>
      match h.daemon with
      | .done authToken =>
          some { h with daemon := heartbeatRound h.endpoint h.viaRelay authToken }
      | _ => none
  | .beat drawn =>
      if h.world.Serves drawn then
        let (daemon, world) := h.daemon.step (World.handle drawn) h.world
        some { h with world, daemon }
      else none
  | .clock millis => some { h with world := { h.world with millis } }

/-- The token is the one of the node that is not revoked: the coordinator accepts it until it
expires. -/
def Accepts (h : Host) (token : String) : Prop := h.world.db.validTokens h.nodeId = [token]

instance (h : Host) (token : String) : Decidable (h.Accepts token) :=
  inferInstanceAs (Decidable (_ = _))

/-- No command is in flight, and the heartbeat task sleeps. -/
def isQuiet (h : Host) : Bool :=
  h.commands.all (fun command => !command.isRunning) && !h.daemon.isRunning

/-- The token of the file and the one that the heartbeat task is going to use are valid. -/
structure InSync (h : Host) : Prop where
  saved : h.Accepts h.world.file.authToken
  held : ∃ token, h.daemon = .done token ∧ h.Accepts token

/-- The token that the heartbeat task sends with its next step. -/
def sends (h : Host) : Option String :=
  match h.daemon with
  | .call (.heartbeat token _ _) _ => some token
  | .call (.refreshToken token) _ => some token
  | _ => none

/-- The next step of a command is no refresh that is granted, and no save that puts another token in
the place of the valid one. -/
def Spares (h : Host) : Command Unit → Prop
  | .call (.refreshToken token) _ => h.world.db.getNodeByToken token h.world.now = none
  | .call (.save state) _ =>
      h.Accepts h.world.file.authToken → state.authToken = h.world.file.authToken
  | _ => True

instance (h : Host) : (command : Command Unit) → Decidable (h.Spares command)
  | .call (.refreshToken _) _ => inferInstanceAs (Decidable (_ = _))
  | .call (.save _) _ => inferInstanceAs (Decidable (_ → _))
  | .call .load _ | .call .timestamp _ | .call .taiSeconds _ | .call (.peers _) _ => .isTrue trivial
  | .call (.heartbeat _ _ _) _ | .done _ | .fail _ | .panic => .isTrue trivial

/-- No command takes the valid token away. -/
def Harmless (h : Host) : Event → Prop
  | .advance i _ => ∀ command ∈ h.commands[i]?, h.Spares command
  | _ => True

instance (h : Host) : (event : Event) → Decidable (h.Harmless event)
  | .advance _ _ => inferInstanceAs (Decidable (∀ _ ∈ _, _))
  | .launch _ | .wake | .beat _ | .clock _ => .isTrue trivial

/-! ## What a step does to the tokens -/

variable {h h' : Host} {w : World} {drawn valid : String} {saved : Bool} {row : TokenRecord}
  {nodeId : String}

/-- What the heartbeat task counts on: the node has one valid token, the file has it once it is
saved, and the rest of the round keeps it. -/
structure Holds (w : World) (nodeId : String) (daemon : Command String) (row : TokenRecord)
    (saved : Bool) : Prop where
  valid : w.db.unrevoked nodeId = [row]
  file : saved = true → w.file.authToken = row.token
  keeps : Keeps daemon row.token saved

omit [Profile] [CoordCrates] in
/-- What another program does leaves the heartbeat task its due if it changes neither the token
of the file nor the tokens of the database. -/
theorem Holds.frame {w' : World} {daemon : Command String} (hholds : Holds w nodeId daemon row saved)
    (hfile : saved = true → w'.file.authToken = row.token) (hdb : w'.db.tokens = w.db.tokens) :
    Holds w' nodeId daemon row saved where
  valid := by rw [Database.unrevoked, hdb]; exact hholds.valid
  file := hfile
  keeps := hholds.keeps

/-- A step of the heartbeat task itself. -/
theorem Holds.beat {daemon : Command String} (hholds : Holds w nodeId daemon row saved)
    (hserves : w.Serves drawn) :
    ∃ row' saved', Holds (daemon.step (World.handle drawn) w).2 nodeId
      (daemon.step (World.handle drawn) w).1 row' saved' := by
  obtain ⟨hvalid, hfile, hkeeps⟩ := hholds
  cases daemon with
  | done token => exact ⟨row, saved, hvalid, hfile, hkeeps⟩
  | fail e => exact hkeeps.elim
  | panic => exact hkeeps.elim
  | call action next =>
      cases action with
      | load => exact ⟨row, saved, hvalid, hfile, hkeeps w.file hfile⟩
      | save state => exact ⟨row, true, hvalid, fun _ => hkeeps.1, hkeeps.2⟩
      | timestamp => exact ⟨row, saved, hvalid, hfile, hkeeps _⟩
      | taiSeconds => exact ⟨row, saved, hvalid, hfile, hkeeps _⟩
      | peers token =>
          refine ⟨row, saved, ?_⟩
          simp only [Program.step, World.handle]
          cases w.db.getNodeByToken token w.now with
          | none => exact ⟨hvalid, hfile, hkeeps _⟩
          | some caller => exact ⟨hvalid, hfile, hkeeps _⟩
      | heartbeat token endpoint viaRelay =>
          refine ⟨row, saved, ?_⟩
          simp only [Program.step, World.handle]
          cases w.db.getNodeByToken token w.now with
          | none => exact ⟨hvalid, hfile, hkeeps.2 _⟩
          | some caller => exact ⟨hvalid, hfile, hkeeps.2 _⟩
      | refreshToken token =>
          obtain ⟨rfl, rfl, hgranted, hrefused⟩ := hkeeps
          simp only [Program.step, World.handle]
          cases hfound : w.db.getNodeByToken row.token w.now with
          | none =>
              rw [World.refresh_refused hfound]
              exact ⟨row, true, hvalid, hfile, hrefused _⟩
          | some caller =>
              -- The refresh is for the node, and the file still has the token it replaces.
              have hrow : row ∈ w.db.unrevoked nodeId := hvalid ▸ List.mem_singleton_self row
              have hcaller := Database.nodeId_of_unrevoked hrow hfound
              obtain ⟨db, hrefresh, hunrevoked⟩ := World.refresh_granted hfound hserves
              rw [hrefresh]
              exact ⟨_, false, hcaller ▸ hunrevoked, (fun h => by cases h), hgranted _⟩

/-- A step of a command that does no harm. -/
theorem Holds.advance {daemon : Command String} {command : Command Unit}
    (hholds : Holds w nodeId daemon row saved)
    (hsave : ∀ state next, command = .call (.save state) next → saved = true →
      state.authToken = row.token)
    (hrefresh : ∀ token next, command = .call (.refreshToken token) next →
      w.db.getNodeByToken token w.now = none) :
    Holds (command.step (World.handle drawn) w).2 nodeId daemon row saved := by
  cases command with
  | done | fail | panic => exact hholds
  | call action next =>
      cases action with
      | load | timestamp | taiSeconds => exact hholds
      | save state => exact hholds.frame (hsave state next rfl) rfl
      | peers token =>
          simp only [Program.step, World.handle]
          cases w.db.getNodeByToken token w.now with
          | none => exact hholds
          | some caller => exact hholds
      | heartbeat token endpoint viaRelay =>
          simp only [Program.step, World.handle]
          cases w.db.getNodeByToken token w.now with
          | none => exact hholds
          | some caller => exact hholds.frame hholds.file rfl
      | refreshToken token =>
          simp only [Program.step, World.handle, World.refresh_refused (hrefresh token next rfl)]
          exact hholds

/-- The invariant of a host. -/
def Kept (h : Host) : Prop := ∃ row saved, Holds h.world h.nodeId h.daemon row saved

omit [Profile] [CoordCrates] in
theorem Holds.accepts {daemon : Command String} (hholds : Holds w h.nodeId daemon row saved)
    (hw : w = h.world) : h.Accepts row.token := by
  subst hw
  rw [Accepts, Database.validTokens, hholds.valid, List.map_singleton]

/-- A harmless event keeps the tokens. -/
theorem Kept.step {event : Event} (hkept : h.Kept) (hharmless : h.Harmless event)
    (hstep : h.step event = some h') : h'.Kept := by
  obtain ⟨row, saved, hholds⟩ := hkept
  cases event with
  | launch launch =>
      cases hstep
      exact ⟨row, saved, hholds⟩
  | clock millis =>
      cases hstep
      exact ⟨row, saved, hholds.frame hholds.file rfl⟩
  | wake =>
      rw [Host.step] at hstep
      split at hstep
      · rename_i token hdaemon
        cases hstep
        obtain ⟨hvalid, hfile, hkeeps⟩ := hholds
        rw [hdaemon] at hkeeps
        obtain ⟨rfl, rfl⟩ := hkeeps
        exact ⟨row, true, hvalid, hfile, keeps_heartbeatRound⟩
      · cases hstep
  | beat drawn =>
      rw [Host.step] at hstep
      split at hstep
      · rename_i hserves
        cases hstep
        exact hholds.beat hserves
      · cases hstep
  | advance i drawn =>
      obtain ⟨command, hcommand, hstep⟩ := Option.bind_eq_some_iff.1 hstep
      split at hstep
      · cases hstep
        have hspares := hharmless command hcommand
        refine ⟨row, saved, hholds.advance ?_ ?_⟩
        · rintro state next rfl hsaved
          -- What the file has is the valid token, so the save does not replace it.
          have hfile := hholds.file hsaved
          exact (hspares (hfile ▸ hholds.accepts rfl)).trans hfile
        · rintro token next rfl
          exact hspares
      · cases hstep

omit [Profile] [CoordCrates] in
/-- What is kept between two rounds, with no command in flight, is that both copies are valid. -/
theorem Kept.inSync (hkept : h.Kept) (hquiet : h.isQuiet = true) : h.InSync := by
  obtain ⟨row, saved, hholds⟩ := hkept
  have hidle : h.daemon.isRunning = false := by
    rw [isQuiet, Bool.and_eq_true] at hquiet
    simpa using hquiet.2
  have hkeeps := hholds.keeps
  cases hdaemon : h.daemon with
  | done token =>
      rw [hdaemon] at hkeeps
      obtain ⟨rfl, rfl⟩ := hkeeps
      exact ⟨hholds.file rfl ▸ hholds.accepts rfl, row.token, hdaemon, hholds.accepts rfl⟩
  | fail e =>
      rw [hdaemon] at hkeeps
      exact hkeeps.elim
  | panic =>
      rw [hdaemon] at hkeeps
      exact hkeeps.elim
  | call action next =>
      rw [hdaemon] at hidle
      cases hidle

omit [Profile] [CoordCrates] in
/-- What the heartbeat task sends is the valid token. -/
theorem Kept.sends {token : String} (hkept : h.Kept) (hsends : h.sends = some token) :
    h.Accepts token := by
  obtain ⟨row, saved, hholds⟩ := hkept
  have hkeeps := hholds.keeps
  unfold Host.sends at hsends
  split at hsends
  · rename_i hdaemon
    cases hsends
    rw [hdaemon] at hkeeps
    exact hkeeps.1 ▸ hholds.accepts rfl
  · rename_i hdaemon
    cases hsends
    rw [hdaemon] at hkeeps
    exact hkeeps.2.1 ▸ hholds.accepts rfl
  · cases hsends

omit [Profile] [CoordCrates] in
/-- A host whose two copies are valid starts with the invariant. -/
theorem InSync.kept (hsync : h.InSync) : h.Kept := by
  obtain ⟨hsaved, token, hdaemon, hheld⟩ := hsync
  obtain ⟨row, hrow, rfl⟩ := List.map_eq_singleton_iff.1 hheld
  have hfile : [h.world.file.authToken] = [row.token] := hsaved.symm.trans hheld
  exact ⟨row, true, hrow, fun _ => List.singleton_inj.1 hfile, hdaemon ▸ ⟨rfl, rfl⟩⟩

/-- From a host whose file and heartbeat task have the valid token, as long as no refresh of a
command is granted and no save of a command puts another token in the place of the valid one, the
task sends the valid token only, and whenever nothing is in flight both copies are valid. -/
theorem tokens_kept {events : List Event} (hsync : h.InSync)
    (hharmless : Transition.AllSteps step Harmless h events)
    (hrun : Transition.exec step h events = some h') :
    (h'.isQuiet = true → h'.InSync) ∧ ∀ token, h'.sends = some token → h'.Accepts token := by
  have hkept : h'.Kept := Transition.invariant (fun _ _ _ hkept => hkept.step) hsync.kept hharmless hrun
  exact ⟨hkept.inSync, fun _ => hkept.sends⟩


end General

/-! ## Two races -/

section Parties

open Coord.Parties

attribute [local instance] crates Symbolic.release

/-- A node with a token that expires a minute after an hour less that minute. -/
def fifty : World where
  file := ⟨"laptop", "100.100.0.1", "a", some 3600, none, none, []⟩
  db := (Database.empty.insertNode ⟨"laptop", [1], [2], "100.100.0.1", none, none, none, 0⟩
    "a" 3600).2
  ttlSecs := 3600
  millis := 3550000

/-- Its daemon, asleep. -/
def asleep : Host := ⟨fifty, "laptop", "10.0.0.1:7", none, [], .done "a"⟩

/-- A user refreshes the token while the daemon runs. -/
def refreshedByHand : List Event :=
  [.launch .refreshToken, .advance 0 "b", .advance 0 "b", .advance 0 "c"]

/-- A user lists the peers, and the heartbeat task refreshes the token between the request and the
save. -/
def refreshedBetween : List Event :=
  [.launch .peers, .advance 0 "b", .advance 0 "b", .wake] ++ List.replicate 3 (.beat "b") ++
    List.replicate 6 (.beat "c") ++ [.advance 0 "c"]

/-- Whether a run ends with nothing in flight, with a token in the file that is valid or not and with
a token held that is valid or not. -/
def endsWith (events : List Event) (saved held : Bool) : Bool :=
  (Transition.exec step asleep events).any fun h =>
    h.isQuiet && (decide (h.Accepts h.world.file.authToken) == saved &&
      match h.daemon with
      | .done token => decide (h.Accepts token) == held
      | _ => false)

theorem exists_of_endsWith {events : List Event} {saved held : Bool}
    (h : endsWith events saved held = true) :
    ∃ host token, Transition.exec step asleep events = some host ∧ host.isQuiet = true ∧
      host.daemon = .done token ∧ (host.Accepts host.world.file.authToken ↔ saved = true) ∧
      (host.Accepts token ↔ held = true) := by
  obtain ⟨host, hrun, hends⟩ := (Option.any_eq_true _ _).1 h
  simp only [Bool.and_eq_true] at hends
  obtain ⟨hquiet, hsaved, hheld⟩ := hends
  split at hheld
  · rename_i token hdaemon
    rw [beq_iff_eq] at hsaved hheld
    exact ⟨host, token, hrun, hquiet, hdaemon, by rw [← hsaved, decide_eq_true_eq],
      by rw [← hheld, decide_eq_true_eq]⟩
  · cases hheld

theorem asleep_inSync : asleep.InSync where
  saved := by decide +kernel
  held := ⟨"a", rfl, by decide +kernel⟩

/-- Both copies of the token are lost to races: the heartbeat task goes on with a token that a
command has revoked, and a command restores a token that the heartbeat task has revoked. -/
theorem copies_apart : asleep.InSync ∧
    (∃ host token, Transition.exec step asleep refreshedByHand = some host ∧ host.isQuiet = true ∧
      host.daemon = .done token ∧ ¬ host.Accepts token) ∧
    ∃ host, Transition.exec step asleep refreshedBetween = some host ∧ host.isQuiet = true ∧
      ¬ host.Accepts host.world.file.authToken := by
  have hhand : endsWith refreshedByHand true false = true := by decide +kernel
  have hbetween : endsWith refreshedBetween false true = true := by decide +kernel
  obtain ⟨host, token, hrun, hquiet, hdaemon, -, hheld⟩ := exists_of_endsWith hhand
  obtain ⟨host', _, hrun', hquiet', -, hsaved, -⟩ := exists_of_endsWith hbetween
  exact ⟨asleep_inSync, ⟨host, token, hrun, hquiet, hdaemon, fun h => nomatch hheld.1 h⟩,
    host', hrun', hquiet', fun h => nomatch hsaved.1 h⟩

/-- The peers are listed while the heartbeat task sleeps, which refreshes the token then. -/
def refreshedAfter : List Event :=
  .launch .peers :: List.replicate 3 (.advance 0 "b") ++ .wake :: List.replicate 3 (.beat "b") ++
    List.replicate 6 (.beat "c")

/-- One command after the other keeps the tokens. -/
theorem kept_one_by_one : ∃ host, Transition.exec step asleep refreshedAfter = some host ∧
    host.isQuiet = true ∧ host.InSync := by
  have hharmless : Transition.AllSteps step Harmless asleep refreshedAfter := by decide +kernel
  have hends : endsWith refreshedAfter true true = true := by decide +kernel
  obtain ⟨host, _, hrun, hquiet, -⟩ := exists_of_endsWith hends
  exact ⟨host, hrun, hquiet, (tokens_kept asleep_inSync hharmless hrun).1 hquiet⟩

end Parties

end Host

end Naboscale.Cli
