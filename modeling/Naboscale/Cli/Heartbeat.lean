import Naboscale.Cli.Commands

/-!
# A refresh before a heartbeat

`cmd_heartbeat` refreshes an expired token before it sends its heartbeat and saves the state after
it. Its requests may end in any way, and so does the command: the coordinator has revoked the old
token from the refresh on, and the file has the new one only from the save on.
-/

namespace Naboscale.Cli

open Rust Concurrent Coord

/-- What becomes of a request for a new token: the coordinator does not accept it, or it accepts it
and its response is lost or arrives. -/
inductive RefreshOutcome where
  | refused (error : ServerError)
  | lost (response : RefreshResponse) (error : ServerError)
  | granted (response : RefreshResponse)

/-- What the client gets. -/
def RefreshOutcome.answer : RefreshOutcome → Except ServerError RefreshResponse
  | refused error => .error error
  | lost _ error => .error error
  | granted response => .ok response

/-- The new token that the coordinator has instead of the old one. -/
def RefreshOutcome.issued : RefreshOutcome → Option RefreshResponse
  | refused _ => none
  | lost response _ => some response
  | granted response => some response

/-- What becomes of the requests of one command, and what it reads from the clock. -/
structure Outcomes where
  refresh : RefreshOutcome
  heartbeat : Except ServerError Unit
  peers : Except ServerError (List PeerEntry)
  times : ℕ → ℤ

/-- The file, the new token if the coordinator has made one, and how often the clock was read. -/
structure Attempt where
  file : State
  issued : Option RefreshResponse
  readings : ℕ

namespace Attempt

/-- One step of a command with these outcomes. -/
def handle (o : Outcomes) : Semantics Action Action.Result Attempt
  | .load, s => (some s.file, s)
  | .save state, s => (some (), { s with file := state })
  | .timestamp, s => (some (o.times s.readings), { s with readings := s.readings + 1 })
  | .taiSeconds, s => (some (o.times s.readings), { s with readings := s.readings + 1 })
  | .peers _, s => (some o.peers, s)
  | .heartbeat _ _ _, s => (some o.heartbeat, s)
  | .refreshToken _, s => (some o.refresh.answer, { s with issued := o.refresh.issued })

/-- Before a command. -/
def start (file : State) : Attempt := ⟨file, none, 0⟩

/-- The file has the token and the expiry of a response. -/
def Holds (s : Attempt) (response : RefreshResponse) : Prop :=
  s.file.authToken = response.authToken ∧
    s.file.authTokenExpiresAt = some response.authTokenExpiresAt

instance (s : Attempt) (response : RefreshResponse) : Decidable (s.Holds response) :=
  inferInstanceAs (Decidable (_ ∧ _))

variable {o : Outcomes} {file : State} {endpoint : String} {viaRelay : Option String}
  {response : RefreshResponse}

/-- From the heartbeat on: the state is saved if the heartbeat is accepted. -/
theorem run_sent (state : State) (s : Attempt) :
    ((do
      let answer ← (Action.heartbeat state.authToken endpoint viaRelay).call
      .lift id answer
      let now ← Action.timestamp.call
      (Action.save { state with
        lastEndpoint := some endpoint, lastHandshakeAt := some now }).call : Command Unit).run
      (handle o) s).2 =
      match o.heartbeat with
      | .error _ => s
      | .ok _ => ⟨{ state with
          lastEndpoint := some endpoint, lastHandshakeAt := some (o.times s.readings) },
          s.issued, s.readings + 1⟩ := by
  have hsend : handle o (.heartbeat state.authToken endpoint viaRelay) s =
      (some o.heartbeat, s) := rfl
  rw [Action.call, Program.perform_bind, Program.run_call hsend]
  cases o.heartbeat <;> rfl

/-- What the command leaves. -/
theorem run_cmdHeartbeat (file : State) :
    ((cmdHeartbeat endpoint viaRelay).run (handle o) (start file)).2 =
      if isTokenExpired file.authTokenExpiresAt (o.times 0) then
        match o.refresh.answer, o.heartbeat with
        | .ok response, .ok _ => ⟨{ file.withToken response with
            lastEndpoint := some endpoint, lastHandshakeAt := some (o.times 1) },
            o.refresh.issued, 2⟩
        | _, _ => ⟨file, o.refresh.issued, 1⟩
      else
        match o.heartbeat with
        | .ok _ => ⟨{ file with
            lastEndpoint := some endpoint, lastHandshakeAt := some (o.times 1) }, none, 2⟩
        | .error _ => ⟨file, none, 1⟩ := by
  have hload : handle o .load (start file) = (some file, start file) := rfl
  have htime : handle o .timestamp (start file) = (some (o.times 0), ⟨file, none, 1⟩) := rfl
  rw [cmdHeartbeat, Action.call, Program.perform_bind, Program.run_call hload, Action.call,
    Program.perform_bind, Program.run_call htime, refreshExpired]
  split
  · have hrefresh : handle o (.refreshToken file.authToken) ⟨file, none, 1⟩ =
        (some o.refresh.answer, ⟨file, o.refresh.issued, 1⟩) := rfl
    rw [bind_assoc, Action.call, Program.perform_bind, Program.run_call hrefresh]
    cases o.refresh.answer with
    | error e => rfl
    | ok response =>
        refine (run_sent (file.withToken response) _).trans ?_
        cases o.heartbeat <;> rfl
  · refine (run_sent file _).trans ?_
    cases o.heartbeat <;> rfl

/-- Where the coordinator has made a new token, the file has it after the command exactly if the
response arrived and the heartbeat was accepted, or if the file had it before. -/
theorem holds_iff
    (hissued : ((cmdHeartbeat endpoint viaRelay).run (handle o) (start file)).2.issued =
      some response) :
    ((cmdHeartbeat endpoint viaRelay).run (handle o) (start file)).2.Holds response ↔
      o.refresh = .granted response ∧ o.heartbeat = .ok () ∨ (start file).Holds response := by
  rw [run_cmdHeartbeat] at hissued ⊢
  split at hissued
  · rename_i hexpired
    rw [if_pos hexpired]
    cases hrefresh : o.refresh with
    | refused e =>
        rw [hrefresh] at hissued
        cases hissued
    | lost made e =>
        rw [hrefresh] at hissued
        cases hissued
        exact ⟨.inr, fun h => h.resolve_left fun hgranted => nomatch hgranted.1⟩
    | granted made =>
        cases hheartbeat : o.heartbeat with
        | error e =>
            rw [hrefresh, hheartbeat] at hissued
            cases hissued
            exact ⟨.inr, fun h => h.resolve_left fun hgranted => nomatch hgranted.2⟩
        | ok =>
            rw [hrefresh, hheartbeat] at hissued
            cases hissued
            exact iff_of_true ⟨rfl, rfl⟩ (.inl ⟨rfl, rfl⟩)
  · split at hissued <;> cases hissued

/-- `cmd_refresh_token` saves the response as soon as it has it, so that the file has the new token
wherever the response arrived. -/
theorem cmdRefreshToken_holds_iff
    (hissued : (cmdRefreshToken.run (handle o) (start file)).2.issued = some response) :
    (cmdRefreshToken.run (handle o) (start file)).2.Holds response ↔
      o.refresh = .granted response ∨ (start file).Holds response := by
  have hload : handle o .load (start file) = (some file, start file) := rfl
  have hrefresh : handle o (.refreshToken file.authToken) (start file) =
      (some o.refresh.answer, ⟨file, o.refresh.issued, 0⟩) := rfl
  rw [cmdRefreshToken, Action.call, Program.perform_bind, Program.run_call hload, Action.call,
    Program.perform_bind, Program.run_call hrefresh] at hissued ⊢
  cases houtcome : o.refresh with
  | refused e =>
      rw [houtcome] at hissued
      cases hissued
  | lost made e =>
      rw [houtcome] at hissued
      cases hissued
      exact ⟨.inr, fun h => h.resolve_left nofun⟩
  | granted made =>
      rw [houtcome] at hissued
      cases hissued
      exact iff_of_true ⟨rfl, rfl⟩ (.inl rfl)

/-! ## Two runs -/

/-- A node whose token has expired. -/
def expired : State := ⟨"laptop", "100.100.0.1", "a", some 86400, none, none, []⟩

/-- The refresh is granted, and the heartbeat ends in some way. -/
def granted (heartbeat : Except ServerError Unit) : Outcomes where
  refresh := .granted ⟨"b", 172801, 172801⟩
  heartbeat := heartbeat
  peers := .ok []
  times := fun _ => 86401

/-- The heartbeat after a granted refresh is refused, and the file keeps the token that was
revoked. -/
theorem granted_token_lost :
    ((cmdHeartbeat "10.0.0.1:7" none).run (handle (granted (.error .http))) (start expired)).2 =
        ⟨expired, some ⟨"b", 172801, 172801⟩, 1⟩ ∧
      ¬ ((cmdHeartbeat "10.0.0.1:7" none).run (handle (granted (.error .http)))
        (start expired)).2.Holds ⟨"b", 172801, 172801⟩ :=
  ⟨rfl, by decide⟩

/-- With an accepted heartbeat the file has the new token. -/
theorem granted_token_saved :
    ((cmdHeartbeat "10.0.0.1:7" none).run (handle (granted (.ok ()))) (start expired)).2.Holds
      ⟨"b", 172801, 172801⟩ :=
  (holds_iff rfl).2 (.inl ⟨rfl, rfl⟩)

end Attempt

end Naboscale.Cli
