import Naboscale.Cli.Lifetime
import Naboscale.Cli.Wire
import Naboscale.Coord.Records

/-!
# Commands that talk to the coordinator

Every command of the client and the daemon as one kind of program, whose steps are on its directory
or wait for an answer. What they are told is recorded by the coordinator, so that they save only what
is recorded, and keep to the node of their directory unless they register.
-/

namespace Naboscale.Cli

open Rust Concurrent Coord

/-! ## Commands that register and deregister -/

/-- The atomic steps of a command: those of the others, and the requests of `register` and
`delete_node`. -/
inductive Step where
  | act (action : Action)
  | register
  | deleteNode (authToken : String)

/-- The result of a step. -/
@[reducible] def Step.Result : Step → Type
  | act action => action.Result
  | register => Except ServerError RegisterResponse
  | deleteNode _ => Except ServerError Unit

/-- `Error`: the coordinator refuses or cannot be understood, or `state.json` cannot be loaded. -/
inductive RoutineError where
  | request (error : ServerError)
  | state

/-- A program of such steps. -/
abbrev Routine := Program Step Step.Result RoutineError

/-- A routine that makes one step. -/
abbrev Step.call (step : Step) : Routine step.Result := .perform step

/-- A command is a routine. -/
def Routine.ofCommand {α : Type} : Command α → Routine α
  | .done a => .done a
  | .fail e => .fail (.request e)
  | .panic => .panic
  | .call action next => .call (.act action) fun r => ofCommand (next r)

/-- `cmd_register`, once the keys are open. -/
def cmdRegister : Routine Unit := do
  let answer ← Step.register.call
  let resp ← .lift .request answer
  (Step.act (.save {
    nodeId := resp.nodeId
    ip := resp.ip
    authToken := resp.authToken
    authTokenExpiresAt := some resp.authTokenExpiresAt
    lastEndpoint := none
    lastHandshakeAt := none
    knownPeers := [] })).call

/-- `cmd_deregister`. -/
def cmdDeregister : Routine Unit := do
  let state ← (Step.act .load).call
  let answer ← (Step.deleteNode state.authToken).call
  .lift .request answer

/-- The heartbeat task for a number of rounds. -/
def heartbeatRounds (endpoint : String) (viaRelay : Option String) : ℕ → String → Command Unit
  | 0, _ => pure ()
  | n + 1, authToken => do
      let authToken ← heartbeatRound endpoint viaRelay authToken
      heartbeatRounds endpoint viaRelay n authToken

/-- What runs on a directory: a command of the user, where `up` goes on for a number of rounds, or
a tick of the discovery of the daemon. -/
inductive UserCommand where
  | register
  | deregister
  | peers
  | heartbeat (endpoint : String) (viaRelay : Option String)
  | refreshToken
  | up (endpoint : String) (viaRelay : Option String) (rounds : ℕ)
  | discovery
  deriving DecidableEq

/-- The program that runs. -/
def UserCommand.routine : UserCommand → Routine Unit
  | register => cmdRegister
  | deregister => cmdDeregister
  | peers => .ofCommand cmdPeers
  | heartbeat endpoint viaRelay => .ofCommand (cmdHeartbeat endpoint viaRelay)
  | refreshToken => .ofCommand cmdRefreshToken
  | up endpoint viaRelay rounds =>
      .ofCommand (cmdUp endpoint viaRelay >>= heartbeatRounds endpoint viaRelay rounds)
  | discovery => .ofCommand Cli.discovery

section General

variable [CoordCrates]

/-! ## Steps and answers -/

/-- The keys of a directory, which stay the same. -/
structure NodeKeys where
  identity : Identity
  wgPubkey : Arr 32

/-- The token in a header, where a header can carry it. -/
def headerToken (authToken : String) : Option Token :=
  if h : authToken.toList.all (fun c => 33 ≤ c.toNat && c.toNat ≤ 126) = true then
    some ⟨authToken, h⟩
  else none

namespace Routine

/-- The call of the client with which the routine goes on. -/
def clientCall (wgPubkey : Arr 32) : Routine Unit → Option Call
  | .call .register _ => some (.register wgPubkey)
  | .call (.deleteNode authToken) _ => (headerToken authToken).map .deleteNode
  | .call (.act (.peers authToken)) _ => (headerToken authToken).map .peers
  | .call (.act (.heartbeat authToken endpoint viaRelay)) _ =>
      (headerToken authToken).map fun token => .heartbeat token endpoint viaRelay
  | .call (.act (.refreshToken authToken)) _ => (headerToken authToken).map .refreshToken
  | _ => none

/-- A step on the directory itself, with what the clock shows. A file that is not there cannot be
loaded. -/
def work (reading : ℤ) (file : Option State) : Routine Unit → Option (Routine Unit × Option State)
  | .call (.act .load) next =>
      match file with
      | some state => some (next state, file)
      | none => some (.fail .state, file)
  | .call (.act (.save state)) next => some (next (), some state)
  | .call (.act .timestamp) next => some (next reading, file)
  | .call (.act .taiSeconds) next => some (next reading, file)
  | _ => none

/-- What the client makes of a handler that has ended. A handler that has panicked stands for an
answer that does not come. -/
def reply {α : Type} (read : Response → Option α) : Handler Response → Option (Except ServerError α)
  | .done response => some ((read response).elim (.error .http) .ok)
  | .fail _ => some (.error .server)
  | .panic => some (.error .http)
  | .call _ _ => none

/-- The routine goes on with the answer of a handler. -/
def resume (handler : Handler Response) : Routine Unit → Option (Routine Unit)
  | .call .register next =>
      (reply (fun | .registered response => some response | _ => none) handler).map next
  | .call (.deleteNode _) next =>
      (reply (fun | .noContent => some () | _ => none) handler).map next
  | .call (.act (.peers _)) next =>
      (reply (fun | .peers entries => some entries | _ => none) handler).map next
  | .call (.act (.heartbeat _ _ _)) next =>
      (reply (fun | .ok => some () | _ => none) handler).map next
  | .call (.act (.refreshToken _)) next =>
      (reply (fun | .refreshed response => some response | _ => none) handler).map next
  | _ => none

end Routine

end General

/-! ## What commands keep -/

/-- What the state says is recorded: the node has the key and the address, and the token is one of
the node. -/
def State.Vouched (ledger : List Record) (key : Bytes) (state : State) : Prop :=
  .node state.nodeId key state.ip ∈ ledger ∧ .token state.authToken state.nodeId ∈ ledger

theorem State.Vouched.mono {ledger more : List Record} {key : Bytes} {state : State}
    (h : state.Vouched ledger key) (hsub : ledger ⊆ more) : state.Vouched more key :=
  ⟨hsub h.1, hsub h.2⟩

namespace Routine

variable {α β : Type} {key : Bytes} {nodeId : String} {ledger more : List Record}
  {Q : List Record → α → Prop} {R : List Record → β → Prop}

/-- The routine saves only what is recorded, for the node with the id, refreshes only tokens of this
node, and does not register. It counts on loading what is recorded for the node, and ends with a
result that has the property. -/
def Keeps (key : Bytes) (nodeId : String) (Q : List Record → α → Prop) :
    Routine α → List Record → Prop
  | .done a, ledger => Q ledger a
  | .fail _, _ => True
  | .panic, _ => True
  | .call (.act .load) next, ledger =>
      ∀ more, ledger ⊆ more → ∀ state : State, state.Vouched more key → state.nodeId = nodeId →
        Keeps key nodeId Q (next state) more
  | .call (.act (.save state)) next, ledger =>
      state.Vouched ledger key ∧ state.nodeId = nodeId ∧ Keeps key nodeId Q (next ()) ledger
  | .call (.act (.refreshToken token)) next, ledger =>
      .token token nodeId ∈ ledger ∧
        (∀ more, ledger ⊆ more → ∀ response : RefreshResponse,
          .token response.authToken nodeId ∈ more → Keeps key nodeId Q (next (.ok response)) more) ∧
        ∀ e, Keeps key nodeId Q (next (.error e)) ledger
  | .call (.act .timestamp) next, ledger => ∀ r, Keeps key nodeId Q (next r) ledger
  | .call (.act .taiSeconds) next, ledger => ∀ r, Keeps key nodeId Q (next r) ledger
  | .call (.act (.peers _)) next, ledger => ∀ r, Keeps key nodeId Q (next r) ledger
  | .call (.act (.heartbeat _ _ _)) next, ledger => ∀ r, Keeps key nodeId Q (next r) ledger
  | .call (.deleteNode _) next, ledger => ∀ r, Keeps key nodeId Q (next r) ledger
  | .call .register _, _ => False

/-- More records do no harm. -/
theorem Keeps.mono (hQ : ∀ ledger more a, ledger ⊆ more → Q ledger a → Q more a) {p : Routine α}
    (h : Keeps key nodeId Q p ledger) (hsub : ledger ⊆ more) : Keeps key nodeId Q p more := by
  induction p generalizing ledger with
  | done a => exact hQ _ _ a hsub h
  | fail e => trivial
  | panic => trivial
  | call step next ih =>
      cases step with
      | register => exact h.elim
      | deleteNode token => exact fun r => ih r (h r) hsub
      | act action =>
          cases action with
          | load => exact fun records hmore => h records (List.Subset.trans hsub hmore)
          | save state => exact ⟨h.1.mono hsub, h.2.1, ih () h.2.2 hsub⟩
          | refreshToken token =>
              obtain ⟨htoken, hgranted, hrefused⟩ := h
              exact ⟨hsub htoken, fun records hmore => hgranted records (List.Subset.trans hsub hmore),
                fun e => ih _ (hrefused e) hsub⟩
          | _ => exact fun r => ih r (h r) hsub

/-- One routine after another. -/
theorem Keeps.bind {p : Routine α} {f : α → Routine β} (h : Keeps key nodeId Q p ledger)
    (hf : ∀ more a, ledger ⊆ more → Q more a → Keeps key nodeId R (f a) more) :
    Keeps key nodeId R (p >>= f) ledger := by
  induction p generalizing ledger with
  | done a => exact hf ledger a (List.Subset.refl _) h
  | fail e => trivial
  | panic => trivial
  | call step next ih =>
      have hlater {records : List Record} (hsub : ledger ⊆ records) (more : List Record) (a : α)
          (hmore : records ⊆ more) (ha : Q more a) : Keeps key nodeId R (f a) more :=
        hf more a (List.Subset.trans hsub hmore) ha
      cases step with
      | register => exact h.elim
      | deleteNode token => exact fun r => ih r (h r) hf
      | act action =>
          cases action with
          | load =>
              exact fun records hsub state hvouched hid =>
                ih state (h records hsub state hvouched hid) (hlater hsub)
          | save state => exact ⟨h.1, h.2.1, ih () h.2.2 hf⟩
          | refreshToken token =>
              obtain ⟨htoken, hgranted, hrefused⟩ := h
              exact ⟨htoken, fun records hsub response hnew =>
                ih _ (hgranted records hsub response hnew) (hlater hsub),
                fun e => ih _ (hrefused e) hf⟩
          | _ => exact fun r => ih r (h r) hf

theorem ofCommand_bind (p : Command α) (f : α → Command β) :
    ofCommand (p >>= f) = ofCommand p >>= fun a => ofCommand (f a) := by
  induction p with
  | call action next ih => exact congrArg (Program.call (Step.act action)) (funext ih)
  | _ => rfl

/-- The end of a heartbeat round. -/
theorem keeps_heartbeat {endpoint token : String} {viaRelay : Option String}
    (htoken : .token token nodeId ∈ ledger) :
    Keeps key nodeId (fun records token => .token token nodeId ∈ records) (ofCommand (do
      let _ ← (Action.heartbeat token endpoint viaRelay).call
      let state ← Action.load.call
      let now ← Action.taiSeconds.call
      (Action.save
        { state with lastEndpoint := some endpoint, lastHandshakeAt := some now }).call
      pure token)) ledger :=
  fun _ _ hsub _ hvouched hid _ => ⟨hvouched, hid, hsub htoken⟩

/-- A round of the heartbeat task goes from a token of the node to a token of the node. -/
theorem keeps_heartbeatRound {endpoint token : String} {viaRelay : Option String}
    (htoken : .token token nodeId ∈ ledger) :
    Keeps key nodeId (fun records token => .token token nodeId ∈ records)
      (ofCommand (heartbeatRound endpoint viaRelay token)) ledger := by
  intro more hsub state hvouched hid now
  have htoken : .token token nodeId ∈ more := hsub htoken
  show Keeps key nodeId _ (ofCommand (refreshExpiring token state now >>= _)) more
  unfold refreshExpiring
  split
  · refine ⟨htoken, fun later hlater response hnew => ?_, fun _ => keeps_heartbeat htoken⟩
    intro after hafter loaded hloaded hloadedId
    have hnew : .token response.authToken nodeId ∈ after := hafter hnew
    exact ⟨⟨hloaded.1, hloadedId ▸ hnew⟩, hloadedId, keeps_heartbeat hnew⟩
  · exact keeps_heartbeat htoken

theorem keeps_heartbeatRounds {endpoint : String} {viaRelay : Option String} (n : ℕ)
    {token : String} (htoken : .token token nodeId ∈ ledger) :
    Keeps key nodeId (fun _ _ => True) (ofCommand (heartbeatRounds endpoint viaRelay n token))
      ledger := by
  induction n generalizing token ledger with
  | zero => trivial
  | succ n ih =>
      rw [heartbeatRounds, ofCommand_bind]
      exact (keeps_heartbeatRound htoken).bind fun _ _ _ hnext => ih hnext

/-- Every command but `register` keeps to the node of its directory. -/
theorem keeps_routine {command : UserCommand} (hcommand : command ≠ .register) :
    Keeps key nodeId (fun _ _ => True) command.routine ledger := by
  cases command with
  | register => exact absurd rfl hcommand
  | deregister =>
      intro more hsub state hvouched hid answer
      cases answer <;> trivial
  | peers =>
      intro more hsub state hvouched hid answer
      cases answer with
      | error e => trivial
      | ok peers => exact ⟨hvouched, hid, trivial⟩
  | heartbeat endpoint viaRelay =>
      intro more hsub state hvouched hid now
      have hrest {records : List Record} {state : State} (hvouched : state.Vouched records key)
          (hid : state.nodeId = nodeId) : Keeps key nodeId (fun _ _ => True) (ofCommand (do
            let answer ← (Action.heartbeat state.authToken endpoint viaRelay).call
            .lift id answer
            let now ← Action.timestamp.call
            (Action.save { state with
              lastEndpoint := some endpoint, lastHandshakeAt := some now }).call)) records := by
        intro answer
        cases answer with
        | error e => trivial
        | ok => exact fun _ => ⟨hvouched, hid, trivial⟩
      show Keeps key nodeId _ (ofCommand (refreshExpired state now >>= _)) more
      unfold refreshExpired
      split
      · refine ⟨hid ▸ hvouched.2, fun later hlater response hnew => ?_, fun _ => trivial⟩
        exact hrest ⟨hlater hvouched.1, hid ▸ hnew⟩ hid
      · exact hrest hvouched hid
  | refreshToken =>
      intro more hsub state hvouched hid
      refine ⟨hid ▸ hvouched.2, fun later hlater response hnew => ?_, fun _ => trivial⟩
      exact ⟨⟨hlater hvouched.1, hid ▸ hnew⟩, hid, trivial⟩
  | up endpoint viaRelay rounds =>
      show Keeps key nodeId _ (ofCommand (cmdUp endpoint viaRelay >>= _)) ledger
      rw [ofCommand_bind]
      refine Keeps.bind (Q := fun records token => .token token nodeId ∈ records) ?_
        fun _ _ _ htoken => keeps_heartbeatRounds rounds htoken
      intro more hsub state hvouched hid answer
      cases answer with
      | error e => trivial
      | ok peers => exact fun _ _ => ⟨hvouched, hid, hid ▸ hvouched.2⟩
  | discovery => exact fun _ _ _ _ _ _ => trivial

/-! ## What steps and answers keep -/

/-- The file has the state of the node, where it has one. -/
def Fits (file : Option State) (nodeId : String) : Prop := ∀ state ∈ file, state.nodeId = nodeId

/-- The routine keeps to the node of the file, and what the file has is recorded. -/
structure Sound (key : Bytes) (ledger : List Record) (file : Option State) (r : Routine Unit) :
    Prop where
  saved {state : State} : state ∈ file → state.Vouched ledger key
  keeps {nodeId : String} : Fits file nodeId → Keeps key nodeId (fun _ _ => True) r ledger

/-- A registration that is asked for, or whose answer is about to be saved, or that has ended. -/
inductive Enrols (key : Bytes) (ledger : List Record) : Routine Unit → Prop
  | ask : Enrols key ledger cmdRegister
  | save {state : State} (h : state.Vouched ledger key) :
      Enrols key ledger (.call (.act (.save state)) .done)
  | ended {r : Routine Unit} (h : r.isRunning = false) : Enrols key ledger r

variable {file file' : Option State} {r r' : Routine Unit} {reading : ℤ}

theorem keeps_of_not_running (h : r.isRunning = false) :
    Keeps key nodeId (fun _ _ => True) r ledger := by
  cases r with
  | call => cases h
  | _ => trivial

theorem Enrols.mono (h : Enrols key ledger r) (hsub : ledger ⊆ more) : Enrols key more r := by
  cases h with
  | ask => exact .ask
  | save h => exact .save (h.mono hsub)
  | ended h => exact .ended h

/-- A step on the directory leaves the file with the node that it had. -/
theorem Sound.work (h : Sound key ledger file r) (hwork : r.work reading file = some (r', file')) :
    Sound key ledger file' r' ∧ ∀ nodeId, Fits file' nodeId → Fits file nodeId := by
  have hsame {q : Routine Unit} (hq : ∀ nodeId, Fits file nodeId →
      Keeps key nodeId (fun _ _ => True) q ledger) : Sound key ledger file q := ⟨h.saved, hq _⟩
  cases r with
  | done | fail | panic => cases hwork
  | call step next =>
      cases step with
      | register | deleteNode => cases hwork
      | act action =>
          cases action with
          | peers | heartbeat | refreshToken => cases hwork
          | timestamp | taiSeconds =>
              cases hwork
              exact ⟨hsame fun nodeId hfits => h.keeps hfits reading, fun _ => id⟩
          | load =>
              cases file with
              | none =>
                  cases hwork
                  exact ⟨hsame fun _ _ => trivial, fun _ => id⟩
              | some state =>
                  cases hwork
                  refine ⟨hsame fun nodeId hfits => ?_, fun _ => id⟩
                  have hload := h.keeps hfits ledger (List.Subset.refl _)
                  exact hload state (h.saved rfl) (hfits state rfl)
          | save state =>
              cases hwork
              -- The node of the file is the one of the state that is saved.
              have hfits : Fits file state.nodeId := by
                intro old hold
                have hown : Fits file old.nodeId := by
                  intro other hother
                  cases (Option.mem_def.1 hold).symm.trans hother
                  rfl
                exact (h.keeps hown).2.1.symm
              obtain ⟨hvouched, -, hnext⟩ := h.keeps hfits
              have hback {nodeId : String} (hnew : Fits (some state) nodeId) : Fits file nodeId :=
                hnew state rfl ▸ hfits
              refine ⟨⟨fun hstate => ?_, fun hnew => (h.keeps (hback hnew)).2.2⟩, fun _ => hback⟩
              cases hstate
              exact hvouched

/-- A registration saves what it was told. -/
theorem Enrols.work (h : Enrols key ledger r)
    (hwork : r.work reading file = some (r', file')) :
    Enrols key ledger r' ∧ ∀ state ∈ file', state.Vouched ledger key := by
  cases h with
  | ask => cases hwork
  | save hvouched =>
      cases hwork
      refine ⟨.ended rfl, fun state hstate => ?_⟩
      cases hstate
      exact hvouched
  | ended hended =>
      cases r with
      | call => cases hended
      | _ => cases hwork

section General

variable [CoordCrates] {handler : Handler Response} {keys : NodeKeys}

/-- What the client is told is an answer to its call. -/
def Answers (keys : NodeKeys) (ledger : List Record) (r : Routine Unit)
    (handler : Handler Response) : Prop :=
  ∀ response, handler = .done response → ∃ call timestamp peer,
    r.clientCall keys.wgPubkey = some call ∧
      (call.request keys.identity timestamp peer).Told ledger response

/-- Only a response is understood as a result. -/
theorem reply_ok {α : Type} {read : Response → Option α} {a : α}
    (h : reply read handler = some (.ok a)) :
    ∃ response, handler = .done response ∧ read response = some a := by
  cases handler with
  | done response =>
      refine ⟨response, rfl, ?_⟩
      have hread := Option.some.inj h
      cases hresult : read response with
      | none =>
          rw [hresult] at hread
          cases hread
      | some b =>
          rw [hresult] at hread
          cases hread
          rfl
  | fail | panic | call => cases h

/-- The bearer token of a request of the client. -/
theorem extractBearer_bearerAuth (token : Token) :
    extractBearer (bearerAuth token) = .ok token.val := by
  have hprefix : "Bearer ".toList.isPrefixOf? ("Bearer " ++ token.val).toList =
      some token.val.toList := by
    rw [String.toList_append]
    rfl
  rw [extractBearer, bearerAuth, Option.bind_some, hprefix]
  exact congrArg Except.ok String.ofList_toList

/-- An answer leaves the routine with the node that it had. -/
theorem Sound.resume (honce : (ledger.map Record.name).Nodup) (h : Sound key ledger file r)
    (hanswers : Answers keys ledger r handler) (hresume : r.resume handler = some r') :
    Sound key ledger file r' := by
  refine ⟨h.saved, fun {nodeId} hfits => ?_⟩
  have hkeeps := h.keeps hfits
  cases r with
  | done | fail | panic => cases hresume
  | call step next =>
      cases step with
      | register => exact hkeeps.elim
      | deleteNode token =>
          obtain ⟨answer, -, rfl⟩ := Option.map_eq_some_iff.1 hresume
          exact hkeeps answer
      | act action =>
          cases action with
          | load | save | timestamp | taiSeconds => cases hresume
          | peers token =>
              obtain ⟨answer, -, rfl⟩ := Option.map_eq_some_iff.1 hresume
              exact hkeeps answer
          | heartbeat token endpoint viaRelay =>
              obtain ⟨answer, -, rfl⟩ := Option.map_eq_some_iff.1 hresume
              exact hkeeps answer
          | refreshToken text =>
              obtain ⟨htext, hgranted, hrefused⟩ := hkeeps
              obtain ⟨answer, hreply, rfl⟩ := Option.map_eq_some_iff.1 hresume
              cases answer with
              | error e => exact hrefused e
              | ok r =>
                  obtain ⟨response, hdone, hread⟩ := reply_ok hreply
                  obtain ⟨call, timestamp, peer, hcall, htold⟩ := hanswers response hdone
                  obtain ⟨token, htoken, rfl⟩ := Option.map_eq_some_iff.1 hcall
                  cases response with
                  | refreshed response =>
                      cases hread
                      obtain ⟨old, owner, hbearer, hold, hnew⟩ := htold
                      -- The token of the request is the one that the routine has for its node.
                      have hsent : (extractBearer (bearerAuth token)).toOption = some old := hbearer
                      rw [extractBearer_bearerAuth] at hsent
                      have hvalue : token.val = text := by
                        rw [headerToken] at htoken
                        split at htoken
                        · cases htoken
                          rfl
                        · cases htoken
                      have htext' : Record.token old nodeId ∈ ledger := by
                        rw [← Option.some.inj hsent, hvalue]
                        exact htext
                      have hrecord : Record.token old owner = .token old nodeId :=
                        eq_of_name honce hold htext' rfl
                      cases hrecord
                      exact hgranted ledger (List.Subset.refl _) r hnew
                  | _ => cases hread

/-- The answer to a registration is about the key of the directory. -/
theorem Enrols.resume (hbase64 : Base64RoundTrip) (hkey : key = keys.identity.publicKey.val)
    (h : Enrols key ledger r) (hanswers : Answers keys ledger r handler)
    (hresume : r.resume handler = some r') : Enrols key ledger r' := by
  cases h with
  | ask =>
      obtain ⟨answer, hreply, rfl⟩ := Option.map_eq_some_iff.1 hresume
      cases answer with
      | error e => exact .ended rfl
      | ok r =>
          obtain ⟨response, hdone, hread⟩ := reply_ok hreply
          obtain ⟨call, timestamp, peer, hcall, htold⟩ := hanswers response hdone
          cases hcall
          cases response with
          | registered response =>
              cases hread
              obtain ⟨other, ⟨identityPubkey, hdecode, rfl⟩, hnode, htoken⟩ := htold
              cases (decodePubkey_encode hbase64 _).symm.trans hdecode
              rw [← hkey] at hnode
              exact .save ⟨hnode, htoken⟩
          | _ => cases hread
  | save => cases hresume
  | ended hended =>
      cases r with
      | call => cases hended
      | _ => cases hresume

end General

theorem isRunning_of_work (h : r.work reading file = some (r', file')) : r.isRunning = true := by
  cases r with
  | call => rfl
  | _ => cases h

theorem isRunning_of_resume [CoordCrates] {handler : Handler Response}
    (h : r.resume handler = some r') : r.isRunning = true := by
  cases r with
  | call => rfl
  | _ => cases h

/-- A routine that makes a step on its directory has no call to make. -/
theorem clientCall_of_work {wgPubkey : Arr 32} (h : r.work reading file = some (r', file')) :
    r.clientCall wgPubkey = none := by
  cases r with
  | done | fail | panic => cases h
  | call step next =>
      cases step with
      | register | deleteNode => cases h
      | act action =>
          cases action with
          | peers | heartbeat | refreshToken => cases h
          | _ => rfl

end Routine

end Naboscale.Cli
