import Naboscale.Refinement
import Naboscale.Rust.Json
import Naboscale.Cli.Races

/-!
# The state in its file

`state.json` as `State::save` writes it and `State::load` reads it, also from an older version of
the program. The daemon and the commands of the user work on the file as they work on the state.
-/

namespace Naboscale.Cli

open Rust Concurrent Coord

/-! ## The format -/

/-- `Serialize` of `PeerInfo`. -/
def PeerInfo.write (p : PeerInfo) : Json :=
  .obj [("node_id", .str p.nodeId), ("wg_pubkey_b64", .str p.wgPubkeyB64), ("ip", .str p.ip),
    ("last_endpoint", .ofOption .str p.lastEndpoint), ("via_relay", .ofOption .str p.viaRelay)]

/-- `Deserialize` of `PeerInfo`. -/
def PeerInfo.read : Json.Decoder PeerInfo := Json.struct do
  let nodeId ← Json.field "node_id" .error Json.string
  let wgPubkeyB64 ← Json.field "wg_pubkey_b64" .error Json.string
  let ip ← Json.field "ip" .error Json.string
  let lastEndpoint ← Json.field "last_endpoint" (.leftOut none) (Json.option Json.string)
  let viaRelay ← Json.field "via_relay" (.default none) (Json.option Json.string)
  pure { nodeId, wgPubkeyB64, ip, lastEndpoint, viaRelay }

namespace State

/-- `Serialize` of `State`. -/
def write (s : State) : Json :=
  .obj [("node_id", .str s.nodeId), ("ip", .str s.ip), ("auth_token", .str s.authToken),
    ("auth_token_expires_at", .ofOption .int s.authTokenExpiresAt),
    ("last_endpoint", .ofOption .str s.lastEndpoint),
    ("last_handshake_at", .ofOption .int s.lastHandshakeAt),
    ("known_peers", .arr (s.knownPeers.map PeerInfo.write))]

/-- `Deserialize` of `State`. -/
def read : Json.Decoder State := Json.struct do
  let nodeId ← Json.field "node_id" .error Json.string
  let ip ← Json.field "ip" .error Json.string
  let authToken ← Json.field "auth_token" .error Json.string
  let authTokenExpiresAt ← Json.field "auth_token_expires_at" (.default none) (Json.option Json.i64)
  let lastEndpoint ← Json.field "last_endpoint" (.default none) (Json.option Json.string)
  let lastHandshakeAt ← Json.field "last_handshake_at" (.default none) (Json.option Json.i64)
  let knownPeers ← Json.field "known_peers" (.default []) (Json.list PeerInfo.read)
  pure { nodeId, ip, authToken, authTokenExpiresAt := authTokenExpiresAt.map Subtype.val, lastEndpoint
         lastHandshakeAt := lastHandshakeAt.map Subtype.val, knownPeers }

/-- The times are `i64`. -/
structure InRange (s : State) : Prop where
  expiry : ∀ t ∈ s.authTokenExpiresAt, I64.InRange t
  handshake : ∀ t ∈ s.lastHandshakeAt, I64.InRange t

end State

/-! ## Files of all versions -/

/-- A version of the program has written the peer: among other entries, in any order, and without
the relay or the endpoint where the peer has none. -/
inductive PeerInfo.Written (p : PeerInfo) : Json → Prop
  | object {entries : List (String × Json)} (nodeId : Json.Once entries "node_id" (.str p.nodeId))
      (wgPubkeyB64 : Json.Once entries "wg_pubkey_b64" (.str p.wgPubkeyB64))
      (ip : Json.Once entries "ip" (.str p.ip))
      (lastEndpoint : Json.OnceUnless entries "last_endpoint" (.ofOption .str p.lastEndpoint)
        (p.lastEndpoint = none))
      (viaRelay : Json.OnceUnless entries "via_relay" (.ofOption .str p.viaRelay)
        (p.viaRelay = none)) :
      p.Written (.obj entries)

/-- A version of the program has written the state: a version that does not know one of the last
four fields leaves it out, and the state has none. -/
structure State.Written (s : State) (entries : List (String × Json)) : Prop where
  nodeId : Json.Once entries "node_id" (.str s.nodeId)
  ip : Json.Once entries "ip" (.str s.ip)
  authToken : Json.Once entries "auth_token" (.str s.authToken)
  authTokenExpiresAt : Json.OnceUnless entries "auth_token_expires_at"
    (.ofOption .int s.authTokenExpiresAt) (s.authTokenExpiresAt = none)
  lastEndpoint : Json.OnceUnless entries "last_endpoint" (.ofOption .str s.lastEndpoint)
    (s.lastEndpoint = none)
  lastHandshakeAt : Json.OnceUnless entries "last_handshake_at" (.ofOption .int s.lastHandshakeAt)
    (s.lastHandshakeAt = none)
  knownPeers : ∃ items, Json.OnceUnless entries "known_peers" (.arr items) (s.knownPeers = []) ∧
    List.Forall₂ (fun item p => PeerInfo.Written p item) items s.knownPeers

theorem PeerInfo.written_write (p : PeerInfo) : p.Written p.write :=
  .object rfl rfl rfl (.inl rfl) (.inl rfl)

theorem PeerInfo.Written.read {p : PeerInfo} {item : Json} (h : p.Written item) :
    PeerInfo.read item = .ok p := by
  obtain ⟨hnodeId, hwg, hip, hendpoint, hrelay⟩ := h
  refine Json.struct_obj ?_
  refine Eq.trans (Json.field_bind hnodeId (Json.string_str _)) ?_
  refine Eq.trans (Json.field_bind hwg (Json.string_str _)) ?_
  refine Eq.trans (Json.field_bind hip (Json.string_str _)) ?_
  refine Eq.trans (Json.optional_bind hendpoint (Json.option_string _) (.inl rfl)) ?_
  exact Json.optional_bind hrelay (Json.option_string _) (.inr rfl)

namespace State

variable {s : State} {entries : List (String × Json)}

/-- The file of a version with some peers. -/
theorem written_write (s : State) : s.Written [("node_id", .str s.nodeId), ("ip", .str s.ip),
    ("auth_token", .str s.authToken),
    ("auth_token_expires_at", .ofOption .int s.authTokenExpiresAt),
    ("last_endpoint", .ofOption .str s.lastEndpoint),
    ("last_handshake_at", .ofOption .int s.lastHandshakeAt),
    ("known_peers", .arr (s.knownPeers.map PeerInfo.write))] where
  nodeId := rfl
  ip := rfl
  authToken := rfl
  authTokenExpiresAt := .inl rfl
  lastEndpoint := .inl rfl
  lastHandshakeAt := .inl rfl
  knownPeers := ⟨_, .inl rfl, List.forall₂_map_left_iff.2
    (List.forall₂_same.2 fun p _ => p.written_write)⟩

/-- What any version has written is read. -/
theorem Written.read (h : s.Written entries) (hrange : s.InRange) :
    State.read (.obj entries) = .ok s := by
  obtain ⟨items, hpeers, hitems⟩ := h.knownPeers
  obtain ⟨expiry, hexpiry, hexpirySame⟩ := Json.option_i64 hrange.expiry
  obtain ⟨handshake, hhandshake, hhandshakeSame⟩ := Json.option_i64 hrange.handshake
  have hlist : Json.list PeerInfo.read (.arr items) = .ok s.knownPeers :=
    Json.list_of_forall₂ (hitems.imp fun _ _ hitem => hitem.read)
  have hexpiryEntry : Json.OnceUnless entries "auth_token_expires_at"
      (.ofOption .int s.authTokenExpiresAt) (expiry = none) := by
    refine h.authTokenExpiresAt.imp_right fun hnone => ⟨hnone.1, ?_⟩
    rw [← Option.map_eq_none_iff, hexpirySame, hnone.2]
  have hhandshakeEntry : Json.OnceUnless entries "last_handshake_at"
      (.ofOption .int s.lastHandshakeAt) (handshake = none) := by
    refine h.lastHandshakeAt.imp_right fun hnone => ⟨hnone.1, ?_⟩
    rw [← Option.map_eq_none_iff, hhandshakeSame, hnone.2]
  refine Json.struct_obj ?_
  refine Eq.trans (Json.field_bind h.nodeId (Json.string_str _)) ?_
  refine Eq.trans (Json.field_bind h.ip (Json.string_str _)) ?_
  refine Eq.trans (Json.field_bind h.authToken (Json.string_str _)) ?_
  refine Eq.trans (Json.optional_bind hexpiryEntry hexpiry (.inr rfl)) ?_
  refine Eq.trans (Json.optional_bind h.lastEndpoint (Json.option_string _) (.inr rfl)) ?_
  refine Eq.trans (Json.optional_bind hhandshakeEntry hhandshake (.inr rfl)) ?_
  refine Eq.trans (Json.optional_bind hpeers hlist (.inr rfl)) ?_
  rw [hexpirySame, hhandshakeSame]
  rfl

theorem read_write (hrange : s.InRange) : State.read s.write = .ok s := s.written_write.read hrange

end State

/-! ## Commands on the file -/

/-- What the steps of a command work on: the file, and the rest of the world, whose own state is not
used. -/
structure Directory where
  file : Json
  world : World

/-- The commands save states whose times are `i64`. -/
def Action.Saves : Action → Prop
  | .save state => state.InRange
  | _ => True

/-- What the steps of a command result in has times that are `i64`. -/
def Action.InRange : (action : Action) → action.Result → Prop
  | .load, state => state.InRange
  | .timestamp, time => I64.InRange time
  | .taiSeconds, time => I64.InRange time
  | .refreshToken _, answer => ∀ response, answer = .ok response →
      I64.InRange response.authTokenExpiresAt
  | _, _ => True

/-- A program that handles times that are `i64`. -/
abbrev Ranged {α : Type} (p : Command α) : Prop :=
  p.Within Action.Saves Action.InRange (fun _ => True) True

/-- The clock and the one of the handshakes show a time that is an `i64`. -/
def World.InTime (w : World) : Prop := w.now + taiOffsetSeconds < 2 ^ 63

instance (w : World) : Decidable w.InTime := inferInstanceAs (Decidable (_ < _))

theorem State.InRange.withToken {s : State} {response : RefreshResponse} (h : s.InRange)
    (hresponse : I64.InRange response.authTokenExpiresAt) : (s.withToken response).InRange where
  expiry t ht := by
    cases ht
    exact hresponse
  handshake := h.handshake

theorem State.InRange.seen {s : State} {endpoint : String} {now : ℤ} (h : s.InRange)
    (hnow : I64.InRange now) : State.InRange
      { s with lastEndpoint := some endpoint, lastHandshakeAt := some now } where
  expiry := h.expiry
  handshake t ht := by
    cases ht
    exact hnow

theorem ranged_save {s : State} (h : s.InRange) : Ranged (Action.save s).call :=
  ⟨h, fun _ _ => trivial⟩

theorem ranged_launch (launch : Launch) : Ranged launch.command := by
  cases launch with
  | peers =>
      refine Program.within_call trivial fun state hstate => Program.within_call trivial fun _ _ =>
        Program.within_lift fun peers _ => ranged_save ?_
      exact ⟨hstate.expiry, hstate.handshake⟩
  | heartbeat endpoint viaRelay =>
      have hrest (state : State) (hstate : state.InRange) : Ranged (do
          let answer ← (Action.heartbeat state.authToken endpoint viaRelay).call
          Program.lift id answer
          let now ← Action.timestamp.call
          (Action.save
            { state with lastEndpoint := some endpoint, lastHandshakeAt := some now }).call) :=
        Program.within_call trivial fun answer _ => Program.within_lift fun _ _ =>
          Program.within_call trivial fun time htime => ranged_save (hstate.seen htime)
      refine Program.within_call trivial fun state hstate => Program.within_call trivial fun now _ =>
        Program.within_bind ?_
      unfold refreshExpired
      split
      · refine Program.within_call trivial fun answer hanswer =>
          Program.within_lift fun response hresponse => hrest _ ?_
        exact hstate.withToken (hanswer response hresponse)
      · exact hrest state hstate
  | refreshToken =>
      refine Program.within_call trivial fun state hstate => Program.within_call trivial
        fun answer hanswer => Program.within_lift fun response hresponse => ranged_save ?_
      exact hstate.withToken (hanswer response hresponse)
  | discovery =>
      exact Program.within_call trivial fun _ _ => Program.within_call trivial fun _ _ => trivial

theorem ranged_heartbeatRound {endpoint authToken : String} {viaRelay : Option String} :
    Ranged (heartbeatRound endpoint viaRelay authToken) := by
  have hrest (token : String) : Ranged (do
      let _ ← (Action.heartbeat token endpoint viaRelay).call
      let state ← Action.load.call
      let now ← Action.taiSeconds.call
      (Action.save
        { state with lastEndpoint := some endpoint, lastHandshakeAt := some now }).call
      pure token) := by
    refine Program.within_call trivial fun _ _ => Program.within_call trivial fun state hstate =>
      Program.within_call trivial fun time htime => Program.within_call ?_ fun _ _ => trivial
    exact hstate.seen htime
  refine Program.within_call trivial fun state hstate => Program.within_call trivial fun now _ =>
    Program.within_bind ?_
  unfold refreshExpiring
  split
  · refine Program.within_call trivial fun answer hanswer => ?_
    cases answer with
    | ok response =>
        refine Program.within_call trivial fun state hstate =>
          Program.within_call ?_ fun _ _ => hrest _
        exact hstate.withToken (hanswer response rfl)
    | error e => exact hrest authToken
  · exact hrest authToken

section General

variable [Profile] [CoordCrates]

namespace Directory

/-- One step of a command. Where the file cannot be read the command ends. -/
def handle (drawn : String) : Semantics Action Action.Result Directory
  | .load, d =>
      match State.read d.file with
      | .ok state => (some state, d)
      | .error _ => (none, d)
  | .save state, d => (some (), { d with file := state.write })
  | action, d =>
      let (result, world) := World.handle drawn action d.world
      (result, { d with world })

/-- The directory has the world, with its state in the file. -/
structure Keeps (d : Directory) (w : World) : Prop where
  world : d.world = { w with file := d.world.file }
  file : State.read d.file = .ok w.file
  inRange : w.file.InRange
  inTime : w.InTime

end Directory

/-- The state of the world is its own matter where a step neither loads nor saves it. -/
theorem World.handle_file {action : Action} (drawn : String) (w : World) (state : State)
    (hload : action ≠ .load) (hsave : ∀ s, action ≠ .save s) :
    World.handle drawn action { w with file := state } =
      ((World.handle drawn action w).1, { (World.handle drawn action w).2 with file := state }) ∧
    (World.handle drawn action w).2.file = w.file ∧
    (World.handle drawn action w).2.millis = w.millis := by
  cases action with
  | load => exact absurd rfl hload
  | save s => exact absurd rfl (hsave s)
  | timestamp => exact ⟨rfl, rfl, rfl⟩
  | taiSeconds => exact ⟨rfl, rfl, rfl⟩
  | peers token =>
      simp only [World.handle, World.now]
      split <;> exact ⟨rfl, rfl, rfl⟩
  | heartbeat token endpoint viaRelay =>
      simp only [World.handle, World.now]
      split <;> exact ⟨rfl, rfl, rfl⟩
  | refreshToken token =>
      simp only [World.handle, World.refresh, World.now]
      split
      · exact ⟨rfl, rfl, rfl⟩
      · split <;> exact ⟨rfl, rfl, rfl⟩

omit [Profile] [CoordCrates] in
theorem World.InTime.inRange {w : World} (h : w.InTime) :
    I64.InRange w.now ∧ I64.InRange (w.now + taiOffsetSeconds) := by
  have hnow : 0 ≤ w.now := Int.natCast_nonneg _
  unfold InTime taiOffsetSeconds at h
  unfold I64.InRange taiOffsetSeconds
  omega

/-- The times in the results of the steps are `i64` where those of the state and of the clock are. -/
theorem World.handle_inRange {action : Action} {drawn : String} {w : World}
    (hfile : w.file.InRange) (htime : w.InTime) :
    ∀ r ∈ (World.handle drawn action w).1, action.InRange r := by
  obtain ⟨hnow, htai⟩ := htime.inRange
  intro r hr
  cases action with
  | load =>
      cases hr
      exact hfile
  | timestamp =>
      cases hr
      exact hnow
  | taiSeconds =>
      cases hr
      exact htai
  | refreshToken token =>
      have hrefresh : (w.refresh token drawn).1 = r := Option.some.inj hr
      intro response hresponse
      rw [hresponse] at hrefresh
      unfold World.refresh at hrefresh
      split at hrefresh
      · cases hrefresh
      · split at hrefresh
        · rename_i hvalue _
          cases hrefresh
          exact I64.inRange_of_value hvalue
        · cases hrefresh
  | _ => trivial

namespace Directory

variable {d : Directory} {w : World} {action : Action} {drawn : String}

theorem handle_other (hload : action ≠ .load) (hsave : ∀ s, action ≠ .save s) :
    handle drawn action d =
      ((World.handle drawn action d.world).1,
        { d with world := (World.handle drawn action d.world).2 }) := by
  cases action with
  | load => exact absurd rfl hload
  | save s => exact absurd rfl (hsave s)
  | _ => rfl

/-- A step that leaves the state alone has the same result on the directory. -/
theorem Keeps.other (h : d.Keeps w) (hload : action ≠ .load) (hsave : ∀ s, action ≠ .save s) :
    (handle drawn action d).1 = (World.handle drawn action w).1 ∧
      (handle drawn action d).2.Keeps (World.handle drawn action w).2 := by
  obtain ⟨hsame, hfile, hmillis⟩ :=
    World.handle_file drawn w d.world.file hload hsave
  rw [← h.world] at hsame
  rw [handle_other hload hsave, hsame]
  refine ⟨rfl, rfl, ?_, ?_, ?_⟩
  · exact hfile ▸ h.file
  · exact hfile ▸ h.inRange
  · have htime := h.inTime
    unfold World.InTime World.now at htime ⊢
    rwa [hmillis]

/-- A command works on the file as it works on the state. -/
theorem represents (drawn : String) : Represents Keeps Action.Saves Action.InRange (handle drawn)
    (World.handle drawn) where
  result {action d w} hsaves h := by
    cases action with
    | load =>
        show (handle drawn .load d).1 = some w.file
        simp only [handle, h.file]
    | save s => rfl
    | _ => exact (h.other (fun hload => (by cases hload)) fun _ hsave => (by cases hsave)).1
  state {action d w} hsaves h := by
    cases action with
    | load =>
        simp only [handle, h.file]
        exact h
    | save s => exact ⟨h.world.trans rfl, State.read_write hsaves, hsaves, h.inTime⟩
    | _ => exact (h.other (fun hload => (by cases hload)) fun _ hsave => (by cases hsave)).2
  meets _ h := World.handle_inRange h.inRange h.inTime

end Directory

/-! ## The daemon on the file -/

/-- A host that keeps the state of its world in a file; the state that its world has is not used. -/
structure FileHost where
  file : Json
  host : Host

omit [Profile] [CoordCrates] in
/-- The host with another state. -/
def Host.withFile (h : Host) (state : State) : Host :=
  { h with world := { h.world with file := state } }

omit [Profile] [CoordCrates] in
/-- The clock is moved to a time that is an `i64`. -/
def Host.Event.InTime : Host.Event → Prop
  | .clock millis => (millis / 1000 : ℕ) + taiOffsetSeconds < 2 ^ 63
  | _ => True

omit [Profile] [CoordCrates] in
instance : (event : Host.Event) → Decidable event.InTime
  | .clock _ => inferInstanceAs (Decidable (_ < _))
  | .launch _ | .advance _ _ | .wake | .beat _ => .isTrue trivial

namespace FileHost

/-- What the steps of its programs work on. -/
def directory (f : FileHost) : Directory := ⟨f.file, f.host.world⟩

/-- One event. -/
def step (f : FileHost) : Host.Event → Option FileHost
  | .launch launch =>
      some { f with host := { f.host with commands := f.host.commands ++ [launch.command] } }
  | .advance i drawn => do
      let command ← f.host.commands[i]?
      if f.host.world.Serves drawn then
        let (next, d) := command.step (Directory.handle drawn) f.directory
        some ⟨d.file, { f.host with
          world := d.world
          commands := f.host.commands.set i next }⟩
      else none
  | .wake =>
      match f.host.daemon with
      | .done authToken => some { f with host := { f.host with
          daemon := heartbeatRound f.host.endpoint f.host.viaRelay authToken } }
      | _ => none
  | .beat drawn =>
      if f.host.world.Serves drawn then
        let (daemon, d) := f.host.daemon.step (Directory.handle drawn) f.directory
        some ⟨d.file, { f.host with world := d.world, daemon }⟩
      else none
  | .clock millis =>
      some { f with host := { f.host with world := { f.host.world with millis } } }

/-- The host on the file is the host on the state, whose programs handle times that are `i64`. -/
structure Follows (f : FileHost) (h : Host) : Prop where
  keeps : f.directory.Keeps h.world
  host : ∃ unused, f.host = h.withFile unused
  commands : ∀ command ∈ h.commands, Ranged command
  daemon : Ranged h.daemon

variable {f f' : FileHost} {h : Host} {event : Host.Event}

/-- One event on the file is the same event on the state. -/
theorem Follows.step (hfollows : f.Follows h) (htime : event.InTime) (hstep : f.step event = some f') :
    ∃ h', h.step event = some h' ∧ f'.Follows h' := by
  obtain ⟨hkeeps, ⟨unused, hhost⟩, hcommands, hdaemon⟩ := hfollows
  obtain ⟨file, host⟩ := f
  dsimp only at hhost
  subst hhost
  cases event with
  | launch launch =>
      cases hstep
      refine ⟨_, rfl, hkeeps, ⟨unused, rfl⟩, fun command hcommand => ?_, hdaemon⟩
      obtain hold | hnew := List.mem_append.1 hcommand
      · exact hcommands command hold
      · cases List.mem_singleton.1 hnew
        exact ranged_launch launch
  | advance i drawn =>
      obtain ⟨command, hcommand, hstep⟩ := Option.bind_eq_some_iff.1 hstep
      split at hstep
      · rename_i hserves
        have hcommand' : h.commands[i]? = some command := hcommand
        have hserves' : h.world.Serves drawn := ⟨hserves.fresh, hserves.inRange⟩
        have hranged := hcommands command (List.mem_of_getElem? hcommand')
        obtain ⟨hsame, hkept, hnext⟩ := (Directory.represents drawn).step hranged hkeeps
        obtain ⟨⟨next, d⟩, hresult⟩ : ∃ result, command.step (Directory.handle drawn)
          (FileHost.directory ⟨file, h.withFile unused⟩) = result := ⟨_, rfl⟩
        rw [hresult] at hsame hkept hstep
        cases hstep
        refine ⟨{ h with
          world := (command.step (World.handle drawn) h.world).2
          commands := h.commands.set i (command.step (World.handle drawn) h.world).1 },
          ?_, hkept, ⟨d.world.file, ?_⟩, fun other hother => ?_, hdaemon⟩
        · rw [Host.step, hcommand']
          exact if_pos hserves'
        · exact Host.mk.injEq .. ▸ ⟨hkept.world, rfl, rfl, rfl, congrArg (h.commands.set i) hsame, rfl⟩
        · obtain hold | rfl := List.mem_or_eq_of_mem_set hother
          · exact hcommands other hold
          · exact hnext
      · cases hstep
  | wake =>
      rw [FileHost.step] at hstep
      split at hstep
      · rename_i token htoken
        cases hstep
        refine ⟨{ h with daemon := heartbeatRound h.endpoint h.viaRelay token }, ?_, hkeeps,
          ⟨unused, rfl⟩, hcommands, ranged_heartbeatRound⟩
        have hdone : h.daemon = .done token := htoken
        rw [Host.step, hdone]
      · cases hstep
  | beat drawn =>
      rw [FileHost.step] at hstep
      split at hstep
      · rename_i hserves
        have hserves' : h.world.Serves drawn := ⟨hserves.fresh, hserves.inRange⟩
        obtain ⟨hsame, hkept, hnext⟩ := (Directory.represents drawn).step hdaemon hkeeps
        obtain ⟨⟨daemon, d⟩, hresult⟩ : ∃ result, h.daemon.step (Directory.handle drawn)
          (FileHost.directory ⟨file, h.withFile unused⟩) = result := ⟨_, rfl⟩
        have hdaemon' : (h.withFile unused).daemon = h.daemon := rfl
        rw [hresult] at hsame hkept
        rw [hdaemon', hresult] at hstep
        cases hstep
        refine ⟨{ h with
          world := (h.daemon.step (World.handle drawn) h.world).2
          daemon := (h.daemon.step (World.handle drawn) h.world).1 },
          if_pos hserves', hkept, ⟨d.world.file, ?_⟩, hcommands, hnext⟩
        exact Host.mk.injEq .. ▸ ⟨hkept.world, rfl, rfl, rfl, rfl, hsame⟩
      · cases hstep
  | clock millis =>
      cases hstep
      refine ⟨_, rfl, ⟨?_, hkeeps.file, hkeeps.inRange, htime⟩, ⟨unused, rfl⟩, hcommands, hdaemon⟩
      rfl

/-- A run on the file is a run on the state. -/
theorem Follows.run {events : List Host.Event} (hfollows : f.Follows h)
    (htimes : ∀ event ∈ events, event.InTime)
    (hrun : Transition.exec FileHost.step f events = some f') :
    ∃ h', Transition.exec Host.step h events = some h' ∧ f'.Follows h' := by
  induction events generalizing f h with
  | nil =>
      cases hrun
      exact ⟨h, rfl, hfollows⟩
  | cons event events ih =>
      obtain ⟨next, hstep, hrest⟩ := Transition.exec_cons_inv hrun
      obtain ⟨htime, htimes⟩ := List.forall_mem_cons.1 htimes
      obtain ⟨h₁, hstep', hfollows'⟩ := hfollows.step htime hstep
      obtain ⟨h', hrun', hfollows''⟩ := ih hfollows' htimes hrest
      exact ⟨h', Transition.exec_cons hstep' hrun', hfollows''⟩

end FileHost

end General

section Parties

open Coord.Parties

attribute [local instance] crates Symbolic.release

end Parties

end Naboscale.Cli
