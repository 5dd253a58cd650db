import Naboscale.Cli.Routines

/-!
# Enrolment

Directories with their keys, the commands and the daemons that run on them, and the coordinator that
serves them. A command waits for the answer to a request while the others go on; requests and answers
get lost, and other requests come from anywhere. Where a registration runs alone on its directory,
what `state.json` has is what the coordinator has for the node, whenever it accepts the saved token.
-/

namespace Naboscale.Cli

open Rust Concurrent Coord

section General

variable [CoordCrates]

/-! ## The fleet -/

/-- A command that runs on a directory, and the handler whose answer it waits for. -/
structure Process (ι : Type) where
  directory : ι
  command : UserCommand
  routine : Routine Unit
  waiting : Option ℕ

/-- The coordinator, the `state.json` of each directory where there is one, what runs, and the
names that were drawn so far. -/
structure Fleet (ι : Type) where
  journal : Journal
  files : ι → Option State
  processes : List (Process ι)
  drawn : List Name

namespace Fleet

/-- What can happen: a command starts, makes a step on its directory, sends a request, gets the
answer or gives up on it, or is stopped; or the coordinator makes a step, or gets a request from
somebody else. -/
inductive Event (ι : Type) where
  | launch (directory : ι) (command : UserCommand)
  | work (p : ℕ) (reading : ℤ)
  | send (p i : ℕ) (peer : SocketAddr) (timestamp : I64) (draws : Draws)
  | receive (p : ℕ)
  | lose (p : ℕ)
  | stop (p : ℕ)
  | coordinator (event : Coord.Event)

variable {ι : Type}

/-- The fleet before anything happens. -/
def start (ttl : I64) (clock : Clock) (instant : Instant) : Fleet ι :=
  ⟨.start ttl clock instant, fun _ => none, [], []⟩

/-- A request that arrives gets an index of its own. -/
def admits (f : Fleet ι) : Coord.Event → Bool
  | .spawn i _ _ => (f.journal.arrivals i).isNone
  | _ => true

variable [Profile]

/-- A step of the coordinator. -/
def coordinate (f : Fleet ι) (event : Coord.Event) : Option (Fleet ι) :=
  if f.admits event then
    (f.journal.step event).map fun journal =>
      { f with journal, drawn := f.drawn ++ event.names }
  else none

/-- A step of the fleet, on directories with these keys. -/
def step [DecidableEq ι] (keys : ι → NodeKeys) (f : Fleet ι) : Event ι → Option (Fleet ι)
  | .launch directory command =>
      some { f with processes := f.processes ++ [⟨directory, command, command.routine, none⟩] }
  | .work p reading => do
      let process ← f.processes[p]?
      let (routine, file) ← process.routine.work reading (f.files process.directory)
      some { f with
        files := Function.update f.files process.directory file
        processes := f.processes.set p { process with routine } }
  | .send p i peer timestamp draws => do
      let process ← f.processes[p]?
      let keys := keys process.directory
      let call ← process.routine.clientCall keys.wgPubkey
      if process.waiting.isNone then
        let g ← f.coordinate (.spawn i (call.request keys.identity timestamp peer) draws)
        some { g with processes := f.processes.set p { process with waiting := some i } }
      else none
  | .receive p => do
      let process ← f.processes[p]?
      let i ← process.waiting
      let routine ← process.routine.resume (f.journal.server.task i)
      some { f with processes := f.processes.set p { process with routine, waiting := none } }
  | .lose p => do
      let process ← f.processes[p]?
      let routine ← process.routine.resume .panic
      some { f with processes := f.processes.set p { process with routine, waiting := none } }
  | .stop p => do
      let process ← f.processes[p]?
      some { f with
        processes := f.processes.set p { process with routine := .panic, waiting := none } }
  | .coordinator event => f.coordinate event

end Fleet

end General

/-! ## Runs of the fleet -/

namespace Fleet

open Routine

section General

variable [CoordCrates] {ι : Type} {ledger more : List Record} {f g : Fleet ι} {event : Event ι}

/-- A registration runs alone on its directory: it starts where nothing else runs, and nothing
starts before it has ended. -/
def Orderly (f : Fleet ι) : Event ι → Prop
  | .launch directory command => ∀ process ∈ f.processes, process.directory = directory →
      process.routine.isRunning = true → process.command ≠ .register ∧ command ≠ .register
  | _ => True

instance [DecidableEq ι] (f : Fleet ι) : (event : Event ι) → Decidable (f.Orderly event)
  | .launch _ _ => inferInstanceAs (Decidable (∀ _ ∈ _, _))
  | .work _ _ | .send _ _ _ _ _ | .receive _ | .lose _ | .stop _ | .coordinator _ => .isTrue trivial

variable [Profile] (keys : ι → NodeKeys)

/-- The bytes of the key of a directory. -/
def identityKey (directory : ι) : Bytes := (keys directory).identity.publicKey.val

/-- The handler at an index serves the call with which the process goes on. -/
def Serves (f : Fleet ι) (process : Process ι) (i : ℕ) : Prop :=
  ∃ arrival, f.journal.arrivals i = some arrival ∧ ∃ call timestamp peer,
    process.routine.clientCall (keys process.directory).wgPubkey = some call ∧
      arrival.request = call.request (keys process.directory).identity timestamp peer

/-- The invariant: files and commands agree with the records, registrations run alone, and who
waits is served. -/
structure Kept (ledger : List Record) (f : Fleet ι) : Prop where
  coherent : f.journal.Coherent
  filed : f.journal.Filed ledger f.drawn
  saved {directory : ι} {state : State} : state ∈ f.files directory →
    state.Vouched ledger (identityKey keys directory)
  keeps {p : ℕ} {process : Process ι} : f.processes[p]? = some process →
    process.command ≠ .register → Sound (identityKey keys process.directory) ledger
      (f.files process.directory) process.routine
  enrols {p : ℕ} {process : Process ι} : f.processes[p]? = some process →
    process.command = .register →
      Enrols (identityKey keys process.directory) ledger process.routine
  alone {p q : ℕ} {a b : Process ι} : f.processes[p]? = some a → f.processes[q]? = some b →
    a.directory = b.directory → a.command = .register → a.routine.isRunning = true →
      b.routine.isRunning = true → p = q
  waiting {p i : ℕ} {process : Process ι} : f.processes[p]? = some process →
    process.waiting = some i → f.Serves keys process i

variable {keys}

omit [Profile] in
theorem start_kept {ttl : I64} {clock : Clock} {instant : Instant} :
    (start ttl clock instant : Fleet ι).Kept keys [] where
  coherent := Journal.start_coherent
  filed := Journal.start_filed
  saved h := (by cases h)
  keeps h := (by cases h)
  enrols h := (by cases h)
  alone h := (by cases h)
  waiting h := (by cases h)

/-- The coordinator makes a step, or gets a request at an index of its own. -/
theorem Kept.coordinate {event : Coord.Event} (h : f.Kept keys ledger)
    (hstep : f.coordinate event = some g) (hdrawn : g.drawn.Nodup) :
    ∃ more, ledger ⊆ more ∧ g.Kept keys more ∧ g.processes = f.processes ∧ g.files = f.files ∧
      f.journal.step event = some g.journal := by
  unfold Fleet.coordinate at hstep
  split at hstep
  · rename_i hadmits
    obtain ⟨journal, hjournal, rfl⟩ := Option.map_eq_some_iff.1 hstep
    have hfresh : ∀ name ∈ event.names, name ∉ f.drawn := fun name hname hold =>
      (List.nodup_append.1 hdrawn).2.2 name hold name hname rfl
    obtain ⟨records, hfiled⟩ := h.filed.step h.coherent hfresh hjournal
    have hsub : ledger ⊆ ledger ++ records := List.subset_append_left _ _
    -- An index that serves a request is not given to another one.
    have hserves {i : ℕ} {arrival : Arrival} (harrival : f.journal.arrivals i = some arrival) :
        journal.arrivals i = some arrival := by
      obtain ⟨-, hsame⟩ | ⟨request, draws, rfl, -, -⟩ | ⟨-, hsame, -⟩ | ⟨-, hsame⟩ :=
        Journal.task_step hjournal i
      · exact hsame ▸ harrival
      · rw [admits, harrival] at hadmits
        cases hadmits
      · exact hsame ▸ harrival
      · exact hsame ▸ harrival
    refine ⟨_, hsub, ⟨h.coherent.step hjournal, hfiled, fun hstate => (h.saved hstate).mono hsub,
      fun hp hcommand => ⟨fun hstate => (h.saved hstate).mono hsub, fun hfits => ?_⟩,
      fun hp hcommand => (h.enrols hp hcommand).mono hsub, h.alone, fun hp hwaiting => ?_⟩,
      rfl, rfl, hjournal⟩
    · exact ((h.keeps hp hcommand).keeps hfits).mono (fun _ _ _ _ => id) hsub
    · obtain ⟨arrival, harrival, hcall⟩ := h.waiting hp hwaiting
      exact ⟨arrival, hserves harrival, hcall⟩
  · cases hstep

omit [CoordCrates] [Profile] in
theorem getElem?_set_cases {l : List (Process ι)} {p q : ℕ} {x y : Process ι}
    (h : (l.set p x)[q]? = some y) : q = p ∧ y = x ∨ q ≠ p ∧ l[q]? = some y := by
  by_cases hq : q = p
  · subst hq
    rw [List.getElem?_set] at h
    simp only [if_pos] at h
    split at h
    · cases h
      exact .inl ⟨rfl, rfl⟩
    · cases h
  · exact .inr ⟨hq, by rwa [List.getElem?_set_ne (fun heq => hq heq.symm)] at h⟩

omit [Profile] in
/-- A process goes on, and may change the file of its directory: to a state of the node that it had,
or to any other one where it is a registration. -/
theorem Kept.replace [DecidableEq ι] {p : ℕ} {a b : Process ι} {file : Option State}
    (h : f.Kept keys ledger) (hp : f.processes[p]? = some a) (hdirectory : b.directory = a.directory)
    (hcommand : b.command = a.command)
    (hruns : b.routine.isRunning = true → a.routine.isRunning = true)
    (hsaved : ∀ state ∈ file, state.Vouched ledger (identityKey keys a.directory))
    (hkeeps : a.command ≠ .register → Sound (identityKey keys a.directory) ledger file b.routine)
    (henrols : a.command = .register → Enrols (identityKey keys a.directory) ledger b.routine)
    (hnode : (∀ nodeId, Fits file nodeId → Fits (f.files a.directory) nodeId) ∨
      a.command = .register ∧ a.routine.isRunning = true)
    (hwaiting : ∀ i, b.waiting = some i → f.Serves keys b i) :
    Kept keys ledger { f with
      files := Function.update f.files a.directory file
      processes := f.processes.set p b } where
  coherent := h.coherent
  filed := h.filed
  saved {directory state} hstate := by
    by_cases hd : directory = a.directory
    · subst hd
      simp only [Function.update_self] at hstate
      exact hsaved state hstate
    · simp only [Function.update_of_ne hd] at hstate
      exact h.saved hstate
  keeps {q process} hq hother := by
    dsimp only at hq ⊢
    obtain ⟨rfl, rfl⟩ | ⟨hne, hq⟩ := getElem?_set_cases hq
    · rw [hdirectory, Function.update_self]
      exact hkeeps (hcommand ▸ hother)
    · by_cases hd : process.directory = a.directory
      · rw [hd, Function.update_self]
        have hold := h.keeps hq hother
        rw [hd] at hold
        refine ⟨fun {state} hstate => hsaved state hstate, fun {nodeId} hfits => ?_⟩
        obtain hback | ⟨hregister, hrunning⟩ := hnode
        · exact hold.keeps (hback nodeId hfits)
        · -- Nothing else runs on the directory of a registration.
          refine keeps_of_not_running (Bool.eq_false_iff.2 fun hprocess => hne ?_)
          exact (h.alone hp hq hd.symm hregister hrunning hprocess).symm
      · rw [Function.update_of_ne hd]
        exact h.keeps hq hother
  enrols {q process} hq hregister := by
    obtain ⟨rfl, rfl⟩ | ⟨hne, hq⟩ := getElem?_set_cases hq
    · rw [hdirectory]
      exact henrols (hcommand ▸ hregister)
    · exact h.enrols hq hregister
  alone {q q' x y} hq hq' hd hregister hx hy := by
    obtain ⟨rfl, rfl⟩ | ⟨-, hold⟩ := getElem?_set_cases hq
    · obtain ⟨rfl, rfl⟩ | ⟨-, hold'⟩ := getElem?_set_cases hq'
      · rfl
      · exact h.alone hp hold' (hdirectory ▸ hd) (hcommand ▸ hregister) (hruns hx) hy
    · obtain ⟨rfl, rfl⟩ | ⟨-, hold'⟩ := getElem?_set_cases hq'
      · exact h.alone hold hp (hd.trans hdirectory) hregister hx (hruns hy)
      · exact h.alone hold hold' hd hregister hx hy
  waiting {q i process} hq hwaits := by
    obtain ⟨rfl, rfl⟩ | ⟨hne, hq⟩ := getElem?_set_cases hq
    · exact hwaiting i hwaits
    · exact h.waiting hq hwaits

omit [Profile] in
/-- A command starts. -/
theorem Kept.launch {directory : ι} {command : UserCommand} (h : f.Kept keys ledger)
    (horderly : f.Orderly (.launch directory command)) :
    Kept keys ledger { f with
      processes := f.processes ++ [⟨directory, command, command.routine, none⟩] } := by
  have hcases {q : ℕ} {process : Process ι}
      (hq : (f.processes ++ [⟨directory, command, command.routine, none⟩])[q]? = some process) :
      f.processes[q]? = some process ∨
        q = f.processes.length ∧ process = ⟨directory, command, command.routine, none⟩ := by
    obtain hlt | hle := Nat.lt_or_ge q f.processes.length
    · rw [List.getElem?_append_left hlt] at hq
      exact .inl hq
    · rw [List.getElem?_append_right hle, List.getElem?_singleton] at hq
      split at hq
      · cases hq
        exact .inr ⟨by omega, rfl⟩
      · cases hq
  refine ⟨h.coherent, h.filed, h.saved, fun {q process} hq hother => ?_,
    fun {q process} hq hregister => ?_, fun {q q' a b} hq hq' hd hregister ha hb => ?_,
    fun {q i process} hq hwaits => ?_⟩
  · obtain hq | ⟨-, rfl⟩ := hcases hq
    · exact h.keeps hq hother
    · exact ⟨h.saved, fun _ => keeps_routine hother⟩
  · obtain hq | ⟨-, rfl⟩ := hcases hq
    · exact h.enrols hq hregister
    · cases hregister
      exact .ask
  · obtain hq | ⟨hlen, rfl⟩ := hcases hq
    · obtain hq' | ⟨-, rfl⟩ := hcases hq'
      · exact h.alone hq hq' hd hregister ha hb
      · exact absurd hregister (horderly a (List.mem_of_getElem? hq) hd ha).1
    · obtain hq' | ⟨hlen', -⟩ := hcases hq'
      · exact absurd hregister (horderly b (List.mem_of_getElem? hq') hd.symm hb).2
      · exact hlen.trans hlen'.symm
  · obtain hq | ⟨-, rfl⟩ := hcases hq
    · exact h.waiting hq hwaits
    · cases hwaits

omit [Profile] in
/-- A process goes on with the answer of a handler. -/
theorem Kept.resume [DecidableEq ι] {p : ℕ} {a : Process ι} {handler : Handler Response}
    {routine : Routine Unit} (hbase64 : Base64RoundTrip) (h : f.Kept keys ledger)
    (hp : f.processes[p]? = some a)
    (hanswers : Answers (keys a.directory) ledger a.routine handler)
    (hresume : a.routine.resume handler = some routine) :
    Kept keys ledger
      { f with processes := f.processes.set p { a with routine, waiting := none } } := by
  have hkept := h.replace (b := { a with routine, waiting := none }) hp rfl rfl
    (fun _ => isRunning_of_resume hresume) (fun _ hstate => h.saved hstate)
    (fun hcommand => (h.keeps hp hcommand).resume h.filed.once hanswers hresume)
    (fun hcommand => (h.enrols hp hcommand).resume hbase64 rfl hanswers hresume)
    (.inl fun _ => id) fun i hwaits => (by cases hwaits)
  rwa [Function.update_eq_self] at hkept

/-- One step. -/
theorem Kept.step [DecidableEq ι] (hbase64 : Base64RoundTrip) (h : f.Kept keys ledger)
    (horderly : f.Orderly event) (hstep : f.step keys event = some g) (hdrawn : g.drawn.Nodup) :
    ∃ more, g.Kept keys more := by
  cases event with
  | launch directory command =>
      cases hstep
      exact ⟨ledger, h.launch horderly⟩
  | coordinator event =>
      obtain ⟨more, -, hkept, -⟩ := h.coordinate hstep hdrawn
      exact ⟨more, hkept⟩
  | work p reading =>
      obtain ⟨a, hp, hstep⟩ := Option.bind_eq_some_iff.1 hstep
      obtain ⟨⟨routine, file⟩, hwork, hstep⟩ := Option.bind_eq_some_iff.1 hstep
      cases hstep
      have hrunning := isRunning_of_work hwork
      have hwaiting {i : ℕ} (hwaits : a.waiting = some i) :
          f.Serves keys { a with routine := routine } i := by
        obtain ⟨arrival, -, call, timestamp, peer, hcall, -⟩ := h.waiting hp hwaits
        rw [clientCall_of_work hwork] at hcall
        cases hcall
      by_cases hregister : a.command = .register
      · obtain ⟨henrols, hsaved⟩ := (h.enrols hp hregister).work hwork
        exact ⟨ledger, h.replace hp rfl rfl (fun _ => hrunning) hsaved
          (fun hother => absurd hregister hother) (fun _ => henrols) (.inr ⟨hregister, hrunning⟩)
          fun i => hwaiting⟩
      · obtain ⟨hsound, hnode⟩ := (h.keeps hp hregister).work hwork
        exact ⟨ledger, h.replace hp rfl rfl (fun _ => hrunning) (fun _ => hsound.saved)
          (fun _ => hsound) (fun heq => absurd heq hregister) (.inl hnode) fun i => hwaiting⟩
  | send p i peer timestamp draws =>
      obtain ⟨a, hp, hstep⟩ := Option.bind_eq_some_iff.1 hstep
      obtain ⟨call, hcall, hstep⟩ := Option.bind_eq_some_iff.1 hstep
      split at hstep
      · obtain ⟨g', hsent, hstep⟩ := Option.bind_eq_some_iff.1 hstep
        cases hstep
        obtain ⟨more, hsub, hkept, hprocesses, hfiles, hjournal⟩ := h.coordinate hsent hdrawn
        rw [← hprocesses] at hp
        have hwaiting {m : ℕ} (hwaits : some i = some m) :
            g'.Serves keys { a with waiting := some i } m := by
          cases hwaits
          obtain ⟨-, -, -, clock, seen, harrival⟩ := Journal.spawn_self hjournal
          exact ⟨_, harrival, call, timestamp, peer, hcall, rfl⟩
        have hnext := hkept.replace (b := { a with waiting := some i }) hp rfl rfl (fun hruns => hruns)
          (fun _ => hkept.saved) (hkept.keeps hp) (hkept.enrols hp) (.inl fun _ => id)
          fun m => hwaiting
        rw [Function.update_eq_self, hprocesses] at hnext
        exact ⟨more, hnext⟩
      · cases hstep
  | receive p =>
      obtain ⟨a, hp, hstep⟩ := Option.bind_eq_some_iff.1 hstep
      obtain ⟨i, hwaits, hstep⟩ := Option.bind_eq_some_iff.1 hstep
      obtain ⟨routine, hresume, hstep⟩ := Option.bind_eq_some_iff.1 hstep
      cases hstep
      obtain ⟨arrival, harrival, call, timestamp, peer, hcall, hrequest⟩ := h.waiting hp hwaits
      refine ⟨ledger, h.resume hbase64 hp (fun response hdone => ?_) hresume⟩
      obtain ⟨known, hknown, htells⟩ := h.filed.tells harrival
      rw [hdone] at htells
      have htold : arrival.request.Told known response := htells
      exact ⟨call, timestamp, peer, hcall, hrequest ▸ htold.mono hknown⟩
  | lose p =>
      obtain ⟨a, hp, hstep⟩ := Option.bind_eq_some_iff.1 hstep
      obtain ⟨routine, hresume, hstep⟩ := Option.bind_eq_some_iff.1 hstep
      cases hstep
      exact ⟨ledger, h.resume hbase64 hp (fun _ hdone => (by cases hdone)) hresume⟩
  | stop p =>
      obtain ⟨a, hp, hstep⟩ := Option.bind_eq_some_iff.1 hstep
      cases hstep
      have hnext := h.replace (b := { a with routine := .panic, waiting := none }) hp rfl rfl
        (fun hruns => (by cases hruns)) (fun _ => h.saved) (fun _ => ⟨h.saved, fun _ => trivial⟩)
        (fun _ => .ended rfl) (.inl fun _ => id) fun i hwaits => (by cases hwaits)
      rw [Function.update_eq_self] at hnext
      exact ⟨ledger, hnext⟩

/-- The names that are drawn in a step come after those that were drawn before. -/
theorem prefix_drawn [DecidableEq ι] (hstep : f.step keys event = some g) :
    f.drawn <+: g.drawn := by
  have hcoordinate {event : Coord.Event} {g : Fleet ι} (h : f.coordinate event = some g) :
      f.drawn <+: g.drawn := by
    unfold Fleet.coordinate at h
    split at h
    · obtain ⟨journal, -, rfl⟩ := Option.map_eq_some_iff.1 h
      exact List.prefix_append _ _
    · cases h
  cases event with
  | launch directory command =>
      cases hstep
      exact List.prefix_refl _
  | coordinator event => exact hcoordinate hstep
  | work p reading =>
      obtain ⟨a, -, hstep⟩ := Option.bind_eq_some_iff.1 hstep
      obtain ⟨_, -, hstep⟩ := Option.bind_eq_some_iff.1 hstep
      cases hstep
      exact List.prefix_refl _
  | send p i peer timestamp draws =>
      obtain ⟨a, -, hstep⟩ := Option.bind_eq_some_iff.1 hstep
      obtain ⟨call, -, hstep⟩ := Option.bind_eq_some_iff.1 hstep
      split at hstep
      · obtain ⟨g', hsent, hstep⟩ := Option.bind_eq_some_iff.1 hstep
        cases hstep
        have hprefix : f.drawn <+: g'.drawn := hcoordinate hsent
        exact hprefix
      · cases hstep
  | receive p =>
      obtain ⟨a, -, hstep⟩ := Option.bind_eq_some_iff.1 hstep
      obtain ⟨i, -, hstep⟩ := Option.bind_eq_some_iff.1 hstep
      obtain ⟨routine, -, hstep⟩ := Option.bind_eq_some_iff.1 hstep
      cases hstep
      exact List.prefix_refl _
  | lose p =>
      obtain ⟨a, -, hstep⟩ := Option.bind_eq_some_iff.1 hstep
      obtain ⟨routine, -, hstep⟩ := Option.bind_eq_some_iff.1 hstep
      cases hstep
      exact List.prefix_refl _
  | stop p =>
      obtain ⟨a, -, hstep⟩ := Option.bind_eq_some_iff.1 hstep
      cases hstep
      exact List.prefix_refl _

/-- A run in which no name is drawn twice. -/
theorem kept_of_run [DecidableEq ι] {ttl : I64} {clock : Clock} {instant : Instant}
    {events : List (Event ι)} (hbase64 : Base64RoundTrip)
    (horderly : Transition.AllSteps (step keys) Orderly (start ttl clock instant) events)
    (hrun : Transition.exec (step keys) (start ttl clock instant) events = some f)
    (hdrawn : f.drawn.Nodup) : ∃ ledger, f.Kept keys ledger := by
  have hinvariant : f.drawn.Nodup → ∃ ledger, f.Kept keys ledger := by
    refine Transition.invariant (I := fun f : Fleet ι => f.drawn.Nodup → ∃ ledger, f.Kept keys ledger)
      (fun _ _ _ hkept horderly hstep hdrawn => ?_) (fun _ => ⟨[], start_kept⟩) horderly hrun
    obtain ⟨ledger, hkept⟩ := hkept (hdrawn.sublist (prefix_drawn hstep).sublist)
    exact hkept.step hbase64 horderly hstep hdrawn
  exact hinvariant hdrawn

omit [Profile] in
/-- What the coordinator has for a saved token that it accepts. -/
theorem Kept.accepted {directory : ι} {state : State} {now : ℤ} {n : NodeRecord}
    (h : f.Kept keys ledger) (hstate : f.files directory = some state)
    (hfound : f.journal.server.coord.db.getNodeByToken state.authToken now = some n) :
    n ∈ f.journal.server.coord.db.nodes.rows ∧ n.nodeId = state.nodeId ∧ n.ip = state.ip ∧
      n.identityPubkey = identityKey keys directory := by
  obtain ⟨hnode, htoken⟩ := h.saved hstate
  obtain ⟨t, ht, htext, hid, -⟩ := Database.row_of_getNodeByToken hfound
  have hrow := h.filed.tokens ht
  rw [htext] at hrow
  have hrecord : Record.token state.authToken t.nodeId = .token state.authToken state.nodeId :=
    eq_of_name h.filed.once hrow htoken rfl
  have hsame : n.nodeId = state.nodeId := hid.symm.trans (Record.token.inj hrecord).2
  have hn := Database.mem_of_getNodeByToken hfound
  have hstored := h.filed.rows hn
  rw [hsame] at hstored
  have hrecord : Record.node state.nodeId n.identityPubkey n.ip =
      .node state.nodeId (identityKey keys directory) state.ip :=
    eq_of_name h.filed.once hstored hnode rfl
  obtain ⟨-, hkey, hip⟩ := Record.node.inj hrecord
  exact ⟨hn, hsame, hip, hkey⟩

/-- Registrations run alone on their directories, and no node id and no token is drawn twice. Then,
in every run of the fleet, whenever the coordinator accepts the token that a directory has saved, it
accepts it for the node that the directory has saved, with its address and the key of the directory.
Two directories with different keys whose tokens are accepted are nodes apart, with addresses apart,
and each is listed to the other. -/
theorem enrolled_apart [DecidableEq ι] {ttl : I64} {clock : Clock} {instant : Instant}
    {events : List (Event ι)} (hbase64 : Base64RoundTrip)
    (horderly : Transition.AllSteps (step keys) Orderly (start ttl clock instant) events)
    (hrun : Transition.exec (step keys) (start ttl clock instant) events = some f)
    (hdrawn : f.drawn.Nodup) {directory : ι} {state : State} {now : ℤ} {n : NodeRecord}
    (hstate : f.files directory = some state)
    (hfound : f.journal.server.coord.db.getNodeByToken state.authToken now = some n) :
    (n.nodeId = state.nodeId ∧ n.ip = state.ip ∧ n.identityPubkey = identityKey keys directory) ∧
      ∀ directory' state' now' n', f.files directory' = some state' →
        f.journal.server.coord.db.getNodeByToken state'.authToken now' = some n' →
        identityKey keys directory' ≠ identityKey keys directory →
        state'.nodeId ≠ state.nodeId ∧ state'.ip ≠ state.ip ∧
          n' ∈ f.journal.server.coord.db.listPeers (some n.nodeId) := by
  obtain ⟨ledger, hkept⟩ := kept_of_run hbase64 horderly hrun hdrawn
  obtain ⟨hn, hid, hip, hkey⟩ := hkept.accepted hstate hfound
  refine ⟨⟨hid, hip, hkey⟩, fun directory' state' now' n' hstate' hfound' hapart => ?_⟩
  obtain ⟨hn', hid', hip', hkey'⟩ := hkept.accepted hstate' hfound'
  have hne : n' ≠ n := fun heq => hapart (by rw [← hkey', heq, hkey])
  have hnodeId : n'.nodeId ≠ n.nodeId := fun heq => hne
    (f.journal.server.coord.db.nodes.eq_of_not_apart hn' hn fun hrows => hrows .nodeId heq)
  have haddress : n'.ip ≠ n.ip := fun heq => hne
    (f.journal.server.coord.db.nodes.eq_of_not_apart hn' hn fun hrows => hrows .ip heq)
  refine ⟨hid' ▸ hid ▸ hnodeId, hip' ▸ hip ▸ haddress, List.mem_filter.2 ⟨hn', ?_⟩⟩
  rw [decide_eq_true_eq]
  exact fun heq => hnodeId (Option.some.inj heq).symm

end General

/-! ## Two directories -/

section Parties

open Coord.Parties

attribute [local instance] crates Symbolic.release

/-- The keys of a few directories. -/
def keysOf (directory : ℕ) : NodeKeys :=
  let identity := key (UInt8.ofNat (2 * directory + 1))
  ⟨⟨identity, sign identity⟩, key (UInt8.ofNat (2 * directory + 2))⟩

/-- A coordinator that gives tokens a hundred seconds. -/
def opening : Fleet ℕ := start (seconds 100) (moment 1000) 0

/-- Two directories register side by side. -/
def enrolling : List (Event ℕ) :=
  [.launch 0 .register, .launch 1 .register,
    .send 0 0 (client 1) (seconds 1000) (draws "a" 7),
    .send 1 1 (client 2) (seconds 1000) (draws "b" 8)] ++
  (List.replicate 4 [.coordinator (.advance 0), .coordinator (.advance 1)]).flatten ++
  [.receive 1, .work 1 0, .receive 0, .work 0 0]

/-- A process sends a request, which is handled alone. -/
def asks (p i : ℕ) (nodeId : String) (byte : UInt8) : List (Event ℕ) :=
  .send p i (client (UInt8.ofNat i)) (seconds 1000) (draws nodeId byte) ::
    List.replicate 5 (.coordinator (.advance i))

/-- A listing begins, the node is replaced, and the daemon of the new one refreshes its token; the
listing brings the old node back before the daemon saves the new token. -/
def replaced : List (Event ℕ) :=
  .launch 0 .register :: asks 0 0 "a" 7 ++ [.receive 0, .work 0 0, .launch 0 .peers, .work 1 0] ++
    asks 1 1 "" 0 ++ [.launch 0 .deregister, .work 2 0] ++ asks 2 2 "" 0 ++
    [.receive 2, .launch 0 .register] ++ asks 3 3 "b" 8 ++
    [.receive 3, .work 3 0, .launch 0 (.up "10.0.0.1:7" none 1), .work 4 0] ++ asks 4 4 "" 0 ++
    .receive 4 :: asks 4 5 "" 0 ++ [.receive 4, .work 4 0, .work 4 0, .work 4 0, .work 4 1090] ++
    asks 4 6 "" 9 ++ [.receive 4, .receive 1, .work 1 0, .work 4 0, .work 4 0]

/-- What a directory has saved, and the node for which the coordinator accepts its token. -/
def accepted (f : Fleet ℕ) (directory : ℕ) : Option (State × NodeRecord) := do
  let state ← f.files directory
  let n ← f.journal.server.coord.db.getNodeByToken state.authToken 1000
  some (state, n)

theorem accepted_eq_some {f : Fleet ℕ} {directory : ℕ} {state : State} {n : NodeRecord}
    (h : accepted f directory = some (state, n)) : f.files directory = some state ∧
      f.journal.server.coord.db.getNodeByToken state.authToken 1000 = some n := by
  obtain ⟨state', hstate, hfound⟩ := Option.bind_eq_some_iff.1 h
  obtain ⟨n', hn, hsame⟩ := Option.bind_eq_some_iff.1 hfound
  cases hsame
  exact ⟨hstate, hn⟩

/-- Directories that register side by side get addresses apart. A registration that does not run
alone can leave a directory with a token of another node than the one that it has saved. -/
theorem enrolled_side_by_side :
    (∃ f state state' n, Transition.exec (step keysOf) opening enrolling = some f ∧
      accepted f 0 = some (state, n) ∧ n.ip = state.ip ∧ f.files 1 = some state' ∧
      state'.ip ≠ state.ip) ∧
    ∃ f state n, Transition.exec (step keysOf) opening replaced = some f ∧ f.drawn.Nodup ∧
      accepted f 0 = some (state, n) ∧ n.nodeId ≠ state.nodeId := by
  have hfirst : (Transition.exec (step keysOf) opening enrolling).any (fun f =>
      decide f.drawn.Nodup && (accepted f 0).isSome && (accepted f 1).isSome) = true := by
    decide +kernel
  have hsecond : (Transition.exec (step keysOf) opening replaced).any (fun f =>
      decide f.drawn.Nodup && (accepted f 0).any fun x => decide (x.2.nodeId ≠ x.1.nodeId)) =
        true := by
    decide +kernel
  have horderly : Transition.AllSteps (step keysOf) Orderly opening enrolling := by decide +kernel
  obtain ⟨f, hrun, hends⟩ := (Option.any_eq_true _ _).1 hfirst
  obtain ⟨g, hrun', hends'⟩ := (Option.any_eq_true _ _).1 hsecond
  simp only [Bool.and_eq_true, decide_eq_true_eq, Option.isSome_iff_exists] at hends
  obtain ⟨⟨hdrawn, ⟨state, n⟩, hsaved⟩, ⟨state', n'⟩, hsaved'⟩ := hends
  obtain ⟨hstate, hfound⟩ := accepted_eq_some hsaved
  obtain ⟨hstate', hfound'⟩ := accepted_eq_some hsaved'
  obtain ⟨⟨-, hip, -⟩, hothers⟩ :=
    enrolled_apart Mesh.base64RoundTrip horderly hrun hdrawn hstate hfound
  have hkeys : identityKey keysOf 1 ≠ identityKey keysOf 0 := by decide +kernel
  refine ⟨⟨f, state, state', n, hrun, hsaved, hip, hstate', ?_⟩, g, ?_⟩
  · exact (hothers 1 state' 1000 n' hstate' hfound' hkeys).2.1
  · simp only [Bool.and_eq_true, decide_eq_true_eq] at hends'
    obtain ⟨⟨state, n⟩, hsaved, hapart⟩ := (Option.any_eq_true _ _).1 hends'.2
    exact ⟨state, n, hrun', hends'.1, hsaved, of_decide_eq_true hapart⟩

end Parties

end Fleet

end Naboscale.Cli
