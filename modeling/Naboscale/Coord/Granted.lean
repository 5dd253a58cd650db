import Naboscale.Coord.Server

/-!
# Requests that pass their checks

A request that is handled alone fails one of its checks, and only the rate limiter remembers it, or
passes them all and goes on to its own work. The checks of a registration are those of its keys;
the other requests are checked against the row of their caller.
-/

namespace Naboscale.Coord

open Rust Concurrent

variable [CoordCrates]

namespace Coordinator

variable {self : Coordinator} {peer : SocketAddr} {bucket : Bucket} {α β : Type}

/-- The state after the rate limiter has counted a request. -/
def limited (self : Coordinator) (peer : SocketAddr) (bucket : Bucket) : Coordinator :=
  { self with rateLimiter := (self.rateLimiter.check self.instant peer.ip bucket).2 }

variable [Profile]

theorem run_checkRateLimit {k : Unit → Handler α} :
    (checkRateLimit peer bucket >>= k).run handle self =
      match (self.rateLimiter.check self.instant peer.ip bucket).1 with
      | .ok admitted => (k admitted).run handle (self.limited peer bucket)
      | .error retry =>
          (.err (.rateLimited (max (retry / second) 1)), self.limited peer bucket) := by
  have hhandle : handle (.checkRateLimit peer.ip bucket) self =
      (some (self.rateLimiter.check self.instant peer.ip bucket).1, self.limited peer bucket) := rfl
  rw [checkRateLimit, bind_assoc, Op.call, Program.perform_bind, Program.run_call hhandle]
  cases (self.rateLimiter.check self.instant peer.ip bucket).1 <;> rfl

/-- A request changes neither the TTL nor the clock. -/
theorem run_config (p : Handler α) (self : Coordinator) :
    (p.run handle self).2.tokenTtlSecs = self.tokenTtlSecs ∧
      (p.run handle self).2.clock = self.clock := by
  induction p generalizing self with
  | call op next ih =>
      obtain ⟨httl, hclock⟩ := handle_config op self
      rcases hhandle : handle op self with ⟨_ | r, after⟩ <;> rw [hhandle] at httl hclock
      · rw [Program.run_call_panic hhandle]
        exact ⟨httl, hclock⟩
      · rw [Program.run_call hhandle]
        exact ⟨(ih r after).1.trans httl, (ih r after).2.trans hclock⟩
  | _ => exact ⟨rfl, rfl⟩

/-- An operation under a sound lock. -/
theorem run_sound (self : Coordinator) {op : Op} {f : Database → Option op.Result × Database}
    {k : op.Result → Handler α} (hop : handle op self = self.locked f)
    (hsound : self.poisoned = false) :
    (op.call >>= k).run handle self =
      match f self.db with
      | (some r, db) => (k r).run handle { self with db, poisoned := false }
      | (none, db) => (.panic, { self with db, poisoned := true }) := by
  show (Program.call op k).run handle self = _
  rw [locked_eq hsound] at hop
  rcases hf : f self.db with ⟨_ | r, db⟩ <;> rw [hf] at hop
  · rw [Program.run_call_panic hop]
    rfl
  · rw [Program.run_call hop]
    rfl

/-! ## Registrations -/

/-- The registration passes its checks with these keys. -/
structure Admits (state : Coordinator) (peer : SocketAddr) (req : RegisterRequest)
    (identity wg : Arr 32) : Prop where
  admitted : (state.rateLimiter.check state.instant peer.ip .register).1 = .ok ()
  identityPubkey : decodePubkey req.identityPubkey = .ok identity
  wgPubkey : decodePubkey req.wgPubkey = .ok wg
  timely : validateTimestamp req.timestamp state.clock.val = some (.ok ())
  signed : ∃ signature, decodeSignature req.signature = .ok signature ∧
    checkSignature identity (buildRegisterMessage req.timestamp identity wg) signature = .ok ()

/-- What is left of `register` after its checks. -/
def assign (ttl : I64) (draws : Draws) (identity wg : Arr 32) (now : ℤ) : Handler Response := do
  let allocated ← Op.allocate.call
  match allocated with
  | none => .fail .ipPoolExhausted
  | some ip => insertAllocated ttl draws identity wg now ip

theorem run_assign (self : Coordinator) (ttl : I64) (draws : Draws) (identity wg : Arr 32)
    (now : ℤ) :
    (assign ttl draws identity wg now).run handle self =
      (match self.ipAlloc.allocate.1 with
        | none => .fail .ipPoolExhausted
        | some ip => insertAllocated ttl draws identity wg now ip : Handler Response).run handle
          { self with ipAlloc := self.ipAlloc.allocate.2 } := rfl

variable {req : RegisterRequest} {identity wg : Arr 32}

/-- A registration that passes its checks goes on to its address. -/
theorem Admits.serve (h : self.Admits peer req identity wg) (draws : Draws) :
    self.serve (.register peer req) draws =
      (assign self.tokenTtlSecs draws identity wg self.clock.val).run handle
        (self.limited peer .register) := by
  obtain ⟨signature, hsignature, hsigned⟩ := h.signed
  have hclock {k : Clock → Handler Response} {s : Coordinator} :
      (Op.currentTimestamp.call >>= k).run handle s = (k s.clock).run handle s := rfl
  show (register self.tokenTtlSecs draws peer req).run handle self = _
  rw [register, run_checkRateLimit, h.admitted]
  dsimp only
  rw [h.identityPubkey, h.wgPubkey, hsignature]
  simp only [Program.lift_ok, Program.done_bind]
  rw [hclock]
  show (Program.unwrap (validateTimestamp req.timestamp self.clock.val) >>= _).run handle _ = _
  rw [h.timely, Program.unwrap_some, Program.done_bind, Program.lift_ok, Program.done_bind, hsigned]
  rfl

/-- A registration that fails a check is counted by the rate limiter and changes nothing else. -/
theorem serve_refused (h : ∀ identity wg, ¬ self.Admits peer req identity wg) (draws : Draws) :
    (self.serve (.register peer req) draws).2 = self.limited peer .register ∧
      ∀ response, (self.serve (.register peer req) draws).1 ≠ .ok response := by
  show ((register self.tokenTtlSecs draws peer req).run handle self).2 = _ ∧
    ∀ response, ((register self.tokenTtlSecs draws peer req).run handle self).1 ≠ .ok response
  rw [register, run_checkRateLimit]
  cases hadmitted : (self.rateLimiter.check self.instant peer.ip .register).1 with
  | error retry => exact ⟨rfl, nofun⟩
  | ok admitted =>
  cases hidentity : decodePubkey req.identityPubkey with
  | error e => exact ⟨rfl, nofun⟩
  | ok identity =>
  cases hwg : decodePubkey req.wgPubkey with
  | error e => exact ⟨rfl, nofun⟩
  | ok wg =>
  cases hsignature : decodeSignature req.signature with
  | error e => exact ⟨rfl, nofun⟩
  | ok signature =>
  show (Program.run handle (Program.unwrap (validateTimestamp req.timestamp self.clock.val) >>= _)
      (self.limited peer .register)).2 = _ ∧ ∀ response,
    (Program.run handle (Program.unwrap (validateTimestamp req.timestamp self.clock.val) >>= _)
      (self.limited peer .register)).1 ≠ .ok response
  rcases htimely : validateTimestamp req.timestamp self.clock.val with _ | _ | _
  · exact ⟨rfl, nofun⟩
  · exact ⟨rfl, nofun⟩
  · show (Program.run handle (Program.lift id (checkSignature identity _ signature) >>= _)
        (self.limited peer .register)).2 = _ ∧ ∀ response,
      (Program.run handle (Program.lift id (checkSignature identity _ signature) >>= _)
        (self.limited peer .register)).1 ≠ .ok response
    cases hsigned : checkSignature identity (buildRegisterMessage req.timestamp identity wg)
        signature with
    | error e => exact ⟨rfl, nofun⟩
    | ok valid =>
        exact absurd ⟨hadmitted, hidentity, hwg, htimely, signature, hsignature, hsigned⟩
          (h identity wg)

/-! ## Signed requests -/

/-- The program leaves every state as it is. -/
def Still (p : Handler α) : Prop := ∀ self, (p.run handle self).2 = self

theorem Still.bind {p : Handler α} {f : α → Handler β} (hp : Still p) (hf : ∀ a, Still (f a)) :
    Still (p >>= f) := by
  intro self
  have hself := hp self
  rw [Program.run_bind]
  rcases hrun : p.run handle self with ⟨_ | _ | _, after⟩ <;> rw [hrun] at hself
  · exact (hf _ _).trans hself
  · exact hself
  · exact hself

theorem still_lift {δ : Type} {f : δ → Error} {x : Except δ α} : Still (.lift f x) := by
  intro self
  cases x <;> rfl

theorem still_unwrap {x : Option α} : Still (.unwrap x) := by
  intro self
  cases x <;> rfl

/-- A read under the lock. -/
theorem still_read {op : Op} {f : Database → op.Result}
    (hop : ∀ self, handle op self = self.locked fun db => (some (f db), db)) : Still op.call := by
  intro self
  have hhandle := hop self
  cases hpoisoned : self.poisoned with
  | true =>
      rw [locked_poisoned hpoisoned] at hhandle
      exact congrArg Prod.snd (Program.run_call_panic hhandle)
  | false =>
      rw [locked_eq hpoisoned] at hhandle
      refine (congrArg Prod.snd (Program.run_call hhandle)).trans ?_
      show { self with poisoned := false } = self
      rw [← hpoisoned]

theorem still_getNodeByToken {token : String} {now : ℤ} :
    Still (Op.getNodeByToken token now).call :=
  still_read (f := fun db => db.getNodeByToken token now) fun _ => rfl

theorem still_authenticate {authorization : Option String} :
    Still (authenticate authorization) := by
  refine still_lift.bind fun token => Still.bind (fun _ => rfl) fun now =>
    still_getNodeByToken.bind fun caller => ?_
  cases caller <;> exact fun _ => rfl

theorem still_decodeSigned {caller : NodeRecord} {signature : String} {timestamp now : ℤ} :
    Still (decodeSigned caller signature timestamp now) :=
  still_lift.bind fun _ => still_unwrap.bind fun _ => still_lift.bind fun _ =>
    still_unwrap.bind fun _ _ => rfl

/-- The checks of a request signed by its caller. -/
def signedBy (peer : SocketAddr) (bucket : Bucket) (authorization : Option String)
    (signature : String) (timestamp : ℤ) (message : Bytes) : Handler (ℤ × NodeRecord) := do
  checkRateLimit peer bucket
  let (now, caller) ← authenticate authorization
  let (identityPubkey, sig) ← decodeSigned caller signature timestamp now
  .lift id (checkSignature identityPubkey message sig)
  pure (now, caller)

variable {authorization : Option String} {signature : String} {timestamp : ℤ} {message : Bytes}

/-- The signed request passes its checks, and this is its caller. -/
def Grants (self : Coordinator) (peer : SocketAddr) (bucket : Bucket)
    (authorization : Option String) (signature : String) (timestamp : ℤ) (message : Bytes)
    (caller : NodeRecord) : Prop :=
  ((signedBy peer bucket authorization signature timestamp message).run handle self).1 =
    .ok (self.clock.val, caller)

/-- The checks of a signed request name its caller, or stop the request; either way they only count
it. -/
theorem run_signedBy {k : ℤ × NodeRecord → Handler α} :
    (∃ caller, self.Grants peer bucket authorization signature timestamp message caller ∧
        (signedBy peer bucket authorization signature timestamp message >>= k).run handle self =
          (k (self.clock.val, caller)).run handle (self.limited peer bucket)) ∨
      (∀ caller, ¬ self.Grants peer bucket authorization signature timestamp message caller) ∧
        ((signedBy peer bucket authorization signature timestamp message >>= k).run handle
          self).2 = self.limited peer bucket ∧
        ∀ a, ((signedBy peer bucket authorization signature timestamp message >>= k).run handle
          self).1 ≠ .ok a := by
  have hafter : ((signedBy peer bucket authorization signature timestamp message).run handle
      self).2 = self.limited peer bucket := by
    rw [signedBy, run_checkRateLimit]
    cases (self.rateLimiter.check self.instant peer.ip bucket).1 with
    | error retry => rfl
    | ok admitted =>
        exact still_authenticate.bind (fun _ => still_decodeSigned.bind fun _ =>
          still_lift.bind fun _ _ => rfl) _
  rw [Program.run_bind]
  rcases hrun : (signedBy peer bucket authorization signature timestamp message).run handle self
    with ⟨⟨now, caller⟩ | e | _, after⟩
  · rw [hrun] at hafter
    obtain ⟨_, admitted, hlimit, hrest⟩ := Program.run_bind_ok hrun
    obtain ⟨⟨now', caller'⟩, s, hcaller, hrest⟩ := Program.run_bind_ok hrest
    obtain ⟨_, s', -, hrest⟩ := Program.run_bind_ok hrest
    obtain ⟨_, s'', -, hpure⟩ := Program.run_bind_ok hrest
    cases hpure
    have hclock : admitted.clock = self.clock := by rw [checkRateLimit_ok hlimit]
    obtain ⟨hnow, -⟩ := authenticate_ok hcaller
    rw [hclock] at hnow
    subst hnow
    cases hafter
    exact Or.inl ⟨caller, congrArg Prod.fst hrun, rfl⟩
  · refine Or.inr ⟨fun caller hgrants => ?_, ?_, nofun⟩
    · cases (congrArg Prod.fst hrun).symm.trans hgrants
    · rwa [hrun] at hafter
  · refine Or.inr ⟨fun caller hgrants => ?_, ?_, nofun⟩
    · cases (congrArg Prod.fst hrun).symm.trans hgrants
    · rwa [hrun] at hafter

/-- The caller of a request that passes its checks is the node that its token finds. -/
theorem Grants.caller {caller : NodeRecord}
    (h : self.Grants peer bucket authorization signature timestamp message caller) :
    self.poisoned = false ∧ ∃ token, extractBearer authorization = .ok token ∧
      self.db.getNodeByToken token self.clock.val = some caller := by
  obtain ⟨_, admitted, hlimit, hrest⟩ := Program.run_bind_ok (Prod.ext h rfl)
  obtain ⟨⟨now', caller'⟩, s, hcaller, hrest⟩ := Program.run_bind_ok hrest
  obtain ⟨_, s', -, hrest⟩ := Program.run_bind_ok hrest
  obtain ⟨_, s'', -, hpure⟩ := Program.run_bind_ok hrest
  cases hpure
  obtain ⟨hnow, hsound, -, token, htoken, hfound⟩ := authenticate_ok hcaller
  rw [checkRateLimit_ok hlimit] at hsound hfound
  exact ⟨hsound, token, htoken, hfound⟩

end Coordinator

end Naboscale.Coord
