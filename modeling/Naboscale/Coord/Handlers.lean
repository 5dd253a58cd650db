import Naboscale.Coord.Routes

/-!
# What a handler may call

Every handler keeps to one shape: the address that it is given goes into an insertion at once,
the address of a node that it deletes is released at once, and with an insertion or a new token it
is done. What holds across interleavings follows from the shape alone.
-/

namespace Naboscale.Coord

open Rust Concurrent

variable [CoordCrates]

/-- The address that a handler is about to store or to release. -/
def holds : Handler Response → Option Ipv4Addr
  | .call (.insertNode node _ _) _ => Ipv4Addr.parse node.ip
  | .call (.release ip) _ => some ip
  | _ => none

theorem holds_of_not_running {p : Handler Response} (h : p.isRunning = false) : holds p = none := by
  cases p with
  | call => cases h
  | _ => rfl

/-- What a handler with the TTL and the random draws may call. -/
def Shaped (ttl : I64) (draws : Draws) : (op : Op) → (op.Result → Handler Response) → Prop
  | .allocate, next => ∀ r, ∀ ip ∈ holds (next r), r = some ip
  | .deleteNode _, next => ∀ r, holds (next r) = r.bind Ipv4Addr.parse
  | .insertNode node token ttlSecs, next =>
      (∃ ip : Ipv4Addr, node.ip = toString ip) ∧ token = draws.authToken ∧ ttlSecs = ttl.val ∧
        (0 ≤ node.createdAt ∧ node.createdAt < 2 ^ 63) ∧ ∀ r, (next r).isRunning = false
  | .createToken _ token createdAt ttlSecs, next =>
      token = draws.authToken ∧ ttlSecs = ttl.val ∧ (0 ≤ createdAt ∧ createdAt < 2 ^ 63) ∧
        ∀ r, (next r).isRunning = false
  | .release _, next => ∀ r, (next r).isRunning = false
  | _, next => ∀ r, holds (next r) = none

/-- The operations that neither touch an address nor make a token. -/
def Op.IsQuiet : Op → Prop
  | allocate | deleteNode _ | insertNode _ _ _ | createToken _ _ _ _ | release _ => False
  | _ => True

/-- The operations that the checks before a handler's own work call. -/
def Op.IsCheck : Op → Prop
  | checkRateLimit _ _ | currentTimestamp | getNodeByToken _ _ => True
  | _ => False

/-! ## Through the checks -/

/-- A property of handlers that the checks of a handler keep: a handler that is done has it, and a
check may come before one that has it. -/
structure Regular (T : Handler Response → Prop) : Prop where
  finished : ∀ {p : Handler Response}, p.isRunning = false → T p
  call : ∀ {op : Op} {k : op.Result → Handler Response}, op.IsCheck → (∀ r, T (k r)) →
    T (op.call >>= k)

variable {ttl : I64} {draws : Draws} {peer : SocketAddr} {authorization : Option String}
  {α δ : Type} {T : Handler Response → Prop}

theorem Regular.lift_of_ok (hT : Regular T) {f : δ → Error} {x : Except δ α}
    {k : α → Handler Response} (h : ∀ a, x = .ok a → T (k a)) : T (.lift f x >>= k) := by
  cases x with
  | ok a => exact h a rfl
  | error e => exact hT.finished rfl

theorem Regular.lift (hT : Regular T) {f : δ → Error} {x : Except δ α} {k : α → Handler Response}
    (h : ∀ a, T (k a)) : T (.lift f x >>= k) :=
  hT.lift_of_ok fun a _ => h a

theorem Regular.unwrap (hT : Regular T) {x : Option α} {k : α → Handler Response}
    (h : ∀ a, x = some a → T (k a)) : T (.unwrap x >>= k) := by
  cases x with
  | some a => exact h a rfl
  | none => exact hT.finished rfl

theorem Regular.checkRateLimit (hT : Regular T) {bucket : Bucket} {k : Unit → Handler Response}
    (h : ∀ u, T (k u)) : T (Coord.checkRateLimit peer bucket >>= k) := by
  rw [Coord.checkRateLimit, bind_assoc]
  exact hT.call trivial fun _ => hT.lift h

theorem Regular.authenticate (hT : Regular T) {k : ℤ × NodeRecord → Handler Response}
    (h : ∀ (now : Clock) caller, T (k (now.val, caller))) :
    T (Coord.authenticate authorization >>= k) := by
  simp only [Coord.authenticate, bind_assoc]
  refine hT.lift fun token => hT.call trivial fun now => hT.call trivial fun caller => ?_
  cases caller with
  | none => exact hT.finished rfl
  | some caller => exact h now caller

theorem Regular.decodeSigned_of_ok [Profile] (hT : Regular T) {caller : NodeRecord}
    {signature : String} {timestamp now : ℤ} {k : Arr 32 × Arr 64 → Handler Response}
    (h : ∀ identityPubkey sig, identityKey caller.identityPubkey = some identityPubkey →
      decodeSignature signature = .ok sig → validateTimestamp timestamp now = some (.ok ()) →
      T (k (identityPubkey, sig))) :
    T (Coord.decodeSigned caller signature timestamp now >>= k) := by
  simp only [Coord.decodeSigned, bind_assoc]
  refine hT.lift_of_ok fun sig hsig => hT.unwrap fun valid hvalid => hT.lift_of_ok fun u hu =>
    hT.unwrap fun identityPubkey hkey => ?_
  cases hu
  exact h identityPubkey sig hkey hsig hvalid

theorem Regular.decodeSigned [Profile] (hT : Regular T) {caller : NodeRecord} {signature : String}
    {timestamp now : ℤ} {k : Arr 32 × Arr 64 → Handler Response} (h : ∀ x, T (k x)) :
    T (Coord.decodeSigned caller signature timestamp now >>= k) :=
  hT.decodeSigned_of_ok fun _ _ _ _ _ => h _

/-! ## Addresses and tokens -/

/-- A handler that holds no address and stays in shape. -/
def Tame (ttl : I64) (draws : Draws) (p : Handler Response) : Prop :=
  holds p = none ∧ p.Always (Shaped ttl draws)

theorem tame_of_finished {p : Handler Response} (h : p.isRunning = false) : Tame ttl draws p := by
  cases p with
  | call => cases h
  | _ => exact ⟨rfl, trivial⟩

/-- A quiet operation keeps a handler in shape. -/
theorem tame_call {op : Op} {k : op.Result → Handler Response} (hop : op.IsQuiet)
    (h : ∀ r, Tame ttl draws (k r)) : Tame ttl draws (op.call >>= k) := by
  have hall : ∀ r, (k r).Always (Shaped ttl draws) := fun r => (h r).2
  cases op with
  | allocate | deleteNode | insertNode | createToken | release => exact hop.elim
  | _ => exact ⟨rfl, fun r => (h r).1, hall⟩

theorem tame_regular : Regular (Tame ttl draws) where
  finished := tame_of_finished
  call {op _} hop h := by
    cases op with
    | checkRateLimit | currentTimestamp | getNodeByToken => exact tame_call trivial h
    | _ => exact hop.elim

variable [Profile]

variable {now : Clock} {nodeId : String}

omit [Profile] in
/-- A handler that makes its token and is done stays in shape. -/
theorem tame_createToken {k : Except Violation Unit → Handler Response}
    (h : ∀ r, (k r).isRunning = false) :
    Tame ttl draws ((Op.createToken nodeId draws.authToken now.val ttl.val).call >>= k) :=
  ⟨rfl, ⟨rfl, rfl, now.property, h⟩, fun r => (tame_of_finished (h r)).2⟩

/-- What is left of `register` once it has an address: the insertion, or a panic before it. -/
theorem insertAllocated_cases (ttl : I64) (draws : Draws) (identityPubkey wgPubkey : Arr 32)
    (now : Clock) (ip : Ipv4Addr) :
    (insertAllocated ttl draws identityPubkey wgPubkey now.val ip).isRunning = false ∨
      ∃ node rest, node.ip = toString ip ∧ node.createdAt = now.val ∧
        (∀ r, (rest r).isRunning = false) ∧
        insertAllocated ttl draws identityPubkey wgPubkey now.val ip =
          .call (.insertNode node draws.authToken ttl.val) rest := by
  unfold insertAllocated
  cases I64.value (now.val + ttl.val) with
  | none => exact .inl rfl
  | some expiresAt => exact .inr ⟨_, _, rfl, rfl, fun r => by cases r <;> rfl, rfl⟩

omit [Profile] in
/-- A handler that stores the address that it is given stays in shape. -/
theorem tame_allocate {k : Option Ipv4Addr → Handler Response} (hnone : (k none).isRunning = false)
    (hsome : ∀ ip, (k (some ip)).isRunning = false ∨ ∃ node rest, node.ip = toString ip ∧
      node.createdAt = now.val ∧ (∀ r, (rest r).isRunning = false) ∧
      k (some ip) = .call (.insertNode node draws.authToken ttl.val) rest) :
    Tame ttl draws (Op.allocate.call >>= k) := by
  refine ⟨rfl, fun r ip hip => ?_, fun r => ?_⟩
  · have hip : holds (k r) = some ip := hip
    cases r with
    | none =>
        rw [holds_of_not_running hnone] at hip
        cases hip
    | some first =>
        obtain hfin | ⟨node, rest, hnode, -, -, hk⟩ := hsome first
        · rw [holds_of_not_running hfin] at hip
          cases hip
        · rw [hk, holds, hnode, Ipv4Addr.parse_toString] at hip
          exact hip
  · show (k r).Always (Shaped ttl draws)
    cases r with
    | none => exact (tame_of_finished hnone).2
    | some ip =>
        obtain hfin | ⟨node, rest, hip, hat, hrest, hk⟩ := hsome ip
        · exact (tame_of_finished hfin).2
        · rw [hk]
          exact ⟨⟨⟨ip, hip⟩, rfl, rfl, hat ▸ now.property, hrest⟩,
            fun r => (tame_of_finished (hrest r)).2⟩

theorem register_tame (req : RegisterRequest) : Tame ttl draws (register ttl draws peer req) :=
  tame_regular.checkRateLimit fun _ => tame_regular.lift fun identityPubkey =>
    tame_regular.lift fun wgPubkey => tame_regular.lift fun _ => tame_call trivial fun now =>
    tame_regular.unwrap fun _ _ => tame_regular.lift fun _ => tame_regular.lift fun _ =>
    tame_allocate rfl fun ip => insertAllocated_cases ttl draws identityPubkey wgPubkey now ip

omit [Profile] in
theorem peers_tame : Tame ttl draws (peers peer authorization) :=
  tame_regular.checkRateLimit fun _ => tame_regular.authenticate fun _ _ =>
    tame_call trivial fun _ => tame_of_finished rfl

theorem heartbeat_tame (req : HeartbeatRequest) :
    Tame ttl draws (heartbeat peer authorization req) := by
  refine tame_regular.checkRateLimit fun _ => tame_regular.authenticate fun now caller =>
    tame_regular.decodeSigned fun x => tame_regular.lift fun _ => ?_
  split
  · exact tame_of_finished rfl
  · exact tame_call trivial fun _ => tame_of_finished rfl

theorem refreshToken_tame (req : SignedRequest) :
    Tame ttl draws (refreshToken ttl draws peer authorization req) := by
  refine tame_regular.checkRateLimit fun _ => tame_regular.authenticate fun now caller =>
    tame_regular.decodeSigned fun x => tame_regular.lift fun _ => tame_call trivial fun _ =>
    tame_createToken fun r => ?_
  cases r with
  | error e => rfl
  | ok =>
    show Program.isRunning (Program.unwrap (I64.value (now.val + ttl.val)) >>= _) = false
    cases I64.value (now.val + ttl.val) <;> rfl

omit [Profile] in
/-- A handler that releases the address of the node that it deletes stays in shape. -/
theorem tame_deleteNode {k : Option String → Handler Response}
    (hnone : ∀ r, r.bind Ipv4Addr.parse = none → (k r).isRunning = false)
    (hsome : ∀ r ip, r.bind Ipv4Addr.parse = some ip → ∃ rest,
      (∀ u, (rest u).isRunning = false) ∧ k r = .call (.release ip) rest) :
    Tame ttl draws ((Op.deleteNode nodeId).call >>= k) := by
  refine ⟨rfl, fun r => ?_, fun r => ?_⟩
  · show holds (k r) = r.bind Ipv4Addr.parse
    cases hr : r.bind Ipv4Addr.parse with
    | none => exact holds_of_not_running (hnone r hr)
    | some ip =>
        obtain ⟨rest, -, hk⟩ := hsome r ip hr
        rw [hk, holds]
  · show (k r).Always (Shaped ttl draws)
    cases hr : r.bind Ipv4Addr.parse with
    | none => exact (tame_of_finished (hnone r hr)).2
    | some ip =>
        obtain ⟨rest, hrest, hk⟩ := hsome r ip hr
        rw [hk]
        exact ⟨hrest, fun r => (tame_of_finished (hrest r)).2⟩

theorem deleteNode_tame (req : SignedRequest) :
    Tame ttl draws (deleteNode peer authorization req) := by
  refine tame_regular.checkRateLimit fun _ => tame_regular.authenticate fun now caller =>
    tame_regular.decodeSigned fun x => tame_regular.lift fun _ =>
    tame_deleteNode (fun r hr => ?_) fun r ip hr => ?_
  · rw [hr]
    rfl
  · rw [hr]
    exact ⟨_, fun _ => rfl, rfl⟩

/-- Every handler stays in shape. -/
theorem handler_tame (request : Request) : Tame ttl draws (request.handler ttl draws) := by
  cases request with
  | register peer req => exact register_tame req
  | peers peer authorization => exact peers_tame
  | heartbeat peer authorization req => exact heartbeat_tame req
  | refreshToken peer authorization req => exact refreshToken_tame req
  | deleteNode peer authorization req => exact deleteNode_tame req

end Naboscale.Coord
