import Naboscale.Rust.Bytes

/-!
# Files in one directory

`std::fs` as far as a program works in one directory: reading, writing and renaming files by their
names, with operations that may fail. A failed write leaves anything under its name; a rename either
happens or changes nothing. Every operation is recorded with the program's state, and whether it
fails may depend on all those before it.
-/

namespace Rust

/-- `std::io::Error`. -/
inductive IoError where
  | notFound
  | other (text : String)

/-- What a name stands for: a file with its content, or something that cannot be read as one. -/
inductive Entry where
  | file (bytes : Bytes)
  | unreadable (text : String)

/-- A directory: how its path is displayed, and what its names stand for if it exists. -/
structure Folder where
  path : String
  entries : Option (String → Option Entry)

namespace Folder

/-- What a name stands for, if anything. -/
def entry (d : Folder) (name : String) : Option Entry := d.entries.bind fun entries => entries name

/-- `Path::exists` of a name. -/
def contains (d : Folder) (name : String) : Bool := (d.entry name).isSome

/-- `fs::read` of a name. -/
def read (d : Folder) (name : String) : Except IoError Bytes :=
  match d.entry name with
  | none => .error .notFound
  | some (.file bytes) => .ok bytes
  | some (.unreadable text) => .error (.other text)

/-- The directory with another meaning of a name. -/
def put (d : Folder) (name : String) (entry : Option Entry) : Folder :=
  { d with entries := d.entries.map fun entries => Function.update entries name entry }

/-- The directory exists. -/
def create (d : Folder) : Folder := { d with entries := some (d.entries.getD fun _ => none) }

variable {d : Folder} {name other : String} {entry : Option Entry}

@[simp] theorem path_put : (d.put name entry).path = d.path := rfl

@[simp] theorem path_create : d.create.path = d.path := rfl

@[simp] theorem entry_create : d.create.entry name = d.entry name := by
  cases h : d.entries <;> simp [create, Folder.entry, h]

@[simp] theorem isSome_create : d.create.entries.isSome = true := rfl

@[simp] theorem isSome_put : (d.put name entry).entries.isSome = d.entries.isSome := by
  simp [put]

theorem entry_put_of_ne (h : other ≠ name) : (d.put name entry).entry other = d.entry other := by
  cases hentries : d.entries <;> simp [put, Folder.entry, hentries, h]

theorem entry_put_same (h : d.entries.isSome = true) : (d.put name entry).entry name = entry := by
  obtain ⟨entries, hentries⟩ := Option.isSome_iff_exists.1 h
  simp [put, Folder.entry, hentries]

theorem contains_iff : d.contains name = true ↔ ∃ e, d.entry name = some e :=
  Option.isSome_iff_exists

theorem read_file {bytes : Bytes} (h : d.entry name = some (.file bytes)) :
    d.read name = .ok bytes := by
  rw [read, h]

end Folder

/-! ## Operations -/

/-- The operations that change a directory. -/
inductive Operation where
  | createDirAll
  | write (name : String) (bytes : Bytes)
  | rename (source target : String)
  | setPermissions (name : String)
  deriving DecidableEq

/-- How an operation fails: its error, and what a failed write leaves under its name. -/
structure Failure where
  error : IoError
  left : Option Entry

/-- A directory that a program works in, with the operations so far. -/
structure Disk where
  folder : Folder
  performed : List Operation
  failing : List Operation → Option Failure

namespace Operation

/-- What the operation does if nothing prevents it. -/
def apply : Operation → Folder → Except IoError Folder
  | createDirAll, d => .ok d.create
  | write name bytes, d =>
      if d.entries.isSome then .ok (d.put name (some (.file bytes))) else .error .notFound
  | rename source target, d =>
      if d.contains source then .ok ((d.put target (d.entry source)).put source none)
      else .error .notFound
  | setPermissions name, d => if d.contains name then .ok d else .error .notFound

/-- What the operation does if it fails. -/
def fail (failure : Failure) : Operation → Folder → Folder
  | write name _, d => d.put name failure.left
  | _, d => d

end Operation

/-- The disk after an operation. -/
def Disk.after (s : Disk) (op : Operation) (folder : Folder) : Disk :=
  { s with folder, performed := s.performed ++ [op] }

@[simp] theorem Disk.folder_after {s : Disk} {op : Operation} {d : Folder} :
    (s.after op d).folder = d := rfl

@[simp] theorem Disk.performed_after {s : Disk} {op : Operation} {d : Folder} :
    (s.after op d).performed = s.performed ++ [op] := rfl

namespace Operation

/-- Perform the operation. -/
def perform (op : Operation) : Method Disk IoError Unit := fun s =>
  match s.failing (s.performed ++ [op]) with
  | some failure => .err failure.error (s.after op (op.fail failure s.folder))
  | none =>
      match op.apply s.folder with
      | .ok folder => .ok () (s.after op folder)
      | .error e => .err e (s.after op s.folder)

/-- The rule for an operation: it is performed, or it fails in one of the two ways. -/
theorem wp_perform {op : Operation} {Q : Method.Post Disk IoError Unit} {s : Disk}
    (hok : ∀ d, op.apply s.folder = .ok d → Q.ok () (s.after op d))
    (hfail : ∀ failure, Q.err failure.error (s.after op (op.fail failure s.folder)))
    (herror : ∀ e, op.apply s.folder = .error e → Q.err e (s.after op s.folder)) :
    op.perform.wp Q s := by
  unfold Method.wp perform
  cases s.failing (s.performed ++ [op]) with
  | some failure => exact hfail failure
  | none =>
      cases happly : op.apply s.folder with
      | ok d => exact hok d happly
      | error e => exact herror e happly

/-- Perform operations one after another. -/
def performAll : List Operation → Method Disk IoError Unit
  | [] => pure ()
  | op :: rest => do
      op.perform
      performAll rest

/-- What operations do one after another if nothing prevents them. -/
def applyAll : List Operation → Folder → Except IoError Folder
  | [], d => .ok d
  | op :: rest, d => op.apply d >>= applyAll rest

theorem applyAll_append (first second : List Operation) (d : Folder) :
    applyAll (first ++ second) d = applyAll first d >>= applyAll second := by
  induction first generalizing d with
  | nil => rfl
  | cons op rest ih =>
      show (op.apply d >>= applyAll (rest ++ second)) = (op.apply d >>= applyAll rest) >>= _
      cases op.apply d with
      | ok d' => exact ih d'
      | error e => rfl

/-- What a sequence of operations leaves if one of them fails: those before it are done, and it did
nothing or what a failure does. -/
structure Stops (ops : List Operation) (s s' : Disk) (done : List Operation) (op : Operation)
    (rest : List Operation) (d : Folder) : Prop where
  ops : ops = done ++ op :: rest
  performed : s'.performed = s.performed ++ (done ++ [op])
  applied : applyAll done s.folder = .ok d
  folder : s'.folder = d ∨ ∃ failure, s'.folder = op.fail failure d

/-- The rule for a sequence: all operations are done, or it stops at one of them. -/
theorem wp_performAll (ops : List Operation) (s : Disk) :
    (performAll ops).wp
      ⟨fun _ s' => s'.performed = s.performed ++ ops ∧ applyAll ops s.folder = .ok s'.folder,
        fun _ s' => ∃ done op rest d, Stops ops s s' done op rest d,
        False⟩ s := by
  induction ops generalizing s with
  | nil => exact ⟨(List.append_nil _).symm, rfl⟩
  | cons op rest ih =>
      rw [performAll, Method.wp_bind]
      refine wp_perform (fun d hd => ?_)
        (fun failure => ⟨[], op, rest, s.folder, rfl, rfl, rfl, .inr ⟨failure, rfl⟩⟩)
        (fun e _ => ⟨[], op, rest, s.folder, rfl, rfl, rfl, .inl rfl⟩)
      refine Method.wp_mono (ih (s.after op d)) ?_ ?_ id
      · rintro - s' ⟨hperformed, happlied⟩
        refine ⟨by rw [hperformed, Disk.performed_after, List.append_assoc]; rfl, ?_⟩
        rw [applyAll, hd]
        exact happlied
      · rintro - s' ⟨done, last, after, d', hstops⟩
        refine ⟨op :: done, last, after, d', ?_, ?_, ?_, hstops.folder⟩
        · rw [hstops.ops]
          rfl
        · rw [hstops.performed, Disk.performed_after, List.append_assoc]
          rfl
        · rw [applyAll, hd]
          exact hstops.applied

end Operation

namespace Method

variable {σ δ ε α : Type}

/-- The `?` operator on a call that has another error type. -/
def mapErr (f : δ → ε) (p : Method σ δ α) : Method σ ε α := fun s =>
  match p s with
  | .ok a s' => .ok a s'
  | .err e s' => .err (f e) s'
  | .panic => .panic

@[simp] theorem wp_mapErr {Q : Post σ ε α} {s : σ} (f : δ → ε) (p : Method σ δ α) :
    (mapErr f p).wp Q s ↔ p.wp ⟨Q.ok, fun e s' => Q.err (f e) s', Q.panic⟩ s := by
  unfold wp mapErr
  cases p s <;> rfl

end Method

end Rust
