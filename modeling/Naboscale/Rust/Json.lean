import Naboscale.Rust.Bytes

/-!
# JSON values and the structures that are read from them

A JSON text as `serde_json` parses it, and the readers that `#[derive(Deserialize)]` makes for a
structure. A structure is read from an object by the names of its fields, whatever else the object
has, or from an array by their order.
-/

namespace Rust

/-- A number that is computed is an `i64`. -/
theorem I64.inRange_of_value [Profile] {x y : ℤ} (h : value x = some y) : InRange y := by
  unfold value at h
  split at h
  · cases h
    assumption
  · split at h
    · cases h
    · cases h
      exact inRange_wrap x

/-- A JSON value. An object has its entries in the order of the text, also two of one name. -/
inductive Json where
  | null
  | bool (b : Bool)
  | int (n : ℤ)
  | float (text : String)
  | str (text : String)
  | arr (items : List Json)
  | obj (entries : List (String × Json))

/-- Why a value is not read. -/
inductive JsonError where
  | invalidType
  | invalidLength
  | missingField (name : String)
  | duplicateField (name : String)
  deriving DecidableEq

namespace Json

/-- `Deserialize`. -/
abbrev Decoder (α : Type) := Json → Except JsonError α

variable {α β : Type}

/-! ## Plain values -/

/-- A `String`. -/
def string : Decoder String
  | str text => .ok text
  | _ => .error .invalidType

/-- An `i64`. -/
def i64 : Decoder I64
  | int n => if h : I64.InRange n then .ok ⟨n, h⟩ else .error .invalidType
  | _ => .error .invalidType

/-- An `Option`. -/
def option (decode : Decoder α) : Decoder (Option α)
  | null => .ok none
  | v => (decode v).map some

/-- A `Vec`. -/
def list (decode : Decoder α) : Decoder (List α)
  | arr items => items.mapM decode
  | _ => .error .invalidType

/-- `Option` as `Serialize` writes it. -/
def ofOption (encode : α → Json) : Option α → Json
  | none => null
  | some a => encode a

@[simp] theorem string_str (text : String) : string (str text) = .ok text := rfl

@[simp] theorem i64_int (n : I64) : i64 (int n.val) = .ok n := dif_pos n.property

/-- What is written for an `Option` is read, unless a value is written as `null`. -/
theorem option_ofOption {encode : α → Json} {decode : Decoder α} {a : Option α}
    (hnull : ∀ x, encode x ≠ null) (h : ∀ x ∈ a, decode (encode x) = .ok x) :
    option decode (ofOption encode a) = .ok a := by
  cases a with
  | none => rfl
  | some x =>
      have hx := h x rfl
      have hsome : option decode (encode x) = (decode (encode x)).map some := by
        have hne := hnull x
        cases hencode : encode x with
        | null => exact absurd hencode hne
        | _ => rfl
      rw [ofOption, hsome, hx]
      rfl

@[simp] theorem option_string (text : Option String) :
    option string (ofOption str text) = .ok text :=
  option_ofOption (fun _ h => (by cases h)) fun _ _ => rfl

/-- An `Option<i64>` is read as the number that is written. -/
theorem option_i64 {n : Option ℤ} (h : ∀ x ∈ n, I64.InRange x) :
    ∃ m : Option I64, option i64 (ofOption int n) = .ok m ∧ m.map Subtype.val = n := by
  cases n with
  | none => exact ⟨none, rfl, rfl⟩
  | some x =>
      refine ⟨some ⟨x, h x rfl⟩, ?_, rfl⟩
      show (i64 (int x)).map some = _
      rw [i64_int ⟨x, h x rfl⟩]
      rfl

/-- A `Vec` is read item by item. -/
theorem list_of_forall₂ {decode : Decoder α} {items : List Json} {values : List α}
    (h : List.Forall₂ (fun v a => decode v = .ok a) items values) :
    list decode (arr items) = .ok values := by
  rw [list]
  induction h with
  | nil => rfl
  | cons hx _ ih =>
      rw [List.mapM_cons, hx]
      show List.mapM decode _ >>= _ = _
      rw [ih]
      rfl

/-- Where the fields of a structure are read from. -/
inductive Fields where
  | map (entries : List (String × Json))
  | seq (rest : List Json)

/-- What stands for a field that is not there: nothing, the `None` of an `Option`, which an object
may leave out, or a value by `#[serde(default)]`. -/
inductive Absent (α : Type) where
  | error
  | leftOut (value : α)
  | default (value : α)

/-- A reader of fields. -/
abbrev Reader := StateT Fields (Except JsonError)

/-- The fields of a value. -/
def fields : Json → Except JsonError Fields
  | obj entries => .ok (.map entries)
  | arr items => .ok (.seq items)
  | _ => .error .invalidType

/-- Read one field. -/
def field (name : String) (absent : Absent α) (decode : Decoder α) : Reader α
  | .map entries =>
      match entries.filter fun entry => entry.1 = name with
      | [] =>
          match absent with
          | .error => .error (.missingField name)
          | .leftOut a | .default a => .ok (a, .map entries)
      | [entry] => (decode entry.2).map fun a => (a, .map entries)
      | _ => .error (.duplicateField name)
  | .seq [] =>
      match absent with
      | .default a => .ok (a, .seq [])
      | _ => .error .invalidLength
  | .seq (v :: rest) => (decode v).map fun a => (a, .seq rest)

/-- Read a structure; an array may have no items after its fields. -/
def struct (reader : Reader α) : Decoder α := fun v => do
  let (a, rest) ← reader (← v.fields)
  match rest with
  | .seq (_ :: _) => .error .invalidLength
  | _ => .ok a

/-! ## Fields of an object -/

variable {name : String} {absent : Absent α} {decode : Decoder α} {entries : List (String × Json)}
  {v : Json} {a : α}

/-- The object has one entry of a name. -/
abbrev Once (entries : List (String × Json)) (name : String) (v : Json) : Prop :=
  (entries.filter fun entry => entry.1 = name) = [(name, v)]

/-- Read a field that is there once, and go on. -/
theorem field_bind {next : α → Reader β} (hentry : Once entries name v) (hdecode : decode v = .ok a) :
    (field name absent decode >>= next) (.map entries) = next a (.map entries) := by
  have hfield : field name absent decode (.map entries) = .ok (a, .map entries) := by
    unfold field
    simp only [hentry, hdecode]
    rfl
  show (field name absent decode (.map entries) >>= _) = _
  rw [hfield]
  rfl

/-- Reading the fields of an object leaves the object as it is. -/
theorem struct_obj {reader : Reader α} (h : reader (.map entries) = .ok (a, .map entries)) :
    struct reader (obj entries) = .ok a := by
  show (reader (.map entries) >>= _) = _
  rw [h]
  rfl

/-- The object has one entry of a name, or none where a condition holds. -/
def OnceUnless (entries : List (String × Json)) (name : String) (v : Json) (condition : Prop) :
    Prop :=
  Once entries name v ∨ (entries.filter fun entry => entry.1 = name) = [] ∧ condition

/-- Read a field that is there or left out for what stands for it, and go on. -/
theorem optional_bind {next : α → Reader β} {d : α}
    (hentry : OnceUnless entries name v (a = d)) (hdecode : decode v = .ok a)
    (habsent : absent = .leftOut d ∨ absent = .default d) :
    (field name absent decode >>= next) (.map entries) = next a (.map entries) := by
  obtain hthere | ⟨hnone, rfl⟩ := hentry
  · exact field_bind hthere hdecode
  · show (field name absent decode (.map entries) >>= _) = _
    unfold field
    simp only [hnone]
    obtain rfl | rfl := habsent <;> rfl

/-! ## Values without shadowed entries -/

/-- Keep the last entry of each name, as the map of a `Value` does. -/
def lastEntries : List (String × Json) → List (String × Json)
  | [] => []
  | entry :: rest =>
      if rest.any fun later => later.1 = entry.1 then lastEntries rest
      else entry :: lastEntries rest

mutual

/-- The `Value` of a text. -/
def value : Json → Json
  | arr items => arr (valueItems items)
  | obj entries => obj (lastEntries (valueEntries entries))
  | v => v

/-- The values of the items of an array. -/
def valueItems : List Json → List Json
  | [] => []
  | v :: rest => value v :: valueItems rest

/-- The values of the entries of an object. -/
def valueEntries : List (String × Json) → List (String × Json)
  | [] => []
  | (name, v) :: rest => (name, value v) :: valueEntries rest

end

/-- `value[name]` on a `Value`: `Null` where there is no such entry. -/
def index (name : String) : Json → Json
  | obj entries => ((entries.find? fun entry => entry.1 = name).map Prod.snd).getD null
  | _ => null

/-- `as_array`. -/
def asArray : Json → Option (List Json)
  | arr items => some items
  | _ => none

end Json

end Rust
