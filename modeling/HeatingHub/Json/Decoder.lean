import HeatingHub.Json.Document
import HeatingHub.Json.Path

/-!
# Decoders

A decoder turns a document into a value of some type, or names the part of the document that does
not fit. Parts are looked at in the order in which they stand, and the first one at fault counts.
-/

namespace HeatingHub.Json

abbrev Decoder (α : Type) := Document → Except Path α

/-- The part at fault lies inside the part named. -/
def inside {α : Type} (s : Segment) : Except Path α → Except Path α
  | .ok x => .ok x
  | .error path => .error (s :: path)

namespace Decoder

/-! ## Single values -/

def text : Decoder String
  | .text (some s) => .ok s
  | _ => .error []

def bool : Decoder Bool
  | .bool b => .ok b
  | _ => .error []

/-- A double; integers are taken for doubles. -/
def real : Decoder Float
  | .number (some (.real x)) => .ok x
  | .number (some (.int n)) => .ok (Float.ofInt n)
  | _ => .error []

/-- An integer between two bounds. -/
def integer (low high : Int) : Decoder Int
  | .number (some (.int n)) => if low ≤ n ∧ n ≤ high then .ok n else .error []
  | _ => .error []

/-- A natural number of 32 bits. -/
def word : Decoder Nat := fun d => (integer 0 4294967295 d).map Int.toNat

/-- A signed integer of 64 bits. -/
def long : Decoder Int := integer (-9223372036854775808) 9223372036854775807

/-- A text that `read?` accepts. -/
def parsed {α : Type} (read? : String → Option α) : Decoder α := fun d =>
  match text d with
  | .ok s => match read? s with
    | some x => .ok x
    | none => .error []
  | .error path => .error path

/-- `null` is none. -/
def option {α : Type} (decode : Decoder α) : Decoder (Option α)
  | .null => .ok none
  | d => (decode d).map some

/-! ## Arrays -/

/-- Arrays and objects are read as far as their ending allows. A key that cannot be read is a part
of unknown name; anything else that is missing is a fault of the array or object. -/
def finish : Ending → Except Path Unit
  | .closed | .sized => .ok ()
  | .cut => .error []
  | .keyless => .error [.unknown]

def items {α : Type} (decode : Decoder α) (ending : Ending) (i : Nat) :
    List Document → Except Path (List α)
  | [] => (finish ending).map fun _ => []
  | d :: rest =>
    match inside (.index i) (decode d) with
    | .ok x => (items decode ending (i + 1) rest).map (x :: ·)
    | .error path => .error path

def list {α : Type} (decode : Decoder α) : Decoder (List α)
  | .array ds ending => items decode ending 0 ds
  | _ => .error []

/-! ## Objects with any keys -/

def entries {α : Type} (decode : Decoder α) (ending : Ending) :
    List (Option String × Document) → Except Path (List (String × α))
  | [] => (finish ending).map fun _ => []
  | (none, _) :: _ => .error [.unknown]
  | (some k, d) :: rest =>
    match inside (.key k) (decode d) with
    | .ok x => (entries decode ending rest).map ((k, x) :: ·)
    | .error path => .error path

/-- The members of an object in order; a key may occur more than once. -/
def dictionary {α : Type} (decode : Decoder α) : Decoder (List (String × α))
  | .object members ending => entries decode ending members
  | _ => .error []

/-! ## Names -/

/-- The payload of a name given as the key of an object is `null`. -/
def named {α : Type} (name : String) (x : α) : Document → Except Path α
  | .null => .ok x
  | _ => .error [.key name]

/-- One of a set of names, given as a text, or as the only key of an object that holds `null`. -/
def name {α : Type} (find? : String → Option α) : Decoder α
  | .text (some s) =>
    match find? s with
    | some x => .ok x
    | none => .error []
  | .object members ending =>
    match members, ending with
    | _ :: _ :: _, .sized => .error []
    | (some k, d) :: rest, _ =>
      match find? k with
      | none => .error []
      | some x =>
        match named k x d with
        | .error path => .error path
        | .ok x =>
          if rest.isEmpty && ending.isClosed then .ok x else .error []
    | _, _ => .error []
  | _ => .error []

end Decoder

end HeatingHub.Json
