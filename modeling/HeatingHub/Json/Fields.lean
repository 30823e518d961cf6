import HeatingHub.Json.Decoder

/-!
# Records

A record is given as an object with a member for each of its fields, or as an array with its fields
in order. `Fields α` says which fields a record has and how `α` is made of them; it is built from
single fields with `<$>` and `<*>`.

A field that may be absent is `nullable`, which allows `null` too, or `defaulted`, which does not.
In an array only fields with a default may be left out, from the end.
-/

namespace HeatingHub.Json

/-- The fields of a record, and what was seen of them so far. -/
structure Fields (α : Type) where
  Seen : Type
  names : List String
  start : Seen
  /-- Takes the value of the field with the given name. -/
  visit : Seen → String → Document → Except Path Seen
  /-- The record, unless a field is missing. -/
  close : Seen → Option α
  /-- Takes the fields from the head of an array, the first at the given place. -/
  positional : Nat → List Document → Except Path (α × List Document)

namespace Fields

/-! ## Single fields -/

/-- A field; `absent` is its value when no member has its name, `short` when the array ends before
it. -/
def field {α : Type} (name : String) (decode : Decoder α) (absent short : Option α) : Fields α where
  Seen := Option α
  names := [name]
  start := none
  visit _ _ d := (decode d).map some
  close seen := seen.or absent
  positional
    | _, [] => match short with
      | some x => .ok (x, [])
      | none => .error []
    | i, d :: rest => (inside (.index i) (decode d)).map (·, rest)

def required {α : Type} (name : String) (decode : Decoder α) : Fields α :=
  field name decode none none

def nullable {α : Type} (name : String) (decode : Decoder α) : Fields (Option α) :=
  field name (Decoder.option decode) (some none) none

def defaulted {α : Type} (name : String) (decode : Decoder α) (x : α) : Fields α :=
  field name decode (some x) (some x)

/-! ## Several fields -/

def pure {α : Type} (x : α) : Fields α where
  Seen := Unit
  names := []
  start := ()
  visit _ _ _ := .ok ()
  close _ := some x
  positional _ ds := .ok (x, ds)

def map {α β : Type} (f : α → β) (a : Fields α) : Fields β where
  Seen := a.Seen
  names := a.names
  start := a.start
  visit := a.visit
  close seen := (a.close seen).map f
  positional i ds := (a.positional i ds).map fun (x, rest) => (f x, rest)

/-- The fields of `f` come first. -/
def seq {α β : Type} (f : Fields (α → β)) (a : Fields α) : Fields β where
  Seen := f.Seen × a.Seen
  names := f.names ++ a.names
  start := (f.start, a.start)
  visit seen k d :=
    if k ∈ f.names then (f.visit seen.1 k d).map (·, seen.2)
    else (a.visit seen.2 k d).map (seen.1, ·)
  close seen := do
    let g ← f.close seen.1
    let x ← a.close seen.2
    return g x
  positional i ds := do
    let (g, ds) ← f.positional i ds
    let (x, ds) ← a.positional (i + f.names.length) ds
    return (g x, ds)

instance : Applicative Fields where
  pure := pure
  map := map
  seq f a := seq f (a ())

/-! ## Decoding -/

/-- Takes the members of an object. A known key may occur once; a member with another key need only
be well formed. -/
def visitMembers {α : Type} (fields : Fields α) (ending : Ending) :
    List String → fields.Seen → List (Option String × Document) → Except Path fields.Seen
  | _, seen, [] => (Decoder.finish ending).map fun _ => seen
  | _, _, (none, _) :: _ => .error [.unknown]
  | taken, seen, (some k, d) :: rest =>
    if k ∈ fields.names then
      if k ∈ taken then .error []
      else match inside (.key k) (fields.visit seen k d) with
        | .ok seen => visitMembers fields ending (k :: taken) seen rest
        | .error path => .error path
    else if d.sound then visitMembers fields ending taken seen rest
    else .error [.key k]

/-- Decodes a record. -/
def decode {α : Type} (fields : Fields α) : Decoder α
  | .object members ending =>
    match fields.visitMembers ending [] fields.start members with
    | .error path => .error path
    | .ok seen => match fields.close seen with
      | some x => .ok x
      | none => .error []
  | .array ds ending =>
    match fields.positional 0 ds with
    | .error path => .error path
    | .ok (x, rest) => if rest.isEmpty && ending.isClosed then .ok x else .error []
  | _ => .error []

end Fields

end HeatingHub.Json
