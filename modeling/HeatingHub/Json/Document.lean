import HeatingHub.Json.Value

/-!
# Documents

A document is a JSON text as far as it can be read. A decoder meets its parts in the order in which
they stand, so a part of the wrong shape counts before a place further on where the text breaks
off; that is why a broken text is still a document. A value held in memory is a document too: its
members stand in ascending order of their keys, each key once.
-/

namespace HeatingHub.Json

/-- How the items of an array or the members of an object end. -/
inductive Ending where
  /-- The part is closed. -/
  | closed
  /-- The part is closed, and its size was known before its first member. -/
  | sized
  /-- What should stand between two items, or between a key and its value, is missing. -/
  | cut
  /-- No key can be read where one or the end should follow. -/
  | keyless
deriving DecidableEq

/-- Nothing is missing. -/
def Ending.isClosed : Ending → Bool
  | .closed | .sized => true
  | .cut | .keyless => false

/-- A text read part by part. -/
inductive Document where
  | null
  | bool (b : Bool)
  /-- A number; none if it is beyond the doubles. -/
  | number (n : Option Number)
  /-- A text; none if its escapes do not make up characters. -/
  | text (s : Option String)
  /-- The items of an array; a broken item is the last. -/
  | array (items : List Document) (ending : Ending)
  | object (members : List (Option String × Document)) (ending : Ending)
  /-- No value can be read. -/
  | broken

namespace Document

mutual

/-- The text of the document is well formed, whatever its numbers and texts stand for. -/
def sound : Document → Bool
  | .null | .bool _ | .number _ | .text _ => true
  | .array items ending => ending.isClosed && soundItems items
  | .object members ending => ending.isClosed && soundMembers members
  | .broken => false

def soundItems : List Document → Bool
  | [] => true
  | d :: rest => d.sound && soundItems rest

def soundMembers : List (Option String × Document) → Bool
  | [] => true
  | (_, d) :: rest => d.sound && soundMembers rest

end

/-! ## Documents and values -/

/-- Puts a member among others in ascending order of keys, in place of one with the same key. -/
def insertMember {α : Type} (key : String) (x : α) : List (String × α) → List (String × α)
  | [] => [(key, x)]
  | (k, y) :: rest =>
    if key < k then (key, x) :: (k, y) :: rest
    else if key = k then (key, x) :: rest
    else (k, y) :: insertMember key x rest

def sortMembers {α : Type} (members : List (String × α)) : List (String × α) :=
  members.foldl (fun sorted m => insertMember m.1 m.2 sorted) []

mutual

/-- The value as a document. -/
def ofValue : Value → Document
  | .null => .null
  | .bool b => .bool b
  | .number n => .number (some n)
  | .text s => .text (some s)
  | .array items => .array (ofValues items) .sized
  | .object members =>
    .object ((sortMembers (ofMembers members)).map fun m => (some m.1, m.2)) .sized

def ofValues : List Value → List Document
  | [] => []
  | v :: rest => ofValue v :: ofValues rest

def ofMembers : List (String × Value) → List (String × Document)
  | [] => []
  | (k, v) :: rest => (k, ofValue v) :: ofMembers rest

end

mutual

/-- The value that a document stands for, if all of it can be read. -/
def value? : Document → Option Value
  | .null => some .null
  | .bool b => some (.bool b)
  | .number n => n.map .number
  | .text s => s.map .text
  | .array items ending => if ending.isClosed then (values? items).map .array else none
  | .object members ending => if ending.isClosed then (members? members).map .object else none
  | .broken => none

def values? : List Document → Option (List Value)
  | [] => some []
  | d :: rest => do
    let v ← value? d
    let vs ← values? rest
    return v :: vs

def members? : List (Option String × Document) → Option (List (String × Value))
  | [] => some []
  | (k, d) :: rest => do
    let k ← k
    let v ← value? d
    let vs ← members? rest
    return (k, v) :: vs

end

end Document

end HeatingHub.Json
