/-!
# Paths

A path leads from a document to one of its parts. A decoder that fails names the part at fault; who
asked for the document is told besides in words what is wrong with it.
-/

namespace HeatingHub.Json

inductive Segment where
  | key (name : String)
  | index (n : Nat)
  /-- The place where a key should stand. -/
  | unknown
deriving DecidableEq

abbrev Path := List Segment

def Segment.text : Segment → String
  | .key name => name
  | .index n => s!"[{n}]"
  | .unknown => "?"

/-- The segments behind the first one; keys have a dot before them. -/
def Path.tailText : Path → String
  | [] => ""
  | .index n :: rest => (Segment.index n).text ++ Path.tailText rest
  | s :: rest => "." ++ s.text ++ Path.tailText rest

/-- The path as messages show it, `.` for the document itself. -/
def Path.text : Path → String
  | [] => "."
  | s :: rest => s.text ++ Path.tailText rest

example : Path.text [.key "zones", .index 0, .key "heating"] = "zones[0].heating" := by
  decide +kernel

/-- What decoding stops at: the part at fault, and what is said about it. -/
structure Misfit where
  path : Path
  complaint : String
deriving DecidableEq

/-- The part at fault as messages show it. -/
def Misfit.text (m : Misfit) : String := m.path.text

end HeatingHub.Json
