import HeatingHub.Number.Text

/-!
# JSON values

Numbers are kept as integers where the text has neither point nor exponent and the integer fits 64
bits, and as doubles otherwise. The members of an object have an order, which is that of writing.
-/

namespace HeatingHub.Json

inductive Number where
  | int (n : Int)
  | real (x : Float)
deriving DecidableEq

inductive Value where
  | null
  | bool (b : Bool)
  | number (n : Number)
  | text (s : String)
  | array (items : List Value)
  | object (members : List (String × Value))

namespace Value

/-- A double as a value; JSON has no number for those that are not finite. -/
def ofFloat (x : Float) : Value := if x.isFinite then .number (.real x) else .null

def ofNat (n : Nat) : Value := .number (.int n)

/-- The value of a member; of several with one key the last. -/
def member? (key : String) : Value → Option Value
  | .object members => (members.reverse.find? (·.1 == key)).map (·.2)
  | _ => none

end Value

/-! ## Writing -/

def Number.text : Number → String
  | .int n => String.ofList (HeatingHub.Number.integer n)
  | .real x => HeatingHub.Number.literal x

/-- Four hexadecimal digits. -/
def hex4 (n : Nat) : List Char :=
  let ds := Nat.toDigits 16 n
  List.replicate (4 - ds.length) '0' ++ ds

/-- A character of a text between quotes. -/
def escapeChar : Char → List Char
  | '"' => ['\\', '"']
  | '\\' => ['\\', '\\']
  | '\n' => ['\\', 'n']
  | '\r' => ['\\', 'r']
  | '\t' => ['\\', 't']
  | '\x08' => ['\\', 'b']
  | '\x0c' => ['\\', 'f']
  | c => if c.toNat < 32 then '\\' :: 'u' :: hex4 c.toNat else [c]

def quote (s : String) : String :=
  String.ofList ('"' :: s.toList.flatMap escapeChar ++ ['"'])

mutual

/-- The value without blanks between its parts. -/
def Value.render : Value → String
  | .null => "null"
  | .bool b => if b then "true" else "false"
  | .number n => n.text
  | .text s => quote s
  | .array items => "[" ++ renderItems items ++ "]"
  | .object members => "\x7b" ++ renderMembers members ++ "\x7d"

def renderItems : List Value → String
  | [] => ""
  | [v] => v.render
  | v :: rest => v.render ++ "," ++ renderItems rest

def renderMembers : List (String × Value) → String
  | [] => ""
  | [(k, v)] => quote k ++ ":" ++ v.render
  | (k, v) :: rest => quote k ++ ":" ++ v.render ++ "," ++ renderMembers rest

end

end HeatingHub.Json
