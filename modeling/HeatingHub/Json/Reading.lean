import HeatingHub.Json.Document
import HeatingHub.Number.Numeral
import HeatingHub.Number.Power

/-!
# Reading JSON text

`Document.read` reads the first value of a text. What follows it is not looked at.
-/

namespace HeatingHub.Json

open HeatingHub.Number (takeDigits pushDigit twoTo)

/-! ## Blanks and words -/

def isSpace (c : Char) : Bool := c == ' ' || c == '\n' || c == '\t' || c == '\r'

def skipSpace (s : List Char) : List Char := s.dropWhile isSpace

/-- Takes a given word from the head of a text. -/
def takeWord? : List Char → List Char → Option (List Char)
  | [], s => some s
  | _ :: _, [] => none
  | c :: word, d :: s => if c = d then takeWord? word s else none

/-! ## Numbers

The digits of a number are collected while they fit 64 bits; the digits after those only move the
point. The double is the collected number scaled by powers of ten. -/

/-- The first natural beyond 64 bits. -/
def wordLimit : Nat := twoTo 64

/-- Appends digits while the number stays below the limit. The second number counts those that
were left over. -/
def collect (n : Nat) : List Char → Nat × Nat
  | [] => (n, 0)
  | c :: s => if pushDigit n c < wordLimit then collect (pushDigit n c) s else (n, s.length + 1)

/-- A number as it stands in a text. -/
structure Numeral where
  negative : Bool
  whole : List Char
  fraction : Option (List Char)
  exponent : Option (Bool × List Char)

/-- The sign and the digits behind `e`. -/
def readExponent? : List Char → Option (Option (Bool × List Char) × List Char)
  | [] => some (none, [])
  | c :: s =>
    if c = 'e' ∨ c = 'E' then
      let (negative, s) := match s with
        | '-' :: s => (true, s)
        | '+' :: s => (false, s)
        | s => (false, s)
      let (ds, rest) := takeDigits s
      if ds.isEmpty then none else some (some (negative, ds), rest)
    else some (none, c :: s)

def readFraction? : List Char → Option (Option (List Char) × List Char)
  | '.' :: s =>
    let (ds, rest) := takeDigits s
    if ds.isEmpty then none else some (some ds, rest)
  | s => some (none, s)

/-- The digits before the point; no zero may stand before another digit. -/
def readWhole? (s : List Char) : Option (List Char × List Char) :=
  match takeDigits s with
  | ([], _) => none
  | ('0' :: _ :: _, _) => none
  | (ds, rest) => some (ds, rest)

def Numeral.read? (s : List Char) : Option (Numeral × List Char) := do
  let (negative, s) := match s with
    | '-' :: s => (true, s)
    | s => (false, s)
  let (whole, s) ← readWhole? s
  let (fraction, s) ← readFraction? s
  let (exponent, s) ← readExponent? s
  return (⟨negative, whole, fraction, exponent⟩, s)

/-- Powers of ten that are doubles. -/
def power (n : Nat) : Float := Float.ofScientific 1 false n

/-- Divides by powers of ten, at most 308 at a time. -/
def scaleDown (x : Float) (n : Nat) : Float :=
  if _ : n ≤ 308 then x / power n
  else if x == 0 then x
  else scaleDown (x / power 308) (n - 308)
termination_by n

/-- The double `n * 10 ^ e`, none if it is beyond the doubles. -/
def scaled? (n : Nat) (e : Int) : Option Float :=
  let x := Float.ofNat n
  if e < 0 then some (scaleDown x e.natAbs)
  else if e ≤ 308 then (some (x * power e.natAbs)).filter Float.isFinite
  else if n = 0 then some 0
  else none

/-- The exponent as written, zero if there is none. -/
def Numeral.shift (m : Numeral) : Int :=
  match m.exponent with
  | none => 0
  | some (negative, ds) =>
    let n := HeatingHub.Number.valueOf ds
    if negative then -(n : Int) else n

/-- The digits of the number as one natural, and the power of ten they count. -/
def Numeral.parts (m : Numeral) : Nat × Int :=
  match collect 0 m.whole with
  | (n, left + 1) =>
    match collect n (m.fraction.getD []) with
    | (k, rest) =>
      let used := (m.fraction.getD []).length - rest
      (k, (left + 1 : Nat) - (used : Nat) + m.shift)
  | (n, 0) =>
    match collect n (m.fraction.getD []) with
    | (k, rest) => (k, m.shift - ((m.fraction.getD []).length - rest : Nat))

/-- The number is an integer of 64 bits. A negative zero is not. -/
def Numeral.integer? (m : Numeral) : Option Int :=
  let n := HeatingHub.Number.valueOf m.whole
  if m.fraction.isSome ∨ m.exponent.isSome then none
  else if m.negative then
    if 0 < n ∧ n ≤ twoTo 63 then some (-(n : Int)) else none
  else if n < wordLimit then some n
  else none

def Numeral.real? (m : Numeral) : Option Float :=
  let (n, e) := m.parts
  (scaled? n e).map fun x => if m.negative then -x else x

def Numeral.number? (m : Numeral) : Option Number :=
  match m.integer? with
  | some n => some (.int n)
  | none => m.real?.map .real

/-! ## Texts -/

/-- A piece of a text: a character, or half a code point given by an escape. -/
inductive Piece where
  | char (c : Char)
  | unit (n : Nat)

def hexDigit? (c : Char) : Option Nat :=
  if c.isDigit then some (c.toNat - '0'.toNat)
  else if 'a' ≤ c ∧ c ≤ 'f' then some (c.toNat - 'a'.toNat + 10)
  else if 'A' ≤ c ∧ c ≤ 'F' then some (c.toNat - 'A'.toNat + 10)
  else none

def unit? (a b c d : Char) : Option Nat := do
  let a ← hexDigit? a
  let b ← hexDigit? b
  let c ← hexDigit? c
  let d ← hexDigit? d
  return 4096 * a + 256 * b + 16 * c + d

/-- The character behind a backslash, unless it begins a code. -/
def escaped? : Char → Option Char
  | '"' => some '"'
  | '\\' => some '\\'
  | '/' => some '/'
  | 'b' => some '\x08'
  | 'f' => some '\x0c'
  | 'n' => some '\n'
  | 'r' => some '\r'
  | 't' => some '\t'
  | _ => none

/-- Reads a text up to its closing quote. -/
def readPieces? : List Char → Option (List Piece × List Char)
  | [] => none
  | '"' :: s => some ([], s)
  | '\\' :: 'u' :: a :: b :: c :: d :: s => do
    let n ← unit? a b c d
    let (ps, rest) ← readPieces? s
    return (.unit n :: ps, rest)
  | '\\' :: e :: s => do
    let c ← escaped? e
    let (ps, rest) ← readPieces? s
    return (.char c :: ps, rest)
  | c :: s =>
    if c.toNat < 32 then none
    else (readPieces? s).map fun (ps, rest) => (.char c :: ps, rest)

def isHighHalf (n : Nat) : Bool := decide (0xD800 ≤ n) && decide (n < 0xDC00)

def isLowHalf (n : Nat) : Bool := decide (0xDC00 ≤ n) && decide (n < 0xE000)

/-- Puts halves of code points together; each must have its other half beside it. -/
def join? : List Piece → Option (List Char)
  | [] => some []
  | .char c :: ps => (join? ps).map (c :: ·)
  | .unit n :: .unit m :: ps =>
    if isHighHalf n then
      if isLowHalf m then
        (join? ps).map (Char.ofNat (0x10000 + 1024 * (n - 0xD800) + (m - 0xDC00)) :: ·)
      else none
    else if isLowHalf n then none
    else (join? (.unit m :: ps)).map (Char.ofNat n :: ·)
  | .unit n :: ps =>
    if isHighHalf n || isLowHalf n then none else (join? ps).map (Char.ofNat n :: ·)

/-- Reads a text whose opening quote was taken. -/
def readText? (s : List Char) : Option (Option String × List Char) :=
  (readPieces? s).map fun (ps, rest) => ((join? ps).map String.ofList, rest)

/-! ## Values

Each reader returns what it read, and the rest of the text unless it ended in a broken part. The
first argument bounds the number of parts still to be read. -/

namespace Document

mutual

def readValue : Nat → List Char → Document × Option (List Char)
  | 0, _ => (.broken, none)
  | fuel + 1, s =>
    match skipSpace s with
    | '[' :: s =>
      match readItems fuel true s with
      | (items, ending, rest) => (.array items ending, rest)
    | '\x7b' :: s =>
      match readMembers fuel true s with
      | (members, ending, rest) => (.object members ending, rest)
    | '"' :: s =>
      match readText? s with
      | some (t, rest) => (.text t, some rest)
      | none => (.broken, none)
    | s =>
      match takeWord? ['n', 'u', 'l', 'l'] s, takeWord? ['t', 'r', 'u', 'e'] s,
          takeWord? ['f', 'a', 'l', 's', 'e'] s, Numeral.read? s with
      | some rest, _, _, _ => (.null, some rest)
      | none, some rest, _, _ => (.bool true, some rest)
      | none, none, some rest, _ => (.bool false, some rest)
      | none, none, none, some (m, rest) => (.number m.number?, some rest)
      | none, none, none, none => (.broken, none)

/-- The items up to the closing bracket; behind the first of them each needs a comma. A comma
before the bracket or before the end of the text announces an item that does not come. -/
def readItems : Nat → Bool → List Char → List Document × Ending × Option (List Char)
  | 0, _, _ => ([], .cut, none)
  | fuel + 1, first, s =>
    match skipSpace s with
    | [] => ([], .cut, none)
    | ']' :: rest => ([], .closed, some rest)
    | ',' :: s =>
      if first then ([.broken], .cut, none)
      else match skipSpace s with
        | [] | ']' :: _ => ([], .cut, none)
        | s => readItem fuel s
    | s => if first then readItem fuel s else ([], .cut, none)

def readItem : Nat → List Char → List Document × Ending × Option (List Char)
  | 0, _ => ([.broken], .cut, none)
  | fuel + 1, s =>
    match readValue fuel s with
    | (d, none) => ([d], .cut, none)
    | (d, some rest) =>
      match readItems fuel false rest with
      | (items, ending, rest) => (d :: items, ending, rest)

/-- The members up to the closing brace; behind the first of them each needs a comma. -/
def readMembers : Nat → Bool → List Char →
    List (Option String × Document) × Ending × Option (List Char)
  | 0, _, _ => ([], .keyless, none)
  | fuel + 1, first, s =>
    match skipSpace s with
    | '\x7d' :: rest => ([], .closed, some rest)
    | ',' :: s => if first then ([], .keyless, none) else readMember fuel s
    | s => if first then readMember fuel s else ([], .keyless, none)

def readMember : Nat → List Char →
    List (Option String × Document) × Ending × Option (List Char)
  | 0, _ => ([], .keyless, none)
  | fuel + 1, s =>
    match skipSpace s with
    | '"' :: s =>
      match readText? s with
      | none => ([], .keyless, none)
      | some (key, s) =>
        match skipSpace s with
        | ':' :: s =>
          match readValue fuel s with
          | (d, none) => ([(key, d)], .cut, none)
          | (d, some rest) =>
            match readMembers fuel false rest with
            | (members, ending, rest) => ((key, d) :: members, ending, rest)
        | _ => ([], if key.isSome then .cut else .keyless, none)
    | _ => ([], .keyless, none)

end

/-- Reads the first value of a text. Four parts are begun for each character at most. -/
def read (s : String) : Document := (readValue (4 * s.length + 4) s.toList).1

end Document

end HeatingHub.Json
