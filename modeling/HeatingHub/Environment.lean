import HeatingHub.Text.Blank
import HeatingHub.Text.Lines

/-!
# Environment files

The environment gives values to names. An environment file has lines `NAME=value`, which set the
names that have no value yet. A value may stand in quotes; between double quotes a backslash takes
the character behind it out of its role, and stands for a line feed, carriage return or tab before
`n`, `r` or `t`.
-/

namespace HeatingHub

/-! ## Environments -/

/-- Names with their values, each name once, in the order in which they were set. -/
abbrev Environment := List (String × String)

namespace Environment

def get? (env : Environment) (name : String) : Option String :=
  (env.find? (·.1 == name)).map (·.2)

/-- A name or a value has a NUL character, which the system takes in neither. -/
def hasNul (env : Environment) : Bool :=
  env.any fun v => v.1.toList.contains '\x00' || v.2.toList.contains '\x00'

/-- Sets a name that has no value. -/
def setNew (env : Environment) (name value : String) : Environment :=
  if (env.get? name).isSome then env else env ++ [(name, value)]

end Environment

/-! ## Lines -/

namespace EnvFile

/-- What is wrong with a line. -/
inductive LineError where
  | noEquals
  | emptyName
  | blankInName (name : String)
  | afterQuote (quote : Char)
  | unterminated (quote : Char)
deriving DecidableEq

def LineError.message : LineError → String
  | noEquals => "missing '=' in assignment"
  | emptyName => "environment variable name cannot be empty"
  | blankInName name => "environment variable name contains whitespace: " ++ name
  | afterQuote quote => "unexpected characters after closing " ++ quote.toString ++ " quote"
  | unterminated quote => "unterminated " ++ quote.toString ++ "-quoted value"

/-- The character that a backslash makes of the one behind it. -/
def unescape : Char → Char
  | 'n' => '\n'
  | 'r' => '\r'
  | 't' => '\t'
  | c => c

/-- Behind a closing quote there may be blanks and a comment. -/
def closes (s : List Char) : Bool :=
  match Text.trim s with
  | [] => true
  | c :: _ => c == '#'

/-- Reads a value up to its closing quote. -/
def readQuoted (quote : Char) (escapes : Bool) : List Char → Except LineError (List Char)
  | [] => .error (.unterminated quote)
  | c :: s =>
    if escapes && c == '\\' then
      match s with
      | [] => .error (.unterminated quote)
      | d :: s => (readQuoted quote escapes s).map (unescape d :: ·)
    else if c = quote then
      if closes s then .ok [] else .error (.afterQuote quote)
    else (readQuoted quote escapes s).map (c :: ·)

/-- Reads a value, in quotes or up to a comment. -/
def readValue (s : List Char) : Except LineError (List Char) :=
  match Text.trim s with
  | '"' :: s => readQuoted '"' true s
  | '\'' :: s => readQuoted '\'' false s
  | s => .ok (Text.trimEnd (s.takeWhile (· != '#')))

/-- Takes the word `export` and the blanks behind it from the head of an assignment. -/
def dropExport : List Char → List Char
  | 'e' :: 'x' :: 'p' :: 'o' :: 'r' :: 't' :: ' ' :: s => Text.trimStart s
  | s => s

/-- Reads an assignment. -/
def readAssignment (s : List Char) : Except LineError (String × String) :=
  match s.span (· != '=') with
  | (_, []) => .error .noEquals
  | (name, _ :: value) =>
    let name := Text.trim name
    if name.isEmpty then .error .emptyName
    else if name.any Text.isBlank then .error (.blankInName (String.ofList name))
    else (readValue value).map fun v => (String.ofList name, String.ofList v)

/-- Reads a line; a blank line and a comment set nothing. -/
def readLine (line : List Char) : Except LineError (Option (String × String)) :=
  match Text.trim line with
  | [] => .ok none
  | '#' :: _ => .ok none
  | s => (readAssignment (dropExport s)).map some

/-! ## Files -/

/-- Why a file was not loaded, or not all of it. -/
inductive Error where
  /-- The system refused to read the file, and said why. -/
  | unreadable (path refusal : String)
  | line (path : String) (number : Nat) (error : LineError)
deriving DecidableEq

def Error.message : Error → String
  | unreadable path refusal => "failed to read " ++ path ++ ": " ++ refusal
  | line path number error => path ++ ":" ++ toString number ++ ": " ++ error.message

/-- Loads lines, the first of which has the given number, up to the first that is malformed. What
was set before it stays. -/
def loadLines (path : String) (number : Nat) (env : Environment) :
    List (List Char) → Except Error Unit × Environment
  | [] => (.ok (), env)
  | l :: rest =>
    match readLine l with
    | .ok none => loadLines path (number + 1) env rest
    | .ok (some (name, value)) => loadLines path (number + 1) (env.setNew name value) rest
    | .error e => (.error (.line path number e), env)

/-- What the system says of a file that is not there. -/
def noSuchFile : String := "No such file or directory (os error 2)"

/-- Loads a file, given its content if it can be read, and otherwise what the system says. -/
def load (path : String) (content : Option String) (env : Environment)
    (refusal : String := noSuchFile) : Except Error Unit × Environment :=
  match content with
  | none => (.error (.unreadable path refusal), env)
  | some s => loadLines path 1 env (Text.lines s.toList)

end EnvFile

end HeatingHub
