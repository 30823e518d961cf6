/-!
# Text as a terminal shows it

A terminal acts on some characters instead of showing them: on control characters, and on commands,
which begin with an escape character. `visible` keeps of a text what is shown, with the controls
that only move on in it (tab, line feed, form feed, carriage return).

A command names a function with its last character; in front of it stand parameters and marks. A
device command and its like go on with data up to a string terminator, and a title up to that or a
bell.
-/

namespace HeatingHub.Text

/-- The code point of a character lies between two others. -/
def within (low high : Nat) (c : Char) : Bool := low ≤ c.toNat && c.toNat ≤ high

/-- Controls that move on in the text. -/
def isMove (c : Char) : Bool := c == '\t' || c == '\n' || c == '\x0c' || c == '\r'

def isControl (c : Char) : Bool := c.toNat < 0x20 || c == '\x7f'

def isVisible (c : Char) : Bool := !isControl c || isMove c

/-- One of the bytes behind the first in the encoding of the character is the byte that
terminates a string, which differs from other such bytes in its low six bits. -/
def hasTerminator (c : Char) : Bool :=
  let n := c.toNat
  0x80 ≤ n && (n % 64 == 0x1C || (0x800 ≤ n && n / 64 % 64 == 0x1C) ||
    (0x10000 ≤ n && n / 4096 % 64 == 0x1C))

/-- What a character belongs to. -/
inductive Phase where
  | text
  /-- What follows an escape character. -/
  | escape
  /-- An escape command with a mark; its last character is missing. -/
  | marked
  /-- A control command, up to its last character. -/
  | control
  /-- The beginning of a device command. -/
  | device
  | deviceParameter
  | deviceMark
  /-- The data of a device command, or of another command that goes on to a string terminator. -/
  | data
  | title
deriving DecidableEq

namespace Phase

/-- The phase behind an escape character and the one given. -/
def afterEscape (c : Char) : Phase :=
  if within 0x20 0x2F c then .marked
  else if c = 'P' then .device
  else if c = '[' then .control
  else if c = ']' then .title
  else if c = 'X' ∨ c = '^' ∨ c = '_' then .data
  else if within 0x30 0x7E c then .text
  else .escape

/-- The phase behind a character. An escape character begins a new command in every phase; cancel
and substitute end what is going on. -/
def next (p : Phase) (c : Char) : Phase :=
  if c = '\x1b' then .escape
  else if c = '\x18' ∨ c = '\x1a' then .text
  else match p with
    | text => .text
    | escape => afterEscape c
    | marked => if within 0x30 0x7E c then .text else .marked
    | control => if within 0x40 0x7E c then .text else .control
    | device =>
      if within 0x20 0x2F c then .deviceMark
      else if within 0x30 0x3F c then .deviceParameter
      else if within 0x40 0x7E c then .data
      else .device
    | deviceParameter =>
      if within 0x20 0x2F c then .deviceMark
      else if within 0x3C 0x7E c then .data
      else .deviceParameter
    | deviceMark => if within 0x30 0x7E c then .data else .deviceMark
    | data => if hasTerminator c then .text else .data
    | title => if c = '\x07' then .text else .title

/-- A character is shown in the phase. In a command only those are that move on in the text, and
nothing is shown of data. -/
def shows : Phase → Char → Bool
  | text, c => isVisible c
  | escape, c | marked, c | control, c => isMove c
  | device, _ | deviceParameter, _ | deviceMark, _ | data, _ | title, _ => false

end Phase

/-- What is shown of a text that begins in a phase. A command in which a character was shown is
interrupted: what follows is shown too, and the next character that is not takes the command up
again, unless one beyond ASCII came before it. -/
def visibleFrom (p : Phase) (interrupted : Bool) : List Char → List Char
  | [] => []
  | c :: s =>
    if interrupted && isVisible c then
      c :: visibleFrom (if c.toNat < 0x80 then p else .text) true s
    else if p.shows c then c :: visibleFrom (p.next c) true s
    else visibleFrom (p.next c) false s

/-- What a terminal shows of a text. -/
def visible (s : String) : String := String.ofList (visibleFrom .text false s.toList)

example : visible "a\x1b[31mb\x1b]0;t\x07c\x7f\n" = "abc\n" := by decide +kernel

end HeatingHub.Text
