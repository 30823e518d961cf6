/-!
# Lines

A line ends at a line feed, and a carriage return right before it belongs to the end. What follows
the last line feed is a line of its own unless it is empty.
-/

namespace HeatingHub.Text

/-- Removes one carriage return from the head of a reversed line. -/
def dropReturn : List Char → List Char
  | '\r' :: s => s
  | s => s

/-- Splits what is left of a text whose current line has begun with `line`, in reverse. -/
def linesFrom (line : List Char) : List Char → List (List Char)
  | [] => if line.isEmpty then [] else [line.reverse]
  | c :: s =>
    if c = '\n' then (dropReturn line).reverse :: linesFrom [] s else linesFrom (c :: line) s

def lines (s : List Char) : List (List Char) := linesFrom [] s

example : lines ['a', '\r', '\n', '\n', 'b', '\r'] = [['a'], [], ['b', '\r']] := by decide

end HeatingHub.Text
