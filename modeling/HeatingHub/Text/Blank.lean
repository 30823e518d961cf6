import HeatingHub.Text.CharClass

/-!
# Blanks

The characters with the property White_Space, and the removal of blanks around a text.
-/

namespace HeatingHub.Text

/-- White space: 25 characters. -/
def blanks : CharClass where
  ranges :=
    [(0x9, 0xD), (0x20, 0x20), (0x85, 0x85), (0xA0, 0xA0), (0x1680, 0x1680), (0x2000, 0x200A),
    (0x2028, 0x2029), (0x202F, 0x202F), (0x205F, 0x205F), (0x3000, 0x3000)]

def isBlank (c : Char) : Bool := blanks.contains c

example : isBlank '\u00a0' = true ∧ isBlank '\u200b' = false := by decide +kernel

/-! ## Trimming -/

def trimStart (s : List Char) : List Char := s.dropWhile isBlank

def trimEnd (s : List Char) : List Char := (s.reverse.dropWhile isBlank).reverse

/-- Removes the blanks at both ends. -/
def trim (s : List Char) : List Char := trimEnd (trimStart s)

theorem trimStart_cons_of_not_blank {c : Char} {s : List Char} (h : isBlank c = false) :
    trimStart (c :: s) = c :: s := by
  simp [trimStart, h]

/-- `trim` on strings. -/
def trimmed (s : String) : String := String.ofList (trim s.toList)

end HeatingHub.Text
