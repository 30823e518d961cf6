/-!
# Numerals

Decimal numerals of natural numbers: their digits, and how digits are read back.
-/

namespace HeatingHub.Number

/-- The decimal digits of `n`, most significant first. -/
def digits (n : Nat) : List Char := Nat.toDigits 10 n

/-- The digits of `n`, filled up with zeros to at least `width` places. -/
def padded (width n : Nat) : List Char :=
  List.replicate (width - (digits n).length) '0' ++ digits n

/-- Appends a digit to a number. -/
def pushDigit (n : Nat) (c : Char) : Nat := 10 * n + (c.toNat - '0'.toNat)

/-- The number that a list of digits denotes. -/
def valueOf (s : List Char) : Nat := s.foldl pushDigit 0

/-- The digits at the head of a text, and what follows them. -/
def takeDigits (s : List Char) : List Char × List Char :=
  (s.takeWhile Char.isDigit, s.dropWhile Char.isDigit)

/-- Reads a text of digits, at least one. -/
def natural? (s : List Char) : Option Nat :=
  if !s.isEmpty && s.all Char.isDigit then some (valueOf s) else none

/-- Reads a number below `limit`: digits with an optional `+` before them. -/
def unsigned? (limit : Nat) (s : List Char) : Option Nat :=
  let body := match s with
    | '+' :: r => r
    | r => r
  (natural? body).filter (· < limit)

example : unsigned? 100 ['+', '0', '7'] = some 7 ∧ unsigned? 100 ['1', '0', '0'] = none ∧
    unsigned? 100 ['+'] = none := by decide

end HeatingHub.Number
