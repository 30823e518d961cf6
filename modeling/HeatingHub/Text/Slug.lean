import HeatingHub.Text.Alphanumeric
import HeatingHub.Text.LowerCase

/-!
# Slugs

The slug of a name holds its letters and numbers in lower case, and one `_` for each run of other
characters between two of them. Entity ids are made of slugs.
-/

namespace HeatingHub.Text

/-- Copies letters and numbers in one pass. `started` says that one was copied before, `gap` that
other characters came since, for which a separator is owed before the next one copied. -/
def squeeze (started gap : Bool) : List Char → List Char
  | [] => []
  | c :: s =>
    if isAlphanumeric c then
      if started && gap then '_' :: c :: squeeze true false s else c :: squeeze true false s
    else squeeze started true s

theorem squeeze_cons_of_other {c : Char} (h : isAlphanumeric c = false) (started gap : Bool)
    (s : List Char) : squeeze started gap (c :: s) = squeeze started true s := by
  simp [squeeze, h]

theorem squeeze_cons_of_alphanumeric {c : Char} (h : isAlphanumeric c = true) (started gap : Bool)
    (s : List Char) :
    squeeze started gap (c :: s) =
      (if started && gap then ['_'] else []) ++ c :: squeeze true false s := by
  by_cases hg : (started && gap) = true <;> simp [squeeze, h, hg]

/-- The slug of a name. -/
def slug (s : String) : String :=
  String.ofList (squeeze false false (lowerCaseAll s.toList))

example : slug "  Living -- Room  " = "living_room" := by decide +kernel

end HeatingHub.Text
