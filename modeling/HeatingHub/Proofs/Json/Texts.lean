import HeatingHub.Json.Reading

/-!
# Texts read back

A text between quotes is read as it was before its characters were escaped (`readText?_quote`).
-/

namespace HeatingHub.Json

/-- The piece that a character between quotes is read as. -/
def pieceOf (c : Char) : Piece :=
  if c.toNat < 32 ∧ c ∉ ['\n', '\r', '\t', '\x08', '\x0c'] then .unit c.toNat else .char c

theorem hex4_of_lt {n : Nat} (small : n < 32) :
    hex4 n = ['0', '0', (n / 16).digitChar, (n % 16).digitChar] ∧
      unit? '0' '0' (n / 16).digitChar (n % 16).digitChar = some n := by
  have all : ∀ n : Fin 32, hex4 n = ['0', '0', (n.val / 16).digitChar, (n.val % 16).digitChar] ∧
      unit? '0' '0' (n.val / 16).digitChar (n.val % 16).digitChar = some n.val := by
    decide +kernel
  exact all ⟨n, small⟩

theorem readPieces?_escaped {e c : Char} (known : escaped? e = some c) (s : List Char) :
    readPieces? ('\\' :: e :: s) =
      (readPieces? s).map fun (ps, rest) => (.char c :: ps, rest) := by
  have other : e ≠ 'u' := by
    rintro rfl
    cases known
  rw [readPieces?, known]
  · cases readPieces? s <;> rfl
  · exact fun _ _ _ _ _ same => absurd same other

theorem readPieces?_escapeChar (c : Char) (s : List Char) :
    readPieces? (escapeChar c ++ s) =
      (readPieces? s).map fun (ps, rest) => (pieceOf c :: ps, rest) := by
  unfold escapeChar
  split
  case h_8 quote slash newline carriage tab backspace feed =>
    split
    case isTrue control =>
      have piece : pieceOf c = .unit c.toNat := by
        refine if_pos ⟨control, ?_⟩
        simp_all
      obtain ⟨hex, unit⟩ := hex4_of_lt control
      rw [hex, piece]
      simp only [List.cons_append, List.nil_append, readPieces?, unit]
      cases readPieces? s <;> rfl
    case isFalse printed =>
      have piece : pieceOf c = .char c := if_neg fun both => printed both.1
      rw [piece, List.singleton_append, readPieces?, if_neg printed]
      · exact quote
      · exact fun _ _ _ _ _ same => absurd same slash
      · exact fun _ _ same => absurd same slash
  all_goals exact readPieces?_escaped rfl s

theorem readPieces?_quoted (s rest : List Char) :
    readPieces? (s.flatMap escapeChar ++ '"' :: rest) = some (s.map pieceOf, rest) := by
  induction s with
  | nil => rw [List.flatMap_nil, List.nil_append, readPieces?, List.map_nil]
  | cons c s ih =>
    rw [List.flatMap_cons, List.append_assoc, readPieces?_escapeChar, ih, Option.map_some,
      List.map_cons]

theorem join?_unit {n : Nat} (high : isHighHalf n = false) (low : isLowHalf n = false)
    (ps : List Piece) : join? (.unit n :: ps) = (join? ps).map (Char.ofNat n :: ·) := by
  match ps with
  | [] | .char _ :: _ | .unit _ :: _ => simp [join?, high, low]

theorem join?_pieceOf (c : Char) (ps : List Piece) :
    join? (pieceOf c :: ps) = (join? ps).map (c :: ·) := by
  unfold pieceOf
  split
  case isTrue control =>
    have high : isHighHalf c.toNat = false := by
      unfold isHighHalf
      rw [decide_eq_false (by omega), Bool.false_and]
    have low : isLowHalf c.toNat = false := by
      unfold isLowHalf
      rw [decide_eq_false (by omega), Bool.false_and]
    rw [join?_unit high low, Char.ofNat_toNat]
  case isFalse => rw [join?]

theorem join?_pieces (s : List Char) : join? (s.map pieceOf) = some s := by
  induction s with
  | nil => rw [List.map_nil, join?]
  | cons c s ih => rw [List.map_cons, join?_pieceOf, ih, Option.map_some]

/-- What stands between quotes is read as it was. -/
theorem readText?_quote (s : String) (rest : List Char) :
    readText? (s.toList.flatMap escapeChar ++ '"' :: rest) = some (some s, rest) := by
  unfold readText?
  rw [readPieces?_quoted, Option.map_some]
  dsimp only
  rw [join?_pieces, Option.map_some, String.ofList_toList]

end HeatingHub.Json
