import HeatingHub.Environment
import HeatingHub.Proofs.Outcome
import HeatingHub.Proofs.Text.Trimming
import Mathlib.Data.List.TakeDrop

/-!
# Assignments read back

A value that is written between quotes is read as it was, whatever characters it has
(`assignment_read_back`). Between double quotes some characters have a backslash in front of them,
between single quotes none has, and only a single quote cannot be written.
-/

namespace HeatingHub.EnvFile

open Text (AllBlank)

/-! ## Quoted values -/

/-- A character as it stands between double quotes. -/
def escape : Char → List Char
  | '\\' => ['\\', '\\']
  | '"' => ['\\', '"']
  | '\n' => ['\\', 'n']
  | '\r' => ['\\', 'r']
  | '\t' => ['\\', 't']
  | c => [c]

def escaped (value : List Char) : List Char := value.flatMap escape

/-- What may follow the closing quote: blanks, and a comment. -/
inductive Trails : List Char → Prop
  | blanks {s : List Char} (blank : AllBlank s) : Trails s
  | comment {s : List Char} (blank : AllBlank s) (text : List Char) : Trails (s ++ '#' :: text)

theorem Trails.closes {s : List Char} (h : Trails s) : closes s = true := by
  unfold EnvFile.closes
  cases h with
  | blanks blank =>
    have nothing : Text.trim s = [] := by
      rw [Text.trim, Text.trimStart_eq_nil blank]
      rfl
    rw [nothing]
  | comment blank text =>
    rw [Text.trim_append_cons blank (by decide)]
    rfl

theorem closes_trimEnd (s : List Char) : closes (Text.trimEnd s) = closes s := by
  unfold closes
  rw [Text.trim_trimEnd]

section Quoted

variable {quote : Char} {escapes : Bool} {rest : List Char}

theorem readQuoted_quote (plain : (escapes && quote == '\\') = false) (closing : closes rest = true) :
    readQuoted quote escapes (quote :: rest) = .ok [] := by
  rw [readQuoted.eq_def]
  simp [plain, closing]

theorem readQuoted_cons {c : Char} (plain : (escapes && c == '\\') = false) (hc : c ≠ quote)
    (s : List Char) :
    readQuoted quote escapes (c :: s) = (readQuoted quote escapes s).map (c :: ·) := by
  rw [readQuoted.eq_def]
  simp [plain, hc]

theorem readQuoted_escaped_cons (c : Char) (s : List Char) :
    readQuoted quote true ('\\' :: c :: s) = (readQuoted quote true s).map (unescape c :: ·) := by
  rw [readQuoted]
  rfl

/-- What is escaped is taken for the character that it stands for. -/
theorem readQuoted_escape_append (c : Char) (s : List Char) :
    readQuoted '"' true (escape c ++ s) = (readQuoted '"' true s).map (c :: ·) := by
  unfold escape
  split
  case h_1 => exact readQuoted_escaped_cons '\\' s
  case h_2 => exact readQuoted_escaped_cons '"' s
  case h_3 => exact readQuoted_escaped_cons 'n' s
  case h_4 => exact readQuoted_escaped_cons 'r' s
  case h_5 => exact readQuoted_escaped_cons 't' s
  case h_6 notBackslash notQuote _ _ _ =>
    exact readQuoted_cons (by simpa using notBackslash) notQuote s

theorem readQuoted_escaped (value : List Char) (closing : closes rest = true) :
    readQuoted '"' true (escaped value ++ '"' :: rest) = .ok value := by
  induction value with
  | nil => exact readQuoted_quote rfl closing
  | cons c value ih =>
    rw [escaped, List.flatMap_cons, List.append_assoc, readQuoted_escape_append]
    exact congrArg (Except.map (c :: ·)) ih

theorem readQuoted_plain {value : List Char} (unquoted : quote ∉ value)
    (closing : closes rest = true) :
    readQuoted quote false (value ++ quote :: rest) = .ok value := by
  induction value with
  | nil => exact readQuoted_quote rfl closing
  | cons c value ih =>
    obtain ⟨hc, unquoted⟩ := not_or.1 (mt List.mem_cons.2 unquoted)
    rw [List.cons_append, readQuoted_cons rfl (Ne.symm hc), ih unquoted]
    rfl

end Quoted

theorem readValue_trimEnd (s : List Char) : readValue (Text.trimEnd s) = readValue s := by
  unfold readValue
  rw [Text.trim_trimEnd]

/-! ## Names -/

/-- What can be the name of a variable in a file. -/
structure IsName (name : List Char) : Prop where
  nonempty : name ≠ []
  solid : ∀ c ∈ name, Text.isBlank c = false
  noEquals : '=' ∉ name
  noComment : name.head? ≠ some '#'

/-- The word that may stand in front of a name. -/
def exportWord : List Char := ['e', 'x', 'p', 'o', 'r', 't']

/-- What an assignment to a name begins with, up to the sign of equality. A blank behind the name
`export` would make it the word in front of another. -/
inductive Opens (name : List Char) : List Char → Prop
  | plain {lead gap : List Char} (before : AllBlank lead) (behind : AllBlank gap)
      (apart : name = exportWord → gap = []) : Opens name (lead ++ (name ++ (gap ++ ['='])))
  | exported {lead between gap : List Char} (before : AllBlank lead) (next : AllBlank between)
      (behind : AllBlank gap) :
      Opens name (lead ++ (exportWord ++ ' ' :: (between ++ (name ++ (gap ++ ['='])))))

variable {name opening gap raw : List Char}

theorem ne_equals_of_blank {c : Char} (h : Text.isBlank c = true) : c ≠ '=' := by
  rintro rfl
  cases h

theorem readAssignment_of_isName (named : IsName name) (behind : AllBlank gap) :
    readAssignment (name ++ (gap ++ '=' :: raw)) =
      (readValue raw).map fun v => (String.ofList name, String.ofList v) := by
  have other (c : Char) (hc : c ∈ name ++ gap) : (c != '=') = true := by
    rw [bne_iff_ne]
    rcases List.mem_append.1 hc with hc | hc
    · rintro rfl
      exact named.noEquals hc
    · exact ne_equals_of_blank (behind c hc)
  have split : (name ++ (gap ++ '=' :: raw)).span (· != '=') = (name ++ gap, '=' :: raw) := by
    rw [← List.append_assoc, List.span_eq_takeWhile_dropWhile, List.takeWhile_append_of_pos other,
      List.dropWhile_append_of_pos other]
    simp
  have solid : name.any Text.isBlank = false :=
    List.any_eq_false.2 fun c hc => Bool.eq_false_iff.1 (named.solid c hc)
  unfold readAssignment
  rw [split]
  dsimp only
  rw [Text.trim_append behind, Text.trim_eq_self named.solid, solid,
    List.isEmpty_eq_false_iff.2 named.nonempty]
  rfl

/-- The name ends where a blank or the sign of equality follows. -/
theorem takeWhile_name (named : IsName name) (behind : AllBlank gap) :
    (name ++ (gap ++ '=' :: raw)).takeWhile (fun c => !Text.isBlank c && c != '=') = name := by
  rw [List.takeWhile_append_of_pos]
  · cases gap with
    | nil => simp
    | cons b gap => simp [behind b List.mem_cons_self]
  · intro c hc
    have other : c ≠ '=' := by
      rintro rfl
      exact named.noEquals hc
    simp [named.solid c hc, other]

theorem dropExport_eq_self (named : IsName name) (behind : AllBlank gap)
    (apart : name = exportWord → gap = []) :
    dropExport (name ++ (gap ++ '=' :: raw)) = name ++ (gap ++ '=' :: raw) := by
  generalize line : name ++ (gap ++ '=' :: raw) = s
  unfold dropExport
  split
  case h_1 rest =>
    have same : name = exportWord := by
      rw [← takeWhile_name named behind, line]
      rfl
    rw [apart same, same] at line
    cases line
  case h_2 => rfl

theorem readLine_of_trim {line s : List Char} {c : Char} (trimmed : Text.trim line = c :: s)
    (hc : c ≠ '#') : readLine line = (readAssignment (dropExport (c :: s))).map some := by
  unfold readLine
  rw [trimmed]
  split
  case h_1 empty => cases empty
  case h_2 comment => exact absurd (List.cons.inj comment).1 hc
  case h_3 => rfl

/-- A name begins with a character that neither a blank nor a comment begins with. -/
theorem IsName.exists_cons (named : IsName name) :
    ∃ c rest, name = c :: rest ∧ Text.isBlank c = false ∧ c ≠ '#' := by
  obtain ⟨c, rest, rfl⟩ := List.exists_cons_of_ne_nil named.nonempty
  refine ⟨c, rest, rfl, named.solid c List.mem_cons_self, ?_⟩
  rintro rfl
  exact named.noComment rfl

/-- Trimmed and without the word in front, a line that opens an assignment begins with the name. -/
theorem Opens.split (opens : Opens name opening) (named : IsName name) :
    ∃ lead c s gap, AllBlank lead ∧ Text.isBlank c = false ∧ c ≠ '#' ∧
      opening = lead ++ c :: (s ++ ['=']) ∧ AllBlank gap ∧
      ∀ raw, dropExport (c :: (s ++ '=' :: raw)) = name ++ (gap ++ '=' :: raw) := by
  obtain ⟨c, rest, rfl, solid, noComment⟩ := named.exists_cons
  cases opens with
  | @plain lead gap before behind apart =>
    refine ⟨lead, c, rest ++ gap, gap, before, solid, noComment, by simp, behind, fun raw => ?_⟩
    rw [List.append_assoc]
    exact dropExport_eq_self named behind apart
  | @exported lead between gap before next behind =>
    refine ⟨lead, 'e', ['x', 'p', 'o', 'r', 't', ' '] ++ (between ++ (c :: rest ++ gap)), gap,
      before, by decide, by decide, by simp [exportWord], behind, fun raw => ?_⟩
    show Text.trimStart ((between ++ (c :: rest ++ gap)) ++ '=' :: raw) = _
    rw [List.append_assoc, Text.trimStart_append next, List.append_assoc]
    exact Text.trimStart_cons_of_not_blank solid

/-- A line that opens an assignment to a name gives the name what is read behind. -/
theorem readLine_of_opens (named : IsName name) (opens : Opens name opening) (raw : List Char) :
    readLine (opening ++ raw) =
      (readValue raw).map fun v => some (String.ofList name, String.ofList v) := by
  obtain ⟨lead, c, s, gap, before, solid, noComment, rfl, behind, dropped⟩ := opens.split named
  have trimmed : Text.trim (lead ++ c :: (s ++ ['=']) ++ raw) =
      c :: (s ++ '=' :: Text.trimEnd raw) := by
    rw [List.append_assoc, List.cons_append, List.append_assoc, Text.trim_append_cons before solid]
    exact congrArg (c :: ·) (Text.trimEnd_append_cons (by decide))
  rw [readLine_of_trim trimmed noComment, dropped, readAssignment_of_isName named behind,
    readValue_trimEnd]
  cases readValue raw <;> rfl

/-! ## Values read back -/

theorem readValue_double {trail : List Char} (before : AllBlank gap) (trails : Trails trail)
    (value : List Char) : readValue (gap ++ '"' :: (escaped value ++ '"' :: trail)) = .ok value := by
  unfold readValue
  rw [Text.trim_append_cons before (by decide), Text.trimEnd_append_cons (by decide)]
  exact readQuoted_escaped value ((closes_trimEnd trail).trans trails.closes)

theorem readValue_single {trail value : List Char} (before : AllBlank gap) (trails : Trails trail)
    (unquoted : '\'' ∉ value) : readValue (gap ++ '\'' :: (value ++ '\'' :: trail)) = .ok value := by
  unfold readValue
  rw [Text.trim_append_cons before (by decide), Text.trimEnd_append_cons (by decide)]
  exact readQuoted_plain unquoted ((closes_trimEnd trail).trans trails.closes)

/-- Every value that is written between double quotes with backslashes is read as it was, and so is
one without single quotes that is written between these as it is. The assignment may have the word
`export` in front, blanks around its parts, and a comment behind. -/
theorem assignment_read_back (name value : String) (named : IsName name.toList) :
    (∀ opening gap trail, Opens name.toList opening → AllBlank gap → Trails trail →
      readLine (opening ++ (gap ++ '"' :: (escaped value.toList ++ '"' :: trail))) =
        .ok (some (name, value))) ∧
    ('\'' ∉ value.toList →
      ∀ opening gap trail, Opens name.toList opening → AllBlank gap → Trails trail →
        readLine (opening ++ (gap ++ '\'' :: (value.toList ++ '\'' :: trail))) =
          .ok (some (name, value))) := by
  constructor
  · intro opening gap trail opens blank trails
    rw [readLine_of_opens named opens, readValue_double blank trails]
    simp [Except.map]
  · intro unquoted opening gap trail opens blank trails
    rw [readLine_of_opens named opens, readValue_single blank trails unquoted]
    simp [Except.map]

/-- A blank, a backslash, a quote and a line feed at the end of a password are read back. -/
theorem assignment_read_back_of_password :
    let value := "#1 \\\"\n"
    IsName "PASSWORD".toList ∧ '\'' ∉ value.toList ∧
      Opens "PASSWORD".toList "\texport PASSWORD=".toList ∧ AllBlank [' '] ∧
      Trails " # old".toList ∧
      readLine ("\texport PASSWORD=".toList ++
        ([' '] ++ '"' :: ("#1 \\\\\\\"\\n".toList ++ '"' :: " # old".toList))) =
          .ok (some ("PASSWORD", value)) ∧
      readLine ("\texport PASSWORD=".toList ++
        ([' '] ++ '\'' :: (value.toList ++ '\'' :: " # old".toList))) =
          .ok (some ("PASSWORD", value)) := by
  intro value
  have noBlank : "PASSWORD".toList.any Text.isBlank = false := by decide
  have solid (c : Char) (hc : c ∈ "PASSWORD".toList) : Text.isBlank c = false :=
    Bool.eq_false_iff.2 (List.any_eq_false.1 noBlank c hc)
  have named : IsName "PASSWORD".toList := ⟨by decide, solid, by decide, by decide⟩
  have unquoted : '\'' ∉ value.toList := by decide
  have blank : AllBlank [' '] := by decide
  have opens : Opens "PASSWORD".toList "\texport PASSWORD=".toList := by
    have split : "\texport PASSWORD=".toList =
      ['\t'] ++ (exportWord ++ ' ' :: ([] ++ ("PASSWORD".toList ++ ([] ++ ['='])))) := by
        decide +kernel
    rw [split]
    exact .exported (by decide) nofun nofun
  have trails : Trails " # old".toList := by
    have split : " # old".toList = [' '] ++ '#' :: " old".toList := by decide +kernel
    rw [split]
    exact .comment blank _
  have written : "#1 \\\\\\\"\\n".toList = escaped value.toList := by decide +kernel
  obtain ⟨double, single⟩ := assignment_read_back "PASSWORD" value named
  rw [written]
  exact ⟨named, unquoted, opens, blank, trails, double _ _ _ opens blank trails,
    single unquoted _ _ _ opens blank trails⟩

/-- With a blank behind it, `export` is no name. -/
example : readLine "export =\"\"".toList = .error .emptyName := by decide

end HeatingHub.EnvFile
