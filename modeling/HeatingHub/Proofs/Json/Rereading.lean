import HeatingHub.Proofs.Json.Numerals
import HeatingHub.Proofs.Json.Texts

/-!
# Values read back

The reader takes from a text what was written there: a value that is written is read as a document
of the same shape (`read_render`). Only the numbers in it need not be the same, as digits are read
less exactly than they are written.
-/

namespace HeatingHub.Json

/-! ## What is read back -/

/-- What the text of the number is read as. -/
def Number.reread (n : Number) : Option Number :=
  (Numeral.read? n.text.toList).bind fun (m, _) => m.number?

mutual

/-- What the text of the value is read as. -/
def Value.reread : Value → Document
  | .null => .null
  | .bool b => .bool b
  | .number n => .number n.reread
  | .text s => .text (some s)
  | .array items => .array (rereadItems items) .closed
  | .object members => .object (rereadMembers members) .closed

def rereadItems : List Value → List Document
  | [] => []
  | v :: rest => v.reread :: rereadItems rest

def rereadMembers : List (String × Value) → List (Option String × Document)
  | [] => []
  | (k, v) :: rest => (some k, v.reread) :: rereadMembers rest

end

mutual

/-- Every number in the value can be written. -/
def Value.Finite : Value → Prop
  | .number n => n.Finite
  | .array items => FiniteItems items
  | .object members => FiniteMembers members
  | .null | .bool _ | .text _ => True

def FiniteItems : List Value → Prop
  | [] => True
  | v :: rest => v.Finite ∧ FiniteItems rest

def FiniteMembers : List (String × Value) → Prop
  | [] => True
  | (_, v) :: rest => v.Finite ∧ FiniteMembers rest

end

/-! ## Heads of texts -/

theorem skipSpace_cons {c : Char} {s : List Char} (h : isSpace c = false) :
    skipSpace (c :: s) = c :: s :=
  List.dropWhile_cons_of_neg (by simp [h])

/-- A numeral begins with a digit or a minus. -/
theorem Numeral.head_spelling {m : Numeral} (proper : m.Proper) :
    ∃ c s, m.spelling = c :: s ∧ (c.isDigit = true ∨ c = '-') := by
  obtain ⟨c, ds, hw⟩ := List.exists_cons_of_ne_nil proper.whole.1
  unfold Numeral.spelling
  cases m.negative with
  | true => exact ⟨'-', _, rfl, .inr rfl⟩
  | false =>
    rw [hw]
    exact ⟨c, _, rfl, .inl (proper.whole.2 c (hw ▸ List.mem_cons_self))⟩

/-- The characters that have a meaning between values or begin a value that is no number. -/
def marks : List Char :=
  [' ', '\n', '\t', '\r', '[', '\x7b', '"', 'n', 't', 'f', ',', ']', '\x7d']

theorem not_mark_of_numeral {c : Char} (h : c.isDigit = true ∨ c = '-') : c ∉ marks := by
  rcases h with digit | rfl
  · intro mark
    have none : marks.all (fun c => !c.isDigit) = true := by decide
    have other := List.all_eq_true.1 none c mark
    rw [digit] at other
    cases other
  · decide

theorem isSpace_of_not_mark {c : Char} (h : c ∉ marks) : isSpace c = false := by
  unfold marks at h
  unfold isSpace
  simp_all

namespace Document

theorem takeWord?_of_ne {c d : Char} (apart : c ≠ d) (word s : List Char) :
    takeWord? (c :: word) (d :: s) = none := if_neg apart

theorem readValue_numeral {fuel : Nat} {c : Char} {s rest : List Char} {m : Numeral}
    (numeral : c ∉ marks) (read : Numeral.read? (c :: s) = some (m, rest)) :
    readValue (fuel + 1) (c :: s) = (.number m.number?, some rest) := by
  unfold readValue
  rw [skipSpace_cons (isSpace_of_not_mark numeral)]
  unfold marks at numeral
  simp only [List.mem_cons, List.not_mem_nil, or_false, not_or] at numeral
  obtain ⟨_, _, _, _, bracket, brace, quote, n, t, f, _⟩ := numeral
  split
  case h_1 same => exact absurd (List.cons.inj same).1 bracket
  case h_2 same => exact absurd (List.cons.inj same).1 brace
  case h_3 same => exact absurd (List.cons.inj same).1 quote
  case h_4 =>
    rw [takeWord?_of_ne (Ne.symm n), takeWord?_of_ne (Ne.symm t), takeWord?_of_ne (Ne.symm f), read]

/-! ## Reading what was written -/

theorem stops_of_mark {c : Char} (h : c ∈ [',', ']', '\x7d']) (rest : List Char) :
    Stops (c :: rest) := by
  intro d hd
  obtain rfl := Option.some.inj hd
  simp only [List.mem_cons, List.not_mem_nil, or_false] at h
  rcases h with rfl | rfl | rfl <;> decide

theorem read?_text {n : Number} (finite : n.Finite) :
    ∃ m : Numeral, m.number? = n.reread ∧ (∃ c s, n.text.toList = c :: s ∧ c ∉ marks) ∧
      ∀ rest, Stops rest → Numeral.read? (n.text.toList ++ rest) = some (m, rest) := by
  obtain ⟨m, proper, spelled⟩ := Number.text_eq_spelling finite
  have reads : ∀ rest, Stops rest → Numeral.read? (n.text.toList ++ rest) = some (m, rest) := by
    intro rest stops
    rw [spelled]
    exact Numeral.read?_spelling proper stops
  refine ⟨m, ?_, ?_, reads⟩
  · have alone := reads [] nofun
    rw [List.append_nil] at alone
    unfold Number.reread
    rw [alone]
    rfl
  · obtain ⟨c, s, head, begins⟩ := Numeral.head_spelling proper
    exact ⟨c, s, spelled.trans head, not_mark_of_numeral begins⟩

/-- The text of the value is read, whatever follows it. -/
structure Reads (v : Value) : Prop where
  /-- It begins with a character that is no blank and ends nothing. -/
  head : ∃ c s, v.render.toList = c :: s ∧ isSpace c = false ∧ c ≠ ',' ∧ c ≠ ']'
  read : ∀ fuel rest, Stops rest → 2 * v.render.toList.length ≤ fuel →
    readValue fuel (v.render.toList ++ rest) = (v.reread, some rest)

theorem length_pos (v : Value) (reads : Reads v) : 0 < v.render.toList.length := by
  obtain ⟨c, s, head, _⟩ := reads.head
  rw [head]
  exact Nat.succ_pos _

/-- What follows an item. -/
def afterItem (rest : List Char) : List Value → List Char
  | [] => ']' :: rest
  | v :: vs => ',' :: ((renderItems (v :: vs)).toList ++ ']' :: rest)

theorem renderItems_cons (v : Value) (vs : List Value) (rest : List Char) :
    (renderItems (v :: vs)).toList ++ ']' :: rest = v.render.toList ++ afterItem rest vs := by
  cases vs with
  | nil => rw [renderItems]; rfl
  | cons w ws => simp [renderItems, afterItem]

theorem length_renderItems_cons (v w : Value) (ws : List Value) :
    (renderItems (v :: w :: ws)).toList.length =
      v.render.toList.length + 1 + (renderItems (w :: ws)).toList.length := by
  simp [renderItems]
  omega

theorem stops_afterItem (rest : List Char) (vs : List Value) : Stops (afterItem rest vs) := by
  cases vs with
  | nil => exact stops_of_mark (by simp) rest
  | cons w ws => exact stops_of_mark (by simp) _

theorem readItems_end (fuel : Nat) (first : Bool) (rest : List Char) :
    readItems (fuel + 1) first (']' :: rest) = ([], .closed, some rest) := by
  rw [readItems, skipSpace_cons rfl]
  rfl

/-- An item begins where an item is due. -/
theorem readItems_first {fuel : Nat} {c : Char} {s : List Char} (blank : isSpace c = false)
    (comma : c ≠ ',') (bracket : c ≠ ']') :
    readItems (fuel + 1) true (c :: s) = readItem fuel (c :: s) := by
  rw [readItems, skipSpace_cons blank]
  split
  case h_1 same => cases same
  case h_2 same => exact absurd (List.cons.inj same).1 bracket
  case h_3 same => exact absurd (List.cons.inj same).1 comma
  case h_4 => rfl

theorem readItems_next {fuel : Nat} {c : Char} {s : List Char} (blank : isSpace c = false)
    (bracket : c ≠ ']') :
    readItems (fuel + 1) false (',' :: c :: s) = readItem fuel (c :: s) := by
  rw [readItems, skipSpace_cons rfl]
  split
  case h_1 same => cases same
  case h_2 same => exact absurd (List.cons.inj same).1 (by decide)
  case h_3 same =>
    obtain ⟨-, rfl⟩ := List.cons.inj same
    rw [if_neg Bool.false_ne_true, skipSpace_cons blank]
    split
    case h_1 same => cases same
    case h_2 same => exact absurd (List.cons.inj same).1 bracket
    case h_3 => rfl
  case h_4 other => exact absurd rfl (other _)

theorem head_renderItems {v : Value} (reads : Reads v) (vs : List Value) (rest : List Char) :
    ∃ c s, (renderItems (v :: vs)).toList ++ ']' :: rest = c :: s ∧ isSpace c = false ∧ c ≠ ',' ∧
      c ≠ ']' := by
  obtain ⟨c, s, head, apart⟩ := reads.head
  exact ⟨c, s ++ afterItem rest vs, by rw [renderItems_cons, head, List.cons_append], apart⟩

/-- Items are read one by one. -/
theorem readItem_reads {v : Value} {vs : List Value} (reads : ∀ w ∈ v :: vs, Reads w) {fuel : Nat}
    (rest : List Char) (enough : 2 * (renderItems (v :: vs)).toList.length + 1 ≤ fuel) :
    readItem fuel ((renderItems (v :: vs)).toList ++ ']' :: rest) =
      (rereadItems (v :: vs), .closed, some rest) := by
  obtain ⟨fuel, rfl⟩ := Nat.exists_eq_add_of_le' (show 1 ≤ fuel by omega)
  have first := reads v List.mem_cons_self
  have some := length_pos v first
  induction vs generalizing v fuel with
  | nil =>
    rw [show (renderItems [v]) = v.render by rw [renderItems]] at enough
    rw [renderItems_cons, readItem, first.read fuel _ (stops_afterItem rest []) (by omega)]
    obtain ⟨fuel, rfl⟩ := Nat.exists_eq_add_of_le' (show 1 ≤ fuel by omega)
    dsimp only [afterItem]
    rw [readItems_end]
    rfl
  | cons w ws ih =>
    have second := reads w (by simp)
    have length := length_renderItems_cons v w ws
    have positive := length_pos w second
    obtain ⟨c, s, head, blank, _, bracket⟩ := head_renderItems second ws rest
    rw [renderItems_cons, readItem, first.read fuel _ (stops_afterItem rest _) (by omega)]
    obtain ⟨fuel, rfl⟩ := Nat.exists_eq_add_of_le' (show 2 ≤ fuel by omega)
    dsimp only [afterItem]
    rw [head, readItems_next blank bracket, ← head,
      ih (fun u hu => reads u (List.mem_cons_of_mem v hu)) fuel (by omega) second positive]
    rfl

/-! ## Members -/

/-- What follows a member. -/
def afterMember (rest : List Char) : List (String × Value) → List Char
  | [] => '\x7d' :: rest
  | m :: ms => ',' :: ((renderMembers (m :: ms)).toList ++ '\x7d' :: rest)

theorem renderMembers_cons (k : String) (v : Value) (ms : List (String × Value))
    (rest : List Char) : (renderMembers ((k, v) :: ms)).toList ++ '\x7d' :: rest =
      '"' :: (k.toList.flatMap escapeChar ++
        '"' :: ':' :: (v.render.toList ++ afterMember rest ms)) := by
  cases ms with
  | nil => simp [renderMembers, afterMember, quote]
  | cons m ms => simp [renderMembers, afterMember, quote]

theorem length_renderMembers_cons (k : String) (v : Value) (m : String × Value)
    (ms : List (String × Value)) :
    v.render.toList.length + 1 + (renderMembers (m :: ms)).toList.length ≤
      (renderMembers ((k, v) :: m :: ms)).toList.length := by
  simp [renderMembers]
  omega

theorem stops_afterMember (rest : List Char) (ms : List (String × Value)) :
    Stops (afterMember rest ms) := by
  cases ms with
  | nil => exact stops_of_mark (by simp) rest
  | cons m ms => exact stops_of_mark (by simp) _

theorem readMembers_end (fuel : Nat) (first : Bool) (rest : List Char) :
    readMembers (fuel + 1) first ('\x7d' :: rest) = ([], .closed, some rest) := by
  rw [readMembers, skipSpace_cons rfl]
  rfl

theorem readMembers_first (fuel : Nat) (s : List Char) :
    readMembers (fuel + 1) true ('"' :: s) = readMember fuel ('"' :: s) := by
  rw [readMembers, skipSpace_cons rfl]
  rfl

theorem readMembers_next (fuel : Nat) (s : List Char) :
    readMembers (fuel + 1) false (',' :: s) = readMember fuel s := by
  rw [readMembers, skipSpace_cons rfl]
  rfl

theorem readMember_key (fuel : Nat) (k : String) (s : List Char) :
    readMember (fuel + 1) ('"' :: (k.toList.flatMap escapeChar ++ '"' :: ':' :: s)) =
      match readValue fuel s with
      | (d, none) => ([(some k, d)], .cut, none)
      | (d, some rest) =>
        match readMembers fuel false rest with
        | (members, ending, rest) => ((some k, d) :: members, ending, rest) := by
  rw [readMember, skipSpace_cons rfl]
  split
  case h_1 same =>
    rw [← (List.cons.inj same).2, readText?_quote]
    dsimp only
    rw [skipSpace_cons rfl]
    rfl
  case h_2 other => exact absurd rfl (other _)

/-- Members are read one by one. -/
theorem readMember_reads {k : String} {v : Value} {ms : List (String × Value)}
    (reads : ∀ m ∈ (k, v) :: ms, Reads m.2) {fuel : Nat} (rest : List Char)
    (enough : 2 * (renderMembers ((k, v) :: ms)).toList.length + 1 ≤ fuel) :
    readMember fuel ((renderMembers ((k, v) :: ms)).toList ++ '\x7d' :: rest) =
      (rereadMembers ((k, v) :: ms), .closed, some rest) := by
  obtain ⟨fuel, rfl⟩ := Nat.exists_eq_add_of_le' (show 1 ≤ fuel by omega)
  have first : Reads v := reads (k, v) List.mem_cons_self
  have some := length_pos v first
  induction ms generalizing k v fuel with
  | nil =>
    have length : v.render.toList.length ≤ (renderMembers [(k, v)]).toList.length := by
      simp [renderMembers]
      omega
    rw [renderMembers_cons, readMember_key,
      first.read fuel _ (stops_afterMember rest []) (by omega)]
    obtain ⟨fuel, rfl⟩ := Nat.exists_eq_add_of_le' (show 1 ≤ fuel by omega)
    dsimp only [afterMember]
    rw [readMembers_end]
    rfl
  | cons m ms ih =>
    obtain ⟨l, w⟩ := m
    have second : Reads w := reads (l, w) (by simp)
    have length := length_renderMembers_cons k v (l, w) ms
    have positive := length_pos w second
    rw [renderMembers_cons, readMember_key, first.read fuel _ (stops_afterMember rest _) (by omega)]
    obtain ⟨fuel, rfl⟩ := Nat.exists_eq_add_of_le' (show 2 ≤ fuel by omega)
    dsimp only [afterMember]
    rw [readMembers_next, ih (fun u hu => reads u (List.mem_cons_of_mem _ hu)) fuel (by omega)
      second positive]
    rfl

/-! ## Values -/

theorem Reads.of_succ {v : Value}
    (head : ∃ c s, v.render.toList = c :: s ∧ isSpace c = false ∧ c ≠ ',' ∧ c ≠ ']')
    (read : ∀ fuel rest, Stops rest → 2 * v.render.toList.length ≤ fuel + 1 →
      readValue (fuel + 1) (v.render.toList ++ rest) = (v.reread, some rest)) : Reads v := by
  refine ⟨head, fun fuel rest stops enough => ?_⟩
  obtain ⟨c, s, text, _⟩ := head
  have pos : 0 < v.render.toList.length := by
    rw [text]
    exact Nat.succ_pos _
  obtain ⟨fuel, rfl⟩ := Nat.exists_eq_add_of_le' (show 1 ≤ fuel by omega)
  exact read fuel rest stops enough

theorem reads_null : Reads .null := by
  refine .of_succ ⟨'n', ['u', 'l', 'l'], rfl, rfl, by decide, by decide⟩ fun fuel rest _ _ => ?_
  rw [show (Value.render .null).toList = ['n', 'u', 'l', 'l'] from rfl, List.cons_append, readValue,
    skipSpace_cons rfl]
  rfl

theorem reads_bool (b : Bool) : Reads (.bool b) := by
  cases b with
  | true =>
    refine .of_succ ⟨'t', ['r', 'u', 'e'], rfl, rfl, by decide, by decide⟩ fun fuel rest _ _ => ?_
    rw [show (Value.render (.bool true)).toList = ['t', 'r', 'u', 'e'] from rfl, List.cons_append,
      readValue, skipSpace_cons rfl]
    rfl
  | false =>
    refine .of_succ ⟨'f', ['a', 'l', 's', 'e'], rfl, rfl, by decide, by decide⟩
      fun fuel rest _ _ => ?_
    rw [show (Value.render (.bool false)).toList = ['f', 'a', 'l', 's', 'e'] from rfl,
      List.cons_append, readValue, skipSpace_cons rfl]
    rfl

theorem reads_number {n : Number} (finite : n.Finite) : Reads (.number n) := by
  obtain ⟨m, number, ⟨c, s, head, mark⟩, reads⟩ := read?_text finite
  have text : (Value.render (.number n)).toList = c :: s := head
  refine .of_succ ⟨c, s, text, isSpace_of_not_mark mark, ?_, ?_⟩ fun fuel rest stops _ => ?_
  · rintro rfl
    exact mark (by decide)
  · rintro rfl
    exact mark (by decide)
  · have read := reads rest stops
    rw [head, List.cons_append] at read
    rw [text, List.cons_append, readValue_numeral mark read, number]
    rfl

theorem reads_text (s : String) : Reads (.text s) := by
  have text : (Value.render (.text s)).toList = '"' :: (s.toList.flatMap escapeChar ++ ['"']) := by
    rw [Value.render, quote, String.toList_ofList]
    rfl
  refine .of_succ ⟨'"', _, text, rfl, by decide, by decide⟩ fun fuel rest _ _ => ?_
  rw [text, List.cons_append, List.append_assoc, readValue, skipSpace_cons rfl]
  split
  case h_3 same =>
    rw [← (List.cons.inj same).2, List.singleton_append, readText?_quote]
    rfl
  case h_4 other => exact absurd rfl (other _)
  all_goals exact absurd ‹_› (by simp)

theorem reads_array {items : List Value} (reads : ∀ v ∈ items, Reads v) : Reads (.array items) := by
  have text (rest : List Char) : (Value.render (.array items)).toList ++ rest =
      '[' :: ((renderItems items).toList ++ ']' :: rest) := by
    simp [Value.render]
  have begins := text []
  rw [List.append_nil] at begins
  refine .of_succ ⟨'[', _, begins, rfl, by decide, by decide⟩ fun fuel rest _ enough => ?_
  have read : readItems fuel true ((renderItems items).toList ++ ']' :: rest) =
      (rereadItems items, .closed, some rest) := by
    rw [begins] at enough
    simp at enough
    obtain ⟨fuel, rfl⟩ := Nat.exists_eq_add_of_le' (show 1 ≤ fuel by omega)
    cases items with
    | nil => exact readItems_end fuel true rest
    | cons v vs =>
      obtain ⟨c, s, head, blank, comma, bracket⟩ :=
        head_renderItems (reads v List.mem_cons_self) vs rest
      rw [head, readItems_first blank comma bracket, ← head]
      exact readItem_reads reads rest (by omega)
  rw [text, readValue, skipSpace_cons rfl]
  split
  case h_1 same =>
    rw [← (List.cons.inj same).2, read]
    rfl
  case h_4 other _ _ => exact absurd rfl (other _)
  all_goals exact absurd ‹_› (by simp)

theorem reads_object {members : List (String × Value)} (reads : ∀ m ∈ members, Reads m.2) :
    Reads (.object members) := by
  have text (rest : List Char) : (Value.render (.object members)).toList ++ rest =
      '\x7b' :: ((renderMembers members).toList ++ '\x7d' :: rest) := by
    simp [Value.render]
  have begins := text []
  rw [List.append_nil] at begins
  refine .of_succ ⟨'\x7b', _, begins, rfl, by decide, by decide⟩ fun fuel rest _ enough => ?_
  have read : readMembers fuel true ((renderMembers members).toList ++ '\x7d' :: rest) =
      (rereadMembers members, .closed, some rest) := by
    rw [begins] at enough
    simp at enough
    obtain ⟨fuel, rfl⟩ := Nat.exists_eq_add_of_le' (show 1 ≤ fuel by omega)
    cases members with
    | nil => exact readMembers_end fuel true rest
    | cons m ms =>
      obtain ⟨k, v⟩ := m
      rw [renderMembers_cons, readMembers_first, ← renderMembers_cons]
      exact readMember_reads reads rest (by omega)
  rw [text, readValue, skipSpace_cons rfl]
  split
  case h_2 same =>
    rw [← (List.cons.inj same).2, read]
    rfl
  case h_4 other _ => exact absurd rfl (other _)
  all_goals exact absurd ‹_› (by simp)

theorem finite_of_mem_items {items : List Value} {v : Value} (finite : FiniteItems items)
    (hv : v ∈ items) : v.Finite := by
  induction items with
  | nil => cases hv
  | cons w ws ih =>
    rcases List.mem_cons.1 hv with rfl | hv
    · exact finite.1
    · exact ih finite.2 hv

theorem finite_of_mem_members {members : List (String × Value)} {m : String × Value}
    (finite : FiniteMembers members) (hm : m ∈ members) : m.2.Finite := by
  induction members with
  | nil => cases hm
  | cons l ms ih =>
    rcases List.mem_cons.1 hm with rfl | hm
    · exact finite.1
    · exact ih finite.2 hm

theorem reads_of_finite (v : Value) (finite : v.Finite) : Reads v := by
  match v with
  | .null => exact reads_null
  | .bool b => exact reads_bool b
  | .number n => exact reads_number finite
  | .text s => exact reads_text s
  | .array items =>
    exact reads_array fun w hw => reads_of_finite w (finite_of_mem_items finite hw)
  | .object members =>
    exact reads_object fun m hm => reads_of_finite m.2 (finite_of_mem_members finite hm)
termination_by sizeOf v
decreasing_by
  · have := List.sizeOf_lt_of_mem hw
    simp
    omega
  · have := List.sizeOf_lt_of_mem hm
    obtain ⟨k, w⟩ := m
    simp at this ⊢
    omega

/-- A value that is written is read as what its text is read as part by part. -/
theorem read_render {v : Value} (finite : v.Finite) : Document.read v.render = v.reread := by
  have reads := (reads_of_finite v finite).read (4 * v.render.length + 4) [] nofun
    (by rw [String.length_toList]; omega)
  rw [List.append_nil] at reads
  unfold Document.read
  rw [reads]

end Document

end HeatingHub.Json
