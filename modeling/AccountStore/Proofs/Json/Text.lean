import AccountStore.Proofs.Json.Numeral

/-!
# Written JSON values

A value without repeated keys is read back from its compact text (`ofText?_compactText`), up to the
spelling of its decimals (`respelled`).
-/

namespace AccountStore.Json
open Number Text

/-! ## Texts -/

theorem hexValue?_hexDigit {n : Nat} (small : n < 16) : hexValue? (hexDigit n) = some n := by
  have every : ∀ n : Fin 16, hexValue? (hexDigit n) = some n.val := by decide
  exact every ⟨n, small⟩

theorem readText_control {a b c d : Char} {code : Nat} (unit : unit? a b c d = some code)
    (low : code < 0xD800) (before rest : List Char) :
    readText before ('\\' :: 'u' :: a :: b :: c :: d :: rest) =
      readText (Char.ofNat code :: before) rest := by
  have noHigh : ¬(0xD800 ≤ code ∧ code ≤ 0xDBFF) := by omega
  have noLow : ¬(0xDC00 ≤ code ∧ code ≤ 0xDFFF) := by omega
  have noSurrogate : ¬(0xD800 ≤ code ∧ code ≤ 0xDFFF) := by omega
  rw [readText.eq_def]
  split
  next eq => cases eq
  next eq => cases eq
  next eq =>
    cases eq
    simp [unit, noHigh, noLow]
  next eq =>
    cases eq
    simp [unit, noSurrogate]
  next longer eq =>
    cases eq
    exact (longer _ _ _ _ _ rfl rfl).elim
  next longer eq =>
    cases eq
    exact (longer _ _ rfl rfl).elim

theorem readText_short {letter c : Char} (short : shortEscape? letter = some c)
    (before rest : List Char) :
    readText before ('\\' :: letter :: rest) = readText (c :: before) rest := by
  rw [readText.eq_def]
  split
  next eq => cases eq
  next eq => cases eq
  next eq =>
    cases eq
    simp [shortEscape?] at short
  next eq =>
    cases eq
    simp [shortEscape?] at short
  next eq =>
    cases eq
    simp [short]
  next longer eq =>
    cases eq
    exact (longer _ _ rfl rfl).elim

theorem readText_plain {c : Char} (quote : c ≠ '"') (backslash : c ≠ '\\') (high : 32 ≤ c.toNat)
    (before rest : List Char) : readText before (c :: rest) = readText (c :: before) rest := by
  rw [readText.eq_def]
  split
  next eq => cases eq
  next eq =>
    cases eq
    exact absurd rfl quote
  next eq =>
    cases eq
    exact absurd rfl backslash
  next eq =>
    cases eq
    exact absurd rfl backslash
  next eq =>
    cases eq
    exact absurd rfl backslash
  next eq =>
    cases eq
    exact if_neg (by omega)

/-- The three ways in which a character is written. -/
theorem escape_cases (c : Char) :
    (∃ letter, escape c = ['\\', letter] ∧ shortEscape? letter = some c) ∨
      (c.toNat < 32 ∧ escape c =
        ['\\', 'u', '0', '0', hexDigit (c.toNat / 16), hexDigit (c.toNat % 16)]) ∨
      (c ≠ '"' ∧ c ≠ '\\' ∧ 32 ≤ c.toNat ∧ escape c = [c]) := by
  by_cases short : c ∈ ['"', '\\', '\n', '\r', '\t', '\x08', '\x0c']
  · simp only [List.mem_cons, List.not_mem_nil, or_false] at short
    rcases short with rfl | rfl | rfl | rfl | rfl | rfl | rfl <;> exact .inl ⟨_, rfl, rfl⟩
  · simp only [List.mem_cons, List.not_mem_nil, or_false, not_or] at short
    obtain ⟨quote, backslash, newline, carriage, tab, back, feed⟩ := short
    by_cases low : c.toNat < 32
    · exact .inr (.inl ⟨low, by
        simp [escape, quote, backslash, newline, carriage, tab, back, feed, low]⟩)
    · exact .inr (.inr ⟨quote, backslash, by omega, by
        simp [escape, quote, backslash, newline, carriage, tab, back, feed, low]⟩)

theorem readText_escape (c : Char) (before rest : List Char) :
    readText before (escape c ++ rest) = readText (c :: before) rest := by
  rcases escape_cases c with
    ⟨letter, written, short⟩ | ⟨low, written⟩ | ⟨quote, backslash, high, written⟩
  · rw [written]
    exact readText_short short before rest
  · rw [written]
    have first := hexValue?_hexDigit (n := c.toNat / 16) (by omega)
    have last := hexValue?_hexDigit (n := c.toNat % 16) (by omega)
    have zero : hexValue? '0' = some 0 := by decide
    have unit : unit? '0' '0' (hexDigit (c.toNat / 16)) (hexDigit (c.toNat % 16)) =
        some c.toNat := by
      simp only [unit?, first, last, zero, Option.bind_eq_bind, Option.bind_some]
      congr
      omega
    simpa using readText_control unit (by omega) before rest
  · rw [written]
    exact readText_plain quote backslash high before rest

theorem readText_escaped (cs before rest : List Char) :
    readText before (cs.flatMap escape ++ '"' :: rest) =
      some (String.ofList (before.reverse ++ cs), rest) := by
  induction cs generalizing before with
  | nil => simp [readText]
  | cons c cs ih => simp [readText_escape, ih]

theorem readText_quoted (s : String) (rest : List Char) :
    readText [] (s.toList.flatMap escape ++ '"' :: rest) = some (s, rest) := by
  simp [readText_escaped]

/-! ## Values -/

mutual

/-- The value with each decimal as its layout spells it. -/
def respelled : Json → Json
  | .real d => .real (spelled .single d)
  | .array items => .array (respelledItems items)
  | .object members => .object (respelledMembers members)
  | j => j

def respelledItems : List Json → List Json
  | [] => []
  | j :: rest => respelled j :: respelledItems rest

def respelledMembers : List (String × Json) → List (String × Json)
  | [] => []
  | (key, j) :: rest => (key, respelled j) :: respelledMembers rest

end

mutual

/-- No object in the value has two members of one name. -/
def Distinct : Json → Prop
  | .array items => DistinctItems items
  | .object members => (members.map Prod.fst).Nodup ∧ DistinctMembers members
  | _ => True

def DistinctItems : List Json → Prop
  | [] => True
  | j :: rest => Distinct j ∧ DistinctItems rest

def DistinctMembers : List (String × Json) → Prop
  | [] => True
  | (_, j) :: rest => Distinct j ∧ DistinctMembers rest

end

theorem skipSpace_cons {c : Char} (solid : isSpace c = false) (rest : List Char) :
    skipSpace (c :: rest) = c :: rest := by
  simp [skipSpace, solid]

theorem isSpace_of_isDigit {c : Char} (digit : isDigit c = true) : isSpace c = false := by
  simp only [isDigit, Bool.and_eq_true, decide_eq_true_eq] at digit
  simp only [isSpace, Bool.or_eq_false_iff, decide_eq_false_iff_not]
  refine ⟨⟨⟨?_, ?_⟩, ?_⟩, ?_⟩ <;> rintro rfl <;> revert digit <;> decide

theorem readValue_numeral {n : Numeral} (proper : n.Proper) {rest : List Char} (ends : Ends rest)
    (fuel : Nat) : readValue (fuel + 1) (n.text ++ rest) = some (n.value, rest) := by
  obtain ⟨c, cs, text, first⟩ := proper.exists_text
  have solid : isSpace c = false := by
    rcases first with rfl | digit
    · decide
    · exact isSpace_of_isDigit digit
  have read := readNumber_text proper ends
  rw [text, List.cons_append] at read ⊢
  rw [readValue, skipSpace_cons solid]
  -- Everything but a number begins with another character.
  split
  all_goals first
    | exact read
    | rename_i eq
      obtain rfl := (List.cons.inj eq).1
      exact absurd first (by decide)

theorem compact_int (n : Int) : compact (.int n) = (Numeral.ofInt n).text := by
  simp [compact, scalar, Numeral.text_ofInt]

theorem compact_real (d : Decimal) : compact (.real d) = (Numeral.ofDecimal .single d).text := by
  simp [compact, scalar, Numeral.text_ofDecimal]

/-- A value begins with a character that is neither white space nor the end of an array. -/
theorem exists_compact (j : Json) :
    ∃ c cs, compact j = c :: cs ∧ isSpace c = false ∧ c ≠ ']' := by
  have numeral {n : Numeral} (proper : n.Proper) :
      ∃ c cs, n.text = c :: cs ∧ isSpace c = false ∧ c ≠ ']' := by
    obtain ⟨c, cs, text, first⟩ := proper.exists_text
    rcases first with rfl | digit
    · exact ⟨_, cs, text, by decide, by decide⟩
    · exact ⟨c, cs, text, isSpace_of_isDigit digit, by rintro rfl; exact absurd digit (by decide)⟩
  cases j with
  | null => exact ⟨'n', _, rfl, by decide, by decide⟩
  | bool b =>
      cases b
      · exact ⟨'f', _, rfl, by decide, by decide⟩
      · exact ⟨'t', _, rfl, by decide, by decide⟩
  | int n => exact compact_int n ▸ numeral (Numeral.proper_ofInt n)
  | real d => exact compact_real d ▸ numeral (Numeral.proper_ofDecimal .single d)
  | string s => exact ⟨'"', _, rfl, by decide, by decide⟩
  | array items => exact ⟨'[', _, by rw [compact]; rfl, by decide, by decide⟩
  | object members => exact ⟨'\x7b', _, by rw [compact]; rfl, by decide, by decide⟩

theorem fresh_of_nodup {before members : List (String × Json)} {m : String × Json}
    (names : ((before ++ m :: members).map Prod.fst).Nodup) : m.1 ∉ before.map Prod.fst := by
  rw [List.map_append, List.nodup_append] at names
  exact fun member => names.2.2 _ member _ List.mem_cons_self rfl

theorem insert_of_notMem {members : List (String × Json)} {key : String}
    (fresh : key ∉ members.map Prod.fst) (j : Json) :
    insert members key j = members ++ [(key, j)] := by
  rw [insert, if_neg]
  simpa using fresh

theorem skipSpace_compactItems (j : Json) (items : List Json) (rest : List Char) :
    skipSpace (compactItems (j :: items) ++ rest) = compactItems (j :: items) ++ rest ∧
      ∃ c cs, compactItems (j :: items) ++ rest = c :: cs ∧ c ≠ ']' := by
  obtain ⟨c, cs, text, solid, notEnd⟩ := exists_compact j
  cases items <;>
    simp [compactItems, text, skipSpace_cons solid, notEnd]

theorem exists_compactMembers (key : String) (j : Json) (members : List (String × Json)) :
    ∃ cs, compactMembers ((key, j) :: members) = '"' :: cs := by
  cases members with
  | nil => exact ⟨_, rfl⟩
  | cons m members => simp [compactMembers, quoted]

mutual

/-- The compact text of a value is read up to its end. -/
theorem readValue_compact : ∀ (j : Json) (fuel : Nat) (rest : List Char), Distinct j →
    (compact j).length ≤ fuel → Ends rest →
      readValue fuel (compact j ++ rest) = some (respelled j, rest)
  | .null, fuel + 1, rest, _, _, _ => by
      simp [compact, scalar, readValue, skipSpace_cons, isSpace, respelled]
  | .bool b, fuel + 1, rest, _, _, _ => by
      cases b <;> simp [compact, scalar, readValue, skipSpace_cons, isSpace, respelled]
  | .int n, fuel + 1, rest, _, _, ends => by
      rw [compact_int, readValue_numeral (Numeral.proper_ofInt n) ends, Numeral.value_ofInt]
      simp [respelled]
  | .real d, fuel + 1, rest, _, _, ends => by
      rw [compact_real, readValue_numeral (Numeral.proper_ofDecimal .single d) ends,
        Numeral.value_ofDecimal, respelled]
  | .string s, fuel + 1, rest, _, _, _ => by
      have read := readText_quoted s rest
      simp [compact, scalar, quoted, readValue, skipSpace_cons, isSpace, respelled, read]
  | .array [], fuel + 1, rest, _, _, _ => by
      simp [compact, compactItems, readValue, skipSpace_cons, isSpace, respelled, respelledItems]
  | .array (j :: items), fuel + 1, rest, distinct, enough, _ => by
      simp only [compact, List.length_append, List.length_cons, List.length_nil] at enough
      have read := readItems_compact (j :: items) fuel [] rest (by simp) distinct (by omega)
      have solid := skipSpace_compactItems j items (']' :: rest)
      obtain ⟨c, cs, text, notEnd⟩ := solid.2
      have start : skipSpace ('[' :: (compactItems (j :: items) ++ ']' :: rest)) =
          '[' :: (compactItems (j :: items) ++ ']' :: rest) := skipSpace_cons (by decide) _
      simp only [compact, List.cons_append, List.append_assoc, List.nil_append]
      rw [readValue, start]
      simp only [solid.1]
      split
      · rename_i eq
        rw [text] at eq
        exact absurd (List.cons.inj eq).1 notEnd
      · simpa [respelled] using read
  | .object [], fuel + 1, rest, _, _, _ => by
      simp [compact, compactMembers, readValue, skipSpace_cons, isSpace, respelled, respelledMembers]
  | .object ((key, j) :: members), fuel + 1, rest, distinct, enough, _ => by
      simp only [compact, List.length_append, List.length_cons, List.length_nil] at enough
      have read := readMembers_compact ((key, j) :: members) fuel [] rest (by simp) distinct.2
        (by simpa using distinct.1) (by omega)
      obtain ⟨cs, text⟩ := exists_compactMembers key j members
      have start : skipSpace ('\x7b' :: (compactMembers ((key, j) :: members) ++ '\x7d' :: rest)) =
          '\x7b' :: (compactMembers ((key, j) :: members) ++ '\x7d' :: rest) :=
        skipSpace_cons (by decide) _
      have quote : skipSpace ('"' :: (cs ++ '\x7d' :: rest)) = '"' :: (cs ++ '\x7d' :: rest) :=
        skipSpace_cons (by decide) _
      simp only [compact, List.cons_append, List.append_assoc, List.nil_append]
      rw [readValue, start]
      simp only [text, List.cons_append, quote]
      simpa [respelled, text] using read
  | j, 0, rest, _, enough, _ => by
      obtain ⟨c, cs, text, -⟩ := exists_compact j
      simp [text] at enough

theorem readItems_compact : ∀ (items : List Json) (fuel : Nat) (before : List Json)
    (rest : List Char), items ≠ [] → DistinctItems items → (compactItems items).length < fuel →
      readItems fuel before (compactItems items ++ ']' :: rest) =
        some (.array (before.reverse ++ respelledItems items), rest)
  | [], _, _, _, nonempty, _, _ => absurd rfl nonempty
  | [j], fuel + 1, before, rest, _, distinct, enough => by
      have read := readValue_compact j fuel (']' :: rest) distinct.1 (by
        simpa [compactItems] using Nat.lt_succ_iff.1 enough) (ends_cons (by decide))
      simp [compactItems, readItems, read, skipSpace_cons, isSpace, respelledItems]
  | j :: k :: items, fuel + 1, before, rest, _, distinct, enough => by
      simp only [compactItems, List.length_append, List.length_cons] at enough
      have read := readValue_compact j fuel (',' :: (compactItems (k :: items) ++ ']' :: rest))
        distinct.1 (by omega) (ends_cons (by decide))
      have more := readItems_compact (k :: items) fuel (respelled j :: before) rest (by simp)
        distinct.2 (by omega)
      simp [compactItems, readItems, read, skipSpace_cons, isSpace, respelledItems, more]
  | _ :: _, 0, _, _, _, _, enough => absurd enough (Nat.not_lt_zero _)

theorem readMembers_compact : ∀ (members : List (String × Json)) (fuel : Nat)
    (before : List (String × Json)) (rest : List Char), members ≠ [] → DistinctMembers members →
      ((before ++ members).map Prod.fst).Nodup → (compactMembers members).length < fuel →
        readMembers fuel before (compactMembers members ++ '\x7d' :: rest) =
          some (.object (before ++ respelledMembers members), rest)
  | [], _, _, _, nonempty, _, _, _ => absurd rfl nonempty
  | [(key, j)], fuel + 1, before, rest, _, distinct, names, enough => by
      simp only [compactMembers, List.length_append, List.length_cons] at enough
      have fresh := fresh_of_nodup names
      have name := readText_quoted key (':' :: (compact j ++ '\x7d' :: rest))
      have read := readValue_compact j fuel ('\x7d' :: rest) distinct.1 (by omega)
        (ends_cons (by decide))
      simp [compactMembers, readMembers, quoted, name, read, skipSpace_cons, isSpace,
        respelledMembers, insert_of_notMem fresh]
  | (key, j) :: m :: members, fuel + 1, before, rest, _, distinct, names, enough => by
      simp only [compactMembers, List.length_append, List.length_cons] at enough
      have fresh := fresh_of_nodup names
      have name := readText_quoted key
        (':' :: (compact j ++ ',' :: (compactMembers (m :: members) ++ '\x7d' :: rest)))
      have read := readValue_compact j fuel
        (',' :: (compactMembers (m :: members) ++ '\x7d' :: rest)) distinct.1 (by omega)
        (ends_cons (by decide))
      have more := readMembers_compact (m :: members) fuel (before ++ [(key, respelled j)]) rest
        (by simp) distinct.2 (by simpa using names) (by omega)
      simp [compactMembers, readMembers, quoted, name, read, skipSpace_cons, isSpace,
        respelledMembers, insert_of_notMem fresh, more]
  | _ :: _, 0, _, _, _, _, _, enough => absurd enough (Nat.not_lt_zero _)

end

/-- The compact text of a value without repeated keys reads as the value. -/
theorem ofText?_compactText {j : Json} (distinct : Distinct j) :
    ofText? (compactText j) = some (respelled j) := by
  have read := readValue_compact j (2 * (compact j).length + 2) [] distinct (by omega) ends_nil
  rw [List.append_nil] at read
  simp [ofText?, compactText, read, skipSpace]

end AccountStore.Json
