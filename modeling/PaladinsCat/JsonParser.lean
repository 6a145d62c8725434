import PaladinsCat.Json

/-!
A parser for JSON texts. It reads back what is printed, and no text of a value has fewer letters
u than the compact one: an escape that is not needed brings a letter of its own.
-/

namespace Json

/-! ### The parser -/

def isBlank (c : Char) : Bool := c == ' ' || c == '\n' || c == '\t' || c == '\r'

def skipBlank (text : List Char) : List Char := text.dropWhile isBlank

def hexValue (c : Char) : Option Nat :=
  if c.isDigit then some (c.toNat - 48)
  else if 'a' ≤ c ∧ c ≤ 'f' then some (c.toNat - 87)
  else if 'A' ≤ c ∧ c ≤ 'F' then some (c.toNat - 55)
  else none

/-- Four hexadecimal digits. -/
def readUnit : List Char → Option (Nat × List Char)
  | a :: b :: c :: d :: rest => do
      let a ← hexValue a
      let b ← hexValue b
      let c ← hexValue c
      let d ← hexValue d
      return (((a * 16 + b) * 16 + c) * 16 + d, rest)
  | _ => none

/-- What stands behind `\u`; a high surrogate is followed by a low one. -/
def readUnicode (text : List Char) : Option (Char × List Char) := do
  let (unit, rest) ← readUnit text
  if 0xD800 ≤ unit ∧ unit < 0xDC00 then
    match rest with
    | '\\' :: 'u' :: rest => do
        let (low, rest) ← readUnit rest
        if 0xDC00 ≤ low ∧ low < 0xE000 then
          return (Char.ofNat (0x10000 + (unit - 0xD800) * 0x400 + (low - 0xDC00)), rest)
        else none
    | _ => none
  else if 0xDC00 ≤ unit ∧ unit < 0xE000 then none
  else return (Char.ofNat unit, rest)

def readEscape : List Char → Option (Char × List Char)
  | '"' :: rest => some ('"', rest)
  | '\\' :: rest => some ('\\', rest)
  | '/' :: rest => some ('/', rest)
  | 'b' :: rest => some ('\x08', rest)
  | 'f' :: rest => some ('\x0c', rest)
  | 'n' :: rest => some ('\n', rest)
  | 'r' :: rest => some ('\r', rest)
  | 't' :: rest => some ('\t', rest)
  | 'u' :: rest => readUnicode rest
  | _ => none

/-- The next character of a string, or `none` inside for the closing quote. -/
def readChar : List Char → Option (Option Char × List Char)
  | [] => none
  | '"' :: rest => some (none, rest)
  | '\\' :: rest => (readEscape rest).map fun read => (some read.1, read.2)
  | c :: rest => if c.toNat < 32 then none else some (some c, rest)

def readChars : Nat → List Char → Option (List Char × List Char)
  | 0, _ => none
  | fuel + 1, text => do
      let (next, rest) ← readChar text
      match next with
      | none => return ([], rest)
      | some c => do
          let (chars, rest) ← readChars fuel rest
          return (c :: chars, rest)

def readString (text : List Char) : Option (String × List Char) :=
  (readChars text.length text).map fun read => (String.ofList read.1, read.2)

def readNumber (text : List Char) : Option (Value × List Char) :=
  let lexeme := text.takeWhile isNumberChar
  if shaped : isNumber lexeme = true then some (.number ⟨lexeme, shaped⟩, text.dropWhile isNumberChar) else none

/-- The text behind a character and the blanks before it. -/
def expect (c : Char) (text : List Char) : Option (List Char) :=
  match skipBlank text with
  | first :: rest => if first = c then some rest else none
  | [] => none

mutual

def readValue : Nat → List Char → Option (Value × List Char)
  | 0, _ => none
  | fuel + 1, text =>
      match skipBlank text with
      | 'n' :: 'u' :: 'l' :: 'l' :: rest => some (.null, rest)
      | 't' :: 'r' :: 'u' :: 'e' :: rest => some (.bool true, rest)
      | 'f' :: 'a' :: 'l' :: 's' :: 'e' :: rest => some (.bool false, rest)
      | '"' :: rest => (readString rest).map fun read => (.string read.1, read.2)
      | '[' :: rest =>
          match expect ']' rest with
          | some rest => some (.array [], rest)
          | none => do
              let (item, rest) ← readValue fuel rest
              let (items, rest) ← readItems fuel rest
              return (.array (item :: items), rest)
      | '{' :: rest =>
          match expect '}' rest with
          | some rest => some (.object [], rest)
          | none => do
              let (field, rest) ← readField fuel rest
              let (fields, rest) ← readFields fuel rest
              return (.object (field :: fields), rest)
      | rest => readNumber rest

def readItems : Nat → List Char → Option (List Value × List Char)
  | 0, _ => none
  | fuel + 1, text =>
      match expect ']' text with
      | some rest => some ([], rest)
      | none => do
          let rest ← expect ',' text
          let (item, rest) ← readValue fuel rest
          let (items, rest) ← readItems fuel rest
          return (item :: items, rest)

def readField : Nat → List Char → Option ((String × Value) × List Char)
  | 0, _ => none
  | fuel + 1, text => do
      let rest ← expect '"' text
      let (name, rest) ← readString rest
      let rest ← expect ':' rest
      let (value, rest) ← readValue fuel rest
      return ((name, value), rest)

def readFields : Nat → List Char → Option (List (String × Value) × List Char)
  | 0, _ => none
  | fuel + 1, text =>
      match expect '}' text with
      | some rest => some ([], rest)
      | none => do
          let rest ← expect ',' text
          let (field, rest) ← readField fuel rest
          let (fields, rest) ← readFields fuel rest
          return (field :: fields, rest)

end

/-- The value of a text that is nothing but a value and blanks. -/
def parse (text : List Char) : Option Value := do
  let (value, rest) ← readValue (text.length + 1) text
  if skipBlank rest = [] then return value else none

/-! ### What is printed is read back -/

theorem hexValue_hexDigit : ∀ n < 16, hexValue (hexDigit n) = some n := by decide

theorem readUnit_control {n : Nat} (small : n < 32) (rest : List Char) :
    readUnit ('0' :: '0' :: hexDigit (n / 16) :: hexDigit (n % 16) :: rest) = some (n, rest) := by
  have zero : hexValue '0' = some 0 := by decide
  have high := hexValue_hexDigit (n / 16) (by omega)
  have low := hexValue_hexDigit (n % 16) (by omega)
  simp only [readUnit, zero, high, low, Option.bind_eq_bind, Option.bind_some, Option.pure_def]
  rw [show ((0 * 16 + 0) * 16 + n / 16) * 16 + n % 16 = n by omega]

theorem readUnicode_control {c : Char} (control : c.toNat < 32) (rest : List Char) :
    readUnicode ('0' :: '0' :: hexDigit (c.toNat / 16) :: hexDigit (c.toNat % 16) :: rest) = some (c, rest) := by
  have low : ¬ (0xD800 ≤ c.toNat ∧ c.toNat < 0xDC00) := by omega
  have high : ¬ (0xDC00 ≤ c.toNat ∧ c.toNat < 0xE000) := by omega
  simp only [readUnicode, readUnit_control control, Option.bind_eq_bind, Option.bind_some, if_neg low, if_neg high,
    Option.pure_def, Char.ofNat_toNat]

/-- The first character decides what a string goes on with. -/
theorem readChar_plain {c : Char} (quote : c ≠ '"') (slash : c ≠ '\\') (rest : List Char) :
    readChar (c :: rest) = if c.toNat < 32 then none else some (some c, rest) := by
  unfold readChar
  split
  · cases ‹c :: rest = []›
  · rename_i other same
    exact absurd (List.cons.inj same).1 quote
  · rename_i other same
    exact absurd (List.cons.inj same).1 slash
  · rename_i first other _ _ same
    obtain ⟨rfl, rfl⟩ := List.cons.inj same
    rfl

theorem readChar_escapeChar (c : Char) (rest : List Char) : readChar (escapeChar c ++ rest) = some (some c, rest) := by
  unfold escapeChar
  split_ifs with quote slash backspace feed newline carriage tab control
  · rw [quote]
    rfl
  · rw [slash]
    rfl
  · rw [backspace]
    rfl
  · rw [feed]
    rfl
  · rw [newline]
    rfl
  · rw [carriage]
    rfl
  · rw [tab]
    rfl
  · have escaped := readUnicode_control control rest
    show (readUnicode ('0' :: '0' :: hexDigit (c.toNat / 16) :: hexDigit (c.toNat % 16) :: rest)).map _ = _
    rw [escaped]
    rfl
  · rw [List.singleton_append, readChar_plain quote slash, if_neg control]

theorem readChars_escape (chars rest : List Char) {fuel : Nat} (enough : chars.length < fuel) :
    readChars fuel (chars.flatMap escapeChar ++ '"' :: rest) = some (chars, rest) := by
  induction chars generalizing fuel with
  | nil =>
      obtain ⟨fuel, rfl⟩ := Nat.exists_eq_succ_of_ne_zero (by omega : fuel ≠ 0)
      rfl
  | cons c chars ih =>
      obtain ⟨fuel, rfl⟩ := Nat.exists_eq_succ_of_ne_zero (by omega : fuel ≠ 0)
      have tail : readChars fuel (chars.flatMap escapeChar ++ '"' :: rest) = some (chars, rest) :=
        ih (by simpa using enough)
      rw [readChars, List.flatMap_cons, List.append_assoc, readChar_escapeChar]
      simp only [Option.bind_eq_bind, Option.bind_some, tail, Option.pure_def]

theorem readString_escape (text : String) (rest : List Char) :
    readString (escape text ++ '"' :: rest) = some (text, rest) := by
  have enough : text.toList.length < (escape text ++ '"' :: rest).length := by
    have longer := length_le_flatMap text.toList
    rw [escape, List.length_append, List.length_cons]
    omega
  unfold escape at enough
  simp only [readString, escape, readChars_escape _ _ enough, Option.map_some, String.ofList_toList]

/-- What stands behind a number ends it. -/
def Ended (rest : List Char) : Prop := ∀ c ∈ rest.head?, isNumberChar c = false

theorem readNumber_text (number : Number) {rest : List Char} (ended : Ended rest) :
    readNumber (number.text ++ rest) = some (.number number, rest) := by
  have chars : ∀ c ∈ number.text, isNumberChar c = true := by
    have shaped := number.shaped
    simp only [isNumber, Bool.and_eq_true, List.all_eq_true] at shaped
    exact shaped.1
  have lexeme : (number.text ++ rest).takeWhile isNumberChar = number.text := by
    rw [List.takeWhile_append_of_pos chars]
    cases rest with
    | nil => simp
    | cons c rest => simp [ended c rfl]
  have left : (number.text ++ rest).dropWhile isNumberChar = rest := by
    rw [List.dropWhile_append_of_pos chars]
    cases rest with
    | nil => rfl
    | cons c rest => simp [ended c rfl]
  simp only [readNumber, lexeme, left, number.shaped, dif_pos]

theorem skipBlank_of_not {c : Char} (dark : isBlank c = false) (rest : List Char) :
    skipBlank (c :: rest) = c :: rest := by
  simp [skipBlank, dark]

theorem Number.head (number : Number) : ∃ c tail, number.text = c :: tail ∧ isNumberChar c = true := by
  obtain ⟨text, shaped⟩ := number
  cases text with
  | nil => cases shaped
  | cons c tail =>
      simp only [isNumber, Bool.and_eq_true, List.all_eq_true] at shaped
      exact ⟨c, tail, rfl, shaped.1 c List.mem_cons_self⟩

/-- A value starts with a character that neither is a blank nor closes an array. -/
theorem print_head (value : Value) : ∃ c tail, print value = c :: tail ∧ isBlank c = false ∧ c ≠ ']' := by
  cases value with
  | null => exact ⟨'n', _, rfl, by decide, by decide⟩
  | bool value =>
      cases value with
      | true => exact ⟨'t', _, rfl, by decide, by decide⟩
      | false => exact ⟨'f', _, rfl, by decide, by decide⟩
  | number number =>
      obtain ⟨c, tail, text, numeric⟩ := number.head
      refine ⟨c, tail, text, ?_, ?_⟩
      · by_contra blank
        simp only [isBlank, Bool.not_eq_false, Bool.or_eq_true, beq_iff_eq] at blank
        rcases blank with ((rfl | rfl) | rfl) | rfl <;> cases numeric
      · rintro rfl
        cases numeric
  | string text => exact ⟨'"', _, rfl, by decide, by decide⟩
  | array items =>
      cases items with
      | nil => exact ⟨'[', _, rfl, by decide, by decide⟩
      | cons item items => exact ⟨'[', _, rfl, by decide, by decide⟩
  | object fields =>
      cases fields with
      | nil => exact ⟨'{', _, rfl, by decide, by decide⟩
      | cons field fields => exact ⟨'{', _, rfl, by decide, by decide⟩

theorem readValue_number (number : Number) {rest : List Char} (ended : Ended rest) (fuel : Nat) :
    readValue (fuel + 1) (number.text ++ rest) = some (.number number, rest) := by
  obtain ⟨c, tail, text, numeric⟩ := number.head
  obtain ⟨first, _, start, dark, _⟩ := print_head (.number number)
  have same : first = c := (List.cons.inj (start.symm.trans text)).1
  have skipped : skipBlank (number.text ++ rest) = number.text ++ rest := by
    rw [text, List.cons_append, skipBlank_of_not (same ▸ dark)]
  rw [readValue, skipped]
  split
  all_goals first
    | exact readNumber_text number ended
    | (rename_i spelled
       rw [text] at spelled
       obtain ⟨rfl, -⟩ := List.cons.inj spelled
       cases numeric)

theorem ended_comma (rest : List Char) : Ended (',' :: rest) := by
  intro c first
  obtain rfl : ',' = c := Option.some.inj first
  rfl

theorem ended_printItems (items : List Value) (rest : List Char) : Ended (printItems escape items ++ rest) := by
  cases items with
  | nil =>
      intro c first
      obtain rfl : ']' = c := Option.some.inj first
      rfl
  | cons item items => exact ended_comma _

theorem ended_printFields (fields : List (String × Value)) (rest : List Char) :
    Ended (printFields escape fields ++ rest) := by
  cases fields with
  | nil =>
      intro c first
      obtain rfl : '}' = c := Option.some.inj first
      rfl
  | cons field fields => exact ended_comma _

theorem expect_of_ne {first c : Char} (dark : isBlank first = false) (other : first ≠ c) (rest : List Char) :
    expect c (first :: rest) = none := by
  simp [expect, skipBlank_of_not dark, other]

theorem readField_print {name : String} {value : Value} {fuel : Nat} {rest : List Char}
    (read : readValue fuel (print value ++ rest) = some (value, rest)) :
    readField (fuel + 1) ('"' :: (escape name ++ '"' :: ':' :: (print value ++ rest))) = some ((name, value), rest) := by
  have quote : ∀ text, expect '"' ('"' :: text) = some text := fun _ => rfl
  have colon : ∀ text, expect ':' (':' :: text) = some text := fun _ => rfl
  simp only [readField, quote, colon, readString_escape, read, Option.bind_eq_bind, Option.bind_some, Option.pure_def]

mutual

theorem readValue_print (value : Value) {fuel : Nat} {rest : List Char} (enough : (print value).length ≤ fuel)
    (ended : Ended rest) : readValue fuel (print value ++ rest) = some (value, rest) := by
  obtain ⟨fuel, rfl⟩ : ∃ less, fuel = less + 1 := by
    obtain ⟨c, tail, text, -⟩ := print_head value
    rw [text] at enough
    exact ⟨fuel - 1, by simp only [List.length_cons] at enough; omega⟩
  match value with
  | .null => rfl
  | .bool true => rfl
  | .bool false => rfl
  | .number number => exact readValue_number number ended fuel
  | .string text =>
      show (readString (escape text ++ ['"'] ++ rest)).map _ = _
      rw [List.append_assoc, List.singleton_append, readString_escape]
      rfl
  | .array [] => rfl
  | .array (item :: items) =>
      simp only [print, printWith, List.length_cons, List.length_append] at enough
      have first := @readValue_print item fuel (printItems escape items ++ rest) (by unfold print; omega)
        (ended_printItems items rest)
      have others := @readItems_print items fuel rest (by omega)
      have opened : expect ']' (print item ++ (printItems escape items ++ rest)) = none := by
        obtain ⟨c, tail, text, dark, other⟩ := print_head item
        rw [text, List.cons_append, expect_of_ne dark other]
      have text : print (.array (item :: items)) ++ rest =
          '[' :: (print item ++ (printItems escape items ++ rest)) := by
        simp [print, printWith]
      rw [text, readValue, skipBlank_of_not (by decide)]
      simp only [opened, first, others, Option.bind_eq_bind, Option.bind_some, Option.pure_def]
  | .object [] => rfl
  | .object ((name, value) :: fields) =>
      simp only [print, printWith, List.length_cons, List.length_append] at enough
      obtain ⟨less, rfl⟩ : ∃ less, fuel = less + 1 := ⟨fuel - 1, by omega⟩
      have first := @readValue_print value less (printFields escape fields ++ rest) (by unfold print; omega)
        (ended_printFields fields rest)
      have others := @readFields_print fields (less + 1) rest (by omega)
      have text : print (.object ((name, value) :: fields)) ++ rest =
          '{' :: '"' :: (escape name ++ '"' :: ':' :: (print value ++ (printFields escape fields ++ rest))) := by
        simp [print, printWith]
      rw [text, readValue, skipBlank_of_not (by decide)]
      simp only [expect_of_ne (show isBlank '"' = false by decide) (show '"' ≠ '}' by decide), readField_print first,
        others, Option.bind_eq_bind, Option.bind_some, Option.pure_def]

theorem readItems_print (items : List Value) {fuel : Nat} {rest : List Char}
    (enough : (printItems escape items).length ≤ fuel) :
    readItems fuel (printItems escape items ++ rest) = some (items, rest) := by
  obtain ⟨fuel, rfl⟩ : ∃ less, fuel = less + 1 := by
    cases items <;> exact ⟨fuel - 1, by simp only [printItems, List.length_cons] at enough; omega⟩
  match items with
  | [] => rfl
  | item :: items =>
      simp only [printItems, List.length_cons, List.length_append] at enough
      have first := @readValue_print item fuel (printItems escape items ++ rest) (by unfold print; omega)
        (ended_printItems items rest)
      have others := @readItems_print items fuel rest (by omega)
      have text : printItems escape (item :: items) ++ rest =
          ',' :: (print item ++ (printItems escape items ++ rest)) := by
        simp [print, printItems]
      have comma : expect ',' (',' :: (print item ++ (printItems escape items ++ rest))) =
          some (print item ++ (printItems escape items ++ rest)) := rfl
      rw [text, readItems, expect_of_ne (by decide) (by decide)]
      simp only [comma, first, others, Option.bind_eq_bind, Option.bind_some, Option.pure_def]

theorem readFields_print (fields : List (String × Value)) {fuel : Nat} {rest : List Char}
    (enough : (printFields escape fields).length ≤ fuel) :
    readFields fuel (printFields escape fields ++ rest) = some (fields, rest) := by
  obtain ⟨fuel, rfl⟩ : ∃ less, fuel = less + 1 := by
    cases fields <;> exact ⟨fuel - 1, by simp only [printFields, List.length_cons] at enough; omega⟩
  match fields with
  | [] => rfl
  | (name, value) :: fields =>
      simp only [printFields, List.length_cons, List.length_append] at enough
      obtain ⟨less, rfl⟩ : ∃ less, fuel = less + 1 := ⟨fuel - 1, by omega⟩
      have first := @readValue_print value less (printFields escape fields ++ rest) (by unfold print; omega)
        (ended_printFields fields rest)
      have others := @readFields_print fields (less + 1) rest (by omega)
      have text : printFields escape ((name, value) :: fields) ++ rest =
          ',' :: '"' :: (escape name ++ '"' :: ':' :: (print value ++ (printFields escape fields ++ rest))) := by
        simp [print, printFields]
      have comma : ∀ text, expect ',' (',' :: text) = some text := fun _ => rfl
      rw [text, readFields, expect_of_ne (by decide) (by decide)]
      simp only [comma, readField_print first, others, Option.bind_eq_bind, Option.bind_some, Option.pure_def]

end

/-- What is printed is a text of the value. -/
theorem parse_print (value : Value) : parse (print value) = some value := by
  have read := @readValue_print value ((print value).length + 1) [] (by omega) (fun c none_ => by cases none_)
  rw [List.append_nil] at read
  simp only [parse, read, Option.bind_eq_bind, Option.bind_some]
  rfl

/-! ### The letters u of a text -/

theorem letters_skipBlank (text : List Char) : letters (skipBlank text) ≤ letters text :=
  letters_suffix (List.dropWhile_suffix isBlank)

theorem readUnit_suffix {text rest : List Char} {unit : Nat} (read : readUnit text = some (unit, rest)) :
    rest <:+ text := by
  unfold readUnit at read
  split at read
  · simp only [Option.bind_eq_bind, Option.bind_eq_some_iff, Option.pure_def, Option.some.injEq, Prod.mk.injEq] at read
    obtain ⟨_, _, _, _, _, _, _, _, _, rfl⟩ := read
    exact ⟨[_, _, _, _], rfl⟩
  · cases read

theorem readUnicode_suffix {text rest : List Char} {c : Char} (read : readUnicode text = some (c, rest)) :
    rest <:+ text := by
  obtain ⟨⟨unit, behind⟩, first, read⟩ := Option.bind_eq_some_iff.mp read
  have start := readUnit_suffix first
  simp only at read
  split_ifs at read
  · split at read
    · obtain ⟨⟨low, last⟩, second, read⟩ := Option.bind_eq_some_iff.mp read
      have tail := readUnit_suffix second
      simp only at read
      split_ifs at read
      obtain rfl : last = rest := congrArg Prod.snd (Option.some.inj read)
      exact (tail.trans ⟨['\\', 'u'], rfl⟩).trans start
    · cases read
  · obtain rfl : behind = rest := congrArg Prod.snd (Option.some.inj read)
    exact start

theorem letters_readEscape {text rest : List Char} {c : Char} (read : readEscape text = some (c, rest)) :
    letters (escapeChar c) + letters rest ≤ letters text := by
  unfold readEscape at read
  split at read
  case h_9 =>
    have suffix := letters_suffix (readUnicode_suffix read)
    have one := letters_escapeChar_le c
    simp only [letters_cons, if_true]
    omega
  case h_10 => cases read
  all_goals
    cases read
    simp only [letters_cons]
    exact Nat.le_of_eq (by simp [letters, escapeChar])

theorem letters_readChar {text rest : List Char} {next : Option Char} (read : readChar text = some (next, rest)) :
    letters (next.toList.flatMap escapeChar) + letters rest ≤ letters text := by
  cases text with
  | nil => cases read
  | cons first behind =>
      by_cases quote : first = '"'
      · subst quote
        cases read
        simp [letters_cons]
      · by_cases slash : first = '\\'
        · subst slash
          obtain ⟨⟨c, last⟩, escaped, same⟩ := Option.map_eq_some_iff.mp read
          cases same
          have fewer := letters_readEscape escaped
          simpa [letters_cons] using fewer
        · rw [readChar_plain quote slash] at read
          split_ifs at read with control
          cases read
          rw [Option.toList_some, List.flatMap_singleton, escapeChar_plain quote slash control, ← letters_append,
            List.singleton_append]

theorem letters_readChars {fuel : Nat} {text chars rest : List Char} (read : readChars fuel text = some (chars, rest)) :
    letters (chars.flatMap escapeChar) + letters rest ≤ letters text := by
  induction fuel generalizing text chars with
  | zero => cases read
  | succ fuel ih =>
      obtain ⟨⟨next, behind⟩, first, read⟩ := Option.bind_eq_some_iff.mp read
      have start := letters_readChar first
      cases next with
      | none =>
          cases read
          exact start
      | some c =>
          obtain ⟨⟨others, last⟩, further, same⟩ := Option.bind_eq_some_iff.mp read
          cases same
          have tail := ih further
          simp only [Option.toList_some, List.flatMap_singleton] at start
          rw [List.flatMap_cons, letters_append]
          omega

theorem letters_readString {text rest : List Char} {value : String} (read : readString text = some (value, rest)) :
    letters (escape value) + letters rest ≤ letters text := by
  obtain ⟨⟨chars, last⟩, further, same⟩ := Option.map_eq_some_iff.mp read
  cases same
  simpa [escape] using letters_readChars further

theorem letters_readNumber {text rest : List Char} {value : Value} (read : readNumber text = some (value, rest)) :
    letters (print value) + letters rest ≤ letters text := by
  simp only [readNumber] at read
  split at read
  · cases read
    show letters (text.takeWhile isNumberChar) + letters (text.dropWhile isNumberChar) ≤ _
    rw [← letters_append, List.takeWhile_append_dropWhile]
  · cases read

theorem letters_expect {c : Char} {text rest : List Char} (read : expect c text = some rest) :
    letters rest ≤ letters text := by
  have skipped := letters_skipBlank text
  unfold expect at read
  split at read
  · rename_i first behind start
    split_ifs at read
    cases read
    rw [start, letters_cons] at skipped
    omega
  · cases read

/-- What one call of the parser leaves of the letters, with so much fuel. -/
structure Frugal (fuel : Nat) : Prop where
  value : ∀ {text value rest}, readValue fuel text = some (value, rest) →
    letters (print value) + letters rest ≤ letters text
  items : ∀ {text items rest}, readItems fuel text = some (items, rest) →
    letters (printItems escape items) + letters rest ≤ letters text
  field : ∀ {text name value rest}, readField fuel text = some ((name, value), rest) →
    letters (escape name) + letters (print value) + letters rest ≤ letters text
  fields : ∀ {text fields rest}, readFields fuel text = some (fields, rest) →
    letters (printFields escape fields) + letters rest ≤ letters text

theorem frugal (fuel : Nat) : Frugal fuel := by
  induction fuel with
  | zero =>
      constructor
      all_goals
        intros
        rename_i read
        cases read
  | succ fuel ih =>
      constructor
      · intro text value rest read
        have skipped := letters_skipBlank text
        rw [readValue] at read
        split at read
        · rename_i behind start
          cases read
          rw [start] at skipped
          simp [letters_cons, print, printWith] at skipped ⊢
          omega
        · rename_i behind start
          cases read
          rw [start] at skipped
          simp [letters_cons, print, printWith] at skipped ⊢
          omega
        · rename_i behind start
          cases read
          rw [start] at skipped
          simpa [letters_cons, print, printWith] using skipped
        · rename_i behind start
          obtain ⟨⟨content, last⟩, inside, same⟩ := Option.map_eq_some_iff.mp read
          cases same
          have fewer := letters_readString inside
          rw [start] at skipped
          simp [letters_cons, print, printWith] at skipped ⊢
          omega
        · rename_i behind start
          rw [start] at skipped
          split at read
          · rename_i closed
            cases read
            have fewer := letters_expect closed
            simp [letters_cons, print, printWith] at skipped ⊢
            omega
          · obtain ⟨⟨item, between⟩, first, read⟩ := Option.bind_eq_some_iff.mp read
            obtain ⟨⟨items, last⟩, further, same⟩ := Option.bind_eq_some_iff.mp read
            cases same
            have head := ih.value first
            have tail := ih.items further
            simp [letters_cons, print, printWith] at skipped head ⊢
            omega
        · rename_i behind start
          rw [start] at skipped
          split at read
          · rename_i closed
            cases read
            have fewer := letters_expect closed
            simp [letters_cons, print, printWith] at skipped ⊢
            omega
          · obtain ⟨⟨⟨name, content⟩, between⟩, first, read⟩ := Option.bind_eq_some_iff.mp read
            obtain ⟨⟨fields, last⟩, further, same⟩ := Option.bind_eq_some_iff.mp read
            cases same
            have head := ih.field first
            have tail := ih.fields further
            simp [letters_cons, print, printWith] at skipped head ⊢
            omega
        · exact (letters_readNumber read).trans skipped
      · intro text items rest read
        rw [readItems] at read
        split at read
        · rename_i behind closed
          cases read
          simpa [printItems, letters_cons] using letters_expect closed
        · obtain ⟨behind, comma, read⟩ := Option.bind_eq_some_iff.mp read
          obtain ⟨⟨item, between⟩, first, read⟩ := Option.bind_eq_some_iff.mp read
          obtain ⟨⟨others, last⟩, further, same⟩ := Option.bind_eq_some_iff.mp read
          cases same
          have start := letters_expect comma
          have head := ih.value first
          have tail := ih.items further
          unfold print at head
          simp only [printItems, letters_cons, letters_append, Char.reduceEq, if_false]
          omega
      · intro text name value rest read
        obtain ⟨opened, quote, read⟩ := Option.bind_eq_some_iff.mp read
        obtain ⟨⟨content, between⟩, inside, read⟩ := Option.bind_eq_some_iff.mp read
        obtain ⟨behind, colon, read⟩ := Option.bind_eq_some_iff.mp read
        obtain ⟨⟨other, last⟩, further, same⟩ := Option.bind_eq_some_iff.mp read
        cases same
        have start := letters_expect quote
        have named := letters_readString inside
        have middle := letters_expect colon
        have tail := ih.value further
        omega
      · intro text fields rest read
        rw [readFields] at read
        split at read
        · rename_i behind closed
          cases read
          simpa [printFields, letters_cons] using letters_expect closed
        · obtain ⟨behind, comma, read⟩ := Option.bind_eq_some_iff.mp read
          obtain ⟨⟨⟨name, content⟩, between⟩, first, read⟩ := Option.bind_eq_some_iff.mp read
          obtain ⟨⟨others, last⟩, further, same⟩ := Option.bind_eq_some_iff.mp read
          cases same
          have start := letters_expect comma
          have head := ih.field first
          have tail := ih.fields further
          unfold print at head
          simp only [printFields, letters_cons, letters_append, Char.reduceEq, if_false]
          omega

/-- No text of a value has fewer letters u than the compact one. -/
theorem letters_print_le {text : List Char} {value : Value} (read : parse text = some value) :
    letters (print value) ≤ letters text := by
  obtain ⟨⟨other, rest⟩, found, same⟩ := Option.bind_eq_some_iff.mp read
  have fewer := (frugal _).value found
  simp only at same
  split_ifs at same
  cases same
  omega

end Json
