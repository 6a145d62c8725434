import PaladinsCat.Decimal

/-!
JSON values and their compact texts. A number is kept as its text. What is written for the
strings of a value decides between the texts of two writers; the letters u of a text, which the
escapes and three literals are spelled with, are counted apart from the strings.
-/

namespace Json

/-! ### Numbers -/

def isNumberChar (c : Char) : Bool := c.isDigit || c == '-' || c == '+' || c == '.' || c == 'e' || c == 'E'

def behindDigits : List Char → Option (List Char)
  | c :: rest => if c.isDigit then some (rest.dropWhile Char.isDigit) else none
  | [] => none

def behindWhole : List Char → Option (List Char)
  | '0' :: rest => some rest
  | text => behindDigits text

def behindFraction : List Char → Option (List Char)
  | '.' :: rest => behindDigits rest
  | text => some text

def behindExponent : List Char → Option (List Char)
  | 'e' :: '+' :: rest | 'e' :: '-' :: rest | 'E' :: '+' :: rest | 'E' :: '-' :: rest => behindDigits rest
  | 'e' :: rest | 'E' :: rest => behindDigits rest
  | text => some text

def isNumber (text : List Char) : Bool :=
  let unsigned := if text.head? = some '-' then text.tail else text
  text.all isNumberChar && ((behindWhole unsigned).bind behindFraction).bind behindExponent == some []

structure Number where
  text : List Char
  shaped : isNumber text = true
  deriving DecidableEq

namespace Number

theorem isNumber_toDigits (n : Nat) (front : List Char) (sign : front = [] ∨ front = ['-']) :
    isNumber (front ++ Nat.toDigits 10 n) = true := by
  have digits := Decimal.toDigits_isDigit n
  have shaped : (front ++ Nat.toDigits 10 n).all isNumberChar = true := by
    rw [List.all_append, Bool.and_eq_true]
    constructor
    · rcases sign with rfl | rfl <;> rfl
    · rw [List.all_eq_true]
      intro c member
      simp [isNumberChar, digits c member]
  have whole : behindWhole (Nat.toDigits 10 n) = some [] := by
    rcases Nat.eq_zero_or_pos n with rfl | positive
    · rfl
    · cases text : Nat.toDigits 10 n with
      | nil => exact absurd text Nat.toDigits_ne_nil
      | cons c rest =>
          have first := Decimal.toDigits_head positive
          rw [text] at first digits
          have behind : behindWhole (c :: rest) = behindDigits (c :: rest) := by
            unfold behindWhole
            split
            · rename_i other same
              obtain rfl : c = '0' := (List.cons.inj same).1
              exact absurd rfl first
            · rfl
          have rest_ : rest.dropWhile Char.isDigit = [] :=
            List.dropWhile_eq_nil_iff.mpr fun d member => digits d (List.mem_cons_of_mem c member)
          rw [behind, behindDigits, if_pos (digits c List.mem_cons_self), rest_]
  have unsigned : (if (front ++ Nat.toDigits 10 n).head? = some '-' then (front ++ Nat.toDigits 10 n).tail
      else front ++ Nat.toDigits 10 n) = Nat.toDigits 10 n := by
    rcases sign with rfl | rfl
    · rw [List.nil_append, if_neg]
      intro minus
      exact absurd (digits '-' (List.mem_of_mem_head? minus)) (by decide)
    · rfl
  simp only [isNumber, shaped, unsigned, whole]
  rfl

/-- An integer in decimal digits. -/
def ofInt (n : Int) : Number where
  text := (if n < 0 then ['-'] else []) ++ Nat.toDigits 10 n.natAbs
  shaped := isNumber_toDigits n.natAbs _ (by split <;> simp)

/-- A number without a point and an exponent; minus zero is none. -/
def toInt? (number : Number) : Option Int :=
  let digits := if number.text.head? = some '-' then number.text.tail else number.text
  if digits.all Char.isDigit && number.text != ['-', '0'] then
    some (if number.text.head? = some '-' then -(Decimal.value digits : Int) else Decimal.value digits)
  else none

theorem toInt?_ofInt (n : Int) : (ofInt n).toInt? = some n := by
  have digits := Decimal.toDigits_isDigit n.natAbs
  have all : (Nat.toDigits 10 n.natAbs).all Char.isDigit = true := List.all_eq_true.mpr digits
  by_cases negative : n < 0
  · have text : (ofInt n).text = '-' :: Nat.toDigits 10 n.natAbs := by
      simp only [ofInt, if_pos negative]
      rfl
    have other : ('-' :: Nat.toDigits 10 n.natAbs != ['-', '0']) = true := by
      rw [bne_iff_ne]
      intro same
      have zero := congrArg Decimal.value (List.cons.inj same).2
      rw [Decimal.value_toDigits] at zero
      have : Decimal.value ['0'] = 0 := rfl
      omega
    simp only [toInt?, text, List.head?_cons, if_true, List.tail_cons, all, other, Bool.and_self,
      Decimal.value_toDigits]
    congr 1
    omega
  · have text : (ofInt n).text = Nat.toDigits 10 n.natAbs := by
      simp only [ofInt, if_neg negative]
      rfl
    have plain : (Nat.toDigits 10 n.natAbs).head? ≠ some '-' := by
      intro minus
      exact absurd (digits '-' (List.mem_of_mem_head? minus)) (by decide)
    have other : (Nat.toDigits 10 n.natAbs != ['-', '0']) = true := by
      rw [bne_iff_ne]
      intro same
      exact plain (by rw [same]; rfl)
    simp only [toInt?, text, if_neg plain, all, other, Bool.and_self, if_true, Decimal.value_toDigits]
    congr 1
    omega

end Number

/-! ### Values and their texts -/

inductive Value where
  | null
  | bool (value : Bool)
  | number (value : Number)
  | string (value : String)
  | array (items : List Value)
  | object (fields : List (String × Value))

def hexDigit (n : Nat) : Char := "0123456789abcdef".toList.getD n '0'

/-- A character as it stands in a compact string. -/
def escapeChar (c : Char) : List Char :=
  if c = '"' then ['\\', '"']
  else if c = '\\' then ['\\', '\\']
  else if c = '\x08' then ['\\', 'b']
  else if c = '\x0c' then ['\\', 'f']
  else if c = '\n' then ['\\', 'n']
  else if c = '\r' then ['\\', 'r']
  else if c = '\t' then ['\\', 't']
  else if c.toNat < 32 then ['\\', 'u', '0', '0', hexDigit (c.toNat / 16), hexDigit (c.toNat % 16)]
  else [c]

def escape (text : String) : List Char := text.toList.flatMap escapeChar

section
variable (quote : String → List Char)

mutual

/-- The text of a value without blanks, where `quote` writes what stands between quotes. -/
def printWith : Value → List Char
  | .null => "null".toList
  | .bool value => if value then "true".toList else "false".toList
  | .number value => value.text
  | .string value => '"' :: (quote value ++ ['"'])
  | .array [] => ['[', ']']
  | .array (item :: items) => '[' :: (printWith item ++ printItems items)
  | .object [] => ['{', '}']
  | .object ((name, value) :: fields) =>
      '{' :: '"' :: (quote name ++ '"' :: ':' :: (printWith value ++ printFields fields))

def printItems : List Value → List Char
  | [] => [']']
  | item :: items => ',' :: (printWith item ++ printItems items)

def printFields : List (String × Value) → List Char
  | [] => ['}']
  | (name, value) :: fields =>
      ',' :: '"' :: (quote name ++ '"' :: ':' :: (printWith value ++ printFields fields))

end

end

abbrev print (value : Value) : List Char := printWith escape value

mutual

/-- The strings of a value, its field names among them. -/
def strings : Value → List String
  | .string value => [value]
  | .array items => itemStrings items
  | .object fields => fieldStrings fields
  | _ => []

def itemStrings : List Value → List String
  | [] => []
  | item :: items => strings item ++ itemStrings items

def fieldStrings : List (String × Value) → List String
  | [] => []
  | (name, value) :: fields => name :: (strings value ++ fieldStrings fields)

end

mutual

def mapStrings (f : String → String) : Value → Value
  | .string value => .string (f value)
  | .array items => .array (mapItems f items)
  | .object fields => .object (mapFields f fields)
  | other => other

def mapItems (f : String → String) : List Value → List Value
  | [] => []
  | item :: items => mapStrings f item :: mapItems f items

def mapFields (f : String → String) : List (String × Value) → List (String × Value)
  | [] => []
  | (name, value) :: fields => (f name, mapStrings f value) :: mapFields f fields

end

/-! ### Escapes -/

theorem escapeChar_plain {c : Char} (quote : c ≠ '"') (slash : c ≠ '\\') (control : ¬ c.toNat < 32) :
    escapeChar c = [c] := by
  have other : ∀ d : Char, d.toNat < 32 → c ≠ d := by
    rintro d low rfl
    exact control low
  simp only [escapeChar, if_neg quote, if_neg slash, if_neg control, if_neg (other '\x08' (by decide)),
    if_neg (other '\x0c' (by decide)), if_neg (other '\n' (by decide)), if_neg (other '\r' (by decide)),
    if_neg (other '\t' (by decide))]

/-- A character stands for itself or starts an escape. -/
theorem escapeChar_cases (c : Char) : escapeChar c = [c] ∨ ∃ tail, escapeChar c = '\\' :: tail := by
  by_cases quote : c = '"'
  · exact .inr ⟨_, by rw [quote]; rfl⟩
  · by_cases slash : c = '\\'
    · exact .inr ⟨_, by rw [slash]; rfl⟩
    · by_cases control : c.toNat < 32
      · right
        simp only [escapeChar, if_neg quote, if_neg slash, if_pos control]
        split_ifs <;> exact ⟨_, rfl⟩
      · exact .inl (escapeChar_plain quote slash control)

theorem escapeChar_ne_nil (c : Char) : escapeChar c ≠ [] := by
  unfold escapeChar
  split_ifs <;> simp

theorem length_le_flatMap (chars : List Char) : chars.length ≤ (chars.flatMap escapeChar).length := by
  induction chars with
  | nil => exact Nat.le_refl 0
  | cons c chars ih =>
      have positive := List.length_pos_iff.mpr (escapeChar_ne_nil c)
      rw [List.flatMap_cons, List.length_append, List.length_cons]
      omega

/-! ### Strings of a text -/

section
variable {one two : String → List Char}

mutual

/-- Only what is written for the strings of a value counts. -/
theorem printWith_congr (value : Value) (same : ∀ text ∈ strings value, one text = two text) :
    printWith one value = printWith two value := by
  match value with
  | .null => rfl
  | .bool _ => rfl
  | .number _ => rfl
  | .string text => simp only [printWith, same text (by simp [strings])]
  | .array [] => rfl
  | .array (item :: items) =>
      simp only [strings, itemStrings, List.mem_append] at same
      simp only [printWith, printWith_congr item fun text inside => same text (.inl inside),
        printItems_congr items fun text inside => same text (.inr inside)]
  | .object [] => rfl
  | .object ((name, value) :: fields) =>
      simp only [strings, fieldStrings, List.mem_cons, List.mem_append] at same
      simp only [printWith, same name (.inl rfl), printWith_congr value fun text inside => same text (.inr (.inl inside)),
        printFields_congr fields fun text inside => same text (.inr (.inr inside))]

theorem printItems_congr (items : List Value) (same : ∀ text ∈ itemStrings items, one text = two text) :
    printItems one items = printItems two items := by
  match items with
  | [] => rfl
  | item :: items =>
      simp only [itemStrings, List.mem_append] at same
      simp only [printItems, printWith_congr item fun text inside => same text (.inl inside),
        printItems_congr items fun text inside => same text (.inr inside)]

theorem printFields_congr (fields : List (String × Value)) (same : ∀ text ∈ fieldStrings fields, one text = two text) :
    printFields one fields = printFields two fields := by
  match fields with
  | [] => rfl
  | (name, value) :: fields =>
      simp only [fieldStrings, List.mem_cons, List.mem_append] at same
      simp only [printFields, same name (.inl rfl),
        printWith_congr value fun text inside => same text (.inr (.inl inside)),
        printFields_congr fields fun text inside => same text (.inr (.inr inside))]

end

mutual

theorem printWith_mapStrings (f : String → String) (value : Value) :
    printWith one (mapStrings f value) = printWith (fun text => one (f text)) value := by
  match value with
  | .null => rfl
  | .bool _ => rfl
  | .number _ => rfl
  | .string text => rfl
  | .array [] => rfl
  | .array (item :: items) =>
      simp only [mapStrings, mapItems, printWith, printWith_mapStrings f item, printItems_mapItems f items]
  | .object [] => rfl
  | .object ((name, value) :: fields) =>
      simp only [mapStrings, mapFields, printWith, printWith_mapStrings f value, printFields_mapFields f fields]

theorem printItems_mapItems (f : String → String) (items : List Value) :
    printItems one (mapItems f items) = printItems (fun text => one (f text)) items := by
  match items with
  | [] => rfl
  | item :: items => simp only [mapItems, printItems, printWith_mapStrings f item, printItems_mapItems f items]

theorem printFields_mapFields (f : String → String) (fields : List (String × Value)) :
    printFields one (mapFields f fields) = printFields (fun text => one (f text)) fields := by
  match fields with
  | [] => rfl
  | (name, value) :: fields =>
      simp only [mapFields, printFields, printWith_mapStrings f value, printFields_mapFields f fields]

end

end

/-! ### The letters u of a text

An escape that is not needed is spelled with a letter u, and so are the literals that have one.
-/

def letters (text : List Char) : Nat := text.count 'u'

@[simp] theorem letters_nil : letters [] = 0 := rfl

@[simp] theorem letters_append (left right : List Char) : letters (left ++ right) = letters left + letters right :=
  List.count_append

theorem letters_cons (c : Char) (rest : List Char) : letters (c :: rest) = letters rest + if c = 'u' then 1 else 0 := by
  simp [letters, List.count_cons]

section
variable (quote : String → List Char)

mutual

/-- The letters of a text are those of its strings and those of the rest. -/
theorem letters_printWith (value : Value) : letters (printWith quote value) =
    letters (printWith (fun _ => []) value) + ((strings value).map fun text => letters (quote text)).sum := by
  match value with
  | .null => rfl
  | .bool _ => rfl
  | .number _ => rfl
  | .string text => simp [printWith, strings, letters_cons]
  | .array [] => rfl
  | .array (item :: items) =>
      simp only [printWith, strings, itemStrings, letters_cons, letters_append, letters_printWith item,
        letters_printItems items, List.map_append, List.sum_append]
      omega
  | .object [] => rfl
  | .object ((name, value) :: fields) =>
      simp only [printWith, strings, fieldStrings, letters_cons, letters_append, letters_printWith value,
        letters_printFields fields, List.map_cons, List.map_append, List.sum_cons, List.sum_append, letters_nil]
      omega

theorem letters_printItems (items : List Value) : letters (printItems quote items) =
    letters (printItems (fun _ => []) items) + ((itemStrings items).map fun text => letters (quote text)).sum := by
  match items with
  | [] => rfl
  | item :: items =>
      simp only [printItems, itemStrings, letters_cons, letters_append, letters_printWith item,
        letters_printItems items, List.map_append, List.sum_append]
      omega

theorem letters_printFields (fields : List (String × Value)) : letters (printFields quote fields) =
    letters (printFields (fun _ => []) fields) + ((fieldStrings fields).map fun text => letters (quote text)).sum := by
  match fields with
  | [] => rfl
  | (name, value) :: fields =>
      simp only [printFields, fieldStrings, letters_cons, letters_append, letters_printWith value,
        letters_printFields fields, List.map_cons, List.map_append, List.sum_cons, List.sum_append, letters_nil]
      omega

end

end

theorem letters_suffix {rest text : List Char} (suffix : rest <:+ text) : letters rest ≤ letters text :=
  suffix.sublist.count_le 'u'

theorem hexDigit_ne_u : ∀ n < 16, hexDigit n ≠ 'u' := by decide

theorem letters_escapeChar_le (c : Char) : letters (escapeChar c) ≤ 1 := by
  unfold escapeChar
  split_ifs with _ _ _ _ _ _ _ control
  · decide
  · decide
  · decide
  · decide
  · decide
  · decide
  · decide
  · have high := hexDigit_ne_u (c.toNat / 16) (by omega)
    have low := hexDigit_ne_u (c.toNat % 16) (by omega)
    simp [letters_cons, high, low]
  · simp only [letters_cons, letters_nil]
    split <;> omega

end Json
