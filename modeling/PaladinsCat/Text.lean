import Mathlib

/-!
The string operations of the Rust standard library that the modelled code uses.
They work on the list of characters, so that a concrete call evaluates.
-/

namespace Text

/-- `char::is_whitespace`: the Unicode `White_Space` property. -/
def isWhitespace (c : Char) : Bool :=
  (9 ≤ c.toNat && c.toNat ≤ 13) || c.toNat == 0x20 || c.toNat == 0x85 || c.toNat == 0xA0 ||
    c.toNat == 0x1680 || (0x2000 ≤ c.toNat && c.toNat ≤ 0x200A) || c.toNat == 0x2028 ||
    c.toNat == 0x2029 || c.toNat == 0x202F || c.toNat == 0x205F || c.toNat == 0x3000

def trim (text : String) : String :=
  String.ofList
    (((text.toList.dropWhile isWhitespace).reverse.dropWhile isWhitespace).reverse)

def split (separator : Char) (text : String) : List String :=
  (text.toList.splitOn separator).map String.ofList

def contains (text pattern : String) : Bool :=
  text.toList.tails.any fun rest => pattern.toList.isPrefixOf rest

/-- The lower case of one character. Only three kinds of characters have an
ASCII character in their lower case: the ASCII capitals, the Kelvin sign and the
capital I with a dot. All others are left as they are: `str::to_lowercase` maps
them to non-ASCII characters too, and its result is only searched for ASCII. -/
def lowerChar (c : Char) : List Char :=
  if 65 ≤ c.toNat && c.toNat ≤ 90 then [Char.ofNat (c.toNat + 32)]
  else if c.toNat == 0x212A then ['k']
  else if c.toNat == 0x130 then ['i', Char.ofNat 0x307]
  else [c]

/-- `str::to_lowercase`, as far as a search for ASCII patterns can tell. -/
def toLowercase (text : String) : String := String.ofList (text.toList.flatMap lowerChar)

def asciiLower (c : Char) : Char :=
  if 65 ≤ c.toNat && c.toNat ≤ 90 then Char.ofNat (c.toNat + 32) else c

def toAsciiLowercase (text : String) : String := String.ofList (text.toList.map asciiLower)

def eqIgnoreAsciiCase (left right : String) : Bool :=
  left.toList.map asciiLower == right.toList.map asciiLower

/-- `str::replace` of any of the given characters by the empty string. -/
def removeChars (chars : List Char) (text : String) : String :=
  String.ofList (text.toList.filter fun c => !chars.contains c)

/-- `str::strip_prefix` with a character, or the text itself. -/
def stripPrefixOrSelf (first : Char) (text : String) : String :=
  match text.toList with
  | c :: rest => if c == first then String.ofList rest else text
  | [] => text

/-- The value of a list of decimal digits; `none` on any other character. -/
def digitsValue : List Char → Nat → Option Nat
  | [], value => some value
  | c :: rest, value => if c.isDigit then digitsValue rest (10 * value + (c.toNat - 48)) else none

/-- `str::parse` for an unsigned integer type with the given maximum: an optional
plus sign and at least one digit, with no overflow. -/
def parseUnsigned (maximum : Nat) (text : String) : Option Nat :=
  let digits := match text.toList with
    | '+' :: rest => rest
    | other => other
  if digits.isEmpty then none
  else (digitsValue digits 0).filter (· ≤ maximum)

/-- `str::parse` for a signed integer type: an optional sign and at least one digit. -/
def parseSigned (minimum maximum : Int) (text : String) : Option Int :=
  let (negative, digits) := match text.toList with
    | '+' :: rest => (false, rest)
    | '-' :: rest => (true, rest)
    | other => (false, other)
  if digits.isEmpty then none
  else ((digitsValue digits 0).map fun value => if negative then -(value : Int) else value).filter
    fun value => decide (minimum ≤ value) && decide (value ≤ maximum)

/-! ### Decimal texts -/

theorem digitsValue_digits {digits : List Char} (decimal : ∀ c ∈ digits, c.isDigit = true) (value : Nat) :
    digitsValue digits value = some (Nat.ofDigitChars 10 digits value) := by
  induction digits generalizing value with
  | nil => simp [digitsValue]
  | cons c rest ih =>
      rw [digitsValue, if_pos (decimal c List.mem_cons_self), Nat.ofDigitChars_cons]
      exact ih (fun other member => decimal other (List.mem_cons_of_mem c member)) _

theorem toString_digits (number : Nat) : ∀ c ∈ (toString number).toList, c.isDigit = true := by
  rw [Nat.toString_eq_repr, Nat.toList_repr]
  exact fun c member => Nat.isDigit_of_mem_toDigits (by omega) le_rfl member

theorem digitsValue_toString (number : Nat) : digitsValue (toString number).toList 0 = some number := by
  rw [digitsValue_digits (toString_digits number), Nat.toString_eq_repr, Nat.toList_repr, Nat.ofDigitChars_ten_toDigits]

theorem toString_ne_nil (number : Nat) : (toString number).toList ≠ [] := by
  rw [Nat.toString_eq_repr, Nat.toList_repr]
  exact Nat.toDigits_ne_nil

/-- A text of digits only has no sign and no blank around it. -/
theorem parseSigned_digits {minimum maximum : Int} {text : String} (decimal : ∀ c ∈ text.toList, c.isDigit = true)
    (some_ : text.toList ≠ []) :
    parseSigned minimum maximum text = ((digitsValue text.toList 0).map fun value => (value : Int)).filter
      fun value => decide (minimum ≤ value) && decide (value ≤ maximum) := by
  unfold parseSigned
  cases digits : text.toList with
  | nil => exact absurd digits some_
  | cons c rest =>
      have numeral : c.isDigit = true := decimal c (by simp [digits])
      have unsigned : c ≠ '+' ∧ c ≠ '-' := by
        constructor <;> rintro rfl <;> cases numeral
      split
      rename_i negative rest_ matched
      split at matched
      · simp_all
      · simp_all
      · cases matched
        rfl

theorem parseUnsigned_digits {maximum : Nat} {text : String} (decimal : ∀ c ∈ text.toList, c.isDigit = true)
    (some_ : text.toList ≠ []) :
    parseUnsigned maximum text = (digitsValue text.toList 0).filter fun value => decide (value ≤ maximum) := by
  unfold parseUnsigned
  cases digits : text.toList with
  | nil => exact absurd digits some_
  | cons c rest =>
      have numeral : c.isDigit = true := decimal c (by simp [digits])
      have unsigned : c ≠ '+' := by
        rintro rfl
        cases numeral
      simp [unsigned]

theorem parseUnsigned_natural {maximum n : Nat} (fits : n ≤ maximum) :
    parseUnsigned maximum (toString n) = some n := by
  rw [parseUnsigned_digits (toString_digits n) (toString_ne_nil n), digitsValue_toString,
    Option.filter_some, if_pos (by simpa using fits)]

theorem isDigit_not_whitespace {c : Char} (digit : c.isDigit = true) : isWhitespace c = false := by
  simp only [Char.isDigit, Bool.and_eq_true, decide_eq_true_eq, UInt32.le_iff_toNat_le] at digit
  have low : 48 ≤ c.toNat := digit.1
  have high : c.toNat ≤ 57 := digit.2
  simp only [isWhitespace, Bool.or_eq_false_iff, Bool.and_eq_false_iff, decide_eq_false_iff_not, beq_eq_false_iff_ne]
  omega

theorem dropWhile_digits {digits : List Char} (decimal : ∀ c ∈ digits, c.isDigit = true) :
    digits.dropWhile isWhitespace = digits := by
  cases digits with
  | nil => rfl
  | cons c rest => simp [isDigit_not_whitespace (decimal c List.mem_cons_self)]

theorem trim_digits {text : String} (decimal : ∀ c ∈ text.toList, c.isDigit = true) : trim text = text := by
  rw [trim, dropWhile_digits decimal, dropWhile_digits (by simpa using decimal), List.reverse_reverse,
    String.ofList_toList]

end Text
