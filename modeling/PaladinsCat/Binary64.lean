import PaladinsCat.Text

/-!
Double-precision numbers as exact rationals: rounding to the nearest double, the
operations that round once, the saturating conversion to an integer, and the texts
that Rust reads and writes. The sign of a zero is not kept.
-/

inductive Binary64 where
  | finite (value : ℚ)
  | infinite (negative : Bool)
  | nan
  deriving DecidableEq

namespace Binary64

/-! ### Rounding -/

/-- The nearest integer, and of two the even one. -/
def nearestEven (x : ℚ) : ℤ :=
  if Int.fract x < 1 / 2 ∨ (Int.fract x = 1 / 2 ∧ Even ⌊x⌋) then ⌊x⌋ else ⌊x⌋ + 1

/-- The exponent of the last place of the doubles around `x`. -/
def lastPlace (x : ℚ) : ℤ := max (Int.log 2 |x| - 52) (-1074)

/-- The nearest double, as if there were no largest one. -/
def nearest (x : ℚ) : ℚ := nearestEven (x / 2 ^ lastPlace x) * 2 ^ lastPlace x

def ofRat (x : ℚ) : Binary64 :=
  if 2 ^ 1024 ≤ |nearest x| then .infinite (decide (x < 0)) else .finite (nearest x)

@[simp] theorem nearestEven_intCast (n : ℤ) : nearestEven n = n := by
  simp [nearestEven]

/-- A number of at most 53 significant bits is a double. -/
theorem nearest_exact {m e : ℤ} (short : |m| < 2 ^ 53) (low : -1074 ≤ e) : nearest (m * 2 ^ e) = m * 2 ^ e := by
  by_cases zero : m = 0
  · simp [zero, nearest, nearestEven]
  · have positive : 0 < |(m : ℚ) * 2 ^ e| := by positivity
    have below : |(m : ℚ) * 2 ^ e| < (2 : ℕ) ^ (53 + e) := by
      have cast : |(m : ℚ)| < 2 ^ 53 := by exact_mod_cast short
      rw [abs_mul, abs_of_pos (by positivity : (0 : ℚ) < 2 ^ e), Nat.cast_ofNat, zpow_add₀ two_ne_zero]
      exact mul_lt_mul_of_pos_right (by exact_mod_cast cast) (by positivity)
    have place : lastPlace (m * 2 ^ e) ≤ e := by
      have log := (Int.lt_zpow_iff_log_lt one_lt_two positive).mp below
      simp only [lastPlace]
      omega
    have whole : (m : ℚ) * 2 ^ e / 2 ^ lastPlace (m * 2 ^ e) =
        ((m * 2 ^ (e - lastPlace (m * 2 ^ e)).toNat : ℤ) : ℚ) := by
      have split : e = (e - lastPlace (m * 2 ^ e)).toNat + lastPlace (m * 2 ^ e) := by omega
      rw [div_eq_iff (by positivity)]
      push_cast
      rw [mul_assoc, ← zpow_natCast, ← zpow_add₀ two_ne_zero, ← split]
    rw [nearest, whole, nearestEven_intCast, ← whole]
    exact div_mul_cancel₀ _ (by positivity)

theorem ofRat_exact {m e : ℤ} (short : |m| < 2 ^ 53) (low : -1074 ≤ e) (high : e ≤ 971) :
    ofRat (m * 2 ^ e) = .finite (m * 2 ^ e) := by
  have bounded : |(m : ℚ) * 2 ^ e| < 2 ^ 1024 := by
    have cast : |(m : ℚ)| < 2 ^ 53 := by exact_mod_cast short
    have scale : (2 : ℚ) ^ e ≤ 2 ^ (971 : ℤ) := zpow_le_zpow_right₀ one_le_two high
    calc |(m : ℚ) * 2 ^ e| = |(m : ℚ)| * 2 ^ e := by rw [abs_mul, abs_of_pos (by positivity : (0 : ℚ) < 2 ^ e)]
      _ < 2 ^ 53 * 2 ^ e := mul_lt_mul_of_pos_right cast (by positivity)
      _ ≤ 2 ^ 53 * 2 ^ (971 : ℤ) := mul_le_mul_of_nonneg_left scale (by positivity)
      _ = 2 ^ 1024 := by rw [show (971 : ℤ) = (971 : ℕ) from rfl, zpow_natCast, ← pow_add]
  simp only [ofRat, nearest_exact short low, not_le.mpr bounded, if_false]

theorem ofRat_int {n : ℤ} (short : |n| < 2 ^ 53) : ofRat n = .finite n := by
  simpa using @ofRat_exact n 0 short (by norm_num) (by norm_num)

theorem ofRat_half {n : ℤ} (short : |2 * n + 1| < 2 ^ 53) : ofRat (n + 1 / 2) = .finite (n + 1 / 2) := by
  have halves : ((2 * n + 1 : ℤ) : ℚ) * 2 ^ (-1 : ℤ) = n + 1 / 2 := by
    push_cast
    rw [zpow_neg_one]
    ring
  rw [← halves]
  exact ofRat_exact short (by norm_num) (by norm_num)

theorem nearestEven_negative {x : ℚ} (below : x ≤ -1) : nearestEven x < 0 := by
  have floor : ⌊x⌋ ≤ -1 := Int.floor_le_neg_one_iff.mpr (by linarith)
  unfold nearestEven
  split_ifs with down
  · omega
  · have strict : ⌊x⌋ < -1 := by
      by_contra high
      have whole : ⌊x⌋ = -1 := by omega
      apply down
      have fract : Int.fract x = 0 := by
        have upper := Int.floor_le x
        rw [whole] at upper
        rw [Int.fract, whole]
        push_cast at upper ⊢
        linarith
      exact Or.inl (by rw [fract]; norm_num)
    omega

theorem nearestEven_positive {x : ℚ} (above : 1 ≤ x) : 0 < nearestEven x := by
  have floor : 1 ≤ ⌊x⌋ := Int.le_floor.mpr (by exact_mod_cast above)
  unfold nearestEven
  split_ifs
  · omega
  · omega

/-- The last place of a number from 1 on is no larger than the number. -/
theorem lastPlace_le {x : ℚ} (one : 1 ≤ |x|) : (2 : ℚ) ^ lastPlace x ≤ |x| := by
  have log : 0 ≤ Int.log 2 |x| := by
    rw [Int.log_of_one_le_right 2 one]
    omega
  have place : lastPlace x ≤ Int.log 2 |x| := by
    unfold lastPlace
    omega
  calc (2 : ℚ) ^ lastPlace x ≤ 2 ^ Int.log 2 |x| := zpow_le_zpow_right₀ one_le_two place
    _ ≤ |x| := by exact_mod_cast Int.zpow_log_le_self one_lt_two (lt_of_lt_of_le one_pos one)

/-- Numbers up to -1 stay below zero. -/
theorem nearest_negative {x : ℚ} (below : x ≤ -1) : nearest x < 0 := by
  have size : |x| = -x := abs_of_neg (by linarith)
  have lower := @lastPlace_le x (by linarith)
  have scaled : x / 2 ^ lastPlace x ≤ -1 := by
    rw [div_le_iff₀ (by positivity)]
    linarith
  have rounded : (nearestEven (x / 2 ^ lastPlace x) : ℚ) < 0 := by exact_mod_cast nearestEven_negative scaled
  exact mul_neg_of_neg_of_pos rounded (by positivity)

/-- Numbers from 1 on stay above zero. -/
theorem nearest_positive {x : ℚ} (above : 1 ≤ x) : 0 < nearest x := by
  have size : |x| = x := abs_of_pos (by linarith)
  have lower := @lastPlace_le x (by linarith)
  have scaled : 1 ≤ x / 2 ^ lastPlace x := by
    rw [le_div_iff₀ (by positivity)]
    linarith
  have rounded : (0 : ℚ) < nearestEven (x / 2 ^ lastPlace x) := by exact_mod_cast nearestEven_positive scaled
  exact mul_pos rounded (by positivity)

theorem nearestEven_le {x : ℚ} {k : ℤ} (below : x ≤ k) : nearestEven x ≤ k := by
  have floor : ⌊x⌋ ≤ k := Int.floor_le_iff.mpr (lt_of_le_of_lt below (by linarith))
  unfold nearestEven
  split_ifs with down
  · exact floor
  · by_contra high
    have whole : ⌊x⌋ = k := by omega
    have fract : Int.fract x = 0 := by
      have lower := Int.floor_le x
      rw [whole] at lower
      rw [Int.fract, whole]
      linarith
    exact down (.inl (by rw [fract]; norm_num))

/-- A natural number of 63 bits is rounded to an integer of the same range. -/
theorem ofRat_natural {n : Nat} (positive : 0 < n) (bound : n < 2 ^ 63) :
    ∃ m : ℤ, 0 < m ∧ m ≤ 2 ^ 63 ∧ ofRat n = .finite m := by
  have one : (1 : ℚ) ≤ n := by exact_mod_cast positive
  have size : |(n : ℚ)| = n := abs_of_pos (by linarith)
  by_cases short : n < 2 ^ 53
  · exact ⟨n, by omega, by omega, by exact_mod_cast @ofRat_int n (by rw [abs_of_nonneg] <;> omega)⟩
  · have low : (53 : ℤ) ≤ Int.log 2 |(n : ℚ)| := by
      rw [size, ← Int.zpow_le_iff_le_log one_lt_two (by linarith)]
      exact_mod_cast not_lt.mp short
    have high : Int.log 2 |(n : ℚ)| < 63 := by
      rw [size, ← Int.lt_zpow_iff_log_lt one_lt_two (by linarith)]
      exact_mod_cast bound
    obtain ⟨place, exponent⟩ : ∃ place : ℕ, lastPlace n = place := by
      refine ⟨(lastPlace n).toNat, ?_⟩
      unfold lastPlace
      omega
    have small : place ≤ 63 := by
      unfold lastPlace at exponent
      omega
    have scaled : (n : ℚ) / 2 ^ lastPlace n ≤ ((2 ^ (63 - place) : ℤ) : ℚ) := by
      rw [exponent, zpow_natCast, div_le_iff₀ (by positivity)]
      push_cast
      rw [← pow_add, Nat.sub_add_cancel small]
      exact_mod_cast bound.le
    have rounded : nearest n = ((nearestEven (n / 2 ^ lastPlace n) * 2 ^ place : ℤ) : ℚ) := by
      rw [nearest, exponent]
      push_cast
      rw [zpow_natCast]
    have above : 0 < nearestEven (n / 2 ^ lastPlace n) * 2 ^ place := by
      have nearest := nearest_positive one
      rw [rounded] at nearest
      exact_mod_cast nearest
    have below : nearestEven (n / 2 ^ lastPlace n) * 2 ^ place ≤ 2 ^ 63 := by
      calc nearestEven (n / 2 ^ lastPlace n) * 2 ^ place
          ≤ 2 ^ (63 - place) * 2 ^ place := mul_le_mul_of_nonneg_right (nearestEven_le scaled) (by positivity)
        _ = 2 ^ 63 := by rw [← pow_add, Nat.sub_add_cancel small]
    refine ⟨_, above, below, ?_⟩
    have finite : ¬(2 : ℚ) ^ 1024 ≤ |nearest n| := by
      rw [rounded, abs_of_pos (by exact_mod_cast above), not_le]
      calc ((nearestEven (n / 2 ^ lastPlace n) * 2 ^ place : ℤ) : ℚ)
          ≤ 2 ^ 63 := by exact_mod_cast below
        _ < 2 ^ 1024 := pow_lt_pow_right₀ one_lt_two (by omega)
    rw [ofRat, if_neg finite, rounded]

/-! ### Operations -/

def isFinite : Binary64 → Bool
  | .finite _ => true
  | _ => false

def atLeast (bound : ℚ) : Binary64 → Bool
  | .finite x => decide (bound ≤ x)
  | .infinite negative => !negative
  | .nan => false

def above (bound : ℚ) : Binary64 → Bool
  | .finite x => decide (bound < x)
  | .infinite negative => !negative
  | .nan => false

/-- An operation with a constant that leaves infinities as they are. -/
def lift (f : ℚ → ℚ) : Binary64 → Binary64
  | .finite x => ofRat (f x)
  | other => other

/-- A divisor of zero counts as positive. -/
def div : Binary64 → Binary64 → Binary64
  | .nan, _ | _, .nan | .infinite _, .infinite _ => .nan
  | .infinite negative, .finite y => .infinite (negative != decide (y < 0))
  | .finite _, .infinite _ => .finite 0
  | .finite x, .finite y =>
      if y = 0 then (if x = 0 then .nan else .infinite (decide (x < 0))) else ofRat (x / y)

def floor : Binary64 → Binary64
  | .finite x => .finite ⌊x⌋
  | other => other

def ceil : Binary64 → Binary64
  | .finite x => .finite ⌈x⌉
  | other => other

/-- Halves are rounded away from zero. -/
def round : Binary64 → Binary64
  | .finite x => .finite (if 0 ≤ x then ⌊x + 1 / 2⌋ else ⌈x - 1 / 2⌉)
  | other => other

/-- `as` for an integer type: cut off and saturated, 0 for a NaN. -/
def saturate (minimum maximum : ℤ) : Binary64 → ℤ
  | .finite x => max minimum (min maximum (if 0 ≤ x then ⌊x⌋ else ⌈x⌉))
  | .infinite negative => if negative then minimum else maximum
  | .nan => 0

@[simp] theorem lift_finite (f : ℚ → ℚ) (x : ℚ) : lift f (.finite x) = ofRat (f x) := rfl

theorem saturate_int {minimum maximum n : ℤ} (low : minimum ≤ n) (high : n ≤ maximum) :
    saturate minimum maximum (.finite n) = n := by
  simp only [saturate, Int.floor_intCast, Int.ceil_intCast, ite_self]
  omega

/-- A negative integer becomes a negative double, or the negative infinity. -/
theorem atLeast_negative {n : ℤ} (negative : n < 0) : (ofRat n).atLeast 0 = false := by
  have below : (n : ℚ) ≤ -1 := by exact_mod_cast (by omega : n ≤ -1)
  unfold ofRat
  split_ifs
  · simp [atLeast, negative]
  · simp [atLeast, nearest_negative below]

theorem ofRat_ne_zero {n : ℤ} (nonzero : n ≠ 0) : ofRat n ≠ .finite 0 := by
  have rounded : nearest n ≠ 0 := by
    rcases lt_or_gt_of_ne nonzero with negative | positive
    · exact (nearest_negative (by exact_mod_cast (by omega : n ≤ -1))).ne
    · exact (nearest_positive (by exact_mod_cast (by omega : 1 ≤ n))).ne'
  unfold ofRat
  split_ifs
  · simp
  · simpa using rounded

theorem ofRat_ne_nan (x : ℚ) : ofRat x ≠ .nan := by
  unfold ofRat
  split_ifs <;> simp

/-! ### Texts -/

def naturalOf (digits : List Char) : Option ℕ := if digits = [] then none else Text.digitsValue digits 0

def exponentOf : List Char → Option ℤ
  | [] => some 0
  | _ :: '-' :: digits => (naturalOf digits).map fun value => -value
  | _ :: '+' :: digits => (naturalOf digits).map Int.ofNat
  | _ :: digits => (naturalOf digits).map Int.ofNat

/-- Digits with at most one point between or beside them, and an exponent. -/
def decimal (chars : List Char) : Option ℚ :=
  let number := chars.takeWhile fun c => c != 'e' && c != 'E'
  let whole := number.takeWhile (· != '.')
  let fraction := (number.dropWhile (· != '.')).drop 1
  match naturalOf (whole ++ fraction), exponentOf (chars.dropWhile fun c => c != 'e' && c != 'E') with
  | some digits, some exponent => some (digits * 10 ^ (exponent - fraction.length))
  | _, _ => none

/-- `str::parse::<f64>`. -/
def parse (text : String) : Option Binary64 :=
  let (negative, rest) := match text.toList with
    | '+' :: rest => (false, rest)
    | '-' :: rest => (true, rest)
    | other => (false, other)
  let word := rest.map Text.asciiLower
  if word = "inf".toList ∨ word = "infinity".toList then some (.infinite negative)
  else if word = "nan".toList then some .nan
  else (decimal rest).map fun x => ofRat (if negative then -x else x)

/-- The nearest decimal of so many digits that is read as the double again. -/
def digitsAt (x : ℚ) (count : ℕ) : Option (ℕ × ℤ) :=
  let exponent := Int.log 10 x + 1 - count
  let down := ⌊x / 10 ^ exponent⌋.toNat
  let fits := fun digits : ℕ => decide (nearest (digits * 10 ^ exponent) = x)
  let upper := decide (x / 10 ^ exponent - down ≤ down + 1 - x / 10 ^ exponent)
  if fits down && (upper || !fits (down + 1)) then some (down, exponent)
  else if fits (down + 1) then some (down + 1, exponent) else none

def stripZeros : ℕ → ℕ × ℤ → ℕ × ℤ
  | 0, number => number
  | fuel + 1, (digits, exponent) =>
      if digits % 10 = 0 then stripZeros fuel (digits / 10, exponent + 1) else (digits, exponent)

/-- The shortest decimal of a positive double; seventeen digits always do. -/
def shortest (x : ℚ) : ℕ × ℤ :=
  stripZeros 17 (((List.range 17).findSome? fun count => digitsAt x (count + 1)).getD (0, 0))

/-- The text that serde_json writes for a finite double. -/
def display (x : ℚ) : String :=
  if x = 0 then "0.0"
  else
    let (mantissa, exponent) := shortest |x|
    let digits := (toString mantissa).toList
    let point : ℤ := digits.length + exponent
    (if x < 0 then "-" else "") ++ String.ofList (
      if 0 ≤ exponent ∧ point ≤ 16 then digits ++ List.replicate exponent.toNat '0' ++ ".0".toList
      else if 0 < point ∧ point ≤ 16 then digits.take point.toNat ++ '.' :: digits.drop point.toNat
      else if -5 < point ∧ point ≤ 0 then "0.".toList ++ List.replicate (-point).toNat '0' ++ digits
      else digits.take 1 ++ (if digits.length = 1 then [] else '.' :: digits.drop 1) ++
        'e' :: (toString (point - 1)).toList)

theorem digit_plain {c : Char} (digit : c.isDigit = true) :
    c ≠ 'e' ∧ c ≠ 'E' ∧ c ≠ '.' ∧ c ≠ '+' ∧ c ≠ '-' ∧ c ≠ 'i' ∧ c ≠ 'n' := by
  refine ⟨?_, ?_, ?_, ?_, ?_, ?_, ?_⟩ <;> rintro rfl <;> cases digit

theorem decimal_digits {digits : List Char} (numeral : ∀ c ∈ digits, c.isDigit = true) :
    decimal digits = (naturalOf digits).map fun value => (value : ℚ) := by
  have number : (digits.takeWhile fun c => c != 'e' && c != 'E') = digits :=
    List.takeWhile_eq_self_iff.mpr fun c member => by simp [digit_plain (numeral c member)]
  have whole : digits.takeWhile (· != '.') = digits :=
    List.takeWhile_eq_self_iff.mpr fun c member => by simp [digit_plain (numeral c member)]
  have nothing : (digits.dropWhile fun c => c != 'e' && c != 'E') = [] :=
    List.dropWhile_eq_nil_iff.mpr fun c member => by simp [digit_plain (numeral c member)]
  have fraction : digits.dropWhile (· != '.') = [] :=
    List.dropWhile_eq_nil_iff.mpr fun c member => by simp [digit_plain (numeral c member)]
  simp only [decimal, number, whole, nothing, fraction, List.drop_nil, List.append_nil, exponentOf]
  cases naturalOf digits with
  | none => rfl
  | some value => simp

/-! ### Signed integers -/

theorem digits_of_value {digits : List Char} {start value : ℕ} (valued : Text.digitsValue digits start = some value) :
    ∀ c ∈ digits, c.isDigit = true := by
  induction digits generalizing start with
  | nil => simp
  | cons c rest ih =>
      rw [Text.digitsValue] at valued
      split_ifs at valued with digit
      intro other member
      rcases List.mem_cons.mp member with rfl | later
      · exact digit
      · exact ih valued other later

/-- A text of a sign and digits. -/
inductive Signed : List Char → Bool → List Char → Prop where
  | plus (digits : List Char) : Signed ('+' :: digits) false digits
  | minus (digits : List Char) : Signed ('-' :: digits) true digits
  | plain {c : Char} {rest : List Char} (digit : c.isDigit = true) : Signed (c :: rest) false (c :: rest)

theorem signed_of_parsed {minimum maximum number : ℤ} {text : String}
    (parsed : Text.parseSigned minimum maximum text = some number) :
    ∃ negative digits value, Signed text.toList negative digits ∧ digits ≠ [] ∧
      Text.digitsValue digits 0 = some value ∧ number = (if negative then -(value : ℤ) else value) ∧
        minimum ≤ number ∧ number ≤ maximum := by
  unfold Text.parseSigned at parsed
  split at parsed
  rename_i negative digits matched
  split at parsed
  · cases parsed
  rename_i none_
  obtain ⟨valued, bounds⟩ := Option.filter_eq_some_iff.mp parsed
  obtain ⟨lifted, cast, rfl⟩ := Option.map_eq_some_iff.mp valued
  obtain ⟨value, found, same⟩ := Option.bind_eq_some_iff.mp cast
  cases same
  simp only [Bool.and_eq_true, decide_eq_true_eq] at bounds
  have some_ : digits ≠ [] := by simpa using none_
  refine ⟨negative, digits, value, ?_, some_, found, rfl, bounds⟩
  cases chars : text.toList with
  | nil =>
      rw [chars] at matched
      cases matched
      exact absurd rfl some_
  | cons c rest =>
      rw [chars] at matched
      split at matched
      · rename_i spelled
        cases spelled
        cases matched
        exact .plus digits
      · rename_i spelled
        cases spelled
        cases matched
        exact .minus digits
      · cases matched
        exact .plain (digits_of_value found c List.mem_cons_self)

theorem Signed.trimmed {chars digits : List Char} {negative : Bool} (signed : Signed chars negative digits)
    (some_ : digits ≠ []) (numeral : ∀ c ∈ digits, c.isDigit = true) :
    Text.trim (String.ofList chars) = String.ofList chars := by
  have back : (chars.reverse.dropWhile Text.isWhitespace) = chars.reverse := by
    obtain ⟨last, front, split⟩ : ∃ last front, digits.reverse = last :: front :=
      List.exists_cons_of_ne_nil (by simpa using some_)
    have digit : last.isDigit = true := numeral last (List.mem_reverse.mp (by simp [split]))
    cases signed <;> simp_all [Text.isDigit_not_whitespace]
  have front : chars.dropWhile Text.isWhitespace = chars := by
    cases signed with
    | plus | minus => rfl
    | plain digit => simp [Text.isDigit_not_whitespace digit]
  rw [Text.trim, String.toList_ofList, front, back, List.reverse_reverse]

theorem digit_range {c : Char} (digit : c.isDigit = true) : 48 ≤ c.toNat ∧ c.toNat ≤ 57 := by
  simp only [Char.isDigit, Bool.and_eq_true, decide_eq_true_eq, UInt32.le_iff_toNat_le] at digit
  exact digit

/-- Digits are none of the words for infinity and NaN. -/
theorem digits_no_word {digits : List Char} (some_ : digits ≠ []) (numeral : ∀ c ∈ digits, c.isDigit = true) :
    ∀ word ∈ ["inf", "infinity", "nan"], digits.map Text.asciiLower ≠ word.toList := by
  obtain ⟨c, rest, rfl⟩ := List.exists_cons_of_ne_nil some_
  obtain ⟨low, high⟩ := digit_range (numeral c List.mem_cons_self)
  have same : Text.asciiLower c = c := by
    rw [Text.asciiLower, if_neg]
    simp only [Bool.and_eq_true, decide_eq_true_eq]
    omega
  obtain ⟨-, -, -, -, -, notI, notN⟩ := digit_plain (numeral c List.mem_cons_self)
  intro word member clash
  rw [List.map_cons, same] at clash
  simp only [List.mem_cons, List.not_mem_nil, or_false] at member
  rcases member with rfl | rfl | rfl
  · exact notI (List.cons.inj clash).1
  · exact notI (List.cons.inj clash).1
  · exact notN (List.cons.inj clash).1

theorem parse_of_signed {text : String} {negative : Bool} {digits : List Char} {value : ℕ}
    (signed : Signed text.toList negative digits) (some_ : digits ≠ [])
    (valued : Text.digitsValue digits 0 = some value) :
    parse text = some (ofRat (if negative then -(value : ℚ) else value)) := by
  have numeral := digits_of_value valued
  have words := digits_no_word some_ numeral
  have number : decimal digits = some (value : ℚ) := by
    rw [decimal_digits numeral, naturalOf, if_neg some_, valued]
    rfl
  have split : (match text.toList with
      | '+' :: rest => (false, rest)
      | '-' :: rest => (true, rest)
      | other => (false, other)) = (negative, digits) := by
    cases chars : text.toList with
    | nil =>
        rw [chars] at signed
        cases signed
    | cons c rest =>
        rw [chars] at signed
        cases signed with
        | plus | minus => rfl
        | plain digit =>
            obtain ⟨-, -, -, notPlus, notMinus, -⟩ := digit_plain digit
            simp [notPlus, notMinus]
  rw [parse, split]
  simp only
  rw [if_neg, if_neg (words _ (by simp)), number]
  · rfl
  · exact fun word => word.elim (words _ (by simp)) (words _ (by simp))

/-- The text of an integer is read as the double next to it. -/
theorem parse_signed {minimum maximum number : ℤ} {text : String}
    (parsed : Text.parseSigned minimum maximum text = some number) :
    parse text = some (ofRat number) ∧ Text.trim text = text := by
  obtain ⟨negative, digits, value, signed, some_, valued, rfl, -⟩ := signed_of_parsed parsed
  constructor
  · rw [parse_of_signed signed some_ valued]
    cases negative <;> simp
  · simpa using signed.trimmed some_ (digits_of_value valued)

end Binary64
