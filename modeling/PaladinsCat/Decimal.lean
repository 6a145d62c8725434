import Mathlib

/-!
Positional numerals with the leading digit first: cutting digits off at the end divides, and
digits may be written in groups of a fixed width. The shortest decimal text of a number starts
with a zero for zero only.
-/

namespace Decimal

/-! ### Digits of a base -/

def positional (base : ℕ) (digits : List ℕ) : ℕ := digits.foldl (fun total digit => total * base + digit) 0

theorem positional_foldl (base start : ℕ) (digits : List ℕ) :
    digits.foldl (fun total digit => total * base + digit) start =
      start * base ^ digits.length + positional base digits := by
  induction digits generalizing start with
  | nil => simp [positional]
  | cons digit digits ih =>
      have unfolded : positional base (digit :: digits) =
          digits.foldl (fun total digit => total * base + digit) (0 * base + digit) := rfl
      rw [List.foldl_cons, ih, unfolded, ih (0 * base + digit), List.length_cons, pow_succ]
      ring

theorem positional_append (base : ℕ) (front back : List ℕ) :
    positional base (front ++ back) = positional base front * base ^ back.length + positional base back := by
  rw [positional, List.foldl_append, positional_foldl]
  rfl

theorem positional_cons (base digit : ℕ) (digits : List ℕ) :
    positional base (digit :: digits) = digit * base ^ digits.length + positional base digits := by
  rw [← List.singleton_append, positional_append]
  simp [positional]

theorem positional_zeros (base count : ℕ) : positional base (List.replicate count 0) = 0 := by
  induction count with
  | zero => rfl
  | succ count ih => rw [List.replicate_succ, positional_cons, ih, Nat.zero_mul]

theorem positional_lt {base : ℕ} {digits : List ℕ} (small : ∀ digit ∈ digits, digit < base) :
    positional base digits < base ^ digits.length := by
  induction digits with
  | nil => exact Nat.one_pos
  | cons digit digits ih =>
      have first := small digit List.mem_cons_self
      have rest := ih fun other member => small other (List.mem_cons_of_mem digit member)
      rw [positional_cons, List.length_cons, pow_succ]
      calc digit * base ^ digits.length + positional base digits
          < digit * base ^ digits.length + base ^ digits.length := Nat.add_lt_add_left rest _
        _ = (digit + 1) * base ^ digits.length := by ring
        _ ≤ base * base ^ digits.length := Nat.mul_le_mul_right _ first
        _ = base ^ digits.length * base := Nat.mul_comm _ _

/-- Cutting off the last digits. -/
theorem positional_take {base : ℕ} {digits : List ℕ} (small : ∀ digit ∈ digits, digit < base) (count : ℕ) :
    positional base (digits.take count) = positional base digits / base ^ (digits.length - count) := by
  have cut : positional base (digits.drop count) < base ^ (digits.length - count) := by
    have below : positional base (digits.drop count) < base ^ (digits.drop count).length :=
      positional_lt fun digit member => small digit (List.mem_of_mem_drop member)
    rwa [List.length_drop] at below
  conv_rhs => rw [← List.take_append_drop count digits, positional_append, List.take_append_drop, List.length_drop]
  rw [Nat.mul_comm, Nat.mul_add_div (Nat.zero_lt_of_lt cut), Nat.div_eq_of_lt cut, Nat.add_zero]

/-! ### Decimal texts -/

def digitOf (c : Char) : ℕ := c.toNat - 48

def value (text : List Char) : ℕ := positional 10 (text.map digitOf)

theorem value_append (front back : List Char) : value (front ++ back) = value front * 10 ^ back.length + value back := by
  simp only [value, List.map_append, positional_append, List.length_map]

theorem digitOf_lt {c : Char} (digit : c.isDigit = true) : digitOf c < 10 := by
  simp only [Char.isDigit, Bool.and_eq_true, decide_eq_true_eq, UInt32.le_iff_toNat_le] at digit
  have high : c.toNat ≤ 57 := digit.2
  unfold digitOf
  omega

theorem value_take {text : List Char} (digits : ∀ c ∈ text, c.isDigit = true) (count : ℕ) :
    value (text.take count) = value text / 10 ^ (text.length - count) := by
  have small : ∀ digit ∈ text.map digitOf, digit < 10 := by
    intro digit member
    obtain ⟨c, inside, rfl⟩ := List.mem_map.mp member
    exact digitOf_lt (digits c inside)
  rw [value, List.map_take, positional_take small, List.length_map, value]

theorem value_toDigits (n : ℕ) : value (Nat.toDigits 10 n) = n := by
  have same : ∀ text : List Char, value text = Nat.ofDigitChars 10 text 0 := by
    intro text
    have general : ∀ start, (text.map digitOf).foldl (fun total digit => total * 10 + digit) start =
        Nat.ofDigitChars 10 text start := by
      induction text with
      | nil => intro start; rfl
      | cons c text ih =>
          intro start
          rw [List.map_cons, List.foldl_cons, ih, Nat.ofDigitChars_cons, Nat.mul_comm]
          rfl
    exact general 0
  rw [same, Nat.ofDigitChars_ten_toDigits]

theorem toDigits_isDigit (n : ℕ) : ∀ c ∈ Nat.toDigits 10 n, c.isDigit = true :=
  fun _ member => Nat.isDigit_of_mem_toDigits (by decide) (by decide) member

theorem toDigits_head {n : ℕ} (positive : 0 < n) : (Nat.toDigits 10 n).head? ≠ some '0' := by
  induction n using Nat.strong_induction_on with
  | _ n ih =>
      by_cases single : n < 10
      · rw [Nat.toDigits_of_lt_base single]
        interval_cases n <;> decide
      · rw [Nat.toDigits_of_base_le (by decide) (by omega), List.head?_append]
        have front := ih (n / 10) (by omega) (by omega)
        cases first : (Nat.toDigits 10 (n / 10)).head? with
        | none => exact absurd (List.head?_eq_none_iff.mp first) Nat.toDigits_ne_nil
        | some c =>
            rw [first] at front
            exact front

/-! ### Groups of digits -/

/-- A number with zeros before it, up to a width. -/
def padded (width n : ℕ) : List Char :=
  List.replicate (width - (Nat.toDigits 10 n).length) '0' ++ Nat.toDigits 10 n

theorem padded_isDigit (width n : ℕ) : ∀ c ∈ padded width n, c.isDigit = true := by
  intro c member
  rcases List.mem_append.mp member with zero | digit
  · rw [List.eq_of_mem_replicate zero]
    rfl
  · exact toDigits_isDigit n c digit

theorem value_padded (width n : ℕ) : value (padded width n) = n := by
  have zeros : ∀ count, value (List.replicate count '0') = 0 := by
    intro count
    rw [value, List.map_replicate]
    exact positional_zeros 10 count
  rw [padded, value_append, zeros, value_toDigits, Nat.zero_mul, Nat.zero_add]

theorem length_padded {width n : ℕ} (some_ : 0 < width) (small : n < 10 ^ width) : (padded width n).length = width := by
  have short := (@Nat.length_toDigits_le_iff 10 n width (by decide) some_).mpr small
  rw [padded, List.length_append, List.length_replicate]
  omega

def grouped (width : ℕ) (groups : List ℕ) : List Char := groups.flatMap (padded width)

section
variable {width : ℕ} {groups : List ℕ}

theorem grouped_isDigit : ∀ c ∈ grouped width groups, c.isDigit = true := by
  intro c member
  obtain ⟨group, -, inside⟩ := List.mem_flatMap.mp member
  exact padded_isDigit width group c inside

variable (some_ : 0 < width) (small : ∀ group ∈ groups, group < 10 ^ width)
include some_ small

theorem length_grouped : (grouped width groups).length = groups.length * width := by
  induction groups with
  | nil => simp [grouped]
  | cons group groups ih =>
      have rest := ih fun other member => small other (List.mem_cons_of_mem group member)
      rw [grouped, List.flatMap_cons, List.length_append, length_padded some_ (small group List.mem_cons_self),
        List.length_cons, Nat.succ_mul, Nat.add_comm]
      exact congrArg (· + width) rest

theorem value_grouped : value (grouped width groups) = positional (10 ^ width) groups := by
  induction groups with
  | nil => rfl
  | cons group groups ih =>
      have others : ∀ other ∈ groups, other < 10 ^ width :=
        fun other member => small other (List.mem_cons_of_mem group member)
      have back : value (groups.flatMap (padded width)) = positional (10 ^ width) groups := ih others
      have length : (groups.flatMap (padded width)).length = groups.length * width := length_grouped some_ others
      rw [grouped, List.flatMap_cons, value_append, value_padded, back, length, positional_cons, ← pow_mul,
        Nat.mul_comm width]

end

end Decimal
