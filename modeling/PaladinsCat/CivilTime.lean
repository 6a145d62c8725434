import Mathlib

/-!
Instants and the texts of their dates and times of day in UTC. An instant counts nanoseconds from
the first of January 1970; dates are those of the proleptic Gregorian calendar. A text of fixed
width is read back digit by digit.
-/

namespace CivilTime

/-! ### Digits -/

/-- The last digits of a number, so many of them. -/
def digits : ℕ → ℕ → List Char
  | 0, _ => []
  | width + 1, n => digits width (n / 10) ++ [Nat.digitChar (n % 10)]

def value (text : List Char) : ℕ := text.foldl (fun n c => 10 * n + (c.toNat - 48)) 0

theorem digits_length (width n : ℕ) : (digits width n).length = width := by
  induction width generalizing n with
  | zero => rfl
  | succ width ih => rw [digits, List.length_append, ih, List.length_singleton]

theorem digits_isDigit {width n : ℕ} : ∀ c ∈ digits width n, c.isDigit = true := by
  induction width generalizing n with
  | zero => simp [digits]
  | succ width ih =>
      intro c listed
      rw [digits, List.mem_append, List.mem_singleton] at listed
      rcases listed with front | rfl
      · exact ih c front
      · have below : n % 10 < 10 := Nat.mod_lt n (by decide)
        interval_cases n % 10 <;> rfl

/-- The first digits are those of the quotient. -/
theorem digits_add (front back n : ℕ) : digits (front + back) n = digits front (n / 10 ^ back) ++ digits back n := by
  induction back generalizing n with
  | zero => simp [digits]
  | succ back ih =>
      rw [← Nat.add_assoc, digits, digits, ih, List.append_assoc, Nat.div_div_eq_div_mul, Nat.pow_succ',
        Nat.mul_comm]

theorem value_append (text : List Char) (c : Char) : value (text ++ [c]) = 10 * value text + (c.toNat - 48) := by
  rw [value, List.foldl_append]
  rfl

theorem value_digits {width n : ℕ} (fits : n < 10 ^ width) : value (digits width n) = n := by
  induction width generalizing n with
  | zero =>
      have zero : n = 0 := by simpa using fits
      rw [zero]
      rfl
  | succ width ih =>
      have front : n / 10 < 10 ^ width := Nat.div_lt_of_lt_mul (by rwa [Nat.pow_succ'] at fits)
      have last : (Nat.digitChar (n % 10)).toNat - 48 = n % 10 := by
        rw [Nat.toNat_digitChar_of_lt_ten (Nat.mod_lt n (by decide))]
        omega
      rw [digits, value_append, ih front, last]
      omega

/-! ### Dates -/

structure Date where
  year : ℤ
  month : ℤ
  day : ℤ
  deriving DecidableEq

/-- The date of a day, counted from the epoch. Years start in March inside: 400 years have
146097 days, a century 36524, four years 1461. -/
def dateOf (days : ℤ) : Date :=
  let shifted := days + 719468
  let era := shifted / 146097
  let century := min (shifted % 146097 / 36524) 3
  let inCentury := shifted % 146097 - century * 36524
  let leapYears := inCentury / 1461
  let inLeap := inCentury - leapYears * 1461
  let year := min (inLeap / 365) 3
  let dayOfYear := inLeap - year * 365
  let month := (5 * dayOfYear + 2) / 153
  { year := 400 * era + 100 * century + 4 * leapYears + year + if month < 10 then 0 else 1
    month := if month < 10 then month + 3 else month - 9
    day := dayOfYear - (153 * month + 2) / 5 + 1 }

def daysOf (date : Date) : ℤ :=
  let year := if date.month ≤ 2 then date.year - 1 else date.year
  let month := if date.month ≤ 2 then date.month + 9 else date.month - 3
  365 * year + year / 4 - year / 100 + year / 400 + (153 * month + 2) / 5 + date.day - 1 - 719468

/-- The parts of a day in its era: the century, the four years, the year and the month in it. -/
theorem parts (days : ℤ) : ∃ era century leapYears year dayOfYear month : ℤ,
    days = 146097 * era + 36524 * century + 1461 * leapYears + 365 * year + dayOfYear - 719468 ∧
    0 ≤ century ∧ century ≤ 3 ∧ 0 ≤ leapYears ∧ leapYears ≤ 24 ∧ 0 ≤ year ∧ year ≤ 3 ∧
    0 ≤ dayOfYear ∧ dayOfYear ≤ 365 ∧ 0 ≤ month ∧ month ≤ 11 ∧ month = (5 * dayOfYear + 2) / 153 ∧
    dateOf days =
      { year := 400 * era + 100 * century + 4 * leapYears + year + if month < 10 then 0 else 1
        month := if month < 10 then month + 3 else month - 9
        day := dayOfYear - (153 * month + 2) / 5 + 1 } := by
  have inEra : 0 ≤ (days + 719468) % 146097 ∧ (days + 719468) % 146097 < 146097 := by omega
  obtain ⟨century, centuryIs⟩ : ∃ century, century = min ((days + 719468) % 146097 / 36524) 3 := ⟨_, rfl⟩
  obtain ⟨inCentury, inCenturyIs⟩ : ∃ n, n = (days + 719468) % 146097 - century * 36524 := ⟨_, rfl⟩
  obtain ⟨leapYears, leapYearsIs⟩ : ∃ n, n = inCentury / 1461 := ⟨_, rfl⟩
  obtain ⟨inLeap, inLeapIs⟩ : ∃ n, n = inCentury - leapYears * 1461 := ⟨_, rfl⟩
  obtain ⟨year, yearIs⟩ : ∃ year, year = min (inLeap / 365) 3 := ⟨_, rfl⟩
  obtain ⟨dayOfYear, dayOfYearIs⟩ : ∃ n, n = inLeap - year * 365 := ⟨_, rfl⟩
  have centuryRange : 0 ≤ inCentury ∧ inCentury ≤ 36524 := by omega
  have leapRange : 0 ≤ inLeap ∧ inLeap ≤ 1460 := by omega
  have yearRange : 0 ≤ dayOfYear ∧ dayOfYear ≤ 365 := by omega
  refine ⟨(days + 719468) / 146097, century, leapYears, year, dayOfYear, (5 * dayOfYear + 2) / 153, ?_, ?_⟩
  · omega
  · refine ⟨by omega, by omega, by omega, by omega, by omega, by omega, yearRange.1, yearRange.2, by omega, by omega,
      rfl, ?_⟩
    rw [dayOfYearIs, yearIs, inLeapIs, leapYearsIs, inCenturyIs, centuryIs]
    rfl

theorem daysOf_dateOf (days : ℤ) : daysOf (dateOf days) = days := by
  obtain ⟨era, century, leapYears, year, dayOfYear, month, whole, _, _, _, _, _, _, _, _, _, _, monthIs, date⟩ :=
    parts days
  rw [date, whole, daysOf]
  by_cases early : month < 10
  · have late : ¬month + 3 ≤ 2 := by omega
    simp only [if_pos early, if_neg late]
    omega
  · have soon : month - 9 ≤ 2 := by omega
    simp only [if_neg early, if_pos soon]
    omega

theorem dateOf_range (days : ℤ) :
    1 ≤ (dateOf days).month ∧ (dateOf days).month ≤ 12 ∧ 1 ≤ (dateOf days).day ∧ (dateOf days).day ≤ 31 := by
  obtain ⟨era, century, leapYears, year, dayOfYear, month, -, -, -, -, -, -, -, _, _, _, _, monthIs, date⟩ := parts days
  rw [date]
  by_cases early : month < 10
  · simp only [if_pos early]
    omega
  · simp only [if_neg early]
    omega

/-! ### Texts -/

def secondOf (t : ℤ) : ℤ := t / 1000000000

/-- The nanoseconds since the last whole second. -/
def nanosecond (t : ℤ) : ℕ := (t % 1000000000).toNat

def secondOfDay (t : ℤ) : ℕ := (secondOf t % 86400).toNat

def date (t : ℤ) : Date := dateOf (secondOf t / 86400)

def year (t : ℤ) : ℤ := (date t).year

/-- A year has at least four digits. -/
def dateText (date : Date) : List Char :=
  (if date.year < 10000 then digits 4 date.year.toNat else Nat.toDigits 10 date.year.toNat) ++
    '-' :: (digits 2 date.month.toNat ++ '-' :: digits 2 date.day.toNat)

def clockText (second : ℕ) : List Char :=
  digits 2 (second / 3600) ++ ':' :: (digits 2 (second / 60 % 60) ++ ':' :: digits 2 (second % 60))

def dateTimeText (separator : Char) (t : ℤ) : List Char :=
  dateText (date t) ++ separator :: clockText (secondOfDay t)

def dropZeros (text : List Char) : List Char := (text.reverse.dropWhile (· == '0')).reverse

/-- A fraction of a second, without zeros at its end. -/
def fractionText (width n : ℕ) : List Char := if n = 0 then [] else '.' :: dropZeros (digits width n)

/-- The text of RFC 3339 in UTC, for a year of four digits. -/
def rfc3339 (t : ℤ) : List Char := dateTimeText 'T' t ++ fractionText 9 (nanosecond t) ++ ['Z']

/-- A date and a time of day from the front of a text, and the rest. -/
def readDateTime : List Char → Option (ℤ × List Char)
  | y₁ :: y₂ :: y₃ :: y₄ :: _ :: m₁ :: m₂ :: _ :: d₁ :: d₂ :: _ :: h₁ :: h₂ :: _ :: n₁ :: n₂ :: _ :: s₁ :: s₂ :: rest =>
      some ((daysOf ⟨value [y₁, y₂, y₃, y₄], value [m₁, m₂], value [d₁, d₂]⟩ * 86400 +
        (value [h₁, h₂] * 3600 + value [n₁, n₂] * 60 + value [s₁, s₂] : ℕ)) * 1000000000, rest)
  | _ => none

theorem readDateTime_rest {text rest : List Char} {t : ℤ} (read : readDateTime text = some (t, rest)) :
    rest = text.drop 19 := by
  unfold readDateTime at read
  split at read
  · obtain ⟨-, rfl⟩ := Prod.mk.inj (Option.some.inj read)
    rfl
  · cases read

theorem whole_second (t : ℤ) : secondOf t / 86400 * 86400 + secondOfDay t = secondOf t := by
  unfold secondOfDay
  omega

theorem whole_instant (t : ℤ) : secondOf t * 1000000000 + nanosecond t = t := by
  unfold secondOf nanosecond
  omega

/-- The text is read back. -/
theorem readDateTime_text {separator : Char} {t : ℤ} {rest : List Char} (early : 0 ≤ year t) (late : year t ≤ 9999) :
    readDateTime (dateTimeText separator t ++ rest) = some (secondOf t * 1000000000, rest) := by
  have four : (date t).year < 10000 := by
    unfold year at late
    omega
  have day : secondOfDay t < 86400 := by
    unfold secondOfDay
    omega
  -- month and day have two digits, and the parts of the clock have, too
  obtain ⟨month, month', days, days'⟩ := dateOf_range (secondOf t / 86400)
  have yearRead : (value (digits 4 (date t).year.toNat) : ℤ) = (date t).year := by
    have fits : (date t).year.toNat < 10 ^ 4 := by omega
    rw [value_digits fits]
    exact Int.toNat_of_nonneg early
  have monthRead : (value (digits 2 (date t).month.toNat) : ℤ) = (date t).month := by
    have fits : (dateOf (secondOf t / 86400)).month.toNat < 10 ^ 2 := by omega
    rw [date, value_digits fits, Int.toNat_of_nonneg (by omega)]
  have dayRead : (value (digits 2 (date t).day.toNat) : ℤ) = (date t).day := by
    have fits : (dateOf (secondOf t / 86400)).day.toNat < 10 ^ 2 := by omega
    rw [date, value_digits fits, Int.toNat_of_nonneg (by omega)]
  have clockRead : value (digits 2 (secondOfDay t / 3600)) * 3600 + value (digits 2 (secondOfDay t / 60 % 60)) * 60 +
      value (digits 2 (secondOfDay t % 60)) = secondOfDay t := by
    have hour : secondOfDay t / 3600 < 10 ^ 2 := by omega
    have minute : secondOfDay t / 60 % 60 < 10 ^ 2 := by omega
    have second : secondOfDay t % 60 < 10 ^ 2 := by omega
    rw [value_digits hour, value_digits minute, value_digits second]
    omega
  -- the reader's pattern takes the text apart where its numbers end
  have shape : readDateTime (dateTimeText separator t ++ rest) =
      some ((daysOf ⟨value (digits 4 (date t).year.toNat), value (digits 2 (date t).month.toNat),
        value (digits 2 (date t).day.toNat)⟩ * 86400 +
        (value (digits 2 (secondOfDay t / 3600)) * 3600 + value (digits 2 (secondOfDay t / 60 % 60)) * 60 +
          value (digits 2 (secondOfDay t % 60)) : ℕ)) * 1000000000, rest) := by
    rw [dateTimeText, dateText, if_pos four]
    rfl
  rw [shape, yearRead, monthRead, dayRead, clockRead]
  have dated : daysOf ⟨(date t).year, (date t).month, (date t).day⟩ = secondOf t / 86400 := daysOf_dateOf _
  rw [dated, whole_second]

/-- A text of a year of four digits has digits and separators only. -/
theorem mem_dateTimeText {separator c : Char} {t : ℤ} (late : year t ≤ 9999)
    (listed : c ∈ dateTimeText separator t) : c.isDigit = true ∨ c = '-' ∨ c = ':' ∨ c = separator := by
  have four : (date t).year < 10000 := by
    unfold year at late
    omega
  rw [dateTimeText, dateText, if_pos four, clockText] at listed
  simp only [List.mem_append, List.mem_cons] at listed
  rcases listed with (number | rfl | number | rfl | number) | rfl | number | rfl | number | rfl | number
  all_goals first
    | exact .inl (digits_isDigit _ number)
    | simp

theorem not_mem_dateTimeText {separator c : Char} {t : ℤ} (late : year t ≤ 9999)
    (foreign : c.isDigit = false ∧ c ≠ '-' ∧ c ≠ ':' ∧ c ≠ separator) : c ∉ dateTimeText separator t := by
  intro listed
  obtain ⟨noDigit, others⟩ := foreign
  rcases mem_dateTimeText late listed with digit | dash | colon | between
  · rw [noDigit] at digit
    cases digit
  · exact others.1 dash
  · exact others.2.1 colon
  · exact others.2.2 between

/-- What is dropped are zeros. -/
theorem dropZeros_append (text : List Char) : ∃ count, text = dropZeros text ++ List.replicate count '0' := by
  have zeros : text.reverse.takeWhile (· == '0') = List.replicate (text.reverse.takeWhile (· == '0')).length '0' :=
    List.eq_replicate_iff.mpr ⟨rfl, fun c listed => by simpa using List.mem_takeWhile_imp listed⟩
  refine ⟨(text.reverse.takeWhile (· == '0')).length, ?_⟩
  have whole := congrArg List.reverse (List.takeWhile_append_dropWhile (p := (· == '0')) (l := text.reverse))
  rw [List.reverse_append, List.reverse_reverse, zeros, List.reverse_replicate] at whole
  rw [dropZeros]
  exact whole.symm

theorem mem_dropZeros {text : List Char} {c : Char} (listed : c ∈ dropZeros text) : c ∈ text := by
  obtain ⟨count, whole⟩ := dropZeros_append text
  rw [whole]
  exact List.mem_append_left _ listed

theorem mem_fractionText {width n : ℕ} {c : Char} (listed : c ∈ fractionText width n) : c.isDigit = true ∨ c = '.' := by
  unfold fractionText at listed
  split_ifs at listed
  · cases listed
  · rcases List.mem_cons.mp listed with rfl | number
    · exact .inr rfl
    · exact .inl (digits_isDigit c (mem_dropZeros number))

theorem not_mem_fractionText {width n : ℕ} {c : Char} (foreign : c.isDigit = false ∧ c ≠ '.') :
    c ∉ fractionText width n := by
  intro listed
  rcases mem_fractionText listed with digit | dot
  · rw [foreign.1] at digit
    cases digit
  · exact foreign.2 dot

end CivilTime
