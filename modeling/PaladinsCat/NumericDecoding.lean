import PaladinsCat.Decimal

/-!
How the backend reads PostgreSQL's binary NUMERIC (database.rs): a header of four 16-bit words,
then digits of base 10000 with the leading one first, which stands for 10000 to the weight. The
text has as many decimals as the header says.
-/

namespace PaladinsCat.Database

open Decimal

/-! ### decode_numeric -/

structure NumericDecodeError where
  message : String
  deriving DecidableEq

def readU16 (raw : List UInt8) (offset : ℕ) : Except NumericDecodeError ℕ :=
  match raw.drop offset with
  | high :: low :: _ => .ok (high.toNat * 256 + low.toNat)
  | _ => .error ⟨"truncated PostgreSQL NUMERIC payload"⟩

def readI16 (raw : List UInt8) (offset : ℕ) : Except NumericDecodeError ℤ := do
  let word ← readU16 raw offset
  return Int.bmod word (2 ^ 16)

def readDigits (raw : List UInt8) : ℕ → ℕ → Except NumericDecodeError (List ℕ)
  | _, 0 => .ok []
  | offset, count + 1 => do
      let digit ← readI16 raw offset
      if 0 ≤ digit ∧ digit < 10000 then
        let digits ← readDigits raw (offset + 2) count
        return digit.toNat :: digits
      else .error ⟨"invalid PostgreSQL NUMERIC digit"⟩

def groupAt (digits : List ℕ) (weight groupWeight : ℤ) : ℕ :=
  let index := weight - groupWeight
  if index < 0 then 0 else digits.getD index.toNat 0

/-- The digits before the point. -/
def wholePart (digits : List ℕ) (weight : ℤ) : List Char :=
  if weight < 0 then ['0']
  else (List.range (weight.toNat + 1)).flatMap fun (index : ℕ) =>
    if index = 0 then Nat.toDigits 10 (groupAt digits weight (weight - index))
    else padded 4 (groupAt digits weight (weight - index))

/-- The groups behind the point, of which as many digits are kept as the scale says; `none`
where the slice would end behind them. -/
def fractionalPart (digits : List ℕ) (weight : ℤ) (dscale : ℕ) : Option (List Char) :=
  let fractional := (List.range ((dscale + 3) / 4)).flatMap fun (group : ℕ) =>
    padded 4 (groupAt digits weight (-(group + 1)))
  if dscale ≤ fractional.length then some (fractional.take dscale) else none

def renderNumeric (digits : List ℕ) (weight : ℤ) (negative : Bool) (dscale : ℕ) : Option String := do
  let minus := if negative && !digits.all (· == 0) then ['-'] else []
  let decimals ←
    if 0 < dscale then (fractionalPart digits weight dscale).map fun fractional => '.' :: fractional else some []
  return String.ofList (minus ++ wholePart digits weight ++ decimals)

/-- The text, or `none` inside where an index is out of range. -/
def decodeNumeric (raw : List UInt8) : Except NumericDecodeError (Option String) := do
  if raw.length < 8 ∨ (raw.length - 8) % 2 ≠ 0 then
    throw ⟨"invalid PostgreSQL NUMERIC payload"⟩
  let ndigits ← readI16 raw 0
  let weight ← readI16 raw 2
  let sign ← readU16 raw 4
  let dscale ← readI16 raw 6
  if ndigits < 0 ∨ dscale < 0 ∨ raw.length ≠ 8 + ndigits.toNat * 2 then
    throw ⟨"invalid PostgreSQL NUMERIC header"⟩
  if sign = 0xC000 then return some "NaN"
  if sign = 0xD000 then return some "Infinity"
  if sign = 0xF000 then return some "-Infinity"
  if sign ≠ 0x0000 ∧ sign ≠ 0x4000 then
    throw ⟨"unknown PostgreSQL NUMERIC sign"⟩
  let digits ← readDigits raw 8 ndigits.toNat
  return renderNumeric digits weight (sign == 0x4000) dscale.toNat

/-! ### The binary format -/

/-- A finite number as it is sent. -/
structure Numeric where
  weight : ℤ
  negative : Bool
  dscale : ℕ
  digits : List ℕ
  weight_range : -2 ^ 15 ≤ weight ∧ weight < 2 ^ 15
  dscale_range : dscale < 2 ^ 15
  digits_range : ∀ digit ∈ digits, digit < 10000
  length_range : digits.length < 2 ^ 15

def bigEndian (word : ℕ) : List UInt8 := [UInt8.ofNat (word / 256), UInt8.ofNat (word % 256)]

namespace Numeric

variable (numeric : Numeric)

def toBytes : List UInt8 :=
  bigEndian numeric.digits.length ++ bigEndian (numeric.weight % 2 ^ 16).toNat ++
    bigEndian (if numeric.negative then 0x4000 else 0x0000) ++ bigEndian numeric.dscale ++
    numeric.digits.flatMap bigEndian

def magnitude : ℚ := (numeric.digits.mapIdx fun (index digit : ℕ) => (digit : ℚ) * 10000 ^ (numeric.weight - index)).sum

/-- The first digit is not zero, unless all are, and no decimal behind the scale is lost. -/
structure WellFormed : Prop where
  leading : numeric.digits.head? = some 0 → numeric.magnitude = 0
  scaled : ∃ n : ℕ, numeric.magnitude * 10 ^ numeric.dscale = n

end Numeric

/-- A text of a number: a sign, the digits before the point without a superfluous zero, and as
many digits behind it as the scale says. -/
def Renders (text : String) (negative : Bool) (dscale : ℕ) (magnitude : ℚ) : Prop :=
  ∃ whole fraction : List Char,
    text.toList = (if negative then ['-'] else []) ++ whole ++ (if 0 < dscale then '.' :: fraction else []) ∧
    (∀ c ∈ whole ++ fraction, c.isDigit = true) ∧ whole ≠ [] ∧ (whole.head? = some '0' → whole = ['0']) ∧
    fraction.length = dscale ∧ (value (whole ++ fraction) : ℚ) = magnitude * 10 ^ dscale

/-! ### Reading and writing words -/

theorem word_eq {word : ℕ} (small : word < 2 ^ 16) :
    (UInt8.ofNat (word / 256)).toNat * 256 + (UInt8.ofNat (word % 256)).toNat = word := by
  simp only [UInt8.toNat_ofNat']
  omega

theorem bigEndian_word (high low : UInt8) : bigEndian (high.toNat * 256 + low.toNat) = [high, low] := by
  have highest := high.toNat_lt
  have lowest := low.toNat_lt
  have upper : (high.toNat * 256 + low.toNat) / 256 = high.toNat := by omega
  have lower : (high.toNat * 256 + low.toNat) % 256 = low.toNat := by omega
  rw [bigEndian, upper, lower, UInt8.ofNat_toNat, UInt8.ofNat_toNat]

theorem readU16_bigEndian {word : ℕ} (small : word < 2 ^ 16) (front rest : List UInt8) :
    readU16 (front ++ (bigEndian word ++ rest)) front.length = .ok word := by
  rw [readU16, List.drop_left]
  exact congrArg Except.ok (word_eq small)

theorem readI16_bigEndian {number : ℤ} (range : -2 ^ 15 ≤ number ∧ number < 2 ^ 15) (front rest : List UInt8) :
    readI16 (front ++ (bigEndian (number % 2 ^ 16).toNat ++ rest)) front.length = .ok number := by
  have small : (number % 2 ^ 16).toNat < 2 ^ 16 := by omega
  have back : Int.bmod ((number % 2 ^ 16).toNat : ℤ) (2 ^ 16) = number := by
    rw [Int.bmod_def]
    omega
  simp only [readI16, readU16_bigEndian small, Except.bind, bind, pure, Except.pure, back]

theorem readI16_natural {number : ℕ} (range : number < 2 ^ 15) (front rest : List UInt8) :
    readI16 (front ++ (bigEndian number ++ rest)) front.length = .ok (number : ℤ) := by
  have word : ((number : ℤ) % 2 ^ 16).toNat = number := by omega
  have read := @readI16_bigEndian number (by omega) front rest
  rwa [word] at read

theorem readDigits_bigEndian (digits : List ℕ) (small : ∀ digit ∈ digits, digit < 10000) (front : List UInt8) :
    readDigits (front ++ digits.flatMap bigEndian) front.length digits.length = .ok digits := by
  induction digits generalizing front with
  | nil => rfl
  | cons digit digits ih =>
      have first := small digit List.mem_cons_self
      have rest := ih (fun other member => small other (List.mem_cons_of_mem digit member)) (front ++ bigEndian digit)
      have read := @readI16_natural digit (by omega) front (digits.flatMap bigEndian)
      have range : (0 : ℤ) ≤ digit ∧ (digit : ℤ) < 10000 := by omega
      rw [List.append_assoc, List.length_append] at rest
      simp only [List.flatMap_cons, List.length_cons, readDigits, read, Except.bind, bind, if_pos range]
      rw [show front.length + 2 = front.length + (bigEndian digit).length from rfl, rest]
      rfl

/-- What is done with a header of a finite number. -/
theorem decodeNumeric_of_header {raw : List UInt8} {ndigits dscale : ℕ} {weight : ℤ} {negative : Bool}
    (length : raw.length = 8 + ndigits * 2) (count : readI16 raw 0 = .ok (ndigits : ℤ))
    (place : readI16 raw 2 = .ok weight) (sign : readU16 raw 4 = .ok (if negative then 0x4000 else 0x0000))
    (scale : readI16 raw 6 = .ok (dscale : ℤ)) :
    decodeNumeric raw =
      (readDigits raw 8 ndigits).map fun digits => renderNumeric digits weight negative dscale := by
  have sized : ¬ (raw.length < 8 ∨ (raw.length - 8) % 2 ≠ 0) := by omega
  have matched : ¬ ((ndigits : ℤ) < 0 ∨ (dscale : ℤ) < 0 ∨ raw.length ≠ 8 + ndigits * 2) := by omega
  simp only [decodeNumeric, if_neg sized, count, place, sign, scale, Int.toNat_natCast, if_neg matched, bind,
    Except.bind, pure, Except.pure]
  cases negative with
  | true => cases readDigits raw 8 ndigits <;> rfl
  | false => cases readDigits raw 8 ndigits <;> rfl

theorem length_words (words : List ℕ) : (words.flatMap bigEndian).length = words.length * 2 := by
  induction words with
  | nil => rfl
  | cons word words ih =>
      rw [List.flatMap_cons, List.length_append, ih, List.length_cons, Nat.succ_mul, Nat.add_comm]
      rfl

theorem decodeNumeric_toBytes (numeric : Numeric) :
    decodeNumeric numeric.toBytes =
      .ok (renderNumeric numeric.digits numeric.weight numeric.negative numeric.dscale) := by
  obtain ⟨weight, negative, dscale, digits, weight_range, dscale_range, digits_range, length_range⟩ := numeric
  have flag : (if negative then 0x4000 else 0x0000) < 2 ^ 16 := by split <;> decide
  have count := readI16_natural length_range [] (bigEndian (weight % 2 ^ 16).toNat ++
    (bigEndian (if negative then 0x4000 else 0x0000) ++ (bigEndian dscale ++ digits.flatMap bigEndian)))
  have place := readI16_bigEndian weight_range (bigEndian digits.length)
    (bigEndian (if negative then 0x4000 else 0x0000) ++ (bigEndian dscale ++ digits.flatMap bigEndian))
  have sign := readU16_bigEndian flag
    (bigEndian digits.length ++ bigEndian (weight % 2 ^ 16).toNat) (bigEndian dscale ++ digits.flatMap bigEndian)
  have scale := readI16_natural dscale_range (bigEndian digits.length ++ bigEndian (weight % 2 ^ 16).toNat ++
    bigEndian (if negative then 0x4000 else 0x0000)) (digits.flatMap bigEndian)
  have words := readDigits_bigEndian digits digits_range (bigEndian digits.length ++
    bigEndian (weight % 2 ^ 16).toNat ++ bigEndian (if negative then 0x4000 else 0x0000) ++ bigEndian dscale)
  simp only [List.append_assoc] at count place sign scale words
  have length : (Numeric.toBytes ⟨weight, negative, dscale, digits, weight_range, dscale_range, digits_range,
      length_range⟩).length = 8 + digits.length * 2 := by
    simp only [Numeric.toBytes, List.length_append, length_words]
    rfl
  rw [@decodeNumeric_of_header _ digits.length dscale weight negative length]
  · simp only [Numeric.toBytes, List.append_assoc]
    rw [show (8 : ℕ) = (bigEndian digits.length ++ (bigEndian (weight % 2 ^ 16).toNat ++
      (bigEndian (if negative then 0x4000 else 0x0000) ++ bigEndian dscale))).length from rfl, words]
    rfl
  · simp only [Numeric.toBytes, List.append_assoc]
    exact count
  · simp only [Numeric.toBytes, List.append_assoc]
    exact place
  · simp only [Numeric.toBytes, List.append_assoc]
    exact sign
  · simp only [Numeric.toBytes, List.append_assoc]
    exact scale

/-- The word that is read is written there. -/
theorem bytes_of_readU16 {raw : List UInt8} {offset word : ℕ} (read : readU16 raw offset = .ok word) :
    word < 2 ^ 16 ∧ raw.drop offset = bigEndian word ++ raw.drop (offset + 2) := by
  unfold readU16 at read
  split at read
  · rename_i high low rest behind
    obtain rfl : high.toNat * 256 + low.toNat = word := Except.ok.inj read
    have highest := high.toNat_lt
    have lowest := low.toNat_lt
    have further : raw.drop (offset + 2) = rest := by
      rw [← List.drop_drop, behind]
      rfl
    exact ⟨by omega, by rw [behind, further, bigEndian_word]; rfl⟩
  · cases read

theorem bytes_of_readI16 {raw : List UInt8} {offset : ℕ} {number : ℤ} (read : readI16 raw offset = .ok number) :
    (-2 ^ 15 ≤ number ∧ number < 2 ^ 15) ∧
      raw.drop offset = bigEndian (number % 2 ^ 16).toNat ++ raw.drop (offset + 2) := by
  cases first : readU16 raw offset with
  | error error =>
      simp only [readI16, first, bind, Except.bind] at read
      cases read
  | ok word =>
      obtain ⟨small, bytes⟩ := bytes_of_readU16 first
      simp only [readI16, first, bind, Except.bind, pure, Except.pure] at read
      have signed : Int.bmod word (2 ^ 16) = number := Except.ok.inj read
      rw [Int.bmod_def] at signed
      have back : (number % 2 ^ 16).toNat = word := by omega
      exact ⟨by omega, by rw [back, bytes]⟩

theorem bytes_of_readDigits {raw : List UInt8} {offset count : ℕ} {digits : List ℕ}
    (read : readDigits raw offset count = .ok digits) :
    digits.length = count ∧ (∀ digit ∈ digits, digit < 10000) ∧
      (raw.drop offset).take (count * 2) = digits.flatMap bigEndian := by
  induction count generalizing offset digits with
  | zero =>
      cases read
      simp
  | succ count ih =>
      cases first : readI16 raw offset with
      | error error =>
          simp only [readDigits, first, bind, Except.bind] at read
          cases read
      | ok digit =>
          obtain ⟨-, bytes⟩ := bytes_of_readI16 first
          simp only [readDigits, first, bind, Except.bind] at read
          split_ifs at read with range
          cases tail : readDigits raw (offset + 2) count with
          | error error =>
              rw [tail] at read
              cases read
          | ok others =>
              rw [tail] at read
              obtain rfl : digit.toNat :: others = digits := Except.ok.inj read
              obtain ⟨length, small, same⟩ := ih tail
              have word : (digit % 2 ^ 16).toNat = digit.toNat := by omega
              refine ⟨by rw [List.length_cons, length], ?_, ?_⟩
              · intro other member
                rcases List.mem_cons.mp member with head | later
                · omega
                · exact small other later
              · rw [bytes, word, List.flatMap_cons, ← same, Nat.succ_mul, Nat.add_comm]
                show (bigEndian digit.toNat ++ raw.drop (offset + 2)).take
                  ((bigEndian digit.toNat).length + count * 2) = _
                exact List.take_length_add_append (count * 2)

def specialTexts : List String := ["NaN", "Infinity", "-Infinity"]

theorem of_bind_ok {ε α β : Type} {first : Except ε α} {next : α → Except ε β} {result : β}
    (read : first >>= next = .ok result) : ∃ value, first = .ok value ∧ next value = .ok result := by
  cases first with
  | error error => cases read
  | ok value => exact ⟨value, rfl, read⟩

/-- Bytes that are no finite number are refused, or have one of the special signs. -/
theorem decodeNumeric_cases (raw : List UInt8) :
    (∃ error, decodeNumeric raw = .error error) ∨ (∃ text ∈ specialTexts, decodeNumeric raw = .ok (some text)) ∨
      ∃ numeric : Numeric, raw = numeric.toBytes := by
  cases decoded : decodeNumeric raw with
  | error error => exact .inl ⟨error, rfl⟩
  | ok result =>
      right
      unfold decodeNumeric at decoded
      split_ifs at decoded with sized
      · cases decoded
      obtain ⟨ndigits, count, decoded⟩ := of_bind_ok decoded
      obtain ⟨weight, place, decoded⟩ := of_bind_ok decoded
      obtain ⟨sign, signed, decoded⟩ := of_bind_ok decoded
      obtain ⟨dscale, scale, decoded⟩ := of_bind_ok decoded
      by_cases matched : ndigits < 0 ∨ dscale < 0 ∨ raw.length ≠ 8 + ndigits.toNat * 2
      · simp only [if_pos matched] at decoded
        cases decoded
      simp only [if_neg matched] at decoded
      by_cases nan : sign = 0xC000
      · simp only [if_pos nan] at decoded
        exact .inl ⟨"NaN", by simp [specialTexts], decoded.symm⟩
      simp only [if_neg nan] at decoded
      by_cases positive : sign = 0xD000
      · simp only [if_pos positive] at decoded
        exact .inl ⟨"Infinity", by simp [specialTexts], decoded.symm⟩
      simp only [if_neg positive] at decoded
      by_cases negative : sign = 0xF000
      · simp only [if_pos negative] at decoded
        exact .inl ⟨"-Infinity", by simp [specialTexts], decoded.symm⟩
      simp only [if_neg negative] at decoded
      by_cases unknown : sign ≠ 0x0000 ∧ sign ≠ 0x4000
      · simp only [if_pos unknown] at decoded
        cases decoded
      simp only [if_neg unknown] at decoded
      right
      obtain ⟨digits, words, -⟩ := of_bind_ok decoded
      obtain ⟨countRange, countBytes⟩ := bytes_of_readI16 count
      obtain ⟨weightRange, weightBytes⟩ := bytes_of_readI16 place
      obtain ⟨-, signBytes⟩ := bytes_of_readU16 signed
      obtain ⟨scaleRange, scaleBytes⟩ := bytes_of_readI16 scale
      obtain ⟨length, small, digitBytes⟩ := bytes_of_readDigits words
      have flag : (if decide (sign = 0x4000) then 0x4000 else 0x0000) = sign := by
        by_cases minus : sign = 0x4000
        · simp [minus]
        · simp [minus]
          omega
      have tail : (raw.drop 8).take (ndigits.toNat * 2) = raw.drop 8 := by
        rw [List.take_of_length_le]
        rw [List.length_drop]
        omega
      have countWord : (ndigits % 2 ^ 16).toNat = digits.length := by omega
      have scaleWord : (dscale % 2 ^ 16).toNat = dscale.toNat := by omega
      refine ⟨⟨weight, decide (sign = 0x4000), dscale.toNat, digits, weightRange, by omega, small, by omega⟩, ?_⟩
      simp only [Numeric.toBytes, flag]
      rw [← digitBytes, tail, ← countWord, ← scaleWord, List.append_assoc, ← scaleBytes, List.append_assoc, ← signBytes,
        List.append_assoc, ← weightBytes, ← countBytes, List.drop_zero]

/-! ### The digits that are shown -/

theorem magnitude_positional (weight : ℤ) (digits : List ℕ) :
    (digits.mapIdx fun (index digit : ℕ) => (digit : ℚ) * 10000 ^ (weight - index)).sum =
      positional 10000 digits * 10000 ^ (weight + 1 - digits.length) := by
  induction digits generalizing weight with
  | nil => simp [positional]
  | cons digit digits ih =>
      have shifted : (digits.mapIdx fun (index digit : ℕ) => (digit : ℚ) * 10000 ^ (weight - (index + 1 : ℕ))).sum =
          positional 10000 digits * 10000 ^ (weight - digits.length) := by
        have behind := ih (weight - 1)
        rw [show weight - 1 + 1 - (digits.length : ℤ) = weight - digits.length by ring] at behind
        rw [← behind]
        congr 2
        funext index digit
        rw [show weight - 1 - (index : ℤ) = weight - (index + 1 : ℕ) by push_cast; ring]
      have lead : (10000 : ℚ) ^ weight = 10000 ^ digits.length * 10000 ^ (weight - digits.length) := by
        rw [← zpow_natCast, ← zpow_add₀ (by norm_num)]
        congr 1
        ring
      rw [List.mapIdx_cons, List.sum_cons, shifted, positional_cons, List.length_cons]
      rw [show weight + 1 - ((digits.length + 1 : ℕ) : ℤ) = weight - digits.length by push_cast; ring]
      rw [show weight - ((0 : ℕ) : ℤ) = weight by simp, lead]
      push_cast
      ring

/-- The groups that are shown, as a run of the digits between zeros. -/
theorem shown_take (digits : List ℕ) (weight : ℤ) (count : ℕ) :
    ((List.range count).map fun (index : ℕ) => groupAt digits weight (weight.toNat - index)) =
      (List.replicate (weight.toNat - weight).toNat 0 ++ (digits ++ List.replicate count 0)).take count := by
  have before : (0 : ℤ) ≤ weight.toNat - weight := by omega
  refine List.ext_getElem (by simp; omega) fun index below _ => ?_
  rw [List.length_map, List.length_range] at below
  rw [List.getElem_map, List.getElem_range, List.getElem_take, groupAt]
  by_cases leading : index < (weight.toNat - weight).toNat
  · rw [List.getElem_append_left (by simpa using leading), List.getElem_replicate, if_pos (by omega)]
  · rw [List.getElem_append_right (by simpa using leading), if_neg (by omega)]
    simp only [List.length_replicate]
    have place : (weight - (weight.toNat - (index : ℤ))).toNat = index - (weight.toNat - weight).toNat := by omega
    rw [place]
    by_cases inside : index - (weight.toNat - weight).toNat < digits.length
    · rw [List.getElem_append_left inside, List.getD_eq_getElem _ _ inside]
    · rw [List.getElem_append_right (by omega), List.getElem_replicate, List.getD_eq_default _ _ (by omega)]


theorem positional_eq_zero {digits : List ℕ} : positional 10000 digits = 0 ↔ digits.all (· == 0) = true := by
  induction digits with
  | nil => simp [positional]
  | cons digit digits ih =>
      rw [positional_cons, List.all_cons, Bool.and_eq_true, ← ih, Nat.add_eq_zero_iff, Nat.mul_eq_zero, beq_iff_eq]
      simp

namespace Numeric

variable (numeric : Numeric)

theorem magnitude_eq : numeric.magnitude =
    positional 10000 numeric.digits * 10000 ^ (numeric.weight + 1 - numeric.digits.length) :=
  magnitude_positional numeric.weight numeric.digits

theorem magnitude_eq_zero : numeric.magnitude = 0 ↔ numeric.digits.all (· == 0) = true := by
  rw [magnitude_eq, ← positional_eq_zero]
  simp [zpow_ne_zero]

/-- The groups shown before the point and of `count` behind it. -/
def shown (count : ℕ) : List ℕ :=
  (List.range (numeric.weight.toNat + 1 + count)).map fun (index : ℕ) =>
    groupAt numeric.digits numeric.weight (numeric.weight.toNat - index)

theorem groupAt_lt (place : ℤ) : groupAt numeric.digits numeric.weight place < 10000 := by
  simp only [groupAt]
  split_ifs
  · decide
  · rw [List.getD_eq_getElem?_getD]
    cases found : numeric.digits[(numeric.weight - place).toNat]? with
    | none => exact Nat.zero_lt_succ _
    | some digit => exact numeric.digits_range digit (List.mem_of_getElem? found)

theorem shown_lt (count : ℕ) : ∀ group ∈ numeric.shown count, group < 10000 := by
  intro group member
  obtain ⟨index, -, rfl⟩ := List.mem_map.mp member
  exact numeric.groupAt_lt _

/-- What is shown is the number, cut off behind the last group. -/
theorem positional_shown (count : ℕ) :
    positional 10000 (numeric.shown count) = ⌊numeric.magnitude * 10000 ^ count⌋₊ := by
  have before : (0 : ℤ) ≤ numeric.weight.toNat - numeric.weight := by omega
  obtain ⟨zeros, leading⟩ := Int.eq_ofNat_of_zero_le before
  have small : ∀ digit ∈ List.replicate zeros 0 ++
      (numeric.digits ++ List.replicate (numeric.weight.toNat + 1 + count) 0), digit < 10000 := by
    intro digit member
    rcases List.mem_append.mp member with zero | member
    · rw [List.eq_of_mem_replicate zero]
      decide
    rcases List.mem_append.mp member with sent | zero
    · exact numeric.digits_range digit sent
    · rw [List.eq_of_mem_replicate zero]
      decide
  have length : (List.replicate zeros 0 ++ (numeric.digits ++
      List.replicate (numeric.weight.toNat + 1 + count) 0)).length - (numeric.weight.toNat + 1 + count) =
      zeros + numeric.digits.length := by
    simp only [List.length_append, List.length_replicate]
    omega
  have scaled : numeric.magnitude * 10000 ^ count =
      ((positional 10000 numeric.digits * 10000 ^ (numeric.weight.toNat + 1 + count) : ℕ) : ℚ) /
        ((10000 ^ (zeros + numeric.digits.length) : ℕ) : ℚ) := by
    have place : numeric.weight + 1 - numeric.digits.length + count =
        ((numeric.weight.toNat + 1 + count : ℕ) : ℤ) - ((zeros + numeric.digits.length : ℕ) : ℤ) := by
      push_cast
      omega
    rw [magnitude_eq, mul_assoc, ← zpow_natCast, ← zpow_add₀ (by norm_num), place, zpow_sub₀ (by norm_num),
      zpow_natCast, zpow_natCast]
    push_cast
    ring
  rw [shown, shown_take, leading, Int.toNat_natCast, positional_take small, length, positional_append,
    positional_zeros, positional_append, positional_zeros, List.length_replicate, Nat.zero_mul, Nat.zero_add,
    Nat.add_zero, scaled, Nat.floor_div_eq_div]

theorem decide_magnitude : decide (numeric.magnitude ≠ 0) = !numeric.digits.all (· == 0) := by
  simp only [ne_eq, numeric.magnitude_eq_zero, decide_not, Bool.decide_eq_true]

/-! ### The text -/

def leadGroup : ℕ := groupAt numeric.digits numeric.weight numeric.weight.toNat

def lowerGroups : List ℕ :=
  (List.range numeric.weight.toNat).map fun (index : ℕ) =>
    groupAt numeric.digits numeric.weight (numeric.weight.toNat - (index + 1))

def decimalGroups (count : ℕ) : List ℕ :=
  (List.range count).map fun (group : ℕ) => groupAt numeric.digits numeric.weight (-(group + 1))

theorem shown_eq (count : ℕ) :
    numeric.shown count = numeric.leadGroup :: (numeric.lowerGroups ++ numeric.decimalGroups count) := by
  rw [shown, Nat.add_right_comm, List.range_succ_eq_map, List.map_cons, List.map_map, List.range_add, List.map_append,
    List.map_map]
  refine congr_arg₂ List.cons (congrArg _ (by simp)) (congr_arg₂ List.append ?_ ?_)
  · refine List.map_congr_left fun index _ => ?_
    simp only [Function.comp_apply, Nat.succ_eq_add_one]
    push_cast
    rfl
  · refine List.map_congr_left fun index _ => ?_
    simp only [Function.comp_apply, Nat.succ_eq_add_one]
    congr 1
    push_cast
    ring

theorem wholePart_eq : wholePart numeric.digits numeric.weight =
    Nat.toDigits 10 numeric.leadGroup ++ grouped 4 numeric.lowerGroups := by
  by_cases sub : numeric.weight < 0
  · have top : numeric.weight.toNat = 0 := by omega
    have lead : numeric.leadGroup = 0 := by
      simp only [leadGroup, groupAt, top]
      exact if_pos (by omega)
    have none : numeric.lowerGroups = [] := by
      rw [lowerGroups, top]
      rfl
    rw [wholePart, if_pos sub, lead, none]
    rfl
  · have top : (numeric.weight.toNat : ℤ) = numeric.weight := by omega
    rw [wholePart, if_neg sub, List.range_succ_eq_map, List.flatMap_cons, if_pos rfl, grouped, lowerGroups,
      List.flatMap_map, List.flatMap_map, leadGroup, top]
    congr 2
    simp

theorem fractionalPart_eq : fractionalPart numeric.digits numeric.weight numeric.dscale =
    some ((grouped 4 (numeric.decimalGroups ((numeric.dscale + 3) / 4))).take numeric.dscale) := by
  have small : ∀ group ∈ numeric.decimalGroups ((numeric.dscale + 3) / 4), group < 10 ^ 4 := by
    intro group member
    obtain ⟨index, -, rfl⟩ := List.mem_map.mp member
    exact numeric.groupAt_lt _
  have long : numeric.dscale ≤ (grouped 4 (numeric.decimalGroups ((numeric.dscale + 3) / 4))).length := by
    rw [length_grouped (by decide) small, decimalGroups, List.length_map, List.length_range]
    omega
  rw [grouped, decimalGroups, List.flatMap_map] at long ⊢
  rw [fractionalPart, if_pos long]

def whole : List Char := Nat.toDigits 10 numeric.leadGroup ++ grouped 4 numeric.lowerGroups

def fraction : List Char :=
  (grouped 4 (numeric.decimalGroups ((numeric.dscale + 3) / 4))).take numeric.dscale

theorem renderNumeric_eq :
    renderNumeric numeric.digits numeric.weight numeric.negative numeric.dscale =
      some (String.ofList ((if numeric.negative && decide (numeric.magnitude ≠ 0) then ['-'] else []) ++
        numeric.whole ++ (if 0 < numeric.dscale then '.' :: numeric.fraction else []))) := by
  rw [renderNumeric, fractionalPart_eq, wholePart_eq, decide_magnitude]
  by_cases scaled : 0 < numeric.dscale
  · simp only [if_pos scaled]
    rfl
  · simp only [if_neg scaled]
    rfl

theorem decimalGroups_lt (count : ℕ) : ∀ group ∈ numeric.decimalGroups count, group < 10 ^ 4 := by
  intro group member
  obtain ⟨index, -, rfl⟩ := List.mem_map.mp member
  exact numeric.groupAt_lt _

theorem length_decimals (count : ℕ) : (grouped 4 (numeric.decimalGroups count)).length = count * 4 := by
  rw [length_grouped (by decide) (numeric.decimalGroups_lt count), decimalGroups, List.length_map, List.length_range]

theorem length_fraction : numeric.fraction.length = numeric.dscale := by
  rw [fraction, List.length_take, length_decimals]
  omega

theorem isDigit_shown (count : ℕ) :
    ∀ c ∈ numeric.whole ++ grouped 4 (numeric.decimalGroups count), c.isDigit = true := by
  intro c member
  rcases List.mem_append.mp member with before | behind
  · rcases List.mem_append.mp before with lead | lower
    · exact toDigits_isDigit _ c lead
    · exact grouped_isDigit c lower
  · exact grouped_isDigit c behind

theorem value_shown (count : ℕ) :
    value (numeric.whole ++ grouped 4 (numeric.decimalGroups count)) = ⌊numeric.magnitude * 10000 ^ count⌋₊ := by
  have lower : ∀ group ∈ numeric.lowerGroups ++ numeric.decimalGroups count, group < 10 ^ 4 := by
    intro group member
    have inside : group ∈ numeric.shown count := by
      rw [shown_eq]
      exact List.mem_cons_of_mem _ member
    exact numeric.shown_lt count group inside
  have together : grouped 4 numeric.lowerGroups ++ grouped 4 (numeric.decimalGroups count) =
      grouped 4 (numeric.lowerGroups ++ numeric.decimalGroups count) := List.flatMap_append.symm
  rw [whole, List.append_assoc, together, value_append, value_toDigits, value_grouped (by decide) lower,
    length_grouped (by decide) lower, ← positional_shown, shown_eq, positional_cons, mul_comm _ 4, pow_mul]
  norm_num

/-- The digits of the text are the number in units of the last decimal, rounded towards zero. -/
theorem value_text :
    value (numeric.whole ++ numeric.fraction) = ⌊numeric.magnitude * 10 ^ numeric.dscale⌋₊ := by
  have count : (numeric.dscale + 3) / 4 * 4 =
      numeric.dscale + ((numeric.dscale + 3) / 4 * 4 - numeric.dscale) := by omega
  have cut : numeric.whole ++ numeric.fraction =
      (numeric.whole ++ grouped 4 (numeric.decimalGroups ((numeric.dscale + 3) / 4))).take
        (numeric.whole.length + numeric.dscale) := (List.take_length_add_append numeric.dscale).symm
  have length : (numeric.whole ++ grouped 4 (numeric.decimalGroups ((numeric.dscale + 3) / 4))).length -
      (numeric.whole.length + numeric.dscale) = (numeric.dscale + 3) / 4 * 4 - numeric.dscale := by
    rw [List.length_append, length_decimals]
    omega
  have units : numeric.magnitude * 10000 ^ ((numeric.dscale + 3) / 4) =
      numeric.magnitude * 10 ^ numeric.dscale * 10 ^ ((numeric.dscale + 3) / 4 * 4 - numeric.dscale) := by
    rw [mul_assoc, ← pow_add, ← count, mul_comm _ 4, pow_mul]
    norm_num
  rw [cut, value_take (numeric.isDigit_shown _), value_shown, length, units, ← Nat.floor_div_natCast]
  congr 1
  push_cast
  exact mul_div_cancel_right₀ _ (by positivity)

theorem whole_canonical (leading : numeric.digits.head? = some 0 → numeric.magnitude = 0)
    (zero : numeric.magnitude = 0 → numeric.weight ≤ 0) (starts : numeric.whole.head? = some '0') :
    numeric.whole = ['0'] := by
  have lead : numeric.leadGroup = 0 := by
    by_contra some_
    have first := toDigits_head (Nat.pos_of_ne_zero some_)
    rw [whole, List.head?_append] at starts
    cases head : (Nat.toDigits 10 numeric.leadGroup).head? with
    | none => exact Nat.toDigits_ne_nil (List.head?_eq_none_iff.mp head)
    | some c =>
        rw [head] at first starts
        exact first starts
  have low : numeric.weight.toNat = 0 := by
    by_contra high
    have top : (numeric.weight.toNat : ℤ) = numeric.weight := by omega
    have nothing : numeric.magnitude = 0 := by
      rw [leadGroup, groupAt, top, sub_self] at lead
      cases digits : numeric.digits with
      | nil => simp [magnitude, digits]
      | cons digit others =>
          rw [digits] at lead
          have first : digit = 0 := lead
          exact leading (by rw [digits, first]; rfl)
    have := zero nothing
    omega
  rw [whole, lead, lowerGroups, low]
  rfl

end Numeric

theorem decodeNumeric_ne_none (raw : List UInt8) : decodeNumeric raw ≠ .ok none := by
  rcases decodeNumeric_cases raw with ⟨error, refused⟩ | ⟨text, -, special⟩ | ⟨numeric, rfl⟩
  · rw [refused]
    intro same
    cases same
  · rw [special]
    intro same
    cases same
  · rw [decodeNumeric_toBytes, Numeric.renderNumeric_eq]
    intro same
    cases same

/-- Numbers are decoded exactly, and rounded towards zero where the scale is too small; a payload
that is no number is refused or has a special sign, and no index is ever out of range. -/
theorem decodeNumeric_exact :
    (∀ numeric : Numeric, numeric.WellFormed → (numeric.magnitude = 0 → numeric.weight ≤ 0) →
      ∃ text, decodeNumeric numeric.toBytes = .ok (some text) ∧
        Renders text (numeric.negative && decide (numeric.magnitude ≠ 0)) numeric.dscale numeric.magnitude) ∧
    (∀ numeric : Numeric, ∃ whole fraction : List Char,
      decodeNumeric numeric.toBytes =
        .ok (some (String.ofList ((if numeric.negative && decide (numeric.magnitude ≠ 0) then ['-'] else []) ++
          whole ++ (if 0 < numeric.dscale then '.' :: fraction else [])))) ∧
      fraction.length = numeric.dscale ∧
      value (whole ++ fraction) = ⌊numeric.magnitude * 10 ^ numeric.dscale⌋₊) ∧
    (∀ raw, (∀ numeric : Numeric, raw ≠ numeric.toBytes) →
      (∃ error, decodeNumeric raw = .error error) ∨ ∃ text ∈ specialTexts, decodeNumeric raw = .ok (some text)) ∧
    ∀ raw, decodeNumeric raw ≠ .ok none := by
  refine ⟨?_, ?_, ?_, decodeNumeric_ne_none⟩
  · intro numeric formed zero
    refine ⟨_, (decodeNumeric_toBytes numeric).trans (congrArg Except.ok numeric.renderNumeric_eq),
      numeric.whole, numeric.fraction, String.toList_ofList, ?_, ?_, ?_, numeric.length_fraction, ?_⟩
    · intro c member
      refine numeric.isDigit_shown ((numeric.dscale + 3) / 4) c ?_
      rcases List.mem_append.mp member with before | behind
      · exact List.mem_append_left _ before
      · exact List.mem_append_right _ (List.mem_of_mem_take behind)
    · exact List.append_ne_nil_of_left_ne_nil Nat.toDigits_ne_nil _
    · exact numeric.whole_canonical formed.leading zero
    · obtain ⟨n, exact_⟩ := formed.scaled
      rw [numeric.value_text, exact_, Nat.floor_natCast]
  · intro numeric
    exact ⟨numeric.whole, numeric.fraction, (decodeNumeric_toBytes numeric).trans
      (congrArg Except.ok numeric.renderNumeric_eq), numeric.length_fraction, numeric.value_text⟩
  · intro raw other
    rcases decodeNumeric_cases raw with refused | special | ⟨numeric, same⟩
    · exact .inl refused
    · exact .inr special
    · exact absurd same (other numeric)

def fare : Numeric where
  weight := 0
  negative := true
  dscale := 4
  digits := [12, 3400]
  weight_range := by decide
  dscale_range := by decide
  digits_range := by decide
  length_range := by decide

theorem decodeNumeric_exact_fare :
    ∃ text, decodeNumeric fare.toBytes = .ok (some text) ∧ Renders text true 4 (1234 / 100) := by
  have magnitude : fare.magnitude = 1234 / 100 := by
    simp [Numeric.magnitude, fare, zpow_neg]
    norm_num
  have formed : fare.WellFormed := by
    refine ⟨fun zero => absurd zero (by decide), 123400, ?_⟩
    rw [magnitude]
    norm_num [fare]
  have rendered := decodeNumeric_exact.1 fare formed fun _ => le_refl _
  rw [magnitude] at rendered
  simpa [fare] using rendered

def heavyZero : Numeric where
  weight := 1
  negative := false
  dscale := 0
  digits := []
  weight_range := by decide
  dscale_range := by decide
  digits_range := by decide
  length_range := by decide

/-- A zero of weight one is written with five digits, and a payload whose digits start with a zero
is not refused. -/
theorem heavy_zero_has_zeros :
    (heavyZero.WellFormed ∧ ¬ ∃ text, decodeNumeric heavyZero.toBytes = .ok (some text) ∧
      Renders text (heavyZero.negative && decide (heavyZero.magnitude ≠ 0)) heavyZero.dscale heavyZero.magnitude) ∧
    decodeNumeric [0, 2, 0, 1, 0, 0, 0, 0, 0, 0, 0, 5] = .ok (some "00005") := by
  have zero : heavyZero.magnitude = 0 := rfl
  refine ⟨⟨⟨fun _ => zero, 0, by simp [zero]⟩, ?_⟩, by decide⟩
  rintro ⟨text, decoded, whole, fraction, chars, -, -, canonical, length, -⟩
  have five : decodeNumeric heavyZero.toBytes = .ok (some "00000") := by decide
  obtain rfl : "00000" = text := Option.some.inj (Except.ok.inj (five.symm.trans decoded))
  have none : (false && decide (heavyZero.magnitude ≠ 0)) = false := rfl
  have unscaled : heavyZero.dscale = 0 := rfl
  rw [show heavyZero.negative = false from rfl, none, unscaled] at chars
  have same : whole = ['0', '0', '0', '0', '0'] := by simpa using chars.symm
  rw [same] at canonical
  exact absurd (canonical rfl) (by decide)

end PaladinsCat.Database
