import Mathlib

/-!
The base 64 alphabet for URLs, without padding: three bytes as four letters, one or two bytes at
the end as two or three. Reading is strict, so that a text and its bytes determine each other.
-/

namespace Base64Url

def alphabet : List Char := "ABCDEFGHIJKLMNOPQRSTUVWXYZabcdefghijklmnopqrstuvwxyz0123456789-_".toList

def letter (n : ℕ) : Char := alphabet.getD n 'A'

def sextet (c : Char) : Option ℕ := alphabet.idxOf? c

def encode : List UInt8 → List Char
  | a :: b :: c :: rest =>
      letter (a.toNat / 4) :: letter (a.toNat % 4 * 16 + b.toNat / 16) ::
        letter (b.toNat % 16 * 4 + c.toNat / 64) :: letter (c.toNat % 64) :: encode rest
  | [a, b] => [letter (a.toNat / 4), letter (a.toNat % 4 * 16 + b.toNat / 16), letter (b.toNat % 16 * 4)]
  | [a] => [letter (a.toNat / 4), letter (a.toNat % 4 * 16)]
  | [] => []

/-- The three bytes that four sextets share. -/
def first (w x : ℕ) : UInt8 := .ofNat (w * 4 + x / 16)
def second (x y : ℕ) : UInt8 := .ofNat (x % 16 * 16 + y / 4)
def third (y z : ℕ) : UInt8 := .ofNat (y % 4 * 64 + z)

/-- The bits of the last letter that belong to no byte have to be zero. -/
def decode : List Char → Option (List UInt8)
  | w :: x :: y :: z :: rest => do
      let w ← sextet w
      let x ← sextet x
      let y ← sextet y
      let z ← sextet z
      let tail ← decode rest
      return first w x :: second x y :: third y z :: tail
  | [w, x, y] => do
      let w ← sextet w
      let x ← sextet x
      let y ← sextet y
      if y % 4 = 0 then return [first w x, second x y] else none
  | [w, x] => do
      let w ← sextet w
      let x ← sextet x
      if x % 16 = 0 then return [first w x] else none
  | [_] => none
  | [] => some []

/-! ### Letters -/

theorem sextet_letter : ∀ n < 64, sextet (letter n) = some n := by decide +kernel

theorem letter_plain : ∀ n < 64, (letter n).isAlphanum = true ∨ letter n = '-' ∨ letter n = '_' := by decide +kernel

theorem letter_sextet {c : Char} {n : ℕ} (read : sextet c = some n) : letter n = c ∧ n < 64 := by
  obtain ⟨bound, same, -⟩ := List.findIdx?_eq_some_iff_getElem.mp read
  constructor
  · rw [letter, List.getD_eq_getElem _ _ bound]
    exact eq_of_beq same
  · exact bound

theorem byte_eq {a : UInt8} {n : ℕ} (same : n = a.toNat) : UInt8.ofNat n = a := by
  rw [same, UInt8.ofNat_toNat]

/-! ### The two directions -/

theorem decode_encode (bytes : List UInt8) : decode (encode bytes) = some bytes := by
  induction bytes using encode.induct with
  | case1 a b c rest ih =>
      have := a.toNat_lt
      have := b.toNat_lt
      have := c.toNat_lt
      simp only [encode, decode, ih, sextet_letter _ (show a.toNat / 4 < 64 by omega),
        sextet_letter _ (show a.toNat % 4 * 16 + b.toNat / 16 < 64 by omega),
        sextet_letter _ (show b.toNat % 16 * 4 + c.toNat / 64 < 64 by omega),
        sextet_letter _ (show c.toNat % 64 < 64 by omega)]
      have one : first (a.toNat / 4) (a.toNat % 4 * 16 + b.toNat / 16) = a := byte_eq (by omega)
      have two : second (a.toNat % 4 * 16 + b.toNat / 16) (b.toNat % 16 * 4 + c.toNat / 64) = b := byte_eq (by omega)
      have three : third (b.toNat % 16 * 4 + c.toNat / 64) (c.toNat % 64) = c := byte_eq (by omega)
      simp [one, two, three]
  | case2 a b =>
      have := a.toNat_lt
      have := b.toNat_lt
      have one : first (a.toNat / 4) (a.toNat % 4 * 16 + b.toNat / 16) = a := byte_eq (by omega)
      have two : second (a.toNat % 4 * 16 + b.toNat / 16) (b.toNat % 16 * 4) = b := byte_eq (by omega)
      simp [encode, decode, sextet_letter _ (show a.toNat / 4 < 64 by omega),
        sextet_letter _ (show a.toNat % 4 * 16 + b.toNat / 16 < 64 by omega),
        sextet_letter _ (show b.toNat % 16 * 4 < 64 by omega), one, two]
  | case3 a =>
      have := a.toNat_lt
      have one : first (a.toNat / 4) (a.toNat % 4 * 16) = a := byte_eq (by omega)
      simp [encode, decode, sextet_letter _ (show a.toNat / 4 < 64 by omega),
        sextet_letter _ (show a.toNat % 4 * 16 < 64 by omega), one]
  | case4 => rfl

/-- A text that is read is the one that is written for what it holds. -/
theorem encode_decode {text : List Char} {bytes : List UInt8} (read : decode text = some bytes) : encode bytes = text := by
  induction text using decode.induct generalizing bytes with
  | case1 w x y z rest ih =>
      simp only [decode, Option.bind_eq_bind, Option.bind_eq_some_iff, Option.pure_def, Option.some.injEq] at read
      obtain ⟨wn, wRead, xn, xRead, yn, yRead, zn, zRead, tail, tailRead, rfl⟩ := read
      obtain ⟨rfl, wBound⟩ := letter_sextet wRead
      obtain ⟨rfl, xBound⟩ := letter_sextet xRead
      obtain ⟨rfl, yBound⟩ := letter_sextet yRead
      obtain ⟨rfl, zBound⟩ := letter_sextet zRead
      simp only [encode, ih tailRead, first, second, third, UInt8.toNat_ofNat']
      congr 1
      · congr 1
        omega
      congr 1
      · congr 1
        omega
      congr 1
      · congr 1
        omega
      congr 1
      congr 1
      omega
  | case2 w x y =>
      simp only [decode, Option.bind_eq_bind, Option.bind_eq_some_iff, Option.ite_none_right_eq_some,
        Option.pure_def, Option.some.injEq] at read
      obtain ⟨wn, wRead, xn, xRead, yn, yRead, whole, rfl⟩ := read
      obtain ⟨rfl, wBound⟩ := letter_sextet wRead
      obtain ⟨rfl, xBound⟩ := letter_sextet xRead
      obtain ⟨rfl, yBound⟩ := letter_sextet yRead
      simp only [encode, first, second, UInt8.toNat_ofNat']
      congr 1
      · congr 1
        omega
      congr 1
      · congr 1
        omega
      congr 1
      congr 1
      omega
  | case3 w x =>
      simp only [decode, Option.bind_eq_bind, Option.bind_eq_some_iff, Option.ite_none_right_eq_some,
        Option.pure_def, Option.some.injEq] at read
      obtain ⟨wn, wRead, xn, xRead, whole, rfl⟩ := read
      obtain ⟨rfl, wBound⟩ := letter_sextet wRead
      obtain ⟨rfl, xBound⟩ := letter_sextet xRead
      simp only [encode, first, UInt8.toNat_ofNat']
      congr 1
      · congr 1
        omega
      congr 1
      congr 1
      omega
  | case4 => cases read
  | case5 =>
      cases read
      rfl

theorem encode_plain (bytes : List UInt8) : ∀ c ∈ encode bytes, c.isAlphanum = true ∨ c = '-' ∨ c = '_' := by
  induction bytes using encode.induct with
  | case1 a b c rest ih =>
      have := a.toNat_lt
      have := b.toNat_lt
      have := c.toNat_lt
      simp only [encode, List.forall_mem_cons]
      exact ⟨letter_plain _ (by omega), letter_plain _ (by omega), letter_plain _ (by omega), letter_plain _ (by omega), ih⟩
  | case2 a b =>
      have := a.toNat_lt
      have := b.toNat_lt
      simp only [encode, List.forall_mem_cons]
      exact ⟨letter_plain _ (by omega), letter_plain _ (by omega), letter_plain _ (by omega), by simp⟩
  | case3 a =>
      have := a.toNat_lt
      simp only [encode, List.forall_mem_cons]
      exact ⟨letter_plain _ (by omega), letter_plain _ (by omega), by simp⟩
  | case4 => simp [encode]

end Base64Url
