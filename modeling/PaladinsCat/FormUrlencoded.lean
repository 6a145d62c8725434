import Mathlib

/-!
Query strings of the form key=value&key=value: what a reader and a writer of them have to agree
on, and a pair that escapes the ASCII characters.
-/

/-- A reader that undoes its writer. -/
structure FormUrlencoded where
  parse : String → List (String × String)
  serialize : List (String × String) → String
  parse_serialize : ∀ entries, parse (serialize entries) = entries
  serialize_nil : serialize [] = ""
  serialize_plain : ∀ entries, '#' ∉ (serialize entries).toList

namespace FormUrlencoded

theorem serialize_eq_empty (forms : FormUrlencoded) {entries : List (String × String)} :
    forms.serialize entries = "" ↔ entries = [] := by
  constructor
  · intro empty
    rw [← forms.parse_serialize entries, empty, ← forms.serialize_nil, forms.parse_serialize]
  · rintro rfl
    exact forms.serialize_nil

theorem serialize_injective (forms : FormUrlencoded) : Function.Injective forms.serialize :=
  Function.LeftInverse.injective forms.parse_serialize

/-! ### Escapes of ASCII characters -/

def hexDigits : List Char := "0123456789ABCDEF".toList

def hexDigit (n : ℕ) : Char := hexDigits.getD n '0'

def isPlain (c : Char) : Bool := c.isAlphanum || c == '*' || c == '-' || c == '.' || c == '_' || 128 ≤ c.toNat

def encodeChar (c : Char) : List Char :=
  if c = ' ' then ['+']
  else if isPlain c then [c]
  else ['%', hexDigit (c.toNat / 16), hexDigit (c.toNat % 16)]

def decode : List Char → List Char
  | '%' :: high :: low :: rest =>
      match hexDigits.idxOf? high.toUpper, hexDigits.idxOf? low.toUpper with
      | some upper, some lower => Char.ofNat (upper * 16 + lower) :: decode rest
      | _, _ => '%' :: decode (high :: low :: rest)
  | c :: rest => (if c = '+' then ' ' else c) :: decode rest
  | [] => []

def encode (text : String) : List Char := text.toList.flatMap encodeChar

def encodePair (entry : String × String) : List Char := encode entry.1 ++ '=' :: encode entry.2

def decodePair (piece : List Char) : String × String :=
  (String.ofList (decode (piece.takeWhile (· != '='))), String.ofList (decode ((piece.dropWhile (· != '=')).drop 1)))

theorem idxOf_hexDigit : ∀ n < 16, hexDigits.idxOf? (hexDigit n).toUpper = some n := by decide

theorem decode_other {c : Char} (escape : c ≠ '%') (rest : List Char) :
    decode (c :: rest) = (if c = '+' then ' ' else c) :: decode rest := by
  rw [decode]
  intro high low tail same
  exact absurd same escape

theorem decode_encodeChar (c : Char) (rest : List Char) : decode (encodeChar c ++ rest) = c :: decode rest := by
  unfold encodeChar
  split_ifs with blank plain
  · rw [blank, List.singleton_append, decode_other (by decide), if_pos rfl]
  · have escape : c ≠ '%' := by
      rintro rfl
      exact absurd plain (by decide)
    have plus : c ≠ '+' := by
      rintro rfl
      exact absurd plain (by decide)
    rw [List.singleton_append, decode_other escape, if_neg plus]
  · have small : c.toNat < 128 := by
      by_contra large
      have high : 128 ≤ c.toNat := by omega
      simp [isPlain, high] at plain
    rw [List.cons_append, List.cons_append, List.cons_append, List.nil_append, decode,
      idxOf_hexDigit _ (by omega), idxOf_hexDigit _ (by omega)]
    have back : c.toNat / 16 * 16 + c.toNat % 16 = c.toNat := by omega
    simp only [back, Char.ofNat_toNat]

theorem decode_encode (text : String) : decode (encode text) = text.toList := by
  unfold encode
  induction text.toList with
  | nil => rfl
  | cons c chars ih => rw [List.flatMap_cons, decode_encodeChar, ih]

theorem hexDigit_plain : ∀ n < 16, hexDigit n ≠ '&' ∧ hexDigit n ≠ '=' ∧ hexDigit n ≠ '#' := by decide

theorem encodeChar_plain (c : Char) : '&' ∉ encodeChar c ∧ '=' ∉ encodeChar c ∧ '#' ∉ encodeChar c := by
  unfold encodeChar
  split_ifs with blank plain
  · decide
  · have different : ∀ d : Char, isPlain d = false → d ∉ [c] := by
      intro d special member
      rw [List.mem_singleton.mp member, plain] at special
      cases special
    exact ⟨different '&' rfl, different '=' rfl, different '#' rfl⟩
  · by_cases small : c.toNat < 128
    · have high := hexDigit_plain (c.toNat / 16) (by omega)
      have low := hexDigit_plain (c.toNat % 16) (by omega)
      simp [high.1.symm, high.2.1.symm, high.2.2.symm, low.1.symm, low.2.1.symm, low.2.2.symm]
    · have large : 128 ≤ c.toNat := by omega
      simp [isPlain, large] at plain

theorem encode_plain (text : String) : '&' ∉ encode text ∧ '=' ∉ encode text ∧ '#' ∉ encode text := by
  refine ⟨?_, ?_, ?_⟩ <;> intro member <;> obtain ⟨c, -, inside⟩ := List.mem_flatMap.mp member
  · exact (encodeChar_plain c).1 inside
  · exact (encodeChar_plain c).2.1 inside
  · exact (encodeChar_plain c).2.2 inside

theorem decodePair_encodePair (entry : String × String) : decodePair (encodePair entry) = entry := by
  have before : ∀ c ∈ encode entry.1, (c != '=') = true := by
    intro c member
    rw [bne_iff_ne]
    rintro rfl
    exact (encode_plain entry.1).2.1 member
  have front : (encode entry.1 ++ '=' :: encode entry.2).takeWhile (· != '=') = encode entry.1 := by
    rw [List.takeWhile_append_of_pos before, List.takeWhile_cons_of_neg (by decide), List.append_nil]
  have back : (encode entry.1 ++ '=' :: encode entry.2).dropWhile (· != '=') = '=' :: encode entry.2 := by
    rw [List.dropWhile_append_of_pos before, List.dropWhile_cons_of_neg (by decide)]
  rw [decodePair, encodePair, front, back, List.drop_one, List.tail_cons, decode_encode, decode_encode,
    String.ofList_toList, String.ofList_toList]

theorem splitOn_join (entries : List (String × String)) (some_ : entries ≠ []) :
    (['&'].intercalate (entries.map encodePair)).splitOn '&' = entries.map encodePair := by
  apply List.splitOn_intercalate
  · intro piece member inside
    obtain ⟨entry, -, rfl⟩ := List.mem_map.mp member
    rcases List.mem_append.mp inside with key | value
    · exact (encode_plain entry.1).1 key
    · rcases List.mem_cons.mp value with wrong | value
      · exact absurd wrong (by decide)
      · exact (encode_plain entry.2).1 value
  · simpa using some_

def serializeAscii (entries : List (String × String)) : String :=
  String.ofList (['&'].intercalate (entries.map encodePair))

def parseAscii (text : String) : List (String × String) :=
  ((text.toList.splitOn '&').filter fun piece => !piece.isEmpty).map decodePair

theorem parseAscii_serializeAscii (entries : List (String × String)) : parseAscii (serializeAscii entries) = entries := by
  by_cases none : entries = []
  · subst none
    rfl
  · have full : (entries.map encodePair).filter (fun piece => !piece.isEmpty) = entries.map encodePair := by
      rw [List.filter_eq_self]
      intro piece member
      obtain ⟨entry, -, rfl⟩ := List.mem_map.mp member
      simp [encodePair]
    rw [parseAscii, serializeAscii, String.toList_ofList, splitOn_join entries none, full, List.map_map]
    exact (List.map_congr_left fun entry _ => decodePair_encodePair entry).trans (List.map_id _)

theorem serializeAscii_plain (entries : List (String × String)) : '#' ∉ (serializeAscii entries).toList := by
  rw [serializeAscii, String.toList_ofList]
  intro member
  induction entries with
  | nil => simp at member
  | cons entry entries ih =>
      have one : '#' ∉ encodePair entry := by
        intro inside
        rcases List.mem_append.mp inside with key | value
        · exact (encode_plain entry.1).2.2 key
        · rcases List.mem_cons.mp value with wrong | value
          · exact absurd wrong (by decide)
          · exact (encode_plain entry.2).2.2 value
      cases entries with
      | nil => exact one (by simpa using member)
      | cons next entries =>
          rw [List.map_cons, List.map_cons, List.intercalate_cons_cons] at member
          rcases List.mem_append.mp member with front | rest
          · rcases List.mem_append.mp front with here | joint
            · exact one here
            · exact absurd (List.mem_singleton.mp joint) (by decide)
          · exact ih rest

/-- Characters that are not ASCII stand for themselves. -/
def ascii : FormUrlencoded where
  parse := parseAscii
  serialize := serializeAscii
  parse_serialize := parseAscii_serializeAscii
  serialize_nil := rfl
  serialize_plain := serializeAscii_plain

end FormUrlencoded
