import PaladinsCat.JsonParser

/-!
What the buffer of raw rows makes of a JSON value before PostgreSQL reads it (raw_buffer.rs):
the text of the value, from which the escapes of the NUL character are taken out by a search
for their six characters. A backslash in a string is spelled with two, so that its second one
and the characters behind it can look like an escape.
-/

namespace PaladinsCat.RawBuffer

open Json (Value escape escapeChar printWith printItems printFields strings itemStrings fieldStrings letters
  letters_append letters_cons)

/-! ### str::replace -/

/-- Takes the pattern out wherever it is found from left to right; so many characters of the
text belong to what was found last. -/
def removeText (pattern : List Char) : Nat → List Char → List Char
  | _, [] => []
  | found + 1, _ :: rest => removeText pattern found rest
  | 0, c :: rest =>
      if pattern.isPrefixOf (c :: rest) then removeText pattern (pattern.length - 1) rest
      else c :: removeText pattern 0 rest

/-- The escape of the NUL character. -/
def nulEscape : List Char := ['\\', 'u', '0', '0', '0', '0']

def cleanJsonText (value : Value) : List Char :=
  removeText nulEscape 0 (removeText ['\x00'] 0 (Json.print value))

/-- The value without the NUL characters of its strings and field names. -/
def withoutNul (text : String) : String := String.ofList (text.toList.filter fun c => c != '\x00')

section
variable {pattern : List Char}

theorem removeText_found (found rest : List Char) :
    removeText pattern found.length (found ++ rest) = removeText pattern 0 rest := by
  induction found with
  | nil => rfl
  | cons c found ih => simpa [removeText] using ih

theorem removeText_pattern (start : pattern ≠ []) (rest : List Char) :
    removeText pattern 0 (pattern ++ rest) = removeText pattern 0 rest := by
  cases pattern with
  | nil => exact absurd rfl start
  | cons c tail =>
      have found : (c :: tail).isPrefixOf (c :: (tail ++ rest)) = true :=
        List.isPrefixOf_iff_prefix.mpr ⟨rest, rfl⟩
      rw [List.cons_append, removeText, if_pos found, List.length_cons, Nat.add_sub_cancel, removeText_found]

theorem removeText_keep {c : Char} {rest : List Char} (other : ¬ pattern <+: c :: rest) :
    removeText pattern 0 (c :: rest) = c :: removeText pattern 0 rest := by
  rw [removeText, if_neg (by rwa [List.isPrefixOf_iff_prefix])]

theorem removeText_other {c : Char} (start : pattern.head? ≠ some c) (some_ : pattern ≠ []) (rest : List Char) :
    removeText pattern 0 (c :: rest) = c :: removeText pattern 0 rest := by
  apply removeText_keep
  rintro ⟨tail, same⟩
  cases pattern with
  | nil => exact some_ rfl
  | cons first others =>
      obtain ⟨rfl, -⟩ := List.cons.inj same
      exact start rfl

/-- Text in which no occurrence can start. -/
theorem removeText_plain {plain : List Char} (start : ∀ c ∈ plain, pattern.head? ≠ some c) (some_ : pattern ≠ [])
    (rest : List Char) : removeText pattern 0 (plain ++ rest) = plain ++ removeText pattern 0 rest := by
  induction plain with
  | nil => rfl
  | cons c plain ih =>
      rw [List.cons_append, removeText_other (start c List.mem_cons_self) some_,
        ih fun other member => start other (List.mem_cons_of_mem c member)]
      rfl

/-- Of a text and what follows a character that the pattern has not, an occurrence is in the
one or in the other. -/
theorem prefix_of_append {stop : Char} (foreign : stop ∉ pattern) (text rest : List Char) :
    pattern <+: text ++ stop :: rest ↔ pattern <+: text := by
  constructor
  · intro found
    rcases List.prefix_or_prefix_of_prefix found (List.prefix_append text (stop :: rest)) with inside | across
    · exact inside
    · obtain ⟨more, rfl⟩ := across
      cases more with
      | nil => exact ⟨[], by simp⟩
      | cons c more =>
          obtain ⟨tail, same⟩ := found
          rw [List.append_assoc, List.append_cancel_left_eq] at same
          obtain ⟨rfl, -⟩ := List.cons.inj same
          exact absurd (by simp) foreign
  · exact fun inside => inside.trans (List.prefix_append _ _)

theorem removeText_append {stop : Char} (foreign : stop ∉ pattern) (rest : List Char) :
    ∀ (found : Nat) (text : List Char), found ≤ text.length →
      removeText pattern found (text ++ stop :: rest) =
        removeText pattern found text ++ removeText pattern 0 (stop :: rest) := by
  intro found text
  induction text generalizing found with
  | nil =>
      intro inside
      obtain rfl : found = 0 := Nat.le_zero.mp inside
      rfl
  | cons c text ih =>
      intro inside
      cases found with
      | succ found => exact ih found (by simpa using inside)
      | zero =>
          by_cases here : pattern <+: c :: text
          · have there := (prefix_of_append foreign (c :: text) rest).mpr here
            have fits : pattern.length - 1 ≤ text.length := by
              have length := here.length_le
              rw [List.length_cons] at length
              omega
            rw [List.cons_append] at there ⊢
            simp only [removeText, List.isPrefixOf_iff_prefix.mpr here, List.isPrefixOf_iff_prefix.mpr there, if_true]
            exact ih _ fits
          · have nowhere := mt (prefix_of_append foreign (c :: text) rest).mp here
            rw [List.cons_append] at nowhere ⊢
            rw [removeText_keep here, removeText_keep nowhere, ih 0 (Nat.zero_le _), List.cons_append]

end

/-! ### One string -/

/-- The six characters are no escape of a string but stand in it. -/
def ShowsEscape (text : String) : Prop := nulEscape <:+: text.toList

instance (text : String) : Decidable (ShowsEscape text) := inferInstanceAs (Decidable (_ <:+: _))

theorem escape_shown_iff {plain : List Char} (usual : ∀ c ∈ plain, escapeChar c = [c] ∧ c ≠ '\\') (chars : List Char) :
    plain <+: chars.flatMap escapeChar ↔ plain <+: chars := by
  induction plain generalizing chars with
  | nil => simp
  | cons c plain ih =>
      obtain ⟨self, slash⟩ := usual c List.mem_cons_self
      cases chars with
      | nil => simp
      | cons first chars =>
          rw [List.flatMap_cons]
          by_cases same : c = first
          · subst same
            rw [self, List.singleton_append, List.cons_prefix_cons, List.cons_prefix_cons,
              ih fun other member => usual other (List.mem_cons_of_mem c member)]
          · have apart : ∀ rest, ¬ c :: plain <+: escapeChar first ++ rest := by
              intro rest found
              rcases Json.escapeChar_cases first with ordinary | ⟨tail, escaped⟩
              · rw [ordinary, List.singleton_append, List.cons_prefix_cons] at found
                exact same found.1
              · rw [escaped, List.cons_append, List.cons_prefix_cons] at found
                exact slash found.1
            simp [apart, same]

theorem removeText_short {c : Char} (unit : c ≠ 'u') (slash : c ≠ '\\') (rest : List Char) :
    removeText nulEscape 0 ('\\' :: c :: rest) = '\\' :: c :: removeText nulEscape 0 rest := by
  rw [removeText_keep, removeText_other _ (by decide)]
  · simpa [nulEscape] using Ne.symm slash
  · simp [nulEscape, Ne.symm unit]

theorem hexDigit_eq_zero : ∀ n < 16, Json.hexDigit n = '0' → n = 0 := by decide

theorem hexDigit_ne_slash : ∀ n < 16, Json.hexDigit n ≠ '\\' := by decide

/-- Of the escapes only that of the NUL character is found. -/
theorem removeText_escapeChar {c : Char} (nul : c ≠ '\x00') (slash : c ≠ '\\') (rest : List Char) :
    removeText nulEscape 0 (escapeChar c ++ rest) = escapeChar c ++ removeText nulEscape 0 rest := by
  unfold escapeChar
  split_ifs with _ _ _ _ _ _ control
  · exact removeText_short (by decide) (by decide) rest
  · exact removeText_short (by decide) (by decide) rest
  · exact removeText_short (by decide) (by decide) rest
  · exact removeText_short (by decide) (by decide) rest
  · exact removeText_short (by decide) (by decide) rest
  · exact removeText_short (by decide) (by decide) rest
  · have high := hexDigit_ne_slash (c.toNat / 16) (by omega)
    have low := hexDigit_ne_slash (c.toNat % 16) (by omega)
    have other : ¬ nulEscape <+:
        '\\' :: (['u', '0', '0', Json.hexDigit (c.toNat / 16), Json.hexDigit (c.toNat % 16)] ++ rest) := by
      simp only [nulEscape, List.cons_append, List.nil_append, List.cons_prefix_cons, List.nil_prefix, true_and, and_true]
      rintro ⟨first, second⟩
      have tens := hexDigit_eq_zero (c.toNat / 16) (by omega) first.symm
      have ones := hexDigit_eq_zero (c.toNat % 16) (by omega) second.symm
      have zero : c.toNat = 0 := by omega
      exact nul (by rw [← Char.ofNat_toNat c, zero])
    have plain : ∀ d ∈ ['u', '0', '0', Json.hexDigit (c.toNat / 16), Json.hexDigit (c.toNat % 16)],
        nulEscape.head? ≠ some d := by
      simp [nulEscape, Ne.symm high, Ne.symm low]
    exact (removeText_keep other).trans (congrArg (List.cons '\\') (removeText_plain plain (by decide) rest))
  · exact removeText_other (by simpa [nulEscape] using Ne.symm slash) (by decide) rest

theorem escapeChar_nul : escapeChar '\x00' = nulEscape := by decide

theorem escapeChar_slash : escapeChar '\\' = ['\\', '\\'] := by decide

/-- The second of the two backslashes that one is spelled with, and what follows it. -/
theorem slash_starts_iff (chars : List Char) :
    nulEscape <+: '\\' :: chars.flatMap escapeChar ↔ nulEscape <+: '\\' :: chars := by
  have usual : ∀ c ∈ ['u', '0', '0', '0', '0'], escapeChar c = [c] ∧ c ≠ '\\' := by
    intro c member
    have digit : c = 'u' ∨ c = '0' := by simpa using member
    rcases digit with rfl | rfl
    · exact ⟨Json.escapeChar_plain (by decide) (by decide) (by decide), by decide⟩
    · exact ⟨Json.escapeChar_plain (by decide) (by decide) (by decide), by decide⟩
  rw [nulEscape, List.cons_prefix_cons, List.cons_prefix_cons]
  exact and_congr_right fun _ => escape_shown_iff usual chars

def withoutNulChars (chars : List Char) : List Char := chars.filter fun c => c != '\x00'

/-- What the search leaves of a string: the string without its NUL characters, or, where the
six characters stand in it, a text with fewer letters. -/
theorem removeText_escape (chars : List Char) :
    (¬ nulEscape <:+: chars ∧
        removeText nulEscape 0 (chars.flatMap escapeChar) = (withoutNulChars chars).flatMap escapeChar) ∨
      (nulEscape <:+: chars ∧
        letters (removeText nulEscape 0 (chars.flatMap escapeChar)) <
          letters ((withoutNulChars chars).flatMap escapeChar)) := by
  induction size : chars.length using Nat.strong_induction_on generalizing chars with
  | _ size' ih =>
      cases chars with
      | nil => exact .inl ⟨by decide, rfl⟩
      | cons c chars =>
          have shown : nulEscape <:+: c :: chars ↔ nulEscape <+: c :: chars ∨ nulEscape <:+: chars :=
            List.infix_cons_iff
          have tail := ih chars.length (by rw [← size]; exact Nat.lt_succ_self _) chars rfl
          by_cases nul : c = '\x00'
          · subst nul
            have starts : ¬ nulEscape <+: '\x00' :: chars := by simp [nulEscape]
            have removed : removeText nulEscape 0 (('\x00' :: chars).flatMap escapeChar) =
                removeText nulEscape 0 (chars.flatMap escapeChar) := by
              rw [List.flatMap_cons, escapeChar_nul, removeText_pattern (by decide)]
            rw [shown, or_iff_right starts, removed]
            exact tail
          · have kept : withoutNulChars (c :: chars) = c :: withoutNulChars chars := by
              simp [withoutNulChars, nul]
            rw [kept, List.flatMap_cons, List.flatMap_cons, letters_append]
            by_cases slash : c = '\\'
            · subst slash
              have first : ∀ rest, removeText nulEscape 0 ('\\' :: '\\' :: rest) =
                  '\\' :: removeText nulEscape 0 ('\\' :: rest) :=
                fun rest => removeText_keep (by simp [nulEscape])
              rw [escapeChar_slash, List.cons_append, List.singleton_append, first]
              by_cases starts : nulEscape <+: '\\' :: chars
              · right
                refine ⟨shown.mpr (.inl starts), ?_⟩
                obtain ⟨behind, same⟩ := starts
                obtain rfl : 'u' :: '0' :: '0' :: '0' :: '0' :: behind = chars := (List.cons.inj same).2
                have fewer := ih behind.length (by rw [← size]; simp only [List.length_cons]; omega) behind rfl
                have spelled : '\\' :: ('u' :: '0' :: '0' :: '0' :: '0' :: behind).flatMap escapeChar =
                    nulEscape ++ behind.flatMap escapeChar := rfl
                have left : withoutNulChars ('u' :: '0' :: '0' :: '0' :: '0' :: behind) =
                    'u' :: '0' :: '0' :: '0' :: '0' :: withoutNulChars behind := by simp [withoutNulChars]
                have letter : letters (('u' :: '0' :: '0' :: '0' :: '0' :: withoutNulChars behind).flatMap escapeChar) =
                    letters ((withoutNulChars behind).flatMap escapeChar) + 1 := by
                  rw [show ('u' :: '0' :: '0' :: '0' :: '0' :: withoutNulChars behind).flatMap escapeChar =
                    'u' :: '0' :: '0' :: '0' :: '0' :: (withoutNulChars behind).flatMap escapeChar from rfl]
                  simp [letters_cons]
                rw [spelled, removeText_pattern (by decide), left, letter]
                have none_ : letters ['\\', '\\'] = 0 := by decide
                rw [letters_cons, none_]
                rcases fewer with ⟨-, same⟩ | ⟨-, fewer⟩
                · rw [same]
                  simp
                · simp only [Char.reduceEq, if_false]
                  omega
              · rw [removeText_keep (mt (slash_starts_iff chars).mp starts), shown, or_iff_right starts]
                rcases tail with ⟨nowhere, same⟩ | ⟨somewhere, fewer⟩
                · exact .inl ⟨nowhere, by rw [same]; rfl⟩
                · exact .inr ⟨somewhere, by simpa [letters_cons] using fewer⟩
            · have starts : ¬ nulEscape <+: c :: chars := by
                simp [nulEscape, Ne.symm slash]
              rw [removeText_escapeChar nul slash, shown, or_iff_right starts, letters_append]
              rcases tail with ⟨nowhere, same⟩ | ⟨somewhere, fewer⟩
              · exact .inl ⟨nowhere, by rw [same]⟩
              · exact .inr ⟨somewhere, Nat.add_lt_add_left fewer _⟩

/-! ### The text of a value -/

/-- A pattern that can start inside of strings only. -/
structure Inner (pattern : List Char) : Prop where
  start : pattern.head? = some '\\' ∨ pattern.head? = some '\x00'
  quote : '"' ∉ pattern

def isMark (c : Char) : Bool := c != '\\' && c != '\x00'

section
variable {pattern : List Char} (inner : Inner pattern)
include inner

theorem Inner.ne_nil : pattern ≠ [] := by
  rintro rfl
  rcases inner.start with start | start <;> cases start

theorem removeText_mark {c : Char} (mark : isMark c = true) (rest : List Char) :
    removeText pattern 0 (c :: rest) = c :: removeText pattern 0 rest := by
  simp only [isMark, Bool.and_eq_true, bne_iff_ne] at mark
  apply removeText_other _ inner.ne_nil
  intro same
  rcases inner.start with start | start
  · rw [start] at same
    exact mark.1 (Option.some.inj same).symm
  · rw [start] at same
    exact mark.2 (Option.some.inj same).symm

theorem removeText_marks {plain : List Char} (marks : plain.all isMark = true) (rest : List Char) :
    removeText pattern 0 (plain ++ rest) = plain ++ removeText pattern 0 rest := by
  induction plain with
  | nil => rfl
  | cons c plain ih =>
      simp only [List.all_cons, Bool.and_eq_true] at marks
      rw [List.cons_append, removeText_mark inner marks.1, ih marks.2, List.cons_append]

theorem removeText_quoted (text : String) (rest : List Char) :
    removeText pattern 0 (escape text ++ '"' :: rest) =
      removeText pattern 0 (escape text) ++ '"' :: removeText pattern 0 rest := by
  rw [removeText_append inner.quote rest 0 (escape text) (Nat.zero_le _), removeText_mark inner rfl]

omit inner in
theorem number_marks (number : Json.Number) : number.text.all isMark = true := by
  have shaped := number.shaped
  simp only [Json.isNumber, Bool.and_eq_true, List.all_eq_true] at shaped
  rw [List.all_eq_true]
  intro c member
  have numeric := shaped.1 c member
  simp only [isMark, Bool.and_eq_true, bne_iff_ne]
  constructor <;> rintro rfl <;> cases numeric

mutual

/-- Only the strings of a value lose something. -/
theorem removeText_printWith (value : Value) (rest : List Char) :
    removeText pattern 0 (printWith escape value ++ rest) =
      printWith (fun text => removeText pattern 0 (escape text)) value ++ removeText pattern 0 rest := by
  match value with
  | .null => exact removeText_marks inner rfl rest
  | .bool true => exact removeText_marks inner rfl rest
  | .bool false => exact removeText_marks inner rfl rest
  | .number number => exact removeText_marks inner (number_marks number) rest
  | .string text =>
      simp only [printWith, List.cons_append, List.append_assoc, List.nil_append,
        removeText_mark inner (show isMark '"' = true from rfl), removeText_quoted inner]
  | .array [] => exact removeText_marks inner rfl rest
  | .array (item :: items) =>
      simp only [printWith, List.cons_append, List.append_assoc,
        removeText_mark inner (show isMark '[' = true from rfl), removeText_printWith item, removeText_printItems items]
  | .object [] => exact removeText_marks inner rfl rest
  | .object ((name, value) :: fields) =>
      simp only [printWith, List.cons_append, List.append_assoc,
        removeText_mark inner (show isMark '{' = true from rfl), removeText_mark inner (show isMark '"' = true from rfl),
        removeText_mark inner (show isMark ':' = true from rfl), removeText_quoted inner, removeText_printWith value,
        removeText_printFields fields]

theorem removeText_printItems (items : List Value) (rest : List Char) :
    removeText pattern 0 (printItems escape items ++ rest) =
      printItems (fun text => removeText pattern 0 (escape text)) items ++ removeText pattern 0 rest := by
  match items with
  | [] => exact removeText_marks inner rfl rest
  | item :: items =>
      simp only [printItems, List.cons_append, List.append_assoc,
        removeText_mark inner (show isMark ',' = true from rfl), removeText_printWith item, removeText_printItems items]

theorem removeText_printFields (fields : List (String × Value)) (rest : List Char) :
    removeText pattern 0 (printFields escape fields ++ rest) =
      printFields (fun text => removeText pattern 0 (escape text)) fields ++ removeText pattern 0 rest := by
  match fields with
  | [] => exact removeText_marks inner rfl rest
  | (name, value) :: fields =>
      simp only [printFields, List.cons_append, List.append_assoc,
        removeText_mark inner (show isMark ',' = true from rfl), removeText_mark inner (show isMark '"' = true from rfl),
        removeText_mark inner (show isMark ':' = true from rfl), removeText_quoted inner, removeText_printWith value,
        removeText_printFields fields]

end

end

theorem nul_not_mem_escapeChar (c : Char) : '\x00' ∉ escapeChar c := by
  by_cases nul : c = '\x00'
  · rw [nul, escapeChar_nul]
    decide
  · unfold escapeChar
    split_ifs with _ _ _ _ _ _ _ control
    · decide
    · decide
    · decide
    · decide
    · decide
    · decide
    · decide
    · have digits : ∀ n < 16, '\x00' ≠ Json.hexDigit n := by decide
      simp [digits (c.toNat / 16) (by omega), digits (c.toNat % 16) (by omega)]
    · simpa using Ne.symm nul

/-- A NUL character is never written as such. -/
theorem removeText_nul (text : String) : removeText ['\x00'] 0 (escape text) = escape text := by
  have nowhere : ∀ c ∈ escape text, ['\x00'].head? ≠ some c := by
    intro c member same
    obtain rfl : '\x00' = c := Option.some.inj same
    obtain ⟨d, -, inside⟩ := List.mem_flatMap.mp member
    exact nul_not_mem_escapeChar d inside
  simpa [removeText] using removeText_plain nowhere (by decide) []

theorem cleanJsonText_eq (value : Value) :
    cleanJsonText value = printWith (fun text => removeText nulEscape 0 (escape text)) value := by
  have nul := @removeText_printWith ['\x00'] ⟨.inr rfl, by decide⟩ value []
  have escaped := @removeText_printWith nulEscape ⟨.inl rfl, by decide⟩ value []
  simp only [List.append_nil, removeText, removeText_nul] at nul escaped
  rw [cleanJsonText, Json.print, nul]
  exact escaped

theorem escape_withoutNul (text : String) :
    escape (withoutNul text) = (withoutNulChars text.toList).flatMap escapeChar := by
  simp only [escape, withoutNul, String.toList_ofList]
  rfl

/-- The cleaned text has fewer letters than any text of the cleaned value, if an escape shows. -/
theorem letters_cleanJsonText {value : Value} {text : String} (member : text ∈ strings value)
    (shown : ShowsEscape text) :
    letters (cleanJsonText value) < letters (Json.print (Json.mapStrings withoutNul value)) := by
  rw [cleanJsonText_eq, Json.print, Json.printWith_mapStrings, Json.letters_printWith,
    Json.letters_printWith (fun text => escape (withoutNul text))]
  apply Nat.add_lt_add_left
  apply List.sum_lt_sum
  · intro other _
    rw [escape_withoutNul]
    rcases removeText_escape other.toList with ⟨-, same⟩ | ⟨-, fewer⟩
    · exact Nat.le_of_eq (by rw [escape, same])
    · exact fewer.le
  · refine ⟨text, member, ?_⟩
    rw [escape_withoutNul]
    rcases removeText_escape text.toList with ⟨nowhere, -⟩ | ⟨-, fewer⟩
    · exact absurd shown nowhere
    · exact fewer

/-- The cleaned text is a text of the value without its NUL characters, just if no string and
no field name shows an escape. -/
theorem clean_json_text_iff (value : Value) :
    Json.parse (cleanJsonText value) = some (Json.mapStrings withoutNul value) ↔
      ∀ text ∈ strings value, ¬ ShowsEscape text := by
  constructor
  · intro read text member shown
    have enough := Json.letters_print_le read
    have fewer := letters_cleanJsonText member shown
    omega
  · intro clean
    have same : cleanJsonText value = Json.print (Json.mapStrings withoutNul value) := by
      rw [cleanJsonText_eq, Json.print, Json.printWith_mapStrings]
      apply Json.printWith_congr
      intro text member
      rw [escape_withoutNul]
      rcases removeText_escape text.toList with ⟨-, same⟩ | ⟨shown, -⟩
      · exact same
      · exact absurd shown (clean text member)
    rw [same, Json.parse_print]

/-- A backslash and `u0000`. What is left is a backslash before the closing quote. -/
theorem shown_escape_breaks_text :
    ¬ Json.parse (cleanJsonText (.string "\\u0000")) = some (Json.mapStrings withoutNul (.string "\\u0000")) := by
  have broken : Json.parse (cleanJsonText (.string "\\u0000")) = none := rfl
  rw [broken]
  exact fun impossible => by cases impossible

end PaladinsCat.RawBuffer
