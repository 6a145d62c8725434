import PaladinsCat.Regex
import PaladinsCat.Text

/-!
Which names count as synthetic (`workers/profile_enrichment.rs`, `routes/players/provider.rs`,
`routes/search.rs`, `sql_compat.rs`). The two profile writers scan a name by hand, the search
route has two regular expressions of the `regex` crate, and the database one of its own. A
writer passes synthetic names by when it chooses the name of a row; the readers pass them by
when they show one.
-/

namespace PaladinsCat.SyntheticNames

open Regex Text

/-! ### The hand-written scanners -/

/-- `char::is_ascii_hexdigit` -/
def isAsciiHexdigit (c : Char) : Bool := c.isDigit || ('a' ≤ c && c ≤ 'f') || ('A' ≤ c && c ≤ 'F')

/-- `str::len`: the bytes of a text. -/
def byteLength (text : List Char) : ℕ := (text.map Char.utf8Size).sum

/-- `text.split(separator).next()` -/
def beforeFirst (separator : List Char) : List Char → List Char
  | [] => []
  | c :: rest => if separator.isPrefixOf (c :: rest) then [] else c :: beforeFirst separator rest

/-- The body that the worker and the player routes have word for word. -/
def scan (value : String) : Bool :=
  let lower := toAsciiLowercase value
  ("dummyplayer".toList.isPrefixOf lower.toList && (lower.toList.drop "dummyplayer".length).all (·.isDigit)) ||
    (27 ≤ byteLength lower.toList && Text.contains lower "user-" &&
      (let front := beforeFirst "user-".toList lower.toList
       20 ≤ byteLength front && front.all isAsciiHexdigit))

/-! ### The regular expressions -/

def hexdigits : CharClass := .oneOf "0123456789abcdef".toList
def digits : CharClass := .oneOf "0123456789".toList

/-- `DummyPlayer[0-9]+` -/
def dummyName : Pattern := .seq (.text "DummyPlayer") (.plus (.chars digits))

/-- `[0-9a-f]{20,}User-[0-9a-f]{6,}` -/
def epicName : Pattern :=
  .seq (.atLeast (.chars hexdigits) 20) (.seq (.text "User-") (.atLeast (.chars hexdigits) 6))

def asciiUpper (c : Char) : Char := if 97 ≤ c.toNat && c.toNat ≤ 122 then Char.ofNat (c.toNat - 32) else c

/-- `~*` in PostgreSQL: an ASCII letter has its two cases. -/
def asciiVariants (c : Char) : List Char := [asciiLower c, asciiUpper c]

/-- `(?i)` in the `regex` crate: Unicode folds the long s to s, and the Kelvin sign to k. -/
def unicodeVariants (c : Char) : List Char :=
  if asciiLower c = 's' then ['s', 'S', 'ſ']
  else if asciiLower c = 'k' then ['k', 'K', Char.ofNat 0x212A]
  else asciiVariants c

/-- `value ~* '^(DummyPlayer[0-9]+|[0-9a-f]{20,}User-[0-9a-f]{6,})$'` -/
def hidden (value : String) : Bool := ((Pattern.alt dummyName epicName).foldCase asciiVariants).isMatch value.toList

namespace Worker
def syntheticName (value : String) : Bool := scan value
end Worker

namespace Players
def syntheticName (value : String) : Bool := scan value
end Players

namespace Search
def syntheticName (value : String) : Bool :=
  let value := trim value
  (epicName.foldCase unicodeVariants).isMatch value.toList ||
    (dummyName.foldCase unicodeVariants).isMatch value.toList
end Search

/-! ### The names of a row -/

/-- The three names of a raw profile. -/
structure Candidates where
  hzPlayerName : Option String
  hzGamerTag : Option String
  platformName : Option String

/-- `name_source` and `name`: the first candidate that is not synthetic. -/
def chooseName (synthetic : String → Bool) (playerId : ℤ) (names : Candidates) : String × String :=
  let candidates :=
    [("hz_player_name", names.hzPlayerName), ("hz_gamer_tag", names.hzGamerTag), ("name", names.platformName)]
  match candidates.find? fun candidate => candidate.2.any fun value => !synthetic value with
  | some (source, value) => (source, value.getD "")
  | none => ("none", "Player " ++ toString playerId)

/-- The columns of `players` that the readers choose from. -/
structure NameRow where
  id : ℤ
  name : Option String
  hzPlayerName : Option String
  hzGamerTag : Option String

/-- The row that a writer inserts. -/
def insertedRow (synthetic : String → Bool) (playerId : ℤ) (names : Candidates) : NameRow where
  id := playerId
  name := some (chooseName synthetic playerId names).2
  hzPlayerName := names.hzPlayerName
  hzGamerTag := names.hzGamerTag

/-- One `CASE` of `DISPLAY_NAME_SQL`: `NULLIF(name, '') IS NOT NULL AND name !~* …`. -/
def shown (name : Option String) : Option String := name.filter fun value => value != "" && !hidden value

/-- `DISPLAY_NAME_SQL` -/
def displayName (row : NameRow) : String :=
  ((shown row.hzPlayerName).or ((shown row.hzGamerTag).or (shown row.name))).getD ("Player " ++ toString row.id)

/-- `name` in the `DO UPDATE` of the two profile upserts. -/
def updatedName (synthetic : String → Bool) (stored : String) (playerId : ℤ) (names : Candidates) : String :=
  let (source, name) := chooseName synthetic playerId names
  if source ≠ "none" ∧ name ≠ "" then name else if hidden stored then "Player " ++ toString playerId else stored

/-! ### Letters -/

section
variable {c d : Char} {front text user back rest : List Char}

theorem asciiLower_toNat :
    (asciiLower c).toNat = if 65 ≤ c.toNat ∧ c.toNat ≤ 90 then c.toNat + 32 else c.toNat := by
  simp only [asciiLower, Bool.and_eq_true, decide_eq_true_eq]
  split
  · rw [Char.toNat_ofNat, if_pos (Or.inl (by omega))]
  · rfl

theorem asciiLower_small (small : ¬(65 ≤ c.toNat ∧ c.toNat ≤ 90)) : asciiLower c = c :=
  Char.toNat_inj.mp (by rw [asciiLower_toNat, if_neg small])

theorem asciiUpper_toNat :
    (asciiUpper c).toNat = if 97 ≤ c.toNat ∧ c.toNat ≤ 122 then c.toNat - 32 else c.toNat := by
  simp only [asciiUpper, Bool.and_eq_true, decide_eq_true_eq]
  split
  · rw [Char.toNat_ofNat, if_pos (Or.inl (by omega))]
  · rfl

/-- Two characters are cases of each other when they have the same lower case. -/
theorem mem_asciiVariants : d ∈ asciiVariants c ↔ asciiLower d = asciiLower c := by
  rw [asciiVariants, List.mem_cons, List.mem_singleton]
  simp only [← Char.toNat_inj, asciiLower_toNat, asciiUpper_toNat]
  split_ifs <;> omega

theorem isDigit_iff : c.isDigit = true ↔ 48 ≤ c.toNat ∧ c.toNat ≤ 57 := by
  simp [Char.isDigit, UInt32.le_iff_toNat_le]

theorem hexdigit_iff : isAsciiHexdigit c = true ↔
    (48 ≤ c.toNat ∧ c.toNat ≤ 57) ∨ (97 ≤ c.toNat ∧ c.toNat ≤ 102) ∨ (65 ≤ c.toNat ∧ c.toNat ≤ 70) := by
  simp only [isAsciiHexdigit, Bool.or_eq_true, Bool.and_eq_true, isDigit_iff, decide_eq_true_eq, Char.le_def,
    UInt32.le_iff_toNat_le, or_assoc]
  rfl

theorem hexdigit_lower : isAsciiHexdigit (asciiLower c) = isAsciiHexdigit c := by
  rw [Bool.eq_iff_iff, hexdigit_iff, hexdigit_iff, asciiLower_toNat]
  split_ifs <;> omega

theorem digit_lower : (asciiLower c).isDigit = c.isDigit := by
  rw [Bool.eq_iff_iff, isDigit_iff, isDigit_iff, asciiLower_toNat]
  split_ifs <;> omega

theorem mem_hexdigits : c ∈ "0123456789abcdef".toList ↔
    (48 ≤ c.toNat ∧ c.toNat ≤ 57) ∨ (97 ≤ c.toNat ∧ c.toNat ≤ 102) := by
  simp only [String.reduceToList, List.mem_cons, List.not_mem_nil, or_false, ← Char.toNat_inj, Char.reduceToNat]
  omega

theorem mem_digits : c ∈ "0123456789".toList ↔ 48 ≤ c.toNat ∧ c.toNat ≤ 57 := by
  simp only [String.reduceToList, List.mem_cons, List.not_mem_nil, or_false, ← Char.toNat_inj, Char.reduceToNat]
  omega

/-- A class of lower-case characters, without regard to case. -/
theorem mem_fold {letters : List Char} (small : ∀ d ∈ letters, asciiLower d = d) :
    c ∈ letters.flatMap asciiVariants ↔ asciiLower c ∈ letters := by
  rw [List.mem_flatMap]
  constructor
  · rintro ⟨d, listed, variant⟩
    rwa [mem_asciiVariants.mp variant, small d listed]
  · intro listed
    exact ⟨asciiLower c, listed, mem_asciiVariants.mpr (small _ listed).symm⟩

theorem hexdigits_fold :
    (CharClass.oneOf ("0123456789abcdef".toList.flatMap asciiVariants)).contains c = isAsciiHexdigit c := by
  have small : ∀ d ∈ "0123456789abcdef".toList, asciiLower d = d := fun d listed =>
    asciiLower_small (by have := mem_hexdigits.mp listed; omega)
  rw [CharClass.contains, List.contains_eq_mem, Bool.eq_iff_iff, decide_eq_true_eq, mem_fold small, mem_hexdigits,
    asciiLower_toNat, hexdigit_iff]
  split_ifs <;> omega

theorem digits_fold : (CharClass.oneOf ("0123456789".toList.flatMap asciiVariants)).contains c = c.isDigit := by
  have small : ∀ d ∈ "0123456789".toList, asciiLower d = d := fun d listed =>
    asciiLower_small (by have := mem_digits.mp listed; omega)
  rw [CharClass.contains, List.contains_eq_mem, Bool.eq_iff_iff, decide_eq_true_eq, mem_fold small, mem_digits,
    asciiLower_toNat, isDigit_iff]
  split_ifs <;> omega

/-! ### Texts -/

/-- A text without regard to case. -/
theorem spelled_iff {letters word : List Char} :
    List.Forall₂ (fun c d => d ∈ asciiVariants c) letters word ↔ word.map asciiLower = letters.map asciiLower := by
  induction letters generalizing word with
  | nil => simp
  | cons c letters ih =>
      cases word with
      | nil => simp
      | cons d word =>
          rw [List.forall₂_cons, ih, mem_asciiVariants, List.map_cons, List.map_cons, List.cons.injEq]

theorem byteLength_append : byteLength (front ++ rest) = byteLength front + byteLength rest := by
  rw [byteLength, List.map_append, List.sum_append]
  rfl

theorem length_le_byteLength : text.length ≤ byteLength text := by
  induction text with
  | nil => exact Nat.le_refl 0
  | cons c rest ih =>
      have one : 1 ≤ c.utf8Size := c.utf8Size_pos
      rw [byteLength, List.map_cons, List.sum_cons, List.length_cons]
      have : rest.length ≤ (rest.map Char.utf8Size).sum := ih
      omega

theorem utf8Size_ascii (ascii : c.toNat < 128) : c.utf8Size = 1 := by
  rw [Char.utf8Size, if_pos]
  exact UInt32.le_iff_toNat_le.mpr (Nat.le_of_lt_succ ascii)

theorem byteLength_ascii (ascii : ∀ c ∈ text, c.toNat < 128) : byteLength text = text.length := by
  induction text with
  | nil => rfl
  | cons c rest ih =>
      have here := utf8Size_ascii (ascii c List.mem_cons_self)
      have there := ih fun d listed => ascii d (List.mem_cons_of_mem c listed)
      rw [byteLength, List.map_cons, List.sum_cons, here, List.length_cons, Nat.add_comm]
      exact congrArg (· + 1) there

/-- Lower case changes no length. -/
theorem byteLength_lower : byteLength (text.map asciiLower) = byteLength text := by
  have each (c : Char) : (asciiLower c).utf8Size = c.utf8Size := by
    by_cases capital : 65 ≤ c.toNat ∧ c.toNat ≤ 90
    · rw [utf8Size_ascii (by rw [asciiLower_toNat, if_pos capital]; omega), utf8Size_ascii (by omega)]
    · rw [asciiLower_small capital]
  rw [byteLength, List.map_map]
  exact congrArg List.sum (List.map_congr_left fun c _ => each c)

/-! ### The two shapes of a synthetic name -/

def Hex (text : List Char) : Prop := ∀ c ∈ text, isAsciiHexdigit c = true

theorem mem_dummyName : text ∈ (dummyName.foldCase asciiVariants).language ↔
    ∃ word rest, text = word ++ rest ∧ word.map asciiLower = "dummyplayer".toList ∧
      rest ≠ [] ∧ ∀ c ∈ rest, c.isDigit = true := by
  have number : (Pattern.plus (.chars digits)).foldCase asciiVariants =
      .plus (.chars (.oneOf ("0123456789".toList.flatMap asciiVariants))) := rfl
  rw [dummyName, Pattern.foldCase, number, Pattern.language, Language.mem_mul]
  simp only [Pattern.mem_plus_chars, digits_fold, Pattern.text, Pattern.mem_foldCase_literal, spelled_iff]
  constructor
  · rintro ⟨word, spelled, rest, number, rfl⟩
    exact ⟨word, rest, rfl, spelled, number⟩
  · rintro ⟨word, rest, rfl, spelled, number⟩
    exact ⟨word, spelled, rest, number, rfl⟩

theorem mem_epicName {variants : Char → List Char}
    (hexes : ∀ c, (CharClass.oneOf ("0123456789abcdef".toList.flatMap variants)).contains c = isAsciiHexdigit c) :
    text ∈ (epicName.foldCase variants).language ↔
      ∃ front ring back, text = front ++ (ring ++ back) ∧ 20 ≤ front.length ∧ Hex front ∧
        List.Forall₂ (fun c d => d ∈ variants c) "User-".toList ring ∧ 6 ≤ back.length ∧ Hex back := by
  have number (count : ℕ) : (Pattern.atLeast (.chars hexdigits) count).foldCase variants =
      .atLeast (.chars (.oneOf ("0123456789abcdef".toList.flatMap variants))) count := Pattern.foldCase_atLeast ..
  rw [epicName, Pattern.foldCase, Pattern.foldCase, number, number, Pattern.language, Language.mem_mul]
  simp only [Pattern.language, Language.mem_mul, Pattern.mem_atLeast_chars, hexes, Pattern.text,
    Pattern.mem_foldCase_literal]
  constructor
  · rintro ⟨front, ⟨long, hex⟩, _, ⟨ring, spelled, back, ⟨enough, tail⟩, rfl⟩, rfl⟩
    exact ⟨front, ring, back, rfl, long, hex, spelled, enough, tail⟩
  · rintro ⟨front, ring, back, rfl, long, hex, spelled, enough, tail⟩
    exact ⟨front, ⟨long, hex⟩, ring ++ back, ⟨ring, spelled, back, ⟨enough, tail⟩, rfl⟩, rfl⟩

/-! ### What the scanners accept -/

theorem beforeFirst_append {separator : List Char} (free : ∀ d ∈ front, d ≠ c) :
    beforeFirst (c :: separator) (front ++ (c :: separator ++ rest)) = front := by
  induction front with
  | nil => simp [beforeFirst]
  | cons d front ih =>
      obtain ⟨other, others⟩ := List.forall_mem_cons.mp free
      have later : (c :: separator).isPrefixOf (d :: (front ++ (c :: separator ++ rest))) = false := by
        simp [List.isPrefixOf, Ne.symm other]
      rw [List.cons_append, beforeFirst, later, ih others]
      rfl

theorem beforeFirst_split {separator : List Char} (inside : (text.tails.any fun rest => separator.isPrefixOf rest) = true) :
    ∃ rest, text = beforeFirst separator text ++ (separator ++ rest) := by
  induction text with
  | nil =>
      have empty : separator = [] := by simpa using inside
      exact ⟨[], by simp [beforeFirst, empty]⟩
  | cons c text ih =>
      rw [List.tails, List.any_cons, Bool.or_eq_true] at inside
      by_cases here : separator.isPrefixOf (c :: text) = true
      · obtain ⟨rest, joined⟩ := List.isPrefixOf_iff_prefix.mp here
        exact ⟨rest, by rw [beforeFirst, if_pos here, joined, List.nil_append]⟩
      · obtain ⟨rest, joined⟩ := ih (inside.resolve_left here)
        refine ⟨rest, ?_⟩
        rw [beforeFirst, if_neg here, List.cons_append, ← joined]

theorem contains_split {value pattern : String} (inside : Text.contains value pattern = true) :
    ∃ rest, value.toList = beforeFirst pattern.toList value.toList ++ (pattern.toList ++ rest) :=
  beforeFirst_split inside

theorem contains_append {value pattern : String} (joined : value.toList = front ++ (pattern.toList ++ rest)) :
    Text.contains value pattern = true := by
  rw [Text.contains, List.any_eq_true]
  refine ⟨pattern.toList ++ rest, ?_, List.isPrefixOf_iff_prefix.mpr (List.prefix_append _ _)⟩
  rw [List.mem_tails, joined]
  exact List.suffix_append _ _

theorem hex_lower : Hex (text.map asciiLower) ↔ Hex text := by
  simp only [Hex, List.forall_mem_map, hexdigit_lower]

theorem Hex.byteLength (hex : Hex text) : byteLength text = text.length :=
  byteLength_ascii fun c listed => by
    have := hexdigit_iff.mp (hex c listed)
    omega

/-- A name of dummy shape for the scanners: nothing need follow the word. -/
def ScannedDummy (text : List Char) : Prop :=
  ∃ word rest, text = word ++ rest ∧ word.map asciiLower = "dummyplayer".toList ∧ ∀ c ∈ rest, c.isDigit = true

/-- A name of epic shape for the scanners: anything may follow, up to a length of the whole. -/
def ScannedEpic (text : List Char) : Prop :=
  ∃ front ring back, text = front ++ (ring ++ back) ∧ 20 ≤ front.length ∧ Hex front ∧
    ring.map asciiLower = "user-".toList ∧ 27 ≤ byteLength text

theorem scanned_dummy {value : String} :
    ("dummyplayer".toList.isPrefixOf (toAsciiLowercase value).toList &&
      ((toAsciiLowercase value).toList.drop "dummyplayer".length).all (·.isDigit)) = true ↔
    ScannedDummy value.toList := by
  have lowered : (toAsciiLowercase value).toList = value.toList.map asciiLower := String.toList_ofList
  have behind (rest : List Char) : ("dummyplayer".toList ++ rest).drop "dummyplayer".length = rest :=
    List.drop_left' String.length_toList
  rw [lowered, Bool.and_eq_true, List.isPrefixOf_iff_prefix, List.all_eq_true]
  constructor
  · rintro ⟨⟨_, joined⟩, number⟩
    obtain ⟨word, rest, whole, spelled, rfl⟩ := List.map_eq_append_iff.mp joined.symm
    refine ⟨word, rest, whole, spelled, fun c listed => ?_⟩
    rw [← digit_lower]
    refine number _ ?_
    rw [← joined, behind]
    exact List.mem_map_of_mem listed
  · rintro ⟨word, rest, whole, spelled, number⟩
    rw [whole, List.map_append, spelled, behind]
    refine ⟨List.prefix_append _ _, fun c listed => ?_⟩
    obtain ⟨d, back, rfl⟩ := List.mem_map.mp listed
    rw [digit_lower, number d back]

theorem scanned_epic {value : String} :
    (27 ≤ byteLength (toAsciiLowercase value).toList && Text.contains (toAsciiLowercase value) "user-" &&
      (20 ≤ byteLength (beforeFirst "user-".toList (toAsciiLowercase value).toList) &&
        (beforeFirst "user-".toList (toAsciiLowercase value).toList).all isAsciiHexdigit)) = true ↔
    ScannedEpic value.toList := by
  have lowered : (toAsciiLowercase value).toList = value.toList.map asciiLower := String.toList_ofList
  simp only [Bool.and_eq_true, decide_eq_true_eq, List.all_eq_true]
  constructor
  · rintro ⟨⟨bytes, inside⟩, long, hex⟩
    obtain ⟨rest, joined⟩ := contains_split inside
    obtain ⟨front, tail, whole, first, second⟩ := List.map_eq_append_iff.mp (lowered.symm.trans joined)
    obtain ⟨ring, back, rfl, spelled, -⟩ := List.map_eq_append_iff.mp second
    have hexFront : Hex front := hex_lower.mp (first ▸ hex)
    rw [← first, byteLength_lower, hexFront.byteLength] at long
    rw [lowered, byteLength_lower] at bytes
    exact ⟨front, ring, back, whole, long, hexFront, spelled, bytes⟩
  · rintro ⟨front, ring, back, whole, long, hex, spelled, bytes⟩
    have joined : (toAsciiLowercase value).toList =
        front.map asciiLower ++ ("user-".toList ++ back.map asciiLower) := by
      rw [lowered, whole, List.map_append, List.map_append, spelled]
    -- no hexadecimal digit is a u, so the word is not found before the front ends
    have before : beforeFirst "user-".toList (toAsciiLowercase value).toList = front.map asciiLower := by
      rw [joined]
      refine beforeFirst_append fun d listed same => ?_
      have hexU := hex_lower.mpr hex d listed
      rw [same] at hexU
      exact absurd hexU (by decide)
    rw [before, byteLength_lower, hex.byteLength, lowered, byteLength_lower]
    exact ⟨⟨bytes, contains_append joined⟩, long, hex_lower.mpr hex⟩

theorem scan_iff {value : String} : scan value = true ↔ ScannedDummy value.toList ∨ ScannedEpic value.toList := by
  rw [scan, Bool.or_eq_true, scanned_dummy, scanned_epic]

/-! ### What the regular expressions accept -/

def MatchedDummy (text : List Char) : Prop :=
  ∃ word rest, text = word ++ rest ∧ word.map asciiLower = "dummyplayer".toList ∧
    rest ≠ [] ∧ ∀ c ∈ rest, c.isDigit = true

def MatchedEpic (variants : Char → List Char) (text : List Char) : Prop :=
  ∃ front ring back, text = front ++ (ring ++ back) ∧ 20 ≤ front.length ∧ Hex front ∧
    List.Forall₂ (fun c d => d ∈ variants c) "User-".toList ring ∧ 6 ≤ back.length ∧ Hex back

theorem unicodeVariants_plain (noS : asciiLower c ≠ 's') (noK : asciiLower c ≠ 'k') :
    unicodeVariants c = asciiVariants c := by rw [unicodeVariants, if_neg noS, if_neg noK]

theorem hexdigits_unicode :
    "0123456789abcdef".toList.flatMap unicodeVariants = "0123456789abcdef".toList.flatMap asciiVariants := by
  refine List.flatMap_congr fun c listed => ?_
  have range := mem_hexdigits.mp listed
  have same : asciiLower c = c := asciiLower_small (by omega)
  refine unicodeVariants_plain (fun s => ?_) (fun k => ?_)
  · rw [same.symm.trans s] at range
    exact absurd range (by decide)
  · rw [same.symm.trans k] at range
    exact absurd range (by decide)

theorem dummyName_unicode : dummyName.foldCase unicodeVariants = dummyName.foldCase asciiVariants := rfl

theorem hidden_iff {value : String} :
    hidden value = true ↔ MatchedDummy value.toList ∨ MatchedEpic asciiVariants value.toList := by
  rw [hidden, Pattern.isMatch_iff, Pattern.foldCase, Pattern.language, Language.mem_add, mem_dummyName,
    mem_epicName fun _ => hexdigits_fold]
  rfl

theorem search_iff {value : String} (trimmed : trim value = value) :
    Search.syntheticName value = true ↔ MatchedDummy value.toList ∨ MatchedEpic unicodeVariants value.toList := by
  rw [Search.syntheticName, trimmed, Bool.or_eq_true, Pattern.isMatch_iff, Pattern.isMatch_iff, dummyName_unicode,
    mem_dummyName, mem_epicName (hexdigits_unicode ▸ fun _ => hexdigits_fold), or_comm]
  rfl

/-! ### Where the copies part -/

/-- The names that are synthetic for one copy and not for another. -/
inductive Boundary : List Char → Prop
  /-- The scanners need no digit. -/
  | bare {word : List Char} (spelled : word.map asciiLower = "dummyplayer".toList) : Boundary word
  /-- The scanners do not look behind `User-`. -/
  | tail {front ring back : List Char} (long : 20 ≤ front.length) (hex : Hex front)
      (spelled : ring.map asciiLower = "user-".toList) (bytes : 27 ≤ byteLength (front ++ (ring ++ back)))
      (malformed : ¬(6 ≤ back.length ∧ Hex back)) : Boundary (front ++ (ring ++ back))
  /-- The search route folds the long s. -/
  | longS {front back : List Char} {u e r : Char} (long : 20 ≤ front.length) (hex : Hex front)
      (spelled : [u, e, r].map asciiLower = "uer".toList) (enough : 6 ≤ back.length) (digits : Hex back) :
      Boundary (front ++ ([u, 'ſ', e, r, '-'] ++ back))

theorem matchedEpic_scanned (epic : MatchedEpic asciiVariants text) : ScannedEpic text := by
  obtain ⟨front, ring, back, rfl, long, hex, spelled, enough, -⟩ := epic
  have five : ring.length = 5 := spelled.length_eq.symm
  have bytes : (front ++ (ring ++ back)).length ≤ byteLength (front ++ (ring ++ back)) := length_le_byteLength
  rw [List.length_append, List.length_append] at bytes
  exact ⟨front, ring, back, rfl, long, hex, spelled_iff.mp spelled, by omega⟩

theorem matchedDummy_scanned (dummy : MatchedDummy text) : ScannedDummy text := by
  obtain ⟨word, rest, joined, spelled, -, number⟩ := dummy
  exact ⟨word, rest, joined, spelled, number⟩

theorem variant_unicode (variant : d ∈ asciiVariants c) : d ∈ unicodeVariants c := by
  have same := mem_asciiVariants.mp variant
  have small : asciiVariants 's' = ['s', 'S'] ∧ asciiVariants 'k' = ['k', 'K'] := by decide
  unfold unicodeVariants
  split_ifs with s k
  · have folded : d ∈ asciiVariants 's' := mem_asciiVariants.mpr (same.trans s)
    rw [small.1] at folded
    exact List.mem_append_left ['ſ'] folded
  · have folded : d ∈ asciiVariants 'k' := mem_asciiVariants.mpr (same.trans k)
    rw [small.2] at folded
    exact List.mem_append_left [_] folded
  · exact variant

/-- The folds of `User-`. -/
theorem ring_unicode {ring : List Char} :
    List.Forall₂ (fun c d => d ∈ unicodeVariants c) "User-".toList ring ↔
      List.Forall₂ (fun c d => d ∈ asciiVariants c) "User-".toList ring ∨
        ∃ u e r, ring = [u, 'ſ', e, r, '-'] ∧ [u, e, r].map asciiLower = "uer".toList := by
  have letters : "User-".toList = ['U', 's', 'e', 'r', '-'] := rfl
  have hyphen : asciiVariants '-' = ['-', '-'] := rfl
  have three {u e r : Char} : [u, e, r].map asciiLower = "uer".toList ↔
      u ∈ asciiVariants 'U' ∧ e ∈ asciiVariants 'e' ∧ r ∈ asciiVariants 'r' := by
    have lowered : asciiLower 'U' = 'u' ∧ asciiLower 'e' = 'e' ∧ asciiLower 'r' = 'r' := by decide
    rw [mem_asciiVariants, mem_asciiVariants, mem_asciiVariants, lowered.1, lowered.2.1, lowered.2.2]
    simp
  rw [letters]
  constructor
  · rintro (_ | ⟨inU, _ | ⟨inS, _ | ⟨inE, _ | ⟨inR, _ | ⟨inHyphen, ⟨⟩⟩⟩⟩⟩⟩)
    rename_i u s e r h
    -- only the s has a variant that is not ASCII
    rcases List.mem_cons.mp inS with rfl | other
    · exact .inl (.cons inU (.cons (by decide) (.cons inE (.cons inR (.cons inHyphen .nil)))))
    · rcases List.mem_cons.mp other with rfl | long
      · exact .inl (.cons inU (.cons (by decide) (.cons inE (.cons inR (.cons inHyphen .nil)))))
      · have isLong : s = 'ſ' := by simpa using long
        have isHyphen : h = '-' := by simpa [hyphen] using (show h ∈ asciiVariants '-' from inHyphen)
        exact .inr ⟨u, e, r, by rw [isLong, isHyphen], three.mpr ⟨inU, inE, inR⟩⟩
  · rintro (folded | ⟨u, e, r, rfl, spelled⟩)
    · exact folded.imp fun c d variant => variant_unicode variant
    · obtain ⟨inU, inE, inR⟩ := three.mp spelled
      exact .cons inU (.cons (by decide) (.cons inE (.cons inR (.cons (by decide) .nil))))

/-- The front ends where the hexadecimal digits end. -/
theorem front_unique {front front' : List Char} {rest rest' : List Char} (hex : Hex front) (hex' : Hex front')
    (ends : isAsciiHexdigit c = false) (ends' : isAsciiHexdigit d = false)
    (same : front ++ c :: rest = front' ++ d :: rest') : front = front' ∧ c :: rest = d :: rest' := by
  induction front generalizing front' with
  | nil =>
      cases front' with
      | nil => exact ⟨rfl, same⟩
      | cons a front' =>
          obtain ⟨rfl, -⟩ := List.cons.inj same
          rw [hex' c List.mem_cons_self] at ends
          cases ends
  | cons a front ih =>
      cases front' with
      | nil =>
          obtain ⟨rfl, -⟩ := List.cons.inj same
          rw [hex a List.mem_cons_self] at ends'
          cases ends'
      | cons b front' =>
          obtain ⟨rfl, later⟩ := List.cons.inj same
          have tails := ih (fun e listed => hex e (List.mem_cons_of_mem _ listed))
            (fun e listed => hex' e (List.mem_cons_of_mem _ listed)) later
          exact ⟨congrArg _ tails.1, tails.2⟩

/-- The second letter of the word is no hexadecimal digit. -/
theorem dummy_not_hex {word : List Char} (spelled : word.map asciiLower = "dummyplayer".toList)
    (long : 20 ≤ front.length) (hex : Hex front) : word ++ rest ≠ front ++ back := by
  intro same
  rcases front with _ | ⟨a, _ | ⟨b, front⟩⟩
  · cases long
  · simp at long
  · rcases word with _ | ⟨a', _ | ⟨u, word⟩⟩
    · cases spelled
    · cases (List.cons.inj spelled).2
    · have second : asciiLower u = 'u' := (List.cons.inj (List.cons.inj spelled).2).1
      obtain ⟨rfl, -⟩ := List.cons.inj (List.cons.inj same).2
      have hexU := hexdigit_lower.trans (hex u (List.mem_cons_of_mem _ List.mem_cons_self))
      rw [second] at hexU
      cases hexU

/-- A text has one front, one ring and one back. -/
theorem epic_unique {ring front' ring' back' : List Char} (hex : Hex front) (hex' : Hex front')
    (start : ring.head?.all (fun u => !isAsciiHexdigit u) = true) (five : ring.length = 5)
    (start' : ring'.head?.all (fun u => !isAsciiHexdigit u) = true) (five' : ring'.length = 5)
    (same : front ++ (ring ++ back) = front' ++ (ring' ++ back')) : ring = ring' ∧ back = back' := by
  cases ring with
  | nil => cases five
  | cons u ring =>
      cases ring' with
      | nil => cases five'
      | cons u' ring' =>
          obtain ⟨-, rings⟩ := front_unique hex hex' (by simpa using start) (by simpa using start') same
          exact List.append_inj rings (five.trans five'.symm)

theorem ring_start {ring : List Char} (spelled : ring.map asciiLower = "user-".toList) :
    ring.head?.all (fun u => !isAsciiHexdigit u) = true ∧ ring.length = 5 := by
  refine ⟨?_, by simpa using congrArg List.length spelled⟩
  cases ring with
  | nil => rfl
  | cons u ring =>
      have first : asciiLower u = 'u' := (List.cons.inj spelled).1
      rw [List.head?_cons, Option.all_some, ← hexdigit_lower, first]
      rfl

theorem longS_start {u e r : Char} (spelled : [u, e, r].map asciiLower = "uer".toList) :
    [u, 'ſ', e, r, '-'].head?.all (fun u => !isAsciiHexdigit u) = true := by
  have first : asciiLower u = 'u' := (List.cons.inj spelled).1
  rw [List.head?_cons, Option.all_some, ← hexdigit_lower, first]
  rfl

theorem boundary_not_matched (boundary : Boundary text) : ¬(MatchedDummy text ∨ MatchedEpic asciiVariants text) := by
  rintro (⟨word, rest, joined, spelled, some_, -⟩ | ⟨front', ring', back', joined, long', hex', spelled', enough', digits'⟩)
  · cases boundary with
    | bare bare =>
        -- both words have eleven letters, so that no digit is left
        have lengths := congrArg List.length (bare.trans spelled.symm)
        rw [joined, List.length_map, List.length_map, List.length_append] at lengths
        exact some_ (List.length_eq_zero_iff.mp (by omega))
    | tail long hex => exact dummy_not_hex spelled long hex joined.symm
    | longS long hex => exact dummy_not_hex spelled long hex joined.symm
  · have ascii := spelled_iff.mp spelled'
    obtain ⟨start', five'⟩ := ring_start ascii
    cases boundary with
    | bare bare => exact dummy_not_hex bare long' hex' ((List.append_nil _).trans joined)
    | tail long hex spelled bytes malformed =>
        obtain ⟨start, five⟩ := ring_start spelled
        obtain ⟨-, rfl⟩ := epic_unique hex hex' start five start' five' joined
        exact malformed ⟨enough', digits'⟩
    | longS long hex spelled =>
        -- the ring would have the long s for its second letter
        obtain ⟨rfl, -⟩ := epic_unique hex hex' (longS_start spelled) rfl start' five' joined
        have second := (List.cons.inj (List.cons.inj ascii).2).1
        exact absurd second (by decide)

/-- What some copy takes for synthetic and the database does not. -/
theorem boundary_iff : Boundary text ↔
    (ScannedDummy text ∨ ScannedEpic text ∨ MatchedEpic unicodeVariants text) ∧
      ¬(MatchedDummy text ∨ MatchedEpic asciiVariants text) := by
  constructor
  · intro boundary
    refine ⟨?_, boundary_not_matched boundary⟩
    cases boundary with
    | bare spelled => exact .inl ⟨text, [], (List.append_nil _).symm, spelled, by simp⟩
    | tail long hex spelled bytes => exact .inr (.inl ⟨_, _, _, rfl, long, hex, spelled, bytes⟩)
    | longS long hex spelled enough digits =>
        exact .inr (.inr ⟨_, _, _, rfl, long, hex, ring_unicode.mpr (.inr ⟨_, _, _, rfl, spelled⟩), enough, digits⟩)
  · rintro ⟨⟨word, rest, rfl, spelled, number⟩ | ⟨front, ring, back, rfl, long, hex, spelled, bytes⟩ |
      ⟨front, ring, back, rfl, long, hex, folded, enough, digits⟩, unmatched⟩
    · -- with a digit behind it the word would be matched
      by_cases bare : rest = []
      · rw [bare, List.append_nil]
        exact .bare spelled
      · exact absurd (.inl ⟨word, rest, rfl, spelled, bare, number⟩) unmatched
    · refine .tail long hex spelled bytes fun wellFormed => unmatched (.inr ?_)
      exact ⟨front, ring, back, rfl, long, hex, spelled_iff.mpr spelled, wellFormed⟩
    · rcases ring_unicode.mp folded with ascii | ⟨u, e, r, rfl, spelled⟩
      · exact absurd (.inr ⟨front, ring, back, rfl, long, hex, ascii, enough, digits⟩) unmatched
      · exact .longS long hex spelled enough digits

/-! ### Agreement -/

end

/-- The three places that write a profile. -/
inductive Writer where
  | worker
  | players
  | search

def Writer.syntheticName : Writer → String → Bool
  | .worker => Worker.syntheticName
  | .players => Players.syntheticName
  | .search => Search.syntheticName

section
variable {value : String}

theorem copies_agree_iff (trimmed : trim value = value) :
    (∀ writer : Writer, writer.syntheticName value = hidden value) ↔ ¬Boundary value.toList := by
  have scanned (hides : hidden value = true) : scan value = true :=
    scan_iff.mpr ((hidden_iff.mp hides).imp matchedDummy_scanned matchedEpic_scanned)
  have searched (hides : hidden value = true) : Search.syntheticName value = true := by
    refine (search_iff trimmed).mpr ((hidden_iff.mp hides).imp_right ?_)
    rintro ⟨front, ring, back, joined, long, hex, folded, rest⟩
    exact ⟨front, ring, back, joined, long, hex, ring_unicode.mpr (.inl folded), rest⟩
  rw [boundary_iff, ← or_assoc, ← scan_iff, ← hidden_iff, not_and, not_not]
  constructor
  · rintro agree (byScan | epic)
    · exact (agree .worker).symm.trans byScan
    · exact (agree .search).symm.trans ((search_iff trimmed).mpr (.inr epic))
  · -- the worker and the player routes scan alike, so one equation serves both
    intro onlyHidden writer
    have fromScan : scan value = hidden value :=
      Bool.eq_iff_iff.mpr ⟨fun byScan => onlyHidden (.inl byScan), scanned⟩
    cases writer with
    | worker => exact fromScan
    | players => exact fromScan
    | search =>
        refine Bool.eq_iff_iff.mpr ⟨fun bySearch => ?_, searched⟩
        rcases (search_iff trimmed).mp bySearch with dummy | epic
        · exact hidden_iff.mpr (.inl dummy)
        · exact onlyHidden (.inr epic)

/-- The placeholder is never taken for synthetic. -/
theorem placeholder_shown (playerId : ℤ) : hidden ("Player " ++ toString playerId) = false := by
  have start : ("Player " ++ toString playerId).toList = 'P' :: ("layer ".toList ++ (toString playerId).toList) := by
    rw [String.toList_append]
    rfl
  refine Bool.eq_false_iff.mpr fun hides => ?_
  rcases hidden_iff.mp hides with ⟨word, rest, joined, spelled, -⟩ | ⟨front, ring, back, joined, long, hex, -⟩
  · cases word with
    | nil => cases spelled
    | cons c word =>
        have first : asciiLower c = 'd' := (List.cons.inj spelled).1
        obtain ⟨rfl, -⟩ := List.cons.inj (start.symm.trans joined)
        exact absurd first (by decide)
  · cases front with
    | nil => cases long
    | cons c front =>
        obtain ⟨rfl, -⟩ := List.cons.inj (start.symm.trans joined)
        exact absurd (hex _ List.mem_cons_self) (by decide)

end

/-! ### The name that is stored and the name that is shown -/

def Candidates.values (names : Candidates) : List String :=
  [names.hzPlayerName, names.hzGamerTag, names.platformName].reduceOption

/-- Names as the writers read them, away from the boundary. -/
def Candidates.Clear (names : Candidates) : Prop :=
  ∀ value ∈ names.values, value ≠ "" ∧ trim value = value ∧ ¬Boundary value.toList

section
variable {synthetic : String → Bool} {playerId : ℤ} {names : Candidates}

/-- A name, unless it is synthetic. -/
def plain (synthetic : String → Bool) (name : Option String) : Option String :=
  name.filter fun value => !synthetic value

theorem plain_some {value : String} (real : synthetic value = false) : plain synthetic (some value) = some value := by
  rw [plain, Option.filter_some, real]
  rfl

theorem plain_none {value : String} (fake : synthetic value = true) : plain synthetic (some value) = none := by
  rw [plain, Option.filter_some, fake]
  rfl

theorem find_cons (source : String) (name : Option String) (rest : List (String × Option String)) :
    (((source, name) :: rest).find? fun candidate => candidate.2.any fun value => !synthetic value) =
      ((plain synthetic name).map fun value => (source, some value)).or
        (rest.find? fun candidate => candidate.2.any fun value => !synthetic value) := by
  cases name with
  | none => rfl
  | some value =>
      cases real : synthetic value with
      | false => rw [plain_some real, List.find?_cons_of_pos (by simp [real]), Option.map_some, Option.some_or]
      | true => rw [plain_none real, List.find?_cons_of_neg (by simp [real]), Option.map_none, Option.none_or]

theorem chooseName_eq : chooseName synthetic playerId names =
    (((plain synthetic names.hzPlayerName).map fun value => ("hz_player_name", value)).or
      (((plain synthetic names.hzGamerTag).map fun value => ("hz_gamer_tag", value)).or
        ((plain synthetic names.platformName).map fun value => ("name", value)))).getD
      ("none", "Player " ++ toString playerId) := by
  rw [chooseName, find_cons, find_cons, find_cons, List.find?_nil]
  cases plain synthetic names.hzPlayerName with
  | some value => rfl
  | none =>
      cases plain synthetic names.hzGamerTag with
      | some value => rfl
      | none =>
          cases plain synthetic names.platformName with
          | some value => rfl
          | none => rfl

theorem mem_values {value : String} : value ∈ names.values ↔
    names.hzPlayerName = some value ∨ names.hzGamerTag = some value ∨ names.platformName = some value := by
  simp only [Candidates.values, List.reduceOption_mem_iff, List.mem_cons, List.not_mem_nil, or_false, eq_comm]

theorem shown_some {name : Option String} {value : String} :
    shown name = some value ↔ name = some value ∧ value ≠ "" ∧ hidden value = false := by
  simp [shown, Option.filter_eq_some_iff]

/-- Away from the boundary a writer passes by what the readers pass by. -/
theorem plain_shown {writer : Writer} (clear : names.Clear) {name : Option String}
    (listed : ∀ value, name = some value → value ∈ names.values) : plain writer.syntheticName name = shown name := by
  cases name with
  | none => rfl
  | some value =>
      obtain ⟨some_, trimmed, inside⟩ := clear value (listed value rfl)
      have agree := (copies_agree_iff trimmed).mpr inside writer
      rw [plain, shown, Option.filter_some, Option.filter_some, agree, bne_iff_ne.mpr some_, Bool.true_and]

theorem chooseName_shown {writer : Writer} (clear : names.Clear) : chooseName writer.syntheticName playerId names =
    (((shown names.hzPlayerName).map fun value => ("hz_player_name", value)).or
      (((shown names.hzGamerTag).map fun value => ("hz_gamer_tag", value)).or
        ((shown names.platformName).map fun value => ("name", value)))).getD
      ("none", "Player " ++ toString playerId) := by
  rw [chooseName_eq, plain_shown clear fun _ same => mem_values.mpr (.inl same),
    plain_shown clear fun _ same => mem_values.mpr (.inr (.inl same)),
    plain_shown clear fun _ same => mem_values.mpr (.inr (.inr same))]

/-- The name of a new row is the one that its readers show. -/
theorem displayName_inserted {writer : Writer} (clear : names.Clear) :
    displayName (insertedRow writer.syntheticName playerId names) =
      (chooseName writer.syntheticName playerId names).2 := by
  have shownFirst : (insertedRow writer.syntheticName playerId names).name =
      some (chooseName writer.syntheticName playerId names).2 := rfl
  rw [displayName, shownFirst, chooseName_shown clear]
  change ((shown names.hzPlayerName).or ((shown names.hzGamerTag).or _)).getD ("Player " ++ toString playerId) = _
  cases shown names.hzPlayerName with
  | some value => rfl
  | none =>
      cases shown names.hzGamerTag with
      | some value => rfl
      | none =>
          cases platform : shown names.platformName with
          | some value =>
              have again : shown (some value) = some value := shown_some.mpr ⟨rfl, (shown_some.mp platform).2⟩
              simp only [Option.map_none, Option.none_or, Option.map_some, Option.getD_some, again]
          | none =>
              simp only [Option.map_none, Option.none_or, Option.getD_none]
              rw [shown, Option.filter_some]
              split <;> rfl

theorem chooseName_cases {writer : Writer} (playerId : ℤ) (clear : names.Clear) :
    (chooseName writer.syntheticName playerId names = ("none", "Player " ++ toString playerId) ∧
      shown names.hzPlayerName = none ∧ shown names.hzGamerTag = none ∧ shown names.platformName = none) ∨
    ((chooseName writer.syntheticName playerId names).1 ≠ "none" ∧
      hidden (chooseName writer.syntheticName playerId names).2 = false) := by
  rw [chooseName_shown clear]
  cases first : shown names.hzPlayerName with
  | some value => exact .inr ⟨(by decide : "hz_player_name" ≠ "none"), (shown_some.mp first).2.2⟩
  | none =>
      cases second : shown names.hzGamerTag with
      | some value => exact .inr ⟨(by decide : "hz_gamer_tag" ≠ "none"), (shown_some.mp second).2.2⟩
      | none =>
          cases third : shown names.platformName with
          | some value => exact .inr ⟨(by decide : "name" ≠ "none"), (shown_some.mp third).2.2⟩
          | none => exact .inl ⟨rfl, rfl, rfl, rfl⟩

/-- The placeholder is taken only where every candidate is hidden. -/
theorem none_hidden {writer : Writer} (clear : names.Clear)
    (placeholder : (chooseName writer.syntheticName playerId names).1 = "none") :
    ∀ value ∈ names.values, hidden value = true := by
  intro value listed
  rcases chooseName_cases playerId clear with ⟨-, first, second, third⟩ | ⟨real, -⟩
  · by_contra real
    have visible : shown (some value) = some value :=
      shown_some.mpr ⟨rfl, (clear value listed).1, Bool.eq_false_iff.mpr real⟩
    rcases mem_values.mp listed with same | same | same
    · rw [same, visible] at first
      cases first
    · rw [same, visible] at second
      cases second
    · rw [same, visible] at third
      cases third
  · exact absurd placeholder real

/-- An upsert leaves no name that the readers hide, whatever was stored. -/
theorem updatedName_shown {writer : Writer} (clear : names.Clear) (stored : String) :
    hidden (updatedName writer.syntheticName stored playerId names) = false := by
  have kept : hidden (if hidden stored then "Player " ++ toString playerId else stored) = false := by
    by_cases repaired : hidden stored = true
    · rw [if_pos repaired]
      exact placeholder_shown playerId
    · rw [if_neg repaired]
      exact Bool.eq_false_iff.mpr repaired
  rcases chooseName_cases playerId clear with ⟨none_, -⟩ | ⟨-, real⟩
  · rw [updatedName, none_]
    exact kept
  · rw [updatedName]
    split
    rename_i source name chosen
    rw [chosen] at real
    by_cases taken : source ≠ "none" ∧ name ≠ ""
    · rw [if_pos taken]
      exact real
    · rw [if_neg taken]
      exact kept

end

theorem hidden_clear {value : String} (hides : hidden value = true) : ¬Boundary value.toList :=
  fun boundary => (boundary_iff.mp boundary).2 (hidden_iff.mp hides)

end PaladinsCat.SyntheticNames
