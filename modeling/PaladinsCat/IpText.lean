import PaladinsCat.Text

/-!
The text forms of IP addresses in the Rust standard library: the parsers of
`core::net` and `Display`. A parser takes the characters that are left and gives a
value with the rest, and what fails has read nothing.
-/

namespace IpText

inductive IpAddr where
  | v4 (a b c d : UInt8)
  | v6 (segments : Vector UInt16 8)
  deriving DecidableEq, Repr

/-! ### Reading -/

/-- `char::to_digit`. -/
def toDigit (radix : Nat) (c : Char) : Option Nat :=
  let value :=
    if c.isDigit then some (c.toNat - 48)
    else if 97 ≤ c.toNat && c.toNat ≤ 122 then some (c.toNat - 87)
    else if 65 ≤ c.toNat && c.toNat ≤ 90 then some (c.toNat - 55)
    else none
  value.filter (· < radix)

/-- The digits that follow; too many of them, a refused zero at the front and a value
above the maximum fail. -/
def readNumber (radix : Nat) (maxDigits : Option Nat) (zeroPrefix : Bool) (maximum : Nat) (text : List Char) :
    Option (Nat × List Char) :=
  let digits := text.takeWhile fun c => (toDigit radix c).isSome
  let value := digits.foldl (fun value c => value * radix + (toDigit radix c).getD 0) 0
  if maxDigits.any (· < digits.length) || digits.isEmpty then none
  else if !zeroPrefix && text.head? == some '0' && 1 < digits.length then none
  else if maximum < value then none
  else some (value, text.drop digits.length)

/-- The separator stands before every element but the first. -/
def readSeparator {Value : Type} (separator : Char) (index : Nat) (inner : List Char → Option (Value × List Char))
    (text : List Char) : Option (Value × List Char) :=
  if index = 0 then inner text
  else match text with
    | c :: rest => if c = separator then inner rest else none
    | [] => none

def readOctet (index : Nat) : List Char → Option (Nat × List Char) :=
  readSeparator '.' index (readNumber 10 (some 3) false 255)

structure Octets where
  a : UInt8
  b : UInt8
  c : UInt8
  d : UInt8

def readIpv4 (text : List Char) : Option (Octets × List Char) := do
  let (a, text) ← readOctet 0 text
  let (b, text) ← readOctet 1 text
  let (c, text) ← readOctet 2 text
  let (d, text) ← readOctet 3 text
  some (⟨.ofNat a, .ofNat b, .ofNat c, .ofNat d⟩, text)

def word (high low : UInt8) : UInt16 := .ofNat (high.toNat * 256 + low.toNat)

/-- The groups up to the given limit, whether an IPv4 text ended them, and the rest.
An IPv4 text takes two groups. -/
def readGroups (limit : Nat) : Nat → List Char → List UInt16 × Bool × List Char
  | 0, text => ([], false, text)
  | left + 1, text =>
      match if left = 0 then none else readSeparator ':' (limit - (left + 1)) readIpv4 text with
      | some (octets, rest) => ([word octets.a octets.b, word octets.c octets.d], true, rest)
      | none =>
          match readSeparator ':' (limit - (left + 1)) (readNumber 16 (some 4) true 65535) text with
          | some (group, rest) =>
              let next := readGroups limit left rest
              (.ofNat group :: next.1, next.2)
          | none => ([], false, text)

/-- The groups before and after the double colon, with zeros between them. -/
def concatGroups (head tail : List UInt16) : Vector UInt16 8 :=
  Vector.ofFn fun index : Fin 8 =>
    if 8 ≤ index.val + tail.length then tail.getD (index.val + tail.length - 8) 0 else head.getD index.val 0

def readIpv6 (text : List Char) : Option (Vector UInt16 8 × List Char) :=
  let (head, headIpv4, rest) := readGroups 8 8 text
  if head.length = 8 then some (concatGroups head [], rest)
  else if headIpv4 then none
  else match rest with
    | ':' :: ':' :: rest =>
        let limit := 8 - (head.length + 1)
        let (tail, _, rest) := readGroups limit limit rest
        some (concatGroups head tail, rest)
    | _ => none

def readIpAddr (text : List Char) : Option (IpAddr × List Char) :=
  match readIpv4 text with
  | some (octets, rest) => some (.v4 octets.a octets.b octets.c octets.d, rest)
  | none => (readIpv6 text).map fun (segments, rest) => (.v6 segments, rest)

/-- `str::parse::<IpAddr>`: the whole text is read. -/
def parseIpAddr (text : String) : Option IpAddr :=
  match readIpAddr text.toList with
  | some (address, []) => some address
  | _ => none

/-- `str::parse::<SocketAddr>` of an IPv4 address and a port, without the port. -/
def parseSocketAddrV4 (text : String) : Option IpAddr :=
  match readIpv4 text.toList with
  | some (octets, ':' :: rest) =>
      match readNumber 10 none true 65535 rest with
      | some (_, []) => some (.v4 octets.a octets.b octets.c octets.d)
      | _ => none
  | _ => none

/-! ### Writing -/

def octetsText (a b c d : UInt8) : String :=
  toString a.toNat ++ "." ++ toString b.toNat ++ "." ++ toString c.toNat ++ "." ++ toString d.toNat

structure Span where
  start : Nat
  len : Nat
  deriving DecidableEq

/-- The first of the longest runs of zero groups. -/
def longestZeros (segments : List UInt16) : Span :=
  (segments.zipIdx.foldl
    (fun (longest, current) (segment, index) =>
      if segment = 0 then
        let current : Span := if current.len = 0 then ⟨index, 1⟩ else ⟨current.start, current.len + 1⟩
        (if longest.len < current.len then current else longest, current)
      else (longest, ⟨0, 0⟩))
    ((⟨0, 0⟩, ⟨0, 0⟩) : Span × Span)).1

def groupText (group : UInt16) : List Char := Nat.toDigits 16 group.toNat

def subslice (groups : List UInt16) : List Char := [':'].intercalate (groups.map groupText)

def segmentsText (segments : List UInt16) : String :=
  if segments.take 6 = [0, 0, 0, 0, 0, 0xffff] then
    "::ffff:" ++ octetsText (.ofNat ((segments.getD 6 0).toNat / 256)) (.ofNat (segments.getD 6 0).toNat)
      (.ofNat ((segments.getD 7 0).toNat / 256)) (.ofNat (segments.getD 7 0).toNat)
  else
    let zeroes := longestZeros segments
    if 1 < zeroes.len then
      String.ofList (subslice (segments.take zeroes.start) ++ [':', ':'] ++
        subslice (segments.drop (zeroes.start + zeroes.len)))
    else String.ofList (subslice segments)

/-- `Display` of an address. -/
def IpAddr.text : IpAddr → String
  | .v4 a b c d => octetsText a b c d
  | .v6 segments => segmentsText segments.toList

/-! ### Numbers -/

theorem toDigit_digitChar {radix digit : Nat} (base : radix ≤ 16) (small : digit < radix) :
    toDigit radix digit.digitChar = some digit := by
  have bound : digit < 16 := by omega
  interval_cases digit <;> simp [toDigit, Nat.digitChar, Option.filter, small]

/-- Every digit that is written is a digit of the base. -/
theorem toDigits_digit {radix : Nat} (positive : 1 < radix) (base : radix ≤ 16) (number : Nat) :
    ∀ c ∈ Nat.toDigits radix number, ∃ digit < radix, c = digit.digitChar := by
  induction number using Nat.strong_induction_on with
  | _ number ih =>
      rw [Nat.toDigits_eq_if positive]
      split
      · rename_i small
        simpa using ⟨number, small, rfl⟩
      · rename_i large
        intro c member
        have shorter : number / radix < number := Nat.div_lt_self (by omega) positive
        rcases List.mem_append.mp member with front | last
        · exact ih _ shorter c front
        · exact ⟨number % radix, Nat.mod_lt _ (by omega), List.mem_singleton.mp last⟩

theorem foldl_toDigits {radix : Nat} (positive : 1 < radix) (base : radix ≤ 16) (number : Nat) :
    (Nat.toDigits radix number).foldl (fun value c => value * radix + (toDigit radix c).getD 0) 0 = number := by
  induction number using Nat.strong_induction_on with
  | _ number ih =>
      rw [Nat.toDigits_eq_if positive]
      split
      · rename_i small
        simp [toDigit_digitChar base small]
      · rename_i large
        have shorter : number / radix < number := Nat.div_lt_self (by omega) positive
        have digit : number % radix < radix := Nat.mod_lt _ (by omega)
        rw [List.foldl_append, ih _ shorter, List.foldl_cons, List.foldl_nil, toDigit_digitChar base digit,
          Option.getD_some]
        exact Nat.div_add_mod' number radix

/-- A number reads back when its digits fit and no digit follows. -/
theorem readNumber_toDigits {radix maxDigits maximum : Nat} {zeroPrefix : Bool} (positive : 1 < radix)
    (base : radix ≤ 16) {number : Nat} {rest : List Char} (fits : (Nat.toDigits radix number).length ≤ maxDigits)
    (small : number ≤ maximum)
    (front : zeroPrefix = true ∨ (Nat.toDigits radix number).head? ≠ some '0' ∨
      (Nat.toDigits radix number).length ≤ 1)
    (ends : ∀ c ∈ rest.head?, toDigit radix c = none) :
    readNumber radix (some maxDigits) zeroPrefix maximum (Nat.toDigits radix number ++ rest) =
      some (number, rest) := by
  have digits : (Nat.toDigits radix number ++ rest).takeWhile (fun c => (toDigit radix c).isSome) =
      Nat.toDigits radix number := by
    rw [List.takeWhile_append_of_pos]
    · cases rest with
      | nil => simp
      | cons c rest => simp [ends c rfl]
    · intro c member
      obtain ⟨digit, within, rfl⟩ := toDigits_digit positive base number c member
      simp [toDigit_digitChar base within]
  have some_ : Nat.toDigits radix number ≠ [] := Nat.toDigits_ne_nil
  have head : (Nat.toDigits radix number ++ rest).head? = (Nat.toDigits radix number).head? := by
    rw [List.head?_append, Option.or_of_isSome (by simp)]
  have refused : (!zeroPrefix && (Nat.toDigits radix number).head? == some '0' &&
      decide (1 < (Nat.toDigits radix number).length)) = false := by
    rcases front with allowed | other | single
    · simp [allowed]
    · simp [other]
    · simp [Nat.not_lt.mpr single]
  simp only [readNumber, digits, foldl_toDigits positive base number, head, refused, Option.any_some,
    Nat.not_lt.mpr fits, decide_false, Bool.false_or, List.isEmpty_eq_false_iff.mpr some_, Bool.false_eq_true,
    if_false, Nat.not_lt.mpr small, List.drop_left]

theorem readNumber_rest {radix maximum number : Nat} {maxDigits : Option Nat} {zeroPrefix : Bool}
    {text rest : List Char} (read : readNumber radix maxDigits zeroPrefix maximum text = some (number, rest)) :
    rest = text.dropWhile fun c => (toDigit radix c).isSome := by
  simp only [readNumber] at read
  split_ifs at read
  cases read
  have parts : (text.takeWhile fun c => (toDigit radix c).isSome) ++
      (text.dropWhile fun c => (toDigit radix c).isSome) = text := List.takeWhile_append_dropWhile
  exact (congrArg (List.drop _) parts.symm).trans List.drop_left

/-! ### IPv4 texts -/

theorem octet_shape : ∀ octet < 256, (Nat.toDigits 10 octet).length ≤ 3 ∧
    ((Nat.toDigits 10 octet).head? ≠ some '0' ∨ (Nat.toDigits 10 octet).length ≤ 1) := by
  decide +kernel

theorem readNumber_octet (octet : UInt8) {rest : List Char} (ends : ∀ c ∈ rest.head?, toDigit 10 c = none) :
    readNumber 10 (some 3) false 255 (Nat.toDigits 10 octet.toNat ++ rest) = some (octet.toNat, rest) := by
  have small : octet.toNat < 256 := octet.toNat_lt
  have shape := octet_shape octet.toNat small
  exact readNumber_toDigits (by omega) (by omega) shape.1 (by omega) (.inr shape.2) ends

theorem readIpv4_octetsText (a b c d : UInt8) {rest : List Char} (ends : ∀ c ∈ rest.head?, toDigit 10 c = none) :
    readIpv4 ((octetsText a b c d).toList ++ rest) = some (⟨a, b, c, d⟩, rest) := by
  have point : ∀ rest : List Char, ∀ c ∈ ('.' :: rest).head?, toDigit 10 c = none := by
    intro rest c first
    cases first
    rfl
  have text : (octetsText a b c d).toList ++ rest = Nat.toDigits 10 a.toNat ++ ('.' :: (Nat.toDigits 10 b.toNat ++
      ('.' :: (Nat.toDigits 10 c.toNat ++ ('.' :: (Nat.toDigits 10 d.toNat ++ rest)))))) := by
    simp [octetsText]
  rw [text]
  simp only [readIpv4, readOctet, readSeparator, readNumber_octet _ (point _), readNumber_octet _ ends,
    Option.bind_eq_bind, Option.bind_some, if_true, if_false, Nat.one_ne_zero, OfNat.ofNat_ne_zero,
    UInt8.ofNat_toNat]

theorem readIpv4_colon (rest : List Char) : readIpv4 (':' :: rest) = none := by
  simp [readIpv4, readOctet, readSeparator, readNumber, toDigit, Option.filter]

theorem readIpv4_none {text : List Char}
    (noPoint : (text.dropWhile fun c => (toDigit 10 c).isSome).head? ≠ some '.') : readIpv4 text = none := by
  cases first : readNumber 10 (some 3) false 255 text with
  | none => simp [readIpv4, readOctet, readSeparator, first]
  | some read =>
      have left : read.2 = _ := readNumber_rest first
      have stops : readOctet 1 read.2 = none := by
        cases head : read.2 with
        | nil => rfl
        | cons c others =>
            have other : c ≠ '.' := by
              rintro rfl
              exact noPoint (by rw [← left, head]; rfl)
            simp [readOctet, readSeparator, other]
      have octet : readOctet 0 text = some read := by simpa [readOctet, readSeparator] using first
      simp [readIpv4, octet, stops]

theorem digitChar_ne_point {digit : Nat} (small : digit < 16) : digit.digitChar ≠ '.' := by
  interval_cases digit <;> decide

theorem toDigit_none {c : Char} (other : toDigit 16 c = none) : toDigit 10 c = none := by
  simp only [toDigit, Option.filter_eq_none_iff, decide_eq_true_eq] at other ⊢
  exact fun value read small => other value read (by omega)

/-- A group of an IPv6 text is no IPv4 text: no point follows its digits. -/
theorem readIpv4_group (group : UInt16) {rest : List Char}
    (ends : ∀ c ∈ rest.head?, c ≠ '.' ∧ toDigit 16 c = none) : readIpv4 (groupText group ++ rest) = none := by
  refine readIpv4_none fun point => ?_
  rw [List.dropWhile_append] at point
  split at point
  · cases rest with
    | nil => cases point
    | cons c others =>
        have other := ends c rfl
        rw [List.dropWhile_cons_of_neg (by simp [toDigit_none other.2])] at point
        exact other.1 (Option.some.inj point)
  · rename_i some_
    cases left : (groupText group).dropWhile fun c => (toDigit 10 c).isSome with
    | nil => simp [left] at some_
    | cons c others =>
        rw [left] at point
        have member : c ∈ groupText group := (List.dropWhile_suffix _).subset (left ▸ List.mem_cons_self)
        obtain ⟨digit, small, same⟩ := toDigits_digit (by omega) (by omega) group.toNat c member
        exact digitChar_ne_point small (same ▸ Option.some.inj point)

/-! ### IPv6 texts -/

theorem groupText_length (group : UInt16) : (groupText group).length ≤ 4 :=
  Nat.toDigits_length 16 group.toNat 4 (by omega) group.toNat_lt

theorem readGroup (group : UInt16) {rest : List Char} (ends : ∀ c ∈ rest.head?, toDigit 16 c = none) :
    readNumber 16 (some 4) true 65535 (groupText group ++ rest) = some (group.toNat, rest) :=
  readNumber_toDigits (by omega) (by omega) (groupText_length group) (Nat.le_of_lt_succ group.toNat_lt)
    (.inl rfl) ends

/-- Where the groups end: nothing is left, or a double colon. -/
def Ends (rest : List Char) : Prop := rest = [] ∨ ∃ others, rest = ':' :: ':' :: others

def tailText (groups : List UInt16) : List Char := groups.flatMap fun group => ':' :: groupText group

theorem tailText_head (groups : List UInt16) {rest : List Char} (ends : Ends rest) :
    ∀ c ∈ (tailText groups ++ rest).head?, c ≠ '.' ∧ toDigit 16 c = none := by
  have colon : ':' ≠ '.' ∧ toDigit 16 ':' = none := by decide
  cases groups with
  | cons group groups =>
      intro c first
      cases first
      exact colon
  | nil =>
      rcases ends with rfl | ⟨others, rfl⟩
      · simp [tailText]
      · intro c first
        cases first
        exact colon

theorem readNumber_colon (rest : List Char) : readNumber 16 (some 4) true 65535 (':' :: rest) = none := by
  simp [readNumber, toDigit, Option.filter]

/-- The groups after the first one, each behind its colon. -/
theorem readGroups_tail {limit : Nat} (groups : List UInt16) {left : Nat} (later : left < limit)
    (fits : groups.length ≤ left) {rest : List Char} (ends : Ends rest) :
    readGroups limit left (tailText groups ++ rest) = (groups, false, rest) := by
  induction groups generalizing left with
  | nil =>
      cases left with
      | zero => rfl
      | succ left =>
          have index : limit - (left + 1) ≠ 0 := by omega
          rcases ends with rfl | ⟨others, rfl⟩
          · simp [readGroups, readSeparator, index, tailText]
          · simp [readGroups, readSeparator, index, tailText, readIpv4_colon, readNumber_colon]
  | cons group groups ih =>
      cases left with
      | zero => simp at fits
      | succ left =>
          have index : limit - (left + 1) ≠ 0 := by omega
          have head := tailText_head groups ends
          have text : tailText (group :: groups) ++ rest = ':' :: (groupText group ++ (tailText groups ++ rest)) := by
            simp [tailText]
          rw [text, readGroups]
          simp only [readSeparator, index, if_false, if_true, readIpv4_group group head, ite_self,
            readGroup group fun c first => (head c first).2,
            ih (by omega) (Nat.le_of_succ_le_succ fits), UInt16.ofNat_toNat]

theorem subslice_cons (group : UInt16) (groups : List UInt16) :
    subslice (group :: groups) = groupText group ++ tailText groups := by
  induction groups generalizing group with
  | nil => simp [subslice, tailText]
  | cons next groups ih =>
      have rest := ih next
      simp only [subslice, List.map_cons, List.intercalate_cons_cons] at rest ⊢
      rw [rest]
      simp [tailText]

theorem readGroups_subslice {limit : Nat} (groups : List UInt16) (fits : groups.length ≤ limit)
    {rest : List Char} (ends : Ends rest) :
    readGroups limit limit (subslice groups ++ rest) = (groups, false, rest) := by
  cases limit with
  | zero => cases groups <;> simp_all [readGroups, subslice]
  | succ limit =>
      cases groups with
      | nil =>
          rcases ends with rfl | ⟨others, rfl⟩
          · simp [readGroups, readSeparator, subslice, readIpv4, readOctet, readNumber]
          · simp [readGroups, readSeparator, subslice, readIpv4_colon, readNumber_colon]
      | cons group groups =>
          have head := tailText_head groups ends
          rw [subslice_cons, List.append_assoc, readGroups]
          simp only [readSeparator, Nat.sub_self, if_true, readIpv4_group group head, ite_self,
            readGroup group fun c first => (head c first).2,
            readGroups_tail groups (Nat.lt_succ_self limit) (Nat.le_of_succ_le_succ fits) ends,
            UInt16.ofNat_toNat]

def Zeros (segments : List UInt16) (span : Span) : Prop :=
  ∀ index, span.start ≤ index → index < span.start + span.len → segments[index]? = some 0

theorem zeros_none (segments : List UInt16) : Zeros segments ⟨0, 0⟩ :=
  fun _ _ within => absurd within (Nat.not_lt_zero _)

/-- The runs that the loop keeps are runs of zeros; the current one ends where the
loop stands. -/
theorem longestZeros_step (segments : List UInt16) {rest : List UInt16} {at_ : Nat} {longest current : Span}
    (here : segments.drop at_ = rest) (zeros : Zeros segments longest) (run : Zeros segments current)
    (ends : current.len ≠ 0 → current.start + current.len = at_) :
    Zeros segments ((rest.zipIdx at_).foldl
      (fun (longest, current) (segment, index) =>
        if segment = 0 then
          let current : Span := if current.len = 0 then ⟨index, 1⟩ else ⟨current.start, current.len + 1⟩
          (if longest.len < current.len then current else longest, current)
        else (longest, ⟨0, 0⟩))
      (longest, current)).1 := by
  induction rest generalizing at_ longest current with
  | nil => exact zeros
  | cons segment rest ih =>
      have found : segments[at_]? = some segment := by
        rw [← List.head?_drop, here]
        rfl
      have next : segments.drop (at_ + 1) = rest := by
        rw [← List.tail_drop, here]
        rfl
      rw [List.zipIdx_cons, List.foldl_cons]
      by_cases zero : segment = 0
      · subst zero
        have extended : Zeros segments
            (if current.len = 0 then ⟨at_, 1⟩ else ⟨current.start, current.len + 1⟩) := by
          split
          · intro index low high
            have same : index = at_ := by
              simp only at low high
              omega
            rw [same, found]
          · rename_i some_
            intro index low high
            have stop := ends some_
            simp only at low high
            by_cases last : index = at_
            · rw [last, found]
            · exact run index low (by omega)
        have kept : ∀ span : Span, Zeros segments span →
            Zeros segments (if longest.len < span.len then span else longest) := by
          intro span run
          split
          · exact run
          · exact zeros
        refine ih next (kept _ extended) extended ?_
        · intro _
          split
          · rfl
          · rename_i some_
            have stop := ends some_
            simp only
            omega
      · simp only [zero, if_false]
        exact ih next zeros (zeros_none segments) (by simp)

theorem longestZeros_zeros (segments : List UInt16) : Zeros segments (longestZeros segments) :=
  longestZeros_step segments rfl (zeros_none segments) (zeros_none segments) (by simp)

/-- What stands around a run of zeros is enough to find all groups again. -/
theorem concatGroups_split (segments : Vector UInt16 8) {span : Span} (bound : span.start + span.len ≤ 8)
    (zeros : Zeros segments.toList span) :
    concatGroups (segments.toList.take span.start) (segments.toList.drop (span.start + span.len)) = segments := by
  have length : (segments.toList.drop (span.start + span.len)).length = 8 - (span.start + span.len) := by simp
  apply Vector.ext
  intro index within
  have value : segments.toList[index]? = some segments[index] := by simp [within]
  simp only [concatGroups, Vector.getElem_ofFn, length, List.getD_eq_getElem?_getD, List.getElem?_drop,
    List.getElem?_take]
  by_cases after : span.start + span.len ≤ index
  · have same : span.start + span.len + (index + (8 - (span.start + span.len)) - 8) = index := by omega
    rw [if_pos (by omega), same, value]
    rfl
  · rw [if_neg (by omega)]
    by_cases before : index < span.start
    · rw [if_pos before, value]
      rfl
    · have zero := zeros index (by omega) (by omega)
      rw [value] at zero
      rw [if_neg before, Option.some.inj zero]
      rfl

theorem zeros_bound (segments : Vector UInt16 8) {span : Span} (zeros : Zeros segments.toList span)
    (some_ : 0 < span.len) : span.start + span.len ≤ 8 := by
  have last := zeros (span.start + span.len - 1) (by omega) (by omega)
  obtain ⟨within, _⟩ := List.getElem?_eq_some_iff.mp last
  simp at within
  omega

theorem readIpv6_subslice (segments : Vector UInt16 8) :
    readIpv6 (subslice segments.toList) = some (segments, []) := by
  have read := @readGroups_subslice 8 segments.toList (by simp) [] (.inl rfl)
  have whole := @concatGroups_split segments ⟨8, 0⟩ le_rfl (fun index low high => by
    simp only at low high
    omega)
  rw [List.append_nil] at read
  rw [List.take_of_length_le (by simp), List.drop_eq_nil_of_le (by simp)] at whole
  simp only [readIpv6, read, Vector.length_toList, if_true, whole]

theorem readIpv6_compressed (segments : Vector UInt16 8) {span : Span} (zeros : Zeros segments.toList span)
    (some_ : 1 < span.len) :
    readIpv6 (subslice (segments.toList.take span.start) ++ [':', ':'] ++
      subslice (segments.toList.drop (span.start + span.len))) = some (segments, []) := by
  have bound := zeros_bound segments zeros (by omega)
  have length : (segments.toList.take span.start).length = span.start := by
    simp
    omega
  have fits : (segments.toList.drop (span.start + span.len)).length ≤ 8 - (span.start + 1) := by
    simp
    omega
  have head := @readGroups_subslice 8 (segments.toList.take span.start) (by omega)
    (':' :: ':' :: subslice (segments.toList.drop (span.start + span.len))) (.inr ⟨_, rfl⟩)
  have tail := @readGroups_subslice _ _ fits [] (.inl rfl)
  rw [List.append_nil] at tail
  rw [List.append_assoc, List.cons_append, List.cons_append, List.nil_append]
  have short : span.start ≠ 8 := by omega
  simp only [readIpv6, head, length, short, if_false, Bool.false_eq_true, tail, concatGroups_split segments bound zeros]

theorem word_halves (group : UInt16) : word (.ofNat (group.toNat / 256)) (.ofNat group.toNat) = group := by
  have small := group.toNat_lt
  apply UInt16.toNat_inj.mp
  simp only [word, UInt16.toNat_ofNat', UInt8.toNat_ofNat']
  omega

/-- An address that stands for an IPv4 one. -/
theorem readIpv6_mapped (segments : Vector UInt16 8)
    (mapped : segments.toList.take 6 = [0, 0, 0, 0, 0, 0xffff]) :
    readIpv6 (segmentsText segments.toList).toList = some (segments, []) := by
  have halves : (segments.toList.drop 6).length = 2 := by simp
  obtain ⟨high, low, two⟩ := List.length_eq_two.mp halves
  have whole : segments.toList = [0, 0, 0, 0, 0, 0xffff, high, low] := by
    rw [← List.take_append_drop 6 segments.toList, mapped, two]
    rfl
  have zeros : Zeros segments.toList ⟨0, 5⟩ := by
    intro index _ within
    rw [whole]
    simp only [Nat.zero_add] at within
    interval_cases index <;> rfl
  have same := concatGroups_split segments (by simp) zeros
  have digits : groupText 0xffff = ['f', 'f', 'f', 'f'] := rfl
  have text : (segmentsText segments.toList).toList = ':' :: ':' :: (groupText 0xffff ++
      ':' :: ((octetsText (.ofNat (high.toNat / 256)) (.ofNat high.toNat) (.ofNat (low.toNat / 256))
        (.ofNat low.toNat)).toList ++ [])) := by
    simp [segmentsText, whole, digits]
  have head := @readGroups_subslice 8 [] (by simp) (segmentsText segments.toList).toList
    (.inr ⟨_, text⟩)
  have colon : ∀ rest : List Char, ∀ c ∈ (':' :: rest).head?, c ≠ '.' ∧ toDigit 16 c = none := by
    intro rest c first
    cases first
    decide
  have tail : readGroups 7 7 (groupText 0xffff ++ ':' :: ((octetsText (.ofNat (high.toNat / 256))
      (.ofNat high.toNat) (.ofNat (low.toNat / 256)) (.ofNat low.toNat)).toList ++ [])) =
      ([0xffff, high, low], true, []) := by
    rw [readGroups]
    simp only [readSeparator, Nat.sub_self, if_true, readIpv4_group _ (colon _), ite_self,
      readGroup _ fun c first => (colon _ c first).2]
    have octets := @readIpv4_octetsText (.ofNat (high.toNat / 256)) (.ofNat high.toNat) (.ofNat (low.toNat / 256))
      (.ofNat low.toNat) [] (by simp)
    have index : 7 - (5 + 1) ≠ 0 := by omega
    rw [readGroups]
    simp only [readSeparator, index, OfNat.ofNat_ne_zero, if_false, if_true, octets, word_halves, UInt16.ofNat_toNat]
  have start : subslice [] ++ (segmentsText segments.toList).toList = (segmentsText segments.toList).toList := rfl
  rw [start] at head
  rw [readIpv6, head, text]
  simp only [List.length_nil, Nat.zero_add, tail]
  rw [whole] at same
  simpa using same

/-! ### Round trip -/

theorem readIpv6_text (segments : Vector UInt16 8) :
    readIpv6 (segmentsText segments.toList).toList = some (segments, []) := by
  by_cases mapped : segments.toList.take 6 = [0, 0, 0, 0, 0, 0xffff]
  · exact readIpv6_mapped segments mapped
  · rw [segmentsText, if_neg mapped]
    by_cases zeros : 1 < (longestZeros segments.toList).len
    · simpa only [zeros, if_true, String.toList_ofList] using
        readIpv6_compressed segments (longestZeros_zeros _) zeros
    · simpa only [zeros, if_false, String.toList_ofList] using readIpv6_subslice segments

theorem readIpv4_subslice (groups : List UInt16) {rest : List Char} (ends : Ends rest) :
    readIpv4 (subslice groups ++ rest) = none := by
  cases groups with
  | nil =>
      rcases ends with rfl | ⟨others, rfl⟩
      · exact readIpv4_none (by simp [subslice])
      · exact readIpv4_colon _
  | cons group groups =>
      rw [subslice_cons, List.append_assoc]
      exact readIpv4_group group (tailText_head groups ends)

theorem readIpv4_segments (segments : List UInt16) : readIpv4 (segmentsText segments).toList = none := by
  by_cases mapped : segments.take 6 = [0, 0, 0, 0, 0, 0xffff]
  · rw [segmentsText, if_pos mapped, String.toList_append]
    exact readIpv4_colon _
  · rw [segmentsText, if_neg mapped]
    by_cases zeros : 1 < (longestZeros segments).len
    · simp only [zeros, if_true, String.toList_ofList, List.append_assoc]
      exact readIpv4_subslice _ (.inr ⟨_, rfl⟩)
    · simpa only [zeros, if_false, String.toList_ofList, List.append_nil] using readIpv4_subslice segments (.inl rfl)

/-- An address reads back from its text. -/
theorem parseIpAddr_text (address : IpAddr) : parseIpAddr address.text = some address := by
  cases address with
  | v4 a b c d =>
      have read := @readIpv4_octetsText a b c d [] (by simp)
      rw [List.append_nil] at read
      simp only [parseIpAddr, readIpAddr, IpAddr.text, read]
  | v6 segments =>
      simp only [parseIpAddr, readIpAddr, IpAddr.text, readIpv4_segments, readIpv6_text, Option.map_some]

/-! ### The characters of a text -/

def addressChars : List Char :=
  ['0', '1', '2', '3', '4', '5', '6', '7', '8', '9', 'a', 'b', 'c', 'd', 'e', 'f', ':', '.']

theorem digitChar_addressChar {digit : Nat} (small : digit < 16) : digit.digitChar ∈ addressChars := by
  interval_cases digit <;> decide

theorem toDigits_addressChar {radix : Nat} (positive : 1 < radix) (base : radix ≤ 16) (number : Nat) :
    ∀ c ∈ Nat.toDigits radix number, c ∈ addressChars := by
  intro c member
  obtain ⟨digit, small, rfl⟩ := toDigits_digit positive base number c member
  exact digitChar_addressChar (by omega)

theorem octetsText_chars (a b c d : UInt8) : ∀ ch ∈ (octetsText a b c d).toList, ch ∈ addressChars := by
  have digits := @toDigits_addressChar 10 (by omega) (by omega)
  have point : '.' ∈ addressChars := by decide
  intro ch member
  simp only [octetsText, String.toList_append, List.mem_append, Nat.toString_eq_repr, Nat.toList_repr] at member
  have cases_ : ch = '.' ∨ ∃ number, ch ∈ Nat.toDigits 10 number := by
    have points : ".".toList = ['.'] := rfl
    simp only [points, List.mem_singleton] at member
    grind
  rcases cases_ with rfl | ⟨number, digit⟩
  · exact point
  · exact digits number ch digit

theorem subslice_chars (groups : List UInt16) : ∀ ch ∈ subslice groups, ch ∈ addressChars := by
  have digits : ∀ group : UInt16, ∀ ch ∈ groupText group, ch ∈ addressChars :=
    fun group => toDigits_addressChar (by omega) (by omega) group.toNat
  have colon : ':' ∈ addressChars := by decide
  cases groups with
  | nil => simp [subslice]
  | cons group groups =>
      intro ch member
      rw [subslice_cons] at member
      rcases List.mem_append.mp member with front | later
      · exact digits group ch front
      · obtain ⟨other, _, inside⟩ := List.mem_flatMap.mp later
        rcases List.mem_cons.mp inside with rfl | digit
        · exact colon
        · exact digits other ch digit

theorem segmentsText_chars (segments : List UInt16) : ∀ ch ∈ (segmentsText segments).toList, ch ∈ addressChars := by
  intro ch member
  by_cases mapped : segments.take 6 = [0, 0, 0, 0, 0, 0xffff]
  · rw [segmentsText, if_pos mapped, String.toList_append, List.mem_append] at member
    have colons : "::ffff:".toList = [':', ':', 'f', 'f', 'f', 'f', ':'] := rfl
    have front : ∀ ch ∈ "::ffff:".toList, ch ∈ addressChars := by
      simp [colons, addressChars]
    exact member.elim (front ch) (octetsText_chars _ _ _ _ ch)
  · rw [segmentsText, if_neg mapped] at member
    by_cases zeros : 1 < (longestZeros segments).len
    · simp only [zeros, if_true, String.toList_ofList, List.mem_append] at member
      have colons : ∀ ch ∈ [':', ':'], ch ∈ addressChars := by simp [addressChars]
      rcases member with (before | between) | after
      · exact subslice_chars _ ch before
      · exact colons ch between
      · exact subslice_chars _ ch after
    · simp only [zeros, if_false, String.toList_ofList] at member
      exact subslice_chars _ ch member

theorem text_chars (address : IpAddr) : ∀ ch ∈ address.text.toList, ch ∈ addressChars := by
  cases address with
  | v4 a b c d => exact octetsText_chars a b c d
  | v6 segments => exact segmentsText_chars segments.toList

end IpText
