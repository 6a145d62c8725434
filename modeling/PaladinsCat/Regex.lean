import Mathlib

/-!
Anchored regular expressions over classes of characters: their languages, and a matcher that
takes one derivative for each character. A pattern whose derivative by a text is empty matches
nothing that starts with the text. Mathlib's `RegularExpression` has one symbol at a leaf where
a class stands here; the languages are Mathlib's.
-/

namespace Regex

open scoped Computability

inductive CharClass where
  | oneOf (chars : List Char)
  | noneOf (chars : List Char)
  | digit
  deriving DecidableEq

/-- On ASCII texts a digit is an ASCII digit. -/
def CharClass.contains : CharClass → Char → Bool
  | .oneOf chars, c => chars.contains c
  | .noneOf chars, c => !chars.contains c
  | .digit, c => c.isDigit

inductive Pattern where
  | empty
  | epsilon
  | chars (kind : CharClass)
  | seq (first second : Pattern)
  | alt (left right : Pattern)
  | star (body : Pattern)
  deriving DecidableEq

namespace Pattern

/-- The texts that a pattern matches. -/
def language : Pattern → Language Char
  | .empty => 0
  | .epsilon => 1
  | .chars kind => {text | ∃ c, text = [c] ∧ kind.contains c = true}
  | .seq first second => first.language * second.language
  | .alt left right => left.language + right.language
  | .star body => body.language∗

def nullable : Pattern → Bool
  | .empty => false
  | .epsilon => true
  | .chars _ => false
  | .seq first second => first.nullable && second.nullable
  | .alt left right => left.nullable || right.nullable
  | .star _ => true

def seqOf : Pattern → Pattern → Pattern
  | .empty, _ => .empty
  | _, .empty => .empty
  | .epsilon, second => second
  | first, second => .seq first second

def altOf : Pattern → Pattern → Pattern
  | .empty, right => right
  | left, .empty => left
  | left, right => .alt left right

/-- What a pattern asks of the rest behind a first character. -/
def deriv (c : Char) : Pattern → Pattern
  | .empty => .empty
  | .epsilon => .empty
  | .chars kind => if kind.contains c then .epsilon else .empty
  | .seq first second =>
      if first.nullable then altOf (seqOf (first.deriv c) second) (second.deriv c)
      else seqOf (first.deriv c) second
  | .alt left right => altOf (left.deriv c) (right.deriv c)
  | .star body => seqOf (body.deriv c) (.star body)

def derivs (pattern : Pattern) (text : List Char) : Pattern := text.foldl (fun rest c => rest.deriv c) pattern

/-- `Regex::is_match` of a pattern between `^` and `$`. -/
def isMatch (pattern : Pattern) (text : List Char) : Bool := (pattern.derivs text).nullable

/-! ### Notation -/

/-- A text that stands for itself. -/
def literal : List Char → Pattern
  | [] => .epsilon
  | c :: rest => .seq (.chars (.oneOf [c])) (literal rest)

def text (letters : String) : Pattern := literal letters.toList

def plus (body : Pattern) : Pattern := .seq body (.star body)

def optional (body : Pattern) : Pattern := .alt body .epsilon

/-- `(?:first|second|…)`. -/
def anyOf : List String → Pattern
  | [] => .empty
  | word :: rest => .alt (text word) (anyOf rest)

def sequence : List Pattern → Pattern
  | [] => .epsilon
  | pattern :: rest => .seq pattern (sequence rest)

/-- `{n,}` -/
def atLeast (body : Pattern) : ℕ → Pattern
  | 0 => .star body
  | n + 1 => .seq body (atLeast body n)

/-- The pattern without regard to case, where a letter has the given variants. -/
def foldCase (variants : Char → List Char) : Pattern → Pattern
  | .empty => .empty
  | .epsilon => .epsilon
  | .chars (.oneOf letters) => .chars (.oneOf (letters.flatMap variants))
  | .chars (.noneOf letters) => .chars (.noneOf (letters.flatMap variants))
  | .chars .digit => .chars .digit
  | .seq first second => .seq (first.foldCase variants) (second.foldCase variants)
  | .alt left right => .alt (left.foldCase variants) (right.foldCase variants)
  | .star body => .star (body.foldCase variants)

/-! ### Languages -/

section
variable {pattern first second left right : Pattern} {c : Char} {rest : List Char}

theorem nullable_iff : pattern.nullable = true ↔ [] ∈ pattern.language := by
  induction pattern with
  | empty => simp [nullable, language, Language.notMem_zero]
  | epsilon => simp [nullable, language]
  | chars kind =>
      have none_ : ¬∃ c, ([] : List Char) = [c] ∧ kind.contains c = true := by simp
      exact iff_of_false Bool.false_ne_true none_
  | seq first second ihFirst ihSecond =>
      rw [nullable, Bool.and_eq_true, ihFirst, ihSecond, language, Language.mem_mul]
      constructor
      · rintro ⟨front, back⟩
        exact ⟨[], front, [], back, rfl⟩
      · rintro ⟨front, inFirst, back, inSecond, joined⟩
        obtain ⟨rfl, rfl⟩ := List.append_eq_nil_iff.mp joined
        exact ⟨inFirst, inSecond⟩
  | alt left right ihLeft ihRight =>
      rw [nullable, Bool.or_eq_true, ihLeft, ihRight, language, Language.mem_add]
  | star body => exact iff_of_true rfl (Language.nil_mem_kstar _)

theorem seqOf_language : (seqOf first second).language = first.language * second.language := by
  unfold seqOf
  split
  · simp [language]
  · simp [language]
  · simp [language]
  · rfl

theorem altOf_language : (altOf left right).language = left.language + right.language := by
  unfold altOf
  split
  · simp [language]
  · simp [language]
  · rfl

theorem cons_mem_mul {front back : Language Char} : c :: rest ∈ front * back ↔
    (∃ a b, rest = a ++ b ∧ c :: a ∈ front ∧ b ∈ back) ∨ ([] ∈ front ∧ c :: rest ∈ back) := by
  rw [Language.mem_mul]
  constructor
  · rintro ⟨word, inFront, tail, inBack, joined⟩
    cases word with
    | nil => exact .inr ⟨inFront, joined ▸ inBack⟩
    | cons head word =>
        obtain ⟨rfl, rfl⟩ := List.cons.inj joined
        exact .inl ⟨word, tail, rfl, inFront, inBack⟩
  · rintro (⟨a, b, rfl, inFront, inBack⟩ | ⟨empty, inBack⟩)
    · exact ⟨c :: a, inFront, b, inBack, rfl⟩
    · exact ⟨[], empty, c :: rest, inBack, rfl⟩

theorem cons_mem_kstar {body : Language Char} :
    c :: rest ∈ body∗ ↔ ∃ a b, rest = a ++ b ∧ c :: a ∈ body ∧ b ∈ body∗ := by
  constructor
  · intro member
    rw [Language.kstar_def_nonempty] at member
    obtain ⟨words, joined, each⟩ := member
    cases words with
    | nil => cases joined
    | cons word words =>
        obtain ⟨inBody, some_⟩ := each word List.mem_cons_self
        cases word with
        | nil => exact absurd rfl some_
        | cons head word =>
            obtain ⟨rfl, rfl⟩ := List.cons.inj joined
            refine ⟨word, words.flatten, rfl, inBody, words, rfl, fun later listed => ?_⟩
            exact (each later (List.mem_cons_of_mem _ listed)).1
  · rintro ⟨a, b, rfl, inBody, words, rfl, each⟩
    refine ⟨(c :: a) :: words, rfl, fun word listed => ?_⟩
    rcases List.mem_cons.mp listed with rfl | later
    · exact inBody
    · exact each word later

/-- The derivative matches the rests of the texts that start with the character. -/
theorem mem_deriv : rest ∈ (pattern.deriv c).language ↔ c :: rest ∈ pattern.language := by
  induction pattern generalizing rest with
  | empty => exact Iff.rfl
  | epsilon =>
      have other : c :: rest ∉ (1 : Language Char) := by simp [Language.mem_one]
      exact iff_of_false (Language.notMem_zero _) other
  | chars kind =>
      have single : c :: rest ∈ (Pattern.chars kind).language ↔ rest = [] ∧ kind.contains c = true := by
        constructor
        · rintro ⟨d, same, inside⟩
          obtain ⟨rfl, rfl⟩ := List.cons.inj same
          exact ⟨rfl, inside⟩
        · rintro ⟨rfl, inside⟩
          exact ⟨c, rfl, inside⟩
      rw [single, deriv]
      split_ifs with inside
      · simp [language, inside]
      · simp [language, inside]
  | seq first second ihFirst ihSecond =>
      have front : rest ∈ (seqOf (first.deriv c) second).language ↔
          ∃ a b, rest = a ++ b ∧ c :: a ∈ first.language ∧ b ∈ second.language := by
        rw [seqOf_language, Language.mem_mul]
        constructor
        · rintro ⟨a, inFirst, b, inSecond, rfl⟩
          exact ⟨a, b, rfl, ihFirst.mp inFirst, inSecond⟩
        · rintro ⟨a, b, rfl, inFirst, inSecond⟩
          exact ⟨a, ihFirst.mpr inFirst, b, inSecond, rfl⟩
      rw [language, cons_mem_mul, deriv]
      split_ifs with empty
      · rw [altOf_language, Language.mem_add, front, ihSecond]
        exact or_congr_right (iff_and_self.mpr fun _ => nullable_iff.mp empty)
      · rw [front]
        exact (or_iff_left fun back => empty (nullable_iff.mpr back.1)).symm
  | alt left right ihLeft ihRight =>
      rw [deriv, altOf_language, Language.mem_add, ihLeft, ihRight]
      rfl
  | star body ih =>
      rw [deriv, seqOf_language, Language.mem_mul, language, cons_mem_kstar]
      constructor
      · rintro ⟨a, inBody, b, inStar, rfl⟩
        exact ⟨a, b, rfl, ih.mp inBody, inStar⟩
      · rintro ⟨a, b, rfl, inBody, inStar⟩
        exact ⟨a, ih.mpr inBody, b, inStar, rfl⟩

theorem isMatch_iff {text : List Char} : pattern.isMatch text = true ↔ text ∈ pattern.language := by
  induction text generalizing pattern with
  | nil => exact nullable_iff
  | cons c rest ih =>
      have step : pattern.isMatch (c :: rest) = (pattern.deriv c).isMatch rest := rfl
      rw [step, ih, mem_deriv]

/-! ### Prefixes -/

theorem derivs_empty (text : List Char) : derivs .empty text = .empty := by
  induction text with
  | nil => rfl
  | cons c rest ih => exact ih

theorem derivs_append (front back : List Char) : pattern.derivs (front ++ back) = (pattern.derivs front).derivs back :=
  List.foldl_append

/-- Nothing that starts with a text is matched, once nothing is left of the pattern behind it. -/
theorem isMatch_prefix {front text : List Char} (barred : pattern.derivs front = .empty) (starts : front <+: text) :
    pattern.isMatch text = false := by
  obtain ⟨back, rfl⟩ := starts
  rw [isMatch, derivs_append, barred, derivs_empty]
  rfl

theorem mem_literal {letters : List Char} {word : List Char} : word ∈ (literal letters).language ↔ word = letters := by
  induction letters generalizing word with
  | nil => exact Language.mem_one word
  | cons c letters ih =>
      rw [literal, language, Language.mem_mul]
      constructor
      · rintro ⟨front, ⟨d, rfl, inside⟩, back, inBack, rfl⟩
        have same : d = c := by simpa [CharClass.contains] using inside
        rw [same, ih.mp inBack]
        rfl
      · rintro rfl
        exact ⟨[c], ⟨c, rfl, by simp [CharClass.contains]⟩, letters, ih.mpr rfl, rfl⟩

theorem mem_text {letters : String} {word : List Char} :
    word ∈ (Pattern.text letters).language ↔ word = letters.toList := mem_literal

theorem mem_sequence_nil {word : List Char} : word ∈ (Pattern.sequence []).language ↔ word = [] := Language.mem_one word

theorem mem_sequence_cons {patterns : List Pattern} {word : List Char} :
    word ∈ (Pattern.sequence (pattern :: patterns)).language ↔
      ∃ front ∈ pattern.language, ∃ back ∈ (Pattern.sequence patterns).language, front ++ back = word :=
  Language.mem_mul

theorem mem_star_chars {kind : CharClass} {word : List Char} :
    word ∈ (Pattern.star (.chars kind)).language ↔ ∀ c ∈ word, kind.contains c = true := by
  induction word with
  | nil => exact iff_of_true (Language.nil_mem_kstar _) (by simp)
  | cons c rest ih =>
      rw [language, cons_mem_kstar, List.forall_mem_cons]
      constructor
      · rintro ⟨a, b, rfl, ⟨d, same, inside⟩, others⟩
        obtain ⟨rfl, rfl⟩ := List.cons.inj same
        exact ⟨inside, ih.mp others⟩
      · rintro ⟨inside, others⟩
        exact ⟨[], rest, rfl, ⟨c, rfl, inside⟩, ih.mpr others⟩

/-- At least so many characters of a class. -/
theorem mem_atLeast_chars {kind : CharClass} {count : ℕ} {word : List Char} :
    word ∈ (atLeast (.chars kind) count).language ↔
      count ≤ word.length ∧ ∀ c ∈ word, kind.contains c = true := by
  induction count generalizing word with
  | zero => simpa [atLeast] using mem_star_chars
  | succ count ih =>
      rw [atLeast, language, Language.mem_mul]
      constructor
      · rintro ⟨front, ⟨c, rfl, inside⟩, back, inBack, rfl⟩
        obtain ⟨long, all⟩ := ih.mp inBack
        exact ⟨Nat.succ_le_succ long, List.forall_mem_cons.mpr ⟨inside, all⟩⟩
      · rintro ⟨long, all⟩
        cases word with
        | nil => exact absurd long (Nat.not_succ_le_zero count)
        | cons c rest =>
            obtain ⟨inside, others⟩ := List.forall_mem_cons.mp all
            exact ⟨[c], ⟨c, rfl, inside⟩, rest, ih.mpr ⟨Nat.le_of_succ_le_succ long, others⟩, rfl⟩

/-- Some characters of a class. -/
theorem mem_plus_chars {kind : CharClass} {word : List Char} :
    word ∈ (plus (.chars kind)).language ↔ word ≠ [] ∧ ∀ c ∈ word, kind.contains c = true := by
  have once : word ∈ (plus (.chars kind)).language ↔ word ∈ (atLeast (.chars kind) 1).language := Iff.rfl
  rw [once, mem_atLeast_chars]
  exact and_congr_left' List.length_pos_iff

theorem foldCase_atLeast (variants : Char → List Char) (body : Pattern) (count : ℕ) :
    (body.atLeast count).foldCase variants = (body.foldCase variants).atLeast count := by
  induction count with
  | zero => rfl
  | succ count ih => rw [atLeast, foldCase, ih, atLeast]

/-- A text without regard to case: each letter is one of the variants of the letter it stands for. -/
theorem mem_foldCase_literal {variants : Char → List Char} {letters word : List Char} :
    word ∈ ((literal letters).foldCase variants).language ↔ List.Forall₂ (fun c d => d ∈ variants c) letters word := by
  induction letters generalizing word with
  | nil =>
      rw [List.forall₂_nil_left_iff]
      exact Language.mem_one word
  | cons c letters ih =>
      rw [literal, foldCase, foldCase, language, Language.mem_mul, List.forall₂_cons_left_iff]
      constructor
      · rintro ⟨front, ⟨d, rfl, inside⟩, back, inBack, rfl⟩
        exact ⟨d, back, by simpa [CharClass.contains] using inside, ih.mp inBack, rfl⟩
      · rintro ⟨d, back, inside, others, rfl⟩
        exact ⟨[d], ⟨d, rfl, by simpa [CharClass.contains] using inside⟩, back, ih.mpr others, rfl⟩

end

end Pattern

end Regex
