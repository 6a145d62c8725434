import PaladinsCat.Binary64

/-!
When a schedule is due (`cron_matches`, workers/scheduler_host.rs). A field is a list of terms,
each of which is read and compared with the value of the clock at once. Here a field denotes a
set of values, and the code is compared with it. Subtractions of bytes are checked.
-/

namespace PaladinsCat.CronMatching

/-! ### cron_matches -/

inductive Weekday where
  | sunday
  | monday
  | tuesday
  | wednesday
  | thursday
  | friday
  | saturday
  deriving DecidableEq

/-- What the clock shows at an instant. -/
structure Instant where
  minute : Nat
  hour : Nat
  day : Nat
  month : Nat
  weekday : Weekday
  minute_range : minute < 60
  hour_range : hour < 24
  day_range : 1 ≤ day ∧ day ≤ 31
  month_range : 1 ≤ month ∧ month ≤ 12

/-- `str::split_whitespace` -/
def splitWhitespace (text : String) : List String :=
  ((text.toList.splitOnP Text.isWhitespace).filter (· ≠ [])).map String.ofList

/-- `str::split_once` -/
def splitOnce (separator : Char) (text : String) : Option (String × String) :=
  match text.toList.dropWhile (· ≠ separator) with
  | [] => none
  | _ :: rest => some (String.ofList (text.toList.takeWhile (· ≠ separator)), String.ofList rest)

def parseU8 (text : String) : Option Nat := Text.parseUnsigned 255 text

/-- The difference of two bytes; `none` if it is negative. -/
def checkedSub (left right : Nat) : Option Nat := if right ≤ left then some (left - right) else none

/-- `u8::is_multiple_of` -/
def isMultipleOf (value step : Nat) : Bool := if step = 0 then value == 0 else value % step == 0

/-- The first and the last value of a term without its step. -/
def bounds (base : String) (stepped : Bool) (min max : Nat) : Option (Nat × Nat) :=
  if base = "*" then some (min, max)
  else
    match splitOnce '-' base with
    | some (start, stop) =>
        match parseU8 start, parseU8 stop with
        | some start, some stop => some (start, stop)
        | _, _ => none
    | none => (parseU8 base).map fun start => (start, if stepped then max else start)

/-- One term of a field; `none` if a subtraction overflows. -/
def termMatches (term : String) (value min max : Nat) : Option Bool :=
  let (base, step) := ((splitOnce '/' term).map fun (base, step) => (base, (parseU8 step).getD 0)).getD (term, 1)
  if step = 0 then some false
  else
    match bounds base (term.toList.contains '/') min max with
    | none => some false
    | some (start, stop) =>
        if min ≤ start ∧ stop ≤ max ∧ start ≤ stop ∧ start ≤ value ∧ value ≤ stop then
          (checkedSub value start).map fun distance => isMultipleOf distance step
        else some false

def cronFieldMatches (field : String) (value min max : Nat) : Option Bool :=
  (Text.split ',' field).anyM fun term => termMatches term value min max

def weekdayNumber : Weekday → Nat
  | .sunday => 0
  | .monday => 1
  | .tuesday => 2
  | .wednesday => 3
  | .thursday => 4
  | .friday => 5
  | .saturday => 6

/-- `&&` and `||`, whose second operand may not be reached. -/
def both (left right : Option Bool) : Option Bool := left.bind fun holds => if holds then right else some false
def either (left right : Option Bool) : Option Bool := left.bind fun holds => if holds then some true else right

def cronMatches (expression : String) (now : Instant) : Option Bool :=
  match splitWhitespace expression with
  | [minute, hour, day, month, weekday] =>
      both (cronFieldMatches minute now.minute 0 59) <|
        both (cronFieldMatches hour now.hour 0 23) <|
          both (cronFieldMatches day now.day 1 31) <|
            both (cronFieldMatches month now.month 1 12) <|
              either (cronFieldMatches weekday (weekdayNumber now.weekday) 0 7) <|
                both (some (weekdayNumber now.weekday == 0)) (cronFieldMatches weekday 7 0 7)
  | _ => some false

/-! ### What an expression means -/

/-- A number as it is written. -/
def Numeral (text : String) (n : Nat) : Prop := parseU8 text = some n

inductive Base where
  | every
  | number (n : Nat)
  | range (first last : Nat)

inductive Base.Spells : Base → String → Prop where
  | every : Spells .every "*"
  | number {text : String} {n : Nat} (numeral : Numeral text n) : Spells (.number n) text
  | range {first last : String} {m n : Nat} (start : Numeral first m) (stop : Numeral last n) :
      Spells (.range m n) (first ++ "-" ++ last)

structure Term where
  base : Base
  step : Option Nat

inductive Term.Spells : Term → String → Prop where
  | plain {base : Base} {text : String} (spelled : base.Spells text) : Spells ⟨base, none⟩ text
  | stepped {base : Base} {text step : String} {s : Nat} (spelled : base.Spells text) (numeral : Numeral step s)
      (positive : 1 ≤ s) : Spells ⟨base, some s⟩ (text ++ "/" ++ step)

/-- The values from the first one in steps, if the bounds keep to the range of the field. -/
def progression (min max first last step : Nat) : Set Nat :=
  {value | min ≤ first ∧ last ≤ max ∧ first ≤ value ∧ value ≤ last ∧ step ∣ value - first}

def Term.values (min max : Nat) : Term → Set Nat
  | ⟨.every, step⟩ => progression min max min max (step.getD 1)
  | ⟨.number n, none⟩ => progression min max n n 1
  | ⟨.number n, some step⟩ => progression min max n max step
  | ⟨.range first last, step⟩ => progression min max first last (step.getD 1)

/-- The union over the terms that can be read. -/
def fieldValues (min max : Nat) (field : String) : Set Nat :=
  {value | ∃ text ∈ Text.split ',' field, ∃ term : Term, term.Spells text ∧ value ∈ term.values min max}

/-- The numbers of a day of the week. -/
def weekdayNumbers (weekday : Weekday) : Set Nat := {n | n = weekdayNumber weekday ∨ weekday = .sunday ∧ n = 7}

def Due (expression : String) (now : Instant) : Prop :=
  ∃ minute hour day month weekday, splitWhitespace expression = [minute, hour, day, month, weekday] ∧
    now.minute ∈ fieldValues 0 59 minute ∧ now.hour ∈ fieldValues 0 23 hour ∧ now.day ∈ fieldValues 1 31 day ∧
    now.month ∈ fieldValues 1 12 month ∧ ∃ n ∈ weekdayNumbers now.weekday, n ∈ fieldValues 0 7 weekday

/-! ### Texts -/

section
variable {separator : Char} {text front back : String}

theorem splitOnce_append (absent : separator ∉ front.toList) :
    splitOnce separator (front ++ String.singleton separator ++ back) = some (front, back) := by
  have plain : ∀ c ∈ front.toList, decide (c ≠ separator) = true := by
    rintro c member
    simp only [decide_eq_true_iff]
    rintro rfl
    exact absent member
  have letters : (front ++ String.singleton separator ++ back).toList = front.toList ++ separator :: back.toList := by
    simp
  have rest : (front.toList ++ separator :: back.toList).dropWhile (· ≠ separator) = separator :: back.toList := by
    rw [List.dropWhile_append_of_pos plain, List.dropWhile_cons_of_neg (by simp)]
  have before : (front.toList ++ separator :: back.toList).takeWhile (· ≠ separator) = front.toList := by
    rw [List.takeWhile_append_of_pos plain, List.takeWhile_cons_of_neg (by simp), List.append_nil]
  simp only [splitOnce, letters, rest, before, String.ofList_toList]

theorem splitOnce_eq_none_iff : splitOnce separator text = none ↔ separator ∉ text.toList := by
  have nothing : splitOnce separator text = none ↔ text.toList.dropWhile (· ≠ separator) = [] := by
    unfold splitOnce
    split <;> simp_all
  rw [nothing, List.dropWhile_eq_nil_iff]
  constructor
  · intro plain member
    simpa using plain separator member
  · intro absent c member
    simp only [decide_eq_true_iff]
    rintro rfl
    exact absent member

theorem splitOnce_some (found : splitOnce separator text = some (front, back)) :
    text = front ++ String.singleton separator ++ back := by
  have joined := List.takeWhile_append_dropWhile (p := fun c => decide (c ≠ separator)) (l := text.toList)
  unfold splitOnce at found
  split at found
  · cases found
  · rename_i c rest behind
    have some_ : text.toList.dropWhile (fun c => decide (c ≠ separator)) ≠ [] := by
      rw [behind]
      exact List.cons_ne_nil c rest
    have stopped := List.head_dropWhile_not (fun c => decide (c ≠ separator)) some_
    simp only [behind, List.head_cons, ne_eq, decide_eq_false_iff_not, not_not] at stopped
    cases found
    rw [behind, stopped] at joined
    apply String.toList_injective
    rw [String.toList_append, String.toList_append, String.toList_ofList, String.toList_ofList, String.toList_singleton,
      List.append_assoc, List.singleton_append, joined]

/-- A number is written with digits and a plus sign. -/
theorem numeral_char {n : Nat} (numeral : Numeral text n) : ∀ c ∈ text.toList, c.isDigit = true ∨ c = '+' := by
  simp only [Numeral, parseU8, Text.parseUnsigned] at numeral
  intro c member
  split_ifs at numeral with blank
  obtain ⟨valued, _⟩ := Option.filter_eq_some_iff.mp numeral
  have digits := Binary64.digits_of_value valued
  split at digits
  · rename_i rest letters
    rw [letters] at member
    rcases List.mem_cons.mp member with rfl | later
    · exact .inr rfl
    · exact .inl (digits c later)
  · exact .inl (digits c member)

theorem numeral_plain {n : Nat} (separator : Char) (numeral : Numeral text n) (digit : separator.isDigit = false) (plus : separator ≠ '+') :
    separator ∉ text.toList := by
  intro member
  rcases numeral_char numeral separator member with is_digit | same
  · rw [digit] at is_digit
    exact Bool.noConfusion is_digit
  · exact plus same

theorem numeral_le {n : Nat} (numeral : Numeral text n) : n ≤ 255 := by
  simp only [Numeral, parseU8, Text.parseUnsigned] at numeral
  split_ifs at numeral
  exact of_decide_eq_true (Option.filter_eq_some_iff.mp numeral).2

end

/-! ### Terms -/

def Base.bounds (stepped : Bool) (min max : Nat) : Base → Nat × Nat
  | .every => (min, max)
  | .number n => (n, if stepped then max else n)
  | .range first last => (first, last)

section
variable {base : Base} {term : Term} {text : String} {stepped : Bool} {min max value : Nat}

theorem Base.Spells.without_slash (spelled : base.Spells text) : '/' ∉ text.toList := by
  cases spelled with
  | every => decide
  | number numeral => exact numeral_plain '/' numeral (by decide) (by decide)
  | range start stop =>
      have first := numeral_plain '/' start (by decide) (by decide)
      have last := numeral_plain '/' stop (by decide) (by decide)
      simp [first, last]

theorem bounds_of_spells (spelled : base.Spells text) :
    bounds text stepped min max = some (base.bounds stepped min max) := by
  cases spelled with
  | every => rfl
  | number numeral =>
      have dash := splitOnce_eq_none_iff.mpr (numeral_plain '-' numeral (by decide) (by decide))
      have star : text ≠ "*" := by
        rintro rfl
        exact numeral_plain '*' numeral (by decide) (by decide) (by decide)
      unfold Numeral at numeral
      simp only [bounds, if_neg star, dash, numeral, Option.map_some, Base.bounds]
  | @range first last m n start stop =>
      have dash : splitOnce '-' (first ++ "-" ++ last) = some (first, last) :=
        splitOnce_append (numeral_plain '-' start (by decide) (by decide))
      have star : first ++ "-" ++ last ≠ "*" := by
        intro same
        have letters := congrArg String.toList same
        have member : '-' ∈ (first ++ "-" ++ last).toList := by simp
        rw [letters] at member
        exact absurd member (by decide)
      unfold Numeral at start stop
      simp only [bounds, if_neg star, dash, start, stop, Base.bounds]

theorem spells_of_bounds {first last : Nat} (found : bounds text stepped min max = some (first, last)) :
    ∃ base : Base, base.Spells text ∧ base.bounds stepped min max = (first, last) := by
  by_cases star : text = "*"
  · rw [bounds, if_pos star] at found
    exact ⟨.every, star ▸ .every, Option.some.inj found⟩
  · rw [bounds, if_neg star] at found
    split at found
    · -- both numbers are read before any comparison
      rename_i start stop dash
      split at found
      · rename_i m n readStart readStop
        exact ⟨.range m n, splitOnce_some dash ▸ .range readStart readStop, Option.some.inj found⟩
      · cases found
    · obtain ⟨n, numeral, same⟩ := Option.map_eq_some_iff.mp found
      exact ⟨.number n, .number numeral, same⟩

theorem isMultipleOf_iff {step : Nat} : isMultipleOf value step = true ↔ step ∣ value := by
  unfold isMultipleOf
  split_ifs with zero
  · rw [zero, Nat.zero_dvd, beq_iff_eq]
  · rw [beq_iff_eq, Nat.dvd_iff_mod_eq_zero]

/-- The bounds are looked at first, so that no difference is negative. -/
theorem steps_eq (value min max first last step : Nat) :
    ∃ answer, (if min ≤ first ∧ last ≤ max ∧ first ≤ last ∧ first ≤ value ∧ value ≤ last then
        (checkedSub value first).map fun distance => isMultipleOf distance step
      else some false) = some answer ∧ (answer = true ↔ value ∈ progression min max first last step) := by
  by_cases inside : min ≤ first ∧ last ≤ max ∧ first ≤ last ∧ first ≤ value ∧ value ≤ last
  · rw [if_pos inside]
    obtain ⟨low, high, _, start, stop⟩ := inside
    rw [checkedSub, if_pos start]
    refine ⟨isMultipleOf (value - first) step, rfl, ?_⟩
    rw [isMultipleOf_iff]
    exact ⟨fun divides => ⟨low, high, start, stop, divides⟩, fun member => member.2.2.2.2⟩
  · rw [if_neg inside]
    refine ⟨false, rfl, iff_of_false Bool.false_ne_true ?_⟩
    rintro ⟨low, high, start, stop, _⟩
    exact inside ⟨low, high, start.trans stop, start, stop⟩

theorem values_eq (term : Term) :
    term.values min max = progression min max (term.base.bounds term.step.isSome min max).1
      (term.base.bounds term.step.isSome min max).2 (term.step.getD 1) := by
  rcases term with ⟨_ | n | ⟨first, last⟩, _ | step⟩ <;> rfl

/-- Bounds that are read belong to a base, and a base has one pair of bounds. -/
theorem base_eq (value min max : Nat) (stepped : Bool) (text : String) (step : Nat) :
    ∃ answer, (match bounds text stepped min max with
      | none => some false
      | some (start, stop) =>
          if min ≤ start ∧ stop ≤ max ∧ start ≤ stop ∧ start ≤ value ∧ value ≤ stop then
            (checkedSub value start).map fun distance => isMultipleOf distance step
          else some false) = some answer ∧
      (answer = true ↔ ∃ base : Base, base.Spells text ∧
        value ∈ progression min max (base.bounds stepped min max).1 (base.bounds stepped min max).2 step) := by
  cases read : bounds text stepped min max with
  | none =>
      refine ⟨false, rfl, iff_of_false Bool.false_ne_true ?_⟩
      rintro ⟨base, spelled, _⟩
      rw [bounds_of_spells spelled] at read
      cases read
  | some bound =>
      obtain ⟨answer, answered, member⟩ := steps_eq value min max bound.1 bound.2 step
      refine ⟨answer, answered, member.trans ?_⟩
      constructor
      · intro inside
        obtain ⟨base, spelled, same⟩ := spells_of_bounds read
        exact ⟨base, spelled, by rwa [same]⟩
      · rintro ⟨base, spelled, inside⟩
        rw [bounds_of_spells spelled, Option.some.injEq] at read
        rwa [← read]

theorem spells_plain_iff (slash : splitOnce '/' text = none) :
    term.Spells text ↔ term.step = none ∧ term.base.Spells text := by
  constructor
  · intro spelled
    cases spelled with
    | plain spelled => exact ⟨rfl, spelled⟩
    | stepped spelled numeral positive =>
        have absent := splitOnce_eq_none_iff.mp slash
        simp at absent
  · rcases term with ⟨base, step⟩
    rintro ⟨rfl, spelled⟩
    exact .plain spelled

theorem spells_stepped_iff {front back : String} (slash : splitOnce '/' text = some (front, back)) :
    term.Spells text ↔ ∃ s, term.step = some s ∧ Numeral back s ∧ 1 ≤ s ∧ term.base.Spells front := by
  constructor
  · intro spelled
    cases spelled with
    | plain spelled =>
        rw [splitOnce_eq_none_iff.mpr spelled.without_slash] at slash
        cases slash
    | stepped spelled numeral positive =>
        have parts := slash.symm.trans (splitOnce_append spelled.without_slash)
        cases parts
        exact ⟨_, rfl, numeral, positive, spelled⟩
  · rcases term with ⟨base, step⟩
    rintro ⟨s, rfl, numeral, positive, spelled⟩
    exact splitOnce_some slash ▸ .stepped spelled numeral positive

/-- A term is read if its base and its step can be read; only the two parts of it are compared. -/
theorem termMatches_eq (text : String) :
    ∃ answer, termMatches text value min max = some answer ∧
      (answer = true ↔ ∃ term : Term, term.Spells text ∧ value ∈ term.values min max) := by
  cases slash : splitOnce '/' text with
  | none =>
      -- without a slash the step is one, and a number stands for itself
      have unstepped : text.toList.contains '/' = false := by
        rw [Bool.eq_false_iff]
        exact fun member => splitOnce_eq_none_iff.mp slash (List.contains_iff_mem.mp member)
      obtain ⟨answer, answered, member⟩ := base_eq value min max false text 1
      refine ⟨answer, ?_, member.trans ?_⟩
      · simp only [termMatches, slash, Option.map_none, Option.getD_none, Nat.one_ne_zero, if_false, unstepped]
        exact answered
      · constructor
        · rintro ⟨base, spelled, inside⟩
          exact ⟨⟨base, none⟩, .plain spelled, by rw [values_eq]; exact inside⟩
        · rintro ⟨⟨base, step⟩, spelled, inside⟩
          obtain ⟨rfl, spelled⟩ := (spells_plain_iff slash).mp spelled
          rw [values_eq] at inside
          exact ⟨base, spelled, inside⟩
  | some parts =>
      obtain ⟨front, back⟩ := parts
      -- with one, a number starts a progression up to the maximum
      have stepped : text.toList.contains '/' = true := by
        rw [List.contains_iff_mem]
        by_contra absent
        rw [splitOnce_eq_none_iff.mpr absent] at slash
        cases slash
      cases read : parseU8 back with
      | none =>
          refine ⟨false, by simp [termMatches, slash, read], iff_of_false Bool.false_ne_true ?_⟩
          rintro ⟨term, spelled, _⟩
          obtain ⟨s, _, numeral, _⟩ := (spells_stepped_iff slash).mp spelled
          rw [Numeral, read] at numeral
          cases numeral
      | some s =>
          by_cases zero : s = 0
          · refine ⟨false, by simp [termMatches, slash, read, zero], iff_of_false Bool.false_ne_true ?_⟩
            rintro ⟨term, spelled, _⟩
            obtain ⟨other, _, numeral, positive, _⟩ := (spells_stepped_iff slash).mp spelled
            rw [Numeral, read, Option.some.injEq] at numeral
            omega
          · obtain ⟨answer, answered, member⟩ := base_eq value min max true front s
            refine ⟨answer, ?_, member.trans ?_⟩
            · simp only [termMatches, slash, read, Option.map_some, Option.getD_some, zero, if_false, stepped]
              exact answered
            · constructor
              · rintro ⟨base, spelled, inside⟩
                refine ⟨⟨base, some s⟩, ?_, by rw [values_eq]; exact inside⟩
                exact (spells_stepped_iff slash).mpr ⟨s, rfl, read, Nat.pos_of_ne_zero zero, spelled⟩
              · rintro ⟨⟨base, step⟩, spelled, inside⟩
                obtain ⟨other, rfl, numeral, _, spelled⟩ := (spells_stepped_iff slash).mp spelled
                rw [Numeral, read, Option.some.injEq] at numeral
                subst numeral
                rw [values_eq] at inside
                exact ⟨base, spelled, inside⟩

end

/-! ### Fields and expressions -/

theorem anyM_eq {α : Type} {test : α → Option Bool} {holds : α → Prop}
    (tested : ∀ a, ∃ answer, test a = some answer ∧ (answer = true ↔ holds a)) (list : List α) :
    ∃ answer, list.anyM test = some answer ∧ (answer = true ↔ ∃ a ∈ list, holds a) := by
  induction list with
  | nil => exact ⟨false, rfl, by simp⟩
  | cons a rest ih =>
      obtain ⟨first, answered, here⟩ := tested a
      cases first with
      | true =>
          -- the terms behind it are not looked at any more
          exact ⟨true, by simp [List.anyM, answered], by simp [here.mp rfl]⟩
      | false =>
          obtain ⟨answer, later, behind⟩ := ih
          have not_here : ¬ holds a := fun held => Bool.false_ne_true (here.mpr held)
          exact ⟨answer, by simp [List.anyM, answered, later], by simp [behind, not_here]⟩

theorem cronFieldMatches_eq (value min max : Nat) (field : String) :
    ∃ answer, cronFieldMatches field value min max = some answer ∧ (answer = true ↔ value ∈ fieldValues min max field) :=
  anyM_eq (fun text => termMatches_eq text) (Text.split ',' field)

theorem both_eq {left right : Option Bool} {p q : Prop} (first : ∃ answer, left = some answer ∧ (answer = true ↔ p))
    (second : ∃ answer, right = some answer ∧ (answer = true ↔ q)) :
    ∃ answer, both left right = some answer ∧ (answer = true ↔ p ∧ q) := by
  obtain ⟨one, rfl, here⟩ := first
  obtain ⟨two, rfl, there⟩ := second
  refine ⟨one && two, by cases one <;> rfl, ?_⟩
  rw [Bool.and_eq_true, here, there]

theorem either_eq {left right : Option Bool} {p q : Prop} (first : ∃ answer, left = some answer ∧ (answer = true ↔ p))
    (second : ∃ answer, right = some answer ∧ (answer = true ↔ q)) :
    ∃ answer, either left right = some answer ∧ (answer = true ↔ p ∨ q) := by
  obtain ⟨one, rfl, here⟩ := first
  obtain ⟨two, rfl, there⟩ := second
  refine ⟨one || two, by cases one <;> rfl, ?_⟩
  rw [Bool.or_eq_true, here, there]

theorem weekdayNumber_eq_zero_iff (weekday : Weekday) : (weekdayNumber weekday == 0) = true ↔ weekday = .sunday := by
  cases weekday <;> decide

/-- The expression is evaluated without an overflow, and is true at the instants it means. -/
theorem cron_matches_iff (expression : String) (now : Instant) :
    ∃ answer, cronMatches expression now = some answer ∧ (answer = true ↔ Due expression now) := by
  unfold cronMatches
  split
  · rename_i minute hour day month weekday fields
    have sunday : ∃ answer, some (weekdayNumber now.weekday == 0) = some answer ∧ (answer = true ↔ now.weekday = .sunday) :=
      ⟨_, rfl, weekdayNumber_eq_zero_iff now.weekday⟩
    obtain ⟨answer, answered, holds⟩ :=
      both_eq (cronFieldMatches_eq now.minute 0 59 minute) <|
        both_eq (cronFieldMatches_eq now.hour 0 23 hour) <|
          both_eq (cronFieldMatches_eq now.day 1 31 day) <|
            both_eq (cronFieldMatches_eq now.month 1 12 month) <|
              either_eq (cronFieldMatches_eq (weekdayNumber now.weekday) 0 7 weekday) <|
                both_eq sunday (cronFieldMatches_eq 7 0 7 weekday)
    refine ⟨answer, answered, holds.trans ?_⟩
    constructor
    · rintro ⟨inMinute, inHour, inDay, inMonth, inWeek⟩
      refine ⟨minute, hour, day, month, weekday, fields, inMinute, inHour, inDay, inMonth, ?_⟩
      rcases inWeek with own | ⟨same, seven⟩
      · exact ⟨_, .inl rfl, own⟩
      · exact ⟨7, .inr ⟨same, rfl⟩, seven⟩
    · rintro ⟨_, _, _, _, _, same, inMinute, inHour, inDay, inMonth, n, number, inWeek⟩
      rw [fields] at same
      cases same
      refine ⟨inMinute, inHour, inDay, inMonth, ?_⟩
      rcases number with rfl | ⟨sunday, rfl⟩
      · exact .inl inWeek
      · exact .inr ⟨sunday, inWeek⟩
  · rename_i other
    refine ⟨false, rfl, iff_of_false Bool.false_ne_true ?_⟩
    rintro ⟨minute, hour, day, month, weekday, fields, _⟩
    exact other minute hour day month weekday fields

end PaladinsCat.CronMatching
