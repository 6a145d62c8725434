import Mathlib

/-!
The three truth values of SQL conditions. A column that may be NULL, and any column
of a row that an outer join did not find, is an `Option`; a comparison with NULL is
unknown, and `WHERE` keeps a row only if its condition is true. `holds` and `fails`
turn a condition into ordinary logic: negation swaps them, and each connective has
one rule for either.
-/

namespace Sql

/-- The value of a condition; `none` is unknown. -/
abbrev Truth := Option Bool

namespace Truth

def holds (condition : Truth) : Bool := condition == some true

def fails (condition : Truth) : Bool := condition == some false

def not (condition : Truth) : Truth := condition.map Bool.not

def and : Truth → Truth → Truth
  | some false, _ => some false
  | _, some false => some false
  | some true, some true => some true
  | _, _ => none

def or (left right : Truth) : Truth := (left.not.and right.not).not

/-- `COALESCE(condition, value)`. -/
def coalesce (condition : Truth) (value : Bool) : Truth := some (condition.getD value)

variable (condition left right : Truth)

@[simp] theorem holds_some (value : Bool) : holds (some value) = value := by
  cases value <;> rfl

@[simp] theorem fails_some (value : Bool) : fails (some value) = !value := by
  cases value <;> rfl

@[simp] theorem holds_unknown : holds none = false := rfl

@[simp] theorem fails_unknown : fails none = false := rfl

@[simp] theorem holds_not : condition.not.holds = condition.fails := by
  rcases condition with _ | _ | _ <;> rfl

@[simp] theorem fails_not : condition.not.fails = condition.holds := by
  rcases condition with _ | _ | _ <;> rfl

@[simp] theorem holds_and : (left.and right).holds = (left.holds && right.holds) := by
  rcases left with _ | _ | _ <;> rcases right with _ | _ | _ <;> rfl

@[simp] theorem fails_and : (left.and right).fails = (left.fails || right.fails) := by
  rcases left with _ | _ | _ <;> rcases right with _ | _ | _ <;> rfl

@[simp] theorem holds_or : (left.or right).holds = (left.holds || right.holds) := by
  simp [or]

@[simp] theorem fails_or : (left.or right).fails = (left.fails && right.fails) := by
  simp [or]

-- With FALSE for unknown, a condition that does not hold is false.
@[simp] theorem fails_coalesce_false : (condition.coalesce false).fails = !condition.holds := by
  rcases condition with _ | _ | _ <;> rfl

end Truth

section Columns
variable {Value : Type}

/-- `column IS NULL`. -/
def isNull (column : Option Value) : Truth := some column.isNone

@[simp] theorem holds_isNull (column : Option Value) : (isNull column).holds = column.isNone :=
  Truth.holds_some _

variable [DecidableEq Value]

/-- `left = right`. -/
def equal : Option Value → Option Value → Truth
  | some left, some right => some (left = right)
  | _, _ => none

/-- `left <> right`. -/
def unequal (left right : Option Value) : Truth := (equal left right).not

/-- `column IN(values)`. -/
def inList (column : Option Value) (values : List Value) : Truth :=
  values.foldr (fun value rest => (equal column (some value)).or rest) (some false)

/-- `column NOT IN(values)`. -/
def notInList (column : Option Value) (values : List Value) : Truth := (inList column values).not

/-- `left IS NOT DISTINCT FROM right`: equality that takes NULL for a value. -/
def notDistinct (left right : Option Value) : Truth := some (left = right)

/-- `left IS DISTINCT FROM right`. -/
def distinct (left right : Option Value) : Truth := (notDistinct left right).not

@[simp] theorem holds_equal_some (column : Option Value) (value : Value) :
    (equal column (some value)).holds = (column == some value) := by
  cases column with
  | none => rfl
  | some found => by_cases same : found = value <;> simp [equal, same]

@[simp] theorem fails_equal_some (column : Option Value) (value : Value) :
    (equal column (some value)).fails = column.any (· != value) := by
  cases column with
  | none => rfl
  | some found => by_cases same : found = value <;> simp [equal, same]

@[simp] theorem holds_unequal_some (column : Option Value) (value : Value) :
    (unequal column (some value)).holds = column.any (· != value) := by
  simp [unequal]

@[simp] theorem holds_notDistinct (left right : Option Value) :
    (notDistinct left right).holds = (left == right) := by
  simp [notDistinct, beq_eq_decide]

@[simp] theorem holds_distinct (left right : Option Value) :
    (distinct left right).holds = (left != right) := by
  simp [distinct, notDistinct, bne, beq_eq_decide]

@[simp] theorem holds_notInList (column : Option Value) (values : List Value) :
    (notInList column values).holds = (values.isEmpty || column.any (· ∉ values)) := by
  induction values with
  | nil => rfl
  | cons value rest ih =>
      simp only [notInList, Truth.holds_not] at ih
      cases column with
      | none => simp [notInList, inList]
      | some found => cases rest <;> simp_all [notInList, inList, bne, beq_eq_decide, Bool.and_comm]

end Columns

end Sql
