import PaladinsCat.Binary64
import PaladinsCat.MatchDetails

/-!
How the relay reads JSON values the way JavaScript does (normalizer.rs): what is truthy, what
number and what text a value is, and the first truthy field among several spellings.
-/

namespace PaladinsCat.Normalizer

open Hirez (Value)
open KeyPool (u64Max u32Max)
open Resolver (i32Min i32Max)

/-! ### Values -/

/-- `Number::as_f64`. -/
def asF64 : Value → Option Binary64
  | .integer number => some (Binary64.ofRat number)
  | .float text => Binary64.parse text
  | _ => none

def jsTruthy : Value → Bool
  | .null => false
  | .bool value => value
  | .string text => text != ""
  | .array _ | .object _ => true
  | number => (asF64 number).any fun value => decide (value ≠ .finite 0) && decide (value ≠ .nan)

def jsNumber : Value → Option Binary64
  | .string text => Binary64.parse (Text.trim text)
  | .bool value => some (.finite (if value then 1 else 0))
  | .null => some (.finite 0)
  | .array _ | .object _ => none
  | number => asF64 number

mutual

def jsString : Value → String
  | .null => "null"
  | .bool value => if value then "true" else "false"
  | .integer number => toString number
  | .float text => text
  | .string text => text
  | .array items => String.intercalate "," (jsStrings items)
  | .object _ => "[object Object]"

def jsStrings : List Value → List String
  | [] => []
  | item :: rest => jsString item :: jsStrings rest

end

def i64Min : Int := -2 ^ 63
def i64Max : Int := 2 ^ 63 - 1

def numberValue : Binary64 → Value
  | .finite x =>
      if Int.fract x = 0 ∧ (i64Min : ℚ) ≤ x ∧ x ≤ 2 ^ 63 then .integer (Binary64.saturate i64Min i64Max (.finite x))
      else .float (Binary64.display x)
  | _ => .null

def roundTo2 : Binary64 → Binary64
  | .finite x =>
      let scaled := Binary64.lift (· * 100) (.finite x)
      if x = 0 then .finite 0 else Binary64.lift (· / 100) (if x < 1 then scaled.ceil else scaled.round)
  | _ => .finite 0

def zero : Value := .integer 0
def emptyString : Value := .string ""

/-! ### Fields -/

def firstTruthy (raw : Value) (keys : List String) : Option Value :=
  (keys.filterMap fun key => raw.get key).find? jsTruthy

def firstNumber (raw : Value) (keys : List String) : Option Value :=
  ((firstTruthy raw keys).bind jsNumber).map numberValue

def firstF64 (raw : Value) (keys : List String) : Option Binary64 := (firstTruthy raw keys).bind jsNumber

def firstU64 (raw : Value) (keys : List String) : Option Nat :=
  (((firstTruthy raw keys).bind jsNumber).filter fun value => value.isFinite && value.atLeast 0).map fun value =>
    (value.saturate 0 u64Max).toNat

/-- `first_u64` for a field of 32 bits. -/
def firstU32 (raw : Value) (keys : List String) : Nat := ((firstU64 raw keys).filter (· ≤ u32Max)).getD 0

def matchNumber (raw : Value) : List String → Option Int
  | [] => none
  | key :: rest =>
      match raw.get key with
      | none | some (.string "") => matchNumber raw rest
      | some .null => none
      | some value => ((jsNumber value).filter Binary64.isFinite).map (Binary64.saturate i32Min i32Max)

def rowNullableNumber (raw : Value) : List String → Value
  | [] => .null
  | key :: rest =>
      match raw.get key with
      | none | some .null | some (.string "") => rowNullableNumber raw rest
      | some value => ((jsNumber value).map numberValue).getD .null

theorem jsTruthy_integer {number : Int} (nonzero : number ≠ 0) : jsTruthy (.integer number) = true := by
  simp [jsTruthy, asF64, Binary64.ofRat_ne_zero nonzero, Binary64.ofRat_ne_nan]

theorem firstTruthy_pair (raw : Value) (first second : String) :
    firstTruthy raw [first, second] =
      ((raw.get first).filter jsTruthy).or ((raw.get second).filter jsTruthy) := by
  unfold firstTruthy
  cases front : raw.get first with
  | none => cases back : raw.get second <;> simp [front, back, Option.filter]
  | some value =>
      cases back : raw.get second <;> cases truthy : jsTruthy value <;> simp [front, back, truthy, Option.filter]

end PaladinsCat.Normalizer
