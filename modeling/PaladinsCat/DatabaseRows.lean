import PaladinsCat.MatchDetails

/-!
The rows of a query as JSON (paladinscat-core, database.rs). Each column is encoded by its
PostgreSQL type; BIGINT and NUMERIC become strings, so that no digit is lost on the way.
-/

namespace PaladinsCat.Database

open Hirez (Value)

inductive DatabaseError where
  | invalidConfiguration (message : String)
  | poolBuild (message : String)
  | pool (message : String)
  | query (message : String)
  | unsupportedType (column typeName : String)
  | notFound (row : String)
  deriving DecidableEq, Repr

def DatabaseError.toString : DatabaseError → String
  | .invalidConfiguration message => "invalid DATABASE_URL: " ++ message
  | .poolBuild message => "failed to build PostgreSQL pool: " ++ message
  | .pool message => "PostgreSQL pool error: " ++ message
  | .query message => "PostgreSQL query error: " ++ message
  | .unsupportedType column typeName =>
      "unsupported PostgreSQL response type " ++ typeName ++ " for column " ++ column
  | .notFound row => "requested row not found: " ++ row

/-- A value of a column with its type; `none` is NULL. Floating-point numbers are the texts of their JSON
numbers, and NULL also stands for those that have none. Timestamps and dates are already formatted. -/
inductive ColumnValue where
  | bool (value : Option Bool)
  | int2 (value : Option Int)
  | int4 (value : Option Int)
  | int8 (value : Option Int)
  | float4 (value : Option String)
  | float8 (value : Option String)
  | numeric (value : Option String)
  | text (value : Option String)
  | json (value : Option Value)
  | timestamptz (value : Option String)
  | timestamp (value : Option String)
  | date (value : Option String)
  | boolArray (values : Option (List Bool))
  | int2Array (values : Option (List Int))
  | int4Array (values : Option (List Int))
  | int8Array (values : Option (List Int))
  | float4Array (values : Option (List Value))
  | float8Array (values : Option (List Value))
  | textArray (values : Option (List String))
  | other (typeName : String)

def nullable {α : Type} (encode : α → Value) (value : Option α) : Value := (value.map encode).getD .null

def columnValue (name : String) : ColumnValue → Except DatabaseError Value
  | .bool value => .ok (nullable .bool value)
  | .int2 value | .int4 value => .ok (nullable .integer value)
  | .int8 value => .ok (nullable (fun number => .string (toString number)) value)
  | .float4 value | .float8 value => .ok (nullable .float value)
  | .numeric value | .text value | .timestamptz value | .timestamp value => .ok (nullable .string value)
  | .json value => .ok (nullable id value)
  | .date value => .ok (nullable (fun date => .string (date ++ "T00:00:00.000Z")) value)
  | .boolArray values => .ok (nullable (fun items => .array (items.map .bool)) values)
  | .int2Array values | .int4Array values => .ok (nullable (fun items => .array (items.map .integer)) values)
  | .int8Array values => .ok (nullable (fun items => .array (items.map fun item => .string (toString item))) values)
  | .float4Array values | .float8Array values => .ok (nullable .array values)
  | .textArray values => .ok (nullable (fun items => .array (items.map .string)) values)
  | .other typeName => .error (.unsupportedType name typeName)

abbrev Row := List (String × ColumnValue)

def rowToJson (row : Row) : Except DatabaseError Value :=
  row.foldlM (fun object column => (columnValue column.1 column.2).map (object.insert column.1)) (.object [])

/-- What `query_json` makes of the rows of a query. -/
def encodeRows (rows : List Row) : Except DatabaseError (List Value) := rows.mapM rowToJson

/-- A row of one BIGINT column is an object with one string. -/
theorem rowToJson_bigint (name : String) (number : Int) :
    rowToJson [(name, .int8 (some number))] = .ok (.object [(name, .string (toString number))]) := rfl

theorem encodeRows_bigint (name : String) (numbers : List Int) :
    encodeRows (numbers.map fun number => [(name, .int8 (some number))]) =
      .ok (numbers.map fun number => .object [(name, .string (toString number))]) := by
  unfold encodeRows
  induction numbers with
  | nil => rfl
  | cons number rest ih =>
      rw [List.map_cons, List.mapM_cons, rowToJson_bigint, ih]
      rfl

/-- `as_i64` does not read a BIGINT back. -/
theorem asI64_bigint (name : String) (number : Int) :
    ((Value.object [(name, .string (toString number))]).get name).bind Value.asI64 = none := by
  rw [Value.get, List.lookup_cons_self]
  rfl

end PaladinsCat.Database
