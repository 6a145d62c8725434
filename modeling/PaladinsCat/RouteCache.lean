import PaladinsCat.JsonParser

/-!
The cache of route responses (route_cache.rs) over the JSON cache in Redis (cache.rs): the entry
that a response is stored as, and what a stored text is read back as. Redis takes every command
here and no key expires; gzip and base64 are given by what they undo. The fields of an object
have different names.
-/

namespace PaladinsCat.RouteCache

open Json (Value)

/-! ### StoredRouteResponse -/

/-- Texts packed by flate2 and written by base64. -/
structure Compression where
  compress : String → String
  decompress : String → Option String
  decompress_compress : ∀ text, decompress (compress text) = some text

def i64Max : Int := 2 ^ 63 - 1

/-- Milliseconds since the epoch, as an i64. -/
abbrev Millis := { time : Int // -2 ^ 63 ≤ time ∧ time ≤ i64Max }

structure CachedRouteResponse where
  payload : Value
  freshUntil : Millis

structure StoredRouteResponse where
  payload : Option Value
  compressedPayload : Option String
  encoding : Option String
  freshUntil : Millis

def compressionThresholdBytes : Nat := 64 * 1024

def gzipBase64 : String := "gzip-base64"

/-- `serde_json::to_string` -/
def toText (value : Value) : String := String.ofList (Json.print value)

/-- `serde_json::from_str` -/
def fromText (text : String) : Option Value := Json.parse text.toList

def isNull : Value → Bool
  | .null => true
  | _ => false

namespace StoredRouteResponse

variable (gzip : Compression)

def encode (payload : Value) (freshUntil : Millis) : StoredRouteResponse :=
  let text := toText payload
  if text.utf8ByteSize < compressionThresholdBytes then
    { payload := some payload, compressedPayload := none, encoding := none, freshUntil }
  else
    { payload := none, compressedPayload := some (gzip.compress text), encoding := some gzipBase64, freshUntil }

def decode (stored : StoredRouteResponse) : Option CachedRouteResponse := do
  let payload ←
    if stored.encoding = some gzipBase64 then do
      let text ← gzip.decompress (← stored.compressedPayload)
      fromText text
    else stored.payload
  return { payload, freshUntil := stored.freshUntil }

/-! The derived serializer leaves out the fields that are none. The derived deserializer takes an
absent field and null for none, and an array as the fields in their order. -/

def fields (stored : StoredRouteResponse) : List (String × Value) :=
  (stored.payload.map fun payload => ("payload", payload)).toList ++
    (stored.compressedPayload.map fun text => ("compressedPayload", Value.string text)).toList ++
    (stored.encoding.map fun text => ("encoding", Value.string text)).toList ++
    [("freshUntil", .number (.ofInt stored.freshUntil.1))]

def toValue (stored : StoredRouteResponse) : Value := .object stored.fields

def fieldNames : List String := ["payload", "compressedPayload", "encoding", "freshUntil"]

def members : Value → Option (List (String × Value))
  | .object fields => some fields
  | .array items => if items.length ≤ fieldNames.length then some (fieldNames.zip items) else none
  | _ => none

def optionalValue (fields : List (String × Value)) (name : String) : Option Value :=
  (fields.lookup name).filter fun value => !isNull value

def optionalText (fields : List (String × Value)) (name : String) : Option (Option String) :=
  match optionalValue fields name with
  | none => some none
  | some (.string text) => some (some text)
  | some _ => none

def millis (fields : List (String × Value)) (name : String) : Option Millis :=
  match fields.lookup name with
  | some (.number number) =>
      number.toInt?.bind fun time => if range : -2 ^ 63 ≤ time ∧ time ≤ i64Max then some ⟨time, range⟩ else none
  | _ => none

def fromValue (value : Value) : Option StoredRouteResponse := do
  let fields ← members value
  let compressedPayload ← optionalText fields "compressedPayload"
  let encoding ← optionalText fields "encoding"
  let freshUntil ← millis fields "freshUntil"
  return { payload := optionalValue fields "payload", compressedPayload, encoding, freshUntil }

end StoredRouteResponse

/-! ### RedisCache -/

abbrev Redis := String → Option String

namespace RedisCache

variable {α : Type}

/-- `{"v":null}`, which stands for null. -/
def isNullSentinel : Value → Bool
  | .object fields => fields.length == 1 && (fields.lookup "v").any isNull
  | _ => false

def del (redis : Redis) (key : String) : Redis := Function.update redis key none

/-- A text that cannot be read is deleted. -/
def get (fromValue : Value → Option α) (redis : Redis) (key : String) : Option α × Redis :=
  match redis key with
  | none => (none, redis)
  | some text =>
      match fromText text with
      | none => (none, del redis key)
      | some parsed =>
          if isNullSentinel parsed then (none, redis)
          else
            match fromValue parsed with
            | some value => (some value, redis)
            | none => (none, del redis key)

def set (toValue : α → Value) (redis : Redis) (key : String) (value : α) : Redis :=
  let serialized := toText (toValue value)
  Function.update redis key (some (if serialized = "null" then "\x7b\"v\":null\x7d" else serialized))

end RedisCache

/-! ### RouteCache -/

section
variable (gzip : Compression)

/-- `now_millis().saturating_add((fresh_ttl * 1_000) as i64)` -/
def freshUntil (now : Millis) (freshTtl : Nat) : Millis :=
  let lifetime := Int.bmod (freshTtl * 1000) (2 ^ 64)
  ⟨max (-2 ^ 63) (min i64Max (now.1 + lifetime)), by
    unfold i64Max
    omega⟩

def get (redis : Redis) (key : String) : Option CachedRouteResponse × Redis :=
  match RedisCache.get StoredRouteResponse.fromValue redis key with
  | (none, redis) => (none, redis)
  | (some stored, redis) =>
      match stored.decode gzip with
      | some cached => (some cached, redis)
      | none => (none, RedisCache.del redis key)

def store (redis : Redis) (key : String) (payload : Value) (now : Millis) (freshTtl : Nat) : Redis :=
  RedisCache.set StoredRouteResponse.toValue redis key
    (StoredRouteResponse.encode gzip payload (freshUntil now freshTtl))

end

/-! ### What is read back -/

theorem fromText_toText (value : Value) : fromText (toText value) = some value := by
  rw [fromText, toText, String.toList_ofList, Json.parse_print]

theorem isNullSentinel_iff {value : Value} :
    RedisCache.isNullSentinel value = true ↔ value = .object [("v", .null)] := by
  constructor
  · intro sentinel
    cases value with
    | object fields =>
        simp only [RedisCache.isNullSentinel, Bool.and_eq_true, beq_iff_eq] at sentinel
        obtain ⟨single, hidden⟩ := sentinel
        obtain ⟨⟨name, content⟩, rfl⟩ := List.length_eq_one_iff.mp single
        by_cases named : "v" = name
        · subst named
          cases content with
          | null => rfl
          | _ => cases hidden
        · have passed : ("v" == name) = false := by simpa using named
          simp [List.lookup, passed] at hidden
    | _ => cases sentinel
  · rintro rfl
    rfl

/-- The text of a value is the text of null for null only. -/
theorem toText_eq_null {value : Value} : toText value = "null" ↔ value = .null := by
  constructor
  · intro same
    have read := fromText_toText value
    rw [same] at read
    exact (Option.some.inj (read.symm.trans (fromText_toText .null)))
  · rintro rfl
    rfl

section
variable {α : Type} {toValue : α → Value} {fromValue : Value → Option α} {redis : Redis} {key : String} {value : α}

/-- What `get` makes of a key after `set`: a value that is not null is looked at as it is. -/
theorem get_set (present : toValue value ≠ .null) :
    RedisCache.get fromValue (RedisCache.set toValue redis key value) key =
      if RedisCache.isNullSentinel (toValue value) then (none, RedisCache.set toValue redis key value)
      else
        match fromValue (toValue value) with
        | some read => (some read, RedisCache.set toValue redis key value)
        | none => (none, RedisCache.del (RedisCache.set toValue redis key value) key) := by
  have text : RedisCache.set toValue redis key value key = some (toText (toValue value)) := by
    simp only [RedisCache.set, Function.update_self, if_neg (mt toText_eq_null.mp present)]
  simp only [RedisCache.get, text, fromText_toText]

end

namespace StoredRouteResponse

variable (stored : StoredRouteResponse)

theorem optionalValue_fields :
    optionalValue stored.fields "payload" = stored.payload.filter fun value => !isNull value := by
  obtain ⟨payload, compressedPayload, encoding, freshUntil⟩ := stored
  cases payload <;> cases compressedPayload <;> cases encoding <;> rfl

theorem compressedPayload_fields :
    optionalText stored.fields "compressedPayload" = some stored.compressedPayload := by
  obtain ⟨payload, compressedPayload, encoding, freshUntil⟩ := stored
  cases payload <;> cases compressedPayload <;> cases encoding <;> rfl

theorem encoding_fields : optionalText stored.fields "encoding" = some stored.encoding := by
  obtain ⟨payload, compressedPayload, encoding, freshUntil⟩ := stored
  cases payload <;> cases compressedPayload <;> cases encoding <;> rfl

theorem millis_fields : millis stored.fields "freshUntil" = some stored.freshUntil := by
  obtain ⟨payload, compressedPayload, encoding, freshUntil, range⟩ := stored
  have found : (fields ⟨payload, compressedPayload, encoding, ⟨freshUntil, range⟩⟩).lookup "freshUntil" =
      some (.number (.ofInt freshUntil)) := by
    cases payload <;> cases compressedPayload <;> cases encoding <;> rfl
  simp only [millis, found, Json.Number.toInt?_ofInt, Option.bind_some, dif_pos range]

theorem fromValue_toValue :
    fromValue stored.toValue = some { stored with payload := stored.payload.filter fun value => !isNull value } := by
  simp only [fromValue, toValue, members, Option.bind_eq_bind, Option.bind_some, compressedPayload_fields,
    encoding_fields, millis_fields, optionalValue_fields]
  rfl

end StoredRouteResponse

/-- An entry is never the sentinel. -/
theorem toValue_not_sentinel (stored : StoredRouteResponse) :
    RedisCache.isNullSentinel stored.toValue = false := by
  obtain ⟨payload, compressedPayload, encoding, freshUntil⟩ := stored
  cases payload <;> cases compressedPayload <;> cases encoding <;> rfl

section
variable (gzip : Compression) (redis : Redis) (key : String) (payload : Value) (now : Millis) (freshTtl : Nat)

theorem get_store :
    get gzip (store gzip redis key payload now freshTtl) key =
      if isNull payload then (none, RedisCache.del (store gzip redis key payload now freshTtl) key)
      else (some ⟨payload, freshUntil now freshTtl⟩, store gzip redis key payload now freshTtl) := by
  have present : ∀ stored : StoredRouteResponse, stored.toValue ≠ .null := fun _ null => by cases null
  unfold get store
  rw [get_set (present _), toValue_not_sentinel, if_neg Bool.false_ne_true,
    StoredRouteResponse.fromValue_toValue]
  by_cases small : (toText payload).utf8ByteSize < compressionThresholdBytes
  · cases empty : isNull payload with
    | false => simp [StoredRouteResponse.encode, small, StoredRouteResponse.decode, empty, Option.filter]
    | true => simp [StoredRouteResponse.encode, small, StoredRouteResponse.decode, empty, Option.filter]
  · have large : isNull payload = false := by
      cases payload with
      | null => exact absurd (by decide) small
      | _ => rfl
    simp [StoredRouteResponse.encode, small, StoredRouteResponse.decode, large, gzip.decompress_compress,
      fromText_toText]

theorem get_set_value {value : Value} (present : value ≠ .null) :
    RedisCache.get some (RedisCache.set id redis key value) key =
      (if RedisCache.isNullSentinel value then none else some value, RedisCache.set id redis key value) := by
  rw [@get_set _ id some redis key value present]
  cases sentinel : RedisCache.isNullSentinel value <;> simp [sentinel]

/-- A stored response is read back unless its payload is null, and a stored value unless it is the
sentinel. -/
theorem cache_round_trip :
    (get gzip (store gzip redis key payload now freshTtl) key =
        (some ⟨payload, freshUntil now freshTtl⟩, store gzip redis key payload now freshTtl) ↔ payload ≠ .null) ∧
      ∀ value : Value, value ≠ .null →
        (RedisCache.get some (RedisCache.set id redis key value) key =
            (some value, RedisCache.set id redis key value) ↔
          value ≠ .object [("v", .null)]) := by
  constructor
  · rw [get_store]
    cases payload with
    | null => simp [isNull]
    | _ => simp [isNull]
  · intro value present
    rw [get_set_value redis key present, ne_eq, ← isNullSentinel_iff]
    cases sentinel : RedisCache.isNullSentinel value <;> simp

end

/-- Nothing is packed. -/
def unpacked : Compression := ⟨id, some, fun _ => rfl⟩

theorem cache_round_trip_list :
    (get unpacked (store unpacked (fun _ => none) "champions" (.array [.bool true]) ⟨0, by decide⟩ 900)
        "champions").1 = some ⟨.array [.bool true], freshUntil ⟨0, by decide⟩ 900⟩ ∧
      (RedisCache.get some (RedisCache.set id (fun _ => none) "champions" (.array [.bool true])) "champions").1 =
        some (.array [.bool true]) := by
  obtain ⟨response, value⟩ := cache_round_trip unpacked (fun _ => none) "champions" (.array [.bool true])
    ⟨0, by decide⟩ 900
  have read := response.mpr (fun null => by cases null)
  have direct := (value (.array [.bool true]) (fun null => by cases null)).mpr (fun same => by cases same)
  exact ⟨congrArg Prod.fst read, congrArg Prod.fst direct⟩

/-- A payload that is null is deleted when it is read, and the value `{"v":null}` is read as none. -/
theorem null_payload_deleted :
    get unpacked (store unpacked (fun _ => none) "champions" .null ⟨0, by decide⟩ 900) "champions" =
        (none, RedisCache.del (store unpacked (fun _ => none) "champions" .null ⟨0, by decide⟩ 900) "champions") ∧
      (RedisCache.get some (RedisCache.set id (fun _ => none) "champions" (.object [("v", Value.null)]))
        "champions").1 = none := by
  constructor
  · exact get_store unpacked (fun _ => none) "champions" .null ⟨0, by decide⟩ 900
  · rw [get_set_value _ _ fun null => by cases null]
    rfl

end PaladinsCat.RouteCache
