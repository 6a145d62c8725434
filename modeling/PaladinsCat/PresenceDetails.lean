import PaladinsCat.Base64Url
import PaladinsCat.Binary64
import PaladinsCat.CivilTime
import PaladinsCat.HourSteps
import PaladinsCat.JsonParser
import PaladinsCat.KeysetPaging
import PaladinsCat.ProfileRefresh

/-!
The list of the last day's matches (routes/stats/presence.rs, `details`), read page by page. The
cursor is a JSON text in base 64 that names the last row of a page. Whoever follows the cursors
gets every match once, however the table changes meanwhile.
-/

namespace PaladinsCat.PresenceDetails

open Backend (HourKey HourOp HourStore MatchCountDiscovery MatchIdObservation discoveryKey hourServe recordObservation)
open ProfileRefresh (ApiError)

def i32Min : ℤ := -2 ^ 31
def i32Max : ℤ := 2 ^ 31 - 1
def i64Min : ℤ := -2 ^ 63
def i64Max : ℤ := 2 ^ 63 - 1

def validation (message : String) : ApiError := ⟨400, "VALIDATION", message⟩

/-! ### Cursors -/

structure Cursor where
  date : String
  hour : ℤ
  matchId : String
  queueId : ℤ
  deriving DecidableEq

/-- `serde_json::to_vec` of a cursor. -/
def Cursor.json (cursor : Cursor) : Json.Value :=
  .object [("date", .string cursor.date), ("hour", .number (.ofInt cursor.hour)),
    ("matchId", .string cursor.matchId), ("queueId", .number (.ofInt cursor.queueId))]

def token (cursor : Cursor) : String :=
  String.ofList (Base64Url.encode (String.ofList (Json.print cursor.json)).toUTF8.data.toList)

def asText : Json.Value → Option String
  | .string text => some text
  | _ => none

def asI32 : Json.Value → Option ℤ
  | .number number => number.toInt?.filter fun n => i32Min ≤ n && n ≤ i32Max
  | _ => none

/-- A field that is there exactly once. -/
def single (fields : List (String × Json.Value)) (name : String) : Option Json.Value :=
  match fields.filter fun field => field.1 == name with
  | [field] => some field.2
  | _ => none

/-- A struct is read from an object, where other fields are ignored, or from an array of its fields. -/
def Cursor.ofJson : Json.Value → Option Cursor
  | .object fields => do
      let date ← (single fields "date").bind asText
      let hour ← (single fields "hour").bind asI32
      let matchId ← (single fields "matchId").bind asText
      let queueId ← (single fields "queueId").bind asI32
      return ⟨date, hour, matchId, queueId⟩
  | .array [date, hour, matchId, queueId] => do
      let date ← asText date
      let hour ← asI32 hour
      let matchId ← asText matchId
      let queueId ← asI32 queueId
      return ⟨date, hour, matchId, queueId⟩
  | _ => none

def Cursor.valid (cursor : Cursor) : Bool :=
  cursor.date.utf8ByteSize == 10 && 0 ≤ cursor.hour && cursor.hour ≤ 23 &&
    (Text.parseSigned i64Min i64Max cursor.matchId).any (0 ≤ ·) && 0 ≤ cursor.queueId

def decodeCursor (raw : String) : Option Cursor := do
  let bytes ← Base64Url.decode raw.toList
  let text ← String.fromUTF8? ⟨bytes.toArray⟩
  let value ← Json.parse text.toList
  let cursor ← Cursor.ofJson value
  if cursor.valid then some cursor else none

/-! ### Rows -/

/-- The columns that the rows are ordered by, the first of them first. -/
structure Position where
  date : ℤ
  hour : ℤ
  matchId : ℤ
  queueId : ℤ

def Position.columns (position : Position) : ℤ ×ₗ ℤ ×ₗ ℤ ×ₗ ℤ :=
  toLex (position.date, toLex (position.hour, toLex (position.matchId, position.queueId)))

theorem Position.columns_injective : Function.Injective Position.columns := by
  rintro ⟨date, hour, matchId, queueId⟩ ⟨date', hour', matchId', queueId'⟩ same
  simpa [columns, Prod.mk.injEq] using same

instance : LinearOrder Position := LinearOrder.lift' Position.columns Position.columns_injective

def position (row : MatchCountDiscovery) : Position := ⟨row.sourceDate, row.sourceHour, row.matchId, row.queueId⟩

def dateText (day : ℤ) : String := String.ofList (CivilTime.dateText (CivilTime.dateOf day))

/-- The casts of texts to a date, in days, and to a time, in microseconds. The dates of four
digits for the year are known. -/
structure Casts where
  date : String → Except String ℤ
  instant : String → ℤ
  date_text : ∀ day, 1 ≤ (CivilTime.dateOf day).year → (CivilTime.dateOf day).year ≤ 9999 → date (dateText day) = .ok day

/-- What a query sees: the time in microseconds, the tables, and the queues that are tracked. -/
structure Snapshot where
  now : ℤ
  store : HourStore
  tracksPresence : ℤ → Bool

def microsPerHour : ℤ := 3600000000

def Snapshot.recent (casts : Casts) (snapshot : Snapshot) (row : MatchCountDiscovery) : Bool :=
  let hourStart := (row.sourceDate * 24 + row.sourceHour) * microsPerHour
  (snapshot.now - 25 * microsPerHour) / (24 * microsPerHour) ≤ row.sourceDate &&
    snapshot.now - 24 * microsPerHour ≤ (row.entryDatetime.map casts.instant).getD hourStart &&
    snapshot.tracksPresence row.queueId

/-- `encode_cursor`, for a row of the page. -/
def encodeCursor (row : MatchCountDiscovery) : String :=
  token ⟨String.ofList ((dateText row.sourceDate).toList.take 10), row.sourceHour, toString row.matchId, row.queueId⟩

/-! ### The page -/

def queueIdOf (query : String → Option String) : Except ApiError (Option ℤ) :=
  match (query "queue_id").filter (· != "") with
  | none => .ok none
  | some value =>
      match (Text.parseSigned i32Min i32Max value).filter (0 ≤ ·) with
      | some queueId => .ok (some queueId)
      | none => .error (validation "queue_id must be a valid PostgreSQL integer.")

def detailLimit (query : String → Option String) : ℕ :=
  match ((query "limit").bind Binary64.parse).filter Binary64.isFinite with
  | none => 25
  | some value => (max 10 (min 50 (value.saturate i32Min i32Max))).toNat

def Snapshot.shows (casts : Casts) (snapshot : Snapshot) (queueId : Option ℤ) (row : MatchCountDiscovery) : Bool :=
  snapshot.recent casts row && queueId.all (row.queueId = ·)

/-- The rows of the query, in its order. -/
def listed (casts : Casts) (snapshot : Snapshot) (queueId : Option ℤ) (keeps : MatchCountDiscovery → Bool) :
    List MatchCountDiscovery :=
  (snapshot.store.discoveries.filter fun row => snapshot.shows casts queueId row && keeps row).mergeSort
    fun earlier later => decide (position later ≤ position earlier)

structure Page where
  found : List MatchCountDiscovery
  nextCursor : Option String

/-- The cursor of a request: none, or one that could be read. -/
def cursorOf (query : String → Option String) : Except ApiError (Option Cursor) :=
  match (query "cursor").filter (· != "") with
  | none => .ok none
  | some raw =>
      match decodeCursor raw with
      | some cursor => .ok (some cursor)
      | none => .error (validation "Invalid presence-detail cursor.")

/-- The row value that the rows of the page are compared with. -/
def bound (casts : Casts) : Option Cursor → Except ApiError (Option Position)
  | none => .ok none
  | some cursor =>
      match casts.date cursor.date with
      | .ok date =>
          .ok (some ⟨date, cursor.hour, (Text.parseSigned i64Min i64Max cursor.matchId).getD 0, cursor.queueId⟩)
      | .error message => .error (ApiError.database message)

def details (casts : Casts) (snapshot : Snapshot) (query : String → Option String) : Except ApiError Page := do
  let queueId ← queueIdOf query
  let limit := detailLimit query
  let cursor ← cursorOf query
  let last ← bound casts cursor
  -- One row more is asked for than the page holds.
  let rows := (listed casts snapshot queueId (KeysetPaging.behind position last)).take (limit + 1)
  let page := rows.take limit
  return ⟨page, if limit < rows.length then page.getLast?.map encodeCursor else none⟩

/-! ### The cursor of a page is read back -/

theorem asI32_ofInt {n : ℤ} (low : i32Min ≤ n) (high : n ≤ i32Max) : asI32 (.number (.ofInt n)) = some n := by
  simp [asI32, Json.Number.toInt?_ofInt, Option.filter, low, high]

theorem ofJson_json {cursor : Cursor} (hour : i32Min ≤ cursor.hour ∧ cursor.hour ≤ i32Max)
    (queueId : i32Min ≤ cursor.queueId ∧ cursor.queueId ≤ i32Max) : Cursor.ofJson cursor.json = some cursor := by
  simp [Cursor.ofJson, Cursor.json, single, asText, asI32_ofInt hour.1 hour.2, asI32_ofInt queueId.1 queueId.2]

theorem fromUTF8_toUTF8 (text : String) : String.fromUTF8? ⟨text.toUTF8.data.toList.toArray⟩ = some text := by
  have bytes : (⟨text.toUTF8.data.toList.toArray⟩ : ByteArray) = text.toUTF8 := by rw [Array.toArray_toList]
  rw [bytes, String.fromUTF8?, dif_pos]
  rfl

/-- A cursor that passes its check is read from its token. -/
theorem decodeCursor_token {cursor : Cursor} (valid : cursor.valid = true) (hour : cursor.hour ≤ i32Max)
    (queueId : cursor.queueId ≤ i32Max) : decodeCursor (token cursor) = some cursor := by
  have ranges : 0 ≤ cursor.hour ∧ 0 ≤ cursor.queueId := by
    simp only [Cursor.valid, Bool.and_eq_true, decide_eq_true_eq] at valid
    exact ⟨valid.1.1.1.2, valid.2⟩
  have low : i32Min ≤ 0 := by decide
  have read := ofJson_json ⟨by omega, hour⟩ ⟨by omega, queueId⟩
  simp only [decodeCursor, token, String.toList_ofList, Base64Url.decode_encode, Option.bind_eq_bind, Option.bind_some,
    fromUTF8_toUTF8, Json.parse_print, read, valid, if_true]

/-! ### Rows have cursors -/

theorem utf8ByteSize_ascii {chars : List Char} (ascii : ∀ c ∈ chars, c.toNat < 128) :
    (String.ofList chars).utf8ByteSize = chars.length := by
  induction chars with
  | nil => rfl
  | cons c rest ih =>
      have one : c.utf8Size = 1 := by
        rw [Char.utf8Size_eq_one_iff]
        have small := ascii c (by simp)
        rw [UInt32.le_iff_toNat_le]
        exact Nat.le_of_lt_succ small
      rw [String.ofList_cons, String.utf8ByteSize_append, String.utf8ByteSize_singleton, one,
        ih fun other member => ascii other (by simp [member]), List.length_cons]
      omega

/-- A position that the cursors can name. -/
structure Named (position : Position) : Prop where
  early : 1 ≤ (CivilTime.dateOf position.date).year
  late : (CivilTime.dateOf position.date).year ≤ 9999
  hour : 0 ≤ position.hour ∧ position.hour ≤ 23
  matchId : 0 ≤ position.matchId ∧ position.matchId ≤ i64Max
  queueId : 0 ≤ position.queueId ∧ position.queueId ≤ i32Max

def cursorAt (position : Position) : Cursor :=
  ⟨String.ofList ((dateText position.date).toList.take 10), position.hour, toString position.matchId, position.queueId⟩

theorem dateText_shape {position : Position} (named : Named position) :
    (dateText position.date).toList.length = 10 ∧ ∀ c ∈ (dateText position.date).toList, c.toNat < 128 := by
  have four : (CivilTime.dateOf position.date).year < 10000 := by
    have := named.late
    omega
  simp only [dateText, CivilTime.dateText, if_pos four, String.toList_ofList]
  constructor
  · simp [CivilTime.digits_length]
  · intro c member
    have shape : c.isDigit = true ∨ c = '-' := by
      simp only [List.mem_append, List.mem_cons] at member
      rcases member with year | rfl | month | rfl | day
      · exact .inl (CivilTime.digits_isDigit c year)
      · exact .inr rfl
      · exact .inl (CivilTime.digits_isDigit c month)
      · exact .inr rfl
      · exact .inl (CivilTime.digits_isDigit c day)
    rcases shape with digit | rfl
    · have range := Binary64.digit_range digit
      omega
    · decide

theorem dateText_cut {position : Position} (named : Named position) :
    String.ofList ((dateText position.date).toList.take 10) = dateText position.date := by
  rw [List.take_of_length_le (dateText_shape named).1.le, String.ofList_toList]

theorem matchId_read {position : Position} (named : Named position) :
    Text.parseSigned i64Min i64Max (toString position.matchId) = some position.matchId := by
  obtain ⟨n, same⟩ := Int.eq_ofNat_of_zero_le named.matchId.1
  have bound := named.matchId.2
  rw [same] at bound ⊢
  have shown : toString (n : ℤ) = toString n := rfl
  have low : i64Min ≤ n := le_trans (by decide) (Int.natCast_nonneg n)
  rw [shown, Text.parseSigned_digits (Text.toString_digits n) (Text.toString_ne_nil n), Text.digitsValue_toString]
  simp [low, bound]

theorem cursorAt_valid {position : Position} (named : Named position) : (cursorAt position).valid = true := by
  obtain ⟨length, ascii⟩ := dateText_shape named
  have size : (dateText position.date).utf8ByteSize = 10 := by
    rw [← String.ofList_toList (s := dateText position.date), utf8ByteSize_ascii ascii, length]
  simp only [Cursor.valid, cursorAt, dateText_cut named, size, matchId_read named, Option.any_some, Bool.and_eq_true,
    beq_iff_eq, decide_eq_true_eq]
  exact ⟨⟨⟨⟨trivial, named.hour.1⟩, named.hour.2⟩, named.matchId.1⟩, named.queueId.1⟩

theorem decodeCursor_cursorAt {position : Position} (named : Named position) :
    decodeCursor (token (cursorAt position)) = some (cursorAt position) :=
  decodeCursor_token (cursorAt_valid named) (le_trans named.hour.2 (by decide)) named.queueId.2

/-- The rows of the next page are compared with the position of the row that the cursor was made of. -/
theorem bound_cursorAt (casts : Casts) {cursor : Option Position} (named : ∀ last ∈ cursor, Named last) :
    bound casts (cursor.map cursorAt) = .ok cursor := by
  cases cursor with
  | none => rfl
  | some last =>
      have known := named last rfl
      have date := casts.date_text _ known.early known.late
      simp only [Option.map_some, bound, cursorAt, dateText_cut known, date, matchId_read known, Option.getD_some]

/-! ### The table -/

structure Sound (table : List MatchCountDiscovery) : Prop where
  distinct : (table.map discoveryKey).Nodup
  named : ∀ row ∈ table, Named (position row)

theorem position_injOn {table : List MatchCountDiscovery} (sound : Sound table) {row other : MatchCountDiscovery}
    (member : row ∈ table) (listed : other ∈ table) (same : position row = position other) : row = other := by
  refine List.inj_on_of_nodup_map sound.distinct member listed ?_
  simp only [position, Position.mk.injEq] at same
  simp [discoveryKey, same]

theorem recordObservation_positions (key : HourKey) (table : List MatchCountDiscovery) (observation : MatchIdObservation) :
    (recordObservation key table observation).map position = table.map position ∨
      (observation.matchId, key.queueId) ∉ table.map discoveryKey ∧
        ∃ row, position row = ⟨key.date, key.hour, observation.matchId, key.queueId⟩ ∧
          recordObservation key table observation = table ++ [row] := by
  simp only [recordObservation]
  split
  · left
    induction table with
    | nil => rfl
    | cons known rest ih =>
        rw [KeyedList.update_cons]
        split
        · rfl
        · rename_i found other
          rw [KeyedList.lookup_cons, if_neg other] at found
          rw [List.map_cons, ih found, List.map_cons]
  · rename_i absent
    exact .inr ⟨KeyedList.lookup_eq_none_iff.mp absent, _, rfl, rfl⟩

/-- What is known stays where it is, and what is new is put where the hour is. -/
theorem recordObservation_sound {key : HourKey} {table : List MatchCountDiscovery} {observation : MatchIdObservation}
    (sound : Sound table) (named : Named ⟨key.date, key.hour, observation.matchId, key.queueId⟩) :
    Sound (recordObservation key table observation) ∧
      ∀ row ∈ table, position row ∈ (recordObservation key table observation).map position := by
  rcases recordObservation_positions key table observation with same | ⟨absent, row, placed, appended⟩
  · have keys : (recordObservation key table observation).map discoveryKey = table.map discoveryKey := by
      have read := congrArg (List.map fun place : Position => (place.matchId, place.queueId)) same
      rwa [List.map_map, List.map_map] at read
    refine ⟨⟨keys ▸ sound.distinct, ?_⟩, fun row member => same ▸ List.mem_map_of_mem member⟩
    intro row member
    obtain ⟨old, listed, place⟩ := List.mem_map.mp (same ▸ List.mem_map_of_mem (f := position) member)
    exact place ▸ sound.named old listed
  · rw [appended]
    have key' : discoveryKey row = (observation.matchId, key.queueId) := by
      simp only [position, Position.mk.injEq] at placed
      simp [discoveryKey, placed]
    refine ⟨⟨?_, ?_⟩, fun old member => List.mem_map_of_mem (List.mem_append_left _ member)⟩
    · rw [List.map_append, List.map_singleton, key']
      exact List.nodup_append.mpr ⟨sound.distinct, by simp, by
        intro old listed new single
        rw [List.mem_singleton.mp single]
        exact fun same => absent (same ▸ listed)⟩
    · intro other member
      rcases List.mem_append.mp member with old | new
      · exact sound.named other old
      · rw [List.mem_singleton.mp new, placed]
        exact named

theorem recordObservations_sound {key : HourKey} {observations : List MatchIdObservation}
    {table : List MatchCountDiscovery} (sound : Sound table)
    (named : ∀ observation ∈ observations, Named ⟨key.date, key.hour, observation.matchId, key.queueId⟩) :
    Sound (observations.foldl (recordObservation key) table) ∧
      ∀ row ∈ table, position row ∈ (observations.foldl (recordObservation key) table).map position := by
  induction observations generalizing table with
  | nil => exact ⟨sound, fun row member => List.mem_map_of_mem member⟩
  | cons observation rest ih =>
      obtain ⟨first, keeps⟩ := recordObservation_sound sound (named observation (by simp))
      obtain ⟨after, later⟩ := ih first fun other member => named other (by simp [member])
      refine ⟨after, fun row member => ?_⟩
      obtain ⟨kept, listed, place⟩ := List.mem_map.mp (keeps row member)
      exact place ▸ later kept listed

/-! ### Steps of the workers -/

/-- The values of a request to record an hour are of the types of their columns, with a year of
four digits. -/
def InRange : HourOp → Prop
  | .recordDiscovery key observations =>
      1 ≤ (CivilTime.dateOf key.date).year ∧ (CivilTime.dateOf key.date).year ≤ 9999 ∧
        0 ≤ key.queueId ∧ key.queueId ≤ i32Max ∧ ∀ observation ∈ observations, observation.matchId ≤ i64Max
  | _ => True

/-- A step of some worker, whatever it is told. -/
def Step (before after : HourStore) : Prop := ∃ op reply, InRange op ∧ hourServe.handler before op reply after

theorem observationsById_mem {raw : List MatchIdObservation} {observation : MatchIdObservation}
    (member : observation ∈ Backend.observationsById raw) : observation ∈ raw ∧ 0 < observation.matchId := by
  simp only [Backend.observationsById, List.mem_filterMap, List.mem_insertionSort, List.mem_dedup, List.mem_filter,
    decide_eq_true_eq] at member
  obtain ⟨id, ⟨-, positive⟩, found⟩ := member
  have named := List.find?_some found
  rw [beq_iff_eq] at named
  exact ⟨List.mem_reverse.mp (List.mem_of_find?_eq_some found), named ▸ positive⟩

theorem step_sound {before after : HourStore} (step : Step before after) (sound : Sound before.discoveries) :
    Sound after.discoveries ∧ ∀ row ∈ before.discoveries, position row ∈ after.discoveries.map position := by
  obtain ⟨op, reply, inRange, served⟩ := step
  obtain ⟨outside, -, found, rfl, ⟨rfl, -⟩ | ⟨result, effected, -⟩⟩ := Backend.hour_served served
  · exact ⟨sound, fun row member => List.mem_map_of_mem member⟩
  · obtain ⟨-, -, ⟨key, observations, rfl, recorded⟩ | same⟩ := Backend.hourEffect_frame effected
    · rw [recorded]
      refine recordObservations_sound sound fun observation member => ?_
      obtain ⟨listed, positive⟩ := observationsById_mem member
      have hour : 0 ≤ key.hour ∧ key.hour ≤ 23 := by
        have allowed := Backend.constraintViolation_eq_ok.mp effected
        simp only [Backend.recordMatchCountDiscoveryResult, Option.ite_none_right_eq_some] at allowed
        exact allowed.1.resolve_left (List.ne_nil_of_mem member)
      obtain ⟨early, late, low, high, ids⟩ := inRange
      exact ⟨early, late, hour, ⟨positive.le, ids observation listed⟩, low, high⟩
    · rw [same]
      exact ⟨sound, fun row member => List.mem_map_of_mem member⟩

/-- Any number of steps, of any workers. -/
def Later : HourStore → HourStore → Prop := Relation.ReflTransGen Step

instance : Trans Later Later Later := ⟨Relation.ReflTransGen.trans⟩

theorem later_sound {before after : HourStore} (later : Later before after) (sound : Sound before.discoveries) :
    Sound after.discoveries ∧ ∀ row ∈ before.discoveries, position row ∈ after.discoveries.map position := by
  induction later with
  | refl => exact ⟨sound, fun row member => List.mem_map_of_mem member⟩
  | tail _ step ih =>
      obtain ⟨middle, keeps⟩ := ih
      obtain ⟨after, further⟩ := step_sound step middle
      refine ⟨after, fun row member => ?_⟩
      obtain ⟨kept, listed, place⟩ := List.mem_map.mp (keeps row member)
      exact place ▸ further kept listed

/-! ### Listings -/

section Listing
variable (casts : Casts) {snapshot : Snapshot} (queueId : Option ℤ)

theorem mem_listed {keeps : MatchCountDiscovery → Bool} {row : MatchCountDiscovery} :
    row ∈ listed casts snapshot queueId keeps ↔
      row ∈ snapshot.store.discoveries ∧ snapshot.shows casts queueId row = true ∧ keeps row = true := by
  simp [listed, List.mem_mergeSort]

theorem listed_descending (sound : Sound snapshot.store.discoveries) (keeps : MatchCountDiscovery → Bool) :
    KeysetPaging.Descending position (listed casts snapshot queueId keeps) := by
  have weak : (listed casts snapshot queueId keeps).Pairwise fun earlier later => position later ≤ position earlier := by
    have sorted := @List.pairwise_mergeSort _
      (fun earlier later : MatchCountDiscovery => decide (position later ≤ position earlier))
      (fun one two three high low => by simpa using le_trans (of_decide_eq_true low) (of_decide_eq_true high))
      (fun one two => by simpa using le_total (position two) (position one))
      (snapshot.store.discoveries.filter fun row => snapshot.shows casts queueId row && keeps row)
    exact sorted.imp of_decide_eq_true
  have keys : ((listed casts snapshot queueId keeps).map discoveryKey).Nodup := by
    have filtered := sound.distinct.sublist (List.filter_sublist
      (p := fun row => snapshot.shows casts queueId row && keeps row) |>.map discoveryKey)
    exact ((List.mergeSort_perm _ _).map discoveryKey).nodup_iff.mpr filtered
  have distinct : (listed casts snapshot queueId keeps).Pairwise fun earlier later => position later ≠ position earlier := by
    refine (List.pairwise_map.mp keys).imp fun {earlier later} different same => different ?_
    simp only [position, Position.mk.injEq] at same
    simp [discoveryKey, same]
  exact (weak.and distinct).imp fun both => lt_of_le_of_ne both.1 both.2

/-- To compare the rows in the query is to compare them afterwards. -/
theorem listed_filter (sound : Sound snapshot.store.discoveries) (keeps : MatchCountDiscovery → Bool) :
    listed casts snapshot queueId keeps = (listed casts snapshot queueId fun _ => true).filter keeps := by
  have one := listed_descending casts queueId sound keeps
  have two := (listed_descending casts queueId sound fun _ => true).filter keeps
  refine List.Perm.eq_of_pairwise (fun row other _ _ below above => absurd below (lt_asymm above)) one two ?_
  refine (List.mergeSort_perm _ _).trans (.trans ?_ ((List.mergeSort_perm _ _).filter keeps).symm)
  rw [List.filter_filter]
  exact List.Perm.of_eq (List.filter_congr fun row _ => by simp [Bool.and_comm])

end Listing

/-! ### Pages -/

def request (query : String → Option String) (cursor : Option String) (name : String) : Option String :=
  if name = "cursor" then cursor else query name

theorem request_other {query : String → Option String} {cursor : Option String} :
    queueIdOf (request query cursor) = queueIdOf query ∧ detailLimit (request query cursor) = detailLimit query := by
  have queue : request query cursor "queue_id" = query "queue_id" := if_neg (by decide)
  have limit : request query cursor "limit" = query "limit" := if_neg (by decide)
  exact ⟨by simp only [queueIdOf, queue], by simp only [detailLimit, limit]⟩

def load (casts : Casts) (query : String → Option String) (cursor : Option String) (snapshot : Snapshot) :
    Option (List MatchCountDiscovery × Option String) :=
  (details casts snapshot (request query cursor)).toOption.map fun page => (page.found, page.nextCursor)

theorem details_eq {casts : Casts} (snapshot : Snapshot) {query : String → Option String} {queueId : Option ℤ}
    {cursor : Option Cursor} {last : Option Position} (valid : queueIdOf query = .ok queueId)
    (read : cursorOf query = .ok cursor) (compared : bound casts cursor = .ok last) :
    details casts snapshot query =
      let rows := (listed casts snapshot queueId (KeysetPaging.behind position last)).take (detailLimit query + 1)
      .ok ⟨rows.take (detailLimit query),
        if detailLimit query < rows.length then (rows.take (detailLimit query)).getLast?.map encodeCursor else none⟩ := by
  simp only [details, valid, read, bind, Except.bind]
  rw [compared]
  rfl

theorem decodeCursor_empty : decodeCursor "" = none := by
  have bytes : Base64Url.decode "".toList = some [] := rfl
  have text : String.fromUTF8? ⟨([] : List UInt8).toArray⟩ = some "" := fromUTF8_toUTF8 ""
  have value : Json.parse "".toList = none := by decide
  simp only [decodeCursor, bytes, text, value, Option.bind_eq_bind, Option.bind_some, Option.bind_none]

/-- A cursor that was handed out is read, and means the position it was made of. -/
theorem cursorOf_request {query : String → Option String} {cursor : Option Position} (named : ∀ last ∈ cursor, Named last) :
    cursorOf (request query (cursor.map fun last => token (cursorAt last))) = .ok (cursor.map cursorAt) := by
  cases cursor with
  | none => rfl
  | some last =>
      have read := decodeCursor_cursorAt (named last rfl)
      have written : token (cursorAt last) ≠ "" := by
        intro empty
        rw [empty, decodeCursor_empty] at read
        cases read
      simp [cursorOf, request, Option.filter, written, read]

theorem details_serves (casts : Casts) (query : String → Option String) {queueId : Option ℤ}
    (valid : queueIdOf query = .ok queueId) :
    KeysetPaging.Serves (load casts query) position (fun last => token (cursorAt last))
      (fun snapshot => listed casts snapshot queueId fun _ => true) (detailLimit query) Named
      (fun snapshot => Sound snapshot.store.discoveries) where
  positive := by
    unfold detailLimit
    split <;> omega
  descending snapshot sound := listed_descending casts queueId sound _
  named snapshot sound row member := sound.named row ((mem_listed casts queueId).mp member).1
  loads cursor snapshot sound named := by
    have answer := details_eq snapshot (request_other.1.trans valid) (cursorOf_request named)
      (bound_cursorAt casts named)
    have written : encodeCursor = (fun last => token (cursorAt last)) ∘ position := by
      funext row
      simp only [encodeCursor, cursorAt, position, Function.comp]
    rw [load, answer, listed_filter casts queueId sound, request_other.2, written]
    simp only [Except.toOption, Option.map_some, KeysetPaging.page, Option.some.injEq, Prod.mk.injEq, true_and]
    split
    · rw [Option.map_map]
    · rfl

/-! ### Readers -/

/-- The queries of a reader see the database at different times, with any steps between them. As
pages are cached, one may be older than the page before it. -/
def Reads (snapshots : List Snapshot) : Prop :=
  ∃ history : List HourStore, (({} : HourStore) :: history).IsChain Later ∧ ∀ snapshot ∈ snapshots, snapshot.store ∈ history

theorem history_sound {history : List HourStore} (chain : (({} : HourStore) :: history).IsChain Later) :
    ∀ store ∈ history, Sound store.discoveries := by
  intro store member
  have first : Later {} store := (List.pairwise_cons.mp (List.isChain_iff_pairwise.mp chain)).1 store member
  exact (later_sound first ⟨by simp, by simp⟩).1

theorem reads_sound {snapshots : List Snapshot} (reads : Reads snapshots) :
    ∀ snapshot ∈ snapshots, Sound snapshot.store.discoveries := by
  obtain ⟨history, chain, within⟩ := reads
  exact fun snapshot member => history_sound chain snapshot.store (within snapshot member)

theorem later_position {before after : HourStore} (later : Later before after) (sound : Sound before.discoveries)
    {row other : MatchCountDiscovery} (found : row ∈ before.discoveries) (seen : other ∈ after.discoveries)
    (same : discoveryKey row = discoveryKey other) : position row = position other := by
  obtain ⟨distinct, keeps⟩ := later_sound later sound
  obtain ⟨kept, listed, place⟩ := List.mem_map.mp (keeps row found)
  have key : discoveryKey kept = discoveryKey other := by
    simp only [position, Position.mk.injEq] at place
    rw [← same]
    simp [discoveryKey, place]
  rw [← place, List.inj_on_of_nodup_map distinct.distinct listed seen key]

/-- A match that is in both tables has the same place in both. -/
def Agree (one two : HourStore) : Prop :=
  ∀ row ∈ one.discoveries, ∀ other ∈ two.discoveries, discoveryKey row = discoveryKey other → position row = position other

theorem reads_agree {snapshots : List Snapshot} (reads : Reads snapshots) {one two : Snapshot}
    (first : one ∈ snapshots) (second : two ∈ snapshots) : Agree one.store two.store := by
  obtain ⟨history, chain, within⟩ := reads
  have pairs := (List.pairwise_cons.mp (List.isChain_iff_pairwise.mp chain)).2
  have symmetric : Std.Symm Agree :=
    ⟨fun one two agree row found other seen same => (agree other seen row found same.symm).symm⟩
  refine List.Pairwise.forall_of_forall ?_ (pairs.imp_of_mem ?_) (within one first) (within two second)
  · exact fun one member row found other seen same => later_position .refl (history_sound chain one member) found seen same
  · exact fun first _ later row found other seen same => later_position later (history_sound chain _ first) found seen same

/-- The cursors lead through a table that stays as it is to its end. -/
theorem details_ends (casts : Casts) (query : String → Option String) {queueId : Option ℤ}
    (valid : queueIdOf query = .ok queueId) {snapshot : Snapshot} (reads : Reads [snapshot]) :
    ∃ loads, KeysetPaging.Walk (load casts query) none (List.replicate (loads + 1) snapshot)
      (listed casts snapshot queueId fun _ => true) := by
  obtain ⟨loads, walk⟩ := KeysetPaging.walk_ends (details_serves casts query valid) (reads_sound reads snapshot (by simp))
    none (by simp)
  rw [KeysetPaging.filter_behind_none] at walk
  exact ⟨loads, walk⟩

/-- A cursor that some page has handed out is accepted by every later query. -/
theorem details_continues (casts : Casts) (query : String → Option String) {queueId : Option ℤ}
    (valid : queueIdOf query = .ok queueId) {before after : Snapshot} (reads : Reads [before, after])
    {cursor : Option Position} (named : ∀ last ∈ cursor, Named last) {rows : List MatchCountDiscovery} {next : String}
    (loaded : load casts query (cursor.map fun last => token (cursorAt last)) before = some (rows, some next)) :
    ∃ row ∈ rows, (∀ other ∈ rows, position row ≤ position other) ∧
      (load casts query (some next) after).map Prod.fst =
        some (((listed casts after queueId fun _ => true).filter fun other => decide (position other < position row)).take
          (detailLimit query)) := by
  have serves := details_serves casts query valid
  have sound := reads_sound reads
  obtain ⟨last, rfl, lastNamed, -, ⟨row, listed, rfl⟩, above⟩ := serves.goes_on (sound before (by simp)) named loaded
  have answer := serves.loads (some (position row)) after (sound after (by simp)) (by simpa using lastNamed)
  refine ⟨row, listed, above, ?_⟩
  rw [Option.map_some] at answer
  rw [answer, Option.map_some, KeysetPaging.page_rows]
  rfl

/-- Casts that read the texts of the format. -/
def isoCasts : Casts where
  date text :=
    match CivilTime.readDateTime (text.toList ++ "T00:00:00".toList) with
    | some (t, []) => .ok (t / 86400000000000)
    | _ => .error "invalid input syntax for type date"
  instant text := ((CivilTime.readDateTime text.toList).map fun read => read.1 / 1000).getD 0
  date_text day early late := by
    have seconds : CivilTime.secondOf (day * 86400000000000) = day * 86400 := by
      unfold CivilTime.secondOf
      omega
    have dated : CivilTime.date (day * 86400000000000) = CivilTime.dateOf day := by
      unfold CivilTime.date
      rw [seconds, Int.mul_ediv_cancel _ (by decide)]
    have midnight : CivilTime.secondOfDay (day * 86400000000000) = 0 := by
      unfold CivilTime.secondOfDay
      rw [seconds, Int.mul_emod_left]
      rfl
    have text : (dateText day).toList ++ "T00:00:00".toList = CivilTime.dateTimeText 'T' (day * 86400000000000) ++ [] := by
      rw [List.append_nil, CivilTime.dateTimeText, dated, midnight, dateText, String.toList_ofList]
      rfl
    rw [text, CivilTime.readDateTime_text (by rw [CivilTime.year, dated]; omega) (by rwa [CivilTime.year, dated]), seconds]
    simp only [Except.ok.injEq]
    omega

def busyHour : HourKey := ⟨20000, 5, 486⟩

/-- The matches of an hour, seen within the day. -/
def seen (observations : List MatchIdObservation) : Snapshot where
  now := 20000 * 24 * microsPerHour + 8 * microsPerHour
  store :=
    { discoveries := (Backend.observationsById observations).foldl (recordObservation busyHour) []
      regionHours := Function.update (fun _ => []) busyHour (Backend.regionCounts (Backend.observationsById observations))
      hours := Function.update (fun _ => none) busyHour none }
  tracksPresence _ := true

theorem seen_reads (observations : List MatchIdObservation) (ids : ∀ observation ∈ observations, observation.matchId ≤ i64Max)
    (loads : ℕ) : Reads (List.replicate loads (seen observations)) := by
  have inRange : InRange (.recordDiscovery busyHour observations) := by
    simp only [InRange, busyHour]
    exact ⟨by decide, by decide, by decide, by decide, ids⟩
  have recorded : Backend.recordMatchCountDiscoveryResult {} busyHour observations =
      some ((Backend.observationsById observations).length, (seen observations).store) := by
    rw [Backend.recordMatchCountDiscoveryResult, if_pos (.inr (by decide))]
    rfl
  have served : hourServe {} (.recordDiscovery busyHour observations) {} =
      some (.ok (Backend.observationsById observations).length, (seen observations).store) := by
    have effect : Backend.hourEffect {} {} (.recordDiscovery busyHour observations) =
        .ok ((Backend.observationsById observations).length, (seen observations).store) :=
      congrArg Backend.constraintViolation recorded
    simp only [hourServe, id, effect, lt_irrefl, if_false]
  refine ⟨[(seen observations).store], .cons_cons (.single ⟨_, _, inRange, {}, served⟩) (.singleton _), ?_⟩
  intro snapshot member
  rw [List.eq_of_mem_replicate member]
  exact List.mem_singleton_self _

def threeMatches : List MatchIdObservation := [{ matchId := 9 }, { matchId := 7 }, { matchId := 8 }]

def manyMatches : List MatchIdObservation := (List.range 30).map fun n => { matchId := n + 1 }

/-- The first page of thirty matches is followed by another one. -/
theorem details_continues_many : ∃ rows next, load isoCasts (fun _ => none) none (seen manyMatches) = some (rows, some next) ∧
    ∃ row ∈ rows, (load isoCasts (fun _ => none) (some next) (seen manyMatches)).map Prod.fst =
      some (((listed isoCasts (seen manyMatches) none fun _ => true).filter fun other =>
        decide (position other < position row)).take (detailLimit fun _ => none)) := by
  have reads := seen_reads manyMatches (by decide) 2
  have serves := details_serves isoCasts (fun _ => none) rfl
  have longer : 25 < (listed isoCasts (seen manyMatches) none fun _ => true).length := by
    rw [listed, List.length_mergeSort]
    decide +kernel
  have answer := serves.loads none (seen manyMatches) (reads_sound reads _ (by simp)) (by simp)
  cases goes : (KeysetPaging.page position (detailLimit fun _ => none) none
      (listed isoCasts (seen manyMatches) none fun _ => true)).2 with
  | none =>
      have whole := congrArg List.length (KeysetPaging.page_last serves.positive goes)
      rw [KeysetPaging.page_rows, List.length_take, KeysetPaging.filter_behind_none] at whole
      have limit : detailLimit (fun _ => none) = 25 := rfl
      omega
  | some last =>
      rw [goes, Option.map_some] at answer
      obtain ⟨row, member, -, continued⟩ := @details_continues isoCasts (fun _ => none) none rfl _ _ reads
        none (by simp) _ _ answer
      exact ⟨_, _, answer, row, member, continued⟩

end PaladinsCat.PresenceDetails
