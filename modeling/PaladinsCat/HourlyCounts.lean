import PaladinsCat.HourLedger
import PaladinsCat.RelayPayload

/-!
The hourly counts of the ranked matches (`upsert_hourly_count` in workers/match_facts.rs): the
hour that a match is counted in is cut out of its time as it is written, with the offset it is
written in. Instants are nanoseconds since the epoch, dates are days since then. The parsers of
the time crate are given.
-/

namespace PaladinsCat.Backend

/-! ### Times -/

structure PrimitiveDateTime where
  date : Int
  hour : Nat
  minute : Nat
  second : Nat
  nanosecond : Nat
  hour_range : hour < 24
  minute_range : minute < 60
  second_range : second < 60
  nanosecond_range : nanosecond < 1000000000

/-- A local time, with its distance from UTC in seconds. -/
structure OffsetDateTime extends PrimitiveDateTime where
  offset : Int

def PrimitiveDateTime.assumeUtc (time : PrimitiveDateTime) : OffsetDateTime := { time with offset := 0 }

namespace OffsetDateTime

variable (time : OffsetDateTime)

def instant : Int :=
  (time.date * 86400 + time.hour * 3600 + time.minute * 60 + time.second - time.offset) * 1000000000 + time.nanosecond

/-- `replace_time(Time::from_hms(hour, 0, 0))` -/
def replaceTime (hour : Nat) (range : hour < 24) : OffsetDateTime :=
  { time with
    hour
    minute := 0
    second := 0
    nanosecond := 0
    hour_range := range
    minute_range := by decide
    second_range := by decide
    nanosecond_range := by decide }

end OffsetDateTime

/-- The parsers of RFC 3339 and of the spelling of Hi-Rez, which is UTC. -/
structure TimeParsers where
  rfc3339 : String → Option OffsetDateTime
  hirezFormat : String → Option PrimitiveDateTime

def parseEntryDatetime (parsers : TimeParsers) (entry : String) : Except MatchFactError OffsetDateTime :=
  match parsers.rfc3339 entry with
  | some parsed => .ok parsed
  | none =>
      match parsers.hirezFormat entry with
      | some parsed => .ok parsed.assumeUtc
      | none => .error (.invalidPayload ("upsert_hourly_count: unparseable entry_datetime " ++ entry))

/-! ### Regions -/

inductive RegionColumn where
  | na
  | eu
  | sea
  | jpn
  | rus
  | br
  | oce
  | sa
  | unknown
  deriving DecidableEq

def canonicalRegion (value : String) : String :=
  let trimmed := Text.trim value
  let name := Text.toAsciiLowercase trimmed
  if name = "north america" ∨ name = "na" then "NA"
  else if name = "europe" ∨ name = "eu" then "EU"
  else if name = "brazil" ∨ name = "br" then "BR"
  else if name = "south america" ∨ name = "sa" then "SA"
  else if name = "southeast asia" ∨ name = "sea" then "SEA"
  else if name = "australia" ∨ name = "oceania" ∨ name = "oce" then "OCE"
  else if name = "japan" ∨ name = "jpn" then "JPN"
  else if name = "russia" ∨ name = "rus" then "RUS"
  else if name = "asia" then "ASIA"
  else if name = "latin america north" ∨ name = "latam north" ∨ name = "latin america south" ∨
      name = "latam south" ∨ name = "unknown" ∨ name = "" then "Unknown"
  else trimmed

def regionColumn (region : String) : RegionColumn :=
  if region = "NA" then .na
  else if region = "EU" then .eu
  else if region = "SEA" then .sea
  else if region = "JPN" then .jpn
  else if region = "RUS" then .rus
  else if region = "BR" then .br
  else if region = "OCE" then .oce
  else if region = "SA" then .sa
  else .unknown

/-! ### upsert_hourly_count -/

def rankedStatsQueueId : Int := 486

/-- What is counted of a row of `matches`. -/
structure CountedMatch where
  queueId : Int
  entryDatetime : Int
  limited : Option Bool
  region : Option String

/-- A row of `hourly_match_counts`. -/
structure HourlyMatchCount where
  regions : RegionColumn → Nat
  totalMatches : Nat
  fetchedAt : Int

structure HourlyPayload where
  queueId : Int
  entryDatetime : String
  region : String

/-- From the first instant on, up to the second. -/
structure Window where
  start : Int
  finish : Int

def Window.contains (window : Window) (instant : Int) : Bool :=
  decide (window.start ≤ instant) && decide (instant < window.finish)

def hourWindow (parsed : OffsetDateTime) : Window where
  start := (parsed.replaceTime parsed.hour parsed.hour_range).instant
  finish := (parsed.replaceTime ((parsed.hour + 1) % 24) (Nat.mod_lt _ (by decide))).instant

def hourKey (parsed : OffsetDateTime) (queueId : Int) : HourKey := ⟨parsed.date, parsed.hour, queueId⟩

/-- The rows of the queue that are not limited, whose instant is accepted. -/
def countedMatches (matchRows : List CountedMatch) (queueId : Int) (within : Int → Bool) : List CountedMatch :=
  matchRows.filter fun row => row.queueId == queueId && within row.entryDatetime && !row.limited.getD false

def upsertHourlyCount (now : Int) (parsers : TimeParsers) (payload : HourlyPayload) (matchRows : List CountedMatch)
    (counts : HourKey → Option HourlyMatchCount) : Except MatchFactError (HourKey → Option HourlyMatchCount) :=
  if payload.queueId ≠ rankedStatsQueueId then .ok counts
  else if payload.entryDatetime = "" then .ok counts
  else do
    let parsed ← parseEntryDatetime parsers payload.entryDatetime
    let region := canonicalRegion payload.region
    let counted := countedMatches matchRows payload.queueId (hourWindow parsed).contains
    let regionCount := (counted.filter fun row => row.region == some region).length
    let column := regionColumn region
    let key := hourKey parsed payload.queueId
    let regions := ((counts key).map (·.regions)).getD fun _ => 0
    return Function.update counts key (some {
      regions := Function.update regions column regionCount
      totalMatches := counted.length
      fetchedAt := now })

/-! ### Hours of UTC -/

def nanosPerHour : Int := 3600000000000

/-- The hours since the epoch that have passed at an instant. -/
def utcHourIndex (instant : Int) : Int := instant / nanosPerHour

/-- The date and the hour of UTC. -/
def utcHourKey (instant queueId : Int) : HourKey := ⟨utcHourIndex instant / 24, utcHourIndex instant % 24, queueId⟩

def inUtcHour (hour instant : Int) : Bool := utcHourIndex instant == hour

theorem contains_hourWindow_iff (parsed : OffsetDateTime) (instant : Int) :
    (hourWindow parsed).contains instant = true ↔
      (parsed.date * 86400 + parsed.hour * 3600 - parsed.offset) * 1000000000 ≤ instant ∧
        instant < (parsed.date * 86400 + ((parsed.hour + 1) % 24 : Nat) * 3600 - parsed.offset) * 1000000000 := by
  simp [Window.contains, hourWindow, OffsetDateTime.instant, OffsetDateTime.replaceTime]

/-- The window is the entry's hour of UTC. -/
def WindowExact (parsed : OffsetDateTime) : Prop :=
  ∀ instant, (hourWindow parsed).contains instant = inUtcHour (utcHourIndex parsed.instant) instant

theorem windowExact_of_utc {parsed : OffsetDateTime} (utc : parsed.offset = 0) (early : parsed.hour ≠ 23) :
    WindowExact parsed ∧ ∀ queueId, hourKey parsed queueId = utcHourKey parsed.instant queueId := by
  obtain ⟨⟨date, hour, minute, second, nanosecond, hour_range, minute_range, second_range, nanosecond_range⟩, offset⟩ :=
    parsed
  dsimp only at utc early
  subst utc
  have index : utcHourIndex (OffsetDateTime.instant ⟨⟨date, hour, minute, second, nanosecond, hour_range, minute_range,
      second_range, nanosecond_range⟩, 0⟩) = date * 24 + hour := by
    simp only [utcHourIndex, OffsetDateTime.instant, nanosPerHour]
    omega
  constructor
  · intro instant
    rw [Bool.eq_iff_iff, contains_hourWindow_iff, index]
    simp only [inUtcHour, utcHourIndex, nanosPerHour, beq_iff_eq]
    omega
  · intro queueId
    simp only [hourKey, utcHourKey, index, HourKey.mk.injEq, and_true]
    omega

theorem utc_of_windowExact {parsed : OffsetDateTime} (exact_ : WindowExact parsed)
    (key : hourKey parsed rankedStatsQueueId = utcHourKey parsed.instant rankedStatsQueueId) :
    parsed.offset = 0 ∧ parsed.hour ≠ 23 := by
  unfold WindowExact at exact_
  generalize known : utcHourIndex parsed.instant = index at exact_
  have range := parsed.hour_range
  have first := exact_ (index * nanosPerHour)
  have last := exact_ (index * nanosPerHour + (nanosPerHour - 1))
  have before := exact_ (index * nanosPerHour - 1)
  rw [Bool.eq_iff_iff, contains_hourWindow_iff] at first last before
  simp only [inUtcHour, utcHourIndex, nanosPerHour, beq_iff_eq] at first last before
  simp only [hourKey, utcHourKey, known, HourKey.mk.injEq, and_true] at key
  omega

/-! ### What is counted -/

/-- The window and the key are those of the entry's hour of UTC, and the row of that hour, and no
other, gets the number of its matches. -/
structure CountsItsHour (parsers : TimeParsers) (payload : HourlyPayload) (parsed : OffsetDateTime) : Prop where
  window : WindowExact parsed
  key : hourKey parsed payload.queueId = utcHourKey parsed.instant payload.queueId
  counted : ∀ (now : Int) (matchRows : List CountedMatch) (counts : HourKey → Option HourlyMatchCount), ∃ after,
    upsertHourlyCount now parsers payload matchRows counts = .ok after ∧
      (after (utcHourKey parsed.instant payload.queueId)).map (·.totalMatches) =
        some (countedMatches matchRows payload.queueId (inUtcHour (utcHourIndex parsed.instant))).length ∧
      ∀ other, other ≠ utcHourKey parsed.instant payload.queueId → after other = counts other

theorem upsertHourlyCount_parsed {parsers : TimeParsers} {payload : HourlyPayload} {parsed : OffsetDateTime}
    (ranked : payload.queueId = rankedStatsQueueId) (present : payload.entryDatetime ≠ "")
    (parses : parseEntryDatetime parsers payload.entryDatetime = .ok parsed) (now : Int)
    (matchRows : List CountedMatch) (counts : HourKey → Option HourlyMatchCount) :
    ∃ row, upsertHourlyCount now parsers payload matchRows counts =
        .ok (Function.update counts (hourKey parsed payload.queueId) (some row)) ∧
      row.totalMatches = (countedMatches matchRows payload.queueId (hourWindow parsed).contains).length := by
  simp only [upsertHourlyCount, ranked, ne_eq, not_true_eq_false, if_false, present, parses]
  exact ⟨_, rfl, rfl⟩

/-- The hour is counted just if the entry is written in UTC and not in the last hour of a day. -/
theorem countsItsHour_iff {parsers : TimeParsers} {payload : HourlyPayload} {parsed : OffsetDateTime}
    (ranked : payload.queueId = rankedStatsQueueId) (present : payload.entryDatetime ≠ "")
    (parses : parseEntryDatetime parsers payload.entryDatetime = .ok parsed) :
    CountsItsHour parsers payload parsed ↔ parsed.offset = 0 ∧ parsed.hour ≠ 23 := by
  constructor
  · intro counts
    exact utc_of_windowExact counts.window (ranked ▸ counts.key)
  · rintro ⟨utc, early⟩
    obtain ⟨window, key⟩ := windowExact_of_utc utc early
    refine ⟨window, key _, fun now matchRows counts => ?_⟩
    obtain ⟨row, stored, total⟩ := upsertHourlyCount_parsed ranked present parses now matchRows counts
    rw [key] at stored
    refine ⟨_, stored, ?_, fun other different => Function.update_of_ne different _ _⟩
    rw [Function.update_self, Option.map_some, total, funext window]

/-- A parser for two texts. -/
def fewParsers : TimeParsers where
  rfc3339 entry :=
    if entry = "2026-01-01T08:38:09Z" then
      some ⟨⟨20454, 8, 38, 9, 0, by decide, by decide, by decide, by decide⟩, 0⟩
    else if entry = "2026-01-01T23:30:00Z" then
      some ⟨⟨20454, 23, 30, 0, 0, by decide, by decide, by decide, by decide⟩, 0⟩
    else none
  hirezFormat _ := none

theorem countsItsHour_morning :
    CountsItsHour fewParsers ⟨486, "2026-01-01T08:38:09Z", "Europe"⟩
      ⟨⟨20454, 8, 38, 9, 0, by decide, by decide, by decide, by decide⟩, 0⟩ :=
  (countsItsHour_iff rfl (by decide) rfl).mpr ⟨rfl, by decide⟩

/-- At half past eleven in the evening the window ends before it starts, and the one match that is
there is not counted. -/
theorem last_hour_counts_nothing :
    parseEntryDatetime fewParsers "2026-01-01T23:30:00Z" =
        .ok ⟨⟨20454, 23, 30, 0, 0, by decide, by decide, by decide, by decide⟩, 0⟩ ∧
      ¬ CountsItsHour fewParsers ⟨486, "2026-01-01T23:30:00Z", "Europe"⟩
        ⟨⟨20454, 23, 30, 0, 0, by decide, by decide, by decide, by decide⟩, 0⟩ ∧
      (hourWindow ⟨⟨20454, 23, 30, 0, 0, by decide, by decide, by decide, by decide⟩, 0⟩).contains 1767310200000000000 =
        false := by
  refine ⟨rfl, fun counts => ?_, by decide⟩
  have window := counts.window 1767310200000000000
  exact absurd window (by decide)

end PaladinsCat.Backend
