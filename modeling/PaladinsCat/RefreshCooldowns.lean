import PaladinsCat.CivilTime
import PaladinsCat.DatabaseRows

/-!
How long the stats of a player stay fresh (`routes/players/provider.rs`). The time of the last
refresh goes through the row of a query as text, and its RFC 3339 parser decides whether there is
a time at all: the profile's text is made by `row_to_json`, the text of the champions by a cast in
PostgreSQL. The `time` crate is given, with what it documents of RFC 3339.
-/

namespace PaladinsCat.RefreshCooldowns

open CivilTime
open Hirez (Value)

/-! ### The time crate -/

/-- An instant, with the offset that its text is written in. -/
structure OffsetDateTime where
  instant : ℤ
  offset : ℤ
  deriving DecidableEq

structure TimeCrate where
  /-- `OffsetDateTime::parse(text, &Rfc3339).ok()` -/
  parse : String → Option OffsetDateTime
  /-- `value.format(&Rfc3339).ok()` -/
  format : OffsetDateTime → Option String
  /-- `value + Duration::seconds(seconds)`; `none` if it panics. -/
  add : OffsetDateTime → ℤ → Option OffsetDateTime

/-- An instant in milliseconds, as JavaScript writes it. -/
def millisText (t : ℤ) : List Char := dateTimeText 'T' t ++ '.' :: (digits 3 (nanosecond t / 1000000) ++ ['Z'])

/-- `time-offset` of RFC 3339: the letter Z, or a sign with hours and minutes about a colon. -/
def EndsInOffset (text : List Char) : Prop :=
  text.getLast? = some 'Z' ∨ text.getLast? = some 'z' ∨ ∃ front a b, text = front ++ [':', a, b]

structure TimeCrate.Documented (time : TimeCrate) : Prop where
  format_utc : ∀ t, 0 ≤ year t → year t ≤ 9999 → time.format ⟨t, 0⟩ = some (String.ofList (rfc3339 t))
  format_other : ∀ t, ¬(0 ≤ year t ∧ year t ≤ 9999) → time.format ⟨t, 0⟩ = none
  parse_millis : ∀ t, 0 ≤ year t → year t ≤ 9999 →
    time.parse (String.ofList (millisText t)) = some ⟨t / 1000000 * 1000000, 0⟩
  parse_offset : ∀ text value, time.parse text = some value → EndsInOffset text.toList
  add_instant : ∀ value seconds later, time.add value seconds = some later →
    later.instant = value.instant + seconds * 1000000000
  add_range : ∀ value seconds, (time.add value seconds).isSome = true ↔
    -9999 ≤ year (value.instant + seconds * 1000000000) ∧ year (value.instant + seconds * 1000000000) ≤ 9999

/-! ### Rows -/

/-- `str::trim_end_matches` -/
def trimEndMatches (c : Char) (text : List Char) : List Char := (text.reverse.dropWhile (· == c)).reverse

/-- `str::rsplit_once` -/
def rsplitOnce (c : Char) (text : List Char) : Option (List Char × List Char) :=
  match text.reverse.dropWhile (· != c) with
  | [] => none
  | _ :: front => some (front.reverse, (text.reverse.takeWhile (· != c)).reverse)

/-- `{:0<3}` -/
def padRight (width : ℕ) (text : List Char) : List Char := text ++ List.replicate (width - text.length) '0'

/-- `none` if the text of RFC 3339 cannot be written. -/
def formatJsonTimestamp (time : TimeCrate) (value : OffsetDateTime) : Option String :=
  (time.format value).map fun rendered =>
    if rendered.toList.getLast? = some 'Z' then
      let body := trimEndMatches 'Z' rendered.toList
      match rsplitOnce '.' body with
      | none => String.ofList (body ++ ".000Z".toList)
      | some (front, fraction) => String.ofList (front ++ '.' :: (padRight 3 (fraction.take 3) ++ ['Z']))
    else rendered

/-- `value::text` of a TIMESTAMPTZ in PostgreSQL, in the ISO style of dates and in UTC. -/
def timestamptzText (t : ℤ) : String :=
  let bc := year t ≤ 0
  String.ofList (dateText { date t with year := if bc then 1 - year t else year t } ++
    ' ' :: (clockText (secondOfDay t) ++ fractionText 6 (nanosecond t / 1000) ++ "+00".toList ++
      if bc then " BC".toList else []))

/-- `SELECT id,hirez_profile_refreshed_at FROM players WHERE id=$1` of a row with a time. -/
def profileRow (time : TimeCrate) (id t : ℤ) : Option Value :=
  (formatJsonTimestamp time ⟨t, 0⟩).bind fun text =>
    (Database.rowToJson [("id", .int8 (some id)), ("hirez_profile_refreshed_at", .timestamptz (some text))]).toOption

/-- A row of `player_champions`. -/
structure ChampionRow where
  playerId : ℤ
  championId : ℤ
  lastUpdated : ℤ
  statsPopulated : Bool

/-- `MAX(last_updated)` of the populated rows of a player. -/
def latest (table : List ChampionRow) (playerId : ℤ) : Option ℤ :=
  ((table.filter fun row => row.playerId == playerId && row.statsPopulated).map (·.lastUpdated)).max?

/-- `SELECT MAX(last_updated)::text AS hirez_profile_refreshed_at,COUNT(*)>0 AS stats_populated …` -/
def championRow (table : List ChampionRow) (playerId : ℤ) : Value :=
  ((Database.rowToJson [("hirez_profile_refreshed_at", .text ((latest table playerId).map timestamptzText)),
    ("stats_populated", .bool (some (table.any fun row => row.playerId == playerId && row.statsPopulated)))]).toOption).getD
    .null

/-! ### Freshness -/

structure ProfileFreshness where
  ttlSeconds : ℤ
  refreshedAt : Option String
  expiresAt : Option String
  remainingSeconds : ℤ
  expired : Bool
  deriving DecidableEq

/-- `Duration::whole_seconds` -/
def wholeSeconds (nanoseconds : ℤ) : ℤ := Int.tdiv nanoseconds 1000000000

def profileFreshness (time : TimeCrate) (now : OffsetDateTime) (player : Value) (ttlSeconds : ℤ) :
    Option ProfileFreshness :=
  match ((player.get "hirez_profile_refreshed_at").bind Value.asStr).bind time.parse with
  | none => some ⟨ttlSeconds, none, none, 0, true⟩
  | some refreshed =>
      (time.add refreshed ttlSeconds).map fun expires =>
        let remaining := max (wholeSeconds (expires.instant - now.instant)) 0
        ⟨ttlSeconds, time.format refreshed, time.format expires, remaining, remaining == 0⟩

def championFreshness (time : TimeCrate) (now : OffsetDateTime) (table : List ChampionRow) (playerId ttlSeconds : ℤ) :
    Option ProfileFreshness :=
  let row := championRow table playerId
  if !((row.get "stats_populated").bind Value.asBool).getD false then profileFreshness time now .null ttlSeconds
  else profileFreshness time now row ttlSeconds

/-- Whether `refresh_champion_rows` asks the relay for `getChampionRanks`. -/
def refreshChampionRows (time : TimeCrate) (now : OffsetDateTime) (table : List ChampionRow) (playerId ttlSeconds : ℤ) :
    Option Bool :=
  (championFreshness time now table playerId ttlSeconds).map (·.expired)

def championTtlSeconds : ℤ := 10 * 60
def profileTtlSeconds : ℤ := 24 * 60 * 60

/-- What `refresh_champions` comes to for a player that exists. -/
inductive Refresh where
  /-- 429 `CHAMPION_STATS_REFRESH_COOLDOWN` -/
  | cooldown
  /-- The guard turns the caller away. -/
  | guarded
  | answered (refreshed : Bool)
  deriving DecidableEq

/-- The freshness is computed again, a little later, in `refresh_champion_rows`. -/
def refreshChampions (time : TimeCrate) (now later : OffsetDateTime) (guardPasses : Bool) (table : List ChampionRow)
    (playerId : ℤ) : Option Refresh :=
  (championFreshness time now table playerId championTtlSeconds).bind fun before =>
    if !before.expired then some .cooldown
    else if !guardPasses then some .guarded
    else (refreshChampionRows time later table playerId championTtlSeconds).map .answered

/-! ### The text of a profile's time -/

theorem trimEndMatches_append {c : Char} {text : List Char} (other : c ∉ text) :
    trimEndMatches c (text ++ [c]) = text := by
  have kept : text.reverse.dropWhile (· == c) = text.reverse := by
    cases reversed : text.reverse with
    | nil => rfl
    | cons d rest =>
        have different : d ≠ c := by
          rintro rfl
          exact other (List.mem_reverse.mp (reversed ▸ List.mem_cons_self))
        rw [List.dropWhile_cons_of_neg (by simpa using different)]
  rw [trimEndMatches, List.reverse_append, List.reverse_singleton, List.singleton_append,
    List.dropWhile_cons_of_pos (by simp), kept, List.reverse_reverse]

theorem rsplitOnce_none {c : Char} {text : List Char} (absent : c ∉ text) : rsplitOnce c text = none := by
  have all : text.reverse.dropWhile (· != c) = [] := by
    rw [List.dropWhile_eq_nil_iff]
    intro d listed
    have different : d ≠ c := fun same => absent (same ▸ List.mem_reverse.mp listed)
    simpa using different
  rw [rsplitOnce, all]

theorem rsplitOnce_append {c : Char} {front back : List Char} (absent : c ∉ back) :
    rsplitOnce c (front ++ c :: back) = some (front, back) := by
  have passed : ∀ d ∈ back.reverse, (d != c) = true := fun d listed => by
    have different : d ≠ c := fun same => absent (same ▸ List.mem_reverse.mp listed)
    simpa using different
  have reversed : (front ++ c :: back).reverse = back.reverse ++ (c :: front.reverse) := by simp
  rw [rsplitOnce, reversed, List.dropWhile_append_of_pos passed, List.takeWhile_append_of_pos passed,
    List.dropWhile_cons_of_neg (by simp), List.takeWhile_cons_of_neg (by simp)]
  simp

/-- A fraction without its zeros has the same first digits, once it is padded again. -/
theorem padRight_dropZeros {width : ℕ} {text : List Char} (long : width ≤ text.length) :
    padRight width ((dropZeros text).take width) = text.take width := by
  obtain ⟨count, whole⟩ := dropZeros_append text
  have lengths := congrArg List.length whole
  rw [List.length_append, List.length_replicate] at lengths
  have enough : min (width - (dropZeros text).length) count = width - min width (dropZeros text).length := by omega
  conv_rhs => rw [whole]
  rw [padRight, List.take_append, List.length_take, List.take_replicate, enough]

theorem formatJsonTimestamp_utc {time : TimeCrate} (documented : time.Documented) {t : ℤ} (early : 0 ≤ year t)
    (late : year t ≤ 9999) : formatJsonTimestamp time ⟨t, 0⟩ = some (String.ofList (millisText t)) := by
  have noZ : 'Z' ∉ dateTimeText 'T' t ++ fractionText 9 (nanosecond t) := by
    rw [List.mem_append, not_or]
    exact ⟨not_mem_dateTimeText late (by decide), not_mem_fractionText (by decide)⟩
  have noDot : '.' ∉ dateTimeText 'T' t := not_mem_dateTimeText late (by decide)
  have last : (rfc3339 t).getLast? = some 'Z' := List.getLast?_concat
  rw [formatJsonTimestamp, documented.format_utc t early late, Option.map_some, String.toList_ofList, if_pos last,
    rfc3339, trimEndMatches_append noZ]
  by_cases zero : nanosecond t = 0
  · rw [fractionText, if_pos zero, List.append_nil]
    simp only [rsplitOnce_none noDot]
    rw [millisText, zero]
    rfl
  · -- the zeros that were dropped are filled in again, up to three digits
    have noSecondDot : '.' ∉ dropZeros (digits 9 (nanosecond t)) := fun listed =>
      absurd (digits_isDigit _ (mem_dropZeros listed)) (by decide)
    have first : (digits 9 (nanosecond t)).take 3 = digits 3 (nanosecond t / 1000000) := by
      rw [digits_add 3 6, List.take_left' (digits_length _ _)]
      rfl
    have long : 3 ≤ (digits 9 (nanosecond t)).length := by
      rw [digits_length]
      decide
    rw [fractionText, if_neg zero]
    simp only [rsplitOnce_append noSecondDot, padRight_dropZeros long, first]
    rfl

theorem formatJsonTimestamp_other {time : TimeCrate} (documented : time.Documented) {t : ℤ}
    (far : ¬(0 ≤ year t ∧ year t ≤ 9999)) : formatJsonTimestamp time ⟨t, 0⟩ = none := by
  rw [formatJsonTimestamp, documented.format_other t far]
  rfl

/-! ### The text of the champions' time -/

theorem not_endsInOffset {front text : List Char} {x y z : Char} (ends : text = front ++ [x, y, z]) (noColon : x ≠ ':')
    (noBig : z ≠ 'Z') (noSmall : z ≠ 'z') : ¬EndsInOffset text := by
  have last : text.getLast? = some z := by
    rw [ends, List.getLast?_append]
    rfl
  rintro (big | small | ⟨front', a, b, whole⟩)
  · exact noBig (Option.some.inj (last.symm.trans big))
  · exact noSmall (Option.some.inj (last.symm.trans small))
  · have tails := List.append_inj_right' (ends.symm.trans whole) rfl
    exact noColon (List.cons.inj tails).1

/-- PostgreSQL writes the hours of the offset alone. -/
theorem timestamptzText_offset (t : ℤ) : ¬EndsInOffset (timestamptzText t).toList := by
  obtain ⟨front, whole⟩ : ∃ front, (timestamptzText t).toList =
      front ++ ['+', '0', '0'] ++ if year t ≤ 0 then [' ', 'B', 'C'] else [] := by
    refine ⟨dateText { date t with year := if year t ≤ 0 then 1 - year t else year t } ++
      ' ' :: (clockText (secondOfDay t) ++ fractionText 6 (nanosecond t / 1000)), ?_⟩
    rw [timestamptzText, String.toList_ofList]
    simp only [List.append_assoc, List.cons_append]
    rfl
  -- neither the offset +00 nor the BC behind it has a colon, or a Z at its end
  by_cases bc : year t ≤ 0
  · rw [if_pos bc] at whole
    exact not_endsInOffset whole (by decide) (by decide) (by decide)
  · rw [if_neg bc, List.append_nil] at whole
    exact not_endsInOffset whole (by decide) (by decide) (by decide)

/-- The champions of a player are never fresh. -/
theorem championFreshness_eq {time : TimeCrate} (documented : time.Documented) (now : OffsetDateTime)
    (table : List ChampionRow) (playerId ttlSeconds : ℤ) :
    championFreshness time now table playerId ttlSeconds = some ⟨ttlSeconds, none, none, 0, true⟩ := by
  have unread (t : ℤ) : time.parse (timestamptzText t) = none := by
    cases read : time.parse (timestamptzText t) with
    | none => rfl
    | some value => exact absurd (documented.parse_offset _ _ read) (timestamptzText_offset t)
  have text : ((championRow table playerId).get "hirez_profile_refreshed_at").bind Value.asStr =
      (latest table playerId).map timestamptzText := by
    rw [championRow]
    cases latest table playerId with
    | none => rfl
    | some t => rfl
  have parsed : (((championRow table playerId).get "hirez_profile_refreshed_at").bind Value.asStr).bind time.parse =
      none := by
    rw [text]
    cases latest table playerId with
    | none => rfl
    | some t => exact unread t
  rw [championFreshness]
  split_ifs
  · rfl
  · rw [profileFreshness, parsed]

/-- The cooldown of the champion refresh is never in the way. -/
theorem refreshChampions_never_cooldown {time : TimeCrate} (documented : time.Documented) (now later : OffsetDateTime)
    (guardPasses : Bool) (table : List ChampionRow) (playerId : ℤ) :
    refreshChampions time now later guardPasses table playerId =
      some (if guardPasses then .answered true else .guarded) := by
  rw [refreshChampions, refreshChampionRows, championFreshness_eq documented, championFreshness_eq documented]
  cases guardPasses with
  | false => rfl
  | true => rfl

/-! ### Cooldowns -/

/-- A second, in nanoseconds. -/
def second : ℤ := 1000000000

/-- Expired exactly when less than one whole second is left of the time to live. -/
def Exact (freshness : Option ProfileFreshness) (t ttlSeconds now : ℤ) : Prop :=
  ∃ fresh, freshness = some fresh ∧ (fresh.expired = true ↔ t + ttlSeconds * second - now < second)

theorem wholeSeconds_zero {nanoseconds : ℤ} : max (wholeSeconds nanoseconds) 0 = 0 ↔ nanoseconds < second := by
  unfold wholeSeconds second
  by_cases past : 0 ≤ nanoseconds
  · rw [Int.tdiv_eq_ediv_of_nonneg past]
    omega
  · obtain ⟨ago, rfl⟩ : ∃ ago, nanoseconds = -ago := ⟨-nanoseconds, by omega⟩
    rw [Int.neg_tdiv, Int.tdiv_eq_ediv_of_nonneg (by omega)]
    omega

theorem championFreshness_exact {time : TimeCrate} (documented : time.Documented) {now : OffsetDateTime}
    {table : List ChampionRow} {playerId t ttlSeconds : ℤ} :
    Exact (championFreshness time now table playerId ttlSeconds) t ttlSeconds now.instant ↔
      t + ttlSeconds * second - now.instant < second := by
  rw [Exact, championFreshness_eq documented]
  constructor
  · rintro ⟨_, ⟨⟩, exact_⟩
    exact exact_.mp rfl
  · intro soon
    exact ⟨_, rfl, iff_of_true rfl soon⟩

/-- What is stored of the profile's time, in its text. -/
def millis (t : ℤ) : ℤ := t / 1000000 * 1000000

theorem profileFreshness_eq {time : TimeCrate} (documented : time.Documented) {now : OffsetDateTime}
    {id t ttlSeconds : ℤ} (early : 0 ≤ year t) (late : year t ≤ 9999) :
    (profileRow time id t).bind (fun row => profileFreshness time now row ttlSeconds) =
      (time.add ⟨millis t, 0⟩ ttlSeconds).map fun expires =>
        ⟨ttlSeconds, time.format ⟨millis t, 0⟩, time.format expires,
          max (wholeSeconds (expires.instant - now.instant)) 0,
          max (wholeSeconds (expires.instant - now.instant)) 0 == 0⟩ := by
  have row : profileRow time id t =
      some (.object [("id", .string (toString id)), ("hirez_profile_refreshed_at", .string (String.ofList (millisText t)))]) := by
    rw [profileRow, formatJsonTimestamp_utc documented early late]
    rfl
  have text : ((Value.object [("id", .string (toString id)),
      ("hirez_profile_refreshed_at", .string (String.ofList (millisText t)))]).get "hirez_profile_refreshed_at").bind
      Value.asStr = some (String.ofList (millisText t)) := rfl
  rw [row, Option.bind_some, profileFreshness, text, Option.bind_some, documented.parse_millis t early late]
  rfl

/-- The profile's time can be written and its end can be computed. -/
def Representable (t ttlSeconds : ℤ) : Prop :=
  0 ≤ year t ∧ year t ≤ 9999 ∧ -9999 ≤ year (millis t + ttlSeconds * second) ∧
    year (millis t + ttlSeconds * second) ≤ 9999

/-- The last second is not a second only because the text has milliseconds. -/
def LostFraction (t ttlSeconds now : ℤ) : Prop :=
  millis t + ttlSeconds * second - now < second ∧ second ≤ t + ttlSeconds * second - now

instance (t ttlSeconds : ℤ) : Decidable (Representable t ttlSeconds) := inferInstanceAs (Decidable (_ ∧ _ ∧ _ ∧ _))

instance (t ttlSeconds now : ℤ) : Decidable (LostFraction t ttlSeconds now) := inferInstanceAs (Decidable (_ ∧ _))

theorem profileFreshness_exact {time : TimeCrate} (documented : time.Documented) {now : OffsetDateTime}
    {id t ttlSeconds : ℤ} :
    Exact ((profileRow time id t).bind fun row => profileFreshness time now row ttlSeconds) t ttlSeconds now.instant ↔
      Representable t ttlSeconds ∧ ¬LostFraction t ttlSeconds now.instant := by
  by_cases written : 0 ≤ year t ∧ year t ≤ 9999
  · rw [profileFreshness_eq documented written.1 written.2]
    have range := documented.add_range ⟨millis t, 0⟩ ttlSeconds
    -- so what counts as expired by the exact time does so by the cut one
    have atMost : millis t ≤ t := by
      unfold millis
      omega
    cases sum : time.add ⟨millis t, 0⟩ ttlSeconds with
    | none =>
        rw [sum] at range
        refine iff_of_false ?_ fun represented => ?_
        · rintro ⟨_, ⟨⟩, -⟩
        · exact absurd (range.mpr represented.1.2.2) (by decide)
    | some expires =>
        rw [sum] at range
        have ends : expires.instant = millis t + ttlSeconds * second := documented.add_instant _ _ _ sum
        have represented : Representable t ttlSeconds := ⟨written.1, written.2, range.mp rfl⟩
        have expired : Exact (some ⟨ttlSeconds, time.format ⟨millis t, 0⟩, time.format expires,
            max (wholeSeconds (expires.instant - now.instant)) 0,
            max (wholeSeconds (expires.instant - now.instant)) 0 == 0⟩) t ttlSeconds now.instant ↔
            (millis t + ttlSeconds * second - now.instant < second ↔
              t + ttlSeconds * second - now.instant < second) := by
          rw [Exact, ← ends]
          have read := beq_iff_eq.trans (@wholeSeconds_zero (expires.instant - now.instant))
          constructor
          · rintro ⟨_, ⟨⟩, exact_⟩
            exact read.symm.trans exact_
          · intro same
            exact ⟨_, rfl, read.trans same⟩
        rw [Option.map_some, expired, LostFraction]
        constructor
        · intro same
          exact ⟨represented, fun lost => absurd (same.mp lost.1) (Int.not_lt.mpr lost.2)⟩
        · rintro ⟨-, kept⟩
          refine ⟨fun cut => ?_, fun soon => by omega⟩
          by_contra late
          exact kept ⟨cut, Int.not_lt.mp late⟩
  · -- without a text there is no row, and nothing that is fresh or expired
    have unwritten : profileRow time id t = none := by
      rw [profileRow, formatJsonTimestamp_other documented written]
      rfl
    rw [unwritten]
    refine iff_of_false ?_ fun represented => written ⟨represented.1.1, represented.1.2.1⟩
    rintro ⟨_, ⟨⟩, -⟩

/-- The freshness of a profile is exact but for the fraction of a millisecond that its text loses,
and the freshness of the champions only where they are expired: they are always fetched. -/
theorem cooldowns_survive_iff {time : TimeCrate} (documented : time.Documented) (now : OffsetDateTime) (t ttlSeconds : ℤ) :
    (∀ id, Exact ((profileRow time id t).bind fun row => profileFreshness time now row ttlSeconds) t ttlSeconds
        now.instant ↔
      Representable t ttlSeconds ∧ ¬LostFraction t ttlSeconds now.instant) ∧
    ∀ (table : List ChampionRow) (playerId : ℤ), latest table playerId = some t →
      (Exact (championFreshness time now table playerId ttlSeconds) t ttlSeconds now.instant ↔
        t + ttlSeconds * second - now.instant < second) ∧
      ((second ≤ t + ttlSeconds * second - now.instant →
          refreshChampionRows time now table playerId ttlSeconds = some false) ↔
        t + ttlSeconds * second - now.instant < second) := by
  refine ⟨fun _ => profileFreshness_exact documented, fun table playerId _ => ⟨championFreshness_exact documented, ?_⟩⟩
  rw [refreshChampionRows, championFreshness_eq documented]
  constructor
  · intro kept
    by_contra fresh
    cases kept (Int.not_lt.mp fresh)
  · intro soon fresh
    omega

/-! ### A time crate -/

/-- The two texts that the rows come with, on the calendar. -/
def plainCrate : TimeCrate where
  parse text :=
    match readDateTime text.toList with
    | some (t, ['.', a, b, c, 'Z']) => some ⟨t + value [a, b, c] * 1000000, 0⟩
    | _ => none
  format value :=
    if value.offset = 0 ∧ 0 ≤ year value.instant ∧ year value.instant ≤ 9999 then
      some (String.ofList (rfc3339 value.instant))
    else none
  add value seconds :=
    let later := value.instant + seconds * 1000000000
    if -9999 ≤ year later ∧ year later ≤ 9999 then some ⟨later, value.offset⟩ else none

theorem plainCrate_documented : plainCrate.Documented where
  format_utc t early late := if_pos ⟨rfl, early, late⟩
  format_other t far := if_neg fun inside => far inside.2
  parse_millis t early late := by
    have read : readDateTime (dateTimeText 'T' t ++ '.' :: (digits 3 (nanosecond t / 1000000) ++ ['Z'])) =
        some (secondOf t * 1000000000, '.' :: (digits 3 (nanosecond t / 1000000) ++ ['Z'])) := readDateTime_text early late
    have number : value (digits 3 (nanosecond t / 1000000)) = nanosecond t / 1000000 := value_digits (by
      unfold nanosecond
      omega)
    have whole : secondOf t * 1000000000 + (nanosecond t / 1000000 : ℕ) * 1000000 = t / 1000000 * 1000000 := by
      unfold secondOf nanosecond
      omega
    have parsed : plainCrate.parse (String.ofList (millisText t)) =
        some ⟨secondOf t * 1000000000 + value (digits 3 (nanosecond t / 1000000)) * 1000000, 0⟩ := by
      rw [plainCrate]
      dsimp only
      rw [String.toList_ofList, millisText, read]
      rfl
    rw [parsed, number, whole]
  parse_offset text value parsed := by
    rw [plainCrate] at parsed
    dsimp only at parsed
    split at parsed
    · rename_i read
      have ends := readDateTime_rest read
      left
      rw [← List.take_append_drop 19 text.toList, ← ends, List.getLast?_append]
      rfl
    · cases parsed
  add_instant value seconds later sum := by
    rw [plainCrate] at sum
    dsimp only at sum
    split_ifs at sum
    rw [← Option.some.inj sum]
  add_range value seconds := by
    rw [plainCrate]
    dsimp only
    split_ifs with inside
    · exact iff_of_true rfl inside
    · exact iff_of_false Bool.false_ne_true inside

/-- A profile of a minute ago is fresh, and champions of eleven minutes ago are not. -/
theorem new_years_refresh_is_exact :
    Exact ((profileRow plainCrate 7 1767225600000000000).bind fun row =>
        profileFreshness plainCrate ⟨1767225660000000000, 0⟩ row profileTtlSeconds)
      1767225600000000000 profileTtlSeconds 1767225660000000000 ∧
    Exact (championFreshness plainCrate ⟨1767226260000000000, 0⟩ [⟨7, 2056, 1767225600000000000, true⟩] 7
        championTtlSeconds)
      1767225600000000000 championTtlSeconds 1767226260000000000 :=
  ⟨((cooldowns_survive_iff plainCrate_documented ⟨1767225660000000000, 0⟩ _ profileTtlSeconds).1 7).mpr (by decide +kernel),
    ((cooldowns_survive_iff plainCrate_documented ⟨1767226260000000000, 0⟩ _ championTtlSeconds).2 _ 7 rfl).1.mpr
      (by decide)⟩

/-- Champions of a minute ago are expired and fetched again. -/
theorem new_years_champions_fetched_again :
    latest [⟨7, 2056, 1767225600000000000, true⟩] 7 = some 1767225600000000000 ∧
    ¬Exact (championFreshness plainCrate ⟨1767225660000000000, 0⟩ [⟨7, 2056, 1767225600000000000, true⟩] 7
        championTtlSeconds)
      1767225600000000000 championTtlSeconds 1767225660000000000 ∧
    refreshChampionRows plainCrate ⟨1767225660000000000, 0⟩ [⟨7, 2056, 1767225600000000000, true⟩] 7
      championTtlSeconds = some true := by
  refine ⟨rfl, fun exact_ => ?_, ?_⟩
  · exact absurd ((championFreshness_exact plainCrate_documented).mp exact_) (by decide)
  · rw [refreshChampionRows, championFreshness_eq plainCrate_documented]
    rfl

end PaladinsCat.RefreshCooldowns
