import PaladinsCat.HourlyCounts
import PaladinsCat.PlayerLevels
import PaladinsCat.ProfileEnrichment
import PaladinsCat.ProfileRefresh

/-!
The three writers of a player's profile: the worker (`persist_player_profile_in_transaction`), the
player routes (`upsert_profile`) and the search route (`upsert_remote_profiles`), as far as the
level, the region and the merged players go. Each has its own formula for the level and its own
table of regions; migration 057 and the relay have theirs. Square roots are exact. Whether the
driver takes a boolean for `privacy_flag`, a VARCHAR(1), is given, and so are the JSON texts of
values that are not strings.
-/

namespace PaladinsCat.ProfileWriters

open Hirez (Value)
open Resolver (toI32 i32Min i32Max)
open PlayerLevels (climb levels calculatePlayerLevel threshold Reached)

/-! ### Levels -/

/-- `((1.0 + 4.0 * total_xp / 10_000.0).sqrt() + 1.0) / 2.0`, rounded down. -/
def rootLevel (totalXp : ℕ) : ℕ := (Nat.sqrt ((totalXp + 2500) / 2500) + 1) / 2

/-- The body that the worker and the player routes have word for word. -/
def calculatedLevel (totalXp apiLevel : ℤ) : ℤ :=
  if totalXp ≤ 0 then max apiLevel 0 else max (rootLevel totalXp.toNat) apiLevel

/-- The loop of the search route is the relay's. -/
def resolvePlayerLevel (totalXp apiLevel : ℤ) : ℤ :=
  if 25480000 ≤ totalXp then (totalXp - 25480000) / 1000000 + 50
  else if 0 ≤ totalXp then climb totalXp 0 levels
  else max apiLevel 0

/-- `i32::try_from(level).unwrap_or_default()` -/
def storedLevel (level : ℤ) : ℤ := (toI32 level).getD 0

/-- Migration 057; `none` where it leaves a row alone or overflows. -/
def migratedLevel (totalXp : ℤ) : Option ℤ :=
  if totalXp < 0 then none
  else if totalXp < 25480000 then
    some ((((List.range' 2 49).map Int.ofNat).filter fun level =>
      decide ((level * (level + 1) / 2 - 1) * 20000 ≤ totalXp)).max?.getD 1)
  else (toI32 ((totalXp - 25480000) / 1000000)).bind fun quotient => toI32 (quotient + 50)

/-! ### Regions -/

namespace Worker
def normalizedRegion (value : Option String) : String := Backend.canonicalRegion (value.getD "")
end Worker

namespace Players
def normalizeRegion (value : String) : String :=
  let name := Text.toAsciiLowercase (Text.trim value)
  if name = "north america" ∨ name = "na" then "NA"
  else if name = "europe" ∨ name = "eu" then "EU"
  else if name = "brazil" ∨ name = "br" then "BR"
  else if name = "south america" ∨ name = "sa" then "SA"
  else if name = "latin america north" ∨ name = "latam north" ∨ name = "latin america south" ∨ name = "latam south" then
    "Unknown"
  else if name = "southeast asia" ∨ name = "sea" then "SEA"
  else if name = "australia" ∨ name = "oceania" ∨ name = "oce" then "OCE"
  else if name = "japan" ∨ name = "jpn" then "JPN"
  else if name = "russia" ∨ name = "rus" then "RUS"
  else if name = "unknown" then "Unknown"
  else if Text.trim value = "" then "Unknown"
  else Text.trim value
end Players

namespace Search
def normalizeRegion (value : String) : String :=
  if value = "North America" then "NA"
  else if value = "Europe" then "EU"
  else if value = "Brazil" then "BR"
  else if value = "Australia" then "OCE"
  else if value = "Southeast Asia" then "SEA"
  else if value = "Japan" then "JPN"
  else if value = "Russia" then "RUS"
  else if ["NA", "EU", "BR", "OCE", "SEA", "JPN", "RUS", "SA"].contains value then value
  else "Unknown"
end Search

/-! ### Writers -/

/-- What is compared of a row of `players`: the merged players are those of the array. -/
structure PlayerRow where
  level : ℤ
  region : String
  mergedPlayers : Finset ℤ
  deriving DecidableEq

/-- `players` and `player_profile_merged_players`. -/
structure Store where
  players : ℤ → Option PlayerRow
  mergedPlayers : ℤ → Finset ℤ

/-- The row is inserted or updated, and the merged players are replaced. -/
def Store.write (store : Store) (playerId : ℤ) (row : PlayerRow) (merged : Finset ℤ) : Store where
  players := Function.update store.players playerId (some row)
  mergedPlayers := Function.update store.mergedPlayers playerId merged

/-- `CASE WHEN … THEN EXCLUDED.region ELSE players.region END`; a new row has the region as it is. -/
def keptRegion (known : Bool) (region : String) (stored : Option PlayerRow) : String :=
  if known then region else (stored.map (·.region)).getD region

/-- `NULLIF(BTRIM(region),'') IS NOT NULL AND UPPER(region)<>'UNKNOWN'` -/
def isKnown (region : String) : Bool :=
  !region.toList.all (· == ' ') && !Text.eqIgnoreAsciiCase region "unknown"

/-- What the worker and the player routes read of a profile. -/
structure Reading where
  playerId : ℤ
  apiLevel : ℤ
  totalXp : ℤ
  region : String
  merged : Finset ℤ

/-- The positive ids of the rows of `MergedPlayers`. -/
def mergedIds (read : Value → ℤ) (raw : Value) : Finset ℤ :=
  match raw.get "MergedPlayers" with
  | some (.array rows) => ((rows.map read).filter (0 < ·)).toFinset
  | _ => ∅

/-- The statements that the worker and the player routes share. -/
def persist (store : Store) (reading : Reading) : Option (ℤ × Store) :=
  if reading.playerId ≤ 0 then none
  else
    some (reading.playerId, store.write reading.playerId
      { level := storedLevel (calculatedLevel reading.totalXp reading.apiLevel)
        region := keptRegion (isKnown reading.region) reading.region (store.players reading.playerId)
        mergedPlayers := reading.merged } reading.merged)

def workerI64 (raw : Value) (keys : List String) : ℤ := (Enrichment.valueI64 raw keys).getD 0

def Worker.read (raw : Value) : Reading where
  playerId := workerI64 raw ["Id", "ActivePlayerId"]
  apiLevel := workerI64 raw ["Level", "level"]
  totalXp := workerI64 raw ["Total_XP", "total_xp"]
  region := Worker.normalizedRegion (Enrichment.valueText raw ["Region"])
  merged := mergedIds (fun row => workerI64 row ["playerId", "player_id"]) raw

/-- The texts of the player routes are read as the worker's are; a number may have blanks about it. -/
def Players.read (raw : Value) : Reading where
  playerId := ProfileRefresh.valueI64 raw ["Id", "ActivePlayerId"]
  apiLevel := ProfileRefresh.valueI64 raw ["Level", "level"]
  totalXp := ProfileRefresh.valueI64 raw ["Total_XP", "total_xp"]
  region := Players.normalizeRegion ((Enrichment.valueText raw ["Region"]).getD "")
  merged := mergedIds (fun row => ProfileRefresh.valueI64 row ["playerId", "player_id"]) raw

def persistPlayerProfile (store : Store) (raw : Value) : Option (ℤ × Store) := persist store (Worker.read raw)

def upsertProfile (store : Store) (raw : Value) : Option (ℤ × Store) := persist store (Players.read raw)

section
variable (takes : Bool) (jsonText : Value → String)

/-- `field_text`: a string as it is, and the JSON text of anything else. -/
def fieldText (row : Value) (field : String) : String :=
  match row.get field with
  | none | some .null => ""
  | some (.string text) => text
  | some value => jsonText value

/-- One row of `upsert_remote_profiles`; `none` if the driver refuses the boolean. -/
def remoteProfile (store : Store) (row : Value) (playerId : ℤ) : Option Store :=
  let region := Search.normalizeRegion (fieldText jsonText row "Region")
  if takes then
    some (store.write playerId
      { level := storedLevel (resolvePlayerLevel (workerI64 row ["Total_XP", "total_xp"]) (workerI64 row ["Level", "level"]))
        region := keptRegion (region != "Unknown") region (store.players playerId)
        mergedPlayers := ((store.players playerId).map (·.mergedPlayers)).getD ∅ } ∅)
  else none

/-- `first_i64` of the search route reads as the worker does. -/
def upsertRemoteProfiles (store : Store) (raw : Value) : Option (List ℤ × Store) :=
  ((ProfileRefresh.valueRows raw).foldlM (fun (written : List ℤ × Store) row =>
    match (Enrichment.valueI64 row ["Id", "ActivePlayerId"]).filter (0 < ·) with
    | none => some written
    | some playerId =>
        (remoteProfile takes jsonText written.2 row playerId).map fun store => (written.1 ++ [playerId], store))
    ([], store)).map fun (written : List ℤ × Store) => ((written.1.insertionSort (· ≤ ·)).dedup, written.2)

end

/-! ### The levels of an amount of experience -/

/-- The experience at which a level starts, for the relay, the migration and the search route. -/
def levelStart (level : ℕ) : ℤ :=
  if level ≤ 50 then 10000 * (level * (level + 1)) - 20000 else 25480000 + (level - 50) * 1000000

/-- The experience is between the start of a level and the start of the next. -/
def Band (level : ℕ) (totalXp : ℤ) : Prop := levelStart level ≤ totalXp ∧ totalXp < levelStart (level + 1)

section
variable {level x : ℕ} {totalXp apiLevel : ℤ}

theorem le_rootLevel (one : 1 ≤ level) : level ≤ rootLevel x ↔ 10000 * (level * (level - 1)) ≤ x := by
  obtain ⟨below, rfl⟩ : ∃ below, level = below + 1 := ⟨level - 1, by omega⟩
  -- one is added to the root before it is halved
  have root : below + 1 ≤ rootLevel x ↔ 2 * below + 1 ≤ Nat.sqrt ((x + 2500) / 2500) := by
    unfold rootLevel
    omega
  rw [root, Nat.le_sqrt, Nat.le_div_iff_mul_le (by decide), Nat.add_sub_cancel]
  have square : (2 * below + 1) * (2 * below + 1) * 2500 = 10000 * ((below + 1) * below) + 2500 := by ring
  rw [square]
  omega

/-- The level of the roots of natural numbers is the one of the source's real roots. -/
theorem rootLevel_floor (x : ℕ) : rootLevel x = ⌊(√(1 + 4 * x / 10000) + 1) / 2⌋₊ := by
  refine eq_of_forall_le_iff fun level => ?_
  rw [Nat.le_floor_iff (by positivity), le_div_iff₀ (by norm_num)]
  rcases Nat.eq_zero_or_pos level with rfl | one
  · rw [Nat.cast_zero, zero_mul]
    exact iff_of_true (Nat.zero_le _) (by positivity)
  · obtain ⟨below, rfl⟩ : ∃ below, level = below + 1 := ⟨level - 1, by omega⟩
    have root : ((below + 1 : ℕ) : ℝ) * 2 ≤ √(1 + 4 * x / 10000) + 1 ↔ (2 * below + 1 : ℝ) ≤ √(1 + 4 * x / 10000) := by
      push_cast
      constructor <;> intro <;> linarith
    rw [le_rootLevel one, root, Real.le_sqrt' (by positivity), Nat.add_sub_cancel, ← Nat.cast_le (α := ℝ)]
    push_cast
    constructor <;> intro <;> linarith

theorem levelStart_mono : Monotone levelStart := by
  refine monotone_nat_of_le_succ fun level => ?_
  unfold levelStart
  split_ifs with low next next
  · push_cast
    nlinarith
  · -- the costs and the quotient meet at level 50
    obtain rfl : level = 50 := by omega
    norm_num
  · omega
  · push_cast
    omega

theorem band_unique {level other : ℕ} (here : Band level totalXp) (there : Band other totalXp) : level = other := by
  rcases Nat.lt_trichotomy level other with less | same | more
  · have := levelStart_mono (Nat.succ_le_of_lt less)
    exact absurd (lt_of_lt_of_le here.2 (this.trans there.1)) (lt_irrefl _)
  · exact same
  · have := levelStart_mono (Nat.succ_le_of_lt more)
    exact absurd (lt_of_lt_of_le there.2 (this.trans here.1)) (lt_irrefl _)

/-- Up to level 50 the levels start at the sums of their costs. -/
theorem levelStart_threshold (one : 1 ≤ level) (fifty : level ≤ 50) : levelStart level = threshold level := by
  have closed := PlayerLevels.threshold_closed one
  rw [levelStart, if_pos fifty]
  have cast : ((threshold level + 20000 : ℕ) : ℤ) = (10000 * (level * (level + 1)) : ℕ) := congrArg Nat.cast closed
  push_cast at cast
  omega

theorem band_of_greatest (low : x < 25480000) (greatest : IsGreatest (Reached x) level) : Band level x := by
  obtain ⟨⟨one, fifty, reached⟩, most⟩ := greatest
  have below : level < 50 := by
    by_contra top
    obtain rfl : level = 50 := by omega
    rw [PlayerLevels.threshold_fifty] at reached
    omega
  have next : x < threshold (level + 1) := by
    by_contra more
    have higher : level + 1 ≤ level := most ⟨by omega, by omega, not_lt.mp more⟩
    omega
  rw [Band, levelStart_threshold one fifty, levelStart_threshold (by omega) (by omega)]
  exact ⟨by exact_mod_cast reached, by exact_mod_cast next⟩

theorem levelStart_high (high : 50 ≤ level) : levelStart level = 25480000 + (level - 50) * 1000000 := by
  unfold levelStart
  split_ifs with fifty
  · obtain rfl : level = 50 := by omega
    norm_num
  · rfl

theorem climb_band (low : x < 25480000) :
    ∃ level : ℕ, 1 ≤ level ∧ level ≤ 50 ∧ climb x 0 levels = level ∧ Band level x ∧ IsGreatest (Reached x) level := by
  obtain ⟨level, climbed, greatest⟩ := @PlayerLevels.climb_greatest x 1 49 le_rfl rfl (Nat.zero_le x)
  exact ⟨level, greatest.1.1, greatest.1.2.1, climbed, band_of_greatest low greatest, greatest⟩

theorem resolvePlayerLevel_band (known : 0 ≤ totalXp) :
    ∃ level : ℕ, 1 ≤ level ∧ resolvePlayerLevel totalXp apiLevel = level ∧ Band level totalXp := by
  obtain ⟨x, rfl⟩ := Int.eq_ofNat_of_zero_le known
  by_cases high : 25480000 ≤ (x : ℤ)
  · refine ⟨(x - 25480000) / 1000000 + 50, by omega, ?_, ?_⟩
    · rw [resolvePlayerLevel, if_pos high]
      omega
    · rw [Band, levelStart_high (by omega), levelStart_high (by omega)]
      push_cast
      omega
  · obtain ⟨level, one, -, climbed, band, -⟩ := @climb_band x (by omega)
    refine ⟨level, one, ?_, band⟩
    rw [resolvePlayerLevel, if_neg high, if_pos known]
    exact climbed

theorem resolvePlayerLevel_iff (known : 0 ≤ totalXp) :
    resolvePlayerLevel totalXp apiLevel = level ↔ Band level totalXp := by
  obtain ⟨found, -, resolved, band⟩ := @resolvePlayerLevel_band totalXp apiLevel known
  rw [resolved, Int.natCast_inj]
  constructor
  · rintro rfl
    exact band
  · intro other
    exact band_unique band other

/-- The sums of the migration are those of the loop. -/
theorem migration_cost {level : ℕ} (one : 1 ≤ level) :
    ((level : ℤ) * (level + 1) / 2 - 1) * 20000 = threshold level := by
  have closed := PlayerLevels.threshold_closed one
  have cast : ((threshold level + 20000 : ℕ) : ℤ) = (10000 * (level * (level + 1)) : ℕ) := congrArg Nat.cast closed
  push_cast at cast
  obtain ⟨half, twice⟩ := Int.even_mul_succ_self (level : ℤ)
  rw [twice] at cast ⊢
  omega

/-- The levels from 2 on whose cost is met have the greatest level as their maximum, unless there are none. -/
theorem max_of_reached {levels : List ℤ}
    (listed : ∀ other, other ∈ levels ↔ ∃ n : ℕ, 2 ≤ n ∧ n ≤ 50 ∧ other = n ∧ threshold n ≤ x)
    (greatest : IsGreatest (Reached x) level) : levels.max?.getD 1 = level := by
  obtain ⟨⟨one, fifty, reached⟩, most⟩ := greatest
  have largest : ∀ other ∈ levels, other ≤ level := by
    intro other inside
    obtain ⟨n, two, atMost, rfl, cost⟩ := (listed other).mp inside
    exact_mod_cast most ⟨by omega, atMost, cost⟩
  by_cases first : level = 1
  · -- a listed level would be 2 at least
    have none_ : levels = [] := by
      refine List.eq_nil_iff_forall_not_mem.mpr fun other inside => ?_
      have atMost := largest other inside
      obtain ⟨n, two, -, rfl, -⟩ := (listed other).mp inside
      omega
    rw [none_, first]
    rfl
  · have top := (listed level).mpr ⟨level, by omega, fifty, rfl, reached⟩
    rw [List.max?_eq_some_iff.mpr ⟨top, largest⟩, Option.getD_some]

theorem migratedLevel_low (low : x < 25480000) (greatest : IsGreatest (Reached x) level) :
    migratedLevel x = some (level : ℤ) := by
  rw [migratedLevel, if_neg (by omega), if_pos (by omega)]
  refine congrArg some (max_of_reached (fun other => ?_) greatest)
  rw [List.mem_filter, List.mem_map, decide_eq_true_eq]
  constructor
  · rintro ⟨⟨n, inRange, rfl⟩, cost⟩
    obtain ⟨two, most⟩ := List.mem_range'_1.mp inRange
    have sum : ((n : ℤ) * (n + 1) / 2 - 1) * 20000 = threshold n := migration_cost (by omega)
    have cost : ((n : ℤ) * (n + 1) / 2 - 1) * 20000 ≤ (x : ℤ) := cost
    rw [sum] at cost
    exact ⟨n, two, by omega, rfl, by exact_mod_cast cost⟩
  · rintro ⟨n, two, most, rfl, cost⟩
    refine ⟨⟨n, List.mem_range'_1.mpr ⟨two, by omega⟩, rfl⟩, ?_⟩
    rw [migration_cost (by omega)]
    exact_mod_cast cost

theorem migratedLevel_iff (known : 0 ≤ totalXp) :
    migratedLevel totalXp = some (level : ℤ) ↔ Band level totalXp ∧ (level : ℤ) ≤ i32Max := by
  obtain ⟨x, rfl⟩ := Int.eq_ofNat_of_zero_le known
  by_cases high : 25480000 ≤ (x : ℤ)
  · have quotient : migratedLevel x = some (level : ℤ) ↔
        ((x : ℤ) - 25480000) / 1000000 + 50 = level ∧ (level : ℤ) ≤ i32Max := by
      rw [migratedLevel, if_neg (by omega), if_neg (by omega)]
      unfold toI32 i32Min i32Max
      split_ifs with fits
      · rw [Option.bind_some]
        split_ifs with more
        · rw [Option.some_inj]
          omega
        · exact iff_of_false (by simp) (by omega)
      · exact iff_of_false (by simp) (by omega)
    rw [quotient, ← @resolvePlayerLevel_iff level x 0 known]
    rw [resolvePlayerLevel]
    simp only [if_pos high]
  · obtain ⟨found, one, fifty, -, band, greatest⟩ := @climb_band x (by omega)
    have fits : (found : ℤ) ≤ i32Max := le_trans (by exact_mod_cast fifty) (by decide : (50 : ℤ) ≤ i32Max)
    have migrated : migratedLevel x = some (found : ℤ) := migratedLevel_low (by omega) greatest
    constructor
    · intro same
      obtain rfl : found = level := by
        rw [← Int.natCast_inj]
        exact Option.some.inj (migrated.symm.trans same)
      exact ⟨band, fits⟩
    · rintro ⟨other, -⟩
      exact band_unique band other ▸ migrated

theorem calculatePlayerLevel_band (band : Band level x) (fits : (level : ℤ) ≤ i32Max) :
    calculatePlayerLevel (.ofRat x) = some (level : ℤ) := by
  have resolved : resolvePlayerLevel x 0 = level := (resolvePlayerLevel_iff (Int.natCast_nonneg x)).mpr band
  have last : level + 1 ≤ 2147483648 := by
    unfold i32Max at fits
    omega
  have exact_ : x < 2 ^ 53 := by
    have next := band.2.trans_le (levelStart_mono last)
    rw [levelStart_high (by decide)] at next
    omega
  rw [PlayerLevels.calculatePlayerLevel_natural exact_]
  by_cases high : 25480000 ≤ x
  · rw [resolvePlayerLevel, if_pos (by exact_mod_cast high)] at resolved
    have same : (x - 25480000) / 1000000 + 50 = level := by omega
    rw [if_pos high, same, PlayerLevels.toI32_natural, if_pos fits]
  · rw [resolvePlayerLevel, if_neg (by exact_mod_cast high), if_pos (Int.natCast_nonneg x)] at resolved
    rw [if_neg high, resolved]

/-- The worker's level is one that the others have where the root is no higher than it, and one of the
root and the provider's level reaches it. -/
theorem calculatedLevel_iff (one : 1 ≤ level) (known : 0 ≤ totalXp) :
    calculatedLevel totalXp apiLevel = level ↔
      totalXp < 10000 * (level * (level + 1)) ∧ apiLevel ≤ level ∧
        (apiLevel = level ∨ (0 < totalXp ∧ 10000 * (level * (level - 1)) ≤ totalXp)) := by
  obtain ⟨x, rfl⟩ := Int.eq_ofNat_of_zero_le known
  obtain ⟨below, rfl⟩ : ∃ below, level = below + 1 := ⟨level - 1, by omega⟩
  have here := @le_rootLevel (below + 1) x (by omega)
  have above := @le_rootLevel (below + 2) x (by omega)
  rw [Nat.add_sub_cancel] at here
  have positive : 0 < (below + 1) * (below + 2) := by positivity
  have upper : ((below + 1 : ℕ) : ℤ) * ((below + 1 : ℕ) + 1) = ((below + 1) * (below + 2) : ℕ) := by
    push_cast
    ring
  have lower : ((below + 1 : ℕ) : ℤ) * ((below + 1 : ℕ) - 1) = ((below + 1) * below : ℕ) := by
    push_cast
    ring
  have turned : (below + 2) * (below + 2 - 1) = (below + 1) * (below + 2) := by
    rw [Nat.mul_comm]
    rfl
  rw [upper, lower, calculatedLevel]
  rw [turned] at above
  generalize (below + 1) * (below + 2) = up at *
  generalize (below + 1) * below = down at *
  split_ifs with zero
  · omega
  · rw [Int.toNat_natCast]
    omega

theorem storedLevel_iff {value : ℤ} (one : 1 ≤ level) :
    storedLevel value = level ↔ value = level ∧ (level : ℤ) ≤ i32Max := by
  rw [storedLevel, toI32]
  split_ifs with fits
  · rw [Option.getD_some]
    omega
  · rw [Option.getD_none]
    unfold i32Min at fits
    omega

theorem migratedLevel_band {found : ℤ} (migrated : migratedLevel totalXp = some found) :
    ∃ level : ℕ, found = level ∧ 1 ≤ level ∧ (level : ℤ) ≤ i32Max ∧ 0 ≤ totalXp ∧ Band level totalXp := by
  have known : 0 ≤ totalXp := by
    by_contra negative
    rw [migratedLevel, if_pos (not_le.mp negative)] at migrated
    cases migrated
  obtain ⟨x, rfl⟩ := Int.eq_ofNat_of_zero_le known
  obtain ⟨level, one, here⟩ : ∃ level : ℕ, 1 ≤ level ∧ found = level := by
    by_cases high : 25480000 ≤ (x : ℤ)
    · rw [migratedLevel, if_neg (by omega), if_neg (by omega)] at migrated
      obtain ⟨quotient, converted, sum⟩ := Option.bind_eq_some_iff.mp migrated
      unfold toI32 at converted sum
      split_ifs at converted sum
      have whole := Option.some.inj converted
      have total := Option.some.inj sum
      exact ⟨found.toNat, by omega, by omega⟩
    · obtain ⟨level, one, -, -, -, greatest⟩ := @climb_band x (by omega)
      exact ⟨level, one, Option.some.inj (migrated.symm.trans (migratedLevel_low (by omega) greatest))⟩
  obtain ⟨band, fits⟩ := (migratedLevel_iff known).mp (here ▸ migrated)
  exact ⟨level, here, one, fits, known, band⟩

/-- An amount of experience, with the provider's level, for which all formulas give one level. -/
structure LevelFits (level : ℕ) (totalXp apiLevel : ℤ) : Prop where
  one : 1 ≤ level
  fits : (level : ℤ) ≤ i32Max
  known : 0 ≤ totalXp
  band : Band level totalXp
  root : totalXp < 10000 * (level * (level + 1))
  provider : apiLevel ≤ level
  reached : apiLevel = level ∨ (0 < totalXp ∧ 10000 * (level * (level - 1)) ≤ totalXp)

theorem levels_agree_iff {stored : ℤ} :
    (storedLevel (calculatedLevel totalXp apiLevel) = stored ∧ calculatePlayerLevel (.ofRat totalXp) = some stored ∧
      migratedLevel totalXp = some stored) ↔ ∃ level : ℕ, stored = level ∧ LevelFits level totalXp apiLevel := by
  constructor
  · rintro ⟨same, -, migrated⟩
    obtain ⟨level, rfl, one, fits, known, band⟩ := migratedLevel_band migrated
    obtain ⟨root, provider, reached⟩ := (calculatedLevel_iff one known).mp ((storedLevel_iff one).mp same).1
    exact ⟨level, rfl, one, fits, known, band, root, provider, reached⟩
  · rintro ⟨level, rfl, found⟩
    obtain ⟨x, rfl⟩ := Int.eq_ofNat_of_zero_le found.known
    have calculated := (calculatedLevel_iff found.one found.known).mpr ⟨found.root, found.provider, found.reached⟩
    refine ⟨(storedLevel_iff found.one).mpr ⟨calculated, found.fits⟩, ?_,
      (migratedLevel_iff found.known).mpr ⟨found.band, found.fits⟩⟩
    have relay := calculatePlayerLevel_band found.band found.fits
    rwa [← Int.cast_natCast (R := ℚ) x] at relay

theorem LevelFits.resolved (found : LevelFits level totalXp apiLevel) (provider : ℤ) :
    storedLevel (resolvePlayerLevel totalXp provider) = level :=
  (storedLevel_iff found.one).mpr ⟨(resolvePlayerLevel_iff found.known).mpr found.band, found.fits⟩

end

/-! ### The regions of a name -/

/-- The short codes, with the names in lower case that stand for them. -/
def regionCodes : List (String × List String) :=
  [("NA", ["north america", "na"]), ("EU", ["europe", "eu"]), ("BR", ["brazil", "br"]), ("SA", ["south america", "sa"]),
    ("SEA", ["southeast asia", "sea"]), ("OCE", ["australia", "oceania", "oce"]), ("JPN", ["japan", "jpn"]),
    ("RUS", ["russia", "rus"])]

/-- The names that stand for no region. -/
def unknownNames : List String :=
  ["latin america north", "latam north", "latin america south", "latam south", "unknown", ""]

/-- The spellings that the search route knows. -/
def searchNames : List String :=
  ["North America", "Europe", "Brazil", "Australia", "Southeast Asia", "Japan", "Russia", "NA", "EU", "BR", "OCE", "SEA",
    "JPN", "RUS", "SA"]

def spelled (text : String) : String := Text.toAsciiLowercase (Text.trim text)

/-- The worker and the player routes have one name for the text. -/
def Denotes (text code : String) : Prop :=
  (∃ entry ∈ regionCodes, entry.1 = code ∧ spelled text ∈ entry.2) ∨
    ((∀ entry ∈ regionCodes, spelled text ∉ entry.2) ∧ spelled text ∉ unknownNames ∧ code = Text.trim text ∧
      (spelled text = "asia" → code = "ASIA"))

section
variable {text code : String}

theorem trim_empty (empty : spelled text = "") : Text.trim text = "" := by
  have letters := congrArg String.toList empty
  rw [spelled, Text.toAsciiLowercase, String.toList_ofList] at letters
  exact String.toList_injective (List.map_eq_nil_iff.mp letters)

theorem unknown_regions (unknown : spelled text ∈ unknownNames) :
    Backend.canonicalRegion text = "Unknown" ∧ Players.normalizeRegion text = "Unknown" := by
  simp only [unknownNames, List.mem_cons, List.not_mem_nil, or_false] at unknown
  rcases unknown with named | named | named | named | named | named
  case inr.inr.inr.inr.inr =>
    -- the empty name is the only one that is tested without lowering it
    have lowered : Text.toAsciiLowercase "" = "" := rfl
    simp [Backend.canonicalRegion, Players.normalizeRegion, trim_empty named, lowered]
  all_goals
    rw [spelled] at named
    simp [Backend.canonicalRegion, Players.normalizeRegion, named]

theorem listed_regions {entry : String × List String} (listed : entry ∈ regionCodes) (named : spelled text ∈ entry.2) :
    Backend.canonicalRegion text = entry.1 ∧ Players.normalizeRegion text = entry.1 := by
  simp only [regionCodes, List.mem_cons, List.not_mem_nil, or_false] at listed
  rcases listed with rfl | rfl | rfl | rfl | rfl | rfl | rfl | rfl
  case inr.inr.inr.inr.inr.inl =>
    simp only [List.mem_cons, List.not_mem_nil, or_false, spelled] at named
    rcases named with named | named | named
    all_goals simp [Backend.canonicalRegion, Players.normalizeRegion, named]
  all_goals
    simp only [List.mem_cons, List.not_mem_nil, or_false, spelled] at named
    rcases named with named | named
    all_goals simp [Backend.canonicalRegion, Players.normalizeRegion, named]

theorem other_regions (unlisted : ∀ entry ∈ regionCodes, spelled text ∉ entry.2) (known : spelled text ∉ unknownNames) :
    Backend.canonicalRegion text = (if spelled text = "asia" then "ASIA" else Text.trim text) ∧
      Players.normalizeRegion text = Text.trim text := by
  have some_ : Text.trim text ≠ "" := fun empty => by
    rw [spelled, empty] at known
    exact absurd known (by decide)
  simp only [regionCodes, List.forall_mem_cons] at unlisted
  simp only [unknownNames, List.mem_cons, List.not_mem_nil, or_false, not_or, spelled] at unlisted known
  by_cases asia : Text.toAsciiLowercase (Text.trim text) = "asia"
  · simp [Backend.canonicalRegion, Players.normalizeRegion, spelled, asia, some_]
  · simp [Backend.canonicalRegion, Players.normalizeRegion, spelled, unlisted, known, asia, some_]

theorem known_trim (known : spelled text ∉ unknownNames) : isKnown (Text.trim text) = true := by
  have some_ : Text.trim text ≠ "" := fun empty => by
    rw [spelled, empty] at known
    exact absurd known (by decide)
  have letters : (Text.trim text).toList.all (· == ' ') = false := by
    -- the last character of a trimmed text is no blank
    have rest : (text.toList.dropWhile Text.isWhitespace).reverse.dropWhile Text.isWhitespace ≠ [] := fun empty => by
      rw [Text.trim, empty] at some_
      exact some_ rfl
    have last := List.head_dropWhile_not Text.isWhitespace rest
    rw [Text.trim, String.toList_ofList, Bool.eq_false_iff]
    intro blank
    have isBlank := List.all_eq_true.mp blank _ (List.mem_reverse.mpr (List.head_mem rest))
    rw [beq_iff_eq.mp isBlank] at last
    cases last
  have noUnknown : Text.eqIgnoreAsciiCase (Text.trim text) "unknown" = false := by
    rw [Bool.eq_false_iff]
    intro same
    have lowered : spelled text = "unknown" := congrArg String.ofList (beq_iff_eq.mp same)
    rw [lowered] at known
    exact absurd known (by decide)
  rw [isKnown, letters, noUnknown]
  rfl

/-- Where the text stands for something, both know it, and they agree on its name. -/
theorem known_regions (known : spelled text ∉ unknownNames) :
    isKnown (Backend.canonicalRegion text) = true ∧ isKnown (Players.normalizeRegion text) = true ∧
      ((Backend.canonicalRegion text = code ∧ Players.normalizeRegion text = code) ↔ Denotes text code) := by
  by_cases listed : ∃ entry ∈ regionCodes, spelled text ∈ entry.2
  · obtain ⟨entry, inside, named⟩ := listed
    obtain ⟨worker, players⟩ := listed_regions inside named
    have short : ∀ entry ∈ regionCodes, isKnown entry.1 = true := by decide
    rw [worker, players]
    refine ⟨short entry inside, short entry inside, ?_⟩
    constructor
    · rintro ⟨same, -⟩
      exact .inl ⟨entry, inside, same, named⟩
    · rintro (⟨other, otherInside, rfl, otherNamed⟩ | ⟨unlisted, -⟩)
      · have same := worker.symm.trans (listed_regions otherInside otherNamed).1
        exact ⟨same, same⟩
      · exact absurd named (unlisted entry inside)
  · have unlisted : ∀ entry ∈ regionCodes, spelled text ∉ entry.2 := fun entry inside named =>
      listed ⟨entry, inside, named⟩
    obtain ⟨worker, players⟩ := other_regions unlisted known
    rw [worker, players]
    refine ⟨?_, known_trim known, ?_⟩
    · split_ifs
      · decide
      · exact known_trim known
    · constructor
      · rintro ⟨fromWorker, fromPlayers⟩
        refine .inr ⟨unlisted, known, fromPlayers.symm, fun asia => ?_⟩
        rw [if_pos asia] at fromWorker
        exact fromWorker.symm
      · rintro (⟨entry, inside, -, named⟩ | ⟨-, -, rfl, asia⟩)
        · exact absurd named (unlisted entry inside)
        · refine ⟨?_, rfl⟩
          split_ifs with isAsia
          · exact (asia isAsia).symm
          · rfl

/-! ### The region that is kept -/

/-- A region that the three writers leave alike: a spelling that all know, a name that none knows, or the
name that is stored already. -/
def RegionSettled (text shown : String) (stored : Option String) : Prop :=
  shown ∈ searchNames ∨ spelled text ∈ unknownNames ∨ ∃ code, stored = some code ∧ Denotes text code

theorem search_listed {shown : String} (listed : shown ∈ searchNames) :
    Search.normalizeRegion shown ≠ "Unknown" ∧ spelled shown ∉ unknownNames ∧
      Backend.canonicalRegion shown = Search.normalizeRegion shown ∧
      Players.normalizeRegion shown = Search.normalizeRegion shown := by
  revert shown
  decide

theorem search_unlisted {shown : String} (unlisted : shown ∉ searchNames) :
    Search.normalizeRegion shown = "Unknown" := by
  simp only [searchNames, List.mem_cons, List.not_mem_nil, or_false, not_or] at unlisted
  simp [Search.normalizeRegion, unlisted]

theorem regions_agree_iff {shown : String} {stored : Option PlayerRow} (same : shown ∈ searchNames → text = shown) :
    (keptRegion (isKnown (Backend.canonicalRegion text)) (Backend.canonicalRegion text) stored =
        keptRegion (isKnown (Players.normalizeRegion text)) (Players.normalizeRegion text) stored ∧
      keptRegion (isKnown (Players.normalizeRegion text)) (Players.normalizeRegion text) stored =
        keptRegion (Search.normalizeRegion shown != "Unknown") (Search.normalizeRegion shown) stored) ↔
      RegionSettled text shown (stored.map (·.region)) := by
  by_cases listed : shown ∈ searchNames
  · obtain rfl := same listed
    obtain ⟨known, named, worker, players⟩ := search_listed listed
    obtain ⟨first, second, -⟩ := @known_regions text "" named
    rw [first, second, bne_iff_ne.mpr known, keptRegion, keptRegion, keptRegion, if_pos rfl, if_pos rfl, if_pos rfl, worker,
      players]
    exact iff_of_true ⟨rfl, rfl⟩ (.inl listed)
  · -- the search route keeps the stored region, or writes Unknown into a new row
    rw [search_unlisted listed, bne_self_eq_false]
    by_cases unknown : spelled text ∈ unknownNames
    · obtain ⟨worker, players⟩ := unknown_regions unknown
      rw [worker, players]
      exact iff_of_true ⟨rfl, rfl⟩ (.inr (.inl unknown))
    · obtain ⟨first, second, -⟩ := @known_regions text "" unknown
      have kept : (keptRegion (isKnown (Backend.canonicalRegion text)) (Backend.canonicalRegion text) stored =
            keptRegion (isKnown (Players.normalizeRegion text)) (Players.normalizeRegion text) stored ∧
          keptRegion (isKnown (Players.normalizeRegion text)) (Players.normalizeRegion text) stored =
            keptRegion false "Unknown" stored) ↔
          (Backend.canonicalRegion text = Players.normalizeRegion text ∧
            Players.normalizeRegion text = (stored.map (·.region)).getD "Unknown") := by
        rw [first, second, keptRegion, keptRegion, keptRegion, if_pos rfl, if_pos rfl, if_neg Bool.false_ne_true]
      refine kept.trans ⟨?_, ?_⟩
      · rintro ⟨same, written⟩
        cases held : stored.map (·.region) with
        | none =>
            rw [held, Option.getD_none] at written
            rw [written] at second
            exact absurd second (by decide)
        | some code =>
            rw [held, Option.getD_some] at written
            exact .inr (.inr ⟨code, rfl, (known_regions unknown).2.2.mp ⟨same.trans written, written⟩⟩)
      · rintro (shownName | noName | ⟨code, held, denotes⟩)
        · exact absurd shownName listed
        · exact absurd noName unknown
        · obtain ⟨worker, players⟩ := (known_regions unknown).2.2.mpr denotes
          rw [held, Option.getD_some, worker, players]
          exact ⟨rfl, rfl⟩

end

/-! ### What is read -/

/-- The JSON text of a number, a literal, an array or an object starts with no capital letter. -/
def JsonTexts (jsonText : Value → String) : Prop :=
  ∀ value, (∀ text, value ≠ .string text) → ∀ c, (jsonText value).toList.head? = some c → c.isUpper = false

section
variable {jsonText : Value → String} {raw : Value} {store : Store}

theorem object_of_valueI64 {keys : List String} {number : ℤ} (found : Enrichment.valueI64 raw keys = some number) :
    ∃ fields, raw = .object fields := by
  obtain ⟨key, -, read⟩ := List.exists_of_findSome?_eq_some found
  obtain ⟨field, present, -⟩ := Option.bind_eq_some_iff.mp read
  cases raw with
  | object fields => exact ⟨fields, rfl⟩
  | null => cases present
  | bool value => cases present
  | integer value => cases present
  | float text => cases present
  | string text => cases present
  | array items => cases present

/-- A spelling of the search route is read by the others as it is. -/
theorem text_of_shown (json : JsonTexts jsonText) (listed : fieldText jsonText raw "Region" ∈ searchNames) :
    (Enrichment.valueText raw ["Region"]).getD "" = fieldText jsonText raw "Region" := by
  have capital : ∀ name ∈ searchNames, ∃ c, name.toList.head? = some c ∧ c.isUpper = true := by
    have any : ∀ name ∈ searchNames, name.toList.head?.any Char.isUpper = true := by decide
    intro name listed
    obtain ⟨c, first, upper⟩ := Option.any_eq_true _ _ |>.mp (any name listed)
    exact ⟨c, first, upper⟩
  have read : ∀ name ∈ searchNames, Enrichment.valueText (.object [("Region", .string name)]) ["Region"] = some name := by
    decide
  have empty : "" ∉ searchNames := by decide
  unfold fieldText at listed ⊢
  split at listed
  · exact absurd listed empty
  · exact absurd listed empty
  · rename_i text present
    have same : Enrichment.valueText raw ["Region"] =
        Enrichment.valueText (.object [("Region", .string text)]) ["Region"] := by
      simp only [Enrichment.valueText, List.findSome?_cons, present]
      rfl
    rw [same, read text listed]
    rfl
  · -- any other value is shown as its JSON text
    rename_i value notNull notString present
    obtain ⟨c, first, upper⟩ := capital _ listed
    rw [json value notString c first] at upper
    cases upper

theorem mergedIds_empty {read : Value → ℤ} : mergedIds read raw = ∅ ↔
    ∀ rows, raw.get "MergedPlayers" = some (.array rows) → ∀ row ∈ rows, read row ≤ 0 := by
  unfold mergedIds
  split
  · rename_i rows present
    rw [List.toFinset_eq_empty_iff, List.filter_eq_nil_iff, List.forall_mem_map]
    simp only [present, Option.some.injEq, Hirez.Value.array.injEq, forall_eq', decide_eq_true_eq, not_lt]
  · rename_i absent
    exact iff_of_true rfl fun rows present => absurd present (absent rows)

theorem upsertRemoteProfiles_eq {takes : Bool} (accepted : 0 < (Worker.read raw).playerId) :
    upsertRemoteProfiles takes jsonText store raw =
      (remoteProfile takes jsonText store raw (Worker.read raw).playerId).map fun after =>
        ([(Worker.read raw).playerId], after) := by
  have number : (Enrichment.valueI64 raw ["Id", "ActivePlayerId"]).filter (0 < ·) = some (Worker.read raw).playerId := by
    have read : (Worker.read raw).playerId = (Enrichment.valueI64 raw ["Id", "ActivePlayerId"]).getD 0 := rfl
    rw [read] at accepted ⊢
    cases found : Enrichment.valueI64 raw ["Id", "ActivePlayerId"] with
    | none =>
        rw [found] at accepted
        exact absurd accepted (lt_irrefl _)
    | some number =>
        rw [found] at accepted
        exact Option.filter_eq_some_iff.mpr ⟨rfl, decide_eq_true accepted⟩
  obtain ⟨fields, object⟩ := object_of_valueI64 (Option.filter_eq_some_iff.mp number).1
  have rows : ProfileRefresh.valueRows raw = [raw] := by
    rw [object]
    rfl
  rw [upsertRemoteProfiles, rows, List.foldlM_cons, number]
  simp only [List.foldlM_nil, List.nil_append]
  cases remoteProfile takes jsonText store raw (Worker.read raw).playerId with
  | none => rfl
  | some after => rfl

/-! ### Agreement -/

/-- After each writer the player has the same row and the same merged players, and the level is the
one of the relay and of the migration. -/
def WritersAgree (takes : Bool) (jsonText : Value → String) (store : Store) (raw : Value) : Prop :=
  ∃ (playerId : ℤ) (row : PlayerRow) (merged : Finset ℤ) (worker players search : Store),
    (persistPlayerProfile store raw = some (playerId, worker) ∧ upsertProfile store raw = some (playerId, players) ∧
      upsertRemoteProfiles takes jsonText store raw = some ([playerId], search)) ∧
    (worker.players playerId = some row ∧ players.players playerId = some row ∧ search.players playerId = some row) ∧
    (worker.mergedPlayers playerId = merged ∧ players.mergedPlayers playerId = merged ∧
      search.mergedPlayers playerId = merged) ∧
    ∀ reading ∈ [Worker.read raw, Players.read raw],
      calculatePlayerLevel (.ofRat reading.totalXp) = some row.level ∧ migratedLevel reading.totalXp = some row.level

/-- A profile on which the writers cannot differ. -/
structure Unambiguous (jsonText : Value → String) (store : Store) (raw : Value) : Prop where
  player : (Worker.read raw).playerId = (Players.read raw).playerId
  level : ∃ level, LevelFits level (Worker.read raw).totalXp (Worker.read raw).apiLevel ∧
    LevelFits level (Players.read raw).totalXp (Players.read raw).apiLevel
  region : RegionSettled ((Enrichment.valueText raw ["Region"]).getD "") (fieldText jsonText raw "Region")
    ((store.players (Worker.read raw).playerId).map (·.region))
  /-- No row of `MergedPlayers` has an id. -/
  merged : ∀ rows, raw.get "MergedPlayers" = some (.array rows) → ∀ row ∈ rows,
    workerI64 row ["playerId", "player_id"] ≤ 0 ∧ ProfileRefresh.valueI64 row ["playerId", "player_id"] ≤ 0
  /-- The array of the stored row, which the search route leaves as it is, is empty. -/
  column : ∀ row, store.players (Worker.read raw).playerId = some row → row.mergedPlayers = ∅

theorem persist_eq {reading : Reading} (accepted : 0 < reading.playerId) :
    persist store reading = some (reading.playerId, store.write reading.playerId
      { level := storedLevel (calculatedLevel reading.totalXp reading.apiLevel)
        region := keptRegion (isKnown reading.region) reading.region (store.players reading.playerId)
        mergedPlayers := reading.merged } reading.merged) := if_neg (not_le.mpr accepted)

@[simp] theorem Store.write_players {playerId : ℤ} {row : PlayerRow} {merged : Finset ℤ} :
    (store.write playerId row merged).players playerId = some row := Function.update_self ..

@[simp] theorem Store.write_merged {playerId : ℤ} {row : PlayerRow} {merged : Finset ℤ} :
    (store.write playerId row merged).mergedPlayers playerId = merged := Function.update_self ..

theorem remoteProfile_eq {row : Value} {playerId : ℤ} : remoteProfile true jsonText store row playerId =
    some (store.write playerId
      { level := storedLevel
          (resolvePlayerLevel (workerI64 row ["Total_XP", "total_xp"]) (workerI64 row ["Level", "level"]))
        region := keptRegion (Search.normalizeRegion (fieldText jsonText row "Region") != "Unknown")
          (Search.normalizeRegion (fieldText jsonText row "Region")) (store.players playerId)
        mergedPlayers := ((store.players playerId).map (·.mergedPlayers)).getD ∅ } ∅) := rfl

/-- The region is read of one text by the worker and the player routes. -/
theorem regions_read : (Worker.read raw).region = Backend.canonicalRegion ((Enrichment.valueText raw ["Region"]).getD "") ∧
    (Players.read raw).region = Players.normalizeRegion ((Enrichment.valueText raw ["Region"]).getD "") := by
  constructor
  · rw [Worker.read, Worker.normalizedRegion]
  · rw [Players.read]

theorem unambiguous_of_agree {takes : Bool} (json : JsonTexts jsonText) (accepted : 0 < (Worker.read raw).playerId)
    (accepted' : 0 < (Players.read raw).playerId) (agree : WritersAgree takes jsonText store raw) :
    takes = true ∧ Unambiguous jsonText store raw := by
  obtain ⟨playerId, row, merged, worker, players, search, ⟨byWorker, byPlayers, bySearch⟩, rows, tables, levels⟩ := agree
  rw [persistPlayerProfile, persist_eq accepted] at byWorker
  rw [upsertProfile, persist_eq accepted'] at byPlayers
  rw [upsertRemoteProfiles_eq accepted] at bySearch
  obtain ⟨rfl, rfl⟩ := Prod.mk.inj (Option.some.inj byWorker)
  obtain ⟨player, rfl⟩ := Prod.mk.inj (Option.some.inj byPlayers)
  cases takes with
  | false =>
      -- the boolean is refused, so the search route has stored nothing
      cases bySearch
  | true =>
      rw [remoteProfile_eq, Option.map_some] at bySearch
      obtain ⟨-, rfl⟩ := Prod.mk.inj (Option.some.inj bySearch)
      rw [player] at rows tables
      simp only [Store.write_players, Store.write_merged, Option.some_inj] at rows tables
      obtain ⟨rfl, rowPlayers, rowSearch⟩ := rows
      obtain ⟨tableWorker, tablePlayers, tableSearch⟩ := tables
      rw [PlayerRow.mk.injEq] at rowPlayers rowSearch
      refine ⟨rfl, player.symm, ?_, ?_, ?_, ?_⟩
      · have ofWorker := levels (Worker.read raw) List.mem_cons_self
        have ofPlayers := levels (Players.read raw) (List.mem_cons_of_mem _ List.mem_cons_self)
        obtain ⟨level, stored, fits⟩ := levels_agree_iff.mp ⟨rfl, ofWorker⟩
        obtain ⟨level', stored', fits'⟩ := levels_agree_iff.mp ⟨rowPlayers.1, ofPlayers⟩
        obtain rfl : level = level' := by exact_mod_cast stored.symm.trans stored'
        exact ⟨level, fits, fits'⟩
      · rw [regions_read.1, regions_read.2] at rowPlayers
        rw [regions_read.1] at rowSearch
        exact (regions_agree_iff (text_of_shown json)).mp
          ⟨rowPlayers.2.1.symm, rowPlayers.2.1.trans rowSearch.2.1.symm⟩
      · -- the search route has emptied the table, so the others have found no merged player
        have none_ : mergedIds (fun row => workerI64 row ["playerId", "player_id"]) raw = ∅ :=
          tableWorker.trans tableSearch.symm
        have none_' : mergedIds (fun row => ProfileRefresh.valueI64 row ["playerId", "player_id"]) raw = ∅ :=
          tablePlayers.trans tableSearch.symm
        exact fun rows present row listed =>
          ⟨mergedIds_empty.mp none_ rows present row listed, mergedIds_empty.mp none_' rows present row listed⟩
      · intro row held
        have kept := rowSearch.2.2
        rw [held, Option.map_some, Option.getD_some, tableWorker, ← tableSearch] at kept
        exact kept

theorem agree_of_unambiguous (json : JsonTexts jsonText) (accepted : 0 < (Worker.read raw).playerId)
    (plain : Unambiguous jsonText store raw) : WritersAgree true jsonText store raw := by
  obtain ⟨level, fits, fits'⟩ := plain.level
  obtain ⟨regionPlayers, regionSearch⟩ := (regions_agree_iff (text_of_shown json)).mpr plain.region
  have none_ : (Worker.read raw).merged = ∅ := mergedIds_empty.mpr fun rows present row listed =>
    (plain.merged rows present row listed).1
  have none_' : (Players.read raw).merged = ∅ := mergedIds_empty.mpr fun rows present row listed =>
    (plain.merged rows present row listed).2
  have column : ((store.players (Worker.read raw).playerId).map (·.mergedPlayers)).getD ∅ = ∅ := by
    cases held : store.players (Worker.read raw).playerId with
    | none => rfl
    | some row => exact plain.column row held
  -- all three writers store one row, which is named before they are compared
  obtain ⟨ofWorker, calculated⟩ := levels_agree_iff.mpr ⟨level, rfl, fits⟩
  obtain ⟨ofPlayers, calculated'⟩ := levels_agree_iff.mpr ⟨level, rfl, fits'⟩
  have accepted' : 0 < (Players.read raw).playerId := plain.player ▸ accepted
  have searched : storedLevel
      (resolvePlayerLevel (workerI64 raw ["Total_XP", "total_xp"]) (workerI64 raw ["Level", "level"])) = level :=
    fits.resolved _
  obtain ⟨row, rowIs⟩ : ∃ row : PlayerRow, row =
      { level := level
        region := keptRegion (isKnown (Worker.read raw).region) (Worker.read raw).region
          (store.players (Worker.read raw).playerId)
        mergedPlayers := ∅ } := ⟨_, rfl⟩
  have byWorker : persistPlayerProfile store raw =
      some ((Worker.read raw).playerId, store.write (Worker.read raw).playerId row ∅) := by
    rw [persistPlayerProfile, persist_eq accepted, ofWorker, none_, rowIs]
  have byPlayers : upsertProfile store raw =
      some ((Worker.read raw).playerId, store.write (Worker.read raw).playerId row ∅) := by
    rw [upsertProfile, persist_eq accepted', ofPlayers, none_', ← plain.player, rowIs, regions_read.1, regions_read.2,
      regionPlayers]
  have bySearch : upsertRemoteProfiles true jsonText store raw =
      some ([(Worker.read raw).playerId], store.write (Worker.read raw).playerId row ∅) := by
    rw [upsertRemoteProfiles_eq accepted, remoteProfile_eq, Option.map_some, searched, column, rowIs, regions_read.1,
      regionPlayers, regionSearch]
  have level_ : row.level = level := by rw [rowIs]
  refine ⟨(Worker.read raw).playerId, row, ∅, _, _, _, ⟨byWorker, byPlayers, bySearch⟩, ?_, ?_, ?_⟩
  · exact ⟨Store.write_players, Store.write_players, Store.write_players⟩
  · exact ⟨Store.write_merged, Store.write_merged, Store.write_merged⟩
  · rw [level_]
    exact List.forall_mem_cons.mpr ⟨calculated, List.forall_mem_singleton.mpr calculated'⟩

/-- The three writers store the same of a profile that they accept, and the level of the relay and of
the migration, exactly where the driver takes the boolean and the profile is unambiguous. -/
theorem profile_writers_agree_iff (takes : Bool) (json : JsonTexts jsonText) (accepted : 0 < (Worker.read raw).playerId)
    (accepted' : 0 < (Players.read raw).playerId) :
    WritersAgree takes jsonText store raw ↔ takes = true ∧ Unambiguous jsonText store raw := by
  constructor
  · exact unambiguous_of_agree json accepted accepted'
  · rintro ⟨rfl, plain⟩
    exact agree_of_unambiguous json accepted plain

end

def noPlayers : Store := ⟨fun _ => none, fun _ => ∅⟩

/-- The start of level 2, which the provider has too, and a region that all writers know. -/
def settledProfile : Value :=
  .object [("Id", .integer 7), ("Level", .integer 2), ("Total_XP", .integer 40000), ("Region", .string "EU")]

/-- The root has level 2 here, and the costs have level 1. -/
def earlyProfile : Value := .object [("Id", .integer 7), ("Total_XP", .integer 20000), ("Region", .string "EU")]

theorem nullTexts : JsonTexts fun _ => "null" := by
  intro value _ c first
  have head : "null".toList.head? = some 'n' := by decide
  obtain rfl := Option.some.inj (head.symm.trans first)
  decide

theorem settled_profile_is_written_alike :
    WritersAgree true (fun _ => "null") noPlayers settledProfile := by
  have fits : LevelFits 2 40000 2 :=
    { one := by decide, fits := by decide, known := by decide, band := ⟨by decide, by decide⟩, root := by decide,
      provider := by decide, reached := .inl rfl }
  exact (profile_writers_agree_iff true nullTexts (by decide) (by decide)).mpr ⟨rfl,
    { player := by decide
      level := ⟨2, fits, fits⟩
      region := .inl (by decide)
      merged := fun rows present => by cases present
      column := fun row held => by cases held }⟩

theorem early_profile_is_written_with_two_levels :
    ((persistPlayerProfile noPlayers earlyProfile).bind fun written => (written.2.players 7).map (·.level)) = some 2 ∧
      ((upsertRemoteProfiles true (fun _ => "null") noPlayers earlyProfile).bind fun written =>
        (written.2.players 7).map (·.level)) = some 1 ∧
      migratedLevel 20000 = some 1 ∧ ¬ WritersAgree true (fun _ => "null") noPlayers earlyProfile := by
  have root : storedLevel (calculatedLevel 20000 0) = 2 :=
    (@storedLevel_iff 2 _ (by decide)).mpr
      ⟨(@calculatedLevel_iff 2 20000 0 (by decide) (by decide)).mpr (by decide), by decide⟩
  have costs : storedLevel (resolvePlayerLevel 20000 0) = 1 := by decide
  refine ⟨congrArg some root, congrArg some costs, by decide, fun agree => ?_⟩
  obtain ⟨-, plain⟩ := unambiguous_of_agree nullTexts (by decide) (by decide) agree
  obtain ⟨level, fits, -⟩ := plain.level
  have stored : migratedLevel 20000 = some level := (migratedLevel_iff (by decide)).mpr ⟨fits.band, fits.fits⟩
  have one : level = 1 := by exact_mod_cast (Option.some.inj (stored.symm.trans (by decide : migratedLevel 20000 = some 1)))
  have below : (20000 : ℤ) < 10000 * (level * (level + 1)) := fits.root
  rw [one] at below
  exact absurd below (by decide)

end PaladinsCat.ProfileWriters
