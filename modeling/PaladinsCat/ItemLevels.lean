import PaladinsCat.ConflictInserts
import PaladinsCat.FactUpserts
import PaladinsCat.HistoryRows

/-!
The levels of the items (`persist_equipment`, `persist_nonranked_equipment`). Hi-Rez reports four
times the level. The rows of the details carry it as it is, the rows of a history have it divided
already, and the writers of both kinds of matches divide what they find above two.
-/

namespace PaladinsCat.Backend

open Hirez (Value)
open Normalizer
open Selection (selected crossJoin)
open ConflictInserts (fresh upsert)

variable (pg : Postgres)

/-! ### The two writers -/

structure MatchPlayerItem where
  matchId : Int
  playerId : Int
  itemId : Int
  slot : Nat
  itemLevel : Int
  deriving DecidableEq

def MatchPlayerItem.key (row : MatchPlayerItem) : Int × Int × Int := (row.matchId, row.playerId, row.itemId)

structure NonrankedMatchItem where
  matchId : Int
  population : MatchPopulation
  statsScope : String
  queueId : Int
  rosterSlot : Int
  playerId : Int
  slot : Nat
  itemId : Int
  itemLevel : Int
  deriving DecidableEq

def NonrankedMatchItem.key (row : NonrankedMatchItem) : Int × Int × Int := (row.matchId, row.rosterSlot, row.itemId)

/-- One player and one slot of the SELECT; the level is cast only for a row that is kept. -/
def equipmentRow (matchId : Int) (source : Value × Nat) : Option (Option MatchPlayerItem) := do
  let playerId ← pg.number 64 source.1 "player_id"
  let itemId ← pg.number 32 source.1 ("active_id_" ++ toString source.2)
  if 0 < playerId ∧ 0 < itemId then
    let itemLevel ← pg.itemLevel source.1 ("active_level_" ++ toString source.2)
    return some { matchId, playerId, itemId, slot := source.2, itemLevel }
  else return none

def persistEquipment (matchId : Int) (players : List Value) (table : List MatchPlayerItem) :
    Option (List MatchPlayerItem) :=
  (selected (equipmentRow pg matchId) (crossJoin players [1, 2, 3, 4])).map fun rows =>
    table ++ fresh MatchPlayerItem.key (table.map MatchPlayerItem.key) rows

def nonrankedEquipmentRow (matchId : Int) (population : MatchPopulation) (statsScope : String) (queueId : Int)
    (source : (Value × Nat) × Nat) : Option (Option NonrankedMatchItem) := do
  let itemId ← pg.number 32 source.1.1 ("active_id_" ++ toString source.2)
  if 0 < itemId then
    let rosterSlot ← Postgres.rosterSlot source.1.2
    let playerId ← pg.number 64 source.1.1 "player_id"
    let itemLevel ← pg.itemLevel source.1.1 ("active_level_" ++ toString source.2)
    return some { matchId, population, statsScope, queueId, rosterSlot, playerId, slot := source.2, itemId, itemLevel }
  else return none

/-- `player_id=EXCLUDED.player_id,slot=EXCLUDED.slot,item_level=EXCLUDED.item_level`. -/
def NonrankedMatchItem.replaced (old excluded : NonrankedMatchItem) : NonrankedMatchItem :=
  { old with playerId := excluded.playerId, slot := excluded.slot, itemLevel := excluded.itemLevel }

def persistNonrankedEquipment (matchId : Int) (population : MatchPopulation) (statsScope : String) (queueId : Int)
    (players : List Value) (table : List NonrankedMatchItem) : Option (List NonrankedMatchItem) := do
  let rows ← selected (nonrankedEquipmentRow pg matchId population statsScope queueId)
    (crossJoin players.zipIdx [1, 2, 3, 4])
  upsert NonrankedMatchItem.key NonrankedMatchItem.replaced rows (table.filter fun row => row.matchId ≠ matchId)

/-! ### What is stored -/

section
variable {pg}

theorem equipmentRow_some {matchId : Int} {source : Value × Nat} {row : MatchPlayerItem}
    (kept : equipmentRow pg matchId source = some (some row)) :
    row.matchId = matchId ∧ pg.itemLevel source.1 ("active_level_" ++ toString source.2) = some row.itemLevel := by
  simp only [equipmentRow, Option.bind_eq_bind, Option.bind_eq_some_iff, Option.pure_def] at kept
  obtain ⟨playerId, _, itemId, _, rest⟩ := kept
  split_ifs at rest
  · obtain ⟨itemLevel, level, equal⟩ := Option.bind_eq_some_iff.mp rest
    cases equal
    exact ⟨rfl, level⟩
  · cases rest

theorem nonrankedEquipmentRow_some {matchId queueId : Int} {population : MatchPopulation} {statsScope : String}
    {source : (Value × Nat) × Nat} {row : NonrankedMatchItem}
    (kept : nonrankedEquipmentRow pg matchId population statsScope queueId source = some (some row)) :
    row.matchId = matchId ∧ pg.itemLevel source.1.1 ("active_level_" ++ toString source.2) = some row.itemLevel := by
  simp only [nonrankedEquipmentRow, Option.bind_eq_bind, Option.bind_eq_some_iff, Option.pure_def] at kept
  obtain ⟨itemId, _, rest⟩ := kept
  split_ifs at rest
  · simp only [Option.bind_eq_some_iff] at rest
    obtain ⟨rosterSlot, _, playerId, _, itemLevel, level, equal⟩ := rest
    cases equal
    exact ⟨rfl, level⟩
  · cases rest

end

/-! ### What the relay makes of a level -/

/-- The level that Hi-Rez reports for a slot. -/
def Reported (raw : Value) (slot level : Nat) : Prop :=
  ∃ value, raw.get (numbered "ActiveLevel" slot) = some value ∧ Spells value level

def LevelField (player : Value) (slot : Nat) (level : Int) : Prop :=
  player.get ("active_level_" ++ toString slot) = some (.integer level)

section
variable {raw : Value} {slot level : Nat}

theorem direct_level_field (known : slot ∈ [1, 2, 3, 4]) :
    (normalizeMatchPlayer raw).get ("active_level_" ++ toString slot) =
      some ((firstTruthy raw [numbered "ActiveLevel" slot, numbered "active_level_" slot]).getD zero) := by
  simp only [List.mem_cons, List.not_mem_nil, or_false] at known
  rcases known with rfl | rfl | rfl | rfl <;> rfl

theorem history_level_field (known : slot ∈ [1, 2, 3, 4]) :
    LevelField (normalizeMatchHistoryPlayer raw) slot (historyActiveLevel raw slot) := by
  simp only [List.mem_cons, List.not_mem_nil, or_false] at known
  rcases known with rfl | rfl | rfl | rfl <;> rfl

/-- A level that a double holds is divided without a remainder. -/
theorem historyActiveLevel_reported {k : Nat} (reported : Reported raw slot (4 * k)) (positive : 0 < k)
    (small : 4 * k < 2 ^ 31) : historyActiveLevel raw slot = k := by
  have whole : Binary64.ofRat ((4 * k : ℕ) : ℚ) = .finite ((4 * k : ℕ) : ℚ) := by
    have exact_ := @Binary64.ofRat_int (4 * k) (by rw [abs_of_nonneg] <;> omega)
    exact_mod_cast exact_
  have quotient : Binary64.ofRat (((4 * k : ℕ) : ℚ) / 4) = .finite k := by
    have exact_ := @Binary64.ofRat_int k (by rw [abs_of_nonneg] <;> omega)
    rw [show ((4 * k : ℕ) : ℚ) / 4 = ((k : ℤ) : ℚ) by push_cast; ring]
    exact_mod_cast exact_
  have half : Binary64.ofRat ((k : ℚ) + 1 / 2) = .finite ((k : ℚ) + 1 / 2) := by
    have exact_ := @Binary64.ofRat_half k (by rw [abs_of_nonneg] <;> omega)
    exact_mod_cast exact_
  have floored : ⌊(k : ℚ) + 1 / 2⌋ = k := by
    rw [Int.floor_eq_iff]
    constructor <;> push_cast <;> linarith
  have read : firstF64 raw [numbered "ActiveLevel" slot] = some (.finite ((4 * k : ℕ) : ℚ)) := by
    obtain ⟨value, found, spells⟩ := reported
    rw [firstF64, firstTruthy_spells found spells (by omega), Option.bind_some, jsNumber_spells spells, whole]
  rw [historyActiveLevel, read, Option.getD_some, Binary64.lift_finite, quotient, jsRound, Binary64.lift_finite, half,
    Binary64.floor, floored]
  exact Binary64.saturate_int (by unfold i64Min; omega) (by unfold i64Max; omega)

end

/-! ### Levels of four times a level -/

section
variable {pg} {player : Value} {slot k : Nat} {level : Int}

/-- The writers divide a level above two once more. -/
theorem itemLevel_of_text {n : Nat} (text : pg.text player ("active_level_" ++ toString slot) = some (toString n))
    (stored : pg.itemLevel player ("active_level_" ++ toString slot) = some level) :
    n < 2 ^ 31 ∧ level = if 2 < n then (n : Int) / 4 else n := by
  have cast := @number_of_text pg 32 n player _ text
  have narrow := @number_of_text pg 16 n player _ text
  simp only [Postgres.itemLevel, cast, narrow, Option.bind_eq_bind] at stored
  by_cases fits : n < 2 ^ (32 - 1)
  · refine ⟨fits, ?_⟩
    rw [if_pos fits, Option.bind_some] at stored
    by_cases large : 2 < n
    · rw [if_pos (by omega), smallint] at stored
      rw [if_pos large]
      split_ifs at stored
      exact (Option.some.inj stored).symm
    · rw [if_neg (by omega), if_pos (by omega)] at stored
      rw [if_neg large]
      exact (Option.some.inj stored).symm
  · rw [if_neg fits] at stored
    cases stored

theorem direct_level {raw : Value} (known : slot ∈ [1, 2, 3, 4]) (reported : Reported raw slot (4 * k))
    (positive : 0 < k)
    (stored : pg.itemLevel (normalizeMatchPlayer raw) ("active_level_" ++ toString slot) = some level) :
    4 * k < 2 ^ 31 ∧ level = k := by
  obtain ⟨value, found, spells⟩ := reported
  have content := @direct_level_field raw slot known
  rw [firstTruthy_spells found spells (by omega), Option.getD_some] at content
  have text : pg.text (normalizeMatchPlayer raw) ("active_level_" ++ toString slot) = some (toString (4 * k)) := by
    apply text_natural pg
    rcases spells with rfl | rfl
    · exact .inl content
    · exact .inr content
  obtain ⟨fits, value⟩ := itemLevel_of_text text stored
  refine ⟨fits, ?_⟩
  rw [value, if_pos (by omega)]
  push_cast
  omega

theorem history_level {raw : Value} (known : slot ∈ [1, 2, 3, 4]) (reported : Reported raw slot (4 * k))
    (positive : 0 < k) (small : 4 * k < 2 ^ 31)
    (stored : pg.itemLevel (normalizeMatchHistoryPlayer raw) ("active_level_" ++ toString slot) = some level) :
    level = if 2 < k then (k : Int) / 4 else k := by
  have content := @history_level_field raw slot known
  rw [LevelField, historyActiveLevel_reported reported positive small] at content
  exact (itemLevel_of_text (text_natural pg (.inl content)) stored).2

theorem quarter_eq_iff (positive : 0 < k) : (k : Int) = (if 2 < k then (k : Int) / 4 else k) ↔ k ≤ 2 := by
  split_ifs with large
  · omega
  · omega

end

/-- A level in the table of a writer, in the row that was selected from a player and a slot. -/
inductive Stores (player : Value) (slot : Nat) : Int → Prop where
  | equipment {matchId : Int} {players : List Value} {before after : List MatchPlayerItem} {row : MatchPlayerItem}
      (listed : player ∈ players) (written : persistEquipment pg matchId players before = some after)
      (taken : row ∈ after) (own : equipmentRow pg matchId (player, slot) = some (some row)) :
      Stores player slot row.itemLevel
  | nonrankedEquipment {matchId queueId : Int} {population : MatchPopulation} {statsScope : String}
      {players : List Value} {before after : List NonrankedMatchItem} {roster : Nat} {row : NonrankedMatchItem}
      (listed : players[roster]? = some player)
      (written : persistNonrankedEquipment pg matchId population statsScope queueId players before = some after)
      (taken : row ∈ after)
      (own : nonrankedEquipmentRow pg matchId population statsScope queueId ((player, roster), slot) = some (some row)) :
      Stores player slot row.itemLevel

theorem Stores.itemLevel {player : Value} {slot : Nat} {level : Int} (stores : Stores pg player slot level) :
    pg.itemLevel player ("active_level_" ++ toString slot) = some level := by
  cases stores with
  | equipment _ _ _ own => exact (equipmentRow_some own).2
  | nonrankedEquipment _ _ _ own => exact (nonrankedEquipmentRow_some own).2

/-- A level survives both paths exactly if it is at most two: the division of the history normalizer
cannot be told from the missing one of the other by the size of the result. -/
theorem item_levels_survive_iff {direct history : Value} {slot k : Nat} {first second : Int}
    (known : slot ∈ [1, 2, 3, 4]) (positive : 1 ≤ k) (reportedDirect : Reported direct slot (4 * k))
    (reportedHistory : Reported history slot (4 * k)) (stored : Stores pg (normalizeMatchPlayer direct) slot first)
    (recovered : Stores pg (normalizeMatchHistoryPlayer history) slot second) : first = second ↔ k ≤ 2 := by
  obtain ⟨small, level⟩ := direct_level known reportedDirect positive stored.itemLevel
  rw [level, history_level known reportedHistory positive small recovered.itemLevel]
  exact quarter_eq_iff positive

/-! ### An item of level three -/

def equippedRow (level : Nat) : Value :=
  .object [("playerId", .integer 5), ("ActiveId1", .integer 2001), ("ActiveLevel1", .integer level)]

theorem direct_level_stored :
    Stores decimalPostgres (normalizeMatchPlayer (equippedRow 12)) 1 3 ∧
      Stores decimalPostgres (normalizeMatchPlayer (equippedRow 8)) 1 2 :=
  ⟨@Stores.equipment decimalPostgres _ 1 7 [_] [] [⟨7, 5, 2001, 1, 3⟩] ⟨7, 5, 2001, 1, 3⟩ List.mem_cons_self
      (by decide +kernel) List.mem_cons_self (by decide +kernel),
    @Stores.equipment decimalPostgres _ 1 7 [_] [] [⟨7, 5, 2001, 1, 2⟩] ⟨7, 5, 2001, 1, 2⟩ List.mem_cons_self
      (by decide +kernel) List.mem_cons_self (by decide +kernel)⟩

theorem history_level_stored :
    Stores decimalPostgres (normalizeMatchHistoryPlayer (equippedRow 12)) 1 0 ∧
      Stores decimalPostgres (normalizeMatchHistoryPlayer (equippedRow 8)) 1 2 :=
  ⟨@Stores.equipment decimalPostgres _ 1 7 [_] [] [⟨7, 5, 2001, 1, 0⟩] ⟨7, 5, 2001, 1, 0⟩ List.mem_cons_self
      (by decide +kernel) List.mem_cons_self (by decide +kernel),
    @Stores.equipment decimalPostgres _ 1 7 [_] [] [⟨7, 5, 2001, 1, 2⟩] ⟨7, 5, 2001, 1, 2⟩ List.mem_cons_self
      (by decide +kernel) List.mem_cons_self (by decide +kernel)⟩

theorem level_two_survives : Stores decimalPostgres (normalizeMatchPlayer (equippedRow 8)) 1 2 ∧
    Stores decimalPostgres (normalizeMatchHistoryPlayer (equippedRow 8)) 1 2 ∧ ((2 : Int) = 2 ↔ 2 ≤ 2) :=
  ⟨direct_level_stored.2, history_level_stored.2,
    @item_levels_survive_iff decimalPostgres (equippedRow 8) (equippedRow 8) 1 2 2 2 (by decide) (by decide)
      ⟨_, rfl, .inl rfl⟩ ⟨_, rfl, .inl rfl⟩ direct_level_stored.2 history_level_stored.2⟩

theorem level_three_is_lost : Reported (equippedRow 12) 1 (4 * 3) ∧ ∃ first second : Int, first ≠ second ∧
    Stores decimalPostgres (normalizeMatchPlayer (equippedRow 12)) 1 first ∧
    Stores decimalPostgres (normalizeMatchHistoryPlayer (equippedRow 12)) 1 second :=
  ⟨⟨_, rfl, .inl rfl⟩, 3, 0, by decide, direct_level_stored.1, history_level_stored.1⟩

end PaladinsCat.Backend
