import PaladinsCat.MatchRows

/-!
The rows of getmatchhistory (normalizer.rs). A match that its detail call does not bring is
put together from the histories of its players; each row of a history is then a player of the
match, with the fields that a row of the details would have.
-/

namespace PaladinsCat.Normalizer

open Hirez (Value)

def nullableNumber (raw : Value) : List String → Value
  | [] => .null
  | key :: rest =>
      match raw.get key with
      | none | some .null | some (.string "") => nullableNumber raw rest
      | some value =>
          match (jsNumber value).filter Binary64.isFinite with
          | some number => numberValue number
          | none => nullableNumber raw rest

/-- `js_round`: halves are rounded up. -/
def jsRound (value : Binary64) : Int := Binary64.saturate i64Min i64Max (Binary64.lift (· + 1 / 2) value).floor

def historyRegion (raw : Value) : String :=
  normalizeRegion (((firstTruthy raw ["Region", "region"]).bind Value.asStr).getD "")

def historyWinStatus (raw : Value) : String :=
  match (firstTruthy raw ["Win_Status"]).bind Value.asStr with
  | some "Win" => "Winner"
  | some "Loss" => "Loser"
  | some value => value
  | none => ""

/-- The raw level is taken for four times the level of the item. -/
def historyActiveLevel (raw : Value) (index : Nat) : Int :=
  jsRound (Binary64.lift (· / 4) ((firstF64 raw [numbered "ActiveLevel" index]).getD (.finite 0)))

def historyActiveFields (raw : Value) (index : Nat) : List (String × Value) :=
  [rawField raw (numbered "active_id_" index) [numbered "ActiveId" index],
    (numbered "active_level_" index, .integer (historyActiveLevel raw index)),
    rawField raw (numbered "item_active_" index) [numbered "Active_" index] emptyString]

def historyItemFields (raw : Value) (index : Nat) : List (String × Value) :=
  [rawField raw (numbered "item_id_" index) [numbered "ItemId" index],
    rawField raw (numbered "item_level_" index) [numbered "ItemLevel" index],
    rawField raw (numbered "item_purch_" index) [numbered "Item_" index] emptyString]

def normalizeMatchHistoryPlayer (raw : Value) : Value :=
  .object <|
    [numberField raw "player_id" ["playerId", "player_id"],
      rawField raw "player_name" ["playerName", "player_name"] (.string "PRIVATEACCOUNT"),
      rawField raw "match_id" ["Match", "match_id"],
      rawField raw "entry_datetime" ["Match_Time", "entry_datetime"] emptyString,
      rawField raw "queue_id" ["Match_Queue_Id", "match_queue_id"],
      ("region", .string (historyRegion raw)),
      rawField raw "champion_id" ["ChampionId"],
      rawField raw "champion_name" ["Champion", "ChampionName", "champion_name"] emptyString,
      rawField raw "skin_id" ["SkinId"],
      rawField raw "skin_name" ["Skin"] emptyString,
      rawField raw "kills" ["Kills"],
      rawField raw "deaths" ["Deaths"],
      rawField raw "assists" ["Assists"],
      rawField raw "damage_done_in_hand" ["Damage_Done_In_Hand"],
      rawField raw "damage_done_physical" ["Damage", "damage_done_physical", "Damage_Player", "Damage_Done_Physical"],
      rawField raw "damage_done_magical" ["Damage_Done_Magical"],
      rawField raw "damage_taken" ["Damage_Taken"],
      rawField raw "damage_mitigated" ["Damage_Mitigated"],
      rawField raw "healing" ["Healing"],
      rawField raw "healing_self" ["Healing_Player_Self"],
      rawField raw "gold_earned" ["Gold"],
      ("gold_per_minute", zero),
      rawField raw "objective_assists" ["Objective_Assists"],
      rawField raw "killing_spree" ["Killing_Spree"],
      rawField raw "multi_kill_max" ["Multi_kill_Max"],
      ("win_status", .string (historyWinStatus raw)),
      rawField raw "task_force" ["TaskForce"],
      ("history_team1_score", nullableNumber raw ["history_team1_score", "Team1Score", "Team1_Score"]),
      ("history_team2_score", nullableNumber raw ["history_team2_score", "Team2Score", "Team2_Score"]),
      ("history_winning_task_force",
        nullableNumber raw ["history_winning_task_force", "Winning_TaskForce", "Winning_Task_Force"]),
      numberField raw "league_tier" ["League_Tier", "league_tier"],
      numberField raw "league_points" ["League_Points", "league_points"],
      numberField raw "account_level" ["Account_Level", "account_level"],
      numberField raw "mastery_level" ["Mastery_Level", "mastery_level"],
      numberField raw "party_id" ["PartyId", "party_id"],
      rawField raw "time_in_match" ["Time_In_Match_Seconds"],
      rawField raw "distance_traveled" ["Distance_Traveled"],
      rawField raw "structure_damage" ["Damage_Structure", "Structure_Damage"],
      rawField raw "camps_cleared" ["Creeps"],
      ("source", .string "match_history"),
      numberField raw "portal_id" ["playerPortalId", "portal_id"],
      rawField raw "portal_user_id" ["playerPortalUserId", "portal_user_id"] emptyString,
      rawField raw "kills_player" ["Kills"],
      rawField raw "healing_player_self" ["Healing_Player_Self"],
      rawField raw "damage_taken_physical" ["Damage_Taken_Physical"],
      rawField raw "damage_taken_magical" ["Damage_Taken_Magical"],
      numberField raw "kills_fire_giant" ["Kills_Fire_Giant", "kills_fire_giant"],
      numberField raw "kills_gold_fury" ["Kills_Gold_Fury", "kills_gold_fury"],
      numberField raw "kills_phoenix" ["Kills_Phoenix", "kills_phoenix"],
      numberField raw "kills_siege_jugg" ["Kills_Siege_Juggernaut", "kills_siege_jugg"],
      numberField raw "kills_wild_jugg" ["Kills_Wild_Juggernaut", "kills_wild_jugg"],
      numberField raw "kills_bot" ["Kills_Bot", "kills_bot"],
      numberField raw "kills_single" ["Kills_Single", "kills_single"],
      numberField raw "kills_double" ["Kills_Double", "kills_double"],
      numberField raw "kills_triple" ["Kills_Triple", "kills_triple"],
      numberField raw "kills_quadra" ["Kills_Quadra", "kills_quadra"],
      numberField raw "kills_penta" ["Kills_Penta", "kills_penta"],
      numberField raw "kills_first_blood" ["Kills_First_Blood", "kills_first_blood"],
      rawField raw "wards_placed" ["Wards_Placed"],
      numberField raw "towers_destroyed" ["Towers_Destroyed", "towers_destroyed"],
      numberField raw "league_wins" ["League_Wins", "league_wins"],
      numberField raw "league_losses" ["League_Losses", "league_losses"],
      rawField raw "healing_bot" ["Healing_Bot"],
      rawField raw "damage_bot" ["Damage_Bot"],
      rawField raw "platform" ["Platform", "platform"] emptyString,
      rawField raw "surrendered" ["Surrendered"],
      numberField raw "team_id" ["TeamId", "team_id"],
      rawField raw "team_name" ["Team_Name", "team_name"] emptyString,
      numberField raw "rank_stat_league" ["Rank_Stat_League", "rank_stat_league"],
      numberField raw "final_match_level" ["Final_Match_Level", "final_match_level"],
      numberField raw "match_duration" ["Match_Duration", "match_duration"]] ++
    [1, 2, 3, 4].flatMap (historyActiveFields raw) ++
    [1, 2, 3, 4, 5, 6].flatMap (historyItemFields raw) ++
    [1, 2, 3, 4, 5, 6, 7, 8].map (fun index =>
      numberField raw (numbered "ban_id_" index) [numbered "BanId" index, numbered "ban_id_" index]) ++
    [("merged_players", .null), ("has_ret_msg", .bool false)]

/-! ### Natural numbers and their texts -/

/-- A natural number, as a number or as its text. -/
def Spells (value : Value) (n : Nat) : Prop := value = .integer n ∨ value = .string (toString n)

theorem jsTruthy_spells {value : Value} {n : Nat} (spells : Spells value n) (positive : 0 < n) :
    jsTruthy value = true := by
  rcases spells with rfl | rfl
  · exact jsTruthy_integer (by omega)
  · simp [jsTruthy]

theorem jsNumber_spells {value : Value} {n : Nat} (spells : Spells value n) :
    jsNumber value = some (Binary64.ofRat n) := by
  have parsed : Text.parseSigned (-n) n (toString n) = some (n : Int) := by
    rw [Text.parseSigned_digits (Text.toString_digits n) (Text.toString_ne_nil n), Text.digitsValue_toString]
    simp
  obtain ⟨read, trimmed⟩ := Binary64.parse_signed parsed
  rcases spells with rfl | rfl
  · simp [jsNumber, asF64]
  · rw [jsNumber, trimmed, read]
    simp

/-- The first of the spellings that the row has. -/
theorem firstTruthy_spells {raw value : Value} {n : Nat} {name : String} {rest : List String}
    (found : raw.get name = some value) (spells : Spells value n) (positive : 0 < n) :
    firstTruthy raw (name :: rest) = some value := by
  simp [firstTruthy, found, jsTruthy_spells spells positive]

theorem firstTruthy_missing {raw : Value} {name : String} {rest : List String} (missing : raw.get name = none) :
    firstTruthy raw (name :: rest) = firstTruthy raw rest := by
  simp [firstTruthy, missing]

theorem numberValue_natural {n : Nat} (positive : 0 < n) (bound : n < 2 ^ 63) :
    ∃ id : Nat, 0 < id ∧ id < 2 ^ 63 ∧ numberValue (Binary64.ofRat n) = .integer id := by
  obtain ⟨m, above, below, rounded⟩ := Binary64.ofRat_natural positive bound
  have range : Int.fract (m : ℚ) = 0 ∧ (i64Min : ℚ) ≤ m ∧ (m : ℚ) ≤ 2 ^ 63 := by
    refine ⟨Int.fract_intCast m, ?_, by exact_mod_cast below⟩
    have least : i64Min ≤ m := by
      unfold i64Min
      omega
    exact_mod_cast least
  refine ⟨(min i64Max m).toNat, ?_, ?_, ?_⟩
  · unfold i64Max
    omega
  · unfold i64Max
    omega
  · rw [rounded, numberValue, if_pos range]
    simp only [Binary64.saturate, Int.floor_intCast, Int.ceil_intCast, ite_self]
    congr 1
    unfold i64Min i64Max
    omega

end PaladinsCat.Normalizer
