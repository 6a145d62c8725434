import PaladinsCat.JsValues

/-!
The flat rows of getmatchdetailsbatch (normalizer.rs). Each row is one player of one match; the
rows are put into groups by the text of their match id, and each group becomes a match. The id
of the match is then read once more from its first row, as a number and with the other spelling
of the field first. When both readings agree on all rows, the rows are partitioned by match.
-/

namespace PaladinsCat.Normalizer

open Hirez (Value)
open Resolver (MatchDetails)

/-! ### normalize_match_player -/

def normalizeRegion (raw : String) : String :=
  match raw with
  | "North America" => "NA"
  | "Europe" => "EU"
  | "Brazil" => "BR"
  | "Australia" => "OCE"
  | "Southeast Asia" => "SEA"
  | "Japan" => "JPN"
  | "Russia" => "RUS"
  | _ => if ["NA", "EU", "BR", "OCE", "SEA", "JPN", "RUS", "SA"].contains raw then raw else "Unknown"

def rawField (raw : Value) (name : String) (keys : List String) (default : Value := zero) : String × Value :=
  (name, (firstTruthy raw keys).getD default)

def numberField (raw : Value) (name : String) (keys : List String) : String × Value :=
  (name, (firstNumber raw keys).getD zero)

def fieldText (raw : Value) (keys : List String) : String := ((firstTruthy raw keys).map jsString).getD ""

def numbered (name : String) (index : Nat) : String := name ++ toString index

def normalizeDirectMergedPlayers (raw : Option Value) : Value :=
  match raw with
  | some (.array values) => .array (values.map fun value => .object [
      ("player_id", .integer ((firstU64 value ["playerId"]).getD 0)),
      ("portal_id", (((firstU64 value ["portalId"]).filter (0 < ·)).map fun id => .integer id).getD .null),
      ("merge_datetime", .string (fieldText value ["merge_datetime"]))])
  | _ => .null

def goldPerMinute (raw : Value) : Binary64 :=
  let timeInMatch := (firstF64 raw ["Time_In_Match_Seconds", "Time_In_Match", "time_in_match"]).getD (.finite 0)
  let gold := (firstF64 raw ["Gold_Earned", "gold_earned"]).getD (.finite 0)
  if timeInMatch.above 0 then roundTo2 (gold.div (Binary64.lift (· / 60) timeInMatch)) else .finite 0

def rowSource (raw : Value) : String :=
  (((firstTruthy raw ["source"]).map fun value => Text.toAsciiLowercase (jsString value)).filter fun source =>
    ["direct", "recovered", "minimal"].contains source).getD "direct"

def rowHasRetMsg (raw : Value) : Bool :=
  (((raw.get "ret_msg").filter fun value => !value.isNull).map jsString).any fun text => Text.trim text != ""

def activeFields (raw : Value) (index : Nat) : List (String × Value) :=
  [rawField raw (numbered "active_id_" index) [numbered "ActiveId" index, numbered "active_id_" index],
    rawField raw (numbered "active_level_" index) [numbered "ActiveLevel" index, numbered "active_level_" index],
    rawField raw (numbered "item_active_" index) [numbered "Item_Active_" index, numbered "item_active_" index]
      emptyString]

def itemFields (raw : Value) (index : Nat) : List (String × Value) :=
  [rawField raw (numbered "item_id_" index) [numbered "ItemId" index, numbered "item_id_" index],
    rawField raw (numbered "item_level_" index) [numbered "ItemLevel" index, numbered "item_level_" index],
    rawField raw (numbered "item_purch_" index) [numbered "Item_Purch_" index, numbered "item_purch_" index]
      emptyString]

def normalizeMatchPlayer (raw : Value) : Value :=
  .object <|
    [numberField raw "player_id" ["playerId", "PlayerId", "player_id"],
      rawField raw "player_name" ["playerName", "Player_Name", "player_name"] (.string "PRIVATEACCOUNT"),
      rawField raw "match_id" ["Match", "match_id"],
      rawField raw "entry_datetime" ["Entry_Datetime", "entry_datetime"] emptyString,
      rawField raw "queue_id" ["match_queue_id", "Match_Queue_Id"],
      ("region", .string (normalizeRegion (fieldText raw ["Region", "region"]))),
      rawField raw "champion_id" ["ChampionId", "champion_id"],
      rawField raw "champion_name" ["Champion", "ChampionName", "champion_name"] emptyString,
      rawField raw "skin_id" ["SkinId", "skin_id"],
      rawField raw "skin_name" ["Skin", "skin_name"] emptyString,
      rawField raw "kills" ["Kills_Player", "kills"],
      rawField raw "deaths" ["Deaths", "deaths"],
      rawField raw "assists" ["Assists", "assists"],
      rawField raw "damage_done_in_hand" ["Damage_Done_In_Hand", "damage_done_in_hand"],
      rawField raw "damage_done_physical" ["Damage_Player", "damage_done_physical", "Damage_Done_Physical"],
      rawField raw "damage_done_magical" ["Damage_Done_Magical", "damage_done_magical"],
      rawField raw "damage_taken" ["Damage_Taken", "damage_taken"],
      rawField raw "damage_mitigated" ["Damage_Mitigated", "damage_mitigated"],
      rawField raw "healing" ["Healing", "healing"],
      rawField raw "healing_self" ["Healing_Player_Self", "healing_self"],
      rawField raw "gold_earned" ["Gold_Earned", "gold_earned"],
      ("gold_per_minute", numberValue (goldPerMinute raw)),
      rawField raw "objective_assists" ["Objective_Assists", "objective_assists"],
      rawField raw "killing_spree" ["Killing_Spree", "killing_spree"],
      rawField raw "multi_kill_max" ["Multi_kill_Max", "multi_kill_max"],
      rawField raw "win_status" ["Win_Status", "win_status"] emptyString,
      rawField raw "task_force" ["TaskForce", "task_force"],
      numberField raw "league_tier" ["League_Tier", "league_tier"],
      numberField raw "league_points" ["League_Points", "league_points"],
      numberField raw "account_level" ["Account_Level", "account_level"],
      numberField raw "mastery_level" ["Mastery_Level", "mastery_level"],
      numberField raw "party_id" ["PartyId", "party_id"],
      rawField raw "time_in_match" ["Time_In_Match_Seconds", "time_in_match"],
      rawField raw "distance_traveled" ["Distance_Traveled", "distance_traveled"],
      rawField raw "structure_damage" ["Structure_Damage", "structure_damage"],
      rawField raw "camps_cleared" ["Camps_Cleared", "camps_cleared"],
      ("source", .string (rowSource raw)),
      numberField raw "portal_id" ["playerPortalId"],
      rawField raw "portal_user_id" ["playerPortalUserId"] emptyString,
      rawField raw "kills_player" ["Kills_Player", "kills_player"],
      rawField raw "healing_player_self" ["Healing_Player_Self", "healing_player_self"],
      rawField raw "damage_taken_physical" ["Damage_Taken_Physical", "damage_taken_physical"],
      rawField raw "damage_taken_magical" ["Damage_Taken_Magical", "damage_taken_magical"],
      numberField raw "kills_fire_giant" ["Kills_Fire_Giant", "kills_fire_giant"],
      numberField raw "kills_gold_fury" ["Kills_Gold_Fury", "kills_gold_fury"],
      numberField raw "kills_phoenix" ["Kills_Phoenix", "kills_phoenix"],
      numberField raw "kills_siege_jugg" ["Kills_Siege_Juggernaut", "kills_siege_jugg"],
      numberField raw "kills_wild_jugg" ["Kills_Wild_Juggernaut", "kills_wild_jugg"],
      numberField raw "kills_bot" ["Kills_Bot", "kills_bot"],
      numberField raw "kills_single" ["Kills_Single", "kills_single"],
      numberField raw "kills_double" ["Kills_Double", "kills_double"],
      numberField raw "kills_triple" ["Kills_Triple", "kills_triple"],
      numberField raw "kills_quadra" ["Kills_Quadra", "kills_quadra"],
      numberField raw "kills_penta" ["Kills_Penta", "kills_penta"],
      numberField raw "kills_first_blood" ["Kills_First_Blood", "kills_first_blood"],
      numberField raw "towers_destroyed" ["Towers_Destroyed", "towers_destroyed"],
      numberField raw "league_wins" ["League_Wins", "league_wins"],
      numberField raw "league_losses" ["League_Losses", "league_losses"],
      rawField raw "wards_placed" ["Wards_Placed", "wards_placed"],
      rawField raw "healing_bot" ["Healing_Bot", "healing_bot"],
      rawField raw "damage_bot" ["Damage_Bot", "damage_bot"],
      rawField raw "platform" ["Platform", "platform"] emptyString,
      rawField raw "surrendered" ["Surrendered", "surrendered"],
      numberField raw "team_id" ["TeamId", "team_id"],
      rawField raw "team_name" ["Team_Name", "team_name"] emptyString,
      numberField raw "rank_stat_league" ["Rank_Stat_League", "rank_stat_league"],
      numberField raw "final_match_level" ["Final_Match_Level", "final_match_level"],
      numberField raw "match_duration" ["Match_Duration", "match_duration"]] ++
    [1, 2, 3, 4].flatMap (activeFields raw) ++
    [1, 2, 3, 4, 5, 6].flatMap (itemFields raw) ++
    [1, 2, 3, 4, 5, 6, 7, 8].map (fun index =>
      numberField raw (numbered "ban_id_" index) [numbered "BanId" index, numbered "ban_id_" index]) ++
    [("merged_players", normalizeDirectMergedPlayers (raw.get "MergedPlayers")),
      ("has_ret_msg", .bool (rowHasRetMsg raw))]

/-! ### normalize_match_details -/

def team1ScoreKeys : List String := ["Team1Score", "Team1_Score", "team1_score"]
def team2ScoreKeys : List String := ["Team2Score", "Team2_Score", "team2_score"]
def winnerKeys : List String := ["Winning_TaskForce", "Winning_Task_Force", "winning_task_force"]

def observation (row : Value) : Value :=
  .object [("team1", rowNullableNumber row team1ScoreKeys), ("team2", rowNullableNumber row team2ScoreKeys),
    ("winner", rowNullableNumber row winnerKeys)]

def rowsRegion (rows : List Value) : String :=
  (rows.findSome? fun row => ((firstTruthy row ["Region", "region"]).map jsString).filter (· ≠ "")).getD ""

/-- The id that is read from the first row of a group. -/
def headId (row : Value) : Nat := (firstU64 row ["Match", "match_id"]).getD 0

def normalizeMatchDetails : List Value → Option MatchDetails
  | [] => none
  | first :: rest => some {
      matchId := headId first
      entryDatetime := fieldText first ["Entry_Datetime", "entry_datetime", "Match_Time", "match_time"]
      map := fieldText first ["Map_Game", "map"]
      queueId := firstU32 first ["match_queue_id", "Match_Queue_Id", "queue_id", "Queue"]
      durationSeconds := firstU32 first ["Match_Duration", "duration_seconds"]
      minutes := firstU32 first ["Minutes", "minutes"]
      region := normalizeRegion (rowsRegion (first :: rest))
      team1Score := matchNumber first team1ScoreKeys
      team2Score := matchNumber first team2ScoreKeys
      winningTaskForce := matchNumber first winnerKeys
      directScoreObservations := some ((first :: rest).map observation)
      hasReplay := some (((firstTruthy first ["hasReplay", "Has_Replay"]).map fun value =>
        Text.eqIgnoreAsciiCase (jsString value) "y").getD false)
      players := (first :: rest).map normalizeMatchPlayer }

/-! ### normalize_flat_match_detail_rows -/

/-- The text by which a row finds its group. -/
def groupText (row : Value) : String := (((row.get "match_id").or (row.get "Match")).map jsString).getD ""

/-- The groups with their texts, in the order of `groups`. -/
def addRow (groups : List (String × List Value)) (row : Value) : List (String × List Value) :=
  if groupText row = "" then groups
  else if groups.any fun group => group.1 == groupText row then
    groups.map fun group => if group.1 == groupText row then (group.1, group.2 ++ [row]) else group
  else groups ++ [(groupText row, [row])]

def rowGroups (data : List Value) : List (List Value) := (data.foldl addRow []).map (·.2)

def normalizeFlatMatchDetailRows (data : List Value) : List MatchDetails :=
  (rowGroups data).filterMap normalizeMatchDetails

end PaladinsCat.Normalizer
