import PaladinsCat.CompleteRosters
import PaladinsCat.RelayPayload
import PaladinsCat.Selection

/-!
The statements of `finalize` that update the rows they meet (match_facts.rs): what
`persist_player_facts` and the functions it calls propose to each INSERT .. ON CONFLICT
DO UPDATE. PostgreSQL refuses such a statement if two of the rows have one conflict key.
-/

namespace PaladinsCat.Backend

open Hirez (Value)
open Selection (selected crossJoin Readable Reads)

/-! ### The players of a payload -/

def privateSortKey (player : Value) : String :=
  String.intercalate ":"
    ((["task_force", "party_id", "champion_id", "account_level", "mastery_level", "league_tier",
        "league_points"].map fun name => toString (playerI64 player name)) ++
      [playerText player "portal_user_id", toString (playerI64 player "kills"), toString (playerI64 player "deaths"),
        toString (playerI64 player "assists"), playerText player "source"])

/-- The indices of the private players, in the order of their sort keys. -/
def privateOrder (players : List Value) : List Nat :=
  (((players.zipIdx.filter fun entry => isPrivatePlayer entry.1).map fun entry =>
    (privateSortKey entry.1, entry.2)).insertionSort fun left right => left.1 ≤ right.1).map Prod.snd

def assignPrivateSlots (players : List Value) : List Value :=
  players.mapIdx fun index player =>
    match (privateOrder players).idxOf? index with
    | some slot => player.insert "_private_slot" (.integer (slot + 1))
    | none => player

def RelayPayload.normalizedPlayers (payload : RelayPayload) : Except MatchFactError (List Value) :=
  let players := assignPrivateSlots payload.players
  match rosterError { payload with players := players } with
  | some message => .error (.invalidPayload message)
  | none => .ok players

/-! ### The columns of a player -/

/-- What PostgreSQL makes of JSON values and of texts: the text of a value that is neither a
text nor an integer, and the cast of a text to the integer type of so many bits. -/
structure Postgres where
  document : Value → String
  integer : Nat → String → Option Int
  integer_natural : ∀ (bits n : Nat), integer bits (toString n) = if n < 2 ^ (bits - 1) then some (n : Int) else none

def smallint (n : Int) : Option Int := if -2 ^ 15 ≤ n ∧ n < 2 ^ 15 then some n else none

namespace Postgres

variable (pg : Postgres)

/-- `p->>name` -/
def field (player : Value) (name : String) : Option String :=
  (player.get name).bind fun value =>
    match value with
    | .null => none
    | .bool flag => some (if flag then "true" else "false")
    | .string text => some text
    | .integer number => some (toString number)
    | other => some (pg.document other)

/-- `NULLIF(p->>name,'')` -/
def text (player : Value) (name : String) : Option String :=
  (pg.field player name).filter fun text => decide (text ≠ "")

/-- `NULLIF(p->>name,'')` as an integer; `none` where the cast fails. -/
def nullableNumber (bits : Nat) (player : Value) (name : String) : Option (Option Int) :=
  match pg.text player name with
  | none => some none
  | some text => (pg.integer bits text).map some

/-- `COALESCE(NULLIF(p->>name,'')::type,0)` -/
def number (bits : Nat) (player : Value) (name : String) : Option Int :=
  (pg.nullableNumber bits player name).map fun value => value.getD 0

/-- The casts of the columns that are no part of the key. -/
def casts (bits : Nat) (player : Value) (names : List String) : Option Unit :=
  if names.all fun name => (pg.number bits player name).isSome then some () else none

/-! ### ensure_fact_references -/

def championRow (player : Value) : Option (Option (Int × String)) := do
  let id ← pg.number 32 player "champion_id"
  if 0 < id then
    return some (id, (pg.text player "champion_name").getD ("Champion " ++ (pg.field player "champion_id").getD ""))
  else return none

def itemRow (source : Value × Nat) : Option (Option (Int × String)) := do
  let id ← pg.number 32 source.1 ("active_id_" ++ toString source.2)
  if 0 < id then
    return some (id, (pg.text source.1 ("item_active_" ++ toString source.2)).getD ("Item " ++ toString id))
  else return none

def talentRow (player : Value) : Option (Option (Int × String × Option Int)) := do
  let id ← pg.number 32 player "item_id_6"
  if 0 < id then
    let champion ← pg.nullableNumber 32 player "champion_id"
    return some (id, (pg.text player "item_purch_6").getD ("Talent " ++ (pg.field player "item_id_6").getD ""),
      champion)
  else return none

/-! ### persist_player_facts -/

/-- The casts of the tier and its points, made for a ranked match only. -/
def tierCasts (population : MatchPopulation) (player : Value) : Option Unit :=
  if population = .ranked then
    (pg.number 32 player "league_tier").bind fun tier =>
      if 1 ≤ tier ∧ tier ≤ 26 then pg.casts 32 player ["league_points"] else some ()
  else some ()

def playerRow (population : MatchPopulation) (player : Value) : Option (Option Int) := do
  let id ← pg.number 64 player "player_id"
  if 0 < id then
    pg.casts 32 player ["account_level", "mastery_level"]
    pg.casts 16 player ["portal_id"]
    pg.tierCasts population player
    return some id
  else return none

/-- The player and the private slot, which with the match and its time are the key. -/
def matchPlayerRow (player : Value) : Option (Option (Int × Int)) := do
  let id ← pg.number 64 player "player_id"
  let slot ← pg.number 16 player "_private_slot"
  pg.casts 32 player ["champion_id", "skin_id", "kills", "deaths", "assists", "damage_done_in_hand",
    "damage_done_physical", "damage_done_magical", "damage_taken", "damage_taken_physical", "damage_taken_magical",
    "damage_mitigated", "healing", "healing_self", "healing_bot", "healing_player_self", "gold_earned",
    "objective_assists", "camps_cleared", "structure_damage", "wards_placed", "towers_destroyed", "distance_traveled",
    "multi_kill_max", "killing_spree", "kills_double", "kills_triple", "kills_quadra", "kills_penta",
    "kills_fire_giant", "kills_gold_fury", "kills_phoenix", "kills_siege_jugg", "kills_wild_jugg", "league_tier",
    "league_points", "league_wins", "league_losses", "account_level", "mastery_level", "party_id", "time_in_match",
    "kills_player", "damage_bot", "kills_single", "kills_bot", "final_match_level", "rank_stat_league", "team_id"]
  pg.casts 16 player ["task_force", "portal_id"]
  return some (id, slot)

/-! ### persist_nonranked_equipment -/

/-- `ordinality::SMALLINT` -/
def rosterSlot (index : Nat) : Option Int := smallint (index + 1)

def itemLevel (player : Value) (name : String) : Option Int := do
  let level ← pg.number 32 player name
  if 2 < level then smallint (level / 4) else pg.number 16 player name

def nonrankedItemRow (source : (Value × Nat) × Nat) : Option (Option (Int × Int)) := do
  let id ← pg.number 32 source.1.1 ("active_id_" ++ toString source.2)
  if 0 < id then
    let roster ← rosterSlot source.1.2
    pg.casts 64 source.1.1 ["player_id"]
    let _ ← pg.itemLevel source.1.1 ("active_level_" ++ toString source.2)
    return some (roster, id)
  else return none

def nonrankedTalentRow (source : Value × Nat) : Option (Option (Int × Int)) := do
  let champion ← pg.number 32 source.1 "champion_id"
  if 0 < champion then
    let talent ← pg.number 32 source.1 "item_id_6"
    if 0 < talent then
      let roster ← rosterSlot source.2
      pg.casts 64 source.1 ["player_id"]
      return some (roster, talent)
    else return none
  else return none

def nonrankedCardRow (source : (Value × Nat) × Nat) : Option (Option (Int × Int)) := do
  let champion ← pg.number 32 source.1.1 "champion_id"
  if 0 < champion then
    let card ← pg.number 32 source.1.1 ("item_id_" ++ toString source.2)
    if 0 < card then
      let roster ← rosterSlot source.1.2
      pg.casts 64 source.1.1 ["player_id"]
      pg.casts 32 source.1.1 ["item_id_6"]
      pg.casts 16 source.1.1 ["item_level_" ++ toString source.2]
      return some (roster, card)
    else return none
  else return none

end Postgres

/-! ### The statements -/

inductive FactStatement where
  | champions
  | items
  | talents
  | players
  | matchPlayers
  | nonrankedMatchItems
  | nonrankedMatchTalents
  | nonrankedMatchCards
  deriving DecidableEq

/-- The statements that are executed for a match of a population. The writer of the other
players refuses an unclassified match. -/
def factStatements : MatchPopulation → List FactStatement
  | .ranked => [.champions, .items, .talents, .players, .matchPlayers]
  | .casual | .special =>
      [.champions, .items, .talents, .players, .nonrankedMatchItems, .nonrankedMatchTalents, .nonrankedMatchCards]
  | .unknown => [.champions, .items, .talents, .players]

/-- The conflict keys of the rows proposed, without the columns that are the same in all of
them; `none` where the statement is refused for a cast. -/
def FactStatement.keys (pg : Postgres) (population : MatchPopulation) (players : List Value) :
    FactStatement → Option (List (List Int))
  | .champions => (selected pg.championRow players).map fun rows => rows.dedup.map fun row => [row.1]
  | .items =>
      (selected pg.itemRow (crossJoin players [1, 2, 3, 4])).map fun rows => rows.dedup.map fun row => [row.1]
  | .talents => (selected pg.talentRow players).map fun rows => rows.dedup.map fun row => [row.1]
  | .players => (selected (pg.playerRow population) players).map (List.map fun id => [id])
  | .matchPlayers => (selected pg.matchPlayerRow players).map (List.map fun row => [row.1, row.2])
  | .nonrankedMatchItems =>
      (selected pg.nonrankedItemRow (crossJoin players.zipIdx [1, 2, 3, 4])).map (List.map fun row => [row.1, row.2])
  | .nonrankedMatchTalents =>
      (selected pg.nonrankedTalentRow players.zipIdx).map (List.map fun row => [row.1, row.2])
  | .nonrankedMatchCards =>
      (selected pg.nonrankedCardRow (crossJoin players.zipIdx [1, 2, 3, 4, 5])).map
        (List.map fun row => [row.1, row.2])

/-- No two rows proposed have one key. -/
def FactStatement.Distinct (pg : Postgres) (population : MatchPopulation) (players : List Value)
    (statement : FactStatement) : Prop :=
  ∀ keys, statement.keys pg population players = some keys → keys.Nodup

/-! ### What makes keys collide -/

/-- A column that can be cast. -/
def Postgres.value (pg : Postgres) (bits : Nat) (player : Value) (name : String) : Int :=
  (pg.number bits player name).getD 0

def Postgres.championName (pg : Postgres) (player : Value) : String :=
  (pg.text player "champion_name").getD ("Champion " ++ (pg.field player "champion_id").getD "")

def Postgres.itemName (pg : Postgres) (player : Value) (slot : Nat) : String :=
  (pg.text player ("item_active_" ++ toString slot)).getD
    ("Item " ++ toString (pg.value 32 player ("active_id_" ++ toString slot)))

def Postgres.talentName (pg : Postgres) (player : Value) : String :=
  (pg.text player "item_purch_6").getD ("Talent " ++ (pg.field player "item_id_6").getD "")

def Postgres.talentChampion (pg : Postgres) (player : Value) : Option Int :=
  (pg.nullableNumber 32 player "champion_id").join

/-- What the players have to be like, each part wherever the statement can be evaluated: an
id of a champion, of an item or of a talent comes with one name, and the talent with one
champion; no player id comes twice; no two rows of a ranked match, unless both are private,
have the same player id and slot; no row of another match has an item or a card twice. -/
structure Collisionless (pg : Postgres) (population : MatchPopulation) (players : List Value) : Prop where
  champions : Readable pg.championRow players → ∀ left ∈ players, ∀ right ∈ players,
    0 < pg.value 32 left "champion_id" → pg.value 32 left "champion_id" = pg.value 32 right "champion_id" →
      pg.championName left = pg.championName right
  items : Readable pg.itemRow (crossJoin players [1, 2, 3, 4]) →
    ∀ left ∈ crossJoin players [1, 2, 3, 4], ∀ right ∈ crossJoin players [1, 2, 3, 4],
      0 < pg.value 32 left.1 ("active_id_" ++ toString left.2) →
        pg.value 32 left.1 ("active_id_" ++ toString left.2) =
          pg.value 32 right.1 ("active_id_" ++ toString right.2) →
        pg.itemName left.1 left.2 = pg.itemName right.1 right.2
  talents : Readable pg.talentRow players → ∀ left ∈ players, ∀ right ∈ players,
    0 < pg.value 32 left "item_id_6" → pg.value 32 left "item_id_6" = pg.value 32 right "item_id_6" →
      pg.talentName left = pg.talentName right ∧ pg.talentChampion left = pg.talentChampion right
  playerIds : Readable (pg.playerRow population) players → players.Pairwise fun left right =>
    0 < pg.value 64 left "player_id" → pg.value 64 left "player_id" ≠ pg.value 64 right "player_id"
  rankedRows : population = .ranked → Readable pg.matchPlayerRow players → players.Pairwise fun left right =>
    (isPrivatePlayer left && isPrivatePlayer right) = false →
      pg.value 64 left "player_id" = pg.value 64 right "player_id" →
        pg.value 16 left "_private_slot" ≠ pg.value 16 right "_private_slot"
  equippedItems : population = .casual ∨ population = .special →
    Readable pg.nonrankedItemRow (crossJoin players.zipIdx [1, 2, 3, 4]) →
      ∀ player ∈ players, [1, 2, 3, 4].Pairwise fun one two =>
        0 < pg.value 32 player ("active_id_" ++ toString one) →
          pg.value 32 player ("active_id_" ++ toString one) ≠ pg.value 32 player ("active_id_" ++ toString two)
  equippedCards : population = .casual ∨ population = .special →
    Readable pg.nonrankedCardRow (crossJoin players.zipIdx [1, 2, 3, 4, 5]) →
      ∀ player ∈ players, 0 < pg.value 32 player "champion_id" → [1, 2, 3, 4, 5].Pairwise fun one two =>
        0 < pg.value 32 player ("item_id_" ++ toString one) →
          pg.value 32 player ("item_id_" ++ toString one) ≠ pg.value 32 player ("item_id_" ++ toString two)

/-! ### What the statements read -/

section
variable (pg : Postgres)

theorem number_value {bits : Nat} {player : Value} {name : String} {id : Int}
    (read : pg.number bits player name = some id) : pg.value bits player name = id := by
  rw [Postgres.value, read]
  rfl

/-- A reading that succeeds is looked at from its result. -/
theorem reads_of_some {α ρ : Type} {row : α → Option (Option ρ)} {keeps : α → Bool} {content : α → ρ}
    (result : ∀ source kept, row source = some kept → kept = if keeps source then some (content source) else none) :
    Reads row keeps content := by
  intro source readable
  obtain ⟨kept, read⟩ := Option.ne_none_iff_exists'.mp readable
  rw [read, ← result source kept read]

/-- A row whose id is positive is read on, and one whose id is not is dropped. -/
theorem positive_read {bits : Nat} {player : Value} {name : String} {ρ : Type} {rest : Int → Option (Option ρ)}
    {kept : Option ρ}
    (row : (pg.number bits player name >>= fun id => if 0 < id then rest id else pure none) = some kept) :
    (0 < pg.value bits player name ∧ rest (pg.value bits player name) = some kept) ∨
      (¬ 0 < pg.value bits player name ∧ kept = none) := by
  obtain ⟨id, read, others⟩ := Option.bind_eq_some_iff.mp row
  rw [number_value pg read]
  by_cases positive : 0 < id
  · rw [if_pos positive] at others
    exact .inl ⟨positive, others⟩
  · rw [if_neg positive] at others
    exact .inr ⟨positive, (Option.some.inj others).symm⟩

theorem championRow_reads : Reads pg.championRow (fun player => decide (0 < pg.value 32 player "champion_id"))
    fun player => (pg.value 32 player "champion_id", pg.championName player) := by
  apply reads_of_some
  intro player kept row
  rcases positive_read pg row with ⟨positive, rest⟩ | ⟨absent, rfl⟩
  · simpa [positive, Postgres.championName, eq_comm] using rest
  · simp [absent]

theorem itemRow_reads :
    Reads pg.itemRow (fun source => decide (0 < pg.value 32 source.1 ("active_id_" ++ toString source.2)))
      fun source => (pg.value 32 source.1 ("active_id_" ++ toString source.2), pg.itemName source.1 source.2) := by
  apply reads_of_some
  intro source kept row
  rcases positive_read pg row with ⟨positive, rest⟩ | ⟨absent, rfl⟩
  · rw [decide_eq_true positive, if_pos rfl, Postgres.itemName]
    exact (Option.some.inj rest).symm
  · rw [decide_eq_false absent]
    rfl

theorem talentRow_reads : Reads pg.talentRow (fun player => decide (0 < pg.value 32 player "item_id_6"))
    fun player => (pg.value 32 player "item_id_6", pg.talentName player, pg.talentChampion player) := by
  apply reads_of_some
  intro player kept row
  rcases positive_read pg row with ⟨positive, rest⟩ | ⟨absent, rfl⟩
  · obtain ⟨champion, owner, rest⟩ := Option.bind_eq_some_iff.mp rest
    simpa [positive, Postgres.talentName, Postgres.talentChampion, owner, eq_comm] using rest
  · simp [absent]

theorem playerRow_reads (population : MatchPopulation) :
    Reads (pg.playerRow population) (fun player => decide (0 < pg.value 64 player "player_id"))
      fun player => pg.value 64 player "player_id" := by
  apply reads_of_some
  intro player kept row
  rcases positive_read pg row with ⟨positive, rest⟩ | ⟨absent, rfl⟩
  · obtain ⟨_, _, rest⟩ := Option.bind_eq_some_iff.mp rest
    obtain ⟨_, _, rest⟩ := Option.bind_eq_some_iff.mp rest
    obtain ⟨_, _, rest⟩ := Option.bind_eq_some_iff.mp rest
    simpa [positive, eq_comm] using rest
  · simp [absent]

theorem matchPlayerRow_reads : Reads pg.matchPlayerRow (fun _ => true)
    fun player => (pg.value 64 player "player_id", pg.value 16 player "_private_slot") := by
  apply reads_of_some
  intro player kept row
  obtain ⟨id, read, rest⟩ := Option.bind_eq_some_iff.mp row
  obtain ⟨slot, numbered, rest⟩ := Option.bind_eq_some_iff.mp rest
  obtain ⟨_, _, rest⟩ := Option.bind_eq_some_iff.mp rest
  obtain ⟨_, _, rest⟩ := Option.bind_eq_some_iff.mp rest
  rw [number_value pg read, number_value pg numbered]
  simpa [eq_comm] using rest

theorem rosterSlot_eq {index : Nat} {roster : Int} (cast : Postgres.rosterSlot index = some roster) :
    roster = index + 1 := by
  unfold Postgres.rosterSlot smallint at cast
  split at cast <;> simp_all

theorem nonrankedItemRow_reads :
    Reads pg.nonrankedItemRow
      (fun source => true && decide (0 < pg.value 32 source.1.1 ("active_id_" ++ toString source.2)))
      fun source => (source.1.2 + 1, pg.value 32 source.1.1 ("active_id_" ++ toString source.2)) := by
  apply reads_of_some
  intro source kept row
  rcases positive_read pg row with ⟨positive, rest⟩ | ⟨absent, rfl⟩
  · obtain ⟨roster, numbered, rest⟩ := Option.bind_eq_some_iff.mp rest
    obtain ⟨_, _, rest⟩ := Option.bind_eq_some_iff.mp rest
    obtain ⟨_, _, rest⟩ := Option.bind_eq_some_iff.mp rest
    rw [Bool.true_and, decide_eq_true positive, if_pos rfl, ← rosterSlot_eq numbered]
    exact (Option.some.inj rest).symm
  · rw [Bool.true_and, decide_eq_false absent]
    rfl

theorem nonrankedTalentRow_reads :
    Reads pg.nonrankedTalentRow
      (fun source => decide (0 < pg.value 32 source.1 "champion_id") && decide (0 < pg.value 32 source.1 "item_id_6"))
      fun source => (source.2 + 1, pg.value 32 source.1 "item_id_6") := by
  apply reads_of_some
  intro source kept row
  rcases positive_read pg row with ⟨known, rest⟩ | ⟨absent, rfl⟩
  · rcases positive_read pg rest with ⟨positive, rest⟩ | ⟨absent, rfl⟩
    · obtain ⟨roster, numbered, rest⟩ := Option.bind_eq_some_iff.mp rest
      obtain ⟨_, _, rest⟩ := Option.bind_eq_some_iff.mp rest
      rw [← rosterSlot_eq numbered]
      simpa [known, positive, eq_comm] using rest
    · simp [absent]
  · simp [absent]

theorem nonrankedCardRow_reads :
    Reads pg.nonrankedCardRow
      (fun source => decide (0 < pg.value 32 source.1.1 "champion_id") &&
        decide (0 < pg.value 32 source.1.1 ("item_id_" ++ toString source.2)))
      fun source => (source.1.2 + 1, pg.value 32 source.1.1 ("item_id_" ++ toString source.2)) := by
  apply reads_of_some
  intro source kept row
  rcases positive_read pg row with ⟨known, rest⟩ | ⟨absent, rfl⟩
  · rcases positive_read pg rest with ⟨positive, rest⟩ | ⟨absent, rfl⟩
    · obtain ⟨roster, numbered, rest⟩ := Option.bind_eq_some_iff.mp rest
      obtain ⟨_, _, rest⟩ := Option.bind_eq_some_iff.mp rest
      obtain ⟨_, _, rest⟩ := Option.bind_eq_some_iff.mp rest
      obtain ⟨_, _, rest⟩ := Option.bind_eq_some_iff.mp rest
      rw [decide_eq_true known, decide_eq_true positive, Bool.true_and, if_pos rfl, ← rosterSlot_eq numbered]
      exact (Option.some.inj rest).symm
    · rw [decide_eq_true known, decide_eq_false absent]
      rfl
  · rw [decide_eq_false absent]
    rfl

end

/-! ### The slots of the private players -/

theorem get_insert_self {player : Value} (isRow : player.isObject = true) (name : String) (value : Value) :
    (player.insert name value).get name = some value := by
  cases player with
  | object fields =>
      simp only [Value.insert, Value.get]
      induction fields with
      | nil => simp
      | cons field rest ih =>
          by_cases dropped : field.1 = name
          · simpa [List.filter_cons, dropped] using ih rfl
          · have passed : (name == field.1) = false := by simpa using Ne.symm dropped
            rw [List.filter_cons_of_pos (by simpa using dropped), List.cons_append]
            simpa [List.lookup, passed] using ih rfl
  | _ => cases isRow

theorem mem_privateOrder {players : List Value} {index : Nat} (bound : index < players.length)
    (hidden : isPrivatePlayer players[index] = true) : index ∈ privateOrder players := by
  unfold privateOrder
  rw [List.mem_map]
  refine ⟨(privateSortKey players[index], index), ?_, rfl⟩
  rw [List.mem_insertionSort, List.mem_map]
  refine ⟨(players[index], index), ?_, rfl⟩
  rw [List.mem_filter]
  exact ⟨List.mk_mem_zipIdx_iff_getElem?.mpr (List.getElem?_eq_getElem bound), hidden⟩

theorem isPrivatePlayer_slot (player value : Value) :
    isPrivatePlayer (player.insert "_private_slot" value) = isPrivatePlayer player := by
  have fields : ∀ name, name ≠ "_private_slot" → (player.insert "_private_slot" value).get name = player.get name :=
    fun name other => Resolver.get_insert_of_ne other value player
  unfold isPrivatePlayer playerI64 playerText
  rw [fields "player_id" (by decide), fields "player_name" (by decide)]

theorem isPrivatePlayer_assigned {players : List Value} {index : Nat}
    (bound : index < (assignPrivateSlots players).length) (here : index < players.length) :
    isPrivatePlayer (assignPrivateSlots players)[index] = isPrivatePlayer players[index] := by
  simp only [assignPrivateSlots, List.getElem_mapIdx]
  cases (privateOrder players).idxOf? index with
  | some slot => exact isPrivatePlayer_slot _ _
  | none => rfl

/-- A private player has its place in the order as its slot, counted from one. -/
theorem assigned_slot {players : List Value} {index : Nat} (rows : ∀ player ∈ players, player.isObject = true)
    (bound : index < (assignPrivateSlots players).length)
    (hidden : isPrivatePlayer (assignPrivateSlots players)[index] = true) :
    ∃ slot, (privateOrder players).idxOf? index = some slot ∧
      (assignPrivateSlots players)[index].get "_private_slot" = some (.integer (slot + 1)) := by
  have here : index < players.length := by simpa [assignPrivateSlots] using bound
  rw [isPrivatePlayer_assigned bound here] at hidden
  have listed := mem_privateOrder here hidden
  obtain ⟨slot, place⟩ := Option.isSome_iff_exists.mp (List.isSome_idxOf?.mpr listed)
  refine ⟨slot, place, ?_⟩
  simp only [assignPrivateSlots, List.getElem_mapIdx, place]
  exact get_insert_self (rows _ (List.getElem_mem here)) _ _

variable (pg : Postgres)

theorem number_of_text {bits n : Nat} {player : Value} {name : String}
    (text : pg.text player name = some (toString n)) :
    pg.number bits player name = if n < 2 ^ (bits - 1) then some (n : Int) else none := by
  simp only [Postgres.number, Postgres.nullableNumber, text]
  rw [pg.integer_natural]
  split <;> rfl

theorem text_natural {n : Nat} {player : Value} {name : String}
    (content : player.get name = some (.integer n) ∨ player.get name = some (.string (toString n))) :
    pg.text player name = some (toString n) := by
  have field : pg.field player name = some (toString n) := by
    unfold Postgres.field
    rcases content with content | content
    · rw [content]
      rfl
    · rw [content]
      rfl
  rw [Postgres.text, field, Option.filter_some, if_pos (by simp)]

theorem value_natural {bits n : Nat} {player : Value} {name : String} (read : pg.number bits player name ≠ none)
    (content : player.get name = some (.integer n)) : pg.value bits player name = n := by
  have cast := @number_of_text pg bits n player name (text_natural pg (.inl content))
  rw [Postgres.value, cast]
  rw [cast] at read
  split at read
  · rename_i fits
    rw [if_pos fits]
    rfl
  · exact absurd rfl read

/-- Two private players have different slots. -/
theorem private_slots_apart {players : List Value} (rows : ∀ player ∈ players, player.isObject = true)
    (readable : Readable pg.matchPlayerRow (assignPrivateSlots players)) :
    (assignPrivateSlots players).Pairwise fun left right =>
      isPrivatePlayer left = true → isPrivatePlayer right = true →
        pg.value 16 left "_private_slot" ≠ pg.value 16 right "_private_slot" := by
  have numbered : ∀ player ∈ assignPrivateSlots players, pg.number 16 player "_private_slot" ≠ none := by
    intro player member missing
    obtain ⟨kept, row⟩ := Option.ne_none_iff_exists'.mp (readable player member)
    obtain ⟨_, _, rest⟩ := Option.bind_eq_some_iff.mp row
    obtain ⟨_, slot, _⟩ := Option.bind_eq_some_iff.mp rest
    rw [missing] at slot
    cases slot
  rw [List.pairwise_iff_getElem]
  intro first second one two before hiddenFirst hiddenSecond same
  obtain ⟨slot, place, content⟩ := assigned_slot rows one hiddenFirst
  obtain ⟨other, otherPlace, otherContent⟩ := assigned_slot rows two hiddenSecond
  have left : pg.value 16 _ "_private_slot" = ((slot + 1 : Nat) : Int) :=
    value_natural pg (numbered _ (List.getElem_mem one)) content
  have right : pg.value 16 _ "_private_slot" = ((other + 1 : Nat) : Int) :=
    value_natural pg (numbered _ (List.getElem_mem two)) otherContent
  have equal : slot = other := by omega
  obtain ⟨inside, found, _⟩ := List.idxOf?_eq_some_iff.mp place
  obtain ⟨_, foundOther, _⟩ := List.idxOf?_eq_some_iff.mp otherPlace
  subst equal
  omega

/-! ### The collisions -/

section
variable {pg} {population : MatchPopulation} {players : List Value}

/-- A SELECT DISTINCT of positive ids and of other columns. -/
theorem named_ids_iff {α ρ : Type} [DecidableEq ρ] {row : α → Option (Option (Int × ρ))} {id : α → Int}
    {named : α → ρ} {sources : List α}
    (reads : Reads row (fun source => decide (0 < id source)) fun source => (id source, named source)) :
    (∀ keys, (selected row sources).map (fun rows => rows.dedup.map fun row => [row.1]) = some keys → keys.Nodup) ↔
      (Readable row sources → ∀ left ∈ sources, ∀ right ∈ sources, 0 < id left → id left = id right →
        named left = named right) := by
  rw [Selection.distinct_keys_nodup_iff reads fun row => [row.1]]
  simp only [decide_eq_true_eq, List.cons.injEq, and_true, Prod.mk.injEq]
  constructor
  · intro determined readable left one right two positive same
    exact (determined readable left one right two positive (same ▸ positive) same).2
  · intro determined readable left one right two positive _ same
    exact ⟨same, determined readable left one right two positive same⟩

/-- Positive ids in the slots of the players, under the numbers of the players. -/
theorem equipped_ids_iff {row : (Value × Nat) × Nat → Option (Option (Int × Int))} (keeps : Value → Bool)
    (id : Value → Nat → Int) {slots : List Nat}
    (reads : Reads row (fun source => keeps source.1.1 && decide (0 < id source.1.1 source.2))
      fun source => (source.1.2 + 1, id source.1.1 source.2)) :
    (∀ keys, (selected row (crossJoin players.zipIdx slots)).map (List.map fun row => [row.1, row.2]) = some keys →
        keys.Nodup) ↔
      (Readable row (crossJoin players.zipIdx slots) → ∀ player ∈ players, keeps player = true →
        slots.Pairwise fun one two => 0 < id player one → id player one ≠ id player two) := by
  rw [Selection.keys_nodup_iff reads fun row => [row.1, row.2]]
  apply imp_congr_right
  intro readable
  rw [Selection.pairwise_crossJoin_zipIdx]
  · simp only [Bool.and_eq_true, decide_eq_true_eq, ne_eq, List.cons.injEq, and_true, true_and]
    constructor
    · intro apart player member kept
      obtain ⟨index, found⟩ := List.getElem?_of_mem member
      apply (apart (player, index) (List.mk_mem_zipIdx_iff_getElem?.mpr found)).imp
      intro one two separate positive same
      exact separate ⟨kept, positive⟩ ⟨kept, same ▸ positive⟩ same
    · rintro apart ⟨player, index⟩ member
      cases kept : keeps player with
      | false => simp [List.pairwise_of_forall]
      | true =>
          apply (apart player (List.fst_mem_of_mem_zipIdx member) kept).imp
          exact fun separate present _ => separate present.2
  · intro left right one two other _ _ same
    have numbers : ((left.2 : Int) + 1) = right.2 + 1 := (List.cons.inj same).1
    omega

theorem players_distinct_iff : FactStatement.players.Distinct pg population players ↔
    (Readable (pg.playerRow population) players → players.Pairwise fun left right =>
      0 < pg.value 64 left "player_id" → pg.value 64 left "player_id" ≠ pg.value 64 right "player_id") := by
  trans
  · exact Selection.keys_nodup_iff (playerRow_reads pg population) fun id : Int => [id]
  · apply imp_congr_right
    intro readable
    simp only [decide_eq_true_eq, ne_eq, List.cons.injEq, and_true]
    constructor
    · intro apart
      apply apart.imp
      intro left right separate positive same
      exact separate positive (same ▸ positive) same
    · intro apart
      apply apart.imp
      exact fun separate positive _ => separate positive

theorem matchPlayers_distinct_iff {raw : List Value} (rows : ∀ player ∈ raw, player.isObject = true) :
    FactStatement.matchPlayers.Distinct pg population (assignPrivateSlots raw) ↔
      (Readable pg.matchPlayerRow (assignPrivateSlots raw) →
        (assignPrivateSlots raw).Pairwise fun left right =>
          (isPrivatePlayer left && isPrivatePlayer right) = false →
            pg.value 64 left "player_id" = pg.value 64 right "player_id" →
              pg.value 16 left "_private_slot" ≠ pg.value 16 right "_private_slot") := by
  trans
  · exact Selection.keys_nodup_iff (matchPlayerRow_reads pg) fun row : Int × Int => [row.1, row.2]
  · apply imp_congr_right
    intro readable
    simp only [ne_eq, List.cons.injEq, and_true, true_imp_iff, not_and]
    constructor
    · intro apart
      apply apart.imp
      exact fun separate _ => separate
    · intro apart
      apply (apart.and (private_slots_apart pg rows readable)).imp
      rintro left right ⟨separate, hidden⟩ same
      cases both : isPrivatePlayer left && isPrivatePlayer right with
      | false => exact separate both same
      | true =>
          rw [Bool.and_eq_true] at both
          exact hidden both.1 both.2

/-- A player has one talent, so these never collide. -/
theorem nonrankedMatchTalents_distinct : FactStatement.nonrankedMatchTalents.Distinct pg population players := by
  apply (Selection.keys_nodup_iff (nonrankedTalentRow_reads pg) fun row : Int × Int => [row.1, row.2]).mpr
  intro readable
  apply (Selection.pairwise_zipIdx players).imp
  intro left right other _ _ same
  have numbers : ((left.2 : Int) + 1) = right.2 + 1 := (List.cons.inj same).1
  omega

end

/-! ### The statements of a payload -/

theorem validated_objects {payload : RelayPayload} (valid : payload.validate = .ok payload) :
    ∀ player ∈ payload.players, player.isObject = true := by
  have clean : validationError payload = none := by
    cases found : validationError payload with
    | none => rfl
    | some message => simp [RelayPayload.validate, found] at valid
  intro player member
  by_contra other
  have objected : (payload.players.any fun player => !player.isObject) = true := by
    rw [List.any_eq_true]
    exact ⟨player, member, by simpa using other⟩
  rw [validationError, if_pos objected] at clean
  split_ifs at clean

theorem normalizedPlayers_eq {payload : RelayPayload} {players : List Value}
    (accepted : payload.normalizedPlayers = .ok players) : players = assignPrivateSlots payload.players := by
  unfold RelayPayload.normalizedPlayers at accepted
  cases objection : rosterError { payload with players := assignPrivateSlots payload.players } with
  | some message => simp [objection] at accepted
  | none => simpa [objection, eq_comm] using accepted

/-- When a statement is executed. -/
def FactStatement.Applies (population : MatchPopulation) : FactStatement → Prop
  | .champions | .items | .talents | .players => True
  | .matchPlayers => population = .ranked
  | .nonrankedMatchItems | .nonrankedMatchTalents | .nonrankedMatchCards => population = .casual ∨ population = .special

theorem mem_factStatements (statement : FactStatement) (population : MatchPopulation) :
    statement ∈ factStatements population ↔ statement.Applies population := by
  cases statement <;> cases population <;> simp [factStatements, FactStatement.Applies]

/-- For every payload that `validate` and `normalized_players` accept: each statement
proposes distinct keys exactly if the players are collisionless. -/
theorem fact_upserts_distinct_iff (pg : Postgres) (payload : RelayPayload) (population : MatchPopulation)
    (players : List Value) (valid : payload.validate = .ok payload)
    (accepted : payload.normalizedPlayers = .ok players) :
    (∀ statement ∈ factStatements population, statement.Distinct pg population players) ↔
      Collisionless pg population players := by
  have assigned := normalizedPlayers_eq accepted
  have champions : FactStatement.champions.Distinct pg population players ↔ _ := named_ids_iff (championRow_reads pg)
  have items : FactStatement.items.Distinct pg population players ↔ _ := named_ids_iff (itemRow_reads pg)
  have talents : FactStatement.talents.Distinct pg population players ↔ _ := named_ids_iff (talentRow_reads pg)
  have playerIds : FactStatement.players.Distinct pg population players ↔ _ := players_distinct_iff
  have rankedRows : FactStatement.matchPlayers.Distinct pg population players ↔ _ :=
    assigned ▸ matchPlayers_distinct_iff (validated_objects valid)
  have equippedItems : FactStatement.nonrankedMatchItems.Distinct pg population players ↔ _ :=
    equipped_ids_iff (fun _ => true) (fun player slot => pg.value 32 player ("active_id_" ++ toString slot))
      (nonrankedItemRow_reads pg)
  have equippedCards : FactStatement.nonrankedMatchCards.Distinct pg population players ↔ _ :=
    equipped_ids_iff (fun player => decide (0 < pg.value 32 player "champion_id"))
      (fun player slot => pg.value 32 player ("item_id_" ++ toString slot)) (nonrankedCardRow_reads pg)
  simp only [Prod.mk.injEq] at talents
  simp only [true_imp_iff] at equippedItems
  simp only [decide_eq_true_eq] at equippedCards
  simp only [mem_factStatements]
  constructor
  · intro distinct
    exact {
      champions := champions.mp (distinct .champions trivial)
      items := items.mp (distinct .items trivial)
      talents := talents.mp (distinct .talents trivial)
      playerIds := playerIds.mp (distinct .players trivial)
      rankedRows := fun ranked => rankedRows.mp (distinct .matchPlayers ranked)
      equippedItems := fun other => equippedItems.mp (distinct .nonrankedMatchItems other)
      equippedCards := fun other => equippedCards.mp (distinct .nonrankedMatchCards other) }
  · intro apart statement applies
    cases statement with
    | champions => exact champions.mpr apart.champions
    | items => exact items.mpr apart.items
    | talents => exact talents.mpr apart.talents
    | players => exact playerIds.mpr apart.playerIds
    | matchPlayers => exact rankedRows.mpr (apart.rankedRows applies)
    | nonrankedMatchItems => exact equippedItems.mpr (apart.equippedItems applies)
    | nonrankedMatchTalents => exact nonrankedMatchTalents_distinct
    | nonrankedMatchCards => exact equippedCards.mpr (apart.equippedCards applies)

/-! ### Two payloads of ten players -/

/-- A database that reads texts as the decimal integers that they are. -/
def decimalPostgres : Postgres where
  document _ := "{}"
  integer bits text := Text.parseSigned (-2 ^ (bits - 1)) (2 ^ (bits - 1) - 1) (Text.trim text)
  integer_natural bits n := by
    have digits := Text.toString_digits n
    rw [Text.trim_digits digits, Text.parseSigned_digits digits (Text.toString_ne_nil n), Text.digitsValue_toString]
    change (some (n : Int)).filter _ = _
    rw [Option.filter_some]
    have power : ((2 ^ (bits - 1) : Nat) : Int) = 2 ^ (bits - 1) := by push_cast; rfl
    by_cases small : n < 2 ^ (bits - 1)
    · rw [if_pos small, if_pos]
      simp only [Bool.and_eq_true, decide_eq_true_eq]
      omega
    · rw [if_neg small, if_neg]
      simp only [Bool.and_eq_true, decide_eq_true_eq]
      omega

def directMatch (players : List Value) : RelayPayload where
  matchId := 7
  entryDatetime := "2026-01-01T00:00:00Z"
  map := "Ranked Jaguar Falls"
  queueId := 486
  durationSeconds := 900
  region := "EU"
  score := ⟨some 4, some 2, some 1⟩
  hasReplay := none
  recoverySource := none
  recoveryApiCalls := none
  limited := none
  players := players

/-- Ten players of one champion, whose name no row has. -/
theorem unnamed_champions_distinct :
    ∃ players, (directMatch ((List.range 10).map publicRow)).normalizedPlayers = .ok players ∧
      ∀ statement ∈ factStatements .ranked, statement.Distinct decimalPostgres .ranked players := by
  have accepted : (directMatch ((List.range 10).map publicRow)).normalizedPlayers =
      .ok ((List.range 10).map publicRow) := by rfl
  refine ⟨_, accepted, ?_⟩
  apply (fact_upserts_distinct_iff decimalPostgres _ .ranked _ rfl accepted).mpr
  exact {
    champions := fun _ => by decide +kernel
    items := fun _ => by decide +kernel
    talents := fun _ => by decide +kernel
    playerIds := fun _ => by decide +kernel
    rankedRows := fun _ _ => by decide +kernel
    equippedItems := by simp
    equippedCards := by simp }

/-- The same match, with the name of the champion in one row. -/
def namedOnce (index : Nat) : Value :=
  if index = 0 then (publicRow 0).insert "champion_name" (.string "Kinessa") else publicRow index

/-- A champion with a name in one row and without in the others is proposed twice. -/
theorem one_champion_proposed_twice :
    ¬∀ (pg : Postgres) (payload : RelayPayload) (population : MatchPopulation) (players : List Value),
      payload.validate = .ok payload → payload.normalizedPlayers = .ok players →
        ∀ statement ∈ factStatements population, statement.Distinct pg population players := by
  intro distinct
  have accepted : (directMatch ((List.range 10).map namedOnce)).normalizedPlayers =
      .ok ((List.range 10).map namedOnce) := by rfl
  have champions := distinct decimalPostgres _ .ranked _ rfl accepted .champions (by decide)
  have proposed : FactStatement.champions.keys decimalPostgres .ranked ((List.range 10).map namedOnce) =
      some [[2056], [2056]] := by decide +kernel
  exact absurd (champions _ proposed) (by decide)

end PaladinsCat.Backend
