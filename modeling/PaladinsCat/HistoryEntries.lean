import PaladinsCat.ConflictInserts
import PaladinsCat.FactUpserts
import PaladinsCat.HistoryRows
import PaladinsCat.JsonCleaning

/-!
The stored rows of match histories (`player_match_history_entries`). The relay stores what its
normalizer makes of a row, the backend the row as it came. One reader of the relay takes the
stored value as it is; the other normalizes it first if it does not look normalized.
-/

namespace PaladinsCat.HistoryEntries

open Hirez (Value)
open Normalizer
open Backend (Postgres get_insert_self)
open Resolver (playerNumber playerString playerId get_insert_of_ne unsignedNumber)
open Selection (selected)
open ConflictInserts (merge upsert)
open RawBuffer (removeText removeText_plain nulEscape)

/-! ### The table -/

/-- A row with its primary key and the column that the readers of the relay use. -/
structure HistoryEntry where
  matchId : Int
  playerId : Int
  normalizedData : Value

def HistoryEntry.key (entry : HistoryEntry) : Int × Int := (entry.matchId, entry.playerId)

def HistoryEntry.replaced (_old excluded : HistoryEntry) : HistoryEntry := excluded

/-! ### write_history -/

def sanitizeText (text : String) : String :=
  String.ofList (removeText nulEscape 0 (removeText ['\x00'] 0 text.toList))

mutual

def sanitizeJson : Value → Value
  | .string text => .string (sanitizeText text)
  | .array items => .array (sanitizeItems items)
  | .object fields => .object (sanitizeFields fields)
  | other => other

def sanitizeItems : List Value → List Value
  | [] => []
  | item :: rest => sanitizeJson item :: sanitizeItems rest

def sanitizeFields : List (String × Value) → List (String × Value)
  | [] => []
  | (name, value) :: rest => (name, sanitizeJson value) :: sanitizeFields rest

end

def integer (value : Value) (name : String) : Option Int :=
  (value.get name).bind fun field =>
    field.asI64.or <| ((asF64 field).filter Binary64.isFinite |>.map (Binary64.saturate i64Min i64Max)).or <|
      field.asStr.bind (Text.parseSigned i64Min i64Max)

def string (value : Value) (name : String) : Option String :=
  ((value.get name).bind Value.asStr).filter fun text => decide (text ≠ "")

def historyEntry (fetchedPlayerId : Int) (raw normalized : Value) : Option HistoryEntry := do
  let matchId ← (integer normalized "match_id").or (integer raw "Match")
  let playerId := ((integer normalized "player_id").filter (0 < ·)).getD fetchedPlayerId
  if matchId ≤ 0 ∨ playerId ≤ 0 then none
  else
    let map := ((string normalized "map").or ((string raw "Map_Game").or (string raw "Map"))).getD ""
    some ⟨matchId, playerId, normalized.insert "map" (.string map)⟩

def normalizeHistoryForRecovery (raw : Value) : Value :=
  let map := (((raw.get "Map_Game").or ((raw.get "Map").or (raw.get "map"))).bind Value.asStr).getD ""
  (normalizeMatchHistoryPlayer raw).insert "map" (.string map)

/-- The two callers of `write_history` normalize a row each in its own way. -/
def relayNormalized (forRecovery : Bool) (raw : Value) : Value :=
  if forRecovery then normalizeHistoryForRecovery raw else normalizeMatchHistoryPlayer raw

def writtenEntry (fetchedPlayerId : Int) (forRecovery : Bool) (raw : Value) : Option HistoryEntry :=
  (historyEntry fetchedPlayerId raw (relayNormalized forRecovery raw)).map fun entry =>
    { entry with normalizedData := sanitizeJson entry.normalizedData }

/-- One upsert after the other, in one transaction. -/
def writeHistory (fetchedPlayerId : Int) (forRecovery : Bool) (rows : List Value) (table : List HistoryEntry) :
    List HistoryEntry :=
  (rows.filterMap (writtenEntry fetchedPlayerId forRecovery)).foldl
    (merge HistoryEntry.key HistoryEntry.replaced) table

/-! ### persist_match_history -/

section
variable (pg : Postgres) (timestamp : String → Option Int)

/-- `COALESCE(NULLIF(raw->>first,'')::type, …)`: later fields are cast only if earlier ones are missing. -/
def coalesced (bits : Nat) (raw : Value) : List String → Option (Option Int)
  | [] => some none
  | name :: rest =>
      match pg.nullableNumber bits raw name with
      | none => none
      | some none => coalesced bits raw rest
      | some (some number) => some (some number)

/-- `COALESCE(NULLIF(raw->>first,''), …)`. -/
def coalescedText (raw : Value) (names : List String) : Option String := names.findSome? (pg.text raw)

/-- `btrim(COALESCE(value->>'ret_msg',''))=''`. -/
def withoutMessage (raw : Value) : Bool := ((pg.field raw "ret_msg").getD "").toList.all (· == ' ')

def integerColumns : List (Nat × List String) :=
  [(32, ["queue_id", "match_queue_id", "Match_Queue_Id"]), (32, ["champion_id", "ChampionId"]),
    (32, ["skin_id", "SkinId"]), (32, ["kills", "Kills"]), (32, ["deaths", "Deaths"]), (32, ["assists", "Assists"]),
    (32, ["damage", "damage_done_physical", "Damage"]), (32, ["healing", "Healing"]),
    (32, ["gold_earned", "Gold_Earned"]), (32, ["time_in_match", "match_duration", "Time_In_Match_Seconds"]),
    (16, ["task_force", "TaskForce"]), (16, ["league_tier", "League_Tier"])]

/-- A row of the SELECT; the columns apart from the key are cast for rows that are kept. -/
def storedRow (raw : Value) : Option (Option HistoryEntry) :=
  if withoutMessage pg raw then do
    let matchId ← coalesced pg 64 raw ["match_id", "Match"]
    let playerId ← coalesced pg 64 raw ["player_id", "playerId", "playerIdActive"]
    if 0 < matchId.getD 0 ∧ 0 < playerId.getD 0 then
      guard (integerColumns.all fun column => (coalesced pg column.1 raw column.2).isSome)
      guard ((coalescedText pg raw ["entry_datetime", "Match_Time", "Entry_Datetime"]).all fun text =>
        (timestamp text).isSome)
      some (some ⟨matchId.getD 0, playerId.getD 0, raw.insert "source" (.string "match_history")⟩)
    else some none
  else some none

/-- `none` for an error, which leaves the table as it was. -/
def persistMatchHistory (raw : Value) (table : List HistoryEntry) : Option (List HistoryEntry) := do
  let rows := match raw with
    | .array rows => rows
    | row => [row]
  let entries ← selected (storedRow pg timestamp) rows
  upsert HistoryEntry.key HistoryEntry.replaced entries table

end

/-! ### The two readers -/

def markRecovered (value : Value) : Value :=
  (value.insert "source" (.string "recovered")).insert "has_ret_msg" (.bool false)

def localHistoryEntry (entry : HistoryEntry) : Value := markRecovered entry.normalizedData

def alreadyNormalized (raw : Value) : Bool :=
  (raw.get "match_id").isSome &&
    ["prefetch", "recovered", "match_history", "history_observation", "legacy_prefetch"].contains
      (Text.toAsciiLowercase (((raw.get "source").bind Value.asStr).getD ""))

/-- The player that `insert_recovery_player` builds, with the id under which it is put. -/
def recoveryPlayer (raw : Value) (matchId : Nat) (fallbackPlayerId : Option Nat) : Option (Nat × Value) :=
  let rawMatchId := playerNumber raw ["Match", "match_id", "MatchId"]
  if rawMatchId ≠ 0 ∧ rawMatchId ≠ matchId then none
  else
    let player := if alreadyNormalized raw then raw else normalizeMatchHistoryPlayer raw
    let normalizedPlayerId := playerNumber player ["player_id", "playerId", "ActivePlayerId", "Id"]
    let playerId := if 0 < normalizedPlayerId then normalizedPlayerId else fallbackPlayerId.getD 0
    if playerId = 0 then none
    else some (playerId, markRecovered
      ((player.insert "match_id" (.integer matchId)).insert "player_id" (.integer playerId)))

def insertRecoveryPlayer (players : List (Nat × Value)) (raw : Value) (matchId : Nat) (fallbackPlayerId : Option Nat) :
    List (Nat × Value) :=
  match recoveryPlayer raw matchId fallbackPlayerId with
  | none => players
  | some player => if player.1 ∈ players.map Prod.fst then players else players ++ [player]

theorem insertRecoveryPlayer_first (raw : Value) (matchId : Nat) (fallbackPlayerId : Option Nat) :
    insertRecoveryPlayer [] raw matchId fallbackPlayerId = (recoveryPlayer raw matchId fallbackPlayerId).toList := by
  unfold insertRecoveryPlayer
  cases recoveryPlayer raw matchId fallbackPlayerId with
  | none => rfl
  | some player => simp

/-- What the recovery builds from a stored entry. -/
def recoveredEntry (entry : HistoryEntry) : Option (Nat × Value) :=
  recoveryPlayer entry.normalizedData entry.matchId.toNat (some entry.playerId.toNat)

/-! ### Agreement -/

/-- Both readers see one player of one match, who is the one of the row. -/
structure SameReading (entry : HistoryEntry) (read recovered : Value) : Prop where
  playerId : playerNumber read ["player_id"] = playerNumber recovered ["player_id"]
  matchId : playerNumber read ["match_id"] = playerNumber recovered ["match_id"]
  championId : read.get "champion_id" = recovered.get "champion_id"
  taskForce : read.get "task_force" = recovered.get "task_force"
  winStatus : read.get "win_status" = recovered.get "win_status"
  key : (playerNumber read ["player_id"] : Int) = entry.playerId

def ReadsTheSame (entry : HistoryEntry) : Prop :=
  ∃ player, recoveredEntry entry = some player ∧ SameReading entry (localHistoryEntry entry) player.2

/-! ### Valid rows -/

/-- A row of a match and a player, each named in either spelling. -/
structure ValidHistoryRow (raw : Value) (matchId playerId : Nat) : Prop where
  isRow : raw.isObject = true
  matchSpelled : ∀ name ∈ ["Match", "match_id"], ∀ value, raw.get name = some value → Spells value matchId
  matchNamed : (raw.get "Match").isSome = true ∨ (raw.get "match_id").isSome = true
  matchBound : 0 < matchId ∧ matchId < 2 ^ 63
  playerSpelled : ∀ name ∈ ["playerId", "player_id"], ∀ value, raw.get name = some value → Spells value playerId
  playerNamed : (raw.get "playerId").isSome = true ∨ (raw.get "player_id").isSome = true
  playerBound : 0 < playerId ∧ playerId < 2 ^ 63

/-- The row has the names of a normalized one. -/
def Lowercase (raw : Value) : Prop := (raw.get "match_id").isSome = true ∧ (raw.get "player_id").isSome = true

section
variable {raw value : Value} {n : Nat} {name : String} {rest : List String}

theorem unsignedNumber_spells (spells : Spells value n) (bound : n < 2 ^ 63) : unsignedNumber value = some n := by
  rcases spells with rfl | rfl
  · have fits : (0 : Int) ≤ n ∧ (n : Int) ≤ KeyPool.u64Max := by
      unfold KeyPool.u64Max
      omega
    simp [unsignedNumber, Value.asU64, fits]
  · have fits : n ≤ KeyPool.u64Max := by
      unfold KeyPool.u64Max
      omega
    change (none : Option Nat).or (none.or (Text.parseUnsigned KeyPool.u64Max (toString n))) = some n
    rw [Option.none_or, Option.none_or, Text.parseUnsigned_natural fits]

theorem playerNumber_spells (found : raw.get name = some value) (spells : Spells value n) (bound : n < 2 ^ 63) :
    playerNumber raw (name :: rest) = n := by
  simp [playerNumber, found, unsignedNumber_spells spells bound]

theorem playerNumber_missing (missing : raw.get name = none) :
    playerNumber raw (name :: rest) = playerNumber raw rest := by
  simp [playerNumber, missing]

theorem playerNumber_nil : playerNumber raw [] = 0 := rfl

theorem playerNumber_congr {other : Value} {names : List String}
    (same : ∀ name ∈ names, raw.get name = other.get name) : playerNumber raw names = playerNumber other names := by
  induction names with
  | nil => rfl
  | cons name names ih =>
      have later := ih fun other member => same other (List.mem_cons_of_mem name member)
      unfold playerNumber at later ⊢
      rw [List.findSome?_cons, List.findSome?_cons, same name List.mem_cons_self]
      cases other.get name |>.bind unsignedNumber with
      | some number => rfl
      | none => exact later

end

/-! ### What the readers make of an entry -/

section
variable {entry : HistoryEntry} {raw : Value} {matchId : Nat}

theorem get_markRecovered {name : String} (source : name ≠ "source") (flag : name ≠ "has_ret_msg") :
    (markRecovered raw).get name = raw.get name := by
  rw [markRecovered, get_insert_of_ne flag, get_insert_of_ne source]

theorem playerNumber_markRecovered {name : String} (source : name ≠ "source") (flag : name ≠ "has_ret_msg") :
    playerNumber (markRecovered raw) [name] = playerNumber raw [name] := by
  simp only [playerNumber, List.findSome?_cons, List.findSome?_nil, get_markRecovered source flag]

theorem isObject_insert (player : Value) (name : String) (value : Value) :
    (player.insert name value).isObject = player.isObject := by
  cases player <;> rfl

/-- An entry that looks normalized and carries the ids of its key is read in one way. -/
theorem readsTheSame_of_keys {id : Nat} (isRow : entry.normalizedData.isObject = true)
    (normalized : alreadyNormalized entry.normalizedData = true)
    (matchKey : entry.matchId = matchId) (playerKey : entry.playerId = id) (positive : 0 < id)
    (named : playerNumber entry.normalizedData ["Match", "match_id", "MatchId"] = matchId)
    (numbered : playerNumber entry.normalizedData ["match_id"] = matchId)
    (identified : ∀ rest, playerNumber entry.normalizedData ("player_id" :: rest) = id)
    (small : matchId < 2 ^ 63 ∧ id < 2 ^ 63) : ReadsTheSame entry := by
  have built : recoveredEntry entry = some (id, markRecovered
      ((entry.normalizedData.insert "match_id" (.integer matchId)).insert "player_id" (.integer id))) := by
    have known : ¬(matchId ≠ 0 ∧ matchId ≠ matchId) := fun clash => clash.2 rfl
    have nonzero : id ≠ 0 := by omega
    simp only [recoveredEntry, recoveryPlayer, normalized, if_true, matchKey, playerKey, Int.toNat_natCast, named,
      if_neg known, identified, if_pos positive, if_neg nonzero]
  refine ⟨_, built, ?_⟩
  have inserted : (entry.normalizedData.insert "match_id" (.integer matchId)).isObject = true := by
    rw [isObject_insert]
    exact isRow
  constructor
  · rw [localHistoryEntry, playerNumber_markRecovered (by decide) (by decide),
      playerNumber_markRecovered (by decide) (by decide), identified,
      playerNumber_spells (get_insert_self inserted _ _) (.inl rfl) small.2]
  · rw [localHistoryEntry, playerNumber_markRecovered (by decide) (by decide),
      playerNumber_markRecovered (by decide) (by decide), numbered,
      playerNumber_spells ((get_insert_of_ne (by decide) _ _).trans (get_insert_self isRow _ _)) (.inl rfl) small.1]
  · rw [localHistoryEntry, get_markRecovered (by decide) (by decide), get_markRecovered (by decide) (by decide),
      get_insert_of_ne (by decide), get_insert_of_ne (by decide)]
  · rw [localHistoryEntry, get_markRecovered (by decide) (by decide), get_markRecovered (by decide) (by decide),
      get_insert_of_ne (by decide), get_insert_of_ne (by decide)]
  · rw [localHistoryEntry, get_markRecovered (by decide) (by decide), get_markRecovered (by decide) (by decide),
      get_insert_of_ne (by decide), get_insert_of_ne (by decide)]
  · rw [localHistoryEntry, playerNumber_markRecovered (by decide) (by decide), identified, playerKey]

end

/-! ### Entries of the backend -/

section
variable {pg : Postgres} {timestamp : String → Option Int} {raw : Value} {entry : HistoryEntry} {matchId playerId : Nat}

theorem coalesced_missing {bits : Nat} {name : String} {rest : List String} (missing : raw.get name = none) :
    coalesced pg bits raw (name :: rest) = coalesced pg bits raw rest := by
  have read : pg.nullableNumber bits raw name = some none := by
    simp [Postgres.nullableNumber, Postgres.text, Postgres.field, missing]
  simp only [coalesced, read]

theorem coalesced_spells {bits n : Nat} {name : String} {rest : List String} {value : Value}
    (found : raw.get name = some value) (spells : Spells value n) (bound : n < 2 ^ (bits - 1)) :
    coalesced pg bits raw (name :: rest) = some (some (n : Int)) := by
  have text : pg.text raw name = some (toString n) := by
    apply Backend.text_natural pg
    rcases spells with rfl | rfl
    · exact .inl found
    · exact .inr found
  have read : pg.nullableNumber bits raw name = some (some (n : Int)) := by
    simp only [Postgres.nullableNumber, text]
    rw [pg.integer_natural, if_pos bound]
    rfl
  simp only [coalesced, read]

/-- The first of two spellings, of which the row has one. -/
theorem coalesced_pair {n : Nat} {first second : String} {rest : List String}
    (spelled : ∀ name ∈ [second, first], ∀ value, raw.get name = some value → Spells value n)
    (named : (raw.get second).isSome = true ∨ (raw.get first).isSome = true) (bound : n < 2 ^ 63) :
    coalesced pg 64 raw (first :: second :: rest) = some (some (n : Int)) := by
  cases front : raw.get first with
  | some value => exact coalesced_spells front (spelled first (by simp) value front) bound
  | none =>
      rw [coalesced_missing front]
      cases back : raw.get second with
      | some value => exact coalesced_spells back (spelled second (by simp) value back) bound
      | none => simp [front, back] at named

theorem storedRow_eq (valid : ValidHistoryRow raw matchId playerId)
    (stored : storedRow pg timestamp raw = some (some entry)) :
    entry = ⟨matchId, playerId, raw.insert "source" (.string "match_history")⟩ := by
  have matches_ : coalesced pg 64 raw ["match_id", "Match"] = some (some (matchId : Int)) :=
    coalesced_pair valid.matchSpelled valid.matchNamed valid.matchBound.2
  have players : coalesced pg 64 raw ["player_id", "playerId", "playerIdActive"] = some (some (playerId : Int)) :=
    coalesced_pair valid.playerSpelled valid.playerNamed valid.playerBound.2
  unfold storedRow at stored
  split_ifs at stored
  · simp only [matches_, players, Option.bind_eq_bind, Option.bind_some, Option.getD_some] at stored
    split_ifs at stored
    · simp only [Option.bind_eq_some_iff] at stored
      obtain ⟨_, _, _, _, same⟩ := stored
      cases same
      rfl
    · cases stored
  · cases stored

theorem isObject_normalized : (normalizeMatchHistoryPlayer raw).isObject = true := rfl

/-- What is built bears the match that it is built for. -/
theorem recoveryPlayer_match {fallback : Option Nat} {player : Nat × Value} (isRow : raw.isObject = true)
    (bound : matchId < 2 ^ 63) (built : recoveryPlayer raw matchId fallback = some player) :
    playerNumber player.2 ["match_id"] = matchId := by
  have isPlayer : (if alreadyNormalized raw = true then raw else normalizeMatchHistoryPlayer raw).isObject = true := by
    split_ifs
    · exact isRow
    · exact isObject_normalized
  unfold recoveryPlayer at built
  generalize (if alreadyNormalized raw = true then raw else normalizeMatchHistoryPlayer raw) = base at isPlayer built
  dsimp only at built
  have numbered : ∀ id : Nat, playerNumber (markRecovered
      ((base.insert "match_id" (.integer matchId)).insert "player_id" (.integer id))) ["match_id"] = matchId := by
    intro id
    rw [playerNumber_markRecovered (by decide) (by decide)]
    exact playerNumber_spells ((get_insert_of_ne (by decide) _ _).trans (get_insert_self isPlayer _ _)) (.inl rfl) bound
  split_ifs at built <;> cases built <;> exact numbered _

/-- A row that the backend stores is read in one way exactly if it has the names of a normalized row. -/
theorem backend_reads_iff (valid : ValidHistoryRow raw matchId playerId)
    (stored : storedRow pg timestamp raw = some (some entry)) : ReadsTheSame entry ↔ Lowercase raw := by
  rw [storedRow_eq valid stored]
  have isRow : (raw.insert "source" (.string "match_history")).isObject = true := by
    rw [isObject_insert]
    exact valid.isRow
  have kept : ∀ name, name ≠ "source" →
      (raw.insert "source" (.string "match_history")).get name = raw.get name :=
    fun name other => get_insert_of_ne other _ _
  constructor
  · rintro ⟨player, built, reading⟩
    constructor
    · have same := reading.matchId
      rw [recoveryPlayer_match isRow valid.matchBound.2 built, localHistoryEntry,
        playerNumber_markRecovered (by decide) (by decide)] at same
      cases found : raw.get "match_id" with
      | some value => rfl
      | none =>
          rw [playerNumber_missing ((kept _ (by decide)).trans found), playerNumber_nil] at same
          exact absurd same (ne_of_lt valid.matchBound.1)
    · have same := reading.key
      rw [localHistoryEntry, playerNumber_markRecovered (by decide) (by decide)] at same
      cases found : raw.get "player_id" with
      | some value => rfl
      | none =>
          rw [playerNumber_missing ((kept _ (by decide)).trans found), playerNumber_nil] at same
          have positive := valid.playerBound.1
          dsimp only at same
          omega
  · rintro ⟨matchNamed, playerNamed⟩
    obtain ⟨matchValue, matchFound⟩ := Option.isSome_iff_exists.mp matchNamed
    obtain ⟨playerValue, playerFound⟩ := Option.isSome_iff_exists.mp playerNamed
    have matchSpells := valid.matchSpelled "match_id" (by simp) matchValue matchFound
    have playerSpells := valid.playerSpelled "player_id" (by simp) playerValue playerFound
    have matchKept := (kept "match_id" (by decide)).trans matchFound
    have playerKept := (kept "player_id" (by decide)).trans playerFound
    refine @readsTheSame_of_keys _ matchId playerId isRow ?_ rfl rfl valid.playerBound.1 ?_
      (playerNumber_spells matchKept matchSpells valid.matchBound.2)
      (fun rest => playerNumber_spells playerKept playerSpells valid.playerBound.2)
      ⟨valid.matchBound.2, valid.playerBound.2⟩
    · simp only [alreadyNormalized, matchKept, get_insert_self valid.isRow, Option.isSome_some, Option.bind_some,
        Value.asStr, Option.getD_some]
      decide
    · cases first : raw.get "Match" with
      | some value =>
          exact playerNumber_spells ((kept _ (by decide)).trans first)
            (valid.matchSpelled "Match" (by simp) value first) valid.matchBound.2
      | none =>
          have missing := (kept "Match" (by decide)).trans first
          exact (playerNumber_missing missing).trans (playerNumber_spells matchKept matchSpells valid.matchBound.2)

end

/-! ### Entries of the relay -/

section
variable {raw value : Value} {entry : HistoryEntry} {matchId playerId n : Nat} {name : String}

theorem get_sanitizeJson (value : Value) (name : String) :
    (sanitizeJson value).get name = (value.get name).map sanitizeJson := by
  cases value with
  | object fields =>
      simp only [sanitizeJson, Value.get]
      induction fields with
      | nil => rfl
      | cons field rest ih =>
          obtain ⟨key, content⟩ := field
          simp only [sanitizeFields, List.lookup]
          cases name == key with
          | true => rfl
          | false => exact ih
  | null | bool | integer | float | string | array => rfl

theorem sanitizeText_digits {text : String} (decimal : ∀ c ∈ text.toList, c.isDigit = true) :
    sanitizeText text = text := by
  have start : ∀ pattern : List Char, (∀ c : Char, c.isDigit = true → pattern.head? ≠ some c) → pattern ≠ [] →
      removeText pattern 0 text.toList = text.toList := by
    intro pattern other some_
    have plain := removeText_plain (fun c member => other c (decimal c member)) some_ []
    simpa [removeText] using plain
  have nul : ∀ c : Char, c.isDigit = true → ['\x00'].head? ≠ some c := by
    rintro c digit same
    cases same
    cases digit
  have slash : ∀ c : Char, c.isDigit = true → nulEscape.head? ≠ some c := by
    rintro c digit same
    cases same
    cases digit
  rw [sanitizeText, start _ nul (by simp), start _ slash (by simp [nulEscape]), String.ofList_toList]

theorem sanitizeJson_spells (spells : Spells value n) : sanitizeJson value = value := by
  rcases spells with rfl | rfl
  · rfl
  · rw [sanitizeJson, sanitizeText_digits (Text.toString_digits n)]

/-- The first of two spellings, of which the row has one. -/
theorem firstTruthy_named {first second : String}
    (spelled : ∀ name ∈ [first, second], ∀ value, raw.get name = some value → Spells value n)
    (named : (raw.get first).isSome = true ∨ (raw.get second).isSome = true) (positive : 0 < n) :
    ∃ value, firstTruthy raw [first, second] = some value ∧ Spells value n := by
  cases front : raw.get first with
  | some value =>
      have spells := spelled first (by simp) value front
      exact ⟨value, firstTruthy_spells front spells positive, spells⟩
  | none =>
      cases back : raw.get second with
      | some value =>
          have spells := spelled second (by simp) value back
          exact ⟨value, (firstTruthy_missing front).trans (firstTruthy_spells back spells positive), spells⟩
      | none => simp [front, back] at named

theorem get_relayNormalized {forRecovery : Bool} (other : name ≠ "map") :
    (relayNormalized forRecovery raw).get name = (normalizeMatchHistoryPlayer raw).get name := by
  cases forRecovery with
  | true =>
      change (normalizeHistoryForRecovery raw).get name = _
      rw [normalizeHistoryForRecovery, get_insert_of_ne other]
  | false => rfl

theorem match_field : (normalizeMatchHistoryPlayer raw).get "match_id" =
    some ((firstTruthy raw ["Match", "match_id"]).getD zero) := rfl

theorem player_field : (normalizeMatchHistoryPlayer raw).get "player_id" =
    some ((firstNumber raw ["playerId", "player_id"]).getD zero) := rfl

theorem integer_spells {field : Value} (found : value.get name = some field) (spells : Spells field n) (bound : n < 2 ^ 63) :
    integer value name = some (n : Int) := by
  rcases spells with rfl | rfl
  · have fits : -2 ^ 63 ≤ (n : Int) ∧ (n : Int) < 2 ^ 63 := by omega
    rw [integer, found, Option.bind_some, Value.asI64, if_pos fits, Option.some_or]
  · have parsed : Text.parseSigned i64Min i64Max (toString n) = some (n : Int) := by
      rw [Text.parseSigned_digits (Text.toString_digits n) (Text.toString_ne_nil n), Text.digitsValue_toString]
      change (some (n : Int)).filter _ = _
      rw [Option.filter_some, if_pos]
      unfold i64Min i64Max
      simp only [Bool.and_eq_true, decide_eq_true_eq]
      omega
    simp only [integer, found, Option.bind_some]
    exact parsed

theorem writtenEntry_eq {fetchedPlayerId : Int} {forRecovery : Bool} (valid : ValidHistoryRow raw matchId playerId)
    (written : writtenEntry fetchedPlayerId forRecovery raw = some entry) :
    ∃ id : Nat, 0 < id ∧ id < 2 ^ 63 ∧ entry.matchId = matchId ∧ entry.playerId = id ∧
      entry.normalizedData.isObject = true ∧ entry.normalizedData.get "player_id" = some (.integer id) ∧
      ∀ name, name ≠ "map" →
        entry.normalizedData.get name = ((normalizeMatchHistoryPlayer raw).get name).map sanitizeJson := by
  obtain ⟨matchValue, matchFound, matchSpells⟩ :=
    firstTruthy_named valid.matchSpelled valid.matchNamed valid.matchBound.1
  obtain ⟨playerValue, playerFound, playerSpells⟩ :=
    firstTruthy_named valid.playerSpelled valid.playerNamed valid.playerBound.1
  obtain ⟨id, positive, bound, number⟩ := numberValue_natural valid.playerBound.1 valid.playerBound.2
  have matchField : (relayNormalized forRecovery raw).get "match_id" = some matchValue := by
    rw [get_relayNormalized (by decide), match_field, matchFound, Option.getD_some]
  have playerField : (relayNormalized forRecovery raw).get "player_id" = some (.integer id) := by
    rw [get_relayNormalized (by decide), player_field, firstNumber, playerFound, Option.bind_some,
      jsNumber_spells playerSpells, Option.map_some, number, Option.getD_some]
  have isRow : (relayNormalized forRecovery raw).isObject = true := by
    cases forRecovery <;> rfl
  have matchRead := integer_spells matchField matchSpells valid.matchBound.2
  have playerRead := @integer_spells _ id "player_id" _ playerField (.inl rfl) bound
  have matchPositive := valid.matchBound.1
  rw [writtenEntry, Option.map_eq_some_iff] at written
  obtain ⟨base, built, rfl⟩ := written
  have kept : ((some (id : Int)).filter (0 < ·)).getD fetchedPlayerId = id := by
    rw [Option.filter_some, if_pos (by simpa using positive), Option.getD_some]
  simp only [historyEntry, matchRead, playerRead, Option.some_or, Option.bind_eq_bind, Option.bind_some, kept] at built
  rw [if_neg (by omega)] at built
  cases built
  have others : ∀ name, name ≠ "map" → ∀ map,
      (sanitizeJson ((relayNormalized forRecovery raw).insert "map" map)).get name =
        ((normalizeMatchHistoryPlayer raw).get name).map sanitizeJson := by
    intro name other map
    rw [get_sanitizeJson, get_insert_of_ne other, get_relayNormalized other]
  refine ⟨id, positive, bound, rfl, rfl, ?_, ?_, fun name other => others name other _⟩
  · cases same : (relayNormalized forRecovery raw) with
    | object fields => rfl
    | _ => rw [same] at isRow; cases isRow
  · rw [others _ (by decide), ← get_relayNormalized (by decide), playerField]
    rfl

/-- A row that the relay stores is always read in one way. -/
theorem relay_reads {fetchedPlayerId : Int} {forRecovery : Bool} (valid : ValidHistoryRow raw matchId playerId)
    (written : writtenEntry fetchedPlayerId forRecovery raw = some entry) : ReadsTheSame entry := by
  obtain ⟨id, positive, bound, matchKey, playerKey, isRow, identified, fields⟩ := writtenEntry_eq valid written
  obtain ⟨matchValue, matchFound, matchSpells⟩ :=
    firstTruthy_named valid.matchSpelled valid.matchNamed valid.matchBound.1
  have matchField : entry.normalizedData.get "match_id" = some matchValue := by
    rw [fields _ (by decide), match_field, matchFound, Option.getD_some, Option.map_some,
      sanitizeJson_spells matchSpells]
  have foreign : entry.normalizedData.get "Match" = none := by
    rw [fields _ (by decide)]
    rfl
  have source : entry.normalizedData.get "source" = some (.string "match_history") := by
    rw [fields _ (by decide)]
    have plain : sanitizeText "match_history" = "match_history" := by decide
    exact congrArg (fun text => some (Value.string text)) plain
  refine @readsTheSame_of_keys entry matchId id isRow ?_ matchKey playerKey positive ?_
    (playerNumber_spells matchField matchSpells valid.matchBound.2)
    (fun rest => playerNumber_spells identified (.inl rfl) bound) ⟨valid.matchBound.2, bound⟩
  · simp only [alreadyNormalized, matchField, source, Option.isSome_some, Option.bind_some, Value.asStr,
      Option.getD_some]
    decide
  · rw [playerNumber_missing foreign]
    exact playerNumber_spells matchField matchSpells valid.matchBound.2

end

/-! ### Runs of both writers -/

inductive Writer where
  | relay
  | backend
  deriving DecidableEq

/-- A call of `write_history` with the rows that it was given, or a buffered history. -/
inductive HistoryWrite where
  | relay (fetchedPlayerId : Int) (forRecovery : Bool) (rows : List Value)
  | backend (raw : Value)

def HistoryWrite.rows : HistoryWrite → List Value
  | .relay _ _ rows => rows
  | .backend (.array rows) => rows
  | .backend row => [row]

section
variable (pg : Postgres) (timestamp : String → Option Int)

def HistoryWrite.apply (table : List HistoryEntry) : HistoryWrite → List HistoryEntry
  | .relay fetchedPlayerId forRecovery rows => writeHistory fetchedPlayerId forRecovery rows table
  | .backend raw => (persistMatchHistory pg timestamp raw table).getD table

def play (writes : List HistoryWrite) (table : List HistoryEntry) : List HistoryEntry :=
  writes.foldl (HistoryWrite.apply pg timestamp) table

/-- The writer makes the entry of the row. -/
def Stored (raw : Value) (entry : HistoryEntry) : Writer → Prop
  | .relay => ∃ fetchedPlayerId forRecovery, writtenEntry fetchedPlayerId forRecovery raw = some entry
  | .backend => storedRow pg timestamp raw = some (some entry)

end

section
variable {pg : Postgres} {timestamp : String → Option Int}

theorem replaced_eq (old excluded : HistoryEntry) : old.replaced excluded = excluded := rfl

theorem apply_stored {write : HistoryWrite} {table : List HistoryEntry} {entry : HistoryEntry}
    (member : entry ∈ write.apply pg timestamp table) :
    entry ∈ table ∨ ∃ raw ∈ write.rows, ∃ writer, Stored pg timestamp raw entry writer := by
  cases write with
  | relay fetchedPlayerId forRecovery rows =>
      rcases ConflictInserts.mem_merged replaced_eq member with old | new
      · exact .inl old
      · obtain ⟨raw, listed, written⟩ := List.mem_filterMap.mp new
        exact .inr ⟨raw, listed, .relay, fetchedPlayerId, forRecovery, written⟩
  | backend raw =>
      cases done : persistMatchHistory pg timestamp raw table with
      | none =>
          simp only [HistoryWrite.apply, done, Option.getD_none] at member
          exact .inl member
      | some after =>
          simp only [HistoryWrite.apply, done, Option.getD_some] at member
          simp only [persistMatchHistory, upsert, Option.bind_eq_bind, Option.bind_eq_some_iff] at done
          obtain ⟨entries, selection, merged⟩ := done
          split_ifs at merged
          cases merged
          rcases ConflictInserts.mem_merged replaced_eq member with old | new
          · exact .inl old
          · obtain ⟨row, listed, stored⟩ := Selection.mem_selected selection new
            refine .inr ⟨row, ?_, .backend, stored⟩
            cases raw <;> exact listed

/-- Every row of the table was made from a row that one of the writers was given. -/
theorem play_stored {writes : List HistoryWrite} {table : List HistoryEntry} {entry : HistoryEntry}
    (member : entry ∈ play pg timestamp writes table) :
    entry ∈ table ∨ ∃ write ∈ writes, ∃ raw ∈ write.rows, ∃ writer, Stored pg timestamp raw entry writer := by
  induction writes generalizing table with
  | nil => exact .inl member
  | cons write writes ih =>
      rcases ih member with before | ⟨later, listed, rest⟩
      · rcases apply_stored before with old | ⟨raw, inside, stored⟩
        · exact .inl old
        · exact .inr ⟨write, List.mem_cons_self, raw, inside, stored⟩
      · exact .inr ⟨later, List.mem_cons_of_mem write listed, rest⟩

end

/-- After any writes of valid rows, an entry is read in one way exactly if the relay wrote it or the row
that the backend took it from has the names of a normalized one. -/
theorem history_entries_read_the_same_iff (pg : Postgres) (timestamp : String → Option Int)
    {writes : List HistoryWrite}
    (valid : ∀ write ∈ writes, ∀ raw ∈ write.rows, ∃ matchId playerId, ValidHistoryRow raw matchId playerId) :
    ∀ entry ∈ play pg timestamp writes [], ∃ raw writer, Stored pg timestamp raw entry writer ∧
      (ReadsTheSame entry ↔ writer = .relay ∨ Lowercase raw) := by
  intro entry member
  rcases play_stored member with nowhere | ⟨write, listed, raw, inside, writer, stored⟩
  · cases nowhere
  · obtain ⟨matchId, playerId, isValid⟩ := valid write listed raw inside
    refine ⟨raw, writer, stored, ?_⟩
    cases writer with
    | relay =>
        obtain ⟨fetchedPlayerId, forRecovery, written⟩ := stored
        exact ⟨fun _ => .inl rfl, fun _ => relay_reads isValid written⟩
    | backend =>
        rw [backend_reads_iff isValid stored]
        simp

/-! ### A row in the spelling of Hi-Rez -/

def hirezRow : Value :=
  .object [("Match", .integer 100), ("playerId", .integer 7), ("ChampionId", .integer 2056), ("TaskForce", .integer 1),
    ("Win_Status", .string "Win")]

theorem hirezRow_valid : ValidHistoryRow hirezRow 100 7 where
  isRow := rfl
  matchSpelled := by
    intro name member value found
    simp only [List.mem_cons, List.not_mem_nil, or_false] at member
    rcases member with rfl | rfl
    · cases found
      exact .inl rfl
    · cases found
  matchNamed := .inl rfl
  matchBound := by decide
  playerSpelled := by
    intro name member value found
    simp only [List.mem_cons, List.not_mem_nil, or_false] at member
    rcases member with rfl | rfl
    · cases found
      exact .inl rfl
    · cases found
  playerNamed := .inl rfl
  playerBound := by decide

def noTimestamps (_text : String) : Option Int := none

def hirezEntry : HistoryEntry := ⟨100, 7, hirezRow.insert "source" (.string "match_history")⟩

theorem hirezEntry_stored :
    play Backend.decimalPostgres noTimestamps [.backend (.array [hirezRow])] [] = [hirezEntry] := by
  rfl

theorem hirez_row_read_in_two_ways :
    (∃ raw writer, Stored Backend.decimalPostgres noTimestamps raw hirezEntry writer ∧
      (ReadsTheSame hirezEntry ↔ writer = .relay ∨ Lowercase raw)) := by
  refine history_entries_read_the_same_iff Backend.decimalPostgres noTimestamps
    (fun write listed raw inside => ?_) hirezEntry (by rw [hirezEntry_stored]; exact List.mem_singleton_self _)
  rw [List.mem_singleton.mp listed] at inside
  exact ⟨100, 7, List.mem_singleton.mp inside ▸ hirezRow_valid⟩

theorem hirez_row_taken_for_private : ValidHistoryRow hirezRow 100 7 ∧
    hirezEntry ∈ play Backend.decimalPostgres noTimestamps [.backend (.array [hirezRow])] [] ∧
    ¬ReadsTheSame hirezEntry ∧ playerId (localHistoryEntry hirezEntry) = 0 ∧
    (recoveredEntry hirezEntry).map (fun player => playerId player.2) = some 7 := by
  have private_ : playerId (localHistoryEntry hirezEntry) = 0 := by decide
  refine ⟨hirezRow_valid, by rw [hirezEntry_stored]; exact List.mem_singleton_self _, ?_, private_, by decide +kernel⟩
  rintro ⟨_, _, reading⟩
  have key := reading.key
  rw [show playerNumber (localHistoryEntry hirezEntry) ["player_id"] = 0 from private_] at key
  cases key

/-- What is read in one way is a public player for `merge_players`. -/
theorem public_of_reads {entry : HistoryEntry} (positive : 0 < entry.playerId) (reads : ReadsTheSame entry) :
    0 < playerId (localHistoryEntry entry) := by
  obtain ⟨_, _, reading⟩ := reads
  have key := reading.key
  unfold playerId
  omega

end PaladinsCat.HistoryEntries
