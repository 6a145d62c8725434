import PaladinsCat.ConflictInserts
import PaladinsCat.MatchLifecycle

/-!
Ranked parties (`persist_ranked_party_groups`): the groups and pairs of each match are ledgers
of which an entry is inserted once, and two tables of counters are bumped by what was inserted.
The facts they are taken from may change in any way between two finalizations of a match.
-/

namespace PaladinsCat.PartyLedger

open Backend ConflictInserts

variable {Rating : Type}

/-! ### Tables -/

/-- The two columns of `match_players` that only the parties are taken from. -/
structure PartyColumns where
  partyId : Option Int
  leagueTier : Option Int
  deriving DecidableEq

/-- The primary key of `match_players`. -/
structure PlayerKey where
  matchId : Int
  playerId : Int
  privateSlot : Int
  entryDatetime : Int
  deriving DecidableEq

def playerKey (row : MatchPlayerRow) : PlayerKey :=
  ⟨row.matchId, row.playerId, row.privateSlot, row.entryDatetime⟩

/-- A row of `match_party_groups`. -/
structure PartyGroup where
  matchId : Int
  groupKey : String
  playerIds : List Int
  stackSize : Nat
  taskForce : Option Int
  observedPartyId : Option Int
  maxKnownTier : Int
  entryDatetime : Int
  deriving DecidableEq

structure PartyStackStats where
  groupKey : String
  playerIds : List Int
  stackSize : Nat
  matchCount : Nat
  firstSeen : Int
  lastSeen : Int
  deriving DecidableEq

/-- A row of `match_party_pairs`. -/
structure PartyPair where
  matchId : Int
  playerLowId : Int
  playerHighId : Int
  sourceGroupKey : String
  entryDatetime : Int
  deriving DecidableEq

structure PartyPairStats where
  playerLowId : Int
  playerHighId : Int
  matchCount : Nat
  firstSeen : Int
  lastSeen : Int
  deriving DecidableEq

structure PartyTables where
  groups : List PartyGroup := []
  stackStats : List PartyStackStats := []
  pairs : List PartyPair := []
  pairStats : List PartyPairStats := []
  deriving DecidableEq

def PartyGroup.key (group : PartyGroup) : Int × String := (group.matchId, group.groupKey)

def PartyPair.players (pair : PartyPair) : Int × Int := (pair.playerLowId, pair.playerHighId)

def PartyPair.key (pair : PartyPair) : Int × Int × Int := (pair.matchId, pair.players)

def PartyPairStats.players (stats : PartyPairStats) : Int × Int := (stats.playerLowId, stats.playerHighId)

/-! ### Groups of a match -/

abbrev PartyRow := MatchPlayerRow × PartyColumns

/-- The identified players of a ranked match who were seen in a party. -/
def inParty (row : PartyRow) : Bool :=
  decide (0 < row.1.playerId) && decide (row.2.partyId.getD 0 ≠ 0) &&
    (row.1.taskForce == some 1 || row.1.taskForce == some 2) && decide (0 < row.1.championId.getD 0) &&
    ((row.1.source.getD .direct) == .direct || (row.1.source.getD .direct) == .recovered)

/-- `match_players mp JOIN matches m … WHERE …`. -/
def partyRows (store : Store Rating) (columns : PlayerKey → PartyColumns) (matchId entryDatetime : Int) :
    List PartyRow :=
  let joined := store.matchRows.any fun row =>
    row.matchId == matchId && row.entryDatetime == entryDatetime && row.queueId == rankedQueueId &&
      row.isRanked.getD true
  ((store.matchPlayers.filter fun row =>
      joined && row.matchId == matchId && row.entryDatetime == entryDatetime).map fun row =>
    (row, columns (playerKey row))).filter inParty

def partyOf (row : PartyRow) : Option Int × Option Int := (row.1.taskForce, row.2.partyId)

/-- `array_agg(DISTINCT player_id ORDER BY player_id)`. -/
def playerIds (rows : List PartyRow) : List Int := (rows.map fun row => row.1.playerId).dedup.insertionSort (· ≤ ·)

/-- `COALESCE(max(league_tier) FILTER (WHERE league_tier > 0), 0)`. -/
def maxKnownTier (rows : List PartyRow) : Int :=
  ((rows.filterMap fun row => row.2.leagueTier).filter (0 < ·)).foldr max 0

/-- `array_to_string(player_ids, ':')`. -/
def groupKey (ids : List Int) : String := ":".intercalate (ids.map toString)

-- Every row of the group has the entry time that the statement asks for.
def partyGroup (matchId entryDatetime : Int) (party : (Option Int × Option Int) × List PartyRow) : PartyGroup :=
  { matchId
    groupKey := groupKey (playerIds party.2)
    playerIds := playerIds party.2
    stackSize := (playerIds party.2).length
    taskForce := party.1.1
    observedPartyId := party.1.2
    maxKnownTier := maxKnownTier party.2
    entryDatetime }

def grouped (matchId entryDatetime : Int) (rows : List PartyRow) : List PartyGroup :=
  (Grouping.groups partyOf rows).map (partyGroup matchId entryDatetime)

/-- Diamond and above are limited to duos; an unknown tier rejects no group. -/
def PartyGroup.eligible (group : PartyGroup) : Bool :=
  decide (2 ≤ group.stackSize) && decide (group.stackSize ≤ 5) &&
    (group.stackSize == 2 || decide (group.maxKnownTier ≤ 20))

def smallintMax : Int := 2 ^ 15 - 1

def integerMax : Nat := 2 ^ 31 - 1

/-- The casts of a group to SMALLINT. -/
def PartyGroup.casts (group : PartyGroup) : Bool :=
  decide ((group.stackSize : Int) ≤ smallintMax) && decide (group.maxKnownTier ≤ smallintMax)

/-! ### The two statements -/

def PartyGroup.stats (group : PartyGroup) : PartyStackStats :=
  ⟨group.groupKey, group.playerIds, group.stackSize, 1, group.entryDatetime, group.entryDatetime⟩

/-- `match_count = party_stack_stats.match_count + EXCLUDED.match_count, …`. -/
def PartyStackStats.add (old excluded : PartyStackStats) : PartyStackStats :=
  { old with
    matchCount := old.matchCount + excluded.matchCount
    firstSeen := min old.firstSeen excluded.firstSeen
    lastSeen := max old.lastSeen excluded.lastSeen }

def PartyPairStats.add (old excluded : PartyPairStats) : PartyPairStats :=
  { old with
    matchCount := old.matchCount + excluded.matchCount
    firstSeen := min old.firstSeen excluded.firstSeen
    lastSeen := max old.lastSeen excluded.lastSeen }

theorem PartyStackStats.groupKey_add (old excluded : PartyStackStats) :
    (old.add excluded).groupKey = old.groupKey := rfl

theorem PartyStackStats.matchCount_add (old excluded : PartyStackStats) :
    (old.add excluded).matchCount = old.matchCount + excluded.matchCount := rfl

theorem PartyPairStats.players_add (old excluded : PartyPairStats) :
    (old.add excluded).players = old.players := rfl

theorem PartyPairStats.matchCount_add (old excluded : PartyPairStats) :
    (old.add excluded).matchCount = old.matchCount + excluded.matchCount := rfl

/-- The pairs of different ordinals, the lower one first. -/
def ordinalPairs : List Int → List (Int × Int)
  | [] => []
  | low :: rest => rest.map (fun high => (low, high)) ++ ordinalPairs rest

def PartyGroup.pairs (group : PartyGroup) : List PartyPair :=
  (ordinalPairs group.playerIds).map fun pair =>
    ⟨group.matchId, pair.1, pair.2, group.groupKey, group.entryDatetime⟩

def pairStats (party : (Int × Int) × List PartyPair) : PartyPairStats :=
  { playerLowId := party.1.1
    playerHighId := party.1.2
    matchCount := party.2.length
    firstSeen := (party.2.map PartyPair.entryDatetime).min?.getD 0
    lastSeen := (party.2.map PartyPair.entryDatetime).max?.getD 0 }

/-- The statement over the groups, without the rows it selects from. -/
def insertGroups (eligible : List PartyGroup) (tables : PartyTables) : Option PartyTables := do
  let inserted := fresh PartyGroup.key (tables.groups.map PartyGroup.key) eligible
  let counted ← upsert PartyStackStats.groupKey PartyStackStats.add (inserted.map PartyGroup.stats) tables.stackStats
  guard (∀ row ∈ counted, row.matchCount ≤ integerMax)
  some { tables with groups := tables.groups ++ inserted, stackStats := counted }

/-- The statement over the pairs: the candidates are taken from all groups of the match. -/
def insertPairs (matchId : Int) (tables : PartyTables) : Option PartyTables := do
  let candidates := (tables.groups.filter fun group => group.matchId = matchId).flatMap PartyGroup.pairs
  let inserted := fresh PartyPair.key (tables.pairs.map PartyPair.key) candidates
  let counted ← upsert PartyPairStats.players PartyPairStats.add
    ((Grouping.groups PartyPair.players inserted).map pairStats) tables.pairStats
  guard (∀ row ∈ counted, row.matchCount ≤ integerMax)
  some { tables with pairs := tables.pairs ++ inserted, pairStats := counted }

/-- `None` stands for an error of a statement, which aborts the transaction. -/
def persistRankedPartyGroups (matchId entryDatetime : Int) (rows : List PartyRow) (tables : PartyTables) :
    Option PartyTables := do
  let parties := grouped matchId entryDatetime rows
  guard (∀ group ∈ parties, group.casts = true)
  let withGroups ← insertGroups (parties.filter PartyGroup.eligible) tables
  insertPairs matchId withGroups

/-! ### finalize -/

/-- A payload whose players come with the two columns. -/
structure PartyPayload where
  payload : CanonicalMatchPayload
  roster : List (FactPlayer × PartyColumns)
  rosterPlayers : payload.players = roster.map Prod.fst

structure PartyState (Rating : Type) where
  store : Store Rating := {}
  columns : PlayerKey → PartyColumns := fun _ => ⟨none, none⟩
  tables : PartyTables := {}

/-- The upsert of one player, which an older row of a higher rank refuses. -/
def persistColumns (payload : CanonicalMatchPayload) (player : FactPlayer × PartyColumns)
    (written : List MatchPlayerRow × (PlayerKey → PartyColumns)) : List MatchPlayerRow × (PlayerKey → PartyColumns) :=
  let key : PlayerKey := ⟨payload.matchId, player.1.playerId, player.1.privateSlot, payload.entryDatetime⟩
  let outranked := written.1.any fun row =>
    playerKey row == key && decide (player.1.source.rank < sourceRank row.source)
  (persistPlayer payload written.1 player.1,
    if outranked then written.2 else Function.update written.2 key player.2)

def writtenColumns (payload : PartyPayload) (state : PartyState Rating) : PlayerKey → PartyColumns :=
  let stages := ((state.store.ingest payload.payload.matchId).map IngestRow.completedStages).getD ∅
  if .playerFacts ∈ stages then state.columns
  else (payload.roster.foldl (fun written player => persistColumns payload.payload player written)
    (state.store.matchPlayers, state.columns)).2

/-- `finalize` with the party projection; `none` for a transaction that is rolled back. -/
def finalizeParties (now : Int) (payload : PartyPayload) (source : String) (state : PartyState Rating) :
    Option (PartyState Rating) :=
  match finalize now state.store payload.payload source with
  | (.error _, _) => none
  | (.ok done, store) =>
      if done.population = .ranked then
        let columns := writtenColumns payload state
        let rows := partyRows store columns payload.payload.matchId payload.payload.entryDatetime
        (persistRankedPartyGroups payload.payload.matchId payload.payload.entryDatetime rows state.tables).map
          fun tables => { store, columns, tables }
      else some { state with store }

/-! ### What the statements do -/

section
variable {tables after : PartyTables}

/-- The groups that `ON CONFLICT DO NOTHING` lets in. -/
def newGroups (eligible : List PartyGroup) (tables : PartyTables) : List PartyGroup :=
  fresh PartyGroup.key (tables.groups.map PartyGroup.key) eligible

def candidatePairs (matchId : Int) (tables : PartyTables) : List PartyPair :=
  (tables.groups.filter fun group => group.matchId = matchId).flatMap PartyGroup.pairs

def newPairs (matchId : Int) (tables : PartyTables) : List PartyPair :=
  fresh PartyPair.key (tables.pairs.map PartyPair.key) (candidatePairs matchId tables)

theorem insertGroups_eq {eligible : List PartyGroup} (done : insertGroups eligible tables = some after) :
    after = { tables with
      groups := tables.groups ++ newGroups eligible tables
      stackStats := ((newGroups eligible tables).map PartyGroup.stats).foldl
        (merge PartyStackStats.groupKey PartyStackStats.add) tables.stackStats } := by
  simp only [insertGroups, upsert, Option.bind_eq_bind, Option.bind_eq_some_iff] at done
  obtain ⟨counted, taken, _, _, result⟩ := done
  split_ifs at taken
  cases taken
  exact (Option.some.inj result).symm

theorem insertPairs_eq {matchId : Int} (done : insertPairs matchId tables = some after) :
    after = { tables with
      pairs := tables.pairs ++ newPairs matchId tables
      pairStats := ((Grouping.groups PartyPair.players (newPairs matchId tables)).map pairStats).foldl
        (merge PartyPairStats.players PartyPairStats.add) tables.pairStats } := by
  simp only [insertPairs, upsert, Option.bind_eq_bind, Option.bind_eq_some_iff] at done
  obtain ⟨counted, taken, _, _, result⟩ := done
  split_ifs at taken
  cases taken
  exact (Option.some.inj result).symm

theorem persistRankedPartyGroups_cases {matchId entryDatetime : Int} {rows : List PartyRow}
    (done : persistRankedPartyGroups matchId entryDatetime rows tables = some after) :
    ∃ middle, insertGroups ((grouped matchId entryDatetime rows).filter PartyGroup.eligible) tables = some middle ∧
      insertPairs matchId middle = some after := by
  simp only [persistRankedPartyGroups, Option.bind_eq_bind, Option.bind_eq_some_iff] at done
  obtain ⟨_, _, middle, groups, pairs⟩ := done
  exact ⟨middle, groups, pairs⟩

/-! ### Counters and ledgers -/

def stackCount (tables : PartyTables) (key : String) : Nat :=
  countOf PartyStackStats.groupKey PartyStackStats.matchCount tables.stackStats key

def pairCount (tables : PartyTables) (players : Int × Int) : Nat :=
  countOf PartyPairStats.players PartyPairStats.matchCount tables.pairStats players

def groupsOf (tables : PartyTables) (key : String) : List PartyGroup :=
  tables.groups.filter fun group => group.groupKey = key

def pairsOf (tables : PartyTables) (players : Int × Int) : List PartyPair :=
  tables.pairs.filter fun pair => pair.players = players

/-- The counters agree with the ledgers, of which no key is taken twice. -/
structure Counted (tables : PartyTables) : Prop where
  stackCounts : ∀ key, stackCount tables key = (groupsOf tables key).length
  pairCounts : ∀ players, pairCount tables players = (pairsOf tables players).length
  groupKeys : (tables.groups.map PartyGroup.key).Nodup
  stackKeys : (tables.stackStats.map PartyStackStats.groupKey).Nodup
  pairKeys : (tables.pairs.map PartyPair.key).Nodup
  pairStatKeys : (tables.pairStats.map PartyPairStats.players).Nodup

/-- The pairs of a group have been taken into the other ledger. -/
def Projected (tables : PartyTables) (group : PartyGroup) : Prop :=
  ∀ pair ∈ group.pairs, pair.key ∈ tables.pairs.map PartyPair.key

theorem nodup_with_fresh {α κ : Type} [DecidableEq κ] {keyOf : α → κ} {old rows : List α}
    (distinct : (old.map keyOf).Nodup) :
    ((old ++ fresh keyOf (old.map keyOf) rows).map keyOf).Nodup := by
  rw [List.map_append]
  apply distinct.append fresh_nodup
  intro key held new
  obtain ⟨row, member, same⟩ := List.mem_map.mp new
  exact (fresh_subset row member).2 (same ▸ held)

theorem count_stats (groups : List PartyGroup) (key : String) :
    (((groups.map PartyGroup.stats).filter fun row => row.groupKey = key).map PartyStackStats.matchCount).sum =
      (groups.filter fun group => group.groupKey = key).length := by
  induction groups with
  | nil => rfl
  | cons group rest ih =>
      by_cases same : group.groupKey = key
      · simp [PartyGroup.stats, same, ← ih, Nat.add_comm]
      · simpa [PartyGroup.stats, same] using ih

theorem count_pairStats (pairs : List PartyPair) (players : Int × Int) :
    ((((Grouping.groups PartyPair.players pairs).map pairStats).filter fun row => row.players = players).map
      PartyPairStats.matchCount).sum = (pairs.filter fun pair => pair.players = players).length := by
  rw [← sum_groups PartyPair.players pairs players, List.filter_map, List.map_map]
  rfl

theorem insertGroups_counted {eligible : List PartyGroup} (counted : Counted tables)
    (done : insertGroups eligible tables = some after) : Counted after := by
  rw [insertGroups_eq done]
  refine ⟨fun key => ?_, counted.pairCounts, nodup_with_fresh counted.groupKeys,
    nodup_upsert PartyStackStats.groupKey_add counted.stackKeys, counted.pairKeys, counted.pairStatKeys⟩
  have before := counted.stackCounts key
  unfold stackCount groupsOf at before ⊢
  rw [countOf_upsert PartyStackStats.groupKey_add PartyStackStats.matchCount_add, before, count_stats,
    List.filter_append, List.length_append]

theorem insertPairs_counted {matchId : Int} (counted : Counted tables)
    (done : insertPairs matchId tables = some after) : Counted after := by
  rw [insertPairs_eq done]
  refine ⟨counted.stackCounts, fun players => ?_, counted.groupKeys, counted.stackKeys,
    nodup_with_fresh counted.pairKeys, nodup_upsert PartyPairStats.players_add counted.pairStatKeys⟩
  have before := counted.pairCounts players
  unfold pairCount pairsOf at before ⊢
  rw [countOf_upsert PartyPairStats.players_add PartyPairStats.matchCount_add, before, count_pairStats, List.filter_append,
    List.length_append]

/-- The statement over the pairs catches up with all groups of its match. -/
theorem insertPairs_projected {matchId : Int} {group : PartyGroup} (done : insertPairs matchId tables = some after)
    (member : group ∈ tables.groups) (given : group.matchId ≠ matchId → Projected tables group) :
    Projected after group := by
  rw [insertPairs_eq done]
  intro pair listed
  rw [List.map_append, List.mem_append]
  by_cases own : group.matchId = matchId
  · have candidate : pair ∈ candidatePairs matchId tables :=
      List.mem_flatMap.mpr ⟨group, by simpa using ⟨member, own⟩, listed⟩
    exact mem_keys_fresh candidate
  · exact .inl (given own pair listed)

/-- What every committed transaction leaves behind. -/
structure Ledgers (tables : PartyTables) : Prop where
  counted : Counted tables
  projected : ∀ group ∈ tables.groups, Projected tables group

theorem mem_newGroups {matchId entryDatetime : Int} {rows : List PartyRow} {group : PartyGroup}
    (member : group ∈ newGroups ((grouped matchId entryDatetime rows).filter PartyGroup.eligible) tables) :
    group.matchId = matchId := by
  obtain ⟨listed, _⟩ := List.mem_filter.mp (fresh_subset group member).1
  obtain ⟨party, _, rfl⟩ := List.mem_map.mp listed
  rfl

theorem persistRankedPartyGroups_ledgers {matchId entryDatetime : Int} {rows : List PartyRow}
    (ledgers : Ledgers tables) (done : persistRankedPartyGroups matchId entryDatetime rows tables = some after) :
    Ledgers after := by
  obtain ⟨middle, groups, pairs⟩ := persistRankedPartyGroups_cases done
  refine ⟨insertPairs_counted (insertGroups_counted ledgers.counted groups) pairs, fun group member => ?_⟩
  have kept : group ∈ middle.groups := by
    rw [insertPairs_eq pairs] at member
    exact member
  apply insertPairs_projected pairs kept
  intro other
  rw [insertGroups_eq groups] at kept ⊢
  rcases List.mem_append.mp kept with old | new
  · exact ledgers.projected group old
  · exact absurd (mem_newGroups new) other

/-- With all of its groups known, the projection of a match changes nothing. -/
theorem persistRankedPartyGroups_known {matchId entryDatetime : Int} {rows : List PartyRow}
    (ledgers : Ledgers tables) (done : persistRankedPartyGroups matchId entryDatetime rows tables = some after)
    (known : ∀ group ∈ (grouped matchId entryDatetime rows).filter PartyGroup.eligible,
      group.key ∈ tables.groups.map PartyGroup.key) : after = tables := by
  obtain ⟨middle, groups, pairs⟩ := persistRankedPartyGroups_cases done
  have none_new : newGroups ((grouped matchId entryDatetime rows).filter PartyGroup.eligible) tables = [] :=
    fresh_nil known
  have unchanged : middle = tables := by
    rw [insertGroups_eq groups, none_new, List.append_nil]
    rfl
  have none_paired : newPairs matchId tables = [] := by
    apply fresh_nil
    intro pair member
    obtain ⟨group, listed, inside⟩ := List.mem_flatMap.mp member
    exact ledgers.projected group (List.mem_filter.mp listed).1 pair inside
  rw [insertPairs_eq pairs, unchanged, none_paired, List.append_nil]
  rfl

/-- All eligible groups are stored afterwards. -/
theorem persistRankedPartyGroups_stored {matchId entryDatetime : Int} {rows : List PartyRow}
    (done : persistRankedPartyGroups matchId entryDatetime rows tables = some after) {group : PartyGroup}
    (member : group ∈ (grouped matchId entryDatetime rows).filter PartyGroup.eligible) :
    group.key ∈ after.groups.map PartyGroup.key := by
  obtain ⟨middle, groups, pairs⟩ := persistRankedPartyGroups_cases done
  rw [insertPairs_eq pairs, insertGroups_eq groups, List.map_append, List.mem_append]
  exact mem_keys_fresh member

theorem persistRankedPartyGroups_grows {matchId entryDatetime : Int} {rows : List PartyRow}
    (done : persistRankedPartyGroups matchId entryDatetime rows tables = some after) :
    tables.groups <+: after.groups := by
  obtain ⟨middle, groups, pairs⟩ := persistRankedPartyGroups_cases done
  rw [insertPairs_eq pairs, insertGroups_eq groups]
  exact List.prefix_append _ _

end

/-! ### The same roster -/

/-- What the parties of a match depend on. -/
def seat (row : PartyRow) : Int × Option Int × Option Int × Option Int :=
  (row.1.playerId, row.1.taskForce, row.2.partyId, row.2.leagueTier)

section
variable {rows others : List PartyRow}

theorem playerIds_increasing : (playerIds rows).Pairwise (· < ·) := by
  have sorted : (playerIds rows).Pairwise (· ≤ ·) := List.pairwise_insertionSort _ _
  have distinct : (playerIds rows).Nodup :=
    (List.perm_insertionSort _ _).nodup_iff.mpr (List.nodup_dedup _)
  exact (sorted.and distinct).imp fun ⟨below, apart⟩ => lt_of_le_of_ne below apart

theorem mem_playerIds {id : Int} : id ∈ playerIds rows ↔ ∃ row ∈ rows, row.1.playerId = id := by
  simp [playerIds]

theorem playerIds_congr (same : ∀ id, id ∈ playerIds rows ↔ id ∈ playerIds others) :
    playerIds rows = playerIds others := by
  have distinct : ∀ list, (playerIds list).Nodup := fun list =>
    playerIds_increasing.imp fun below => ne_of_lt below
  have perm : (playerIds rows).Perm (playerIds others) :=
    (List.perm_ext_iff_of_nodup (distinct rows) (distinct others)).mpr same
  exact perm.eq_of_pairwise (fun left right _ _ below above => absurd (below.trans above) (lt_irrefl left))
    playerIds_increasing playerIds_increasing

theorem foldr_max_le_iff {tiers : List Int} {bound : Int} :
    tiers.foldr max 0 ≤ bound ↔ 0 ≤ bound ∧ ∀ tier ∈ tiers, tier ≤ bound := by
  induction tiers with
  | nil => simp
  | cons tier rest ih =>
      rw [List.foldr_cons, max_le_iff, ih, List.forall_mem_cons]
      tauto

theorem maxKnownTier_le_iff {bound : Int} : maxKnownTier rows ≤ bound ↔
    0 ≤ bound ∧ ∀ row ∈ rows, ∀ tier, row.2.leagueTier = some tier → 0 < tier → tier ≤ bound := by
  rw [maxKnownTier, foldr_max_le_iff]
  simp only [List.mem_filter, List.mem_filterMap, decide_eq_true_eq]
  constructor
  · rintro ⟨positive, bounded⟩
    exact ⟨positive, fun row member tier read known => bounded tier ⟨⟨row, member, read⟩, known⟩⟩
  · rintro ⟨positive, bounded⟩
    exact ⟨positive, fun tier ⟨⟨row, member, read⟩, known⟩ => bounded row member tier read known⟩

theorem members_seats (same : ∀ taken, taken ∈ rows.map seat ↔ taken ∈ others.map seat)
    {party : Option Int × Option Int} {row : PartyRow} (member : row ∈ Grouping.ofKey partyOf rows party) :
    ∃ other ∈ Grouping.ofKey partyOf others party,
      other.1.playerId = row.1.playerId ∧ other.2.leagueTier = row.2.leagueTier := by
  obtain ⟨listed, own⟩ := Grouping.mem_ofKey.mp member
  obtain ⟨other, inside, equal⟩ := List.mem_map.mp ((same (seat row)).mp (List.mem_map_of_mem listed))
  simp only [seat, Prod.mk.injEq] at equal
  obtain ⟨player, force, observed, tier⟩ := equal
  exact ⟨other, Grouping.mem_ofKey.mpr ⟨inside, by rw [← own, partyOf, partyOf, force, observed]⟩, player, tier⟩

/-- Two readings of one roster find the same groups, apart from their entry times. -/
theorem grouped_congr (same : ∀ taken, taken ∈ rows.map seat ↔ taken ∈ others.map seat)
    (matchId entryDatetime otherEntry : Int) {group : PartyGroup}
    (member : group ∈ (grouped matchId entryDatetime rows).filter PartyGroup.eligible) :
    ∃ other ∈ (grouped matchId otherEntry others).filter PartyGroup.eligible, other.key = group.key := by
  obtain ⟨listed, eligible⟩ := List.mem_filter.mp member
  obtain ⟨_, opened, rfl⟩ := List.mem_map.mp listed
  obtain ⟨first, front, rfl⟩ := List.mem_map.mp opened
  have flipped : ∀ taken, taken ∈ others.map seat ↔ taken ∈ rows.map seat := fun taken => (same taken).symm
  have opener : first ∈ Grouping.ofKey partyOf rows (partyOf first) :=
    Grouping.mem_ofKey.mpr ⟨Grouping.firstBy_subset front, rfl⟩
  obtain ⟨seated, held, _⟩ := members_seats same opener
  obtain ⟨inside, own⟩ := Grouping.mem_ofKey.mp held
  obtain ⟨leader, leads, leading⟩ : ∃ leader ∈ Grouping.firstBy partyOf others, partyOf leader = partyOf seated :=
    Grouping.exists_firstBy inside
  have ids : playerIds (Grouping.ofKey partyOf others (partyOf first)) =
      playerIds (Grouping.ofKey partyOf rows (partyOf first)) := by
    apply playerIds_congr
    intro id
    rw [mem_playerIds, mem_playerIds]
    constructor
    · rintro ⟨row, chosen, rfl⟩
      obtain ⟨other, found, player, _⟩ := members_seats flipped chosen
      exact ⟨other, found, player⟩
    · rintro ⟨row, chosen, rfl⟩
      obtain ⟨other, found, player, _⟩ := members_seats same chosen
      exact ⟨other, found, player⟩
  have tiers : maxKnownTier (Grouping.ofKey partyOf others (partyOf first)) =
      maxKnownTier (Grouping.ofKey partyOf rows (partyOf first)) := by
    apply eq_of_forall_ge_iff
    intro bound
    rw [maxKnownTier_le_iff, maxKnownTier_le_iff]
    apply and_congr_right
    intro _
    constructor
    · intro bounded row chosen tier read known
      obtain ⟨other, found, _, equal⟩ := members_seats same chosen
      exact bounded other found tier (equal.trans read) known
    · intro bounded row chosen tier read known
      obtain ⟨other, found, _, equal⟩ := members_seats flipped chosen
      exact bounded other found tier (equal.trans read) known
  have named : partyOf leader = partyOf first := leading.trans own
  have reread : partyGroup matchId otherEntry (partyOf leader, Grouping.ofKey partyOf others (partyOf leader)) =
      { partyGroup matchId entryDatetime (partyOf first, Grouping.ofKey partyOf rows (partyOf first)) with
        entryDatetime := otherEntry } := by
    simp only [partyGroup, named, ids, tiers]
  refine ⟨partyGroup matchId otherEntry (partyOf leader, Grouping.ofKey partyOf others (partyOf leader)),
    List.mem_filter.mpr ⟨List.mem_map.mpr ⟨_, List.mem_map.mpr ⟨leader, leads, rfl⟩, rfl⟩, ?_⟩, ?_⟩
  · rw [reread]
    exact eligible
  · rw [reread]
    rfl

theorem ordinalPairs_below {ids : List Int} (increasing : ids.Pairwise (· < ·)) :
    ∀ pair ∈ ordinalPairs ids, pair.1 < pair.2 := by
  induction ids with
  | nil => simp [ordinalPairs]
  | cons low rest ih =>
      rw [List.pairwise_cons] at increasing
      intro pair member
      rcases List.mem_append.mp member with own | later
      · obtain ⟨high, listed, rfl⟩ := List.mem_map.mp own
        exact increasing.1 high listed
      · exact ih increasing.2 pair later

/-- The rows fit the CHECK constraints of both ledgers. -/
theorem eligible_checks {matchId entryDatetime : Int} {group : PartyGroup}
    (member : group ∈ (grouped matchId entryDatetime rows).filter PartyGroup.eligible) :
    (2 ≤ group.stackSize ∧ group.stackSize ≤ 5) ∧ group.stackSize = group.playerIds.length ∧
      ∀ pair ∈ group.pairs, pair.playerLowId < pair.playerHighId := by
  obtain ⟨listed, eligible⟩ := List.mem_filter.mp member
  obtain ⟨party, _, rfl⟩ := List.mem_map.mp listed
  simp only [PartyGroup.eligible, Bool.and_eq_true, decide_eq_true_eq] at eligible
  refine ⟨eligible.1, rfl, fun pair inside => ?_⟩
  obtain ⟨players, chosen, rfl⟩ := List.mem_map.mp inside
  exact ordinalPairs_below playerIds_increasing players chosen

end

/-! ### Runs -/

/-- A transaction that commits, or any other change of the facts and the workflow rows. -/
inductive PartyEvent (Rating : Type) where
  | finalized (now : Int) (payload : PartyPayload) (source : String)
  | rewritten (store : Store Rating) (columns : PlayerKey → PartyColumns)

def PartyEvent.apply (state : PartyState Rating) : PartyEvent Rating → PartyState Rating
  | .finalized now payload source => (finalizeParties now payload source state).getD state
  | .rewritten store columns => { state with store, columns }

def play (events : List (PartyEvent Rating)) (state : PartyState Rating) : PartyState Rating :=
  events.foldl PartyEvent.apply state

/-- The seats of the match that its transaction finds. -/
def rosterOf (state : PartyState Rating) (payload : PartyPayload) : List (Int × Option Int × Option Int × Option Int) :=
  (partyRows state.store state.columns payload.payload.matchId payload.payload.entryDatetime).map seat

def isRankedMatch (state : PartyState Rating) (payload : PartyPayload) : Prop :=
  (classifyQueue state.store payload.payload.queueId).1 = .ranked

section
variable {state after : PartyState Rating} {now : Int} {payload : PartyPayload} {source : String}

/-- A ranked transaction projects the rows that it leaves; any other leaves the tables alone. -/
theorem finalizeParties_cases (done : finalizeParties now payload source state = some after) :
    (isRankedMatch state payload ∧ persistRankedPartyGroups payload.payload.matchId payload.payload.entryDatetime
      (partyRows after.store after.columns payload.payload.matchId payload.payload.entryDatetime) state.tables =
        some after.tables) ∨
    (¬isRankedMatch state payload ∧ after.tables = state.tables) := by
  unfold finalizeParties finalize at done
  dsimp only at done
  cases conflict : (state.store.ingest payload.payload.matchId).bind
      (factConflict payload.payload (classifyQueue state.store payload.payload.queueId).1) with
  | some error => simp [conflict] at done
  | none =>
      simp only [conflict] at done
      by_cases ranked : (classifyQueue state.store payload.payload.queueId).1 = .ranked
      · rw [if_pos ranked, Option.map_eq_some_iff] at done
        obtain ⟨tables, projected, rfl⟩ := done
        exact .inl ⟨ranked, projected⟩
      · rw [if_neg ranked] at done
        cases done
        exact .inr ⟨ranked, rfl⟩

theorem apply_ledgers (ledgers : Ledgers state.tables) (event : PartyEvent Rating) :
    Ledgers (event.apply state).tables := by
  cases event with
  | rewritten store columns => exact ledgers
  | finalized now payload source =>
      cases done : finalizeParties now payload source state with
      | none => simpa [PartyEvent.apply, done] using ledgers
      | some after =>
          simp only [PartyEvent.apply, done, Option.getD_some]
          rcases finalizeParties_cases done with ⟨_, projected⟩ | ⟨_, kept⟩
          · exact persistRankedPartyGroups_ledgers ledgers projected
          · exact kept ▸ ledgers

theorem play_ledgers (events : List (PartyEvent Rating)) (ledgers : Ledgers state.tables) :
    Ledgers (play events state).tables := by
  induction events generalizing state with
  | nil => exact ledgers
  | cons event rest ih => exact ih (apply_ledgers ledgers event)

theorem empty_ledgers : Ledgers {} :=
  ⟨⟨fun _ => rfl, fun _ => rfl, List.nodup_nil, List.nodup_nil, List.nodup_nil, List.nodup_nil⟩,
    fun _ member => absurd member List.not_mem_nil⟩

theorem apply_groups (event : PartyEvent Rating) : state.tables.groups <+: (event.apply state).tables.groups := by
  cases event with
  | rewritten store columns => exact List.prefix_refl _
  | finalized now payload source =>
      cases done : finalizeParties now payload source state with
      | none => simp [PartyEvent.apply, done]
      | some after =>
          simp only [PartyEvent.apply, done, Option.getD_some]
          rcases finalizeParties_cases done with ⟨_, projected⟩ | ⟨_, kept⟩
          · exact persistRankedPartyGroups_grows projected
          · exact kept ▸ List.prefix_refl _

theorem play_groups (events : List (PartyEvent Rating)) :
    state.tables.groups <+: (play events state).tables.groups := by
  induction events generalizing state with
  | nil => exact List.prefix_refl _
  | cons event rest ih => exact (apply_groups event).trans ih

end

/-- The counters are the sizes of their ledgers after every run, and the replay of a match that was
finalized at any earlier time changes none of the tables if it finds the same roster. -/
theorem party_counters_equal_ledgers (before between : List (PartyEvent Rating)) :
    let reached := play before {}
    (∀ key, stackCount reached.tables key = (groupsOf reached.tables key).length) ∧
    (∀ players, pairCount reached.tables players = (pairsOf reached.tables players).length) ∧
    ∀ now payload source first, finalizeParties now payload source reached = some first →
      isRankedMatch reached payload →
      ∀ again replay later final, finalizeParties again replay later (play between first) = some final →
        replay.payload.matchId = payload.payload.matchId →
        (∀ taken, taken ∈ rosterOf final replay ↔ taken ∈ rosterOf first payload) →
        final.tables = (play between first).tables := by
  intro reached
  have ledgers : Ledgers reached.tables := play_ledgers before empty_ledgers
  refine ⟨ledgers.counted.stackCounts, ledgers.counted.pairCounts, ?_⟩
  intro now payload source first done ranked again replay later final replayed same roster
  have held : Ledgers (play between first).tables := by
    have stepped := apply_ledgers ledgers (.finalized now payload source)
    rw [PartyEvent.apply, done] at stepped
    exact play_ledgers between stepped
  rcases finalizeParties_cases replayed with ⟨_, projected⟩ | ⟨_, kept⟩
  · rcases finalizeParties_cases done with ⟨_, stored⟩ | ⟨unranked, _⟩
    · apply persistRankedPartyGroups_known held projected
      unfold rosterOf at roster
      rw [same] at roster ⊢
      intro group member
      obtain ⟨other, found, key⟩ := grouped_congr roster _ _ payload.payload.entryDatetime member
      obtain ⟨kept, listed, equal⟩ := List.mem_map.mp (persistRankedPartyGroups_stored stored found)
      exact List.mem_map.mpr ⟨kept, (play_groups between).subset listed, equal.trans key⟩
    · exact absurd ranked unranked
  · exact kept

/-! ### A duo, finalized twice -/

def partyMember (playerId : Int) : FactPlayer × PartyColumns :=
  (⟨playerId, 0, none, some 2056, some "Winner", some 1, .direct⟩, ⟨some 7, some 12⟩)

def duo : PartyPayload where
  payload := ⟨900, rankedQueueId, 100, some 1, false, [(partyMember 21).1, (partyMember 12).1]⟩
  roster := [partyMember 21, partyMember 12]
  rosterPlayers := rfl

def rankedQueues : List (PartyEvent Unit) :=
  [.rewritten { queueTypes := fun queue => if queue = rankedQueueId then some ⟨true, .ranked⟩ else none }
    fun _ => ⟨none, none⟩]

def duoFinalized : PartyState Unit := (finalizeParties 0 duo "detail" (play rankedQueues {})).getD {}

theorem duo_tables : duoFinalized.tables =
    { groups := [⟨900, "12:21", [12, 21], 2, some 1, some 7, 12, 100⟩]
      stackStats := [⟨"12:21", [12, 21], 2, 1, 100, 100⟩]
      pairs := [⟨900, 12, 21, "12:21", 100⟩]
      pairStats := [⟨12, 21, 1, 100, 100⟩] } := by
  decide

def duoReplayed : PartyState Unit := (finalizeParties 60 duo "history" duoFinalized).getD {}

theorem duo_counted_once : duoReplayed.tables = duoFinalized.tables ∧ stackCount duoFinalized.tables "12:21" = 1 := by
  constructor
  · exact (party_counters_equal_ledgers rankedQueues []).2.2 0 duo "detail" duoFinalized rfl rfl 60 duo "history"
      duoReplayed rfl rfl fun taken => by rw [show rosterOf duoReplayed duo = rosterOf duoFinalized duo from rfl]
  · rw [duo_tables]
    decide

end PaladinsCat.PartyLedger
