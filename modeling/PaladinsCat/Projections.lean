import PaladinsCat.BackendStore

/-!
The projectors: ranked and cumulative projections of ranked matches
(ranked_projection.rs, projections.rs), the performance histogram and the mechanics
counts of casual matches (casual_performance.rs, casual_mechanics.rs). Each
definition is the body of one transaction or one statement.
-/

namespace PaladinsCat.Backend

variable {Rating : Type}

/-! ### Cumulative projections -/

/-- `project_performance_many`: the matches that it claims are added. -/
def projectPerformanceMany (store : Store Rating) (ids : List Int) : Nat × Store Rating :=
  let claimed := store.unclaimed .performanceProjectionMatches
    (fun id => store.matchRows.any fun row => row.matchId == id && !row.limited) ids
  (claimed.length, (store.claim .performanceProjectionMatches claimed).addTo performanceTables claimed)

def projectScalableMany (store : Store Rating) (ids : List Int) : Nat × Store Rating :=
  let claimed := store.unclaimed .statsProjectionMatches
    (fun id => store.matchRows.any fun row =>
      row.matchId == id && row.queueId == rankedQueueId && !row.limited) ids
  (claimed.length, (store.claim .statsProjectionMatches claimed).addTo scalableTables claimed)

def projectCasualPerformanceMany (store : Store Rating) (ids : List Int) : Nat × Store Rating :=
  let claimed := store.unclaimed .casualPerformanceProjectionMatches
    (fun id => store.casualMatches.any fun row =>
      row.matchId == id && (row.queueId == 424 || row.queueId == 452)) ids
  (claimed.length, (store.claim .casualPerformanceProjectionMatches claimed).addTo
    [.casualPerformanceMetricHistogram] claimed)

inductive CumulativeStage where
  | performance
  | scalable
  deriving DecidableEq

def CumulativeStage.stage : CumulativeStage → Stage
  | .performance => .performanceProjections
  | .scalable => .scalableStats

def CumulativeStage.project (stage : CumulativeStage) (store : Store Rating) (ids : List Int) :
    Nat × Store Rating :=
  match stage with
  | .performance => projectPerformanceMany store ids
  | .scalable => projectScalableMany store ids

/-- `UPDATE … SET completed_stages=array_append(…) WHERE match_id=ANY($1)`. -/
def appendStage (store : Store Rating) (ids : List Int) (stage : Stage) : Store Rating :=
  { store with ingest := fun id =>
      if id ∈ ids then (store.ingest id).map (·.addStage stage) else store.ingest id }

/-- The transaction of `project_cumulative_batch`. -/
def projectCumulativeBatch (store : Store Rating) (ids : List Int) (stage : CumulativeStage) : Store Rating :=
  appendStage (stage.project store ids).2 ids stage.stage

/-! ### project_match -/

def rankedCandidate (store : Store Rating) (matchId : Int) : Bool :=
  (store.ingest matchId).any (·.population == .ranked) &&
    store.matchRows.any fun row => row.matchId == matchId && row.queueId == rankedQueueId && !row.limited

def hasOutcome (winStatus : Option String) : Bool :=
  ["winner", "win", "loser", "loss"].contains (Text.toAsciiLowercase (winStatus.getD ""))

def rankedEligible (store : Store Rating) (matchId : Int) : Bool :=
  (store.matchRows.any fun row => row.matchId == matchId && row.queueId == rankedQueueId) &&
    decide (10 ≤ store.matchPlayers.countP fun player =>
      player.matchId == matchId && player.isRanked && player.championId.any (0 < ·) &&
        hasOutcome player.winStatus)

inductive RankedStageResult where
  | rejected
  | projectedBefore (needsPerformance needsScalable : Bool)
  | projected
  deriving DecidableEq

/-- The count tables are added to unconditionally, but the counts of items on maps
claim the match in a ledger of their own. -/
def addRankedCounts (store : Store Rating) (matchId : Int) : Store Rating :=
  let claimed := store.unclaimed .mapItemCountsRankedMatches (fun _ => true) [matchId]
  ((store.claim .mapItemCountsRankedMatches claimed).addTo [.mapItemCountsRanked] claimed).addTo
    (rankedTables.filter (· != .mapItemCountsRanked)) [matchId]

/-- The transaction of `project_match` that holds the row lock. -/
def projectRankedStats (store : Store Rating) (matchId : Int) : RankedStageResult × Store Rating :=
  match store.ingest matchId with
  | none => (.rejected, store)
  | some row =>
      if row.population ≠ .ranked then (.rejected, store)
      else if .rankedStats ∈ row.completedStages then
        (.projectedBefore (decide (.performanceProjections ∉ row.completedStages))
          (decide (.scalableStats ∉ row.completedStages)), store)
      else if rankedEligible store matchId then
        (.projected, (addRankedCounts store matchId).updateIngest matchId fun row =>
          some (row.addStage .rankedStats))
      else (.rejected, store)

/-- The last statement of `finish_cumulative_stages`. -/
def finishRanked (now : Int) (store : Store Rating) (matchId : Int) : Store Rating :=
  store.updateIngest matchId fun row =>
    if rankedStages ⊆ row.completedStages then some (row.close now) else none

/-! ### complete_cumulative_stages_for_matches -/

def cumulativeStageCandidates (store : Store Rating) (ids : List Int) (stage : Stage) : List Int :=
  ((store.matchRows.filter fun row =>
    ids.contains row.matchId && row.queueId == rankedQueueId && !row.limited &&
      (store.ingest row.matchId).any fun ingest =>
        ingest.population == .ranked && decide (.rankedStats ∈ ingest.completedStages) &&
          decide (stage ∉ ingest.completedStages)).map (·.matchId)).insertionSort (· ≤ ·)

/-- Whether the closing statement of the batch takes a row. -/
def closesRanked (row : IngestRow) : Bool :=
  row.population == .ranked && decide (rankedStages ⊆ row.completedStages) && row.status != .complete

def completeRanked (now : Int) (store : Store Rating) (ids : List Int) : Nat × Store Rating :=
  ((ids.filter fun id => (store.ingest id).any closesRanked).dedup.length,
    { store with ingest := fun id =>
        if id ∈ ids then (store.ingest id).map fun row => if closesRanked row then row.close now else row
        else store.ingest id })

/-! ### Repairs -/

/-- The ids that the query of `repair_ranked_projection_gaps` selects. -/
def rankedGapPage (store : Store Rating) (pageSize : Nat) : List Int :=
  let rows := store.matchRows.filter fun row =>
    (store.ingest row.matchId).any (·.status == .complete) &&
      !(store.claimed .statsProjectionMatches).contains row.matchId &&
      row.queueId == rankedQueueId && !row.limited
  (((rows.map fun row => (row.entryDatetime, row.matchId)).insertionSort fun left right =>
    (compareLex (compareOn fun row : Int × Int => row.1) (compareOn fun row => row.2) left right).isLE).take
    pageSize).map (·.2)

/-- The transaction of `repair_ranked_projection_gaps`: it claims the page itself,
and then calls the projectors, which claim again. -/
def repairRankedChunk (store : Store Rating) (ids : List Int) : Nat × Store Rating :=
  let claimed := store.unclaimed .statsProjectionMatches (fun _ => true) ids
  if claimed.isEmpty then (0, store)
  else
    let scalable := (projectScalableMany (store.claim .statsProjectionMatches claimed) claimed).2
    (claimed.length, (projectPerformanceMany scalable claimed).2)

def casualGapPage (store : Store Rating) (pageSize : Nat) : List Int :=
  let rows := store.casualMatches.filter fun row =>
    (store.ingest row.matchId).any (·.status == .complete) &&
      !(store.claimed .casualPerformanceProjectionMatches).contains row.matchId &&
      (row.queueId == 424 || row.queueId == 452)
  (((rows.map fun row => (row.entryDatetime, row.matchId)).insertionSort fun left right =>
    (compareLex (compareOn fun row : Int × Int => row.1) (compareOn fun row => row.2) left right).isLE).take
    pageSize).map (·.2)

def repairCasualChunk (store : Store Rating) (ids : List Int) : Nat × Store Rating :=
  let claimed := store.unclaimed .casualPerformanceProjectionMatches (fun _ => true) ids
  if claimed.isEmpty then (0, store)
  else
    (claimed.length,
      (projectCasualPerformanceMany (store.claim .casualPerformanceProjectionMatches claimed) claimed).2)

/-! ### project_all_for_match -/

inductive CasualItemProjectionResult where
  | projected
  | alreadyProjected
  deriving DecidableEq

/-- A non-ranked match with complete facts. -/
def mechanicsContext (store : Store Rating) (matchId : Int) : Bool :=
  ((store.casualMatches ++ store.specialMatches).any fun row => row.matchId == matchId) &&
    (store.ingest matchId).any fun ingest =>
      (ingest.population == .casual || ingest.population == .special) &&
        (ingest.status == .complete || decide (.playerFacts ∈ ingest.completedStages))

/-- `upsert_item_projection_for_match` and `project_fact_family`, with the ledger and
the table of the family; nothing if the match is rejected. -/
def projectFactFamily (ledger : Ledger) (table : Aggregate) (store : Store Rating) (matchId : Int) :
    Option CasualItemProjectionResult × Store Rating :=
  if mechanicsContext store matchId then
    if (store.claimed ledger).contains matchId then (some .alreadyProjected, store)
    else (some .projected, (store.claim ledger [matchId]).addTo [table] [matchId])
  else (none, store)

def finishMechanics (now : Int) (store : Store Rating) (matchId : Int) : Store Rating :=
  store.updateIngest matchId fun row =>
    if row.population = .casual ∨ row.population = .special then
      some ((row.addStage (if row.population = .special then .specialMechanicsStats
        else .casualMechanicsStats)).close now)
    else none

end PaladinsCat.Backend
