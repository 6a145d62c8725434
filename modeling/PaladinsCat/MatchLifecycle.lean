import PaladinsCat.BackendStore

/-!
The lifecycle of a match in `match_ingest_status`: discovery, leases, checkpoints and
completion (match_lifecycle.rs), and the transaction that writes its facts
(match_facts.rs). Each statement guards the columns with conditions of its own.
-/

namespace PaladinsCat.Backend

variable {Rating : Type}

/-! ### Discovery -/

def terminalNoCompletedMatchReason : String := "provider returned no completed match"

inductive MatchDiscoverySource where
  | hourlyDiscovery
  | profileHistory
  | directLookup
  | recovery
  deriving DecidableEq

def MatchDiscoverySource.asDatabase : MatchDiscoverySource → String
  | .hourlyDiscovery => "hourly_discovery"
  | .profileHistory => "profile_history"
  | .directLookup => "direct_lookup"
  | .recovery => "recovery"

structure MatchDiscovery where
  matchId : Int
  queueId : Option Int
  source : MatchDiscoverySource

structure MatchDiscoveryRegistration where
  matchId : Int
  population : MatchPopulation
  needsWork : Bool

inductive ConflictError where
  | population (matchId : Int) (existing incoming : MatchPopulation)
  | queue (matchId : Int) (existing incoming : Int)

def populationForQueue (queue : QueueType) : MatchPopulation :=
  if queue.isRanked || queue.statsScope == .ranked then .ranked
  else if queue.statsScope == .casual then .casual
  else .special

def incomingPopulation (store : Store Rating) (queueId : Option Int) : MatchPopulation :=
  ((queueId.bind store.queueTypes).map populationForQueue).getD .unknown

/-- A limited row that was unavailable for another reason than the final one. -/
def IngestRow.reopens (row : IngestRow) : Bool :=
  row.status == .limited && row.acquisitionState == .unavailable &&
    row.errorMessage != some terminalNoCompletedMatchReason

def registeredRow (discovery : MatchDiscovery) (population : MatchPopulation) :
    Option IngestRow → IngestRow
  | none =>
      { source := some discovery.source.asDatabase
        queueId := discovery.queueId
        population }
  | some row =>
      { row with
        status := if row.reopens then .processing else row.status
        source := row.source.or (some discovery.source.asDatabase)
        queueId := row.queueId.or discovery.queueId
        population := if row.population = .unknown then population else row.population
        acquisitionState := if row.reopens then .discovered else row.acquisitionState
        errorMessage := if row.reopens then none else row.errorMessage
        completedAt := if row.reopens then none else row.completedAt }

def discoveryConflict (discovery : MatchDiscovery) (population : MatchPopulation) (row : IngestRow) :
    Option ConflictError :=
  if row.population ≠ .unknown ∧ population ≠ .unknown ∧ row.population ≠ population then
    some (.population discovery.matchId row.population population)
  else
    match row.queueId, discovery.queueId with
    | some existing, some incoming =>
        if existing ≠ incoming then some (.queue discovery.matchId existing incoming) else none
    | _, _ => none

def registerDiscovery (store : Store Rating) (discovery : MatchDiscovery) :
    Except ConflictError MatchDiscoveryRegistration × Store Rating :=
  let population := incomingPopulation store discovery.queueId
  let existing := store.ingest discovery.matchId
  match existing.bind (discoveryConflict discovery population) with
  | some conflict => (.error conflict, store)
  | none =>
      let row := registeredRow discovery population existing
      (.ok ⟨discovery.matchId, row.population, row.status != .complete && row.status != .limited⟩,
        { store with ingest := Function.update store.ingest discovery.matchId (some row) })

/-! ### Leases -/

/-- The lease is held by this owner and has not run out. -/
def IngestRow.leasedTo (row : IngestRow) (owner : String) (now : Int) : Bool :=
  row.leaseOwner == some owner && row.leaseUntil.any (now < ·)

def claimedRow (now : Int) (source owner : String) (leaseSeconds : Int) : Option IngestRow → Option IngestRow
  | none =>
      some
        { source := some source
          attempts := 1
          leaseOwner := some owner
          leaseUntil := some (now + leaseSeconds) }
  | some row =>
      if row.status != .complete && row.status != .limited &&
          (row.leaseUntil.all (· ≤ now) || row.leaseOwner == some owner) then
        some
          { row with
            status := if row.status = .failed then .processing else row.status
            source := row.source.or (some source)
            attempts := row.attempts + 1
            leaseOwner := some owner
            leaseUntil := some (now + leaseSeconds) }
      else none

/-- `claim`: the row that it returns, if it got the lease. -/
def claimMatch (now : Int) (store : Store Rating) (matchId : Int) (source owner : String) (leaseSeconds : Int) :
    Option IngestRow × Store Rating :=
  match claimedRow now source owner leaseSeconds (store.ingest matchId) with
  | some row => (some row, { store with ingest := Function.update store.ingest matchId (some row) })
  | none => (none, store)

structure MatchCheckpoint where
  queueId : Option Int
  population : MatchPopulation
  acquisitionState : AcquisitionState
  detailAttempted : Bool
  rosterResolved : Bool
  demoResolved : Bool
  directPlayerCount : Int
  rosterPlayerCount : Int
  unresolvedPlayerIds : List Int

def stamped (flag : Bool) (now : Int) (stored : Option Int) : Option Int :=
  if flag then stored.or (some now) else stored

def checkpointRow (now : Int) (owner : String) (checkpoint : MatchCheckpoint) (row : IngestRow) :
    Option IngestRow :=
  if row.leasedTo owner now then
    some
      { row with
        queueId := checkpoint.queueId.or row.queueId
        population := if row.population = .unknown then checkpoint.population else row.population
        acquisitionState := checkpoint.acquisitionState
        detailAttemptedAt := stamped checkpoint.detailAttempted now row.detailAttemptedAt
        rosterResolvedAt := stamped checkpoint.rosterResolved now row.rosterResolvedAt
        demoResolvedAt := stamped checkpoint.demoResolved now row.demoResolvedAt
        directPlayerCount := checkpoint.directPlayerCount
        rosterPlayerCount := checkpoint.rosterPlayerCount
        unresolvedPlayerIds := checkpoint.unresolvedPlayerIds }
  else none

def releaseRow (owner : String) (row : IngestRow) : Option IngestRow :=
  if row.leaseOwner = some owner then some { row with leaseOwner := none, leaseUntil := none } else none

/-! ### Completion -/

def factsDurable (stages : Finset Stage) : Bool := decide ({Stage.playerFacts, Stage.matchBans} ⊆ stages)

/-- The stage that the planner and `COMPLETE_SQL` ask of a population. -/
def projectionComplete (population : MatchPopulation) (stages : Finset Stage) : Bool :=
  match population with
  | .ranked => decide (.rankedStats ∈ stages)
  | .casual => decide (.casualMechanicsStats ∈ stages)
  | .special => decide (.specialMechanicsStats ∈ stages)
  | .unknown => false

def completeRow (now : Int) (owner : String) (row : IngestRow) : Option IngestRow :=
  if row.leasedTo owner now && factsDurable row.completedStages &&
      projectionComplete row.population row.completedStages then
    some { row.close now with errorMessage := none }
  else none

def unavailableRow (now : Int) (queueId : Int) (source : MatchDiscoverySource) (reason : String) :
    Option IngestRow → Option IngestRow
  | none =>
      some
        { status := .limited
          source := some source.asDatabase
          attempts := 1
          errorMessage := some reason
          queueId := some queueId
          acquisitionState := .unavailable
          completedAt := some now }
  | some row =>
      if row.status = .complete then none
      else
        some
          { row with
            status := .limited
            source := some source.asDatabase
            attempts := row.attempts + 1
            errorMessage := some reason
            queueId := row.queueId.or (some queueId)
            acquisitionState := .unavailable
            completedAt := row.completedAt.or (some now)
            leaseOwner := none
            leaseUntil := none }

def markTerminalUnavailable (now : Int) (store : Store Rating) (matchId queueId : Int)
    (source : MatchDiscoverySource) (reason : String) : Store Rating :=
  match unavailableRow now queueId source reason (store.ingest matchId) with
  | some row => { store with ingest := Function.update store.ingest matchId (some row) }
  | none => store

/-! ### plan_match_lifecycle -/

structure MatchEvidence where
  completedStages : Finset Stage
  population : MatchPopulation
  detailAttempted : Bool
  rosterResolved : Bool
  demoResolved : Bool
  directPlayerIds : Finset Int
  rosterPlayerIds : Finset Int
  historyPlayerIds : Finset Int
  unresolvedPlayerIds : Finset Int

inductive MatchLifecycleAction where
  | fetchDetail
  | fetchRoster
  | fetchHistories (ids : List Int)
  | fetchDemo
  | finalizeFacts
  | project (population : MatchPopulation)
  | complete
  deriving DecidableEq

def missingHistoryIds (evidence : MatchEvidence) : List Int :=
  let known := evidence.directPlayerIds ∪ evidence.historyPlayerIds
  ((evidence.rosterPlayerIds \ known) ∪ (evidence.unresolvedPlayerIds \ known)).sort (· ≤ ·)

def planMatchLifecycle (evidence : MatchEvidence) : List MatchLifecycleAction :=
  if factsDurable evidence.completedStages then
    if projectionComplete evidence.population evidence.completedStages then [.complete]
    else if evidence.population = .unknown then [.finalizeFacts]
    else [.project evidence.population]
  else if !evidence.detailAttempted then [.fetchDetail]
  else if !evidence.rosterResolved then [.fetchRoster]
  else
    let missing := missingHistoryIds evidence
    let actions := (if missing.isEmpty then [] else [.fetchHistories missing]) ++
      (if evidence.demoResolved then [] else [.fetchDemo])
    if actions.isEmpty then [.finalizeFacts] else actions

/-! ### finalize -/

structure FactPlayer where
  playerId : Int
  privateSlot : Int
  playerName : Option String
  championId : Option Int
  winStatus : Option String
  taskForce : Option Int
  source : PlayerSource

/-- A validated payload with its normalized players and quality. -/
structure CanonicalMatchPayload where
  matchId : Int
  queueId : Int
  entryDatetime : Int
  winningTaskForce : Option Int
  limited : Bool
  players : List FactPlayer

structure MatchFactFinalization where
  matchId : Int
  population : MatchPopulation
  playerCount : Nat
  factsWritten : Bool
  completedStages : Finset Stage

def factStages : Finset Stage := {.core, .playerFacts, .matchBans}

/-- An unknown queue is entered as an unclassified special one. -/
def classifyQueue (store : Store Rating) (queueId : Int) : MatchPopulation × Store Rating :=
  match store.queueTypes queueId with
  | some queue => (populationForQueue queue, store)
  | none =>
      (.special, { store with
        queueTypes := Function.update store.queueTypes queueId (some ⟨false, .other⟩) })

def factConflict (payload : CanonicalMatchPayload) (population : MatchPopulation) (row : IngestRow) :
    Option ConflictError :=
  if row.queueId.any (· != payload.queueId) then
    some (.queue payload.matchId (row.queueId.getD 0) payload.queueId)
  else if row.population ≠ .unknown ∧ row.population ≠ population then
    some (.population payload.matchId row.population population)
  else none

/-- `lock_ingest_status`: terminal states are kept. -/
def lockedRow (now : Int) (payload : CanonicalMatchPayload) (population : MatchPopulation)
    (source : String) : Option IngestRow → IngestRow
  | none =>
      { source := some source
        attempts := 1
        queueId := some payload.queueId
        population
        acquisitionState := .detailComplete
        detailAttemptedAt := some now }
  | some row =>
      { row with
        status := if row.status = .complete ∨ row.status = .limited then row.status else .processing
        source := some source
        attempts := row.attempts + 1
        queueId := row.queueId.or (some payload.queueId)
        population := if row.population = .unknown then population else row.population
        acquisitionState :=
          if row.acquisitionState = .complete ∨ row.acquisitionState = .limited then row.acquisitionState
          else .detailComplete
        detailAttemptedAt := row.detailAttemptedAt.or (some now)
        errorMessage := none }

def persistMatch (store : Store Rating) (payload : CanonicalMatchPayload) : Store Rating :=
  let incoming : MatchRow :=
    { matchId := payload.matchId
      entryDatetime := payload.entryDatetime
      queueId := payload.queueId
      isRanked := some true
      limited := payload.limited
      winningTaskForce := payload.winningTaskForce }
  let sameKey := fun row : MatchRow =>
    row.matchId == payload.matchId && row.entryDatetime == payload.entryDatetime
  { store with
    matchRows := if store.matchRows.any sameKey then store.matchRows.map fun row =>
        if sameKey row then { row with limited := payload.limited, winningTaskForce := payload.winningTaskForce }
        else row
      else store.matchRows ++ [incoming] }

def upsertNonranked (rows : List NonrankedMatchRow) (incoming : NonrankedMatchRow) : List NonrankedMatchRow :=
  rows.filter (·.matchId != incoming.matchId) ++ [incoming]

def persistNonrankedMatch (store : Store Rating) (payload : CanonicalMatchPayload)
    (population : MatchPopulation) : Store Rating :=
  let incoming : NonrankedMatchRow := ⟨payload.matchId, payload.queueId, payload.entryDatetime⟩
  if population = .casual then { store with casualMatches := upsertNonranked store.casualMatches incoming }
  else { store with specialMatches := upsertNonranked store.specialMatches incoming }

def PlayerSource.rank : PlayerSource → Nat
  | .direct => 4
  | .recovered => 3
  | .minimal => 1

def sourceRank (source : Option PlayerSource) : Nat := (source.map PlayerSource.rank).getD 1

def persistPlayer (payload : CanonicalMatchPayload) (rows : List MatchPlayerRow) (player : FactPlayer) :
    List MatchPlayerRow :=
  let incoming : MatchPlayerRow :=
    { matchId := payload.matchId
      playerId := player.playerId
      privateSlot := player.privateSlot
      entryDatetime := payload.entryDatetime
      playerName := player.playerName
      championId := player.championId
      winStatus := player.winStatus
      taskForce := player.taskForce
      source := some player.source
      isRanked := true }
  let sameKey := fun row : MatchPlayerRow =>
    row.matchId == payload.matchId && row.playerId == player.playerId &&
      row.privateSlot == player.privateSlot && row.entryDatetime == payload.entryDatetime
  if rows.any sameKey then
    rows.map fun row =>
      if sameKey row && decide (sourceRank row.source ≤ player.source.rank) then
        { incoming with isRanked := row.isRanked } else row
  else rows ++ [incoming]

/-- Rows of the same player and match under another entry time give way to rows of
at least their rank. -/
def dropOtherEntries (payload : CanonicalMatchPayload) (rows : List MatchPlayerRow) : List MatchPlayerRow :=
  rows.filter fun row => !(row.matchId == payload.matchId && row.entryDatetime != payload.entryDatetime &&
    payload.players.any fun player => player.playerId == row.playerId &&
      player.privateSlot == row.privateSlot && decide (sourceRank row.source ≤ player.source.rank))

def persistPlayerFacts (store : Store Rating) (payload : CanonicalMatchPayload) : Store Rating :=
  { store with
    matchPlayers := dropOtherEntries payload (payload.players.foldl (persistPlayer payload) store.matchPlayers) }

/-- The facts that a stage of the row does not have behind it yet. -/
def persistFacts (store : Store Rating) (payload : CanonicalMatchPayload) (population : MatchPopulation)
    (stages : Finset Stage) : Store Rating :=
  let core := if .core ∈ stages then store
    else if population = .ranked then persistMatch store payload
    else persistNonrankedMatch store payload population
  if .playerFacts ∈ stages then core
  else if population = .ranked then persistPlayerFacts core payload
  else core

/-- The closing `UPDATE` of `finalize`. -/
def closedRow (now : Int) (payload : CanonicalMatchPayload) (row : IngestRow) : IngestRow :=
  { row with
    status := if row.status = .complete ∨ row.status = .limited then row.status
      else if payload.limited then .limited else .partialFacts
    acquisitionState := if payload.limited then .limited else .factsReady
    directPlayerCount := payload.players.countP fun player =>
      player.source == .direct || player.source == .recovered
    rosterPlayerCount := payload.players.length
    unresolvedPlayerIds := []
    errorMessage := none
    completedAt := if payload.limited then row.completedAt.or (some now) else row.completedAt }

def finalize (now : Int) (store : Store Rating) (payload : CanonicalMatchPayload) (source : String) :
    Except ConflictError MatchFactFinalization × Store Rating :=
  let classified := classifyQueue store payload.queueId
  let population := classified.1
  let existing := store.ingest payload.matchId
  match existing.bind (factConflict payload population) with
  | some conflict => (.error conflict, store)
  | none =>
      let locked := lockedRow now payload population source existing
      let persisted := persistFacts classified.2 payload population locked.completedStages
      let row := closedRow now payload
        { locked with completedStages := locked.completedStages ∪ factStages }
      (.ok
        { matchId := payload.matchId
          population
          playerCount := payload.players.length
          factsWritten := !decide (factStages ⊆ locked.completedStages)
          completedStages := locked.completedStages ∪ factStages },
        { persisted with ingest := Function.update persisted.ingest payload.matchId (some row) })

end PaladinsCat.Backend
