import PaladinsCat.BackendStore

/-!
Glicko ratings of ranked matches (rating.rs). A match is applied in one transaction
under an advisory lock: the changes are calculated from the facts and the ratings
as they stand, and written to the rating tables and the snapshots together. A
pending rebuild request freezes the incremental updates; the rebuild starts from
empty rating tables and applies the complete matches in order.
-/

namespace PaladinsCat.Backend

/-- The arithmetic of ratings: `glicko_update` against opponents of equal weight,
and the bounds of a stored state. -/
structure Glicko (Rating : Type) where
  initial : Rating
  isValidState : Rating → Bool
  glickoUpdate : Rating → List Rating → Bool → Except String Rating

inductive RatingApplicationResult where
  | applied
  | skipped
  | deferred
  | busy
  deriving DecidableEq, Repr

/-! ### calculate_changes -/

structure Player (Rating : Type) where
  playerId : Int
  championId : Int
  winStatus : String
  taskForce : Int
  source : PlayerSource
  queueId : Int
  winningTaskForce : Int
  rosterCount : Nat
  privateCount : Nat
  teamOne : Nat
  teamTwo : Nat
  queue : Rating
  champion : Rating

structure Change (Rating : Type) where
  playerId : Int
  championId : Int
  matchId : Int
  queueId : Int
  queuePre : Rating
  queuePost : Rating
  championPre : Rating
  championPost : Rating
  isWinner : Bool

variable {Rating : Type}

def isRanked (row : MatchRow) : Bool := row.isRanked.getD (row.queueId == rankedQueueId)

/-- The conditions of the query on the match. -/
def rateableMatch (store : Store Rating) (row : MatchRow) : Bool :=
  row.queueId == rankedQueueId && !row.limited && isRanked row &&
    (row.winningTaskForce == some 1 || row.winningTaskForce == some 2) &&
    (store.ingest row.matchId).all fun ingest =>
      ingest.status == .processing || ingest.status == .partialFacts || ingest.status == .complete

/-- The conditions of the query on a player. -/
def rateablePlayer (row : MatchPlayerRow) : Bool :=
  row.source != some .minimal && decide (0 < row.playerId) && row.championId.any (0 < ·) &&
    (row.taskForce == some 1 || row.taskForce == some 2) &&
    row.winStatus.any fun status => ["Winner", "Loser", "Win", "Loss"].contains status

def playersOf (store : Store Rating) (row : MatchRow) : List MatchPlayerRow :=
  store.matchPlayers.filter fun player =>
    player.matchId == row.matchId && player.entryDatetime == row.entryDatetime

def isPrivateAccount (player : MatchPlayerRow) : Bool :=
  player.playerId == 0 && Text.eqIgnoreAsciiCase (player.playerName.getD "") "PRIVATEACCOUNT"

def normalizedWinStatus (status : String) : String :=
  if status = "Winner" ∨ status = "Win" then "Winner"
  else if status = "Loser" ∨ status = "Loss" then "Loser"
  else status

def byTeamAndId (left right : MatchRow × MatchPlayerRow) : Bool :=
  (compareLex (compareOn fun row => row.2.taskForce.getD 0) (compareOn fun row => row.2.playerId)
    left right).isLE

/-- The rows of the query, in its order. -/
def ratedRows (store : Store Rating) (matchId : Int) : List (MatchRow × MatchPlayerRow) :=
  ((store.matchRows.filter fun row => row.matchId == matchId && rateableMatch store row).flatMap fun row =>
    ((playersOf store row).filter rateablePlayer).map fun player => (row, player)).insertionSort
      fun left right => byTeamAndId left right

/-- `state`: a missing rating is the initial one. -/
def ratingState (glicko : Glicko Rating) (stored : Option Rating) : Except String Rating :=
  let state := stored.getD glicko.initial
  if glicko.isValidState state then .ok state else .error "stored state is outside safe bounds"

def player (glicko : Glicko Rating) (store : Store Rating) (row : MatchRow × MatchPlayerRow) :
    Except String (Player Rating) := do
  let championId := row.2.championId.getD 0
  let queue ← ratingState glicko (store.queueRatings row.2.playerId row.1.queueId)
  let champion ← ratingState glicko
    ((store.championRatings row.2.playerId championId).map ChampionRating.rating)
  return {
    playerId := row.2.playerId
    championId
    winStatus := normalizedWinStatus (row.2.winStatus.getD "")
    taskForce := row.2.taskForce.getD 0
    source := row.2.source.getD .direct
    queueId := row.1.queueId
    winningTaskForce := row.1.winningTaskForce.getD 0
    rosterCount := (playersOf store row.1).length
    privateCount := (playersOf store row.1).countP isPrivateAccount
    teamOne := (playersOf store row.1).countP fun player => player.taskForce == some 1
    teamTwo := (playersOf store row.1).countP fun player => player.taskForce == some 2
    queue
    champion }

def validRoster : List (Player Rating) → Bool
  | [] => false
  | first :: rest =>
      let players := first :: rest
      decide (players.length ≤ 10) && decide (players.map Player.playerId).Nodup &&
        first.rosterCount == 10 && first.privateCount + players.length == 10 &&
        first.teamOne == 5 && first.teamTwo == 5 &&
        (first.winningTaskForce == 1 || first.winningTaskForce == 2) &&
        players.all fun row =>
          (row.winStatus == "Winner" || row.winStatus == "Loser") &&
            (row.taskForce == 1 || row.taskForce == 2) && decide (0 < row.championId) &&
            row.source != .minimal && row.queueId == rankedQueueId &&
            ((row.winStatus == "Winner") == (row.taskForce == first.winningTaskForce))

def opponentsOf (players : List (Player Rating)) (current : Player Rating) : List (Player Rating) :=
  players.filter fun row => row.taskForce != current.taskForce

def changeOf (glicko : Glicko Rating) (matchId : Int) (players : List (Player Rating))
    (current : Player Rating) : Except String (Change Rating) := do
  let opponents := opponentsOf players current
  let winner := current.winStatus == "Winner"
  let queuePost ← glicko.glickoUpdate current.queue (opponents.map Player.queue) winner
  let championPost ← glicko.glickoUpdate current.champion (opponents.map Player.champion) winner
  return {
    playerId := current.playerId
    championId := current.championId
    matchId
    queueId := current.queueId
    queuePre := current.queue
    queuePost
    championPre := current.champion
    championPost
    isWinner := winner }

/-- The loop over the players; one without opponents, or with more than five, ends
it with no changes at all. -/
def changesFor (glicko : Glicko Rating) (matchId : Int) (players : List (Player Rating)) :
    List (Change Rating) → List (Player Rating) → Except String (List (Change Rating))
  | changes, [] => .ok changes
  | changes, current :: rest =>
      let opponents := opponentsOf players current
      if opponents.isEmpty || decide (5 < opponents.length) then .ok []
      else
        match changeOf glicko matchId players current with
        | .error reason => .error reason
        | .ok change => changesFor glicko matchId players (changes ++ [change]) rest

def collectPlayers (glicko : Glicko Rating) (store : Store Rating) :
    List (MatchRow × MatchPlayerRow) → Except String (List (Player Rating))
  | [] => .ok []
  | row :: rest => do return (← player glicko store row) :: (← collectPlayers glicko store rest)

def calculateChanges (glicko : Glicko Rating) (store : Store Rating) (matchId : Int) :
    Except String (List (Change Rating)) := do
  let rows := ratedRows store matchId
  if rows.isEmpty then return []
  let players ← collectPlayers glicko store rows
  if validRoster players then changesFor glicko matchId players [] players else return []

/-! ### apply_changes -/

def Change.snapshot (change : Change Rating) : Snapshot Rating :=
  { matchId := change.matchId
    playerId := change.playerId
    championId := change.championId
    queuePre := change.queuePre
    queuePost := change.queuePost
    championPre := change.championPre
    championPost := change.championPost }

/-- `INSERT INTO player_champion_ratings … ON CONFLICT DO UPDATE` of one change. -/
def ChampionRating.count (stored : Option (ChampionRating Rating)) (change : Change Rating) :
    ChampionRating Rating :=
  let won := if change.isWinner then 1 else 0
  let lost := if change.isWinner then 0 else 1
  match stored with
  | none => ⟨change.championPost, 1, won, lost⟩
  | some row => ⟨change.championPost, row.matchesPlayed + 1, row.wins + won, row.losses + lost⟩

def writeChange (store : Store Rating) (change : Change Rating) : Store Rating :=
  { store with
    queueRatings := Function.update store.queueRatings change.playerId
      (Function.update (store.queueRatings change.playerId) change.queueId (some change.queuePost))
    championRatings := Function.update store.championRatings change.playerId
      (Function.update (store.championRatings change.playerId) change.championId
        (some (ChampionRating.count (store.championRatings change.playerId change.championId) change)))
    snapshots := store.snapshots ++ [change.snapshot] }

/-- Nothing is written if the match has snapshots already. -/
def applyChanges (store : Store Rating) (matchId : Int) (changes : List (Change Rating)) :
    Option (Store Rating) :=
  if store.snapshots.any fun snapshot => snapshot.matchId == matchId then none
  else some (changes.foldl writeChange store)

/-! ### The steps around it -/

/-- The first match row with an earlier entry than one of its players' cursors. -/
def lateArrival (store : Store Rating) (matchId : Int) : Option (Int × Int) :=
  (store.matchRows.filter (·.matchId == matchId)).findSome? fun row =>
    let later := (playersOf store row).filterMap fun player =>
      (store.cursors row.queueId player.playerId).bind fun cursor =>
        if row.entryDatetime < cursor.lastEntryDatetime then some cursor.lastEntryDatetime else none
    later.max?.map fun latest => (row.entryDatetime, latest)

def recordLateArrival (store : Store Rating) (matchId : Int) : Store Rating :=
  match store.lateApplications matchId, lateArrival store matchId with
  | none, some late =>
      { store with lateApplications := Function.update store.lateApplications matchId (some late) }
  | _, _ => store

theorem recordLateArrival_eq (store : Store Rating) (matchId : Int) :
    ∃ late, recordLateArrival store matchId = { store with lateApplications := late } := by
  unfold recordLateArrival
  split
  · exact ⟨_, rfl⟩
  · exact ⟨store.lateApplications, rfl⟩

def queueRebuild (store : Store Rating) (matchId : Int) (reason : String) : Store Rating :=
  (store.matchRows.filter (·.matchId == matchId)).foldl (fun store row =>
    { store with
      rebuildRequest := some
        { earliestEntryDatetime := (store.rebuildRequest.map fun request =>
            min request.earliestEntryDatetime row.entryDatetime).getD row.entryDatetime
          reason } }) store

/-- Only the request changes, and there is one afterwards if the match is known. -/
theorem queueRebuild_eq (store : Store Rating) (matchId : Int) (reason : String) :
    ∃ request, queueRebuild store matchId reason = { store with rebuildRequest := request } ∧
      (request.isSome = true ↔
        store.rebuildRequest.isSome = true ∨ ∃ row ∈ store.matchRows, row.matchId = matchId) := by
  have known : (∃ row ∈ store.matchRows, row.matchId = matchId) ↔
      store.matchRows.filter (·.matchId == matchId) ≠ [] := by
    simp
  rw [known]
  unfold queueRebuild
  generalize store.matchRows.filter (·.matchId == matchId) = rows
  induction rows generalizing store with
  | nil => exact ⟨store.rebuildRequest, rfl, by simp⟩
  | cons row rest ih =>
      obtain ⟨request, same, some⟩ := ih { store with
        rebuildRequest := some
          { earliestEntryDatetime := (store.rebuildRequest.map fun request =>
              min request.earliestEntryDatetime row.entryDatetime).getD row.entryDatetime
            reason } } (by simp)
      exact ⟨request, by rw [List.foldl_cons, same], by simp [some]⟩

def markStage (store : Store Rating) (matchId : Int) : Store Rating :=
  store.updateIngest matchId fun row =>
    if row.population = .ranked then some (row.addStage .ratings) else none

def advanceCursors (store : Store Rating) (matchId queueId : Int) (playerIds : List Int) : Store Rating :=
  match store.matchRows.find? (·.matchId == matchId) with
  | none => store
  | some row =>
      { store with
        cursors := playerIds.foldl (fun cursors playerId =>
          Function.update cursors queueId (Function.update (cursors queueId) playerId
            (some ⟨matchId, ((cursors queueId playerId).map fun cursor =>
              max cursor.lastEntryDatetime row.entryDatetime).getD row.entryDatetime⟩))) store.cursors }

/-! ### apply_match -/

def shouldDeferIncremental (rebuilding rebuildPending : Bool) : Bool := !rebuilding && rebuildPending

/-- `apply_match` once the lock is held and nothing is pending. -/
def applyUnlocked (glicko : Glicko Rating) (store : Store Rating) (matchId : Int) :
    RatingApplicationResult × Store Rating :=
  match calculateChanges glicko store matchId with
  | .error reason => (.deferred, queueRebuild store matchId ("Glicko-2: " ++ reason))
  | .ok [] => (.skipped, markStage store matchId)
  | .ok (first :: rest) =>
      let changes := first :: rest
      match applyChanges store matchId changes with
      | none => (.skipped, markStage store matchId)
      | some applied =>
          (.applied, markStage (advanceCursors applied matchId first.queueId (changes.map Change.playerId))
            matchId)

/-- The three ways in which it ends. -/
theorem applyUnlocked_cases (glicko : Glicko Rating) (store : Store Rating) (matchId : Int) :
    (∃ reason, calculateChanges glicko store matchId = .error reason ∧
      applyUnlocked glicko store matchId = (.deferred, queueRebuild store matchId ("Glicko-2: " ++ reason))) ∨
    (∃ changes, calculateChanges glicko store matchId = .ok changes ∧
      (changes = [] ∨ ∃ snapshot ∈ store.snapshots, snapshot.matchId = matchId) ∧
      applyUnlocked glicko store matchId = (.skipped, markStage store matchId)) ∨
    ∃ changes queueId, calculateChanges glicko store matchId = .ok changes ∧ changes ≠ [] ∧
      (∀ snapshot ∈ store.snapshots, snapshot.matchId ≠ matchId) ∧
      applyUnlocked glicko store matchId = (.applied, markStage
        (advanceCursors (changes.foldl writeChange store) matchId queueId (changes.map Change.playerId))
        matchId) := by
  unfold applyUnlocked
  cases calculated : calculateChanges glicko store matchId with
  | error reason => exact Or.inl ⟨reason, rfl, rfl⟩
  | ok changes =>
      cases changes with
      | nil => exact Or.inr (Or.inl ⟨[], rfl, Or.inl rfl, rfl⟩)
      | cons first rest =>
          by_cases seen : ∃ snapshot ∈ store.snapshots, snapshot.matchId = matchId
          · have skipped : applyChanges store matchId (first :: rest) = none := by
              simpa [applyChanges] using seen
            exact Or.inr (Or.inl ⟨_, rfl, Or.inr seen, by simp only [skipped]⟩)
          · have fresh : ∀ snapshot ∈ store.snapshots, snapshot.matchId ≠ matchId := by
              simpa using seen
            have written : applyChanges store matchId (first :: rest) =
                some ((first :: rest).foldl writeChange store) := by
              simpa [applyChanges] using fresh
            exact Or.inr (Or.inr ⟨_, first.queueId, rfl, by simp, fresh, by simp only [written]⟩)

def applyMatch (glicko : Glicko Rating) (locked : Bool) (store : Store Rating) (matchId : Int)
    (rebuilding : Bool) : RatingApplicationResult × Store Rating :=
  if !locked then (.busy, store)
  else if shouldDeferIncremental rebuilding store.rebuildRequest.isSome then (.deferred, store)
  else applyUnlocked glicko (if rebuilding then store else recordLateArrival store matchId) matchId

/-! ### The statements of reingest -/

def truncateRatings (store : Store Rating) : Store Rating :=
  { store with
    queueRatings := fun _ _ => none
    championRatings := fun _ _ => none
    snapshots := []
    cursors := fun _ _ => none }

/-- The matches to rebuild from, in the order of their entry. -/
def ratedMatches (store : Store Rating) : List Int :=
  let rows := store.matchRows.filter fun row =>
    row.queueId == rankedQueueId && isRanked row &&
      (store.ingest row.matchId).all fun ingest => ingest.status == .complete
  ((rows.map fun row => (row.entryDatetime, row.matchId)).dedup.insertionSort fun left right =>
    (compareLex (compareOn fun row : Int × Int => row.1) (compareOn fun row => row.2) left right).isLE).map
    (·.2)

def deleteRebuildRequests (store : Store Rating) : Store Rating := { store with rebuildRequest := none }

end PaladinsCat.Backend
