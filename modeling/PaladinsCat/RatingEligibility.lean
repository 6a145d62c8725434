import PaladinsCat.RatingLedger

/-!
Which matches can be rated. Whether `calculate_changes` finds something to change
depends on the facts and on the status of the row, not on the ratings: these can
only make the arithmetic fail. A match that is applied therefore has snapshots
afterwards, or has left a rebuild request behind.
-/

namespace PaladinsCat.Backend

open Interleaving

variable {Rating : Type} {glicko : Glicko Rating}

/-! ### Eligibility does not depend on the ratings -/

/-- The player without ratings. -/
def Player.unrated (player : Player Rating) : Player Unit :=
  { player with queue := (), champion := () }

/-- What `calculate_changes` reads of a row besides the ratings. -/
def rosterPlayer (store : Store Rating) (row : MatchRow × MatchPlayerRow) : Player Unit :=
  { playerId := row.2.playerId
    championId := row.2.championId.getD 0
    winStatus := normalizedWinStatus (row.2.winStatus.getD "")
    taskForce := row.2.taskForce.getD 0
    source := row.2.source.getD .direct
    queueId := row.1.queueId
    winningTaskForce := row.1.winningTaskForce.getD 0
    rosterCount := (playersOf store row.1).length
    privateCount := (playersOf store row.1).countP isPrivateAccount
    teamOne := (playersOf store row.1).countP fun player => player.taskForce == some 1
    teamTwo := (playersOf store row.1).countP fun player => player.taskForce == some 2
    queue := ()
    champion := () }

theorem player_unrated {store : Store Rating} {row : MatchRow × MatchPlayerRow} {rated : Player Rating}
    (read : player glicko store row = .ok rated) : rated.unrated = rosterPlayer store row := by
  simp only [player, bind, Except.bind, pure, Except.pure] at read
  split at read
  · cases read
  · split at read
    · cases read
    · cases read
      rfl

theorem collectPlayers_unrated {store : Store Rating} {rows : List (MatchRow × MatchPlayerRow)}
    {players : List (Player Rating)} (read : collectPlayers glicko store rows = .ok players) :
    players.map Player.unrated = rows.map (rosterPlayer store) := by
  induction rows generalizing players with
  | nil =>
      obtain rfl : [] = players := by simpa [collectPlayers] using read
      rfl
  | cons row rest ih =>
      simp only [collectPlayers, bind, Except.bind, pure, Except.pure] at read
      split at read
      · cases read
      · rename_i rated single
        split at read
        · cases read
        · rename_i others collected
          cases read
          rw [List.map_cons, List.map_cons, player_unrated single, ih collected]

theorem validRoster_unrated (players : List (Player Rating)) :
    validRoster (players.map Player.unrated) = validRoster players := by
  cases players with
  | nil => rfl
  | cons first rest =>
      simp only [List.map_cons, validRoster, List.length_cons, List.length_map, List.map_map, List.all_cons,
        List.all_map]
      rfl

/-- The player has opponents, and not more than five. -/
def Opposed (players : List (Player Rating)) (current : Player Rating) : Prop :=
  opponentsOf players current ≠ [] ∧ (opponentsOf players current).length ≤ 5

theorem opposed_unrated (players : List (Player Rating)) (current : Player Rating) :
    Opposed (players.map Player.unrated) current.unrated ↔ Opposed players current := by
  have same : opponentsOf (players.map Player.unrated) current.unrated =
      (opponentsOf players current).map Player.unrated := by
    simp only [opponentsOf, List.filter_map]
    rfl
  simp [Opposed, same]

theorem changesFor_opposed {matchId : Int} {players rest : List (Player Rating)}
    {before changes : List (Change Rating)}
    (made : changesFor glicko matchId players before rest = .ok changes) (nonempty : changes ≠ []) :
    ∀ current ∈ rest, Opposed players current := by
  induction rest generalizing before with
  | nil => simp
  | cons current rest ih =>
      simp only [changesFor] at made
      split at made
      · obtain rfl : [] = changes := by simpa using made
        exact absurd rfl nonempty
      · rename_i opposed
        split at made
        · cases made
        · intro player member
          rcases List.mem_cons.mp member with rfl | later
          · simpa [Opposed] using opposed
          · exact ih made player later

theorem changesFor_length {matchId : Int} {players rest : List (Player Rating)}
    {before changes : List (Change Rating)} (opposed : ∀ current ∈ rest, Opposed players current)
    (made : changesFor glicko matchId players before rest = .ok changes) :
    changes.length = before.length + rest.length := by
  induction rest generalizing before with
  | nil =>
      obtain rfl : before = changes := by simpa [changesFor] using made
      simp
  | cons current rest ih =>
      simp only [changesFor] at made
      split at made
      · rename_i unopposed
        have here := opposed current (by simp)
        simp [here.1, Nat.not_lt.mpr here.2] at unopposed
      · split at made
        · cases made
        · have later := ih (fun player member => opposed player (List.mem_cons_of_mem _ member)) made
          simp only [List.length_append, List.length_cons, List.length_nil] at later ⊢
          omega

def SameFacts (left right : Store Rating) : Prop :=
  right.matchRows = left.matchRows ∧ right.matchPlayers = left.matchPlayers

/-- The statuses of a row in which `calculate_changes` reads the match. -/
def rateableStatus (store : Store Rating) (matchId : Int) : Bool :=
  (store.ingest matchId).all fun ingest =>
    ingest.status == .processing || ingest.status == .partialFacts || ingest.status == .complete

theorem ratedRows_facts {left right : Store Rating} {matchId : Int} (facts : SameFacts left right)
    (before : rateableStatus left matchId = true) (after : rateableStatus right matchId = true) :
    ratedRows right matchId = ratedRows left matchId := by
  have players : playersOf right = playersOf left := by
    funext row
    simp only [playersOf, facts.2]
  have rows : (right.matchRows.filter fun row => row.matchId == matchId && rateableMatch right row) =
      left.matchRows.filter fun row => row.matchId == matchId && rateableMatch left row := by
    rw [facts.1]
    apply List.filter_congr
    intro row _
    by_cases same : row.matchId = matchId
    · have status : ∀ store : Store Rating, rateableStatus store matchId = true →
          rateableMatch store row = (row.queueId == rankedQueueId && !row.limited && isRanked row &&
            (row.winningTaskForce == some 1 || row.winningTaskForce == some 2)) := by
        intro store rateable
        rw [← same] at rateable
        unfold rateableStatus at rateable
        rw [rateableMatch, rateable, Bool.and_true]
      rw [status right after, status left before]
    · rw [beq_false_of_ne same, Bool.false_and, Bool.false_and]
  unfold ratedRows
  rw [rows, players]

theorem ratedRows_status {store : Store Rating} {matchId : Int} (rated : ratedRows store matchId ≠ []) :
    rateableStatus store matchId = true ∧ ∃ row ∈ store.matchRows, row.matchId = matchId := by
  obtain ⟨pair, member⟩ := List.exists_mem_of_ne_nil _ rated
  simp only [ratedRows, List.mem_insertionSort, List.mem_flatMap, List.mem_filter, Bool.and_eq_true,
    beq_iff_eq] at member
  obtain ⟨row, ⟨found, same, rateable⟩, -⟩ := member
  refine ⟨?_, row, found, same⟩
  rw [← same]
  simp only [rateableMatch, Bool.and_eq_true] at rateable
  exact rateable.2

/-- `calculate_changes` finds something to change. -/
def Eligible (glicko : Glicko Rating) (store : Store Rating) (matchId : Int) : Prop :=
  ∃ changes, calculateChanges glicko store matchId = .ok changes ∧ changes ≠ []

theorem eligible_players {store : Store Rating} {matchId : Int} (eligible : Eligible glicko store matchId) :
    ratedRows store matchId ≠ [] ∧
      validRoster ((ratedRows store matchId).map (rosterPlayer store)) = true ∧
      ∀ row ∈ ratedRows store matchId, Opposed ((ratedRows store matchId).map (rosterPlayer store))
        (rosterPlayer store row) := by
  obtain ⟨changes, made, nonempty⟩ := eligible
  simp only [calculateChanges, bind, Except.bind, pure, Except.pure] at made
  split at made
  · simp_all
  · rename_i rated
    split at made
    · cases made
    · rename_i players collected
      split at made
      · rename_i valid
        have same := collectPlayers_unrated collected
        refine ⟨by simpa using rated, by rw [← same, validRoster_unrated, valid], ?_⟩
        intro row member
        have listed : rosterPlayer store row ∈ players.map Player.unrated := by
          rw [same]
          exact List.mem_map_of_mem member
        obtain ⟨current, isPlayer, erased⟩ := List.mem_map.mp listed
        rw [← same, ← erased, opposed_unrated]
        exact changesFor_opposed made nonempty current isPlayer
      · simp_all

/-- Whatever the ratings are: the same facts give changes again, or the arithmetic
fails, as long as the status of the row does not stand in the way. -/
theorem Eligible.again {left right : Store Rating} {matchId : Int} {changes : List (Change Rating)}
    (eligible : Eligible glicko left matchId) (facts : SameFacts left right)
    (status : rateableStatus right matchId = true)
    (made : calculateChanges glicko right matchId = .ok changes) : changes ≠ [] := by
  obtain ⟨rated, valid, opposed⟩ := eligible_players eligible
  have rows := ratedRows_facts facts (ratedRows_status rated).1 status
  have roster : rosterPlayer right = rosterPlayer left := by
    funext row
    simp only [rosterPlayer, playersOf, facts.2]
  rw [← rows, ← roster] at valid opposed
  rw [← rows] at rated
  simp only [calculateChanges, bind, Except.bind, pure, Except.pure] at made
  rw [if_neg (by simpa using rated)] at made
  split at made
  · cases made
  · rename_i players collected
    have same := collectPlayers_unrated collected
    rw [← same] at valid opposed
    rw [validRoster_unrated] at valid
    rw [if_pos valid] at made
    have all : ∀ current ∈ players, Opposed players current := by
      intro current member
      have listed : current.unrated ∈ (ratedRows right matchId).map (rosterPlayer right) := by
        rw [← same]
        exact List.mem_map_of_mem member
      obtain ⟨row, found, erased⟩ := List.mem_map.mp listed
      rw [← opposed_unrated, ← erased]
      exact opposed row found
    have length := changesFor_length all made
    have some : players.length = (ratedRows right matchId).length := by
      simpa using congrArg List.length same
    intro empty
    have none : ratedRows right matchId = [] := by
      apply List.eq_nil_of_length_eq_zero
      simp [empty] at length
      omega
    exact rated none

/-! ### What the steps leave alone -/

def hasSnapshots (store : Store Rating) (matchId : Int) : Bool :=
  store.snapshots.any (·.matchId == matchId)

/-- The facts stay, and a row that can be rated stays so. -/
structure KeepsFacts (before after : Store Rating) : Prop where
  facts : SameFacts before after
  status : ∀ matchId, rateableStatus before matchId = true → rateableStatus after matchId = true

/-- Snapshots and a pending request stay too. -/
structure KeepsRatings (before after : Store Rating) : Prop extends KeepsFacts before after where
  snapshots : ∀ matchId, hasSnapshots before matchId = true → hasSnapshots after matchId = true
  request : before.rebuildRequest.isSome = true → after.rebuildRequest.isSome = true

theorem KeepsRatings.refl (store : Store Rating) : KeepsRatings store store :=
  ⟨⟨⟨rfl, rfl⟩, fun _ => id⟩, fun _ => id, id⟩

theorem KeepsRatings.trans {first second third : Store Rating} (one : KeepsRatings first second)
    (two : KeepsRatings second third) : KeepsRatings first third where
  facts := ⟨two.facts.1.trans one.facts.1, two.facts.2.trans one.facts.2⟩
  status matchId rateable := two.status matchId (one.status matchId rateable)
  snapshots matchId rated := two.snapshots matchId (one.snapshots matchId rated)
  request pending := two.request (one.request pending)

theorem updateIngest_keeps (store : Store Rating) (matchId : Int) {change : IngestRow → Option IngestRow}
    (kept : ∀ row changed, change row = some changed → changed.status = row.status ∨ changed.status = .complete) :
    KeepsRatings store (store.updateIngest matchId change) := by
  rw [Store.updateIngest_eq]
  refine ⟨⟨⟨rfl, rfl⟩, ?_⟩, fun _ => id, id⟩
  intro other rateable
  by_cases same : other = matchId
  · subst same
    simp only [rateableStatus, Function.update_self] at rateable ⊢
    cases stored : store.ingest other with
    | none => simp
    | some row =>
        rw [stored] at rateable
        cases changed : change row with
        | none => simpa [changed] using rateable
        | some next =>
            rcases kept row next changed with same | complete
            · simpa [changed, same] using rateable
            · simp [changed, complete]
  · simpa [rateableStatus, same] using rateable

theorem markStage_keeps (store : Store Rating) (matchId : Int) : KeepsRatings store (markStage store matchId) := by
  apply updateIngest_keeps
  intro row changed marked
  split at marked
  · cases marked
    exact Or.inl rfl
  · cases marked

theorem advanceCursors_keeps (store : Store Rating) (matchId queueId : Int) (playerIds : List Int) :
    KeepsRatings store (advanceCursors store matchId queueId playerIds) := by
  unfold advanceCursors
  split <;> exact ⟨⟨⟨rfl, rfl⟩, fun _ => id⟩, fun _ => id, id⟩

theorem recordLateArrival_keeps (store : Store Rating) (matchId : Int) :
    KeepsRatings store (recordLateArrival store matchId) := by
  obtain ⟨late, same⟩ := recordLateArrival_eq store matchId
  rw [same]
  exact ⟨⟨⟨rfl, rfl⟩, fun _ => id⟩, fun _ => id, id⟩

theorem writeChanges_keeps (store : Store Rating) (changes : List (Change Rating)) :
    KeepsRatings store (changes.foldl writeChange store) := by
  induction changes generalizing store with
  | nil => exact KeepsRatings.refl store
  | cons change rest ih =>
      have one : KeepsRatings store (writeChange store change) := by
        refine ⟨⟨⟨rfl, rfl⟩, fun _ => id⟩, ?_, id⟩
        intro matchId rated
        simp only [hasSnapshots, writeChange, List.any_append, Bool.or_eq_true]
        exact Or.inl rated
      exact one.trans (ih _)

theorem queueRebuild_keeps (store : Store Rating) (matchId : Int) (reason : String) :
    KeepsRatings store (queueRebuild store matchId reason) := by
  obtain ⟨request, same, some⟩ := queueRebuild_eq store matchId reason
  rw [same]
  exact ⟨⟨⟨rfl, rfl⟩, fun _ => id⟩, fun _ => id, fun pending => some.mpr (Or.inl pending)⟩

theorem applyUnlocked_keeps (store : Store Rating) (matchId : Int) :
    KeepsRatings store (applyUnlocked glicko store matchId).2 := by
  rcases applyUnlocked_cases glicko store matchId with
    ⟨_, _, same⟩ | ⟨_, _, _, same⟩ | ⟨changes, queueId, _, _, _, same⟩
  · rw [same]
    exact queueRebuild_keeps _ _ _
  · rw [same]
    exact markStage_keeps _ _
  · rw [same]
    exact ((writeChanges_keeps store changes).trans (advanceCursors_keeps _ _ _ _)).trans (markStage_keeps _ _)

theorem applyMatch_keeps (locked : Bool) (store : Store Rating) (matchId : Int) (rebuilding : Bool) :
    KeepsRatings store (applyMatch glicko locked store matchId rebuilding).2 := by
  unfold applyMatch
  split
  · exact KeepsRatings.refl store
  · split
    · exact KeepsRatings.refl store
    · cases rebuilding with
      | true => exact applyUnlocked_keeps store matchId
      | false => exact (recordLateArrival_keeps store matchId).trans (applyUnlocked_keeps _ matchId)

def ratingOp : BackendOp → Bool
  | .applyMatch _ _ | .queueRebuild _ _ | .truncateRatings | .ratedMatches | .deleteRebuildRequests
  | .rebuildBestChampionRatings | .rankedCandidate _ | .projectRankedStats _
  | .projectCumulativeBatch _ _ | .finishRanked _ => true
  | _ => false

theorem appendStage_keeps (store : Store Rating) (ids : List Int) (stage : Stage) :
    KeepsRatings store (appendStage store ids stage) := by
  refine ⟨⟨⟨rfl, rfl⟩, ?_⟩, fun _ => id, id⟩
  intro matchId rateable
  simp only [rateableStatus, appendStage] at rateable ⊢
  split
  · cases stored : store.ingest matchId with
    | none => rfl
    | some row =>
        rw [stored] at rateable
        exact rateable
  · exact rateable

theorem projectRankedStats_keeps (store : Store Rating) (matchId : Int) :
    KeepsRatings store (projectRankedStats store matchId).2 := by
  unfold projectRankedStats
  split
  · exact KeepsRatings.refl store
  · split_ifs
    · exact KeepsRatings.refl store
    · exact KeepsRatings.refl store
    · have counts : KeepsRatings store (addRankedCounts store matchId) :=
        ⟨⟨⟨rfl, rfl⟩, fun _ => id⟩, fun _ => id, id⟩
      apply counts.trans
      apply updateIngest_keeps
      rintro row _ ⟨⟩
      exact Or.inl rfl
    · exact KeepsRatings.refl store

theorem finishRanked_keeps (now : Int) (store : Store Rating) (matchId : Int) :
    KeepsRatings store (finishRanked now store matchId) := by
  apply updateIngest_keeps
  intro row changed closed
  split at closed
  · cases closed
    exact Or.inr rfl
  · cases closed

theorem effect_keeps (outside : Outside) (store : Store Rating) {op : BackendOp} (rating : ratingOp op = true)
    (kept : op ≠ .truncateRatings ∧ op ≠ .deleteRebuildRequests) :
    KeepsRatings store (effect glicko outside store op).2 := by
  cases op with
  | applyMatch matchId rebuilding => exact applyMatch_keeps outside.locked store matchId rebuilding
  | queueRebuild matchId reason => exact queueRebuild_keeps store matchId reason
  | truncateRatings => exact absurd rfl kept.1
  | deleteRebuildRequests => exact absurd rfl kept.2
  | ratedMatches => exact KeepsRatings.refl store
  | rebuildBestChampionRatings => exact KeepsRatings.refl store
  | rankedCandidate matchId => exact KeepsRatings.refl store
  | projectRankedStats matchId => exact projectRankedStats_keeps store matchId
  | projectCumulativeBatch ids stage =>
      have added : KeepsRatings store (stage.project store ids).2 := by
        cases stage <;> exact ⟨⟨⟨rfl, rfl⟩, fun _ => id⟩, fun _ => id, id⟩
      exact added.trans (appendStage_keeps _ ids stage.stage)
  | finishRanked matchId => exact finishRanked_keeps outside.now store matchId
  | _ => simp [ratingOp] at rating

theorem served_keeps {before after : Store Rating} {op : BackendOp} {reply : op.Reply}
    (served : (serve glicko).handler before op reply after) (rating : ratingOp op = true)
    (kept : op ≠ .truncateRatings ∧ op ≠ .deleteRebuildRequests) : KeepsRatings before after := by
  rcases served_store served with rfl | ⟨outside, rfl⟩
  · exact KeepsRatings.refl _
  · exact effect_keeps outside before rating kept

theorem served_facts {before after : Store Rating} {op : BackendOp} {reply : op.Reply}
    (served : (serve glicko).handler before op reply after) (rating : ratingOp op = true) :
    KeepsFacts before after := by
  by_cases truncate : op = .truncateRatings
  · subst truncate
    rcases served_store served with rfl | ⟨outside, rfl⟩ <;> exact ⟨⟨rfl, rfl⟩, fun _ => id⟩
  · by_cases delete : op = .deleteRebuildRequests
    · subst delete
      rcases served_store served with rfl | ⟨outside, rfl⟩ <;> exact ⟨⟨rfl, rfl⟩, fun _ => id⟩
    · exact (served_keeps served rating ⟨truncate, delete⟩).toKeepsFacts

/-! ### What an application leaves behind -/

/-- The facts make the match eligible, with whatever ratings. -/
def Fit (glicko : Glicko Rating) (store : Store Rating) (matchId : Int) : Prop :=
  ∃ other, SameFacts other store ∧ Eligible glicko other matchId

theorem Fit.before {before after : Store Rating} {matchId : Int} (fit : Fit glicko after matchId)
    (facts : SameFacts before after) : Fit glicko before matchId := by
  obtain ⟨other, same, eligible⟩ := fit
  exact ⟨other, ⟨facts.1.symm.trans same.1, facts.2.symm.trans same.2⟩, eligible⟩

/-- An apply that has been carried out rates a fit match, finds it rated, or leaves
a request. -/
theorem applyUnlocked_covers {store : Store Rating} {matchId : Int} (fit : Fit glicko store matchId)
    (status : rateableStatus store matchId = true) :
    hasSnapshots (applyUnlocked glicko store matchId).2 matchId = true ∨
      ((calculateChanges glicko store matchId).toOption.isNone = true ∧
        (applyUnlocked glicko store matchId).1 = .deferred ∧
        (applyUnlocked glicko store matchId).2.rebuildRequest.isSome = true) := by
  obtain ⟨other, facts, eligible⟩ := fit
  rcases applyUnlocked_cases glicko store matchId with
    ⟨reason, failed, same⟩ | ⟨changes, made, none | ⟨snapshot, member, rated⟩, same⟩ |
    ⟨changes, queueId, made, nonempty, _, same⟩
  · right
    obtain ⟨request, queued, some⟩ := queueRebuild_eq store matchId ("Glicko-2: " ++ reason)
    obtain ⟨row, known, named⟩ := (ratedRows_status (eligible_players eligible).1).2
    rw [same, failed, queued]
    exact ⟨rfl, rfl, some.mpr (Or.inr ⟨row, facts.1 ▸ known, named⟩)⟩
  · exact absurd none (eligible.again facts status made)
  · left
    have kept : KeepsRatings store (applyUnlocked glicko store matchId).2 := applyUnlocked_keeps store matchId
    exact kept.snapshots matchId (List.any_eq_true.mpr ⟨snapshot, member, by simpa using rated⟩)
  · left
    rw [same]
    apply ((advanceCursors_keeps _ _ _ _).trans (markStage_keeps _ _)).snapshots matchId
    obtain ⟨change, first⟩ := List.exists_mem_of_ne_nil _ nonempty
    simp only [hasSnapshots, writeChanges_snapshots, List.any_append, Bool.or_eq_true]
    refine Or.inr (List.any_eq_true.mpr ⟨change.snapshot, List.mem_map_of_mem first, ?_⟩)
    simpa [Change.snapshot] using (calculateChanges_names made).1 change first

end PaladinsCat.Backend
