import PaladinsCat.BackendFootprints

/-!
What a transaction may do to a row of `match_ingest_status`. Every statement that
writes the table is one constructor of `RowStep`, with the operation it belongs to
and the conditions under which it takes the row; the invariants of the lifecycle are
case analyses over these.
-/

namespace PaladinsCat.Backend

open Interleaving

variable {Rating : Type} {glicko : Glicko Rating}

inductive RowStep (op : BackendOp) (matchId : Int) : Option IngestRow → Option IngestRow → Prop where
  | keep (row : Option IngestRow) : RowStep op matchId row row
  | rate (row : IngestRow) (rebuilding : Bool) (isOp : op = .applyMatch matchId rebuilding) :
      RowStep op matchId (some row) (some (row.addStage .ratings))
  | count (row : IngestRow) (isOp : op = .projectRankedStats matchId)
      (uncounted : .rankedStats ∉ row.completedStages) :
      RowStep op matchId (some row) (some (row.addStage .rankedStats))
  | batch (row : IngestRow) (ids : List Int) (stage : CumulativeStage)
      (isOp : op = .projectCumulativeBatch ids stage) (member : matchId ∈ ids) :
      RowStep op matchId (some row) (some (row.addStage stage.stage))
  | close (row : IngestRow) (now : Int) (isOp : op = .finishRanked matchId ∨ ∃ ids, op = .completeRanked ids)
      (staged : rankedStages ⊆ row.completedStages) :
      RowStep op matchId (some row) (some (row.close now))
  | mechanics (row : IngestRow) (now : Int) (isOp : op = .finishMechanics matchId)
      (population : row.population = .casual ∨ row.population = .special) :
      RowStep op matchId (some row) (some ((row.addStage (if row.population = .special
        then .specialMechanicsStats else .casualMechanicsStats)).close now))
  | register (row : Option IngestRow) (discovery : MatchDiscovery) (population : MatchPopulation)
      (isOp : op = .registerDiscovery discovery) (named : discovery.matchId = matchId) :
      RowStep op matchId row (some (registeredRow discovery population row))
  | claim (row : Option IngestRow) (changed : IngestRow) (now : Int) (source owner : String)
      (leaseSeconds : Int) (isOp : op = .claim matchId source owner leaseSeconds)
      (claimed : claimedRow now source owner leaseSeconds row = some changed) :
      RowStep op matchId row (some changed)
  | checkpoint (row changed : IngestRow) (now : Int) (owner : String) (checkpoint : MatchCheckpoint)
      (isOp : op = .checkpoint matchId owner checkpoint)
      (updated : checkpointRow now owner checkpoint row = some changed) :
      RowStep op matchId (some row) (some changed)
  | release (row changed : IngestRow) (owner : String) (isOp : op = .release matchId owner)
      (updated : releaseRow owner row = some changed) : RowStep op matchId (some row) (some changed)
  | complete (row changed : IngestRow) (now : Int) (owner : String)
      (isOp : op = .completeIfDurable matchId owner) (updated : completeRow now owner row = some changed) :
      RowStep op matchId (some row) (some changed)
  | unavailable (row : Option IngestRow) (changed : IngestRow) (now queueId : Int)
      (source : MatchDiscoverySource) (reason : String)
      (isOp : op = .markTerminalUnavailable matchId queueId source reason)
      (marked : unavailableRow now queueId source reason row = some changed) :
      RowStep op matchId row (some changed)
  | finalize (row : Option IngestRow) (now : Int) (payload : CanonicalMatchPayload)
      (population : MatchPopulation) (source : String) (isOp : op = .finalize payload source)
      (named : payload.matchId = matchId)
      (agrees : row.bind (factConflict payload population) = none) :
      RowStep op matchId row (some (closedRow now payload
        { lockedRow now payload population source row with
          completedStages := (lockedRow now payload population source row).completedStages ∪ factStages }))

/-! ### Every transaction is one of these -/

theorem updateIngest_cases (store : Store Rating) (matchId : Int) (change : IngestRow → Option IngestRow)
    (other : Int) :
    (store.updateIngest matchId change).ingest other = store.ingest other ∨
      ∃ row changed, other = matchId ∧ store.ingest other = some row ∧ change row = some changed ∧
        (store.updateIngest matchId change).ingest other = some changed := by
  rw [Store.updateIngest_eq]
  by_cases same : other = matchId
  · subst same
    simp only [Function.update_self]
    cases stored : store.ingest other with
    | none => exact Or.inl rfl
    | some row =>
        cases changed : change row with
        | none => exact Or.inl (by simp [changed])
        | some next => exact Or.inr ⟨row, next, trivial, rfl, changed, by simp [changed]⟩
  · exact Or.inl (by simp [same])

/-- An `UPDATE` of one row, given what its condition and its assignments make of it. -/
theorem rowStep_updateIngest {op : BackendOp} {store : Store Rating} {matchId : Int}
    {change : IngestRow → Option IngestRow}
    (step : ∀ row changed, change row = some changed → RowStep op matchId (some row) (some changed)) (other : Int) :
    RowStep op other (store.ingest other) ((store.updateIngest matchId change).ingest other) := by
  rcases updateIngest_cases store matchId change other with same | ⟨row, changed, rfl, stored, updated, after⟩
  · rw [same]
    exact .keep _
  · rw [stored, after]
    exact step row changed updated

/-- An upsert of one row. -/
theorem rowStep_upsert {op : BackendOp} {store : Store Rating} {matchId : Int} {row : IngestRow}
    (step : RowStep op matchId (store.ingest matchId) (some row)) (other : Int) :
    RowStep op other (store.ingest other) (Function.update store.ingest matchId (some row) other) := by
  by_cases same : other = matchId
  · subst same
    rwa [Function.update_self]
  · rw [Function.update_of_ne same]
    exact .keep _

theorem writeChanges_ingest (store : Store Rating) (changes : List (Change Rating)) :
    (changes.foldl writeChange store).ingest = store.ingest := by
  induction changes generalizing store with
  | nil => rfl
  | cons change rest ih => exact ih (writeChange store change)

theorem advanceCursors_ingest (store : Store Rating) (matchId queueId : Int) (ids : List Int) :
    (advanceCursors store matchId queueId ids).ingest = store.ingest := by
  unfold advanceCursors
  split <;> rfl

theorem applyMatch_rowStep (locked : Bool) (store : Store Rating) (matchId : Int) (rebuilding : Bool) (other : Int) :
    RowStep (.applyMatch matchId rebuilding) other (store.ingest other)
      ((applyMatch glicko locked store matchId rebuilding).2.ingest other) := by
  have marked : ∀ row changed, (if row.population = .ranked then some (row.addStage .ratings) else none) =
      some changed → RowStep (.applyMatch matchId rebuilding) matchId (some row) (some changed) := by
    intro row changed updated
    split at updated
    · cases updated
      exact .rate row rebuilding rfl
    · cases updated
  have stage : ∀ store : Store Rating, RowStep (.applyMatch matchId rebuilding) other (store.ingest other)
      ((markStage store matchId).ingest other) := fun _ => rowStep_updateIngest marked other
  have unlocked : ∀ store : Store Rating, RowStep (.applyMatch matchId rebuilding) other (store.ingest other)
      ((applyUnlocked glicko store matchId).2.ingest other) := by
    intro store
    rcases applyUnlocked_cases glicko store matchId with
      ⟨reason, _, same⟩ | ⟨_, _, _, same⟩ | ⟨changes, queueId, _, _, _, same⟩
    · obtain ⟨request, queued, _⟩ := queueRebuild_eq store matchId ("Glicko-2: " ++ reason)
      rw [same, queued]
      exact .keep _
    · rw [same]
      exact stage store
    · rw [same]
      have step := stage (advanceCursors (changes.foldl writeChange store) matchId queueId
        (changes.map Change.playerId))
      rwa [advanceCursors_ingest, writeChanges_ingest] at step
  unfold applyMatch
  split
  · exact .keep _
  · split
    · exact .keep _
    · cases rebuilding with
      | true => exact unlocked store
      | false =>
          have step := unlocked (recordLateArrival store matchId)
          obtain ⟨late, arrived⟩ := recordLateArrival_eq store matchId
          rw [arrived] at step ⊢
          exact step

theorem projectRankedStats_rowStep (store : Store Rating) (matchId other : Int) :
    RowStep (.projectRankedStats matchId) other (store.ingest other)
      ((projectRankedStats store matchId).2.ingest other) := by
  unfold projectRankedStats
  split
  · exact .keep _
  · rename_i row stored
    split_ifs with _ counted
    · exact .keep _
    · exact .keep _
    · rcases updateIngest_cases (addRankedCounts store matchId) matchId
        (fun row => some (row.addStage .rankedStats)) other with same | ⟨found, changed, rfl, here, updated, after⟩
      · rw [same]
        exact .keep _
      · have unchanged : (addRankedCounts store other).ingest other = store.ingest other := rfl
        rw [unchanged, stored] at here
        cases here
        cases updated
        rw [after, stored]
        exact .count row rfl counted
    · exact .keep _

theorem finalize_rowStep (now : Int) (store : Store Rating) (payload : CanonicalMatchPayload) (source : String)
    (other : Int) :
    RowStep (.finalize payload source) other (store.ingest other)
      ((finalize now store payload source).2.ingest other) := by
  unfold finalize
  simp only
  split
  · exact .keep _
  · rename_i agrees
    have classified : (classifyQueue store payload.queueId).2.ingest = store.ingest := by
      unfold classifyQueue
      split <;> rfl
    have persisted : ∀ (middle : Store Rating) population stages,
        (persistFacts middle payload population stages).ingest = middle.ingest := by
      intro middle population stages
      unfold persistFacts persistMatch persistNonrankedMatch persistPlayerFacts
      split_ifs <;> rfl
    rw [persisted, classified]
    exact rowStep_upsert (.finalize _ now payload _ source rfl rfl agrees) other

theorem repairRankedChunk_ingest (store : Store Rating) (ids : List Int) :
    (repairRankedChunk store ids).2.ingest = store.ingest := by
  have performance : ∀ (middle : Store Rating) ids,
      (projectPerformanceMany middle ids).2.ingest = middle.ingest := fun _ _ => rfl
  have scalable : ∀ (middle : Store Rating) ids,
      (projectScalableMany middle ids).2.ingest = middle.ingest := fun _ _ => rfl
  unfold repairRankedChunk
  simp only
  split
  · rfl
  · rw [performance, scalable]
    rfl

theorem repairCasualChunk_ingest (store : Store Rating) (ids : List Int) :
    (repairCasualChunk store ids).2.ingest = store.ingest := by
  have casual : ∀ (middle : Store Rating) ids,
      (projectCasualPerformanceMany middle ids).2.ingest = middle.ingest := fun _ _ => rfl
  unfold repairCasualChunk
  simp only
  split
  · rfl
  · rw [casual]
    rfl

theorem effect_rowStep (outside : Outside) (store : Store Rating) (op : BackendOp) (matchId : Int) :
    RowStep op matchId (store.ingest matchId) ((effect glicko outside store op).2.ingest matchId) := by
  cases op with
  | applyMatch id rebuilding => exact applyMatch_rowStep outside.locked store id rebuilding matchId
  | queueRebuild id reason =>
      obtain ⟨request, queued, _⟩ := queueRebuild_eq store id reason
      simp only [effect, queued]
      exact .keep _
  | projectRankedStats id => exact projectRankedStats_rowStep store id matchId
  | projectCumulativeBatch ids stage =>
      have unchanged : (stage.project store ids).2.ingest = store.ingest := by cases stage <;> rfl
      simp only [effect, projectCumulativeBatch, appendStage, unchanged]
      split
      · rename_i member
        cases stored : store.ingest matchId with
        | none => exact .keep _
        | some row => exact .batch row ids stage rfl member
      · exact .keep _
  | finishRanked id =>
      refine rowStep_updateIngest ?_ matchId
      intro row changed updated
      split at updated
      · rename_i staged
        cases updated
        exact .close row outside.now (Or.inl rfl) staged
      · cases updated
  | completeRanked ids =>
      simp only [effect, completeRanked]
      split
      · cases stored : store.ingest matchId with
        | none => exact .keep _
        | some row =>
            simp only [Option.map_some]
            split
            · rename_i closes
              simp only [closesRanked, Bool.and_eq_true, decide_eq_true_eq] at closes
              exact .close row outside.now (Or.inr ⟨ids, rfl⟩) closes.1.2
            · exact .keep _
      · exact .keep _
  | repairRankedChunk ids =>
      simp only [effect, repairRankedChunk_ingest]
      exact .keep _
  | repairCasualChunk ids =>
      simp only [effect, repairCasualChunk_ingest]
      exact .keep _
  | projectFactFamily family id =>
      simp only [effect, projectFactFamily]
      split_ifs <;> exact .keep _
  | finishMechanics id =>
      refine rowStep_updateIngest ?_ matchId
      intro row changed updated
      split at updated
      · rename_i population
        cases updated
        exact .mechanics row outside.now rfl population
      · cases updated
  | registerDiscovery discovery =>
      simp only [effect, registerDiscovery]
      split
      · exact .keep _
      · exact rowStep_upsert (.register _ discovery _ rfl rfl) matchId
  | claim id source owner leaseSeconds =>
      simp only [effect, claimMatch]
      split
      · rename_i row claimed
        exact rowStep_upsert (.claim _ row outside.now source owner leaseSeconds rfl claimed) matchId
      · exact .keep _
  | checkpoint id owner checkpoint =>
      exact rowStep_updateIngest (fun row changed updated =>
        .checkpoint row changed outside.now owner checkpoint rfl updated) matchId
  | release id owner =>
      exact rowStep_updateIngest (fun row changed updated => .release row changed owner rfl updated) matchId
  | completeIfDurable id owner =>
      exact rowStep_updateIngest (fun row changed updated =>
        .complete row changed outside.now owner rfl updated) matchId
  | markTerminalUnavailable id queueId source reason =>
      simp only [effect, markTerminalUnavailable]
      split
      · rename_i row marked
        exact rowStep_upsert (.unavailable _ row outside.now queueId source reason rfl marked) matchId
      · exact .keep _
  | finalize payload source => exact finalize_rowStep outside.now store payload source matchId
  | _ => exact .keep _

theorem served_rowStep {before after : Store Rating} {op : BackendOp} {reply : op.Reply}
    (served : (serve glicko).handler before op reply after) (matchId : Int) :
    RowStep op matchId (before.ingest matchId) (after.ingest matchId) := by
  rcases served_store served with rfl | ⟨outside, rfl⟩
  · exact .keep _
  · exact effect_rowStep outside before op matchId

end PaladinsCat.Backend
