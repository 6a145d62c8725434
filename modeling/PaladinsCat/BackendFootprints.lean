import PaladinsCat.BackendPrograms

/-!
Which tables a transaction writes. The operations fall into four groups: those that
only read, and those that write the ratings, the projections, or the facts and the
lifecycle of a match. All groups but the first also write rows of
`match_ingest_status`. What a group does not write is left alone.
-/

namespace PaladinsCat.Backend

open Interleaving

variable {Rating : Type} {glicko : Glicko Rating}

inductive Footprint where
  | reads
  | ratings
  | projections
  | lifecycle
  deriving DecidableEq

def BackendOp.footprint : BackendOp → Footprint
  | .ratedMatches | .rebuildBestChampionRatings | .rankedCandidate _ | .cumulativeStageCandidates _ _
  | .rankedGapPage _ | .casualGapPage _ => .reads
  | .applyMatch _ _ | .queueRebuild _ _ | .truncateRatings | .deleteRebuildRequests => .ratings
  | .projectRankedStats _ | .projectCumulativeBatch _ _ | .finishRanked _ | .completeRanked _
  | .projectScalableMany _ | .projectCasualPerformanceMany _ | .repairRankedChunk _
  | .repairCasualChunk _ | .projectFactFamily _ _ | .finishMechanics _ => .projections
  | _ => .lifecycle

/-- Nothing changes but the ratings and the rows of the matches. -/
def WritesRatings (before after : Store Rating) : Prop :=
  ∃ ingest queueRatings championRatings snapshots cursors lateApplications rebuildRequest,
    after = { before with
      ingest, queueRatings, championRatings, snapshots, cursors, lateApplications, rebuildRequest }

/-- Nothing changes but the projections and the rows of the matches. -/
def WritesProjections (before after : Store Rating) : Prop :=
  ∃ ingest claimed added, after = { before with ingest, claimed, added }

/-- Nothing changes but the facts and the rows of the matches. -/
def WritesFacts (before after : Store Rating) : Prop :=
  ∃ ingest queueTypes matchRows matchPlayers casualMatches specialMatches,
    after = { before with ingest, queueTypes, matchRows, matchPlayers, casualMatches, specialMatches }

theorem WritesRatings.trans {first second third : Store Rating} (one : WritesRatings first second)
    (two : WritesRatings second third) : WritesRatings first third := by
  obtain ⟨_, _, _, _, _, _, _, rfl⟩ := one
  obtain ⟨_, _, _, _, _, _, _, rfl⟩ := two
  exact ⟨_, _, _, _, _, _, _, rfl⟩

theorem WritesProjections.trans {first second third : Store Rating} (one : WritesProjections first second)
    (two : WritesProjections second third) : WritesProjections first third := by
  obtain ⟨_, _, _, rfl⟩ := one
  obtain ⟨_, _, _, rfl⟩ := two
  exact ⟨_, _, _, rfl⟩

theorem WritesFacts.trans {first second third : Store Rating} (one : WritesFacts first second)
    (two : WritesFacts second third) : WritesFacts first third := by
  obtain ⟨_, _, _, _, _, _, rfl⟩ := one
  obtain ⟨_, _, _, _, _, _, rfl⟩ := two
  exact ⟨_, _, _, _, _, _, rfl⟩

theorem updateIngest_shape (store : Store Rating) (matchId : Int) (change : IngestRow → Option IngestRow) :
    ∃ ingest, store.updateIngest matchId change = { store with ingest } :=
  ⟨_, Store.updateIngest_eq store matchId change⟩

/-! ### Ratings -/

theorem applyUnlocked_writes (store : Store Rating) (matchId : Int) :
    WritesRatings store (applyUnlocked glicko store matchId).2 := by
  have written : ∀ (changes : List (Change Rating)) (store : Store Rating),
      WritesRatings store (changes.foldl writeChange store) := by
    intro changes
    induction changes with
    | nil => exact fun _ => ⟨_, _, _, _, _, _, _, rfl⟩
    | cons change rest ih =>
        intro store
        exact WritesRatings.trans ⟨_, _, _, _, _, _, _, rfl⟩ (ih (writeChange store change))
  have marked : ∀ store : Store Rating, WritesRatings store (markStage store matchId) := by
    intro store
    obtain ⟨ingest, same⟩ := updateIngest_shape store matchId _
    exact ⟨_, _, _, _, _, _, _, same⟩
  rcases applyUnlocked_cases glicko store matchId with
    ⟨reason, _, same⟩ | ⟨_, _, _, same⟩ | ⟨changes, queueId, _, _, _, same⟩
  · obtain ⟨request, queued, _⟩ := queueRebuild_eq store matchId ("Glicko-2: " ++ reason)
    rw [same, queued]
    exact ⟨_, _, _, _, _, _, _, rfl⟩
  · rw [same]
    exact marked store
  · have advanced : ∀ (store : Store Rating) (ids : List Int),
        WritesRatings store (advanceCursors store matchId queueId ids) := by
      intro store ids
      unfold advanceCursors
      split <;> exact ⟨_, _, _, _, _, _, _, rfl⟩
    rw [same]
    exact ((written changes store).trans (advanced _ _)).trans (marked _)

theorem applyMatch_writes (locked : Bool) (store : Store Rating) (matchId : Int) (rebuilding : Bool) :
    WritesRatings store (applyMatch glicko locked store matchId rebuilding).2 := by
  unfold applyMatch
  split
  · exact ⟨_, _, _, _, _, _, _, rfl⟩
  · split
    · exact ⟨_, _, _, _, _, _, _, rfl⟩
    · cases rebuilding with
      | true => exact applyUnlocked_writes store matchId
      | false =>
          obtain ⟨late, arrived⟩ := recordLateArrival_eq store matchId
          exact WritesRatings.trans ⟨_, _, _, _, _, _, _, arrived⟩ (applyUnlocked_writes _ matchId)

theorem effect_ratings (glicko : Glicko Rating) (outside : Outside) (store : Store Rating) {op : BackendOp}
    (group : op.footprint = .ratings) : WritesRatings store (effect glicko outside store op).2 := by
  cases op with
  | applyMatch matchId rebuilding => exact applyMatch_writes outside.locked store matchId rebuilding
  | queueRebuild matchId reason =>
      obtain ⟨request, queued, _⟩ := queueRebuild_eq store matchId reason
      exact ⟨_, _, _, _, _, _, _, queued⟩
  | truncateRatings => exact ⟨_, _, _, _, _, _, _, rfl⟩
  | deleteRebuildRequests => exact ⟨_, _, _, _, _, _, _, rfl⟩
  | _ => cases group

/-! ### Projections -/

theorem repairRankedChunk_writes (store : Store Rating) (ids : List Int) :
    WritesProjections store (repairRankedChunk store ids).2 := by
  unfold repairRankedChunk
  simp only
  split
  · exact ⟨_, _, _, rfl⟩
  · generalize store.unclaimed _ _ _ = claimed
    have scalable : ∀ store : Store Rating, WritesProjections store (projectScalableMany store claimed).2 :=
      fun _ => ⟨_, _, _, rfl⟩
    have performance : ∀ store : Store Rating, WritesProjections store (projectPerformanceMany store claimed).2 :=
      fun _ => ⟨_, _, _, rfl⟩
    exact WritesProjections.trans ⟨_, _, _, rfl⟩ ((scalable _).trans (performance _))

theorem repairCasualChunk_writes (store : Store Rating) (ids : List Int) :
    WritesProjections store (repairCasualChunk store ids).2 := by
  unfold repairCasualChunk
  simp only
  split
  · exact ⟨_, _, _, rfl⟩
  · generalize store.unclaimed _ _ _ = claimed
    exact ⟨_, _, _, rfl⟩

theorem projectRankedStats_writes (store : Store Rating) (matchId : Int) :
    WritesProjections store (projectRankedStats store matchId).2 := by
  unfold projectRankedStats
  split
  · exact ⟨_, _, _, rfl⟩
  · split_ifs
    · exact ⟨_, _, _, rfl⟩
    · exact ⟨_, _, _, rfl⟩
    · obtain ⟨ingest, same⟩ := updateIngest_shape (addRankedCounts store matchId) matchId _
      exact WritesProjections.trans ⟨_, _, _, rfl⟩ ⟨_, _, _, same⟩
    · exact ⟨_, _, _, rfl⟩

theorem effect_projections (glicko : Glicko Rating) (outside : Outside) (store : Store Rating) {op : BackendOp}
    (group : op.footprint = .projections) : WritesProjections store (effect glicko outside store op).2 := by
  cases op with
  | projectRankedStats matchId => exact projectRankedStats_writes store matchId
  | projectCumulativeBatch ids stage => cases stage <;> exact ⟨_, _, _, rfl⟩
  | finishRanked matchId =>
      obtain ⟨ingest, same⟩ := updateIngest_shape store matchId _
      exact ⟨_, _, _, same⟩
  | completeRanked ids => exact ⟨_, _, _, rfl⟩
  | projectScalableMany ids => exact ⟨_, _, _, rfl⟩
  | projectCasualPerformanceMany ids => exact ⟨_, _, _, rfl⟩
  | repairRankedChunk ids => exact repairRankedChunk_writes store ids
  | repairCasualChunk ids => exact repairCasualChunk_writes store ids
  | projectFactFamily family matchId =>
      simp only [effect, projectFactFamily]
      split_ifs <;> exact ⟨_, _, _, rfl⟩
  | finishMechanics matchId =>
      obtain ⟨ingest, same⟩ := updateIngest_shape store matchId _
      exact ⟨_, _, _, same⟩
  | _ => cases group

/-! ### Facts and lifecycle -/

theorem finalize_writes (now : Int) (store : Store Rating) (payload : CanonicalMatchPayload) (source : String) :
    WritesFacts store (finalize now store payload source).2 := by
  unfold finalize
  simp only
  split
  · exact ⟨_, _, _, _, _, _, rfl⟩
  · generalize lockedRow _ _ _ _ _ = locked
    have classified : WritesFacts store (classifyQueue store payload.queueId).2 := by
      unfold classifyQueue
      split <;> exact ⟨_, _, _, _, _, _, rfl⟩
    have persisted : ∀ (store : Store Rating) population stages,
        WritesFacts store (persistFacts store payload population stages) := by
      intro store population stages
      unfold persistFacts persistMatch persistNonrankedMatch persistPlayerFacts
      split_ifs <;> exact ⟨_, _, _, _, _, _, rfl⟩
    have written := classified.trans (persisted _ (classifyQueue store payload.queueId).1 locked.completedStages)
    generalize persistFacts _ _ _ _ = facts at written
    exact written.trans ⟨_, _, _, _, _, _, rfl⟩

theorem effect_lifecycle (glicko : Glicko Rating) (outside : Outside) (store : Store Rating) {op : BackendOp}
    (group : op.footprint = .lifecycle) : WritesFacts store (effect glicko outside store op).2 := by
  have updated : ∀ matchId change, WritesFacts store (store.updateIngest matchId change) := by
    intro matchId change
    obtain ⟨ingest, same⟩ := updateIngest_shape store matchId change
    exact ⟨_, _, _, _, _, _, same⟩
  cases op with
  | registerDiscovery discovery =>
      simp only [effect, registerDiscovery]
      split <;> exact ⟨_, _, _, _, _, _, rfl⟩
  | claim matchId source owner leaseSeconds =>
      simp only [effect, claimMatch]
      split <;> exact ⟨_, _, _, _, _, _, rfl⟩
  | checkpoint matchId owner checkpoint => exact updated matchId _
  | release matchId owner => exact updated matchId _
  | completeIfDurable matchId owner => exact updated matchId _
  | markTerminalUnavailable matchId queueId source reason =>
      simp only [effect, markTerminalUnavailable]
      split <;> exact ⟨_, _, _, _, _, _, rfl⟩
  | finalize payload source => exact finalize_writes outside.now store payload source
  | _ => cases group

theorem effect_reads (glicko : Glicko Rating) (outside : Outside) (store : Store Rating) {op : BackendOp}
    (group : op.footprint = .reads) : (effect glicko outside store op).2 = store := by
  cases op <;> first
    | rfl
    | cases group

end PaladinsCat.Backend
