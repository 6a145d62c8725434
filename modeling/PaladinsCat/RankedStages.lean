import PaladinsCat.ProjectionLedgers
import PaladinsCat.RowSteps

/-!
The stages of a ranked match. The counts are added under the row lock, with the stage
`ranked_stats` in the same transaction; the performance and scalable tables have
ledgers of their own. So nothing is added twice, wherever a worker crashes and
whichever entry point takes the match up again, and a stage is in the row only if its
transaction has been committed.
-/

namespace PaladinsCat.Backend

open Interleaving

variable {Rating : Type} {glicko : Glicko Rating}

/-! ### Stages of a row -/

theorem claimedRow_stages {now leaseSeconds : Int} {source owner : String} {row : Option IngestRow}
    {changed : IngestRow} (claimed : claimedRow now source owner leaseSeconds row = some changed) :
    changed.completedStages = (row.map IngestRow.completedStages).getD ∅ := by
  cases row with
  | none =>
      cases claimed
      rfl
  | some row =>
      simp only [claimedRow] at claimed
      split at claimed
      · cases claimed
        rfl
      · cases claimed

theorem unavailableRow_stages {now queueId : Int} {source : MatchDiscoverySource} {reason : String}
    {row : Option IngestRow} {changed : IngestRow}
    (marked : unavailableRow now queueId source reason row = some changed) :
    changed.completedStages = (row.map IngestRow.completedStages).getD ∅ := by
  cases row with
  | none =>
      cases marked
      rfl
  | some row =>
      simp only [unavailableRow] at marked
      split at marked
      · cases marked
      · cases marked
        rfl

theorem checkpointRow_stages {now : Int} {owner : String} {checkpoint : MatchCheckpoint} {row changed : IngestRow}
    (updated : checkpointRow now owner checkpoint row = some changed) :
    changed.completedStages = row.completedStages := by
  unfold checkpointRow at updated
  split at updated
  · cases updated
    rfl
  · cases updated

theorem releaseRow_stages {owner : String} {row changed : IngestRow}
    (updated : releaseRow owner row = some changed) : changed.completedStages = row.completedStages := by
  unfold releaseRow at updated
  split at updated
  · cases updated
    rfl
  · cases updated

theorem completeRow_stages {now : Int} {owner : String} {row changed : IngestRow}
    (updated : completeRow now owner row = some changed) : changed.completedStages = row.completedStages := by
  unfold completeRow at updated
  split at updated
  · cases updated
    rfl
  · cases updated

/-- The stages of a row, or none if there is no row. -/
def stagesOf (row : Option IngestRow) : Finset Stage := (row.map IngestRow.completedStages).getD ∅

/-- The stages that a step adds to a row. -/
inductive StageStep (op : BackendOp) (matchId : Int) (before after : Option IngestRow) : Prop where
  | keep (same : stagesOf after = stagesOf before)
  | count (isOp : op = .projectRankedStats matchId) (uncounted : .rankedStats ∉ stagesOf before)
      (added : stagesOf after = insert .rankedStats (stagesOf before))
  | batch (ids : List Int) (stage : CumulativeStage) (isOp : op = .projectCumulativeBatch ids stage)
      (member : matchId ∈ ids) (added : stagesOf after = insert stage.stage (stagesOf before))
  | other (more : Finset Stage) (apart : Disjoint more rankedStages)
      (added : stagesOf after = more ∪ stagesOf before)

theorem RowStep.stages {op : BackendOp} {matchId : Int} {before after : Option IngestRow}
    (step : RowStep op matchId before after) : StageStep op matchId before after := by
  cases step with
  | keep row => exact .keep rfl
  | rate row rebuilding isOp => exact .other {.ratings} (by decide) (Finset.insert_eq _ _)
  | count row isOp uncounted => exact .count isOp uncounted rfl
  | batch row ids stage isOp member => exact .batch ids stage isOp member rfl
  | close row now isOp staged => exact .keep rfl
  | mechanics row now isOp population =>
      refine .other {if row.population = .special then .specialMechanicsStats else .casualMechanicsStats} ?_
        (Finset.insert_eq _ _)
      split <;> decide
  | register row discovery population isOp named => cases before <;> exact .keep rfl
  | claim row changed now source owner leaseSeconds isOp claimed => exact .keep (claimedRow_stages claimed)
  | checkpoint row changed now owner checkpoint isOp updated => exact .keep (checkpointRow_stages updated)
  | release row changed owner isOp updated => exact .keep (releaseRow_stages updated)
  | complete row changed now owner isOp updated => exact .keep (completeRow_stages updated)
  | unavailable row changed now queueId source reason isOp marked => exact .keep (unavailableRow_stages marked)
  | finalize row now payload population source isOp named agrees =>
      have locked : (lockedRow now payload population source before).completedStages = stagesOf before := by
        cases before <;> rfl
      exact .other factStages (by decide) (by rw [← locked, Finset.union_comm]; rfl)

theorem StageStep.mono {op : BackendOp} {matchId : Int} {before after : Option IngestRow}
    (step : StageStep op matchId before after) : stagesOf before ⊆ stagesOf after := by
  cases step with
  | keep same => rw [same]
  | count _ _ added => rw [added]; exact Finset.subset_insert _ _
  | batch _ _ _ _ added => rw [added]; exact Finset.subset_insert _ _
  | other more _ added => rw [added]; exact Finset.subset_union_right

/-! ### The counts of ranked matches -/

/-- A match is in the count tables at most once, and not at all before `ranked_stats`. -/
def CountedOnce (store : Store Rating) : Prop :=
  ∀ matchId, ∀ table ∈ rankedTables,
    (store.added table).count matchId ≤ if .rankedStats ∈ stagesOf (store.ingest matchId) then 1 else 0

theorem CountedOnce.mono {before after : Store Rating} (once : CountedOnce before)
    (added : ∀ table ∈ rankedTables, after.added table = before.added table)
    (stages : ∀ matchId, stagesOf (before.ingest matchId) ⊆ stagesOf (after.ingest matchId)) :
    CountedOnce after := by
  intro matchId table here
  have old := once matchId table here
  rw [added table here]
  by_cases counted : .rankedStats ∈ stagesOf (before.ingest matchId)
  · simp only [counted, if_true] at old
    simpa [stages matchId counted] using old
  · simp only [counted, if_false, Nat.le_zero] at old
    simp [old]

/-- A match is added at most once more: the items on maps have a ledger of their own. -/
theorem addRankedCounts_count (store : Store Rating) (matchId other : Int) (table : Aggregate) :
    ((addRankedCounts store matchId).added table).count other ≤
      (store.added table).count other + if other = matchId then 1 else 0 := by
  have single : ∀ ids : List Int, ids = [] ∨ ids = [matchId] → ids.count other ≤ if other = matchId then 1 else 0 := by
    rintro ids (rfl | rfl)
    · exact Nat.zero_le _
    · rw [List.count_singleton]
      by_cases same : other = matchId
      · simp [same]
      · simp [same, Ne.symm same]
  have claimed : store.unclaimed .mapItemCountsRankedMatches (fun _ => true) [matchId] = [] ∨
      store.unclaimed .mapItemCountsRankedMatches (fun _ => true) [matchId] = [matchId] := by
    by_cases seen : matchId ∈ store.claimed .mapItemCountsRankedMatches
    · exact Or.inl (by simp [Store.unclaimed, seen])
    · exact Or.inr (by simp [Store.unclaimed, seen])
  have added : (addRankedCounts store matchId).added table = store.added table ∨
      (∃ ids, (ids = [] ∨ ids = [matchId]) ∧ (addRankedCounts store matchId).added table = store.added table ++ ids) := by
    unfold addRankedCounts Store.addTo Store.claim
    dsimp only
    by_cases items : table = .mapItemCountsRanked
    · subst items
      exact Or.inr ⟨_, claimed, by simp⟩
    · by_cases here : table ∈ rankedTables
      · exact Or.inr ⟨[matchId], Or.inr rfl, by simp [items, here]⟩
      · exact Or.inl (by simp [items, here])
  rcases added with same | ⟨ids, few, same⟩
  · rw [same]
    exact Nat.le_add_right _ _
  · rw [same, List.count_append]
    exact Nat.add_le_add_left (single ids few) _

/-- The transaction leaves the store as it is, or counts a match for the first time. -/
theorem projectRankedStats_cases (store : Store Rating) (matchId : Int) :
    ((projectRankedStats store matchId).1 ≠ .projected ∧ (projectRankedStats store matchId).2 = store) ∨
      ((projectRankedStats store matchId).1 = .projected ∧ Uncounted store matchId ∧
        (projectRankedStats store matchId).2 = (addRankedCounts store matchId).updateIngest matchId
          fun row => some (row.addStage .rankedStats)) := by
  unfold projectRankedStats
  split
  · exact Or.inl ⟨by simp, rfl⟩
  · rename_i row stored
    split_ifs with _ counted
    · exact Or.inl ⟨by simp, rfl⟩
    · exact Or.inl ⟨by simp, rfl⟩
    · exact Or.inr ⟨rfl, ⟨row, stored, counted⟩, rfl⟩
    · exact Or.inl ⟨by simp, rfl⟩

theorem CountedOnce.projectRankedStats {store : Store Rating} (once : CountedOnce store) (matchId : Int) :
    CountedOnce (projectRankedStats store matchId).2 := by
  rcases projectRankedStats_cases store matchId with ⟨_, same⟩ | ⟨_, ⟨row, stored, uncounted⟩, same⟩
  · rwa [same]
  · intro other table here
    have old := once other table here
    have more := addRankedCounts_count store matchId other table
    have stages := (projectRankedStats_rowStep store matchId other).stages.mono
    rw [same] at stages ⊢
    have tables : ((addRankedCounts store matchId).updateIngest matchId
        fun row => some (row.addStage .rankedStats)).added = (addRankedCounts store matchId).added := by
      rw [Store.updateIngest_eq]
    rw [tables]
    by_cases here : other = matchId
    · subst here
      have counted : .rankedStats ∈ stagesOf (((addRankedCounts store other).updateIngest other
          fun row => some (row.addStage .rankedStats)).ingest other) := by
        have unchanged : (addRankedCounts store other).ingest other = some row := stored
        rw [Store.updateIngest_eq]
        simp [unchanged, stagesOf, IngestRow.addStage]
      rw [stored] at old
      have none : (store.added table).count other = 0 := by simpa [stagesOf, uncounted] using old
      simpa [counted, none] using more
    · simp only [here, if_false, Nat.add_zero] at more
      by_cases counted : .rankedStats ∈ stagesOf (store.ingest other)
      · simp only [counted, if_true] at old
        simpa [stages counted] using more.trans old
      · simp only [counted, if_false] at old
        exact (more.trans old).trans (Nat.zero_le _)

/-- The repairs write none of the count tables. -/
theorem repairs_ranked (outside : Outside) (store : Store Rating) {op : BackendOp} (repairs : op.repairs = true)
    {table : Aggregate} (here : table ∈ rankedTables) :
    (effect glicko outside store op).2.added table = store.added table := by
  have unowned : ∀ projector : Projector, table ∉ projector.tables := by
    intro projector
    rw [Projector.mem_tables, projector_ranked.mp here]
    simp
  cases op with
  | repairRankedChunk ids =>
      change (repairRankedChunk store ids).2.added table = _
      rw [repairRankedChunk_eq]
      split
      · rfl
      · exact if_neg (unowned .performance)
  | repairCasualChunk ids =>
      change (repairCasualChunk store ids).2.added table = _
      rw [repairCasualChunk_eq]
      split <;> rfl
  | _ => cases repairs

theorem CountedOnce.served {before after : Store Rating} (once : CountedOnce before) {op : BackendOp}
    {reply : op.Reply} (served : (serve glicko).handler before op reply after) : CountedOnce after := by
  have stages : ∀ matchId, stagesOf (before.ingest matchId) ⊆ stagesOf (after.ingest matchId) :=
    fun matchId => (served_rowStep served matchId).stages.mono
  rcases served_store served with rfl | ⟨outside, rfl⟩
  · exact once
  · cases repairs : op.repairs with
    | true => exact once.mono (fun table here => repairs_ranked outside before repairs here) stages
    | false =>
        cases effect_ledgerStep outside before repairs with
        | none same => exact once.mono (fun table _ => by rw [same.2]) stages
        | book projector allowed requested same =>
            apply once.mono _ stages
            intro table here
            rw [same.2, book_added, if_neg]
            rw [Projector.mem_tables, projector_ranked.mp here]
            simp
        | count matchId isOp _ _ =>
            subst isOp
            exact once.projectRankedStats matchId

/-! ### The transactions behind the stages -/

/-- The turn has committed the transaction that belongs to the stage of a match. -/
def CommitsStage (stage : Stage) (matchId : Int) (turn : BackendTurn Rating BackendOutcome) : Prop :=
  (stage = .rankedStats ∧ turn.op = .projectRankedStats matchId ∧
    (projectRankedStats turn.before matchId).1 = .projected ∧
    turn.after = (projectRankedStats turn.before matchId).2) ∨
  ∃ ids cumulative, stage = CumulativeStage.stage cumulative ∧ turn.op = .projectCumulativeBatch ids cumulative ∧
    matchId ∈ ids ∧ turn.after = projectCumulativeBatch turn.before ids cumulative

theorem stage_committed {turn : BackendTurn Rating BackendOutcome} {matchId : Int} {stage : Stage}
    (served : (serve glicko).handler turn.before turn.op turn.reply turn.after) (ranked : stage ∈ rankedStages)
    (staged : stage ∈ stagesOf (turn.after.ingest matchId)) :
    stage ∈ stagesOf (turn.before.ingest matchId) ∨ CommitsStage stage matchId turn := by
  rcases served_store served with unchanged | ⟨outside, after⟩
  · rw [unchanged] at staged
    exact Or.inl staged
  · cases (served_rowStep served matchId).stages with
    | keep same =>
        rw [same] at staged
        exact Or.inl staged
    | count isOp uncounted added =>
        rw [added, Finset.mem_insert] at staged
        rw [isOp] at after
        rcases staged with rfl | old
        · rcases projectRankedStats_cases turn.before matchId with ⟨_, same⟩ | ⟨projected, _, _⟩
          · have unchanged : turn.after = turn.before := after.trans same
            rw [unchanged] at added
            have counted : Stage.rankedStats ∈ stagesOf (turn.before.ingest matchId) := by
              rw [added]
              exact Finset.mem_insert_self _ _
            exact absurd counted uncounted
          · exact Or.inr (Or.inl ⟨rfl, isOp, projected, after⟩)
        · exact Or.inl old
    | batch ids cumulative isOp member added =>
        rw [added, Finset.mem_insert] at staged
        rcases staged with same | old
        · rw [isOp] at after
          exact Or.inr (Or.inr ⟨ids, cumulative, same, isOp, member, after⟩)
        · exact Or.inl old
    | other more apart added =>
        rw [added, Finset.mem_union] at staged
        rcases staged with new | old
        · exact absurd ranked (Finset.disjoint_left.mp apart new)
        · exact Or.inl old

/-- In every run from empty projection tables: each match is at most once in each
table of the counts, of the performance projector and of the scalable projector; and
a stage that was not there at the start is in a row only if its transaction for this
match has been committed. -/
theorem ranked_projection_at_most_once {start : Store Rating} {history : List (BackendTurn Rating BackendOutcome)}
    {state : State (Store Rating) BackendOp BackendOp.Reply BackendOutcome}
    (empty : start.added = fun _ => []) (run : BackendRun glicko start history state) :
    (∀ matchId, ∀ table ∈ rankedTables ++ performanceTables ++ scalableTables,
      (state.shared.added table).count matchId ≤ 1) ∧
    ∀ matchId, ∀ stage ∈ rankedStages, stage ∈ stagesOf (state.shared.ingest matchId) →
      stage ∈ stagesOf (start.ingest matchId) ∨ ∃ turn ∈ history, CommitsStage stage matchId turn := by
  constructor
  · have once : AtMostOnce .performance state.shared ∧ AtMostOnce .scalable state.shared ∧
        CountedOnce state.shared := by
      apply run_invariant (fun store => AtMostOnce .performance store ∧ AtMostOnce .scalable store ∧
        CountedOnce store) _ run
      · exact ⟨fun _ _ _ => by simp [empty], fun _ _ _ => by simp [empty], fun _ _ _ => by simp [empty]⟩
      · rintro before op reply after ⟨performance, scalable, counts⟩ served
        exact ⟨performance.served served, scalable.served served, counts.served served⟩
    obtain ⟨performance, scalable, counts⟩ := once
    have few : ∀ claimed : Prop, [Decidable claimed] → (if claimed then 1 else 0) ≤ 1 := by
      intro claimed _
      split <;> omega
    intro matchId table here
    rcases List.mem_append.mp here with here | here
    · rcases List.mem_append.mp here with here | here
      · exact (counts matchId table here).trans (few _)
      · exact (performance matchId table here).trans (few _)
    · exact (scalable matchId table here).trans (few _)
  · apply run_history (fun history store => ∀ matchId, ∀ stage ∈ rankedStages,
      stage ∈ stagesOf (store.ingest matchId) →
        stage ∈ stagesOf (start.ingest matchId) ∨ ∃ turn ∈ history, CommitsStage stage matchId turn) _ run
    · exact fun _ _ _ staged => Or.inl staged
    · intro history turn recorded served matchId stage ranked staged
      rcases stage_committed served ranked staged with old | committed
      · rcases recorded matchId stage ranked old with first | ⟨earlier, member, committed⟩
        · exact Or.inl first
        · exact Or.inr ⟨earlier, List.mem_append_left _ member, committed⟩
      · exact Or.inr ⟨turn, by simp, committed⟩

/-- A projection that stops after the counts, and a batch that takes the match up. -/
theorem projected_after_a_crash :
    ∃ history state, BackendRun pointGlicko (unprojected 7) history state ∧
      (∀ table ∈ rankedTables ++ performanceTables ++ scalableTables, 7 ∈ state.shared.added table) ∧
      ∀ matchId, ∀ table ∈ rankedTables ++ performanceTables ++ scalableTables,
        (state.shared.added table).count matchId ≤ 1 := by
  have passed : (replay (serve pointGlicko) callCode ⟨unprojected 7, []⟩
      [.enter (.projectMatch 7), .turn 0 {}, .turn 0 {}, .turn 0 {}, .enter (.completeCumulativeStages [7]),
        .turn 1 {}, .turn 1 {}, .turn 1 {}, .turn 1 {}, .turn 1 {}]).any
      (fun reached => (rankedTables ++ performanceTables ++ scalableTables).all fun table =>
        (reached.2.shared.added table).contains 7) = true := by decide +kernel
  obtain ⟨history, state, run, tested⟩ := replay_reaches passed
  have all : ∀ table ∈ rankedTables ++ performanceTables ++ scalableTables, 7 ∈ state.shared.added table := by
    intro table here
    simpa using List.all_eq_true.mp tested table here
  exact ⟨history, state, run, all, (ranked_projection_at_most_once rfl run).1⟩

end PaladinsCat.Backend
