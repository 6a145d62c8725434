import PaladinsCat.Ensures
import PaladinsCat.FactUpserts
import PaladinsCat.HourPrograms
import PaladinsCat.RankedStages

/-!
The drain's step for one outcome down to the transactions (pipeline.rs): what
`checkpoint_canonical_outcome` has `finalize` write and the projectors project. A limited
match is final once its facts are committed; the projection of a ranked one still has to
accept it before the drain counts it.
-/

namespace PaladinsCat.Backend

open Interleaving Program
open Hirez (Value)

variable {Rating : Type} {glicko : Glicko Rating}

/-! ### The step -/

/-- How the database reads the entry time and the columns of a player. -/
structure FactColumns where
  entryDatetime : String → Int
  player : Value → FactPlayer

def FactColumns.payload (columns : FactColumns) (facts : RelayPayload) : CanonicalMatchPayload where
  matchId := facts.matchId
  queueId := facts.queueId
  entryDatetime := columns.entryDatetime facts.entryDatetime
  winningTaskForce := facts.score.winner
  limited := facts.limited == some true
  players := (assignPrivateSlots facts.players).map columns.player

inductive CheckpointError where
  | outcome (error : PipelineError)
  | finalize (error : String)
  | conflict (error : ConflictError)
  | ranked (error : RankedProjectionError)
  | casual (error : CasualItemProjectionError)
  | unclassified (matchId : Int)

/-- All of them but those of the outcome itself become `PipelineError::Facts`, with the
text that `describe` gives them. -/
def CheckpointError.pipeline (describe : CheckpointError → String) : CheckpointError → PipelineError
  | .outcome error => error
  | error => .facts (describe error)

def checkpointCanonicalOutcome (columns : FactColumns) (outcome : Value) (queueId : Int)
    (source : MatchDiscoverySource) : BackendProgram (Except CheckpointError Int) :=
  match hourlyFacts outcome queueId with
  | .error error => return .error (.outcome error)
  | .ok facts => do
      let canonical := columns.payload facts
      match ← perform (BackendOp.finalize canonical source.asDatabase) with
      | .error error => return .error (.finalize error)
      | .ok (.error conflict) => return .error (.conflict conflict)
      | .ok (.ok finalized) =>
          match finalized.population with
          | .ranked =>
              match ← projectMatch canonical.matchId with
              | .error error => return .error (.ranked error)
              | .ok _ => return .ok canonical.matchId
          | .casual | .special =>
              match ← projectAllForMatch canonical.matchId with
              | .error error => return .error (.casual error)
              | .ok _ => return .ok canonical.matchId
          | .unknown => return .error (.unclassified canonical.matchId)

/-- What the loop of the drain does with one outcome. -/
def drainOutcome (columns : FactColumns) (describe : CheckpointError → String) (matchId queueId : Int)
    (source : MatchDiscoverySource) (outcome : Value) (drain : Drain) :
    BackendProgram (Except PipelineError Drain) := do
  match ← checkpointCanonicalOutcome columns outcome queueId source with
  | .ok _ => return .ok drain.complete
  | .error error =>
      match error.pipeline describe with
      | .terminalFacts terminalId reason =>
          match ← perform (BackendOp.markTerminalUnavailable terminalId queueId source reason) with
          | .error error => return .error (.database error)
          | .ok () => return .ok drain.complete
      | error => return .ok (drain.fail ("match " ++ toString matchId ++ ": " ++ error.toString))

/-! ### With a database that serves everything -/

/-- Every transaction commits, and the lock of the ratings is free. -/
def servesAll (glicko : Glicko Rating) : Handler (Store Rating) BackendOp BackendOp.Reply :=
  fun before op reply after =>
    ∃ now, reply = .ok (effect glicko { now } before op).1 ∧ after = (effect glicko { now } before op).2

/-- What a program makes sure of there. -/
def Yields {α : Type} (glicko : Glicko Rating) (before : Store Rating) (program : BackendProgram α)
    (post : α → Store Rating → Prop) : Prop :=
  Ensures (servesAll glicko) (fun _ => True) before program post

theorem yields_call {α : Type} {before : Store Rating} {op : BackendOp} {rest : op.Reply → BackendProgram α}
    {post : α → Store Rating → Prop}
    (each : ∀ now, Yields glicko (effect glicko { now } before op).2
      (rest (.ok (effect glicko { now } before op).1)) post) :
    Yields glicko before (perform op >>= rest) post := by
  apply ensures_call
  rintro reply middle ⟨now, rfl, rfl⟩ -
  exact each now

/-! ### project_match -/

section
variable {before : Store Rating} {matchId : Int}

theorem projectBatch_yields {ids : List Int} {stage : CumulativeStage} :
    Yields glicko before (projectBatch ids stage) fun result _ => result = .ok () := by
  unfold projectBatch
  split
  · exact ensures_done rfl
  · apply yields_call
    intro now
    exact ensures_done rfl

theorem finishCumulativeStages_yields {needsPerformance needsScalable : Bool} :
    Yields glicko before (finishCumulativeStages matchId needsPerformance needsScalable) fun result _ =>
      result = .ok (needsPerformance || needsScalable) := by
  have asked : ∀ (before : Store Rating) (needs : Bool) (stage : CumulativeStage),
      Yields glicko before (if needs then projectBatch [matchId] stage else return .ok ()) fun result _ =>
        result = .ok () := by
    intro before needs stage
    cases needs with
    | true =>
        rw [if_pos rfl]
        exact projectBatch_yields
    | false => exact ensures_done rfl
  apply ensures_then (asked _ _ _)
  rintro _ middle rfl
  apply ensures_then (asked _ _ _)
  rintro _ last rfl
  apply yields_call
  intro now
  exact ensures_done rfl

theorem projectStages_yields :
    Yields glicko before (projectStages matchId) fun result _ =>
      ((∃ projection, result = .ok projection) ↔ (projectRankedStats before matchId).1 ≠ .rejected) := by
  apply yields_call
  intro now
  have same : effect glicko { now } before (.projectRankedStats matchId) = projectRankedStats before matchId := rfl
  rw [same]
  cases (projectRankedStats before matchId).1 with
  | rejected => exact ensures_done (by simp)
  | projectedBefore needsPerformance needsScalable =>
      apply ensures_then finishCumulativeStages_yields
      rintro _ last rfl
      cases needsPerformance || needsScalable with
      | true => exact ensures_done (by simp)
      | false => exact ensures_done (by simp)
  | projected =>
      apply ensures_then finishCumulativeStages_yields
      rintro _ last rfl
      exact ensures_done (by simp)

/-- When the transaction of `project_match` with the row lock goes through. -/
theorem projectRankedStats_accepts (store : Store Rating) (matchId : Int) :
    (projectRankedStats store matchId).1 ≠ .rejected ↔ ∃ row, store.ingest matchId = some row ∧
      row.population = .ranked ∧ (.rankedStats ∈ row.completedStages ∨ rankedEligible store matchId = true) := by
  unfold projectRankedStats
  cases stored : store.ingest matchId with
  | none => simp
  | some row =>
      by_cases ranked : row.population = .ranked
      · by_cases counted : .rankedStats ∈ row.completedStages
        · simp [ranked, counted]
        · cases rankedEligible store matchId <;> simp [ranked, counted]
      · simp [ranked]

/-- The ratings of a match are no part of what its projection asks for. -/
theorem projectRankedStats_rated (locked rebuilding : Bool) (store : Store Rating) (matchId : Int) :
    (projectRankedStats (applyMatch glicko locked store matchId rebuilding).2 matchId).1 ≠ .rejected ↔
      (projectRankedStats store matchId).1 ≠ .rejected := by
  have same : rankedEligible (applyMatch glicko locked store matchId rebuilding).2 matchId =
      rankedEligible store matchId := by
    obtain ⟨_, _, _, _, _, _, _, written⟩ := applyMatch_writes locked store matchId rebuilding
    rw [written]
    rfl
  rw [projectRankedStats_accepts, projectRankedStats_accepts, same]
  have step : RowStep _ _ _ ((applyMatch glicko locked store matchId rebuilding).2.ingest matchId) :=
    applyMatch_rowStep locked store matchId rebuilding matchId
  generalize (applyMatch glicko locked store matchId rebuilding).2.ingest matchId = after at step ⊢
  generalize store.ingest matchId = row at step ⊢
  cases step with
  | keep => rfl
  | rate row _ _ => simp [IngestRow.addStage]
  | count _ isOp => cases isOp
  | batch _ _ _ isOp => cases isOp
  | close _ _ isOp => simp at isOp
  | mechanics _ _ isOp => cases isOp
  | register _ _ _ isOp => cases isOp
  | claim _ _ _ _ _ _ isOp => cases isOp
  | checkpoint _ _ _ _ _ isOp => cases isOp
  | release _ _ _ isOp => cases isOp
  | complete _ _ _ _ isOp => cases isOp
  | unavailable _ _ _ _ _ _ isOp => cases isOp
  | finalize _ _ _ _ _ isOp => cases isOp

theorem applyMatch_free (store : Store Rating) (matchId : Int) :
    (applyMatch glicko true store matchId false).1 ≠ .busy := by
  unfold applyMatch
  rw [Bool.not_true, if_neg Bool.false_ne_true]
  split
  · simp
  · rcases applyUnlocked_cases glicko (if false = true then store else recordLateArrival store matchId) matchId with
      ⟨_, _, same⟩ | ⟨_, _, _, same⟩ | ⟨_, _, _, _, _, same⟩
    · rw [same]
      simp
    · rw [same]
      simp
    · rw [same]
      simp

theorem projectMatch_yields :
    Yields glicko before (projectMatch matchId) fun result _ =>
      ((∃ projection, result = .ok projection) ↔
        rankedCandidate before matchId = true ∧ (projectRankedStats before matchId).1 ≠ .rejected) := by
  apply yields_call
  intro now
  have same : effect glicko { now } before (.rankedCandidate matchId) = (rankedCandidate before matchId, before) := rfl
  rw [same]
  cases rankedCandidate before matchId with
  | false => exact ensures_done (by simp)
  | true =>
      apply yields_call
      intro later
      have rated : effect glicko { now := later } before (.applyMatch matchId false) =
          applyMatch glicko true before matchId false := rfl
      have stages : Yields glicko (applyMatch glicko true before matchId false).2 (projectStages matchId) _ :=
        projectStages_yields
      rw [projectRankedStats_rated] at stages
      rw [rated]
      cases applied : (applyMatch glicko true before matchId false).1 with
      | busy => exact absurd applied (applyMatch_free before matchId)
      | applied => simpa using stages
      | skipped => simpa using stages
      | deferred => simpa using stages

end

/-! ### What finalize leaves of a limited ranked match -/

/-- The players of all matches, with those of the payload written unless that stage is done. -/
def playersWritten (store : Store Rating) (payload : CanonicalMatchPayload) : List MatchPlayerRow :=
  if .playerFacts ∈ stagesOf (store.ingest payload.matchId) then store.matchPlayers
  else (persistPlayerFacts store payload).matchPlayers

/-- A ranked row of the match that is not marked as limited, and that `finalize` does not
mark either: its core stage is done, or the row is of another entry time. -/
def StaysUnmarked (store : Store Rating) (payload : CanonicalMatchPayload) : Prop :=
  ∃ row ∈ store.matchRows, row.matchId = payload.matchId ∧ row.queueId = rankedQueueId ∧ row.limited = false ∧
    (.core ∈ stagesOf (store.ingest payload.matchId) ∨ row.entryDatetime ≠ payload.entryDatetime)

/-- Ten of the match's players can be counted. -/
def TenCounted (players : List MatchPlayerRow) (matchId : Int) : Prop :=
  10 ≤ players.countP fun player =>
    player.matchId == matchId && player.isRanked && player.championId.any (0 < ·) && hasOutcome player.winStatus

/-- What has to be stored before, for the projection to accept a limited match. -/
structure Projectable (store : Store Rating) (payload : CanonicalMatchPayload) : Prop where
  unmarked : StaysUnmarked store payload
  counted : .rankedStats ∈ stagesOf (store.ingest payload.matchId) ∨
    TenCounted (playersWritten store payload) payload.matchId

section
variable {store : Store Rating} {payload : CanonicalMatchPayload} {source : String} {now : Int}

theorem classifyQueue_ranked {queueId : Int} (ranked : (classifyQueue store queueId).1 = .ranked) :
    classifyQueue store queueId = (.ranked, store) := by
  unfold classifyQueue at ranked ⊢
  split at ranked
  · rename_i queue _
    exact Prod.ext ranked rfl
  · cases ranked

/-- Rows of the payload's own key become limited, and the row that is inserted is. -/
theorem persistMatch_unmarked (limited : payload.limited = true) :
    ((persistMatch store payload).matchRows.any fun row =>
      row.matchId == payload.matchId && row.queueId == rankedQueueId && !row.limited) = true ↔
      ∃ row ∈ store.matchRows, row.matchId = payload.matchId ∧ row.queueId = rankedQueueId ∧ row.limited = false ∧
        row.entryDatetime ≠ payload.entryDatetime := by
  rw [List.any_eq_true]
  simp only [persistMatch, Bool.and_eq_true, beq_iff_eq, Bool.not_eq_true']
  constructor
  · rintro ⟨row, member, ⟨named, queue⟩, free⟩
    split at member
    · obtain ⟨before, listed, rfl⟩ := List.mem_map.mp member
      split at free
      · rw [limited] at free
        cases free
      · rename_i other
        rw [if_neg other] at named queue
        exact ⟨before, listed, named, queue, free, not_and.mp other named⟩
    · rename_i fresh
      rcases List.mem_append.mp member with listed | new
      · refine ⟨row, listed, named, queue, free, fun entered => fresh ?_⟩
        exact List.any_eq_true.mpr ⟨row, listed, by simp [named, entered]⟩
      · rw [List.mem_singleton.mp new, limited] at free
        cases free
  · rintro ⟨row, listed, named, queue, free, apart⟩
    refine ⟨row, ?_, ⟨named, queue⟩, free⟩
    have other : ¬(row.matchId = payload.matchId ∧ row.entryDatetime = payload.entryDatetime) :=
      fun both => apart both.2
    split
    · exact List.mem_map.mpr ⟨row, listed, if_neg other⟩
    · exact List.mem_append_left _ listed

/-- The facts that are stored once `finalize` has committed a ranked payload. -/
structure Finalized (store : Store Rating) (payload : CanonicalMatchPayload) (after : Store Rating) : Prop where
  row : ∃ row, after.ingest payload.matchId = some row ∧ row.population = .ranked ∧
    row.completedStages = stagesOf (store.ingest payload.matchId) ∪ factStages
  matchRows : after.matchRows = if .core ∈ stagesOf (store.ingest payload.matchId) then store.matchRows
    else (persistMatch store payload).matchRows
  matchPlayers : after.matchPlayers = playersWritten store payload

theorem finalize_ranked (ranked : (classifyQueue store payload.queueId).1 = .ranked)
    {done : MatchFactFinalization} (committed : (finalize now store payload source).1 = .ok done) :
    done.population = .ranked ∧ Finalized store payload (finalize now store payload source).2 := by
  have classified := classifyQueue_ranked ranked
  unfold finalize at committed ⊢
  rw [classified] at committed ⊢
  dsimp only at committed ⊢
  cases conflict : (store.ingest payload.matchId).bind (factConflict payload .ranked) with
  | some error => simp [conflict] at committed
  | none =>
      simp only [conflict, Except.ok.injEq] at committed ⊢
      have stages : ∀ row, (lockedRow now payload .ranked source row).completedStages = stagesOf row := by
        intro row
        cases row <;> rfl
      have population : (lockedRow now payload .ranked source (store.ingest payload.matchId)).population = .ranked := by
        cases stored : store.ingest payload.matchId with
        | none => rfl
        | some row =>
            by_cases unknown : row.population = .unknown
            · simp [lockedRow, unknown]
            · have agreed : row.population = .ranked := by
                by_contra other
                simp only [stored, Option.bind_some, factConflict] at conflict
                rw [if_pos (And.intro unknown other)] at conflict
                split at conflict <;> cases conflict
              simp [lockedRow, agreed]
      refine ⟨committed ▸ rfl, ⟨?_, ?_, ?_⟩⟩
      · exact ⟨_, Function.update_self _ _ _, population, congrArg (· ∪ factStages) (stages _)⟩
      · rw [stages]
        simp only [persistFacts, if_true]
        split_ifs <;> rfl
      · rw [stages]
        simp only [persistFacts, playersWritten, if_true]
        split_ifs <;> rfl

theorem project_finalized_iff (limited : payload.limited = true) {after : Store Rating}
    (finalized : Finalized store payload after) :
    (rankedCandidate after payload.matchId = true ∧ (projectRankedStats after payload.matchId).1 ≠ .rejected) ↔
      Projectable store payload := by
  obtain ⟨row, stored, population, stages⟩ := finalized.row
  have candidate : rankedCandidate after payload.matchId = true ↔ StaysUnmarked store payload := by
    simp only [rankedCandidate, stored, Option.any_some, population, beq_self_eq_true, Bool.true_and]
    rw [finalized.matchRows, StaysUnmarked]
    split_ifs with core
    · simp [core, and_assoc]
    · rw [persistMatch_unmarked limited]
      simp [core]
  have counted : .rankedStats ∈ row.completedStages ↔ .rankedStats ∈ stagesOf (store.ingest payload.matchId) := by
    simp [stages, factStages]
  have eligible : StaysUnmarked store payload →
      (rankedEligible after payload.matchId = true ↔ TenCounted (playersWritten store payload) payload.matchId) := by
    intro unmarked
    obtain ⟨found, member, shape⟩ : ∃ found ∈ after.matchRows, _ := List.any_eq_true.mp
      (Bool.and_eq_true_iff.mp (candidate.mpr unmarked)).2
    have known : (after.matchRows.any fun row => row.matchId == payload.matchId && row.queueId == rankedQueueId) =
        true := List.any_eq_true.mpr ⟨found, member, (Bool.and_eq_true_iff.mp shape).1⟩
    simp only [rankedEligible, known, Bool.true_and, decide_eq_true_eq, finalized.matchPlayers, TenCounted]
  rw [candidate, projectRankedStats_accepts]
  constructor
  · rintro ⟨unmarked, own, same, -, accepted⟩
    rw [stored, Option.some.injEq] at same
    subst same
    exact ⟨unmarked, accepted.imp counted.mp (eligible unmarked).mp⟩
  · rintro ⟨unmarked, accepted⟩
    exact ⟨unmarked, row, stored, population, accepted.imp counted.mpr (eligible unmarked).mpr⟩

/-- `finalize` commits, and leaves the match limited. -/
def CommitsLimited (store : Store Rating) (payload : CanonicalMatchPayload) (source : String) : Prop :=
  ∀ now, (∃ done, (finalize now store payload source).1 = .ok done) ∧
    ((finalize now store payload source).2.ingest payload.matchId).any (·.status == .limited) = true

theorem commitsLimited_unfinished (limited : payload.limited = true)
    (agrees : (store.ingest payload.matchId).bind (factConflict payload (classifyQueue store payload.queueId).1) = none)
    (unfinished : ∀ row, store.ingest payload.matchId = some row → row.status ≠ .complete) :
    CommitsLimited store payload source := by
  intro now
  unfold finalize
  dsimp only
  rw [agrees]
  refine ⟨⟨_, rfl⟩, ?_⟩
  dsimp only
  rw [Function.update_self, Option.any_some, beq_iff_eq]
  simp only [closedRow, limited, if_true, lockedRow]
  cases stored : store.ingest payload.matchId with
  | none => rfl
  | some row =>
      have other := unfinished row stored
      by_cases before : row.status = .limited
      · simp [before]
      · simp [before, other]

end

/-! ### The drain of a limited ranked match -/

section
variable {columns : FactColumns} {describe : CheckpointError → String} {matchId queueId : Int}
  {source : MatchDiscoverySource} {outcome : Value} {drain : Drain} {store : Store Rating} {facts : RelayPayload}

theorem checkpoint_yields (decoded : hourlyFacts outcome queueId = .ok facts) (limited : facts.limited = some true)
    (ranked : (classifyQueue store queueId).1 = .ranked)
    (commits : CommitsLimited store (columns.payload facts) source.asDatabase) :
    Yields glicko store (checkpointCanonicalOutcome columns outcome queueId source) fun result _ =>
      ((∃ id, result = .ok id) ↔ Projectable store (columns.payload facts)) ∧
        ∀ error, result = .error error → ∃ rejection, error = .ranked rejection := by
  have queue : (columns.payload facts).queueId = queueId := (hourlyFacts_iff.mp decoded).2.1
  have marked : (columns.payload facts).limited = true := by simp [FactColumns.payload, limited]
  unfold checkpointCanonicalOutcome
  rw [decoded]
  apply yields_call
  intro now
  obtain ⟨⟨done, committed⟩, -⟩ := commits now
  obtain ⟨population, finalized⟩ := finalize_ranked (queue ▸ ranked) committed
  have same : effect glicko { now } store (.finalize (columns.payload facts) source.asDatabase) =
      finalize now store (columns.payload facts) source.asDatabase := rfl
  rw [same, committed]
  dsimp only
  rw [population]
  apply ensures_then projectMatch_yields
  intro result after accepted
  rw [project_finalized_iff marked finalized] at accepted
  cases result with
  | error rejection =>
      have own : ∀ error, (Except.error (.ranked rejection) : Except CheckpointError Int) = .error error →
          ∃ rejection, error = .ranked rejection := fun error told => ⟨rejection, (Except.error.inj told).symm⟩
      exact ensures_done ⟨by simpa using accepted, own⟩
  | ok projection => exact ensures_done ⟨by simpa using accepted, by simp⟩

theorem drainOutcome_yields (decoded : hourlyFacts outcome queueId = .ok facts) (limited : facts.limited = some true)
    (ranked : (classifyQueue store queueId).1 = .ranked)
    (commits : CommitsLimited store (columns.payload facts) source.asDatabase) :
    Yields glicko store (drainOutcome columns describe matchId queueId source outcome drain) fun settled _ =>
      (settled = .ok drain.complete ↔ Projectable store (columns.payload facts)) := by
  have unequal : ∀ failure, drain.fail failure ≠ drain.complete := by
    intro failure same
    have counts : drain.completed = drain.completed + 1 := congrArg Drain.completed same
    omega
  apply ensures_then (checkpoint_yields decoded limited ranked commits)
  rintro (error | id) after ⟨accepted, rejected⟩
  · obtain ⟨rejection, rfl⟩ := rejected error rfl
    apply ensures_done
    simpa [unequal] using accepted
  · apply ensures_done
    simpa using accepted

/-- For every ranked discovery whose outcome is a valid limited payload that `finalize`
commits as limited, if all transactions commit and the ratings are not being applied
elsewhere: the drain counts the match as completed exactly if it is projectable. -/
theorem limited_match_completes_iff (glicko : Glicko Rating) (columns : FactColumns)
    (describe : CheckpointError → String) (matchId queueId : Int) (source : MatchDiscoverySource) (outcome : Value)
    (drain : Drain) (store after : Store Rating) (facts : RelayPayload)
    (events : List (Event (Store Rating) BackendOp BackendOp.Reply)) (settled : Except PipelineError Drain)
    (decoded : hourlyFacts outcome queueId = .ok facts) (limited : facts.limited = some true)
    (ranked : (classifyQueue store queueId).1 = .ranked)
    (commits : CommitsLimited store (columns.payload facts) source.asDatabase)
    (run : Exec (servesAll glicko) store (drainOutcome columns describe matchId queueId source outcome drain) events
      settled after) :
    settled = .ok drain.complete ↔ Projectable store (columns.payload facts) :=
  (drainOutcome_yields decoded limited ranked commits).reaches events settled after run fun _ _ => trivial

end

/-! ### A match that is new -/

theorem servesAll_total {α : Type} (store : Store Rating) (program : BackendProgram α) :
    ∃ events result after, Exec (servesAll glicko) store program events result after := by
  induction program generalizing store with
  | done result => exact ⟨[], result, store, .done _ _⟩
  | call op rest ih =>
      obtain ⟨events, result, after, run⟩ := ih (.ok (effect glicko {} store op).1) (effect glicko {} store op).2
      exact ⟨_, result, after, .call _ ⟨0, rfl, rfl⟩ run⟩

def limitedOutcome : Value :=
  .object [("matchId", .integer 7), ("status", .string "complete_recovered"),
    ("match", .object [("match_id", .integer 7), ("entry_datetime", .string "2026-01-01T00:00:00Z"),
      ("map", .string "Ranked Jaguar Falls"), ("queue_id", .integer 486), ("duration_seconds", .integer 900),
      ("team1_score", .integer 4), ("team2_score", .integer 2), ("winning_task_force", .integer 1),
      ("limited", .bool true), ("players", .array ((List.range 6).map publicRow))])]

theorem limitedOutcome_decoded : ∃ facts, hourlyFacts limitedOutcome 486 = .ok facts ∧ facts.limited = some true ∧
    facts.matchId = 7 ∧ facts.queueId = 486 := by
  have read : (hourlyFacts limitedOutcome 486).toOption.any (fun facts =>
      facts.limited == some true && facts.matchId == 7 && facts.queueId == 486) = true := by decide +kernel
  cases found : hourlyFacts limitedOutcome 486 with
  | error error => simp [found, Except.toOption] at read
  | ok facts => exact ⟨facts, rfl, by simpa [found, Except.toOption, and_assoc] using read⟩

/-- A database that knows the queue, and no match. -/
def rankedQueueOnly : Store Int where
  queueTypes queueId := if queueId = rankedQueueId then some ⟨true, .ranked⟩ else none

def plainColumns : FactColumns where
  entryDatetime _ := 100
  player player :=
    { playerId := playerI64 player "player_id"
      privateSlot := playerI64 player "_private_slot"
      playerName := none
      championId := some (playerI64 player "champion_id")
      winStatus := some (playerText player "win_status")
      taskForce := some (playerI64 player "task_force")
      source := .direct }

/-- The same match has facts and ranked counts already, and was not limited then. -/
def countedBefore : Store Int :=
  { rankedQueueOnly with
    matchRows := [⟨7, 100, rankedQueueId, some true, false, some 1⟩]
    ingest := fun id => if id = 7 then
        some { status := .partialFacts, population := .ranked, completedStages := insert .rankedStats factStages }
      else none }

theorem counted_limited_match_completes :
    ∃ events settled after, Exec (servesAll pointGlicko) countedBefore
      (drainOutcome plainColumns (fun _ => "") 7 486 .hourlyDiscovery limitedOutcome {}) events settled after ∧
        settled = .ok ({} : Drain).complete := by
  obtain ⟨facts, decoded, limited, named, queue⟩ := limitedOutcome_decoded
  have known : (plainColumns.payload facts).matchId = 7 := named
  have commits : CommitsLimited countedBefore (plainColumns.payload facts)
      MatchDiscoverySource.hourlyDiscovery.asDatabase := by
    apply commitsLimited_unfinished (by simp [FactColumns.payload, limited])
    · simp [FactColumns.payload, named, queue, countedBefore, factConflict, classifyQueue, rankedQueueOnly,
        rankedQueueId, populationForQueue]
    · intro row stored
      rw [known] at stored
      cases stored
      simp
  obtain ⟨events, settled, after, run⟩ := @servesAll_total _ pointGlicko _ countedBefore
    (drainOutcome plainColumns (fun _ => "") 7 486 .hourlyDiscovery limitedOutcome {})
  refine ⟨events, settled, after, run, ?_⟩
  apply (limited_match_completes_iff pointGlicko plainColumns _ 7 486 .hourlyDiscovery limitedOutcome {} countedBefore
    after facts events settled decoded limited (by decide) commits run).mpr
  constructor
  · refine ⟨_, List.mem_singleton_self _, named.symm, rfl, rfl, Or.inl ?_⟩
    rw [known]
    decide
  · rw [known]
    exact Or.inl (by decide)

/-- A new limited match is committed and then fails the drain. -/
theorem new_limited_match_fails :
    ¬∀ (glicko : Glicko Int) (columns : FactColumns) (describe : CheckpointError → String) (matchId queueId : Int)
      (source : MatchDiscoverySource) (outcome : Value) (drain : Drain) (store after : Store Int)
      (facts : RelayPayload) (events : List (Event (Store Int) BackendOp BackendOp.Reply))
      (settled : Except PipelineError Drain),
      hourlyFacts outcome queueId = .ok facts → facts.limited = some true →
        (classifyQueue store queueId).1 = .ranked →
        CommitsLimited store (columns.payload facts) source.asDatabase →
        Exec (servesAll glicko) store (drainOutcome columns describe matchId queueId source outcome drain) events
          settled after → settled = .ok drain.complete := by
  intro completes
  obtain ⟨facts, decoded, limited, -⟩ := limitedOutcome_decoded
  have commits : CommitsLimited rankedQueueOnly (plainColumns.payload facts)
      MatchDiscoverySource.hourlyDiscovery.asDatabase :=
    commitsLimited_unfinished (by simp [FactColumns.payload, limited]) rfl fun row stored => by cases stored
  obtain ⟨events, settled, after, run⟩ := @servesAll_total _ pointGlicko _ rankedQueueOnly
    (drainOutcome plainColumns (fun _ => "Rejected(7)") 7 486 .hourlyDiscovery limitedOutcome {})
  have completed := completes _ _ _ _ _ _ _ _ _ _ _ _ _ decoded limited (by decide) commits run
  have projectable : Projectable rankedQueueOnly (plainColumns.payload facts) :=
    ((drainOutcome_yields decoded limited (by decide) commits).reaches events settled after run
      fun _ _ => trivial).mp completed
  obtain ⟨row, member, -⟩ := projectable.unmarked
  cases member

end PaladinsCat.Backend
