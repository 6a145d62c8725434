import PaladinsCat.RowSteps

/-!
What a complete row promises. Three statements complete a ranked match: two of them
ask for all three stages, `COMPLETE_SQL` and the planner for `ranked_stats` alone. And
of the statements that keep a complete row as it is, the closing `UPDATE` of
`finalize` keeps its status, but not its acquisition state.
-/

namespace PaladinsCat.Backend

open Interleaving

variable {Rating : Type} {glicko : Glicko Rating}

/-! ### What the statements make of a row -/

theorem claimedRow_open {now leaseSeconds : Int} {source owner : String} {row : Option IngestRow}
    {changed : IngestRow} (claimed : claimedRow now source owner leaseSeconds row = some changed) :
    changed.status ≠ .complete ∧ ∀ old, row = some old → old.status ≠ .complete := by
  cases row with
  | none =>
      cases claimed
      exact ⟨by simp, by simp⟩
  | some row =>
      simp only [claimedRow] at claimed
      split at claimed
      · rename_i free
        have unfinished : row.status ≠ .complete := by
          rintro done
          simp [done] at free
        cases claimed
        refine ⟨?_, by simpa using unfinished⟩
        dsimp only
        split
        · simp
        · exact unfinished
      · cases claimed

theorem unavailableRow_open {now queueId : Int} {source : MatchDiscoverySource} {reason : String}
    {row : Option IngestRow} {changed : IngestRow}
    (marked : unavailableRow now queueId source reason row = some changed) :
    changed.status ≠ .complete ∧ ∀ old, row = some old → old.status ≠ .complete := by
  cases row with
  | none =>
      cases marked
      exact ⟨by simp, by simp⟩
  | some row =>
      simp only [unavailableRow] at marked
      split at marked
      · cases marked
      · rename_i unfinished
        cases marked
        exact ⟨by simp, by simpa using unfinished⟩

theorem checkpointRow_eq {now : Int} {owner : String} {checkpoint : MatchCheckpoint} {row changed : IngestRow}
    (updated : checkpointRow now owner checkpoint row = some changed) :
    row.leasedTo owner now = true ∧ changed.status = row.status ∧
      changed.completedStages = row.completedStages ∧
      (changed.population = row.population ∨ row.population = .unknown) := by
  unfold checkpointRow at updated
  split at updated
  · rename_i leased
    cases updated
    refine ⟨leased, rfl, rfl, ?_⟩
    dsimp only
    split
    · rename_i unknown
      exact Or.inr unknown
    · exact Or.inl rfl
  · cases updated

theorem releaseRow_eq {owner : String} {row changed : IngestRow} (updated : releaseRow owner row = some changed) :
    row.leaseOwner = some owner ∧ changed = { row with leaseOwner := none, leaseUntil := none } := by
  unfold releaseRow at updated
  split at updated
  · rename_i leased
    cases updated
    exact ⟨leased, rfl⟩
  · cases updated

theorem completeRow_eq {now : Int} {owner : String} {row changed : IngestRow}
    (updated : completeRow now owner row = some changed) :
    row.leasedTo owner now = true ∧ projectionComplete row.population row.completedStages = true ∧
      changed = { row.close now with errorMessage := none } := by
  unfold completeRow at updated
  split at updated
  · rename_i durable
    simp only [Bool.and_eq_true] at durable
    cases updated
    exact ⟨durable.1.1, durable.2, rfl⟩
  · cases updated

theorem closedRow_reopens (now : Int) (payload : CanonicalMatchPayload) (row : IngestRow) :
    (closedRow now payload row).acquisitionState ≠ .complete := by
  cases limited : payload.limited <;> simp [closedRow, limited]

theorem finalized_done {now : Int} {payload : CanonicalMatchPayload} {population : MatchPopulation}
    {source : String} {row : Option IngestRow} {stages : Finset Stage}
    (done : (closedRow now payload { lockedRow now payload population source row with
      completedStages := stages }).status = .complete) :
    ∃ old, row = some old ∧ old.status = .complete := by
  cases row with
  | none => cases limited : payload.limited <;> simp [closedRow, lockedRow, limited] at done
  | some old =>
      refine ⟨old, rfl, ?_⟩
      by_contra unfinished
      by_cases ended : old.status = .limited
      · simp [closedRow, lockedRow, ended] at done
      · cases limited : payload.limited <;> simp [closedRow, lockedRow, unfinished, ended, limited] at done

theorem registered_done {discovery : MatchDiscovery} {population : MatchPopulation} {row : Option IngestRow}
    (done : (registeredRow discovery population row).status = .complete) :
    ∃ old, row = some old ∧ old.status = .complete ∧ old.reopens = false := by
  cases row with
  | none => cases done
  | some old =>
      simp only [registeredRow] at done
      split at done
      · cases done
      · rename_i closed
        exact ⟨old, rfl, done, by simpa using closed⟩

/-- The planner asks for the completion of a row exactly if `COMPLETE_SQL` would take it
from its owner. -/
theorem plan_completes_iff {now : Int} {owner : String} {row : IngestRow} (evidence : MatchEvidence)
    (stages : evidence.completedStages = row.completedStages) (population : evidence.population = row.population)
    (leased : row.leasedTo owner now = true) :
    .complete ∈ planMatchLifecycle evidence ↔ (completeRow now owner row).isSome = true := by
  unfold planMatchLifecycle completeRow
  rw [stages, population, leased]
  cases durable : factsDurable row.completedStages with
  | true =>
      cases projected : projectionComplete row.population row.completedStages with
      | true => simp
      | false =>
          by_cases unknown : row.population = .unknown
          · simp [unknown]
          · simp [unknown]
  | false =>
      simp only [Bool.false_eq_true, if_false, Bool.and_false, Bool.false_and, Option.isSome_none, iff_false]
      split_ifs <;> simp

/-! ### Complete means fully projected -/

/-- A complete row of this population has the three stages of a ranked match. -/
def IngestRow.Staged (population : MatchPopulation) (row : IngestRow) : Prop :=
  row.status = .complete → row.population = population → rankedStages ⊆ row.completedStages

def StagedRows (population : MatchPopulation) (store : Store Rating) : Prop :=
  ∀ matchId row, store.ingest matchId = some row → row.Staged population

/-- How a row comes to be complete. -/
inductive CompletionStep (op : BackendOp) (matchId : Int) (before : Option IngestRow) (after : IngestRow) : Prop where
  | kept (row : IngestRow) (stored : before = some row) (done : row.status = .complete)
      (stages : row.completedStages ⊆ after.completedStages)
      (population : after.population = row.population ∨ row.population = .unknown)
  | staged (staged : rankedStages ⊆ after.completedStages)
  | mechanics (population : after.population = .casual ∨ after.population = .special)
  | durable (row : IngestRow) (owner : String) (stored : before = some row)
      (isOp : op = .completeIfDurable matchId owner)
      (projected : projectionComplete row.population row.completedStages = true)
      (stages : after.completedStages = row.completedStages) (population : after.population = row.population)

theorem RowStep.completion {op : BackendOp} {matchId : Int} {before : Option IngestRow} {after : IngestRow}
    (step : RowStep op matchId before (some after)) (done : after.status = .complete) :
    CompletionStep op matchId before after := by
  cases step with
  | keep => exact .kept after rfl done subset_rfl (Or.inl rfl)
  | rate row rebuilding isOp => exact .kept row rfl done (Finset.subset_insert _ _) (Or.inl rfl)
  | count row isOp uncounted => exact .kept row rfl done (Finset.subset_insert _ _) (Or.inl rfl)
  | batch row ids stage isOp member => exact .kept row rfl done (Finset.subset_insert _ _) (Or.inl rfl)
  | close row now isOp staged => exact .staged staged
  | mechanics row now isOp population => exact .mechanics population
  | register _ discovery population isOp named =>
      obtain ⟨row, rfl, finished, -⟩ := registered_done done
      refine .kept row rfl finished subset_rfl ?_
      simp only [registeredRow]
      split
      · rename_i unknown
        exact Or.inr unknown
      · exact Or.inl rfl
  | claim _ _ now source owner leaseSeconds isOp claimed => exact absurd done (claimedRow_open claimed).1
  | checkpoint row _ now owner checkpoint isOp updated =>
      obtain ⟨-, status, stages, population⟩ := checkpointRow_eq updated
      exact .kept row rfl (status ▸ done) stages.ge population
  | release row _ owner isOp updated =>
      obtain ⟨-, rfl⟩ := releaseRow_eq updated
      exact .kept row rfl done subset_rfl (Or.inl rfl)
  | complete row _ now owner isOp updated =>
      obtain ⟨-, projected, rfl⟩ := completeRow_eq updated
      exact .durable row owner rfl isOp projected rfl rfl
  | unavailable _ _ now queueId source reason isOp marked => exact absurd done (unavailableRow_open marked).1
  | finalize _ now payload population source isOp named agrees =>
      obtain ⟨row, rfl, finished⟩ := finalized_done done
      refine .kept row rfl finished Finset.subset_union_left ?_
      simp only [closedRow, lockedRow]
      split
      · rename_i unknown
        exact Or.inr unknown
      · exact Or.inl rfl

/-- The turn completes a ranked match without all of its stages, as `COMPLETE_SQL` lets it. -/
def CompletesEarly (turn : BackendTurn Rating BackendOutcome) : Prop :=
  ∃ matchId owner row, turn.op = .completeIfDurable matchId owner ∧ turn.before.ingest matchId = some row ∧
    row.population = .ranked ∧ ¬rankedStages ⊆ row.completedStages ∧
    turn.after.ingest matchId ≠ turn.before.ingest matchId

/-- A row of unknown population is complete only by a statement that asks for the stages. -/
theorem StagedRows.unknown {before after : Store Rating} (staged : StagedRows .unknown before) {op : BackendOp}
    {reply : op.Reply} (served : (serve glicko).handler before op reply after) : StagedRows .unknown after := by
  intro matchId row stored done population
  have step := served_rowStep served matchId
  rw [stored] at step
  cases step.completion done with
  | kept old was finished stages classified =>
      have unknown : old.population = .unknown := by
        rcases classified with same | unknown
        · rw [← same, population]
        · exact unknown
      exact (staged matchId old was finished unknown).trans stages
  | staged stages => exact stages
  | mechanics classified => simp [population] at classified
  | durable old owner was isOp projected stages classified =>
      rw [← classified, population] at projected
      cases projected

/-- From rows that are staged, a step leads to such rows exactly if it completes none early. -/
theorem stagedRows_step {turn : BackendTurn Rating BackendOutcome} (unclassified : StagedRows .unknown turn.before)
    (served : (serve glicko).handler turn.before turn.op turn.reply turn.after)
    (staged : StagedRows .ranked turn.before) : StagedRows .ranked turn.after ↔ ¬CompletesEarly turn := by
  constructor
  · rintro later ⟨matchId, owner, row, isOp, stored, ranked, unstaged, moved⟩
    have step := served_rowStep served matchId
    rw [stored] at step moved
    cases after : turn.after.ingest matchId with
    | none =>
        rw [after] at step
        cases step
    | some changed =>
        rw [after, isOp] at step
        rw [after] at moved
        cases step with
        | keep => exact moved rfl
        | complete _ _ now _ _ updated =>
            obtain ⟨-, -, rfl⟩ := completeRow_eq updated
            have staged := later matchId _ after
            exact unstaged (staged rfl ranked)
        | close _ _ isOp => rcases isOp with isOp | ⟨_, isOp⟩ <;> cases isOp
        | _ => simp_all
  · intro early matchId row stored done ranked
    have step := served_rowStep served matchId
    rw [stored] at step
    cases step.completion done with
    | kept old was finished stages classified =>
        rcases classified with same | unknown
        · exact (staged matchId old was finished (same.symm.trans ranked)).trans stages
        · exact (unclassified matchId old was finished unknown).trans stages
    | staged stages => exact stages
    | mechanics classified => simp [ranked] at classified
    | durable old owner was isOp projected stages classified =>
        by_contra unstaged
        rw [stages] at unstaged
        have population : old.population = .ranked := classified.symm.trans ranked
        refine early ⟨matchId, owner, old, isOp, was, population, unstaged, ?_⟩
        rw [stored, was]
        rintro same
        cases same
        exact unstaged (staged matchId row was done population)

/-- In every run from an empty table, every complete ranked row has its three stages in
every state, exactly if no `complete_if_durable` that takes its row finds it without. -/
theorem complete_rows_are_staged_iff {start : Store Rating} {history : List (BackendTurn Rating BackendOutcome)}
    {state : State (Store Rating) BackendOp BackendOp.Reply BackendOutcome}
    (empty : start.ingest = fun _ => none) (run : BackendRun glicko start history state) :
    ((∀ turn ∈ history, StagedRows .ranked turn.before) ∧ StagedRows .ranked state.shared) ↔
      ∀ turn ∈ history, ¬CompletesEarly turn := by
  have initially : ∀ population, StagedRows population start := by
    intro population matchId row stored
    simp [empty] at stored
  exact run_good_iff (StagedRows .ranked) (StagedRows .unknown) (fun turn => ¬CompletesEarly turn)
    (fun _ _ _ _ unclassified served => unclassified.unknown served) run
    (fun _ _ unclassified served staged => stagedRows_step unclassified served staged)
    (initially .unknown) (initially .ranked)

/-! ### Complete for good -/

def CompleteIn (store : Store Rating) (matchId : Int) : Prop :=
  ∃ row, store.ingest matchId = some row ∧ row.status = .complete

def SettledIn (store : Store Rating) (matchId : Int) : Prop :=
  ∃ row, store.ingest matchId = some row ∧ row.status = .complete ∧ row.acquisitionState = .complete

def AcquiredRows (store : Store Rating) : Prop :=
  ∀ matchId row, store.ingest matchId = some row → row.status = .complete → row.acquisitionState = .complete

def UnleasedRows (store : Store Rating) : Prop :=
  ∀ matchId row, store.ingest matchId = some row → row.status = .complete → row.leaseOwner = none

/-- What a complete row owes to the step before it, if no complete row was leased. -/
inductive ClosingStep (op : BackendOp) (matchId : Int) (before : Option IngestRow) (after : IngestRow) : Prop where
  | closed (acquired : after.acquisitionState = .complete) (unleased : after.leaseOwner = none)
  | kept (row : IngestRow) (stored : before = some row) (done : row.status = .complete)
      (acquired : after.acquisitionState = row.acquisitionState) (unleased : after.leaseOwner = row.leaseOwner)
  | finalized (row : IngestRow) (payload : CanonicalMatchPayload) (source : String) (stored : before = some row)
      (done : row.status = .complete) (isOp : op = .finalize payload source) (named : payload.matchId = matchId)
      (reopened : after.acquisitionState ≠ .complete) (unleased : after.leaseOwner = row.leaseOwner)

theorem RowStep.closing {op : BackendOp} {matchId : Int} {before : Option IngestRow} {after : IngestRow}
    (step : RowStep op matchId before (some after)) (done : after.status = .complete)
    (unleased : ∀ row, before = some row → row.status = .complete → row.leaseOwner = none) :
    ClosingStep op matchId before after := by
  cases step with
  | keep => exact .kept after rfl done rfl rfl
  | rate row rebuilding isOp => exact .kept row rfl done rfl rfl
  | count row isOp uncounted => exact .kept row rfl done rfl rfl
  | batch row ids stage isOp member => exact .kept row rfl done rfl rfl
  | close row now isOp staged => exact .closed rfl rfl
  | mechanics row now isOp population => exact .closed rfl rfl
  | register _ discovery population isOp named =>
      obtain ⟨row, rfl, finished, closed⟩ := registered_done done
      exact .kept row rfl finished (by simp [registeredRow, closed]) rfl
  | claim _ _ now source owner leaseSeconds isOp claimed => exact absurd done (claimedRow_open claimed).1
  | checkpoint row _ now owner checkpoint isOp updated =>
      obtain ⟨leased, status, -, -⟩ := checkpointRow_eq updated
      have free := unleased row rfl (status ▸ done)
      simp [IngestRow.leasedTo, free] at leased
  | release row _ owner isOp updated =>
      obtain ⟨leased, rfl⟩ := releaseRow_eq updated
      have free := unleased row rfl done
      rw [free] at leased
      cases leased
  | complete row _ now owner isOp updated =>
      obtain ⟨-, -, rfl⟩ := completeRow_eq updated
      exact .closed rfl rfl
  | unavailable _ _ now queueId source reason isOp marked => exact absurd done (unavailableRow_open marked).1
  | finalize _ now payload population source isOp named agrees =>
      obtain ⟨row, rfl, finished⟩ := finalized_done done
      exact .finalized row payload source rfl finished isOp named (closedRow_reopens now payload _) rfl

/-- No statement takes a row out of `complete`. -/
theorem RowStep.complete_stays {op : BackendOp} {matchId : Int} {row : IngestRow} {after : Option IngestRow}
    (step : RowStep op matchId (some row) after) (done : row.status = .complete) :
    ∃ changed, after = some changed ∧ changed.status = .complete := by
  cases step with
  | keep => exact ⟨row, rfl, done⟩
  | rate _ rebuilding isOp => exact ⟨_, rfl, done⟩
  | count _ isOp uncounted => exact ⟨_, rfl, done⟩
  | batch _ ids stage isOp member => exact ⟨_, rfl, done⟩
  | close _ now isOp staged => exact ⟨_, rfl, rfl⟩
  | mechanics _ now isOp population => exact ⟨_, rfl, rfl⟩
  | register _ discovery population isOp named =>
      exact ⟨_, rfl, by simp [registeredRow, IngestRow.reopens, done]⟩
  | claim _ changed now source owner leaseSeconds isOp claimed =>
      exact absurd done ((claimedRow_open claimed).2 row rfl)
  | checkpoint _ changed now owner checkpoint isOp updated =>
      exact ⟨changed, rfl, (checkpointRow_eq updated).2.1.trans done⟩
  | release _ _ owner isOp updated =>
      obtain ⟨-, rfl⟩ := releaseRow_eq updated
      exact ⟨_, rfl, done⟩
  | complete _ _ now owner isOp updated =>
      obtain ⟨-, -, rfl⟩ := completeRow_eq updated
      exact ⟨_, rfl, rfl⟩
  | unavailable _ changed now queueId source reason isOp marked =>
      exact absurd done ((unavailableRow_open marked).2 row rfl)
  | finalize _ now payload population source isOp named agrees =>
      exact ⟨_, rfl, by simp [closedRow, lockedRow, done]⟩

theorem CompleteIn.served {before after : Store Rating} {matchId : Int} (complete : CompleteIn before matchId)
    {op : BackendOp} {reply : op.Reply} (served : (serve glicko).handler before op reply after) :
    CompleteIn after matchId := by
  obtain ⟨row, stored, done⟩ := complete
  have step := served_rowStep served matchId
  rw [stored] at step
  exact step.complete_stays done

theorem UnleasedRows.served {before after : Store Rating} (unleased : UnleasedRows before) {op : BackendOp}
    {reply : op.Reply} (served : (serve glicko).handler before op reply after) : UnleasedRows after := by
  intro matchId row stored done
  have step := served_rowStep served matchId
  rw [stored] at step
  cases step.closing done (unleased matchId) with
  | closed acquired free => exact free
  | kept old was finished acquired same => exact same.trans (unleased matchId old was finished)
  | finalized old payload source was finished isOp named reopened same =>
      exact same.trans (unleased matchId old was finished)

/-- The turn finalizes a match that is complete already. -/
def FinalizesComplete (turn : BackendTurn Rating BackendOutcome) : Prop :=
  ∃ payload source, turn.op = .finalize payload source ∧ CompleteIn turn.before payload.matchId ∧
    turn.after.ingest payload.matchId ≠ turn.before.ingest payload.matchId

theorem acquiredRows_step {turn : BackendTurn Rating BackendOutcome} (unleased : UnleasedRows turn.before)
    (served : (serve glicko).handler turn.before turn.op turn.reply turn.after)
    (acquired : AcquiredRows turn.before) : AcquiredRows turn.after ↔ ¬FinalizesComplete turn := by
  constructor
  · rintro later ⟨payload, source, isOp, ⟨row, stored, done⟩, moved⟩
    have step := served_rowStep served payload.matchId
    rw [stored] at step moved
    obtain ⟨changed, after, finished⟩ := step.complete_stays done
    have settled := later payload.matchId changed after finished
    rw [after] at step moved
    rw [isOp] at step
    cases step with
    | keep => exact moved rfl
    | finalize _ now _ population _ same _ agrees =>
        cases same
        exact closedRow_reopens _ _ _ settled
    | close _ now same => rcases same with same | ⟨_, same⟩ <;> cases same
    | _ => simp_all
  · intro kept matchId row stored done
    have step := served_rowStep served matchId
    rw [stored] at step
    cases step.closing done (unleased matchId) with
    | closed settled free => exact settled
    | kept old was finished same free => exact same.trans (acquired matchId old was finished)
    | finalized old payload source was finished isOp named reopened free =>
        subst named
        apply absurd _ kept
        refine ⟨payload, source, isOp, ⟨old, was, finished⟩, ?_⟩
        rw [stored, was]
        rintro same
        cases same
        exact reopened (acquired _ _ was finished)

/-- From the state in which a match is complete on, it is so, with its acquisition. -/
def StaysComplete (states : List (Store Rating)) : Prop :=
  ∀ earlier first rest, states = earlier ++ first :: rest → ∀ matchId, CompleteIn first matchId →
    ∀ later ∈ first :: rest, SettledIn later matchId

theorem staysComplete_iff {states : List (Store Rating)}
    (kept : states.Pairwise fun first later => ∀ matchId, CompleteIn first matchId → CompleteIn later matchId) :
    StaysComplete states ↔ ∀ store ∈ states, AcquiredRows store := by
  constructor
  · intro stays store member matchId row stored done
    obtain ⟨earlier, rest, split⟩ := List.append_of_mem member
    obtain ⟨same, found, _, settled⟩ := stays earlier store rest split matchId ⟨row, stored, done⟩ store (by simp)
    cases stored.symm.trans found
    exact settled
  · intro acquired earlier first rest split matchId complete later member
    have complete : CompleteIn later matchId := by
      rcases List.mem_cons.mp member with rfl | member
      · exact complete
      · rw [split, List.pairwise_append, List.pairwise_cons] at kept
        exact kept.2.1.1 later member matchId complete
    obtain ⟨row, stored, done⟩ := complete
    have reached : later ∈ states := split ▸ List.mem_append_right _ member
    exact ⟨row, stored, done, acquired later reached matchId row stored done⟩

/-- In every run from rows of which the complete ones are settled and not leased, a row
that is complete stays so for good, with its acquisition state, exactly if no complete
match is finalized again. -/
theorem complete_rows_stay_iff {start : Store Rating} {history : List (BackendTurn Rating BackendOutcome)}
    {state : State (Store Rating) BackendOp BackendOp.Reply BackendOutcome}
    (acquired : AcquiredRows start) (unleased : UnleasedRows start) (run : BackendRun glicko start history state) :
    StaysComplete (history.map (·.before) ++ [state.shared]) ↔ ∀ turn ∈ history, ¬FinalizesComplete turn := by
  have kept := run_states_pairwise
    (fun first later : Store Rating => ∀ matchId, CompleteIn first matchId → CompleteIn later matchId)
    (fun _ _ complete => complete)
    (fun _ _ _ _ _ earlier served matchId complete => (earlier matchId complete).served served) run
  have steps := run_good_iff AcquiredRows UnleasedRows (fun turn => ¬FinalizesComplete turn)
    (fun _ _ _ _ unleased served => unleased.served served) run
    (fun _ _ unleased served acquired => acquiredRows_step unleased served acquired) unleased acquired
  rw [staysComplete_iff kept, ← steps]
  simp [or_imp, forall_and]

/-! ### Two runs to completion -/

/-- Only the queue types are there. -/
def blank : Store Rating where
  queueTypes := fun queueId => if queueId = rankedQueueId then some ⟨true, .ranked⟩ else none

def rankedPayload (matchId : Int) : CanonicalMatchPayload where
  matchId := matchId
  queueId := rankedQueueId
  entryDatetime := 100
  winningTaskForce := some 1
  limited := false
  players := (List.range 10).map fun index =>
    { playerId := index + 1
      privateSlot := 0
      playerName := none
      championId := some 2056
      winStatus := some (if index < 5 then "Winner" else "Loser")
      taskForce := some (if index < 5 then 1 else 2)
      source := .direct }

/-- A worker that finalizes the match, and crashes after the counts. -/
def crashedWorker (matchId : Int) : List (Move BackendCall Outside) :=
  [.enter (.claim matchId "direct_lookup" "first" 1800), .turn 0 {},
    .enter (.finalize (rankedPayload matchId) "direct_lookup"), .turn 1 {},
    .enter (.projectMatch matchId), .turn 2 {}, .turn 2 {}, .turn 2 {}]

def asksEarly (turn : BackendTurn Rating BackendOutcome) : Bool :=
  match turn.op with
  | .completeIfDurable matchId _ =>
      (turn.before.ingest matchId).any fun row => !decide (rankedStages ⊆ row.completedStages)
  | _ => false

/-- After the batches of another worker, the owner completes the match. -/
theorem complete_rows_staged_after_batches :
    ∃ history state, BackendRun pointGlicko blank history state ∧
      (state.shared.ingest 7).any (fun row => row.status == .complete && row.population == .ranked) = true ∧
      StagedRows .ranked state.shared := by
  have passed : (replay (serve pointGlicko) callCode ⟨blank, []⟩
      (crashedWorker 7 ++ [.enter (.projectBatch [7] .performance), .turn 3 {},
        .enter (.projectBatch [7] .scalable), .turn 4 {}, .enter (.completeIfDurable 7 "first"), .turn 5 {}])).any
      (fun reached => reached.1.all (fun turn => !asksEarly turn) &&
        (reached.2.shared.ingest 7).any (fun row => row.status == .complete && row.population == .ranked)) = true := by
    decide +kernel
  obtain ⟨history, state, run, tested⟩ := replay_reaches passed
  simp only [Bool.and_eq_true, List.all_eq_true, Bool.not_eq_true'] at tested
  have timely : ∀ turn ∈ history, ¬CompletesEarly turn := by
    rintro turn member ⟨matchId, owner, row, isOp, stored, -, unstaged, -⟩
    have tested := tested.1 turn member
    simp [asksEarly, isOp, stored, unstaged] at tested
  exact ⟨history, state, run, by simpa using tested.2,
    ((complete_rows_are_staged_iff rfl run).mpr timely).2⟩

/-- After a crash between the counts and the batches, the next owner of the lease
completes the match without them. -/
theorem complete_without_the_batches :
    ¬∀ (start : Store Int) history state, (start.ingest = fun _ => none) →
      BackendRun pointGlicko start history state → StagedRows .ranked state.shared := by
  intro kept
  have passed : (replay (serve pointGlicko) callCode ⟨blank, []⟩
      (crashedWorker 7 ++ [.enter (.claim 7 "direct_lookup" "second" 1800), .turn 3 { now := 2000 },
        .enter (.completeIfDurable 7 "second"), .turn 4 { now := 2000 }])).any
      (fun reached => (reached.2.shared.ingest 7).any fun row => row.status == .complete &&
        row.population == .ranked && !decide (rankedStages ⊆ row.completedStages)) = true := by
    decide +kernel
  obtain ⟨history, state, run, tested⟩ := replay_reaches passed
  cases stored : state.shared.ingest 7 with
  | none => simp [stored] at tested
  | some row =>
      simp only [stored, Option.any_some, Bool.and_eq_true, beq_iff_eq, Bool.not_eq_true',
        decide_eq_false_iff_not] at tested
      exact tested.2 (kept blank history state rfl run 7 row stored tested.1.1 tested.1.2)

theorem blank_acquired : AcquiredRows (blank : Store Rating) := by
  intro matchId row stored
  cases stored

theorem blank_unleased : UnleasedRows (blank : Store Rating) := by
  intro matchId row stored
  cases stored

def projected (matchId : Int) : List (Move BackendCall Outside) :=
  [.enter (.finalize (rankedPayload matchId) "direct_lookup"), .turn 0 {},
    .enter (.projectMatch matchId), .turn 1 {}, .turn 1 {}, .turn 1 {}, .turn 1 {}, .turn 1 {}, .turn 1 {}]

def finalizesAgain (turn : BackendTurn Rating BackendOutcome) : Bool :=
  match turn.op with
  | .finalize payload _ => (turn.before.ingest payload.matchId).any (·.status == .complete)
  | _ => false

/-- A later claim and a later discovery leave the complete row as it is. -/
theorem complete_row_stays_after_a_claim :
    ∃ history state, BackendRun pointGlicko blank history state ∧ CompleteIn state.shared 7 ∧
      StaysComplete (history.map (·.before) ++ [state.shared]) := by
  have passed : (replay (serve pointGlicko) callCode ⟨blank, []⟩
      (projected 7 ++ [.enter (.claim 7 "direct_lookup" "late" 1800), .turn 2 {},
        .enter (.registerDiscovery ⟨7, some rankedQueueId, .hourlyDiscovery⟩), .turn 3 {}])).any
      (fun reached => reached.1.all (fun turn => !finalizesAgain turn) &&
        (reached.2.shared.ingest 7).any (·.status == .complete)) = true := by decide +kernel
  obtain ⟨history, state, run, tested⟩ := replay_reaches passed
  simp only [Bool.and_eq_true, List.all_eq_true, Bool.not_eq_true'] at tested
  have once : ∀ turn ∈ history, ¬FinalizesComplete turn := by
    rintro turn member ⟨payload, source, isOp, ⟨row, stored, done⟩, -⟩
    have tested := tested.1 turn member
    simp [finalizesAgain, isOp, stored, done] at tested
  have complete : CompleteIn state.shared 7 := by
    cases stored : state.shared.ingest 7 with
    | none => simp [stored] at tested
    | some row => exact ⟨row, stored, by simpa [stored] using tested.2⟩
  exact ⟨history, state, run, complete, (complete_rows_stay_iff blank_acquired blank_unleased run).mpr once⟩

/-- `finalize` of a complete match takes its acquisition back to `facts_ready`. -/
theorem finalize_replay_reopens_acquisition :
    ¬∀ (start : Store Int) history state, AcquiredRows start → UnleasedRows start →
      BackendRun pointGlicko start history state → StaysComplete (history.map (·.before) ++ [state.shared]) := by
  intro stays
  have passed : (replay (serve pointGlicko) callCode ⟨blank, []⟩
      (projected 7 ++ [.enter (.finalize (rankedPayload 7) "direct_lookup"), .turn 2 {}])).any
      (fun reached => (reached.2.shared.ingest 7).any fun row => row.status == .complete &&
        row.acquisitionState == .factsReady) = true := by decide +kernel
  obtain ⟨history, state, run, tested⟩ := replay_reaches passed
  cases stored : state.shared.ingest 7 with
  | none => simp [stored] at tested
  | some row =>
      simp only [stored, Option.any_some, Bool.and_eq_true, beq_iff_eq] at tested
      obtain ⟨found, same, -, settled⟩ := stays blank history state blank_acquired blank_unleased run
        (history.map (·.before)) state.shared [] rfl 7 ⟨row, stored, tested.1⟩ state.shared (by simp)
      cases stored.symm.trans same
      rw [tested.2] at settled
      cases settled

end PaladinsCat.Backend
