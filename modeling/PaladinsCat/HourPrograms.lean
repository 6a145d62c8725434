import PaladinsCat.HourOperations

/-!
`discover_hour` and the two drains of its matches (pipeline.rs), as programs over the
operations of an hour. A drain changes `progress` also when it ends in an error, so
every part of it returns the progress beside its result. The matches of a window that
the source recovers concurrently are recovered one after the other here: what each of
them does to its match, and when, is up to the outside anyway.
-/

namespace PaladinsCat.Backend

open Interleaving Program
open Hirez (Value)

abbrev HourProgram (α : Type) : Type := Program HourOp HourOp.Reply α

structure DiscoveryResult where
  queueId : Int := 0
  date : Int := 0
  hour : Int := 0
  discovered : Nat := 0
  skipped : Nat := 0
  completed : Nat := 0
  empty : Bool := false
  deriving DecidableEq

structure MatchDrainProgress where
  claimedRawMatchCount : Option Int := none
  checkpointedIds : Finset Int := ∅

/-- `i32::try_from(count).unwrap_or(i32::MAX)`. -/
def saturateI32 (count : Nat) : Int := min count (2 ^ 31 - 1)

def MatchDrainProgress.checkpointedCount (progress : MatchDrainProgress) : Option Int :=
  if progress.checkpointedIds = ∅ then none else some (saturateI32 progress.checkpointedIds.card)

def MatchDrainProgress.checkpoint (progress : MatchDrainProgress) (matchId : Int) : MatchDrainProgress :=
  { progress with checkpointedIds := insert matchId progress.checkpointedIds }

def pipelineStateErrorMessage : PipelineError → String
  | .relay (.operation _ message) => message
  | error => error.toString

def attemptedWithoutIds : PipelineError := .facts "queue-hour discovery was already attempted without durable IDs"

/-! ### The drain of new matches -/

/-- The variables of a drain: what is left to ask for, what has been answered, and how it went. -/
structure Drain where
  remaining : List Int := []
  emitted : Finset Int := ∅
  completed : Nat := 0
  failures : List String := []

def Drain.complete (drain : Drain) : Drain := { drain with completed := drain.completed + 1 }

def Drain.fail (drain : Drain) (failure : String) : Drain := { drain with failures := drain.failures ++ [failure] }

section Drain
variable (drain : Drain) (failure : String)

@[simp] theorem complete_failures : drain.complete.failures = drain.failures := rfl
@[simp] theorem complete_remaining : drain.complete.remaining = drain.remaining := rfl
@[simp] theorem complete_emitted : drain.complete.emitted = drain.emitted := rfl
@[simp] theorem fail_failures : (drain.fail failure).failures ≠ [] := by simp [Drain.fail]
@[simp] theorem fail_remaining : (drain.fail failure).remaining = drain.remaining := rfl
@[simp] theorem fail_emitted : (drain.fail failure).emitted = drain.emitted := rfl

end Drain

def matchDetailProtocolBatchSize : Nat := 10

/-- `record_terminal_outcome`: whether the error was recorded as final. -/
def recordTerminalOutcome (queueId : Int) (error : PipelineError) (progress : MatchDrainProgress) :
    HourProgram (Except PipelineError Bool × MatchDrainProgress) :=
  match error with
  | .terminalFacts matchId reason => do
      match ← perform (HourOp.markUnavailable matchId queueId reason) with
      | .error failure => return (.error failure, progress)
      | .ok () => return (.ok true, progress.checkpoint matchId)
  | _ => return (.ok false, progress)

/-- What both drains do with the error of one match. -/
def settleFailure (queueId matchId : Int) (error : PipelineError) (drain : Drain) (progress : MatchDrainProgress) :
    HourProgram (Except PipelineError Drain × MatchDrainProgress) := do
  match ← recordTerminalOutcome queueId error progress with
  | (.error failure, progress) => return (.error failure, progress)
  | (.ok true, progress) => return (.ok drain.complete, progress)
  | (.ok false, progress) =>
      return (.ok (drain.fail ("match " ++ toString matchId ++ ": " ++ error.toString)), progress)

def settleOutcome (queueId matchId : Int) (outcome : Value) (drain : Drain) (progress : MatchDrainProgress) :
    HourProgram (Except PipelineError Drain × MatchDrainProgress) :=
  if matchId ∈ drain.emitted then
    return (.error (.facts ("canonical relay returned duplicate outcome for match " ++ toString matchId)), progress)
  else do
    let drain := { drain with emitted := insert matchId drain.emitted }
    match ← perform (HourOp.checkpointOutcome outcome queueId) with
    | .ok canonicalId => return (.ok drain.complete, progress.checkpoint canonicalId)
    | .error error => settleFailure queueId matchId error drain progress

/-- `for match_id in &batch`, with `by_id.remove(match_id)`. -/
def settleBatch (queueId : Int) : List Int → List (Int × Value) → Drain → MatchDrainProgress →
    HourProgram (Except PipelineError Drain × MatchDrainProgress)
  | [], _, drain, progress => return (.ok drain, progress)
  | matchId :: rest, byId, drain, progress =>
      match byId.lookup matchId with
      | none => settleBatch queueId rest byId drain progress
      | some outcome => do
          match ← settleOutcome queueId matchId outcome drain progress with
          | (.error error, progress) => return (.error error, progress)
          | (.ok drain, progress) =>
              settleBatch queueId rest (byId.filter fun entry => entry.1 ≠ matchId) drain progress

/-- The relay's outcomes for these matches, each for one of them and at most one for each. -/
def requestOutcomes (queueId : Int) (matchIds : List Int) (singletonPass : Bool) :
    HourProgram (Except PipelineError (List (Int × Value))) := do
  match ← perform (HourOp.matchDetailsBatch matchIds queueId singletonPass) with
  | .error error =>
      match ← perform (HourOp.recordOutage error.toString) with
      | .error failure => return .error failure
      | .ok () => return .error error
  | .ok response => return validateRequestedOutcomes matchIds [] ((asArray response).getD [response])

/-- The match that was left out of the batch, asked for alone. -/
def drainBlocker (queueId blocker : Int) (drain : Drain) (progress : MatchDrainProgress) :
    HourProgram (Except PipelineError Drain × MatchDrainProgress) := do
  match ← requestOutcomes queueId [blocker] true with
  | .error error => return (.error error, progress)
  | .ok outcomes =>
      match ← settleBatch queueId [blocker] outcomes drain progress with
      | (.error error, progress) => return (.error error, progress)
      | (.ok drain, progress) =>
          let drain :=
            if outcomes = [] then
              drain.fail ("match " ++ toString blocker ++
                ": canonical relay omitted outcome after the bounded singleton pass")
            else drain
          return (.ok { drain with remaining := drain.remaining.erase blocker }, progress)

/-- One round of `while !remaining.is_empty()`. -/
def drainRound (key : HourKey) (drain : Drain) (progress : MatchDrainProgress) :
    HourProgram (Except PipelineError Drain × MatchDrainProgress) := do
  match ← perform (HourOp.refreshLease key) with
  | .error error => return (.error error, progress)
  | .ok () =>
  let batch := drain.remaining.take matchDetailProtocolBatchSize
  match ← requestOutcomes key.queueId batch false with
  | .error error => return (.error error, progress)
  | .ok outcomes =>
  match ← settleBatch key.queueId batch outcomes drain progress with
  | (.error error, progress) => return (.error error, progress)
  | (.ok drain, progress) =>
      let returned := outcomes.map (·.1)
      let drain := { drain with remaining := drain.remaining.diff (batch.filter (· ∈ returned)) }
      match batch.find? (· ∉ returned) with
      | none => return (.ok drain, progress)
      | some blocker => drainBlocker key.queueId blocker drain progress

/-- The loop. Each round takes at least one match from `remaining`, so that there are no
more rounds than matches. -/
def drainRounds (key : HourKey) : Nat → Drain → MatchDrainProgress →
    HourProgram (Except PipelineError Drain × MatchDrainProgress)
  | 0, drain, progress => return (.ok drain, progress)
  | rounds + 1, drain, progress =>
      if drain.remaining = [] then return (.ok drain, progress)
      else do
        match ← drainRound key drain progress with
        | (.error error, progress) => return (.error error, progress)
        | (.ok drain, progress) => drainRounds key rounds drain progress

def drainResult (kind : String) (drain : Drain) : Except PipelineError Nat :=
  match drain.failures with
  | [] => .ok drain.completed
  | first :: _ =>
      .error (.facts (toString drain.failures.length ++ kind ++
        " failed after the full queue-hour drain; first: " ++ first))

def fetchDiscoveredCompletedContinuously (key : HourKey) (matchIds : List Int) (progress : MatchDrainProgress) :
    HourProgram (Except PipelineError Nat × MatchDrainProgress) := do
  let remaining := matchIds.filter fun id => decide (0 < id)
  match ← drainRounds key remaining.length { remaining } progress with
  | (.error error, progress) => return (.error error, progress)
  | (.ok drain, progress) => return (drainResult " match(es)" drain, progress)

/-! ### The drain of matches with a lifecycle row -/

/-- `match_ids_requiring_canonical_work`, which asks the database nothing about no matches. -/
def requireCanonicalWork (matchIds : List Int) : HourProgram (HourOp.canonicalWork matchIds).Reply :=
  if matchIds = [] then return .ok ⟨{}, fun _ => List.nodup_nil⟩ else perform (HourOp.canonicalWork matchIds)

def recoverWindow (queueId : Int) : List Int → HourProgram (List (Int × Except PipelineError Unit))
  | [] => return []
  | matchId :: rest => do
      let outcome ← perform (HourOp.recoverMatch matchId queueId)
      let outcomes ← recoverWindow queueId rest
      return (matchId, outcome) :: outcomes

def settleRecovered (queueId : Int) : List (Int × Except PipelineError Unit) → Drain → MatchDrainProgress →
    HourProgram (Except PipelineError Drain × MatchDrainProgress)
  | [], drain, progress => return (.ok drain, progress)
  | (matchId, .ok ()) :: rest, drain, progress =>
      settleRecovered queueId rest drain.complete (progress.checkpoint matchId)
  | (matchId, .error error) :: rest, drain, progress => do
      match ← settleFailure queueId matchId error drain progress with
      | (.error failure, progress) => return (.error failure, progress)
      | (.ok drain, progress) => settleRecovered queueId rest drain progress

def resumeWindows (key : HourKey) : List (List Int) → Drain → MatchDrainProgress →
    HourProgram (Except PipelineError Drain × MatchDrainProgress)
  | [], drain, progress => return (.ok drain, progress)
  | window :: rest, drain, progress => do
      match ← perform (HourOp.refreshLease key) with
      | .error error => return (.error error, progress)
      | .ok () =>
      let outcomes ← recoverWindow key.queueId window
      match ← settleRecovered key.queueId outcomes drain progress with
      | (.error error, progress) => return (.error error, progress)
      | (.ok drain, progress) => resumeWindows key rest drain progress

def resumeDiscoveredContinuously (key : HourKey) (matchIds : List Int) (progress : MatchDrainProgress) :
    HourProgram (Except PipelineError Nat × MatchDrainProgress) := do
  match ← perform (HourOp.completeStages matchIds) with
  | .error error => return (.error (.facts error.toString), progress)
  | .ok completed =>
  match ← requireCanonicalWork matchIds with
  | .error error => return (.error error, progress)
  | .ok ⟨work, _⟩ =>
  match ← resumeWindows key (work.ids.toChunks matchDetailProtocolBatchSize) { completed } progress with
  | (.error error, progress) => return (.error error, progress)
  | (.ok drain, progress) => return (drainResult " lifecycle match(es)" drain, progress)

/-! ### discover_hour -/

/-- The matches of a claimed hour: known ones, or those of the one search. -/
def hourMatchIds (key : HourKey) : HourProgram (Except PipelineError (Nat × List Int)) := do
  match ← perform (HourOp.discoveredIds key) with
  | .error error => return .error error
  | .ok ⟨knownIds, _⟩ =>
  if knownIds ≠ [] then return .ok (knownIds.length, knownIds)
  else
    match ← perform (HourOp.claimSearch key) with
    | .error error => return .error error
    | .ok false => return .error attemptedWithoutIds
    | .ok true =>
    match ← perform (HourOp.searchProvider key) with
    | .error error => return .error error
    | .ok discovery =>
    let observations := parseObservations discovery
    match ← perform (HourOp.recordDiscovery key observations) with
    | .error error => return .error error
    | .ok discovered => return .ok (discovered, observations.map (·.matchId))

/-- `mark_hourly_ingest_empty`: two statements. -/
def closeEmpty (key : HourKey) (result : DiscoveryResult) : HourProgram (Except PipelineError DiscoveryResult) := do
  match ← perform (HourOp.markEmpty key) with
  | .error error => return .error error
  | .ok () =>
  match ← perform (HourOp.insertEmptyCount key) with
  | .error error => return .error error
  | .ok () => return .ok result

/-- The errors of the two drains together, if there are any. -/
def drainErrors : Except PipelineError Nat → Except PipelineError Nat → Option PipelineError
  | .ok _, .ok _ => none
  | .error error, .ok _ | .ok _, .error error => some error
  | .error error, .error resumeError =>
      some (.facts ("new acquisition failed: " ++ error.toString ++ "; lifecycle resume failed: " ++
        resumeError.toString))

def completedCount (result : Except PipelineError Nat) : Nat :=
  match result with
  | .ok completed => completed
  | .error _ => 0

def drainHour (key : HourKey) (ids : List Int) (result : DiscoveryResult) :
    HourProgram (Except PipelineError DiscoveryResult × MatchDrainProgress) := do
  match ← requireCanonicalWork ids with
  | .error error => return (.error error, {})
  | .ok ⟨work, _⟩ =>
  let skipped := ids.length - (work.batchIds.length + work.resumeIds.length)
  let progress : MatchDrainProgress := { claimedRawMatchCount := some (saturateI32 ids.length) }
  let (batchResult, progress) ← fetchDiscoveredCompletedContinuously key work.batchIds progress
  let (resumeResult, progress) ← resumeDiscoveredContinuously key work.resumeIds progress
  let completed := skipped + (completedCount batchResult + completedCount resumeResult)
  match drainErrors batchResult resumeResult with
  | some error => return (.error error, progress)
  | none =>
  match ← perform (HourOp.markComplete key (saturateI32 ids.length)) with
  | .error error => return (.error error, progress)
  | .ok () => return (.ok { result with skipped, completed }, progress)

def discoverHourInner (key : HourKey) (source : String) :
    HourProgram (Except PipelineError DiscoveryResult × MatchDrainProgress) := do
  let result : DiscoveryResult := { queueId := key.queueId, date := key.date, hour := key.hour }
  if key.queueId ≤ 0 then return (.error (.facts "queue ID must be positive"), {})
  else
  match ← perform (HourOp.claimHour key source) with
  | .error error => return (.error error, {})
  | .ok false => return (.ok result, {})
  | .ok true =>
  match ← hourMatchIds key with
  | .error error => return (.error error, {})
  | .ok (discovered, ids) =>
  let result := { result with discovered, empty := ids = [] }
  if ids = [] then return (← closeEmpty key result, {})
  else drainHour key ids result

def discoverHour (key : HourKey) (source : String) : HourProgram (Except PipelineError DiscoveryResult) := do
  match ← discoverHourInner key source with
  | (.ok result, _) => return .ok result
  | (.error error, progress) =>
      match ← perform (HourOp.markFailed key (pipelineStateErrorMessage error) progress.claimedRawMatchCount
        progress.checkpointedCount) with
      | .error failure => return .error failure
      | .ok () => return .error error

/-! ### Runs of any number of workers -/

structure HourCall where
  key : HourKey
  source : String

def hourCode (call : HourCall) : HourProgram (Except PipelineError DiscoveryResult) :=
  discoverHour call.key call.source

abbrev HourTurn : Type := Turn HourStore HourOp HourOp.Reply (Except PipelineError DiscoveryResult)

abbrev HourState : Type := State HourStore HourOp HourOp.Reply (Except PipelineError DiscoveryResult)

abbrev HourRun (start : HourStore) (history : List HourTurn) (state : HourState) : Prop :=
  Run hourServe.handler hourCode ⟨start, []⟩ history state

end PaladinsCat.Backend
