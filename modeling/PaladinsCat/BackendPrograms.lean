import PaladinsCat.DatabaseRows
import PaladinsCat.Rating
import PaladinsCat.Projections
import PaladinsCat.MatchLifecycle
import PaladinsCat.KeyPool

/-!
The workers of the match pipeline as programs over transactions. A transaction is
one atomic step on the store; between two of them any other worker may run, and a
worker that has crashed takes no further step.
-/

namespace PaladinsCat.Backend

open Interleaving Program
open KeyPool (saturatingAdd)
open Hirez (Value)
open Database (DatabaseError encodeRows)

/-! ### Transactions as operations -/

inductive MechanicsFamily where
  | items
  | talents
  | cards
  deriving DecidableEq

def MechanicsFamily.ledger : MechanicsFamily → Ledger
  | .items => .itemCountsCasualMatches
  | .talents => .talentCountsCasualMatches
  | .cards => .cardCountsCasualMatches

def MechanicsFamily.table : MechanicsFamily → Aggregate
  | .items => .itemCountsCasual
  | .talents => .talentCountsCasual
  | .cards => .cardCountsCasual

inductive BackendOp where
  | applyMatch (matchId : Int) (rebuilding : Bool)
  | queueRebuild (matchId : Int) (reason : String)
  | truncateRatings
  | ratedMatches
  | deleteRebuildRequests
  | rebuildBestChampionRatings
  | rankedCandidate (matchId : Int)
  | projectRankedStats (matchId : Int)
  | projectCumulativeBatch (ids : List Int) (stage : CumulativeStage)
  | finishRanked (matchId : Int)
  | cumulativeStageCandidates (ids : List Int) (stage : CumulativeStage)
  | completeRanked (ids : List Int)
  | projectScalableMany (ids : List Int)
  | projectCasualPerformanceMany (ids : List Int)
  | rankedGapPage (pageSize : Nat)
  | repairRankedChunk (ids : List Int)
  | casualGapPage (pageSize : Nat)
  | repairCasualChunk (ids : List Int)
  | projectFactFamily (family : MechanicsFamily) (matchId : Int)
  | finishMechanics (matchId : Int)
  | registerDiscovery (discovery : MatchDiscovery)
  | claim (matchId : Int) (source owner : String) (leaseSeconds : Int)
  | checkpoint (matchId : Int) (owner : String) (checkpoint : MatchCheckpoint)
  | release (matchId : Int) (owner : String)
  | completeIfDurable (matchId : Int) (owner : String)
  | markTerminalUnavailable (matchId queueId : Int) (source : MatchDiscoverySource) (reason : String)
  | finalize (payload : CanonicalMatchPayload) (source : String)

abbrev BackendOp.Result : BackendOp → Type
  | .applyMatch _ _ => RatingApplicationResult
  | .ratedMatches | .cumulativeStageCandidates _ _ => List Int
  | .rankedGapPage _ | .casualGapPage _ => Except DatabaseError (List Value)
  | .rankedCandidate _ | .checkpoint _ _ _ | .release _ _ | .completeIfDurable _ _ => Bool
  | .projectRankedStats _ => RankedStageResult
  | .completeRanked _ | .projectScalableMany _ | .projectCasualPerformanceMany _
  | .repairRankedChunk _ | .repairCasualChunk _ => Nat
  | .projectFactFamily _ _ => Option CasualItemProjectionResult
  | .registerDiscovery _ => Except ConflictError MatchDiscoveryRegistration
  | .claim _ _ _ _ => Option IngestRow
  | .finalize _ _ => Except ConflictError MatchFactFinalization
  | _ => Unit

abbrev BackendOp.Reply (op : BackendOp) : Type := Except String op.Result

variable {Rating : Type}

/-- The rows of a query for BIGINT match ids. -/
def matchIdRows (ids : List Int) : Except DatabaseError (List Value) :=
  encodeRows (ids.map fun id => [("match_id", .int8 (some id))])

/-- Whether an `UPDATE` with this condition finds its row. -/
def updates (store : Store Rating) (matchId : Int) (change : IngestRow → Option IngestRow) : Bool :=
  ((store.ingest matchId).bind change).isSome

/-- What a transaction computes, and the store that it would commit. -/
def effect (glicko : Glicko Rating) (outside : Outside) (store : Store Rating) :
    (op : BackendOp) → op.Result × Store Rating
  | .applyMatch matchId rebuilding => applyMatch glicko outside.locked store matchId rebuilding
  | .queueRebuild matchId reason => ((), queueRebuild store matchId reason)
  | .truncateRatings => ((), truncateRatings store)
  | .ratedMatches => (ratedMatches store, store)
  | .deleteRebuildRequests => ((), deleteRebuildRequests store)
  | .rebuildBestChampionRatings => ((), store)
  | .rankedCandidate matchId => (rankedCandidate store matchId, store)
  | .projectRankedStats matchId => projectRankedStats store matchId
  | .projectCumulativeBatch ids stage => ((), projectCumulativeBatch store ids stage)
  | .finishRanked matchId => ((), finishRanked outside.now store matchId)
  | .cumulativeStageCandidates ids stage => (cumulativeStageCandidates store ids stage.stage, store)
  | .completeRanked ids => completeRanked outside.now store ids
  | .projectScalableMany ids => projectScalableMany store ids
  | .projectCasualPerformanceMany ids => projectCasualPerformanceMany store ids
  | .rankedGapPage pageSize => (matchIdRows (rankedGapPage store pageSize), store)
  | .repairRankedChunk ids => repairRankedChunk store ids
  | .casualGapPage pageSize => (matchIdRows (casualGapPage store pageSize), store)
  | .repairCasualChunk ids => repairCasualChunk store ids
  | .projectFactFamily family matchId => projectFactFamily family.ledger family.table store matchId
  | .finishMechanics matchId => ((), finishMechanics outside.now store matchId)
  | .registerDiscovery discovery => registerDiscovery store discovery
  | .claim matchId source owner leaseSeconds =>
      claimMatch outside.now store matchId source owner leaseSeconds
  | .checkpoint matchId owner checkpoint =>
      let change := checkpointRow outside.now owner checkpoint
      (updates store matchId change, store.updateIngest matchId change)
  | .release matchId owner =>
      (updates store matchId (releaseRow owner), store.updateIngest matchId (releaseRow owner))
  | .completeIfDurable matchId owner =>
      let change := completeRow outside.now owner
      (updates store matchId change, store.updateIngest matchId change)
  | .markTerminalUnavailable matchId queueId source reason =>
      ((), markTerminalUnavailable outside.now store matchId queueId source reason)
  | .finalize payload source => finalize outside.now store payload source

def serve (glicko : Glicko Rating) : Service (Store Rating) BackendOp BackendOp.Reply Outside :=
  fun store op outside => some (settle outside.fate store (effect glicko outside store op))

/-- What a step may leave behind: its effect, acknowledged or not, or nothing. -/
theorem served_cases {glicko : Glicko Rating} {before after : Store Rating} {op : BackendOp} {reply : op.Reply}
    (served : (serve glicko).handler before op reply after) :
    ∃ outside, (reply = .ok (effect glicko outside before op).1 ∧ after = (effect glicko outside before op).2) ∨
      (∃ error, reply = .error error ∧ after = before) ∨
      ∃ error, reply = .error error ∧ after = (effect glicko outside before op).2 := by
  obtain ⟨outside, served⟩ := served
  refine ⟨outside, ?_⟩
  have settled : settle outside.fate before (effect glicko outside before op) = (reply, after) := by
    simpa [serve] using served
  rcases settle_cases outside.fate before (effect glicko outside before op) with same | ⟨error, same⟩ | ⟨error, same⟩
  · rw [same, Prod.mk.injEq] at settled
    exact Or.inl ⟨settled.1.symm, settled.2.symm⟩
  · rw [same, Prod.mk.injEq] at settled
    exact Or.inr (Or.inl ⟨error, settled.1.symm, settled.2.symm⟩)
  · rw [same, Prod.mk.injEq] at settled
    exact Or.inr (Or.inr ⟨error, settled.1.symm, settled.2.symm⟩)

/-- Either nothing has happened to the store, or the effect of the operation has. -/
theorem served_store {glicko : Glicko Rating} {before after : Store Rating} {op : BackendOp} {reply : op.Reply}
    (served : (serve glicko).handler before op reply after) :
    after = before ∨ ∃ outside, after = (effect glicko outside before op).2 := by
  obtain ⟨outside, ⟨_, same⟩ | ⟨_, _, same⟩ | ⟨_, _, same⟩⟩ := served_cases served
  · exact Or.inr ⟨outside, same⟩
  · exact Or.inl same
  · exact Or.inr ⟨outside, same⟩

abbrev BackendProgram := Program BackendOp BackendOp.Reply
abbrev BackendTurn (Rating α : Type) := Turn (Store Rating) BackendOp BackendOp.Reply α

/-! ### project_match -/

inductive RankedProjectionResult where
  | projected
  | alreadyProjected
  deriving DecidableEq

inductive RankedProjectionError where
  | database (error : String)
  | rejected (matchId : Int)
  | rating (error : String)
  deriving DecidableEq

/-- `project_performance_batch` and `project_scalable_batch`. -/
def projectBatch (ids : List Int) (stage : CumulativeStage) :
    BackendProgram (Except RankedProjectionError Unit) := do
  if ids.isEmpty then return .ok ()
  match ← perform (BackendOp.projectCumulativeBatch ids stage) with
  | .error error => return .error (.database error)
  | .ok () => return .ok ()

def finishCumulativeStages (matchId : Int) (needsPerformance needsScalable : Bool) :
    BackendProgram (Except RankedProjectionError Bool) := do
  match ← (if needsPerformance then projectBatch [matchId] .performance else return .ok ()) with
  | .error error => return .error error
  | .ok () =>
  match ← (if needsScalable then projectBatch [matchId] .scalable else return .ok ()) with
  | .error error => return .error error
  | .ok () =>
  match ← perform (BackendOp.finishRanked matchId) with
  | .error error => return .error (.database error)
  | .ok () => return .ok (needsPerformance || needsScalable)

/-- `project_match` from the transaction with the row lock on. -/
def projectStages (matchId : Int) :
    BackendProgram (Except RankedProjectionError RankedProjectionResult) := do
  match ← perform (BackendOp.projectRankedStats matchId) with
  | .error error => return .error (.database error)
  | .ok .rejected => return .error (.rejected matchId)
  | .ok (.projectedBefore needsPerformance needsScalable) =>
      match ← finishCumulativeStages matchId needsPerformance needsScalable with
      | .error error => return .error error
      | .ok true => return .ok .projected
      | .ok false => return .ok .alreadyProjected
  | .ok .projected =>
      match ← finishCumulativeStages matchId true true with
      | .error error => return .error error
      | .ok _ => return .ok .projected

def projectMatch (matchId : Int) :
    BackendProgram (Except RankedProjectionError RankedProjectionResult) := do
  match ← perform (BackendOp.rankedCandidate matchId) with
  | .error error => return .error (.database error)
  | .ok false => return .error (.rejected matchId)
  | .ok true =>
  match ← perform (BackendOp.applyMatch matchId false) with
  | .error error => return .error (.rating error)
  | .ok .busy => return .error (.rating "rating stream is not ready")
  | .ok _ => projectStages matchId

/-! ### complete_cumulative_stages_for_matches -/

def projectChunks (stage : CumulativeStage) :
    List (List Int) → BackendProgram (Except RankedProjectionError Unit)
  | [] => return .ok ()
  | chunk :: rest => do
      match ← projectBatch chunk stage with
      | .error error => return .error error
      | .ok () => projectChunks stage rest

def projectCandidates (ids : List Int) (stage : CumulativeStage) :
    BackendProgram (Except RankedProjectionError Unit) := do
  match ← perform (BackendOp.cumulativeStageCandidates ids stage) with
  | .error error => return .error (.database error)
  | .ok candidates => projectChunks stage (candidates.toChunks 25)

def completeCumulativeStagesForMatches (ids : List Int) :
    BackendProgram (Except RankedProjectionError Nat) := do
  if ids.isEmpty then return .ok 0
  match ← projectCandidates ids .performance with
  | .error error => return .error error
  | .ok () =>
  match ← projectCandidates ids .scalable with
  | .error error => return .error error
  | .ok () =>
  match ← perform (BackendOp.completeRanked ids) with
  | .error error => return .error (.database error)
  | .ok completed => return .ok completed

/-! ### reingest -/

structure BrokenRatingMatch where
  matchId : Int
  reason : String

structure RatingReingestReport where
  matchesProcessed : Nat := 0
  brokenMatches : List BrokenRatingMatch := []

def i32Max : Nat := 2 ^ 31 - 1

def brokenReason : RatingApplicationResult → String
  | .deferred => "Rating update deferred for a chronological rebuild"
  | .busy => "Rating stream was busy; retry the rebuild"
  | _ => "Rating eligibility rejected match"

def RatingReingestReport.broken (report : RatingReingestReport) (matchId : Int) (reason : String) :
    RatingReingestReport :=
  { report with brokenMatches := report.brokenMatches ++ [⟨matchId, reason⟩] }

/-- The reply leaves the match to another rebuild. -/
def defersRebuild : Except String RatingApplicationResult → Bool
  | .ok result => result == .deferred || result == .busy
  | .error _ => true

def rebuildEach : List Int → RatingReingestReport → Bool → BackendProgram (RatingReingestReport × Bool)
  | [], report, deferred => return (report, deferred)
  | matchId :: rest, report, deferred => do
      let reply ← perform (BackendOp.applyMatch matchId true)
      let noted := match reply with
        | .ok .applied =>
            { report with matchesProcessed := saturatingAdd i32Max report.matchesProcessed 1 }
        | .ok result => report.broken matchId (brokenReason result)
        | .error error => report.broken matchId ("Error: " ++ error)
      rebuildEach rest noted (deferred || defersRebuild reply)

def reingest : BackendProgram (Except String RatingReingestReport) := do
  match ← perform BackendOp.truncateRatings with
  | .error error => return .error error
  | .ok () =>
  match ← perform BackendOp.ratedMatches with
  | .error error => return .error error
  | .ok matchIds =>
  let (report, deferred) ← rebuildEach matchIds {} false
  match ← (if deferred then return .ok () else perform BackendOp.deleteRebuildRequests) with
  | .error error => return .error error
  | .ok () =>
  match ← perform BackendOp.rebuildBestChampionRatings with
  | .error error => return .error error
  | .ok () => return .ok report

/-! ### Repairs -/

def repairChunks (repair : List Int → BackendProgram (Except String Nat)) :
    List (List Int) → Nat → BackendProgram Nat
  | [], projected => return projected
  | chunk :: rest, projected => do
      match ← repair chunk with
      | .error _ => repairChunks repair rest projected
      | .ok count => repairChunks repair rest (projected + count)

def clampPage (pageSize : Nat) : Nat := max 1 (min pageSize 1000)

def pageIds (page : List Value) : List Int :=
  page.filterMap fun row => ((row.get "match_id").bind Value.asI64).filter (0 < ·)

/-- The rest of both repairs, once the page is read. -/
def repairPage (repair : List Int → BackendProgram (Except String Nat)) (pageSize : Nat) (page : List Value) :
    BackendProgram (Except String Nat) := do
  if (pageIds page).isEmpty then return .ok 0
  return .ok (← repairChunks repair ((pageIds page).toChunks pageSize) 0)

def repairRankedProjectionGaps (pageSize : Nat) : BackendProgram (Except String Nat) := do
  match ← perform (BackendOp.rankedGapPage (clampPage pageSize)) with
  | .error error => return .error error
  | .ok (.error error) => return .error error.toString
  | .ok (.ok page) => repairPage (fun chunk => perform (BackendOp.repairRankedChunk chunk)) (clampPage pageSize) page

def repairCasualProjectionGaps (pageSize : Nat) : BackendProgram (Except String Nat) := do
  match ← perform (BackendOp.casualGapPage (clampPage pageSize)) with
  | .error error => return .error error
  | .ok (.error error) => return .error error.toString
  | .ok (.ok page) => repairPage (fun chunk => perform (BackendOp.repairCasualChunk chunk)) (clampPage pageSize) page

/-! ### project_all_for_match -/

inductive CasualItemProjectionError where
  | database (error : String)
  | rejected (matchId : Int)

structure CasualMechanicsProjectionResult where
  items : CasualItemProjectionResult
  talents : CasualItemProjectionResult
  cards : CasualItemProjectionResult

def projectFamily (family : MechanicsFamily) (matchId : Int) :
    BackendProgram (Except CasualItemProjectionError CasualItemProjectionResult) := do
  match ← perform (BackendOp.projectFactFamily family matchId) with
  | .error error => return .error (.database error)
  | .ok none => return .error (.rejected matchId)
  | .ok (some result) => return .ok result

def projectAllForMatch (matchId : Int) :
    BackendProgram (Except CasualItemProjectionError CasualMechanicsProjectionResult) := do
  match ← projectFamily .items matchId with
  | .error error => return .error error
  | .ok items =>
  match ← perform (BackendOp.projectCasualPerformanceMany [matchId]) with
  | .error error => return .error (.database error)
  | .ok _ =>
  match ← projectFamily .talents matchId with
  | .error error => return .error error
  | .ok talents =>
  match ← projectFamily .cards matchId with
  | .error error => return .error error
  | .ok cards =>
  match ← perform (BackendOp.finishMechanics matchId) with
  | .error error => return .error (.database error)
  | .ok () => return .ok { items, talents, cards }

/-! ### The callers -/

/-- What the rest of the backend may ask of the pipeline, and the transaction of a repair for any page. -/
inductive BackendCall where
  | applyMatch (matchId : Int) (rebuilding : Bool)
  | reingest
  | projectMatch (matchId : Int)
  | projectBatch (ids : List Int) (stage : CumulativeStage)
  | completeCumulativeStages (ids : List Int)
  | projectScalable (ids : List Int)
  | projectCasualPerformance (ids : List Int)
  | repairRankedProjectionGaps (pageSize : Nat)
  | repairCasualProjectionGaps (pageSize : Nat)
  | repairRankedChunk (ids : List Int)
  | repairCasualChunk (ids : List Int)
  | projectAllForMatch (matchId : Int)
  | registerDiscovery (discovery : MatchDiscovery)
  | claim (matchId : Int) (source owner : String) (leaseSeconds : Int)
  | checkpoint (matchId : Int) (owner : String) (checkpoint : MatchCheckpoint)
  | release (matchId : Int) (owner : String)
  | completeIfDurable (matchId : Int) (owner : String)
  | markTerminalUnavailable (matchId queueId : Int) (source : MatchDiscoverySource) (reason : String)
  | finalize (payload : CanonicalMatchPayload) (source : String)

inductive BackendOutcome where
  | replied (op : BackendOp) (reply : op.Reply)
  | reingested (report : Except String RatingReingestReport)
  | rankedProjection (matchId : Int) (result : Except RankedProjectionError RankedProjectionResult)
  | batchProjected (result : Except RankedProjectionError Unit)
  | stagesCompleted (result : Except RankedProjectionError Nat)
  | gapsRepaired (result : Except String Nat)
  | mechanicsProjected (result : Except CasualItemProjectionError CasualMechanicsProjectionResult)

def single (op : BackendOp) : BackendProgram BackendOutcome := do
  return .replied op (← perform op)

def callCode : BackendCall → BackendProgram BackendOutcome
  | .applyMatch matchId rebuilding => single (.applyMatch matchId rebuilding)
  | .reingest => do return .reingested (← reingest)
  | .projectMatch matchId => do return .rankedProjection matchId (← projectMatch matchId)
  | .projectBatch ids stage => do return .batchProjected (← projectBatch ids stage)
  | .completeCumulativeStages ids => do return .stagesCompleted (← completeCumulativeStagesForMatches ids)
  | .projectScalable ids => single (.projectScalableMany ids)
  | .projectCasualPerformance ids => single (.projectCasualPerformanceMany ids)
  | .repairRankedProjectionGaps pageSize => do
      return .gapsRepaired (← repairRankedProjectionGaps pageSize)
  | .repairCasualProjectionGaps pageSize => do
      return .gapsRepaired (← repairCasualProjectionGaps pageSize)
  | .repairRankedChunk ids => single (.repairRankedChunk ids)
  | .repairCasualChunk ids => single (.repairCasualChunk ids)
  | .projectAllForMatch matchId => do return .mechanicsProjected (← projectAllForMatch matchId)
  | .registerDiscovery discovery => single (.registerDiscovery discovery)
  | .claim matchId source owner leaseSeconds => single (.claim matchId source owner leaseSeconds)
  | .checkpoint matchId owner checkpoint => single (.checkpoint matchId owner checkpoint)
  | .release matchId owner => single (.release matchId owner)
  | .completeIfDurable matchId owner => single (.completeIfDurable matchId owner)
  | .markTerminalUnavailable matchId queueId source reason =>
      single (.markTerminalUnavailable matchId queueId source reason)
  | .finalize payload source => single (.finalize payload source)

/-- A run of the pipeline: any calls, in any interleaving, from any store. -/
abbrev BackendRun (glicko : Glicko Rating) (start : Store Rating)
    (history : List (BackendTurn Rating BackendOutcome))
    (state : State (Store Rating) BackendOp BackendOp.Reply BackendOutcome) : Prop :=
  Run (serve glicko).handler callCode ⟨start, []⟩ history state

/-! ### A ranked match of ten players -/

/-- An arithmetic of single points. -/
def pointGlicko : Glicko Int where
  initial := 1500
  isValidState state := decide (0 < state)
  glickoUpdate state _ won := .ok (if won then state + 1 else state - 1)

/-- Player `index` of ten; the first five are the winners. -/
def rosterRow (matchId entryDatetime : Int) (index : Nat) : MatchPlayerRow where
  matchId := matchId
  playerId := index + 1
  privateSlot := 0
  entryDatetime := entryDatetime
  playerName := none
  championId := some 2056
  winStatus := some (if index < 5 then "Winner" else "Loser")
  taskForce := some (if index < 5 then 1 else 2)
  source := some .direct
  isRanked := true

def rankedFacts (matchId entryDatetime : Int) : Store Rating where
  matchRows := [⟨matchId, entryDatetime, rankedQueueId, some true, false, some 1⟩]
  matchPlayers := (List.range 10).map (rosterRow matchId entryDatetime)

/-- A ranked match with all its facts, not projected yet. -/
def unprojected (matchId : Int) : Store Rating :=
  { rankedFacts matchId 100 with
    ingest := fun id => if id = matchId then
        some { status := .partialFacts, population := .ranked, completedStages := factStages,
               acquisitionState := .factsReady }
      else none }

end PaladinsCat.Backend
