import PaladinsCat.RatingEligibility

/-!
Projections, rebuilds and rebuild requests as callers of one store: what a step has
to heed so that no rating is lost, and the phases of their programs. `reingest`
empties the rating tables, reads the list of complete matches once, applies them one
by one, and deletes all requests if none was left over.
-/

namespace PaladinsCat.Backend

open Interleaving

variable {Rating : Type} {glicko : Glicko Rating}

/-! ### The callers -/

inductive RatingCall where
  | projectMatch (matchId : Int)
  | reingest
  | queueRebuild (matchId : Int) (reason : String)

def ratingCode : RatingCall → BackendProgram BackendOutcome
  | .projectMatch matchId => callCode (.projectMatch matchId)
  | .reingest => callCode .reingest
  | .queueRebuild matchId reason => single (.queueRebuild matchId reason)

abbrev RatingRun (glicko : Glicko Rating) (start : Store Rating)
    (history : List (BackendTurn Rating BackendOutcome))
    (state : State (Store Rating) BackendOp BackendOp.Reply BackendOutcome) : Prop :=
  Run (serve glicko).handler ratingCode ⟨start, []⟩ history state

/-- The match of a projection that has returned `Projected`. -/
def projectedOutcome : BackendOutcome → Option Int
  | .rankedProjection matchId (.ok .projected) => some matchId
  | _ => none

/-- The match that `project_match` goes on with after this answer to its rating step. -/
def ratedBy : (op : BackendOp) → op.Reply → Option Int
  | .applyMatch matchId false, .ok result => if result = .busy then none else some matchId
  | _, _ => none

def RatedIn (history : List (BackendTurn Rating BackendOutcome)) (matchId : Int) : Prop :=
  ∃ turn ∈ history, ratedBy turn.op turn.reply = some matchId

/-! ### What a run has to heed -/

def isTruncation : BackendOp → Bool
  | .truncateRatings => true
  | _ => false

/-- The step has emptied the snapshots. -/
def truncates (turn : BackendTurn Rating BackendOutcome) : Bool :=
  isTruncation turn.op && turn.after.snapshots.isEmpty

/-- The step has read the list of a rebuild. -/
def lists (turn : BackendTurn Rating BackendOutcome) : Bool :=
  match turn.op with
  | .ratedMatches => true
  | _ => false

/-- A step of a rebuild that failed, or found the lock taken. -/
def rebuildFails : (op : BackendOp) → op.Reply → Bool
  | .truncateRatings, .error _ => true
  | .ratedMatches, .error _ => true
  | .applyMatch _ true, .error _ => true
  | .applyMatch _ true, .ok .busy => true
  | _, _ => false

/-- The rebuild of the turn has not come to its end. -/
def unfinished (programs : List (Program BackendOp BackendOp.Reply BackendOutcome))
    (turn : BackendTurn Rating BackendOutcome) : Bool :=
  programs[turn.task]?.any (!·.finished)

def RebuildRunning (history : List (BackendTurn Rating BackendOutcome))
    (programs : List (Program BackendOp BackendOp.Reply BackendOutcome)) : Prop :=
  ∃ turn ∈ history, truncates turn = true ∧ unfinished programs turn = true

/-- An incremental update is put off: a request is pending, or the arithmetic fails. -/
def putsOff (glicko : Glicko Rating) (store : Store Rating) (matchId : Int) : Bool :=
  store.rebuildRequest.isSome || (calculateChanges glicko store matchId).toOption.isNone

instance (history : List (BackendTurn Rating BackendOutcome))
    (programs : List (Program BackendOp BackendOp.Reply BackendOutcome)) :
    Decidable (RebuildRunning history programs) :=
  inferInstanceAs (Decidable (∃ turn ∈ history, truncates turn = true ∧ unfinished programs turn = true))

/-- A step that cannot lose ratings: it starts no rebuild under another; a rebuild
fails only with a request pending; a list names every match that has been rated so
far, unless it has snapshots; a match that is put off is on the list of the rebuild
under way; and the row of a match to be rated is in one of the statuses that count. -/
@[mk_iff]
structure Heeds (glicko : Glicko Rating) (earlier : List (BackendTurn Rating BackendOutcome))
    (turn : BackendTurn Rating BackendOutcome) : Prop where
  alone : truncates turn = true → ¬RebuildRunning earlier turn.programs
  requested : rebuildFails turn.op turn.reply = true →
    turn.before.rebuildRequest.isSome = true ∨ (isTruncation turn.op = true ∧ truncates turn = false)
  listed : lists turn = true → rebuildFails turn.op turn.reply = false →
    ∀ rating ∈ earlier, ∀ matchId ∈ ratedBy rating.op rating.reply,
      hasSnapshots turn.before matchId = true ∨ matchId ∈ ratedMatches turn.before
  putOff : ∀ matchId ∈ ratedBy turn.op turn.reply, putsOff glicko turn.before matchId = true →
    ∀ listing ∈ earlier, lists listing = true → unfinished turn.programs listing = true →
      matchId ∈ ratedMatches listing.before
  status : ∀ matchId ∈ ratedBy turn.op turn.reply, rateableStatus turn.before matchId = true

set_option synthInstance.maxSize 512 in
instance (glicko : Glicko Rating) (earlier : List (BackendTurn Rating BackendOutcome))
    (turn : BackendTurn Rating BackendOutcome) : Decidable (Heeds glicko earlier turn) :=
  decidable_of_iff' _ (heeds_iff glicko earlier turn)

/-- All steps of the run heed what came before them. -/
def Heedful (glicko : Glicko Rating) (history : List (BackendTurn Rating BackendOutcome)) : Prop :=
  ∀ index < history.length, ∀ turn ∈ history[index]?, Heeds glicko (history.take index) turn

instance (glicko : Glicko Rating) (history : List (BackendTurn Rating BackendOutcome)) :
    Decidable (Heedful glicko history) :=
  inferInstanceAs (Decidable (∀ index < history.length, ∀ turn ∈ history[index]?, Heeds glicko _ turn))

/-! ### Phases -/

/-- How far a program is: outside a rebuild, past the rating step of a match, past
the truncation, or working through the list that it has read. -/
inductive RatingPhase where
  | outside
  | rated (matchId : Int)
  | truncated
  | listed (ids remaining : List Int) (deferred : Bool)

def RatingPhase.rebuilds : RatingPhase → Bool
  | .truncated | .listed _ _ _ => true
  | _ => false

def ratingNext : RatingPhase → (op : BackendOp) → op.Reply → Option RatingPhase
  | .outside, .rankedCandidate _, _ => some .outside
  | .outside, .queueRebuild _ _, _ => some .outside
  | .outside, .rebuildBestChampionRatings, _ => some .outside
  | .outside, .applyMatch matchId false, reply =>
      some (((ratedBy (.applyMatch matchId false) reply).map .rated).getD .outside)
  | .rated matchId, .projectRankedStats _, _ => some (.rated matchId)
  | .rated matchId, .projectCumulativeBatch _ _, _ => some (.rated matchId)
  | .rated matchId, .finishRanked _, _ => some (.rated matchId)
  | .outside, .truncateRatings, .ok _ => some .truncated
  | .outside, .truncateRatings, .error _ => some .outside
  | .truncated, .ratedMatches, .ok ids => some (.listed ids ids false)
  | .truncated, .ratedMatches, .error _ => some .outside
  | .listed ids (head :: remaining) deferred, .applyMatch matchId true, reply =>
      if matchId = head then some (.listed ids remaining (deferred || defersRebuild reply)) else none
  | .listed _ [] false, .deleteRebuildRequests, _ => some .outside
  | .listed _ [] true, .rebuildBestChampionRatings, _ => some .outside
  | _, _, _ => none

/-- A rebuild has come to its end, and a projection has rated its match. -/
def RatingEnds (phase : RatingPhase) (outcome : BackendOutcome) : Prop :=
  phase.rebuilds = false ∧ ∀ matchId, projectedOutcome outcome = some matchId → phase = .rated matchId

theorem projectBatch_phases (matchId : Int) (ids : List Int) (stage : CumulativeStage) :
    Follows ratingNext (fun phase _ => phase = .rated matchId) (.rated matchId) (projectBatch ids stage) := by
  unfold projectBatch
  split
  · rfl
  · simp only [Program.perform_bind, follows_call]
    intro reply
    refine ⟨.rated matchId, rfl, ?_⟩
    cases reply <;> rfl

theorem finishCumulativeStages_phases (matchId other : Int) (needsPerformance needsScalable : Bool) :
    Follows ratingNext (fun phase _ => phase = .rated matchId) (.rated matchId)
      (finishCumulativeStages other needsPerformance needsScalable) := by
  have batch : ∀ (needed : Bool) stage, Follows ratingNext (fun phase _ => phase = .rated matchId)
      (.rated matchId) (if needed then projectBatch [other] stage else return .ok ()) := by
    intro needed stage
    cases needed
    · rfl
    · exact projectBatch_phases matchId [other] stage
  unfold finishCumulativeStages
  rw [follows_bind]
  refine follows_mono ?_ (batch needsPerformance .performance)
  rintro _ (error | ⟨⟩) rfl
  · rfl
  · simp only [follows_bind]
    refine follows_mono ?_ (batch needsScalable .scalable)
    rintro _ (error | ⟨⟩) rfl
    · rfl
    · simp only [Program.perform_bind, follows_call]
      intro reply
      refine ⟨.rated matchId, rfl, ?_⟩
      cases reply <;> rfl

theorem projectStages_phases (matchId other : Int) :
    Follows ratingNext (fun phase _ => phase = .rated matchId) (.rated matchId) (projectStages other) := by
  simp only [projectStages, Program.perform_bind, follows_call]
  intro reply
  refine ⟨.rated matchId, rfl, ?_⟩
  rcases reply with error | _ | ⟨needsPerformance, needsScalable⟩ | _
  · rfl
  · rfl
  · simp only [follows_bind]
    refine follows_mono ?_ (finishCumulativeStages_phases matchId other needsPerformance needsScalable)
    rintro _ (error | ⟨_ | _⟩) rfl <;> rfl
  · simp only [follows_bind]
    refine follows_mono ?_ (finishCumulativeStages_phases matchId other true true)
    rintro _ (error | _) rfl <;> rfl

theorem projectMatch_phases (matchId : Int) :
    Follows ratingNext RatingEnds .outside (callCode (.projectMatch matchId)) := by
  simp only [callCode, projectMatch, Program.perform_bind, Program.call_bind, follows_call]
  intro reply
  refine ⟨.outside, rfl, ?_⟩
  rcases reply with error | _ | _
  · exact ⟨rfl, by simp [projectedOutcome]⟩
  · exact ⟨rfl, by simp [projectedOutcome]⟩
  · simp only [Program.call_bind, follows_call]
    intro reply
    refine ⟨_, rfl, ?_⟩
    have rates : ∀ result : RatingApplicationResult, result ≠ .busy → Follows ratingNext RatingEnds
        (((ratedBy (.applyMatch matchId false) (.ok result)).map RatingPhase.rated).getD .outside)
        (projectStages matchId >>= fun result => return .rankedProjection matchId result) := by
      intro result free
      simp only [ratedBy, free, if_false, Option.map_some, Option.getD_some, follows_bind]
      refine follows_mono ?_ (projectStages_phases matchId matchId)
      rintro _ result rfl
      refine ⟨rfl, ?_⟩
      intro other projected
      cases result with
      | error error => simp [projectedOutcome] at projected
      | ok result =>
          cases result with
          | alreadyProjected => simp [projectedOutcome] at projected
          | projected => rw [← Option.some.inj projected]
    rcases reply with error | _ | _ | _ | _
    · exact ⟨rfl, by simp [projectedOutcome]⟩
    · exact rates .applied (by simp)
    · exact rates .skipped (by simp)
    · exact rates .deferred (by simp)
    · exact ⟨rfl, by simp [projectedOutcome]⟩

theorem rebuildEach_phases (ids remaining : List Int) (report : RatingReingestReport) (deferred : Bool) :
    Follows ratingNext (fun phase result => phase = .listed ids [] result.2)
      (.listed ids remaining deferred) (rebuildEach remaining report deferred) := by
  induction remaining generalizing report deferred with
  | nil => rfl
  | cons matchId rest ih =>
      simp only [rebuildEach, Program.perform_bind, follows_call]
      intro reply
      exact ⟨_, by simp [ratingNext], ih _ _⟩

theorem reingest_phases : Follows ratingNext RatingEnds .outside (callCode .reingest) := by
  have ends : ∀ outcome, RatingEnds .outside (.reingested outcome) := by
    intro outcome
    exact ⟨rfl, by simp [projectedOutcome]⟩
  simp only [callCode, reingest, Program.perform_bind, Program.call_bind, follows_call]
  intro reply
  rcases reply with error | _
  · exact ⟨.outside, rfl, ends _⟩
  · refine ⟨.truncated, rfl, ?_⟩
    simp only [Program.call_bind, follows_call]
    intro reply
    rcases reply with error | ids
    · exact ⟨.outside, rfl, ends _⟩
    · refine ⟨.listed ids ids false, rfl, ?_⟩
      simp only [follows_bind]
      refine follows_mono ?_ (rebuildEach_phases ids ids {} false)
      rintro _ ⟨report, deferred⟩ rfl
      cases deferred with
      | false =>
          simp only [Bool.false_eq_true, if_false]
          intro reply
          refine ⟨.outside, rfl, ?_⟩
          rcases reply with error | _
          · exact ends _
          · intro reply
            refine ⟨.outside, rfl, ?_⟩
            cases reply <;> exact ends _
      | true =>
          intro reply
          refine ⟨.outside, rfl, ?_⟩
          cases reply <;> exact ends _

theorem ratingCode_phases (caller : RatingCall) : Follows ratingNext RatingEnds .outside (ratingCode caller) := by
  cases caller with
  | projectMatch matchId => exact projectMatch_phases matchId
  | reingest => exact reingest_phases
  | queueRebuild matchId reason =>
      simp only [ratingCode, single, Program.perform_bind, follows_call]
      intro reply
      exact ⟨.outside, rfl, rfl, by simp [projectedOutcome]⟩

end PaladinsCat.Backend
