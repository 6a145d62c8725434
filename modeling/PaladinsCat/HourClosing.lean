import PaladinsCat.Ensures
import PaladinsCat.HourFinish

/-!
What a call of `discover_hour` leaves of an hour that has been searched, if nothing else writes
the tables meanwhile. A drain that ends well has left none of its matches unfinished, so that
the hour it closes reopens only for matches that are limited with their facts, or that have no
positive id.
-/

namespace PaladinsCat.Backend

open Interleaving Program
open Hirez (Value)

/-! ### Steps -/

abbrev HourEvent : Type := Event HourStore HourOp HourOp.Reply

/-- The match that is reported as done. -/
def HourOp.resolves : (op : HourOp) → op.Reply → Option Int
  | .checkpointOutcome outcome _ => fun reply : Except PipelineError Int =>
      if failedReply reply then none else extractMatchId outcome
  | .recoverMatch matchId _ => fun reply : Except PipelineError Unit => if failedReply reply then none else some matchId
  | .markUnavailable matchId _ _ => fun reply : Except PipelineError Unit =>
      if failedReply reply then none else some matchId
  | _ => fun _ => none

/-- The match whose work the operation is. -/
def HourOp.worksOn : HourOp → Option Int
  | .checkpointOutcome outcome _ => extractMatchId outcome
  | .recoverMatch matchId _ | .markUnavailable matchId _ _ => some matchId
  | _ => none

/-- The match that the work has found to be unavailable for good. -/
def HourOp.condemns : (op : HourOp) → op.Reply → Option Int
  | .checkpointOutcome _ _ => fun reply : Except PipelineError Int => condemned reply
  | .recoverMatch _ _ => fun reply : Except PipelineError Unit => condemned reply
  | _ => fun _ => none
where
  condemned {α : Type} : Except PipelineError α → Option Int
    | .error (.terminalFacts matchId _) => some matchId
    | _ => none

/-- A step takes nothing from a finished match, and finishes the one that it reports as done. -/
structure Diligent (event : HourEvent) : Prop where
  keeps : ∀ id, leftUnfinished (event.before.ingest id) = false → leftUnfinished (event.after.ingest id) = false
  limits : ∀ id, limitedWithFacts (event.after.ingest id) = true →
    leftUnfinished (event.before.ingest id) = true ∨ limitedWithFacts (event.before.ingest id) = true
  finishes : ∀ id, event.op.resolves event.reply = some id → leftUnfinished (event.after.ingest id) = false
  names : ∀ id, event.op.condemns event.reply = some id → event.op.worksOn = some id

/-- An hour is closed only without matches for which it reopens, besides those that are left to work on. -/
def ClosesCleanly (event : HourEvent) : Prop :=
  ∀ key totalMatches, event.op = .markComplete key totalMatches → ∀ discovery ∈ event.before.discoveries,
    discovery.foundIn key = true →
      limitedWithFacts (event.before.ingest discovery.matchId) = false ∧
        (discovery.matchId ≤ 0 → leftUnfinished (event.before.ingest discovery.matchId) = false)

/-- The failure of an hour has been recorded. -/
def RecordsFailure (event : HourEvent) : Prop :=
  ∀ key message rawCount stagedCount, event.op = .markFailed key message rawCount stagedCount →
    ∀ row, event.after.hours key = some row → row.status = .failed

def GapStep (event : HourEvent) : Prop := Diligent event ∧ ClosesCleanly event ∧ RecordsFailure event

abbrev Makes {α : Type} (before : HourStore) (program : HourProgram α) (post : α → HourStore → Prop) : Prop :=
  Ensures hourServe.handler GapStep before program post

/-! ### What stays -/

/-- Work on an hour leaves the other hours, the discoveries and the finished matches alone. -/
structure Frame (key : HourKey) (before after : HourStore) : Prop where
  time : before.clock ≤ after.clock
  others : ∀ other, other ≠ key → after.hours other = before.hours other
  discoveries : after.discoveries = before.discoveries
  keeps : ∀ id, leftUnfinished (before.ingest id) = false → leftUnfinished (after.ingest id) = false
  limits : ∀ id, limitedWithFacts (after.ingest id) = true →
    leftUnfinished (before.ingest id) = true ∨ limitedWithFacts (before.ingest id) = true
  fetched : ∀ other, before.fetched other = true → after.fetched other = true
  searched : ∀ other, before.fetched other = true → before.searched other = true → after.searched other = true

section Frame
variable {key : HourKey} {first second third : HourStore}

theorem Frame.refl (key : HourKey) (store : HourStore) : Frame key store store where
  time := le_rfl
  others _ _ := rfl
  discoveries := rfl
  keeps _ done := done
  limits _ limited := Or.inr limited
  fetched _ marked := marked
  searched _ _ found := found

theorem Frame.trans (one : Frame key first second) (other : Frame key second third) : Frame key first third where
  time := one.time.trans other.time
  others home apart := (other.others home apart).trans (one.others home apart)
  discoveries := other.discoveries.trans one.discoveries
  keeps id done := other.keeps id (one.keeps id done)
  limits id limited := by
    rcases other.limits id limited with left | earlier
    · cases unfinished : leftUnfinished (first.ingest id) with
      | true => exact Or.inl rfl
      | false =>
          rw [one.keeps id unfinished] at left
          cases left
    · exact one.limits id earlier
  fetched home marked := other.fetched home (one.fetched home marked)
  searched home marked found := other.searched home (one.fetched home marked) (one.searched home marked found)

/-- What is neither unfinished nor limited stays so. -/
theorem Frame.settled (frame : Frame key first second) {id : Int} (done : leftUnfinished (first.ingest id) = false)
    (whole : limitedWithFacts (first.ingest id) = false) :
    leftUnfinished (second.ingest id) = false ∧ limitedWithFacts (second.ingest id) = false := by
  apply And.intro (frame.keeps id done)
  by_contra limited
  rcases frame.limits id (Bool.not_eq_false _ ▸ limited) with left | earlier
  · rw [done] at left
    cases left
  · rw [whole] at earlier
    cases earlier

/-- An operation on one hour that records no discoveries. -/
def HourOp.quiet (key : HourKey) (op : HourOp) : Prop :=
  op.concerns key = true ∧ ∀ other observations, op ≠ .recordDiscovery other observations

theorem hourEffect_discoveries {outside : HourOutside} {before after : HourStore} {op : HourOp} {result : op.Result}
    (silent : ∀ other observations, op ≠ .recordDiscovery other observations)
    (effected : hourEffect outside before op = .ok (result, after)) : after.discoveries = before.discoveries := by
  obtain ⟨-, -, ⟨target, observations, recorded, -⟩ | same⟩ := hourEffect_frame effected
  · exact absurd recorded (silent target observations)
  · exact same

theorem HourRowStep.elsewhere {now : Int} {other : HourKey} {op : HourOp} {before after : Option HourlyIngestState}
    (step : HourRowStep now other op before after) (concerns : op.concerns key = true) (apart : other ≠ key) :
    after = before := by
  cases step with
  | kept => rfl
  | _ => exact absurd (of_decide_eq_true concerns) apart

theorem frame_step (event : HourEvent) (quiet : event.op.quiet key)
    (served : hourServe.handler event.before event.op event.reply event.after) (meets : GapStep event) :
    Frame key event.before event.after := by
  have discoveries : event.after.discoveries = event.before.discoveries := by
    obtain ⟨outside, -, found, rfl, ⟨same, -⟩ | ⟨result, effected, -⟩⟩ := hour_served served
    · rw [same]
    · have same := hourEffect_discoveries quiet.2 effected
      exact same
  constructor
  · exact (hour_step served key).time
  · intro other apart
    exact (hour_step served other).row.elsewhere quiet.1 apart
  · exact discoveries
  · exact meets.1.keeps
  · exact meets.1.limits
  · exact fun other marked => fetched_mono served marked
  · exact fun other marked found => (hour_step served other).row.keepsSearched marked found

/-- What is not unfinished stays so through every program. -/
theorem makes_keeps {α : Type} {before : HourStore} {program : HourProgram α} {post : α → HourStore → Prop}
    (makes : Makes before program post) :
    Makes before program fun result after =>
      (∀ id, leftUnfinished (before.ingest id) = false → leftUnfinished (after.ingest id) = false) ∧ post result after := by
  apply ensures_and _ makes
  apply ensures_related
    (fun first second : HourStore => ∀ id, leftUnfinished (first.ingest id) = false → leftUnfinished (second.ingest id) = false)
    _ _ _ (uses_trivial program)
  · exact fun _ _ done => done
  · exact fun one other id done => other id (one id done)
  · exact fun event _ _ meets => meets.1.keeps

theorem makes_frame {α : Type} {before : HourStore} {program : HourProgram α} {post : α → HourStore → Prop}
    (makes : Makes before program post) (uses : Uses (HourOp.quiet key) program) :
    Makes before program fun result after => Frame key before after ∧ post result after :=
  ensures_and (ensures_related (Frame key) (Frame.refl key) Frame.trans frame_step uses) makes

end Frame

/-! ### One match -/

/-- Where a part of a drain has not failed, these matches are not unfinished any more. -/
def Untroubled (drain : Drain) (remaining : List Int) (ids : Int → Prop)
    (outcome : Except PipelineError Drain × MatchDrainProgress) (after : HourStore) : Prop :=
  ∀ drained, outcome.1 = .ok drained → drained.remaining = remaining ∧
    (drained.failures = [] → drain.failures = [] ∧ ∀ id, ids id → leftUnfinished (after.ingest id) = false)

section OneMatch
variable {queueId matchId : Int} {drain : Drain} {progress : MatchDrainProgress} {before : HourStore}

theorem untroubled_error {remaining : List Int} {ids : Int → Prop} {error : PipelineError} {after : HourStore} :
    Untroubled drain remaining ids (.error error, progress) after := by
  intro drained ended
  cases ended

theorem settleFailure_makes {error : PipelineError}
    (names : ∀ id reason, error = .terminalFacts id reason → id = matchId) :
    Makes before (settleFailure queueId matchId error drain progress)
      (Untroubled drain drain.remaining (· = matchId)) := by
  have unsettled : Makes before
      (.done (.ok (drain.fail ("match " ++ toString matchId ++ ": " ++ error.toString)), progress))
      (Untroubled drain drain.remaining (· = matchId)) := by
    apply ensures_done
    rintro drained ⟨⟩
    exact ⟨rfl, fun fine => absurd fine (fail_failures drain _)⟩
  cases error with
  | terminalFacts id reason =>
      obtain rfl := names id reason rfl
      apply ensures_call
      rintro (failure | _) middle served ⟨diligent, -, -⟩
      · exact ensures_done untroubled_error
      · apply ensures_done
        rintro drained ⟨⟩
        have finished := diligent.finishes id rfl
        refine ⟨rfl, fun fine => ⟨fine, ?_⟩⟩
        rintro other rfl
        exact finished
  | database message => exact unsettled
  | relay failure => exact unsettled
  | facts message => exact unsettled

theorem settleOutcome_makes {outcome : Value} (named : extractMatchId outcome = some matchId) :
    Makes before (settleOutcome queueId matchId outcome drain progress)
      (Untroubled drain drain.remaining (· = matchId)) := by
  unfold settleOutcome
  split
  · exact ensures_done untroubled_error
  · apply ensures_call
    rintro (error | canonicalId) middle served ⟨diligent, -, -⟩
    · apply @settleFailure_makes queueId matchId { drain with emitted := insert matchId drain.emitted }
      rintro id reason rfl
      have worked := diligent.names id rfl
      exact Option.some.inj (worked.symm.trans named)
    · apply ensures_done
      rintro drained ⟨⟩
      have finished := diligent.finishes matchId named
      refine ⟨rfl, fun fine => ⟨fine, ?_⟩⟩
      rintro other rfl
      exact finished

end OneMatch

/-! ### A batch -/

section Batch
variable {queueId : Int} {drain : Drain} {progress : MatchDrainProgress} {before : HourStore}

/-- Every outcome belongs to the match it is listed under. -/
def Named (outcomes : List (Int × Value)) : Prop := ∀ entry ∈ outcomes, extractMatchId entry.2 = some entry.1

theorem requestOutcomes_makes {matchIds : List Int} {singletonPass : Bool} :
    Makes before (requestOutcomes queueId matchIds singletonPass) fun result _ =>
      ∀ outcomes, result = .ok outcomes → Named outcomes ∧ ∀ id ∈ outcomes.map (·.1), id ∈ matchIds := by
  apply ensures_call
  rintro (error | response) middle - -
  · apply ensures_call
    rintro (failure | _) last - - <;> exact ensures_done fun _ ended => by cases ended
  · apply ensures_done
    intro outcomes valid
    exact ⟨fun entry member => (validateRequestedOutcomes_entries valid entry member).1,
      validateRequestedOutcomes_requested valid⟩

theorem settleBatch_makes {batch : List Int} {byId : List (Int × Value)} (named : Named byId) :
    Makes before (settleBatch queueId batch byId drain progress)
      (Untroubled drain drain.remaining fun id => id ∈ batch ∧ id ∈ byId.map (·.1)) := by
  induction batch generalizing byId drain progress before with
  | nil =>
      apply ensures_done
      rintro drained ⟨⟩
      refine ⟨rfl, fun fine => ⟨fine, ?_⟩⟩
      rintro id ⟨inside, -⟩
      cases inside
  | cons matchId rest ih =>
      rw [settleBatch]
      cases found : byId.lookup matchId with
      | none =>
          dsimp only
          apply ensures_mono (ih named)
          intro outcome after untroubled drained ended
          obtain ⟨same, settled⟩ := untroubled drained ended
          refine ⟨same, fun fine => ⟨(settled fine).1, ?_⟩⟩
          rintro id ⟨inside, answered⟩
          rcases List.mem_cons.mp inside with rfl | later
          · obtain ⟨entry, listed, rfl⟩ := List.mem_map.mp answered
            have missing := List.lookup_eq_none_iff.mp found entry listed
            simp at missing
          · exact (settled fine).2 id ⟨later, answered⟩
      | some outcome =>
          obtain ⟨front, back, split, -⟩ := List.lookup_eq_some_iff.mp found
          have own : extractMatchId outcome = some matchId := named (matchId, outcome) (by simp [split])
          dsimp only
          apply ensures_then (settleOutcome_makes own)
          rintro ⟨error | drained, progress⟩ middle untroubled
          · exact ensures_done untroubled_error
          · obtain ⟨same, settled⟩ := untroubled drained rfl
            have others : Named (byId.filter fun entry => entry.1 ≠ matchId) := fun entry member =>
              named entry (List.mem_of_mem_filter member)
            apply ensures_mono (makes_keeps (ih others))
            rintro outcome after ⟨keeps, untroubled⟩ last ended
            obtain ⟨kept, later⟩ := untroubled last ended
            refine ⟨kept.trans same, fun fine => ?_⟩
            obtain ⟨fine, rest⟩ := later fine
            obtain ⟨clean, done⟩ := settled fine
            refine ⟨clean, ?_⟩
            rintro id ⟨inside, answered⟩
            by_cases here : id = matchId
            · exact keeps id (done id here)
            · obtain ⟨entry, listed, rfl⟩ := List.mem_map.mp answered
              apply rest entry.1
              refine ⟨(List.mem_cons.mp inside).resolve_left here, List.mem_map_of_mem ?_⟩
              exact List.mem_filter.mpr ⟨listed, decide_eq_true here⟩

theorem drainBlocker_makes {blocker : Int} :
    Makes before (drainBlocker queueId blocker drain progress)
      (Untroubled drain (drain.remaining.erase blocker) (· = blocker)) := by
  unfold drainBlocker
  apply ensures_then requestOutcomes_makes
  rintro (error | outcomes) middle asked
  · exact ensures_done untroubled_error
  · obtain ⟨named, requested⟩ := asked outcomes rfl
    dsimp only
    apply ensures_then (settleBatch_makes named)
    rintro ⟨error | drained, progress⟩ last untroubled
    · exact ensures_done untroubled_error
    · obtain ⟨same, settled⟩ := untroubled drained rfl
      apply ensures_done
      rintro final ⟨⟩
      cases outcomes with
      | nil => exact ⟨congrArg (·.erase blocker) same, fun fine => absurd fine (fail_failures drained _)⟩
      | cons first rest =>
          refine ⟨congrArg (·.erase blocker) same, fun fine => ⟨(settled fine).1, ?_⟩⟩
          rintro id rfl
          have only := List.mem_singleton.mp (requested first.1 List.mem_cons_self)
          exact (settled fine).2 id ⟨List.mem_cons_self, only ▸ List.mem_cons_self⟩

end Batch

/-! ### The drains -/

section Drains
variable {key : HourKey} {drain : Drain} {progress : MatchDrainProgress} {before : HourStore}

/-- Where the loop has not failed, what has left `remaining` is not unfinished any more. -/
def Drained (drain : Drain) (outcome : Except PipelineError Drain × MatchDrainProgress) (after : HourStore) : Prop :=
  ∀ drained, outcome.1 = .ok drained → drained.failures = [] → drain.failures = [] ∧
    ∀ id ∈ drain.remaining, id ∈ drained.remaining ∨ leftUnfinished (after.ingest id) = false

theorem drained_error {error : PipelineError} {after : HourStore} : Drained drain (.error error, progress) after := by
  intro drained ended
  cases ended

theorem drainRound_makes : Makes before (drainRound key drain progress) (Drained drain) := by
  unfold drainRound
  apply ensures_call
  rintro (error | _) leased - -
  · exact ensures_done drained_error
  dsimp only
  apply ensures_then requestOutcomes_makes
  rintro (error | outcomes) asked requested
  · exact ensures_done drained_error
  obtain ⟨named, -⟩ := requested outcomes rfl
  dsimp only
  apply ensures_then (settleBatch_makes named)
  rintro ⟨error | drained, progress⟩ middle untroubled
  · exact ensures_done drained_error
  obtain ⟨same, settled⟩ := untroubled drained rfl
  have answered : drained.failures = [] → ∀ id ∈ drain.remaining,
      id ∈ drained.remaining.diff ((drain.remaining.take matchDetailProtocolBatchSize).filter
        (· ∈ outcomes.map (·.1))) ∨ leftUnfinished (middle.ingest id) = false := by
    intro fine id member
    by_cases taken : id ∈ (drain.remaining.take matchDetailProtocolBatchSize).filter (· ∈ outcomes.map (·.1))
    · obtain ⟨inside, known⟩ := List.mem_filter.mp taken
      exact Or.inr ((settled fine).2 id ⟨inside, of_decide_eq_true known⟩)
    · exact Or.inl (List.mem_diff_of_mem (same ▸ member) taken)
  dsimp only
  split
  · apply ensures_done
    rintro last ⟨⟩ fine
    exact ⟨(settled fine).1, answered fine⟩
  · rename_i blocker found
    apply ensures_mono (makes_keeps drainBlocker_makes)
    rintro outcome after ⟨keeps, untroubled⟩ last ended fine
    obtain ⟨rest, done⟩ := untroubled last ended
    obtain ⟨fine, blocked⟩ := done fine
    refine ⟨(settled fine).1, fun id member => ?_⟩
    by_cases here : id = blocker
    · exact Or.inr (blocked id here)
    · rcases answered fine id member with left | finished
      · rw [rest]
        exact Or.inl ((List.mem_erase_of_ne here).mpr left)
      · exact Or.inr (keeps id finished)

theorem drainRounds_makes {rounds : Nat} : Makes before (drainRounds key rounds drain progress) (Drained drain) := by
  induction rounds generalizing drain progress before with
  | zero =>
      apply ensures_done
      rintro last ⟨⟩ fine
      exact ⟨fine, fun id member => Or.inl member⟩
  | succ rounds ih =>
      unfold drainRounds
      split
      · apply ensures_done
        rintro last ⟨⟩ fine
        exact ⟨fine, fun id member => Or.inl member⟩
      · apply ensures_then drainRound_makes
        rintro ⟨error | drained, progress⟩ middle first
        · exact ensures_done drained_error
        · apply ensures_mono (makes_keeps ih)
          rintro outcome after ⟨keeps, second⟩ last ended fine
          obtain ⟨fine, later⟩ := second last ended fine
          obtain ⟨fine, earlier⟩ := first drained rfl fine
          refine ⟨fine, fun id member => ?_⟩
          rcases earlier id member with left | finished
          · exact later id left
          · exact Or.inr (keeps id finished)

/-- A drain that ends well leaves none of its matches unfinished. -/
def Finishing (matchIds : List Int) (outcome : Except PipelineError Nat × MatchDrainProgress) (after : HourStore) : Prop :=
  ∀ count, outcome.1 = .ok count → ∀ id ∈ matchIds, 0 < id → leftUnfinished (after.ingest id) = false

theorem drainResult_ok {kind : String} {count : Nat} (ended : drainResult kind drain = .ok count) : drain.failures = [] := by
  unfold drainResult at ended
  split at ended
  · assumption
  · cases ended

theorem fetchDiscovered_makes {matchIds : List Int} (distinct : matchIds.Nodup) :
    Makes before (fetchDiscoveredCompletedContinuously key matchIds progress) (Finishing matchIds) := by
  unfold fetchDiscoveredCompletedContinuously
  dsimp only
  have empties := @drainRounds_follows key { remaining := matchIds.filter fun id => decide (0 < id) } progress
    false _ le_rfl (by simp) ⟨distinct.filter _, by simp⟩
  apply ensures_then (ensures_and drainRounds_makes (ensures_follows empties))
  rintro ⟨error | drained, progress⟩ after ⟨first, last, settled⟩
  · apply ensures_done
    intro count ended
    cases ended
  · apply ensures_done
    intro count ended id member positive
    obtain ⟨-, finished⟩ := first drained rfl (drainResult_ok ended)
    rcases finished id (List.mem_filter.mpr ⟨member, decide_eq_true positive⟩) with left | done
    · rw [show drained.remaining = [] from settled.2] at left
      cases left
    · exact done

end Drains

section Resume
variable {key : HourKey} {drain : Drain} {progress : MatchDrainProgress} {before : HourStore}

/-- What the outcomes of a window say of its matches. -/
def Recovered (outcomes : List (Int × Except PipelineError Unit)) (after : HourStore) : Prop :=
  ∀ entry ∈ outcomes, (entry.2 = .ok () → leftUnfinished (after.ingest entry.1) = false) ∧
    ∀ id reason, entry.2 = .error (.terminalFacts id reason) → id = entry.1

theorem recoverWindow_makes {queueId : Int} {window : List Int} :
    Makes before (recoverWindow queueId window) fun outcomes after =>
      Recovered outcomes after ∧ ∀ id ∈ window, id ∈ outcomes.map (·.1) := by
  induction window generalizing before with
  | nil =>
      apply ensures_done
      constructor
      · intro entry member
        cases member
      · intro id member
        cases member
  | cons matchId rest ih =>
      unfold recoverWindow
      apply ensures_call
      intro reply middle _ meets
      apply ensures_then (makes_keeps ih)
      rintro outcomes after ⟨keeps, recovered, listed⟩
      apply ensures_done
      constructor
      · refine List.forall_mem_cons.mpr ⟨⟨?_, ?_⟩, recovered⟩
        · intro done
          apply keeps
          apply meets.1.finishes matchId
          rw [show reply = .ok () from done]
          rfl
        · intro id reason condemned
          have names := meets.1.names id
          rw [show reply = .error (.terminalFacts id reason) from condemned] at names
          exact (Option.some.inj (names rfl)).symm
      · intro id member
        rcases List.mem_cons.mp member with rfl | later
        · exact List.mem_cons_self
        · exact List.mem_cons_of_mem _ (listed id later)

theorem settleRecovered_makes {queueId : Int} {outcomes : List (Int × Except PipelineError Unit)}
    (recovered : Recovered outcomes before) :
    Makes before (settleRecovered queueId outcomes drain progress) fun outcome after =>
      ∀ drained, outcome.1 = .ok drained → drained.failures = [] → drain.failures = [] ∧
        ∀ id ∈ outcomes.map (·.1), leftUnfinished (after.ingest id) = false := by
  induction outcomes generalizing drain progress before with
  | nil =>
      apply ensures_done
      rintro drained ⟨⟩ fine
      exact ⟨fine, fun id member => by cases member⟩
  | cons entry rest ih =>
      obtain ⟨matchId, outcome⟩ := entry
      obtain ⟨⟨finished, names⟩, later⟩ := List.forall_mem_cons.mp recovered
      cases outcome with
      | ok value =>
          apply ensures_mono (makes_keeps (ih later))
          rintro result after ⟨keeps, settled⟩ drained ended fine
          obtain ⟨clean, others⟩ := settled drained ended fine
          exact ⟨clean, List.forall_mem_cons.mpr ⟨keeps matchId (finished rfl), others⟩⟩
      | error error =>
          unfold settleRecovered
          apply ensures_then (makes_keeps (settleFailure_makes fun id reason same => names id reason (by rw [same])))
          rintro ⟨failure | drained, progress⟩ middle ⟨kept, untroubled⟩
          · apply ensures_done
            rintro last ⟨⟩
          · obtain ⟨-, own⟩ := untroubled drained rfl
            have still : Recovered rest middle := fun entry member =>
              ⟨fun done => kept _ ((later entry member).1 done), (later entry member).2⟩
            apply ensures_mono (makes_keeps (ih still))
            rintro result after ⟨keeps, settled⟩ last ended fine
            obtain ⟨fine, others⟩ := settled last ended fine
            obtain ⟨clean, done⟩ := own fine
            exact ⟨clean, List.forall_mem_cons.mpr ⟨keeps matchId (done matchId rfl), others⟩⟩

theorem resumeWindows_makes {windows : List (List Int)} :
    Makes before (resumeWindows key windows drain progress) fun outcome after =>
      ∀ drained, outcome.1 = .ok drained → drained.failures = [] → drain.failures = [] ∧
        ∀ window ∈ windows, ∀ id ∈ window, leftUnfinished (after.ingest id) = false := by
  induction windows generalizing drain progress before with
  | nil =>
      apply ensures_done
      rintro drained ⟨⟩ fine
      exact ⟨fine, fun window member => by cases member⟩
  | cons window rest ih =>
      unfold resumeWindows
      apply ensures_call
      rintro (error | _) leased - -
      · apply ensures_done
        rintro drained ⟨⟩
      apply ensures_then recoverWindow_makes
      rintro outcomes middle ⟨recovered, listed⟩
      apply ensures_then (settleRecovered_makes recovered)
      rintro ⟨error | drained, progress⟩ last settled
      · apply ensures_done
        rintro drained ⟨⟩
      · apply ensures_mono (makes_keeps ih)
        rintro outcome after ⟨keeps, others⟩ final ended fine
        obtain ⟨fine, later⟩ := others final ended fine
        obtain ⟨clean, own⟩ := settled drained rfl fine
        refine ⟨clean, List.forall_mem_cons.mpr ⟨fun id member => ?_, later⟩⟩
        exact keeps id (own id (listed id member))

theorem toChunksGo_flatten {A : Type} (size : Nat) (list : List A) (chunk : Array A) (chunks : Array (List A)) :
    (List.toChunks.go size list chunk chunks).flatten = chunks.toList.flatten ++ chunk.toList ++ list := by
  induction list generalizing chunk chunks with
  | nil => simp [List.toChunks.go]
  | cons head rest ih =>
      unfold List.toChunks.go
      split
      · rw [ih]
        simp
      · rw [ih]
        simp

theorem mem_toChunks {A : Type} {size : Nat} {list : List A} {element : A} (member : element ∈ list) :
    ∃ chunk ∈ list.toChunks (size + 1), element ∈ chunk := by
  cases list with
  | nil => cases member
  | cons head rest =>
      have whole := toChunksGo_flatten (size + 1) rest #[head] #[]
      have listed : element ∈ ((head :: rest).toChunks (size + 1)).flatten := by
        exact whole.symm ▸ member
      exact List.mem_flatten.mp listed

/-- The work that is selected is the work that there is. -/
theorem requireCanonicalWork_makes {matchIds : List Int} :
    Makes before (requireCanonicalWork matchIds) fun reply after =>
      ∀ work, reply = .ok work → work.1 = matchIdsRequiringCanonicalWork after.ingest matchIds := by
  unfold requireCanonicalWork
  split
  · rename_i none_
    apply ensures_done
    rintro work ⟨⟩
    rw [none_]
    rfl
  · apply ensures_call
    intro reply after served _
    apply ensures_done
    rintro work rfl
    obtain ⟨outside, found, -, -, -, effected⟩ := hour_replied served
    cases effected
    rfl

theorem resumeDiscovered_makes {matchIds : List Int} :
    Makes before (resumeDiscoveredContinuously key matchIds progress) (Finishing matchIds) := by
  unfold resumeDiscoveredContinuously
  apply ensures_call
  rintro (error | completed) staged - -
  · apply ensures_done
    intro count ended
    cases ended
  apply ensures_then requireCanonicalWork_makes
  rintro (error | ⟨work, distinct⟩) middle selected
  · apply ensures_done
    intro count ended
    cases ended
  dsimp only
  apply ensures_then (makes_keeps resumeWindows_makes)
  rintro ⟨error | drained, progress⟩ after ⟨keeps, resumed⟩
  · apply ensures_done
    intro count ended
    cases ended
  · apply ensures_done
    intro count ended id member positive
    obtain ⟨-, finished⟩ := resumed drained rfl (drainResult_ok ended)
    by_cases open_ : leftUnfinished (middle.ingest id) = true
    · have listed : id ∈ work.ids := by
        have whole : work = matchIdsRequiringCanonicalWork middle.ingest matchIds := selected _ rfl
        rw [whole]
        exact mem_canonicalWork.mpr ⟨member, positive, open_⟩
      obtain ⟨window, inside, here⟩ := @mem_toChunks _ 9 _ _ listed
      exact finished window inside id here
    · exact keeps id (Bool.not_eq_true _ ▸ open_)

end Resume

/-! ### The hour -/

/-- The row of the hour may be claimed if it asks for work: its search has succeeded, and no lease runs. -/
def Due (store : HourStore) (key : HourKey) : Prop :=
  ∃ row, store.hours key = some row ∧ row.fetched = true ∧ row.fetchSucceeded = true ∧
    (row.status = .fetching → row.leaseUntil.all (· ≤ store.clock) = true)

/-- Nobody works on the hour, and it does not reopen. -/
def Shut (store : HourStore) (key : HourKey) : Prop :=
  ∀ row, store.hours key = some row →
    row.status ≠ .fetching ∧ (row.status = .complete → reopenableHour store key = false)

theorem reopenableHour_eq_false {store : HourStore} {key : HourKey} :
    reopenableHour store key = false ↔ ∀ discovery ∈ store.discoveries, discovery.foundIn key = true →
      leftUnfinished (store.ingest discovery.matchId) = false ∧
        limitedWithFacts (store.ingest discovery.matchId) = false := by
  rw [← Bool.not_eq_true, reopenableHour_iff]
  simp only [not_exists, not_and, not_or, Bool.not_eq_true]

theorem Frame.ids {key other : HourKey} {before after : HourStore} (frame : Frame key before after) :
    after.ids other = before.ids other := by
  rw [HourStore.ids, HourStore.ids, frame.discoveries]

theorem Frame.due {key other : HourKey} {before after : HourStore} (frame : Frame key before after)
    (apart : other ≠ key) (due : Due before other) : Due after other := by
  obtain ⟨row, stored, fetched, succeeded, lapsed⟩ := due
  refine ⟨row, (frame.others other apart).trans stored, fetched, succeeded, fun working => ?_⟩
  have free := lapsed working
  have later := frame.time
  cases until_ : row.leaseUntil with
  | none => rfl
  | some moment =>
      simp only [until_, Option.all_some, decide_eq_true_eq] at free ⊢
      omega

/-- Work on an hour reopens no other one. -/
theorem Frame.shut {key other : HourKey} {before after : HourStore} (frame : Frame key before after)
    (apart : other ≠ key) (shut : Shut before other) : Shut after other := by
  intro row stored
  rw [frame.others other apart] at stored
  obtain ⟨idle, closed⟩ := shut row stored
  apply And.intro idle
  intro complete
  apply reopenableHour_eq_false.mpr
  rw [frame.discoveries]
  intro discovery member found
  obtain ⟨done, whole⟩ := reopenableHour_eq_false.mp (closed complete) discovery member found
  exact frame.settled done whole

section Hour
variable {key : HourKey} {before after : HourStore}

theorem Due.known (due : Due before key) : before.fetched key = true ∧ before.searched key = true := by
  obtain ⟨row, stored, fetched, succeeded, -⟩ := due
  simp [HourStore.fetched, HourStore.searched, stored, fetched, succeeded]

/-- A claim that is refused leaves an hour with nothing to do. -/
theorem refused_shut {source : String} (due : Due before key)
    (served : hourServe.handler before (.claimHour key source) (.ok false) after) : Shut after key := by
  obtain ⟨row, stored, fetched, succeeded, lapsed⟩ := due
  have later := (hour_step served key).time
  obtain ⟨outside, found, same, -, now, effected⟩ := hour_replied served
  replace effected := constraintViolation_eq_ok.mp effected
  simp only [claimHourlyIngestHour] at effected
  split at effected
  · split at effected
    · cases effected
    · rename_i refused
      cases effected
      intro other listed
      rw [same, stored, Option.some.injEq] at listed
      subst listed
      simp only [same, stored, claimedHour, fetched, succeeded, ← now] at refused
      split at refused
      · cases refused
      · rename_i unclaimed
        simp only [Bool.or_eq_true, Bool.and_eq_true, beq_iff_eq, not_or, not_and, Bool.not_eq_true] at unclaimed
        obtain ⟨⟨-, closed⟩, running⟩ := unclaimed
        apply And.intro _ closed
        intro working
        have free := lapsed working
        have busy := running working
        cases until_ : row.leaseUntil with
        | none =>
            rw [until_] at busy
            cases busy
        | some moment =>
            simp only [until_, Option.all_some, decide_eq_true_eq, decide_eq_false_iff_not] at free busy
            omega
  · cases effected

/-- An hour that is closed cleanly, and without work that is left, does not reopen. -/
theorem completed_shut {totalMatches : Int} {reply : Except PipelineError Unit}
    (served : hourServe.handler before (.markComplete key totalMatches) reply after)
    (meets : GapStep ⟨before, .markComplete key totalMatches, reply, after⟩) (done : reply = .ok ())
    (finished : ∀ id ∈ before.ids key, leftUnfinished (before.ingest id) = false) : Shut after key := by
  have frame := frame_step ⟨before, .markComplete key totalMatches, reply, after⟩
    ⟨decide_eq_true rfl, fun _ _ => HourOp.noConfusion⟩ served meets
  have clean := meets.2.1 key totalMatches rfl
  subst done
  obtain ⟨outside, found, -, -, -, effected⟩ := hour_replied served
  cases effected
  intro row stored
  simp only [markHourlyIngestComplete, updateHour_hours, if_true] at stored
  constructor
  · cases former : found.hours key with
    | none => simp [former] at stored
    | some state =>
        simp only [former, Option.bind_some, Option.or_some, Option.some.injEq] at stored
        subst stored
        simp
  · intro _
    apply reopenableHour_eq_false.mpr
    rw [frame.discoveries]
    intro discovery member inside
    obtain ⟨whole, odd⟩ := clean discovery member inside
    apply frame.settled _ whole
    rcases le_or_gt discovery.matchId 0 with nonpositive | positive
    · exact odd nonpositive
    · exact finished _ (mem_discoveredMatchIds.mpr ⟨positive, discovery, member, inside, rfl⟩)

/-- The failure of an hour is on record, whatever the statement has replied. -/
theorem failed_shut {message : String} {rawCount stagedCount : Option Int} {reply : Except PipelineError Unit}
    (meets : GapStep ⟨before, .markFailed key message rawCount stagedCount, reply, after⟩) : Shut after key := by
  intro row stored
  have failed := meets.2.2 key message rawCount stagedCount rfl row stored
  simp [failed]

theorem uses_of_watch {α : Type} {post : Bool → α → Prop} {program : HourProgram α} {troubled : Bool}
    (follows : Follows (watch key) post troubled program) : Uses (HourOp.quiet key) program := by
  induction program generalizing troubled with
  | done result => trivial
  | call op next ih =>
      have drains : op.drains key = true := by
        by_contra other
        obtain ⟨after, allowed, -⟩ := follows (.error (.facts ""))
        simp [watch, other] at allowed
      apply And.intro
      · apply And.intro (drains_concerns drains)
        rintro target observations rfl
        cases drains
      · intro reply
        obtain ⟨after, -, rest⟩ := follows reply
        exact ih reply rest

theorem hourMatchIds_makes (marked : before.fetched key = true) :
    Makes before (hourMatchIds key) fun result after => Frame key before after ∧
      ∀ discovered ids, result = .ok (discovered, ids) → ids ≠ [] ∧ ids = after.ids key := by
  unfold hourMatchIds
  apply ensures_call
  intro reply middle served meets
  have frame := frame_step ⟨before, .discoveredIds key, reply, middle⟩
    ⟨decide_eq_true rfl, fun _ _ => HourOp.noConfusion⟩ served meets
  rcases reply with error | ⟨known, distinct⟩
  · apply ensures_done
    exact ⟨frame, fun _ _ ended => by cases ended⟩
  by_cases none_ : known = []
  · change Makes middle (if known ≠ [] then _ else _) _
    rw [if_neg (not_not.mpr none_)]
    apply ensures_call
    intro reply last granted meets
    have frame := frame.trans (frame_step ⟨middle, .claimSearch key, reply, last⟩
      ⟨decide_eq_true rfl, fun _ _ => HourOp.noConfusion⟩ granted meets)
    rcases reply with error | _ | _
    · apply ensures_done
      exact ⟨frame, fun _ _ ended => by cases ended⟩
    · apply ensures_done
      exact ⟨frame, fun _ _ ended => by cases ended⟩
    · have free := (search_granted granted).1
      rw [fetched_mono served marked] at free
      cases free
  · change Makes middle (if known ≠ [] then _ else _) _
    rw [if_pos none_]
    apply ensures_done
    apply And.intro frame
    rintro discovered ids ⟨⟩
    exact ⟨none_, (read_replied served).trans frame.ids.symm⟩

theorem drainHour_makes {ids : List Int} {result : DiscoveryResult} (whole : ids = before.ids key) :
    Makes before (drainHour key ids result) fun outcome after => Frame key before after ∧
      ∀ value, outcome.1 = .ok value → Shut after key := by
  have distinct : ids.Nodup := whole ▸ discoveredMatchIds_nodup _ _
  unfold drainHour
  apply ensures_then (makes_frame requireCanonicalWork_makes
    (uses_of_watch (@requireCanonicalWork_follows key false ids)))
  rintro (error | ⟨work, single⟩) selecting ⟨frame, selected⟩
  · apply ensures_done
    exact ⟨frame, fun _ ended => by cases ended⟩
  have work_eq : work = matchIdsRequiringCanonicalWork selecting.ingest ids := selected _ rfl
  apply ensures_then (makes_frame (fetchDiscovered_makes (single distinct))
    (uses_of_watch (fetchDiscovered_follows (single distinct))))
  rintro ⟨batch, progress⟩ fetching ⟨fetchFrame, fetched⟩
  apply ensures_then (makes_frame resumeDiscovered_makes (uses_of_watch resumeDiscovered_follows))
  rintro ⟨resume, progress⟩ last ⟨resumeFrame, resumed⟩
  have frame := frame.trans (fetchFrame.trans resumeFrame)
  dsimp only
  cases both : drainErrors batch resume with
  | some error =>
      apply ensures_done
      exact ⟨frame, fun _ ended => by cases ended⟩
  | none =>
      have finished : ∀ id ∈ last.ids key, leftUnfinished (last.ingest id) = false := by
        intro id member
        rw [frame.ids, ← whole] at member
        have positive : 0 < id := (mem_discoveredMatchIds.mp (whole ▸ member)).1
        by_cases open_ : leftUnfinished (selecting.ingest id) = true
        · have listed : id ∈ work.ids := work_eq ▸ mem_canonicalWork.mpr ⟨member, positive, open_⟩
          rcases batch with error | batchCount
          · simp [drainErrors_eq_none] at both
          · rcases resume with error | resumeCount
            · simp [drainErrors_eq_none] at both
            · rcases List.mem_append.mp listed with new | known
              · exact resumeFrame.keeps id (fetched batchCount rfl id new positive)
              · exact resumed resumeCount rfl id known positive
        · exact resumeFrame.keeps id (fetchFrame.keeps id (Bool.not_eq_true _ ▸ open_))
      apply ensures_call
      intro reply closed served meets
      have frame := frame.trans (frame_step ⟨last, .markComplete key _, reply, closed⟩
        ⟨decide_eq_true rfl, fun _ _ => HourOp.noConfusion⟩ served meets)
      rcases reply with error | _
      · apply ensures_done
        exact ⟨frame, fun _ ended => by cases ended⟩
      · apply ensures_done
        exact ⟨frame, fun _ _ => completed_shut served meets rfl finished⟩

theorem discoverHourInner_makes {source : String} (due : Due before key) :
    Makes before (discoverHourInner key source) fun outcome after => Frame key before after ∧
      ∀ value, outcome.1 = .ok value → Shut after key := by
  unfold discoverHourInner
  dsimp only
  split
  · apply ensures_done
    exact ⟨Frame.refl key before, fun _ ended => by cases ended⟩
  apply ensures_call
  intro reply claimed served meets
  have frame := frame_step ⟨before, .claimHour key source, reply, claimed⟩
    ⟨decide_eq_true rfl, fun _ _ => HourOp.noConfusion⟩ served meets
  rcases reply with error | _ | _
  · apply ensures_done
    exact ⟨frame, fun _ ended => by cases ended⟩
  · apply ensures_done
    exact ⟨frame, fun _ _ => refused_shut due served⟩
  apply ensures_then (hourMatchIds_makes (fetched_mono served due.known.1))
  rintro (error | ⟨discovered, ids⟩) middle ⟨readFrame, read⟩
  · apply ensures_done
    exact ⟨frame.trans readFrame, fun _ ended => by cases ended⟩
  obtain ⟨some_, whole⟩ := read discovered ids rfl
  have frame := frame.trans readFrame
  dsimp only
  rw [if_neg some_]
  apply ensures_mono (drainHour_makes whole)
  rintro outcome after ⟨drainFrame, shut⟩
  exact ⟨frame.trans drainFrame, shut⟩

/-- A call of `discover_hour` for an hour that may be claimed leaves it shut, and others alone. -/
theorem discoverHour_makes {source : String} (due : Due before key) :
    Makes before (discoverHour key source) fun _ after => Frame key before after ∧ Shut after key := by
  unfold discoverHour
  apply ensures_then (discoverHourInner_makes due)
  rintro ⟨error | result, progress⟩ middle ⟨frame, shut⟩
  · apply ensures_call
    intro reply after served meets
    have frame := frame.trans (frame_step ⟨middle, .markFailed key _ _ _, reply, after⟩
      ⟨decide_eq_true rfl, fun _ _ => HourOp.noConfusion⟩ served meets)
    cases reply <;> exact ensures_done ⟨frame, failed_shut meets⟩
  · exact ensures_done ⟨frame, shut result rfl⟩

/-- A shut hour whose search has succeeded may be claimed again. -/
theorem Shut.due (shut : Shut after key) (marked : after.fetched key = true) (succeeded : after.searched key = true) :
    Due after key := by
  obtain ⟨row, stored, fetched⟩ := (Option.any_eq_true _ _).mp marked
  simp only [HourStore.searched, stored, Option.any_some] at succeeded
  exact ⟨row, stored, fetched, succeeded, fun working => absurd working (shut row stored).1⟩

end Hour

end PaladinsCat.Backend
