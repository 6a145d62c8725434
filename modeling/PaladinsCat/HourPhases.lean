import PaladinsCat.HourDrains

/-!
The course of one worker through a queue-hour, as a discipline over its calls: it
claims the hour, reads the matches that are known, searches for them if there are none
and the search is still free, and drains them. At most one worker gets to search, and
none after the hour has been marked as searched.
-/

namespace PaladinsCat.Backend

open Interleaving Program
open Hirez (Value)

inductive HourStage where
  | waiting
  | refused
  | rejected
  | claimed
  | unsearched
  | granted
  | searched (observations : List MatchIdObservation)
  | emptied
  | draining (searched troubled : Bool)
  | closed
  | attempted
  | failed
  deriving DecidableEq

structure HourPhase where
  key : HourKey
  stage : HourStage
  deriving DecidableEq

/-- An operation on an hour is on this one. -/
def HourOp.concerns (key : HourKey) : HourOp → Bool
  | .claimHour other _ | .discoveredIds other | .claimSearch other | .searchProvider other
  | .recordDiscovery other _ | .refreshLease other | .markEmpty other | .insertEmptyCount other
  | .markComplete other _ | .markFailed other _ _ _ => other = key
  | _ => true

def failedOr {α : Type} (success : α → HourStage) : Except PipelineError α → HourStage
  | .ok value => success value
  | .error _ => .failed

def stageNext (key : HourKey) : HourStage → (op : HourOp) → op.Reply → Option HourStage
  | .waiting, .claimHour _ _ => fun reply : Except PipelineError Bool =>
      some (failedOr (fun owned => if owned then .claimed else .refused) reply)
  | .waiting, .markFailed _ _ _ _ => fun _ => some .rejected
  | .claimed, .discoveredIds _ => fun reply : Except PipelineError { ids : List Int // ids.Nodup } =>
      some (failedOr (fun known => if known.1 = [] then .unsearched else .draining false false) reply)
  | .unsearched, .claimSearch _ => fun reply : Except PipelineError Bool =>
      some (failedOr (fun granted => if granted then .granted else .attempted) reply)
  | .granted, .searchProvider _ => fun reply : Except PipelineError Value =>
      some (failedOr (fun discovery => .searched (parseObservations discovery)) reply)
  | .searched observations, .recordDiscovery _ recorded => fun reply : Except PipelineError Nat =>
      if recorded = observations then
        some (failedOr (fun _ => if observations = [] then .emptied else .draining true false) reply)
      else none
  | .emptied, .markEmpty _ | .closed, .insertEmptyCount _ => fun reply : Except PipelineError Unit =>
      some (failedOr (fun _ => .closed) reply)
  | .draining _ false, .markComplete _ _ => fun reply : Except PipelineError Unit =>
      some (failedOr (fun _ => .closed) reply)
  | .draining _ true, .markFailed _ _ _ _ | .failed, .markFailed _ _ _ _ => fun _ => some .failed
  | .attempted, .markFailed _ _ _ _ => fun reply : Except PipelineError Unit =>
      some (failedOr (fun _ => .attempted) reply)
  | .draining searched troubled, op => fun reply => (watch key troubled op reply).map (.draining searched)
  | _, _ => fun _ => none

def hourNext (phase : HourPhase) (op : HourOp) (reply : op.Reply) : Option HourPhase :=
  if op.concerns phase.key then (stageNext phase.key phase.stage op reply).map (HourPhase.mk phase.key) else none

section Drains
variable {key : HourKey}

theorem drains_concerns {op : HourOp} (drains : op.drains key = true) : op.concerns key = true := by
  cases op <;> simp_all [HourOp.drains, HourOp.concerns]

theorem stageNext_drains {op : HourOp} (drains : op.drains key = true) (searched troubled : Bool) (reply : op.Reply) :
    stageNext key (.draining searched troubled) op reply = (watch key troubled op reply).map (.draining searched) := by
  cases op <;> cases troubled <;> first | rfl | simp [HourOp.drains] at drains

end Drains

/-- The moves of a worker, one constructor for each call. -/
inductive StageMove (key : HourKey) : HourStage → (op : HourOp) → op.Reply → HourStage → Prop where
  | claim {source : String} (reply : Except PipelineError Bool) :
      StageMove key .waiting (.claimHour key source) reply
        (failedOr (fun owned => if owned then .claimed else .refused) reply)
  | reject {message : String} {rawCount stagedCount : Option Int} (reply : Except PipelineError Unit) :
      StageMove key .waiting (.markFailed key message rawCount stagedCount) reply .rejected
  | read (reply : Except PipelineError { ids : List Int // ids.Nodup }) :
      StageMove key .claimed (.discoveredIds key) reply
        (failedOr (fun known => if known.1 = [] then .unsearched else .draining false false) reply)
  | request (reply : Except PipelineError Bool) :
      StageMove key .unsearched (.claimSearch key) reply
        (failedOr (fun granted => if granted then .granted else .attempted) reply)
  | search (reply : Except PipelineError Value) :
      StageMove key .granted (.searchProvider key) reply
        (failedOr (fun discovery => .searched (parseObservations discovery)) reply)
  | record {observations : List MatchIdObservation} (reply : Except PipelineError Nat) :
      StageMove key (.searched observations) (.recordDiscovery key observations) reply
        (failedOr (fun _ => if observations = [] then .emptied else .draining true false) reply)
  | empty (reply : Except PipelineError Unit) :
      StageMove key .emptied (.markEmpty key) reply (failedOr (fun _ => .closed) reply)
  | count (reply : Except PipelineError Unit) :
      StageMove key .closed (.insertEmptyCount key) reply (failedOr (fun _ => .closed) reply)
  | complete {searched : Bool} {totalMatches : Int} (reply : Except PipelineError Unit) :
      StageMove key (.draining searched false) (.markComplete key totalMatches) reply
        (failedOr (fun _ => .closed) reply)
  | abandon {searched : Bool} {message : String} {rawCount stagedCount : Option Int}
      (reply : Except PipelineError Unit) :
      StageMove key (.draining searched true) (.markFailed key message rawCount stagedCount) reply .failed
  | report {message : String} {rawCount stagedCount : Option Int} (reply : Except PipelineError Unit) :
      StageMove key .failed (.markFailed key message rawCount stagedCount) reply .failed
  | giveUp {message : String} {rawCount stagedCount : Option Int} (reply : Except PipelineError Unit) :
      StageMove key .attempted (.markFailed key message rawCount stagedCount) reply
        (failedOr (fun _ => .attempted) reply)
  | drain {searched troubled : Bool} {op : HourOp} (drains : op.drains key = true) (reply : op.Reply) :
      StageMove key (.draining searched troubled) op reply (.draining searched (troubled || op.failing reply))

theorem stage_move {key : HourKey} {stage next : HourStage} {op : HourOp} {reply : op.Reply}
    (concerns : op.concerns key = true) (stepped : stageNext key stage op reply = some next) :
    StageMove key stage op reply next := by
  cases stage with
  | waiting =>
      cases op with
      | claimHour target source =>
          obtain rfl : target = key := by simpa [HourOp.concerns] using concerns
          cases stepped
          exact .claim reply
      | markFailed target message rawCount stagedCount =>
          obtain rfl : target = key := by simpa [HourOp.concerns] using concerns
          cases stepped
          exact .reject reply
      | _ => cases stepped
  | claimed =>
      cases op with
      | discoveredIds target =>
          obtain rfl : target = key := by simpa [HourOp.concerns] using concerns
          cases stepped
          exact .read reply
      | _ => cases stepped
  | unsearched =>
      cases op with
      | claimSearch target =>
          obtain rfl : target = key := by simpa [HourOp.concerns] using concerns
          cases stepped
          exact .request reply
      | _ => cases stepped
  | granted =>
      cases op with
      | searchProvider target =>
          obtain rfl : target = key := by simpa [HourOp.concerns] using concerns
          cases stepped
          exact .search reply
      | _ => cases stepped
  | searched observations =>
      cases op with
      | recordDiscovery target recorded =>
          obtain rfl : target = key := by simpa [HourOp.concerns] using concerns
          simp only [stageNext] at stepped
          split at stepped
          · rename_i same
            subst same
            cases stepped
            exact .record reply
          · cases stepped
      | _ => cases stepped
  | emptied =>
      cases op with
      | markEmpty target =>
          obtain rfl : target = key := by simpa [HourOp.concerns] using concerns
          cases stepped
          exact .empty reply
      | _ => cases stepped
  | closed =>
      cases op with
      | insertEmptyCount target =>
          obtain rfl : target = key := by simpa [HourOp.concerns] using concerns
          cases stepped
          exact .count reply
      | _ => cases stepped
  | failed =>
      cases op with
      | markFailed target message rawCount stagedCount =>
          obtain rfl : target = key := by simpa [HourOp.concerns] using concerns
          cases stepped
          exact .report reply
      | _ => cases stepped
  | attempted =>
      cases op with
      | markFailed target message rawCount stagedCount =>
          obtain rfl : target = key := by simpa [HourOp.concerns] using concerns
          cases stepped
          exact .giveUp reply
      | _ => cases stepped
  | draining searched troubled =>
      by_cases drains : op.drains key = true
      · rw [stageNext_drains drains, watch_drains drains] at stepped
        cases stepped
        exact .drain drains reply
      · cases troubled with
        | false =>
            cases op with
            | markComplete target totalMatches =>
                obtain rfl : target = key := by simpa [HourOp.concerns] using concerns
                cases stepped
                exact .complete reply
            | _ => simp_all [stageNext, watch, HourOp.drains]
        | true =>
            cases op with
            | markFailed target message rawCount stagedCount =>
                obtain rfl : target = key := by simpa [HourOp.concerns] using concerns
                cases stepped
                exact .abandon reply
            | _ => simp_all [stageNext, watch, HourOp.drains]
  | _ => cases op <;> cases stepped

theorem hour_move {phase after : HourPhase} {op : HourOp} {reply : op.Reply}
    (moved : hourNext phase op reply = some after) :
    after.key = phase.key ∧ StageMove phase.key phase.stage op reply after.stage := by
  simp only [hourNext] at moved
  split at moved
  · rename_i concerns
    obtain ⟨next, stepped, rfl⟩ := Option.map_eq_some_iff.mp moved
    exact ⟨rfl, stage_move concerns stepped⟩
  · cases moved

/-- How `discover_hour` ends. -/
def hourEnds (phase : HourPhase) (result : Except PipelineError DiscoveryResult) : Prop :=
  match phase.stage with
  | .closed => ∃ value, result = .ok value
  | .attempted => result = .error attemptedWithoutIds
  | .refused | .rejected | .failed => True
  | _ => False

/-! ### The worker follows it -/

section Follows
variable {α : Type} {key : HourKey} {post : HourPhase → α → Prop}

theorem hour_call {op : HourOp} {rest : op.Reply → HourProgram α} {stage : HourStage}
    (concerns : op.concerns key = true) (after : op.Reply → HourStage)
    (allowed : ∀ reply, stageNext key stage op reply = some (after reply))
    (each : ∀ reply, Follows hourNext post ⟨key, after reply⟩ (rest reply)) :
    Follows hourNext post ⟨key, stage⟩ (perform op >>= rest) := by
  intro reply
  exact ⟨⟨key, after reply⟩, by simp [hourNext, concerns, allowed], each reply⟩

/-- A drain stays in its stage, and notes there whether it is in trouble. -/
theorem drain_follows {drained : Bool → α → Prop} {program : HourProgram α} {searched troubled : Bool}
    (follows : Follows (watch key) drained troubled program) :
    Follows hourNext (fun phase result => ∃ after, phase = ⟨key, .draining searched after⟩ ∧ drained after result)
      ⟨key, .draining searched troubled⟩ program := by
  induction program generalizing troubled with
  | done result => exact ⟨troubled, rfl, follows⟩
  | call op next ih =>
      intro reply
      obtain ⟨after, allowed, rest⟩ := follows reply
      have drains : op.drains key = true := by
        by_contra other
        simp [watch, other] at allowed
      apply Exists.intro ⟨key, .draining searched after⟩
      apply And.intro _ (ih reply rest)
      simp [hourNext, drains_concerns drains, stageNext_drains drains, allowed]

end Follows

section Parts
variable {key : HourKey}

theorem observeRows_fresh {seen : List Int} {rows : List Value} :
    ∀ observation ∈ observeRows seen rows, observation.matchId ∉ seen := by
  induction rows generalizing seen with
  | nil => simp [observeRows]
  | cons row rest ih =>
      simp only [observeRows]
      split_ifs with skipped
      · exact ih
      · simp only [not_or] at skipped
        intro observation member
        rcases List.mem_cons.mp member with rfl | later
        · exact skipped.2
        · exact fun known => ih observation later (List.mem_cons_of_mem _ known)

/-- The provider's answer is taken without repeats. -/
theorem observeRows_nodup (seen : List Int) (rows : List Value) :
    ((observeRows seen rows).map (·.matchId)).Nodup := by
  induction rows generalizing seen with
  | nil => simp [observeRows]
  | cons row rest ih =>
      simp only [observeRows]
      split_ifs
      · exact ih seen
      · rw [List.map_cons, List.nodup_cons]
        apply And.intro _ (ih _)
        intro repeated
        obtain ⟨observation, later, same⟩ := List.mem_map.mp repeated
        exact observeRows_fresh observation later (same ▸ List.mem_cons_self)

/-- The stages in which a worker has its matches, or has nothing to do but to mark the failure. -/
theorem hourMatchIds_follows :
    Follows hourNext
      (fun phase result => phase.key = key ∧
        match result with
        | .error error => phase.stage = .failed ∨ phase.stage = .attempted ∧ error = attemptedWithoutIds
        | .ok (_, ids) => ids.Nodup ∧
            (phase.stage = .emptied ∧ ids = [] ∨ ∃ searched, phase.stage = .draining searched false ∧ ids ≠ []))
      ⟨key, .claimed⟩ (hourMatchIds key) := by
  apply hour_call (by simp [HourOp.concerns]) _ (fun _ => rfl)
  rintro (error | ⟨known, distinct⟩)
  · exact ⟨rfl, Or.inl rfl⟩
  · dsimp only [failedOr]
    by_cases some_ : known = []
    · rw [if_pos some_, if_neg (not_not.mpr some_)]
      apply hour_call (by simp [HourOp.concerns]) _ (fun _ => rfl)
      rintro (error | _ | _)
      · exact ⟨rfl, Or.inl rfl⟩
      · exact ⟨rfl, Or.inr ⟨rfl, rfl⟩⟩
      · apply hour_call (by simp [HourOp.concerns]) _ (fun _ => rfl)
        rintro (error | discovery)
        · exact ⟨rfl, Or.inl rfl⟩
        · dsimp only [failedOr]
          apply hour_call (by simp [HourOp.concerns])
            (failedOr fun _ => if parseObservations discovery = [] then .emptied else .draining true false)
            (by simp [stageNext])
          rintro (error | count)
          · exact ⟨rfl, Or.inl rfl⟩
          · apply And.intro rfl
            apply And.intro (observeRows_nodup _ _)
            cases found : parseObservations discovery with
            | nil => exact Or.inl ⟨rfl, rfl⟩
            | cons first rest => exact Or.inr ⟨true, rfl, List.cons_ne_nil _ _⟩
    · rw [if_neg some_, if_pos some_]
      exact ⟨rfl, distinct, Or.inr ⟨false, rfl, some_⟩⟩

theorem closeEmpty_follows {result : DiscoveryResult} :
    Follows hourNext
      (fun phase outcome => phase.key = key ∧
        match outcome with
        | .error _ => phase.stage = .failed
        | .ok _ => phase.stage = .closed)
      ⟨key, .emptied⟩ (closeEmpty key result) := by
  apply hour_call (by simp [HourOp.concerns]) _ (fun _ => rfl)
  rintro (error | _)
  · exact ⟨rfl, rfl⟩
  · apply hour_call (by simp [HourOp.concerns]) _ (fun _ => rfl)
    rintro (error | _)
    · exact ⟨rfl, rfl⟩
    · exact ⟨rfl, rfl⟩

theorem drainErrors_eq_none {first second : Except PipelineError Nat} :
    drainErrors first second = none ↔ (¬ ∃ error, first = .error error) ∧ ¬ ∃ error, second = .error error := by
  cases first <;> cases second <;> simp [drainErrors]

/-- Both drains are through without trouble, and the hour is closed; or there was trouble, and it is
not. -/
theorem drainHour_follows {ids : List Int} {result : DiscoveryResult} {searched : Bool} (distinct : ids.Nodup) :
    Follows hourNext
      (fun phase outcome => phase.key = key ∧
        match outcome.1 with
        | .error _ => phase.stage = .failed ∨ phase.stage = .draining searched true
        | .ok _ => phase.stage = .closed)
      ⟨key, .draining searched false⟩ (drainHour key ids result) := by
  apply follows_then (drain_follows requireCanonicalWork_follows)
  rintro _ (error | ⟨work, selected⟩) ⟨after, rfl, rfl⟩
  · exact ⟨rfl, Or.inr rfl⟩
  · apply follows_then (drain_follows (fetchDiscovered_follows (selected distinct)))
    rintro _ ⟨batch, progress⟩ ⟨troubled, rfl, accounts⟩
    have resumes := @drain_follows _ key _ _ searched _
      (watch_later (@resumeDiscovered_follows key progress work.resumeIds) troubled)
    rw [Bool.or_false] at resumes
    apply follows_then resumes
    rintro _ ⟨resume, progress⟩ ⟨_, rfl, own, resumed, rfl⟩
    simp only [Accounts] at accounts resumed
    dsimp only
    cases both : drainErrors batch resume with
    | some error =>
        have trouble : (troubled || own) = true := by
          rw [Bool.or_eq_true, accounts, resumed]
          by_contra fine
          rw [not_or] at fine
          rw [drainErrors_eq_none.mpr fine] at both
          cases both
        rw [trouble]
        exact ⟨rfl, Or.inr rfl⟩
    | none =>
        obtain ⟨first, second⟩ := drainErrors_eq_none.mp both
        have fine : (troubled || own) = false := by
          rw [← accounts, Bool.not_eq_true] at first
          rw [← resumed, Bool.not_eq_true] at second
          rw [first, second, Bool.or_false]
        rw [fine]
        apply hour_call (by simp [HourOp.concerns]) _ (fun _ => rfl)
        rintro (error | _)
        · exact ⟨rfl, Or.inl rfl⟩
        · exact ⟨rfl, rfl⟩

theorem discoverHourInner_follows {source : String} :
    Follows hourNext
      (fun phase outcome => phase.key = key ∧
        match outcome.1 with
        | .error error => phase.stage = .waiting ∨ phase.stage = .failed ∨ phase.stage = .draining true true ∨
            phase.stage = .draining false true ∨ phase.stage = .attempted ∧ error = attemptedWithoutIds
        | .ok _ => phase.stage = .refused ∨ phase.stage = .closed)
      ⟨key, .waiting⟩ (discoverHourInner key source) := by
  unfold discoverHourInner
  dsimp only
  split_ifs
  · exact ⟨rfl, Or.inl rfl⟩
  · apply hour_call (by simp [HourOp.concerns]) _ (fun _ => rfl)
    rintro (error | _ | _)
    · exact ⟨rfl, Or.inr (Or.inl rfl)⟩
    · exact ⟨rfl, Or.inl rfl⟩
    · apply follows_then hourMatchIds_follows
      rintro ⟨_, stage⟩ (error | ⟨discovered, ids⟩) ⟨rfl, reached⟩
      · rcases reached with failed | ⟨attempted, known⟩
        · exact ⟨rfl, Or.inr (Or.inl failed)⟩
        · exact ⟨rfl, Or.inr (Or.inr (Or.inr (Or.inr ⟨attempted, known⟩)))⟩
      · obtain ⟨distinct, ⟨here, empty⟩ | ⟨searched, here, some_⟩⟩ := reached
        · dsimp only at here ⊢
          rw [if_pos empty, here]
          apply follows_then closeEmpty_follows
          rintro ⟨_, last⟩ (error | result) ⟨rfl, closed⟩
          · exact ⟨rfl, Or.inr (Or.inl closed)⟩
          · exact ⟨rfl, Or.inr closed⟩
        · dsimp only at here ⊢
          rw [if_neg some_, here]
          apply follows_mono _ (drainHour_follows distinct)
          rintro ⟨_, last⟩ ⟨error | result, progress⟩ ⟨rfl, closed⟩
          · rcases closed with failed | troubled
            · exact ⟨rfl, Or.inr (Or.inl failed)⟩
            · cases searched
              · exact ⟨rfl, Or.inr (Or.inr (Or.inr (Or.inl troubled)))⟩
              · exact ⟨rfl, Or.inr (Or.inr (Or.inl troubled))⟩
          · exact ⟨rfl, Or.inr closed⟩

end Parts

theorem discoverHour_follows (call : HourCall) :
    Follows hourNext hourEnds ⟨call.key, .waiting⟩ (hourCode call) := by
  obtain ⟨key, source⟩ := call
  apply follows_then discoverHourInner_follows
  rintro ⟨_, stage⟩ ⟨error | result, progress⟩ ⟨rfl, reached⟩
  · dsimp only at reached
    rcases reached with rfl | rfl | rfl | rfl | ⟨rfl, rfl⟩
    · apply hour_call (by simp [HourOp.concerns]) _ (fun _ => rfl)
      rintro (_ | _) <;> trivial
    · apply hour_call (by simp [HourOp.concerns]) _ (fun _ => rfl)
      rintro (_ | _) <;> trivial
    · apply hour_call (by simp [HourOp.concerns]) _ (fun _ => rfl)
      rintro (_ | _) <;> trivial
    · apply hour_call (by simp [HourOp.concerns]) _ (fun _ => rfl)
      rintro (_ | _) <;> trivial
    · apply hour_call (by simp [HourOp.concerns]) _ (fun _ => rfl)
      rintro (_ | _)
      · trivial
      · rfl
  · dsimp only at reached
    rcases reached with rfl | rfl
    · trivial
    · exact ⟨result, rfl⟩

end PaladinsCat.Backend
