import PaladinsCat.HourPrograms

/-!
What the two drains make of the replies. A drain ends in an error exactly if one of its
steps has failed or one of its matches has not been resolved, and until then it asks
for each match it was given: a match leaves `remaining` when it is answered for, or when
it was left out twice.
-/

namespace PaladinsCat.Backend

open Interleaving Program
open Hirez (Value)

/-! ### What a reply says -/

/-- Every error but the final one of a match. -/
def PipelineError.unresolved : PipelineError → Bool
  | .terminalFacts _ _ => false
  | _ => true

def unresolvedReply {α : Type} : Except PipelineError α → Bool
  | .ok _ => false
  | .error error => error.unresolved

def failedReply {α : Type} : Except PipelineError α → Bool
  | .ok _ => false
  | .error _ => true

/-- The outcomes that a batch call returned, as the drain takes them. -/
def batchOutcomes (matchIds : List Int) (response : Value) : Except PipelineError (List (Int × Value)) :=
  validateRequestedOutcomes matchIds [] ((asArray response).getD [response])

/-- The reply says that the step has failed, or that a match is not resolved by it. -/
def HourOp.failing : (op : HourOp) → op.Reply → Bool
  | .checkpointOutcome _ _ => fun reply : Except PipelineError Int => unresolvedReply reply
  | .recoverMatch _ _ => fun reply : Except PipelineError Unit => unresolvedReply reply
  | .matchDetailsBatch matchIds _ singletonPass => fun reply : Except PipelineError Value =>
      match reply with
      | .error _ => true
      | .ok response =>
          match batchOutcomes matchIds response with
          | .error _ => true
          | .ok outcomes => singletonPass && outcomes.isEmpty
  | _ => fun reply => failedReply reply

/-- What the drains of this hour call. -/
def HourOp.drains (key : HourKey) : HourOp → Bool
  | .refreshLease other => other = key
  | .canonicalWork _ | .matchDetailsBatch _ _ _ | .recordOutage _ | .checkpointOutcome _ _ | .completeStages _
  | .recoverMatch _ _ | .markUnavailable _ _ _ => true
  | _ => false

/-- The discipline of a drain: it notes whether anything has gone wrong. -/
def watch (key : HourKey) (troubled : Bool) (op : HourOp) (reply : op.Reply) : Option Bool :=
  if op.drains key then some (troubled || op.failing reply) else none

theorem watch_drains {key : HourKey} {op : HourOp} (drains : op.drains key = true) (troubled : Bool)
    (reply : op.Reply) : watch key troubled op reply = some (troubled || op.failing reply) :=
  if_pos drains

theorem watch_call {α : Type} {key : HourKey} {op : HourOp} {post : Bool → α → Prop}
    {rest : op.Reply → HourProgram α} {troubled : Bool} (drains : op.drains key = true)
    (each : ∀ reply, Follows (watch key) post (troubled || op.failing reply) (rest reply)) :
    Follows (watch key) post troubled (perform op >>= rest) :=
  fun reply => ⟨_, watch_drains drains _ _, each reply⟩

/-- What a program notes is the same after an earlier trouble. -/
theorem watch_later {α : Type} {key : HourKey} {post : Bool → α → Prop} {program : HourProgram α}
    {troubled : Bool} (follows : Follows (watch key) post troubled program) (earlier : Bool) :
    Follows (watch key) (fun after result => ∃ own, post own result ∧ after = (earlier || own))
      (earlier || troubled) program := by
  induction program generalizing troubled with
  | done result => exact ⟨troubled, follows, rfl⟩
  | call op next ih =>
      intro reply
      obtain ⟨after, allowed, rest⟩ := follows reply
      have drains : op.drains key = true := by
        by_contra other
        simp [watch, other] at allowed
      rw [watch_drains drains] at allowed
      cases allowed
      exact ⟨_, watch_drains drains _ _, Bool.or_assoc earlier _ _ ▸ ih reply rest⟩

/-! ### One match -/

/-- A part of a drain has ended in an error, in trouble, or the drain has a failure exactly if there
was trouble, but for the trouble that has not reached it yet. -/
def Settled (coming : Prop) (holds : Drain → Prop) (troubled : Bool)
    (outcome : Except PipelineError Drain × MatchDrainProgress) : Prop :=
  match outcome.1 with
  | .error _ => troubled = true
  | .ok drain => (troubled = true ↔ drain.failures ≠ [] ∨ coming) ∧ holds drain

theorem Settled.imp {coming : Prop} {holds weaker : Drain → Prop} (implied : ∀ drain, holds drain → weaker drain)
    (troubled : Bool) (outcome : Except PipelineError Drain × MatchDrainProgress)
    (settled : Settled coming holds troubled outcome) : Settled coming weaker troubled outcome := by
  rcases outcome with ⟨error | drain, progress⟩
  · exact settled
  · exact ⟨settled.1, implied drain settled.2⟩

section OneMatch
variable {key : HourKey} {queueId matchId : Int} {drain : Drain} {progress : MatchDrainProgress} {troubled : Bool}
  {coming : Prop}

theorem settleFailure_follows {error : PipelineError}
    (noted : troubled = true ↔ drain.failures ≠ [] ∨ error.unresolved = true ∨ coming) :
    Follows (watch key)
      (Settled coming fun settled => settled.remaining = drain.remaining ∧ settled.emitted = drain.emitted) troubled
      (settleFailure queueId matchId error drain progress) := by
  have unsettled : error.unresolved = true → Follows (watch key)
      (Settled coming fun settled => settled.remaining = drain.remaining ∧ settled.emitted = drain.emitted) troubled
      (.done (.ok (drain.fail ("match " ++ toString matchId ++ ": " ++ error.toString)), progress)) := by
    intro unresolved
    simp [Settled, Drain.fail, noted.mpr (Or.inr (Or.inl unresolved))]
  cases error with
  | terminalFacts id reason =>
      apply watch_call rfl
      intro reply
      cases reply with
      | error failure => exact Bool.or_true troubled
      | ok _ =>
          change Settled _ _ (troubled || false) (.ok drain.complete, progress.checkpoint id)
          exact ⟨by simpa [PipelineError.unresolved] using noted, rfl, rfl⟩
  | database message => exact unsettled rfl
  | relay failure => exact unsettled rfl
  | facts message => exact unsettled rfl

theorem settleOutcome_follows {outcome : Value} (noted : troubled = true ↔ drain.failures ≠ [])
    (fresh : matchId ∉ drain.emitted) :
    Follows (watch key)
      (Settled False fun settled =>
        settled.remaining = drain.remaining ∧ settled.emitted = insert matchId drain.emitted) troubled
      (settleOutcome queueId matchId outcome drain progress) := by
  rw [settleOutcome, if_neg fresh]
  apply watch_call rfl
  intro reply
  cases reply with
  | ok canonicalId =>
      simpa [Settled, HourOp.failing, unresolvedReply, Drain.complete] using noted
  | error error =>
      apply @settleFailure_follows key queueId matchId { drain with emitted := insert matchId drain.emitted }
      simp [HourOp.failing, unresolvedReply, noted]

end OneMatch

/-! ### One batch -/

section Batch
variable {key : HourKey} {queueId : Int}

theorem settleBatch_follows {batch : List Int} {byId : List (Int × Value)} {drain : Drain}
    {progress : MatchDrainProgress} {troubled : Bool} (noted : troubled = true ↔ drain.failures ≠ [])
    (distinct : batch.Nodup) (fresh : ∀ id ∈ batch, id ∉ drain.emitted) :
    Follows (watch key)
      (Settled False fun settled => settled.remaining = drain.remaining ∧
        ∀ id ∈ settled.emitted, id ∈ drain.emitted ∨ (id ∈ batch ∧ id ∈ byId.map (·.1))) troubled
      (settleBatch queueId batch byId drain progress) := by
  induction batch generalizing byId drain progress troubled with
  | nil => exact ⟨by simpa using noted, rfl, fun id member => Or.inl member⟩
  | cons matchId rest ih =>
      obtain ⟨absent, distinct⟩ := List.nodup_cons.mp distinct
      simp only [settleBatch]
      cases found : byId.lookup matchId with
      | none =>
          apply follows_mono _ (ih noted distinct fun id member => fresh id (List.mem_cons_of_mem _ member))
          apply Settled.imp
          rintro drained ⟨same, emitted⟩
          exact ⟨same, fun id member => (emitted id member).imp_right (And.imp_left (List.mem_cons_of_mem _))⟩
      | some outcome =>
          have answered : matchId ∈ byId.map (·.1) := by
            obtain ⟨front, back, rfl, -⟩ := List.lookup_eq_some_iff.mp found
            simp
          apply follows_then (settleOutcome_follows noted (fresh matchId List.mem_cons_self))
          rintro after ⟨error | drained, progress⟩ settled
          · exact settled
          · obtain ⟨flag, same, emitted⟩ := settled
            have later : ∀ id ∈ rest, id ∉ drained.emitted := by
              intro id member
              rw [emitted, Finset.mem_insert, not_or]
              exact ⟨fun known => absent (known ▸ member), fresh id (List.mem_cons_of_mem _ member)⟩
            apply follows_mono _ (ih (by simpa using flag) distinct later)
            apply Settled.imp
            rintro last ⟨kept, known⟩
            apply And.intro (kept.trans same)
            intro id member
            rcases known id member with earlier | ⟨inside, named⟩
            · rw [emitted, Finset.mem_insert] at earlier
              rcases earlier with rfl | earlier
              · exact Or.inr ⟨List.mem_cons_self, answered⟩
              · exact Or.inl earlier
            · apply Or.inr
              apply And.intro (List.mem_cons_of_mem _ inside)
              obtain ⟨entry, listed, rfl⟩ := List.mem_map.mp named
              exact List.mem_map_of_mem (List.mem_of_mem_filter listed)

/-- What is validated are outcomes of the answer, each under the id that it names and that was asked for. -/
theorem validateRequestedOutcomes_entries {requested seen : List Int} {outcomes : List Value}
    {validated : List (Int × Value)} (valid : validateRequestedOutcomes requested seen outcomes = .ok validated) :
    ∀ entry ∈ validated, extractMatchId entry.2 = some entry.1 ∧ entry.1 ∈ requested ∧ entry.2 ∈ outcomes := by
  induction outcomes generalizing seen validated with
  | nil =>
      cases valid
      simp
  | cons outcome rest ih =>
      simp only [validateRequestedOutcomes] at valid
      split at valid
      · cases valid
      · rename_i matchId named
        split_ifs at valid with known repeated
        cases tail : validateRequestedOutcomes requested (matchId :: seen) rest with
        | error error => simp [tail, Except.map] at valid
        | ok later =>
            simp only [tail, Except.map, Except.ok.injEq] at valid
            subst valid
            refine List.forall_mem_cons.mpr ⟨⟨named, by simpa using known, List.mem_cons_self⟩, fun entry member => ?_⟩
            obtain ⟨own, asked, given⟩ := ih tail entry member
            exact ⟨own, asked, List.mem_cons_of_mem _ given⟩

theorem validateRequestedOutcomes_requested {requested seen : List Int} {outcomes : List Value}
    {validated : List (Int × Value)} (valid : validateRequestedOutcomes requested seen outcomes = .ok validated) :
    ∀ id ∈ validated.map (·.1), id ∈ requested :=
  List.forall_mem_map.mpr fun entry member => (validateRequestedOutcomes_entries valid entry member).2.1

/-- The outcomes are for matches that were asked for; only a singleton pass that leaves its match out
is in trouble with them. -/
theorem requestOutcomes_follows {matchIds : List Int} {singletonPass troubled : Bool} :
    Follows (watch key)
      (fun after result =>
        match result with
        | .error _ => after = true
        | .ok outcomes => after = (troubled || (singletonPass && outcomes.isEmpty)) ∧
            ∀ id ∈ outcomes.map (·.1), id ∈ matchIds) troubled
      (requestOutcomes queueId matchIds singletonPass) := by
  apply watch_call rfl
  intro reply
  cases reply with
  | error error =>
      apply watch_call rfl
      intro recorded
      cases recorded <;> simp [HourOp.failing]
  | ok response =>
      change match batchOutcomes matchIds response with
        | .error _ => _
        | .ok outcomes => _
      cases valid : batchOutcomes matchIds response with
      | error error => simp [HourOp.failing, valid]
      | ok outcomes =>
          simp only [HourOp.failing, valid, true_and]
          exact validateRequestedOutcomes_requested valid

/-- The match that was left out leaves `remaining`, answered for or not. -/
theorem drainBlocker_follows {blocker : Int} {drain : Drain} {progress : MatchDrainProgress} {troubled : Bool}
    (noted : troubled = true ↔ drain.failures ≠ []) (fresh : blocker ∉ drain.emitted) :
    Follows (watch key)
      (Settled False fun settled => settled.remaining = drain.remaining.erase blocker ∧
        ∀ id ∈ settled.emitted, id ∈ drain.emitted ∨ id = blocker) troubled
      (drainBlocker queueId blocker drain progress) := by
  apply follows_then requestOutcomes_follows
  rintro after (error | outcomes) asked
  · exact asked
  · obtain ⟨rfl, -⟩ := asked
    cases outcomes with
    | nil => exact ⟨by simp, rfl, fun id member => Or.inl member⟩
    | cons first rest =>
        apply follows_then (settleBatch_follows (by simpa using noted) (List.nodup_singleton blocker)
          (by simpa using fresh))
        rintro last ⟨error | drained, progress⟩ settled
        · exact settled
        · obtain ⟨flag, same, emitted⟩ := settled
          exact ⟨flag, congrArg (·.erase blocker) same, fun id member =>
            (emitted id member).imp_right fun answered => List.mem_singleton.mp answered.1⟩

end Batch

/-! ### All rounds -/

/-- Between two rounds: no match that is left has been answered for. -/
structure Drain.Open (drain : Drain) : Prop where
  distinct : drain.remaining.Nodup
  fresh : ∀ id ∈ drain.remaining, id ∉ drain.emitted

/-- Answered matches leave. -/
theorem Drain.Open.answered {drain drained : Drain} {batch returned : List Int} (opened : drain.Open)
    (same : drained.remaining = drain.remaining)
    (emitted : ∀ id ∈ drained.emitted, id ∈ drain.emitted ∨ (id ∈ batch ∧ id ∈ returned)) :
    Drain.Open { drained with remaining := drained.remaining.diff (batch.filter (· ∈ returned)) } := by
  have distinct : drained.remaining.Nodup := same ▸ opened.distinct
  constructor
  · exact distinct.diff
  · intro id member known
    obtain ⟨listed, unanswered⟩ := distinct.mem_sdiff_iff.mp member
    rcases emitted id known with earlier | ⟨asked, answered⟩
    · exact opened.fresh id (same ▸ listed) earlier
    · exact unanswered (List.mem_filter.mpr ⟨asked, by simpa using answered⟩)

theorem Drain.Open.erased {drain drained : Drain} {blocker : Int} (opened : drain.Open)
    (same : drained.remaining = drain.remaining.erase blocker)
    (emitted : ∀ id ∈ drained.emitted, id ∈ drain.emitted ∨ id = blocker) : drained.Open := by
  constructor
  · rw [same]
    exact opened.distinct.erase blocker
  · intro id member known
    rw [same, opened.distinct.mem_erase_iff] at member
    rcases emitted id known with earlier | blocked
    · exact opened.fresh id member.2 earlier
    · exact member.1 blocked

theorem length_diff_lt {list removed : List Int} {element : Int} (distinct : list.Nodup) (listed : element ∈ list)
    (taken : element ∈ removed) : (list.diff removed).length < list.length := by
  have shorter := (List.diff_sublist list removed).length_le
  apply lt_of_le_of_ne shorter
  intro same
  have whole := (List.diff_sublist list removed).eq_of_length same
  exact (distinct.mem_sdiff_iff.mp (whole.symm ▸ listed)).2 taken

section Rounds
variable {key : HourKey} {drain : Drain} {progress : MatchDrainProgress} {troubled : Bool}

theorem drainRound_follows (noted : troubled = true ↔ drain.failures ≠ []) (opened : drain.Open)
    (work : drain.remaining ≠ []) :
    Follows (watch key)
      (Settled False fun settled => settled.Open ∧ settled.remaining.length < drain.remaining.length) troubled
      (drainRound key drain progress) := by
  apply watch_call (by simp [HourOp.drains])
  rintro (error | _)
  · exact Bool.or_true troubled
  · apply follows_then requestOutcomes_follows
    rintro after (error | outcomes) asked
    · exact asked
    · obtain ⟨rfl, -⟩ := asked
      apply follows_then (settleBatch_follows
        (by simpa [HourOp.failing, failedReply] using noted)
        (opened.distinct.sublist (List.take_sublist _ _))
        (fun id member => opened.fresh id (List.mem_of_mem_take member)))
      rintro last ⟨error | drained, progress⟩ settled
      · exact settled
      · obtain ⟨flag, same, emitted⟩ := settled
        have left := opened.answered same emitted
        have size := congrArg List.length same
        have distinct : drained.remaining.Nodup := same ▸ opened.distinct
        dsimp only
        split
        · rename_i all
          obtain ⟨first, rest, split⟩ := List.exists_cons_of_ne_nil work
          have inside : first ∈ drain.remaining.take matchDetailProtocolBatchSize := by
            simp [split, matchDetailProtocolBatchSize]
          have answered : first ∈ outcomes.map (·.1) := by simpa using List.find?_eq_none.mp all first inside
          have leaves : first ∈ (drain.remaining.take matchDetailProtocolBatchSize).filter
              (· ∈ outcomes.map (·.1)) := List.mem_filter.mpr ⟨inside, by simpa using answered⟩
          have shorter := length_diff_lt distinct (same ▸ List.mem_of_mem_take inside) leaves
          exact ⟨flag, left, shorter.trans_eq size⟩
        · rename_i blocker found
          have inside := List.mem_of_find?_eq_some found
          have unanswered : blocker ∉ outcomes.map (·.1) := by simpa using List.find?_some found
          have remains : blocker ∈ drained.remaining.diff
              ((drain.remaining.take matchDetailProtocolBatchSize).filter (· ∈ outcomes.map (·.1))) := by
            apply distinct.mem_sdiff_iff.mpr
            exact ⟨same ▸ List.mem_of_mem_take inside, fun answered =>
              unanswered (by simpa using (List.mem_filter.mp answered).2)⟩
          apply follows_mono _ (drainBlocker_follows (by simpa using flag) (left.fresh blocker remains))
          apply Settled.imp
          rintro last ⟨erased, known⟩
          have shorter := (List.diff_sublist drained.remaining
            ((drain.remaining.take matchDetailProtocolBatchSize).filter (· ∈ outcomes.map (·.1)))).length_le
          have fewer := List.length_erase_of_mem remains
          have some_ := List.length_pos_of_mem remains
          apply And.intro (left.erased erased known)
          rw [erased]
          dsimp only
          omega

/-- With as many rounds as there are matches the loop comes to its end. -/
theorem drainRounds_follows {rounds : Nat} (enough : drain.remaining.length ≤ rounds)
    (noted : troubled = true ↔ drain.failures ≠ []) (opened : drain.Open) :
    Follows (watch key) (Settled False fun settled => settled.remaining = []) troubled
      (drainRounds key rounds drain progress) := by
  induction rounds generalizing drain progress troubled with
  | zero => exact ⟨by simpa using noted, List.eq_nil_of_length_eq_zero (Nat.le_zero.mp enough)⟩
  | succ rounds ih =>
      rw [drainRounds]
      split_ifs with finished
      · exact ⟨by simpa using noted, finished⟩
      · apply follows_then (drainRound_follows noted opened finished)
        rintro after ⟨error | drained, progress⟩ settled
        · exact settled
        · obtain ⟨flag, left, shorter⟩ := settled
          exact ih (by omega) (by simpa using flag) left

end Rounds

/-! ### The drains -/

/-- The drain ends in an error exactly if there was trouble. -/
def Accounts (troubled : Bool) (outcome : Except PipelineError Nat × MatchDrainProgress) : Prop :=
  troubled = true ↔ ∃ error, outcome.1 = .error error

theorem drainResult_accounts {kind : String} {drain : Drain} {progress : MatchDrainProgress} {troubled : Bool}
    (noted : troubled = true ↔ drain.failures ≠ []) : Accounts troubled (drainResult kind drain, progress) := by
  rw [Accounts, noted, drainResult]
  cases drain.failures <;> simp

theorem fetchDiscovered_follows {key : HourKey} {matchIds : List Int} {progress : MatchDrainProgress}
    (distinct : matchIds.Nodup) :
    Follows (watch key) Accounts false (fetchDiscoveredCompletedContinuously key matchIds progress) := by
  unfold fetchDiscoveredCompletedContinuously
  apply follows_then (@drainRounds_follows key { remaining := matchIds.filter fun id => decide (0 < id) } progress
    false _ le_rfl (by simp) ⟨distinct.filter _, by simp⟩)
  rintro after ⟨error | drain, progress⟩ settled
  · exact ⟨fun _ => ⟨error, rfl⟩, fun _ => settled⟩
  · exact drainResult_accounts (by simpa using settled.1)

section Resume
variable {key : HourKey} {progress : MatchDrainProgress} {troubled : Bool}

theorem recoverWindow_follows {queueId : Int} {window : List Int} :
    Follows (watch key) (fun after outcomes =>
        after = (troubled || outcomes.any fun outcome => unresolvedReply outcome.2)) troubled
      (recoverWindow queueId window) := by
  induction window generalizing troubled with
  | nil => simp [recoverWindow]
  | cons matchId rest ih =>
      apply watch_call rfl
      intro reply
      apply follows_then ih
      rintro after outcomes rfl
      simp [HourOp.failing, Bool.or_assoc]

theorem settleRecovered_follows {queueId : Int} {outcomes : List (Int × Except PipelineError Unit)} {drain : Drain}
    (noted : troubled = true ↔ drain.failures ≠ [] ∨
      (outcomes.any fun outcome => unresolvedReply outcome.2) = true) :
    Follows (watch key) (Settled False fun _ => True) troubled (settleRecovered queueId outcomes drain progress) := by
  induction outcomes generalizing drain progress troubled with
  | nil => exact ⟨by simpa using noted, trivial⟩
  | cons outcome rest ih =>
      obtain ⟨matchId, error | _⟩ := outcome
      · have noted : troubled = true ↔ drain.failures ≠ [] ∨ error.unresolved = true ∨
            (rest.any fun outcome => unresolvedReply outcome.2) = true := by
          simpa only [List.any_cons, unresolvedReply, Bool.or_eq_true] using noted
        apply follows_then (settleFailure_follows noted)
        rintro after ⟨failure | drained, progress⟩ settled
        · exact settled
        · exact ih settled.1
      · exact ih (by simpa [unresolvedReply] using noted)

theorem resumeWindows_follows {windows : List (List Int)} {drain : Drain}
    (noted : troubled = true ↔ drain.failures ≠ []) :
    Follows (watch key) (Settled False fun _ => True) troubled (resumeWindows key windows drain progress) := by
  induction windows generalizing drain progress troubled with
  | nil => exact ⟨by simpa using noted, trivial⟩
  | cons window rest ih =>
      apply watch_call (by simp [HourOp.drains])
      rintro (error | _)
      · exact Bool.or_true troubled
      · apply follows_then recoverWindow_follows
        rintro after outcomes rfl
        have flag : (troubled || (outcomes.any fun outcome => unresolvedReply outcome.2)) = true ↔
            drain.failures ≠ [] ∨ (outcomes.any fun outcome => unresolvedReply outcome.2) = true := by
          rw [Bool.or_eq_true, noted]
        apply follows_then (settleRecovered_follows (by
          simpa [HourOp.failing, failedReply] using flag))
        rintro after ⟨error | drained, progress⟩ settled
        · exact settled
        · exact ih (by simpa using settled.1)

theorem requireCanonicalWork_follows {matchIds : List Int} :
    Follows (watch key)
      (fun after result =>
        match result with
        | .error _ => after = true
        | .ok _ => after = troubled) troubled
      (requireCanonicalWork matchIds) := by
  unfold requireCanonicalWork
  split_ifs
  · rfl
  · intro reply
    apply Exists.intro _
    apply And.intro (watch_drains rfl _ _)
    cases reply <;> simp [HourOp.failing, failedReply]

theorem resumeDiscovered_follows {matchIds : List Int} :
    Follows (watch key) Accounts false (resumeDiscoveredContinuously key matchIds progress) := by
  apply watch_call rfl
  rintro (error | completed)
  · simp [Accounts, HourOp.failing, failedReply]
  · apply follows_then requireCanonicalWork_follows
    rintro after (error | work) selected
    · simp [Accounts, selected]
    · apply follows_then (@resumeWindows_follows key progress after _ { completed } (by
        rw [selected]
        simp [HourOp.failing, failedReply]))
      rintro last ⟨error | drain, progress⟩ settled
      · exact ⟨fun _ => ⟨error, rfl⟩, fun _ => settled⟩
      · exact drainResult_accounts (by simpa using settled.1)

end Resume

end PaladinsCat.Backend
