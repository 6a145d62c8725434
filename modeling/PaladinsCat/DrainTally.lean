import PaladinsCat.Ensures
import PaladinsCat.HourDrains

/-!
The account of a drain of new matches, kept call by call: how many rounds it takes, and which
matches it checkpoints or records as final. The relay may answer whatever it likes; what
`checkpoint_canonical_outcome` makes of an outcome is bound by what the outcome decodes to.
-/

namespace PaladinsCat.Backend

open Interleaving Program
open Hirez (Value)

/-! ### The account -/

/-- The rounds so far, what the relay was asked for last, the matches that were
checkpointed or recorded as final, and those checkpointed that were not in the request. -/
structure Tally where
  rounds : Nat := 0
  request : List Int := []
  accounted : List Int := []
  foreign : List Int := []

namespace Tally

variable (tally : Tally)

def checkpoint (matchId : Int) : Tally :=
  { tally with
    accounted := tally.accounted ++ [matchId]
    foreign := if matchId ∈ tally.request then tally.foreign else tally.foreign ++ [matchId] }

def note : (op : HourOp) → op.Reply → Tally
  | .refreshLease _ => fun _ => { tally with rounds := tally.rounds + 1 }
  | .matchDetailsBatch matchIds _ _ => fun _ => { tally with request := matchIds }
  | .checkpointOutcome _ _ => fun reply : Except PipelineError Int =>
      match reply with
      | .ok matchId => tally.checkpoint matchId
      | .error _ => tally
  | .markUnavailable matchId _ _ => fun reply : Except PipelineError Unit =>
      match reply with
      | .ok () => { tally with accounted := tally.accounted ++ [matchId] }
      | .error _ => tally
  | _ => fun _ => tally

end Tally

/-- What a call may be told: a checkpoint is one of the facts of its outcome, and its errors
are never final. -/
def HourOp.Told : (op : HourOp) → op.Reply → Prop
  | .checkpointOutcome outcome queueId => fun reply : Except PipelineError Int =>
      match reply with
      | .ok matchId => ∃ facts, hourlyFacts outcome queueId = .ok facts ∧ facts.matchId = matchId
      | .error error => error.unresolved = true
  | _ => fun _ => True

/-- What answers the drain, with the account as its only state. -/
def accounts : Handler Tally HourOp HourOp.Reply :=
  fun before op reply after => op.Told reply ∧ after = before.note op reply

/-- The facts of the outcome, if it has any for this queue, are of the match that it names itself. -/
def NamesItsMatch (queueId : Int) (outcome : Value) : Prop :=
  ∀ facts, hourlyFacts outcome queueId = .ok facts → extractMatchId outcome = some facts.matchId

/-- Every outcome that the relay returns does. -/
def HourOp.Consistent : (op : HourOp) → op.Reply → Prop
  | .matchDetailsBatch _ queueId _ => fun reply : Except PipelineError Value =>
      match reply with
      | .ok response => ∀ outcome ∈ (asArray response).getD [response], NamesItsMatch queueId outcome
      | .error _ => True
  | _ => fun _ => True

/-- A drain whose relay names the matches of its facts. -/
def Tells {α : Type} (tally : Tally) (program : HourProgram α) (post : α → Tally → Prop) : Prop :=
  Ensures accounts (fun event => event.op.Consistent event.reply) tally program post

theorem tells_call {α : Type} {tally : Tally} {op : HourOp} {rest : op.Reply → HourProgram α}
    {post : α → Tally → Prop}
    (each : ∀ reply, op.Told reply → op.Consistent reply → Tells (tally.note op reply) (rest reply) post) :
    Tells tally (perform op >>= rest) post := by
  apply ensures_call
  rintro reply _ ⟨told, rfl⟩ consistent
  exact each reply told consistent

/-! ### The matches of a batch -/

/-- An outcome as it is validated for a request. -/
structure Requested (queueId : Int) (request : List Int) (entry : Int × Value) : Prop where
  named : extractMatchId entry.2 = some entry.1
  listed : entry.1 ∈ request
  consistent : NamesItsMatch queueId entry.2

/-- A part of a drain has been through these matches, in this order. -/
structure Through (ids : List Int) (drain : Drain) (tally : Tally)
    (outcome : Except PipelineError Drain × MatchDrainProgress) (after : Tally) : Prop where
  rounds : after.rounds = tally.rounds
  request : after.request = tally.request
  foreign : after.foreign = tally.foreign
  remaining : ∀ settled, outcome.1 = .ok settled → settled.remaining = drain.remaining
  accounted : ∀ settled, outcome.1 = .ok settled → settled.failures = [] →
    drain.failures = [] ∧ after.accounted = tally.accounted ++ ids ∧ settled.completed = drain.completed + ids.length

section
variable {queueId : Int} {drain : Drain} {progress : MatchDrainProgress} {tally : Tally}

theorem settleOutcome_tells {matchId : Int} {outcome : Value}
    (requested : Requested queueId tally.request (matchId, outcome)) :
    Tells tally (settleOutcome queueId matchId outcome drain progress) (Through [matchId] drain tally) := by
  unfold settleOutcome
  split_ifs with known
  · exact ensures_done ⟨rfl, rfl, rfl, by simp, by simp⟩
  · apply tells_call
    rintro (error | canonicalId) told -
    · -- no error of a checkpoint is final, so the match is a failure of the drain
      have unsettled : settleFailure queueId matchId error { drain with emitted := insert matchId drain.emitted }
          progress = .done (.ok (Drain.fail { drain with emitted := insert matchId drain.emitted }
            ("match " ++ toString matchId ++ ": " ++ error.toString)), progress) := by
        cases error with
        | terminalFacts id reason => cases told
        | _ => rfl
      dsimp only
      rw [unsettled]
      apply ensures_done
      refine ⟨rfl, rfl, rfl, ?_, ?_⟩
      · rintro settled ⟨⟩
        rfl
      · rintro settled ⟨⟩ clean
        simp at clean
    · obtain ⟨facts, decoded, rfl⟩ := told
      have own : matchId = facts.matchId :=
        Option.some.inj (requested.named.symm.trans (requested.consistent facts decoded))
      have listed : facts.matchId ∈ tally.request := own ▸ requested.listed
      apply ensures_done
      refine ⟨rfl, rfl, if_pos listed, ?_, ?_⟩
      · rintro settled ⟨⟩
        rfl
      · rintro settled ⟨⟩ clean
        exact ⟨clean, congrArg (tally.accounted ++ [·]) own.symm, rfl⟩

theorem Through.append {ids more : List Int} {settled : Drain} {middle after : Tally} {progress : MatchDrainProgress}
    {outcome : Except PipelineError Drain × MatchDrainProgress}
    (first : Through ids drain tally (.ok settled, progress) middle)
    (second : Through more settled middle outcome after) : Through (ids ++ more) drain tally outcome after := by
  refine ⟨second.rounds.trans first.rounds, second.request.trans first.request, second.foreign.trans first.foreign,
    ?_, ?_⟩
  · intro last ended
    exact (second.remaining last ended).trans (first.remaining settled rfl)
  · intro last ended clean
    obtain ⟨fine, listed, count⟩ := second.accounted last ended clean
    obtain ⟨before, earlier, counted⟩ := first.accounted settled rfl fine
    refine ⟨before, ?_, ?_⟩
    · rw [listed, earlier, List.append_assoc]
    · rw [count, counted, List.length_append]
      omega

theorem Through.failed {ids : List Int} {error : PipelineError} {middle : Tally} {progress : MatchDrainProgress}
    (through : Through ids drain tally (.error error, progress) middle) (others : List Int) :
    Through others drain tally (.error error, progress) middle :=
  ⟨through.rounds, through.request, through.foreign, by simp, by simp⟩

/-- The batch goes through the matches that were answered for. -/
theorem settleBatch_tells {batch : List Int} {byId : List (Int × Value)} (distinct : batch.Nodup)
    (requested : ∀ entry ∈ byId, Requested queueId tally.request entry) :
    Tells tally (settleBatch queueId batch byId drain progress)
      (Through (batch.filter (· ∈ byId.map (·.1))) drain tally) := by
  induction batch generalizing byId drain progress tally with
  | nil =>
      apply ensures_done
      refine ⟨rfl, rfl, rfl, ?_, ?_⟩
      · rintro settled ⟨⟩
        rfl
      · rintro settled ⟨⟩ clean
        exact ⟨clean, by simp, rfl⟩
  | cons matchId rest ih =>
      obtain ⟨absent, distinct⟩ := List.nodup_cons.mp distinct
      unfold settleBatch
      cases found : byId.lookup matchId with
      | none =>
          have unanswered : matchId ∉ byId.map (·.1) := by
            intro answered
            obtain ⟨entry, inside, rfl⟩ := List.mem_map.mp answered
            have other := List.lookup_eq_none_iff.mp found entry inside
            simp at other
          rw [List.filter_cons_of_neg (by simpa using unanswered)]
          exact ih distinct requested
      | some outcome =>
          have member : (matchId, outcome) ∈ byId := by
            obtain ⟨front, back, rfl, -⟩ := List.lookup_eq_some_iff.mp found
            simp
          have answered : matchId ∈ byId.map (·.1) := List.mem_map_of_mem member
          -- the entry that is taken out is of none of the later matches
          have later : rest.filter (· ∈ (byId.filter fun entry => entry.1 ≠ matchId).map (·.1)) =
              rest.filter (· ∈ byId.map (·.1)) := by
            apply List.filter_congr
            intro id listed
            rw [decide_eq_decide]
            constructor
            · intro kept
              obtain ⟨entry, inside, rfl⟩ := List.mem_map.mp kept
              exact List.mem_map_of_mem (List.mem_of_mem_filter inside)
            · intro known
              obtain ⟨entry, inside, rfl⟩ := List.mem_map.mp known
              have other : entry.1 ≠ matchId := fun same => absent (same ▸ listed)
              exact List.mem_map_of_mem (List.mem_filter.mpr ⟨inside, by simpa using other⟩)
          rw [List.filter_cons_of_pos (by simpa using answered)]
          apply ensures_then (settleOutcome_tells (requested _ member))
          rintro ⟨error | settled, progress⟩ middle through
          · exact ensures_done (through.failed _)
          · have still : ∀ entry ∈ byId.filter fun entry => entry.1 ≠ matchId, Requested queueId middle.request entry :=
              fun entry listed => through.request ▸ requested entry (List.mem_of_mem_filter listed)
            apply ensures_mono (ih distinct still)
            rintro outcome after others
            rw [later] at others
            exact through.append others

theorem requested_of_valid {request seen : List Int} {outcomes : List Value}
    {validated : List (Int × Value)} (valid : validateRequestedOutcomes request seen outcomes = .ok validated)
    (consistent : ∀ outcome ∈ outcomes, NamesItsMatch queueId outcome) :
    ∀ entry ∈ validated, Requested queueId request entry := by
  intro entry member
  obtain ⟨named, asked, given⟩ := validateRequestedOutcomes_entries valid entry member
  exact ⟨named, asked, consistent entry.2 given⟩

theorem requestOutcomes_tells {matchIds : List Int} {singletonPass : Bool} :
    Tells tally (requestOutcomes queueId matchIds singletonPass) fun result after =>
      after = { tally with request := matchIds } ∧
        ∀ outcomes, result = .ok outcomes → ∀ entry ∈ outcomes, Requested queueId matchIds entry := by
  apply tells_call
  rintro (error | response) - consistent
  · apply tells_call
    rintro (failure | _) - -
    · exact ensures_done ⟨rfl, by simp⟩
    · exact ensures_done ⟨rfl, by simp⟩
  · apply ensures_done
    exact ⟨rfl, fun outcomes valid => requested_of_valid valid consistent⟩

/-- The match that was left out is gone through alone, or it is a failure. -/
theorem drainBlocker_tells {blocker : Int} :
    Tells tally (drainBlocker queueId blocker drain progress) fun outcome after =>
      after.rounds = tally.rounds ∧ after.foreign = tally.foreign ∧
        ∀ settled, outcome.1 = .ok settled → settled.remaining = drain.remaining.erase blocker ∧
          (settled.failures = [] → drain.failures = [] ∧ after.accounted = tally.accounted ++ [blocker] ∧
            settled.completed = drain.completed + 1) := by
  apply ensures_then requestOutcomes_tells
  rintro (error | outcomes) asked ⟨rfl, requested⟩
  · exact ensures_done ⟨rfl, rfl, by simp⟩
  · apply ensures_then (settleBatch_tells (List.nodup_singleton blocker) (requested outcomes rfl))
    rintro ⟨error | settled, progress⟩ after through
    · exact ensures_done ⟨through.rounds, through.foreign, by simp⟩
    · apply ensures_done
      refine ⟨through.rounds, through.foreign, ?_⟩
      rintro last ⟨⟩
      cases outcomes with
      | nil => exact ⟨congrArg (·.erase blocker) (through.remaining settled rfl), by simp⟩
      | cons first others =>
          refine ⟨congrArg (·.erase blocker) (through.remaining settled rfl), fun clean => ?_⟩
          have only : first.1 = blocker := List.mem_singleton.mp (requested _ rfl first List.mem_cons_self).listed
          have whole : [blocker].filter (· ∈ (first :: others).map (·.1)) = [blocker] := by simp [only]
          obtain ⟨fine, listed, count⟩ := through.accounted settled rfl clean
          rw [whole] at listed count
          exact ⟨fine, listed, count⟩

end

/-! ### All rounds -/

/-- Between two rounds of a drain of these matches. -/
structure Balanced (matchIds : List Int) (drain : Drain) (tally : Tally) : Prop where
  left : drain.remaining.Sublist matchIds
  rounds : tally.rounds + drain.remaining.length ≤ matchIds.length
  foreign : tally.foreign = []
  accounted : drain.failures = [] →
    drain.completed = tally.accounted.length ∧ (tally.accounted ++ drain.remaining).Perm matchIds

/-- However a part of the drain ends. -/
structure Bounded (matchIds : List Int) (tally : Tally) : Prop where
  rounds : tally.rounds ≤ matchIds.length
  foreign : tally.foreign = []

theorem Balanced.bounded {matchIds : List Int} {drain : Drain} {tally : Tally}
    (balanced : Balanced matchIds drain tally) : Bounded matchIds tally :=
  ⟨by have := balanced.rounds; omega, balanced.foreign⟩

section
variable {key : HourKey} {matchIds : List Int} {drain : Drain} {progress : MatchDrainProgress} {tally : Tally}

theorem append_diff_perm {list gone : List Int} (inside : gone.Sublist list) : (gone ++ list.diff gone).Perm list :=
  List.subperm_append_diff_self_of_count_le fun id _ => inside.count_le id

/-- What was gone through leaves what remains. -/
theorem Balanced.leave {settled : Drain} {after : Tally} {gone : List Int}
    (inside : gone.Sublist drain.remaining)
    (accounted : drain.failures = [] →
      drain.completed = tally.accounted.length ∧ (tally.accounted ++ drain.remaining).Perm matchIds)
    (through : settled.failures = [] → drain.failures = [] ∧ after.accounted = tally.accounted ++ gone ∧
      settled.completed = drain.completed + gone.length) (clean : settled.failures = []) :
    settled.completed = after.accounted.length ∧
      (after.accounted ++ drain.remaining.diff gone).Perm matchIds := by
  obtain ⟨fine, listed, count⟩ := through clean
  obtain ⟨counted, whole⟩ := accounted fine
  constructor
  · rw [count, listed, counted, List.length_append]
  · rw [listed, List.append_assoc]
    exact ((append_diff_perm inside).append_left _).trans whole

theorem drainRound_tells (distinct : matchIds.Nodup) (balanced : Balanced matchIds drain tally)
    (work : drain.remaining ≠ []) :
    Tells tally (drainRound key drain progress) fun outcome after =>
      Bounded matchIds after ∧ ∀ settled, outcome.1 = .ok settled → Balanced matchIds settled after := by
  have room : tally.rounds + 1 ≤ matchIds.length := by
    have some_ := List.length_pos_of_ne_nil work
    have bound := balanced.rounds
    omega
  have unique : drain.remaining.Nodup := distinct.sublist balanced.left
  apply tells_call
  rintro (error | _) - -
  · exact ensures_done ⟨⟨room, balanced.foreign⟩, by simp⟩
  · apply ensures_then requestOutcomes_tells
    rintro (error | outcomes) asked ⟨rfl, requested⟩
    · exact ensures_done ⟨⟨room, balanced.foreign⟩, by simp⟩
    · apply ensures_then (settleBatch_tells (unique.sublist (List.take_sublist _ _)) (requested outcomes rfl))
      rintro ⟨error | settled, progress⟩ after through
      · exact ensures_done ⟨⟨through.rounds.trans_le room, through.foreign.trans balanced.foreign⟩, by simp⟩
      · have same : settled.remaining = drain.remaining := through.remaining settled rfl
        have some_ : 0 < (drain.remaining.take matchDetailProtocolBatchSize).length := by
          have some_ := List.length_pos_of_ne_nil work
          rw [List.length_take, matchDetailProtocolBatchSize]
          omega
        generalize asked : drain.remaining.take matchDetailProtocolBatchSize = batch at through some_
        generalize answered : batch.filter (· ∈ outcomes.map (·.1)) = gone at through
        have inside : gone.Sublist drain.remaining :=
          answered ▸ asked ▸ (List.filter_sublist.trans (List.take_sublist _ _))
        have shorter := (append_diff_perm inside).length_eq
        have rest := Balanced.leave inside balanced.accounted (through.accounted settled rfl)
        have left : (settled.remaining.diff gone).Sublist matchIds :=
          same ▸ (List.diff_sublist _ _).trans balanced.left
        have bound := balanced.rounds
        have rounds : after.rounds = tally.rounds + 1 := through.rounds
        have foreign : after.foreign = [] := through.foreign.trans balanced.foreign
        rw [List.length_append] at shorter
        dsimp only
        rw [answered]
        split
        · rename_i all
          -- the whole batch has been answered for
          have whole : gone = batch := by
            rw [← answered, List.filter_eq_self]
            exact fun id member => by simpa using List.find?_eq_none.mp all id member
          subst whole
          have balanced : Balanced matchIds { settled with remaining := settled.remaining.diff gone } after :=
            ⟨left, by dsimp only; rw [same]; omega, foreign, fun clean => same ▸ rest clean⟩
          apply ensures_done
          refine ⟨balanced.bounded, ?_⟩
          rintro last ⟨⟩
          exact balanced
        · rename_i blocker found
          have unanswered : blocker ∉ gone := by
            intro listed
            rw [← answered, List.mem_filter] at listed
            exact absurd listed.2 (by simpa using List.find?_some found)
          have remains : blocker ∈ settled.remaining.diff gone := by
            rw [same, unique.mem_sdiff_iff]
            exact ⟨List.mem_of_mem_take (asked ▸ List.mem_of_find?_eq_some found), unanswered⟩
          apply ensures_mono drainBlocker_tells
          rintro outcome last ⟨lastRounds, lastForeign, ended⟩
          refine ⟨⟨by omega, lastForeign.trans foreign⟩, ?_⟩
          intro drained ok
          obtain ⟨erased, passed⟩ := ended drained ok
          have alone : [blocker].Sublist (settled.remaining.diff gone) := List.singleton_sublist.mpr remains
          have fewer := List.length_erase_of_mem remains
          constructor
          · exact erased ▸ List.erase_sublist.trans left
          · rw [erased]
            dsimp only
            rw [fewer, same]
            omega
          · exact lastForeign.trans foreign
          · intro clean
            have counted := Balanced.leave alone (fun fine => same ▸ rest fine) passed clean
            rwa [List.diff_cons, List.diff_nil, ← erased] at counted

/-- However many rounds the loop is given. -/
theorem drainRounds_tells {rounds : Nat} (distinct : matchIds.Nodup) (balanced : Balanced matchIds drain tally) :
    Tells tally (drainRounds key rounds drain progress) fun outcome after =>
      Bounded matchIds after ∧ ∀ settled, outcome.1 = .ok settled → Balanced matchIds settled after := by
  induction rounds generalizing drain progress tally with
  | zero =>
      apply ensures_done
      refine ⟨balanced.bounded, ?_⟩
      rintro settled ⟨⟩
      exact balanced
  | succ rounds ih =>
      unfold drainRounds
      split_ifs with finished
      · apply ensures_done
        refine ⟨balanced.bounded, ?_⟩
        rintro settled ⟨⟩
        exact balanced
      · apply ensures_then (drainRound_tells distinct balanced finished)
        rintro ⟨error | settled, progress⟩ after ⟨bounded, ended⟩
        · exact ensures_done ⟨bounded, by simp⟩
        · exact ih (ended settled rfl)

end

/-! ### The loop -/

section
variable {key : HourKey}

/-- A result that a discipline allows in some phase. -/
theorem follows_returns {α Phase : Type} {next : Phase → (op : HourOp) → op.Reply → Option Phase}
    {post : Phase → α → Prop} {program : HourProgram α} {phase : Phase} (follows : Follows next post phase program) :
    Returns (fun result => ∃ last, post last result) program := by
  induction program generalizing phase with
  | done result => exact ⟨phase, follows⟩
  | call op rest ih =>
      intro reply
      obtain ⟨after, -, continues⟩ := follows reply
      exact ih reply continues

/-- Programs that go on alike after every result that there can be. -/
theorem bind_congr_returns {α β : Type} {holds : β → Prop} {program : HourProgram β} {one other : β → HourProgram α}
    (returns : Returns holds program) (same : ∀ result, holds result → one result = other result) :
    program >>= one = program >>= other := by
  induction program with
  | done result => exact same result returns
  | call op rest ih => exact congrArg (Program.call op) (funext fun reply => ih reply (returns reply))

/-- The bound on the rounds is never what ends the loop, once it is as large as what remains. -/
theorem drainRounds_bound {one other : Nat} {drain : Drain} {progress : MatchDrainProgress} (opened : drain.Open)
    (enough : drain.remaining.length ≤ one) (others : drain.remaining.length ≤ other) :
    drainRounds key one drain progress = drainRounds key other drain progress := by
  induction one generalizing other drain progress with
  | zero =>
      have finished : drain.remaining = [] := List.eq_nil_of_length_eq_zero (Nat.le_zero.mp enough)
      cases other <;> simp [drainRounds, finished]
  | succ one ih =>
      by_cases finished : drain.remaining = []
      · cases other <;> simp [drainRounds, finished]
      · cases other with
        | zero => exact absurd (List.eq_nil_of_length_eq_zero (Nat.le_zero.mp others)) finished
        | succ other =>
            rw [drainRounds, drainRounds, if_neg finished, if_neg finished]
            have noted : decide (drain.failures ≠ []) = true ↔ drain.failures ≠ [] := decide_eq_true_iff
            apply bind_congr_returns (follows_returns (drainRound_follows noted opened finished))
            rintro ⟨error | settled, progress⟩ ⟨last, ended⟩
            · rfl
            · obtain ⟨-, left, shorter⟩ := ended
              exact ih left (by omega) (by omega)

end

/-! ### The drain -/

/-- What the claim asks of a drain of these positive ids, by its account and its result. -/
structure Accountable (positive : List Int) (tally : Tally) (result : Except PipelineError Nat) : Prop where
  rounds : tally.rounds ≤ positive.length
  foreign : tally.foreign = []
  counted : ∀ n, result = .ok n → n = positive.length
  accounted : ∀ n, result = .ok n → tally.accounted.Perm positive

def positiveIds (matchIds : List Int) : List Int := matchIds.filter fun id => decide (0 < id)

theorem accountable_of_balanced {positive : List Int} {drain : Drain} {tally : Tally}
    (balanced : Balanced positive drain tally) (finished : drain.remaining = []) :
    Accountable positive tally (drainResult " match(es)" drain) := by
  have clean : ∀ n, drainResult " match(es)" drain = .ok n → drain.failures = [] ∧ drain.completed = n := by
    intro n ended
    unfold drainResult at ended
    split at ended
    · rename_i none_
      exact ⟨none_, Except.ok.inj ended⟩
    · cases ended
  have whole : ∀ n, drainResult " match(es)" drain = .ok n → tally.accounted.Perm positive := by
    intro n ended
    have listed := (balanced.accounted (clean n ended).1).2
    rwa [finished, List.append_nil] at listed
  refine ⟨balanced.bounded.rounds, balanced.foreign, ?_, whole⟩
  intro n ended
  obtain ⟨fine, rfl⟩ := clean n ended
  rw [(balanced.accounted fine).1, (whole _ ended).length_eq]

/-- In every run of the drain of distinct matches, whatever the relay answers: the loop ends by
itself, and the drain is accountable for its matches, if no outcome that the relay returns has
facts of another match than the one it names. -/
theorem drain_accountable {key : HourKey} {matchIds : List Int} (distinct : matchIds.Nodup)
    {progress ended : MatchDrainProgress} {events : List (Event Tally HourOp HourOp.Reply)}
    {result : Except PipelineError Nat} {tally : Tally}
    (run : Exec accounts {} (fetchDiscoveredCompletedContinuously key matchIds progress) events (result, ended) tally)
    (consistent : ∀ event ∈ events, event.op.Consistent event.reply) :
    (∀ bound, (positiveIds matchIds).length ≤ bound →
        drainRounds key bound { remaining := positiveIds matchIds } progress =
          drainRounds key (positiveIds matchIds).length { remaining := positiveIds matchIds } progress) ∧
      Accountable (positiveIds matchIds) tally result := by
  have opened : Drain.Open { remaining := positiveIds matchIds } := ⟨distinct.filter _, by simp⟩
  have start : Balanced (positiveIds matchIds) { remaining := positiveIds matchIds } {} :=
    ⟨List.Sublist.refl _, by simp, rfl, fun _ => ⟨rfl, by simp⟩⟩
  constructor
  · intro bound enough
    exact drainRounds_bound opened enough le_rfl
  · have tells : Tells {} (fetchDiscoveredCompletedContinuously key matchIds progress) fun outcome after =>
        Accountable (positiveIds matchIds) after outcome.1 := by
      apply ensures_then (ensures_and (drainRounds_tells (distinct.filter _) start)
        (ensures_follows (@drainRounds_follows key _ progress false _ le_rfl (by simp) opened)))
      rintro ⟨error | drained, progress⟩ after ⟨⟨bounded, settled⟩, last, emptied⟩
      · exact ensures_done ⟨bounded.rounds, bounded.foreign, by simp, by simp⟩
      · exact ensures_done (accountable_of_balanced (settled drained rfl) emptied.2)
    exact tells.reaches events (result, ended) tally run consistent

/-! ### An outcome with the facts of another match -/

def completeOutcomeOf (named decoded : Int) : Value :=
  .object [("matchId", .integer named), ("status", .string "complete_direct"),
    ("match", .object [("match_id", .integer decoded), ("entry_datetime", .string "2026-01-01T00:00:00Z"),
      ("map", .string "Ranked Jaguar Falls"), ("queue_id", .integer 486), ("duration_seconds", .integer 900),
      ("team1_score", .integer 4), ("team2_score", .integer 2), ("winning_task_force", .integer 1),
      ("players", .array ((List.range 10).map publicRow))])]

def rankedHour : HourKey := ⟨20260101, 0, 486⟩

/-- The drain of match 7, whose outcome comes with the batch. -/
def singleEvents (decoded : Int) : List (Event Tally HourOp HourOp.Reply) :=
  let asked : Tally := { rounds := 1, request := [7] }
  [⟨{}, .refreshLease rankedHour, .ok (), { rounds := 1 }⟩,
    ⟨{ rounds := 1 }, .matchDetailsBatch [7] 486 false, .ok (.array [completeOutcomeOf 7 decoded]), asked⟩,
    ⟨asked, .checkpointOutcome (completeOutcomeOf 7 decoded) 486, .ok decoded, asked.checkpoint decoded⟩]

theorem single_run {decoded : Int}
    (read : ∃ facts, hourlyFacts (completeOutcomeOf 7 decoded) 486 = .ok facts ∧ facts.matchId = decoded) :
    Exec accounts {} (fetchDiscoveredCompletedContinuously rankedHour [7] {}) (singleEvents decoded)
      (.ok 1, ({} : MatchDrainProgress).checkpoint decoded)
      (({ rounds := 1, request := [7] } : Tally).checkpoint decoded) :=
  .call _ ⟨trivial, rfl⟩ (.call _ ⟨trivial, rfl⟩ (.call _ ⟨read, rfl⟩ (.done _ _)))

theorem decodes_to {decoded : Int}
    (read : ((hourlyFacts (completeOutcomeOf 7 decoded) 486).toOption.map (·.matchId)) = some decoded) :
    ∃ facts, hourlyFacts (completeOutcomeOf 7 decoded) 486 = .ok facts ∧ facts.matchId = decoded := by
  cases found : hourlyFacts (completeOutcomeOf 7 decoded) 486 with
  | error error => simp [found, Except.toOption] at read
  | ok facts => exact ⟨facts, rfl, by simpa [found, Except.toOption] using read⟩

/-- The outcome names match 7, which was asked for, and match 8 is checkpointed. -/
theorem foreign_match_checkpointed :
    ¬∀ (key : HourKey) (matchIds : List Int) (progress ended : MatchDrainProgress)
      (events : List (Event Tally HourOp HourOp.Reply)) (result : Except PipelineError Nat) (tally : Tally),
      matchIds.Nodup →
        Exec accounts {} (fetchDiscoveredCompletedContinuously key matchIds progress) events (result, ended) tally →
          (∀ bound, (positiveIds matchIds).length ≤ bound →
            drainRounds key bound { remaining := positiveIds matchIds } progress =
              drainRounds key (positiveIds matchIds).length { remaining := positiveIds matchIds } progress) ∧
          Accountable (positiveIds matchIds) tally result := by
  intro accountable
  have read := @decodes_to 8 (by decide +kernel)
  have drained := accountable rankedHour [7] {} _ _ _ _ (by decide) (single_run read)
  exact absurd drained.2.foreign (by decide)

theorem consistent_match_drained :
    ∃ events ended tally,
      Exec accounts {} (fetchDiscoveredCompletedContinuously rankedHour [7] {}) events (.ok 1, ended) tally ∧
        Accountable (positiveIds [7]) tally (.ok 1) := by
  have read := @decodes_to 7 (by decide +kernel)
  refine ⟨_, _, _, single_run read, ?_⟩
  apply And.right
  apply drain_accountable (by decide) (single_run read)
  have own : NamesItsMatch 486 (completeOutcomeOf 7 7) := by
    intro facts decoded
    obtain ⟨known, same, named⟩ := read
    rw [decoded, Except.ok.injEq] at same
    rw [same, named]
    decide +kernel
  intro event member
  fin_cases member
  · trivial
  · exact fun outcome listed => List.mem_singleton.mp listed ▸ own
  · trivial

end PaladinsCat.Backend
