import PaladinsCat.Resolver

/-!
One outcome for each request. A batch is rejected before any call, or costs one
shared detail call and, for each match, at most one roster and one demo call. An
outcome is made at one of many exits, but each of them takes its id from the
request, whatever the provider has returned for it.
-/

namespace PaladinsCat.Resolver

open Interleaving Program
open Hirez (Value)

/-! ### Rejected lists -/

def Rejectable (requests : List CompletedMatchRequest) : Prop :=
  requests = [] ∨ 10 < requests.length ∨ (∃ request ∈ requests, request.matchId = 0) ∨
    ¬ (requests.map (·.matchId)).Nodup ∨ ∃ request ∈ requests, request.queueId = some 0

theorem validateEach_ok (seen : List Nat) (requests : List CompletedMatchRequest) :
    validateEach seen requests = .ok () ↔
      (∀ request ∈ requests, request.matchId ≠ 0 ∧ request.queueId ≠ some 0 ∧ request.matchId ∉ seen) ∧
        (requests.map (·.matchId)).Nodup := by
  induction requests generalizing seen with
  | nil => simp [validateEach]
  | cons request rest ih =>
      simp only [validateEach]
      by_cases zero : request.matchId = 0
      · simp [zero]
      by_cases known : request.matchId ∈ seen
      · simp [zero, known]
      by_cases unqueued : request.queueId = some 0
      · simp [zero, known, unqueued]
      simp only [zero, known, unqueued, ↓reduceIte, ih, List.mem_cons, forall_eq_or_imp, not_or,
        ne_eq, not_false_eq_true, and_self, true_and, List.map_cons, List.nodup_cons, List.mem_map]
      constructor
      · rintro ⟨others, distinct⟩
        refine ⟨fun other member => ⟨(others other member).1, (others other member).2.1,
          (others other member).2.2.2⟩, ?_, distinct⟩
        rintro ⟨other, member, same⟩
        exact (others other member).2.2.1 same
      · rintro ⟨others, fresh, distinct⟩
        refine ⟨fun other member => ⟨(others other member).1, (others other member).2.1, ?_,
          (others other member).2.2⟩, distinct⟩
        intro same
        exact fresh ⟨other, member, same⟩

theorem validateEach_error {seen : List Nat} {requests : List CompletedMatchRequest} {error : RelayError}
    (failed : validateEach seen requests = .error error) : ∃ message, error = .validation message := by
  induction requests generalizing seen with
  | nil => cases failed
  | cons request rest ih =>
      simp only [validateEach] at failed
      split at failed
      · cases failed
        exact ⟨_, rfl⟩
      split at failed
      · cases failed
        exact ⟨_, rfl⟩
      split at failed
      · cases failed
        exact ⟨_, rfl⟩
      · exact ih failed

theorem validateRequests_ok (requests : List CompletedMatchRequest) :
    validateRequests requests = .ok () ↔ ¬ Rejectable requests := by
  unfold validateRequests Rejectable
  by_cases sized : requests = [] ∨ 10 < requests.length
  · have rejected : (requests.isEmpty || decide (10 < requests.length)) = true := by simpa using sized
    rw [if_pos rejected]
    rcases sized with empty | long
    · simp [empty]
    · simp [long]
  · obtain ⟨nonempty, short⟩ := not_or.mp sized
    have accepted : ¬ (requests.isEmpty || decide (10 < requests.length)) = true := by
      simpa using ⟨nonempty, by omega⟩
    rw [if_neg accepted, validateEach_ok]
    simp only [nonempty, short, false_or, not_or, not_not, not_exists, not_and, List.not_mem_nil,
      not_false_eq_true, and_true]
    constructor
    · rintro ⟨each, distinct⟩
      exact ⟨fun request member => (each request member).1, distinct,
        fun request member => (each request member).2⟩
    · rintro ⟨positive, distinct, queued⟩
      exact ⟨fun request member => ⟨positive request member, queued request member⟩, distinct⟩

theorem validated_distinct {requests : List CompletedMatchRequest}
    (accepted : validateRequests requests = .ok ()) : (requests.map (·.matchId)).Nodup := by
  have sound := (validateRequests_ok requests).mp accepted
  simp only [Rejectable, not_or, not_not] at sound
  exact sound.2.2.2.1

theorem validateRequests_error {requests : List CompletedMatchRequest} {error : RelayError}
    (failed : validateRequests requests = .error error) : ∃ message, error = .validation message := by
  unfold validateRequests at failed
  split at failed
  · cases failed
    exact ⟨_, rfl⟩
  · exact validateEach_error failed

/-! ### The budget of calls -/

/-- What a call is charged to; history calls and local reads are free. -/
inductive Charge where
  | detail
  | roster (matchId : Nat)
  | demo (matchId : Nat)
  deriving DecidableEq

def ProviderOp.charge : ProviderOp → Option Charge
  | .getMatchDetailsBatch _ => some .detail
  | .getPlayerBatchFromMatch matchId => some (.roster matchId)
  | .getDemoDetails matchId => some (.demo matchId)
  | .getMatchHistoryWithUsage _ _ | .getLocalRecoveryPlayers _ => none

/-- A charge may be spent once. -/
def budgetNext (spent : List Charge) (op : ProviderOp) (_ : op.Reply) : Option (List Charge) :=
  match op.charge with
  | none => some spent
  | some charge => if charge ∈ spent then none else some (charge :: spent)

def charges (events : List ProviderEvent) : List Charge := events.filterMap (·.op.charge)

theorem walk_budget {spent last : List Charge} {events : List ProviderEvent}
    (walked : walk budgetNext spent events = some last) (unique : spent.Nodup) :
    last = (charges events).reverse ++ spent ∧ last.Nodup := by
  induction events generalizing spent with
  | nil =>
      obtain rfl : spent = last := by simpa [walk] using walked
      exact ⟨by simp [charges], unique⟩
  | cons event rest ih =>
      simp only [walk] at walked
      split at walked
      · rename_i middle stepped
        unfold budgetNext at stepped
        cases charged : event.op.charge with
        | none =>
            obtain rfl : spent = middle := by simpa [charged] using stepped
            simpa [charges, charged] using ih walked unique
        | some charge =>
            simp only [charged, Option.ite_none_left_eq_some, Option.some.injEq] at stepped
            obtain ⟨fresh, rfl⟩ := stepped
            obtain ⟨same, distinct⟩ := ih walked (List.nodup_cons.mpr ⟨fresh, unique⟩)
            exact ⟨by simpa [charges, charged] using same, distinct⟩
      · cases walked

-- A call that is new to the budget.
theorem budgetNext_fresh {spent : List Charge} {op : ProviderOp} {charge : Charge}
    (charged : op.charge = some charge) (fresh : charge ∉ spent) (reply : op.Reply) :
    budgetNext spent op reply = some (charge :: spent) := by
  simp [budgetNext, charged, fresh]

theorem budgetNext_free {op : ProviderOp} (free : op.charge = none) (spent : List Charge)
    (reply : op.Reply) : budgetNext spent op reply = some spent := by
  simp [budgetNext, free]

/-! ### One match -/

theorem retainDirect_matchId (request : CompletedMatchRequest) (direct : Option MatchDetails)
    (source : String) (terminal : Bool) (reason : String) :
    (retainDirect request direct source terminal reason).matchId = request.matchId := by
  unfold retainDirect
  split
  · split <;> rfl
  · rfl

theorem recoveredOutcome_matchId (request : CompletedMatchRequest) (direct : Option MatchDetails)
    (roster : List Value) (histories : List (Except RelayError (List Value × Nat)))
    (shell : MatchDetails) :
    (recoveredOutcome request direct roster histories shell).matchId = request.matchId := by
  unfold recoveredOutcome
  extract_lets
  split
  · split <;> rfl
  · rfl

theorem presenceOutcome_matchId (request : CompletedMatchRequest) (direct : Option MatchDetails)
    (roster : Except RelayError (List Value)) :
    (presenceOutcome request direct roster).matchId = request.matchId := by
  unfold presenceOutcome
  split
  · simp only
    split
    · rfl
    · split <;> rfl
  · split <;> rfl

theorem localPreflight_matchId {request : CompletedMatchRequest} {direct : Option MatchDetails}
    {localPlayers : List Value} {outcome : CompletedMatchResolution}
    (recovered : localPreflight request direct localPlayers = some outcome) :
    outcome.matchId = request.matchId := by
  unfold localPreflight at recovered
  cases direct with
  | none => simp at recovered
  | some shell =>
      simp only [Option.bind_eq_bind, Option.bind_some] at recovered
      split at recovered
      · obtain ⟨score, _, made⟩ := Option.bind_eq_some_iff.mp recovered
        cases made
        rfl
      · cases recovered

/-- What one match may do: spend its own roster and demo call, and answer for itself. -/
def OwnCharges (matchId : Nat) (spent last : List Charge) : Prop :=
  ∀ charge ∈ last, charge ∈ spent ∨ charge = .roster matchId ∨ charge = .demo matchId

def AnswersFor (matchId : Nat) : Except RelayError CompletedMatchResolution → Prop
  | .ok outcome => outcome.matchId = matchId
  | .error _ => True

theorem ownCharges_refl (matchId : Nat) (spent : List Charge) : OwnCharges matchId spent spent :=
  fun _ member => Or.inl member

theorem ownCharges_cons {matchId : Nat} {spent last : List Charge} {charge : Charge}
    (own : OwnCharges matchId spent last) (named : charge = .roster matchId ∨ charge = .demo matchId) :
    OwnCharges matchId spent (charge :: last) := by
  intro other member
  rcases List.mem_cons.mp member with rfl | old
  · exact Or.inr named
  · exact own other old

theorem fetchHistories_uses (matchId : Nat) (ids : List Nat) :
    Uses (fun op => op.charge = none) (fetchHistories matchId ids) := by
  induction ids with
  | nil => trivial
  | cons id rest ih =>
      constructor
      · rfl
      · intro history
        change Uses _ (fetchHistories matchId rest >>= fun others => pure (history :: others))
        exact uses_bind ih fun _ => trivial

theorem fetchHistories_follows (matchId : Nat) (ids : List Nat) (spent : List Charge) :
    Follows budgetNext (fun last _ => last = spent) spent (fetchHistories matchId ids) :=
  follows_of_uses (fun _ reply free => budgetNext_free free spent reply) (fetchHistories_uses matchId ids)

theorem inheritQueue_matchId (request : CompletedMatchRequest) (direct : Option MatchDetails) :
    (inheritQueue request direct).matchId = request.matchId := by
  unfold inheritQueue
  split
  · split <;> rfl
  · rfl

section OneMatch
variable (request : CompletedMatchRequest) (direct : Option MatchDetails) {spent : List Charge}
  (roster : .roster request.matchId ∉ spent) (demo : .demo request.matchId ∉ spent)
include roster

include demo in
theorem recoverFromRoster_follows :
    Follows budgetNext (fun last outcome => OwnCharges request.matchId spent last ∧
      outcome.matchId = request.matchId) spent (recoverFromRoster request direct) := by
  have own : OwnCharges request.matchId spent (.roster request.matchId :: spent) :=
    ownCharges_cons (ownCharges_refl _ _) (Or.inl rfl)
  unfold recoverFromRoster
  simp only [perform_bind, follows_call]
  intro reply
  refine ⟨_, budgetNext_fresh rfl roster reply, ?_⟩
  cases reply with
  | error error => exact ⟨own, retainDirect_matchId ..⟩
  | ok rows =>
      simp only
      split
      · exact ⟨own, retainDirect_matchId ..⟩
      · rw [follows_bind]
        refine follows_mono ?_ (fetchHistories_follows _ _ _)
        rintro _ histories rfl
        cases direct with
        | some details => exact ⟨own, recoveredOutcome_matchId ..⟩
        | none =>
            intro demoReply
            have fresh : Charge.demo request.matchId ∉ Charge.roster request.matchId :: spent := by
              simpa using demo
            exact ⟨_, budgetNext_fresh rfl fresh demoReply, ownCharges_cons own (Or.inr rfl),
              recoveredOutcome_matchId ..⟩

include demo in
theorem recoverRanked_follows :
    Follows budgetNext (fun last outcome => OwnCharges request.matchId spent last ∧
      AnswersFor request.matchId outcome) spent (recoverRanked request direct) := by
  have fromRoster : Follows budgetNext (fun last outcome => OwnCharges request.matchId spent last ∧
      AnswersFor request.matchId outcome) spent
      (do return .ok (← recoverFromRoster request direct)) := by
    rw [follows_bind]
    exact recoverFromRoster_follows request direct roster demo
  unfold recoverRanked
  split
  · intro reply
    refine ⟨spent, budgetNext_free rfl spent reply, ?_⟩
    cases reply with
    | error error => exact ⟨ownCharges_refl _ _, trivial⟩
    | ok localPlayers =>
        change Follows _ _ _ (recoverRankedWith request direct localPlayers)
        unfold recoverRankedWith
        split
        · rename_i outcome recovered
          exact ⟨ownCharges_refl _ _, localPreflight_matchId recovered⟩
        · exact fromRoster
  · exact fromRoster

theorem recoverPresence_follows :
    Follows budgetNext (fun last outcome => OwnCharges request.matchId spent last ∧
      AnswersFor request.matchId outcome) spent (recoverPresence request direct) := by
  unfold recoverPresence
  split
  · exact ⟨ownCharges_refl _ _, rfl⟩
  · intro reply
    exact ⟨_, budgetNext_fresh rfl roster reply,
      ownCharges_cons (ownCharges_refl _ _) (Or.inl rfl), presenceOutcome_matchId ..⟩

include demo in
theorem resolveRequest_follows :
    Follows budgetNext (fun last outcome => OwnCharges request.matchId spent last ∧
      AnswersFor request.matchId outcome) spent (resolveRequest request direct) := by
  have same := inheritQueue_matchId request direct
  rw [← same] at roster demo ⊢
  unfold resolveRequest
  simp only
  split
  · exact ⟨ownCharges_refl _ _, rfl⟩
  · split
    · exact recoverRanked_follows _ direct roster demo
    · exact recoverPresence_follows _ direct roster

end OneMatch

/-! ### The batch -/

theorem takeDirect_requests (byId : Nat → Option MatchDetails) (requests : List CompletedMatchRequest) :
    (takeDirect byId requests).map (·.1) = requests := by
  induction requests generalizing byId with
  | nil => rfl
  | cons request rest ih => simp [takeDirect, ih]

/-- The requests have their own charges, so none of them is spent by an earlier one. -/
theorem resolveEach_follows (work : List (CompletedMatchRequest × Option MatchDetails)) {spent : List Charge}
    (distinct : (work.map (·.1.matchId)).Nodup)
    (fresh : ∀ item ∈ work, .roster item.1.matchId ∉ spent ∧ .demo item.1.matchId ∉ spent) :
    Follows budgetNext (fun _ outcomes => List.Forall₂ AnswersFor (work.map (·.1.matchId)) outcomes)
      spent (resolveEach work) := by
  induction work generalizing spent with
  | nil => exact .nil
  | cons item rest ih =>
      obtain ⟨request, direct⟩ := item
      obtain ⟨new, others⟩ := List.nodup_cons.mp distinct
      obtain ⟨roster, demo⟩ := fresh _ List.mem_cons_self
      simp only [resolveEach]
      rw [follows_bind]
      apply follows_mono ?_ (resolveRequest_follows request direct roster demo)
      rintro middle outcome ⟨own, answered⟩
      have untouched : ∀ other ∈ rest,
          .roster other.1.matchId ∉ middle ∧ .demo other.1.matchId ∉ middle := by
        intro other member
        have apart : other.1.matchId ≠ request.matchId :=
          fun same => new (List.mem_map.mpr ⟨other, member, same⟩)
        obtain ⟨otherRoster, otherDemo⟩ := fresh _ (List.mem_cons_of_mem _ member)
        constructor
        · intro spentHere
          rcases own _ spentHere with old | same | same
          · exact otherRoster old
          · exact apart (Charge.roster.inj same)
          · cases same
        · intro spentHere
          rcases own _ spentHere with old | same | same
          · exact otherDemo old
          · cases same
          · exact apart (Charge.demo.inj same)
      rw [follows_bind]
      apply follows_mono ?_ (ih others untouched)
      intro last outcomes answers
      exact .cons answered answers

theorem collectOutcomes_ok {α : Type} {outcomes : List (Except RelayError α)} {values : List α}
    (collected : collectOutcomes outcomes = .ok values) : outcomes = values.map .ok := by
  induction outcomes generalizing values with
  | nil =>
      cases collected
      rfl
  | cons outcome rest ih =>
      cases outcome with
      | error error => cases collected
      | ok value =>
          simp only [collectOutcomes] at collected
          cases others : collectOutcomes rest with
          | error error => simp [others, Except.map] at collected
          | ok tail =>
              simp only [others, Except.map, Except.ok.injEq] at collected
              rw [← collected, List.map_cons, ih others]

theorem answers_named {ids : List Nat} {values : List CompletedMatchResolution}
    (answers : List.Forall₂ AnswersFor ids (values.map .ok)) : values.map (·.matchId) = ids := by
  rw [List.forall₂_map_right_iff] at answers
  induction answers with
  | nil => rfl
  | cons answered _ ih => rw [List.map_cons, ih, show _ = _ from answered]

/-- What the batch returns: an outcome for each request, if it returns outcomes. -/
def AnswersAll (requests : List CompletedMatchRequest) :
    Except RelayError (List CompletedMatchResolution) → Prop
  | .ok outcomes => outcomes.map (·.matchId) = requests.map (·.matchId)
  | .error _ => True

theorem resolveWork_follows {requests : List CompletedMatchRequest} (details : List MatchDetails)
    (distinct : (requests.map (·.matchId)).Nodup) :
    Follows budgetNext (fun _ result => AnswersAll requests result) [.detail]
      (resolveWork requests details) := by
  have ids : (takeDirect (directById details) requests).map (·.1.matchId) = requests.map (·.matchId) := by
    have named := congrArg (List.map CompletedMatchRequest.matchId)
      (takeDirect_requests (directById details) requests)
    rwa [List.map_map] at named
  unfold resolveWork
  rw [follows_bind]
  apply follows_mono ?_ (resolveEach_follows _ (by rwa [ids]) (by simp))
  intro last outcomes answers
  simp only [pure_eq_done, follows_done]
  cases collected : collectOutcomes outcomes with
  | error error => trivial
  | ok values =>
      rw [collectOutcomes_ok collected] at answers
      exact (answers_named answers).trans ids

/-- A sound batch costs one detail call, and goes on with what it brought or, after an error that can be
recovered from, with nothing. -/
theorem getMatchDetailsBatch_call {requests : List CompletedMatchRequest}
    (accepted : validateRequests requests = .ok ()) :
    getMatchDetailsBatch requests =
      .call (.getMatchDetailsBatch (requests.map (·.matchId))) fun
        | .ok details => resolveWork requests details
        | .error error =>
            if isRecoverableMatchDetailError error then resolveWork requests [] else pure (.error error) := by
  unfold getMatchDetailsBatch
  rw [accepted]
  exact perform_bind _ _

theorem getMatchDetailsBatch_follows {requests : List CompletedMatchRequest}
    (accepted : validateRequests requests = .ok ()) :
    ∃ next, getMatchDetailsBatch requests = .call (.getMatchDetailsBatch (requests.map (·.matchId))) next ∧
      ∀ reply, Follows budgetNext (fun _ result => AnswersAll requests result) [.detail] (next reply) := by
  have distinct := validated_distinct accepted
  refine ⟨_, getMatchDetailsBatch_call accepted, ?_⟩
  intro reply
  cases reply with
  | ok details => exact resolveWork_follows details distinct
  | error error =>
      cases recoverable : isRecoverableMatchDetailError error with
      | true =>
          simp only [recoverable, if_true]
          exact resolveWork_follows [] distinct
      | false =>
          simp only [recoverable, Bool.false_eq_true, if_false]
          trivial

/-- A batch is rejected before any call exactly when its list is bad. Otherwise it
makes one detail call for the whole list and at most one roster and one demo call
for each match, and the outcomes are those of the requests, in their order. -/
theorem batch_resolution_is_one_to_one (requests : List CompletedMatchRequest)
    (answer : List ProviderEvent → (op : ProviderOp) → op.Reply) :
    let run := play answer [] (getMatchDetailsBatch requests)
    ((run.1 = [] ∧ ∃ message, run.2 = .error (.validation message)) ↔ Rejectable requests) ∧
      (¬ Rejectable requests →
        run.1.head?.map (·.op) = some (.getMatchDetailsBatch (requests.map (·.matchId))) ∧
        (charges run.1).count .detail = 1 ∧
        ∀ matchId, (charges run.1).count (.roster matchId) ≤ 1 ∧ (charges run.1).count (.demo matchId) ≤ 1) ∧
      ∀ outcomes, run.2 = .ok outcomes →
        outcomes.length = requests.length ∧ outcomes.map (·.matchId) = requests.map (·.matchId) := by
  intro run
  by_cases rejected : Rejectable requests
  · obtain ⟨error, failed⟩ : ∃ error, validateRequests requests = .error error := by
      cases validated : validateRequests requests with
      | error error => exact ⟨error, rfl⟩
      | ok _ => exact absurd rejected ((validateRequests_ok requests).mp validated)
    obtain ⟨message, rfl⟩ := validateRequests_error failed
    have refused : run = ([], .error (.validation message)) := by
      simp only [run, getMatchDetailsBatch, failed]
      rfl
    rw [refused]
    refine ⟨by simp [rejected], fun accepted => absurd rejected accepted, by simp⟩
  · obtain ⟨next, asks, follows⟩ := getMatchDetailsBatch_follows
      ((validateRequests_ok requests).mpr rejected)
    have executed := play_exec answer [] (getMatchDetailsBatch requests)
    change Exec anyReply () _ run.1 run.2 () at executed
    rw [asks] at executed
    obtain ⟨reply, _, rest, -, tail, events⟩ := exec_call_iff.mp executed
    obtain ⟨last, walked, answers⟩ := follows_exec (follows reply) tail
    obtain ⟨same, distinct⟩ := walk_budget walked (List.nodup_singleton _)
    have spent : (charges run.1).Nodup := by
      have charged : last = (charges run.1).reverse := by
        rw [same, events]
        simp [charges, ProviderOp.charge]
      rw [charged] at distinct
      exact List.nodup_reverse.mp distinct
    refine ⟨by simp [events, rejected], fun _ => ⟨by simp [events], ?_, fun matchId =>
      ⟨List.nodup_iff_count_le_one.mp spent _, List.nodup_iff_count_le_one.mp spent _⟩⟩, ?_⟩
    · apply List.count_eq_one_of_mem spent
      rw [events]
      simp [charges, ProviderOp.charge]
    · intro outcomes returned
      rw [returned] at answers
      have named : outcomes.map (·.matchId) = requests.map (·.matchId) := answers
      exact ⟨by simpa using congrArg List.length named, named⟩

end PaladinsCat.Resolver
