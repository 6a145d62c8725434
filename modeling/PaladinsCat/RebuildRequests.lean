import PaladinsCat.RebuildPhases

/-!
What becomes of ratings while projections, rebuilds and rebuild requests interleave.
A match that `project_match` rates or puts off while a rebuild is under way is safe
only if it is on the list of that rebuild, or was rated after the tables had been
emptied. The invariant says, for the phase of the one rebuild there may be, what
still covers each match.
-/

namespace PaladinsCat.Backend

open Interleaving

variable {Rating : Type} {glicko : Glicko Rating}

/-! ### What covers a match -/

theorem ratingNext_op {phase after : RatingPhase} {op : BackendOp} {reply : op.Reply}
    (allowed : ratingNext phase op reply = some after) : ratingOp op = true := by
  cases op <;> first
    | rfl
    | cases phase <;> simp [ratingNext] at allowed

/-- The rebuild in this phase is going to rate the match, or leaves a request behind. -/
def CoveredIn (store : Store Rating) (matchId : Int) : RatingPhase → Prop
  | .listed _ remaining deferred => hasSnapshots store matchId = true ∨ matchId ∈ remaining ∨
      (deferred = true ∧ store.rebuildRequest.isSome = true)
  | _ => True

theorem CoveredIn.mono {before after : Store Rating} {matchId : Int} {phase : RatingPhase}
    (kept : KeepsRatings before after) (covered : CoveredIn before matchId phase) :
    CoveredIn after matchId phase := by
  cases phase with
  | listed ids remaining deferred =>
      rcases covered with snapshots | remaining | ⟨deferred, pending⟩
      · exact Or.inl (kept.snapshots matchId snapshots)
      · exact Or.inr (Or.inl remaining)
      · exact Or.inr (Or.inr ⟨deferred, kept.request pending⟩)
  | _ => trivial

/-- A step of a rebuild, which may fail only with a request pending. -/
theorem rebuild_covers {before after : Store Rating} {matchId : Int}
    {reply : (BackendOp.applyMatch matchId true).Reply}
    (served : (serve glicko).handler before (.applyMatch matchId true) reply after)
    (requested : rebuildFails (.applyMatch matchId true) reply = true → before.rebuildRequest.isSome = true)
    (fit : Fit glicko before matchId) (status : rateableStatus before matchId = true) :
    hasSnapshots after matchId = true ∨ (defersRebuild reply = true ∧ after.rebuildRequest.isSome = true) := by
  have kept := served_keeps served rfl ⟨by simp, by simp⟩
  obtain ⟨outside, ⟨rfl, same⟩ | ⟨error, rfl, same⟩ | ⟨error, rfl, same⟩⟩ := served_cases served
  · cases locked : outside.locked with
    | true =>
        have unlocked : effect glicko outside before (.applyMatch matchId true) =
            applyUnlocked glicko before matchId := by
          simp [effect, applyMatch, shouldDeferIncremental, locked]
        rw [same, unlocked]
        rcases applyUnlocked_covers fit status with rated | ⟨-, deferred, pending⟩
        · exact Or.inl rated
        · exact Or.inr ⟨by simp [defersRebuild, deferred], pending⟩
    | false =>
        have busy : effect glicko outside before (.applyMatch matchId true) = (.busy, before) := by
          simp [effect, applyMatch, locked]
        rw [busy] at requested ⊢
        exact Or.inr ⟨rfl, kept.request (requested rfl)⟩
  · exact Or.inr ⟨rfl, kept.request (requested rfl)⟩
  · exact Or.inr ⟨rfl, kept.request (requested rfl)⟩

/-- The rating step of a projection that goes on. -/
theorem rating_covers {before after : Store Rating} {matchId : Int}
    {reply : (BackendOp.applyMatch matchId false).Reply}
    (served : (serve glicko).handler before (.applyMatch matchId false) reply after)
    (goesOn : ratedBy (.applyMatch matchId false) reply = some matchId)
    (fit : Fit glicko before matchId) (status : rateableStatus before matchId = true) :
    hasSnapshots after matchId = true ∨
      (putsOff glicko before matchId = true ∧ after.rebuildRequest.isSome = true) := by
  obtain ⟨outside, ⟨rfl, same⟩ | ⟨error, rfl, same⟩ | ⟨error, rfl, same⟩⟩ := served_cases served
  · cases locked : outside.locked with
    | true =>
        cases pending : before.rebuildRequest.isSome with
        | true =>
            have deferred : effect glicko outside before (.applyMatch matchId false) = (.deferred, before) := by
              simp [effect, applyMatch, shouldDeferIncremental, locked, pending]
            rw [same, deferred]
            exact Or.inr ⟨by simp [putsOff, pending], pending⟩
        | false =>
            have unlocked : effect glicko outside before (.applyMatch matchId false) =
                applyUnlocked glicko (recordLateArrival before matchId) matchId := by
              simp [effect, applyMatch, shouldDeferIncremental, locked, pending]
            obtain ⟨late, arrived⟩ := recordLateArrival_eq before matchId
            have lateFit : Fit glicko (recordLateArrival before matchId) matchId := by
              rw [arrived]
              exact fit
            rw [same, unlocked]
            rcases applyUnlocked_covers lateFit ((recordLateArrival_keeps before matchId).status _ status) with
              rated | ⟨failed, -, pending⟩
            · exact Or.inl rated
            · rw [calculateChanges_late] at failed
              exact Or.inr ⟨by simp [putsOff, failed], pending⟩
    | false =>
        have busy : effect glicko outside before (.applyMatch matchId false) = (.busy, before) := by
          simp [effect, applyMatch, locked]
        rw [busy] at goesOn
        simp [ratedBy] at goesOn
  · simp [ratedBy] at goesOn
  · simp [ratedBy] at goesOn

/-! ### The invariant -/

section Step
variable {phase after : RatingPhase} {op : BackendOp} {reply : op.Reply}

theorem ratingNext_rated {matchId : Int} (allowed : ratingNext phase op reply = some (.rated matchId)) :
    phase = .rated matchId ∨ ratedBy op reply = some matchId := by
  fun_cases ratingNext phase op reply
  all_goals simp_all [ratingNext]
  rename_i rates
  cases rated : ratedBy (.applyMatch _ false) rates <;> simp_all

theorem ratedPhase_rebuilds (rated : Option Int) :
    ((rated.map RatingPhase.rated).getD .outside).rebuilds = false := by
  cases rated <;> rfl

theorem ratingNext_rebuilds (allowed : ratingNext phase op reply = some after) (rebuilds : after.rebuilds = true) :
    phase.rebuilds = true ∨ (op = .truncateRatings ∧ rebuildFails op reply = false) := by
  fun_cases ratingNext phase op reply
  all_goals first
    | exact Or.inl rfl
    | exact Or.inr ⟨rfl, rfl⟩
    | simp_all [ratingNext]
  rename_i rates
  rw [← allowed, ratedPhase_rebuilds] at rebuilds
  cases rebuilds

theorem ratingNext_listed {ids remaining : List Int} {deferred : Bool}
    (allowed : ratingNext phase op reply = some (.listed ids remaining deferred)) :
    (∃ remaining deferred, phase = .listed ids remaining deferred) ∨
      (op = .ratedMatches ∧ rebuildFails op reply = false) := by
  fun_cases ratingNext phase op reply
  all_goals first
    | exact Or.inr ⟨rfl, rfl⟩
    | simp_all [ratingNext]
  rename_i rates
  have phases := ratedPhase_rebuilds (ratedBy (.applyMatch _ false) rates)
  rw [allowed] at phases
  cases phases

end Step

theorem forall₂_unfinished {phases : List RatingPhase}
    {programs : List (Program BackendOp BackendOp.Reply BackendOutcome)}
    (follow : List.Forall₂ (Follows ratingNext RatingEnds) phases programs) {task : Nat} {phase : RatingPhase}
    (found : phases[task]? = some phase) (rebuilds : phase.rebuilds = true) :
    programs[task]?.any (!·.finished) = true := by
  obtain ⟨program, same, follows⟩ := forall₂_getElem?_left follow found
  rw [same]
  cases program with
  | done outcome =>
      rw [follows_done] at follows
      rw [follows.1] at rebuilds
      cases rebuilds
  | call op next => rfl

theorem ratedIn_append {history : List (BackendTurn Rating BackendOutcome)}
    {turn : BackendTurn Rating BackendOutcome} {matchId : Int} :
    RatedIn (history ++ [turn]) matchId ↔
      RatedIn history matchId ∨ ratedBy turn.op turn.reply = some matchId := by
  simp [RatedIn, or_and_right, exists_or]

theorem phase_set {phases : List RatingPhase} {task index : Nat} {phase after : RatingPhase}
    (found : (phases.set task after)[index]? = some phase) :
    (index = task ∧ phase = after) ∨ (index ≠ task ∧ phases[index]? = some phase) := by
  by_cases same : index = task
  · subst same
    rw [List.getElem?_set_self'] at found
    cases stored : phases[index]? <;> simp_all
  · rw [List.getElem?_set_ne (Ne.symm same)] at found
    exact Or.inr ⟨same, found⟩

/-- How the phases, the history and the rows of the matches hang together. -/
structure Tracked (history : List (BackendTurn Rating BackendOutcome)) (store : Store Rating)
    (phases : List RatingPhase) : Prop where
  rated : ∀ (task : Nat) matchId, phases[task]? = some (.rated matchId) → RatedIn history matchId
  begun : ∀ (task : Nat) phase, phases[task]? = some phase → phase.rebuilds = true →
    ∃ turn ∈ history, truncates turn = true ∧ turn.task = task
  single : ∀ (task other : Nat) phase second, phases[task]? = some phase → phases[other]? = some second →
    phase.rebuilds = true → second.rebuilds = true → task = other
  status : ∀ matchId, RatedIn history matchId → rateableStatus store matchId = true
  read : ∀ (task : Nat) ids remaining deferred, phases[task]? = some (.listed ids remaining deferred) →
    (∃ turn ∈ history, lists turn = true ∧ turn.task = task ∧ ids = ratedMatches turn.before) ∧
      ∀ matchId ∈ ids, rateableStatus store matchId = true

/-- Every match that has been rated, or is on a list, is covered. -/
structure Covered (glicko : Glicko Rating) (history : List (BackendTurn Rating BackendOutcome))
    (store : Store Rating) (phases : List RatingPhase) : Prop where
  inPhase : ∀ matchId, RatedIn history matchId → Fit glicko store matchId →
    ∀ (task : Nat) phase, phases[task]? = some phase → CoveredIn store matchId phase
  idle : ∀ matchId, RatedIn history matchId → Fit glicko store matchId →
    (∀ (task : Nat) phase, phases[task]? = some phase → phase.rebuilds = false) →
    hasSnapshots store matchId = true ∨ store.rebuildRequest.isSome = true
  onList : ∀ (task : Nat) ids remaining deferred, phases[task]? = some (.listed ids remaining deferred) →
    ∀ matchId ∈ ids, Fit glicko store matchId → CoveredIn store matchId (.listed ids remaining deferred)

section Step
variable {history : List (BackendTurn Rating BackendOutcome)} {turn : BackendTurn Rating BackendOutcome}
  {phases : List RatingPhase} {phase after : RatingPhase}

/-- Where no rebuild is running, no program is in a phase of one. -/
theorem Tracked.quiet {store : Store Rating} {programs : List (Program BackendOp BackendOp.Reply BackendOutcome)}
    (tracked : Tracked history store phases)
    (follow : List.Forall₂ (Follows ratingNext RatingEnds) phases programs)
    (idle : ¬RebuildRunning history programs) (task : Nat) (phase : RatingPhase)
    (found : phases[task]? = some phase) : phase.rebuilds = false := by
  by_contra rebuilds
  rw [Bool.not_eq_false] at rebuilds
  obtain ⟨begin_, member, truncated, rfl⟩ := tracked.begun task phase found rebuilds
  exact idle ⟨begin_, member, truncated, forall₂_unfinished follow found rebuilds⟩

theorem truncates_ok (served : (serve glicko).handler turn.before turn.op turn.reply turn.after)
    (truncate : turn.op = .truncateRatings) (succeeds : rebuildFails turn.op turn.reply = false) :
    truncates turn = true := by
  obtain ⟨⟨before, op, reply, later⟩, task, programs⟩ := turn
  dsimp only at truncate served succeeds
  subst truncate
  obtain ⟨outside, ⟨rfl, rfl⟩ | ⟨error, rfl, _⟩ | ⟨error, rfl, _⟩⟩ := served_cases served
  · rfl
  · cases succeeds
  · cases succeeds

theorem lists_ok {ids remaining : List Int} {deferred : Bool}
    (served : (serve glicko).handler turn.before turn.op turn.reply turn.after) (list : turn.op = .ratedMatches)
    (allowed : ratingNext phase turn.op turn.reply = some (.listed ids remaining deferred)) :
    ids = ratedMatches turn.before ∧ remaining = ids ∧ turn.after = turn.before := by
  obtain ⟨⟨before, op, reply, later⟩, task, programs⟩ := turn
  dsimp only at list served allowed ⊢
  subst list
  obtain ⟨outside, ⟨rfl, rfl⟩ | ⟨error, rfl, _⟩ | ⟨error, rfl, _⟩⟩ := served_cases served
  · cases phase <;> simp [ratingNext, effect] at allowed
    exact ⟨allowed.1.symm, allowed.2.1 ▸ allowed.1, rfl⟩
  · cases phase <;> simp [ratingNext] at allowed
  · cases phase <;> simp [ratingNext] at allowed

theorem ratedMatches_status {store : Store Rating} {matchId : Int} (listed : matchId ∈ ratedMatches store) :
    rateableStatus store matchId = true := by
  simp only [ratedMatches, List.mem_map, List.mem_insertionSort, List.mem_dedup, List.mem_filter,
    Bool.and_eq_true] at listed
  obtain ⟨_, ⟨row, ⟨-, -, complete⟩, rfl⟩, rfl⟩ := listed
  simp only [rateableStatus]
  cases stored : store.ingest row.matchId with
  | none => rfl
  | some ingest =>
      rw [stored] at complete
      have done : ingest.status = .complete := by simpa using complete
      simp [done]

theorem Tracked.step (tracked : Tracked history turn.before phases)
    (follow : List.Forall₂ (Follows ratingNext RatingEnds) phases turn.programs)
    (here : phases[turn.task]? = some phase) (allowed : ratingNext phase turn.op turn.reply = some after)
    (served : (serve glicko).handler turn.before turn.op turn.reply turn.after)
    (heeds : Heeds glicko history turn) :
    Tracked (history ++ [turn]) turn.after (phases.set turn.task after) := by
  have facts := served_facts served (ratingNext_op allowed)
  have begins : after.rebuilds = true → phase.rebuilds = true ∨
      (truncates turn = true ∧ ∀ (task : Nat) other, phases[task]? = some other → other.rebuilds = false) := by
    intro rebuilds
    rcases ratingNext_rebuilds allowed rebuilds with already | ⟨truncate, succeeds⟩
    · exact Or.inl already
    · have truncated := truncates_ok served truncate succeeds
      exact Or.inr ⟨truncated, tracked.quiet follow (heeds.alone truncated)⟩
  constructor
  · intro task matchId found
    rw [ratedIn_append]
    rcases phase_set found with ⟨_, rfl⟩ | ⟨_, old⟩
    · rcases ratingNext_rated allowed with rfl | new
      · exact Or.inl (tracked.rated _ _ here)
      · exact Or.inr new
    · exact Or.inl (tracked.rated _ _ old)
  · intro task current found rebuilds
    have earlier : ∀ old, phases[task]? = some old → old.rebuilds = true →
        ∃ begin_ ∈ history ++ [turn], truncates begin_ = true ∧ begin_.task = task := by
      intro old foundOld rebuildsOld
      obtain ⟨begin_, member, truncated⟩ := tracked.begun task old foundOld rebuildsOld
      exact ⟨begin_, List.mem_append_left _ member, truncated⟩
    rcases phase_set found with ⟨rfl, rfl⟩ | ⟨_, old⟩
    · rcases begins rebuilds with already | ⟨truncated, _⟩
      · exact earlier _ here already
      · exact ⟨turn, by simp, truncated, rfl⟩
    · exact earlier _ old rebuilds
  · intro task other current second found foundOther rebuilds rebuildsOther
    rcases phase_set found with ⟨rfl, rfl⟩ | ⟨_, old⟩
    · rcases phase_set foundOther with ⟨rfl, rfl⟩ | ⟨_, oldOther⟩
      · rfl
      · rcases begins rebuilds with already | ⟨_, quiet⟩
        · exact tracked.single _ _ _ _ here oldOther already rebuildsOther
        · rw [quiet _ _ oldOther] at rebuildsOther
          cases rebuildsOther
    · rcases phase_set foundOther with ⟨rfl, rfl⟩ | ⟨_, oldOther⟩
      · rcases begins rebuildsOther with already | ⟨_, quiet⟩
        · exact tracked.single _ _ _ _ old here rebuilds already
        · rw [quiet _ _ old] at rebuilds
          cases rebuilds
      · exact tracked.single _ _ _ _ old oldOther rebuilds rebuildsOther
  · intro matchId rated
    apply facts.status
    rcases ratedIn_append.mp rated with old | new
    · exact tracked.status matchId old
    · exact heeds.status matchId new
  · intro task ids remaining deferred found
    have earlier : ∀ remaining deferred, phases[task]? = some (.listed ids remaining deferred) →
        (∃ listing ∈ history ++ [turn], lists listing = true ∧ listing.task = task ∧
          ids = ratedMatches listing.before) ∧ ∀ matchId ∈ ids, rateableStatus turn.after matchId = true := by
      intro remaining deferred old
      obtain ⟨⟨listing, member, listed⟩, status⟩ := tracked.read task ids remaining deferred old
      exact ⟨⟨listing, List.mem_append_left _ member, listed⟩,
        fun matchId member => facts.status matchId (status matchId member)⟩
    rcases phase_set found with ⟨rfl, same⟩ | ⟨_, old⟩
    · rw [← same] at allowed
      rcases ratingNext_listed allowed with ⟨remaining, deferred, rfl⟩ | ⟨list, _⟩
      · exact earlier remaining deferred here
      · obtain ⟨rfl, -, unchanged⟩ := lists_ok served list allowed
        refine ⟨⟨turn, by simp, by simp [lists, list], rfl, rfl⟩, ?_⟩
        intro matchId member
        rw [unchanged]
        exact ratedMatches_status member
    · exact earlier remaining deferred old

theorem coveredIn_quiet {store : Store Rating} {matchId : Int} (quiet : phase.rebuilds = false) :
    CoveredIn store matchId phase := by
  cases phase with
  | listed ids remaining deferred => cases quiet
  | _ => trivial

/-- Outside of rebuilds a snapshot or a request is enough. -/
theorem covered_closed {store : Store Rating}
    (quiet : ∀ (task : Nat) phase, phases[task]? = some phase → phase.rebuilds = false)
    (safe : ∀ matchId, RatedIn history matchId → Fit glicko store matchId →
      hasSnapshots store matchId = true ∨ store.rebuildRequest.isSome = true) :
    Covered glicko history store phases where
  inPhase _ _ _ task phase found := coveredIn_quiet (quiet task phase found)
  idle matchId rated fit _ := safe matchId rated fit
  onList task ids remaining deferred found := by cases quiet task _ found

/-- Under the only rebuild its phase decides. -/
theorem covered_open {store : Store Rating} {task : Nat} (here : phases[task]? = some phase)
    (rebuilds : after.rebuilds = true)
    (others : ∀ (index : Nat) other, index ≠ task → phases[index]? = some other → other.rebuilds = false)
    (safe : ∀ matchId, RatedIn history matchId → Fit glicko store matchId → CoveredIn store matchId after)
    (onList : ∀ ids remaining deferred, after = .listed ids remaining deferred →
      ∀ matchId ∈ ids, Fit glicko store matchId → CoveredIn store matchId after) :
    Covered glicko history store (phases.set task after) where
  inPhase matchId rated fit index phase found := by
    rcases phase_set found with ⟨_, rfl⟩ | ⟨other, old⟩
    · exact safe matchId rated fit
    · exact coveredIn_quiet (others index phase other old)
  idle matchId _ _ quiet := by
    have inside : task < phases.length := (List.getElem?_eq_some_iff.mp here).1
    have none := quiet task after (by simp [inside])
    rw [rebuilds] at none
    cases none
  onList index ids remaining deferred found matchId member fit := by
    rcases phase_set found with ⟨_, same⟩ | ⟨other, old⟩
    · rw [same]
      exact onList ids remaining deferred same.symm matchId member fit
    · cases others index _ other old

theorem Tracked.others {store : Store Rating} (tracked : Tracked history store phases) {task : Nat}
    (here : phases[task]? = some phase) (rebuilds : phase.rebuilds = true) (index : Nat) (other : RatingPhase)
    (distinct : index ≠ task) (found : phases[index]? = some other) : other.rebuilds = false := by
  by_contra also
  exact distinct (tracked.single index task other phase found here (by simpa using also) rebuilds)

theorem quiet_set {task : Nat} (ended : after.rebuilds = false)
    (others : ∀ (index : Nat) other, index ≠ task → phases[index]? = some other → other.rebuilds = false)
    (index : Nat) (other : RatingPhase) (found : (phases.set task after)[index]? = some other) :
    other.rebuilds = false := by
  rcases phase_set found with ⟨_, rfl⟩ | ⟨distinct, old⟩
  · exact ended
  · exact others index other distinct old

theorem ratedBy_op {op : BackendOp} {reply : op.Reply} {matchId : Int} (rates : ratedBy op reply = some matchId) :
    op = .applyMatch matchId false := by
  fun_cases ratedBy op reply <;> simp_all [ratedBy]

/-- A step outside of rebuilds that takes no rating away. -/
theorem Covered.ordinary (covered : Covered glicko history turn.before phases)
    (tracked : Tracked history turn.before phases)
    (follow : List.Forall₂ (Follows ratingNext RatingEnds) phases turn.programs)
    (here : phases[turn.task]? = some phase) (quiet : phase.rebuilds = false) (still : after.rebuilds = false)
    (served : (serve glicko).handler turn.before turn.op turn.reply turn.after)
    (kept : KeepsRatings turn.before turn.after) (heeds : Heeds glicko history turn) :
    Covered glicko (history ++ [turn]) turn.after (phases.set turn.task after) := by
  have rates : ∀ matchId, ratedBy turn.op turn.reply = some matchId → Fit glicko turn.after matchId →
      hasSnapshots turn.after matchId = true ∨
        (putsOff glicko turn.before matchId = true ∧ turn.after.rebuildRequest.isSome = true) := by
    intro matchId rated fit
    have status := heeds.status matchId rated
    obtain ⟨⟨before, op, reply, later⟩, task, programs⟩ := turn
    dsimp only at *
    obtain rfl := ratedBy_op rated
    exact rating_covers served rated (fit.before kept.facts) status
  constructor
  · intro matchId rated fit index current found
    rcases phase_set found with ⟨_, rfl⟩ | ⟨_, old⟩
    · exact coveredIn_quiet still
    · rcases ratedIn_append.mp rated with before | now
      · exact (covered.inPhase matchId before (fit.before kept.facts) index current old).mono kept
      · cases current with
        | listed ids remaining deferred =>
            rcases rates matchId now fit with snapshots | ⟨putOff, _⟩
            · exact Or.inl snapshots
            · obtain ⟨⟨listing, member, list, rfl, rfl⟩, -⟩ := tracked.read index ids remaining deferred old
              have onList := heeds.putOff matchId now putOff listing member list
                (forall₂_unfinished follow old rfl)
              exact (covered.onList _ _ _ _ old matchId onList (fit.before kept.facts)).mono kept
        | _ => trivial
  · intro matchId rated fit none
    have before : ∀ (index : Nat) other, phases[index]? = some other → other.rebuilds = false := by
      intro index other found
      by_cases same : index = turn.task
      · subst same
        rw [here] at found
        cases found
        exact quiet
      · exact none index other (by rw [List.getElem?_set_ne (Ne.symm same), found])
    rcases ratedIn_append.mp rated with old | now
    · exact (covered.idle matchId old (fit.before kept.facts) before).imp (kept.snapshots matchId) kept.request
    · exact (rates matchId now fit).imp_right And.right
  · intro index ids remaining deferred found matchId member fit
    rcases phase_set found with ⟨_, rfl⟩ | ⟨_, old⟩
    · cases still
    · exact (covered.onList index ids remaining deferred old matchId member (fit.before kept.facts)).mono kept

theorem ratedIn_other (unrated : ratedBy turn.op turn.reply = none) {matchId : Int}
    (rated : RatedIn (history ++ [turn]) matchId) : RatedIn history matchId := by
  rcases ratedIn_append.mp rated with old | now
  · exact old
  · rw [unrated] at now
    cases now

section Cases
variable {before later : Store Rating} {task : Nat}
  {programs : List (Program BackendOp BackendOp.Reply BackendOutcome)}

theorem covered_truncate {reply : BackendOp.truncateRatings.Reply}
    (covered : Covered glicko history before phases) (tracked : Tracked history before phases)
    (follow : List.Forall₂ (Follows ratingNext RatingEnds) phases programs)
    (here : phases[task]? = some phase) (allowed : ratingNext phase .truncateRatings reply = some after)
    (served : (serve glicko).handler before .truncateRatings reply later)
    (heeds : Heeds glicko history ⟨⟨before, .truncateRatings, reply, later⟩, task, programs⟩) :
    Covered glicko (history ++ [⟨⟨before, .truncateRatings, reply, later⟩, task, programs⟩]) later
      (phases.set task after) := by
  cases phase with
  | outside =>
      cases reply with
      | ok result =>
          cases allowed
          have truncated : truncates (⟨⟨before, .truncateRatings, .ok result, later⟩, task, programs⟩ :
              BackendTurn Rating BackendOutcome) = true := truncates_ok served rfl rfl
          have quiet := tracked.quiet follow (heeds.alone truncated)
          exact covered_open here rfl (fun index other _ found => quiet index other found)
            (fun _ _ _ => trivial) (by simp)
      | error error =>
          cases allowed
          by_cases truncated :
              truncates (⟨⟨before, .truncateRatings, .error error, later⟩, task, programs⟩ :
                BackendTurn Rating BackendOutcome) = true
          · have quiet := tracked.quiet follow (heeds.alone truncated)
            have pending : before.rebuildRequest.isSome = true := by
              rcases heeds.requested rfl with pending | ⟨_, kept⟩
              · exact pending
              · rw [truncated] at kept
                cases kept
            have still : later.rebuildRequest.isSome = true := by
              rcases served_store served with rfl | ⟨outside, rfl⟩ <;> exact pending
            exact covered_closed (quiet_set rfl fun index other _ found => quiet index other found)
              fun _ _ _ => Or.inr still
          · have same : later = before := by
              rcases served_store served with same | ⟨outside, rfl⟩
              · exact same
              · exact absurd rfl truncated
            have kept : KeepsRatings before later := same ▸ KeepsRatings.refl before
            exact Covered.ordinary covered tracked follow here rfl rfl served kept heeds
  | _ => simp [ratingNext] at allowed

theorem covered_list {reply : BackendOp.ratedMatches.Reply}
    (tracked : Tracked history before phases)
    (here : phases[task]? = some phase) (allowed : ratingNext phase .ratedMatches reply = some after)
    (served : (serve glicko).handler before .ratedMatches reply later)
    (heeds : Heeds glicko history ⟨⟨before, .ratedMatches, reply, later⟩, task, programs⟩) :
    Covered glicko (history ++ [⟨⟨before, .ratedMatches, reply, later⟩, task, programs⟩]) later
      (phases.set task after) := by
  have same : later = before := by
    rcases served_store served with same | ⟨outside, rfl⟩
    · exact same
    · rfl
  cases phase with
  | truncated =>
      have others := tracked.others here rfl
      cases reply with
      | ok ids =>
          cases allowed
          have read : ids = ratedMatches before := by
            obtain ⟨outside, ⟨reply, _⟩ | ⟨error, reply, _⟩ | ⟨error, reply, _⟩⟩ := served_cases served
            · exact Except.ok.inj reply
            · cases reply
            · cases reply
          apply covered_open here rfl others
          · intro matchId rated fit
            rw [same, read]
            obtain ⟨rating, member, rates⟩ := ratedIn_other rfl rated
            exact (heeds.listed rfl rfl rating member matchId rates).imp_right Or.inl
          · intro _ _ _ isListed matchId member _
            cases isListed
            exact Or.inr (Or.inl member)
      | error error =>
          cases allowed
          have pending : before.rebuildRequest.isSome = true := by
            rcases heeds.requested rfl with pending | ⟨truncate, _⟩
            · exact pending
            · cases truncate
          exact covered_closed (quiet_set rfl others) fun _ _ _ => Or.inr (same ▸ pending)
  | _ => simp [ratingNext] at allowed

/-- The match at the head of the list has been applied, or is left over. -/
theorem coveredIn_applied {head matchId : Int} {ids remaining : List Int} {deferred : Bool}
    {reply : (BackendOp.applyMatch head true).Reply}
    (served : (serve glicko).handler before (.applyMatch head true) reply later)
    (requested : rebuildFails (.applyMatch head true) reply = true → before.rebuildRequest.isSome = true)
    (fit : Fit glicko before matchId) (status : rateableStatus before matchId = true)
    (covered : CoveredIn before matchId (.listed ids (head :: remaining) deferred)) :
    CoveredIn later matchId (.listed ids remaining (deferred || defersRebuild reply)) := by
  have kept := served_keeps served rfl ⟨by simp, by simp⟩
  rcases covered with snapshots | listed | ⟨deferred, pending⟩
  · exact Or.inl (kept.snapshots matchId snapshots)
  · rcases List.mem_cons.mp listed with rfl | waiting
    · rcases rebuild_covers served requested fit status with rated | ⟨defers, pending⟩
      · exact Or.inl rated
      · exact Or.inr (Or.inr ⟨by simp [defers], pending⟩)
    · exact Or.inr (Or.inl waiting)
  · exact Or.inr (Or.inr ⟨by simp [deferred], kept.request pending⟩)

theorem covered_rebuild {matchId : Int} {reply : (BackendOp.applyMatch matchId true).Reply}
    (covered : Covered glicko history before phases) (tracked : Tracked history before phases)
    (here : phases[task]? = some phase)
    (allowed : ratingNext phase (.applyMatch matchId true) reply = some after)
    (served : (serve glicko).handler before (.applyMatch matchId true) reply later)
    (heeds : Heeds glicko history ⟨⟨before, .applyMatch matchId true, reply, later⟩, task, programs⟩) :
    Covered glicko (history ++ [⟨⟨before, .applyMatch matchId true, reply, later⟩, task, programs⟩]) later
      (phases.set task after) := by
  have facts := (served_keeps served rfl ⟨by simp, by simp⟩).facts
  have requested : rebuildFails (.applyMatch matchId true) reply = true →
      before.rebuildRequest.isSome = true := by
    intro fails
    rcases heeds.requested fails with pending | ⟨truncate, _⟩
    · exact pending
    · cases truncate
  cases phase with
  | listed ids waiting deferred =>
      cases waiting with
      | nil => cases deferred <;> simp [ratingNext] at allowed
      | cons head remaining =>
          simp only [ratingNext] at allowed
          split at allowed
          · rename_i same
            subst same
            cases allowed
            apply covered_open here rfl (tracked.others here rfl)
            · intro other rated fit
              have old := ratedIn_other rfl rated
              exact coveredIn_applied served requested (fit.before facts) (tracked.status other old)
                (covered.inPhase other old (fit.before facts) task _ here)
            · intro _ _ _ isListed other member fit
              cases isListed
              exact coveredIn_applied served requested (fit.before facts)
                ((tracked.read task ids _ _ here).2 other member)
                (covered.onList task ids _ _ here other member (fit.before facts))
          · cases allowed
  | _ => simp [ratingNext] at allowed

theorem covered_delete {reply : BackendOp.deleteRebuildRequests.Reply}
    (covered : Covered glicko history before phases) (tracked : Tracked history before phases)
    (here : phases[task]? = some phase)
    (allowed : ratingNext phase .deleteRebuildRequests reply = some after)
    (served : (serve glicko).handler before .deleteRebuildRequests reply later) :
    Covered glicko (history ++ [⟨⟨before, .deleteRebuildRequests, reply, later⟩, task, programs⟩]) later
      (phases.set task after) := by
  have kept : SameFacts before later ∧ later.snapshots = before.snapshots := by
    rcases served_store served with rfl | ⟨outside, rfl⟩ <;> exact ⟨⟨rfl, rfl⟩, rfl⟩
  cases phase with
  | listed ids waiting deferred =>
      match waiting, deferred with
      | [], false =>
          cases allowed
          apply covered_closed (quiet_set rfl (tracked.others here rfl))
          intro matchId rated fit
          rcases covered.inPhase matchId (ratedIn_other rfl rated) (fit.before kept.1) task _ here with
            snapshots | listed | ⟨deferred, _⟩
          · rw [hasSnapshots, kept.2]
            exact Or.inl snapshots
          · cases listed
          · cases deferred
      | [], true => simp [ratingNext] at allowed
      | head :: rest, _ => simp [ratingNext] at allowed
  | _ => simp [ratingNext] at allowed

theorem covered_end {reply : BackendOp.rebuildBestChampionRatings.Reply}
    (covered : Covered glicko history before phases) (tracked : Tracked history before phases)
    (follow : List.Forall₂ (Follows ratingNext RatingEnds) phases programs)
    (here : phases[task]? = some phase)
    (allowed : ratingNext phase .rebuildBestChampionRatings reply = some after)
    (served : (serve glicko).handler before .rebuildBestChampionRatings reply later)
    (heeds : Heeds glicko history ⟨⟨before, .rebuildBestChampionRatings, reply, later⟩, task, programs⟩) :
    Covered glicko (history ++ [⟨⟨before, .rebuildBestChampionRatings, reply, later⟩, task, programs⟩]) later
      (phases.set task after) := by
  have kept := served_keeps served rfl ⟨by simp, by simp⟩
  cases phase with
  | outside =>
      cases allowed
      exact Covered.ordinary covered tracked follow here rfl rfl served kept heeds
  | listed ids waiting deferred =>
      match waiting, deferred with
      | [], true =>
          cases allowed
          apply covered_closed (quiet_set rfl (tracked.others here rfl))
          intro matchId rated fit
          rcases covered.inPhase matchId (ratedIn_other rfl rated) (fit.before kept.facts) task _ here with
            snapshots | listed | ⟨_, pending⟩
          · exact Or.inl (kept.snapshots matchId snapshots)
          · cases listed
          · exact Or.inr (kept.request pending)
      | [], false => simp [ratingNext] at allowed
      | head :: rest, _ => simp [ratingNext] at allowed
  | _ => simp [ratingNext] at allowed

end Cases

theorem Covered.step (covered : Covered glicko history turn.before phases)
    (tracked : Tracked history turn.before phases)
    (follow : List.Forall₂ (Follows ratingNext RatingEnds) phases turn.programs)
    (here : phases[turn.task]? = some phase) (allowed : ratingNext phase turn.op turn.reply = some after)
    (served : (serve glicko).handler turn.before turn.op turn.reply turn.after)
    (heeds : Heeds glicko history turn) :
    Covered glicko (history ++ [turn]) turn.after (phases.set turn.task after) := by
  obtain ⟨⟨before, op, reply, later⟩, task, programs⟩ := turn
  dsimp only at covered tracked follow here allowed served ⊢
  -- the five operations of a rebuild; every other step takes place outside of one
  cases op with
  | truncateRatings => exact covered_truncate covered tracked follow here allowed served heeds
  | ratedMatches => exact covered_list tracked here allowed served heeds
  | deleteRebuildRequests => exact covered_delete covered tracked here allowed served
  | rebuildBestChampionRatings => exact covered_end covered tracked follow here allowed served heeds
  | applyMatch matchId rebuilding =>
      cases rebuilding with
      | true => exact covered_rebuild covered tracked here allowed served heeds
      | false =>
          have kept := served_keeps served rfl ⟨by simp, by simp⟩
          cases phase with
          | outside =>
              cases allowed
              exact Covered.ordinary covered tracked follow here rfl (ratedPhase_rebuilds _) served kept heeds
          | listed ids waiting deferred => cases waiting <;> simp [ratingNext] at allowed
          | _ => simp [ratingNext] at allowed
  | _ =>
      have kept := served_keeps served (ratingNext_op allowed) ⟨by simp, by simp⟩
      cases phase <;> simp [ratingNext] at allowed <;> subst allowed <;>
        exact Covered.ordinary covered tracked follow here rfl rfl served kept heeds

end Step

/-! ### Runs -/

theorem Heedful.init {history : List (BackendTurn Rating BackendOutcome)} {turn : BackendTurn Rating BackendOutcome}
    (heedful : Heedful glicko (history ++ [turn])) : Heedful glicko history ∧ Heeds glicko history turn := by
  constructor
  · intro index inside middle found
    have heeds := heedful index (by simp; omega) middle
      (by rwa [List.getElem?_append_left inside])
    rwa [List.take_append_of_le_length (Nat.le_of_lt inside)] at heeds
  · have heeds := heedful history.length (by simp) turn (by simp)
    rwa [List.take_left] at heeds

theorem Tracked.join {history : List (BackendTurn Rating BackendOutcome)} {store : Store Rating}
    {phases : List RatingPhase} (tracked : Tracked history store phases) :
    Tracked history store (phases ++ [.outside]) where
  rated task matchId found := by
    rcases getElem?_append_singleton found with old | new
    · exact tracked.rated task matchId old
    · cases new
  begun task phase found rebuilds := by
    rcases getElem?_append_singleton found with old | rfl
    · exact tracked.begun task phase old rebuilds
    · cases rebuilds
  single task other phase second found foundOther rebuilds rebuildsOther := by
    rcases getElem?_append_singleton found with old | rfl
    · rcases getElem?_append_singleton foundOther with oldOther | rfl
      · exact tracked.single task other phase second old oldOther rebuilds rebuildsOther
      · cases rebuildsOther
    · cases rebuilds
  status := tracked.status
  read task ids remaining deferred found := by
    rcases getElem?_append_singleton found with old | new
    · exact tracked.read task ids remaining deferred old
    · cases new

theorem Covered.join {history : List (BackendTurn Rating BackendOutcome)} {store : Store Rating}
    {phases : List RatingPhase} (covered : Covered glicko history store phases) :
    Covered glicko history store (phases ++ [.outside]) where
  inPhase matchId rated fit task phase found := by
    rcases getElem?_append_singleton found with old | rfl
    · exact covered.inPhase matchId rated fit task phase old
    · trivial
  idle matchId rated fit quiet := by
    apply covered.idle matchId rated fit
    intro task phase found
    apply quiet task phase
    rw [List.getElem?_append_left (List.getElem?_eq_some_iff.mp found).1, found]
  onList task ids remaining deferred found := by
    rcases getElem?_append_singleton found with old | new
    · exact covered.onList task ids remaining deferred old
    · cases new

theorem run_covered {start : Store Rating} {history : List (BackendTurn Rating BackendOutcome)}
    {state : State (Store Rating) BackendOp BackendOp.Reply BackendOutcome}
    (run : RatingRun glicko start history state) (heedful : Heedful glicko history) :
    ∃ phases, List.Forall₂ (Follows ratingNext RatingEnds) phases state.programs ∧
      Tracked history state.shared phases ∧ Covered glicko history state.shared phases := by
  have held := run_phases (fun _ => .outside) ratingCode_phases
    (fun history store phases => Heedful glicko history →
      Tracked history store phases ∧ Covered glicko history store phases)
    (fun _ => ⟨⟨by simp, by simp, by simp, by simp [RatedIn], by simp⟩, ⟨by simp, by simp [RatedIn], by simp⟩⟩)
    rfl
    (fun _ _ _ _ held heedful => ⟨(held heedful).1.join, (held heedful).2.join⟩)
    (fun _ _ _ _ _ held follow here allowed served heedful => by
      obtain ⟨earlier, heeds⟩ := heedful.init
      obtain ⟨tracked, covered⟩ := held earlier
      exact ⟨tracked.step follow here allowed served heeds,
        covered.step tracked follow here allowed served heeds⟩)
    run
  obtain ⟨phases, follow, held⟩ := held
  exact ⟨phases, follow, held heedful⟩

/-- In every run of projections, rebuilds and rebuild requests whose steps all heed
the lists: where no rebuild is running and none is requested, every eligible match
whose projection has returned `Projected` has snapshots. -/
theorem projected_matches_keep_their_ratings {start : Store Rating}
    {history : List (BackendTurn Rating BackendOutcome)}
    {state : State (Store Rating) BackendOp BackendOp.Reply BackendOutcome} {matchId : Int}
    (run : RatingRun glicko start history state) (heedful : Heedful glicko history)
    (idle : ¬RebuildRunning history state.programs) (settled : state.shared.rebuildRequest = none)
    (projected : ∃ program ∈ state.programs, program.result.bind projectedOutcome = some matchId)
    (eligible : Eligible glicko state.shared matchId) : hasSnapshots state.shared matchId = true := by
  obtain ⟨phases, follow, tracked, covered⟩ := run_covered run heedful
  obtain ⟨program, member, returned⟩ := projected
  obtain ⟨task, found⟩ := List.mem_iff_getElem?.mp member
  obtain ⟨phase, here, follows⟩ := forall₂_getElem? follow found
  obtain ⟨outcome, result, outcomeIs⟩ := Option.bind_eq_some_iff.mp returned
  rw [Program.result_eq_some.mp result, follows_done] at follows
  rw [follows.2 matchId outcomeIs] at here
  have fit : Fit glicko state.shared matchId := ⟨state.shared, ⟨rfl, rfl⟩, eligible⟩
  rcases covered.idle matchId (tracked.rated task matchId here) fit (tracked.quiet follow idle) with
    snapshots | pending
  · exact snapshots
  · rw [settled] at pending
    cases pending

/-! ### Two runs -/

def eligibleTest (glicko : Glicko Rating) (store : Store Rating) (matchId : Int) : Bool :=
  match calculateChanges glicko store matchId with
  | .ok (_ :: _) => true
  | _ => false

theorem eligible_of_test {store : Store Rating} {matchId : Int}
    (passed : eligibleTest glicko store matchId = true) : Eligible glicko store matchId := by
  unfold eligibleTest at passed
  split at passed
  · rename_i changes made
    exact ⟨_, made, by simp⟩
  · cases passed

/-- The end of a run with no rebuild under way or requested, and the match projected. -/
def settledTest (glicko : Glicko Rating) (matchId : Int)
    (state : State (Store Rating) BackendOp BackendOp.Reply BackendOutcome) : Bool :=
  state.programs.all (·.finished) && state.shared.rebuildRequest.isNone &&
    state.programs.any (fun program => decide (program.result.bind projectedOutcome = some matchId)) &&
    eligibleTest glicko state.shared matchId

theorem settled_of_test {history : List (BackendTurn Rating BackendOutcome)} {matchId : Int}
    {state : State (Store Rating) BackendOp BackendOp.Reply BackendOutcome}
    (passed : settledTest glicko matchId state = true) :
    ¬RebuildRunning history state.programs ∧ state.shared.rebuildRequest = none ∧
      (∃ program ∈ state.programs, program.result.bind projectedOutcome = some matchId) ∧
      Eligible glicko state.shared matchId := by
  simp only [settledTest, Bool.and_eq_true, List.all_eq_true, List.any_eq_true, Option.isNone_iff_eq_none,
    decide_eq_true_eq] at passed
  obtain ⟨⟨⟨finished, settled⟩, projected⟩, eligible⟩ := passed
  refine ⟨?_, settled, projected, eligible_of_test eligible⟩
  rintro ⟨turn, -, -, running⟩
  simp only [unfinished, Option.any_eq_true, Bool.not_eq_true'] at running
  obtain ⟨program, found, unfinished⟩ := running
  rw [finished program (List.mem_of_getElem? found)] at unfinished
  cases unfinished

/-- A match is projected, and then all ratings are rebuilt. -/
theorem rebuild_after_the_projection :
    ∃ history state, RatingRun pointGlicko (unprojected 7) history state ∧ Heedful pointGlicko history ∧
      (∃ turn ∈ history, truncates turn = true) ∧ hasSnapshots state.shared 7 = true := by
  have passed : (replay (serve pointGlicko) ratingCode ⟨unprojected 7, []⟩
      [.enter (.projectMatch 7), .turn 0 {}, .turn 0 {}, .turn 0 {}, .turn 0 {}, .turn 0 {}, .turn 0 {},
        .enter .reingest, .turn 1 {}, .turn 1 {}, .turn 1 {}, .turn 1 {}, .turn 1 {}]).any
      (fun reached => decide (Heedful pointGlicko reached.1) && reached.1.any truncates &&
        settledTest pointGlicko 7 reached.2) = true := by decide +kernel
  obtain ⟨history, state, run, tested⟩ := replay_reaches passed
  simp only [Bool.and_eq_true, decide_eq_true_eq, List.any_eq_true] at tested
  obtain ⟨⟨heedful, truncated⟩, settled⟩ := tested
  obtain ⟨idle, none, projected, eligible⟩ := settled_of_test settled
  exact ⟨history, state, run, heedful, truncated,
    projected_matches_keep_their_ratings run heedful idle none projected eligible⟩

/-- A rebuild is requested, and the match put off; the rebuild reads its list before
the projection has completed the match, and takes the request with it. -/
theorem deferred_match_is_never_rated :
    ¬∀ (start : Store Int) history state matchId, RatingRun pointGlicko start history state →
      ¬RebuildRunning history state.programs → state.shared.rebuildRequest = none →
      (∃ program ∈ state.programs, program.result.bind projectedOutcome = some matchId) →
      Eligible pointGlicko state.shared matchId → hasSnapshots state.shared matchId = true := by
  intro kept
  have passed : (replay (serve pointGlicko) ratingCode ⟨unprojected 7, []⟩
      [.enter (.queueRebuild 7 "late match"), .turn 0 {}, .enter (.projectMatch 7), .turn 1 {}, .turn 1 {},
        .enter .reingest, .turn 2 {}, .turn 2 {}, .turn 2 {}, .turn 2 {},
        .turn 1 {}, .turn 1 {}, .turn 1 {}, .turn 1 {}]).any
      (fun reached => settledTest pointGlicko 7 reached.2 && !hasSnapshots reached.2.shared 7) = true := by
    decide +kernel
  obtain ⟨history, state, run, tested⟩ := replay_reaches passed
  simp only [Bool.and_eq_true, Bool.not_eq_true'] at tested
  obtain ⟨idle, none, projected, eligible⟩ := settled_of_test tested.1
  have rated := kept (unprojected 7) history state 7 run idle none projected eligible
  rw [tested.2] at rated
  cases rated

end PaladinsCat.Backend
