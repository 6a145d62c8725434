import PaladinsCat.LifecycleTables
import PaladinsCat.Completion

/-!
A match is classified once. Six statements write the queue and the population of a row:
all of them keep a population that is known, and all but the checkpoint keep a queue
that is set. Only `register_discovery` and `finalize` refuse what contradicts the row;
the others go on with the classification that is there.
-/

namespace PaladinsCat.Backend

open Interleaving

variable {Rating : Type} {glicko : Glicko Rating}

/-! ### What a step keeps of one row -/

theorem adoptOne_ingest {now : Int} {parents : NonrankedParents}
    {adopting after : NonrankedAdoptionSummary × LifecycleStore Rating} {acquisition : NonrankedAcquisition}
    (adopted : adoptOne now parents adopting acquisition = some after) (matchId : Int) :
    after.2.store.ingest matchId = adopting.2.store.ingest matchId ∨
      (acquisition.matchId = matchId ∧ ∃ evidence, after.2.store.ingest matchId =
        some (adoptedRow now acquisition evidence (adopting.2.store.ingest matchId))) := by
  obtain ⟨participants, -, rfl⟩ := Option.map_eq_some_iff.mp adopted
  by_cases same : acquisition.matchId = matchId
  · subst same
    exact Or.inr ⟨rfl, _, Function.update_self _ _ _⟩
  · exact Or.inl (Function.update_of_ne (Ne.symm same) _ _)

theorem adoptNonrankedBatch_ingest {now : Int} {parents : NonrankedParents} {page : List NonrankedAcquisition}
    {adopting after : NonrankedAdoptionSummary × LifecycleStore Rating}
    (adopted : page.foldlM (adoptOne now parents) adopting = some after) (matchId : Int)
    (holds : Option IngestRow → Prop)
    (kept : ∀ row acquisition evidence, holds row → holds (some (adoptedRow now acquisition evidence row)))
    (initially : holds (adopting.2.store.ingest matchId)) : holds (after.2.store.ingest matchId) := by
  induction page generalizing adopting with
  | nil =>
      cases adopted
      exact initially
  | cons acquisition rest ih =>
      obtain ⟨middle, first, later⟩ := Option.bind_eq_some_iff.mp adopted
      apply ih later
      rcases adoptOne_ingest first matchId with same | ⟨-, evidence, same⟩
      · rwa [same]
      · rw [same]
        exact kept _ acquisition evidence initially

theorem replaceParticipantAnchors_store {now matchId : Int} {before after : LifecycleStore Rating} {owner : String}
    {anchors : List ParticipantAnchor} {owned : Bool}
    (replaced : replaceParticipantAnchors now before matchId owner anchors = some (owned, after)) :
    after.store = before.store := by
  unfold replaceParticipantAnchors at replaced
  split_ifs at replaced <;> cases replaced <;> rfl

/-- What the statements on a row and an adoption keep of it, every step keeps. -/
theorem served_keeps_row {before after : LifecycleStore Rating} {op : LifecycleOp} {reply : op.Reply}
    (served : (lifecycleServe glicko).handler before op reply after) (matchId : Int)
    (holds : Option IngestRow → Prop)
    (stated : ∀ backendOp row changed, op = .backend backendOp → RowStep backendOp matchId row changed →
      holds row → holds changed)
    (adopted : ∀ now row acquisition evidence, holds row → holds (some (adoptedRow now acquisition evidence row)))
    (initially : holds (before.store.ingest matchId)) : holds (after.store.ingest matchId) := by
  obtain ⟨-, ⟨same, -⟩ | ⟨outside, result, changed, -, effected, same, -⟩⟩ := lifecycle_served served
  · rw [same]
    exact initially
  · rw [same]
    cases op with
    | backend backendOp =>
        cases effected
        exact stated backendOp _ _ rfl (effect_rowStep outside.toOutside before.store backendOp matchId) initially
    | adoptNonrankedBatch limit =>
        exact adoptNonrankedBatch_ingest effected matchId holds (adopted outside.now) initially
    | replaceParticipantAnchors id owner anchors =>
        rw [replaceParticipantAnchors_store effected]
        exact initially

/-! ### Population and queue -/

def KeepsPopulation (first later : Option IngestRow) : Prop :=
  ∀ row, first = some row → row.population ≠ .unknown →
    ∃ changed, later = some changed ∧ changed.population = row.population

def KeepsQueue (first later : Option IngestRow) : Prop :=
  ∀ row queueId, first = some row → row.queueId = some queueId →
    ∃ changed, later = some changed ∧ changed.queueId = some queueId

theorem KeepsPopulation.trans {first middle last : Option IngestRow} (earlier : KeepsPopulation first middle)
    (later : KeepsPopulation middle last) : KeepsPopulation first last := by
  intro row stored known
  obtain ⟨changed, reached, same⟩ := earlier row stored known
  obtain ⟨final, found, kept⟩ := later changed reached (same ▸ known)
  exact ⟨final, found, kept.trans same⟩

theorem KeepsQueue.trans {first middle last : Option IngestRow} (earlier : KeepsQueue first middle)
    (later : KeepsQueue middle last) : KeepsQueue first last := by
  intro row queueId stored assigned
  obtain ⟨changed, reached, same⟩ := earlier row queueId stored assigned
  exact later changed queueId reached same

theorem keepsPopulation_of_eq {row : Option IngestRow} {changed : IngestRow}
    (same : ∀ old, row = some old → old.population ≠ .unknown → changed.population = old.population) :
    KeepsPopulation row (some changed) :=
  fun old stored known => ⟨changed, rfl, same old stored known⟩

theorem keepsQueue_of_eq {row : Option IngestRow} {changed : IngestRow}
    (same : ∀ old queueId, row = some old → old.queueId = some queueId → changed.queueId = some queueId) :
    KeepsQueue row (some changed) :=
  fun old queueId stored assigned => ⟨changed, rfl, same old queueId stored assigned⟩

theorem adoptedRow_population (now : Int) (acquisition : NonrankedAcquisition) (evidence : AdoptionEvidence)
    (row : Option IngestRow) : KeepsPopulation row (some (adoptedRow now acquisition evidence row)) := by
  apply keepsPopulation_of_eq
  rintro old rfl known
  exact if_neg known

theorem adoptedRow_queue (now : Int) (acquisition : NonrankedAcquisition) (evidence : AdoptionEvidence)
    (row : Option IngestRow) : KeepsQueue row (some (adoptedRow now acquisition evidence row)) := by
  apply keepsQueue_of_eq
  rintro old queueId rfl assigned
  simp [adoptedRow, assigned]

theorem claimedRow_class {now leaseSeconds : Int} {source owner : String} {row changed : IngestRow}
    (claimed : claimedRow now source owner leaseSeconds (some row) = some changed) :
    changed.population = row.population ∧ changed.queueId = row.queueId := by
  simp only [claimedRow] at claimed
  split at claimed
  · cases claimed
    exact ⟨rfl, rfl⟩
  · cases claimed

theorem unavailableRow_class {now queueId : Int} {source : MatchDiscoverySource} {reason : String}
    {row changed : IngestRow} (marked : unavailableRow now queueId source reason (some row) = some changed) :
    changed.population = row.population ∧ changed.queueId = row.queueId.or (some queueId) := by
  simp only [unavailableRow] at marked
  split at marked
  · cases marked
  · cases marked
    exact ⟨rfl, rfl⟩

theorem checkpointRow_queue {now : Int} {owner : String} {checkpoint : MatchCheckpoint} {row changed : IngestRow}
    (updated : checkpointRow now owner checkpoint row = some changed) :
    changed.queueId = checkpoint.queueId.or row.queueId := by
  unfold checkpointRow at updated
  split at updated
  · cases updated
    rfl
  · cases updated

theorem RowStep.population {op : BackendOp} {matchId : Int} {before after : Option IngestRow}
    (step : RowStep op matchId before after) : KeepsPopulation before after := by
  cases step with
  | keep row => exact fun old stored _ => ⟨old, stored, rfl⟩
  | register row discovery population isOp named =>
      apply keepsPopulation_of_eq
      rintro old rfl known
      exact if_neg known
  | claim row changed now source owner leaseSeconds isOp claimed =>
      apply keepsPopulation_of_eq
      rintro old rfl -
      exact (claimedRow_class claimed).1
  | checkpoint row changed now owner checkpoint isOp updated =>
      apply keepsPopulation_of_eq
      rintro old ⟨⟩ known
      rcases (checkpointRow_eq updated).2.2.2 with same | unknown
      · exact same
      · exact absurd unknown known
  | release row changed owner isOp updated =>
      obtain ⟨-, rfl⟩ := releaseRow_eq updated
      exact keepsPopulation_of_eq fun old stored _ => by cases stored; rfl
  | complete row changed now owner isOp updated =>
      obtain ⟨-, -, rfl⟩ := completeRow_eq updated
      exact keepsPopulation_of_eq fun old stored _ => by cases stored; rfl
  | unavailable row changed now queueId source reason isOp marked =>
      apply keepsPopulation_of_eq
      rintro old rfl -
      exact (unavailableRow_class marked).1
  | finalize row now payload population source isOp named agrees =>
      apply keepsPopulation_of_eq
      rintro old rfl known
      exact if_neg known
  | _ => exact keepsPopulation_of_eq fun old stored _ => by cases stored; rfl

/-- A checkpoint with a queue other than the one that is set. -/
def OverwritesQueue (store : Store Rating) (op : LifecycleOp) : Prop :=
  ∃ matchId owner checkpoint row existing incoming, op = .backend (.checkpoint matchId owner checkpoint) ∧
    store.ingest matchId = some row ∧ row.queueId = some existing ∧ checkpoint.queueId = some incoming ∧
    incoming ≠ existing

theorem RowStep.queue {op : BackendOp} {matchId : Int} {before after : Option IngestRow}
    (step : RowStep op matchId before after)
    (agrees : ∀ owner checkpoint row existing incoming, op = .checkpoint matchId owner checkpoint →
      before = some row → row.queueId = some existing → checkpoint.queueId = some incoming → incoming = existing) :
    KeepsQueue before after := by
  cases step with
  | keep row => exact fun old queueId stored assigned => ⟨old, stored, assigned⟩
  | register row discovery population isOp named =>
      apply keepsQueue_of_eq
      rintro old queueId rfl assigned
      simp [registeredRow, assigned]
  | claim row changed now source owner leaseSeconds isOp claimed =>
      apply keepsQueue_of_eq
      rintro old queueId rfl assigned
      exact (claimedRow_class claimed).2.trans assigned
  | checkpoint row changed now owner checkpoint isOp updated =>
      apply keepsQueue_of_eq
      rintro old queueId ⟨⟩ assigned
      rw [checkpointRow_queue updated]
      cases carried : checkpoint.queueId with
      | none => simpa using assigned
      | some incoming => simp [agrees owner checkpoint row queueId incoming isOp rfl assigned carried]
  | release row changed owner isOp updated =>
      obtain ⟨-, rfl⟩ := releaseRow_eq updated
      exact keepsQueue_of_eq fun old queueId stored assigned => by cases stored; exact assigned
  | complete row changed now owner isOp updated =>
      obtain ⟨-, -, rfl⟩ := completeRow_eq updated
      exact keepsQueue_of_eq fun old queueId stored assigned => by cases stored; exact assigned
  | unavailable row changed now queueId source reason isOp marked =>
      apply keepsQueue_of_eq
      rintro old existing rfl assigned
      rw [(unavailableRow_class marked).2, assigned]
      rfl
  | finalize row now payload population source isOp named same =>
      apply keepsQueue_of_eq
      rintro old queueId rfl assigned
      simp [closedRow, lockedRow, assigned]
  | _ => exact keepsQueue_of_eq fun old queueId stored assigned => by cases stored; exact assigned

theorem served_population {before after : LifecycleStore Rating} {op : LifecycleOp} {reply : op.Reply}
    (served : (lifecycleServe glicko).handler before op reply after) (matchId : Int) :
    KeepsPopulation (before.store.ingest matchId) (after.store.ingest matchId) := by
  apply served_keeps_row served matchId (KeepsPopulation (before.store.ingest matchId))
  · exact fun _ _ _ _ step earlier => earlier.trans step.population
  · exact fun now row acquisition evidence earlier =>
      earlier.trans (adoptedRow_population now acquisition evidence row)
  · exact fun row stored _ => ⟨row, stored, rfl⟩

theorem served_queue {before after : LifecycleStore Rating} {op : LifecycleOp} {reply : op.Reply}
    (served : (lifecycleServe glicko).handler before op reply after)
    (agrees : ¬OverwritesQueue before.store op) (matchId : Int) :
    KeepsQueue (before.store.ingest matchId) (after.store.ingest matchId) := by
  obtain ⟨-, ⟨same, -⟩ | ⟨outside, result, changed, -, effected, same, -⟩⟩ := lifecycle_served served
  · rw [same]
    exact fun row queueId stored assigned => ⟨row, stored, assigned⟩
  · rw [same]
    cases op with
    | backend op =>
        cases effected
        apply (effect_rowStep outside.toOutside before.store op matchId).queue
        intro owner checkpoint row existing incoming isOp stored assigned carried
        by_contra differs
        exact agrees ⟨matchId, owner, checkpoint, row, existing, incoming, by rw [isOp], stored, assigned,
          carried, differs⟩
    | adoptNonrankedBatch limit =>
        apply adoptNonrankedBatch_ingest effected matchId (KeepsQueue (before.store.ingest matchId))
        · exact fun row acquisition evidence earlier =>
            earlier.trans (adoptedRow_queue outside.now acquisition evidence row)
        · exact fun row queueId stored assigned => ⟨row, stored, assigned⟩
    | replaceParticipantAnchors id owner anchors =>
        rw [replaceParticipantAnchors_store effected]
        exact fun row queueId stored assigned => ⟨row, stored, assigned⟩

/-! ### Refused conflicts -/

/-- The queue and the population that an operation brings for a match. -/
def broughtBy (store : Store Rating) : LifecycleOp → Option (Int × Option Int × MatchPopulation)
  | .backend (.registerDiscovery discovery) =>
      some (discovery.matchId, discovery.queueId, incomingPopulation store discovery.queueId)
  | .backend (.finalize payload _) =>
      some (payload.matchId, some payload.queueId, (classifyQueue store payload.queueId).1)
  | .backend (.checkpoint matchId _ checkpoint) => some (matchId, checkpoint.queueId, checkpoint.population)
  | .backend (.markTerminalUnavailable matchId queueId _ _) => some (matchId, some queueId, .unknown)
  | _ => none

/-- The operations that refuse a classification other than that of the row. -/
def LifecycleOp.refuses : LifecycleOp → Bool
  | .backend (.registerDiscovery _) | .backend (.finalize _ _) => true
  | _ => false

def LifecycleOp.conflicted : (op : LifecycleOp) → op.Result → Bool
  | .backend (.registerDiscovery _) => fun result : Except ConflictError _ => !result.isOk
  | .backend (.finalize _ _) => fun result : Except ConflictError _ => !result.isOk
  | _ => fun _ => false

def LifecycleOp.failed (op : LifecycleOp) (reply : op.Reply) : Bool :=
  match reply with
  | .error _ => true
  | .ok result => op.conflicted result

def Contradicts (row : IngestRow) (queueId : Option Int) (population : MatchPopulation) : Prop :=
  (∃ existing incoming, row.queueId = some existing ∧ queueId = some incoming ∧ existing ≠ incoming) ∨
    (row.population ≠ .unknown ∧ population ≠ .unknown ∧ row.population ≠ population)

/-- If what an operation brings contradicts the row, it fails, and the row stays as it is. -/
def RefusesConflict (turn : LifecycleTurn Rating) : Prop :=
  ∀ matchId queueId population row, broughtBy turn.before.store turn.op = some (matchId, queueId, population) →
    turn.before.store.ingest matchId = some row → Contradicts row queueId population →
    turn.op.failed turn.reply = true ∧ turn.after.store.ingest matchId = some row

theorem discoveryConflict_of_contradicts {discovery : MatchDiscovery} {population : MatchPopulation}
    {row : IngestRow} (contradicts : Contradicts row discovery.queueId population) :
    ∃ conflict, discoveryConflict discovery population row = some conflict := by
  unfold discoveryConflict
  split
  · exact ⟨_, rfl⟩
  · rename_i agrees
    rcases contradicts with ⟨existing, incoming, assigned, carried, differs⟩ | differs
    · simp [assigned, carried, differs]
    · exact absurd differs agrees

theorem factConflict_of_contradicts {payload : CanonicalMatchPayload} {population : MatchPopulation}
    {row : IngestRow} (contradicts : Contradicts row (some payload.queueId) population) :
    ∃ conflict, factConflict payload population row = some conflict := by
  unfold factConflict
  rcases contradicts with ⟨existing, incoming, assigned, carried, differs⟩ | ⟨known, -, differs⟩
  · cases carried
    exact ⟨_, if_pos (by simpa [assigned] using differs)⟩
  · split
    · exact ⟨_, rfl⟩
    · exact ⟨_, if_pos ⟨known, differs⟩⟩

theorem refuses_conflict {turn : LifecycleTurn Rating}
    (served : (lifecycleServe glicko).handler turn.before turn.op turn.reply turn.after)
    (refuses : turn.op.refuses = true) : RefusesConflict turn := by
  obtain ⟨⟨before, op, reply, after⟩, task, programs⟩ := turn
  intro matchId queueId population row brought stored contradicts
  dsimp only at served refuses brought stored ⊢
  obtain ⟨-, ⟨same, error, failed⟩ | ⟨outside, result, changed, -, effected, same, replied⟩⟩ :=
    lifecycle_served served
  · subst failed
    rw [same]
    exact ⟨rfl, stored⟩
  · unfold LifecycleOp.refuses at refuses
    split at refuses
    · rename_i discovery
      cases brought
      obtain ⟨conflict, found⟩ := discoveryConflict_of_contradicts contradicts
      have refused : registerDiscovery before.store discovery = (.error conflict, before.store) := by
        simp [registerDiscovery, stored, found]
      simp only [lifecycleEffect, effect, refused] at effected
      cases effected
      rw [same]
      refine ⟨?_, stored⟩
      rcases replied with rfl | ⟨error, rfl⟩ <;> rfl
    · rename_i payload source
      cases brought
      obtain ⟨conflict, found⟩ := factConflict_of_contradicts contradicts
      have refused : finalize outside.now before.store payload source = (.error conflict, before.store) := by
        simp [finalize, stored, found]
      simp only [lifecycleEffect, effect, refused] at effected
      cases effected
      rw [same]
      refine ⟨?_, stored⟩
      rcases replied with rfl | ⟨error, rfl⟩ <;> rfl
    · cases refuses

/-! ### Whole runs -/

/-- In every run: a population that is known stays for good; a queue that is set stays
from any state on, as long as no checkpoint brings another one; and the operations that
refuse a contradiction fail on it, and leave the row alone. -/
theorem classified_once {start : LifecycleStore Rating} {history : List (LifecycleTurn Rating)}
    {state : State (LifecycleStore Rating) LifecycleOp LifecycleOp.Reply (Σ op : LifecycleOp, op.Reply)}
    (run : LifecycleRun glicko start history state) :
    ((history.map (·.before) ++ [state.shared]).Pairwise fun first later => ∀ matchId,
      KeepsPopulation (first.store.ingest matchId) (later.store.ingest matchId)) ∧
    (∀ earlier turn later, history = earlier ++ turn :: later →
      (∀ next ∈ turn :: later, ¬OverwritesQueue next.before.store next.op) → ∀ matchId,
        KeepsQueue (turn.before.store.ingest matchId) (state.shared.store.ingest matchId)) ∧
    ∀ turn ∈ history, turn.op.refuses = true → RefusesConflict turn := by
  refine ⟨?_, ?_, ?_⟩
  · apply run_states_pairwise (fun first later : LifecycleStore Rating => ∀ matchId,
      KeepsPopulation (first.store.ingest matchId) (later.store.ingest matchId)) _ _ run
    · exact fun _ _ row stored _ => ⟨row, stored, rfl⟩
    · exact fun _ _ _ _ _ earlier served matchId => (earlier matchId).trans (served_population served matchId)
  · intro earlier turn later split agrees matchId
    apply run_from (fun store : LifecycleStore Rating =>
      KeepsQueue (turn.before.store.ingest matchId) (store.store.ingest matchId)) run split
    · exact fun row queueId stored assigned => ⟨row, stored, assigned⟩
    · exact fun next member reached served => reached.trans (served_queue served (agrees next member) matchId)
  · exact fun turn member refuses => refuses_conflict (run_turn run member).1 refuses

def discovered (matchId queueId : Int) : LifecycleOp := .backend (.registerDiscovery ⟨matchId, some queueId, .hourlyDiscovery⟩)

def blankTables : LifecycleStore Int where
  store := blank
  acquisitions := [⟨7, 424, .casual, 0, 10, 1, none, none⟩]

/-- The adoption comes after a discovery in another queue, and keeps what that has set. -/
theorem classified_before_the_adoption :
    ∃ history state, LifecycleRun pointGlicko blankTables history state ∧
      (state.shared.store.ingest 7).any (fun row => row.population == .ranked && row.queueId == some rankedQueueId &&
        row.acquisitionState == .recoveryPending) = true ∧
      (history.map (·.before) ++ [state.shared]).Pairwise fun first later => ∀ matchId,
        KeepsPopulation (first.store.ingest matchId) (later.store.ingest matchId) := by
  have passed : (replay (lifecycleServe pointGlicko) lifecycleCode ⟨blankTables, []⟩
      [.enter (discovered 7 rankedQueueId), .turn 0 {}, .enter (.adoptNonrankedBatch 10), .turn 1 {}]).any
      (fun reached => (reached.2.shared.store.ingest 7).any fun row => row.population == .ranked &&
        row.queueId == some rankedQueueId && row.acquisitionState == .recoveryPending) = true := by decide +kernel
  obtain ⟨history, state, run, tested⟩ := replay_reaches passed
  exact ⟨history, state, run, tested, (classified_once run).1⟩

/-- `mark_terminal_unavailable` with another queue is carried out, and a checkpoint with
another queue overwrites the one that is set. -/
theorem conflicting_queues_accepted :
    (¬∀ (start : LifecycleStore Int) history state, LifecycleRun pointGlicko start history state →
      ∀ turn ∈ history, RefusesConflict turn) ∧
    ¬∀ (start : LifecycleStore Int) history state, LifecycleRun pointGlicko start history state →
      (history.map (·.before) ++ [state.shared]).Pairwise fun first later => ∀ matchId,
        KeepsQueue (first.store.ingest matchId) (later.store.ingest matchId) := by
  constructor
  · intro refused
    have passed : (replay (lifecycleServe pointGlicko) lifecycleCode ⟨blankTables, []⟩
        [.enter (discovered 7 rankedQueueId), .turn 0 {},
          .enter (.backend (.markTerminalUnavailable 7 424 .hourlyDiscovery terminalNoCompletedMatchReason)),
          .turn 1 {}]).any
        (fun reached => reached.1.any fun turn => !turn.op.failed turn.reply &&
          (broughtBy turn.before.store turn.op).any fun brought => brought.2.1 == some 424 &&
            (turn.before.store.ingest brought.1).any fun row => row.queueId == some rankedQueueId) = true := by
      decide +kernel
    obtain ⟨history, state, run, tested⟩ := replay_reaches passed
    obtain ⟨turn, member, tested⟩ := List.any_eq_true.mp tested
    simp only [Bool.and_eq_true, Bool.not_eq_true', Option.any_eq_true, beq_iff_eq] at tested
    obtain ⟨accepted, ⟨matchId, queueId, population⟩, brought, carried, row, stored, assigned⟩ := tested
    obtain ⟨failed, -⟩ := refused blankTables history state run turn member matchId queueId population row brought
      stored (Or.inl ⟨rankedQueueId, 424, assigned, carried, by decide⟩)
    rw [accepted] at failed
    cases failed
  · intro kept
    have passed : (replay (lifecycleServe pointGlicko) lifecycleCode ⟨blankTables, []⟩
        [.enter (discovered 7 rankedQueueId), .turn 0 {},
          .enter (.backend (.claim 7 "hourly_discovery" "worker" 60)), .turn 1 {},
          .enter (.backend (.checkpoint 7 "worker"
            ⟨some 424, .casual, .detailComplete, true, true, false, 10, 10, []⟩)), .turn 2 {}]).any
        (fun reached => (reached.2.shared.store.ingest 7).any (fun row => row.queueId == some 424) &&
          reached.1.any fun turn =>
            (turn.before.store.ingest 7).any fun row => row.queueId == some rankedQueueId) = true := by decide +kernel
    obtain ⟨history, state, run, tested⟩ := replay_reaches passed
    simp only [Bool.and_eq_true, List.any_eq_true, Option.any_eq_true, beq_iff_eq] at tested
    obtain ⟨⟨last, found, overwritten⟩, turn, member, row, stored, assigned⟩ := tested
    have pairwise := kept blankTables history state run
    have later := (List.pairwise_append.mp pairwise).2.2 turn.before (List.mem_map_of_mem member) state.shared
      (by simp)
    obtain ⟨changed, same, still⟩ := later 7 row rankedQueueId stored assigned
    cases found.symm.trans same
    rw [overwritten] at still
    cases still

end PaladinsCat.Backend
