import PaladinsCat.HourSearch

/-!
How an hour ends whose search has succeeded. A later worker reads the matches of the
hour from the discoveries, where a match stays with the hour that has seen it first, and
never searches again. So it closes the hour exactly if a match has been recorded under it.
-/

namespace PaladinsCat.Backend

open Interleaving

/-! ### The search and its record -/

/-- The worker may still search, or has not recorded yet what it has found. -/
def HourStage.unrecorded : HourStage → Bool
  | .granted | .searched _ => true
  | _ => false

/-- The worker is the one that got to search, and has not failed or closed the hour. -/
def HourStage.searcher : HourStage → Bool
  | .granted | .searched _ | .emptied => true
  | .draining bySearch _ => bySearch
  | _ => false

def isSearcher (key : HourKey) (phase : HourPhase) : Nat := (decide (phase.key = key) && phase.stage.searcher).toNat

section Moves
variable {before after : HourStore} {key : HourKey} {stage next : HourStage} {op : HourOp} {reply : op.Reply}

/-- A worker that gets to search marks the hour as searched, and as not yet succeeded. -/
def Gains (before after : HourStore) (key : HourKey) : Prop :=
  before.fetched key = false ∧ after.fetched key = true ∧ after.searched key = false

theorem StageMove.searcher (served : hourServe.handler before op reply after) (move : StageMove key stage op reply next)
    (searches : next.searcher = true) : stage.searcher = true ∨ Gains before after key := by
  cases move with
  | claim reply => rcases reply with _ | _ | _ <;> cases searches
  | read reply =>
      rcases reply with error | known
      · cases searches
      · by_cases none_ : known.1 = [] <;> simp [failedOr, none_, HourStage.searcher] at searches
  | request reply =>
      rcases reply with _ | _ | _
      · cases searches
      · cases searches
      · exact Or.inr (search_granted served)
  | search reply | record reply => exact Or.inl rfl
  | drain drains reply => exact Or.inl searches
  | reject | abandon | report => cases searches
  | empty reply | count reply | complete reply | giveUp reply => cases reply <;> cases searches

theorem StageMove.unrecorded (served : hourServe.handler before op reply after)
    (move : StageMove key stage op reply next) (searches : next.unrecorded = true) :
    stage.unrecorded = true ∨ Gains before after key := by
  cases move with
  | claim reply => rcases reply with _ | _ | _ <;> cases searches
  | read reply =>
      rcases reply with error | known
      · cases searches
      · by_cases none_ : known.1 = [] <;> simp [failedOr, none_, HourStage.unrecorded] at searches
  | request reply =>
      rcases reply with _ | _ | _
      · cases searches
      · cases searches
      · exact Or.inr (search_granted served)
  | @record observations reply => exact Or.inl rfl
  | search reply => exact Or.inl rfl
  | drain drains reply => cases searches
  | reject | abandon | report => cases searches
  | empty reply | count reply | complete reply | giveUp reply => cases reply <;> cases searches

end Moves

section Rows
variable {now : Int} {key : HourKey} {op : HourOp} {before after : Option HourlyIngestState}

/-- A statement by which the ledger comes to say that the search has succeeded. -/
def HourOp.succeeds (key : HourKey) : HourOp → Bool
  | .recordDiscovery other _ | .markEmpty other | .markComplete other _ => other = key
  | _ => false

theorem claimedHour_searched {source : String} {reopenable : Bool} {state : HourlyIngestState}
    (taken : claimedHour now source reopenable before = some state) (succeeded : state.fetchSucceeded = true) :
    before.any (·.fetchSucceeded) = true := by
  cases before with
  | none =>
      cases taken
      cases succeeded
  | some row =>
      simp only [claimedHour] at taken
      split at taken
      · cases taken
        exact succeeded
      · cases taken

theorem HourRowStep.searched (step : HourRowStep now key op before after) (succeeded : after.any (·.fetchSucceeded) = true) :
    before.any (·.fetchSucceeded) = true ∨ op.succeeds key = true := by
  cases step with
  | kept => exact Or.inl succeeded
  | claimed taken => exact Or.inl (claimedHour_searched taken succeeded)
  | granted => cases succeeded
  | refreshed => exact Or.inl succeeded
  | recorded | emptied | completed => exact Or.inr (by simp [HourOp.succeeds])
  | failed _ _ kept => exact Or.inl (kept.symm.trans succeeded)

theorem HourRowStep.marked (step : HourRowStep now key op before after)
    (marked : before.any (·.fetchSucceeded) = true → before.any (·.fetched) = true)
    (succeeded : after.any (·.fetchSucceeded) = true) : after.any (·.fetched) = true := by
  cases step with
  | kept => exact marked succeeded
  | claimed taken => exact claimedHour_fetched taken (marked (claimedHour_searched taken succeeded))
  | granted => cases succeeded
  | refreshed => exact marked succeeded
  | recorded => rfl
  | emptied _ fetched | completed _ fetched => exact fetched
  | failed _ same kept => exact same.trans (marked (kept.symm.trans succeeded))

theorem HourRowStep.keepsSearched (step : HourRowStep now key op before after)
    (marked : before.any (·.fetched) = true) (succeeded : before.any (·.fetchSucceeded) = true) :
    after.any (·.fetchSucceeded) = true := by
  cases step with
  | kept | refreshed => exact succeeded
  | @claimed source reopenable row state taken =>
      cases before with
      | none => cases succeeded
      | some row =>
          simp only [claimedHour] at taken
          split at taken
          · cases taken
            exact succeeded
          · cases taken
  | granted working free =>
      rw [Option.any_some, free] at marked
      cases marked
  | recorded => rfl
  | emptied _ _ success | completed _ _ success => exact success
  | failed _ _ kept => exact kept.trans succeeded

end Rows

/-! ### What the ledger and the workers know of an hour -/

/-- At most one worker has the search; a succeeded search was marked; once it has succeeded, the
hour has matches or nobody is to record any; and who has read matches there finds them still. -/
structure Ledgered (key : HourKey) (shared : HourStore) (phases : List HourPhase) : Prop where
  single : (phases.map (isSearcher key)).sum ≤ (shared.fetched key).toNat
  marked : shared.searched key = true → shared.fetched key = true
  settled : shared.searched key = true → shared.ids key = [] →
    ∀ phase ∈ phases, phase.key = key → phase.stage.unrecorded = false
  known : ∀ phase ∈ phases, phase.key = key → ∀ troubled, phase.stage = .draining false troubled →
    shared.ids key ≠ []

section Ledgered
variable {key : HourKey} {before after : HourStore} {op : HourOp} {reply : op.Reply} {phases : List HourPhase}
  {task : Nat} {phase next : HourPhase}

theorem searcher_step (served : hourServe.handler before op reply after) (moved : hourNext phase op reply = some next)
    (key : HourKey) :
    isSearcher key next + (before.fetched key).toNat ≤ isSearcher key phase + (after.fetched key).toNat := by
  have mono : (before.fetched key).toNat ≤ (after.fetched key).toNat :=
    Bool.toNat_le_toNat (fetched_mono served)
  obtain ⟨same, move⟩ := hour_move moved
  by_cases searches : next.key = key ∧ next.stage.searcher = true
  · obtain ⟨rfl, searches⟩ := searches
    rw [← same] at move
    rcases move.searcher served searches with earlier | ⟨free, gained, -⟩
    · simpa [isSearcher, searches, earlier, same] using mono
    · simp [isSearcher, searches, free, gained]
  · have none_ : isSearcher key next = 0 := by
      simp only [not_and, Bool.not_eq_true] at searches
      by_cases here : next.key = key <;> simp [isSearcher, here, searches]
    omega

theorem ids_ne_nil (served : hourServe.handler before op reply after) (some_ : before.ids key ≠ []) :
    after.ids key ≠ [] := by
  obtain ⟨id, listed⟩ := List.exists_mem_of_ne_nil _ some_
  exact List.ne_nil_of_mem ((hour_step served key).keeps id listed)

theorem read_replied {known : { ids : List Int // ids.Nodup }}
    (served : hourServe.handler before (.discoveredIds key) (.ok known) after) : known.1 = before.ids key := by
  obtain ⟨outside, found, -, same, -, effected⟩ := hour_replied served
  simp only [hourEffect, Except.ok.injEq, Prod.mk.injEq] at effected
  simp [← effected.1, HourStore.ids, same]

/-- A worker that has read matches has read some. -/
theorem StageMove.known {stage last : HourStage} (served : hourServe.handler before op reply after)
    (move : StageMove key stage op reply last) {troubled : Bool} (reads : last = .draining false troubled) :
    before.ids key ≠ [] ∨ ∃ earlier, stage = .draining false earlier := by
  cases move with
  | claim reply | request reply => rcases reply with _ | _ | _ <;> cases reads
  | read reply =>
      rcases reply with error | known
      · cases reads
      · by_cases none_ : known.1 = []
        · simp [failedOr, none_] at reads
        · exact Or.inl (read_replied served ▸ none_)
  | @record observations reply =>
      rcases reply with error | count
      · cases reads
      · by_cases none_ : observations = [] <;> simp [failedOr, none_] at reads
  | drain drains reply =>
      cases reads
      exact Or.inr ⟨_, rfl⟩
  | reject | abandon | report => cases reads
  | search reply | empty reply | count reply | complete reply | giveUp reply => cases reply <;> cases reads

/-- Who makes the ledger say that the search has succeeded has the search, or has read matches. -/
theorem StageMove.succeeds {other : HourKey} {stage last : HourStage} (move : StageMove other stage op reply last)
    (succeeds : op.succeeds key = true) : other = key ∧ last.unrecorded = false ∧
      (stage.searcher = true ∨ ∃ troubled, stage = .draining false troubled) := by
  cases move with
  | @record observations reply =>
      apply And.intro (by simpa [HourOp.succeeds] using succeeds)
      rcases reply with error | count
      · exact ⟨rfl, Or.inl rfl⟩
      · by_cases none_ : observations = [] <;> simp [failedOr, none_, HourStage.unrecorded, HourStage.searcher]
  | empty reply =>
      apply And.intro (by simpa [HourOp.succeeds] using succeeds)
      cases reply <;> exact ⟨rfl, Or.inl rfl⟩
  | @complete searched totalMatches reply =>
      apply And.intro (by simpa [HourOp.succeeds] using succeeds)
      cases reply <;> cases searched <;> simp [failedOr, HourStage.unrecorded, HourStage.searcher]
  | drain drains reply => cases op <;> first | cases succeeds | cases drains
  | _ => cases succeeds

theorem ledgered_step (served : hourServe.handler before op reply after) (ledgered : Ledgered key before phases)
    (found : phases[task]? = some phase) (moved : hourNext phase op reply = some next) :
    Ledgered key after (phases.set task next) := by
  have step := hour_step served key
  obtain ⟨same, move⟩ := hour_move moved
  have listed := List.mem_of_getElem? found
  constructor
  · have counted := searcher_step served moved key
    have total := total_set (isSearcher key) found next
    have before := ledgered.single
    omega
  · exact step.row.marked ledgered.marked
  · intro succeeded empty
    have none_ : before.ids key = [] := List.eq_nil_iff_forall_not_mem.mpr fun id member =>
      List.not_mem_nil (empty ▸ step.keeps id member)
    intro worker member here
    rcases step.row.searched succeeded with earlier | succeeds
    · have settled := ledgered.settled earlier none_
      rcases mem_set_cases member with rfl | ⟨index, -, other⟩
      · by_contra searching
        rw [Bool.not_eq_false] at searching
        subst here
        rw [← same] at move
        rcases move.unrecorded served searching with before | ⟨-, -, later⟩
        · rw [settled phase listed same.symm] at before
          cases before
        · rw [later] at succeeded
          cases succeeded
      · exact settled worker (List.mem_of_getElem? other) here
    · obtain ⟨owner, recorded, searches | ⟨troubled, reading⟩⟩ := move.succeeds succeeds
      · rcases mem_set_cases member with rfl | ⟨index, apart, other⟩
        · exact recorded
        · have nothing := rest_of_sum (ledgered.single.trans (Bool.toNat_le _)) found
            (by simp [isSearcher, owner, searches]) other apart
          cases stands : worker.stage <;> simp_all [isSearcher, HourStage.unrecorded, HourStage.searcher]
      · exact absurd none_ (ledgered.known phase listed owner troubled reading)
  · intro worker member here troubled reading
    rcases mem_set_cases member with rfl | ⟨index, -, other⟩
    · subst here
      rw [← same] at move
      rcases move.known served reading with some_ | ⟨earlier, before⟩
      · exact ids_ne_nil served some_
      · exact ids_ne_nil served (ledgered.known phase listed same.symm earlier before)
    · exact ids_ne_nil served (ledgered.known worker (List.mem_of_getElem? other) here troubled reading)

end Ledgered

/-! ### One later worker -/

/-- The claim of the hour got it. -/
def HourOp.claims (key : HourKey) : (op : HourOp) → op.Reply → Bool
  | .claimHour other _ => fun reply : Except PipelineError Bool =>
      match reply with
      | .ok owned => decide (other = key) && owned
      | .error _ => false
  | _ => fun _ => false

def HourOp.closes (key : HourKey) : HourOp → Bool
  | .markEmpty other | .markComplete other _ => other = key
  | _ => false

/-- A worker gets an hour whose search has succeeded. -/
def LaterClaim (key : HourKey) (claim : HourTurn) : Prop :=
  claim.op.claims key claim.reply = true ∧ claim.before.searched key = true

def ClosedBy (key : HourKey) (history : List HourTurn) (task : Nat) : Prop :=
  ∃ turn ∈ history, turn.task = task ∧ turn.op.closes key = true ∧
    ∃ row, turn.after.hours key = some row ∧ (row.status = .empty ∨ row.status = .complete)

/-- A statement of the worker has failed, the relay has not answered it, or one of its matches has not
been resolved. -/
def TroubledBy (history : List HourTurn) (task : Nat) : Prop :=
  ∃ turn ∈ history, turn.task = task ∧ turn.op.failing turn.reply = true

/-- Where a later worker is, by whether the hour had matches when it got it. -/
inductive LaterStage (known : Bool) (closed troubled : Prop) : HourStage → Prop where
  | claimed : LaterStage known closed troubled .claimed
  | draining (some_ : known = true) : LaterStage known closed troubled (.draining false false)
  | stuck (some_ : known = true) (trouble : troubled) : LaterStage known closed troubled (.draining false true)
  | closed (some_ : known = true) (done : closed) : LaterStage known closed troubled .closed
  | unsearched (none_ : known = false) : LaterStage known closed troubled .unsearched
  | attempted (none_ : known = false) : LaterStage known closed troubled .attempted
  | failed (trouble : troubled) : LaterStage known closed troubled .failed

theorem LaterStage.imp {known : Bool} {closed troubled closedNow troubledNow : Prop} {stage : HourStage}
    (later : LaterStage known closed troubled stage) (keepsClosed : closed → closedNow)
    (keepsTroubled : troubled → troubledNow) : LaterStage known closedNow troubledNow stage := by
  cases later with
  | claimed => exact .claimed
  | draining some_ => exact .draining some_
  | stuck some_ trouble => exact .stuck some_ (keepsTroubled trouble)
  | closed some_ done => exact .closed some_ (keepsClosed done)
  | unsearched none_ => exact .unsearched none_
  | attempted none_ => exact .attempted none_
  | failed trouble => exact .failed (keepsTroubled trouble)

section Later
variable {key : HourKey} {before after : HourStore} {op : HourOp} {reply : op.Reply}

theorem complete_closes {totalMatches : Int} (marked : before.fetched key = true)
    (served : hourServe.handler before (.markComplete key totalMatches) (.ok ()) after) :
    ∃ row, after.hours key = some row ∧ row.status = .complete := by
  obtain ⟨outside, found, same, -, -, effected⟩ := hour_replied served
  simp only [hourEffect, markHourlyIngestComplete, Except.ok.injEq, Prod.mk.injEq, true_and] at effected
  subst effected
  rw [updateHour_hours, if_pos rfl, same]
  cases stored : before.hours key with
  | none => simp [HourStore.fetched, stored] at marked
  | some state => exact ⟨_, rfl, rfl⟩

theorem laterStage_step {known : Bool} {closed troubled closedNow troubledNow : Prop} {stage next : HourStage}
    (served : hourServe.handler before op reply after) (marked : before.fetched key = true)
    (reads : known = true ↔ before.ids key ≠ []) (later : LaterStage known closed troubled stage)
    (move : StageMove key stage op reply next) (keepsClosed : closed → closedNow)
    (keepsTroubled : troubled → troubledNow)
    (closes : op.closes key = true → (∃ row, after.hours key = some row ∧ row.status = .complete) → closedNow)
    (fails : op.failing reply = true → troubledNow) : LaterStage known closedNow troubledNow next := by
  cases later with
  | claimed =>
      cases move with
      | read reply =>
          rcases reply with error | found
          · exact .failed (fails rfl)
          · have same := read_replied served
            by_cases none_ : found.1 = []
            · simp only [failedOr, none_, if_true]
              exact .unsearched (by simpa [← same, none_] using reads)
            · simp only [failedOr, none_, if_false]
              exact .draining (reads.mpr (same ▸ none_))
  | draining some_ =>
      cases move with
      | complete reply =>
          rcases reply with error | _
          · exact .failed (fails rfl)
          · exact .closed some_ (closes (by simp [HourOp.closes]) (complete_closes marked served))
      | drain drains reply =>
          cases trouble : op.failing reply with
          | true => exact .stuck some_ (fails trouble)
          | false => exact .draining some_
  | stuck some_ trouble =>
      cases move with
      | abandon reply => exact .failed (keepsTroubled trouble)
      | drain drains reply => exact .stuck some_ (keepsTroubled trouble)
  | closed some_ done =>
      cases move with
      | count reply =>
          rcases reply with error | _
          · exact .failed (fails rfl)
          · exact .closed some_ (keepsClosed done)
  | unsearched none_ =>
      cases move with
      | request reply =>
          rcases reply with error | _ | _
          · exact .failed (fails rfl)
          · exact .attempted none_
          · rw [(search_granted served).1] at marked
            cases marked
  | attempted none_ =>
      cases move with
      | giveUp reply =>
          rcases reply with error | _
          · exact .failed (fails rfl)
          · exact .attempted none_
  | failed trouble =>
      cases move with
      | report reply => exact .failed (keepsTroubled trouble)

end Later

section Tracked
variable {key : HourKey} {history : List HourTurn} {phases : List HourPhase} {phase next : HourPhase} {turn : HourTurn}

/-- A later worker, seen from now. -/
structure LaterWorker (key : HourKey) (history : List HourTurn) (shared : HourStore) (phases : List HourPhase)
    (claim : HourTurn) : Prop where
  searched : shared.searched key = true
  ids : shared.ids key ≠ [] ↔ claim.before.ids key ≠ []
  stage : ∃ phase, phases[claim.task]? = some phase ∧ phase.key = key ∧
    LaterStage (decide (claim.before.ids key ≠ [])) (ClosedBy key history claim.task) (TroubledBy history claim.task)
      phase.stage

theorem searched_mono (ledgered : Ledgered key turn.before phases)
    (served : hourServe.handler turn.before turn.op turn.reply turn.after) (searched : turn.before.searched key = true) :
    turn.after.searched key = true :=
  (hour_step served key).row.keepsSearched (ledgered.marked searched) searched

/-- Once the search has succeeded, an hour without matches gets none. -/
theorem ids_steady (ledgered : Ledgered key turn.before phases) (found : phases[turn.task]? = some phase)
    (moved : hourNext phase turn.op turn.reply = some next)
    (served : hourServe.handler turn.before turn.op turn.reply turn.after)
    (searched : turn.before.searched key = true) : turn.after.ids key ≠ [] ↔ turn.before.ids key ≠ [] := by
  constructor
  · intro later none_
    obtain ⟨⟨before, op, reply, after⟩, task, programs⟩ := turn
    dsimp only at *
    obtain ⟨-, move⟩ := hour_move moved
    rcases (hour_step served key).finds with ⟨observations, rfl⟩ | same
    · obtain ⟨other, stage⟩ := phase
      obtain ⟨_, last⟩ := next
      dsimp only at move
      cases move with
      | record reply =>
          have recorded := ledgered.settled searched none_ _ (List.mem_of_getElem? found) rfl
          cases recorded
      | drain drains reply => cases drains
    · exact later (List.eq_nil_iff_forall_not_mem.mpr fun id member => List.not_mem_nil (none_ ▸ same id member))
  · exact ids_ne_nil served

theorem TroubledBy.later {task : Nat} (troubled : TroubledBy history task) : TroubledBy (history ++ [turn]) task := by
  obtain ⟨failing, member, facts⟩ := troubled
  exact ⟨failing, List.mem_append_left _ member, facts⟩

theorem ClosedBy.later {task : Nat} (closed : ClosedBy key history task) : ClosedBy key (history ++ [turn]) task := by
  obtain ⟨closing, member, facts⟩ := closed
  exact ⟨closing, List.mem_append_left _ member, facts⟩

theorem laterWorker_claims (ledgered : Ledgered key turn.before phases) (found : phases[turn.task]? = some phase)
    (moved : hourNext phase turn.op turn.reply = some next)
    (served : hourServe.handler turn.before turn.op turn.reply turn.after) (claimed : LaterClaim key turn) :
    LaterWorker key (history ++ [turn]) turn.after (phases.set turn.task next) turn := by
  constructor
  · exact searched_mono ledgered served claimed.2
  · exact ids_steady ledgered found moved served claimed.2
  · apply Exists.intro next
    apply And.intro (by simp [(List.getElem?_eq_some_iff.mp found).1])
    obtain ⟨⟨before, op, reply, after⟩, task, programs⟩ := turn
    obtain ⟨claims, -⟩ := claimed
    obtain ⟨same, move⟩ := hour_move moved
    dsimp only at *
    obtain ⟨other, last⟩ := next
    obtain ⟨_, stage⟩ := phase
    dsimp only at *
    subst same
    cases move with
    | claim reply =>
        rcases reply with error | owned
        · cases claims
        · simp only [HourOp.claims, Bool.and_eq_true, decide_eq_true_eq] at claims
          obtain ⟨rfl, rfl⟩ := claims
          exact ⟨rfl, .claimed⟩
    | drain drains reply => cases op <;> first | cases claims | cases drains
    | _ => cases claims

theorem laterWorker_step {claim : HourTurn} (ledgered : Ledgered key turn.before phases)
    (found : phases[turn.task]? = some phase) (moved : hourNext phase turn.op turn.reply = some next)
    (served : hourServe.handler turn.before turn.op turn.reply turn.after)
    (tracked : LaterWorker key history turn.before phases claim) :
    LaterWorker key (history ++ [turn]) turn.after (phases.set turn.task next) claim := by
  constructor
  · exact searched_mono ledgered served tracked.searched
  · exact (ids_steady ledgered found moved served tracked.searched).trans tracked.ids
  · obtain ⟨current, listed, here, stage⟩ := tracked.stage
    by_cases own : turn.task = claim.task
    · obtain rfl : phase = current := Option.some.inj ((own ▸ found).symm.trans listed)
      obtain ⟨same, move⟩ := hour_move moved
      subst here
      apply Exists.intro next
      apply And.intro (by rw [← own]; simp [(List.getElem?_eq_some_iff.mp found).1])
      apply And.intro same
      apply laterStage_step served (ledgered.marked tracked.searched) _ stage move ClosedBy.later TroubledBy.later
      · rintro closes ⟨row, stored, complete⟩
        exact ⟨turn, by simp, own, closes, row, stored, Or.inr complete⟩
      · intro failing
        exact ⟨turn, by simp, own, failing⟩
      · simpa using tracked.ids.symm
    · apply Exists.intro current
      apply And.intro (by simpa [List.getElem?_set, own] using listed)
      exact ⟨here, stage.imp ClosedBy.later TroubledBy.later⟩

end Tracked

/-! ### All later workers -/

/-- The worker is through, and has closed the hour. -/
def Finishes (key : HourKey) (history : List HourTurn) (task : Nat) (result : Except PipelineError DiscoveryResult) :
    Prop :=
  (∃ value, result = .ok value) ∧ ClosedBy key history task

section Run
variable {start : HourStore} {history : List HourTurn} {state : HourState}
  (consistent : ∀ key, start.searched key = true → start.fetched key = true)
include consistent

theorem later_workers_tracked (run : HourRun start history state) (key : HourKey) :
    ∃ phases, List.Forall₂ (Follows hourNext hourEnds) phases state.programs ∧
      Ledgered key state.shared phases ∧
      ∀ claim ∈ history, LaterClaim key claim → LaterWorker key history state.shared phases claim := by
  apply run_phases (fun call : HourCall => (⟨call.key, .waiting⟩ : HourPhase)) discoverHour_follows
    (fun history shared phases => Ledgered key shared phases ∧
      ∀ claim ∈ history, LaterClaim key claim → LaterWorker key history shared phases claim) _ rfl _ _ run
  · exact ⟨⟨by simp, consistent key, by simp, by simp⟩, by simp⟩
  · rintro history shared phases call ⟨ledgered, tracked⟩
    constructor
    · constructor
      · simpa [isSearcher, HourStage.searcher] using ledgered.single
      · exact ledgered.marked
      · intro searched none_ phase member here
        rcases List.mem_append.mp member with earlier | new
        · exact ledgered.settled searched none_ phase earlier here
        · rw [List.mem_singleton.mp new]
          rfl
      · intro phase member here troubled reading
        rcases List.mem_append.mp member with earlier | new
        · exact ledgered.known phase earlier here troubled reading
        · rw [List.mem_singleton.mp new] at reading
          cases reading
    · intro claim member later
      obtain ⟨searched, ids, phase, listed, rest⟩ := tracked claim member later
      exact ⟨searched, ids, phase, by
        rw [List.getElem?_append_left (List.getElem?_eq_some_iff.mp listed).1]
        exact listed, rest⟩
  · rintro history phases phase next turn ⟨ledgered, tracked⟩ - found moved served
    apply And.intro (ledgered_step served ledgered found moved)
    intro claim member later
    rcases List.mem_append.mp member with earlier | new
    · exact laterWorker_step ledgered found moved served (tracked claim earlier later)
    · obtain rfl := List.mem_singleton.mp new
      exact laterWorker_claims ledgered found moved served later

/-- A later worker, none of whose steps and matches fail, closes the hour exactly if a match was
recorded under it; otherwise it ends in the error that there is none. -/
theorem later_claim_finishes_iff (run : HourRun start history state) {key : HourKey} {claim : HourTurn}
    {result : Except PipelineError DiscoveryResult} (claimed : claim ∈ history) (later : LaterClaim key claim)
    (finished : state.programs[claim.task]? = some (.done result)) (fine : ¬ TroubledBy history claim.task) :
    (Finishes key history claim.task result ↔ claim.before.ids key ≠ []) ∧
      (result = .error attemptedWithoutIds ↔ claim.before.ids key = []) := by
  obtain ⟨phases, follow, -, tracked⟩ := later_workers_tracked consistent run key
  obtain ⟨-, -, phase, listed, -, stage⟩ := tracked claim claimed later
  obtain ⟨same, found, ends⟩ := forall₂_getElem? follow finished
  obtain rfl : same = phase := Option.some.inj (found.symm.trans listed)
  obtain ⟨home, last⟩ := same
  rw [follows_done] at ends
  dsimp only at stage
  cases stage with
  | closed some_ done =>
      obtain ⟨value, rfl⟩ := ends
      have known : claim.before.ids key ≠ [] := of_decide_eq_true some_
      exact ⟨⟨fun _ => known, fun _ => ⟨⟨value, rfl⟩, done⟩⟩, by simp [known]⟩
  | attempted none_ =>
      have empty : claim.before.ids key = [] := by simpa using none_
      obtain rfl : result = .error attemptedWithoutIds := ends
      simp [Finishes, empty]
  | failed trouble => exact absurd trouble fine
  | claimed | draining | stuck | unsearched => exact ends.elim

end Run

/-! ### Two runs -/

/-- The second worker is through without trouble, and had an hour whose search had succeeded. -/
def untroubledSecond (key : HourKey) (reached : List HourTurn × HourState) : Bool :=
  (reached.1.any fun claim => claim.task == 1 && claim.op.claims key claim.reply && claim.before.searched key) &&
    reached.1.all fun turn => turn.task != 1 || !turn.op.failing turn.reply

theorem untroubledSecond_iff {key : HourKey} {history : List HourTurn} {state : HourState}
    (tested : untroubledSecond key (history, state) = true) :
    ∃ claim ∈ history, claim.task = 1 ∧ LaterClaim key claim ∧ ¬ TroubledBy history 1 := by
  simp only [untroubledSecond, Bool.and_eq_true, List.any_eq_true, List.all_eq_true, beq_iff_eq, Bool.or_eq_true,
    bne_iff_ne, Bool.not_eq_true'] at tested
  obtain ⟨⟨claim, member, ⟨task, claims⟩, searched⟩, fine⟩ := tested
  apply Exists.intro claim
  apply And.intro member
  apply And.intro task
  apply And.intro ⟨claims, searched⟩
  rintro ⟨turn, listed, own, failing⟩
  rcases fine turn listed with other | settled
  · exact other own
  · rw [failing] at settled
    cases settled

/-- The first worker stops after it has recorded the match it has found; the second one drains it. -/
theorem recorded_hour_finishes :
    ∃ history state claim result, HourRun {} history state ∧ claim ∈ history ∧ LaterClaim ⟨20000, 5, 486⟩ claim ∧
      state.programs[claim.task]? = some (.done result) ∧ ¬ TroubledBy history claim.task ∧
      Finishes ⟨20000, 5, 486⟩ history claim.task result := by
  have passed : (replay hourServe hourCode ⟨{}, []⟩
      [.enter ⟨⟨20000, 5, 486⟩, "first"⟩, .turn 0 {}, .turn 0 {}, .turn 0 {},
        .turn 0 { answer := .ok (.array [.object [("Match", .integer 7)]]) }, .turn 0 {},
        .enter ⟨⟨20000, 5, 486⟩, "second"⟩, .turn 1 { now := 300 }, .turn 1 { now := 300 }, .turn 1 { now := 300 },
        .turn 1 { now := 300 }, .turn 1 { now := 300, answer := .ok (.array [.object [("match_id", .integer 7)]]) },
        .turn 1 { now := 300 }, .turn 1 { now := 300 }, .turn 1 { now := 300 }]).any
      (fun reached => untroubledSecond ⟨20000, 5, 486⟩ reached &&
        (reached.2.programs[1]?.bind Program.result).isSome &&
        reached.1.all fun turn => turn.task != 1 || turn.before.ids ⟨20000, 5, 486⟩ == [7]) = true := by
    decide +kernel
  obtain ⟨history, state, run, tested⟩ := replay_reaches passed
  simp only [Bool.and_eq_true, List.all_eq_true, Bool.or_eq_true, bne_iff_ne, beq_iff_eq] at tested
  obtain ⟨⟨second, ended⟩, ids⟩ := tested
  obtain ⟨claim, member, task, later, fine⟩ := untroubledSecond_iff second
  obtain ⟨result, found⟩ := Option.isSome_iff_exists.mp ended
  obtain ⟨program, listed, done⟩ := Option.bind_eq_some_iff.mp found
  obtain rfl := Program.result_eq_some.mp done
  rw [← task] at listed fine
  have known : claim.before.ids ⟨20000, 5, 486⟩ ≠ [] := by
    rw [(ids claim member).resolve_left (not_not.mpr task)]
    simp
  exact ⟨history, state, claim, result, run, member, later, listed, fine,
    (later_claim_finishes_iff (by simp [HourStore.searched]) run member later listed fine).1.mpr known⟩

/-- The provider's answer is empty and its record is committed, but the worker stops before it
closes the hour: no later worker can. -/
theorem empty_answer_never_finishes :
    ∃ history state claim result, HourRun {} history state ∧ claim ∈ history ∧ LaterClaim ⟨20000, 5, 486⟩ claim ∧
      state.programs[claim.task]? = some (.done result) ∧ ¬ TroubledBy history claim.task ∧
      ¬ Finishes ⟨20000, 5, 486⟩ history claim.task result ∧ result = .error attemptedWithoutIds := by
  have passed : (replay hourServe hourCode ⟨{}, []⟩
      [.enter ⟨⟨20000, 5, 486⟩, "first"⟩, .turn 0 {}, .turn 0 {}, .turn 0 {}, .turn 0 {}, .turn 0 {},
        .enter ⟨⟨20000, 5, 486⟩, "second"⟩, .turn 1 { now := 300 }, .turn 1 { now := 300 }, .turn 1 { now := 300 },
        .turn 1 { now := 300 }]).any
      (fun reached => untroubledSecond ⟨20000, 5, 486⟩ reached &&
        (reached.2.programs[1]?.bind Program.result).any fun result => decide (result = .error attemptedWithoutIds)) =
      true := by
    decide +kernel
  obtain ⟨history, state, run, tested⟩ := replay_reaches passed
  simp only [Bool.and_eq_true, Option.any_eq_true] at tested
  obtain ⟨second, result, found, failed⟩ := tested
  obtain ⟨claim, member, task, later, fine⟩ := untroubledSecond_iff second
  obtain ⟨program, listed, done⟩ := Option.bind_eq_some_iff.mp found
  obtain rfl := Program.result_eq_some.mp done
  rw [← task] at listed fine
  obtain rfl := of_decide_eq_true failed
  have unfinished : ¬ Finishes ⟨20000, 5, 486⟩ history claim.task (.error attemptedWithoutIds) := by
    rintro ⟨⟨_, same⟩, _⟩
    cases same
  exact ⟨history, state, claim, _, run, member, later, listed, fine, unfinished, rfl⟩

end PaladinsCat.Backend
