import PaladinsCat.HourClosing

/-!
The gap check of the scheduler (scheduler_host.rs). It selects the newest hour in which a
tracked queue is unfinished, and drains its queues one after the other. An hour of which a
queue stays eligible is selected again and again, and no older hour is reached.
-/

namespace PaladinsCat.Backend

open Interleaving Program

/-! ### The selection -/

/-- `GAP_CHECKER_MIN_DATE`, in days. -/
def gapCheckerMinDate : Int := 20604

/-- The queues of `MATCH_COUNT_QUEUE_DEFINITIONS` whose presence is tracked. -/
def trackedQueueIds : List Int := [424, 425, 452, 453, 469, 486, 10297, 10332, 10348, 10362, 10367, 10369]

def completedDiscoveryWindow (now : Int) : Int × Int :=
  let hoursBehind := if now / 60 % 60 < 30 then 2 else 1
  let completed := now - hoursBehind * 3600
  (completed / 86400, completed / 3600 % 24)

/-- The condition of the selection on the row of a queue-hour. -/
def HourStore.eligible (store : HourStore) (now minDate : Int) (window : Int × Int) (key : HourKey) : Bool :=
  (store.hours key).any fun row =>
    row.fetched && row.fetchSucceeded && decide (minDate ≤ key.date) &&
      decide (key.date < window.1 ∨ key.date = window.1 ∧ key.hour ≤ window.2) &&
      (row.status == .complete && reopenableHour store key ||
        row.status == .fetching && row.leaseUntil.all (· ≤ now))

structure QueueHourState where
  date : Int
  hour : Int
  queueId : Int
  status : HourStatus
  leaseDue : Option Bool
  reopenable : Bool

def QueueHourState.key (state : QueueHourState) : HourKey := ⟨state.date, state.hour, state.queueId⟩

def queueHourState (store : HourStore) (now : Int) (key : HourKey) (row : HourlyIngestState) : QueueHourState where
  date := key.date
  hour := key.hour
  queueId := key.queueId
  status := row.status
  leaseDue := row.leaseUntil.map fun lease => decide (lease ≤ now)
  reopenable := if row.status = .complete then reopenableHour store key else false

/-- The hours that may be selected, the newest first. -/
def windowHours (minDate : Int) (window : Int × Int) : List (Int × Int) :=
  (List.range (window.1 - minDate + 1).toNat).flatMap fun back : Nat =>
    (List.range 24).map fun early : Nat => (window.1 - back, 23 - early)

/-- The statement of `queue_hour_states_sql`. -/
def queueHourStates (store : HourStore) (now : Int) (queueIds : List Int) (minDate : Int) (window : Int × Int) :
    List QueueHourState :=
  let eligibleIn := fun hour : Int × Int =>
    (queueIds.dedup.insertionSort fun left right => left ≤ right).filter fun queueId =>
      store.eligible now minDate window ⟨hour.1, hour.2, queueId⟩
  match (windowHours minDate window).find? fun hour => !(eligibleIn hour).isEmpty with
  | none => []
  | some hour => (eligibleIn hour).filterMap fun queueId =>
      (store.hours ⟨hour.1, hour.2, queueId⟩).map (queueHourState store now ⟨hour.1, hour.2, queueId⟩)

def queueHourNeedsRecovery (row : QueueHourState) : Bool :=
  match row.status with
  | .complete => row.reopenable
  | .empty => false
  | .fetching => row.leaseDue.getD true
  | .failed => false

/-- Newest first, and in the order of the queues. -/
def newestFirst (left right : HourKey) : Prop :=
  right.date < left.date ∨ right.date = left.date ∧
    (right.hour < left.hour ∨ right.hour = left.hour ∧ left.queueId ≤ right.queueId)

instance : DecidableRel newestFirst := fun left right => by
  unfold newestFirst
  infer_instance

/-- `queue_hour_gap_candidates`, as `run_gap_check` sorts them. -/
def gapCandidates (rows : List QueueHourState) : List HourKey :=
  ((rows.filter queueHourNeedsRecovery).map QueueHourState.key).dedup.insertionSort newestFirst

/-! ### Its operations -/

inductive GapOp where
  | queueHourStates (queueIds : List Int) (minDate : Int) (window : Int × Int)
  | claimVersions (date hour : Int) (queueIds : List Int)
  | hour (op : HourOp)

abbrev GapOp.Reply : GapOp → Type
  | .queueHourStates _ _ _ => Except String (List QueueHourState)
  | .claimVersions _ _ _ => Except String (List (Int × Int))
  | .hour op => op.Reply

def claimVersions (store : HourStore) (date hour : Int) (queueIds : List Int) : List (Int × Int) :=
  queueIds.dedup.filterMap fun queueId =>
    (store.hours ⟨date, hour, queueId⟩).map fun row => (queueId, row.attempts)

/-- What a read replies. -/
def told {α : Type} (fate : Fate) (value : α) : Except String α :=
  match fate with
  | .committed => .ok value
  | .rolledBack error | .unacknowledged error => .error error

def gapServe : Service HourStore GapOp GapOp.Reply HourOutside :=
  fun before op outside =>
    match op with
    | .hour op => hourServe before op outside
    | .queueHourStates queueIds minDate window =>
        if outside.now < before.clock then none
        else
          let found : HourStore := { before with ingest := outside.lifecycle before.ingest, clock := outside.now }
          some (told outside.fate (queueHourStates found outside.now queueIds minDate window), found)
    | .claimVersions date hour queueIds =>
        if outside.now < before.clock then none
        else
          let found : HourStore := { before with ingest := outside.lifecycle before.ingest, clock := outside.now }
          some (told outside.fate (claimVersions found date hour queueIds), found)

/-! ### run_gap_check -/

abbrev GapProgram (α : Type) : Type := Program GapOp GapOp.Reply α

def inHour {α : Type} (program : HourProgram α) : GapProgram α := program.within GapOp.hour fun _ reply => reply

/-- How a gap check fails: a read, or the second call for the same queue-hour. -/
inductive GapError where
  | database (message : String)
  | claimFailedTwice (candidate : HourKey) (error : PipelineError)

structure GapReport where
  candidates : Nat := 0
  attempted : Nat := 0
  completed : Nat := 0
  infrastructureRetried : Option Nat := none
  deriving DecidableEq

def queueHourClaimVersions (date hour : Int) (queueIds : List Int) : GapProgram (Except String (List (Int × Int))) :=
  if queueIds = [] then return .ok [] else perform (GapOp.claimVersions date hour queueIds)

def versionOf (versions : List (Int × Int)) (queueId : Int) : Int := (versions.lookup queueId).getD 0

def discoverAll : List HourKey → GapProgram (List (HourKey × Except PipelineError DiscoveryResult))
  | [] => return []
  | candidate :: rest => do
      let outcome ← inHour (discoverHour candidate "gap-checker")
      let outcomes ← discoverAll rest
      return (candidate, outcome) :: outcomes

def retryAll (retried : Nat) : List HourKey → GapProgram (Except GapError Nat)
  | [] => return .ok retried
  | candidate :: rest => do
      match ← inHour (discoverHour candidate "gap-checker") with
      | .error error => return .error (.claimFailedTwice candidate error)
      | .ok _ => retryAll (retried + 1) rest

/-- The work on the selected hour: the calls that ended well, and the retries. -/
def recoverHour (date hour : Int) (hourCandidates : List HourKey) : GapProgram (Except GapError (Nat × Nat)) := do
  match ← queueHourClaimVersions date hour (hourCandidates.map (·.queueId)) with
  | .error message => return .error (.database message)
  | .ok versionsBefore =>
  let outcomes ← discoverAll hourCandidates
  let completed := outcomes.countP fun outcome => !failedReply outcome.2
  let failedQueueIds := (outcomes.filter fun outcome => failedReply outcome.2).map (·.1.queueId)
  match ← queueHourClaimVersions date hour failedQueueIds with
  | .error message => return .error (.database message)
  | .ok versionsAfter =>
  let unclaimed := hourCandidates.filter fun candidate => decide (candidate.queueId ∈ failedQueueIds) &&
    decide (versionOf versionsAfter candidate.queueId ≤ versionOf versionsBefore candidate.queueId)
  match ← retryAll 0 unclaimed with
  | .error error => return .error error
  | .ok retried => return .ok (completed + retried, retried)

def runGapCheck (now : Int) : GapProgram (Except GapError GapReport) := do
  match ← perform (GapOp.queueHourStates trackedQueueIds gapCheckerMinDate (completedDiscoveryWindow now)) with
  | .error message => return .error (.database message)
  | .ok rows =>
  match gapCandidates rows with
  | [] => return .ok {}
  | newest :: others =>
      let candidates := newest :: others
      let hourCandidates := candidates.filter fun candidate =>
        decide (candidate.date = newest.date ∧ candidate.hour = newest.hour)
      match ← recoverHour newest.date newest.hour hourCandidates with
      | .error error => return .error error
      | .ok (completed, retried) =>
          return .ok
            { candidates := candidates.length
              attempted := candidates.length
              completed
              infrastructureRetried := some retried }

abbrev GapEvent : Type := Event HourStore GapOp GapOp.Reply

abbrev GapRun (start : HourStore) (now : Int) (events : List GapEvent) (result : Except GapError GapReport)
    (after : HourStore) : Prop :=
  Exec gapServe.handler start (runGapCheck now) events result after

/-! ### What the selection says -/

section Selection
variable {store : HourStore} {now minDate : Int} {window : Int × Int} {queueIds : List Int} {key : HourKey}

/-- The hour lies between the lower date and the last hour that is over. -/
def inWindow (minDate : Int) (window : Int × Int) (key : HourKey) : Prop :=
  minDate ≤ key.date ∧ (key.date < window.1 ∨ key.date = window.1 ∧ key.hour ≤ window.2)

theorem eligible_iff :
    store.eligible now minDate window key = true ↔ inWindow minDate window key ∧
      ∃ row, store.hours key = some row ∧ row.fetched = true ∧ row.fetchSucceeded = true ∧
        (row.status = .complete ∧ reopenableHour store key = true ∨
          row.status = .fetching ∧ row.leaseUntil.all (· ≤ now) = true) := by
  unfold HourStore.eligible inWindow
  cases store.hours key with
  | none => simp
  | some row =>
      simp only [Option.any_some, Bool.and_eq_true, decide_eq_true_eq, Bool.or_eq_true, beq_iff_eq,
        Option.some.injEq, exists_eq_left']
      tauto

theorem mem_queueHourStates {state : QueueHourState}
    (member : state ∈ queueHourStates store now queueIds minDate window) :
    store.eligible now minDate window state.key = true ∧ state.queueId ∈ queueIds ∧
      ∃ row, store.hours state.key = some row ∧ state = queueHourState store now state.key row := by
  simp only [queueHourStates] at member
  split at member
  · cases member
  · obtain ⟨queueId, listed, found⟩ := List.mem_filterMap.mp member
    obtain ⟨row, stored, rfl⟩ := Option.map_eq_some_iff.mp found
    obtain ⟨tracked, eligible⟩ := List.mem_filter.mp listed
    rw [List.mem_insertionSort, List.mem_dedup] at tracked
    exact ⟨eligible, tracked, row, stored, rfl⟩

/-- The other queues of the selected hour that are eligible are selected too. -/
theorem queueHourStates_whole {state : QueueHourState} {queueId : Int}
    (member : state ∈ queueHourStates store now queueIds minDate window) (listed : queueId ∈ queueIds)
    (eligible : store.eligible now minDate window ⟨state.date, state.hour, queueId⟩ = true) :
    ∃ other ∈ queueHourStates store now queueIds minDate window, other.key = ⟨state.date, state.hour, queueId⟩ := by
  simp only [queueHourStates] at member ⊢
  split at member
  · cases member
  · rename_i hour selected
    obtain ⟨first, -, found⟩ := List.mem_filterMap.mp member
    obtain ⟨firstRow, -, rfl⟩ := Option.map_eq_some_iff.mp found
    obtain ⟨-, row, stored, -⟩ := eligible_iff.mp eligible
    refine ⟨queueHourState store now ⟨hour.1, hour.2, queueId⟩ row, ?_, rfl⟩
    apply List.mem_filterMap.mpr
    refine ⟨queueId, List.mem_filter.mpr ⟨?_, eligible⟩, Option.map_eq_some_iff.mpr ⟨row, stored, rfl⟩⟩
    rw [List.mem_insertionSort, List.mem_dedup]
    exact listed

theorem mem_windowHours (inside : inWindow minDate window key) (early : 0 ≤ key.hour) (late : key.hour ≤ 23) :
    (key.date, key.hour) ∈ windowHours minDate window := by
  obtain ⟨lower, upper⟩ := inside
  simp only [windowHours, List.mem_flatMap, List.mem_map, List.mem_range, Prod.mk.injEq]
  refine ⟨(window.1 - key.date).toNat, ?_, (23 - key.hour).toNat, ?_, ?_⟩ <;> omega

/-- As long as a queue-hour is eligible, one is selected. -/
theorem queueHourStates_ne_nil (eligible : store.eligible now minDate window key = true) (listed : key.queueId ∈ queueIds)
    (early : 0 ≤ key.hour) (late : key.hour ≤ 23) : queueHourStates store now queueIds minDate window ≠ [] := by
  intro nothing
  have inside := mem_windowHours (eligible_iff.mp eligible).1 early late
  simp only [queueHourStates] at nothing
  split at nothing
  · rename_i none_
    have empty := List.find?_eq_none.mp none_ _ inside
    simp only [Bool.not_eq_true', Bool.not_eq_false, List.isEmpty_iff] at empty
    have member : key.queueId ∈ (queueIds.dedup.insertionSort fun left right => left ≤ right).filter fun queueId =>
        store.eligible now minDate window ⟨key.date, key.hour, queueId⟩ := by
      rw [List.mem_filter, List.mem_insertionSort, List.mem_dedup]
      exact ⟨listed, eligible⟩
    rw [empty] at member
    cases member
  · rename_i hour selected
    have some_ := List.find?_some selected
    simp only [Bool.not_eq_true', List.isEmpty_eq_false_iff] at some_
    obtain ⟨queueId, member⟩ := List.exists_mem_of_ne_nil _ some_
    obtain ⟨-, row, stored, -⟩ := eligible_iff.mp (List.mem_filter.mp member).2
    have missing := List.filterMap_eq_nil_iff.mp nothing queueId member
    rw [stored] at missing
    cases missing

/-- What is selected is recovered. -/
theorem eligible_needs_recovery {row : HourlyIngestState} (stored : store.hours key = some row)
    (eligible : store.eligible now minDate window key = true) :
    queueHourNeedsRecovery (queueHourState store now key row) = true := by
  obtain ⟨-, same, found, -, -, reason⟩ := eligible_iff.mp eligible
  obtain rfl : row = same := Option.some.inj (stored.symm.trans found)
  unfold queueHourNeedsRecovery queueHourState
  rcases reason with ⟨complete, reopens⟩ | ⟨working, lapsed⟩
  · simp [complete, reopens]
  · cases until_ : row.leaseUntil with
    | none => simp [working]
    | some lease => simpa [working, until_] using lapsed

theorem mem_gapCandidates {rows : List QueueHourState} :
    key ∈ gapCandidates rows ↔ ∃ row ∈ rows, queueHourNeedsRecovery row = true ∧ row.key = key := by
  simp only [gapCandidates, List.mem_insertionSort, List.mem_dedup, List.mem_map, List.mem_filter, and_assoc]

end Selection

/-! ### A gap check alone -/

/-- Nothing else writes the tables: a read is answered and changes nothing, and a step of an hour finishes
what it reports as done, undoes nothing, and records the failure it is to record. -/
def Undisturbed : GapEvent → Prop
  | ⟨before, .hour op, reply, after⟩ => Diligent ⟨before, op, reply, after⟩ ∧ RecordsFailure ⟨before, op, reply, after⟩
  | ⟨before, .queueHourStates _ _ _, reply, after⟩ => (∃ rows, reply = .ok rows) ∧ after.ingest = before.ingest
  | ⟨before, .claimVersions _ _ _, reply, after⟩ => (∃ versions, reply = .ok versions) ∧ after.ingest = before.ingest

/-- No hour is closed with a match for which it reopens at once. -/
def ClosesHoursCleanly : GapEvent → Prop
  | ⟨before, .hour op, reply, after⟩ => ClosesCleanly ⟨before, op, reply, after⟩
  | _ => True

def GapMeets (event : GapEvent) : Prop := Undisturbed event ∧ ClosesHoursCleanly event

abbrev GapMakes {α : Type} (before : HourStore) (program : GapProgram α) (post : α → HourStore → Prop) : Prop :=
  Ensures gapServe.handler GapMeets before program post

/-- The hour is not eligible, up to this time. -/
def Rests (later : Int) (store : HourStore) (key : HourKey) : Prop :=
  ∀ row, store.hours key = some row → row.fetched = true → row.fetchSucceeded = true →
    (row.status = .complete → reopenableHour store key = false) ∧
      (row.status = .fetching → row.leaseUntil.all (· ≤ later) = false)

/-- What all queue-hours keep while some of them are recovered. -/
structure Recovers (later : Int) (before after : HourStore) : Prop where
  rests : ∀ key, Rests later before key → Rests later after key
  due : ∀ key, Due before key → Due after key

section Recovery
variable {later : Int} {before after : HourStore} {key : HourKey}

theorem Recovers.refl (later : Int) (store : HourStore) : Recovers later store store where
  rests _ same := same
  due _ same := same

theorem Recovers.trans {last : HourStore} (one : Recovers later before after) (other : Recovers later after last) :
    Recovers later before last where
  rests key rested := other.rests key (one.rests key rested)
  due key open_ := other.due key (one.due key open_)

theorem Shut.rests (shut : Shut after key) : Rests later after key :=
  fun row stored _ _ => ⟨(shut row stored).2, fun working => absurd working (shut row stored).1⟩

theorem Frame.rests {other : HourKey} (frame : Frame key before after) (apart : other ≠ key)
    (rested : Rests later before other) : Rests later after other := by
  intro row stored fetched succeeded
  rw [frame.others other apart] at stored
  obtain ⟨closed, working⟩ := rested row stored fetched succeeded
  apply And.intro _ working
  intro complete
  apply reopenableHour_eq_false.mpr
  rw [frame.discoveries]
  intro discovery member found
  obtain ⟨done, whole⟩ := reopenableHour_eq_false.mp (closed complete) discovery member found
  exact frame.settled done whole

theorem Frame.recovers (frame : Frame key before after) (shut : Shut after key) (open_ : Due before key) :
    Recovers later before after where
  rests other rested := by
    by_cases same : other = key
    · exact same ▸ shut.rests
    · exact frame.rests same rested
  due other due := by
    by_cases same : other = key
    · have marked := frame.fetched key open_.known.1
      have succeeded := frame.searched key open_.known.1 open_.known.2
      exact same ▸ shut.due marked succeeded
    · exact frame.due same due

/-- One call of `discover_hour`, within the gap check. -/
theorem discover_makes {source : String} (due : Due before key) :
    GapMakes before (inHour (discoverHour key source)) fun _ after =>
      Recovers later before after ∧ Rests later after key := by
  apply ensures_mono (ensures_within _ _ (discoverHour_makes due))
  · rintro result after ⟨frame, shut⟩
    exact ⟨frame.recovers shut due, shut.rests⟩
  · exact fun before op reply after served => served
  · exact fun before op reply after meets => ⟨meets.1.1, meets.2, meets.1.2⟩

theorem claimVersions_makes {date hour : Int} {queueIds : List Int} :
    GapMakes before (queueHourClaimVersions date hour queueIds) fun reply after =>
      Recovers later before after ∧ ∃ versions, reply = .ok versions := by
  unfold queueHourClaimVersions
  split
  · exact ensures_done ⟨.refl later before, [], rfl⟩
  · apply ensures_call
    rintro reply middle ⟨outside, served⟩ ⟨⟨answered, same⟩, -⟩
    apply ensures_done
    apply And.intro _ answered
    simp only [gapServe] at served
    split at served
    · cases served
    · rename_i late
      cases served
      dsimp only at same
      constructor
      · intro other rested row stored fetched succeeded
        simpa only [reopenableHour, same] using rested row stored fetched succeeded
      · rintro other ⟨row, stored, fetched, succeeded, lapsed⟩
        refine ⟨row, stored, fetched, succeeded, fun working => ?_⟩
        have free := lapsed working
        dsimp only
        cases until_ : row.leaseUntil with
        | none => rfl
        | some moment =>
            simp only [until_, Option.all_some, decide_eq_true_eq] at free ⊢
            omega

theorem discoverAll_makes {candidates : List HourKey} (due : ∀ key ∈ candidates, Due before key) :
    GapMakes before (discoverAll candidates) fun _ after =>
      Recovers later before after ∧ ∀ key ∈ candidates, Rests later after key := by
  induction candidates generalizing before with
  | nil => exact ensures_done ⟨.refl later before, List.forall_mem_nil _⟩
  | cons candidate rest ih =>
      obtain ⟨first, others⟩ := List.forall_mem_cons.mp due
      apply ensures_then (discover_makes first)
      rintro outcome middle ⟨step, rested⟩
      apply ensures_then (ih fun key member => step.due key (others key member))
      rintro outcomes after ⟨steps, rests⟩
      apply ensures_done
      exact ⟨step.trans steps, List.forall_mem_cons.mpr ⟨steps.rests candidate rested, rests⟩⟩

theorem retryAll_makes {retried : Nat} {candidates : List HourKey} (due : ∀ key ∈ candidates, Due before key) :
    GapMakes before (retryAll retried candidates) fun _ after => Recovers later before after := by
  induction candidates generalizing retried before with
  | nil => exact ensures_done (.refl later before)
  | cons candidate rest ih =>
      obtain ⟨first, others⟩ := List.forall_mem_cons.mp due
      apply ensures_then (discover_makes first)
      rintro (error | result) middle ⟨step, -⟩
      · exact ensures_done step
      · apply ensures_mono (ih fun key member => step.due key (others key member))
        exact fun _ after steps => step.trans steps

/-- The work on one hour leaves none of its candidates eligible, and makes none eligible that was not. -/
theorem recoverHour_makes {date hour : Int} {candidates : List HourKey} (due : ∀ key ∈ candidates, Due before key) :
    GapMakes before (recoverHour date hour candidates) fun _ after =>
      Recovers later before after ∧ ∀ key ∈ candidates, Rests later after key := by
  unfold recoverHour
  apply ensures_then (@claimVersions_makes later _ _ _ _)
  rintro (error | versionsBefore) counted ⟨first, versions, answered⟩
  · cases answered
  dsimp only
  apply ensures_then (discoverAll_makes fun key member => first.due key (due key member))
  rintro outcomes drained ⟨second, rests⟩
  apply ensures_then (@claimVersions_makes later _ _ _ _)
  rintro (error | versionsAfter) recounted ⟨third, versions, answered⟩
  · cases answered
  have recovers : Recovers later before recounted := first.trans (second.trans third)
  dsimp only
  apply ensures_then (@retryAll_makes later recounted 0 _ fun key member =>
    recovers.due key (due key (List.mem_of_mem_filter member)))
  intro result last fourth
  have done : Recovers later before last ∧ ∀ key ∈ candidates, Rests later last key :=
    ⟨recovers.trans fourth, fun key member => fourth.rests key (third.rests key (rests key member))⟩
  cases result <;> exact ensures_done done

end Recovery

/-! ### The next selection -/

/-- The hour that the gap check has selected, and the tables as it has found them. -/
def Selects (now : Int) (events : List GapEvent) (scanned : HourStore) (selected : HourKey) : Prop :=
  ∃ before rows others, gapCandidates rows = selected :: others ∧
    events.head? = some
      ⟨before, .queueHourStates trackedQueueIds gapCheckerMinDate (completedDiscoveryWindow now), .ok rows, scanned⟩

/-- No lease that runs on a queue of the hour runs out until then. -/
def LeasesLast (scanned : HourStore) (later : Int) (selected : HourKey) : Prop :=
  ∀ queueId ∈ trackedQueueIds, ∀ row lease, scanned.hours ⟨selected.date, selected.hour, queueId⟩ = some row →
    row.status = .fetching → row.leaseUntil = some lease → lease ≤ scanned.clock ∨ later < lease

/-- At this time no queue of the hour is eligible: the hour is not selected, and another one is if there is any. -/
structure MovesOn (later : Int) (after : HourStore) (selected : HourKey) : Prop where
  settled : ∀ queueId ∈ trackedQueueIds, ∀ window,
    after.eligible later gapCheckerMinDate window ⟨selected.date, selected.hour, queueId⟩ = false
  others : ∀ window, ∀ state ∈ queueHourStates after later trackedQueueIds gapCheckerMinDate window,
    ¬ (state.date = selected.date ∧ state.hour = selected.hour)
  reached : ∀ window key, key.queueId ∈ trackedQueueIds → 0 ≤ key.hour → key.hour ≤ 23 →
    after.eligible later gapCheckerMinDate window key = true →
    queueHourStates after later trackedQueueIds gapCheckerMinDate window ≠ []

section Next
variable {later now : Int} {window : Int × Int} {store after : HourStore} {key selected : HourKey}

theorem Rests.not_eligible (rests : Rests later store key) : store.eligible later gapCheckerMinDate window key = false := by
  by_contra eligible
  obtain ⟨-, row, stored, fetched, succeeded, reason⟩ := eligible_iff.mp (Bool.not_eq_false _ ▸ eligible)
  obtain ⟨closed, working⟩ := rests row stored fetched succeeded
  rcases reason with ⟨complete, reopens⟩ | ⟨fetching, lapsed⟩
  · rw [closed complete] at reopens
    cases reopens
  · rw [working fetching] at lapsed
    cases lapsed

theorem movesOn_of_rests (rests : ∀ queueId ∈ trackedQueueIds, Rests later after ⟨selected.date, selected.hour, queueId⟩) :
    MovesOn later after selected where
  settled queueId listed window := (rests queueId listed).not_eligible
  others window state member same := by
    obtain ⟨eligible, listed, -⟩ := mem_queueHourStates member
    have home : state.key = ⟨selected.date, selected.hour, state.queueId⟩ := by
      rw [QueueHourState.key, same.1, same.2]
    rw [home, (rests state.queueId listed).not_eligible] at eligible
    cases eligible
  reached window key listed early late eligible := queueHourStates_ne_nil eligible listed early late

theorem due_of_eligible (eligible : store.eligible store.clock gapCheckerMinDate window key = true) : Due store key := by
  obtain ⟨-, row, stored, fetched, succeeded, reason⟩ := eligible_iff.mp eligible
  refine ⟨row, stored, fetched, succeeded, fun working => ?_⟩
  rcases reason with ⟨complete, -⟩ | ⟨-, lapsed⟩
  · rw [complete] at working
    cases working
  · exact lapsed

theorem rests_of_not_eligible (inside : inWindow gapCheckerMinDate window key)
    (idle : store.eligible store.clock gapCheckerMinDate window key = false)
    (lasts : ∀ row lease, store.hours key = some row → row.status = .fetching → row.leaseUntil = some lease →
      lease ≤ store.clock ∨ later < lease) : Rests later store key := by
  intro row stored fetched succeeded
  have none_ : ¬ (row.status = .complete ∧ reopenableHour store key = true ∨
      row.status = .fetching ∧ row.leaseUntil.all (· ≤ store.clock) = true) := by
    intro reason
    rw [eligible_iff.mpr ⟨inside, row, stored, fetched, succeeded, reason⟩] at idle
    cases idle
  simp only [not_or, not_and, Bool.not_eq_true] at none_
  apply And.intro none_.1
  intro working
  have running := none_.2 working
  cases until_ : row.leaseUntil with
  | none =>
      rw [until_] at running
      cases running
  | some lease =>
      simp only [until_, Option.all_some, decide_eq_false_iff_not] at running ⊢
      rcases lasts row lease stored working until_ with lapsed | lasting <;> omega

/-- In every run of the gap check in which no hour is closed with a match for which it reopens at once: after it no
queue of the selected hour is eligible, so that the next selection moves on. -/
theorem selected_hour_is_settled {start : HourStore} {events : List GapEvent} {result : Except GapError GapReport}
    (run : GapRun start now events result after) (undisturbed : ∀ event ∈ events, Undisturbed event)
    {scanned : HourStore} (selects : Selects now events scanned selected) (lasting : LeasesLast scanned later selected)
    (clean : ∀ event ∈ events, ClosesHoursCleanly event) : MovesOn later after selected := by
  obtain ⟨before, rows, others, candidates, first⟩ := selects
  obtain ⟨reply, middle, rest, ⟨outside, served⟩, continues, rfl⟩ := exec_call_iff.mp run
  cases first
  simp only [gapServe] at served
  split at served
  · cases served
  simp only [Option.some.injEq, Prod.mk.injEq] at served
  obtain ⟨answered, found⟩ := served
  have read : rows = queueHourStates scanned scanned.clock trackedQueueIds gapCheckerMinDate
      (completedDiscoveryWindow now) := by
    subst found
    cases fate : outside.fate <;> simp only [told, fate, reduceCtorEq, Except.ok.injEq] at answered
    exact answered.symm
  have eligible_of_candidate : ∀ key ∈ gapCandidates rows, scanned.eligible scanned.clock gapCheckerMinDate
      (completedDiscoveryWindow now) key = true := by
    intro key member
    obtain ⟨row, listed, -, rfl⟩ := mem_gapCandidates.mp member
    exact (mem_queueHourStates (read ▸ listed)).1
  have candidate_of_eligible : ∀ queueId ∈ trackedQueueIds, scanned.eligible scanned.clock gapCheckerMinDate
      (completedDiscoveryWindow now) ⟨selected.date, selected.hour, queueId⟩ = true →
      ⟨selected.date, selected.hour, queueId⟩ ∈ gapCandidates rows := by
    intro queueId tracked eligible
    obtain ⟨row, listed, -, rfl⟩ := mem_gapCandidates.mp (candidates ▸ List.mem_cons_self : selected ∈ gapCandidates rows)
    obtain ⟨other, inside, home⟩ := queueHourStates_whole (read ▸ listed) tracked eligible
    obtain ⟨found, -, state, stored, same⟩ := mem_queueHourStates inside
    refine mem_gapCandidates.mpr ⟨other, read ▸ inside, ?_, home⟩
    rw [same]
    exact eligible_needs_recovery stored found
  have window := (eligible_iff.mp (eligible_of_candidate selected (candidates ▸ List.mem_cons_self))).1
  have due : ∀ key ∈ (selected :: others).filter fun candidate =>
      decide (candidate.date = selected.date ∧ candidate.hour = selected.hour), Due scanned key := by
    intro key member
    exact due_of_eligible (eligible_of_candidate key (candidates ▸ List.mem_of_mem_filter member))
  have settled : GapMakes scanned (recoverHour selected.date selected.hour ((selected :: others).filter fun candidate =>
      decide (candidate.date = selected.date ∧ candidate.hour = selected.hour))) fun _ after =>
        ∀ queueId ∈ trackedQueueIds, Rests later after ⟨selected.date, selected.hour, queueId⟩ := by
    apply ensures_mono (recoverHour_makes due)
    rintro result after ⟨recovers, rests⟩ queueId tracked
    by_cases eligible : scanned.eligible scanned.clock gapCheckerMinDate (completedDiscoveryWindow now)
        ⟨selected.date, selected.hour, queueId⟩ = true
    · apply rests
      apply List.mem_filter.mpr
      exact ⟨candidates ▸ candidate_of_eligible queueId tracked eligible, by simp⟩
    · apply recovers.rests
      exact rests_of_not_eligible window (Bool.not_eq_true _ ▸ eligible) (lasting queueId tracked)
  apply movesOn_of_rests
  have meets : ∀ event ∈ rest, GapMeets event := fun event member =>
    ⟨undisturbed event (List.mem_cons_of_mem _ member), clean event (List.mem_cons_of_mem _ member)⟩
  simp only [Program.bind, candidates] at continues
  obtain ⟨front, back, value, last, rfl, works, ends⟩ := exec_bind continues
  have done := settled.reaches front value last works fun event member =>
    meets event (List.mem_append_left _ member)
  rcases value with error | ⟨completed, retried⟩
  · obtain ⟨-, -, rfl⟩ := exec_done ends
    exact done
  · obtain ⟨-, -, rfl⟩ := exec_done ends
    exact done

end Next

/-! ### Two runs in which no match is worked on -/

/-- The matches change only as the outside says. -/
theorem gap_ingest {before after : HourStore} {op : GapOp} {outside : HourOutside} {reply : op.Reply}
    (served : gapServe before op outside = some (reply, after)) : after.ingest = outside.lifecycle before.ingest := by
  cases op with
  | hour op =>
      simp only [gapServe, hourServe] at served
      split at served
      · cases served
      · split at served
        · cases served
          rfl
        · rename_i effected
          have same := (hourEffect_frame effected).1
          split at served <;> cases served <;> first | exact same | rfl
  | queueHourStates | claimVersions =>
      simp only [gapServe] at served
      split at served <;> cases served
      rfl

/-- The step reports no match and no failure. -/
def calm : GapEvent → Bool
  | ⟨_, .hour op, reply, _⟩ => (op.resolves reply).isNone && (op.condemns reply).isNone &&
      (match op with
        | .markFailed _ _ _ _ => false
        | _ => true)
  | ⟨_, .queueHourStates _ _ _, reply, _⟩ => (reply : Except String (List QueueHourState)).isOk
  | ⟨_, .claimVersions _ _ _, reply, _⟩ => (reply : Except String (List (Int × Int))).isOk

theorem undisturbed_of_calm {event : GapEvent} (calm_ : calm event = true)
    (same : event.after.ingest = event.before.ingest) : Undisturbed event := by
  obtain ⟨before, op, reply, after⟩ := event
  cases op with
  | hour op =>
      simp only [calm, Bool.and_eq_true, Option.isNone_iff_eq_none] at calm_
      obtain ⟨⟨resolves, condemns⟩, reports⟩ := calm_
      dsimp only at same
      constructor
      · constructor
        · intro id done
          simpa only [same] using done
        · intro id limited
          exact Or.inr (by simpa only [same] using limited)
        · intro id resolved
          cases resolves.symm.trans resolved
        · intro id condemned
          cases condemns.symm.trans condemned
      · rintro key message rawCount stagedCount rfl
        cases reports
  | queueHourStates queueIds minDate window =>
      obtain ⟨rows, replied⟩ : ∃ rows, reply = .ok rows := by
        cases reply with
        | ok rows => exact ⟨rows, rfl⟩
        | error message => cases calm_
      exact ⟨⟨rows, replied⟩, same⟩
  | claimVersions date hour queueIds =>
      obtain ⟨versions, replied⟩ : ∃ versions, reply = .ok versions := by
        cases reply with
        | ok versions => exact ⟨versions, rfl⟩
        | error message => cases calm_
      exact ⟨⟨versions, replied⟩, same⟩

/-- One queue-hour with one match. -/
def standingHour (status : HourStatus) (row : IngestRow) : HourStore where
  hours := fun key =>
    if key = ⟨20610, 5, 486⟩ then some { status, fetched := true, fetchSucceeded := true } else none
  discoveries :=
    [{ matchId := 7, queueId := 486, region := "EU", entryDatetime := none, activeFlag := false,
       sourceDate := 20610, sourceHour := 5 }]
  ingest := fun _ => some row

/-- The host clock of the runs: a quarter to eight, two hours after the hour. -/
def gapNow : Int := 20610 * 86400 + 7 * 3600 + 45 * 60

/-- The candidates that the step has found, and whether no lease runs on them. -/
def scansFreely (selected : HourKey) : GapEvent → Bool
  | ⟨_, .queueHourStates queueIds minDate window, reply, after⟩ =>
      decide (queueIds = trackedQueueIds ∧ minDate = gapCheckerMinDate ∧ window = completedDiscoveryWindow gapNow) &&
        (match (reply : Except String (List QueueHourState)) with
          | .ok rows => (gapCandidates rows).head? == some selected
          | .error _ => false) &&
        trackedQueueIds.all fun queueId => (after.hours ⟨selected.date, selected.hour, queueId⟩).all (·.leaseUntil.isNone)
  | _ => false

def freeRun (selected : HourKey) (events : List GapEvent) : Bool :=
  events.head?.any (scansFreely selected) && events.all calm

theorem selects_of_scan {selected : HourKey} {event : GapEvent} {rest : List GapEvent}
    (scans : scansFreely selected event = true) (later : Int) :
    Selects gapNow (event :: rest) event.after selected ∧ LeasesLast event.after later selected := by
  obtain ⟨before, op, reply, after⟩ := event
  cases op with
  | queueHourStates queueIds minDate window =>
      simp only [scansFreely, Bool.and_eq_true, decide_eq_true_eq, List.all_eq_true] at scans
      obtain ⟨⟨⟨rfl, rfl, rfl⟩, candidates⟩, free⟩ := scans
      cases reply with
      | error message => cases candidates
      | ok rows =>
          dsimp only at candidates
          obtain ⟨others, whole⟩ := List.head?_eq_some_iff.mp (beq_iff_eq.mp candidates)
          apply And.intro ⟨before, rows, others, whole, rfl⟩
          intro queueId tracked row lease stored _ leased
          have none_ := free queueId tracked
          simp only at stored
          rw [stored, Option.all_some, leased] at none_
          cases none_
  | claimVersions | hour => cases scans

def closesCleanly : GapEvent → Bool
  | ⟨before, .hour (.markComplete key _), _, _⟩ => before.discoveries.all fun discovery =>
      !discovery.foundIn key || !limitedWithFacts (before.ingest discovery.matchId) && decide (0 < discovery.matchId)
  | _ => true

theorem closesHoursCleanly_of {event : GapEvent} (closes : closesCleanly event = true) : ClosesHoursCleanly event := by
  obtain ⟨before, op, reply, after⟩ := event
  cases op with
  | hour op =>
      rintro key totalMatches rfl discovery member found
      have clean := List.all_eq_true.mp closes discovery member
      simp only [found, Bool.not_true, Bool.false_or, Bool.and_eq_true, Bool.not_eq_true', decide_eq_true_eq] at clean
      exact ⟨clean.1, fun nonpositive => absurd clean.2 (not_lt.mpr nonpositive)⟩
  | queueHourStates | claimVersions => trivial

theorem freeRun_reaches {start : HourStore} {inputs : List HourOutside} {selected : HourKey}
    {test : List GapEvent → HourStore → Bool} (plain : ∀ input ∈ inputs, input.lifecycle = id)
    (passed : (feed gapServe inputs start (runGapCheck gapNow)).any
      (fun reached => freeRun selected reached.1 && test reached.1 reached.2.2) = true) (later : Int) :
    ∃ events result after scanned, GapRun start gapNow events result after ∧ (∀ event ∈ events, Undisturbed event) ∧
      Selects gapNow events scanned selected ∧ LeasesLast scanned later selected ∧ test events after = true := by
  cases fed : feed gapServe inputs start (runGapCheck gapNow) with
  | none =>
      rw [fed] at passed
      cases passed
  | some outcome =>
      obtain ⟨events, result, after⟩ := outcome
      simp only [fed, Option.any_some, freeRun, Bool.and_eq_true, List.all_eq_true] at passed
      obtain ⟨⟨scanning, calm_⟩, tested⟩ := passed
      cases events with
      | nil => cases scanning
      | cons first rest =>
          obtain ⟨selects, lasting⟩ := selects_of_scan scanning later
          refine ⟨_, result, after, first.after, feed_exec fed, ?_, selects, lasting, tested⟩
          intro event member
          obtain ⟨input, listed, served⟩ := feed_events fed event member
          exact undisturbed_of_calm (calm_ event member) (by rw [gap_ingest served, plain input listed]; rfl)

/-- A worker has stopped before it closed the hour, and its lease is gone: the gap check closes it. -/
theorem abandoned_hour_is_settled :
    ∃ events result after scanned,
      GapRun (standingHour .fetching { status := .complete, acquisitionState := .complete }) gapNow events result after ∧
      Selects gapNow events scanned ⟨20610, 5, 486⟩ ∧ MovesOn 600 after ⟨20610, 5, 486⟩ := by
  obtain ⟨events, result, after, scanned, run, undisturbed, selects, lasting, clean⟩ :=
    @freeRun_reaches (standingHour .fetching { status := .complete, acquisitionState := .complete })
      (List.replicate 7 {}) ⟨20610, 5, 486⟩ (fun events _ => events.all closesCleanly)
      (by
        intro input member
        rw [List.eq_of_mem_replicate member])
      (by decide +kernel) 600
  refine ⟨events, result, after, scanned, run, selects, ?_⟩
  apply selected_hour_is_settled run undisturbed selects lasting
  intro event member
  exact closesHoursCleanly_of (List.all_eq_true.mp clean event member)

/-- The match of a complete hour was stored as limited. The hour is drained, without any work, and closed again, and
it is eligible as before. -/
theorem limited_match_keeps_hour_selected :
    ∃ events result after scanned,
      GapRun (standingHour .complete { status := .limited, acquisitionState := .limited }) gapNow events result after ∧
      (∀ event ∈ events, Undisturbed event) ∧ Selects gapNow events scanned ⟨20610, 5, 486⟩ ∧
      LeasesLast scanned 600 ⟨20610, 5, 486⟩ ∧ ¬ MovesOn 600 after ⟨20610, 5, 486⟩ := by
  obtain ⟨events, result, after, scanned, run, undisturbed, selects, lasting, stuck⟩ :=
    @freeRun_reaches (standingHour .complete { status := .limited, acquisitionState := .limited })
      (List.replicate 7 {}) ⟨20610, 5, 486⟩
      (fun _ after => after.eligible 600 gapCheckerMinDate (20610, 6) ⟨20610, 5, 486⟩)
      (by
        intro input member
        rw [List.eq_of_mem_replicate member])
      (by decide +kernel) 600
  refine ⟨events, result, after, scanned, run, undisturbed, selects, lasting, ?_⟩
  intro moves
  have settled := moves.settled 486 (by decide) (20610, 6)
  rw [stuck] at settled
  cases settled

end PaladinsCat.Backend
