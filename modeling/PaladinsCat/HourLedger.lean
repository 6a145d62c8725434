import PaladinsCat.MatchLifecycle
import PaladinsCat.SqlLogic

/-!
The ledger of the queue-hours (discovery_control.rs) and the matches discovered in
them (discovery_store.rs): which hours may be claimed, and which of the discovered
matches still need work (pipeline.rs). The two conditions on a match are written down
twice in the source, as an `EXISTS` that reopens a complete hour and as the selection
of the work that a claimed hour does. They agree on rows that are not limited.
-/

namespace PaladinsCat.Backend

structure HourKey where
  date : Int
  hour : Int
  queueId : Int
  deriving DecidableEq

inductive HourStatus where
  | fetching
  | empty
  | complete
  | failed
  deriving DecidableEq

/-- A row of `hourly_ingest_state`. -/
structure HourlyIngestState where
  status : HourStatus := .fetching
  attempts : Int := 0
  rawMatchCount : Int := 0
  stagedMatchCount : Int := 0
  fetched : Bool := false
  fetchSucceeded : Bool := false
  source : Option String := none
  errorMessage : Option String := none
  lastAttemptAt : Option Int := none
  nextRetryAt : Option Int := none
  leaseUntil : Option Int := none
  completedAt : Option Int := none

/-- A row of `match_count_discoveries`, whose key is the match with its queue. -/
structure MatchCountDiscovery where
  matchId : Int
  queueId : Int
  region : String
  entryDatetime : Option String
  activeFlag : Bool
  sourceDate : Int
  sourceHour : Int

/-- `source_date=… AND source_hour=… AND queue_id=…`. -/
def MatchCountDiscovery.foundIn (discovery : MatchCountDiscovery) (key : HourKey) : Bool :=
  discovery.sourceDate == key.date && discovery.sourceHour == key.hour && discovery.queueId == key.queueId

structure HourStore where
  hours : HourKey → Option HourlyIngestState := fun _ => none
  discoveries : List MatchCountDiscovery := []
  regionHours : HourKey → List (String × Nat) := fun _ => []
  hourlyMatchCounts : HourKey → Option Int := fun _ => none
  ingest : Int → Option IngestRow := fun _ => none
  clock : Int := 0

/-! ### Work that is left -/

section Conditions
variable (matchId : Int) (lifecycle : Option IngestRow)

-- The columns of a lifecycle row that the outer join may not have found.
def joinedMatchId : Option Int := lifecycle.map fun _ => matchId
def joinedStatus : Option IngestStatus := lifecycle.map (·.status)
def joinedAcquisition : Option AcquisitionState := lifecycle.map (·.acquisitionState)
def joinedError : Option String := lifecycle.bind (·.errorMessage)

/-- What `reopenable_hour_predicate` asks of a discovered match. -/
def reopensHour : Sql.Truth :=
  (Sql.isNull (joinedMatchId matchId lifecycle)).or
    ((Sql.notInList (joinedStatus lifecycle) [.complete, .limited]).or
      ((Sql.equal (joinedStatus lifecycle) (some .limited)).and
        ((Sql.distinct (joinedAcquisition lifecycle) (some .unavailable)).or
          (Sql.distinct (joinedError lifecycle) (some terminalNoCompletedMatchReason)))))

/-- What `MATCH_IDS_REQUIRING_CANONICAL_WORK_SQL` asks of a positive match id. -/
def requiresCanonicalWork : Sql.Truth :=
  (((Sql.equal (joinedStatus lifecycle) (some .complete)).or
      ((Sql.equal (joinedStatus lifecycle) (some .limited)).and
        ((Sql.unequal (joinedAcquisition lifecycle) (some .unavailable)).or
          (Sql.notDistinct (joinedError lifecycle) (some terminalNoCompletedMatchReason))))).coalesce
    false).not

/-- The match has no lifecycle row, or one that is neither finished nor terminal. -/
def leftUnfinished : Bool :=
  match lifecycle with
  | none => true
  | some row => (row.status != .complete && row.status != .limited) || row.reopens

/-- The row is limited and its match was available: its facts are there, but not all. -/
def limitedWithFacts : Bool :=
  lifecycle.any fun row => row.status == .limited && row.acquisitionState != .unavailable

end Conditions

def reopenableHour (before : HourStore) (key : HourKey) : Bool :=
  before.discoveries.any fun discovery =>
    discovery.foundIn key && (reopensHour discovery.matchId (before.ingest discovery.matchId)).holds

/-- `discovered_match_ids`: the positive ids of an hour, in order and once each. -/
def discoveredMatchIds (discoveries : List MatchCountDiscovery) (key : HourKey) : List Int :=
  (((discoveries.filter (·.foundIn key)).map (·.matchId)).filter fun id => decide (0 < id)).dedup.insertionSort
    fun left right => left ≤ right

structure CanonicalWorkSelection where
  batchIds : List Int := []
  resumeIds : List Int := []

def CanonicalWorkSelection.ids (work : CanonicalWorkSelection) : List Int := work.batchIds ++ work.resumeIds

def matchIdsRequiringCanonicalWork (ingest : Int → Option IngestRow) (matchIds : List Int) :
    CanonicalWorkSelection :=
  let rows := matchIds.filter fun id => decide (0 < id) && (requiresCanonicalWork (ingest id)).holds
  { batchIds := rows.filter fun id => (ingest id).isNone
    resumeIds := rows.filter fun id => (ingest id).isSome }

/-! ### The claim -/

/-- `FETCH_LEASE_MINUTES`, in seconds. -/
def fetchLease : Int := 5 * 60

def claimedHour (now : Int) (source : String) (reopenable : Bool) :
    Option HourlyIngestState → Option HourlyIngestState
  | none =>
      some
        { status := .fetching
          attempts := 1
          source := some source
          lastAttemptAt := some now
          leaseUntil := some (now + fetchLease) }
  | some state =>
      if state.status == .failed && (!state.fetched || state.fetchSucceeded) ||
          state.status == .complete && reopenable ||
          state.status == .fetching && state.leaseUntil.all (· ≤ now) then
        some { state with
          status := .fetching
          attempts := state.attempts + 1
          source := some source
          errorMessage := none
          lastAttemptAt := some now
          nextRetryAt := none
          leaseUntil := some (now + fetchLease) }
      else none

/-- `none` is a violated constraint: a day has the hours 0 to 23. -/
def claimHourlyIngestHour (now : Int) (before : HourStore) (key : HourKey) (source : String) :
    Option (Bool × HourStore) :=
  if 0 ≤ key.hour ∧ key.hour ≤ 23 then
    match claimedHour now source (reopenableHour before key) (before.hours key) with
    | some state => some (true, { before with hours := Function.update before.hours key (some state) })
    | none => some (false, before)
  else none

/-! ### Both conditions in ordinary logic -/

section Row
variable (matchId : Int) (row : IngestRow)

@[simp] theorem joinedMatchId_some : joinedMatchId matchId (some row) = some matchId := rfl
@[simp] theorem joinedStatus_some : joinedStatus (some row) = some row.status := rfl
@[simp] theorem joinedAcquisition_some : joinedAcquisition (some row) = some row.acquisitionState := rfl
@[simp] theorem joinedError_some : joinedError (some row) = row.errorMessage := rfl

end Row

theorem requiresCanonicalWork_holds (lifecycle : Option IngestRow) :
    (requiresCanonicalWork lifecycle).holds = leftUnfinished lifecycle := by
  cases lifecycle with
  | none => rfl
  | some row =>
      rw [Bool.eq_iff_iff]
      cases stands : row.status <;> simp [requiresCanonicalWork, leftUnfinished, IngestRow.reopens, stands]

theorem reopensHour_holds (matchId : Int) (lifecycle : Option IngestRow) :
    (reopensHour matchId lifecycle).holds = (leftUnfinished lifecycle || limitedWithFacts lifecycle) := by
  cases lifecycle with
  | none => rfl
  | some row =>
      rw [Bool.eq_iff_iff]
      cases stands : row.status <;>
        simp [reopensHour, leftUnfinished, limitedWithFacts, IngestRow.reopens, stands]
      tauto

theorem mem_discoveredMatchIds {discoveries : List MatchCountDiscovery} {key : HourKey} {id : Int} :
    id ∈ discoveredMatchIds discoveries key ↔
      0 < id ∧ ∃ discovery ∈ discoveries, discovery.foundIn key = true ∧ discovery.matchId = id := by
  simp only [discoveredMatchIds, List.mem_insertionSort, List.mem_dedup, List.mem_filter, List.mem_map,
    decide_eq_true_eq, and_assoc]
  exact and_comm

theorem mem_canonicalWork {ingest : Int → Option IngestRow} {matchIds : List Int} {id : Int} :
    id ∈ (matchIdsRequiringCanonicalWork ingest matchIds).ids ↔
      id ∈ matchIds ∧ 0 < id ∧ leftUnfinished (ingest id) = true := by
  simp only [CanonicalWorkSelection.ids, matchIdsRequiringCanonicalWork, List.mem_append, List.mem_filter,
    Bool.and_eq_true, decide_eq_true_eq, requiresCanonicalWork_holds]
  cases ingest id <;> simp

theorem discoveredMatchIds_nodup (discoveries : List MatchCountDiscovery) (key : HourKey) :
    (discoveredMatchIds discoveries key).Nodup :=
  (List.perm_insertionSort _ _).nodup_iff.mpr (List.nodup_dedup _)

theorem canonicalWork_nodup (ingest : Int → Option IngestRow) {matchIds : List Int} (distinct : matchIds.Nodup) :
    (matchIdsRequiringCanonicalWork ingest matchIds).batchIds.Nodup :=
  (distinct.filter _).filter _

theorem reopenableHour_iff {before : HourStore} {key : HourKey} :
    reopenableHour before key = true ↔ ∃ discovery ∈ before.discoveries, discovery.foundIn key = true ∧
      (leftUnfinished (before.ingest discovery.matchId) = true ∨
        limitedWithFacts (before.ingest discovery.matchId) = true) := by
  simp only [reopenableHour, List.any_eq_true, Bool.and_eq_true, reopensHour_holds, Bool.or_eq_true]

/-! ### Reopening and work -/

/-- The work that a claimed hour finds among its discovered matches. -/
def hourWork (before : HourStore) (key : HourKey) : List Int :=
  (matchIdsRequiringCanonicalWork before.ingest (discoveredMatchIds before.discoveries key)).ids

/-- An hour reopens exactly if there is work in it, so that a complete hour is claimed only for
work. -/
def ReopensForWork (before : HourStore) (key : HourKey) : Prop :=
  (reopenableHour before key = true ↔ hourWork before key ≠ []) ∧
    ∀ now source state after, before.hours key = some state → state.status = .complete →
      claimHourlyIngestHour now before key source = some (true, after) → hourWork before key ≠ []

theorem hourWork_ne_nil {before : HourStore} {key : HourKey} :
    hourWork before key ≠ [] ↔ ∃ discovery ∈ before.discoveries, discovery.foundIn key = true ∧
      0 < discovery.matchId ∧ leftUnfinished (before.ingest discovery.matchId) = true := by
  constructor
  · intro some_
    obtain ⟨id, member⟩ := List.exists_mem_of_ne_nil _ some_
    obtain ⟨found, positive, open_⟩ := mem_canonicalWork.mp member
    obtain ⟨-, discovery, listed, foundIn, rfl⟩ := mem_discoveredMatchIds.mp found
    exact ⟨discovery, listed, foundIn, positive, open_⟩
  · rintro ⟨discovery, listed, foundIn, positive, open_⟩
    have found := mem_discoveredMatchIds.mpr ⟨positive, discovery, listed, foundIn, rfl⟩
    exact List.ne_nil_of_mem (mem_canonicalWork.mpr ⟨found, positive, open_⟩)

/-- A complete hour is claimed only if it is reopenable. -/
theorem claimed_complete_hour {now : Int} {source : String} {before after : HourStore} {key : HourKey}
    {state : HourlyIngestState} (stored : before.hours key = some state) (closed : state.status = .complete)
    (claimed : claimHourlyIngestHour now before key source = some (true, after)) :
    reopenableHour before key = true := by
  by_contra shut
  simp only [Bool.not_eq_true] at shut
  simp only [claimHourlyIngestHour, claimedHour, stored, closed, shut] at claimed
  split at claimed <;> simp at claimed

/-- The two conditions on a match differ on limited rows whose match was available, and on
ids that are not positive: the hour reopens for them, but no work is selected. -/
theorem reopens_for_work_iff (before : HourStore) (key : HourKey) :
    ReopensForWork before key ↔
      ∀ discovery ∈ before.discoveries, discovery.foundIn key = true →
        (limitedWithFacts (before.ingest discovery.matchId) = true ∨
          discovery.matchId ≤ 0 ∧ leftUnfinished (before.ingest discovery.matchId) = true) →
        ∃ other ∈ before.discoveries, other.foundIn key = true ∧ 0 < other.matchId ∧
          leftUnfinished (before.ingest other.matchId) = true := by
  simp only [ReopensForWork, ← hourWork_ne_nil]
  constructor
  · rintro ⟨agree, -⟩ discovery member found idle
    exact agree.mp (reopenableHour_iff.mpr ⟨discovery, member, found, idle.symm.imp_left (·.2)⟩)
  · intro busy
    have works : reopenableHour before key = true → hourWork before key ≠ [] := by
      intro reopens
      obtain ⟨discovery, member, found, open_ | limited⟩ := reopenableHour_iff.mp reopens
      · rcases le_or_gt discovery.matchId 0 with nonpositive | positive
        · exact busy discovery member found (Or.inr ⟨nonpositive, open_⟩)
        · exact hourWork_ne_nil.mpr ⟨discovery, member, found, positive, open_⟩
      · exact busy discovery member found (Or.inl limited)
    constructor
    · constructor
      · exact works
      · intro work
        obtain ⟨discovery, member, found, -, open_⟩ := hourWork_ne_nil.mp work
        exact reopenableHour_iff.mpr ⟨discovery, member, found, Or.inl open_⟩
    · intro now source state after stored closed claimed
      exact works (claimed_complete_hour stored closed claimed)

/-- A complete hour with one match, which was stored as limited. -/
def limitedHour : HourStore where
  hours := fun _ => some { status := .complete, fetched := true, fetchSucceeded := true }
  discoveries :=
    [{ matchId := 7, queueId := 486, region := "EU", entryDatetime := none, activeFlag := false,
       sourceDate := 20000, sourceHour := 5 }]
  ingest := fun _ => some { status := .limited, acquisitionState := .limited }

/-- It is claimed again and again, and no work is ever selected. -/
theorem limited_match_reopens_hour : ¬ ReopensForWork limitedHour ⟨20000, 5, 486⟩ := by
  intro agrees
  exact agrees.1.mp (by decide) (by decide)

end PaladinsCat.Backend
