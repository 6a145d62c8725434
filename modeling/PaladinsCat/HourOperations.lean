import PaladinsCat.HourLedger
import PaladinsCat.KeyedList
import PaladinsCat.RelayPayload

/-!
The transactions of the queue-hours after the claim (discovery_control.rs,
discovery_store.rs), and one service for all that a worker of the pipeline calls while
it works on an hour: these transactions, the relay, and the work on single matches.
What a match's work does to `match_ingest_status` is left to the outside, as is what
other programs do to it between two steps.
-/

namespace PaladinsCat.Backend

open Interleaving
open Hirez (Value)

/-! ### The provider's answer -/

structure MatchIdObservation where
  matchId : Int
  entryDatetime : Option String := none
  region : Option String := none
  activeFlag : Bool := false
  deriving DecidableEq

def textOf (value : Value) (keys : List String) : Option String :=
  keys.findSome? fun key => (value.get key).bind Value.asStr

def booleanOf (value : Value) (keys : List String) : Bool :=
  (keys.findSome? fun key => (value.get key).bind Value.asBool).getD false

def observationOf (row : Value) (matchId : Int) : MatchIdObservation where
  matchId
  entryDatetime := textOf row ["Entry_Datetime", "entry_datetime"]
  region := textOf row ["Region", "region"]
  activeFlag := booleanOf row ["Active_Flag", "active_flag"]

def observeRows : List Int → List Value → List MatchIdObservation
  | _, [] => []
  | seen, row :: rest =>
      let matchId := (extractMatchId row).getD 0
      if matchId ≤ 0 ∨ matchId ∈ seen then observeRows seen rest
      else observationOf row matchId :: observeRows (matchId :: seen) rest

def parseObservations (value : Value) : List MatchIdObservation := observeRows [] ((asArray value).getD [])

/-! ### record_match_count_discovery_result -/

def normalizeRegion (value : Option String) : String :=
  let code := (Text.trim (value.getD "")).map Char.toUpper
  if code ∈ ["NA", "NORTH AMERICA"] then "NA"
  else if code ∈ ["EU", "EUROPE"] then "EU"
  else if code = "ASIA" then "ASIA"
  else if code = "SEA" then "SEA"
  else if code ∈ ["JPN", "JAPAN"] then "JPN"
  else if code ∈ ["RUS", "RUSSIA"] then "RUS"
  else if code ∈ ["BR", "BRAZIL"] then "BR"
  else if code ∈ ["OCE", "OCEANIA"] then "OCE"
  else if code ∈ ["SA", "SOUTH AMERICA"] then "SA"
  else "Unknown"

/-- `by_id`: in the order of the ids, the last observation of each positive id. -/
def observationsById (raw : List MatchIdObservation) : List MatchIdObservation :=
  (((raw.map (·.matchId)).filter fun id => decide (0 < id)).dedup.insertionSort fun left right => left ≤ right).filterMap
    fun id => raw.reverse.find? fun observation => observation.matchId == id

def discoveryKey (discovery : MatchCountDiscovery) : Int × Int := (discovery.matchId, discovery.queueId)

/-- A match that is known in the queue stays with the hour that has seen it first. -/
def recordObservation (key : HourKey) (discoveries : List MatchCountDiscovery) (observation : MatchIdObservation) :
    List MatchCountDiscovery :=
  let region := normalizeRegion observation.region
  match KeyedList.lookup discoveryKey (observation.matchId, key.queueId) discoveries with
  | some _ =>
      KeyedList.update discoveryKey (observation.matchId, key.queueId)
        (fun known => { known with
          region := if region ≠ "Unknown" then region else known.region
          entryDatetime := known.entryDatetime.or observation.entryDatetime
          activeFlag := observation.activeFlag })
        discoveries
  | none =>
      discoveries ++
        [{ matchId := observation.matchId
           queueId := key.queueId
           region
           entryDatetime := observation.entryDatetime
           activeFlag := observation.activeFlag
           sourceDate := key.date
           sourceHour := key.hour }]

def regionCounts (observations : List MatchIdObservation) : List (String × Nat) :=
  let regions := observations.map fun observation => normalizeRegion observation.region
  regions.dedup.map fun region => (region, regions.count region)

/-- `UPDATE hourly_ingest_state SET … WHERE date=… AND hour=… AND queue_id=… AND …`. -/
def HourStore.updateHour (before : HourStore) (key : HourKey)
    (change : HourlyIngestState → Option HourlyIngestState) : HourStore :=
  { before with hours := Function.update before.hours key (((before.hours key).bind change).or (before.hours key)) }

/-- `none` is a violated constraint. -/
def recordMatchCountDiscoveryResult (before : HourStore) (key : HourKey) (raw : List MatchIdObservation) :
    Option (Nat × HourStore) :=
  let observations := observationsById raw
  if observations = [] ∨ (0 ≤ key.hour ∧ key.hour ≤ 23) then
    let recorded : HourStore := { before with
      discoveries := observations.foldl (recordObservation key) before.discoveries
      regionHours := Function.update before.regionHours key (regionCounts observations) }
    some (observations.length, recorded.updateHour key fun state =>
      if state.status = .fetching then some { state with fetched := true, fetchSucceeded := true } else none)
  else none

/-! ### The other statements on an hour -/

def claimHourlyIngestSearch (before : HourStore) (key : HourKey) : Bool × HourStore :=
  let change := fun state : HourlyIngestState =>
    if state.status = .fetching ∧ state.fetched = false then
      some { state with fetched := true, fetchSucceeded := false }
    else none
  (((before.hours key).bind change).isSome, before.updateHour key change)

def refreshHourlyIngestLease (now : Int) (before : HourStore) (key : HourKey) : HourStore :=
  before.updateHour key fun state =>
    if state.status = .fetching then some { state with leaseUntil := some (now + fetchLease) } else none

/-- The first statement of `mark_hourly_ingest_empty`. -/
def markHourlyIngestEmpty (now : Int) (before : HourStore) (key : HourKey) : HourStore :=
  before.updateHour key fun state =>
    some { state with
      status := .empty
      rawMatchCount := 0
      stagedMatchCount := 0
      fetched := true
      fetchSucceeded := true
      errorMessage := none
      leaseUntil := none
      nextRetryAt := none
      completedAt := some now }

/-- Its second. -/
def insertEmptyHourCount (before : HourStore) (key : HourKey) : HourStore :=
  { before with
    hourlyMatchCounts := Function.update before.hourlyMatchCounts key ((before.hourlyMatchCounts key).or (some 0)) }

def markHourlyIngestComplete (now : Int) (before : HourStore) (key : HourKey) (totalMatches : Int) : HourStore :=
  before.updateHour key fun state =>
    some { state with
      status := .complete
      rawMatchCount := max state.rawMatchCount totalMatches
      stagedMatchCount := max state.stagedMatchCount totalMatches
      fetched := true
      fetchSucceeded := true
      errorMessage := none
      leaseUntil := none
      nextRetryAt := none
      completedAt := some now }

def markHourlyIngestFailed (before : HourStore) (key : HourKey) (message : String)
    (rawCount stagedCount : Option Int) : HourStore :=
  before.updateHour key fun state =>
    some { state with
      status := .failed
      rawMatchCount := max state.rawMatchCount (rawCount.getD state.rawMatchCount)
      stagedMatchCount := max state.stagedMatchCount (stagedCount.getD state.stagedMatchCount)
      errorMessage := some message
      leaseUntil := none
      nextRetryAt := none }

/-! ### One service -/

inductive HourOp where
  | claimHour (key : HourKey) (source : String)
  | discoveredIds (key : HourKey)
  | claimSearch (key : HourKey)
  | searchProvider (key : HourKey)
  | recordDiscovery (key : HourKey) (observations : List MatchIdObservation)
  | canonicalWork (matchIds : List Int)
  | refreshLease (key : HourKey)
  | markEmpty (key : HourKey)
  | insertEmptyCount (key : HourKey)
  | markComplete (key : HourKey) (totalMatches : Int)
  | markFailed (key : HourKey) (message : String) (rawCount stagedCount : Option Int)
  | matchDetailsBatch (matchIds : List Int) (queueId : Int) (singletonPass : Bool)
  | recordOutage (message : String)
  | checkpointOutcome (outcome : Value) (queueId : Int)
  | completeStages (matchIds : List Int)
  | recoverMatch (matchId queueId : Int)
  | markUnavailable (matchId queueId : Int) (reason : String)

/-- Match ids are read without repeats. -/
abbrev HourOp.Result : HourOp → Type
  | .claimHour _ _ | .claimSearch _ => Bool
  | .discoveredIds _ => { ids : List Int // ids.Nodup }
  | .searchProvider _ | .matchDetailsBatch _ _ _ => Value
  | .recordDiscovery _ _ | .completeStages _ => Nat
  | .canonicalWork matchIds => { work : CanonicalWorkSelection // matchIds.Nodup → work.batchIds.Nodup }
  | .checkpointOutcome _ _ => Int
  | _ => Unit

abbrev HourOp.Reply (op : HourOp) : Type := Except PipelineError op.Result

/-- How an operation reports that it did not get through. -/
def HourOp.failure : HourOp → String → PipelineError
  | .searchProvider _, message | .matchDetailsBatch _ _ _, message => .relay (.transport message)
  | .checkpointOutcome _ _, message | .recoverMatch _ _, message => .facts message
  | _, message => .database message

/-- What a step finds and is told: the time, how it ends, what the relay answers, how
the work on a match goes, and what has become of `match_ingest_status`. -/
structure HourOutside where
  now : Int := 0
  fate : Fate := .committed
  answer : Except WorkerRelayError Value := .ok (.array [])
  checkpointed : Except PipelineError Int := .ok 0
  recovered : Except PipelineError Unit := .ok ()
  completedStages : Nat := 0
  lifecycle : (Int → Option IngestRow) → Int → Option IngestRow := id

def constraintViolation {α : Type} : Option α → Except PipelineError α
  | some value => .ok value
  | none => .error (.database "constraint violation")

def hourEffect (outside : HourOutside) (before : HourStore) :
    (op : HourOp) → Except PipelineError (op.Result × HourStore)
  | .claimHour key source => constraintViolation (claimHourlyIngestHour outside.now before key source)
  | .discoveredIds key =>
      .ok (⟨discoveredMatchIds before.discoveries key, discoveredMatchIds_nodup before.discoveries key⟩, before)
  | .claimSearch key => .ok (claimHourlyIngestSearch before key)
  | .searchProvider _ | .matchDetailsBatch _ _ _ =>
      match outside.answer with
      | .ok value => .ok (value, before)
      | .error error => .error (.relay error)
  | .recordDiscovery key observations =>
      constraintViolation (recordMatchCountDiscoveryResult before key observations)
  | .canonicalWork matchIds =>
      .ok (⟨matchIdsRequiringCanonicalWork before.ingest matchIds, canonicalWork_nodup before.ingest⟩, before)
  | .refreshLease key => .ok ((), refreshHourlyIngestLease outside.now before key)
  | .markEmpty key => .ok ((), markHourlyIngestEmpty outside.now before key)
  | .insertEmptyCount key => .ok ((), insertEmptyHourCount before key)
  | .markComplete key totalMatches => .ok ((), markHourlyIngestComplete outside.now before key totalMatches)
  | .markFailed key message rawCount stagedCount =>
      .ok ((), markHourlyIngestFailed before key message rawCount stagedCount)
  | .recordOutage _ | .markUnavailable _ _ _ => .ok ((), before)
  | .checkpointOutcome _ _ => outside.checkpointed.map fun matchId => (matchId, before)
  | .completeStages _ => .ok (outside.completedStages, before)
  | .recoverMatch _ _ => outside.recovered.map fun _ => ((), before)

/-- One step, at a time that is not before the last one. -/
def hourServe : Service HourStore HourOp HourOp.Reply HourOutside :=
  fun before op outside =>
    if outside.now < before.clock then none
    else
      let found : HourStore := { before with ingest := outside.lifecycle before.ingest, clock := outside.now }
      match hourEffect outside found op with
      | .error error => some (.error error, found)
      | .ok (result, after) =>
          match outside.fate with
          | .committed => some (.ok result, after)
          | .rolledBack error => some (.error (op.failure error), found)
          | .unacknowledged error => some (.error (op.failure error), after)

/-- A step takes time. Then it has its effect, and may still report an error, or it has none
and reports one. -/
theorem hour_served {before after : HourStore} {op : HourOp} {reply : op.Reply}
    (served : hourServe.handler before op reply after) :
    ∃ outside : HourOutside, before.clock ≤ outside.now ∧
      ∃ found : HourStore, found = { before with ingest := outside.lifecycle before.ingest, clock := outside.now } ∧
        ((after = found ∧ ∃ error, reply = .error error) ∨
          ∃ result, hourEffect outside found op = .ok (result, after) ∧
            (reply = .ok result ∨ ∃ error, reply = .error error)) := by
  obtain ⟨outside, served⟩ := served
  simp only [hourServe] at served
  split at served
  · cases served
  · rename_i late
    apply Exists.intro outside
    apply And.intro (not_lt.mp late)
    apply Exists.intro _
    apply And.intro rfl
    split at served
    · cases served
      exact Or.inl ⟨rfl, _, rfl⟩
    · rename_i result changed effected
      split at served
      · cases served
        exact Or.inr ⟨result, effected, Or.inl rfl⟩
      · cases served
        exact Or.inl ⟨rfl, _, rfl⟩
      · cases served
        exact Or.inr ⟨result, effected, Or.inr ⟨_, rfl⟩⟩

end PaladinsCat.Backend
