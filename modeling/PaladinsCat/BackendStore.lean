import PaladinsCat.Interleaving
import PaladinsCat.Text

/-!
The backend's tables, as far as the workers of the match pipeline read and write
them. A table with a primary key that is looked up by it is a function, any other
a list of rows. Of an aggregate table only the contributions are kept: which
matches have been added to it, once for each time.
-/

namespace PaladinsCat.Backend

def rankedQueueId : Int := 486

/-! ### match_ingest_status -/

inductive MatchPopulation where
  | ranked
  | casual
  | special
  | unknown
  deriving DecidableEq, Repr

inductive IngestStatus where
  | processing
  | partialFacts
  | complete
  | limited
  | failed
  deriving DecidableEq, Repr

inductive AcquisitionState where
  | discovered
  | detailPending
  | detailComplete
  | recoveryPending
  | factsReady
  | complete
  | limited
  | unavailable
  deriving DecidableEq, Repr

inductive Stage where
  | core
  | playerFacts
  | matchBans
  | ratings
  | rankedStats
  | performanceProjections
  | scalableStats
  | casualMechanicsStats
  | specialMechanicsStats
  | nonrankedCoreStats
  deriving DecidableEq, Repr

structure IngestRow where
  status : IngestStatus := .processing
  completedStages : Finset Stage := ∅
  source : Option String := none
  attempts : Nat := 0
  errorMessage : Option String := none
  queueId : Option Int := none
  population : MatchPopulation := .unknown
  acquisitionState : AcquisitionState := .discovered
  detailAttemptedAt : Option Int := none
  rosterResolvedAt : Option Int := none
  demoResolvedAt : Option Int := none
  directPlayerCount : Int := 0
  rosterPlayerCount : Int := 0
  unresolvedPlayerIds : List Int := []
  leaseOwner : Option String := none
  leaseUntil : Option Int := none
  completedAt : Option Int := none

def IngestRow.addStage (row : IngestRow) (stage : Stage) : IngestRow :=
  { row with completedStages := insert stage row.completedStages }

/-- The three stages that a projected ranked match has behind it. -/
def rankedStages : Finset Stage := {.rankedStats, .performanceProjections, .scalableStats}

/-- `status='complete',acquisition_state='complete',…`, as the projectors close a row. -/
def IngestRow.close (row : IngestRow) (now : Int) : IngestRow :=
  { row with
    status := .complete
    acquisitionState := .complete
    completedAt := row.completedAt.or (some now)
    leaseOwner := none
    leaseUntil := none }

/-! ### Facts -/

structure MatchRow where
  matchId : Int
  entryDatetime : Int
  queueId : Int
  isRanked : Option Bool
  limited : Bool
  winningTaskForce : Option Int
  deriving DecidableEq

inductive PlayerSource where
  | direct
  | recovered
  | minimal
  deriving DecidableEq

structure MatchPlayerRow where
  matchId : Int
  playerId : Int
  privateSlot : Int
  entryDatetime : Int
  playerName : Option String
  championId : Option Int
  winStatus : Option String
  taskForce : Option Int
  source : Option PlayerSource
  isRanked : Bool
  deriving DecidableEq

/-- A row of `casual_matches` or `special_matches`. -/
structure NonrankedMatchRow where
  matchId : Int
  queueId : Int
  entryDatetime : Int
  deriving DecidableEq

inductive StatsScope where
  | ranked
  | casual
  | bot
  | teamDeathmatch
  | arcade
  | waveDefense
  | experiment
  | newcomer
  | custom
  | other
  deriving DecidableEq

structure QueueType where
  isRanked : Bool
  statsScope : StatsScope

/-! ### Ratings

`Rating` stands for a Glicko state: the floating-point arithmetic on it is a
parameter of the model. -/

structure ChampionRating (Rating : Type) where
  rating : Rating
  matchesPlayed : Nat
  wins : Nat
  losses : Nat

/-- A row of `match_rating_snapshots`, with the ratings before and after the match. -/
structure Snapshot (Rating : Type) where
  matchId : Int
  playerId : Int
  championId : Int
  queuePre : Rating
  queuePost : Rating
  championPre : Rating
  championPost : Rating

structure Cursor where
  lastMatchId : Int
  lastEntryDatetime : Int

structure RebuildRequest where
  earliestEntryDatetime : Int
  reason : String

/-! ### Aggregates -/

inductive Aggregate where
  | itemCountsRanked
  | mapItemCountsRanked
  | talentCountsRanked
  | cardCountsRanked
  | talentCardCountsRanked
  | skinCountsRanked
  | bansRanked
  | championStatsRanked
  | matchCompositionsRanked
  | playerRelationships
  | matchOpponents
  | performanceMetricHistogram
  | playerQueueRatingSummary
  | playerChampionOutcomeSummary
  | statsMatchAggregate
  | statsPlayerAggregate
  | statsTalentCardAggregate
  | statsCompositionAggregate
  | statsItemAggregate
  | statsTalentAggregate
  | statsCardAggregate
  | statsBanAggregate
  | statsMetricHistogram
  | statsChampionMetricHistogram
  | casualPerformanceMetricHistogram
  | itemCountsCasual
  | talentCountsCasual
  | cardCountsCasual
  deriving DecidableEq

def rankedTables : List Aggregate :=
  [.itemCountsRanked, .mapItemCountsRanked, .talentCountsRanked, .cardCountsRanked,
    .talentCardCountsRanked, .skinCountsRanked, .bansRanked, .championStatsRanked,
    .matchCompositionsRanked, .playerRelationships, .matchOpponents]

def performanceTables : List Aggregate :=
  [.performanceMetricHistogram, .playerQueueRatingSummary, .playerChampionOutcomeSummary]

def scalableTables : List Aggregate :=
  [.statsMatchAggregate, .statsPlayerAggregate, .statsTalentCardAggregate, .statsCompositionAggregate,
    .statsItemAggregate, .statsTalentAggregate, .statsCardAggregate, .statsBanAggregate,
    .statsMetricHistogram, .statsChampionMetricHistogram]

/-- The tables in which projectors claim the matches they add. -/
inductive Ledger where
  | performanceProjectionMatches
  | statsProjectionMatches
  | casualPerformanceProjectionMatches
  | mapItemCountsRankedMatches
  | itemCountsCasualMatches
  | talentCountsCasualMatches
  | cardCountsCasualMatches
  deriving DecidableEq

/-! ### The store -/

structure Store (Rating : Type) where
  queueTypes : Int → Option QueueType := fun _ => none
  matchRows : List MatchRow := []
  matchPlayers : List MatchPlayerRow := []
  casualMatches : List NonrankedMatchRow := []
  specialMatches : List NonrankedMatchRow := []
  ingest : Int → Option IngestRow := fun _ => none
  queueRatings : Int → Int → Option Rating := fun _ _ => none
  championRatings : Int → Int → Option (ChampionRating Rating) := fun _ _ => none
  snapshots : List (Snapshot Rating) := []
  cursors : Int → Int → Option Cursor := fun _ _ => none
  lateApplications : Int → Option (Int × Int) := fun _ => none
  rebuildRequest : Option RebuildRequest := none
  claimed : Ledger → List Int := fun _ => []
  added : Aggregate → List Int := fun _ => []

namespace Store

variable {Rating : Type}

/-- `UPDATE match_ingest_status SET … WHERE match_id=$1 AND …`. -/
def updateIngest (store : Store Rating) (matchId : Int) (change : IngestRow → Option IngestRow) :
    Store Rating :=
  match (store.ingest matchId).bind change with
  | some row => { store with ingest := Function.update store.ingest matchId (some row) }
  | none => store

theorem updateIngest_eq (store : Store Rating) (matchId : Int) (change : IngestRow → Option IngestRow) :
    store.updateIngest matchId change = { store with
      ingest := Function.update store.ingest matchId
        (((store.ingest matchId).bind change).or (store.ingest matchId)) } := by
  unfold updateIngest
  cases (store.ingest matchId).bind change with
  | some row => rfl
  | none => simp

def addTo (store : Store Rating) (tables : List Aggregate) (ids : List Int) : Store Rating :=
  { store with added := fun table => if table ∈ tables then store.added table ++ ids else store.added table }

def claim (store : Store Rating) (ledger : Ledger) (ids : List Int) : Store Rating :=
  { store with claimed := Function.update store.claimed ledger (store.claimed ledger ++ ids) }

/-- `INSERT … SELECT … ON CONFLICT DO NOTHING RETURNING match_id`: the requested ids
that are allowed and not yet in the ledger. -/
def unclaimed (store : Store Rating) (ledger : Ledger) (allowed : Int → Bool) (ids : List Int) : List Int :=
  (ids.filter fun id => allowed id && !(store.claimed ledger).contains id).dedup

end Store

/-! ### Transactions -/

/-- How a transaction ends. A commit that is not acknowledged has taken place, but
the caller sees an error. -/
inductive Fate where
  | committed
  | rolledBack (error : String)
  | unacknowledged (error : String)
  deriving DecidableEq

/-- What a transaction does not decide: the time, whether the advisory lock was
free, and how it ends. -/
structure Outside where
  now : Int := 0
  locked : Bool := true
  fate : Fate := .committed

/-- The reply and the store that a transaction leaves behind. -/
def settle {Rating α : Type} (fate : Fate) (before : Store Rating) (outcome : α × Store Rating) :
    Except String α × Store Rating :=
  match fate with
  | .committed => (.ok outcome.1, outcome.2)
  | .rolledBack error => (.error error, before)
  | .unacknowledged error => (.error error, outcome.2)

theorem settle_cases {Rating α : Type} (fate : Fate) (before : Store Rating) (outcome : α × Store Rating) :
    settle fate before outcome = (.ok outcome.1, outcome.2) ∨
      (∃ error, settle fate before outcome = (.error error, before)) ∨
      ∃ error, settle fate before outcome = (.error error, outcome.2) := by
  cases fate with
  | committed => exact Or.inl rfl
  | rolledBack error => exact Or.inr (Or.inl ⟨error, rfl⟩)
  | unacknowledged error => exact Or.inr (Or.inr ⟨error, rfl⟩)

end PaladinsCat.Backend
