import PaladinsCat.BackendStore
import PaladinsCat.MatchDetails

/-!
The refresh of active players' profiles (workers/profile_enrichment.rs). Any number of workers
seed, claim and finish the rows of `player_activity_profile_refresh`, each statement by itself;
a worker that crashes takes no further turn. Presence and profiles change elsewhere, too. What
the provider answers, what was audited before and how each statement ends is left open.

Times are in microseconds. Of a profile only the ids, the message and the time of its refresh
are kept, and of the presence of a player only the last observation.
-/

namespace PaladinsCat.Enrichment

open Interleaving Program
open Hirez (Value)
open Backend (Fate)

/-! ### Tables -/

def second : Int := 1000000
def hour : Int := 3600 * second

def activityProfileTtlHours : Int := 24
def activityProfileBatchSize : Nat := 20
def profileClaimLeaseSeconds : Nat := 30 * 60
def failedRetryMinutes : Int := 60
def auditedProfileReplayHours : Int := 24

inductive RefreshStatus where
  | pending
  | fetching
  | success
  | unavailable
  | failed
  | skippedRecent
  deriving DecidableEq, Repr

/-- A row of `player_activity_profile_refresh`. -/
structure RefreshRow where
  playerId : Int
  status : RefreshStatus := .pending
  attempts : Nat := 0
  lastAttemptAt : Option Int := none
  lastSuccessAt : Option Int := none
  nextRetryAt : Option Int := none
  leaseUntil : Option Int := none
  errorMessage : Option String := none
  updatedAt : Int
  deriving DecidableEq, Repr

structure PresenceRow where
  playerId : Int
  lastObservedAt : Int
  deriving DecidableEq, Repr

structure PlayerRow where
  id : Int
  activePlayerId : Option Int
  hirezProfileRefreshedAt : Option Int
  deriving DecidableEq, Repr

/-- What this worker shares with the rest of the system. -/
structure World where
  now : Int
  presence : List PresenceRow
  players : List PlayerRow

structure Store where
  world : World
  refresh : List RefreshRow

/-! ### Reading -/

/-- `last_observed_at >= now() - interval '24 hours'`. -/
def observed (world : World) (playerId : Int) : Bool :=
  world.presence.any fun row => row.playerId == playerId && decide (world.now - 24 * hour ≤ row.lastObservedAt)

/-- The player's own profile, or else the latest of those that name the player as active. -/
def resolved (world : World) (playerId : Int) : Option Int :=
  match world.players.find? fun row => row.id == playerId with
  | some own => own.hirezProfileRefreshedAt
  | none => ((world.players.filter fun row =>
      row.activePlayerId == some playerId && decide (0 < playerId)).filterMap (·.hirezProfileRefreshedAt)).max?

def stale (world : World) (playerId : Int) : Bool :=
  (resolved world playerId).all fun refreshed => decide (refreshed < world.now - activityProfileTtlHours * hour)

/-- The rows that `CLAIM_UNKNOWN_IDENTITIES_SQL` selects from. -/
def due (world : World) (row : RefreshRow) : Bool :=
  observed world row.playerId && stale world row.playerId &&
    (row.status == .pending ||
      (row.status == .failed && row.nextRetryAt.any fun retry => decide (retry ≤ world.now)) ||
      (row.status == .fetching && row.leaseUntil.any fun lease => decide (lease ≤ world.now))) &&
    row.leaseUntil.all fun lease => decide (lease ≤ world.now)

def lastObserved (world : World) (playerId : Int) : Int :=
  ((world.presence.find? fun row => row.playerId == playerId).map (·.lastObservedAt)).getD 0

/-- `ORDER BY presence.last_observed_at DESC, refresh.player_id`. -/
def claimOrder (world : World) (left right : RefreshRow) : Prop :=
  lastObserved world right.playerId < lastObserved world left.playerId ∨
    (lastObserved world left.playerId = lastObserved world right.playerId ∧ left.playerId ≤ right.playerId)

instance (world : World) : DecidableRel (claimOrder world) := fun left right => by
  unfold claimOrder
  infer_instance

/-! ### Statements -/

def Store.updateRows (store : Store) (selects : RefreshRow → Bool) (change : RefreshRow → RefreshRow) : Store :=
  { store with refresh := store.refresh.map fun row => if selects row then change row else row }

/-- `SEED_UNKNOWN_IDENTITIES_SQL`. -/
def Store.seed (store : Store) : Store :=
  { store with
    refresh := store.refresh ++
      ((store.world.presence.filter fun row =>
        decide (store.world.now - 24 * hour ≤ row.lastObservedAt) &&
          !(store.refresh.any fun known => known.playerId == row.playerId)).map fun row =>
        { playerId := row.playerId, updatedAt := store.world.now }) }

/-- The rows that a claim takes; rows locked by other transactions are skipped. -/
def Store.claimable (store : Store) (locked : List Int) (limit : Nat) : List Int :=
  (((store.refresh.filter fun row => due store.world row && !locked.contains row.playerId).insertionSort
    (claimOrder store.world)).take limit).map (·.playerId)

def claimedRow (now : Int) (leaseSeconds : Nat) (row : RefreshRow) : RefreshRow :=
  { row with
    status := .fetching
    leaseUntil := some (now + leaseSeconds * second)
    errorMessage := none
    updatedAt := now }

def failedRow (now : Int) (message : String) (row : RefreshRow) : RefreshRow :=
  { row with
    status := .failed
    attempts := row.attempts + 1
    lastAttemptAt := some now
    errorMessage := some message
    leaseUntil := none
    nextRetryAt := some (now + failedRetryMinutes * 60 * second)
    updatedAt := now }

def unavailableRow (now : Int) (reason : String) (row : RefreshRow) : RefreshRow :=
  { row with
    status := .unavailable
    attempts := row.attempts + 1
    lastAttemptAt := some now
    errorMessage := some reason
    leaseUntil := none
    nextRetryAt := none
    updatedAt := now }

def succeededRow (now : Int) (row : RefreshRow) : RefreshRow :=
  { row with
    status := .success
    attempts := row.attempts + 1
    lastAttemptAt := some now
    lastSuccessAt := some now
    leaseUntil := none
    errorMessage := none
    nextRetryAt := none
    updatedAt := now }

def replayedRow (now : Int) (row : RefreshRow) : RefreshRow :=
  { row with
    status := .success
    lastSuccessAt := some now
    leaseUntil := none
    errorMessage := none
    nextRetryAt := none
    updatedAt := now }

def skippedRow (now : Int) (row : RefreshRow) : RefreshRow :=
  { row with
    status := .skippedRecent
    lastSuccessAt := some now
    nextRetryAt := none
    leaseUntil := none
    errorMessage := none
    updatedAt := now }

def releasedRow (now : Int) (row : RefreshRow) : RefreshRow :=
  { row with
    status := .pending
    leaseUntil := none
    errorMessage := none
    nextRetryAt := some now
    updatedAt := now }

def valueI64 (value : Value) (keys : List String) : Option Int :=
  keys.findSome? fun key => (value.get key).bind fun field =>
    field.asI64.or (field.asStr.bind (Text.parseSigned (-2 ^ 63) (2 ^ 63 - 1)))

/-- `INSERT INTO players … ON CONFLICT(id) DO UPDATE`. -/
def World.upsertPlayer (world : World) (row : PlayerRow) : World :=
  { world with
    players :=
      if world.players.any fun known => known.id == row.id then
        world.players.map fun known => if known.id == row.id then row else known
      else world.players ++ [row] }

/-- The id and the row of a profile that `persist_player_profile` accepts. -/
def profileRow (now : Int) (raw : Value) : Option PlayerRow :=
  let playerId := (valueI64 raw ["Id", "ActivePlayerId"]).getD 0
  if playerId ≤ 0 then none
  else some ⟨playerId, some ((valueI64 raw ["ActivePlayerId", "Id"]).getD playerId), some now⟩

def World.observe (world : World) (row : PresenceRow) : World :=
  { world with
    presence :=
      if world.presence.any fun known => known.playerId == row.playerId then
        world.presence.map fun known =>
          if known.playerId == row.playerId then ⟨row.playerId, max known.lastObservedAt row.lastObservedAt⟩ else known
      else world.presence ++ [row] }

/-- `RECONCILE_PRESENCE_SQL`, given the last participation of each player in recent matches. -/
def World.reconcile (world : World) (participations : List PresenceRow) : World :=
  (participations.filter fun row => decide (0 < row.playerId) && decide (world.now - 24 * hour ≤ row.lastObservedAt)).foldl
    World.observe world

/-- The rows that `AUDITED_PROFILE_REPLAY_SQL` looks for in the audit. -/
def retryable (world : World) (row : RefreshRow) : Bool :=
  (row.status == .failed || row.status == .unavailable) &&
    row.lastAttemptAt.any fun attempt => decide (world.now - auditedProfileReplayHours * hour ≤ attempt)

def expiredRow (world : World) (row : RefreshRow) : Bool :=
  decide (row.updatedAt < world.now - 7 * 24 * hour) && !observed world row.playerId

inductive EnrichOp where
  | reconcilePresence
  | auditedProfiles
  | persistProfile (raw : Value)
  | replaySucceeded (playerId : Int)
  | claimUnknown (limit leaseSeconds : Nat)
  | relayClient
  | filterStale (playerIds : List Int)
  | markSkippedRecent (playerIds : List Int)
  | getPlayerBatch (playerIds : List Int)
  | recordRaw (playerIds : List Int) (reason : String) (payload : Value)
  | markFailed (playerIds : List Int) (message : String)
  | releaseUnprocessed (playerIds : List Int)
  | succeed (playerId : Int)
  | finishUnavailable (playerId : Int) (reason : String)
  | cleanupQueuePresence
  | cleanupRefresh
  -- time passes, matches are ingested, other code writes players
  | elsewhere (world : World)

abbrev EnrichOp.Reply : EnrichOp → Type
  | .auditedProfiles => Except String (List (Int × Value))
  | .persistProfile _ => Except String Int
  | .claimUnknown _ _ | .filterStale _ => Except String (List Int)
  | .getPlayerBatch _ => Except String Value
  | .elsewhere _ => Unit
  | _ => Except String Unit

abbrev EnrichProgram := Program EnrichOp EnrichOp.Reply

structure Outside where
  fate : Fate := .committed
  participations : List PresenceRow := []
  audited : List (Int × Value) := []
  locked : List Int := []
  answer : Except String Value := .error ""

/-- The reply and the tables that a statement or a transaction leaves behind. -/
def settle {α : Type} (outside : Outside) (before : Store) (value : α) (after : Store) : Except String α × Store :=
  match outside.fate with
  | .committed => (.ok value, after)
  | .rolledBack error => (.error error, before)
  | .unacknowledged error => (.error error, after)

def serve : Service Store EnrichOp EnrichOp.Reply Outside
  | store, .reconcilePresence, outside =>
      some (settle outside store () { store with world := store.world.reconcile outside.participations })
  | store, .auditedProfiles, outside =>
      some (settle outside store (outside.audited.filter fun found =>
        store.refresh.any fun row => row.playerId == found.1 && retryable store.world row) store)
  | store, .persistProfile raw, outside =>
      some (match profileRow store.world.now raw with
        | none => (.error "Hi-Rez returned no usable player profile", store)
        | some row => settle outside store row.id { store with world := store.world.upsertPlayer row })
  | store, .replaySucceeded playerId, outside =>
      some (settle outside store () (store.updateRows
        (fun row => row.playerId == playerId && (row.status == .failed || row.status == .unavailable))
        (replayedRow store.world.now)))
  | store, .claimUnknown limit leaseSeconds, outside =>
      let seeded := store.seed
      let claimed := seeded.claimable outside.locked limit
      some (settle outside store claimed
        (seeded.updateRows (fun row => claimed.contains row.playerId) (claimedRow store.world.now leaseSeconds)))
  | store, .relayClient, outside => some (settle outside store () store)
  | store, .filterStale playerIds, outside =>
      some (settle outside store (playerIds.filter fun playerId => !stale store.world playerId) store)
  | store, .markSkippedRecent playerIds, outside =>
      some (settle outside store () (store.updateRows (fun row => playerIds.contains row.playerId)
        (skippedRow store.world.now)))
  | store, .getPlayerBatch _, outside => some (outside.answer, store)
  | store, .recordRaw _ _ _, outside => some (settle outside store () store)
  | store, .markFailed playerIds message, outside =>
      some (settle outside store () (store.updateRows (fun row => playerIds.contains row.playerId)
        (failedRow store.world.now message)))
  | store, .releaseUnprocessed playerIds, outside =>
      some (settle outside store () (store.updateRows (fun row => playerIds.contains row.playerId)
        (releasedRow store.world.now)))
  | store, .succeed playerId, outside =>
      some (settle outside store () (store.updateRows (fun row => row.playerId == playerId)
        (succeededRow store.world.now)))
  | store, .finishUnavailable playerId reason, outside =>
      some (settle outside store () (store.updateRows (fun row => row.playerId == playerId)
        (unavailableRow store.world.now reason)))
  | store, .cleanupQueuePresence, outside => some (settle outside store () store)
  | store, .cleanupRefresh, outside =>
      some (settle outside store () { store with refresh := store.refresh.filter fun row => !expiredRow store.world row })
  | store, .elsewhere world, _ => if store.world.now ≤ world.now then some ((), { store with world }) else none

/-! ### Profiles -/

/-- What `str::replace` removes from a text besides NUL characters: the six characters of an escaped one. -/
def nulEscape : List Char := "\\u0000".toList

def dropEscapes : Nat → List Char → List Char
  | _, [] => []
  | skip + 1, _ :: rest => dropEscapes skip rest
  | 0, c :: rest => if nulEscape.isPrefixOf (c :: rest) then dropEscapes 5 rest else c :: dropEscapes 0 rest

def valueText (value : Value) (keys : List String) : Option String :=
  keys.findSome? fun key => (((value.get key).bind Value.asStr).map Text.trim).bind fun text =>
    if text = "" then none
    else some (String.ofList (dropEscapes 0 (text.toList.filter (· != Char.ofNat 0))))

def profileIdentityIds (value : Value) : List Int :=
  (["player_id", "Id", "id", "ActivePlayerId", "active_player_id"].filterMap fun key =>
    valueI64 value [key]).filter (0 < ·)

def payloadRows : Value → List Value
  | .array rows => rows
  | _ => []

/-! ### Programs -/

structure ProfileEnrichmentResult where
  calls : Nat := 0
  claimed : Nat := 0
  refreshed : Nat := 0
  unavailable : Nat := 0
  skippedRecent : Nat := 0
  failed : Nat := 0
  deriving DecidableEq, Repr

def claimUnknownBatches (maxCalls leaseSeconds : Nat) : EnrichProgram (Except String (List (List Int))) := do
  if maxCalls = 0 then return .ok []
  let limit := min (maxCalls * activityProfileBatchSize) (2 ^ 63 - 1)
  match ← perform (EnrichOp.claimUnknown limit (min leaseSeconds (2 ^ 31 - 1))) with
  | .error error => return .error error
  | .ok claimed => return .ok (claimed.toChunks activityProfileBatchSize)

def replayRows : Nat → List (Int × Value) → EnrichProgram (Except String Nat)
  | completed, [] => return .ok completed
  | completed, (playerId, profile) :: rest => do
      match ← perform (EnrichOp.persistProfile profile) with
      | .error _ => replayRows completed rest
      | .ok _ =>
          match ← perform (EnrichOp.replaySucceeded playerId) with
          | .error error => return .error error
          | .ok _ => replayRows (completed + 1) rest

def replayAuditedProfiles : EnrichProgram (Except String Nat) := do
  match ← perform EnrichOp.auditedProfiles with
  | .error error => return .error error
  | .ok rows => replayRows 0 rows

/-- The batch is taken apart into the ids that are still stale and the recent ones. -/
def filterStillStale (playerIds : List Int) : EnrichProgram (Except String (List Int × List Int)) := do
  if playerIds.isEmpty then return .ok ([], [])
  match ← perform (EnrichOp.filterStale playerIds) with
  | .error error => return .error error
  | .ok recent => return .ok (playerIds.filter fun playerId => !recent.contains playerId, recent)

def releaseAll : List (List Int) → EnrichProgram (Except String Unit)
  | [] => return .ok ()
  | batch :: rest => do
      if batch.isEmpty then releaseAll rest
      else
        match ← perform (EnrichOp.releaseUnprocessed batch) with
        | .error error => return .error error
        | .ok _ => releaseAll rest

/-- Where the batches end early: these ids have failed, and the batches after them are released. -/
def abandon (result : ProfileEnrichmentResult) (ids : List Int) (message : String) (rest : List (List Int)) :
    EnrichProgram (Except String ProfileEnrichmentResult) := do
  match ← perform (EnrichOp.markFailed ids message) with
  | .error error => return .error error
  | .ok _ =>
      match ← releaseAll rest with
      | .error error => return .error error
      | .ok _ => return .ok { result with failed := result.failed + ids.length }

/-- The rows that were stored, and the ids of those that could not be. -/
def persistRows : List Value → List Value → List Int → EnrichProgram (List Value × List Int)
  | [], rows, failures => return (rows, failures)
  | profile :: rest, rows, failures => do
      if ((valueText profile ["ret_msg"]).getD "") ≠ "" then persistRows rest rows failures
      else
        match ← perform (EnrichOp.persistProfile profile) with
        | .ok _ => persistRows rest (rows ++ [profile]) failures
        | .error _ => persistRows rest rows (failures ++ profileIdentityIds profile)

def finishClaims (ids : List Int) (rows : List Value) (failures : List Int) :
    ProfileEnrichmentResult → List Int → EnrichProgram (Except String ProfileEnrichmentResult)
  | result, [] => return .ok result
  | result, playerId :: rest => do
      if !ids.contains playerId then finishClaims ids rows failures result rest
      else if failures.contains playerId then
        match ← perform (EnrichOp.markFailed [playerId] "A locally audited profile could not be persisted.") with
        | .error error => return .error error
        | .ok _ => finishClaims ids rows failures { result with failed := result.failed + 1 } rest
      else if !(rows.any fun profile => (profileIdentityIds profile).contains playerId) then
        match ← perform (EnrichOp.finishUnavailable playerId
            "Hi-Rez getplayerbatch returned no usable profile for this player ID.") with
        | .error error => return .error error
        | .ok _ => finishClaims ids rows failures { result with unavailable := result.unavailable + 1 } rest
      else
        match ← perform (EnrichOp.succeed playerId) with
        | .error error => return .error error
        | .ok _ => finishClaims ids rows failures { result with refreshed := result.refreshed + 1 } rest

def enrichBatches (reason : String) :
    ProfileEnrichmentResult → List (List Int) → EnrichProgram (Except String ProfileEnrichmentResult)
  | result, [] => return .ok result
  | result, batch :: rest => do
      let result := { result with claimed := result.claimed + batch.length }
      match ← filterStillStale batch with
      | .error error => return .error error
      | .ok (ids, recent) =>
      let skipped : Except String Unit ←
        if recent.isEmpty then pure (.ok ()) else perform (EnrichOp.markSkippedRecent recent)
      match skipped with
      | .error error => return .error error
      | .ok _ =>
      let result := { result with skippedRecent := result.skippedRecent + recent.length }
      if ids.isEmpty then enrichBatches reason result rest
      else
        match ← perform (EnrichOp.getPlayerBatch ids) with
        | .error message => abandon result ids message rest
        | .ok payload =>
        let result := { result with calls := result.calls + 1 }
        match ← perform (EnrichOp.recordRaw ids reason payload) with
        | .error message => abandon result ids message rest
        | .ok _ =>
        let (rows, failures) ← persistRows (payloadRows payload) [] []
        match ← finishClaims ids rows failures result batch with
        | .error error => return .error error
        | .ok result => enrichBatches reason result rest

def cleanupOldState : EnrichProgram (Except String Unit) := do
  match ← perform EnrichOp.cleanupQueuePresence with
  | .error error => return .error error
  | .ok _ => perform EnrichOp.cleanupRefresh

def run (maxCalls : Nat) (reason : String) : EnrichProgram (Except String ProfileEnrichmentResult) := do
  match ← perform EnrichOp.reconcilePresence with
  | .error error => return .error error
  | .ok _ =>
  match ← replayAuditedProfiles with
  | .error error => return .error error
  | .ok replayed =>
  match ← claimUnknownBatches maxCalls profileClaimLeaseSeconds with
  | .error error => return .error error
  | .ok batches =>
  match ← perform EnrichOp.relayClient with
  | .error error => return .error error
  | .ok _ =>
  match ← enrichBatches reason { refreshed := replayed } batches with
  | .error error => return .error error
  | .ok result =>
  match ← cleanupOldState with
  | .error error => return .error error
  | .ok _ => return .ok result

inductive EnrichCall where
  | claimUnknownBatches (maxCalls leaseSeconds : Nat)
  | run (maxCalls : Nat) (reason : String)
  | replayAuditedProfiles
  | cleanupOldState
  | elsewhere (world : World)

def enrichCode : EnrichCall → EnrichProgram Unit
  | .claimUnknownBatches maxCalls leaseSeconds => do
      let _ ← claimUnknownBatches maxCalls leaseSeconds
      return ()
  | .run maxCalls reason => do
      let _ ← run maxCalls reason
      return ()
  | .replayAuditedProfiles => do
      let _ ← replayAuditedProfiles
      return ()
  | .cleanupOldState => do
      let _ ← cleanupOldState
      return ()
  | .elsewhere world => perform (EnrichOp.elsewhere world)

abbrev EnrichTurn := Turn Store EnrichOp EnrichOp.Reply Unit
abbrev EnrichRun := Run serve.handler enrichCode

/-! ### What a claim can select -/

/-- A later claim will select the row, now or when its time has come. -/
def awaitsClaim (row : RefreshRow) : Bool :=
  row.status == .pending || (row.status == .failed && row.nextRetryAt.isSome) ||
    (row.status == .fetching && row.leaseUntil.isSome)

/-- Each player that was observed within 24 hours and has no profile, or an old one, has no row, or one that
a claim can select, or one whose last attempt has found the player unavailable. -/
def NoneStranded (store : Store) : Prop :=
  ∀ row ∈ store.refresh, observed store.world row.playerId = true → stale store.world row.playerId = true →
    row.status ≠ .unavailable → awaitsClaim row = true

/-- The player was refreshed, or was found to be. -/
def done (row : RefreshRow) : Bool := row.status == .success || row.status == .skippedRecent

/-- If the player is observed, then its profile is no older than the limit. -/
def upToDate (world : World) (playerId : Int) : Prop := observed world playerId = true → stale world playerId = false

/-- Failed rows have a time for the next try, and rows that are being fetched have a lease. -/
structure Timed (row : RefreshRow) : Prop where
  failed : row.status = .failed → row.nextRetryAt.isSome = true
  fetching : row.status = .fetching → row.leaseUntil.isSome = true

def EnrichOp.changesWorld : EnrichOp → Bool
  | .reconcilePresence | .persistProfile _ | .elsewhere _ => true
  | _ => false

/-- The players whose rows a statement sets to 'success' or 'skipped_recent'. -/
def EnrichOp.finishes : EnrichOp → List Int
  | .replaySucceeded playerId | .succeed playerId => [playerId]
  | .markSkippedRecent playerIds => playerIds
  | _ => []

/-- A player whose row is done stays up to date as time passes, matches are observed and profiles are written,
and a row gets done for an up-to-date player only. -/
structure KeepsUp (turn : EnrichTurn) : Prop where
  elsewhere : turn.op.changesWorld = true →
    ∀ row ∈ turn.before.refresh, done row = true → upToDate turn.after.world row.playerId
  finished : ∀ row ∈ turn.after.refresh, row.playerId ∈ turn.op.finishes → done row = true →
    upToDate turn.before.world row.playerId

/-! ### One statement -/

def AllTimed (store : Store) : Prop := ∀ row ∈ store.refresh, Timed row

theorem fine_iff {row : RefreshRow} (timed : Timed row) (world : World) :
    (observed world row.playerId = true → stale world row.playerId = true → row.status ≠ .unavailable →
      awaitsClaim row = true) ↔ (done row = true → upToDate world row.playerId) := by
  unfold upToDate
  cases status : row.status with
  | pending => simp [awaitsClaim, done, status]
  | failed => simp [awaitsClaim, done, status, timed.failed status]
  | fetching => simp [awaitsClaim, done, status, timed.fetching status]
  | unavailable => simp [done, status]
  | success | skippedRecent => simp [awaitsClaim, done, status]

theorem noneStranded_iff {store : Store} (timed : AllTimed store) :
    NoneStranded store ↔ ∀ row ∈ store.refresh, done row = true → upToDate store.world row.playerId :=
  forall₂_congr fun row member => fine_iff (timed row member) store.world

theorem settle_store {α : Type} (outside : Outside) (before : Store) (value : α) (after : Store) :
    (settle outside before value after).2 = before ∨ (settle outside before value after).2 = after := by
  unfold settle
  cases outside.fate with
  | rolledBack error => exact Or.inl rfl
  | _ => exact Or.inr rfl

section Rows
variable {store : Store} {selects : RefreshRow → Bool} {change : RefreshRow → RefreshRow}

theorem mem_updateRows {row : RefreshRow} (member : row ∈ (store.updateRows selects change).refresh) :
    row ∈ store.refresh ∨ ∃ old ∈ store.refresh, selects old = true ∧ row = change old := by
  obtain ⟨old, known, rfl⟩ := List.mem_map.mp member
  split_ifs with chosen
  · exact Or.inr ⟨old, known, chosen, rfl⟩
  · exact Or.inl known

theorem mem_seed {row : RefreshRow} (member : row ∈ store.seed.refresh) :
    row ∈ store.refresh ∨ row.status = .pending := by
  rcases List.mem_append.mp member with known | seeded
  · exact Or.inl known
  · obtain ⟨presence, -, rfl⟩ := List.mem_map.mp seeded
    exact Or.inr rfl

theorem timed_of_status {row : RefreshRow} (unfailed : row.status ≠ .failed) (unfetched : row.status ≠ .fetching) :
    Timed row :=
  ⟨fun failed => absurd failed unfailed, fun fetching => absurd fetching unfetched⟩

theorem timed_updateRows (timed : AllTimed store) (changed : ∀ row, Timed (change row)) :
    AllTimed (store.updateRows selects change) := by
  intro row member
  rcases mem_updateRows member with known | ⟨old, -, -, rfl⟩
  · exact timed row known
  · exact changed old

end Rows

/-- The rows that a statement writes. -/
def Writes : EnrichOp → RefreshRow → Prop
  | .claimUnknown _ _, row => row.status = .pending ∨ (row.status = .fetching ∧ row.leaseUntil.isSome = true)
  | .markFailed _ _, row => row.status = .failed ∧ row.nextRetryAt.isSome = true
  | .releaseUnprocessed _, row => row.status = .pending
  | .finishUnavailable _ _, row => row.status = .unavailable
  | .replaySucceeded playerId, row | .succeed playerId, row => row.playerId = playerId ∧ row.status = .success
  | .markSkippedRecent playerIds, row => row.playerId ∈ playerIds ∧ row.status = .skippedRecent
  | _, _ => False

theorem timed_of_writes {op : EnrichOp} {row : RefreshRow} (writes : Writes op row) : Timed row := by
  cases op with
  | claimUnknown limit leaseSeconds =>
      rcases writes with pending | ⟨fetching, leased⟩
      · exact timed_of_status (by simp [pending]) (by simp [pending])
      · exact ⟨fun failed => (by simp [fetching] at failed), fun _ => leased⟩
  | markFailed playerIds message => exact ⟨fun _ => writes.2, fun fetching => (by simp [writes.1] at fetching)⟩
  | releaseUnprocessed | finishUnavailable =>
      have status : row.status = _ := writes
      exact timed_of_status (by simp [status]) (by simp [status])
  | replaySucceeded | succeed | markSkippedRecent =>
      exact timed_of_status (by simp [writes.2]) (by simp [writes.2])
  | _ => exact writes.elim

/-- Only the rows of the statement's own players get done. -/
theorem finishes_of_writes {op : EnrichOp} {row : RefreshRow} (writes : Writes op row) (isDone : done row = true) :
    row.playerId ∈ op.finishes := by
  cases op with
  | claimUnknown limit leaseSeconds =>
      rcases writes with pending | ⟨fetching, -⟩
      · simp [done, pending] at isDone
      · simp [done, fetching] at isDone
  | markFailed playerIds message => simp [done, writes.1] at isDone
  | releaseUnprocessed | finishUnavailable =>
      have status : row.status = _ := writes
      simp [done, status] at isDone
  | replaySucceeded playerId | succeed playerId => simp [EnrichOp.finishes, writes.1]
  | markSkippedRecent playerIds => exact writes.1
  | _ => exact writes.elim

section Served
variable {before after : Store} {op : EnrichOp} {reply : op.Reply}

theorem settled_rows {α : Type} {outside : Outside} {value : α} {next : Store} {writes : RefreshRow → Prop}
    (served : (settle outside before value next).2 = after)
    (rows : ∀ row ∈ next.refresh, row ∈ before.refresh ∨ writes row) :
    ∀ row ∈ after.refresh, row ∈ before.refresh ∨ writes row := by
  rcases settle_store outside before value next with same | same
  · rw [← served, same]
    exact fun row member => Or.inl member
  · rw [← served, same]
    exact rows

theorem updated_rows {store : Store} {selects : RefreshRow → Bool} {change : RefreshRow → RefreshRow}
    {writes : RefreshRow → Prop} (changed : ∀ row, selects row = true → writes (change row)) :
    ∀ row ∈ (store.updateRows selects change).refresh, row ∈ store.refresh ∨ writes row := by
  intro row member
  rcases mem_updateRows member with known | ⟨old, -, chosen, rfl⟩
  · exact Or.inl known
  · exact Or.inr (changed old chosen)

theorem serve_rows (answered : serve.handler before op reply after) :
    ∀ row ∈ after.refresh, row ∈ before.refresh ∨ Writes op row := by
  obtain ⟨outside, served⟩ := answered
  have stored := congrArg (Option.map Prod.snd) served
  cases op with
  | claimUnknown limit leaseSeconds =>
      apply settled_rows (Option.some.inj stored)
      intro row member
      rcases mem_updateRows member with known | ⟨old, -, -, rfl⟩
      · exact (mem_seed known).imp_right Or.inl
      · exact Or.inr (Or.inr ⟨rfl, rfl⟩)
  | replaySucceeded playerId =>
      apply settled_rows (Option.some.inj stored)
      apply updated_rows
      intro row chosen
      simp only [Bool.and_eq_true, beq_iff_eq] at chosen
      exact ⟨chosen.1, rfl⟩
  | succeed playerId =>
      apply settled_rows (Option.some.inj stored)
      apply updated_rows
      intro row chosen
      exact ⟨beq_iff_eq.mp chosen, rfl⟩
  | markSkippedRecent playerIds =>
      apply settled_rows (Option.some.inj stored)
      apply updated_rows
      intro row chosen
      exact ⟨List.contains_iff_mem.mp chosen, rfl⟩
  | markFailed playerIds message =>
      apply settled_rows (Option.some.inj stored)
      exact updated_rows fun _ _ => ⟨rfl, rfl⟩
  | releaseUnprocessed | finishUnavailable =>
      apply settled_rows (Option.some.inj stored)
      exact updated_rows fun _ _ => rfl
  | cleanupRefresh =>
      apply settled_rows (Option.some.inj stored)
      exact fun row member => Or.inl (List.mem_of_mem_filter member)
  | persistProfile raw =>
      simp only [serve, Option.some.injEq] at served
      cases accepted : profileRow before.world.now raw with
      | none =>
          rw [accepted] at served
          cases served
          exact fun row member => Or.inl member
      | some row =>
          rw [accepted] at served
          exact settled_rows (congrArg Prod.snd served) fun row member => Or.inl member
  | elsewhere world =>
      simp only [serve] at served
      split_ifs at served
      cases served
      exact fun row member => Or.inl member
  | getPlayerBatch playerIds =>
      cases served
      exact fun row member => Or.inl member
  | _ => exact settled_rows (Option.some.inj stored) fun row member => Or.inl member

theorem serve_world (answered : serve.handler before op reply after) (keeps : op.changesWorld = false) :
    after.world = before.world := by
  obtain ⟨outside, served⟩ := answered
  have stored := congrArg (Option.map Prod.snd) served
  have either : ∀ {α : Type} {value : α} {next : Store}, (settle outside before value next).2 = after →
      next.world = before.world → after.world = before.world := by
    intro α value next settled same
    rcases settle_store outside before value next with kept | moved
    · rw [← settled, kept]
    · rw [← settled, moved, same]
  cases op with
  | reconcilePresence | persistProfile | elsewhere => cases keeps
  | getPlayerBatch playerIds =>
      cases served
      rfl
  | _ => exact either (Option.some.inj stored) rfl

theorem serve_refresh (answered : serve.handler before op reply after) (changes : op.changesWorld = true) :
    after.refresh = before.refresh := by
  obtain ⟨outside, served⟩ := answered
  have either : ∀ {α : Type} {value : α} {world : World},
      (settle outside before value { before with world }).2 = after → after.refresh = before.refresh := by
    intro α value world settled
    rcases settle_store outside before value { before with world } with kept | moved
    · rw [← settled, kept]
    · rw [← settled, moved]
  cases op with
  | reconcilePresence => exact either (congrArg Prod.snd (Option.some.inj served))
  | persistProfile raw =>
      simp only [serve, Option.some.injEq] at served
      cases accepted : profileRow before.world.now raw with
      | none =>
          rw [accepted] at served
          cases served
          rfl
      | some row =>
          rw [accepted] at served
          exact either (congrArg Prod.snd served)
  | elsewhere world =>
      simp only [serve] at served
      split_ifs at served
      cases served
      rfl
  | _ => cases changes

theorem serve_timed (answered : serve.handler before op reply after) (timed : AllTimed before) : AllTimed after := by
  intro row member
  rcases serve_rows answered row member with known | written
  · exact timed row known
  · exact timed_of_writes written

end Served

/-- From a state without stranded players, a statement leads to another exactly when it keeps up. -/
theorem noneStranded_step {turn : EnrichTurn} (timed : AllTimed turn.before)
    (answered : serve.handler turn.before turn.op turn.reply turn.after) (good : NoneStranded turn.before) :
    NoneStranded turn.after ↔ KeepsUp turn := by
  rw [noneStranded_iff (serve_timed answered timed)]
  rw [noneStranded_iff timed] at good
  constructor
  · intro fine
    constructor
    · intro changes row member isDone
      exact fine row (serve_refresh answered changes ▸ member) isDone
    · intro row member finished isDone
      have keeps : turn.op.changesWorld = false := by
        cases op : turn.op <;> first | rfl | simp [op, EnrichOp.finishes] at finished
      rw [← serve_world answered keeps]
      exact fine row member isDone
  · intro keepsUp row member isDone
    cases changes : turn.op.changesWorld with
    | true => exact keepsUp.elsewhere changes row (serve_refresh answered changes ▸ member) isDone
    | false =>
        rw [serve_world answered changes]
        rcases serve_rows answered row member with known | written
        · exact good row known isDone
        · exact keepsUp.finished row member (finishes_of_writes written isDone) isDone

/-! ### Runs -/

/-- In every run of any number of workers, from tables in which nobody is stranded: nobody is stranded in any
state exactly when each statement keeps up. A row that is done is neither seeded nor claimed again, so nothing
but the rest of the system can renew the profile of its player. -/
theorem nobody_stranded_iff {start : Store} {history : List EnrichTurn} {state : State Store EnrichOp EnrichOp.Reply Unit}
    (run : EnrichRun ⟨start, []⟩ history state) (timed : AllTimed start) (initially : NoneStranded start) :
    ((∀ turn ∈ history, NoneStranded turn.before) ∧ NoneStranded state.shared) ↔ ∀ turn ∈ history, KeepsUp turn :=
  run_good_iff NoneStranded AllTimed KeepsUp (fun _ _ _ _ timed answered => serve_timed answered timed) run
    (fun _ _ timed answered good => noneStranded_step timed answered good) timed initially

/-! ### A player who comes back -/

instance (store : Store) : Decidable (NoneStranded store) := by
  unfold NoneStranded
  infer_instance

instance (world : World) (playerId : Int) : Decidable (upToDate world playerId) := by
  unfold upToDate
  infer_instance

instance (turn : EnrichTurn) : Decidable (KeepsUp turn) :=
  decidable_of_iff ((turn.op.changesWorld = true →
      ∀ row ∈ turn.before.refresh, done row = true → upToDate turn.after.world row.playerId) ∧
    ∀ row ∈ turn.after.refresh, row.playerId ∈ turn.op.finishes → done row = true →
      upToDate turn.before.world row.playerId)
    ⟨fun ⟨elsewhere, finished⟩ => ⟨elsewhere, finished⟩, fun keepsUp => ⟨keepsUp.elsewhere, keepsUp.finished⟩⟩

def observedAt (time : Int) : World := ⟨time, [⟨7, time⟩], []⟩

def profileAnswer : Outside :=
  { answer := .ok (.array [.object [("Id", .integer 7), ("ActivePlayerId", .integer 7)]]) }

/-- One worker refreshes a player who was just observed. -/
def refreshSchedule : List (Move EnrichCall Outside) :=
  .enter (.run 1 "activity") :: List.replicate 5 (.turn 0 {}) ++ [.turn 0 profileAnswer] ++
    List.replicate 5 (.turn 0 {})

/-- The player is observed again a day later, when the profile has come of age, and another worker claims. -/
def returnSchedule : List (Move EnrichCall Outside) :=
  refreshSchedule ++ [.enter (.elsewhere ⟨25 * hour, [⟨7, 25 * hour⟩], [⟨7, some 7, some 0⟩]⟩), .turn 1 {},
    .enter (.claimUnknownBatches 1 1800), .turn 2 {}]

theorem returning_player_stranded :
    ∃ history state, EnrichRun ⟨⟨observedAt 0, []⟩, []⟩ history state ∧ ¬ NoneStranded state.shared := by
  have passed : (replay serve enrichCode ⟨⟨observedAt 0, []⟩, []⟩ returnSchedule).any
      (fun outcome => decide (¬ NoneStranded outcome.2.shared)) = true := by decide +kernel
  obtain ⟨history, state, run, stranded⟩ := replay_reaches passed
  exact ⟨history, state, run, of_decide_eq_true stranded⟩

theorem player_refreshed :
    ∃ history state, EnrichRun ⟨⟨observedAt 0, []⟩, []⟩ history state ∧
      (state.shared.refresh.map (·.status) = [.success] ∧ NoneStranded state.shared) := by
  have passed : (replay serve enrichCode ⟨⟨observedAt 0, []⟩, []⟩ refreshSchedule).any
      (fun outcome => decide (outcome.2.shared.refresh.map (·.status) = [.success]) &&
        decide (∀ turn ∈ outcome.1, KeepsUp turn)) = true := by decide +kernel
  obtain ⟨history, state, run, tested⟩ := replay_reaches passed
  obtain ⟨refreshed, keepsUp⟩ := Bool.and_eq_true_iff.mp tested
  exact ⟨history, state, run, of_decide_eq_true refreshed,
    ((nobody_stranded_iff run (by simp [AllTimed]) (by simp [NoneStranded])).mpr (of_decide_eq_true keepsUp)).2⟩

end PaladinsCat.Enrichment
