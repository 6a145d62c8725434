import PaladinsCat.Interleaving
import PaladinsCat.KeyPool

/-!
The methods of `KeyPool` as programs over its lock sections, the two async
mutexes, the repository, the clock and the usage probe. A call is atomic; every
point between two calls is a lock release or an await of the source, where other
tasks may run. The handler answers a section from the pool itself, and takes
from `Outside` what the code does not decide: clock readings, probe answers,
estimates, and whether a repository call succeeds.

The repository is the table `api_keys` (postgres_repository.rs). A write changes
it whole or fails whole; the clamps of its INT columns are left out.
-/

namespace PaladinsCat.KeyPool

open Interleaving Program

inductive Mutex where
  | init
  | revival
  deriving DecidableEq, Repr

inductive PoolOp where
  | selectSticky
  | selectAvailable
  | incrementUsage (devId : String)
  | takePending
  | restorePending (batches : List UsageBatch)
  | addCallsTotal (batches : List UsageBatch)
  | recordSuccess (devId : String)
  | recordFailure (devId : String)
  | beginRevival (now : Int)
  | devIds
  | monitoringCredential (devId : String)
  | storeReport (devId : String) (report : AuthoritativeUsage)
  | revivalEligible (devId : String) (now : Int)
  | storeEstimate (devId : String) (estimated : Nat) (now : Int)
  | pendingByDevId
  | replaceKeys (table : KeyTable) (pending : String → Option Nat)
  | isInitialized
  | setInitialized
  | lock (mutex : Mutex)
  | unlock (mutex : Mutex)
  | unixMillis
  | smokeTest
  | usageProbeAvailable
  | getDataUsed (credential : ApiCredential)
  | ensureSchema
  | loadKeys
  | bootstrapKeys (keys : List BootstrapKey)
  | flushUsage (batches : List UsageBatch)
  | updateStatus (devId : String) (status : KeyStatus) (consecutiveFailures : Nat)
  | saveAuthoritativeUsage (devId : String) (used limit : Nat) (status : KeyStatus)
  | localUsageEstimate (devId : String)
  | recordSyncError (devId error : String)
  | cleanupRollingUsage
  -- a write to `api_keys` by another process
  | foreignWrite (table : KeyTable)

abbrev PoolOp.Reply : PoolOp → Type
  | .selectSticky => StickyReply
  | .selectAvailable => Option ApiKeyStatus
  | .takePending => List UsageBatch
  | .recordSuccess _ | .recordFailure _ => Option (KeyStatus × Nat)
  | .beginRevival _ | .revivalEligible _ _ => Bool
  | .devIds => List String
  | .monitoringCredential _ => Option ApiCredential
  | .storeEstimate _ _ _ => Option Nat
  | .pendingByDevId => String → Option Nat
  | .isInitialized | .smokeTest | .usageProbeAvailable => Bool
  | .unixMillis => Int
  | .getDataUsed _ => Except KeyPoolError (Option AuthoritativeUsage)
  | .loadKeys => Except KeyPoolError KeyTable
  | .localUsageEstimate _ => Except KeyPoolError Nat
  | .ensureSchema | .bootstrapKeys _ | .flushUsage _ | .updateStatus _ _ _
  | .saveAuthoritativeUsage _ _ _ _ | .recordSyncError _ _ | .cleanupRollingUsage =>
      Except KeyPoolError Unit
  | _ => Unit

abbrev PoolProgram := Program PoolOp PoolOp.Reply

/-! ### The methods -/

def flushUsage : PoolProgram (Except KeyPoolError Unit) := do
  let batches ← perform PoolOp.takePending
  if batches.isEmpty then
    return .ok ()
  match ← perform (PoolOp.flushUsage batches) with
  | .error error =>
      perform (PoolOp.restorePending batches)
      return .error error
  | .ok () =>
      perform (PoolOp.addCallsTotal batches)
      return .ok ()

def reloadFromRepository : PoolProgram (Except KeyPoolError Unit) := do
  match ← perform PoolOp.loadKeys with
  | .error error => return .error error
  | .ok table =>
      let pending ← perform PoolOp.pendingByDevId
      perform (PoolOp.replaceKeys table pending)
      return .ok ()

/-- The key file: absent, or the outcome of reading, parsing and encrypting it. -/
abbrev KeyFile := Option (Except KeyPoolError (List BootstrapKey))

def bootstrapKeysFromFile : KeyFile → PoolProgram (Except KeyPoolError Unit)
  | none => return .ok ()
  | some (.error error) => return .error error
  | some (.ok keys) => perform (PoolOp.bootstrapKeys keys)

/-- The body of `initialize` while it holds `init_lock`. -/
def initializeLocked (keyFile : KeyFile) : PoolProgram (Except KeyPoolError Unit) := do
  match ← perform PoolOp.ensureSchema with
  | .error error => return .error error
  | .ok () =>
  if !(← perform PoolOp.smokeTest) then
    return .error (.configuration "Encryption smoke test failed. MEK may be wrong.")
  match ← bootstrapKeysFromFile keyFile with
  | .error error => return .error error
  | .ok () =>
  match ← reloadFromRepository with
  | .error error => return .error error
  | .ok () =>
      perform PoolOp.setInitialized
      return .ok ()

def initializePool (keyFile : KeyFile) : PoolProgram (Except KeyPoolError Unit) := do
  perform (PoolOp.lock .init)
  let result ← initializeLocked keyFile
  perform (PoolOp.unlock .init)
  return result

def reload (keyFile : KeyFile) : PoolProgram (Except KeyPoolError Unit) := do
  match ← flushUsage with
  | .error error => return .error error
  | .ok () => initializePool keyFile

def ensureInitialized : PoolProgram (Except KeyPoolError Unit) := do
  if ← perform PoolOp.isInitialized then
    return .ok ()
  initializePool none

def selectAvailableKey : PoolProgram (Option ApiKeyStatus) := do
  match ← perform PoolOp.selectSticky with
  | .selected key => return some key
  | .demoted devId status failures =>
      let _ ← perform (PoolOp.updateStatus devId status failures)
      perform PoolOp.selectAvailable
  | .passed => perform PoolOp.selectAvailable

def tryEstimateRevival (devId : String) : PoolProgram Unit := do
  let now ← perform PoolOp.unixMillis
  if !(← perform (PoolOp.revivalEligible devId now)) then
    return ()
  match ← perform (PoolOp.localUsageEstimate devId) with
  | .error _ => return ()
  | .ok estimated =>
      match ← perform (PoolOp.storeEstimate devId estimated now) with
      | none => return ()
      | some limit =>
          let _ ← perform (PoolOp.saveAuthoritativeUsage devId estimated limit .healthy)
          return ()

def syncUsageInternal (config : Config) (devId : String) : PoolProgram Unit := do
  match ← perform (PoolOp.monitoringCredential devId) with
  | none => return ()
  | some credential =>
  if !(← perform PoolOp.usageProbeAvailable) then
    let _ ← perform (PoolOp.recordSyncError devId "Hi-Rez usage probe is unavailable")
    return ()
  match ← perform (PoolOp.getDataUsed credential) with
  | .ok (some report) =>
      perform (PoolOp.storeReport devId report)
      let _ ← perform (PoolOp.saveAuthoritativeUsage devId report.used
        (effectiveDailyLimit config report.reportedLimit) (reportedStatus config report))
      return ()
  | .ok none => tryEstimateRevival devId
  | .error error =>
      let _ ← perform (PoolOp.recordSyncError devId error.toString)
      return ()

def syncUsage (config : Config) (devId : String) : PoolProgram Unit := syncUsageInternal config devId

/-- `for dev_id in dev_ids`. -/
def syncEach (config : Config) : List String → PoolProgram Unit
  | [] => return ()
  | devId :: rest => do
      syncUsageInternal config devId
      syncEach config rest

def syncAllUsage (config : Config) : PoolProgram (Except KeyPoolError Unit) := do
  match ← flushUsage with
  | .error error => return .error error
  | .ok () =>
  match ← perform PoolOp.cleanupRollingUsage with
  | .error error => return .error error
  | .ok () =>
      let devIds ← perform PoolOp.devIds
      syncEach config (devIds.filter (· ≠ "test"))
      perform PoolOp.cleanupRollingUsage

/-- The part of `active_key` that runs under `revival_lock`. -/
def reviveAndSelect (config : Config) : PoolProgram (Except KeyPoolError ApiKeyStatus) := do
  match ← selectAvailableKey with
  | some key => return .ok key
  | none =>
  let now ← perform PoolOp.unixMillis
  if !(← perform (PoolOp.beginRevival now)) then
    return .error (.exhausted
      "CRITICAL: All API keys exhausted or at/below reserve threshold. Revival on cooldown.")
  let devIds ← perform PoolOp.devIds
  syncEach config devIds
  match ← selectAvailableKey with
  | some key => return .ok key
  | none => return .error (.exhausted
      "CRITICAL: All API keys exhausted or at/below reserve threshold. No key available after sync attempt.")

def activeKey (config : Config) : PoolProgram (Except KeyPoolError ApiKeyStatus) := do
  match ← ensureInitialized with
  | .error error => return .error error
  | .ok () =>
  match ← selectAvailableKey with
  | some key => return .ok key
  | none =>
      perform (PoolOp.lock .revival)
      let result ← reviveAndSelect config
      perform (PoolOp.unlock .revival)
      return result

def recordSuccessProgram (devId : String) : PoolProgram Unit := do
  match ← perform (PoolOp.recordSuccess devId) with
  | none => return ()
  | some (status, failures) =>
      let _ ← perform (PoolOp.updateStatus devId status failures)
      return ()

def recordFailureProgram (devId : String) (keyFault : Bool) : PoolProgram Unit := do
  if !keyFault then
    return ()
  match ← perform (PoolOp.recordFailure devId) with
  | none => return ()
  | some (status, failures) =>
      let _ ← perform (PoolOp.updateStatus devId status failures)
      return ()

/-! ### Which calls the methods make -/

def PoolOp.selects : PoolOp → Prop
  | .selectSticky | .selectAvailable | .updateStatus _ _ _ => True
  | _ => False

def PoolOp.syncs : PoolOp → Prop
  | .monitoringCredential _ | .usageProbeAvailable | .getDataUsed _ | .storeReport _ _ | .unixMillis
  | .revivalEligible _ _ | .localUsageEstimate _ | .storeEstimate _ _ _
  | .saveAuthoritativeUsage _ _ _ _ | .recordSyncError _ _ => True
  | _ => False

/-- The calls that select, sync, revive and rate keys. They leave the ledger of
increments alone, and load nothing. -/
def PoolOp.tendsKeys : PoolOp → Prop
  | .takePending | .restorePending _ | .addCallsTotal _ | .flushUsage _ | .pendingByDevId
  | .replaceKeys _ _ | .loadKeys | .setInitialized | .bootstrapKeys _ | .foreignWrite _ => False
  | _ => True

theorem tendsKeys_of_selects (op : PoolOp) (selects : op.selects) : op.tendsKeys := by
  cases op <;> trivial

theorem tendsKeys_of_syncs (op : PoolOp) (syncs : op.syncs) : op.tendsKeys := by
  cases op <;> trivial

theorem selectAvailableKey_selects : Uses PoolOp.selects selectAvailableKey := by
  simp only [selectAvailableKey, perform_bind]
  refine ⟨trivial, fun sticky => ?_⟩
  cases sticky with
  | selected key => trivial
  | demoted devId status failures =>
      exact ⟨trivial, fun _ => ⟨trivial, fun _ => trivial⟩⟩
  | passed => exact ⟨trivial, fun _ => trivial⟩

theorem selectAvailableKey_tends : Uses PoolOp.tendsKeys selectAvailableKey :=
  uses_mono tendsKeys_of_selects selectAvailableKey_selects

theorem tryEstimateRevival_syncs (devId : String) :
    Uses PoolOp.syncs (tryEstimateRevival devId) := by
  simp only [tryEstimateRevival, perform_bind]
  refine ⟨trivial, fun now => ⟨trivial, fun eligible => ?_⟩⟩
  cases eligible with
  | false => trivial
  | true =>
      refine ⟨trivial, fun estimate => ?_⟩
      rcases estimate with error | estimated
      · trivial
      refine ⟨trivial, fun stored => ?_⟩
      rcases stored with _ | limit
      · trivial
      · exact ⟨trivial, fun _ => trivial⟩

theorem syncUsageInternal_syncs (config : Config) (devId : String) :
    Uses PoolOp.syncs (syncUsageInternal config devId) := by
  simp only [syncUsageInternal, perform_bind]
  refine ⟨trivial, fun credential => ?_⟩
  rcases credential with _ | credential
  · trivial
  refine ⟨trivial, fun available => ?_⟩
  cases available with
  | false => exact ⟨trivial, fun _ => trivial⟩
  | true =>
      refine ⟨trivial, fun usage => ?_⟩
      rcases usage with error | _ | report
      · exact ⟨trivial, fun _ => trivial⟩
      · exact tryEstimateRevival_syncs devId
      · exact ⟨trivial, fun _ => ⟨trivial, fun _ => trivial⟩⟩

theorem syncEach_syncs (config : Config) (devIds : List String) :
    Uses PoolOp.syncs (syncEach config devIds) := by
  induction devIds with
  | nil => trivial
  | cons devId rest ih => exact uses_bind (syncUsageInternal_syncs config devId) fun _ => ih

theorem syncUsageInternal_tends (config : Config) (devId : String) :
    Uses PoolOp.tendsKeys (syncUsageInternal config devId) :=
  uses_mono tendsKeys_of_syncs (syncUsageInternal_syncs config devId)

theorem syncEach_tends (config : Config) (devIds : List String) :
    Uses PoolOp.tendsKeys (syncEach config devIds) :=
  uses_mono tendsKeys_of_syncs (syncEach_syncs config devIds)

theorem reviveAndSelect_tends (config : Config) : Uses PoolOp.tendsKeys (reviveAndSelect config) := by
  simp only [reviveAndSelect, perform_bind]
  refine uses_bind selectAvailableKey_tends fun selected => ?_
  rcases selected with _ | key
  · refine ⟨trivial, fun now => ⟨trivial, fun allowed => ?_⟩⟩
    cases allowed with
    | false => trivial
    | true =>
        refine ⟨trivial, fun devIds => uses_bind (syncEach_tends config devIds) fun _ =>
          uses_bind selectAvailableKey_tends fun selected => ?_⟩
        rcases selected with _ | key <;> trivial
  · trivial

/-- What `active_key` does once the pool is initialized. -/
def selectOrRevive (config : Config) : PoolProgram (Except KeyPoolError ApiKeyStatus) := do
  match ← selectAvailableKey with
  | some key => return .ok key
  | none =>
      perform (PoolOp.lock .revival)
      let result ← reviveAndSelect config
      perform (PoolOp.unlock .revival)
      return result

theorem activeKey_eq (config : Config) : activeKey config = (do
    match ← ensureInitialized with
    | .error error => return .error error
    | .ok () => selectOrRevive config) := rfl

theorem selectOrRevive_tends (config : Config) : Uses PoolOp.tendsKeys (selectOrRevive config) := by
  simp only [selectOrRevive, perform_bind]
  refine uses_bind selectAvailableKey_tends fun selected => ?_
  rcases selected with _ | key
  · exact ⟨trivial, fun _ => uses_bind (reviveAndSelect_tends config) fun _ => ⟨trivial, fun _ => trivial⟩⟩
  · trivial

theorem recordSuccessProgram_tends (devId : String) :
    Uses PoolOp.tendsKeys (recordSuccessProgram devId) := by
  simp only [recordSuccessProgram, perform_bind]
  refine ⟨trivial, fun update => ?_⟩
  rcases update with _ | ⟨status, failures⟩
  · trivial
  · exact ⟨trivial, fun _ => trivial⟩

theorem recordFailureProgram_tends (devId : String) (keyFault : Bool) :
    Uses PoolOp.tendsKeys (recordFailureProgram devId keyFault) := by
  simp only [recordFailureProgram, perform_bind]
  cases keyFault with
  | false => trivial
  | true =>
      refine ⟨trivial, fun update => ?_⟩
      rcases update with _ | ⟨status, failures⟩
      · trivial
      · exact ⟨trivial, fun _ => trivial⟩

/-! ### The pool as shared state -/

namespace KeyTable

/-- `UPDATE api_keys SET .. WHERE dev_id = ..`. -/
def update (table : KeyTable) (devId : String) (change : EncryptedKeyRow → EncryptedKeyRow)
    (keeps : ∀ row, (change row).devId = row.devId) : KeyTable :=
  ⟨KeyedList.update EncryptedKeyRow.devId devId change table.rows, by
    rw [KeyedList.map_keyOf_update keeps]
    exact table.distinct⟩

/-- The row change of `flush_usage`: both counters grow, and the status turns
limited once the reserve is reached; with no limit stored the comparison is null. -/
def flushedRow (reserve calls : Nat) (row : EncryptedKeyRow) : EncryptedKeyRow :=
  { row with
    total24h := row.total24h + calls
    callsTotal := row.callsTotal + calls
    status := if row.dailyLimit.any (· ≤ reserve + (row.total24h + calls)) then "limited"
      else row.status }

@[simp] theorem flushedRow_devId (reserve calls : Nat) (row : EncryptedKeyRow) :
    (flushedRow reserve calls row).devId = row.devId := rfl

def flush (reserve : Nat) (table : KeyTable) (batches : List UsageBatch) : KeyTable :=
  batches.foldl (fun table batch =>
    table.update batch.devId (flushedRow reserve batch.calls) (flushedRow_devId reserve batch.calls))
    table

def statusText : KeyStatus → String
  | .healthy => "healthy"
  | .limited => "limited"
  | .unhealthy => "unhealthy"

def updateStatus (table : KeyTable) (devId : String) (status : KeyStatus) (failures : Nat) :
    KeyTable :=
  table.update devId (fun row =>
    { row with status := statusText status, consecutiveFailures := failures }) fun _ => rfl

def saveAuthoritativeUsage (table : KeyTable) (devId : String) (used limit : Nat)
    (status : KeyStatus) : KeyTable :=
  table.update devId (fun row =>
    { row with
      total24h := used
      dailyLimit := some limit
      status := statusText status
      consecutiveFailures := if status = .healthy then 0 else row.consecutiveFailures }) fun _ => rfl

/-- `INSERT .. ON CONFLICT (dev_id) DO NOTHING`. -/
def insert (table : KeyTable) (key : BootstrapKey) : KeyTable :=
  if fresh : key.devId ∈ table.rows.map (·.devId) then table
  else ⟨table.rows ++ [⟨key.devId, key.encryptedAuthKey, "healthy", 0, some key.dailyLimit, 0, 0⟩], by
    rw [List.map_append, List.nodup_append]
    refine ⟨table.distinct, by simp, ?_⟩
    simp only [List.map_cons, List.map_nil, List.mem_singleton]
    rintro devId member other rfl rfl
    exact fresh member⟩

def bootstrap (table : KeyTable) (keys : List BootstrapKey) : KeyTable := keys.foldl insert table

end KeyTable

/-- What all callers of one pool share; `committed` are the batches that the
repository has taken. -/
structure Pool where
  inner : KeyPoolInner
  initialized : Bool
  initHeld : Bool
  revivalHeld : Bool
  table : KeyTable
  committed : List UsageBatch

def Pool.held (pool : Pool) : Mutex → Bool
  | .init => pool.initHeld
  | .revival => pool.revivalHeld

def Pool.setHeld (pool : Pool) (value : Bool) : Mutex → Pool
  | .init => { pool with initHeld := value }
  | .revival => { pool with revivalHeld := value }

structure Outside where
  now : Int := 0
  failure : Option KeyPoolError := none
  flag : Bool := true
  usage : Except KeyPoolError (Option AuthoritativeUsage) := .ok none
  estimate : Nat := 0

/-- A repository call with no effect that the pool can see. -/
def Outside.outcome (outside : Outside) : Except KeyPoolError Unit :=
  match outside.failure with
  | some error => .error error
  | none => .ok ()

/-- A repository write: whole, or not at all. -/
def Pool.write (pool : Pool) (outside : Outside) (change : Pool → Pool) :
    Except KeyPoolError Unit × Pool :=
  match outside.failure with
  | some error => (.error error, pool)
  | none => (.ok (), change pool)

/-- A lock section: it changes nothing but `inner`. -/
def Pool.section {Reply : Type} (pool : Pool) (run : KeyPoolInner → Reply × KeyPoolInner) :
    Reply × Pool :=
  ((run pool.inner).1, { pool with inner := (run pool.inner).2 })

def serve (config : Config) : Service Pool PoolOp PoolOp.Reply Outside
  | pool, .selectSticky, _ => some (pool.section (selectSticky config))
  | pool, .selectAvailable, _ => some (pool.section (selectAvailable config))
  | pool, .incrementUsage devId, _ =>
      some (pool.section fun inner => ((), incrementUsage config devId inner))
  | pool, .takePending, _ => some (pool.section takePending)
  | pool, .restorePending batches, _ =>
      some (pool.section fun inner => ((), restorePending batches inner))
  | pool, .addCallsTotal batches, _ =>
      some (pool.section fun inner => ((), addCallsTotal batches inner))
  | pool, .recordSuccess devId, _ => some (pool.section (recordSuccess devId))
  | pool, .recordFailure devId, _ => some (pool.section (recordFailure devId))
  | pool, .beginRevival now, _ => some (pool.section (beginRevival now))
  | pool, .devIds, _ => some (devIds pool.inner, pool)
  | pool, .monitoringCredential devId, _ => some (monitoringCredential devId pool.inner, pool)
  | pool, .storeReport devId report, _ =>
      some (pool.section fun inner => ((), storeReport config devId report inner))
  | pool, .revivalEligible devId now, _ => some (revivalEligible devId now pool.inner, pool)
  | pool, .storeEstimate devId estimated now, _ =>
      some (pool.section (storeEstimate config devId estimated now))
  | pool, .pendingByDevId, _ => some (pendingByDevId pool.inner, pool)
  | pool, .replaceKeys table pending, _ =>
      some (pool.section fun inner => ((), replaceKeys config table pending inner))
  | pool, .isInitialized, _ => some (pool.initialized, pool)
  | pool, .setInitialized, _ => some ((), { pool with initialized := true })
  | pool, .lock mutex, _ => if pool.held mutex then none else some ((), pool.setHeld true mutex)
  | pool, .unlock mutex, _ => some ((), pool.setHeld false mutex)
  | pool, .unixMillis, outside => some (outside.now, pool)
  | pool, .smokeTest, outside => some (outside.flag, pool)
  | pool, .usageProbeAvailable, outside => some (outside.flag, pool)
  | pool, .getDataUsed _, outside => some (outside.usage, pool)
  | pool, .ensureSchema, outside => some (outside.outcome, pool)
  | pool, .loadKeys, outside =>
      some (match outside.failure with
        | some error => .error error
        | none => .ok pool.table, pool)
  | pool, .bootstrapKeys keys, outside => some (pool.write outside fun pool =>
      { pool with table := pool.table.bootstrap keys })
  | pool, .flushUsage batches, outside => some (pool.write outside fun pool =>
      { pool with
        table := pool.table.flush config.reserve batches
        committed := pool.committed ++ batches })
  | pool, .updateStatus devId status failures, outside => some (pool.write outside fun pool =>
      { pool with table := pool.table.updateStatus devId status failures })
  | pool, .saveAuthoritativeUsage devId used limit status, outside =>
      some (pool.write outside fun pool =>
        { pool with table := pool.table.saveAuthoritativeUsage devId used limit status })
  | pool, .localUsageEstimate _, outside =>
      some (match outside.failure with
        | some error => .error error
        | none => .ok outside.estimate, pool)
  | pool, .recordSyncError _ _, outside => some (outside.outcome, pool)
  | pool, .cleanupRollingUsage, outside => some (outside.outcome, pool)
  | pool, .foreignWrite table, _ => some ((), { pool with table })

/-! ### What a turn does to the pool -/

/-- The keys after one call. Calls that are not lock sections leave them alone. -/
def innerAfter (config : Config) : PoolOp → KeyPoolInner → KeyPoolInner
  | .selectSticky, inner => (selectSticky config inner).2
  | .selectAvailable, inner => (selectAvailable config inner).2
  | .incrementUsage devId, inner => incrementUsage config devId inner
  | .takePending, inner => (takePending inner).2
  | .restorePending batches, inner => restorePending batches inner
  | .addCallsTotal batches, inner => addCallsTotal batches inner
  | .recordSuccess devId, inner => (recordSuccess devId inner).2
  | .recordFailure devId, inner => (recordFailure devId inner).2
  | .beginRevival now, inner => (beginRevival now inner).2
  | .storeReport devId report, inner => storeReport config devId report inner
  | .storeEstimate devId estimated now, inner => (storeEstimate config devId estimated now inner).2
  | .replaceKeys table pending, inner => replaceKeys config table pending inner
  | _, inner => inner

/-- The table after one call: a write that was answered with an error left it alone. -/
def tableAfter (config : Config) (table : KeyTable) : (op : PoolOp) → op.Reply → KeyTable
  | .bootstrapKeys keys, .ok _ => table.bootstrap keys
  | .flushUsage batches, .ok _ => table.flush config.reserve batches
  | .updateStatus devId status failures, .ok _ => table.updateStatus devId status failures
  | .saveAuthoritativeUsage devId used limit status, .ok _ =>
      table.saveAuthoritativeUsage devId used limit status
  | .foreignWrite written, _ => written
  | _, _ => table

def committedAfter (committed : List UsageBatch) : (op : PoolOp) → op.Reply → List UsageBatch
  | .flushUsage batches, .ok _ => committed ++ batches
  | _, _ => committed

def PoolOp.reloads : PoolOp → Bool
  | .replaceKeys _ _ => true
  | _ => false

/-- Everything but the locks that a turn can change. -/
theorem serve_effect {config : Config} {pool after : Pool} {op : PoolOp} {reply : op.Reply}
    (answered : (serve config).handler pool op reply after) :
    after.inner = innerAfter config op pool.inner ∧
      after.table = tableAfter config pool.table op reply ∧
      after.committed = committedAfter pool.committed op reply := by
  obtain ⟨outside, served⟩ := answered
  cases op with
  | lock mutex =>
      simp only [serve] at served
      split at served
      · simp at served
      · cases served
        cases mutex <;> exact ⟨rfl, rfl, rfl⟩
  | unlock mutex =>
      cases served
      cases mutex <;> exact ⟨rfl, rfl, rfl⟩
  | bootstrapKeys | flushUsage | updateStatus | saveAuthoritativeUsage =>
      simp only [serve, Pool.write, Option.some.injEq] at served
      split at served <;> cases served <;> exact ⟨rfl, rfl, rfl⟩
  | _ =>
      simp only [serve, Option.some.injEq] at served
      cases served
      exact ⟨rfl, rfl, rfl⟩

theorem serve_inner {config : Config} {pool after : Pool} {op : PoolOp} {reply : op.Reply}
    (answered : (serve config).handler pool op reply after) :
    after.inner = innerAfter config op pool.inner := (serve_effect answered).1

/-! ### The callers -/

inductive PoolCall where
  | activeKey
  | incrementUsage (devId : String)
  | flushUsage
  | recordSuccess (devId : String)
  | recordFailure (devId : String) (keyFault : Bool)
  | syncUsage (devId : String)
  | syncAllUsage
  | reload (keyFile : KeyFile)
  | foreignWrite (table : KeyTable)

inductive PoolResult where
  | key (result : Except KeyPoolError ApiKeyStatus)
  | outcome (result : Except KeyPoolError Unit)
  | unit

def poolCode (config : Config) : PoolCall → PoolProgram PoolResult
  | .activeKey => do return .key (← activeKey config)
  | .incrementUsage devId => do
      perform (PoolOp.incrementUsage devId)
      return .unit
  | .flushUsage => do return .outcome (← flushUsage)
  | .recordSuccess devId => do
      recordSuccessProgram devId
      return .unit
  | .recordFailure devId keyFault => do
      recordFailureProgram devId keyFault
      return .unit
  | .syncUsage devId => do
      syncUsage config devId
      return .unit
  | .syncAllUsage => do return .outcome (← syncAllUsage config)
  | .reload keyFile => do return .outcome (← reload keyFile)
  | .foreignWrite table => do
      perform (PoolOp.foreignWrite table)
      return .unit

abbrev PoolState := State Pool PoolOp PoolOp.Reply PoolResult
abbrev PoolTurn := Turn Pool PoolOp PoolOp.Reply PoolResult

/-- All interleavings of any callers of one pool. -/
abbrev PoolRun (config : Config) (start : PoolState) (history : List PoolTurn)
    (state : PoolState) : Prop :=
  Run (serve config).handler (poolCode config) start history state

/-- An initialized pool with the given keys, over the given table, before any call. -/
def initialState (keys : List InMemoryKey) (table : KeyTable) : PoolState :=
  ⟨⟨.fresh keys, true, false, false, table, []⟩, []⟩

end PaladinsCat.KeyPool
