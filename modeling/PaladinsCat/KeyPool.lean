import Mathlib
import PaladinsCat.KeyedList
import PaladinsCat.Text

/-!
The relay's API key pool (key_pool.rs): its data and the sections of its code
that run under the write or read lock of `inner`. Each section is one function
from the pool to a reply and the pool it leaves; the code between two sections
is in KeyPoolPrograms. Unsigned integers are naturals with explicit saturation,
and the environment variables that the code reads are fields of `Config`.
-/

namespace PaladinsCat.KeyPool

def u64Max : Nat := 2 ^ 64 - 1
def u32Max : Nat := 2 ^ 32 - 1

/-- `saturating_add` of an unsigned type: adds as much as still fits. -/
def saturatingAdd (maximum left right : Nat) : Nat := left + min right (maximum - left)

def failureThreshold : Nat := 5
def revivalCooldownMs : Int := 30 * 60 * 1000
def estimateRevivalCooldownMs : Int := 5 * 60 * 1000

inductive KeyStatus where
  | healthy
  | limited
  | unhealthy
  deriving DecidableEq, Repr

structure ApiCredential where
  devId : String
  authKey : String
  deriving DecidableEq, Repr

/-- A row of `api_keys` as `load_keys` returns it. -/
structure EncryptedKeyRow where
  devId : String
  encryptedAuthKey : String
  status : String
  total24h : Nat
  dailyLimit : Option Nat
  callsTotal : Nat
  consecutiveFailures : Nat
  deriving DecidableEq, Repr

structure BootstrapKey where
  devId : String
  encryptedAuthKey : String
  dailyLimit : Nat
  deriving DecidableEq, Repr

structure UsageBatch where
  devId : String
  calls : Nat
  deriving DecidableEq, Repr

structure AuthoritativeUsage where
  used : Nat
  reportedLimit : Option Nat
  deriving DecidableEq, Repr

structure ApiKeyStatus where
  devId : String
  authKey : String
  status : KeyStatus
  dailyLimit : Nat
  used24h : Nat
  remaining : Nat
  reserveThreshold : Nat
  callsTotal : Nat
  consecutiveFailures : Nat
  lastUsed : String
  deriving DecidableEq, Repr

inductive KeyPoolError where
  | repository (message : String)
  | crypto (message : String)
  | configuration (message : String)
  | exhausted (message : String)
  | probe (message : String)
  deriving DecidableEq, Repr

def KeyPoolError.toString : KeyPoolError → String
  | .repository message | .crypto message | .configuration message
  | .exhausted message | .probe message => message

structure InMemoryKey where
  devId : String
  authKey : String
  status : KeyStatus
  dailyLimit : Nat
  usedToday : Nat
  pendingIncrements : Nat
  consecutiveFailures : Nat
  callsTotal : Nat
  isBackup : Bool
  deriving DecidableEq, Repr

structure KeyPoolInner where
  keys : List InMemoryKey
  activeDevId : Option String
  lastRevivalAttemptMs : Int
  lastEstimateRevivalMs : String → Option Int

/-- A pool as `KeyPoolInner::default` and the first load leave it: no active key,
no revival yet. -/
def KeyPoolInner.fresh (keys : List InMemoryKey) : KeyPoolInner :=
  ⟨keys, none, 0, fun _ => none⟩

structure Config where
  reserve : Nat
  -- `HIREZ_DEFAULT_DAILY_LIMIT`
  defaultDailyLimit : Option String
  -- `HIREZ_BACKUP_DEV_IDS`
  backupDevIds : Option String
  -- `KeyCrypto::decrypt`; `none` is its error
  decrypt : String → Option String

def configuredDailyLimit (config : Config) : Nat :=
  ((config.defaultDailyLimit.bind (Text.parseUnsigned u64Max)).filter (0 < ·)).getD 7500

def effectiveDailyLimit (config : Config) (reportedLimit : Option Nat) : Nat :=
  (reportedLimit.filter (0 < ·)).getD (configuredDailyLimit config)

def backupListContains (list devId : String) : Bool :=
  (Text.split ',' list).any fun candidate => Text.trim candidate == devId

def isBackupDevId (config : Config) (devId : String) : Bool :=
  (config.backupDevIds.map (backupListContains · devId)).getD false

/-- `limit.saturating_sub(used) > reserve`. -/
def hasUsableBudget (used limit reserve : Nat) : Bool := decide (reserve < limit - used)

def normalizeStatus (status : String) : KeyStatus :=
  if status = "limited" then .limited else if status = "unhealthy" then .unhealthy else .healthy

def formatKey (config : Config) (key : InMemoryKey) : ApiKeyStatus :=
  { devId := key.devId
    authKey := key.authKey
    status := key.status
    dailyLimit := key.dailyLimit
    used24h := key.usedToday
    remaining := key.dailyLimit - key.usedToday
    reserveThreshold := config.reserve
    callsTotal := key.callsTotal
    consecutiveFailures := key.consecutiveFailures
    lastUsed := "" }

def InMemoryKey.hasBudget (config : Config) (key : InMemoryKey) : Bool :=
  hasUsableBudget key.usedToday key.dailyLimit config.reserve

/-- The closure `usable` of `select_available_key`. -/
def InMemoryKey.usable (config : Config) (key : InMemoryKey) : Bool :=
  decide (key.status = .healthy) && key.hasBudget config

namespace KeyPoolInner

/-- `keys.iter().find(|key| key.dev_id == dev_id)`. -/
def find (inner : KeyPoolInner) (devId : String) : Option InMemoryKey :=
  KeyedList.lookup InMemoryKey.devId devId inner.keys

/-- Writes through `keys.iter_mut().find(|key| key.dev_id == dev_id)`. -/
def modify (inner : KeyPoolInner) (devId : String) (change : InMemoryKey → InMemoryKey) :
    KeyPoolInner :=
  { inner with keys := KeyedList.update InMemoryKey.devId devId change inner.keys }

/-- `if clear_active && inner.active_dev_id.as_deref() == Some(dev_id)`. -/
def clearActive (inner : KeyPoolInner) (devId : String) (clear : Bool) : KeyPoolInner :=
  if clear && decide (inner.activeDevId = some devId) then { inner with activeDevId := none }
  else inner

section Spec
variable (inner : KeyPoolInner) {devId other : String} {change : InMemoryKey → InMemoryKey} {clear : Bool}

@[simp] theorem clearActive_keys : (inner.clearActive devId clear).keys = inner.keys := by
  unfold clearActive
  split <;> rfl

@[simp] theorem clearActive_find : (inner.clearActive devId clear).find other = inner.find other := by
  simp [find]

theorem find_modify_self (keeps : ∀ key, (change key).devId = key.devId) :
    (inner.modify devId change).find devId = (inner.find devId).map change :=
  KeyedList.lookup_update_self keeps devId inner.keys

theorem find_modify_other (keeps : ∀ key, (change key).devId = key.devId) (different : other ≠ devId) :
    (inner.modify devId change).find other = inner.find other :=
  KeyedList.lookup_update_other keeps different inner.keys

theorem find_modify (keeps : ∀ key, (change key).devId = key.devId) (other : String) :
    (inner.modify devId change).find other =
      (inner.find other).map fun key => if other = devId then change key else key :=
  KeyedList.lookup_update keeps devId other inner.keys

theorem find_mem {key : InMemoryKey} (found : inner.find devId = some key) :
    key ∈ inner.keys ∧ key.devId = devId := KeyedList.lookup_mem found

theorem find_of_mem (distinct : (inner.keys.map (·.devId)).Nodup) {key : InMemoryKey}
    (member : key ∈ inner.keys) : inner.find key.devId = some key :=
  KeyedList.lookup_of_mem distinct member

theorem clearActive_activeDevId {active : String}
    (remains : (inner.clearActive devId clear).activeDevId = some active) :
    inner.activeDevId = some active ∧ (active = devId → clear = false) := by
  unfold clearActive at remains
  split at remains
  · simp at remains
  · rename_i kept
    refine ⟨remains, fun same => ?_⟩
    subst same
    simpa [remains] using kept

end Spec

end KeyPoolInner

/-! ### select_available_key -/

inductive StickyReply where
  -- the active key is healthy and above the reserve
  | selected (key : ApiKeyStatus)
  -- the active key was marked limited; the arguments of `update_status`
  | demoted (devId : String) (status : KeyStatus) (consecutiveFailures : Nat)
  | passed
  deriving DecidableEq, Repr

/-- The first lock section: the sticky active key. -/
def selectSticky (config : Config) (inner : KeyPoolInner) : StickyReply × KeyPoolInner :=
  match inner.activeDevId with
  | none => (.passed, inner)
  | some activeDevId =>
      match inner.find activeDevId with
      | none => (.passed, inner)
      | some active =>
          if active.usable config then (.selected (formatKey config active), inner)
          else if active.status ≠ .limited then
            (.demoted active.devId .limited active.consecutiveFailures,
              inner.modify activeDevId fun key => { key with status := .limited })
          else (.passed, inner)

/-- The second lock section: primaries first, then backups, in list order. -/
def selectAvailable (config : Config) (inner : KeyPoolInner) :
    Option ApiKeyStatus × KeyPoolInner :=
  match (inner.keys.find? fun key => !key.isBackup && key.usable config).or
      (inner.keys.find? fun key => key.isBackup && key.usable config) with
  | some key => (some (formatKey config key), { inner with activeDevId := some key.devId })
  | none => (none, inner)

/-! ### increment_usage -/

def chargedKey (config : Config) (key : InMemoryKey) : InMemoryKey :=
  let usedToday := saturatingAdd u64Max key.usedToday 1
  { key with
    usedToday
    pendingIncrements := saturatingAdd u64Max key.pendingIncrements 1
    status := if hasUsableBudget usedToday key.dailyLimit config.reserve then key.status
      else .limited }

def incrementUsage (config : Config) (devId : String) (inner : KeyPoolInner) : KeyPoolInner :=
  (inner.modify devId (chargedKey config)).clearActive devId
    ((inner.find devId).any fun key => !(chargedKey config key).hasBudget config)

/-! ### flush_usage -/

def takePending (inner : KeyPoolInner) : List UsageBatch × KeyPoolInner :=
  (inner.keys.filterMap fun key =>
      if key.pendingIncrements = 0 then none else some ⟨key.devId, key.pendingIncrements⟩,
    { inner with keys := inner.keys.map fun key => { key with pendingIncrements := 0 } })

def restorePending (batches : List UsageBatch) (inner : KeyPoolInner) : KeyPoolInner :=
  batches.foldl (fun inner batch => inner.modify batch.devId fun key =>
    { key with pendingIncrements := saturatingAdd u64Max key.pendingIncrements batch.calls }) inner

def addCallsTotal (batches : List UsageBatch) (inner : KeyPoolInner) : KeyPoolInner :=
  batches.foldl (fun inner batch => inner.modify batch.devId fun key =>
    { key with callsTotal := saturatingAdd u64Max key.callsTotal batch.calls }) inner

/-! ### record_success, record_failure -/

def succeededKey (key : InMemoryKey) : InMemoryKey :=
  { key with
    consecutiveFailures := 0
    status := if key.status = .unhealthy then .healthy else key.status }

/-- The reply is what `update_status` is to store, if anything. -/
def recordSuccess (devId : String) (inner : KeyPoolInner) :
    Option (KeyStatus × Nat) × KeyPoolInner :=
  ((inner.find devId).bind fun key =>
      if 0 < key.consecutiveFailures ∨ key.status = .unhealthy then
        some ((succeededKey key).status, (succeededKey key).consecutiveFailures)
      else none,
    inner.modify devId succeededKey)

def failedKey (key : InMemoryKey) : InMemoryKey :=
  let failures := saturatingAdd u32Max key.consecutiveFailures 1
  { key with
    consecutiveFailures := failures
    status := if failureThreshold ≤ failures then .unhealthy else key.status }

def recordFailure (devId : String) (inner : KeyPoolInner) :
    Option (KeyStatus × Nat) × KeyPoolInner :=
  ((inner.find devId).map fun key => ((failedKey key).status, (failedKey key).consecutiveFailures),
    (inner.modify devId failedKey).clearActive devId
      ((inner.find devId).any fun key =>
        decide (failureThreshold ≤ (failedKey key).consecutiveFailures)))

/-! ### active_key, sync_usage_internal, try_estimate_revival -/

/-- The cooldown test of `active_key`; it notes the attempt when it allows it. -/
def beginRevival (now : Int) (inner : KeyPoolInner) : Bool × KeyPoolInner :=
  if now - inner.lastRevivalAttemptMs < revivalCooldownMs then (false, inner)
  else (true, { inner with lastRevivalAttemptMs := now })

def devIds (inner : KeyPoolInner) : List String := inner.keys.map (·.devId)

def monitoringCredential (devId : String) (inner : KeyPoolInner) : Option ApiCredential :=
  (inner.find devId).map fun key => ⟨key.devId, key.authKey⟩

def reportedStatus (config : Config) (report : AuthoritativeUsage) : KeyStatus :=
  if hasUsableBudget report.used (effectiveDailyLimit config report.reportedLimit) config.reserve
  then .healthy else .limited

def reportedKey (config : Config) (report : AuthoritativeUsage) (key : InMemoryKey) : InMemoryKey :=
  { key with
    usedToday := report.used
    dailyLimit := effectiveDailyLimit config report.reportedLimit
    status := reportedStatus config report
    consecutiveFailures :=
      if reportedStatus config report = .healthy then 0 else key.consecutiveFailures }

def storeReport (config : Config) (devId : String) (report : AuthoritativeUsage)
    (inner : KeyPoolInner) : KeyPoolInner :=
  (inner.modify devId (reportedKey config report)).clearActive devId
    ((inner.find devId).isSome && decide (reportedStatus config report ≠ .healthy))

def revivalEligible (devId : String) (now : Int) (inner : KeyPoolInner) : Bool :=
  match inner.find devId with
  | none => false
  | some key =>
      (decide (key.status = .limited) || decide (key.status = .unhealthy)) &&
        decide (estimateRevivalCooldownMs ≤ now - (inner.lastEstimateRevivalMs devId).getD 0)

def estimatedKey (config : Config) (estimated : Nat) (key : InMemoryKey) : InMemoryKey :=
  { key with
    status := .healthy
    consecutiveFailures := 0
    usedToday := estimated
    dailyLimit := effectiveDailyLimit config (some key.dailyLimit) }

/-- Revives a key from the local estimate. The reply is the limit to store;
`none` where the section returns early. -/
def storeEstimate (config : Config) (devId : String) (estimated : Nat) (now : Int)
    (inner : KeyPoolInner) : Option Nat × KeyPoolInner :=
  match inner.find devId with
  | none => (none, inner)
  | some key =>
      let limit := effectiveDailyLimit config (some key.dailyLimit)
      if hasUsableBudget estimated limit config.reserve then
        (some limit, { inner.modify devId (estimatedKey config estimated) with
          lastEstimateRevivalMs := Function.update inner.lastEstimateRevivalMs devId (some now) })
      else (none, inner)

/-! ### reload_from_repository -/

/-- The table `api_keys`: the schema declares `dev_id` unique. -/
structure KeyTable where
  rows : List EncryptedKeyRow
  distinct : (rows.map (·.devId)).Nodup

/-- The pending increments by `dev_id`; a later key overwrites an earlier one. -/
def pendingByDevId (inner : KeyPoolInner) : String → Option Nat :=
  inner.keys.foldl (fun pending key =>
    Function.update pending key.devId (some key.pendingIncrements)) fun _ => none

def loadedKey (config : Config) (pending : String → Option Nat) (row : EncryptedKeyRow) :
    Option InMemoryKey :=
  (config.decrypt row.encryptedAuthKey).map fun authKey =>
    { devId := row.devId
      authKey
      status := normalizeStatus row.status
      dailyLimit := effectiveDailyLimit config row.dailyLimit
      usedToday := row.total24h
      pendingIncrements := (pending row.devId).getD 0
      consecutiveFailures := row.consecutiveFailures
      callsTotal := row.callsTotal
      isBackup := isBackupDevId config row.devId }

/-- The new key list: rows that do not decrypt are skipped, the rest sorted by `dev_id`. -/
def loadedKeys (config : Config) (table : KeyTable) (pending : String → Option Nat) :
    List InMemoryKey :=
  (table.rows.filterMap (loadedKey config pending)).insertionSort fun left right =>
    left.devId ≤ right.devId

def replaceKeys (config : Config) (table : KeyTable) (pending : String → Option Nat)
    (inner : KeyPoolInner) : KeyPoolInner :=
  { inner with keys := loadedKeys config table pending, activeDevId := none }

end PaladinsCat.KeyPool
