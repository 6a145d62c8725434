import PaladinsCat.BackendStore
import PaladinsCat.Interleaving
import PaladinsCat.Text

/-!
The remote lookups of the universal search: `run_remote_lookup` of routes/search.rs with its cache,
`search_remote_lookup_cache`, and with `vendor_guard`, which counts a call against a limit of the
client, a global one and one of the looked-up record. The limits are counters in Redis that other
handlers count on, too. JSON values are held as texts. The lower case of a name and the hexadecimal
SHA-256 digest are parameters.
-/

namespace PaladinsCat.RemoteLookup

open Interleaving Program
open Backend (Fate)

abbrev Json := String

/-! ### The cache and the counters -/

structure CacheRow where
  query : String
  target : String
  status : String
  result : List Json
  errorMessage : Option String
  fetchedAt : Nat
  expiresAt : Nat
  deriving DecidableEq

structure Counter where
  count : Nat
  expiresAt : Nat
  deriving DecidableEq

/-- The table by its key, and the counters by theirs; times are in milliseconds. -/
structure LookupStore where
  clock : Nat := 0
  cache : String → Option CacheRow := fun _ => none
  counters : String → Option Counter := fun _ => none

structure RateLimit where
  backendAvailable : Bool
  allowed : Bool
  deriving DecidableEq

namespace LookupStore
variable (store : LookupStore)

/-- `INCR`, and `EXPIRE` for a key that does not expire yet. -/
def count (key : String) (windowMs : Nat) : LookupStore :=
  let fresh : Counter := ⟨1, store.clock + ((windowMs + 999) / 1000 + 1) * 1000⟩
  let counter := match (store.counters key).filter fun counter => decide (store.clock < counter.expiresAt) with
    | some counter => ⟨counter.count + 1, counter.expiresAt⟩
    | none => fresh
  { store with counters := Function.update store.counters key (some counter) }

def counted (key : String) : Nat := ((store.counters key).map Counter.count).getD 0

/-- `SELECT … WHERE cache_key = $1 AND expires_at > now()`. -/
def present (key : String) : Option CacheRow := (store.cache key).filter fun row => decide (store.clock < row.expiresAt)

/-- The `INSERT … ON CONFLICT (cache_key) DO UPDATE` of `write_remote_cache`. -/
def write (key query target status : String) (results : List Json) (error : Option String) : LookupStore :=
  let ttl := if status = "hit" then 86400000 else 21600000
  let row : CacheRow := ⟨query, target, status, results, error, store.clock, store.clock + ttl⟩
  { store with cache := Function.update store.cache key (some row) }

end LookupStore

/-! ### Calls -/

inductive RequestedMatchStatus where
  | ready
  | notFound
  | recoveryFailed
  | processingTimeout
  deriving DecidableEq

structure RequestedMatchResult where
  status : RequestedMatchStatus
  error : Option String := none
  deriving DecidableEq

inductive LookupOp where
  | readCache (key : String)
  | checkRateLimit (key : String) (limit windowMs : Nat)
  | sleep (ms : Nat)
  | searchMatch (matchId : Int)
  | ingest (matchId : Int)
  | resolveRemotePlayerIds (q : String)
  | getPlayerBatchLookup (ids : List Int)
  | auditRawResponse (entityType q : String) (ids : List Int) (raw : Json)
  | upsertRemoteProfiles (raw : Json)
  | playerResultsByIds (ids : List Int) (q : String)
  | writeCache (key query target status : String) (results : List Json) (error : Option String)
  deriving DecidableEq

abbrev LookupOp.Reply : LookupOp → Type
  | .readCache _ => Option CacheRow
  | .checkRateLimit _ _ _ => RateLimit
  | .sleep _ => Unit
  | .searchMatch _ => Except String (List Json)
  | .ingest _ => RequestedMatchResult
  | .resolveRemotePlayerIds _ => Except String (List Int)
  | .getPlayerBatchLookup _ => Except String Json
  | .auditRawResponse _ _ _ _ => Except String Unit
  | .upsertRemoteProfiles _ => Except String (List Int)
  | .playerResultsByIds _ _ => Except String (List Json)
  | .writeCache _ _ _ _ _ _ => Except String Unit

/-- How a statement or a command ends, the time before it, what other handlers have
counted in the meantime, and what the provider and the other tables answer. -/
structure LookupOutside where
  fate : Fate := .committed
  elapsed : Nat := 0
  elsewhere : List (String × Nat) := []
  ingested : RequestedMatchResult := ⟨.ready, none⟩
  ids : Except String (List Int) := .ok []
  raw : Except String Json := .ok ""
  rows : Except String (List Json) := .ok []
  audited : Except String Unit := .ok ()

def LookupStore.later (store : LookupStore) (outside : LookupOutside) : LookupStore :=
  outside.elsewhere.foldl (fun store (key, windowMs) => store.count key windowMs)
    { store with clock := store.clock + outside.elapsed }

/-- A statement that fails gives its error; it may have been carried out. -/
def settle {A : Type} (fate : Fate) (store : LookupStore) (outcome : A × LookupStore) : Except String A × LookupStore :=
  match fate with
  | .committed => (.ok outcome.1, outcome.2)
  | .rolledBack error => (.error error, store)
  | .unacknowledged error => (.error error, outcome.2)

def lookupServe : Service LookupStore LookupOp LookupOp.Reply LookupOutside :=
  fun before op outside =>
    let store := before.later outside
    match op with
    | .readCache key => some ((settle outside.fate store (store.present key, store)).map
        (fun row : Except String (Option CacheRow) => row.toOption.join) id)
    | .checkRateLimit key limit windowMs =>
        let counted := store.count key windowMs
        some ((settle outside.fate store ((), counted)).map
          (fun reply : Except String Unit =>
            ⟨reply.toOption.isSome, reply.toOption.isSome && decide (counted.counted key ≤ limit)⟩) id)
    | .sleep _ => some ((), store)
    | .searchMatch _ => some (outside.rows, store)
    | .ingest _ => some (outside.ingested, store)
    | .resolveRemotePlayerIds _ => some (outside.ids, store)
    | .getPlayerBatchLookup _ => some (outside.raw, store)
    | .auditRawResponse _ _ _ _ => some (outside.audited, store)
    | .upsertRemoteProfiles _ => some (outside.ids, store)
    | .playerResultsByIds _ _ => some (outside.rows, store)
    | .writeCache key query target status results error =>
        some (settle outside.fate store ((), store.write key query target status results error))

/-! ### `str::parse::<i64>` -/

/-- The digits after the sign; the first one that does not fit ends the parse. -/
def parseDigits (negative : Bool) : List Char → Int → Except String Int
  | [], value => .ok value
  | c :: rest, value =>
      if !c.isDigit then .error "invalid digit found in string"
      else
        let digit : Int := (c.toNat - 48 : Nat)
        let next := if negative then value * 10 - digit else value * 10 + digit
        if 9223372036854775807 < next then .error "number too large to fit in target type"
        else if next < -9223372036854775808 then .error "number too small to fit in target type"
        else parseDigits negative rest next

def parseI64 (text : String) : Except String Int :=
  match text.toList with
  | [] => .error "cannot parse integer from empty string"
  | ['+'] | ['-'] => .error "invalid digit found in string"
  | '+' :: digits => parseDigits false digits 0
  | '-' :: digits => parseDigits true digits 0
  | digits => parseDigits false digits 0

/-! ### The guard -/

abbrev LookupProgram (α : Type) : Type := Program LookupOp LookupOp.Reply α

def clientKey (identity scope : String) : String := "vendor-fallback:" ++ scope ++ ":" ++ identity ++ ":public"

section Lookup

variable (lower digest : String → String)

def entityKey (scope entity : String) : String :=
  "vendor-fallback:entity:" ++ String.ofList ((digest (scope ++ ":" ++ entity)).toList.take 32)

/-- One limit: what is refused gives this error. -/
def checkLimit (key : String) (limit windowMs : Nat) (error : String) : LookupProgram (Except String Unit) := do
  let reply : RateLimit ← perform (LookupOp.checkRateLimit key limit windowMs)
  if !reply.backendAvailable || !reply.allowed then return .error error else return .ok ()

def vendorGuard (identity scope entity : String) : LookupProgram (Except String Unit) := do
  match ← checkLimit (clientKey identity scope) 8 60000
      "Too many live-data fallbacks. Please wait for the database buffer to refresh." with
  | .error error => return .error error
  | .ok () =>
      match ← checkLimit "vendor-fallback:global" 180 60000
          "The live-data fallback is busy. Cached database data remains available." with
      | .error error => return .error error
      | .ok () =>
          checkLimit (entityKey digest scope entity) 1 120000 <|
            "A live-data attempt for this record already ran recently. " ++
              "Cached database data remains available."

/-! ### The lookup -/

/-- A call of `run_remote_lookup`; `relay` and `ingestor` say what the state has. -/
structure Lookup where
  q : String
  target : String
  bypassCache : Bool := false
  identity : String
  relay : Bool := true
  ingestor : Bool := true

def cacheKey (call : Lookup) : String :=
  "universal:" ++ call.target ++ ":" ++
    (if call.target = "player-name" then lower (Text.trim call.q) else call.q)

structure LookupInfo where
  target : String
  cacheHit : Bool
  status : String
  error : Option String := none
  deriving DecidableEq

abbrev LookupResult := List Json × LookupInfo

/-- Up to fifty reads of the durable row, each after a tenth of a second. -/
def awaitDurableMatch (matchId : Int) (guardError : String) : Nat → LookupProgram (Except String (List Json))
  | 0 => return .error guardError
  | left + 1 => do
      let _ ← perform (LookupOp.sleep 100)
      match ← perform (LookupOp.searchMatch matchId) with
      | .error error => return .error error
      | .ok [] => awaitDurableMatch matchId guardError left
      | .ok rows => return .ok rows

def lookupMatch (call : Lookup) : LookupProgram (Except String (List Json)) :=
  match parseI64 call.q with
  | .error error => return .error error
  | .ok matchId => do
      match ← vendorGuard digest call.identity ("search-" ++ call.target) call.q with
      | .error guardError => awaitDurableMatch matchId guardError 50
      | .ok () =>
          if !call.ingestor then return .error "requested-match ingestion is unavailable"
          else do
            let result : RequestedMatchResult ← perform (LookupOp.ingest matchId)
            match result.status with
            | .ready => perform (LookupOp.searchMatch matchId)
            | .notFound => return .ok []
            | .recoveryFailed | .processingTimeout =>
                return .error (result.error.getD
                  ("requested match " ++ toString matchId ++ " did not reach durable facts"))

def candidateIds (call : Lookup) : LookupProgram (Except String (List Int)) :=
  if call.target = "player-id" then return (parseI64 call.q).map fun id => [id]
  else perform (LookupOp.resolveRemotePlayerIds call.q)

def lookupPlayers (call : Lookup) : LookupProgram (Except String (List Json)) := do
  match ← vendorGuard digest call.identity ("search-" ++ call.target) call.q with
  | .error error => return .error error
  | .ok () =>
      match ← candidateIds call with
      | .error error => return .error error
      | .ok [] => return .ok []
      | .ok ids =>
          match ← perform (LookupOp.getPlayerBatchLookup ids) with
          | .error error => return .error error
          | .ok raw =>
              let entityType := if call.target = "player-id" then "search_player_id" else "search_player_name_profile"
              match ← perform (LookupOp.auditRawResponse entityType call.q ids raw) with
              | .error error => return .error error
              | .ok () =>
                  match ← perform (LookupOp.upsertRemoteProfiles raw) with
                  | .error error => return .error error
                  | .ok [] => return .ok []
                  | .ok ids => perform (LookupOp.playerResultsByIds ids call.q)

def outcome (call : Lookup) : LookupProgram (Except String (List Json)) :=
  if call.target = "match-id" then lookupMatch digest call else lookupPlayers digest call

/-- What `read_remote_cache` makes of a row. -/
def cachedResult (key : String) (row : CacheRow) : LookupResult :=
  (row.result, ⟨((Text.split ':' key)[1]?).getD "", true, row.status, row.errorMessage⟩)

def lookupRemote (call : Lookup) : LookupProgram LookupResult :=
  if !call.relay then return ([], ⟨call.target, false, "error", some "HirezRelay is unavailable"⟩)
  else do
    match ← outcome digest call with
    | .ok results =>
        let status := if results = [] then "miss" else "hit"
        let _ ← perform (LookupOp.writeCache (cacheKey lower call) call.q call.target status results none)
        return (results, ⟨call.target, false, status, none⟩)
    | .error error =>
        let _ ← perform (LookupOp.writeCache (cacheKey lower call) call.q call.target "error" [] (some error))
        return ([], ⟨call.target, false, "error", some error⟩)

def runRemoteLookup (call : Lookup) : LookupProgram LookupResult :=
  if call.bypassCache then lookupRemote lower digest call
  else do
    match ← perform (LookupOp.readCache (cacheKey lower call)) with
    | some row => return cachedResult (cacheKey lower call) row
    | none => lookupRemote lower digest call

abbrev LookupTurn : Type := Turn LookupStore LookupOp LookupOp.Reply LookupResult

abbrev LookupState : Type := State LookupStore LookupOp LookupOp.Reply LookupResult

abbrev LookupRun (start : LookupStore) (history : List LookupTurn) (state : LookupState) : Prop :=
  Run lookupServe.handler (runRemoteLookup lower digest) ⟨start, []⟩ history state

/-! ### What a run says about the guard -/

/-- What a write of the cache is about. -/
structure CacheWrite where
  key : String
  query : String
  target : String

def written : LookupOp → Option CacheWrite
  | .writeCache key query target _ _ _ => some ⟨key, query, target⟩
  | _ => none

/-- A check of a limit, and whether it allowed the call. -/
def checked : (op : LookupOp) → op.Reply → Option (String × Bool)
  | .checkRateLimit key _ _, (reply : RateLimit) => some (key, reply.backendAvailable && reply.allowed)
  | _, _ => none

/-- The checks that a call has made. -/
def checksOf (history : List LookupTurn) (task : Nat) : List (String × Bool) :=
  (history.filter fun turn => turn.task = task).filterMap fun turn => checked turn.op turn.reply

def guardKeys (call : Lookup) : List String :=
  [clientKey call.identity ("search-" ++ call.target), "vendor-fallback:global",
    entityKey digest ("search-" ++ call.target) call.q]

def passedChecks (call : Lookup) : List (String × Bool) := (guardKeys digest call).map fun key => (key, true)

/-- All three limits have allowed the call. -/
def PassedGuard (earlier : List LookupTurn) (task : Nat) (call : Lookup) : Prop :=
  checksOf earlier task = passedChecks digest call

def Refused (earlier : List LookupTurn) (task : Nat) : Prop := ∃ check ∈ checksOf earlier task, check.2 = false

instance (earlier : List LookupTurn) (task : Nat) : Decidable (Refused earlier task) :=
  inferInstanceAs (Decidable (∃ check ∈ _, _))

/-- A match id that is no `i64`: the lookup fails before its guard. -/
def Unparsed (query target : String) : Prop := target = "match-id" ∧ (parseI64 query).toOption = none

instance (query target : String) : Decidable (Unparsed query target) :=
  inferInstanceAs (Decidable (_ ∧ _))

/-- A row changes only by a call for its key that has passed the guard, and a call
that a limit has refused changes none. -/
def RowsAreGuarded (earlier : List LookupTurn) (turn : LookupTurn) : Prop :=
  (∀ key, turn.after.cache key ≠ turn.before.cache key →
    ∃ call, cacheKey lower call = key ∧ PassedGuard digest earlier turn.task call) ∧
  (Refused earlier turn.task → turn.after.cache = turn.before.cache)

/-- When a call that a limit has refused, or whose match id is no `i64`, comes to
write the cache, the write fails. -/
def RefusedWritesFail (earlier : List LookupTurn) (turn : LookupTurn) : Prop :=
  ∀ write ∈ written turn.op, Refused earlier turn.task ∨ Unparsed write.query write.target →
    turn.after.cache write.key = turn.before.cache write.key

instance (earlier : List LookupTurn) (turn : LookupTurn) : Decidable (RefusedWritesFail earlier turn) :=
  inferInstanceAs (Decidable (∀ _ ∈ _, _ → _))

end Lookup

/-! ### One step -/

theorem cache_count (store : LookupStore) (key : String) (windowMs : Nat) :
    (store.count key windowMs).cache = store.cache := rfl

theorem cache_elsewhere (elsewhere : List (String × Nat)) (store : LookupStore) :
    (elsewhere.foldl (fun store (key, windowMs) => store.count key windowMs) store).cache = store.cache := by
  induction elsewhere generalizing store with
  | nil => rfl
  | cons head rest ih => exact ih _

theorem cache_later (store : LookupStore) (outside : LookupOutside) : (store.later outside).cache = store.cache :=
  cache_elsewhere outside.elsewhere _

theorem cache_settle {A : Type} (fate : Fate) (store : LookupStore) (outcome : A × LookupStore)
    (kept : outcome.2.cache = store.cache) : (settle fate store outcome).2.cache = store.cache := by
  cases fate with
  | committed => exact kept
  | rolledBack error => rfl
  | unacknowledged error => exact kept

/-- Only a write of the cache changes a row, and only that of its key. -/
theorem cache_step {before after : LookupStore} {op : LookupOp} {reply : op.Reply}
    (served : lookupServe.handler before op reply after) {key : String} (changed : after.cache key ≠ before.cache key) :
    ∃ write ∈ written op, write.key = key := by
  obtain ⟨outside, served⟩ := served
  have same : after.cache = before.cache → False := fun same => changed (by rw [same])
  cases op with
  | writeCache other query target status results error =>
      by_cases mine : key = other
      · exact ⟨_, rfl, mine.symm⟩
      · have untouched : ((before.later outside).write other query target status results error).cache key =
            before.cache key := by
          simp [LookupStore.write, mine, cache_later]
        cases fate : outside.fate <;> simp only [lookupServe, settle, fate] at served <;> cases served
        · exact absurd untouched changed
        · exact absurd (cache_later before outside) same
        · exact absurd untouched changed
  | readCache other =>
      cases served
      exact absurd ((cache_settle _ _ _ rfl).trans (cache_later before outside)) same
  | checkRateLimit other limit windowMs =>
      cases served
      exact absurd ((cache_settle outside.fate (before.later outside)
        ((), (before.later outside).count other windowMs) rfl).trans (cache_later before outside)) same
  | sleep | searchMatch | ingest | resolveRemotePlayerIds | getPlayerBatchLookup | auditRawResponse
  | upsertRemoteProfiles | playerResultsByIds =>
      cases served
      exact absurd (cache_later before outside) same

/-! ### The stages of a call -/

/-- A call, and the checks that its guard has made. -/
structure LookupPhase where
  call : Lookup
  checks : List (String × Bool) := []

section Stages

variable (lower digest : String → String)

/-- What a call knows when it comes to write the cache. -/
def Settled (phase : LookupPhase) : Prop :=
  phase.checks = passedChecks digest phase.call ∨ (∃ check ∈ phase.checks, check.2 = false) ∨
    Unparsed phase.call.q phase.call.target

instance (phase : LookupPhase) : Decidable (Settled digest phase) :=
  inferInstanceAs (Decidable (_ ∨ (∃ check ∈ _, _) ∨ _))

/-- The calls to the provider and the writes of profiles come after the guard. -/
def lookupNext (phase : LookupPhase) : (op : LookupOp) → op.Reply → Option LookupPhase
  | .checkRateLimit key _ _ => fun (reply : RateLimit) =>
      if ¬ Unparsed phase.call.q phase.call.target ∧
          (phase.checks ++ [(key, true)]).isPrefixOf (passedChecks digest phase.call) then
        some { phase with checks := phase.checks ++ [(key, reply.backendAvailable && reply.allowed)] }
      else none
  | .writeCache key query target _ _ _ => fun _ =>
      if key = cacheKey lower phase.call ∧ query = phase.call.q ∧ target = phase.call.target ∧
          Settled digest phase then some phase
      else none
  | .readCache _ | .sleep _ | .searchMatch _ => fun _ => some phase
  | .ingest _ | .resolveRemotePlayerIds _ | .getPlayerBatchLookup _ | .auditRawResponse _ _ _ _
  | .upsertRemoteProfiles _ | .playerResultsByIds _ _ => fun _ =>
      if phase.checks = passedChecks digest phase.call then some phase else none

variable {lower digest}

theorem isPrefixOf_passed {call : Lookup} {checks : List (String × Bool)} {key : String} {rest : List String}
    (front : passedChecks digest call = checks ++ (key :: rest).map fun key => (key, true)) :
    (checks ++ [(key, true)]).isPrefixOf (passedChecks digest call) = true := by
  rw [List.isPrefixOf_iff_prefix, front]
  exact ⟨rest.map fun key => (key, true), by simp⟩

/-- A limit leaves its check, with what it allowed. -/
theorem checkLimit_follows {call : Lookup} {checks : List (String × Bool)} {key : String} {rest : List String}
    (parsed : ¬ Unparsed call.q call.target)
    (front : passedChecks digest call = checks ++ (key :: rest).map fun key => (key, true))
    (limit windowMs : Nat) (error : String) :
    Follows (lookupNext lower digest)
      (fun after result => after = ⟨call, checks ++ [(key, result.toOption.isSome)]⟩) ⟨call, checks⟩
      (checkLimit key limit windowMs error) := by
  intro reply
  refine ⟨_, if_pos ⟨parsed, isPrefixOf_passed front⟩, ?_⟩
  obtain ⟨available, allowed⟩ := reply
  cases available <;> cases allowed <;> rfl

/-- The guard leaves all its checks passed, or one that refused the call. -/
def GuardEnds (digest : String → String) (call : Lookup) (after : LookupPhase) : Except String Unit → Prop
  | .ok () => after = ⟨call, passedChecks digest call⟩
  | .error _ => after.call = call ∧ ∃ check ∈ after.checks, check.2 = false

theorem vendorGuard_follows {call : Lookup} (parsed : ¬ Unparsed call.q call.target) :
    Follows (lookupNext lower digest) (GuardEnds digest call) ⟨call, []⟩
      (vendorGuard digest call.identity ("search-" ++ call.target) call.q) := by
  refine follows_then (checkLimit_follows parsed rfl _ _ _) ?_
  rintro _ (_ | ⟨⟨⟩⟩) rfl
  · exact ⟨rfl, _, List.mem_singleton_self _, rfl⟩
  refine follows_then (checkLimit_follows parsed rfl _ _ _) ?_
  rintro _ (_ | ⟨⟨⟩⟩) rfl
  · exact ⟨rfl, _, List.mem_append_right _ (List.mem_singleton_self _), rfl⟩
  refine follows_mono ?_ (checkLimit_follows parsed rfl _ _ _)
  rintro _ (_ | ⟨⟨⟩⟩) rfl
  · exact ⟨rfl, _, List.mem_append_right _ (List.mem_singleton_self _), rfl⟩
  · rfl

/-- The call is ready to write the cache. -/
def Ready (digest : String → String) (call : Lookup) (after : LookupPhase) (_ : Except String (List Json)) : Prop :=
  after.call = call ∧ Settled digest after

theorem passed_ready (call : Lookup) (result : Except String (List Json)) :
    Ready digest call ⟨call, passedChecks digest call⟩ result := ⟨rfl, .inl rfl⟩

theorem awaitDurableMatch_follows {call : Lookup} {phase : LookupPhase} (same : phase.call = call)
    (refused : ∃ check ∈ phase.checks, check.2 = false) (matchId : Int) (guardError : String) (left : Nat) :
    Follows (lookupNext lower digest) (Ready digest call) phase (awaitDurableMatch matchId guardError left) := by
  have ready : Settled digest phase := .inr (.inl refused)
  induction left with
  | zero => exact ⟨same, ready⟩
  | succ left ih =>
      refine fun _ => ⟨phase, rfl, fun rows => ⟨phase, rfl, ?_⟩⟩
      cases rows with
      | error error => exact ⟨same, ready⟩
      | ok rows =>
          cases rows with
          | nil => exact ih
          | cons row rows => exact ⟨same, ready⟩

theorem lookupMatch_follows {call : Lookup} (matchTarget : call.target = "match-id") :
    Follows (lookupNext lower digest) (Ready digest call) ⟨call, []⟩ (lookupMatch digest call) := by
  unfold lookupMatch
  cases parse : parseI64 call.q with
  | error error => exact ⟨rfl, .inr (.inr ⟨matchTarget, by rw [parse]; rfl⟩)⟩
  | ok matchId =>
      have parsed : ¬ Unparsed call.q call.target := by
        rintro ⟨_, failed⟩
        rw [parse] at failed
        cases failed
      refine follows_then (vendorGuard_follows parsed) ?_
      intro after result ends
      cases result with
      | error guardError => exact awaitDurableMatch_follows ends.1 ends.2 matchId guardError 50
      | ok done =>
          cases done
          obtain rfl : after = ⟨call, passedChecks digest call⟩ := ends
          cases hasIngestor : call.ingestor with
          | false => exact passed_ready call _
          | true =>
              refine fun result => ⟨_, if_pos rfl, ?_⟩
              obtain ⟨status, error⟩ := result
              cases status with
              | ready => exact fun _ => ⟨_, rfl, passed_ready call _⟩
              | notFound => exact passed_ready call _
              | recoveryFailed => exact passed_ready call _
              | processingTimeout => exact passed_ready call _

theorem candidateIds_follows (call : Lookup) :
    Follows (lookupNext lower digest) (fun after _ => after = ⟨call, passedChecks digest call⟩)
      ⟨call, passedChecks digest call⟩ (candidateIds call) := by
  unfold candidateIds
  split
  · rfl
  · exact fun ids => ⟨_, if_pos rfl, rfl⟩

theorem lookupPlayers_follows {call : Lookup} (other : call.target ≠ "match-id") :
    Follows (lookupNext lower digest) (Ready digest call) ⟨call, []⟩ (lookupPlayers digest call) := by
  have parsed : ¬ Unparsed call.q call.target := fun unparsed => other unparsed.1
  refine follows_then (vendorGuard_follows parsed) ?_
  intro after result ends
  cases result with
  | error error => exact ⟨ends.1, .inr (.inl ends.2)⟩
  | ok done =>
      cases done
      obtain rfl : after = ⟨call, passedChecks digest call⟩ := ends
      refine follows_then (candidateIds_follows call) ?_
      rintro _ ids rfl
      -- from here on every error and every result is written by a call that has passed
      cases ids with
      | error error => exact passed_ready call _
      | ok ids =>
          cases ids with
          | nil => exact passed_ready call _
          | cons id ids =>
              refine fun raw => ⟨_, if_pos rfl, ?_⟩
              cases raw with
              | error error => exact passed_ready call _
              | ok raw =>
                  refine fun audited => ⟨_, if_pos rfl, ?_⟩
                  cases audited with
                  | error error => exact passed_ready call _
                  | ok done =>
                      refine fun ids => ⟨_, if_pos rfl, ?_⟩
                      cases ids with
                      | error error => exact passed_ready call _
                      | ok ids =>
                          cases ids with
                          | nil => exact passed_ready call _
                          | cons id ids => exact fun rows => ⟨_, if_pos rfl, passed_ready call _⟩

theorem outcome_follows (call : Lookup) :
    Follows (lookupNext lower digest) (Ready digest call) ⟨call, []⟩ (outcome digest call) := by
  unfold outcome
  split
  · rename_i matchTarget
    exact lookupMatch_follows matchTarget
  · rename_i other
    exact lookupPlayers_follows other

theorem lookupRemote_follows (call : Lookup) :
    Follows (lookupNext lower digest) (fun _ _ => True) ⟨call, []⟩ (lookupRemote lower digest call) := by
  unfold lookupRemote
  split
  · trivial
  · refine follows_then (outcome_follows call) ?_
    rintro after result ⟨rfl, settled⟩
    cases result with
    | ok results => exact fun _ => ⟨after, if_pos ⟨rfl, rfl, rfl, settled⟩, trivial⟩
    | error error => exact fun _ => ⟨after, if_pos ⟨rfl, rfl, rfl, settled⟩, trivial⟩

theorem runRemoteLookup_follows (call : Lookup) :
    Follows (lookupNext lower digest) (fun _ _ => True) ⟨call, []⟩ (runRemoteLookup lower digest call) := by
  unfold runRemoteLookup
  split
  · exact lookupRemote_follows call
  · refine fun cached => ⟨_, rfl, ?_⟩
    cases cached with
    | some row => trivial
    | none => exact lookupRemote_follows call

/-- What a call that the discipline allows does to the stage. -/
structure LookupMove (lower digest : String → String) (phase : LookupPhase) (op : LookupOp) (reply : op.Reply)
    (next : LookupPhase) : Prop where
  call : next.call = phase.call
  checks : next.checks = phase.checks ++ (checked op reply).toList
  parsed : checked op reply ≠ none → ¬ Unparsed phase.call.q phase.call.target
  writes : ∀ write ∈ written op, write.key = cacheKey lower phase.call ∧ write.query = phase.call.q ∧
    write.target = phase.call.target ∧ Settled digest phase

theorem lookupMove_same {phase next : LookupPhase} {op : LookupOp} {reply : op.Reply} (same : next = phase)
    (unchecked : checked op reply = none)
    (writes : ∀ write ∈ written op, write.key = cacheKey lower phase.call ∧ write.query = phase.call.q ∧
      write.target = phase.call.target ∧ Settled digest phase) :
    LookupMove lower digest phase op reply next := by
  subst same
  exact ⟨rfl, by rw [unchecked]; simp, fun there => absurd unchecked there, writes⟩

theorem lookup_move {phase next : LookupPhase} {op : LookupOp} {reply : op.Reply}
    (moved : lookupNext lower digest phase op reply = some next) : LookupMove lower digest phase op reply next := by
  cases op with
  | checkRateLimit key limit windowMs =>
      simp only [lookupNext, Option.ite_none_right_eq_some] at moved
      obtain ⟨⟨parsed, _⟩, same⟩ := moved
      cases same
      exact ⟨rfl, rfl, fun _ => parsed, nofun⟩
  | writeCache key query target status results error =>
      simp only [lookupNext, Option.ite_none_right_eq_some] at moved
      obtain ⟨settled, same⟩ := moved
      refine lookupMove_same (Option.some.inj same).symm rfl ?_
      rintro _ ⟨⟩
      exact settled
  | readCache | sleep | searchMatch => exact lookupMove_same (Option.some.inj moved).symm rfl nofun
  | ingest | resolveRemotePlayerIds | getPlayerBatchLookup | auditRawResponse | upsertRemoteProfiles
  | playerResultsByIds =>
      simp only [lookupNext, Option.ite_none_right_eq_some] at moved
      exact lookupMove_same (Option.some.inj moved.2).symm rfl nofun

end Stages

/-! ### Whole runs -/

theorem checksOf_append (history : List LookupTurn) (turn : LookupTurn) (task : Nat) :
    checksOf (history ++ [turn]) task =
      checksOf history task ++ if turn.task = task then (checked turn.op turn.reply).toList else [] := by
  by_cases mine : turn.task = task
  · cases check : checked turn.op turn.reply <;> simp [checksOf, mine, check]
  · simp [checksOf, mine]

section Runs

variable (lower digest : String → String)

/-- Each stage has the checks that the history shows, and a call whose match id is
no `i64` makes none. -/
structure LookupHeld (history : List LookupTurn) (phases : List LookupPhase) : Prop where
  checks : ∀ task, checksOf history task = ((phases[task]?).map LookupPhase.checks).getD []
  unparsed : ∀ (task : Nat) (phase : LookupPhase), phases[task]? = some phase →
    Unparsed phase.call.q phase.call.target → phase.checks = []
  exact_ : Throughout (fun earlier turn =>
    RowsAreGuarded lower digest earlier turn ↔ RefusedWritesFail earlier turn) history

variable {lower digest} {history : List LookupTurn} {phases : List LookupPhase}

theorem lookup_joins (held : LookupHeld lower digest history phases) (call : Lookup) :
    LookupHeld lower digest history (phases ++ [⟨call, []⟩]) := by
  refine ⟨fun task => ?_, fun task phase listed unparsed => ?_, held.exact_⟩
  · rw [held.checks task]
    by_cases inside : task < phases.length
    · rw [List.getElem?_append_left inside]
    · rw [List.getElem?_append_right (by omega), List.getElem?_eq_none (by omega)]
      cases task - phases.length <;> rfl
  · rcases getElem?_append_singleton listed with earlier | rfl
    · exact held.unparsed task phase earlier unparsed
    · rfl

/-- The turn writes only rows of its own call, and knows then whether it has passed. -/
theorem rowsAreGuarded_iff (held : LookupHeld lower digest history phases) {turn : LookupTurn}
    {phase next : LookupPhase} (listed : phases[turn.task]? = some phase)
    (moved : LookupMove lower digest phase turn.op turn.reply next)
    (served : lookupServe.handler turn.before turn.op turn.reply turn.after) :
    RowsAreGuarded lower digest history turn ↔ RefusedWritesFail history turn := by
  have checks : checksOf history turn.task = phase.checks := by rw [held.checks, listed]; rfl
  constructor
  · intro ⟨guarded, refused⟩ write writes reason
    rcases reason with refused_ | unparsed
    · rw [refused refused_]
    · obtain ⟨_, query, target, _⟩ := moved.writes write writes
      rw [query, target] at unparsed
      have none_ : checksOf history turn.task = [] := checks.trans (held.unparsed turn.task phase listed unparsed)
      by_contra changed
      obtain ⟨call, _, passed⟩ := guarded write.key changed
      rw [PassedGuard, none_] at passed
      cases passed
  · intro fails
    have changes : ∀ key, turn.after.cache key ≠ turn.before.cache key →
        ¬ Refused history turn.task ∧ key = cacheKey lower phase.call ∧
          PassedGuard digest history turn.task phase.call := by
      intro key changed
      obtain ⟨write, writes, rfl⟩ := cache_step served changed
      obtain ⟨mine, query, target, settled⟩ := moved.writes write writes
      have apart : ¬ (Refused history turn.task ∨ Unparsed write.query write.target) :=
        fun reason => changed (fails write writes reason)
      obtain ⟨notRefused, parsed⟩ := not_or.mp apart
      rw [query, target] at parsed
      refine ⟨notRefused, mine, ?_⟩
      rcases settled with passed | refused | unparsed
      · exact checks.trans passed
      · exact absurd (by rw [Refused, checks]; exact refused) notRefused
      · exact absurd unparsed parsed
    constructor
    · intro key changed
      obtain ⟨_, mine, passed⟩ := changes key changed
      exact ⟨phase.call, mine.symm, passed⟩
    · intro refused
      funext key
      by_contra changed
      exact (changes key changed).1 refused

theorem lookup_moves (held : LookupHeld lower digest history phases) {turn : LookupTurn}
    {phase next : LookupPhase} (listed : phases[turn.task]? = some phase)
    (moved : LookupMove lower digest phase turn.op turn.reply next)
    (served : lookupServe.handler turn.before turn.op turn.reply turn.after) :
    LookupHeld lower digest (history ++ [turn]) (phases.set turn.task next) := by
  have inside : turn.task < phases.length := (List.getElem?_eq_some_iff.mp listed).1
  constructor
  · intro task
    rw [checksOf_append, held.checks]
    by_cases mine : turn.task = task
    · subst mine
      rw [listed, List.getElem?_set_self inside, if_pos rfl]
      exact moved.checks.symm
    · rw [List.getElem?_set_ne mine, if_neg mine, List.append_nil]
  · intro task other set unparsed
    rcases getElem?_set_cases set with ⟨rfl, rfl⟩ | ⟨_, earlier⟩
    · rw [moved.call] at unparsed
      have unchecked : checked turn.op turn.reply = none := by
        by_contra there
        exact moved.parsed there unparsed
      rw [moved.checks, held.unparsed turn.task phase listed unparsed, unchecked]
      rfl
    · exact held.unparsed task other earlier unparsed
  · exact throughout_append.mpr ⟨held.exact_, rowsAreGuarded_iff held listed moved served⟩

/-- The rows of the cache are written by calls that have passed the guard, and refused
calls change none, exactly when the writes of refused and of unparsed calls fail. -/
theorem rows_are_guarded {start : LookupStore} {state : LookupState}
    (run : LookupRun lower digest start history state) :
    Throughout (RowsAreGuarded lower digest) history ↔ Throughout RefusedWritesFail history := by
  have held : ∃ phases, List.Forall₂ (Follows (lookupNext lower digest) fun _ _ => True) phases state.programs ∧
      LookupHeld lower digest history phases := by
    refine run_phases (fun call => (⟨call, []⟩ : LookupPhase)) runRemoteLookup_follows
      (fun history _ phases => LookupHeld lower digest history phases) ?_ rfl ?_ ?_ run
    · exact ⟨fun task => by simp [checksOf], by simp, throughout_nil⟩
    · exact fun history store phases call held => lookup_joins held call
    · exact fun history phases phase next turn held _ listed allowed served =>
        lookup_moves held listed (lookup_move allowed) served
  obtain ⟨phases, _, held⟩ := held
  constructor
  · intro guarded earlier turn later split
    exact (held.exact_ earlier turn later split).mp (guarded earlier turn later split)
  · intro fails earlier turn later split
    exact (held.exact_ earlier turn later split).mpr (fails earlier turn later split)

end Runs

/-! ### Two calls for one name -/

def someName (identity : String) : Lookup where
  q := "Name"
  target := "player-name"
  identity := identity

/-- The first call stores a hit. The second one missed the cache before that, is refused by the limit
of the record, and its write fails. -/
theorem failed_write_keeps_hit :
    ∃ history state, LookupRun Text.toLowercase id {} history state ∧
      (state.shared.cache "universal:player-name:name").map CacheRow.status = some "hit" ∧
      (∃ turn ∈ history, Refused history turn.task) ∧
      Throughout (RowsAreGuarded Text.toLowercase id) history := by
  have passed : (replay lookupServe (runRemoteLookup Text.toLowercase id) ⟨{}, []⟩
      [.enter (someName "one"), .enter (someName "two"), .turn 0 {}, .turn 1 {}, .turn 0 {}, .turn 0 {}, .turn 0 {},
        .turn 0 { ids := .ok [7] }, .turn 0 { raw := .ok "[]" }, .turn 0 {}, .turn 0 { ids := .ok [7] },
        .turn 0 { rows := .ok ["player 7"] }, .turn 0 {}, .turn 1 {}, .turn 1 {}, .turn 1 {},
        .turn 1 { fate := .rolledBack "timeout" }]).any
      (fun reached => decide ((reached.2.shared.cache "universal:player-name:name").map CacheRow.status = some "hit") &&
        decide (∃ turn ∈ reached.1, Refused reached.1 turn.task) &&
        decide (Throughout RefusedWritesFail reached.1)) = true := by
    decide +kernel
  obtain ⟨history, state, run, tested⟩ := replay_reaches passed
  simp only [Bool.and_eq_true, decide_eq_true_eq] at tested
  exact ⟨history, state, run, tested.1.1, tested.1.2, (rows_are_guarded run).mpr tested.2⟩

/-- The same calls with a write that does not fail: the error of the refused call
replaces the hit, for everybody and for six hours. -/
theorem refused_call_replaces_hit :
    ∃ history state, LookupRun Text.toLowercase id {} history state ∧
      ¬ Throughout (RowsAreGuarded Text.toLowercase id) history := by
  have passed : (replay lookupServe (runRemoteLookup Text.toLowercase id) ⟨{}, []⟩
      [.enter (someName "one"), .enter (someName "two"), .turn 0 {}, .turn 1 {}, .turn 0 {}, .turn 0 {}, .turn 0 {},
        .turn 0 { ids := .ok [7] }, .turn 0 { raw := .ok "[]" }, .turn 0 {}, .turn 0 { ids := .ok [7] },
        .turn 0 { rows := .ok ["player 7"] }, .turn 0 {}, .turn 1 {}, .turn 1 {}, .turn 1 {}, .turn 1 {}]).any
      (fun reached => decide (∃ turn ∈ reached.1.getLast?, Refused reached.1.dropLast turn.task ∧
        (turn.before.cache "universal:player-name:name").map CacheRow.status = some "hit" ∧
        (turn.after.cache "universal:player-name:name").map CacheRow.status = some "error")) = true := by
    decide +kernel
  obtain ⟨history, state, run, tested⟩ := replay_reaches passed
  simp only [decide_eq_true_eq] at tested
  obtain ⟨turn, last, refused, hit, error⟩ := tested
  refine ⟨history, state, run, fun guarded => ?_⟩
  have split : history = history.dropLast ++ turn :: [] := (List.dropLast_append_getLast? turn last).symm
  have same := (guarded history.dropLast turn [] split).2 refused
  rw [same, hit] at error
  exact absurd error (by decide)

end PaladinsCat.RemoteLookup
