import PaladinsCat.Upstream

/-!
The refresh of a player's profile (routes/players/provider.rs) over the connection pool
(paladinscat-core, database.rs). The refresh holds a session-level advisory lock on a pooled
connection while it reads the player, asks the relay and stores what it answers. These
statements take a connection of their own and give it back; a session that they open holds
no lock, so that here they leave the pool as it is.
-/

namespace PaladinsCat.ProfileRefresh

open Interleaving Program
open Hirez (Value)

/-! ### Data -/

structure ApiError where
  status : Nat
  code : String
  message : String

def ApiError.database (message : String) : ApiError := ⟨500, "INTERNAL_ERROR", message⟩
def ApiError.internal : ApiError := ⟨500, "INTERNAL_ERROR", "The request could not be completed."⟩
def ApiError.refreshFailed (message : String) : ApiError := ⟨502, "REFRESH_FAILED", message⟩

/-- Times are in nanoseconds; a missing one stands for a text that is no timestamp, too. -/
structure PlayerRow where
  refreshedAt : Option Int

structure ProfileFreshness where
  ttlSeconds : Int
  refreshedAt : Option Int
  expiresAt : Option Int
  remainingSeconds : Int
  expired : Bool

def profileTtlSeconds : Int := 24 * 60 * 60

def isObject : Value → Bool
  | .object _ => true
  | _ => false

def valueRows : Value → List Value
  | .array rows => rows.filter isObject
  | value => if isObject value then [value] else []

def asI64 : Value → Option Int
  | .integer value => if -2 ^ 63 ≤ value ∧ value < 2 ^ 63 then some value else none
  | .string text => Text.parseSigned (-2 ^ 63) (2 ^ 63 - 1) (Text.trim text)
  | _ => none

def valueI64 (row : Value) (fields : List String) : Int :=
  (fields.findSome? fun field => (row.get field).bind asI64).getD 0

def usableProfile (raw : Value) (playerId : Int) : Option Value :=
  ((valueRows raw).find? fun row => valueI64 row ["Id", "ActivePlayerId"] == playerId).or (valueRows raw).head?

def noUsableProfile (playerId : Int) : ApiError :=
  .refreshFailed s!"Hi-Rez returned no usable player profile for {playerId}"

/-! ### Steps -/

/-- A server session behind a pooled connection, with its session-level advisory locks: one entry
for each time that one was taken. -/
structure Session where
  locks : List Int := []
  out : Bool := false
  closed : Bool := false

abbrev Pool := List Session

inductive RelayFailure where
  | notConfigured
  | call (message : String)

def RelayFailure.toApi : RelayFailure → ApiError
  | .notConfigured => .internal
  | .call message => .refreshFailed message

inductive RefreshOp where
  | connection
  | advisoryLock (client : Nat) (key : Int)
  | readPlayer (playerId : Int)
  | nowUtc
  | callRelay (playerId : Int) (consumer : String)
  | recordAudit (playerId : Int) (reason source : String) (raw : Value)
  | upsert (playerId : Int) (profile : Value)
  | advisoryUnlock (client : Nat) (key : Int)
  | putBack (client : Nat)

abbrev RefreshOp.Reply : RefreshOp → Type
  | .connection => Except String Nat
  | .advisoryLock _ _ | .advisoryUnlock _ _ => Except String Unit
  | .readPlayer _ => Except String (Option PlayerRow)
  | .nowUtc => Int
  | .callRelay _ _ => Except RelayFailure Value
  | .recordAudit _ _ _ _ => Except String (Option Value)
  | .upsert _ _ => Except String Unit
  | .putBack _ => Unit

/-- How a statement on a held connection ends. -/
inductive Fate where
  | done
  | failed
  /-- It takes effect and ends in an error all the same, by a timeout. -/
  | failedAfter
  /-- The connection is lost, and with it the session. -/
  | lost

structure Outside where
  fate : Fate := .done
  message : String := ""
  /-- The idle connection that the pool hands out; a new one if there is none. -/
  idle : Option Nat := none
  player : Except String (Option PlayerRow) := .ok none
  now : Int := 0
  relayed : Except RelayFailure Value := .ok .null
  audited : Except String (Option Value) := .ok none
  upserted : Except String Unit := .ok ()

def Session.grant (key : Int) (session : Session) : Session := { session with locks := key :: session.locks }
def Session.release (key : Int) (session : Session) : Session := { session with locks := session.locks.erase key }
def Session.lose (session : Session) : Session := { session with locks := [], closed := true }

def heldElsewhere (pool : Pool) (client : Nat) (key : Int) : Bool :=
  (pool.eraseIdx client).any fun session => session.locks.contains key

/-- A statement on the session of a held connection; it may have to wait before it takes effect. -/
def onSession (pool : Pool) (client : Nat) (waits : Bool) (effect : Session → Session) (outside : Outside) :
    Option (Except String Unit × Pool) :=
  match pool[client]? with
  | none => none
  | some session =>
      if session.closed then some (.error outside.message, pool)
      else
        match outside.fate with
        | .done => if waits then none else some (.ok (), pool.modify client effect)
        | .failed => some (.error outside.message, pool)
        | .failedAfter => if waits then none else some (.error outside.message, pool.modify client effect)
        | .lost => some (.error outside.message, pool.modify client Session.lose)

/-- An idle connection that is not closed, with all that its session holds (`RecyclingMethod::Fast`), or a
new one. -/
def handOut (pool : Pool) : Option Nat → Option (Nat × Pool)
  | none => some (pool.length, pool ++ [{ out := true }])
  | some client =>
      match pool[client]? with
      | some session =>
          if session.out || session.closed then none
          else some (client, pool.modify client fun session => { session with out := true })
      | none => none

def serve : Service Pool RefreshOp RefreshOp.Reply Outside := fun pool op outside =>
  match op with
  | .connection =>
      match outside.fate with
      | .done => (handOut pool outside.idle).map fun (client, after) => (.ok client, after)
      | _ => some (.error outside.message, pool)
  | .advisoryLock client key => onSession pool client (heldElsewhere pool client key) (Session.grant key) outside
  | .advisoryUnlock client key => onSession pool client false (Session.release key) outside
  | .readPlayer _ => some (outside.player, pool)
  | .nowUtc => some (outside.now, pool)
  | .callRelay _ _ => some (outside.relayed, pool)
  | .recordAudit _ _ _ _ => some (outside.audited, pool)
  | .upsert _ _ => some (outside.upserted, pool)
  | .putBack client => some ((), pool.modify client fun session => { session with out := false })

abbrev RefreshProgram := Program RefreshOp RefreshOp.Reply

/-! ### Programs -/

def profileFreshness (row : Option PlayerRow) (ttlSeconds : Int) : RefreshProgram ProfileFreshness :=
  match row.bind (·.refreshedAt) with
  | none => pure { ttlSeconds, refreshedAt := none, expiresAt := none, remainingSeconds := 0, expired := true }
  | some refreshed => do
      let now ← perform .nowUtc
      let expires := refreshed + ttlSeconds * 1000000000
      let remaining := max (Int.tdiv (expires - now) 1000000000) 0
      pure {
        ttlSeconds
        refreshedAt := some refreshed
        expiresAt := some expires
        remainingSeconds := remaining
        expired := remaining == 0 }

/-- The transaction that stores the profile is one step. -/
def upsertProfile (raw : Value) : RefreshProgram (Except ApiError Int) :=
  let playerId := valueI64 raw ["Id", "ActivePlayerId"]
  if playerId ≤ 0 then pure (.error (noUsableProfile playerId))
  else do
    let upserted : Except String Unit ← perform (RefreshOp.upsert playerId raw)
    match upserted with
    | .error message => pure (.error (.database message))
    | .ok _ => pure (.ok playerId)

structure Refresh where
  playerId : Int
  force : Bool
  consumer : String
  reason : String
  source : String

def fetchProfile (asked : Refresh) : RefreshProgram (Except ApiError (Value × Option Value)) := do
  let relayed : Except RelayFailure Value ← perform (RefreshOp.callRelay asked.playerId asked.consumer)
  match relayed with
  | .error failure => pure (.error failure.toApi)
  | .ok raw =>
      let audited : Except String (Option Value) ← perform (RefreshOp.recordAudit asked.playerId asked.reason asked.source raw)
      match audited with
      | .error message => pure (.error (.database message))
      | .ok audit =>
          match usableProfile raw asked.playerId with
          | none => pure (.error (noUsableProfile asked.playerId))
          | some profile =>
              match ← upsertProfile profile with
              | .error error => pure (.error error)
              | .ok _ => pure (.ok (raw, audit))

abbrev Refreshed := Bool × ProfileFreshness × Option Value

/-- What stands between the lock and its release. An error returns from the whole function. -/
def refreshLocked (asked : Refresh) : RefreshProgram (Except ApiError Refreshed) := do
  let current : Except String (Option PlayerRow) ← perform (RefreshOp.readPlayer asked.playerId)
  match current with
  | .error message => pure (.error (.database message))
  | .ok current =>
      let freshness ← profileFreshness current profileTtlSeconds
      if !asked.force && current.isSome && !freshness.expired then pure (.ok (false, freshness, none))
      else
        match ← fetchProfile asked with
        | .error error => pure (.error error)
        | .ok (_, audit) =>
            let refreshed : Except String (Option PlayerRow) ← perform (RefreshOp.readPlayer asked.playerId)
            match refreshed with
            | .error message => pure (.error (.database message))
            | .ok refreshed =>
                let freshness ← profileFreshness refreshed profileTtlSeconds
                pure (.ok (true, freshness, audit))

def lockName (playerId : Int) : String := s!"player-profile-refresh:{playerId}"

/-- On the connection that it has got; `hashtext` is the database's. -/
def refreshOn (hashtext : String → Int) (client : Nat) (asked : Refresh) : RefreshProgram (Except ApiError Refreshed) := do
  let locked : Except String Unit ← perform (RefreshOp.advisoryLock client (hashtext (lockName asked.playerId)))
  match locked with
  | .error message => pure (.error (.database message))
  | .ok _ =>
      match ← refreshLocked asked with
      | .error error => pure (.error error)
      | .ok result =>
          let _ ← perform (.advisoryUnlock client (hashtext (lockName asked.playerId)))
          pure (.ok result)

/-- The connection is dropped, and so goes back to the pool, on every way out. -/
def refreshProfileRecord (hashtext : String → Int) (asked : Refresh) : RefreshProgram (Except ApiError Refreshed) := do
  let connected : Except String Nat ← perform RefreshOp.connection
  match connected with
  | .error message => pure (.error (.database message))
  | .ok client =>
      let result ← refreshOn hashtext client asked
      perform (RefreshOp.putBack client)
      pure result

/-! ### What a connection holds -/

/-- How often the session holds the lock. -/
def held (pool : Pool) (client : Nat) (key : Int) : Nat := ((pool[client]?.map (·.locks)).getD []).count key

theorem held_modify {effect : Session → Session} {pool : Pool} {client other : Nat} {key : Int} :
    held (pool.modify client effect) other key =
      if client = other then ((pool[other]?.map fun session => (effect session).locks).getD []).count key
      else held pool other key := by
  unfold held
  by_cases same : client = other
  · subst same
    simp only [List.getElem?_modify, if_true, Option.map_eq_map, Option.map_map]
    rfl
  · simp [same]

theorem held_modify_kept (effect : Session → Session) (kept : ∀ session, (effect session).locks = session.locks)
    (pool : Pool) (client other : Nat) (key : Int) :
    held (pool.modify client effect) other key = held pool other key := by
  simp only [held_modify, kept]
  split_ifs <;> rfl

theorem held_append (pool : Pool) (client : Nat) (key : Int) :
    held (pool ++ [{ out := true }]) client key = held pool client key := by
  unfold held
  rcases lt_trichotomy client pool.length with inside | rfl | outside
  · rw [List.getElem?_append_left inside]
  · simp
  · rw [List.getElem?_eq_none (by simp; omega), List.getElem?_eq_none (by omega)]

theorem held_handOut {pool after : Pool} {idle : Option Nat} {client : Nat} (got : handOut pool idle = some (client, after))
    (other : Nat) (key : Int) : held after other key = held pool other key := by
  cases idle with
  | none =>
      cases got
      exact held_append pool other key
  | some chosen =>
      simp only [handOut] at got
      cases found : pool[chosen]? with
      | none => simp [found] at got
      | some session =>
          simp only [found] at got
          split_ifs at got
          cases got
          exact held_modify_kept (fun session => { session with out := true }) (fun _ => rfl) pool client other key

theorem held_grant {pool : Pool} {client : Nat} (inside : client < pool.length) (key : Int) (other : Nat) (lock : Int) :
    held (pool.modify client (Session.grant key)) other lock =
      held pool other lock + if client = other ∧ key = lock then 1 else 0 := by
  rw [held_modify]
  by_cases same : client = other
  · subst same
    simp [held, Session.grant, List.getElem?_eq_getElem inside, List.count_cons]
  · simp [same]

theorem held_release (pool : Pool) (client : Nat) (key : Int) (other : Nat) (lock : Int) :
    held (pool.modify client (Session.release key)) other lock =
      held pool other lock - if client = other ∧ key = lock then 1 else 0 := by
  rw [held_modify]
  by_cases same : client = other
  · subst same
    cases found : pool[client]? with
    | none => simp [held, found]
    | some session => simp [held, found, Session.release, List.count_erase]
  · simp [same]

theorem held_lose (pool : Pool) (client : Nat) (other : Nat) (lock : Int) :
    held (pool.modify client Session.lose) other lock = if client = other then 0 else held pool other lock := by
  rw [held_modify]
  split_ifs with same
  · cases pool[other]? <;> simp [Session.lose]
  · rfl

theorem held_lose_le (pool : Pool) (client : Nat) (other : Nat) (lock : Int) :
    held (pool.modify client Session.lose) other lock ≤ held pool other lock := by
  rw [held_lose]
  split_ifs <;> omega

/-! ### Stages of a refresh -/

/-- The steps between the lock and its release. -/
def RefreshOp.inner : RefreshOp → Bool
  | .readPlayer _ | .nowUtc | .callRelay _ _ | .recordAudit _ _ _ _ | .upsert _ _ => true
  | _ => false

/-- The relay's answer has a row to store. -/
def storable (raw : Value) (playerId : Int) : Bool :=
  (usableProfile raw playerId).any fun profile => 0 < valueI64 profile ["Id", "ActivePlayerId"]

/-- The answer that makes the refresh return before it releases the lock. -/
def RefreshOp.fails : (op : RefreshOp) → op.Reply → Bool
  | .readPlayer _ => fun reply : Except String (Option PlayerRow) => !reply.isOk
  | .callRelay playerId _ => fun reply : Except RelayFailure Value => !reply.toOption.any (storable · playerId)
  | .recordAudit _ _ _ _ => fun reply : Except String (Option Value) => !reply.isOk
  | .upsert _ _ => fun reply : Except String Unit => !reply.isOk
  | _ => fun _ => false

inductive RefreshPhase where
  | starting
  | connected (client : Nat)
  | holding (client : Nat) (key : Int)
  /-- On its way out without a release. -/
  | failing (client : Nat) (key : Int)
  | settled (client : Nat)
  | returned
  deriving DecidableEq

def refreshNext : RefreshPhase → (op : RefreshOp) → op.Reply → Option RefreshPhase
  | .starting, .connection => fun reply : Except String Nat =>
      some (reply.toOption.elim .returned .connected)
  | .connected client, .advisoryLock asked key => fun reply : Except String Unit =>
      if asked = client then some (if reply.isOk then .holding client key else .settled client) else none
  | .holding client key, .advisoryUnlock asked lock => fun _ =>
      if asked = client ∧ lock = key then some (.settled client) else none
  | .failing client _, .putBack asked | .settled client, .putBack asked => fun _ =>
      if asked = client then some .returned else none
  | .holding client key, op => fun reply =>
      if op.inner then some (if op.fails reply then .failing client key else .holding client key) else none
  | .failing client key, op => fun _ => if op.inner then some (.failing client key) else none
  | _, _ => fun _ => none

inductive RefreshMove : RefreshPhase → (op : RefreshOp) → op.Reply → RefreshPhase → Prop where
  | refused (message : String) : RefreshMove .starting .connection (.error message) .returned
  | connection (client : Nat) : RefreshMove .starting .connection (.ok client) (.connected client)
  | denied (client : Nat) (key : Int) (message : String) :
      RefreshMove (.connected client) (.advisoryLock client key) (.error message) (.settled client)
  | advisoryLock (client : Nat) (key : Int) (reply : Unit) :
      RefreshMove (.connected client) (.advisoryLock client key) (.ok reply) (.holding client key)
  | inner {op : RefreshOp} (client : Nat) (key : Int) (reply : op.Reply) (within : op.inner = true)
      (fine : op.fails reply = false) : RefreshMove (.holding client key) op reply (.holding client key)
  | fails {op : RefreshOp} (client : Nat) (key : Int) (reply : op.Reply) (within : op.inner = true)
      (failed : op.fails reply = true) : RefreshMove (.holding client key) op reply (.failing client key)
  | advisoryUnlock (client : Nat) (key : Int) (reply : Except String Unit) :
      RefreshMove (.holding client key) (.advisoryUnlock client key) reply (.settled client)
  | failing {op : RefreshOp} (client : Nat) (key : Int) (reply : op.Reply) (within : op.inner = true) :
      RefreshMove (.failing client key) op reply (.failing client key)
  | dropped (client : Nat) (key : Int) : RefreshMove (.failing client key) (.putBack client) () .returned
  | putBack (client : Nat) : RefreshMove (.settled client) (.putBack client) () .returned

theorem refresh_move {phase next : RefreshPhase} {op : RefreshOp} {reply : op.Reply}
    (moved : refreshNext phase op reply = some next) : RefreshMove phase op reply next := by
  cases phase with
  | starting =>
      cases op with
      | connection => cases reply <;> cases moved <;> constructor
      | _ => cases moved
  | connected client =>
      cases op with
      | advisoryLock asked key =>
          simp only [refreshNext] at moved
          by_cases same : asked = client
          · subst same
            rw [if_pos rfl] at moved
            cases reply <;> cases moved <;> constructor
          · rw [if_neg same] at moved
            cases moved
      | _ => cases moved
  | holding client key =>
      cases op with
      | advisoryUnlock asked lock =>
          simp only [refreshNext] at moved
          split_ifs at moved with same
          obtain ⟨rfl, rfl⟩ := same
          cases moved
          exact .advisoryUnlock _ _ reply
      | readPlayer | nowUtc | callRelay | recordAudit | upsert =>
          simp only [refreshNext, RefreshOp.inner, if_true, Option.some.injEq] at moved
          split_ifs at moved with failed
          · subst moved
            exact .fails client key reply rfl failed
          · subst moved
            exact .inner client key reply rfl (Bool.not_eq_true _ ▸ failed)
      | _ => cases moved
  | failing client key =>
      cases op with
      | putBack asked =>
          simp only [refreshNext] at moved
          split_ifs at moved with same
          subst same
          cases moved
          exact .dropped _ _
      | readPlayer | nowUtc | callRelay | recordAudit | upsert =>
          cases moved
          exact .failing client key reply rfl
      | _ => cases moved
  | settled client =>
      cases op with
      | putBack asked =>
          simp only [refreshNext] at moved
          split_ifs at moved with same
          subst same
          cases moved
          exact .putBack _
      | _ => cases moved
  | returned => cases op <;> cases moved

/-! ### The programs keep to the stages -/

section Follows
variable {client : Nat} {key : Int}

/-- Still holding the lock, or on the way out with it. -/
def refreshStage {α : Type} (client : Nat) (key : Int) (phase : RefreshPhase) (result : Except ApiError α) : Prop :=
  phase = if result.isOk then .holding client key else .failing client key

def refreshEnds {α : Type} (phase : RefreshPhase) (_ : α) : Prop := phase = .returned

theorem profileFreshness_follows (row : Option PlayerRow) (ttlSeconds : Int) :
    Follows refreshNext (fun last _ => last = .holding client key) (.holding client key)
      (profileFreshness row ttlSeconds) := by
  unfold profileFreshness
  cases row.bind (·.refreshedAt) with
  | none => rfl
  | some refreshed => exact fun now => ⟨_, rfl, rfl⟩

theorem upsertProfile_follows {profile : Value} (usable : 0 < valueI64 profile ["Id", "ActivePlayerId"]) :
    Follows refreshNext (refreshStage client key) (.holding client key) (upsertProfile profile) := by
  simp only [upsertProfile, if_neg (not_le.mpr usable)]
  intro upserted
  cases upserted with
  | error message => exact ⟨.failing client key, rfl, rfl⟩
  | ok _ => exact ⟨.holding client key, rfl, rfl⟩

theorem fetchProfile_follows (asked : Refresh) :
    Follows refreshNext (refreshStage client key) (.holding client key) (fetchProfile asked) := by
  simp only [fetchProfile, perform_bind]
  intro relayed
  cases relayed with
  | error failure => exact ⟨.failing client key, rfl, rfl⟩
  | ok raw =>
      by_cases fine : storable raw asked.playerId = true
      · obtain ⟨profile, found, usable⟩ := (Option.any_eq_true _ _).mp fine
        apply Exists.intro (.holding client key)
        apply And.intro (by simp [refreshNext, RefreshOp.inner, RefreshOp.fails, Except.toOption, fine])
        intro audited
        cases audited with
        | error message => exact ⟨.failing client key, rfl, rfl⟩
        | ok audit =>
            apply Exists.intro (.holding client key)
            apply And.intro rfl
            simp only [found]
            apply follows_then (upsertProfile_follows (of_decide_eq_true usable))
            rintro after (error | stored) reached
            · exact reached
            · exact reached
      · apply Exists.intro (.failing client key)
        apply And.intro (by simp [refreshNext, RefreshOp.inner, RefreshOp.fails, Except.toOption, fine])
        intro audited
        apply Exists.intro (.failing client key)
        apply And.intro rfl
        cases audited with
        | error message => rfl
        | ok audit =>
            cases found : usableProfile raw asked.playerId with
            | none => rfl
            | some profile =>
                have least : valueI64 profile ["Id", "ActivePlayerId"] ≤ 0 := by
                  simpa [storable, found] using fine
                simp only [upsertProfile, if_pos least]
                rfl

theorem refreshLocked_follows (asked : Refresh) :
    Follows refreshNext (refreshStage client key) (.holding client key) (refreshLocked asked) := by
  intro current
  cases current with
  | error message => exact ⟨.failing client key, rfl, rfl⟩
  | ok current =>
      apply Exists.intro (.holding client key)
      apply And.intro rfl
      apply follows_then (profileFreshness_follows current profileTtlSeconds)
      rintro after freshness rfl
      split_ifs
      · rfl
      · apply follows_then (fetchProfile_follows asked)
        rintro after (error | ⟨raw, audit⟩) rfl
        · rfl
        · intro refreshed
          cases refreshed with
          | error message => exact ⟨.failing client key, rfl, rfl⟩
          | ok refreshed =>
              apply Exists.intro (.holding client key)
              apply And.intro rfl
              apply follows_then (profileFreshness_follows refreshed profileTtlSeconds)
              rintro after freshness rfl
              rfl

theorem refreshOn_follows (hashtext : String → Int) (asked : Refresh) :
    Follows refreshNext (fun last _ => last = .settled client ∨ ∃ key, last = .failing client key)
      (.connected client) (refreshOn hashtext client asked) := by
  intro locked
  cases locked with
  | error message => exact ⟨.settled client, by simp [refreshNext, Except.isOk, Except.toBool], Or.inl rfl⟩
  | ok _ =>
      apply Exists.intro (.holding client (hashtext (lockName asked.playerId)))
      apply And.intro (by simp [refreshNext, Except.isOk, Except.toBool])
      apply follows_then (refreshLocked_follows asked)
      rintro after (error | result) rfl
      · exact Or.inr ⟨_, rfl⟩
      · exact fun _ => ⟨.settled client, by simp [refreshNext, Except.isOk, Except.toBool], Or.inl rfl⟩

theorem refreshProfileRecord_follows (hashtext : String → Int) (asked : Refresh) :
    Follows refreshNext refreshEnds .starting (refreshProfileRecord hashtext asked) := by
  intro connected
  cases connected with
  | error message => exact ⟨.returned, rfl, rfl⟩
  | ok client =>
      apply Exists.intro (.connected client)
      apply And.intro rfl
      apply follows_then (refreshOn_follows hashtext asked)
      rintro after result (rfl | ⟨key, rfl⟩)
      · exact fun _ => ⟨.returned, by simp [refreshNext], rfl⟩
      · exact fun _ => ⟨.returned, by simp [refreshNext], rfl⟩

end Follows

/-! ### Locks left behind -/

/-- The refresh goes on to return without a release that takes effect: a step between lock and release fails,
or the lock was granted in spite of an error, or an error kept the release from its effect. -/
def leavesLocked (before : Pool) : (op : RefreshOp) → op.Reply → Pool → Bool
  | .advisoryLock client key, reply, after =>
      !(reply : Except String Unit).isOk && decide (held before client key < held after client key)
  | .advisoryUnlock client key, reply, after =>
      !(reply : Except String Unit).isOk && decide (held before client key ≤ held after client key)
  | op, reply, _ => op.fails reply

theorem leavesLocked_inner {op : RefreshOp} (within : op.inner = true) (before : Pool) (reply : op.Reply) (after : Pool) :
    leavesLocked before op reply after = op.fails reply := by
  cases op <;> first | rfl | cases within

theorem onSession_cases {pool after : Pool} {client : Nat} {waits : Bool} {effect : Session → Session} {outside : Outside}
    {reply : Except String Unit} (served : onSession pool client waits effect outside = some (reply, after)) :
    client < pool.length ∧ ((reply = .ok () ∧ after = pool.modify client effect) ∨
      ∃ message, reply = .error message ∧
        (after = pool ∨ after = pool.modify client effect ∨ after = pool.modify client Session.lose)) := by
  cases found : pool[client]? with
  | none => simp [onSession, found] at served
  | some session =>
      apply And.intro (List.getElem?_eq_some_iff.mp found).1
      cases fate : outside.fate with
      | done =>
          simp only [onSession, found, fate] at served
          split_ifs at served <;> cases served
          · exact Or.inr ⟨_, rfl, Or.inl rfl⟩
          · exact Or.inl ⟨rfl, rfl⟩
      | failed =>
          simp only [onSession, found, fate, ite_self, Option.some.injEq, Prod.mk.injEq] at served
          exact Or.inr ⟨_, served.1.symm, Or.inl served.2.symm⟩
      | failedAfter =>
          simp only [onSession, found, fate] at served
          split_ifs at served <;> cases served
          · exact Or.inr ⟨_, rfl, Or.inl rfl⟩
          · exact Or.inr ⟨_, rfl, Or.inr (Or.inl rfl)⟩
      | lost =>
          simp only [onSession, found, fate] at served
          split_ifs at served <;> cases served
          · exact Or.inr ⟨_, rfl, Or.inl rfl⟩
          · exact Or.inr ⟨_, rfl, Or.inr (Or.inr rfl)⟩

theorem inner_kept {before after : Pool} {op : RefreshOp} {reply : op.Reply}
    (served : serve.handler before op reply after) (within : op.inner = true) : after = before := by
  obtain ⟨outside, served⟩ := served
  cases op <;> first | (cases served; rfl) | cases within

theorem connection_held {before after : Pool} {reply : Except String Nat}
    (served : serve.handler before .connection reply after) (client : Nat) (key : Int) :
    held after client key = held before client key := by
  obtain ⟨outside, served⟩ := served
  simp only [serve] at served
  split at served
  · obtain ⟨⟨chosen, pool⟩, got, same⟩ := Option.map_eq_some_iff.mp served
    cases same
    exact held_handOut got client key
  · cases served
    rfl

theorem putBack_held {before after : Pool} {client : Nat} {reply : Unit}
    (served : serve.handler before (.putBack client) reply after) (other : Nat) (key : Int) :
    held after other key = held before other key := by
  obtain ⟨outside, served⟩ := served
  cases served
  exact held_modify_kept (fun session => { session with out := false }) (fun _ => rfl) before client other key

/-- What a refresh that began on `start` has done to the locks of the pool. -/
def LocksKept (start : Pool) (troubled : Prop) : RefreshPhase → Pool → Prop
  | .starting, pool | .connected _, pool => ¬ troubled ∧ ∀ client key, held pool client key = held start client key
  | .holding client key, pool =>
      ¬ troubled ∧ ∀ other lock, held pool other lock = held start other lock + if client = other ∧ key = lock then 1 else 0
  | .failing client key, pool =>
      troubled ∧ ∀ other lock, held pool other lock = held start other lock + if client = other ∧ key = lock then 1 else 0
  | .settled _, pool | .returned, pool =>
      (troubled ∧ ∃ client key, held start client key < held pool client key) ∨
        (¬ troubled ∧ ∀ client key, held pool client key ≤ held start client key)

section Step
variable {start before after : Pool} {op : RefreshOp} {reply : op.Reply} {phase next : RefreshPhase} {troubled : Prop}

theorem lock_denied {client : Nat} {key : Int} {message : String}
    (served : serve.handler before (.advisoryLock client key) (.error message) after)
    (kept : LocksKept start troubled (.connected client) before) :
    LocksKept start (troubled ∨ leavesLocked before (.advisoryLock client key) (.error message) after = true)
      (.settled client) after := by
  obtain ⟨outside, served⟩ := served
  obtain ⟨inside, ⟨⟨⟩, -⟩ | ⟨_, -, same | granted | lost⟩⟩ := onSession_cases served
  all_goals
    simp only [LocksKept, leavesLocked, Except.isOk, Except.toBool, Bool.not_false, Bool.true_and, decide_eq_true_eq] at kept ⊢
  · subst same
    exact Or.inr ⟨by simp [kept.1], fun other lock => (kept.2 other lock).le⟩
  · subst granted
    apply Or.inl
    constructor
    · right
      simp [held_grant inside]
    · exact ⟨client, key, by simp [held_grant inside, kept.2]⟩
  · subst lost
    have fewer := held_lose_le before client
    exact Or.inr ⟨by simp [kept.1, fewer], fun other lock => (fewer other lock).trans (kept.2 other lock).le⟩

theorem unlock_settles {client : Nat} {key : Int} {reply : Except String Unit}
    (served : serve.handler before (.advisoryUnlock client key) reply after)
    (kept : LocksKept start troubled (.holding client key) before) :
    LocksKept start (troubled ∨ leavesLocked before (.advisoryUnlock client key) reply after = true)
      (.settled client) after := by
  obtain ⟨outside, served⟩ := served
  obtain ⟨inside, ⟨rfl, released⟩ | ⟨message, rfl, same | released | lost⟩⟩ := onSession_cases served
  all_goals
    simp only [LocksKept, leavesLocked, Except.isOk, Except.toBool, Bool.not_false, Bool.not_true, Bool.true_and,
      Bool.false_and, Bool.false_eq_true, or_false, decide_eq_true_eq] at kept ⊢
  · subst released
    apply Or.inr
    apply And.intro kept.1
    intro other lock
    rw [held_release, kept.2]
    omega
  · subst same
    exact Or.inl ⟨Or.inr le_rfl, client, key, by simp [kept.2]⟩
  · subst released
    apply Or.inr
    constructor
    · simp [kept.1, held_release, kept.2]
    · intro other lock
      rw [held_release, kept.2]
      omega
  · subst lost
    apply Or.inr
    constructor
    · simp [kept.1, held_lose, kept.2]
    · intro other lock
      have whole := kept.2 other lock
      rw [held_lose]
      split_ifs with here
      · exact Nat.zero_le _
      · rw [whole, if_neg fun same => here same.1]
        rfl

theorem LocksKept.step (kept : LocksKept start troubled phase before) (moved : RefreshMove phase op reply next)
    (served : serve.handler before op reply after) :
    LocksKept start (troubled ∨ leavesLocked before op reply after = true) next after := by
  cases moved with
  | refused message =>
      apply Or.inr
      exact ⟨by simp [kept.1, leavesLocked, RefreshOp.fails],
        fun client key => ((connection_held served client key).trans (kept.2 client key)).le⟩
  | connection client =>
      exact ⟨by simp [kept.1, leavesLocked, RefreshOp.fails],
        fun client key => (connection_held served client key).trans (kept.2 client key)⟩
  | denied client key message => exact lock_denied served kept
  | advisoryLock client key reply =>
      obtain ⟨outside, served⟩ := served
      obtain ⟨inside, ⟨-, granted⟩ | ⟨message, ⟨⟩, -⟩⟩ := onSession_cases served
      subst granted
      constructor
      · simp [kept.1, leavesLocked, Except.isOk, Except.toBool]
      · intro other lock
        rw [held_grant inside, kept.2]
  | inner client key reply within fine =>
      rw [leavesLocked_inner within, fine, inner_kept served within]
      simpa using kept
  | fails client key reply within failed =>
      rw [leavesLocked_inner within, failed, inner_kept served within]
      exact ⟨Or.inr rfl, kept.2⟩
  | advisoryUnlock client key reply => exact unlock_settles served kept
  | failing client key reply within =>
      rw [inner_kept served within]
      exact ⟨Or.inl kept.1, kept.2⟩
  | dropped client key =>
      have same := putBack_held served
      exact Or.inl ⟨Or.inl kept.1, client, key, by simp [same, kept.2]⟩
  | putBack client =>
      have same := putBack_held served
      simp only [LocksKept, same] at kept ⊢
      simpa [leavesLocked, RefreshOp.fails] using kept

end Step

/-- The refresh left its lock behind: one of its steps made it return so. -/
def Troubled (events : List (Event Pool RefreshOp RefreshOp.Reply)) : Prop :=
  ∃ event ∈ events, leavesLocked event.before event.op event.reply event.after = true

theorem troubled_append {past : List (Event Pool RefreshOp RefreshOp.Reply)} {event : Event Pool RefreshOp RefreshOp.Reply} :
    Troubled (past ++ [event]) ↔ Troubled past ∨ leavesLocked event.before event.op event.reply event.after = true := by
  simp [Troubled, or_and_right, exists_or]

/-- One refresh, on whatever connections, with whatever failures. -/
theorem refresh_releases_iff {hashtext : String → Int} {asked : Refresh} {before after : Pool}
    {events : List (Event Pool RefreshOp RefreshOp.Reply)} {result : Except ApiError Refreshed}
    (run : Exec serve.handler before (refreshProfileRecord hashtext asked) events result after) :
    (∀ client key, held after client key ≤ held before client key) ↔ ¬ Troubled events := by
  have fresh : LocksKept before (Troubled []) .starting before := ⟨by simp [Troubled], fun _ _ => rfl⟩
  obtain ⟨last, kept, ended⟩ := exec_history (fun past phase pool => LocksKept before (Troubled past) phase pool)
    (fun past phase next event kept moved served => by
      rw [troubled_append]
      exact kept.step (refresh_move moved) served)
    (refreshProfileRecord_follows hashtext asked) run fresh
  rw [show last = .returned from ended] at kept
  rcases kept with ⟨troubled, client, key, more⟩ | ⟨fine, fewer⟩
  · exact ⟨fun fewer => absurd (fewer client key) (not_le.mpr more), fun fine => absurd troubled fine⟩
  · exact ⟨fun _ => fine, fun _ => fewer⟩

/-! ### Any number of refreshes -/

def RefreshPhase.owes (client : Nat) (key : Int) : RefreshPhase → Nat
  | .holding on lock => if on = client ∧ lock = key then 1 else 0
  | _ => 0

def RefreshPhase.isFailing : RefreshPhase → Bool
  | .failing _ _ => true
  | _ => false

abbrev RefreshTurn := Turn Pool RefreshOp RefreshOp.Reply (Except ApiError Refreshed)

/-- Each lock that a session holds is owed by a refresh, which has asked for it. -/
structure Accounted (history : List RefreshTurn) (pool : Pool) (phases : List RefreshPhase) : Prop where
  owed : ∀ client key, held pool client key ≤ (phases.map (RefreshPhase.owes client key)).sum
  fine : ∀ phase ∈ phases, phase.isFailing = false
  asked : ∀ task client key, phases[task]? = some (.holding client key) →
    ∃ turn ∈ history, turn.task = task ∧ turn.op = .advisoryLock client key

section Step
variable {before after : Pool} {op : RefreshOp} {reply : op.Reply} {phase next : RefreshPhase}

theorem held_step (moved : RefreshMove phase op reply next) (served : serve.handler before op reply after)
    (fine : leavesLocked before op reply after = false) {client total : Nat} {key : Int}
    (bound : held before client key ≤ total) (least : phase.owes client key ≤ total) :
    held after client key + phase.owes client key ≤ total + next.owes client key := by
  cases moved with
  | refused | connection =>
      rw [connection_held served]
      exact bound
  | denied on lock message =>
      obtain ⟨outside, served⟩ := served
      obtain ⟨inside, ⟨⟨⟩, -⟩ | ⟨_, -, same | granted | lost⟩⟩ := onSession_cases served
      · rw [same]
        exact bound
      · subst granted
        simp [leavesLocked, Except.isOk, Except.toBool, held_grant inside] at fine
      · subst lost
        exact (held_lose_le before on client key).trans bound
  | advisoryLock on lock reply =>
      obtain ⟨outside, served⟩ := served
      obtain ⟨inside, ⟨-, granted⟩ | ⟨message, ⟨⟩, -⟩⟩ := onSession_cases served
      subst granted
      rw [held_grant inside]
      simpa [RefreshPhase.owes] using bound
  | inner on lock reply within =>
      rw [inner_kept served within]
      omega
  | fails on lock reply within failed =>
      rw [leavesLocked_inner within, failed] at fine
      cases fine
  | advisoryUnlock on lock reply =>
      obtain ⟨outside, served⟩ := served
      simp only [RefreshPhase.owes] at least ⊢
      obtain ⟨inside, ⟨rfl, released⟩ | ⟨message, rfl, same | released | lost⟩⟩ := onSession_cases served
      · rw [released, held_release]
        omega
      · subst same
        simp [leavesLocked, Except.isOk, Except.toBool] at fine
      · rw [released, held_release]
        omega
      · rw [lost, held_lose]
        by_cases here : on = client
        · rw [if_pos here]
          omega
        · rw [if_neg here, if_neg fun same => here same.1]
          exact bound
  | failing on lock reply within =>
      rw [inner_kept served within]
      exact bound
  | dropped | putBack =>
      rw [putBack_held served]
      exact bound

theorem holding_since (moved : RefreshMove phase op reply next) {client : Nat} {key : Int}
    (holds : next = .holding client key) : op = .advisoryLock client key ∨ phase = .holding client key := by
  cases moved with
  | advisoryLock =>
      cases holds
      exact Or.inl rfl
  | inner => exact Or.inr holds
  | _ => cases holds

theorem not_failing (moved : RefreshMove phase op reply next) (fine : leavesLocked before op reply after = false)
    (sound : phase.isFailing = false) : next.isFailing = false := by
  cases moved with
  | fails on lock reply within failed =>
      rw [leavesLocked_inner within, failed] at fine
      cases fine
  | failing => exact sound
  | _ => rfl

theorem Accounted.step {history : List RefreshTurn} {turn : RefreshTurn} {phases : List RefreshPhase}
    (accounted : Accounted history turn.before phases) (found : phases[turn.task]? = some phase)
    (moved : RefreshMove phase turn.op turn.reply next) (served : serve.handler turn.before turn.op turn.reply turn.after)
    (fine : leavesLocked turn.before turn.op turn.reply turn.after = false) :
    Accounted (history ++ [turn]) turn.after (phases.set turn.task next) := by
  constructor
  · intro client key
    have total := total_set (RefreshPhase.owes client key) found next
    have least := List.le_sum_of_mem (List.mem_map_of_mem (f := RefreshPhase.owes client key) (List.mem_of_getElem? found))
    have step := held_step moved served fine (accounted.owed client key) least
    omega
  · intro other member
    rcases List.mem_or_eq_of_mem_set member with kept | rfl
    · exact accounted.fine other kept
    · exact not_failing moved fine (accounted.fine phase (List.mem_of_getElem? found))
  · intro task client key listed
    have earlier : ∀ {held}, phases[task]? = some held → held = .holding client key →
        ∃ other ∈ history ++ [turn], other.task = task ∧ other.op = .advisoryLock client key := by
      rintro _ before rfl
      obtain ⟨other, member, same⟩ := accounted.asked task client key before
      exact ⟨other, List.mem_append_left _ member, same⟩
    by_cases same : turn.task = task
    · subst same
      have inside : turn.task < phases.length := (List.getElem?_eq_some_iff.mp found).1
      obtain rfl : next = .holding client key := by simpa [List.getElem?_set, inside] using listed
      rcases holding_since moved rfl with here | before
      · exact ⟨turn, by simp, rfl, here⟩
      · exact earlier found before
    · exact earlier (by simpa [List.getElem?_set, same] using listed) rfl

end Step

theorem refreshes_accounted {hashtext : String → Int} {start : Pool} {history : List RefreshTurn}
    {state : State Pool RefreshOp RefreshOp.Reply (Except ApiError Refreshed)} (clean : ∀ client key, held start client key = 0)
    (run : Run serve.handler (refreshProfileRecord hashtext) ⟨start, []⟩ history state)
    (fine : ∀ turn ∈ history, leavesLocked turn.before turn.op turn.reply turn.after = false) :
    ∃ phases, List.Forall₂ (Follows refreshNext refreshEnds) phases state.programs ∧
      Accounted history state.shared phases := by
  have tracked := run_phases (fun _ => .starting) (refreshProfileRecord_follows hashtext)
    (fun history pool phases =>
      (∀ turn ∈ history, leavesLocked turn.before turn.op turn.reply turn.after = false) → Accounted history pool phases)
    (fun _ => ⟨fun client key => (clean client key).le, by simp, by simp⟩) rfl
    (by
      intro history pool phases asked accounted fine
      have accounted := accounted fine
      constructor
      · simpa [RefreshPhase.owes] using accounted.owed
      · intro phase member
        rcases List.mem_append.mp member with kept | new
        · exact accounted.fine phase kept
        · rw [List.mem_singleton.mp new]
          rfl
      · intro task client key listed
        rcases getElem?_append_singleton listed with before | new
        · exact accounted.asked task client key before
        · cases new)
    (by
      intro history phases phase next turn accounted _ found moved served fine
      have earlier := accounted fun other member => fine other (List.mem_append_left _ member)
      exact earlier.step found (refresh_move moved) served (fine turn (by simp)))
    run
  obtain ⟨phases, follow, accounted⟩ := tracked
  exact ⟨phases, follow, accounted fine⟩

/-- Every refresh that has asked for the lock has returned. -/
def AllReturned (key : Int) (history : List RefreshTurn)
    (state : State Pool RefreshOp RefreshOp.Reply (Except ApiError Refreshed)) : Prop :=
  ∀ turn ∈ history, ∀ client, turn.op = .advisoryLock client key →
    ∃ result, state.programs[turn.task]? = some (.done result)

theorem lock_free {hashtext : String → Int} {start : Pool} {history : List RefreshTurn}
    {state : State Pool RefreshOp RefreshOp.Reply (Except ApiError Refreshed)} (clean : ∀ client key, held start client key = 0)
    (run : Run serve.handler (refreshProfileRecord hashtext) ⟨start, []⟩ history state)
    (fine : ∀ turn ∈ history, leavesLocked turn.before turn.op turn.reply turn.after = false) {key : Int}
    (returned : AllReturned key history state) (client : Nat) : held state.shared client key = 0 := by
  obtain ⟨phases, follow, accounted⟩ := refreshes_accounted clean run fine
  have none_ : (phases.map (RefreshPhase.owes client key)).sum = 0 := by
    apply List.sum_eq_zero
    intro owed member
    obtain ⟨phase, listed, rfl⟩ := List.mem_map.mp member
    cases phase with
    | holding on lock =>
        by_contra owes
        simp only [RefreshPhase.owes, ite_eq_right_iff, Nat.one_ne_zero, imp_false, not_not] at owes
        obtain ⟨rfl, rfl⟩ := owes
        obtain ⟨task, found⟩ := List.mem_iff_getElem?.mp listed
        obtain ⟨turn, taken, rfl, asked⟩ := accounted.asked task on lock found
        obtain ⟨result, done⟩ := returned turn taken on asked
        obtain ⟨program, same, follows⟩ := forall₂_getElem?_left follow found
        obtain rfl := Option.some.inj (same.symm.trans done)
        cases follows
    | _ => rfl
  have owed := accounted.owed client key
  omega

/-- A refresh leaves no lock behind exactly if it releases its own: if between lock and release no step
fails, the relay's answer has a row to store, and no error hides the grant of the lock or thwarts its
release. Where all refreshes do so, a lock that no running refresh has asked for is free. -/
theorem refresh_releases_its_lock (hashtext : String → Int) :
    (∀ asked before events result after, Exec serve.handler before (refreshProfileRecord hashtext asked) events result after →
      ((∀ client key, held after client key ≤ held before client key) ↔ ¬ Troubled events)) ∧
    ∀ start history state, (∀ client key, held start client key = 0) →
      Run serve.handler (refreshProfileRecord hashtext) ⟨start, []⟩ history state →
      (∀ turn ∈ history, leavesLocked turn.before turn.op turn.reply turn.after = false) →
      ∀ playerId, AllReturned (hashtext (lockName playerId)) history state →
        ∀ client, held state.shared client (hashtext (lockName playerId)) = 0 :=
  ⟨fun _ _ _ _ _ run => refresh_releases_iff run,
    fun _ _ _ clean run fine _ returned client => lock_free clean run fine returned client⟩

def knownPlayer : Refresh := ⟨5, false, "web", "view", "player_page"⟩

def answeredProfile : Outside := { relayed := .ok (.array [.object [("Id", .integer 5)]]) }

def untroubled (turns : List RefreshTurn) : Bool :=
  turns.all fun turn => !leavesLocked turn.before turn.op turn.reply turn.after

theorem untroubled_iff {turns : List RefreshTurn} :
    untroubled turns = true ↔ ∀ turn ∈ turns, leavesLocked turn.before turn.op turn.reply turn.after = false := by
  simp [untroubled]

def finishedAt (programs : List (RefreshProgram (Except ApiError Refreshed))) (task : Nat) : Bool :=
  (programs[task]?).any Program.finished

theorem finishedAt_iff {programs : List (RefreshProgram (Except ApiError Refreshed))} {task : Nat} :
    finishedAt programs task = true ↔ ∃ result, programs[task]? = some (.done result) := by
  unfold finishedAt
  cases programs[task]? with
  | none => simp
  | some program => cases program <;> simp [Program.finished]

theorem profile_refreshed_and_released :
    (∃ events result after, Exec serve.handler [] (refreshProfileRecord (fun _ => 1) knownPlayer) events result after ∧
      ∀ client key, held after client key ≤ held [] client key) ∧
    ∃ history state, Run serve.handler (refreshProfileRecord fun _ => 1) ⟨[], []⟩ history state ∧ history.length = 18 ∧
      ∀ client, held state.shared client 1 = 0 := by
  constructor
  · have passed : (feed serve (List.replicate 9 answeredProfile) [] (refreshProfileRecord (fun _ => 1) knownPlayer)).any
        (fun outcome => outcome.1.all fun event => !leavesLocked event.before event.op event.reply event.after) = true := by
      decide +kernel
    obtain ⟨events, result, after, run, fine⟩ := feed_reaches passed
    apply Exists.intro events
    refine ⟨result, after, run, ((refresh_releases_its_lock fun _ => 1).1 _ _ _ _ _ run).mpr ?_⟩
    rintro ⟨event, member, troubled⟩
    have calm := List.all_eq_true.mp fine event member
    simp [troubled] at calm
  · have passed : (replay serve (refreshProfileRecord fun _ => 1) ⟨[], []⟩
        (.enter knownPlayer :: .enter knownPlayer :: List.replicate 9 (.turn 0 answeredProfile) ++
          List.replicate 9 (.turn 1 { answeredProfile with idle := some 0 }))).any
        (fun reached => untroubled reached.1 && reached.1.all (fun turn => finishedAt reached.2.programs turn.task) &&
          decide (reached.1.length = 18)) = true := by
      decide +kernel
    obtain ⟨history, state, run, reached⟩ := replay_reaches passed
    simp only [Bool.and_eq_true, decide_eq_true_eq] at reached
    obtain ⟨⟨fine, ended⟩, length⟩ := reached
    have returned : AllReturned 1 history state := fun turn taken client _ =>
      finishedAt_iff.mp (List.all_eq_true.mp ended turn taken)
    exact ⟨history, state, run, length, (refresh_releases_its_lock fun _ => 1).2 [] history state (fun _ _ => rfl) run
      (untroubled_iff.mp fine) 5 returned⟩

/-- The relay has no profile for the player: the refresh fails, and the connection goes back to the
pool with the lock. -/
theorem unanswered_refresh_keeps_its_lock :
    ∃ history state, Run serve.handler (refreshProfileRecord fun _ => 1) ⟨[], []⟩ history state ∧
      (∀ program ∈ state.programs, program.finished = true) ∧ held state.shared 0 1 = 1 := by
  have passed : (replay serve (refreshProfileRecord fun _ => 1) ⟨[], []⟩
      (.enter knownPlayer :: List.replicate 6 (.turn 0 { relayed := .ok (.array []) }))).any
      (fun reached => reached.2.programs.all Program.finished && decide (held reached.2.shared 0 1 = 1)) = true := by
    decide +kernel
  obtain ⟨history, state, run, reached⟩ := replay_reaches passed
  obtain ⟨done, kept⟩ := Bool.and_eq_true_iff.mp reached
  exact ⟨history, state, run, List.all_eq_true.mp done, of_decide_eq_true kept⟩

end PaladinsCat.ProfileRefresh
