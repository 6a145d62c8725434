import PaladinsCat.Ownership

/-!
The owner lease of the relay (owner_lease.rs, and its use in main.rs). Of all relay processes, only
one is to call the provider: the one that has an advisory lock of the database. The lock belongs to
a session, the session to a connection from the pool, and the connection lies in the lease, behind a
mutex. Sessions end and connections break at any time, and the two sides learn of it separately.
-/

namespace PaladinsCat.OwnerLease

open Interleaving Program

/-! ### State -/

/-- Where a connection is: in the pool, in the lease, or with a task. -/
inductive Place where
  | pooled
  | leased
  | borrowed
  deriving DecidableEq

/-- A session of the database, with the connection of a relay to it. -/
structure Session where
  relay : ℕ
  place : Place := .borrowed
  /-- How often it has taken the lock. -/
  locks : ℕ := 0
  /-- The database has ended it. Its locks are gone. -/
  ended : Bool := false
  /-- The relay knows that the connection is broken. -/
  closed : Bool := false
  deriving DecidableEq

def Session.holds (session : Session) : Bool := !session.ended && 0 < session.locks

/-- `OwnerLease`: the connection, and whether a task is behind the mutex. -/
structure Lease where
  connection : Option ℕ
  entered : Bool := false
  deriving DecidableEq

structure Relay where
  lease : Option Lease := none
  ready : Bool := false
  accepting : Bool := true
  /-- The pool is closed. -/
  drained : Bool := false
  deriving DecidableEq

structure Fleet where
  sessions : List Session := []
  relays : List Relay := []
  deriving DecidableEq

/-- What a step finds. A query may fail in the database, it may be run without an answer, and both
with or without a break of the connection. -/
structure Outside where
  ended : List ℕ := []
  severed : List ℕ := []
  performed : Bool := true
  answered : Bool := true
  /-- The connection that the pool hands out, if it has one that it takes for good. -/
  choice : Option ℕ := none
  refused : Bool := false
  message : String := ""

/-! ### Calls -/

inductive LeaseOp where
  | boot
  | connection (relay : ℕ)
  | tryLock (session : ℕ)
  | ping (session : ℕ)
  | unlock (session : ℕ)
  | giveBack (session : ℕ)
  | found (relay session : ℕ)
  | enter (relay : ℕ)
  | take (relay : ℕ)
  | put (relay session : ℕ)
  | leave (relay : ℕ)
  | store (relay : ℕ) (ready : Bool)
  | refuse (relay : ℕ)
  | close (relay : ℕ)
  | grant (relay : ℕ)
  deriving DecidableEq

abbrev LeaseOp.Reply : LeaseOp → Type
  | .boot => ℕ
  | .connection _ => Except String ℕ
  | .tryLock _ => Except String Bool
  | .ping _ => Bool
  | .enter _ | .take _ => Option ℕ
  | .grant _ => Except String Unit
  | .unlock _ | .giveBack _ | .found _ _ | .put _ _ | .leave _ | .store _ _ | .refuse _ | .close _ => Unit

namespace Fleet

def leaseOf (fleet : Fleet) (relay : ℕ) : Option Lease := fleet.relays[relay]?.bind Relay.lease

def onSession (fleet : Fleet) (session : ℕ) (change : Session → Session) : Fleet :=
  { fleet with sessions := fleet.sessions.modify session change }

def onRelay (fleet : Fleet) (relay : ℕ) (change : Relay → Relay) : Fleet :=
  { fleet with relays := fleet.relays.modify relay change }

def endSession (fleet : Fleet) (session : ℕ) : Fleet := fleet.onSession session fun known => { known with ended := true }

def sever (fleet : Fleet) (session : ℕ) : Fleet := fleet.onSession session fun known => { known with closed := true }

/-- What has happened since the last step. -/
def pass (fleet : Fleet) (outside : Outside) : Fleet :=
  outside.severed.foldl sever (outside.ended.foldl endSession fleet)

/-- A query is run on a session that both sides have. -/
def runs (fleet : Fleet) (outside : Outside) (session : ℕ) : Bool :=
  outside.performed && fleet.sessions[session]?.any fun known => !known.ended && !known.closed

/-- `pg_try_advisory_lock`: a session that has the lock gets it once more. -/
def lockable (fleet : Fleet) (session : ℕ) : Bool :=
  (List.range fleet.sessions.length).all fun other => other == session || !fleet.sessions[other]?.any Session.holds

def lock (fleet : Fleet) (session : ℕ) : Fleet :=
  fleet.onSession session fun known => { known with locks := known.locks + 1 }

/-- The pool hands out one of its connections that is not known to be broken, or a new one. -/
def connect (fleet : Fleet) (relay : ℕ) (outside : Outside) : ℕ × Fleet :=
  let pooled := outside.choice.filter fun session => fleet.sessions[session]?.any fun known =>
    known.relay == relay && known.place == .pooled && !known.closed
  match pooled with
  | some session => (session, fleet.onSession session fun known => { known with place := .borrowed })
  | none => (fleet.sessions.length, { fleet with sessions := fleet.sessions ++ [{ relay }] })

/-- A connection that is given back. A pool that is closed drops it. -/
def pooled (fleet : Fleet) (known : Session) : Session :=
  { known with place := .pooled, closed := known.closed || fleet.relays[known.relay]?.any (·.drained) }

/-- A pool that is closed drops its connections. -/
def dropPooled (fleet : Fleet) (relay : ℕ) : Fleet :=
  { fleet with sessions := fleet.sessions.map fun known =>
      if known.relay = relay ∧ known.place = .pooled then { known with closed := true } else known }

/-- The answer to a request (main.rs, `AppState::dispatch`). -/
def admission (relay : Relay) : Except String Unit :=
  if !relay.accepting then .error "HirezRelay is draining and not accepting new work"
  else if !relay.ready then .error "HirezRelay does not hold the live provider owner lease"
  else .ok ()

def act (fleet : Fleet) (outside : Outside) : (op : LeaseOp) → Option (op.Reply × Fleet)
  | .boot => some (fleet.relays.length, { fleet with relays := fleet.relays ++ [{}] })
  | .connection relay =>
      fleet.relays[relay]?.map fun known =>
        if known.drained || outside.refused then (.error outside.message, fleet)
        else let (session, after) := fleet.connect relay outside; (.ok session, after)
  | .tryLock session =>
      if fleet.runs outside session then
        let locked := fleet.lockable session
        let after := if locked then fleet.lock session else fleet
        some (if outside.answered then .ok locked else .error outside.message, after)
      else some (.error outside.message, fleet)
  | .ping session => some (fleet.runs outside session && outside.answered, fleet)
  | .unlock session =>
      some ((), if fleet.runs outside session then
          fleet.onSession session fun known => { known with locks := known.locks - 1 } else fleet)
  | .giveBack session => some ((), fleet.onSession session fleet.pooled)
  | .found relay session =>
      fleet.relays[relay]?.bind fun known =>
        if known.lease.isSome then none
        else some ((), (fleet.onSession session fun known => { known with place := .leased }).onRelay relay fun known =>
          { known with lease := some { connection := some session }, ready := true })
  | .enter relay =>
      (fleet.leaseOf relay).bind fun lease =>
        if lease.entered then none
        else some (lease.connection, fleet.onRelay relay fun known => { known with lease := some { lease with entered := true } })
  | .take relay =>
      let taken := (fleet.leaseOf relay).bind Lease.connection
      some (taken, (taken.elim fleet fun session => fleet.onSession session fun known => { known with place := .borrowed }).onRelay
        relay fun known => { known with lease := known.lease.map fun lease => { lease with connection := none } })
  | .put relay session =>
      some ((), (fleet.onSession session fun known => { known with place := .leased }).onRelay relay fun known =>
        { known with lease := known.lease.map fun lease => { lease with connection := some session } })
  | .leave relay =>
      some ((), fleet.onRelay relay fun known => { known with lease := known.lease.map fun lease => { lease with entered := false } })
  | .store relay ready => some ((), fleet.onRelay relay fun known => { known with ready })
  | .refuse relay => some ((), fleet.onRelay relay fun known => { known with accepting := false })
  | .close relay => some ((), (fleet.dropPooled relay).onRelay relay fun known => { known with drained := true })
  | .grant relay => fleet.relays[relay]?.map fun known => (admission known, fleet)

end Fleet

def serve : Service Fleet LeaseOp LeaseOp.Reply Outside := fun before op outside => (before.pass outside).act outside op

/-! ### Programs -/

abbrev Task (α : Type) := Program LeaseOp LeaseOp.Reply α

abbrev call (op : LeaseOp) : Task op.Reply := perform op

inductive OwnerLeaseError where
  | database (message : String)
  | alreadyOwned
  deriving DecidableEq

def OwnerLeaseError.text : OwnerLeaseError → String
  | .database message => "PostgreSQL owner lease failed: " ++ message
  | .alreadyOwned => "another HirezRelay process already owns the live provider lease"

/-- `Database::health_check`, and any other use of the pool. -/
def healthCheck (relay : ℕ) : Task Bool := do
  match ← call (.connection relay) with
  | .error _ => return false
  | .ok session =>
      let healthy ← call (.ping session)
      let _ ← call (.giveBack session)
      return healthy

def acquire (relay : ℕ) : Task (Except OwnerLeaseError ℕ) := do
  match ← call (.connection relay) with
  | .error message => return .error (.database message)
  | .ok session =>
      match ← call (.tryLock session) with
      | .error message =>
          let _ ← call (.giveBack session)
          return .error (.database message)
      | .ok false =>
          let _ ← call (.giveBack session)
          return .error .alreadyOwned
      | .ok true => return .ok session

/-- The start of a relay (`build_state`). -/
def start : Task (Except String Unit) := do
  let relay ← perform .boot
  if ← healthCheck relay then
    match ← acquire relay with
    | .error error => return .error error.text
    | .ok session =>
        let _ ← call (.found relay session)
        return .ok ()
  else return .error "PostgreSQL health check failed"

def pingOwn : Option ℕ → Task Bool
  | none => return false
  | some session => call (.ping session)

def isHealthy (relay : ℕ) : Task Bool := do
  let connection ← call (.enter relay)
  let healthy ← pingOwn connection
  let _ ← call (.leave relay)
  return healthy

/-- The second half of `ensure_healthy`: the lines of `acquire` once more, but the lease stays. -/
def reacquire (relay : ℕ) : Task (Except OwnerLeaseError Bool) := do
  match ← acquire relay with
  | .error (.database message) => return .error (.database message)
  | .error .alreadyOwned => return .ok false
  | .ok session =>
      let _ ← call (.put relay session)
      return .ok true

def dropConnection (relay : ℕ) : Task Unit := do
  match ← call (.take relay) with
  | none => return ()
  | some session => call (.giveBack session)

def ensureHealthy (relay : ℕ) : Task (Except OwnerLeaseError Bool) := do
  let connection ← call (.enter relay)
  if ← pingOwn connection then
    let _ ← call (.leave relay)
    return .ok true
  else
    let _ ← dropConnection relay
    let result ← reacquire relay
    let _ ← call (.leave relay)
    return result

def release (relay : ℕ) : Task Unit := do
  let _ ← call (.enter relay)
  match ← call (.take relay) with
  | none => call (.leave relay)
  | some session =>
      let _ ← call (.unlock session)
      let _ ← call (.giveBack session)
      call (.leave relay)

/-- One round of the owner loop. -/
def round (relay : ℕ) : Task (Except String Unit) := do
  let result ← ensureHealthy relay
  let _ ← call (.store relay (result matches .ok true))
  return .ok ()

/-- The health route. -/
def health (relay : ℕ) : Task (Except String Unit) := do
  let databaseOk ← healthCheck relay
  let ownerOk ← isHealthy relay
  let _ ← call (.store relay (databaseOk && ownerOk))
  return .ok ()

def shutdown (relay : ℕ) : Task (Except String Unit) := do
  let _ ← call (.refuse relay)
  let _ ← release relay
  let _ ← call (.close relay)
  return .ok ()

inductive Caller where
  | start
  | round (relay : ℕ)
  | health (relay : ℕ)
  | shutdown (relay : ℕ)
  | request (relay : ℕ)
  | query (relay : ℕ)

def task : Caller → Task (Except String Unit)
  | .start => start
  | .round relay => round relay
  | .health relay => health relay
  | .shutdown relay => shutdown relay
  | .request relay => call (.grant relay)
  | .query relay => do
      let _ ← healthCheck relay
      return .ok ()

/-! ### Discipline -/

/-- A connection that a task has, and whether the lock was taken over it. -/
structure Borrowed where
  relay : ℕ
  session : ℕ
  locked : Bool
  deriving DecidableEq

/-- What a task has in its hands: the lease of a relay, a connection, and the relay whose lock it has seen. -/
structure Hands where
  lease : Option (ℕ × Option ℕ) := none
  object : Option Borrowed := none
  seen : Option ℕ := none
  deriving DecidableEq

/-- The discipline of a task: it has at most one lease and one connection in its hands, and it calls
a relay ready only when it has seen its lock. -/
def next (hands : Hands) : (op : LeaseOp) → op.Reply → Option Hands
  | .boot | .close _ | .refuse _ | .grant _ => fun _ => some hands
  | .connection relay => fun reply : Except String ℕ =>
      if hands.object = none then
        some { hands with object := reply.toOption.map fun session => ⟨relay, session, false⟩ } else none
  | .tryLock session => fun reply : Except String Bool =>
      hands.object.bind fun borrowed =>
        if borrowed.session = session then
          if reply.toOption = some true then
            some { hands with object := some { borrowed with locked := true }, seen := some borrowed.relay }
          else some hands
        else none
  | .ping session => fun reply : Bool =>
      match hands.lease with
      | some (relay, some connection) =>
          if reply && connection == session then some { hands with seen := some relay } else some hands
      | _ => some hands
  | .unlock session => fun _ =>
      hands.object.bind fun borrowed =>
        if borrowed.session = session then some { hands with object := some { borrowed with locked := false } } else none
  | .giveBack session => fun _ =>
      if hands.object.any (·.session == session) then some { hands with object := none } else none
  | .found relay session => fun _ =>
      if hands.object = some ⟨relay, session, true⟩ ∧ hands.seen = some relay then some { hands with object := none } else none
  | .enter relay => fun reply : Option ℕ =>
      if hands.lease = none then some { hands with lease := some (relay, reply) } else none
  | .take relay => fun reply : Option ℕ =>
      if hands.lease.any (·.1 == relay) ∧ hands.object = none then
        some { hands with lease := some (relay, none), object := reply.map fun session => ⟨relay, session, true⟩ }
      else none
  | .put relay session => fun _ =>
      if hands.lease = some (relay, none) ∧ hands.object = some ⟨relay, session, true⟩ then
        some { hands with lease := some (relay, some session), object := none } else none
  | .leave relay => fun _ =>
      if hands.lease.any (·.1 == relay) then some { hands with lease := none } else none
  | .store relay ready => fun _ => if ready → hands.seen = some relay then some hands else none

end PaladinsCat.OwnerLease
