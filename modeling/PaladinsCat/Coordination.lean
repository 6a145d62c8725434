import PaladinsCat.Interleaving

/-!
The coordination of background workers (workers/coordination.rs): which engine a scheduler
is assigned to, who owns it, and who runs a job. Every call is one statement or one
transaction, and one step here. Its `now()` is the time at which it began; the rows that
it waited for may have changed since.
-/

namespace PaladinsCat.Coordination

open Interleaving Program

/-! ### Tables -/

inductive Engine where
  | typescript
  | rust
  deriving DecidableEq

/-- A row of `worker_scheduler_ownership`; times are in microseconds. -/
structure Ownership where
  ownerId : String
  engine : Engine
  leaseUntil : Int
  acquiredAt : Int
  heartbeatAt : Int
  deriving DecidableEq

/-- A row of `worker_job_leases`. -/
structure JobRow where
  schedulerKey : String
  ownerId : String
  leaseUntil : Int
  startedAt : Int
  attempt : Nat
  deriving DecidableEq

structure JobLease where
  jobKey : String
  schedulerKey : String
  ownerId : String
  deriving DecidableEq

structure Tables where
  /-- `desired_engine`, where a scheduler has an assignment. -/
  assignments : String → Option Engine := fun _ => none
  ownership : String → Option Ownership := fun _ => none
  jobs : String → Option JobRow := fun _ => none
  clock : Int := 0

def schedulerKeys : List String :=
  ["ranked_tracker", "auto_ingester", "baseline_tracker", "derived_projection_tracker", "hourly_gap_checker", "tier_stats"]

/-- An explicit cast to `varchar(limit)` cuts the text. -/
def varchar (limit : Nat) (text : String) : String := String.ofList (text.toList.take limit)

/-- The whole seconds of a `Duration`, given in nanoseconds, as an `i32`. -/
def leaseSeconds (lease : Nat) : Nat := min (lease / 1000000000) (2 ^ 31 - 1)

/-- `now() + seconds * interval '1 second'`. -/
def leaseEnd (now : Int) (seconds : Nat) : Int := now + seconds * 1000000

/-! ### Statements -/

inductive CoordinationOp where
  | acquire (key owner : String) (seconds : Nat)
  | acquireAll (owner : String) (seconds : Nat)
  | heartbeat (key owner : String) (seconds : Nat)
  | heartbeatAll (owner : String) (seconds : Nat)
  | release (key owner : String)
  | releaseAll (owner : String)
  /-- Any change of `worker_scheduler_assignments`. -/
  | assign (key : String) (engine : Option Engine)
  | acquireJob (job scheduler owner : String) (seconds : Nat)
  | releaseJob (lease : JobLease)

/-- Whether there is a row in `RETURNING`, the transaction's result, or the number of affected rows. -/
abbrev CoordinationOp.Result : CoordinationOp → Type
  | .acquire _ _ _ | .acquireAll _ _ | .acquireJob _ _ _ _ => Bool
  | .assign _ _ => Unit
  | _ => Nat

abbrev CoordinationOp.Reply (op : CoordinationOp) : Type := Except Unit op.Result

def Tables.withOwnership (tables : Tables) (key : String) (row : Option Ownership) : Tables :=
  { tables with ownership := Function.update tables.ownership key row }

/-- The row that an acquisition leaves, if it is carried out. -/
def acquired (tables : Tables) (now : Int) (key owner : String) (seconds : Nat) : Option Ownership :=
  let owner := varchar 120 owner
  let fresh : Ownership := { ownerId := owner, engine := .rust, leaseUntil := leaseEnd now seconds, acquiredAt := now, heartbeatAt := now }
  if tables.assignments key = some .rust then
    match tables.ownership key with
    | none => some fresh
    | some row =>
        if row.leaseUntil ≤ now ∨ row.ownerId = owner then
          some { fresh with acquiredAt := if row.ownerId = owner then row.acquiredAt else now }
        else none
  else none

/-- The loop over the keys, with the number of rows it has acquired. -/
def acquireEach (now : Int) (owner : String) (seconds : Nat) : Tables → List String → Tables × Nat
  | tables, [] => (tables, 0)
  | tables, key :: rest =>
      match acquired tables now key owner seconds with
      | some row =>
          let (after, count) := acquireEach now owner seconds (tables.withOwnership key row) rest
          (after, count + 1)
      | none => acquireEach now owner seconds tables rest

/-- The row after a heartbeat for this owner, if it is updated. -/
def beaten (tables : Tables) (now : Int) (key owner : String) (seconds : Nat) : Option Ownership :=
  (tables.ownership key).bind fun row =>
    if row.ownerId = owner ∧ row.engine = .rust ∧ now < row.leaseUntil ∧ tables.assignments key = some .rust then
      some { row with leaseUntil := leaseEnd now seconds, heartbeatAt := now }
    else none

def ownedRow (tables : Tables) (key owner : String) : Bool :=
  (tables.ownership key).any fun row => row.ownerId = owner ∧ row.engine = .rust

/-- The owner holds the scheduler, and its lease has not run out. -/
def ownsScheduler (tables : Tables) (now : Int) (key owner : String) : Bool :=
  (tables.ownership key).any fun row => row.ownerId = owner ∧ row.engine = .rust ∧ now < row.leaseUntil

/-- The row that the acquisition of a job leaves, if it is carried out. -/
def acquiredJob (tables : Tables) (now : Int) (job scheduler owner : String) (seconds : Nat) : Option JobRow :=
  let scheduler := varchar 64 scheduler
  let owner := varchar 120 owner
  let fresh : JobRow :=
    { schedulerKey := scheduler, ownerId := owner, leaseUntil := leaseEnd now seconds, startedAt := now, attempt := 1 }
  if ownsScheduler tables now scheduler owner then
    match tables.jobs (varchar 100 job) with
    | none => some fresh
    | some row =>
        if row.leaseUntil ≤ now ∨ ownsScheduler tables now row.schedulerKey row.ownerId = false then
          some { fresh with attempt := row.attempt + 1 }
        else none
  else none

def releasesJob (tables : Tables) (lease : JobLease) : Bool :=
  (tables.jobs lease.jobKey).any fun row => row.schedulerKey = lease.schedulerKey ∧ row.ownerId = lease.ownerId

/-- What a statement does, with its result. -/
def execute (tables : Tables) (now : Int) : (op : CoordinationOp) → op.Result × Tables
  | .acquire key owner seconds =>
      match acquired tables now key owner seconds with
      | some row => (true, tables.withOwnership key row)
      | none => (false, tables)
  | .acquireAll owner seconds =>
      let (after, count) := acquireEach now owner seconds tables schedulerKeys
      -- `ROLLBACK` unless the loop got all of them
      if count ≠ schedulerKeys.length then (false, tables) else (true, after)
  | .heartbeat key owner seconds =>
      match beaten tables now key (varchar 120 owner) seconds with
      | some row => ((1 : Nat), tables.withOwnership key row)
      | none => ((0 : Nat), tables)
  | .heartbeatAll owner seconds =>
      (schedulerKeys.countP fun key => (beaten tables now key owner seconds).isSome,
        { tables with
          ownership := fun key =>
            if key ∈ schedulerKeys then (beaten tables now key owner seconds).or (tables.ownership key)
            else tables.ownership key })
  | .release key owner =>
      if ownedRow tables key owner then ((1 : Nat), tables.withOwnership key none) else ((0 : Nat), tables)
  | .releaseAll owner =>
      (schedulerKeys.countP fun key => ownedRow tables key owner,
        { tables with
          ownership := fun key =>
            if key ∈ schedulerKeys ∧ ownedRow tables key owner = true then none else tables.ownership key })
  | .assign key engine => ((), { tables with assignments := Function.update tables.assignments key engine })
  | .acquireJob job scheduler owner seconds =>
      match acquiredJob tables now job scheduler owner seconds with
      | some row => (true, { tables with jobs := Function.update tables.jobs (varchar 100 job) row })
      | none => (false, tables)
  | .releaseJob lease =>
      if releasesJob tables lease then ((1 : Nat), { tables with jobs := Function.update tables.jobs lease.jobKey none })
      else ((0 : Nat), tables)

inductive Fate where
  | answered
  | rolledBack
  /-- The statement is carried out, but its answer is lost. -/
  | unacknowledged

structure Outside where
  clock : Int := 0
  /-- `now()` of the statement: when it began. -/
  now : Int := 0
  fate : Fate := .answered

/-- The clock does not run backwards. -/
def serve : Service Tables CoordinationOp CoordinationOp.Reply Outside := fun tables op outside =>
  if outside.clock < tables.clock ∨ outside.clock < outside.now then none
  else
    let (result, after) := execute tables outside.now op
    match outside.fate with
    | .answered => some (.ok result, { after with clock := outside.clock })
    | .rolledBack => some (.error (), { tables with clock := outside.clock })
    | .unacknowledged => some (.error (), { after with clock := outside.clock })

/-! ### Calls -/

abbrev CoordinationProgram := Program CoordinationOp CoordinationOp.Reply

def acquireSchedulerOwner (key owner : String) (lease : Nat) : CoordinationProgram (Except Unit Bool) :=
  if !schedulerKeys.contains key then pure (.ok false)
  else perform (CoordinationOp.acquire key owner (leaseSeconds lease))

def heartbeatSchedulerOwner (key owner : String) (lease : Nat) : CoordinationProgram (Except Unit Bool) :=
  if !schedulerKeys.contains key then pure (.ok false)
  else do
    let updated : Except Unit Nat ← perform (CoordinationOp.heartbeat key owner (leaseSeconds lease))
    pure (updated.map (· == 1))

def releaseSchedulerOwner (key owner : String) : CoordinationProgram (Except Unit Bool) :=
  if !schedulerKeys.contains key then pure (.ok false)
  else do
    let deleted : Except Unit Nat ← perform (CoordinationOp.release key owner)
    pure (deleted.map (· == 1))

def acquireAllSchedulerOwners (owner : String) (lease : Nat) : CoordinationProgram (Except Unit Bool) :=
  perform (CoordinationOp.acquireAll owner (leaseSeconds lease))

def heartbeatSchedulerOwners (owner : String) (lease : Nat) : CoordinationProgram (Except Unit Bool) := do
  let updated : Except Unit Nat ← perform (CoordinationOp.heartbeatAll owner (leaseSeconds lease))
  pure (updated.map (· == schedulerKeys.length))

def releaseSchedulerOwners (owner : String) : CoordinationProgram (Except Unit Nat) :=
  perform (CoordinationOp.releaseAll owner)

def acquireJob (job scheduler owner : String) (lease : Nat) : CoordinationProgram (Except Unit (Option JobLease)) := do
  let taken : Except Unit Bool ← perform (CoordinationOp.acquireJob job scheduler owner (leaseSeconds lease))
  pure (taken.map fun row => if row then some ⟨job, scheduler, owner⟩ else none)

def releaseJob (lease : JobLease) : CoordinationProgram (Except Unit Bool) := do
  let deleted : Except Unit Nat ← perform (CoordinationOp.releaseJob lease)
  pure (deleted.map (· == 1))

/-- A scheduled job (scheduler_host.rs), as far as these tables are concerned: the run log and the work
itself, and what the job reports, leave them alone. -/
def executeScheduledJobOnce (job scheduler owner : String) (lease : Nat) : CoordinationProgram Unit := do
  match ← acquireJob job scheduler owner lease with
  | .ok (some lease) =>
      let _ ← releaseJob lease
      pure ()
  | _ => pure ()

inductive CoordinationCall where
  | acquireSchedulerOwner (key owner : String) (lease : Nat)
  | heartbeatSchedulerOwner (key owner : String) (lease : Nat)
  | releaseSchedulerOwner (key owner : String)
  | acquireAllSchedulerOwners (owner : String) (lease : Nat)
  | heartbeatSchedulerOwners (owner : String) (lease : Nat)
  | releaseSchedulerOwners (owner : String)
  | assign (key : String) (engine : Option Engine)
  | executeScheduledJobOnce (job scheduler owner : String) (lease : Nat)

inductive CoordinationOutcome where
  | decided (result : Except Unit Bool)
  | counted (result : Except Unit Nat)
  | assigned
  | executed

def coordinationCode : CoordinationCall → CoordinationProgram CoordinationOutcome
  | .acquireSchedulerOwner key owner lease => do pure (.decided (← acquireSchedulerOwner key owner lease))
  | .heartbeatSchedulerOwner key owner lease => do pure (.decided (← heartbeatSchedulerOwner key owner lease))
  | .releaseSchedulerOwner key owner => do pure (.decided (← releaseSchedulerOwner key owner))
  | .acquireAllSchedulerOwners owner lease => do pure (.decided (← acquireAllSchedulerOwners owner lease))
  | .heartbeatSchedulerOwners owner lease => do pure (.decided (← heartbeatSchedulerOwners owner lease))
  | .releaseSchedulerOwners owner => do pure (.counted (← releaseSchedulerOwners owner))
  | .assign key engine => do
      let _ ← perform (CoordinationOp.assign key engine)
      pure .assigned
  | .executeScheduledJobOnce job scheduler owner lease => do
      executeScheduledJobOnce job scheduler owner lease
      pure .executed

abbrev CoordinationTurn := Turn Tables CoordinationOp CoordinationOp.Reply CoordinationOutcome
abbrev CoordinationState := State Tables CoordinationOp CoordinationOp.Reply CoordinationOutcome

end PaladinsCat.Coordination
