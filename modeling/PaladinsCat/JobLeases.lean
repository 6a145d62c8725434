import PaladinsCat.SchedulerOwnership

/-!
Who runs a job. Its row counts the attempts, but the lease that a run is given, and by
which it releases the job in the end, has only the names: of the job, the scheduler and the
owner. A run that its own owner has overtaken therefore releases the job of the later run.
-/

namespace PaladinsCat.Coordination

open Interleaving

/-! ### Runs of a job -/

/-- The names under which an acquisition of a job is kept. -/
def CoordinationOp.asksJob : CoordinationOp → Option JobLease
  | .acquireJob job scheduler owner _ => some ⟨varchar 100 job, varchar 64 scheduler, varchar 120 owner⟩
  | _ => none

/-- An acquisition of the job that was carried out. -/
def takesJob (job : String) (turn : CoordinationTurn) : Bool :=
  decide (turn.op.asksJob.map (·.jobKey) = some job) && decide (turn.after.jobs job ≠ turn.before.jobs job)

def CoordinationOp.releasedLease : CoordinationOp → Option JobLease
  | .releaseJob lease => some lease
  | _ => none

/-- A release that has deleted the row of the job. -/
def freesJob (job : String) (turn : CoordinationTurn) : Bool :=
  decide (turn.op.releasedLease.map (·.jobKey) = some job) && (turn.before.jobs job).isSome && (turn.after.jobs job).isNone

/-- The run of the latest acquisition that was carried out. -/
def latestTaker (job : String) (history : List CoordinationTurn) : Option Nat :=
  history.foldl (fun latest turn => if takesJob job turn then some turn.task else latest) none

@[simp] theorem latestTaker_append {job : String} {history : List CoordinationTurn} {turn : CoordinationTurn} :
    latestTaker job (history ++ [turn]) = if takesJob job turn then some turn.task else latestTaker job history := by
  simp [latestTaker]

/-- The lease that a run has still to release. -/
def unreleased : CoordinationProgram CoordinationOutcome → Option JobLease
  | .call (.releaseJob lease) _ => some lease
  | _ => none

/-- No run that is named alike has still to release the job when this one acquires it. -/
def FindsReleased (turn : CoordinationTurn) : Prop :=
  ∀ program ∈ turn.programs, unreleased program ≠ turn.op.asksJob

/-- The row that is replaced, if there is one, has run out. -/
def FindsExpired (job : String) (turn : CoordinationTurn) : Prop :=
  ∀ row, turn.before.jobs job = some row → row.leaseUntil ≤ turn.after.clock

/-- The run has acquired the job until then, and has not released it. -/
def HoldsJob (job : String) (history : List CoordinationTurn) (state : CoordinationState) (task : Nat) (until_ : Int) : Prop :=
  (∃ program lease, state.programs[task]? = some program ∧ unreleased program = some lease ∧
    varchar 100 lease.jobKey = job) ∧
  ∃ turn ∈ history, turn.task = task ∧ takesJob job turn = true ∧ (turn.after.jobs job).map (·.leaseUntil) = some until_

/-! ### Stages -/

inductive JobPhase where
  | elsewhere
  | asking (lease : JobLease)
  | holding (lease : JobLease)
  | over_

def CoordinationOp.onJobs : CoordinationOp → Bool
  | .acquireJob _ _ _ _ | .releaseJob _ => true
  | _ => false

def jobNext : JobPhase → (op : CoordinationOp) → op.Reply → Option JobPhase
  | .elsewhere, op => fun _ => if op.onJobs then none else some .elsewhere
  | .asking lease, .acquireJob job scheduler owner _ => fun reply : Except Unit Bool =>
      if (⟨job, scheduler, owner⟩ : JobLease) = lease then
        some (if reply.toOption = some true then .holding lease else .over_)
      else none
  | .holding lease, .releaseJob other => fun _ => if other = lease then some .over_ else none
  | _, _ => fun _ => none

inductive JobMove : JobPhase → (op : CoordinationOp) → op.Reply → JobPhase → Prop where
  | elsewhere {op : CoordinationOp} (reply : op.Reply) (free : op.onJobs = false) : JobMove .elsewhere op reply .elsewhere
  | got (job scheduler owner : String) (seconds : Nat) :
      JobMove (.asking ⟨job, scheduler, owner⟩) (.acquireJob job scheduler owner seconds) (.ok true)
        (.holding ⟨job, scheduler, owner⟩)
  | missed (job scheduler owner : String) (seconds : Nat) (reply : Except Unit Bool) (without : reply ≠ .ok true) :
      JobMove (.asking ⟨job, scheduler, owner⟩) (.acquireJob job scheduler owner seconds) reply .over_
  | released (lease : JobLease) (reply : Except Unit Nat) : JobMove (.holding lease) (.releaseJob lease) reply .over_

theorem job_move {phase next : JobPhase} {op : CoordinationOp} {reply : op.Reply}
    (moved : jobNext phase op reply = some next) : JobMove phase op reply next := by
  cases phase with
  | elsewhere =>
      simp only [jobNext] at moved
      split_ifs at moved with free
      cases moved
      exact .elsewhere reply (Bool.not_eq_true _ ▸ free)
  | asking lease =>
      cases op with
      | acquireJob job scheduler owner seconds =>
          simp only [jobNext] at moved
          by_cases same : (⟨job, scheduler, owner⟩ : JobLease) = lease
          · subst same
            rw [if_pos rfl] at moved
            cases reply with
            | error _ =>
                cases moved
                exact .missed job scheduler owner seconds _ (by simp)
            | ok taken =>
                cases taken <;> cases moved
                · exact .missed job scheduler owner seconds _ (by simp)
                · exact .got job scheduler owner seconds
          · rw [if_neg same] at moved
            cases moved
      | _ => cases moved
  | holding lease =>
      cases op with
      | releaseJob other =>
          simp only [jobNext] at moved
          split_ifs at moved with same
          subst same
          cases moved
          exact .released _ reply
      | _ => cases moved
  | over_ => cases op <;> cases moved

def jobEnds : JobPhase → CoordinationOutcome → Prop
  | .elsewhere, _ | .over_, _ => True
  | _, _ => False

def jobFirst : CoordinationCall → JobPhase
  | .executeScheduledJobOnce job scheduler owner _ => .asking ⟨job, scheduler, owner⟩
  | _ => .elsewhere

theorem executeScheduledJobOnce_follows (job scheduler owner : String) (lease : Nat) :
    Follows jobNext jobEnds (.asking ⟨job, scheduler, owner⟩)
      (coordinationCode (.executeScheduledJobOnce job scheduler owner lease)) := by
  intro taken
  rcases taken with error | taken
  · exact ⟨.over_, by simp [jobNext, Except.toOption], trivial⟩
  · cases taken with
    | false => exact ⟨.over_, by simp [jobNext, Except.toOption], trivial⟩
    | true =>
        apply Exists.intro (.holding ⟨job, scheduler, owner⟩)
        apply And.intro (by simp [jobNext, Except.toOption])
        intro deleted
        exact ⟨.over_, by simp [jobNext], trivial⟩

theorem coordinationCode_follows (call : CoordinationCall) :
    Follows jobNext jobEnds (jobFirst call) (coordinationCode call) := by
  cases call with
  | executeScheduledJobOnce job scheduler owner lease => exact executeScheduledJobOnce_follows job scheduler owner lease
  | acquireSchedulerOwner key owner lease =>
      simp only [coordinationCode, acquireSchedulerOwner, jobFirst]
      split_ifs
      · trivial
      · exact fun reply => ⟨.elsewhere, rfl, trivial⟩
  | heartbeatSchedulerOwner key owner lease =>
      simp only [coordinationCode, heartbeatSchedulerOwner, jobFirst]
      split_ifs
      · trivial
      · exact fun reply => ⟨.elsewhere, rfl, trivial⟩
  | releaseSchedulerOwner key owner =>
      simp only [coordinationCode, releaseSchedulerOwner, jobFirst]
      split_ifs
      · trivial
      · exact fun reply => ⟨.elsewhere, rfl, trivial⟩
  | acquireAllSchedulerOwners | heartbeatSchedulerOwners | releaseSchedulerOwners | assign =>
      exact fun reply => ⟨.elsewhere, rfl, trivial⟩

theorem holding_unreleased {lease : JobLease} {program : CoordinationProgram CoordinationOutcome}
    (follows : Follows jobNext jobEnds (.holding lease) program) : unreleased program = some lease := by
  cases program with
  | done outcome => cases follows
  | call op rest =>
      obtain ⟨after, allowed, -⟩ := follows (.error ())
      cases op with
      | releaseJob other =>
          simp only [jobNext] at allowed
          split_ifs at allowed with same
          exact congrArg some same
      | _ => cases allowed

theorem unreleased_holding {phase : JobPhase} {lease : JobLease} {program : CoordinationProgram CoordinationOutcome}
    (follows : Follows jobNext jobEnds phase program) (waits : unreleased program = some lease) : phase = .holding lease := by
  cases program with
  | done outcome => cases waits
  | call op rest =>
      cases op with
      | releaseJob other =>
          obtain rfl : other = lease := Option.some.inj waits
          obtain ⟨after, allowed, -⟩ := follows (.error ())
          cases job_move allowed with
          | elsewhere _ free => cases free
          | released => rfl
      | _ => cases waits

/-! ### Steps -/

theorem varchar_length (limit : Nat) (text : String) : (varchar limit text).toList.length ≤ limit := by
  simp [varchar]

theorem varchar_short {limit : Nat} {text : String} (short : text.toList.length ≤ limit) : varchar limit text = text := by
  simp [varchar, List.take_of_length_le short]

/-- The keys of `worker_job_leases` fit into its column. -/
def KeysFit (tables : Tables) : Prop := ∀ job row, tables.jobs job = some row → job.toList.length ≤ 100

section Execute
variable {tables : Tables} {now : Int}

theorem acquireEach_jobs {owner : String} {seconds : Nat} {keys : List String} :
    (acquireEach now owner seconds tables keys).1.jobs = tables.jobs := by
  induction keys generalizing tables with
  | nil => rfl
  | cons first rest ih =>
      simp only [acquireEach]
      cases acquired tables now first owner seconds with
      | none => exact ih
      | some row => exact ih

theorem execute_jobs {op : CoordinationOp} (free : op.onJobs = false) : (execute tables now op).2.jobs = tables.jobs := by
  cases op with
  | acquire key owner seconds =>
      simp only [execute]
      cases acquired tables now key owner seconds <;> rfl
  | acquireAll owner seconds =>
      simp only [execute]
      split_ifs
      · rfl
      · exact acquireEach_jobs
  | heartbeat key owner seconds =>
      simp only [execute]
      cases beaten tables now key (varchar 120 owner) seconds <;> rfl
  | release key owner =>
      simp only [execute]
      split_ifs <;> rfl
  | heartbeatAll | releaseAll | assign => rfl
  | acquireJob | releaseJob => cases free

theorem acquiredJob_row {job scheduler owner : String} {seconds : Nat} {row : JobRow}
    (got : acquiredJob tables now job scheduler owner seconds = some row) :
    row.schedulerKey = varchar 64 scheduler ∧ row.ownerId = varchar 120 owner ∧
      tables.jobs (varchar 100 job) ≠ some row := by
  simp only [acquiredJob] at got
  split_ifs at got
  cases found : tables.jobs (varchar 100 job) with
  | none =>
      simp only [found] at got
      cases got
      exact ⟨rfl, rfl, by simp⟩
  | some held =>
      simp only [found] at got
      split_ifs at got
      cases got
      refine ⟨rfl, rfl, ?_⟩
      intro same
      have attempts := congrArg JobRow.attempt (Option.some.inj same)
      simp at attempts

end Execute

section Step
variable {before after : Tables} {op : CoordinationOp} {reply : op.Reply}

theorem jobs_kept (served : serve.handler before op reply after) (free : op.onJobs = false) : after.jobs = before.jobs := by
  obtain ⟨now, -, -, ⟨-, same⟩ | ⟨-, same⟩⟩ := serve_cases served
  · rw [same]
  · rw [same]
    exact execute_jobs free

/-- An acquisition puts a new row with its own names in place, or does nothing and does not succeed. -/
theorem acquireJob_cases {job scheduler owner : String} {seconds : Nat} {reply : Except Unit Bool}
    (served : serve.handler before (.acquireJob job scheduler owner seconds) reply after) :
    (∃ row : JobRow, after.jobs = Function.update before.jobs (varchar 100 job) (some row) ∧
      row.schedulerKey = varchar 64 scheduler ∧ row.ownerId = varchar 120 owner ∧ before.jobs (varchar 100 job) ≠ some row) ∨
    (after.jobs = before.jobs ∧ reply ≠ .ok true) := by
  obtain ⟨now, -, -, ⟨failed, same⟩ | ⟨answered, same⟩⟩ := serve_cases served
  · refine Or.inr ⟨by rw [same], ?_⟩
    rw [failed]
    simp
  · simp only [execute] at answered same
    cases got : acquiredJob before now job scheduler owner seconds with
    | none =>
        simp only [got] at answered same
        refine Or.inr ⟨by rw [same], ?_⟩
        rcases answered with rfl | rfl <;> simp
    | some row =>
        simp only [got] at same
        exact Or.inl ⟨row, by rw [same], acquiredJob_row got⟩

theorem releaseJob_cases {lease : JobLease} {reply : Except Unit Nat}
    (served : serve.handler before (.releaseJob lease) reply after) :
    after.jobs = before.jobs ∨
      after.jobs = Function.update before.jobs lease.jobKey none ∧
        ∃ row, before.jobs lease.jobKey = some row ∧ row.schedulerKey = lease.schedulerKey ∧ row.ownerId = lease.ownerId := by
  obtain ⟨now, -, -, ⟨failed, same⟩ | ⟨answered, same⟩⟩ := serve_cases served
  · exact Or.inl (by rw [same])
  · simp only [execute] at answered same
    split_ifs at same with matches_
    · obtain ⟨row, stored, names⟩ := (Option.any_eq_true _ _).mp matches_
      simp only [decide_eq_true_eq] at names
      exact Or.inr ⟨by rw [same], row, stored, names⟩
    · exact Or.inl (by rw [same])

theorem KeysFit.step (fits : KeysFit before) (served : serve.handler before op reply after) : KeysFit after := by
  intro job row stored
  by_cases free : op.onJobs = false
  · exact fits job row (jobs_kept served free ▸ stored)
  · cases op with
    | acquireJob name scheduler owner seconds =>
        rcases acquireJob_cases served with ⟨fresh, same, -⟩ | ⟨same, -⟩
        · rw [same] at stored
          by_cases here : job = varchar 100 name
          · rw [here]
            exact varchar_length 100 name
          · exact fits job row (by simpa [Function.update_of_ne here] using stored)
        · exact fits job row (same ▸ stored)
    | releaseJob lease =>
        rcases releaseJob_cases served with same | ⟨same, -⟩
        · exact fits job row (same ▸ stored)
        · rw [same] at stored
          by_cases here : job = lease.jobKey
          · simp [here] at stored
          · exact fits job row (by simpa [Function.update_of_ne here] using stored)
    | _ => exact absurd rfl free

end Step

/-! ### Whole runs -/

theorem lookup_set {A : Type} {list : List A} {index other : Nat} {new found : A}
    (listed : (list.set index new)[other]? = some found) :
    other = index ∧ found = new ∨ other ≠ index ∧ list[other]? = some found := by
  by_cases same : index = other
  · subst same
    have inside : index < list.length := by
      simpa using (List.getElem?_eq_some_iff.mp listed).1
    exact Or.inl ⟨rfl, by simpa [List.getElem?_set, inside, eq_comm] using listed⟩
  · exact Or.inr ⟨Ne.symm same, by simpa [List.getElem?_set, same] using listed⟩

/-- A row that a run could still release is its own. -/
structure JobRuns (job : String) (history : List CoordinationTurn) (shared : Tables) (phases : List JobPhase) : Prop where
  listed : ∀ turn ∈ history, turn.task < phases.length
  fresh : ∀ task lease, phases[task]? = some (.asking lease) → ∀ turn ∈ history, turn.task ≠ task
  fits : KeysFit shared
  own : ∀ task lease row, phases[task]? = some (.holding lease) → lease.jobKey = job → shared.jobs job = some row →
    row.schedulerKey = lease.schedulerKey → row.ownerId = lease.ownerId → latestTaker job history = some task
  frees : Throughout (fun earlier turn => freesJob job turn = true → latestTaker job earlier = some turn.task) history

/-- While it has not run out, the row of a run stays in place. -/
def StaysCurrent (job : String) (history : List CoordinationTurn) (shared : Tables) (phases : List JobPhase) : Prop :=
  ∀ task lease, phases[task]? = some (.holding lease) → varchar 100 lease.jobKey = job →
    ∀ turn ∈ history, turn.task = task → takesJob job turn = true → ∀ row, turn.after.jobs job = some row →
      shared.clock < row.leaseUntil → shared.jobs job = some row ∧ latestTaker job history = some task

section Runs
variable {job : String} {history : List CoordinationTurn} {turn : CoordinationTurn} {phases : List JobPhase} {phase next : JobPhase}

theorem takesJob_asks (taken : takesJob job turn = true) :
    ∃ name scheduler owner seconds, turn.op = .acquireJob name scheduler owner seconds ∧ varchar 100 name = job := by
  simp only [takesJob, Bool.and_eq_true, decide_eq_true_eq] at taken
  cases asked : turn.op with
  | acquireJob name scheduler owner seconds =>
      rw [asked] at taken
      exact ⟨name, scheduler, owner, seconds, rfl, Option.some.inj taken.1⟩
  | _ =>
      rw [asked] at taken
      cases taken.1

theorem takesJob_kept (same : turn.after.jobs job = turn.before.jobs job) : takesJob job turn = false := by
  simp [takesJob, same]

theorem taken_row (served : serve.handler turn.before turn.op turn.reply turn.after) (taken : takesJob job turn = true) :
    ∃ row, turn.after.jobs job = some row ∧ turn.op.asksJob = some ⟨job, row.schedulerKey, row.ownerId⟩ := by
  obtain ⟨⟨before, op, reply, after⟩, task, programs⟩ := turn
  obtain ⟨name, scheduler, owner, seconds, rfl, rfl⟩ := takesJob_asks taken
  dsimp only at *
  rcases acquireJob_cases served with ⟨row, same, names, owned, -⟩ | ⟨same, -⟩
  · exact ⟨row, by simp [same], by simp [CoordinationOp.asksJob, names, owned]⟩
  · simp [takesJob, same] at taken

/-- A turn that does not take the job either leaves its row alone or deletes it for the run whose names it has. -/
theorem untaken_cases (served : serve.handler turn.before turn.op turn.reply turn.after)
    (untaken : takesJob job turn = false) :
    turn.after.jobs job = turn.before.jobs job ∨
      turn.after.jobs job = none ∧ ∃ lease row, turn.op = .releaseJob lease ∧ lease.jobKey = job ∧
        turn.before.jobs job = some row ∧ row.schedulerKey = lease.schedulerKey ∧ row.ownerId = lease.ownerId := by
  obtain ⟨⟨before, op, reply, after⟩, task, programs⟩ := turn
  dsimp only at *
  by_cases free : op.onJobs = false
  · exact Or.inl (by rw [jobs_kept served free])
  · cases op with
    | acquireJob name scheduler owner seconds =>
        rcases acquireJob_cases served with ⟨row, same, -, -, new⟩ | ⟨same, -⟩
        · by_cases here : varchar 100 name = job
          · subst here
            simp [takesJob, CoordinationOp.asksJob, same, new.symm] at untaken
          · exact Or.inl (by rw [same, Function.update_of_ne (Ne.symm here)])
        · exact Or.inl (by rw [same])
    | releaseJob lease =>
        rcases releaseJob_cases served with same | ⟨same, row, stored, names⟩
        · exact Or.inl (by rw [same])
        · by_cases here : lease.jobKey = job
          · subst here
            exact Or.inr ⟨by simp [same], lease, row, rfl, rfl, stored, names⟩
          · exact Or.inl (by rw [same, Function.update_of_ne (Ne.symm here)])
    | _ => exact absurd rfl free

theorem not_asking {op : CoordinationOp} {reply : op.Reply} {lease : JobLease} (moved : JobMove phase op reply next) :
    next ≠ .asking lease := by
  cases moved <;> simp

theorem releases_own {op : CoordinationOp} {reply : op.Reply} {lease : JobLease} (moved : JobMove phase op reply next)
    (releases : op = .releaseJob lease) : phase = .holding lease := by
  cases moved with
  | elsewhere reply free =>
      rw [releases] at free
      cases free
  | got | missed => cases releases
  | released =>
      cases releases
      rfl

/-- A run that gets to hold a lease has just taken the job. -/
theorem holding_took {lease : JobLease} (moved : JobMove phase turn.op turn.reply next)
    (served : serve.handler turn.before turn.op turn.reply turn.after) (held : next = .holding lease) :
    phase = .asking lease ∧ (varchar 100 lease.jobKey = job → takesJob job turn = true) := by
  obtain ⟨⟨before, op, reply, after⟩, task, programs⟩ := turn
  dsimp only at *
  cases moved with
  | got name scheduler owner seconds =>
      cases held
      apply And.intro rfl
      rintro rfl
      rcases acquireJob_cases served with ⟨row, same, -, -, new⟩ | ⟨-, failed⟩
      · simp [takesJob, CoordinationOp.asksJob, same, new.symm]
      · exact absurd rfl failed
  | _ => cases held

theorem JobRuns.step (runs : JobRuns job history turn.before phases)
    (follow : List.Forall₂ (Follows jobNext jobEnds) phases turn.programs) (here : phases[turn.task]? = some phase)
    (moved : JobMove phase turn.op turn.reply next) (served : serve.handler turn.before turn.op turn.reply turn.after)
    (single : takesJob job turn = true → FindsReleased turn) :
    JobRuns job (history ++ [turn]) turn.after (phases.set turn.task next) := by
  have inside := (List.getElem?_eq_some_iff.mp here).1
  refine ⟨?_, ?_, runs.fits.step served, ?_, ?_⟩
  · intro other member
    rw [List.length_set]
    rcases List.mem_append.mp member with before | last
    · exact runs.listed other before
    · rw [List.mem_singleton.mp last]
      exact inside
  · intro task lease found other member
    rcases lookup_set found with ⟨rfl, same⟩ | ⟨apart, before⟩
    · exact absurd same.symm (not_asking moved)
    · rcases List.mem_append.mp member with earlier | last
      · exact runs.fresh task lease before other earlier
      · rw [List.mem_singleton.mp last]
        exact Ne.symm apart
  · intro task lease row found named stored scheduler owner
    have fits : varchar 100 job = job := varchar_short (runs.fits.step served job row stored)
    rw [latestTaker_append]
    rcases lookup_set found with ⟨rfl, same⟩ | ⟨apart, before⟩
    · rw [(holding_took moved served same.symm).2 (named ▸ fits), if_pos rfl]
    · cases taken : takesJob job turn with
      | false =>
          rw [if_neg Bool.false_ne_true]
          rcases untaken_cases served taken with kept | ⟨gone, -⟩
          · exact runs.own task lease row before named (kept ▸ stored) scheduler owner
          · cases gone.symm.trans stored
      | true =>
          -- the other run is named like this one, and has not released the job yet
          obtain ⟨program, waiting, follows⟩ := forall₂_getElem?_left follow before
          refine absurd ?_ (single taken program (List.mem_of_getElem? waiting))
          obtain ⟨fresh, new, asked⟩ := taken_row served taken
          cases stored.symm.trans new
          rw [holding_unreleased follows, asked, ← named, scheduler, owner]
  · rw [throughout_append]
    refine ⟨runs.frees, ?_⟩
    intro freed
    simp only [freesJob, Bool.and_eq_true, decide_eq_true_eq, Option.isNone_iff_eq_none] at freed
    obtain ⟨⟨releases, was⟩, gone⟩ := freed
    have untaken : takesJob job turn = false := by
      cases taken : takesJob job turn with
      | false => rfl
      | true =>
          obtain ⟨name, scheduler, owner, seconds, asked, -⟩ := takesJob_asks taken
          rw [asked] at releases
          cases releases
    rcases untaken_cases served untaken with kept | ⟨-, lease, row, asked, named, stored, scheduler, owner⟩
    · rw [← kept, gone] at was
      cases was
    · rw [releases_own moved asked] at here
      exact runs.own turn.task lease row here named stored scheduler owner

/-- With runs that replace only what has run out, too. -/
theorem StaysCurrent.step (current : StaysCurrent job history turn.before phases) (runs : JobRuns job history turn.before phases)
    (here : phases[turn.task]? = some phase)
    (moved : JobMove phase turn.op turn.reply next) (served : serve.handler turn.before turn.op turn.reply turn.after)
    (expired : takesJob job turn = true → FindsExpired job turn) :
    StaysCurrent job (history ++ [turn]) turn.after (phases.set turn.task next) := by
  intro task lease found named other member mine took row stored running
  rw [latestTaker_append]
  rcases lookup_set found with ⟨rfl, same⟩ | ⟨apart, before⟩
  · obtain ⟨asking, (takes : varchar 100 lease.jobKey = job → takesJob job turn = true)⟩ := holding_took moved served same.symm
    rcases List.mem_append.mp member with earlier | last
    · exact absurd mine (runs.fresh turn.task lease (asking ▸ here) other earlier)
    · rw [List.mem_singleton.mp last] at stored
      exact ⟨stored, if_pos (takes named)⟩
  · have earlier : other ∈ history := by
      rcases List.mem_append.mp member with earlier | last
      · exact earlier
      · rw [List.mem_singleton.mp last] at mine
        exact absurd mine.symm apart
    obtain ⟨whole, latest⟩ := current task lease before named other earlier mine took row stored
      ((clock_forward served).trans_lt running)
    cases taken : takesJob job turn with
    | true => exact absurd (expired taken row whole) (not_le.mpr running)
    | false =>
        rw [if_neg Bool.false_ne_true]
        rcases untaken_cases served taken with kept | ⟨-, own, held, asked, its, there, scheduler, owner⟩
        · exact ⟨kept.trans whole, latest⟩
        · rw [releases_own moved asked] at here
          have latest' := runs.own turn.task own held here its there scheduler owner
          exact absurd (Option.some.inj (latest.symm.trans latest')) apart

end Runs

section Claims
variable {start : Tables} {history : List CoordinationTurn} {state : CoordinationState}

theorem jobs_tracked {job : String} (fits : KeysFit start)
    (run : Run serve.handler coordinationCode ⟨start, []⟩ history state)
    (single : ∀ turn ∈ history, takesJob job turn = true → FindsReleased turn) :
    ∃ phases, List.Forall₂ (Follows jobNext jobEnds) phases state.programs ∧ JobRuns job history state.shared phases ∧
      ((∀ turn ∈ history, takesJob job turn = true → FindsExpired job turn) →
        StaysCurrent job history state.shared phases) := by
  have tracked := run_phases jobFirst coordinationCode_follows
    (fun history shared phases => (∀ turn ∈ history, takesJob job turn = true → FindsReleased turn) →
      JobRuns job history shared phases ∧
        ((∀ turn ∈ history, takesJob job turn = true → FindsExpired job turn) → StaysCurrent job history shared phases))
    (fun _ => ⟨⟨by simp, by simp, fits, by simp, throughout_nil⟩, fun _ => by simp [StaysCurrent]⟩) rfl
    (by
      intro history shared phases call tracked single
      obtain ⟨runs, current⟩ := tracked single
      have held : ∀ {task : Nat} {lease : JobLease}, (phases ++ [jobFirst call])[task]? = some (JobPhase.holding lease) →
          phases[task]? = some (JobPhase.holding lease) := by
        intro task lease found
        rcases getElem?_append_singleton found with before | new
        · exact before
        · cases call <;> cases new
      refine ⟨⟨?_, ?_, runs.fits, fun task lease row found => runs.own task lease row (held found), runs.frees⟩,
        fun expired task lease found => current expired task lease (held found)⟩
      · intro turn member
        rw [List.length_append]
        exact (runs.listed turn member).trans_le (Nat.le_add_right _ _)
      · intro task lease found turn member
        have small := runs.listed turn member
        by_cases inside : task < phases.length
        · rw [List.getElem?_append_left inside] at found
          exact runs.fresh task lease found turn member
        · omega)
    (by
      intro history phases phase next turn tracked follow found moved served single
      obtain ⟨runs, current⟩ := tracked fun other member => single other (List.mem_append_left _ member)
      refine ⟨runs.step follow found (job_move moved) served (single turn (by simp)), fun expired => ?_⟩
      exact (current fun other member => expired other (List.mem_append_left _ member)).step runs found (job_move moved)
        served (expired turn (by simp)))
    run
  obtain ⟨phases, follow, tracked⟩ := tracked
  exact ⟨phases, follow, tracked single⟩

/-- Where no run acquires the job while an earlier one that is named alike has still to release it, a release
deletes the row only if its own run was the last to acquire the job. If besides no acquisition replaces a row
that has not run out, there is at most one run with an unexpired lease. -/
theorem finished_run_frees_its_own_lease (job : String) (fits : KeysFit start)
    (run : Run serve.handler coordinationCode ⟨start, []⟩ history state)
    (single : ∀ turn ∈ history, takesJob job turn = true → FindsReleased turn) :
    Throughout (fun earlier turn => freesJob job turn = true → latestTaker job earlier = some turn.task) history ∧
    ((∀ turn ∈ history, takesJob job turn = true → FindsExpired job turn) →
      ∀ first second end₁ end₂, HoldsJob job history state first end₁ → HoldsJob job history state second end₂ →
        state.shared.clock < end₁ → state.shared.clock < end₂ → first = second) := by
  obtain ⟨phases, follow, runs, current⟩ := jobs_tracked fits run single
  refine ⟨runs.frees, ?_⟩
  intro expired first second end₁ end₂ one other running₁ running₂
  have latest : ∀ {task end_}, HoldsJob job history state task end_ → state.shared.clock < end_ →
      latestTaker job history = some task := by
    rintro task end_ ⟨⟨program, lease, found, waits, named⟩, turn, member, mine, took, ends⟩ running
    obtain ⟨phase, stage, follows⟩ := forall₂_getElem? follow found
    rw [unreleased_holding follows waits] at stage
    obtain ⟨row, stored, same⟩ := Option.map_eq_some_iff.mp ends
    exact (current expired task lease stage named turn member mine took row stored (same ▸ running)).2
  exact Option.some.inj ((latest one running₁).symm.trans (latest other running₂))

end Claims

/-! ### Runs of one owner -/

def heldEnd (job : String) (history : List CoordinationTurn) (state : CoordinationState) (task : Nat) : Option Int :=
  if ((state.programs[task]?).bind unreleased).any fun lease => varchar 100 lease.jobKey = job then
    ((history.find? fun turn => decide (turn.task = task) && takesJob job turn).bind fun turn => turn.after.jobs job).map
      (·.leaseUntil)
  else none

theorem holds_of_heldEnd {job : String} {history : List CoordinationTurn} {state : CoordinationState} {task : Nat} {end_ : Int}
    (held : heldEnd job history state task = some end_) : HoldsJob job history state task end_ := by
  simp only [heldEnd, Option.any_eq_true, Option.bind_eq_some_iff, decide_eq_true_eq, Option.ite_none_right_eq_some,
    Option.map_eq_some_iff] at held
  obtain ⟨⟨lease, ⟨program, found, waits⟩, named⟩, row, ⟨turn, first, stored⟩, same⟩ := held
  have fits := List.find?_some first
  simp only [Bool.and_eq_true, decide_eq_true_eq] at fits
  exact ⟨⟨program, lease, found, waits, named⟩, turn, List.mem_of_find?_eq_some first, fits.1, fits.2, by simp [stored, same]⟩

/-- The hourly lease of a job, and a second of the clock. -/
def jobLease : Nat := 3600000000000

def atSecond (second : Int) : Outside := { clock := second * 1000000, now := second * 1000000 }

instance (turn : CoordinationTurn) : Decidable (FindsReleased turn) :=
  inferInstanceAs (Decidable (∀ program ∈ turn.programs, unreleased program ≠ turn.op.asksJob))

theorem findsExpired_of {job : String} {turn : CoordinationTurn}
    (tested : (turn.before.jobs job).all (fun row => decide (row.leaseUntil ≤ turn.after.clock)) = true) :
    FindsExpired job turn := by
  intro row stored
  simpa [stored] using tested

/-- The same owner runs the job twice, and has released it in between. -/
theorem released_before_the_next_run :
    ∃ history state, Run serve.handler coordinationCode ⟨rustAssigned, []⟩ history state ∧ history.length = 4 ∧
      Throughout (fun earlier turn => freesJob "stats" turn = true → latestTaker "stats" earlier = some turn.task) history ∧
      ∀ first second end₁ end₂, HoldsJob "stats" history state first end₁ → HoldsJob "stats" history state second end₂ →
        state.shared.clock < end₁ → state.shared.clock < end₂ → first = second := by
  have passed : (replay serve coordinationCode ⟨rustAssigned, []⟩
      [.enter (.acquireSchedulerOwner "tier_stats" "a" (3 * jobLease)), .turn 0 {},
        .enter (.executeScheduledJobOnce "stats" "tier_stats" "a" jobLease), .turn 1 {}, .turn 1 (atSecond 100),
        .enter (.executeScheduledJobOnce "stats" "tier_stats" "a" jobLease), .turn 2 (atSecond 200)]).any
      (fun reached => decide (reached.1.length = 4) && reached.1.all fun turn =>
        !takesJob "stats" turn || decide (FindsReleased turn) &&
          (turn.before.jobs "stats").all fun row => decide (row.leaseUntil ≤ turn.after.clock)) = true := by
    decide +kernel
  obtain ⟨history, state, run, tested⟩ := replay_reaches passed
  obtain ⟨length, steps⟩ := Bool.and_eq_true_iff.mp tested
  have meets : ∀ turn ∈ history, takesJob "stats" turn = true → FindsReleased turn ∧ FindsExpired "stats" turn := by
    intro turn member taken
    have step := List.all_eq_true.mp steps turn member
    simp only [taken, Bool.not_true, Bool.false_or, Bool.and_eq_true, decide_eq_true_eq] at step
    exact ⟨step.1, findsExpired_of step.2⟩
  have ends := finished_run_frees_its_own_lease "stats" (by simp [KeysFit, rustAssigned]) run
    fun turn member taken => (meets turn member taken).1
  exact ⟨history, state, run, of_decide_eq_true length, ends.1, ends.2 fun turn member taken => (meets turn member taken).2⟩

/-- The first run takes longer than its lease: it releases the job of the second, and the third starts while the
second is at work. -/
theorem overrun_frees_the_next_run :
    ∃ history state, Run serve.handler coordinationCode ⟨rustAssigned, []⟩ history state ∧
      ¬ Throughout (fun earlier turn => freesJob "stats" turn = true → latestTaker "stats" earlier = some turn.task) history ∧
      ∃ end₁ end₂, HoldsJob "stats" history state 2 end₁ ∧ HoldsJob "stats" history state 3 end₂ ∧
        state.shared.clock < end₁ ∧ state.shared.clock < end₂ := by
  have passed : (replay serve coordinationCode ⟨rustAssigned, []⟩
      [.enter (.acquireSchedulerOwner "tier_stats" "a" (3 * jobLease)), .turn 0 {},
        .enter (.executeScheduledJobOnce "stats" "tier_stats" "a" jobLease), .turn 1 {},
        .enter (.executeScheduledJobOnce "stats" "tier_stats" "a" jobLease), .turn 2 (atSecond 3600), .turn 1 (atSecond 3700),
        .enter (.executeScheduledJobOnce "stats" "tier_stats" "a" jobLease), .turn 3 (atSecond 3701)]).any
      (fun reached => decide (¬ Throughout (fun earlier turn => freesJob "stats" turn = true →
          latestTaker "stats" earlier = some turn.task) reached.1) &&
        (heldEnd "stats" reached.1 reached.2 2).any (fun end_ => decide (reached.2.shared.clock < end_)) &&
        (heldEnd "stats" reached.1 reached.2 3).any fun end_ => decide (reached.2.shared.clock < end_)) = true := by
    decide +kernel
  obtain ⟨history, state, run, tested⟩ := replay_reaches passed
  simp only [Bool.and_eq_true, Option.any_eq_true, decide_eq_true_eq] at tested
  obtain ⟨⟨freed, end₁, one, running₁⟩, end₂, other, running₂⟩ := tested
  exact ⟨history, state, run, freed, end₁, end₂, holds_of_heldEnd one, holds_of_heldEnd other, running₁, running₂⟩

end PaladinsCat.Coordination
