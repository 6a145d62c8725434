import PaladinsCat.HourPrograms
import PaladinsCat.HourSteps

/-!
Who works on a queue-hour. Its row has a lease but no owner, so that the statements
which refresh the lease, close the hour or mark it as failed cannot ask whose it is.
A worker that keeps to its own lease is the one that has claimed the hour last, as long
as the others keep to theirs; one that comes later is let through all the same.
-/

namespace PaladinsCat.Backend

open Interleaving

variable {Call α : Type} {code : Call → HourProgram α}

/-- A statement that extends the lease of the hour, closes it or marks it as failed. -/
def HourOp.manages (key : HourKey) : HourOp → Bool
  | .refreshLease other | .markEmpty other | .markComplete other _ | .markFailed other _ _ _ => other = key
  | _ => false

def HourOp.claimsHour (key : HourKey) : HourOp → Bool
  | .claimHour other _ => other = key
  | _ => false

def ledgerView (store : HourStore) (key : HourKey) : Option (HourStatus × Option Int) :=
  (store.hours key).map fun row => (row.status, row.leaseUntil)

/-- The step changes the status or the lease of the hour. -/
def Changes (key : HourKey) (turn : Turn HourStore HourOp HourOp.Reply α) : Prop :=
  ledgerView turn.after key ≠ ledgerView turn.before key

/-- The step is a claim of the hour that was carried out. -/
def takesHour (key : HourKey) (turn : Turn HourStore HourOp HourOp.Reply α) : Bool :=
  turn.op.claimsHour key && (turn.after.hours key).map (·.attempts) != (turn.before.hours key).map (·.attempts)

/-- The worker of the latest successful claim. -/
def latestClaimer (key : HourKey) (history : List (Turn HourStore HourOp HourOp.Reply α)) : Option Nat :=
  history.foldl (fun latest turn => if takesHour key turn then some turn.task else latest) none

/-! ### The lease, as its worker knows it -/

/-- How long a worker may take its lease for running: from its claim on and from each refresh in time,
until it closes the hour or marks it as failed. -/
def leaseAfter (key : HourKey) (now : Int) (lease : Option Int) : (op : HourOp) → op.Reply → Option Int
  | .claimHour other _ => fun reply : Except PipelineError Bool =>
      match reply with
      | .ok owned => if other = key ∧ owned = true then some (now + fetchLease) else lease
      | .error _ => lease
  | .refreshLease other => fun reply : Except PipelineError Unit =>
      if other = key then
        (lease.filter fun deadline => decide (now < deadline)).map fun deadline =>
          match reply with
          | .ok _ => now + fetchLease
          | .error _ => deadline
      else lease
  | .markEmpty other | .markComplete other _ | .markFailed other _ _ _ => fun _ => if other = key then none else lease
  | _ => fun _ => lease

def leaseOf (key : HourKey) (task : Nat) (history : List (Turn HourStore HourOp HourOp.Reply α)) : Option Int :=
  history.foldl (fun lease turn =>
    if turn.task = task then leaseAfter key turn.after.clock lease turn.op turn.reply else lease) none

/-- The worker's lease is running at this step. -/
def InTime (key : HourKey) (earlier : List (Turn HourStore HourOp HourOp.Reply α))
    (turn : Turn HourStore HourOp HourOp.Reply α) : Prop :=
  ∃ deadline, leaseOf key turn.task earlier = some deadline ∧ turn.after.clock < deadline

/-- How a worker comes to a lease until `deadline`. -/
inductive LeaseMove (key : HourKey) (now : Int) (lease : Option Int) (deadline : Int) : (op : HourOp) → op.Reply → Prop where
  | taken {source : String} (fresh : deadline = now + fetchLease) : LeaseMove key now lease deadline (.claimHour key source) (.ok true)
  | refreshed {old : Int} (leased : lease = some old) (running : now < old) (fresh : deadline = now + fetchLease) :
      LeaseMove key now lease deadline (.refreshLease key) (.ok ())
  | tried {error : PipelineError} (leased : lease = some deadline) (running : now < deadline) :
      LeaseMove key now lease deadline (.refreshLease key) (.error error)
  | kept {op : HourOp} {reply : op.Reply} (foreign : op.manages key = false) (leased : lease = some deadline) :
      LeaseMove key now lease deadline op reply

theorem lease_move {key : HourKey} {now : Int} {lease : Option Int} {deadline : Int} {op : HourOp} {reply : op.Reply}
    (leased : leaseAfter key now lease op reply = some deadline) : LeaseMove key now lease deadline op reply := by
  cases op with
  | claimHour target source =>
      rcases reply with error | owned
      · exact .kept rfl leased
      · simp only [leaseAfter] at leased
        split_ifs at leased with taken
        · obtain ⟨rfl, rfl⟩ := taken
          exact .taken (Option.some.inj leased).symm
        · exact .kept rfl leased
  | refreshLease target =>
      simp only [leaseAfter] at leased
      split_ifs at leased with same
      · subst same
        simp only [Option.map_eq_some_iff, Option.filter_eq_some_iff, decide_eq_true_eq] at leased
        obtain ⟨old, ⟨before, running⟩, fresh⟩ := leased
        rcases reply with error | _
        · obtain rfl : old = deadline := fresh
          exact .tried before running
        · exact .refreshed before running fresh.symm
      · exact .kept (by simp [HourOp.manages, same]) leased
  | markEmpty target | markComplete target _ | markFailed target _ _ _ =>
      simp only [leaseAfter] at leased
      split_ifs at leased with same
      exact .kept (by simp [HourOp.manages, same]) leased
  | _ => exact .kept rfl leased

instance (key : HourKey) (turn : Turn HourStore HourOp HourOp.Reply α) : Decidable (Changes key turn) :=
  inferInstanceAs (Decidable (ledgerView turn.after key ≠ ledgerView turn.before key))

section Append
variable {key : HourKey} {history : List (Turn HourStore HourOp HourOp.Reply α)}
  {turn : Turn HourStore HourOp HourOp.Reply α}

@[simp] theorem latestClaimer_append :
    latestClaimer key (history ++ [turn]) =
      if takesHour key turn then some turn.task else latestClaimer key history := by
  simp [latestClaimer]

@[simp] theorem leaseOf_append {task : Nat} :
    leaseOf key task (history ++ [turn]) =
      if turn.task = task then leaseAfter key turn.after.clock (leaseOf key task history) turn.op turn.reply
      else leaseOf key task history := by
  simp [leaseOf]

end Append

/-! ### One step under a running lease -/

/-- The row of an hour that is being worked on, with a lease until then or longer. -/
def HeldUntil (deadline : Int) (row : Option HourlyIngestState) : Prop :=
  ∃ state, row = some state ∧ state.status = .fetching ∧ ∃ end_, state.leaseUntil = some end_ ∧ deadline ≤ end_

theorem claimedHour_refused {now deadline : Int} {source : String} {reopenable : Bool} {row : Option HourlyIngestState}
    (held : HeldUntil deadline row) (running : now < deadline) : claimedHour now source reopenable row = none := by
  obtain ⟨state, rfl, working, end_, leased, later⟩ := held
  have late : ¬ end_ ≤ now := by omega
  simp [claimedHour, working, leased, late]

section Taken
variable {now : Int} {source : String} {reopenable : Bool} {row : Option HourlyIngestState} {state : HourlyIngestState}

theorem claimedHour_held (taken : claimedHour now source reopenable row = some state) :
    HeldUntil (now + fetchLease) (some state) := by
  cases row with
  | none =>
      cases taken
      exact ⟨_, rfl, rfl, _, rfl, le_rfl⟩
  | some old =>
      simp only [claimedHour] at taken
      split at taken
      · cases taken
        exact ⟨_, rfl, rfl, _, rfl, le_rfl⟩
      · cases taken

theorem claimedHour_attempts (taken : claimedHour now source reopenable row = some state) :
    row.map (·.attempts) ≠ some state.attempts := by
  cases row with
  | none => simp
  | some old =>
      simp only [claimedHour] at taken
      split at taken
      · cases taken
        simp
      · cases taken

end Taken

section Step
variable {now deadline : Int} {key : HourKey} {op : HourOp} {before after : Option HourlyIngestState}

/-- Nobody takes an hour with a running lease; besides its managing statements, nothing changes its
status or lease. -/
theorem HourRowStep.held (step : HourRowStep now key op before after) (held : HeldUntil deadline before)
    (running : now < deadline) (foreign : op.manages key = false) :
    HeldUntil deadline after ∧ after.map (·.attempts) = before.map (·.attempts) := by
  cases step with
  | kept => exact ⟨held, rfl⟩
  | claimed taken =>
      rw [claimedHour_refused held running] at taken
      cases taken
  | @granted state working free =>
      obtain ⟨_, same, rest⟩ := held
      cases same
      exact ⟨⟨_, rfl, rest⟩, rfl⟩
  | @recorded state observations working =>
      obtain ⟨_, same, rest⟩ := held
      cases same
      exact ⟨⟨_, rfl, rest⟩, rfl⟩
  | refreshed | emptied | completed | failed => simp [HourOp.manages] at foreign

/-- A refresh in time, carried out or not. -/
theorem HourRowStep.refresh (step : HourRowStep now key (.refreshLease key) before after)
    (held : HeldUntil deadline before) (soon : deadline ≤ now + fetchLease) : HeldUntil deadline after := by
  cases step with
  | kept => exact held
  | refreshed working => exact ⟨_, rfl, working, _, rfl, soon⟩

end Step

theorem heldUntil_view {deadline : Int} {before after : HourStore} {key : HourKey}
    (held : HeldUntil deadline (before.hours key)) (same : ledgerView after key = ledgerView before key) :
    HeldUntil deadline (after.hours key) := by
  obtain ⟨state, stored, working, end_, leased, later⟩ := held
  simp only [ledgerView, stored, Option.map_some, Option.map_eq_some_iff, Prod.mk.injEq] at same
  obtain ⟨now, found, status, lease⟩ := same
  exact ⟨now, found, status.trans working, end_, lease.trans leased, later⟩

/-! ### What a managing statement does -/

/-- The status and the lease that a managing statement leaves in a row. -/
def HourOp.leaves (now : Int) (row : HourlyIngestState) : HourOp → HourStatus × Option Int
  | .refreshLease _ =>
      if row.status = .fetching then (.fetching, some (now + fetchLease)) else (row.status, row.leaseUntil)
  | .markEmpty _ => (.empty, none)
  | .markComplete _ _ => (.complete, none)
  | .markFailed _ _ _ _ => (.failed, none)
  | _ => (row.status, row.leaseUntil)

/-- The statement finds no row, or one with nothing to change. -/
def Idle (key : HourKey) (turn : Turn HourStore HourOp HourOp.Reply α) : Prop :=
  ∀ row, turn.before.hours key = some row → turn.op.leaves turn.after.clock row = (row.status, row.leaseUntil)

section Managing
variable {outside : HourOutside} {before after : HourStore} {key : HourKey} {op : HourOp}

theorem effect_leaves {result : op.Result} (manages : op.manages key = true)
    (effected : hourEffect outside before op = .ok (result, after)) :
    ledgerView after key = (before.hours key).map fun row => op.leaves outside.now row := by
  cases op with
  | refreshLease target =>
      obtain rfl : target = key := by simpa [HourOp.manages] using manages
      cases effected
      simp only [ledgerView, refreshHourlyIngestLease, updateHour_hours, if_true]
      cases stored : before.hours target with
      | none => rfl
      | some row => by_cases working : row.status = .fetching <;> simp [HourOp.leaves, working]
  | markEmpty target | markComplete target _ | markFailed target _ _ _ =>
      obtain rfl : target = key := by simpa [HourOp.manages] using manages
      cases effected
      simp only [ledgerView, markHourlyIngestEmpty, markHourlyIngestComplete, markHourlyIngestFailed,
        updateHour_hours, if_true]
      cases before.hours target <;> rfl
  | _ => cases manages

theorem managed_view {reply : op.Reply} (served : hourServe.handler before op reply after)
    (manages : op.manages key = true) :
    ledgerView after key = ledgerView before key ∨
      ledgerView after key = (before.hours key).map fun row => op.leaves after.clock row := by
  obtain ⟨outside, -, found, rfl, ⟨rfl, -⟩ | ⟨result, effected, -⟩⟩ := hour_served served
  · exact Or.inl rfl
  · have now : after.clock = outside.now := hourEffect_clock effected
    have left := effect_leaves manages effected
    rw [← now] at left
    exact Or.inr left

end Managing

section Turn
variable {key : HourKey} {turn : Turn HourStore HourOp HourOp.Reply α}

theorem idle_unchanged (served : hourServe.handler turn.before turn.op turn.reply turn.after)
    (manages : turn.op.manages key = true) (idle : Idle key turn) : ¬ Changes key turn := by
  rw [Changes, not_not]
  rcases managed_view served manages with same | left
  · exact same
  · rw [left, ledgerView]
    cases stored : turn.before.hours key with
    | none => rfl
    | some row => simp [idle row stored]

end Turn

/-! ### Runs -/

/-- Only the worker of the latest successful claim changes the status of the hour or its lease. -/
def Exclusive (key : HourKey) (history : List (Turn HourStore HourOp HourOp.Reply α)) : Prop :=
  Throughout (fun earlier turn =>
    turn.op.manages key = true → Changes key turn → latestClaimer key earlier = some turn.task) history

/-- The worker manages the hour in time, or nobody has claimed the hour after it, or there is nothing
to change. -/
def KeepsToLease (key : HourKey) (earlier : List (Turn HourStore HourOp HourOp.Reply α))
    (turn : Turn HourStore HourOp HourOp.Reply α) : Prop :=
  InTime key earlier turn ∨ latestClaimer key earlier = some turn.task ∨ Idle key turn

/-- A worker whose lease is running is the latest claimer, and the hour is held for it. -/
structure LeasesHold (key : HourKey) (history : List (Turn HourStore HourOp HourOp.Reply α)) (shared : HourStore) :
    Prop where
  bounded : ∀ task deadline, leaseOf key task history = some deadline → deadline ≤ shared.clock + fetchLease
  latest : ∀ task deadline, leaseOf key task history = some deadline → shared.clock < deadline →
    latestClaimer key history = some task ∧ HeldUntil deadline (shared.hours key)

section Step
variable {key : HourKey} {earlier : List (Turn HourStore HourOp HourOp.Reply α)}
  {turn : Turn HourStore HourOp HourOp.Reply α}

theorem manager_is_latest (served : hourServe.handler turn.before turn.op turn.reply turn.after)
    (leases : LeasesHold key earlier turn.before) (manages : turn.op.manages key = true) (changes : Changes key turn)
    (keeps : KeepsToLease key earlier turn) : latestClaimer key earlier = some turn.task := by
  rcases keeps with ⟨deadline, leased, running⟩ | latest | idle
  · exact (leases.latest turn.task deadline leased ((hour_step served key).time.trans_lt running)).1
  · exact latest
  · exact absurd changes (idle_unchanged served manages idle)

/-- What the step of another worker leaves of a running lease. -/
theorem LeasesHold.others (served : hourServe.handler turn.before turn.op turn.reply turn.after)
    (leases : LeasesHold key earlier turn.before)
    (keeps : turn.op.manages key = true → KeepsToLease key earlier turn) {task : Nat} {deadline : Int}
    (other : turn.task ≠ task) (leased : leaseOf key task earlier = some deadline)
    (running : turn.after.clock < deadline) :
    latestClaimer key (earlier ++ [turn]) = some task ∧ HeldUntil deadline (turn.after.hours key) := by
  have step := hour_step served key
  obtain ⟨latest, held⟩ := leases.latest task deadline leased (step.time.trans_lt running)
  cases manages : turn.op.manages key with
  | false =>
      obtain ⟨still, attempts⟩ := step.row.held held running manages
      have untaken : takesHour key turn = false := by simp [takesHour, attempts]
      simp [untaken, latest, still]
  | true =>
      have unclaimed : takesHour key turn = false := by
        obtain ⟨⟨before, op, reply, after⟩, taker, programs⟩ := turn
        cases op <;> first | rfl | cases manages
      have same : ledgerView turn.after key = ledgerView turn.before key := by
        by_contra changes
        have own := manager_is_latest served leases manages changes (keeps manages)
        exact other (Option.some.inj (own.symm.trans latest))
      simp [unclaimed, latest, heldUntil_view held same]

/-- A claim that was granted. -/
theorem claim_granted {before after : HourStore} {source : String}
    (served : hourServe.handler before (.claimHour key source) (.ok true) after) :
    HeldUntil (after.clock + fetchLease) (after.hours key) ∧
      (after.hours key).map (·.attempts) ≠ (before.hours key).map (·.attempts) := by
  obtain ⟨outside, found, same, -, now, effected⟩ := hour_replied served
  have clock : after.clock = outside.now := (hourEffect_clock effected).trans now
  rw [clock]
  replace effected := constraintViolation_eq_ok.mp effected
  simp only [claimHourlyIngestHour] at effected
  split at effected
  · split at effected
    · rename_i state taken
      simp only [Option.some.injEq, Prod.mk.injEq, true_and] at effected
      subst effected
      rw [same] at taken
      simp only [Function.update_self, Option.map_some]
      exact ⟨claimedHour_held taken, (claimedHour_attempts taken).symm⟩
    · cases effected
  · cases effected

/-- A refresh that was carried out, under a running lease. -/
theorem refresh_renews {before after : HourStore} {deadline : Int}
    (served : hourServe.handler before (.refreshLease key) (.ok ()) after)
    (held : HeldUntil deadline (before.hours key)) : HeldUntil (after.clock + fetchLease) (after.hours key) := by
  obtain ⟨outside, found, same, -, now, effected⟩ := hour_replied served
  have clock : after.clock = outside.now := (hourEffect_clock effected).trans now
  obtain ⟨row, stored, working, -⟩ := held
  simp only [hourEffect, refreshHourlyIngestLease, Except.ok.injEq, Prod.mk.injEq, true_and] at effected
  rw [clock, ← effected, updateHour_hours, if_pos rfl, same, stored]
  exact ⟨{ row with leaseUntil := some (outside.now + fetchLease) }, by simp [working], working, _, rfl, le_rfl⟩

/-- What the worker's own step leaves it. -/
theorem LeasesHold.own (served : hourServe.handler turn.before turn.op turn.reply turn.after)
    (leases : LeasesHold key earlier turn.before) {deadline : Int}
    (leased : leaseAfter key turn.after.clock (leaseOf key turn.task earlier) turn.op turn.reply = some deadline) :
    deadline ≤ turn.after.clock + fetchLease ∧ (turn.after.clock < deadline →
      latestClaimer key (earlier ++ [turn]) = some turn.task ∧ HeldUntil deadline (turn.after.hours key)) := by
  have step := hour_step served key
  obtain ⟨⟨before, op, reply, after⟩, task, programs⟩ := turn
  dsimp only at *
  have time := step.time
  cases lease_move leased with
  | @taken source fresh =>
      subst fresh
      obtain ⟨held, more⟩ := claim_granted served
      have takes : takesHour key ⟨⟨before, .claimHour key source, .ok true, after⟩, task, programs⟩ = true := by
        simpa [takesHour, HourOp.claimsHour] using more
      simp [takes, held]
  | @refreshed old earlierLease running fresh =>
      subst fresh
      obtain ⟨latest, held⟩ := leases.latest task old earlierLease (time.trans_lt running)
      have untaken : takesHour key ⟨⟨before, .refreshLease key, .ok (), after⟩, task, programs⟩ = false := rfl
      simp [untaken, latest, refresh_renews served held]
  | @tried error earlierLease running =>
      have soon : deadline ≤ after.clock + fetchLease := by
        have bound := leases.bounded task deadline earlierLease
        omega
      obtain ⟨latest, held⟩ := leases.latest task deadline earlierLease (time.trans_lt running)
      have untaken : takesHour key ⟨⟨before, .refreshLease key, .error error, after⟩, task, programs⟩ = false := rfl
      simp [soon, untaken, latest, step.row.refresh held soon]
  | kept foreign earlierLease =>
      have soon : deadline ≤ after.clock + fetchLease := by
        have bound := leases.bounded task deadline earlierLease
        omega
      apply And.intro soon
      intro running
      obtain ⟨latest, held⟩ := leases.latest task deadline earlierLease (time.trans_lt running)
      obtain ⟨still, attempts⟩ := step.row.held held running foreign
      have untaken : takesHour key ⟨⟨before, op, reply, after⟩, task, programs⟩ = false := by
        simp [takesHour, attempts]
      simp [untaken, latest, still]

theorem LeasesHold.step (served : hourServe.handler turn.before turn.op turn.reply turn.after)
    (leases : LeasesHold key earlier turn.before)
    (keeps : turn.op.manages key = true → KeepsToLease key earlier turn) :
    LeasesHold key (earlier ++ [turn]) turn.after := by
  constructor
  · intro task deadline leased
    rw [leaseOf_append] at leased
    split_ifs at leased with own
    · subst own
      exact (leases.own served leased).1
    · have bound := leases.bounded task deadline leased
      have time := (hour_step served key).time
      omega
  · intro task deadline leased running
    rw [leaseOf_append] at leased
    split_ifs at leased with own
    · subst own
      exact (leases.own served leased).2 running
    · exact leases.others served keeps own leased running

end Step

/-- A statement that was answered and has changed nothing had nothing to change. -/
theorem answered_idle {key : HourKey} {turn : Turn HourStore HourOp HourOp.Reply α}
    (served : hourServe.handler turn.before turn.op turn.reply turn.after) (manages : turn.op.manages key = true)
    {result : turn.op.Result} (answered : turn.reply = .ok result) (unchanged : ¬ Changes key turn) :
    Idle key turn := by
  intro row stored
  rw [answered] at served
  obtain ⟨outside, found, same, -, now, effected⟩ := hour_replied served
  have clock : turn.after.clock = outside.now := (hourEffect_clock effected).trans now
  have left := effect_leaves manages effected
  rw [not_not.mp unchanged, same, ledgerView, stored, ← clock] at left
  exact (Option.some.inj left).symm

section Run
variable {Call : Type} {code : Call → HourProgram α} {start : HourStore} {key : HourKey}
  {history : List (Turn HourStore HourOp HourOp.Reply α)} {state : State HourStore HourOp HourOp.Reply α}

theorem leases_hold (run : Run hourServe.handler code ⟨start, []⟩ history state)
    (keeps : Throughout (fun earlier turn => turn.op.manages key = true → KeepsToLease key earlier turn) history) :
    LeasesHold key history state.shared ∧ Exclusive key history := by
  refine run_throughout (LeasesHold key) ?_ run ⟨by simp [leaseOf], by simp [leaseOf]⟩ keeps
  intro earlier turn leases served here
  constructor
  · exact leases.step served here
  · intro manages changes
    exact manager_is_latest served leases manages changes (here manages)

/-- For any number of workers of any kind, in any order of their steps: the hour is managed by its
latest claimer alone if nobody manages it both too late and after another claim; and where it is,
nobody has, but for statements that were not carried out. -/
theorem exclusive_within_leases (run : Run hourServe.handler code ⟨start, []⟩ history state) (key : HourKey) :
    (Throughout (fun earlier turn => turn.op.manages key = true → KeepsToLease key earlier turn) history →
      Exclusive key history) ∧
    (Exclusive key history → Throughout (fun earlier turn => turn.op.manages key = true →
      (∃ result, turn.reply = .ok result) → KeepsToLease key earlier turn) history) := by
  constructor
  · intro keeps
    exact (leases_hold run keeps).2
  · rintro exclusive earlier turn later split manages ⟨result, answered⟩
    by_cases changes : Changes key turn
    · exact Or.inr (Or.inl (exclusive earlier turn later split manages changes))
    · exact Or.inr (Or.inr (answered_idle (run_split run split).1 manages answered changes))

end Run

/-! ### Two runs -/

instance (key : HourKey) (earlier : List (Turn HourStore HourOp HourOp.Reply α))
    (turn : Turn HourStore HourOp HourOp.Reply α) : Decidable (InTime key earlier turn) :=
  decidable_of_iff ((leaseOf key turn.task earlier).any fun deadline => decide (turn.after.clock < deadline)) (by
    simp [InTime, Option.any_eq_true])

instance (key : HourKey) (turn : Turn HourStore HourOp HourOp.Reply α) : Decidable (Idle key turn) :=
  decidable_of_iff ((turn.before.hours key).all fun row =>
      decide (turn.op.leaves turn.after.clock row = (row.status, row.leaseUntil))) (by
    simp [Idle, Option.all_eq_true])

instance (key : HourKey) (earlier : List (Turn HourStore HourOp HourOp.Reply α))
    (turn : Turn HourStore HourOp HourOp.Reply α) : Decidable (KeepsToLease key earlier turn) :=
  inferInstanceAs (Decidable (_ ∨ _ ∨ _))

instance (key : HourKey) (history : List (Turn HourStore HourOp HourOp.Reply α)) : Decidable (Exclusive key history) :=
  inferInstanceAs (Decidable (Throughout _ history))

/-- An hour with one match that is still to be fetched. -/
def openHour : HourStore where
  discoveries :=
    [{ matchId := 7, queueId := 486, region := "EU", entryDatetime := none, activeFlag := false,
       sourceDate := 20000, sourceHour := 5 }]

/-- The first worker stops after its claim; the second one keeps to its lease and closes the hour. -/
theorem abandoned_hour_exclusive :
    ∃ history state, HourRun openHour history state ∧ Exclusive ⟨20000, 5, 486⟩ history := by
  have passed : (replay hourServe hourCode ⟨openHour, []⟩
      [.enter ⟨⟨20000, 5, 486⟩, "first"⟩, .turn 0 {},
        .enter ⟨⟨20000, 5, 486⟩, "second"⟩, .turn 1 { now := 300 }, .turn 1 { now := 300 }, .turn 1 { now := 300 },
        .turn 1 { now := 301 }, .turn 1 { now := 302, answer := .ok (.array [.object [("match_id", .integer 7)]]) },
        .turn 1 { now := 303 }, .turn 1 { now := 304 }, .turn 1 { now := 305 }]).any
      (fun reached => decide (Throughout (fun earlier turn =>
        turn.op.manages ⟨20000, 5, 486⟩ = true → KeepsToLease ⟨20000, 5, 486⟩ earlier turn) reached.1)) = true := by
    decide +kernel
  obtain ⟨history, state, run, tested⟩ := replay_reaches passed
  exact ⟨history, state, run, (exclusive_within_leases run _).1 (of_decide_eq_true tested)⟩

/-- The first worker asks for its match and waits longer than its lease; then it closes the hour that
the second one works on. -/
theorem late_worker_closes_hour :
    ∃ history state, HourRun openHour history state ∧ ¬ Exclusive ⟨20000, 5, 486⟩ history := by
  have passed : (replay hourServe hourCode ⟨openHour, []⟩
      [.enter ⟨⟨20000, 5, 486⟩, "first"⟩, .turn 0 {}, .turn 0 {}, .turn 0 {}, .turn 0 {},
        .turn 0 { answer := .ok (.array [.object [("match_id", .integer 7)]]) },
        .enter ⟨⟨20000, 5, 486⟩, "second"⟩, .turn 1 { now := 300 },
        .turn 0 { now := 301 }, .turn 0 { now := 301 }, .turn 0 { now := 301 }]).any
      (fun reached => !decide (Exclusive ⟨20000, 5, 486⟩ reached.1)) = true := by
    decide +kernel
  obtain ⟨history, state, run, tested⟩ := replay_reaches passed
  exact ⟨history, state, run, by simpa using tested⟩

end PaladinsCat.Backend
