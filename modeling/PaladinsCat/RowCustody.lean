import PaladinsCat.RawBuffer

/-!
Who works on a row of the raw buffer. The statements by which a worker renews, finishes or
gives back its row name the row alone, so that they cannot ask whose it is. As long as every
worker is done with a row within fifteen minutes of its claim or its last renewal, or nobody
has claimed the row since, only the worker of the latest claim changes it; one that comes
later is let through all the same.
-/

namespace PaladinsCat.RawBuffer

open Interleaving

variable {Call α : Type} {code : Call → BufferProgram α}

abbrev BufferTurn (α : Type) := Turn Buffer BufferOp BufferOp.Reply α

/-- A statement by which a worker renews, finishes or gives back the row. -/
def BufferOp.manages (rowId : Int) : BufferOp → Bool
  | .renew other | .retain other _ | .markProcessed other | .markFailedOrDeferred other _ _ _ _ => other = rowId
  | .renewRows ids | .returnClaims ids => rowId ∈ ids
  | _ => false

def BufferOp.isClaim : BufferOp → Bool
  | .claim _ => true
  | _ => false

def BufferOp.isRecovery : BufferOp → Bool
  | .recoverStale _ => true
  | _ => false

def custodyView (buffer : Buffer) (rowId : Int) : Option (BufferStatus × Option Int) :=
  (buffer.rows rowId).map fun row => (row.status, row.processedAt)

/-- The step changes the status or the lease of the row. -/
def Changes (rowId : Int) (turn : BufferTurn α) : Prop := custodyView turn.after rowId ≠ custodyView turn.before rowId

/-- The step is a claim that has got the row. -/
def takesRow (rowId : Int) (turn : BufferTurn α) : Bool :=
  turn.op.isClaim && decide ((custodyView turn.before rowId).map (·.1) = some .pending) &&
    decide ((custodyView turn.after rowId).map (·.1) = some .processing)

/-- The worker of the latest claim. -/
def latestClaimer (rowId : Int) (history : List (BufferTurn α)) : Option Nat :=
  history.foldl (fun latest turn => if takesRow rowId turn then some turn.task else latest) none

/-! ### The lease, as its worker knows it -/

def leaseTime : Int := minutes 15

/-- A renewal extends a running lease if it is carried out. -/
def renewed (now : Int) (lease : Option Int) (done : Bool) : Option Int :=
  (lease.filter fun deadline => decide (now ≤ deadline)).map fun deadline => if done then now + leaseTime else deadline

/-- How long a worker may take its lease for running: from its claim on and from each renewal in time, until it
finishes the row or gives it back. -/
def leaseAfter (rowId now : Int) (lease : Option Int) : (op : BufferOp) → op.Reply → Option Int
  | .claim _ => fun reply : Except Unit (List ClaimedRow) =>
      if reply.toOption.any (fun rows => rows.any fun row => row.id = rowId) then some (now + leaseTime) else lease
  | .renew other => fun reply : Except Unit Bool =>
      if other = rowId then renewed now lease (reply.toOption = some true) else lease
  | .renewRows ids => fun reply : Except Unit Unit => if rowId ∈ ids then renewed now lease reply.isOk else lease
  | op => fun _ => if op.manages rowId then none else lease

def leaseOf (rowId : Int) (task : Nat) (history : List (BufferTurn α)) : Option Int :=
  history.foldl (fun lease turn =>
    if turn.task = task then leaseAfter rowId turn.after.clock lease turn.op turn.reply else lease) none

/-- The worker's lease is running at this step. -/
def InTime (rowId : Int) (earlier : List (BufferTurn α)) (turn : BufferTurn α) : Prop :=
  ∃ deadline, leaseOf rowId turn.task earlier = some deadline ∧ turn.after.clock ≤ deadline

section Append
variable {rowId : Int} {history : List (BufferTurn α)} {turn : BufferTurn α}

@[simp] theorem latestClaimer_append :
    latestClaimer rowId (history ++ [turn]) =
      if takesRow rowId turn then some turn.task else latestClaimer rowId history := by
  simp [latestClaimer]

@[simp] theorem leaseOf_append {task : Nat} :
    leaseOf rowId task (history ++ [turn]) =
      if turn.task = task then leaseAfter rowId turn.after.clock (leaseOf rowId task history) turn.op turn.reply
      else leaseOf rowId task history := by
  simp [leaseOf]

end Append

/-! ### What a step does to one row -/

/-- The status and the time that a managing statement leaves in a row. -/
def BufferOp.leaves (now : Int) (row : BufferRow) : BufferOp → BufferStatus × Option Int
  | .renew _ | .renewRows _ => if row.status = .processing then (.processing, some now) else (row.status, row.processedAt)
  | .retain _ _ => (.pending, none)
  | .markProcessed _ => (.processed, some now)
  | .markFailedOrDeferred _ _ terminal _ _ => if terminal then (.failed, some now) else (.pending, none)
  | .returnClaims _ => if row.status = .processing then (.pending, none) else (row.status, row.processedAt)
  | _ => (row.status, row.processedAt)

/-- A row that is being worked on, with a lease until then or longer. -/
def HeldUntil (deadline : Int) (view : Option (BufferStatus × Option Int)) : Prop :=
  ∃ since, view = some (.processing, some since) ∧ deadline ≤ since + leaseTime

/-- What a statement that does not manage the row does to it. -/
inductive CustodyMove (now : Int) (op : BufferOp) (before : Option (BufferStatus × Option Int)) :
    Option (BufferStatus × Option Int) → Prop where
  | kept : CustodyMove now op before before
  | claimed {since : Option Int} (claims : op.isClaim = true) (free : before = some (.pending, since)) :
      CustodyMove now op before (some (.processing, some now))
  | reset {since : Option Int} {status : BufferStatus} (recovers : op.isRecovery = true)
      (found : before = some (.processing, since)) (stale : ∀ time, since = some time → time + leaseTime < now) :
      CustodyMove now op before (some (status, none))

section Execute
variable {buffer last : Buffer} {outside : Outside} {op : BufferOp} {result : op.Result} {rowId : Int}

theorem view_updateRow {other : Int} {update : BufferRow → BufferRow} :
    custodyView (updateRow buffer other update) rowId =
      if other = rowId then (buffer.rows rowId).map fun row => ((update row).status, (update row).processedAt)
      else custodyView buffer rowId := by
  by_cases same : other = rowId
  · subst same
    simp [custodyView, updateRow, Function.comp_def]
  · simp [custodyView, updateRow, same, Function.update_of_ne (Ne.symm same)]

theorem view_updateRows {update : Int → BufferRow → BufferRow} :
    custodyView (updateRows buffer update) rowId =
      (buffer.rows rowId).map fun row => ((update rowId row).status, (update rowId row).processedAt) := by
  simp [custodyView, updateRows, Function.comp_def]

/-- A managing statement leaves the row so. -/
theorem execute_leaves (done : execute buffer outside op = some (result, last)) (manages : op.manages rowId = true) :
    custodyView last rowId = (buffer.rows rowId).map fun row => op.leaves outside.now row := by
  cases op with
  | renew other =>
      obtain rfl : other = rowId := by simpa [BufferOp.manages] using manages
      cases done
      rw [view_updateRow, if_pos rfl]
      congr 1
      funext row
      by_cases working : row.status = .processing <;> simp [BufferOp.leaves, working]
  | retain other message =>
      obtain rfl : other = rowId := by simpa [BufferOp.manages] using manages
      cases done
      rw [view_updateRow, if_pos rfl]
      rfl
  | markProcessed other =>
      obtain rfl : other = rowId := by simpa [BufferOp.manages] using manages
      cases done
      rw [view_updateRow, if_pos rfl]
      rfl
  | markFailedOrDeferred other retry terminal facts message =>
      obtain rfl : other = rowId := by simpa [BufferOp.manages] using manages
      cases done
      rw [view_updateRow, if_pos rfl]
      cases terminal <;> rfl
  | renewRows ids =>
      have listed : rowId ∈ ids := by simpa [BufferOp.manages] using manages
      cases done
      rw [view_updateRows]
      congr 1
      funext row
      by_cases working : row.status = .processing <;> simp [BufferOp.leaves, working, listed]
  | returnClaims ids =>
      have listed : rowId ∈ ids := by simpa [BufferOp.manages] using manages
      cases done
      rw [view_updateRows]
      congr 1
      funext row
      by_cases working : row.status = .processing <;> simp [BufferOp.leaves, working, listed]
  | _ => cases manages

theorem execute_moves (done : execute buffer outside op = some (result, last)) (foreign : op.manages rowId = false) :
    CustodyMove outside.now op (custodyView buffer rowId) (custodyView last rowId) := by
  cases op with
  | recoverStale only =>
      cases done
      rw [view_updateRows, custodyView]
      cases stored : buffer.rows rowId with
      | none => exact .kept
      | some row =>
          simp only [Option.map_some]
          by_cases stale : isStale outside.now row = true ∧ only.all (· = rowId) = true
          · simp only [if_pos stale]
            obtain ⟨working, old⟩ := Bool.and_eq_true_iff.mp stale.1
            rw [of_decide_eq_true working]
            refine .reset rfl rfl ?_
            intro time since
            simp only [since, decide_eq_true_eq] at old
            simp only [leaseTime]
            omega
          · simp only [if_neg stale]
            exact .kept
  | claim limit =>
      simp only [execute] at done
      split_ifs at done with fits
      cases done
      rw [view_updateRows, custodyView]
      cases stored : buffer.rows rowId with
      | none => exact .kept
      | some row =>
          simp only [Option.map_some]
          by_cases picked : rowId ∈ outside.picked.map (·.1)
          · simp only [if_pos picked]
            obtain ⟨pair, member, same⟩ := List.mem_map.mp picked
            have free := List.all_eq_true.mp fits.2.2 pair member
            simp only [same, stored, Option.any_some, claimable, decide_eq_true_eq] at free
            rw [free.1]
            exact .claimed rfl rfl
          · simp only [if_neg picked]
            exact .kept
  | renew other | retain other _ | markProcessed other | markFailedOrDeferred other _ _ _ _ =>
      have apart : other ≠ rowId := by simpa [BufferOp.manages] using foreign
      cases done
      rw [view_updateRow, if_neg apart]
      exact .kept
  | renewRows ids | returnClaims ids =>
      have absent : rowId ∉ ids := by simpa [BufferOp.manages] using foreign
      cases done
      rw [view_updateRows]
      simp only [absent, false_and, if_false]
      exact .kept
  | processRow | isLimited | factsDurable =>
      cases done
      exact .kept

end Execute

/-! ### Steps -/

section Served
variable {before after : Buffer} {op : BufferOp} {reply : op.Reply} {rowId : Int}

theorem serve_cases (served : serve.handler before op reply after) :
    before.clock ≤ after.clock ∧ ((reply = .error () ∧ after.rows = before.rows) ∨
      ∃ outside result last, outside.now = after.clock ∧ execute before outside op = some (result, last) ∧
        after.rows = last.rows ∧ (reply = .ok result ∨ reply = .error ())) := by
  obtain ⟨outside, served⟩ := served
  simp only [serve] at served
  split_ifs at served with early
  have forward := not_lt.mp early
  cases done : execute before outside op with
  | none => simp [done] at served
  | some reached =>
      obtain ⟨result, last⟩ := reached
      cases fate : outside.fate with
      | answered =>
          simp only [done, fate] at served
          cases served
          exact ⟨forward, Or.inr ⟨outside, result, last, rfl, done, rfl, Or.inl rfl⟩⟩
      | rolledBack =>
          simp only [done, fate] at served
          cases served
          exact ⟨forward, Or.inl ⟨rfl, rfl⟩⟩
      | unacknowledged =>
          simp only [done, fate] at served
          cases served
          exact ⟨forward, Or.inr ⟨outside, result, last, rfl, done, rfl, Or.inr rfl⟩⟩

theorem view_congr {other : Buffer} (same : after.rows = other.rows) : custodyView after rowId = custodyView other rowId := by
  simp only [custodyView, same]

theorem clock_forward (served : serve.handler before op reply after) : before.clock ≤ after.clock := (serve_cases served).1

theorem unmanaged_moves (served : serve.handler before op reply after) (foreign : op.manages rowId = false) :
    CustodyMove after.clock op (custodyView before rowId) (custodyView after rowId) := by
  obtain ⟨-, ⟨-, same⟩ | ⟨outside, result, last, now, done, same, -⟩⟩ := serve_cases served
  · rw [view_congr same]
    exact .kept
  · rw [view_congr same, ← now]
    exact execute_moves done foreign

theorem managed_view (served : serve.handler before op reply after) (manages : op.manages rowId = true) :
    custodyView after rowId = custodyView before rowId ∨
      custodyView after rowId = (before.rows rowId).map fun row => op.leaves after.clock row := by
  obtain ⟨-, ⟨-, same⟩ | ⟨outside, result, last, now, done, same, -⟩⟩ := serve_cases served
  · exact Or.inl (view_congr same)
  · rw [view_congr same, ← now]
    exact Or.inr (execute_leaves done manages)

theorem answered_leaves {result : op.Result} (served : serve.handler before op (.ok result) after)
    (manages : op.manages rowId = true) :
    custodyView after rowId = (before.rows rowId).map fun row => op.leaves after.clock row := by
  obtain ⟨-, ⟨failed, -⟩ | ⟨outside, result, last, now, done, same, -⟩⟩ := serve_cases served
  · cases failed
  · rw [view_congr same, ← now]
    exact execute_leaves done manages

/-- A claim that has returned the row. -/
theorem claim_granted {limit : Int} {rows : List ClaimedRow} (served : serve.handler before (.claim limit) (.ok rows) after)
    (got : (rows.any fun row => row.id = rowId) = true) :
    (custodyView before rowId).map (·.1) = some .pending ∧
      custodyView after rowId = some (.processing, some after.clock) := by
  obtain ⟨-, ⟨failed, -⟩ | ⟨outside, result, last, now, done, same, ⟨⟨⟩⟩ | ⟨⟨⟩⟩⟩⟩ := serve_cases served
  · cases failed
  · obtain ⟨claimed, member, named⟩ := List.any_eq_true.mp got
    simp only [execute] at done
    split_ifs at done with fits
    cases done
    obtain ⟨pair, picked, found⟩ := List.mem_filterMap.mp member
    obtain ⟨row, stored, rfl⟩ := Option.map_eq_some_iff.mp found
    obtain rfl : pair.1 = rowId := of_decide_eq_true named
    have free := List.all_eq_true.mp fits.2.2 pair picked
    simp only [stored, Option.any_some, claimable, decide_eq_true_eq] at free
    rw [view_congr same, view_updateRows, custodyView, stored]
    simp only [Option.map_some, free.1, if_pos (List.mem_map_of_mem picked), now, and_self]

end Served

section Turn
variable {rowId deadline : Int} {turn : BufferTurn α}

/-- Nobody takes a row with a running lease; besides its managing statements, nothing changes it. -/
theorem held_unmanaged {before after : Buffer} {op : BufferOp} {reply : op.Reply}
    (served : serve.handler before op reply after)
    (held : HeldUntil deadline (custodyView before rowId)) (running : after.clock ≤ deadline)
    (foreign : op.manages rowId = false) : HeldUntil deadline (custodyView after rowId) := by
  obtain ⟨since, found, late⟩ := held
  have moved := unmanaged_moves served foreign
  rw [found] at moved
  generalize result : custodyView after rowId = view at moved
  cases moved with
  | kept => exact ⟨since, rfl, late⟩
  | claimed _ free => cases free
  | reset _ same stale =>
      cases same
      have old := stale since rfl
      omega

theorem takesRow_held (held : HeldUntil deadline (custodyView turn.before rowId)) : takesRow rowId turn = false := by
  obtain ⟨since, found, late⟩ := held
  simp [takesRow, found]

theorem unchanged_held (held : HeldUntil deadline (custodyView turn.before rowId)) (unchanged : ¬ Changes rowId turn) :
    HeldUntil deadline (custodyView turn.after rowId) := by
  rw [Changes, not_not] at unchanged
  rw [unchanged]
  exact held

/-- The statement finds no row, or one with nothing to change. -/
def Idle (rowId : Int) (turn : BufferTurn α) : Prop :=
  ∀ row, turn.before.rows rowId = some row → turn.op.leaves turn.after.clock row = (row.status, row.processedAt)

theorem idle_unchanged (served : serve.handler turn.before turn.op turn.reply turn.after)
    (manages : turn.op.manages rowId = true) (idle : Idle rowId turn) : ¬ Changes rowId turn := by
  rw [Changes, not_not]
  rcases managed_view served manages with same | left
  · exact same
  · rw [left, custodyView]
    cases stored : turn.before.rows rowId with
    | none => rfl
    | some row => simp [idle row stored]

theorem answered_idle (served : serve.handler turn.before turn.op turn.reply turn.after)
    (manages : turn.op.manages rowId = true) {result : turn.op.Result} (answered : turn.reply = .ok result)
    (unchanged : ¬ Changes rowId turn) : Idle rowId turn := by
  intro row stored
  rw [answered] at served
  have left := answered_leaves served manages
  rw [not_not.mp unchanged, custodyView, stored] at left
  exact (Option.some.inj left).symm

end Turn

def BufferOp.renews (rowId : Int) : BufferOp → Bool
  | .renew other => other = rowId
  | .renewRows ids => rowId ∈ ids
  | _ => false

/-- How a worker comes to a lease until `deadline`. -/
inductive LeaseMove (rowId now : Int) (lease : Option Int) (deadline : Int) : (op : BufferOp) → op.Reply → Prop where
  | taken {limit : Int} {rows : List ClaimedRow} (got : (rows.any fun row => row.id = rowId) = true)
      (fresh : deadline = now + leaseTime) : LeaseMove rowId now lease deadline (.claim limit) (.ok rows)
  | renewed {op : BufferOp} {reply : op.Reply} {old : Int} (renews : op.renews rowId = true)
      (done : ∃ result, reply = .ok result) (leased : lease = some old) (running : now ≤ old)
      (fresh : deadline = now + leaseTime) : LeaseMove rowId now lease deadline op reply
  | tried {op : BufferOp} {reply : op.Reply} (renews : op.renews rowId = true) (leased : lease = some deadline)
      (running : now ≤ deadline) : LeaseMove rowId now lease deadline op reply
  | kept {op : BufferOp} {reply : op.Reply} (foreign : op.manages rowId = false) (leased : lease = some deadline) :
      LeaseMove rowId now lease deadline op reply

theorem renewed_cases {now deadline : Int} {lease : Option Int} {done : Bool} (leased : renewed now lease done = some deadline) :
    (∃ old, lease = some old ∧ now ≤ old ∧ deadline = now + leaseTime ∧ done = true) ∨ lease = some deadline ∧ now ≤ deadline := by
  simp only [renewed, Option.map_eq_some_iff, Option.filter_eq_some_iff, decide_eq_true_eq] at leased
  obtain ⟨old, ⟨before, running⟩, fresh⟩ := leased
  cases done with
  | true => exact Or.inl ⟨old, before, running, fresh.symm, rfl⟩
  | false =>
      obtain rfl : old = deadline := fresh
      exact Or.inr ⟨before, running⟩

theorem lease_move {rowId now deadline : Int} {lease : Option Int} {op : BufferOp} {reply : op.Reply}
    (leased : leaseAfter rowId now lease op reply = some deadline) : LeaseMove rowId now lease deadline op reply := by
  cases op with
  | claim limit =>
      cases reply with
      | error error => exact .kept rfl leased
      | ok rows =>
          change (if (rows.any fun row => row.id = rowId) = true then some (now + leaseTime) else lease) = some deadline at leased
          by_cases got : (rows.any fun row => row.id = rowId) = true
          · rw [if_pos got] at leased
            exact .taken got (Option.some.inj leased).symm
          · rw [if_neg got] at leased
            exact .kept rfl leased
  | renew other =>
      simp only [leaseAfter] at leased
      split_ifs at leased with same
      · rcases renewed_cases leased with ⟨old, before, running, fresh, done⟩ | ⟨before, running⟩
        · refine .renewed (by simp [BufferOp.renews, same]) ?_ before running fresh
          cases reply with
          | error error => cases of_decide_eq_true done
          | ok result => exact ⟨result, rfl⟩
        · exact .tried (by simp [BufferOp.renews, same]) before running
      · exact .kept (by simp [BufferOp.manages, same]) leased
  | renewRows ids =>
      simp only [leaseAfter] at leased
      split_ifs at leased with listed
      · rcases renewed_cases leased with ⟨old, before, running, fresh, done⟩ | ⟨before, running⟩
        · refine .renewed (by simp [BufferOp.renews, listed]) ?_ before running fresh
          cases reply with
          | error error => cases done
          | ok result => exact ⟨result, rfl⟩
        · exact .tried (by simp [BufferOp.renews, listed]) before running
      · exact .kept (by simp [BufferOp.manages, listed]) leased
  | retain | markProcessed | markFailedOrDeferred | returnClaims =>
      simp only [leaseAfter] at leased
      split_ifs at leased with managed
      exact .kept (Bool.not_eq_true _ ▸ managed) leased
  | recoverStale | processRow | isLimited | factsDurable => exact .kept rfl leased

/-! ### Runs -/

/-- The worker manages the row in time, or nobody has claimed it after it, or there is nothing to change. -/
def KeepsToLease (rowId : Int) (earlier : List (BufferTurn α)) (turn : BufferTurn α) : Prop :=
  InTime rowId earlier turn ∨ latestClaimer rowId earlier = some turn.task ∨ Idle rowId turn

/-- The row is changed by a claim, by lease recovery or by the worker of its latest claim. -/
def Rightful (rowId : Int) (earlier : List (BufferTurn α)) (turn : BufferTurn α) : Prop :=
  Changes rowId turn →
    turn.op.isClaim = true ∨ turn.op.isRecovery = true ∨ latestClaimer rowId earlier = some turn.task

/-- A worker whose lease is running is the latest claimer, and the row is held for it. -/
structure LeasesHold (rowId : Int) (history : List (BufferTurn α)) (shared : Buffer) : Prop where
  bounded : ∀ task deadline, leaseOf rowId task history = some deadline → deadline ≤ shared.clock + leaseTime
  latest : ∀ task deadline, leaseOf rowId task history = some deadline → shared.clock ≤ deadline →
    latestClaimer rowId history = some task ∧ HeldUntil deadline (custodyView shared rowId)

section Step
variable {rowId : Int} {earlier : List (BufferTurn α)} {turn : BufferTurn α}

theorem unmanaged_rightful (served : serve.handler turn.before turn.op turn.reply turn.after)
    (foreign : turn.op.manages rowId = false) : Rightful rowId earlier turn := by
  intro changes
  have moved := unmanaged_moves served foreign
  generalize result : custodyView turn.after rowId = view at moved
  cases moved with
  | kept => exact absurd result changes
  | claimed claims => exact Or.inl claims
  | reset recovers => exact Or.inr (Or.inl recovers)

theorem manager_is_latest (served : serve.handler turn.before turn.op turn.reply turn.after)
    (leases : LeasesHold rowId earlier turn.before) (manages : turn.op.manages rowId = true) (changes : Changes rowId turn)
    (keeps : KeepsToLease rowId earlier turn) : latestClaimer rowId earlier = some turn.task := by
  rcases keeps with ⟨deadline, leased, running⟩ | latest | idle
  · exact (leases.latest turn.task deadline leased ((clock_forward served).trans running)).1
  · exact latest
  · exact absurd changes (idle_unchanged served manages idle)

theorem takesRow_managed (manages : turn.op.manages rowId = true) : takesRow rowId turn = false := by
  cases asked : turn.op <;> rw [asked] at manages <;> first | cases manages | simp [takesRow, asked, BufferOp.isClaim]

/-- What the step of another worker leaves of a running lease. -/
theorem LeasesHold.others (served : serve.handler turn.before turn.op turn.reply turn.after)
    (leases : LeasesHold rowId earlier turn.before)
    (keeps : turn.op.manages rowId = true → KeepsToLease rowId earlier turn) {task : Nat} {deadline : Int}
    (other : turn.task ≠ task) (leased : leaseOf rowId task earlier = some deadline)
    (running : turn.after.clock ≤ deadline) :
    latestClaimer rowId (earlier ++ [turn]) = some task ∧ HeldUntil deadline (custodyView turn.after rowId) := by
  obtain ⟨latest, held⟩ := leases.latest task deadline leased ((clock_forward served).trans running)
  cases manages : turn.op.manages rowId with
  | false =>
      have untaken : takesRow rowId turn = false := takesRow_held held
      have still := held_unmanaged served held running manages
      simp [untaken, latest, still]
  | true =>
      have same : ¬ Changes rowId turn := by
        intro changes
        have own := manager_is_latest served leases manages changes (keeps manages)
        exact other (Option.some.inj (own.symm.trans latest))
      simp [takesRow_managed manages, latest, unchanged_held held same]

theorem manages_of_renews {op : BufferOp} (renews : op.renews rowId = true) : op.manages rowId = true := by
  cases op with
  | renew | renewRows => exact renews
  | _ => cases renews

theorem leaves_renewed {op : BufferOp} (renews : op.renews rowId = true) (now : Int) (row : BufferRow)
    (working : row.status = .processing) : op.leaves now row = (.processing, some now) := by
  cases op with
  | renew | renewRows => simp [BufferOp.leaves, working]
  | _ => cases renews

/-- A renewal under a running lease, carried out or not. -/
theorem held_renewed {deadline : Int} {before after : Buffer} {op : BufferOp} {reply : op.Reply}
    (served : serve.handler before op reply after)
    (renews : op.renews rowId = true) (held : HeldUntil deadline (custodyView before rowId)) :
    HeldUntil (min deadline (after.clock + leaseTime)) (custodyView after rowId) ∧
      ((∃ result, reply = .ok result) → HeldUntil (after.clock + leaseTime) (custodyView after rowId)) := by
  have manages := manages_of_renews renews
  obtain ⟨since, found, late⟩ := held
  obtain ⟨row, stored, same⟩ := Option.map_eq_some_iff.mp found
  simp only [Prod.mk.injEq] at same
  constructor
  · rcases managed_view served manages with kept | left
    · exact ⟨since, kept.trans found, (min_le_left _ _).trans late⟩
    · rw [stored, Option.map_some, leaves_renewed renews _ row same.1] at left
      exact ⟨after.clock, left, min_le_right _ _⟩
  · rintro ⟨result, answered⟩
    rw [answered] at served
    have left := answered_leaves served manages
    rw [stored, Option.map_some, leaves_renewed renews _ row same.1] at left
    exact ⟨after.clock, left, le_rfl⟩

/-- What the worker's own step leaves it. -/
theorem LeasesHold.own (served : serve.handler turn.before turn.op turn.reply turn.after)
    (leases : LeasesHold rowId earlier turn.before) {deadline : Int}
    (leased : leaseAfter rowId turn.after.clock (leaseOf rowId turn.task earlier) turn.op turn.reply = some deadline) :
    deadline ≤ turn.after.clock + leaseTime ∧ (turn.after.clock ≤ deadline →
      latestClaimer rowId (earlier ++ [turn]) = some turn.task ∧ HeldUntil deadline (custodyView turn.after rowId)) := by
  have time := clock_forward served
  have soon : ∀ {old}, leaseOf rowId turn.task earlier = some old → old ≤ turn.after.clock + leaseTime := by
    intro old before
    exact (leases.bounded turn.task old before).trans (Int.add_le_add_right time _)
  obtain ⟨⟨before, op, reply, after⟩, task, programs⟩ := turn
  dsimp only at *
  cases lease_move leased with
  | @taken limit rows got fresh =>
      subst fresh
      obtain ⟨free, held⟩ := claim_granted served got
      have takes : takesRow rowId ⟨⟨before, .claim limit, .ok rows, after⟩, task, programs⟩ = true := by
        simp [takesRow, BufferOp.isClaim, free, held]
      simp [takes, HeldUntil, held]
  | @renewed op reply old renews done earlierLease running fresh =>
      subst fresh
      obtain ⟨latest, held⟩ := leases.latest task old earlierLease (time.trans running)
      have untaken : takesRow rowId ⟨⟨before, op, reply, after⟩, task, programs⟩ = false :=
        takesRow_managed (manages_of_renews renews)
      have still : HeldUntil (after.clock + leaseTime) (custodyView after rowId) := (held_renewed served renews held).2 done
      refine ⟨le_rfl, fun _ => ⟨?_, still⟩⟩
      rw [latestClaimer_append, untaken]
      exact latest
  | @tried op reply renews earlierLease running =>
      obtain ⟨latest, held⟩ := leases.latest task deadline earlierLease (time.trans running)
      have untaken : takesRow rowId ⟨⟨before, op, reply, after⟩, task, programs⟩ = false :=
        takesRow_managed (manages_of_renews renews)
      have still : HeldUntil (min deadline (after.clock + leaseTime)) (custodyView after rowId) := (held_renewed served renews held).1
      rw [min_eq_left (soon earlierLease)] at still
      refine ⟨soon earlierLease, fun _ => ⟨?_, still⟩⟩
      rw [latestClaimer_append, untaken]
      exact latest
  | @kept op reply foreign earlierLease =>
      refine ⟨soon earlierLease, fun running => ?_⟩
      obtain ⟨latest, held⟩ := leases.latest task deadline earlierLease (time.trans running)
      have untaken : takesRow rowId ⟨⟨before, op, reply, after⟩, task, programs⟩ = false := takesRow_held held
      have still := held_unmanaged served held running foreign
      rw [latestClaimer_append, untaken]
      exact ⟨latest, still⟩

theorem LeasesHold.step (served : serve.handler turn.before turn.op turn.reply turn.after)
    (leases : LeasesHold rowId earlier turn.before)
    (keeps : turn.op.manages rowId = true → KeepsToLease rowId earlier turn) :
    LeasesHold rowId (earlier ++ [turn]) turn.after := by
  constructor
  · intro task deadline leased
    rw [leaseOf_append] at leased
    split_ifs at leased with own
    · subst own
      exact (leases.own served leased).1
    · exact (leases.bounded task deadline leased).trans (Int.add_le_add_right (clock_forward served) _)
  · intro task deadline leased running
    rw [leaseOf_append] at leased
    split_ifs at leased with own
    · subst own
      exact (leases.own served leased).2 running
    · exact leases.others served keeps own leased running

end Step

section Run
variable {start : Buffer} {rowId : Int} {history : List (BufferTurn α)} {state : State Buffer BufferOp BufferOp.Reply α}

theorem leases_hold (run : Run serve.handler code ⟨start, []⟩ history state)
    (keeps : Throughout (fun earlier turn => turn.op.manages rowId = true → KeepsToLease rowId earlier turn) history) :
    LeasesHold rowId history state.shared ∧ Throughout (Rightful rowId) history := by
  refine run_throughout (LeasesHold rowId) ?_ run ⟨by simp [leaseOf], by simp [leaseOf]⟩ keeps
  intro earlier turn leases served here
  constructor
  · exact leases.step served here
  · cases manages : turn.op.manages rowId with
    | false => exact unmanaged_rightful served manages
    | true => exact fun changes => Or.inr (Or.inr (manager_is_latest served leases manages changes (here manages)))

/-- For any number of workers of any kind, in any order of their steps: a row is changed only by claims, by lease
recovery and by the worker of its latest claim if nobody manages it both too late and after another claim; and
where it is so, nobody has, but for statements that were not carried out. -/
theorem rows_have_one_worker (run : Run serve.handler code ⟨start, []⟩ history state) (rowId : Int) :
    (Throughout (fun earlier turn => turn.op.manages rowId = true → KeepsToLease rowId earlier turn) history →
      Throughout (Rightful rowId) history) ∧
    (Throughout (Rightful rowId) history → Throughout (fun earlier turn => turn.op.manages rowId = true →
      (∃ result, turn.reply = .ok result) → KeepsToLease rowId earlier turn) history) := by
  constructor
  · intro keeps
    exact (leases_hold run keeps).2
  · rintro rightful earlier turn later split manages ⟨result, answered⟩
    by_cases changes : Changes rowId turn
    · rcases rightful earlier turn later split changes with claims | recovers | latest
      · cases asked : turn.op <;> rw [asked] at manages claims <;> first | cases manages | cases claims
      · cases asked : turn.op <;> rw [asked] at manages recovers <;> first | cases manages | cases recovers
      · exact Or.inr (Or.inl latest)
    · exact Or.inr (Or.inr (answered_idle (run_split run split).1 manages answered changes))

end Run

/-! ### Two workers -/

instance (rowId : Int) (earlier : List (BufferTurn α)) (turn : BufferTurn α) : Decidable (InTime rowId earlier turn) :=
  decidable_of_iff ((leaseOf rowId turn.task earlier).any fun deadline => decide (turn.after.clock ≤ deadline)) (by
    simp [InTime, Option.any_eq_true])

instance (rowId : Int) (turn : BufferTurn α) : Decidable (Idle rowId turn) :=
  decidable_of_iff ((turn.before.rows rowId).all fun row =>
      decide (turn.op.leaves turn.after.clock row = (row.status, row.processedAt))) (by
    simp [Idle, Option.all_eq_true])

instance (rowId : Int) (turn : BufferTurn α) : Decidable (Changes rowId turn) :=
  inferInstanceAs (Decidable (custodyView turn.after rowId ≠ custodyView turn.before rowId))

instance (rowId : Int) (earlier : List (BufferTurn α)) (turn : BufferTurn α) : Decidable (KeepsToLease rowId earlier turn) :=
  inferInstanceAs (Decidable (_ ∨ _ ∨ _))

instance (rowId : Int) (earlier : List (BufferTurn α)) (turn : BufferTurn α) : Decidable (Rightful rowId earlier turn) :=
  inferInstanceAs (Decidable (_ → _))

def oneRow : Buffer where
  rows rowId := if rowId = 1 then some { entityType := "player", rawData := .array [] } else none

def batchOfOne : BatchCall := ⟨1, true⟩

abbrev BatchRun := Run serve.handler processRawBufferBatch ⟨oneRow, []⟩

/-- The first worker stops after its claim; the second resets the row, claims and finishes it. -/
theorem abandoned_row_has_one_worker :
    ∃ history state, BatchRun history state ∧ history.length = 7 ∧ Throughout (Rightful 1) history := by
  have passed : (replay serve processRawBufferBatch ⟨oneRow, []⟩
      [.enter batchOfOne, .turn 0 {}, .turn 0 { picked := [(1, 2)] },
        .enter batchOfOne, .turn 1 { now := minutes 16 }, .turn 1 { now := minutes 16, picked := [(1, 2)] },
        .turn 1 { now := minutes 16 }, .turn 1 { now := minutes 17 }, .turn 1 { now := minutes 17 }]).any
      (fun reached => decide (reached.1.length = 7) && decide (Throughout (fun earlier turn =>
        turn.op.manages 1 = true → KeepsToLease 1 earlier turn) reached.1)) = true := by
    decide +kernel
  obtain ⟨history, state, run, tested⟩ := replay_reaches passed
  obtain ⟨length, keeps⟩ := Bool.and_eq_true_iff.mp tested
  exact ⟨history, state, run, of_decide_eq_true length, (rows_have_one_worker run 1).1 (of_decide_eq_true keeps)⟩

/-- The first worker takes sixteen minutes; then it finishes the row that the second one has claimed. -/
theorem late_worker_finishes_the_row :
    ∃ history state, BatchRun history state ∧ ¬ Throughout (Rightful 1) history := by
  have passed : (replay serve processRawBufferBatch ⟨oneRow, []⟩
      [.enter batchOfOne, .turn 0 {}, .turn 0 { picked := [(1, 2)] }, .turn 0 {},
        .turn 0 { now := minutes 16 }, .enter batchOfOne, .turn 1 { now := minutes 16 },
        .turn 1 { now := minutes 16, picked := [(1, 2)] }, .turn 1 { now := minutes 16 },
        .turn 0 { now := minutes 17 }]).any
      (fun reached => !decide (Throughout (Rightful 1) reached.1)) = true := by
    decide +kernel
  obtain ⟨history, state, run, tested⟩ := replay_reaches passed
  exact ⟨history, state, run, by simpa using tested⟩

end PaladinsCat.RawBuffer
