import PaladinsCat.BackendStore

/-!
The view counts of posts and builds. A page view increments a counter in Redis
(community.rs, builds.rs, cache.rs), and the activity worker drains the counters into
`view_count` (scheduler_host.rs): it reads a counter, adds what it has read to the row and
deletes the counter, by three commands on two stores whose failures it ignores.
-/

namespace PaladinsCat.Views

open Interleaving Program
open Backend (Fate)

/-! ### Two stores -/

inductive ViewTable where
  | posts
  | builds
  deriving DecidableEq

/-- The counter `viewcount:<table>:<id>`, and the row that it is drained into. -/
structure ViewKey where
  table : ViewTable
  id : Int
  deriving DecidableEq

structure ViewStore where
  counters : ViewKey → Option Int := fun _ => none
  viewCount : ViewKey → Option Int := fun _ => none

def i32Max : Int := 2 ^ 31 - 1
def i64Max : Int := 2 ^ 63 - 1

/-- `INCR`, which refuses to overflow. -/
def increment (before : ViewStore) (key : ViewKey) : Option (Int × ViewStore) :=
  let value := (before.counters key).getD 0 + 1
  if value ≤ i64Max then some (value, { before with counters := Function.update before.counters key (some value) })
  else none

/-- `UPDATE … SET view_count=view_count+$2 WHERE id=$1`, into an `INT4` column. -/
def addViews (before : ViewStore) (key : ViewKey) (amount : Int) : Option ViewStore :=
  match before.viewCount key with
  | none => some before
  | some count =>
      if count + amount ≤ i32Max then
        some { before with viewCount := Function.update before.viewCount key (some (count + amount)) }
      else none

def deleteCounter (before : ViewStore) (key : ViewKey) : Nat × ViewStore :=
  (if (before.counters key).isSome then 1 else 0,
    { before with counters := Function.update before.counters key none })

/-! ### Commands -/

inductive ViewOp where
  | incr (key : ViewKey)
  | scanKeys (table : ViewTable)
  | incrGet (key : ViewKey)
  | addViews (key : ViewKey) (amount : Int)
  | del (key : ViewKey)
  deriving DecidableEq

abbrev ViewOp.Reply : ViewOp → Type
  | .incr _ => Int
  | .scanKeys _ => Option (List ViewKey)
  | .incrGet _ => Option Int
  | .addViews _ _ => Except String Unit
  | .del _ => Nat

/-- How a command ends, and what a scan lists: `SCAN` may repeat keys, and see or miss those that change. -/
structure ViewOutside where
  fate : Fate := .committed
  listed : List ViewKey := []

/-- A failed command replies what the cache makes of the failure: nothing, or zero. -/
def viewServe : Service ViewStore ViewOp ViewOp.Reply ViewOutside :=
  fun before op outside =>
    match op with
    | .incr key =>
        match outside.fate, increment before key with
        | .committed, some (value, after) => some (value, after)
        | .unacknowledged _, some (_, after) => some ((0 : Int), after)
        | _, _ => some ((0 : Int), before)
    | .scanKeys table =>
        some (if outside.fate = .committed then some (outside.listed.filter fun key => key.table == table) else none, before)
    | .incrGet key => some (if outside.fate = .committed then before.counters key else none, before)
    | .addViews key amount =>
        match outside.fate, addViews before key amount with
        | .committed, some after => some (.ok (), after)
        | .unacknowledged error, some after => some (.error error, after)
        | .rolledBack error, _ => some (.error error, before)
        | _, none => some (.error "integer out of range", before)
    | .del key =>
        match outside.fate with
        | .committed => some (deleteCounter before key)
        | .rolledBack _ => some ((0 : Nat), before)
        | .unacknowledged _ => some ((0 : Nat), (deleteCounter before key).2)

/-! ### drain_view_counts -/

abbrev ViewProgram (α : Type) : Type := Program ViewOp ViewOp.Reply α

/-- `i32::try_from(count).unwrap_or(i32::MAX)`. -/
def boundedIncrement (count : Int) : Int := if count ≤ i32Max then count else i32Max

/-- `u64::saturating_add`. -/
def saturatingAdd (total count : Nat) : Nat := min (total + count) (2 ^ 64 - 1)

/-- One turn of the loop over the keys. -/
def drainKey (key : ViewKey) (total : Nat) : ViewProgram Nat := do
  match ← perform (ViewOp.incrGet key) with
  | none => return total
  | some count =>
      if 0 < count then
        let _ ← perform (ViewOp.addViews key (boundedIncrement count))
        let _ ← perform (ViewOp.del key)
        return saturatingAdd total count.toNat
      else
        let _ ← perform (ViewOp.del key)
        return total

def drainKeys : List ViewKey → Nat → ViewProgram Nat
  | [], total => return total
  | key :: rest, total => do
      let total ← drainKey key total
      drainKeys rest total

def drainTable (table : ViewTable) : ViewProgram Nat := do
  match ← perform (ViewOp.scanKeys table) with
  | none => return 0
  | some keys => drainKeys keys 0

structure DrainReport where
  postsIncremented : Nat
  buildsIncremented : Nat

def drainViewCounts : ViewProgram DrainReport := do
  let postsIncremented ← drainTable .posts
  let buildsIncremented ← drainTable .builds
  return { postsIncremented, buildsIncremented }

/-! ### Any number of views and drains -/

inductive ViewCall where
  | view (key : ViewKey)
  | drain

def viewCode : ViewCall → ViewProgram (Option DrainReport)
  | .view key => do
      let _ ← perform (ViewOp.incr key)
      return none
  | .drain => do
      let report ← drainViewCounts
      return some report

abbrev ViewTurn : Type := Turn ViewStore ViewOp ViewOp.Reply (Option DrainReport)

abbrev ViewState : Type := State ViewStore ViewOp ViewOp.Reply (Option DrainReport)

abbrev ViewRun (start : ViewStore) (history : List ViewTurn) (state : ViewState) : Prop :=
  Run viewServe.handler viewCode ⟨start, []⟩ history state

def ViewStore.counted (store : ViewStore) (key : ViewKey) : Int := (store.counters key).getD 0

def ViewStore.shown (store : ViewStore) (key : ViewKey) : Int := (store.viewCount key).getD 0

/-- The increments of the counter that were made. -/
def madeBy (key : ViewKey) (turn : ViewTurn) : Int :=
  if turn.op = .incr key then turn.after.counted key - turn.before.counted key else 0

def made (key : ViewKey) (history : List ViewTurn) : Int := (history.map (madeBy key)).sum

/-- What a step adds to the row. -/
def addedBy (key : ViewKey) (turn : ViewTurn) : Int := turn.after.shown key - turn.before.shown key

/-- What a drain takes from the counter. -/
def takenBy (key : ViewKey) (turn : ViewTurn) : Int :=
  if turn.op = .del key then turn.before.counted key - turn.after.counted key else 0

/-- What a drain has added to the row and has not taken from the counter. -/
def owed (key : ViewKey) (task : Nat) (history : List ViewTurn) : Int :=
  ((history.filter fun turn => turn.task == task).map fun turn => addedBy key turn - takenBy key turn).sum

/-- A drain that deletes the counter takes what it has added: the value that goes is what the `UPDATE` before it has
added to the row. -/
def TakesWhatItAdded (key : ViewKey) (earlier : List ViewTurn) (turn : ViewTurn) : Prop :=
  turn.op = .del key → takenBy key turn = owed key turn.task earlier

/-- A program that is through, or a view that waits for its increment. -/
def idle : ViewProgram (Option DrainReport) → Bool
  | .done _ => true
  | .call (.incr _) _ => true
  | .call _ _ => false

def NoDrainRuns (state : ViewState) : Prop := ∀ program ∈ state.programs, idle program = true

/-- No view of the key is lost and none is added twice: what was counted before and since is in the row or still in
the counter. -/
def Conserved (start : ViewStore) (key : ViewKey) (history : List ViewTurn) (store : ViewStore) : Prop :=
  start.counted key + made key history = (store.shown key - start.shown key) + store.counted key

instance {key : ViewKey} {earlier : List ViewTurn} {turn : ViewTurn} : Decidable (TakesWhatItAdded key earlier turn) :=
  inferInstanceAs (Decidable (_ → _))

instance {state : ViewState} : Decidable (NoDrainRuns state) := inferInstanceAs (Decidable (∀ _ ∈ _, _))

instance {start store : ViewStore} {key : ViewKey} {history : List ViewTurn} :
    Decidable (Conserved start key history store) := inferInstanceAs (Decidable (_ = _))

/-! ### One step -/

section Step
variable {before after : ViewStore} {op : ViewOp} {reply : op.Reply} {key : ViewKey}

/-- What a step may do to the two stores. -/
inductive ViewStep (before : ViewStore) : ViewOp → ViewStore → Prop where
  | kept (op : ViewOp) : ViewStep before op before
  | counted {key : ViewKey} {value : Int} {after : ViewStore} (incremented : increment before key = some (value, after)) :
      ViewStep before (.incr key) after
  | added {key : ViewKey} {amount : Int} {after : ViewStore} (carried : addViews before key amount = some after) :
      ViewStep before (.addViews key amount) after
  | deleted (key : ViewKey) : ViewStep before (.del key) (deleteCounter before key).2

theorem view_step (served : viewServe.handler before op reply after) : ViewStep before op after := by
  obtain ⟨outside, served⟩ := served
  cases op with
  | incr target =>
      simp only [viewServe] at served
      split at served <;> cases served
      · rename_i incremented
        exact .counted incremented
      · rename_i incremented
        exact .counted incremented
      · exact .kept _
  | scanKeys table =>
      cases served
      exact .kept _
  | incrGet target =>
      cases served
      exact .kept _
  | addViews target amount =>
      simp only [viewServe] at served
      split at served <;> cases served
      · rename_i carried
        exact .added carried
      · rename_i carried
        exact .added carried
      · exact .kept _
      · exact .kept _
  | del target =>
      simp only [viewServe] at served
      split at served <;> cases served
      · exact .deleted target
      · exact .kept _
      · exact .deleted target

/-- The row of a key is changed only by its `UPDATE`. -/
theorem ViewStep.shown (step : ViewStep before op after) (other : ∀ amount, op ≠ .addViews key amount) :
    after.shown key = before.shown key := by
  cases step with
  | kept => rfl
  | counted incremented =>
      simp only [increment] at incremented
      split at incremented <;> cases incremented
      rfl
  | @added target amount after carried =>
      have apart : key ≠ target := fun same => other amount (by rw [same])
      simp only [addViews] at carried
      split at carried
      · cases carried
        rfl
      · split at carried <;> cases carried
        simp [ViewStore.shown, Function.update_of_ne apart]
  | deleted target => rfl

/-- The counter of a key is changed only by its increments and deletions. -/
theorem ViewStep.counted_of_other (step : ViewStep before op after) (increments : op ≠ .incr key) (deletes : op ≠ .del key) :
    after.counted key = before.counted key := by
  cases step with
  | kept => rfl
  | @counted target value after incremented =>
      have apart : key ≠ target := fun same => increments (by rw [same])
      simp only [increment] at incremented
      split at incremented <;> cases incremented
      simp [ViewStore.counted, Function.update_of_ne apart]
  | @added target amount after carried =>
      simp only [addViews] at carried
      split at carried
      · cases carried
        rfl
      · split at carried <;> cases carried
        rfl
  | deleted target =>
      have apart : key ≠ target := fun same => deletes (by rw [same])
      simp [ViewStore.counted, deleteCounter, Function.update_of_ne apart]

end Step

/-! ### The stages of a drain -/

inductive ViewPhase where
  | free
  | read (key : ViewKey)
  | added (key : ViewKey)

def viewNext : ViewPhase → (op : ViewOp) → op.Reply → Option ViewPhase
  | .free, .incr _ => fun _ => some .free
  | .free, .scanKeys _ => fun _ => some .free
  | .free, .incrGet key => fun reply : Option Int => some (if reply.isSome then .read key else .free)
  | .read key, .addViews other _ => fun _ => if other = key then some (.added key) else none
  | .read key, .del other => fun _ => if other = key then some .free else none
  | .added key, .del other => fun _ => if other = key then some .free else none
  | _, _ => fun _ => none

inductive ViewMove : ViewPhase → (op : ViewOp) → op.Reply → ViewPhase → Prop where
  | count (key : ViewKey) (reply : Int) : ViewMove .free (.incr key) reply .free
  | scan (table : ViewTable) (reply : Option (List ViewKey)) : ViewMove .free (.scanKeys table) reply .free
  | missed (key : ViewKey) : ViewMove .free (.incrGet key) none .free
  | got (key : ViewKey) (count : Int) : ViewMove .free (.incrGet key) (some count) (.read key)
  | add (key : ViewKey) (amount : Int) (reply : Except String Unit) :
      ViewMove (.read key) (.addViews key amount) reply (.added key)
  | drop (key : ViewKey) (reply : Nat) : ViewMove (.read key) (.del key) reply .free
  | clear (key : ViewKey) (reply : Nat) : ViewMove (.added key) (.del key) reply .free

theorem view_move {phase next : ViewPhase} {op : ViewOp} {reply : op.Reply}
    (moved : viewNext phase op reply = some next) : ViewMove phase op reply next := by
  cases phase with
  | free =>
      cases op with
      | incr key =>
          cases moved
          exact .count key reply
      | scanKeys table =>
          cases moved
          exact .scan table reply
      | incrGet key =>
          cases reply with
          | none =>
              cases moved
              exact .missed key
          | some count =>
              cases moved
              exact .got key count
      | addViews | del => cases moved
  | read key =>
      cases op with
      | addViews other amount =>
          simp only [viewNext] at moved
          split_ifs at moved with same
          subst same
          cases moved
          exact .add other amount reply
      | del other =>
          simp only [viewNext] at moved
          split_ifs at moved with same
          subst same
          cases moved
          exact .drop other reply
      | incr | scanKeys | incrGet => cases moved
  | added key =>
      cases op with
      | del other =>
          simp only [viewNext] at moved
          split_ifs at moved with same
          subst same
          cases moved
          exact .clear other reply
      | incr | scanKeys | incrGet | addViews => cases moved

def viewEnds {α : Type} (phase : ViewPhase) (_ : α) : Prop := phase = .free

theorem drainKey_follows (key : ViewKey) (total : Nat) : Follows viewNext viewEnds .free (drainKey key total) := by
  rintro (none | count)
  · exact ⟨.free, rfl, rfl⟩
  · refine ⟨.read key, rfl, ?_⟩
    by_cases positive : 0 < count
    · simp only [Program.bind, positive, if_true]
      intro reply
      refine ⟨.added key, if_pos rfl, fun reply => ⟨.free, if_pos rfl, rfl⟩⟩
    · simp only [Program.bind, positive, if_false]
      exact fun reply => ⟨.free, if_pos rfl, rfl⟩

theorem drainKeys_follows (keys : List ViewKey) (total : Nat) :
    Follows viewNext viewEnds .free (drainKeys keys total) := by
  induction keys generalizing total with
  | nil => rfl
  | cons key rest ih =>
      apply follows_then (drainKey_follows key total)
      rintro phase total rfl
      exact ih total

theorem drainTable_follows (table : ViewTable) : Follows viewNext viewEnds .free (drainTable table) := by
  rintro (none | keys)
  · exact ⟨.free, rfl, rfl⟩
  · exact ⟨.free, rfl, drainKeys_follows keys 0⟩

theorem viewCode_follows (call : ViewCall) : Follows viewNext viewEnds .free (viewCode call) := by
  cases call with
  | view key => exact fun reply => ⟨.free, rfl, rfl⟩
  | drain =>
      have drains : Follows viewNext viewEnds .free drainViewCounts := by
        apply follows_then (drainTable_follows .posts)
        rintro phase posts rfl
        apply follows_then (drainTable_follows .builds)
        rintro phase builds rfl
        rfl
      apply follows_then drains
      rintro phase report rfl
      rfl

/-! ### What the drains owe -/

section Owed
variable {key : ViewKey} {history : List ViewTurn} {turn : ViewTurn} {task : Nat}

theorem owed_append : owed key task (history ++ [turn]) =
    owed key task history + if turn.task = task then addedBy key turn - takenBy key turn else 0 := by
  by_cases same : turn.task = task <;> simp [owed, List.filter_append, same]

theorem owed_stranger (absent : ∀ turn ∈ history, turn.task ≠ task) : owed key task history = 0 := by
  have none : (history.filter fun turn => turn.task == task) = [] := by simpa [List.filter_eq_nil_iff] using absent
  simp [owed, none]

/-- A sum is zero if the parts of all tasks are. -/
theorem total_of_tasks {value : ViewTurn → Int} {list : List ViewTurn}
    (each : ∀ task, ((list.filter fun turn => turn.task == task).map value).sum = 0) : (list.map value).sum = 0 := by
  induction length : list.length using Nat.strong_induction_on generalizing list with
  | _ size ih =>
      cases list with
      | nil => rfl
      | cons first rest =>
          have split : ((first :: rest).map value).sum =
              (((first :: rest).filter fun turn => turn.task == first.task).map value).sum +
                (((first :: rest).filter fun turn => !(turn.task == first.task)).map value).sum := by
            rw [← List.sum_append, ← List.map_append]
            exact ((List.filter_append_perm _ _).map value).sum_eq.symm
          have shorter : ((first :: rest).filter fun turn => !(turn.task == first.task)).length < size := by
            have bound := List.length_filter_le (fun turn => !(turn.task == first.task)) rest
            simp only [List.length_cons] at length
            simp only [beq_self_eq_true, Bool.not_true, Bool.false_eq_true, not_false_eq_true, List.filter_cons_of_neg]
            omega
          rw [split, each first.task, zero_add]
          refine ih _ shorter (fun task => ?_) rfl
          by_cases same : task = first.task
          · subst same
            simp [List.filter_filter]
          · have kept : ((first :: rest).filter fun turn => !(turn.task == first.task)).filter (fun turn => turn.task == task) =
                (first :: rest).filter fun turn => turn.task == task := by
              rw [List.filter_filter]
              apply List.filter_congr
              intro turn _
              by_cases here : turn.task = task <;> simp [here, same]
            rw [kept]
            exact each task

/-- A step moves the counter by what it counts and what it takes. -/
theorem ViewStep.balance {turn : ViewTurn} (step : ViewStep turn.before turn.op turn.after) :
    turn.after.counted key = turn.before.counted key + madeBy key turn - takenBy key turn := by
  by_cases increments : turn.op = .incr key
  · have keeps : turn.op ≠ .del key := by simp [increments]
    simp only [madeBy, takenBy, if_pos increments, if_neg keeps]
    omega
  · by_cases deletes : turn.op = .del key
    · simp only [madeBy, takenBy, if_pos deletes, if_neg increments]
      omega
    · simp only [madeBy, takenBy, if_neg increments, if_neg deletes, step.counted_of_other increments deletes]
      omega

end Owed

/-! ### Every run -/

section Runs
variable {start : ViewStore} {history : List ViewTurn} {state : ViewState} {key : ViewKey}

/-- The counter and the row together hold what was counted and what the drains owe. -/
theorem stores_balance (run : ViewRun start history state) :
    state.shared.counted key + state.shared.shown key = start.counted key + start.shown key + made key history +
      (history.map fun turn => addedBy key turn - takenBy key turn).sum := by
  refine run_history (fun history store => store.counted key + store.shown key =
    start.counted key + start.shown key + made key history +
      (history.map fun turn => addedBy key turn - takenBy key turn).sum) ?_ run (by simp [made])
  intro history turn balanced served
  have moved : turn.after.counted key = turn.before.counted key + madeBy key turn - takenBy key turn :=
    (view_step served).balance
  simp only [made, addedBy, List.map_append, List.sum_append, List.map_cons, List.map_nil, List.sum_cons,
    List.sum_nil] at balanced ⊢
  omega

/-- A turn that does not delete the counter and leaves its drain owing nothing starts and ends outside the update. -/
theorem move_settles {phase after : ViewPhase} {op : ViewOp} {reply : op.Reply} (moved : ViewMove phase op reply after)
    (apart : after ≠ .added key) (deletes : op ≠ .del key) : phase ≠ .added key ∧ ∀ amount, op ≠ .addViews key amount := by
  constructor
  · rintro rfl
    cases moved
    exact deletes rfl
  · rintro amount rfl
    cases moved
    exact apart rfl

/-- A step that is neither the `UPDATE` of the row nor the deletion of the counter settles nothing. -/
theorem addedBy_takenBy_other {turn : ViewTurn} (served : viewServe.handler turn.before turn.op turn.reply turn.after)
    (updates : ∀ amount, turn.op ≠ .addViews key amount) (deletes : turn.op ≠ .del key) :
    addedBy key turn - takenBy key turn = 0 := by
  simp only [addedBy, takenBy, (view_step served).shown updates, if_neg deletes]
  omega

/-- Only a drain that has updated the row and has not yet deleted the counter owes anything. -/
def OnlyAddedOwe (key : ViewKey) (history : List ViewTurn) (phases : List ViewPhase) : Prop :=
  (∀ turn ∈ history, turn.task < phases.length) ∧
    ∀ task phase, phases[task]? = some phase → phase ≠ .added key → owed key task history = 0

theorem onlyAddedOwe_joins {phases : List ViewPhase} (held : OnlyAddedOwe key history phases) :
    OnlyAddedOwe key history (phases ++ [.free]) := by
  obtain ⟨inside, settled⟩ := held
  constructor
  · intro turn member
    have bound := inside turn member
    simp only [List.length_append, List.length_cons, List.length_nil]
    omega
  · intro task phase found apart
    by_cases old : task < phases.length
    · exact settled task phase (by simpa [List.getElem?_append_left old] using found) apart
    · exact owed_stranger fun turn member => by have bound := inside turn member; omega

theorem onlyAddedOwe_moves {phases : List ViewPhase} {phase after : ViewPhase} {turn : ViewTurn}
    (held : OnlyAddedOwe key history phases) (found : phases[turn.task]? = some phase)
    (allowed : viewNext phase turn.op turn.reply = some after)
    (served : viewServe.handler turn.before turn.op turn.reply turn.after) (takes : TakesWhatItAdded key history turn) :
    OnlyAddedOwe key (history ++ [turn]) (phases.set turn.task after) := by
  obtain ⟨inside, settled⟩ := held
  have bound : turn.task < phases.length := (List.getElem?_eq_some_iff.mp found).1
  constructor
  · intro other member
    rw [List.length_set]
    rcases List.mem_append.mp member with member | member
    · exact inside other member
    · obtain rfl : other = turn := by simpa using member
      exact bound
  · intro task current found' apart
    rw [owed_append]
    by_cases same : turn.task = task
    · subst same
      obtain rfl : after = current := by simpa [bound] using found'
      rw [if_pos rfl]
      by_cases deletes : turn.op = .del key
      · have taken := takes deletes
        have kept : addedBy key turn = 0 := by simp [addedBy, (view_step served).shown (by simp [deletes])]
        omega
      · have quiet := move_settles (view_move allowed) apart deletes
        rw [settled _ phase found quiet.1, addedBy_takenBy_other served quiet.2 deletes, add_zero]
    · rw [if_neg same, add_zero]
      exact settled task current (by simpa [List.getElem?_set, same] using found') apart

theorem run_owes (run : ViewRun start history state) (takes : Throughout (TakesWhatItAdded key) history) :
    ∃ phases, List.Forall₂ (Follows viewNext viewEnds) phases state.programs ∧ OnlyAddedOwe key history phases := by
  refine run_phases_throughout (fun _ => ViewPhase.free) viewCode_follows
    (fun history _ phases => OnlyAddedOwe key history phases) ⟨by simp, by simp⟩ rfl ?_ ?_ run takes
  · exact fun history shared phases caller held => onlyAddedOwe_joins held
  · intro history phases phase after turn held found allowed served last
    exact onlyAddedOwe_moves held found allowed served last

/-- A program that is through, or waits for its increment, is no drain at work. -/
theorem phase_idle {phase : ViewPhase} {program : ViewProgram (Option DrainReport)}
    (follows : Follows viewNext viewEnds phase program) (through : idle program = true) : phase = .free := by
  cases program with
  | done result => exact follows
  | call op rest =>
      cases op with
      | incr key =>
          obtain ⟨after, allowed, -⟩ := follows (0 : Int)
          cases phase with
          | free => rfl
          | read | added => cases allowed
      | scanKeys | incrGet | addViews | del => cases through

end Runs

/-- Post 1, which nobody has seen. -/
def onePost : ViewStore where
  viewCount := fun key => if key = ⟨.posts, 1⟩ then some 0 else none

end PaladinsCat.Views
