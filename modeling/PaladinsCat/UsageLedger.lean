import PaladinsCat.KeySelection

/-!
The usage ledger: each call that `increment_usage` counts is written to the
repository by some flush. A flush takes all pending increments, writes them, and
puts them back if the write fails; it gives up the lock in between, so any number
of flushes and increments overlap. What is taken is then in the hands of a
program, and a discipline on programs says what each one holds.
-/

namespace PaladinsCat.KeyPool

open Interleaving

/-! ### The flush discipline -/

/-- Where a program stands in `flush_usage`. -/
inductive FlushPhase where
  | idle
  -- it has taken these batches, and the repository has not answered yet
  | holding (batches : List UsageBatch)
  -- the repository refused these batches, and they are not back yet
  | failed (batches : List UsageBatch)

def FlushPhase.batches : FlushPhase → List UsageBatch
  | .idle => []
  | .holding batches | .failed batches => batches

/-- Whoever takes batches writes them next, and puts them back at once when the write fails. -/
def flushNext : FlushPhase → (op : PoolOp) → op.Reply → Option FlushPhase
  | .idle, .takePending, batches => some (if batches.isEmpty then .idle else .holding batches)
  | .idle, .flushUsage _, _ => none
  | .idle, .restorePending _, _ => none
  | .idle, _, _ => some .idle
  | .holding batches, .flushUsage written, reply =>
      if written = batches then
        some (match reply with
          | .ok _ => .idle
          | .error _ => .failed batches)
      else none
  | .failed batches, .restorePending restored, _ =>
      if restored = batches then some .idle else none
  | _, _, _ => none

def PoolOp.movesBatches : PoolOp → Bool
  | .takePending | .flushUsage _ | .restorePending _ => true
  | _ => false

theorem flushNext_idle {op : PoolOp} (other : op.movesBatches = false) (reply : op.Reply) :
    flushNext .idle op reply = some .idle := by
  cases op <;> first | rfl | simp [PoolOp.movesBatches] at other

/-- The program flushes as `flush_usage` does, or not at all. -/
abbrev Flushes {α : Type} (program : PoolProgram α) : Prop :=
  Follows flushNext (fun phase _ => phase = .idle) .idle program

section Flushes
variable {α β : Type}

theorem flushes_done (result : α) : Flushes (.done result) := rfl

theorem flushes_call {op : PoolOp} {rest : op.Reply → PoolProgram α} (other : op.movesBatches = false)
    (continues : ∀ reply, Flushes (rest reply)) : Flushes (.call op rest) :=
  fun reply => ⟨.idle, flushNext_idle other reply, continues reply⟩

theorem flushes_bind {program : PoolProgram α} {rest : α → PoolProgram β}
    (head : Flushes program) (tail : ∀ value, Flushes (rest value)) : Flushes (program >>= rest) := by
  refine follows_bind.mpr (follows_mono ?_ head)
  rintro phase value rfl
  exact tail value

theorem flushes_of_tends {program : PoolProgram α} (tends : Uses PoolOp.tendsKeys program) :
    Flushes program := by
  refine follows_of_uses (fun op reply allowed => flushNext_idle ?_ reply) tends
  cases op <;> first | rfl | exact allowed.elim

end Flushes

theorem flushUsage_flushes : Flushes flushUsage := by
  simp only [Flushes, flushUsage, Program.perform_bind, follows_call]
  intro batches
  refine ⟨_, rfl, ?_⟩
  cases empty : batches.isEmpty with
  | true => simp
  | false =>
      simp only [Bool.false_eq_true, ↓reduceIte, follows_call]
      rintro (error | value) <;> simp [flushNext]

theorem reloadFromRepository_flushes : Flushes reloadFromRepository := by
  simp only [reloadFromRepository, Program.perform_bind]
  refine flushes_call rfl fun rows => ?_
  cases rows with
  | error error => exact flushes_done _
  | ok table => exact flushes_call rfl fun pending => flushes_call rfl fun _ => flushes_done _

theorem initializeLocked_flushes (keyFile : KeyFile) : Flushes (initializeLocked keyFile) := by
  simp only [initializeLocked, Program.perform_bind]
  refine flushes_call rfl fun schema => ?_
  rcases schema with error | _
  · exact flushes_done _
  refine flushes_call rfl fun passed => ?_
  cases passed with
  | false => exact flushes_done _
  | true =>
      refine flushes_bind ?_ fun bootstrapped => ?_
      · rcases keyFile with _ | error | keys
        · exact flushes_done _
        · exact flushes_done _
        · exact flushes_call rfl fun _ => flushes_done _
      · rcases bootstrapped with error | _
        · exact flushes_done _
        refine flushes_bind reloadFromRepository_flushes fun reloaded => ?_
        rcases reloaded with error | _
        · exact flushes_done _
        · exact flushes_call rfl fun _ => flushes_done _

theorem initializePool_flushes (keyFile : KeyFile) : Flushes (initializePool keyFile) := by
  simp only [initializePool, Program.perform_bind]
  refine flushes_call rfl fun _ => flushes_bind (initializeLocked_flushes keyFile) fun result => ?_
  exact flushes_call rfl fun _ => flushes_done _

theorem reload_flushes (keyFile : KeyFile) : Flushes (reload keyFile) := by
  refine flushes_bind flushUsage_flushes fun flushed => ?_
  rcases flushed with error | _
  · exact flushes_done _
  · exact initializePool_flushes keyFile

theorem ensureInitialized_flushes : Flushes ensureInitialized := by
  simp only [ensureInitialized, Program.perform_bind]
  refine flushes_call rfl fun initialized => ?_
  cases initialized with
  | true => exact flushes_done _
  | false => exact initializePool_flushes none

theorem syncAllUsage_flushes (config : Config) : Flushes (syncAllUsage config) := by
  simp only [syncAllUsage, Program.perform_bind]
  refine flushes_bind flushUsage_flushes fun flushed => ?_
  rcases flushed with error | _
  · exact flushes_done _
  refine flushes_call rfl fun cleaned => ?_
  rcases cleaned with error | _
  · exact flushes_done _
  · exact flushes_call rfl fun devIds => flushes_bind (flushes_of_tends (syncEach_tends config _)) fun _ =>
      flushes_call rfl fun _ => flushes_done _

theorem activeKey_flushes (config : Config) : Flushes (activeKey config) := by
  rw [activeKey_eq]
  refine flushes_bind ensureInitialized_flushes fun ready => ?_
  rcases ready with error | _
  · exact flushes_done _
  · exact flushes_of_tends (selectOrRevive_tends config)

theorem poolCode_flushes (config : Config) (caller : PoolCall) : Flushes (poolCode config caller) := by
  cases caller with
  | activeKey => exact flushes_bind (activeKey_flushes config) fun _ => flushes_done _
  | incrementUsage devId => exact flushes_call rfl fun _ => flushes_done _
  | flushUsage => exact flushes_bind flushUsage_flushes fun _ => flushes_done _
  | recordSuccess devId =>
      exact flushes_bind (flushes_of_tends (recordSuccessProgram_tends devId)) fun _ => flushes_done _
  | recordFailure devId keyFault =>
      exact flushes_bind (flushes_of_tends (recordFailureProgram_tends devId keyFault)) fun _ =>
        flushes_done _
  | syncUsage devId =>
      exact flushes_bind (flushes_of_tends (syncUsageInternal_tends config devId)) fun _ =>
        flushes_done _
  | syncAllUsage => exact flushes_bind (syncAllUsage_flushes config) fun _ => flushes_done _
  | reload keyFile => exact flushes_bind (reload_flushes keyFile) fun _ => flushes_done _
  | foreignWrite table => exact flushes_call rfl fun _ => flushes_done _

/-! ### What each call does to the pending increments -/

def batchCalls (devId : String) (batches : List UsageBatch) : Nat :=
  (batches.map fun batch => if batch.devId = devId then batch.calls else 0).sum

@[simp] theorem batchCalls_nil (devId : String) : batchCalls devId [] = 0 := rfl

@[simp] theorem batchCalls_cons (devId : String) (batch : UsageBatch) (rest : List UsageBatch) :
    batchCalls devId (batch :: rest) =
      (if batch.devId = devId then batch.calls else 0) + batchCalls devId rest := by
  simp [batchCalls]

@[simp] theorem batchCalls_append (devId : String) (first second : List UsageBatch) :
    batchCalls devId (first ++ second) = batchCalls devId first + batchCalls devId second := by
  simp [batchCalls]

def pendingOf (inner : KeyPoolInner) (devId : String) : Option Nat :=
  (inner.find devId).map (·.pendingIncrements)

-- A change of one key that does not touch what `view` reads cannot be seen through it.
theorem find_modify_view {β : Type} (view : InMemoryKey → β) (inner : KeyPoolInner) {devId : String}
    {change : InMemoryKey → InMemoryKey} (keeps : ∀ key, (change key).devId = key.devId)
    (same : ∀ key, view (change key) = view key) (other : String) :
    ((inner.modify devId change).find other).map view = (inner.find other).map view := by
  rw [KeyPoolInner.find_modify inner keeps, Option.map_map]
  congr 1
  funext key
  by_cases hit : other = devId
  · simp [hit, same]
  · simp [hit]

theorem find_foldl_modify (batches : List UsageBatch) (inner : KeyPoolInner)
    {change : UsageBatch → InMemoryKey → InMemoryKey}
    (keeps : ∀ batch key, (change batch key).devId = key.devId) (devId : String) :
    (batches.foldl (fun inner batch => inner.modify batch.devId (change batch)) inner).find devId =
      (inner.find devId).map fun key => batches.foldl
        (fun key batch => if devId = batch.devId then change batch key else key) key := by
  have keys : (batches.foldl (fun inner batch => inner.modify batch.devId (change batch)) inner).keys =
      batches.foldl (fun keys batch =>
        KeyedList.update InMemoryKey.devId batch.devId (change batch) keys) inner.keys :=
    (List.foldl_hom KeyPoolInner.keys fun _ _ => rfl).symm
  rw [KeyPoolInner.find, keys]
  exact KeyedList.lookup_foldl_update keeps batches devId inner.keys

def restored (devId : String) (batches : List UsageBatch) (pending : Nat) : Nat :=
  batches.foldl (fun pending batch =>
    if devId = batch.devId then saturatingAdd u64Max pending batch.calls else pending) pending

theorem le_restored (devId : String) (batches : List UsageBatch) (pending : Nat) :
    pending ≤ restored devId batches pending := by
  induction batches generalizing pending with
  | nil => exact Nat.le_refl _
  | cons batch rest ih =>
      refine Nat.le_trans ?_ (ih _)
      dsimp only
      split
      · exact Nat.le_add_right _ _
      · exact Nat.le_refl _

theorem restored_eq {devId : String} {batches : List UsageBatch} {pending : Nat}
    (fits : restored devId batches pending < u64Max) :
    restored devId batches pending = pending + batchCalls devId batches := by
  induction batches generalizing pending with
  | nil => rfl
  | cons batch rest ih =>
      have below := Nat.lt_of_le_of_lt (le_restored devId rest _) fits
      have tail := ih fits
      simp only [restored, List.foldl_cons] at tail ⊢
      rw [tail, batchCalls_cons]
      by_cases hit : devId = batch.devId
      · simp only [hit, ↓reduceIte, saturatingAdd] at below ⊢
        omega
      · simp only [hit, ↓reduceIte, Ne.symm hit]
        omega

theorem pendingOf_restorePending (batches : List UsageBatch) (inner : KeyPoolInner) (devId : String) :
    pendingOf (restorePending batches inner) devId =
      (pendingOf inner devId).map (restored devId batches) := by
  rw [pendingOf, restorePending, find_foldl_modify batches inner, pendingOf, Option.map_map,
    Option.map_map]
  · congr 1
    funext key
    refine (List.foldl_hom InMemoryKey.pendingIncrements fun key batch => ?_).symm
    split <;> rfl
  · exact fun _ _ => rfl

theorem pendingOf_incrementUsage (config : Config) (charged devId : String) (inner : KeyPoolInner) :
    pendingOf (incrementUsage config charged inner) devId = (pendingOf inner devId).map fun pending =>
      if devId = charged then saturatingAdd u64Max pending 1 else pending := by
  rw [pendingOf, incrementUsage, KeyPoolInner.clearActive_find,
    KeyPoolInner.find_modify inner (chargedKey_devId config), pendingOf, Option.map_map, Option.map_map]
  congr 1
  funext key
  by_cases hit : devId = charged
  · simp [hit, chargedKey]
  · simp [hit]

theorem pendingOf_takePending (inner : KeyPoolInner) (devId : String) :
    pendingOf (takePending inner).2 devId = (pendingOf inner devId).map fun _ => 0 := by
  have found : (takePending inner).2.find devId =
      (inner.find devId).map fun key => { key with pendingIncrements := 0 } := by
    refine KeyedList.lookup_map ?_ devId inner.keys
    exact fun _ => rfl
  rw [pendingOf, found, pendingOf, Option.map_map, Option.map_map]
  rfl

-- Each key is in the batch once, with all it had pending.
theorem batchCalls_takePending {inner : KeyPoolInner} (distinct : (inner.keys.map (·.devId)).Nodup)
    (devId : String) : batchCalls devId (takePending inner).1 = (pendingOf inner devId).getD 0 := by
  have each : ∀ keys : List InMemoryKey, (keys.map (·.devId)).Nodup →
      batchCalls devId (keys.filterMap fun key =>
        if key.pendingIncrements = 0 then none else some ⟨key.devId, key.pendingIncrements⟩) =
      ((KeyedList.lookup InMemoryKey.devId devId keys).map (·.pendingIncrements)).getD 0 := by
    intro keys distinct
    induction keys with
    | nil => rfl
    | cons key rest ih =>
        rw [List.map_cons, List.nodup_cons] at distinct
        have tail := ih distinct.2
        have head : batchCalls devId ((key :: rest).filterMap fun key =>
            if key.pendingIncrements = 0 then none else some ⟨key.devId, key.pendingIncrements⟩) =
            (if key.devId = devId then key.pendingIncrements else 0) +
              ((KeyedList.lookup InMemoryKey.devId devId rest).map (·.pendingIncrements)).getD 0 := by
          rw [← tail]
          by_cases zero : key.pendingIncrements = 0
          · simp [zero]
          · simp [zero]
        rw [head]
        by_cases hit : key.devId = devId
        · have absent := KeyedList.lookup_eq_none_iff.mpr (hit ▸ distinct.1)
          simp [KeyedList.lookup_cons, hit, absent]
        · simp [KeyedList.lookup_cons, hit]
  exact each inner.keys distinct

def PoolOp.movesPending : PoolOp → Bool
  | .incrementUsage _ | .takePending | .restorePending _ | .replaceKeys _ _ => true
  | _ => false

theorem pendingOf_modify (inner : KeyPoolInner) {changed : String} {change : InMemoryKey → InMemoryKey}
    (keeps : ∀ key, (change key).devId = key.devId)
    (same : ∀ key, (change key).pendingIncrements = key.pendingIncrements) (devId : String) :
    pendingOf (inner.modify changed change) devId = pendingOf inner devId :=
  find_modify_view InMemoryKey.pendingIncrements inner keeps same devId

theorem pendingOf_addCallsTotal (batches : List UsageBatch) (inner : KeyPoolInner) (devId : String) :
    pendingOf (addCallsTotal batches inner) devId = pendingOf inner devId := by
  unfold addCallsTotal
  induction batches generalizing inner with
  | nil => rfl
  | cons batch rest ih =>
      rw [List.foldl_cons, ih]
      refine pendingOf_modify inner ?_ ?_ devId <;> exact fun _ => rfl

theorem pendingOf_innerAfter {config : Config} {op : PoolOp} (other : op.movesPending = false)
    {inner : KeyPoolInner} (valid : ActiveUsable config inner) (devId : String) :
    pendingOf (innerAfter config op inner) devId = pendingOf inner devId := by
  cases op with
  | incrementUsage | takePending | restorePending | replaceKeys => simp [PoolOp.movesPending] at other
  | selectSticky =>
      simp only [innerAfter, selectSticky_of_activeUsable valid]
      split <;> rfl
  | selectAvailable =>
      simp only [innerAfter, selectAvailable]
      split <;> rfl
  | addCallsTotal batches => exact pendingOf_addCallsTotal batches inner devId
  | recordSuccess charged => exact pendingOf_modify inner succeededKey_devId (fun _ => rfl) devId
  | recordFailure charged =>
      simp only [innerAfter, recordFailure, pendingOf, KeyPoolInner.clearActive_find]
      exact pendingOf_modify inner failedKey_devId (fun _ => rfl) devId
  | beginRevival now =>
      simp only [innerAfter, beginRevival]
      split <;> rfl
  | storeReport reported report =>
      simp only [innerAfter, storeReport, pendingOf, KeyPoolInner.clearActive_find]
      exact pendingOf_modify inner (reportedKey_devId config · report) (fun _ => rfl) devId
  | storeEstimate revived estimated now =>
      simp only [innerAfter, storeEstimate]
      split
      · rfl
      · split
        · exact pendingOf_modify inner (estimatedKey_devId config · estimated) (fun _ => rfl) devId
        · rfl
  | _ => rfl

/-! ### What a turn moves -/

/-- The batches that a waiting program holds: taken from the pool, and neither
written nor put back. -/
def heldBatch {α : Type} : PoolProgram α → List UsageBatch
  | .call (.flushUsage batches) _ => batches
  | .call (.restorePending batches) _ => batches
  | _ => []

def heldCalls {α : Type} (devId : String) (programs : List (PoolProgram α)) : Nat :=
  (programs.map fun program => batchCalls devId (heldBatch program)).sum

theorem reply_nonempty (op : PoolOp) : Nonempty op.Reply := by
  cases op <;> first
    | exact ⟨()⟩ | exact ⟨false⟩ | exact ⟨none⟩ | exact ⟨[]⟩ | exact ⟨(0 : Int)⟩ | exact ⟨fun _ => none⟩
    | exact ⟨.error (.probe "")⟩ | exact ⟨StickyReply.passed⟩

theorem heldBatch_of_follows {α : Type} {phase : FlushPhase} {program : PoolProgram α}
    (follows : Follows flushNext (fun phase _ => phase = .idle) phase program) :
    heldBatch program = phase.batches := by
  cases program with
  | done result =>
      rw [follows_done] at follows
      rw [follows]
      rfl
  | call op rest =>
      obtain ⟨reply⟩ := reply_nonempty op
      obtain ⟨_, allowed, _⟩ := follows reply
      cases phase with
      | idle => cases op <;> first | rfl | simp [flushNext] at allowed
      | holding batches =>
          cases op with
          | flushUsage written =>
              by_cases same : written = batches
              · exact same
              · simp [flushNext, same] at allowed
          | _ => simp [flushNext] at allowed
      | failed batches =>
          cases op with
          | restorePending restored =>
              by_cases same : restored = batches
              · exact same
              · simp [flushNext, same] at allowed
          | _ => simp [flushNext] at allowed

def owed (devId : String) (phases : List FlushPhase) : Nat :=
  (phases.map fun phase => batchCalls devId phase.batches).sum

theorem owed_eq_heldCalls {α : Type} {phases : List FlushPhase} {programs : List (PoolProgram α)}
    (follow : List.Forall₂ (Follows flushNext (fun phase _ => phase = .idle)) phases programs)
    (devId : String) : owed devId phases = heldCalls devId programs := by
  induction follow with
  | nil => rfl
  | cons head _ ih =>
      simp only [owed, heldCalls, List.map_cons, List.sum_cons, heldBatch_of_follows head] at ih ⊢
      rw [ih]

def PoolOp.charges (devId : String) : PoolOp → Bool
  | .incrementUsage charged => decide (devId = charged)
  | _ => false

def takenBy : (op : PoolOp) → op.Reply → List UsageBatch
  | .takePending, batches => batches
  | _, _ => []

def writtenBy : (op : PoolOp) → op.Reply → List UsageBatch
  | .flushUsage batches, .ok _ => batches
  | _, _ => []

def restoredBy : PoolOp → List UsageBatch
  | .restorePending batches => batches
  | _ => []

section Turn
variable {config : Config} {before after : Pool} {op : PoolOp} {reply : op.Reply} {devId : String}

theorem committed_turn (devId : String) (answered : (serve config).handler before op reply after) :
    batchCalls devId after.committed =
      batchCalls devId before.committed + batchCalls devId (writtenBy op reply) := by
  rw [(serve_effect answered).2.2]
  cases op with
  | flushUsage batches => rcases reply with error | _ <;> simp [committedAfter, writtenBy]
  | _ => rfl

theorem held_turn (devId : String) {phase next : FlushPhase} (allowed : flushNext phase op reply = some next) :
    batchCalls devId next.batches + batchCalls devId (writtenBy op reply) +
        batchCalls devId (restoredBy op) =
      batchCalls devId phase.batches + batchCalls devId (takenBy op reply) := by
  cases phase with
  | idle =>
      cases op with
      | takePending =>
          have batches : next.batches = reply := by
            simp only [flushNext, Option.some.injEq] at allowed
            subst allowed
            cases reply <;> rfl
          rw [batches]
          simp [writtenBy, restoredBy, takenBy, FlushPhase.batches]
      | flushUsage | restorePending => simp [flushNext] at allowed
      | _ =>
          obtain rfl : FlushPhase.idle = next := by simpa [flushNext] using allowed
          rfl
  | holding batches =>
      cases op with
      | flushUsage written =>
          by_cases same : written = batches
          · subst same
            rcases reply with error | _ <;>
              obtain rfl : _ = next := by simpa [flushNext] using allowed
            all_goals simp [FlushPhase.batches, writtenBy, restoredBy, takenBy]
          · simp [flushNext, same] at allowed
      | _ => simp [flushNext] at allowed
  | failed batches =>
      cases op with
      | restorePending restored =>
          by_cases same : restored = batches
          · subst same
            obtain rfl : FlushPhase.idle = next := by simpa [flushNext] using allowed
            simp [FlushPhase.batches, writtenBy, restoredBy, takenBy]
          · simp [flushNext, same] at allowed
      | _ => simp [flushNext] at allowed

theorem serve_takePending {reply : List UsageBatch}
    (answered : (serve config).handler before .takePending reply after) :
    reply = (takePending before.inner).1 := by
  obtain ⟨outside, served⟩ := answered
  cases served
  rfl

/-- A key gains what is charged or put back and loses what is taken. -/
theorem pending_turn (valid : ActiveUsable config before.inner)
    (answered : (serve config).handler before op reply after) (noReload : op.reloads = false)
    {pending : Nat} (found : pendingOf after.inner devId = some pending) (fits : pending < u64Max) :
    ∃ earlier, pendingOf before.inner devId = some earlier ∧
      pending + batchCalls devId (takenBy op reply) =
        earlier + (op.charges devId).toNat + batchCalls devId (restoredBy op) := by
  rw [serve_inner answered] at found
  cases op with
  | incrementUsage charged =>
      simp only [innerAfter] at found
      rw [pendingOf_incrementUsage, Option.map_eq_some_iff] at found
      obtain ⟨earlier, found, rfl⟩ := found
      refine ⟨earlier, found, ?_⟩
      by_cases hit : devId = charged
      · simp only [hit, ↓reduceIte, saturatingAdd] at fits ⊢
        simp only [PoolOp.charges, decide_true, Bool.toNat_true, takenBy, restoredBy, batchCalls_nil]
        omega
      · simp [hit, takenBy, restoredBy, PoolOp.charges]
  | takePending =>
      simp only [innerAfter] at found
      rw [pendingOf_takePending, Option.map_eq_some_iff] at found
      obtain ⟨earlier, found, rfl⟩ := found
      have taken := batchCalls_takePending valid.distinct devId
      rw [← serve_takePending answered, found, Option.getD_some] at taken
      exact ⟨earlier, found, by simp [takenBy, restoredBy, PoolOp.charges, taken]⟩
  | restorePending batches =>
      simp only [innerAfter] at found
      rw [pendingOf_restorePending, Option.map_eq_some_iff] at found
      obtain ⟨earlier, found, rfl⟩ := found
      exact ⟨earlier, found, by simp [restored_eq fits, takenBy, restoredBy, PoolOp.charges]⟩
  | replaceKeys => simp [PoolOp.reloads] at noReload
  | _ =>
      rw [pendingOf_innerAfter (by rfl) valid] at found
      exact ⟨pending, found, rfl⟩

end Turn

/-! ### Conservation -/

def chargedCalls (devId : String) (history : List PoolTurn) : Nat :=
  history.countP fun turn => turn.op.charges devId

theorem chargedCalls_append (devId : String) (history : List PoolTurn) (turn : PoolTurn) :
    chargedCalls devId (history ++ [turn]) = chargedCalls devId history + (turn.op.charges devId).toNat := by
  rw [chargedCalls, chargedCalls, List.countP_append, List.countP_singleton]
  cases turn.op.charges devId <;> rfl

theorem owed_set (devId : String) {phases : List FlushPhase} {task : Nat} {phase : FlushPhase}
    (found : phases[task]? = some phase) (after : FlushPhase) :
    owed devId (phases.set task after) + batchCalls devId phase.batches =
      owed devId phases + batchCalls devId after.batches :=
  total_set (fun phase : FlushPhase => batchCalls devId phase.batches) found after

theorem owed_append_idle (devId : String) (phases : List FlushPhase) :
    owed devId (phases ++ [.idle]) = owed devId phases := by
  simp [owed, FlushPhase.batches]

/-- No counter of pending increments has reached the maximum of its type. -/
def PendingFits (inner : KeyPoolInner) : Prop :=
  ∀ key ∈ inner.keys, key.pendingIncrements < u64Max

instance (inner : KeyPoolInner) : Decidable (PendingFits inner) :=
  inferInstanceAs (Decidable (∀ key ∈ inner.keys, key.pendingIncrements < u64Max))

theorem pendingOf_fits {inner : KeyPoolInner} (fits : PendingFits inner) {devId : String} {pending : Nat}
    (found : pendingOf inner devId = some pending) : pending < u64Max := by
  obtain ⟨key, foundKey, rfl⟩ := Option.map_eq_some_iff.mp found
  exact fits key (inner.find_mem foundKey).1

/-- The books of one key: what was pending at the start and every charge since is
committed, held by a flush, or pending. -/
def Conserved (start : KeyPoolInner) (history : List PoolTurn) (pool : Pool) (phases : List FlushPhase)
    (devId : String) : Prop :=
  ∀ pending, pendingOf pool.inner devId = some pending →
    ∃ initial, pendingOf start devId = some initial ∧
      initial + chargedCalls devId history =
        batchCalls devId pool.committed + owed devId phases + pending

theorem conserved_moves {config : Config} {start : KeyPoolInner} {history : List PoolTurn}
    {phases : List FlushPhase} {phase after : FlushPhase} {turn : PoolTurn} {devId : String}
    (valid : ActiveUsable config turn.before.inner)
    (conserved : Conserved start history turn.before phases devId)
    (here : phases[turn.task]? = some phase)
    (allowed : flushNext phase turn.op turn.reply = some after)
    (answered : (serve config).handler turn.before turn.op turn.reply turn.after)
    (noReload : turn.op.reloads = false) (fits : PendingFits turn.after.inner) :
    Conserved start (history ++ [turn]) turn.after (phases.set turn.task after) devId := by
  intro pending found
  obtain ⟨earlier, foundEarlier, moved⟩ :=
    pending_turn valid answered noReload found (pendingOf_fits fits found)
  obtain ⟨initial, foundInitial, balance⟩ := conserved earlier foundEarlier
  refine ⟨initial, foundInitial, ?_⟩
  have committed := committed_turn devId answered
  have held := held_turn devId allowed
  have total := owed_set devId here after
  rw [chargedCalls_append]
  omega

theorem conserved_run {config : Config} {keys : List InMemoryKey} {table : KeyTable}
    {history : List PoolTurn} {state : PoolState} (distinct : (keys.map (·.devId)).Nodup)
    (run : PoolRun config (initialState keys table) history state) :
    ∃ phases, List.Forall₂ (Follows flushNext (fun phase _ => phase = .idle)) phases state.programs ∧
      ActiveUsable config state.shared.inner ∧
      ((∀ turn ∈ history, turn.op.reloads = false ∧ PendingFits turn.after.inner) →
        ∀ devId, Conserved (.fresh keys) history state.shared phases devId) := by
  refine run_phases (fun _ => FlushPhase.idle) (poolCode_flushes config)
    (fun history pool phases => ActiveUsable config pool.inner ∧
      ((∀ turn ∈ history, turn.op.reloads = false ∧ PendingFits turn.after.inner) →
        ∀ devId, Conserved (.fresh keys) history pool phases devId))
    ⟨⟨distinct, by simp [initialState, KeyPoolInner.fresh]⟩, ?_⟩ rfl ?_ ?_ run
  · intro _ devId pending found
    exact ⟨pending, found, by simp [chargedCalls, owed, initialState]⟩
  · rintro history pool phases _ ⟨valid, conserved⟩
    refine ⟨valid, fun steps devId pending found => ?_⟩
    rw [owed_append_idle]
    exact conserved steps devId pending found
  · rintro history phases phase after turn ⟨valid, conserved⟩ _ here allowed answered
    refine ⟨serve_inner answered ▸ activeUsable_innerAfter turn.op valid, fun steps devId => ?_⟩
    obtain ⟨noReload, fits⟩ := steps turn (by simp)
    exact conserved_moves valid
      (conserved (fun turn taken => steps turn (List.mem_append_left _ taken)) devId)
      here allowed answered noReload fits

/-- Without a reload, and while no counter overflows, every key in every reachable
state has its charges in exactly one place: committed to the repository, held by
an unfinished flush, or pending. -/
theorem increments_conserved_in_every_run {config : Config} {keys : List InMemoryKey} {table : KeyTable}
    {history : List PoolTurn} {state : PoolState} (distinct : (keys.map (·.devId)).Nodup)
    (run : PoolRun config (initialState keys table) history state)
    (noReload : ∀ turn ∈ history, turn.op.reloads = false)
    (fits : ∀ turn ∈ history, PendingFits turn.after.inner) :
    ∀ key ∈ state.shared.inner.keys, ∃ initial ∈ keys, initial.devId = key.devId ∧
      initial.pendingIncrements + chargedCalls key.devId history =
        batchCalls key.devId state.shared.committed + heldCalls key.devId state.programs +
          key.pendingIncrements := by
  obtain ⟨phases, follow, valid, conserved⟩ := conserved_run distinct run
  intro key member
  have found := state.shared.inner.find_of_mem valid.distinct member
  obtain ⟨_, foundInitial, balance⟩ :=
    conserved (fun turn taken => ⟨noReload turn taken, fits turn taken⟩) key.devId
      key.pendingIncrements (by rw [pendingOf, found, Option.map_some])
  obtain ⟨initial, foundKey, rfl⟩ := Option.map_eq_some_iff.mp foundInitial
  obtain ⟨initialMember, same⟩ := KeyPoolInner.find_mem _ foundKey
  exact ⟨initial, initialMember, same, by rw [balance, owed_eq_heldCalls follow]⟩

-- Two flushes overlap: the second takes an increment that came after the first
-- took its batch; the first write fails, the second has not been answered.
def overlappingFlushes : List (Move PoolCall Outside) :=
  [.enter (.incrementUsage "1000"), .turn 0 {}, .enter .flushUsage, .turn 1 {},
    .enter (.incrementUsage "1000"), .turn 2 {}, .enter .flushUsage, .turn 3 {},
    .turn 1 { failure := some (.repository "refused") }, .turn 1 {}]

theorem increments_conserved_by_overlapping_flushes :
    ∃ history state, PoolRun testConfig (initialState [testKey "1000" 0 false] emptyTable)
        history state ∧
      chargedCalls "1000" history = 2 ∧ heldCalls "1000" state.programs = 1 ∧
      ∀ key ∈ state.shared.inner.keys, ∃ initial ∈ [testKey "1000" 0 false],
        initial.devId = key.devId ∧
        initial.pendingIncrements + chargedCalls key.devId history =
          batchCalls key.devId state.shared.committed + heldCalls key.devId state.programs +
            key.pendingIncrements := by
  have passed : (replay (serve testConfig) (poolCode testConfig)
      (initialState [testKey "1000" 0 false] emptyTable) overlappingFlushes).any
      (fun outcome => decide ((chargedCalls "1000" outcome.1 = 2 ∧
          heldCalls "1000" outcome.2.programs = 1) ∧
        (∀ turn ∈ outcome.1, turn.op.reloads = false) ∧
        ∀ turn ∈ outcome.1, PendingFits turn.after.inner)) = true := by decide
  obtain ⟨history, state, run, tested⟩ := replay_reaches passed
  obtain ⟨⟨charged, held⟩, noReload, fits⟩ := of_decide_eq_true tested
  exact ⟨history, state, run, charged, held,
    increments_conserved_in_every_run (by decide) run noReload fits⟩

end PaladinsCat.KeyPool
