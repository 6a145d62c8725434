import PaladinsCat.KeySelection

/-!
The revival of an exhausted pool. A caller of `active_key` that finds no key takes
`revival_lock`, looks again, and then either passes the cooldown and syncs every
key, or is refused. The test of the cooldown and the note of the attempt are one
lock section of `inner`; the sweep over the keys is many. Other callers of
`active_key` wait at the lock meanwhile, and callers of all other methods run on.
-/

namespace PaladinsCat.KeyPool

open Interleaving Program

def PoolOp.revives : PoolOp → Bool
  | .beginRevival _ | .lock .revival | .unlock .revival => true
  | _ => false

def PoolOp.probes : PoolOp → Bool
  | .getDataUsed _ => true
  | _ => false

/-- The clock reading at which a call starts a sweep. -/
def PoolOp.startsSweep : (op : PoolOp) → op.Reply → Option Int
  | .beginRevival now, true => some now
  | _, _ => none

def PoolOp.isRefused : (op : PoolOp) → op.Reply → Bool
  | .beginRevival _, false => true
  | _, _ => false

/-! ### The phases of active_key -/

inductive RevivalPhase where
  -- a caller of another method
  | elsewhere
  -- has not taken the lock
  | selecting
  | holding
  | sweeping
  -- is within the cooldown
  | refused
  | returned (refused : Bool)
  deriving DecidableEq

namespace RevivalPhase

def hasLock : RevivalPhase → Bool
  | .holding | .sweeping | .refused => true
  | _ => false

-- A caller that has been refused, or that has not been granted a sweep yet, has
-- no probe behind it.
def mayHaveProbed : RevivalPhase → Bool
  | .elsewhere | .sweeping | .returned false => true
  | _ => false

def wasRefused : RevivalPhase → Bool
  | .refused | .returned true => true
  | _ => false

def hasStarted : RevivalPhase → Bool
  | .sweeping | .returned false => true
  | _ => false

theorem unprobed_of_refused {phase : RevivalPhase} (refused : phase.wasRefused = true) :
    phase.mayHaveProbed = false := by
  cases phase with
  | returned denied => cases denied <;> first | rfl | cases refused
  | refused => rfl
  | _ => cases refused

end RevivalPhase

/-- A call that is no part of the revival itself. -/
def RevivalPhase.afterPlain (op : PoolOp) : RevivalPhase → Option RevivalPhase
  | .elsewhere => some .elsewhere
  | .selecting => if op.probes then none else some .selecting
  | .holding => if op.probes then none else some .holding
  | .sweeping => some .sweeping
  | .refused | .returned _ => none

def revivalNext : RevivalPhase → (op : PoolOp) → op.Reply → Option RevivalPhase
  | .selecting, .lock .revival, _ => some .holding
  | .holding, .beginRevival _, granted => some (if granted then .sweeping else .refused)
  | .holding, .unlock .revival, _ => some (.returned false)
  | .sweeping, .unlock .revival, _ => some (.returned false)
  | .refused, .unlock .revival, _ => some (.returned true)
  | phase, op, _ => if op.revives then none else phase.afterPlain op

def onCooldown : KeyPoolError := .exhausted
  "CRITICAL: All API keys exhausted or at/below reserve threshold. Revival on cooldown."

-- A refused caller returns the cooldown error.
def Revived : RevivalPhase → Except KeyPoolError ApiKeyStatus → Prop
  | .returned true, result => result = .error onCooldown
  | phase, _ => phase = .selecting ∨ phase = .returned false

def Concluded : RevivalPhase → PoolResult → Prop
  | .elsewhere, _ => True
  | phase, .key result => Revived phase result
  | _, _ => False

def firstPhase : PoolCall → RevivalPhase
  | .activeKey => .selecting
  | _ => .elsewhere

section Programs

theorem revivalNext_plain {op : PoolOp} (aside : op.revives = false) (phase : RevivalPhase)
    (reply : op.Reply) : revivalNext phase op reply = phase.afterPlain op := by
  cases op with
  | lock mutex | unlock mutex =>
      cases mutex with
      | init => cases phase <;> rfl
      | revival => cases aside
  | beginRevival now => cases aside
  | _ => cases phase <;> rfl

theorem elsewhere_stays (op : PoolOp) (reply : op.Reply) (aside : op.revives = false) :
    revivalNext .elsewhere op reply = some .elsewhere := revivalNext_plain aside _ _

theorem sweeping_stays (op : PoolOp) (reply : op.Reply) (aside : op.revives = false) :
    revivalNext .sweeping op reply = some .sweeping := revivalNext_plain aside _ _

theorem selecting_stays (op : PoolOp) (reply : op.Reply) (aside : op.revives = false)
    (unasked : op.probes = false) : revivalNext .selecting op reply = some .selecting := by
  rw [revivalNext_plain aside]
  simp [RevivalPhase.afterPlain, unasked]

theorem holding_stays (op : PoolOp) (reply : op.Reply) (aside : op.revives = false)
    (unasked : op.probes = false) : revivalNext .holding op reply = some .holding := by
  rw [revivalNext_plain aside]
  simp [RevivalPhase.afterPlain, unasked]

theorem selects_quiet (op : PoolOp) (selects : op.selects) : op.revives = false ∧ op.probes = false := by
  cases op <;> first | exact ⟨rfl, rfl⟩ | exact selects.elim

theorem syncs_quiet (op : PoolOp) (syncs : op.syncs) : op.revives = false := by
  cases op <;> first | rfl | exact syncs.elim

/-- The calls that neither revive nor probe. -/
def PoolOp.plain (op : PoolOp) : Prop := op.revives = false ∧ op.probes = false

/-- The calls that leave the reports and the estimates of the keys alone, too. -/
def PoolOp.aside (op : PoolOp) : Bool :=
  !op.revives && !op.probes && match op with
    | .revivalEligible _ _ | .localUsageEstimate _ | .storeEstimate _ _ _ | .storeReport _ _ => false
    | _ => true

theorem plain_of_aside (op : PoolOp) (aside : op.aside = true) : op.plain := by
  simp only [PoolOp.aside, Bool.and_eq_true, Bool.not_eq_true'] at aside
  exact aside.1

theorem selects_aside (op : PoolOp) (selects : op.selects) : op.aside = true := by
  cases op <;> first | rfl | exact selects.elim

theorem flushUsage_aside : Uses (·.aside = true) flushUsage := by
  simp only [flushUsage, perform_bind]
  refine ⟨rfl, fun batches => ?_⟩
  cases batches with
  | nil => trivial
  | cons batch rest =>
      refine ⟨rfl, fun written => ?_⟩
      rcases written with error | _
      · exact ⟨rfl, fun _ => trivial⟩
      · exact ⟨rfl, fun _ => trivial⟩

theorem reloadFromRepository_aside : Uses (·.aside = true) reloadFromRepository := by
  simp only [reloadFromRepository, perform_bind]
  refine ⟨rfl, fun loaded => ?_⟩
  rcases loaded with error | table
  · trivial
  · exact ⟨rfl, fun _ => ⟨rfl, fun _ => trivial⟩⟩

theorem bootstrapKeysFromFile_aside (keyFile : KeyFile) :
    Uses (·.aside = true) (bootstrapKeysFromFile keyFile) := by
  rcases keyFile with _ | error | keys
  · trivial
  · trivial
  · exact ⟨rfl, fun _ => trivial⟩

theorem initializeLocked_aside (keyFile : KeyFile) :
    Uses (·.aside = true) (initializeLocked keyFile) := by
  simp only [initializeLocked, perform_bind]
  refine ⟨rfl, fun schema => ?_⟩
  rcases schema with error | _
  · trivial
  refine ⟨rfl, fun passed => ?_⟩
  cases passed with
  | false => trivial
  | true =>
      refine uses_bind (bootstrapKeysFromFile_aside keyFile) fun bootstrapped => ?_
      rcases bootstrapped with error | _
      · trivial
      refine uses_bind reloadFromRepository_aside fun reloaded => ?_
      rcases reloaded with error | _
      · trivial
      · exact ⟨rfl, fun _ => trivial⟩

theorem initializePool_aside (keyFile : KeyFile) : Uses (·.aside = true) (initializePool keyFile) := by
  simp only [initializePool, perform_bind]
  refine ⟨rfl, fun _ => uses_bind (initializeLocked_aside keyFile) fun _ => ?_⟩
  exact ⟨rfl, fun _ => trivial⟩

theorem ensureInitialized_aside : Uses (·.aside = true) ensureInitialized := by
  simp only [ensureInitialized, perform_bind]
  refine ⟨rfl, fun initialized => ?_⟩
  cases initialized with
  | false => exact initializePool_aside none
  | true => trivial

theorem reload_aside (keyFile : KeyFile) : Uses (·.aside = true) (reload keyFile) := by
  refine uses_bind flushUsage_aside fun flushed => ?_
  rcases flushed with error | _
  · trivial
  · exact initializePool_aside keyFile

theorem recordSuccessProgram_aside (devId : String) :
    Uses (·.aside = true) (recordSuccessProgram devId) := by
  simp only [recordSuccessProgram, perform_bind]
  refine ⟨rfl, fun update => ?_⟩
  rcases update with _ | ⟨status, failures⟩
  · trivial
  · exact ⟨rfl, fun _ => trivial⟩

theorem recordFailureProgram_aside (devId : String) (keyFault : Bool) :
    Uses (·.aside = true) (recordFailureProgram devId keyFault) := by
  cases keyFault with
  | false => trivial
  | true =>
      refine ⟨rfl, fun update => ?_⟩
      rcases update with _ | ⟨status, failures⟩
      · trivial
      · exact ⟨rfl, fun _ => trivial⟩

theorem syncAllUsage_lockless (config : Config) :
    Uses (fun op => op.revives = false) (syncAllUsage config) := by
  simp only [syncAllUsage, perform_bind]
  refine uses_bind (uses_mono (fun op aside => (plain_of_aside op aside).1) flushUsage_aside) fun flushed => ?_
  rcases flushed with error | _
  · trivial
  refine ⟨rfl, fun cleaned => ?_⟩
  rcases cleaned with error | _
  · trivial
  refine ⟨rfl, fun devIds => ?_⟩
  exact uses_bind (uses_mono syncs_quiet (syncEach_syncs config _)) fun _ => ⟨rfl, fun _ => trivial⟩

theorem reviveAndSelect_revives (config : Config) :
    Follows revivalNext (fun phase result => phase = .holding ∨ phase = .sweeping ∨
      phase = .refused ∧ result = .error onCooldown) .holding (reviveAndSelect config) := by
  have looks : Follows revivalNext (fun phase _ => phase = .holding) .holding selectAvailableKey :=
    follows_of_uses (fun op reply selects => holding_stays op reply (selects_quiet op selects).1
      (selects_quiet op selects).2) selectAvailableKey_selects
  simp only [reviveAndSelect, perform_bind]
  apply follows_bind.mpr
  apply follows_mono _ looks
  rintro _ (_ | key) rfl
  · intro now
    refine ⟨.holding, rfl, fun granted => ?_⟩
    cases granted with
    | false => exact ⟨.refused, rfl, Or.inr (Or.inr ⟨rfl, rfl⟩)⟩
    | true =>
        refine ⟨.sweeping, rfl, fun devIds => ⟨.sweeping, rfl, ?_⟩⟩
        have stays := fun op reply (syncs : PoolOp.syncs op) =>
          sweeping_stays op reply (syncs_quiet op syncs)
        apply follows_bind.mpr
        apply follows_mono _ (follows_of_uses stays (syncEach_syncs config devIds))
        rintro _ _ rfl
        apply follows_bind.mpr
        apply follows_mono _ (follows_of_uses (fun op reply selects =>
          sweeping_stays op reply (selects_quiet op selects).1) selectAvailableKey_selects)
        rintro _ (_ | key) rfl
        · exact Or.inr (Or.inl rfl)
        · exact Or.inr (Or.inl rfl)
  · exact Or.inl rfl

theorem activeKey_revives (config : Config) :
    Follows revivalNext Revived .selecting (activeKey config) := by
  simp only [activeKey, perform_bind]
  apply follows_bind.mpr
  apply follows_mono _ (follows_of_uses (fun op reply plain =>
    selecting_stays op reply plain.1 plain.2) (uses_mono plain_of_aside ensureInitialized_aside))
  rintro _ (error | _) rfl
  · exact Or.inl rfl
  apply follows_bind.mpr
  apply follows_mono _ (follows_of_uses (fun op reply selects => selecting_stays op reply
    (selects_quiet op selects).1 (selects_quiet op selects).2) selectAvailableKey_selects)
  rintro _ (_ | key) rfl
  · intro _
    refine ⟨.holding, rfl, ?_⟩
    apply follows_bind.mpr
    apply follows_mono _ (reviveAndSelect_revives config)
    rintro phase result (rfl | rfl | ⟨rfl, rfl⟩)
    · exact fun _ => ⟨.returned false, rfl, Or.inr rfl⟩
    · exact fun _ => ⟨.returned false, rfl, Or.inr rfl⟩
    · exact fun _ => ⟨.returned true, rfl, rfl⟩
  · exact Or.inl rfl

-- Every method but `active_key` leaves the revival alone.
theorem elsewhere_follows {α : Type} {program : PoolProgram α} {result : α → PoolResult}
    (lockless : Uses (fun op => op.revives = false) program) :
    Follows revivalNext Concluded .elsewhere (program >>= fun value => .done (result value)) := by
  apply follows_bind.mpr
  apply follows_mono _ (follows_of_uses elsewhere_stays lockless)
  rintro _ _ rfl
  trivial

theorem poolCode_revives (config : Config) (caller : PoolCall) :
    Follows revivalNext Concluded (firstPhase caller) (poolCode config caller) := by
  have lockless : ∀ {α : Type} {program : PoolProgram α}, Uses (·.aside = true) program →
      Uses (fun op => op.revives = false) program := uses_mono fun op aside => (plain_of_aside op aside).1
  cases caller with
  | activeKey =>
      apply follows_bind.mpr
      apply follows_mono _ (activeKey_revives config)
      intro phase result revived
      cases phase with
      | elsewhere => trivial
      | _ => exact revived
  | incrementUsage devId => exact elsewhere_follows ⟨rfl, fun _ => trivial⟩
  | flushUsage => exact elsewhere_follows (lockless flushUsage_aside)
  | recordSuccess devId => exact elsewhere_follows (lockless (recordSuccessProgram_aside devId))
  | recordFailure devId keyFault =>
      exact elsewhere_follows (lockless (recordFailureProgram_aside devId keyFault))
  | syncUsage devId =>
      exact elsewhere_follows (uses_mono syncs_quiet (syncUsageInternal_syncs config devId))
  | syncAllUsage => exact elsewhere_follows (syncAllUsage_lockless config)
  | reload keyFile => exact elsewhere_follows (lockless (reload_aside keyFile))
  | foreignWrite table => exact elsewhere_follows ⟨rfl, fun _ => trivial⟩

end Programs

/-! ### One step -/

/-- All that a caller does to the revival in one call. -/
inductive RevivalStep : RevivalPhase → (op : PoolOp) → op.Reply → RevivalPhase → Prop where
  | quiet {phase : RevivalPhase} {op : PoolOp} (reply : op.Reply) (aside : op.revives = false)
      (active : phase.wasRefused = false) (unreturned : phase ≠ .returned false)
      (unasked : op.probes = true → phase.mayHaveProbed = true) : RevivalStep phase op reply phase
  | lock : RevivalStep .selecting (.lock .revival) () .holding
  | grant (now : Int) : RevivalStep .holding (.beginRevival now) true .sweeping
  | refuse (now : Int) : RevivalStep .holding (.beginRevival now) false .refused
  | unlock {phase : RevivalPhase} (locked : phase.hasLock = true) :
      RevivalStep phase (.unlock .revival) () (.returned phase.wasRefused)

theorem revivalNext_step {phase after : RevivalPhase} {op : PoolOp} {reply : op.Reply}
    (allowed : revivalNext phase op reply = some after) : RevivalStep phase op reply after := by
  by_cases aside : op.revives = false
  · rw [revivalNext_plain aside] at allowed
    cases phase with
    | elsewhere | sweeping =>
        obtain rfl := Option.some.inj allowed
        exact .quiet reply aside rfl (by simp) fun _ => rfl
    | selecting | holding =>
        simp only [RevivalPhase.afterPlain, Option.ite_none_left_eq_some, Option.some.injEq] at allowed
        obtain ⟨unasked, rfl⟩ := allowed
        exact .quiet reply aside rfl (by simp) fun asked => absurd asked unasked
    | refused | returned => cases allowed
  · cases op with
    | beginRevival now =>
        cases phase <;> cases allowed
        cases reply with
        | false => exact .refuse now
        | true => exact .grant now
    | lock mutex =>
        cases mutex with
        | init => exact absurd rfl aside
        | revival =>
            cases phase <;> cases allowed
            exact .lock
    | unlock mutex =>
        cases mutex with
        | init => exact absurd rfl aside
        | revival =>
            cases phase <;> cases allowed
            · exact .unlock rfl
            · exact .unlock rfl
            · exact .unlock rfl
    | _ => exact absurd rfl aside

section Facts
variable {phase after : RevivalPhase} {op : PoolOp} {reply : op.Reply}

theorem step_unreturned (step : RevivalStep phase op reply after) : phase ≠ .returned false := by
  cases step with
  | quiet _ _ _ unreturned => exact unreturned
  | unlock locked =>
      rintro rfl
      cases locked
  | _ => nofun

theorem step_probed (step : RevivalStep phase op reply after)
    (probed : op.probes = true ∨ phase.mayHaveProbed = true) : after.mayHaveProbed = true := by
  cases step with
  | quiet _ _ _ _ unasked => exact probed.elim unasked id
  | unlock locked =>
      rcases probed with asked | had
      · cases asked
      · cases phase <;> first | rfl | cases had | cases locked
  | _ => rcases probed with asked | had <;> first | cases asked | cases had

theorem step_refused (step : RevivalStep phase op reply after)
    (refused : op.isRefused reply = true ∨ phase.wasRefused = true) : after.wasRefused = true := by
  cases step with
  | quiet _ aside active =>
      rcases refused with now | had
      · cases op <;> first | cases now | cases aside
      · rw [active] at had
        cases had
  | refuse => rfl
  | unlock locked =>
      rcases refused with now | had
      · cases now
      · rw [had]
        rfl
  | _ => rcases refused with now | had <;> first | cases now | cases had

theorem step_started (step : RevivalStep phase op reply after)
    (started : (op.startsSweep reply).isSome = true ∨ phase.hasStarted = true) :
    after.hasStarted = true := by
  cases step with
  | quiet _ aside =>
      rcases started with now | had
      · cases op <;> first | cases now | cases aside
      · exact had
  | grant => rfl
  | unlock locked =>
      rcases started with now | had
      · cases now
      · cases phase <;> first | rfl | cases had | cases locked
  | _ => rcases started with now | had <;> first | cases now | cases had

end Facts

section Served
variable {config : Config} {pool after : Pool} {op : PoolOp} {reply : op.Reply}

theorem clearActive_kept {A : Type} (field : KeyPoolInner → A)
    (kept : ∀ inner : KeyPoolInner, field { inner with activeDevId := none } = field inner) (inner : KeyPoolInner)
    (devId : String) (clear : Bool) : field (inner.clearActive devId clear) = field inner := by
  unfold KeyPoolInner.clearActive
  split
  · exact kept inner
  · rfl

theorem foldl_modify_kept {A : Type} (field : KeyPoolInner → A)
    (kept : ∀ (inner : KeyPoolInner) devId change, field (inner.modify devId change) = field inner)
    (change : UsageBatch → InMemoryKey → InMemoryKey) (batches : List UsageBatch) (inner : KeyPoolInner) :
    field (batches.foldl (fun inner batch => inner.modify batch.devId (change batch)) inner) = field inner := by
  induction batches generalizing inner with
  | nil => rfl
  | cons batch rest ih => exact (ih _).trans (kept _ _ _)

theorem innerAfter_lastRevival (config : Config) (aside : op.revives = false) (inner : KeyPoolInner) :
    (innerAfter config op inner).lastRevivalAttemptMs = inner.lastRevivalAttemptMs := by
  cases op with
  | beginRevival now => cases aside
  | selectSticky =>
      simp only [innerAfter, selectSticky]
      repeat' split
      all_goals rfl
  | selectAvailable =>
      simp only [innerAfter, selectAvailable]
      split <;> rfl
  | storeEstimate devId estimated now =>
      simp only [innerAfter, storeEstimate]
      repeat' split
      all_goals rfl
  | restorePending batches | addCallsTotal batches =>
      exact foldl_modify_kept KeyPoolInner.lastRevivalAttemptMs (fun _ _ _ => rfl) _ batches inner
  | incrementUsage | recordFailure | storeReport =>
      exact clearActive_kept KeyPoolInner.lastRevivalAttemptMs (fun _ => rfl) _ _ _
  | _ => rfl

theorem serve_revivalHeld (answered : (serve config).handler pool op reply after)
    (aside : op.revives = false) : after.revivalHeld = pool.revivalHeld := by
  obtain ⟨outside, served⟩ := answered
  cases op with
  | lock mutex =>
      cases mutex with
      | init =>
          simp only [serve, Option.ite_none_left_eq_some] at served
          cases served.2
          rfl
      | revival => cases aside
  | unlock mutex =>
      cases mutex with
      | init =>
          cases served
          rfl
      | revival => cases aside
  | bootstrapKeys | flushUsage | updateStatus | saveAuthoritativeUsage =>
      simp only [serve, Pool.write, Option.some.injEq] at served
      split at served <;> cases served <;> rfl
  | _ =>
      simp only [serve, Option.some.injEq] at served
      cases served
      rfl

theorem serve_lockRevival {reply : PoolOp.Reply (.lock .revival)}
    (answered : (serve config).handler pool (.lock .revival) reply after) :
    pool.revivalHeld = false ∧ after.revivalHeld = true := by
  obtain ⟨outside, served⟩ := answered
  simp only [serve, Option.ite_none_left_eq_some] at served
  obtain ⟨free, served⟩ := served
  cases served
  exact ⟨by simpa [Pool.held] using free, rfl⟩

theorem serve_unlockRevival {reply : PoolOp.Reply (.unlock .revival)}
    (answered : (serve config).handler pool (.unlock .revival) reply after) :
    after.inner.lastRevivalAttemptMs = pool.inner.lastRevivalAttemptMs := by
  rw [serve_inner answered]
  rfl

/-- The cooldown test: granted from the cooldown on, and only a grant is noted. -/
theorem serve_beginRevival {now : Int} {granted : Bool}
    (answered : (serve config).handler pool (.beginRevival now) granted after) :
    after.revivalHeld = pool.revivalHeld ∧
      (granted = true ↔ pool.inner.lastRevivalAttemptMs + revivalCooldownMs ≤ now) ∧
      after.inner.lastRevivalAttemptMs = if granted then now else pool.inner.lastRevivalAttemptMs := by
  obtain ⟨outside, served⟩ := answered
  simp only [serve, Pool.section, beginRevival, Option.some.injEq, Prod.mk.injEq] at served
  obtain ⟨rfl, rfl⟩ := served
  by_cases early : now - pool.inner.lastRevivalAttemptMs < revivalCooldownMs
  · simp only [early, ↓reduceIte, Bool.false_eq_true, false_iff, not_le, true_and, and_true]
    omega
  · simp only [early, ↓reduceIte, true_iff, true_and, and_true]
    omega

-- Only the holder of the lock starts a sweep, and the note of the last attempt
-- moves with each start.
theorem step_last {phase next : RevivalPhase} (step : RevivalStep phase op reply next)
    (answered : (serve config).handler pool op reply after) :
    pool.inner.lastRevivalAttemptMs ≤ after.inner.lastRevivalAttemptMs ∧
      ∀ now, op.startsSweep reply = some now → phase = .holding ∧
        pool.inner.lastRevivalAttemptMs + revivalCooldownMs ≤ now ∧
        after.inner.lastRevivalAttemptMs = now := by
  cases step with
  | quiet _ aside =>
      rw [serve_inner answered, innerAfter_lastRevival config aside]
      refine ⟨le_refl _, fun now starts => ?_⟩
      cases op <;> first | cases starts | cases aside
  | lock =>
      rw [serve_inner answered]
      exact ⟨le_refl _, nofun⟩
  | grant now =>
      obtain ⟨-, allowed, noted⟩ := serve_beginRevival answered
      have late := allowed.mp rfl
      have positive : 0 ≤ revivalCooldownMs := by decide
      simp only [↓reduceIte] at noted
      rw [noted]
      refine ⟨by omega, fun started same => ?_⟩
      obtain rfl := Option.some.inj same
      exact ⟨rfl, late, rfl⟩
  | refuse now =>
      obtain ⟨-, -, noted⟩ := serve_beginRevival answered
      exact ⟨by simp [noted], nofun⟩
  | unlock locked =>
      rw [serve_unlockRevival answered]
      exact ⟨le_refl _, nofun⟩

-- The lock stays with its holder, and is got only when it is free.
theorem step_held {phase next : RevivalPhase} (step : RevivalStep phase op reply next)
    (answered : (serve config).handler pool op reply after) :
    (phase.hasLock = false → pool.revivalHeld = true → after.revivalHeld = true) ∧
      (next.hasLock = true → (phase.hasLock = true → pool.revivalHeld = true) →
        after.revivalHeld = true) ∧
      (next.hasLock = true → phase.hasLock = true ∨ pool.revivalHeld = false) := by
  cases step with
  | quiet _ aside =>
      rw [serve_revivalHeld answered aside]
      exact ⟨fun _ held => held, fun has held => held has, Or.inl⟩
  | lock =>
      obtain ⟨free, held⟩ := serve_lockRevival answered
      exact ⟨fun _ _ => held, fun _ _ => held, fun _ => Or.inr free⟩
  | grant now | refuse now =>
      obtain ⟨same, -⟩ := serve_beginRevival answered
      rw [same]
      exact ⟨fun _ held => held, fun _ held => held rfl, fun _ => Or.inl rfl⟩
  | unlock locked =>
      refine ⟨fun free => ?_, nofun, nofun⟩
      rw [locked] at free
      cases free

end Served

/-! ### All callers -/

def sweepStart (turn : PoolTurn) : Option Int := turn.op.startsSweep turn.reply

structure Revivals (history : List PoolTurn) (pool : Pool) (phases : List RevivalPhase) : Prop where
  locked : ∀ (task : Nat) phase, phases[task]? = some phase → phase.hasLock = true →
    pool.revivalHeld = true
  -- One caller has the lock.
  alone : ∀ (task other : Nat) phase second, phases[task]? = some phase → phases[other]? = some second →
    phase.hasLock = true → second.hasLock = true → task = other
  probed : ∀ turn ∈ history, turn.op.probes = true →
    ∃ phase, phases[turn.task]? = some phase ∧ phase.mayHaveProbed = true
  refused : ∀ turn ∈ history, turn.op.isRefused turn.reply = true →
    ∃ phase, phases[turn.task]? = some phase ∧ phase.wasRefused = true
  started : ∀ turn ∈ history, ∀ now, sweepStart turn = some now →
    now ≤ pool.inner.lastRevivalAttemptMs ∧
      ∃ phase, phases[turn.task]? = some phase ∧ phase.hasStarted = true
  -- The caller of a sweep has returned before the next sweep starts.
  spaced : ∀ earlier second later, history = earlier ++ second :: later →
    ∀ now, sweepStart second = some now → ∀ first ∈ earlier, ∀ before, sweepStart first = some before →
      before + revivalCooldownMs ≤ now ∧ phases[first.task]? = some (.returned false) ∧
        ∀ turn ∈ second :: later, turn.task ≠ first.task

section Steps
variable {config : Config} {history : List PoolTurn} {phases : List RevivalPhase}
  {phase after : RevivalPhase} {turn : PoolTurn}

theorem getElem?_set_cases {A : Type} {list : List A} {task other : Nat} {old new found : A}
    (here : list[task]? = some old) (get : (list.set task new)[other]? = some found) :
    (other = task ∧ found = new) ∨ (other ≠ task ∧ list[other]? = some found) := by
  by_cases same : other = task
  · subst same
    have inside := (List.getElem?_eq_some_iff.mp here).1
    exact Or.inl ⟨rfl, by simpa [List.getElem?_set, inside] using get.symm⟩
  · exact Or.inr ⟨same, by simpa [List.getElem?_set, Ne.symm same] using get⟩

-- A property of the phase of some task that the moving caller keeps.
theorem phase_kept {holds : RevivalPhase → Prop} (found : phases[turn.task]? = some phase)
    (keeps : holds phase → holds after) {task : Nat}
    (had : ∃ old, phases[task]? = some old ∧ holds old) :
    ∃ new, (phases.set turn.task after)[task]? = some new ∧ holds new := by
  obtain ⟨old, here, held⟩ := had
  have inside := (List.getElem?_eq_some_iff.mp found).1
  by_cases same : turn.task = task
  · subst same
    obtain rfl := Option.some.inj (here.symm.trans found)
    exact ⟨after, by simp [inside], keeps held⟩
  · exact ⟨old, by simpa [List.getElem?_set, same] using here, held⟩

theorem phase_here (found : phases[turn.task]? = some phase) :
    (phases.set turn.task after)[turn.task]? = some after := by
  have inside := (List.getElem?_eq_some_iff.mp found).1
  simp [inside]

/-- What a call leaves as it is, for every kind of call at once. -/
theorem revivals_moves (held : Revivals history turn.before phases)
    (found : phases[turn.task]? = some phase) (step : RevivalStep phase turn.op turn.reply after)
    (answered : (serve config).handler turn.before turn.op turn.reply turn.after) :
    Revivals (history ++ [turn]) turn.after (phases.set turn.task after) where
  locked task current get has := by
    obtain ⟨others, own, -⟩ := step_held step answered
    rcases getElem?_set_cases found get with ⟨-, rfl⟩ | ⟨apart, old⟩
    · exact own has (held.locked _ _ found)
    · apply others
      · by_contra locks
        exact apart (held.alone _ _ _ _ old found has (by simpa using locks))
      · exact held.locked _ _ old has
  alone task other current second get getSecond has hasSecond := by
    have sole := (step_held step answered).2.2
    have free : ∀ (another : Nat) old, another ≠ turn.task → phases[another]? = some old →
        old.hasLock = true → after.hasLock = true → False := by
      intro another old apart found' hasOld hasNew
      rcases sole hasNew with locks | unlocked
      · exact apart (held.alone _ _ _ _ found' found hasOld locks)
      · rw [held.locked _ _ found' hasOld] at unlocked
        cases unlocked
    rcases getElem?_set_cases found get with ⟨rfl, rfl⟩ | ⟨apart, old⟩
    · rcases getElem?_set_cases found getSecond with ⟨rfl, -⟩ | ⟨apart', old'⟩
      · rfl
      · exact (free _ _ apart' old' hasSecond has).elim
    · rcases getElem?_set_cases found getSecond with ⟨rfl, rfl⟩ | ⟨-, old'⟩
      · exact (free _ _ apart old has hasSecond).elim
      · exact held.alone _ _ _ _ old old' has hasSecond
  probed noted taken asked := by
    rcases List.mem_append.mp taken with before | now
    · exact phase_kept found (fun had => step_probed step (Or.inr had)) (held.probed _ before asked)
    · obtain rfl := List.mem_singleton.mp now
      exact ⟨after, phase_here found, step_probed step (Or.inl asked)⟩
  refused noted taken denied := by
    rcases List.mem_append.mp taken with before | now
    · exact phase_kept found (fun had => step_refused step (Or.inr had)) (held.refused _ before denied)
    · obtain rfl := List.mem_singleton.mp now
      exact ⟨after, phase_here found, step_refused step (Or.inl denied)⟩
  started noted taken now starts := by
    obtain ⟨later, at_⟩ := step_last step answered
    rcases List.mem_append.mp taken with before | here
    · obtain ⟨past, had⟩ := held.started _ before now starts
      exact ⟨past.trans later, phase_kept found (fun had => step_started step (Or.inr had)) had⟩
    · obtain rfl := List.mem_singleton.mp here
      obtain ⟨-, -, last⟩ := at_ now starts
      refine ⟨last.ge, after, phase_here found, step_started step (Or.inl ?_)⟩
      exact Option.isSome_iff_exists.mpr ⟨now, starts⟩
  spaced earlier second later split now starts first member before startsFirst := by
    have unreturned := step_unreturned step
    rcases append_singleton_split split with ⟨rfl, rfl, rfl⟩ | ⟨front, rfl, rfl⟩
    -- The new turn starts a sweep: its caller has the lock, so an earlier one has not.
    · obtain ⟨rfl, late, -⟩ := (step_last step answered).2 now starts
      obtain ⟨past, old, here, had⟩ := held.started _ member before startsFirst
      have apart : first.task ≠ turn.task := by
        intro same
        rw [same, found] at here
        cases here
        cases had
      have gone : old = .returned false := by
        cases old with
        | sweeping => exact absurd (held.alone _ _ _ _ here found rfl rfl) apart
        | returned refused => cases refused <;> first | rfl | cases had
        | _ => cases had
      subst gone
      refine ⟨by omega, ?_, ?_⟩
      · simpa [List.getElem?_set, Ne.symm apart] using here
      · simpa using apart.symm
    · obtain ⟨space, gone, others⟩ := held.spaced earlier second front rfl now starts first member
        before startsFirst
      have apart : turn.task ≠ first.task := by
        intro same
        rw [← same, found] at gone
        exact unreturned (Option.some.inj gone)
      refine ⟨space, ?_, ?_⟩
      · simpa [List.getElem?_set, apart] using gone
      · intro current taken
        rcases List.mem_append.mp (List.cons_append ▸ taken) with old | new
        · exact others current old
        · rw [List.mem_singleton.mp new]
          exact apart

theorem getElem?_append_of_some {A : Type} {list more : List A} {task : Nat} {found : A}
    (here : list[task]? = some found) : (list ++ more)[task]? = some found := by
  rw [List.getElem?_append_left (List.getElem?_eq_some_iff.mp here).1]
  exact here

theorem revivals_joins {pool : Pool} (held : Revivals history pool phases) (caller : PoolCall) :
    Revivals history pool (phases ++ [firstPhase caller]) := by
  have free : (firstPhase caller).hasLock = false := by cases caller <;> rfl
  have old : ∀ {task : Nat} {phase}, (phases ++ [firstPhase caller])[task]? = some phase →
      phase.hasLock = true → phases[task]? = some phase := by
    intro task phase get has
    rcases getElem?_append_singleton get with before | rfl
    · exact before
    · rw [free] at has
      cases has
  have kept : ∀ {task : Nat} {holds : RevivalPhase → Prop},
      (∃ phase, phases[task]? = some phase ∧ holds phase) →
      ∃ phase, (phases ++ [firstPhase caller])[task]? = some phase ∧ holds phase := by
    rintro task holds ⟨phase, here, had⟩
    exact ⟨phase, getElem?_append_of_some here, had⟩
  constructor
  · intro task phase get has
    exact held.locked _ _ (old get has) has
  · intro task other phase second get getSecond has hasSecond
    exact held.alone _ _ _ _ (old get has) (old getSecond hasSecond) has hasSecond
  · intro turn taken asked
    exact kept (held.probed turn taken asked)
  · intro turn taken denied
    exact kept (held.refused turn taken denied)
  · intro turn taken now starts
    obtain ⟨past, had⟩ := held.started turn taken now starts
    exact ⟨past, kept had⟩
  · intro earlier second later split now starts first member before startsFirst
    obtain ⟨space, gone, others⟩ := held.spaced earlier second later split now starts first member
      before startsFirst
    exact ⟨space, getElem?_append_of_some gone, others⟩

theorem revivals_run {start state : PoolState} (empty : start.programs = [])
    (run : PoolRun config start history state) :
    ∃ phases, List.Forall₂ (Follows revivalNext Concluded) phases state.programs ∧
      Revivals history state.shared phases := by
  refine run_phases firstPhase (poolCode_revives config) Revivals ?_ empty ?_ ?_ run
  · constructor <;> simp
  · intro history pool phases caller held
    exact revivals_joins held caller
  · intro history phases phase after turn held _ found allowed answered
    exact revivals_moves held found (revivalNext_step allowed) answered

end Steps

instance (op : PoolOp) : Nonempty op.Reply := by
  cases op with
  | selectSticky => exact ⟨StickyReply.passed⟩
  | loadKeys => exact ⟨.error onCooldown⟩
  | _ => infer_instance

/-- All that is left of `active_key` for a caller within the cooldown. -/
def refusedProgram : PoolProgram PoolResult := do
  perform (PoolOp.unlock .revival)
  return .key (.error onCooldown)

theorem returned_program {program : PoolProgram PoolResult}
    (follows : Follows revivalNext Concluded (.returned true) program) :
    program = .done (.key (.error onCooldown)) := by
  cases program with
  | done result =>
      cases result with
      | key result =>
          have same : result = .error onCooldown := follows
          rw [same]
      | _ => exact follows.elim
  | call op rest =>
      obtain ⟨reply⟩ := (inferInstance : Nonempty op.Reply)
      obtain ⟨after, allowed, -⟩ := follows reply
      cases revivalNext_step allowed with
      | quiet _ _ active => cases active
      | unlock locked => cases locked

theorem refused_program {program : PoolProgram PoolResult}
    (follows : Follows revivalNext Concluded .refused program) : program = refusedProgram := by
  cases program with
  | done result =>
      cases result with
      | key result => rcases follows with bad | bad <;> cases bad
      | _ => exact follows.elim
  | call op rest =>
      obtain ⟨reply⟩ := (inferInstance : Nonempty op.Reply)
      obtain ⟨after, allowed, continues⟩ := follows reply
      cases revivalNext_step allowed with
      | quiet _ _ active => cases active
      | unlock locked =>
          have ends : rest = fun _ => .done (.key (.error onCooldown)) :=
            funext fun _ => returned_program continues
          rw [ends]
          rfl

/-- For any number of callers of any methods of one pool, in any interleaving and
with any clock: when a sweep starts, each caller that started one before has made
its last call, and started it at least a cooldown ago; and a caller that finds
the pool exhausted within the cooldown has probed nothing, and has nothing left
to do but to release the lock and return the error. -/
theorem revival_is_single_flight {config : Config} {start state : PoolState} {history : List PoolTurn}
    (empty : start.programs = []) (run : PoolRun config start history state) :
    (∀ earlier second later, history = earlier ++ second :: later →
      ∀ now, sweepStart second = some now → ∀ first ∈ earlier, ∀ before, sweepStart first = some before →
        before + revivalCooldownMs ≤ now ∧ ∀ turn ∈ second :: later, turn.task ≠ first.task) ∧
    ∀ turn ∈ history, ∀ now, turn.op = .beginRevival now →
      now - turn.before.inner.lastRevivalAttemptMs < revivalCooldownMs →
      (∀ other ∈ history, other.task = turn.task → other.op.probes = false) ∧
        (state.programs[turn.task]? = some refusedProgram ∨
          state.programs[turn.task]? = some (.done (.key (.error onCooldown)))) := by
  obtain ⟨phases, follow, held⟩ := revivals_run empty run
  constructor
  · intro earlier second later split now starts first member before startsFirst
    obtain ⟨space, -, others⟩ := held.spaced earlier second later split now starts first member
      before startsFirst
    exact ⟨space, others⟩
  · intro turn taken now asks early
    have denied : turn.op.isRefused turn.reply = true := by
      obtain ⟨answered, -⟩ := run_turn run taken
      obtain ⟨⟨pool, op, granted, after⟩, task, programs⟩ := turn
      cases asks
      obtain ⟨-, allowed, -⟩ := serve_beginRevival answered
      cases granted with
      | false => rfl
      | true =>
          have late := allowed.mp rfl
          have soon : now - pool.inner.lastRevivalAttemptMs < revivalCooldownMs := early
          omega
    obtain ⟨phase, here, refused⟩ := held.refused turn taken denied
    constructor
    · intro other member same
      by_contra probes
      obtain ⟨_, there, probed⟩ := held.probed other member (by simpa using probes)
      rw [same, here] at there
      cases there
      rw [RevivalPhase.unprobed_of_refused refused] at probed
      cases probed
    · obtain ⟨program, running, follows⟩ := forall₂_getElem?_left follow here
      cases phase with
      | refused =>
          rw [refused_program follows] at running
          exact Or.inl running
      | returned denied =>
          cases denied with
          | true =>
              rw [returned_program follows] at running
              exact Or.inr running
          | false => cases refused
      | _ => cases refused

def asksWithinCooldown (task : Nat) (turn : PoolTurn) : Bool :=
  turn.task == task && match turn.op with
    | .beginRevival now =>
        decide (now - turn.before.inner.lastRevivalAttemptMs < revivalCooldownMs)
    | _ => false

def spentReport : Outside := { usage := .ok (some ⟨7500, some 7500⟩) }

/-- Three callers of a pool with one spent key: the first sweeps, the second asks
one minute later, the third when the cooldown is over. -/
def revivalSchedule : List (Move PoolCall Outside) :=
  let looks (task : Nat) (now : Int) : List (Move PoolCall Outside) :=
    .enter .activeKey :: List.replicate 6 (.turn task {}) ++ List.replicate 2 (.turn task { now })
  looks 0 1800000 ++ List.replicate 4 (.turn 0 spentReport) ++ List.replicate 5 (.turn 0 {}) ++
    looks 1 1860000 ++ [.turn 1 {}] ++ looks 2 3600000

theorem revival_refused_a_minute_after_a_sweep :
    ∃ history state, PoolRun testConfig (initialState [testKey "1000" 7500 false] emptyTable)
        history state ∧
      history.filterMap sweepStart = [1800000, 3600000] ∧
      (∀ other ∈ history, other.task = 1 → other.op.probes = false) ∧
      (state.programs[1]? = some refusedProgram ∨
        state.programs[1]? = some (.done (.key (.error onCooldown)))) := by
  have passed : (replay (serve testConfig) (poolCode testConfig)
      (initialState [testKey "1000" 7500 false] emptyTable) revivalSchedule).any
      (fun outcome => decide (outcome.1.filterMap sweepStart = [1800000, 3600000]) &&
        outcome.1.any (asksWithinCooldown 1)) = true := by decide +kernel
  obtain ⟨history, state, run, tested⟩ := replay_reaches passed
  obtain ⟨sweeps, asks⟩ := Bool.and_eq_true_iff.mp tested
  obtain ⟨turn, taken, early⟩ := List.any_eq_true.mp asks
  obtain ⟨task, early⟩ := Bool.and_eq_true_iff.mp early
  have here : turn.task = 1 := by simpa using task
  cases asked : turn.op with
  | beginRevival now =>
      simp only [asked, decide_eq_true_eq] at early
      have refused := (revival_is_single_flight rfl run).2 turn taken now asked early
      rw [here] at refused
      exact ⟨history, state, run, of_decide_eq_true sweeps, refused⟩
  | _ => simp [asked] at early

end PaladinsCat.KeyPool
