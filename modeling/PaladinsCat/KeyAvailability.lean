import PaladinsCat.KeySelection

/-!
Two purposes of the pool that its code does not quite serve: a key that counts
as healthy has budget, and a backup is used only while no primary can be. For
each, the runs in which it holds throughout are exactly those that avoid one
kind of step.
-/

namespace PaladinsCat.KeyPool

open Interleaving

/-! ### Stranded keys -/

/-- Every healthy key has budget. A key without budget that counts as healthy is
stranded: it is never selected, and never eligible for revival. -/
def NoneStranded (config : Config) (inner : KeyPoolInner) : Prop :=
  ∀ key ∈ inner.keys, key.status = .healthy → key.hasBudget config = true

/-- A success of a key that is unhealthy and has no budget either. -/
def revivesWithoutBudget (config : Config) (inner : KeyPoolInner) : PoolOp → Bool
  | .recordSuccess devId => (inner.find devId).any fun key =>
      decide (key.status = .unhealthy) && !key.hasBudget config
  | _ => false

instance (config : Config) (inner : KeyPoolInner) : Decidable (NoneStranded config inner) :=
  inferInstanceAs (Decidable (∀ key ∈ inner.keys, key.status = .healthy → key.hasBudget config = true))

/-- In other words: whatever cannot be selected can be revived. -/
theorem noneStranded_iff_unselectable (config : Config) (inner : KeyPoolInner) :
    NoneStranded config inner ↔ ∀ key ∈ inner.keys, key.usable config = false →
      key.status = .limited ∨ key.status = .unhealthy := by
  refine forall₂_congr fun key _ => ?_
  cases status : key.status <;> simp [InMemoryKey.usable, status]

theorem noneStranded_erased (config : Config) (inner : KeyPoolInner) :
    NoneStranded config inner.erased ↔ NoneStranded config inner := by
  simp only [NoneStranded, KeyPoolInner.erased, List.forall_mem_map]
  rfl

theorem noneStranded_modify {config : Config} {inner : KeyPoolInner} {devId : String}
    {change : InMemoryKey → InMemoryKey} (good : NoneStranded config inner)
    (changed : ∀ key, inner.find devId = some key → (change key).status = .healthy →
      (change key).hasBudget config = true) : NoneStranded config (inner.modify devId change) :=
  KeyedList.forall_update good changed

theorem noneStranded_clearActive {config : Config} {inner : KeyPoolInner} {devId : String}
    {clear : Bool} (good : NoneStranded config inner) :
    NoneStranded config (inner.clearActive devId clear) := by
  simpa [NoneStranded] using good

/-- A step strands a key exactly when it revives one without budget. Reloading is
left out: it takes the statuses from the table as they are. -/
theorem noneStranded_innerAfter {config : Config} {inner : KeyPoolInner} {op : PoolOp}
    (noReload : op.reloads = false)
    (good : NoneStranded config inner) :
    NoneStranded config (innerAfter config op inner) ↔ revivesWithoutBudget config inner op = false := by
  cases op with
  | recordSuccess devId =>
      constructor
      · intro after
        cases found : inner.find devId with
        | none => simp [revivesWithoutBudget, found]
        | some key =>
            have kept := after (succeededKey key) (KeyedList.change_mem_update found)
            have same : (succeededKey key).hasBudget config = key.hasBudget config := rfl
            rw [same] at kept
            simp only [revivesWithoutBudget, found, Option.any_some]
            by_cases unhealthy : key.status = .unhealthy
            · simp [kept (by simp [succeededKey, unhealthy])]
            · simp [unhealthy]
      · intro meets
        refine noneStranded_modify good fun key found healthy => ?_
        change key.hasBudget config = true
        cases status : key.status with
        | healthy => exact good key (inner.find_mem found).1 status
        | limited => simp [succeededKey, status] at healthy
        | unhealthy => simpa [revivesWithoutBudget, found, status] using meets
  | replaceKeys table pending => simp [PoolOp.reloads] at noReload
  | selectSticky =>
      refine iff_of_true ?_ rfl
      simp only [innerAfter, selectSticky]
      split
      · exact good
      · split
        · exact good
        · split
          · exact good
          · split
            · exact noneStranded_modify good fun _ _ healthy => by simp at healthy
            · exact good
  | selectAvailable =>
      refine iff_of_true ?_ rfl
      simp only [innerAfter, selectAvailable]
      split <;> exact good
  | incrementUsage devId =>
      refine iff_of_true (noneStranded_clearActive (noneStranded_modify good ?_)) rfl
      intro key found healthy
      by_contra short
      have limited : (chargedKey config key).status = .limited := if_neg short
      simp [limited] at healthy
  | takePending =>
      exact iff_of_true
        (preserved_of_erased (noneStranded_erased config) (takePending_erased inner) good) rfl
  | restorePending batches =>
      exact iff_of_true
        (preserved_of_erased (noneStranded_erased config) (restorePending_erased batches inner) good) rfl
  | addCallsTotal batches =>
      exact iff_of_true
        (preserved_of_erased (noneStranded_erased config) (addCallsTotal_erased batches inner) good) rfl
  | recordFailure devId =>
      refine iff_of_true (noneStranded_clearActive (noneStranded_modify good ?_)) rfl
      intro key found healthy
      simp only [failedKey] at healthy
      split at healthy
      · simp at healthy
      · exact good key (inner.find_mem found).1 healthy
  | beginRevival now =>
      refine iff_of_true ?_ rfl
      simp only [innerAfter, beginRevival]
      split <;> exact good
  | storeReport devId report =>
      refine iff_of_true (noneStranded_clearActive (noneStranded_modify good ?_)) rfl
      intro key _ healthy
      exact ((usable_iff config _).mp ((reported_usable_iff config key report).mpr healthy)).2
  | storeEstimate devId estimated now =>
      refine iff_of_true ?_ rfl
      simp only [innerAfter, storeEstimate]
      split
      · exact good
      · rename_i key found
        split
        · rename_i budget
          refine noneStranded_modify good fun other foundOther _ => ?_
          obtain rfl : key = other := by simpa [found] using foundOther
          exact budget
        · exact good
  | _ => exact iff_of_true good rfl

/-- From a pool without stranded keys, a run of any calls other than reloads
never strands a key if and only if it never counts a success of a key that is
unhealthy and out of budget. -/
theorem none_stranded_iff_no_success_out_of_budget {config : Config} {start state : PoolState}
    {history : List PoolTurn} (run : PoolRun config start history state)
    (noReload : ∀ turn ∈ history, turn.op.reloads = false)
    (initially : NoneStranded config start.shared.inner) :
    ((∀ turn ∈ history, NoneStranded config turn.before.inner) ∧
        NoneStranded config state.shared.inner) ↔
      ∀ turn ∈ history, revivesWithoutBudget config turn.before.inner turn.op = false := by
  refine run_good_iff (fun pool => NoneStranded config pool.inner) (fun _ => True)
    (fun turn => revivesWithoutBudget config turn.before.inner turn.op = false)
    (fun _ _ _ _ _ _ => trivial) run ?_ trivial initially
  intro turn taken _ answered good
  rw [serve_inner answered]
  exact noneStranded_innerAfter (noReload turn taken) good

-- One more call takes the key to the reserve, five faults make it unhealthy,
-- and one success makes it healthy again, with no budget.
def strandingSchedule : List (Move PoolCall Outside) :=
  [.enter (.incrementUsage "1000"), .turn 0 {},
    .enter (.recordFailure "1000" true), .turn 1 {}, .enter (.recordFailure "1000" true), .turn 2 {},
    .enter (.recordFailure "1000" true), .turn 3 {}, .enter (.recordFailure "1000" true), .turn 4 {},
    .enter (.recordFailure "1000" true), .turn 5 {}, .enter (.recordSuccess "1000"), .turn 6 {}]

theorem success_strands_a_limited_key :
    NoneStranded testConfig (initialState [testKey "1000" 7399 false] emptyTable).shared.inner ∧
    ∃ history state, PoolRun testConfig (initialState [testKey "1000" 7399 false] emptyTable)
        history state ∧
      (∀ turn ∈ history, turn.op.reloads = false) ∧
      ¬ NoneStranded testConfig state.shared.inner := by
  refine ⟨by decide, ?_⟩
  have passed : (replay (serve testConfig) (poolCode testConfig)
      (initialState [testKey "1000" 7399 false] emptyTable) strandingSchedule).any
      (fun outcome => decide ((∀ turn ∈ outcome.1, turn.op.reloads = false) ∧
        ¬ NoneStranded testConfig outcome.2.shared.inner)) = true := by decide
  obtain ⟨history, state, run, stranded⟩ := replay_reaches passed
  exact ⟨history, state, run, of_decide_eq_true stranded⟩

theorem none_stranded_before_the_success :
    ∃ history state, PoolRun testConfig (initialState [testKey "1000" 7399 false] emptyTable)
        history state ∧
      (state.shared.inner.find "1000").any (fun key => decide (key.status = .unhealthy)) = true ∧
      NoneStranded testConfig state.shared.inner := by
  have passed : (replay (serve testConfig) (poolCode testConfig)
      (initialState [testKey "1000" 7399 false] emptyTable) (strandingSchedule.take 12)).any
      (fun outcome => decide ((∀ turn ∈ outcome.1, turn.op.reloads = false ∧
        revivesWithoutBudget testConfig turn.before.inner turn.op = false) ∧
        (outcome.2.shared.inner.find "1000").any
          (fun key => decide (key.status = .unhealthy)) = true)) = true := by
    decide
  obtain ⟨history, state, run, tested⟩ := replay_reaches passed
  obtain ⟨steps, unhealthy⟩ := of_decide_eq_true tested
  have exactly := none_stranded_iff_no_success_out_of_budget run (fun turn taken => (steps turn taken).1)
    (by decide)
  exact ⟨history, state, run, unhealthy, (exactly.mpr fun turn taken => (steps turn taken).2).2⟩

/-! ### Backups as the last resort -/

def primaryUsable (config : Config) (inner : KeyPoolInner) : Bool :=
  inner.keys.any fun key => !key.isBackup && key.usable config

def backupActive (inner : KeyPoolInner) : Bool :=
  (inner.activeDevId.bind inner.find).any (·.isBackup)

/-- If `active_key` returned from either section now, and a primary is usable,
it would return a primary. -/
def LastResort (config : Config) (inner : KeyPoolInner) : Prop :=
  ∀ key, ((selectSticky config inner).1 = .selected key ∨
      (selectAvailable config inner).1 = some key) →
    primaryUsable config inner = true →
    ∀ chosen ∈ inner.keys, chosen.devId = key.devId → chosen.isBackup = false

/-- The step makes a primary key usable while a backup is the active key. -/
def revivesPrimaryUnderBackup (config : Config) (inner : KeyPoolInner) (op : PoolOp) : Bool :=
  backupActive inner &&
    match op with
    | .storeReport devId report => (inner.find devId).any fun key =>
        !key.isBackup && decide (reportedStatus config report = .healthy)
    | .storeEstimate devId estimated _ => (inner.find devId).any fun key =>
        !key.isBackup &&
          hasUsableBudget estimated (effectiveDailyLimit config (some key.dailyLimit)) config.reserve
    | .recordSuccess devId => (inner.find devId).any fun key =>
        !key.isBackup && decide (key.status = .unhealthy) && key.hasBudget config
    | _ => false

theorem backupActive_iff {inner : KeyPoolInner} : backupActive inner = true ↔
    ∃ devId key, inner.activeDevId = some devId ∧ inner.find devId = some key ∧
      key.isBackup = true := by
  unfold backupActive
  cases isActive : inner.activeDevId with
  | none => simp
  | some devId =>
      cases found : inner.find devId with
      | none => simp [found]
      | some key => simp [found]

theorem primaryUsable_iff {config : Config} {inner : KeyPoolInner} :
    primaryUsable config inner = true ↔
      ∃ key ∈ inner.keys, key.isBackup = false ∧ key.usable config = true := by
  simp [primaryUsable]

/-- With a usable active key, the last resort is kept exactly when an active
backup means that no primary is usable. -/
theorem lastResort_iff {config : Config} {inner : KeyPoolInner} (valid : ActiveUsable config inner) :
    LastResort config inner ↔ (backupActive inner = true → primaryUsable config inner = false) := by
  have only : ∀ key ∈ inner.keys, ∀ chosen ∈ inner.keys, chosen.devId = key.devId → chosen = key := by
    intro key member chosen chosenMember same
    have found := inner.find_of_mem valid.distinct member
    rw [← same, inner.find_of_mem valid.distinct chosenMember] at found
    exact Option.some.inj found
  constructor
  · intro resort active
    obtain ⟨devId, key, isActive, found, backup⟩ := backupActive_iff.mp active
    have sticky : (selectSticky config inner).1 = .selected (formatKey config key) := by
      simp [selectSticky_of_activeUsable valid, isActive, found]
    by_contra usable
    have primary := resort _ (Or.inl sticky) (by simpa using usable) key (inner.find_mem found).1 rfl
    simp [backup] at primary
  · rintro resort key (sticky | available) usable chosen member same
    · rw [selectSticky_of_activeUsable valid] at sticky
      cases isActive : inner.activeDevId.bind inner.find with
      | none => simp [isActive] at sticky
      | some active =>
          obtain ⟨devId, isDevId, found⟩ := Option.bind_eq_some_iff.mp isActive
          obtain rfl : formatKey config active = key := by simpa [isActive] using sticky
          obtain rfl := only active (inner.find_mem found).1 chosen member same
          by_contra backup
          rw [resort (backupActive_iff.mpr ⟨devId, chosen, isDevId, found, by simpa using backup⟩)] at usable
          simp at usable
    · rcases selectAvailable_cases config inner with ⟨none, _⟩ | ⟨picked, picks, _, last, some⟩
      · simp [none] at available
      · obtain rfl : formatKey config picked = key := by simpa [some] using available
        obtain rfl := only picked picks chosen member same
        by_contra backup
        obtain ⟨primary, primaryMember, kind, primaryUsable⟩ := primaryUsable_iff.mp usable
        rw [last (by simpa using backup) primary primaryMember kind] at primaryUsable
        simp at primaryUsable

section Modify
variable {config : Config} {inner : KeyPoolInner} {devId : String}
  {change : InMemoryKey → InMemoryKey} {clear : Bool}

theorem backupActive_of_modify (keeps : ∀ key, (change key).devId = key.devId)
    (kind : ∀ key, (change key).isBackup = key.isBackup)
    (active : backupActive ((inner.modify devId change).clearActive devId clear) = true) :
    backupActive inner = true := by
  obtain ⟨activeId, key, isActive, found, backup⟩ := backupActive_iff.mp active
  obtain ⟨wasActive, _⟩ := KeyPoolInner.clearActive_activeDevId _ isActive
  rw [KeyPoolInner.clearActive_find] at found
  by_cases same : activeId = devId
  · subst same
    rw [KeyPoolInner.find_modify_self _ keeps, Option.map_eq_some_iff] at found
    obtain ⟨old, found, rfl⟩ := found
    exact backupActive_iff.mpr ⟨activeId, old, wasActive, found, by rwa [kind] at backup⟩
  · rw [KeyPoolInner.find_modify_other _ keeps same] at found
    exact backupActive_iff.mpr ⟨activeId, key, wasActive, found, backup⟩

theorem primaryUsable_of_modify (kind : ∀ key, (change key).isBackup = key.isBackup)
    (usable : primaryUsable config ((inner.modify devId change).clearActive devId clear) = true) :
    primaryUsable config inner = true ∨ ∃ key, inner.find devId = some key ∧ key.isBackup = false ∧
      (change key).usable config = true := by
  obtain ⟨key, member, primary, usable⟩ := primaryUsable_iff.mp usable
  rw [KeyPoolInner.clearActive_keys] at member
  rcases KeyedList.mem_update member with old | ⟨old, found, rfl⟩
  · exact Or.inl (primaryUsable_iff.mpr ⟨key, old, primary, usable⟩)
  · exact Or.inr ⟨old, found, by rwa [kind] at primary, usable⟩

-- A section that changes one key keeps the last resort, if it makes no primary
-- usable while a backup is active.
theorem resort_modify (keeps : ∀ key, (change key).devId = key.devId)
    (kind : ∀ key, (change key).isBackup = key.isBackup)
    (resort : backupActive inner = true → primaryUsable config inner = false)
    (changed : ∀ key, backupActive inner = true → inner.find devId = some key →
      key.isBackup = false → (change key).usable config = true → key.usable config = true)
    (active : backupActive ((inner.modify devId change).clearActive devId clear) = true) :
    primaryUsable config ((inner.modify devId change).clearActive devId clear) = false := by
  have before := backupActive_of_modify keeps kind active
  by_contra usable
  have none := resort before
  rcases primaryUsable_of_modify kind (by simpa using usable) with old | ⟨key, found, primary, new⟩
  · simp [none] at old
  · have already : primaryUsable config inner = true :=
      primaryUsable_iff.mpr ⟨key, (inner.find_mem found).1, primary, changed key before found primary new⟩
    simp [none] at already

theorem idle_of_modify (keeps : ∀ key, (change key).devId = key.devId)
    (kind : ∀ key, (change key).isBackup = key.isBackup) {key : InMemoryKey}
    (active : backupActive inner = true) (found : inner.find devId = some key)
    (primary : key.isBackup = false) (usable : (change key).usable config = true) :
    backupActive (inner.modify devId change) = true ∧
      primaryUsable config (inner.modify devId change) = true := by
  obtain ⟨activeId, backup, isActive, foundBackup, isBackup⟩ := backupActive_iff.mp active
  have different : activeId ≠ devId := by
    rintro rfl
    rw [found] at foundBackup
    obtain rfl := Option.some.inj foundBackup
    simp [primary] at isBackup
  refine ⟨backupActive_iff.mpr ⟨activeId, backup, isActive, ?_, isBackup⟩,
    primaryUsable_iff.mpr ⟨change key, KeyedList.change_mem_update found, by rwa [kind], usable⟩⟩
  rw [KeyPoolInner.find_modify_other _ keeps different, foundBackup]

end Modify

def Resort (config : Config) (inner : KeyPoolInner) : Prop :=
  backupActive inner = true → primaryUsable config inner = false

theorem resort_erased (config : Config) (inner : KeyPoolInner) :
    Resort config inner.erased ↔ Resort config inner := by
  have active : backupActive inner.erased = backupActive inner := by
    unfold backupActive
    cases isActive : inner.activeDevId with
    | none => simp [KeyPoolInner.erased, isActive]
    | some devId =>
        have same : inner.erased.activeDevId = some devId := isActive
        rw [same, Option.bind_some, Option.bind_some, erased_find]
        cases inner.find devId <;> rfl
  have usable : primaryUsable config inner.erased = primaryUsable config inner := by
    simp only [primaryUsable, KeyPoolInner.erased, List.any_map]
    rfl
  rw [Resort, Resort, active, usable]

theorem resort_step_kept {config : Config} {inner : KeyPoolInner} {devId : String}
    {change : InMemoryKey → InMemoryKey} {clear : Bool} (resort : Resort config inner)
    (keeps : ∀ key, (change key).devId = key.devId)
    (kind : ∀ key, (change key).isBackup = key.isBackup)
    (only : ∀ key, (change key).usable config = true → key.usable config = true) :
    Resort config ((inner.modify devId change).clearActive devId clear) :=
  resort_modify keeps kind resort fun key _ _ _ => only key

/-- A change that makes its key usable when `gains` holds, and only then or when
it was usable before, keeps the last resort exactly when it does not do this to
a primary under an active backup. -/
theorem resort_step_iff {config : Config} {inner : KeyPoolInner} {devId : String}
    {change : InMemoryKey → InMemoryKey} {clear : Bool} {gains : InMemoryKey → Bool}
    (resort : Resort config inner)
    (keeps : ∀ key, (change key).devId = key.devId)
    (kind : ∀ key, (change key).isBackup = key.isBackup)
    (some : ∀ key, inner.find devId = some key → gains key = true →
      (change key).usable config = true ∧ clear = false)
    (only : ∀ key, (change key).usable config = true → gains key = true ∨ key.usable config = true) :
    Resort config ((inner.modify devId change).clearActive devId clear) ↔
      (backupActive inner && (inner.find devId).any fun key => !key.isBackup && gains key) = false := by
  constructor
  · intro after
    by_contra gained
    simp only [Bool.not_eq_false, Bool.and_eq_true, Option.any_eq_true, Bool.not_eq_true'] at gained
    obtain ⟨active, key, found, primary, gains⟩ := gained
    obtain ⟨usable, rfl⟩ := some key found gains
    obtain ⟨stillActive, nowUsable⟩ := idle_of_modify keeps kind active found primary usable
    have unused := after (by simpa [KeyPoolInner.clearActive] using stillActive)
    simp [KeyPoolInner.clearActive, nowUsable] at unused
  · intro meets
    refine resort_modify keeps kind resort fun key active found primary usable => ?_
    rcases only key usable with gained | already
    · simp [active, found, primary, gained] at meets
    · exact already

theorem clearActive_false (inner : KeyPoolInner) (devId : String) :
    inner.clearActive devId false = inner := by
  simp [KeyPoolInner.clearActive]

/-- A step gives up the last resort exactly when it makes a primary usable under
an active backup. -/
theorem resort_innerAfter {config : Config} {inner : KeyPoolInner} (op : PoolOp)
    (valid : ActiveUsable config inner) (resort : Resort config inner) :
    Resort config (innerAfter config op inner) ↔
      revivesPrimaryUnderBackup config inner op = false := by
  cases op with
  | recordSuccess devId =>
      simp only [innerAfter, recordSuccess, revivesPrimaryUnderBackup, Bool.and_assoc]
      rw [← clearActive_false (inner.modify devId succeededKey) devId]
      refine resort_step_iff resort succeededKey_devId (fun _ => rfl) ?_ ?_
      · intro key _ gains
        simp only [Bool.and_eq_true, decide_eq_true_eq] at gains
        exact ⟨(succeeded_usable_iff config key).mpr ⟨Or.inr gains.1, gains.2⟩, rfl⟩
      · intro key usable
        obtain ⟨healthy | unhealthy, budget⟩ := (succeeded_usable_iff config key).mp usable
        · exact Or.inr ((usable_iff config key).mpr ⟨healthy, budget⟩)
        · exact Or.inl (by simp [unhealthy, budget])
  | storeReport devId report =>
      refine resort_step_iff resort (reportedKey_devId config · report) (fun _ => rfl) ?_ ?_
      · intro key _ healthy
        refine ⟨(reported_usable_iff config key report).mpr (by simpa using healthy), ?_⟩
        simp [of_decide_eq_true healthy]
      · intro key usable
        exact Or.inl (decide_eq_true ((reported_usable_iff config key report).mp usable))
  | storeEstimate devId estimated now =>
      simp only [innerAfter, storeEstimate, revivesPrimaryUnderBackup]
      cases found : inner.find devId with
      | none => exact iff_of_true resort (by simp)
      | some key =>
          by_cases budget : hasUsableBudget estimated
              (effectiveDailyLimit config (some key.dailyLimit)) config.reserve = true
          · have changed : Resort config
                ((inner.modify devId (estimatedKey config estimated)).clearActive devId false) ↔
                (backupActive inner && (inner.find devId).any fun key => !key.isBackup &&
                  hasUsableBudget estimated (effectiveDailyLimit config (some key.dailyLimit))
                    config.reserve) = false := by
              refine resort_step_iff resort (estimatedKey_devId config · estimated) (fun _ => rfl) ?_ ?_
              · exact fun key _ gains => ⟨(estimated_usable_iff config key estimated).mpr gains, rfl⟩
              · exact fun key usable => Or.inl ((estimated_usable_iff config key estimated).mp usable)
            rw [clearActive_false, found] at changed
            dsimp only
            rw [if_pos budget]
            exact changed
          · simp only [budget, Bool.false_eq_true, ↓reduceIte]
            exact iff_of_true resort (by simp [budget])
  | selectSticky =>
      refine iff_of_true ?_ (by simp [revivesPrimaryUnderBackup])
      simp only [innerAfter, selectSticky_of_activeUsable valid]
      split <;> exact resort
  | selectAvailable =>
      refine iff_of_true ?_ (by simp [revivesPrimaryUnderBackup])
      simp only [innerAfter]
      rcases selectAvailable_cases config inner with ⟨chosen, _⟩ | ⟨key, member, _, last, chosen⟩
      · rw [chosen]
        exact resort
      · rw [chosen]
        intro active
        obtain ⟨devId, picked, isActive, found, backup⟩ := backupActive_iff.mp active
        obtain rfl : key.devId = devId := by simpa using isActive
        obtain rfl : key = picked :=
          Option.some.inj ((inner.find_of_mem valid.distinct member).symm.trans found)
        simpa [primaryUsable] using last backup
  | incrementUsage devId =>
      exact iff_of_true (resort_step_kept resort (chargedKey_devId config) (fun _ => rfl)
        (usable_of_charged config)) (by simp [revivesPrimaryUnderBackup])
  | recordFailure devId =>
      exact iff_of_true (resort_step_kept resort failedKey_devId (fun _ => rfl)
        (usable_of_failed config)) (by simp [revivesPrimaryUnderBackup])
  | takePending =>
      exact iff_of_true (preserved_of_erased (resort_erased config) (takePending_erased inner) resort)
        (by simp [revivesPrimaryUnderBackup])
  | restorePending batches =>
      exact iff_of_true (preserved_of_erased (resort_erased config)
        (restorePending_erased batches inner) resort) (by simp [revivesPrimaryUnderBackup])
  | addCallsTotal batches =>
      exact iff_of_true (preserved_of_erased (resort_erased config)
        (addCallsTotal_erased batches inner) resort) (by simp [revivesPrimaryUnderBackup])
  | beginRevival now =>
      refine iff_of_true ?_ (by simp [revivesPrimaryUnderBackup])
      simp only [innerAfter, beginRevival]
      split <;> exact resort
  | replaceKeys table pending =>
      refine iff_of_true (fun active => ?_) (by simp [revivesPrimaryUnderBackup])
      simp [innerAfter, replaceKeys, backupActive] at active
  | _ => exact iff_of_true resort (by simp [revivesPrimaryUnderBackup])

/-- From a freshly loaded pool, `active_key` would return a primary in every state
that has a usable one if and only if no step of the run makes a primary usable
while a backup is the active key. -/
theorem last_resort_iff_no_primary_revived_under_backup {config : Config} {keys : List InMemoryKey}
    {table : KeyTable} {history : List PoolTurn} {state : PoolState}
    (distinct : (keys.map (·.devId)).Nodup)
    (run : PoolRun config (initialState keys table) history state) :
    ((∀ turn ∈ history, LastResort config turn.before.inner) ∧ LastResort config state.shared.inner) ↔
      ∀ turn ∈ history, revivesPrimaryUnderBackup config turn.before.inner turn.op = false := by
  have fresh : ActiveUsable config (KeyPoolInner.fresh keys) := ⟨distinct, by simp [KeyPoolInner.fresh]⟩
  refine run_good_iff (fun pool => LastResort config pool.inner)
    (fun pool => ActiveUsable config pool.inner)
    (fun turn => revivesPrimaryUnderBackup config turn.before.inner turn.op = false)
    ?_ run ?_ fresh ?_
  · intro before op reply after valid answered
    rw [serve_inner answered]
    exact activeUsable_innerAfter op valid
  · intro turn _ valid answered resort
    rw [serve_inner answered, lastResort_iff (activeUsable_innerAfter turn.op valid)]
    exact resort_innerAfter turn.op valid ((lastResort_iff valid).mp resort)
  · refine (lastResort_iff fresh).mpr fun active => ?_
    simp [KeyPoolInner.fresh, backupActive] at active

def primaryAndBackup : List InMemoryKey :=
  [{ testKey "1000" 7450 false with status := .limited }, testKey "2000" 0 true]

-- The backup becomes active; a sync then reports budget for the primary, and
-- the next caller of `active_key` gets the backup again.
def backupSchedule : List (Move PoolCall Outside) :=
  [.enter .activeKey, .turn 0 {}, .turn 0 {}, .turn 0 {},
    .enter (.syncUsage "1000"), .turn 1 {}, .turn 1 {}, .turn 1 { usage := .ok (some ⟨0, none⟩) },
    .turn 1 {}, .turn 1 {},
    .enter .activeKey, .turn 2 {}, .turn 2 {}]

def returnedKey : PoolProgram PoolResult → Option ApiKeyStatus
  | .done (.key (.ok key)) => some key
  | _ => none

theorem backup_outlives_the_sync_of_a_primary :
    ∃ history state, PoolRun testConfig (initialState primaryAndBackup emptyTable) history state ∧
      primaryUsable testConfig state.shared.inner = true ∧
      state.programs[2]?.bind returnedKey = some (formatKey testConfig (testKey "2000" 0 true)) ∧
      ¬ LastResort testConfig state.shared.inner := by
  have passed : (replay (serve testConfig) (poolCode testConfig)
      (initialState primaryAndBackup emptyTable) backupSchedule).any
      (fun outcome => decide (primaryUsable testConfig outcome.2.shared.inner = true ∧
        outcome.2.programs[2]?.bind returnedKey = some (formatKey testConfig (testKey "2000" 0 true)) ∧
        backupActive outcome.2.shared.inner = true)) = true := by decide
  obtain ⟨history, state, run, tested⟩ := replay_reaches passed
  obtain ⟨usable, returned, active⟩ := of_decide_eq_true tested
  refine ⟨history, state, run, usable, returned, fun resort => ?_⟩
  have none := (lastResort_iff (activeUsable_run (by decide) run)).mp resort active
  simp [usable] at none

theorem last_resort_before_the_sync :
    ∃ history state, PoolRun testConfig (initialState primaryAndBackup emptyTable) history state ∧
      backupActive state.shared.inner = true ∧ LastResort testConfig state.shared.inner := by
  have passed : (replay (serve testConfig) (poolCode testConfig)
      (initialState primaryAndBackup emptyTable) (backupSchedule.take 4)).any
      (fun outcome => decide ((∀ turn ∈ outcome.1,
          revivesPrimaryUnderBackup testConfig turn.before.inner turn.op = false) ∧
        backupActive outcome.2.shared.inner = true)) = true := by decide
  obtain ⟨history, state, run, tested⟩ := replay_reaches passed
  obtain ⟨steps, active⟩ := of_decide_eq_true tested
  exact ⟨history, state, run, active,
    ((last_resort_iff_no_primary_revived_under_backup (by decide) run).mpr steps).2⟩

end PaladinsCat.KeyPool
