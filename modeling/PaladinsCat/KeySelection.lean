import PaladinsCat.KeyPoolPrograms

/-!
Which key the pool hands out. The sections below are compared with what the pool
is for: the active key can always be used, a key that cannot be used is not
taken for a healthy one, and backups are the last resort.
-/

namespace PaladinsCat.KeyPool

open Interleaving

/-! ### The ledger fields do not matter here -/

/-- A key without its usage ledger. -/
def InMemoryKey.erased (key : InMemoryKey) : InMemoryKey :=
  { key with pendingIncrements := 0, callsTotal := 0 }

def KeyPoolInner.erased (inner : KeyPoolInner) : KeyPoolInner :=
  { inner with keys := inner.keys.map InMemoryKey.erased }

theorem modify_erased (inner : KeyPoolInner) (devId : String) {change : InMemoryKey → InMemoryKey}
    (same : ∀ key, (change key).erased = key.erased) :
    (inner.modify devId change).erased = inner.erased := by
  have keys : ∀ keys : List InMemoryKey,
      (KeyedList.update InMemoryKey.devId devId change keys).map InMemoryKey.erased =
        keys.map InMemoryKey.erased := by
    intro keys
    induction keys with
    | nil => rfl
    | cons head rest ih =>
        by_cases hit : head.devId = devId
        · simp [KeyedList.update, hit, same]
        · simp [KeyedList.update, hit, ih]
  simp only [KeyPoolInner.erased, KeyPoolInner.modify, keys]

theorem foldl_modify_erased (batches : List UsageBatch)
    {change : UsageBatch → InMemoryKey → InMemoryKey}
    (same : ∀ batch key, (change batch key).erased = key.erased) (inner : KeyPoolInner) :
    (batches.foldl (fun inner batch => inner.modify batch.devId (change batch)) inner).erased =
      inner.erased := by
  induction batches generalizing inner with
  | nil => rfl
  | cons batch rest ih => rw [List.foldl_cons, ih, modify_erased inner _ (same batch)]

theorem takePending_erased (inner : KeyPoolInner) : (takePending inner).2.erased = inner.erased := by
  simp [takePending, KeyPoolInner.erased, InMemoryKey.erased, Function.comp_def]

theorem restorePending_erased (batches : List UsageBatch) (inner : KeyPoolInner) :
    (restorePending batches inner).erased = inner.erased := by
  refine foldl_modify_erased batches ?_ inner
  exact fun _ _ => rfl

theorem addCallsTotal_erased (batches : List UsageBatch) (inner : KeyPoolInner) :
    (addCallsTotal batches inner).erased = inner.erased := by
  refine foldl_modify_erased batches ?_ inner
  exact fun _ _ => rfl

theorem erased_devIds (inner : KeyPoolInner) :
    inner.erased.keys.map (·.devId) = inner.keys.map (·.devId) := by
  simp [KeyPoolInner.erased, InMemoryKey.erased, Function.comp_def]

theorem erased_find (inner : KeyPoolInner) (devId : String) :
    inner.erased.find devId = (inner.find devId).map InMemoryKey.erased := by
  refine KeyedList.lookup_map ?_ devId inner.keys
  exact fun _ => rfl

-- An invariant that does not read the ledger passes through its three sections.
theorem preserved_of_erased {holds : KeyPoolInner → Prop}
    (ignores : ∀ inner, holds inner.erased ↔ holds inner) {before after : KeyPoolInner}
    (same : after.erased = before.erased) (initially : holds before) : holds after := by
  rw [← ignores, same, ignores]
  exact initially

/-! ### The active key is usable -/

/-- Distinct keys, and an active key that is in the pool, healthy and above the reserve. -/
structure ActiveUsable (config : Config) (inner : KeyPoolInner) : Prop where
  distinct : (inner.keys.map (·.devId)).Nodup
  active : ∀ devId, inner.activeDevId = some devId →
    ∃ key, inner.find devId = some key ∧ key.usable config = true

theorem activeUsable_erased (config : Config) (inner : KeyPoolInner) :
    ActiveUsable config inner.erased ↔ ActiveUsable config inner := by
  constructor
  · rintro ⟨distinct, active⟩
    refine ⟨by rwa [erased_devIds] at distinct, fun devId isActive => ?_⟩
    obtain ⟨_, found, usable⟩ := active devId isActive
    rw [erased_find, Option.map_eq_some_iff] at found
    obtain ⟨key, found, rfl⟩ := found
    exact ⟨key, found, usable⟩
  · rintro ⟨distinct, active⟩
    refine ⟨by rwa [erased_devIds], fun devId isActive => ?_⟩
    obtain ⟨key, found, usable⟩ := active devId isActive
    exact ⟨key.erased, by rw [erased_find, found]; rfl, usable⟩

/-- A section that changes one key keeps the active key usable, if it clears the
active key whenever the change takes that away. -/
theorem activeUsable_modify {config : Config} {inner : KeyPoolInner} {devId : String}
    {change : InMemoryKey → InMemoryKey} {clear : Bool} (valid : ActiveUsable config inner)
    (keeps : ∀ key, (change key).devId = key.devId)
    (stays : ∀ key, inner.find devId = some key → clear = false → key.usable config = true →
      (change key).usable config = true) :
    ActiveUsable config ((inner.modify devId change).clearActive devId clear) := by
  constructor
  · rw [KeyPoolInner.clearActive_keys]
    exact (KeyedList.map_keyOf_update keeps devId inner.keys) ▸ valid.distinct
  · intro active isActive
    obtain ⟨wasActive, kept⟩ := KeyPoolInner.clearActive_activeDevId _ isActive
    obtain ⟨key, found, usable⟩ := valid.active active wasActive
    rw [KeyPoolInner.clearActive_find]
    by_cases same : active = devId
    · subst same
      refine ⟨change key, ?_, stays key found (kept rfl) usable⟩
      rw [KeyPoolInner.find_modify_self _ keeps, found, Option.map_some]
    · exact ⟨key, by rw [KeyPoolInner.find_modify_other _ keeps same, found], usable⟩

theorem activeUsable_modify_only {config : Config} {inner : KeyPoolInner} {devId : String}
    {change : InMemoryKey → InMemoryKey} (valid : ActiveUsable config inner)
    (keeps : ∀ key, (change key).devId = key.devId)
    (stays : ∀ key, inner.find devId = some key → key.usable config = true →
      (change key).usable config = true) :
    ActiveUsable config (inner.modify devId change) := by
  have changed : ActiveUsable config ((inner.modify devId change).clearActive devId false) :=
    activeUsable_modify valid keeps fun key found _ => stays key found
  simpa [KeyPoolInner.clearActive] using changed

-- The sticky section never changes a pool whose active key is usable.
theorem selectSticky_of_activeUsable {config : Config} {inner : KeyPoolInner}
    (valid : ActiveUsable config inner) :
    selectSticky config inner =
      match inner.activeDevId.bind inner.find with
      | some active => (.selected (formatKey config active), inner)
      | none => (.passed, inner) := by
  unfold selectSticky
  cases isActive : inner.activeDevId with
  | none => rfl
  | some active =>
      obtain ⟨key, found, usable⟩ := valid.active active isActive
      simp [found, usable]

theorem selectAvailable_cases (config : Config) (inner : KeyPoolInner) :
    (selectAvailable config inner = (none, inner) ∧ ∀ key ∈ inner.keys, key.usable config = false) ∨
      ∃ key ∈ inner.keys, key.usable config = true ∧
        (key.isBackup = true → ∀ other ∈ inner.keys, other.isBackup = false →
          other.usable config = false) ∧
        selectAvailable config inner =
          (some (formatKey config key), { inner with activeDevId := some key.devId }) := by
  unfold selectAvailable
  cases primary : inner.keys.find? fun key => !key.isBackup && key.usable config with
  | some key =>
      refine Or.inr ⟨key, List.mem_of_find?_eq_some primary, ?_, ?_, rfl⟩
      all_goals have chosen := List.find?_some primary
      · simp_all
      · intro backup
        simp [backup] at chosen
  | none =>
      have noPrimary : ∀ key ∈ inner.keys, key.isBackup = false → key.usable config = false := by
        simpa using primary
      cases backup : inner.keys.find? fun key => key.isBackup && key.usable config with
      | some key =>
          have chosen := List.find?_some backup
          refine Or.inr ⟨key, List.mem_of_find?_eq_some backup, ?_, fun _ => noPrimary, rfl⟩
          simp_all
      | none =>
          refine Or.inl ⟨rfl, fun key member => ?_⟩
          cases kind : key.isBackup with
          | false => exact noPrimary key member kind
          | true => simpa [kind] using List.find?_eq_none.mp backup key member

theorem loadedKey_devId {config : Config} {pending : String → Option Nat} {row : EncryptedKeyRow}
    {key : InMemoryKey} (loaded : loadedKey config pending row = some key) :
    key.devId = row.devId := by
  obtain ⟨authKey, _, rfl⟩ := Option.map_eq_some_iff.mp loaded
  rfl

theorem loadedKeys_distinct (config : Config) (table : KeyTable) (pending : String → Option Nat) :
    ((loadedKeys config table pending).map (·.devId)).Nodup := by
  have sorted := (List.perm_insertionSort (fun left right : InMemoryKey => left.devId ≤ right.devId)
    (table.rows.filterMap (loadedKey config pending))).map (·.devId)
  rw [loadedKeys, sorted.nodup_iff]
  have subset : ∀ rows : List EncryptedKeyRow,
      ((rows.filterMap (loadedKey config pending)).map (·.devId)).Sublist (rows.map (·.devId)) := by
    intro rows
    induction rows with
    | nil => exact List.Sublist.refl _
    | cons row rest ih =>
        cases loaded : loadedKey config pending row with
        | none => simpa [loaded] using ih.cons row.devId
        | some key => simpa [loaded, loadedKey_devId loaded] using ih
  exact table.distinct.sublist (subset table.rows)

section Usable
variable (config : Config) (key : InMemoryKey)

theorem usable_iff : key.usable config = true ↔ key.status = .healthy ∧ key.hasBudget config = true := by
  simp [InMemoryKey.usable]

@[simp] theorem chargedKey_devId : (chargedKey config key).devId = key.devId := rfl
@[simp] theorem succeededKey_devId : (succeededKey key).devId = key.devId := rfl
@[simp] theorem failedKey_devId : (failedKey key).devId = key.devId := rfl
@[simp] theorem reportedKey_devId (report : AuthoritativeUsage) :
    (reportedKey config report key).devId = key.devId := rfl
@[simp] theorem estimatedKey_devId (estimated : Nat) :
    (estimatedKey config estimated key).devId = key.devId := rfl

theorem hasBudget_of_charged (left : (chargedKey config key).hasBudget config = true) :
    key.hasBudget config = true ∧ (chargedKey config key).status = key.status := by
  have charged : config.reserve < key.dailyLimit - saturatingAdd u64Max key.usedToday 1 :=
    of_decide_eq_true left
  constructor
  · unfold saturatingAdd at charged
    simp only [InMemoryKey.hasBudget, hasUsableBudget, decide_eq_true_eq]
    omega
  · exact if_pos left

theorem usable_of_charged (usable : (chargedKey config key).usable config = true) :
    key.usable config = true := by
  rw [usable_iff] at usable ⊢
  obtain ⟨budget, same⟩ := hasBudget_of_charged config key usable.2
  exact ⟨same ▸ usable.1, budget⟩

theorem usable_of_failed (usable : (failedKey key).usable config = true) :
    key.usable config = true := by
  rw [usable_iff] at usable ⊢
  refine ⟨?_, usable.2⟩
  have healthy := usable.1
  simp only [failedKey] at healthy
  split at healthy
  · simp at healthy
  · exact healthy

theorem succeeded_usable_iff : (succeededKey key).usable config = true ↔
    (key.status = .healthy ∨ key.status = .unhealthy) ∧ key.hasBudget config = true := by
  rw [usable_iff]
  have budget : (succeededKey key).hasBudget config = key.hasBudget config := rfl
  rw [budget]
  refine and_congr_left fun _ => ?_
  cases status : key.status <;> simp [succeededKey, status]

theorem reported_usable_iff (report : AuthoritativeUsage) :
    (reportedKey config report key).usable config = true ↔ reportedStatus config report = .healthy := by
  rw [usable_iff]
  constructor
  · exact fun usable => usable.1
  · intro healthy
    refine ⟨healthy, ?_⟩
    unfold reportedStatus at healthy
    split at healthy
    · rename_i budget
      exact budget
    · simp at healthy

theorem estimated_usable_iff (estimated : Nat) :
    (estimatedKey config estimated key).usable config = true ↔
      hasUsableBudget estimated (effectiveDailyLimit config (some key.dailyLimit)) config.reserve = true := by
  rw [usable_iff]
  exact ⟨fun usable => usable.2, fun budget => ⟨rfl, budget⟩⟩

end Usable

/-- No lock section of the pool breaks the invariant, whatever its arguments. -/
theorem activeUsable_innerAfter {config : Config} {inner : KeyPoolInner} (op : PoolOp)
    (valid : ActiveUsable config inner) : ActiveUsable config (innerAfter config op inner) := by
  cases op with
  | selectSticky =>
      simp only [innerAfter, selectSticky_of_activeUsable valid]
      split <;> exact valid
  | selectAvailable =>
      simp only [innerAfter]
      rcases selectAvailable_cases config inner with ⟨chosen, _⟩ | ⟨key, member, usable, _, chosen⟩
      · rw [chosen]
        exact valid
      · rw [chosen]
        refine ⟨valid.distinct, fun devId isActive => ?_⟩
        obtain rfl : key.devId = devId := by simpa using isActive
        exact ⟨key, inner.find_of_mem valid.distinct member, usable⟩
  | incrementUsage devId =>
      refine activeUsable_modify valid (chargedKey_devId config) fun key found kept usable => ?_
      have budget : (chargedKey config key).hasBudget config = true := by
        simpa [found] using kept
      rw [usable_iff] at usable ⊢
      exact ⟨(hasBudget_of_charged config key budget).2 ▸ usable.1, budget⟩
  | takePending =>
      exact preserved_of_erased (activeUsable_erased config) (takePending_erased inner) valid
  | restorePending batches =>
      exact preserved_of_erased (activeUsable_erased config) (restorePending_erased batches inner) valid
  | addCallsTotal batches =>
      exact preserved_of_erased (activeUsable_erased config) (addCallsTotal_erased batches inner) valid
  | recordSuccess devId =>
      refine activeUsable_modify_only valid succeededKey_devId fun key _ usable => ?_
      rw [succeeded_usable_iff]
      exact ⟨Or.inl ((usable_iff config key).mp usable).1, ((usable_iff config key).mp usable).2⟩
  | recordFailure devId =>
      refine activeUsable_modify valid failedKey_devId fun key found kept usable => ?_
      have few : ¬ failureThreshold ≤ (failedKey key).consecutiveFailures := by
        simpa [found] using kept
      rw [usable_iff] at usable ⊢
      refine ⟨?_, usable.2⟩
      simp only [failedKey] at few ⊢
      rw [if_neg few]
      exact usable.1
  | beginRevival now =>
      simp only [innerAfter, beginRevival]
      split <;> exact ⟨valid.distinct, valid.active⟩
  | storeReport devId report =>
      refine activeUsable_modify valid (reportedKey_devId config · report) fun key found kept _ => ?_
      rw [reported_usable_iff]
      simpa [found] using kept
  | storeEstimate devId estimated now =>
      simp only [innerAfter, storeEstimate]
      split
      · exact valid
      · rename_i key found
        split
        · rename_i budget
          have changed : ActiveUsable config (inner.modify devId (estimatedKey config estimated)) := by
            refine activeUsable_modify_only valid (estimatedKey_devId config · estimated) ?_
            intro other foundOther _
            obtain rfl : key = other := by simpa [found] using foundOther
            exact (estimated_usable_iff config key estimated).mpr budget
          exact ⟨changed.distinct, changed.active⟩
        · exact valid
  | replaceKeys table pending =>
      exact ⟨loadedKeys_distinct config table pending, by simp [innerAfter, replaceKeys]⟩
  | _ => exact valid

theorem activeUsable_run {config : Config} {keys : List InMemoryKey} {table : KeyTable}
    {history : List PoolTurn} {state : PoolState}
    (distinct : (keys.map (·.devId)).Nodup)
    (run : PoolRun config (initialState keys table) history state) :
    ActiveUsable config state.shared.inner := by
  refine run_invariant (fun pool => ActiveUsable config pool.inner) ?_ run ?_
  · intro before op reply after valid answered
    rw [serve_inner answered]
    exact activeUsable_innerAfter op valid
  · exact ⟨distinct, by simp [initialState, KeyPoolInner.fresh]⟩

/-! ### What active_key returns -/

def selectedBy : (op : PoolOp) → op.Reply → Option ApiKeyStatus
  | .selectSticky, .selected key => some key
  | .selectAvailable, reply => reply
  | _, _ => none

/-- Whether a call took the demotion branch of `select_available_key`. -/
def demotedBy : (op : PoolOp) → op.Reply → Bool
  | .selectSticky, .demoted _ _ _ => true
  | _, _ => false

/-- The phase of a program is the last key it selected. -/
def lastSelected (last : Option ApiKeyStatus) (op : PoolOp) (reply : op.Reply) :
    Option (Option ApiKeyStatus) := some ((selectedBy op reply).or last)

def ReturnsLast (last : Option ApiKeyStatus) : PoolResult → Prop
  | .key (.ok key) => last = some key
  | _ => True

theorem follows_lastSelected {α : Type} (last : Option ApiKeyStatus) (program : PoolProgram α) :
    Follows lastSelected (fun _ _ => True) last program :=
  follows_of_total (fun _ _ _ => ⟨_, rfl⟩) last program

theorem lastSelected_total (last : Option ApiKeyStatus) (op : PoolOp) (reply : op.Reply)
    (holds : Option ApiKeyStatus → Prop) :
    (∃ after, lastSelected last op reply = some after ∧ holds after) ↔
      holds ((selectedBy op reply).or last) := by
  simp [lastSelected]

theorem selectAvailableKey_returnsLast (last : Option ApiKeyStatus) :
    Follows lastSelected (fun last result => ∀ key, result = some key → last = some key) last
      selectAvailableKey := by
  simp only [selectAvailableKey, Program.perform_bind, follows_call, lastSelected_total]
  intro reply
  cases reply with
  | selected key => simp [selectedBy]
  | demoted devId status failures =>
      simp +contextual [selectedBy, lastSelected, Program.perform]
  | passed => simp +contextual [selectedBy, lastSelected, Program.perform]

theorem reviveAndSelect_returnsLast (config : Config) (last : Option ApiKeyStatus) :
    Follows lastSelected (fun last result => ∀ key, result = .ok key → last = some key) last
      (reviveAndSelect config) := by
  simp only [reviveAndSelect, follows_bind]
  refine follows_mono ?_ (selectAvailableKey_returnsLast last)
  rintro last (_ | key) selected
  · simp only [Program.perform_bind, follows_call, lastSelected_total]
    intro now allowed
    cases allowed with
    | false => simp
    | true =>
        simp only [Bool.not_true, Bool.false_eq_true, ↓reduceIte, follows_call,
          lastSelected_total, follows_bind]
        intro devIds
        refine follows_mono ?_ (follows_lastSelected _ (syncEach config devIds))
        intro last _ _
        refine follows_mono ?_ (selectAvailableKey_returnsLast last)
        rintro last (_ | key) selected
        · simp
        · simpa using selected key rfl
  · simpa using selected key rfl

theorem selectOrRevive_returnsLast (config : Config) (last : Option ApiKeyStatus) :
    Follows lastSelected (fun last result => ∀ key, result = .ok key → last = some key) last
      (selectOrRevive config) := by
  simp only [selectOrRevive, follows_bind]
  refine follows_mono ?_ (selectAvailableKey_returnsLast last)
  rintro last (_ | key) selected
  · simp only [Program.perform_bind, follows_call, lastSelected_total, follows_bind]
    intro _
    refine follows_mono ?_ (reviveAndSelect_returnsLast config _)
    intro last result returned _
    simpa [selectedBy] using returned
  · simpa using selected key rfl

theorem activeKey_returnsLast (config : Config) (last : Option ApiKeyStatus) :
    Follows lastSelected (fun last result => ∀ key, result = .ok key → last = some key) last
      (activeKey config) := by
  rw [activeKey_eq, follows_bind]
  refine follows_mono ?_ (follows_lastSelected last ensureInitialized)
  rintro last (error | _) _
  · simp
  · exact selectOrRevive_returnsLast config last

theorem poolCode_returnsLast (config : Config) (caller : PoolCall) :
    Follows lastSelected ReturnsLast none (poolCode config caller) := by
  cases caller with
  | activeKey =>
      simp only [poolCode, follows_bind]
      refine follows_mono ?_ (activeKey_returnsLast config none)
      rintro last (error | key) returned
      · trivial
      · exact returned key rfl
  | _ =>
      simp only [poolCode, follows_bind, Program.pure_eq_done, follows_done]
      exact follows_mono (fun _ _ _ => trivial) (follows_lastSelected none _)

/-- A key that a caller got back was selected by one of the caller's own turns. -/
theorem returned_was_selected {config : Config} {keys : List InMemoryKey} {table : KeyTable}
    {history : List PoolTurn} {state : PoolState}
    (run : PoolRun config (initialState keys table) history state) {task : Nat} {key : ApiKeyStatus}
    (returned : state.programs[task]? = some (.done (.key (.ok key)))) :
    ∃ turn ∈ history, turn.task = task ∧ selectedBy turn.op turn.reply = some key := by
  obtain ⟨phases, follow, recorded⟩ := run_noted selectedBy id (fun _ => none)
    (poolCode_returnsLast config) (fun _ => rfl) rfl (by
      intro last op reply after allowed
      obtain rfl : _ = after := Option.some.inj allowed
      cases selectedBy op reply with
      | none => exact Or.inr (Or.inr rfl)
      | some key => exact Or.inr (Or.inl rfl)) run
  obtain ⟨last, found, follows⟩ := forall₂_getElem? follow returned
  exact recorded task last key found follows

/-- What a turn selects is in the pool at that moment, healthy and above the reserve. -/
theorem selected_usable {config : Config} {before after : Pool} {op : PoolOp} {reply : op.Reply}
    (answered : (serve config).handler before op reply after) {key : ApiKeyStatus}
    (selected : selectedBy op reply = some key) :
    ∃ chosen ∈ after.inner.keys, formatKey config chosen = key ∧ chosen.usable config = true := by
  obtain ⟨outside, served⟩ := answered
  cases op with
  | selectSticky =>
      simp only [serve, Pool.section, Option.some.injEq, Prod.mk.injEq] at served
      obtain ⟨rfl, rfl⟩ := served
      simp only [selectSticky] at selected ⊢
      split at selected
      · simp [selectedBy] at selected
      · rename_i active isActive
        split at selected
        · simp [selectedBy] at selected
        · rename_i chosen found
          split at selected
          · rename_i usable
            obtain rfl : _ = key := by simpa [selectedBy] using selected
            exact ⟨chosen, by simpa [isActive, found, usable] using (before.inner.find_mem found).1,
              rfl, usable⟩
          · split at selected <;> simp [selectedBy] at selected
  | selectAvailable =>
      simp only [serve, Pool.section, Option.some.injEq, Prod.mk.injEq] at served
      obtain ⟨rfl, rfl⟩ := served
      rcases selectAvailable_cases config before.inner with ⟨chosen, _⟩ | ⟨other, member, usable, _, chosen⟩
      · simp [selectedBy, chosen] at selected
      · simp only [selectedBy, chosen, Option.some.injEq] at selected ⊢
        exact ⟨other, member, selected, usable⟩
  | _ => simp [selectedBy] at selected

theorem not_demoted {config : Config} {before after : Pool} {op : PoolOp} {reply : op.Reply}
    (valid : ActiveUsable config before.inner)
    (answered : (serve config).handler before op reply after) : demotedBy op reply = false := by
  obtain ⟨outside, served⟩ := answered
  cases op with
  | selectSticky =>
      simp only [serve, Pool.section, selectSticky_of_activeUsable valid, Option.some.injEq,
        Prod.mk.injEq] at served
      obtain ⟨rfl, _⟩ := served
      split <;> rfl
  | _ => rfl

/-- In every reachable state the active key is in the pool, healthy and above the
reserve; what a caller of `active_key` gets was so when it was selected; and no
selection ever demotes the active key. -/
theorem active_key_usable_in_every_run {config : Config} {keys : List InMemoryKey} {table : KeyTable}
    {history : List PoolTurn} {state : PoolState}
    (distinct : (keys.map (·.devId)).Nodup)
    (run : PoolRun config (initialState keys table) history state) :
    (∀ devId, state.shared.inner.activeDevId = some devId →
      ∃ key ∈ state.shared.inner.keys, key.devId = devId ∧ key.status = .healthy ∧
        hasUsableBudget key.usedToday key.dailyLimit config.reserve = true) ∧
    (∀ task key, state.programs[task]? = some (.done (.key (.ok key))) →
      ∃ turn ∈ history, turn.task = task ∧ selectedBy turn.op turn.reply = some key) ∧
    (∀ turn ∈ history, ∀ key, selectedBy turn.op turn.reply = some key →
      ∃ chosen ∈ turn.after.inner.keys, formatKey config chosen = key ∧ chosen.status = .healthy ∧
        hasUsableBudget chosen.usedToday chosen.dailyLimit config.reserve = true) ∧
    (∀ turn ∈ history, demotedBy turn.op turn.reply = false) := by
  refine ⟨fun devId isActive => ?_, fun task key => returned_was_selected run,
    fun turn taken key selected => ?_, fun turn taken => ?_⟩
  · obtain ⟨key, found, usable⟩ := (activeUsable_run distinct run).active devId isActive
    obtain ⟨member, same⟩ := KeyPoolInner.find_mem _ found
    obtain ⟨healthy, budget⟩ := (usable_iff config key).mp usable
    exact ⟨key, member, same, healthy, budget⟩
  · obtain ⟨answered, _⟩ := run_turn run taken
    obtain ⟨chosen, member, same, usable⟩ := selected_usable answered selected
    obtain ⟨healthy, budget⟩ := (usable_iff config chosen).mp usable
    exact ⟨chosen, member, same, healthy, budget⟩
  · obtain ⟨answered, earlier, reached⟩ := run_turn run taken
    exact not_demoted (activeUsable_run distinct reached) answered

def testConfig : Config := ⟨100, none, none, some⟩

def testKey (devId : String) (usedToday : Nat) (isBackup : Bool) : InMemoryKey :=
  ⟨devId, "secret", .healthy, 7500, usedToday, 0, 0, 50, isBackup⟩

def emptyTable : KeyTable := ⟨[], List.nodup_nil⟩

theorem active_key_usable_after_one_call :
    ∃ history state, PoolRun testConfig (initialState [testKey "1000" 7399 false] emptyTable)
        history state ∧
      state.shared.inner.activeDevId = some "1000" ∧
      ∃ key ∈ state.shared.inner.keys, key.devId = "1000" ∧ key.status = .healthy ∧
        hasUsableBudget key.usedToday key.dailyLimit testConfig.reserve = true := by
  have passed : (replay (serve testConfig) (poolCode testConfig)
      (initialState [testKey "1000" 7399 false] emptyTable)
      [.enter .activeKey, .turn 0 {}, .turn 0 {}, .turn 0 {}]).any
      (fun outcome => outcome.2.shared.inner.activeDevId == some "1000") = true := by decide
  obtain ⟨history, state, run, active⟩ := replay_reaches passed
  have isActive : state.shared.inner.activeDevId = some "1000" := by simpa using active
  exact ⟨history, state, run, isActive,
    (active_key_usable_in_every_run (by simp) run).1 "1000" isActive⟩

end PaladinsCat.KeyPool
