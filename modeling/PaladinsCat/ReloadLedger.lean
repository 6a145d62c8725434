import PaladinsCat.UsageLedger

/-!
The usage ledger across reloads. A reload flushes, loads the rows, reads the
pending counts and then replaces the key list, in four steps. A new key starts
from the stored `total_24h` alone and from the pending count that was read, so
the books agree afterwards only if nothing was pending or on its way, and
nothing moved since the rows were loaded.
-/

namespace PaladinsCat.KeyPool

open Interleaving

/-! ### The figures of a key -/

def usedOf (inner : KeyPoolInner) (devId : String) : Option Nat :=
  (inner.find devId).map (·.usedToday)

def storedTotal (table : KeyTable) (devId : String) : Option Nat :=
  (KeyedList.lookup EncryptedKeyRow.devId devId table.rows).map (·.total24h)

/-- The calls that set a usage figure from elsewhere: an authoritative sync, a
revival, new keys from a file, a write by another process. -/
def PoolOp.resetsUsage : PoolOp → Bool
  | .storeReport _ _ | .storeEstimate _ _ _ | .saveAuthoritativeUsage _ _ _ _
  | .bootstrapKeys _ | .foreignWrite _ => true
  | _ => false

theorem usedOf_of_erased {before after : KeyPoolInner} (same : after.erased = before.erased)
    (devId : String) : usedOf after devId = usedOf before devId := by
  have ignores : ∀ inner : KeyPoolInner, usedOf inner.erased devId = usedOf inner devId := by
    intro inner
    rw [usedOf, erased_find, Option.map_map]
    rfl
  rw [← ignores, same, ignores]

theorem usedOf_incrementUsage (config : Config) (charged devId : String) (inner : KeyPoolInner) :
    usedOf (incrementUsage config charged inner) devId = (usedOf inner devId).map fun used =>
      if devId = charged then saturatingAdd u64Max used 1 else used := by
  rw [usedOf, incrementUsage, KeyPoolInner.clearActive_find,
    KeyPoolInner.find_modify inner (chargedKey_devId config), usedOf, Option.map_map, Option.map_map]
  congr 1
  funext key
  by_cases hit : devId = charged
  · simp [hit, chargedKey]
  · simp [hit]

theorem usedOf_innerAfter {config : Config} {inner : KeyPoolInner} (valid : ActiveUsable config inner)
    {op : PoolOp} {devId : String} (noReload : op.reloads = false) (noReset : op.resetsUsage = false)
    (noCharge : op.charges devId = false) :
    usedOf (innerAfter config op inner) devId = usedOf inner devId := by
  cases op with
  | replaceKeys => simp [PoolOp.reloads] at noReload
  | storeReport | storeEstimate | saveAuthoritativeUsage | bootstrapKeys | foreignWrite =>
      simp [PoolOp.resetsUsage] at noReset
  | incrementUsage charged =>
      have other : devId ≠ charged := by simpa [PoolOp.charges] using noCharge
      simp [innerAfter, usedOf_incrementUsage, other]
  | selectSticky =>
      simp only [innerAfter, selectSticky_of_activeUsable valid]
      split <;> rfl
  | selectAvailable =>
      simp only [innerAfter, selectAvailable]
      split <;> rfl
  | takePending => exact usedOf_of_erased (takePending_erased inner) devId
  | restorePending batches => exact usedOf_of_erased (restorePending_erased batches inner) devId
  | addCallsTotal batches => exact usedOf_of_erased (addCallsTotal_erased batches inner) devId
  | recordSuccess other =>
      exact find_modify_view InMemoryKey.usedToday inner succeededKey_devId (fun _ => rfl) devId
  | recordFailure other =>
      simp only [innerAfter, recordFailure, usedOf, KeyPoolInner.clearActive_find]
      exact find_modify_view InMemoryKey.usedToday inner failedKey_devId (fun _ => rfl) devId
  | beginRevival now =>
      simp only [innerAfter, beginRevival]
      split <;> rfl
  | _ => rfl

theorem used_turn {config : Config} {before after : Pool} {op : PoolOp} {reply : op.Reply}
    (valid : ActiveUsable config before.inner)
    (answered : (serve config).handler before op reply after) (noReload : op.reloads = false)
    (noReset : op.resetsUsage = false) {devId : String} {used : Nat}
    (found : usedOf after.inner devId = some used) (fits : used < u64Max) :
    ∃ earlier, usedOf before.inner devId = some earlier ∧ used = earlier + (op.charges devId).toNat := by
  rw [serve_inner answered] at found
  cases charge : op.charges devId with
  | false =>
      rw [usedOf_innerAfter valid noReload noReset charge] at found
      exact ⟨used, found, rfl⟩
  | true =>
      cases op with
      | incrementUsage charged =>
          obtain rfl : devId = charged := by simpa [PoolOp.charges] using charge
          simp only [innerAfter] at found
          rw [usedOf_incrementUsage, Option.map_eq_some_iff] at found
          obtain ⟨earlier, found, rfl⟩ := found
          refine ⟨earlier, found, ?_⟩
          simp only [↓reduceIte, saturatingAdd, Bool.toNat_true] at fits ⊢
          omega
      | _ => simp [PoolOp.charges] at charge

/-! ### The stored totals -/

theorem storedTotal_update (table : KeyTable) (changed devId : String)
    {change : EncryptedKeyRow → EncryptedKeyRow} (keeps : ∀ row, (change row).devId = row.devId)
    (grow : Nat → Nat) (effect : ∀ row, (change row).total24h = grow row.total24h) :
    storedTotal (table.update changed change keeps) devId =
      (storedTotal table devId).map fun total => if devId = changed then grow total else total := by
  unfold storedTotal KeyTable.update
  rw [KeyedList.lookup_update keeps, Option.map_map, Option.map_map]
  congr 1
  funext row
  by_cases hit : devId = changed
  · simp [hit, effect]
  · simp [hit]

theorem storedTotal_updateStatus (table : KeyTable) (changed devId : String) (status : KeyStatus)
    (failures : Nat) :
    storedTotal (table.updateStatus changed status failures) devId = storedTotal table devId := by
  rw [KeyTable.updateStatus, storedTotal_update table changed devId _ id]
  · simp
  · exact fun _ => rfl

theorem storedTotal_flush (reserve : Nat) (table : KeyTable) (batches : List UsageBatch)
    (devId : String) : storedTotal (table.flush reserve batches) devId =
      (storedTotal table devId).map (· + batchCalls devId batches) := by
  unfold KeyTable.flush
  induction batches generalizing table with
  | nil => simp
  | cons batch rest ih =>
      rw [List.foldl_cons, ih, storedTotal_update table batch.devId devId _ (· + batch.calls),
        Option.map_map]
      · congr 1
        funext total
        rw [batchCalls_cons]
        by_cases hit : devId = batch.devId
        · simp only [Function.comp_apply, hit, ↓reduceIte]
          omega
        · simp only [Function.comp_apply, hit, Ne.symm hit, ↓reduceIte]
          omega
      · exact fun _ => rfl

theorem stored_turn {config : Config} {before after : Pool} {op : PoolOp} {reply : op.Reply}
    (answered : (serve config).handler before op reply after) (noReset : op.resetsUsage = false)
    (devId : String) : storedTotal after.table devId =
      (storedTotal before.table devId).map (· + batchCalls devId (writtenBy op reply)) := by
  rw [(serve_effect answered).2.1]
  cases op with
  | flushUsage batches =>
      rcases reply with error | _
      · simp [tableAfter, writtenBy]
      · exact storedTotal_flush config.reserve before.table batches devId
  | updateStatus changed status failures =>
      rcases reply with error | _
      · simp [tableAfter, writtenBy]
      · simp only [tableAfter, writtenBy, batchCalls_nil, Nat.add_zero, Option.map_id']
        exact storedTotal_updateStatus before.table changed devId status failures
  | storeReport | storeEstimate | saveAuthoritativeUsage | bootstrapKeys | foreignWrite =>
      simp [PoolOp.resetsUsage] at noReset
  | _ => simp [tableAfter, writtenBy]

/-! ### Reloads -/

def KeyTable.decrypts (config : Config) (table : KeyTable) : Bool :=
  table.rows.all fun row => (config.decrypt row.encryptedAuthKey).isSome

/-- If the call installs a reloaded key list, all its rows decrypt. -/
def PoolOp.decrypts (config : Config) : PoolOp → Bool
  | .replaceKeys table _ => table.decrypts config
  | _ => true

/-- The loaded rows still show what is stored, and none of their increments is
pending, was pending when the counts were read, or is held by a flush. -/
def Current (pool : Pool) (programs : List (PoolProgram PoolResult)) (loaded : KeyTable)
    (pending : String → Option Nat) : Prop :=
  (∀ row ∈ loaded.rows, storedTotal pool.table row.devId = some row.total24h ∧
    (pending row.devId).getD 0 = 0 ∧ (pendingOf pool.inner row.devId).getD 0 = 0 ∧
    heldCalls row.devId programs = 0) ∧
  ∀ row ∈ pool.table.rows, (storedTotal loaded row.devId).isSome = true

instance (pool : Pool) (programs : List (PoolProgram PoolResult)) (loaded : KeyTable)
    (pending : String → Option Nat) : Decidable (Current pool programs loaded pending) :=
  inferInstanceAs (Decidable (_ ∧ _))

/-- If the turn installs a reloaded key list, that list is current. -/
def reloadsCurrent (turn : PoolTurn) : Bool :=
  match turn.op with
  | .replaceKeys loaded pending => decide (Current turn.before turn.programs loaded pending)
  | _ => true

/-- No usage counter has reached the maximum of its type. -/
def CountersFit (inner : KeyPoolInner) : Prop :=
  ∀ key ∈ inner.keys, key.usedToday < u64Max ∧ key.pendingIncrements < u64Max

instance (inner : KeyPoolInner) : Decidable (CountersFit inner) :=
  inferInstanceAs (Decidable (∀ key ∈ inner.keys,
    key.usedToday < u64Max ∧ key.pendingIncrements < u64Max))

theorem storedTotal_isSome {table : KeyTable} {devId : String} {stored : Nat}
    (found : storedTotal table devId = some stored) :
    ∃ row ∈ table.rows, row.devId = devId ∧ row.total24h = stored := by
  obtain ⟨row, foundRow, total⟩ := Option.map_eq_some_iff.mp found
  obtain ⟨member, same⟩ := KeyedList.lookup_mem foundRow
  exact ⟨row, member, same, total⟩

/-- A reloaded key has the stored total, and the pending count that was read. -/
theorem find_replaceKeys {config : Config} {loaded : KeyTable} {pending : String → Option Nat}
    {inner : KeyPoolInner} {devId : String} {key : InMemoryKey}
    (found : (replaceKeys config loaded pending inner).find devId = some key) :
    ∃ row ∈ loaded.rows, row.devId = devId ∧ key.usedToday = row.total24h ∧
      key.pendingIncrements = (pending devId).getD 0 := by
  obtain ⟨member, same⟩ := KeyPoolInner.find_mem _ found
  simp only [replaceKeys, loadedKeys, List.mem_insertionSort, List.mem_filterMap] at member
  obtain ⟨row, inRows, made⟩ := member
  obtain ⟨authKey, _, rfl⟩ := Option.map_eq_some_iff.mp made
  exact ⟨row, inRows, same, rfl, by rw [← same]⟩

theorem find_replaceKeys_of_mem {config : Config} {loaded : KeyTable} (decrypts : loaded.decrypts config = true)
    (pending : String → Option Nat) (inner : KeyPoolInner) {row : EncryptedKeyRow}
    (member : row ∈ loaded.rows) :
    ∃ key, (replaceKeys config loaded pending inner).find row.devId = some key := by
  obtain ⟨authKey, opens⟩ := Option.isSome_iff_exists.mp (List.all_eq_true.mp decrypts row member)
  refine KeyedList.lookup_isSome ?_
  simp only [replaceKeys, loadedKeys, List.mem_map, List.mem_insertionSort, List.mem_filterMap]
  exact ⟨_, ⟨row, member, by rw [loadedKey, opens, Option.map_some]⟩, rfl⟩

theorem find_isSome_turn {config : Config} {before after : Pool} {op : PoolOp} {reply : op.Reply}
    (valid : ActiveUsable config before.inner)
    (answered : (serve config).handler before op reply after) (noReload : op.reloads = false)
    {devId : String} {key : InMemoryKey} (found : before.inner.find devId = some key) :
    ∃ later, after.inner.find devId = some later := by
  have known : (pendingOf before.inner devId).isSome = true := by simp [pendingOf, found]
  have kept : (pendingOf after.inner devId).isSome = true := by
    rw [serve_inner answered]
    cases op with
    | incrementUsage charged => simpa [innerAfter, pendingOf_incrementUsage] using known
    | takePending => simpa [innerAfter, pendingOf_takePending] using known
    | restorePending batches => simpa [innerAfter, pendingOf_restorePending] using known
    | replaceKeys => simp [PoolOp.reloads] at noReload
    | _ => rwa [pendingOf_innerAfter (by rfl) valid]
  rw [pendingOf, Option.isSome_map] at kept
  exact Option.isSome_iff_exists.mp kept

/-- The books of all keys: the usage of a key is what is stored, what flushes hold
and what is pending, and so are its charges, counted from the start of the run. -/
structure Books (history : List PoolTurn) (pool : Pool) (phases : List FlushPhase) : Prop where
  agrees : ∀ devId key, pool.inner.find devId = some key →
    ∃ stored, storedTotal pool.table devId = some stored ∧
      key.usedToday = stored + owed devId phases + key.pendingIncrements ∧
      chargedCalls devId history =
        batchCalls devId pool.committed + owed devId phases + key.pendingIncrements
  complete : ∀ devId stored, storedTotal pool.table devId = some stored →
    ∃ key, pool.inner.find devId = some key

section Step
variable {config : Config} {history : List PoolTurn} {phases : List FlushPhase}
  {phase after : FlushPhase} {turn : PoolTurn}

theorem books_turn (valid : ActiveUsable config turn.before.inner)
    (books : Books history turn.before phases) (here : phases[turn.task]? = some phase)
    (allowed : flushNext phase turn.op turn.reply = some after)
    (answered : (serve config).handler turn.before turn.op turn.reply turn.after)
    (noReload : turn.op.reloads = false) (noReset : turn.op.resetsUsage = false)
    (fits : CountersFit turn.after.inner) :
    Books (history ++ [turn]) turn.after (phases.set turn.task after) := by
  constructor
  · intro devId key found
    obtain ⟨member, _⟩ := KeyPoolInner.find_mem _ found
    obtain ⟨pending, foundPending, moved⟩ := pending_turn valid answered noReload
      (by rw [pendingOf, found, Option.map_some]) (fits key member).2
    obtain ⟨used, foundUsed, charged⟩ := used_turn valid answered noReload noReset
      (by rw [usedOf, found, Option.map_some]) (fits key member).1
    obtain ⟨old, foundOld, rfl⟩ := Option.map_eq_some_iff.mp foundPending
    rw [usedOf, foundOld, Option.map_some, Option.some.injEq] at foundUsed
    obtain ⟨stored, foundStored, usage, calls⟩ := books.agrees devId old foundOld
    refine ⟨_, by rw [stored_turn answered noReset, foundStored, Option.map_some], ?_, ?_⟩
    all_goals
      have committed := committed_turn devId answered
      have held := held_turn devId allowed
      have total := owed_set devId here after
    · omega
    · rw [chargedCalls_append]
      omega
  · intro devId stored found
    rw [stored_turn answered noReset, Option.map_eq_some_iff] at found
    obtain ⟨earlier, found, _⟩ := found
    obtain ⟨key, foundKey⟩ := books.complete devId earlier found
    exact find_isSome_turn valid answered noReload foundKey

theorem books_reload (books : Books history turn.before phases)
    (follow : List.Forall₂ (Follows flushNext (fun phase _ => phase = .idle)) phases turn.programs)
    (here : phases[turn.task]? = some phase)
    (allowed : flushNext phase turn.op turn.reply = some after)
    (answered : (serve config).handler turn.before turn.op turn.reply turn.after)
    (reloads : turn.op.reloads = true) (decrypts : turn.op.decrypts config = true)
    (current : reloadsCurrent turn = true) :
    Books (history ++ [turn]) turn.after (phases.set turn.task after) := by
  obtain ⟨⟨before, op, reply, pool⟩, task, programs⟩ := turn
  cases op with
  | replaceKeys loaded pending =>
      obtain ⟨innerEq, tableEq, committedEq⟩ := serve_effect answered
      obtain ⟨rows, complete⟩ := of_decide_eq_true current
      dsimp only at *
      -- a reload holds no batch, so replacing the keys leaves what is owed alone
      have same : ∀ devId, owed devId (phases.set task after) = owed devId phases := by
        intro devId
        have total := owed_set devId here after
        have held := held_turn devId allowed
        simp only [writtenBy, restoredBy, takenBy, batchCalls_nil] at held
        omega
      constructor
      · intro devId key found
        rw [innerEq] at found
        obtain ⟨row, member, rfl, used, read⟩ := find_replaceKeys found
        obtain ⟨stored, unread, unsaved, unheld⟩ := rows row member
        obtain ⟨old, foundOld⟩ := books.complete row.devId _ stored
        obtain ⟨_, _, _, calls⟩ := books.agrees row.devId old foundOld
        rw [pendingOf, foundOld, Option.map_some, Option.getD_some] at unsaved
        rw [← owed_eq_heldCalls follow] at unheld
        refine ⟨row.total24h, by rw [tableEq]; exact stored, ?_, ?_⟩
        · rw [same, used, read, unread, unheld]
          rfl
        · rw [same, committedEq, read, unread, chargedCalls_append, calls, unsaved]
          rfl
      · intro devId stored found
        rw [tableEq] at found
        obtain ⟨row, member, rfl, _⟩ := storedTotal_isSome found
        obtain ⟨total, foundTotal⟩ := Option.isSome_iff_exists.mp (complete row member)
        obtain ⟨loadedRow, loadedMember, sameId, _⟩ := storedTotal_isSome foundTotal
        rw [innerEq, ← sameId]
        exact find_replaceKeys_of_mem decrypts pending before.inner loadedMember
  | _ => simp [PoolOp.reloads] at reloads

end Step

-- The pool as the first load of a table leaves it.
def loadedState (config : Config) (table : KeyTable) : PoolState :=
  initialState (loadedKeys config table fun _ => none) table

theorem books_loaded {config : Config} {table : KeyTable} (decrypts : table.decrypts config = true) :
    Books [] (loadedState config table).shared [] := by
  have keys : (loadedState config table).shared.inner =
      replaceKeys config table (fun _ => none) (.fresh []) := rfl
  constructor
  · intro devId key found
    rw [keys] at found
    obtain ⟨row, member, rfl, used, read⟩ := find_replaceKeys found
    have stored : storedTotal table row.devId = some row.total24h := by
      rw [storedTotal, KeyedList.lookup_of_mem table.distinct member, Option.map_some]
    exact ⟨row.total24h, stored, by rw [used, read]; rfl, by rw [read]; rfl⟩
  · intro devId stored found
    obtain ⟨row, member, rfl, _⟩ := storedTotal_isSome found
    rw [keys]
    exact find_replaceKeys_of_mem decrypts _ _ member

def Orderly (config : Config) (turn : PoolTurn) : Prop :=
  turn.op.resetsUsage = false ∧ turn.op.decrypts config = true ∧ CountersFit turn.after.inner ∧
    reloadsCurrent turn = true

theorem books_run {config : Config} {table : KeyTable} {history : List PoolTurn} {state : PoolState}
    (decrypts : table.decrypts config = true)
    (run : PoolRun config (loadedState config table) history state) :
    ∃ phases, List.Forall₂ (Follows flushNext (fun phase _ => phase = .idle)) phases state.programs ∧
      ActiveUsable config state.shared.inner ∧
      ((∀ turn ∈ history, Orderly config turn) → Books history state.shared phases) := by
  refine run_phases (fun _ => FlushPhase.idle) (poolCode_flushes config)
    (fun history pool phases => ActiveUsable config pool.inner ∧
      ((∀ turn ∈ history, Orderly config turn) → Books history pool phases)) ⟨?_, ?_⟩ rfl ?_ ?_ run
  · exact ⟨loadedKeys_distinct config table _, by simp [loadedState, initialState, KeyPoolInner.fresh]⟩
  · exact fun _ => books_loaded decrypts
  · rintro history pool phases _ ⟨valid, books⟩
    refine ⟨valid, fun steps => ?_⟩
    obtain ⟨agrees, complete⟩ := books steps
    refine ⟨fun devId key found => ?_, complete⟩
    rw [owed_append_idle]
    exact agrees devId key found
  · rintro history phases phase after turn ⟨valid, books⟩ follow here allowed answered
    refine ⟨serve_inner answered ▸ activeUsable_innerAfter turn.op valid, fun steps => ?_⟩
    obtain ⟨noReset, decrypts, fits, current⟩ := steps turn (by simp)
    have before := books fun turn taken => steps turn (List.mem_append_left _ taken)
    cases reloads : turn.op.reloads with
    | false => exact books_turn valid before here allowed answered reloads noReset fits
    | true => exact books_reload before follow here allowed answered reloads decrypts current

/-- In every run from a freshly loaded pool in which every stored key decrypts, no
figure is set from elsewhere, no counter overflows, and every key list that a
reload installs is current: whenever no flush is under way, the usage of each key
is what is stored plus what is pending, and its charges are what is committed
plus what is pending. -/
theorem usage_agrees_when_reloads_are_current {config : Config} {table : KeyTable}
    {history : List PoolTurn} {state : PoolState} (decrypts : table.decrypts config = true)
    (run : PoolRun config (loadedState config table) history state)
    (loads : ∀ turn ∈ history, turn.op.decrypts config = true)
    (noReset : ∀ turn ∈ history, turn.op.resetsUsage = false)
    (fits : ∀ turn ∈ history, CountersFit turn.after.inner)
    (current : ∀ turn ∈ history, reloadsCurrent turn = true)
    (quiet : ∀ program ∈ state.programs, heldBatch program = []) :
    ∀ key ∈ state.shared.inner.keys, ∃ stored,
      storedTotal state.shared.table key.devId = some stored ∧
      key.usedToday = stored + key.pendingIncrements ∧
      chargedCalls key.devId history =
        batchCalls key.devId state.shared.committed + key.pendingIncrements := by
  obtain ⟨phases, follow, valid, books⟩ := books_run decrypts run
  intro key member
  obtain ⟨stored, foundStored, usage, calls⟩ :=
    (books fun turn taken => ⟨noReset turn taken, loads turn taken, fits turn taken,
      current turn taken⟩).agrees key.devId key (state.shared.inner.find_of_mem valid.distinct member)
  have none : owed key.devId phases = 0 := by
    rw [owed_eq_heldCalls follow, heldCalls]
    refine List.sum_eq_zero fun calls member => ?_
    obtain ⟨program, inPrograms, rfl⟩ := List.mem_map.mp member
    rw [quiet program inPrograms]
    rfl
  rw [none] at usage calls
  exact ⟨stored, foundStored, usage, calls⟩

def testTable : KeyTable := ⟨[⟨"1000", "secret", "healthy", 0, some 7500, 0, 0⟩], by simp⟩

-- A reload flushes nothing and loads the rows; one call is counted before it
-- reads the pending counts, another after.
def racingReload : List (Move PoolCall Outside) :=
  [.enter (.reload none), .turn 0 {}, .turn 0 {}, .turn 0 {}, .turn 0 {}, .turn 0 {},
    .enter (.incrementUsage "1000"), .turn 1 {}, .turn 0 {},
    .enter (.incrementUsage "1000"), .turn 2 {}, .turn 0 {}, .turn 0 {}, .turn 0 {}]

theorem reload_forgets_racing_increments :
    ∃ history state, PoolRun testConfig (loadedState testConfig testTable) history state ∧
      (∀ turn ∈ history, turn.op.decrypts testConfig = true ∧ turn.op.resetsUsage = false ∧
        CountersFit turn.after.inner) ∧
      (∀ program ∈ state.programs, program.finished = true) ∧
      ∃ key ∈ state.shared.inner.keys, storedTotal state.shared.table key.devId = some 0 ∧
        key.usedToday = 0 ∧ key.pendingIncrements = 1 ∧
        chargedCalls key.devId history = 2 ∧ batchCalls key.devId state.shared.committed = 0 := by
  have passed : (replay (serve testConfig) (poolCode testConfig) (loadedState testConfig testTable)
      racingReload).any (fun outcome => decide (
        (∀ turn ∈ outcome.1, turn.op.decrypts testConfig = true ∧ turn.op.resetsUsage = false ∧
          CountersFit turn.after.inner) ∧
        (∀ program ∈ outcome.2.programs, program.finished = true) ∧
        ∃ key ∈ outcome.2.shared.inner.keys, storedTotal outcome.2.shared.table key.devId = some 0 ∧
          key.usedToday = 0 ∧ key.pendingIncrements = 1 ∧
          chargedCalls key.devId outcome.1 = 2 ∧
          batchCalls key.devId outcome.2.shared.committed = 0)) = true := by decide
  obtain ⟨history, state, run, tested⟩ := replay_reaches passed
  exact ⟨history, state, run, of_decide_eq_true tested⟩

-- An increment, a reload that flushes it, and another increment.
def calmReload : List (Move PoolCall Outside) :=
  [.enter (.incrementUsage "1000"), .turn 0 {}, .enter (.reload none), .turn 1 {}, .turn 1 {},
    .turn 1 {}, .turn 1 {}, .turn 1 {}, .turn 1 {}, .turn 1 {}, .turn 1 {}, .turn 1 {}, .turn 1 {},
    .turn 1 {}, .enter (.incrementUsage "1000"), .turn 2 {}]

theorem usage_agrees_after_a_calm_reload :
    ∃ history state, PoolRun testConfig (loadedState testConfig testTable) history state ∧
      chargedCalls "1000" history = 2 ∧
      ∀ key ∈ state.shared.inner.keys, ∃ stored,
        storedTotal state.shared.table key.devId = some stored ∧
        key.usedToday = stored + key.pendingIncrements ∧
        chargedCalls key.devId history =
          batchCalls key.devId state.shared.committed + key.pendingIncrements := by
  have passed : (replay (serve testConfig) (poolCode testConfig) (loadedState testConfig testTable)
      calmReload).any (fun outcome => decide (chargedCalls "1000" outcome.1 = 2 ∧
        (∀ turn ∈ outcome.1, turn.op.decrypts testConfig = true) ∧
        (∀ turn ∈ outcome.1, turn.op.resetsUsage = false) ∧
        (∀ turn ∈ outcome.1, CountersFit turn.after.inner) ∧
        (∀ turn ∈ outcome.1, reloadsCurrent turn = true) ∧
        ∀ program ∈ outcome.2.programs, heldBatch program = [])) = true := by decide
  obtain ⟨history, state, run, tested⟩ := replay_reaches passed
  obtain ⟨charged, loads, noReset, fits, current, quiet⟩ := of_decide_eq_true tested
  exact ⟨history, state, run, charged,
    usage_agrees_when_reloads_are_current (by decide) run loads noReset fits current quiet⟩

end PaladinsCat.KeyPool
