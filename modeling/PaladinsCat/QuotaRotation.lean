import PaladinsCat.KeySelection
import PaladinsCat.Relay

/-!
What becomes of a key whose quota the vendor has refused. `api_request` syncs the
usage of that key and tries again; only a stored report takes the key out of the
rotation, and only if it leaves no budget. Without a report the key keeps the
budget it has locally.
-/

namespace PaladinsCat.Hirez

open Interleaving KeyPool

/-! ### A spent key -/

/-- The pool has no usable budget for the key, or no such key. -/
def spent (config : Config) (devId : String) (inner : KeyPoolInner) : Bool :=
  (inner.find devId).all fun key => !key.hasBudget config

section Spent
variable {config : Config} {devId : String} {inner : KeyPoolInner}

theorem spent_iff : spent config devId inner = true ↔
    ∀ key, inner.find devId = some key → key.hasBudget config = false := by
  simp [spent, Option.all_eq_true]

theorem spent_modify {changed : String} {change : InMemoryKey → InMemoryKey}
    (keeps : ∀ key, (change key).devId = key.devId)
    (spends : changed = devId → ∀ key, inner.find devId = some key →
      (change key).hasBudget config = false)
    (before : changed ≠ devId → spent config devId inner = true) :
    spent config devId (inner.modify changed change) = true := by
  rw [spent_iff]
  intro key found
  rw [KeyPoolInner.find_modify inner keeps] at found
  obtain ⟨old, foundOld, rfl⟩ := Option.map_eq_some_iff.mp found
  by_cases same : devId = changed
  · simpa [same] using spends same.symm old foundOld
  · simpa [same] using spent_iff.mp (before (Ne.symm same)) old foundOld

theorem spent_of_same_find {other : KeyPoolInner} (same : other.find devId = inner.find devId)
    (before : spent config devId inner = true) : spent config devId other = true := by
  rw [spent, same]
  exact before

theorem spent_modify_same {changed : String} {change : InMemoryKey → InMemoryKey}
    (keeps : ∀ key, (change key).devId = key.devId)
    (same : ∀ key, (change key).hasBudget config = key.hasBudget config)
    (before : spent config devId inner = true) :
    spent config devId (inner.modify changed change) = true := by
  refine spent_modify keeps (fun _ key found => ?_) fun _ => before
  rw [same]
  exact spent_iff.mp before key found

theorem reported_spends {report : AuthoritativeUsage} (low : reportedStatus config report ≠ .healthy)
    (key : InMemoryKey) : (reportedKey config report key).hasBudget config = false := by
  cases budget : (reportedKey config report key).hasBudget config with
  | false => rfl
  | true => exact absurd (if_pos budget) low

/-- A report without budget spends the key, whatever it was before. -/
theorem spent_storeReport {report : AuthoritativeUsage} (low : reportedStatus config report ≠ .healthy) :
    spent config devId (storeReport config devId report inner) = true := by
  refine spent_of_same_find (KeyPoolInner.clearActive_find _) ?_
  exact spent_modify (reportedKey_devId config · report) (fun _ key _ => reported_spends low key)
    fun other => absurd rfl other

end Spent

/-! ### The record of the pool -/

/-- A report with usable budget for the key was stored. -/
def reportsBudget (config : Config) (devId : String) (call : PoolEvent) : Bool :=
  match call.op with
  | .storeReport reported report =>
      decide (reported = devId) && decide (reportedStatus config report = .healthy)
  | _ => false

/-- Whether the local estimate would give the key usable budget. -/
def estimateRevives (config : Config) (devId : String) (estimated : Nat) (inner : KeyPoolInner) : Bool :=
  (inner.find devId).any fun key =>
    hasUsableBudget estimated (effectiveDailyLimit config (some key.dailyLimit)) config.reserve

/-- A probe of the key that brings no report finds the key spent, and no estimate
revives it. -/
def spares (config : Config) (devId : String) : PoolEvent → Bool
  | ⟨before, .usageProbeAvailable, available, _⟩ => available || spent config devId before.inner
  | ⟨before, .getDataUsed credential, reply, _⟩ =>
      decide (credential.devId ≠ devId) || spent config devId before.inner ||
        match reply with
        | .ok (some _) => true
        | _ => false
  | ⟨before, .storeEstimate revived estimated _, _, _⟩ =>
      decide (revived ≠ devId) || !estimateRevives config devId estimated before.inner
  | _ => true

/-- One call of the pool keeps a spent key spent, unless it stores a report. -/
theorem spent_innerAfter {config : Config} {devId : String} {before after : Pool} {op : PoolOp}
    {reply : op.Reply} (tends : op.tendsKeys) (spared : spares config devId ⟨before, op, reply, after⟩ = true)
    (old : spent config devId before.inner = true) :
    spent config devId (innerAfter config op before.inner) = true ∨
      reportsBudget config devId ⟨before, op, reply, after⟩ = true := by
  cases op with
  | takePending | restorePending | addCallsTotal | replaceKeys => exact tends.elim
  | selectSticky =>
      refine Or.inl ?_
      simp only [innerAfter, selectSticky]
      split
      · exact old
      · split
        · exact old
        · split
          · exact old
          · split
            · exact spent_modify_same (fun _ => rfl) (fun _ => rfl) old
            · exact old
  | selectAvailable =>
      refine Or.inl (spent_of_same_find ?_ old)
      simp only [innerAfter, selectAvailable]
      split <;> rfl
  | incrementUsage charged =>
      refine Or.inl ?_
      simp only [innerAfter, incrementUsage]
      refine spent_of_same_find (KeyPoolInner.clearActive_find _) ?_
      refine spent_modify (chargedKey_devId config) (fun _ key found => ?_) fun _ => old
      have empty := spent_iff.mp old key found
      cases left : (chargedKey config key).hasBudget config with
      | false => rfl
      | true => simp [(hasBudget_of_charged config key left).1] at empty
  | recordSuccess rated =>
      exact Or.inl (spent_modify_same succeededKey_devId (fun _ => rfl) old)
  | recordFailure rated =>
      refine Or.inl (spent_of_same_find (KeyPoolInner.clearActive_find _) ?_)
      exact spent_modify_same failedKey_devId (fun _ => rfl) old
  | beginRevival now =>
      refine Or.inl (spent_of_same_find ?_ old)
      simp only [innerAfter, beginRevival]
      split <;> rfl
  | storeReport reported report =>
      by_cases same : reported = devId
      · subst same
        by_cases healthy : reportedStatus config report = .healthy
        · exact Or.inr (by simp [reportsBudget, healthy])
        · exact Or.inl (spent_storeReport healthy)
      · refine Or.inl (spent_of_same_find (KeyPoolInner.clearActive_find _) ?_)
        exact spent_modify (reportedKey_devId config · report) (fun hit => absurd hit same) fun _ => old
  | storeEstimate revived estimated now =>
      refine Or.inl ?_
      simp only [innerAfter, storeEstimate]
      split
      · exact old
      · rename_i key found
        split
        · rename_i budget
          have other : revived ≠ devId := by
            rintro rfl
            simp [spares, estimateRevives, found, budget] at spared
          exact spent_modify (estimatedKey_devId config · estimated) (fun hit => absurd hit other) fun _ => old
        · exact old
  | _ => exact Or.inl old

/-! ### Invariants of the levels -/

/-- What the calls of a pool preserve: those that tend to keys always, the others
unless they are out of reach because the pool is initialized. -/
structure Invariant {Input : Type} (pool : Service Relay PoolOp PoolOp.Reply Input)
    (holds : Relay → Prop) : Prop where
  sessions : ∀ relay sessions, holds relay → holds { relay with sessions }
  tends : ∀ before op reply after, op.tendsKeys → holds before →
    pool.handler before op reply after → holds after
  loads : (∀ before reply after, holds before →
      pool.handler before .isInitialized reply after → reply = true) ∨
    ∀ before op reply after, holds before → pool.handler before op reply after → holds after

section Levels
variable {Input : Type} {config : Config} {client : Client}
  {pool : Service Relay PoolOp PoolOp.Reply Input} {holds : Relay → Prop} {before after : Relay}

theorem callPool_exec {α : Type} {inputs : List Input} {program : PoolProgram α} {result : α}
    (called : callPool pool before inputs program = some (result, after)) :
    ∃ events, Exec pool.handler before program events result after := by
  obtain ⟨⟨events, outcome⟩, fed, rfl⟩ := Option.map_eq_some_iff.mp called
  exact ⟨events, feed_exec fed⟩

-- On a pool that is known to be initialized `active_key` selects at once.
theorem activeKey_known {events : List (Event Relay PoolOp PoolOp.Reply)}
    {result : Except KeyPoolError ApiKeyStatus}
    (run : Exec pool.handler before (activeKey config) events result after)
    (known : ∀ reply middle, pool.handler before .isInitialized reply middle → reply = true) :
    ∃ middle rest, pool.handler before .isInitialized true middle ∧
      Exec pool.handler middle (selectOrRevive config) rest result after := by
  rw [activeKey_eq, ensureInitialized, Program.perform_bind, Program.call_bind, exec_call_iff] at run
  obtain ⟨reply, middle, rest, answered, run, -⟩ := run
  obtain rfl := known reply middle answered
  exact ⟨middle, rest, answered, by simpa using run⟩

theorem serveClient_keeps (invariant : Invariant pool holds) {op : ClientOp} {reply : op.Reply}
    (held : holds before) (answered : (serveClient config pool).handler before op reply after) :
    holds after := by
  obtain ⟨⟨outside, inputs⟩, served⟩ := answered
  have tended : ∀ {α : Type} {program : PoolProgram α} {result : α},
      Uses PoolOp.tendsKeys program → callPool pool before inputs program = some (result, after) →
      holds after := by
    intro α program result uses called
    obtain ⟨events, run⟩ := callPool_exec called
    exact exec_preserves holds invariant.tends uses run held
  cases op with
  | activeKey =>
      -- the one method that may load the pool
      obtain ⟨⟨result, last⟩, called, same⟩ := Option.map_eq_some_iff.mp served
      obtain ⟨-, rfl⟩ := Prod.mk.inj same
      obtain ⟨events, run⟩ := callPool_exec called
      rcases invariant.loads with known | all
      · obtain ⟨middle, rest, asked, run⟩ := activeKey_known run fun reply middle => known _ _ _ held
        have asking : PoolOp.isInitialized.tendsKeys := trivial
        exact exec_preserves holds invariant.tends (selectOrRevive_tends config) run
          (invariant.tends _ _ _ _ asking held asked)
      · exact exec_preserves holds (fun _ _ _ _ _ => all _ _ _ _) (uses_trivial _) run held
  | incrementUsage devId =>
      have uses : Uses PoolOp.tendsKeys
          (Program.perform (PoolOp.incrementUsage devId) : PoolProgram Unit) := ⟨trivial, fun _ => trivial⟩
      exact tended uses served
  | recordSuccess devId => exact tended (recordSuccessProgram_tends devId) served
  | recordFailure devId keyFault => exact tended (recordFailureProgram_tends devId keyFault) served
  | syncUsage devId => exact tended (syncUsageInternal_tends config devId) served
  | _ =>
      simp only [serveClient, Option.map_eq_some_iff, Prod.mk.injEq] at served
      obtain ⟨⟨given, sessions⟩, -, -, rfl⟩ := served
      exact invariant.sessions before sessions held

-- All calls but the probe are answered by the pool itself.
theorem probing_pool {op : PoolOp} {reply : op.Reply} (other : ∀ credential, op ≠ .getDataUsed credential)
    (answered : (serveProbing config client).handler before op reply after) :
    (servePool config).handler before op reply after := by
  obtain ⟨⟨outside, inputs⟩, served⟩ := answered
  cases op with
  | getDataUsed credential => exact absurd rfl (other credential)
  | _ => exact ⟨outside, served⟩

-- The probe does nothing that its own calls do not do.
theorem probe_keeps (invariant : Invariant (servePool config) holds)
    (notes : ∀ relay before op reply, holds relay → holds (relay.note before op reply))
    {credential : ApiCredential} {reply : Except KeyPoolError (Option AuthoritativeUsage)}
    (held : holds before)
    (answered : (serveProbing config client).handler before (.getDataUsed credential) reply after) :
    holds after := by
  obtain ⟨⟨outside, inputs⟩, served⟩ := answered
  obtain ⟨⟨events, given, last⟩, fed, same⟩ := Option.map_eq_some_iff.mp served
  obtain ⟨rfl, rfl⟩ := Prod.mk.inj same
  refine notes last _ _ _ ?_
  exact exec_preserves holds (fun _ _ _ _ _ held => serveClient_keeps invariant held)
    (uses_trivial _) (feed_exec fed) held

theorem probing_keeps (holds : Relay → Prop) (invariant : Invariant (servePool config) holds)
    (notes : ∀ relay before op reply, holds relay → holds (relay.note before op reply))
    (all : ∀ before op reply after, holds before → (servePool config).handler before op reply after →
      holds after)
    {op : PoolOp} {reply : op.Reply} (held : holds before)
    (answered : (serveProbing config client).handler before op reply after) : holds after := by
  cases op with
  | getDataUsed credential => exact probe_keeps invariant notes held answered
  | _ => exact all _ _ _ _ held (probing_pool (by simp) answered)

theorem serveProbing_invariant (invariant : Invariant (servePool config) holds)
    (notes : ∀ relay before op reply, holds relay → holds (relay.note before op reply)) :
    Invariant (serveProbing config client) holds := by
  refine ⟨invariant.sessions, fun before op reply after tends held answered => ?_, ?_⟩
  · cases op with
    | getDataUsed credential => exact probe_keeps invariant notes held answered
    | _ => exact invariant.tends _ _ _ _ tends held (probing_pool (by simp) answered)
  · refine invariant.loads.imp (fun known before reply after held answered => ?_)
      fun all before op reply after => probing_keeps holds invariant notes all
    exact known _ _ _ held (probing_pool (by simp) answered)

end Levels

/-! ### A window of calls -/

theorem distinct_innerAfter {config : Config} {inner : KeyPoolInner} (op : PoolOp)
    (distinct : (inner.keys.map (·.devId)).Nodup) :
    ((innerAfter config op inner).keys.map (·.devId)).Nodup := by
  have modified : ∀ devId change, (∀ key, (change key).devId = key.devId) →
      ((inner.modify devId change).keys.map (·.devId)).Nodup :=
    fun devId change keeps => (KeyedList.map_keyOf_update keeps devId inner.keys) ▸ distinct
  have erased : ∀ after : KeyPoolInner, after.erased = inner.erased →
      (after.keys.map (·.devId)).Nodup := by
    intro after same
    rw [← erased_devIds, same, erased_devIds]
    exact distinct
  cases op with
  | selectSticky =>
      simp only [innerAfter, selectSticky]
      split
      · exact distinct
      · split
        · exact distinct
        · split
          · exact distinct
          · split
            · exact modified _ _ fun _ => rfl
            · exact distinct
  | selectAvailable =>
      simp only [innerAfter, selectAvailable]
      split <;> exact distinct
  | incrementUsage devId =>
      simpa [innerAfter, incrementUsage] using modified devId _ (chargedKey_devId config)
  | takePending => exact erased _ (takePending_erased inner)
  | restorePending batches => exact erased _ (restorePending_erased batches inner)
  | addCallsTotal batches => exact erased _ (addCallsTotal_erased batches inner)
  | recordSuccess devId => exact modified devId _ succeededKey_devId
  | recordFailure devId => simpa [innerAfter, recordFailure] using modified devId _ failedKey_devId
  | beginRevival now =>
      simp only [innerAfter, beginRevival]
      split <;> exact distinct
  | storeReport devId report =>
      simpa [innerAfter, storeReport] using modified devId _ (reportedKey_devId config · report)
  | storeEstimate devId estimated now =>
      simp only [innerAfter, storeEstimate]
      split
      · exact distinct
      · split
        · exact modified devId _ (estimatedKey_devId config · estimated)
        · exact distinct
  | replaceKeys table pending => exact loadedKeys_distinct config table pending
  | _ => exact distinct

theorem serve_initialized {config : Config} {before after : Pool} {op : PoolOp} {reply : op.Reply}
    (answered : (serve config).handler before op reply after) (ready : before.initialized = true) :
    after.initialized = true := by
  obtain ⟨outside, served⟩ := answered
  cases op with
  | lock mutex =>
      simp only [serve] at served
      split at served
      · simp at served
      · cases served
        cases mutex <;> exact ready
  | unlock mutex =>
      cases served
      cases mutex <;> exact ready
  | bootstrapKeys | flushUsage | updateStatus | saveAuthoritativeUsage =>
      simp only [serve, Pool.write, Option.some.injEq] at served
      split at served <;> cases served <;> exact ready
  | setInitialized =>
      cases served
      rfl
  | _ =>
      simp only [serve, Option.some.injEq] at served
      cases served
      exact ready

theorem servePool_cases {config : Config} {before after : Relay} {op : PoolOp} {reply : op.Reply}
    (answered : (servePool config).handler before op reply after) :
    (serve config).handler before.pool op reply after.pool ∧
      after.calls = before.calls ++ [⟨before.pool, op, reply, after.pool⟩] := by
  obtain ⟨outside, served⟩ := answered
  simp only [servePool, Option.map_eq_some_iff, Prod.mk.injEq] at served
  obtain ⟨⟨given, pool⟩, served, rfl, rfl⟩ := served
  exact ⟨⟨outside, served⟩, rfl⟩

/-- The calls since `base` have spared the key, -/
def AllSpare (config : Config) (devId : String) (calls : List PoolEvent) : Prop :=
  ∀ call ∈ calls, spares config devId call = true

/-- or a report has given it budget. -/
def Reported (config : Config) (devId : String) (calls : List PoolEvent) : Prop :=
  ∃ call ∈ calls, reportsBudget config devId call = true

section Record
variable {config : Config} {devId : String} {left right : List PoolEvent}

@[simp] theorem allSpare_append :
    AllSpare config devId (left ++ right) ↔ AllSpare config devId left ∧ AllSpare config devId right :=
  List.forall_mem_append

@[simp] theorem reported_append :
    Reported config devId (left ++ right) ↔ Reported config devId left ∨ Reported config devId right := by
  simp only [Reported, List.mem_append, or_and_right, exists_or]

end Record

/-- An initialized pool; and, if `begun`, a key that is spent unless a call since
`base` has not spared it or has reported budget for it. -/
structure Kept (config : Config) (devId : String) (base : List PoolEvent) (begun : Prop)
    (relay : Relay) : Prop where
  initialized : relay.pool.initialized = true
  distinct : (relay.pool.inner.keys.map (·.devId)).Nodup
  window : ∃ calls, relay.calls = base ++ calls ∧ (begun → AllSpare config devId calls →
    spent config devId relay.pool.inner = true ∨ Reported config devId calls)

section Window
variable {config : Config} {client : Client} {devId : String} {base : List PoolEvent} {begun : Prop}

theorem kept_known {before after : Relay} {reply : Bool} (kept : Kept config devId base begun before)
    (answered : (servePool config).handler before .isInitialized reply after) : reply = true := by
  obtain ⟨⟨outside, served⟩, -⟩ := servePool_cases answered
  simp only [serve, Option.some.injEq, Prod.mk.injEq] at served
  rw [← served.1]
  exact kept.initialized

theorem kept_servePool : Invariant (servePool config) (Kept config devId base begun) := by
  refine ⟨fun relay sessions kept => ⟨kept.initialized, kept.distinct, kept.window⟩, ?_,
    Or.inl fun _ _ _ => kept_known⟩
  · intro before op reply after tends kept answered
    obtain ⟨served, recorded⟩ := servePool_cases answered
    obtain ⟨calls, since, condition⟩ := kept.window
    have inner := serve_inner served
    refine ⟨serve_initialized served kept.initialized, ?_, ?_⟩
    · rw [inner]
      exact distinct_innerAfter op kept.distinct
    refine ⟨calls ++ [⟨before.pool, op, reply, after.pool⟩], by simp [recorded, since], ?_⟩
    intro begins spared
    obtain ⟨earlier, last⟩ := allSpare_append.mp spared
    rw [reported_append, inner]
    rcases condition begins earlier with old | reported
    · rcases spent_innerAfter tends (last _ (List.mem_singleton.mpr rfl)) old with still | reports
      · exact Or.inl still
      · exact Or.inr (Or.inr ⟨_, List.mem_singleton.mpr rfl, reports⟩)
    · exact Or.inr (Or.inl reported)

theorem kept_note (relay : Relay) (before : Pool) (op : PoolOp) (reply : op.Reply)
    (kept : Kept config devId base begun relay) :
    Kept config devId base begun (relay.note before op reply) := by
  refine ⟨kept.initialized, kept.distinct, ?_⟩
  obtain ⟨calls, since, condition⟩ := kept.window
  refine ⟨calls ++ [⟨before, op, reply, relay.pool⟩], by simp [Relay.note, since], ?_⟩
  intro begins spared
  rw [reported_append]
  exact (condition begins (allSpare_append.mp spared).1).imp id Or.inl

theorem kept_probing : Invariant (serveProbing config client) (Kept config devId base begun) :=
  serveProbing_invariant kept_servePool kept_note

/-- What was selected is not the spent key. -/
def Picked (config : Config) (devId : String) (base : List PoolEvent) (begun : Prop)
    (picked : String) (relay : Relay) : Prop :=
  ∃ calls, relay.calls = base ++ calls ∧ (begun → AllSpare config devId calls →
    picked = devId → Reported config devId calls)

theorem picked_grows {picked : String} {before after : Relay} {more : List PoolEvent}
    (grown : after.calls = before.calls ++ more) (old : Picked config devId base begun picked before) :
    Picked config devId base begun picked after := by
  obtain ⟨calls, since, condition⟩ := old
  refine ⟨calls ++ more, by simp [grown, since], fun begins spared same => ?_⟩
  exact reported_append.mpr (Or.inl (condition begins (allSpare_append.mp spared).1 same))

theorem picked_selected {before after : Relay} {op : PoolOp} {reply : op.Reply} {key : ApiKeyStatus}
    (answered : (serveProbing config client).handler before op reply after)
    (selected : selectedBy op reply = some key) (kept : Kept config devId base begun after) :
    Picked config devId base begun key.devId after := by
  have served : (serve config).handler before.pool op reply after.pool := by
    obtain ⟨⟨outside, inputs⟩, served⟩ := answered
    cases op with
    | selectSticky | selectAvailable => exact (servePool_cases ⟨outside, served⟩).1
    | _ => simp [selectedBy] at selected
  obtain ⟨chosen, member, rfl, usable⟩ := selected_usable served selected
  obtain ⟨calls, since, condition⟩ := kept.window
  refine ⟨calls, since, fun begins spared same => ?_⟩
  rcases condition begins spared with empty | reported
  · have found := after.pool.inner.find_of_mem kept.distinct member
    have same : chosen.devId = devId := same
    rw [same] at found
    simp [spent_iff.mp empty chosen found, usable_iff] at usable
  · exact reported

theorem probing_grows {before after : Relay} {op : PoolOp} {reply : op.Reply} (tends : op.tendsKeys)
    (kept : Kept config devId base begun before)
    (answered : (serveProbing config client).handler before op reply after) :
    ∃ more, after.calls = before.calls ++ more := by
  have here : Kept config devId before.calls False before :=
    ⟨kept.initialized, kept.distinct, [], by simp, False.elim⟩
  obtain ⟨more, grown, _⟩ := (kept_probing.tends _ _ _ _ tends here answered).window
  exact ⟨more, grown⟩

theorem activeKey_picks {before after : Relay} {credential : ApiCredential}
    (kept : Kept config devId base begun before)
    (answered : (serveRelay config client).handler before .activeKey (.ok credential) after) :
    Picked config devId base begun credential.devId after := by
  obtain ⟨⟨outside, inputs⟩, served⟩ := answered
  obtain ⟨⟨result, last⟩, called, same⟩ := Option.map_eq_some_iff.mp served
  obtain ⟨returned, rfl⟩ := Prod.mk.inj same
  obtain ⟨events, run⟩ := callPool_exec called
  have known : ∀ reply middle, (serveProbing config client).handler before .isInitialized reply middle →
      reply = true := by
    rintro reply middle ⟨⟨outside, inputs⟩, served⟩
    exact kept_known kept ⟨outside, served⟩
  obtain ⟨middle, rest, asked, run⟩ := activeKey_known run known
  have asking : PoolOp.isInitialized.tendsKeys := trivial
  -- the phase is the last key selected
  obtain ⟨chosen, ⟨-, picked⟩, returns⟩ := exec_phases (fun chosen relay =>
      Kept config devId base begun relay ∧
        ∀ key, chosen = some key → Picked config devId base begun key.devId relay)
    (by
      rintro chosen next before op reply after tends ⟨kept, picked⟩ allowed answered
      have keeps := kept_probing.tends _ _ _ _ tends kept answered
      obtain rfl : _ = next := Option.some.inj allowed
      refine ⟨keeps, fun key isNext => ?_⟩
      cases selected : selectedBy op reply with
      | some other =>
          obtain rfl : other = key := by simpa [selected] using isNext
          exact picked_selected answered selected keeps
      | none =>
          obtain ⟨more, grown⟩ := probing_grows tends kept answered
          exact picked_grows grown (picked key (by simpa [selected] using isNext)))
    (selectOrRevive_returnsLast config none) (selectOrRevive_tends config) run
    ⟨kept_probing.tends _ _ _ _ asking kept asked, nofun⟩
  rcases result with error | key
  · cases returned
  · cases returned
    exact picked key (returns key rfl)

theorem kept_of_spent {relay : Relay} (kept : Kept config devId base False relay)
    (empty : spent config devId relay.pool.inner = true) : Kept config devId base True relay := by
  obtain ⟨calls, since, -⟩ := kept.window
  exact ⟨kept.initialized, kept.distinct, calls, since, fun _ _ => Or.inl empty⟩

/-- A probe stands in the record, after the calls it has made. -/
theorem probe_recorded {before after : Relay} {credential : ApiCredential}
    {reply : Except KeyPoolError (Option AuthoritativeUsage)}
    (kept : Kept config devId base begun before)
    (answered : (serveProbing config client).handler before (.getDataUsed credential) reply after) :
    ∃ calls, after.calls = base ++ calls ∧ ⟨before.pool, .getDataUsed credential, reply, after.pool⟩ ∈ calls ∧
      (begun → AllSpare config devId calls →
        spent config devId after.pool.inner = true ∨ Reported config devId calls) := by
  obtain ⟨⟨outside, inputs⟩, served⟩ := answered
  obtain ⟨⟨events, given, last⟩, fed, same⟩ := Option.map_eq_some_iff.mp served
  obtain ⟨rfl, rfl⟩ := Prod.mk.inj same
  have probed : Kept config devId base begun last :=
    exec_preserves (Kept config devId base begun)
      (fun _ _ _ _ _ held => serveClient_keeps kept_servePool held) (uses_trivial _) (feed_exec fed) kept
  obtain ⟨calls, since, condition⟩ := probed.window
  refine ⟨calls ++ [⟨before.pool, .getDataUsed credential, given, last.pool⟩],
    by simp [Relay.note, since], List.mem_append_right _ (List.mem_singleton.mpr rfl), ?_⟩
  intro begins spared
  exact (condition begins (allSpare_append.mp spared).1).imp id fun reported =>
    reported_append.mpr (Or.inl reported)

-- A probe that brings no report leaves the key spent, if it was.
theorem kept_unreported {before after : Relay} {credential : ApiCredential}
    {reply : Except KeyPoolError (Option AuthoritativeUsage)} (own : credential.devId = devId)
    (unreported : ∀ report, reply ≠ .ok (some report)) (kept : Kept config devId base False before)
    (answered : (serveProbing config client).handler before (.getDataUsed credential) reply after) :
    Kept config devId base True after := by
  have probing : (PoolOp.getDataUsed credential).tendsKeys := trivial
  have keeps := kept_probing.tends _ _ _ _ probing kept answered
  obtain ⟨calls, since, -⟩ := kept.window
  -- the condition is on the state before the probe; the calls of the probe itself
  -- keep a spent key spent
  have here : Kept config devId before.calls (spent config devId before.pool.inner = true) before :=
    ⟨kept.initialized, kept.distinct, [], by simp, fun empty _ => Or.inl empty⟩
  obtain ⟨more, grown, recorded, condition⟩ := probe_recorded here answered
  refine ⟨keeps.initialized, keeps.distinct, calls ++ more, by simp [grown, since], fun _ spared => ?_⟩
  have last := (allSpare_append.mp spared).2
  have empty : spent config devId before.pool.inner = true := by
    have spares := last _ recorded
    rcases reply with error | _ | report
    · simpa [Hirez.spares, own] using spares
    · simpa [Hirez.spares, own] using spares
    · exact absurd rfl (unreported report)
  exact (condition empty last).imp id fun reported => reported_append.mpr (Or.inr reported)

theorem kept_unavailable {before after : Relay} (kept : Kept config devId base False before)
    (answered : (serveProbing config client).handler before .usageProbeAvailable false after) :
    Kept config devId base True after := by
  have asking : PoolOp.usageProbeAvailable.tendsKeys := trivial
  have keeps := kept_probing.tends _ _ _ _ asking kept answered
  obtain ⟨calls, since, -⟩ := kept.window
  obtain ⟨served, recorded⟩ := servePool_cases (probing_pool (by simp) answered)
  refine ⟨keeps.initialized, keeps.distinct, _, by rw [recorded, since, List.append_assoc],
    fun _ spared => Or.inl ?_⟩
  have spares := (allSpare_append.mp spared).2 _ (List.mem_singleton.mpr rfl)
  rw [serve_inner served]
  simpa [Hirez.spares, innerAfter] using spares

-- A report is stored: without budget it spends the key, with budget it is recorded.
theorem kept_stored {before after : Relay} {report : AuthoritativeUsage}
    (kept : Kept config devId base False before)
    (answered : (serveProbing config client).handler before (.storeReport devId report) () after) :
    Kept config devId base True after := by
  have storing : (PoolOp.storeReport devId report).tendsKeys := trivial
  have keeps := kept_probing.tends _ _ _ _ storing kept answered
  obtain ⟨calls, since, -⟩ := kept.window
  obtain ⟨served, recorded⟩ := servePool_cases (probing_pool (by simp) answered)
  refine ⟨keeps.initialized, keeps.distinct, _, by rw [recorded, since, List.append_assoc], fun _ _ => ?_⟩
  by_cases healthy : reportedStatus config report = .healthy
  · exact Or.inr (reported_append.mpr (Or.inr ⟨_, List.mem_singleton.mpr rfl, by
      simp [reportsBudget, healthy]⟩))
  · refine Or.inl ?_
    rw [serve_inner served]
    exact spent_storeReport healthy

/-- A sync of the key leaves it spent, or a report with budget in the record. -/
theorem syncUsage_spends {before after : Relay} (kept : Kept config devId base False before)
    (answered : (serveRelay config client).handler before (.syncUsage devId) () after) :
    Kept config devId base True after := by
  obtain ⟨⟨outside, inputs⟩, served⟩ := answered
  obtain ⟨events, run⟩ := callPool_exec served
  have rest : ∀ {program : PoolProgram Unit} {middle : Relay} {events : _},
      Exec (serveProbing config client).handler middle program events () after →
      Uses PoolOp.tendsKeys program → Kept config devId base True middle →
      Kept config devId base True after :=
    fun run uses kept => exec_preserves _ kept_probing.tends uses run kept
  have uses := syncUsageInternal_tends config devId
  simp only [syncUsageInternal, Program.perform_bind] at uses
  simp only [syncUsage, syncUsageInternal, Program.perform_bind, exec_call_iff] at run
  obtain ⟨credential, first, _, asked, run, -⟩ := run
  have asking : (PoolOp.monitoringCredential devId).tendsKeys := trivial
  have keptFirst := kept_probing.tends _ _ _ _ asking kept asked
  obtain ⟨found, unchanged⟩ : credential = monitoringCredential devId before.pool.inner ∧
      first.pool = before.pool := by
    obtain ⟨⟨outside, served⟩, -⟩ := servePool_cases (probing_pool (by simp) asked)
    simp only [serve, Option.some.injEq, Prod.mk.injEq] at served
    exact ⟨served.1.symm, served.2.symm⟩
  have usesFirst := uses.2 credential
  rcases credential with _ | credential
  · refine rest run usesFirst (kept_of_spent keptFirst ?_)
    have missing : before.pool.inner.find devId = none := by simpa [monitoringCredential] using found.symm
    simp [spent, unchanged, missing]
  have own : credential.devId = devId := by
    obtain ⟨key, isKey, rfl⟩ := Option.map_eq_some_iff.mp found.symm
    exact (before.pool.inner.find_mem isKey).2
  simp only [exec_call_iff] at run
  obtain ⟨available, second, _, probed, run, -⟩ := run
  have probing : PoolOp.usageProbeAvailable.tendsKeys := trivial
  have keptSecond := kept_probing.tends _ _ _ _ probing keptFirst probed
  have usesSecond := usesFirst.2 available
  cases available with
  | false => exact rest run usesSecond (kept_unavailable keptFirst probed)
  | true =>
      simp only [Bool.not_true, Bool.false_eq_true, ↓reduceIte] at usesSecond
      simp only [Bool.not_true, Bool.false_eq_true, ↓reduceIte, exec_call_iff] at run
      obtain ⟨reply, third, _, answered, run, -⟩ := run
      have usesThird := usesSecond.2 reply
      rcases reply with error | _ | report
      · exact rest run usesThird (kept_unreported own (by simp) keptSecond answered)
      · exact rest run usesThird (kept_unreported own (by simp) keptSecond answered)
      · rw [exec_call_iff] at run
        obtain ⟨_, fourth, _, stored, run, -⟩ := run
        have getting : (PoolOp.getDataUsed credential).tendsKeys := trivial
        have keptThird := kept_probing.tends _ _ _ _ getting keptSecond answered
        exact rest run (usesThird.2 ()) (kept_stored keptThird stored)

end Window

/-! ### Before the refusal -/

section Ready
variable {config : Config} {client : Client}

theorem distinct_probing : Invariant (serveProbing config client)
    fun relay => (relay.pool.inner.keys.map (·.devId)).Nodup := by
  have served : ∀ before op reply after, (before.pool.inner.keys.map (·.devId)).Nodup →
      (servePool config).handler before op reply after → (after.pool.inner.keys.map (·.devId)).Nodup := by
    intro before op reply after distinct answered
    rw [serve_inner (servePool_cases answered).1]
    exact distinct_innerAfter op distinct
  exact serveProbing_invariant ⟨fun _ _ distinct => distinct,
    fun _ _ _ _ _ => served _ _ _ _, Or.inr served⟩ fun _ _ _ _ distinct => distinct

theorem initialized_probing {before after : Relay} {op : PoolOp} {reply : op.Reply}
    (ready : before.pool.initialized = true)
    (answered : (serveProbing config client).handler before op reply after) :
    after.pool.initialized = true := by
  have served : ∀ before op reply after, before.pool.initialized = true →
      (servePool config).handler before op reply after → after.pool.initialized = true :=
    fun _ _ _ _ ready answered => serve_initialized (servePool_cases answered).1 ready
  exact probing_keeps (fun relay => relay.pool.initialized = true)
    ⟨fun _ _ ready => ready, fun _ _ _ _ _ => served _ _ _ _, Or.inr served⟩ (fun _ _ _ _ ready => ready)
    served ready answered

theorem initialized_invariant : Invariant (serveProbing config client)
    fun relay => relay.pool.initialized = true :=
  ⟨fun _ _ ready => ready, fun _ _ _ _ _ => initialized_probing,
    Or.inr fun _ _ _ _ => initialized_probing⟩

/-- Whether a program knows the pool to be initialized: it asked, or it did it. -/
def knownNext : Bool → (op : PoolOp) → op.Reply → Option Bool
  | true, _, _ => some true
  | false, .isInitialized, reply => some reply
  | false, .setInitialized, _ => some true
  | false, _, _ => some false

theorem knownNext_total (known : Bool) (op : PoolOp) (reply : op.Reply) :
    ∃ after, knownNext known op reply = some after := by
  cases known <;> cases op <;> exact ⟨_, rfl⟩

theorem initializeLocked_knows (keyFile : KeyFile) : Follows knownNext
    (fun known result => result = .ok () → known = true) false (initializeLocked keyFile) := by
  simp only [initializeLocked, Program.perform_bind]
  intro schema
  refine ⟨false, rfl, ?_⟩
  rcases schema with error | _
  · exact nofun
  intro passed
  refine ⟨false, rfl, ?_⟩
  cases passed with
  | false => exact nofun
  | true =>
      refine follows_bind.mpr (follows_mono ?_ (follows_of_total knownNext_total false _))
      rintro known (error | _) -
      · exact nofun
      refine follows_bind.mpr (follows_mono ?_ (follows_of_total knownNext_total known _))
      rintro known (error | _) -
      · exact nofun
      · exact fun _ => ⟨true, by cases known <;> rfl, fun _ => rfl⟩

theorem ensureInitialized_knows : Follows knownNext
    (fun known result => result = .ok () → known = true) false ensureInitialized := by
  simp only [ensureInitialized, Program.perform_bind]
  intro initialized
  refine ⟨initialized, rfl, ?_⟩
  cases initialized with
  | true => exact fun _ => rfl
  | false =>
      simp only [Bool.false_eq_true, ↓reduceIte, initializePool, Program.perform_bind]
      refine fun _ => ⟨false, rfl, follows_bind.mpr (follows_mono ?_ (initializeLocked_knows none))⟩
      intro known result knows _
      exact ⟨known, by cases known <;> rfl, knows⟩

theorem activeKey_knows : Follows knownNext
    (fun known result => ∀ key, result = .ok key → known = true) false (activeKey config) := by
  rw [activeKey_eq]
  refine follows_bind.mpr (follows_mono ?_ ensureInitialized_knows)
  rintro known (error | _) knows
  · exact nofun
  · obtain rfl := knows rfl
    exact follows_mono (fun _ _ same _ _ => same) (follows_of_uses (fun _ _ _ => rfl) (uses_trivial _))

theorem activeKey_initializes {before after : Relay} {credential : ApiCredential}
    (answered : (serveRelay config client).handler before .activeKey (.ok credential) after) :
    after.pool.initialized = true := by
  obtain ⟨⟨outside, inputs⟩, served⟩ := answered
  obtain ⟨⟨result, last⟩, called, same⟩ := Option.map_eq_some_iff.mp served
  obtain ⟨returned, rfl⟩ := Prod.mk.inj same
  obtain ⟨events, run⟩ := callPool_exec called
  obtain ⟨known, holds, knows⟩ := exec_phases
    (fun known relay => known = true → relay.pool.initialized = true)
    (by
      rintro known next before op reply after - ready allowed answered rfl
      cases known with
      | true => exact initialized_probing (ready rfl) answered
      | false =>
          cases op with
          | isInitialized =>
              obtain ⟨⟨outside, served⟩, -⟩ := servePool_cases (probing_pool (by simp) answered)
              obtain rfl := Option.some.inj allowed
              simp only [serve, Option.some.injEq, Prod.mk.injEq] at served
              rw [← served.2]
              exact served.1
          | setInitialized =>
              obtain ⟨⟨outside, served⟩, -⟩ := servePool_cases (probing_pool (by simp) answered)
              simp only [serve, Option.some.injEq, Prod.mk.injEq] at served
              rw [← served.2]
          | _ => cases allowed)
    activeKey_knows (uses_trivial _) run nofun
  rcases result with error | key
  · cases returned
  · exact holds (knows key rfl)

end Ready

/-! ### From the refusal to the next attempt -/

/-- The key of a call that the vendor refused for the daily limit of that key. -/
def refusedKey (client : Client) (op : ClientOp) (reply : op.Reply) : Option String :=
  (answeredMessage client op reply).bind fun (url, retMsg) =>
    if retAction retMsg = .quota then some url.devId else none

abbrev RelayEvent := Event Relay ClientOp ClientOp.Reply

/-- The calls of the pool after the first of two events of a request, until the
second is through. -/
def callsBetween (first second : RelayEvent) : List PoolEvent :=
  second.after.calls.drop first.after.calls.length

section Requests
variable {config : Config} {client : Client}

/-- Once a key was obtained, the pool is initialized. -/
structure Sound (phase : RequestPhase) (relay : Relay) : Prop where
  distinct : (relay.pool.inner.keys.map (·.devId)).Nodup
  initialized : phase ≠ .fresh → relay.pool.initialized = true

theorem sound_moves {phase next : RequestPhase} {before after : Relay} {op : ClientOp} {reply : op.Reply}
    (sound : Sound phase before) (allowed : courseNext client phase op reply = some next)
    (answered : (serveRelay config client).handler before op reply after) : Sound next after := by
  refine ⟨serveClient_keeps distinct_probing sound.distinct answered, fun obtained => ?_⟩
  by_cases fresh : phase = .fresh
  · subst fresh
    obtain ⟨devId, attempted⟩ := (courseNext_fresh allowed).resolve_left obtained
    cases op with
    | activeKey =>
        rcases reply with error | credential
        · cases attempted
        · exact activeKey_initializes answered
    | _ => cases attempted
  · exact serveClient_keeps initialized_invariant (sound.initialized fresh) answered

/-- The key is not spent yet, but synced before anything else; or no attempt
follows; or the key is spent unless it was reported. -/
def Rests (config : Config) (base : List PoolEvent) (url : Url) (retMsg : String) (phase : RequestPhase)
    (relay : Relay) : Prop :=
  (phase = .answered url retMsg ∧ Kept config url.devId base False relay) ∨ phase = .ended ∨
    Kept config url.devId base True relay

theorem rests_moves {base : List PoolEvent} {url : Url} {retMsg : String} {phase next : RequestPhase}
    {before after : Relay} {op : ClientOp} {reply : op.Reply} (quota : retAction retMsg = .quota)
    (rests : Rests config base url retMsg phase before)
    (allowed : courseNext client phase op reply = some next)
    (answered : (serveRelay config client).handler before op reply after) :
    Rests config base url retMsg next after := by
  rcases rests with ⟨rfl, kept⟩ | rfl | kept
  · cases op with
    | logEndpoint devId endpoint responseTimeMs consumer =>
        cases allowed
        exact Or.inl ⟨rfl, serveClient_keeps kept_probing kept answered⟩
    | syncUsage devId =>
        rw [courseNext_sync, Option.ite_none_right_eq_some] at allowed
        obtain ⟨⟨-, rfl⟩, -⟩ := allowed
        exact Or.inr (Or.inr (syncUsage_spends kept answered))
    | recordSuccess | recordFailure =>
        cases allowed
        exact Or.inr (Or.inl rfl)
    | invalidateSession | sleepBeforeRetry => simp [courseNext_invalidate, courseNext_sleep, quota] at allowed
    | _ => cases allowed
  · cases allowed
  · exact Or.inr (Or.inr (serveClient_keeps kept_probing kept answered))

/-- In every run of a request over a pool of distinct keys, after the vendor has
refused a key for its daily limit: if each probe of that key that brings no report
finds it without usable budget, and no local estimate revives it, then the request
is made with that key again only after a report with usable budget for it. -/
theorem refused_key_rests_until_reported {request : Request} {start final : Relay}
    {events : List RelayEvent} {result : Except UpstreamError Value}
    (run : Exec (serveRelay config client).handler start (apiRequest client request) events result final)
    (distinct : (start.pool.inner.keys.map (·.devId)).Nodup)
    {earlier between later : List RelayEvent} {refusal attempt : RelayEvent}
    (split : events = earlier ++ refusal :: (between ++ attempt :: later)) {devId : String}
    (refused : refusedKey client refusal.op refusal.reply = some devId)
    (again : attemptedKey attempt.op attempt.reply = some devId)
    (spared : AllSpare config devId (callsBetween refusal attempt)) :
    Reported config devId (callsBetween refusal attempt) := by
  have begins : Sound .fresh start := ⟨distinct, fun obtained => absurd rfl obtained⟩
  obtain ⟨here, there, rest, sound, allowed, answered, follows, run⟩ := exec_split
    (apiRequest_course client request) run Sound (fun _ _ _ _ _ _ => sound_moves) begins split
  obtain ⟨⟨url, retMsg⟩, message, keyed⟩ := Option.bind_eq_some_iff.mp refused
  obtain ⟨quota, same⟩ := Option.ite_none_right_eq_some.mp keyed
  obtain rfl : url.devId = devId := Option.some.inj same
  obtain ⟨-, rfl⟩ := courseNext_answered allowed message
  -- from here on: the log entry and the sync, then the next attempt
  have ready := sound_moves sound allowed answered
  have kept : Kept config url.devId refusal.after.calls False refusal.after :=
    ⟨ready.initialized nofun, ready.distinct, [], by simp, False.elim⟩
  obtain ⟨phase, next, _, rests, allowed, answered, -, -⟩ := exec_split follows run
    (Rests config refusal.after.calls url retMsg) (fun _ _ _ _ _ _ => rests_moves quota)
    (Or.inl ⟨rfl, kept⟩) rfl
  obtain ⟨before, op, reply, after⟩ := attempt
  cases op with
  | activeKey =>
      rcases reply with error | credential
      · cases again
      · have kept : Kept config url.devId refusal.after.calls True before := by
          rcases rests with ⟨rfl, -⟩ | rfl | kept
          · cases allowed
          · cases allowed
          · exact kept
        obtain ⟨calls, since, condition⟩ := activeKey_picks kept answered
        have between : callsBetween refusal ⟨before, .activeKey, .ok credential, after⟩ = calls := by
          dsimp only at since
          rw [callsBetween, since, List.drop_left]
        rw [between] at spared ⊢
        exact condition trivial spared (Option.some.inj again)
  | _ => cases again

end Requests

/-! ### A refusal without a report -/

-- A test of the refusal and the attempt at the given places of a trace.
def testPair (first second : Nat) (test : RelayEvent → RelayEvent → Bool) (events : List RelayEvent) :
    Bool :=
  match events.drop first with
  | refusal :: rest =>
      match rest.drop second with
      | attempt :: _ => test refusal attempt
      | [] => false
  | [] => false

theorem testPair_split {first second : Nat} {test : RelayEvent → RelayEvent → Bool}
    {events : List RelayEvent} (passed : testPair first second test events = true) :
    ∃ earlier refusal between attempt later,
      events = earlier ++ refusal :: (between ++ attempt :: later) ∧ test refusal attempt = true := by
  unfold testPair at passed
  split at passed
  · rename_i refusal rest here
    split at passed
    · rename_i attempt later there
      refine ⟨events.take first, refusal, rest.take second, attempt, later, ?_, passed⟩
      rw [← there, List.take_append_drop, ← here, List.take_append_drop]
    · cases passed
  · cases passed

def quotaBody : String := "[\x7b\"ret_msg\":\"Daily request limit reached.\"\x7d]"

def usageBody : String := "[\x7b\"Total_Requests_Today\":0,\"Request_Limit_Daily\":7500\x7d]"

def quotaClient : Client :=
  { sessionClient with
    parseJson := fun body =>
      if body = quotaBody then
        .ok (.array [.object [("ret_msg", .string "Daily request limit reached.")]])
      else if body = usageBody then
        .ok (.array [.object [("Total_Requests_Today", .integer 0), ("Request_Limit_Daily", .integer 7500)]])
      else .error "expected value at line 1 column 1" }

def oneKeyRelay : Relay :=
  ⟨⟨.fresh [testKey "1000" 10 false], true, false, false, emptyTable, []⟩, cachedOne, []⟩

def twoAttempts : Request := ⟨"getmatchdetailsbatch", ["128000001"], { maxRetries := some 1 }, "test"⟩

abbrev ProbeInput := Surroundings × List Outside
abbrev RelayInput := Surroundings × List (Outside × List ProbeInput)

def plainCalls (count : Nat) : List (Outside × List ProbeInput) := List.replicate count ({}, [])

def callingPool (calls : List (Outside × List ProbeInput)) : RelayInput := ({}, calls)

-- An attempt: the key after so many calls, its session and the charge; then the answer.
def attemptInputs (selection : Nat) (answer : Surroundings) : List RelayInput :=
  [callingPool (plainCalls selection), callingPool [], callingPool [], callingPool [],
    callingPool (plainCalls 1), (answer, []), callingPool []]

-- Refused, then a sync with the given calls of the pool; the second attempt times out.
def refusalInputs (sync : List (Outside × List ProbeInput)) : List RelayInput :=
  attemptInputs 3 (answeredWith quotaBody) ++ [callingPool sync] ++ attemptInputs 2 {} ++ [callingPool []]

-- The probe is gone.
def unavailableSync : List (Outside × List ProbeInput) :=
  [({}, []), ({ flag := false }, []), ({}, [])]

theorem unreported_refusal_keeps_the_key :
    ∃ events result final,
      Exec (serveRelay testConfig quotaClient).handler oneKeyRelay (apiRequest quotaClient twoAttempts)
        events result final ∧
      ∃ earlier refusal between attempt later,
        events = earlier ++ refusal :: (between ++ attempt :: later) ∧
        refusedKey quotaClient refusal.op refusal.reply = some "1000" ∧
        attemptedKey attempt.op attempt.reply = some "1000" ∧
        ¬ Reported testConfig "1000" (callsBetween refusal attempt) := by
  have passed : (feed (serveRelay testConfig quotaClient) (refusalInputs unavailableSync) oneKeyRelay
      (apiRequest quotaClient twoAttempts)).any (fun outcome => testPair 5 2 (fun refusal attempt =>
        decide (refusedKey quotaClient refusal.op refusal.reply = some "1000" ∧
          attemptedKey attempt.op attempt.reply = some "1000" ∧
          ∀ call ∈ callsBetween refusal attempt, reportsBudget testConfig "1000" call = false))
        outcome.1) = true := by
    decide +kernel
  obtain ⟨events, result, final, run, tested⟩ := feed_reaches passed
  obtain ⟨earlier, refusal, between, attempt, later, split, tested⟩ := testPair_split tested
  obtain ⟨refused, again, silent⟩ := of_decide_eq_true tested
  refine ⟨events, result, final, run, earlier, refusal, between, attempt, later, split, refused, again, ?_⟩
  rintro ⟨call, member, reports⟩
  simp [silent call member] at reports

-- The probe answers with a report: nothing used yet.
def reportingSync : List (Outside × List ProbeInput) :=
  [({}, []), ({}, []),
    ({}, [({}, []), ({}, []), ({}, []), ({}, [{}]), (answeredWith usageBody, []), ({}, []), ({}, [{}])]),
    ({}, []), ({}, [])]

theorem refused_key_reported_and_tried_again :
    ∃ events result final,
      Exec (serveRelay testConfig quotaClient).handler oneKeyRelay (apiRequest quotaClient twoAttempts)
        events result final ∧
      ∃ earlier refusal between attempt later,
        events = earlier ++ refusal :: (between ++ attempt :: later) ∧
        refusedKey quotaClient refusal.op refusal.reply = some "1000" ∧
        attemptedKey attempt.op attempt.reply = some "1000" ∧
        Reported testConfig "1000" (callsBetween refusal attempt) := by
  have passed : (feed (serveRelay testConfig quotaClient) (refusalInputs reportingSync) oneKeyRelay
      (apiRequest quotaClient twoAttempts)).any (fun outcome => testPair 5 2 (fun refusal attempt =>
        decide (refusedKey quotaClient refusal.op refusal.reply = some "1000" ∧
          attemptedKey attempt.op attempt.reply = some "1000" ∧
          ∀ call ∈ callsBetween refusal attempt, spares testConfig "1000" call = true))
        outcome.1) = true := by
    decide +kernel
  obtain ⟨events, result, final, run, tested⟩ := feed_reaches passed
  obtain ⟨earlier, refusal, between, attempt, later, split, tested⟩ := testPair_split tested
  obtain ⟨refused, again, spared⟩ := of_decide_eq_true tested
  have distinct : (oneKeyRelay.pool.inner.keys.map (·.devId)).Nodup := by decide
  exact ⟨events, result, final, run, earlier, refusal, between, attempt, later, split, refused, again,
    refused_key_rests_until_reported run distinct split refused again spared⟩

end PaladinsCat.Hirez
