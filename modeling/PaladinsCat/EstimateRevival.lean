import PaladinsCat.Revival

/-!
Revivals of a key from the local estimate (`try_estimate_revival`, key_pool.rs). A sync reads
the clock and checks the cooldown of the key, then waits for the estimate, and only then
overwrites the key. Between the check and the overwriting stands a window, in which other syncs
may revive the same key or store a report of the vendor for it.
-/

namespace PaladinsCat.KeyPool

open Interleaving Program

/-! ### Windows -/

/-- The clock reading of a check of the key that a call has passed. -/
def eligibleCheck (devId : String) : (op : PoolOp) → op.Reply → Option Int
  | .revivalEligible checked now, true => if checked = devId then some now else none
  | _, _ => none

/-- The clock reading of a revival of the key: an estimate that was stored, and not turned down for the lack
of budget. -/
def revivalOf (devId : String) : (op : PoolOp) → op.Reply → Option Int
  | .storeEstimate stored _ now, some _ => if stored = devId then some now else none
  | _, _ => none

/-- A report of the vendor for the key that leaves no usable budget. -/
def reportsLimited (config : Config) (devId : String) : PoolOp → Bool
  | .storeReport reported report =>
      decide (reported = devId) && decide (reportedStatus config report ≠ .healthy)
  | _ => false

/-- The window opens with a check that is passed; it closes with the estimate, be it stored or not. -/
def windowAfter (devId : String) (window : Option Int) : (op : PoolOp) → op.Reply → Option Int
  | .revivalEligible checked now, eligible =>
      if checked = devId then eligibleCheck devId (.revivalEligible checked now) eligible else window
  | .localUsageEstimate asked, estimated =>
      if asked = devId ∧ (estimated : Except KeyPoolError Nat).isOk = false then none else window
  | .storeEstimate stored _ _, _ => if stored = devId then none else window
  | _, _ => window

/-- The window that a call has open, by the turns that it has taken. -/
def windowOf (devId : String) (history : List PoolTurn) (task : Nat) : Option Int :=
  history.foldl (fun window turn =>
    if turn.task = task then windowAfter devId window turn.op turn.reply else window) none

def revivals (devId : String) (history : List PoolTurn) : List Int :=
  history.filterMap fun turn => revivalOf devId turn.op turn.reply

/-- While a call has a window open, no other call revives the key or stores a report without budget for it. -/
def Undisturbed (config : Config) (devId : String) (earlier : List PoolTurn) (turn : PoolTurn) : Prop :=
  (revivalOf devId turn.op turn.reply).isSome = true ∨ reportsLimited config devId turn.op = true →
    ∀ other ∈ earlier, other.task ≠ turn.task → windowOf devId earlier other.task = none

/-- The last check of the key by a call was passed at that clock reading, and no report without budget was
stored since. -/
def CheckedSince (config : Config) (devId : String) (history : List PoolTurn) (task : Nat) (now : Int) : Prop :=
  ∃ front check between, history = front ++ check :: between ∧ check.task = task ∧
    eligibleCheck devId check.op check.reply = some now ∧
      ∀ later ∈ between, (later.task = task → eligibleCheck devId later.op later.reply = none) ∧
        reportsLimited config devId later.op = false

/-- A revival overwrites no report without budget that was stored after its own check. -/
def Authorised (config : Config) (devId : String) (earlier : List PoolTurn) (turn : PoolTurn) : Prop :=
  ∀ now, revivalOf devId turn.op turn.reply = some now → CheckedSince config devId earlier turn.task now

instance (config : Config) (devId : String) (earlier : List PoolTurn) (turn : PoolTurn) :
    Decidable (Undisturbed config devId earlier turn) := by
  unfold Undisturbed
  infer_instance

theorem windowOf_append (devId : String) (history : List PoolTurn) (turn : PoolTurn) (task : Nat) :
    windowOf devId (history ++ [turn]) task =
      if turn.task = task then windowAfter devId (windowOf devId history task) turn.op turn.reply
      else windowOf devId history task := by
  simp [windowOf]

theorem windowOf_unseen {devId : String} {history : List PoolTurn} {task : Nat}
    (unseen : ∀ turn ∈ history, turn.task ≠ task) : windowOf devId history task = none := by
  induction history using List.reverseRecOn with
  | nil => rfl
  | append_singleton history turn ih =>
      rw [windowOf_append, if_neg (unseen turn (by simp))]
      exact ih fun earlier member => unseen earlier (List.mem_append_left _ member)

/-! ### The calls keep to their windows -/

/-- An estimate is stored with the clock reading of its check, and a report by a call without a window. -/
def windowAllows (devId : String) (window : Option Int) : PoolOp → Bool
  | .storeEstimate stored _ now => decide (stored = devId → window = some now)
  | .storeReport stored _ => decide (stored = devId → window = none)
  | _ => true

def windowNext (devId : String) (window : Option Int) (op : PoolOp) (reply : op.Reply) : Option (Option Int) :=
  if windowAllows devId window op then some (windowAfter devId window op reply) else none

section Programs
variable (devId : String)

def KeepsWindow {α : Type} (program : PoolProgram α) : Prop :=
  Follows (windowNext devId) (fun window _ => window = none) none program

variable {devId}

theorem aside_stays (window : Option Int) (op : PoolOp) (reply : op.Reply) (aside : op.aside = true) :
    windowNext devId window op reply = some window := by
  cases op <;> first | rfl | cases aside

theorem aside_windows {α : Type} {program : PoolProgram α} (aside : Uses (·.aside = true) program) :
    KeepsWindow devId program := follows_of_uses (fun op reply => aside_stays none op reply) aside

theorem windows_then {α β : Type} {program : PoolProgram β} {rest : β → PoolProgram α}
    (head : KeepsWindow devId program) (tail : ∀ value, KeepsWindow devId (rest value)) :
    KeepsWindow devId (program >>= rest) := by
  apply follows_then head
  rintro _ value rfl
  exact tail value

theorem tryEstimateRevival_windows (checked : String) : KeepsWindow devId (tryEstimateRevival checked) := by
  intro now
  apply Exists.intro none
  apply And.intro rfl
  by_cases same : checked = devId
  · subst same
    rintro (_ | _)
    · exact ⟨none, by simp [windowNext, windowAllows, windowAfter, eligibleCheck], rfl⟩
    · apply Exists.intro (some now)
      apply And.intro (by simp [windowNext, windowAllows, windowAfter, eligibleCheck])
      rintro (error | estimated)
      · exact ⟨none, by simp [windowNext, windowAllows, windowAfter, Except.isOk, Except.toBool], rfl⟩
      · apply Exists.intro (some now)
        apply And.intro (by simp [windowNext, windowAllows, windowAfter, Except.isOk, Except.toBool])
        intro stored
        apply Exists.intro none
        apply And.intro (by simp [windowNext, windowAllows, windowAfter])
        cases stored with
        | none => rfl
        | some limit => exact fun _ => ⟨none, rfl, rfl⟩
  · intro eligible
    apply Exists.intro none
    apply And.intro (by simp [windowNext, windowAllows, windowAfter, same])
    cases eligible with
    | false => rfl
    | true =>
        intro estimate
        apply Exists.intro none
        apply And.intro (by simp [windowNext, windowAllows, windowAfter])
        cases estimate with
        | error error => rfl
        | ok estimated =>
            intro stored
            apply Exists.intro none
            apply And.intro (by simp [windowNext, windowAllows, windowAfter, same])
            cases stored with
            | none => rfl
            | some limit => exact fun _ => ⟨none, rfl, rfl⟩

theorem syncUsageInternal_windows (config : Config) (synced : String) :
    KeepsWindow devId (syncUsageInternal config synced) := by
  intro credential
  apply Exists.intro none
  apply And.intro rfl
  cases credential with
  | none => rfl
  | some credential =>
      intro available
      apply Exists.intro none
      apply And.intro rfl
      cases available with
      | false => exact fun _ => ⟨none, rfl, rfl⟩
      | true =>
          intro usage
          apply Exists.intro none
          apply And.intro rfl
          rcases usage with error | _ | report
          · exact fun _ => ⟨none, rfl, rfl⟩
          · exact tryEstimateRevival_windows synced
          · exact fun _ => ⟨none, by simp [windowNext, windowAllows, windowAfter], fun _ => ⟨none, rfl, rfl⟩⟩

theorem syncEach_windows (config : Config) (devIds : List String) : KeepsWindow devId (syncEach config devIds) := by
  induction devIds with
  | nil => rfl
  | cons first rest ih => exact windows_then (syncUsageInternal_windows config first) fun _ => ih

theorem syncAllUsage_windows (config : Config) : KeepsWindow devId (syncAllUsage config) := by
  apply windows_then (aside_windows flushUsage_aside)
  rintro (error | _)
  · rfl
  · intro cleaned
    apply Exists.intro none
    apply And.intro rfl
    cases cleaned with
    | error error => rfl
    | ok _ =>
        intro devIds
        apply Exists.intro none
        apply And.intro rfl
        apply windows_then (syncEach_windows config _)
        intro _
        exact aside_windows ⟨rfl, fun _ => trivial⟩

theorem selectAvailableKey_windows : KeepsWindow devId selectAvailableKey :=
  aside_windows (uses_mono selects_aside selectAvailableKey_selects)

theorem reviveAndSelect_windows (config : Config) : KeepsWindow devId (reviveAndSelect config) := by
  apply windows_then selectAvailableKey_windows
  rintro (_ | key)
  · intro now
    apply Exists.intro none
    apply And.intro rfl
    intro granted
    apply Exists.intro none
    apply And.intro rfl
    cases granted with
    | false => rfl
    | true =>
        intro devIds
        apply Exists.intro none
        apply And.intro rfl
        apply windows_then (syncEach_windows config devIds)
        intro _
        apply windows_then selectAvailableKey_windows
        rintro (_ | key) <;> rfl
  · rfl

theorem activeKey_windows (config : Config) : KeepsWindow devId (activeKey config) := by
  apply windows_then (aside_windows ensureInitialized_aside)
  rintro (error | _)
  · rfl
  · apply windows_then selectAvailableKey_windows
    rintro (_ | key)
    · have locked : KeepsWindow devId (do
          let result ← reviveAndSelect config
          perform (PoolOp.unlock .revival)
          return result) := by
        apply windows_then (reviveAndSelect_windows config)
        intro result _
        exact ⟨none, rfl, rfl⟩
      exact fun _ => ⟨none, rfl, locked⟩
    · rfl

theorem poolCode_windows (config : Config) (caller : PoolCall) : KeepsWindow devId (poolCode config caller) := by
  have returns : ∀ {α : Type} {program : PoolProgram α} (result : α → PoolResult), KeepsWindow devId program →
      KeepsWindow devId (program >>= fun value => .done (result value)) :=
    fun _ keeps => windows_then keeps fun _ => rfl
  cases caller with
  | activeKey => exact returns _ (activeKey_windows config)
  | incrementUsage devId => exact fun _ => ⟨none, rfl, rfl⟩
  | flushUsage => exact returns _ (aside_windows flushUsage_aside)
  | recordSuccess devId => exact returns _ (aside_windows (recordSuccessProgram_aside devId))
  | recordFailure devId keyFault => exact returns _ (aside_windows (recordFailureProgram_aside devId keyFault))
  | syncUsage devId => exact returns _ (syncUsageInternal_windows config devId)
  | syncAllUsage => exact returns _ (syncAllUsage_windows config)
  | reload keyFile => exact returns _ (aside_windows (reload_aside keyFile))
  | foreignWrite table => exact fun _ => ⟨none, rfl, rfl⟩

end Programs

/-! ### One turn -/

section Step
variable {config : Config} {devId : String} {window : Option Int} {op : PoolOp} {reply : op.Reply}

theorem windowAfter_some {now : Int} (opened : windowAfter devId window op reply = some now) :
    eligibleCheck devId op reply = some now ∨ (window = some now ∧ eligibleCheck devId op reply = none) := by
  cases op with
  | revivalEligible checked read =>
      simp only [windowAfter] at opened
      split_ifs at opened with same
      · exact Or.inl opened
      · apply Or.inr
        apply And.intro opened
        cases (reply : Bool) <;> simp [eligibleCheck, same]
  | localUsageEstimate asked =>
      simp only [windowAfter] at opened
      split_ifs at opened
      exact Or.inr ⟨opened, rfl⟩
  | storeEstimate stored estimated read =>
      simp only [windowAfter] at opened
      split_ifs at opened
      exact Or.inr ⟨opened, rfl⟩
  | _ => exact Or.inr ⟨opened, rfl⟩

/-- Nothing but a revival writes its clock reading down. -/
theorem serve_lastEstimate {pool after : Pool} (answered : (serve config).handler pool op reply after) :
    after.inner.lastEstimateRevivalMs devId = (revivalOf devId op reply).or (pool.inner.lastEstimateRevivalMs devId) := by
  cases op with
  | storeEstimate stored estimated now =>
      obtain ⟨outside, served⟩ := answered
      simp only [serve, Pool.section, Option.some.injEq, Prod.mk.injEq] at served
      obtain ⟨rfl, rfl⟩ := served
      simp only [storeEstimate]
      cases pool.inner.find stored with
      | none => rfl
      | some key =>
          simp only
          split_ifs with budget
          · by_cases same : stored = devId
            · subst same
              simp [revivalOf]
            · simp [revivalOf, same, Ne.symm same]
          · rfl
  | selectSticky =>
      rw [serve_inner answered]
      simp only [innerAfter, selectSticky]
      repeat' split
      all_goals rfl
  | selectAvailable =>
      rw [serve_inner answered]
      simp only [innerAfter, selectAvailable]
      split <;> rfl
  | beginRevival now =>
      rw [serve_inner answered]
      simp only [innerAfter, beginRevival]
      split <;> rfl
  | restorePending batches | addCallsTotal batches =>
      rw [serve_inner answered]
      exact foldl_modify_kept (·.lastEstimateRevivalMs devId) (fun _ _ _ => rfl) _ batches pool.inner
  | incrementUsage | recordFailure | storeReport =>
      rw [serve_inner answered]
      exact clearActive_kept (·.lastEstimateRevivalMs devId) (fun _ => rfl) _ _ _
  | _ =>
      rw [serve_inner answered]
      rfl

theorem serve_eligible {pool after : Pool} {now : Int} (answered : (serve config).handler pool op reply after)
    (passed : eligibleCheck devId op reply = some now) :
    estimateRevivalCooldownMs ≤ now - (pool.inner.lastEstimateRevivalMs devId).getD 0 := by
  cases op with
  | revivalEligible checked read =>
      obtain ⟨outside, served⟩ := answered
      simp only [serve, Option.some.injEq, Prod.mk.injEq] at served
      obtain ⟨rfl, -⟩ := served
      cases eligible : revivalEligible checked read pool.inner with
      | false => simp [eligible, eligibleCheck] at passed
      | true =>
          rw [eligible] at passed
          simp only [eligibleCheck, Option.ite_none_right_eq_some, Option.some.injEq] at passed
          obtain ⟨rfl, rfl⟩ := passed
          simp only [revivalEligible] at eligible
          cases found : pool.inner.find checked with
          | none => simp [found] at eligible
          | some key =>
              simp only [found, Bool.and_eq_true, decide_eq_true_eq] at eligible
              exact eligible.2
  | _ => cases passed

theorem windowAllows_revival {now : Int} (keeps : windowAllows devId window op = true)
    (revived : revivalOf devId op reply = some now) : window = some now ∧ windowAfter devId window op reply = none := by
  cases op with
  | storeEstimate stored estimated read =>
      cases limit : (reply : Option Nat) with
      | none =>
          rw [limit] at revived
          cases revived
      | some limit =>
          rw [limit] at revived
          simp only [revivalOf, Option.ite_none_right_eq_some, Option.some.injEq] at revived
          obtain ⟨rfl, rfl⟩ := revived
          exact ⟨of_decide_eq_true keeps rfl, if_pos rfl⟩
  | _ => cases revived

theorem check_revives_nothing {now : Int} (passed : eligibleCheck devId op reply = some now) :
    revivalOf devId op reply = none := by
  cases op <;> first | rfl | cases passed

theorem windowAllows_report (keeps : windowAllows devId window op = true)
    (limited : reportsLimited config devId op = true) : window = none := by
  cases op with
  | storeReport reported report =>
      simp only [reportsLimited, Bool.and_eq_true, decide_eq_true_eq] at limited
      exact of_decide_eq_true keeps limited.1
  | _ => cases limited

end Step

/-! ### Runs -/

/-- What holds after each turn of a run without disturbances. -/
structure Spaced (config : Config) (devId : String) (history : List PoolTurn) (pool : Pool)
    (phases : List (Option Int)) : Prop where
  windows : ∀ task, phases[task]?.getD none = windowOf devId history task
  eligible : ∀ task now, windowOf devId history task = some now →
    estimateRevivalCooldownMs ≤ now - (pool.inner.lastEstimateRevivalMs devId).getD 0
  checked : ∀ task now, windowOf devId history task = some now → CheckedSince config devId history task now
  latest : ∀ now ∈ revivals devId history,
    ∃ last, pool.inner.lastEstimateRevivalMs devId = some last ∧ now ≤ last
  apart : (revivals devId history).Pairwise fun first second => first + estimateRevivalCooldownMs ≤ second
  authorised : Throughout (Authorised config devId) history

section Moves
variable {config : Config} {devId : String} {history : List PoolTurn} {turn : PoolTurn}

theorem checkedSince_append {task : Nat} {now : Int} (checked : CheckedSince config devId history task now)
    (unchecked : turn.task = task → eligibleCheck devId turn.op turn.reply = none)
    (usable : reportsLimited config devId turn.op = false) : CheckedSince config devId (history ++ [turn]) task now := by
  obtain ⟨front, check, between, rfl, own, passed, since⟩ := checked
  refine ⟨front, check, between ++ [turn], by simp, own, passed, ?_⟩
  intro later member
  rcases List.mem_append.mp member with earlier | last
  · exact since later earlier
  · rw [List.mem_singleton] at last
    subst last
    exact ⟨unchecked, usable⟩

/-- A turn of a call without a disturbance, and the windows before and after it. -/
structure Turned (config : Config) (devId : String) (history : List PoolTurn) (turn : PoolTurn) : Prop where
  reopened : ∀ task now, windowOf devId (history ++ [turn]) task = some now →
    (turn.task = task ∧ eligibleCheck devId turn.op turn.reply = some now) ∨
      (windowOf devId history task = some now ∧ revivalOf devId turn.op turn.reply = none ∧
        reportsLimited config devId turn.op = false ∧
        (turn.task = task → eligibleCheck devId turn.op turn.reply = none))
  revived : ∀ now, revivalOf devId turn.op turn.reply = some now → windowOf devId history turn.task = some now

theorem turned_of_allowed (keeps : windowAllows devId (windowOf devId history turn.task) turn.op = true)
    (undisturbed : Undisturbed config devId history turn) : Turned config devId history turn where
  reopened task now opened := by
    rw [windowOf_append] at opened
    split_ifs at opened with own
    · subst own
      rcases windowAfter_some opened with fresh | ⟨before, unchecked⟩
      · exact Or.inl ⟨rfl, fresh⟩
      · have kept : revivalOf devId turn.op turn.reply = none := by
          cases revived : revivalOf devId turn.op turn.reply with
          | none => rfl
          | some read =>
              rw [(windowAllows_revival keeps revived).2] at opened
              cases opened
        have usable : reportsLimited config devId turn.op = false := by
          rw [← Bool.not_eq_true]
          intro limited
          rw [windowAllows_report keeps limited] at before
          cases before
        exact Or.inr ⟨before, kept, usable, fun _ => unchecked⟩
    · have seen : ∃ other ∈ history, other.task = task := by
        by_contra unseen
        simp only [not_exists, not_and] at unseen
        rw [windowOf_unseen unseen] at opened
        cases opened
      obtain ⟨other, member, rfl⟩ := seen
      have calm : ¬ ((revivalOf devId turn.op turn.reply).isSome = true ∨ reportsLimited config devId turn.op = true) := by
        intro disturbs
        rw [undisturbed disturbs other member (Ne.symm own)] at opened
        cases opened
      simp only [not_or, Bool.not_eq_true, Option.isSome_eq_false_iff, Option.isNone_iff_eq_none] at calm
      exact Or.inr ⟨opened, calm.1, calm.2, fun same => absurd same own⟩
  revived now revived := (windowAllows_revival keeps revived).1

theorem revivals_append : revivals devId (history ++ [turn]) =
    revivals devId history ++ (revivalOf devId turn.op turn.reply).toList := by
  cases revived : revivalOf devId turn.op turn.reply <;> simp [revivals, revived]

section Held
variable {phases : List (Option Int)} (held : Spaced config devId history turn.before phases)
  (turned : Turned config devId history turn)
include held turned

theorem revival_spaced {now : Int} (revived : revivalOf devId turn.op turn.reply = some now) {first : Int}
    (member : first ∈ revivals devId history) : first + estimateRevivalCooldownMs ≤ now := by
  obtain ⟨latest, noted, later⟩ := held.latest first member
  have apart := held.eligible turn.task now (turned.revived now revived)
  rw [noted, Option.getD_some] at apart
  omega

theorem eligible_moves (answered : (serve config).handler turn.before turn.op turn.reply turn.after) {task : Nat}
    {now : Int} (opened : windowOf devId (history ++ [turn]) task = some now) :
    estimateRevivalCooldownMs ≤ now - (turn.after.inner.lastEstimateRevivalMs devId).getD 0 := by
  rcases turned.reopened task now opened with ⟨-, fresh⟩ | ⟨before, kept, -, -⟩
  · rw [serve_lastEstimate answered, check_revives_nothing fresh, Option.none_or]
    exact serve_eligible answered fresh
  · rw [serve_lastEstimate answered, kept, Option.none_or]
    exact held.eligible task now before

theorem checked_moves {task : Nat} {now : Int} (opened : windowOf devId (history ++ [turn]) task = some now) :
    CheckedSince config devId (history ++ [turn]) task now := by
  rcases turned.reopened task now opened with ⟨own, fresh⟩ | ⟨before, -, usable, unchecked⟩
  · exact ⟨history, turn, [], rfl, own, fresh, by simp⟩
  · exact checkedSince_append (held.checked task now before) unchecked usable

theorem latest_moves (answered : (serve config).handler turn.before turn.op turn.reply turn.after) {now : Int}
    (member : now ∈ revivals devId (history ++ [turn])) :
    ∃ last, turn.after.inner.lastEstimateRevivalMs devId = some last ∧ now ≤ last := by
  rw [revivals_append, List.mem_append] at member
  rw [serve_lastEstimate answered]
  cases revived : revivalOf devId turn.op turn.reply with
  | none =>
      rw [Option.none_or]
      apply held.latest now
      simpa [revived] using member
  | some read =>
      apply Exists.intro read
      apply And.intro rfl
      rcases member with earlier | fresh
      · have apart := revival_spaced held turned revived earlier
        have positive : 0 ≤ estimateRevivalCooldownMs := by decide
        omega
      · simp only [revived, Option.toList_some, List.mem_singleton] at fresh
        omega

theorem apart_moves : (revivals devId (history ++ [turn])).Pairwise fun first second =>
    first + estimateRevivalCooldownMs ≤ second := by
  rw [revivals_append, List.pairwise_append]
  refine ⟨held.apart, by cases revivalOf devId turn.op turn.reply <;> simp, ?_⟩
  intro first member second fresh
  exact revival_spaced held turned (Option.mem_toList.mp fresh) member

end Held

theorem spaced_moves {phases : List (Option Int)} {phase next : Option Int}
    (held : Spaced config devId history turn.before phases) (found : phases[turn.task]? = some phase)
    (allowed : windowNext devId phase turn.op turn.reply = some next)
    (answered : (serve config).handler turn.before turn.op turn.reply turn.after)
    (undisturbed : Undisturbed config devId history turn) :
    Spaced config devId (history ++ [turn]) turn.after (phases.set turn.task next) := by
  have here : phase = windowOf devId history turn.task := by
    have same := held.windows turn.task
    rwa [found] at same
  rw [windowNext, here, Option.ite_none_right_eq_some] at allowed
  obtain ⟨keeps, moved⟩ := allowed
  have turned := turned_of_allowed keeps undisturbed
  constructor
  · intro task
    rw [windowOf_append]
    have inside := (List.getElem?_eq_some_iff.mp found).1
    by_cases own : turn.task = task
    · rw [if_pos own, ← own, List.getElem?_set_self inside]
      exact (Option.some.inj moved).symm
    · rw [if_neg own, List.getElem?_set_ne own]
      exact held.windows task
  · exact fun task now opened => eligible_moves held turned answered opened
  · exact fun task now opened => checked_moves held turned opened
  · exact fun now member => latest_moves held turned answered member
  · exact apart_moves held turned
  · apply throughout_append.mpr ⟨held.authorised, ?_⟩
    exact fun now revived => held.checked turn.task now (turned.revived now revived)

end Moves

/-- In every run of any callers of one pool in which no call revives a key, or stores a report without budget
for it, while another call stands between its check of that key and its estimate: any two revivals of the
key are a cooldown apart, by their clock readings, and no revival overwrites a report without budget that
was stored after its check. -/
theorem revivals_keep_cooldown {config : Config} {pool : Pool} {history : List PoolTurn} {state : PoolState}
    (devId : String) (run : PoolRun config ⟨pool, []⟩ history state)
    (undisturbed : Throughout (Undisturbed config devId) history) :
    ((revivals devId history).Pairwise fun first second => first + estimateRevivalCooldownMs ≤ second) ∧
      Throughout (Authorised config devId) history := by
  have held : ∃ phases, List.Forall₂ (Follows (windowNext devId) fun window _ => window = none) phases
      state.programs ∧ Spaced config devId history state.shared phases := by
    refine run_phases_throughout (fun _ => none) (poolCode_windows config) (Spaced config devId) ?_ rfl ?_ ?_ run
      undisturbed
    · constructor <;> simp [windowOf, revivals]
    · intro history pool phases caller spaced
      refine ⟨?_, spaced.eligible, spaced.checked, spaced.latest, spaced.apart, spaced.authorised⟩
      intro task
      rw [← spaced.windows task]
      rcases Nat.lt_trichotomy task phases.length with inside | rfl | outside
      · rw [List.getElem?_append_left inside]
      · simp
      · rw [List.getElem?_eq_none (by simp; omega), List.getElem?_eq_none (by omega)]
    · intro history phases phase after turn spaced found allowed answered here
      exact spaced_moves spaced found allowed answered here
  obtain ⟨phases, -, spaced⟩ := held
  exact ⟨spaced.apart, spaced.authorised⟩

/-! ### Two syncs at once -/

/-- Syncs of a limited key for which the probe reports nothing, up to the estimate. -/
def checksKey (task : Nat) (now : Int) : List (Move PoolCall Outside) :=
  .enter (.syncUsage "1000") :: List.replicate 3 (.turn task {}) ++ [.turn task { now }, .turn task {}]

def limitedKey : InMemoryKey := { testKey "1000" 7500 false with status := .limited }

/-- Both syncs are past the check when the first stores its estimate. -/
def overlappingSyncs : List (Move PoolCall Outside) :=
  checksKey 0 1800000 ++ checksKey 1 1800000 ++ [.turn 0 {}, .turn 1 {}, .turn 0 {}, .turn 1 {}]

theorem key_revived_twice_at_once :
    ∃ history state, PoolRun testConfig (initialState [limitedKey] emptyTable) history state ∧
      ¬ (revivals "1000" history).Pairwise fun first second => first + estimateRevivalCooldownMs ≤ second := by
  have passed : (replay (serve testConfig) (poolCode testConfig) (initialState [limitedKey] emptyTable)
      overlappingSyncs).any (fun outcome => decide (revivals "1000" outcome.1 = [1800000, 1800000])) = true := by
    decide +kernel
  obtain ⟨history, state, run, twice⟩ := replay_reaches passed
  refine ⟨history, state, run, ?_⟩
  rw [of_decide_eq_true twice]
  decide

def syncsInTurn : List (Move PoolCall Outside) :=
  checksKey 0 1800000 ++ [.turn 0 {}, .turn 0 {}, .turn 0 {}] ++ checksKey 1 1800001

theorem key_revived_in_turn :
    ∃ history, revivals "1000" history = [1800000] ∧ Throughout (Authorised testConfig "1000") history := by
  have passed : (replay (serve testConfig) (poolCode testConfig) (initialState [limitedKey] emptyTable)
      syncsInTurn).any (fun outcome => decide (revivals "1000" outcome.1 = [1800000]) &&
        decide (Throughout (Undisturbed testConfig "1000") outcome.1)) = true := by decide +kernel
  obtain ⟨history, state, run, tested⟩ := replay_reaches passed
  obtain ⟨once, calm⟩ := Bool.and_eq_true_iff.mp tested
  exact ⟨history, of_decide_eq_true once, (revivals_keep_cooldown "1000" run (of_decide_eq_true calm)).2⟩

end PaladinsCat.KeyPool
