import PaladinsCat.LinkVerification

/-!
The cooldown of 30 seconds and the lockout of 10 minutes of the link verification: what the statements
may do to a user's row, and which checks pass in a run. The limits are kept in the row of the code, and
hold as long as no statement takes away or replaces a row that says to wait.
-/

namespace PaladinsCat.Linking

open Interleaving Program

/-! ### Cooldowns and lockouts -/

/-- The row of the user may be taken away or replaced. -/
def LinkOp.removes (user : Int) : LinkOp → Bool
  | .delete other => other == user
  | .upsert other _ _ => other == user
  | .link other _ => other == user
  | .deleteExpired => true
  | _ => false

/-- The user whose check has passed the attempt. -/
def passes : (op : LinkOp) → op.Reply → Option Int
  | .attempt user, .ok (some _) => some user
  | _, _ => none

/-- A lockout of the user was set. -/
def Locks (user : Int) (turn : LinkTurn) : Prop :=
  turn.op = .lock user ∧
    ((turn.after.verifications user).bind Verification.lockedUntil) = some (turn.after.clock + linkLockout)

/-- No check of the user passes within the cooldown of another that has passed, or within a lockout. -/
def Limited (user : Int) (earlier : List LinkTurn) (turn : LinkTurn) : Prop :=
  passes turn.op turn.reply = some user → ∀ first ∈ earlier,
    (passes first.op first.reply = some user → first.after.clock + linkCooldown ≤ turn.after.clock) ∧
      (Locks user first → first.after.clock + linkLockout ≤ turn.after.clock)

/-- No statement deletes or replaces the row of the user while it says that the user has to wait. -/
def KeepsLimits (user : Int) (_ : List LinkTurn) (turn : LinkTurn) : Prop :=
  ∀ row ∈ turn.before.verifications user, row.waits turn.after.clock = true → turn.op.removes user = true →
    turn.after.verifications user = some row

instance (user : Int) (turn : LinkTurn) : Decidable (Locks user turn) := inferInstanceAs (Decidable (_ ∧ _))

instance (user : Int) (earlier : List LinkTurn) (turn : LinkTurn) : Decidable (Limited user earlier turn) :=
  inferInstanceAs (Decidable (_ → ∀ first ∈ earlier, (_ → _) ∧ (_ → _)))

instance (user : Int) (earlier : List LinkTurn) (turn : LinkTurn) : Decidable (KeepsLimits user earlier turn) :=
  inferInstanceAs (Decidable (∀ row ∈ turn.before.verifications user, _ → _ → _))

section Step
variable {before after : LinkTables} {op : LinkOp} {reply : op.Reply} {user : Int}

/-- What a step may do to the row of a user. -/
inductive RowStep (user : Int) (now : Nat) (row : Option Verification) : LinkOp → Option Verification → Prop where
  | kept (op : LinkOp) : RowStep user now row op row
  | attempted {current : Verification} (present : row = some current) (waited : current.waits now = false) :
      RowStep user now row (.attempt user) (some { current with
        attemptCount := current.attemptCount + 1, nextAttemptAt := some (now + linkCooldown) })
  | locked {current : Verification} (present : row = some current) :
      RowStep user now row (.lock user) (some { current with
        lockedUntil := some (now + linkLockout), expiresAt := max current.expiresAt (now + linkLockout) })
  | removed {op : LinkOp} (removes : op.removes user = true) (next : Option Verification) : RowStep user now row op next

theorem attempt_rowStep (tables : LinkTables) (other user : Int) :
    RowStep user tables.clock (tables.verifications user) (.attempt other) ((tables.attempt other).2.verifications user) := by
  rcases attempt_cases tables other with same | ⟨row, name, present, -, waited, same⟩
  · rw [same]
    exact .kept _
  · rw [same]
    by_cases here : user = other
    · subst here
      rw [put_self]
      exact .attempted present waited
    · rw [put_other _ here]
      exact .kept _

theorem lock_rowStep (tables : LinkTables) (other user : Int) :
    RowStep user tables.clock (tables.verifications user) (.lock other) ((tables.lock other).2.verifications user) := by
  unfold LinkTables.lock
  cases present : tables.verifications other with
  | none => exact .kept _
  | some row =>
      by_cases here : user = other
      · subst here
        simp only [put_self]
        exact .locked present
      · simp only [put_other _ here]
        exact .kept _

theorem put_rowStep {tables : LinkTables} {other : Int} {now : Nat} (row : Option Verification)
    (removes : op.removes user = true ∨ user ≠ other) :
    RowStep user now (tables.verifications user) op ((tables.put other row).verifications user) := by
  by_cases apart : user = other
  · exact .removed (removes.resolve_right (absurd apart)) _
  · rw [put_other _ apart]
    exact .kept op

theorem named_or_apart (other user : Int) : (other == user) = true ∨ user ≠ other := by
  by_cases same : other = user
  · exact Or.inl (by simp [same])
  · exact Or.inr (Ne.symm same)

/-- The clock goes on, and the row of each user makes a step. -/
theorem link_step (served : linkServe.handler before op reply after) (user : Int) : before.clock ≤ after.clock ∧
    RowStep user after.clock (before.verifications user) op (after.verifications user) := by
  obtain ⟨⟨fate, elapsed, random, relay⟩, served⟩ := served
  have later : before.clock ≤ before.clock + elapsed := Nat.le_add_right _ _
  cases op with
  | lockedUntil | findPlayer | linkedElsewhere | findVerification | rowStatus | vendorGuard | recordRaw =>
      rcases settle_after served with rfl | rfl <;> exact ⟨later, .kept _⟩
  | randomPin | now | loadouts =>
      cases served
      exact ⟨later, .kept _⟩
  | upsert other playerId code =>
      simp only [linkServe] at served
      split at served
      · cases served
        exact ⟨later, .kept _⟩
      · rename_i outcome carried
        unfold LinkTables.upsert at carried
        split_ifs at carried
        cases carried
        rcases settle_after served with rfl | rfl
        · exact ⟨later, .kept _⟩
        · exact ⟨later, put_rowStep _ (named_or_apart other user)⟩
  | deleteExpired =>
      rcases settle_after served with rfl | rfl
      · exact ⟨later, .kept _⟩
      · exact ⟨later, .removed rfl _⟩
  | attempt other =>
      rcases settle_after served with rfl | rfl
      · exact ⟨later, .kept _⟩
      · rw [attempt_clock]
        exact ⟨later, attempt_rowStep { before with clock := before.clock + elapsed } other user⟩
  | delete other =>
      rcases settle_after served with rfl | rfl
      · exact ⟨later, .kept _⟩
      · exact ⟨later, put_rowStep _ (named_or_apart other user)⟩
  | lock other =>
      rcases settle_after served with rfl | rfl
      · exact ⟨later, .kept _⟩
      · rw [lock_clock]
        exact ⟨later, lock_rowStep { before with clock := before.clock + elapsed } other user⟩
  | link other playerId =>
      rcases settle_after served with rfl | rfl
      · exact ⟨later, .kept _⟩
      · exact ⟨later, put_rowStep _ (named_or_apart other user)⟩
  | unlink other =>
      rcases settle_after served with rfl | rfl <;> exact ⟨later, .kept _⟩

end Step

/-- A check that passes finds the row waiting for nothing, and starts the cooldown. -/
theorem passes_step {before after : LinkTables} {op : LinkOp} {reply : op.Reply} {user : Int}
    (served : linkServe.handler before op reply after) (passing : passes op reply = some user) :
    ∃ row, before.verifications user = some row ∧ row.waits after.clock = false ∧
      ((after.verifications user).bind Verification.nextAttemptAt) = some (after.clock + linkCooldown) := by
  obtain ⟨⟨fate, elapsed, random, relay⟩, served⟩ := served
  cases op with
  | attempt other =>
      rcases settle_cases served with ⟨rfl, rfl⟩ | ⟨error, rfl, -⟩
      · rcases attempt_cases { before with clock := before.clock + elapsed } other with
          same | ⟨row, name, present, -, waited, same⟩
        · rw [same] at passing
          cases passing
        · rw [same] at passing
          cases passing
          rw [same]
          exact ⟨row, present, waited, by simp⟩
      · cases passing
  | _ => cases passing

/-! ### The limits in every run -/

inductive LimitColumn where
  | cooldown
  | lockout

namespace LimitColumn

def read : LimitColumn → Verification → Option Nat
  | .cooldown => Verification.nextAttemptAt
  | .lockout => Verification.lockedUntil

def length : LimitColumn → Nat
  | .cooldown => linkCooldown
  | .lockout => linkLockout

end LimitColumn

section Limits
variable {user : Int} {before after : LinkTables} {column : LimitColumn} {limit : Nat} {op : LinkOp}

/-- The time has come, or the user's row says to wait for it. -/
def Waits (user : Int) (column : LimitColumn) (limit : Nat) (tables : LinkTables) : Prop :=
  limit ≤ tables.clock ∨ ∃ row time, tables.verifications user = some row ∧ column.read row = some time ∧ limit ≤ time

/-- Whoever has waited for a row that is ready has waited long enough. -/
theorem Waits.ready {row : Verification} {now : Nat} (waits : Waits user column limit before) (later : before.clock ≤ now)
    (present : before.verifications user = some row) (ready : row.waits now = false) : limit ≤ now := by
  rcases waits with come | ⟨row', time, present', said, bound⟩
  · exact Nat.le_trans come later
  · obtain rfl : row = row' := Option.some.inj (present.symm.trans present')
    have times : passed row.nextAttemptAt now = true ∧ passed row.lockedUntil now = true := by
      simpa [Verification.waits] using ready
    have over' : time ≤ now := by
      cases column with
      | cooldown => simpa [passed, show row.nextAttemptAt = some time from said] using times.1
      | lockout => simpa [passed, show row.lockedUntil = some time from said] using times.2
    exact Nat.le_trans bound over'

/-- A step that keeps the limits goes on waiting. -/
theorem Waits.step (waits : Waits user column limit before) (short : limit ≤ before.clock + column.length)
    (later : before.clock ≤ after.clock)
    (step : RowStep user after.clock (before.verifications user) op (after.verifications user))
    (keeps : ∀ row ∈ before.verifications user, row.waits after.clock = true → op.removes user = true →
      after.verifications user = some row) : Waits user column limit after := by
  have same : after.verifications user = before.verifications user → Waits user column limit after := by
    intro unchanged
    rcases waits with come | ⟨row, time, present, said, bound⟩
    · exact Or.inl (Nat.le_trans come later)
    · exact Or.inr ⟨row, time, unchanged.trans present, said, bound⟩
  generalize was : before.verifications user = old at step
  generalize becomes : after.verifications user = new at step
  cases step with
  | kept => exact same (becomes.trans was.symm)
  | @attempted current present waited =>
      subst present
      exact Or.inl (waits.ready later was waited)
  | @locked current present =>
      subst present
      cases column with
      | cooldown =>
          rcases waits with come | ⟨row, time, present, said, bound⟩
          · exact Or.inl (Nat.le_trans come later)
          · obtain rfl : current = row := Option.some.inj (was.symm.trans present)
            exact Or.inr ⟨_, time, becomes, said, bound⟩
      | lockout =>
          refine Or.inr ⟨_, after.clock + linkLockout, becomes, rfl, ?_⟩
          simp only [LimitColumn.length] at short
          omega
  | removed removes =>
      cases old with
      | none =>
          rcases waits with come | ⟨row, time, present, -⟩
          · exact Or.inl (Nat.le_trans come later)
          · rw [was] at present
            cases present
      | some row =>
          cases waiting : row.waits after.clock with
          | false => exact Or.inl (waits.ready later was waiting)
          | true => exact same ((keeps row was waiting removes).trans was.symm)

/-- What a turn makes the later ones wait for. -/
def Sets (user : Int) (turn : LinkTurn) : LimitColumn → Prop
  | .cooldown => passes turn.op turn.reply = some user
  | .lockout => Locks user turn

theorem sets_waits {turn : LinkTurn} (served : linkServe.handler turn.before turn.op turn.reply turn.after)
    (sets : Sets user turn column) : Waits user column (turn.after.clock + column.length) turn.after := by
  cases column with
  | cooldown =>
      obtain ⟨-, -, -, said⟩ := passes_step served sets
      obtain ⟨row, present, said⟩ := Option.bind_eq_some_iff.mp said
      exact Or.inr ⟨row, _, present, said, Nat.le_refl _⟩
  | lockout =>
      obtain ⟨row, present, said⟩ := Option.bind_eq_some_iff.mp sets.2
      exact Or.inr ⟨row, _, present, said, Nat.le_refl _⟩

/-- The limits of the link verification hold in every run that deletes or replaces no row which says to wait. -/
theorem link_limits_hold {start : LinkTables} {history : List LinkTurn} {state : LinkState}
    (run : LinkRun start history state) (keeps : Throughout (KeepsLimits user) history) :
    Throughout (Limited user) history := by
  refine (run_throughout (fun history tables => ∀ first ∈ history, first.after.clock ≤ tables.clock ∧
    ∀ column, Sets user first column → Waits user column (first.after.clock + column.length) tables) ?_ run (by simp)
    keeps).2
  intro history turn waits served here
  obtain ⟨later, step⟩ := link_step served user
  constructor
  · intro first member
    rcases List.mem_append.mp member with member | member
    · obtain ⟨sofar, pending⟩ := waits first member
      refine ⟨Nat.le_trans sofar later, fun column sets => ?_⟩
      exact (pending column sets).step (Nat.add_le_add_right sofar _) later step here
    · obtain rfl : first = turn := by simpa using member
      exact ⟨Nat.le_refl _, fun column sets => sets_waits served sets⟩
  · intro passing first member
    obtain ⟨row, present, ready, -⟩ := passes_step served passing
    obtain ⟨-, pending⟩ := waits first member
    exact ⟨fun sets => (pending .cooldown sets).ready later present ready,
      fun sets => (pending .lockout sets).ready later present ready⟩

end Limits

/-- User 1, and player 10. -/
def oneUser : LinkTables where
  users := [1]
  players := fun playerId => if playerId = 10 then some "Fernando" else none

def attempts (user : Int) (history : List LinkTurn) : Nat :=
  history.countP fun turn => passes turn.op turn.reply == some user

/-- A check that finds nothing, one that is too early, and one after the cooldown; then the user cancels, with a
cooldown that has run out. -/
theorem patient_user_limited :
    ∃ history state, LinkRun oneUser history state ∧ attempts 1 history = 2 ∧ Throughout (Limited 1) history := by
  have passed : (replay linkServe linkCode ⟨oneUser, []⟩
      [.enter (.create 1 (some 10)), .enter (.check 1), .enter (.check 1), .enter (.check 1), .enter (.cancel 1),
        .turn 0 {}, .turn 0 {}, .turn 0 {}, .turn 0 {}, .turn 0 {}, .turn 1 {}, .turn 1 {},
        .turn 1 { relay := .loadouts (some []) }, .turn 1 {}, .turn 2 {}, .turn 2 {}, .turn 2 {},
        .turn 3 { elapsed := 30000 }, .turn 3 {}, .turn 3 { relay := .failed }, .turn 4 { elapsed := 30000 }]).any
      (fun reached => decide (Throughout (KeepsLimits 1) reached.1) && decide (attempts 1 reached.1 = 2)) = true := by
    decide +kernel
  obtain ⟨history, state, run, tested⟩ := replay_reaches passed
  simp only [Bool.and_eq_true, decide_eq_true_eq] at tested
  exact ⟨history, state, run, tested.2, link_limits_hold run tested.1⟩

/-- A user who cancels and asks for another code checks again at once. -/
theorem cancelled_cooldown_escaped :
    ∃ history state, LinkRun oneUser history state ∧ ¬ Throughout (Limited 1) history := by
  have passed : (replay linkServe linkCode ⟨oneUser, []⟩
      [.enter (.create 1 (some 10)), .enter (.check 1), .enter (.cancel 1), .enter (.create 1 (some 10)),
        .enter (.check 1), .turn 0 {}, .turn 0 {}, .turn 0 {}, .turn 0 {}, .turn 0 {}, .turn 1 {}, .turn 1 {},
        .turn 1 { relay := .loadouts (some []) }, .turn 1 {}, .turn 2 {}, .turn 3 {}, .turn 3 {}, .turn 3 {},
        .turn 3 {}, .turn 3 {}, .turn 4 {}]).any
      (fun reached => !decide (Throughout (Limited 1) reached.1)) = true := by
    decide +kernel
  obtain ⟨history, state, run, tested⟩ := replay_reaches passed
  simp only [Bool.not_eq_true', decide_eq_false_iff_not] at tested
  exact ⟨history, state, run, tested⟩

end PaladinsCat.Linking
