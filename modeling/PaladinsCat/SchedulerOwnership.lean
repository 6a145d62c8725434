import PaladinsCat.Coordination

/-!
Who owns a scheduler. An owner that has acquired a key, or whose heartbeat has found its
row, keeps others away until the end of that lease, unless it releases the key or itself
asks for a lease that ends earlier: a renewal replaces the lease, it does not extend it.
-/

namespace PaladinsCat.Coordination

open Interleaving

/-! ### What a statement does to the row of one key -/

/-- The owner, as the table keeps it, that a statement acquires the key for. -/
def CoordinationOp.acquirer (key : String) : CoordinationOp → Option String
  | .acquire other owner _ => if other = key then some (varchar 120 owner) else none
  | .acquireAll owner _ => if key ∈ schedulerKeys then some (varchar 120 owner) else none
  | _ => none

def CoordinationOp.beater (key : String) : CoordinationOp → Option String
  | .heartbeat other owner _ => if other = key then some (varchar 120 owner) else none
  | .heartbeatAll owner _ => if key ∈ schedulerKeys then some owner else none
  | _ => none

def CoordinationOp.releaser (key : String) : CoordinationOp → Option String
  | .release other owner => if other = key then some owner else none
  | .releaseAll owner => if key ∈ schedulerKeys then some owner else none
  | _ => none

/-- The length of the lease that a statement asks for. -/
def CoordinationOp.seconds : CoordinationOp → Nat
  | .acquire _ _ seconds | .acquireAll _ seconds | .heartbeat _ _ seconds | .heartbeatAll _ seconds
  | .acquireJob _ _ _ seconds => seconds
  | _ => 0

inductive OwnershipMove (key : String) (now : Int) (before : Option Ownership) (op : CoordinationOp) :
    Option Ownership → Prop where
  | kept : OwnershipMove key now before op before
  | acquired {owner : String} {row : Ownership} (asks : op.acquirer key = some owner)
      (free : ∀ held, before = some held → held.leaseUntil ≤ now ∨ held.ownerId = owner)
      (owned : row.ownerId = owner ∧ row.engine = .rust)
      (leased : row.leaseUntil = leaseEnd now op.seconds ∧ row.heartbeatAt = now) : OwnershipMove key now before op (some row)
  | beaten {owner : String} {held row : Ownership} (asks : op.beater key = some owner) (found : before = some held)
      (own : held.ownerId = owner ∧ held.engine = .rust) (running : now < held.leaseUntil)
      (owned : row.ownerId = owner ∧ row.engine = .rust)
      (leased : row.leaseUntil = leaseEnd now op.seconds ∧ row.heartbeatAt = now) : OwnershipMove key now before op (some row)
  | released {owner : String} {held : Ownership} (asks : op.releaser key = some owner) (found : before = some held)
      (own : held.ownerId = owner) : OwnershipMove key now before op none

section Rows
variable {tables : Tables} {now : Int} {key owner : String} {seconds : Nat} {row : Ownership}

theorem acquired_row (got : acquired tables now key owner seconds = some row) :
    (∀ held, tables.ownership key = some held → held.leaseUntil ≤ now ∨ held.ownerId = varchar 120 owner) ∧
      (row.ownerId = varchar 120 owner ∧ row.engine = .rust) ∧
      row.leaseUntil = leaseEnd now seconds ∧ row.heartbeatAt = now := by
  simp only [acquired] at got
  split_ifs at got with assigned
  cases found : tables.ownership key with
  | none =>
      simp only [found, Option.some.injEq] at got
      subst got
      simp
  | some held =>
      simp only [found] at got
      split_ifs at got with free same <;> cases got <;> exact ⟨by simpa using free, ⟨rfl, rfl⟩, rfl, rfl⟩

theorem beaten_row (got : beaten tables now key owner seconds = some row) :
    ∃ held, tables.ownership key = some held ∧ (held.ownerId = owner ∧ held.engine = .rust) ∧ now < held.leaseUntil ∧
      (row.ownerId = owner ∧ row.engine = .rust) ∧ row.leaseUntil = leaseEnd now seconds ∧ row.heartbeatAt = now := by
  obtain ⟨held, found, updated⟩ := Option.bind_eq_some_iff.mp got
  split_ifs at updated with own
  cases updated
  exact ⟨held, found, ⟨own.1, own.2.1⟩, own.2.2.1, ⟨own.1, own.2.1⟩, rfl, rfl⟩

theorem ownedRow_iff : ownedRow tables key owner = true ↔
    ∃ held, tables.ownership key = some held ∧ held.ownerId = owner ∧ held.engine = .rust := by
  simp [ownedRow, Option.any_eq_true]

end Rows

/-! ### The loop over all keys -/

section Loop
variable {now : Int} {owner : String} {seconds : Nat}

theorem acquired_congr {tables other : Tables} {key : String} (assigned : other.assignments = tables.assignments)
    (same : other.ownership key = tables.ownership key) :
    acquired other now key owner seconds = acquired tables now key owner seconds := by
  simp only [acquired, assigned, same]

theorem acquireEach_kept (tables : Tables) {keys : List String} {key : String} (absent : key ∉ keys) :
    (acquireEach now owner seconds tables keys).1.ownership key = tables.ownership key := by
  induction keys generalizing tables with
  | nil => rfl
  | cons first rest ih =>
      obtain ⟨apart, later⟩ := not_or.mp (List.mem_cons.not.mp absent)
      simp only [acquireEach]
      cases acquired tables now first owner seconds with
      | none => exact ih tables later
      | some row => simpa [Tables.withOwnership, Function.update_of_ne apart] using ih (tables.withOwnership first row) later

theorem acquireEach_count_le {tables : Tables} {keys : List String} :
    (acquireEach now owner seconds tables keys).2 ≤ keys.length := by
  induction keys generalizing tables with
  | nil => exact le_rfl
  | cons first rest ih =>
      simp only [acquireEach]
      cases acquired tables now first owner seconds with
      | none => exact ih.trans (Nat.le_succ _)
      | some row => exact Nat.succ_le_succ ih

/-- If the loop gets all keys, it has got each one as it would have alone. -/
theorem acquireEach_all {tables : Tables} {keys : List String} (distinct : keys.Nodup)
    (all : (acquireEach now owner seconds tables keys).2 = keys.length) {key : String} (listed : key ∈ keys) :
    ∃ row, acquired tables now key owner seconds = some row ∧
      (acquireEach now owner seconds tables keys).1.ownership key = some row := by
  induction keys generalizing tables with
  | nil => cases listed
  | cons first rest ih =>
      obtain ⟨absent, distinct⟩ := List.nodup_cons.mp distinct
      simp only [acquireEach] at all ⊢
      cases got : acquired tables now first owner seconds with
      | none =>
          simp only [got, List.length_cons] at all
          have bound : (acquireEach now owner seconds tables rest).2 ≤ rest.length := acquireEach_count_le
          omega
      | some row =>
          simp only [got, List.length_cons, Nat.add_right_cancel_iff] at all
          rcases List.mem_cons.mp listed with rfl | later
          · refine ⟨row, got, ?_⟩
            rw [acquireEach_kept _ absent]
            simp [Tables.withOwnership]
          · have apart : key ≠ first := fun same => absent (same ▸ later)
            obtain ⟨other, taken, stored⟩ := ih distinct all later
            have alone : acquired (tables.withOwnership first row) now key owner seconds = acquired tables now key owner seconds :=
              acquired_congr rfl (by simp [Tables.withOwnership, Function.update_of_ne apart])
            exact ⟨other, alone.symm.trans taken, stored⟩

end Loop

theorem execute_moves (tables : Tables) (now : Int) (key : String) (op : CoordinationOp) :
    OwnershipMove key now (tables.ownership key) op ((execute tables now op).2.ownership key) := by
  cases op with
  | acquire other owner seconds =>
      simp only [execute]
      cases got : acquired tables now other owner seconds with
      | none => exact .kept
      | some row =>
          by_cases same : other = key
          · subst same
            obtain ⟨free, owned, leased⟩ := acquired_row got
            simp only [Tables.withOwnership, Function.update_self]
            exact .acquired (if_pos rfl) free owned leased
          · simp only [Tables.withOwnership, Function.update_of_ne (Ne.symm same)]
            exact .kept
  | acquireAll owner seconds =>
      simp only [execute]
      split_ifs with partly
      · exact .kept
      · by_cases listed : key ∈ schedulerKeys
        · obtain ⟨row, got, stored⟩ := acquireEach_all (by decide) (not_not.mp partly) listed
          obtain ⟨free, owned, leased⟩ := acquired_row got
          rw [stored]
          exact .acquired (if_pos listed) free owned leased
        · rw [acquireEach_kept _ listed]
          exact .kept
  | heartbeat other owner seconds =>
      simp only [execute]
      cases got : beaten tables now other (varchar 120 owner) seconds with
      | none => exact .kept
      | some row =>
          by_cases same : other = key
          · subst same
            obtain ⟨held, found, own, running, owned, leased⟩ := beaten_row got
            simp only [Tables.withOwnership, Function.update_self]
            exact .beaten (if_pos rfl) found own running owned leased
          · simp only [Tables.withOwnership, Function.update_of_ne (Ne.symm same)]
            exact .kept
  | heartbeatAll owner seconds =>
      simp only [execute]
      split_ifs with listed
      · cases got : beaten tables now key owner seconds with
        | none => exact .kept
        | some row =>
            obtain ⟨held, found, own, running, owned, leased⟩ := beaten_row got
            exact .beaten (if_pos listed) found own running owned leased
      · exact .kept
  | release other owner =>
      simp only [execute]
      split_ifs with owned
      · by_cases same : other = key
        · subst same
          obtain ⟨held, found, own, -⟩ := ownedRow_iff.mp owned
          simp only [Tables.withOwnership, Function.update_self]
          exact .released (if_pos rfl) found own
        · simp only [Tables.withOwnership, Function.update_of_ne (Ne.symm same)]
          exact .kept
      · exact .kept
  | releaseAll owner =>
      simp only [execute]
      split_ifs with owned
      · obtain ⟨held, found, own, -⟩ := ownedRow_iff.mp owned.2
        exact .released (if_pos owned.1) found own
      · exact .kept
  | assign other engine => exact .kept
  | acquireJob job scheduler owner seconds =>
      simp only [execute]
      cases acquiredJob tables now job scheduler owner seconds <;> exact .kept
  | releaseJob lease =>
      simp only [execute]
      split_ifs <;> exact .kept

/-! ### Steps -/

section Served
variable {before after : Tables} {op : CoordinationOp} {reply : op.Reply}

/-- An answered, lost or rolled back statement, at its times. -/
theorem serve_cases (served : serve.handler before op reply after) :
    ∃ now, now ≤ after.clock ∧ before.clock ≤ after.clock ∧
      (reply = .error () ∧ after = { before with clock := after.clock } ∨
        (reply = .ok (execute before now op).1 ∨ reply = .error ()) ∧
          after = { (execute before now op).2 with clock := after.clock }) := by
  obtain ⟨outside, served⟩ := served
  simp only [serve] at served
  split_ifs at served with early
  obtain ⟨forward, past⟩ := not_or.mp early
  cases fate : outside.fate with
  | answered =>
      simp only [fate] at served
      cases served
      exact ⟨outside.now, not_lt.mp past, not_lt.mp forward, Or.inr ⟨Or.inl rfl, rfl⟩⟩
  | rolledBack =>
      simp only [fate] at served
      cases served
      exact ⟨outside.now, not_lt.mp past, not_lt.mp forward, Or.inl ⟨rfl, rfl⟩⟩
  | unacknowledged =>
      simp only [fate] at served
      cases served
      exact ⟨outside.now, not_lt.mp past, not_lt.mp forward, Or.inr ⟨Or.inr rfl, rfl⟩⟩

theorem ownership_moves (served : serve.handler before op reply after) (key : String) :
    ∃ now ≤ after.clock, OwnershipMove key now (before.ownership key) op (after.ownership key) := by
  obtain ⟨now, past, -, ⟨-, same⟩ | ⟨-, same⟩⟩ := serve_cases served
  · refine ⟨now, past, ?_⟩
    rw [same]
    exact .kept
  · refine ⟨now, past, ?_⟩
    rw [same]
    exact execute_moves before now key op

theorem clock_forward (served : serve.handler before op reply after) : before.clock ≤ after.clock := by
  obtain ⟨now, -, forward, -⟩ := serve_cases served
  exact forward

end Served

/-! ### Leases that were granted -/

/-- The result by which a call returns true. -/
def CoordinationOp.affirms : (op : CoordinationOp) → op.Result → Bool
  | .acquire _ _ _, taken | .acquireAll _ _, taken | .acquireJob _ _ _ _, taken => (taken : Bool)
  | .heartbeat _ _ _, updated => (updated : Nat) == 1
  | .heartbeatAll _ _, updated => (updated : Nat) == schedulerKeys.length
  | _, _ => false

def CoordinationOp.succeeds (op : CoordinationOp) : op.Reply → Bool
  | .ok result => op.affirms result
  | .error _ => false

/-- An acquisition or a heartbeat of the key for this owner has returned true. -/
def Renews {α : Type} (key owner : String) (turn : Turn Tables CoordinationOp CoordinationOp.Reply α) : Prop :=
  (turn.op.acquirer key = some owner ∨ turn.op.beater key = some owner) ∧ turn.op.succeeds turn.reply = true

theorem execute_renews {tables : Tables} {now : Int} {op : CoordinationOp} {key owner : String}
    (asks : op.acquirer key = some owner ∨ op.beater key = some owner) (done : op.affirms (execute tables now op).1 = true) :
    ∃ row, (execute tables now op).2.ownership key = some row ∧ row.ownerId = owner ∧
      row.leaseUntil = leaseEnd now op.seconds ∧ row.heartbeatAt = now := by
  cases op with
  | acquire other name seconds =>
      simp only [CoordinationOp.acquirer, CoordinationOp.beater, reduceCtorEq, or_false, Option.ite_none_right_eq_some,
        Option.some.injEq] at asks
      obtain ⟨rfl, rfl⟩ := asks
      simp only [execute] at done ⊢
      cases got : acquired tables now other name seconds with
      | none => simp [got, CoordinationOp.affirms] at done
      | some row =>
          obtain ⟨-, owned, leased⟩ := acquired_row got
          exact ⟨row, by simp [Tables.withOwnership], owned.1, leased⟩
  | acquireAll name seconds =>
      simp only [CoordinationOp.acquirer, CoordinationOp.beater, reduceCtorEq, or_false, Option.ite_none_right_eq_some,
        Option.some.injEq] at asks
      obtain ⟨listed, rfl⟩ := asks
      simp only [execute] at done ⊢
      by_cases partly : (acquireEach now name seconds tables schedulerKeys).2 ≠ schedulerKeys.length
      · simp [partly, CoordinationOp.affirms] at done
      · obtain ⟨row, got, stored⟩ := acquireEach_all (by decide) (not_not.mp partly) listed
        obtain ⟨-, owned, leased⟩ := acquired_row got
        rw [if_neg partly]
        exact ⟨row, stored, owned.1, leased⟩
  | heartbeat other name seconds =>
      simp only [CoordinationOp.acquirer, CoordinationOp.beater, reduceCtorEq, false_or, Option.ite_none_right_eq_some,
        Option.some.injEq] at asks
      obtain ⟨rfl, rfl⟩ := asks
      simp only [execute] at done ⊢
      cases got : beaten tables now other (varchar 120 name) seconds with
      | none => simp [got, CoordinationOp.affirms] at done
      | some row =>
          obtain ⟨-, -, -, -, owned, leased⟩ := beaten_row got
          exact ⟨row, by simp [Tables.withOwnership], owned.1, leased⟩
  | heartbeatAll name seconds =>
      simp only [CoordinationOp.acquirer, CoordinationOp.beater, reduceCtorEq, false_or, Option.ite_none_right_eq_some,
        Option.some.injEq] at asks
      obtain ⟨listed, rfl⟩ := asks
      have all := List.countP_eq_length.mp (beq_iff_eq.mp done) key listed
      obtain ⟨row, got⟩ := Option.isSome_iff_exists.mp all
      obtain ⟨-, -, -, -, owned, leased⟩ := beaten_row got
      exact ⟨row, by simp [execute, listed, got], owned.1, leased⟩
  | release | releaseAll | assign | acquireJob | releaseJob => simp [CoordinationOp.acquirer, CoordinationOp.beater] at asks

section Runs
variable {α Call : Type} {code : Call → CoordinationProgram α} {start : State Tables CoordinationOp CoordinationOp.Reply α}
  {turn : Turn Tables CoordinationOp CoordinationOp.Reply α} {key owner : String}

theorem renewed_row (served : serve.handler turn.before turn.op turn.reply turn.after) (renews : Renews key owner turn) :
    ∃ row, turn.after.ownership key = some row ∧ row.ownerId = owner ∧
      row.leaseUntil = leaseEnd row.heartbeatAt turn.op.seconds ∧ row.heartbeatAt ≤ turn.after.clock := by
  obtain ⟨asks, done⟩ := renews
  obtain ⟨now, past, -, ⟨failed, -⟩ | ⟨answered | lost, same⟩⟩ := serve_cases served
  · rw [failed] at done
    cases done
  · rw [answered] at done
    obtain ⟨row, stored, owned, leased, beat⟩ := execute_renews asks done
    refine ⟨row, ?_, owned, by rw [leased, beat], beat ▸ past⟩
    rw [same]
    exact stored
  · rw [lost] at done
    cases done

/-- The key is this owner's, at least until then. -/
def HeldUntil (key owner : String) (deadline : Int) (tables : Tables) : Prop :=
  ∃ row, tables.ownership key = some row ∧ row.ownerId = owner ∧ deadline ≤ row.leaseUntil

/-- The owner lets the key go before that time: it releases it, or replaces its lease by one that ends earlier. -/
def GivesUp (key owner : String) (deadline : Int) (turn : Turn Tables CoordinationOp CoordinationOp.Reply α) : Prop :=
  turn.op.releaser key = some owner ∨
    ((turn.op.acquirer key = some owner ∨ turn.op.beater key = some owner) ∧
      ∃ row, turn.after.ownership key = some row ∧ row.leaseUntil < deadline)

theorem held_step {deadline : Int} (served : serve.handler turn.before turn.op turn.reply turn.after)
    (held : HeldUntil key owner deadline turn.before) (keeps : ¬ GivesUp key owner deadline turn) :
    HeldUntil key owner deadline turn.after ∨ deadline ≤ turn.after.clock := by
  obtain ⟨row, stored, own, late⟩ := held
  obtain ⟨now, past, moved⟩ := ownership_moves served key
  generalize result : turn.after.ownership key = last at moved
  rw [stored] at moved
  obtain ⟨away, short⟩ := not_or.mp keeps
  cases moved with
  | kept => exact Or.inl ⟨row, result, own, late⟩
  | @acquired other fresh asks free owned leased =>
      by_cases same : other = owner
      · subst same
        have longer : deadline ≤ fresh.leaseUntil := by
          by_contra shorter
          exact short ⟨Or.inl asks, fresh, result, not_le.mp shorter⟩
        exact Or.inl ⟨fresh, result, owned.1, longer⟩
      · rcases free row rfl with expired | mine
        · exact Or.inr (late.trans (expired.trans past))
        · exact absurd (mine.symm.trans own) same
  | @beaten other held fresh asks found mine running owned leased =>
      cases found
      obtain rfl : other = owner := mine.1.symm.trans own
      have longer : deadline ≤ fresh.leaseUntil := by
        by_contra shorter
        exact short ⟨Or.inr asks, fresh, result, not_le.mp shorter⟩
      exact Or.inl ⟨fresh, result, owned.1, longer⟩
  | @released other held asks found mine =>
      cases found
      obtain rfl : other = owner := mine.symm.trans own
      exact absurd asks away

/-- As long as its owner does not let it go, the key is its own, or the time has come. -/
theorem held_along {history : List (Turn Tables CoordinationOp CoordinationOp.Reply α)}
    {state : State Tables CoordinationOp CoordinationOp.Reply α}
    (run : Run serve.handler code start history state)
    {earlier middle : List (Turn Tables CoordinationOp CoordinationOp.Reply α)} {deadline : Int}
    (split : history = earlier ++ turn :: middle) (held : HeldUntil key owner deadline turn.after)
    (keeps : ∀ next ∈ middle, ¬ GivesUp key owner deadline next) :
    HeldUntil key owner deadline state.shared ∨ deadline ≤ state.shared.clock := by
  induction run generalizing middle with
  | refl => simp at split
  | enter _ _ ih => exact ih split keeps
  | @turn history state after op _ _ task _ reply answered ih =>
      rcases append_singleton_split split with ⟨rfl, -, rfl⟩ | ⟨front, rfl, same⟩
      · exact Or.inl held
      · have kept := ih same fun next member => keeps next (List.mem_append_left _ member)
        have last := keeps ⟨⟨state.shared, op, reply, after⟩, task, state.programs⟩ (by simp)
        rcases kept with still | over_
        · exact held_step answered still last
        · exact Or.inr (over_.trans (clock_forward answered))

end Runs

/-- The transaction for all keys has returned false. -/
def CoordinationOp.refusesAll : (op : CoordinationOp) → op.Reply → Bool
  | .acquireAll _ _, .ok taken => !taken
  | _, _ => false

theorem refused_kept {α : Type} {turn : Turn Tables CoordinationOp CoordinationOp.Reply α}
    (served : serve.handler turn.before turn.op turn.reply turn.after) (refused : turn.op.refusesAll turn.reply = true) :
    turn.after.ownership = turn.before.ownership := by
  obtain ⟨⟨before, op, reply, after⟩, task, programs⟩ := turn
  dsimp only at *
  cases op with
  | acquireAll owner seconds =>
      obtain ⟨now, -, -, ⟨failed, -⟩ | ⟨answered | lost, same⟩⟩ := serve_cases served
      · rw [failed] at refused
        cases refused
      · rw [same]
        rw [answered] at refused
        simp only [execute] at refused ⊢
        split_ifs at refused ⊢ with partly
        · rfl
        · cases refused
      · rw [lost] at refused
        cases refused
  | _ => cases reply <;> cases refused

theorem beaten_own {α : Type} {turn : Turn Tables CoordinationOp CoordinationOp.Reply α} {key owner : String}
    (served : serve.handler turn.before turn.op turn.reply turn.after) (beats : turn.op.beater key = some owner)
    (changed : turn.after.ownership key ≠ turn.before.ownership key) :
    ∃ held row, turn.before.ownership key = some held ∧ turn.after.ownership key = some row ∧ held.ownerId = owner ∧
      held.engine = .rust ∧ row.heartbeatAt < held.leaseUntil ∧ row.ownerId = owner := by
  obtain ⟨now, -, moved⟩ := ownership_moves served key
  have other : turn.op.acquirer key = none ∧ turn.op.releaser key = none := by
    cases asked : turn.op <;> rw [asked] at beats <;> first | exact ⟨rfl, rfl⟩ | cases beats
  generalize result : turn.after.ownership key = last at moved changed
  generalize stored : turn.before.ownership key = first at moved changed
  cases moved with
  | kept => exact absurd rfl changed
  | acquired asks => exact absurd (other.1.symm.trans asks) (by simp)
  | @beaten name held row asks found own running owned leased =>
      obtain rfl := Option.some.inj (asks.symm.trans beats)
      exact ⟨held, row, found, rfl, own.1, own.2, leased.2 ▸ running, owned.1⟩
  | released asks => exact absurd (other.2.symm.trans asks) (by simp)

section Claims
variable {start : Tables} {history : List CoordinationTurn} {state : CoordinationState}

/-- An owner whose acquisition or heartbeat of a key returned true keeps others from acquiring it until
the end of that lease, as long as it neither releases the key nor replaces the lease by one that ends
earlier. An acquisition of all keys that returns false changes none; a heartbeat changes only a row of
its own owner whose lease has not run out. -/
theorem scheduler_ownership_exclusive (run : Run serve.handler coordinationCode ⟨start, []⟩ history state) :
    (∀ earlier first middle second later, history = earlier ++ first :: (middle ++ second :: later) →
      ∀ key owner other, Renews key owner first →
        ∃ row, first.after.ownership key = some row ∧ row.ownerId = owner ∧
          row.leaseUntil = leaseEnd row.heartbeatAt first.op.seconds ∧
          ((∀ turn ∈ middle, ¬ GivesUp key owner row.leaseUntil turn) → second.op.acquirer key = some other →
            second.op.succeeds second.reply = true → other ≠ owner → row.leaseUntil ≤ second.after.clock)) ∧
    (∀ turn ∈ history, turn.op.refusesAll turn.reply = true → turn.after.ownership = turn.before.ownership) ∧
    ∀ turn ∈ history, ∀ key owner, turn.op.beater key = some owner →
      turn.after.ownership key ≠ turn.before.ownership key →
      ∃ held row, turn.before.ownership key = some held ∧ turn.after.ownership key = some row ∧ held.ownerId = owner ∧
        held.engine = .rust ∧ row.heartbeatAt < held.leaseUntil ∧ row.ownerId = owner := by
  refine ⟨?_, fun turn taken => refused_kept (run_turn run taken).1, fun turn taken key owner =>
    beaten_own (run_turn run taken).1⟩
  intro earlier first middle second later split key owner other renews
  have listed : first ∈ history := by simp [split]
  have served := (run_turn run listed).1
  obtain ⟨row, stored, own, leased, -⟩ := renewed_row served renews
  refine ⟨row, stored, own, leased, ?_⟩
  intro keeps asks done apart
  obtain ⟨answered, -, reached⟩ := run_split run (split.trans (List.append_assoc earlier (first :: middle) (second :: later)).symm)
  have stays : ¬ GivesUp key owner row.leaseUntil second := by
    rintro (away | ⟨mine | beat, -⟩)
    · cases op : second.op <;> rw [op] at asks away <;> first | cases asks | cases away
    · exact apart (Option.some.inj (asks.symm.trans mine))
    · cases op : second.op <;> rw [op] at asks beat <;> first | cases asks | cases beat
  rcases held_along reached rfl ⟨row, stored, own, le_rfl⟩ keeps with still | late
  · rcases held_step answered still stays with ⟨after, kept, his, -⟩ | late
    · obtain ⟨taken, same, theirs, -⟩ := renewed_row answered ⟨Or.inl asks, done⟩
      cases kept.symm.trans same
      exact absurd (theirs.symm.trans his) apart
    · exact late
  · exact late.trans (clock_forward answered)

end Claims

/-! ### Two owners -/

def rustAssigned : Tables := { assignments := fun _ => some .rust }

instance {α : Type} (key owner : String) (turn : Turn Tables CoordinationOp CoordinationOp.Reply α) :
    Decidable (Renews key owner turn) :=
  inferInstanceAs (Decidable (_ ∧ _))

/-- Owner `a` has got the key, and `b` has acquired it at the end, with these turns in between. -/
def Succession (first : CoordinationTurn) (second : CoordinationTurn) : Prop :=
  Renews "tier_stats" "a" first ∧ second.op.acquirer "tier_stats" = some "b" ∧ second.op.succeeds second.reply = true

instance (first second : CoordinationTurn) : Decidable (Succession first second) :=
  inferInstanceAs (Decidable (_ ∧ _ ∧ _))

def firstAndLast (holds : CoordinationTurn → CoordinationTurn → Bool) (length : Nat) (turns : List CoordinationTurn) : Bool :=
  decide (turns.length = length + 2) && turns.head?.any fun first => turns.getLast?.any fun last => holds first last

theorem firstAndLast_split {holds : CoordinationTurn → CoordinationTurn → Bool} {length : Nat} {turns : List CoordinationTurn}
    (tested : firstAndLast holds length turns = true) :
    ∃ first middle last, turns = first :: (middle ++ [last]) ∧ middle.length = length ∧ holds first last = true := by
  simp only [firstAndLast, Bool.and_eq_true, decide_eq_true_eq, Option.any_eq_true] at tested
  obtain ⟨size, first, head, last, end_, fine⟩ := tested
  cases turns with
  | nil => cases head
  | cons one rest =>
      cases head
      rcases List.eq_nil_or_concat rest with rfl | ⟨middle, final, rfl⟩
      · simp at size
      · rw [List.concat_eq_append] at size end_ ⊢
        obtain rfl : final = last := by simpa [List.getLast?_cons] using end_
        exact ⟨first, middle, final, rfl, by simpa using size, fine⟩

/-- The lease of `a` has run out when `b` acquires the key. -/
theorem succession_after_the_lease :
    ∃ first second state, Run serve.handler coordinationCode ⟨rustAssigned, []⟩ [first, second] state ∧
      Succession first second ∧
      ∃ row, first.after.ownership "tier_stats" = some row ∧ row.leaseUntil ≤ second.after.clock := by
  have passed : (replay serve coordinationCode ⟨rustAssigned, []⟩
      [.enter (.acquireSchedulerOwner "tier_stats" "a" 60000000000), .turn 0 {},
        .enter (.acquireAllSchedulerOwners "b" 60000000000), .turn 1 { clock := 60000000, now := 60000000 }]).any
      (fun reached => firstAndLast (fun first last => decide (Succession first last)) 0 reached.1) = true := by
    decide +kernel
  obtain ⟨history, state, run, tested⟩ := replay_reaches passed
  obtain ⟨first, middle, second, rfl, size, found⟩ := firstAndLast_split tested
  obtain rfl := List.length_eq_zero_iff.mp size
  have succession := of_decide_eq_true found
  obtain ⟨row, stored, -, -, late⟩ := (scheduler_ownership_exclusive run).1 [] first [] second [] rfl
    "tier_stats" "a" "b" succession.1
  exact ⟨first, second, state, run, succession, row, stored,
    late (by simp) succession.2.1 succession.2.2 (by decide)⟩

/-- With a heartbeat for 60 seconds, `a` replaces the 300 seconds that it has started with: `b` acquires the
key 66 seconds after `a` got it, and `a` has not released it. -/
theorem heartbeat_shortens_the_startup_lease :
    ∃ first middle second state, Run serve.handler coordinationCode ⟨rustAssigned, []⟩ (first :: (middle ++ [second])) state ∧
      Succession first second ∧ (∀ turn ∈ middle, turn.op.releaser "tier_stats" = none) ∧
      second.after.clock < leaseEnd first.after.clock first.op.seconds := by
  have passed : (replay serve coordinationCode ⟨rustAssigned, []⟩
      [.enter (.acquireSchedulerOwner "tier_stats" "a" 300000000000), .turn 0 {},
        .enter (.heartbeatSchedulerOwner "tier_stats" "a" 60000000000), .turn 1 { clock := 5000000, now := 5000000 },
        .enter (.acquireSchedulerOwner "tier_stats" "b" 300000000000), .turn 2 { clock := 66000000, now := 66000000 }]).any
      (fun reached => firstAndLast (fun first last => decide (Succession first last ∧
        last.after.clock < leaseEnd first.after.clock first.op.seconds)) 1 reached.1 &&
        reached.1.all fun turn => (turn.op.releaser "tier_stats").isNone) = true := by
    decide +kernel
  obtain ⟨history, state, run, tested⟩ := replay_reaches passed
  obtain ⟨ends, unreleased⟩ := Bool.and_eq_true_iff.mp tested
  obtain ⟨first, middle, second, rfl, -, found⟩ := firstAndLast_split ends
  have early := of_decide_eq_true found
  refine ⟨first, middle, second, state, run, early.1, ?_, early.2⟩
  intro turn member
  exact Option.isNone_iff_eq_none.mp (List.all_eq_true.mp unreleased turn (by simp [member]))

end PaladinsCat.Coordination
