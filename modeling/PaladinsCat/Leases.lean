import PaladinsCat.LifecycleTables
import PaladinsCat.Completion

/-!
The lease of a match. Five operations name an owner: `claim` asks whether the lease is
free, has run out or is its own, three others whether it is their own and has not run
out, and `release` only whether it is their own. While an owner holds the lease, all of
them leave the row and its participants alone for any other owner.
-/

namespace PaladinsCat.Backend

open Interleaving

variable {Rating : Type} {glicko : Glicko Rating}

/-- The match and the owner that an operation names. -/
def LifecycleOp.ownedBy : LifecycleOp → Option (Int × String)
  | .backend (.claim matchId _ owner _) => some (matchId, owner)
  | .backend (.checkpoint matchId owner _) => some (matchId, owner)
  | .backend (.release matchId owner) => some (matchId, owner)
  | .backend (.completeIfDurable matchId owner) => some (matchId, owner)
  | .replaceParticipantAnchors matchId owner _ => some (matchId, owner)
  | _ => none

/-- The operation has found the lease in its owner's hands, or got it for him. -/
def LifecycleOp.took : (op : LifecycleOp) → op.Result → Bool
  | .backend (.claim _ _ _ _) => fun row : Option IngestRow => row.isSome
  | .backend (.checkpoint _ _ _) => fun updated : Bool => updated
  | .backend (.release _ _) => fun updated : Bool => updated
  | .backend (.completeIfDurable _ _) => fun updated : Bool => updated
  | .replaceParticipantAnchors _ _ _ => fun owned : Bool => owned
  | _ => fun _ => false

def LifecycleOp.succeeded (op : LifecycleOp) (reply : op.Reply) : Bool :=
  match reply with
  | .error _ => false
  | .ok result => op.took result

/-- The owner has the lease of the match, and it runs beyond this time. -/
def HoldsLease (tables : LifecycleStore Rating) (matchId : Int) (owner : String) (now : Int) : Prop :=
  ∃ row, tables.store.ingest matchId = some row ∧ row.leasedTo owner now = true

/-- Neither the row of the match nor its participants are different. -/
def SameMatch (before after : LifecycleStore Rating) (matchId : Int) : Prop :=
  after.store.ingest matchId = before.store.ingest matchId ∧ after.participants matchId = before.participants matchId

theorem SameMatch.trans {first middle last : LifecycleStore Rating} {matchId : Int}
    (earlier : SameMatch first middle matchId) (later : SameMatch middle last matchId) :
    SameMatch first last matchId :=
  ⟨later.1.trans earlier.1, later.2.trans earlier.2⟩

/-! ### What a lease says -/

theorem leasedTo_iff {row : IngestRow} {owner : String} {now : Int} :
    row.leasedTo owner now = true ↔
      row.leaseOwner = some owner ∧ ∃ deadline, row.leaseUntil = some deadline ∧ now < deadline := by
  simp [IngestRow.leasedTo, Option.any_eq_true]

theorem leasedTo_unique {row : IngestRow} {first second : String} {now later : Int}
    (one : row.leasedTo first now = true) (other : row.leasedTo second later = true) : first = second := by
  have same := (leasedTo_iff.mp one).1.symm.trans (leasedTo_iff.mp other).1
  exact Option.some.inj same

theorem HoldsLease.unique {tables : LifecycleStore Rating} {matchId now later : Int} {first second : String}
    (one : HoldsLease tables matchId first now) (other : HoldsLease tables matchId second later) :
    first = second := by
  obtain ⟨row, stored, leased⟩ := one
  obtain ⟨same, found, owned⟩ := other
  cases stored.symm.trans found
  exact leasedTo_unique leased owned

theorem HoldsLease.earlier {tables : LifecycleStore Rating} {matchId now later : Int} {owner : String}
    (holds : HoldsLease tables matchId owner later) (before : now ≤ later) : HoldsLease tables matchId owner now := by
  obtain ⟨row, stored, leased⟩ := holds
  obtain ⟨owned, deadline, ends, unexpired⟩ := leasedTo_iff.mp leased
  exact ⟨row, stored, leasedTo_iff.mpr ⟨owned, deadline, ends, before.trans_lt unexpired⟩⟩

section Others
variable {row : IngestRow} {owner other : String} {now : Int} (leased : row.leasedTo owner now = true)
  (differs : other ≠ owner)
include leased differs

theorem leasedTo_other (later : Int) : row.leasedTo other later = false := by
  cases owned : row.leasedTo other later with
  | false => rfl
  | true => exact absurd (leasedTo_unique owned leased) differs

theorem claimedRow_refused (source : String) (leaseSeconds : Int) :
    claimedRow now source other leaseSeconds (some row) = none := by
  obtain ⟨owned, deadline, ends, unexpired⟩ := leasedTo_iff.mp leased
  simp [claimedRow, owned, ends, unexpired, Ne.symm differs]

theorem checkpointRow_refused (checkpoint : MatchCheckpoint) : checkpointRow now other checkpoint row = none := by
  simp [checkpointRow, leasedTo_other leased differs]

theorem releaseRow_refused : releaseRow other row = none := by
  simp [releaseRow, (leasedTo_iff.mp leased).1, Ne.symm differs]

theorem completeRow_refused : completeRow now other row = none := by
  simp [completeRow, leasedTo_other leased differs]

end Others

/-! ### One step -/

theorem updateIngest_refused {store : Store Rating} {matchId : Int} {change : IngestRow → Option IngestRow}
    {row : IngestRow} (stored : store.ingest matchId = some row) (refused : change row = none) :
    store.updateIngest matchId change = store ∧ updates store matchId change = false := by
  simp [Store.updateIngest, updates, stored, refused]

/-- Of another owner's operation, the holder of the lease sees nothing. -/
theorem lease_step {before after : LifecycleStore Rating} {op : LifecycleOp} {reply : op.Reply}
    (served : (lifecycleServe glicko).handler before op reply after) {matchId : Int} {owner other : String}
    (holds : HoldsLease before matchId owner after.clock) (named : op.ownedBy = some (matchId, other))
    (differs : other ≠ owner) : SameMatch before after matchId ∧ op.succeeded reply = false := by
  obtain ⟨row, stored, leased⟩ := holds
  obtain ⟨-, ⟨same, error, rfl⟩ | ⟨outside, result, changed, now, effected, same, replied⟩⟩ :=
    lifecycle_served served
  · rw [same]
    exact ⟨⟨rfl, rfl⟩, rfl⟩
  · rw [← now] at leased
    have harmless : changed = before ∧ op.took result = false := by
      unfold LifecycleOp.ownedBy at named
      split at named
      · cases named
        have refused := claimedRow_refused leased differs
        simp only [lifecycleEffect, effect, claimMatch, stored, refused] at effected
        cases effected
        exact ⟨rfl, rfl⟩
      · cases named
        cases effected
        obtain ⟨kept, missed⟩ := updateIngest_refused stored (checkpointRow_refused leased differs _)
        exact ⟨congrArg (fun store => { before with store }) kept, missed⟩
      · cases named
        cases effected
        obtain ⟨kept, missed⟩ := updateIngest_refused stored (releaseRow_refused leased differs)
        exact ⟨congrArg (fun store => { before with store }) kept, missed⟩
      · cases named
        cases effected
        obtain ⟨kept, missed⟩ := updateIngest_refused stored (completeRow_refused leased differs)
        exact ⟨congrArg (fun store => { before with store }) kept, missed⟩
      · cases named
        simp only [lifecycleEffect, replaceParticipantAnchors, stored, Option.any_some,
          leasedTo_other leased differs, Bool.false_eq_true, if_false] at effected
        cases effected
        exact ⟨rfl, rfl⟩
      · cases named
    obtain ⟨rfl, missed⟩ := harmless
    rw [same]
    refine ⟨⟨rfl, rfl⟩, ?_⟩
    rcases replied with rfl | ⟨error, rfl⟩
    · exact missed
    · rfl

/-- An operation that names another match does not touch this one. -/
theorem lease_frame {before after : LifecycleStore Rating} {op : LifecycleOp} {reply : op.Reply}
    (served : (lifecycleServe glicko).handler before op reply after) {matchId other : Int} {owner : String}
    (named : op.ownedBy = some (other, owner)) (differs : matchId ≠ other) : SameMatch before after matchId := by
  obtain ⟨-, ⟨same, -⟩ | ⟨outside, result, changed, -, effected, same, -⟩⟩ := lifecycle_served served
  · rw [same]
    exact ⟨rfl, rfl⟩
  · have apart : ∀ change, (before.store.updateIngest other change).ingest matchId = before.store.ingest matchId := by
      intro change
      rw [Store.updateIngest_eq]
      exact Function.update_of_ne differs _ _
    have untouched : SameMatch before changed matchId := by
      unfold LifecycleOp.ownedBy at named
      split at named
      · cases named
        cases effected
        refine ⟨?_, rfl⟩
        simp only [effect, claimMatch]
        split
        · exact Function.update_of_ne differs _ _
        · rfl
      · cases named
        cases effected
        exact ⟨apart _, rfl⟩
      · cases named
        cases effected
        exact ⟨apart _, rfl⟩
      · cases named
        cases effected
        exact ⟨apart _, rfl⟩
      · cases named
        simp only [lifecycleEffect, replaceParticipantAnchors] at effected
        split_ifs at effected
        · cases effected
          exact ⟨rfl, Function.update_of_ne differs _ _⟩
        · cases effected
          exact ⟨rfl, rfl⟩
      · cases named
    rw [same]
    exact untouched

/-! ### Any interleaving -/

theorem clock_reached {start : LifecycleStore Rating} {history : List (LifecycleTurn Rating)}
    {state : State (LifecycleStore Rating) LifecycleOp LifecycleOp.Reply (Σ op : LifecycleOp, op.Reply)}
    (run : LifecycleRun glicko start history state) :
    ∀ turn ∈ history, turn.after.clock ≤ state.shared.clock := by
  apply run_history (fun history (tables : LifecycleStore Rating) =>
    ∀ turn ∈ history, turn.after.clock ≤ tables.clock) _ run
  · simp
  · intro history turn reached served earlier member
    rcases List.mem_append.mp member with member | here
    · exact (reached earlier member).trans (lifecycle_served served).1
    · rw [List.mem_singleton.mp here]

/-- In every run: while an owner has a lease that has not run out, an operation of
another owner on the match neither succeeds nor changes the row or the participants;
so both stay as they are as long as only others, or others' matches, are at work and
the lease has not run out; and no two owners hold the lease at once. -/
theorem lease_exclusive {start : LifecycleStore Rating} {history : List (LifecycleTurn Rating)}
    {state : State (LifecycleStore Rating) LifecycleOp LifecycleOp.Reply (Σ op : LifecycleOp, op.Reply)}
    (run : LifecycleRun glicko start history state) :
    (∀ turn ∈ history, ∀ matchId owner other, HoldsLease turn.before matchId owner turn.after.clock →
      turn.op.ownedBy = some (matchId, other) → other ≠ owner →
        SameMatch turn.before turn.after matchId ∧ turn.op.succeeded turn.reply = false) ∧
    (∀ earlier turn later, history = earlier ++ turn :: later → ∀ matchId owner,
      HoldsLease turn.before matchId owner state.shared.clock →
      (∀ next ∈ turn :: later, ∃ id other, next.op.ownedBy = some (id, other) ∧ (id = matchId → other ≠ owner)) →
        SameMatch turn.before state.shared matchId) ∧
    ∀ matchId now first second, HoldsLease state.shared matchId first now →
      HoldsLease state.shared matchId second now → first = second := by
  refine ⟨?_, ?_, ?_⟩
  · exact fun turn member matchId owner other holds named differs =>
      lease_step (run_turn run member).1 holds named differs
  · intro earlier turn later split matchId owner holds others
    apply run_from (fun tables => SameMatch turn.before tables matchId) run split ⟨rfl, rfl⟩
    intro next member same served
    have reached := clock_reached run next (split ▸ List.mem_append_right _ member)
    have still : HoldsLease next.before matchId owner next.after.clock := by
      obtain ⟨row, stored, leased⟩ := holds
      exact HoldsLease.earlier ⟨row, same.1.trans stored, leased⟩ reached
    obtain ⟨id, other, named, differs⟩ := others next member
    by_cases here : id = matchId
    · subst here
      exact same.trans (lease_step served still named (differs rfl)).1
    · exact same.trans (lease_frame served named (Ne.symm here))
  · exact fun matchId now first second one other => one.unique other

/-- A second owner comes too early, and has the lease once it has run out; then the
first one comes too late. -/
theorem lease_taken_after_expiry :
    ∃ history state, LifecycleRun pointGlicko { store := blank } history state ∧
      history.map (fun turn => turn.op.succeeded turn.reply) = [true, false, false, true, false, false] ∧
      ∀ turn ∈ history, ∀ matchId owner other, HoldsLease turn.before matchId owner turn.after.clock →
        turn.op.ownedBy = some (matchId, other) → other ≠ owner →
          SameMatch turn.before turn.after matchId ∧ turn.op.succeeded turn.reply = false := by
  have passed : (replay (lifecycleServe pointGlicko) lifecycleCode ⟨{ store := blank }, []⟩
      [.enter (.backend (.claim 7 "direct_lookup" "first" 60)), .turn 0 {},
        .enter (.backend (.claim 7 "direct_lookup" "second" 60)), .turn 1 { now := 59 },
        .enter (.replaceParticipantAnchors 7 "second" []), .turn 2 { now := 59 },
        .enter (.backend (.claim 7 "direct_lookup" "second" 60)), .turn 3 { now := 60 },
        .enter (.backend (.release 7 "first")), .turn 4 { now := 61 },
        .enter (.replaceParticipantAnchors 7 "first" []), .turn 5 { now := 61 }]).any
      (fun reached => reached.1.map (fun turn => turn.op.succeeded turn.reply) ==
        [true, false, false, true, false, false]) = true := by decide +kernel
  obtain ⟨history, state, run, tested⟩ := replay_reaches passed
  exact ⟨history, state, run, by simpa using tested, (lease_exclusive run).1⟩

end PaladinsCat.Backend
