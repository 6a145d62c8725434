import Mathlib.Data.Finset.Card
import PaladinsCat.BackendStore
import PaladinsCat.Transactions

/-!
The likes of posts and builds (community.rs, builds.rs). Each toggle is one transaction: it looks
for the user's like and locks it, deletes or inserts it, moves the counter of the post or build,
and commits. The rows have a primary key, the counter is a column of its own.
-/

namespace PaladinsCat.Likes

open Interleaving Program Transactions
open Backend (Fate)

/-! ### The tables -/

inductive LikeTable where
  | posts
  | builds
  deriving DecidableEq

structure LikeTarget where
  table : LikeTable
  id : Int
  deriving DecidableEq

/-- A row of `user_post_likes` or `user_build_likes`. -/
structure LikeRow where
  user : Int
  target : LikeTarget
  deriving DecidableEq

structure LikeTables where
  rows : Finset LikeRow := ∅
  likes : LikeTarget → Option Int := fun _ => none

inductive LikeLock where
  | row (row : LikeRow)
  | counter (target : LikeTarget)
  deriving DecidableEq

abbrev LikeLock.Value : LikeLock → Type
  | .row _ => Bool
  | .counter _ => Option Int

def LikeLock.value (tables : LikeTables) : (lock : LikeLock) → lock.Value
  | .row wanted => decide (wanted ∈ tables.rows)
  | .counter target => tables.likes target

def likeGuard : Guard LikeTables LikeLock where
  Value := LikeLock.Value
  value := fun lock tables => lock.value tables

abbrev LikeDatabase : Type := Database likeGuard

def eraseRow (row : LikeRow) (tables : LikeTables) : LikeTables := { tables with rows := tables.rows.erase row }

def insertRow (row : LikeRow) (tables : LikeTables) : LikeTables := { tables with rows := insert row tables.rows }

def setLikes (target : LikeTarget) (count : Int) (tables : LikeTables) : LikeTables :=
  { tables with likes := Function.update tables.likes target (some count) }

theorem eraseRow_confined (row : LikeRow) (other : LikeLock) (apart : other ≠ .row row) (tables : LikeTables) :
    likeGuard.value other (eraseRow row tables) = likeGuard.value other tables := by
  cases other with
  | row other =>
      have distinct : other ≠ row := fun same => apart (by rw [same])
      simp [likeGuard, LikeLock.value, eraseRow, distinct]
  | counter target => rfl

theorem insertRow_confined (row : LikeRow) (other : LikeLock) (apart : other ≠ .row row) (tables : LikeTables) :
    likeGuard.value other (insertRow row tables) = likeGuard.value other tables := by
  cases other with
  | row other =>
      have distinct : other ≠ row := fun same => apart (by rw [same])
      simp [likeGuard, LikeLock.value, insertRow, distinct]
  | counter target => rfl

theorem setLikes_confined (target : LikeTarget) (count : Int) (other : LikeLock) (apart : other ≠ .counter target)
    (tables : LikeTables) : likeGuard.value other (setLikes target count tables) = likeGuard.value other tables := by
  cases other with
  | row other => rfl
  | counter other =>
      have distinct : other ≠ target := fun same => apart (by rw [same])
      exact Function.update_of_ne distinct _ _

def i32Max : Int := 2 ^ 31 - 1

/-- `i32::try_from(id).unwrap_or_default()`. -/
def clampId (id : Int) : Int := if -2 ^ 31 ≤ id ∧ id ≤ i32Max then id else 0

/-! ### Statements -/

inductive LikeOp where
  | findPost (id : Int)
  | begin
  | selectForUpdate (tx : Nat) (row : LikeRow)
  | delete (tx : Nat) (row : LikeRow)
  | insert (tx : Nat) (row : LikeRow) (onConflictDoNothing : Bool)
  | updateLikes (tx : Nat) (target : LikeTarget) (liked : Bool)
  | commit (tx : Nat)
  | rollback (tx : Nat)

abbrev LikeOp.Answer : LikeOp → Type
  | .findPost _ => Bool
  | .begin => Nat
  | .selectForUpdate _ _ => Bool
  | .delete _ _ => Nat
  | .insert _ _ _ => Nat
  | .updateLikes _ _ _ => Option Int
  | .commit _ => Unit
  | .rollback _ => Unit

abbrev LikeOp.Reply (op : LikeOp) : Type := Except String op.Answer

/-- `GREATEST(likes-1,0)` or `likes+1`. -/
def nextLikes (liked : Bool) (count : Int) : Int := if liked then count + 1 else max (count - 1) 0

def closed : String := "transaction is closed"

/-- What a statement does that is carried out; it waits where another transaction holds the lock. `SELECT … FOR
UPDATE` finds only rows that it can see, while `INSERT` also waits for a row that another transaction is inserting. -/
def likeStatement (db : LikeDatabase) : (op : LikeOp) → Option (op.Reply × LikeDatabase)
  | .findPost id => some (.ok (db.committed.likes ⟨.posts, id⟩).isSome, db)
  | .begin => some (.ok db.opened.length, db.begun)
  | .selectForUpdate tx row =>
      match db.find tx with
      | none => some (.error closed, db)
      | some held =>
          if row ∈ (db.view held).rows then
            if free : db.Free tx (.row row) then some (.ok true, db.acquire tx (.row row) free) else none
          else some (.ok false, db)
  | .delete tx row =>
      match db.find tx with
      | none => some (.error closed, db)
      | some held =>
          if free : db.Free tx (.row row) then
            some (.ok (if row ∈ (db.view held).rows then 1 else 0),
              db.write tx (.row row) free (eraseRow row) (eraseRow_confined row))
          else none
  | .insert tx row onConflictDoNothing =>
      match db.find tx with
      | none => some (.error closed, db)
      | some held =>
          if free : db.Free tx (.row row) then
            if row ∈ (db.view held).rows then
              some (if onConflictDoNothing then .ok 0 else .error "duplicate key value", db)
            else if ((db.view held).likes row.target).isSome then
              some (.ok 1, db.write tx (.row row) free (insertRow row) (insertRow_confined row))
            else some (.error "violates foreign key constraint", db)
          else none
  | .updateLikes tx target liked =>
      match db.find tx with
      | none => some (.error closed, db)
      | some held =>
          match (db.view held).likes target with
          | none => some (.ok none, db)
          | some count =>
              if free : db.Free tx (.counter target) then
                if nextLikes liked count ≤ i32Max then
                  some (.ok (some (nextLikes liked count)),
                    db.write tx (.counter target) free (setLikes target (nextLikes liked count)) (setLikes_confined target _))
                else some (.error "integer out of range", db)
              else none
  | .commit tx =>
      match db.find tx with
      | none => some (.error closed, db)
      | some held => some (.ok (), db.commit tx held)
  | .rollback tx => some (.ok (), db.close tx)

/-- How a statement ends, and which transactions the server gives up before it. -/
structure LikeOutside where
  fate : Fate := .committed
  aborted : List Nat := []

/-- A commit may fail before or after it took effect. -/
def likeServe : Service LikeDatabase LikeOp LikeOp.Reply LikeOutside :=
  fun before op outside =>
    let db := before.abortAll outside.aborted
    match outside.fate, op with
    | .committed, op => likeStatement db op
    | .rolledBack error, .commit tx => some (.error error, db.close tx)
    | .unacknowledged error, .commit tx =>
        match db.find tx with
        | none => some (.error error, db)
        | some held => some (.error error, db.commit tx held)
    | .rolledBack error, _ => some (.error error, db)
    | .unacknowledged error, _ => some (.error error, db)

/-! ### like_post and like -/

abbrev LikeProgram (α : Type) : Type := Program LikeOp LikeOp.Reply α

inductive LikeAnswer where
  | postNotFound
  | toggled (liked : Bool) (likes : Int)

/-- A transaction that is dropped is rolled back. -/
def withdraw (tx : Nat) (error : String) : LikeProgram (Except String LikeAnswer) := do
  let _ ← perform (LikeOp.rollback tx)
  return .error error

/-- The end of the transaction, once the like has been deleted or inserted. -/
def moveCounter (queryOne : Bool) (tx : Nat) (target : LikeTarget) (existing : Bool) :
    LikeProgram (Except String LikeAnswer) := do
  match ← perform (LikeOp.updateLikes tx target !existing) with
  | .error error => withdraw tx error
  | .ok row =>
      if queryOne && row.isNone then withdraw tx "query returned an unexpected number of rows"
      else
        match ← perform (LikeOp.commit tx) with
        | .error error => return .error error
        | .ok () => return .ok (.toggled (!existing) (row.getD 0))

/-- The transaction of both handlers. The one for posts ignores a conflict of its `INSERT` and insists on a row from
its `UPDATE`, the one for builds does neither. -/
def toggle (table : LikeTable) (onConflictDoNothing queryOne : Bool) (user id : Int) :
    LikeProgram (Except String LikeAnswer) := do
  match ← perform LikeOp.begin with
  | .error error => return .error error
  | .ok tx =>
      match ← perform (LikeOp.selectForUpdate tx ⟨user, ⟨table, id⟩⟩) with
      | .error error => withdraw tx error
      | .ok true =>
          match ← perform (LikeOp.delete tx ⟨user, ⟨table, id⟩⟩) with
          | .error error => withdraw tx error
          | .ok _ => moveCounter queryOne tx ⟨table, id⟩ true
      | .ok false =>
          match ← perform (LikeOp.insert tx ⟨user, ⟨table, clampId id⟩⟩ onConflictDoNothing) with
          | .error error => withdraw tx error
          | .ok _ => moveCounter queryOne tx ⟨table, id⟩ false

def likePost (user id : Int) : LikeProgram (Except String LikeAnswer) := do
  match ← perform (LikeOp.findPost id) with
  | .error error => return .error error
  | .ok false => return .ok .postNotFound
  | .ok true => toggle .posts true true user id

def like (user id : Int) : LikeProgram (Except String LikeAnswer) := toggle .builds false false user id

inductive LikeCall where
  | post (user id : Int)
  | build (user id : Int)

def likeCode : LikeCall → LikeProgram (Except String LikeAnswer)
  | .post user id => likePost user id
  | .build user id => like user id

abbrev LikeTurn : Type := Turn LikeDatabase LikeOp LikeOp.Reply (Except String LikeAnswer)

abbrev LikeState : Type := State LikeDatabase LikeOp LikeOp.Reply (Except String LikeAnswer)

abbrev LikeRun (start : LikeTables) (history : List LikeTurn) (state : LikeState) : Prop :=
  Run likeServe.handler likeCode ⟨{ committed := start }, []⟩ history state

/-- Each counter is the number of the rows of its post or build. -/
def Balanced (tables : LikeTables) : Prop :=
  ∀ target count, tables.likes target = some count → count = (tables.rows.filter fun row => row.target = target).card

/-- The row that an `INSERT` named, and how many it inserted. -/
def insertion : (op : LikeOp) → op.Reply → Option (Nat × LikeRow × Nat)
  | .insert tx row _, .ok inserted => some (tx, row, inserted)
  | _, _ => none

/-- The counter that an `UPDATE` raised. -/
def raised : (op : LikeOp) → Option (Nat × LikeTarget)
  | .updateLikes tx target true => some (tx, target)
  | _ => none

def committing : LikeOp → Option Nat
  | .commit tx => some tx
  | _ => none

/-- A transaction that commits has raised the counter for a row that it has inserted. -/
def CountsWhatItInserted (earlier : List LikeTurn) (turn : LikeTurn) : Prop :=
  ∀ tx ∈ committing turn.op, ∀ first ∈ earlier, ∀ named ∈ insertion first.op first.reply, named.1 = tx →
    named.2.2 ≠ 0 ∧ ∀ second ∈ earlier, ∀ counter ∈ raised second.op, counter.1 = tx → named.2.1.target = counter.2

instance (earlier : List LikeTurn) (turn : LikeTurn) : Decidable (CountsWhatItInserted earlier turn) :=
  inferInstanceAs (Decidable (∀ tx ∈ committing turn.op, ∀ first ∈ earlier,
    ∀ named ∈ insertion first.op first.reply, named.1 = tx →
      named.2.2 ≠ 0 ∧ ∀ second ∈ earlier, ∀ counter ∈ raised second.op, counter.1 = tx → named.2.1.target = counter.2))

/-! ### One step -/

/-- What a statement may do. -/
inductive LikeStep (db : LikeDatabase) : (op : LikeOp) → op.Reply → LikeDatabase → Prop where
  | failed (op : LikeOp) (error : String) : LikeStep db op (.error error) db
  | lost (tx : Nat) (error : String) : LikeStep db (.commit tx) (.error error) (db.close tx)
  | unheard {tx : Nat} {held : Transaction likeGuard} (found : db.find tx = some held) (error : String) :
      LikeStep db (.commit tx) (.error error) (db.commit tx held)
  | committed {tx : Nat} {held : Transaction likeGuard} (found : db.find tx = some held) :
      LikeStep db (.commit tx) (.ok ()) (db.commit tx held)
  | rolledBack (tx : Nat) : LikeStep db (.rollback tx) (.ok ()) (db.close tx)
  | searched (id : Int) (present : Bool) : LikeStep db (.findPost id) (.ok present) db
  | begun : LikeStep db .begin (.ok db.opened.length) db.begun
  | locked {tx : Nat} {row : LikeRow} {held : Transaction likeGuard} (found : db.find tx = some held)
      (visible : row ∈ (db.view held).rows) (free : db.Free tx (.row row)) :
      LikeStep db (.selectForUpdate tx row) (.ok true) (db.acquire tx (.row row) free)
  | unseen (tx : Nat) (row : LikeRow) : LikeStep db (.selectForUpdate tx row) (.ok false) db
  | deleted {tx : Nat} {row : LikeRow} {held : Transaction likeGuard} (found : db.find tx = some held)
      (free : db.Free tx (.row row)) (count : Nat) :
      LikeStep db (.delete tx row) (.ok count) (db.write tx (.row row) free (eraseRow row) (eraseRow_confined row))
  | skipped (tx : Nat) (row : LikeRow) (onConflictDoNothing : Bool) :
      LikeStep db (.insert tx row onConflictDoNothing) (.ok 0) db
  | inserted {tx : Nat} {row : LikeRow} {onConflictDoNothing : Bool} {held : Transaction likeGuard}
      (found : db.find tx = some held) (free : db.Free tx (.row row)) (absent : row ∉ (db.view held).rows)
      (references : ((db.view held).likes row.target).isSome) :
      LikeStep db (.insert tx row onConflictDoNothing) (.ok 1)
        (db.write tx (.row row) free (insertRow row) (insertRow_confined row))
  | unfound {tx : Nat} {target : LikeTarget} {liked : Bool} {held : Transaction likeGuard}
      (found : db.find tx = some held) (absent : (db.view held).likes target = none) :
      LikeStep db (.updateLikes tx target liked) (.ok none) db
  | counted {tx : Nat} {target : LikeTarget} {liked : Bool} {held : Transaction likeGuard} {count : Int}
      (found : db.find tx = some held) (present : (db.view held).likes target = some count)
      (free : db.Free tx (.counter target)) :
      LikeStep db (.updateLikes tx target liked) (.ok (some (nextLikes liked count)))
        (db.write tx (.counter target) free (setLikes target (nextLikes liked count)) (setLikes_confined target _))

theorem likeStatement_step {db after : LikeDatabase} {op : LikeOp} {reply : op.Reply}
    (carried : likeStatement db op = some (reply, after)) : LikeStep db op reply after := by
  cases op with
  | findPost id =>
      cases carried
      exact .searched id _
  | begin =>
      cases carried
      exact .begun
  | rollback tx =>
      cases carried
      exact .rolledBack tx
  | commit tx =>
      simp only [likeStatement] at carried
      split at carried <;> cases carried
      · exact .failed _ _
      · rename_i found
        exact .committed found
  | selectForUpdate tx row =>
      simp only [likeStatement] at carried
      split at carried
      · cases carried
        exact .failed _ _
      · rename_i found
        split_ifs at carried with visible free
        · cases carried
          exact .locked found visible free
        · cases carried
          exact .unseen tx row
  | delete tx row =>
      simp only [likeStatement] at carried
      split at carried
      · cases carried
        exact .failed _ _
      · rename_i found
        split_ifs at carried with free
        all_goals cases carried; exact .deleted found free _
  | insert tx row onConflictDoNothing =>
      simp only [likeStatement] at carried
      split at carried
      · cases carried
        exact .failed _ _
      · rename_i found
        split_ifs at carried with free present skip references
        · cases carried
          exact .skipped tx row _
        · cases carried
          exact .failed _ _
        · cases carried
          exact .inserted found free present references
        · cases carried
          exact .failed _ _
  | updateLikes tx target liked =>
      simp only [likeStatement] at carried
      split at carried
      · cases carried
        exact .failed _ _
      · rename_i found
        split at carried
        · rename_i absent
          cases carried
          exact .unfound found absent
        · rename_i present
          split_ifs at carried with free fits
          · cases carried
            exact .counted found present free
          · cases carried
            exact .failed _ _

theorem like_step {before after : LikeDatabase} {op : LikeOp} {reply : op.Reply}
    (served : likeServe.handler before op reply after) :
    ∃ ids, LikeStep (before.abortAll ids) op reply after := by
  obtain ⟨⟨fate, ids⟩, served⟩ := served
  refine ⟨ids, ?_⟩
  cases fate with
  | committed => exact likeStatement_step served
  | rolledBack error =>
      cases op with
      | commit tx =>
          cases served
          exact .lost tx error
      | _ =>
          cases served
          exact .failed _ error
  | unacknowledged error =>
      cases op with
      | commit tx =>
          simp only [likeServe] at served
          split at served <;> cases served
          · exact .failed _ error
          · rename_i found
            exact .unheard found error
      | _ =>
          cases served
          exact .failed _ error

/-! ### The stages of a toggle -/

inductive RowChange where
  | removed
  | added (inserted : Nat)
  deriving DecidableEq

inductive LikePhase where
  | free
  | begun (tx : Nat)
  | looked (tx : Nat) (row : LikeRow) (existing : Bool)
  | changed (tx : Nat) (row : LikeRow) (change : RowChange)
  | counted (tx : Nat) (row : LikeRow) (change : RowChange) (target : LikeTarget) (outcome : Option Int)

def LikePhase.transaction : LikePhase → Option Nat
  | .free => none
  | .begun tx => some tx
  | .looked tx _ _ => some tx
  | .changed tx _ _ => some tx
  | .counted tx _ _ _ _ => some tx

/-- What a toggle may do next; it only rolls back after an error. -/
def likeNext (phase : LikePhase) : (op : LikeOp) → op.Reply → Option LikePhase
  | .findPost _ => fun _ =>
      match phase with
      | .free => some .free
      | _ => none
  | .begin => fun reply =>
      match phase with
      | .free => some (onAnswer .free reply .begun)
      | _ => none
  | .selectForUpdate other row => fun reply =>
      match phase with
      | .begun tx => if other = tx then some (onAnswer phase reply (.looked tx row)) else none
      | _ => none
  | .delete other named => fun reply =>
      match phase with
      | .looked tx row existing =>
          if other = tx ∧ named = row ∧ existing then some (onAnswer phase reply fun _ => .changed tx row .removed)
          else none
      | _ => none
  | .insert other named _ => fun reply =>
      match phase with
      | .looked tx _ existing =>
          if other = tx ∧ !existing then some (onAnswer phase reply fun inserted => .changed tx named (.added inserted))
          else none
      | _ => none
  | .updateLikes other target liked => fun reply =>
      match phase with
      | .changed tx row .removed =>
          if other = tx ∧ target = row.target ∧ !liked then
            some (onAnswer phase reply (.counted tx row .removed target))
          else none
      | .changed tx row (.added inserted) =>
          if other = tx ∧ liked then some (onAnswer phase reply (.counted tx row (.added inserted) target)) else none
      | _ => none
  | .commit other => fun _ =>
      match phase with
      | .counted tx _ _ _ _ => if other = tx then some .free else none
      | _ => none
  | .rollback other => fun _ => if phase.transaction = some other then some .free else none

inductive LikeMove : LikePhase → (op : LikeOp) → op.Reply → LikePhase → Prop where
  | failed (phase : LikePhase) {op : LikeOp} (stays : committing op = none) (error : String) :
      LikeMove phase op (.error error) phase
  | find (id : Int) (reply : Except String Bool) : LikeMove .free (.findPost id) reply .free
  | begin (tx : Nat) : LikeMove .free .begin (.ok tx) (.begun tx)
  | look (tx : Nat) (row : LikeRow) (existing : Bool) :
      LikeMove (.begun tx) (.selectForUpdate tx row) (.ok existing) (.looked tx row existing)
  | remove (tx : Nat) (row : LikeRow) (count : Nat) :
      LikeMove (.looked tx row true) (.delete tx row) (.ok count) (.changed tx row .removed)
  | add (tx : Nat) (row named : LikeRow) (skip : Bool) (inserted : Nat) :
      LikeMove (.looked tx row false) (.insert tx named skip) (.ok inserted) (.changed tx named (.added inserted))
  | lower (tx : Nat) (row : LikeRow) (outcome : Option Int) :
      LikeMove (.changed tx row .removed) (.updateLikes tx row.target false) (.ok outcome)
        (.counted tx row .removed row.target outcome)
  | raise (tx : Nat) (row : LikeRow) (inserted : Nat) (target : LikeTarget) (outcome : Option Int) :
      LikeMove (.changed tx row (.added inserted)) (.updateLikes tx target true) (.ok outcome)
        (.counted tx row (.added inserted) target outcome)
  | commit (tx : Nat) (row : LikeRow) (change : RowChange) (target : LikeTarget) (outcome : Option Int)
      (reply : Except String Unit) : LikeMove (.counted tx row change target outcome) (.commit tx) reply .free
  | withdraw {phase : LikePhase} {tx : Nat} (mine : phase.transaction = some tx) (reply : Except String Unit) :
      LikeMove phase (.rollback tx) reply .free

theorem onAnswer_move {phase : LikePhase} {op : LikeOp} {reply : op.Reply} {next : op.Answer → LikePhase}
    (stays : committing op = none) (moves : ∀ answer, LikeMove phase op (.ok answer) (next answer)) :
    LikeMove phase op reply (onAnswer phase reply next) := by
  cases reply with
  | error error => exact .failed phase stays error
  | ok answer => exact moves answer

theorem like_move {phase next : LikePhase} {op : LikeOp} {reply : op.Reply}
    (moved : likeNext phase op reply = some next) : LikeMove phase op reply next := by
  cases op with
  | findPost id =>
      cases phase <;> cases moved
      exact .find id reply
  | begin =>
      cases phase <;> cases moved
      exact onAnswer_move rfl .begin
  | selectForUpdate other row =>
      cases phase with
      | begun tx =>
          simp only [likeNext] at moved
          split_ifs at moved with same
          subst same
          cases moved
          exact onAnswer_move rfl (.look _ row)
      | _ => cases moved
  | delete other named =>
      cases phase with
      | looked tx row existing =>
          simp only [likeNext] at moved
          split_ifs at moved with same
          obtain ⟨rfl, rfl, rfl⟩ := same
          cases moved
          exact onAnswer_move rfl (.remove _ _)
      | _ => cases moved
  | insert other named skip =>
      cases phase with
      | looked tx row existing =>
          simp only [likeNext, Bool.not_eq_true'] at moved
          split_ifs at moved with same
          obtain ⟨rfl, rfl⟩ := same
          cases moved
          exact onAnswer_move rfl (.add _ row named skip)
      | _ => cases moved
  | updateLikes other target liked =>
      cases phase with
      | changed tx row change =>
          cases change with
          | removed =>
              simp only [likeNext, Bool.not_eq_true'] at moved
              split_ifs at moved with same
              obtain ⟨rfl, rfl, rfl⟩ := same
              cases moved
              exact onAnswer_move rfl (.lower _ row)
          | added inserted =>
              simp only [likeNext] at moved
              split_ifs at moved with same
              obtain ⟨rfl, rfl⟩ := same
              cases moved
              exact onAnswer_move rfl (.raise _ row inserted target)
      | _ => cases moved
  | commit other =>
      cases phase with
      | counted tx row change target outcome =>
          simp only [likeNext] at moved
          split_ifs at moved with same
          subst same
          cases moved
          exact .commit ..
      | _ => cases moved
  | rollback other =>
      simp only [likeNext] at moved
      split_ifs at moved with mine
      cases moved
      exact .withdraw mine reply

def likeEnds {α : Type} (_ : LikePhase) (_ : α) : Prop := True

theorem withdraw_follows {phase : LikePhase} {tx : Nat} (mine : phase.transaction = some tx) (error : String) :
    Follows likeNext likeEnds phase (withdraw tx error) :=
  fun _ => ⟨.free, if_pos mine, trivial⟩

/-- The counter moves the way that the row did. -/
theorem moveCounter_follows (queryOne : Bool) {tx : Nat} {row : LikeRow} {change : RowChange} {target : LikeTarget}
    {existing : Bool} (matched : ∀ outcome, likeNext (.changed tx row change) (.updateLikes tx target !existing) outcome =
      some (onAnswer (.changed tx row change) outcome (.counted tx row change target))) :
    Follows likeNext likeEnds (.changed tx row change) (moveCounter queryOne tx target existing) := by
  intro reply
  refine ⟨_, matched reply, ?_⟩
  cases reply with
  | error error => exact withdraw_follows rfl error
  | ok outcome =>
      simp only [onAnswer, Program.bind]
      split_ifs
      · exact withdraw_follows rfl _
      · rintro (error | ⟨⟩) <;> exact ⟨.free, if_pos rfl, trivial⟩

theorem toggle_follows (table : LikeTable) (onConflictDoNothing queryOne : Bool) (user id : Int) :
    Follows likeNext likeEnds .free (toggle table onConflictDoNothing queryOne user id) := by
  rintro (error | tx)
  · exact ⟨.free, rfl, trivial⟩
  refine ⟨.begun tx, rfl, ?_⟩
  rintro (error | ⟨_ | _⟩)
  · exact ⟨.begun tx, if_pos rfl, withdraw_follows rfl error⟩
  · refine ⟨.looked tx ⟨user, ⟨table, id⟩⟩ false, if_pos rfl, ?_⟩
    rintro (error | inserted)
    · exact ⟨_, if_pos ⟨rfl, rfl⟩, withdraw_follows rfl error⟩
    · exact ⟨_, if_pos ⟨rfl, rfl⟩, moveCounter_follows queryOne fun _ => if_pos ⟨rfl, rfl⟩⟩
  · refine ⟨.looked tx ⟨user, ⟨table, id⟩⟩ true, if_pos rfl, ?_⟩
    rintro (error | count)
    · exact ⟨_, if_pos ⟨rfl, rfl, rfl⟩, withdraw_follows rfl error⟩
    · exact ⟨_, if_pos ⟨rfl, rfl, rfl⟩, moveCounter_follows queryOne fun _ => if_pos ⟨rfl, rfl, rfl⟩⟩

theorem likeCode_follows (call : LikeCall) : Follows likeNext likeEnds .free (likeCode call) := by
  cases call with
  | post user id =>
      rintro (error | _ | _)
      · exact ⟨.free, rfl, trivial⟩
      · exact ⟨.free, rfl, trivial⟩
      · exact ⟨.free, rfl, toggle_follows .posts true true user id⟩
  | build user id => exact toggle_follows .builds false false user id

/-! ### What a transaction has done by a stage -/

def RowChange.liked : RowChange → Bool
  | .removed => false
  | .added _ => true

def changeOf (row : LikeRow) : RowChange → LikeTables → LikeTables
  | .removed => eraseRow row
  | .added 0 => id
  | .added (_ + 1) => insertRow row

def countOf (target : LikeTarget) : Option Int → LikeTables → LikeTables
  | none => id
  | some count => setLikes target count

/-- The row is locked, as it was when the transaction changed it. -/
def RowHeld (start : LikeTables) (row : LikeRow) (held : Transaction likeGuard) (tables : LikeTables) : RowChange → Prop
  | .removed => .row row ∈ held.locks ∧ row ∈ tables.rows
  | .added 0 => True
  | .added (_ + 1) => .row row ∈ held.locks ∧ row ∉ tables.rows ∧ (start.likes row.target).isSome

def CounterHeld (start : LikeTables) (change : RowChange) (target : LikeTarget) (held : Transaction likeGuard)
    (tables : LikeTables) : Option Int → Prop
  | none => start.likes target = none
  | some next => .counter target ∈ held.locks ∧
      ∃ count, tables.likes target = some count ∧ next = nextLikes change.liked count

def told (start : LikeTables) (phase : LikePhase) (held : Transaction likeGuard) (tables : LikeTables) : Prop :=
  match phase with
  | .free => True
  | .begun _ => held.change = id
  | .looked _ row existing => held.change = id ∧ (existing = true → .row row ∈ held.locks ∧ row ∈ tables.rows)
  | .changed _ row change => held.change = changeOf row change ∧ RowHeld start row held tables change
  | .counted _ row change target outcome =>
      held.change = countOf target outcome ∘ changeOf row change ∧ RowHeld start row held tables change ∧
        CounterHeld start change target held tables outcome ∧ (change = .removed → row.target = target)

section Told
variable {start tables tables' : LikeTables} {held : Transaction likeGuard} {row : LikeRow} {change : RowChange}

theorem row_kept (kept : ∀ lock ∈ held.locks, likeGuard.value lock tables' = likeGuard.value lock tables)
    (locked : LikeLock.row row ∈ held.locks) : row ∈ tables'.rows ↔ row ∈ tables.rows := by
  have same : decide (row ∈ tables'.rows) = decide (row ∈ tables.rows) := kept _ locked
  simpa using same

theorem rowHeld_kept (kept : ∀ lock ∈ held.locks, likeGuard.value lock tables' = likeGuard.value lock tables)
    (holds : RowHeld start row held tables change) : RowHeld start row held tables' change := by
  cases change with
  | removed => exact ⟨holds.1, (row_kept kept holds.1).mpr holds.2⟩
  | added inserted =>
      cases inserted with
      | zero => trivial
      | succ more => exact ⟨holds.1, fun member => holds.2.1 ((row_kept kept holds.1).mp member), holds.2.2⟩

theorem counterHeld_kept {target : LikeTarget} {outcome : Option Int}
    (kept : ∀ lock ∈ held.locks, likeGuard.value lock tables' = likeGuard.value lock tables)
    (holds : CounterHeld start change target held tables outcome) :
    CounterHeld start change target held tables' outcome := by
  cases outcome with
  | none => exact holds
  | some next =>
      obtain ⟨locked, count, present, rfl⟩ := holds
      have same : tables'.likes target = tables.likes target := kept _ locked
      exact ⟨locked, count, same.trans present, rfl⟩

theorem rowHeld_more {later : Transaction likeGuard} (holds : RowHeld start row held tables change)
    (more : ∀ lock ∈ held.locks, lock ∈ later.locks) : RowHeld start row later tables change := by
  cases change with
  | removed => exact ⟨more _ holds.1, holds.2⟩
  | added inserted =>
      cases inserted with
      | zero => trivial
      | succ _ => exact ⟨more _ holds.1, holds.2⟩

theorem told_stable (start : LikeTables) : Stable (told start) := by
  intro phase held tables tables' known kept
  cases phase with
  | free => trivial
  | begun tx => exact known
  | looked tx row existing =>
      obtain ⟨unchanged, locked⟩ := known
      exact ⟨unchanged, fun exists' => ⟨(locked exists').1, (row_kept kept (locked exists').1).mpr (locked exists').2⟩⟩
  | changed tx row change => exact ⟨known.1, rowHeld_kept kept known.2⟩
  | counted tx row change target outcome =>
      exact ⟨known.1, rowHeld_kept kept known.2.1, counterHeld_kept kept known.2.2.1, known.2.2.2⟩

end Told

/-! ### Counting -/

section Counting
variable {tables : LikeTables} {row : LikeRow} {target : LikeTarget}

def countRows (tables : LikeTables) (target : LikeTarget) : Nat :=
  (tables.rows.filter fun row => row.target = target).card

theorem countRows_eraseRow_self (member : row ∈ tables.rows) :
    countRows (eraseRow row tables) row.target + 1 = countRows tables row.target := by
  have listed : row ∈ tables.rows.filter fun other => other.target = row.target := by simp [member]
  simp only [countRows, eraseRow, Finset.filter_erase]
  exact Finset.card_erase_add_one listed

theorem countRows_eraseRow_other (apart : target ≠ row.target) :
    countRows (eraseRow row tables) target = countRows tables target := by
  have unlisted : row ∉ tables.rows.filter fun other => other.target = target := by simp [Ne.symm apart]
  simp only [countRows, eraseRow, Finset.filter_erase, Finset.erase_eq_of_notMem unlisted]

theorem countRows_insertRow_self (absent : row ∉ tables.rows) :
    countRows (insertRow row tables) row.target = countRows tables row.target + 1 := by
  have unlisted : row ∉ tables.rows.filter fun other => other.target = row.target := by simp [absent]
  simp only [countRows, insertRow, Finset.filter_insert, if_true]
  exact Finset.card_insert_of_notMem unlisted

theorem countRows_insertRow_other (apart : target ≠ row.target) :
    countRows (insertRow row tables) target = countRows tables target := by
  simp [countRows, insertRow, Finset.filter_insert, Ne.symm apart]

end Counting

@[simp] theorem changeOf_likes (row : LikeRow) (change : RowChange) (tables : LikeTables) :
    (changeOf row change tables).likes = tables.likes := by
  cases change with
  | removed => rfl
  | added inserted => cases inserted <;> rfl

@[simp] theorem countRows_countOf (counted target : LikeTarget) (outcome : Option Int) (tables : LikeTables) :
    countRows (countOf counted outcome tables) target = countRows tables target := by
  cases outcome <;> rfl

theorem countRows_changeOf_other {row : LikeRow} {target : LikeTarget} (change : RowChange) (tables : LikeTables)
    (apart : target ≠ row.target) : countRows (changeOf row change tables) target = countRows tables target := by
  cases change with
  | removed => exact countRows_eraseRow_other apart
  | added inserted =>
      cases inserted with
      | zero => rfl
      | succ more => exact countRows_insertRow_other apart

theorem countOf_likes_other {counted target : LikeTarget} (outcome : Option Int) (tables : LikeTables)
    (apart : target ≠ counted) : (countOf counted outcome tables).likes target = tables.likes target := by
  cases outcome with
  | none => rfl
  | some next => exact Function.update_of_ne apart _ _

/-- No post or build comes or goes. -/
def SameCounters (start tables : LikeTables) : Prop :=
  ∀ target, (tables.likes target).isSome = (start.likes target).isSome

theorem sameCounters_countOf {start tables : LikeTables} {change : RowChange} {row : LikeRow} {target : LikeTarget}
    {held : Transaction likeGuard} {outcome : Option Int} (same : SameCounters start tables)
    (holds : CounterHeld start change target held tables outcome) :
    SameCounters start (countOf target outcome (changeOf row change tables)) := by
  intro other
  cases outcome with
  | none => simpa [countOf] using same other
  | some next =>
      obtain ⟨-, count, present, -⟩ := holds
      by_cases here : other = target
      · subst here
        simpa [countOf, setLikes, present] using same other
      · simpa [countOf, setLikes, Function.update_of_ne here] using same other

/-- A transaction that has counted what it changed keeps the balance. -/
theorem balanced_commit {start tables : LikeTables} {change : RowChange} {row : LikeRow} {held : Transaction likeGuard}
    {outcome : Option Int} (same : SameCounters start tables) (balanced : Balanced tables)
    (rowHeld : RowHeld start row held tables change)
    (counterHeld : CounterHeld start change row.target held tables outcome)
    (inserts : ∀ inserted, change = .added inserted → inserted ≠ 0) :
    Balanced (countOf row.target outcome (changeOf row change tables)) := by
  intro target count present
  by_cases here : target = row.target
  · subst here
    cases outcome with
    | none =>
        -- the `UPDATE` found no row, so there is no counter
        have never : start.likes row.target = none := counterHeld
        have missing : tables.likes row.target = none := by simpa [never] using same row.target
        simp [countOf, missing] at present
    | some next =>
        obtain ⟨-, old, known, rfl⟩ := counterHeld
        have before : old = countRows tables row.target := balanced row.target old known
        obtain rfl : nextLikes change.liked old = count := by simpa [countOf, setLikes] using present
        change _ = ((countRows (countOf _ _ _) _ : Nat) : Int)
        rw [countRows_countOf]
        cases change with
        | removed =>
            have fewer := countRows_eraseRow_self rowHeld.2
            simp only [nextLikes, RowChange.liked, changeOf, Bool.false_eq_true, if_false]
            omega
        | added inserted =>
            cases inserted with
            | zero => exact absurd rfl (inserts 0 rfl)
            | succ more =>
                have further := countRows_insertRow_self rowHeld.2.1
                simp only [nextLikes, RowChange.liked, changeOf, if_true]
                omega
  · rw [countOf_likes_other outcome _ here, changeOf_likes] at present
    have before := balanced target count present
    change _ = ((countRows (countOf _ _ _) _ : Nat) : Int)
    rw [countRows_countOf, countRows_changeOf_other change tables here]
    exact before

/-! ### Every run -/

/-- What a stage remembers was said in the transaction's own statements. -/
def Noted (history : List LikeTurn) : LikePhase → Prop
  | .changed tx row (.added inserted) => ∃ first ∈ history, insertion first.op first.reply = some (tx, row, inserted)
  | .counted tx row (.added inserted) target _ =>
      (∃ first ∈ history, insertion first.op first.reply = some (tx, row, inserted)) ∧
        ∃ second ∈ history, raised second.op = some (tx, target)
  | _ => True

structure DatabaseHeld (start : LikeTables) (db : LikeDatabase) (phases : List LikePhase) : Prop where
  described : Described LikePhase.transaction (told start) phases db
  counters : SameCounters start db.committed
  balanced : Balanced db.committed

section Runs
variable {start : LikeTables} {history : List LikeTurn} {db after : LikeDatabase} {phases : List LikePhase}
  {phase next : LikePhase} {op : LikeOp} {reply : op.Reply} {task : Nat}

theorem noted_later {turn : LikeTurn} (noted : Noted history phase) : Noted (history ++ [turn]) phase := by
  cases phase with
  | changed tx row change =>
      cases change with
      | removed => trivial
      | added inserted =>
          obtain ⟨first, member, same⟩ := noted
          exact ⟨first, by simp [member], same⟩
  | counted tx row change target outcome =>
      cases change with
      | removed => trivial
      | added inserted =>
          obtain ⟨⟨first, member, same⟩, second, member', same'⟩ := noted
          exact ⟨⟨first, by simp [member], same⟩, second, by simp [member'], same'⟩
  | _ => trivial

theorem noted_move {before after : LikeDatabase} {programs : List (LikeProgram (Except String LikeAnswer))}
    (noted : Noted history phase) (moved : LikeMove phase op reply next) :
    Noted (history ++ [⟨⟨before, op, reply, after⟩, task, programs⟩]) next := by
  cases moved with
  | failed => exact noted_later noted
  | add tx row named skip inserted => exact ⟨_, List.mem_append_right _ (List.mem_singleton_self _), rfl⟩
  | raise tx row inserted target outcome =>
      obtain ⟨first, member, same⟩ := noted
      exact ⟨⟨first, by simp [member], same⟩, _, List.mem_append_right _ (List.mem_singleton_self _), rfl⟩
  | _ => trivial

theorem DatabaseHeld.aborts (held : DatabaseHeld start db phases) (ids : List Nat) :
    DatabaseHeld start (db.abortAll ids) phases where
  described := described_ends held.described (fun _ _ => Database.find_of_abortAll) (Database.abortAll_committed ids)
    (Database.abortAll_length ids)
  counters := by simpa using held.counters
  balanced := by simpa using held.balanced

/-- A step that commits nothing, of a program that owns the transaction. -/
theorem DatabaseHeld.moves {tx : Nat} (held : DatabaseHeld start db phases) (found : phases[task]? = some phase)
    (owned : phase.transaction = some tx ∨ tx = db.opened.length) (moves : OnlyMoves tx db after)
    (same : after.committed = db.committed) (ends : next.transaction = none ∨ next.transaction = some tx)
    (inside : next.transaction = some tx → tx < after.opened.length)
    (now : next.transaction = some tx → ∀ kept, after.find tx = some kept → told start next kept db.committed) :
    DatabaseHeld start after (phases.set task next) where
  described := described_moves (told_stable start) held.described found owned moves ends inside
    (by rw [same]; exact now)
  counters := by rw [same]; exact held.counters
  balanced := by rw [same]; exact held.balanced

/-- A program that is through with its transaction. -/
theorem DatabaseHeld.frees {tx : Nat} (held : DatabaseHeld start db phases) (found : phases[task]? = some phase)
    (owned : phase.transaction = some tx) (moves : OnlyMoves tx db after) (same : after.committed = db.committed) :
    DatabaseHeld start after (phases.set task .free) :=
  held.moves found (Or.inl owned) moves same (Or.inl rfl) nofun nofun

theorem set_same (found : phases[task]? = some phase) : phases.set task phase = phases := by
  obtain ⟨inside, rfl⟩ := List.getElem?_eq_some_iff.mp found
  exact List.set_getElem_self inside

/-- The commit of a transaction that has counted what it changed. -/
theorem DatabaseHeld.commits {tx : Nat} {row : LikeRow} {change : RowChange} {target : LikeTarget} {outcome : Option Int}
    {kept : Transaction likeGuard} (held : DatabaseHeld start db phases)
    (found : phases[task]? = some (.counted tx row change target outcome)) (opened : db.find tx = some kept)
    (counts : ∀ inserted, change = .added inserted → inserted ≠ 0 ∧ row.target = target) :
    DatabaseHeld start (db.commit tx kept) (phases.set task .free) := by
  obtain ⟨changed, rowHeld, counterHeld, removes⟩ := held.described.told task _ tx kept found rfl opened
  have target' : row.target = target := by
    cases change with
    | removed => exact removes rfl
    | added inserted => exact (counts inserted rfl).2
  subst target'
  constructor
  · exact described_moves (told_stable start) held.described found (Or.inl rfl) (Database.commit_moves opened) (Or.inl rfl)
      nofun nofun
  · rw [Database.commit_committed, changed]
    exact sameCounters_countOf held.counters counterHeld
  · rw [Database.commit_committed, changed]
    exact balanced_commit held.counters held.balanced rowHeld counterHeld fun inserted same => (counts inserted same).1

/-- The `UPDATE` of the counter, after a change of the row. -/
theorem told_counted {row : LikeRow} {change : RowChange} {target : LikeTarget} {kept later : Transaction likeGuard}
    {tx : Nat} {tables : LikeTables} {count : Int} (known : told start (.changed tx row change) kept tables)
    (present : (kept.change tables).likes target = some count) (removes : change = .removed → row.target = target)
    (locks : later.locks = .counter target :: kept.locks)
    (changes : later.change = setLikes target (nextLikes change.liked count) ∘ kept.change) :
    told start (.counted tx row change target (some (nextLikes change.liked count))) later tables := by
  obtain ⟨changed, rowHeld⟩ := known
  rw [changed, changeOf_likes] at present
  refine ⟨by rw [changes, changed]; rfl, rowHeld_more rowHeld fun lock holds => by simp [locks, holds], ?_, removes⟩
  exact ⟨by simp [locks], count, present, rfl⟩

theorem told_uncounted {row : LikeRow} {change : RowChange} {target : LikeTarget} {kept : Transaction likeGuard}
    {tx : Nat} {tables : LikeTables} (known : told start (.changed tx row change) kept tables)
    (same : SameCounters start tables) (absent : (kept.change tables).likes target = none)
    (removes : change = .removed → row.target = target) :
    told start (.counted tx row change target none) kept tables := by
  obtain ⟨changed, rowHeld⟩ := known
  rw [changed, changeOf_likes] at absent
  have never : start.likes target = none := by simpa [absent] using (same target).symm
  exact ⟨changed, rowHeld, never, removes⟩

theorem DatabaseHeld.step (held : DatabaseHeld start db phases) (found : phases[task]? = some phase)
    (stepped : LikeStep db op reply after) (moved : LikeMove phase op reply next)
    (counts : ∀ tx row inserted target outcome, op = .commit tx →
      phase = .counted tx row (.added inserted) target outcome → inserted ≠ 0 ∧ row.target = target) :
    DatabaseHeld start after (phases.set task next) := by
  cases stepped with
  | failed op error =>
      cases moved with
      | failed => rwa [set_same found]
      | find => rwa [set_same found]
      | commit tx => exact held.frees found rfl (.refl tx db) rfl
      | @withdraw _ tx mine => exact held.frees found mine (.refl tx db) rfl
  | lost tx error =>
      cases moved with
      | failed => contradiction
      | commit => exact held.frees found rfl (Database.close_moves tx) rfl
  | unheard opened error =>
      cases moved with
      | failed => contradiction
      | commit tx row change target outcome =>
          exact held.commits found opened fun inserted same => counts _ row inserted target outcome rfl (by rw [same])
  | committed opened =>
      cases moved with
      | commit tx row change target outcome =>
          exact held.commits found opened fun inserted same => counts _ row inserted target outcome rfl (by rw [same])
  | rolledBack tx =>
      cases moved with
      | withdraw mine => exact held.frees found mine (Database.close_moves tx) rfl
  | searched id present =>
      cases moved with
      | find => rwa [set_same found]
  | begun =>
      cases moved with
      | begin =>
          refine held.moves found (Or.inr rfl) Database.begun_moves rfl (Or.inr rfl) (fun _ => by simp) ?_
          intro _ kept opened
          obtain rfl : {} = kept := Option.some.inj (Database.find_begun.symm.trans opened)
          rfl
  | @locked tx row kept opened visible free =>
      cases moved with
      | look =>
          have unchanged : kept.change = id := held.described.told task _ tx kept found rfl opened
          refine held.moves found (Or.inl rfl) Database.write_moves rfl (Or.inr rfl) ?_ ?_
          · intro _
            simpa [Database.acquire] using Database.find_inside opened
          · intro _ later listed
            obtain ⟨locks, changes⟩ := Database.find_write opened listed
            have seen : row ∈ db.committed.rows := by simpa [Database.view, unchanged] using visible
            exact ⟨by rw [changes, unchanged]; rfl, fun _ => ⟨by simp [locks], seen⟩⟩
  | unseen tx row =>
      cases moved with
      | look =>
          refine held.moves found (Or.inl rfl) (.refl tx db) rfl (Or.inr rfl) ?_ ?_
          · exact fun _ => held.described.inside task _ tx found rfl
          · intro _ kept opened
            exact ⟨held.described.told task _ tx kept found rfl opened, fun impossible => by cases impossible⟩
  | @deleted tx row kept opened free count =>
      cases moved with
      | remove =>
          obtain ⟨unchanged, locked⟩ := held.described.told task _ tx kept found rfl opened
          refine held.moves found (Or.inl rfl) Database.write_moves rfl (Or.inr rfl) ?_ ?_
          · intro _
            simpa using Database.find_inside opened
          · intro _ later listed
            obtain ⟨locks, changes⟩ := Database.find_write opened listed
            exact ⟨by rw [changes, unchanged]; rfl, by simp [locks], (locked rfl).2⟩
  | skipped tx row skip =>
      cases moved with
      | add =>
          refine held.moves found (Or.inl rfl) (.refl tx db) rfl (Or.inr rfl) ?_ ?_
          · exact fun _ => held.described.inside task _ tx found rfl
          · intro _ kept opened
            obtain ⟨unchanged, -⟩ := held.described.told task _ tx kept found rfl opened
            exact ⟨unchanged, trivial⟩
  | @inserted tx row skip kept opened free absent references =>
      cases moved with
      | add =>
          obtain ⟨unchanged, -⟩ := held.described.told task _ tx kept found rfl opened
          simp only [Database.view, unchanged, id_eq] at absent references
          refine held.moves found (Or.inl rfl) Database.write_moves rfl (Or.inr rfl) ?_ ?_
          · intro _
            simpa using Database.find_inside opened
          · intro _ later listed
            obtain ⟨locks, changes⟩ := Database.find_write opened listed
            exact ⟨by rw [changes, unchanged]; rfl, by simp [locks], absent, by rwa [← held.counters]⟩
  | @unfound tx target liked kept opened absent =>
      cases moved with
      | lower tx row =>
          refine held.moves found (Or.inl rfl) (.refl tx db) rfl (Or.inr rfl) ?_ ?_
          · exact fun _ => held.described.inside task _ tx found rfl
          · intro _ later listed
            obtain rfl : kept = later := Option.some.inj (opened.symm.trans listed)
            exact told_uncounted (held.described.told task _ tx kept found rfl opened) held.counters absent fun _ => rfl
      | raise tx row inserted =>
          refine held.moves found (Or.inl rfl) (.refl tx db) rfl (Or.inr rfl) ?_ ?_
          · exact fun _ => held.described.inside task _ tx found rfl
          · intro _ later listed
            obtain rfl : kept = later := Option.some.inj (opened.symm.trans listed)
            exact told_uncounted (held.described.told task _ tx kept found rfl opened) held.counters absent
              fun impossible => by cases impossible
  | @counted tx target liked kept count opened present free =>
      cases moved with
      | lower tx row =>
          refine held.moves found (Or.inl rfl) Database.write_moves rfl (Or.inr rfl) ?_ ?_
          · intro _
            simpa using Database.find_inside opened
          · intro _ later listed
            obtain ⟨locks, changes⟩ := Database.find_write opened listed
            exact told_counted (held.described.told task _ tx kept found rfl opened) present (fun _ => rfl) locks changes
      | raise tx row inserted =>
          refine held.moves found (Or.inl rfl) Database.write_moves rfl (Or.inr rfl) ?_ ?_
          · intro _
            simpa using Database.find_inside opened
          · intro _ later listed
            obtain ⟨locks, changes⟩ := Database.find_write opened listed
            exact told_counted (held.described.told task _ tx kept found rfl opened) present
              (fun impossible => by cases impossible) locks changes

/-- The counters are the numbers of likes in every state, as long as no transaction commits that has raised a counter
for a row that it has not inserted. -/
theorem likes_counted {state : LikeState} (run : LikeRun start history state) (balanced : Balanced start)
    (counts : Throughout CountsWhatItInserted history) : Balanced state.shared.committed := by
  have held : ∃ phases, List.Forall₂ (Follows likeNext likeEnds) phases state.programs ∧
      DatabaseHeld start state.shared phases ∧ ∀ phase ∈ phases, Noted history phase := by
    refine run_phases_throughout (fun _ => LikePhase.free) likeCode_follows
      (fun history db phases => DatabaseHeld start db phases ∧ ∀ phase ∈ phases, Noted history phase) ?_ rfl ?_ ?_ run
      counts
    · exact ⟨⟨described_empty, fun _ => rfl, balanced⟩, by simp⟩
    · rintro history db phases caller ⟨⟨described, counters, balanced⟩, noted⟩
      refine ⟨⟨described_joins rfl described, counters, balanced⟩, ?_⟩
      intro phase member
      rcases List.mem_append.mp member with member | member
      · exact noted phase member
      · obtain rfl : phase = .free := by simpa using member
        trivial
    · rintro history phases phase after turn ⟨database, noted⟩ found allowed served last
      obtain ⟨ids, stepped⟩ := like_step served
      have mine := noted phase (List.mem_of_getElem? found)
      have moved := like_move allowed
      constructor
      · refine (database.aborts ids).step found stepped moved ?_
        rintro tx row inserted target outcome commits rfl
        obtain ⟨⟨first, member, named⟩, second, member', counter⟩ := mine
        obtain ⟨nonzero, same⟩ := last tx (by rw [commits]; rfl) first member _ named rfl
        exact ⟨nonzero, same second member' _ counter rfl⟩
      · intro other member
        rcases mem_set_cases member with rfl | ⟨index, -, listed⟩
        · exact noted_move mine moved
        · exact noted_later (noted other (List.mem_of_getElem? listed))
  obtain ⟨phases, -, database, -⟩ := held
  exact database.balanced

end Runs

/-- Post 1, which nobody likes yet. -/
def newPost : LikeTables where
  likes := fun target => if target = ⟨.posts, 1⟩ then some 0 else none

theorem newPost_balanced : Balanced newPost := by
  intro target count present
  by_cases same : target = ⟨.posts, 1⟩
  · simpa [newPost, same, eq_comm] using present
  · simp [newPost, same] at present

/-- Two users like the post, one of them changes their mind, and a commit is not acknowledged. -/
theorem likes_of_two_users_counted :
    ∃ history state, LikeRun newPost history state ∧ state.shared.committed.likes ⟨.posts, 1⟩ = some 1 ∧
      Balanced state.shared.committed := by
  have passed : (replay likeServe likeCode ⟨{ committed := newPost }, []⟩
      [.enter (.post 4 1), .turn 0 {}, .turn 0 {}, .turn 0 {}, .enter (.post 5 1), .turn 1 {}, .turn 1 {}, .turn 1 {},
        .turn 0 {}, .turn 0 {}, .turn 0 {}, .turn 1 {}, .turn 1 {}, .turn 1 { fate := .unacknowledged "closed" },
        .enter (.post 4 1), .turn 2 {}, .turn 2 {}, .turn 2 {}, .turn 2 {}, .turn 2 {}, .turn 2 {}]).any
      (fun reached => decide (Throughout CountsWhatItInserted reached.1) &&
        decide (reached.2.shared.committed.likes ⟨.posts, 1⟩ = some 1)) = true := by
    decide +kernel
  obtain ⟨history, state, run, tested⟩ := replay_reaches passed
  simp only [Bool.and_eq_true, decide_eq_true_eq] at tested
  exact ⟨history, state, run, tested.2, likes_counted run newPost_balanced tested.1⟩

/-- Two first likes of one user overlap: neither finds the other's row, and the second `INSERT` waits for the first to
commit, does nothing, and is counted. -/
theorem overlapping_likes_miscounted :
    ∃ history state, LikeRun newPost history state ∧ Balanced newPost ∧ ¬ Balanced state.shared.committed := by
  have passed : (replay likeServe likeCode ⟨{ committed := newPost }, []⟩
      [.enter (.post 4 1), .turn 0 {}, .turn 0 {}, .turn 0 {}, .enter (.post 4 1), .turn 1 {}, .turn 1 {}, .turn 1 {},
        .turn 0 {}, .turn 0 {}, .turn 0 {}, .turn 1 {}, .turn 1 {}, .turn 1 {}]).any
      (fun reached => decide (reached.2.shared.committed.likes ⟨.posts, 1⟩ = some 2) &&
        decide (countRows reached.2.shared.committed ⟨.posts, 1⟩ = 1)) = true := by
    decide +kernel
  obtain ⟨history, state, run, tested⟩ := replay_reaches passed
  simp only [Bool.and_eq_true, decide_eq_true_eq] at tested
  refine ⟨history, state, run, newPost_balanced, fun balanced => ?_⟩
  have count : (2 : Int) = countRows state.shared.committed ⟨.posts, 1⟩ := balanced _ 2 tested.1
  rw [tested.2] at count
  cases count

end PaladinsCat.Likes
