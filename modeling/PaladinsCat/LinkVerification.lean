import PaladinsCat.BackendStore
import PaladinsCat.Interleaving
import PaladinsCat.Text

/-!
The linking of players to accounts (auth.rs). A user asks for a code, names a loadout after it and
asks for a check, which counts the attempt, reads the player's loadouts from the provider, and links
the player. The cooldown and the lockout of the checks are columns of the row that holds the code.
Every statement, and the transaction that links, is one step; times are in milliseconds.
-/

namespace PaladinsCat.Linking

open Interleaving Program
open Backend (Fate)

def linkCooldown : Nat := 30000
def linkMaxAttempts : Nat := 5
def linkLockout : Nat := 600000

/-! ### The tables -/

/-- A row of `player_link_verifications`. -/
structure Verification where
  playerId : Int
  code : String
  expiresAt : Nat
  attemptCount : Nat := 0
  nextAttemptAt : Option Nat := none
  lockedUntil : Option Nat := none
  deriving DecidableEq

/-- The accounts with the players they are linked to, the players with their names, and the verifications by user. -/
structure LinkTables where
  clock : Nat := 0
  users : List Int := []
  linkedPlayerId : Int → Option Int := fun _ => none
  players : Int → Option String := fun _ => none
  verifications : Int → Option Verification := fun _ => none

/-- `column IS NULL OR column<=now()`. -/
def passed (column : Option Nat) (now : Nat) : Bool := column.all fun time => decide (time ≤ now)

/-- What a check gets from its attempt. -/
structure Attempt where
  playerId : Int
  code : String
  expiresAt : Nat
  attemptCount : Nat
  playerName : String
  deriving DecidableEq

namespace LinkTables
variable (tables : LinkTables)

def put (user : Int) (row : Option Verification) : LinkTables :=
  { tables with verifications := Function.update tables.verifications user row }

/-- `SELECT username FROM users WHERE linked_player_id=$1 AND id!=$2`. -/
def linkedElsewhere (user playerId : Int) : Bool :=
  tables.users.any fun other => tables.linkedPlayerId other == some playerId && other != user

/-- The `UPDATE` that counts an attempt and starts the cooldown. -/
def attempt (user : Int) : Option Attempt × LinkTables :=
  match tables.verifications user with
  | none => (none, tables)
  | some row =>
      match tables.players row.playerId with
      | none => (none, tables)
      | some name =>
          if tables.clock < row.expiresAt ∧ row.attemptCount < linkMaxAttempts ∧ passed row.nextAttemptAt tables.clock ∧
              passed row.lockedUntil tables.clock then
            (some ⟨row.playerId, row.code, row.expiresAt, row.attemptCount + 1, name⟩,
              tables.put user (some { row with
                attemptCount := row.attemptCount + 1, nextAttemptAt := some (tables.clock + linkCooldown) }))
          else (none, tables)

/-- The `UPDATE` of `lock_verification`. -/
def lock (user : Int) : Option Nat × LinkTables :=
  match tables.verifications user with
  | none => (none, tables)
  | some row =>
      (some (tables.clock + linkLockout), tables.put user (some { row with
        lockedUntil := some (tables.clock + linkLockout), expiresAt := max row.expiresAt (tables.clock + linkLockout) }))

/-- Another row has the code. -/
def codeTaken (user : Int) (code : String) : Bool :=
  tables.users.any fun other => other != user && (tables.verifications other).any fun row => row.code == code

/-- The `INSERT … ON CONFLICT(user_id) DO UPDATE` of a new code. -/
def upsert (user playerId : Int) (code : String) : Option (Nat × LinkTables) :=
  if user ∈ tables.users ∧ ¬ tables.codeTaken user code then
    some (tables.clock + 600000, tables.put user (some { playerId, code, expiresAt := tables.clock + 600000 }))
  else none

def deleteExpired : LinkTables :=
  { tables with verifications := fun user => (tables.verifications user).filter fun row => decide (tables.clock < row.expiresAt) }

/-- The transaction of a check that has succeeded. -/
def link (user playerId : Int) : LinkTables :=
  { tables.put user none with
    linkedPlayerId :=
      if user ∈ tables.users then Function.update tables.linkedPlayerId user (some playerId) else tables.linkedPlayerId }

def unlink (user : Int) : LinkTables :=
  { tables with linkedPlayerId := Function.update tables.linkedPlayerId user none }

end LinkTables

/-! ### Loadouts -/

/-- The two fields of a loadout that are read: absent, not a text, or a text. -/
structure LoadoutRow where
  deckName : Option (Option String) := none
  deckNameSnake : Option (Option String) := none
  deriving DecidableEq

/-- What the relay answers; the loadouts may not be an array. -/
inductive RelayAnswer where
  | unconfigured
  | failed
  | loadouts (rows : Option (List LoadoutRow))
  deriving DecidableEq

def namedAfter (code : String) (row : LoadoutRow) : Bool :=
  ((row.deckName.or row.deckNameSnake).bind id).any fun name => Text.eqIgnoreAsciiCase (Text.trim name) code

def verified (rows : Option (List LoadoutRow)) (code : String) : Bool := rows.any fun rows => rows.any (namedAfter code)

/-! ### Statements -/

inductive LinkOp where
  | lockedUntil (user : Int)
  | findPlayer (playerId : Int)
  | linkedElsewhere (user playerId : Int)
  | randomPin
  | upsert (user playerId : Int) (code : String)
  | deleteExpired
  | findVerification (user : Int)
  | attempt (user : Int)
  | rowStatus (user : Int)
  | now
  | delete (user : Int)
  | vendorGuard (playerId : Int)
  | loadouts (playerId : Int)
  | recordRaw (playerId : Int)
  | lock (user : Int)
  | link (user playerId : Int)
  | unlink (user : Int)
  deriving DecidableEq

abbrev LinkOp.Reply : LinkOp → Type
  | .lockedUntil _ => Except String (Option Nat)
  | .findPlayer _ => Except String (Option String)
  | .linkedElsewhere _ _ => Except String Bool
  | .randomPin => String
  | .upsert _ _ _ => Except String Nat
  | .deleteExpired => Except String Unit
  | .findVerification _ => Except String (Option (Verification × String))
  | .attempt _ => Except String (Option Attempt)
  | .rowStatus _ => Except String (Option Verification)
  | .now => Nat
  | .delete _ => Except String Unit
  | .vendorGuard _ => Except String Unit
  | .loadouts _ => RelayAnswer
  | .recordRaw _ => Except String Unit
  | .lock _ => Except String (Option Nat)
  | .link _ _ => Except String Unit
  | .unlink _ => Except String Unit

/-- How a statement ends, the time before it, the next random number, and the relay's answer. -/
structure LinkOutside where
  fate : Fate := .committed
  elapsed : Nat := 0
  random : Nat := 0
  relay : RelayAnswer := .failed

def settle {A : Type} (fate : Fate) (tables : LinkTables) (outcome : A × LinkTables) : Except String A × LinkTables :=
  match fate with
  | .committed => (.ok outcome.1, outcome.2)
  | .rolledBack error => (.error error, tables)
  | .unacknowledged error => (.error error, outcome.2)

/-- `(100_000 + random % 900_000).to_string()`. -/
def pin (random : Nat) : String := toString (100000 + random % 900000)

def linkServe : Service LinkTables LinkOp LinkOp.Reply LinkOutside :=
  fun before op outside =>
    let tables := { before with clock := before.clock + outside.elapsed }
    match op with
    | .lockedUntil user => some (settle outside.fate tables
        (((tables.verifications user).bind Verification.lockedUntil).filter fun time => decide (tables.clock < time), tables))
    | .findPlayer playerId => some (settle outside.fate tables (tables.players playerId, tables))
    | .linkedElsewhere user playerId =>
        some (settle outside.fate tables (tables.linkedElsewhere user playerId, tables))
    | .randomPin => some (pin outside.random, tables)
    | .upsert user playerId code =>
        match tables.upsert user playerId code with
        | none => some (.error "violates constraint", tables)
        | some outcome => some (settle outside.fate tables outcome)
    | .deleteExpired => some (settle outside.fate tables ((), tables.deleteExpired))
    | .findVerification user => some (settle outside.fate tables
        ((tables.verifications user).bind fun row => (tables.players row.playerId).map fun name => (row, name), tables))
    | .attempt user => some (settle outside.fate tables (tables.attempt user))
    | .rowStatus user => some (settle outside.fate tables (tables.verifications user, tables))
    | .now => some (tables.clock, tables)
    | .delete user => some (settle outside.fate tables ((), tables.put user none))
    | .vendorGuard _ => some (settle outside.fate tables ((), tables))
    | .loadouts _ => some (outside.relay, tables)
    | .recordRaw _ => some (settle outside.fate tables ((), tables))
    | .lock user => some (settle outside.fate tables (tables.lock user))
    | .link user playerId => some (settle outside.fate tables ((), tables.link user playerId))
    | .unlink user => some (settle outside.fate tables ((), tables.unlink user))

/-! ### The handlers -/

abbrev LinkProgram (α : Type) : Type := Program LinkOp LinkOp.Reply α

inductive LinkResponse where
  | databaseError (error : String)
  | internal
  | badRequest (error : String)
  | tooManyAttempts (retryAt : Option Nat)
  | pleaseWait (retryAt : Option Nat)
  | noVerification
  | expired
  | guardRejected (error : String)
  | badGateway
  | codeNotFound (remaining : Int)
  | playerNotFound
  | linkedToAnother
  | created (playerId : Int) (code : String) (expiresAt : Nat)
  | verification (found : Option (Verification × String))
  | playerLinked (playerId : Int) (name : String)
  | linkRemoved
  | cancelled
  deriving DecidableEq

def linkVerification (user : Int) : LinkProgram LinkResponse := do
  match ← perform LinkOp.deleteExpired with
  | .error error => return .databaseError error
  | .ok () =>
      match ← perform (LinkOp.findVerification user) with
      | .error error => return .databaseError error
      | .ok found => return .verification found

def createLinkVerification (user : Int) (playerId : Option Int) : LinkProgram LinkResponse := do
  match ← perform (LinkOp.lockedUntil user) with
  | .error error => return .databaseError error
  | .ok (some retryAt) => return .tooManyAttempts (some retryAt)
  | .ok none =>
      match playerId.filter fun value => decide (0 < value) with
      | none => return .badRequest "Valid player ID required"
      | some playerId =>
          match ← perform (LinkOp.findPlayer playerId) with
          | .error error => return .databaseError error
          | .ok none => return .playerNotFound
          | .ok (some _) =>
              match ← perform (LinkOp.linkedElsewhere user playerId) with
              | .error error => return .databaseError error
              | .ok true => return .linkedToAnother
              | .ok false =>
                  let code ← perform LinkOp.randomPin
                  match ← perform (LinkOp.upsert user playerId code) with
                  | .error error => return .databaseError error
                  | .ok expiresAt => return .created playerId code expiresAt

def lockVerification (user : Int) : LinkProgram LinkResponse := do
  match ← perform (LinkOp.lock user) with
  | .error error => return .databaseError error
  | .ok lockedUntil => return .tooManyAttempts lockedUntil

/-- The answer of a check whose attempt was not counted. -/
def explainWait (user : Int) : LinkProgram LinkResponse := do
  match ← perform (LinkOp.rowStatus user) with
  | .error error => return .databaseError error
  | .ok none => return .noVerification
  | .ok (some row) =>
      let now ← perform LinkOp.now
      if row.expiresAt ≤ now then
        match ← perform (LinkOp.delete user) with
        | .error error => return .databaseError error
        | .ok () => return .expired
      else
        return .pleaseWait ((row.lockedUntil.filter fun time => decide (now < time)).or
          (row.nextAttemptAt.filter fun time => decide (now < time)))

def linkPlayer (user : Int) (attempt : Attempt) : LinkProgram LinkResponse := do
  match ← perform (LinkOp.linkedElsewhere user attempt.playerId) with
  | .error error => return .databaseError error
  | .ok true => return .linkedToAnother
  | .ok false =>
      match ← perform (LinkOp.link user attempt.playerId) with
      | .error error => return .databaseError error
      | .ok () => return .playerLinked attempt.playerId attempt.playerName

def checkLoadouts (user : Int) (attempt : Attempt) : LinkProgram LinkResponse := do
  match ← perform (LinkOp.loadouts attempt.playerId) with
  | .unconfigured => return .internal
  | .failed => if linkMaxAttempts ≤ attempt.attemptCount then lockVerification user else return .badGateway
  | .loadouts rows =>
      match ← perform (LinkOp.recordRaw attempt.playerId) with
      | .error error => return .databaseError error
      | .ok () =>
          if verified rows attempt.code then linkPlayer user attempt
          else if linkMaxAttempts ≤ attempt.attemptCount then lockVerification user
          else return .codeNotFound (linkMaxAttempts - attempt.attemptCount)

def checkLinkVerification (user : Int) : LinkProgram LinkResponse := do
  match ← perform (LinkOp.attempt user) with
  | .error error => return .databaseError error
  | .ok none => explainWait user
  | .ok (some attempt) =>
      match ← perform (LinkOp.vendorGuard attempt.playerId) with
      | .error error => return .guardRejected error
      | .ok () => checkLoadouts user attempt

def cancelLinkVerification (user : Int) : LinkProgram LinkResponse := do
  match ← perform (LinkOp.delete user) with
  | .error error => return .databaseError error
  | .ok () => return .cancelled

def playerLink (user : Int) (action : Option String) : LinkProgram LinkResponse := do
  if action = some "unlink" then
    match ← perform (LinkOp.unlink user) with
    | .error error => return .databaseError error
    | .ok () => return .linkRemoved
  else return .badRequest "Use loadout verification to link a player."

inductive LinkCall where
  | verification (user : Int)
  | create (user : Int) (playerId : Option Int)
  | check (user : Int)
  | cancel (user : Int)
  | playerLink (user : Int) (action : Option String)

def linkCode : LinkCall → LinkProgram LinkResponse
  | .verification user => linkVerification user
  | .create user playerId => createLinkVerification user playerId
  | .check user => checkLinkVerification user
  | .cancel user => cancelLinkVerification user
  | .playerLink user action => Linking.playerLink user action

abbrev LinkTurn : Type := Turn LinkTables LinkOp LinkOp.Reply LinkResponse

abbrev LinkState : Type := State LinkTables LinkOp LinkOp.Reply LinkResponse

abbrev LinkRun (start : LinkTables) (history : List LinkTurn) (state : LinkState) : Prop :=
  Run linkServe.handler linkCode ⟨start, []⟩ history state

/-! ### Statements on one row -/

/-- The row says that the user has to wait. -/
def Verification.waits (row : Verification) (now : Nat) : Bool :=
  !passed row.nextAttemptAt now || !passed row.lockedUntil now

section Rows
variable {user : Int}

theorem settle_cases {A : Type} {fate : Fate} {tables after : LinkTables} {outcome : A × LinkTables}
    {answer : Except String A} (served : some (settle fate tables outcome) = some (answer, after)) :
    (answer = .ok outcome.1 ∧ after = outcome.2) ∨ (∃ error, answer = .error error ∧ (after = tables ∨ after = outcome.2)) := by
  cases fate with
  | committed =>
      cases served
      exact Or.inl ⟨rfl, rfl⟩
  | rolledBack error =>
      cases served
      exact Or.inr ⟨error, rfl, Or.inl rfl⟩
  | unacknowledged error =>
      cases served
      exact Or.inr ⟨error, rfl, Or.inr rfl⟩

theorem settle_after {A : Type} {fate : Fate} {tables after : LinkTables} {outcome : A × LinkTables}
    {answer : Except String A} (served : some (settle fate tables outcome) = some (answer, after)) :
    after = tables ∨ after = outcome.2 := by
  rcases settle_cases served with ⟨-, same⟩ | ⟨-, -, same⟩
  · exact Or.inr same
  · exact same

theorem put_other {tables : LinkTables} {other : Int} (row : Option Verification) (apart : user ≠ other) :
    (tables.put other row).verifications user = tables.verifications user :=
  Function.update_of_ne apart _ _

@[simp] theorem put_self {tables : LinkTables} (row : Option Verification) :
    (tables.put user row).verifications user = row :=
  Function.update_self _ _ _

@[simp] theorem put_clock {tables : LinkTables} (other : Int) (row : Option Verification) :
    (tables.put other row).clock = tables.clock := rfl

/-- An attempt that is counted found the row waiting for nothing. -/
theorem attempt_cases (tables : LinkTables) (user : Int) : tables.attempt user = (none, tables) ∨
    ∃ row name, tables.verifications user = some row ∧ tables.clock < row.expiresAt ∧
      row.waits tables.clock = false ∧
      tables.attempt user = (some ⟨row.playerId, row.code, row.expiresAt, row.attemptCount + 1, name⟩,
        tables.put user (some { row with
          attemptCount := row.attemptCount + 1, nextAttemptAt := some (tables.clock + linkCooldown) })) := by
  unfold LinkTables.attempt
  cases present : tables.verifications user with
  | none => exact Or.inl rfl
  | some row =>
      cases named : tables.players row.playerId with
      | none => exact Or.inl (by simp [named])
      | some name =>
          by_cases free : tables.clock < row.expiresAt ∧ row.attemptCount < linkMaxAttempts ∧
              passed row.nextAttemptAt tables.clock ∧ passed row.lockedUntil tables.clock
          · refine Or.inr ⟨row, name, rfl, free.1, ?_, by simp [named, free]⟩
            simp [Verification.waits, free.2.2.1, free.2.2.2]
          · exact Or.inl (by simp [named, free])

@[simp] theorem attempt_clock (tables : LinkTables) (user : Int) : (tables.attempt user).2.clock = tables.clock := by
  rcases attempt_cases tables user with same | ⟨row, name, -, -, -, same⟩ <;> rw [same]
  rfl

@[simp] theorem lock_clock (tables : LinkTables) (user : Int) : (tables.lock user).2.clock = tables.clock := by
  unfold LinkTables.lock
  split <;> rfl

end Rows

end PaladinsCat.Linking
