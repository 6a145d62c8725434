import Mathlib.Data.List.Sort
import PaladinsCat.BackendStore
import PaladinsCat.Text
import PaladinsCat.Transactions

/-!
The admission of OIDC identities (auth.rs): `promote_oidc_identity` finds the user that an issuer
and subject are bound to, or creates one, in one transaction under an advisory lock of the identity,
advisory locks of the claims and a lock of the table of users. PostgreSQL's hash and `lower`, and
SHA-256, are parameters.
-/

namespace PaladinsCat.Admission

open Interleaving Program Transactions
open Backend (Fate)

/-- What comes from outside: `hashtextextended` and `lower` of PostgreSQL, and the hexadecimal SHA-256 of an issuer, a
zero byte and a subject. -/
structure Platform where
  hashtextextended : String → Int → Int
  lower : String → String
  digest : String → String → String

/-! ### Identities and claims -/

structure Identity where
  issuer : String
  subject : String
  deriving DecidableEq

structure AccessIdentity extends Identity where
  emailVerified : Bool := false
  email : Option String := none
  preferredUsername : Option String := none
  deriving DecidableEq

def usernameChar (c : Char) : Bool := c.isAlphanum || c == '_' || c == '-'

/-- `^[A-Za-z0-9_-]{3,32}$`. -/
def isUsername (text : String) : Bool :=
  decide (3 ≤ text.length) && decide (text.length ≤ 32) && text.toList.all usernameChar

/-- `[^\s@]` from one to `most` times. -/
def isWord (most : Nat) (word : List Char) : Bool :=
  decide (1 ≤ word.length) && decide (word.length ≤ most) && word.all fun c => !Text.isWhitespace c && c != '@'

/-- `[^\s@]{1,189}\.[^\s@]{1,63}`; the dot may be any of the dots. -/
def isHost (host : List Char) : Bool :=
  (List.range host.length).any fun dot =>
    host[dot]? == some '.' && isWord 189 (host.take dot) && isWord 63 (host.drop (dot + 1))

/-- `^[^\s@]{1,64}@[^\s@]{1,189}\.[^\s@]{1,63}$`. -/
def isEmail (text : String) : Bool :=
  match Text.split '@' text with
  | [name, host] => isWord 64 name.toList && isHost host.toList
  | _ => false

/-- The username, and the verified email or one that is derived from the identity. -/
def oidcRegistrationClaims (platform : Platform) (identity : AccessIdentity) : Option (String × String) :=
  match identity.preferredUsername with
  | none => none
  | some username =>
      if isUsername username then
        let derived := "oidc-" ++ platform.digest identity.issuer identity.subject ++ "@id.paladinscat.invalid"
        match identity.emailVerified, identity.email with
        | true, some email =>
            if email.utf8ByteSize ≤ 254 && isEmail email then some (username, Text.toAsciiLowercase email)
            else some (username, derived)
        | _, _ => some (username, derived)
      else none

/-! ### The tables -/

inductive MigrationState where
  | legacy
  | linked
  | resetRequired
  | disabled
  deriving DecidableEq

structure UserRow where
  id : Int
  username : String
  email : String
  isActive : Bool
  deriving DecidableEq

structure IdentityRow where
  userId : Int
  migrationState : MigrationState
  deriving DecidableEq

/-- `users`, and `user_identities` by its primary key. -/
structure AdmissionTables where
  users : List UserRow := []
  identities : Identity → Option IdentityRow := fun _ => none

inductive AdmissionLock where
  | advisory (key : Int)
  | users
  deriving DecidableEq

section Platform
variable (platform : Platform)

/-- The advisory lock of an identity. -/
def identityKey (identity : Identity) : Int :=
  platform.hashtextextended identity.issuer (platform.hashtextextended identity.subject 0)

def claimKey (claim : String) : Int := platform.hashtextextended claim 0

abbrev AdmissionLock.Value : AdmissionLock → Type
  | .advisory _ => Identity → Option IdentityRow
  | .users => List UserRow

/-- An advisory lock protects the identities with its key. -/
def AdmissionLock.value (tables : AdmissionTables) : (lock : AdmissionLock) → lock.Value
  | .advisory key => fun identity => if identityKey platform identity = key then tables.identities identity else none
  | .users => tables.users

def admissionGuard : Guard AdmissionTables AdmissionLock where
  Value := AdmissionLock.Value
  value := fun lock tables => lock.value platform tables

abbrev AdmissionDatabase : Type := Database (admissionGuard platform)

def setIdentity (identity : Identity) (row : IdentityRow) (tables : AdmissionTables) : AdmissionTables :=
  { tables with identities := Function.update tables.identities identity (some row) }

def addUser (user : UserRow) (tables : AdmissionTables) : AdmissionTables := { tables with users := tables.users ++ [user] }

@[simp] theorem setIdentity_self (identity : Identity) (row : IdentityRow) (tables : AdmissionTables) :
    (setIdentity identity row tables).identities identity = some row := Function.update_self ..

theorem setIdentity_other {identity other : Identity} {row : IdentityRow} {tables : AdmissionTables}
    (apart : other ≠ identity) : (setIdentity identity row tables).identities other = tables.identities other :=
  Function.update_of_ne apart ..

@[simp] theorem setIdentity_users (identity : Identity) (row : IdentityRow) (tables : AdmissionTables) :
    (setIdentity identity row tables).users = tables.users := rfl

@[simp] theorem addUser_identities (user : UserRow) (tables : AdmissionTables) :
    (addUser user tables).identities = tables.identities := rfl

@[simp] theorem addUser_users (user : UserRow) (tables : AdmissionTables) :
    (addUser user tables).users = tables.users ++ [user] := rfl

theorem setIdentity_confined (identity : Identity) (row : IdentityRow) (other : AdmissionLock)
    (apart : other ≠ .advisory (identityKey platform identity)) (tables : AdmissionTables) :
    (admissionGuard platform).value other (setIdentity identity row tables) =
      (admissionGuard platform).value other tables := by
  cases other with
  | users => rfl
  | advisory key =>
      funext candidate
      by_cases locked : identityKey platform candidate = key
      · have distinct : candidate ≠ identity := by
          rintro rfl
          exact apart (by rw [locked])
        simp [admissionGuard, AdmissionLock.value, setIdentity, Function.update_of_ne distinct]
      · simp [admissionGuard, AdmissionLock.value, locked]

theorem addUser_confined (user : UserRow) (other : AdmissionLock) (apart : other ≠ .users) (tables : AdmissionTables) :
    (admissionGuard platform).value other (addUser user tables) = (admissionGuard platform).value other tables := by
  cases other with
  | users => exact absurd rfl apart
  | advisory key => rfl

end Platform

/-! ### Statements -/

inductive AdmissionOp where
  | begin
  | lockIdentity (tx : Nat) (identity : Identity)
  | promote (tx : Nat) (identity : Identity)
  | identityExists (tx : Nat) (identity : Identity)
  | lockClaim (tx : Nat) (claim : String)
  | lockUsers (tx : Nat)
  | claimsTaken (tx : Nat) (username email : String)
  | insertUser (tx : Nat) (username email : String)
  | insertIdentity (tx : Nat) (userId : Int) (identity : Identity)
  | commit (tx : Nat)
  | rollback (tx : Nat)
  deriving DecidableEq

abbrev AdmissionOp.Answer : AdmissionOp → Type
  | .begin => Nat
  | .promote _ _ => Option Int
  | .identityExists _ _ => Bool
  | .claimsTaken _ _ _ => Bool
  | .insertUser _ _ _ => Option Int
  | _ => Unit

abbrev AdmissionOp.Reply (op : AdmissionOp) : Type := Except String op.Answer

/-- How a statement ends, which transactions the server gives up before it, and what the sequence of the ids says. -/
structure AdmissionOutside where
  fate : Fate := .committed
  aborted : List Nat := []
  serial : Int := 0

section Statements
variable (platform : Platform)

/-- `UPDATE user_identities … FROM users active … RETURNING i.user_id`: the row, if it is neither disabled nor of an
inactive user. -/
def promotable (tables : AdmissionTables) (identity : Identity) : Option IdentityRow :=
  (tables.identities identity).filter fun row =>
    row.migrationState != .disabled && tables.users.any fun user => user.id == row.userId && user.isActive

/-- `SELECT 1 FROM users WHERE lower(username)=lower($1) OR lower(email)=lower($2)`. -/
def taken (tables : AdmissionTables) (username email : String) : Bool :=
  tables.users.any fun user =>
    platform.lower user.username == platform.lower username || platform.lower user.email == platform.lower email

/-- `ON CONFLICT DO NOTHING`, for the three unique columns. -/
def conflicts (tables : AdmissionTables) (user : UserRow) : Bool :=
  tables.users.any fun other => other.id == user.id || other.username == user.username || other.email == user.email

/-- The lock of an identity, with which the transaction may set its row. -/
def lockingIdentity {A : Type} (db : AdmissionDatabase platform) (tx : Nat) (identity : Identity)
    (row : Option IdentityRow) (answer : A) : Option (Except String A × AdmissionDatabase platform) :=
  match row with
  | none => db.locking tx (.advisory (identityKey platform identity)) id (fun _ _ _ => rfl) answer
  | some row => db.locking tx (.advisory (identityKey platform identity)) (setIdentity identity row)
      (setIdentity_confined platform identity row) answer

/-- What a statement does that is carried out. -/
def admissionStatement (db : AdmissionDatabase platform) (serial : Int) :
    (op : AdmissionOp) → Option (op.Reply × AdmissionDatabase platform)
  | .begin => some (.ok db.opened.length, db.begun)
  | .lockIdentity tx identity => db.inside tx fun _ => lockingIdentity platform db tx identity none ()
  | .promote tx identity => db.inside tx fun held =>
      match promotable (db.view held) identity with
      | none => some (.ok none, db)
      | some row =>
          lockingIdentity platform db tx identity (some { row with migrationState := .linked }) (some row.userId)
  | .identityExists tx identity => db.inside tx fun held =>
      some (.ok ((db.view held).identities identity).isSome, db)
  | .lockClaim tx claim => db.inside tx fun _ =>
      db.locking tx (.advisory (claimKey platform claim)) id (fun _ _ _ => rfl) ()
  | .lockUsers tx => db.inside tx fun _ => db.locking tx .users id (fun _ _ _ => rfl) ()
  | .claimsTaken tx username email => db.inside tx fun held =>
      some (.ok (taken platform (db.view held) username email), db)
  | .insertUser tx username email => db.inside tx fun held =>
      let user : UserRow := { id := serial, username, email, isActive := true }
      if conflicts (db.view held) user then some (.ok none, db)
      else db.locking tx .users (addUser user) (addUser_confined platform user) (some serial)
  | .insertIdentity tx userId identity => db.inside tx fun held =>
      if ((db.view held).identities identity).isSome then some (.error "duplicate key value", db)
      else lockingIdentity platform db tx identity (some { userId, migrationState := .linked }) ()
  | .commit tx => db.inside tx fun held => some (.ok (), db.commit tx held)
  | .rollback tx => some (.ok (), db.close tx)

/-- A commit may fail before or after it took effect. -/
def admissionServe : Service (AdmissionDatabase platform) AdmissionOp AdmissionOp.Reply AdmissionOutside :=
  fun before op outside =>
    let db := before.abortAll outside.aborted
    match outside.fate with
    | .committed => admissionStatement platform db outside.serial op
    | .rolledBack error =>
        match op with
        | .commit tx => some (.error error, db.close tx)
        | _ => some (.error error, db)
    | .unacknowledged error =>
        match op with
        | .commit tx => db.inside tx fun held => some (.error error, db.commit tx held)
        | _ => some (.error error, db)

end Statements

/-! ### promote_oidc_identity -/

abbrev AdmissionProgram (α : Type) : Type := Program AdmissionOp AdmissionOp.Reply α

inductive OidcAdmission where
  | user (id : Int)
  | unlinked
  | claimsRequired
  | collision
  deriving DecidableEq

abbrev Admitted : Type := Except String OidcAdmission

/-- A transaction that is dropped is rolled back. -/
def abandon (tx : Nat) (error : String) : AdmissionProgram Admitted := do
  let _ ← perform (AdmissionOp.rollback tx)
  return .error error

def commitWith (tx : Nat) (admission : OidcAdmission) : AdmissionProgram Admitted := do
  match ← perform (AdmissionOp.commit tx) with
  | .error error => return .error error
  | .ok () => return .ok admission

/-- The end of the transaction, once the claims are locked. -/
def register (tx : Nat) (identity : Identity) (username email : String) : AdmissionProgram Admitted := do
  match ← perform (AdmissionOp.lockUsers tx) with
  | .error error => abandon tx error
  | .ok () =>
      match ← perform (AdmissionOp.claimsTaken tx username email) with
      | .error error => abandon tx error
      | .ok true => commitWith tx .collision
      | .ok false =>
          match ← perform (AdmissionOp.insertUser tx username email) with
          | .error error => abandon tx error
          | .ok none => commitWith tx .collision
          | .ok (some userId) =>
              match ← perform (AdmissionOp.insertIdentity tx userId identity) with
              | .error error => abandon tx error
              | .ok () => commitWith tx (.user userId)

def lockClaims (tx : Nat) (after : AdmissionProgram Admitted) : List String → AdmissionProgram Admitted
  | [] => after
  | claim :: rest => do
      match ← perform (AdmissionOp.lockClaim tx claim) with
      | .error error => abandon tx error
      | .ok () => lockClaims tx after rest

def promoteOidcIdentity (platform : Platform) (identity : AccessIdentity) : AdmissionProgram Admitted := do
  match ← perform AdmissionOp.begin with
  | .error error => return .error error
  | .ok tx =>
      match ← perform (AdmissionOp.lockIdentity tx identity.toIdentity) with
      | .error error => abandon tx error
      | .ok () =>
          match ← perform (AdmissionOp.promote tx identity.toIdentity) with
          | .error error => abandon tx error
          | .ok (some userId) => commitWith tx (.user userId)
          | .ok none =>
              match ← perform (AdmissionOp.identityExists tx identity.toIdentity) with
              | .error error => abandon tx error
              | .ok true => commitWith tx .unlinked
              | .ok false =>
                  match oidcRegistrationClaims platform identity with
                  | none => commitWith tx .claimsRequired
                  | some (username, email) =>
                      lockClaims tx (register tx identity.toIdentity username email)
                        (["email:" ++ email, "username:" ++ username].insertionSort (· ≤ ·))

/-- The admission of an identity, with the identity that it is about. -/
def admissionCode (platform : Platform) (identity : AccessIdentity) : AdmissionProgram (Identity × Admitted) := do
  let admitted ← promoteOidcIdentity platform identity
  return (identity.toIdentity, admitted)

section Runs
variable (platform : Platform)

abbrev AdmissionTurn : Type :=
  Turn (AdmissionDatabase platform) AdmissionOp AdmissionOp.Reply (Identity × Admitted)

abbrev AdmissionRunState : Type :=
  State (AdmissionDatabase platform) AdmissionOp AdmissionOp.Reply (Identity × Admitted)

abbrev AdmissionRun (start : AdmissionTables) (history : List (AdmissionTurn platform))
    (state : AdmissionRunState platform) : Prop :=
  Run (admissionServe platform).handler (admissionCode platform) ⟨{ committed := start }, []⟩ history state

end Runs

/-! ### One step -/

section Step
variable {platform : Platform}

/-- What a statement may do. -/
inductive AdmissionStep (db : AdmissionDatabase platform) : (op : AdmissionOp) → op.Reply → AdmissionDatabase platform → Prop where
  | failed (op : AdmissionOp) (error : String) : AdmissionStep db op (.error error) db
  | lost (tx : Nat) (error : String) : AdmissionStep db (.commit tx) (.error error) (db.close tx)
  | unheard {tx : Nat} {held : Transaction (admissionGuard platform)} (opened : db.find tx = some held) (error : String) :
      AdmissionStep db (.commit tx) (.error error) (db.commit tx held)
  | committed {tx : Nat} {held : Transaction (admissionGuard platform)} (opened : db.find tx = some held) :
      AdmissionStep db (.commit tx) (.ok ()) (db.commit tx held)
  | rolledBack (tx : Nat) : AdmissionStep db (.rollback tx) (.ok ()) (db.close tx)
  | begun : AdmissionStep db .begin (.ok db.opened.length) db.begun
  | lockedIdentity {tx : Nat} {identity : Identity} {held : Transaction (admissionGuard platform)}
      (opened : db.find tx = some held) (free : db.Free tx (.advisory (identityKey platform identity))) :
      AdmissionStep db (.lockIdentity tx identity) (.ok ()) (db.acquire tx _ free)
  | notPromoted {tx : Nat} {identity : Identity} {held : Transaction (admissionGuard platform)}
      (opened : db.find tx = some held) : AdmissionStep db (.promote tx identity) (.ok none) db
  | promoted {tx : Nat} {identity : Identity} {row : IdentityRow} {held : Transaction (admissionGuard platform)}
      (opened : db.find tx = some held) (active : promotable (db.view held) identity = some row)
      (free : db.Free tx (.advisory (identityKey platform identity))) :
      AdmissionStep db (.promote tx identity) (.ok (some row.userId))
        (db.write tx _ free (setIdentity identity { row with migrationState := .linked })
          (setIdentity_confined platform identity _))
  | looked {tx : Nat} {identity : Identity} {held : Transaction (admissionGuard platform)} {present : Bool}
      (opened : db.find tx = some held) (seen : ((db.view held).identities identity).isSome = present) :
      AdmissionStep db (.identityExists tx identity) (.ok present) db
  | lockedClaim {tx : Nat} {claim : String} {held : Transaction (admissionGuard platform)}
      (opened : db.find tx = some held) (free : db.Free tx (.advisory (claimKey platform claim))) :
      AdmissionStep db (.lockClaim tx claim) (.ok ()) (db.acquire tx _ free)
  | lockedUsers {tx : Nat} {held : Transaction (admissionGuard platform)} (opened : db.find tx = some held)
      (free : db.Free tx .users) : AdmissionStep db (.lockUsers tx) (.ok ()) (db.acquire tx _ free)
  | searched {tx : Nat} {username email : String} {held : Transaction (admissionGuard platform)} {there : Bool}
      (opened : db.find tx = some held) (seen : taken platform (db.view held) username email = there) :
      AdmissionStep db (.claimsTaken tx username email) (.ok there) db
  | conflicted (tx : Nat) (username email : String) : AdmissionStep db (.insertUser tx username email) (.ok none) db
  | inserted {tx : Nat} {user : UserRow} {held : Transaction (admissionGuard platform)}
      (opened : db.find tx = some held) (free : db.Free tx .users) (active : user.isActive = true)
      (distinct : conflicts (db.view held) user = false) :
      AdmissionStep db (.insertUser tx user.username user.email) (.ok (some user.id))
        (db.write tx _ free (addUser user) (addUser_confined platform user))
  | bound {tx : Nat} {userId : Int} {identity : Identity} {held : Transaction (admissionGuard platform)}
      (opened : db.find tx = some held) (free : db.Free tx (.advisory (identityKey platform identity))) :
      AdmissionStep db (.insertIdentity tx userId identity) (.ok ())
        (db.write tx _ free (setIdentity identity { userId, migrationState := .linked })
          (setIdentity_confined platform identity _))

theorem admissionStatement_step {db after : AdmissionDatabase platform} {serial : Int} {op : AdmissionOp} {reply : op.Reply}
    (carried : admissionStatement platform db serial op = some (reply, after)) : AdmissionStep db op reply after := by
  cases op with
  | begin =>
      cases carried
      exact .begun
  | rollback tx =>
      cases carried
      exact .rolledBack tx
  | lockIdentity tx identity =>
      rcases Database.inside_cases carried with ⟨rfl, rfl⟩ | ⟨held, opened, carried⟩
      · exact .failed _ _
      · obtain ⟨free, rfl, rfl⟩ := Database.locking_cases carried
        exact .lockedIdentity opened free
  | promote tx identity =>
      rcases Database.inside_cases carried with ⟨rfl, rfl⟩ | ⟨held, opened, carried⟩
      · exact .failed _ _
      · cases active : promotable (db.view held) identity with
        | none =>
            rw [active] at carried
            cases carried
            exact .notPromoted opened
        | some row =>
            rw [active] at carried
            obtain ⟨free, rfl, rfl⟩ := Database.locking_cases carried
            exact .promoted opened active free
  | identityExists tx identity =>
      rcases Database.inside_cases carried with ⟨rfl, rfl⟩ | ⟨held, opened, carried⟩
      · exact .failed _ _
      · cases carried
        exact .looked opened rfl
  | lockClaim tx claim =>
      rcases Database.inside_cases carried with ⟨rfl, rfl⟩ | ⟨held, opened, carried⟩
      · exact .failed _ _
      · obtain ⟨free, rfl, rfl⟩ := Database.locking_cases carried
        exact .lockedClaim opened free
  | lockUsers tx =>
      rcases Database.inside_cases carried with ⟨rfl, rfl⟩ | ⟨held, opened, carried⟩
      · exact .failed _ _
      · obtain ⟨free, rfl, rfl⟩ := Database.locking_cases carried
        exact .lockedUsers opened free
  | claimsTaken tx username email =>
      rcases Database.inside_cases carried with ⟨rfl, rfl⟩ | ⟨held, opened, carried⟩
      · exact .failed _ _
      · cases carried
        exact .searched opened rfl
  | insertUser tx username email =>
      rcases Database.inside_cases carried with ⟨rfl, rfl⟩ | ⟨held, opened, carried⟩
      · exact .failed _ _
      · simp only at carried
        split_ifs at carried with conflict
        · cases carried
          exact .conflicted tx username email
        · obtain ⟨free, rfl, rfl⟩ := Database.locking_cases carried
          exact @AdmissionStep.inserted platform db tx ⟨serial, username, email, true⟩ held opened free rfl (by simpa using conflict)
  | insertIdentity tx userId identity =>
      rcases Database.inside_cases carried with ⟨rfl, rfl⟩ | ⟨held, opened, carried⟩
      · exact .failed _ _
      · split_ifs at carried with present
        · cases carried
          exact .failed _ _
        · obtain ⟨free, rfl, rfl⟩ := Database.locking_cases carried
          exact .bound opened free
  | commit tx =>
      rcases Database.inside_cases carried with ⟨rfl, rfl⟩ | ⟨held, opened, carried⟩
      · exact .failed _ _
      · cases carried
        exact .committed opened

theorem admission_step {before after : AdmissionDatabase platform} {op : AdmissionOp} {reply : op.Reply}
    (served : (admissionServe platform).handler before op reply after) :
    ∃ ids, AdmissionStep (before.abortAll ids) op reply after := by
  obtain ⟨⟨fate, ids, serial⟩, served⟩ := served
  refine ⟨ids, ?_⟩
  cases fate with
  | committed => exact admissionStatement_step served
  | rolledBack error =>
      cases op with
      | commit tx =>
          cases served
          exact .lost tx error
      | _ =>
          cases served
          exact .failed _ error
  | unacknowledged error =>
      cases op with
      | commit tx =>
          rcases Database.inside_cases served with ⟨rfl, rfl⟩ | ⟨held, opened, served⟩
          · exact .failed _ _
          · cases served
            exact .unheard opened error
      | _ =>
          cases served
          exact .failed _ error

end Step

/-! ### The stages of an admission -/

inductive AdmissionPhase where
  | free
  | begun (tx : Nat)
  | locked (tx : Nat) (identity : Identity)
  | promoted (tx : Nat) (identity : Identity) (userId : Int)
  | missed (tx : Nat) (identity : Identity)
  | unknown (tx : Nat) (identity : Identity)
  | usersLocked (tx : Nat) (identity : Identity)
  | clear (tx : Nat) (identity : Identity) (username email : String)
  | created (tx : Nat) (identity : Identity) (username email : String) (userId : Int)
  | bound (tx : Nat) (identity : Identity) (username email : String) (userId : Int)
  | settled (tx : Nat)
  | through (admitted : Option (Identity × Int))

def AdmissionPhase.transaction : AdmissionPhase → Option Nat
  | .free => none
  | .begun tx => some tx
  | .locked tx _ => some tx
  | .promoted tx _ _ => some tx
  | .missed tx _ => some tx
  | .unknown tx _ => some tx
  | .usersLocked tx _ => some tx
  | .clear tx _ _ _ => some tx
  | .created tx _ _ _ _ => some tx
  | .bound tx _ _ _ _ => some tx
  | .settled tx => some tx
  | .through _ => none

/-- Whom the commit admits. -/
def AdmissionPhase.admits : AdmissionPhase → Option (Identity × Int)
  | .promoted _ identity userId => some (identity, userId)
  | .bound _ identity _ _ userId => some (identity, userId)
  | _ => none

/-- The stages in which the transaction may commit. -/
def AdmissionPhase.complete : AdmissionPhase → Bool
  | .promoted _ _ _ => true
  | .bound _ _ _ _ _ => true
  | .unknown _ _ => true
  | .settled _ => true
  | _ => false

def admissionNext (phase : AdmissionPhase) : (op : AdmissionOp) → op.Reply → Option AdmissionPhase
  | .begin => fun reply =>
      match phase with
      | .free => some (onAnswer .free reply .begun)
      | _ => none
  | .lockIdentity other identity => fun reply =>
      match phase with
      | .begun tx => if other = tx then some (onAnswer phase reply fun _ => .locked tx identity) else none
      | _ => none
  | .promote other named => fun reply =>
      match phase with
      | .locked tx identity =>
          if other = tx ∧ named = identity then
            some (onAnswer phase reply fun userId : Option Int => userId.elim (.missed tx identity) (.promoted tx identity))
          else none
      | _ => none
  | .identityExists other named => fun reply =>
      match phase with
      | .missed tx identity =>
          if other = tx ∧ named = identity then
            some (onAnswer phase reply fun present : Bool => if present then .settled tx else .unknown tx identity)
          else none
      | _ => none
  | .lockClaim other _ => fun reply =>
      match phase with
      | .unknown tx identity => if other = tx then some (onAnswer phase reply fun _ => .unknown tx identity) else none
      | _ => none
  | .lockUsers other => fun reply =>
      match phase with
      | .unknown tx identity => if other = tx then some (onAnswer phase reply fun _ => .usersLocked tx identity) else none
      | _ => none
  | .claimsTaken other username email => fun reply =>
      match phase with
      | .usersLocked tx identity =>
          if other = tx then
            some (onAnswer phase reply fun there : Bool => if there then .settled tx else .clear tx identity username email)
          else none
      | _ => none
  | .insertUser other username email => fun reply =>
      match phase with
      | .clear tx identity username' email' =>
          if other = tx ∧ username = username' ∧ email = email' then
            some (onAnswer phase reply fun userId : Option Int =>
              userId.elim (.settled tx) (.created tx identity username email))
          else none
      | _ => none
  | .insertIdentity other userId named => fun reply =>
      match phase with
      | .created tx identity username email userId' =>
          if other = tx ∧ userId = userId' ∧ named = identity then
            some (onAnswer phase reply fun _ => .bound tx identity username email userId)
          else none
      | _ => none
  | .commit other => fun reply =>
      if phase.transaction = some other ∧ phase.complete then
        some (onAnswer (.through none) reply fun _ => .through phase.admits)
      else none
  | .rollback other => fun _ => if phase.transaction = some other then some (.through none) else none

def committing : AdmissionOp → Bool
  | .commit _ => true
  | _ => false

inductive AdmissionMove : AdmissionPhase → (op : AdmissionOp) → op.Reply → AdmissionPhase → Prop where
  | failed (phase : AdmissionPhase) {op : AdmissionOp} (stays : committing op = false) (error : String) :
      AdmissionMove phase op (.error error) phase
  | begin (tx : Nat) : AdmissionMove .free .begin (.ok tx) (.begun tx)
  | lock (tx : Nat) (identity : Identity) :
      AdmissionMove (.begun tx) (.lockIdentity tx identity) (.ok ()) (.locked tx identity)
  | miss (tx : Nat) (identity : Identity) :
      AdmissionMove (.locked tx identity) (.promote tx identity) (.ok none) (.missed tx identity)
  | promote (tx : Nat) (identity : Identity) (userId : Int) :
      AdmissionMove (.locked tx identity) (.promote tx identity) (.ok (some userId)) (.promoted tx identity userId)
  | unlinked (tx : Nat) (identity : Identity) :
      AdmissionMove (.missed tx identity) (.identityExists tx identity) (.ok true) (.settled tx)
  | unknown (tx : Nat) (identity : Identity) :
      AdmissionMove (.missed tx identity) (.identityExists tx identity) (.ok false) (.unknown tx identity)
  | claim (tx : Nat) (identity : Identity) (text : String) :
      AdmissionMove (.unknown tx identity) (.lockClaim tx text) (.ok ()) (.unknown tx identity)
  | users (tx : Nat) (identity : Identity) :
      AdmissionMove (.unknown tx identity) (.lockUsers tx) (.ok ()) (.usersLocked tx identity)
  | taken (tx : Nat) (identity : Identity) (username email : String) :
      AdmissionMove (.usersLocked tx identity) (.claimsTaken tx username email) (.ok true) (.settled tx)
  | clear (tx : Nat) (identity : Identity) (username email : String) :
      AdmissionMove (.usersLocked tx identity) (.claimsTaken tx username email) (.ok false)
        (.clear tx identity username email)
  | conflict (tx : Nat) (identity : Identity) (username email : String) :
      AdmissionMove (.clear tx identity username email) (.insertUser tx username email) (.ok none) (.settled tx)
  | create (tx : Nat) (identity : Identity) (username email : String) (userId : Int) :
      AdmissionMove (.clear tx identity username email) (.insertUser tx username email) (.ok (some userId))
        (.created tx identity username email userId)
  | bind (tx : Nat) (identity : Identity) (username email : String) (userId : Int) :
      AdmissionMove (.created tx identity username email userId) (.insertIdentity tx userId identity) (.ok ())
        (.bound tx identity username email userId)
  | commit {phase : AdmissionPhase} {tx : Nat} (mine : phase.transaction = some tx) (complete : phase.complete = true) :
      AdmissionMove phase (.commit tx) (.ok ()) (.through phase.admits)
  | uncertain {phase : AdmissionPhase} {tx : Nat} (mine : phase.transaction = some tx) (complete : phase.complete = true)
      (error : String) : AdmissionMove phase (.commit tx) (.error error) (.through none)
  | abandon {phase : AdmissionPhase} {tx : Nat} (mine : phase.transaction = some tx) (reply : Except String Unit) :
      AdmissionMove phase (.rollback tx) reply (.through none)

theorem onAnswer_move {phase : AdmissionPhase} {op : AdmissionOp} {reply : op.Reply} {next : op.Answer → AdmissionPhase}
    (stays : committing op = false) (moves : ∀ answer, AdmissionMove phase op (.ok answer) (next answer)) :
    AdmissionMove phase op reply (onAnswer phase reply next) := by
  cases reply with
  | error error => exact .failed phase stays error
  | ok answer => exact moves answer

theorem admission_move {phase next : AdmissionPhase} {op : AdmissionOp} {reply : op.Reply}
    (moved : admissionNext phase op reply = some next) : AdmissionMove phase op reply next := by
  cases op with
  | begin =>
      cases phase <;> cases moved
      exact onAnswer_move rfl .begin
  | lockIdentity other identity =>
      cases phase with
      | begun tx =>
          simp only [admissionNext] at moved
          split_ifs at moved with same
          subst same
          cases moved
          exact onAnswer_move rfl fun _ => .lock _ identity
      | _ => cases moved
  | promote other named =>
      cases phase with
      | locked tx identity =>
          simp only [admissionNext] at moved
          split_ifs at moved with same
          obtain ⟨rfl, rfl⟩ := same
          cases moved
          refine onAnswer_move rfl ?_
          rintro (_ | userId)
          · exact .miss _ _
          · exact .promote _ _ userId
      | _ => cases moved
  | identityExists other named =>
      cases phase with
      | missed tx identity =>
          simp only [admissionNext] at moved
          split_ifs at moved with same
          obtain ⟨rfl, rfl⟩ := same
          cases moved
          refine onAnswer_move rfl ?_
          rintro (_ | _)
          · exact .unknown _ _
          · exact .unlinked _ _
      | _ => cases moved
  | lockClaim other text =>
      cases phase with
      | unknown tx identity =>
          simp only [admissionNext] at moved
          split_ifs at moved with same
          subst same
          cases moved
          exact onAnswer_move rfl fun _ => .claim _ identity text
      | _ => cases moved
  | lockUsers other =>
      cases phase with
      | unknown tx identity =>
          simp only [admissionNext] at moved
          split_ifs at moved with same
          subst same
          cases moved
          exact onAnswer_move rfl fun _ => .users _ identity
      | _ => cases moved
  | claimsTaken other username email =>
      cases phase with
      | usersLocked tx identity =>
          simp only [admissionNext] at moved
          split_ifs at moved with same
          subst same
          cases moved
          refine onAnswer_move rfl ?_
          rintro (_ | _)
          · exact .clear _ identity username email
          · exact .taken _ identity username email
      | _ => cases moved
  | insertUser other username email =>
      cases phase with
      | clear tx identity username' email' =>
          simp only [admissionNext] at moved
          split_ifs at moved with same
          obtain ⟨rfl, rfl, rfl⟩ := same
          cases moved
          refine onAnswer_move rfl ?_
          rintro (_ | userId)
          · exact .conflict _ identity _ _
          · exact .create _ identity _ _ userId
      | _ => cases moved
  | insertIdentity other userId named =>
      cases phase with
      | created tx identity username email userId' =>
          simp only [admissionNext] at moved
          split_ifs at moved with same
          obtain ⟨rfl, rfl, rfl⟩ := same
          cases moved
          exact onAnswer_move rfl fun _ => .bind _ _ username email _
      | _ => cases moved
  | commit other =>
      simp only [admissionNext] at moved
      split_ifs at moved with mine
      cases moved
      cases reply with
      | error error => exact .uncertain mine.1 mine.2 error
      | ok => exact .commit mine.1 mine.2
  | rollback other =>
      simp only [admissionNext] at moved
      split_ifs at moved with mine
      cases moved
      exact .abandon mine reply

/-- A request that has admitted somebody has committed that. -/
def admissionEnds (phase : AdmissionPhase) (result : Identity × Admitted) : Prop :=
  ∀ userId, result.2 = .ok (.user userId) → phase = .through (some (result.1, userId))

/-- The same, for an identity that is known. -/
def endsFor (identity : Identity) (phase : AdmissionPhase) (admitted : Admitted) : Prop :=
  ∀ userId, admitted = .ok (.user userId) → phase = .through (some (identity, userId))

theorem abandon_follows {identity : Identity} {phase : AdmissionPhase} {tx : Nat} (mine : phase.transaction = some tx)
    (error : String) : Follows admissionNext (endsFor identity) phase (abandon tx error) :=
  fun _ => ⟨.through none, if_pos mine, nofun⟩

theorem commitWith_follows {identity : Identity} {phase : AdmissionPhase} {tx : Nat} {admission : OidcAdmission}
    (mine : phase.transaction = some tx) (complete : phase.complete = true)
    (admits : ∀ userId, admission = .user userId → phase.admits = some (identity, userId)) :
    Follows admissionNext (endsFor identity) phase (commitWith tx admission) := by
  intro reply
  refine ⟨_, if_pos ⟨mine, complete⟩, ?_⟩
  cases reply with
  | error error => exact nofun
  | ok =>
      intro userId same
      cases same
      exact congrArg AdmissionPhase.through (admits userId rfl)

theorem register_follows (tx : Nat) (identity : Identity) (username email : String) :
    Follows admissionNext (endsFor identity) (.unknown tx identity) (register tx identity username email) := by
  rintro (error | ⟨⟩)
  · exact ⟨_, if_pos rfl, abandon_follows rfl error⟩
  refine ⟨_, if_pos rfl, ?_⟩
  rintro (error | _ | _)
  · exact ⟨_, if_pos rfl, abandon_follows rfl error⟩
  · refine ⟨_, if_pos rfl, ?_⟩
    rintro (error | _ | userId)
    · exact ⟨_, if_pos ⟨rfl, rfl, rfl⟩, abandon_follows rfl error⟩
    · exact ⟨_, if_pos ⟨rfl, rfl, rfl⟩, commitWith_follows rfl rfl nofun⟩
    · refine ⟨_, if_pos ⟨rfl, rfl, rfl⟩, ?_⟩
      rintro (error | ⟨⟩)
      · exact ⟨_, if_pos ⟨rfl, rfl, rfl⟩, abandon_follows rfl error⟩
      · refine ⟨_, if_pos ⟨rfl, rfl, rfl⟩, commitWith_follows rfl rfl ?_⟩
        rintro userId' ⟨⟩
        rfl
  · exact ⟨_, if_pos rfl, commitWith_follows rfl rfl nofun⟩

theorem lockClaims_follows {tx : Nat} {identity : Identity} {after : AdmissionProgram Admitted} (claims : List String)
    (rest : Follows admissionNext (endsFor identity) (.unknown tx identity) after) :
    Follows admissionNext (endsFor identity) (.unknown tx identity) (lockClaims tx after claims) := by
  induction claims with
  | nil => exact rest
  | cons claim claims ih =>
      rintro (error | ⟨⟩)
      · exact ⟨_, if_pos rfl, abandon_follows rfl error⟩
      · exact ⟨_, if_pos rfl, ih⟩

theorem promoteOidcIdentity_follows (platform : Platform) (identity : AccessIdentity) :
    Follows admissionNext (endsFor identity.toIdentity) .free (promoteOidcIdentity platform identity) := by
  rintro (error | tx)
  · exact ⟨.free, rfl, nofun⟩
  refine ⟨_, rfl, ?_⟩
  rintro (error | ⟨⟩)
  · exact ⟨_, if_pos rfl, abandon_follows rfl error⟩
  refine ⟨_, if_pos rfl, ?_⟩
  rintro (error | _ | userId)
  · exact ⟨_, if_pos ⟨rfl, rfl⟩, abandon_follows rfl error⟩
  · refine ⟨_, if_pos ⟨rfl, rfl⟩, ?_⟩
    rintro (error | _ | _)
    · exact ⟨_, if_pos ⟨rfl, rfl⟩, abandon_follows rfl error⟩
    · refine ⟨_, if_pos ⟨rfl, rfl⟩, ?_⟩
      cases claims : oidcRegistrationClaims platform identity with
      | none => exact commitWith_follows rfl rfl nofun
      | some pair =>
          obtain ⟨username, email⟩ := pair
          exact lockClaims_follows _ (register_follows tx identity.toIdentity username email)
    · exact ⟨_, if_pos ⟨rfl, rfl⟩, commitWith_follows rfl rfl nofun⟩
  · refine ⟨_, if_pos ⟨rfl, rfl⟩, commitWith_follows rfl rfl ?_⟩
    rintro userId' ⟨⟩
    rfl

theorem admissionCode_follows (platform : Platform) (identity : AccessIdentity) :
    Follows admissionNext admissionEnds .free (admissionCode platform identity) := by
  apply follows_then (promoteOidcIdentity_follows platform identity)
  intro phase admitted ends userId same
  exact ends userId same

/-! ### What a transaction has done by a stage -/

section Told
variable {platform : Platform}

/-- The transaction has the lock of an identity that is bound to nobody. -/
def Vacant (identity : Identity) (held : Transaction (admissionGuard platform)) (tables : AdmissionTables) : Prop :=
  .advisory (identityKey platform identity) ∈ held.locks ∧ tables.identities identity = none

/-- It has the lock of the users, too, of whom none has one of the claims. -/
def Unclaimed (identity : Identity) (username email : String) (held : Transaction (admissionGuard platform))
    (tables : AdmissionTables) : Prop :=
  Vacant identity held tables ∧ .users ∈ held.locks ∧ taken platform tables username email = false

def newUser (username email : String) (userId : Int) : UserRow := { id := userId, username, email, isActive := true }

def NewId (userId : Int) (tables : AdmissionTables) : Prop := ∀ user ∈ tables.users, user.id ≠ userId

def told (phase : AdmissionPhase) (held : Transaction (admissionGuard platform)) (tables : AdmissionTables) : Prop :=
  match phase with
  | .free => True
  | .begun _ => held.change = id
  | .locked _ identity => held.change = id ∧ .advisory (identityKey platform identity) ∈ held.locks
  | .promoted _ identity userId => .advisory (identityKey platform identity) ∈ held.locks ∧
      ∃ row, tables.identities identity = some row ∧ row.userId = userId ∧ row.migrationState ≠ .disabled ∧
        held.change = setIdentity identity { row with migrationState := .linked }
  | .missed _ identity => held.change = id ∧ .advisory (identityKey platform identity) ∈ held.locks
  | .unknown _ identity => held.change = id ∧ Vacant identity held tables
  | .usersLocked _ identity => held.change = id ∧ Vacant identity held tables ∧ .users ∈ held.locks
  | .clear _ identity username email => held.change = id ∧ Unclaimed identity username email held tables
  | .created _ identity username email userId => held.change = addUser (newUser username email userId) ∧
      Unclaimed identity username email held tables ∧ NewId userId tables
  | .bound _ identity username email userId =>
      held.change = setIdentity identity { userId, migrationState := .linked } ∘ addUser (newUser username email userId) ∧
        Unclaimed identity username email held tables ∧ NewId userId tables
  | .settled _ => held.change = id
  | .through _ => True

variable {held later : Transaction (admissionGuard platform)} {tables tables' : AdmissionTables} {identity : Identity}

/-- The values under the locks of a transaction are the same. -/
def SameLocked (held : Transaction (admissionGuard platform)) (tables tables' : AdmissionTables) : Prop :=
  ∀ lock ∈ held.locks, (admissionGuard platform).value lock tables' = (admissionGuard platform).value lock tables

theorem identity_kept (kept : SameLocked held tables tables')
    (locked : .advisory (identityKey platform identity) ∈ held.locks) :
    tables'.identities identity = tables.identities identity := by
  have same := congrFun (show (_ : Identity → Option IdentityRow) = _ from kept _ locked) identity
  simpa [admissionGuard, AdmissionLock.value] using same

theorem users_kept (kept : SameLocked held tables tables') (locked : AdmissionLock.users ∈ held.locks) :
    tables'.users = tables.users := kept _ locked

theorem vacant_kept (kept : SameLocked held tables tables') (vacant : Vacant identity held tables) :
    Vacant identity held tables' :=
  ⟨vacant.1, (identity_kept kept vacant.1).trans vacant.2⟩

theorem unclaimed_kept {username email : String} (kept : SameLocked held tables tables')
    (unclaimed : Unclaimed identity username email held tables) : Unclaimed identity username email held tables' := by
  obtain ⟨vacant, locked, absent⟩ := unclaimed
  refine ⟨vacant_kept kept vacant, locked, ?_⟩
  rwa [taken, users_kept kept locked]

theorem told_stable : Stable (@told platform) := by
  intro phase held tables tables' known kept
  cases phase with
  | free | through => trivial
  | begun | settled | locked | missed => exact known
  | promoted tx identity userId =>
      obtain ⟨locked, row, present, rest⟩ := known
      exact ⟨locked, row, (identity_kept kept locked).trans present, rest⟩
  | unknown tx identity => exact ⟨known.1, vacant_kept kept known.2⟩
  | usersLocked tx identity => exact ⟨known.1, vacant_kept kept known.2.1, known.2.2⟩
  | clear tx identity username email => exact ⟨known.1, unclaimed_kept kept known.2⟩
  | created tx identity username email userId | bound tx identity username email userId =>
      obtain ⟨changed, unclaimed, fresh⟩ := known
      refine ⟨changed, unclaimed_kept kept unclaimed, ?_⟩
      rwa [NewId, users_kept kept unclaimed.2.1]

theorem vacant_more (vacant : Vacant identity held tables) (more : ∀ lock ∈ held.locks, lock ∈ later.locks) :
    Vacant identity later tables := ⟨more _ vacant.1, vacant.2⟩

theorem unclaimed_more {username email : String} (unclaimed : Unclaimed identity username email held tables)
    (more : ∀ lock ∈ held.locks, lock ∈ later.locks) : Unclaimed identity username email later tables :=
  ⟨vacant_more unclaimed.1 more, more _ unclaimed.2.1, unclaimed.2.2⟩

end Told

/-! ### What a commit does to the tables -/

/-- Bindings stay, users stay, and who is newly bound is bound to a user who was not there. -/
structure Grows (earlier later : AdmissionTables) : Prop where
  bindings : ∀ identity row, earlier.identities identity = some row → ∃ row', later.identities identity = some row' ∧
    row'.userId = row.userId ∧ (row.migrationState = .disabled ↔ row'.migrationState = .disabled)
  fresh : ∀ identity row, earlier.identities identity = none → later.identities identity = some row →
    ∀ user ∈ earlier.users, user.id ≠ row.userId
  users : ∀ user ∈ earlier.users, user ∈ later.users

theorem Grows.refl (tables : AdmissionTables) : Grows tables tables where
  bindings := fun _ row present => ⟨row, present, rfl, Iff.rfl⟩
  fresh := by
    intro identity row absent present
    rw [absent] at present
    cases present
  users := fun _ member => member

theorem Grows.trans {earlier middle later : AdmissionTables} (first : Grows earlier middle) (second : Grows middle later) :
    Grows earlier later where
  bindings := by
    intro identity row present
    obtain ⟨row', present', same, disabled⟩ := first.bindings identity row present
    obtain ⟨row'', present'', same', disabled'⟩ := second.bindings identity row' present'
    exact ⟨row'', present'', same'.trans same, disabled.trans disabled'⟩
  fresh := by
    intro identity row absent present user member
    cases between : middle.identities identity with
    | none => exact second.fresh identity row between present user (first.users user member)
    | some row' =>
        obtain ⟨row'', present', same, -⟩ := second.bindings identity row' between
        obtain rfl : row'' = row := Option.some.inj (present'.symm.trans present)
        rw [same]
        exact first.fresh identity row' absent between user member
  users := fun user member => second.users user (first.users user member)

/-- The identity is bound to this user, who is active, and is not disabled. -/
def IsAdmitted (tables : AdmissionTables) (identity : Identity) (userId : Int) : Prop :=
  (∃ row, tables.identities identity = some row ∧ row.userId = userId ∧ row.migrationState ≠ .disabled) ∧
    ∃ user ∈ tables.users, user.id = userId ∧ user.isActive = true

theorem IsAdmitted.later {earlier later : AdmissionTables} {identity : Identity} {userId : Int} (grows : Grows earlier later)
    (admitted : IsAdmitted earlier identity userId) : IsAdmitted later identity userId := by
  obtain ⟨⟨row, present, same, enabled⟩, user, member, own⟩ := admitted
  obtain ⟨row', present', same', disabled⟩ := grows.bindings identity row present
  exact ⟨⟨row', present', same'.trans same, fun now => enabled (disabled.mpr now)⟩, user, grows.users user member, own⟩

section Commit
variable {platform : Platform} {phase : AdmissionPhase} {held : Transaction (admissionGuard platform)}
  {tables : AdmissionTables}

theorem setIdentity_grows {identity : Identity} {row : IdentityRow} (present : tables.identities identity = some row)
    (enabled : row.migrationState ≠ .disabled) :
    Grows tables (setIdentity identity { row with migrationState := .linked } tables) where
  bindings := by
    intro other row' present'
    by_cases same : other = identity
    · subst same
      obtain rfl : row = row' := Option.some.inj (present.symm.trans present')
      exact ⟨{ row with migrationState := .linked }, by simp, rfl, by simp [enabled]⟩
    · exact ⟨row', (setIdentity_other same).trans present', rfl, Iff.rfl⟩
  fresh := by
    intro other row' absent present'
    by_cases same : other = identity
    · rw [same, present] at absent
      cases absent
    · rw [setIdentity_other same, absent] at present'
      cases present'
  users := fun _ member => member

theorem bind_grows {identity : Identity} {user : UserRow} (absent : tables.identities identity = none)
    (fresh : NewId user.id tables) :
    Grows tables (setIdentity identity { userId := user.id, migrationState := .linked } (addUser user tables)) where
  bindings := by
    intro other row present
    by_cases same : other = identity
    · rw [same, absent] at present
      cases present
    · exact ⟨row, (setIdentity_other same).trans present, rfl, Iff.rfl⟩
  fresh := by
    intro other row gone present
    by_cases same : other = identity
    · subst same
      rw [setIdentity_self] at present
      cases present
      exact fresh
    · rw [setIdentity_other same, addUser_identities, gone] at present
      cases present
  users := fun _ member => List.mem_append_left _ member

/-- Two users whose names and addresses differ in more than letter case. -/
def Apart (platform : Platform) (one other : UserRow) : Prop :=
  platform.lower one.username ≠ platform.lower other.username ∧ platform.lower one.email ≠ platform.lower other.email

/-- The users are those of the start and those created since, who are apart from all others. -/
def Registered (platform : Platform) (start tables : AdmissionTables) : Prop :=
  ∃ created, tables.users = start.users ++ created ∧ created.Pairwise (Apart platform) ∧
    ∀ old ∈ start.users, ∀ new ∈ created, Apart platform old new

theorem apart_of_unclaimed {username email : String} {userId : Int} {user : UserRow}
    (absent : taken platform tables username email = false) (member : user ∈ tables.users) :
    Apart platform user (newUser username email userId) := by
  have unlike := List.any_eq_false.mp absent user member
  simpa [Apart, newUser, not_or] using unlike

theorem registered_addUser {start : AdmissionTables} {username email : String} (userId : Int)
    (absent : taken platform tables username email = false) (registered : Registered platform start tables) :
    Registered platform start (addUser (newUser username email userId) tables) := by
  obtain ⟨created, users, pairwise, others⟩ := registered
  have apart : ∀ user ∈ tables.users, Apart platform user (newUser username email userId) :=
    fun user => apart_of_unclaimed absent
  refine ⟨created ++ [newUser username email userId], by simp [users], ?_, ?_⟩
  · rw [List.pairwise_append]
    refine ⟨pairwise, List.pairwise_singleton _ _, fun user member new listed => ?_⟩
    obtain rfl : new = newUser username email userId := by simpa using listed
    exact apart user (by simp [users, member])
  · intro old member new listed
    rcases List.mem_append.mp listed with listed | listed
    · exact others old member new listed
    · obtain rfl : new = newUser username email userId := by simpa using listed
      exact apart old (by simp [users, member])

/-- What a stage says of the users and of the bindings that no lock of its own protects. -/
def Known (tables : AdmissionTables) : AdmissionPhase → Prop
  | .promoted _ _ userId => ∃ user ∈ tables.users, user.id = userId ∧ user.isActive = true
  | .through (some (identity, userId)) => IsAdmitted tables identity userId
  | _ => True

theorem Known.later {later : AdmissionTables} (grows : Grows tables later) (known : Known tables phase) :
    Known later phase := by
  cases phase with
  | promoted tx identity userId =>
      obtain ⟨user, member, own⟩ := known
      exact ⟨user, grows.users user member, own⟩
  | through admitted =>
      cases admitted with
      | none => trivial
      | some pair => exact IsAdmitted.later grows known
  | _ => trivial

/-- What a commit leaves. -/
structure Leaves (platform : Platform) (phase : AdmissionPhase) (start before after : AdmissionTables) : Prop where
  grows : Grows before after
  registered : Registered platform start after
  known : Known after (.through phase.admits)

theorem commit_leaves {start : AdmissionTables} (so : told phase held tables) (complete : phase.complete = true)
    (registered : Registered platform start tables) (known : Known tables phase) :
    Leaves platform phase start tables (held.change tables) := by
  cases phase with
  | promoted tx identity userId =>
      obtain ⟨-, row, present, rfl, enabled, changed⟩ := so
      rw [changed]
      exact ⟨setIdentity_grows present enabled, registered,
        ⟨{ row with migrationState := .linked }, setIdentity_self .., rfl, nofun⟩, known⟩
  | bound tx identity username email userId =>
      obtain ⟨changed, ⟨⟨-, absent⟩, -, unclaimed⟩, fresh⟩ := so
      rw [changed]
      refine ⟨@bind_grows tables identity (newUser username email userId) absent fresh,
        registered_addUser userId unclaimed registered, ⟨_, setIdentity_self .., rfl, nofun⟩, ?_⟩
      exact ⟨newUser username email userId, by simp, rfl, rfl⟩
  | unknown tx identity =>
      rw [so.1]
      exact ⟨.refl tables, registered, trivial⟩
  | settled tx =>
      rw [show held.change = id from so]
      exact ⟨.refl tables, registered, trivial⟩
  | _ => cases complete

end Commit

/-! ### Every run -/

section Runs
variable {platform : Platform} {start : AdmissionTables} {db after : AdmissionDatabase platform}
  {phases : List AdmissionPhase} {phase next : AdmissionPhase} {op : AdmissionOp} {reply : op.Reply} {task : Nat}

structure AdmissionHeld (start : AdmissionTables) (db : AdmissionDatabase platform) (phases : List AdmissionPhase) :
    Prop where
  described : Described AdmissionPhase.transaction told phases db
  registered : Registered platform start db.committed
  known : ∀ phase ∈ phases, Known db.committed phase

theorem AdmissionHeld.aborts (held : AdmissionHeld start db phases) (ids : List Nat) :
    AdmissionHeld start (db.abortAll ids) phases where
  described := described_ends held.described (fun _ _ => Database.find_of_abortAll) (Database.abortAll_committed ids)
    (Database.abortAll_length ids)
  registered := by simpa using held.registered
  known := by simpa using held.known

/-- A step that commits nothing, of a program that owns the transaction. -/
theorem AdmissionHeld.moves {tx : Nat} (held : AdmissionHeld start db phases) (found : phases[task]? = some phase)
    (owned : phase.transaction = some tx ∨ tx = db.opened.length) (moves : OnlyMoves tx db after)
    (same : after.committed = db.committed) (ends : next.transaction = none ∨ next.transaction = some tx)
    (inside : next.transaction = some tx → tx < after.opened.length)
    (now : next.transaction = some tx → ∀ kept, after.find tx = some kept → told next kept db.committed)
    (known : Known db.committed next) : AdmissionHeld start after (phases.set task next) where
  described := described_moves told_stable held.described found owned moves ends inside (by rw [same]; exact now)
  registered := by rw [same]; exact held.registered
  known := by
    rw [same]
    intro other member
    rcases mem_set_cases member with rfl | ⟨index, -, listed⟩
    · exact known
    · exact held.known other (List.mem_of_getElem? listed)

/-- A statement that only looks. -/
theorem AdmissionHeld.reads {tx : Nat} (held : AdmissionHeld start db phases) (found : phases[task]? = some phase)
    (owned : phase.transaction = some tx) (ends : next.transaction = some tx)
    (now : ∀ kept, db.find tx = some kept → told phase kept db.committed → told next kept db.committed)
    (known : Known db.committed next) : AdmissionHeld start db (phases.set task next) :=
  held.moves found (Or.inl owned) (.refl tx db) rfl (Or.inr ends)
    (fun _ => held.described.inside task phase tx found owned)
    (fun _ kept opened => now kept opened (held.described.told task phase tx kept found owned opened)) known

/-- A statement that takes a lock, and perhaps changes what it protects. -/
theorem AdmissionHeld.writes {tx : Nat} {lock : AdmissionLock} {kept : Transaction (admissionGuard platform)}
    {free : db.Free tx lock} {change : AdmissionTables → AdmissionTables}
    {confined : ∀ other, other ≠ lock → ∀ tables,
      (admissionGuard platform).value other (change tables) = (admissionGuard platform).value other tables}
    (held : AdmissionHeld start db phases) (found : phases[task]? = some phase) (owned : phase.transaction = some tx)
    (opened : db.find tx = some kept) (ends : next.transaction = some tx)
    (now : ∀ later : Transaction (admissionGuard platform), later.locks = lock :: kept.locks →
      later.change = change ∘ kept.change → told phase kept db.committed → told next later db.committed)
    (known : Known db.committed next) :
    AdmissionHeld start (db.write tx lock free change confined) (phases.set task next) := by
  refine held.moves found (Or.inl owned) Database.write_moves rfl (Or.inr ends) ?_ ?_ known
  · intro _
    simpa using Database.find_inside opened
  · intro _ later listed
    obtain ⟨locks, changes⟩ := Database.find_write opened listed
    exact now later locks changes (held.described.told task phase tx kept found owned opened)

/-- A program that is through with its transaction. -/
theorem AdmissionHeld.frees {tx : Nat} (held : AdmissionHeld start db phases) (found : phases[task]? = some phase)
    (owned : phase.transaction = some tx) (moves : OnlyMoves tx db after) (same : after.committed = db.committed) :
    AdmissionHeld start after (phases.set task (.through none)) :=
  held.moves found (Or.inl owned) moves same (Or.inl rfl) nofun nofun trivial

/-- A commit, whether or not the program hears of it. -/
theorem AdmissionHeld.commits {tx : Nat} {kept : Transaction (admissionGuard platform)}
    (held : AdmissionHeld start db phases) (found : phases[task]? = some phase) (owned : phase.transaction = some tx)
    (complete : phase.complete = true) (opened : db.find tx = some kept)
    (heard : next = .through phase.admits ∨ next = .through none) :
    AdmissionHeld start (db.commit tx kept) (phases.set task next) ∧ Grows db.committed (db.commit tx kept).committed := by
  have leaves : Leaves platform phase start db.committed (db.commit tx kept).committed :=
    commit_leaves (held.described.told task phase tx kept found owned opened) complete held.registered
      (held.known phase (List.mem_of_getElem? found))
  have ends : next.transaction = none := by rcases heard with rfl | rfl <;> rfl
  refine ⟨⟨?_, leaves.registered, ?_⟩, leaves.grows⟩
  · exact described_moves told_stable held.described found (Or.inl owned) (Database.commit_moves opened) (Or.inl ends)
      (by simp [ends]) (by simp [ends])
  · intro other member
    rcases mem_set_cases member with rfl | ⟨index, -, listed⟩
    · rcases heard with rfl | rfl
      · exact leaves.known
      · trivial
    · exact (held.known other (List.mem_of_getElem? listed)).later leaves.grows

theorem more_locks {lock : AdmissionLock} {kept later : Transaction (admissionGuard platform)}
    (locks : later.locks = lock :: kept.locks) : ∀ other ∈ kept.locks, other ∈ later.locks := by
  intro other member
  simp [locks, member]

theorem promotable_some {tables : AdmissionTables} {identity : Identity} {row : IdentityRow}
    (found : promotable tables identity = some row) : tables.identities identity = some row ∧
      row.migrationState ≠ .disabled ∧ ∃ user ∈ tables.users, user.id = row.userId ∧ user.isActive = true := by
  obtain ⟨present, holds⟩ := Option.filter_eq_some_iff.mp found
  simpa [present] using holds

theorem newId_of_conflicts {tables : AdmissionTables} {user : UserRow} (distinct : conflicts tables user = false) :
    NewId user.id tables := by
  intro other member same
  have unlike := List.any_eq_false.mp distinct other member
  simp [same] at unlike

theorem AdmissionHeld.step (held : AdmissionHeld start db phases) (found : phases[task]? = some phase)
    (stepped : AdmissionStep db op reply after) (moved : AdmissionMove phase op reply next) :
    AdmissionHeld start after (phases.set task next) ∧ Grows db.committed after.committed := by
  have still : Grows db.committed db.committed := .refl _
  cases stepped with
  | failed op error =>
      cases moved with
      | failed =>
          obtain ⟨inside, rfl⟩ := List.getElem?_eq_some_iff.mp found
          exact ⟨by rwa [List.set_getElem_self inside], still⟩
      | uncertain mine => exact ⟨held.frees found mine (.refl _ db) rfl, still⟩
      | abandon mine => exact ⟨held.frees found mine (.refl _ db) rfl, still⟩
  | lost tx error =>
      cases moved with
      | failed => contradiction
      | uncertain mine => exact ⟨held.frees found mine (Database.close_moves tx) rfl, still⟩
  | unheard opened error =>
      cases moved with
      | failed => contradiction
      | uncertain mine complete => exact held.commits found mine complete opened (Or.inr rfl)
  | committed opened =>
      cases moved with
      | commit mine complete => exact held.commits found mine complete opened (Or.inl rfl)
  | rolledBack tx =>
      cases moved with
      | abandon mine => exact ⟨held.frees found mine (Database.close_moves tx) rfl, still⟩
  | begun =>
      cases moved with
      | begin =>
          refine ⟨held.moves found (Or.inr rfl) Database.begun_moves rfl (Or.inr rfl) (fun _ => by simp) ?_ trivial, still⟩
          intro _ kept opened
          obtain rfl : {} = kept := Option.some.inj (Database.find_begun.symm.trans opened)
          rfl
  | lockedIdentity opened free =>
      cases moved with
      | lock =>
          refine ⟨held.writes found rfl opened rfl ?_ trivial, still⟩
          intro later locks changes so
          exact ⟨changes.trans so, by simp [locks]⟩
  | notPromoted opened =>
      cases moved with
      | miss => exact ⟨held.reads found rfl rfl (fun _ _ so => so) trivial, still⟩
  | @promoted tx identity row kept opened active free =>
      cases moved with
      | promote =>
          have unchanged : kept.change = id := (held.described.told task _ tx kept found rfl opened).1
          rw [Database.view, unchanged] at active
          obtain ⟨present, enabled, users⟩ := promotable_some active
          refine ⟨held.writes found rfl opened rfl ?_ users, still⟩
          intro later locks changes so
          exact ⟨by simp [locks], row, present, rfl, enabled, by rw [changes, unchanged]; rfl⟩
  | @looked tx identity kept present opened seen =>
      have view : ∀ {held : Transaction (admissionGuard platform)}, db.find tx = some held → held = kept :=
        fun listed => Option.some.inj (listed.symm.trans opened)
      cases moved with
      | unlinked => exact ⟨held.reads found rfl rfl (fun _ _ so => so.1) trivial, still⟩
      | unknown =>
          refine ⟨held.reads found rfl rfl ?_ trivial, still⟩
          intro listed' same so
          obtain rfl := view same
          rw [Database.view, so.1] at seen
          exact ⟨so.1, so.2, by simpa using seen⟩
  | lockedClaim opened free =>
      cases moved with
      | claim =>
          refine ⟨held.writes found rfl opened rfl ?_ trivial, still⟩
          intro later locks changes so
          exact ⟨changes.trans so.1, vacant_more so.2 (more_locks locks)⟩
  | lockedUsers opened free =>
      cases moved with
      | users =>
          refine ⟨held.writes found rfl opened rfl ?_ trivial, still⟩
          intro later locks changes so
          exact ⟨changes.trans so.1, vacant_more so.2 (more_locks locks), by simp [locks]⟩
  | @searched tx username email kept there opened seen =>
      cases moved with
      | taken => exact ⟨held.reads found rfl rfl (fun _ _ so => so.1) trivial, still⟩
      | clear =>
          refine ⟨held.reads found rfl rfl ?_ trivial, still⟩
          intro listed' same so
          obtain rfl : kept = listed' := Option.some.inj (opened.symm.trans same)
          rw [Database.view, so.1] at seen
          exact ⟨so.1, so.2.1, so.2.2, seen⟩
  | conflicted tx username email =>
      cases moved with
      | conflict => exact ⟨held.reads found rfl rfl (fun _ _ so => so.1) trivial, still⟩
  | @inserted tx user kept opened free active distinct =>
      cases moved with
      | create =>
          have unchanged : kept.change = id := (held.described.told task _ tx kept found rfl opened).1
          rw [Database.view, unchanged] at distinct
          refine ⟨held.writes found rfl opened rfl ?_ trivial, still⟩
          intro later locks changes so
          refine ⟨?_, unclaimed_more so.2 (more_locks locks), newId_of_conflicts distinct⟩
          rw [changes, unchanged, newUser, ← active]
          rfl
  | bound opened free =>
      cases moved with
      | bind =>
          refine ⟨held.writes found rfl opened rfl ?_ trivial, still⟩
          intro later locks changes so
          exact ⟨by rw [changes, so.1], unclaimed_more so.2.1 (more_locks locks), so.2.2⟩

/-- The invariant of a run, with what the states passed through have to do with the last one. -/
theorem run_held {history : List (AdmissionTurn platform)} {state : AdmissionRunState platform}
    (run : AdmissionRun platform start history state) :
    ∃ phases, List.Forall₂ (Follows admissionNext admissionEnds) phases state.programs ∧
      AdmissionHeld start state.shared phases ∧ ∀ turn ∈ history, Grows turn.before.committed state.shared.committed := by
  refine run_phases (fun _ => AdmissionPhase.free) (admissionCode_follows platform)
    (fun history db phases => AdmissionHeld start db phases ∧ ∀ turn ∈ history, Grows turn.before.committed db.committed)
    ?_ rfl ?_ ?_ run
  · refine ⟨⟨described_empty, ⟨[], by simp⟩, by simp⟩, by simp⟩
  · rintro history db phases caller ⟨held, grows⟩
    refine ⟨⟨described_joins rfl held.described, held.registered, ?_⟩, grows⟩
    intro phase member
    rcases List.mem_append.mp member with member | member
    · exact held.known phase member
    · obtain rfl : phase = .free := by simpa using member
      trivial
  · rintro history phases phase after turn ⟨held, grows⟩ _ found allowed served
    obtain ⟨ids, stepped⟩ := admission_step served
    obtain ⟨next, step⟩ := (held.aborts ids).step found stepped (admission_move allowed)
    rw [Database.abortAll_committed] at step
    refine ⟨next, ?_⟩
    intro earlier member
    rcases List.mem_append.mp member with member | member
    · exact (grows earlier member).trans step
    · obtain rfl : earlier = turn := by simpa using member
      exact step

/-- Whom a request has admitted. -/
def admittedUser : AdmissionProgram (Identity × Admitted) → Option (Identity × Int)
  | .done (identity, .ok (.user userId)) => some (identity, userId)
  | _ => none

theorem phase_admitted {programs : List (AdmissionProgram (Identity × Admitted))} {identity : Identity} {userId : Int}
    (follow : List.Forall₂ (Follows admissionNext admissionEnds) phases programs)
    (admits : programs[task]?.bind admittedUser = some (identity, userId)) :
    phases[task]? = some (.through (some (identity, userId))) := by
  obtain ⟨program, listed, admits⟩ := Option.bind_eq_some_iff.mp admits
  obtain ⟨phase, found, follows⟩ := forall₂_getElem? follow listed
  unfold admittedUser at admits
  split at admits
  · cases admits
    rw [found, follows userId rfl]
  · cases admits

/-- What admission promises, of the end of a run and of all states before it. -/
structure AdmissionSafe (start : AdmissionTables) (history : List (AdmissionTurn platform))
    (state : AdmissionRunState platform) : Prop where
  bindings : ∀ turn ∈ history, ∀ identity row, turn.before.committed.identities identity = some row →
    ∃ row', state.shared.committed.identities identity = some row' ∧ row'.userId = row.userId
  sameUser : ∀ (one other : Nat) (identity : Identity) (userId userId' : Int),
    state.programs[one]?.bind admittedUser = some (identity, userId) →
      state.programs[other]?.bind admittedUser = some (identity, userId') → userId = userId'
  strangers : ∀ turn ∈ history, ∀ identity row, turn.before.committed.identities identity = none →
    state.shared.committed.identities identity = some row → ∀ user ∈ turn.before.committed.users, user.id ≠ row.userId
  allowed : ∀ (task : Nat) (identity : Identity) (userId : Int),
    state.programs[task]?.bind admittedUser = some (identity, userId) →
      IsAdmitted state.shared.committed identity userId
  apart : Registered platform start state.shared.committed

/-- Admission is safe in every run. -/
theorem admission_is_safe {history : List (AdmissionTurn platform)} {state : AdmissionRunState platform}
    (run : AdmissionRun platform start history state) : AdmissionSafe start history state := by
  obtain ⟨phases, follow, held, grows⟩ := run_held run
  have allowed : ∀ (task : Nat) (identity : Identity) (userId : Int),
      state.programs[task]?.bind admittedUser = some (identity, userId) →
        IsAdmitted state.shared.committed identity userId := fun task identity userId admits =>
    held.known _ (List.mem_of_getElem? (phase_admitted follow admits))
  constructor
  · intro turn member identity row present
    obtain ⟨row', present', same, -⟩ := (grows turn member).bindings identity row present
    exact ⟨row', present', same⟩
  · intro one other identity userId userId' admits admits'
    obtain ⟨⟨row, present, same, -⟩, -⟩ := allowed one identity userId admits
    obtain ⟨⟨row', present', same', -⟩, -⟩ := allowed other identity userId' admits'
    obtain rfl : row = row' := Option.some.inj (present.symm.trans present')
    exact same.symm.trans same'
  · exact fun turn member => (grows turn member).fresh
  · exact allowed
  · exact held.registered

end Runs

/-- A platform that folds letters in ASCII. -/
def asciiPlatform : Platform where
  hashtextextended := fun text seed => text.toList.foldl (fun hash c => hash * 31 + c.toNat) seed
  lower := Text.toAsciiLowercase
  digest := fun issuer subject => toString (issuer.length + subject.length)

def someone (subject username : String) : AccessIdentity where
  issuer := "idp"
  subject := subject
  preferredUsername := some username
  email := some (username ++ "@cats.org")
  emailVerified := true

/-- Two register at the same time, with one name in different letter case: the second collides, and the first comes back. -/
theorem capitals_collide :
    ∃ history state, AdmissionRun asciiPlatform {} history state ∧
      state.programs.map admittedUser = [some (⟨"idp", "1"⟩, 7), none, some (⟨"idp", "1"⟩, 7)] ∧
        AdmissionSafe {} history state := by
  have passed : (replay (admissionServe asciiPlatform) (admissionCode asciiPlatform) ⟨{ committed := {} }, []⟩
      [.enter (someone "1" "tom"), .enter (someone "2" "TOM"), .turn 0 {}, .turn 0 {}, .turn 0 {}, .turn 0 {},
        .turn 0 {}, .turn 0 {}, .turn 0 {}, .turn 1 {}, .turn 1 {}, .turn 1 {}, .turn 1 {}, .turn 0 {},
        .turn 0 { serial := 7 }, .turn 0 {}, .turn 0 {}, .turn 1 {}, .turn 1 {}, .turn 1 {}, .turn 1 {}, .turn 1 {},
        .enter (someone "1" "tom"), .turn 2 {}, .turn 2 {}, .turn 2 {}, .turn 2 {}]).any
      (fun reached => decide (reached.2.programs.map admittedUser =
        [some (⟨"idp", "1"⟩, 7), none, some (⟨"idp", "1"⟩, 7)])) = true := by
    decide +kernel
  obtain ⟨history, state, run, tested⟩ := replay_reaches passed
  exact ⟨history, state, run, of_decide_eq_true tested, admission_is_safe run⟩

end PaladinsCat.Admission
