import PaladinsCat.Interleaving
import PaladinsCat.SqlSessions
import PaladinsCat.Text

/-!
The tracked schema migrations (operators.rs, `migrations_apply`). Any number of operators apply
the files of their directories, each one over a session of its own that may be lost at any time.
A session-level advisory lock keeps them apart. What the database has gone through is at all
times a history of whole files, each recorded together with its changes or after them.
-/

namespace PaladinsCat.Migrations

open Interleaving Program SqlSessions

/-! ### Files -/

structure File where
  name : String
  text : String
  deriving DecidableEq

/-- A row of `schema_migrations`. -/
structure Row where
  version : String
  fileName : String
  checksum : String
  deriving DecidableEq

/-- What is not written in the program: the digest, and what the server takes a text for. -/
structure Server (Change : Type) where
  sha256 : String → String
  statements : String → List (Statement Change)

def isLowercase (c : Char) : Bool := 'a' ≤ c && c ≤ 'z'

/-- The parts before and behind the first underscore. -/
def splitOnce (name : String) : Option (List Char × List Char) :=
  let version := name.toList.takeWhile (· != '_')
  match name.toList.drop version.length with
  | _ :: suffix => some (version, suffix)
  | [] => none

def validMigrationName (name : String) : Bool :=
  match splitOnce name with
  | none => false
  | some (version, suffix) =>
      3 ≤ version.length && version.all Char.isDigit && ".sql".toList.isSuffixOf suffix &&
        (suffix.take (suffix.length - 4)).all fun c => isLowercase c || c.isDigit || c == '_'

def File.version (file : File) : String := String.ofList (file.name.toList.takeWhile (· != '_'))

def Server.row {Change : Type} (server : Server Change) (file : File) : Row :=
  ⟨file.version, file.name, server.sha256 file.text⟩

/-- `str::lines`. -/
def lines (text : String) : List String :=
  let parts := Text.split '\n' text
  let ended := parts.dropLast.map fun line =>
    if line.toList.getLast? = some '\r' then String.ofList line.toList.dropLast else line
  ended ++ (parts.getLast?.toList.filter (· != ""))

def File.hasDirective (file : File) (directive : String) : Bool :=
  ((lines file.text).take 8).any fun line => Text.eqIgnoreAsciiCase (Text.trim line) directive

def File.transactionOff (file : File) : Bool := file.hasDirective "-- paladinscat:transaction=off"

def File.requiresBackup (file : File) : Bool := file.hasDirective "-- paladinscat:requires-full-backup"

structure Operator where
  directory : List File
  /-- `PALADINSCAT_DESTRUCTIVE_MIGRATIONS_CONFIRMED` is `yes`. -/
  confirmed : Bool

/-- The files in the order in which they are applied. -/
def Operator.files (operator : Operator) : List File :=
  (operator.directory.filter fun file => validMigrationName file.name).insertionSort fun one two => one.name ≤ two.name

/-- The first file with the version of a file before it. -/
def duplicateVersion : List String → List File → Option String
  | _, [] => none
  | versions, file :: rest =>
      if file.version ∈ versions then some file.version else duplicateVersion (file.version :: versions) rest

/-! ### Sessions -/

inductive Write (Change : Type) where
  | schema (change : Change)
  | recorded (row : Row)

def Write.row? {Change : Type} : Write Change → Option Row
  | .recorded row => some row
  | .schema _ => none

def ledger {Change : Type} (log : List (Write Change)) : List Row := log.filterMap Write.row?

/-- What a client sends over its connection. -/
inductive Command where
  | lock
  | readApplied
  | settings
  | begin
  | contents (text : String)
  | insert (row : Row)
  | commit
  | rollback
  | unlock
  deriving DecidableEq

inductive MigrationOp where
  | connection
  | send (client : ℕ) (command : Command)

/-- A command is answered with the rows that it reads. -/
abbrev MigrationOp.Reply : MigrationOp → Type
  | .connection => Except String ℕ
  | .send _ _ => Except String (List Row)

structure Link (Change : Type) where
  session : Session (Write Change) := .idle
  closed : Bool := false

/-- All writes that are committed, the session that holds the lock, and the sessions. -/
structure Database (Change : Type) where
  log : List (Write Change) := []
  holder : Option ℕ := none
  links : List (Link Change) := []

/-- What a step finds: which sessions have been lost, which part of it fails, and whether the
connection is lost before the reply. -/
structure Outside where
  lost : List ℕ := []
  fault : Option ℕ := none
  unacknowledged : Bool := false
  message : String := ""

section Service
variable {Change : Type}

def Database.close (database : Database Change) (client : ℕ) : Database Change :=
  { database with
    links := database.links.modify client fun _ => { closed := true }
    holder := if database.holder = some client then none else database.holder }

def statement : Statement Change → Statement (Write Change)
  | .change change => .change (.schema change)
  | .begin => .begin
  | .commit => .commit
  | .rollback => .rollback

/-- The statements that a command consists of for the transaction. Settings change no table. -/
def Command.statements (server : Server Change) : Command → List (Statement (Write Change))
  | .lock | .readApplied | .settings | .unlock => []
  | .begin => [.begin]
  | .contents text => (server.statements text).map statement
  | .insert row => [.change (.recorded row)]
  | .commit => [.commit]
  | .rollback => [.rollback]

/-- Versions and file names are unique. -/
def conflicts (seen : List (Write Change)) (row : Row) : Bool :=
  (ledger seen).any fun known => known.version == row.version || known.fileName == row.fileName

/-- The fault of a command, which may be one of its own: a transaction that has failed takes
nothing but its end. -/
def Command.fault (log : List (Write Change)) (fault : Option ℕ) : Session (Write Change) → Command → Option ℕ
  | _, .commit | _, .rollback => fault
  | .failed, _ => some 0
  | session, .insert row => if conflicts (log ++ session.pending) row then some 0 else fault
  | _, _ => fault

/-- How a command on an open connection ends; `none` if it has to wait. The lock is kept when the
statement behind it fails. -/
def Database.execute (server : Server Change) (database : Database Change) (client : ℕ) (session : Session (Write Change))
    (command : Command) (fault : Option ℕ) : Option (Bool × Database Change) :=
  let fault := command.fault database.log fault session
  let outcome := query session (command.statements server) fault
  let after (holder : Option ℕ) : Database Change :=
    { log := database.log ++ outcome.committed
      holder
      links := database.links.modify client fun link => { link with session := outcome.session } }
  match command with
  | .lock =>
      if fault = some 0 then some (false, after database.holder)
      else if database.holder.any (· != client) then none
      else some (fault.isNone, after (some client))
  | .unlock =>
      let released := outcome.completed && database.holder == some client
      some (outcome.completed, after (if released then none else database.holder))
  | _ => some (outcome.completed, after database.holder)

/-- The rows that a command reads. -/
def Command.rows (log : List (Write Change)) (session : Session (Write Change)) : Command → List Row
  | .readApplied => ledger (log ++ session.pending)
  | _ => []

def serve (server : Server Change) : Service (Database Change) MigrationOp MigrationOp.Reply Outside :=
  fun before op outside =>
    let database := outside.lost.foldl Database.close before
    match op with
    | .connection =>
        if outside.fault.isSome then some (.error outside.message, database)
        else some (.ok database.links.length, { database with links := database.links ++ [{}] })
    | .send client command =>
        match database.links[client]? with
        | some ⟨session, false⟩ =>
            (database.execute server client session command outside.fault).map fun (completed, after) =>
              if outside.unacknowledged then (.error outside.message, after.close client)
              else if completed then (.ok (command.rows database.log session), after)
              else (.error outside.message, after)
        | _ => some (.error "connection closed", database)

end Service

/-! ### Programs -/

abbrev MigrationProgram := Program MigrationOp MigrationOp.Reply

def send (client : ℕ) (command : Command) : MigrationProgram (Except String (List Row)) := perform (MigrationOp.send client command)

section Programs
variable {Change : Type} (server : Server Change) (client : ℕ)

/-- Commands one after the other, up to the first that fails. -/
def sendAll : List Command → MigrationProgram (Except String Unit)
  | [] => pure (.ok ())
  | command :: rest => do
      match ← send client command with
      | .error message => pure (.error message)
      | .ok _ => sendAll rest

/-- A transaction that is dropped is rolled back. -/
def applyFile (file : File) : MigrationProgram (Except String Unit) :=
  if file.transactionOff then
    sendAll client [.settings, .contents file.text, .settings, .insert (server.row file)]
  else do
    match ← send client .begin with
    | .error message => pure (.error message)
    | .ok _ =>
        match ← sendAll client [.settings, .contents file.text, .insert (server.row file)] with
        | .error message => do
            let _ ← send client .rollback
            pure (.error message)
        | .ok _ => do
            match ← send client .commit with
            | .error message => pure (.error message)
            | .ok _ => pure (.ok ())

def applyFiles (confirmed : Bool) (applied : List Row) : List File → ℕ → MigrationProgram (Except String ℕ)
  | [], count => pure (.ok count)
  | file :: rest, count =>
      match applied.find? fun row => row.version == file.version with
      | some row =>
          if row = server.row file then applyFiles confirmed applied rest count
          else pure (.error s!"applied migration {file.version} no longer matches {file.name}")
      | none =>
          if file.requiresBackup && !confirmed then
            pure (.error s!"{file.name} requires explicit full-backup confirmation")
          else do
            match ← applyFile server client file with
            | .error message => pure (.error message)
            | .ok _ => applyFiles confirmed applied rest (count + 1)

def applyMigrationFiles (confirmed : Bool) (files : List File) : MigrationProgram (Except String ℕ) := do
  match ← send client .readApplied with
  | .error message => pure (.error message)
  | .ok applied => applyFiles server client confirmed applied files 0

/-- The numbers of the files that were applied and of all files. -/
def migrationsApply (operator : Operator) : MigrationProgram (Except String (ℕ × ℕ)) :=
  match duplicateVersion [] operator.files with
  | some version => pure (.error s!"duplicate migration version {version}")
  | none => do
      let connected : Except String ℕ ← perform MigrationOp.connection
      match connected with
      | .error message => pure (.error message)
      | .ok client =>
          match ← send client .lock with
          | .error message => pure (.error message)
          | .ok _ =>
              let result ← applyMigrationFiles server client operator.confirmed operator.files
              let _ ← send client .unlock
              pure (result.map fun count => (count, operator.files.length))

end Programs

/-! ### Histories -/

section Histories
variable {Change : Type} (server : Server Change)

/-- Where the contents of a file are executed: in a transaction, or outside of one. -/
def File.start (file : File) : Session (Write Change) := if file.transactionOff then .idle else .explicit []

/-- What the contents of a file come to, with a fault at some place. -/
def run (file : File) (fault : Option ℕ) : Outcome (Write Change) :=
  query file.start ((server.statements file.text).map statement) fault

/-- A file that is not recorded, while all files before it in a directory are. -/
def Next (directories : Set (List File)) (log : List (Write Change)) (file : File) : Prop :=
  ∃ before rest, before ++ file :: rest ∈ directories ∧ (∀ earlier ∈ before, server.row earlier ∈ ledger log) ∧
    ∀ row ∈ ledger log, row.version ≠ file.version

/-- What a database may have gone through. A file is recorded behind all that it commits; contents
that commit for themselves may stay without a record. -/
inductive History (directories : Set (List File)) : List (Write Change) → Prop where
  | empty : History directories []
  | recorded {log : List (Write Change)} {file : File} (earlier : History directories log)
      (next : Next server directories log file) (completed : (run server file none).completed = true) :
      History directories
        (log ++ (run server file none).committed ++ (run server file none).session.pending ++ [.recorded (server.row file)])
  | unrecorded {log : List (Write Change)} {file : File} (earlier : History directories log)
      (next : Next server directories log file) (fault : Option ℕ) :
      History directories (log ++ (run server file fault).committed)

end Histories

/-! ### The course of an operator -/

inductive Stage where
  | ready
  | executed
  | inserted
  deriving DecidableEq

/-- Where an operator is that has a connection. -/
inductive Point where
  | fresh
  | locked
  | between (applied : List Row) (rest : List File)
  | at (applied : List Row) (file : File) (rest : List File) (stage : Stage)
  | rolling
  | leaving

inductive Phase where
  | starting (files : List File)
  | connected (files : List File) (client : ℕ) (point : Point)
  | left

section Course
variable {Change : Type} (server : Server Change)

/-- The files that are left when those at the front are passed over that are recorded. -/
def skip (applied : List Row) (rest : List File) : List File :=
  rest.dropWhile fun file => (applied.find? fun row => row.version == file.version) == some (server.row file)

/-- How an operator goes on after a command, if this one is allowed. -/
def Point.after (files : List File) (command : Command) (reply : Except String (List Row)) : Point → Option Point
  | .fresh => if command = .lock then some (if reply.isOk then .locked else .leaving) else none
  | .locked => if command = .readApplied then some (reply.toOption.elim .leaving fun applied => .between applied files) else none
  | .between applied rest =>
      if command = .unlock then some .leaving
      else
        match skip server applied rest with
        | file :: later =>
            if (applied.find? fun row => row.version == file.version).isNone ∧
                command = if file.transactionOff then .settings else .begin then
              some (if reply.isOk then .at applied file later .ready else .leaving)
            else none
        | [] => none
  | .at applied file rest stage =>
      let failed := if file.transactionOff then Point.leaving else .rolling
      match stage, command with
      | .ready, .settings => some (if reply.isOk then .at applied file rest .ready else failed)
      | .executed, .settings =>
          if file.transactionOff then some (if reply.isOk then .at applied file rest .executed else failed) else none
      | .ready, .contents text =>
          if text = file.text then some (if reply.isOk then .at applied file rest .executed else failed) else none
      | .executed, .insert row =>
          if row = server.row file then
            some (if reply.isOk then if file.transactionOff then .between applied rest else .at applied file rest .inserted
              else failed)
          else none
      | .inserted, .commit => some (if reply.isOk then .between applied rest else .leaving)
      | _, _ => none
  | .rolling => if command = .rollback then some .leaving else none
  | .leaving => if command = .unlock then some .leaving else none

def next : Phase → (op : MigrationOp) → op.Reply → Option Phase
  | .starting files, .connection => fun reply : Except String ℕ =>
      some (reply.toOption.elim .left fun client => .connected files client .fresh)
  | .connected files client point, .send asked command => fun reply : Except String (List Row) =>
      if asked = client then (point.after server files command reply).map (.connected files client) else none
  | _, _ => fun _ => none

variable {server : Server Change} {files : List File} {client : ℕ}

theorem next_send (files : List File) (client : ℕ) (point : Point) (command : Command) (reply : Except String (List Row)) :
    next server (.connected files client point) (.send client command) reply =
      (point.after server files command reply).map (.connected files client) :=
  if_pos rfl

/-- Commands that lead from one point to another, or to a third one if one of them fails. -/
inductive Leads (server : Server Change) (files : List File) (failed : Point) : Point → List Command → Point → Prop where
  | done (point : Point) : Leads server files failed point [] point
  | step {point last : Point} {command : Command} {rest : List Command} (middle : Point)
      (goes : ∀ reply, point.after server files command reply = some (if reply.isOk then middle else failed))
      (further : Leads server files failed middle rest last) : Leads server files failed point (command :: rest) last

/-- Where an operator is after a part of its program. -/
def Ends {α : Type} (files : List File) (client : ℕ) (fine failed : Point) (last : Phase) (result : Except String α) : Prop :=
  last = .connected files client (if result.isOk then fine else failed)

theorem sendAll_follows {point last failed : Point} {commands : List Command}
    (leads : Leads server files failed point commands last) :
    Follows (next server) (Ends files client last failed) (.connected files client point) (sendAll client commands) := by
  induction leads with
  | done point => rfl
  | step middle goes further ih =>
      intro reply
      rw [next_send, goes]
      cases reply with
      | error message => exact ⟨_, rfl, rfl⟩
      | ok rows => exact ⟨_, rfl, ih⟩

section File
variable {applied : List Row} {rest later : List File} {file : File}
  (skipped : skip server applied rest = file :: later)
  (absent : (applied.find? fun row => row.version == file.version).isNone = true)
include skipped absent

theorem between_after {command : Command} (opens : command = if file.transactionOff then .settings else .begin)
    (reply : Except String (List Row)) : (Point.between applied rest).after server files command reply =
      some (if reply.isOk then .at applied file later .ready else .leaving) := by
  have other : command ≠ .unlock := by
    rw [opens]
    split <;> nofun
  simp only [Point.after, if_neg other, skipped, absent, true_and, if_pos opens]

theorem applyFile_follows :
    Follows (next server) (Ends files client (.between applied later) .leaving) (.connected files client (.between applied rest))
      (applyFile server client file) := by
  unfold applyFile
  by_cases off : file.transactionOff = true
  · rw [if_pos off]
    refine sendAll_follows (.step (.at applied file later .ready) (between_after skipped absent (by simp [off]))
      (.step (.at applied file later .executed) ?_
        (.step (.at applied file later .executed) ?_ (.step _ ?_ (.done _))))) <;>
      simp [Point.after, off]
  · rw [if_neg off]
    intro reply
    rw [next_send, between_after skipped absent (by simp [off])]
    cases reply with
    | error message => exact ⟨_, rfl, rfl⟩
    | ok rows =>
        refine ⟨_, rfl, ?_⟩
        have inside : Follows (next server) (Ends files client (.at applied file later .inserted) .rolling)
            (.connected files client (.at applied file later .ready))
            (sendAll client [.settings, .contents file.text, .insert (server.row file)]) := by
          refine sendAll_follows (.step (.at applied file later .ready) ?_
            (.step (.at applied file later .executed) ?_ (.step _ ?_ (.done _)))) <;>
            simp [Point.after, off]
        apply follows_then inside
        rintro after (message | done) rfl
        · exact fun reply => ⟨_, (next_send ..).trans rfl, rfl⟩
        · intro reply
          rw [next_send]
          cases reply <;> exact ⟨_, rfl, rfl⟩

end File

theorem skip_matched {applied : List Row} {file : File} {rest : List File}
    (matched : (applied.find? fun row => row.version == file.version) = some (server.row file)) :
    skip server applied (file :: rest) = skip server applied rest := by
  rw [skip, List.dropWhile_cons_of_pos (by simp [matched])]
  rfl

theorem skip_absent {applied : List Row} {file : File} {rest : List File}
    (absent : (applied.find? fun row => row.version == file.version) = none) :
    skip server applied (file :: rest) = file :: rest := by
  rw [skip, List.dropWhile_cons_of_neg (by simp [absent])]

/-- An operator that may give the lock back. -/
def Returns {α : Type} (server : Server Change) (files : List File) (client : ℕ) (last : Phase) (_ : α) : Prop :=
  ∃ point : Point, last = .connected files client point ∧ ∀ reply, point.after server files .unlock reply = some .leaving

theorem applyFiles_follows {confirmed : Bool} {applied : List Row} {rest left : List File} {count : ℕ}
    (skipped : skip server applied left = skip server applied rest) :
    Follows (next server) (Returns server files client) (.connected files client (.between applied left))
      (applyFiles server client confirmed applied rest count) := by
  induction rest generalizing left count with
  | nil => exact ⟨_, rfl, fun _ => rfl⟩
  | cons file later ih =>
      unfold applyFiles
      cases found : applied.find? fun row => row.version == file.version with
      | some row =>
          by_cases same : row = server.row file
          · subst same
            simp only [if_true]
            exact ih (skipped.trans (skip_matched found))
          · simp only [if_neg same]
            exact ⟨_, rfl, fun _ => rfl⟩
      | none =>
          have reached : skip server applied left = file :: later := skipped.trans (skip_absent found)
          by_cases refused : (file.requiresBackup && !confirmed) = true
          · simp only [refused, if_true]
            exact ⟨_, rfl, fun _ => rfl⟩
          · simp only [refused]
            apply follows_then (applyFile_follows reached (by simp [found]))
            rintro after (message | done) rfl
            · exact ⟨_, rfl, fun _ => rfl⟩
            · exact ih rfl

/-- An operator whose files share a version does nothing. -/
def Operator.first (operator : Operator) : Phase :=
  if duplicateVersion [] operator.files = none then .starting operator.files else .left

theorem migrationsApply_follows (operator : Operator) :
    Follows (next server) (fun _ _ => True) operator.first (migrationsApply server operator) := by
  unfold migrationsApply Operator.first
  cases duplicateVersion [] operator.files with
  | some version => trivial
  | none =>
      intro connected
      cases connected with
      | error message => exact ⟨.left, rfl, trivial⟩
      | ok client =>
          apply Exists.intro (.connected operator.files client .fresh)
          apply And.intro rfl
          intro locked
          cases locked with
          | error message => exact ⟨.connected operator.files client .leaving, next_send .., trivial⟩
          | ok rows =>
              apply Exists.intro (.connected operator.files client .locked)
              apply And.intro (next_send ..)
              have inside : Follows (next server) (Returns server operator.files client)
                  (.connected operator.files client .locked)
                  (applyMigrationFiles server client operator.confirmed operator.files) := by
                intro applied
                refine ⟨_, next_send .., ?_⟩
                cases applied with
                | error message => exact ⟨_, rfl, fun _ => rfl⟩
                | ok applied => exact applyFiles_follows rfl
              apply follows_then inside
              rintro after result ⟨point, rfl, unlocks⟩
              intro reply
              exact ⟨_, (next_send ..).trans (congrArg _ (unlocks _)), trivial⟩

end Course

end PaladinsCat.Migrations
