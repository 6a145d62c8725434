import PaladinsCat.Migrations

/-!
What one command does to a database on which several operators work. A session that is open and
has the lock is the only one that commits anything, so that what an operator has read of the ledger
stays true until it is done or its session is lost; and then it commits nothing more.
-/

namespace PaladinsCat.Migrations

open Interleaving Program SqlSessions

variable {Change : Type}

/-! ### Steps -/

/-- Sessions may have been lost, and with one of them the lock. -/
structure Fades (before after : Database Change) : Prop where
  log : after.log = before.log
  length : after.links.length = before.links.length
  links : ∀ (client : ℕ) session, after.links[client]? = some ⟨session, false⟩ →
    before.links[client]? = some ⟨session, false⟩ ∧ (before.holder = some client → after.holder = some client)

theorem Fades.refl (database : Database Change) : Fades database database := ⟨rfl, rfl, fun _ _ found => ⟨found, id⟩⟩

theorem Fades.trans {before middle after : Database Change} (first : Fades before middle) (second : Fades middle after) :
    Fades before after where
  log := second.log.trans first.log
  length := second.length.trans first.length
  links client session found := by
    obtain ⟨kept, holds⟩ := second.links client session found
    obtain ⟨earlier, held⟩ := first.links client session kept
    exact ⟨earlier, holds ∘ held⟩

theorem close_fades (database : Database Change) (client : ℕ) : Fades database (database.close client) where
  log := rfl
  length := List.length_modify ..
  links other session found := by
    simp only [Database.close, List.getElem?_modify] at found
    by_cases same : client = other
    · subst same
      cases known : database.links[client]? <;> simp [known] at found
    · have kept : database.links[other]? = some ⟨session, false⟩ := by simpa [same] using found
      refine ⟨kept, fun held => ?_⟩
      have apart : database.holder ≠ some client := by
        rw [held]
        exact fun equal => same (Option.some.inj equal).symm
      rw [Database.close, if_neg apart, held]

theorem lost_fades (lost : List ℕ) (database : Database Change) : Fades database (lost.foldl Database.close database) := by
  induction lost generalizing database with
  | nil => exact .refl database
  | cons client rest ih => exact (close_fades database client).trans (ih _)

theorem close_own (database : Database Change) (client : ℕ) (session : Session (Write Change)) :
    (database.close client).links[client]? ≠ some ⟨session, false⟩ := by
  simp only [Database.close, List.getElem?_modify]
  cases database.links[client]? <;> simp

/-- A command of a client does not touch the sessions of the others, or the lock while one of them has it. -/
structure Apart (client : ℕ) (before after : Database Change) : Prop where
  length : after.links.length = before.links.length
  links : ∀ other ≠ client, after.links[other]? = before.links[other]?
  holder : ∀ other ≠ client, before.holder = some other → after.holder = some other

/-- What the statements of a command come to. -/
def outcomeOf (server : Server Change) (database : Database Change) (session : Session (Write Change)) (command : Command)
    (fault : Option ℕ) : Outcome (Write Change) :=
  query session (command.statements server) (command.fault database.log fault session)

section Commands
variable {server : Server Change} {database after : Database Change} {client : ℕ} {session : Session (Write Change)}
  {command : Command} {fault : Option ℕ} {completed : Bool}

/-- How a command ends: what it commits, the session behind it, and who has the lock then. -/
theorem executed_outcome (executed : database.execute server client session command fault = some (completed, after)) :
    ∃ holder : Option ℕ,
      after = ⟨database.log ++ (outcomeOf server database session command fault).committed, holder,
        database.links.modify client fun link =>
          { link with session := (outcomeOf server database session command fault).session }⟩ ∧
      (completed = true → (outcomeOf server database session command fault).completed = true) ∧
      (∀ other ≠ client, database.holder = some other → holder = some other) ∧
      (command ≠ .lock → command ≠ .unlock → holder = database.holder) ∧
      (command = .lock → completed = true → holder = some client) := by
  cases command with
  | lock =>
      simp only [Database.execute] at executed
      split at executed
      · cases executed
        exact ⟨_, rfl, nofun, fun _ _ held => held, fun _ _ => rfl, nofun⟩
      · split at executed
        · cases executed
        · rename_i sound free
          cases executed
          refine ⟨_, rfl, fun fine => ?_, fun other different held => ?_, fun apart => (apart rfl).elim, fun _ _ => rfl⟩
          · have none_ := Option.isNone_iff_eq_none.mp fine
            rw [outcomeOf, none_]
            cases session <;> rfl
          · simp [held, different] at free
  | unlock =>
      simp only [Database.execute, Option.some.injEq, Prod.mk.injEq] at executed
      obtain ⟨rfl, rfl⟩ := executed
      refine ⟨_, rfl, id, fun other different held => ?_, fun _ apart => (apart rfl).elim, nofun⟩
      simp [held, different]
  | readApplied | settings | begin | contents | insert | commit | rollback =>
      cases executed
      exact ⟨_, rfl, id, fun _ _ held => held, fun _ _ => rfl, nofun⟩

theorem execute_apart (executed : database.execute server client session command fault = some (completed, after)) :
    Apart client database after := by
  obtain ⟨holder, rfl, -, others, -, -⟩ := executed_outcome executed
  exact ⟨List.length_modify .., fun other different => by simp [Ne.symm different], others⟩

end Commands

/-- The reply to a command: the session is lost before or after it, or the command is told how it has ended. -/
theorem send_served {server : Server Change} {before after : Database Change} {client : ℕ} {command : Command}
    {reply : Except String (List Row)} (served : (serve server).handler before (.send client command) reply after) :
    ∃ middle, Fades before middle ∧
      ((reply.isOk = false ∧ after = middle ∧ ∀ session, middle.links[client]? ≠ some ⟨session, false⟩) ∨
        ∃ session fault completed done, middle.links[client]? = some ⟨session, false⟩ ∧
          middle.execute server client session command fault = some (completed, done) ∧
          (reply.isOk = completed ∧ after = done ∧ (∀ rows, reply = .ok rows → rows = command.rows middle.log session) ∨
            reply.isOk = false ∧ after = done.close client)) := by
  obtain ⟨outside, answered⟩ := served
  refine ⟨_, lost_fades outside.lost before, ?_⟩
  simp only [serve] at answered
  generalize outside.lost.foldl Database.close before = middle at answered ⊢
  split at answered
  · rename_i session opened
    right
    obtain ⟨⟨completed, done⟩, executed, same⟩ := Option.map_eq_some_iff.mp answered
    refine ⟨session, outside.fault, completed, done, opened, executed, ?_⟩
    split_ifs at same with cut fine
    · cases same
      exact .inr ⟨rfl, rfl⟩
    · cases same
      exact .inl ⟨fine.symm, rfl, fun rows told => (Except.ok.inj told).symm⟩
    · cases same
      exact .inl ⟨((Bool.not_eq_true _).mp fine).symm, rfl, nofun⟩
  · rename_i shut
    cases answered
    exact .inl ⟨rfl, rfl, fun session found => shut session found⟩

/-! ### What an operator relies on -/

section Knowledge
variable (server : Server Change) (directories : Set (List File))

/-- The files of an operator that has begun. One that asks for no transaction does not leave one open. -/
structure Sound (files : List File) : Prop where
  listed : files ∈ directories
  versions : (files.map File.version).Nodup
  closes : ∀ file ∈ files, file.transactionOff = true → (run server file none).completed = true →
    (run server file none).session = .idle

/-- What is recorded, as an operator knows it that has got to the rest of its files. -/
def Known (files : List File) (applied : List Row) (rest : List File) (log : List (Write Change)) : Prop :=
  (∀ row ∈ applied, row ∈ ledger log) ∧
    ∃ before, files = before ++ rest ∧ (∀ earlier ∈ before, server.row earlier ∈ ledger log) ∧
      ∀ row ∈ ledger log, row ∈ applied ∨ ∃ earlier ∈ before, row = server.row earlier

/-- The log and the session, while a file is applied to a database of which the log was `base`. -/
def Stage.holds (file : File) (base log : List (Write Change)) (session : Session (Write Change)) : Stage → Prop
  | .ready => log = base ∧ session = file.start
  | .executed =>
      (run server file none).completed = true ∧ log = base ++ (run server file none).committed ∧
        session = (run server file none).session
  | .inserted =>
      (run server file none).completed = true ∧
        ((∃ pending, (run server file none).session = .explicit pending ∧ log = base ++ (run server file none).committed ∧
            session = .explicit (pending ++ [.recorded (server.row file)])) ∨
          (run server file none).session = .idle ∧ session = .idle ∧
            log = base ++ (run server file none).committed ++ [.recorded (server.row file)])

def Point.holds (files : List File) (holder : Option ℕ) (log : List (Write Change)) (client : ℕ)
    (session : Session (Write Change)) : Point → Prop
  | .fresh => session = .idle
  | .locked => holder = some client ∧ session = .idle
  | .between applied rest => holder = some client ∧ session = .idle ∧ Known server files applied rest log
  | .at applied file rest stage =>
      holder = some client ∧ (applied.find? fun row => row.version == file.version) = none ∧
        ∃ base, History server directories base ∧ Known server files applied (file :: rest) base ∧
          stage.holds server file base log session
  | .rolling | .leaving => session.Settled

/-- A session that has been lost commits nothing more, so that nothing is asked of it. -/
def Phase.holds (database : Database Change) : Phase → Prop
  | .starting files => Sound server directories files
  | .connected files client point =>
      Sound server directories files ∧ client < database.links.length ∧
        ∀ session, database.links[client]? = some ⟨session, false⟩ →
          point.holds server directories files database.holder database.log client session
  | .left => True

def Phase.client : Phase → Option ℕ
  | .connected _ client _ => some client
  | _ => none

end Knowledge

section Steps
variable {server : Server Change} {directories : Set (List File)} {files : List File} {database done : Database Change}
  {client : ℕ} {session : Session (Write Change)} {command : Command} {fault : Option ℕ}

theorem ledger_append (one two : List (Write Change)) : ledger (one ++ two) = ledger one ++ ledger two :=
  List.filterMap_append ..

theorem step_schema {session after : Session (Write Change)} {one : Statement Change} {committed : List (Write Change)}
    (clean : ledger session.pending = []) (moved : session.step (statement one) = some (committed, after)) :
    ledger committed = [] ∧ ledger after.pending = [] := by
  cases session <;> cases one <;> simp only [statement, Session.step, Option.some.injEq, Prod.mk.injEq, reduceCtorEq] at moved
  all_goals
    obtain ⟨rfl, rfl⟩ := moved
    simp_all [Session.pending, ledger, Write.row?]

/-- Contents write no rows of the ledger. -/
theorem query_schema {session : Session (Write Change)} {statements : List (Statement Change)} {fault : Option ℕ}
    (clean : ledger session.pending = []) :
    ledger (query session (statements.map statement) fault).committed = [] ∧
      ledger (query session (statements.map statement) fault).session.pending = [] := by
  have aborted : ∀ session : Session (Write Change), ledger session.abort.pending = [] := by
    intro session
    cases session <;> rfl
  induction statements generalizing session fault with
  | nil =>
      simp only [List.map_nil, query]
      split
      · exact ⟨rfl, aborted session⟩
      · cases session
        · exact ⟨rfl, rfl⟩
        · exact ⟨clean, rfl⟩
        · exact ⟨rfl, clean⟩
        · exact ⟨rfl, rfl⟩
  | cons one rest ih =>
      simp only [List.map_cons, query]
      split
      · refine ⟨rfl, ?_⟩
        cases one
        · exact aborted session
        · exact aborted session
        · rfl
        · exact aborted session
      · cases moved : session.step (statement one) with
        | none => exact ⟨rfl, aborted session⟩
        | some result =>
            obtain ⟨first, after⟩ := step_schema clean moved
            obtain ⟨later, last⟩ := ih after
            exact ⟨by rw [ledger_append, first, later, List.append_nil], last⟩

theorem run_schema (server : Server Change) (file : File) (fault : Option ℕ) :
    ledger (run server file fault).committed = [] ∧ ledger (run server file fault).session.pending = [] := by
  refine query_schema ?_
  unfold File.start
  split <;> rfl

theorem start_sound (file : File) : (file.start : Session (Write Change)) ≠ .failed := by
  unfold File.start
  split <;> nofun

theorem known_skip {applied : List Row} {rest later : List File} {file : File} {log : List (Write Change)}
    (known : Known server files applied rest log) (skipped : skip server applied rest = file :: later) :
    Known server files applied (file :: later) log := by
  obtain ⟨read, before, rfl, recorded, all⟩ := known
  have split := List.takeWhile_append_dropWhile
    (p := fun file => (applied.find? fun row => row.version == file.version) == some (server.row file)) (l := rest)
  rw [skip] at skipped
  rw [skipped] at split
  refine ⟨read, before ++ _, by rw [List.append_assoc, split], fun earlier listed => ?_, fun row listed => ?_⟩
  · rcases List.mem_append.mp listed with old | passed
    · exact recorded earlier old
    · have matched := List.mem_takeWhile_imp passed
      exact read _ (List.mem_of_find?_eq_some (beq_iff_eq.mp matched))
  · rcases all row listed with known | ⟨earlier, member, rfl⟩
    · exact .inl known
    · exact .inr ⟨earlier, List.mem_append_left _ member, rfl⟩

/-- A file that an operator has got to is the next one in its directory. -/
theorem known_next {applied : List Row} {rest : List File} {file : File} {log : List (Write Change)}
    (sound : Sound server directories files) (known : Known server files applied (file :: rest) log)
    (absent : (applied.find? fun row => row.version == file.version) = none) : Next server directories log file := by
  obtain ⟨-, before, rfl, recorded, all⟩ := known
  refine ⟨before, rest, sound.listed, recorded, ?_⟩
  intro row listed same
  rcases all row listed with read | ⟨earlier, member, rfl⟩
  · have none_ := List.find?_eq_none.mp absent row read
    simp [same] at none_
  · have versions := sound.versions
    rw [List.map_append, List.nodup_append] at versions
    exact versions.2.2 earlier.version (List.mem_map_of_mem member) file.version (by simp) same

/-- Once a file is recorded, an operator knows the rest. -/
theorem known_recorded {applied : List Row} {rest : List File} {file : File} {base log : List (Write Change)}
    (known : Known server files applied (file :: rest) base)
    (recorded : ledger log = ledger base ++ [server.row file]) : Known server files applied rest log := by
  obtain ⟨read, before, rfl, earlierRecorded, all⟩ := known
  refine ⟨fun row listed => ?_, before ++ [file], by simp, fun earlier listed => ?_, fun row listed => ?_⟩
  · rw [recorded]
    exact List.mem_append_left _ (read row listed)
  · rw [recorded]
    rcases List.mem_append.mp listed with old | new
    · exact List.mem_append_left _ (earlierRecorded earlier old)
    · rw [List.mem_singleton.mp new]
      simp
  · rw [recorded] at listed
    rcases List.mem_append.mp listed with old | new
    · rcases all row old with known | ⟨earlier, member, rfl⟩
      · exact .inl known
      · exact .inr ⟨earlier, List.mem_append_left _ member, rfl⟩
    · exact .inr ⟨file, by simp, List.mem_singleton.mp new⟩

/-- What a reply of success tells. -/
structure Reported (server : Server Change) (database : Database Change) (client : ℕ) (session : Session (Write Change))
    (command : Command) (fault : Option ℕ) (holder : Option ℕ) (rows : List Row) : Prop where
  completed : (outcomeOf server database session command fault).completed = true
  locked : command = .lock → holder = some client
  read : rows = command.rows database.log session

/-- What a command does to a client that is in front of a file, between two, or behind them all. -/
theorem quiet_step {point target : Point} {reply : Except String (List Row)} {holder : Option ℕ}
    (held : point.holds server directories files database.holder database.log client session)
    (quiet : ∀ applied file rest stage, point ≠ .at applied file rest stage)
    (allowed : point.after server files command reply = some target)
    (kept : command ≠ .lock → command ≠ .unlock → holder = database.holder)
    (reported : ∀ rows, reply = .ok rows → Reported server database client session command fault holder rows)
    (history : History server directories database.log) :
    (outcomeOf server database session command fault).committed = [] ∧
      target.holds server directories files holder database.log client
        (outcomeOf server database session command fault).session := by
  have settled : (outcomeOf server database session command fault).session.Settled := query_settled ..
  cases point with
  | «at» applied file rest stage => exact (quiet applied file rest stage rfl).elim
  | fresh =>
      obtain rfl : session = .idle := held
      simp only [Point.after, Option.ite_none_right_eq_some, Option.some.injEq] at allowed
      obtain ⟨rfl, rfl⟩ := allowed
      have known := query_nil (Command.fault database.log fault .idle .lock) (.idle : Session (Write Change)) trivial
      refine ⟨known.1, ?_⟩
      cases reply with
      | error message => exact settled
      | ok rows =>
          have told := reported rows rfl
          exact ⟨told.locked rfl, known.2 told.completed⟩
  | locked =>
      obtain ⟨locked, rfl⟩ := held
      simp only [Point.after, Option.ite_none_right_eq_some, Option.some.injEq] at allowed
      obtain ⟨rfl, rfl⟩ := allowed
      have known := query_nil (Command.fault database.log fault .idle .readApplied) (.idle : Session (Write Change)) trivial
      refine ⟨known.1, ?_⟩
      cases reply with
      | error message => exact settled
      | ok rows =>
          have told := reported rows rfl
          have rowsAre : rows = ledger database.log := by
            rw [told.read, Command.rows, Session.pending, List.append_nil]
          refine ⟨(kept (by simp) (by simp)).trans locked, known.2 told.completed, fun row listed => rowsAre ▸ listed, [], rfl,
            by simp, fun row listed => .inl (rowsAre ▸ listed)⟩
  | between applied rest =>
      obtain ⟨locked, rfl, knows⟩ := held
      by_cases unlocks : command = .unlock
      · subst unlocks
        simp only [Point.after, if_true, Option.some.injEq] at allowed
        subst allowed
        exact ⟨(query_nil _ (.idle : Session (Write Change)) trivial).1, settled⟩
      · cases skipped : skip server applied rest with
        | nil => simp [Point.after, unlocks, skipped] at allowed
        | cons file later =>
            simp only [Point.after, if_neg unlocks, skipped, Option.ite_none_right_eq_some, Option.some.injEq] at allowed
            obtain ⟨⟨absent, opens⟩, rfl⟩ := allowed
            have start : (outcomeOf server database .idle command fault).committed = [] ∧
                ((outcomeOf server database .idle command fault).completed = true →
                  (outcomeOf server database .idle command fault).session = file.start) := by
              unfold File.start
              split at opens
              · rename_i off
                subst opens
                rw [if_pos off]
                exact query_nil _ .idle trivial
              · rename_i off
                subst opens
                rw [if_neg off]
                exact query_begin _
            have apart : command ≠ .lock := by
              rw [opens]
              split <;> simp
            refine ⟨start.1, ?_⟩
            cases reply with
            | error message => exact settled
            | ok rows =>
                have told := reported rows rfl
                exact ⟨(kept apart unlocks).trans locked, Option.isNone_iff_eq_none.mp absent, database.log, history,
                  known_skip knows skipped, rfl, start.2 told.completed⟩
  | rolling =>
      simp only [Point.after, Option.ite_none_right_eq_some, Option.some.injEq] at allowed
      obtain ⟨rfl, rfl⟩ := allowed
      exact ⟨query_rollback _ session, settled⟩
  | leaving =>
      simp only [Point.after, Option.ite_none_right_eq_some, Option.some.injEq] at allowed
      obtain ⟨rfl, rfl⟩ := allowed
      exact ⟨(query_nil _ session held).1, settled⟩

section Files
variable {applied : List Row} {file : File} {rest : List File} {target : Point} {reply : Except String (List Row)}
  {holder : Option ℕ}

theorem failed_holds (settled : session.Settled) {log : List (Write Change)} :
    (if file.transactionOff then Point.leaving else .rolling).holds server directories files holder log client session := by
  split <;> exact settled

theorem ready_step
    (held : (Point.at applied file rest .ready).holds server directories files database.holder database.log client session)
    (sound : Sound server directories files)
    (allowed : (Point.at applied file rest .ready).after server files command reply = some target)
    (kept : command ≠ .lock → command ≠ .unlock → holder = database.holder)
    (reported : ∀ rows, reply = .ok rows → Reported server database client session command fault holder rows) :
    History server directories (database.log ++ (outcomeOf server database session command fault).committed) ∧
      target.holds server directories files holder
        (database.log ++ (outcomeOf server database session command fault).committed) client
        (outcomeOf server database session command fault).session := by
  have settled : (outcomeOf server database session command fault).session.Settled := query_settled ..
  obtain ⟨locked, absent, base, history, known, rfl, rfl⟩ := held
  cases command with
  | settings =>
      simp only [Point.after, Option.some.injEq] at allowed
      subst allowed
      have started : (file.start : Session (Write Change)).Settled := by
        unfold File.start
        split <;> trivial
      have same := query_nil (Command.fault database.log fault file.start .settings) file.start started
      rw [show (outcomeOf server database file.start .settings fault).committed = [] from same.1, List.append_nil]
      refine ⟨history, ?_⟩
      cases reply with
      | error message => exact failed_holds settled
      | ok rows =>
          exact ⟨(kept (by simp) (by simp)).trans locked, absent, database.log, history, known, rfl,
            same.2 (reported rows rfl).completed⟩
  | contents text =>
      simp only [Point.after, Option.ite_none_right_eq_some, Option.some.injEq] at allowed
      obtain ⟨rfl, rfl⟩ := allowed
      have ran : outcomeOf server database file.start (.contents file.text) fault = run server file fault := by
        have fine : Command.fault database.log fault (file.start : Session (Write Change)) (.contents file.text) = fault := by
          unfold File.start
          split <;> rfl
        rw [outcomeOf, fine]
        rfl
      rw [ran] at settled ⊢
      refine ⟨.unrecorded history (known_next sound known absent) fault, ?_⟩
      cases reply with
      | error message => exact failed_holds settled
      | ok rows =>
          have completed := (reported rows rfl).completed
          rw [ran] at completed
          have whole : run server file fault = run server file none := query_completed completed
          rw [whole] at completed ⊢
          exact ⟨(kept (by simp) (by simp)).trans locked, absent, database.log, history, known, completed, rfl, rfl⟩
  | lock | readApplied | begin | insert | commit | rollback | unlock => simp [Point.after] at allowed

/-- The log with the record of a file is one more entry of the history. -/
theorem recorded_history {base : List (Write Change)} (sound : Sound server directories files)
    (earlier : History server directories base) (known : Known server files applied (file :: rest) base)
    (absent : (applied.find? fun row => row.version == file.version) = none)
    (completed : (run server file none).completed = true) (log : List (Write Change))
    (whole : log = base ++ (run server file none).committed ++ (run server file none).session.pending ++
      [.recorded (server.row file)]) :
    History server directories log ∧ Known server files applied rest log := by
  subst whole
  refine ⟨.recorded earlier (known_next sound known absent) completed, known_recorded known ?_⟩
  obtain ⟨committed, pending⟩ := run_schema server file none
  rw [ledger_append, ledger_append, ledger_append, committed, pending, List.append_nil, List.append_nil]
  rfl

theorem executed_step
    (held : (Point.at applied file rest .executed).holds server directories files database.holder database.log client session)
    (sound : Sound server directories files) (history : History server directories database.log)
    (allowed : (Point.at applied file rest .executed).after server files command reply = some target)
    (kept : command ≠ .lock → command ≠ .unlock → holder = database.holder)
    (reported : ∀ rows, reply = .ok rows → Reported server database client session command fault holder rows) :
    History server directories (database.log ++ (outcomeOf server database session command fault).committed) ∧
      target.holds server directories files holder
        (database.log ++ (outcomeOf server database session command fault).committed) client
        (outcomeOf server database session command fault).session := by
  have settled : (outcomeOf server database session command fault).session.Settled := query_settled ..
  obtain ⟨locked, absent, base, earlier, known, completed, logIs, rfl⟩ := held
  cases command with
  | settings =>
      simp only [Point.after, Option.ite_none_right_eq_some, Option.some.injEq] at allowed
      obtain ⟨-, rfl⟩ := allowed
      have same := query_nil (Command.fault database.log fault (run server file none).session .settings)
        (run server file none).session (query_settled ..)
      rw [show (outcomeOf server database (run server file none).session .settings fault).committed = [] from same.1,
        List.append_nil]
      refine ⟨history, ?_⟩
      cases reply with
      | error message => exact failed_holds settled
      | ok rows =>
          exact ⟨(kept (by simp) (by simp)).trans locked, absent, base, earlier, known, completed, logIs,
            same.2 (reported rows rfl).completed⟩
  | insert row =>
      simp only [Point.after, Option.ite_none_right_eq_some, Option.some.injEq] at allowed
      obtain ⟨rfl, rfl⟩ := allowed
      have holds : holder = some client := (kept (by simp) (by simp)).trans locked
      cases stood : (run server file none).session with
      | implicit pending =>
          have never : (run server file none).session.Settled := query_settled ..
          rw [stood] at never
          exact never.elim
      | failed => exact (query_sound (start_sound file) completed stood).elim
      | idle =>
          rw [stood] at settled reported
          rcases query_change_idle (Command.fault database.log fault .idle (.insert (server.row file)))
            (Write.recorded (server.row file)) with ⟨nothing, failed⟩ | ⟨committed, idle⟩
          · rw [show (outcomeOf server database .idle (.insert (server.row file)) fault).committed = [] from nothing,
              List.append_nil]
            refine ⟨history, ?_⟩
            cases reply with
            | error message => exact failed_holds settled
            | ok rows => exact absurd ((reported rows rfl).completed.symm.trans failed) (by decide)
          · rw [show (outcomeOf server database .idle (.insert (server.row file)) fault).committed =
              [.recorded (server.row file)] from committed]
            obtain ⟨recorded, knows⟩ := recorded_history sound earlier known absent completed
              (database.log ++ [.recorded (server.row file)]) (by simp [logIs, stood, Session.pending])
            refine ⟨recorded, ?_⟩
            cases reply with
            | error message => exact failed_holds settled
            | ok rows =>
                simp only [Except.isOk, Except.toBool, if_true]
                split
                · exact ⟨holds, idle, knows⟩
                · exact ⟨holds, absent, base, earlier, known, completed, .inr ⟨stood, idle, by rw [logIs]⟩⟩
      | explicit pending =>
          rw [stood] at settled reported
          obtain ⟨nothing, goes⟩ := query_change_explicit
            (Command.fault database.log fault (.explicit pending) (.insert (server.row file))) pending
            (Write.recorded (server.row file))
          rw [show (outcomeOf server database (.explicit pending) (.insert (server.row file)) fault).committed = [] from nothing,
            List.append_nil]
          refine ⟨history, ?_⟩
          cases reply with
          | error message => exact failed_holds settled
          | ok rows =>
              have listed : file ∈ files := by
                obtain ⟨-, before, rfl, -⟩ := known
                simp
              have off : ¬file.transactionOff = true := by
                intro off
                rw [sound.closes file listed off completed] at stood
                cases stood
              simp only [Except.isOk, Except.toBool, if_true, if_neg off]
              exact ⟨holds, absent, base, earlier, known, completed,
                .inl ⟨pending, stood, logIs, goes (reported rows rfl).completed⟩⟩
  | lock | readApplied | begin | contents | commit | rollback | unlock => simp [Point.after] at allowed

theorem inserted_step
    (held : (Point.at applied file rest .inserted).holds server directories files database.holder database.log client session)
    (sound : Sound server directories files) (history : History server directories database.log)
    (allowed : (Point.at applied file rest .inserted).after server files command reply = some target)
    (kept : command ≠ .lock → command ≠ .unlock → holder = database.holder)
    (reported : ∀ rows, reply = .ok rows → Reported server database client session command fault holder rows) :
    History server directories (database.log ++ (outcomeOf server database session command fault).committed) ∧
      target.holds server directories files holder
        (database.log ++ (outcomeOf server database session command fault).committed) client
        (outcomeOf server database session command fault).session := by
  have settled : (outcomeOf server database session command fault).session.Settled := query_settled ..
  obtain ⟨locked, absent, base, earlier, known, completed, stands⟩ := held
  cases command with
  | commit =>
      simp only [Point.after, Option.some.injEq] at allowed
      subst allowed
      have holds : holder = some client := (kept (by simp) (by simp)).trans locked
      have left : ∀ log : List (Write Change), (Point.leaving).holds server directories files holder log client
          (outcomeOf server database session .commit fault).session := fun _ => settled
      rcases query_commit (Command.fault database.log fault session .commit) session with ⟨nothing, failed⟩ | ⟨committed, idle⟩
      · rw [show (outcomeOf server database session .commit fault).committed = [] from nothing, List.append_nil]
        refine ⟨history, ?_⟩
        cases reply with
        | error message => exact left _
        | ok rows => exact absurd ((reported rows rfl).completed.symm.trans failed) (by decide)
      · rw [show (outcomeOf server database session .commit fault).committed = session.pending from committed]
        have whole : database.log ++ session.pending = base ++ (run server file none).committed ++
            (run server file none).session.pending ++ [.recorded (server.row file)] := by
          rcases stands with ⟨pending, stood, logIs, rfl⟩ | ⟨stood, rfl, logIs⟩
          · simp [logIs, stood, Session.pending]
          · simp [logIs, stood, Session.pending]
        obtain ⟨recorded, knows⟩ := recorded_history sound earlier known absent completed _ whole
        refine ⟨recorded, ?_⟩
        cases reply with
        | error message => exact left _
        | ok rows => exact ⟨holds, idle, knows⟩
  | lock | readApplied | settings | begin | contents | insert | rollback | unlock => simp [Point.after] at allowed

end Files

/-- Only a client with the lock commits anything. -/
theorem point_step {point target : Point} {reply : Except String (List Row)} {holder : Option ℕ}
    (sound : Sound server directories files) (history : History server directories database.log)
    (held : point.holds server directories files database.holder database.log client session)
    (allowed : point.after server files command reply = some target)
    (kept : command ≠ .lock → command ≠ .unlock → holder = database.holder)
    (reported : ∀ rows, reply = .ok rows → Reported server database client session command fault holder rows) :
    History server directories (database.log ++ (outcomeOf server database session command fault).committed) ∧
      ((outcomeOf server database session command fault).committed = [] ∨ database.holder = some client) ∧
      target.holds server directories files holder
        (database.log ++ (outcomeOf server database session command fault).committed) client
        (outcomeOf server database session command fault).session := by
  cases point with
  | «at» applied file rest stage =>
      have locked : database.holder = some client := held.1
      cases stage with
      | ready =>
          obtain ⟨goes, holds⟩ := ready_step held sound allowed kept reported
          exact ⟨goes, .inr locked, holds⟩
      | executed =>
          obtain ⟨goes, holds⟩ := executed_step held sound history allowed kept reported
          exact ⟨goes, .inr locked, holds⟩
      | inserted =>
          obtain ⟨goes, holds⟩ := inserted_step held sound history allowed kept reported
          exact ⟨goes, .inr locked, holds⟩
  | fresh | locked | between | rolling | leaving =>
      obtain ⟨nothing, holds⟩ := quiet_step held nofun allowed kept reported history
      rw [nothing, List.append_nil]
      exact ⟨history, .inl rfl, holds⟩

theorem point_transfer {point : Point} {holder later : Option ℕ} {log longer : List (Write Change)}
    (keeps : holder = some client → later = some client) (same : holder = some client → longer = log)
    (held : point.holds server directories files holder log client session) :
    point.holds server directories files later longer client session := by
  cases point with
  | fresh | rolling | leaving => exact held
  | locked => exact ⟨keeps held.1, held.2⟩
  | between applied rest =>
      obtain ⟨locked, idle, known⟩ := held
      exact ⟨keeps locked, idle, (same locked).symm ▸ known⟩
  | «at» applied file rest stage =>
      obtain ⟨locked, absent, base, earlier, known, stands⟩ := held
      exact ⟨keeps locked, absent, base, earlier, known, (same locked).symm ▸ stands⟩

theorem fades_holds {before after : Database Change} (fades : Fades before after) {phase : Phase}
    (held : phase.holds server directories before) : phase.holds server directories after := by
  cases phase with
  | starting files => exact held
  | left => trivial
  | connected files client point =>
      obtain ⟨sound, inside, holds⟩ := held
      refine ⟨sound, fades.length ▸ inside, fun session opened => ?_⟩
      obtain ⟨earlier, keeps⟩ := fades.links client session opened
      exact point_transfer keeps (fun _ => fades.log) (holds session earlier)

end Steps

end PaladinsCat.Migrations
