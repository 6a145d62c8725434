import PaladinsCat.MigrationHistory

/-!
What an operator does that nobody disturbs, on a database that other operators have left at any
point: it applies the files that are missing, and all files are recorded in the end.
-/

namespace PaladinsCat.Migrations

open Interleaving Program SqlSessions

variable {Change : Type} {server : Server Change}

/-- No session is lost, and no statement fails. -/
def calm (server : Server Change) : Handler (Database Change) MigrationOp MigrationOp.Reply :=
  fun before op reply after => serve server before op {} = some (reply, after)

theorem exec_then {σ Op α β : Type} {Reply : Op → Type} {answers : Handler σ Op Reply} {before middle after : σ}
    (program : Program Op Reply β) {rest : β → Program Op Reply α} {front back : List (Event σ Op Reply)} {value : β} {result : α}
    (first : Exec answers before program front value middle) (second : Exec answers middle (rest value) back result after) :
    Exec answers before (program >>= rest) (front ++ back) result after := by
  induction first with
  | done => exact second
  | call reply answered _ ih => exact .call reply answered (ih second)

/-- What is known of a database while a client works on it. -/
structure Open (database : Database Change) (client : ℕ) (log : List (Write Change)) (session : Session (Write Change)) :
    Prop where
  log : database.log = log
  holder : database.holder = some client
  link : database.links[client]? = some ⟨session, false⟩

section Commands
variable {database : Database Change} {client : ℕ} {log : List (Write Change)} {session : Session (Write Change)}
  {command : Command}

theorem calm_send {outcome : Outcome (Write Change)} (opened : Open database client log session)
    (outcomeIs : query session (command.statements server) (command.fault log none session) = outcome)
    (completed : outcome.completed = true) (holds : command ≠ .lock) (keeps : command ≠ .unlock) :
    ∃ after, calm server database (.send client command) (.ok (command.rows log session)) after ∧
      Open after client (log ++ outcome.committed) outcome.session := by
  obtain ⟨rfl, held, link⟩ := opened
  refine ⟨⟨database.log ++ outcome.committed, database.holder, database.links.modify client fun link =>
    { link with session := outcome.session }⟩, ?_, ⟨rfl, held, by simp [link]⟩⟩
  simp only [calm, serve, List.foldl_nil, link]
  cases command with
  | lock => exact (holds rfl).elim
  | unlock => exact (keeps rfl).elim
  | readApplied | settings | begin | contents | insert | commit | rollback =>
      simp only [Database.execute, outcomeIs, Option.map_some, Bool.false_eq_true, if_false, completed, if_true]

/-- Commands one after the other that all are completed. -/
inductive Passes (server : Server Change) : List (Write Change) → Session (Write Change) → List Command →
    List (Write Change) → Session (Write Change) → Prop where
  | done (log : List (Write Change)) (session : Session (Write Change)) : Passes server log session [] log session
  | step {log last : List (Write Change)} {session final : Session (Write Change)} {command : Command} {rest : List Command}
      {outcome : Outcome (Write Change)} (holds : command ≠ .lock) (keeps : command ≠ .unlock)
      (outcomeIs : query session (command.statements server) (command.fault log none session) = outcome)
      (completed : outcome.completed = true)
      (further : Passes server (log ++ outcome.committed) outcome.session rest last final) :
      Passes server log session (command :: rest) last final

theorem calm_sendAll {commands : List Command} {last : List (Write Change)} {final : Session (Write Change)}
    (passes : Passes server log session commands last final) (opened : Open database client log session) :
    ∃ events after, Exec (calm server) database (sendAll client commands) events (.ok ()) after ∧ Open after client last final := by
  induction passes generalizing database with
  | done log session => exact ⟨[], database, .done _ _, opened⟩
  | step holds keeps outcomeIs completed further ih =>
      obtain ⟨middle, answered, reached⟩ := calm_send opened outcomeIs completed holds keeps
      obtain ⟨events, after, rest, ends⟩ := ih reached
      exact ⟨_, after, .call _ answered rest, ends⟩

theorem Passes.quiet {last : List (Write Change)} {final after : Session (Write Change)} {rest : List Command}
    (holds : command ≠ .lock) (keeps : command ≠ .unlock)
    (outcomeIs : query session (command.statements server) (command.fault log none session) = ⟨[], after, true⟩)
    (further : Passes server log after rest last final) : Passes server log session (command :: rest) last final :=
  .step holds keeps outcomeIs rfl (by rwa [List.append_nil])

end Commands

/-! ### One file -/

section File
variable {database : Database Change} {client : ℕ} {log : List (Write Change)} {file : File}

/-- Neither the version nor the name of the file is recorded. -/
def Unrecorded (log : List (Write Change)) (file : File) : Prop :=
  ∀ row ∈ ledger log, row.version ≠ file.version ∧ row.fileName ≠ file.name

/-- The log after the contents of a file, which the session may not have committed yet, accepts its record. -/
theorem insert_fault (fresh : Unrecorded log file) {session : Session (Write Change)} (sound : session ≠ .failed)
    (same : session.pending = (run server file none).session.pending) :
    Command.fault (log ++ (run server file none).committed) none session (.insert (server.row file)) = none := by
  obtain ⟨committed, pending⟩ := run_schema server file none
  have unique : conflicts (log ++ (run server file none).committed ++ session.pending) (server.row file) = false := by
    rw [conflicts, ledger_append, ledger_append, committed, same, pending, List.append_nil, List.append_nil,
      List.any_eq_false]
    intro row listed
    obtain ⟨version, name⟩ := fresh row listed
    simp [Server.row, version, name]
  cases session with
  | failed => exact (sound rfl).elim
  | idle | implicit | explicit => simp only [Command.fault, unique, Bool.false_eq_true, if_false]

/-- The contents of a file. -/
theorem contents_outcome (file : File) (log : List (Write Change)) :
    query file.start ((Command.contents file.text).statements server) (Command.fault log none file.start (.contents file.text)) =
      run server file none := by
  have fine : Command.fault log none (file.start : Session (Write Change)) (.contents file.text) = none := by
    unfold File.start
    split <;> rfl
  rw [fine]
  rfl

/-- From the contents to the record. -/
theorem passes_recorded (fresh : Unrecorded log file) (completed : (run server file none).completed = true)
    {between : List Command} (idle : between = [] ∨ between = [.settings])
    {last : List (Write Change)} {final : Session (Write Change)}
    (recorded : ((run server file none).session = .idle ∧ final = .idle ∧
        last = log ++ (run server file none).committed ++ [.recorded (server.row file)]) ∨
      ∃ pending, (run server file none).session = .explicit pending ∧
        final = .explicit (pending ++ [.recorded (server.row file)]) ∧ last = log ++ (run server file none).committed) :
    Passes server log file.start (.contents file.text :: (between ++ [.insert (server.row file)])) last final := by
  refine .step nofun nofun (contents_outcome file log) completed ?_
  have inserts : Passes server (log ++ (run server file none).committed) (run server file none).session
      [.insert (server.row file)] last final := by
    have sound : (run server file none).session ≠ .failed := query_sound (start_sound file) completed
    have fault := insert_fault fresh sound rfl
    rcases recorded with ⟨stood, rfl, rfl⟩ | ⟨pending, stood, rfl, rfl⟩
    · rw [stood] at fault ⊢
      exact .step nofun nofun (by rw [fault]) rfl (.done _ _)
    · rw [stood] at fault ⊢
      exact .quiet nofun nofun (by rw [fault]; rfl) (.done _ _)
  rcases idle with rfl | rfl
  · exact inserts
  · refine .quiet nofun nofun ?_ inserts
    have sound : (run server file none).session ≠ .failed := query_sound (start_sound file) completed
    have settled : (run server file none).session.Settled := query_settled ..
    cases stood : (run server file none).session with
    | failed => exact (sound stood).elim
    | implicit => exact (stood ▸ settled : (Session.implicit _).Settled).elim
    | idle | explicit => rfl

theorem calm_applyFile (opened : Open database client log .idle) (fresh : Unrecorded log file)
    (completed : (run server file none).completed = true)
    (closes : file.transactionOff = true → (run server file none).session = .idle) :
    ∃ events after, Exec (calm server) database (applyFile server client file) events (.ok ()) after ∧
      Open after client
        (log ++ (run server file none).committed ++ (run server file none).session.pending ++ [.recorded (server.row file)])
        .idle := by
  unfold applyFile
  by_cases off : file.transactionOff = true
  · have start : (file.start : Session (Write Change)) = .idle := if_pos off
    have passes := passes_recorded fresh completed (.inr rfl) (.inl ⟨closes off, rfl, rfl⟩)
    rw [start] at passes
    rw [if_pos off, closes off, Session.pending, List.append_nil]
    exact calm_sendAll (.quiet (by simp) (by simp) rfl passes) opened
  · have start : (file.start : Session (Write Change)) = .explicit [] := if_neg off
    rw [if_neg off]
    have begins : query .idle ((Command.begin).statements server) (Command.fault log none .idle .begin) = ⟨[], .explicit [], true⟩ := rfl
    obtain ⟨begun, answered, begunOpen⟩ := calm_send opened begins rfl (by simp) (by simp)
    rw [List.append_nil] at begunOpen
    have inside : ∃ last final, Passes server log (.explicit [])
        [.settings, .contents file.text, .insert (server.row file)] last final ∧ final ≠ .failed ∧
        last ++ final.pending = log ++ (run server file none).committed ++ (run server file none).session.pending ++
          [.recorded (server.row file)] := by
      have sound : (run server file none).session ≠ .failed := query_sound (start_sound file) completed
      have settled : (run server file none).session.Settled := query_settled ..
      cases stood : (run server file none).session with
      | failed => exact (sound stood).elim
      | implicit => exact (stood ▸ settled : (Session.implicit _).Settled).elim
      | idle =>
          have passes := passes_recorded fresh completed (.inl rfl) (.inl ⟨stood, rfl, rfl⟩)
          rw [start] at passes
          exact ⟨_, _, .quiet (by simp) (by simp) rfl passes, by simp, by simp [Session.pending]⟩
      | explicit pending =>
          have passes := passes_recorded fresh completed (.inl rfl) (.inr ⟨pending, stood, rfl, rfl⟩)
          rw [start] at passes
          exact ⟨_, _, .quiet (by simp) (by simp) rfl passes, by simp, by simp [Session.pending]⟩
    obtain ⟨last, final, passes, -, whole⟩ := inside
    obtain ⟨events, middle, ran, middleOpen⟩ := calm_sendAll passes begunOpen
    have commits : query final ((Command.commit).statements server) (Command.fault last none final .commit) =
        ⟨final.pending, .idle, true⟩ := by
      cases final <;> simp [Command.statements, Command.fault, query, Session.step, Session.endQuery]
    obtain ⟨after, committed, ends⟩ := calm_send middleOpen commits rfl (by simp) (by simp)
    rw [whole] at ends
    exact ⟨_, after, .call _ answered (exec_then
      (sendAll client [.settings, .contents file.text, .insert (server.row file)]) ran
      (.call _ committed (.done _ _))), ends⟩

end File

/-! ### All files -/

section Files
variable {client : ℕ} {applied : List Row} {confirmed : Bool} {log : List (Write Change)}

/-- Recorded files are passed over. -/
theorem applyFiles_skips {front : List File} (rest : List File) (confirmed : Bool) (count : ℕ)
    (matched : ∀ file ∈ front, (applied.find? fun row => row.version == file.version) = some (server.row file)) :
    applyFiles server client confirmed applied (front ++ rest) count = applyFiles server client confirmed applied rest count := by
  induction front with
  | nil => rfl
  | cons file front ih =>
      rw [List.cons_append, applyFiles, matched file (by simp)]
      simp only [if_true]
      exact ih fun other member => matched other (List.mem_cons_of_mem _ member)

/-- The files behind them are applied. -/
theorem calm_applyFiles {rest : List File} {database : Database Change} (count : ℕ) (opened : Open database client log .idle)
    (absent : ∀ file ∈ rest, (applied.find? fun row => row.version == file.version) = none)
    (fresh : ∀ file ∈ rest, Unrecorded log file) (distinct : (rest.map File.version).Nodup)
    (allowed : ∀ file ∈ rest, file.requiresBackup = true → confirmed = true)
    (completed : ∀ file ∈ rest, (run server file none).completed = true)
    (closes : ∀ file ∈ rest, file.transactionOff = true → (run server file none).session = .idle) :
    ∃ events after last, Exec (calm server) database (applyFiles server client confirmed applied rest count) events
        (.ok (count + rest.length)) after ∧ Open after client last .idle ∧ ledger last = ledger log ++ rest.map server.row := by
  induction rest generalizing database log count with
  | nil => exact ⟨[], database, log, .done _ _, opened, by simp⟩
  | cons file rest ih =>
      have refused : (file.requiresBackup && !confirmed) = false := by
        cases asks : file.requiresBackup with
        | false => rfl
        | true => simp [allowed file (by simp) asks]
      obtain ⟨events, middle, ran, middleOpen⟩ :=
        calm_applyFile opened (fresh file (by simp)) (completed file (by simp)) (closes file (by simp))
      obtain ⟨apart, distinct⟩ := List.nodup_cons.mp distinct
      have recorded := ledger_recorded server log file
      obtain ⟨later, after, last, rests, ends, whole⟩ := ih (count + 1) middleOpen
        (fun other member => absent other (List.mem_cons_of_mem _ member))
        (fun other member row listed => by
          rw [recorded, List.mem_append, List.mem_singleton] at listed
          rcases listed with old | rfl
          · exact fresh other (List.mem_cons_of_mem _ member) row old
          · have different : file.version ≠ other.version := fun same => apart (same ▸ List.mem_map_of_mem member)
            exact ⟨different, fun same => different (by simp only [File.version, show file.name = other.name from same])⟩)
        distinct (fun other member => allowed other (List.mem_cons_of_mem _ member))
        (fun other member => completed other (List.mem_cons_of_mem _ member))
        (fun other member => closes other (List.mem_cons_of_mem _ member))
      have both : Exec (calm server) database (applyFiles server client confirmed applied (file :: rest) count)
          (events ++ later) (.ok (count + (file :: rest).length)) after := by
        rw [List.length_cons, Nat.add_comm rest.length 1, ← Nat.add_assoc]
        unfold applyFiles
        rw [absent file (by simp)]
        simp only [refused, Bool.false_eq_true, if_false]
        exact exec_then (applyFile server client file) ran rests
      exact ⟨_, after, last, both, ends, by rw [whole, recorded, List.append_assoc]; rfl⟩

end Files

/-- Of the rows of the first files, each one is found by the version of its file. -/
theorem find_taken (server : Server Change) {files : List File} (distinct : (files.map File.version).Nodup) {n : ℕ} {file : File}
    (member : file ∈ files.take n) :
    ((files.take n).map server.row).find? (fun row => row.version == file.version) = some (server.row file) := by
  have some_ : (((files.take n).map server.row).find? fun row => row.version == file.version).isSome = true := by
    rw [List.find?_isSome]
    exact ⟨server.row file, List.mem_map_of_mem member, beq_self_eq_true _⟩
  obtain ⟨row, found⟩ := Option.isSome_iff_exists.mp some_
  obtain ⟨other, listed, rfl⟩ := List.mem_map.mp (List.mem_of_find?_eq_some found)
  have same : other.version = file.version := by simpa [Server.row] using List.find?_some found
  have front : ((files.take n).map File.version).Nodup := distinct.sublist ((List.take_sublist n files).map _)
  rw [found, List.inj_on_of_nodup_map front listed member same]

theorem find_dropped (server : Server Change) {files : List File} (distinct : (files.map File.version).Nodup) {n : ℕ} {file : File}
    (member : file ∈ files.drop n) :
    ∀ row ∈ (files.take n).map server.row, row.version ≠ file.version ∧ row.fileName ≠ file.name := by
  intro row listed
  obtain ⟨other, taken, rfl⟩ := List.mem_map.mp listed
  rw [← List.take_append_drop n files, List.map_append, List.nodup_append] at distinct
  have apart : other.version ≠ file.version :=
    distinct.2.2 other.version (List.mem_map_of_mem taken) file.version (List.mem_map_of_mem member)
  exact ⟨apart, fun same => apart (by simp only [File.version, show other.name = file.name from same])⟩

end PaladinsCat.Migrations
