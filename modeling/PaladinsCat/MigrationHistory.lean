import PaladinsCat.MigrationSteps
import PaladinsCat.Ownership

/-!
What any number of operators do to a database between them: it goes through a history of their
directories, in which a version is recorded once and files that run in a transaction are applied
whole, with their records, and in order.
-/

namespace PaladinsCat.Migrations

open Interleaving Program SqlSessions

variable {Change : Type}

/-! ### Turns -/

section Turns
variable {server : Server Change} {directories : Set (List File)} {before after : Database Change} {files : List File}
  {client : ℕ} {point target : Point} {command : Command} {reply : Except String (List Row)}

theorem others_hold {middle done : Database Change} (apart : Apart client middle done)
    (commits : done.log = middle.log ∨ middle.holder = some client) {phase : Phase} (other : phase.client ≠ some client)
    (held : phase.holds server directories middle) : phase.holds server directories done := by
  cases phase with
  | starting files => exact held
  | left => trivial
  | connected files own point =>
      have different : own ≠ client := fun same => other (congrArg some same)
      obtain ⟨sound, inside, holds⟩ := held
      refine ⟨sound, apart.length ▸ inside, fun session opened => ?_⟩
      rw [apart.links own different] at opened
      refine point_transfer (apart.holder own different) (fun locked => ?_) (holds session opened)
      rcases commits with same | elsewhere
      · exact same
      · exact (different (Option.some.inj (locked.symm.trans elsewhere))).elim

/-- A command of a client keeps to the history, and to what every operator relies on. -/
theorem send_turn (served : (serve server).handler before (.send client command) reply after)
    (history : History server directories before.log)
    (held : (Phase.connected files client point).holds server directories before)
    (allowed : point.after server files command reply = some target) :
    History server directories after.log ∧ (Phase.connected files client target).holds server directories after ∧
      ∀ phase : Phase, phase.client ≠ some client → phase.holds server directories before →
        phase.holds server directories after := by
  obtain ⟨middle, fades, ⟨-, rfl, shut⟩ | ⟨session, fault, completed, done, opened, executed, ends⟩⟩ := send_served served
  · obtain ⟨sound, inside, -⟩ := held
    exact ⟨fades.log ▸ history, ⟨sound, fades.length ▸ inside, fun session opened => (shut session opened).elim⟩,
      fun phase _ => fades_holds fades⟩
  · obtain ⟨sound, inside, holds⟩ := fades_holds fades held
    have apart := execute_apart executed
    obtain ⟨holder, rfl, fine, -, kept, takes⟩ := executed_outcome executed
    have reported : ∀ rows, reply = .ok rows → Reported server middle client session command fault holder rows := by
      rintro rows rfl
      rcases ends with ⟨told, -, read⟩ | ⟨failed, -⟩
      · exact ⟨fine told.symm, fun locks => takes locks told.symm, read rows rfl⟩
      · cases failed
    obtain ⟨goes, commits, reached⟩ :=
      point_step sound (fades.log ▸ history) (holds session opened) allowed kept reported
    have quiet : middle.log ++ (outcomeOf server middle session command fault).committed = middle.log ∨
        middle.holder = some client := commits.imp_left fun nothing => by rw [nothing, List.append_nil]
    have own : (Phase.connected files client target).holds server directories
        ⟨middle.log ++ (outcomeOf server middle session command fault).committed, holder, middle.links.modify client fun link =>
          { link with session := (outcomeOf server middle session command fault).session }⟩ := by
      refine ⟨sound, apart.length ▸ inside, fun last found => ?_⟩
      have same : (outcomeOf server middle session command fault).session = last := by simpa [opened] using found
      exact same ▸ reached
    rcases ends with ⟨-, rfl, -⟩ | ⟨-, rfl⟩
    · exact ⟨goes, own, fun phase other held => others_hold apart quiet other (fades_holds fades held)⟩
    · have lost := close_fades
        ⟨middle.log ++ (outcomeOf server middle session command fault).committed, holder, middle.links.modify client fun link =>
          { link with session := (outcomeOf server middle session command fault).session }⟩ client
      exact ⟨goes, fades_holds lost own,
        fun phase other held => fades_holds lost (others_hold apart quiet other (fades_holds fades held))⟩

theorem connection_turn {reply : Except String ℕ} (served : (serve server).handler before .connection reply after) :
    after.log = before.log ∧
      (∀ phase : Phase, phase.holds server directories before → phase.holds server directories after) ∧
      ∀ client, reply = .ok client → client = before.links.length ∧ client < after.links.length ∧
        after.links[client]? = some ⟨.idle, false⟩ := by
  obtain ⟨outside, answered⟩ := served
  have fades := lost_fades outside.lost before
  simp only [serve] at answered
  generalize outside.lost.foldl Database.close before = middle at answered fades
  split at answered
  · cases answered
    exact ⟨fades.log, fun phase => fades_holds fades, by simp⟩
  · cases answered
    refine ⟨fades.log, fun phase held => ?_, fun client told => ?_⟩
    · have middleHeld := fades_holds fades held
      cases phase with
      | starting files => exact middleHeld
      | left => trivial
      | connected files client point =>
          obtain ⟨sound, inside, holds⟩ := middleHeld
          refine ⟨sound, by simpa using Nat.lt_succ_of_lt inside, fun session opened => ?_⟩
          rw [List.getElem?_append_left inside] at opened
          exact holds session opened
    · obtain rfl : middle.links.length = client := Except.ok.inj told
      exact ⟨fades.length, by simp, by simp⟩

end Turns

/-! ### Runs -/

section Runs
variable {server : Server Change} {deployed : Operator → Prop}

theorem duplicateVersion_none {versions : List String} {files : List File} (none_ : duplicateVersion versions files = none) :
    (files.map File.version).Nodup ∧ ∀ file ∈ files, file.version ∉ versions := by
  induction files generalizing versions with
  | nil => exact ⟨.nil, nofun⟩
  | cons file rest ih =>
      unfold duplicateVersion at none_
      split at none_
      · cases none_
      · rename_i fresh
        obtain ⟨distinct, apart⟩ := ih none_
        refine ⟨List.nodup_cons.mpr ⟨fun listed => ?_, distinct⟩, fun other member => ?_⟩
        · obtain ⟨other, member, same⟩ := List.mem_map.mp listed
          exact apart other member (same ▸ List.mem_cons_self)
        · rcases List.mem_cons.mp member with rfl | later
          · exact fresh
          · exact fun seen => apart other later (List.mem_cons_of_mem _ seen)

/-- The directories that operators apply. -/
def directoriesOf (deployed : Operator → Prop) : Set (List File) := {files | ∃ operator, deployed operator ∧ operator.files = files}

/-- A file that asks for no transaction leaves none open. -/
def Closing (server : Server Change) (operator : Operator) : Prop :=
  ∀ file ∈ operator.files, file.transactionOff = true → (run server file none).completed = true →
    (run server file none).session = .idle

theorem first_holds {operator : Operator} (listed : deployed operator) (closing : Closing server operator)
    (database : Database Change) : operator.first.holds server (directoriesOf deployed) database := by
  unfold Operator.first
  split
  · rename_i none_
    exact ⟨⟨operator, listed, rfl⟩, (duplicateVersion_none none_).1, closing⟩
  · trivial

/-- Each operator owns its session, and gets a new one. -/
def sessions (server : Server Change) (directories : Set (List File)) : Ownership (Database Change) Phase ℕ where
  owns phase client := phase.client = some client
  free database client := database.links.length ≤ client
  good database := History server directories database.log
  holds phase database := phase.holds server directories database

theorem holds_stands {directories : Set (List File)} {database : Database Change} {phase : Phase}
    (held : phase.holds server directories database) : (sessions server directories).Stands phase database where
  holds := held
  taken client owned := by
    cases phase with
    | starting | left => cases owned
    | connected files own point =>
        obtain rfl := Option.some.inj owned
        exact Nat.not_le_of_lt held.2.1

theorem session_step {directories : Set (List File)} {before after : Database Change} {phase target : Phase}
    {op : MigrationOp} {reply : op.Reply} (history : History server directories before.log)
    (held : phase.holds server directories before) (allowed : next server phase op reply = some target)
    (served : (serve server).handler before op reply after) : (sessions server directories).Step before phase after target := by
  cases phase with
  | left => cases op <;> cases allowed
  | starting files =>
      cases op with
      | send client command => cases allowed
      | connection =>
          obtain ⟨log, transfers, connected⟩ := connection_turn served
          have sound : Sound server directories files := held
          obtain rfl := Option.some.inj allowed
          have history : History server directories after.log := log ▸ history
          refine ⟨history, holds_stands ?_, fun client owned => ?_, fun other stands _ => holds_stands (transfers other stands.holds)⟩
          · cases reply with
            | error message => trivial
            | ok client =>
                obtain ⟨-, inside, opened⟩ := connected client rfl
                refine ⟨sound, inside, fun session stands => ?_⟩
                rw [opened] at stands
                cases stands
                rfl
          · cases reply with
            | error message => cases owned
            | ok new =>
                obtain rfl := Option.some.inj owned
                exact .inr (connected new rfl).1.ge
  | connected files client point =>
      cases op with
      | connection => cases allowed
      | send asked command =>
          simp only [next] at allowed
          split_ifs at allowed with same
          subst same
          obtain ⟨reached, goes, rfl⟩ := Option.map_eq_some_iff.mp allowed
          obtain ⟨history, held, others⟩ := send_turn served history held goes
          exact ⟨history, holds_stands held, fun client owned => .inl owned,
            fun other stands apart => holds_stands (others other (apart asked rfl) stands.holds)⟩

end Runs

/-! ### What a history comes to -/

section Consequences
variable {server : Server Change} {directories : Set (List File)} {log : List (Write Change)}

theorem ledger_recorded (server : Server Change) (base : List (Write Change)) (file : File) :
    ledger (base ++ (run server file none).committed ++ (run server file none).session.pending ++
      [.recorded (server.row file)]) = ledger base ++ [server.row file] := by
  obtain ⟨committed, pending⟩ := run_schema server file none
  rw [ledger_append, ledger_append, ledger_append, committed, pending, List.append_nil, List.append_nil]
  rfl

theorem history_mono {wider : Set (List File)} (narrow : directories ⊆ wider) (history : History server directories log) :
    History server wider log := by
  have next : ∀ {log : List (Write Change)} {file : File}, Next server directories log file → Next server wider log file :=
    fun ⟨before, rest, listed, known, fresh⟩ => ⟨before, rest, narrow listed, known, fresh⟩
  induction history with
  | empty => exact .empty
  | recorded earlier file completed ih => exact .recorded ih (next file) completed
  | unrecorded earlier file fault ih => exact .unrecorded ih (next file) fault

/-- A version is recorded once. -/
theorem history_versions (history : History server directories log) : ((ledger log).map Row.version).Nodup := by
  induction history with
  | empty => exact .nil
  | @recorded log file earlier next completed ih =>
      obtain ⟨-, -, -, -, fresh⟩ := next
      rw [ledger_recorded, List.map_append, List.nodup_append]
      refine ⟨ih, by simp, ?_⟩
      intro version listed own single
      obtain ⟨row, member, rfl⟩ := List.mem_map.mp listed
      rw [List.mem_singleton.mp single]
      exact fresh row member
  | unrecorded earlier next fault ih =>
      rw [ledger_append, (run_schema _ _ fault).1, List.append_nil]
      exact ih

/-- Of a single directory, the files at the front are recorded. -/
theorem history_prefix {files : List File} (distinct : (files.map File.version).Nodup)
    (history : History server {files} log) : ∃ n ≤ files.length, ledger log = (files.take n).map server.row := by
  induction history with
  | empty => exact ⟨0, Nat.zero_le _, rfl⟩
  | unrecorded earlier next fault ih =>
      rw [ledger_append, (run_schema _ _ fault).1, List.append_nil]
      exact ih
  | @recorded log file earlier next completed ih =>
      obtain ⟨n, inside, recorded⟩ := ih
      obtain ⟨before, rest, rfl, known, fresh⟩ := next
      -- The file itself is not among the first ones, and the files before it are.
      have least : n ≤ before.length := by
        by_contra more
        have member : file ∈ (before ++ file :: rest).take n := by
          obtain ⟨extra, rfl⟩ := Nat.exists_eq_add_of_lt (not_le.mp more)
          rw [Nat.add_assoc, List.take_length_add_append]
          simp
        exact fresh (server.row file) (recorded ▸ List.mem_map_of_mem member) rfl
      have most : before.length ≤ n := by
        by_contra fewer
        obtain ⟨first, later, split⟩ := List.exists_cons_of_length_pos (l := before.drop n) (by
          rw [List.length_drop]
          omega)
        have listed : first ∈ before := List.mem_of_mem_drop (split ▸ List.mem_cons_self)
        have row := known first listed
        rw [recorded, List.take_append_of_le_length least] at row
        obtain ⟨other, taken, same⟩ := List.mem_map.mp row
        rw [List.map_append, List.nodup_append] at distinct
        have whole := distinct.1
        rw [← List.take_append_drop n before, List.map_append, List.nodup_append, split] at whole
        exact whole.2.2 other.version (List.mem_map_of_mem taken) first.version (by simp) (congrArg Row.version same)
      obtain rfl : n = before.length := le_antisymm least most
      refine ⟨before.length + 1, by simp, ?_⟩
      rw [ledger_recorded, recorded, List.take_length_add_append, List.take_left' rfl]
      simp

/-! ### Files that only change -/

/-- A file that runs in a transaction and does not end it. -/
structure Plain (server : Server Change) (changes : File → List Change) (file : File) : Prop where
  inside : file.transactionOff = false
  statements : server.statements file.text = (changes file).map .change

variable {changes : File → List Change} {file : File}

/-- What is committed with the record of a file. -/
def block (server : Server Change) (changes : File → List Change) (file : File) : List (Write Change) :=
  (changes file).map .schema ++ [.recorded (server.row file)]

theorem plain_run (plain : Plain server changes file) (fault : Option ℕ) :
    run server file fault = query (.explicit []) (((changes file).map Write.schema).map .change) fault := by
  rw [run, File.start, plain.inside, plain.statements]
  simp only [List.map_map]
  rfl

theorem plain_block (plain : Plain server changes file) (base : List (Write Change)) :
    base ++ (run server file none).committed ++ (run server file none).session.pending ++ [.recorded (server.row file)] =
      base ++ block server changes file := by
  rw [plain_run plain, query_explicit]
  simp [block, Session.pending]

/-- If all files are plain, the database consists of whole files, each of them with its record. A
file is applied once, and behind those before it in some directory. -/
theorem history_plain (plain : ∀ files ∈ directories, ∀ file ∈ files, Plain server changes file)
    (history : History server directories log) :
    ∃ done : List File, log = done.flatMap (block server changes) ∧ ledger log = done.map server.row ∧
      (done.map File.version).Nodup ∧
      ∀ before file rest, done = before ++ file :: rest →
        ∃ earlier later, earlier ++ file :: later ∈ directories ∧ ∀ other ∈ earlier, server.row other ∈ before.map server.row := by
  induction history with
  | empty => exact ⟨[], rfl, rfl, .nil, by simp⟩
  | @unrecorded log file earlier next fault ih =>
      obtain ⟨before, rest, listed, -, -⟩ := next
      have nothing : (run server file fault).committed = [] := by
        rw [plain_run (plain _ listed file (by simp)), query_explicit_commits]
      rw [nothing, List.append_nil]
      exact ih
  | @recorded log file earlier next completed ih =>
      obtain ⟨done, rfl, recorded, distinct, order⟩ := ih
      obtain ⟨before, rest, listed, known, fresh⟩ := next
      have rows := ledger_recorded server (done.flatMap (block server changes)) file
      rw [plain_block (plain _ listed file (by simp))] at rows ⊢
      refine ⟨done ++ [file], by simp, by simp [rows, recorded], ?_, ?_⟩
      · rw [List.map_append, List.nodup_append]
        refine ⟨distinct, by simp, ?_⟩
        intro version member own single
        obtain ⟨other, old, rfl⟩ := List.mem_map.mp member
        rw [List.mem_singleton.mp single]
        exact fresh (server.row other) (recorded ▸ List.mem_map_of_mem old)
      · intro front last back split
        rcases List.eq_nil_or_concat back with rfl | ⟨back, final, rfl⟩
        · obtain ⟨rfl, same⟩ := List.append_inj' split rfl
          obtain rfl : file = last := by simpa using same
          exact ⟨before, rest, listed, fun other member => recorded ▸ known other member⟩
        · rw [List.concat_eq_append, ← List.cons_append, ← List.append_assoc] at split
          obtain ⟨old, -⟩ := List.append_inj' split rfl
          exact order front last back old

end Consequences

section Directories
variable {server : Server Change} {deployed : Operator → Prop}
  {turns : List (Turn (Database Change) MigrationOp MigrationOp.Reply (Except String (ℕ × ℕ)))}
  {state : State (Database Change) MigrationOp MigrationOp.Reply (Except String (ℕ × ℕ))}

end Directories

/-! ### An operator that is interrupted -/

def firstFile : File := ⟨"001_players.sql", "CREATE TABLE players(id BIGINT);"⟩
def secondFile : File := ⟨"002_matches.sql", "CREATE TABLE matches(id BIGINT);"⟩

def twoFiles : Operator := ⟨[secondFile, firstFile], false⟩

/-- A server that takes every text for one statement. -/
def literal : Server String := ⟨id, fun text => [.change text]⟩

/-- The first operator loses its session in the second file, and another one finishes. -/
def interrupted : List (Move {operator // operator = twoFiles} Outside) :=
  .enter ⟨twoFiles, rfl⟩ :: .enter ⟨twoFiles, rfl⟩ :: List.replicate 12 (.turn 0 {}) ++
    .turn 1 { lost := [0] } :: List.replicate 8 (.turn 1 {})

theorem interrupted_reaches :
    ∃ turns state, Run (serve literal).handler (fun operator : {operator // operator = twoFiles} => migrationsApply literal operator)
        ⟨{}, []⟩ turns state ∧ decide ((ledger state.shared.log).map Row.version = ["001", "002"]) = true := by
  have passed : ((replay (serve literal) (fun operator : {operator // operator = twoFiles} => migrationsApply literal operator)
      ⟨{}, []⟩ interrupted).any fun reached =>
        decide ((ledger reached.2.shared.log).map Row.version = ["001", "002"])) = true := by
    decide +kernel
  exact replay_reaches passed

theorem twoFiles_plain : ∀ operator, operator = twoFiles → ∀ file ∈ operator.files,
    Plain literal (fun file => [file.text]) file := by
  have off : ∀ file ∈ twoFiles.files, file.transactionOff = false := by decide +kernel
  rintro operator rfl file member
  exact ⟨off file member, rfl⟩

theorem twoFiles_closing : ∀ operator, operator = twoFiles → Closing literal operator := by
  rintro operator rfl file member off
  rw [(twoFiles_plain _ rfl file member).inside] at off
  cases off

end PaladinsCat.Migrations
