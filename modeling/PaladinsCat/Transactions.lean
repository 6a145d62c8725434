import PaladinsCat.Interleaving

/-!
Transactions of several statements that run at READ COMMITTED. A statement sees what has been
committed and what its own transaction has changed; a lock is held to the end of the transaction;
a commit makes all changes of the transaction at once, and a rollback none of them. What a lock
protects is a parameter: a transaction may change a protected value only if it holds the lock.
-/

namespace Transactions

/-- What each lock protects of a state. -/
structure Guard (σ Lock : Type) where
  Value : Lock → Type
  value : (lock : Lock) → σ → Value lock

variable {σ Lock : Type}

structure Transaction (guard : Guard σ Lock) where
  locks : List Lock := []
  change : σ → σ := id
  confined : ∀ lock, lock ∉ locks → ∀ state, guard.value lock (change state) = guard.value lock state := by
    intros; rfl

/-- The transactions are numbered in the order in which they began; one that has ended leaves its number behind. -/
def findIn {guard : Guard σ Lock} (opened : List (Option (Transaction guard))) (tx : Nat) : Option (Transaction guard) :=
  opened[tx]?.join

structure Database (guard : Guard σ Lock) where
  committed : σ
  opened : List (Option (Transaction guard)) := []
  exclusive : ∀ one other lock held held', findIn opened one = some held → findIn opened other = some held' →
    lock ∈ held.locks → lock ∈ held'.locks → one = other := by simp [findIn]

variable {guard : Guard σ Lock}

namespace Database

def find (db : Database guard) (tx : Nat) : Option (Transaction guard) := findIn db.opened tx

/-- What a statement of a transaction sees. -/
def view (db : Database guard) (held : Transaction guard) : σ := held.change db.committed

/-- No other transaction holds the lock. -/
def Free (db : Database guard) (tx : Nat) (lock : Lock) : Prop :=
  ∀ other < db.opened.length, ∀ held ∈ db.find other, lock ∈ held.locks → other = tx

instance [DecidableEq Lock] (db : Database guard) (tx : Nat) (lock : Lock) : Decidable (db.Free tx lock) :=
  inferInstanceAs (Decidable (∀ other < db.opened.length, ∀ held ∈ db.find other, lock ∈ held.locks → other = tx))

end Database

section Opened
variable {opened : List (Option (Transaction guard))} {tx other : Nat} {held held' : Transaction guard}

theorem findIn_inside (found : findIn opened tx = some held) : tx < opened.length := by
  by_contra outside
  simp [findIn, List.getElem?_eq_none (Nat.le_of_not_lt outside)] at found

theorem findIn_append (found : findIn (opened ++ [some held']) tx = some held) :
    findIn opened tx = some held ∨ tx = opened.length ∧ held = held' := by
  by_cases inside : tx < opened.length
  · exact Or.inl (by simpa [findIn, List.getElem?_append_left inside] using found)
  · have bound := findIn_inside found
    simp only [List.length_append, List.length_cons, List.length_nil] at bound
    obtain rfl : tx = opened.length := by omega
    exact Or.inr ⟨rfl, by simpa [findIn, eq_comm] using found⟩

theorem findIn_set_self {slot : Option (Transaction guard)} (inside : tx < opened.length) :
    findIn (opened.set tx slot) tx = slot := by
  simp [findIn, inside]

theorem findIn_set_other {slot : Option (Transaction guard)} (apart : other ≠ tx) :
    findIn (opened.set tx slot) other = findIn opened other := by
  simp [findIn, Ne.symm apart]

theorem findIn_set {slot : Option (Transaction guard)} (found : findIn (opened.set tx slot) other = some held) :
    other = tx ∧ slot = some held ∨ findIn opened other = some held := by
  by_cases same : other = tx
  · subst same
    have inside := findIn_inside found
    rw [List.length_set] at inside
    exact Or.inl ⟨rfl, by rwa [findIn_set_self inside] at found⟩
  · exact Or.inr (by rwa [findIn_set_other same] at found)

end Opened

namespace Database

variable (db : Database guard)

def begun : Database guard where
  committed := db.committed
  opened := db.opened ++ [some {}]
  exclusive := by
    intro one other lock held held' found found' holds holds'
    rcases findIn_append found with found | ⟨rfl, rfl⟩
    · rcases findIn_append found' with found' | ⟨rfl, rfl⟩
      · exact db.exclusive one other lock held held' found found' holds holds'
      · simp at holds'
    · simp at holds

/-- The transaction ends without its changes. -/
def close (tx : Nat) : Database guard where
  committed := db.committed
  opened := db.opened.set tx none
  exclusive := by
    intro one other lock held held' found found' holds holds'
    rcases findIn_set found with ⟨-, ⟨⟩⟩ | found
    rcases findIn_set found' with ⟨-, ⟨⟩⟩ | found'
    exact db.exclusive one other lock held held' found found' holds holds'

/-- A transaction takes a free lock, and changes what the lock protects. -/
def write (tx : Nat) (lock : Lock) (free : db.Free tx lock) (change : σ → σ)
    (confined : ∀ other, other ≠ lock → ∀ state, guard.value other (change state) = guard.value other state) :
    Database guard where
  committed := db.committed
  opened := db.opened.set tx ((db.find tx).map fun held =>
    { locks := lock :: held.locks
      change := change ∘ held.change
      confined := by
        intro other absent state
        rw [List.mem_cons, not_or] at absent
        exact (confined other absent.1 _).trans (held.confined other absent.2 state) })
  exclusive := by
    intro one other' wanted first second here there holds holds'
    have mine : ∀ {held somebody theirs}, db.find tx = some held → findIn db.opened somebody = some theirs →
        wanted ∈ theirs.locks → wanted ∈ lock :: held.locks → somebody = tx := by
      intro held somebody theirs found listed has wants
      rcases List.mem_cons.mp wants with rfl | wants
      · exact free somebody (findIn_inside listed) theirs listed has
      · exact db.exclusive somebody tx wanted theirs held listed found has wants
    rcases findIn_set here with ⟨rfl, slot⟩ | earlier
    · obtain ⟨held, found, rfl⟩ := Option.map_eq_some_iff.mp slot
      rcases findIn_set there with ⟨rfl, -⟩ | earlier'
      · rfl
      · exact (mine found earlier' holds' holds).symm
    · rcases findIn_set there with ⟨rfl, slot⟩ | earlier'
      · obtain ⟨held, found, rfl⟩ := Option.map_eq_some_iff.mp slot
        exact mine found earlier holds holds'
      · exact db.exclusive one other' wanted first second earlier earlier' holds holds'

def acquire (tx : Nat) (lock : Lock) (free : db.Free tx lock) : Database guard :=
  db.write tx lock free id fun _ _ _ => rfl

def commit (tx : Nat) (held : Transaction guard) : Database guard :=
  { db.close tx with committed := db.view held }

def noTransaction : String := "there is no such transaction"

/-- A statement of a transaction, which has to be open. -/
def inside {A : Type} (tx : Nat) (statement : Transaction guard → Option (Except String A × Database guard)) :
    Option (Except String A × Database guard) :=
  match db.find tx with
  | none => some (.error noTransaction, db)
  | some held => statement held

/-- A statement that takes a lock and changes what it protects; it waits for another transaction that has the lock. -/
def locking [DecidableEq Lock] {A : Type} (tx : Nat) (lock : Lock) (change : σ → σ)
    (confined : ∀ other, other ≠ lock → ∀ state, guard.value other (change state) = guard.value other state) (answer : A) :
    Option (Except String A × Database guard) :=
  if free : db.Free tx lock then some (.ok answer, db.write tx lock free change confined) else none

/-- The server gives up these transactions: their clients are gone, or they were chosen in a deadlock. -/
def abortAll (db : Database guard) : List Nat → Database guard
  | [] => db
  | tx :: rest => (db.close tx).abortAll rest

end Database

/-! ### What a transaction leaves alone -/

/-- Only this transaction has moved: another that is open now was the same before, and what it has locked is unchanged. -/
structure OnlyMoves (tx : Nat) (before after : Database guard) : Prop where
  others : ∀ other held, other ≠ tx → after.find other = some held → before.find other = some held ∧
    ∀ lock ∈ held.locks, guard.value lock after.committed = guard.value lock before.committed
  grows : before.opened.length ≤ after.opened.length

section Frame
variable {before middle after db : Database guard} {tx other : Nat} {held held' : Transaction guard} {lock : Lock}

theorem OnlyMoves.refl (tx : Nat) (db : Database guard) : OnlyMoves tx db db :=
  ⟨fun _ _ _ found => ⟨found, fun _ _ => rfl⟩, Nat.le_refl _⟩

theorem OnlyMoves.trans (first : OnlyMoves tx before middle) (second : OnlyMoves tx middle after) :
    OnlyMoves tx before after := by
  constructor
  · intro other held apart found
    obtain ⟨between, later⟩ := second.others other held apart found
    obtain ⟨earlier, sooner⟩ := first.others other held apart between
    exact ⟨earlier, fun lock holds => (later lock holds).trans (sooner lock holds)⟩
  · exact Nat.le_trans first.grows second.grows

namespace Database

theorem find_inside (found : db.find tx = some held) : tx < db.opened.length := findIn_inside found

@[simp] theorem begun_committed : db.begun.committed = db.committed := rfl

@[simp] theorem begun_length : db.begun.opened.length = db.opened.length + 1 := by simp [begun]

theorem find_begun : db.begun.find db.opened.length = some {} := by simp [find, findIn, begun]

theorem begun_moves : OnlyMoves db.opened.length db db.begun := by
  constructor
  · intro other held apart found
    rcases findIn_append found with found | ⟨rfl, -⟩
    · exact ⟨found, fun _ _ => rfl⟩
    · exact absurd rfl apart
  · simp

@[simp] theorem close_committed : (db.close tx).committed = db.committed := rfl

@[simp] theorem close_length : (db.close tx).opened.length = db.opened.length := by simp [close]

theorem find_close : (db.close tx).find tx = none := by
  by_cases inside : tx < db.opened.length
  · exact findIn_set_self inside
  · simp [find, findIn, close, inside]

theorem find_of_close (found : (db.close tx).find other = some held) : db.find other = some held := by
  rcases findIn_set found with ⟨-, ⟨⟩⟩ | found
  exact found

theorem close_moves (mover : Nat) : OnlyMoves mover db (db.close tx) :=
  ⟨fun _ _ _ found => ⟨find_of_close found, fun _ _ => rfl⟩, by simp⟩

section Write
variable {free : db.Free tx lock} {change : σ → σ}
  {confined : ∀ other, other ≠ lock → ∀ state, guard.value other (change state) = guard.value other state}

@[simp] theorem write_committed : (db.write tx lock free change confined).committed = db.committed := rfl

@[simp] theorem write_length : (db.write tx lock free change confined).opened.length = db.opened.length := by
  simp [write]

theorem find_write {later : Transaction guard} (found : db.find tx = some held)
    (listed : (db.write tx lock free change confined).find tx = some later) :
    later.locks = lock :: held.locks ∧ later.change = change ∘ held.change := by
  have slot : (db.write tx lock free change confined).find tx = _ := findIn_set_self (findIn_inside found)
  rw [slot, found] at listed
  cases listed
  exact ⟨rfl, rfl⟩

theorem write_moves : OnlyMoves tx db (db.write tx lock free change confined) := by
  constructor
  · intro other held apart listed
    rcases findIn_set listed with ⟨rfl, -⟩ | listed
    · exact absurd rfl apart
    · exact ⟨listed, fun _ _ => rfl⟩
  · simp

end Write

theorem inside_cases {A : Type} {statement : Transaction guard → Option (Except String A × Database guard)}
    {reply : Except String A} (ran : db.inside tx statement = some (reply, after)) :
    reply = .error noTransaction ∧ after = db ∨ ∃ held, db.find tx = some held ∧ statement held = some (reply, after) := by
  unfold inside at ran
  cases found : db.find tx with
  | none =>
      rw [found] at ran
      cases ran
      exact Or.inl ⟨rfl, rfl⟩
  | some held =>
      rw [found] at ran
      exact Or.inr ⟨held, rfl, ran⟩

theorem locking_cases [DecidableEq Lock] {A : Type} {answer : A} {reply : Except String A} {change : σ → σ}
    {confined : ∀ other, other ≠ lock → ∀ state, guard.value other (change state) = guard.value other state}
    (ran : db.locking tx lock change confined answer = some (reply, after)) :
    ∃ free, reply = .ok answer ∧ after = db.write tx lock free change confined := by
  unfold locking at ran
  split_ifs at ran with free
  cases ran
  exact ⟨free, rfl, rfl⟩

@[simp] theorem commit_committed : (db.commit tx held).committed = held.change db.committed := rfl

@[simp] theorem commit_length : (db.commit tx held).opened.length = db.opened.length := by simp [commit]

theorem find_commit : (db.commit tx held).find tx = none := find_close

theorem find_of_commit (found : (db.commit tx held).find other = some held') : db.find other = some held' :=
  find_of_close found

/-- A commit changes nothing that another transaction has locked. -/
theorem commit_moves (found : db.find tx = some held) : OnlyMoves tx db (db.commit tx held) := by
  constructor
  · intro other theirs apart listed
    have earlier := find_of_commit listed
    refine ⟨earlier, fun lock holds => held.confined lock ?_ db.committed⟩
    intro mine
    exact apart (db.exclusive other tx lock theirs held earlier found holds mine)
  · simp

theorem abortAll_moves (mover : Nat) (ids : List Nat) : OnlyMoves mover db (db.abortAll ids) := by
  induction ids generalizing db with
  | nil => exact OnlyMoves.refl mover db
  | cons tx rest ih => exact (close_moves mover).trans ih

@[simp] theorem abortAll_committed (ids : List Nat) : (db.abortAll ids).committed = db.committed := by
  induction ids generalizing db with
  | nil => rfl
  | cons tx rest ih => exact ih

@[simp] theorem abortAll_length (ids : List Nat) : (db.abortAll ids).opened.length = db.opened.length := by
  induction ids generalizing db with
  | nil => rfl
  | cons tx rest ih => rw [abortAll, ih, close_length]

theorem find_of_abortAll {ids : List Nat} (found : (db.abortAll ids).find tx = some held) : db.find tx = some held := by
  induction ids generalizing db with
  | nil => exact found
  | cons other rest ih => exact find_of_close (ih found)

end Database

end Frame

/-! ### Transactions and the programs that run them -/

/-- The phase of a program after a statement; one that fails leaves the phase as it was. -/
def onAnswer {Phase Answer : Type} (phase : Phase) (reply : Except String Answer) (next : Answer → Phase) : Phase :=
  match reply with
  | .ok answer => next answer
  | .error _ => phase

section Owners
variable {Phase : Type} {owns : Phase → Option Nat} {tells : Phase → Transaction guard → σ → Prop}

/-- Each transaction belongs to one program, whose phase says what the transaction has done so far. -/
structure Described (owns : Phase → Option Nat) (tells : Phase → Transaction guard → σ → Prop) (phases : List Phase)
    (db : Database guard) : Prop where
  inside : ∀ (task : Nat) (phase : Phase) (tx : Nat), phases[task]? = some phase → owns phase = some tx → tx < db.opened.length
  alone : ∀ (one other : Nat) (phase phase' : Phase) (tx : Nat), phases[one]? = some phase → phases[other]? = some phase' →
    owns phase = some tx → owns phase' = some tx → one = other
  told : ∀ (task : Nat) (phase : Phase) (tx : Nat) (held : Transaction guard), phases[task]? = some phase →
    owns phase = some tx → db.find tx = some held → tells phase held db.committed

/-- What phases say of a state holds as long as the locked values are the same. -/
def Stable (tells : Phase → Transaction guard → σ → Prop) : Prop :=
  ∀ phase held state state', tells phase held state →
    (∀ lock ∈ held.locks, guard.value lock state' = guard.value lock state) → tells phase held state'

variable {phases : List Phase} {before after : Database guard}

theorem described_empty : Described owns tells [] before := by
  constructor <;> simp

theorem described_joins {first : Phase} (none : owns first = none) (held : Described owns tells phases before) :
    Described owns tells (phases ++ [first]) before := by
  have known : ∀ {task : Nat} {phase : Phase} {tx : Nat}, (phases ++ [first])[task]? = some phase → owns phase = some tx →
      phases[task]? = some phase := by
    intro task phase tx found mine
    by_cases inside : task < phases.length
    · simpa [List.getElem?_append_left inside] using found
    · rcases Interleaving.getElem?_append_singleton found with earlier | rfl
      · exact earlier
      · rw [none] at mine
        cases mine
  constructor
  · intro task phase tx found mine
    exact held.inside task phase tx (known found mine) mine
  · intro one other phase phase' tx found found' mine mine'
    exact held.alone one other phase phase' tx (known found mine) (known found' mine') mine mine'
  · intro task phase tx kept found mine listed
    exact held.told task phase tx kept (known found mine) mine listed

/-- Transactions that end say nothing any more. -/
theorem described_ends (held : Described owns tells phases before)
    (remain : ∀ tx kept, after.find tx = some kept → before.find tx = some kept)
    (same : after.committed = before.committed) (length : after.opened.length = before.opened.length) :
    Described owns tells phases after := by
  constructor
  · intro task phase tx found mine
    rw [length]
    exact held.inside task phase tx found mine
  · exact held.alone
  · intro task phase tx kept found mine listed
    rw [same]
    exact held.told task phase tx kept found mine (remain tx kept listed)

/-- One program moves its own transaction, or a fresh one; what the others' phases say still holds. -/
theorem described_moves {task tx : Nat} {phase next : Phase} (stable : Stable tells)
    (held : Described owns tells phases before) (found : phases[task]? = some phase)
    (owned : owns phase = some tx ∨ tx = before.opened.length) (moves : OnlyMoves tx before after)
    (ends : owns next = none ∨ owns next = some tx)
    (inside : owns next = some tx → tx < after.opened.length)
    (now : owns next = some tx → ∀ kept, after.find tx = some kept → tells next kept after.committed) :
    Described owns tells (phases.set task next) after := by
  have apart : ∀ {other : Nat} {phase' : Phase} {tx' : Nat}, other ≠ task → phases[other]? = some phase' →
      owns phase' = some tx' → tx' ≠ tx := by
    rintro other phase' tx' distinct found' theirs rfl
    rcases owned with mine | fresh
    · exact distinct (held.alone other task phase' phase tx' found' found theirs mine)
    · have old := held.inside other phase' tx' found' theirs
      omega
  have same : ∀ {tx'}, owns next = some tx' → tx' = tx := by
    intro tx' mine
    rcases ends with ends | ends <;> rw [ends] at mine <;> cases mine
    rfl
  constructor
  · intro other phase' tx' listed mine
    rcases Interleaving.getElem?_set_cases listed with ⟨rfl, rfl⟩ | ⟨distinct, listed⟩
    · obtain rfl := same mine
      exact inside mine
    · exact Nat.lt_of_lt_of_le (held.inside other phase' tx' listed mine) moves.grows
  · intro one other phase' phase'' tx' listed listed' mine mine'
    rcases Interleaving.getElem?_set_cases listed with ⟨rfl, rfl⟩ | ⟨distinct, earlier⟩
    · rcases Interleaving.getElem?_set_cases listed' with ⟨rfl, rfl⟩ | ⟨distinct', listed'⟩
      · rfl
      · exact absurd (same mine) (apart distinct' listed' mine')
    · rcases Interleaving.getElem?_set_cases listed' with ⟨rfl, rfl⟩ | ⟨distinct', listed'⟩
      · exact absurd (same mine') (apart distinct earlier mine)
      · exact held.alone one other phase' phase'' tx' earlier listed' mine mine'
  · intro other phase' tx' kept listed mine opened
    rcases Interleaving.getElem?_set_cases listed with ⟨rfl, rfl⟩ | ⟨distinct, listed⟩
    · obtain rfl := same mine
      exact now mine kept opened
    · obtain ⟨earlier, unchanged⟩ := moves.others tx' kept (apart distinct listed mine) opened
      exact stable phase' kept _ _ (held.told other phase' tx' kept listed mine earlier) unchanged

end Owners

end Transactions
