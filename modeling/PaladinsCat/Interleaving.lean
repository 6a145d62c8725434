import Mathlib

/-!
Programs that share a state and take turns. A program is the tree of the calls
it makes: one node for each call, one branch for each reply. A call is atomic,
so everything between two calls of one program is a point where any other
program may run. The same program is read in three ways below: alone with
arbitrary replies, alone over a state that answers it, and interleaved with any
number of others over a shared state.
-/

namespace Interleaving

/-- A program over the calls `Op`, where `op` is answered by a `Reply op`. -/
inductive Program (Op : Type) (Reply : Op → Type) (α : Type) where
  | done (result : α)
  | call (op : Op) (next : Reply op → Program Op Reply α)

variable {Op : Type} {Reply : Op → Type} {α β σ : Type}

namespace Program

def bind : Program Op Reply α → (α → Program Op Reply β) → Program Op Reply β
  | .done result, rest => rest result
  | .call op next, rest => .call op fun reply => (next reply).bind rest

instance : Monad (Program Op Reply) where
  pure := .done
  bind := .bind

def perform (op : Op) : Program Op Reply (Reply op) := .call op .done

def result : Program Op Reply α → Option α
  | .done value => some value
  | .call _ _ => none

def finished : Program Op Reply α → Bool
  | .done _ => true
  | .call _ _ => false

theorem result_eq_some {program : Program Op Reply α} {value : α} :
    program.result = some value ↔ program = .done value := by
  cases program <;> simp [result]

@[simp] theorem pure_eq_done (result : α) :
    (pure result : Program Op Reply α) = .done result := rfl

@[simp] theorem done_bind (result : α) (rest : α → Program Op Reply β) :
    (Program.done result >>= rest) = rest result := rfl

@[simp] theorem call_bind (op : Op) (next : Reply op → Program Op Reply α)
    (rest : α → Program Op Reply β) :
    (Program.call op next >>= rest) = .call op fun reply => next reply >>= rest := rfl

@[simp] theorem perform_bind (op : Op) (rest : Reply op → Program Op Reply β) :
    (perform op >>= rest) = .call op rest := rfl

end Program

/-! ### Alone, over a state that answers -/

/-- `answers before op reply after`: the state may answer `op` by `reply`. -/
abbrev Handler (σ Op : Type) (Reply : Op → Type) := σ → (op : Op) → Reply op → σ → Prop

/-- One answered call, with the state on both sides of it. -/
structure Event (σ Op : Type) (Reply : Op → Type) where
  before : σ
  op : Op
  reply : Reply op
  after : σ

/-- A complete run of one program: its calls in order, its result, the state it leaves. -/
inductive Exec (answers : Handler σ Op Reply) :
    σ → Program Op Reply α → List (Event σ Op Reply) → α → σ → Prop where
  | done (state : σ) (result : α) : Exec answers state (.done result) [] result state
  | call {before middle after : σ} {op : Op} {next : Reply op → Program Op Reply α}
      {events : List (Event σ Op Reply)} {result : α} (reply : Reply op)
      (answered : answers before op reply middle)
      (rest : Exec answers middle (next reply) events result after) :
      Exec answers before (.call op next) (⟨before, op, reply, middle⟩ :: events) result after

variable {answers : Handler σ Op Reply}

theorem exec_call_iff {before after : σ} {op : Op} {next : Reply op → Program Op Reply α}
    {result : α} {events : List (Event σ Op Reply)} :
    Exec answers before (.call op next) events result after ↔
      ∃ reply middle rest, answers before op reply middle ∧
        Exec answers middle (next reply) rest result after ∧
        events = ⟨before, op, reply, middle⟩ :: rest := by
  constructor
  · intro run
    cases run with
    | call reply answered rest => exact ⟨reply, _, _, answered, rest, rfl⟩
  · rintro ⟨reply, middle, rest, answered, run, rfl⟩
    exact .call reply answered run

/-- The run of a program and of what follows it. -/
theorem exec_bind {before after : σ} {program : Program Op Reply β} {rest : β → Program Op Reply α}
    {events : List (Event σ Op Reply)} {result : α}
    (run : Exec answers before (program >>= rest) events result after) :
    ∃ front back value middle, events = front ++ back ∧
      Exec answers before program front value middle ∧ Exec answers middle (rest value) back result after := by
  induction program generalizing before events with
  | done value => exact ⟨[], events, value, before, rfl, .done _ _, run⟩
  | call op next ih =>
      obtain ⟨reply, middle, tail, answered, continues, rfl⟩ := exec_call_iff.mp run
      obtain ⟨front, back, value, last, rfl, first, second⟩ := ih reply continues
      exact ⟨_ :: front, back, value, last, rfl, .call reply answered first, second⟩

theorem exec_done {before after : σ} {value result : α} {events : List (Event σ Op Reply)}
    (run : Exec answers before (.done value) events result after) :
    events = [] ∧ result = value ∧ after = before := by
  cases run
  exact ⟨rfl, rfl, rfl⟩

/-! ### Alone, with arbitrary replies -/

def anyReply : Handler Unit Op Reply := fun _ _ _ _ => True

/-- The run of a program in an environment that answers each call, knowing what
was asked and answered before. Every environment answers every program to its
end: a program is a well-founded tree. -/
def play (answer : List (Event Unit Op Reply) → (op : Op) → Reply op) :
    List (Event Unit Op Reply) → Program Op Reply α → List (Event Unit Op Reply) × α
  | _, .done result => ([], result)
  | past, .call op next =>
      let event : Event Unit Op Reply := ⟨(), op, answer past op, ()⟩
      let tail := play answer (past ++ [event]) (next (answer past op))
      (event :: tail.1, tail.2)

theorem play_exec (answer : List (Event Unit Op Reply) → (op : Op) → Reply op)
    (past : List (Event Unit Op Reply)) (program : Program Op Reply α) :
    Exec anyReply () program (play answer past program).1 (play answer past program).2 () := by
  induction program generalizing past with
  | done result => exact .done _ _
  | call op next ih => exact .call _ trivial (ih _ _)

/-! ### Interleaved -/

structure State (σ Op : Type) (Reply : Op → Type) (α : Type) where
  shared : σ
  programs : List (Program Op Reply α)

/-- One turn of a program: the call it made, and the programs as they stood then. -/
structure Turn (σ Op : Type) (Reply : Op → Type) (α : Type) extends Event σ Op Reply where
  task : Nat
  programs : List (Program Op Reply α)

variable {Call : Type} {code : Call → Program Op Reply α}

/-- Every interleaving. A caller may enter at any time; a program that waits at
a call may take its turn whenever the shared state answers that call. -/
inductive Run (answers : Handler σ Op Reply) (code : Call → Program Op Reply α)
    (start : State σ Op Reply α) : List (Turn σ Op Reply α) → State σ Op Reply α → Prop where
  | refl : Run answers code start [] start
  | enter {history : List (Turn σ Op Reply α)} {state : State σ Op Reply α}
      (earlier : Run answers code start history state) (caller : Call) :
      Run answers code start history ⟨state.shared, state.programs ++ [code caller]⟩
  | turn {history : List (Turn σ Op Reply α)} {state : State σ Op Reply α} {after : σ} {op : Op}
      {next : Reply op → Program Op Reply α} (earlier : Run answers code start history state)
      (task : Nat) (waits : state.programs[task]? = some (.call op next)) (reply : Reply op)
      (answered : answers state.shared op reply after) :
      Run answers code start
        (history ++ [{ before := state.shared, op, reply, after, task, programs := state.programs }])
        ⟨after, state.programs.set task (next reply)⟩

variable {start state : State σ Op Reply α} {history : List (Turn σ Op Reply α)}

/-- What every answer preserves holds in every reachable state. -/
theorem run_invariant (holds : σ → Prop)
    (preserved : ∀ before op reply after, holds before → answers before op reply after → holds after)
    (run : Run answers code start history state) (initially : holds start.shared) :
    holds state.shared := by
  induction run with
  | refl => exact initially
  | enter _ _ ih => exact ih
  | turn _ _ _ _ answered ih => exact preserved _ _ _ _ ih answered

/-- The same with an invariant that may also speak of the turns so far. -/
theorem run_history (holds : List (Turn σ Op Reply α) → σ → Prop)
    (step : ∀ history (turn : Turn σ Op Reply α), holds history turn.before →
      answers turn.before turn.op turn.reply turn.after → holds (history ++ [turn]) turn.after)
    (run : Run answers code start history state) (initially : holds [] start.shared) :
    holds history state.shared := by
  induction run with
  | refl => exact initially
  | enter _ _ ih => exact ih
  | @turn history state after op next _ task _ reply answered ih =>
      exact step history ⟨⟨state.shared, op, reply, after⟩, task, state.programs⟩ ih answered

/-- A relation that is reflexive, and kept by the steps of a run on its right side,
relates each state of the run to all later ones. -/
theorem run_turns_pairwise (related : σ → σ → Prop) (refl : ∀ state, related state state)
    (run : Run answers code start history state)
    (step : ∀ first, ∀ turn ∈ history, related first turn.before →
      answers turn.before turn.op turn.reply turn.after → related first turn.after) :
    (history.map (·.before) ++ [state.shared]).Pairwise related := by
  induction run with
  | refl => simp
  | enter _ _ ih => exact ih step
  | @turn history state after op _ _ task _ reply answered ih =>
      have ih := ih fun first turn member => step first turn (List.mem_append_left _ member)
      have last := fun first reached =>
        step first ⟨⟨state.shared, op, reply, after⟩, task, state.programs⟩ (by simp) reached answered
      rw [List.map_append, List.map_singleton]
      apply List.pairwise_append.mpr ⟨ih, List.pairwise_singleton _ _, ?_⟩
      rintro first member _ (_ | ⟨_, ⟨⟩⟩)
      rcases List.mem_append.mp member with earlier | here
      · exact last first ((List.pairwise_append.mp ih).2.2 first earlier _ (by simp))
      · rw [List.mem_singleton.mp here]
        exact last _ (refl _)

/-- The same with a relation that every answer keeps. -/
theorem run_states_pairwise (related : σ → σ → Prop) (refl : ∀ state, related state state)
    (step : ∀ first before op reply after, related first before → answers before op reply after →
      related first after)
    (run : Run answers code start history state) :
    (history.map (·.before) ++ [state.shared]).Pairwise related :=
  run_turns_pairwise related refl run fun _ _ _ earlier answered => step _ _ _ _ _ earlier answered

theorem append_singleton_split {A : Type} {list earlier later : List A} {last middle : A}
    (split : list ++ [last] = earlier ++ middle :: later) :
    (later = [] ∧ list = earlier ∧ last = middle) ∨
      ∃ front, later = front ++ [last] ∧ list = earlier ++ middle :: front := by
  rcases List.eq_nil_or_concat later with rfl | ⟨front, final, rfl⟩
  · obtain ⟨same, end_⟩ := List.append_inj' split rfl
    exact Or.inl ⟨rfl, same, List.singleton_inj.mp end_⟩
  · rw [List.concat_eq_append, ← List.cons_append, ← List.append_assoc] at split
    obtain ⟨same, end_⟩ := List.append_inj' split rfl
    exact Or.inr ⟨front, by rw [List.singleton_inj.mp end_, List.concat_eq_append], same⟩

/-- Each element of the list, seen with what came before it. -/
def Throughout {A : Type} (holds : List A → A → Prop) (list : List A) : Prop :=
  ∀ earlier element later, list = earlier ++ element :: later → holds earlier element

@[simp] theorem throughout_nil {A : Type} {holds : List A → A → Prop} : Throughout holds [] := by
  simp [Throughout]

@[simp] theorem throughout_append {A : Type} {holds : List A → A → Prop} {list : List A} {last : A} :
    Throughout holds (list ++ [last]) ↔ Throughout holds list ∧ holds list last := by
  constructor
  · intro all
    constructor
    · rintro earlier element later rfl
      exact all earlier element (later ++ [last]) (by simp)
    · exact all list last [] rfl
  · rintro ⟨all, final⟩ earlier element later split
    rcases append_singleton_split split with ⟨-, rfl, rfl⟩ | ⟨front, -, same⟩
    · exact final
    · exact all earlier element front same

/-- The invariant rule for runs whose turns keep to a rule: the invariant is kept with it, and what a turn that
keeps to it from there is good for is so throughout. -/
theorem run_throughout {keeps good : List (Turn σ Op Reply α) → Turn σ Op Reply α → Prop}
    (holds : List (Turn σ Op Reply α) → σ → Prop)
    (step : ∀ history turn, holds history turn.before → answers turn.before turn.op turn.reply turn.after →
      keeps history turn → holds (history ++ [turn]) turn.after ∧ good history turn)
    (run : Run answers code start history state) (initially : holds [] start.shared)
    (kept : Throughout keeps history) : holds history state.shared ∧ Throughout good history := by
  revert kept
  apply run_history (fun history shared => Throughout keeps history → holds history shared ∧ Throughout good history) _ run
  · exact fun _ => ⟨initially, throughout_nil⟩
  · intro history turn ih answered kept
    obtain ⟨before, here⟩ := throughout_append.mp kept
    obtain ⟨held, others⟩ := ih before
    obtain ⟨after, last⟩ := step history turn held answered here
    exact ⟨after, throughout_append.mpr ⟨others, last⟩⟩

theorem throughout_iff {A : Type} {holds : List A → A → Prop} {list : List A} :
    Throughout holds list ↔ ∀ index : Fin list.length, holds (list.take index) list[index] := by
  constructor
  · intro all index
    exact all (list.take index) list[index] (list.drop (index + 1)) (by simp)
  · rintro all earlier element later rfl
    simpa using all ⟨earlier.length, by simp⟩

instance {A : Type} {holds : List A → A → Prop} [∀ earlier element, Decidable (holds earlier element)]
    (list : List A) : Decidable (Throughout holds list) :=
  decidable_of_iff _ throughout_iff.symm

/-- Each turn of a run is a call of a program that waited for it, answered in the
state that the turns before it had reached. -/
theorem run_split (run : Run answers code start history state)
    {turn : Turn σ Op Reply α} {earlier later : List (Turn σ Op Reply α)}
    (split : history = earlier ++ turn :: later) :
    answers turn.before turn.op turn.reply turn.after ∧
      (∃ next, turn.programs[turn.task]? = some (.call turn.op next)) ∧
      Run answers code start earlier ⟨turn.before, turn.programs⟩ := by
  induction run generalizing later with
  | refl => simp at split
  | enter _ _ ih => exact ih split
  | @turn history state after op next previous task waits reply answered ih =>
      rcases append_singleton_split split with ⟨-, rfl, rfl⟩ | ⟨front, -, same⟩
      · exact ⟨answered, ⟨next, waits⟩, previous⟩
      · exact ih same

/-- From the state before one of its turns on, a run keeps what its turns keep. -/
theorem run_from (holds : σ → Prop) (run : Run answers code start history state)
    {turn : Turn σ Op Reply α} {earlier later : List (Turn σ Op Reply α)}
    (split : history = earlier ++ turn :: later) (initially : holds turn.before)
    (step : ∀ next ∈ turn :: later, holds next.before →
      answers next.before next.op next.reply next.after → holds next.after) :
    holds state.shared := by
  induction run generalizing later with
  | refl => simp at split
  | enter _ _ ih => exact ih split step
  | @turn history state after op _ _ task _ reply answered ih =>
      rcases append_singleton_split split with ⟨rfl, -, rfl⟩ | ⟨front, rfl, same⟩
      · exact step _ (by simp) initially answered
      · have reached := ih same fun next member =>
          step next (List.mem_cons.mpr ((List.mem_cons.mp member).imp_right (List.mem_append_left _)))
        exact step ⟨⟨state.shared, op, reply, after⟩, task, state.programs⟩ (by simp) reached answered

/-- What the last turn of a run has left; callers may have come since. -/
theorem run_last {earlier : List (Turn σ Op Reply α)} {turn : Turn σ Op Reply α}
    (run : Run answers code start (earlier ++ [turn]) state) :
    state.shared = turn.after ∧ ∃ rest entered, state.programs = turn.programs.set turn.task rest ++ entered := by
  generalize split : earlier ++ [turn] = history at run
  induction run with
  | refl => simp at split
  | enter _ caller ih =>
      obtain ⟨same, rest, entered, programs⟩ := ih split
      exact ⟨same, rest, entered ++ [code caller], by simp [programs]⟩
  | turn _ task waits reply answered =>
      obtain ⟨-, last⟩ := List.append_inj' split rfl
      obtain rfl := List.singleton_inj.mp last
      exact ⟨rfl, _, [], (List.append_nil _).symm⟩

theorem run_turn (run : Run answers code start history state)
    {turn : Turn σ Op Reply α} (taken : turn ∈ history) :
    answers turn.before turn.op turn.reply turn.after ∧
      ∃ earlier, Run answers code start earlier ⟨turn.before, turn.programs⟩ := by
  obtain ⟨earlier, later, split⟩ := List.append_of_mem taken
  obtain ⟨answered, _, reached⟩ := run_split run split
  exact ⟨answered, earlier, reached⟩

/-- If, from a good state, each step of a run leads to a good state exactly when
it meets `meets`, then all states of the run are good exactly when all its steps do. -/
theorem run_good_iff (good invariant : σ → Prop) (meets : Turn σ Op Reply α → Prop)
    (preserved : ∀ before op reply after,
      invariant before → answers before op reply after → invariant after)
    (run : Run answers code start history state)
    (exact : ∀ turn ∈ history, invariant turn.before →
      answers turn.before turn.op turn.reply turn.after → good turn.before →
      (good turn.after ↔ meets turn))
    (valid : invariant start.shared) (initially : good start.shared) :
    ((∀ turn ∈ history, good turn.before) ∧ good state.shared) ↔ ∀ turn ∈ history, meets turn := by
  induction run with
  | refl => simp [initially]
  | enter _ _ ih => exact ih exact
  | @turn history state after op next previous task waits reply answered ih =>
      have earlier := ih fun turn taken => exact turn (List.mem_append_left _ taken)
      have here := run_invariant invariant preserved previous valid
      have last := exact ⟨⟨state.shared, op, reply, after⟩, task, state.programs⟩ (by simp) here answered
      simp only [List.mem_append, List.mem_singleton, or_imp, forall_and, forall_eq]
      constructor
      · rintro ⟨⟨before, reached⟩, after⟩
        exact ⟨earlier.mp ⟨before, reached⟩, (last reached).mp after⟩
      · rintro ⟨steps, final⟩
        obtain ⟨before, reached⟩ := earlier.mpr steps
        exact ⟨⟨before, reached⟩, (last reached).mpr final⟩

/-! ### Disciplines

A program is known to the others only by the calls it makes. A discipline is an
automaton over these calls: it says in which phase a program is, and which calls
that phase allows. What a program still owes the shared state (a batch to write,
a lock to release) is then a function of its phase. -/

section Discipline
variable {Phase : Type}

/-- Whatever is replied, the program makes only calls that `next` allows, and it
returns its result in a phase that `post` accepts. -/
def Follows (next : Phase → (op : Op) → Reply op → Option Phase) (post : Phase → α → Prop) :
    Phase → Program Op Reply α → Prop
  | phase, .done result => post phase result
  | phase, .call op rest => ∀ reply, ∃ after,
      next phase op reply = some after ∧ Follows next post after (rest reply)

variable {next : Phase → (op : Op) → Reply op → Option Phase} {post : Phase → α → Prop}

@[simp] theorem follows_done {result : α} {phase : Phase} :
    Follows next post phase (.done result) ↔ post phase result := Iff.rfl

@[simp] theorem follows_call {op : Op} {rest : Reply op → Program Op Reply α} {phase : Phase} :
    Follows next post phase (.call op rest) ↔
      ∀ reply, ∃ after, next phase op reply = some after ∧ Follows next post after (rest reply) :=
  Iff.rfl

@[simp] theorem follows_bind {program : Program Op Reply β} {rest : β → Program Op Reply α} {phase : Phase} :
    Follows next post phase (program >>= rest) ↔
      Follows next (fun middle value => Follows next post middle (rest value)) phase program := by
  induction program generalizing phase with
  | done result => exact Iff.rfl
  | call op continuation ih =>
      simp only [Program.call_bind, Follows]
      exact forall_congr' fun reply => exists_congr fun after => and_congr_right fun _ => ih reply

theorem follows_mono {weaker : Phase → α → Prop} (implied : ∀ phase result,
    post phase result → weaker phase result) {phase : Phase} {program : Program Op Reply α}
    (follows : Follows next post phase program) : Follows next weaker phase program := by
  induction program generalizing phase with
  | done result => exact implied phase result follows
  | call op continuation ih =>
      intro reply
      obtain ⟨after, allowed, rest⟩ := follows reply
      exact ⟨after, allowed, ih reply rest⟩

/-- A program, and what follows it in whatever phase it has left. -/
theorem follows_then {middle : Phase → β → Prop} {program : Program Op Reply β} {rest : β → Program Op Reply α}
    {phase : Phase} (head : Follows next middle phase program)
    (tail : ∀ after value, middle after value → Follows next post after (rest value)) :
    Follows next post phase (program >>= rest) :=
  follows_bind.mpr (follows_mono tail head)

theorem follows_of_total (total : ∀ phase op reply, ∃ after, next phase op reply = some after)
    (phase : Phase) (program : Program Op Reply α) : Follows next (fun _ _ => True) phase program := by
  induction program generalizing phase with
  | done result => trivial
  | call op continuation ih =>
      intro reply
      obtain ⟨after, allowed⟩ := total phase op reply
      exact ⟨after, allowed, ih reply after⟩

/-- Whatever is replied, the program makes only allowed calls. -/
def Uses (allowed : Op → Prop) : Program Op Reply α → Prop
  | .done _ => True
  | .call op rest => allowed op ∧ ∀ reply, Uses allowed (rest reply)

theorem uses_bind {allowed : Op → Prop} {program : Program Op Reply β} {rest : β → Program Op Reply α}
    (head : Uses allowed program) (tail : ∀ value, Uses allowed (rest value)) :
    Uses allowed (program >>= rest) := by
  induction program with
  | done result => exact tail result
  | call op continuation ih => exact ⟨head.1, fun reply => ih reply (head.2 reply)⟩

theorem uses_mono {allowed weaker : Op → Prop} (implied : ∀ op, allowed op → weaker op)
    {program : Program Op Reply α} (uses : Uses allowed program) : Uses weaker program := by
  induction program with
  | done result => trivial
  | call op continuation ih => exact ⟨implied op uses.1, fun reply => ih reply (uses.2 reply)⟩

theorem uses_trivial (program : Program Op Reply α) : Uses (fun _ => True) program := by
  induction program with
  | done result => trivial
  | call op continuation ih => exact ⟨trivial, ih⟩

-- Calls that leave a phase as it is leave it at the end of the program.
theorem follows_of_uses {allowed : Op → Prop} {phase : Phase}
    (stays : ∀ op reply, allowed op → next phase op reply = some phase)
    {program : Program Op Reply α} (uses : Uses allowed program) :
    Follows next (fun last _ => last = phase) phase program := by
  induction program with
  | done result => rfl
  | call op continuation ih =>
      intro reply
      exact ⟨phase, stays op reply uses.1, ih reply (uses.2 reply)⟩

/-- The phase that a list of calls leads to, if the discipline allows them all. -/
def walk (next : Phase → (op : Op) → Reply op → Option Phase) :
    Phase → List (Event σ Op Reply) → Option Phase
  | phase, [] => some phase
  | phase, event :: rest =>
      match next phase event.op event.reply with
      | some after => walk next after rest
      | none => none

/-- A complete run of a program that follows a discipline stays within it. -/
theorem follows_exec {phase : Phase} {program : Program Op Reply α} {before after : σ}
    {events : List (Event σ Op Reply)} {result : α} (follows : Follows next post phase program)
    (run : Exec answers before program events result after) :
    ∃ last, walk next phase events = some last ∧ post last result := by
  induction run generalizing phase with
  | done state result => exact ⟨phase, rfl, follows⟩
  | call reply answered rest ih =>
      obtain ⟨middle, allowed, continues⟩ := follows reply
      obtain ⟨last, walked, accepted⟩ := ih continues
      exact ⟨last, by simp [walk, allowed, walked], accepted⟩

theorem exec_uses {allowed : Op → Prop} {program : Program Op Reply α} (uses : Uses allowed program)
    {before after : σ} {events : List (Event σ Op Reply)} {result : α}
    (run : Exec answers before program events result after) : ∀ event ∈ events, allowed event.op := by
  induction run with
  | done => simp
  | call reply answered _ ih =>
      intro event member
      rcases List.mem_cons.mp member with rfl | later
      · exact uses.1
      · exact ih (uses.2 reply) event later

/-- What the allowed calls preserve holds at the end of a run. -/
theorem exec_preserves {allowed : Op → Prop} (holds : σ → Prop)
    (preserved : ∀ before op reply after, allowed op → holds before →
      answers before op reply after → holds after)
    {program : Program Op Reply α} (uses : Uses allowed program) {before after : σ}
    {events : List (Event σ Op Reply)} {result : α} (run : Exec answers before program events result after)
    (initially : holds before) : holds after := by
  induction run with
  | done => exact initially
  | call reply answered _ ih => exact ih (uses.2 reply) (preserved _ _ _ _ uses.1 initially answered)

-- The same with an invariant that may also speak of the phase.
theorem exec_phases {allowed : Op → Prop} (holds : Phase → σ → Prop)
    (moves : ∀ phase after before op reply middle, allowed op → holds phase before →
      next phase op reply = some after → answers before op reply middle → holds after middle)
    {phase : Phase} {program : Program Op Reply α} (follows : Follows next post phase program)
    (uses : Uses allowed program) {before after : σ} {events : List (Event σ Op Reply)} {result : α}
    (run : Exec answers before program events result after) (initially : holds phase before) :
    ∃ last, holds last after ∧ post last result := by
  induction run generalizing phase with
  | done => exact ⟨phase, initially, follows⟩
  | call reply answered _ ih =>
      obtain ⟨middle, steps, continues⟩ := follows reply
      exact ih continues (uses.2 reply) (moves _ _ _ _ _ _ uses.1 initially steps answered)

-- The same with an invariant that may speak of the calls so far, too.
theorem exec_history (holds : List (Event σ Op Reply) → Phase → σ → Prop)
    (moves : ∀ past phase after (event : Event σ Op Reply), holds past phase event.before →
      next phase event.op event.reply = some after → answers event.before event.op event.reply event.after →
      holds (past ++ [event]) after event.after)
    {phase : Phase} {program : Program Op Reply α} (follows : Follows next post phase program)
    {before after : σ} {past events : List (Event σ Op Reply)} {result : α}
    (run : Exec answers before program events result after) (initially : holds past phase before) :
    ∃ last, holds (past ++ events) last after ∧ post last result := by
  induction run generalizing phase past with
  | done => exact ⟨phase, by simpa using initially, follows⟩
  | @call before middle after op _ _ _ reply answered _ ih =>
      obtain ⟨target, steps, continues⟩ := follows reply
      have reached := ih continues (moves past phase target ⟨before, op, reply, middle⟩ initially steps answered)
      simpa using reached

/-- A run splits at each of its calls: what led there, and what is still to run. -/
theorem exec_split {phase : Phase} {program : Program Op Reply α}
    (follows : Follows next post phase program) {before after : σ} {events : List (Event σ Op Reply)}
    {result : α} (run : Exec answers before program events result after) (holds : Phase → σ → Prop)
    (moves : ∀ phase after before op reply middle, holds phase before →
      next phase op reply = some after → answers before op reply middle → holds after middle)
    (initially : holds phase before)
    {earlier later : List (Event σ Op Reply)} {event : Event σ Op Reply}
    (split : events = earlier ++ event :: later) :
    ∃ here there rest, holds here event.before ∧ next here event.op event.reply = some there ∧
      answers event.before event.op event.reply event.after ∧
      Follows next post there rest ∧ Exec answers event.after rest later result after := by
  induction run generalizing phase earlier with
  | done => simp at split
  | call reply answered rest ih =>
      obtain ⟨middle, steps, continues⟩ := follows reply
      cases earlier with
      | nil =>
          obtain ⟨rfl, rfl⟩ := List.cons.inj split
          exact ⟨phase, middle, _, initially, steps, answered, continues, rest⟩
      | cons first earlier =>
          obtain ⟨_, tail⟩ := List.cons.inj split
          exact ih continues (moves _ _ _ _ _ _ initially steps answered) tail

end Discipline

/-- Whatever is replied, the result is of this kind. -/
def Returns (holds : α → Prop) : Program Op Reply α → Prop
  | .done result => holds result
  | .call _ rest => ∀ reply, Returns holds (rest reply)

theorem returns_bind (kind : β → Prop) {holds : α → Prop} {program : Program Op Reply β}
    {rest : β → Program Op Reply α} (head : Returns kind program)
    (tail : ∀ value, kind value → Returns holds (rest value)) : Returns holds (program >>= rest) := by
  induction program with
  | done result => exact tail result head
  | call op continuation ih => exact fun reply => ih reply (head reply)

theorem returns_play {holds : α → Prop} {program : Program Op Reply α} (returns : Returns holds program)
    (answer : List (Event Unit Op Reply) → (op : Op) → Reply op) (past : List (Event Unit Op Reply)) :
    holds (play answer past program).2 := by
  induction program generalizing past with
  | done result => exact returns
  | call op continuation ih => exact ih _ (returns _) _

section Discipline
variable {Phase : Type} {next : Phase → (op : Op) → Reply op → Option Phase} {post : Phase → α → Prop}

theorem forall₂_set {A B : Type} {related : A → B → Prop} {left : List A} {right : List B}
    (all : List.Forall₂ related left right) (index : Nat) {a : A} {b : B} (new : related a b) :
    List.Forall₂ related (left.set index a) (right.set index b) := by
  induction all generalizing index with
  | nil => exact .nil
  | cons head tail ih =>
      cases index with
      | zero => exact .cons new tail
      | succ index => exact .cons head (ih index)

theorem forall₂_getElem? {A B : Type} {related : A → B → Prop} {left : List A} {right : List B}
    (all : List.Forall₂ related left right) {index : Nat} {b : B} (found : right[index]? = some b) :
    ∃ a, left[index]? = some a ∧ related a b := by
  induction all generalizing index with
  | nil => simp at found
  | cons head tail ih =>
      cases index with
      | zero =>
          obtain rfl : _ = b := by simpa using found
          exact ⟨_, rfl, head⟩
      | succ index => simpa using ih (by simpa using found)

theorem forall₂_getElem?_left {A B : Type} {related : A → B → Prop} {left : List A} {right : List B}
    (all : List.Forall₂ related left right) {index : Nat} {a : A} (found : left[index]? = some a) :
    ∃ b, right[index]? = some b ∧ related a b :=
  forall₂_getElem? (List.Forall₂.flip all) found

theorem getElem?_append_singleton {A : Type} {list : List A} {last found : A} {index : Nat}
    (get : (list ++ [last])[index]? = some found) : list[index]? = some found ∨ found = last := by
  by_cases inside : index < list.length
  · exact Or.inl (List.getElem?_append_left inside ▸ get)
  · rw [List.getElem?_append_right (by omega)] at get
    exact Or.inr (by simpa using List.mem_of_getElem? get)

-- When one program moves to another phase, the total over all programs changes
-- by what that program owes before and after.
theorem total_set (owes : Phase → Nat) {phases : List Phase} {task : Nat} {phase : Phase}
    (found : phases[task]? = some phase) (after : Phase) :
    ((phases.set task after).map owes).sum + owes phase = (phases.map owes).sum + owes after := by
  induction phases generalizing task with
  | nil => simp at found
  | cons head rest ih =>
      cases task with
      | zero =>
          obtain rfl : head = phase := by simpa using found
          simp only [List.set_cons_zero, List.map_cons, List.sum_cons]
          omega
      | succ task =>
          have tail := ih (by simpa using found)
          simp only [List.set_cons_succ, List.map_cons, List.sum_cons]
          omega

theorem mem_set_cases {A : Type} {list : List A} {index : Nat} {new element : A} (member : element ∈ list.set index new) :
    element = new ∨ ∃ other, other ≠ index ∧ list[other]? = some element := by
  obtain ⟨other, found⟩ := List.mem_iff_getElem?.mp member
  by_cases same : index = other
  · subst same
    have inside : index < list.length := by
      simpa using (List.getElem?_eq_some_iff.mp found).1
    exact Or.inl (by simpa [List.getElem?_set, inside, eq_comm] using found)
  · exact Or.inr ⟨other, Ne.symm same, by simpa [List.getElem?_set, same] using found⟩

theorem getElem?_set_cases {A : Type} {list : List A} {index other : Nat} {new element : A}
    (found : (list.set index new)[other]? = some element) :
    other = index ∧ element = new ∨ other ≠ index ∧ list[other]? = some element := by
  by_cases same : other = index
  · subst same
    have inside : other < list.length := by simpa using (List.getElem?_eq_some_iff.mp found).1
    exact Or.inl ⟨rfl, by simpa [inside, eq_comm] using found⟩
  · exact Or.inr ⟨same, by simpa [Ne.symm same] using found⟩

/-- If one element has all that the sum allows, the others have nothing. -/
theorem rest_of_sum {A : Type} {owes : A → Nat} {list : List A} (bound : (list.map owes).sum ≤ 1) {here there : Nat}
    {one other : A} (found : list[here]? = some one) (all : owes one = 1) (listed : list[there]? = some other)
    (apart : there ≠ here) : owes other = 0 := by
  induction list generalizing here there with
  | nil => simp at found
  | cons head rest ih =>
      rw [List.map_cons, List.sum_cons] at bound
      have within : ∀ element ∈ rest, owes element ≤ (rest.map owes).sum := fun element member =>
        List.le_sum_of_mem (List.mem_map_of_mem member)
      cases here with
      | zero =>
          obtain rfl : head = one := by simpa using found
          cases there with
          | zero => exact absurd rfl apart
          | succ there =>
              have least := within other (List.mem_of_getElem? (by simpa using listed))
              omega
      | succ here =>
          cases there with
          | zero =>
              obtain rfl : head = other := by simpa using listed
              have least := within one (List.mem_of_getElem? (by simpa using found))
              omega
          | succ there =>
              exact ih (by omega) (by simpa using found) (by simpa using listed) (by omega)

/-- The invariant rule for programs under a discipline. `holds` may speak of the
history, of the shared state and of the phases of all programs; it has to survive
a caller that joins and each call that some phase allows. -/
theorem run_phases (first : Call → Phase) (entered : ∀ caller, Follows next post (first caller) (code caller))
    (holds : List (Turn σ Op Reply α) → σ → List Phase → Prop)
    (initially : holds [] start.shared []) (empty : start.programs = [])
    (joins : ∀ history shared phases caller, holds history shared phases →
      holds history shared (phases ++ [first caller]))
    (moves : ∀ history phases phase after (turn : Turn σ Op Reply α),
      holds history turn.before phases →
      List.Forall₂ (Follows next post) phases turn.programs →
      phases[turn.task]? = some phase → next phase turn.op turn.reply = some after →
      answers turn.before turn.op turn.reply turn.after →
      holds (history ++ [turn]) turn.after (phases.set turn.task after))
    (run : Run answers code start history state) :
    ∃ phases, List.Forall₂ (Follows next post) phases state.programs ∧
      holds history state.shared phases := by
  induction run with
  | refl => exact ⟨[], by rw [empty]; exact .nil, initially⟩
  | enter _ caller ih =>
      obtain ⟨phases, follow, held⟩ := ih
      exact ⟨phases ++ [first caller], List.rel_append follow (.cons (entered caller) .nil),
        joins _ _ _ caller held⟩
  | @turn history state after op rest previous task waits reply answered ih =>
      obtain ⟨phases, follow, held⟩ := ih
      obtain ⟨phase, found, follows⟩ := forall₂_getElem? follow waits
      obtain ⟨target, allowed, continues⟩ := follows reply
      exact ⟨phases.set task target, forall₂_set follow task continues,
        moves history phases phase target ⟨⟨state.shared, op, reply, after⟩, task, state.programs⟩
          held follow found allowed answered⟩

/-- The same for runs whose turns keep to a rule. -/
theorem run_phases_throughout {keeps : List (Turn σ Op Reply α) → Turn σ Op Reply α → Prop} (first : Call → Phase)
    (entered : ∀ caller, Follows next post (first caller) (code caller))
    (holds : List (Turn σ Op Reply α) → σ → List Phase → Prop)
    (initially : holds [] start.shared []) (empty : start.programs = [])
    (joins : ∀ history shared phases caller, holds history shared phases →
      holds history shared (phases ++ [first caller]))
    (moves : ∀ history phases phase after (turn : Turn σ Op Reply α),
      holds history turn.before phases → phases[turn.task]? = some phase →
      next phase turn.op turn.reply = some after → answers turn.before turn.op turn.reply turn.after →
      keeps history turn → holds (history ++ [turn]) turn.after (phases.set turn.task after))
    (run : Run answers code start history state) (kept : Throughout keeps history) :
    ∃ phases, List.Forall₂ (Follows next post) phases state.programs ∧ holds history state.shared phases := by
  obtain ⟨phases, follow, held⟩ := run_phases first entered
    (fun history shared phases => Throughout keeps history → holds history shared phases) (fun _ => initially) empty
    (fun history shared phases caller held kept => joins history shared phases caller (held kept))
    (fun history phases phase after turn held _ found allowed answered kept => by
      obtain ⟨before, here⟩ := throughout_append.mp kept
      exact moves history phases phase after turn (held before) found allowed answered here) run
  exact ⟨phases, follow, held kept⟩

/-- What a phase remembers was noted in one of the program's own turns, if the
discipline takes nothing else down. -/
theorem run_noted {Note : Type} (note : (op : Op) → Reply op → Option Note) (noted : Phase → Option Note)
    (first : Call → Phase) (entered : ∀ caller, Follows next post (first caller) (code caller))
    (blank : ∀ caller, noted (first caller) = none) (empty : start.programs = [])
    (remembers : ∀ phase op reply after, next phase op reply = some after →
      noted after = none ∨ noted after = note op reply ∨ noted after = noted phase)
    (run : Run answers code start history state) :
    ∃ phases, List.Forall₂ (Follows next post) phases state.programs ∧
      ∀ task phase value, phases[task]? = some phase → noted phase = some value →
        ∃ turn ∈ history, turn.task = task ∧ note turn.op turn.reply = some value := by
  refine run_phases first entered (fun history _ phases => ∀ task phase value,
    phases[task]? = some phase → noted phase = some value →
      ∃ turn ∈ history, turn.task = task ∧ note turn.op turn.reply = some value)
    (by simp) empty ?_ ?_ run
  · intro history _ phases caller recorded task phase value found remembered
    rcases getElem?_append_singleton found with before | rfl
    · exact recorded task phase value before remembered
    · simp [blank] at remembered
  · intro history phases phase after turn recorded _ here allowed _ task current value found remembered
    have before : ∀ old, phases[task]? = some old → noted old = some value →
        ∃ noting ∈ history ++ [turn], noting.task = task ∧
          note noting.op noting.reply = some value := by
      intro old foundOld rememberedOld
      obtain ⟨noting, member, rest⟩ := recorded task old value foundOld rememberedOld
      exact ⟨noting, List.mem_append_left _ member, rest⟩
    by_cases same : turn.task = task
    · subst same
      have inside : turn.task < phases.length := (List.getElem?_eq_some_iff.mp here).1
      obtain rfl : after = current := by simpa [List.getElem?_set, inside] using found
      rcases remembers phase turn.op turn.reply after allowed with forgot | new | old
      · simp [forgot] at remembered
      · exact ⟨turn, by simp, rfl, new ▸ remembered⟩
      · exact before phase here (old ▸ remembered)
    · refine before current ?_ remembered
      simpa [List.getElem?_set, same] using found

end Discipline

/-! ### Replaying a schedule -/

section Replay
variable {Input : Type}

/-- A shared state that computes its answer from what the outside supplies;
`none` where the call has to wait. -/
abbrev Service (σ Op : Type) (Reply : Op → Type) (Input : Type) :=
  σ → (op : Op) → Input → Option (Reply op × σ)

def Service.handler (serve : Service σ Op Reply Input) : Handler σ Op Reply :=
  fun before op reply after => ∃ input, serve before op input = some (reply, after)

/-- The run of one program alone, fed with one input for each of its calls. -/
def feed (serve : Service σ Op Reply Input) : List Input → σ → Program Op Reply α →
    Option (List (Event σ Op Reply) × α × σ)
  | [], state, .done result => some ([], result, state)
  | input :: rest, state, .call op next =>
      match serve state op input with
      | some (reply, after) =>
          (feed serve rest after (next reply)).map fun (events, outcome) =>
            (⟨state, op, reply, after⟩ :: events, outcome)
      | none => none
  | _, _, _ => none

theorem feed_exec {serve : Service σ Op Reply Input} {inputs : List Input} {before after : σ}
    {program : Program Op Reply α} {events : List (Event σ Op Reply)} {result : α}
    (fed : feed serve inputs before program = some (events, result, after)) :
    Exec serve.handler before program events result after := by
  induction inputs generalizing before program events with
  | nil =>
      cases program with
      | done value =>
          simp only [feed, Option.some.injEq, Prod.mk.injEq] at fed
          obtain ⟨rfl, rfl, rfl⟩ := fed
          exact .done _ _
      | call op next => simp [feed] at fed
  | cons input rest ih =>
      cases program with
      | done value => simp [feed] at fed
      | call op next =>
          simp only [feed] at fed
          split at fed
          · rename_i reply middle served
            obtain ⟨⟨later, outcome⟩, tail, same⟩ := Option.map_eq_some_iff.mp fed
            simp only [Prod.mk.injEq] at same
            obtain ⟨rfl, rfl⟩ := same
            exact .call reply ⟨input, served⟩ (ih tail)
          · simp at fed

/-- A fed run that evaluates, with whatever can be tested of it. -/
theorem feed_reaches {serve : Service σ Op Reply Input} {inputs : List Input} {before : σ}
    {program : Program Op Reply α} {test : List (Event σ Op Reply) × α × σ → Bool}
    (passed : (feed serve inputs before program).any test = true) :
    ∃ events result after, Exec serve.handler before program events result after ∧
      test (events, result, after) = true := by
  cases fed : feed serve inputs before program with
  | none => simp [fed] at passed
  | some outcome => exact ⟨_, _, _, feed_exec fed, by simpa [fed] using passed⟩

inductive Move (Call Input : Type) where
  | enter (caller : Call)
  | turn (task : Nat) (input : Input)

def move (serve : Service σ Op Reply Input) (code : Call → Program Op Reply α)
    (state : State σ Op Reply α) : Move Call Input →
    Option (List (Turn σ Op Reply α) × State σ Op Reply α)
  | .enter caller => some ([], ⟨state.shared, state.programs ++ [code caller]⟩)
  | .turn task input =>
      match state.programs[task]? with
      | some (.call op next) =>
          match serve state.shared op input with
          | some (reply, after) =>
              some ([⟨⟨state.shared, op, reply, after⟩, task, state.programs⟩],
                ⟨after, state.programs.set task (next reply)⟩)
          | none => none
      | _ => none

/-- The run that a schedule makes, if no scheduled program has to wait. -/
def replay (serve : Service σ Op Reply Input) (code : Call → Program Op Reply α) :
    State σ Op Reply α → List (Move Call Input) →
    Option (List (Turn σ Op Reply α) × State σ Op Reply α)
  | state, [] => some ([], state)
  | state, choice :: rest =>
      match move serve code state choice with
      | some (first, middle) =>
          match replay serve code middle rest with
          | some (later, final) => some (first ++ later, final)
          | none => none
      | none => none

theorem move_run {serve : Service σ Op Reply Input} {choice : Move Call Input}
    {final : State σ Op Reply α} {turns : List (Turn σ Op Reply α)}
    (earlier : Run serve.handler code start history state)
    (moved : move serve code state choice = some (turns, final)) :
    Run serve.handler code start (history ++ turns) final := by
  cases choice with
  | enter caller =>
      simp only [move, Option.some.injEq, Prod.mk.injEq] at moved
      obtain ⟨rfl, rfl⟩ := moved
      simpa using earlier.enter caller
  | turn task input =>
      simp only [move] at moved
      split at moved
      · rename_i op next waits
        split at moved
        · rename_i reply after answered
          simp only [Option.some.injEq, Prod.mk.injEq] at moved
          obtain ⟨rfl, rfl⟩ := moved
          exact earlier.turn task waits reply ⟨input, answered⟩
        · simp at moved
      · simp at moved

theorem replay_run {serve : Service σ Op Reply Input} {schedule : List (Move Call Input)}
    {final : State σ Op Reply α} {turns : List (Turn σ Op Reply α)}
    (earlier : Run serve.handler code start history state)
    (replayed : replay serve code state schedule = some (turns, final)) :
    Run serve.handler code start (history ++ turns) final := by
  induction schedule generalizing state history turns with
  | nil =>
      simp only [replay, Option.some.injEq, Prod.mk.injEq] at replayed
      obtain ⟨rfl, rfl⟩ := replayed
      simpa using earlier
  | cons choice rest ih =>
      simp only [replay] at replayed
      split at replayed
      · rename_i first middle moved
        split at replayed
        · rename_i later last tail
          simp only [Option.some.injEq, Prod.mk.injEq] at replayed
          obtain ⟨rfl, rfl⟩ := replayed
          rw [← List.append_assoc]
          exact ih (move_run earlier moved) tail
        · simp at replayed
      · simp at replayed

/-- A schedule that evaluates is a run, with whatever can be tested of its end. -/
theorem replay_reaches {serve : Service σ Op Reply Input} {schedule : List (Move Call Input)}
    {test : List (Turn σ Op Reply α) × State σ Op Reply α → Bool}
    (passed : (replay serve code start schedule).any test = true) :
    ∃ turns final, Run serve.handler code start turns final ∧ test (turns, final) = true := by
  cases replayed : replay serve code start schedule with
  | none => simp [replayed] at passed
  | some outcome =>
      have run := replay_run .refl replayed
      exact ⟨outcome.1, outcome.2, by simpa using run, by simpa [replayed] using passed⟩

end Replay

end Interleaving
