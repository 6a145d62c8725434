import PaladinsCat.Interleaving

/-!
What a program that runs alone makes sure of, from a given state, if each of its steps meets
an assumption. The rules follow the program; a relation that all its steps respect holds
between its first and its last state.
-/

namespace Interleaving

open Program

variable {Op : Type} {Reply : Op → Type} {α β σ Phase : Type} {answers : Handler σ Op Reply}
  {meets : Event σ Op Reply → Prop} {before : σ} {post weaker : α → σ → Prop}

structure Ensures (answers : Handler σ Op Reply) (meets : Event σ Op Reply → Prop) (before : σ)
    (program : Program Op Reply α) (post : α → σ → Prop) : Prop where
  reaches : ∀ events result after, Exec answers before program events result after → (∀ event ∈ events, meets event) →
    post result after

theorem ensures_done {value : α} (holds : post value before) : Ensures answers meets before (.done value) post := by
  constructor
  intro events result after run _
  obtain ⟨-, rfl, rfl⟩ := exec_done run
  exact holds

theorem ensures_call {op : Op} {rest : Reply op → Program Op Reply α}
    (each : ∀ reply middle, answers before op reply middle → meets ⟨before, op, reply, middle⟩ →
      Ensures answers meets middle (rest reply) post) :
    Ensures answers meets before (.call op rest) post := by
  constructor
  intro events result after run met
  obtain ⟨reply, middle, later, answered, continues, rfl⟩ := exec_call_iff.mp run
  exact (each reply middle answered (met _ List.mem_cons_self)).reaches later result after continues fun event member =>
    met event (List.mem_cons_of_mem _ member)

theorem ensures_mono {program : Program Op Reply α} (ensures : Ensures answers meets before program post)
    (implied : ∀ result after, post result after → weaker result after) :
    Ensures answers meets before program weaker :=
  ⟨fun events result after run met => implied result after (ensures.reaches events result after run met)⟩

theorem ensures_then {middle : β → σ → Prop} {program : Program Op Reply β} {rest : β → Program Op Reply α}
    (head : Ensures answers meets before program middle)
    (tail : ∀ value between, middle value between → Ensures answers meets between (rest value) post) :
    Ensures answers meets before (program >>= rest) post := by
  constructor
  intro events result after run met
  obtain ⟨front, back, value, between, rfl, first, second⟩ := exec_bind run
  have reached := head.reaches front value between first fun event member => met event (List.mem_append_left _ member)
  exact (tail value between reached).reaches back result after second fun event member =>
    met event (List.mem_append_right _ member)

theorem ensures_and {other : α → σ → Prop} {program : Program Op Reply α}
    (first : Ensures answers meets before program post) (second : Ensures answers meets before program other) :
    Ensures answers meets before program fun result after => post result after ∧ other result after :=
  ⟨fun events result after run met =>
    ⟨first.reaches events result after run met, second.reaches events result after run met⟩⟩

/-- Whatever the calls of the program respect, it respects. -/
theorem ensures_related {allowed : Op → Prop} (related : σ → σ → Prop) (refl : ∀ state, related state state)
    (trans : ∀ {first second third}, related first second → related second third → related first third)
    (step : ∀ event, allowed event.op → answers event.before event.op event.reply event.after → meets event →
      related event.before event.after)
    {program : Program Op Reply α} (uses : Uses allowed program) :
    Ensures answers meets before program fun _ after => related before after := by
  induction program generalizing before with
  | done result => exact ensures_done (refl before)
  | call op next ih =>
      apply ensures_call
      intro reply middle answered met
      have first := step ⟨before, op, reply, middle⟩ uses.1 answered met
      exact ensures_mono (ih reply (uses.2 reply)) fun _ after second => trans first second

/-- The last phase of a discipline that the program follows. -/
theorem ensures_follows {next : Phase → (op : Op) → Reply op → Option Phase} {ends : Phase → α → Prop} {phase : Phase}
    {program : Program Op Reply α} (follows : Follows next ends phase program) :
    Ensures answers meets before program fun result _ => ∃ last, ends last result := by
  constructor
  intro events result after run _
  obtain ⟨last, -, ended⟩ := follows_exec follows run
  exact ⟨last, ended⟩

theorem ensures_call_iff {op : Op} {rest : Reply op → Program Op Reply α} :
    Ensures answers meets before (.call op rest) post ↔ ∀ reply middle, answers before op reply middle →
      meets ⟨before, op, reply, middle⟩ → Ensures answers meets middle (rest reply) post := by
  constructor
  · intro ensures reply middle answered met
    constructor
    intro events result after run later
    exact ensures.reaches _ result after (.call reply answered run) (List.forall_mem_cons.mpr ⟨met, later⟩)
  · exact ensures_call

theorem ensures_done_iff {value : α} : Ensures answers meets before (.done value) post ↔ post value before := by
  constructor
  · intro ensures
    exact ensures.reaches [] value before (.done _ _) (List.forall_mem_nil _)
  · exact ensures_done

/-- Each step of a fed run is fed by one of the inputs. -/
theorem feed_events {Input : Type} {serve : Service σ Op Reply Input} {inputs : List Input} {after : σ}
    {program : Program Op Reply α} {events : List (Event σ Op Reply)} {result : α}
    (fed : feed serve inputs before program = some (events, result, after)) :
    ∀ event ∈ events, ∃ input ∈ inputs, serve event.before event.op input = some (event.reply, event.after) := by
  induction inputs generalizing before program events with
  | nil =>
      cases program with
      | done value =>
          simp only [feed, Option.some.injEq, Prod.mk.injEq] at fed
          simp [← fed.1]
      | call op next => cases fed
  | cons input rest ih =>
      cases program with
      | done value => cases fed
      | call op next =>
          simp only [feed] at fed
          split at fed
          · rename_i reply middle served
            obtain ⟨⟨later, outcome⟩, continued, same⟩ := Option.map_eq_some_iff.mp fed
            simp only [Prod.mk.injEq] at same
            obtain ⟨rfl, rfl⟩ := same
            intro event member
            rcases List.mem_cons.mp member with rfl | later
            · exact ⟨input, List.mem_cons_self, served⟩
            · obtain ⟨fedBy, listed, step⟩ := ih continued event later
              exact ⟨fedBy, List.mem_cons_of_mem _ listed, step⟩
          · cases fed

/-! ### Within a larger program -/

section Within
variable {Wide : Type} {WideReply : Wide → Type} {inject : Op → Wide} {back : ∀ op, WideReply (inject op) → Reply op}
  {wideAnswers : Handler σ Wide WideReply} {wideMeets : Event σ Wide WideReply → Prop}

/-- A program whose calls are some of those of a larger service. -/
def Program.within (inject : Op → Wide) (back : ∀ op, WideReply (inject op) → Reply op) :
    Program Op Reply α → Program Wide WideReply α
  | .done result => .done result
  | .call op rest => .call (inject op) fun reply => Program.within inject back (rest (back op reply))

theorem ensures_within
    (answered : ∀ before op reply after, wideAnswers before (inject op) reply after →
      answers before op (back op reply) after)
    (met : ∀ before op reply after, wideMeets ⟨before, inject op, reply, after⟩ →
      meets ⟨before, op, back op reply, after⟩)
    {program : Program Op Reply α} (ensures : Ensures answers meets before program post) :
    Ensures wideAnswers wideMeets before (program.within inject back) post := by
  induction program generalizing before with
  | done result => exact ensures_done (ensures_done_iff.mp ensures)
  | call op rest ih =>
      apply ensures_call
      intro reply middle replied meets
      apply ih
      exact ensures_call_iff.mp ensures _ middle (answered before op reply middle replied)
        (met before op reply middle meets)

end Within

end Interleaving
