import PaladinsCat.Interleaving

/-!
Programs that own something for a while: a lock that one of them has taken, a connection that it
got from a pool. What a program owns shows in its phase, and nobody else owns it. An invariant of
such programs has a part for the shared state and a part for each phase, which speaks of what the
phase owns and is therefore safe from the others.
-/

namespace Interleaving

variable {σ Op α Call Phase Resource : Type} {Reply : Op → Type} {answers : Handler σ Op Reply}
  {code : Call → Program Op Reply α}

/-- A run up to one of its turns is a run to the state that the turn has left. -/
theorem run_until {start state : State σ Op Reply α} {history earlier later : List (Turn σ Op Reply α)} {turn : Turn σ Op Reply α}
    (run : Run answers code start history state) (split : history = earlier ++ turn :: later) :
    ∃ programs, Run answers code start (earlier ++ [turn]) ⟨turn.after, programs⟩ := by
  induction run generalizing later with
  | refl => simp at split
  | enter _ _ ih => exact ih split
  | turn before task waits reply answered ih =>
      rcases append_singleton_split split with ⟨-, rfl, rfl⟩ | ⟨front, -, same⟩
      · exact ⟨_, .turn before task waits reply answered⟩
      · exact ih same

/-- What is owned in which phase, what can still be taken, and what holds of the state and in a phase. -/
structure Ownership (σ Phase Resource : Type) where
  owns : Phase → Resource → Prop
  free : σ → Resource → Prop
  good : σ → Prop
  holds : Phase → σ → Prop

namespace Ownership

variable (ownership : Ownership σ Phase Resource)

/-- The invariant in a phase, for the owner of what it owns. -/
structure Stands (phase : Phase) (shared : σ) : Prop where
  holds : ownership.holds phase shared
  taken : ∀ resource, ownership.owns phase resource → ¬ ownership.free shared resource

/-- What one call does: it takes only what is free, and does nothing to the phases that own nothing of its own. -/
structure Step (before : σ) (phase : Phase) (after : σ) (target : Phase) : Prop where
  good : ownership.good after
  own : ownership.Stands target after
  takes : ∀ resource, ownership.owns target resource → ownership.owns phase resource ∨ ownership.free before resource
  others : ∀ other, ownership.Stands other before →
    (∀ resource, ownership.owns phase resource → ¬ ownership.owns other resource) → ownership.Stands other after

/-- The invariant for all programs together. -/
structure Kept (shared : σ) (phases : List Phase) : Prop where
  good : ownership.good shared
  stands : ∀ phase ∈ phases, ownership.Stands phase shared
  apart : ∀ (one two : ℕ) (first second : Phase) (resource : Resource), phases[one]? = some first →
    phases[two]? = some second → ownership.owns first resource → ownership.owns second resource → one = two

variable {ownership}

theorem Kept.joins {shared : σ} {phases : List Phase} {phase : Phase} (kept : ownership.Kept shared phases)
    (held : ownership.holds phase shared) (nothing : ∀ resource, ¬ ownership.owns phase resource) :
    ownership.Kept shared (phases ++ [phase]) where
  good := kept.good
  stands other member := by
    rcases List.mem_append.mp member with old | new
    · exact kept.stands other old
    · rw [List.mem_singleton.mp new]
      exact ⟨held, fun resource owned => (nothing resource owned).elim⟩
  apart one two first second resource found listed owns owned := by
    rcases getElem?_append_singleton found with here | rfl
    · rcases getElem?_append_singleton listed with there | rfl
      · exact kept.apart one two first second resource here there owns owned
      · exact (nothing resource owned).elim
    · exact (nothing resource owns).elim

theorem Kept.moves {before after : σ} {phases : List Phase} {phase target : Phase} {task : ℕ}
    (kept : ownership.Kept before phases) (found : phases[task]? = some phase)
    (step : ownership.Step before phase after target) : ownership.Kept after (phases.set task target) := by
  have foreign : ∀ (index : ℕ) (other : Phase), index ≠ task → phases[index]? = some other →
      ∀ resource, ownership.owns phase resource → ¬ ownership.owns other resource :=
    fun index other different listed resource owns owned =>
      different (kept.apart index task other phase resource listed found owned owns)
  have clear : ∀ (index : ℕ) (other : Phase), index ≠ task → phases[index]? = some other →
      ∀ resource, ownership.owns target resource → ¬ ownership.owns other resource := by
    intro index other different listed resource owns owned
    rcases step.takes resource owns with old | free
    · exact foreign index other different listed resource old owned
    · exact (kept.stands other (List.mem_of_getElem? listed)).taken resource owned free
  refine ⟨step.good, fun other member => ?_, fun one two first second resource here there owns owned => ?_⟩
  · rcases mem_set_cases member with rfl | ⟨index, different, listed⟩
    · exact step.own
    · exact step.others other (kept.stands other (List.mem_of_getElem? listed)) (foreign index other different listed)
  · rcases getElem?_set_cases here with ⟨rfl, rfl⟩ | ⟨different, old⟩ <;>
      rcases getElem?_set_cases there with ⟨rfl, rfl⟩ | ⟨apart, earlier⟩
    · rfl
    · exact (clear two second apart earlier resource owns owned).elim
    · exact (clear one first different old resource owned owns).elim
    · exact kept.apart one two first second resource old earlier owns owned

/-- The invariant rule for programs that own things: each call has to be a step. -/
theorem run_owned (ownership : Ownership σ Phase Resource) {next : Phase → (op : Op) → Reply op → Option Phase}
    {post : Phase → α → Prop} {start state : State σ Op Reply α} {history : List (Turn σ Op Reply α)}
    (run : Run answers code start history state) (empty : start.programs = []) (first : Call → Phase)
    (entered : ∀ caller, Follows next post (first caller) (code caller))
    (nothing : ∀ caller resource, ¬ ownership.owns (first caller) resource)
    (initially : ∀ caller shared, ownership.good shared → ownership.holds (first caller) shared)
    (steps : ∀ before phase op reply after target, ownership.good before → ownership.Stands phase before →
      next phase op reply = some target → answers before op reply after → ownership.Step before phase after target)
    (good : ownership.good start.shared) :
    ∃ phases, List.Forall₂ (Follows next post) phases state.programs ∧ ownership.Kept state.shared phases := by
  refine run_phases first entered (fun _ shared phases => ownership.Kept shared phases)
    ⟨good, nofun, fun one _ _ _ _ found => by simp at found⟩ empty ?_ ?_ run
  · intro _ shared phases caller kept
    exact kept.joins (initially caller shared kept.good) (nothing caller)
  · intro _ phases phase target turn kept _ found allowed answered
    exact kept.moves found
      (steps _ _ _ _ _ _ kept.good (kept.stands phase (List.mem_of_getElem? found)) allowed answered)

end Ownership

end Interleaving
