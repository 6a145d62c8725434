import Mathlib

/-!
Waiting until no request is active (`ActiveRequestTracker`, foundation.rs). A guard that is
dropped takes one off the count and, if it was the last, wakes whoever has created a
notification by then. The waiter reads the count before it creates one.
-/

namespace PaladinsCat.DrainWaiter

/-! ### ActiveRequestTracker -/

/-- Where one call of `wait_for_zero` stands. -/
inductive Waiter where
  /-- Before its first look at the count. -/
  | called
  /-- Before the count is read in the loop. -/
  | looping
  /-- A positive count was read, and no notification is created yet. -/
  | unready
  | sleeping
  | woken
  | returned (drained : Bool)
  deriving DecidableEq

structure Tracker where
  /-- The count, one for each guard. -/
  active : Nat := 0
  /-- The drops of a last guard that have still to call `notify_waiters`. -/
  leaving : Nat := 0
  waiter : Waiter := .called

inductive Action where
  | begin
  /-- `fetch_sub` of a drop. -/
  | decrement
  | notifyWaiters
  /-- `count` of the waiter. -/
  | count
  /-- `changed.notified()` of the waiter. -/
  | notified
  | resume
  /-- The deadline is noticed by a poll that finds no notification. -/
  | timeout
  deriving DecidableEq

def step (s : Tracker) : Action → Option Tracker
  | .begin => some { s with active := s.active + 1 }
  | .decrement =>
      if s.active = 0 then none
      else some { s with active := s.active - 1, leaving := if s.active = 1 then s.leaving + 1 else s.leaving }
  | .notifyWaiters =>
      if s.leaving = 0 then none
      else some { s with leaving := s.leaving - 1, waiter := if s.waiter = .sleeping then .woken else s.waiter }
  | .count =>
      match s.waiter with
      | .called => some { s with waiter := if s.active = 0 then .returned true else .looping }
      | .looping => some { s with waiter := if s.active = 0 then .returned true else .unready }
      | _ => none
  | .notified => if s.waiter = .unready then some { s with waiter := .sleeping } else none
  | .resume => if s.waiter = .woken then some { s with waiter := .looping } else none
  | .timeout => if s.waiter = .sleeping then some { s with waiter := .returned false } else none

/-- Every interleaving, with the states in which the actions were taken. -/
inductive Run : List (Tracker × Action) → Tracker → Prop where
  | start : Run [] {}
  | act {history : List (Tracker × Action)} {s after : Tracker} {action : Action} (earlier : Run history s)
      (moved : step s action = some after) : Run (history ++ [(s, action)]) after

/-! ### What the waiter counts on -/

/-- Somebody is active, or will wake whoever sleeps. -/
def Awaited (s : Tracker) : Prop := 0 < s.active ∨ 0 < s.leaving

structure NothingMissed (history : List (Tracker × Action)) (s : Tracker) : Prop where
  awaited : s.waiter = .sleeping → Awaited s
  honest : ∀ before, (before, .timeout) ∈ history → 0 < before.active

/-- The last wake-up does not fall between the count and the notification of the waiter, and the
deadline not between the last decrement and its wake-up. -/
def Undisturbed (s : Tracker) : Action → Prop
  | .notifyWaiters => s.waiter = .unready → 0 < s.active ∨ 1 < s.leaving
  | .timeout => s.active = 0 → s.leaving = 0
  | _ => True

/-- Whoever has read a positive count and has not been woken since is awaited. -/
def Waits (s : Tracker) : Prop := s.waiter = .unready ∨ s.waiter = .sleeping

section
variable {s after : Tracker} {action : Action} {history : List (Tracker × Action)}

theorem awaited_step (calm : Undisturbed s action) (moved : step s action = some after) (held : Waits s → Awaited s) :
    Waits after → Awaited after := by
  intro waits
  cases action with
  | begin =>
      cases moved
      exact .inl (Nat.succ_pos s.active)
  | decrement =>
      simp only [step] at moved
      split_ifs at moved with none_
      · cases moved
        -- The last one to leave owes the wake-up.
        exact .inr (Nat.succ_pos s.leaving)
      · cases moved
        exact .inl (by simp only; omega)
  | notifyWaiters =>
      simp only [step] at moved
      split_ifs at moved with none_ sleeping
      · cases moved
        rcases waits with waits | waits <;> cases waits
      · cases moved
        -- A waiter between its read and its sleep is not woken.
        rcases waits with unready | asleep
        · rcases calm unready with active | others
          · exact .inl active
          · exact .inr (by simp only; omega)
        · exact absurd asleep sleeping
  | count =>
      simp only [step] at moved
      split at moved
      · cases moved
        split_ifs at waits <;> rcases waits with waits | waits <;> cases waits
      · cases moved
        by_cases zero : s.active = 0
        · simp only [if_pos zero] at waits
          rcases waits with waits | waits <;> cases waits
        · exact .inl (Nat.pos_of_ne_zero zero)
      · cases moved
  | notified =>
      simp only [step] at moved
      split_ifs at moved with unready
      cases moved
      exact held (.inl unready)
  | resume =>
      simp only [step] at moved
      split_ifs at moved with woken
      cases moved
      rcases waits with waits | waits <;> cases waits
  | timeout =>
      simp only [step] at moved
      split_ifs at moved with sleeping
      cases moved
      rcases waits with waits | waits <;> cases waits

theorem awaited_run (run : Run history s) (calm : ∀ before action, (before, action) ∈ history → Undisturbed before action) :
    Waits s → Awaited s := by
  induction run with
  | start => rintro (waits | waits) <;> cases waits
  | act earlier moved ih =>
      refine awaited_step (calm _ _ (by simp)) moved (ih fun before action member => ?_)
      exact calm before action (List.mem_append_left _ member)

theorem timeout_sleeping (moved : step s .timeout = some after) : s.waiter = .sleeping := by
  simp only [step] at moved
  split_ifs at moved with sleeping
  exact sleeping

theorem honest_run (run : Run history s) (calm : ∀ before action, (before, action) ∈ history → Undisturbed before action) :
    ∀ before, (before, .timeout) ∈ history → 0 < before.active := by
  induction run with
  | start => simp
  | @act history s after action earlier moved ih =>
      have calmer : ∀ before action, (before, action) ∈ history → Undisturbed before action :=
        fun before action member => calm before action (List.mem_append_left _ member)
      intro before member
      rcases List.mem_append.mp member with earlier_ | last
      · exact ih calmer before earlier_
      · cases List.mem_singleton.mp last
        have asleep := timeout_sleeping moved
        rcases awaited_run earlier calmer (.inr asleep) with active | leaving
        · exact active
        · have patient : Undisturbed s .timeout := calm s .timeout (by simp)
          by_contra zero
          have none_ := patient (by omega)
          omega

/-- A step that is disturbed leads to a state in which something is missed, at once or as soon as
the waiter goes to sleep. -/
theorem missed_of_disturbed (run : Run history s) (moved : step s action = some after)
    (disturbed : ¬ Undisturbed s action) : ∃ more last, Run (history ++ more) last ∧ ¬ NothingMissed (history ++ more) last := by
  cases action with
  | begin | decrement | count | notified | resume => exact absurd trivial disturbed
  | notifyWaiters =>
      obtain ⟨unready, gone⟩ := Classical.not_imp.mp disturbed
      -- The waiter goes to sleep after the last wake-up.
      have asleep : step after .notified = some { after with waiter := .sleeping } := by
        simp only [step] at moved ⊢
        split_ifs at moved with none_ sleeping
        · rw [unready] at sleeping
          cases sleeping
        · cases moved
          rw [if_pos unready]
      have nobody : after.active = 0 ∧ after.leaving = 0 := by
        by_cases none_ : s.leaving = 0
        · simp only [step, if_pos none_] at moved
          cases moved
        · simp only [step, if_neg none_] at moved
          cases Option.some.inj moved
          exact ⟨show s.active = 0 by omega, show s.leaving - 1 = 0 by omega⟩
      refine ⟨[(s, .notifyWaiters), (after, .notified)], { after with waiter := .sleeping }, ?_, fun nothing => ?_⟩
      · rw [← List.singleton_append, ← List.append_assoc]
        exact .act (.act run moved) asleep
      · rcases nothing.awaited rfl with active | leaving
        · exact absurd nobody.1 (Nat.pos_iff_ne_zero.mp active)
        · exact absurd nobody.2 (Nat.pos_iff_ne_zero.mp leaving)
  | timeout =>
      obtain ⟨zero, _⟩ := Classical.not_imp.mp disturbed
      refine ⟨[(s, .timeout)], after, .act run moved, fun nothing => ?_⟩
      have active := nothing.honest s (by simp)
      omega

/-- A run without disturbed steps misses nothing, and a disturbed step lets something be missed. -/
theorem drain_waiter_misses_nothing (history : List (Tracker × Action)) (s : Tracker) (run : Run history s) :
    ((∀ before action, (before, action) ∈ history → Undisturbed before action) → NothingMissed history s) ∧
    ∀ action after, step s action = some after → ¬ Undisturbed s action →
      ∃ more last, Run (history ++ more) last ∧ ¬ NothingMissed (history ++ more) last :=
  ⟨fun calm => ⟨fun asleep => awaited_run run calm (.inr asleep), honest_run run calm⟩,
    fun _ _ => missed_of_disturbed run⟩

end

/-! ### Two runs -/

/-- The states in which actions are taken one after the other. -/
def replay : List Action → Tracker → Option (List (Tracker × Action) × Tracker)
  | [], s => some ([], s)
  | action :: rest, s =>
      (step s action).bind fun after => (replay rest after).map fun (later, last) => ((s, action) :: later, last)

theorem replay_run {actions : List Action} {s last : Tracker} {history later : List (Tracker × Action)}
    (run : Run history s) (replayed : replay actions s = some (later, last)) : Run (history ++ later) last := by
  induction actions generalizing s history later with
  | nil =>
      cases replayed
      rwa [List.append_nil]
  | cons action rest ih =>
      obtain ⟨after, moved, continued⟩ := Option.bind_eq_some_iff.mp replayed
      obtain ⟨⟨tail, final⟩, tailed, same⟩ := Option.map_eq_some_iff.mp continued
      cases same
      have joined := ih (.act run moved) tailed
      rwa [List.append_assoc, List.singleton_append] at joined

/-- The guard is dropped while the waiter sleeps, and wakes it. -/
def patient : List (Tracker × Action) :=
  [(⟨0, 0, .called⟩, .begin), (⟨1, 0, .called⟩, .count), (⟨1, 0, .looping⟩, .count), (⟨1, 0, .unready⟩, .notified),
    (⟨1, 0, .sleeping⟩, .decrement), (⟨0, 1, .sleeping⟩, .notifyWaiters), (⟨0, 0, .woken⟩, .resume),
    (⟨0, 0, .looping⟩, .count)]

/-- The guard is dropped between the count and the notification. -/
def hasty : List (Tracker × Action) :=
  [(⟨0, 0, .called⟩, .begin), (⟨1, 0, .called⟩, .count), (⟨1, 0, .looping⟩, .count), (⟨1, 0, .unready⟩, .decrement),
    (⟨0, 1, .unready⟩, .notifyWaiters), (⟨0, 0, .unready⟩, .notified), (⟨0, 0, .sleeping⟩, .timeout)]

theorem patient_run : Run patient ⟨0, 0, .returned true⟩ := by
  have replayed : replay (patient.map Prod.snd) {} = some (patient, ⟨0, 0, .returned true⟩) := rfl
  exact replay_run .start replayed

theorem hasty_run : Run hasty ⟨0, 0, .returned false⟩ := by
  have replayed : replay (hasty.map Prod.snd) {} = some (hasty, ⟨0, 0, .returned false⟩) := rfl
  exact replay_run .start replayed

theorem patient_waiter_is_woken : NothingMissed patient ⟨0, 0, .returned true⟩ := by
  refine (drain_waiter_misses_nothing patient _ patient_run).1 fun before action member => ?_
  simp only [patient, List.mem_cons, Prod.mk.injEq, List.not_mem_nil, or_false] at member
  rcases member with ⟨rfl, rfl⟩ | ⟨rfl, rfl⟩ | ⟨rfl, rfl⟩ | ⟨rfl, rfl⟩ | ⟨rfl, rfl⟩ | ⟨rfl, rfl⟩ | ⟨rfl, rfl⟩ | ⟨rfl, rfl⟩
  all_goals simp [Undisturbed]

/-- Nobody is active any more when this waiter gives up. -/
theorem hasty_waiter_sleeps_on : ¬ ∀ history s, Run history s → NothingMissed history s := by
  intro all
  have active := (all hasty _ hasty_run).honest ⟨0, 0, .sleeping⟩ (by simp [hasty])
  exact absurd active (by decide)

end PaladinsCat.DrainWaiter
