import PaladinsCat.Interleaving
import PaladinsCat.Text

/-!
The cumulative projections of many matches at once (`apply_adaptive_projection_stage` in
workers/raw_buffer.rs): a batch that fails is split into halves, down to single matches, which are
left to the ordinary retry. Whatever the projector answers, every match ends in one place.
-/

namespace PaladinsCat.RawBuffer

open Interleaving Program

/-! ### apply_adaptive_projection_stage -/

def cumulativeProjectionBatchSize (setting : Option String) : Nat :=
  min 25 (((setting.bind (Text.parseUnsigned (2 ^ 64 - 1))).filter (0 < ·)).getD 8)

theorem cumulativeProjectionBatchSize_pos (setting : Option String) : 0 < cumulativeProjectionBatchSize setting := by
  unfold cumulativeProjectionBatchSize
  cases read : (setting.bind (Text.parseUnsigned (2 ^ 64 - 1))).filter (0 < ·) with
  | none => decide
  | some size =>
      have positive : 0 < size := by simpa using (Option.filter_eq_some_iff.mp read).2
      exact lt_min (by decide) positive

/-- Matches that are projected together. -/
structure Chunk where
  ids : List Int
  nonempty : ids ≠ []

namespace Chunk

variable (chunk : Chunk)

def first : Int := chunk.ids.head chunk.nonempty

def midpoint : Nat := (chunk.ids.length + 1) / 2

theorem length_pos : 0 < chunk.ids.length := List.length_pos_iff.mpr chunk.nonempty

section
variable (several : 1 < chunk.ids.length)

def front : Chunk := ⟨chunk.ids.take chunk.midpoint, by
  rw [← List.length_pos_iff, List.length_take, midpoint]
  omega⟩

def back : Chunk := ⟨chunk.ids.drop chunk.midpoint, by
  rw [← List.length_pos_iff, List.length_drop, midpoint]
  omega⟩

end

/-- The most calls that a chunk can cost. -/
def cost : Nat := 2 * chunk.ids.length - 1

theorem cost_halves (several : 1 < chunk.ids.length) :
    (chunk.front several).cost + (chunk.back several).cost + 1 = chunk.cost := by
  simp only [cost, front, back, List.length_take, List.length_drop, midpoint]
  omega

theorem front_append_back (several : 1 < chunk.ids.length) :
    (chunk.front several).ids ++ (chunk.back several).ids = chunk.ids := List.take_append_drop _ _

end Chunk

def chunks (size : Nat) (positive : 0 < size) (candidates : List Int) : List Chunk :=
  if some_ : candidates = [] then []
  else
    ⟨candidates.take size, by simpa [Nat.ne_of_gt positive] using some_⟩ ::
      chunks size positive (candidates.drop size)
termination_by candidates.length
decreasing_by
  have length := List.length_pos_iff.mpr some_
  rw [List.length_drop]
  omega

inductive StageOp where
  | renewClaimedMatches (matchIds : List Int)
  | projectBatch (matchIds : List Int)

/-- A renewal fails with an error; the projector answers with the text of one. -/
def StageReply (ε : Type) : StageOp → Type
  | .renewClaimedMatches _ => Except ε Unit
  | .projectBatch _ => Option String

def totalCost (pending : List Chunk) : Nat := (pending.map Chunk.cost).sum

variable {ε : Type}

/-- The loop over the stack of pending chunks, with its top first. -/
def projectPending (pending : List Chunk) (fallback : Finset Int) :
    Program StageOp (StageReply ε) (Except ε (Finset Int)) :=
  match pending with
  | [] => .done (.ok fallback)
  | chunk :: rest =>
      .call (.renewClaimedMatches chunk.ids) fun renewed =>
        match (renewed : Except ε Unit) with
        | .error error => .done (.error error)
        | .ok _ =>
            .call (.projectBatch chunk.ids) fun (error : Option String) =>
              if error.isNone then projectPending rest fallback
              else if several : 1 < chunk.ids.length then
                projectPending (chunk.front several :: chunk.back several :: rest) fallback
              else projectPending rest (insert chunk.first fallback)
termination_by totalCost pending
decreasing_by
  · have length := chunk.length_pos
    simp only [totalCost, List.map_cons, List.sum_cons, Chunk.cost]
    omega
  · have halves := chunk.cost_halves several
    simp only [totalCost, List.map_cons, List.sum_cons]
    omega
  · have length := chunk.length_pos
    simp only [totalCost, List.map_cons, List.sum_cons, Chunk.cost]
    omega

def applyAdaptiveProjectionStage (size : Nat) (positive : 0 < size) (candidates : List Int) :
    Program StageOp (StageReply ε) (Except ε (Finset Int)) :=
  projectPending (chunks size positive candidates) ∅

/-! ### Attempts -/

/-- A call of the projector, and whether it succeeded. -/
structure Attempt where
  ids : List Int
  succeeded : Bool
  deriving DecidableEq

def attemptOf (event : Event Unit StageOp (StageReply ε)) : Option Attempt :=
  match event with
  | ⟨_, .projectBatch ids, reply, _⟩ => some ⟨ids, (reply : Option String).isNone⟩
  | ⟨_, .renewClaimedMatches _, _, _⟩ => none

def attempts (events : List (Event Unit StageOp (StageReply ε))) : List Attempt := events.filterMap attemptOf

/-- The errors of the renewals. -/
def refusalOf (event : Event Unit StageOp (StageReply ε)) : Option ε :=
  match event with
  | ⟨_, .renewClaimedMatches _, reply, _⟩ =>
      match (reply : Except ε Unit) with
      | .error error => some error
      | .ok _ => none
  | ⟨_, .projectBatch _, _, _⟩ => none

def refusals (events : List (Event Unit StageOp (StageReply ε))) : List ε := events.filterMap refusalOf

/-- It needs no further attempt. -/
def Attempt.settled (attempt : Attempt) : Bool := attempt.succeeded || attempt.ids.length == 1

/-- Where the batch starts in the list. -/
def Attempt.position (candidates : List Int) (attempt : Attempt) : Nat :=
  (attempt.ids.head?.map candidates.idxOf).getD 0

/-! ### Chunks -/

def pendingIds (pending : List Chunk) : List Int := pending.flatMap Chunk.ids

theorem pendingIds_chunks {size : Nat} (positive : 0 < size) (candidates : List Int) :
    pendingIds (chunks size positive candidates) = candidates := by
  induction candidates using chunks.induct size positive with
  | case1 =>
      rw [chunks]
      rfl
  | case2 candidates some_ ih =>
      rw [chunks, dif_neg some_, pendingIds, List.flatMap_cons]
      exact (congrArg _ ih).trans (List.take_append_drop size candidates)

theorem totalCost_le (pending : List Chunk) : totalCost pending ≤ 2 * (pendingIds pending).length := by
  induction pending with
  | nil => exact Nat.le_refl 0
  | cons chunk pending ih =>
      have first : chunk.cost ≤ 2 * chunk.ids.length := Nat.sub_le _ _
      have together : totalCost (chunk :: pending) = chunk.cost + totalCost pending := by
        rw [totalCost, List.map_cons, List.sum_cons]
        rfl
      rw [together, pendingIds, List.flatMap_cons, List.length_append, Nat.mul_add]
      exact Nat.add_le_add first ih

/-! ### The course of a stage -/

/-- The attempts that a stack of chunks comes to, and the outcome. -/
inductive Course : List Chunk → Finset Int → List Attempt → Except ε (Finset Int) → Prop where
  | finished (fallback : Finset Int) : Course [] fallback [] (.ok fallback)
  | refused (chunk : Chunk) (rest : List Chunk) (fallback : Finset Int) (error : ε) :
      Course (chunk :: rest) fallback [] (.error error)
  | projected {chunk : Chunk} {rest : List Chunk} {fallback : Finset Int} {later : List Attempt}
      {outcome : Except ε (Finset Int)} (course : Course rest fallback later outcome) :
      Course (chunk :: rest) fallback (⟨chunk.ids, true⟩ :: later) outcome
  | halved {chunk : Chunk} {rest : List Chunk} {fallback : Finset Int} {later : List Attempt}
      {outcome : Except ε (Finset Int)} (several : 1 < chunk.ids.length)
      (course : Course (chunk.front several :: chunk.back several :: rest) fallback later outcome) :
      Course (chunk :: rest) fallback (⟨chunk.ids, false⟩ :: later) outcome
  | retained {chunk : Chunk} {rest : List Chunk} {fallback : Finset Int} {later : List Attempt}
      {outcome : Except ε (Finset Int)} (single : chunk.ids = [chunk.first])
      (course : Course rest (insert chunk.first fallback) later outcome) :
      Course (chunk :: rest) fallback (⟨chunk.ids, false⟩ :: later) outcome

theorem Chunk.ids_single (chunk : Chunk) (single : ¬ 1 < chunk.ids.length) : chunk.ids = [chunk.first] := by
  have length := chunk.length_pos
  obtain ⟨id, same⟩ := List.length_eq_one_iff.mp (show chunk.ids.length = 1 by omega)
  have first : chunk.first = id := by simp [Chunk.first, same]
  rw [first, same]

theorem totalCost_cons (chunk : Chunk) (rest : List Chunk) :
    totalCost (chunk :: rest) = chunk.cost + totalCost rest := rfl

theorem course_of_exec {pending : List Chunk} {fallback : Finset Int}
    {events : List (Event Unit StageOp (StageReply ε))} {outcome : Except ε (Finset Int)}
    (run : Exec anyReply () (projectPending pending fallback) events outcome ()) :
    Course pending fallback (attempts events) outcome ∧ ∀ error, outcome = .error error → error ∈ refusals events := by
  induction cost : totalCost pending using Nat.strong_induction_on generalizing pending fallback events with
  | _ cost_ ih =>
      subst cost
      cases pending with
      | nil =>
          rw [projectPending] at run
          obtain ⟨rfl, rfl, -⟩ := exec_done run
          exact ⟨.finished fallback, fun error failed => by cases failed⟩
      | cons chunk rest =>
          have length := chunk.length_pos
          have below : totalCost rest < totalCost (chunk :: rest) := by
            rw [totalCost_cons, Chunk.cost]
            omega
          rw [projectPending] at run
          obtain ⟨renewed, middle, tail, -, continues, rfl⟩ := exec_call_iff.mp run
          cases renewed with
          | error error =>
              obtain ⟨rfl, rfl, -⟩ := exec_done continues
              refine ⟨.refused chunk rest fallback error, fun other failed => ?_⟩
              obtain rfl : error = other := Except.error.inj failed
              exact List.mem_cons_self
          | ok _ =>
              obtain ⟨error, after, later, -, further, rfl⟩ := exec_call_iff.mp continues
              cases error with
              | none =>
                  obtain ⟨course, reasons⟩ := ih _ below further rfl
                  exact ⟨.projected course, reasons⟩
              | some text =>
                  by_cases several : 1 < chunk.ids.length
                  · have halves := chunk.cost_halves several
                    have smaller : totalCost (chunk.front several :: chunk.back several :: rest) <
                        totalCost (chunk :: rest) := by
                      simp only [totalCost_cons]
                      omega
                    simp only [Option.isNone_some, Bool.false_eq_true, if_false, dif_pos several] at further
                    obtain ⟨course, reasons⟩ := ih _ smaller further rfl
                    exact ⟨.halved several course, reasons⟩
                  · simp only [Option.isNone_some, Bool.false_eq_true, if_false, dif_neg several] at further
                    obtain ⟨course, reasons⟩ := ih _ below further rfl
                    exact ⟨.retained (chunk.ids_single several) course, reasons⟩

namespace Course

variable {pending : List Chunk} {fallback result : Finset Int} {made : List Attempt} {outcome : Except ε (Finset Int)}

theorem length_le (course : Course pending fallback made outcome) : made.length ≤ totalCost pending := by
  induction course with
  | finished => exact Nat.le_refl 0
  | refused => exact Nat.zero_le _
  | @projected chunk rest _ later _ _ ih =>
      have length := chunk.length_pos
      rw [List.length_cons, totalCost_cons, Chunk.cost]
      omega
  | @halved chunk rest _ later _ several _ ih =>
      have halves := chunk.cost_halves several
      simp only [totalCost_cons] at ih ⊢
      rw [List.length_cons]
      omega
  | @retained chunk rest _ later _ _ _ ih =>
      have length := chunk.length_pos
      rw [List.length_cons, totalCost_cons, Chunk.cost]
      omega

/-- The settled attempts are the pending matches, in their order. -/
theorem settled_ids (course : Course pending fallback made outcome) (ended : outcome = .ok result) :
    (made.filter Attempt.settled).flatMap Attempt.ids = pendingIds pending := by
  induction course with
  | finished => rfl
  | refused => cases ended
  | projected _ ih =>
      rw [List.filter_cons_of_pos rfl, List.flatMap_cons, ih ended]
      rfl
  | @halved chunk rest _ _ _ several _ ih =>
      have open_ : Attempt.settled ⟨chunk.ids, false⟩ = false := by simpa [Attempt.settled] using Nat.ne_of_gt several
      rw [List.filter_cons_of_neg (by rw [open_]; exact Bool.false_ne_true), ih ended]
      rw [pendingIds, List.flatMap_cons, List.flatMap_cons, ← List.append_assoc, chunk.front_append_back several]
      rfl
  | @retained chunk rest _ _ _ single _ ih =>
      rw [List.filter_cons_of_pos (by rw [single]; rfl), List.flatMap_cons, ih ended]
      rfl

theorem mem_result (course : Course pending fallback made outcome) (ended : outcome = .ok result) (id : Int) :
    id ∈ result ↔ id ∈ fallback ∨ ⟨[id], false⟩ ∈ made := by
  induction course with
  | finished =>
      cases ended
      simp
  | refused => cases ended
  | projected _ ih =>
      rw [ih ended]
      simp
  | @halved chunk rest _ _ _ several _ ih =>
      have other : ∀ id, [id] ≠ chunk.ids := by
        rintro id same
        rw [← same] at several
        exact absurd several (by simp)
      rw [ih ended]
      simp [other id]
  | @retained chunk rest _ _ _ single _ ih =>
      rw [ih ended, single]
      simp only [Finset.mem_insert, List.mem_cons, Attempt.mk.injEq, List.cons.injEq, and_true]
      tauto

/-- Attempts start where the pending matches do, or later. -/
theorem positions (course : Course pending fallback made outcome) {candidates passed : List Int}
    (distinct : candidates.Nodup) (place : candidates = passed ++ pendingIds pending) :
    (∀ attempt ∈ made, passed.length ≤ attempt.position candidates) ∧
      made.Pairwise fun one other => one.position candidates ≤ other.position candidates := by
  have here : ∀ (chunk : Chunk) (tail passed : List Int) (succeeded : Bool),
      candidates = passed ++ (chunk.ids ++ tail) →
        Attempt.position candidates ⟨chunk.ids, succeeded⟩ = passed.length := by
    intro chunk tail passed succeeded place
    obtain ⟨first, others, same⟩ := List.exists_cons_of_ne_nil chunk.nonempty
    rw [same] at place
    have fresh : first ∉ passed := by
      rw [place] at distinct
      intro member
      exact (List.nodup_append.mp distinct).2.2 first member first (by simp) rfl
    rw [Attempt.position, same, List.head?_cons, Option.map_some, Option.getD_some, place,
      List.idxOf_append_of_notMem fresh, List.cons_append, List.idxOf_cons_self, Nat.add_zero]
  induction course generalizing passed with
  | finished => simp
  | refused => simp
  | @projected chunk rest _ _ _ _ ih =>
      have start := here chunk (pendingIds rest) passed true place
      obtain ⟨later, ordered⟩ := @ih (passed ++ chunk.ids) (by rw [List.append_assoc]; exact place)
      rw [List.length_append] at later
      have behind : ∀ attempt ∈ _, passed.length ≤ Attempt.position candidates attempt :=
        fun attempt member => (Nat.le_add_right _ _).trans (later attempt member)
      exact ⟨List.forall_mem_cons.mpr ⟨start.ge, behind⟩,
        List.pairwise_cons.mpr ⟨fun attempt member => start.le.trans (behind attempt member), ordered⟩⟩
  | @halved chunk rest _ _ _ several _ ih =>
      have start := here chunk (pendingIds rest) passed false place
      have same : pendingIds (chunk.front several :: chunk.back several :: rest) = pendingIds (chunk :: rest) := by
        simp only [pendingIds, List.flatMap_cons, ← List.append_assoc, chunk.front_append_back several]
      obtain ⟨behind, ordered⟩ := @ih passed (by rw [same]; exact place)
      exact ⟨List.forall_mem_cons.mpr ⟨start.ge, behind⟩,
        List.pairwise_cons.mpr ⟨fun attempt member => start.le.trans (behind attempt member), ordered⟩⟩
  | @retained chunk rest _ _ _ single _ ih =>
      have start := here chunk (pendingIds rest) passed false place
      obtain ⟨later, ordered⟩ := @ih (passed ++ chunk.ids) (by rw [List.append_assoc]; exact place)
      rw [List.length_append] at later
      have behind : ∀ attempt ∈ _, passed.length ≤ Attempt.position candidates attempt :=
        fun attempt member => (Nat.le_add_right _ _).trans (later attempt member)
      exact ⟨List.forall_mem_cons.mpr ⟨start.ge, behind⟩,
        List.pairwise_cons.mpr ⟨fun attempt member => start.le.trans (behind attempt member), ordered⟩⟩

end Course

/-- Every match is in a batch that succeeded or failed on its own, not both. -/
theorem settled_once {made : List Attempt} {candidates : List Int} (distinct : candidates.Nodup)
    (settled : (made.filter Attempt.settled).flatMap Attempt.ids = candidates) {id : Int} (member : id ∈ candidates) :
    Xor (∃ attempt ∈ made, attempt.succeeded = true ∧ id ∈ attempt.ids) (⟨[id], false⟩ ∈ made) := by
  have apart := (List.nodup_flatMap.mp (settled.symm ▸ distinct)).2
  rw [← settled] at member
  obtain ⟨attempt, kept, inside⟩ := List.mem_flatMap.mp member
  obtain ⟨tried, done⟩ := List.mem_filter.mp kept
  have disjoint : ∀ other ∈ made.filter Attempt.settled, id ∈ other.ids → other = attempt := by
    intro other listed also
    by_contra different
    have symmetric : Std.Symm (Function.onFun List.Disjoint Attempt.ids) := ⟨fun _ _ disjoint => disjoint.symm⟩
    exact apart.forall listed kept different also inside
  cases success : attempt.succeeded with
  | true =>
      refine .inl ⟨⟨attempt, tried, success, inside⟩, fun failed => ?_⟩
      have same := disjoint ⟨[id], false⟩ (List.mem_filter.mpr ⟨failed, rfl⟩) List.mem_cons_self
      rw [← same] at success
      cases success
  | false =>
      have single : attempt = ⟨[id], false⟩ := by
        obtain ⟨ids, succeeded⟩ := attempt
        subst success
        obtain ⟨only, rfl⟩ := List.length_eq_one_iff.mp (by simpa [Attempt.settled] using done)
        rw [List.mem_singleton.mp inside]
      refine .inr ⟨single ▸ tried, ?_⟩
      rintro ⟨other, listed, succeeded, also⟩
      have same := disjoint other (List.mem_filter.mpr ⟨listed, by rw [Attempt.settled, succeeded]; rfl⟩) also
      rw [same, success] at succeeded
      cases succeeded

/-- Whatever the projector and the renewals answer, knowing all that went before. -/
theorem applyAdaptiveProjectionStage_accountable {size : Nat} (positive : 0 < size) {candidates : List Int}
    (distinct : candidates.Nodup)
    (answer : List (Event Unit StageOp (StageReply ε)) → (op : StageOp) → StageReply ε op) :
    let run := play answer [] (applyAdaptiveProjectionStage size positive candidates)
    (attempts run.1).length ≤ 2 * candidates.length + (candidates.length + size - 1) / size ∧
    ((attempts run.1).Pairwise fun one other => one.position candidates ≤ other.position candidates) ∧
    (∀ error, run.2 = .error error → error ∈ refusals run.1) ∧
    ∀ fallback, run.2 = .ok fallback →
      ((attempts run.1).filter Attempt.settled).flatMap Attempt.ids = candidates ∧
      (∀ id, id ∈ fallback ↔ ⟨[id], false⟩ ∈ attempts run.1) ∧
      ∀ id ∈ candidates,
        Xor (∃ attempt ∈ attempts run.1, attempt.succeeded = true ∧ id ∈ attempt.ids) (id ∈ fallback) := by
  intro run
  obtain ⟨course, reasons⟩ :=
    course_of_exec (play_exec answer [] (applyAdaptiveProjectionStage size positive candidates))
  have cost := totalCost_le (chunks size positive candidates)
  rw [pendingIds_chunks] at cost
  have place : candidates = [] ++ pendingIds (chunks size positive candidates) := (pendingIds_chunks positive _).symm
  have ordered := (course.positions distinct place).2
  refine ⟨(course.length_le.trans cost).trans (Nat.le_add_right _ _), ordered, reasons, ?_⟩
  intro fallback ended
  have settled := course.settled_ids ended
  rw [pendingIds_chunks] at settled
  have members : ∀ id, id ∈ fallback ↔ ⟨[id], false⟩ ∈ attempts run.1 := by
    intro id
    rw [course.mem_result ended]
    simp [run]
  refine ⟨settled, members, fun id member => ?_⟩
  rw [members]
  exact settled_once distinct settled member

/-- Every renewal succeeds, and the projector fails where match 9 is in the batch. -/
def failingOnNine (_ : List (Event Unit StageOp (StageReply Unit))) : (op : StageOp) → StageReply Unit op
  | .renewClaimedMatches _ => (.ok () : Except Unit Unit)
  | .projectBatch ids => ((if 9 ∈ ids then some "numeric overflow" else none) : Option String)

theorem applyAdaptiveProjectionStage_accountable_nine :
    (attempts (play failingOnNine [] (applyAdaptiveProjectionStage 2 (by decide) [4, 9, 7])).1).length ≤ 8 ∧
      ∀ fallback, (play failingOnNine [] (applyAdaptiveProjectionStage 2 (by decide) [4, 9, 7])).2 = .ok fallback →
        ∀ id ∈ ([4, 9, 7] : List Int),
          Xor (∃ attempt ∈ attempts (play failingOnNine [] (applyAdaptiveProjectionStage 2 (by decide) [4, 9, 7])).1,
            attempt.succeeded = true ∧ id ∈ attempt.ids) (id ∈ fallback) := by
  obtain ⟨count, -, -, ended⟩ :=
    @applyAdaptiveProjectionStage_accountable Unit 2 (by decide) [4, 9, 7] (by decide) failingOnNine
  exact ⟨count, fun fallback done => (ended fallback done).2.2⟩

end PaladinsCat.RawBuffer
