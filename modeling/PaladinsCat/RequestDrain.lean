import PaladinsCat.Deployment

/-!
Draining a backend. A request that finds the gate open is counted only after it has
looked, so that the counter says how many requests are at work, but not how many are
about to be. Once it is zero, the gate is closed and nobody is on the way between the two,
nothing runs any more until the gate opens.
-/

namespace PaladinsCat.Deployment

open Interleaving Program

/-! ### Stages of a request -/

inductive RequestPhase where
  /-- No request that has to pass the gate. -/
  | elsewhere
  | asking
  | timed (now : Int)
  | stale (now : Int)
  | admitted
  | running
  | handled
  | answered
  deriving DecidableEq

/-- The steps of a request between its admission and the end of its guard. -/
def FoundationOp.guarded : FoundationOp → Bool
  | .begin | .handle | .dropGuard => true
  | _ => false

def askedGate (now : Int) (current : DeploymentState) : RequestPhase :=
  if isExpired current now then .stale now
  else if current.phase.isBlocking then .answered
  else .admitted

def requestNext : RequestPhase → (op : FoundationOp) → op.Reply → Option RequestPhase
  | .elsewhere, op => fun _ => if op.guarded then none else some .elsewhere
  | .asking, .nowUtc => fun now : Int => some (.timed now)
  | .timed now, .readLocal time => fun current : DeploymentState => if time = now then some (askedGate now current) else none
  | .stale now, .expireLocal time => fun _ => if time = now then some .admitted else none
  | .admitted, .begin => fun _ => some .running
  | .running, .handle => fun _ => some .handled
  | .handled, .dropGuard => fun _ => some .answered
  | _, _ => fun _ => none

inductive RequestMove : RequestPhase → (op : FoundationOp) → op.Reply → RequestPhase → Prop where
  | elsewhere {op : FoundationOp} (reply : op.Reply) (free : op.guarded = false) : RequestMove .elsewhere op reply .elsewhere
  | clock (now : Int) : RequestMove .asking .nowUtc now (.timed now)
  | read (now : Int) (current : DeploymentState) : RequestMove (.timed now) (.readLocal now) current (askedGate now current)
  | expire (now : Int) (reply : Unit) : RequestMove (.stale now) (.expireLocal now) reply .admitted
  | begin (reply : Unit) : RequestMove .admitted .begin reply .running
  | handle (reply : Unit) : RequestMove .running .handle reply .handled
  | dropGuard (reply : Unit) : RequestMove .handled .dropGuard reply .answered

theorem request_move {phase next : RequestPhase} {op : FoundationOp} {reply : op.Reply}
    (moved : requestNext phase op reply = some next) : RequestMove phase op reply next := by
  cases phase with
  | elsewhere =>
      simp only [requestNext] at moved
      split_ifs at moved with guarded
      cases moved
      exact .elsewhere reply (Bool.not_eq_true _ ▸ guarded)
  | asking =>
      cases op <;> cases moved
      exact .clock reply
  | timed now =>
      cases op with
      | readLocal time =>
          simp only [requestNext] at moved
          split_ifs at moved with same
          subst same
          cases moved
          exact .read time reply
      | _ => cases moved
  | stale now =>
      cases op with
      | expireLocal time =>
          simp only [requestNext] at moved
          split_ifs at moved with same
          subst same
          cases moved
          exact .expire time reply
      | _ => cases moved
  | admitted =>
      cases op <;> cases moved
      exact .begin reply
  | running =>
      cases op <;> cases moved
      exact .handle reply
  | handled =>
      cases op <;> cases moved
      exact .dropGuard reply
  | answered => cases op <;> cases moved

def requestEnds : RequestPhase → Outcome → Prop
  | .elsewhere, _ | .answered, _ => True
  | _, _ => False

def FoundationCall.gated : FoundationCall → Bool
  | .request asked => !asked.answeredEarly && !asked.bypassDeployment
  | _ => false

def firstPhase (call : FoundationCall) : RequestPhase := if call.gated then .asking else .elsewhere

theorem elsewhere_follows {α : Type} {program : FoundationProgram α}
    (uses : Uses (fun op => op.guarded = false) program) :
    Follows requestNext (fun last _ => last = .elsewhere) .elsewhere program :=
  follows_of_uses (fun op reply free => by simp [requestNext, free]) uses

theorem localStateAt_uses (now : Int) : Uses (fun op => op.guarded = false) (localStateAt now) := by
  rw [localStateAt_eq]
  apply And.intro rfl
  intro current
  dsimp only
  split
  · exact ⟨rfl, fun _ => trivial⟩
  · trivial

theorem localState_uses : Uses (fun op => op.guarded = false) localState :=
  ⟨rfl, fun now => localStateAt_uses now⟩

theorem setState_uses (input : DeploymentStateInput) : Uses (fun op => op.guarded = false) (setState input) := by
  apply And.intro rfl
  intro now
  apply uses_bind (localStateAt_uses now)
  intro previous
  cases buildState input previous now with
  | error error => trivial
  | ok built =>
      apply And.intro rfl
      intro persisted
      cases persisted with
      | false => trivial
      | true => exact ⟨rfl, fun _ => trivial⟩

theorem drain_uses (body : DrainBody) : Uses (fun op => op.guarded = false) (drain body) := by
  unfold drain
  split
  · trivial
  · apply uses_bind (setState_uses _)
    intro result
    cases result with
    | error error => trivial
    | ok deployment => exact ⟨rfl, fun drained => ⟨rfl, fun active => trivial⟩⟩

theorem request_follows (request : Request) (gated : (FoundationCall.request request).gated = true) :
    Follows requestNext requestEnds .asking (applicationFoundation request) := by
  simp only [FoundationCall.gated, Bool.and_eq_true, Bool.not_eq_true'] at gated
  simp only [applicationFoundation, gated.1, gated.2, Bool.false_eq_true, if_false, localState, localStateAt_eq,
    perform_bind]
  intro now
  apply Exists.intro (.timed now)
  apply And.intro rfl
  intro current
  apply Exists.intro (askedGate now current)
  apply And.intro (by simp [requestNext])
  have served : Follows requestNext requestEnds .admitted
      (.call .begin fun _ => .call .handle fun _ => .call .dropGuard fun _ => .done .response) :=
    fun _ => ⟨.running, rfl, fun _ => ⟨.handled, rfl, fun _ => ⟨.answered, rfl, trivial⟩⟩⟩
  by_cases expired : isExpired current now = true
  · simp only [askedGate, expired, if_true]
    intro _
    exact ⟨.admitted, by simp [requestNext], served⟩
  · simp only [askedGate, expired, Bool.false_eq_true, if_false]
    by_cases blocking : current.phase.isBlocking = true
    · rw [if_pos blocking]
      change Follows requestNext requestEnds .answered (if current.phase.isBlocking = true then _ else _)
      rw [if_pos blocking]
      trivial
    · rw [if_neg blocking]
      change Follows requestNext requestEnds .admitted (if current.phase.isBlocking = true then _ else _)
      rw [if_neg blocking]
      exact served

theorem foundationCode_follows (call : FoundationCall) :
    Follows requestNext requestEnds (firstPhase call) (foundationCode call) := by
  have free : ∀ {program : FoundationProgram Outcome}, Uses (fun op => op.guarded = false) program →
      Follows requestNext requestEnds .elsewhere program := by
    intro program uses
    apply follows_mono _ (elsewhere_follows uses)
    rintro phase outcome rfl
    trivial
  cases call with
  | localStateAt now => exact free (uses_bind (localStateAt_uses now) fun _ => trivial)
  | localState => exact free (uses_bind localState_uses fun _ => trivial)
  | setState input => exact free (uses_bind (setState_uses input) fun _ => trivial)
  | drain body => exact free (drain_uses body)
  | request request =>
      by_cases gated : (FoundationCall.request request).gated = true
      · rw [firstPhase, if_pos gated]
        exact request_follows request gated
      · rw [firstPhase, if_neg gated]
        apply free
        simp only [FoundationCall.gated, Bool.and_eq_true, Bool.not_eq_true', not_and, Bool.not_eq_false] at gated
        change Uses _ (applicationFoundation request)
        unfold applicationFoundation
        split_ifs with early bypass
        · trivial
        · exact ⟨rfl, fun _ => trivial⟩
        · exact absurd (gated (by simpa using early)) bypass

/-! ### What is in flight -/

def waitsToBegin : FoundationProgram Outcome → Bool
  | .call .begin _ => true
  | _ => false

/-- A request that has to pass the gate is past its admission, and has not answered. -/
def inFlight : FoundationProgram Outcome → Bool
  | .call op _ => op.guarded
  | .done _ => false

def RequestPhase.counted : RequestPhase → Nat
  | .running | .handled => 1
  | _ => 0

def RequestPhase.passed : RequestPhase → Bool
  | .admitted | .running | .handled => true
  | _ => false

/-- The time that a request has read and decides for. -/
def RequestPhase.time : RequestPhase → Option Int
  | .timed now | .stale now => some now
  | _ => none

/-- The gate refuses whoever looks now. -/
def Foundation.closed (shared : Foundation) : Bool :=
  shared.localState.phase.isBlocking && !isExpired shared.localState shared.clock

/-- A drain has read that no request is active. -/
def FoundationOp.sawZero : (op : FoundationOp) → op.Reply → Bool
  | .waitForZero _ => fun drained : Bool => drained
  | _ => fun _ => false

section Phase
variable {phase next : RequestPhase} {program : FoundationProgram Outcome}
  {before after : Foundation} {op : FoundationOp} {reply : op.Reply}

theorem passed_of_inFlight (follows : Follows requestNext requestEnds phase program)
    (flying : inFlight program = true) : phase.passed = true := by
  cases program with
  | done outcome => cases flying
  | call op rest =>
      cases op with
      | begin | handle | dropGuard =>
          obtain ⟨after, allowed, -⟩ := follows ()
          cases phase <;> first | rfl | simp [requestNext, FoundationOp.guarded] at allowed
      | _ => cases flying

theorem admitted_waits (follows : Follows requestNext requestEnds .admitted program) : waitsToBegin program = true := by
  cases program with
  | done outcome => cases follows
  | call op rest =>
      cases op with
      | begin => rfl
      | nowUtc =>
          obtain ⟨after, allowed, -⟩ := follows (0 : Int)
          cases allowed
      | readLocal now =>
          obtain ⟨after, allowed, -⟩ := follows ({} : DeploymentState)
          cases allowed
      | setRequired state ttlSeconds =>
          obtain ⟨after, allowed, -⟩ := follows true
          cases allowed
      | waitForZero seconds =>
          obtain ⟨after, allowed, -⟩ := follows true
          cases allowed
      | count =>
          obtain ⟨after, allowed, -⟩ := follows (0 : Nat)
          cases allowed
      | expireLocal | applyLocal | handle | dropGuard | handleUncounted =>
          obtain ⟨after, allowed, -⟩ := follows ()
          cases allowed

/-- No other step touches the counter. -/
theorem active_kept (served : serve.handler before op reply after) (free : op.guarded = false) :
    after.active = before.active := by
  obtain ⟨outside, served⟩ := served
  cases op with
  | nowUtc =>
      simp only [serve] at served
      split_ifs at served
      cases served
      rfl
  | waitForZero seconds =>
      simp only [serve] at served
      split_ifs at served <;> cases served <;> rfl
  | begin | handle | dropGuard => cases free
  | readLocal | expireLocal | setRequired | applyLocal | handleUncounted | count =>
      cases served
      rfl

/-- The counter changes with the stages of the requests. -/
theorem active_step (served : serve.handler before op reply after) (moved : requestNext phase op reply = some next)
    (enough : phase.counted ≤ before.active) : after.active + phase.counted = before.active + next.counted := by
  cases request_move moved with
  | elsewhere reply free => rw [active_kept served free]
  | clock | expire => rw [active_kept served rfl]; rfl
  | read now current =>
      rw [active_kept served rfl, askedGate]
      split_ifs <;> rfl
  | begin | handle =>
      obtain ⟨outside, served⟩ := served
      cases served
      simp [RequestPhase.counted]
  | dropGuard =>
      obtain ⟨outside, served⟩ := served
      cases served
      simp only [RequestPhase.counted] at enough ⊢
      omega

theorem clock_step (served : serve.handler before op reply after) : before.clock ≤ after.clock := by
  obtain ⟨outside, served⟩ := served
  cases op with
  | nowUtc =>
      simp only [serve] at served
      split_ifs at served with earlier
      cases served
      exact not_lt.mp earlier
  | waitForZero seconds =>
      simp only [serve] at served
      split_ifs at served <;> cases served <;> exact le_rfl
  | readLocal | expireLocal | setRequired | applyLocal | begin | handle | dropGuard | handleUncounted | count =>
      cases served
      exact le_rfl

theorem time_step (served : serve.handler before op reply after) (moved : requestNext phase op reply = some next)
    (timely : ∀ now, phase.time = some now → now ≤ before.clock) : ∀ now, next.time = some now → now ≤ after.clock := by
  intro now timed
  have late := clock_step served
  cases request_move moved with
  | clock time =>
      obtain rfl : time = now := Option.some.inj timed
      obtain ⟨outside, served⟩ := served
      simp only [serve] at served
      split_ifs at served
      cases served
      exact le_rfl
  | read time current =>
      have same : time = now := by
        simp only [askedGate] at timed
        split_ifs at timed <;> first | exact Option.some.inj timed | cases timed
      exact (same ▸ timely time rfl).trans late
  | elsewhere | expire | begin | handle | dropGuard => cases timed

/-- Nobody passes a closed gate. -/
theorem closed_step (served : serve.handler before op reply after) (moved : requestNext phase op reply = some next)
    (timely : ∀ now, phase.time = some now → now ≤ before.clock) (closed : before.closed = true)
    (still : after.closed = true) (outside_ : phase.passed = false) : next.passed = false := by
  cases request_move moved with
  | elsewhere | clock => rfl
  | read now current =>
      obtain ⟨outside, served⟩ := served
      cases served
      simp only [Foundation.closed, Bool.and_eq_true, Bool.not_eq_true'] at closed
      have fresh : isExpired before.localState now = false := by
        by_contra expired
        rw [Bool.not_eq_false] at expired
        rw [isExpired_mono expired (timely now rfl)] at closed
        cases closed.2
      simp [askedGate, fresh, closed.1, RequestPhase.passed]
  | expire now =>
      obtain ⟨outside, served⟩ := served
      cases served
      cases still
  | begin | handle | dropGuard => cases outside_

end Phase

/-! ### Runs -/

/-- The counter counts the requests at work; nobody decides for a time that is still to come. -/
structure Counted (shared : Foundation) (phases : List RequestPhase) : Prop where
  active : shared.active = (phases.map RequestPhase.counted).sum
  timely : ∀ phase ∈ phases, ∀ now, phase.time = some now → now ≤ shared.clock

/-- Since a drain has read a zero while nobody was about to begin, and as long as the gate has been
closed, nobody is in flight. -/
def Quiet (history : List FoundationTurn) (shared : Foundation) (phases : List RequestPhase) : Prop :=
  ∀ earlier zero later, history = earlier ++ zero :: later → zero.op.sawZero zero.reply = true →
    (∀ program ∈ zero.programs, waitsToBegin program = false) →
    (∀ turn ∈ zero :: later, turn.before.closed = true) → shared.closed = true →
    ∀ phase ∈ phases, phase.passed = false

section Step
variable {history : List FoundationTurn} {turn : FoundationTurn} {phases : List RequestPhase} {phase next : RequestPhase}

theorem Counted.step (served : serve.handler turn.before turn.op turn.reply turn.after)
    (counted : Counted turn.before phases) (found : phases[turn.task]? = some phase)
    (moved : requestNext phase turn.op turn.reply = some next) :
    Counted turn.after (phases.set turn.task next) := by
  have listed := List.mem_of_getElem? found
  constructor
  · have enough : phase.counted ≤ turn.before.active := by
      rw [counted.active]
      exact List.le_sum_of_mem (List.mem_map_of_mem listed)
    have total := total_set RequestPhase.counted found next
    have step := active_step served moved enough
    have before := counted.active
    omega
  · intro other member now timed
    rcases List.mem_or_eq_of_mem_set member with kept | rfl
    · exact (counted.timely other kept now timed).trans (clock_step served)
    · exact time_step served moved (counted.timely phase listed) now timed

theorem sawZero_active (served : serve.handler turn.before turn.op turn.reply turn.after)
    (zero : turn.op.sawZero turn.reply = true) : turn.before.active = 0 ∧ turn.op.guarded = false := by
  obtain ⟨⟨before, op, reply, after⟩, task, programs⟩ := turn
  dsimp only at *
  cases op with
  | waitForZero seconds =>
      obtain ⟨outside, served⟩ := served
      simp only [serve] at served
      split_ifs at served with late none_
      · cases served
        cases zero
      · exact ⟨none_, rfl⟩
  | _ => cases zero

theorem Quiet.step (served : serve.handler turn.before turn.op turn.reply turn.after)
    (counted : Counted turn.before phases) (quiet : Quiet history turn.before phases)
    (follow : List.Forall₂ (Follows requestNext requestEnds) phases turn.programs)
    (found : phases[turn.task]? = some phase) (moved : requestNext phase turn.op turn.reply = some next) :
    Quiet (history ++ [turn]) turn.after (phases.set turn.task next) := by
  intro earlier zero later split saw nobody closed still
  have listed := List.mem_of_getElem? found
  rcases append_singleton_split split with ⟨rfl, -, rfl⟩ | ⟨front, rfl, same⟩
  · have outside_ : ∀ other ∈ phases, other.passed = false := by
      intro other member
      have idle : other.counted = 0 := by
        have most := List.le_sum_of_mem (List.mem_map_of_mem (f := RequestPhase.counted) member)
        rw [← counted.active, (sawZero_active served saw).1] at most
        exact Nat.le_zero.mp most
      cases other with
      | admitted =>
          obtain ⟨index, at_⟩ := List.mem_iff_getElem?.mp member
          obtain ⟨program, there, follows⟩ := forall₂_getElem?_left follow at_
          rw [← nobody program (List.mem_of_getElem? there)]
          exact (admitted_waits follows).symm
      | running | handled => cases idle
      | _ => rfl
    intro other member
    rcases List.mem_or_eq_of_mem_set member with kept | rfl
    · exact outside_ other kept
    · exact closed_step served moved (counted.timely phase listed) (closed _ (by simp)) still (outside_ phase listed)
  · have before : turn.before.closed = true := closed turn (by simp)
    have outside_ := quiet earlier zero front same saw nobody
      (fun other member => closed other (List.mem_cons.mpr ((List.mem_cons.mp member).imp_right (List.mem_append_left _))))
      before
    intro other member
    rcases List.mem_or_eq_of_mem_set member with kept | rfl
    · exact outside_ other kept
    · exact closed_step served moved (counted.timely phase listed) before still (outside_ phase listed)

end Step

section Run
variable {start : Foundation} {history : List FoundationTurn} {state : FoundationState}
  (fresh : start.active = 0)
include fresh

theorem requests_tracked (run : FoundationRun start history state) :
    ∃ phases, List.Forall₂ (Follows requestNext requestEnds) phases state.programs ∧
      Counted state.shared phases ∧ Quiet history state.shared phases := by
  apply run_phases firstPhase foundationCode_follows
    (fun history shared phases => Counted shared phases ∧ Quiet history shared phases) _ rfl _ _ run
  · exact ⟨⟨fresh, by simp⟩, by simp [Quiet]⟩
  · rintro history shared phases call ⟨counted, quiet⟩
    have entered : (firstPhase call).counted = 0 ∧ (firstPhase call).time = none ∧ (firstPhase call).passed = false := by
      unfold firstPhase
      split_ifs <;> exact ⟨rfl, rfl, rfl⟩
    constructor
    · constructor
      · simpa [entered.1] using counted.active
      · intro phase member now timed
        rcases List.mem_append.mp member with kept | new
        · exact counted.timely phase kept now timed
        · rw [List.mem_singleton.mp new, entered.2.1] at timed
          cases timed
    · intro earlier zero later split saw nobody closed still phase member
      rcases List.mem_append.mp member with kept | new
      · exact quiet earlier zero later split saw nobody closed still phase kept
      · rw [List.mem_singleton.mp new]
        exact entered.2.2
  · rintro history phases phase next turn ⟨counted, quiet⟩ follow found moved served
    exact ⟨counted.step served found moved, quiet.step served counted follow found moved⟩

end Run

theorem sawZero_kept {before after : Foundation} {op : FoundationOp} {reply : op.Reply}
    (served : serve.handler before op reply after) (zero : op.sawZero reply = true) : after = before := by
  cases op with
  | waitForZero seconds =>
      obtain ⟨outside, served⟩ := served
      simp only [serve] at served
      split_ifs at served <;> cases served <;> rfl
  | _ => cases zero

theorem inFlight_of_waits {program : FoundationProgram Outcome} (waits : waitsToBegin program = true) :
    inFlight program = true := by
  cases program with
  | done outcome => cases waits
  | call op rest => cases op <;> first | rfl | cases waits

section Drained
variable {initial : DeploymentState} {time : Int} {earlier : List FoundationTurn} {zero : FoundationTurn}
  {reached : FoundationState}

/-- From the moment on at which a drain has read a zero, and as long as the gate stays closed, nothing
that has to pass it is in flight: exactly if nobody had passed it then without being counted. -/
theorem drained_runs_nothing_iff
    (run : FoundationRun { localState := initial, clock := time } (earlier ++ [zero]) reached)
    (saw : zero.op.sawZero zero.reply = true) :
    (∀ later state, FoundationRun { localState := initial, clock := time } (earlier ++ zero :: later) state →
      (∀ turn ∈ zero :: later, turn.before.closed = true) → state.shared.closed = true →
      ∀ program ∈ state.programs, inFlight program = false) ↔
    (zero.before.closed = true → ∀ program ∈ zero.programs, waitsToBegin program = false) := by
  constructor
  · intro nothing closed program member
    by_contra waits
    rw [Bool.not_eq_false] at waits
    obtain ⟨served, ⟨next, asks⟩, -⟩ := run_split run rfl
    obtain ⟨shared, rest, entered, programs⟩ := run_last run
    obtain ⟨index, at_⟩ := List.mem_iff_getElem?.mp member
    have apart : zero.task ≠ index := by
      rintro rfl
      obtain rfl := Option.some.inj (asks.symm.trans at_)
      have flying : zero.op.guarded = true := inFlight_of_waits waits
      rw [(sawZero_active served saw).2] at flying
      cases flying
    have still : program ∈ reached.programs := by
      rw [programs]
      apply List.mem_append_left
      exact List.mem_of_getElem? (by rw [List.getElem?_set_ne apart]; exact at_)
    have idle := nothing [] reached run (by simpa using closed) (by rw [shared, sawZero_kept served saw]; exact closed)
      program still
    rw [inFlight_of_waits waits] at idle
    cases idle
  · intro nobody later state continued closed still program member
    obtain ⟨phases, follow, -, quiet⟩ := requests_tracked rfl continued
    have outside_ := quiet earlier zero later rfl saw (nobody (closed zero (by simp))) closed still
    by_contra flying
    rw [Bool.not_eq_false] at flying
    obtain ⟨index, at_⟩ := List.mem_iff_getElem?.mp member
    obtain ⟨phase, there, follows⟩ := forall₂_getElem? follow at_
    have passed := passed_of_inFlight follows flying
    rw [outside_ phase (List.mem_of_getElem? there)] at passed
    cases passed

end Drained

/-- A request is answered before the drain. -/
theorem drained_after_the_last_answer :
    ∃ earlier zero reached, FoundationRun {} (earlier ++ [zero]) reached ∧ zero.before.closed = true ∧
      zero.op.sawZero zero.reply = true ∧
      ∀ later state, FoundationRun {} (earlier ++ zero :: later) state →
        (∀ turn ∈ zero :: later, turn.before.closed = true) → state.shared.closed = true →
        ∀ program ∈ state.programs, inFlight program = false := by
  have passed : (replay serve foundationCode ⟨{}, []⟩
      [.enter (.request { effectivePath := "/players" }), .turn 0 {}, .turn 0 {}, .turn 0 {},
        .enter (.drain { id := "8" }), .turn 1 {}, .turn 1 {}, .turn 1 {}, .turn 1 {},
        .turn 0 {}, .turn 0 {}, .turn 1 {}]).any
      (fun reached => reached.1.getLast?.any fun zero => zero.op.sawZero zero.reply && zero.before.closed &&
        zero.programs.all fun program => !waitsToBegin program) = true := by decide +kernel
  obtain ⟨history, state, run, tested⟩ := replay_reaches passed
  simp only [Option.any_eq_true, Bool.and_eq_true, List.all_eq_true, Bool.not_eq_true'] at tested
  obtain ⟨zero, last, ⟨saw, closed⟩, nobody⟩ := tested
  obtain ⟨earlier, rfl⟩ := List.getLast?_eq_some_iff.mp last
  exact ⟨earlier, zero, state, run, closed, saw, (drained_runs_nothing_iff run saw).mpr fun _ => nobody⟩

def reportsDrained : FoundationProgram Outcome → Bool
  | .done (.drain _ drained _) => drained
  | _ => false

/-- A request has found the gate open; before it is counted, the drain closes the gate, reads a zero
and says that the backend is drained. Then the request begins. -/
theorem request_runs_after_the_drain :
    ∃ earlier zero later state, FoundationRun {} (earlier ++ zero :: later) state ∧
      zero.op.sawZero zero.reply = true ∧ (∀ turn ∈ zero :: later, turn.before.closed = true) ∧
      state.shared.closed = true ∧ (∃ program ∈ state.programs, reportsDrained program = true) ∧
      ∃ program ∈ state.programs, inFlight program = true := by
  have passed : (replay serve foundationCode ⟨{}, []⟩
      [.enter (.request { effectivePath := "/players" }), .turn 0 {}, .turn 0 {},
        .enter (.drain { id := "8" }), .turn 1 {}, .turn 1 {}, .turn 1 {}, .turn 1 {}, .turn 1 {}, .turn 1 {},
        .turn 0 {}]).any
      (fun reached => reached.1[6]?.any (fun zero => zero.op.sawZero zero.reply) &&
        (reached.1.drop 6).all (fun turn => turn.before.closed) && reached.2.shared.closed &&
        reached.2.programs.any reportsDrained && reached.2.programs.any inFlight) = true := by decide +kernel
  obtain ⟨history, state, run, tested⟩ := replay_reaches passed
  simp only [Bool.and_eq_true, Option.any_eq_true, List.all_eq_true, List.any_eq_true] at tested
  obtain ⟨⟨⟨⟨⟨zero, sixth, saw⟩, closed⟩, still⟩, reported⟩, flying⟩ := tested
  have rest : history.drop 6 = zero :: history.drop 7 := by
    obtain ⟨inside, rfl⟩ := List.getElem?_eq_some_iff.mp sixth
    exact List.drop_eq_getElem_cons inside
  have split : history = history.take 6 ++ zero :: history.drop 7 := by
    rw [← rest, List.take_append_drop]
  exact ⟨history.take 6, zero, history.drop 7, state, split ▸ run, saw, rest ▸ closed, still, reported, flying⟩

end PaladinsCat.Deployment
