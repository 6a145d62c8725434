import PaladinsCat.Interleaving
import PaladinsCat.Text

/-!
The deployment state (deployment.rs) and the requests that it admits (foundation.rs,
routes/admin/deployment.rs). A lock section of the state, an access to the request counter
and a read of the clock are one step each; so is all that a request does between its
admission and the release of its guard.
-/

namespace PaladinsCat.Deployment

open Interleaving Program

inductive DeploymentPhase where
  | idle
  | announced
  | draining
  | switching
  | warming
  | complete
  | failed
  deriving DecidableEq

def DeploymentPhase.isBlocking : DeploymentPhase → Bool
  | .draining | .switching | .warming => true
  | _ => false

/-- Times are in nanoseconds; the texts of the source keep them to the millisecond. A missing
expiry stands for a text that is no timestamp, too. -/
structure DeploymentState where
  id : String := ""
  phase : DeploymentPhase := .idle
  message : Option String := none
  startedAt : Option Int := none
  updatedAt : Int := 0
  expiresAt : Option Int := none
  deriving DecidableEq

structure DeploymentStateInput where
  id : String
  phase : DeploymentPhase
  message : Option String := none
  ttlSeconds : Option Nat := none

inductive DeploymentError where
  | missingDeploymentId
  | redisUnavailable
  deriving DecidableEq

/-- `format_json_timestamp`, read back. -/
def formatJsonTimestamp (now : Int) : Int := now / 1000000 * 1000000

def idleState (now : Int) : DeploymentState := { updatedAt := formatJsonTimestamp now }

def isExpired (state : DeploymentState) (now : Int) : Bool := state.expiresAt.any fun expiresAt => expiresAt ≤ now

def truncateChars (value : String) (limit : Nat) : String := String.ofList (value.toList.take limit)

def buildState (input : DeploymentStateInput) (previous : DeploymentState) (now : Int) :
    Except DeploymentError (DeploymentState × Nat) :=
  let id := truncateChars (Text.trim input.id) 128
  if id = "" ∧ input.phase ≠ .idle then .error .missingDeploymentId
  else
    let ttlSeconds := min (max (input.ttlSeconds.getD 1800) 30) 7200
    .ok (
      { id
        phase := input.phase
        message := ((input.message.map Text.trim).filter (· ≠ "")).map fun value => truncateChars value 500
        startedAt :=
          if previous.id = id then previous.startedAt.or (some (formatJsonTimestamp now))
          else some (formatJsonTimestamp now)
        updatedAt := formatJsonTimestamp now
        expiresAt := some (formatJsonTimestamp (now + ttlSeconds * 1000000000)) },
      ttlSeconds)

/-! ### Steps -/

/-- The shared part of a backend process. -/
structure Foundation where
  localState : DeploymentState := {}
  active : Nat := 0
  clock : Int := 0

inductive FoundationOp where
  | nowUtc
  | readLocal (now : Int)
  | expireLocal (now : Int)
  | setRequired (state : DeploymentState) (ttlSeconds : Nat)
  | applyLocal (state : DeploymentState)
  | begin
  | handle
  | dropGuard
  | handleUncounted
  | waitForZero (seconds : Nat)
  | count

abbrev FoundationOp.Reply : FoundationOp → Type
  | .nowUtc => Int
  | .readLocal _ => DeploymentState
  | .setRequired _ _ => Bool
  | .waitForZero _ => Bool
  | .count => Nat
  | _ => Unit

structure Outside where
  now : Int := 0
  persisted : Bool := true
  timedOut : Bool := false

/-- `wait_for_zero` returns in a step that has read a zero, or when its time is up. -/
def serve : Service Foundation FoundationOp FoundationOp.Reply Outside :=
  fun before op outside =>
    match op with
    | .nowUtc => if outside.now < before.clock then none else some (outside.now, { before with clock := outside.now })
    | .readLocal _ => some (before.localState, before)
    | .expireLocal now => some ((), { before with localState := idleState now })
    | .setRequired _ _ => some (outside.persisted, before)
    | .applyLocal state => some ((), { before with localState := state })
    | .begin => some ((), { before with active := before.active + 1 })
    | .dropGuard => some ((), { before with active := before.active - 1 })
    | .handle | .handleUncounted => some ((), before)
    | .waitForZero _ =>
        if outside.timedOut then some (false, before) else if before.active = 0 then some (true, before) else none
    | .count => some (before.active, before)

abbrev FoundationProgram (α : Type) : Type := Program FoundationOp FoundationOp.Reply α

def localStateAt (now : Int) : FoundationProgram DeploymentState := do
  let current ← perform (FoundationOp.readLocal now)
  if isExpired current now then
    perform (FoundationOp.expireLocal now)
    return idleState now
  else return current

def localState : FoundationProgram DeploymentState := do
  let now ← perform FoundationOp.nowUtc
  localStateAt now

def setState (input : DeploymentStateInput) : FoundationProgram (Except DeploymentError DeploymentState) := do
  let now ← perform FoundationOp.nowUtc
  let previous ← localStateAt now
  match buildState input previous now with
  | .error error => return .error error
  | .ok (state, ttlSeconds) =>
      let persisted ← perform (FoundationOp.setRequired state ttlSeconds)
      if persisted then
        perform (FoundationOp.applyLocal state)
        return .ok state
      else return .error .redisUnavailable

/-! ### Requests -/

structure Request where
  effectivePath : String
  internal : Bool := false
  /-- The cookie check or a preflight answers it before the gate. -/
  answeredEarly : Bool := false

def bypassesDeploymentGate (path : String) : Bool :=
  ["/health", "/migration/", "/schedulers", "/deployment/status", "/admin/deployment"].any fun start =>
    start.toList.isPrefixOf path.toList

def Request.bypassDeployment (request : Request) : Bool :=
  request.internal || bypassesDeploymentGate request.effectivePath

/-- What the calls of a process come to. -/
inductive Outcome where
  | state (state : DeploymentState)
  | set (result : Except DeploymentError DeploymentState)
  | response
  | blocked (state : DeploymentState)
  | drain (state : DeploymentState) (drained : Bool) (activeRequests : Nat)
  | rejected

def applicationFoundation (request : Request) : FoundationProgram Outcome :=
  if request.answeredEarly then return .response
  else if request.bypassDeployment then do
    perform FoundationOp.handleUncounted
    return .response
  else do
    let deployment ← localState
    if deployment.phase.isBlocking then return .blocked deployment
    else
      perform FoundationOp.begin
      perform FoundationOp.handle
      perform FoundationOp.dropGuard
      return .response

structure DrainBody where
  id : String
  message : Option String := none
  ttlSeconds : Option Nat := none
  timeoutSeconds : Option Nat := none

def drain (body : DrainBody) : FoundationProgram Outcome :=
  if Text.trim body.id = "" then return .rejected
  else do
    match ← setState { id := body.id, phase := .draining, message := body.message, ttlSeconds := body.ttlSeconds } with
    | .error _ => return .rejected
    | .ok deployment =>
        let drained ← perform (FoundationOp.waitForZero (min (max (body.timeoutSeconds.getD 90) 5) 300))
        let activeRequests ← perform FoundationOp.count
        return .drain deployment drained activeRequests

inductive FoundationCall where
  | localStateAt (now : Int)
  | localState
  | setState (input : DeploymentStateInput)
  | request (request : Request)
  | drain (body : DrainBody)

def foundationCode : FoundationCall → FoundationProgram Outcome
  | .localStateAt now => do return .state (← localStateAt now)
  | .localState => do return .state (← localState)
  | .setState input => do return .set (← setState input)
  | .request request => applicationFoundation request
  | .drain body => drain body

theorem localStateAt_eq (now : Int) :
    localStateAt now = .call (.readLocal now) fun current =>
      if isExpired current now then .call (.expireLocal now) fun _ => .done (idleState now) else .done current := by
  simp only [localStateAt, perform_bind]
  rfl

/-! ### A state lasts until it expires -/

section Lasting
variable {Call α : Type} {code : Call → FoundationProgram α} {start : Foundation}
  {history : List (Turn Foundation FoundationOp FoundationOp.Reply α)}
  {state : State Foundation FoundationOp FoundationOp.Reply α}

/-- The last state that a `set_state` has put in place. -/
def lastApplied (history : List (Turn Foundation FoundationOp FoundationOp.Reply α)) : Option DeploymentState :=
  history.foldl (fun last turn =>
    match turn.op with
    | .applyLocal state => some state
    | _ => last) none

@[simp] theorem lastApplied_append {turn : Turn Foundation FoundationOp FoundationOp.Reply α} :
    lastApplied (history ++ [turn]) =
      match turn.op with
      | .applyLocal state => some state
      | _ => lastApplied history := by
  simp [lastApplied]

/-- A reader that is not late for this state gets it. -/
def FoundationOp.returns (state : DeploymentState) : (op : FoundationOp) → op.Reply → Bool
  | .readLocal now => fun found : DeploymentState => isExpired state now || decide (found = state)
  | _ => fun _ => true

/-- Every reader gets the last state that was set, until it has expired. -/
def StateLasts (history : List (Turn Foundation FoundationOp FoundationOp.Reply α)) : Prop :=
  Throughout (fun earlier turn =>
    ((lastApplied earlier).all fun state => turn.op.returns state turn.reply) = true) history

/-- The time for which a lock section of a reader decides. -/
def FoundationOp.sectionTime : FoundationOp → Option Int
  | .readLocal now | .expireLocal now => some now
  | _ => none

def FoundationOp.notBefore (earlier : FoundationOp) : FoundationOp → Bool
  | .readLocal now => earlier.sectionTime.all fun time => decide (time ≤ now)
  | _ => true

/-- The readers get to the state in the order of their times. -/
def ReadInOrder (history : List (Turn Foundation FoundationOp FoundationOp.Reply α)) : Prop :=
  Throughout (fun earlier turn => (earlier.all fun other => other.op.notBefore turn.op) = true) history

def Foundation.expiredFor (before : Foundation) : FoundationOp → Bool
  | .expireLocal now => isExpired before.localState now
  | _ => true

/-- What a reader overwrites has expired: no other state has been set since it looked. -/
def OverwritesExpired (history : List (Turn Foundation FoundationOp FoundationOp.Reply α)) : Prop :=
  Throughout (fun _ turn => turn.before.expiredFor turn.op = true) history

instance : Decidable (StateLasts history) := inferInstanceAs (Decidable (Throughout _ history))
instance : Decidable (ReadInOrder history) := inferInstanceAs (Decidable (Throughout _ history))
instance : Decidable (OverwritesExpired history) := inferInstanceAs (Decidable (Throughout _ history))

theorem isExpired_mono {state : DeploymentState} {time now : Int} (expired : isExpired state time = true)
    (later : time ≤ now) : isExpired state now = true := by
  simp only [isExpired, Option.any_eq_true, decide_eq_true_eq] at expired ⊢
  obtain ⟨expiresAt, known, passed⟩ := expired
  exact ⟨expiresAt, known, passed.trans later⟩

/-- The last state that was set is in place, or a reader has come that found it expired. -/
def InPlace (history : List (Turn Foundation FoundationOp FoundationOp.Reply α)) (shared : Foundation) : Prop :=
  ∀ last, lastApplied history = some last → shared.localState = last ∨
    ∃ turn ∈ history, ∃ time, turn.op.sectionTime = some time ∧ isExpired last time = true

theorem inPlace_step {earlier : List (Turn Foundation FoundationOp FoundationOp.Reply α)}
    {turn : Turn Foundation FoundationOp FoundationOp.Reply α}
    (served : serve.handler turn.before turn.op turn.reply turn.after) (placed : InPlace earlier turn.before)
    (expired : turn.before.expiredFor turn.op = true) : InPlace (earlier ++ [turn]) turn.after := by
  obtain ⟨⟨before, op, reply, after⟩, task, programs⟩ := turn
  obtain ⟨outside, served⟩ := served
  intro last applied
  rw [lastApplied_append] at applied
  dsimp only at *
  have kept : after.localState = before.localState → lastApplied earlier = some last →
      after.localState = last ∨ ∃ turn ∈ earlier ++ [⟨⟨before, op, reply, after⟩, task, programs⟩],
        ∃ time, turn.op.sectionTime = some time ∧ isExpired last time = true := by
    intro same known
    rcases placed last known with there | ⟨reader, member, found⟩
    · exact Or.inl (same.trans there)
    · exact Or.inr ⟨reader, List.mem_append_left _ member, found⟩
  cases op with
  | applyLocal state =>
      cases served
      exact Or.inl (Option.some.inj applied)
  | expireLocal now =>
      rcases placed last applied with there | ⟨reader, member, found⟩
      · exact Or.inr ⟨_, List.mem_append_right _ (List.mem_singleton_self _), now, rfl, there ▸ expired⟩
      · exact Or.inr ⟨reader, List.mem_append_left _ member, found⟩
  | nowUtc =>
      simp only [serve] at served
      split at served <;> cases served
      exact kept rfl applied
  | waitForZero seconds =>
      simp only [serve] at served
      split_ifs at served <;> cases served <;> exact kept rfl applied
  | readLocal | setRequired | begin | handle | dropGuard | handleUncounted | count =>
      cases served
      exact kept rfl applied

theorem returns_step {earlier : List (Turn Foundation FoundationOp FoundationOp.Reply α)}
    {turn : Turn Foundation FoundationOp FoundationOp.Reply α}
    (served : serve.handler turn.before turn.op turn.reply turn.after) (placed : InPlace earlier turn.before)
    (ordered : (earlier.all fun other => other.op.notBefore turn.op) = true) :
    ((lastApplied earlier).all fun state => turn.op.returns state turn.reply) = true := by
  obtain ⟨⟨before, op, reply, after⟩, task, programs⟩ := turn
  rw [Option.all_eq_true]
  intro last applied
  dsimp only at *
  cases op with
  | readLocal now =>
      obtain ⟨outside, served⟩ := served
      cases served
      simp only [FoundationOp.returns, Bool.or_eq_true, decide_eq_true_eq]
      rcases placed last applied with there | ⟨reader, member, time, decided, expired⟩
      · exact Or.inr there
      · have early := List.all_eq_true.mp ordered reader member
        simp only [FoundationOp.notBefore, decided, Option.all_some, decide_eq_true_eq] at early
        exact Or.inl (isExpired_mono expired early)
  | _ => rfl

/-- For any number of readers and writers and any other programs, in any order of their steps. -/
theorem state_lasts_until_expiry (run : Run serve.handler code ⟨start, []⟩ history state)
    (ordered : ReadInOrder history) (overwritten : OverwritesExpired history) : StateLasts history := by
  refine (run_throughout InPlace ?_ run (by simp [InPlace, lastApplied]) fun earlier turn later split =>
    And.intro (ordered earlier turn later split) (overwritten earlier turn later split)).2
  rintro earlier turn placed served ⟨inOrder, expired⟩
  exact ⟨inPlace_step served placed expired, returns_step served placed inOrder⟩

end Lasting

abbrev FoundationTurn : Type := Turn Foundation FoundationOp FoundationOp.Reply Outcome

abbrev FoundationState : Type := State Foundation FoundationOp FoundationOp.Reply Outcome

abbrev FoundationRun (start : Foundation) (history : List FoundationTurn) (state : FoundationState) : Prop :=
  Run serve.handler foundationCode ⟨start, []⟩ history state

/-- A deployment whose announcement has just expired. -/
def announced : Foundation where
  localState := { id := "7", phase := .announced, expiresAt := some 30000000000 }

/-- The announcement expires for a reader, and then a drain is set. -/
theorem drain_lasts_after_the_expiry :
    ∃ history state, FoundationRun announced history state ∧ StateLasts history := by
  have passed : (replay serve foundationCode ⟨announced, []⟩
      [.enter .localState, .turn 0 { now := 30000000000 }, .turn 0 {}, .turn 0 {},
        .enter (.setState { id := "8", phase := .draining }), .turn 1 { now := 31000000000 }, .turn 1 {}, .turn 1 {},
        .turn 1 {}, .enter .localState, .turn 2 { now := 32000000000 }, .turn 2 {}]).any
      (fun reached => decide (ReadInOrder reached.1) && decide (OverwritesExpired reached.1)) = true := by
    decide +kernel
  obtain ⟨history, state, run, tested⟩ := replay_reaches passed
  simp only [Bool.and_eq_true, decide_eq_true_eq] at tested
  exact ⟨history, state, run, state_lasts_until_expiry run tested.1 tested.2⟩

/-- A reader has found the announcement expired; before it says so, a drain is set. The next reader
is told that the process is idle. -/
theorem late_reader_forgets_the_drain :
    ∃ history state, FoundationRun announced history state ∧ ReadInOrder history ∧ ¬ StateLasts history := by
  have passed : (replay serve foundationCode ⟨announced, []⟩
      [.enter .localState, .turn 0 { now := 30000000000 }, .turn 0 {},
        .enter (.setState { id := "8", phase := .draining }), .turn 1 { now := 30000000000 }, .turn 1 {}, .turn 1 {},
        .turn 1 {}, .turn 1 {}, .turn 0 {}, .enter .localState, .turn 2 { now := 31000000000 }, .turn 2 {}]).any
      (fun reached => decide (ReadInOrder reached.1) && !decide (StateLasts reached.1)) = true := by
    decide +kernel
  obtain ⟨history, state, run, tested⟩ := replay_reaches passed
  simp only [Bool.and_eq_true, decide_eq_true_eq, Bool.not_eq_true', decide_eq_false_iff_not] at tested
  exact ⟨history, state, run, tested.1, tested.2⟩

end PaladinsCat.Deployment
