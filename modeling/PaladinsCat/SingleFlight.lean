import PaladinsCat.SessionCache

/-!
One `createsession` for all who wait for it. `acquire_session` looks into the
cache, takes the lock of the key, looks again, and creates a session if there
still is none. Each look removes what it has not found fresh, as a step of its
own and, the first time, outside the lock.
-/

namespace PaladinsCat.Hirez

open Interleaving KeyPool

/-! ### The phases of acquire_session -/

inductive AcquirePhase where
  -- looks into the cache, with the lock or without
  | looking (inside : Bool)
  -- has read the clock
  | timed (inside : Bool) (now : Int)
  -- found nothing fresh, and is to remove it
  | missed (inside : Bool)
  | waiting
  -- has the lock, and found no session
  | creating
  -- has the lock, and a session
  | holding (session : Session)
  | returning (session : Session)
  | failed

namespace AcquirePhase

def hasLock : AcquirePhase → Bool
  | .looking inside | .timed inside _ | .missed inside => inside
  | .creating | .holding _ => true
  | _ => false

def sawNone : AcquirePhase → Bool
  | .missed inside => inside
  | .creating => true
  | _ => false

def session : AcquirePhase → Option Session
  | .holding session | .returning session => some session
  | _ => none

def reading : AcquirePhase → Option Int
  | .timed _ now => some now
  | _ => none

def afterHit (inside : Bool) (session : Session) : AcquirePhase :=
  if inside then .holding session else .returning session

def afterMiss (inside : Bool) : AcquirePhase := if inside then .creating else .waiting

theorem hasLock_of_sawNone {phase : AcquirePhase} (saw : phase.sawNone = true) :
    phase.hasLock = true := by
  cases phase <;> simp_all [sawNone, hasLock]

end AcquirePhase

/-- The calls that a creation makes around its insertion. -/
def ClientOp.createsAround : ClientOp → Bool
  | .unixMillis | .incrementUsage _ | .get _ _ | .logEndpoint _ _ _ _ | .recordSuccess _
  | .recordFailure _ _ | .saveAudit _ => true
  | _ => false

def acquireNext (devId : String) : AcquirePhase → (op : ClientOp) → op.Reply → Option AcquirePhase
  | .looking inside, .unixMillis, now => some (.timed inside now)
  | .timed inside now, .readSession asked, found =>
      if asked = devId then
        match found.filter fun session => decide (now < session.expiresAtMs) with
        | some session => some (.afterHit inside session)
        | none => some (.missed inside)
      else none
  | .missed inside, .removeSession removed, _ =>
      if removed = devId then some (.afterMiss inside) else none
  | .waiting, .lockKey locked, _ => if locked = devId then some (.looking true) else none
  | .creating, .insertSession stored session, _ => if stored = devId then some (.holding session) else none
  | .creating, .unlockKey unlocked, _ => if unlocked = devId then some .failed else none
  | .creating, op, _ => if op.createsAround then some .creating else none
  | .holding session, .unlockKey unlocked, _ =>
      if unlocked = devId then some (.returning session) else none
  | _, _, _ => none

def Acquired : AcquirePhase → Except UpstreamError Session → Prop
  | .returning session, .ok result => result = session
  | .failed, .error _ => True
  | _, _ => False

section Programs
variable {client : Client} {devId : String}

theorem getSession_acquires (inside : Bool) :
    Follows (acquireNext devId) (fun phase result => phase = match result with
      | some session => .afterHit inside session
      | none => .afterMiss inside) (.looking inside) (getSession devId) := by
  simp only [getSession, Program.perform_bind]
  intro now
  refine ⟨.timed inside now, rfl, fun found => ?_⟩
  simp only [acquireNext, ↓reduceIte]
  cases found.filter fun session => decide (now < session.expiresAtMs) with
  | some session => exact ⟨_, rfl, rfl⟩
  | none => exact ⟨_, rfl, fun _ => ⟨_, by simp [acquireNext], rfl⟩⟩

-- The outcome of a creation: an error, or the session it has stored.
def Created (phase : AcquirePhase) (result : Except UpstreamError Session) : Prop :=
  (phase = .creating ∧ ∃ error, result = .error error) ∨
    ∃ session, phase = .holding session ∧ result = .ok session

theorem creating_fails (error : UpstreamError) :
    Follows (acquireNext devId) Created .creating (.done (.error error)) := Or.inl ⟨rfl, error, rfl⟩

theorem creating_call {α : Type} {post : AcquirePhase → α → Prop} {op : ClientOp}
    {rest : op.Reply → ClientProgram α} (around : op.createsAround = true)
    (continues : ∀ reply, Follows (acquireNext devId) post .creating (rest reply)) :
    Follows (acquireNext devId) post .creating (.call op rest) := by
  refine fun reply => ⟨.creating, ?_, continues reply⟩
  cases op <;> first | rfl | simp [ClientOp.createsAround] at around

theorem creating_stores (session : Session) :
    Follows (acquireNext devId) Created .creating
      (.call (.insertSession devId session) fun _ => .done (.ok session)) :=
  fun _ => ⟨.holding session, by simp [acquireNext], Or.inr ⟨session, rfl, rfl⟩⟩

theorem storeSession_acquires (authKey : String) (statusCode elapsed : Nat) (data : Value) :
    Follows (acquireNext devId) Created .creating
      (storeSession client ⟨devId, authKey⟩ statusCode elapsed data) := by
  simp only [storeSession, Program.perform_bind]
  split
  · exact creating_call rfl fun _ => creating_fails _
  · refine creating_call rfl fun _ => creating_call rfl fun _ => ?_
    split
    · exact creating_fails _
    · exact creating_call rfl fun now => creating_stores _

theorem createSession_acquires (authKey : String) :
    Follows (acquireNext devId) Created .creating (createSession client ⟨devId, authKey⟩) := by
  simp only [createSession, hirezTimestamp, Program.perform_bind, Program.call_bind]
  refine creating_call rfl fun millis => ?_
  simp only [Program.pure_eq_done, Program.done_bind]
  rcases (client.formatTimestamp (millis / 1000)).mapError UpstreamError.configuration
    with error | timestamp
  · exact creating_fails _
  refine creating_call rfl fun _ => creating_call rfl fun reply => creating_call rfl fun _ => ?_
  rcases reply with ⟨error | response, elapsed⟩
  · exact creating_call rfl fun _ => creating_fails _
  dsimp only
  split
  · exact creating_call rfl fun _ => creating_fails _
  · split
    · exact creating_call rfl fun _ => creating_fails _
    · exact storeSession_acquires authKey _ _ _

theorem acquireSession_acquires (authKey : String) :
    Follows (acquireNext devId) Acquired (.looking false) (acquireSession client ⟨devId, authKey⟩) := by
  simp only [acquireSession, Program.perform_bind]
  refine follows_bind.mpr (follows_mono ?_ (getSession_acquires false))
  rintro phase (_ | session) rfl
  · intro _
    refine ⟨.looking true, by simp [acquireNext, AcquirePhase.afterMiss], ?_⟩
    have locked : Follows (acquireNext devId) Created (.looking true)
        (acquireLocked client ⟨devId, authKey⟩) := by
      refine follows_bind.mpr (follows_mono ?_ (getSession_acquires true))
      rintro phase (_ | session) rfl
      · exact createSession_acquires authKey
      · exact Or.inr ⟨session, rfl, rfl⟩
    refine follows_bind.mpr (follows_mono ?_ locked)
    rintro phase result (⟨rfl, error, rfl⟩ | ⟨session, rfl, rfl⟩)
    · exact fun _ => ⟨.failed, by simp [acquireNext], trivial⟩
    · exact fun _ => ⟨.returning session, by simp [acquireNext], rfl⟩
  · exact rfl

end Programs

inductive AcquireStep (devId : String) :
    AcquirePhase → (op : ClientOp) → op.Reply → AcquirePhase → Prop where
  | time (inside : Bool) (now : Int) : AcquireStep devId (.looking inside) .unixMillis now (.timed inside now)
  | hit (inside : Bool) (now : Int) (session : Session) (fresh : now < session.expiresAtMs) :
      AcquireStep devId (.timed inside now) (.readSession devId) (some session) (.afterHit inside session)
  | miss (inside : Bool) (now : Int) (found : Option Session)
      (stale : ∀ session, found = some session → session.expiresAtMs ≤ now) :
      AcquireStep devId (.timed inside now) (.readSession devId) found (.missed inside)
  | remove (inside : Bool) :
      AcquireStep devId (.missed inside) (.removeSession devId) () (.afterMiss inside)
  | lock : AcquireStep devId .waiting (.lockKey devId) () (.looking true)
  | create (op : ClientOp) (reply : op.Reply) (around : op.createsAround = true) :
      AcquireStep devId .creating op reply .creating
  | insert (session : Session) :
      AcquireStep devId .creating (.insertSession devId session) () (.holding session)
  | fail : AcquireStep devId .creating (.unlockKey devId) () .failed
  | unlock (session : Session) :
      AcquireStep devId (.holding session) (.unlockKey devId) () (.returning session)

theorem acquireNext_step {devId : String} {phase after : AcquirePhase} {op : ClientOp} {reply : op.Reply}
    (allowed : acquireNext devId phase op reply = some after) :
    AcquireStep devId phase op reply after := by
  cases phase with
  | looking inside =>
      cases op <;> simp only [acquireNext, reduceCtorEq, Option.some.injEq] at allowed
      subst allowed
      exact .time inside _
  | timed inside now =>
      cases op <;> simp only [acquireNext, reduceCtorEq] at allowed
      split at allowed
      · rename_i asked same
        subst same
        split at allowed
        · rename_i session kept
          obtain ⟨rfl, fresh⟩ := Option.filter_eq_some_iff.mp kept
          obtain rfl := Option.some.inj allowed
          exact .hit inside now session (of_decide_eq_true fresh)
        · rename_i gone
          obtain rfl := Option.some.inj allowed
          refine .miss inside now _ fun session found => ?_
          simpa [found] using gone
      · simp at allowed
  | missed inside =>
      cases op <;> simp only [acquireNext, reduceCtorEq, Option.ite_none_right_eq_some,
        Option.some.injEq] at allowed
      obtain ⟨rfl, rfl⟩ := allowed
      exact .remove inside
  | waiting =>
      cases op <;> simp only [acquireNext, reduceCtorEq, Option.ite_none_right_eq_some,
        Option.some.injEq] at allowed
      obtain ⟨rfl, rfl⟩ := allowed
      exact .lock
  | creating =>
      cases op <;> simp only [acquireNext, ClientOp.createsAround, reduceCtorEq, ↓reduceIte,
        Bool.false_eq_true, Option.ite_none_right_eq_some, Option.some.injEq] at allowed
      case insertSession =>
        obtain ⟨rfl, rfl⟩ := allowed
        exact .insert _
      case unlockKey =>
        obtain ⟨rfl, rfl⟩ := allowed
        exact .fail
      all_goals
        subst allowed
        exact .create _ _ rfl
  | holding session =>
      cases op <;> simp only [acquireNext, reduceCtorEq, Option.ite_none_right_eq_some,
        Option.some.injEq] at allowed
      obtain ⟨rfl, rfl⟩ := allowed
      exact .unlock session
  | returning session => simp [acquireNext] at allowed
  | failed => simp [acquireNext] at allowed

/-! ### One flight -/

def ClientOp.stores : ClientOp → Option Session
  | .insertSession _ session => some session
  | _ => none

-- The clock never goes back, and only five calls touch the cache or a lock.
theorem serveSessions_quiet {before after : Sessions} {op : ClientOp} {reply : op.Reply}
    (answered : serveSessions.handler before op reply after) :
    before.now ≤ after.now ∧
      (op.removes = none → op.stores = none → after.cache = before.cache) ∧
      ((∀ devId, op ≠ .lockKey devId ∧ op ≠ .unlockKey devId) → after.locked = before.locked) := by
  obtain ⟨outside, answered⟩ := answered
  have forward : before.now ≤ before.now + outside.advance := by omega
  cases op <;> simp only [serveSessions, answerAt, Option.some.injEq, Prod.mk.injEq,
    Option.ite_none_left_eq_some] at answered
  case lockKey devId =>
    obtain ⟨-, -, rfl⟩ := answered
    simp [Sessions.setLocked, forward]
  all_goals
    obtain ⟨-, rfl⟩ := answered
    simp [Sessions.store, Sessions.setLocked, ClientOp.removes, ClientOp.stores, forward]

theorem createsAround_quiet {op : ClientOp} (around : op.createsAround = true) :
    op.removes = none ∧ op.stores = none ∧ ∀ devId, op ≠ .lockKey devId ∧ op ≠ .unlockKey devId := by
  cases op <;> simp_all [ClientOp.createsAround, ClientOp.removes, ClientOp.stores]

/-- What the phase of a caller says about the shared state. -/
structure Fits (devId : String) (sessions : Sessions) (phase : AcquirePhase) : Prop where
  locked : phase.hasLock = true → sessions.locked devId = true
  absent : phase.sawNone = true → sessions.cache devId = none
  present : ∀ session, phase.session = some session → sessions.cache devId = some session
  past : ∀ now, phase.reading = some now → now ≤ sessions.now

abbrev AcquireTurn := SessionTurn (Except UpstreamError Session)

structure Flight (devId : String) (history : List AcquireTurn) (sessions : Sessions)
    (phases : List AcquirePhase) : Prop where
  fits : ∀ (task : Nat) phase, phases[task]? = some phase → Fits devId sessions phase
  -- One caller has the lock.
  alone : ∀ (task other : Nat) phase second, phases[task]? = some phase → phases[other]? = some second →
    phase.hasLock = true → second.hasLock = true → task = other
  stored : ∀ turn ∈ history, ∀ session, turn.op.stores = some session →
    sessions.cache devId = some session
  once : (history.filterMap (·.op.stores)).length ≤ 1

/-- No session has expired by the end of the turn, -/
def unexpiredAfter (devId : String) (turn : AcquireTurn) : Bool :=
  (turn.after.cache devId).all fun session => decide (turn.after.now < session.expiresAtMs)

/-- and a removal finds none. -/
def removesNone (devId : String) (turn : AcquireTurn) : Bool :=
  decide (turn.op.removes = some devId → turn.before.cache devId = none)

section Steps
variable {devId : String} {history : List AcquireTurn} {phases : List AcquirePhase}
  {phase after : AcquirePhase} {turn : AcquireTurn}

theorem fits_quiet {before sessions : Sessions} (fits : Fits devId before phase)
    (sameCache : sessions.cache devId = before.cache devId)
    (stillLocked : before.locked devId = true → sessions.locked devId = true)
    (forward : before.now ≤ sessions.now) : Fits devId sessions phase where
  locked owns := stillLocked (fits.locked owns)
  absent saw := sameCache.trans (fits.absent saw)
  present session has := sameCache.trans (fits.present session has)
  past now read := (fits.past now read).trans forward

theorem fits_free {sessions : Sessions} (free : phase.hasLock = false) (empty : phase.session = none)
    (untimed : phase.reading = none) : Fits devId sessions phase where
  locked owns := by simp [free] at owns
  absent saw := by simp [AcquirePhase.hasLock_of_sawNone saw] at free
  present _ has := by simp [empty] at has
  past _ read := by simp [untimed] at read

-- A caller that moves: the others have to fit the state it leaves, and it may
-- get the lock only if nobody has it.
theorem flight_moves (held : Flight devId history turn.before phases)
    (found : phases[turn.task]? = some phase)
    (others : ∀ (task : Nat) other, task ≠ turn.task → phases[task]? = some other → Fits devId turn.after other)
    (own : Fits devId turn.after after)
    (sole : after.hasLock = true → phase.hasLock = true ∨ turn.before.locked devId = false)
    (stored : ∀ session, turn.before.cache devId = some session ∨ turn.op.stores = some session →
      turn.after.cache devId = some session)
    (once : turn.op.stores.isSome = true → turn.before.cache devId = none) :
    Flight devId (history ++ [turn]) turn.after (phases.set turn.task after) := by
  have inside : turn.task < phases.length := (List.getElem?_eq_some_iff.mp found).1
  -- if the caller has the lock afterwards, no other caller had it before
  have own_lock : after.hasLock = true → ∀ (task : Nat) other, phases[task]? = some other →
      other.hasLock = true → task = turn.task := by
    intro owns task other foundOther ownsOther
    rcases sole owns with owned | free
    · exact held.alone _ _ _ _ foundOther found ownsOther owned
    · exact absurd ((held.fits _ _ foundOther).locked ownsOther) (by simp [free])
  constructor
  · intro task other foundOther
    by_cases same : task = turn.task
    · subst same
      obtain rfl : after = other := by simpa [List.getElem?_set, inside] using foundOther
      exact own
    · refine others task other same ?_
      simpa [List.getElem?_set, Ne.symm same] using foundOther
  · intro task other first second foundFirst foundSecond ownsFirst ownsSecond
    rw [List.getElem?_set] at foundFirst foundSecond
    split at foundFirst <;> split at foundSecond
    · omega
    · rename_i here _
      obtain rfl : after = first := by simpa [inside] using foundFirst
      exact here.symm.trans (own_lock ownsFirst _ _ foundSecond ownsSecond).symm
    · rename_i _ here
      obtain rfl : after = second := by simpa [inside] using foundSecond
      exact (own_lock ownsSecond _ _ foundFirst ownsFirst).trans here
    · exact held.alone _ _ _ _ foundFirst foundSecond ownsFirst ownsSecond
  · intro storing member session stores
    rcases List.mem_append.mp member with earlier | now
    · exact stored session (Or.inl (held.stored storing earlier session stores))
    · obtain rfl := List.mem_singleton.mp now
      exact stored session (Or.inr stores)
  · have bound := held.once
    rw [List.filterMap_append, List.length_append]
    cases stores : turn.op.stores with
    | none => simpa [List.filterMap_cons, stores] using bound
    | some session =>
        have empty := once (by simp [stores])
        have none_stored : history.filterMap (·.op.stores) = [] := by
          refine List.filterMap_eq_nil_iff.mpr fun storing member => ?_
          cases storedBefore : storing.op.stores with
          | none => rfl
          | some older => simp [held.stored storing member older storedBefore] at empty
        simp [none_stored, stores]

theorem flight_joins {sessions : Sessions} (held : Flight devId history sessions phases) :
    Flight devId history sessions (phases ++ [.looking false]) := by
  refine ⟨fun task phase found => ?_, fun task other phase second found foundOther owns ownsOther => ?_,
    held.stored, held.once⟩
  · rcases getElem?_append_singleton found with before | rfl
    · exact held.fits task phase before
    · exact fits_free rfl rfl rfl
  · rcases getElem?_append_singleton found with before | rfl
    · rcases getElem?_append_singleton foundOther with beforeOther | rfl
      · exact held.alone _ _ _ _ before beforeOther owns ownsOther
      · cases ownsOther
    · cases owns

theorem flight_quiet (held : Flight devId history turn.before phases)
    (found : phases[turn.task]? = some phase)
    (sameCache : turn.after.cache devId = turn.before.cache devId)
    (sameLocked : turn.after.locked devId = turn.before.locked devId)
    (forward : turn.before.now ≤ turn.after.now) (stores : turn.op.stores = none)
    (sameLock : after.hasLock = phase.hasLock) (own : Fits devId turn.after after) :
    Flight devId (history ++ [turn]) turn.after (phases.set turn.task after) := by
  refine flight_moves held found ?_ own (fun owns => Or.inl (sameLock ▸ owns)) ?_ (by simp [stores])
  · intro task other _ foundOther
    exact fits_quiet (held.fits task other foundOther) sameCache (sameLocked ▸ id) forward
  · rintro session (cached | new)
    · exact sameCache.trans cached
    · simp [stores] at new

theorem flight_unlock (held : Flight devId history turn.before phases)
    (found : phases[turn.task]? = some phase) (owned : phase.hasLock = true)
    (sameCache : turn.after.cache devId = turn.before.cache devId)
    (forward : turn.before.now ≤ turn.after.now) (stores : turn.op.stores = none)
    (released : after.hasLock = false) (own : Fits devId turn.after after) :
    Flight devId (history ++ [turn]) turn.after (phases.set turn.task after) := by
  refine flight_moves held found ?_ own (by simp [released]) ?_ (by simp [stores])
  · intro task other apart foundOther
    have fits := held.fits task other foundOther
    refine ⟨fun owns => ?_, fun saw => sameCache.trans (fits.absent saw),
      fun session has => sameCache.trans (fits.present session has),
      fun now read => (fits.past now read).trans forward⟩
    exact absurd (held.alone _ _ _ _ foundOther found owns owned) apart
  · rintro session (cached | new)
    · exact sameCache.trans cached
    · simp [stores] at new

-- The one that found no session stores one: no other caller has a session yet,
-- and no other is to create one.
theorem flight_insert (held : Flight devId history turn.before phases)
    (found : phases[turn.task]? = some .creating) {session : Session}
    (cached : turn.after.cache devId = some session)
    (sameLocked : turn.after.locked devId = turn.before.locked devId)
    (forward : turn.before.now ≤ turn.after.now) (stores : turn.op.stores = some session) :
    Flight devId (history ++ [turn]) turn.after (phases.set turn.task (.holding session)) := by
  have creating := held.fits _ _ found
  have empty := creating.absent rfl
  refine flight_moves held found ?_ ?_ (fun _ => Or.inl rfl) ?_ (fun _ => empty)
  · intro task other apart foundOther
    have fits := held.fits task other foundOther
    refine ⟨fun owns => sameLocked.trans (fits.locked owns), fun saw => ?_, fun older has => ?_,
      fun now read => (fits.past now read).trans forward⟩
    · exact absurd (held.alone _ _ _ _ foundOther found
        (AcquirePhase.hasLock_of_sawNone saw) rfl) apart
    · simp [fits.present older has] at empty
  · refine ⟨fun _ => sameLocked.trans (creating.locked rfl), nofun, ?_, nofun⟩
    rintro _ ⟨⟩
    exact cached
  · rintro older (before | new)
    · simp [empty] at before
    · exact cached.trans (stores.symm.trans new)

theorem flight_step (held : Flight devId history turn.before phases)
    (found : phases[turn.task]? = some phase)
    (step : AcquireStep devId phase turn.op turn.reply after)
    (answered : serveSessions.handler turn.before turn.op turn.reply turn.after)
    (unexpired : unexpiredAfter devId turn = true) (calm : removesNone devId turn = true) :
    Flight devId (history ++ [turn]) turn.after (phases.set turn.task after) := by
  obtain ⟨⟨before, op, reply, sessions⟩, task, programs⟩ := turn
  obtain ⟨forward, sameCache, sameLocked⟩ := serveSessions_quiet answered
  have fits := held.fits task phase found
  simp only [unexpiredAfter, removesNone] at held found step answered unexpired calm
  cases step with
  | time inside now =>
      have cached := sameCache rfl rfl
      have locked := sameLocked (by simp)
      refine flight_quiet held found (by rw [cached]) (by rw [locked]) forward rfl rfl ?_
      obtain ⟨outside, answered⟩ := answered
      simp only [serveSessions, answerAt, Option.some.injEq, Prod.mk.injEq] at answered
      obtain ⟨read, rfl⟩ := answered
      refine ⟨fits.locked, nofun, nofun, ?_⟩
      rintro _ ⟨⟩
      exact read.ge
  | hit inside now session fresh =>
      have cached := sameCache rfl rfl
      have locked := sameLocked (by simp)
      refine flight_quiet held found (by rw [cached]) (by rw [locked]) forward rfl
        (by cases inside <;> rfl) ?_
      obtain ⟨outside, answered⟩ := answered
      simp only [serveSessions, answerAt, Option.some.injEq, Prod.mk.injEq] at answered
      obtain ⟨read, rfl⟩ := answered
      have present : ∀ older, some session = some older → before.cache devId = some older := by
        rintro _ ⟨⟩
        exact read
      cases inside
      · exact ⟨nofun, nofun, present, nofun⟩
      · exact ⟨fun _ => fits.locked rfl, nofun, present, nofun⟩
  | miss inside now found' stale =>
      have cached := sameCache rfl rfl
      have locked := sameLocked (by simp)
      refine flight_quiet held found (by rw [cached]) (by rw [locked]) forward rfl rfl ?_
      refine ⟨fun owns => locked ▸ fits.locked owns, fun _ => ?_, nofun, nofun⟩
      obtain ⟨outside, answered⟩ := answered
      simp only [serveSessions, answerAt, Option.some.injEq, Prod.mk.injEq] at answered
      obtain ⟨rfl, rfl⟩ := answered
      cases read : before.cache devId with
      | none => rfl
      | some session =>
          -- the clock was read before: what was stale then has expired by now
          have early := fits.past now rfl
          have late : before.now + outside.advance < session.expiresAtMs := by simpa [read] using unexpired
          have := stale session read
          dsimp only at early forward
          omega
  | remove inside =>
      -- it finds nothing to remove, so the cache stays as it is
      have empty : before.cache devId = none := by simpa [ClientOp.removes] using calm
      have locked := sameLocked (by simp)
      obtain ⟨outside, answered⟩ := answered
      simp only [serveSessions, answerAt, Option.some.injEq, Prod.mk.injEq] at answered
      obtain ⟨-, rfl⟩ := answered
      refine flight_quiet held found (by simp [Sessions.store, empty]) (by rw [locked]) forward rfl
        (by cases inside <;> rfl) ?_
      cases inside
      · exact fits_free rfl rfl rfl
      · exact ⟨fun _ => fits.locked rfl, fun _ => by simp [Sessions.store], nofun, nofun⟩
  | lock =>
      obtain ⟨outside, answered⟩ := answered
      simp only [serveSessions, answerAt, Option.ite_none_left_eq_some, Option.some.injEq,
        Prod.mk.injEq] at answered
      obtain ⟨free, -, rfl⟩ := answered
      refine flight_moves held found ?_ ?_ (fun _ => Or.inr (by simpa using free))
        (by simp [Sessions.setLocked, ClientOp.stores]) (by simp [ClientOp.stores])
      · intro other second _ foundOther
        exact fits_quiet (held.fits _ _ foundOther) rfl (by simp [Sessions.setLocked]) forward
      · exact ⟨by simp [Sessions.setLocked], nofun, nofun, nofun⟩
  | create _ _ around =>
      obtain ⟨keeps, storesNone, unlocked⟩ := createsAround_quiet around
      have cached := sameCache keeps storesNone
      have locked := sameLocked unlocked
      refine flight_quiet held found (by rw [cached]) (by rw [locked]) forward storesNone rfl ?_
      exact fits_quiet fits (by rw [cached]) (by rw [locked]; exact id) forward
  | insert session =>
      have locked := sameLocked (by simp)
      obtain ⟨outside, answered⟩ := answered
      simp only [serveSessions, answerAt, Option.some.injEq, Prod.mk.injEq] at answered
      obtain ⟨-, rfl⟩ := answered
      exact flight_insert held found (by simp [Sessions.store]) (by rw [locked]) forward rfl
  | fail =>
      have cached := sameCache rfl rfl
      refine flight_unlock held found rfl (by rw [cached]) forward rfl rfl ?_
      exact fits_free rfl rfl rfl
  | unlock session =>
      have cached := sameCache rfl rfl
      refine flight_unlock held found rfl (by rw [cached]) forward rfl rfl ?_
      refine ⟨nofun, nofun, ?_, nofun⟩
      rintro _ ⟨⟩
      rw [cached]
      exact fits.present session rfl

end Steps

def createdSessions (history : List AcquireTurn) : List Session := history.filterMap (·.op.stores)

def returnedSessions (state : State Sessions ClientOp ClientOp.Reply (Except UpstreamError Session)) :
    List Session :=
  state.programs.filterMap fun program => program.result.bind Except.toOption

abbrev acquireFor (client : Client) (devId authKey : String) :
    ClientProgram (Except UpstreamError Session) := acquireSession client ⟨devId, authKey⟩

section Runs
variable {client : Client} {devId : String} {start : Sessions} {history : List AcquireTurn}
  {state : State Sessions ClientOp ClientOp.Reply (Except UpstreamError Session)}

theorem run_flight (run : SessionRun (acquireFor client devId) start history state)
    (unexpired : ∀ turn ∈ history, unexpiredAfter devId turn = true)
    (calm : ∀ turn ∈ history, removesNone devId turn = true) :
    ∃ phases, List.Forall₂ (Follows (acquireNext devId) Acquired) phases state.programs ∧
      Flight devId history state.shared phases := by
  have moves := run_phases (fun _ => .looking false) acquireSession_acquires
    (fun history sessions phases => (∀ turn ∈ history, unexpiredAfter devId turn = true) →
      (∀ turn ∈ history, removesNone devId turn = true) → Flight devId history sessions phases)
    (fun _ _ => ⟨by simp, by simp, by simp, by simp⟩) rfl
    (fun _ _ _ _ held unexpired calm => flight_joins (held unexpired calm)) ?_ run
  · obtain ⟨phases, follow, held⟩ := moves
    exact ⟨phases, follow, held unexpired calm⟩
  · intro history phases phase after turn held _ found allowed answered unexpired calm
    have earlier := held (fun turn member => unexpired turn (List.mem_append_left _ member))
      (fun turn member => calm turn (List.mem_append_left _ member))
    exact flight_step earlier found (acquireNext_step allowed) answered (unexpired turn (by simp))
      (calm turn (by simp))

/-- In every run in which no session expires and no removal finds one, however the
callers take turns: at most one creation succeeds, and every caller that returns
a session returns that one. -/
theorem one_session_for_all_callers (run : SessionRun (acquireFor client devId) start history state)
    (unexpired : ∀ turn ∈ history, unexpiredAfter devId turn = true)
    (calm : ∀ turn ∈ history, removesNone devId turn = true) :
    (createdSessions history).length ≤ 1 ∧
      ∃ session, (∀ created ∈ createdSessions history, created = session) ∧
        ∀ returned ∈ returnedSessions state, returned = session := by
  obtain ⟨phases, follow, flight⟩ := run_flight run unexpired calm
  have created : ∀ session ∈ createdSessions history, state.shared.cache devId = some session := by
    intro session member
    obtain ⟨turn, taken, stores⟩ := List.mem_filterMap.mp member
    exact flight.stored turn taken session stores
  have returned : ∀ session ∈ returnedSessions state, state.shared.cache devId = some session := by
    intro session member
    obtain ⟨program, member, result⟩ := List.mem_filterMap.mp member
    obtain ⟨outcome, ended, ok⟩ := Option.bind_eq_some_iff.mp result
    obtain rfl := Program.result_eq_some.mp ended
    obtain ⟨task, foundProgram⟩ := List.mem_iff_getElem?.mp member
    obtain ⟨phase, found, follows⟩ := forall₂_getElem? follow foundProgram
    cases outcome with
    | error error => simp [Except.toOption] at ok
    | ok value =>
        obtain rfl : value = session := by simpa [Except.toOption] using ok
        cases phase <;> simp only [follows_done, Acquired] at follows
        subst follows
        exact (flight.fits task _ found).present _ rfl
  refine ⟨flight.once, (state.shared.cache devId).getD ⟨devId, "", 0⟩, ?_, ?_⟩
  · intro session member
    simp [created session member]
  · intro session member
    simp [returned session member]

end Runs

/-! ### A late removal -/

def noSessions : Sessions where
  cache _ := none
  locked _ := false
  now := 1785283199000

def createsAlone (task : Nat) (sessionId : String) : List (Move String Surroundings) :=
  plainTurns task 9 ++ [.turn task (answeredWith (approvedBody sessionId))] ++ plainTurns task 6

-- The first caller has found nothing; before it removes that, the second creates.
def lateRemoval : List (Move String Surroundings) :=
  [.enter "secret", .enter "secret"] ++ plainTurns 0 2 ++ createsAlone 1 "one" ++
    plainTurns 0 7 ++ [.turn 0 (answeredWith (approvedBody "two"))] ++ plainTurns 0 6

theorem late_removal_creates_a_second_session :
    ∃ history state, SessionRun (acquireFor sessionClient "1000") noSessions history state ∧
      (∀ turn ∈ history, unexpiredAfter "1000" turn = true) ∧
      createdSessions history =
        [⟨"1000", "one", 1785283979000⟩, ⟨"1000", "two", 1785283979000⟩] ∧
      returnedSessions state =
        [⟨"1000", "two", 1785283979000⟩, ⟨"1000", "one", 1785283979000⟩] := by
  have passed : (replay serveSessions (acquireFor sessionClient "1000") ⟨noSessions, []⟩ lateRemoval).any
      (fun outcome => decide ((∀ turn ∈ outcome.1, unexpiredAfter "1000" turn = true) ∧
        createdSessions outcome.1 =
          [⟨"1000", "one", 1785283979000⟩, ⟨"1000", "two", 1785283979000⟩] ∧
        returnedSessions outcome.2 =
          [⟨"1000", "two", 1785283979000⟩, ⟨"1000", "one", 1785283979000⟩])) = true := by
    decide +kernel
  obtain ⟨history, state, run, tested⟩ := replay_reaches passed
  exact ⟨history, state, run, of_decide_eq_true tested⟩

-- Both have removed nothing before the second creates; the first waits for the
-- lock, and finds the session.
def calmCreation : List (Move String Surroundings) :=
  [.enter "secret", .enter "secret"] ++ plainTurns 0 3 ++ createsAlone 1 "one" ++ plainTurns 0 4

theorem one_session_after_a_calm_creation :
    ∃ history state, SessionRun (acquireFor sessionClient "1000") noSessions history state ∧
      (returnedSessions state).length = 2 ∧ (createdSessions history).length ≤ 1 ∧
      ∃ session, (∀ created ∈ createdSessions history, created = session) ∧
        ∀ returned ∈ returnedSessions state, returned = session := by
  have passed : (replay serveSessions (acquireFor sessionClient "1000") ⟨noSessions, []⟩ calmCreation).any
      (fun outcome => decide ((returnedSessions outcome.2).length = 2 ∧
        (∀ turn ∈ outcome.1, unexpiredAfter "1000" turn = true) ∧
        ∀ turn ∈ outcome.1, removesNone "1000" turn = true)) = true := by
    decide +kernel
  obtain ⟨history, state, run, tested⟩ := replay_reaches passed
  obtain ⟨both, unexpired, calm⟩ := of_decide_eq_true tested
  exact ⟨history, state, run, both, one_session_for_all_callers run unexpired calm⟩

end PaladinsCat.Hirez
