import PaladinsCat.OwnerLeaseRuns

/-!
A relay that has lost its lease gets it back in one round of its owner loop, whatever connection its
pool hands out, if the database answers and no session has the lock any more.
-/

namespace PaladinsCat.OwnerLease

open Interleaving Program

/-- All queries are answered, and nothing breaks. The pool hands out what it likes. -/
def undisturbed : Service Fleet LeaseOp LeaseOp.Reply (Option ℕ) := fun before op choice => before.act { choice } op

abbrev calm : Handler Fleet LeaseOp LeaseOp.Reply := undisturbed.handler

/-- The relay has noticed which of its sessions have ended. -/
def Fleet.Noticed (fleet : Fleet) (relay : ℕ) : Prop :=
  ∀ (session : ℕ) (known : Session), fleet.sessions[session]? = some known → known.relay = relay → known.ended = true → known.closed = true

/-- No session has the lock but the one in the lease, if its connection is not broken. -/
structure Quiet (fleet : Fleet) (relay : ℕ) (connection : Option ℕ) : Prop where
  lease : fleet.leaseOf relay = some ⟨connection, false⟩
  pool : ∃ known, fleet.relays[relay]? = some known ∧ known.drained = false
  noticed : fleet.Noticed relay
  unlocked : ∀ session, fleet.holds session → connection = some session ∧
    (fleet.sessions[session]?).map Session.closed = some false

variable {fleet after : Fleet} {relay : ℕ}

theorem calm_call {op : LeaseOp} {α : Type} {next : op.Reply → Task α} {events : List (Event Fleet LeaseOp LeaseOp.Reply)}
    {result : α} (ran : Exec calm fleet (.call op next) events result after) :
    ∃ choice reply middle rest, fleet.act { choice } op = some (reply, middle) ∧ Exec calm middle (next reply) rest result after := by
  obtain ⟨reply, middle, rest, ⟨choice, acted⟩, ran, -⟩ := exec_call_iff.mp ran
  exact ⟨choice, reply, middle, rest, acted, ran⟩

theorem calm_bind {α β : Type} (program : Task β) {rest : β → Task α} {events : List (Event Fleet LeaseOp LeaseOp.Reply)}
    {result : α} (ran : Exec calm fleet (program >>= rest) events result after) :
    ∃ middle value front back, Exec calm fleet program front value middle ∧ Exec calm middle (rest value) back result after := by
  obtain ⟨front, back, value, middle, -, first, second⟩ := exec_bind ran
  exact ⟨middle, value, front, back, first, second⟩

/-- What a pool of sessions that go on hands out. -/
theorem connect_going {choice : Option ℕ} {session : ℕ}
    (noticed : fleet.Noticed relay) (connected : fleet.connect relay { choice } = (session, after)) :
    after.relays = fleet.relays ∧
      ∃ known, after.sessions[session]? = some known ∧ known.relay = relay ∧ known.ended = false ∧ known.closed = false := by
  unfold Fleet.connect at connected
  cases chosen : choice.filter fun session => fleet.sessions[session]?.any fun known =>
      known.relay == relay && known.place == .pooled && !known.closed with
  | some pooled =>
      simp only [chosen] at connected
      obtain ⟨rfl, rfl⟩ := Prod.mk.inj connected
      obtain ⟨known, found, fits⟩ := (Option.any_eq_true _ _).mp (Option.filter_eq_some_iff.mp chosen).2
      simp only [Bool.and_eq_true, beq_iff_eq, Bool.not_eq_true'] at fits
      obtain ⟨⟨owned, -⟩, sound⟩ := fits
      refine ⟨rfl, { known with place := .borrowed }, by rw [sessions_onSession, if_pos rfl, found]; rfl, owned, ?_, sound⟩
      cases ended : known.ended with
      | false => rfl
      | true => exact absurd ((noticed pooled known found owned ended).symm.trans sound) nofun
  | none =>
      simp only [chosen] at connected
      obtain ⟨rfl, rfl⟩ := Prod.mk.inj connected
      exact ⟨rfl, { relay }, by simp, rfl, rfl, rfl⟩

theorem lockable_free (free : ∀ session, ¬ fleet.holds session) (session : ℕ) : fleet.lockable session = true := by
  refine List.all_eq_true.mpr fun other _ => ?_
  cases found : fleet.sessions[other]? with
  | none => simp
  | some known =>
      have idle : known.holds = false := eq_false_of_ne_true fun held => free other ⟨known, found, held⟩
      simp [idle]

/-- An attempt that nobody disturbs takes the lock when it is free. -/
theorem calm_acquire (pool : ∃ known, fleet.relays[relay]? = some known ∧ known.drained = false)
    (noticed : fleet.Noticed relay) (free : ∀ session, ¬ fleet.holds session) {events : List (Event Fleet LeaseOp LeaseOp.Reply)}
    {result : Except OwnerLeaseError ℕ} (ran : Exec calm fleet (acquire relay) events result after) :
    ∃ session, result = .ok session ∧ after.relays = fleet.relays ∧
      ∃ known, after.sessions[session]? = some known ∧ known.ended = false := by
  obtain ⟨choice, reply, middle, rest, acted, ran⟩ := calm_call ran
  obtain ⟨owner, found, sound⟩ := pool
  obtain ⟨session, connects, connected⟩ : ∃ session connects, fleet.connect relay { choice } = (session, connects) := ⟨_, _, rfl⟩
  simp only [Fleet.act, found, connected, Option.map_some, sound, Bool.or_self, Bool.false_eq_true, if_false, Option.some.injEq,
    Prod.mk.injEq] at acted
  obtain ⟨rfl, rfl⟩ := acted
  obtain ⟨frame, -, -, keeps, -⟩ := connect_spec connected
  obtain ⟨relays, known, listed, -, going, whole⟩ := connect_going noticed connected
  have still : ∀ other, ¬ connects.holds other := by
    intro other held
    by_cases same : some session = some other
    · obtain rfl := Option.some.inj same
      exact free session (keeps held)
    · exact free other (frame.holds same held)
  obtain ⟨choice, reply, locked, rest, acted, ran⟩ := calm_call ran
  have runs : connects.runs { choice } session = true := by simp [Fleet.runs, listed, going, whole]
  simp only [Fleet.act, runs, if_true, lockable_free still session, Option.some.injEq, Prod.mk.injEq] at acted
  obtain ⟨rfl, rfl⟩ := acted
  obtain ⟨-, rfl, rfl⟩ := exec_done ran
  refine ⟨session, rfl, relays, { known with locks := known.locks + 1 }, ?_, going⟩
  rw [Fleet.lock, sessions_onSession, if_pos rfl, listed]
  rfl

theorem relays_changed {known : Relay} (found : fleet.relays[relay]? = some known) (change : Relay → Relay) :
    (fleet.onRelay relay change).relays[relay]? = some (change known) := by
  rw [Fleet.onRelay, List.getElem?_modify, found]
  simp

/-- A change of a session that neither ends it nor gives it a lock. -/
theorem onSession_quiet (relay : ℕ) (fleet : Fleet) (session : ℕ) (change : Session → Session)
    (keeps : ∀ known, (change known).relay = known.relay ∧ (change known).ended = known.ended ∧
      (change known).locks = known.locks ∧ (known.closed = true → (change known).closed = true)) :
    (fleet.Noticed relay → (fleet.onSession session change).Noticed relay) ∧
      ∀ other, (fleet.onSession session change).holds other → fleet.holds other := by
  have changed : ∀ (other : ℕ) (later : Session), (fleet.onSession session change).sessions[other]? = some later →
      ∃ known, fleet.sessions[other]? = some known ∧ (later = change known ∨ later = known) := by
    intro other later found
    rw [sessions_onSession] at found
    split at found
    · rename_i same
      obtain ⟨known, listed, rfl⟩ := Option.map_eq_some_iff.mp found
      exact ⟨known, same ▸ listed, .inl rfl⟩
    · exact ⟨later, found, .inr rfl⟩
  constructor
  · intro noticed other later found owned ended
    obtain ⟨known, listed, rfl | rfl⟩ := changed other later found
    · obtain ⟨relay', ended', -, closed⟩ := keeps known
      exact closed (noticed other known listed (relay' ▸ owned) (ended' ▸ ended))
    · exact noticed other _ listed owned ended
  · rintro other ⟨later, found, held⟩
    obtain ⟨known, listed, rfl | rfl⟩ := changed other later found
    · obtain ⟨-, ended', locks, -⟩ := keeps known
      exact ⟨known, listed, by rwa [Session.holds, ended', locks] at held⟩
    · exact ⟨_, listed, held⟩

theorem calm_dropConnection {owner : Relay} {connection : Option ℕ} (found : fleet.relays[relay]? = some owner)
    (lies : owner.lease = some ⟨connection, true⟩) {events : List (Event Fleet LeaseOp LeaseOp.Reply)} {result : Unit}
    (ran : Exec calm fleet (dropConnection relay) events result after) :
    after.relays[relay]? = some { owner with lease := some ⟨none, true⟩ } ∧ (fleet.Noticed relay → after.Noticed relay) ∧
      ∀ session, after.holds session → fleet.holds session := by
  obtain ⟨choice, reply, taken, rest, acted, ran⟩ := calm_call ran
  have leased : (fleet.leaseOf relay).bind Lease.connection = connection := by simp [Fleet.leaseOf, found, lies]
  simp only [Fleet.act, leased, Option.some.injEq, Prod.mk.injEq] at acted
  obtain ⟨rfl, rfl⟩ := acted
  have emptied : ∀ middle : Fleet, middle.relays = fleet.relays →
      (middle.onRelay relay fun known => { known with lease := known.lease.map fun lease => { lease with connection := none } }).relays[
        relay]? = some { owner with lease := some ⟨none, true⟩ } := by
    intro middle same
    rw [relays_changed (same ▸ found), lies]
    rfl
  cases connection with
  | none =>
      obtain ⟨-, -, rfl⟩ := exec_done ran
      exact ⟨emptied fleet rfl, id, fun _ => id⟩
  | some session =>
      obtain ⟨choice, reply, given, rest, acted, ran⟩ := calm_call ran
      obtain ⟨-, rfl⟩ := Prod.mk.inj (Option.some.inj acted)
      obtain ⟨-, -, rfl⟩ := exec_done ran
      let middle := (fleet.onSession session fun known => { known with place := .borrowed }).onRelay relay fun known =>
        { known with lease := known.lease.map fun lease => { lease with connection := none } }
      have borrows := onSession_quiet relay fleet session (fun known => { known with place := .borrowed })
        fun known => ⟨rfl, rfl, rfl, id⟩
      have pools := onSession_quiet relay middle session middle.pooled fun known =>
        ⟨rfl, rfl, rfl, fun closed => by simp [Fleet.pooled, closed]⟩
      exact ⟨emptied _ rfl, fun noticed => pools.1 (borrows.1 noticed), fun other held => borrows.2 other (pools.2 other held)⟩

/-- A check of the lease that nobody disturbs finds the lock, or takes it. -/
theorem calm_ensureHealthy {connection : Option ℕ} {owner : Relay} (quiet : Quiet fleet relay connection)
    (found : fleet.relays[relay]? = some owner) {events : List (Event Fleet LeaseOp LeaseOp.Reply)}
    {result : Except OwnerLeaseError Bool} (ran : Exec calm fleet (ensureHealthy relay) events result after) :
    result = .ok true ∧ ∃ session known, after.relays[relay]? = some { owner with lease := some ⟨some session, false⟩ } ∧
      after.sessions[session]? = some known ∧ known.ended = false := by
  have lies : owner.lease = some ⟨connection, false⟩ := by simpa [Fleet.leaseOf, found] using quiet.lease
  have sound : owner.drained = false := by
    obtain ⟨known, listed, sound⟩ := quiet.pool
    obtain rfl : owner = known := Option.some.inj (found.symm.trans listed)
    exact sound
  obtain ⟨choice, reply, entered, rest, acted, ran⟩ := calm_call ran
  simp only [Fleet.act, quiet.lease, Option.bind_some, Bool.false_eq_true, if_false, Option.some.injEq, Prod.mk.injEq] at acted
  obtain ⟨rfl, rfl⟩ := acted
  have inside := relays_changed found fun known => { known with lease := some { connection, entered := true } }
  generalize entering : (fleet.onRelay relay fun known => { known with lease := some { connection, entered := true } }) = middle at *
  have sessions : middle.sessions = fleet.sessions := entering ▸ rfl
  obtain ⟨pinged, alive, front, back, asked, goes⟩ := calm_bind (pingOwn connection) ran
  -- A connection that is alive stays.
  have answered : pinged = middle ∧ (alive = true → ∃ session known, connection = some session ∧
      fleet.sessions[session]? = some known ∧ known.ended = false) ∧ (alive = false → ∀ session, ¬ fleet.holds session) := by
    cases connection with
    | none =>
        obtain ⟨-, rfl, rfl⟩ := exec_done asked
        exact ⟨rfl, by simp, fun _ session held => absurd (quiet.unlocked session held).1 (by simp)⟩
    | some session =>
        obtain ⟨choice, reply, after, rest, acted, done⟩ := calm_call asked
        obtain ⟨rfl, rfl⟩ := Prod.mk.inj (Option.some.inj acted)
        obtain ⟨-, rfl, rfl⟩ := exec_done done
        refine ⟨rfl, fun alive => ?_, fun dead other held => ?_⟩
        · obtain ⟨known, listed, going⟩ := (Option.any_eq_true _ _).mp (Bool.and_eq_true_iff.mp (Bool.and_eq_true_iff.mp alive).1).2
          rw [sessions] at listed
          exact ⟨session, known, rfl, listed, by simpa using (Bool.and_eq_true_iff.mp going).1⟩
        · obtain ⟨same, whole⟩ := quiet.unlocked other held
          obtain rfl := Option.some.inj same
          obtain ⟨known, listed, holds⟩ := held
          rw [Option.mem_def.mp listed] at whole
          simp only [Session.holds, Bool.and_eq_true] at holds
          have sound : known.closed = false := by simpa using whole
          simp [Fleet.runs, sessions, Option.mem_def.mp listed, sound, holds.1] at dead
  obtain ⟨rfl, living, dead⟩ := answered
  cases alive with
  | true =>
      obtain ⟨session, known, rfl, listed, going⟩ := living rfl
      obtain ⟨choice, reply, last, rest, acted, goes⟩ := calm_call goes
      obtain ⟨-, rfl⟩ := Prod.mk.inj (Option.some.inj acted)
      obtain ⟨-, rfl, rfl⟩ := exec_done goes
      refine ⟨rfl, session, known, ?_, sessions ▸ listed, going⟩
      rw [relays_changed inside]
      rfl
  | false =>
      have free := dead rfl
      obtain ⟨dropped, _, _, _, drops, goes⟩ := calm_bind (dropConnection relay) goes
      obtain ⟨emptied, noticed, fewer⟩ := calm_dropConnection inside rfl drops
      have none_ : ∀ session, ¬ dropped.holds session := by
        intro session held
        obtain ⟨known, listed, holds⟩ := fewer session held
        exact free session ⟨known, sessions ▸ listed, holds⟩
      have knows : dropped.Noticed relay :=
        noticed fun session known listed => quiet.noticed session known (sessions ▸ listed)
      obtain ⟨reacquired, result, _, _, again, goes⟩ := calm_bind (reacquire relay) goes
      obtain ⟨locked, acquired, _, _, takes, again⟩ := calm_bind (acquire relay) again
      obtain ⟨session, rfl, relays, known, listed, going⟩ := calm_acquire ⟨_, emptied, sound⟩ knows none_ takes
      obtain ⟨choice, reply, lodged, rest, acted, again⟩ := calm_call again
      obtain ⟨-, rfl⟩ := Prod.mk.inj (Option.some.inj acted)
      obtain ⟨-, rfl, rfl⟩ := exec_done again
      obtain ⟨choice, reply, last, rest, acted, goes⟩ := calm_call goes
      obtain ⟨-, rfl⟩ := Prod.mk.inj (Option.some.inj acted)
      obtain ⟨-, rfl, rfl⟩ := exec_done goes
      refine ⟨rfl, session, { known with place := .leased }, ?_, ?_, going⟩
      · rw [relays_changed (relays_changed (relays ▸ emptied) _)]
        rfl
      · exact (sessions_onSession locked session session _).trans (by rw [if_pos rfl, listed]; rfl)

/-! ### The end of a round -/

/-- A program whose calls are all answered comes to its end. -/
theorem exec_exists {State Op α : Type} {Reply : Op → Type} {answers : Handler State Op Reply} {allowed : Op → Prop}
    (holds : State → Prop)
    (answered : ∀ before op, allowed op → holds before → ∃ reply after, answers before op reply after ∧ holds after)
    {program : Program Op Reply α} (uses : Uses allowed program) {before : State} (initially : holds before) :
    ∃ events result after, Exec answers before program events result after := by
  induction program generalizing before with
  | done result => exact ⟨[], result, before, .done _ _⟩
  | call op next ih =>
      obtain ⟨reply, middle, answers', kept⟩ := answered before op uses.1 initially
      obtain ⟨events, result, after, ran⟩ := ih reply (uses.2 reply) kept
      exact ⟨_, result, after, .call reply answers' ran⟩

/-- The calls of a task that is behind the mutex. -/
def inside (relay : ℕ) : LeaseOp → Prop
  | .connection other => other = relay
  | .tryLock _ | .ping _ | .unlock _ | .giveBack _ | .take _ | .put .. | .leave _ | .store .. => True
  | .boot | .found .. | .enter _ | .refuse _ | .close _ | .grant _ => False

@[simp] theorem relays_onSession (fleet : Fleet) (session : ℕ) (change : Session → Session) :
    (fleet.onSession session change).relays = fleet.relays := rfl

@[simp] theorem length_onRelay (fleet : Fleet) (relay : ℕ) (change : Relay → Relay) :
    (fleet.onRelay relay change).relays.length = fleet.relays.length := by
  simp [Fleet.onRelay]

theorem relays_connect (fleet : Fleet) (relay : ℕ) (outside : Outside) : (fleet.connect relay outside).2.relays = fleet.relays := by
  unfold Fleet.connect
  dsimp only
  split <;> rfl

/-- None of these calls waits. -/
theorem inside_acts (fleet : Fleet) {op : LeaseOp} (allowed : inside relay op) (known : relay < fleet.relays.length) :
    ∃ reply after, fleet.act {} op = some (reply, after) ∧ relay < after.relays.length := by
  cases op with
  | boot | found | enter | refuse | close | grant => exact allowed.elim
  | connection other =>
      obtain rfl : other = relay := allowed
      simp only [Fleet.act, List.getElem?_eq_getElem known, Option.map_some, Option.some.injEq]
      split
      · exact ⟨_, _, rfl, known⟩
      · exact ⟨_, _, rfl, by simpa [relays_connect] using known⟩
  | tryLock session =>
      simp only [Fleet.act]
      split
      · refine ⟨_, _, rfl, ?_⟩
        split <;> exact known
      · exact ⟨_, _, rfl, known⟩
  | unlock session =>
      refine ⟨_, _, rfl, ?_⟩
      split <;> exact known
  | ping session | giveBack session => exact ⟨_, _, rfl, known⟩
  | take other =>
      refine ⟨_, _, rfl, ?_⟩
      rw [length_onRelay]
      cases (fleet.leaseOf other).bind Lease.connection <;> exact known
  | put | leave | store => exact ⟨_, _, rfl, by simpa using known⟩

theorem acquire_inside (relay : ℕ) : Uses (inside relay) (acquire relay) := by
  refine ⟨rfl, fun reply => ?_⟩
  cases reply with
  | error message => trivial
  | ok session =>
      refine ⟨trivial, fun reply => ?_⟩
      rcases reply with message | _ | _
      · exact ⟨trivial, fun _ => trivial⟩
      · exact ⟨trivial, fun _ => trivial⟩
      · trivial

theorem dropConnection_inside (relay : ℕ) : Uses (inside relay) (dropConnection relay) := by
  refine ⟨trivial, fun taken => ?_⟩
  cases taken with
  | none => trivial
  | some session => exact ⟨trivial, fun _ => trivial⟩

theorem reacquire_inside (relay : ℕ) : Uses (inside relay) (reacquire relay) := by
  refine uses_bind (acquire_inside relay) fun result => ?_
  rcases result with (message | _) | session
  · trivial
  · trivial
  · exact ⟨trivial, fun _ => trivial⟩

theorem pingOwn_inside (relay : ℕ) (connection : Option ℕ) : Uses (inside relay) (pingOwn connection) := by
  cases connection with
  | none => trivial
  | some session => exact ⟨trivial, fun _ => trivial⟩

/-- What a round does after it has entered. -/
theorem round_enters (relay : ℕ) :
    ∃ rest, round relay = .call (.enter relay) rest ∧ ∀ connection, Uses (inside relay) (rest connection) := by
  refine ⟨_, rfl, fun connection => ?_⟩
  show Uses (inside relay) ((pingOwn connection >>= _) >>= _)
  refine uses_bind (uses_bind (pingOwn_inside relay connection) fun healthy => ?_) fun result => ⟨trivial, fun _ => trivial⟩
  cases healthy with
  | true => exact ⟨trivial, fun _ => trivial⟩
  | false =>
      refine uses_bind (dropConnection_inside relay) fun _ => ?_
      exact uses_bind (reacquire_inside relay) fun result => ⟨trivial, fun _ => trivial⟩

/-- A round that finds the mutex free comes to its end. -/
theorem round_ends {lease : Lease} (leased : fleet.leaseOf relay = some lease) (free : lease.entered = false) :
    ∃ events result after, Exec calm fleet (round relay) events result after := by
  obtain ⟨rest, enters, uses⟩ := round_enters relay
  obtain ⟨known, found, -⟩ := Option.bind_eq_some_iff.mp leased
  have listed : relay < fleet.relays.length := (List.getElem?_eq_some_iff.mp found).1
  let entered := fleet.onRelay relay fun known => { known with lease := some { lease with entered := true } }
  have answered : ∀ before op, inside relay op → relay < before.relays.length →
      ∃ reply after, calm before op reply after ∧ relay < after.relays.length := by
    intro before op allowed known
    obtain ⟨reply, middle, acted, kept⟩ := inside_acts before allowed known
    exact ⟨reply, middle, ⟨none, acted⟩, kept⟩
  obtain ⟨events, result, after, ran⟩ := exec_exists _ answered (uses lease.connection)
    (show relay < entered.relays.length by simpa [entered] using listed)
  have enter : calm fleet (.enter relay) lease.connection entered := ⟨none, by simp [undisturbed, Fleet.act, leased, free, entered]⟩
  rw [enters]
  exact ⟨_, result, after, .call lease.connection enter ran⟩

/-- What an undisturbed round leaves. -/
theorem round_leaves {connection : Option ℕ} (quiet : Quiet fleet relay connection)
    {events : List (Event Fleet LeaseOp LeaseOp.Reply)} {result : Except String Unit}
    (ran : Exec calm fleet (round relay) events result after) : after.Owner relay ∧ after.ready relay = true := by
  obtain ⟨owner, found, -⟩ := quiet.pool
  obtain ⟨middle, checked, _, _, checks, ran⟩ := calm_bind (ensureHealthy relay) ran
  obtain ⟨rfl, session, known, relays, listed, going⟩ := calm_ensureHealthy quiet found checks
  obtain ⟨choice, reply, last, rest, acted, ran⟩ := calm_call ran
  obtain ⟨-, rfl⟩ := Prod.mk.inj (Option.some.inj acted)
  obtain ⟨-, -, rfl⟩ := exec_done ran
  have told := relays_changed relays fun known => { known with ready := true }
  exact ⟨⟨session, known, by rw [Fleet.leaseOf, told]; rfl, listed, going⟩, (Option.any_eq_true _ _).mpr ⟨_, told, rfl⟩⟩

/-- A relay whose session has ended. -/
def lostLease : Fleet where
  sessions := [{ relay := 0, place := .leased, locks := 1, ended := true, closed := true }]
  relays := [{ lease := some ⟨some 0, false⟩ }]

end PaladinsCat.OwnerLease
