import PaladinsCat.OwnerLeaseSteps

/-!
Whole runs of any number of relays, with tasks that start, check their lease, answer health
requests, shut down, use the pool and let requests in. At all times one relay at most has a
lease with a session that has not ended; and between a check of one relay and a check of another one
the first has lost its session, or given its lock back.
-/

namespace PaladinsCat.OwnerLease

open Interleaving Program

/-! ### The tasks keep to the discipline -/

section Course
variable {hands : Hands} {relay : ℕ}

/-- A task without a lease and without a connection. -/
def Hands.Empty (hands : Hands) : Prop := hands.lease = none ∧ hands.object = none

theorem healthCheck_follows (empty : hands.Empty) :
    Follows next (fun after _ => after = hands) hands (healthCheck relay) := by
  obtain ⟨lease, object⟩ := empty
  rcases hands with ⟨lease, object, seen⟩
  subst lease object
  rintro (message | session)
  · exact ⟨_, rfl, rfl⟩
  · refine ⟨_, rfl, fun healthy => ⟨_, rfl, fun _ => ⟨_, ?_, rfl⟩⟩⟩
    simp [next, Except.toOption]

/-- What a task has in its hands behind `acquire`. -/
def Hands.Acquired (hands : Hands) (relay : ℕ) (after : Hands) : Except OwnerLeaseError ℕ → Prop
  | .ok session => after = { hands with object := some ⟨relay, session, true⟩, seen := some relay }
  | .error _ => after = hands

theorem acquire_follows (empty : hands.object = none) :
    Follows next (hands.Acquired relay) hands (acquire relay) := by
  rcases hands with ⟨lease, object, seen⟩
  subst empty
  rintro (message | session)
  · exact ⟨_, rfl, rfl⟩
  · refine ⟨⟨lease, some ⟨relay, session, false⟩, seen⟩, rfl, ?_⟩
    rintro (message | locked)
    · exact ⟨⟨lease, some ⟨relay, session, false⟩, seen⟩, by simp [next, Except.toOption],
        fun _ => ⟨⟨lease, none, seen⟩, by simp [next], rfl⟩⟩
    · cases locked with
      | false =>
          exact ⟨⟨lease, some ⟨relay, session, false⟩, seen⟩, by simp [next, Except.toOption],
            fun _ => ⟨⟨lease, none, seen⟩, by simp [next], rfl⟩⟩
      | true => exact ⟨_, by simp only [next, Except.toOption, Option.bind_some, if_true], rfl⟩

theorem pingOwn_follows {connection : Option ℕ} (entered : hands.lease = some (relay, connection)) :
    Follows next (fun after healthy => after.lease = hands.lease ∧ after.object = hands.object ∧
      (healthy = true → after.seen = some relay)) hands (pingOwn connection) := by
  cases connection with
  | none => exact ⟨rfl, rfl, nofun⟩
  | some session =>
      intro healthy
      cases healthy with
      | false => exact ⟨hands, by simp [next, entered], rfl, rfl, nofun⟩
      | true => exact ⟨{ hands with seen := some relay }, by simp [next, entered], rfl, rfl, fun _ => rfl⟩

/-- What a task has in its hands behind a check of its lease. -/
def Hands.Checked (relay : ℕ) (after : Hands) (owned : Bool) : Prop := after.Empty ∧ (owned = true → after.seen = some relay)

theorem isHealthy_follows (empty : hands.Empty) : Follows next (Hands.Checked relay) hands (isHealthy relay) := by
  intro connection
  refine ⟨{ hands with lease := some (relay, connection) }, by simp [next, empty.1], ?_⟩
  apply follows_then (pingOwn_follows rfl)
  rintro after healthy ⟨lease, object, seen⟩ reply
  exact ⟨{ after with lease := none }, by simp [next, lease], ⟨rfl, object.trans empty.2⟩, seen⟩

theorem dropConnection_follows (entered : hands.lease.map Prod.fst = some relay) (empty : hands.object = none) :
    Follows next (fun after _ => after = { hands with lease := some (relay, none) }) hands (dropConnection relay) := by
  obtain ⟨⟨other, connection⟩, lease, rfl⟩ := Option.map_eq_some_iff.mp entered
  rintro (_ | session)
  · exact ⟨{ hands with lease := some (other, none) }, by simp [next, lease, empty], rfl⟩
  · refine ⟨{ hands with lease := some (other, none), object := some ⟨other, session, true⟩ },
      by simp [next, lease, empty], fun _ => ⟨{ hands with lease := some (other, none) }, ?_, rfl⟩⟩
    simp [next, empty]

theorem reacquire_follows (entered : hands.lease = some (relay, none)) (empty : hands.object = none) :
    Follows next (fun after result => after.lease.map Prod.fst = some relay ∧ after.object = none ∧
      (result.toOption = some true → after.seen = some relay)) hands (reacquire relay) := by
  apply follows_then (acquire_follows empty)
  rintro after (error | session) acquired
  · obtain rfl : after = hands := acquired
    cases error <;> exact ⟨by rw [entered]; rfl, empty, nofun⟩
  · obtain rfl : after = _ := acquired
    refine fun reply => ⟨{ hands with lease := some (relay, some session), object := none, seen := some relay }, ?_, rfl, rfl, fun _ => rfl⟩
    simp [next, entered]

theorem ensureHealthy_follows (empty : hands.Empty) :
    Follows next (fun after result => after.Checked relay (result.toOption == some true)) hands (ensureHealthy relay) := by
  intro connection
  refine ⟨{ hands with lease := some (relay, connection) }, by simp [next, empty.1], ?_⟩
  apply follows_then (pingOwn_follows rfl)
  rintro after healthy ⟨lease, object, seen⟩
  cases healthy with
  | true => exact fun _ => ⟨{ after with lease := none }, by simp [next, lease], ⟨rfl, object.trans empty.2⟩, fun _ => seen rfl⟩
  | false =>
      apply follows_then (dropConnection_follows (by rw [lease]; rfl) (object.trans empty.2))
      rintro dropped _ same
      have lies : dropped.lease = some (relay, none) := by rw [same]
      have nothing : dropped.object = none := by
        rw [same]
        exact object.trans empty.2
      apply follows_then (reacquire_follows lies nothing)
      rintro last result ⟨entered, done, seen⟩ _
      obtain ⟨⟨other, final⟩, held, rfl⟩ := Option.map_eq_some_iff.mp entered
      exact ⟨{ last with lease := none }, by simp [next, held], ⟨rfl, done⟩, fun owned => seen (eq_of_beq owned)⟩

theorem release_follows (empty : hands.Empty) : Follows next (fun after _ => after.Empty) hands (release relay) := by
  intro connection
  refine ⟨{ hands with lease := some (relay, connection) }, by simp [next, empty.1], ?_⟩
  rintro (_ | session)
  · exact ⟨{ hands with lease := some (relay, none) }, by simp [next, empty.2],
      fun _ => ⟨{ hands with lease := none }, by simp [next], rfl, empty.2⟩⟩
  · refine ⟨{ hands with lease := some (relay, none), object := some ⟨relay, session, true⟩ }, by simp [next, empty.2],
      fun _ => ⟨{ hands with lease := some (relay, none), object := some ⟨relay, session, false⟩ }, by simp [next],
      fun _ => ⟨{ hands with lease := some (relay, none), object := none }, by simp [next],
      fun _ => ⟨{ hands with lease := none, object := none }, by simp [next], rfl, rfl⟩⟩⟩⟩

theorem task_follows (caller : Caller) : Follows next (fun _ _ => True) {} (task caller) := by
  have empty : ({} : Hands).Empty := ⟨rfl, rfl⟩
  cases caller with
  | start =>
      intro relay
      refine ⟨{}, rfl, ?_⟩
      apply follows_then (healthCheck_follows empty)
      rintro after healthy rfl
      cases healthy with
      | false => trivial
      | true =>
          apply follows_then (acquire_follows rfl)
          rintro after (error | session) acquired
          · trivial
          · obtain rfl : after = _ := acquired
            exact fun _ => ⟨{ seen := some relay }, by simp [next], trivial⟩
  | round relay =>
      apply follows_then (ensureHealthy_follows empty)
      rintro after result ⟨-, seen⟩ _
      refine ⟨after, ?_, trivial⟩
      rcases result with error | owned
      · simp [next]
      · cases owned <;> simp_all [next, Except.toOption]
  | health relay =>
      apply follows_then (healthCheck_follows empty)
      rintro after databaseOk rfl
      apply follows_then (isHealthy_follows empty)
      rintro after ownerOk ⟨-, seen⟩ _
      exact ⟨after, by simp only [next, Bool.and_eq_true]; exact if_pos fun both => seen both.2, trivial⟩
  | shutdown relay =>
      refine fun _ => ⟨{}, rfl, ?_⟩
      apply follows_then (release_follows empty)
      exact fun after _ _ _ => ⟨after, rfl, trivial⟩
  | request relay => exact fun _ => ⟨{}, rfl, trivial⟩
  | query relay =>
      apply follows_then (healthCheck_follows empty)
      exact fun _ _ _ => trivial

end Course

/-! ### One owner -/

abbrev LeaseTurn := Turn Fleet LeaseOp LeaseOp.Reply (Except String Unit)

section Runs
variable {turns : List LeaseTurn} {state : State Fleet LeaseOp LeaseOp.Reply (Except String Unit)}

theorem good_empty : ({} : Fleet).Good := ⟨by simp [Fleet.holds], by simp [Fleet.leaseOf]⟩

theorem run_good (run : Run serve.handler task ⟨{}, []⟩ turns state) : state.shared.Good := by
  have nothing : ∀ resource, ¬ ({} : Hands).owns resource := by
    rintro (relay | session) <;> nofun
  obtain ⟨hands, -, kept⟩ := ownership.run_owned run rfl (fun _ => {}) task_follows (fun _ => nothing)
    (fun _ _ _ => ⟨nofun, nofun⟩) (fun _ _ _ _ _ _ good stands allowed answered => served_step good stands.holds allowed answered)
    good_empty
  exact kept.good

/-- The relay has a lease with a session that has not ended. -/
def Fleet.Owner (fleet : Fleet) (relay : ℕ) : Prop :=
  ∃ session known, (fleet.leaseOf relay).bind Lease.connection = some session ∧ fleet.sessions[session]? = some known ∧
    known.ended = false

theorem Fleet.Good.owner {fleet : Fleet} (good : fleet.Good) {relay session : ℕ} {known : Session}
    (leased : (fleet.leaseOf relay).bind Lease.connection = some session) (found : fleet.sessions[session]? = some known)
    (going : known.ended = false) : known.relay = relay ∧ fleet.holds session := by
  obtain ⟨lease, lies, named⟩ := Option.bind_eq_some_iff.mp leased
  obtain ⟨other, listed, owned, -, locked⟩ := good.leases relay lease session lies named
  obtain rfl : known = other := Option.some.inj (found.symm.trans listed)
  exact ⟨owned, known, found, by simp [Session.holds, going, locked going]⟩

/-- At all times one relay at most is the owner, and the database has given the lock to its session. -/
theorem owner_exclusive (run : Run serve.handler task ⟨{}, []⟩ turns state) :
    (∀ one two, state.shared.Owner one → state.shared.Owner two → one = two) ∧
      ∀ relay, state.shared.Owner relay → ∃ session known, (state.shared.leaseOf relay).bind Lease.connection = some session ∧
        state.shared.sessions[session]? = some known ∧ known.relay = relay ∧ known.holds = true ∧
        state.shared.lockable session = true := by
  have good := run_good run
  constructor
  · rintro one two ⟨first, known, leased, found, going⟩ ⟨second, other, lies, listed, goes⟩
    obtain ⟨owned, holds⟩ := good.owner leased found going
    obtain ⟨owns, held⟩ := good.owner lies listed goes
    obtain rfl := good.exclusive first second holds held
    obtain rfl : known = other := Option.some.inj (found.symm.trans listed)
    exact owned.symm.trans owns
  · rintro relay ⟨session, known, leased, found, going⟩
    obtain ⟨owned, holds⟩ := good.owner leased found going
    obtain ⟨other, listed, held⟩ := holds
    obtain rfl : known = other := Option.some.inj (found.symm.trans listed)
    have alone : ∀ rival, state.shared.holds rival → rival = session :=
      fun rival taken => good.exclusive rival session taken ⟨known, found, held⟩
    refine ⟨session, known, leased, found, owned, held, List.all_eq_true.mpr fun rival inside => ?_⟩
    by_cases same : rival = session
    · simp [same]
    · cases there : state.shared.sessions[rival]? with
      | none => simp
      | some stranger =>
          have free : stranger.holds = false := eq_false_of_ne_true fun taken => same (alone rival ⟨stranger, there, taken⟩)
          simp [free]

/-! ### Handing over -/

/-- The session over which a query told that the lock is taken. -/
def confirmed : (op : LeaseOp) → op.Reply → Option ℕ
  | .tryLock session => fun reply : Except String Bool => if reply.toOption = some true then some session else none
  | .ping session => fun reply : Bool => if reply then some session else none
  | _ => fun _ => none

/-- A check of the lease that went well: the lock was taken over a connection of the relay, or the
connection in its lease still answers. -/
structure Checks (turn : LeaseTurn) (relay session : ℕ) : Prop where
  confirmed : confirmed turn.op turn.reply = some session
  own : (turn.before.sessions[session]?).map Session.relay = some relay
  leased : turn.op = .ping session → (turn.before.leaseOf relay).bind Lease.connection = some session

/-- The lease with the session is released, or the session has ended. -/
def Loses (turn : LeaseTurn) (session : ℕ) : Prop :=
  turn.op = .unlock session ∨ ∃ known, turn.after.sessions[session]? = some known ∧ known.ended = true

/-- The session is there, and has lost a lock only by `unlock`. -/
def Fleet.Stays (fleet : Fleet) (session : ℕ) (known : Session) (op : LeaseOp) : Prop :=
  ∃ later, fleet.sessions[session]? = some later ∧ later.relay = known.relay ∧ later.ended = known.ended ∧
    (op ≠ .unlock session → known.locks ≤ later.locks)

theorem act_stays {fleet after : Fleet} {outside : Outside} {op : LeaseOp} {reply : op.Reply} {session : ℕ} {known : Session}
    (acted : fleet.act outside op = some (reply, after)) (found : fleet.sessions[session]? = some known) :
    after.Stays session known op := by
  have same : fleet.Stays session known op := ⟨known, found, rfl, rfl, fun _ => le_rfl⟩
  have changed : ∀ other (change : Session → Session), (∀ known, (change known).relay = known.relay ∧
      (change known).ended = known.ended ∧ (op ≠ .unlock other → known.locks ≤ (change known).locks)) →
      (fleet.onSession other change).Stays session known op := by
    intro other change keeps
    unfold Fleet.Stays
    rw [sessions_onSession]
    split
    · rename_i same
      subst same
      exact ⟨change known, by rw [found]; rfl, keeps known⟩
    · exact ⟨known, found, rfl, rfl, fun _ => le_rfl⟩
  have placed : ∀ other place, (fleet.onSession other fun known => { known with place := place }).Stays session known op :=
    fun other place => changed other _ fun _ => ⟨rfl, rfl, fun _ => le_rfl⟩
  cases op with
  | boot | put | leave | store | refuse | ping =>
      obtain ⟨-, rfl⟩ := Prod.mk.inj (Option.some.inj acted)
      first | exact same | exact placed ..
  | connection relay =>
      obtain ⟨owner, -, acted⟩ := Option.map_eq_some_iff.mp acted
      split_ifs at acted <;> obtain ⟨-, rfl⟩ := Prod.mk.inj acted
      · exact same
      · split
        · exact placed ..
        · exact ⟨known, by rw [List.getElem?_append_left (List.getElem?_eq_some_iff.mp found).1]; exact found, rfl, rfl,
            fun _ => le_rfl⟩
  | tryLock other =>
      rcases tryLock_acted acted with ⟨rfl, -⟩ | ⟨-, rfl⟩
      · exact same
      · exact changed other _ fun known => ⟨rfl, rfl, fun _ => Nat.le_succ known.locks⟩
  | unlock other =>
      obtain ⟨-, rfl⟩ := Prod.mk.inj (Option.some.inj acted)
      split
      · exact changed other _ fun known => ⟨rfl, rfl, fun apart => (apart rfl).elim⟩
      · exact same
  | giveBack other =>
      obtain ⟨-, rfl⟩ := Prod.mk.inj (Option.some.inj acted)
      exact changed other _ fun _ => ⟨rfl, rfl, fun _ => le_rfl⟩
  | found relay other =>
      obtain ⟨owner, -, acted⟩ := Option.bind_eq_some_iff.mp acted
      split_ifs at acted
      obtain ⟨-, rfl⟩ := Prod.mk.inj (Option.some.inj acted)
      exact placed ..
  | enter relay =>
      obtain ⟨lease, -, acted⟩ := Option.bind_eq_some_iff.mp acted
      split_ifs at acted
      obtain ⟨-, rfl⟩ := Prod.mk.inj (Option.some.inj acted)
      exact same
  | take relay =>
      obtain ⟨-, rfl⟩ := Prod.mk.inj (Option.some.inj acted)
      cases (fleet.leaseOf relay).bind Lease.connection with
      | none => exact same
      | some other => exact placed ..
  | close relay =>
      obtain ⟨-, rfl⟩ := Prod.mk.inj (Option.some.inj acted)
      refine ⟨_, by rw [Fleet.onRelay, Fleet.dropPooled, List.getElem?_map, found]; rfl, ?_⟩
      dsimp only
      split <;> exact ⟨rfl, rfl, fun _ => le_rfl⟩
  | grant relay =>
      obtain ⟨owner, -, acted⟩ := Option.map_eq_some_iff.mp acted
      obtain ⟨-, rfl⟩ := Prod.mk.inj acted
      exact same

/-- The session belongs to the relay and has the lock. -/
def Fleet.Has (fleet : Fleet) (relay session : ℕ) : Prop :=
  ∃ known, fleet.sessions[session]? = some known ∧ known.relay = relay ∧ known.holds = true

/-- A session loses the lock when it ends, or when the lease is released. -/
theorem served_has {before after : Fleet} {op : LeaseOp} {reply : op.Reply} {relay session : ℕ}
    (answered : serve.handler before op reply after) (has : before.Has relay session) :
    after.Has relay session ∨ op = .unlock session ∨
      ∃ known, after.sessions[session]? = some known ∧ known.ended = true := by
  obtain ⟨outside, acted⟩ := answered
  obtain ⟨known, found, owned, holds⟩ := has
  obtain ⟨middle, listed, ages⟩ := (pass_frame before outside).forward session known nofun found
  obtain ⟨later, there, owner, ended, locks⟩ := act_stays acted listed
  by_cases kept : op = .unlock session
  · exact .inr (.inl kept)
  · by_cases going : later.ended = true
    · exact .inr (.inr ⟨later, there, going⟩)
    · simp only [Session.holds, Bool.and_eq_true, decide_eq_true_eq] at holds
      refine .inl ⟨later, there, owner.trans (ages.relay.trans owned), ?_⟩
      simp only [Session.holds, Bool.and_eq_true, Bool.not_eq_true', decide_eq_true_eq]
      exact ⟨eq_false_of_ne_true going, (ages.locks ▸ holds.2).trans_le (locks kept)⟩

/-- A session that had the lock behind some turn has it still, if it has not lost it since. -/
theorem has_since (run : Run serve.handler task ⟨{}, []⟩ turns state) {earlier later : List LeaseTurn} {first : LeaseTurn}
    (split : turns = earlier ++ first :: later) {relay session : ℕ} (held : first.after.Has relay session)
    (kept : ∀ turn ∈ later, ¬ Loses turn session) : state.shared.Has relay session := by
  cases later with
  | nil =>
      rw [split] at run
      rw [(run_last run).1]
      exact held
  | cons turn rest =>
      have again : turns = (earlier ++ [first]) ++ turn :: rest := by rw [split, List.append_assoc]; rfl
      obtain ⟨-, -, reached⟩ := run_split run again
      have start : turn.before = first.after := (run_last reached).1
      refine run_from (Fleet.Has · relay session) run again (start ▸ held) fun next member has answered => ?_
      have quiet := kept next member
      rcases served_has answered has with still | lost | ended
      · exact still
      · exact (quiet (.inl lost)).elim
      · exact (quiet (.inr ended)).elim

theorem runs_going {fleet : Fleet} {outside : Outside} {session : ℕ} {known : Session}
    (runs : fleet.runs outside session = true) (found : fleet.sessions[session]? = some known) : known.ended = false := by
  simp only [Fleet.runs, found, Option.any_some, Bool.and_eq_true, Bool.not_eq_true'] at runs
  exact runs.2.1

theorem tryLock_taken {fleet after : Fleet} {outside : Outside} {session : ℕ} {known : Session} {reply : Except String Bool}
    (acted : fleet.act outside (.tryLock session) = some (reply, after)) (positive : reply.toOption = some true)
    (found : fleet.sessions[session]? = some known) :
    known.ended = false ∧ after.sessions[session]? = some { known with locks := known.locks + 1 } := by
  have runs : fleet.runs outside session = true := by
    by_contra silent
    simp only [Fleet.act, if_neg silent] at acted
    obtain ⟨rfl, -⟩ := Prod.mk.inj (Option.some.inj acted)
    cases positive
  rcases tryLock_acted acted with ⟨-, negative⟩ | ⟨-, rfl⟩
  · exact (negative positive).elim
  · refine ⟨runs_going runs found, ?_⟩
    rw [Fleet.lock, sessions_onSession, if_pos rfl, found]
    rfl

/-- A check tells the truth: the session is one of the relay and has the lock. -/
theorem checks_holds {turn : LeaseTurn} (good : turn.before.Good)
    (answered : serve.handler turn.before turn.op turn.reply turn.after) {relay session : ℕ} (checks : Checks turn relay session) :
    turn.after.Has relay session := by
  obtain ⟨told, own, leased⟩ := checks
  obtain ⟨outside, acted⟩ := answered
  rcases turn with ⟨⟨before, op, reply, after⟩, index, programs⟩
  dsimp only at *
  obtain ⟨known, found, rfl⟩ := Option.map_eq_some_iff.mp own
  have frame := pass_frame before outside
  obtain ⟨middle, listed, ages⟩ := frame.forward session known (by simp) found
  cases op with
  | tryLock asked =>
      simp only [confirmed] at told
      split_ifs at told with positive
      obtain rfl := Option.some.inj told
      obtain ⟨going, taken⟩ := tryLock_taken acted positive listed
      exact ⟨_, taken, ages.relay, by simp [Session.holds, going]⟩
  | ping asked =>
      simp only [confirmed] at told
      split_ifs at told with positive
      obtain rfl := Option.some.inj told
      obtain ⟨answer, rfl⟩ := Prod.mk.inj (Option.some.inj acted)
      have runs : (before.pass outside).runs outside asked = true := by
        rw [← answer] at positive
        exact (Bool.and_eq_true_iff.mp positive).1
      have lies : ((before.pass outside).leaseOf known.relay).bind Lease.connection = some asked := by
        rw [frame.leases known.relay (by simp)]
        exact leased rfl
      obtain ⟨owned, other, there, held⟩ := (frame.good good (by simp) (by simp) (by simp)).owner lies listed (runs_going runs listed)
      obtain rfl : middle = other := Option.some.inj (listed.symm.trans there)
      exact ⟨middle, listed, owned, held⟩
  | _ => cases told

/-- Between a check of one relay and a check of another one, the session of the first has ended, or
its lease was released. -/
theorem lease_handover (run : Run serve.handler task ⟨{}, []⟩ turns state) {earlier between later : List LeaseTurn}
    {first second : LeaseTurn} (split : turns = earlier ++ first :: (between ++ second :: later)) {one two session other : ℕ}
    (checked : Checks first one session) (rival : Checks second two other) (apart : one ≠ two) :
    ∃ turn ∈ between ++ [second], Loses turn session := by
  have again : turns = (earlier ++ first :: between) ++ second :: later := by rw [split, List.append_assoc]; rfl
  obtain ⟨answered, -, reached⟩ := run_split run split
  obtain ⟨rivalAnswered, -, rivalReached⟩ := run_split run again
  obtain ⟨programs, whole⟩ := run_until run again
  obtain ⟨stranger, there, owns, holds⟩ := checks_holds (run_good rivalReached) rivalAnswered rival
  by_contra never
  obtain ⟨known, found, owned, held⟩ := has_since whole (List.append_assoc ..) (checks_holds (run_good reached) answered checked)
    fun turn member loses => never ⟨turn, member, loses⟩
  obtain rfl := (run_good whole).exclusive session other ⟨known, found, held⟩ ⟨stranger, there, holds⟩
  obtain rfl : known = stranger := Option.some.inj (found.symm.trans there)
  exact apart (owned.symm.trans owns)

/-! ### Admissions -/

/-- The relay whose flag a call sets, and what to. -/
def sets : LeaseOp → Option (ℕ × Bool)
  | .store relay ready => some (relay, ready)
  | .found relay _ => some (relay, true)
  | _ => none

/-- The relay that lets a request in. -/
def admitted : (op : LeaseOp) → op.Reply → Option ℕ
  | .grant relay => fun reply : Except String Unit => if reply.isOk then some relay else none
  | _ => fun _ => none

def Fleet.ready (fleet : Fleet) (relay : ℕ) : Bool := fleet.relays[relay]?.any Relay.ready

/-- The flag of the relay was set by a task that had checked the lease, and by no task since. -/
def Told (turns : List LeaseTurn) (relay : ℕ) : Prop :=
  ∃ front check middle set back session, turns = front ++ check :: (middle ++ set :: back) ∧ Checks check relay session ∧
    check.task = set.task ∧ sets set.op = some (relay, true) ∧ ∀ turn ∈ back, ∀ ready, sets turn.op ≠ some (relay, ready)

theorem ready_onRelay {fleet : Fleet} {relay other : ℕ} {change : Relay → Relay}
    (keeps : ∀ known, (change known).ready = known.ready) : (fleet.onRelay other change).ready relay = fleet.ready relay := by
  unfold Fleet.ready Fleet.onRelay
  rw [List.getElem?_modify]
  cases fleet.relays[relay]? with
  | none => rfl
  | some known =>
      by_cases same : other = relay <;> simp [same, keeps]

theorem pass_relays (fleet : Fleet) (outside : Outside) : (fleet.pass outside).relays = fleet.relays := by
  have changed : ∀ (change : Session → Session) (list : List ℕ) (fleet : Fleet),
      (list.foldl (fun fleet session => fleet.onSession session change) fleet).relays = fleet.relays := by
    intro change list
    induction list with
    | nil => exact fun _ => rfl
    | cons session rest ih => exact fun fleet => ih (fleet.onSession session change)
  exact (changed _ outside.severed _).trans (changed _ outside.ended fleet)

/-- What a call does to the flags. -/
theorem act_ready {fleet after : Fleet} {outside : Outside} {op : LeaseOp} {reply : op.Reply} {relay : ℕ}
    (acted : fleet.act outside op = some (reply, after)) (ready : after.ready relay = true) :
    sets op = some (relay, true) ∨ ((∀ flag, sets op ≠ some (relay, flag)) ∧ fleet.ready relay = true) := by
  have changed : ∀ {middle : Fleet} {other : ℕ} {change : Relay → Relay}, (middle.onRelay other change).ready relay = true →
      middle.relays = fleet.relays → (∀ known, (change known).ready = known.ready) → fleet.ready relay = true := by
    intro middle other change ready same keeps
    rw [ready_onRelay keeps, Fleet.ready, same] at ready
    exact ready
  -- A call that sets no flag leaves the flag of the relay as it was.
  have still : sets op = none → fleet.ready relay = true →
      sets op = some (relay, true) ∨ ((∀ flag, sets op ≠ some (relay, flag)) ∧ fleet.ready relay = true) :=
    fun nothing was => .inr ⟨fun flag set => Option.some_ne_none _ (set.symm.trans nothing), was⟩
  cases op with
  | boot =>
      obtain ⟨-, rfl⟩ := Prod.mk.inj (Option.some.inj acted)
      refine still rfl ?_
      obtain ⟨known, found, set⟩ := (Option.any_eq_true _ _).mp ready
      rcases getElem?_append_singleton found with old | rfl
      · exact (Option.any_eq_true _ _).mpr ⟨known, old, set⟩
      · cases set
  | connection other =>
      obtain ⟨owner, -, acted⟩ := Option.map_eq_some_iff.mp acted
      split_ifs at acted <;> obtain ⟨-, rfl⟩ := Prod.mk.inj acted
      · exact still rfl ready
      · split at ready <;> exact still rfl ready
  | tryLock session =>
      rcases tryLock_acted acted with ⟨rfl, -⟩ | ⟨-, rfl⟩ <;> exact still rfl ready
  | ping | giveBack =>
      obtain ⟨-, rfl⟩ := Prod.mk.inj (Option.some.inj acted)
      exact still rfl ready
  | unlock session =>
      obtain ⟨-, rfl⟩ := Prod.mk.inj (Option.some.inj acted)
      split at ready <;> exact still rfl ready
  | found other session =>
      obtain ⟨owner, listed, acted⟩ := Option.bind_eq_some_iff.mp acted
      split_ifs at acted
      obtain ⟨-, rfl⟩ := Prod.mk.inj (Option.some.inj acted)
      by_cases same : other = relay
      · exact .inl (same ▸ rfl)
      · refine .inr ⟨fun flag set => same (Prod.mk.inj (Option.some.inj set)).1, ?_⟩
        simpa [Fleet.ready, Fleet.onRelay, Fleet.onSession, List.getElem?_modify, same] using ready
  | enter other =>
      obtain ⟨lease, -, acted⟩ := Option.bind_eq_some_iff.mp acted
      split_ifs at acted
      obtain ⟨-, rfl⟩ := Prod.mk.inj (Option.some.inj acted)
      exact still rfl (changed ready rfl fun _ => rfl)
  | take other =>
      obtain ⟨-, rfl⟩ := Prod.mk.inj (Option.some.inj acted)
      refine still rfl ?_
      cases taken : (fleet.leaseOf other).bind Lease.connection with
      | none => exact changed (taken ▸ ready :) rfl fun _ => rfl
      | some session => exact changed (taken ▸ ready :) rfl fun _ => rfl
  | put other session =>
      obtain ⟨-, rfl⟩ := Prod.mk.inj (Option.some.inj acted)
      exact still rfl (changed ready rfl fun _ => rfl)
  | leave other | refuse other =>
      obtain ⟨-, rfl⟩ := Prod.mk.inj (Option.some.inj acted)
      exact still rfl (changed ready rfl fun _ => rfl)
  | close other =>
      obtain ⟨-, rfl⟩ := Prod.mk.inj (Option.some.inj acted)
      exact still rfl (changed ready rfl fun _ => rfl)
  | store other flag =>
      obtain ⟨-, rfl⟩ := Prod.mk.inj (Option.some.inj acted)
      by_cases same : other = relay
      · subst same
        cases flag with
        | true => exact .inl rfl
        | false =>
            obtain ⟨known, found, set⟩ := (Option.any_eq_true _ _).mp ready
            rw [Fleet.onRelay, List.getElem?_modify] at found
            obtain ⟨old, -, rfl⟩ := Option.map_eq_some_iff.mp found
            simp at set
      · refine .inr ⟨fun flag set => same (Prod.mk.inj (Option.some.inj set)).1, ?_⟩
        simpa [Fleet.ready, Fleet.onRelay, List.getElem?_modify, same] using ready
  | grant other =>
      obtain ⟨owner, -, acted⟩ := Option.map_eq_some_iff.mp acted
      obtain ⟨-, rfl⟩ := Prod.mk.inj acted
      exact still rfl ready

/-- A task sees the lock of a relay only in a check. -/
theorem seen_checks {turn : LeaseTurn} {hands target : Hands} {relay : ℕ} (good : turn.before.Good)
    (holds : hands.Holds turn.before) (allowed : next hands turn.op turn.reply = some target) (seen : target.seen = some relay) :
    hands.seen = some relay ∨ ∃ session, Checks turn relay session := by
  rcases turn with ⟨⟨before, op, reply, after⟩, index, programs⟩
  dsimp only at good holds allowed
  cases op with
  | tryLock session =>
      simp only [next, Option.bind_eq_some_iff] at allowed
      obtain ⟨borrowed, object, allowed⟩ := allowed
      split_ifs at allowed with same positive <;> obtain rfl := Option.some.inj allowed
      · obtain rfl := Option.some.inj seen
        obtain ⟨known, found, owned, -⟩ := holds.object borrowed object
        subst same
        exact .inr ⟨borrowed.session, if_pos positive, by rw [found, Option.map_some, owned], by simp⟩
      · exact .inl seen
  | ping session =>
      simp only [next] at allowed
      split at allowed
      · rename_i entered connection lease
        split_ifs at allowed with fits <;> obtain rfl := Option.some.inj allowed
        · obtain ⟨positive, same⟩ := Bool.and_eq_true_iff.mp fits
          obtain rfl := eq_of_beq same
          obtain rfl := Option.some.inj seen
          have lies := holds.lease entered (some connection) lease
          obtain ⟨known, found, owned, -⟩ := good.leases entered _ connection lies rfl
          exact .inr ⟨connection, if_pos positive, by rw [found, Option.map_some, owned], fun _ => by rw [lies]; rfl⟩
        · exact .inl seen
      · obtain rfl := Option.some.inj allowed
        exact .inl seen
  | boot | close | refuse | grant =>
      obtain rfl := Option.some.inj allowed
      exact .inl seen
  | connection | giveBack | found | enter | take | put | leave | store =>
      simp only [next] at allowed
      split_ifs at allowed
      obtain rfl := Option.some.inj allowed
      exact .inl seen
  | unlock session =>
      simp only [next, Option.bind_eq_some_iff] at allowed
      obtain ⟨borrowed, object, allowed⟩ := allowed
      split_ifs at allowed
      obtain rfl := Option.some.inj allowed
      exact .inl seen

theorem sets_seen {hands target : Hands} {op : LeaseOp} {reply : op.Reply} {relay : ℕ}
    (allowed : next hands op reply = some target) (set : sets op = some (relay, true)) : hands.seen = some relay := by
  cases op with
  | store other ready =>
      obtain ⟨rfl, rfl⟩ := Prod.mk.inj (Option.some.inj set)
      simp only [next] at allowed
      split_ifs at allowed with seen
      exact seen trivial
  | found other session =>
      obtain ⟨rfl, -⟩ := Prod.mk.inj (Option.some.inj set)
      simp only [next] at allowed
      split_ifs at allowed with fits
      exact fits.2
  | _ => cases set

/-- The tasks behind some turns: what each of them has seen it saw in a turn of its own. -/
structure Watched (turns : List LeaseTurn) (shared : Fleet) (hands : List Hands) : Prop where
  kept : ownership.Kept shared hands
  seen : ∀ (index : ℕ) (known : Hands) (relay : ℕ), hands[index]? = some known → known.seen = some relay →
    ∃ check ∈ turns, check.task = index ∧ ∃ session, Checks check relay session
  told : ∀ relay, shared.ready relay = true → Told turns relay

theorem told_later {turn : LeaseTurn} {relay : ℕ} (told : Told turns relay)
    (quiet : ∀ ready, sets turn.op ≠ some (relay, ready)) : Told (turns ++ [turn]) relay := by
  obtain ⟨front, check, middle, set, back, session, rfl, checks, same, setting, others⟩ := told
  refine ⟨front, check, middle, set, back ++ [turn], session, by simp, checks, same, setting, fun other member => ?_⟩
  rcases List.mem_append.mp member with old | new
  · exact others other old
  · rw [List.mem_singleton.mp new]
    exact quiet

theorem watched_moves {hands : List Hands} {turn : LeaseTurn} {known target : Hands}
    (watched : Watched turns turn.before hands) (found : hands[turn.task]? = some known)
    (allowed : next known turn.op turn.reply = some target)
    (answered : serve.handler turn.before turn.op turn.reply turn.after) :
    Watched (turns ++ [turn]) turn.after (hands.set turn.task target) := by
  have stands := watched.kept.stands known (List.mem_of_getElem? found)
  refine ⟨watched.kept.moves found (served_step watched.kept.good stands.holds allowed answered), ?_, fun relay ready => ?_⟩
  · intro index other relay listed seen
    rcases getElem?_set_cases listed with ⟨rfl, rfl⟩ | ⟨-, old⟩
    · rcases seen_checks watched.kept.good stands.holds allowed seen with before | ⟨session, checks⟩
      · obtain ⟨check, member, rest⟩ := watched.seen _ known relay found before
        exact ⟨check, List.mem_append_left _ member, rest⟩
      · exact ⟨turn, by simp, rfl, session, checks⟩
    · obtain ⟨check, member, rest⟩ := watched.seen index other relay old seen
      exact ⟨check, List.mem_append_left _ member, rest⟩
  · obtain ⟨outside, acted⟩ := answered
    rcases act_ready acted ready with set | ⟨quiet, before⟩
    · obtain ⟨check, member, same, session, checks⟩ := watched.seen _ known relay found (sets_seen allowed set)
      obtain ⟨front, middle, rfl⟩ := List.append_of_mem member
      exact ⟨front, check, middle, turn, [], session, by simp, checks, same, set, nofun⟩
    · rw [Fleet.ready, pass_relays] at before
      exact told_later (watched.told relay before) quiet

theorem run_told (run : Run serve.handler task ⟨{}, []⟩ turns state) {relay : ℕ} (ready : state.shared.ready relay = true) :
    Told turns relay := by
  have nothing : ∀ resource, ¬ ownership.owns {} resource := by
    rintro (relay | session) <;> nofun
  have start : Watched [] {} [] := ⟨⟨good_empty, nofun, fun one _ _ _ _ found => by simp at found⟩, by simp, by simp [Fleet.ready]⟩
  have joins : ∀ turns shared hands (caller : Caller), Watched turns shared hands → Watched turns shared (hands ++ [({} : Hands)]) := by
    intro turns shared hands caller watched
    refine ⟨watched.kept.joins ⟨nofun, nofun⟩ nothing, fun index known relay listed seen => ?_, watched.told⟩
    rcases getElem?_append_singleton listed with old | rfl
    · exact watched.seen index known relay old seen
    · cases seen
  obtain ⟨hands, -, watched⟩ := run_phases (fun _ => {}) task_follows Watched start rfl joins
    (fun turns hands known target turn watched _ found allowed answered => watched_moves watched found allowed answered) run
  exact watched.told relay ready

theorem admission_ready {known : Relay} (ok : (Fleet.admission known).isOk = true) : known.ready = true := by
  unfold Fleet.admission at ok
  cases accepting : known.accepting <;> cases ready : known.ready <;> simp [accepting, ready, Except.isOk, Except.toBool] at ok ⊢

/-- A relay that lets a request in was told by one of its tasks that it has the lock, and by no task
otherwise since. If another relay has checked its own lease in the meantime, then the session of the
first had ended before, or its lease was released. -/
theorem lease_admits (run : Run serve.handler task ⟨{}, []⟩ turns state) {earlier later : List LeaseTurn} {turn : LeaseTurn}
    (split : turns = earlier ++ turn :: later) {relay : ℕ} (admits : admitted turn.op turn.reply = some relay) :
    ∃ front check middle set back session, earlier = front ++ check :: (middle ++ set :: back) ∧
      Checks check relay session ∧ check.task = set.task ∧ sets set.op = some (relay, true) ∧
      (∀ other ∈ back, ∀ ready, sets other.op ≠ some (relay, ready)) ∧
      ∀ between rival rest two other, middle ++ set :: back = between ++ rival :: rest → Checks rival two other → two ≠ relay →
        ∃ loss ∈ between ++ [rival], Loses loss session := by
  obtain ⟨answered, -, reached⟩ := run_split run split
  have ready : turn.before.ready relay = true := by
    rcases turn with ⟨⟨before, op, reply, after⟩, index, programs⟩
    obtain ⟨outside, acted⟩ := answered
    cases op with
    | grant asked =>
        simp only [admitted] at admits
        split_ifs at admits with ok
        obtain rfl := Option.some.inj admits
        obtain ⟨known, found, acted⟩ := Option.map_eq_some_iff.mp acted
        obtain ⟨rfl, -⟩ := Prod.mk.inj acted
        rw [pass_relays] at found
        exact (Option.any_eq_true _ _).mpr ⟨known, found, admission_ready ok⟩
    | _ => cases admits
  obtain ⟨front, check, middle, set, back, session, rfl, checks, same, setting, others⟩ := run_told reached ready
  refine ⟨front, check, middle, set, back, session, rfl, checks, same, setting, others, ?_⟩
  intro between rival rest two other found rivals apart
  have again : turns = front ++ check :: (between ++ rival :: (rest ++ turn :: later)) := by
    rw [split, found]
    simp
  exact lease_handover run again checks rivals apart.symm

end Runs

/-! ### A lease that goes from one relay to another -/

instance (turn : LeaseTurn) (relay session : ℕ) : Decidable (Checks turn relay session) :=
  decidable_of_iff (confirmed turn.op turn.reply = some session ∧ (turn.before.sessions[session]?).map Session.relay = some relay ∧
      (turn.op = .ping session → (turn.before.leaseOf relay).bind Lease.connection = some session))
    ⟨fun ⟨told, own, leased⟩ => ⟨told, own, leased⟩, fun ⟨told, own, leased⟩ => ⟨told, own, leased⟩⟩

/-- The first relay starts, its session ends, and the second one starts. Then the first is asked. -/
def handedOver : List (Move Caller Outside) :=
  [.enter .start, .enter .start, .enter (.request 0),
    .turn 0 {}, .turn 0 {}, .turn 0 {}, .turn 0 {}, .turn 0 { choice := some 0 }, .turn 0 {}, .turn 0 {},
    .turn 1 { ended := [0] }, .turn 1 {}, .turn 1 {}, .turn 1 {}, .turn 1 { choice := some 1 }, .turn 1 {}, .turn 1 {},
    .turn 2 {}]

theorem split_at {A : Type} {list : List A} {index : ℕ} {element : A} (found : list[index]? = some element) :
    list = list.take index ++ element :: list.drop (index + 1) := by
  obtain ⟨inside, rfl⟩ := List.getElem?_eq_some_iff.mp found
  rw [← List.drop_eq_getElem_cons inside, List.take_append_drop]

theorem handedOver_reaches : ∃ (earlier between later : List LeaseTurn) (first second turn : LeaseTurn) (state : _),
    Run serve.handler task ⟨{}, []⟩ (earlier ++ first :: (between ++ second :: (later ++ [turn]))) state ∧
      Checks first 0 0 ∧ Checks second 1 1 ∧ admitted turn.op turn.reply = some 0 ∧
      state.shared.leaseOf 1 = some ⟨some 1, false⟩ ∧ state.shared.sessions[1]?.map Session.ended = some false := by
  have passed : ((replay serve task ⟨{}, []⟩ handedOver).any fun reached =>
      reached.1.length == 15 && reached.1[5]?.any (fun turn => decide (Checks turn 0 0)) &&
        reached.1[12]?.any (fun turn => decide (Checks turn 1 1)) &&
        reached.1[14]?.any (fun turn => admitted turn.op turn.reply == some 0) &&
        (reached.2.shared.leaseOf 1 == some ⟨some 1, false⟩) &&
        (reached.2.shared.sessions[1]?.map Session.ended == some false)) = true := by
    decide +kernel
  obtain ⟨turns, state, run, tested⟩ := replay_reaches passed
  simp only [Bool.and_eq_true, beq_iff_eq, Option.any_eq_true, decide_eq_true_eq] at tested
  obtain ⟨⟨⟨⟨⟨length, first, found, one⟩, second, listed, two⟩, turn, last, asked⟩, lease⟩, going⟩ := tested
  have middle : (turns.drop 6)[6]? = some second := by rw [List.getElem?_drop]; exact listed
  have final : (turns.drop 13)[1]? = some turn := by rw [List.getElem?_drop]; exact last
  have split : turns = turns.take 5 ++ first :: ((turns.drop 6).take 6 ++ second :: ((turns.drop 13).take 1 ++ [turn])) := by
    have rest : turns.drop 13 = (turns.drop 13).take 1 ++ [turn] := by
      have ended : (turns.drop 13).drop 2 = [] := List.drop_eq_nil_of_le (by simp [length])
      exact (split_at final).trans (by rw [ended])
    have tail := split_at middle
    rw [List.drop_drop] at tail
    rw [← rest, ← tail]
    exact split_at found
  exact ⟨_, _, _, first, second, turn, state, split ▸ run, one, two, asked, lease, going⟩

theorem owner_exclusive_second : ∃ fleet : Fleet, fleet.Owner 1 ∧ ∀ relay, fleet.Owner relay → relay = 1 := by
  obtain ⟨_, _, _, _, _, _, state, run, _, _, _, lease, going⟩ := handedOver_reaches
  obtain ⟨known, found, ended⟩ := Option.map_eq_some_iff.mp going
  have owner : state.shared.Owner 1 := ⟨1, known, by rw [lease]; rfl, found, ended⟩
  exact ⟨state.shared, owner, fun relay owns => (owner_exclusive run).1 relay 1 owns owner⟩

theorem lease_handover_lost : ∃ turns : List LeaseTurn, ∃ turn ∈ turns, Loses turn 0 := by
  obtain ⟨earlier, between, later, first, second, turn, state, run, one, two, -⟩ := handedOver_reaches
  exact ⟨_, lease_handover run rfl one two (by decide)⟩

/-- The first relay lets a request in although the second one has the lock by then. -/
theorem lease_admits_late : ∃ turns : List LeaseTurn, ∃ check ∈ turns, ∃ session, Checks check 0 session ∧
    ∃ rival ∈ turns, Checks rival 1 1 := by
  obtain ⟨earlier, between, later, first, second, turn, state, run, one, two, asked, -⟩ := handedOver_reaches
  have split : earlier ++ first :: (between ++ second :: (later ++ [turn])) =
      (earlier ++ first :: (between ++ second :: later)) ++ turn :: [] := by simp
  obtain ⟨front, check, middle, set, back, session, same, checks, -⟩ := lease_admits run split asked
  exact ⟨earlier ++ first :: (between ++ second :: later), check, same ▸ by simp, session, checks, second, by simp, two⟩

end PaladinsCat.OwnerLease
