import PaladinsCat.OwnerLease

/-!
What one call does to the relays. Of all sessions that the database has, one at most has the lock,
and a session whose connection lies in a lease has it: nobody but the owner of a connection takes or
gives back a lock over it.
-/

namespace PaladinsCat.OwnerLease

open Interleaving Program

/-! ### Invariants -/

inductive Resource where
  | lease (relay : ℕ)
  | connection (session : ℕ)

def Hands.owns (hands : Hands) : Resource → Prop
  | .lease relay => hands.lease.map Prod.fst = some relay
  | .connection session => hands.object.map Borrowed.session = some session

/-- A lease that nobody has entered, and a connection that no task has. -/
def Fleet.free (fleet : Fleet) : Resource → Prop
  | .lease relay => ∀ lease ∈ fleet.leaseOf relay, lease.entered = false
  | .connection session => ∀ known ∈ fleet.sessions[session]?, known.place ≠ .borrowed

def Fleet.holds (fleet : Fleet) (session : ℕ) : Prop := ∃ known ∈ fleet.sessions[session]?, known.holds = true

/-- The session belongs to the relay, its connection is at the place, and it has the lock unless it has ended. -/
def Fleet.Locked (fleet : Fleet) (relay session : ℕ) (place : Place) : Prop :=
  ∃ known, fleet.sessions[session]? = some known ∧ known.relay = relay ∧ known.place = place ∧
    (known.ended = false → 0 < known.locks)

structure Fleet.Good (fleet : Fleet) : Prop where
  exclusive : ∀ one two, fleet.holds one → fleet.holds two → one = two
  leases : ∀ relay lease session, fleet.leaseOf relay = some lease → lease.connection = some session →
    fleet.Locked relay session .leased

structure Hands.Holds (hands : Hands) (fleet : Fleet) : Prop where
  lease : ∀ relay connection, hands.lease = some (relay, connection) → fleet.leaseOf relay = some ⟨connection, true⟩
  object : ∀ borrowed, hands.object = some borrowed → ∃ known, fleet.sessions[borrowed.session]? = some known ∧
    known.relay = borrowed.relay ∧ known.place = .borrowed ∧ (borrowed.locked = true → known.ended = false → 0 < known.locks)

def ownership : Ownership Fleet Hands Resource where
  owns := Hands.owns
  free := Fleet.free
  good := Fleet.Good
  holds := Hands.Holds

theorem Hands.Holds.stands {hands : Hands} {fleet : Fleet} (holds : hands.Holds fleet) : ownership.Stands hands fleet where
  holds := holds
  taken resource owned := by
    cases resource with
    | lease relay =>
        obtain ⟨⟨entered, connection⟩, found, rfl⟩ := Option.map_eq_some_iff.mp owned
        intro free
        exact absurd (free _ (holds.lease _ _ found)) (by simp)
    | connection session =>
        obtain ⟨borrowed, found, rfl⟩ := Option.map_eq_some_iff.mp owned
        obtain ⟨known, listed, -, place, -⟩ := holds.object borrowed found
        exact fun free => free known listed place

/-! ### Frames -/

/-- Nothing but the end of a session and the break of a connection. -/
structure Ages (known later : Session) : Prop where
  relay : later.relay = known.relay
  place : later.place = known.place
  locks : later.locks = known.locks
  ended : known.ended = true → later.ended = true

theorem Ages.refl (known : Session) : Ages known known := ⟨rfl, rfl, rfl, id⟩

theorem Ages.trans {first second third : Session} (one : Ages first second) (two : Ages second third) : Ages first third :=
  ⟨two.relay.trans one.relay, two.place.trans one.place, two.locks.trans one.locks, two.ended ∘ one.ended⟩

theorem Ages.holds {known later : Session} (ages : Ages known later) (held : later.holds = true) : known.holds = true := by
  have locks := ages.locks
  have ended := ages.ended
  simp only [Session.holds, Bool.and_eq_true, Bool.not_eq_true', decide_eq_true_eq] at held ⊢
  refine ⟨?_, locks ▸ held.2⟩
  cases gone : known.ended with
  | false => rfl
  | true => exact (ended gone).symm.trans held.1

theorem Ages.locked {known later : Session} (ages : Ages known later) (locked : known.ended = false → 0 < known.locks)
    (going : later.ended = false) : 0 < later.locks := by
  rw [ages.locks]
  apply locked
  cases gone : known.ended with
  | false => rfl
  | true => exact (ages.ended gone).symm.trans going

/-- Only the lease of the relay changes, and only the session does more than age. -/
structure Frame (relay session : Option ℕ) (before after : Fleet) : Prop where
  leases : ∀ other, relay ≠ some other → after.leaseOf other = before.leaseOf other
  forward : ∀ other known, session ≠ some other → before.sessions[other]? = some known →
    ∃ later, after.sessions[other]? = some later ∧ Ages known later
  backward : ∀ other later, session ≠ some other → after.sessions[other]? = some later →
    ∃ known, before.sessions[other]? = some known ∧ Ages known later

theorem Frame.refl (relay session : Option ℕ) (fleet : Fleet) : Frame relay session fleet fleet where
  leases _ _ := rfl
  forward _ known _ found := ⟨known, found, .refl known⟩
  backward _ later _ found := ⟨later, found, .refl later⟩

theorem Frame.trans {relay session : Option ℕ} {before middle after : Fleet} (first : Frame relay session before middle)
    (second : Frame relay session middle after) : Frame relay session before after where
  leases other apart := (second.leases other apart).trans (first.leases other apart)
  forward other known apart found := by
    obtain ⟨between, there, one⟩ := first.forward other known apart found
    obtain ⟨later, here, two⟩ := second.forward other between apart there
    exact ⟨later, here, one.trans two⟩
  backward other later apart found := by
    obtain ⟨between, there, two⟩ := second.backward other later apart found
    obtain ⟨known, here, one⟩ := first.backward other between apart there
    exact ⟨known, here, one.trans two⟩

theorem Frame.wider {before after : Fleet} {relay session : Option ℕ} (frame : Frame none session before after) :
    Frame relay session before after where
  leases other _ := frame.leases other nofun
  forward := frame.forward
  backward := frame.backward

/-- A session and a lease are changed one after the other. -/
theorem Frame.both {before middle after : Fleet} {relay session : ℕ} (first : Frame none (some session) before middle)
    (second : Frame (some relay) none middle after) : Frame (some relay) (some session) before after :=
  first.wider.trans ⟨second.leases, fun other known _ => second.forward other known nofun,
    fun other later _ => second.backward other later nofun⟩

theorem Frame.holds {relay session : Option ℕ} {before after : Fleet} (frame : Frame relay session before after) {other : ℕ}
    (apart : session ≠ some other) (held : after.holds other) : before.holds other := by
  obtain ⟨later, found, holds⟩ := held
  obtain ⟨known, listed, ages⟩ := frame.backward other later apart found
  exact ⟨known, listed, ages.holds holds⟩

theorem Frame.locked {relay session : Option ℕ} {before after : Fleet} (frame : Frame relay session before after) {place : Place}
    {owner other : ℕ} (apart : session ≠ some other) (locked : before.Locked owner other place) :
    after.Locked owner other place := by
  obtain ⟨known, found, owned, placed, holds⟩ := locked
  obtain ⟨later, listed, ages⟩ := frame.forward other known apart found
  exact ⟨later, listed, ages.relay.trans owned, ages.place.trans placed, ages.locked holds⟩

/-- The hands of a task stay as they are when others do something. -/
theorem Frame.hands {relay session : Option ℕ} {before after : Fleet} (frame : Frame relay session before after) {hands : Hands}
    (holds : hands.Holds before) (noLease : ∀ other, relay = some other → ¬ hands.owns (.lease other))
    (noObject : ∀ other, session = some other → ¬ hands.owns (.connection other)) : hands.Holds after where
  lease other connection found := by
    rw [frame.leases other fun same => noLease other same (by simp [Hands.owns, found])]
    exact holds.lease other connection found
  object borrowed found := by
    have apart : session ≠ some borrowed.session := fun same => noObject _ same (by simp [Hands.owns, found])
    obtain ⟨known, listed, owned, placed, locked⟩ := holds.object borrowed found
    obtain ⟨later, here, ages⟩ := frame.forward _ known apart listed
    exact ⟨later, here, ages.relay.trans owned, ages.place.trans placed, fun held => ages.locked (locked held)⟩

theorem Frame.free {before after : Fleet} (frame : Frame none none before after) {resource : Resource}
    (free : after.free resource) : before.free resource := by
  cases resource with
  | lease relay =>
      intro lease found
      exact free lease (by rwa [Option.mem_def, frame.leases relay nofun])
  | connection session =>
      intro known found
      obtain ⟨later, listed, ages⟩ := frame.forward session known nofun found
      exact ages.place ▸ free later listed

/-- The lock stays with one session, and with those that lie in a lease. -/
theorem Frame.good {relay session : Option ℕ} {before after : Fleet} (frame : Frame relay session before after)
    (good : before.Good)
    (holder : ∀ other, session = some other → after.holds other → before.holds other ∨ ∀ rival, rival ≠ other → ¬ before.holds rival)
    (own : ∀ other lease connection, relay = some other → after.leaseOf other = some lease →
      lease.connection = some connection → after.Locked other connection .leased)
    (elsewhere : ∀ other owner, session = some other → relay ≠ some owner → ¬ before.Locked owner other .leased) :
    after.Good where
  exclusive one two first second := by
    by_cases own : session = some one <;> by_cases other : session = some two
    · exact Option.some.inj (own.symm.trans other)
    · rcases holder one own first with held | nobody
      · exact good.exclusive one two held (frame.holds other second)
      · by_contra apart
        exact nobody two (fun same => apart same.symm) (frame.holds other second)
    · rcases holder two other second with held | nobody
      · exact good.exclusive one two (frame.holds own first) held
      · by_contra apart
        exact nobody one apart (frame.holds own first)
    · exact good.exclusive one two (frame.holds own first) (frame.holds other second)
  leases other lease connection found lies := by
    by_cases same : relay = some other
    · exact own other lease connection same found lies
    · rw [frame.leases other same] at found
      have locked := good.leases other lease connection found lies
      exact frame.locked (fun taken => elsewhere connection other taken same locked) locked

/-- A call that changes no more than the task may change. -/
theorem Frame.step {relay session : Option ℕ} {before after : Fleet} (frame : Frame relay session before after)
    {hands target : Hands} (good : after.Good) (own : target.Holds after)
    (lease : ∀ other, relay = some other → hands.owns (.lease other) ∨ before.free (.lease other))
    (object : ∀ other, session = some other → hands.owns (.connection other) ∨ before.free (.connection other))
    (takes : ∀ resource, target.owns resource → hands.owns resource ∨ before.free resource) :
    ownership.Step before hands after target where
  good := good
  own := own.stands
  takes := takes
  others other stands apart := by
    refine (frame.hands stands.holds (fun index same owned => ?_) (fun index same owned => ?_)).stands
    · rcases lease index same with mine | free
      · exact apart (.lease index) mine owned
      · exact stands.taken (.lease index) owned free
    · rcases object index same with mine | free
      · exact apart (.connection index) mine owned
      · exact stands.taken (.connection index) owned free

/-- The calls of other tasks, and what happens outside, come first. -/
theorem Frame.step_after {before middle after : Fleet} (frame : Frame none none before middle) {hands target : Hands}
    (step : ownership.Step middle hands after target) : ownership.Step before hands after target where
  good := step.good
  own := step.own
  takes resource owned := (step.takes resource owned).imp_right frame.free
  others other stands apart := step.others other (frame.hands stands.holds nofun nofun).stands apart

/-! ### Updates -/

theorem leaseOf_onRelay (fleet : Fleet) (relay other : ℕ) (change : Relay → Relay) :
    (fleet.onRelay relay change).leaseOf other =
      if relay = other then fleet.relays[relay]?.bind fun known => (change known).lease else fleet.leaseOf other := by
  unfold Fleet.leaseOf Fleet.onRelay
  rw [List.getElem?_modify]
  split
  · rename_i same
    subst same
    cases fleet.relays[relay]? <;> simp
  · simp

theorem sessions_onSession (fleet : Fleet) (session other : ℕ) (change : Session → Session) :
    (fleet.onSession session change).sessions[other]? =
      if session = other then fleet.sessions[session]?.map change else fleet.sessions[other]? := by
  unfold Fleet.onSession
  rw [List.getElem?_modify]
  split
  · rename_i same
    rw [same]
    rfl
  · simp

theorem onSession_frame (fleet : Fleet) (session : ℕ) (change : Session → Session) :
    Frame none (some session) fleet (fleet.onSession session change) where
  leases _ _ := rfl
  forward other known apart found :=
    ⟨known, by rwa [sessions_onSession, if_neg fun same => apart (congrArg some same)], .refl known⟩
  backward other later apart found :=
    ⟨later, by rwa [sessions_onSession, if_neg fun same => apart (congrArg some same)] at found, .refl later⟩

theorem onSession_ages (fleet : Fleet) (session : ℕ) {change : Session → Session} (ages : ∀ known, Ages known (change known)) :
    Frame none none fleet (fleet.onSession session change) where
  leases _ _ := rfl
  forward other known _ found := by
    rw [sessions_onSession]
    split
    · rename_i same
      subst same
      exact ⟨change known, by rw [found]; rfl, ages known⟩
    · exact ⟨known, found, .refl known⟩
  backward other later _ found := by
    rw [sessions_onSession] at found
    split at found
    · rename_i same
      subst same
      obtain ⟨known, listed, rfl⟩ := Option.map_eq_some_iff.mp found
      exact ⟨known, listed, ages known⟩
    · exact ⟨later, found, .refl later⟩

theorem onRelay_frame (fleet : Fleet) (relay : ℕ) (change : Relay → Relay) :
    Frame (some relay) none fleet (fleet.onRelay relay change) where
  leases other apart := by rw [leaseOf_onRelay, if_neg fun same => apart (congrArg some same)]
  forward other known _ found := ⟨known, found, .refl known⟩
  backward other later _ found := ⟨later, found, .refl later⟩

theorem onRelay_keeps (fleet : Fleet) (relay : ℕ) {change : Relay → Relay} (keeps : ∀ known, (change known).lease = known.lease) :
    Frame none none fleet (fleet.onRelay relay change) where
  leases other _ := by
    rw [leaseOf_onRelay]
    split
    · rename_i same
      subst same
      unfold Fleet.leaseOf
      cases fleet.relays[relay]? <;> simp [keeps]
    · rfl
  forward other known _ found := ⟨known, found, .refl known⟩
  backward other later _ found := ⟨later, found, .refl later⟩

theorem pass_frame (fleet : Fleet) (outside : Outside) : Frame none none fleet (fleet.pass outside) := by
  have changed : ∀ (change : Session → Session), (∀ known, Ages known (change known)) → ∀ (list : List ℕ) (fleet : Fleet),
      Frame none none fleet (list.foldl (fun fleet session => fleet.onSession session change) fleet) := by
    intro change ages list
    induction list with
    | nil => exact fun fleet => .refl none none fleet
    | cons session rest ih => exact fun fleet => (onSession_ages fleet session ages).trans (ih _)
  exact (changed (fun known => { known with ended := true }) (fun known => ⟨rfl, rfl, rfl, fun _ => rfl⟩) _ fleet).trans
    (changed (fun known => { known with closed := true }) (fun known => ⟨rfl, rfl, rfl, id⟩) _ _)

theorem dropPooled_frame (fleet : Fleet) (relay : ℕ) : Frame none none fleet (fleet.dropPooled relay) where
  leases _ _ := rfl
  forward other known _ found := by
    refine ⟨_, by rw [Fleet.dropPooled, List.getElem?_map, found]; rfl, ?_⟩
    dsimp only
    split <;> exact ⟨rfl, rfl, rfl, id⟩
  backward other later _ found := by
    rw [Fleet.dropPooled, List.getElem?_map] at found
    obtain ⟨known, listed, rfl⟩ := Option.map_eq_some_iff.mp found
    refine ⟨known, listed, ?_⟩
    split <;> exact ⟨rfl, rfl, rfl, id⟩

/-! ### Calls -/

section Calls
variable {fleet after : Fleet} {hands target : Hands} {outside : Outside}

/-- Calls about no lease and no lock. -/
theorem quiet_step (good : fleet.Good) (holds : hands.Holds fleet) (frame : Frame none none fleet after)
    (lease : target.lease = hands.lease) (object : target.object = hands.object) : ownership.Step fleet hands after target := by
  have kept : hands.Holds after := frame.hands holds nofun nofun
  refine frame.step (frame.good good nofun nofun nofun) ⟨?_, ?_⟩ nofun nofun fun resource owned => .inl ?_
  · rw [lease]
    exact kept.lease
  · rw [object]
    exact kept.object
  · cases resource <;> simpa [Hands.owns, lease, object] using owned

/-- A connection that a task has lies in no lease. -/
theorem object_apart (holds : hands.Holds fleet) {borrowed : Borrowed} (object : hands.object = some borrowed) (owner : ℕ) :
    ¬ fleet.Locked owner borrowed.session .leased := by
  rintro ⟨known, found, -, place, -⟩
  obtain ⟨other, listed, -, elsewhere, -⟩ := holds.object borrowed object
  obtain rfl : known = other := Option.some.inj (found.symm.trans listed)
  rw [place] at elsewhere
  cases elsewhere

/-- Calls that take a lock, or give it back, over the connection that the task has. -/
theorem object_step (good : fleet.Good) (holds : hands.Holds fleet) {borrowed : Borrowed}
    (object : hands.object = some borrowed) {change : Session → Session}
    (keeps : ∀ known, (change known).relay = known.relay ∧ (change known).place = known.place)
    (holder : ∀ known, fleet.sessions[borrowed.session]? = some known → (change known).holds = true → known.holds = true ∨
      ∀ rival, rival ≠ borrowed.session → ¬ fleet.holds rival)
    {locked : Bool} (taken : locked = true → ∀ known, fleet.sessions[borrowed.session]? = some known →
      (change known).ended = false → 0 < (change known).locks)
    (lease : target.lease = hands.lease) (result : target.object = some { borrowed with locked }) :
    ownership.Step fleet hands (fleet.onSession borrowed.session change) target := by
  have frame := onSession_frame fleet borrowed.session change
  obtain ⟨known, found, owned, place, -⟩ := holds.object borrowed object
  have changed : (fleet.onSession borrowed.session change).sessions[borrowed.session]? = some (change known) := by
    rw [sessions_onSession, if_pos rfl, found]
    rfl
  refine frame.step (frame.good good ?_ nofun ?_) ⟨?_, ?_⟩ nofun ?_ ?_
  · rintro other same ⟨later, listed, held⟩
    obtain rfl := Option.some.inj same
    obtain rfl : change known = later := Option.some.inj (changed.symm.trans listed)
    exact (holder known found held).imp_left fun held => ⟨known, found, held⟩
  · rintro other owner same -
    obtain rfl := Option.some.inj same
    exact object_apart holds object owner
  · rw [lease]
    exact fun relay connection entered => holds.lease relay connection entered
  · intro other same
    obtain rfl := Option.some.inj (result.symm.trans same)
    exact ⟨_, changed, (keeps known).1.trans owned, (keeps known).2.trans place, fun told => taken told known found⟩
  · rintro other same
    obtain rfl := Option.some.inj same
    exact .inl (by simp [Hands.owns, object])
  · rintro (relay | session) owned
    · exact .inl (by simpa [Hands.owns, lease] using owned)
    · exact .inl (by simpa [Hands.owns, result, object] using owned)

theorem lockable_alone {session : ℕ} (lockable : fleet.lockable session = true) {rival : ℕ} (other : rival ≠ session) :
    ¬ fleet.holds rival := by
  rintro ⟨known, found, held⟩
  have inside : rival < fleet.sessions.length := (List.getElem?_eq_some_iff.mp found).1
  have idle := List.all_eq_true.mp lockable rival (List.mem_range.mpr inside)
  rw [Option.mem_def.mp found] at idle
  simp [other, held] at idle

/-- A lock is taken when it is free, or the session has it already, and perhaps without an answer. -/
theorem tryLock_acted {session : ℕ} {reply : Except String Bool}
    (acted : fleet.act outside (.tryLock session) = some (reply, after)) :
    (after = fleet ∧ reply.toOption ≠ some true) ∨ (fleet.lockable session = true ∧ after = fleet.lock session) := by
  simp only [Fleet.act] at acted
  by_cases runs : fleet.runs outside session = true
  · rw [if_pos runs] at acted
    by_cases lockable : fleet.lockable session = true
    · obtain ⟨-, rfl⟩ := Prod.mk.inj (Option.some.inj acted)
      exact .inr ⟨lockable, if_pos lockable⟩
    · obtain ⟨rfl, rfl⟩ := Prod.mk.inj (Option.some.inj acted)
      refine .inl ⟨if_neg lockable, ?_⟩
      split <;> simp [Except.toOption, lockable]
  · rw [if_neg runs] at acted
    obtain ⟨rfl, rfl⟩ := Prod.mk.inj (Option.some.inj acted)
    exact .inl ⟨rfl, nofun⟩

theorem tryLock_step (good : fleet.Good) (holds : hands.Holds fleet) {session : ℕ} {reply : Except String Bool}
    (allowed : next hands (.tryLock session) reply = some target)
    (acted : fleet.act outside (.tryLock session) = some (reply, after)) : ownership.Step fleet hands after target := by
  simp only [next, Option.bind_eq_some_iff] at allowed
  obtain ⟨borrowed, object, allowed⟩ := allowed
  split_ifs at allowed with same positive
  all_goals
    obtain rfl := Option.some.inj allowed
    subst same
  · rcases tryLock_acted acted with ⟨-, negative⟩ | ⟨lockable, rfl⟩
    · exact (negative positive).elim
    · exact object_step good holds object (fun known => ⟨rfl, rfl⟩)
        (fun known found held => .inr fun rival => lockable_alone lockable) (fun _ known found going => Nat.succ_pos _) rfl rfl
  · rcases tryLock_acted acted with ⟨rfl, -⟩ | ⟨lockable, rfl⟩
    · exact quiet_step good holds (.refl ..) rfl rfl
    · exact object_step good holds object (fun known => ⟨rfl, rfl⟩)
        (fun known found held => .inr fun rival => lockable_alone lockable) (fun _ known found going => Nat.succ_pos _) rfl object

theorem unlock_step (good : fleet.Good) (holds : hands.Holds fleet) {session : ℕ} {reply : Unit}
    (allowed : next hands (.unlock session) reply = some target)
    (acted : fleet.act outside (.unlock session) = some (reply, after)) : ownership.Step fleet hands after target := by
  simp only [next, Option.bind_eq_some_iff] at allowed
  obtain ⟨borrowed, object, allowed⟩ := allowed
  split_ifs at allowed with same
  obtain rfl := Option.some.inj allowed
  subst same
  simp only [Fleet.act] at acted
  split_ifs at acted <;> obtain ⟨-, rfl⟩ := Prod.mk.inj (Option.some.inj acted)
  · refine object_step good holds object (fun known => ⟨rfl, rfl⟩) (fun known found held => .inl ?_)
      (fun told => by cases told) rfl rfl
    simp only [Session.holds, Bool.and_eq_true, Bool.not_eq_true', decide_eq_true_eq] at held ⊢
    exact ⟨held.1, by omega⟩
  · have unchanged : fleet.onSession borrowed.session id = fleet := by simp [Fleet.onSession]
    have step : ownership.Step fleet hands (fleet.onSession borrowed.session id)
        { hands with object := some { borrowed with locked := false } } :=
      object_step good holds object (fun known => ⟨rfl, rfl⟩) (fun known found held => .inl held) (fun told => by cases told) rfl rfl
    rwa [unchanged] at step

theorem giveBack_step (good : fleet.Good) (holds : hands.Holds fleet) {session : ℕ} {reply : Unit}
    (allowed : next hands (.giveBack session) reply = some target)
    (acted : fleet.act outside (.giveBack session) = some (reply, after)) : ownership.Step fleet hands after target := by
  simp only [next] at allowed
  split_ifs at allowed with same
  obtain rfl := Option.some.inj allowed
  obtain ⟨-, rfl⟩ := Prod.mk.inj (Option.some.inj acted)
  obtain ⟨borrowed, object, same⟩ := (Option.any_eq_true _ _).mp same
  obtain rfl := eq_of_beq same
  have frame := onSession_frame fleet borrowed.session fleet.pooled
  refine frame.step (frame.good good ?_ nofun ?_) ⟨holds.lease, nofun⟩ nofun ?_ ?_
  · rintro other same ⟨later, listed, held⟩
    obtain rfl := Option.some.inj same
    obtain ⟨known, found, -⟩ := holds.object borrowed object
    rw [sessions_onSession, if_pos rfl, found] at listed
    obtain rfl := Option.some.inj listed
    exact .inl ⟨known, found, held⟩
  · rintro other owner same -
    obtain rfl := Option.some.inj same
    exact object_apart holds object owner
  · rintro other same
    obtain rfl := Option.some.inj same
    exact .inl (by simp [Hands.owns, object])
  · rintro (relay | session) owned
    · exact .inl owned
    · simp [Hands.owns] at owned

/-- What the pool hands out. -/
theorem connect_spec {relay session : ℕ} (connected : fleet.connect relay outside = (session, after)) :
    Frame none (some session) fleet after ∧ fleet.free (.connection session) ∧
      (∃ known, after.sessions[session]? = some known ∧ known.relay = relay ∧ known.place = .borrowed) ∧
      (after.holds session → fleet.holds session) ∧ ∀ owner, ¬ fleet.Locked owner session .leased := by
  unfold Fleet.connect at connected
  cases chosen : outside.choice.filter fun session => fleet.sessions[session]?.any fun known =>
      known.relay == relay && known.place == .pooled && !known.closed with
  | some pooled =>
      simp only [chosen] at connected
      obtain ⟨rfl, rfl⟩ := Prod.mk.inj connected
      have usable := (Option.filter_eq_some_iff.mp chosen).2
      obtain ⟨known, found, fits⟩ := (Option.any_eq_true _ _).mp usable
      simp only [Bool.and_eq_true, beq_iff_eq] at fits
      obtain ⟨⟨owned, place⟩, -⟩ := fits
      have other : ∀ place', place' ≠ .pooled → ∀ other, fleet.sessions[pooled]? = some other → other.place ≠ place' := by
        intro place' apart other listed
        obtain rfl : known = other := Option.some.inj (found.symm.trans listed)
        exact place ▸ apart.symm
      have borrowed : (fleet.onSession pooled fun known => { known with place := .borrowed }).sessions[pooled]? =
          some { known with place := .borrowed } := by
        rw [sessions_onSession, if_pos rfl, found]
        rfl
      refine ⟨onSession_frame .., other .borrowed nofun, ⟨_, borrowed, owned, rfl⟩, ?_, ?_⟩
      · rintro ⟨later, listed, held⟩
        obtain rfl := Option.some.inj (borrowed.symm.trans listed)
        exact ⟨known, found, held⟩
      · rintro owner ⟨leased, listed, -, lies, -⟩
        exact other .leased nofun leased listed lies
  | none =>
      simp only [chosen] at connected
      obtain ⟨rfl, rfl⟩ := Prod.mk.inj connected
      have absent : fleet.sessions[fleet.sessions.length]? = none := List.getElem?_eq_none le_rfl
      refine ⟨⟨fun _ _ => rfl, fun other known _ found => ⟨known, ?_, .refl known⟩, fun other later apart found => ?_⟩, ?_,
        ⟨{ relay }, by simp, rfl, rfl⟩, ?_, ?_⟩
      · rw [List.getElem?_append_left (List.getElem?_eq_some_iff.mp found).1]
        exact found
      · rcases getElem?_append_singleton found with old | rfl
        · exact ⟨later, old, .refl later⟩
        · have last := (List.getElem?_eq_some_iff.mp found).1
          rw [List.length_append, List.length_singleton] at last
          have inside : other < fleet.sessions.length :=
            lt_of_le_of_ne (Nat.lt_succ_iff.mp last) fun same => apart (congrArg some same.symm)
          rw [List.getElem?_append_left inside] at found
          exact ⟨_, found, .refl _⟩
      · intro known found
        rw [Option.mem_def, absent] at found
        cases found
      · rintro ⟨later, listed, held⟩
        obtain rfl : ({ relay } : Session) = later := by simpa using listed
        cases held
      · rintro owner ⟨known, found, -⟩
        rw [absent] at found
        cases found

theorem connection_step (good : fleet.Good) (holds : hands.Holds fleet) {relay : ℕ} {reply : Except String ℕ}
    (allowed : next hands (.connection relay) reply = some target)
    (acted : fleet.act outside (.connection relay) = some (reply, after)) : ownership.Step fleet hands after target := by
  simp only [next] at allowed
  split_ifs at allowed with empty
  obtain rfl := Option.some.inj allowed
  simp only [Fleet.act] at acted
  obtain ⟨known, found, acted⟩ := Option.map_eq_some_iff.mp acted
  split_ifs at acted with refused
  · obtain ⟨rfl, rfl⟩ := Prod.mk.inj acted
    exact quiet_step good holds (.refl ..) rfl empty.symm
  · obtain ⟨rfl, rfl⟩ := Prod.mk.inj acted
    obtain ⟨frame, free, ⟨session, listed, owned, place⟩, keeps, elsewhere⟩ := connect_spec (show fleet.connect relay outside = (_, _) from rfl)
    refine frame.step (frame.good good ?_ nofun ?_) ⟨?_, ?_⟩ nofun ?_ ?_
    · rintro other same held
      obtain rfl := Option.some.inj same
      exact .inl (keeps held)
    · rintro other owner same -
      obtain rfl := Option.some.inj same
      exact elsewhere owner
    · intro entered connection lies
      rw [frame.leases entered nofun]
      exact holds.lease entered connection lies
    · intro borrowed same
      obtain rfl := Option.some.inj same
      exact ⟨session, listed, owned, place, nofun⟩
    · rintro other same
      obtain rfl := Option.some.inj same
      exact .inr free
    · rintro (entered | other) owned
      · exact .inl owned
      · obtain rfl := Option.some.inj owned
        exact .inr free

/-- The lease of the relay in whose hands it is. -/
theorem entered_lease (holds : hands.Holds fleet) {relay : ℕ} (entered : hands.lease.any (·.1 == relay) = true) :
    ∃ connection, hands.lease = some (relay, connection) ∧ fleet.leaseOf relay = some ⟨connection, true⟩ := by
  obtain ⟨⟨other, connection⟩, found, same⟩ := (Option.any_eq_true _ _).mp entered
  obtain rfl := eq_of_beq same
  exact ⟨connection, found, holds.lease _ _ found⟩

theorem leaseOf_changed {relay : ℕ} {lease : Lease} (found : fleet.leaseOf relay = some lease) (change : Lease → Lease) :
    (fleet.onRelay relay fun known => { known with lease := known.lease.map change }).leaseOf relay = some (change lease) := by
  rw [leaseOf_onRelay, if_pos rfl]
  obtain ⟨known, listed, lies⟩ := Option.bind_eq_some_iff.mp found
  rw [listed, Option.bind_some, lies]
  rfl

theorem enter_step (good : fleet.Good) (holds : hands.Holds fleet) {relay : ℕ} {reply : Option ℕ}
    (allowed : next hands (.enter relay) reply = some target)
    (acted : fleet.act outside (.enter relay) = some (reply, after)) : ownership.Step fleet hands after target := by
  simp only [next] at allowed
  split_ifs at allowed with empty
  obtain rfl := Option.some.inj allowed
  simp only [Fleet.act] at acted
  obtain ⟨lease, found, acted⟩ := Option.bind_eq_some_iff.mp acted
  split_ifs at acted with entered
  obtain ⟨rfl, rfl⟩ := Prod.mk.inj (Option.some.inj acted)
  have frame := onRelay_frame fleet relay fun known => { known with lease := some { lease with entered := true } }
  have lies : (fleet.onRelay relay fun known => { known with lease := some { lease with entered := true } }).leaseOf relay =
      some { lease with entered := true } := by
    obtain ⟨known, listed, -⟩ := Option.bind_eq_some_iff.mp found
    rw [leaseOf_onRelay, if_pos rfl, listed]
    rfl
  have free : fleet.free (.lease relay) := by
    intro other listed
    obtain rfl : lease = other := Option.some.inj (found.symm.trans listed)
    exact eq_false_of_ne_true entered
  refine frame.step (frame.good good nofun ?_ nofun) ⟨?_, holds.object⟩ ?_ nofun ?_
  · rintro other later connection same listed named
    obtain rfl := Option.some.inj same
    obtain rfl := Option.some.inj (lies.symm.trans listed)
    exact good.leases relay lease connection found named
  · rintro other connection same
    obtain ⟨rfl, rfl⟩ := Prod.mk.inj (Option.some.inj same)
    exact lies
  · rintro other same
    obtain rfl := Option.some.inj same
    exact .inr free
  · rintro (other | session) owned
    · obtain rfl := Option.some.inj owned
      exact .inr free
    · exact .inl owned

theorem leave_step (good : fleet.Good) (holds : hands.Holds fleet) {relay : ℕ} {reply : Unit}
    (allowed : next hands (.leave relay) reply = some target)
    (acted : fleet.act outside (.leave relay) = some (reply, after)) : ownership.Step fleet hands after target := by
  simp only [next] at allowed
  split_ifs at allowed with entered
  obtain rfl := Option.some.inj allowed
  obtain ⟨-, rfl⟩ := Prod.mk.inj (Option.some.inj acted)
  obtain ⟨connection, mine, found⟩ := entered_lease holds entered
  have frame := onRelay_frame fleet relay fun known =>
    { known with lease := known.lease.map fun lease => { lease with entered := false } }
  refine frame.step (frame.good good nofun ?_ nofun) ⟨nofun, holds.object⟩ ?_ nofun ?_
  · rintro other later session same listed named
    obtain rfl := Option.some.inj same
    obtain rfl := Option.some.inj ((leaseOf_changed found fun lease => { lease with entered := false }).symm.trans listed)
    exact good.leases relay _ session found named
  · rintro other same
    obtain rfl := Option.some.inj same
    exact .inl (by simp [Hands.owns, mine])
  · rintro (other | session) owned
    · simp [Hands.owns] at owned
    · exact .inl owned

theorem take_step (good : fleet.Good) (holds : hands.Holds fleet) {relay : ℕ} {reply : Option ℕ}
    (allowed : next hands (.take relay) reply = some target)
    (acted : fleet.act outside (.take relay) = some (reply, after)) : ownership.Step fleet hands after target := by
  simp only [next] at allowed
  split_ifs at allowed with fits
  obtain ⟨entered, empty⟩ := fits
  obtain rfl := Option.some.inj allowed
  obtain ⟨rfl, rfl⟩ := Prod.mk.inj (Option.some.inj acted)
  obtain ⟨connection, mine, found⟩ := entered_lease holds entered
  rw [found, Option.bind_some]
  have emptied : ∀ middle : Fleet, middle.leaseOf relay = some ⟨connection, true⟩ →
      (middle.onRelay relay fun known => { known with lease := known.lease.map fun lease => { lease with connection := none } }).leaseOf
        relay = some ⟨none, true⟩ := fun middle listed => leaseOf_changed listed _
  have owner : hands.owns (.lease relay) := by simp [Hands.owns, mine]
  cases connection with
  | none =>
      have frame := onRelay_frame fleet relay fun known =>
        { known with lease := known.lease.map fun lease => { lease with connection := none } }
      refine frame.step (frame.good good nofun ?_ nofun) ⟨?_, nofun⟩ ?_ nofun ?_
      · rintro other later session same listed named
        obtain rfl := Option.some.inj same
        obtain rfl := Option.some.inj ((emptied fleet found).symm.trans listed)
        cases named
      · rintro other session same
        obtain ⟨rfl, rfl⟩ := Prod.mk.inj (Option.some.inj same)
        exact emptied fleet found
      · rintro other same
        obtain rfl := Option.some.inj same
        exact .inl owner
      · rintro (other | session) owned
        · obtain rfl := Option.some.inj owned
          exact .inl owner
        · simp [Hands.owns] at owned
  | some session =>
      obtain ⟨known, listed, owned, place, locked⟩ := good.leases relay _ session found rfl
      let middle := fleet.onSession session fun known => { known with place := .borrowed }
      have frame := (onSession_frame fleet session fun known => { known with place := .borrowed }).both
        (onRelay_frame middle relay fun known =>
          { known with lease := known.lease.map fun lease => { lease with connection := none } })
      have taken : middle.sessions[session]? = some { known with place := .borrowed } := by
        rw [sessions_onSession, if_pos rfl, listed]
        rfl
      have free : fleet.free (.connection session) := by
        intro other here
        obtain rfl : known = other := Option.some.inj (listed.symm.trans here)
        simp [place]
      refine frame.step (frame.good good ?_ ?_ ?_) ⟨?_, ?_⟩ ?_ ?_ ?_
      · rintro other same ⟨later, here, held⟩
        obtain rfl := Option.some.inj same
        obtain rfl := Option.some.inj (taken.symm.trans here)
        exact .inl ⟨known, listed, held⟩
      · rintro other later connection same here named
        obtain rfl := Option.some.inj same
        obtain rfl := Option.some.inj ((emptied middle found).symm.trans here)
        cases named
      · rintro other rival same apart ⟨later, here, owns, -⟩
        obtain rfl := Option.some.inj same
        obtain rfl : known = later := Option.some.inj (listed.symm.trans here)
        exact apart (congrArg some (owned.symm.trans owns))
      · rintro other connection same
        obtain ⟨rfl, rfl⟩ := Prod.mk.inj (Option.some.inj same)
        exact emptied middle found
      · intro borrowed same
        obtain rfl := Option.some.inj same
        exact ⟨_, taken, owned, rfl, fun _ => locked⟩
      · rintro other same
        obtain rfl := Option.some.inj same
        exact .inl owner
      · rintro other same
        obtain rfl := Option.some.inj same
        exact .inr free
      · rintro (other | connection) owned
        · obtain rfl := Option.some.inj owned
          exact .inl owner
        · obtain rfl := Option.some.inj owned
          exact .inr free

/-- A connection with the lock goes into the lease of its relay. -/
theorem lodge_step (good : fleet.Good) (holds : hands.Holds fleet) {relay session : ℕ}
    (object : hands.object = some ⟨relay, session, true⟩) {change : Relay → Relay} {entered : Bool}
    (lies : (fleet.onRelay relay change).leaseOf relay = some ⟨some session, entered⟩)
    (open_ : hands.owns (.lease relay) ∨ fleet.free (.lease relay)) (nothing : target.object = none)
    (lease : ∀ other connection, target.lease = some (other, connection) →
      (other = relay ∧ connection = some session ∧ entered = true) ∨ (relay ≠ other ∧ hands.lease = some (other, connection))) :
    ownership.Step fleet hands
      ((fleet.onSession session fun known => { known with place := .leased }).onRelay relay change) target := by
  obtain ⟨known, found, owned, place, locked⟩ := holds.object _ object
  let middle := fleet.onSession session fun known => { known with place := .leased }
  have frame := (onSession_frame fleet session fun known => { known with place := .leased }).both
    (onRelay_frame middle relay change)
  have lodged : middle.sessions[session]? = some { known with place := .leased } := by
    rw [sessions_onSession, if_pos rfl, found]
    rfl
  refine frame.step (frame.good good ?_ ?_ ?_) ⟨?_, ?_⟩ ?_ ?_ ?_
  · rintro other same ⟨later, here, held⟩
    obtain rfl := Option.some.inj same
    obtain rfl := Option.some.inj (lodged.symm.trans here)
    exact .inl ⟨known, found, held⟩
  · rintro other later connection same here named
    obtain rfl := Option.some.inj same
    obtain rfl := Option.some.inj (lies.symm.trans here)
    obtain rfl := Option.some.inj named
    exact ⟨_, lodged, owned, rfl, locked rfl⟩
  · rintro other owner same -
    obtain rfl := Option.some.inj same
    exact object_apart holds object owner
  · intro other connection same
    rcases lease other connection same with ⟨rfl, rfl, rfl⟩ | ⟨apart, mine⟩
    · exact lies
    · rw [frame.leases other fun equal => apart (Option.some.inj equal)]
      exact holds.lease other connection mine
  · rw [nothing]
    nofun
  · rintro other same
    obtain rfl := Option.some.inj same
    exact open_
  · rintro other same
    obtain rfl := Option.some.inj same
    exact .inl (by simp [Hands.owns, object])
  · rintro (other | connection) owned
    · obtain ⟨⟨other, connection⟩, same, rfl⟩ := Option.map_eq_some_iff.mp owned
      rcases lease other connection same with ⟨rfl, -⟩ | ⟨-, mine⟩
      · exact open_
      · exact .inl (by simp [Hands.owns, mine])
    · simp [Hands.owns, nothing] at owned

theorem put_step (good : fleet.Good) (holds : hands.Holds fleet) {relay session : ℕ} {reply : Unit}
    (allowed : next hands (.put relay session) reply = some target)
    (acted : fleet.act outside (.put relay session) = some (reply, after)) : ownership.Step fleet hands after target := by
  simp only [next] at allowed
  split_ifs at allowed with fits
  obtain ⟨mine, object⟩ := fits
  obtain rfl := Option.some.inj allowed
  obtain ⟨-, rfl⟩ := Prod.mk.inj (Option.some.inj acted)
  refine lodge_step good holds object (leaseOf_changed (holds.lease relay none mine) _) (.inl (by simp [Hands.owns, mine])) rfl ?_
  intro other connection same
  obtain ⟨rfl, rfl⟩ := Prod.mk.inj (Option.some.inj same)
  exact .inl ⟨rfl, rfl, rfl⟩

theorem found_step (good : fleet.Good) (holds : hands.Holds fleet) {relay session : ℕ} {reply : Unit}
    (allowed : next hands (.found relay session) reply = some target)
    (acted : fleet.act outside (.found relay session) = some (reply, after)) : ownership.Step fleet hands after target := by
  simp only [next] at allowed
  split_ifs at allowed with fits
  obtain rfl := Option.some.inj allowed
  simp only [Fleet.act] at acted
  obtain ⟨known, listed, acted⟩ := Option.bind_eq_some_iff.mp acted
  split_ifs at acted with leased
  obtain ⟨-, rfl⟩ := Prod.mk.inj (Option.some.inj acted)
  have noLease : fleet.leaseOf relay = none := by
    rw [Fleet.leaseOf, listed, Option.bind_some]
    simpa using leased
  have lies : (fleet.onRelay relay fun known => { known with lease := some { connection := some session }, ready := true }).leaseOf
      relay = some ⟨some session, false⟩ := by
    rw [leaseOf_onRelay, if_pos rfl, listed]
    rfl
  refine lodge_step good holds fits.1 lies (.inr ?_) rfl fun other connection same => .inr ⟨?_, same⟩
  · intro lease found
    rw [Option.mem_def, noLease] at found
    cases found
  · rintro rfl
    exact absurd (noLease.symm.trans (holds.lease _ _ same)) nofun

/-- Each call that the discipline allows is a step. -/
theorem served_step {before : Fleet} (good : before.Good) (holds : hands.Holds before) {op : LeaseOp} {reply : op.Reply}
    (allowed : next hands op reply = some target) (served : serve.handler before op reply after) :
    ownership.Step before hands after target := by
  obtain ⟨outside, acted⟩ := served
  have frame := pass_frame before outside
  apply frame.step_after
  have good : (before.pass outside).Good := frame.good good nofun nofun nofun
  have holds : hands.Holds (before.pass outside) := frame.hands holds nofun nofun
  unfold serve at acted
  cases op with
  | boot =>
      obtain rfl := Option.some.inj allowed
      obtain ⟨-, rfl⟩ := Prod.mk.inj (Option.some.inj acted)
      refine quiet_step good holds ⟨fun other _ => ?_, fun _ known _ found => ⟨known, found, .refl known⟩,
        fun _ later _ found => ⟨later, found, .refl later⟩⟩ rfl rfl
      simp only [Fleet.leaseOf, List.getElem?_append]
      split
      · rfl
      · rename_i beyond
        rw [List.getElem?_eq_none (Nat.le_of_not_lt beyond)]
        cases other - (before.pass outside).relays.length <;> rfl
  | connection relay => exact connection_step good holds allowed acted
  | tryLock session => exact tryLock_step good holds allowed acted
  | ping session =>
      obtain ⟨-, rfl⟩ := Prod.mk.inj (Option.some.inj acted)
      have same : target.lease = hands.lease ∧ target.object = hands.object := by
        simp only [next] at allowed
        split at allowed
        · split at allowed <;> obtain rfl := Option.some.inj allowed <;> exact ⟨rfl, rfl⟩
        · obtain rfl := Option.some.inj allowed
          exact ⟨rfl, rfl⟩
      exact quiet_step good holds (.refl ..) same.1 same.2
  | unlock session => exact unlock_step good holds allowed acted
  | giveBack session => exact giveBack_step good holds allowed acted
  | found relay session => exact found_step good holds allowed acted
  | enter relay => exact enter_step good holds allowed acted
  | take relay => exact take_step good holds allowed acted
  | put relay session => exact put_step good holds allowed acted
  | leave relay => exact leave_step good holds allowed acted
  | store relay ready =>
      simp only [next] at allowed
      split_ifs at allowed with seen
      obtain rfl := Option.some.inj allowed
      obtain ⟨-, rfl⟩ := Prod.mk.inj (Option.some.inj acted)
      exact quiet_step good holds (onRelay_keeps _ relay fun _ => rfl) rfl rfl
  | refuse relay =>
      obtain rfl := Option.some.inj allowed
      obtain ⟨-, rfl⟩ := Prod.mk.inj (Option.some.inj acted)
      exact quiet_step good holds (onRelay_keeps _ relay fun _ => rfl) rfl rfl
  | close relay =>
      obtain rfl := Option.some.inj allowed
      obtain ⟨-, rfl⟩ := Prod.mk.inj (Option.some.inj acted)
      exact quiet_step good holds ((dropPooled_frame _ relay).trans (onRelay_keeps _ relay fun _ => rfl)) rfl rfl
  | grant relay =>
      obtain rfl := Option.some.inj allowed
      simp only [Fleet.act] at acted
      obtain ⟨known, found, acted⟩ := Option.map_eq_some_iff.mp acted
      obtain ⟨-, rfl⟩ := Prod.mk.inj acted
      exact quiet_step good holds (.refl ..) rfl rfl

end Calls

end PaladinsCat.OwnerLease
