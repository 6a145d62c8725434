import PaladinsCat.PrivateIdentity
import PaladinsCat.RootForest

/-!
What all runs of the resolver keep: two private slots of one match are not one identity, and
the merged identities form a forest, whose roots alone have observations. The resolver links
an observation only to a current identity that its match does not have yet, makes one, or
moves all observations of one identity to another one that shares no match with it.
-/

namespace PaladinsCat.PrivateIdentity

open RootForest

def Store.mergedInto (store : Store) (id : Int) : Option Int := (store.identity id).bind (·.mergedIntoId)

/-- The identity is one of the current tracking version. -/
def Store.tracked (store : Store) (id : Int) : Bool :=
  (store.identity id).any fun identity => identity.trackingVersion == privateIdentityVersion

/-- No observation has been linked yet, and no identity merged. Identities may be there. -/
structure Store.Untouched (store : Store) : Prop where
  fresh : ∀ id, store.nextId ≤ id → store.identity id = none
  unlinked : ∀ row ∈ store.observations, row.privatePlayerId = none
  unmerged : ∀ id, store.mergedInto id = none
  active : ∀ id, store.tracked id = true → store.isCurrent id = true

structure Store.Sound (store : Store) : Prop where
  fresh : ∀ id, store.nextId ≤ id → store.identity id = none
  linked : ∀ row ∈ store.observations, ∀ id, row.privatePlayerId = some id → store.isCurrent id = true
  separate : ∀ left ∈ store.observations, ∀ right ∈ store.observations, ∀ id,
    left.privatePlayerId = some id → right.privatePlayerId = some id →
    left.observation.matchId = right.observation.matchId →
    left.observation.privateSlot = right.observation.privateSlot
  forest : Forest store.mergedInto
  parents : ∀ id up, store.mergedInto id = some up → store.tracked up = true
  roots : ∀ id, store.tracked id = true → (store.mergedInto id = none ↔ store.isCurrent id = true)

theorem Store.Untouched.sound {store : Store} (untouched : store.Untouched) : store.Sound where
  fresh := untouched.fresh
  linked row member id linked := by
    rw [untouched.unlinked row member] at linked
    cases linked
  separate left member _ _ id linked := by
    rw [untouched.unlinked left member] at linked
    cases linked
  forest := forest_of_roots untouched.unmerged
  parents id up points := by
    rw [untouched.unmerged id] at points
    cases points
  roots id tracked := by simp [untouched.unmerged id, untouched.active id tracked]

/-! ### Changes of the rows -/

section Rows
variable {store : Store} {which : ObservationRow → Bool} {change : ObservationRow → ObservationRow}

theorem mem_updateRows {row : ObservationRow} :
    row ∈ (store.updateRows which change).observations ↔
      ∃ old ∈ store.observations, (if which old then change old else old) = row := by
  simp [Store.updateRows]

theorem Store.Sound.withRows {rows : List ObservationRow} (sound : store.Sound)
    (linked : ∀ row ∈ rows, ∀ id, row.privatePlayerId = some id → store.isCurrent id = true)
    (separate : ∀ left ∈ rows, ∀ right ∈ rows, ∀ id, left.privatePlayerId = some id → right.privatePlayerId = some id →
      left.observation.matchId = right.observation.matchId →
      left.observation.privateSlot = right.observation.privateSlot) :
    ({ store with observations := rows } : Store).Sound :=
  { sound with linked, separate }

/-- A change that keeps the key of a row and its identity. -/
def Keeps (change : ObservationRow → ObservationRow) (old : ObservationRow) : Prop :=
  (change old).key = old.key ∧ (change old).privatePlayerId = old.privatePlayerId

theorem keeps_if (keeps : ∀ old, which old = true → Keeps change old) (old : ObservationRow) :
    Keeps (fun row => if which row then change row else row) old := by
  by_cases changed : which old = true
  · simpa [Keeps, changed] using keeps old changed
  · simp [Keeps, changed]

theorem Store.Sound.relabel (sound : store.Sound) (keeps : ∀ old, which old = true → Keeps change old) :
    (store.updateRows which change).Sound := by
  apply sound.withRows
  · intro row member id linked
    obtain ⟨old, listed, rfl⟩ := List.mem_map.mp member
    exact sound.linked old listed id ((keeps_if keeps old).2.symm.trans linked)
  · intro left first right second id one other same
    obtain ⟨before, listed, rfl⟩ := List.mem_map.mp first
    obtain ⟨after, stored, rfl⟩ := List.mem_map.mp second
    have left := Prod.mk.inj (keeps_if keeps before).1
    have right := Prod.mk.inj (keeps_if keeps after).1
    have slots := sound.separate before listed after stored id ((keeps_if keeps before).2.symm.trans one)
      ((keeps_if keeps after).2.symm.trans other) (left.1.symm.trans (same.trans right.1))
    exact left.2.trans (slots.trans right.2.symm)

theorem Store.Sound.insert {row : ObservationRow} (sound : store.Sound) (unlinked : row.privatePlayerId = none) :
    ({ store with observations := store.observations ++ [row] } : Store).Sound := by
  have old : ∀ other ∈ store.observations ++ [row], ∀ id, other.privatePlayerId = some id → other ∈ store.observations := by
    intro other member id linked
    rcases List.mem_append.mp member with listed | new
    · exact listed
    · rw [List.mem_singleton.mp new, unlinked] at linked
      cases linked
  apply sound.withRows
  · intro other member id linked
    exact sound.linked other (old other member id linked) id linked
  · intro left first right second id one other
    exact sound.separate left (old left first id one) right (old right second id other) id one other

/-- A current identity that a match does not have gets one of its rows. -/
theorem Store.Sound.link {key : Int × Int} {id : Int} (sound : store.Sound) (current : store.isCurrent id = true)
    (unused : store.usedIn key.1 id = false)
    (links : ∀ old, (change old).key = old.key ∧ (change old).privatePlayerId = some id) :
    (store.updateRows (fun row => row.key == key) change).Sound := by
  have cases_ : ∀ row ∈ (store.updateRows (fun row => row.key == key) change).observations,
      row ∈ store.observations ∨ row.key = key ∧ row.privatePlayerId = some id := by
    intro row member
    obtain ⟨old, listed, rfl⟩ := List.mem_map.mp member
    by_cases here : old.key = key
    · simp [here, links]
    · simp [here, listed]
  have apart : ∀ row ∈ store.observations, row.privatePlayerId = some id → row.observation.matchId ≠ key.1 := by
    intro row listed linked same
    have used := usedIn_iff.mpr ⟨row, listed, same, linked⟩
    rw [unused] at used
    cases used
  apply sound.withRows
  · intro row member other linked
    rcases cases_ row member with old | ⟨-, own⟩
    · exact sound.linked row old other linked
    · obtain rfl := Option.some.inj (own.symm.trans linked)
      exact current
  · intro left first right second other one two same
    rcases cases_ left first with old | ⟨here, own⟩
    · rcases cases_ right second with also | ⟨there, theirs⟩
      · exact sound.separate left old right also other one two same
      · obtain rfl := Option.some.inj (theirs.symm.trans two)
        exact absurd (same.trans (congrArg Prod.fst there)) (apart left old one)
    · rcases cases_ right second with also | ⟨there, -⟩
      · obtain rfl := Option.some.inj (own.symm.trans one)
        exact absurd (same.symm.trans (congrArg Prod.fst here)) (apart right also two)
      · exact congrArg Prod.snd (here.trans there.symm)

end Rows

/-! ### Changes of the identities -/

section Identities
variable {store : Store}

theorem identity_updateIdentity (change : Identity → Identity) (keeps : ∀ identity, (change identity).id = identity.id)
    (id other : Int) :
    (store.updateIdentity id change).identity other =
      (store.identity other).map fun identity => if other = id then change identity else identity :=
  KeyedList.lookup_update keeps id other store.identities

/-- What of an identity decides whether it is current, and where it has gone. -/
def Identity.standing (identity : Identity) : Int × Bool × Option Int :=
  (identity.trackingVersion, identity.isActive, identity.mergedIntoId)

theorem Store.Sound.congr {after : Store} (sound : store.Sound) (rows : after.observations = store.observations)
    (next : after.nextId = store.nextId)
    (same : ∀ id, (after.identity id).map Identity.standing = (store.identity id).map Identity.standing) : after.Sound := by
  have missing : ∀ id, store.identity id = none → after.identity id = none := by
    intro id none_
    simpa [none_] using same id
  have moved : ∀ id, after.mergedInto id = store.mergedInto id := by
    intro id
    have standing := congrArg (Option.bind · fun view : Int × Bool × Option Int => view.2.2) (same id)
    simpa [Store.mergedInto, Identity.standing, Option.bind_map, Function.comp_def] using standing
  have tracked : ∀ id, after.tracked id = store.tracked id := by
    intro id
    have standing := congrArg (Option.any (fun view : Int × Bool × Option Int => view.1 == privateIdentityVersion)) (same id)
    simpa [Store.tracked, Identity.standing, Option.any_map, Function.comp_def] using standing
  have current : ∀ id, after.isCurrent id = store.isCurrent id := by
    intro id
    have standing := congrArg
      (Option.any (fun view : Int × Bool × Option Int => view.1 == privateIdentityVersion && view.2.1)) (same id)
    have view : (fun identity : Identity => identity.current) = fun identity =>
        identity.standing.1 == privateIdentityVersion && identity.standing.2.1 := rfl
    simpa only [Store.isCurrent, view, Option.any_map, Function.comp_def] using standing
  constructor
  · intro id unseen
    exact missing id (sound.fresh id (next ▸ unseen))
  · simpa only [rows, current] using sound.linked
  · simpa only [rows] using sound.separate
  · rw [show after.mergedInto = store.mergedInto from funext moved]
    exact sound.forest
  · simpa only [moved, tracked] using sound.parents
  · simpa only [moved, tracked, current] using sound.roots

theorem Store.Sound.refresh (sound : store.Sound) (id : Int) : (refreshIdentity store id).Sound := by
  unfold refreshIdentity
  split
  · exact sound
  · rename_i firstSeen _
    refine Store.Sound.congr sound rfl rfl fun other => ?_
    rw [identity_updateIdentity (Identity.seenSince firstSeen) fun _ => rfl]
    cases store.identity other with
    | none => rfl
    | some identity => by_cases same : other = id <;> simp [same, Identity.standing, Identity.seenSince]

theorem identity_create {observation : PrivateObservation} (id : Int) :
    (createIdentity store observation).2.identity id =
      (store.identity id).or
        (if store.nextId = id then some { id := store.nextId, firstSeen := observation.entryDatetime } else none) := by
  simp [createIdentity, Store.identity, KeyedList.lookup_append, KeyedList.lookup_cons,
    KeyedList.lookup_nil]

theorem Store.Sound.create {observation : PrivateObservation} (sound : store.Sound) :
    (createIdentity store observation).2.Sound ∧
      (createIdentity store observation).2.isCurrent (createIdentity store observation).1 = true := by
  have unseen : store.identity store.nextId = none := sound.fresh _ le_rfl
  have kept : ∀ id, id ≠ store.nextId → (createIdentity store observation).2.identity id = store.identity id := by
    intro id other
    simp [identity_create, other.symm]
  have made : (createIdentity store observation).2.identity store.nextId =
      some { id := store.nextId, firstSeen := observation.entryDatetime } := by
    simp [identity_create, unseen]
  have moved : (createIdentity store observation).2.mergedInto = store.mergedInto := by
    funext id
    by_cases new : id = store.nextId
    · simp [Store.mergedInto, new, made, unseen]
    · simp [Store.mergedInto, kept id new]
  have current : (createIdentity store observation).2.isCurrent store.nextId = true := by
    simp [Store.isCurrent, made, Identity.current]
  have known : ∀ id, store.isCurrent id = true → id ≠ store.nextId := by
    rintro id active rfl
    simp [Store.isCurrent, unseen] at active
  refine ⟨⟨?_, ?_, sound.separate, ?_, ?_, ?_⟩, current⟩
  · intro id later
    have beyond : store.nextId + 1 ≤ id := later
    rw [kept id (by omega), sound.fresh id (by omega)]
  · intro row member id linked
    have active := sound.linked row member id linked
    simpa only [Store.isCurrent, kept id (known id active)] using active
  · rw [moved]
    exact sound.forest
  · intro id up points
    rw [moved] at points
    have tracked := sound.parents id up points
    have other : up ≠ store.nextId := by
      rintro rfl
      simp [Store.tracked, unseen] at tracked
    simpa only [Store.tracked, kept up other] using tracked
  · intro id tracked
    rw [moved]
    by_cases new : id = store.nextId
    · subst new
      simp [Store.mergedInto, unseen, current]
    · simp only [Store.tracked, Store.isCurrent, kept id new] at tracked ⊢
      exact sound.roots id tracked

theorem usedIn_create {observation : PrivateObservation} (sound : store.Sound) (matchId : Int) :
    (createIdentity store observation).2.usedIn matchId (createIdentity store observation).1 = false := by
  by_contra used
  rw [Bool.not_eq_false] at used
  obtain ⟨row, member, -, linked⟩ := usedIn_iff.mp used
  have active : store.isCurrent store.nextId = true := sound.linked row member _ linked
  simp [Store.isCurrent, sound.fresh _ le_rfl] at active

end Identities

/-! ### Merging -/

section Merge
variable {store : Store} {sourceId targetId : Int}

theorem collide_iff :
    store.collide sourceId targetId = true ↔ ∃ source ∈ store.observations, ∃ target ∈ store.observations,
      source.privatePlayerId = some sourceId ∧ target.privatePlayerId = some targetId ∧
        source.observation.matchId = target.observation.matchId := by
  simp only [Store.collide, List.any_eq_true, Bool.and_eq_true, beq_iff_eq, usedIn_iff]
  constructor
  · rintro ⟨source, member, mine, target, listed, same, theirs⟩
    exact ⟨source, member, target, listed, mine, theirs, same.symm⟩
  · rintro ⟨source, member, target, listed, mine, theirs, same⟩
    exact ⟨source, member, mine, target, listed, same.symm, theirs⟩

theorem Store.Sound.move {best : IdentityScore} (sound : store.Sound) (target : store.isCurrent targetId = true)
    (disjoint : store.collide sourceId targetId = false) :
    (store.updateRows (fun row => row.privatePlayerId == some sourceId) (moveRow sourceId targetId best)).Sound := by
  have apart : ∀ mine ∈ store.observations, ∀ theirs ∈ store.observations, mine.privatePlayerId = some sourceId →
      theirs.privatePlayerId = some targetId → mine.observation.matchId ≠ theirs.observation.matchId := by
    intro mine first theirs second owned other same
    have meets := collide_iff.mpr ⟨mine, first, theirs, second, owned, other, same⟩
    rw [disjoint] at meets
    cases meets
  have origin : ∀ row ∈ (store.updateRows (fun row => row.privatePlayerId == some sourceId)
      (moveRow sourceId targetId best)).observations, ∃ old ∈ store.observations, row.observation = old.observation ∧
        (row.privatePlayerId = old.privatePlayerId ∨
          row.privatePlayerId = some targetId ∧ old.privatePlayerId = some sourceId) := by
    intro row member
    obtain ⟨old, listed, rfl⟩ := mem_updateRows.mp member
    refine ⟨old, listed, ?_⟩
    by_cases mine : old.privatePlayerId = some sourceId <;> simp [mine, moveRow]
  apply sound.withRows
  · intro row member id linked
    obtain ⟨old, listed, -, kept | ⟨moved, -⟩⟩ := origin row member
    · exact sound.linked old listed id (kept.symm.trans linked)
    · obtain rfl := Option.some.inj (moved.symm.trans linked)
      exact target
  · intro left first right second id one other same
    obtain ⟨before, listed, seen, kept | ⟨moved, mine⟩⟩ := origin left first
    · obtain ⟨after, stored, found, keeps | ⟨moves, theirs⟩⟩ := origin right second
      · rw [seen, found] at same ⊢
        exact sound.separate before listed after stored id (kept.symm.trans one) (keeps.symm.trans other) same
      · obtain rfl := Option.some.inj (moves.symm.trans other)
        rw [seen, found] at same
        exact absurd same.symm (apart after stored before listed theirs (kept.symm.trans one))
    · obtain ⟨after, stored, found, keeps | ⟨moves, theirs⟩⟩ := origin right second
      · obtain rfl := Option.some.inj (moved.symm.trans one)
        rw [seen, found] at same
        exact absurd same (apart before listed after stored mine (keeps.symm.trans other))
      · rw [seen, found] at same ⊢
        exact sound.separate before listed after stored sourceId mine theirs same

theorem identity_retire (id : Int) :
    (store.updateIdentity sourceId (Identity.retire targetId)).identity id =
      (store.identity id).map fun identity => if id = sourceId then identity.retire targetId else identity :=
  identity_updateIdentity (Identity.retire targetId) (fun _ => rfl) sourceId id

/-- A current identity without observations goes over to another one. -/
theorem Store.Sound.retire (sound : store.Sound) (apart : sourceId ≠ targetId)
    (source : store.isCurrent sourceId = true) (target : store.isCurrent targetId = true)
    (empty : ∀ row ∈ store.observations, row.privatePlayerId ≠ some sourceId) :
    (store.updateIdentity sourceId (Identity.retire targetId)).Sound := by
  have stays : ∀ id, id ≠ sourceId →
      (store.updateIdentity sourceId (Identity.retire targetId)).identity id = store.identity id := by
    intro id other
    simp [identity_retire, other]
  have trackedOf : ∀ id, store.isCurrent id = true → store.tracked id = true := by
    intro id current
    simp only [Store.isCurrent, Store.tracked, Option.any_eq_true, Identity.current, Bool.and_eq_true] at current ⊢
    exact current.imp fun identity held => ⟨held.1, held.2.1⟩
  obtain ⟨identity, found, -⟩ := (Option.any_eq_true _ _).mp source
  have retired : (store.updateIdentity sourceId (Identity.retire targetId)).identity sourceId =
      some (identity.retire targetId) := by
    simp [identity_retire, found]
  have moved : (store.updateIdentity sourceId (Identity.retire targetId)).mergedInto =
      Function.update store.mergedInto sourceId (some targetId) := by
    funext id
    by_cases same : id = sourceId
    · subst same
      simp [Store.mergedInto, retired, Identity.retire]
    · simp [Store.mergedInto, stays id same, Function.update_of_ne same]
  have tracked : ∀ id, (store.updateIdentity sourceId (Identity.retire targetId)).tracked id = store.tracked id := by
    intro id
    by_cases same : id = sourceId
    · subst same
      simp [Store.tracked, retired, found, Identity.retire]
    · simp [Store.tracked, stays id same]
  constructor
  · intro id later
    rw [identity_retire, sound.fresh id later, Option.map_none]
  · intro row member id linked
    have other : id ≠ sourceId := by
      rintro rfl
      exact empty row member linked
    simpa only [Store.isCurrent, stays id other] using sound.linked row member id linked
  · exact sound.separate
  · rw [moved]
    exact sound.forest.link apart ((sound.roots sourceId (trackedOf sourceId source)).mpr source)
      ((sound.roots targetId (trackedOf targetId target)).mpr target)
  · intro id up points
    rw [tracked]
    rw [moved] at points
    by_cases same : id = sourceId
    · subst same
      rw [Function.update_self] at points
      obtain rfl := Option.some.inj points
      exact trackedOf _ target
    · rw [Function.update_of_ne same] at points
      exact sound.parents id up points
  · intro id known
    rw [tracked] at known
    rw [moved]
    by_cases same : id = sourceId
    · subst same
      simp [Store.isCurrent, retired, Identity.retire, Identity.current]
    · rw [Function.update_of_ne same]
      simp only [Store.isCurrent, stays id same]
      exact sound.roots id known

theorem Store.Sound.merge {best : IdentityScore} (sound : store.Sound) (apart : sourceId ≠ targetId)
    (source : store.isCurrent sourceId = true) (target : store.isCurrent targetId = true)
    (disjoint : store.collide sourceId targetId = false) : (mergeIdentity store sourceId targetId best).Sound := by
  have moved : (store.updateRows (fun row => row.privatePlayerId == some sourceId) (moveRow sourceId targetId best)).Sound :=
    sound.move target disjoint
  apply Store.Sound.refresh
  apply moved.retire apart source target
  intro row member mine
  obtain ⟨old, listed, rfl⟩ := mem_updateRows.mp member
  by_cases owned : old.privatePlayerId = some sourceId
  · simp only [owned, beq_self_eq_true, ↓reduceIte, moveRow, Option.some.injEq] at mine
    exact apart mine.symm
  · simp [owned] at mine

end Merge

/-! ### The calls -/

section Calls
variable {store : Store}

theorem Store.Sound.resolve (sound : store.Sound) (row : ObservationRow) : (resolveObservation store row).2.Sound := by
  unfold resolveObservation
  split
  · split
    · exact sound.refresh _
    · dsimp only
      split
      · rename_i best clear
        obtain ⟨entry, candidate, same, -⟩ := mem_rankCandidates.mp (clearBest_mem clear)
        obtain ⟨current, unused⟩ := candidate_identity candidate
        rw [same] at current unused
        exact (sound.link current unused (by intro old; exact ⟨rfl, rfl⟩)).refresh _
      · split
        · exact sound.relabel (by intro old _; exact ⟨rfl, rfl⟩)
        · obtain ⟨created, current⟩ := @Store.Sound.create store row.observation sound
          exact (created.link current (usedIn_create sound _) (by intro old; exact ⟨rfl, rfl⟩)).refresh _
  · exact sound.relabel (by intro old _; exact ⟨rfl, rfl⟩)

theorem Store.Sound.resolveRows (sound : store.Sound) (rows : List ObservationRow) :
    (PrivateIdentity.resolveRows store rows).Sound := by
  induction rows generalizing store with
  | nil => exact sound
  | cons row rest ih => exact ih (sound.resolve row)

theorem Store.Sound.resolveExisting (sound : store.Sound) (matchId : Int) (companions : Companions) :
    (resolveExistingPrivateMatch store matchId companions).Sound :=
  Store.Sound.resolveRows (sound.relabel (by intro old _; exact ⟨rfl, rfl⟩)) _

theorem Store.Sound.upsert {row : ObservationRow} (sound : store.Sound) (unlinked : row.privatePlayerId = none) :
    (upsertObservation store row).Sound := by
  unfold upsertObservation
  split
  · exact sound.relabel (by intro old _; exact ⟨rfl, rfl⟩)
  · exact sound.insert unlinked

theorem Store.Sound.upserts {rows : List ObservationRow} (sound : store.Sound)
    (unlinked : ∀ row ∈ rows, row.privatePlayerId = none) : (rows.foldl upsertObservation store).Sound := by
  induction rows generalizing store with
  | nil => exact sound
  | cons row rest ih =>
      exact ih (sound.upsert (unlinked row List.mem_cons_self)) fun other member =>
        unlinked other (List.mem_cons_of_mem _ member)

theorem Store.Sound.persist (sound : store.Sound) (payload : PrivatePayload) (companions : Companions) :
    (persistAndResolve store payload companions).Sound := by
  have unlinked : ∀ row ∈ (payload.players.filter PrivatePlayer.isPrivate).map
      (observedRow payload.matchId payload.entryDatetime payload.statsScope), row.privatePlayerId = none := by
    intro row member
    obtain ⟨player, -, rfl⟩ := List.mem_map.mp member
    rfl
  unfold persistAndResolve
  dsimp only
  split
  · split
    · exact sound.upserts unlinked
    · exact (sound.upserts unlinked).resolveExisting _ _
  · exact sound

/-- A source is merged into another current identity, with which it shares no match. -/
theorem mergeTarget_fits {sourceId : Int} {rows : List ObservationRow} {best : Ranked}
    (chosen : mergeTarget store sourceId rows = some best) :
    sourceId ≠ best.1 ∧ store.isCurrent best.1 = true ∧ store.collide sourceId best.1 = false := by
  cases rows with
  | nil => cases chosen
  | cons first rest =>
      simp only [mergeTarget] at chosen
      split at chosen
      · cases chosen
      · rename_i found clear
        split at chosen
        · cases chosen
        · rename_i fine
          obtain rfl := Option.some.inj chosen
          simp only [Bool.or_eq_true, not_or, Bool.not_eq_true] at fine
          obtain ⟨entry, listed, same, -⟩ := mem_rankCandidates.mp (clearBest_mem clear)
          obtain ⟨candidate, other⟩ := List.mem_filter.mp listed
          simp only [Bool.and_eq_true, bne_iff_ne, same] at other
          have current := (candidate_identity candidate).1
          rw [same] at current
          exact ⟨other.1.symm, current, fine.2⟩

theorem Store.Sound.reconcileSource (sound : store.Sound) (sourceId : Int) :
    (PrivateIdentity.reconcileSource store sourceId).Sound := by
  unfold PrivateIdentity.reconcileSource
  split
  · rename_i mergeable
    split
    · exact sound
    · rename_i best chosen
      obtain ⟨apart, target, disjoint⟩ := mergeTarget_fits chosen
      have source : store.isCurrent sourceId = true := by
        obtain ⟨identity, found, held⟩ := (Option.any_eq_true _ _).mp mergeable
        simp only [Identity.mergeable, Bool.and_eq_true] at held
        simp [Store.isCurrent, found, held.1]
      exact sound.merge apart source target disjoint
  · exact sound

theorem Store.Sound.reconcile (sound : store.Sound) : (reconcileSplitPrivateIdentities store).Sound := by
  unfold reconcileSplitPrivateIdentities
  generalize ((store.identities.filter Identity.mergeable).insertionSort firstSeenBefore).map (·.id) = sources
  induction sources generalizing store with
  | nil => exact sound
  | cons source rest ih => exact ih (sound.reconcileSource source)

theorem Store.Sound.apply (sound : store.Sound) (call : ResolverCall) : (call.apply store).Sound := by
  cases call with
  | persist payload companions => exact sound.persist payload companions
  | resolveExisting matchId companions => exact sound.resolveExisting matchId companions
  | reconcile => exact sound.reconcile

theorem Store.Sound.run (sound : store.Sound) (calls : List ResolverCall) : (resolverRun store calls).Sound := by
  induction calls generalizing store with
  | nil => exact sound
  | cons call rest ih => exact ih (sound.apply call)

end Calls

/-! ### All runs -/

section Runs
variable {start : Store}

/-- Two private slots of a match never have one identity. -/
theorem one_identity_per_slot (untouched : start.Untouched) (calls : List ResolverCall) :
    ∀ left ∈ (resolverRun start calls).observations, ∀ right ∈ (resolverRun start calls).observations, ∀ id,
      left.privatePlayerId = some id → right.privatePlayerId = some id →
      left.observation.matchId = right.observation.matchId →
      left.observation.privateSlot = right.observation.privateSlot :=
  (untouched.sound.run calls).separate

theorem current_tracked {store : Store} {id : Int} (current : store.isCurrent id = true) : store.tracked id = true := by
  obtain ⟨identity, found, held⟩ := (Option.any_eq_true _ _).mp current
  simp only [Identity.current, Bool.and_eq_true] at held
  simpa only [Store.tracked, found, Option.any_some] using held.1

theorem Store.Sound.ends {store : Store} {id : Int} (sound : store.Sound) (known : store.tracked id = true) :
    ∃ root, Ends store.mergedInto id root ∧ store.isCurrent root = true := by
  obtain ⟨root, ends⟩ := sound.forest id
  have tracked : store.tracked root = true :=
    ends.invariant (fun id => store.tracked id = true) (fun child up points _ => sound.parents child up points) known
  exact ⟨root, ends, (sound.roots root tracked).mp ends.2⟩

/-- The merged identities are a forest, and what is linked belongs to a root. -/
theorem merges_form_a_forest (untouched : start.Untouched) (calls : List ResolverCall) :
    (∀ id, (resolverRun start calls).tracked id = true →
      ¬ Relation.TransGen (Points (resolverRun start calls).mergedInto) id id ∧
      ∃ root, Relation.ReflTransGen (Points (resolverRun start calls).mergedInto) id root ∧
        (resolverRun start calls).mergedInto root = none ∧ (resolverRun start calls).isCurrent root = true) ∧
    ∀ row ∈ (resolverRun start calls).observations, ∀ id, row.privatePlayerId = some id →
      (resolverRun start calls).isCurrent id = true ∧ (resolverRun start calls).mergedInto id = none := by
  have sound := untouched.sound.run calls
  constructor
  · intro id known
    obtain ⟨root, ends, active⟩ := sound.ends known
    exact ⟨ends.acyclic, root, ends.1, ends.2, active⟩
  · intro row member id linked
    have active := sound.linked row member id linked
    exact ⟨active, (sound.roots id (current_tracked active)).mpr active⟩

end Runs

/-! ### One run -/

theorem untouched_empty : Store.Untouched {} where
  fresh _ _ := rfl
  unlinked _ member := by cases member
  unmerged _ := rfl
  active _ tracked := by cases tracked

def rosterOf (parties : List Int) : Companions := fun party => if party ∈ parties then [1, 2, 3] else []

/-- Two private players of one match, one of them again in a later match, before and after the
public players of their parties are known. -/
def splitMatches : List ResolverCall :=
  [.persist
      { matchId := 1, entryDatetime := 0, statsScope := "ranked",
        players := [{ playerName := "PrivateAccount", privateSlot := 1, partyId := 5, platform := "Steam" },
          { playerName := "PrivateAccount", privateSlot := 2, partyId := 7, accountLevel := 30 }] }
      (rosterOf []),
    .persist
      { matchId := 2, entryDatetime := 3600 * 1000000, statsScope := "ranked",
        players := [{ playerName := "PrivateAccount", privateSlot := 1, partyId := 6, platform := "Steam" }] }
      (rosterOf []),
    .resolveExisting 1 (rosterOf [5, 6]), .resolveExisting 2 (rosterOf [5, 6]), .reconcile]

theorem slots_apart_in_split_matches :
    (resolverRun {} splitMatches).observations.map (·.privatePlayerId) = [some 1, some 2, some 1] ∧
      ∀ left ∈ (resolverRun {} splitMatches).observations, ∀ right ∈ (resolverRun {} splitMatches).observations, ∀ id,
        left.privatePlayerId = some id → right.privatePlayerId = some id →
        left.observation.matchId = right.observation.matchId →
        left.observation.privateSlot = right.observation.privateSlot :=
  ⟨by decide +kernel, one_identity_per_slot untouched_empty splitMatches⟩

/-- The third identity is merged into the first one. -/
theorem split_identity_merged :
    (resolverRun {} splitMatches).tracked 3 = true ∧ (resolverRun {} splitMatches).mergedInto 3 = some 1 ∧
      ¬ Relation.TransGen (Points (resolverRun {} splitMatches).mergedInto) 3 3 ∧
      ∃ root, Relation.ReflTransGen (Points (resolverRun {} splitMatches).mergedInto) 3 root ∧
        (resolverRun {} splitMatches).mergedInto root = none ∧ (resolverRun {} splitMatches).isCurrent root = true :=
  have tracked : (resolverRun {} splitMatches).tracked 3 = true := by decide +kernel
  ⟨tracked, by decide +kernel, (merges_form_a_forest untouched_empty splitMatches).1 3 tracked⟩

end PaladinsCat.PrivateIdentity
