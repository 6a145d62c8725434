import PaladinsCat.HourOperations

/-!
What one operation does to the row of an hour and to the matches discovered in it.
Every statement on an hour names it, and leaves the others alone.
-/

namespace PaladinsCat.Backend

open Interleaving

/-- What an operation at this time may do to the row of an hour. -/
inductive HourRowStep (now : Int) (key : HourKey) : HourOp → Option HourlyIngestState → Option HourlyIngestState → Prop where
  | kept (op : HourOp) (row : Option HourlyIngestState) : HourRowStep now key op row row
  | claimed {source : String} {reopenable : Bool} {row : Option HourlyIngestState} {state : HourlyIngestState}
      (taken : claimedHour now source reopenable row = some state) :
      HourRowStep now key (.claimHour key source) row (some state)
  | granted {state : HourlyIngestState} (working : state.status = .fetching) (free : state.fetched = false) :
      HourRowStep now key (.claimSearch key) (some state) (some { state with fetched := true, fetchSucceeded := false })
  | recorded {state : HourlyIngestState} {observations : List MatchIdObservation} (working : state.status = .fetching) :
      HourRowStep now key (.recordDiscovery key observations) (some state)
        (some { state with fetched := true, fetchSucceeded := true })
  | refreshed {state : HourlyIngestState} (working : state.status = .fetching) :
      HourRowStep now key (.refreshLease key) (some state) (some { state with leaseUntil := some (now + fetchLease) })
  | emptied {state after : HourlyIngestState} (closed : after.status = .empty) (marked : after.fetched = true)
      (succeeded : after.fetchSucceeded = true) : HourRowStep now key (.markEmpty key) (some state) (some after)
  | completed {state after : HourlyIngestState} {totalMatches : Int} (closed : after.status = .complete)
      (marked : after.fetched = true) (succeeded : after.fetchSucceeded = true) :
      HourRowStep now key (.markComplete key totalMatches) (some state) (some after)
  | failed {state after : HourlyIngestState} {message : String} {rawCount stagedCount : Option Int}
      (closed : after.status = .failed) (same : after.fetched = state.fetched)
      (kept : after.fetchSucceeded = state.fetchSucceeded) :
      HourRowStep now key (.markFailed key message rawCount stagedCount) (some state) (some after)

theorem updateHour_hours (before : HourStore) (key other : HourKey)
    (change : HourlyIngestState → Option HourlyIngestState) :
    (before.updateHour key change).hours other =
      if other = key then ((before.hours key).bind change).or (before.hours key) else before.hours other := by
  simp only [HourStore.updateHour, Function.update_apply]

/-- A statement on one hour: nothing happens to its row, or the change that it finds. -/
theorem updateHour_step {now : Int} {op : HourOp} {before : HourStore} {target : HourKey}
    {change : HourlyIngestState → Option HourlyIngestState}
    (each : ∀ state after, change state = some after → HourRowStep now target op (some state) (some after))
    (key : HourKey) : HourRowStep now key op (before.hours key) ((before.updateHour target change).hours key) := by
  rw [updateHour_hours]
  split_ifs with same
  · subst same
    cases stored : before.hours key with
    | none => exact .kept op none
    | some state =>
        cases changed : change state with
        | none => simpa [changed] using HourRowStep.kept op (some state)
        | some after => simpa [changed] using each state after changed
  · exact .kept op _

@[simp] theorem constraintViolation_eq_ok {α : Type} {found : Option α} {value : α} :
    constraintViolation found = .ok value ↔ found = some value := by
  cases found <;> simp [constraintViolation]

/-- The operation changes the ledger of the hours or the discoveries. -/
def HourOp.writes : HourOp → Bool
  | .claimHour _ _ | .claimSearch _ | .recordDiscovery _ _ | .refreshLease _ | .markEmpty _ | .insertEmptyCount _
  | .markComplete _ _ | .markFailed _ _ _ _ => true
  | _ => false

theorem hourEffect_reads {outside : HourOutside} {before after : HourStore} {op : HourOp} {result : op.Result}
    (reads : op.writes = false) (effected : hourEffect outside before op = .ok (result, after)) : after = before := by
  cases op with
  | discoveredIds | canonicalWork | recordOutage | completeStages | markUnavailable =>
      cases effected
      rfl
  | searchProvider | matchDetailsBatch =>
      simp only [hourEffect] at effected
      split at effected <;> cases effected
      rfl
  | checkpointOutcome =>
      simp only [hourEffect] at effected
      cases told : outside.checkpointed <;> rw [told] at effected <;> cases effected
      rfl
  | recoverMatch =>
      simp only [hourEffect] at effected
      cases told : outside.recovered <;> rw [told] at effected <;> cases effected
      rfl
  | _ => cases reads

theorem claimHour_row {now : Int} {before after : HourStore} {target : HourKey} {source : String} {owned : Bool}
    (claimed : claimHourlyIngestHour now before target source = some (owned, after)) (key : HourKey) :
    HourRowStep now key (.claimHour target source) (before.hours key) (after.hours key) := by
  simp only [claimHourlyIngestHour] at claimed
  split at claimed
  · split at claimed
    · rename_i state taken
      cases claimed
      simp only [Function.update_apply]
      split_ifs with same
      · subst same
        exact .claimed taken
      · exact .kept _ _
    · cases claimed
      exact .kept _ _
  · cases claimed

theorem recordDiscovery_row {now : Int} {before after : HourStore} {target : HourKey} {count : Nat}
    {observations : List MatchIdObservation}
    (recorded : recordMatchCountDiscoveryResult before target observations = some (count, after)) (key : HourKey) :
    HourRowStep now key (.recordDiscovery target observations) (before.hours key) (after.hours key) := by
  simp only [recordMatchCountDiscoveryResult] at recorded
  split at recorded
  · cases recorded
    apply @updateHour_step now _ ⟨before.hours, _, _, _, _, _⟩ target
    intro state after changed
    split at changed
    · rename_i working
      cases changed
      exact .recorded working
    · cases changed
  · cases recorded

theorem hourEffect_row {outside : HourOutside} {before after : HourStore} {op : HourOp} {result : op.Result}
    (effected : hourEffect outside before op = .ok (result, after)) (key : HourKey) :
    HourRowStep outside.now key op (before.hours key) (after.hours key) := by
  cases op with
  | claimHour target source => exact claimHour_row (constraintViolation_eq_ok.mp effected) key
  | recordDiscovery target observations => exact recordDiscovery_row (constraintViolation_eq_ok.mp effected) key
  | claimSearch target =>
      cases effected
      apply updateHour_step
      intro state after changed
      split at changed
      · rename_i free
        cases changed
        exact .granted free.1 free.2
      · cases changed
  | refreshLease target =>
      cases effected
      apply updateHour_step
      intro state after changed
      split at changed
      · rename_i working
        cases changed
        exact .refreshed working
      · cases changed
  | markEmpty target =>
      cases effected
      apply updateHour_step
      rintro state after ⟨⟩
      exact .emptied rfl rfl rfl
  | markComplete target totalMatches =>
      cases effected
      apply updateHour_step
      rintro state after ⟨⟩
      exact .completed rfl rfl rfl
  | markFailed target message rawCount stagedCount =>
      cases effected
      apply updateHour_step
      rintro state after ⟨⟩
      exact .failed rfl rfl rfl
  | insertEmptyCount target =>
      cases effected
      exact .kept _ _
  | _ =>
      rw [hourEffect_reads rfl effected]
      exact .kept _ _

/-! ### Discoveries -/

section Recorded
variable {target key : HourKey} {discoveries : List MatchCountDiscovery}

/-- A match that is found in an hour stays there. -/
theorem recordObservation_keeps {observation : MatchIdObservation} {id : Int}
    (found : id ∈ discoveredMatchIds discoveries key) :
    id ∈ discoveredMatchIds (recordObservation target discoveries observation) key := by
  obtain ⟨positive, discovery, listed, inside, rfl⟩ := mem_discoveredMatchIds.mp found
  rw [mem_discoveredMatchIds]
  apply And.intro positive
  simp only [recordObservation]
  split
  · have stays := @KeyedList.mem_update_of_mem _ _ _ discoveryKey
      (fun known => { known with
        region := if normalizeRegion observation.region ≠ "Unknown" then normalizeRegion observation.region
          else known.region
        entryDatetime := known.entryDatetime.or observation.entryDatetime
        activeFlag := observation.activeFlag })
      (observation.matchId, target.queueId) _ _ listed
    rcases stays with kept | changed
    · exact ⟨discovery, kept, inside, rfl⟩
    · exact ⟨_, changed, inside, rfl⟩
  · exact ⟨discovery, List.mem_append_left _ listed, inside, rfl⟩

/-- In another hour there is nothing new. -/
theorem recordObservation_other {observation : MatchIdObservation} (other : key ≠ target) {id : Int}
    (found : id ∈ discoveredMatchIds (recordObservation target discoveries observation) key) :
    id ∈ discoveredMatchIds discoveries key := by
  obtain ⟨positive, discovery, listed, inside, rfl⟩ := mem_discoveredMatchIds.mp found
  rw [mem_discoveredMatchIds]
  apply And.intro positive
  simp only [recordObservation] at listed
  split at listed
  · rcases KeyedList.mem_update listed with kept | ⟨old, earlier, rfl⟩
    · exact ⟨discovery, kept, inside, rfl⟩
    · exact ⟨old, (KeyedList.lookup_mem earlier).1, inside, rfl⟩
  · rcases List.mem_append.mp listed with kept | new
    · exact ⟨discovery, kept, inside, rfl⟩
    · obtain rfl := List.mem_singleton.mp new
      simp only [MatchCountDiscovery.foundIn, Bool.and_eq_true, beq_iff_eq] at inside
      cases key
      cases target
      simp_all

theorem recordObservations_keeps {observations : List MatchIdObservation} {id : Int}
    (found : id ∈ discoveredMatchIds discoveries key) :
    id ∈ discoveredMatchIds (observations.foldl (recordObservation target) discoveries) key := by
  induction observations generalizing discoveries with
  | nil => exact found
  | cons observation rest ih => exact ih (recordObservation_keeps found)

theorem recordObservations_other {observations : List MatchIdObservation} (other : key ≠ target) {id : Int}
    (found : id ∈ discoveredMatchIds (observations.foldl (recordObservation target) discoveries) key) :
    id ∈ discoveredMatchIds discoveries key := by
  induction observations generalizing discoveries with
  | nil => exact found
  | cons observation rest ih => exact recordObservation_other other (ih found)

end Recorded

/-- What is known of an hour in the tables. -/
def HourStore.ids (store : HourStore) (key : HourKey) : List Int := discoveredMatchIds store.discoveries key

/-- An operation leaves the matches and the clock alone, and changes the discoveries only to record more. -/
theorem hourEffect_frame {outside : HourOutside} {before after : HourStore} {op : HourOp} {result : op.Result}
    (effected : hourEffect outside before op = .ok (result, after)) :
    after.ingest = before.ingest ∧ after.clock = before.clock ∧
      ((∃ target observations, op = .recordDiscovery target observations ∧
          after.discoveries = (observationsById observations).foldl (recordObservation target) before.discoveries) ∨
        after.discoveries = before.discoveries) := by
  cases op with
  | claimHour target source =>
      replace effected := constraintViolation_eq_ok.mp effected
      simp only [claimHourlyIngestHour] at effected
      split at effected
      · split at effected <;> cases effected <;> exact ⟨rfl, rfl, .inr rfl⟩
      · cases effected
  | recordDiscovery target observations =>
      replace effected := constraintViolation_eq_ok.mp effected
      simp only [recordMatchCountDiscoveryResult] at effected
      split at effected <;> cases effected
      exact ⟨rfl, rfl, .inl ⟨target, observations, rfl, rfl⟩⟩
  | claimSearch | refreshLease | markEmpty | insertEmptyCount | markComplete | markFailed =>
      cases effected
      exact ⟨rfl, rfl, .inr rfl⟩
  | _ =>
      rw [hourEffect_reads rfl effected]
      exact ⟨rfl, rfl, .inr rfl⟩

/-- Only the record of an hour changes what is discovered in it, and takes nothing away. -/
theorem hourEffect_ids {outside : HourOutside} {before after : HourStore} {op : HourOp} {result : op.Result}
    (effected : hourEffect outside before op = .ok (result, after)) (key : HourKey) :
    (∀ id ∈ before.ids key, id ∈ after.ids key) ∧
      ((∃ observations, op = .recordDiscovery key observations) ∨ ∀ id ∈ after.ids key, id ∈ before.ids key) := by
  obtain ⟨-, -, ⟨target, observations, rfl, recorded⟩ | same⟩ := hourEffect_frame effected
  · rw [HourStore.ids, HourStore.ids, recorded]
    refine ⟨fun id known => recordObservations_keeps known, ?_⟩
    by_cases same : key = target
    · exact Or.inl ⟨observations, by rw [same]⟩
    · exact Or.inr fun id known => recordObservations_other same known
  · rw [HourStore.ids, HourStore.ids, same]
    exact ⟨fun _ known => known, Or.inr fun _ known => known⟩

theorem hourEffect_clock {outside : HourOutside} {before after : HourStore} {op : HourOp} {result : op.Result}
    (effected : hourEffect outside before op = .ok (result, after)) : after.clock = before.clock :=
  (hourEffect_frame effected).2.1

/-! ### One step -/

section Step
variable {before after : HourStore} {op : HourOp}

/-- What a step may do to an hour, whatever it replies. -/
structure HourStep (before after : HourStore) (op : HourOp) (key : HourKey) : Prop where
  time : before.clock ≤ after.clock
  row : HourRowStep after.clock key op (before.hours key) (after.hours key)
  keeps : ∀ id ∈ before.ids key, id ∈ after.ids key
  finds : (∃ observations, op = .recordDiscovery key observations) ∨ ∀ id ∈ after.ids key, id ∈ before.ids key

theorem hour_step {reply : op.Reply} (served : hourServe.handler before op reply after) (key : HourKey) :
    HourStep before after op key := by
  obtain ⟨outside, late, found, rfl, ⟨rfl, -⟩ | ⟨result, effected, -⟩⟩ := hour_served served
  · exact ⟨late, .kept _ _, fun _ known => known, Or.inr fun _ known => known⟩
  · obtain ⟨keeps, finds⟩ := hourEffect_ids effected key
    have now : after.clock = outside.now := hourEffect_clock effected
    exact ⟨late.trans_eq now.symm, now ▸ hourEffect_row effected key, keeps, finds⟩

theorem hour_replied {result : op.Result} (served : hourServe.handler before op (.ok result) after) :
    ∃ (outside : HourOutside) (found : HourStore), found.hours = before.hours ∧ found.discoveries = before.discoveries ∧
      found.clock = outside.now ∧ hourEffect outside found op = .ok (result, after) := by
  obtain ⟨outside, -, found, rfl, ⟨-, _, failed⟩ | ⟨result, effected, same | ⟨_, failed⟩⟩⟩ := hour_served served
  · cases failed
  · cases same
    refine ⟨outside, _, ?_, ?_, ?_, effected⟩ <;> rfl
  · cases failed

end Step

end PaladinsCat.Backend
