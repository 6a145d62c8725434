import PaladinsCat.IdentityLinks

/-!
The observations of an identity in the order of their times, when observations are inserted
and resolved one by one. The resolver compares a new observation with those beside it among
the candidates, which share one of four kinds of evidence with it. Another one may lie in
between, with which the new one is in conflict.
-/

namespace PaladinsCat.PrivateIdentity

/-! ### Lists in the order of a key -/

section Sorted
variable {α : Type} {key : α → Int} {list : List α} {near : α} {now : Int}

theorem find_latest (sorted : list.Pairwise fun left right => key left ≤ key right)
    (distinct : ∀ left ∈ list, ∀ right ∈ list, key left = key right → left = right) (member : near ∈ list)
    (due : key near ≤ now) (nearest : ∀ other ∈ list, key other ≤ now → key other ≤ key near) :
    list.reverse.find? (fun other => decide (key other ≤ now)) = some near := by
  cases found : list.reverse.find? fun other => decide (key other ≤ now) with
  | none =>
      have none_ := List.find?_eq_none.mp found near (List.mem_reverse.mpr member)
      simp [due] at none_
  | some last =>
      obtain ⟨reached, front, back, split, skipped⟩ := List.find?_eq_some_iff_append.mp found
      simp only [decide_eq_true_eq] at reached
      have order : (front ++ last :: back).Pairwise fun left right => key right ≤ key left :=
        split ▸ List.pairwise_reverse.mpr sorted
      have listed : last ∈ list := List.mem_reverse.mp (split ▸ List.mem_append_right _ List.mem_cons_self)
      have placed : near ∈ front ++ last :: back := split ▸ List.mem_reverse.mpr member
      rcases List.mem_append.mp placed with before | after
      · have late := skipped near before
        simp [due] at late
      · rcases List.mem_cons.mp after with rfl | later
        · rfl
        · have below := List.rel_of_pairwise_cons (List.pairwise_append.mp order).2.1 later
          have above := nearest last listed reached
          rw [distinct last listed near member (le_antisymm above below)]

theorem find_earliest (sorted : list.Pairwise fun left right => key left ≤ key right)
    (distinct : ∀ left ∈ list, ∀ right ∈ list, key left = key right → left = right) (member : near ∈ list)
    (later : now < key near) (nearest : ∀ other ∈ list, now < key other → key near ≤ key other) :
    list.find? (fun other => decide (now < key other)) = some near := by
  cases found : list.find? fun other => decide (now < key other) with
  | none =>
      have none_ := List.find?_eq_none.mp found near member
      simp [later] at none_
  | some first =>
      obtain ⟨reached, front, back, split, skipped⟩ := List.find?_eq_some_iff_append.mp found
      simp only [decide_eq_true_eq] at reached
      have listed : first ∈ list := split ▸ List.mem_append_right _ List.mem_cons_self
      rcases List.mem_append.mp (split ▸ member) with before | after
      · have early := skipped near before
        simp [later] at early
      · rcases List.mem_cons.mp after with rfl | rest
        · rfl
        · have above := List.rel_of_pairwise_cons (List.pairwise_append.mp (split ▸ sorted)).2.1 rest
          have below := nearest first listed reached
          rw [distinct first listed near member (le_antisymm above below)]

end Sorted

/-! ### Timelines -/

def Store.seen (store : Store) (id : Int) : List PrivateObservation :=
  (store.observations.filter fun row => row.privatePlayerId == some id).map (·.observation)

/-- Nothing lies between the two. -/
structure Neighbors (seen : List PrivateObservation) (left right : PrivateObservation) : Prop where
  first : left ∈ seen
  second : right ∈ seen
  order : left.entryDatetime < right.entryDatetime
  between : ∀ other ∈ seen, other.entryDatetime ≤ left.entryDatetime ∨ right.entryDatetime ≤ other.entryDatetime

/-- No neighbors in the timeline of an active identity are in conflict. -/
def Consistent (store : Store) : Prop :=
  ∀ id, store.isCurrent id = true → ∀ left right, Neighbors (store.seen id) left right →
    (scorePrivateIdentity left right).hardConflict = false ∧ (scorePrivateIdentity right left).hardConflict = false

/-- The observation would be a neighbor of one that is there. -/
def Beside (seen : List PrivateObservation) (incoming near : PrivateObservation) : Prop :=
  Neighbors (incoming :: seen) near incoming ∨ Neighbors (incoming :: seen) incoming near

/-- Where an observation is linked, those that would be beside it and share no evidence with it are
not in conflict with it either. -/
def Fits (store : Store) (incoming : PrivateObservation) : Prop :=
  ∀ id, linksTo store incoming = some id → ∀ near, Beside (store.seen id) incoming near →
    sharesEvidence incoming near = false → (scorePrivateIdentity incoming near).hardConflict = false

section Timelines
variable {store : Store} {incoming near : PrivateObservation}

theorem mem_seen {id : Int} :
    near ∈ store.seen id ↔ ∃ row ∈ store.observations, row.privatePlayerId = some id ∧ row.observation = near := by
  simp [Store.seen, and_assoc]

instance : Std.Total earlierObservation := ⟨fun left right => le_total left.entryDatetime right.entryDatetime⟩

instance : IsTrans PrivateObservation earlierObservation := ⟨fun _ _ _ first second => le_trans first second⟩

/-- A candidate that is not in conflict is not so with the candidates beside the observation. -/
theorem clear_neighbor {observations : List PrivateObservation}
    (clear : (scoreCandidate incoming observations).hardConflict = false)
    (beside : observations.reverse.find? (fun other => decide (other.entryDatetime ≤ incoming.entryDatetime)) = some near ∨
      observations.find? (fun other => decide (incoming.entryDatetime < other.entryDatetime)) = some near) :
    (scorePrivateIdentity incoming near).hardConflict = false := by
  by_contra conflict
  rw [Bool.not_eq_false] at conflict
  have member : scorePrivateIdentity incoming near ∈ neighborScores incoming observations := by
    apply List.mem_map_of_mem
    rcases beside with before | after
    · exact List.mem_append_left _ (Option.mem_toList.mpr before)
    · exact List.mem_append_right _ (Option.mem_toList.mpr after)
  unfold scoreCandidate at clear
  cases found : (neighborScores incoming observations).find? (·.hardConflict) with
  | none => exact List.find?_eq_none.mp found _ member conflict
  | some compatibility =>
      have reported := List.find?_some found
      simp only [found] at clear
      rw [clear] at reported
      cases reported

theorem candidates_of {id : Int} {observations : List PrivateObservation}
    (listed : (id, observations) ∈ candidateObservations store incoming) :
    observations = observationsOf (store.observations.filter (isCandidate store incoming)) id := by
  simp only [candidateObservations, List.mem_map, Prod.mk.injEq] at listed
  obtain ⟨same, -, rfl, rfl⟩ := listed
  rfl

theorem mem_observationsOf {rows : List ObservationRow} {id : Int} :
    near ∈ observationsOf rows id ↔ ∃ row ∈ rows, row.privatePlayerId = some id ∧ row.observation = near := by
  simp [observationsOf, and_assoc]

/-- What shares evidence with the observation is a candidate, if its identity is one. -/
theorem mem_candidates {id : Int} {observations : List PrivateObservation}
    (listed : (id, observations) ∈ candidateObservations store incoming) :
    near ∈ observations ↔ near ∈ store.seen id ∧ sharesEvidence incoming near = true := by
  obtain ⟨current, unused⟩ := candidate_identity listed
  dsimp only at current unused
  rw [candidates_of listed, mem_observationsOf, mem_seen]
  constructor
  · rintro ⟨row, member, linked, rfl⟩
    obtain ⟨stored, candidate⟩ := List.mem_filter.mp member
    exact ⟨⟨row, stored, linked, rfl⟩, (isCandidate_iff.mp candidate).2.2⟩
  · rintro ⟨⟨row, stored, linked, rfl⟩, evidence⟩
    have other : row.observation.matchId ≠ incoming.matchId := by
      intro same
      have used := usedIn_iff.mpr ⟨row, stored, same, linked⟩
      rw [unused] at used
      cases used
    have candidate := isCandidate_iff.mpr ⟨⟨id, linked, current, unused⟩, other, evidence⟩
    exact ⟨row, List.mem_filter.mpr ⟨stored, candidate⟩, linked, rfl⟩

/-- Where an observation is linked, it is not in conflict with a candidate beside it. -/
theorem linked_neighbor {id : Int} (linked : linksTo store incoming = some id)
    (distinct : ∀ left ∈ store.seen id, ∀ right ∈ store.seen id, left.entryDatetime = right.entryDatetime → left = right)
    (fresh : ∀ other ∈ store.seen id, other.entryDatetime ≠ incoming.entryDatetime)
    (beside : Beside (store.seen id) incoming near) (evidence : sharesEvidence incoming near = true) :
    (scorePrivateIdentity incoming near).hardConflict = false := by
  unfold linksTo at linked
  split at linked
  · cases linked
  obtain ⟨best, clear, rfl⟩ := Option.map_eq_some_iff.mp linked
  obtain ⟨⟨other, observations⟩, listed, same, scored, fine⟩ := mem_rankCandidates.mp (clearBest_mem clear)
  rw [show other = best.1 from same] at listed
  have seen : (insertObservation store incoming).seen best.1 = store.seen best.1 := by
    simp [Store.seen, insertObservation, arrivedRow]
  have members : ∀ other, other ∈ observations ↔ other ∈ store.seen best.1 ∧ sharesEvidence incoming other = true := by
    intro other
    rw [mem_candidates listed, seen]
  have sorted : observations.Pairwise earlierObservation := by
    rw [candidates_of listed]
    exact List.pairwise_insertionSort _ _
  have apart : ∀ left ∈ observations, ∀ right ∈ observations, left.entryDatetime = right.entryDatetime → left = right := by
    intro left first right second
    exact distinct left ((members left).mp first).1 right ((members right).mp second).1
  apply clear_neighbor (scored ▸ fine)
  rcases beside with neighbors | neighbors
  · have here : near ∈ store.seen best.1 := by
      rcases List.mem_cons.mp neighbors.first with rfl | old
      · exact absurd neighbors.order (lt_irrefl _)
      · exact old
    have nearest : ∀ other ∈ observations, other.entryDatetime ≤ incoming.entryDatetime →
        other.entryDatetime ≤ near.entryDatetime := by
      intro other member due
      have old := ((members other).mp member).1
      rcases neighbors.between other (List.mem_cons_of_mem _ old) with before | after
      · exact before
      · exact absurd (le_antisymm due after) (fresh other old)
    exact Or.inl (find_latest sorted apart ((members near).mpr ⟨here, evidence⟩) neighbors.order.le nearest)
  · have here : near ∈ store.seen best.1 := by
      rcases List.mem_cons.mp neighbors.second with rfl | old
      · exact absurd neighbors.order (lt_irrefl _)
      · exact old
    have nearest : ∀ other ∈ observations, incoming.entryDatetime < other.entryDatetime →
        near.entryDatetime ≤ other.entryDatetime := by
      intro other member later
      rcases neighbors.between other (List.mem_cons_of_mem _ ((members other).mp member).1) with before | after
      · exact absurd later (not_lt.mpr before)
      · exact after
    exact Or.inr (find_earliest sorted apart ((members near).mpr ⟨here, evidence⟩) neighbors.order nearest)

end Timelines

/-! ### One step -/

section Step
variable {store : Store} {incoming : PrivateObservation}

@[simp] theorem refreshIdentity_observations (store : Store) (id : Int) :
    (refreshIdentity store id).observations = store.observations := by
  unfold refreshIdentity
  split <;> rfl

@[simp] theorem arrivedRow_observation (observation : PrivateObservation) :
    (arrivedRow observation).observation = observation := rfl

@[simp] theorem arrivedRow_unlinked (observation : PrivateObservation) :
    (arrivedRow observation).privatePlayerId = none := rfl

theorem insert_updateRows {inserted : Store} {change : ObservationRow → ObservationRow}
    (fresh : observationKey incoming ∉ store.observations.map ObservationRow.key)
    (rows : inserted.observations = store.observations ++ [arrivedRow incoming]) :
    (inserted.updateRows (fun row => row.key == (arrivedRow incoming).key) change).observations =
      store.observations ++ [change (arrivedRow incoming)] := by
  have kept : (store.observations.map fun row => if row.key = (arrivedRow incoming).key then change row else row) =
      store.observations := by
    rw [List.map_congr_left (g := id), List.map_id]
    intro row member
    have other : row.key ≠ (arrivedRow incoming).key := by
      intro same
      exact fresh (List.mem_map.mpr ⟨row, member, same⟩)
    exact if_neg other
  simp [Store.updateRows, rows, kept]

/-- A step appends the observation, linked as it was chosen, or to a new identity. -/
theorem observe_appends (fresh : observationKey incoming ∉ store.observations.map ObservationRow.key) :
    ∃ row, (observe store incoming).observations = store.observations ++ [row] ∧ row.observation = incoming ∧
      (row.privatePlayerId = linksTo store incoming ∨
        linksTo store incoming = none ∧ row.privatePlayerId = some store.nextId) := by
  have inserted : (insertObservation store incoming).observations = store.observations ++ [arrivedRow incoming] := rfl
  rw [observe, if_neg fresh]
  by_cases evidence : hasPrivateIdentityEvidence incoming = true
  · have chooses : linksTo store incoming = (clearBest (rankCandidates incoming
        (candidateObservations (insertObservation store incoming) incoming))).map (·.1) := by
      rw [linksTo, if_neg (by simp [fresh, evidence])]
    rw [chooses, resolveObservation, arrivedRow_observation, if_pos evidence]
    simp only [arrivedRow_unlinked]
    cases clear : clearBest (rankCandidates incoming
        (candidateObservations (insertObservation store incoming) incoming)) with
    | some best =>
        simp only [linkObservation, refreshIdentity_observations]
        exact ⟨_, insert_updateRows fresh inserted, rfl, Or.inl rfl⟩
    | none =>
        dsimp only
        split
        · exact ⟨_, insert_updateRows fresh inserted, rfl, Or.inl rfl⟩
        · simp only [linkObservation, refreshIdentity_observations]
          exact ⟨_, insert_updateRows fresh inserted, rfl, Or.inr ⟨rfl, rfl⟩⟩
  · have none_ : linksTo store incoming = none := by
      rw [linksTo, if_pos (Or.inr (Bool.not_eq_true _ ▸ evidence))]
    rw [none_, resolveObservation, arrivedRow_observation, if_neg evidence]
    exact ⟨_, insert_updateRows fresh inserted, rfl, Or.inl rfl⟩

theorem observe_known (known : observationKey incoming ∈ store.observations.map ObservationRow.key) :
    observe store incoming = store := if_pos known

theorem Store.Sound.observe (sound : store.Sound) : (PrivateIdentity.observe store incoming).Sound := by
  unfold PrivateIdentity.observe
  split
  · exact sound
  · exact Store.Sound.resolve (Store.Sound.insert sound rfl) _

theorem mem_seen_appended {rows : List ObservationRow} {row : ObservationRow} {id : Int} {near : PrivateObservation}
    {after : Store} (appended : after.observations = rows ++ [row]) (before : store.observations = rows) :
    near ∈ after.seen id ↔ near ∈ store.seen id ∨ row.privatePlayerId = some id ∧ row.observation = near := by
  simp only [mem_seen, appended, before, List.mem_append, List.mem_singleton]
  constructor
  · rintro ⟨other, old | rfl, linked, same⟩
    · exact Or.inl ⟨other, old, linked, same⟩
    · exact Or.inr ⟨linked, same⟩
  · rintro (⟨other, old, linked, same⟩ | ⟨linked, same⟩)
    · exact ⟨other, Or.inl old, linked, same⟩
    · exact ⟨row, Or.inr rfl, linked, same⟩

theorem Neighbors.congr {seen others : List PrivateObservation} {left right : PrivateObservation}
    (neighbors : Neighbors seen left right) (same : ∀ near, near ∈ seen ↔ near ∈ others) : Neighbors others left right where
  first := (same left).mp neighbors.first
  second := (same right).mp neighbors.second
  order := neighbors.order
  between other member := neighbors.between other ((same other).mpr member)

/-- Two neighbors that were there before were neighbors. -/
theorem Neighbors.old {seen : List PrivateObservation} {left right : PrivateObservation}
    (neighbors : Neighbors (incoming :: seen) left right) (first : left ∈ seen) (second : right ∈ seen) :
    Neighbors seen left right where
  first
  second
  order := neighbors.order
  between other member := neighbors.between other (List.mem_cons_of_mem _ member)

/-- The times of the observations differ from each other, and from that of the next one. -/
structure TimesApart (store : Store) (incoming : PrivateObservation) : Prop where
  distinct : ∀ left ∈ store.observations, ∀ right ∈ store.observations,
    left.observation.entryDatetime = right.observation.entryDatetime → left.observation = right.observation
  fresh : ∀ row ∈ store.observations, row.observation.entryDatetime ≠ incoming.entryDatetime

theorem conflict_free_swap {left right : PrivateObservation} (apart : left.entryDatetime ≠ right.entryDatetime)
    (free : (scorePrivateIdentity left right).hardConflict = false) :
    (scorePrivateIdentity right left).hardConflict = false := by
  rw [← Bool.not_eq_true, hardConflict_iff] at free ⊢
  exact fun conflicting => free ((conflicting_swap apart).mpr conflicting)

theorem beside_member {seen : List PrivateObservation} {near : PrivateObservation} (beside : Beside seen incoming near) :
    near ∈ seen := by
  rcases beside with neighbors | neighbors
  · rcases List.mem_cons.mp neighbors.first with rfl | old
    · exact absurd neighbors.order (lt_irrefl _)
    · exact old
  · rcases List.mem_cons.mp neighbors.second with rfl | old
    · exact absurd neighbors.order (lt_irrefl _)
    · exact old

theorem beside_free {id : Int} {near : PrivateObservation} (apart : TimesApart store incoming)
    (fits : Fits store incoming) (linked : linksTo store incoming = some id) (beside : Beside (store.seen id) incoming near) :
    (scorePrivateIdentity incoming near).hardConflict = false := by
  cases evidence : sharesEvidence incoming near with
  | false => exact fits id linked near beside evidence
  | true =>
      apply linked_neighbor linked _ _ beside evidence
      · intro left first right second same
        obtain ⟨one, listed, -, rfl⟩ := mem_seen.mp first
        obtain ⟨other, stored, -, rfl⟩ := mem_seen.mp second
        exact apart.distinct one listed other stored same
      · intro other member
        obtain ⟨row, listed, -, rfl⟩ := mem_seen.mp member
        exact apart.fresh row listed

/-- A step keeps the timelines consistent exactly if its observation fits. -/
theorem consistent_step (sound : store.Sound) (apart : TimesApart store incoming) (consistent : Consistent store) :
    Consistent (observe store incoming) ↔ Fits store incoming := by
  by_cases known : observationKey incoming ∈ store.observations.map ObservationRow.key
  · have none_ : linksTo store incoming = none := if_pos (Or.inl known)
    simp [observe_known known, consistent, Fits, none_]
  obtain ⟨row, appended, rfl, target⟩ := observe_appends known
  have members : ∀ id near, near ∈ (observe store row.observation).seen id ↔
      near ∈ store.seen id ∨ row.privatePlayerId = some id ∧ row.observation = near :=
    fun id near => mem_seen_appended appended rfl
  constructor
  · intro after id linked near beside evidence
    have joined : row.privatePlayerId = some id := by
      rcases target with chosen | ⟨none_, -⟩
      · exact chosen.trans linked
      · rw [none_] at linked
        cases linked
    have seen : ∀ near, near ∈ row.observation :: store.seen id ↔ near ∈ (observe store row.observation).seen id := by
      intro near
      rw [members, List.mem_cons, or_comm, eq_comm (a := near)]
      simp [joined]
    have listed : row ∈ (observe store row.observation).observations := by
      rw [appended]
      exact List.mem_append_right _ List.mem_cons_self
    have active := (Store.Sound.observe sound).linked row listed id joined
    rcases beside with neighbors | neighbors
    · exact (after id active _ _ (neighbors.congr seen)).2
    · exact (after id active _ _ (neighbors.congr seen)).1
  · intro fits id active left right neighbors
    have old : ∀ near ∈ store.seen id, store.isCurrent id = true := by
      intro near member
      obtain ⟨other, listed, linked, -⟩ := mem_seen.mp member
      exact sound.linked other listed id linked
    by_cases joined : row.privatePlayerId = some id
    · have seen : ∀ near, near ∈ (observe store row.observation).seen id ↔ near ∈ row.observation :: store.seen id := by
        intro near
        rw [members, List.mem_cons, or_comm, eq_comm (a := near)]
        simp [joined]
      have neighbors := neighbors.congr seen
      rcases target with chosen | ⟨-, made⟩
      · have linked : linksTo store row.observation = some id := chosen.symm.trans joined
        rcases List.mem_cons.mp neighbors.first with rfl | first
        · have beside : Beside (store.seen id) row.observation right := Or.inr neighbors
          have free := beside_free apart fits linked beside
          exact ⟨free, conflict_free_swap neighbors.order.ne free⟩
        · rcases List.mem_cons.mp neighbors.second with rfl | second
          · have beside : Beside (store.seen id) row.observation left := Or.inl neighbors
            have free := beside_free apart fits linked beside
            exact ⟨conflict_free_swap neighbors.order.ne' free, free⟩
          · exact consistent id (old left first) left right (neighbors.old first second)
      · -- A new identity has one observation, which is no neighbor of itself.
        obtain rfl := Option.some.inj (made.symm.trans joined)
        have empty : ∀ near, near ∉ store.seen store.nextId := by
          intro near member
          have current := old near member
          rw [Store.isCurrent, sound.fresh _ le_rfl] at current
          cases current
        have one := (List.mem_cons.mp neighbors.first).resolve_right (empty left)
        have other := (List.mem_cons.mp neighbors.second).resolve_right (empty right)
        exact absurd neighbors.order (by rw [one, other]; exact lt_irrefl _)
    · have seen : ∀ near, near ∈ (observe store row.observation).seen id ↔ near ∈ store.seen id := by
        intro near
        rw [members]
        simp [joined]
      have neighbors := neighbors.congr seen
      exact consistent id (old left neighbors.first) left right neighbors

end Step

/-! ### Runs -/

section Runs
variable {arrivals past : List PrivateObservation} {incoming : PrivateObservation}

theorem observeAll_append : observeAll (past ++ [incoming]) = observe (observeAll past) incoming := by
  rw [observeAll, List.foldl_append]
  rfl

theorem observeAll_sound (past : List PrivateObservation) : (observeAll past).Sound := by
  induction past using List.reverseRecOn with
  | nil => exact untouched_empty.sound
  | append_singleton past incoming ih =>
      rw [observeAll_append]
      exact ih.observe

theorem observed_past (past : List PrivateObservation) : ∀ row ∈ (observeAll past).observations, row.observation ∈ past := by
  induction past using List.reverseRecOn with
  | nil =>
      intro row member
      cases member
  | append_singleton past incoming ih =>
      intro row member
      rw [observeAll_append] at member
      by_cases known : observationKey incoming ∈ (observeAll past).observations.map ObservationRow.key
      · rw [observe_known known] at member
        exact List.mem_append_left _ (ih row member)
      · obtain ⟨new, appended, same, -⟩ := observe_appends known
        rw [appended] at member
        rcases List.mem_append.mp member with old | last
        · exact List.mem_append_left _ (ih row old)
        · rw [List.mem_singleton.mp last, same]
          exact List.mem_append_right _ List.mem_cons_self

theorem times_apart (distinct : (arrivals.map (·.entryDatetime)).Nodup) (comes : past ++ [incoming] <+: arrivals) :
    TimesApart (observeAll past) incoming := by
  have here : ((past ++ [incoming]).map (·.entryDatetime)).Nodup :=
    distinct.sublist (comes.sublist.map _)
  have same := List.inj_on_of_nodup_map here
  constructor
  · intro left first right second
    exact same (List.mem_append_left _ (observed_past past left first))
      (List.mem_append_left _ (observed_past past right second))
  · intro row member equal
    have again := same (List.mem_append_left _ (observed_past past row member))
      (List.mem_append_right _ List.mem_cons_self) equal
    rw [List.map_append, List.nodup_append] at here
    exact here.2.2 _ (List.mem_map_of_mem (observed_past past row member)) _ List.mem_cons_self equal

/-- No active identity ever has neighbors in conflict exactly if every observation that is linked
fits: those that would be beside it without shared evidence are not in conflict with it. -/
theorem timelines_consistent_iff (distinct : (arrivals.map (·.entryDatetime)).Nodup) :
    (∀ past, past <+: arrivals → Consistent (observeAll past)) ↔
      ∀ past incoming, past ++ [incoming] <+: arrivals → Fits (observeAll past) incoming := by
  constructor
  · intro consistent past incoming comes
    have before := consistent past ((List.prefix_append past [incoming]).trans comes)
    have after := consistent _ comes
    rw [observeAll_append] at after
    exact (consistent_step (observeAll_sound past) (times_apart distinct comes) before).mp after
  · intro fits past
    induction past using List.reverseRecOn with
    | nil =>
        intro _ id active
        cases active
    | append_singleton past incoming ih =>
        intro comes
        have before := ih ((List.prefix_append past [incoming]).trans comes)
        rw [observeAll_append]
        exact (consistent_step (observeAll_sound past) (times_apart distinct comes) before).mpr (fits past incoming comes)

end Runs

/-! ### Two runs -/

def portalSeen : PrivateObservation :=
  { matchId := 1, privateSlot := 1, entryDatetime := 1000000, portalUserId := "u", platform := "steam",
    partyMemberIds := [1, 2, 3] }

def partySeen : PrivateObservation :=
  { matchId := 2, privateSlot := 1, entryDatetime := 2000000, accountLevel := 50, platform := "steam",
    partyMemberIds := [1, 2, 3] }

def lowerLevelSeen : PrivateObservation :=
  { matchId := 3, privateSlot := 1, entryDatetime := 3000000, portalUserId := "u", accountLevel := 10 }

/-- The account of one portal user is seen twice. -/
theorem portal_timeline_consistent :
    (observeAll [portalSeen, lowerLevelSeen]).observations.map (·.privatePlayerId) = [some 1, some 1] ∧
      ∀ past, past <+: [portalSeen, lowerLevelSeen] → Consistent (observeAll past) := by
  refine ⟨by decide +kernel, (timelines_consistent_iff (by decide)).mpr ?_⟩
  intro past incoming comes id linked near beside evidence
  have listed := (List.mem_inits _ _).mpr comes
  simp only [List.inits, List.map_cons, List.map_nil, List.mem_cons, List.not_mem_nil, or_false] at listed
  rcases listed with none_ | first | second
  · simp at none_
  · obtain ⟨rfl, rfl⟩ : past = [] ∧ incoming = portalSeen := by simpa [List.append_eq_cons_iff] using first
    have unlinked : linksTo (observeAll []) portalSeen = none := by decide +kernel
    rw [unlinked] at linked
    cases linked
  · obtain ⟨rfl, rfl⟩ : past = [portalSeen] ∧ incoming = lowerLevelSeen := by
      have parts := List.append_inj' (second.trans (List.append_cons [] portalSeen [lowerLevelSeen])) rfl
      exact ⟨parts.1, List.singleton_injective parts.2⟩
    obtain ⟨row, stored, -, rfl⟩ := mem_seen.mp (beside_member beside)
    have same := List.mem_singleton.mp (observed_past _ row stored)
    have shared : sharesEvidence lowerLevelSeen portalSeen = true := by decide
    rw [same, shared] at evidence
    cases evidence

/-- The second observation shares companions with the first one, and the third its portal user. -/
theorem overlooked_neighbor_conflicts :
    ([portalSeen, partySeen, lowerLevelSeen].map (·.entryDatetime)).Nodup ∧
      ¬ ∀ past, past <+: [portalSeen, partySeen, lowerLevelSeen] → Consistent (observeAll past) := by
  refine ⟨by decide, fun consistent => ?_⟩
  have conflicts : ∃ left ∈ (observeAll [portalSeen, partySeen, lowerLevelSeen]).seen 1,
      ∃ right ∈ (observeAll [portalSeen, partySeen, lowerLevelSeen]).seen 1,
        left.entryDatetime < right.entryDatetime ∧
        (∀ other ∈ (observeAll [portalSeen, partySeen, lowerLevelSeen]).seen 1,
          other.entryDatetime ≤ left.entryDatetime ∨ right.entryDatetime ≤ other.entryDatetime) ∧
        (scorePrivateIdentity left right).hardConflict = true := by decide +kernel
  obtain ⟨left, first, right, second, order, between, conflict⟩ := conflicts
  have free := (consistent _ List.prefix_rfl 1 (by decide +kernel) left right ⟨first, second, order, between⟩).1
  rw [conflict] at free
  cases free

end PaladinsCat.PrivateIdentity
