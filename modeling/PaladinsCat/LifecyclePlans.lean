import PaladinsCat.MatchLifecycle

/-!
What `plan_match_lifecycle` plans (workers/match_lifecycle.rs): the vendor calls that the
evidence does not make superfluous, and nothing that was fetched before.
-/

namespace PaladinsCat.Backend

/-- The players whose histories are wanted and not held. -/
def wantedHistoryIds (evidence : MatchEvidence) : Finset Int :=
  (evidence.rosterPlayerIds ∪ evidence.unresolvedPlayerIds) \ (evidence.directPlayerIds ∪ evidence.historyPlayerIds)

theorem missingHistoryIds_eq (evidence : MatchEvidence) :
    missingHistoryIds evidence = (wantedHistoryIds evidence).sort (· ≤ ·) := by
  rw [missingHistoryIds, wantedHistoryIds, Finset.union_sdiff_distrib]

theorem mem_missingHistoryIds {evidence : MatchEvidence} {id : Int} :
    id ∈ missingHistoryIds evidence ↔ id ∈ wantedHistoryIds evidence := by
  rw [missingHistoryIds_eq, Finset.mem_sort]

theorem missingHistoryIds_increasing (evidence : MatchEvidence) : (missingHistoryIds evidence).Pairwise (· < ·) := by
  rw [missingHistoryIds_eq]
  exact Finset.sortedLT_sort _ |>.pairwise

theorem missingHistoryIds_eq_nil {evidence : MatchEvidence} :
    missingHistoryIds evidence = [] ↔ wantedHistoryIds evidence = ∅ := by
  rw [List.eq_nil_iff_forall_not_mem, Finset.eq_empty_iff_forall_notMem]
  exact forall_congr' fun id => not_congr mem_missingHistoryIds

/-! ### The branches of the planner -/

section
variable {evidence : MatchEvidence}

theorem plan_of_durable (durable : factsDurable evidence.completedStages = true) :
    planMatchLifecycle evidence =
      if projectionComplete evidence.population evidence.completedStages then [.complete]
      else if evidence.population = .unknown then [.finalizeFacts]
      else [.project evidence.population] := by
  rw [planMatchLifecycle, if_pos durable]

variable (open_ : factsDurable evidence.completedStages = false)
include open_

theorem plan_of_undetailed (undetailed : evidence.detailAttempted = false) :
    planMatchLifecycle evidence = [.fetchDetail] := by
  rw [planMatchLifecycle, open_, if_neg Bool.false_ne_true, undetailed]
  rfl

theorem plan_of_unresolved (attempted : evidence.detailAttempted = true) (unresolved : evidence.rosterResolved = false) :
    planMatchLifecycle evidence = [.fetchRoster] := by
  rw [planMatchLifecycle, open_, if_neg Bool.false_ne_true, attempted, unresolved]
  rfl

theorem plan_of_resolved (attempted : evidence.detailAttempted = true) (resolved : evidence.rosterResolved = true) :
    planMatchLifecycle evidence =
      if missingHistoryIds evidence = [] then if evidence.demoResolved then [.finalizeFacts] else [.fetchDemo]
      else .fetchHistories (missingHistoryIds evidence) :: if evidence.demoResolved then [] else [.fetchDemo] := by
  rw [planMatchLifecycle, open_, if_neg Bool.false_ne_true, attempted, resolved]
  cases missing : missingHistoryIds evidence <;> cases evidence.demoResolved <;> simp

/-- The histories that a plan of an open match asks for. -/
theorem fetchHistories_mem_plan {ids : List Int} :
    .fetchHistories ids ∈ planMatchLifecycle evidence ↔
      evidence.detailAttempted = true ∧ evidence.rosterResolved = true ∧ wantedHistoryIds evidence ≠ ∅ ∧
        ids = missingHistoryIds evidence := by
  cases attempted : evidence.detailAttempted with
  | false => simp [plan_of_undetailed open_ attempted]
  | true =>
      cases resolved : evidence.rosterResolved with
      | false => simp [plan_of_unresolved open_ attempted resolved]
      | true =>
          rw [plan_of_resolved open_ attempted resolved, ne_eq, ← missingHistoryIds_eq_nil]
          cases missing : missingHistoryIds evidence <;> cases evidence.demoResolved <;> simp

end

/-- The players whose histories a plan fetches. -/
def fetchedHistories (plan : List MatchLifecycleAction) : List Int :=
  plan.flatMap fun action =>
    match action with
    | .fetchHistories ids => ids
    | _ => []

theorem mem_fetchedHistories {plan : List MatchLifecycleAction} {id : Int} :
    id ∈ fetchedHistories plan ↔ ∃ ids, .fetchHistories ids ∈ plan ∧ id ∈ ids := by
  rw [fetchedHistories, List.mem_flatMap]
  constructor
  · rintro ⟨action, planned, inside⟩
    cases action with
    | fetchHistories ids => exact ⟨ids, planned, inside⟩
    | _ => cases inside
  · rintro ⟨ids, planned, inside⟩
    exact ⟨_, planned, inside⟩

def MatchLifecycleAction.isFetch : MatchLifecycleAction → Bool
  | .fetchDetail | .fetchRoster | .fetchHistories _ | .fetchDemo => true
  | _ => false

/-- The evidence with more players whose rows are held. -/
def MatchEvidence.holding (evidence : MatchEvidence) (direct history : Finset Int) : MatchEvidence :=
  { evidence with
    directPlayerIds := evidence.directPlayerIds ∪ direct
    historyPlayerIds := evidence.historyPlayerIds ∪ history }

theorem wantedHistoryIds_holding (evidence : MatchEvidence) (direct history : Finset Int) :
    wantedHistoryIds (evidence.holding direct history) ⊆ wantedHistoryIds evidence :=
  Finset.sdiff_subset_sdiff (Finset.Subset.refl _)
    (Finset.union_subset_union Finset.subset_union_left Finset.subset_union_left)

theorem fetchedHistories_holding (evidence : MatchEvidence) (direct history : Finset Int) :
    fetchedHistories (planMatchLifecycle (evidence.holding direct history)) ⊆
      fetchedHistories (planMatchLifecycle evidence) := by
  intro id member
  obtain ⟨ids, planned, inside⟩ := mem_fetchedHistories.mp member
  cases durable : factsDurable evidence.completedStages with
  | true =>
      rw [plan_of_durable (show factsDurable (evidence.holding direct history).completedStages = true from durable)]
        at planned
      split_ifs at planned <;> simp at planned
  | false =>
      obtain ⟨attempted, resolved, -, rfl⟩ :=
        (@fetchHistories_mem_plan (evidence.holding direct history) durable ids).mp planned
      have wanted := wantedHistoryIds_holding evidence direct history (mem_missingHistoryIds.mp inside)
      have some_ : wantedHistoryIds evidence ≠ ∅ := Finset.ne_empty_of_mem wanted
      exact mem_fetchedHistories.mpr ⟨_, (fetchHistories_mem_plan durable).mpr ⟨attempted, resolved, some_, rfl⟩,
        mem_missingHistoryIds.mpr wanted⟩

/-- A plan asks for what is missing, in the order in which it can be fetched. -/
theorem planMatchLifecycle_spec (evidence : MatchEvidence) :
    planMatchLifecycle evidence ≠ [] ∧
    (factsDurable evidence.completedStages = true →
      (planMatchLifecycle evidence = [.complete] ∨ planMatchLifecycle evidence = [.project evidence.population] ∨
        planMatchLifecycle evidence = [.finalizeFacts]) ∧
      ∀ action ∈ planMatchLifecycle evidence, action.isFetch = false) ∧
    (factsDurable evidence.completedStages = false →
      (.fetchDetail ∈ planMatchLifecycle evidence ↔ evidence.detailAttempted = false) ∧
      (.fetchRoster ∈ planMatchLifecycle evidence ↔
        evidence.detailAttempted = true ∧ evidence.rosterResolved = false) ∧
      (∀ ids, .fetchHistories ids ∈ planMatchLifecycle evidence →
        ids.Pairwise (· < ·) ∧ ids.toFinset = wantedHistoryIds evidence) ∧
      ((∃ ids, .fetchHistories ids ∈ planMatchLifecycle evidence) ↔
        evidence.detailAttempted = true ∧ evidence.rosterResolved = true ∧ wantedHistoryIds evidence ≠ ∅)) ∧
    ∀ direct history : Finset Int,
      fetchedHistories (planMatchLifecycle (evidence.holding direct history)) ⊆
        fetchedHistories (planMatchLifecycle evidence) := by
  refine ⟨?_, ?_, ?_, fetchedHistories_holding evidence⟩
  · cases durable : factsDurable evidence.completedStages with
    | true =>
        rw [plan_of_durable durable]
        split_ifs <;> simp
    | false =>
        cases attempted : evidence.detailAttempted with
        | false => simp [plan_of_undetailed durable attempted]
        | true =>
            cases resolved : evidence.rosterResolved with
            | false => simp [plan_of_unresolved durable attempted resolved]
            | true =>
                rw [plan_of_resolved durable attempted resolved]
                split_ifs <;> simp
  · intro durable
    rw [plan_of_durable durable]
    split_ifs <;> simp [MatchLifecycleAction.isFetch]
  · intro open_
    refine ⟨?_, ?_, ?_, ?_⟩
    · cases attempted : evidence.detailAttempted with
      | false => simp [plan_of_undetailed open_ attempted]
      | true =>
          cases resolved : evidence.rosterResolved with
          | false => simp [plan_of_unresolved open_ attempted resolved]
          | true =>
              rw [plan_of_resolved open_ attempted resolved]
              split_ifs <;> simp
    · cases attempted : evidence.detailAttempted with
      | false => simp [plan_of_undetailed open_ attempted]
      | true =>
          cases resolved : evidence.rosterResolved with
          | false => simp [plan_of_unresolved open_ attempted resolved]
          | true =>
              rw [plan_of_resolved open_ attempted resolved]
              split_ifs <;> simp
    · intro ids planned
      obtain ⟨-, -, -, rfl⟩ := (fetchHistories_mem_plan open_).mp planned
      refine ⟨missingHistoryIds_increasing evidence, ?_⟩
      ext id
      rw [List.mem_toFinset, mem_missingHistoryIds]
    · constructor
      · rintro ⟨ids, planned⟩
        obtain ⟨attempted, resolved, wanted, -⟩ := (fetchHistories_mem_plan open_).mp planned
        exact ⟨attempted, resolved, wanted⟩
      · rintro ⟨attempted, resolved, wanted⟩
        exact ⟨_, (fetchHistories_mem_plan open_).mpr ⟨attempted, resolved, wanted, rfl⟩⟩

def brokenMatch : MatchEvidence where
  completedStages := ∅
  population := .casual
  detailAttempted := true
  rosterResolved := true
  demoResolved := false
  directPlayerIds := {1, 2}
  rosterPlayerIds := {1, 2, 9}
  historyPlayerIds := ∅
  unresolvedPlayerIds := {9, 10}

theorem planMatchLifecycle_spec_broken :
    .fetchRoster ∉ planMatchLifecycle brokenMatch ∧ (∃ ids, .fetchHistories ids ∈ planMatchLifecycle brokenMatch) ∧
      fetchedHistories (planMatchLifecycle (brokenMatch.holding {10} ∅)) ⊆
        fetchedHistories (planMatchLifecycle brokenMatch) := by
  obtain ⟨-, -, planned, fewer⟩ := planMatchLifecycle_spec brokenMatch
  obtain ⟨-, roster, -, histories⟩ := planned (by decide)
  exact ⟨fun fetched => absurd (roster.mp fetched).2 (by decide), histories.mpr ⟨rfl, rfl, by decide⟩, fewer {10} ∅⟩

/-- Nothing was fetched for the match yet, but a player of it is known. -/
def freshMatch : MatchEvidence where
  completedStages := ∅
  population := .unknown
  detailAttempted := false
  rosterResolved := false
  demoResolved := false
  directPlayerIds := ∅
  rosterPlayerIds := {1}
  historyPlayerIds := ∅
  unresolvedPlayerIds := ∅

/-- Histories are wanted, but the detail comes first. -/
theorem fresh_match_fetches_no_history :
    ¬ ∀ evidence : MatchEvidence, factsDurable evidence.completedStages = false →
      ((¬ ∃ ids, .fetchHistories ids ∈ planMatchLifecycle evidence) ↔ wantedHistoryIds evidence = ∅) := by
  intro always
  have none : ¬ ∃ ids, .fetchHistories ids ∈ planMatchLifecycle freshMatch := by
    rintro ⟨ids, planned⟩
    rw [plan_of_undetailed (by decide) rfl] at planned
    simp at planned
  exact absurd ((always freshMatch (by decide)).mp none) (by decide)

end PaladinsCat.Backend
