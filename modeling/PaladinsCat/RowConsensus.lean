import PaladinsCat.CacheOrder

/-!
What the resolver takes from many rows at once (resolver.rs): one roster from the direct
and the recovered players, and one score from all rows that bear any. Both loops stop at
nothing but their own bookkeeping, which is the ids seen and the private rows counted for
the roster, and the score so far for the other.
-/

namespace PaladinsCat.Resolver

open Hirez (Value)

/-! ### merge_players -/

/-- The rows that name a player. -/
def rowsOf (id : Nat) (players : List Value) : List Value := players.filter fun player => playerId player == id

def firstRow (id : Nat) (players : List Value) : Option Value := players.find? fun player => playerId player == id

section Merge
variable (target : Nat)

theorem rowsOf_mergeRows {id : Nat} (shown : 0 < id) (seen : List Nat) (privates : Nat) (rows : List Value) :
    rowsOf id (mergeRows target seen privates rows) = if id ∈ seen then [] else (firstRow id rows).toList := by
  induction rows generalizing seen privates with
  | nil => simp [mergeRows, rowsOf, firstRow]
  | cons row rest ih =>
      simp only [rowsOf, firstRow] at ih ⊢
      by_cases positive : 0 < playerId row
      · by_cases known : playerId row ∈ seen
        · rw [mergeRows, if_pos positive, if_pos known, ih]
          by_cases same : playerId row = id
          · subst same
            rw [if_pos known, if_pos known]
          · rw [List.find?_cons_of_neg (by simpa using same)]
        · rw [mergeRows, if_pos positive, if_neg known]
          by_cases same : playerId row = id
          · subst same
            rw [List.filter_cons_of_pos (by simp), ih, if_pos List.mem_cons_self, if_neg known,
              List.find?_cons_of_pos (by simp)]
            rfl
          · rw [List.filter_cons_of_neg (by simpa using same), ih,
              List.find?_cons_of_neg (by simpa using same)]
            simp [Ne.symm same]
      · have other : playerId row ≠ id := by omega
        rw [mergeRows, if_neg positive, List.find?_cons_of_neg (by simpa using other)]
        by_cases room : privates < target
        · rw [if_pos room, List.filter_cons_of_neg (by simpa using other), ih]
        · rw [if_neg room, ih]

theorem mergeRows_sublist (seen : List Nat) (privates : Nat) (rows : List Value) :
    (mergeRows target seen privates rows).Sublist rows := by
  induction rows generalizing seen privates with
  | nil => exact List.Sublist.refl []
  | cons row rest ih =>
      unfold mergeRows
      split_ifs with positive known room
      · exact (ih seen privates).cons row
      · exact (ih (playerId row :: seen) privates).cons_cons row
      · exact (ih seen (privates + 1)).cons_cons row
      · exact (ih seen privates).cons row

/-- Rows with nothing new for a roster that has its private rows. -/
theorem mergeRows_full {seen : List Nat} {privates : Nat} {rows : List Value} (full : target ≤ privates)
    (known : ∀ id ∈ publicIds rows, id ∈ seen) : mergeRows target seen privates rows = [] := by
  induction rows with
  | nil => rfl
  | cons row rest ih =>
      by_cases positive : 0 < playerId row
      · rw [publicIds_cons_public positive] at known
        rw [mergeRows, if_pos positive, if_pos (known _ List.mem_cons_self)]
        exact ih fun id member => known id (List.mem_cons_of_mem _ member)
      · rw [publicIds_cons_private positive] at known
        rw [mergeRows, if_neg positive, if_neg (by omega)]
        exact ih known

-- The second merge takes the same turns as the first, until the rows of the first are used up.
theorem mergeRows_again {seen : List Nat} {privates : Nat} {rows extra : List Value}
    (full : target ≤ privates + privateCount rows) (known : ∀ id ∈ publicIds extra, id ∈ seen ∨ id ∈ publicIds rows) :
    mergeRows target seen privates (mergeRows target seen privates rows ++ extra) =
      mergeRows target seen privates rows := by
  induction rows generalizing seen privates with
  | nil =>
      rw [mergeRows, List.nil_append]
      apply mergeRows_full target
      · simpa [privateCount] using full
      · intro id member
        exact (known id member).resolve_right List.not_mem_nil
  | cons row rest ih =>
      by_cases positive : 0 < playerId row
      · have publicOnly : privateCount (row :: rest) = privateCount rest := by
          have shown : playerId row ≠ 0 := by omega
          simp [privateCount, shown]
        rw [publicOnly] at full
        rw [publicIds_cons_public positive] at known
        simp only [List.mem_cons] at known
        by_cases again : playerId row ∈ seen
        · have skipped : mergeRows target seen privates (row :: rest) = mergeRows target seen privates rest := by
            rw [mergeRows, if_pos positive, if_pos again]
          rw [skipped]
          apply ih full
          intro id member
          rcases known id member with old | rfl | later
          · exact Or.inl old
          · exact Or.inl again
          · exact Or.inr later
        · have kept : mergeRows target seen privates (row :: rest) =
              row :: mergeRows target (playerId row :: seen) privates rest := by
            rw [mergeRows, if_pos positive, if_neg again]
          rw [kept, List.cons_append, mergeRows, if_pos positive, if_neg again, ih full]
          intro id member
          simp only [List.mem_cons]
          rcases known id member with old | same | later
          · exact Or.inl (Or.inr old)
          · exact Or.inl (Or.inl same)
          · exact Or.inr later
      · have hidden : privateCount (row :: rest) = privateCount rest + 1 := by
          have zero : playerId row = 0 := by omega
          simp [privateCount, zero]
        rw [hidden] at full
        rw [publicIds_cons_private positive] at known
        by_cases room : privates < target
        · have kept : mergeRows target seen privates (row :: rest) =
              row :: mergeRows target seen (privates + 1) rest := by
            rw [mergeRows, if_neg positive, if_pos room]
          rw [kept, List.cons_append, mergeRows, if_neg positive, if_pos room, ih (by omega) known]
        · have skipped : mergeRows target seen privates (row :: rest) = mergeRows target seen privates rest := by
            rw [mergeRows, if_neg positive, if_neg room]
          rw [skipped]
          exact ih (by omega) known

end Merge

theorem rowsOf_mergePlayers {id : Nat} (shown : 0 < id) (direct recovered : List Value) :
    rowsOf id (mergePlayers direct recovered) = (firstRow id (direct ++ recovered)).toList := by
  rw [mergePlayers, rowsOf_mergeRows _ shown, if_neg List.not_mem_nil]

theorem privateCount_mergePlayers (direct recovered : List Value) :
    privateCount (mergePlayers direct recovered) = max (privateCount direct) (privateCount recovered) := by
  rw [mergePlayers, privateCount_mergeRows, privateCount_append]
  omega

theorem mergePlayers_again (direct recovered : List Value) :
    mergePlayers (mergePlayers direct recovered) recovered = mergePlayers direct recovered := by
  have target : max (privateCount (mergePlayers direct recovered)) (privateCount recovered) =
      max (privateCount direct) (privateCount recovered) := by
    rw [privateCount_mergePlayers]
    omega
  rw [mergePlayers, target, mergePlayers]
  apply mergeRows_again
  · rw [privateCount_append]
    omega
  · intro id member
    rw [publicIds_append]
    exact Or.inr (List.mem_append_right _ member)

/-- The merged roster has the first row of each player that the rows name, as many private rows as the
list that has more of them, and nothing else, in the order of the rows; merging again changes nothing. -/
theorem players_merge_once (direct recovered : List Value) :
    (∀ id, 0 < id → rowsOf id (mergePlayers direct recovered) = (firstRow id (direct ++ recovered)).toList) ∧
      (∀ id row, 0 < id → firstRow id direct = some row → rowsOf id (mergePlayers direct recovered) = [row]) ∧
      privateCount (mergePlayers direct recovered) = max (privateCount direct) (privateCount recovered) ∧
      (mergePlayers direct recovered).Sublist (direct ++ recovered) ∧
      mergePlayers (mergePlayers direct recovered) recovered = mergePlayers direct recovered := by
  refine ⟨fun id shown => rowsOf_mergePlayers shown direct recovered, ?_,
    privateCount_mergePlayers direct recovered, mergeRows_sublist _ [] 0 _, mergePlayers_again direct recovered⟩
  intro id row shown first
  rw [rowsOf_mergePlayers shown, firstRow, List.find?_append]
  simp only [firstRow] at first
  rw [first]
  rfl

/-! ### resolve_observed_score -/

def ScoreKeys.all (keys : ScoreKeys) : List String := keys.team1 ++ keys.team2 ++ keys.winner

/-- A value that is there and not empty stands under a score key. -/
def ScoreBearing (keys : ScoreKeys) (observation : Value) : Prop :=
  ∃ key ∈ keys.all, ∃ value, observation.get key = some value ∧ value ≠ .null ∧ value ≠ .string ""

/-- A match that was played to its end. -/
structure Won (score : ResolvedScore) : Prop where
  team1 : 0 ≤ score.team1
  team2 : 0 ≤ score.team2
  winner : (score.winner = 1 ∧ score.team2 < score.team1) ∨ (score.winner = 2 ∧ score.team1 < score.team2)

theorem bearsScore_iff (keys : ScoreKeys) (observation : Value) :
    bearsScore keys observation = true ↔ ScoreBearing keys observation := by
  have empty : ∀ value : Value, (!value.isNull && value.asStr != some "") = true ↔
      value ≠ .null ∧ value ≠ .string "" := by
    intro value
    cases value <;> simp [Value.isNull, Value.asStr]
  simp only [bearsScore, ScoreBearing, ScoreKeys.all, List.any_eq_true, Option.any_eq_true, empty]

theorem validCompletedScore_iff (score : ResolvedScore) : validCompletedScore score = true ↔ Won score := by
  have verdict : validCompletedScore score = true ↔ 0 ≤ score.team1 ∧ 0 ≤ score.team2 ∧
      ((score.winner = 1 ∧ score.team2 < score.team1) ∨ (score.winner = 2 ∧ score.team1 < score.team2)) := by
    simp only [validCompletedScore, Bool.and_eq_true, decide_eq_true_eq, Bool.or_eq_true, beq_iff_eq]
    split_ifs with first
    · simp [first, and_assoc]
    · simp [first, and_assoc]
  rw [verdict]
  constructor
  · rintro ⟨team1, team2, winner⟩
    exact ⟨team1, team2, winner⟩
  · rintro ⟨team1, team2, winner⟩
    exact ⟨team1, team2, winner⟩

/-- The rows that bear a score, each as often as it stands in the list. -/
def scoreRows (keys : ScoreKeys) (observations : List Value) : List Value := observations.filter (bearsScore keys)

theorem resolveObservedScore_some (keys : ScoreKeys) (observations : List Value) (score : ResolvedScore) :
    resolveObservedScore keys observations = some score ↔
      2 ≤ (scoreRows keys observations).length ∧
        (∀ observation ∈ observations, ScoreBearing keys observation → observedScore keys observation = some score) ∧
        Won score := by
  unfold resolveObservedScore
  simp only
  split_ifs with few
  · simp only [false_iff, not_and]
    intro enough
    exact absurd few (not_lt.mpr enough)
  · have some_row : ∃ row, row ∈ scoreRows keys observations := by
      apply List.exists_mem_of_length_pos
      simp only [scoreRows]
      omega
    rw [agreedScore_some]
    simp only [Option.mem_def, reduceCtorEq, IsEmpty.forall_iff, implies_true, true_and, forall_const,
      List.mem_filter, bearsScore_iff, validCompletedScore_iff, scoreRows] at some_row ⊢
    constructor
    · rintro ⟨rows, -⟩
      obtain ⟨row, found⟩ := some_row
      exact ⟨not_lt.mp few, fun observation member bearing => (rows observation ⟨member, bearing⟩).1,
        (rows row found).2⟩
    · rintro ⟨-, rows, won⟩
      constructor
      · rintro row ⟨member, bearing⟩
        exact ⟨rows row member bearing, won⟩
      · intro none
        obtain ⟨row, member, bearing⟩ := some_row
        have found : row ∈ observations.filter (bearsScore keys) :=
          List.mem_filter.mpr ⟨member, (bearsScore_iff keys row).mpr bearing⟩
        rw [none] at found
        exact List.not_mem_nil found

theorem bearsScore_without {keys : ScoreKeys} {observation : Value}
    (without : ∀ key ∈ keys.all, observation.get key = none) : bearsScore keys observation = false := by
  rw [Bool.eq_false_iff, ne_eq, bearsScore_iff]
  rintro ⟨key, member, value, found, -⟩
  rw [without key member] at found
  cases found

/-- A score is resolved when at least two rows bear one and all of these decode to the same, won score.
The order of the rows does not matter, nor do rows that have no score key. -/
theorem score_is_consensus (keys : ScoreKeys) (observations : List Value) :
    (∀ score, resolveObservedScore keys observations = some score ↔
      2 ≤ (scoreRows keys observations).length ∧
        (∀ observation ∈ observations, ScoreBearing keys observation → observedScore keys observation = some score) ∧
        Won score) ∧
      (∀ reordered, observations.Perm reordered →
        resolveObservedScore keys reordered = resolveObservedScore keys observations) ∧
      ∀ added, (∀ observation ∈ added, ∀ key ∈ keys.all, observation.get key = none) →
        ∀ mixed, mixed.Perm (observations ++ added) →
          resolveObservedScore keys mixed = resolveObservedScore keys observations := by
  refine ⟨resolveObservedScore_some keys observations, fun _ order => (resolveObservedScore_of_perm order).symm, ?_⟩
  intro added without mixed order
  rw [resolveObservedScore_of_perm order]
  have none : added.filter (bearsScore keys) = [] := by
    rw [List.filter_eq_nil_iff]
    intro observation member
    rw [bearsScore_without (without observation member)]
    exact Bool.false_ne_true
  simp only [resolveObservedScore, List.filter_append, none, List.append_nil]

end PaladinsCat.Resolver
