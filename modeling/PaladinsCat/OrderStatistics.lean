import Mathlib

/-!
Weighted order statistics: buckets of a value with a weight stand for a list in which each value
is repeated. The element at a place of the sorted list is the smallest value whose cumulative
weight passes that place, and a percentile lies between two neighbours of it.
-/

namespace OrderStatistics

/-! ### Places in a sorted list -/

section
variable {α : Type} [LinearOrder α]

/-- How many elements are no greater. -/
def cumulative (values : List α) (value : α) : ℕ := values.countP fun other => decide (other ≤ value)

theorem cumulative_of_perm {values others : List α} (order : values.Perm others) (value : α) :
    cumulative values value = cumulative others value := order.countP_eq _

theorem lt_cumulative_iff {sorted : List α} (increasing : sorted.Pairwise (· ≤ ·)) {place : ℕ}
    (inside : place < sorted.length) (value : α) : place < cumulative sorted value ↔ sorted[place] ≤ value := by
  induction sorted generalizing place with
  | nil => cases inside
  | cons first rest ih =>
      obtain ⟨below, later⟩ := List.pairwise_cons.mp increasing
      by_cases reached : first ≤ value
      · have counted : cumulative (first :: rest) value = cumulative rest value + 1 := by
          rw [cumulative, List.countP_cons_of_pos (by simpa using reached)]
          rfl
        rw [counted]
        cases place with
        | zero => simpa using reached
        | succ place => simpa using ih later (Nat.lt_of_succ_lt_succ inside)
      · have none : cumulative (first :: rest) value = 0 := by
          rw [cumulative, List.countP_eq_zero]
          intro other member
          rcases List.mem_cons.mp member with rfl | behind
          · simpa using reached
          · simpa using lt_of_lt_of_le (not_le.mp reached) (below other behind)
        have least : first ≤ (first :: rest)[place] := by
          rcases List.mem_cons.mp (List.getElem_mem inside) with same | behind
          · exact same.ge
          · exact below _ behind
        rw [none]
        simp only [Nat.not_lt_zero, false_iff, not_le]
        exact lt_of_lt_of_le (not_le.mp reached) least

theorem min?_eq_some {values : List α} {value : α} :
    values.min? = some value ↔ value ∈ values ∧ ∀ other ∈ values, value ≤ other :=
  List.min?_eq_some_iff

/-- The smallest value whose cumulative weight passes a place is the element there. -/
theorem min_passing {sorted values : List α} (increasing : sorted.Pairwise (· ≤ ·))
    (same : ∀ value, value ∈ values ↔ value ∈ sorted) {place : ℕ} (inside : place < sorted.length) :
    (values.filter fun value => decide (place < cumulative sorted value)).min? = some sorted[place] := by
  rw [min?_eq_some]
  constructor
  · rw [List.mem_filter, same, decide_eq_true_eq, lt_cumulative_iff increasing inside]
    exact ⟨List.getElem_mem inside, le_refl _⟩
  · intro other member
    obtain ⟨-, passes⟩ := List.mem_filter.mp member
    exact (lt_cumulative_iff increasing inside other).mp (by simpa using passes)

end

/-! ### Repeated values -/

section
variable {α : Type}

/-- Each value as often as it weighs. -/
def expand (buckets : List (α × ℕ)) : List α := buckets.flatMap fun bucket => List.replicate bucket.2 bucket.1

theorem expand_cons (bucket : α × ℕ) (buckets : List (α × ℕ)) :
    expand (bucket :: buckets) = List.replicate bucket.2 bucket.1 ++ expand buckets := List.flatMap_cons

theorem mem_expand {buckets : List (α × ℕ)} {value : α} :
    value ∈ expand buckets ↔ ∃ bucket ∈ buckets, bucket.1 = value ∧ 0 < bucket.2 := by
  rw [expand, List.mem_flatMap]
  refine exists_congr fun bucket => and_congr_right fun _ => ?_
  rw [List.mem_replicate, and_comm, eq_comm, Nat.pos_iff_ne_zero]

theorem countP_expand (buckets : List (α × ℕ)) (accepts : α → Bool) :
    (expand buckets).countP accepts = ((buckets.filter fun bucket => accepts bucket.1).map Prod.snd).sum := by
  induction buckets with
  | nil => rfl
  | cons bucket buckets ih =>
      rw [expand_cons, List.countP_append, ih, List.countP_replicate]
      cases accepted : accepts bucket.1 with
      | true => simp [accepted]
      | false => simp [accepted]

theorem length_expand (buckets : List (α × ℕ)) : (expand buckets).length = (buckets.map Prod.snd).sum := by
  have counted := countP_expand buckets fun _ => true
  rw [List.countP_true, List.filter_true] at counted
  exact counted

theorem map_expand {β : Type} (f : α → β) (buckets : List (α × ℕ)) :
    (expand buckets).map f = expand (buckets.map fun bucket => (f bucket.1, bucket.2)) := by
  induction buckets with
  | nil => rfl
  | cons bucket buckets ih => rw [expand_cons, List.map_append, ih, List.map_replicate, List.map_cons, expand_cons]

end

/-! ### Percentiles -/

section
variable {K : Type} [Field K] [LinearOrder K] [IsStrictOrderedRing K] [FloorRing K]

/-- The continuous percentile of a sorted list: between the elements before and after its rank. -/
def percentileCont (p : K) (sorted : List K) : K :=
  let rank := ((sorted.length : K) - 1) * p
  let lower := sorted.getD ⌊rank⌋.toNat 0
  let upper := sorted.getD ⌈rank⌉.toNat 0
  lower + (upper - lower) * (rank - ⌊rank⌋)

/-- The places on both sides of a rank are in the list. -/
theorem rank_inside {p : K} (low : 0 ≤ p) (high : p ≤ 1) {count : ℕ} (some_ : 0 < count) :
    0 ≤ ⌊((count : K) - 1) * p⌋ ∧ 0 ≤ ⌈((count : K) - 1) * p⌉ ∧ ⌊((count : K) - 1) * p⌋ < count ∧
      ⌈((count : K) - 1) * p⌉ < count := by
  have last : (0 : K) ≤ count - 1 := by
    have positive : (1 : K) ≤ count := by exact_mod_cast some_
    linarith
  have start : 0 ≤ ((count : K) - 1) * p := mul_nonneg last low
  have finish : ⌈((count : K) - 1) * p⌉ ≤ (count : ℤ) - 1 := by
    rw [Int.ceil_le]
    push_cast
    calc ((count : K) - 1) * p ≤ ((count : K) - 1) * 1 := mul_le_mul_of_nonneg_left high last
      _ = (count : K) - 1 := mul_one _
  have order := Int.floor_le_ceil (((count : K) - 1) * p)
  exact ⟨Int.floor_nonneg.mpr start, Int.ceil_nonneg start, by omega, by omega⟩

end

end OrderStatistics
