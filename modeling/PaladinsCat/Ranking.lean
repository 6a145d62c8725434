import Mathlib

/-!
Ranks: how many keys of a list are smaller than a key. In a strictly sorted list the rank of a
key is its place, so the ranks of different keys are the first numbers, in every order.
-/

namespace Ranking

variable {κ ι : Type} [LinearOrder κ]

def rank (keys : List κ) (key : κ) : ℕ := keys.countP fun other => decide (other < key)

theorem rank_of_perm {keys others : List κ} (order : keys.Perm others) (key : κ) : rank keys key = rank others key :=
  order.countP_eq _

theorem rank_cons_self {key : κ} {keys : List κ} (first : ∀ other ∈ keys, key < other) : rank (key :: keys) key = 0 := by
  rw [rank, List.countP_eq_zero]
  intro other member
  rcases List.mem_cons.mp member with rfl | later
  · simp
  · simpa using (first other later).le

theorem rank_cons_of_lt {first key : κ} (keys : List κ) (below : first < key) :
    rank (first :: keys) key = rank keys key + 1 := by
  rw [rank, List.countP_cons_of_pos (by simpa using below)]
  rfl

theorem map_rank_sorted {keys : List κ} (sorted : keys.Pairwise (· < ·)) :
    keys.map (rank keys) = List.range keys.length := by
  induction keys with
  | nil => rfl
  | cons key keys ih =>
      obtain ⟨first, rest⟩ := List.pairwise_cons.mp sorted
      have shifted : keys.map (rank (key :: keys)) = (keys.map (rank keys)).map Nat.succ := by
        rw [List.map_map]
        exact List.map_congr_left fun other member => rank_cons_of_lt keys (first other member)
      rw [List.map_cons, rank_cons_self first, shifted, ih rest, List.length_cons, List.range_succ_eq_map]

/-- The ranks of different keys are the numbers below their count. -/
theorem map_rank_perm {keys : List κ} (distinct : keys.Nodup) :
    (keys.map (rank keys)).Perm (List.range keys.length) := by
  have order := List.perm_insertionSort (· ≤ ·) keys
  have sorted : (keys.insertionSort (· ≤ ·)).Pairwise (· < ·) :=
    ((List.pairwise_insertionSort (· ≤ ·) keys).and (order.nodup_iff.mpr distinct)).imp
      fun below => lt_of_le_of_ne below.1 below.2
  have ranks := map_rank_sorted sorted
  rw [order.length_eq] at ranks
  have same : rank (keys.insertionSort (· ≤ ·)) = rank keys := funext fun key => rank_of_perm order key
  rw [same] at ranks
  exact ranks ▸ (order.map (rank keys)).symm

/-- The place of an entry that is sorted by its key. -/
theorem idxOf_sorted [DecidableEq ι] {entries : List (κ × ι)}
    (sorted : entries.Pairwise fun left right => left.1 < right.1) (distinct : (entries.map Prod.snd).Nodup)
    {entry : κ × ι} (member : entry ∈ entries) :
    (entries.map Prod.snd).idxOf? entry.2 = some (rank (entries.map Prod.fst) entry.1) := by
  induction entries with
  | nil => cases member
  | cons head entries ih =>
      obtain ⟨first, rest⟩ := List.pairwise_cons.mp sorted
      obtain ⟨fresh, others⟩ := List.nodup_cons.mp distinct
      have above : ∀ other ∈ entries.map Prod.fst, head.1 < other := by
        intro other inside
        obtain ⟨later, here, rfl⟩ := List.mem_map.mp inside
        exact first later here
      rcases List.mem_cons.mp member with rfl | later
      · rw [List.map_cons, List.map_cons, rank_cons_self above, List.idxOf?_cons]
        simp
      · have different : head.2 ≠ entry.2 := fun same => fresh (same ▸ List.mem_map_of_mem later)
        rw [List.map_cons, List.map_cons, rank_cons_of_lt _ (first entry later), List.idxOf?_cons,
          ih rest others later]
        simp [different]

end Ranking
