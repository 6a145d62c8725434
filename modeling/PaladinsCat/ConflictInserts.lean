import PaladinsCat.Grouping
import PaladinsCat.KeyedList

/-!
INSERT .. ON CONFLICT over a table that is a list with keys: rows whose key is taken are left
out, or are merged into the row that has it. A ledger that takes each key once and a table of
counters that is bumped by what the ledger took stay in step.
-/

namespace ConflictInserts

variable {α κ : Type} [DecidableEq κ]

/-! ### ON CONFLICT DO NOTHING -/

/-- The rows that are inserted, one for each new key. -/
def fresh (keyOf : α → κ) (taken : List κ) : List α → List α
  | [] => []
  | row :: rest =>
      if keyOf row ∈ taken then fresh keyOf taken rest else row :: fresh keyOf (keyOf row :: taken) rest

section
variable {keyOf : α → κ} {taken : List κ} {rows : List α}

theorem fresh_subset : ∀ row ∈ fresh keyOf taken rows, row ∈ rows ∧ keyOf row ∉ taken := by
  induction rows generalizing taken with
  | nil => simp [fresh]
  | cons row rest ih =>
      intro other member
      rw [fresh] at member
      split_ifs at member with known
      · exact ⟨List.mem_cons_of_mem row (ih other member).1, (ih other member).2⟩
      · rcases List.mem_cons.mp member with rfl | later
        · exact ⟨List.mem_cons_self, known⟩
        · obtain ⟨inside, unknown⟩ := ih other later
          exact ⟨List.mem_cons_of_mem row inside, fun old => unknown (List.mem_cons_of_mem _ old)⟩

theorem fresh_nodup : ((fresh keyOf taken rows).map keyOf).Nodup := by
  induction rows generalizing taken with
  | nil => exact List.nodup_nil
  | cons row rest ih =>
      rw [fresh]
      split_ifs with known
      · exact ih
      · rw [List.map_cons, List.nodup_cons]
        refine ⟨fun again => ?_, ih⟩
        obtain ⟨other, member, same⟩ := List.mem_map.mp again
        exact (fresh_subset other member).2 (same ▸ List.mem_cons_self)

theorem mem_keys_fresh {row : α} (member : row ∈ rows) :
    keyOf row ∈ taken ∨ keyOf row ∈ (fresh keyOf taken rows).map keyOf := by
  induction rows generalizing taken with
  | nil => cases member
  | cons first rest ih =>
      rw [fresh]
      rcases List.mem_cons.mp member with rfl | later
      · by_cases known : keyOf row ∈ taken
        · exact .inl known
        · rw [if_neg known]
          exact .inr List.mem_cons_self
      · by_cases known : keyOf first ∈ taken
        · rw [if_pos known]
          exact ih later
        · rw [if_neg known, List.map_cons, List.mem_cons]
          rcases @ih (keyOf first :: taken) later with old | new
          · rcases List.mem_cons.mp old with same | old
            · exact .inr (.inl same)
            · exact .inl old
          · exact .inr (.inr new)

theorem fresh_nil (known : ∀ row ∈ rows, keyOf row ∈ taken) : fresh keyOf taken rows = [] := by
  rw [List.eq_nil_iff_forall_not_mem]
  intro row member
  obtain ⟨inside, unknown⟩ := fresh_subset row member
  exact unknown (known row inside)

end

/-! ### ON CONFLICT DO UPDATE -/

/-- One row, merged into the one with its key if there is one. -/
def merge (keyOf : α → κ) (combine : α → α → α) (table : List α) (row : α) : List α :=
  if keyOf row ∈ table.map keyOf then KeyedList.update keyOf (keyOf row) (fun old => combine old row) table
  else table ++ [row]

/-- All rows, of which no two may have one key. -/
def upsert (keyOf : α → κ) (combine : α → α → α) (rows table : List α) : Option (List α) :=
  if (rows.map keyOf).Nodup then some (rows.foldl (merge keyOf combine) table) else none

/-- Where the new row takes the place of the old one, every row is an old or a new one. -/
theorem mem_merged {keyOf : α → κ} {combine : α → α → α} (replaces : ∀ old row, combine old row = row)
    {rows table : List α} {value : α} (member : value ∈ rows.foldl (merge keyOf combine) table) :
    value ∈ table ∨ value ∈ rows := by
  induction rows generalizing table with
  | nil => exact .inl member
  | cons row rows ih =>
      rcases ih member with before | later
      · rw [merge] at before
        split_ifs at before
        · rcases KeyedList.mem_update before with old | ⟨old, _, changed⟩
          · exact .inl old
          · exact .inr (List.mem_cons.mpr (.inl (changed.trans (replaces old row))))
        · rcases List.mem_append.mp before with old | new
          · exact .inl old
          · exact .inr (List.mem_cons.mpr (.inl (List.mem_singleton.mp new)))
      · exact .inr (List.mem_cons_of_mem row later)

section
variable {keyOf : α → κ} {combine : α → α → α} (keeps : ∀ old row, keyOf (combine old row) = keyOf old)
include keeps

theorem nodup_merge {table : List α} (row : α) (distinct : (table.map keyOf).Nodup) :
    ((merge keyOf combine table row).map keyOf).Nodup := by
  unfold merge
  by_cases known : keyOf row ∈ table.map keyOf
  · rw [if_pos known, KeyedList.map_keyOf_update fun old => keeps old row]
    exact distinct
  · rw [if_neg known, List.map_append, List.map_singleton]
    exact distinct.append (List.nodup_singleton _) fun key old new =>
      known (List.mem_singleton.mp new ▸ old)

theorem nodup_upsert {rows table : List α} (distinct : (table.map keyOf).Nodup) :
    ((rows.foldl (merge keyOf combine) table).map keyOf).Nodup := by
  induction rows generalizing table with
  | nil => exact distinct
  | cons row rows ih => exact ih (nodup_merge keeps row distinct)

end

/-! ### Counters -/

section
variable {keyOf : α → κ} {combine : α → α → α} {count : α → ℕ}

/-- The count of a key, which is zero without a row. -/
def countOf (keyOf : α → κ) (count : α → ℕ) (table : List α) (key : κ) : ℕ :=
  ((KeyedList.lookup keyOf key table).map count).getD 0

variable (keeps : ∀ old row, keyOf (combine old row) = keyOf old)
  (adds : ∀ old row, count (combine old row) = count old + count row)
include keeps adds

theorem countOf_merge (table : List α) (row : α) (key : κ) :
    countOf keyOf count (merge keyOf combine table row) key =
      countOf keyOf count table key + if keyOf row = key then count row else 0 := by
  unfold merge countOf
  by_cases known : keyOf row ∈ table.map keyOf
  · rw [if_pos known, KeyedList.lookup_update fun old => keeps old row]
    obtain ⟨old, found⟩ := KeyedList.lookup_isSome known
    by_cases same : keyOf row = key
    · subst same
      simp [found, adds]
    · rw [if_neg same]
      simp [Ne.symm same]
  · rw [if_neg known, KeyedList.lookup_append]
    by_cases same : keyOf row = key
    · subst same
      rw [KeyedList.lookup_eq_none_iff.mpr known]
      simp [KeyedList.lookup_cons]
    · simp [KeyedList.lookup_cons, KeyedList.lookup_nil, same]

theorem countOf_upsert (rows table : List α) (key : κ) :
    countOf keyOf count (rows.foldl (merge keyOf combine) table) key =
      countOf keyOf count table key + ((rows.filter fun row => keyOf row = key).map count).sum := by
  induction rows generalizing table with
  | nil => rfl
  | cons row rows ih =>
      rw [List.foldl_cons, ih, countOf_merge keeps adds]
      by_cases same : keyOf row = key
      · rw [if_pos same, List.filter_cons_of_pos (by simpa using same), List.map_cons, List.sum_cons, Nat.add_assoc]
      · rw [if_neg same, List.filter_cons_of_neg (by simpa using same), Nat.add_zero]

end

/-! ### Counts of grouped rows -/

/-- The sizes of the groups of a key make up its rows. -/
theorem sum_groups (keyOf : α → κ) (rows : List α) (key : κ) :
    (((Grouping.groups keyOf rows).filter fun group => group.1 = key).map fun group => group.2.length).sum =
      (rows.filter fun row => keyOf row = key).length := by
  have chosen : (Grouping.groups keyOf rows).filter (fun group => group.1 = key) =
      (Grouping.firstBy keyOf (rows.filter fun row => keyOf row = key)).map
        fun first => (keyOf first, Grouping.ofKey keyOf rows (keyOf first)) := by
    rw [Grouping.groups, List.filter_map, Grouping.firstBy_filter fun other => decide (other = key)]
    rfl
  rw [chosen]
  cases same : rows.filter fun row => keyOf row = key with
  | nil => rfl
  | cons first rest =>
      have all : ∀ row ∈ first :: rest, keyOf row = key := by
        intro row member
        rw [← same] at member
        simpa using (List.mem_filter.mp member).2
      -- All rows have the key, so the first of them is alone in front.
      have none_other : (Grouping.firstBy keyOf rest).filter (fun row => keyOf row ≠ keyOf first) = [] := by
        rw [List.filter_eq_nil_iff]
        intro row member
        have listed := List.mem_cons_of_mem first (Grouping.firstBy_subset member)
        simp [all row listed, all first List.mem_cons_self]
      rw [Grouping.firstBy, none_other, List.map_singleton, List.map_singleton, List.sum_singleton,
        all first List.mem_cons_self, Grouping.ofKey, same]

end ConflictInserts
