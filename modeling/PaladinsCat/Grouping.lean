import Mathlib

/-!
Elements put into groups by a key, one after the other: a new key opens a group behind the
others. What results is one group for each key, in the order in which the keys first appear,
with the elements of the key in their order.
-/

namespace Grouping

variable {α κ : Type} [DecidableEq κ] (key : α → κ)

/-- The elements whose key no earlier element has. -/
def firstBy : List α → List α
  | [] => []
  | a :: rest => a :: (firstBy rest).filter fun b => key b ≠ key a

/-- The elements of a key. -/
def ofKey (list : List α) (k : κ) : List α := list.filter fun a => key a = k

def groups (list : List α) : List (κ × List α) :=
  (firstBy key list).map fun first => (key first, ofKey key list (key first))

/-- An element is put into the group of its key, or opens it. -/
def add (groups : List (κ × List α)) (a : α) : List (κ × List α) :=
  if groups.any fun group => group.1 == key a then
    groups.map fun group => if group.1 == key a then (group.1, group.2 ++ [a]) else group
  else groups ++ [(key a, [a])]

section
variable {key} {list : List α} {a : α}

theorem firstBy_nil : firstBy key [] = [] := rfl

theorem firstBy_cons (rest : List α) : firstBy key (a :: rest) = a :: (firstBy key rest).filter fun b => key b ≠ key a := rfl

theorem mem_firstBy : a ∈ firstBy key list ↔
    ∃ front back, list = front ++ a :: back ∧ ∀ b ∈ front, key b ≠ key a := by
  induction list with
  | nil => simp [firstBy_nil]
  | cons head rest ih =>
      simp only [firstBy_cons, List.mem_cons, List.mem_filter, ih, decide_eq_true_eq]
      constructor
      · rintro (rfl | ⟨⟨front, back, rfl, earlier⟩, other⟩)
        · exact ⟨[], rest, rfl, by simp⟩
        · refine ⟨head :: front, back, rfl, ?_⟩
          intro b member
          rcases List.mem_cons.mp member with rfl | member
          · exact other.symm
          · exact earlier b member
      · rintro ⟨front, back, split, earlier⟩
        cases front with
        | nil =>
            cases split
            exact Or.inl rfl
        | cons first front =>
            cases split
            exact Or.inr ⟨⟨front, back, rfl, fun b member => earlier b (List.mem_cons_of_mem head member)⟩,
              (earlier head List.mem_cons_self).symm⟩

theorem firstBy_subset : firstBy key list ⊆ list := by
  intro a member
  obtain ⟨front, back, rfl, -⟩ := mem_firstBy.mp member
  exact List.mem_append_right front List.mem_cons_self

/-- Each key of the list is the key of a first element. -/
theorem exists_firstBy (member : a ∈ list) : ∃ first ∈ firstBy key list, key first = key a := by
  induction list with
  | nil => cases member
  | cons head rest ih =>
      by_cases same : key head = key a
      · exact ⟨head, by simp [firstBy_cons], same⟩
      · have later : a ∈ rest := by
          rcases List.mem_cons.mp member with rfl | later
          · exact absurd rfl same
          · exact later
        obtain ⟨first, listed, equal⟩ := ih later
        refine ⟨first, ?_, equal⟩
        simp only [firstBy_cons, List.mem_cons, List.mem_filter, decide_eq_true_eq]
        exact Or.inr ⟨listed, fun clash => same (clash ▸ equal)⟩

theorem nodup_firstBy : ((firstBy key list).map key).Nodup := by
  induction list with
  | nil => exact List.nodup_nil
  | cons head rest ih =>
      rw [firstBy_cons, List.map_cons, List.nodup_cons]
      constructor
      · intro listed
        obtain ⟨b, member, equal⟩ := List.mem_map.mp listed
        exact of_decide_eq_true (List.mem_filter.mp member).2 equal
      · exact ih.sublist (List.filter_sublist.map key)

theorem firstBy_append_singleton : firstBy key (list ++ [a]) =
    firstBy key list ++ if ∃ b ∈ list, key b = key a then [] else [a] := by
  induction list with
  | nil => simp [firstBy_nil, firstBy_cons]
  | cons head rest ih =>
      rw [List.cons_append, firstBy_cons, ih, List.filter_append, firstBy_cons, List.cons_append]
      by_cases known : ∃ b ∈ rest, key b = key a
      · have known' : ∃ b ∈ head :: rest, key b = key a :=
          known.imp fun b found => ⟨List.mem_cons_of_mem head found.1, found.2⟩
        rw [if_pos known, if_pos known', List.filter_nil]
      · rw [if_neg known]
        by_cases same : key head = key a
        · rw [if_pos ⟨head, List.mem_cons_self, same⟩, List.filter_cons_of_neg (by simp [same]), List.filter_nil]
        · have unknown : ¬∃ b ∈ head :: rest, key b = key a := by
            rintro ⟨b, member, equal⟩
            rcases List.mem_cons.mp member with rfl | member
            · exact same equal
            · exact known ⟨b, member, equal⟩
          rw [if_neg unknown, List.filter_cons_of_pos (by simpa using Ne.symm same), List.filter_nil]

/-- Whole keys may be left out before or after. -/
theorem firstBy_filter (keeps : κ → Bool) :
    firstBy key (list.filter fun a => keeps (key a)) = (firstBy key list).filter fun a => keeps (key a) := by
  induction list with
  | nil => rfl
  | cons head rest ih =>
      by_cases kept : keeps (key head) = true
      · simp only [List.filter_cons, kept, if_true, firstBy_cons, ih]
        rw [List.filter_comm]
      · simp only [List.filter_cons, kept, if_false, firstBy_cons, ih, List.filter_filter, Bool.false_eq_true]
        apply List.filter_congr
        intro b _
        by_cases same : key b = key head
        · simp [same, kept]
        · simp [same]

/-- Two keys that tell the same elements apart have the same first elements. -/
theorem firstBy_congr {κ' : Type} [DecidableEq κ'] {key' : α → κ'}
    (same : ∀ a ∈ list, ∀ b ∈ list, key a = key b ↔ key' a = key' b) :
    firstBy key list = firstBy key' list := by
  induction list with
  | nil => rfl
  | cons head rest ih =>
      have tails := ih fun a first b second =>
        same a (List.mem_cons_of_mem head first) b (List.mem_cons_of_mem head second)
      rw [firstBy_cons, firstBy_cons, tails]
      congr 1
      apply List.filter_congr
      intro b member
      have listed := List.mem_cons_of_mem head (firstBy_subset member)
      rw [decide_eq_decide, not_iff_not]
      exact same b listed head List.mem_cons_self

theorem add_groups : add key (groups key list) a = groups key (list ++ [a]) := by
  have known : ((groups key list).any fun group => group.1 == key a) = true ↔ ∃ b ∈ list, key b = key a := by
    simp only [groups, List.any_map, List.any_eq_true, Function.comp_apply, beq_iff_eq]
    constructor
    · rintro ⟨first, listed, equal⟩
      exact ⟨first, firstBy_subset listed, equal⟩
    · rintro ⟨b, member, equal⟩
      obtain ⟨first, listed, same⟩ : ∃ first ∈ firstBy key list, key first = key b := exists_firstBy member
      exact ⟨first, listed, same.trans equal⟩
  have extended : ∀ k, ofKey key (list ++ [a]) k = ofKey key list k ++ if key a = k then [a] else [] := by
    intro k
    by_cases same : key a = k <;> simp [ofKey, same]
  unfold add
  by_cases present : ∃ b ∈ list, key b = key a
  · rw [if_pos (known.mpr present), groups, groups, firstBy_append_singleton, if_pos present, List.append_nil,
      List.map_map]
    apply List.map_congr_left
    intro first _
    by_cases same : key first = key a
    · simp [extended, same]
    · simp [extended, same, Ne.symm same]
  · rw [if_neg fun found => present (known.mp found), groups, groups, firstBy_append_singleton, if_neg present,
      List.map_append]
    congr 1
    · apply List.map_congr_left
      intro first listed
      have other : key a ≠ key first := fun clash => present ⟨first, firstBy_subset listed, clash.symm⟩
      rw [extended, if_neg other, List.append_nil]
    · have empty : ofKey key list (key a) = [] := by
        simpa [ofKey, List.filter_eq_nil_iff] using present
      simp [extended, empty]

/-- The loop over a list makes its groups. -/
theorem foldl_add (list : List α) : list.foldl (add key) [] = groups key list := by
  induction list using List.reverseRecOn with
  | nil => rfl
  | append_singleton list a ih => rw [List.foldl_append, ih, List.foldl_cons, List.foldl_nil, add_groups]

theorem mem_ofKey {k : κ} : a ∈ ofKey key list k ↔ a ∈ list ∧ key a = k := by
  simp [ofKey]

/-- The first element of a group is the one by which it was opened. -/
theorem head_ofKey {first : α} (listed : first ∈ firstBy key list) :
    ∃ rest, ofKey key list (key first) = first :: rest := by
  obtain ⟨front, back, rfl, earlier⟩ := mem_firstBy.mp listed
  refine ⟨ofKey key back (key first), ?_⟩
  have none_ : front.filter (fun b => decide (key b = key first)) = [] :=
    List.filter_eq_nil_iff.mpr fun b member => by simpa using earlier b member
  simp [ofKey, none_]

end

end Grouping
