import Mathlib

/-!
Lists whose elements carry a key, read and changed at the first element with a
given key. Nothing is assumed about repeated keys unless a statement says so:
with repeats, the later elements are out of reach of both operations.
-/

namespace KeyedList

variable {Key Value : Type} [DecidableEq Key] (keyOf : Value → Key)

def lookup (key : Key) : List Value → Option Value
  | [] => none
  | value :: rest => if keyOf value = key then some value else lookup key rest

def update (key : Key) (change : Value → Value) : List Value → List Value
  | [] => []
  | value :: rest =>
      if keyOf value = key then change value :: rest else value :: update key change rest

theorem lookup_nil (key : Key) : lookup keyOf key [] = none := rfl

theorem lookup_cons (key : Key) (value : Value) (rest : List Value) :
    lookup keyOf key (value :: rest) = if keyOf value = key then some value else lookup keyOf key rest := rfl

theorem update_nil (key : Key) (change : Value → Value) : update keyOf key change [] = [] := rfl

theorem update_cons (key : Key) (change : Value → Value) (value : Value) (rest : List Value) :
    update keyOf key change (value :: rest) =
      if keyOf value = key then change value :: rest else value :: update keyOf key change rest := rfl

variable {keyOf}

theorem lookup_mem {key : Key} {values : List Value} {value : Value}
    (found : lookup keyOf key values = some value) : value ∈ values ∧ keyOf value = key := by
  induction values with
  | nil => simp [lookup_nil] at found
  | cons head rest ih =>
      by_cases hit : keyOf head = key
      · simp only [lookup_cons, hit, ↓reduceIte, Option.some.injEq] at found
        subst found
        exact ⟨List.mem_cons_self, hit⟩
      · simp only [lookup_cons, hit, ↓reduceIte] at found
        exact ⟨List.mem_cons_of_mem head (ih found).1, (ih found).2⟩

theorem lookup_eq_none_iff {key : Key} {values : List Value} :
    lookup keyOf key values = none ↔ key ∉ values.map keyOf := by
  induction values with
  | nil => simp [lookup_nil]
  | cons head rest ih =>
      by_cases hit : keyOf head = key
      · simp [lookup_cons, hit]
      · simp [lookup_cons, hit, ih, Ne.symm hit]

theorem lookup_isSome {key : Key} {values : List Value} (present : key ∈ values.map keyOf) :
    ∃ value, lookup keyOf key values = some value := by
  cases found : lookup keyOf key values with
  | none => exact absurd present (lookup_eq_none_iff.mp found)
  | some value => exact ⟨value, rfl⟩

-- With distinct keys the first element with a key is the only one.
theorem lookup_of_mem {values : List Value} (distinct : (values.map keyOf).Nodup)
    {value : Value} (member : value ∈ values) : lookup keyOf (keyOf value) values = some value := by
  induction values with
  | nil => simp at member
  | cons head rest ih =>
      rw [List.map_cons, List.nodup_cons] at distinct
      rcases List.mem_cons.mp member with rfl | later
      · simp [lookup_cons]
      · have other : keyOf head ≠ keyOf value := by
          intro same
          exact distinct.1 (same ▸ List.mem_map_of_mem later)
        simp [lookup_cons, other, ih distinct.2 later]

theorem lookup_map {change : Value → Value} (keeps : ∀ value, keyOf (change value) = keyOf value)
    (key : Key) (values : List Value) :
    lookup keyOf key (values.map change) = (lookup keyOf key values).map change := by
  induction values with
  | nil => rfl
  | cons head rest ih =>
      by_cases hit : keyOf head = key
      · simp [lookup_cons, hit, keeps]
      · simp [lookup_cons, hit, keeps, ih]

theorem lookup_append (key : Key) (front back : List Value) :
    lookup keyOf key (front ++ back) = (lookup keyOf key front).or (lookup keyOf key back) := by
  induction front with
  | nil => rfl
  | cons head rest ih =>
      by_cases hit : keyOf head = key
      · simp [lookup_cons, hit]
      · simp [lookup_cons, hit, ih]

section Update
variable {change : Value → Value}

@[simp] theorem map_keyOf_update (keeps : ∀ value, keyOf (change value) = keyOf value)
    (key : Key) (values : List Value) :
    (update keyOf key change values).map keyOf = values.map keyOf := by
  induction values with
  | nil => rfl
  | cons head rest ih =>
      by_cases hit : keyOf head = key
      · simp [update_cons, hit, keeps]
      · simp [update_cons, hit, ih]

theorem lookup_update_self (keeps : ∀ value, keyOf (change value) = keyOf value)
    (key : Key) (values : List Value) :
    lookup keyOf key (update keyOf key change values) = (lookup keyOf key values).map change := by
  induction values with
  | nil => rfl
  | cons head rest ih =>
      by_cases hit : keyOf head = key
      · simp [update_cons, lookup_cons, hit, keeps]
      · simp [update_cons, lookup_cons, hit, ih]

theorem lookup_update_other (keeps : ∀ value, keyOf (change value) = keyOf value)
    {key other : Key} (different : other ≠ key) (values : List Value) :
    lookup keyOf other (update keyOf key change values) = lookup keyOf other values := by
  induction values with
  | nil => rfl
  | cons head rest ih =>
      by_cases hit : keyOf head = key
      · simp [update_cons, lookup_cons, hit, keeps, Ne.symm different]
      · rw [update_cons, if_neg hit, lookup_cons, lookup_cons, ih]

theorem lookup_update (keeps : ∀ value, keyOf (change value) = keyOf value)
    (key other : Key) (values : List Value) :
    lookup keyOf other (update keyOf key change values) =
      (lookup keyOf other values).map fun value => if other = key then change value else value := by
  by_cases same : other = key
  · subst same
    simp [lookup_update_self keeps]
  · simp [lookup_update_other keeps same, same]

theorem lookup_foldl_update {Step : Type} {target : Step → Key} {change : Step → Value → Value}
    (keeps : ∀ step value, keyOf (change step value) = keyOf value) (steps : List Step)
    (key : Key) (values : List Value) :
    lookup keyOf key (steps.foldl (fun values step => update keyOf (target step) (change step) values)
        values) =
      (lookup keyOf key values).map fun value => steps.foldl
        (fun value step => if key = target step then change step value else value) value := by
  induction steps generalizing values with
  | nil => simp
  | cons step rest ih =>
      rw [List.foldl_cons, ih, lookup_update (keeps step), Option.map_map]
      rfl

-- An element after an update is an old one, or the change of the first with that key.
theorem mem_update {key : Key} {values : List Value} {value : Value}
    (member : value ∈ update keyOf key change values) :
    value ∈ values ∨ ∃ old, lookup keyOf key values = some old ∧ value = change old := by
  induction values with
  | nil => simp [update_nil] at member
  | cons head rest ih =>
      by_cases hit : keyOf head = key
      · simp only [update_cons, hit, ↓reduceIte, List.mem_cons] at member
        rcases member with same | later
        · exact Or.inr ⟨head, by simp [lookup_cons, hit], same⟩
        · exact Or.inl (List.mem_cons_of_mem head later)
      · simp only [update_cons, hit, ↓reduceIte, List.mem_cons] at member
        rcases member with same | later
        · exact Or.inl (same ▸ List.mem_cons_self)
        · rcases ih later with old | ⟨old, found, same⟩
          · exact Or.inl (List.mem_cons_of_mem head old)
          · exact Or.inr ⟨old, by simp [lookup_cons, hit, found], same⟩

theorem mem_update_of_mem {key : Key} {values : List Value} {value : Value} (member : value ∈ values) :
    value ∈ update keyOf key change values ∨ change value ∈ update keyOf key change values := by
  induction values with
  | nil => simp at member
  | cons head rest ih =>
      by_cases hit : keyOf head = key
      · rw [update_cons, if_pos hit]
        rcases List.mem_cons.mp member with rfl | later
        · exact Or.inr List.mem_cons_self
        · exact Or.inl (List.mem_cons_of_mem _ later)
      · rw [update_cons, if_neg hit]
        rcases List.mem_cons.mp member with rfl | later
        · exact Or.inl List.mem_cons_self
        · exact (ih later).imp (List.mem_cons_of_mem _) (List.mem_cons_of_mem _)

theorem change_mem_update {key : Key} {values : List Value} {value : Value}
    (found : lookup keyOf key values = some value) :
    change value ∈ update keyOf key change values := by
  induction values with
  | nil => simp [lookup_nil] at found
  | cons head rest ih =>
      by_cases hit : keyOf head = key
      · simp only [lookup_cons, hit, ↓reduceIte, Option.some.injEq] at found
        rw [update_cons, if_pos hit, found]
        exact List.mem_cons_self
      · simp only [lookup_cons, hit, ↓reduceIte] at found
        simp [update_cons, hit, ih found]

theorem forall_update {key : Key} {values : List Value} {holds : Value → Prop}
    (before : ∀ value ∈ values, holds value)
    (changed : ∀ old, lookup keyOf key values = some old → holds (change old)) :
    ∀ value ∈ update keyOf key change values, holds value := by
  intro value member
  rcases mem_update member with old | ⟨old, found, rfl⟩
  · exact before value old
  · exact changed old found

end Update

end KeyedList
