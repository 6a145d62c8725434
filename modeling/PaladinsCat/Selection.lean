import Mathlib

/-!
The rows that an INSERT .. SELECT proposes, and their conflict keys. Each source row is
read on its own: the reading fails where a cast does, and drops the row where the WHERE
clause does. ON CONFLICT DO UPDATE asks that no two rows proposed have one key.
-/

namespace Selection

variable {α β γ ρ κ : Type}

/-- What is selected from the source rows, if every one of them can be read. -/
def selected (row : α → Option (Option ρ)) : List α → Option (List ρ)
  | [] => some []
  | source :: rest => do
      let first ← row source
      let others ← selected row rest
      return first.toList ++ others

/-- Every combination of a row and of an element, row by row. -/
def crossJoin (rows : List α) (elements : List β) : List (α × β) :=
  rows.flatMap fun row => elements.map fun element => (row, element)

def Readable (row : α → Option (Option ρ)) (sources : List α) : Prop := ∀ source ∈ sources, row source ≠ none

/-- A row that can be read is kept or dropped, and what it has then. -/
def Reads (row : α → Option (Option ρ)) (keeps : α → Bool) (content : α → ρ) : Prop :=
  ∀ source, row source ≠ none → row source = some (if keeps source then some (content source) else none)

section
variable {row : α → Option (Option ρ)} {keeps : α → Bool} {content : α → ρ} {sources : List α}

theorem selected_readable {rows : List ρ} (selection : selected row sources = some rows) : Readable row sources := by
  induction sources generalizing rows with
  | nil => simp [Readable]
  | cons source rest ih =>
      cases read : row source with
      | none => simp [selected, read] at selection
      | some first =>
          cases tail : selected row rest with
          | none => simp [selected, read, tail] at selection
          | some others => simpa [Readable, read] using ih tail

/-- Every row that is selected comes from a source row. -/
theorem mem_selected {rows : List ρ} {value : ρ} (selection : selected row sources = some rows)
    (member : value ∈ rows) : ∃ source ∈ sources, row source = some (some value) := by
  induction sources generalizing rows with
  | nil =>
      cases selection
      cases member
  | cons source rest ih =>
      simp only [selected, Option.bind_eq_bind, Option.bind_eq_some_iff] at selection
      obtain ⟨first, read, others, tail, joined⟩ := selection
      cases joined
      rcases List.mem_append.mp member with own | later
      · exact ⟨source, List.mem_cons_self, by rw [read, Option.mem_toList.mp own]⟩
      · obtain ⟨other, listed, found⟩ := ih tail later
        exact ⟨other, List.mem_cons_of_mem source listed, found⟩

theorem selected_eq (reads : Reads row keeps content) (readable : Readable row sources) :
    selected row sources = some ((sources.filter keeps).map content) := by
  induction sources with
  | nil => rfl
  | cons source rest ih =>
      obtain ⟨known, later⟩ := List.forall_mem_cons.mp readable
      rw [selected, reads source known, ih later]
      cases kept : keeps source <;> simp [kept]

/-- A property of what is proposed is one of the rows kept, if all of them can be read. -/
theorem forall_proposed_iff (reads : Reads row keeps content) (keys : List ρ → γ) (property : γ → Prop) :
    (∀ proposed, (selected row sources).map keys = some proposed → property proposed) ↔
      (Readable row sources → property (keys ((sources.filter keeps).map content))) := by
  constructor
  · intro holds readable
    exact holds _ (by rw [selected_eq reads readable]; rfl)
  · intro holds proposed shape
    obtain ⟨rows, selection, rfl⟩ := Option.map_eq_some_iff.mp shape
    have readable := selected_readable selection
    rw [selected_eq reads readable, Option.some.injEq] at selection
    exact selection ▸ holds readable

/-- The keys of a plain selection are distinct exactly if those of any two kept rows are. -/
theorem keys_nodup_iff (reads : Reads row keeps content) (key : ρ → κ) :
    (∀ keys, (selected row sources).map (List.map key) = some keys → keys.Nodup) ↔
      (Readable row sources → sources.Pairwise fun left right =>
        keeps left = true → keeps right = true → key (content left) ≠ key (content right)) := by
  rw [forall_proposed_iff reads]
  apply imp_congr_right
  intro readable
  rw [List.Nodup, List.pairwise_map, List.pairwise_map, List.pairwise_filter]

/-- The keys of a SELECT DISTINCT are distinct exactly if they determine the kept rows. -/
theorem distinct_keys_nodup_iff [DecidableEq ρ] (reads : Reads row keeps content) (key : ρ → κ) :
    (∀ keys, (selected row sources).map (fun rows => rows.dedup.map key) = some keys → keys.Nodup) ↔
      (Readable row sources → ∀ left ∈ sources, ∀ right ∈ sources, keeps left = true → keeps right = true →
        key (content left) = key (content right) → content left = content right) := by
  rw [forall_proposed_iff reads fun rows => rows.dedup.map key]
  apply imp_congr_right
  intro readable
  rw [List.nodup_map_iff_inj_on (List.nodup_dedup _)]
  simp only [List.mem_dedup, List.mem_map, List.mem_filter]
  constructor
  · intro injective left one right two keptLeft keptRight same
    exact injective _ ⟨left, ⟨one, keptLeft⟩, rfl⟩ _ ⟨right, ⟨two, keptRight⟩, rfl⟩ same
  · rintro determined _ ⟨left, ⟨one, keptLeft⟩, rfl⟩ _ ⟨right, ⟨two, keptRight⟩, rfl⟩ same
    exact determined left one right two keptLeft keptRight same

theorem pairwise_zipIdx (rows : List α) : rows.zipIdx.Pairwise fun left right => left.2 ≠ right.2 := by
  have numbers : (rows.zipIdx.map Prod.snd).Nodup := by
    rw [List.zipIdx_map_snd]
    exact List.nodup_range'
  exact List.pairwise_map.mp numbers

/-- In a join with numbered rows, where rows of different numbers are always related, only
the combinations of one row have to be looked at. -/
theorem pairwise_crossJoin_zipIdx {related : (α × Nat) × β → (α × Nat) × β → Prop} {rows : List α}
    {elements : List β}
    (numbered : ∀ left right one two, left.2 ≠ right.2 → related (left, one) (right, two)) :
    (crossJoin rows.zipIdx elements).Pairwise related ↔
      ∀ row ∈ rows.zipIdx, elements.Pairwise fun one two => related (row, one) (row, two) := by
  rw [crossJoin, List.pairwise_flatMap]
  simp only [List.pairwise_map, List.mem_map, forall_exists_index, and_imp]
  constructor
  · exact fun split => split.1
  · intro within
    refine ⟨within, ?_⟩
    apply (pairwise_zipIdx rows).imp
    intro left right different _ one _ shape _ two _ other
    rw [← shape, ← other]
    exact numbered left right one two different

end

end Selection
