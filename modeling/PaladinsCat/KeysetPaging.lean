import Mathlib

/-!
Tables that are read page by page in descending order of a key. Each page names the key of its
last row, and the next one holds the rows behind it. The reader sees every key that is there at
each of its loads, and none twice, whatever else comes and goes between two loads.
-/

namespace KeysetPaging

variable {Row Key Token Table : Type} [LinearOrder Key] (key : Row → Key)

/-! ### Pages -/

def behind (cursor : Option Key) (row : Row) : Bool := cursor.all fun last => decide (key row < last)

/-- One row more than the page holds is looked up, to know whether there are more. -/
def page (limit : ℕ) (cursor : Option Key) (table : List Row) : List Row × Option Key :=
  let found := (table.filter (behind key cursor)).take (limit + 1)
  (found.take limit, if limit < found.length then (found.take limit).getLast?.map key else none)

def Descending (table : List Row) : Prop := table.Pairwise fun earlier later => key later < key earlier

variable {key} {limit : ℕ} {cursor : Option Key} {table : List Row}

theorem filter_behind_none (table : List Row) : table.filter (behind key none) = table :=
  List.filter_eq_self.mpr fun _ _ => rfl

theorem page_rows : (page key limit cursor table).1 = (table.filter (behind key cursor)).take limit := by
  simp [page, List.take_take]

theorem page_last (positive : 0 < limit) (ends : (page key limit cursor table).2 = none) :
    (page key limit cursor table).1 = table.filter (behind key cursor) := by
  rw [page_rows]
  by_cases more : limit < ((table.filter (behind key cursor)).take (limit + 1)).length
  · simp only [page, if_pos more, Option.map_eq_none_iff, List.getLast?_eq_none_iff, List.take_take] at ends
    rw [← List.length_eq_zero_iff, List.length_take] at ends
    rw [List.length_take] at more
    omega
  · rw [List.length_take] at more
    exact List.take_of_length_le (by omega)

/-- The rows behind the named key are those that the page has left. -/
theorem page_more (descending : Descending key table) {next : Key}
    (goes : (page key limit cursor table).2 = some next) :
    table.filter (behind key cursor) =
        (page key limit cursor table).1 ++ table.filter (behind key (some next)) ∧
      (∃ last ∈ (page key limit cursor table).1, key last = next) ∧
      ∀ row ∈ (page key limit cursor table).1, next ≤ key row := by
  have rows : (page key limit cursor table).1 = (table.filter (behind key cursor)).take limit := page_rows
  obtain ⟨more, last, found, named⟩ : limit < ((table.filter (behind key cursor)).take (limit + 1)).length ∧
      ∃ last, ((table.filter (behind key cursor)).take limit).getLast? = some last ∧ key last = next := by
    simpa [page, List.take_take, Option.ite_none_right_eq_some] using goes
  obtain ⟨front, whole⟩ := List.getLast?_eq_some_iff.mp found
  have listed : last ∈ (table.filter (behind key cursor)).take limit := by simp [whole]
  -- Of the rows behind the old cursor, those up to the last one of the page are not behind it.
  have sorted : Descending key (table.filter (behind key cursor)) := descending.filter _
  rw [Descending, ← List.take_append_drop limit (table.filter (behind key cursor)), List.pairwise_append] at sorted
  have above : ∀ row ∈ (table.filter (behind key cursor)).take limit, next ≤ key row := by
    intro row member
    rw [whole, List.mem_append, List.mem_singleton] at member
    have order := sorted.1
    rw [whole, List.pairwise_append] at order
    rcases member with earlier | rfl
    · exact named ▸ (order.2.2 row earlier last (by simp)).le
    · exact named.ge
  have split : (table.filter (behind key cursor)).filter (behind key (some next)) =
      (table.filter (behind key cursor)).drop limit := by
    conv_lhs => rw [← List.take_append_drop limit (table.filter (behind key cursor))]
    rw [List.filter_append]
    have before : ((table.filter (behind key cursor)).take limit).filter (behind key (some next)) = [] := by
      rw [List.filter_eq_nil_iff]
      intro row member
      simpa [behind] using above row member
    have after : ((table.filter (behind key cursor)).drop limit).filter (behind key (some next)) =
        (table.filter (behind key cursor)).drop limit := by
      rw [List.filter_eq_self]
      intro row member
      have below := sorted.2.2 last listed row member
      simpa [behind, ← named] using below
    rw [before, after, List.nil_append]
  have inner : (table.filter (behind key cursor)).filter (behind key (some next)) = table.filter (behind key (some next)) := by
    rw [List.filter_filter]
    refine List.filter_congr fun row member => ?_
    have kept : behind key cursor last = true := (List.mem_filter.mp (List.mem_of_mem_take listed)).2
    cases cursor with
    | none => simp [behind]
    | some bound =>
        simp only [behind, Option.all_some, decide_eq_true_eq] at kept ⊢
        by_cases below : key row < next
        · have lower : key row < bound := below.trans (named ▸ kept)
          simp [below, lower]
        · simp [below]
  refine ⟨?_, ⟨last, rows ▸ listed, named⟩, rows ▸ above⟩
  rw [rows, ← inner, split, List.take_append_drop]

/-! ### Walks -/

/-- A reader who hands back the token of each page, until a page has none. -/
inductive Walk (load : Option Token → Table → Option (List Row × Option Token)) :
    Option Token → List Table → List Row → Prop where
  | last {cursor : Option Token} {table : Table} {rows : List Row} (loaded : load cursor table = some (rows, none)) :
      Walk load cursor [table] rows
  | more {cursor : Option Token} {table : Table} {tables : List Table} {next : Token} {rows others : List Row}
      (loaded : load cursor table = some (rows, some next)) (rest : Walk load (some next) tables others) :
      Walk load cursor (table :: tables) (rows ++ others)

/-- Loads that answer with pages of a table, and with a token for the key of the last row. A table
is sound if it is in order and all its keys have tokens. -/
structure Serves (load : Option Token → Table → Option (List Row × Option Token)) (key : Row → Key)
    (token : Key → Token) (rowsOf : Table → List Row) (limit : ℕ) (Named : Key → Prop) (Sound : Table → Prop) : Prop where
  positive : 0 < limit
  descending : ∀ table, Sound table → Descending key (rowsOf table)
  named : ∀ table, Sound table → ∀ row ∈ rowsOf table, Named (key row)
  loads : ∀ cursor table, Sound table → (∀ next ∈ cursor, Named next) →
    load (cursor.map token) table =
      some ((page key limit cursor (rowsOf table)).1, (page key limit cursor (rowsOf table)).2.map token)

variable {load : Option Token → Table → Option (List Row × Option Token)} {token : Key → Token}
  {rowsOf : Table → List Row} {Named : Key → Prop} {Sound : Table → Prop}

/-- What an answered load has read, with the key behind the token that it gives out. -/
theorem Serves.answered (serves : Serves load key token rowsOf limit Named Sound) {cursor : Option Key} {table : Table}
    {rows : List Row} {next : Option Token} (sound : Sound table) (named : ∀ next ∈ cursor, Named next)
    (loaded : load (cursor.map token) table = some (rows, next)) :
    rows = (page key limit cursor (rowsOf table)).1 ∧
      ∃ last, (page key limit cursor (rowsOf table)).2 = last ∧ next = last.map token ∧ ∀ key ∈ last, Named key := by
  have answer := serves.loads cursor table sound named
  rw [loaded, Option.some.injEq, Prod.mk.injEq] at answer
  refine ⟨answer.1, _, rfl, answer.2, ?_⟩
  intro last goes
  obtain ⟨-, ⟨row, listed, rfl⟩, -⟩ := page_more (serves.descending table sound) goes
  rw [page_rows] at listed
  exact serves.named table sound row (List.mem_of_mem_filter (List.mem_of_mem_take listed))

/-- The answer to a load that names another token, with the key behind that token. -/
theorem Serves.goes_on (serves : Serves load key token rowsOf limit Named Sound) {cursor : Option Key} {table : Table}
    {rows : List Row} {next : Token} (sound : Sound table) (named : ∀ next ∈ cursor, Named next)
    (loaded : load (cursor.map token) table = some (rows, some next)) :
    ∃ last, next = token last ∧ Named last ∧
      (rowsOf table).filter (behind key cursor) = rows ++ (rowsOf table).filter (behind key (some last)) ∧
      (∃ row ∈ rows, key row = last) ∧ ∀ row ∈ rows, last ≤ key row := by
  obtain ⟨rfl, last, goes, handed, lastNamed⟩ := serves.answered sound named loaded
  cases last with
  | none => cases handed
  | some last =>
      exact ⟨last, Option.some.inj handed, lastNamed last rfl, page_more (serves.descending table sound) goes⟩

theorem Serves.ends (serves : Serves load key token rowsOf limit Named Sound) {cursor : Option Key} {table : Table}
    {rows : List Row} (sound : Sound table) (named : ∀ next ∈ cursor, Named next)
    (loaded : load (cursor.map token) table = some (rows, none)) : rows = (rowsOf table).filter (behind key cursor) := by
  obtain ⟨rfl, last, goes, handed, -⟩ := serves.answered sound named loaded
  exact page_last serves.positive (goes.trans (Option.map_eq_none_iff.mp handed.symm))

/-- No row is read twice, and the rows of all pages together are in order. -/
theorem walk_descending (serves : Serves load key token rowsOf limit Named Sound) {start : Option Token}
    {tables : List Table} {rows : List Row} (walk : Walk load start tables rows) (cursor : Option Key)
    (starts : start = cursor.map token) (sound : ∀ table ∈ tables, Sound table) (named : ∀ next ∈ cursor, Named next) :
    Descending key rows ∧ ∀ row ∈ rows, behind key cursor row = true := by
  induction walk generalizing cursor with
  | last loaded =>
      subst starts
      rw [serves.ends (sound _ (by simp)) named loaded]
      exact ⟨(serves.descending _ (sound _ (by simp))).filter _, fun row listed => (List.mem_filter.mp listed).2⟩
  | @more _ table tables next rows others loaded rest ih =>
      subst starts
      obtain ⟨last, rfl, lastNamed, split, ⟨final, finalListed, finalKey⟩, above⟩ :=
        serves.goes_on (sound _ (by simp)) named loaded
      have sorted : Descending key (rows ++ (rowsOf table).filter (behind key (some last))) :=
        split ▸ (serves.descending table (sound _ (by simp))).filter _
      obtain ⟨ordered, lower⟩ := ih (some last) rfl (fun table listed => sound table (List.mem_cons_of_mem _ listed))
        (by simpa using lastNamed)
      have kept : ∀ row ∈ rows, behind key cursor row = true := by
        intro row listed
        have member : row ∈ (rowsOf table).filter (behind key cursor) := split ▸ List.mem_append_left _ listed
        exact (List.mem_filter.mp member).2
      refine ⟨List.pairwise_append.mpr ⟨(List.pairwise_append.mp sorted).1, ordered, ?_⟩, ?_⟩
      · intro early listed late member
        have below : key late < last := by simpa [behind] using lower late member
        exact below.trans_le (above early listed)
      · intro row member
        rcases List.mem_append.mp member with early | late
        · exact kept row early
        · have below : key row < last := by simpa [behind] using lower row late
          cases cursor with
          | none => rfl
          | some bound =>
              have high : last < bound := by simpa [behind, finalKey] using kept final finalListed
              simpa [behind] using below.trans high

/-- A key that is in the table at every load is read. -/
theorem walk_complete (serves : Serves load key token rowsOf limit Named Sound) {start : Option Token}
    {tables : List Table} {rows : List Row} (walk : Walk load start tables rows) (cursor : Option Key)
    (starts : start = cursor.map token) (sound : ∀ table ∈ tables, Sound table) (named : ∀ next ∈ cursor, Named next)
    {wanted : Key} (below : ∀ last ∈ cursor, wanted < last)
    (present : ∀ table ∈ tables, ∃ row ∈ rowsOf table, key row = wanted) : ∃ row ∈ rows, key row = wanted := by
  have found : ∀ table ∈ tables, ∀ cursor : Option Key, (∀ last ∈ cursor, wanted < last) →
      ∃ row ∈ (rowsOf table).filter (behind key cursor), key row = wanted := by
    intro table listed cursor below
    obtain ⟨row, member, same⟩ := present table listed
    refine ⟨row, List.mem_filter.mpr ⟨member, ?_⟩, same⟩
    cases cursor with
    | none => rfl
    | some last => simpa [behind, same] using below last rfl
  induction walk generalizing cursor with
  | last loaded =>
      subst starts
      rw [serves.ends (sound _ (by simp)) named loaded]
      exact found _ (by simp) cursor below
  | @more _ table tables next rows others loaded rest ih =>
      subst starts
      obtain ⟨last, rfl, lastNamed, split, -, -⟩ := serves.goes_on (sound _ (by simp)) named loaded
      obtain ⟨row, member, same⟩ := found table (by simp) cursor below
      rw [split, List.mem_append] at member
      rcases member with here | later
      · exact ⟨row, List.mem_append_left _ here, same⟩
      · have lower : wanted < last := by simpa [behind, same] using (List.mem_filter.mp later).2
        obtain ⟨row, listed, same⟩ := ih (some last) rfl
          (fun table listed => sound table (List.mem_cons_of_mem _ listed)) (by simpa using lastNamed)
          (by simpa using lower) (fun table listed => present table (List.mem_cons_of_mem _ listed))
          (fun table listed => found table (List.mem_cons_of_mem _ listed))
        exact ⟨row, List.mem_append_right _ listed, same⟩

theorem walk_sound (serves : Serves load key token rowsOf limit Named Sound) {start : Option Token}
    {tables : List Table} {rows : List Row} (walk : Walk load start tables rows) (cursor : Option Key)
    (starts : start = cursor.map token) (sound : ∀ table ∈ tables, Sound table) (named : ∀ next ∈ cursor, Named next) :
    ∀ row ∈ rows, ∃ table ∈ tables, row ∈ rowsOf table := by
  induction walk generalizing cursor with
  | last loaded =>
      subst starts
      rw [serves.ends (sound _ (by simp)) named loaded]
      exact fun row listed => ⟨_, by simp, List.mem_of_mem_filter listed⟩
  | @more _ table tables next rows others loaded rest ih =>
      subst starts
      obtain ⟨last, rfl, lastNamed, split, -, -⟩ := serves.goes_on (sound _ (by simp)) named loaded
      intro row member
      rcases List.mem_append.mp member with here | later
      · have listed : row ∈ (rowsOf table).filter (behind key cursor) := split ▸ List.mem_append_left _ here
        exact ⟨table, by simp, List.mem_of_mem_filter listed⟩
      · obtain ⟨other, listed, held⟩ := ih (some last) rfl
          (fun table listed => sound table (List.mem_cons_of_mem _ listed)) (by simpa using lastNamed) row later
        exact ⟨other, List.mem_cons_of_mem _ listed, held⟩

/-- A table that stays as it is has an end, and all of it is read. -/
theorem walk_ends (serves : Serves load key token rowsOf limit Named Sound) {table : Table} (sound : Sound table)
    (cursor : Option Key) (named : ∀ next ∈ cursor, Named next) :
    ∃ loads, Walk load (cursor.map token) (List.replicate (loads + 1) table) ((rowsOf table).filter (behind key cursor)) := by
  generalize size : ((rowsOf table).filter (behind key cursor)).length = count
  induction count using Nat.strong_induction_on generalizing cursor with
  | _ count ih =>
      have answer := serves.loads cursor table sound named
      cases goes : (page key limit cursor (rowsOf table)).2 with
      | none =>
          rw [goes, page_last serves.positive goes] at answer
          exact ⟨0, .last answer⟩
      | some last =>
          rw [goes] at answer
          obtain ⟨last', same, lastNamed, split, ⟨final, listed, -⟩, -⟩ := serves.goes_on sound named answer
          -- The page is not empty, so that fewer rows are left behind it.
          have shorter : ((rowsOf table).filter (behind key (some last'))).length < count := by
            have some_ := List.length_pos_of_mem listed
            rw [← size, split, List.length_append]
            omega
          obtain ⟨loads, rest⟩ := ih _ shorter (some last') (by simpa using lastNamed) rfl
          rw [split]
          refine ⟨loads + 1, ?_⟩
          rw [List.replicate_succ]
          rw [Option.map_some, same] at answer
          exact .more answer rest

end KeysetPaging
