import PaladinsCat.Grouping
import PaladinsCat.MatchRows

/-!
When the flat rows are partitioned by match (normalizer.rs). The groups follow a text, the ids
of the matches a number, and the two readings look at different fields first. Two rows may look
alike once they are normalised, so it is the groups of rows that are compared with the ids;
their rows are the players of the matches.
-/

namespace PaladinsCat.Normalizer

open Hirez (Value)
open Resolver (MatchDetails)

/-! ### Ids -/

/-- The positive id in a field, or else 0. -/
def fieldId : Option Value → Nat
  | some (.integer number) => number.toNat
  | some (.string text) => ((Text.parseSigned 0 (2 ^ 53 - 1) text).getD 0).toNat
  | _ => 0

/-- A field that is absent, null, or an integer below 2^53 as a number or a decimal text. -/
def IdField : Option Value → Prop
  | none | some .null => True
  | some (.integer number) => number < 2 ^ 53
  | some (.string text) => ∃ minimum number, Text.parseSigned minimum (2 ^ 53 - 1) text = some number
  | some _ => False

structure IdFields (row : Value) : Prop where
  matchId : IdField (row.get "match_id")
  match_ : IdField (row.get "Match")

/-- The id of a row, from either field. -/
def rowId (row : Value) : Nat :=
  if fieldId (row.get "Match") = 0 then fieldId (row.get "match_id") else fieldId (row.get "Match")

/-- The ids of the rows in order of their first appearance. -/
def firstIds (rows : List Value) : List Nat :=
  (Grouping.firstBy rowId (rows.filter fun row => decide (rowId row ≠ 0))).map rowId

theorem firstIds_nodup (rows : List Value) : (firstIds rows).Nodup := Grouping.nodup_firstBy

theorem mem_firstIds {rows : List Value} {id : Nat} :
    id ∈ firstIds rows ↔ id ≠ 0 ∧ ∃ row ∈ rows, rowId row = id := by
  simp only [firstIds, List.mem_map]
  constructor
  · rintro ⟨row, first, rfl⟩
    obtain ⟨member, usable⟩ := List.mem_filter.mp (Grouping.firstBy_subset first)
    exact ⟨of_decide_eq_true usable, row, member, rfl⟩
  · rintro ⟨usable, row, member, rfl⟩
    exact Grouping.exists_firstBy (List.mem_filter.mpr ⟨member, decide_eq_true usable⟩)

/-- The matches have the ids of the rows, in order, and the rows of each id are its players, in order. -/
structure Partitioned (rows : List Value) : Prop where
  ids : (normalizeFlatMatchDetailRows rows).map (·.matchId) = firstIds rows
  players : rowGroups rows = (firstIds rows).map fun id => rows.filter fun row => decide (rowId row = id)

/-- The id in match_id is not seen behind a Match that is truthy, but is no positive number. -/
def hidden (row : Value) : Bool :=
  (row.get "Match").any jsTruthy && fieldId (row.get "Match") == 0 && fieldId (row.get "match_id") != 0

/-- The texts tell the rows apart as the ids do, and the first row of a text shows its id. -/
structure Separable (rows : List Value) : Prop where
  present : ∀ row ∈ rows, groupText row ≠ "" → rowId row ≠ 0
  alike : ∀ row ∈ rows, ∀ other ∈ rows, groupText row ≠ "" → groupText other ≠ "" →
    (groupText row = groupText other ↔ rowId row = rowId other)
  seen : ∀ front row back, rows = front ++ row :: back → groupText row ≠ "" →
    (∀ earlier ∈ front, groupText earlier ≠ groupText row) → hidden row = false

/-! ### The two readings -/

theorem parseSigned_zero {minimum maximum number : Int} {text : String}
    (parsed : Text.parseSigned minimum maximum text = some number) :
    Text.parseSigned 0 maximum text = if 0 ≤ number then some number else none := by
  unfold Text.parseSigned at parsed ⊢
  split at parsed
  rename_i negative digits matched
  split at parsed
  · cases parsed
  rename_i none_
  obtain ⟨valued, bounds⟩ := Option.filter_eq_some_iff.mp parsed
  simp only [Bool.and_eq_true, decide_eq_true_eq] at bounds
  rw [if_neg none_, valued]
  by_cases positive : 0 ≤ number <;> simp [Option.filter, positive, bounds.2]

/-- What `first_u64` makes of a number that it has found. -/
def readId (number : Option Binary64) : Nat :=
  ((number.filter fun value => value.isFinite && value.atLeast 0).map fun value =>
    (value.saturate 0 KeyPool.u64Max).toNat).getD 0

theorem readId_integer {number : Int} (short : number < 2 ^ 53) :
    readId (some (Binary64.ofRat number)) = number.toNat := by
  unfold readId
  by_cases negative : number < 0
  · simp [Option.filter, Binary64.atLeast_negative negative]
    omega
  · have exact_ : Binary64.ofRat number = .finite number := Binary64.ofRat_int (by rw [abs_of_nonneg] <;> omega)
    have reached : (Binary64.finite number).atLeast 0 = true := by
      simp only [Binary64.atLeast, decide_eq_true_eq]
      exact_mod_cast not_lt.mp negative
    rw [exact_, Option.filter_some, if_pos (by rw [reached]; rfl), Option.map_some,
      Binary64.saturate_int (by omega) (by simp only [KeyPool.u64Max]; omega), Option.getD_some]

theorem readId_field {value : Value} (field : IdField (some value)) :
    readId (jsNumber value) = fieldId (some value) := by
  cases value with
  | null => simp [readId, jsNumber, fieldId, Option.filter, Binary64.saturate, Binary64.isFinite, Binary64.atLeast]
  | integer number => exact readId_integer field
  | string text =>
      obtain ⟨minimum, number, parsed⟩ := field
      obtain ⟨read, trimmed⟩ := Binary64.parse_signed parsed
      have short : number < 2 ^ 53 := by
        obtain ⟨-, -, -, -, -, -, -, -, high⟩ := Binary64.signed_of_parsed parsed
        omega
      rw [jsNumber, trimmed, read, readId_integer short, fieldId, parseSigned_zero parsed]
      by_cases positive : 0 ≤ number
      · rw [if_pos positive, Option.getD_some]
      · rw [if_neg positive, Option.getD_none]
        omega
  | _ => exact field.elim

theorem truthy_of_fieldId {value : Value} (field : IdField (some value)) (positive : fieldId (some value) ≠ 0) :
    jsTruthy value = true := by
  cases value with
  | integer number =>
      have nonzero : number ≠ 0 := by
        rintro rfl
        exact positive rfl
      exact jsTruthy_integer nonzero
  | string text =>
      obtain ⟨minimum, number, parsed⟩ := field
      simp only [jsTruthy, bne_iff_ne, ne_eq]
      rintro rfl
      cases parsed
  | null => exact absurd rfl positive
  | _ => exact field.elim

theorem filter_untruthy {field : Option Value} (falsy : field.any jsTruthy = false) :
    field.filter jsTruthy = none := by
  cases field with
  | none => rfl
  | some value => simpa using falsy

theorem headId_eq {row : Value} (fields : IdFields row) :
    headId row =
      if (row.get "Match").any jsTruthy then fieldId (row.get "Match") else fieldId (row.get "match_id") := by
  have read : headId row = readId ((firstTruthy row ["Match", "match_id"]).bind jsNumber) := rfl
  have untruthy : (row.get "match_id").any jsTruthy = false → fieldId (row.get "match_id") = 0 := by
    intro falsy
    cases found : row.get "match_id" with
    | none => rfl
    | some value =>
        by_contra positive
        have truthy := truthy_of_fieldId (found ▸ fields.matchId) positive
        simp [found, truthy] at falsy
  rw [read, firstTruthy_pair]
  cases first : (row.get "Match").any jsTruthy with
  | true =>
      obtain ⟨value, found, truthy⟩ := (Option.any_eq_true _ _).mp first
      simp only [found, Option.filter_some, truthy, if_true, Option.some_or, Option.bind_some]
      exact readId_field (found ▸ fields.match_)
  | false =>
      rw [filter_untruthy first, Option.none_or]
      cases second : (row.get "match_id").any jsTruthy with
      | true =>
          obtain ⟨value, found, truthy⟩ := (Option.any_eq_true _ _).mp second
          simp only [found, Option.filter_some, truthy, if_true, Option.bind_some, Bool.false_eq_true, if_false]
          exact readId_field (found ▸ fields.matchId)
      | false =>
          rw [filter_untruthy second, untruthy second]
          rfl

theorem headId_eq_rowId {row : Value} (fields : IdFields row) : headId row = rowId row ↔ hidden row = false := by
  rw [headId_eq fields, rowId, hidden]
  by_cases none_ : fieldId (row.get "Match") = 0
  · generalize fieldId (row.get "match_id") = id
    cases truthy : (row.get "Match").any jsTruthy <;> cases id <;> simp [none_]
  · have truthy : (row.get "Match").any jsTruthy = true := by
      cases found : row.get "Match" with
      | none => exact absurd (by rw [found]; rfl) none_
      | some value =>
          rw [found] at none_
          simpa using truthy_of_fieldId (found ▸ fields.match_) none_
    simp [none_, truthy]

theorem jsString_ne_empty {value : Value} (field : IdField (some value)) : jsString value ≠ "" := by
  cases value with
  | null => simp [jsString]
  | integer number =>
      rw [jsString, ne_eq, ← String.toList_eq_nil_iff]
      cases number with
      | ofNat natural => exact Text.toString_ne_nil natural
      | negSucc natural => simp [toString, Int.repr]
  | string text =>
      obtain ⟨minimum, number, parsed⟩ := field
      rw [jsString]
      rintro rfl
      cases parsed
  | _ => exact field.elim

theorem groupText_of_rowId {row : Value} (fields : IdFields row) (usable : rowId row ≠ 0) :
    groupText row ≠ "" := by
  unfold groupText
  cases named : row.get "match_id" with
  | some value => simpa using jsString_ne_empty (named ▸ fields.matchId)
  | none =>
      cases found : row.get "Match" with
      | some value => simpa using jsString_ne_empty (found ▸ fields.match_)
      | none => simp [rowId, named, found, fieldId] at usable

/-! ### The groups -/

def keyed (rows : List Value) : List Value := rows.filter fun row => decide (groupText row ≠ "")

/-- The first rows of the texts. -/
def leaders (rows : List Value) : List Value := Grouping.firstBy groupText (keyed rows)

theorem mem_keyed {rows : List Value} {row : Value} : row ∈ keyed rows ↔ row ∈ rows ∧ groupText row ≠ "" := by
  simp [keyed]

theorem mem_leaders {rows : List Value} {row : Value} : row ∈ leaders rows ↔
    groupText row ≠ "" ∧ ∃ front back, rows = front ++ row :: back ∧
      ∀ earlier ∈ front, groupText earlier ≠ groupText row := by
  have apart : _ = (Grouping.firstBy groupText rows).filter fun row => decide (groupText row ≠ "") :=
    Grouping.firstBy_filter fun text => decide (text ≠ "")
  rw [leaders, keyed, apart, List.mem_filter, Grouping.mem_firstBy, decide_eq_true_eq, and_comm]

theorem foldl_addRow (rows : List Value) : rows.foldl addRow [] = Grouping.groups groupText (keyed rows) := by
  have step : addRow =
      fun groups row => if decide (groupText row ≠ "") then Grouping.add groupText groups row else groups := by
    funext groups row
    by_cases empty : groupText row = ""
    · simp [addRow, empty]
    · simp [addRow, Grouping.add, empty]
  rw [← Grouping.foldl_add, keyed, List.foldl_filter, step]

theorem rowGroups_eq (rows : List Value) :
    rowGroups rows = (leaders rows).map fun first => Grouping.ofKey groupText (keyed rows) (groupText first) := by
  rw [rowGroups, foldl_addRow, Grouping.groups, List.map_map]
  rfl

/-- Each group becomes a match with the id of its first row and a player for each row. -/
theorem normalizeMatchDetails_group {rows : List Value} {first : Value} (leads : first ∈ leaders rows) :
    ∃ details, normalizeMatchDetails (Grouping.ofKey groupText (keyed rows) (groupText first)) = some details ∧
      details.matchId = headId first ∧
      details.players = (Grouping.ofKey groupText (keyed rows) (groupText first)).map normalizeMatchPlayer := by
  obtain ⟨rest, group⟩ := Grouping.head_ofKey leads
  rw [group]
  exact ⟨_, rfl, rfl, rfl⟩

theorem map_filterMap {α β γ δ : Type} {list : List α} {group : α → β} {make : β → Option γ} {field : γ → δ}
    {value : α → δ} (made : ∀ a ∈ list, ∃ c, make (group a) = some c ∧ field c = value a) :
    ((list.map group).filterMap make).map field = list.map value := by
  induction list with
  | nil => rfl
  | cons a rest ih =>
      obtain ⟨c, found, same⟩ := made a List.mem_cons_self
      rw [List.map_cons, List.filterMap_cons_some found, List.map_cons, List.map_cons, same,
        ih fun b member => made b (List.mem_cons_of_mem a member)]

theorem matchIds_eq (rows : List Value) :
    (normalizeFlatMatchDetailRows rows).map (·.matchId) = (leaders rows).map headId := by
  rw [normalizeFlatMatchDetailRows, rowGroups_eq]
  apply map_filterMap
  intro first leads
  obtain ⟨details, made, id, -⟩ := normalizeMatchDetails_group leads
  exact ⟨details, made, id⟩

/-- The players of the matches are the rows of the groups. -/
theorem players_eq (rows : List Value) :
    (normalizeFlatMatchDetailRows rows).map (·.players) = (rowGroups rows).map (·.map normalizeMatchPlayer) := by
  rw [normalizeFlatMatchDetailRows, rowGroups_eq, List.map_map]
  apply map_filterMap
  intro first leads
  obtain ⟨details, made, -, players⟩ := normalizeMatchDetails_group leads
  exact ⟨details, made, players⟩

/-! ### The partition -/

section Partition
variable {rows : List Value}

theorem partitioned_iff_groups : Partitioned rows ↔ (leaders rows).map headId = firstIds rows ∧
    ∀ first ∈ leaders rows, Grouping.ofKey groupText (keyed rows) (groupText first) =
      rows.filter fun row => decide (rowId row = headId first) := by
  constructor
  · rintro ⟨ids, players⟩
    rw [matchIds_eq] at ids
    refine ⟨ids, ?_⟩
    rw [rowGroups_eq, ← ids, List.map_map] at players
    exact List.map_inj_left.mp players
  · rintro ⟨ids, groups⟩
    refine ⟨by rw [matchIds_eq, ids], ?_⟩
    rw [rowGroups_eq, ← ids, List.map_map]
    exact List.map_congr_left groups

theorem Partitioned.separable (fields : ∀ row ∈ rows, IdFields row) (partitioned : Partitioned rows) :
    Separable rows := by
  obtain ⟨ids, groups⟩ := partitioned_iff_groups.mp partitioned
  have nonzero : ∀ first ∈ leaders rows, headId first ≠ 0 := by
    intro first leads
    have listed : headId first ∈ firstIds rows := ids ▸ List.mem_map_of_mem leads
    exact (mem_firstIds.mp listed).1
  -- a row has the id that is read from the first row of its text
  have shared : ∀ first ∈ leaders rows, ∀ row,
      row ∈ rows ∧ groupText row ≠ "" ∧ groupText row = groupText first ↔ row ∈ rows ∧ rowId row = headId first := by
    intro first leads row
    have same := congrArg (row ∈ ·) (groups first leads)
    simpa [Grouping.mem_ofKey, mem_keyed, and_assoc] using same
  have led : ∀ row ∈ rows, groupText row ≠ "" → ∃ first ∈ leaders rows, groupText first = groupText row :=
    fun row member text => Grouping.exists_firstBy (mem_keyed.mpr ⟨member, text⟩)
  constructor
  · intro row member text
    obtain ⟨first, leads, same⟩ := led row member text
    rw [((shared first leads row).mp ⟨member, text, same.symm⟩).2]
    exact nonzero first leads
  · intro row member other listed text text'
    obtain ⟨first, leads, same⟩ := led row member text
    have own := ((shared first leads row).mp ⟨member, text, same.symm⟩).2
    constructor
    · intro equal
      rw [own, ((shared first leads other).mp ⟨listed, text', equal ▸ same.symm⟩).2]
    · intro equal
      rw [← same, ((shared first leads other).mpr ⟨listed, equal ▸ own⟩).2.2]
  · intro front row back split text earlier
    have leads : row ∈ leaders rows := mem_leaders.mpr ⟨text, front, back, split, earlier⟩
    have member : row ∈ rows := split ▸ List.mem_append_right front List.mem_cons_self
    exact (headId_eq_rowId (fields row member)).mp ((shared row leads row).mp ⟨member, text, rfl⟩).2.symm

theorem Separable.partitioned (fields : ∀ row ∈ rows, IdFields row) (separable : Separable rows) :
    Partitioned rows := by
  have usable : keyed rows = rows.filter fun row => decide (rowId row ≠ 0) := by
    apply List.filter_congr
    intro row member
    rw [decide_eq_decide]
    exact ⟨separable.present row member, groupText_of_rowId (fields row member)⟩
  have leads : leaders rows = Grouping.firstBy rowId (rows.filter fun row => decide (rowId row ≠ 0)) := by
    rw [leaders, ← usable]
    apply Grouping.firstBy_congr
    intro row member other listed
    obtain ⟨member, text⟩ := mem_keyed.mp member
    obtain ⟨listed, text'⟩ := mem_keyed.mp listed
    exact separable.alike row member other listed text text'
  have shown : ∀ first ∈ leaders rows, headId first = rowId first := by
    intro first leader
    obtain ⟨text, front, back, split, earlier⟩ := mem_leaders.mp leader
    have member : first ∈ rows := split ▸ List.mem_append_right front List.mem_cons_self
    exact (headId_eq_rowId (fields first member)).mpr (separable.seen front first back split text earlier)
  refine partitioned_iff_groups.mpr ⟨?_, ?_⟩
  · rw [firstIds, ← leads]
    exact List.map_congr_left shown
  · intro first leader
    rw [shown first leader, Grouping.ofKey, keyed, List.filter_filter]
    obtain ⟨listed, text⟩ := mem_keyed.mp (Grouping.firstBy_subset leader)
    apply List.filter_congr
    intro row member
    rw [← Bool.decide_and, decide_eq_decide]
    constructor
    · rintro ⟨same, text'⟩
      exact (separable.alike row member first listed text' text).mp same
    · intro same
      have text' : groupText row ≠ "" :=
        groupText_of_rowId (fields row member) (same ▸ separable.present first listed text)
      exact ⟨(separable.alike row member first listed text' text).mpr same, text'⟩

end Partition

/-- The rows are partitioned by match exactly when the texts tell them apart as the ids do, every row with a text
has an id, and no first row hides its own. -/
theorem flat_rows_partitioned_iff {rows : List Value} (fields : ∀ row ∈ rows, IdFields row) :
    Partitioned rows ↔ Separable rows :=
  ⟨fun partitioned => partitioned.separable fields, fun separable => separable.partitioned fields⟩

/-! ### Two lists of rows -/

/-- Rows of two matches. Their match_id is null, and the match is named by the other field. -/
def nullRows : List Value :=
  [.object [("match_id", .null), ("Match", .integer 200)], .object [("match_id", .null), ("Match", .integer 100)]]

theorem null_ids_share_a_match : (∀ row ∈ nullRows, IdFields row) ∧ ¬Partitioned nullRows := by
  have fields : ∀ row ∈ nullRows, IdFields row := by
    intro row member
    simp only [nullRows, List.mem_cons, List.not_mem_nil, or_false] at member
    rcases member with rfl | rfl
    · exact ⟨trivial, show (200 : Int) < 2 ^ 53 by norm_num⟩
    · exact ⟨trivial, show (100 : Int) < 2 ^ 53 by norm_num⟩
  refine ⟨fields, ?_⟩
  intro partitioned
  have alike := (partitioned.separable fields).alike _ List.mem_cons_self _ (List.mem_cons_of_mem _ List.mem_cons_self)
    (by decide) (by decide)
  exact absurd (alike.mp (by decide)) (by decide)

/-- Three rows of two matches, with the id as a number or as a text, in either field. -/
def mixedRows : List Value :=
  [.object [("Match", .integer 200)], .object [("match_id", .string "100")], .object [("match_id", .string "200")]]

theorem mixed_rows_partitioned : Partitioned mixedRows := by
  refine (flat_rows_partitioned_iff ?_).mpr ⟨?_, ?_, ?_⟩
  · intro row member
    simp only [mixedRows, List.mem_cons, List.not_mem_nil, or_false] at member
    rcases member with rfl | rfl | rfl
    · exact ⟨trivial, show (200 : Int) < 2 ^ 53 by norm_num⟩
    · exact ⟨⟨0, 100, by decide⟩, trivial⟩
    · exact ⟨⟨0, 200, by decide⟩, trivial⟩
  · decide
  · decide
  · intro front row back split _ _
    have member : row ∈ mixedRows := split ▸ List.mem_append_right front List.mem_cons_self
    simp only [mixedRows, List.mem_cons, List.not_mem_nil, or_false] at member
    rcases member with rfl | rfl | rfl <;> simp [hidden, Value.get, fieldId, List.lookup]

end PaladinsCat.Normalizer
