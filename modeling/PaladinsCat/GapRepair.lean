import PaladinsCat.BackendPrograms

/-!
How far the repairs of projection gaps get (projections.rs, casual_performance.rs). Their page
of missing matches arrives as JSON. There a BIGINT is a string, and the repairs read integers
only: no id of any page is read, and no transaction follows.
-/

namespace PaladinsCat.Backend

open Interleaving Program
open Hirez (Value)
open Database (encodeRows encodeRows_bigint asI64_bigint)

variable {Rating : Type} {glicko : Glicko Rating}

/-! ### Gaps -/

/-- The complete ranked matches that are missing from `stats_projection_matches`. -/
def rankedGaps (store : Store Rating) : List Int :=
  (store.matchRows.filter fun row =>
    (store.ingest row.matchId).any (·.status == .complete) &&
      !(store.claimed .statsProjectionMatches).contains row.matchId &&
      row.queueId == rankedQueueId && !row.limited).map (·.matchId)

/-- The complete casual matches that are missing from `casual_performance_projection_matches`. -/
def casualGaps (store : Store Rating) : List Int :=
  (store.casualMatches.filter fun row =>
    (store.ingest row.matchId).any (·.status == .complete) &&
      !(store.claimed .casualPerformanceProjectionMatches).contains row.matchId &&
      (row.queueId == 424 || row.queueId == 452)).map (·.matchId)

theorem page_subset {α κ : Type} (before : κ → κ → Prop) [DecidableRel before] (rows : List α) (sortKey : α → κ)
    (id : κ → Int) (pageSize : Nat) : (((rows.map sortKey).insertionSort before).take pageSize).map id ⊆
      rows.map fun row => id (sortKey row) := by
  intro matchId selected
  obtain ⟨found, taken, rfl⟩ := List.mem_map.mp selected
  have sorted := (List.mem_insertionSort before).mp (List.mem_of_mem_take taken)
  obtain ⟨row, member, rfl⟩ := List.mem_map.mp sorted
  exact List.mem_map_of_mem member

theorem rankedGapPage_subset (store : Store Rating) (pageSize : Nat) :
    rankedGapPage store pageSize ⊆ rankedGaps store := by
  unfold rankedGapPage rankedGaps
  exact page_subset _ _ (fun row : MatchRow => (row.entryDatetime, row.matchId)) (·.2) pageSize

theorem casualGapPage_subset (store : Store Rating) (pageSize : Nat) :
    casualGapPage store pageSize ⊆ casualGaps store := by
  unfold casualGapPage casualGaps
  exact page_subset _ _ (fun row : NonrankedMatchRow => (row.entryDatetime, row.matchId)) (·.2) pageSize

/-- As long as there are gaps, the query finds some of them. -/
theorem rankedGapPage_length (store : Store Rating) (pageSize : Nat) :
    (rankedGapPage store pageSize).length = min pageSize (rankedGaps store).length := by
  simp [rankedGapPage, rankedGaps]

theorem casualGapPage_length (store : Store Rating) (pageSize : Nat) :
    (casualGapPage store pageSize).length = min pageSize (casualGaps store).length := by
  simp [casualGapPage, casualGaps]

/-! ### Progress -/

def FailureFree (events : List (Event (Store Rating) BackendOp BackendOp.Reply)) : Prop :=
  ∀ event ∈ events, event.reply.isOk = true

/-- A run without failures reports a positive count, and leaves fewer gaps than there were. -/
def MakesProgress (glicko : Glicko Rating) (gaps : Store Rating → List Int)
    (repair : BackendProgram (Except String Nat)) (store : Store Rating) : Prop :=
  ∀ events result after, Exec (serve glicko).handler store repair events result after → FailureFree events →
    ∃ count, result = .ok count ∧ 0 < count ∧ (gaps after).length < (gaps store).length

/-! ### The page on its way -/

def jsonIds (ids : List Int) : List Value := ids.map fun id => .object [("match_id", .string (toString id))]

theorem matchIdRows_eq (ids : List Int) : matchIdRows ids = .ok (jsonIds ids) :=
  encodeRows_bigint "match_id" ids

/-- No id of a page is read. -/
theorem pageIds_jsonIds (ids : List Int) : pageIds (jsonIds ids) = [] := by
  unfold pageIds jsonIds
  induction ids with
  | nil => rfl
  | cons id rest ih =>
      rw [List.map_cons, List.filterMap_cons_none (by rw [asI64_bigint]; rfl)]
      exact ih

theorem repairPage_nothing (repair : List Int → BackendProgram (Except String Nat)) (pageSize : Nat)
    (ids : List Int) : repairPage repair pageSize (jsonIds ids) = .done (.ok 0) := by
  rw [repairPage, pageIds_jsonIds]
  rfl

section Repair
variable (glicko : Glicko Rating) (store : Store Rating) (pageSize : Nat)

theorem served_rankedGapPage : (serve glicko).handler store (.rankedGapPage pageSize)
    (.ok (.ok (jsonIds (rankedGapPage store pageSize)))) store :=
  ⟨{}, by simp [serve, effect, settle, matchIdRows_eq]⟩

theorem served_casualGapPage : (serve glicko).handler store (.casualGapPage pageSize)
    (.ok (.ok (jsonIds (casualGapPage store pageSize)))) store :=
  ⟨{}, by simp [serve, effect, settle, matchIdRows_eq]⟩

variable {glicko store}

/-- The run of a repair that is over once its page is read. -/
theorem page_ends {op : BackendOp} {reply : op.Reply} {next : op.Reply → BackendProgram (Except String Nat)}
    (page : (serve glicko).handler store op reply store) (succeeded : reply.isOk = true)
    (ended : next reply = .done (.ok 0)) :
    ∃ events, Exec (serve glicko).handler store (.call op next) events (.ok 0) store ∧ FailureFree events := by
  refine ⟨[⟨store, op, reply, store⟩], .call _ page ?_, ?_⟩
  · rw [ended]
    exact .done _ _
  · intro event member
    obtain rfl := List.mem_singleton.mp member
    exact succeeded

variable (glicko store)

theorem repairRanked_ends : ∃ events,
    Exec (serve glicko).handler store (repairRankedProjectionGaps pageSize) events (.ok 0) store ∧
      FailureFree events :=
  page_ends (served_rankedGapPage glicko store (clampPage pageSize)) rfl (repairPage_nothing _ _ _)

theorem repairCasual_ends : ∃ events,
    Exec (serve glicko).handler store (repairCasualProjectionGaps pageSize) events (.ok 0) store ∧
      FailureFree events :=
  page_ends (served_casualGapPage glicko store (clampPage pageSize)) rfl (repairPage_nothing _ _ _)

end Repair

theorem no_progress {gaps : Store Rating → List Int} {repair : BackendProgram (Except String Nat)}
    {store : Store Rating}
    (ends : ∃ events, Exec (serve glicko).handler store repair events (.ok 0) store ∧ FailureFree events) :
    ¬MakesProgress glicko gaps repair store := by
  intro progress
  obtain ⟨events, run, free⟩ := ends
  obtain ⟨count, same, positive, -⟩ := progress events _ store run free
  cases same
  exact lt_irrefl 0 positive

/-- Whatever is missing, and whatever the size of the page, neither repair makes progress. -/
theorem gap_repairs_make_no_progress (glicko : Glicko Rating) (store : Store Rating) (pageSize : Nat) :
    ¬MakesProgress glicko rankedGaps (repairRankedProjectionGaps pageSize) store ∧
      ¬MakesProgress glicko casualGaps (repairCasualProjectionGaps pageSize) store :=
  ⟨no_progress (repairRanked_ends glicko store pageSize), no_progress (repairCasual_ends glicko store pageSize)⟩

/-! ### Two missing matches -/

/-- One complete ranked and one complete casual match, both without a projection. -/
def twoGaps : Store Int where
  matchRows := [⟨7, 100, rankedQueueId, some true, false, some 1⟩]
  casualMatches := [⟨8, 424, 100⟩]
  ingest := fun id => if id = 7 ∨ id = 8 then some { status := .complete, acquisitionState := .complete } else none

theorem two_gaps_remain :
    (rankedGaps twoGaps = [7] ∧ casualGaps twoGaps = [8]) ∧
      ¬MakesProgress pointGlicko rankedGaps (repairRankedProjectionGaps 250) twoGaps ∧
        ¬MakesProgress pointGlicko casualGaps (repairCasualProjectionGaps 500) twoGaps :=
  ⟨by decide, no_progress (repairRanked_ends pointGlicko twoGaps 250),
    no_progress (repairCasual_ends pointGlicko twoGaps 500)⟩

end PaladinsCat.Backend
