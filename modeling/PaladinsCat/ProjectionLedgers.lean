import PaladinsCat.BackendFootprints

/-!
The ledgers of the projectors. A projector claims matches in its ledger and adds
exactly the matches that it has claimed to its tables, in one transaction; so no
match is added twice, whatever runs. The repairs claim a page of matches before they
call the projector, which then has nothing left to claim, and adds nothing.
-/

namespace PaladinsCat.Backend

open Interleaving

variable {Rating : Type} {glicko : Glicko Rating}

/-! ### Projectors -/

inductive Projector where
  | performance
  | scalable
  | casualPerformance
  | mechanics (family : MechanicsFamily)
  deriving DecidableEq

def Projector.ledger : Projector → Ledger
  | .performance => .performanceProjectionMatches
  | .scalable => .statsProjectionMatches
  | .casualPerformance => .casualPerformanceProjectionMatches
  | .mechanics family => family.ledger

def Projector.tables : Projector → List Aggregate
  | .performance => performanceTables
  | .scalable => scalableTables
  | .casualPerformance => [.casualPerformanceMetricHistogram]
  | .mechanics family => [family.table]

theorem Projector.ledger_injective {left right : Projector} (same : left.ledger = right.ledger) : left = right := by
  cases left <;> cases right <;> (try rename_i family; cases family) <;> (try rename_i other; cases other) <;>
    simp_all [Projector.ledger, MechanicsFamily.ledger]

/-- The projector that writes a table; the counts of ranked matches have none. -/
def Aggregate.projector : Aggregate → Option Projector
  | .performanceMetricHistogram | .playerQueueRatingSummary | .playerChampionOutcomeSummary =>
      some .performance
  | .statsMatchAggregate | .statsPlayerAggregate | .statsTalentCardAggregate | .statsCompositionAggregate
  | .statsItemAggregate | .statsTalentAggregate | .statsCardAggregate | .statsBanAggregate
  | .statsMetricHistogram | .statsChampionMetricHistogram => some .scalable
  | .casualPerformanceMetricHistogram => some .casualPerformance
  | .itemCountsCasual => some (.mechanics .items)
  | .talentCountsCasual => some (.mechanics .talents)
  | .cardCountsCasual => some (.mechanics .cards)
  | _ => none

theorem Projector.mem_tables {projector : Projector} {table : Aggregate} :
    table ∈ projector.tables ↔ table.projector = some projector := by
  cases projector with
  | mechanics family => cases family <;> cases table <;> decide
  | _ => cases table <;> decide

theorem projector_ranked {table : Aggregate} : table ∈ rankedTables ↔ table.projector = none := by
  cases table <;> decide

theorem Projector.ledger_ranked (projector : Projector) : projector.ledger ≠ .mapItemCountsRankedMatches := by
  cases projector <;> (try rename_i family; cases family) <;> simp [Projector.ledger, MechanicsFamily.ledger]

/-- `INSERT INTO` the ledger, and the upserts of what it has returned. -/
def Store.book (store : Store Rating) (projector : Projector) (ids : List Int) : Store Rating :=
  (store.claim projector.ledger ids).addTo projector.tables ids

theorem book_claimed (store : Store Rating) (projector : Projector) (ids : List Int) (ledger : Ledger) :
    (store.book projector ids).claimed ledger =
      if ledger = projector.ledger then store.claimed ledger ++ ids else store.claimed ledger := by
  change Function.update store.claimed projector.ledger _ ledger = _
  split
  · rename_i same
    rw [same, Function.update_self]
  · rename_i other
    rw [Function.update_of_ne other]

theorem book_added (store : Store Rating) (projector : Projector) (ids : List Int) (table : Aggregate) :
    (store.book projector ids).added table =
      if table ∈ projector.tables then store.added table ++ ids else store.added table := rfl

/-- Another projector writes neither the ledger nor the tables. -/
theorem book_other {projector writer : Projector} (distinct : projector ≠ writer) (store : Store Rating)
    (ids : List Int) :
    (store.book writer ids).claimed projector.ledger = store.claimed projector.ledger ∧
      ∀ table ∈ projector.tables, (store.book writer ids).added table = store.added table := by
  constructor
  · rw [book_claimed, if_neg]
    exact fun equal => distinct (Projector.ledger_injective equal)
  · intro table here
    rw [book_added, if_neg]
    rw [Projector.mem_tables] at here ⊢
    rw [here]
    exact fun equal => distinct (Option.some.inj equal)

theorem unclaimed_spec (store : Store Rating) (ledger : Ledger) (allowed : Int → Bool) (ids : List Int) :
    (store.unclaimed ledger allowed ids).Nodup ∧
      ∀ id ∈ store.unclaimed ledger allowed ids, id ∈ ids ∧ id ∉ store.claimed ledger := by
  refine ⟨List.nodup_dedup _, ?_⟩
  intro id member
  simp only [Store.unclaimed, List.mem_dedup, List.mem_filter, Bool.and_eq_true, Bool.not_eq_true',
    List.contains_eq_mem, decide_eq_false_iff_not] at member
  exact ⟨member.1, member.2.2⟩

/-! ### What a transaction writes -/

def SameLedgers (before after : Store Rating) : Prop :=
  after.claimed = before.claimed ∧ after.added = before.added

theorem SameLedgers.trans {first second third : Store Rating} (one : SameLedgers first second)
    (two : SameLedgers second third) : SameLedgers first third :=
  ⟨two.1.trans one.1, two.2.trans one.2⟩

theorem updateIngest_ledgers (store : Store Rating) (matchId : Int) (change : IngestRow → Option IngestRow) :
    SameLedgers store (store.updateIngest matchId change) := by
  rw [Store.updateIngest_eq]
  exact ⟨rfl, rfl⟩

/-- A match whose counts are still to be added: it is ranked and has no `ranked_stats`. -/
def Uncounted (store : Store Rating) (matchId : Int) : Prop :=
  ∃ row, store.ingest matchId = some row ∧ .rankedStats ∉ row.completedStages

/-- What a transaction other than a repair does to ledgers and tables. -/
inductive LedgerStep (op : BackendOp) (before after : Store Rating) : Prop where
  | none (same : SameLedgers before after)
  | book (projector : Projector) (allowed : Int → Bool) (requested : List Int)
      (same : SameLedgers (before.book projector (before.unclaimed projector.ledger allowed requested)) after)
  | count (matchId : Int) (isOp : op = .projectRankedStats matchId) (uncounted : Uncounted before matchId)
      (same : SameLedgers (addRankedCounts before matchId) after)

theorem effect_sameLedgers (outside : Outside) (store : Store Rating) {op : BackendOp}
    (group : op.footprint ≠ .projections) : SameLedgers store (effect glicko outside store op).2 := by
  cases footprint : op.footprint with
  | reads =>
      rw [effect_reads glicko outside store footprint]
      exact ⟨rfl, rfl⟩
  | ratings =>
      obtain ⟨_, _, _, _, _, _, _, same⟩ := effect_ratings glicko outside store footprint
      rw [same]
      exact ⟨rfl, rfl⟩
  | projections => exact absurd footprint group
  | lifecycle =>
      obtain ⟨_, _, _, _, _, _, same⟩ := effect_lifecycle glicko outside store footprint
      rw [same]
      exact ⟨rfl, rfl⟩

def BackendOp.repairs : BackendOp → Bool
  | .repairRankedChunk _ | .repairCasualChunk _ => true
  | _ => false

theorem effect_ledgerStep (outside : Outside) (store : Store Rating) {op : BackendOp}
    (ordinary : op.repairs = false) : LedgerStep op store (effect glicko outside store op).2 := by
  cases op with
  | projectRankedStats matchId =>
      simp only [effect, projectRankedStats]
      split
      · exact .none ⟨rfl, rfl⟩
      · rename_i row found
        split_ifs with _ counted
        · exact .none ⟨rfl, rfl⟩
        · exact .none ⟨rfl, rfl⟩
        · exact .count matchId rfl ⟨row, found, counted⟩ (updateIngest_ledgers _ _ _)
        · exact .none ⟨rfl, rfl⟩
  | projectCumulativeBatch ids stage =>
      cases stage with
      | performance => exact .book .performance _ ids ⟨rfl, rfl⟩
      | scalable => exact .book .scalable _ ids ⟨rfl, rfl⟩
  | finishRanked matchId => exact .none (updateIngest_ledgers _ _ _)
  | completeRanked ids => exact .none ⟨rfl, rfl⟩
  | projectScalableMany ids => exact .book .scalable _ ids ⟨rfl, rfl⟩
  | projectCasualPerformanceMany ids => exact .book .casualPerformance _ ids ⟨rfl, rfl⟩
  | repairRankedChunk ids => cases ordinary
  | repairCasualChunk ids => cases ordinary
  | projectFactFamily family matchId =>
      simp only [effect, projectFactFamily]
      split_ifs with context seen
      · exact .none ⟨rfl, rfl⟩
      · have fresh : matchId ∉ store.claimed family.ledger := by simpa using seen
        have claimed : store.unclaimed family.ledger (fun _ => true) [matchId] = [matchId] := by
          simp [Store.unclaimed, fresh]
        refine .book (.mechanics family) (fun _ => true) [matchId] ?_
        change SameLedgers (store.book _ (store.unclaimed family.ledger _ _)) _
        rw [claimed]
        exact ⟨rfl, rfl⟩
      · exact .none ⟨rfl, rfl⟩
  | finishMechanics matchId => exact .none (updateIngest_ledgers _ _ _)
  | _ => exact .none (effect_sameLedgers outside store (by simp [BackendOp.footprint]))

/-! ### At most once -/

/-- A match is in the tables of the projector at most once, and not at all before it
has been claimed. -/
def AtMostOnce (projector : Projector) (store : Store Rating) : Prop :=
  ∀ matchId, ∀ table ∈ projector.tables,
    (store.added table).count matchId ≤ if matchId ∈ store.claimed projector.ledger then 1 else 0

variable {projector : Projector} {before after : Store Rating}

theorem AtMostOnce.congr (once : AtMostOnce projector before) (same : SameLedgers before after) :
    AtMostOnce projector after := by
  intro matchId table here
  rw [same.1, same.2]
  exact once matchId table here

theorem AtMostOnce.claim (once : AtMostOnce projector before) (ledger : Ledger) (ids : List Int) :
    AtMostOnce projector (before.claim ledger ids) := by
  intro matchId table here
  have old := once matchId table here
  have grows : matchId ∈ before.claimed projector.ledger →
      matchId ∈ (before.claim ledger ids).claimed projector.ledger := by
    intro claimed
    by_cases same : projector.ledger = ledger
    · subst same
      simp [Store.claim, claimed]
    · simpa [Store.claim, Function.update_of_ne same] using claimed
  change (before.added table).count matchId ≤ _
  by_cases claimed : matchId ∈ before.claimed projector.ledger
  · simp only [claimed, if_true] at old
    simpa [grows claimed] using old
  · simp only [claimed, if_false, Nat.le_zero] at old
    simp [old]

/-- The ids to be booked are new to the ledger, and each is there once. -/
def Fresh (store : Store Rating) (ledger : Ledger) (ids : List Int) : Prop :=
  ids.Nodup ∧ ∀ id ∈ ids, id ∉ store.claimed ledger

theorem unclaimed_fresh (store : Store Rating) (ledger : Ledger) (allowed : Int → Bool) (ids : List Int) :
    Fresh store ledger (store.unclaimed ledger allowed ids) := by
  obtain ⟨nodup, spec⟩ := unclaimed_spec store ledger allowed ids
  exact ⟨nodup, fun id member => (spec id member).2⟩

theorem book_count {ids : List Int} (fresh : Fresh before projector.ledger ids)
    {table : Aggregate} (here : table ∈ projector.tables) (matchId : Int) :
    ((before.book projector ids).added table).count matchId =
      (before.added table).count matchId + if matchId ∈ ids then 1 else 0 := by
  rw [book_added, if_pos here, List.count_append]
  split
  · rename_i member
    rw [List.count_eq_one_of_mem fresh.1 member]
  · rename_i absent
    rw [List.count_eq_zero_of_not_mem absent]

theorem AtMostOnce.book (writer : Projector) {ids : List Int} (once : AtMostOnce projector before)
    (fresh : Fresh before writer.ledger ids) : AtMostOnce projector (before.book writer ids) := by
  intro matchId table here
  have old := once matchId table here
  by_cases same : projector = writer
  · subst same
    rw [book_count fresh here, book_claimed, if_pos rfl]
    by_cases member : matchId ∈ ids
    · simp only [fresh.2 matchId member, if_false, Nat.le_zero] at old
      simp [member, old]
    · simpa [member] using old
  · obtain ⟨claimed, added⟩ := book_other same before ids
    rwa [added table here, claimed]

/-- The counts of a ranked match are apart from the projectors. -/
theorem addRankedCounts_apart (store : Store Rating) (matchId : Int) :
    (addRankedCounts store matchId).claimed projector.ledger = store.claimed projector.ledger ∧
      ∀ table ∈ projector.tables, (addRankedCounts store matchId).added table = store.added table := by
  constructor
  · simp [addRankedCounts, Store.addTo, Store.claim, Function.update_of_ne projector.ledger_ranked]
  · intro table here
    have unranked : table ∉ rankedTables := by
      rw [projector_ranked, Projector.mem_tables.mp here]
      simp
    have notItems : table ≠ .mapItemCountsRanked := by
      rintro rfl
      exact unranked (by decide)
    simp [addRankedCounts, Store.addTo, Store.claim, unranked, notItems]

theorem AtMostOnce.count (once : AtMostOnce projector before) (matchId : Int) :
    AtMostOnce projector (addRankedCounts before matchId) := by
  intro other table here
  obtain ⟨claimed, added⟩ := addRankedCounts_apart before matchId
  rw [added table here, claimed]
  exact once other table here

theorem AtMostOnce.step {op : BackendOp} (once : AtMostOnce projector before)
    (step : LedgerStep op before after) : AtMostOnce projector after := by
  cases step with
  | none same => exact once.congr same
  | book writer allowed requested same => exact (once.book writer (unclaimed_fresh _ _ _ _)).congr same
  | count matchId _ _ same => exact (once.count matchId).congr same

/-! ### Repairs -/

theorem claim_nil (store : Store Rating) (ledger : Ledger) : store.claim ledger [] = store := by
  simp [Store.claim]

theorem addTo_nil (store : Store Rating) (tables : List Aggregate) : store.addTo tables [] = store := by
  simp [Store.addTo]

/-- What has just been claimed is not claimed again. -/
theorem unclaimed_again (store : Store Rating) (ledger : Ledger) (allowed : Int → Bool) (ids : List Int) :
    (store.claim ledger ids).unclaimed ledger allowed ids = [] := by
  apply List.eq_nil_iff_forall_not_mem.mpr
  intro id member
  obtain ⟨requested, unclaimed⟩ := (unclaimed_spec _ ledger allowed ids).2 id member
  exact unclaimed (by simp [Store.claim, requested])

theorem projectScalableMany_again (store : Store Rating) (ids : List Int) :
    projectScalableMany (store.claim .statsProjectionMatches ids) ids =
      (0, store.claim .statsProjectionMatches ids) := by
  simp only [projectScalableMany, unclaimed_again, claim_nil, addTo_nil, List.length_nil]

theorem projectCasualPerformanceMany_again (store : Store Rating) (ids : List Int) :
    projectCasualPerformanceMany (store.claim .casualPerformanceProjectionMatches ids) ids =
      (0, store.claim .casualPerformanceProjectionMatches ids) := by
  simp only [projectCasualPerformanceMany, unclaimed_again, claim_nil, addTo_nil, List.length_nil]

/-- The matches of a page that a repair claims. -/
def ahead (store : Store Rating) (ledger : Ledger) (ids : List Int) : List Int :=
  store.unclaimed ledger (fun _ => true) ids

theorem ahead_eq_nil {store : Store Rating} {ledger : Ledger} {ids : List Int} :
    ahead store ledger ids = [] ↔ ∀ id ∈ ids, id ∈ store.claimed ledger := by
  simp [ahead, Store.unclaimed, List.filter_eq_nil_iff]

/-- A repair of ranked matches claims them, and adds nothing to the scalable tables. -/
theorem repairRankedChunk_eq (store : Store Rating) (ids : List Int) :
    (repairRankedChunk store ids).2 = if ahead store .statsProjectionMatches ids = [] then store
      else (projectPerformanceMany
        (store.claim .statsProjectionMatches (ahead store .statsProjectionMatches ids))
        (ahead store .statsProjectionMatches ids)).2 := by
  unfold repairRankedChunk ahead
  simp only [projectScalableMany_again, List.isEmpty_iff]
  split <;> rfl

theorem repairCasualChunk_eq (store : Store Rating) (ids : List Int) :
    (repairCasualChunk store ids).2 = if ahead store .casualPerformanceProjectionMatches ids = [] then store
      else store.claim .casualPerformanceProjectionMatches
        (ahead store .casualPerformanceProjectionMatches ids) := by
  unfold repairCasualChunk ahead
  simp only [projectCasualPerformanceMany_again, List.isEmpty_iff]
  split <;> rfl

theorem AtMostOnce.repairRanked (once : AtMostOnce projector before) (ids : List Int) :
    AtMostOnce projector (repairRankedChunk before ids).2 := by
  rw [repairRankedChunk_eq]
  split
  · exact once
  · have claimed := once.claim .statsProjectionMatches (ahead before .statsProjectionMatches ids)
    exact claimed.book .performance (unclaimed_fresh _ _ _ _)

theorem AtMostOnce.repairCasual (once : AtMostOnce projector before) (ids : List Int) :
    AtMostOnce projector (repairCasualChunk before ids).2 := by
  rw [repairCasualChunk_eq]
  split
  · exact once
  · exact once.claim _ _

/-- No step of any run adds a match twice. -/
theorem AtMostOnce.served (once : AtMostOnce projector before) {op : BackendOp} {reply : op.Reply}
    (served : (serve glicko).handler before op reply after) : AtMostOnce projector after := by
  rcases served_store served with rfl | ⟨outside, rfl⟩
  · exact once
  · cases repairs : op.repairs with
    | false => exact once.step (effect_ledgerStep outside before repairs)
    | true =>
        cases op with
        | repairRankedChunk ids => exact once.repairRanked ids
        | repairCasualChunk ids => exact once.repairCasual ids
        | _ => cases repairs

/-! ### The truth of a ledger -/

/-- The ledger holds the matches that are in each table of the projector exactly once. -/
def Truth (projector : Projector) (store : Store Rating) : Prop :=
  ∀ matchId, matchId ∈ store.claimed projector.ledger ↔
    ∀ table ∈ projector.tables, (store.added table).count matchId = 1

theorem Truth.congr (truth : Truth projector before) (same : SameLedgers before after) : Truth projector after := by
  intro matchId
  rw [same.1, same.2]
  exact truth matchId

theorem Truth.book (writer : Projector) {ids : List Int} (truth : Truth projector before)
    (once : AtMostOnce projector before) (fresh : Fresh before writer.ledger ids) :
    Truth projector (before.book writer ids) := by
  intro matchId
  have old := truth matchId
  by_cases same : projector = writer
  · subst same
    rw [book_claimed, if_pos rfl, List.mem_append]
    by_cases member : matchId ∈ ids
    · refine ⟨fun _ table here => ?_, fun _ => Or.inr member⟩
      have none := once matchId table here
      simp only [fresh.2 matchId member, if_false, Nat.le_zero] at none
      rw [book_count fresh here, none, if_pos member]
    · rw [or_iff_left member, old]
      apply forall₂_congr
      intro table here
      rw [book_count fresh here, if_neg member, Nat.add_zero]
  · obtain ⟨claimed, added⟩ := book_other same before ids
    rw [claimed, old]
    apply forall₂_congr
    intro table here
    rw [added table here]

theorem Truth.count (truth : Truth projector before) (matchId : Int) :
    Truth projector (addRankedCounts before matchId) := by
  intro other
  obtain ⟨claimed, added⟩ := addRankedCounts_apart before matchId
  rw [claimed, truth other]
  apply forall₂_congr
  intro table here
  rw [added table here]

theorem Truth.step {op : BackendOp} (truth : Truth projector before) (once : AtMostOnce projector before)
    (step : LedgerStep op before after) : Truth projector after := by
  cases step with
  | none same => exact truth.congr same
  | book writer allowed requested same => exact (truth.book writer once (unclaimed_fresh _ _ _ _)).congr same
  | count matchId _ _ same => exact (truth.count matchId).congr same

/-- A match that is claimed without being added gives the ledger the lie. -/
theorem not_truth_of_claimed {matchId : Int} (once : AtMostOnce projector before)
    (unclaimed : matchId ∉ before.claimed projector.ledger) (claimed : matchId ∈ after.claimed projector.ledger)
    {table : Aggregate} (here : table ∈ projector.tables) (same : after.added table = before.added table) :
    ¬Truth projector after := by
  intro truth
  have none := once matchId table here
  have one := (truth matchId).mp claimed table here
  simp only [unclaimed, if_false] at none
  rw [same] at one
  omega

/-! ### Runs -/

/-- Both ledgers that a repair writes tell the truth. -/
def TellsTruth (store : Store Rating) : Prop :=
  Truth .scalable store ∧ Truth .casualPerformance store

/-- A repair that is carried out on a match which is not in the ledger yet. -/
def ClaimsAhead (turn : BackendTurn Rating BackendOutcome) : Prop :=
  turn.after ≠ turn.before ∧
    ∃ ids, (turn.op = .repairRankedChunk ids ∧
        ∃ id ∈ ids, id ∉ turn.before.claimed .statsProjectionMatches) ∨
      (turn.op = .repairCasualChunk ids ∧
        ∃ id ∈ ids, id ∉ turn.before.claimed .casualPerformanceProjectionMatches)

theorem ClaimsAhead.repairs {turn : BackendTurn Rating BackendOutcome} (claims : ClaimsAhead turn) :
    turn.op.repairs = true := by
  obtain ⟨-, ids, ⟨op, -⟩ | ⟨op, -⟩⟩ := claims
  · rw [op]
    rfl
  · rw [op]
    rfl

theorem mem_ahead {ledger : Ledger} {ids : List Int} {id : Int} (member : id ∈ ids)
    (unclaimed : id ∉ before.claimed ledger) : id ∈ ahead before ledger ids := by
  simp [ahead, Store.unclaimed, member, unclaimed]

theorem repairRanked_lies {ids : List Int} {id : Int} (once : AtMostOnce .scalable before) (member : id ∈ ids)
    (unclaimed : id ∉ before.claimed .statsProjectionMatches) :
    ¬Truth .scalable (repairRankedChunk before ids).2 := by
  have claims := mem_ahead member unclaimed
  have claimed : ∀ booked, id ∈ ((before.claim .statsProjectionMatches
      (ahead before .statsProjectionMatches ids)).book .performance booked).claimed .statsProjectionMatches := by
    intro booked
    rw [book_claimed, if_neg (by simp [Projector.ledger])]
    simp [Store.claim, claims]
  rw [repairRankedChunk_eq, if_neg (List.ne_nil_of_mem claims)]
  exact not_truth_of_claimed once unclaimed (claimed _)
    (show .statsMatchAggregate ∈ Projector.scalable.tables by decide) rfl

theorem repairCasual_lies {ids : List Int} {id : Int} (once : AtMostOnce .casualPerformance before)
    (member : id ∈ ids) (unclaimed : id ∉ before.claimed .casualPerformanceProjectionMatches) :
    ¬Truth .casualPerformance (repairCasualChunk before ids).2 := by
  have claims := mem_ahead member unclaimed
  rw [repairCasualChunk_eq, if_neg (List.ne_nil_of_mem claims)]
  exact not_truth_of_claimed once unclaimed (by simp [Projector.ledger, Store.claim, claims])
    (show .casualPerformanceMetricHistogram ∈ Projector.casualPerformance.tables by decide) rfl

/-- From a truthful state, a step leads to one exactly if it claims nothing ahead. -/
theorem tellsTruth_step {turn : BackendTurn Rating BackendOutcome}
    (once : AtMostOnce .scalable turn.before ∧ AtMostOnce .casualPerformance turn.before)
    (served : (serve glicko).handler turn.before turn.op turn.reply turn.after)
    (truth : TellsTruth turn.before) : TellsTruth turn.after ↔ ¬ClaimsAhead turn := by
  rcases served_store served with unchanged | ⟨outside, after⟩
  · rw [unchanged]
    exact iff_of_true truth fun claims => claims.1 unchanged
  · cases repairs : turn.op.repairs with
    | false =>
        have step : LedgerStep turn.op turn.before turn.after := by
          rw [after]
          exact effect_ledgerStep outside turn.before repairs
        refine iff_of_true ⟨truth.1.step once.1 step, truth.2.step once.2 step⟩ ?_
        intro claims
        rw [claims.repairs] at repairs
        cases repairs
    | true =>
        constructor
        · rintro later ⟨-, ids, ⟨op, id, member, unclaimed⟩ | ⟨op, id, member, unclaimed⟩⟩
          · rw [after, op] at later
            exact repairRanked_lies once.1 member unclaimed later.1
          · rw [after, op] at later
            exact repairCasual_lies once.2 member unclaimed later.2
        · intro honest
          by_contra lie
          have moved : turn.after ≠ turn.before := fun same => lie (same ▸ truth)
          apply honest
          obtain ⟨⟨before, op, reply, later⟩, task, programs⟩ := turn
          dsimp only at moved repairs after
          cases op with
          | repairRankedChunk ids =>
              refine ⟨moved, ids, Or.inl ⟨rfl, ?_⟩⟩
              by_contra none
              apply moved
              rw [after]
              change (repairRankedChunk before ids).2 = before
              rw [repairRankedChunk_eq, if_pos (ahead_eq_nil.mpr (by simpa using none))]
          | repairCasualChunk ids =>
              refine ⟨moved, ids, Or.inr ⟨rfl, ?_⟩⟩
              by_contra none
              apply moved
              rw [after]
              change (repairCasualChunk before ids).2 = before
              rw [repairCasualChunk_eq, if_pos (ahead_eq_nil.mpr (by simpa using none))]
          | _ => cases repairs

/-- In every run from truthful ledgers, they tell the truth in every state exactly if
no repair that is carried out finds a match of its page unclaimed. -/
theorem ledgers_tell_the_truth_iff {start : Store Rating} {history : List (BackendTurn Rating BackendOutcome)}
    {state : State (Store Rating) BackendOp BackendOp.Reply BackendOutcome}
    (once : AtMostOnce .scalable start ∧ AtMostOnce .casualPerformance start) (truth : TellsTruth start)
    (run : BackendRun glicko start history state) :
    ((∀ turn ∈ history, TellsTruth turn.before) ∧ TellsTruth state.shared) ↔
      ∀ turn ∈ history, ¬ClaimsAhead turn :=
  run_good_iff TellsTruth (fun store => AtMostOnce .scalable store ∧ AtMostOnce .casualPerformance store)
    (fun turn => ¬ClaimsAhead turn)
    (fun _ _ _ _ once served => ⟨once.1.served served, once.2.served served⟩) run
    (fun _ _ once served truth => tellsTruth_step once served truth) once truth

/-! ### Two runs -/

/-- A complete ranked match that no projector has seen. -/
def completeUnprojected : Store Int where
  matchRows := [⟨7, 100, rankedQueueId, some true, false, some 1⟩]
  ingest := fun id => if id = 7 then
      some { status := .complete, population := .ranked, acquisitionState := .complete }
    else none

theorem completeUnprojected_truth :
    (AtMostOnce .scalable completeUnprojected ∧ AtMostOnce .casualPerformance completeUnprojected) ∧
      TellsTruth completeUnprojected := by
  refine ⟨⟨fun _ _ _ => Nat.zero_le _, fun _ _ _ => Nat.zero_le _⟩, fun matchId => ?_, fun matchId => ?_⟩
  · refine iff_of_false (by simp [completeUnprojected]) fun once => ?_
    cases once .statsMatchAggregate (by decide)
  · refine iff_of_false (by simp [completeUnprojected]) fun once => ?_
    cases once .casualPerformanceMetricHistogram (by decide)

/-- The batch of the pipeline claims the match and adds it. -/
theorem ledgers_after_a_batch :
    ∃ history state, BackendRun pointGlicko completeUnprojected history state ∧
      7 ∈ state.shared.claimed .statsProjectionMatches ∧ TellsTruth state.shared := by
  have passed : (replay (serve pointGlicko) callCode ⟨completeUnprojected, []⟩
      [.enter (.projectBatch [7] .scalable), .turn 0 {}]).any
      (fun reached => reached.1.all (fun turn => !turn.op.repairs) &&
        (reached.2.shared.claimed .statsProjectionMatches).contains 7) = true := by decide +kernel
  obtain ⟨history, state, run, tested⟩ := replay_reaches passed
  simp only [Bool.and_eq_true, List.all_eq_true, Bool.not_eq_true', List.contains_eq_mem, decide_eq_true_eq]
    at tested
  obtain ⟨once, truth⟩ := completeUnprojected_truth
  have honest : ∀ turn ∈ history, ¬ClaimsAhead turn := by
    intro turn member claims
    have ordinary := tested.1 turn member
    rw [claims.repairs] at ordinary
    cases ordinary
  exact ⟨history, state, run, tested.2, ((ledgers_tell_the_truth_iff once truth run).mpr honest).2⟩

/-- The repair claims the match, and leaves it out of all aggregates for good. -/
theorem repaired_match_is_never_added :
    ¬∀ (start : Store Int) history state,
      AtMostOnce .scalable start ∧ AtMostOnce .casualPerformance start → TellsTruth start →
      BackendRun pointGlicko start history state → TellsTruth state.shared := by
  intro kept
  have passed : (replay (serve pointGlicko) callCode ⟨completeUnprojected, []⟩
      [.enter (.repairRankedChunk [7]), .turn 0 {}]).any
      (fun reached => (reached.2.shared.claimed .statsProjectionMatches).contains 7 &&
        (reached.2.shared.added .statsMatchAggregate).isEmpty) = true := by decide +kernel
  obtain ⟨history, state, run, tested⟩ := replay_reaches passed
  simp only [Bool.and_eq_true, List.contains_eq_mem, decide_eq_true_eq, List.isEmpty_iff] at tested
  obtain ⟨once, truth⟩ := completeUnprojected_truth
  have later := kept completeUnprojected history state once truth run
  have counted := (later.1 7).mp tested.1 .statsMatchAggregate (by decide)
  rw [tested.2] at counted
  cases counted

end PaladinsCat.Backend
