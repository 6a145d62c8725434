import PaladinsCat.BackendFootprints

/-!
Each match is rated once. The transaction of `apply_match` looks for snapshots of
the match before it writes the ratings, the counters and the snapshots together, so
between two truncations the counters are in step with the snapshots, whatever else
runs, and however often a match is applied.
-/

namespace PaladinsCat.Backend

open Interleaving

variable {Rating : Type} {glicko : Glicko Rating}

/-! ### The changes of a match -/

theorem changeOf_names {matchId : Int} {players : List (Player Rating)} {current : Player Rating}
    {change : Change Rating} (made : changeOf glicko matchId players current = .ok change) :
    change.playerId = current.playerId ∧ change.matchId = matchId := by
  simp only [changeOf, bind, Except.bind, pure, Except.pure] at made
  split at made
  · cases made
  · split at made
    · cases made
    · cases made
      exact ⟨rfl, rfl⟩

/-- Either no changes, or one more for each player that was left. -/
theorem changesFor_names {matchId : Int} {players rest : List (Player Rating)}
    {before changes : List (Change Rating)}
    (made : changesFor glicko matchId players before rest = .ok changes)
    (named : ∀ change ∈ before, change.matchId = matchId) :
    (∀ change ∈ changes, change.matchId = matchId) ∧
      (changes = [] ∨ changes.map Change.playerId = before.map Change.playerId ++ rest.map Player.playerId) := by
  induction rest generalizing before with
  | nil =>
      obtain rfl : before = changes := by simpa [changesFor] using made
      exact ⟨named, Or.inr (by simp)⟩
  | cons current rest ih =>
      simp only [changesFor] at made
      split at made
      · obtain rfl : [] = changes := by simpa using made
        exact ⟨by simp, Or.inl rfl⟩
      · split at made
        · cases made
        · rename_i change single
          obtain ⟨player, ofMatch⟩ := changeOf_names single
          have extended : ∀ change' ∈ before ++ [change], change'.matchId = matchId := by
            intro change' member
            rcases List.mem_append.mp member with old | new
            · exact named change' old
            · rw [List.mem_singleton.mp new, ofMatch]
          obtain ⟨all, empty | players⟩ := ih made extended
          · exact ⟨all, Or.inl empty⟩
          · exact ⟨all, Or.inr (by simp [players, player])⟩

theorem validRoster_nodup {players : List (Player Rating)} (valid : validRoster players = true) :
    (players.map Player.playerId).Nodup := by
  cases players with
  | nil => simp [validRoster] at valid
  | cons first rest =>
      simp only [validRoster, Bool.and_eq_true, decide_eq_true_eq] at valid
      exact valid.1.1.1.1.1.1.2

theorem calculateChanges_names {store : Store Rating} {matchId : Int} {changes : List (Change Rating)}
    (made : calculateChanges glicko store matchId = .ok changes) :
    (∀ change ∈ changes, change.matchId = matchId) ∧ (changes.map Change.playerId).Nodup := by
  simp only [calculateChanges, bind, Except.bind, pure, Except.pure] at made
  split at made
  · obtain rfl : [] = changes := by simpa using made
    simp
  · split at made
    · cases made
    · rename_i players _
      split at made
      · rename_i valid
        obtain ⟨named, empty | same⟩ := changesFor_names made (by simp)
        · exact ⟨named, by simp [empty]⟩
        · refine ⟨named, ?_⟩
          rw [same]
          simpa using validRoster_nodup valid
      · obtain rfl : [] = changes := by simpa using made
        simp

/-- The changes are read off the facts, the rows of the lifecycle and the ratings. -/
theorem calculateChanges_congr {left right : Store Rating} (matchId : Int)
    (facts : right.matchRows = left.matchRows ∧ right.matchPlayers = left.matchPlayers)
    (rows : right.ingest = left.ingest)
    (ratings : right.queueRatings = left.queueRatings ∧ right.championRatings = left.championRatings) :
    calculateChanges glicko right matchId = calculateChanges glicko left matchId := by
  have players : ∀ rated, collectPlayers glicko right rated = collectPlayers glicko left rated := by
    intro rated
    induction rated with
    | nil => rfl
    | cons row rest ih => simp only [collectPlayers, player, playersOf, facts, ratings, ih]
  have rated : ratedRows right matchId = ratedRows left matchId := by
    have sameRows : playersOf right = playersOf left := by
      funext row
      simp only [playersOf, facts]
    have sameMatches : rateableMatch right = rateableMatch left := by
      funext row
      simp only [rateableMatch, rows]
    unfold ratedRows
    rw [facts.1, sameRows, sameMatches]
  unfold calculateChanges
  rw [rated]
  simp only [players]

theorem calculateChanges_late (store : Store Rating) (late matchId : Int) :
    calculateChanges glicko (recordLateArrival store late) matchId = calculateChanges glicko store matchId := by
  obtain ⟨arrivals, same⟩ := recordLateArrival_eq store late
  rw [same]
  exact calculateChanges_congr matchId ⟨rfl, rfl⟩ rfl ⟨rfl, rfl⟩

/-! ### What a transaction does to the ratings -/

/-- The snapshots and the counters, as far as this development follows them. -/
def SameRatings (before after : Store Rating) : Prop :=
  after.snapshots = before.snapshots ∧ after.championRatings = before.championRatings

theorem SameRatings.trans {first second third : Store Rating} (one : SameRatings first second)
    (two : SameRatings second third) : SameRatings first third :=
  ⟨two.1.trans one.1, two.2.trans one.2⟩

theorem updateIngest_ratings (store : Store Rating) (matchId : Int) (change : IngestRow → Option IngestRow) :
    SameRatings store (store.updateIngest matchId change) := by
  rw [Store.updateIngest_eq]
  exact ⟨rfl, rfl⟩

theorem advanceCursors_ratings (store : Store Rating) (matchId queueId : Int) (playerIds : List Int) :
    SameRatings store (advanceCursors store matchId queueId playerIds) := by
  unfold advanceCursors
  split <;> exact ⟨rfl, rfl⟩

theorem recordLateArrival_ratings (store : Store Rating) (matchId : Int) :
    SameRatings store (recordLateArrival store matchId) := by
  obtain ⟨late, same⟩ := recordLateArrival_eq store matchId
  rw [same]
  exact ⟨rfl, rfl⟩

theorem queueRebuild_ratings (store : Store Rating) (matchId : Int) (reason : String) :
    SameRatings store (queueRebuild store matchId reason) := by
  obtain ⟨request, same, -⟩ := queueRebuild_eq store matchId reason
  rw [same]
  exact ⟨rfl, rfl⟩

/-- A transaction that rates a match has found changes for it and no snapshots. -/
theorem applyUnlocked_applied {store : Store Rating} {matchId : Int}
    (rated : (applyUnlocked glicko store matchId).1 = .applied) :
    ∃ changes, calculateChanges glicko store matchId = .ok changes ∧ changes ≠ [] ∧
      (∀ snapshot ∈ store.snapshots, snapshot.matchId ≠ matchId) ∧
      SameRatings (changes.foldl writeChange store) (applyUnlocked glicko store matchId).2 := by
  rcases applyUnlocked_cases glicko store matchId with
    ⟨_, _, same⟩ | ⟨_, _, _, same⟩ | ⟨changes, _, calculated, nonempty, fresh, same⟩
  · simp [same] at rated
  · simp [same] at rated
  · rw [same]
    exact ⟨changes, calculated, nonempty, fresh,
      (advanceCursors_ratings _ _ _ _).trans (updateIngest_ratings _ _ _)⟩

theorem applyUnlocked_other {store : Store Rating} {matchId : Int}
    (unrated : (applyUnlocked glicko store matchId).1 ≠ .applied) :
    SameRatings store (applyUnlocked glicko store matchId).2 := by
  rcases applyUnlocked_cases glicko store matchId with
    ⟨_, _, same⟩ | ⟨_, _, _, same⟩ | ⟨_, _, _, _, _, same⟩
  · rw [same]
    exact queueRebuild_ratings _ _ _
  · rw [same]
    exact updateIngest_ratings _ _ _
  · simp [same] at unrated

/-- No other group of transactions writes the snapshots or the counters. -/
theorem effect_sameRatings (outside : Outside) (store : Store Rating) {op : BackendOp}
    (group : op.footprint ≠ .ratings) : SameRatings store (effect glicko outside store op).2 := by
  cases footprint : op.footprint with
  | reads =>
      rw [effect_reads glicko outside store footprint]
      exact ⟨rfl, rfl⟩
  | ratings => exact absurd footprint group
  | projections =>
      obtain ⟨_, _, _, same⟩ := effect_projections glicko outside store footprint
      rw [same]
      exact ⟨rfl, rfl⟩
  | lifecycle =>
      obtain ⟨_, _, _, _, _, _, same⟩ := effect_lifecycle glicko outside store footprint
      rw [same]
      exact ⟨rfl, rfl⟩

/-! ### Applications and truncations in a run -/

/-- The turn has rated the match: its transaction took place and returned `Applied`. -/
def AppliedBy (glicko : Glicko Rating) (matchId : Int) (turn : BackendTurn Rating BackendOutcome) : Prop :=
  ∃ rebuilding, turn.op = .applyMatch matchId rebuilding ∧
    (applyMatch glicko true turn.before matchId rebuilding).1 = .applied ∧
    turn.after = (applyMatch glicko true turn.before matchId rebuilding).2

/-- The turn has emptied the rating tables. -/
def TruncatedBy (turn : BackendTurn Rating BackendOutcome) : Prop :=
  turn.op = .truncateRatings ∧ turn.after = truncateRatings turn.before

open Classical in
/-- The turns since the last `TRUNCATE`. -/
noncomputable def sinceTruncate (history : List (BackendTurn Rating BackendOutcome)) :
    List (BackendTurn Rating BackendOutcome) :=
  history.rtakeWhile fun turn => ¬TruncatedBy turn

open Classical in
/-- The turns since the last `TRUNCATE` that have rated the match. -/
noncomputable def applications (glicko : Glicko Rating) (history : List (BackendTurn Rating BackendOutcome))
    (matchId : Int) : List (BackendTurn Rating BackendOutcome) :=
  (sinceTruncate history).filter fun turn => AppliedBy glicko matchId turn

/-- A turn truncates, rates a match, or leaves the ratings as they are. -/
theorem turn_ratings {turn : BackendTurn Rating BackendOutcome}
    (served : (serve glicko).handler turn.before turn.op turn.reply turn.after) :
    TruncatedBy turn ∨ (∃ matchId, AppliedBy glicko matchId turn) ∨ SameRatings turn.before turn.after := by
  rcases served_store served with unchanged | ⟨outside, after⟩
  · rw [unchanged]
    exact Or.inr (Or.inr ⟨rfl, rfl⟩)
  · obtain ⟨⟨before, op, reply, later⟩, task, programs⟩ := turn
    simp only at after
    subst after
    cases op with
    | truncateRatings => exact Or.inl ⟨rfl, rfl⟩
    | applyMatch matchId rebuilding =>
        by_cases rated : (applyMatch glicko outside.locked before matchId rebuilding).1 = .applied
        · have locked : outside.locked = true := by
            by_contra busy
            simp [applyMatch, eq_false_of_ne_true busy] at rated
          rw [locked] at rated
          refine Or.inr (Or.inl ⟨matchId, rebuilding, rfl, rated, ?_⟩)
          simp only [effect, locked]
        · refine Or.inr (Or.inr ?_)
          simp only [effect]
          unfold applyMatch at rated ⊢
          split_ifs at rated ⊢
          · exact ⟨rfl, rfl⟩
          · exact ⟨rfl, rfl⟩
          · exact applyUnlocked_other rated
          · exact (recordLateArrival_ratings _ _).trans (applyUnlocked_other rated)
    | queueRebuild matchId reason => exact Or.inr (Or.inr (queueRebuild_ratings before matchId reason))
    | deleteRebuildRequests => exact Or.inr (Or.inr ⟨rfl, rfl⟩)
    | _ => exact Or.inr (Or.inr (effect_sameRatings outside before (by simp [BackendOp.footprint])))

theorem AppliedBy.not_truncated {matchId : Int} {turn : BackendTurn Rating BackendOutcome}
    (applied : AppliedBy glicko matchId turn) : ¬TruncatedBy turn := by
  rintro ⟨truncate, _⟩
  obtain ⟨_, apply, _⟩ := applied
  rw [apply] at truncate
  cases truncate

theorem AppliedBy.unique {first second : Int} {turn : BackendTurn Rating BackendOutcome}
    (one : AppliedBy glicko first turn) (two : AppliedBy glicko second turn) : first = second := by
  obtain ⟨_, here, _⟩ := one
  obtain ⟨_, there, _⟩ := two
  rw [here] at there
  cases there
  rfl

/-- The changes that an application is about to write. -/
def changesOf (glicko : Glicko Rating) (store : Store Rating) (matchId : Int) : List (Change Rating) :=
  ((calculateChanges glicko store matchId).toOption).getD []

theorem changesOf_names (glicko : Glicko Rating) (store : Store Rating) (matchId : Int) :
    (∀ change ∈ changesOf glicko store matchId, change.matchId = matchId) ∧
      ((changesOf glicko store matchId).map Change.playerId).Nodup := by
  unfold changesOf
  cases calculated : calculateChanges glicko store matchId with
  | error reason => simp [Except.toOption]
  | ok changes => exact calculateChanges_names calculated

theorem AppliedBy.written {matchId : Int} {turn : BackendTurn Rating BackendOutcome}
    (applied : AppliedBy glicko matchId turn) :
    changesOf glicko turn.before matchId ≠ [] ∧
      (∀ snapshot ∈ turn.before.snapshots, snapshot.matchId ≠ matchId) ∧
      ∃ late, SameRatings turn.before late ∧
        SameRatings ((changesOf glicko turn.before matchId).foldl writeChange late) turn.after := by
  obtain ⟨rebuilding, -, rated, after⟩ := applied
  have unlocked : ∃ late, SameRatings turn.before late ∧
      calculateChanges glicko late matchId = calculateChanges glicko turn.before matchId ∧
      applyMatch glicko true turn.before matchId rebuilding = applyUnlocked glicko late matchId := by
    cases rebuilding with
    | true => exact ⟨turn.before, ⟨rfl, rfl⟩, rfl, by simp [applyMatch, shouldDeferIncremental]⟩
    | false =>
        refine ⟨_, recordLateArrival_ratings _ matchId, calculateChanges_late _ matchId matchId, ?_⟩
        by_cases pending : turn.before.rebuildRequest.isSome
        · simp [applyMatch, shouldDeferIncremental, pending] at rated
        · simp [applyMatch, shouldDeferIncremental, pending]
  obtain ⟨late, same, calculated, unlocked⟩ := unlocked
  rw [unlocked] at rated after
  obtain ⟨changes, made, nonempty, fresh, written⟩ := applyUnlocked_applied rated
  have changesAre : changesOf glicko turn.before matchId = changes := by
    rw [changesOf, ← calculated, made]
    rfl
  rw [changesAre, ← same.1, after]
  exact ⟨nonempty, fresh, late, same, written⟩

/-! ### Counters -/

def ratedFor (store : Store Rating) (playerId championId : Int) : Nat :=
  store.snapshots.countP fun snapshot => snapshot.playerId == playerId && snapshot.championId == championId

/-- The counters of a player and a champion are in step with the snapshots. -/
def Tallied (store : Store Rating) : Prop :=
  ∀ playerId championId,
    match store.championRatings playerId championId with
    | none => ratedFor store playerId championId = 0
    | some row => row.matchesPlayed = row.wins + row.losses ∧
        row.matchesPlayed = ratedFor store playerId championId

theorem Tallied.congr {before after : Store Rating} (same : SameRatings before after) (tallied : Tallied before) :
    Tallied after := by
  intro playerId championId
  have here := tallied playerId championId
  simpa only [ratedFor, same.1, same.2] using here

theorem writeChange_tallied {store : Store Rating} (change : Change Rating) (tallied : Tallied store) :
    Tallied (writeChange store change) := by
  intro playerId championId
  have here := tallied playerId championId
  by_cases player : playerId = change.playerId
  · by_cases champion : championId = change.championId
    · subst player champion
      have one : ratedFor (writeChange store change) change.playerId change.championId =
          ratedFor store change.playerId change.championId + 1 := by
        simp [ratedFor, writeChange, Change.snapshot]
      rw [one]
      simp only [writeChange, Function.update_self, ChampionRating.count]
      cases stored : store.championRatings change.playerId change.championId with
      | none =>
          simp only [stored] at here
          cases change.isWinner <;> simp [here]
      | some row =>
          simp only [stored] at here
          cases change.isWinner <;> simp <;> omega
    · have other : ratedFor (writeChange store change) playerId championId =
          ratedFor store playerId championId := by
        simp [ratedFor, writeChange, Change.snapshot, Ne.symm champion]
      rw [other]
      simpa [writeChange, player, champion] using here
  · have other : ratedFor (writeChange store change) playerId championId =
        ratedFor store playerId championId := by
      simp [ratedFor, writeChange, Change.snapshot, Ne.symm player]
    rw [other]
    simpa [writeChange, player] using here

theorem writeChanges_tallied {store : Store Rating} (changes : List (Change Rating)) (tallied : Tallied store) :
    Tallied (changes.foldl writeChange store) := by
  induction changes generalizing store with
  | nil => exact tallied
  | cons change rest ih => exact ih (writeChange_tallied change tallied)

theorem writeChanges_snapshots (store : Store Rating) (changes : List (Change Rating)) :
    (changes.foldl writeChange store).snapshots = store.snapshots ++ changes.map Change.snapshot := by
  induction changes generalizing store with
  | nil => simp
  | cons change rest ih =>
      rw [List.foldl_cons, ih]
      simp [writeChange]

/-! ### Runs -/

def snapshotsOf (store : Store Rating) (matchId : Int) : List (Snapshot Rating) :=
  store.snapshots.filter (·.matchId == matchId)

theorem applications_truncated {history : List (BackendTurn Rating BackendOutcome)}
    {turn : BackendTurn Rating BackendOutcome} (truncated : TruncatedBy turn) (matchId : Int) :
    applications glicko (history ++ [turn]) matchId = [] := by
  simp [applications, sinceTruncate, truncated]

theorem applications_other {history : List (BackendTurn Rating BackendOutcome)}
    {turn : BackendTurn Rating BackendOutcome} {matchId : Int} (kept : ¬TruncatedBy turn)
    (unrated : ¬AppliedBy glicko matchId turn) :
    applications glicko (history ++ [turn]) matchId = applications glicko history matchId := by
  simp [applications, sinceTruncate, kept, unrated]

theorem applications_applied {history : List (BackendTurn Rating BackendOutcome)}
    {turn : BackendTurn Rating BackendOutcome} {matchId : Int} (applied : AppliedBy glicko matchId turn) :
    applications glicko (history ++ [turn]) matchId = applications glicko history matchId ++ [turn] := by
  simp [applications, sinceTruncate, applied.not_truncated, applied]

theorem mem_applications {history : List (BackendTurn Rating BackendOutcome)}
    {turn : BackendTurn Rating BackendOutcome} {matchId : Int}
    (member : turn ∈ applications glicko history matchId) : AppliedBy glicko matchId turn := by
  simpa using (List.mem_filter.mp member).2

/-- The snapshots of a match are those of its application since the last truncation. -/
structure RatedOnce (glicko : Glicko Rating) (history : List (BackendTurn Rating BackendOutcome))
    (store : Store Rating) : Prop where
  once : ∀ matchId, (applications glicko history matchId).length ≤ 1
  recorded : ∀ matchId, snapshotsOf store matchId = (applications glicko history matchId).flatMap
    fun turn => (changesOf glicko turn.before matchId).map Change.snapshot
  tallied : Tallied store

variable {history : List (BackendTurn Rating BackendOutcome)} {turn : BackendTurn Rating BackendOutcome}

theorem RatedOnce.truncated (truncated : TruncatedBy turn) : RatedOnce glicko (history ++ [turn]) turn.after where
  once matchId := by simp [applications_truncated truncated]
  recorded matchId := by simp [applications_truncated truncated, snapshotsOf, truncated.2, truncateRatings]
  tallied := by
    rw [truncated.2]
    intro playerId championId
    simp [truncateRatings, ratedFor]

theorem RatedOnce.same (before : RatedOnce glicko history turn.before) (kept : ¬TruncatedBy turn)
    (unrated : ∀ matchId, ¬AppliedBy glicko matchId turn) (same : SameRatings turn.before turn.after) :
    RatedOnce glicko (history ++ [turn]) turn.after where
  once matchId := by
    rw [applications_other kept (unrated matchId)]
    exact before.once matchId
  recorded matchId := by
    rw [applications_other kept (unrated matchId), ← before.recorded matchId]
    simp only [snapshotsOf, same.1]
  tallied := before.tallied.congr same

/-- A match that is applied has not been applied since the last truncation: its
application would have left snapshots. -/
theorem RatedOnce.unapplied {matchId : Int} (before : RatedOnce glicko history turn.before)
    (applied : AppliedBy glicko matchId turn) : applications glicko history matchId = [] := by
  obtain ⟨-, fresh, -⟩ := applied.written
  have none : snapshotsOf turn.before matchId = [] := by
    simpa [snapshotsOf] using fresh
  rw [before.recorded matchId, List.flatMap_eq_nil_iff] at none
  apply List.eq_nil_iff_forall_not_mem.mpr
  intro earlier member
  have changes := (mem_applications member).written.1
  exact changes (by simpa using none earlier member)

theorem RatedOnce.applied {matchId : Int} (before : RatedOnce glicko history turn.before)
    (applied : AppliedBy glicko matchId turn) : RatedOnce glicko (history ++ [turn]) turn.after := by
  have unapplied := before.unapplied applied
  obtain ⟨-, fresh, late, same, written⟩ := applied.written
  have snapshots : turn.after.snapshots =
      turn.before.snapshots ++ (changesOf glicko turn.before matchId).map Change.snapshot := by
    rw [written.1, writeChanges_snapshots, same.1]
  have named := (changesOf_names glicko turn.before matchId).1
  constructor
  · intro other
    by_cases here : other = matchId
    · rw [here, applications_applied applied, unapplied]
      simp
    · rw [applications_other applied.not_truncated fun also => here (also.unique applied)]
      exact before.once other
  · intro other
    by_cases here : other = matchId
    · subst here
      have all : ∀ snapshot ∈ (changesOf glicko turn.before other).map Change.snapshot,
          (snapshot.matchId == other) = true := by
        simpa [Change.snapshot] using named
      rw [applications_applied applied, unapplied, snapshotsOf, snapshots, List.filter_append,
        List.filter_eq_self.mpr all, List.filter_eq_nil_iff.mpr (by simpa using fresh)]
      simp
    · have none : ∀ snapshot ∈ (changesOf glicko turn.before matchId).map Change.snapshot,
          ¬(snapshot.matchId == other) = true := by
        simp only [List.mem_map, forall_exists_index, and_imp, forall_apply_eq_imp_iff₂]
        intro change member
        simp [Change.snapshot, named change member, Ne.symm here]
      rw [applications_other applied.not_truncated fun also => here (also.unique applied),
        ← before.recorded other, snapshotsOf, snapshots, List.filter_append, List.filter_eq_nil_iff.mpr none]
      simp [snapshotsOf]
  · exact (writeChanges_tallied _ (before.tallied.congr same)).congr written

theorem RatedOnce.step (before : RatedOnce glicko history turn.before)
    (served : (serve glicko).handler turn.before turn.op turn.reply turn.after) :
    RatedOnce glicko (history ++ [turn]) turn.after := by
  by_cases truncated : TruncatedBy turn
  · exact RatedOnce.truncated truncated
  · by_cases applied : ∃ matchId, AppliedBy glicko matchId turn
    · obtain ⟨matchId, applied⟩ := applied
      exact before.applied applied
    · obtain here | here | same := turn_ratings served
      · exact absurd here truncated
      · exact absurd here applied
      · exact before.same truncated (not_exists.mp applied) same

/-- In every run from empty rating tables, whatever is called and however the
transactions interleave, fail or repeat: since the last `TRUNCATE` each match has
been applied at most once, its snapshots are those of the changes then calculated,
one for each changed player, and the counters of each player and champion agree
with the snapshots. -/
theorem matches_rated_once_since_truncate {start : Store Rating}
    {state : State (Store Rating) BackendOp BackendOp.Reply BackendOutcome}
    (fresh : start.snapshots = [] ∧ start.championRatings = fun _ _ => none)
    (run : BackendRun glicko start history state) :
    (∀ matchId, (applications glicko history matchId).length ≤ 1 ∧
      snapshotsOf state.shared matchId = ((applications glicko history matchId).flatMap
        fun turn => (changesOf glicko turn.before matchId).map Change.snapshot) ∧
      ((snapshotsOf state.shared matchId).map Snapshot.playerId).Nodup) ∧
    Tallied state.shared := by
  have once : RatedOnce glicko history state.shared := by
    apply run_history (RatedOnce glicko) (fun _ _ before served => before.step served) run
    constructor
    · intro matchId
      simp [applications, sinceTruncate]
    · intro matchId
      simp [applications, sinceTruncate, snapshotsOf, fresh.1]
    · intro playerId championId
      simp [fresh.1, fresh.2, ratedFor]
  refine ⟨fun matchId => ⟨once.once matchId, once.recorded matchId, ?_⟩, once.tallied⟩
  have single := once.once matchId
  rw [once.recorded matchId]
  cases found : applications glicko history matchId with
  | nil => simp
  | cons turn rest =>
      obtain rfl : rest = [] := by simpa [found] using single
      have players := (changesOf_names glicko turn.before matchId).2
      simpa [Function.comp_def, Change.snapshot] using players

/-! ### A run -/

/-- The match is applied, applied again, and rebuilt from an empty table. -/
theorem rated_again_after_truncate :
    ∃ history state, BackendRun pointGlicko (rankedFacts 7 100) history state ∧
      state.shared.snapshots.length = 10 ∧
      (applications pointGlicko history 7).length ≤ 1 ∧ Tallied state.shared := by
  have passed : (replay (serve pointGlicko) callCode ⟨rankedFacts 7 100, []⟩
      [.enter (.applyMatch 7 false), .turn 0 {}, .enter (.applyMatch 7 false), .turn 1 {}, .enter .reingest,
        .turn 2 {}, .turn 2 {}, .turn 2 {}]).any
      (fun reached => reached.2.shared.snapshots.length == 10) = true := by decide +kernel
  obtain ⟨history, state, run, count⟩ := replay_reaches passed
  obtain ⟨once, tallied⟩ := matches_rated_once_since_truncate ⟨rfl, rfl⟩ run
  exact ⟨history, state, run, by simpa using count, (once 7).1, tallied⟩

end PaladinsCat.Backend
