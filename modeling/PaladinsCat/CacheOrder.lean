import PaladinsCat.CompleteRosters

/-!
The local recovery players come out of a hash map, in no fixed order. Merging,
scoring and sorting do not depend on it, but the bans of a match are those of its
first row, and the local preflight takes them before it sorts. The resumed recovery
and the recovery from histories sort first.
-/

namespace PaladinsCat.Resolver

open Interleaving Program
open Hirez (Value)

/-! ### Sorting -/

theorem compareIds_eq : (fun left right : Value => compareIds (playerId left) (playerId right)) =
    compareLex (compareOn fun player => playerId player == 0) (compareOn playerId) := by
  funext left right
  have shown : ∀ {id : Nat}, 0 < id → (id == 0) = false := by
    intro id positive
    simpa using Nat.ne_of_gt positive
  unfold compareIds compareLex compareOn
  rcases Nat.eq_zero_or_pos (playerId left) with hiddenLeft | shownLeft
  · rcases Nat.eq_zero_or_pos (playerId right) with hiddenRight | shownRight
    · simp [hiddenLeft, hiddenRight]
    · simp only [hiddenLeft, shownRight, shown shownRight]
      rfl
  · rcases Nat.eq_zero_or_pos (playerId right) with hiddenRight | shownRight
    · simp only [hiddenRight, shownLeft, shown shownLeft]
      rfl
    · simp only [shownLeft, shownRight, shown shownLeft, shown shownRight]
      rfl

instance : Std.TransCmp comparePlayers := by
  unfold comparePlayers
  rw [compareIds_eq]
  infer_instance

theorem sortPlayers_pairwise (players : List Value) :
    (sortPlayers players).Pairwise fun left right => (comparePlayers left right).isLE = true := by
  have total : Std.Total fun left right : Value => (comparePlayers left right).isLE = true := by
    constructor
    intro left right
    have swapped : comparePlayers right left = (comparePlayers left right).swap := Std.OrientedCmp.eq_swap
    rw [swapped]
    cases comparePlayers left right <;> simp
  have trans : IsTrans Value fun left right => (comparePlayers left right).isLE = true :=
    ⟨fun _ _ _ => Std.TransCmp.isLE_trans⟩
  exact List.pairwise_insertionSort _ players

theorem comparePlayers_ids {left right : Value} (same : comparePlayers left right = .eq) :
    playerId left = playerId right := by
  unfold comparePlayers at same
  rw [compareIds_eq] at same
  simp only [compareLex, Ordering.then_eq_eq, compareOn] at same
  exact Nat.compare_eq_eq.mp same.2.1.2

/-- Rows with different ids have one sorted order. -/
theorem sortPlayers_of_perm {left right : List Value} (order : left.Perm right)
    (distinct : (left.map playerId).Nodup) : sortPlayers left = sortPlayers right := by
  have both := ((sortPlayers_perm left).trans order).trans (sortPlayers_perm right).symm
  apply both.eq_of_pairwise ?_ (sortPlayers_pairwise left) (sortPlayers_pairwise right)
  intro first second inLeft inRight below above
  have same := comparePlayers_ids (Std.OrientedCmp.isLE_antisymm below above)
  have firstIn : first ∈ left := (sortPlayers_perm left).mem_iff.mp inLeft
  have secondIn : second ∈ left := order.mem_iff.mpr ((sortPlayers_perm right).mem_iff.mp inRight)
  exact List.inj_on_of_nodup_map distinct firstIn secondIn same

/-! ### Scores -/

-- A score that is agreed on was observed, with the one before it, in every row.
theorem agreedScore_some {keys : ScoreKeys} {resolved : Option ResolvedScore} {rows : List Value}
    {score : ResolvedScore} :
    agreedScore keys resolved rows = some score ↔
      (∀ row ∈ rows, observedScore keys row = some score ∧ validCompletedScore score = true) ∧
        (∀ earlier ∈ resolved, earlier = score) ∧ (resolved = none → rows ≠ []) := by
  induction rows generalizing resolved with
  | nil => cases resolved <;> simp [agreedScore]
  | cons row rest ih =>
      simp only [agreedScore]
      cases observed : observedScore keys row with
      | none => simp [observed]
      | some candidate =>
          simp only
          split
          · rename_i refused
            simp only [reduceCtorEq, List.mem_cons, forall_eq_or_imp, observed, Option.some.injEq, false_iff]
            rintro ⟨⟨⟨rfl, valid⟩, _⟩, agrees, _⟩
            simp only [valid, Bool.not_true, Bool.false_or, Option.any_eq_true, bne_iff_ne] at refused
            obtain ⟨earlier, found, apart⟩ := refused
            exact apart (agrees earlier found)
          · rename_i accepted
            simp only [Bool.or_eq_true, Bool.not_eq_eq_eq_not, Bool.not_true, not_or, Bool.not_eq_false,
              Option.any_eq_true, bne_iff_ne, not_exists, not_and, not_not] at accepted
            rw [ih]
            simp only [List.mem_cons, forall_eq_or_imp, observed, Option.some.injEq, Option.mem_def,
              forall_eq', reduceCtorEq, IsEmpty.forall_iff, and_true, ne_eq, not_false_eq_true, implies_true]
            constructor
            · rintro ⟨others, rfl⟩
              exact ⟨⟨⟨rfl, accepted.1⟩, others⟩, accepted.2⟩
            · rintro ⟨⟨⟨rfl, _⟩, others⟩, _⟩
              exact ⟨others, rfl⟩

theorem agreedScore_of_perm {keys : ScoreKeys} {left right : List Value} (order : left.Perm right) :
    agreedScore keys none left = agreedScore keys none right := by
  apply Option.ext
  intro score
  have empty : left = [] ↔ right = [] := by
    rw [← List.length_eq_zero_iff, order.length_eq, List.length_eq_zero_iff]
  simp only [agreedScore_some, order.mem_iff, ne_eq, empty]

theorem resolveObservedScore_of_perm {keys : ScoreKeys} {left right : List Value} (order : left.Perm right) :
    resolveObservedScore keys left = resolveObservedScore keys right := by
  have bearing := order.filter (bearsScore keys)
  simp only [resolveObservedScore, bearing.length_eq, agreedScore_of_perm bearing]

/-! ### Merging -/

/-- Rows of different players, none of them private. -/
structure DistinctPublic (players : List Value) : Prop where
  positive : ∀ player ∈ players, 0 < playerId player
  distinct : (players.map playerId).Nodup

theorem DistinctPublic.perm {left right : List Value} (rows : DistinctPublic left) (order : left.Perm right) :
    DistinctPublic right :=
  ⟨fun player member => rows.positive player (order.mem_iff.mpr member),
    (order.map playerId).nodup_iff.mp rows.distinct⟩

theorem DistinctPublic.filter {players : List Value} (rows : DistinctPublic players) (keep : Value → Bool) :
    DistinctPublic (players.filter keep) :=
  ⟨fun player member => rows.positive player (List.mem_of_mem_filter member),
    rows.distinct.sublist (List.filter_sublist.map playerId)⟩

-- Rows of players that were not seen before are all kept, whatever stands before them.
theorem mergeRows_fresh {target : Nat} {fresh : List Value} (rows : DistinctPublic fresh) (known : List Value)
    {seen : List Nat} (privates : Nat) (unseen : ∀ player ∈ fresh, playerId player ∉ seen)
    (apart : ∀ player ∈ fresh, playerId player ∉ known.map playerId) :
    mergeRows target seen privates (known ++ fresh) = mergeRows target seen privates known ++ fresh := by
  induction known generalizing seen privates with
  | cons row rest ih =>
      have others : ∀ player ∈ fresh, playerId player ∉ rest.map playerId := by
        intro player member listed
        exact apart player member (List.mem_cons_of_mem _ listed)
      simp only [List.cons_append, mergeRows]
      split
      · split
        · exact ih privates unseen others
        · rw [ih privates ?_ others, List.cons_append]
          intro player member listed
          rcases List.mem_cons.mp listed with same | old
          · exact apart player member (by simp [same])
          · exact unseen player member old
      · split
        · rw [ih _ unseen others, List.cons_append]
        · exact ih privates unseen others
  | nil =>
      rw [List.nil_append, mergeRows, List.nil_append]
      induction fresh generalizing seen with
      | nil => rfl
      | cons row rest ih =>
          obtain ⟨new, others⟩ := List.nodup_cons.mp rows.distinct
          rw [mergeRows, if_pos (rows.positive row List.mem_cons_self),
            if_neg (unseen row List.mem_cons_self), ih ⟨?_, others⟩ ?_ (by simp)]
          · exact fun player member => rows.positive player (List.mem_cons_of_mem _ member)
          · intro player member listed
            rcases List.mem_cons.mp listed with same | old
            · exact new (List.mem_map.mpr ⟨player, member, same⟩)
            · exact unseen player (List.mem_cons_of_mem _ member) old

theorem privateCount_public {players : List Value} (rows : DistinctPublic players) :
    privateCount players = 0 := by
  apply List.countP_eq_zero.mpr
  intro player member
  have positive := rows.positive player member
  simp only [beq_iff_eq]
  omega

theorem localMissing_public {direct : Option MatchDetails} {localPlayers : List Value}
    (rows : DistinctPublic localPlayers) : DistinctPublic (localMissing direct localPlayers) :=
  rows.filter _

theorem mergePlayers_missing (direct : Option MatchDetails) {localPlayers : List Value}
    (rows : DistinctPublic localPlayers) :
    mergePlayers (directPlayers direct) (localMissing direct localPlayers) =
      mergePlayers (directPlayers direct) [] ++ localMissing direct localPlayers := by
  have missing : DistinctPublic (localMissing direct localPlayers) := localMissing_public rows
  rw [mergePlayers, mergePlayers, privateCount_public missing, List.append_nil]
  apply mergeRows_fresh missing
  · simp
  · intro player member
    have kept := (List.mem_filter.mp member).2
    simp only [Bool.and_eq_true, Bool.not_eq_true', List.contains_eq_mem, decide_eq_false_iff_not] at kept
    exact kept.2

theorem merged_perm (direct : Option MatchDetails) {left right : List Value} (order : left.Perm right)
    (rows : DistinctPublic left) :
    (mergePlayers (directPlayers direct) (localMissing direct left)).Perm
      (mergePlayers (directPlayers direct) (localMissing direct right)) := by
  rw [mergePlayers_missing direct rows, mergePlayers_missing direct (rows.perm order)]
  exact (order.filter _).append_left _

theorem merged_distinct {direct recovered : List Value} (shown : privateCount direct = 0)
    (rows : DistinctPublic recovered) : DistinctPublic (mergePlayers direct recovered) := by
  have none : privateCount (mergePlayers direct recovered) = 0 := by
    rw [mergePlayers, privateCount_mergeRows, shown, privateCount_public rows]
    omega
  have positive : ∀ player ∈ mergePlayers direct recovered, 0 < playerId player := by
    intro player member
    have nonzero := List.countP_eq_zero.mp none player member
    simp only [beq_iff_eq] at nonzero
    omega
  refine ⟨positive, ?_⟩
  have ids : publicIds (mergePlayers direct recovered) = (mergePlayers direct recovered).map playerId := by
    apply List.filter_eq_self.mpr
    intro id member
    obtain ⟨player, listed, rfl⟩ := List.mem_map.mp member
    simpa using positive player listed
  rw [← ids]
  exact publicIds_mergeRows_nodup _ _ _ _

/-! ### Bans -/

def bansOf (player : Value) : List Nat := banKeys.map (banId player)

theorem foldl_update (keys : List String) (value : String → Value) (extra : String → Option Value)
    (name : String) :
    keys.foldl (fun extra key => Function.update extra key (some (value key))) extra name =
      if name ∈ keys then some (value name) else extra name := by
  induction keys generalizing extra with
  | nil => rfl
  | cons key rest ih =>
      rw [List.foldl_cons, ih]
      by_cases later : name ∈ rest
      · simp [later]
      · by_cases here : name = key
        · simp [here]
        · simp [later, here]

/-- The extra fields with the bans of a row. -/
def withBans (player : Value) (extra : String → Option Value) (name : String) : Option Value :=
  if name ∈ banKeys then some (.integer (banId player name)) else extra name

theorem attachRecoveryBans_eq {details : MatchDetails} {player : Value}
    (first : details.players.head? = some player) :
    attachRecoveryBans details = { details with extra := withBans player details.extra } := by
  simp only [attachRecoveryBans, first]
  congr 1
  funext name
  exact foldl_update banKeys (fun key => .integer (banId player key)) details.extra name

theorem withBans_iff (extra : String → Option Value) {first second : Value} :
    withBans first extra = withBans second extra ↔ bansOf first = bansOf second := by
  rw [bansOf, bansOf, List.map_inj_left]
  constructor
  · intro same key listed
    have value := congrFun same key
    simp only [withBans, listed, ↓reduceIte, Option.some.injEq, Value.integer.injEq, Nat.cast_inj] at value
    exact value
  · intro agree
    funext name
    unfold withBans
    split
    · rename_i listed
      rw [agree name listed]
    · rfl

/-- What the local preflight returns for a match that it can complete. -/
def preflightOutcome (request : CompletedMatchRequest) (shell : MatchDetails) (merged : List Value)
    (score : ResolvedScore) : CompletedMatchResolution :=
  terminalize request (attachRecoveryBans (({ shell with players := merged }.setScore score).markRecovery
    (some "local_preflight") (some 0) false false false)) .completeRecovered none

theorem localPreflight_eq (request : CompletedMatchRequest) (shell : MatchDetails) (localPlayers : List Value) :
    let missing := localMissing (some shell) localPlayers
    let merged := mergePlayers (directPlayers (some shell)) missing
    localPreflight request (some shell) localPlayers =
      if merged.length = 10 ∧ 0 < shell.queueId ∧ shell.entryDatetime ≠ "" then
        ((resolveDirectScore shell).or (resolveHistoryScore missing)).map (preflightOutcome request shell merged)
      else none := by
  intro missing merged
  unfold localPreflight
  simp only [Option.bind_eq_bind, Option.bind_some]
  split
  · cases (resolveDirectScore shell).or (resolveHistoryScore missing) <;> rfl
  · rfl

theorem preflightOutcome_eq (request : CompletedMatchRequest) (shell : MatchDetails) {merged : List Value}
    {player : Value} (first : merged.head? = some player) (score : ResolvedScore) :
    preflightOutcome request shell merged score = terminalize request
      { ({ shell with players := merged }.setScore score).markRecovery
          (some "local_preflight") (some 0) false false false with
        extra := withBans player shell.extra } .completeRecovered none := by
  unfold preflightOutcome
  congr 1
  exact attachRecoveryBans_eq first

-- The rows are sorted in the end, so the outcomes can differ in their bans only.
theorem preflightOutcome_iff {request : CompletedMatchRequest} {shell : MatchDetails}
    {left right : List Value} {first second : Value} (headLeft : left.head? = some first)
    (headRight : right.head? = some second) (sorted : sortPlayers left = sortPlayers right)
    (score : ResolvedScore) :
    preflightOutcome request shell left score = preflightOutcome request shell right score ↔
      bansOf first = bansOf second := by
  rw [preflightOutcome_eq request shell headLeft, preflightOutcome_eq request shell headRight,
    ← withBans_iff shell.extra]
  simp only [terminalize, MatchDetails.markRecovery, MatchDetails.setScore, sorted]
  constructor
  · intro same
    injection same with _ _ _ details
    injection details with details
    injection details
  · intro same
    rw [same]

/-! ### Both orders -/

/-- The cached rows alone complete the match: the direct ones are of no use, but
there is a shell and a score. -/
def CachedComplete (direct : Option MatchDetails) (localPlayers : List Value) : Prop :=
  ∃ shell, direct = some shell ∧ localPlayers.length = 10 ∧ 0 < shell.queueId ∧ shell.entryDatetime ≠ "" ∧
    ((resolveDirectScore shell).or (resolveHistoryScore localPlayers)).isSome = true

def BansAgree (players : List Value) : Prop :=
  ∀ first ∈ players, ∀ second ∈ players, bansOf first = bansOf second

theorem localMissing_all {direct : Option MatchDetails} (useless : directPlayers direct = [])
    {localPlayers : List Value} (rows : DistinctPublic localPlayers) :
    localMissing direct localPlayers = localPlayers := by
  apply List.filter_eq_self.mpr
  intro player member
  simp [useless, rows.positive player member]

theorem mergePlayers_alone {players : List Value} (rows : DistinctPublic players) :
    mergePlayers [] players = players := by
  have fresh : mergeRows (privateCount players) [] 0 ([] ++ players) =
      mergeRows (privateCount players) [] 0 [] ++ players :=
    mergeRows_fresh rows [] 0 (by simp) (by simp)
  simpa [mergePlayers, privateCount, mergeRows] using fresh

theorem mergePlayers_head {direct : List Value} (shown : privateCount direct = 0) {first : Value}
    (head : direct.head? = some first) (recovered : List Value) :
    (mergePlayers direct recovered).head? = some first := by
  cases direct with
  | nil => simp at head
  | cons row rest =>
      obtain rfl : row = first := by simpa using head
      have positive : 0 < playerId row := by
        have nonzero := List.countP_eq_zero.mp shown row List.mem_cons_self
        simp only [beq_iff_eq] at nonzero
        omega
      simp [mergePlayers, mergeRows, positive]

theorem localPreflight_alone {shell : MatchDetails} (useless : directPlayers (some shell) = [])
    {localPlayers : List Value} (rows : DistinctPublic localPlayers) (request : CompletedMatchRequest) :
    localPreflight request (some shell) localPlayers =
      if localPlayers.length = 10 ∧ 0 < shell.queueId ∧ shell.entryDatetime ≠ "" then
        ((resolveDirectScore shell).or (resolveHistoryScore localPlayers)).map
          (preflightOutcome request shell localPlayers)
      else none := by
  rw [localPreflight_eq, localMissing_all useless rows, useless, mergePlayers_alone rows]

theorem localPreflight_incomplete {direct : Option MatchDetails} (useless : directPlayers direct = [])
    {localPlayers : List Value} (rows : DistinctPublic localPlayers)
    (incomplete : ¬ CachedComplete direct localPlayers) (request : CompletedMatchRequest) :
    localPreflight request direct localPlayers = none := by
  cases direct with
  | none => rfl
  | some shell =>
      rw [localPreflight_alone useless rows]
      split
      · rename_i ready
        cases found : (resolveDirectScore shell).or (resolveHistoryScore localPlayers) with
        | none => rfl
        | some score =>
            refine absurd ⟨shell, rfl, ready.1, ready.2.1, ready.2.2, ?_⟩ incomplete
            rw [found]
            rfl
      · rfl

theorem cachedComplete_perm {direct : Option MatchDetails} {left right : List Value} (order : left.Perm right) :
    CachedComplete direct left ↔ CachedComplete direct right := by
  simp only [CachedComplete, order.length_eq, resolveHistoryScore, resolveObservedScore_of_perm order]

/-- Two orders of the cached rows give one outcome if the first rows of the merged
lists bear the same bans. -/
theorem localPreflight_of_perm {request : CompletedMatchRequest} {direct : Option MatchDetails}
    (shown : privateCount (directPlayers direct) = 0) {left right : List Value} (order : left.Perm right)
    (rows : DistinctPublic left)
    (heads : ∀ first second,
      (mergePlayers (directPlayers direct) (localMissing direct left)).head? = some first →
      (mergePlayers (directPlayers direct) (localMissing direct right)).head? = some second →
      bansOf first = bansOf second) :
    localPreflight request direct left = localPreflight request direct right := by
  cases direct with
  | none => rfl
  | some shell =>
      have merged := merged_perm (some shell) order rows
      have missing : (localMissing (some shell) left).Perm (localMissing (some shell) right) :=
        order.filter _
      rw [localPreflight_eq, localPreflight_eq, merged.length_eq, resolveHistoryScore, resolveHistoryScore,
        resolveObservedScore_of_perm missing]
      split
      · rename_i ready
        congr 1
        funext score
        have nonempty : ∀ {players : List Value}, players.length = 10 → ∃ first, players.head? = some first := by
          intro players ten
          cases players with
          | nil => simp at ten
          | cons first rest => exact ⟨first, rfl⟩
        obtain ⟨first, headLeft⟩ := nonempty (merged.length_eq.trans ready.1)
        obtain ⟨second, headRight⟩ := nonempty ready.1
        have sorted := sortPlayers_of_perm merged (merged_distinct shown (localMissing_public rows)).distinct
        exact (preflightOutcome_iff headLeft headRight sorted score).mpr (heads first second headLeft headRight)
      · rfl

/-! ### resume_match_recovery -/

/-- A resumed recovery sorts its rows before it uses their order. -/
theorem resumeWith_of_perm (request : CompletedMatchRequest) {left right : List Value}
    (order : left.Perm right) (rows : DistinctPublic left) :
    resumeWith request left = resumeWith request right := by
  have usable : (usablePlayers left).Perm (usablePlayers right) := order.filter _
  have sorted := sortPlayers_of_perm usable (rows.filter _).distinct
  have outcome : resumeOutcome request (usablePlayers left) = resumeOutcome request (usablePlayers right) := by
    funext score demo
    simp only [resumeOutcome, sorted]
  simp only [resumeWith, resolveHistoryScore, resolveObservedScore_of_perm usable, usable.length_eq, outcome]

/-! ### The condition -/

theorem recoverRankedWith_congr {request : CompletedMatchRequest} {direct : Option MatchDetails}
    {left right : List Value}
    (same : localPreflight request direct left = localPreflight request direct right) :
    recoverRankedWith request direct left = recoverRankedWith request direct right := by
  rw [recoverRankedWith, recoverRankedWith, same]

theorem merged_head_mem {direct : Option MatchDetails} (useless : directPlayers direct = [])
    {localPlayers : List Value} (rows : DistinctPublic localPlayers) {first : Value}
    (head : (mergePlayers (directPlayers direct) (localMissing direct localPlayers)).head? = some first) :
    first ∈ localPlayers := by
  rw [localMissing_all useless rows, useless, mergePlayers_alone rows] at head
  exact List.mem_of_mem_head? head

-- Each cached row may come first.
theorem perm_with_first {A : Type} {list : List A} {item : A} (member : item ∈ list) :
    ∃ rest, (item :: rest).Perm list := by
  obtain ⟨front, back, rfl⟩ := List.append_of_mem member
  exact ⟨front ++ back, List.perm_middle.symm⟩

theorem bansAgree_of_orderFree {request : CompletedMatchRequest} {direct : Option MatchDetails}
    (useless : directPlayers direct = []) {localPlayers : List Value} (rows : DistinctPublic localPlayers)
    (complete : CachedComplete direct localPlayers)
    (orderFree : ∀ left right, left.Perm localPlayers → right.Perm localPlayers →
      recoverRankedWith request direct left = recoverRankedWith request direct right) :
    BansAgree localPlayers := by
  obtain ⟨shell, rfl, ten, queued, dated, scored⟩ := complete
  obtain ⟨score, found⟩ := Option.isSome_iff_exists.mp scored
  have returns : ∀ {players}, players.Perm localPlayers →
      recoverRankedWith request (some shell) players = .done (.ok (preflightOutcome request shell players score)) := by
    intro players order
    have length : players.length = 10 := order.length_eq.trans ten
    rw [recoverRankedWith, localPreflight_alone useless (rows.perm order.symm),
      if_pos ⟨length, queued, dated⟩, resolveHistoryScore, resolveObservedScore_of_perm order]
    rw [resolveHistoryScore] at found
    rw [found]
    rfl
  intro first inFirst second inSecond
  obtain ⟨restFirst, orderFirst⟩ := perm_with_first inFirst
  obtain ⟨restSecond, orderSecond⟩ := perm_with_first inSecond
  have same := orderFree _ _ orderFirst orderSecond
  rw [returns orderFirst, returns orderSecond, Program.done.injEq, Except.ok.injEq] at same
  have both := orderFirst.trans orderSecond.symm
  exact (preflightOutcome_iff rfl rfl
    (sortPlayers_of_perm both (rows.perm orderFirst.symm).distinct) score).mp same

/-- The order of the cached rows does not matter exactly when the direct match has
a usable row of its own, or the cached rows do not complete it, or they agree on
the bans. -/
theorem cache_order_ignored_iff (request : CompletedMatchRequest) (direct : Option MatchDetails)
    (shown : privateCount (directPlayers direct) = 0) (localPlayers : List Value)
    (rows : DistinctPublic localPlayers) :
    (∀ left right, left.Perm localPlayers → right.Perm localPlayers →
      recoverRankedWith request direct left = recoverRankedWith request direct right ∧
        resumeWith request left = resumeWith request right) ↔
      (directPlayers direct ≠ [] ∨ ¬ CachedComplete direct localPlayers ∨ BansAgree localPlayers) := by
  constructor
  · intro orderFree
    by_cases useless : directPlayers direct = []
    · right
      by_cases complete : CachedComplete direct localPlayers
      · right
        exact bansAgree_of_orderFree useless rows complete
          fun left right orderLeft orderRight => (orderFree left right orderLeft orderRight).1
      · exact Or.inl complete
    · exact Or.inl useless
  · intro condition left right orderLeft orderRight
    have rowsLeft := rows.perm orderLeft.symm
    have rowsRight := rows.perm orderRight.symm
    have order := orderLeft.trans orderRight.symm
    refine ⟨recoverRankedWith_congr ?_, resumeWith_of_perm request order rowsLeft⟩
    by_cases useless : directPlayers direct = []
    · rcases condition with usable | incomplete | agree
      · exact absurd useless usable
      · rw [localPreflight_incomplete useless rowsLeft
            (fun complete => incomplete ((cachedComplete_perm orderLeft).mp complete)),
          localPreflight_incomplete useless rowsRight
            (fun complete => incomplete ((cachedComplete_perm orderRight).mp complete))]
      · apply localPreflight_of_perm shown order rowsLeft
        intro first second headLeft headRight
        exact agree first (orderLeft.mem_iff.mp (merged_head_mem useless rowsLeft headLeft))
          second (orderRight.mem_iff.mp (merged_head_mem useless rowsRight headRight))
    · obtain ⟨head, rest, found⟩ := List.exists_cons_of_ne_nil useless
      have first : (directPlayers direct).head? = some head := by rw [found]; rfl
      apply localPreflight_of_perm shown order rowsLeft
      intro one other headLeft headRight
      rw [mergePlayers_head shown first] at headLeft headRight
      cases headLeft
      cases headRight
      rfl

/-- A match shell whose only row is an error, with the score of the match. -/
def brokenMatch : MatchDetails :=
  { matchId := 1
    queueId := 486
    entryDatetime := "1/1/2026 1:00:00 PM"
    directScoreObservations := some [exampleScore, exampleScore]
    players := [.object [("has_ret_msg", .bool true)]] }

def cachedRow (id : Nat) : Value := .object [("player_id", .integer id), ("ban_id_1", .integer (2000 + id))]

def cachedRows : List Value := [1, 2, 3, 4, 5, 6, 7, 8, 9, 10].map cachedRow

/-- Nine cached rows beside one direct row, in one order and in the other. -/
theorem nine_cached_rows_in_any_order :
    recoverRankedWith ⟨1, some 486⟩ (some { brokenMatch with players := [cachedRow 10] }) (cachedRows.take 9) =
        recoverRankedWith ⟨1, some 486⟩ (some { brokenMatch with players := [cachedRow 10] })
          (cachedRows.take 9).reverse ∧
      resumeWith ⟨1, some 486⟩ (cachedRows.take 9) = resumeWith ⟨1, some 486⟩ (cachedRows.take 9).reverse :=
  (cache_order_ignored_iff ⟨1, some 486⟩ (some { brokenMatch with players := [cachedRow 10] })
    (by decide +kernel) (cachedRows.take 9) ⟨by decide +kernel, by decide +kernel⟩).mpr
    (Or.inl (List.ne_nil_of_length_pos (by decide +kernel))) _ _ (.refl _) (List.reverse_perm _)

/-- With the rows in one order the match has the ban 2001, in the other 2010. -/
theorem bans_follow_the_cache_order :
    ¬ ∀ left right, left.Perm cachedRows → right.Perm cachedRows →
      recoverRankedWith ⟨1, some 486⟩ (some brokenMatch) left =
          recoverRankedWith ⟨1, some 486⟩ (some brokenMatch) right ∧
        resumeWith ⟨1, some 486⟩ left = resumeWith ⟨1, some 486⟩ right := by
  intro orderFree
  have same := (orderFree cachedRows cachedRows.reverse (.refl _) (List.reverse_perm _)).1
  have ban := congrArg (fun program => program.result.bind fun result => result.toOption.bind fun outcome =>
    outcome.match_.bind fun details => (details.extra "ban_id_1").bind Value.asU64) same
  revert ban
  decide +kernel

end PaladinsCat.Resolver
