import PaladinsCat.BatchResolution

/-!
What a complete outcome carries. The direct path counts the usable rows and hands
on all of them; `merge_players` keeps the first row of each public id and as many
private rows as the larger side has, but a row is not looked at for errors again.
So an outcome may be called complete and still not have ten sound rows; whether it
has can be read off the rows that the provider supplied.
-/

namespace PaladinsCat.Resolver

open Interleaving Program
open Hirez (Value)

def publicIds (players : List Value) : List Nat := (players.map playerId).filter (0 < ·)

@[simp] theorem publicIds_nil : publicIds [] = [] := rfl

theorem publicIds_append (left right : List Value) :
    publicIds (left ++ right) = publicIds left ++ publicIds right := by
  simp [publicIds]

theorem publicIds_cons_public {player : Value} (positive : 0 < playerId player) (rest : List Value) :
    publicIds (player :: rest) = playerId player :: publicIds rest := by
  simp [publicIds, positive]

theorem publicIds_cons_private {player : Value} (hidden : ¬ 0 < playerId player) (rest : List Value) :
    publicIds (player :: rest) = publicIds rest := by
  simp [publicIds, hidden]

theorem mem_publicIds {id : Nat} {players : List Value} :
    id ∈ publicIds players ↔ 0 < id ∧ id ∈ players.map playerId := by
  simp [publicIds, and_comm]

theorem publicIds_length_add_privateCount (players : List Value) :
    (publicIds players).length + privateCount players = players.length := by
  induction players with
  | nil => rfl
  | cons player rest ih =>
      by_cases positive : 0 < playerId player
      · have hidden : (playerId player == 0) = false := by simp; omega
        simp only [publicIds_cons_public positive, List.length_cons, privateCount, List.countP_cons, hidden]
        simp only [privateCount] at ih
        simp only [Bool.false_eq_true, ↓reduceIte]
        omega
      · have hidden : (playerId player == 0) = true := by simp; omega
        simp only [publicIds_cons_private positive, List.length_cons, privateCount, List.countP_cons, hidden]
        simp only [privateCount] at ih
        simp only [↓reduceIte]
        omega

/-! ### merge_players -/

section Merge
variable (target : Nat)

theorem mem_publicIds_mergeRows (seen : List Nat) (privates : Nat) (rows : List Value) (id : Nat) :
    id ∈ publicIds (mergeRows target seen privates rows) ↔ id ∈ publicIds rows ∧ id ∉ seen := by
  induction rows generalizing seen privates with
  | nil => simp [mergeRows]
  | cons row rest ih =>
      simp only [mergeRows]
      by_cases positive : 0 < playerId row
      · rw [if_pos positive, publicIds_cons_public positive]
        split
        · rename_i known
          rw [ih, List.mem_cons]
          constructor
          · rintro ⟨member, fresh⟩
            exact ⟨Or.inr member, fresh⟩
          · rintro ⟨rfl | member, fresh⟩
            · exact absurd known fresh
            · exact ⟨member, fresh⟩
        · rename_i fresh
          rw [publicIds_cons_public positive, List.mem_cons, ih, List.mem_cons, List.mem_cons]
          by_cases same : id = playerId row
          · simp [same, fresh]
          · simp [same]
      · rw [if_neg positive, publicIds_cons_private positive]
        split
        · rw [publicIds_cons_private positive, ih]
        · rw [ih]

theorem publicIds_mergeRows_nodup (seen : List Nat) (privates : Nat) (rows : List Value) :
    (publicIds (mergeRows target seen privates rows)).Nodup := by
  induction rows generalizing seen privates with
  | nil => simp [mergeRows]
  | cons row rest ih =>
      simp only [mergeRows]
      by_cases positive : 0 < playerId row
      · rw [if_pos positive]
        split
        · exact ih seen privates
        · rw [publicIds_cons_public positive, List.nodup_cons]
          refine ⟨?_, ih _ _⟩
          rw [mem_publicIds_mergeRows]
          simp
      · rw [if_neg positive]
        split
        · rw [publicIds_cons_private positive]
          exact ih _ _
        · exact ih _ _

theorem privateCount_mergeRows (seen : List Nat) (privates : Nat) (rows : List Value) :
    privateCount (mergeRows target seen privates rows) = min (privateCount rows) (target - privates) := by
  induction rows generalizing seen privates with
  | nil => simp [mergeRows, privateCount]
  | cons row rest ih =>
      simp only [privateCount] at ih
      simp only [mergeRows, privateCount, List.countP_cons]
      by_cases positive : 0 < playerId row
      · have shown : (playerId row == 0) = false := by simp; omega
        rw [if_pos positive]
        split
        · simp [shown, ih]
        · simp [shown, ih]
      · have hidden : (playerId row == 0) = true := by simp; omega
        rw [if_neg positive]
        split
        · simp only [List.countP_cons, hidden, ih, ↓reduceIte]
          omega
        · simp only [ih]
          omega

/-- An earlier row has taken the place of this one. -/
def Displaced (front : List Value) (row : Value) : Prop :=
  if 0 < playerId row then playerId row ∈ front.map playerId else target ≤ privateCount front

theorem forall_split_cons {A : Type} (holds : List A → A → Prop) (first : A) (rest : List A) :
    (∀ front item back, first :: rest = front ++ item :: back → holds front item) ↔
      holds [] first ∧ ∀ front item back, rest = front ++ item :: back → holds (first :: front) item := by
  constructor
  · intro all
    refine ⟨all [] first rest rfl, ?_⟩
    rintro front item back rfl
    exact all (first :: front) item back rfl
  · rintro ⟨head, tail⟩ front item back split
    cases front with
    | nil =>
        obtain ⟨rfl, rfl⟩ := List.cons.inj split
        exact head
    | cons other front =>
        obtain ⟨rfl, same⟩ := List.cons.inj split
        exact tail front item back same

-- The ids seen and the privates counted are those of the rows before.
theorem mergeRows_all {holds : Value → Prop} (earlier rows : List Value) {seen : List Nat} {privates : Nat}
    (ids : ∀ id, 0 < id → (id ∈ seen ↔ id ∈ earlier.map playerId))
    (count : privates = min (privateCount earlier) target) :
    (∀ row ∈ mergeRows target seen privates rows, holds row) ↔
      ∀ front row back, rows = front ++ row :: back → ¬ holds row → Displaced target (earlier ++ front) row := by
  induction rows generalizing earlier seen privates with
  | nil => simp [mergeRows]
  | cons row rest ih =>
      rw [forall_split_cons fun front row => ¬ holds row → Displaced target (earlier ++ front) row]
      simp only [List.append_nil]
      have later : ∀ id, id ∈ (earlier ++ [row]).map playerId ↔
          id ∈ earlier.map playerId ∨ id = playerId row := by simp
      have total : privateCount (earlier ++ [row]) =
          privateCount earlier + if playerId row = 0 then 1 else 0 := by
        simp [privateCount, List.countP_append, List.countP_cons]
      simp only [mergeRows]
      by_cases positive : 0 < playerId row
      · rw [if_pos positive]
        have counted : privates = min (privateCount (earlier ++ [row])) target := by
          rw [total, if_neg (by omega), count, Nat.add_zero]
        split
        · rename_i known
          have place : Displaced target earlier row := by
            simpa [Displaced, positive] using (ids _ positive).mp known
          rw [ih (earlier ++ [row]) ?_ counted]
          · simp [place]
          · intro id shown
            rw [later, ids id shown]
            constructor
            · exact Or.inl
            · rintro (old | rfl)
              · exact old
              · exact (ids _ positive).mp known
        · rename_i fresh
          have place : ¬ Displaced target earlier row := by
            simpa [Displaced, positive] using fun known => fresh ((ids _ positive).mpr known)
          rw [List.forall_mem_cons, ih (earlier ++ [row]) ?_ counted]
          · simp [place]
          · intro id shown
            rw [later, List.mem_cons, ids id shown, or_comm]
      · rw [if_neg positive]
        have known : ∀ id, 0 < id → (id ∈ seen ↔ id ∈ (earlier ++ [row]).map playerId) := by
          intro id shown
          rw [later, ids id shown]
          constructor
          · exact Or.inl
          · rintro (old | rfl)
            · exact old
            · exact absurd shown positive
        rw [if_pos (by omega)] at total
        split
        · rename_i room
          have place : ¬ Displaced target earlier row := by
            simp only [Displaced, positive, ↓reduceIte]
            omega
          rw [List.forall_mem_cons, ih (earlier ++ [row]) known (by omega)]
          simp [place]
        · rename_i full
          have place : Displaced target earlier row := by
            simp only [Displaced, positive, ↓reduceIte]
            omega
          rw [ih (earlier ++ [row]) known (by omega)]
          simp [place]

end Merge

theorem privateCount_append (left right : List Value) :
    privateCount (left ++ right) = privateCount left + privateCount right := by
  simp [privateCount]

/-- The rows that `merge_players` has room for. -/
def rosterSize (direct recovered : List Value) : Nat :=
  (publicIds (direct ++ recovered)).dedup.length + max (privateCount direct) (privateCount recovered)

theorem mergePlayers_length (direct recovered : List Value) :
    (mergePlayers direct recovered).length = rosterSize direct recovered := by
  have distinct : (publicIds (mergePlayers direct recovered)).length =
      (publicIds (direct ++ recovered)).dedup.length := by
    apply List.Perm.length_eq
    apply (List.perm_ext_iff_of_nodup (publicIds_mergeRows_nodup _ _ _ _) (List.nodup_dedup _)).mpr
    intro id
    simp [mem_publicIds_mergeRows]
  have hidden : privateCount (mergePlayers direct recovered) =
      max (privateCount direct) (privateCount recovered) := by
    rw [mergePlayers, privateCount_mergeRows, privateCount_append]
    omega
  rw [← publicIds_length_add_privateCount, distinct, hidden, rosterSize]

/-! ### Whole rosters -/

def Whole (players : List Value) : Prop :=
  players.length = 10 ∧ (∀ player ∈ players, hasRetMsg player = false) ∧ (publicIds players).Nodup

theorem whole_perm {left right : List Value} (order : left.Perm right) : Whole left ↔ Whole right := by
  have ids : (publicIds left).Perm (publicIds right) := (order.map _).filter _
  simp only [Whole, order.length_eq, order.mem_iff, ids.nodup_iff]

theorem sortPlayers_perm (players : List Value) : (sortPlayers players).Perm players :=
  List.perm_insertionSort _ _

/-- What the provider has to supply for a whole roster: no more players than ten,
and no flagged row but where an earlier one takes its place. -/
structure Supplied (direct recovered : List Value) : Prop where
  size : rosterSize direct recovered ≤ 10
  flagged : ∀ front row back, direct ++ recovered = front ++ row :: back → hasRetMsg row = true →
    Displaced (max (privateCount direct) (privateCount recovered)) front row

theorem whole_mergePlayers {direct recovered : List Value}
    (enough : 10 ≤ (mergePlayers direct recovered).length) :
    Whole (mergePlayers direct recovered) ↔ Supplied direct recovered := by
  have sound : (∀ row ∈ mergePlayers direct recovered, hasRetMsg row = false) ↔ _ :=
    mergeRows_all _ [] (direct ++ recovered) (by simp) (by simp [privateCount])
  simp only [List.nil_append, Bool.not_eq_false] at sound
  have size := mergePlayers_length direct recovered
  constructor
  · rintro ⟨ten, unflagged, _⟩
    exact ⟨by omega, sound.mp unflagged⟩
  · rintro ⟨small, displaced⟩
    exact ⟨by omega, sound.mpr displaced, publicIds_mergeRows_nodup _ _ _ _⟩

/-! ### Enrichment -/

/-- What a roster is judged by. -/
def rosterKey (player : Value) : Nat × Bool := (playerId player, hasRetMsg player)

theorem get_insert_of_ne {name other : String} (apart : other ≠ name) (value player : Value) :
    (player.insert name value).get other = player.get other := by
  cases player with
  | object fields =>
      simp only [Value.insert, Value.get]
      induction fields with
      | nil =>
          have passed : (other == name) = false := by simpa using apart
          simp [List.lookup, passed]
      | cons field rest ih =>
          obtain ⟨key, content⟩ := field
          by_cases dropped : key = name
          · have passed : (other == name) = false := by simpa using apart
            simpa [List.lookup, dropped, passed] using ih
          · rw [List.filter_cons_of_pos (by simpa using dropped), List.cons_append]
            simp only [List.lookup, ih]
  | _ => rfl

theorem rosterKey_insert {name : String} (value player : Value) (ids : "player_id" ≠ name)
    (flags : "has_ret_msg" ≠ name) : rosterKey (player.insert name value) = rosterKey player := by
  simp only [rosterKey, playerId, playerNumber, hasRetMsg, List.findSome?_cons, List.findSome?_nil,
    get_insert_of_ne ids, get_insert_of_ne flags]

theorem rosterKey_enrichPlayer (roster : List Value) (player : Value) :
    rosterKey (enrichPlayer roster player) = rosterKey player := by
  unfold enrichPlayer
  split
  · rename_i profile _
    have platform : rosterKey (enrichPlatform profile player) = rosterKey player := by
      unfold enrichPlatform
      split
      · split
        · exact rosterKey_insert _ _ (by decide) (by decide)
        · rfl
      · rfl
    unfold enrichLevel
    split
    · split
      · rw [rosterKey_insert _ _ (by decide) (by decide), platform]
      · exact platform
    · exact platform
  · rfl

theorem map_rosterKey_enrich (recovered roster : List Value) :
    (enrichRecoveredPlayers recovered roster).map rosterKey = recovered.map rosterKey := by
  simp [enrichRecoveredPlayers, Function.comp_def, rosterKey_enrichPlayer]

theorem whole_congr {left right : List Value} (same : left.map rosterKey = right.map rosterKey) :
    Whole left ↔ Whole right := by
  have ids : ∀ players, publicIds players = ((players.map rosterKey).map (·.1)).filter (0 < ·) := by
    intro players
    simp [publicIds, Function.comp_def, rosterKey]
  have flags : ∀ players : List Value, (∀ player ∈ players, hasRetMsg player = false) ↔
      ∀ key ∈ players.map rosterKey, key.2 = false := by
    intro players
    simp [rosterKey]
  have length : left.length = right.length := by simpa using congrArg List.length same
  simp only [Whole, length, flags, ids, same]

theorem mergeRows_congr {target : Nat} {left right : List Value}
    (same : left.map rosterKey = right.map rosterKey) (seen : List Nat) (privates : Nat) :
    (mergeRows target seen privates left).map rosterKey = (mergeRows target seen privates right).map rosterKey := by
  induction left generalizing right seen privates with
  | nil =>
      obtain rfl : right = [] := by simpa using same.symm
      rfl
  | cons row rest ih =>
      cases right with
      | nil => simp at same
      | cons other others =>
          simp only [List.map_cons, List.cons.injEq] at same
          obtain ⟨head, tail⟩ := same
          have id : playerId row = playerId other := congrArg Prod.fst head
          simp only [mergeRows, id]
          split
          · split
            · exact ih tail _ _
            · simp only [List.map_cons, head, ih tail]
          · split
            · simp only [List.map_cons, head, ih tail]
            · exact ih tail _ _

/-- Enrichment fills in platforms and levels only. -/
theorem mergePlayers_enriched (direct recovered roster : List Value) :
    (mergePlayers direct (enrichRecoveredPlayers recovered roster)).map rosterKey =
      (mergePlayers direct recovered).map rosterKey := by
  have same := map_rosterKey_enrich recovered roster
  have hidden : privateCount (enrichRecoveredPlayers recovered roster) = privateCount recovered := by
    have counted : ∀ players, privateCount players = (players.map rosterKey).countP (·.1 == 0) := by
      intro players
      simp [privateCount, List.countP_map, Function.comp_def, rosterKey]
    rw [counted, counted, same]
  rw [mergePlayers, mergePlayers, hidden]
  apply mergeRows_congr
  rw [List.map_append, List.map_append, same]

/-! ### What the provider was asked for one match -/

def ProviderOp.about : ProviderOp → Option Nat
  | .getMatchDetailsBatch _ => none
  | .getPlayerBatchFromMatch matchId | .getMatchHistoryWithUsage _ matchId | .getDemoDetails matchId
  | .getLocalRecoveryPlayers matchId => some matchId

def asksRoster : ProviderOp → Bool
  | .getPlayerBatchFromMatch _ => true
  | _ => false

def historyReply : ProviderEvent → Option (Except RelayError (List Value × Nat))
  | ⟨_, .getMatchHistoryWithUsage _ _, reply, _⟩ => some reply
  | _ => none

def localReply : ProviderEvent → Option (List Value)
  | ⟨_, .getLocalRecoveryPlayers _, .ok rows, _⟩ => some rows
  | _ => none

/-- The rows that complete the direct ones: from the histories if the roster was
asked for, and else from the local cache. -/
def suppliedRows (request : CompletedMatchRequest) (direct : Option MatchDetails)
    (events : List ProviderEvent) : List Value :=
  if events.any fun event => asksRoster event.op then
    (events.filterMap historyReply).filterMap (targetRow request.matchId)
  else localMissing direct ((events.findSome? localReply).getD [])

/-- The rows that the provider sent for one match make a whole roster. -/
def Consistent (request : CompletedMatchRequest) (direct : Option MatchDetails)
    (events : List ProviderEvent) : Prop :=
  match direct.filter fun details => !needsRecovery details with
  | some details =>
      (∀ player ∈ details.players, playerHasError player = false) ∧ (publicIds details.players).Nodup
  | none => Supplied (directPlayers direct) (suppliedRows request direct events)

def CompletedMatchResolution.complete (outcome : CompletedMatchResolution) : Prop :=
  outcome.status = .completeDirect ∨ outcome.status = .completeRecovered

def CompletedMatchResolution.fixedRoster (outcome : CompletedMatchResolution) : Prop :=
  ∀ details, outcome.match_ = some details → variableRoster details.queueId = false

def CompletedMatchResolution.whole (outcome : CompletedMatchResolution) : Prop :=
  ∃ details, outcome.match_ = some details ∧ Whole details.players

/-! ### The direct path -/

theorem whole_direct {details : MatchDetails} (sized : needsRecovery details = false)
    (fixed : variableRoster details.queueId = false) :
    Whole details.players ↔
      (∀ player ∈ details.players, playerHasError player = false) ∧ (publicIds details.players).Nodup := by
  have ten : usablePlayerCount details.players = 10 := by
    simpa [needsRecovery, fixed] using sized
  constructor
  · rintro ⟨length, _, distinct⟩
    refine ⟨?_, distinct⟩
    rw [← length] at ten
    simpa using List.countP_eq_length.mp ten
  · rintro ⟨sound, distinct⟩
    refine ⟨?_, ?_, distinct⟩
    · rw [← ten]
      exact (List.countP_eq_length.mpr (by simpa using sound)).symm
    · intro player member
      have unmarked := sound player member
      simp only [playerHasError, Bool.or_eq_false_iff] at unmarked
      exact unmarked.1

/-! ### The recovery paths -/

theorem attachRecoveryBans_players (details : MatchDetails) :
    (attachRecoveryBans details).players = details.players := by
  unfold attachRecoveryBans
  split <;> rfl

theorem attachRecoveryBans_queueId (details : MatchDetails) :
    (attachRecoveryBans details).queueId = details.queueId := by
  unfold attachRecoveryBans
  split <;> rfl

theorem terminalize_whole (request : CompletedMatchRequest) (details : MatchDetails)
    (status : CompletedMatchResolutionStatus) (reason : Option String) :
    (terminalize request details status reason).whole ↔ Whole details.players := by
  simp only [CompletedMatchResolution.whole, terminalize, Option.some.injEq, exists_eq_left']
  exact whole_perm (sortPlayers_perm _)

theorem localPreflight_whole {request : CompletedMatchRequest} {direct : Option MatchDetails}
    {localPlayers : List Value} {outcome : CompletedMatchResolution}
    (recovered : localPreflight request direct localPlayers = some outcome) :
    outcome.whole ↔ Supplied (directPlayers direct) (localMissing direct localPlayers) := by
  unfold localPreflight at recovered
  cases direct with
  | none => simp at recovered
  | some shell =>
      simp only [Option.bind_eq_bind, Option.bind_some] at recovered
      split at recovered
      · rename_i ready
        obtain ⟨score, _, made⟩ := Option.bind_eq_some_iff.mp recovered
        cases made
        rw [terminalize_whole, attachRecoveryBans_players]
        exact whole_mergePlayers (by rw [ready.1])
      · cases recovered

-- A recovery is pending, or it has at least ten rows.
theorem recoveredOutcome_cases (request : CompletedMatchRequest) (direct : Option MatchDetails)
    (roster : List Value) (histories : List (Except RelayError (List Value × Nat))) (shell : MatchDetails) :
    let outcome := recoveredOutcome request direct roster histories shell
    let merged := mergePlayers (directPlayers direct)
      (enrichRecoveredPlayers (histories.filterMap (targetRow request.matchId)) roster)
    outcome.status = .recoveryPending ∨ (10 ≤ merged.length ∧ (outcome.whole ↔ Whole merged)) := by
  intro outcome merged
  unfold outcome recoveredOutcome
  extract_lets _ _ _ _ players _
  split
  · split
    · exact Or.inl rfl
    · rename_i resolved
      rw [terminalize_whole]
      refine Or.inr ⟨Nat.le_of_not_lt fun few => resolved (Or.inr few), ?_⟩
      simp only [MatchDetails.setScore, attachRecoveryBans_players]
      exact whole_perm (sortPlayers_perm _)
  · exact Or.inl rfl

theorem recoveredOutcome_whole {request : CompletedMatchRequest} {direct : Option MatchDetails}
    {roster : List Value} {histories : List (Except RelayError (List Value × Nat))} {shell : MatchDetails}
    (complete : (recoveredOutcome request direct roster histories shell).complete) :
    (recoveredOutcome request direct roster histories shell).whole ↔
      Supplied (directPlayers direct) (histories.filterMap (targetRow request.matchId)) := by
  rcases recoveredOutcome_cases request direct roster histories shell with pending | ⟨enough, whole⟩
  · rcases complete with direct | recovered
    · simp [direct] at pending
    · simp [recovered] at pending
  · have keys := mergePlayers_enriched (directPlayers direct)
      (histories.filterMap (targetRow request.matchId)) roster
    have length := congrArg List.length keys
    simp only [List.length_map] at length
    rw [whole, whole_congr keys]
    exact whole_mergePlayers (by omega)

theorem retainDirect_incomplete (request : CompletedMatchRequest) (direct : Option MatchDetails)
    (source : String) (terminal : Bool) (reason : String) :
    ¬ (retainDirect request direct source terminal reason).complete := by
  unfold retainDirect
  split
  · split <;> rintro (complete | complete) <;> cases complete
  · rintro (complete | complete) <;> cases complete

theorem presenceOutcome_incomplete (request : CompletedMatchRequest) (direct : Option MatchDetails)
    (roster : Except RelayError (List Value)) : ¬ (presenceOutcome request direct roster).complete := by
  unfold presenceOutcome
  split
  · simp only
    split
    · rintro (complete | complete) <;> cases complete
    · split <;> rintro (complete | complete) <;> cases complete
  · split <;> rintro (complete | complete) <;> cases complete

/-! ### One match -/

theorem fetchHistories_about (matchId : Nat) (ids : List Nat) :
    Uses (fun op => op.about = some matchId ∧ asksRoster op = false) (fetchHistories matchId ids) := by
  induction ids with
  | nil => trivial
  | cons id rest ih =>
      constructor
      · exact ⟨rfl, rfl⟩
      · intro history
        change Uses _ (fetchHistories matchId rest >>= fun others => pure (history :: others))
        exact uses_bind ih fun _ => trivial

theorem recoverFromRoster_about (request : CompletedMatchRequest) (direct : Option MatchDetails) :
    Uses (fun op => op.about = some request.matchId) (recoverFromRoster request direct) := by
  unfold recoverFromRoster
  rw [perform_bind]
  constructor
  · rfl
  · intro reply
    cases reply with
    | error error => trivial
    | ok rows =>
        simp only
        split
        · trivial
        · apply uses_bind (uses_mono (fun _ asked => asked.1) (fetchHistories_about _ _))
          intro histories
          cases direct with
          | some details => trivial
          | none => exact ⟨rfl, fun _ => trivial⟩

theorem resolveRequest_about (request : CompletedMatchRequest) (direct : Option MatchDetails) :
    Uses (fun op => op.about = some request.matchId) (resolveRequest request direct) := by
  have same := inheritQueue_matchId request direct
  have roster : Uses (fun op => op.about = some request.matchId)
      (do return .ok (← recoverFromRoster (inheritQueue request direct) direct) :
        ProviderProgram (Except RelayError CompletedMatchResolution)) := by
    rw [← same]
    exact uses_bind (recoverFromRoster_about _ _) fun _ => trivial
  unfold resolveRequest
  simp only
  split
  · trivial
  · split
    · unfold recoverRanked
      split
      · refine ⟨congrArg some same, fun reply => ?_⟩
        cases reply with
        | error error => trivial
        | ok localPlayers =>
            change Uses _ (recoverRankedWith _ _ _)
            unfold recoverRankedWith
            split
            · trivial
            · exact roster
      · exact roster
    · unfold recoverPresence
      split
      · trivial
      · exact ⟨congrArg some same, fun _ => trivial⟩

theorem fetchHistories_exec {matchId : Nat} {ids : List Nat} {events : List ProviderEvent}
    {histories : List (Except RelayError (List Value × Nat))}
    (run : Exec anyReply () (fetchHistories matchId ids) events histories ()) :
    events.filterMap historyReply = histories := by
  induction ids generalizing events histories with
  | nil =>
      obtain ⟨rfl, rfl, -⟩ := exec_done run
      rfl
  | cons id rest ih =>
      obtain ⟨reply, _, tail, -, continues, rfl⟩ := exec_call_iff.mp run
      change Exec _ _ (fetchHistories matchId rest >>= fun others => pure (reply :: others)) _ _ _ at continues
      obtain ⟨front, back, others, _, rfl, fetched, returned⟩ := exec_bind continues
      obtain ⟨rfl, rfl, -⟩ := exec_done returned
      simp [historyReply, ih fetched]

theorem recoverFromRoster_whole {request : CompletedMatchRequest} {direct : Option MatchDetails}
    {events : List ProviderEvent} {outcome : CompletedMatchResolution}
    (run : Exec anyReply () (recoverFromRoster request direct) events outcome ())
    (complete : outcome.complete) :
    (outcome.whole ↔ Supplied (directPlayers direct)
        ((events.filterMap historyReply).filterMap (targetRow request.matchId))) ∧
      events.any (fun event => asksRoster event.op) = true := by
  unfold recoverFromRoster at run
  rw [perform_bind] at run
  obtain ⟨reply, _, rest, -, continues, rfl⟩ := exec_call_iff.mp run
  refine ⟨?_, by simp [asksRoster]⟩
  rw [List.filterMap_cons_none (by rfl)]
  cases reply with
  | error error =>
      obtain ⟨-, rfl, -⟩ := exec_done continues
      exact absurd complete (retainDirect_incomplete _ _ _ _ _)
  | ok rows =>
      simp only at continues
      split at continues
      · obtain ⟨-, rfl, -⟩ := exec_done continues
        exact absurd complete (retainDirect_incomplete _ _ _ _ _)
      · obtain ⟨front, back, histories, _, rfl, fetched, returned⟩ := exec_bind continues
        have fetchedRows := fetchHistories_exec fetched
        cases direct with
        | some details =>
            obtain ⟨rfl, rfl, -⟩ := exec_done returned
            rw [List.append_nil, fetchedRows]
            exact recoveredOutcome_whole complete
        | none =>
            obtain ⟨demo, _, last, -, made, rfl⟩ := exec_call_iff.mp returned
            obtain ⟨rfl, rfl, -⟩ := exec_done made
            rw [List.filterMap_append, fetchedRows, List.filterMap_cons_none (by rfl), List.filterMap_nil,
              List.append_nil]
            exact recoveredOutcome_whole complete

/-- One match: a complete outcome with a fixed roster is whole exactly when the
rows that the provider sent for it are consistent. -/
theorem resolveRequest_whole {asked : CompletedMatchRequest} {direct : Option MatchDetails}
    {events : List ProviderEvent} {outcome : CompletedMatchResolution}
    (run : Exec anyReply () (resolveRequest asked direct) events (.ok outcome) ())
    (complete : outcome.complete) (fixed : outcome.fixedRoster) :
    outcome.whole ↔ Consistent asked direct events := by
  have same := inheritQueue_matchId asked direct
  have fromRoster : ∀ {before events},
      Exec anyReply before (do return .ok (← recoverFromRoster (inheritQueue asked direct) direct)) events
        (.ok outcome : Except RelayError CompletedMatchResolution) () →
      (outcome.whole ↔ Supplied (directPlayers direct)
        ((events.filterMap historyReply).filterMap (targetRow asked.matchId))) ∧
        events.any (fun event => asksRoster event.op) = true := by
    intro before events run
    obtain ⟨front, back, value, _, rfl, recovered, returned⟩ := exec_bind run
    obtain ⟨rfl, made, -⟩ := exec_done returned
    cases made
    rw [List.append_nil, ← same]
    exact recoverFromRoster_whole recovered complete
  unfold resolveRequest at run
  unfold Consistent
  cases found : direct.filter fun details => !needsRecovery details with
  | some details =>
      simp only [found] at run
      obtain ⟨-, made, -⟩ := exec_done run
      cases made
      obtain ⟨rfl, sized⟩ := Option.filter_eq_some_iff.mp found
      rw [terminalize_whole]
      have queue : variableRoster details.queueId = false :=
        fixed { details with players := sortPlayers details.players } rfl
      exact whole_direct (by simpa using sized) queue
  | none =>
      simp only [found] at run
      split at run
      · unfold recoverRanked at run
        split at run
        · obtain ⟨reply, _, rest, -, continues, rfl⟩ := exec_call_iff.mp run
          cases reply with
          | error error =>
              obtain ⟨-, made, -⟩ := exec_done continues
              cases made
          | ok localPlayers =>
              change Exec _ _ (recoverRankedWith _ _ _) _ _ _ at continues
              unfold recoverRankedWith at continues
              split at continues
              · rename_i recovered preflight
                obtain ⟨rfl, made, -⟩ := exec_done continues
                cases made
                rw [localPreflight_whole preflight]
                simp [suppliedRows, asksRoster, localReply]
              · obtain ⟨whole, called⟩ := fromRoster continues
                rw [whole]
                simp only [suppliedRows, List.any_cons, called, Bool.or_true, ↓reduceIte]
                rw [List.filterMap_cons_none (by rfl)]
        · obtain ⟨whole, called⟩ := fromRoster run
          rw [whole]
          simp [suppliedRows, called]
      · unfold recoverPresence at run
        rw [found] at run
        obtain ⟨reply, _, rest, -, continues, rfl⟩ := exec_call_iff.mp run
        obtain ⟨-, made, -⟩ := exec_done continues
        cases made
        exact absurd complete (presenceOutcome_incomplete _ _ _)

/-! ### The batch -/

theorem takeDirect_eq {requests : List CompletedMatchRequest} (distinct : (requests.map (·.matchId)).Nodup)
    (byId : Nat → Option MatchDetails) :
    takeDirect byId requests = requests.map fun request => (request, byId request.matchId) := by
  induction requests generalizing byId with
  | nil => rfl
  | cons request rest ih =>
      obtain ⟨new, others⟩ := List.nodup_cons.mp distinct
      rw [takeDirect, List.map_cons, ih others]
      congr 1
      apply List.map_congr_left
      intro other member
      have apart : other.matchId ≠ request.matchId :=
        fun same => new (List.mem_map.mpr ⟨other, member, same⟩)
      rw [Function.update_of_ne apart]

/-- The calls that were made for one match. -/
def eventsOf (matchId : Nat) (events : List ProviderEvent) : List ProviderEvent :=
  events.filter fun event => event.op.about == some matchId

theorem eventsOf_append (matchId : Nat) (front back : List ProviderEvent) :
    eventsOf matchId (front ++ back) = eventsOf matchId front ++ eventsOf matchId back :=
  List.filter_append ..

theorem eventsOf_own {matchId : Nat} {events : List ProviderEvent}
    (own : ∀ event ∈ events, event.op.about = some matchId) : eventsOf matchId events = events := by
  apply List.filter_eq_self.mpr
  intro event member
  simp [own event member]

theorem eventsOf_other {matchId : Nat} {events : List ProviderEvent}
    (others : ∀ event ∈ events, event.op.about ≠ some matchId) : eventsOf matchId events = [] := by
  apply List.filter_eq_nil_iff.mpr
  intro event member
  simpa using others event member

theorem resolveEach_about (work : List (CompletedMatchRequest × Option MatchDetails)) :
    Uses (fun op => ∃ item ∈ work, op.about = some item.1.matchId) (resolveEach work) := by
  induction work with
  | nil => trivial
  | cons item rest ih =>
      obtain ⟨request, direct⟩ := item
      apply uses_bind
      · exact uses_mono (fun _ own => ⟨_, List.mem_cons_self, own⟩) (resolveRequest_about request direct)
      · intro outcome
        refine uses_bind (uses_mono ?_ ih) fun _ => trivial
        rintro op ⟨item, member, own⟩
        exact ⟨item, List.mem_cons_of_mem _ member, own⟩

/-- The calls of a match, taken out of the run of the batch, are a run of its own. -/
theorem resolveEach_exec {work : List (CompletedMatchRequest × Option MatchDetails)}
    (distinct : (work.map (·.1.matchId)).Nodup) {events : List ProviderEvent}
    {outcomes : List (Except RelayError CompletedMatchResolution)}
    (run : Exec anyReply () (resolveEach work) events outcomes ()) {index : Nat}
    {item : CompletedMatchRequest × Option MatchDetails} (asked : work[index]? = some item)
    {outcome : Except RelayError CompletedMatchResolution} (found : outcomes[index]? = some outcome) :
    Exec anyReply () (resolveRequest item.1 item.2) (eventsOf item.1.matchId events) outcome () := by
  induction work generalizing events outcomes index with
  | nil => simp at asked
  | cons first rest ih =>
      obtain ⟨request, direct⟩ := first
      obtain ⟨new, others⟩ := List.nodup_cons.mp distinct
      obtain ⟨front, tail, value, _, rfl, resolved, continues⟩ := exec_bind run
      obtain ⟨back, last, values, _, rfl, each, returned⟩ := exec_bind continues
      obtain ⟨rfl, rfl, -⟩ := exec_done returned
      have own := exec_uses (resolveRequest_about request direct) resolved
      have rest_ := exec_uses (resolveEach_about rest) each
      rw [List.append_nil, eventsOf_append]
      cases index with
      | zero =>
          obtain rfl : (request, direct) = item := by simpa using asked
          obtain rfl : value = outcome := by simpa using found
          have apart : ∀ event ∈ back, event.op.about ≠ some request.matchId := by
            intro event member same
            obtain ⟨other, listed, about⟩ := rest_ event member
            rw [same, Option.some.injEq] at about
            exact new (List.mem_map.mpr ⟨other, listed, about.symm⟩)
          rw [eventsOf_own own, eventsOf_other apart, List.append_nil]
          exact resolved
      | succ index =>
          have listed : rest[index]? = some item := by simpa using asked
          have apart : ∀ event ∈ front, event.op.about ≠ some item.1.matchId := by
            intro event member same
            rw [own event member, Option.some.injEq] at same
            exact new (List.mem_map.mpr ⟨item, List.mem_of_getElem? listed, same.symm⟩)
          rw [eventsOf_other apart, List.nil_append]
          exact ih others each listed (by simpa using found)

/-- The matches of the shared detail reply, none after a malformed one. -/
def suppliedDetails : List ProviderEvent → List MatchDetails
  | ⟨_, .getMatchDetailsBatch _, .ok details, _⟩ :: _ => details
  | _ => []

theorem resolveWork_exec {requests : List CompletedMatchRequest} (distinct : (requests.map (·.matchId)).Nodup)
    {details : List MatchDetails} {events : List ProviderEvent} {outcomes : List CompletedMatchResolution}
    (run : Exec anyReply () (resolveWork requests details) events (.ok outcomes) ()) {index : Nat}
    {request : CompletedMatchRequest} (asked : requests[index]? = some request)
    {outcome : CompletedMatchResolution} (found : outcomes[index]? = some outcome) :
    Exec anyReply () (resolveRequest request (directById details request.matchId))
      (eventsOf request.matchId events) (.ok outcome) () := by
  obtain ⟨front, back, values, _, rfl, each, returned⟩ := exec_bind run
  obtain ⟨rfl, collected, -⟩ := exec_done returned
  have all := collectOutcomes_ok collected.symm
  rw [takeDirect_eq distinct] at each
  have listed : (requests.map fun request => (request, directById details request.matchId))[index]? =
      some (request, directById details request.matchId) := by simp [asked]
  have resolved : values[index]? = some (.ok outcome) := by simp [all, found]
  rw [List.append_nil]
  exact resolveEach_exec (by simpa [Function.comp_def] using distinct) each listed resolved

theorem getMatchDetailsBatch_exec {requests : List CompletedMatchRequest} {events : List ProviderEvent}
    {outcomes : List CompletedMatchResolution}
    (run : Exec anyReply () (getMatchDetailsBatch requests) events (.ok outcomes) ()) {index : Nat}
    {request : CompletedMatchRequest} (asked : requests[index]? = some request)
    {outcome : CompletedMatchResolution} (found : outcomes[index]? = some outcome) :
    Exec anyReply () (resolveRequest request (directById (suppliedDetails events) request.matchId))
      (eventsOf request.matchId events) (.ok outcome) () := by
  cases validated : validateRequests requests with
  | error error =>
      unfold getMatchDetailsBatch at run
      rw [validated] at run
      obtain ⟨-, made, -⟩ := exec_done run
      cases made
  | ok _ =>
      have distinct := validated_distinct validated
      rw [getMatchDetailsBatch_call validated] at run
      obtain ⟨reply, _, rest, -, continues, rfl⟩ := exec_call_iff.mp run
      have dropped : ∀ reply, eventsOf request.matchId (⟨(), .getMatchDetailsBatch
          (requests.map (·.matchId)), reply, ()⟩ :: rest) = eventsOf request.matchId rest := by
        intro reply
        simp [eventsOf, ProviderOp.about]
      rw [dropped]
      cases reply with
      | ok details =>
          exact resolveWork_exec distinct continues asked found
      | error error =>
          by_cases recoverable : isRecoverableMatchDetailError error = true
          · simp only [if_pos recoverable] at continues
            exact resolveWork_exec distinct continues asked found
          · simp only [if_neg recoverable] at continues
            obtain ⟨-, made, -⟩ := exec_done continues
            cases made

/-! ### resume_match_recovery -/

/-- The rows of the local cache that a resumed recovery is made of. -/
def cachedPlayers (events : List ProviderEvent) : List Value :=
  usablePlayers ((events.findSome? localReply).getD [])

theorem whole_usable {players : List Value} (ten : (usablePlayers players).length = 10) :
    Whole (usablePlayers players) ↔ (publicIds (usablePlayers players)).Nodup := by
  constructor
  · exact fun whole => whole.2.2
  · intro distinct
    refine ⟨ten, ?_, distinct⟩
    intro player member
    have sound := (List.mem_filter.mp member).2
    simp only [playerHasError, Bool.not_or, Bool.and_eq_true, Bool.not_eq_true'] at sound
    exact sound.1

theorem resumeOutcome_cases (request : CompletedMatchRequest) (players : List Value) (score : ResolvedScore)
    (demo : Value) :
    (resumeOutcome request players score demo).status = .recoveryPending ∨
      ((resumeOutcome request players score demo).whole ↔ Whole players) := by
  unfold resumeOutcome
  extract_lets
  split
  · exact Or.inl rfl
  · right
    rw [terminalize_whole, attachRecoveryBans_players]
    exact whole_perm (sortPlayers_perm _)

theorem resumeMatchRecovery_whole {request : CompletedMatchRequest} {events : List ProviderEvent}
    {outcome : CompletedMatchResolution}
    (run : Exec anyReply () (resumeMatchRecovery request) events (.ok outcome) ())
    (complete : outcome.complete) : outcome.whole ↔ (publicIds (cachedPlayers events)).Nodup := by
  have settled : outcome.status ≠ .recoveryPending := by
    rcases complete with direct | recovered
    · simp [direct]
    · simp [recovered]
  unfold resumeMatchRecovery at run
  split at run
  · obtain ⟨-, made, -⟩ := exec_done run
    cases made
  split at run
  · obtain ⟨-, made, -⟩ := exec_done run
    cases made
  obtain ⟨reply, _, rest, -, continues, rfl⟩ := exec_call_iff.mp run
  cases reply with
  | error error =>
      obtain ⟨-, made, -⟩ := exec_done continues
      cases made
  | ok localPlayers =>
      change Exec _ _ (resumeWith request localPlayers) _ _ _ at continues
      unfold resumeWith at continues
      simp only at continues
      split at continues
      · obtain ⟨-, made, -⟩ := exec_done continues
        cases made
        exact absurd rfl settled
      · rename_i score found
        obtain ⟨_, ten⟩ := Option.filter_eq_some_iff.mp found
        obtain ⟨demo, _, last, -, returned, rfl⟩ := exec_call_iff.mp continues
        obtain ⟨-, made, -⟩ := exec_done returned
        cases made
        rcases resumeOutcome_cases request (usablePlayers localPlayers) score _ with pending | whole
        · exact absurd pending settled
        · rw [whole, whole_usable (by simpa using ten)]
          rfl

/-- A complete outcome with a fixed roster is whole exactly when the provider has
sent consistent rows for its match; a resumed one, when the cached rows repeat no
player. -/
theorem complete_outcome_whole_iff_rows_consistent
    (answer : List ProviderEvent → (op : ProviderOp) → op.Reply) :
    (∀ requests outcomes, (play answer [] (getMatchDetailsBatch requests)).2 = .ok outcomes →
      ∀ (index : Nat) request outcome, requests[index]? = some request → outcomes[index]? = some outcome →
        outcome.complete → outcome.fixedRoster →
        let events := (play answer [] (getMatchDetailsBatch requests)).1
        (outcome.whole ↔ Consistent request (directById (suppliedDetails events) request.matchId)
          (eventsOf request.matchId events))) ∧
    ∀ request outcome, (play answer [] (resumeMatchRecovery request)).2 = .ok outcome →
      outcome.complete → outcome.fixedRoster →
      (outcome.whole ↔
        (publicIds (cachedPlayers (play answer [] (resumeMatchRecovery request)).1)).Nodup) := by
  constructor
  · intro requests outcomes returned index request outcome asked found complete fixed events
    have run := play_exec answer [] (getMatchDetailsBatch requests)
    rw [returned] at run
    exact resolveRequest_whole (getMatchDetailsBatch_exec run asked found) complete fixed
  · intro request outcome returned complete _
    have run := play_exec answer [] (resumeMatchRecovery request)
    rw [returned] at run
    exact resumeMatchRecovery_whole run complete

def exampleRow (id : Nat) : Value := .object [("player_id", .integer id), ("Match", .integer 1)]

def exampleScore : Value :=
  .object [("team1", .integer 4), ("team2", .integer 2), ("winner", .integer 1)]

/-- A ranked match of which the vendor sent seven public and two private rows; the
roster names three more players, two of them those behind the private rows. -/
def privateRowsProvider : (op : ProviderOp) → op.Reply
  | .getMatchDetailsBatch _ => .ok [{
      matchId := 1
      queueId := 486
      entryDatetime := "1/1/2026 1:00:00 PM"
      directScoreObservations := some [exampleScore, exampleScore]
      players := [1, 2, 3, 4, 5, 6, 7, 0, 0].map exampleRow }]
  | .getPlayerBatchFromMatch _ => .ok ([1, 2, 3, 4, 5, 6, 7, 8, 9, 10].map exampleRow)
  | .getMatchHistoryWithUsage playerId _ => .ok ([exampleRow playerId], 1)
  | .getDemoDetails _ => .error (.upstream "unused")
  | .getLocalRecoveryPlayers _ => .ok []

theorem toOption_eq_some {ε A : Type} {result : Except ε A} {value : A} :
    result.toOption = some value ↔ result = .ok value := by
  cases result <;> simp [Except.toOption]

/-- The two private rows are kept beside the rows of the players behind them. -/
theorem complete_outcome_with_twelve_rows :
    ∃ outcomes outcome,
      (play (fun _ => privateRowsProvider) [] (getMatchDetailsBatch [⟨1, some 486⟩])).2 = .ok outcomes ∧
        outcomes[0]? = some outcome ∧ outcome.complete ∧ outcome.fixedRoster ∧ ¬ outcome.whole := by
  have computed : ((play (fun _ => privateRowsProvider) [] (getMatchDetailsBatch [⟨1, some 486⟩])).2.toOption.any
      fun outcomes => outcomes[0]?.any fun outcome => outcome.status == .completeRecovered &&
        outcome.match_.any fun details => !variableRoster details.queueId && details.players.length == 12) = true := by
    decide +kernel
  simp only [Option.any_eq_true, Bool.and_eq_true, beq_iff_eq, Bool.not_eq_true'] at computed
  obtain ⟨outcomes, returned, outcome, first, status, details, carried, fixed, twelve⟩ := computed
  refine ⟨outcomes, outcome, toOption_eq_some.mp returned, first, Or.inr status, ?_, ?_⟩
  · intro other same
    rw [carried] at same
    cases same
    exact fixed
  · rintro ⟨other, same, ten, _⟩
    rw [carried] at same
    cases same
    omega

end PaladinsCat.Resolver
