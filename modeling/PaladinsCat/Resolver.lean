import PaladinsCat.MatchDetails

/-!
Completed-match resolution in the relay (resolver.rs), as programs over the calls
of `CompletedMatchProvider`. One shared detail call covers the batch; each match
that it left incomplete is then recovered by itself, ranked matches from the local
cache or from the roster and the players' histories, others from the roster alone.

The history calls of one match overlap in the source (`buffered(5)`), but their
results are collected in order and nothing else happens meanwhile; they are made
one after the other here.
-/

namespace PaladinsCat.Resolver

open Interleaving Program
open Hirez (Value)
open KeyPool (u64Max u32Max saturatingAdd)

inductive ProviderOp where
  | getMatchDetailsBatch (matchIds : List Nat)
  | getPlayerBatchFromMatch (matchId : Nat)
  | getMatchHistoryWithUsage (playerId matchId : Nat)
  | getDemoDetails (matchId : Nat)
  | getLocalRecoveryPlayers (matchId : Nat)
  deriving DecidableEq

abbrev ProviderOp.Reply : ProviderOp → Type
  | .getMatchDetailsBatch _ => Except RelayError (List MatchDetails)
  | .getPlayerBatchFromMatch _ | .getLocalRecoveryPlayers _ => Except RelayError (List Value)
  -- the rows, and how many vendor calls they took
  | .getMatchHistoryWithUsage _ _ => Except RelayError (List Value × Nat)
  | .getDemoDetails _ => Except RelayError Value

abbrev ProviderProgram := Program ProviderOp ProviderOp.Reply
abbrev ProviderEvent := Event Unit ProviderOp ProviderOp.Reply

def rankedQueueId : Nat := 486

/-! ### Fields -/

def numberField (value : Value) (keys : List String) : Option Nat :=
  keys.findSome? fun key => (value.get key).bind unsignedNumber

def toU32 (number : Nat) : Option Nat := if number ≤ u32Max then some number else none

def toI32 (number : Int) : Option Int := if i32Min ≤ number ∧ number ≤ i32Max then some number else none

def stringField (value : Value) (keys : List String) : String :=
  (keys.findSome? fun key => (value.get key).bind Value.asStr).getD ""

def signedNumberField (value : Value) (keys : List String) : Option Int :=
  keys.findSome? fun key => (value.get key).bind fun field =>
    (field.asI64.bind toI32).or <| (field.asU64.bind fun number => toI32 number).or <|
      field.asStr.bind (Text.parseSigned i32Min i32Max)

/-! ### Scores -/

structure ResolvedScore where
  team1 : Int
  team2 : Int
  winner : Int
  deriving DecidableEq, Repr

def validCompletedScore (score : ResolvedScore) : Bool :=
  decide (0 ≤ score.team1) && decide (0 ≤ score.team2) &&
    (score.winner == 1 || score.winner == 2) &&
    (if score.winner = 1 then decide (score.team2 < score.team1) else decide (score.team1 < score.team2))

structure ScoreKeys where
  team1 : List String
  team2 : List String
  winner : List String

def directScoreKeys : ScoreKeys :=
  ⟨["team1", "team1_score", "Team1Score", "Team1_Score"],
    ["team2", "team2_score", "Team2Score", "Team2_Score"],
    ["winner", "winning_task_force", "Winning_TaskForce", "Winning_Task_Force"]⟩

def historyScoreKeys : ScoreKeys :=
  ⟨["history_team1_score"], ["history_team2_score"], ["history_winning_task_force"]⟩

def bearsScore (keys : ScoreKeys) (observation : Value) : Bool :=
  (keys.team1 ++ keys.team2 ++ keys.winner).any fun key =>
    (observation.get key).any fun value => !value.isNull && value.asStr != some ""

def observedScore (keys : ScoreKeys) (observation : Value) : Option ResolvedScore := do
  let team1 ← signedNumberField observation keys.team1
  let team2 ← signedNumberField observation keys.team2
  let winner ← signedNumberField observation keys.winner
  return ⟨team1, team2, winner⟩

/-- The loop: every observation has to bear a valid score, and all the same one. -/
def agreedScore (keys : ScoreKeys) : Option ResolvedScore → List Value → Option ResolvedScore
  | resolved, [] => resolved
  | resolved, observation :: rest =>
      match observedScore keys observation with
      | none => none
      | some candidate =>
          if !validCompletedScore candidate || resolved.any (· != candidate) then none
          else agreedScore keys (some candidate) rest

def resolveObservedScore (keys : ScoreKeys) (observations : List Value) : Option ResolvedScore :=
  let scoreBearing := observations.filter (bearsScore keys)
  if scoreBearing.length < 2 then none else agreedScore keys none scoreBearing

def resolveDirectScore (details : MatchDetails) : Option ResolvedScore :=
  details.directScoreObservations.bind (resolveObservedScore directScoreKeys)

def resolveHistoryScore (players : List Value) : Option ResolvedScore :=
  resolveObservedScore historyScoreKeys players

def MatchDetails.setScore (details : MatchDetails) (score : ResolvedScore) : MatchDetails :=
  { details with
    team1Score := some score.team1
    team2Score := some score.team2
    winningTaskForce := some score.winner }

/-! ### Rosters -/

def needsRecovery (details : MatchDetails) : Bool :=
  let count := usablePlayerCount details.players
  if variableRoster details.queueId then count == 0 else count != 10

def isRecoverableMatchDetailError (error : RelayError) : Bool :=
  let message := Text.toAsciiLowercase error.toString
  ["hirez_unknown_return", "int16", "skin_id", "skin id", "too large", "too small"].any
    (Text.contains message)

def privateCount (players : List Value) : Nat := players.countP fun player => playerId player == 0

/-- The loop of `merge_players` over all rows: a public row is kept if its id is
new, a private one while there is room. -/
def mergeRows (targetPrivate : Nat) : List Nat → Nat → List Value → List Value
  | _, _, [] => []
  | publicIds, privates, player :: rest =>
      if 0 < playerId player then
        if playerId player ∈ publicIds then mergeRows targetPrivate publicIds privates rest
        else player :: mergeRows targetPrivate (playerId player :: publicIds) privates rest
      else if privates < targetPrivate then
        player :: mergeRows targetPrivate publicIds (privates + 1) rest
      else mergeRows targetPrivate publicIds privates rest

def mergePlayers (direct recovered : List Value) : List Value :=
  mergeRows (max (privateCount direct) (privateCount recovered)) [] 0 (direct ++ recovered)

def rosterPlayerId (player : Value) : Nat :=
  playerNumber player ["ActivePlayerId", "playerId", "player_id", "Id"]

def usableRoster (roster : List Value) : List Value :=
  roster.filter fun player => ((player.get "ret_msg").bind Value.asStr).all fun message =>
    Text.trim message == ""

/-- The profiles are collected into a map by id, so the last one with an id counts. -/
def profileOf (roster : List Value) (id : Nat) : Option Value :=
  if 0 < id then (roster.filter fun profile => rosterPlayerId profile == id).getLast? else none

def unsignedOrText (value : Value) : Option Nat :=
  value.asU64.or (value.asStr.bind (Text.parseUnsigned u64Max))

def enrichPlatform (profile player : Value) : Value :=
  if ((player.get "platform").bind Value.asStr).all (· == "") then
    match (profile.get "Platform").bind Value.asStr with
    | some platform => player.insert "platform" (.string platform)
    | none => player
  else player

def enrichLevel (profile player : Value) : Value :=
  if ((player.get "account_level").bind unsignedOrText).getD 0 = 0 then
    match (profile.get "Level").bind unsignedOrText with
    | some level => player.insert "account_level" (.integer level)
    | none => player
  else player

def enrichPlayer (roster : List Value) (player : Value) : Value :=
  match profileOf roster (playerNumber player ["player_id", "playerId", "Id"]) with
  | some profile => enrichLevel profile (enrichPlatform profile player)
  | none => player

def enrichRecoveredPlayers (recovered roster : List Value) : List Value :=
  recovered.map (enrichPlayer roster)

/-! ### Outcomes -/

def banKeys : List String :=
  ["ban_id_1", "ban_id_2", "ban_id_3", "ban_id_4", "ban_id_5", "ban_id_6", "ban_id_7", "ban_id_8"]

def banId (player : Value) (key : String) : Nat := (numberField player [key]).getD 0

def attachRecoveryBans (details : MatchDetails) : MatchDetails :=
  match details.players.head? with
  | none => details
  | some player =>
      { details with
        extra := banKeys.foldl (fun extra key =>
          Function.update extra key (some (.integer (banId player key)))) details.extra }

def terminalize (request : CompletedMatchRequest) (details : MatchDetails)
    (status : CompletedMatchResolutionStatus) (reason : Option String) : CompletedMatchResolution :=
  { matchId := request.matchId
    queueId := max details.queueId (request.queueId.getD 0)
    status
    match_ := some { details with players := sortPlayers details.players }
    roster := none
    reason }

def droppedOutcome (request : CompletedMatchRequest) (reason : String) : CompletedMatchResolution :=
  { matchId := request.matchId
    queueId := request.queueId.getD 0
    status := .dropped
    match_ := none
    roster := none
    reason := some reason }

/-- The flags that every recovery path sets. -/
def MatchDetails.markRecovery (details : MatchDetails) (source : Option String)
    (apiCalls : Option Nat) (terminal pending limited : Bool) : MatchDetails :=
  { details with
    recoverySource := source
    recoveryApiCalls := apiCalls
    recoveryAttempted := some true
    recoveryTerminal := some terminal
    recoveryPending := some pending
    limited := some limited }

def shellFromDemo (request : CompletedMatchRequest) (demo : Value) : MatchDetails :=
  let region := stringField demo ["Region", "region"]
  { matchId := request.matchId
    entryDatetime := stringField demo ["Entry_Datetime", "entry_datetime"]
    map := stringField demo ["Map_Game", "map"]
    queueId := (((numberField demo ["Queue", "match_queue_id", "Queue_Id"]).bind toU32).or
      request.queueId).getD 0
    durationSeconds :=
      ((numberField demo ["Match_Time", "Match_Duration", "duration_seconds"]).bind toU32).getD 0
    minutes := ((numberField demo ["Minutes", "minutes"]).bind toU32).getD 0
    region := if region = "" then "Unknown" else region
    hasReplay := some (((demo.get "hasReplay").or (demo.get "has_replay")).any fun value =>
      value.asBool == some true || value.asStr.any fun text => Text.eqIgnoreAsciiCase text "y") }

/-! ### recover_ranked -/

def directPlayers (direct : Option MatchDetails) : List Value :=
  (direct.map fun details => usablePlayers details.players).getD []

/-- Cached rows of players that the direct rows do not name. -/
def localMissing (direct : Option MatchDetails) (localPlayers : List Value) : List Value :=
  let directIds := (directPlayers direct).map playerId
  localPlayers.filter fun player => decide (0 < playerId player) && !directIds.contains (playerId player)

/-- The recovery that spends no call: ten rows, a match shell and a score are there. -/
def localPreflight (request : CompletedMatchRequest) (direct : Option MatchDetails)
    (localPlayers : List Value) : Option CompletedMatchResolution := do
  let missing := localMissing direct localPlayers
  let merged := mergePlayers (directPlayers direct) missing
  let shell ← direct
  if merged.length = 10 ∧ 0 < shell.queueId ∧ shell.entryDatetime ≠ "" then
    let score ← (resolveDirectScore shell).or (resolveHistoryScore missing)
    let recovered := ({ shell with players := merged }.setScore score).markRecovery
      (some "local_preflight") (some 0) false false false
    return terminalize request (attachRecoveryBans recovered) .completeRecovered none
  else none

/-- The exits that keep the direct rows, or else drop the match. -/
def retainDirect (request : CompletedMatchRequest) (direct : Option MatchDetails)
    (source : String) (terminal : Bool) (reason : String) : CompletedMatchResolution :=
  match direct with
  | some details =>
      if (directPlayers direct).isEmpty then
        droppedOutcome request "relay recovery returned no authoritative match or roster facts"
      else
        terminalize request
          (attachRecoveryBans ({ details with players := directPlayers direct }.markRecovery
            (some source) (some 1) terminal false true)) .limited (some reason)
  | none => droppedOutcome request "relay recovery returned no authoritative match or roster facts"

def fetchHistories (matchId : Nat) : List Nat →
    ProviderProgram (List (Except RelayError (List Value × Nat)))
  | [] => return []
  | playerId :: rest => do
      let history ← perform (ProviderOp.getMatchHistoryWithUsage playerId matchId)
      return history :: (← fetchHistories matchId rest)

/-- The row of the match in one player's history. -/
def targetRow (matchId : Nat) : Except RelayError (List Value × Nat) → Option Value
  | .ok (rows, _) => rows.find? fun row =>
      playerNumber row ["Match", "match_id", "MatchId"] == matchId
  | .error _ => none

def historyCalls : Except RelayError (List Value × Nat) → Nat
  | .ok (_, apiCalls) => apiCalls
  | .error _ => 1

/-- What `recover_ranked` makes of the histories and of a match shell. -/
def recoveredOutcome (request : CompletedMatchRequest) (direct : Option MatchDetails)
    (roster : List Value) (histories : List (Except RelayError (List Value × Nat)))
    (shell : MatchDetails) : CompletedMatchResolution :=
  let recovered := enrichRecoveredPlayers (histories.filterMap (targetRow request.matchId)) roster
  let unresolved := histories.countP fun history => (targetRow request.matchId history).isNone
  let historyApiCalls := (histories.map historyCalls).foldl (saturatingAdd u32Max) 0
  let apiCalls := saturatingAdd u32Max (saturatingAdd u32Max 1 historyApiCalls)
    (if direct.isNone then 1 else 0)
  let players := mergePlayers (directPlayers direct) recovered
  let directScore := direct.bind resolveDirectScore
  match directScore.or (resolveHistoryScore recovered) with
  | some score =>
      if 0 < unresolved ∨ players.length < 10 then
        terminalize request
          (attachRecoveryBans ({ shell with players }.markRecovery
            (some "target_history_unresolved") (some apiCalls) false true false))
          .recoveryPending (some "target_history_unresolved")
      else
        let source := if directScore.isSome then "broken_match" else "history"
        terminalize request
          ((attachRecoveryBans ({ shell with players := sortPlayers players }.markRecovery
            (some source) (some apiCalls) false false false)).setScore score)
          .completeRecovered none
  | none =>
      terminalize request
        (attachRecoveryBans ({ shell with players }.markRecovery
          (some "target_history_unresolved") (some apiCalls) false true false))
        .recoveryPending (some "target_history_unresolved")

def recoverFromRoster (request : CompletedMatchRequest) (direct : Option MatchDetails) :
    ProviderProgram CompletedMatchResolution := do
  match ← perform (ProviderOp.getPlayerBatchFromMatch request.matchId) with
  | .error _ =>
      return retainDirect request direct "getplayerbatchfrommatch_failed" false
        "getplayerbatchfrommatch_failed"
  | .ok rows =>
  let roster := usableRoster rows
  let rosterIds := (roster.map rosterPlayerId).filter (0 < ·)
  if rosterIds.isEmpty then
    return retainDirect request direct "no_player_anchors" true "no player anchors"
  let directIds := (directPlayers direct).map playerId
  let histories ← fetchHistories request.matchId (rosterIds.filter fun id => !directIds.contains id)
  match direct with
  | some details => return recoveredOutcome request direct roster histories details
  | none =>
      let demo ← perform (ProviderOp.getDemoDetails request.matchId)
      let shell := shellFromDemo request (match demo with
        | .ok value => value
        | .error _ => .null)
      return recoveredOutcome request direct roster histories shell

/-- `recover_ranked` once the local rows are there. -/
def recoverRankedWith (request : CompletedMatchRequest) (direct : Option MatchDetails)
    (localPlayers : List Value) : ProviderProgram (Except RelayError CompletedMatchResolution) :=
  match localPreflight request direct localPlayers with
  | some outcome => return .ok outcome
  | none => do return .ok (← recoverFromRoster request direct)

def recoverRanked (request : CompletedMatchRequest) (direct : Option MatchDetails) :
    ProviderProgram (Except RelayError CompletedMatchResolution) := do
  if privateCount (directPlayers direct) = 0 then
    match ← perform (ProviderOp.getLocalRecoveryPlayers request.matchId) with
    | .error error => return .error error
    | .ok localPlayers => recoverRankedWith request direct localPlayers
  else return .ok (← recoverFromRoster request direct)

/-! ### recover_presence -/

def presenceOutcome (request : CompletedMatchRequest) (direct : Option MatchDetails) :
    Except RelayError (List Value) → CompletedMatchResolution
  | .ok rows =>
      let roster := usableRoster rows
      match direct.filter fun _ => !(directPlayers direct).isEmpty with
      | some details =>
          { matchId := request.matchId
            queueId := max details.queueId (request.queueId.getD 0)
            status := .limited
            match_ := some ({ details with players := directPlayers direct }.markRecovery
              details.recoverySource details.recoveryApiCalls true false true)
            roster := if roster.isEmpty then none else some roster
            reason := some "presence roster recovered from incomplete detail" }
      | none =>
          if roster.isEmpty then
            droppedOutcome request "single relay pass returned no match or roster facts"
          else
            { matchId := request.matchId
              queueId := request.queueId.getD 0
              status := .rosterOnly
              match_ := none
              roster := some roster
              reason := some "presence roster recovered without match detail" }
  | .error error =>
      match direct.filter fun _ => !(directPlayers direct).isEmpty with
      | some details =>
          terminalize request ({ details with players := directPlayers direct }.markRecovery
            details.recoverySource details.recoveryApiCalls true false true) .limited
            (some ("presence detail retained without roster anchors: " ++ error.toString))
      | none =>
          droppedOutcome request
            ("single relay pass returned no match or roster facts: " ++ error.toString)

def recoverPresence (request : CompletedMatchRequest) (direct : Option MatchDetails) :
    ProviderProgram (Except RelayError CompletedMatchResolution) := do
  match direct.filter fun details => !needsRecovery details with
  | some details => return .ok (terminalize request details .completeDirect none)
  | none =>
      let roster ← perform (ProviderOp.getPlayerBatchFromMatch request.matchId)
      return .ok (presenceOutcome request direct roster)

/-! ### get_match_details_batch -/

def validateEach (seen : List Nat) : List CompletedMatchRequest → Except RelayError Unit
  | [] => .ok ()
  | request :: rest =>
      if request.matchId = 0 then .error (.validation "matchId must be a positive integer")
      else if request.matchId ∈ seen then
        .error (.validation ("requests contains duplicate matchId " ++ toString request.matchId))
      else if request.queueId = some 0 then
        .error (.validation "queueId must be a positive integer")
      else validateEach (request.matchId :: seen) rest

def validateRequests (requests : List CompletedMatchRequest) : Except RelayError Unit :=
  if requests.isEmpty || decide (10 < requests.length) then
    .error (.validation "requests must contain between 1 and 10 matches")
  else validateEach [] requests

/-- A later match with the same id overwrites an earlier one. -/
def directById (details : List MatchDetails) : Nat → Option MatchDetails :=
  details.foldl (fun byId entry => Function.update byId entry.matchId (some entry)) fun _ => none

/-- Each request takes its match out of the map. -/
def takeDirect (byId : Nat → Option MatchDetails) :
    List CompletedMatchRequest → List (CompletedMatchRequest × Option MatchDetails)
  | [] => []
  | request :: rest =>
      (request, byId request.matchId) :: takeDirect (Function.update byId request.matchId none) rest

/-- A request without a queue takes over the queue of its match. -/
def inheritQueue (request : CompletedMatchRequest) (direct : Option MatchDetails) :
    CompletedMatchRequest :=
  match request.queueId, direct with
  | none, some details =>
      if 0 < details.queueId then { request with queueId := some details.queueId } else request
  | _, _ => request

def resolveRequest (asked : CompletedMatchRequest) (direct : Option MatchDetails) :
    ProviderProgram (Except RelayError CompletedMatchResolution) :=
  let request := inheritQueue asked direct
  match direct.filter fun details => !needsRecovery details with
  | some details => return .ok (terminalize request details .completeDirect none)
  | none =>
      if request.queueId.all (· == rankedQueueId) then recoverRanked request direct
      else recoverPresence request direct

def resolveEach : List (CompletedMatchRequest × Option MatchDetails) →
    ProviderProgram (List (Except RelayError CompletedMatchResolution))
  | [] => return []
  | (request, direct) :: rest => do
      let outcome ← resolveRequest request direct
      return outcome :: (← resolveEach rest)

/-- `collect` into a `Result`: the first error, or all values. -/
def collectOutcomes {α : Type} : List (Except RelayError α) → Except RelayError (List α)
  | [] => .ok []
  | .error error :: _ => .error error
  | .ok value :: rest => (collectOutcomes rest).map (value :: ·)

def resolveWork (requests : List CompletedMatchRequest) (details : List MatchDetails) :
    ProviderProgram (Except RelayError (List CompletedMatchResolution)) := do
  return collectOutcomes (← resolveEach (takeDirect (directById details) requests))

def getMatchDetailsBatch (requests : List CompletedMatchRequest) :
    ProviderProgram (Except RelayError (List CompletedMatchResolution)) := do
  match validateRequests requests with
  | .error error => return .error error
  | .ok () =>
  match ← perform (ProviderOp.getMatchDetailsBatch (requests.map (·.matchId))) with
  | .ok details => resolveWork requests details
  | .error error =>
      if isRecoverableMatchDetailError error then resolveWork requests []
      else return .error error

/-! ### resume_match_recovery -/

def resumePending (request : CompletedMatchRequest) (queueId : Nat) (reason : String) :
    CompletedMatchResolution :=
  { matchId := request.matchId
    queueId
    status := .recoveryPending
    match_ := none
    roster := none
    reason := some reason }

/-- `resume_match_recovery` once the demo is there. -/
def resumeOutcome (request : CompletedMatchRequest) (players : List Value) (score : ResolvedScore)
    (demo : Value) : CompletedMatchResolution :=
  let drawn := shellFromDemo request demo
  let shell := if drawn.queueId = 0 then { drawn with queueId := request.queueId.getD 0 } else drawn
  if shell.queueId = 0 ∨ shell.entryDatetime = "" ∨ shell.durationSeconds = 0 then
    resumePending request shell.queueId "demo detail did not provide an authoritative match shell"
  else
    let resumed := ({ shell with players := sortPlayers players }.markRecovery
      (some "local_resume") (some 1) false false false).setScore score
    terminalize request (attachRecoveryBans resumed) .completeRecovered none

/-- `resume_match_recovery` once the local rows are there. -/
def resumeWith (request : CompletedMatchRequest) (localPlayers : List Value) :
    ProviderProgram (Except RelayError CompletedMatchResolution) :=
  let players := usablePlayers localPlayers
  match (resolveHistoryScore players).filter fun _ => players.length == 10 with
  | none =>
      return .ok (resumePending request (request.queueId.getD 0)
        "local recovery evidence is not yet complete")
  | some score => do
      let demo ← perform (ProviderOp.getDemoDetails request.matchId)
      return .ok (resumeOutcome request players score (match demo with
        | .ok value => value
        | .error _ => .null))

def resumeMatchRecovery (request : CompletedMatchRequest) :
    ProviderProgram (Except RelayError CompletedMatchResolution) := do
  if request.matchId = 0 then return .error (.validation "matchId must be a positive integer")
  if request.queueId = some 0 then return .error (.validation "queueId must be a positive integer")
  match ← perform (ProviderOp.getLocalRecoveryPlayers request.matchId) with
  | .error error => return .error error
  | .ok localPlayers => resumeWith request localPlayers

end PaladinsCat.Resolver
