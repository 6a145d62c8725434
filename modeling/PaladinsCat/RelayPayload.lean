import PaladinsCat.BackendStore
import PaladinsCat.MatchDetails

/-!
What the backend makes of an outcome of the relay (match_facts.rs, pipeline.rs,
requested_match.rs). Both ingest paths decode the same match and hand it to the same
`finalize`; what they test before that is not the same.
-/

namespace PaladinsCat.Backend

open Hirez (Value)

/-! ### queue.rs -/

structure ScoreEvidence where
  team1 : Option Int
  team2 : Option Int
  winner : Option Int
  deriving DecidableEq

def hasOptionalCompletedScore (queueId : Int) : Bool :=
  Resolver.hasVariableHumanRoster queueId || queueId == 10332

def validStandardScore (score : ScoreEvidence) : Bool :=
  match score.team1, score.team2, score.winner with
  | some team1, some team2, some winner =>
      decide (0 ≤ team1) && decide (0 ≤ team2) &&
        ((winner == 1 && decide (team2 < team1)) || (winner == 2 && decide (team1 < team2)))
  | _, _, _ => false

def normalizeScoreEvidence (queueId : Int) (score : ScoreEvidence) : ScoreEvidence :=
  if validStandardScore score then score
  else if hasOptionalCompletedScore queueId &&
      (score.team1.isNone || score.team2.isNone || score.winner.all (fun value => value != 1 && value != 2) ||
        score.team1.any (fun value => decide (value < 0)) || score.team2.any fun value => decide (value < 0)) then
    ⟨none, none, none⟩
  else score

def scoreEvidenceIsComplete (queueId : Int) (score : ScoreEvidence) : Bool :=
  let normalized := normalizeScoreEvidence queueId score
  (hasOptionalCompletedScore queueId && normalized == ⟨none, none, none⟩) || validStandardScore normalized

/-! ### Player rows -/

def playerI64 (player : Value) (name : String) : Int :=
  ((player.get name).bind fun value =>
    value.asI64.or (value.asStr.bind (Text.parseSigned (-2 ^ 63) (2 ^ 63 - 1)))).getD 0

def playerText (player : Value) (name : String) : String := ((player.get name).bind Value.asStr).getD ""

def isPrivatePlayer (player : Value) : Bool :=
  playerI64 player "player_id" == 0 && Text.eqIgnoreAsciiCase (playerText player "player_name") "PRIVATEACCOUNT"

def isDetailedPlayer (player : Value) : Bool :=
  let source := Text.toAsciiLowercase (playerText player "source")
  let taskForce := playerI64 player "task_force"
  let winStatus := Text.toAsciiLowercase (playerText player "win_status")
  decide (0 < playerI64 player "champion_id") && (source == "direct" || source == "recovered") &&
    (taskForce == 1 || taskForce == 2) && ["winner", "win", "loser", "loss"].contains winStatus

/-! ### CanonicalMatchPayload -/

/-- `CanonicalMatchPayload` as it is decoded, with the players still as JSON. -/
structure RelayPayload where
  matchId : Int
  entryDatetime : String
  map : String
  queueId : Int
  durationSeconds : Int
  region : String
  score : ScoreEvidence
  hasReplay : Option Bool
  recoverySource : Option String
  recoveryApiCalls : Option Int
  limited : Option Bool
  players : List Value

inductive MatchFactError where
  | invalidPayload (message : String)
  | queueConflict (matchId existing incoming : Int)
  deriving DecidableEq

def MatchFactError.toString : MatchFactError → String
  | .invalidPayload message => "invalid canonical match payload: " ++ message
  | .queueConflict matchId existing incoming =>
      "match " ++ ToString.toString matchId ++ " was already assigned queue " ++ ToString.toString existing ++
        "; refusing fact queue " ++ ToString.toString incoming

mutual

def unwrapRelayMatch : Value → Option Value
  | .array items => unwrapFirst items
  | .object fields =>
      match fields.lookup "match" with
      | some (.object nested) => some (.object nested)
      | _ =>
          if (fields.lookup "match_id").isSome then some (.object (fields.filter fun field => field.1 != "match"))
          else none
  | _ => none

def unwrapFirst : List Value → Option Value
  | [] => none
  | item :: rest => (unwrapRelayMatch item).or (unwrapFirst rest)

end

/-- A field with `#[serde(default)]`. -/
def fieldOr {α : Type} (object : Value) (name : String) (absent : α) (read : Value → Option α) : Option α :=
  match object.get name with
  | none => some absent
  | some value => read value

def asI32 (value : Value) : Option Int :=
  value.asI64.filter fun number => decide (Resolver.i32Min ≤ number) && decide (number ≤ Resolver.i32Max)

def asArray : Value → Option (List Value)
  | .array items => some items
  | _ => none

/-- An `Option` field: `null` is `None`. -/
def optional {α : Type} (read : Value → Option α) (value : Value) : Option (Option α) :=
  if value.isNull then some none else (read value).map some

def decodePayload (object : Value) : Option RelayPayload := do
  let matchId ← (object.get "match_id").bind Value.asI64
  let entryDatetime ← fieldOr object "entry_datetime" "" Value.asStr
  let map ← fieldOr object "map" "" Value.asStr
  let queueId ← fieldOr object "queue_id" 0 asI32
  let durationSeconds ← fieldOr object "duration_seconds" 0 asI32
  let region ← fieldOr object "region" "" Value.asStr
  let team1 ← fieldOr object "team1_score" none (optional asI32)
  let team2 ← fieldOr object "team2_score" none (optional asI32)
  let winner ← fieldOr object "winning_task_force" none (optional asI32)
  let hasReplay ← fieldOr object "has_replay" none (optional Value.asBool)
  let recoverySource ← fieldOr object "recovery_source" none (optional Value.asStr)
  let recoveryApiCalls ← fieldOr object "recovery_api_calls" none (optional asI32)
  let limited ← fieldOr object "limited" none (optional Value.asBool)
  let players ← fieldOr object "players" [] asArray
  return { matchId, entryDatetime, map, queueId, durationSeconds, region, score := ⟨team1, team2, winner⟩,
           hasReplay, recoverySource, recoveryApiCalls, limited, players }

/-- What `validate` objects to, in its order. -/
def validationError (payload : RelayPayload) : Option String :=
  if payload.matchId ≤ 0 then some "match_id must be positive"
  else if payload.queueId ≤ 0 then some "queue_id must be positive"
  else if payload.durationSeconds ≤ 0 then some "duration_seconds must be positive"
  else if Text.trim payload.map = "" then some "map must be present"
  else if Text.trim payload.entryDatetime = "" then some "entry_datetime must be present"
  else if scoreEvidenceIsComplete payload.queueId payload.score = false then
    some "completed match score is missing or contradictory"
  else if payload.players.isEmpty then some "players must not be empty"
  else if payload.players.any fun player => !player.isObject then some "every player fact must be an object"
  else none

def RelayPayload.validate (payload : RelayPayload) : Except MatchFactError RelayPayload :=
  match validationError payload with
  | some message => .error (.invalidPayload message)
  | none => .ok payload

def fromRelayValue (value : Value) : Except MatchFactError RelayPayload :=
  match unwrapRelayMatch value with
  | none => .error (.invalidPayload "relay response did not contain a completed match")
  | some candidate =>
      match decodePayload candidate with
      -- the message ends with the decoder's own text
      | none => .error (.invalidPayload "match contract decode failed: ")
      | some payload => { payload with score := normalizeScoreEvidence payload.queueId payload.score }.validate

def teamSize (players : List Value) (taskForce : Int) : Nat :=
  players.countP fun player => playerI64 player "task_force" == taskForce

/-- `validate_authoritative_players`. -/
def rosterError (payload : RelayPayload) : Option String :=
  let one := teamSize payload.players 1
  let two := teamSize payload.players 2
  if payload.limited = some true then none
  else if Resolver.hasVariableHumanRoster payload.queueId = false ∧ payload.players.length ≠ 10 then
    some ("complete match requires 10 logical players; received " ++ toString payload.players.length)
  else if Resolver.hasVariableHumanRoster payload.queueId = false ∧ (one ≠ 5 ∨ two ≠ 5) then
    some ("complete match requires a 5v5 roster; received " ++ toString one ++ "v" ++ toString two)
  else if payload.players.any fun player => !isPrivatePlayer player && !isDetailedPlayer player then
    some "public player facts must be direct or recovered authoritative rows"
  else none

/-- The facts that `finalize` writes of a payload, for a match whose row has this queue. -/
def finalizeFacts (assigned : Option Int) (payload : RelayPayload) : Except MatchFactError RelayPayload := do
  let payload ← payload.validate
  match rosterError payload with
  | some message => .error (.invalidPayload message)
  | none =>
      match assigned with
      | some queueId =>
          if queueId ≠ payload.queueId then .error (.queueConflict payload.matchId queueId payload.queueId)
          else .ok payload
      | none => .ok payload

/-! ### The hourly drain -/

def positiveId (value : Value) : Option Int :=
  (value.asI64.or (value.asStr.bind (Text.parseSigned (-2 ^ 63) (2 ^ 63 - 1)))).filter fun id => decide (0 < id)

def extractMatchId (value : Value) : Option Int :=
  [some value, value.get "match", value.get "payload"].reduceOption.findSome? fun candidate =>
    ["Match", "match_id", "matchId", "id"].findSome? fun key => (candidate.get key).bind positiveId

inductive WorkerRelayError where
  | transport (message : String)
  | operation (name message : String)
  | missingResult (name : String)
  deriving DecidableEq

def WorkerRelayError.toString : WorkerRelayError → String
  | .transport message => "HirezRelay transport failed: " ++ message
  | .operation name message => "HirezRelay " ++ name ++ " failed: " ++ message
  | .missingResult name => "HirezRelay " ++ name ++ " returned no result"

inductive PipelineError where
  | database (message : String)
  | relay (error : WorkerRelayError)
  | facts (message : String)
  | terminalFacts (matchId : Int) (reason : String)
  deriving DecidableEq

def PipelineError.toString : PipelineError → String
  | .database message => message
  | .relay error => error.toString
  | .facts message => "match fact finalization failed: " ++ message
  | .terminalFacts matchId reason =>
      "match " ++ ToString.toString matchId ++ " is terminally unavailable: " ++ reason

def validateRequestedOutcomes (requested : List Int) : List Int → List Value →
    Except PipelineError (List (Int × Value))
  | _, [] => .ok []
  | seen, outcome :: rest =>
      match extractMatchId outcome with
      | none => .error (.facts "canonical relay returned an outcome without a match ID")
      | some matchId =>
          if !requested.contains matchId then
            .error (.facts ("canonical relay returned unrequested match " ++ toString matchId))
          else if seen.contains matchId then
            .error (.facts ("canonical relay returned duplicate outcome for match " ++ toString matchId))
          else (validateRequestedOutcomes requested (matchId :: seen) rest).map ((matchId, outcome) :: ·)

/-- `checkpoint_canonical_outcome`: the facts that it has `finalize` write. The matches
of the drain have no row yet. -/
def hourlyFacts (outcome : Value) (queueId : Int) : Except PipelineError RelayPayload :=
  let matchId := (extractMatchId outcome).getD 0
  match fromRelayValue outcome with
  | .error error =>
      if matchId ≤ 0 then .error (.facts ("canonical relay outcome has no match ID: " ++ error.toString))
      else .error (.facts ("match " ++ toString matchId ++ " returned non-authoritative canonical evidence: " ++
        error.toString))
  | .ok payload =>
      if payload.queueId ≠ queueId then
        .error (.facts ("match " ++ toString payload.matchId ++ " discovered in queue " ++ toString queueId ++
          " returned queue " ++ toString payload.queueId))
      else
        match finalizeFacts none payload with
        | .error (.invalidPayload message) => .error (.facts message)
        | .error error => .error (.facts error.toString)
        | .ok facts => .ok facts

/-! ### The requested match -/

mutual

def terminalStatus : Value → Option String
  | .array items => terminalStatusOf items
  | .object fields => (fields.lookup "status").bind Value.asStr
  | _ => none

def terminalStatusOf : List Value → Option String
  | [] => none
  | item :: rest => (terminalStatus item).or (terminalStatusOf rest)

end

inductive RequestedMatchStatus where
  | notFound
  | recoveryFailed (error : String)
  deriving DecidableEq

/-- `ingest_discovery` from the relay's answer on: the facts that it has `finalize`
write. Its row has the queue of the discovery. -/
def requestedFacts (outcome : Value) (matchId queueId : Int) : Except RequestedMatchStatus RelayPayload :=
  if terminalStatus outcome = some "dropped" then .error .notFound
  else if terminalStatus outcome = some "recovery_pending" then
    .error (.recoveryFailed "HirezRelay did not produce a complete recoverable payload in this invocation")
  else
    match fromRelayValue outcome with
    | .error error => .error (.recoveryFailed error.toString)
    | .ok payload =>
        if payload.matchId ≠ matchId then
          .error (.recoveryFailed ("HirezRelay returned match " ++ toString payload.matchId ++
            " for requested match " ++ toString matchId))
        else
          match finalizeFacts (some queueId) payload with
          | .error error => .error (.recoveryFailed error.toString)
          | .ok facts => .ok facts

/-! ### One decision -/

def completeOutcome (outcome : Value) : Bool :=
  terminalStatus outcome == some "complete_direct" || terminalStatus outcome == some "complete_recovered"

/-- The statuses that `ingest_discovery` refuses. -/
def refusedOutcome (outcome : Value) : Bool :=
  terminalStatus outcome == some "dropped" || terminalStatus outcome == some "recovery_pending"

/-- The drain finalizes unmarked facts only of complete outcomes, and finalizes what the
requested match finalizes. -/
def DecidesAlike (outcome : Value) (matchId queueId : Int) : Prop :=
  (∀ facts, hourlyFacts outcome queueId = .ok facts → facts.limited ≠ some true → completeOutcome outcome = true) ∧
    ∀ facts, hourlyFacts outcome queueId = .ok facts ↔ requestedFacts outcome matchId queueId = .ok facts

theorem finalizeFacts_eq {assigned : Option Int} {payload facts : RelayPayload} :
    finalizeFacts assigned payload = .ok facts ↔
      facts = payload ∧ validationError payload = none ∧ rosterError payload = none ∧
        ∀ queueId, assigned = some queueId → payload.queueId = queueId := by
  unfold finalizeFacts RelayPayload.validate
  cases valid : validationError payload with
  | some message => simp [bind, Except.bind]
  | none =>
      simp only [bind, Except.bind]
      cases roster : rosterError payload with
      | some message => simp
      | none =>
          cases assigned with
          | none => simp [eq_comm]
          | some queueId =>
              by_cases same : queueId = payload.queueId
              · simp [same, eq_comm]
              · simp [same, Ne.symm same]

theorem fromRelayValue_valid {value : Value} {payload : RelayPayload} (decoded : fromRelayValue value = .ok payload) :
    validationError payload = none := by
  unfold fromRelayValue RelayPayload.validate at decoded
  split at decoded
  · cases decoded
  · split at decoded
    · cases decoded
    · split at decoded
      · cases decoded
      · rename_i valid
        cases decoded
        exact valid

theorem hourlyFacts_iff {outcome : Value} {queueId : Int} {facts : RelayPayload} :
    hourlyFacts outcome queueId = .ok facts ↔
      fromRelayValue outcome = .ok facts ∧ facts.queueId = queueId ∧ rosterError facts = none := by
  unfold hourlyFacts
  cases decoded : fromRelayValue outcome with
  | error error =>
      simp only [reduceCtorEq, false_and, iff_false]
      split <;> simp
  | ok payload =>
      have valid := fromRelayValue_valid decoded
      by_cases same : payload.queueId = queueId
      · simp only [same, ne_eq, not_true_eq_false, if_false, Except.ok.injEq]
        trans finalizeFacts none payload = .ok facts
        · split <;> simp_all
        · rw [finalizeFacts_eq]
          constructor
          · rintro ⟨rfl, -, complete, -⟩
            exact ⟨rfl, same, complete⟩
          · rintro ⟨rfl, -, complete⟩
            exact ⟨rfl, valid, complete, by simp⟩
      · simp only [ne_eq, same, not_false_eq_true, if_true, reduceCtorEq, false_iff, not_and, Except.ok.injEq]
        rintro rfl here
        exact absurd here same

theorem requestedFacts_iff {outcome : Value} {matchId queueId : Int} {facts : RelayPayload} :
    requestedFacts outcome matchId queueId = .ok facts ↔
      refusedOutcome outcome = false ∧ fromRelayValue outcome = .ok facts ∧ facts.matchId = matchId ∧
        facts.queueId = queueId ∧ rosterError facts = none := by
  unfold requestedFacts refusedOutcome
  by_cases dropped : terminalStatus outcome = some "dropped"
  · simp [dropped]
  · by_cases pending : terminalStatus outcome = some "recovery_pending"
    · simp [pending]
    · simp only [dropped, pending, if_false]
      cases decoded : fromRelayValue outcome with
      | error error => simp
      | ok payload =>
          have valid := fromRelayValue_valid decoded
          by_cases same : payload.matchId = matchId
          · simp only [same, ne_eq, not_true_eq_false, if_false, Except.ok.injEq]
            trans finalizeFacts (some queueId) payload = .ok facts
            · split <;> simp_all
            · rw [finalizeFacts_eq]
              constructor
              · rintro ⟨rfl, -, complete, assigned⟩
                exact ⟨by simp [dropped, pending], rfl, same, assigned queueId rfl, complete⟩
              · rintro ⟨-, rfl, -, assigned, complete⟩
                exact ⟨rfl, valid, complete, by simpa using assigned⟩
          · simp only [ne_eq, same, not_false_eq_true, if_true, reduceCtorEq, false_iff, not_and, Except.ok.injEq]
            rintro - rfl here
            exact absurd here same

/-- For every outcome: the two paths decide alike, as the claim of the drain has it,
exactly if what the outcome decodes to, in the queue of the discovery and with an
authoritative roster, is the match asked for, of a complete outcome or marked limited
in an outcome that is not refused. -/
theorem decides_alike_iff (outcome : Value) (matchId queueId : Int) :
    DecidesAlike outcome matchId queueId ↔
      ∀ payload, fromRelayValue outcome = .ok payload → payload.queueId = queueId → rosterError payload = none →
        payload.matchId = matchId ∧
          (completeOutcome outcome = true ∨ (payload.limited = some true ∧ refusedOutcome outcome = false)) := by
  have apart : completeOutcome outcome = true → refusedOutcome outcome = false := by
    unfold completeOutcome refusedOutcome
    intro complete
    simp only [Bool.or_eq_true, beq_iff_eq] at complete
    rcases complete with complete | complete <;> rw [complete] <;> decide
  unfold DecidesAlike
  simp only [hourlyFacts_iff, requestedFacts_iff]
  constructor
  · rintro ⟨complete, alike⟩ payload decoded queue roster
    obtain ⟨accepted, -, named, -⟩ := (alike payload).mp ⟨decoded, queue, roster⟩
    refine ⟨named, ?_⟩
    by_cases limited : payload.limited = some true
    · exact Or.inr ⟨limited, accepted⟩
    · exact Or.inl (complete payload ⟨decoded, queue, roster⟩ limited)
  · intro sound
    refine ⟨?_, ?_⟩
    · rintro facts ⟨decoded, queue, roster⟩ unmarked
      rcases (sound facts decoded queue roster).2 with complete | ⟨limited, -⟩
      · exact complete
      · exact absurd limited unmarked
    · intro facts
      constructor
      · rintro ⟨decoded, queue, roster⟩
        obtain ⟨named, complete | ⟨-, accepted⟩⟩ := sound facts decoded queue roster
        · exact ⟨apart complete, decoded, named, queue, roster⟩
        · exact ⟨accepted, decoded, named, queue, roster⟩
      · exact fun decided => ⟨decided.2.1, decided.2.2.2⟩

/-! ### A pending outcome of ten players -/

def publicRow (index : Nat) : Value :=
  .object [("player_id", .integer (index + 1)), ("champion_id", .integer 2056), ("source", .string "direct"),
    ("task_force", .integer (if index < 5 then 1 else 2)),
    ("win_status", .string (if index < 5 then "Winner" else "Loser"))]

/-- A match of nine public players and a private one: the roster call names ten, and the
history of the one behind the private row cannot be had. -/
def pendingOutcome : Value :=
  .object [("matchId", .integer 7), ("queueId", .integer 486), ("status", .string "recovery_pending"),
    ("reason", .string "target_history_unresolved"),
    ("match", .object [("match_id", .integer 7), ("entry_datetime", .string "2026-01-01T00:00:00Z"),
      ("map", .string "Ranked Jaguar Falls"), ("queue_id", .integer 486), ("duration_seconds", .integer 900),
      ("team1_score", .integer 4), ("team2_score", .integer 2), ("winning_task_force", .integer 1),
      ("recovery_pending", .bool true), ("limited", .bool false),
      ("players", .array ((List.range 9).map publicRow ++
        [.object [("player_id", .integer 0), ("player_name", .string "PRIVATEACCOUNT"),
          ("task_force", .integer 2)]]))])]

/-- The drain finalizes the pending outcome as complete facts; the requested match does not. -/
theorem pending_outcome_finalized :
    ¬∀ requested outcomes validated, validateRequestedOutcomes requested [] outcomes = .ok validated →
      ∀ matchId outcome, (matchId, outcome) ∈ validated → ∀ queueId, DecidesAlike outcome matchId queueId := by
  intro alike
  have accepted : validateRequestedOutcomes [7] [] [pendingOutcome] = .ok [(7, pendingOutcome)] := rfl
  have finalized : (hourlyFacts pendingOutcome 486).toOption.any (fun facts => facts.limited != some true) = true := by
    decide +kernel
  have pending : completeOutcome pendingOutcome = false := by decide +kernel
  cases facts : hourlyFacts pendingOutcome 486 with
  | error error => simp [facts, Except.toOption] at finalized
  | ok payload =>
      simp only [facts, Except.toOption, Option.any_some, bne_iff_ne] at finalized
      have complete := (alike [7] [pendingOutcome] _ accepted 7 pendingOutcome (by simp) 486).1 payload facts finalized
      rw [pending] at complete
      cases complete

end PaladinsCat.Backend
