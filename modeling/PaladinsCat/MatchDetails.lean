import PaladinsCat.Upstream

/-!
Completed matches as the relay hands them on (model.rs), and the queue policy
that relay and backend share (queue.rs). A player row is a JSON value; its fields
are read by name, with the spellings of older payloads as fallbacks.
-/

/-! ### JSON numbers -/

namespace PaladinsCat.Hirez.Value

open KeyPool (u64Max)

def asU64 : Value → Option Nat
  | .integer number => if 0 ≤ number ∧ number ≤ u64Max then some number.toNat else none
  | _ => none

def asI64 : Value → Option Int
  | .integer number => if -2 ^ 63 ≤ number ∧ number < 2 ^ 63 then some number else none
  | _ => none

def asBool : Value → Option Bool
  | .bool value => some value
  | _ => none

def isNull : Value → Bool
  | .null => true
  | _ => false

def isObject : Value → Bool
  | .object _ => true
  | _ => false

/-- `Map::insert` into an object; the order of the fields is not kept. -/
def insert (target : Value) (name : String) (value : Value) : Value :=
  match target with
  | .object fields => .object (fields.filter (fun field => field.1 != name) ++ [(name, value)])
  | other => other

end PaladinsCat.Hirez.Value

namespace PaladinsCat.Resolver

open Hirez (Value)
open KeyPool (u64Max u32Max)

def i32Min : Int := -2 ^ 31
def i32Max : Int := 2 ^ 31 - 1

/-- `as_u64`, or else `as_i64` if it fits, or else the text of a number. -/
def unsignedNumber (value : Value) : Option Nat :=
  value.asU64.or <| (value.asI64.bind fun number => if 0 ≤ number then some number.toNat else none).or <|
    value.asStr.bind (Text.parseUnsigned u64Max)

def playerNumber (player : Value) (keys : List String) : Nat :=
  (keys.findSome? fun key => (player.get key).bind unsignedNumber).getD 0

def playerString (player : Value) (keys : List String) : String :=
  (keys.findSome? fun key => (player.get key).bind Value.asStr).getD ""

/-- The id by which rows are merged; 0 for a private account. -/
def playerId (player : Value) : Nat := playerNumber player ["player_id"]

def hasRetMsg (player : Value) : Bool := (player.get "has_ret_msg").bind Value.asBool == some true

def playerHasError (player : Value) : Bool :=
  hasRetMsg player || Text.trim (playerString player ["ret_msg"]) != ""

def usablePlayers (players : List Value) : List Value :=
  players.filter fun player => !playerHasError player

def usablePlayerCount (players : List Value) : Nat :=
  players.countP fun player => !playerHasError player

/-! ### sort_players -/

/-- Public ids in ascending order, then the private rows. -/
def compareIds (left right : Nat) : Ordering :=
  match decide (0 < left), decide (0 < right) with
  | true, false => .lt
  | false, true => .gt
  | _, _ => compare left right

def comparePlayers : Value → Value → Ordering :=
  compareLex (compareOn fun player => playerNumber player ["task_force", "team_id"]) <|
    compareLex (fun left right => compareIds (playerId left) (playerId right)) <|
      compareLex (compareOn fun player => playerString player ["player_name"])
        (compareOn fun player => playerNumber player ["champion_id"])

/-- `sort_by` is stable, and so is this. -/
def sortPlayers (players : List Value) : List Value :=
  players.insertionSort fun left right => (comparePlayers left right).isLE

/-! ### Requests and outcomes -/

structure CompletedMatchRequest where
  matchId : Nat
  queueId : Option Nat
  deriving DecidableEq, Repr

inductive CompletedMatchResolutionStatus where
  | completeDirect
  | completeRecovered
  | recoveryPending
  | limited
  | rosterOnly
  | dropped
  deriving DecidableEq, Repr

structure MatchDetails where
  matchId : Nat := 0
  entryDatetime : String := ""
  map : String := ""
  queueId : Nat := 0
  durationSeconds : Nat := 0
  minutes : Nat := 0
  region : String := ""
  team1Score : Option Int := none
  team2Score : Option Int := none
  winningTaskForce : Option Int := none
  directScoreObservations : Option (List Value) := none
  hasReplay : Option Bool := none
  recoverySource : Option String := none
  recoveryApiCalls : Option Nat := none
  recoveryAttempted : Option Bool := none
  recoveryTerminal : Option Bool := none
  recoveryPending : Option Bool := none
  limited : Option Bool := none
  players : List Value := []
  -- the flattened fields that are not named above
  extra : String → Option Value := fun _ => none

structure CompletedMatchResolution where
  matchId : Nat
  queueId : Nat
  status : CompletedMatchResolutionStatus
  match_ : Option MatchDetails
  roster : Option (List Value)
  reason : Option String

inductive RelayError where
  | validation (message : String)
  | upstream (message : String)
  | unsupported (message : String)
  | unavailable (message : String)
  deriving DecidableEq, Repr

def RelayError.toString : RelayError → String
  | .validation message | .upstream message | .unsupported message | .unavailable message => message

/-! ### queue.rs -/

def hasVariableHumanRoster (queueId : Int) : Bool :=
  queueId == 425 || queueId == 453 || queueId == 10297 || queueId == 10348 || queueId == 10362

/-- `i32::try_from(queue_id).is_ok_and(has_variable_human_roster)`. -/
def variableRoster (queueId : Nat) : Bool :=
  decide ((queueId : Int) ≤ i32Max) && hasVariableHumanRoster queueId

end PaladinsCat.Resolver
