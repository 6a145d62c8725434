import PaladinsCat.Upstream

/-!
The API client (hirez_client.rs): the retry loop of `api_request`, the reading of
vendor return messages, and the endpoint timeouts.
-/

namespace PaladinsCat.Hirez

open Interleaving Program KeyPool

/-! ### Return messages -/

inductive RetMsgAction where
  | session
  | quota
  | empty
  | retry
  | terminal
  | unknown
  deriving DecidableEq, Repr

structure RetMsgClassification where
  action : RetMsgAction
  code : String
  deriving DecidableEq, Repr

-- irreducible: a proof about a request never looks into the search for a phrase
@[irreducible] def classifyRetMsg (retMsg : String) : RetMsgClassification :=
  let message := Text.toLowercase retMsg
  if Text.contains message "invalid session" then ⟨.session, "HIREZ_INVALID_SESSION"⟩
  else if Text.contains message "daily request limit" then ⟨.quota, "HIREZ_DAILY_LIMIT"⟩
  else if Text.contains message "no match history" then ⟨.empty, "HIREZ_NO_MATCH_HISTORY"⟩
  else if Text.contains message "privacy flag" || Text.contains message "private" then
    ⟨.empty, "HIREZ_PRIVACY_FLAG"⟩
  else if Text.contains message "not found" || Text.contains message "invalid player" ||
      Text.contains message "invalid match" then ⟨.terminal, "HIREZ_NOT_FOUND_OR_INVALID"⟩
  else if Text.contains message "exception" || Text.contains message "maintenance" ||
      Text.contains message "temporarily" || Text.contains message "timeout" then
    ⟨.retry, "HIREZ_RETRYABLE_RETURN"⟩
  else ⟨.unknown, "HIREZ_UNKNOWN_RETURN"⟩

/-- The `ret_msg` of one row, if it is a text and not empty. -/
def rowRetMsg (item : Value) : Option String :=
  ((item.get "ret_msg").bind Value.asStr).filter (· ≠ "")

def firstRetMsg : Value → Option String
  | .array items => items.findSome? rowRetMsg
  | .object fields => rowRetMsg (.object fields)
  | _ => none

def isBrokenSkinMessage (message : String) : Bool :=
  let normalized := Text.removeChars [' ', '_'] (Text.toLowercase message)
  Text.contains normalized "int16" && Text.contains normalized "skinid"

def shouldPreserveBrokenSkinBatchResponse (method : String) (data : Value) : Bool :=
  Text.eqIgnoreAsciiCase method "getmatchdetailsbatch" &&
    match data with
    | .array items =>
        let retMessages := items.filterMap rowRetMsg
        !retMessages.isEmpty && retMessages.all isBrokenSkinMessage
    | _ => false

/-! ### api_request -/

def defaultTimeoutSecs : Nat := 15
def defaultMaxRetries : Nat := 3

def endpointTimeout (method : String) : Nat :=
  if method ∈ ["getgods", "getitems", "getchampions", "searchplayers", "getqueuestats",
      "getbountyitems", "getmatchdetails", "getmatchhistory", "getplayeridbyname",
      "getplayerloadouts", "getplayerstatus", "getmatchplayerdetails", "getplayeridsbygamertag",
      "getplayeridbyportaluserid"] then 10
  else if method ∈ ["getfriends", "getplayerbatch", "getmatchidsbyqueue", "getmatchdetailsbatch"] then 20
  else if method = "getchampionskins" then 30
  else defaultTimeoutSecs

structure ApiRequestOptions where
  timeoutSecs : Option Nat := none
  maxRetries : Option Nat := none

structure Request where
  method : String
  params : List String
  options : ApiRequestOptions
  consumer : String

def Request.timeoutSecs (request : Request) : Nat :=
  request.options.timeoutSecs.getD (endpointTimeout request.method)

def Request.maxRetries (request : Request) : Nat :=
  request.options.maxRetries.getD defaultMaxRetries

/-- The variables that live across attempts. -/
structure Progress where
  lastError : Option String := none
  lastAppError : String := ""
  lastKeyDevId : Option String := none
  attemptsMade : Nat := 0
  transportFailed : Bool := false

/-- How one pass of the loop ends: `continue`, `break` or `return`. -/
inductive AttemptEnd where
  | again (progress : Progress)
  | stop (progress : Progress)
  | returned (result : Except UpstreamError Value)

/-- Sleeps and continues while attempts are left, else breaks. -/
def retryOrStop (request : Request) (attempt : Nat) (progress : Progress) :
    ClientProgram AttemptEnd := do
  if attempt < request.maxRetries then
    perform (ClientOp.sleepBeforeRetry (attempt + 1))
    return .again progress
  return .stop progress

def handleRetMsg (request : Request) (attempt : Nat) (key : ApiCredential) (session : Session)
    (progress : Progress) (retMsg : String) : ClientProgram AttemptEnd := do
  let classification := classifyRetMsg retMsg
  let progress := { progress with lastAppError := retMsg }
  let failed := { progress with lastError := some (classification.code ++ ": " ++ retMsg) }
  match classification.action with
  | .session =>
      perform (ClientOp.invalidateSession key.devId session)
      return .again progress
  | .quota =>
      perform (ClientOp.syncUsage key.devId)
      return .again progress
  | .empty =>
      perform (ClientOp.recordSuccess key.devId)
      return .returned (.ok (.array []))
  | .retry => retryOrStop request attempt failed
  | .terminal | .unknown => return .stop failed

def handleData (request : Request) (attempt : Nat) (key : ApiCredential) (session : Session)
    (progress : Progress) (data : Value) : ClientProgram AttemptEnd := do
  match firstRetMsg data with
  | some retMsg =>
      if shouldPreserveBrokenSkinBatchResponse request.method data then
        perform (ClientOp.recordSuccess key.devId)
        return .returned (.ok data)
      handleRetMsg request attempt key session progress retMsg
  | none =>
      perform (ClientOp.recordSuccess key.devId)
      return .returned (.ok data)

def handleResponse (client : Client) (request : Request) (attempt : Nat) (key : ApiCredential)
    (session : Session) (progress : Progress) :
    Except TransportError HttpResponse → ClientProgram AttemptEnd
  | .ok response =>
      if response.isSuccess then
        match parseJsonBody client response.body with
        | .ok data => handleData request attempt key session progress data
        | .error error => retryOrStop request attempt { progress with lastError := some error.toString }
      else
        let message := "HTTP " ++ toString response.status ++ ": " ++ response.reason
        if response.status = 503 then
          return .returned (.error (.protocol ("API temporarily unavailable (503): " ++ message)))
        else retryOrStop request attempt { progress with lastError := some message }
  | .error error =>
      retryOrStop request attempt
        { progress with transportFailed := true, lastError := some error.toString }

def attemptOnce (client : Client) (request : Request) (attempt : Nat) (progress : Progress) :
    ClientProgram AttemptEnd := do
  let progress := { progress with attemptsMade := attempt + 1 }
  match ← getActiveSession client with
  | .error error => retryOrStop request attempt { progress with lastError := some error.toString }
  | .ok (key, session) =>
  let progress := { progress with lastKeyDevId := some key.devId }
  match ← hirezTimestamp client with
  | .error error => return .returned (.error error)
  | .ok timestamp =>
  perform (ClientOp.incrementUsage key.devId)
  let (response, responseTimeMs) ← perform (ClientOp.get
    ⟨client.baseUrl, request.method, key.devId,
      sign client request.method key.devId key.authKey timestamp, some session.sessionKey,
      timestamp, request.params⟩ request.timeoutSecs)
  perform (ClientOp.logEndpoint key.devId request.method responseTimeMs request.consumer)
  handleResponse client request attempt key session progress response

/-- `for attempt in 0..=max_retries`, from one attempt on; the result is what was
returned, or what the loop leaves behind. -/
def attemptLoop (client : Client) (request : Request) :
    Nat → Nat → Progress → ClientProgram (Except Progress (Except UpstreamError Value))
  | 0, _, progress => return .error progress
  | left + 1, attempt, progress => do
      match ← attemptOnce client request attempt progress with
      | .again progress => attemptLoop client request left (attempt + 1) progress
      | .stop progress => return .error progress
      | .returned result => return .ok result

def failureMessage (progress : Progress) : String :=
  (progress.lastError.filter (· ≠ "")).getD
    (if progress.lastAppError = "" then "Unknown application error" else progress.lastAppError)

def isKeyFault (progress : Progress) (message : String) : Bool :=
  !progress.transportFailed &&
    !(Text.contains message "HIREZ_NOT_FOUND_OR_INVALID" ||
      Text.contains message "HIREZ_UNKNOWN_RETURN") &&
    !Text.contains message "404" && !Text.contains message "422" &&
    !Text.contains message "ECONNRESET" && !Text.contains message "ETIMEDOUT"

def failRequest (progress : Progress) : ClientProgram (Except UpstreamError Value) := do
  let message := failureMessage progress
  let error := UpstreamError.application ("Request failed after " ++ toString progress.attemptsMade ++
    " attempt" ++ (if progress.attemptsMade = 1 then "" else "s") ++ ": " ++ message)
  match progress.lastKeyDevId with
  | some devId =>
      perform (ClientOp.recordFailure devId (isKeyFault progress message))
      return .error error
  | none => return .error error

def apiRequest (client : Client) (request : Request) : ClientProgram (Except UpstreamError Value) := do
  match ← attemptLoop client request (request.maxRetries + 1) 0 {} with
  | .ok result => return result
  | .error progress => failRequest progress

end PaladinsCat.Hirez
