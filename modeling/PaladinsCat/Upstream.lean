import PaladinsCat.Interleaving
import PaladinsCat.KeyPool

/-!
The calls by which the relay reaches the vendor API (upstream.rs) and the
session manager (session.rs) as programs over them. One signature holds what the
code takes from outside a function: the key state, the transport, the clock, the
audit, the retry sleeper, and the lock sections of the session cache.

What third-party crates compute is a field of `Client`: the MD5 digest, the
timestamp format, JSON parsing and display.
-/

namespace PaladinsCat.Hirez

open Interleaving Program KeyPool

/-! ### Data -/

/-- `serde_json::Value`; a number that is no integer is kept as its text. -/
inductive Value where
  | null
  | bool (value : Bool)
  | integer (value : Int)
  | float (text : String)
  | string (value : String)
  | array (items : List Value)
  | object (fields : List (String × Value))

/-- `Value::get` with a string: fields of objects only. -/
def Value.get (name : String) : Value → Option Value
  | .object fields => fields.lookup name
  | _ => none

def Value.asStr : Value → Option String
  | .string value => some value
  | _ => none

structure HttpResponse where
  status : Nat
  reason : String
  body : String

/-- `(200..300).contains(&response.status)`. -/
def HttpResponse.isSuccess (response : HttpResponse) : Bool :=
  decide (200 ≤ response.status) && decide (response.status < 300)

inductive TransportError where
  | timeout
  | network (message : String)

def TransportError.toString : TransportError → String
  | .timeout => "request timed out"
  | .network message => message

inductive UpstreamError where
  | configuration (message : String)
  | transport (error : TransportError)
  | protocol (message : String)
  | application (message : String)

def UpstreamError.toString : UpstreamError → String
  | .configuration message | .protocol message | .application message => message
  | .transport error => error.toString

structure Session where
  devId : String
  sessionKey : String
  expiresAtMs : Int
  deriving DecidableEq, Repr

structure SessionAuditRecord where
  endpoint : String
  rawData : Value
  statusCode : Nat
  sessionId : String
  responseTimeMs : Nat

/-- `{base}/{method}Json/{devId}/{signature}/{sessionKey}/{timestamp}/{params..}` by
its parts; `createsession` has no session key. -/
structure Url where
  base : String
  method : String
  devId : String
  signature : String
  sessionKey : Option String
  timestamp : String
  params : List String
  deriving DecidableEq, Repr

structure Client where
  -- the `base_url` of the API client, without its trailing slashes
  baseUrl : String
  -- the `base_url` of the session manager
  sessionBaseUrl : String
  ttlMs : Int
  md5Hex : String → String
  -- the timestamp text of a Unix time in seconds
  formatTimestamp : Int → Except String String
  -- `serde_json::from_str`
  parseJson : String → Except String Value
  displayJson : Value → String

/-! ### Calls -/

inductive ClientOp where
  | activeKey
  | incrementUsage (devId : String)
  | logEndpoint (devId endpoint : String) (responseTimeMs : Nat) (consumer : String)
  | recordSuccess (devId : String)
  | recordFailure (devId : String) (keyFault : Bool)
  | syncUsage (devId : String)
  -- answered by the response and the elapsed time
  | get (url : Url) (timeoutSecs : Nat)
  | unixMillis
  | readSession (devId : String)
  | removeSession (devId : String)
  -- The removal of `invalidate_session`. The code passes the `dev_id` alone; the
  -- session that the rejected call had used is noted for the proofs.
  | invalidateSession (devId : String) (rejected : Session)
  | insertSession (devId : String) (session : Session)
  | lockKey (devId : String)
  | unlockKey (devId : String)
  | saveAudit (record : SessionAuditRecord)
  | sleepBeforeRetry (completedAttempt : Nat)

abbrev ClientOp.Reply : ClientOp → Type
  | .activeKey => Except UpstreamError ApiCredential
  | .get _ _ => Except TransportError HttpResponse × Nat
  | .unixMillis => Int
  | .readSession _ => Option Session
  | _ => Unit

abbrev ClientProgram := Program ClientOp ClientOp.Reply
abbrev ClientEvent := Event Unit ClientOp ClientOp.Reply

/-! ### session.rs -/

def sign (client : Client) (method devId authKey timestamp : String) : String :=
  client.md5Hex (devId ++ method ++ authKey ++ timestamp)

def hirezTimestamp (client : Client) : ClientProgram (Except UpstreamError String) := do
  let millis ← perform ClientOp.unixMillis
  return (client.formatTimestamp (millis / 1000)).mapError .configuration

def parseJsonBody (client : Client) (body : String) : Except UpstreamError Value :=
  (client.parseJson (Text.stripPrefixOrSelf (Char.ofNat 0xFEFF) body)).mapError fun error =>
    .protocol ("JSON parse error from Hi-Rez: " ++ error)

def getSession (devId : String) : ClientProgram (Option Session) := do
  let now ← perform ClientOp.unixMillis
  let found ← perform (ClientOp.readSession devId)
  match found.filter fun session => decide (now < session.expiresAtMs) with
  | some session => return some session
  | none =>
      perform (ClientOp.removeSession devId)
      return none

/-- What `create_session` does with the parsed answer of an approved or refused
`createsession`. -/
def storeSession (client : Client) (key : ApiCredential) (statusCode elapsed : Nat) (data : Value) :
    ClientProgram (Except UpstreamError Session) := do
  if (data.get "ret_msg").bind Value.asStr ≠ some "Approved" then
    perform (ClientOp.recordFailure key.devId true)
    return .error (.application ("Hi-Rez Session API Error: " ++
      ((data.get "ret_msg").bind Value.asStr).getD "Unknown Error"))
  perform (ClientOp.recordSuccess key.devId)
  let sessionId := ((data.get "session_id").bind Value.asStr).getD ""
  perform (ClientOp.saveAudit ⟨"createsession", data, statusCode,
    if sessionId = "" then "FAILED" else sessionId, elapsed⟩)
  if sessionId = "" then
    return .error (.protocol
      ("Session acquisition returned no session_id despite Approved: " ++ client.displayJson data))
  let now ← perform ClientOp.unixMillis
  let session : Session := ⟨key.devId, sessionId, now + client.ttlMs⟩
  perform (ClientOp.insertSession key.devId session)
  return .ok session

def createSession (client : Client) (key : ApiCredential) :
    ClientProgram (Except UpstreamError Session) := do
  match ← hirezTimestamp client with
  | .error error => return .error error
  | .ok timestamp =>
  perform (ClientOp.incrementUsage key.devId)
  let (response, elapsed) ← perform (ClientOp.get
    ⟨client.sessionBaseUrl, "createsession", key.devId,
      sign client "createsession" key.devId key.authKey timestamp, none, timestamp, []⟩ 10)
  perform (ClientOp.logEndpoint key.devId "createsession" elapsed "session_management")
  match response with
  | .error error =>
      perform (ClientOp.recordFailure key.devId false)
      return .error (.transport error)
  | .ok response =>
  if !response.isSuccess then
    perform (ClientOp.recordFailure key.devId true)
    return .error (.protocol ("Session acquisition failed: " ++ response.reason))
  match parseJsonBody client response.body with
  | .error error =>
      perform (ClientOp.recordFailure key.devId true)
      return .error error
  | .ok data => storeSession client key response.status elapsed data

/-- The part of `acquire_session` that holds the key's lock. -/
def acquireLocked (client : Client) (key : ApiCredential) :
    ClientProgram (Except UpstreamError Session) := do
  match ← getSession key.devId with
  | some session => return .ok session
  | none => createSession client key

/-- The lock of a key is made on first use and never dropped from the map, so
looking it up and taking it are one call here. -/
def acquireSession (client : Client) (key : ApiCredential) :
    ClientProgram (Except UpstreamError Session) := do
  match ← getSession key.devId with
  | some session => return .ok session
  | none =>
      perform (ClientOp.lockKey key.devId)
      let result ← acquireLocked client key
      perform (ClientOp.unlockKey key.devId)
      return result

def getActiveSession (client : Client) :
    ClientProgram (Except UpstreamError (ApiCredential × Session)) := do
  match ← perform ClientOp.activeKey with
  | .error error => return .error error
  | .ok key =>
  match ← acquireSession client key with
  | .error error => return .error error
  | .ok session => return .ok (key, session)

/-! ### The calls of the session manager -/

/-- Of the vendor it asks for sessions only; it neither syncs nor sleeps, and it
invalidates nothing by itself. -/
def ClientOp.forSession : ClientOp → Prop
  | .get url _ => url.method = "createsession" ∧ url.sessionKey = none
  | .syncUsage _ | .invalidateSession _ _ | .sleepBeforeRetry _ => False
  | _ => True

theorem hirezTimestamp_forSession (client : Client) :
    Uses ClientOp.forSession (hirezTimestamp client) := ⟨trivial, fun _ => trivial⟩

theorem getSession_forSession (devId : String) : Uses ClientOp.forSession (getSession devId) := by
  simp only [getSession, perform_bind]
  refine ⟨trivial, fun now => ⟨trivial, fun found => ?_⟩⟩
  dsimp only
  cases found.filter fun session => decide (now < session.expiresAtMs) with
  | some session => trivial
  | none => exact ⟨trivial, fun _ => trivial⟩

theorem storeSession_forSession (client : Client) (key : ApiCredential) (statusCode elapsed : Nat)
    (data : Value) : Uses ClientOp.forSession (storeSession client key statusCode elapsed data) := by
  simp only [storeSession, perform_bind]
  split
  · exact ⟨trivial, fun _ => trivial⟩
  · refine ⟨trivial, fun _ => ⟨trivial, fun _ => ?_⟩⟩
    split
    · trivial
    · exact ⟨trivial, fun _ => ⟨trivial, fun _ => trivial⟩⟩

theorem createSession_forSession (client : Client) (key : ApiCredential) :
    Uses ClientOp.forSession (createSession client key) := by
  simp only [createSession, perform_bind]
  refine uses_bind (hirezTimestamp_forSession client) fun timestamp => ?_
  rcases timestamp with error | timestamp
  · trivial
  refine ⟨trivial, fun _ => ⟨⟨rfl, rfl⟩, fun reply => ⟨trivial, fun _ => ?_⟩⟩⟩
  rcases reply with ⟨error | response, elapsed⟩
  · exact ⟨trivial, fun _ => trivial⟩
  dsimp only
  split
  · exact ⟨trivial, fun _ => trivial⟩
  · split
    · exact ⟨trivial, fun _ => trivial⟩
    · exact storeSession_forSession client key _ _ _

theorem acquireSession_forSession (client : Client) (key : ApiCredential) :
    Uses ClientOp.forSession (acquireSession client key) := by
  simp only [acquireSession, perform_bind]
  refine uses_bind (getSession_forSession key.devId) fun found => ?_
  rcases found with _ | session
  · refine ⟨trivial, fun _ => uses_bind ?_ fun _ => ⟨trivial, fun _ => trivial⟩⟩
    refine uses_bind (getSession_forSession key.devId) fun found => ?_
    rcases found with _ | session
    · exact createSession_forSession client key
    · trivial
  · trivial

theorem getActiveSession_forSession (client : Client) :
    Uses ClientOp.forSession (getActiveSession client) := by
  simp only [getActiveSession, perform_bind]
  refine ⟨trivial, fun key => ?_⟩
  rcases key with error | key
  · trivial
  refine uses_bind (acquireSession_forSession client key) fun session => ?_
  rcases session with error | session <;> trivial

end PaladinsCat.Hirez
