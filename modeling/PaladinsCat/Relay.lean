import PaladinsCat.KeyPoolPrograms
import PaladinsCat.SessionCache

/-!
The relay put together: the API client calls the key pool (`impl ApiKeyState for
KeyPool`), the key pool calls the usage probe (usage_probe.rs), and the probe
calls the key pool and the session manager again. Each level answers the calls
of the level above by running its own programs; the probe neither selects a key
nor syncs one, so the levels end there.
-/

namespace PaladinsCat.Hirez

open Interleaving Program KeyPool

/-! ### usage_probe.rs -/

/-- `as_u64`, or else the text of a number. -/
def numberField (value : Value) (field : String) : Option Nat :=
  match value.get field with
  | some (.integer number) => if 0 ≤ number ∧ number ≤ u64Max then some number.toNat else none
  | some (.string text) => Text.parseUnsigned u64Max text
  | _ => none

def requestDataUsed (client : Client) (key : ApiCredential) :
    ClientProgram (Except KeyPoolError Value) := do
  match ← acquireSession client key with
  | .error error => return .error (.probe error.toString)
  | .ok session =>
  match ← hirezTimestamp client with
  | .error error => return .error (.probe error.toString)
  | .ok timestamp =>
  perform (ClientOp.incrementUsage key.devId)
  let (response, responseTimeMs) ← perform (ClientOp.get
    ⟨client.baseUrl, "getdataused", key.devId,
      sign client "getdataused" key.devId key.authKey timestamp, some session.sessionKey,
      timestamp, []⟩ 15)
  perform (ClientOp.logEndpoint key.devId "getdataused" responseTimeMs "quota_sync")
  match response with
  | .error error =>
      perform (ClientOp.recordFailure key.devId false)
      return .error (.probe error.toString)
  | .ok response =>
  if !response.isSuccess then
    perform (ClientOp.recordFailure key.devId true)
    return .error (.probe ("HTTP " ++ toString response.status ++ ": " ++ response.reason))
  match parseJsonBody client response.body with
  | .error error =>
      perform (ClientOp.recordFailure key.devId true)
      return .error (.probe error.toString)
  | .ok data =>
      perform (ClientOp.recordSuccess key.devId)
      return .ok data

def firstItem : Value → Value
  | .array items => items.head?.getD .null
  | value => value

def getDataUsedRaw (client : Client) (key : ApiCredential) :
    ClientProgram (Except KeyPoolError Value) := do
  return (← requestDataUsed client key).map firstItem

def usageReport (data : Value) : Option AuthoritativeUsage :=
  (numberField data "Total_Requests_Today").map fun used =>
    ⟨used, numberField data "Request_Limit_Daily"⟩

def getDataUsed (client : Client) (key : ApiCredential) :
    ClientProgram (Except KeyPoolError (Option AuthoritativeUsage)) := do
  return (← getDataUsedRaw client key).map usageReport

/-! ### The levels -/

abbrev PoolEvent := Event Pool PoolOp PoolOp.Reply

/-- The state of one relay; `calls` are the pool's calls so far, for the record. -/
structure Relay where
  pool : Pool
  sessions : Sessions
  calls : List PoolEvent

def Relay.note (relay : Relay) (before : Pool) (op : PoolOp) (reply : op.Reply) : Relay :=
  { relay with calls := relay.calls ++ [⟨before, op, reply, relay.pool⟩] }

/-- The pool, with nothing but its own calls. -/
def servePool (config : Config) : Service Relay PoolOp PoolOp.Reply Outside :=
  fun relay op outside =>
    (serve config relay.pool op outside).map fun (reply, pool) =>
      (reply, { relay with pool }.note relay.pool op reply)

/-- `KeyPool::active_key` as `ApiKeyState` returns it. -/
def activeCredential : Except KeyPoolError ApiKeyStatus → Except UpstreamError ApiCredential
  | .ok key => .ok ⟨key.devId, key.authKey⟩
  | .error error => .error (.configuration error.toString)

section Client
variable {Input : Type} (config : Config) (pool : Service Relay PoolOp PoolOp.Reply Input)

def callPool {α : Type} (relay : Relay) (inputs : List Input) (program : PoolProgram α) :
    Option (α × Relay) :=
  (feed pool inputs relay program).map fun (_, outcome) => outcome

/-- The calls of the client: the key state is the pool, the rest is as in the
session cache. -/
def serveClient : Service Relay ClientOp ClientOp.Reply (Surroundings × List Input)
  | relay, .activeKey, (_, inputs) =>
      (callPool pool relay inputs (activeKey config)).map fun (result, after) =>
        (activeCredential result, after)
  | relay, .incrementUsage devId, (_, inputs) =>
      callPool pool relay inputs (perform (PoolOp.incrementUsage devId))
  | relay, .recordSuccess devId, (_, inputs) =>
      callPool pool relay inputs (recordSuccessProgram devId)
  | relay, .recordFailure devId keyFault, (_, inputs) =>
      callPool pool relay inputs (recordFailureProgram devId keyFault)
  | relay, .syncUsage devId, (_, inputs) => callPool pool relay inputs (syncUsage config devId)
  | relay, op, (outside, _) =>
      (serveSessions relay.sessions op outside).map fun (reply, sessions) =>
        (reply, { relay with sessions })

end Client

def serveProbing (config : Config) (client : Client) :
    Service Relay PoolOp PoolOp.Reply (Outside × List (Surroundings × List Outside))
  | relay, .getDataUsed credential, (_, inputs) =>
      (feed (serveClient config (servePool config)) inputs relay (getDataUsed client credential)).map
        fun (_, reply, after) => (reply, after.note relay.pool (.getDataUsed credential) reply)
  | relay, op, (outside, _) => servePool config relay op outside

def serveRelay (config : Config) (client : Client) :=
  serveClient config (serveProbing config client)

end PaladinsCat.Hirez
