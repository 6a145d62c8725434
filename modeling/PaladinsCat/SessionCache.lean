import PaladinsCat.RequestCourse

/-!
The session cache that all requests share: which session a removal hits. A
removal names the `dev_id` alone, and comes some steps after the reason for it:
`get_session` removes after it has read, `invalidate_session` after a call was
rejected. Between the two, another request may have stored a new session.
-/

namespace PaladinsCat.Hirez

open Interleaving KeyPool

/-! ### The shared state -/

/-- The cache, the locks of the keys, and the clock. -/
structure Sessions where
  cache : String → Option Session
  locked : String → Bool
  now : Int

/-- What the outside decides in one turn: how far the clock has moved, which key is
active, and what the vendor answers. -/
structure Surroundings where
  advance : Nat := 0
  key : Except UpstreamError ApiCredential := .ok ⟨"1000", "secret"⟩
  response : Except TransportError HttpResponse := .error .timeout
  elapsed : Nat := 0

def Sessions.store (sessions : Sessions) (devId : String) (session : Option Session) : Sessions :=
  { sessions with cache := Function.update sessions.cache devId session }

def Sessions.setLocked (sessions : Sessions) (devId : String) (value : Bool) : Sessions :=
  { sessions with locked := Function.update sessions.locked devId value }

def answerAt (sessions : Sessions) (outside : Surroundings) :
    (op : ClientOp) → Option (op.Reply × Sessions)
  | .activeKey => some (outside.key, sessions)
  | .get _ _ => some ((outside.response, outside.elapsed), sessions)
  | .unixMillis => some (sessions.now, sessions)
  | .readSession devId => some (sessions.cache devId, sessions)
  | .removeSession devId => some ((), sessions.store devId none)
  | .invalidateSession devId _ => some ((), sessions.store devId none)
  | .insertSession devId session => some ((), sessions.store devId (some session))
  | .lockKey devId => if sessions.locked devId then none else some ((), sessions.setLocked devId true)
  | .unlockKey devId => some ((), sessions.setLocked devId false)
  | .incrementUsage _ | .logEndpoint _ _ _ _ | .recordSuccess _ | .recordFailure _ _
  | .syncUsage _ | .saveAudit _ | .sleepBeforeRetry _ => some ((), sessions)

/-- The clock may move before a call is answered, and never back. -/
def serveSessions : Service Sessions ClientOp ClientOp.Reply Surroundings :=
  fun sessions op outside => answerAt { sessions with now := sessions.now + outside.advance } outside op

abbrev SessionTurn (α : Type) := Turn Sessions ClientOp ClientOp.Reply α

/-- All interleavings of callers that share one session manager. -/
abbrev SessionRun {α Call : Type} (code : Call → ClientProgram α) (start : Sessions)
    (history : List (SessionTurn α)) (state : State Sessions ClientOp ClientOp.Reply α) : Prop :=
  Run serveSessions.handler code ⟨start, []⟩ history state

/-! ### Removals -/

def ClientOp.removes : ClientOp → Option String
  | .removeSession devId => some devId
  | .invalidateSession devId _ => some devId
  | _ => none

/-- The session that a turn removes before its time. -/
def dropped {α : Type} (turn : SessionTurn α) : Option Session :=
  (turn.op.removes.bind turn.before.cache).filter fun session =>
    decide (turn.after.now < session.expiresAtMs)

/-- The session that the call was rejected with, where it removes one for that. -/
def ClientOp.rejectedSession : ClientOp → Option Session
  | .invalidateSession _ rejected => some rejected
  | _ => none

/-- A removal finds nothing, an expired session, or the session that the rejected
call had used. -/
def removesOwn {α : Type} (turn : SessionTurn α) : Bool :=
  (dropped turn).all fun session =>
    turn.op.rejectedSession.any fun rejected => decide (rejected.sessionKey = session.sessionKey)

/-! ### Rejections -/

/-- The session key of a call that the vendor answered with an invalid session. -/
def rejectedBy (client : Client) (op : ClientOp) (reply : op.Reply) : Option String :=
  (answeredMessage client op reply).bind fun (url, retMsg) =>
    if retAction retMsg = .session then url.sessionKey else none

theorem invalidation_follows_rejection {client : Client} {start : Sessions}
    {history : List (SessionTurn (Except UpstreamError Value))}
    {state : State Sessions ClientOp ClientOp.Reply (Except UpstreamError Value)}
    (run : SessionRun (apiRequest client) start history state) {task : Nat} {devId : String}
    {rejected : Session} {next : Unit → ClientProgram (Except UpstreamError Value)}
    (waits : state.programs[task]? = some (.call (.invalidateSession devId rejected) next)) :
    ∃ turn ∈ history, rejectedBy client turn.op turn.reply = some rejected.sessionKey := by
  obtain ⟨phases, follow, recorded⟩ := run_noted (answeredMessage client) RequestPhase.message
    (fun _ => .fresh) (apiRequest_course client) (fun _ => rfl) rfl
    (fun _ _ _ _ allowed => courseNext_message allowed) run
  obtain ⟨phase, found, follows⟩ := forall₂_getElem? follow waits
  obtain ⟨after, allowed, _⟩ := follows ()
  cases phase with
  | answered url retMsg =>
      rw [courseNext_invalidate, Option.ite_none_right_eq_some] at allowed
      obtain ⟨⟨rejects, _, sameSession⟩, _⟩ := allowed
      obtain ⟨turn, member, _, noted⟩ := recorded task (.answered url retMsg) (url, retMsg) found rfl
      exact ⟨turn, member, by simp [rejectedBy, noted, rejects, sameSession]⟩
  | fresh | ready | ended => cases allowed

def approvedBody (sessionId : String) : String :=
  "\x7b\"ret_msg\":\"Approved\",\"session_id\":\"" ++ sessionId ++ "\"\x7d"

def rejectedBody : String := "[\x7b\"ret_msg\":\"Invalid session id.\"\x7d]"

-- A client with the parser and the clock format at the inputs used here.
def sessionClient : Client where
  baseUrl := "https://api.paladins.com/paladinsapi.svc"
  sessionBaseUrl := "https://api.paladins.com/paladinsapi.svc"
  ttlMs := 780000
  md5Hex _ := "5ffb551a6f5afbe2a9b5d73a37892999"
  formatTimestamp seconds :=
    if seconds = 1785283199 then .ok "20260728235959" else .error "out of range"
  parseJson body :=
    if body = rejectedBody then .ok (.array [.object [("ret_msg", .string "Invalid session id.")]])
    else if body = approvedBody "one" then
      .ok (.object [("ret_msg", .string "Approved"), ("session_id", .string "one")])
    else if body = approvedBody "two" then
      .ok (.object [("ret_msg", .string "Approved"), ("session_id", .string "two")])
    else .error "expected value at line 1 column 1"
  displayJson _ := "[]"

def answeredWith (body : String) : Surroundings := { response := .ok ⟨200, "OK", body⟩ }

def cachedOne : Sessions where
  cache := Function.update (fun _ => none) "1000" (some ⟨"1000", "one", 1785283979000⟩)
  locked _ := false
  now := 1785283199000

def matchRequest : Request := ⟨"getmatchdetailsbatch", ["128000001"], {}, "test"⟩

def plainTurns {Call : Type} (task count : Nat) : List (Move Call Surroundings) :=
  List.replicate count (.turn task {})

-- Both requests use session one and are rejected; the second invalidates it.
def twoRejections : List (Move Request Surroundings) :=
  [.enter matchRequest, .enter matchRequest] ++
    plainTurns 0 5 ++ [.turn 0 (answeredWith rejectedBody)] ++ plainTurns 0 1 ++
    plainTurns 1 5 ++ [.turn 1 (answeredWith rejectedBody)] ++ plainTurns 1 2

-- The second request then stores session two, and the first invalidates that.
def lateRejection : List (Move Request Surroundings) :=
  twoRejections ++ plainTurns 1 10 ++ [.turn 1 (answeredWith (approvedBody "two"))] ++
    plainTurns 1 6 ++ plainTurns 0 1

end PaladinsCat.Hirez
