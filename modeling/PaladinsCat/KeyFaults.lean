import PaladinsCat.HirezClient

/-!
The verdict of `api_request` on the key it failed with. It is passed after the last attempt,
on a flag for failed calls, on the text of the last error and on the last return message,
which may come from different attempts. Here the history of the calls is read off instead:
which calls were answered and how, and which attempts at a session failed in transport.
-/

namespace PaladinsCat.Hirez

open Interleaving Program

/-! ### The history -/

/-- The answer to a call; `createsession` is none. -/
def callReply : (op : ClientOp) → op.Reply → Option (Except TransportError HttpResponse)
  | .get url _, (reply, _) => if url.sessionKey.isSome then some reply else none
  | _, _ => none

def sessionFailure : (op : ClientOp) → op.Reply → Option TransportError
  | .get url _, (.error error, _) => if url.sessionKey.isSome then none else some error
  | _, _ => none

def ClientOp.blamesKey : ClientOp → Bool
  | .recordFailure _ keyFault => keyFault
  | _ => false

def callReplies (events : List ClientEvent) : List (Except TransportError HttpResponse) :=
  events.filterMap fun event => callReply event.op event.reply

def sessionFailures (events : List ClientEvent) : List TransportError :=
  events.filterMap fun event => sessionFailure event.op event.reply

/-- What an answer says, where it is one that can be read. -/
def answeredValue (client : Client) (response : HttpResponse) : Option Value :=
  if response.isSuccess then (parseJsonBody client response.body).toOption else none

/-- The message of an answer that makes the request go on with another session or another key. -/
def rotation (client : Client) (method : String) : Except TransportError HttpResponse → Option String
  | .error _ => none
  | .ok response =>
      ((answeredValue client response).filter fun data => !shouldPreserveBrokenSkinBatchResponse method data).bind
        fun data => (firstRetMsg data).filter fun retMsg =>
          (classifyRetMsg retMsg).action = .session ∨ (classifyRetMsg retMsg).action = .quota

/-- The answer is what the request returns, or stands for an empty one. -/
def successful (client : Client) (method : String) (response : HttpResponse) : Bool :=
  (answeredValue client response).any fun data =>
    shouldPreserveBrokenSkinBatchResponse method data ||
      (firstRetMsg data).all fun retMsg => (classifyRetMsg retMsg).action = .empty

def approved (client : Client) (response : HttpResponse) : Bool :=
  (answeredValue client response).any fun data =>
    (data.get "ret_msg").bind Value.asStr == some "Approved" &&
      ((data.get "session_id").bind Value.asStr).any (· ≠ "")

/-- Nothing fails but in transport: a key is there, sessions that are answered are approved, and calls that
are answered succeed or rotate the session or the key. -/
def mild (client : Client) (method : String) : (op : ClientOp) → op.Reply → Bool
  | .activeKey, reply => (reply : Except UpstreamError KeyPool.ApiCredential).isOk
  | .unixMillis, now => (client.formatTimestamp ((now : Int) / 1000)).isOk
  | .get _ _, (.error _, _) => true
  | .get url _, (.ok response, _) =>
      if url.sessionKey.isSome then
        (rotation client method (.ok response)).isSome || successful client method response
      else approved client response
  | _, _ => true

/-! ### The verdict -/

/-- The words in a message that take the blame from the key. -/
def excuses : List String :=
  ["HIREZ_NOT_FOUND_OR_INVALID", "HIREZ_UNKNOWN_RETURN", "404", "422", "ECONNRESET", "ETIMEDOUT"]

def excused (message : String) : Bool := excuses.any (Text.contains message)

structure Findings where
  calls : List (Except TransportError HttpResponse) := []
  failures : List TransportError := []
  blamed : Bool := false

/-- The text that the verdict goes by, if no call failed in transport: that of the last attempt at a session
that failed, if it is not empty, or else the last message. -/
def Findings.grounds (client : Client) (method : String) (found : Findings) : String :=
  ((found.failures.getLast?.map TransportError.toString).filter (· ≠ "")).getD
    ((found.calls.filterMap (rotation client method)).getLast?.getD "")

/-- Calls were made, each was answered, and none with more than another rotation. -/
structure Findings.Rotated (client : Client) (method : String) (found : Findings) : Prop where
  called : found.calls ≠ []
  rotated : ∀ reply ∈ found.calls, (rotation client method reply).isSome = true
  unexcused : excused (found.grounds client method) = false

def findings (events : List ClientEvent) : Findings :=
  { calls := callReplies events
    failures := sessionFailures events
    blamed := events.any fun event => event.op.blamesKey }

theorem isKeyFault_eq (progress : Progress) (message : String) :
    isKeyFault progress message = (!progress.transportFailed && !excused message) := by
  simp only [isKeyFault, excused, excuses, List.any_cons, List.any_nil, Bool.or_false, Bool.not_or, Bool.and_assoc]

theorem rowRetMsg_nonempty {item : Value} {retMsg : String} (found : rowRetMsg item = some retMsg) : retMsg ≠ "" := by
  rw [rowRetMsg, Option.filter_eq_some_iff] at found
  simpa using found.2

theorem firstRetMsg_nonempty {data : Value} {retMsg : String} (found : firstRetMsg data = some retMsg) :
    retMsg ≠ "" := by
  cases data with
  | array items =>
      obtain ⟨item, -, row⟩ := List.exists_of_findSome?_eq_some found
      exact rowRetMsg_nonempty row
  | object fields => exact rowRetMsg_nonempty found
  | _ => cases found

theorem rotation_nonempty {client : Client} {method message : String} {reply : Except TransportError HttpResponse}
    (rotates : rotation client method reply = some message) : message ≠ "" := by
  cases reply with
  | error error => cases rotates
  | ok response =>
      obtain ⟨data, -, first⟩ := Option.bind_eq_some_iff.mp rotates
      exact firstRetMsg_nonempty (Option.filter_eq_some_iff.mp first).1

/-! ### Reading programs -/

section Finds
variable {α β : Type} {client : Client} {method : String}

def Findings.note (found : Findings) (op : ClientOp) (reply : op.Reply) : Findings :=
  { calls := found.calls ++ (callReply op reply).toList
    failures := found.failures ++ (sessionFailure op reply).toList
    blamed := found.blamed || op.blamesKey }

/-- Nothing is asserted any more once something else than transport has failed. -/
def findingsNext (client : Client) (method : String) :
    Option Findings → (op : ClientOp) → op.Reply → Option (Option Findings)
  | phase, op, reply => some (phase.bind fun found => if mild client method op reply then some (found.note op reply) else none)

def Finds (client : Client) (method : String) (post : Findings → α → Prop) (found : Findings)
    (program : ClientProgram α) : Prop :=
  Follows (findingsNext client method) (fun last result => ∀ noted ∈ last, post noted result) (some found) program

variable {post : Findings → α → Prop} {found : Findings}

theorem finds_done {result : α} (holds : post found result) : Finds client method post found (.done result) := by
  rintro noted ⟨⟩
  exact holds

theorem finds_void (program : ClientProgram α) :
    Follows (findingsNext client method) (fun last result => ∀ noted ∈ last, post noted result) none program := by
  induction program with
  | done result => exact nofun
  | call op rest ih => exact fun reply => ⟨none, rfl, ih reply⟩

theorem finds_call {op : ClientOp} {rest : op.Reply → ClientProgram α}
    (continues : ∀ reply, mild client method op reply = true →
      Finds client method post (found.note op reply) (rest reply)) :
    Finds client method post found (.call op rest) := by
  intro reply
  apply Exists.intro (if mild client method op reply then some (found.note op reply) else none)
  apply And.intro rfl
  split_ifs with fine
  · exact continues reply fine
  · exact finds_void (rest reply)

theorem finds_bind {middle : Findings → β → Prop} {program : ClientProgram β} {rest : β → ClientProgram α}
    (head : Finds client method middle found program)
    (tail : ∀ noted value, middle noted value → Finds client method post noted (rest value)) :
    Finds client method post found (program >>= rest) := by
  apply follows_then head
  intro last value holds
  cases last with
  | some noted => exact tail noted value (holds noted rfl)
  | none => exact finds_void (rest value)

/-- Calls of which the history says nothing. -/
def ClientOp.silent : ClientOp → Bool
  | .get _ _ => false
  | op => !op.blamesKey

theorem note_silent {op : ClientOp} (silent : op.silent = true) (reply : op.Reply) : found.note op reply = found := by
  cases op with
  | get url timeoutSecs => cases silent
  | recordFailure devId keyFault =>
      have spared : keyFault = false := by simpa [ClientOp.silent, ClientOp.blamesKey] using silent
      simp [Findings.note, callReply, sessionFailure, ClientOp.blamesKey, spared]
  | _ => simp [Findings.note, callReply, sessionFailure, ClientOp.blamesKey]

theorem finds_silent {op : ClientOp} {rest : op.Reply → ClientProgram α} (silent : op.silent = true)
    (continues : ∀ reply, mild client method op reply = true → Finds client method post found (rest reply)) :
    Finds client method post found (.call op rest) := by
  apply finds_call
  intro reply fine
  rw [note_silent silent]
  exact continues reply fine

end Finds

/-! ### Sessions -/

/-- A session is there, or the one attempt at it failed in transport. -/
def SessionEnds {α : Type} (found noted : Findings) : Except UpstreamError α → Prop
  | .ok _ => found = noted
  | .error error => ∃ failure, error = .transport failure ∧
      noted = { found with failures := found.failures ++ [failure] }

section Programs
variable {client : Client} {request : Request} {method : String} {found : Findings}

theorem hirezTimestamp_finds :
    Finds client method (fun noted timestamp => found = noted ∧ ∃ text, timestamp = .ok text) found
      (hirezTimestamp client) := by
  apply finds_silent rfl
  intro millis stamped
  apply finds_done
  apply And.intro rfl
  cases format : client.formatTimestamp ((millis : Int) / 1000) with
  | error message => simp [mild, format, Except.isOk, Except.toBool] at stamped
  | ok text => exact ⟨text, rfl⟩

theorem getSession_finds (devId : String) :
    Finds client method (fun noted _ => found = noted) found (getSession devId) := by
  simp only [getSession, perform_bind]
  apply finds_silent rfl
  intro now _
  apply finds_silent rfl
  intro stored _
  cases stored.filter fun session => decide (now < session.expiresAtMs) with
  | some session => exact finds_done rfl
  | none => exact finds_silent rfl fun _ _ => finds_done rfl

theorem storeSession_finds (key : KeyPool.ApiCredential) (statusCode elapsed : Nat) {data : Value}
    (accepted : (data.get "ret_msg").bind Value.asStr = some "Approved")
    (named : ((data.get "session_id").bind Value.asStr).any (· ≠ "") = true) :
    Finds client method (SessionEnds found) found (storeSession client key statusCode elapsed data) := by
  obtain ⟨sessionId, stored, nonempty⟩ := (Option.any_eq_true _ _).mp named
  have filled : sessionId ≠ "" := by simpa using nonempty
  simp only [storeSession, perform_bind]
  rw [if_neg (not_not.mpr accepted)]
  apply finds_silent rfl
  intro _ _
  apply finds_silent rfl
  intro _ _
  rw [stored, Option.getD_some, if_neg filled]
  apply finds_silent rfl
  intro now _
  apply finds_silent rfl
  intro _ _
  exact finds_done rfl

theorem createSession_finds (key : KeyPool.ApiCredential) :
    Finds client method (SessionEnds found) found (createSession client key) := by
  simp only [createSession, perform_bind]
  apply finds_bind hirezTimestamp_finds
  rintro _ _ ⟨rfl, timestamp, rfl⟩
  apply finds_silent rfl
  intro _ _
  apply finds_call
  rintro ⟨error | response, elapsed⟩ fine
  · apply finds_silent rfl
    intro _ _
    apply finds_silent rfl
    intro _ _
    exact finds_done ⟨error, rfl, by simp [Findings.note, callReply, sessionFailure, ClientOp.blamesKey]⟩
  · have unchanged : found.note (.get ⟨client.sessionBaseUrl, "createsession", key.devId,
        sign client "createsession" key.devId key.authKey timestamp, none, timestamp, []⟩ 10)
        (.ok response, elapsed) = found := by
      simp [Findings.note, callReply, sessionFailure, ClientOp.blamesKey]
    rw [unchanged]
    apply finds_silent rfl
    intro _ _
    have answered : approved client response = true := fine
    obtain ⟨data, parsed, accepted⟩ := (Option.any_eq_true _ _).mp answered
    rw [answeredValue, Option.ite_none_right_eq_some] at parsed
    obtain ⟨success, parsed⟩ := parsed
    simp only [Bool.and_eq_true, beq_iff_eq] at accepted
    dsimp only
    rw [if_neg (by simp [success])]
    cases body : parseJsonBody client response.body with
    | error error => simp [body, Except.toOption] at parsed
    | ok value =>
        obtain rfl : value = data := by simpa [body, Except.toOption] using parsed
        exact storeSession_finds key _ _ accepted.1 accepted.2

theorem acquireSession_finds (key : KeyPool.ApiCredential) :
    Finds client method (SessionEnds found) found (acquireSession client key) := by
  simp only [acquireSession, perform_bind]
  apply finds_bind (getSession_finds key.devId)
  rintro _ (_ | session) rfl
  · apply finds_silent rfl
    intro _ _
    apply @finds_bind _ _ _ _ _ _ (SessionEnds found)
    · apply finds_bind (getSession_finds key.devId)
      rintro _ (_ | session) rfl
      · exact createSession_finds key
      · exact finds_done rfl
    · intro noted result ended
      exact finds_silent rfl fun _ _ => finds_done ended
  · exact finds_done rfl

theorem getActiveSession_finds :
    Finds client method (SessionEnds found) found (getActiveSession client) := by
  simp only [getActiveSession, perform_bind]
  apply finds_silent rfl
  rintro (error | key) there
  · simp [mild, Except.isOk, Except.toBool] at there
  · apply finds_bind (acquireSession_finds key)
    rintro noted (error | session) ended
    · exact finds_done ended
    · exact finds_done ended

end Programs

/-! ### Attempts -/

def Findings.called (found : Findings) (reply : Except TransportError HttpResponse) : Findings :=
  { found with calls := found.calls ++ [reply] }

/-- What the variables of the loop say of the history. -/
structure Agrees (client : Client) (method : String) (found : Findings) (progress : Progress) : Prop where
  keyed : progress.lastKeyDevId.isSome = true ↔ found.calls ≠ []
  transport : progress.transportFailed = true ↔ ∃ reply ∈ found.calls, rotation client method reply = none
  message : progress.lastAppError = (found.calls.filterMap (rotation client method)).getLast?.getD ""
  failure : progress.transportFailed = false → progress.lastError = found.failures.getLast?.map TransportError.toString
  spared : found.blamed = false

/-- A call brought what the request returns. -/
structure Served (client : Client) (method : String) (found : Findings) : Prop where
  spared : found.blamed = false
  answered : ∃ reply ∈ found.calls, rotation client method reply = none

def AttemptFound (client : Client) (method : String) (noted : Findings) : AttemptEnd → Prop
  | .again progress | .stop progress => Agrees client method noted progress
  | .returned _ => Served client method noted

section Attempts
variable {client : Client} {request : Request} {method : String} {found : Findings} {progress : Progress}

theorem agrees_session (agrees : Agrees client method found progress) (failure : TransportError) :
    Agrees client method { found with failures := found.failures ++ [failure] }
      { progress with lastError := some failure.toString } where
  keyed := agrees.keyed
  transport := agrees.transport
  message := agrees.message
  failure _ := by simp
  spared := agrees.spared

theorem agrees_transport (agrees : Agrees client method found progress) (devId : String) (error : TransportError) :
    Agrees client method (found.called (.error error))
      { progress with
        lastKeyDevId := some devId
        transportFailed := true
        lastError := some error.toString } where
  keyed := by simp [Findings.called]
  transport := by simp [Findings.called, rotation]
  message := by simp [Findings.called, rotation, agrees.message]
  failure := nofun
  spared := agrees.spared

theorem agrees_rotation (agrees : Agrees client method found progress) (devId : String) {response : HttpResponse}
    {retMsg : String} (rotates : rotation client method (.ok response) = some retMsg) :
    Agrees client method (found.called (.ok response))
      { progress with
        lastKeyDevId := some devId
        lastAppError := retMsg } where
  keyed := by simp [Findings.called]
  transport := by simp [Findings.called, rotates, agrees.transport, or_and_right, exists_or]
  message := by simp [Findings.called, rotates]
  failure := agrees.failure
  spared := agrees.spared

theorem retryOrStop_finds (agrees : Agrees client method found progress) (attempt : Nat) :
    Finds client method (AttemptFound client method) found (retryOrStop request attempt progress) := by
  unfold retryOrStop
  split
  · exact finds_silent rfl fun _ _ => finds_done agrees
  · exact finds_done agrees

theorem served (spared : found.blamed = false) {response : HttpResponse}
    (unrotated : rotation client method (.ok response) = none) :
    Served client method (found.called (.ok response)) :=
  ⟨spared, .ok response, List.mem_append_right _ List.mem_cons_self, unrotated⟩

theorem handleData_finds (agrees : Agrees client request.method found progress) (attempt : Nat)
    (key : KeyPool.ApiCredential) (session : Session) {response : HttpResponse} {data : Value}
    (value : answeredValue client response = some data)
    (fine : ((rotation client request.method (.ok response)).isSome || successful client request.method response) = true) :
    Finds client request.method (AttemptFound client request.method) (found.called (.ok response))
      (handleData request attempt key session { progress with lastKeyDevId := some key.devId } data) := by
  have rotates : rotation client request.method (.ok response) =
      if shouldPreserveBrokenSkinBatchResponse request.method data then none
      else (firstRetMsg data).filter fun retMsg =>
        (classifyRetMsg retMsg).action = .session ∨ (classifyRetMsg retMsg).action = .quota := by
    cases broken : shouldPreserveBrokenSkinBatchResponse request.method data <;>
      simp [rotation, value, Option.filter, broken]
  unfold handleData
  cases first : firstRetMsg data with
  | none =>
      have unrotated : rotation client request.method (.ok response) = none := by
        rw [rotates, first]
        split_ifs <;> rfl
      exact finds_silent rfl fun _ _ => finds_done (served agrees.spared unrotated)
  | some retMsg =>
      dsimp only
      by_cases broken : shouldPreserveBrokenSkinBatchResponse request.method data = true
      · have unrotated : rotation client request.method (.ok response) = none := by
          rw [rotates, if_pos broken]
        rw [if_pos broken]
        exact finds_silent rfl fun _ _ => finds_done (served agrees.spared unrotated)
      · rw [if_neg broken]
        rw [if_neg broken, first] at rotates
        unfold handleRetMsg
        generalize classified : classifyRetMsg retMsg = classification
        obtain ⟨action, code⟩ := classification
        simp only [successful, value, Option.any_some, first, Option.all_some, classified, broken, Bool.or_eq_true,
          Bool.false_or, decide_eq_true_eq, Option.isSome_iff_exists] at fine
        rw [Option.filter_some] at rotates
        simp only [classified] at rotates
        cases action with
        | session => exact finds_silent rfl fun _ _ => finds_done (agrees_rotation agrees key.devId (by simpa using rotates))
        | quota => exact finds_silent rfl fun _ _ => finds_done (agrees_rotation agrees key.devId (by simpa using rotates))
        | empty => exact finds_silent rfl fun _ _ => finds_done (served agrees.spared (by simpa using rotates))
        | retry | terminal | unknown => simp [rotates] at fine

theorem handleResponse_finds (agrees : Agrees client request.method found progress) (attempt : Nat)
    (key : KeyPool.ApiCredential) (session : Session) {url : Url} (keyed : url.sessionKey.isSome = true)
    {timeoutSecs elapsed : Nat} (reply : Except TransportError HttpResponse)
    (fine : mild client request.method (.get url timeoutSecs) (reply, elapsed) = true) :
    Finds client request.method (AttemptFound client request.method) (found.called reply)
      (handleResponse client request attempt key session { progress with lastKeyDevId := some key.devId } reply) := by
  cases reply with
  | error error => exact retryOrStop_finds (agrees_transport agrees key.devId error) attempt
  | ok response =>
      simp only [mild, keyed, if_true] at fine
      have readable : ∃ data, answeredValue client response = some data := by
        cases value : answeredValue client response with
        | some data => exact ⟨data, rfl⟩
        | none => simp [rotation, successful, value] at fine
      obtain ⟨data, value⟩ := readable
      have whole := value
      rw [answeredValue, Option.ite_none_right_eq_some] at whole
      obtain ⟨success, parsed⟩ := whole
      simp only [handleResponse, success, if_true]
      cases body : parseJsonBody client response.body with
      | error error => simp [body, Except.toOption] at parsed
      | ok other =>
          obtain rfl : other = data := by simpa [body, Except.toOption] using parsed
          exact handleData_finds agrees attempt key session value fine

theorem attemptOnce_finds (agrees : Agrees client request.method found progress) (attempt : Nat) :
    Finds client request.method (AttemptFound client request.method) found
      (attemptOnce client request attempt progress) := by
  have counted : Agrees client request.method found { progress with attemptsMade := attempt + 1 } :=
    ⟨agrees.keyed, agrees.transport, agrees.message, agrees.failure, agrees.spared⟩
  simp only [attemptOnce, perform_bind]
  apply finds_bind getActiveSession_finds
  rintro noted (error | ⟨key, session⟩) ended
  · obtain ⟨failure, rfl, rfl⟩ := ended
    exact retryOrStop_finds (agrees_session counted failure) attempt
  · cases ended
    apply finds_bind hirezTimestamp_finds
    rintro _ _ ⟨rfl, timestamp, rfl⟩
    apply finds_silent rfl
    intro _ _
    apply finds_call
    rintro ⟨reply, elapsed⟩ fine
    apply finds_silent rfl
    intro _ _
    have noted : ∀ url : Url, url.sessionKey.isSome = true →
        found.note (.get url request.timeoutSecs) (reply, elapsed) = found.called reply := by
      intro url keyed
      have unfailed : sessionFailure (.get url request.timeoutSecs) (reply, elapsed) = none := by
        cases reply <;> simp [sessionFailure, keyed]
      simp [Findings.note, Findings.called, callReply, unfailed, ClientOp.blamesKey, keyed]
    rw [noted _ rfl]
    exact handleResponse_finds counted attempt key session rfl reply fine

theorem attemptLoop_finds (left attempt : Nat) (agrees : Agrees client request.method found progress) :
    Finds client request.method (fun noted ended => (∀ progress, ended = .error progress →
      Agrees client request.method noted progress) ∧ (∀ result, ended = .ok result → Served client request.method noted))
      found (attemptLoop client request left attempt progress) := by
  induction left generalizing found attempt progress with
  | zero =>
      apply finds_done
      constructor
      · rintro _ ⟨⟩
        exact agrees
      · exact nofun
  | succ left ih =>
      apply finds_bind (attemptOnce_finds agrees attempt)
      rintro noted (progress | progress | result) ended
      · exact ih (attempt + 1) ended
      · apply finds_done
        constructor
        · rintro _ ⟨⟩
          exact ended
        · exact nofun
      · apply finds_done
        constructor
        · exact nofun
        · exact fun _ _ => ended

end Attempts

/-! ### The verdict on a history -/

section Verdict
variable {client : Client} {request : Request}

theorem failureMessage_grounds {method : String} {found : Findings} {progress : Progress}
    (agrees : Agrees client method found progress) (untouched : progress.transportFailed = false)
    (called : found.calls ≠ []) (rotated : ∀ reply ∈ found.calls, (rotation client method reply).isSome = true) :
    failureMessage progress = found.grounds client method := by
  have last : ∃ message, (found.calls.filterMap (rotation client method)).getLast? = some message ∧ message ≠ "" := by
    cases ends : (found.calls.filterMap (rotation client method)).getLast? with
    | none =>
        obtain ⟨reply, member⟩ := List.exists_mem_of_ne_nil _ called
        obtain ⟨message, rotates⟩ := Option.isSome_iff_exists.mp (rotated reply member)
        rw [List.getLast?_eq_none_iff] at ends
        have found : message ∈ found.calls.filterMap (rotation client method) :=
          List.mem_filterMap.mpr ⟨reply, member, rotates⟩
        rw [ends] at found
        cases found
    | some message =>
        obtain ⟨reply, -, rotates⟩ := List.mem_filterMap.mp (List.mem_of_getLast? ends)
        exact ⟨message, rfl, rotation_nonempty rotates⟩
  obtain ⟨message, ends, filled⟩ := last
  rw [failureMessage, Findings.grounds, agrees.failure untouched, agrees.message, ends, Option.getD_some,
    if_neg filled]

theorem failRequest_finds {found : Findings} {progress : Progress}
    (agrees : Agrees client request.method found progress) :
    Finds client request.method (fun noted _ => noted.blamed = true ↔ noted.Rotated client request.method) found
      (failRequest progress) := by
  unfold failRequest
  cases key : progress.lastKeyDevId with
  | none =>
      apply finds_done
      rw [agrees.spared]
      constructor
      · exact nofun
      · intro rotated
        have keyed := agrees.keyed.mpr rotated.called
        rw [key] at keyed
        cases keyed
  | some devId =>
      have called : found.calls ≠ [] := agrees.keyed.mp (by rw [key]; rfl)
      apply finds_call
      intro _ _
      apply finds_done
      have calls : ∀ fault, (found.note (.recordFailure devId fault) ()).calls = found.calls := by
        simp [Findings.note, callReply]
      have grounds : ∀ fault, (found.note (.recordFailure devId fault) ()).grounds client request.method =
          found.grounds client request.method := by
        simp [Findings.note, Findings.grounds, callReply, sessionFailure]
      have blamed : ∀ fault, (found.note (.recordFailure devId fault) ()).blamed = fault := by
        simp [Findings.note, agrees.spared, ClientOp.blamesKey]
      rw [blamed, isKeyFault_eq]
      cases transport : progress.transportFailed with
      | true =>
          obtain ⟨reply, member, unrotated⟩ := agrees.transport.mp transport
          constructor
          · exact nofun
          · intro rotated
            have known := rotated.rotated reply (by rw [calls]; exact member)
            rw [unrotated] at known
            cases known
      | false =>
          have rotated : ∀ reply ∈ found.calls, (rotation client request.method reply).isSome = true := by
            intro reply member
            rw [Option.isSome_iff_ne_none]
            intro unrotated
            have failed := agrees.transport.mpr ⟨reply, member, unrotated⟩
            rw [transport] at failed
            cases failed
          rw [failureMessage_grounds agrees transport called rotated]
          constructor
          · intro fault
            exact ⟨by rwa [calls], by rwa [calls], by rw [grounds]; simpa using fault⟩
          · intro found
            have unexcused := found.unexcused
            rw [grounds] at unexcused
            simp [unexcused]

theorem apiRequest_finds : Finds client request.method
    (fun noted _ => noted.blamed = true ↔ noted.Rotated client request.method) {} (apiRequest client request) := by
  have fresh : Agrees client request.method {} {} := by constructor <;> simp
  apply finds_bind (attemptLoop_finds _ 0 fresh)
  rintro noted (progress | result) ⟨stopped, returned⟩
  · exact failRequest_finds (stopped progress rfl)
  · have served := returned result rfl
    apply finds_done
    rw [served.spared]
    constructor
    · exact nofun
    · intro rotated
      obtain ⟨reply, member, unrotated⟩ := served.answered
      have known := rotated.rotated reply member
      rw [unrotated] at known
      cases known

theorem walk_findings {method : String} {events : List ClientEvent}
    (mildly : ∀ event ∈ events, mild client method event.op event.reply = true) (found : Findings) :
    walk (findingsNext client method) (some found) events =
      some (some
        { calls := found.calls ++ callReplies events
          failures := found.failures ++ sessionFailures events
          blamed := found.blamed || events.any fun event => event.op.blamesKey }) := by
  induction events generalizing found with
  | nil => simp [walk, callReplies, sessionFailures]
  | cons event rest ih =>
      have first := mildly event List.mem_cons_self
      have moved : findingsNext client method (some found) event.op event.reply =
          some (some (found.note event.op event.reply)) := by simp [findingsNext, first]
      simp only [walk, moved]
      rw [ih fun later member => mildly later (List.mem_cons_of_mem _ member)]
      cases reply : callReply event.op event.reply <;> cases failure : sessionFailure event.op event.reply <;>
        simp [Findings.note, callReplies, sessionFailures, reply, failure, Bool.or_assoc]

end Verdict

/-- In a request in which nothing fails but in transport, the key is blamed if and only if there were calls,
each was answered by another rotation, and the text that stands for the failure, be it of an attempt at a
session or of the last rotation, has none of the words that excuse the key. -/
theorem key_is_spared_unless_rotated {client : Client} {request : Request} {events : List ClientEvent}
    {result : Except UpstreamError Value} (run : Exec anyReply () (apiRequest client request) events result ())
    (mildly : ∀ event ∈ events, mild client request.method event.op event.reply = true) :
    (∀ event ∈ events, event.op.blamesKey = false) ↔ ¬ (findings events).Rotated client request.method := by
  obtain ⟨last, walked, ended⟩ := follows_exec apiRequest_finds run
  have reached : last = some (findings events) := by
    rw [walk_findings mildly] at walked
    simpa [findings] using walked.symm
  have verdict : (findings events).blamed = true ↔ (findings events).Rotated client request.method :=
    ended (findings events) reached
  rw [← verdict]
  simp [findings]

/-- The client of the tests, which reads one text as a rejected session. -/
def rejectedClient : Client where
  baseUrl := "https://api.paladins.com/paladinsapi.svc"
  sessionBaseUrl := "https://api.paladins.com/paladinsapi.svc"
  ttlMs := 780000
  md5Hex _ := "5ffb551a6f5afbe2a9b5d73a37892999"
  formatTimestamp _ := .ok "20260728235959"
  parseJson _ := .ok (.array [.object [("ret_msg", .string "Invalid session id.")]])
  displayJson _ := "[]"

def batchRequest (maxRetries : Nat) : Request :=
  ⟨"getmatchdetailsbatch", ["128000001"], { maxRetries := some maxRetries }, "ranked_ingest"⟩

/-- A session is cached until it is rejected, and the vendor has no other. -/
def cutOff (call : Except TransportError HttpResponse) : List ClientEvent → (op : ClientOp) → op.Reply
  | _, .activeKey => .ok ⟨"1234", "auth"⟩
  | _, .get url _ => (if url.sessionKey.isSome then call else .error .timeout, 15)
  | _, .unixMillis => (0 : Int)
  | past, .readSession devId =>
      if past.any fun event => event.op matches .invalidateSession _ _ then none else some ⟨devId, "S1", 780000⟩
  | _, .incrementUsage _ | _, .logEndpoint _ _ _ _ | _, .recordSuccess _ | _, .recordFailure _ _
  | _, .syncUsage _ | _, .removeSession _ | _, .invalidateSession _ _ | _, .insertSession _ _
  | _, .lockKey _ | _, .unlockKey _ | _, .saveAudit _ | _, .sleepBeforeRetry _ => ()

theorem session_timeout_blames_key :
    let events := (play (cutOff (.ok ⟨200, "OK", "[]"⟩)) [] (apiRequest rejectedClient (batchRequest 1))).1
    (∀ event ∈ events, mild rejectedClient (batchRequest 1).method event.op event.reply = true) ∧
      ∃ event ∈ events, event.op.blamesKey = true := by
  exact ⟨List.all_eq_true.mp (by decide +kernel), List.any_eq_true.mp (by decide +kernel)⟩

theorem call_timeout_spares_key :
    (play (cutOff (.error .timeout)) [] (apiRequest rejectedClient (batchRequest 0))).1.all
      (fun event => !event.op.blamesKey) = true := by
  have spared := (key_is_spared_unless_rotated
    (play_exec (cutOff (.error .timeout)) [] (apiRequest rejectedClient (batchRequest 0)))
    (List.all_eq_true.mp (by decide +kernel))).mpr (by
      intro rotated
      have calls : callReplies (play (cutOff (.error .timeout)) [] (apiRequest rejectedClient (batchRequest 0))).1 =
          [.error .timeout] := rfl
      have known := rotated.rotated (.error .timeout) (by simp [findings, calls])
      cases known)
  exact List.all_eq_true.mpr fun event member => by simp only [spared event member, Bool.not_false]

end PaladinsCat.Hirez
