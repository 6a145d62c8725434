import PaladinsCat.HirezClient

/-!
Vendor messages in the rows of an array answer. The client reads the whole answer
by the first row that carries a message, where its callers filter row by row.
Which answers reach them whole is settled below for every method and every mix of
rows.
-/

namespace PaladinsCat.Hirez

open Interleaving KeyPool

/-! ### Answers that are returned as they are -/

def answeredData (client : Client) (method : String) : (op : ClientOp) → op.Reply → Option Value
  | .get url _, (.ok response, _) =>
      if url.method = method ∧ response.isSuccess then
        match parseJsonBody client response.body with
        | .ok data => some data
        | .error _ => none
      else none
  | _, _ => none

/-- The answers that `api_request` returns as they are. -/
def returnsWhole (method : String) (data : Value) : Bool :=
  (firstRetMsg data).isNone || shouldPreserveBrokenSkinBatchResponse method data

/-- The phase of a request is the answer that it is to return. Once it has one,
it only logs the call and records the success. -/
def wholeNext (client : Client) (method : String) :
    Option Value → (op : ClientOp) → op.Reply → Option (Option Value)
  | none, op, reply => some ((answeredData client method op reply).filter (returnsWhole method))
  | some data, .logEndpoint _ _ _ _, _ => some (some data)
  | some data, .recordSuccess _, _ => some (some data)
  | some _, _, _ => none

theorem wholeNext_log {client : Client} {method : String} (phase : Option Value)
    (devId endpoint : String) (responseTimeMs : Nat) (consumer : String) :
    wholeNext client method phase (.logEndpoint devId endpoint responseTimeMs consumer) () =
      some phase := by
  cases phase <;> rfl

-- Calls that are no calls of the method.
def ClientOp.avoids (method : String) : ClientOp → Prop
  | .get url _ => url.method ≠ method
  | _ => True

theorem wholeNext_avoids {client : Client} {method : String} (op : ClientOp) (reply : op.Reply)
    (avoids : op.avoids method) : wholeNext client method none op reply = some none := by
  cases op with
  | get url timeoutSecs =>
      have other : url.method ≠ method := avoids
      obtain ⟨response, elapsed⟩ := reply
      rcases response with error | response
      · rfl
      · simp [wholeNext, answeredData, other]
  | _ => rfl

theorem forSession_avoids {method : String} (notSession : method ≠ "createsession") {op : ClientOp}
    (forSession : op.forSession) : op.avoids method := by
  cases op with
  | get url timeoutSecs =>
      have session : url.method = "createsession" := forSession.1
      intro same
      exact notSession (same ▸ session)
  | _ => trivial

section Whole
variable {client : Client} {request : Request}

def EndsWhole (phase : Option Value) (ended : AttemptEnd) : Prop :=
  phase = none ∨ ∃ data, phase = some data ∧ ended = .returned (.ok data)

abbrev FollowsWhole (client : Client) (method : String) (program : ClientProgram AttemptEnd) : Prop :=
  Follows (wholeNext client method) EndsWhole none program

theorem retryOrStop_whole (attempt : Nat) (progress : Progress) :
    FollowsWhole client request.method (retryOrStop request attempt progress) := by
  unfold retryOrStop
  split
  · exact fun _ => ⟨none, rfl, Or.inl rfl⟩
  · exact Or.inl rfl

theorem handleRetMsg_whole (attempt : Nat) (key : ApiCredential) (session : Session)
    (progress : Progress) (retMsg : String) :
    FollowsWhole client request.method (handleRetMsg request attempt key session progress retMsg) := by
  unfold handleRetMsg
  generalize classifyRetMsg retMsg = classification
  obtain ⟨action, code⟩ := classification
  cases action with
  | session | quota | empty => exact fun _ => ⟨none, rfl, Or.inl rfl⟩
  | retry => exact retryOrStop_whole attempt _
  | terminal | unknown => exact Or.inl rfl

theorem handleData_whole (attempt : Nat) (key : ApiCredential) (session : Session)
    (progress : Progress) (data : Value) :
    Follows (wholeNext client request.method) EndsWhole
      ((some data).filter (returnsWhole request.method))
      (handleData request attempt key session progress data) := by
  unfold handleData
  cases first : firstRetMsg data with
  | none =>
      have whole : returnsWhole request.method data = true := by simp [returnsWhole, first]
      simp only [Option.filter_some, whole, ↓reduceIte]
      exact fun _ => ⟨some data, rfl, Or.inr ⟨data, rfl, rfl⟩⟩
  | some retMsg =>
      dsimp only
      split
      · rename_i preserved
        have whole : returnsWhole request.method data = true := by simp [returnsWhole, preserved]
        simp only [Option.filter_some, whole, ↓reduceIte]
        exact fun _ => ⟨some data, rfl, Or.inr ⟨data, rfl, rfl⟩⟩
      · rename_i dropped
        have partly : returnsWhole request.method data = false := by
          simpa [returnsWhole, first] using dropped
        simp only [Option.filter_some, partly]
        exact handleRetMsg_whole attempt key session progress retMsg

theorem handleResponse_whole (attempt : Nat) (key : ApiCredential) (session : Session)
    (progress : Progress) (url : Url) (asked : url.method = request.method) (timeoutSecs elapsed : Nat)
    (response : Except TransportError HttpResponse) :
    Follows (wholeNext client request.method) EndsWhole
      ((answeredData client request.method (.get url timeoutSecs) (response, elapsed)).filter
        (returnsWhole request.method))
      (handleResponse client request attempt key session progress response) := by
  rcases response with error | response
  · exact retryOrStop_whole attempt _
  · simp only [handleResponse, answeredData, asked, true_and]
    split
    · cases parseJsonBody client response.body with
      | error error => exact retryOrStop_whole attempt _
      | ok data => exact handleData_whole attempt key session progress data
    · split
      · exact Or.inl rfl
      · exact retryOrStop_whole attempt _

theorem attemptOnce_whole (notSession : request.method ≠ "createsession") (attempt : Nat)
    (progress : Progress) :
    FollowsWhole client request.method (attemptOnce client request attempt progress) := by
  have session : ∀ {α : Type} {program : ClientProgram α}, Uses ClientOp.forSession program →
      Follows (wholeNext client request.method) (fun phase _ => phase = none) none program :=
    fun uses => follows_of_uses
      (fun op reply forSession => wholeNext_avoids op reply (forSession_avoids notSession forSession)) uses
  simp only [attemptOnce, Program.perform_bind]
  refine follows_bind.mpr (follows_mono ?_ (session (getActiveSession_forSession client)))
  rintro _ active rfl
  rcases active with error | ⟨key, cached⟩
  · exact retryOrStop_whole attempt _
  refine follows_bind.mpr (follows_mono ?_ (session (hirezTimestamp_forSession client)))
  rintro _ timestamp rfl
  rcases timestamp with error | timestamp
  · exact Or.inl rfl
  intro _
  refine ⟨none, rfl, fun reply => ⟨_, rfl, fun _ => ⟨_, wholeNext_log _ _ _ _ _, ?_⟩⟩⟩
  refine handleResponse_whole attempt key cached _ _ ?_ _ reply.2 reply.1
  rfl

theorem attemptLoop_whole (notSession : request.method ≠ "createsession") (left attempt : Nat)
    (progress : Progress) :
    Follows (wholeNext client request.method)
      (fun phase ended => ∀ data, phase = some data → ended = .ok (.ok data)) none
      (attemptLoop client request left attempt progress) := by
  induction left generalizing attempt progress with
  | zero => simp [attemptLoop]
  | succ left ih =>
      refine follows_bind.mpr (follows_mono ?_ (attemptOnce_whole notSession attempt progress))
      rintro phase ended (rfl | ⟨data, rfl, rfl⟩)
      · cases ended with
        | again progress => exact ih (attempt + 1) progress
        | stop progress => simp
        | returned result => simp
      · simp

/-- A request that was given an answer to be returned whole returns it. -/
theorem apiRequest_whole (notSession : request.method ≠ "createsession") :
    Follows (wholeNext client request.method)
      (fun phase result => ∀ data, phase = some data → result = .ok data) none
      (apiRequest client request) := by
  refine follows_bind.mpr (follows_mono ?_ (attemptLoop_whole notSession _ 0 {}))
  rintro (_ | data) ended returned
  · rcases ended with progress | result
    · simp only [failRequest, Program.perform_bind]
      cases progress.lastKeyDevId with
      | none => simp
      | some devId => exact fun _ => ⟨none, rfl, by simp⟩
    · simp
  · obtain rfl := returned data rfl
    simp

end Whole

theorem walk_kept {client : Client} {method : String} {events : List ClientEvent} {data : Value}
    {last : Option Value} (walked : walk (wholeNext client method) (some data) events = some last) :
    last = some data ∧ ∀ event ∈ events, answeredData client method event.op event.reply = none := by
  induction events with
  | nil => exact ⟨(Option.some.inj walked).symm, by simp⟩
  | cons event rest ih =>
      obtain ⟨_, op, reply, _⟩ := event
      cases op with
      | logEndpoint | recordSuccess =>
          obtain ⟨same, others⟩ := ih walked
          refine ⟨same, fun event member => ?_⟩
          rcases List.mem_cons.mp member with rfl | later
          · rfl
          · exact others event later
      | _ => simp [walk, wholeNext] at walked

theorem walk_whole {client : Client} {method : String} {events : List ClientEvent} {data : Value}
    {last : Option Value} (whole : returnsWhole method data = true)
    (walked : walk (wholeNext client method) none events = some last) {event : ClientEvent}
    (member : event ∈ events) (received : answeredData client method event.op event.reply = some data) :
    last = some data := by
  induction events with
  | nil => simp at member
  | cons head rest ih =>
      simp only [walk, wholeNext] at walked
      rcases List.mem_cons.mp member with rfl | later
      · rw [received, Option.filter_some, if_pos whole] at walked
        exact (walk_kept walked).1
      · cases kept : (answeredData client method head.op head.reply).filter (returnsWhole method) with
        | none =>
            rw [kept] at walked
            exact ih walked later
        | some other =>
            rw [kept] at walked
            have nothing := (walk_kept walked).2 event later
            simp [received] at nothing

/-! ### Rows -/

/-- Whatever else is answered: a request of this method that is answered with
these rows returns an array that still has every row without a message. -/
def KeepsGoodRows (client : Client) (method : String) (rows : List Value) : Prop :=
  ∀ (params : List String) (options : ApiRequestOptions) (consumer : String)
    (answer : List ClientEvent → (op : ClientOp) → op.Reply),
    (∃ event ∈ (play answer [] (apiRequest client ⟨method, params, options, consumer⟩)).1,
      answeredData client method event.op event.reply = some (.array rows)) →
    ∃ items, (play answer [] (apiRequest client ⟨method, params, options, consumer⟩)).2 =
        .ok (.array items) ∧
      ∀ row ∈ rows, rowRetMsg row = none → row ∈ items

theorem keepsGoodRows_of_whole {client : Client} {method : String} {rows : List Value}
    (notSession : method ≠ "createsession") (whole : returnsWhole method (.array rows) = true) :
    KeepsGoodRows client method rows := by
  rintro params options consumer answer ⟨event, member, received⟩
  obtain ⟨last, walked, returned⟩ := follows_exec
    (apiRequest_whole notSession)
    (play_exec answer [] (apiRequest client ⟨method, params, options, consumer⟩))
  exact ⟨rows, returned _ (walk_whole whole walked member received), fun _ member _ => member⟩

-- A vendor that gives one answer to everything, and a session that is cached.
def steady (millis : Int) (body : String) : List ClientEvent → (op : ClientOp) → op.Reply
  | _, .activeKey => .ok ⟨"1000", "secret"⟩
  | _, .get _ _ => (.ok ⟨200, "OK", body⟩, 0)
  | _, .unixMillis => millis
  | _, .readSession devId => some ⟨devId, "session", millis + 1⟩
  | _, .incrementUsage _ | _, .logEndpoint _ _ _ _ | _, .recordSuccess _ | _, .recordFailure _ _
  | _, .syncUsage _ | _, .removeSession _ | _, .invalidateSession _ _ | _, .insertSession _ _
  | _, .lockKey _ | _, .unlockKey _ | _, .saveAudit _ | _, .sleepBeforeRetry _ => ()

def ReturnsNoRow (result : Except UpstreamError Value) : Prop :=
  ∀ items, result = .ok (.array items) → items = []

section Partly
variable {request : Request} {attempt : Nat} {key : ApiCredential} {session : Session}

theorem handleData_partly (progress : Progress) {data : Value}
    (partly : returnsWhole request.method data = false) :
    Returns (fun ended => ∀ result, ended = .returned result → ReturnsNoRow result)
      (handleData request attempt key session progress data) := by
  have retried : ∀ progress, Returns (fun ended => ∀ result, ended = AttemptEnd.returned result →
      ReturnsNoRow result) (retryOrStop request attempt progress) := by
    intro progress
    unfold retryOrStop
    split
    · exact fun _ _ ended => by simp at ended
    · exact fun _ ended => by simp at ended
  simp only [returnsWhole, Bool.or_eq_false_iff, Option.isNone_eq_false_iff,
    Option.isSome_iff_exists] at partly
  obtain ⟨⟨retMsg, first⟩, dropped⟩ := partly
  simp only [handleData, first, dropped, Bool.false_eq_true, ↓reduceIte, handleRetMsg]
  generalize classifyRetMsg retMsg = classification
  obtain ⟨action, code⟩ := classification
  cases action with
  | session | quota => exact fun _ _ ended => by simp at ended
  | empty =>
      intro _ result ended items returned
      obtain rfl : _ = result := by simpa using ended
      simpa using returned.symm
  | retry => exact retried _
  | terminal | unknown => exact fun _ ended => by simp at ended

end Partly

section Steady
variable {client : Client} {method body text : String} {seconds : Int} {rows : List Value}

theorem steady_receives (parsed : parseJsonBody client body = .ok (.array rows))
    (stamped : client.formatTimestamp seconds = .ok text) :
    ∃ event ∈ (play (steady (seconds * 1000) body) []
        (apiRequest client ⟨method, [], ⟨none, some 0⟩, ""⟩)).1,
      answeredData client method event.op event.reply = some (.array rows) := by
  have unexpired : seconds * 1000 < seconds * 1000 + 1 := by omega
  have whole : seconds * 1000 / 1000 = seconds := by omega
  simp only [apiRequest, attemptLoop, attemptOnce, getActiveSession, acquireSession, getSession,
    hirezTimestamp, Program.perform_bind, Program.pure_eq_done, Program.done_bind, Program.call_bind,
    play, steady, Option.filter_some, unexpired, decide_true, ↓reduceIte, whole, stamped,
    Except.mapError]
  simp [answeredData, parsed, HttpResponse.isSuccess]

theorem steady_returnsNoRow (parsed : parseJsonBody client body = .ok (.array rows))
    (stamped : client.formatTimestamp seconds = .ok text)
    (partly : returnsWhole method (.array rows) = false) :
    ReturnsNoRow (play (steady (seconds * 1000) body) []
      (apiRequest client ⟨method, [], ⟨none, some 0⟩, ""⟩)).2 := by
  have unexpired : seconds * 1000 < seconds * 1000 + 1 := by omega
  have whole : seconds * 1000 / 1000 = seconds := by omega
  have success : HttpResponse.isSuccess ⟨200, "OK", body⟩ = true := rfl
  simp only [apiRequest, attemptLoop, attemptOnce, getActiveSession, acquireSession, getSession,
    hirezTimestamp, Program.perform_bind, Program.pure_eq_done, Program.done_bind, Program.call_bind,
    play, steady, Option.filter_some, unexpired, decide_true, ↓reduceIte, whole, stamped,
    Except.mapError, handleResponse, parsed, success]
  refine returns_play ?_ _ _
  refine returns_bind (fun ended => ∀ result, ended = .ok result → ReturnsNoRow result) ?_ ?_
  · refine returns_bind _ (handleData_partly _ ?_) ?_
    · exact partly
    · intro ended noRow
      cases ended with
      | again progress => exact fun _ returned => by simp at returned
      | stop progress => exact fun _ returned => by simp at returned
      | returned result => exact fun _ returned => Except.ok.inj returned ▸ noRow result rfl
  · rintro (progress | result) noRow
    · simp only [failRequest, Program.perform_bind]
      cases progress.lastKeyDevId with
      | none => exact fun _ returned => by simp at returned
      | some devId => exact fun _ _ returned => by simp at returned
    · exact noRow result rfl

end Steady

/-- Given that some body denotes the rows and some moment can be stamped: every
request that is answered with these rows, of which one at least has no message,
returns all rows without a message if and only if no row has one, or all messages
are those of broken skins in a match batch. -/
theorem good_rows_kept_iff_whole {client : Client} {method : String} {rows : List Value}
    (notSession : method ≠ "createsession")
    (denoted : ∃ body, parseJsonBody client body = .ok (.array rows))
    (stamped : ∃ seconds text, client.formatTimestamp seconds = .ok text)
    (mixed : ∃ row ∈ rows, rowRetMsg row = none) :
    KeepsGoodRows client method rows ↔
      (∀ row ∈ rows, rowRetMsg row = none) ∨
        shouldPreserveBrokenSkinBatchResponse method (.array rows) = true := by
  have condition : returnsWhole method (.array rows) = true ↔ (∀ row ∈ rows, rowRetMsg row = none) ∨
      shouldPreserveBrokenSkinBatchResponse method (.array rows) = true := by
    simp [returnsWhole, firstRetMsg]
  rw [← condition]
  constructor
  · intro kept
    by_contra partly
    obtain ⟨body, parsed⟩ := denoted
    obtain ⟨seconds, text, stamped⟩ := stamped
    obtain ⟨row, member, clean⟩ := mixed
    obtain ⟨items, returned, all⟩ := kept _ _ _ _ (steady_receives parsed stamped)
    rw [steady_returnsNoRow parsed stamped (by simpa using partly) items returned] at all
    simpa using all row member clean
  · exact keepsGoodRows_of_whole notSession

/-! ### A roster with a private player -/

def cleanRow : Value := .object [("player_id", .integer 1)]
def privateRow : Value := .object [("ret_msg", .string "Player Privacy Flag set for this player.")]

def cleanBody : String := "[\x7b\"player_id\":1\x7d]"
def mixedBody : String :=
  "[\x7b\"player_id\":1\x7d,\x7b\"ret_msg\":\"Player Privacy Flag set for this player.\"\x7d]"

-- The client of the tests, with the parser and the clock format at the inputs used here.
def testClient : Client where
  baseUrl := "https://api.paladins.com/paladinsapi.svc"
  sessionBaseUrl := "https://api.paladins.com/paladinsapi.svc"
  ttlMs := 780000
  md5Hex _ := "5ffb551a6f5afbe2a9b5d73a37892999"
  formatTimestamp seconds :=
    if seconds = 1785283199 then .ok "20260728235959" else .error "out of range"
  parseJson body :=
    if body = cleanBody then .ok (.array [cleanRow])
    else if body = mixedBody then .ok (.array [cleanRow, privateRow])
    else .error "expected value at line 1 column 1"
  displayJson _ := "[]"

theorem private_player_discards_the_roster :
    "getplayerbatchfrommatch" ≠ "createsession" ∧ rowRetMsg cleanRow = none ∧
      ¬ KeepsGoodRows testClient "getplayerbatchfrommatch" [cleanRow, privateRow] := by
  have parsed : parseJsonBody testClient mixedBody = .ok (.array [cleanRow, privateRow]) := rfl
  have stamped : testClient.formatTimestamp 1785283199 = .ok "20260728235959" := rfl
  refine ⟨by decide, by decide, fun kept => ?_⟩
  obtain ⟨items, returned, all⟩ := kept _ _ _ _ (steady_receives parsed stamped)
  rw [steady_returnsNoRow parsed stamped (by decide) items returned] at all
  simpa using all cleanRow (by simp) (by decide)

theorem clean_roster_is_kept :
    KeepsGoodRows testClient "getplayerbatchfrommatch" [cleanRow] :=
  (good_rows_kept_iff_whole (by decide) ⟨cleanBody, rfl⟩ ⟨1785283199, "20260728235959", rfl⟩
    ⟨cleanRow, by simp, by decide⟩).mpr (Or.inl (by simp; decide))

end PaladinsCat.Hirez
