import PaladinsCat.HirezClient

/-!
The course of one request: which calls an answer of the vendor leads to. A return
message that rejects the session leads to the invalidation of that very session,
one that refuses the quota to a sync of that very key, before the next attempt.
-/

namespace PaladinsCat.Hirez

open Interleaving KeyPool

/-! ### The phases -/

inductive RequestPhase where
  -- no key was obtained yet
  | fresh
  | ready
  -- the vendor has answered a call with a return message
  | answered (url : Url) (retMsg : String)
  | ended

/-- The attempt is through, and another may follow. -/
def RequestPhase.isOpen : RequestPhase → Prop
  | .fresh | .ready => True
  | _ => False

/-- The return message of an answer, and the call it answers; `createsession` has
no session key and is none of them. -/
def answeredMessage (client : Client) : (op : ClientOp) → op.Reply → Option (Url × String)
  | .get url _, (.ok response, _) =>
      if url.sessionKey.isSome && response.isSuccess then
        match parseJsonBody client response.body with
        | .ok data => (firstRetMsg data).map fun retMsg => (url, retMsg)
        | .error _ => none
      else none
  | _, _ => none

def attemptedKey : (op : ClientOp) → op.Reply → Option String
  | .activeKey, .ok credential => some credential.devId
  | _, _ => none

def retAction (retMsg : String) : RetMsgAction := (classifyRetMsg retMsg).action

def courseNext (client : Client) : RequestPhase → (op : ClientOp) → op.Reply → Option RequestPhase
  | .ended, _, _ => none
  | .answered url retMsg, .logEndpoint _ _ _ _, _ => some (.answered url retMsg)
  | .answered url retMsg, .invalidateSession devId rejected, _ =>
      if retAction retMsg = .session ∧ devId = url.devId ∧ url.sessionKey = some rejected.sessionKey
      then some .ready else none
  | .answered url retMsg, .syncUsage devId, _ =>
      if retAction retMsg = .quota ∧ devId = url.devId then some .ready else none
  | .answered _ retMsg, .sleepBeforeRetry _, _ =>
      if retAction retMsg = .retry then some .ready else none
  | .answered _ _, .recordSuccess _, _ => some .ended
  | .answered _ _, .recordFailure _ _, _ => some .ended
  | .answered _ _, _, _ => none
  | _, .invalidateSession _ _, _ => none
  | _, .syncUsage _, _ => none
  | _, .activeKey, .ok _ => some .ready
  | phase, .activeKey, .error _ => some phase
  | phase, op, reply =>
      match answeredMessage client op reply, phase with
      | none, _ => some phase
      | some (url, retMsg), .ready => some (.answered url retMsg)
      | some _, _ => none

/-! ### The programs -/

def Attempted (phase : RequestPhase) : AttemptEnd → Prop
  | .again _ => phase.isOpen
  | .stop _ => phase ≠ .ended
  | .returned _ => True

def RequestPhase.after (client : Client) (op : ClientOp) (reply : op.Reply) : RequestPhase :=
  match answeredMessage client op reply with
  | none => .ready
  | some (url, retMsg) => .answered url retMsg

section Steps
variable {client : Client} {url : Url} {retMsg : String}

theorem courseNext_invalidate (devId : String) (rejected : Session) (reply : Unit) :
    courseNext client (.answered url retMsg) (.invalidateSession devId rejected) reply =
      if retAction retMsg = .session ∧ devId = url.devId ∧ url.sessionKey = some rejected.sessionKey
      then some .ready else none := rfl

theorem courseNext_sync (devId : String) (reply : ClientOp.Reply (.syncUsage devId)) :
    courseNext client (.answered url retMsg) (.syncUsage devId) reply =
      if retAction retMsg = .quota ∧ devId = url.devId then some .ready else none := rfl

theorem courseNext_sleep (attempt : Nat) (reply : Unit) :
    courseNext client (.answered url retMsg) (.sleepBeforeRetry attempt) reply =
      if retAction retMsg = .retry then some .ready else none := rfl

theorem courseNext_get {timeoutSecs : Nat} (reply : ClientOp.Reply (.get url timeoutSecs)) :
    courseNext client .ready (.get url timeoutSecs) reply =
      some (.after client (.get url timeoutSecs) reply) := by
  delta courseNext RequestPhase.after
  cases message : answeredMessage client (.get url timeoutSecs) reply <;> simp only [message]

theorem courseNext_early {timeoutSecs : Nat} (reply : ClientOp.Reply (.get url timeoutSecs)) :
    courseNext client .fresh (.get url timeoutSecs) reply =
      if (answeredMessage client (.get url timeoutSecs) reply).isNone then some .fresh else none := by
  delta courseNext
  cases message : answeredMessage client (.get url timeoutSecs) reply <;> simp only [message] <;> rfl

end Steps

theorem courseNext_forSession {client : Client} (op : ClientOp) (reply : op.Reply)
    (forSession : op.forSession) : courseNext client .ready op reply = some .ready := by
  cases op with
  | get url timeoutSecs =>
      have unkeyed : url.sessionKey = none := forSession.2
      obtain ⟨error | response, elapsed⟩ := reply
      · exact courseNext_get _
      · rw [courseNext_get]
        simp [RequestPhase.after, answeredMessage, unkeyed]
  | activeKey => cases reply <;> rfl
  | syncUsage | invalidateSession | sleepBeforeRetry => exact forSession.elim
  | _ => rfl

section Requests
variable {client : Client} {request : Request} {attempt : Nat} {key : ApiCredential} {session : Session}

theorem retryOrStop_course {phase after : RequestPhase} (progress : Progress)
    (sleeps : courseNext client phase (.sleepBeforeRetry (attempt + 1)) () = some after)
    (opened : after.isOpen) (unfinished : phase ≠ .ended) :
    Follows (courseNext client) Attempted phase (retryOrStop request attempt progress) := by
  unfold retryOrStop
  split
  · exact fun _ => ⟨after, sleeps, opened⟩
  · exact unfinished

theorem handleRetMsg_course (progress : Progress) {url : Url} (sameKey : url.devId = key.devId)
    (sameSession : url.sessionKey = some session.sessionKey) (retMsg : String) :
    Follows (courseNext client) Attempted (.answered url retMsg)
      (handleRetMsg request attempt key session progress retMsg) := by
  unfold handleRetMsg
  generalize classified : classifyRetMsg retMsg = classification
  obtain ⟨action, code⟩ := classification
  have acts : retAction retMsg = action := by rw [retAction, classified]
  cases action with
  | session => exact fun _ => ⟨.ready, by
      rw [courseNext_invalidate, if_pos ⟨acts, sameKey.symm, sameSession⟩], trivial⟩
  | quota => exact fun _ => ⟨.ready, by
      rw [courseNext_sync, if_pos ⟨acts, sameKey.symm⟩], trivial⟩
  | empty => exact fun _ => ⟨.ended, rfl, trivial⟩
  | retry =>
      have sleeps : courseNext client (.answered url retMsg) (.sleepBeforeRetry (attempt + 1)) () =
          some .ready := by rw [courseNext_sleep, if_pos acts]
      exact retryOrStop_course _ sleeps trivial nofun
  | terminal | unknown => exact nofun

theorem handleData_course (progress : Progress) {url : Url} (sameKey : url.devId = key.devId)
    (sameSession : url.sessionKey = some session.sessionKey) (data : Value) :
    Follows (courseNext client) Attempted
      (match (firstRetMsg data).map fun retMsg => (url, retMsg) with
        | none => .ready
        | some (url, retMsg) => .answered url retMsg)
      (handleData request attempt key session progress data) := by
  unfold handleData
  cases firstRetMsg data with
  | none => exact fun _ => ⟨.ready, rfl, trivial⟩
  | some retMsg =>
      simp only [Option.map_some]
      split
      · exact fun _ => ⟨.ended, rfl, trivial⟩
      · exact handleRetMsg_course progress sameKey sameSession retMsg

theorem after_unfinished (op : ClientOp) (reply : op.Reply) :
    RequestPhase.after client op reply ≠ .ended := by
  unfold RequestPhase.after
  split <;> nofun

theorem handleResponse_course (progress : Progress) {url : Url} (sameKey : url.devId = key.devId)
    (sameSession : url.sessionKey = some session.sessionKey) (timeoutSecs : Nat)
    (reply : Except TransportError HttpResponse × Nat) :
    Follows (courseNext client) Attempted (.after client (.get url timeoutSecs) reply)
      (handleResponse client request attempt key session progress reply.1) := by
  obtain ⟨error | response, elapsed⟩ := reply
  · exact retryOrStop_course _ rfl trivial (after_unfinished _ _)
  · simp only [handleResponse]
    by_cases success : response.isSuccess = true
    · simp only [RequestPhase.after, answeredMessage, sameSession, success, Option.isSome_some,
        Bool.and_self, ↓reduceIte]
      cases parseJsonBody client response.body with
      | error error => exact retryOrStop_course _ rfl trivial (by simp)
      | ok data => exact handleData_course progress sameKey sameSession data
    · have unanswered : RequestPhase.after client (.get url timeoutSecs) (.ok response, elapsed) = .ready := by
        simp [RequestPhase.after, answeredMessage, success]
      simp only [success, Bool.false_eq_true, ↓reduceIte, unanswered]
      split
      · trivial
      · exact retryOrStop_course _ rfl trivial (by simp)

theorem courseNext_log (phase : RequestPhase) (unfinished : phase ≠ .ended) (devId endpoint : String)
    (responseTimeMs : Nat) (consumer : String) :
    courseNext client phase (.logEndpoint devId endpoint responseTimeMs consumer) () = some phase := by
  cases phase with
  | ended => exact absurd rfl unfinished
  | _ => rfl

theorem getActiveSession_course {phase : RequestPhase} (opened : phase.isOpen) :
    Follows (courseNext client)
      (fun after active => after.isOpen ∧ ∀ pair, active = .ok pair → after = .ready)
      phase (getActiveSession client) := by
  simp only [getActiveSession, Program.perform_bind]
  rintro (error | key)
  · refine ⟨phase, ?_, opened, by simp⟩
    cases phase <;> first | rfl | exact opened.elim
  · refine ⟨.ready, by cases phase <;> first | rfl | exact opened.elim, ?_⟩
    refine follows_bind.mpr (follows_mono ?_ (follows_of_uses courseNext_forSession
      (acquireSession_forSession client key)))
    rintro _ (error | session) rfl <;> exact ⟨trivial, fun _ _ => rfl⟩

theorem attemptOnce_course {phase : RequestPhase} (opened : phase.isOpen) (progress : Progress) :
    Follows (courseNext client) Attempted phase (attemptOnce client request attempt progress) := by
  simp only [attemptOnce, Program.perform_bind]
  refine follows_bind.mpr (follows_mono ?_ (getActiveSession_course opened))
  rintro phase (error | ⟨key, session⟩) ⟨opened, obtained⟩
  · cases phase with
    | fresh | ready => exact retryOrStop_course _ rfl trivial nofun
    | answered | ended => exact opened.elim
  obtain rfl := obtained _ rfl
  refine follows_bind.mpr (follows_mono ?_ (follows_of_uses courseNext_forSession
    (hirezTimestamp_forSession client)))
  rintro _ (error | timestamp) rfl
  · trivial
  refine fun _ => ⟨.ready, rfl, fun reply => ⟨.after client _ reply, courseNext_get reply, fun _ => ?_⟩⟩
  exact ⟨.after client _ reply, courseNext_log _ (after_unfinished _ _) _ _ _ _,
    handleResponse_course _ rfl rfl _ reply⟩

theorem attemptLoop_course (left : Nat) {phase : RequestPhase} (opened : phase.isOpen) (attempt : Nat)
    (progress : Progress) :
    Follows (courseNext client) (fun after ended => ∀ progress, ended = .error progress → after ≠ .ended)
      phase (attemptLoop client request left attempt progress) := by
  induction left generalizing phase attempt progress with
  | zero =>
      rintro _ ⟨⟩ rfl
      exact opened
  | succ left ih =>
      refine follows_bind.mpr (follows_mono ?_ (attemptOnce_course opened progress))
      rintro phase (progress | progress | result) ended
      · exact ih ended (attempt + 1) progress
      · exact fun _ _ => ended
      · exact nofun

end Requests

theorem apiRequest_course (client : Client) (request : Request) :
    Follows (courseNext client) (fun _ _ => True) .fresh (apiRequest client request) := by
  have opened : RequestPhase.fresh.isOpen := trivial
  refine follows_bind.mpr (follows_mono ?_ (attemptLoop_course _ opened 0 {}))
  rintro phase (progress | result) ended
  · have unfinished := ended progress rfl
    simp only [failRequest, Program.perform_bind]
    cases progress.lastKeyDevId with
    | none => trivial
    | some devId =>
        intro _
        cases phase with
        | ended => exact absurd rfl unfinished
        | fresh | ready | answered => exact ⟨_, rfl, trivial⟩
  · trivial

/-! ### What a phase remembers -/

-- Only an attempt ends the first phase.
theorem courseNext_fresh {client : Client} {after : RequestPhase} {op : ClientOp} {reply : op.Reply}
    (allowed : courseNext client .fresh op reply = some after) :
    after = .fresh ∨ ∃ devId, attemptedKey op reply = some devId := by
  cases op with
  | activeKey =>
      rcases reply with error | credential
      · exact Or.inl (Option.some.inj allowed).symm
      · exact Or.inr ⟨credential.devId, rfl⟩
  | get url timeoutSecs =>
      rw [courseNext_early, Option.ite_none_right_eq_some] at allowed
      exact Or.inl (Option.some.inj allowed.2).symm
  | invalidateSession | syncUsage => cases allowed
  | _ => exact Or.inl (Option.some.inj allowed).symm

theorem courseNext_answered {client : Client} {phase after : RequestPhase} {op : ClientOp}
    {reply : op.Reply} {url : Url} {retMsg : String}
    (allowed : courseNext client phase op reply = some after)
    (message : answeredMessage client op reply = some (url, retMsg)) :
    phase = .ready ∧ after = .answered url retMsg := by
  cases op with
  | get called timeoutSecs =>
      cases phase with
      | ready =>
          rw [courseNext_get, RequestPhase.after, message] at allowed
          exact ⟨rfl, (Option.some.inj allowed).symm⟩
      | fresh => simp [courseNext_early, message] at allowed
      | answered | ended => cases allowed
  | _ => simp [answeredMessage] at message

def RequestPhase.message : RequestPhase → Option (Url × String)
  | .answered url retMsg => some (url, retMsg)
  | _ => none

-- A message comes from an answer, and is kept until a call deals with it.
theorem courseNext_message {client : Client} {phase after : RequestPhase} {op : ClientOp}
    {reply : op.Reply} (allowed : courseNext client phase op reply = some after) :
    after.message = none ∨ after.message = answeredMessage client op reply ∨
      after.message = phase.message := by
  cases phase with
  | ended => cases allowed
  | answered url retMsg =>
      cases op with
      | logEndpoint =>
          cases allowed
          exact Or.inr (Or.inr rfl)
      | invalidateSession | syncUsage | sleepBeforeRetry =>
          simp only [courseNext_invalidate, courseNext_sync, courseNext_sleep, Option.ite_none_right_eq_some,
            Option.some.injEq] at allowed
          obtain ⟨-, rfl⟩ := allowed
          exact Or.inl rfl
      | recordSuccess | recordFailure =>
          cases allowed
          exact Or.inl rfl
      | _ => cases allowed
  | fresh =>
      cases op with
      | get url timeoutSecs =>
          rw [courseNext_early, Option.ite_none_right_eq_some] at allowed
          cases allowed.2
          exact Or.inl rfl
      | invalidateSession | syncUsage => cases allowed
      | activeKey => cases reply <;> cases allowed <;> exact Or.inl rfl
      | _ =>
          cases allowed
          exact Or.inl rfl
  | ready =>
      cases op with
      | get url timeoutSecs =>
          rw [courseNext_get] at allowed
          cases allowed
          unfold RequestPhase.after
          cases message : answeredMessage client (.get url timeoutSecs) reply with
          | none => exact Or.inl rfl
          | some answer => exact Or.inr (Or.inl rfl)
      | invalidateSession | syncUsage => cases allowed
      | activeKey => cases reply <;> cases allowed <;> exact Or.inl rfl
      | _ =>
          cases allowed
          exact Or.inl rfl

end PaladinsCat.Hirez
