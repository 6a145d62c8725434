import PaladinsCat.HirezClient

/-!
What a request costs. Whatever the key state, the session cache and the transport
answer, `api_request` ends within its attempts, and each call it makes to the
vendor is charged to its key right before and logged for it right after.
-/

namespace PaladinsCat.Hirez

open Interleaving KeyPool

/-! ### The discipline -/

/-- Where a program stands between a charge and its log entry. -/
inductive Stage where
  | settled
  | charged (devId : String)
  | called (devId : String)

/-- The stage, and how many attempts and vendor calls were made so far. -/
structure Tally where
  stage : Stage
  attempts : Nat
  gets : Nat

/-- A charge is followed by a call with the charged key, and that by a log entry
for it; a call and a log entry come in no other way. -/
def tallyNext : Tally → (op : ClientOp) → op.Reply → Option Tally
  | ⟨.settled, attempts, gets⟩, .activeKey, _ => some ⟨.settled, attempts + 1, gets⟩
  | ⟨.settled, attempts, gets⟩, .incrementUsage devId, _ => some ⟨.charged devId, attempts, gets⟩
  | ⟨.settled, _, _⟩, .get _ _, _ => none
  | ⟨.settled, _, _⟩, .logEndpoint _ _ _ _, _ => none
  | ⟨.settled, attempts, gets⟩, _, _ => some ⟨.settled, attempts, gets⟩
  | ⟨.charged devId, attempts, gets⟩, .get url _, _ =>
      if url.devId = devId then some ⟨.called devId, attempts, gets + 1⟩ else none
  | ⟨.called devId, attempts, gets⟩, .logEndpoint logged _ _ _, _ =>
      if logged = devId then some ⟨.settled, attempts, gets⟩ else none
  | _, _, _ => none

/-- The program keeps the discipline, and makes at most so many attempts and calls. -/
def Spends {α : Type} (attempts gets : Nat) (program : ClientProgram α) : Prop :=
  ∀ before calls, Follows tallyNext (fun tally _ => tally.stage = .settled ∧
    tally.attempts ≤ before + attempts ∧ tally.gets ≤ calls + gets) ⟨.settled, before, calls⟩ program

def ClientOp.uncounted : ClientOp → Bool
  | .activeKey | .incrementUsage _ | .get _ _ | .logEndpoint _ _ _ _ => false
  | _ => true

section Spends
variable {α β : Type} {attempts gets : Nat}

theorem spends_done (result : α) : Spends attempts gets (.done result) :=
  fun _ _ => ⟨rfl, Nat.le_add_right _ _, Nat.le_add_right _ _⟩

theorem spends_call {op : ClientOp} {rest : op.Reply → ClientProgram α} (uncounted : op.uncounted = true)
    (continues : ∀ reply, Spends attempts gets (rest reply)) : Spends attempts gets (.call op rest) := by
  intro before calls reply
  refine ⟨⟨.settled, before, calls⟩, ?_, continues reply before calls⟩
  cases op <;> first | rfl | simp [ClientOp.uncounted] at uncounted

theorem spends_activeKey {rest : Except UpstreamError ApiCredential → ClientProgram α}
    (continues : ∀ reply, Spends attempts gets (rest reply)) :
    Spends (attempts + 1) gets (.call .activeKey rest) := by
  intro before calls reply
  refine ⟨⟨.settled, before + 1, calls⟩, rfl, follows_mono ?_ (continues reply (before + 1) calls)⟩
  rintro tally _ ⟨settled, few, fewer⟩
  exact ⟨settled, by omega, fewer⟩

theorem spends_get {devId endpoint consumer : String} {url : Url} {timeout : Nat}
    {rest : Except TransportError HttpResponse × Nat → ClientProgram α} (same : url.devId = devId)
    (continues : ∀ reply, Spends attempts gets (rest reply)) :
    Spends attempts (gets + 1) (.call (.incrementUsage devId) fun _ => .call (.get url timeout)
      fun reply => .call (.logEndpoint devId endpoint reply.2 consumer) fun _ => rest reply) := by
  intro before calls _
  refine ⟨⟨.charged devId, before, calls⟩, rfl, fun reply => ⟨⟨.called devId, before, calls + 1⟩, ?_, ?_⟩⟩
  · simp [tallyNext, same]
  · refine fun _ => ⟨⟨.settled, before, calls + 1⟩, by simp [tallyNext], ?_⟩
    refine follows_mono ?_ (continues reply before (calls + 1))
    rintro tally _ ⟨settled, few, fewer⟩
    exact ⟨settled, few, by omega⟩

theorem spends_bind {program : ClientProgram α} {rest : α → ClientProgram β} {more calls : Nat}
    (head : Spends attempts gets program) (tail : ∀ value, Spends more calls (rest value)) :
    Spends (attempts + more) (gets + calls) (program >>= rest) := by
  intro before made
  refine follows_bind.mpr (follows_mono ?_ (head before made))
  rintro ⟨stage, tried, called⟩ value ⟨settled, few, fewer⟩
  dsimp only at settled few fewer
  subst settled
  refine follows_mono ?_ (tail value tried called)
  rintro tally _ ⟨settled, few', fewer'⟩
  exact ⟨settled, by omega, by omega⟩

theorem spends_after {program : ClientProgram α} {rest : α → ClientProgram β}
    (head : Spends 0 0 program) (tail : ∀ value, Spends attempts gets (rest value)) :
    Spends attempts gets (program >>= rest) := by
  simpa using spends_bind head tail

theorem spends_before {program : ClientProgram α} {rest : α → ClientProgram β}
    (head : Spends attempts gets program) (tail : ∀ value, Spends 0 0 (rest value)) :
    Spends attempts gets (program >>= rest) := spends_bind head tail

theorem spends_mono {program : ClientProgram α} {more calls : Nat} (spends : Spends attempts gets program)
    (few : attempts ≤ more) (fewer : gets ≤ calls) : Spends more calls program := by
  intro before made
  refine follows_mono ?_ (spends before made)
  rintro tally _ ⟨settled, _, _⟩
  exact ⟨settled, by omega, by omega⟩

end Spends

/-! ### The programs -/

theorem hirezTimestamp_spends (client : Client) : Spends 0 0 (hirezTimestamp client) :=
  spends_call rfl fun _ => spends_done _

theorem getSession_spends (devId : String) : Spends 0 0 (getSession devId) := by
  simp only [getSession, Program.perform_bind]
  refine spends_call rfl fun now => spends_call rfl fun found => ?_
  cases found.filter fun session => decide (now < session.expiresAtMs) with
  | some session => exact spends_done _
  | none => exact spends_call rfl fun _ => spends_done _

theorem storeSession_spends (client : Client) (key : ApiCredential) (statusCode elapsed : Nat)
    (data : Value) : Spends 0 0 (storeSession client key statusCode elapsed data) := by
  simp only [storeSession, Program.perform_bind]
  split
  · exact spends_call rfl fun _ => spends_done _
  · refine spends_call rfl fun _ => spends_call rfl fun _ => ?_
    split
    · exact spends_done _
    · exact spends_call rfl fun _ => spends_call rfl fun _ => spends_done _

theorem createSession_spends (client : Client) (key : ApiCredential) :
    Spends 0 1 (createSession client key) := by
  simp only [createSession, Program.perform_bind]
  refine spends_after (hirezTimestamp_spends client) fun timestamp => ?_
  rcases timestamp with error | timestamp
  · exact spends_done _
  refine spends_get rfl fun reply => ?_
  rcases reply with ⟨error | response, elapsed⟩
  · exact spends_call rfl fun _ => spends_done _
  dsimp only
  split
  · exact spends_call rfl fun _ => spends_done _
  · split
    · exact spends_call rfl fun _ => spends_done _
    · exact storeSession_spends client key _ _ _

theorem acquireLocked_spends (client : Client) (key : ApiCredential) :
    Spends 0 1 (acquireLocked client key) := by
  refine spends_after (getSession_spends key.devId) fun found => ?_
  rcases found with _ | session
  · exact createSession_spends client key
  · exact spends_done _

theorem acquireSession_spends (client : Client) (key : ApiCredential) :
    Spends 0 1 (acquireSession client key) := by
  simp only [acquireSession, Program.perform_bind]
  refine spends_after (getSession_spends key.devId) fun found => ?_
  rcases found with _ | session
  · exact spends_call rfl fun _ => spends_before (acquireLocked_spends client key) fun _ =>
      spends_call rfl fun _ => spends_done _
  · exact spends_done _

theorem getActiveSession_spends (client : Client) : Spends 1 1 (getActiveSession client) := by
  simp only [getActiveSession, Program.perform_bind]
  refine spends_activeKey fun key => ?_
  rcases key with error | key
  · exact spends_done _
  refine spends_before (acquireSession_spends client key) fun session => ?_
  rcases session with error | session <;> exact spends_done _

theorem retryOrStop_spends (request : Request) (attempt : Nat) (progress : Progress) :
    Spends 0 0 (retryOrStop request attempt progress) := by
  unfold retryOrStop
  split
  · exact spends_call rfl fun _ => spends_done _
  · exact spends_done _

theorem handleRetMsg_spends (request : Request) (attempt : Nat) (key : ApiCredential)
    (session : Session) (progress : Progress) (retMsg : String) :
    Spends 0 0 (handleRetMsg request attempt key session progress retMsg) := by
  unfold handleRetMsg
  generalize classifyRetMsg retMsg = classification
  obtain ⟨action, code⟩ := classification
  cases action with
  | session | quota | empty => exact spends_call rfl fun _ => spends_done _
  | retry => exact retryOrStop_spends request attempt _
  | terminal | unknown => exact spends_done _

theorem handleData_spends (request : Request) (attempt : Nat) (key : ApiCredential)
    (session : Session) (progress : Progress) (data : Value) :
    Spends 0 0 (handleData request attempt key session progress data) := by
  unfold handleData
  cases firstRetMsg data with
  | none => exact spends_call rfl fun _ => spends_done _
  | some retMsg =>
      dsimp only
      split
      · exact spends_call rfl fun _ => spends_done _
      · exact handleRetMsg_spends request attempt key session progress retMsg

theorem handleResponse_spends (client : Client) (request : Request) (attempt : Nat)
    (key : ApiCredential) (session : Session) (progress : Progress)
    (response : Except TransportError HttpResponse) :
    Spends 0 0 (handleResponse client request attempt key session progress response) := by
  rcases response with error | response
  · exact retryOrStop_spends request attempt _
  · simp only [handleResponse]
    split
    · split
      · exact handleData_spends request attempt key session progress _
      · exact retryOrStop_spends request attempt _
    · split
      · exact spends_done _
      · exact retryOrStop_spends request attempt _

theorem attemptOnce_spends (client : Client) (request : Request) (attempt : Nat) (progress : Progress) :
    Spends 1 2 (attemptOnce client request attempt progress) := by
  simp only [attemptOnce, Program.perform_bind]
  have called : Spends (1 + 0) (1 + 1) (attemptOnce client request attempt progress) := by
    refine spends_bind (getActiveSession_spends client) fun active => ?_
    rcases active with error | ⟨key, session⟩
    · exact spends_mono (retryOrStop_spends request attempt _) (by omega) (by omega)
    refine spends_after (hirezTimestamp_spends client) fun timestamp => ?_
    rcases timestamp with error | timestamp
    · exact spends_done _
    exact spends_get rfl fun reply => handleResponse_spends client request attempt key session _ _
  exact called

theorem attemptLoop_spends (client : Client) (request : Request) (left attempt : Nat)
    (progress : Progress) : Spends left (2 * left) (attemptLoop client request left attempt progress) := by
  induction left generalizing attempt progress with
  | zero => exact spends_done _
  | succ left ih =>
      have pass : Spends (1 + left) (2 + 2 * left)
          (attemptLoop client request (left + 1) attempt progress) := by
        refine spends_bind (attemptOnce_spends client request attempt progress) fun ended => ?_
        cases ended with
        | again progress => exact ih (attempt + 1) progress
        | stop progress => exact spends_done _
        | returned result => exact spends_done _
      exact spends_mono pass (by omega) (by omega)

theorem apiRequest_spends (client : Client) (request : Request) :
    Spends (request.maxRetries + 1) (2 * (request.maxRetries + 1)) (apiRequest client request) := by
  refine spends_before (attemptLoop_spends client request _ 0 {}) fun ended => ?_
  rcases ended with progress | result
  · simp only [failRequest, Program.perform_bind]
    cases progress.lastKeyDevId with
    | none => exact spends_done _
    | some devId => exact spends_call rfl fun _ => spends_done _
  · exact spends_done _

/-! ### Reading the trace -/

def ClientOp.accounting : ClientOp → Bool
  | .incrementUsage _ | .get _ _ | .logEndpoint _ _ _ _ => true
  | _ => false

def ClientOp.isGet : ClientOp → Bool
  | .get _ _ => true
  | _ => false

def ClientOp.isActiveKey : ClientOp → Bool
  | .activeKey => true
  | _ => false

/-- One charge, the call with the charged key, one log entry for it; and again. -/
inductive Accounted : List ClientOp → Prop where
  | nil : Accounted []
  | call (url : Url) (timeoutSecs : Nat) (endpoint : String) (responseTimeMs : Nat)
      (consumer : String) {rest : List ClientOp} (tail : Accounted rest) :
      Accounted (.incrementUsage url.devId :: .get url timeoutSecs ::
        .logEndpoint url.devId endpoint responseTimeMs consumer :: rest)

def Stage.Completes (ops : List ClientOp) : Stage → Prop
  | .settled => Accounted ops
  | .charged devId => Accounted (.incrementUsage devId :: ops)
  | .called devId => ∀ url timeoutSecs, url.devId = devId →
      Accounted (.incrementUsage devId :: .get url timeoutSecs :: ops)

def accountingTrace (events : List ClientEvent) : List ClientOp :=
  (events.map (·.op)).filter ClientOp.accounting

-- One allowed call moves what remains to be accounted for.
theorem completes_step {event : ClientEvent} {tally after : Tally} {ops : List ClientOp}
    (allowed : tallyNext tally event.op event.reply = some after) (completes : after.stage.Completes ops) :
    tally.stage.Completes (if event.op.accounting then event.op :: ops else ops) ∧
      after.attempts = tally.attempts + event.op.isActiveKey.toNat ∧
      after.gets = tally.gets + event.op.isGet.toNat := by
  obtain ⟨_, op, reply, _⟩ := event
  obtain ⟨stage, attempts, gets⟩ := tally
  cases stage with
  | settled =>
      cases op with
      | get | logEndpoint => simp [tallyNext] at allowed
      | _ =>
          obtain rfl : _ = after := Option.some.inj allowed
          exact ⟨completes, rfl, rfl⟩
  | charged devId =>
      cases op with
      | get url timeoutSecs =>
          by_cases same : url.devId = devId
          · obtain rfl : _ = after := by simpa [tallyNext, same] using allowed
            exact ⟨completes url timeoutSecs same, rfl, rfl⟩
          · simp [tallyNext, same] at allowed
      | _ => simp [tallyNext] at allowed
  | called devId =>
      cases op with
      | logEndpoint logged endpoint responseTimeMs consumer =>
          by_cases same : logged = devId
          · obtain rfl : _ = after := by simpa [tallyNext, same] using allowed
            subst same
            refine ⟨fun url timeoutSecs fits => ?_, rfl, rfl⟩
            rw [← fits]
            exact .call url timeoutSecs endpoint responseTimeMs consumer completes
          · simp [tallyNext, same] at allowed
      | _ => simp [tallyNext] at allowed

theorem walk_completes {events : List ClientEvent} {tally last : Tally}
    (walked : walk tallyNext tally events = some last) (settled : last.stage = .settled) :
    tally.stage.Completes (accountingTrace events) ∧
      last.attempts = tally.attempts + events.countP (·.op.isActiveKey) ∧
      last.gets = tally.gets + events.countP (·.op.isGet) := by
  induction events generalizing tally with
  | nil =>
      obtain rfl : tally = last := by simpa [walk] using walked
      rw [settled]
      exact ⟨.nil, rfl, rfl⟩
  | cons event rest ih =>
      simp only [walk] at walked
      split at walked
      · rename_i after allowed
        obtain ⟨completes, tried, called⟩ := ih walked
        obtain ⟨step, attempts, gets⟩ := completes_step allowed completes
        refine ⟨?_, ?_, ?_⟩
        · rw [accountingTrace, List.map_cons, List.filter_cons]
          exact step
        · rw [tried, attempts, List.countP_cons, Nat.add_assoc, Nat.add_comm (Bool.toNat _)]
          cases event.op.isActiveKey <;> rfl
        · rw [called, gets, List.countP_cons, Nat.add_assoc, Nat.add_comm (Bool.toNat _)]
          cases event.op.isGet <;> rfl
      · simp at walked

/-- Whatever is answered, a request ends after at most `max_retries + 1` attempts
and twice as many calls to the vendor, and its trace is made of charges, calls
and log entries that belong together. -/
theorem request_calls_charged_and_logged (client : Client) (request : Request)
    (answer : List ClientEvent → (op : ClientOp) → op.Reply) :
    let events := (play answer [] (apiRequest client request)).1
    events.countP (·.op.isActiveKey) ≤ request.maxRetries + 1 ∧
      events.countP (·.op.isGet) ≤ 2 * (request.maxRetries + 1) ∧
      Accounted (accountingTrace events) := by
  intro events
  obtain ⟨last, walked, settled, attempts, gets⟩ := follows_exec (apiRequest_spends client request 0 0)
    (play_exec answer [] (apiRequest client request))
  obtain ⟨completes, tried, called⟩ := walk_completes walked settled
  simp only [Nat.zero_add] at attempts gets tried called
  exact ⟨tried ▸ attempts, called ▸ gets, completes⟩

end PaladinsCat.Hirez
