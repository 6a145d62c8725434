import PaladinsCat.BackendStore
import PaladinsCat.Interleaving

/-!
The one-use transactions of the login front end (auth.rs): `oidc_transaction_create` stores a
transaction under its state value for ten minutes, and `oidc_transaction_consume` takes a lease of
ten seconds, reads the transaction, deletes it and releases the lease, by commands to Redis that may
fail one by one. The model follows the requests for one state value. It numbers the transactions
that are created, so that two that are equal can be told apart, and the random lease tokens.
-/

namespace PaladinsCat.OidcTransactions

open Interleaving Program
open Backend (Fate)

/-! ### Redis, for one state value -/

structure OidcBody where
  nonce : Option String := none
  verifier : Option String := none
  deriving DecidableEq

structure Stored where
  number : Nat
  body : OidcBody
  expiresAt : Nat
  deriving DecidableEq

structure ConsumeLease where
  token : Nat
  expiresAt : Nat
  deriving DecidableEq

/-- The keys `oidc:transaction:<state>` and `oidc:transaction:<state>:consume`, by a clock in milliseconds. -/
structure OidcStore where
  clock : Nat := 0
  created : Nat := 0
  drawn : Nat := 0
  transaction : Option Stored := none
  lease : Option ConsumeLease := none
  numbered : ∀ stored ∈ transaction, stored.number < created := by simp
  tokens : ∀ held ∈ lease, held.token < drawn := by simp

/-- A key that has expired is not there. -/
def OidcStore.present (store : OidcStore) : Option Stored :=
  store.transaction.filter fun stored => decide (store.clock < stored.expiresAt)

/-- The lease with this token is in force. -/
def OidcStore.Leased (store : OidcStore) (token : Nat) : Prop :=
  ∃ held ∈ store.lease, held.token = token ∧ store.clock < held.expiresAt

instance (store : OidcStore) (token : Nat) : Decidable (store.Leased token) :=
  inferInstanceAs (Decidable (∃ held ∈ store.lease, held.token = token ∧ store.clock < held.expiresAt))

namespace OidcStore
variable (store : OidcStore)

def later (elapsed : Nat) : OidcStore := { store with clock := store.clock + elapsed }

/-- `SET key body EX 600 NX`. -/
def setIfAbsent (body : OidcBody) : Bool × OidcStore :=
  if store.present.isSome then (false, store)
  else (true, { store with
    created := store.created + 1
    transaction := some ⟨store.created, body, store.clock + 600000⟩
    numbered := by simp })

def randomToken : Nat × OidcStore :=
  (store.drawn, { store with
    drawn := store.drawn + 1
    tokens := fun held member => Nat.lt_succ_of_lt (store.tokens held member) })

/-- `SET lease token PX 10000 NX`. -/
def acquireLease (token : Nat) : Bool × OidcStore :=
  if drawn : token < store.drawn ∧ ¬ ∃ held ∈ store.lease, store.clock < held.expiresAt then
    (true, { store with
      lease := some ⟨token, store.clock + 10000⟩
      tokens := by
        intro held member
        cases member
        exact drawn.1 })
  else (false, store)

def del : Nat × OidcStore :=
  (if store.present.isSome then 1 else 0, { store with transaction := none, numbered := by simp })

/-- The script that deletes the lease if it has this token. -/
def releaseLease (token : Nat) : OidcStore :=
  if store.Leased token then { store with lease := none, tokens := by simp } else store

end OidcStore

/-! ### Commands -/

inductive OidcOp where
  | setIfAbsent (body : OidcBody)
  | randomToken
  | acquireLease (token : Nat)
  | get
  | del
  | releaseLease (token : Nat)
  deriving DecidableEq

abbrev OidcOp.Reply : OidcOp → Type
  | .setIfAbsent _ => Option Bool
  | .randomToken => Nat
  | .acquireLease _ => Option Bool
  | .get => Option Stored
  | .del => Nat
  | .releaseLease _ => Unit

structure OidcOutside where
  fate : Fate := .committed
  elapsed : Nat := 0

/-- A command that fails has no answer; it may have been carried out. -/
def answer {A : Type} (fate : Fate) (store : OidcStore) (outcome : A × OidcStore) : Option A × OidcStore :=
  match fate with
  | .committed => (some outcome.1, outcome.2)
  | .rolledBack _ => (none, store)
  | .unacknowledged _ => (none, outcome.2)

def oidcServe : Service OidcStore OidcOp OidcOp.Reply OidcOutside :=
  fun before op outside =>
    let store := before.later outside.elapsed
    match op with
    | .setIfAbsent body => some (answer outside.fate store (store.setIfAbsent body))
    | .randomToken => some store.randomToken
    | .acquireLease token => some (answer outside.fate store (store.acquireLease token))
    | .get => some ((answer outside.fate store (store.present, store)).map Option.join id)
    | .del => some ((answer outside.fate store store.del).map (fun count : Option Nat => count.getD 0) id)
    | .releaseLease token =>
        some ((answer outside.fate store ((), store.releaseLease token)).map (fun _ => ()) id)

/-! ### The two handlers -/

abbrev OidcProgram (α : Type) : Type := Program OidcOp OidcOp.Reply α

inductive OidcResponse where
  | bffAuthorizationRequired
  | invalidTransaction
  | stateAlreadyExists
  | storeUnavailable
  | created
  | alreadyConsumed
  | expiredOrConsumed
  | transaction (stored : Stored)
  deriving DecidableEq

/-- The length of a text in bytes is in these bounds. -/
def lengthWithin (text : Option String) (least : Nat) (most : Option Nat) : Bool :=
  text.any fun text => decide (least ≤ text.utf8ByteSize) && most.all fun most => decide (text.utf8ByteSize ≤ most)

def oidcTransactionCreate (authorized : Bool) (body : OidcBody) : OidcProgram OidcResponse := do
  if !authorized then return .bffAuthorizationRequired
  else if !lengthWithin body.nonce 32 none || !lengthWithin body.verifier 43 (some 128) then return .invalidTransaction
  else
    match ← perform (OidcOp.setIfAbsent body) with
    | some true => return .created
    | some false => return .stateAlreadyExists
    | none => return .storeUnavailable

def oidcTransactionConsume (authorized : Bool) : OidcProgram OidcResponse := do
  if !authorized then return .bffAuthorizationRequired
  else
    let token ← perform OidcOp.randomToken
    match ← perform (OidcOp.acquireLease token) with
    | some true =>
        let transaction ← perform OidcOp.get
        let _ ← perform OidcOp.del
        let _ ← perform (OidcOp.releaseLease token)
        match (transaction : Option Stored) with
        | some value => return .transaction value
        | none => return .expiredOrConsumed
    | _ => return .alreadyConsumed

inductive OidcCall where
  | create (authorized : Bool) (body : OidcBody)
  | consume (authorized : Bool)

def oidcCode : OidcCall → OidcProgram OidcResponse
  | .create authorized body => oidcTransactionCreate authorized body
  | .consume authorized => oidcTransactionConsume authorized

abbrev OidcTurn : Type := Turn OidcStore OidcOp OidcOp.Reply OidcResponse

abbrev OidcState : Type := State OidcStore OidcOp OidcOp.Reply OidcResponse

abbrev OidcRun (start : OidcStore) (history : List OidcTurn) (state : OidcState) : Prop :=
  Run oidcServe.handler oidcCode ⟨start, []⟩ history state

/-- The transaction that a request has returned. -/
def returned : OidcProgram OidcResponse → Option Stored
  | .done (.transaction stored) => some stored
  | _ => none

/-- No two requests have returned one transaction. -/
def OneUse (state : OidcState) : Prop :=
  ∀ (one other : Nat) (stored stored' : Stored), (state.programs[one]?.bind returned) = some stored →
    (state.programs[other]?.bind returned) = some stored' → stored.number = stored'.number → one = other

def found : (op : OidcOp) → op.Reply → Option Stored
  | .get, reply => reply
  | _, _ => none

def drawn : (op : OidcOp) → op.Reply → Option Nat
  | .randomToken, token => some token
  | _, _ => none

/-- A consume that has found the transaction deletes it, and does so under its own lease. -/
def DeletesUnderItsLease (earlier : List OidcTurn) (turn : OidcTurn) : Prop :=
  turn.op = .del → (∃ first ∈ earlier, first.task = turn.task ∧ (found first.op first.reply).isSome) →
    turn.after.transaction = none ∧ ∀ first ∈ earlier, first.task = turn.task →
      ∀ token ∈ drawn first.op first.reply, turn.after.Leased token

instance (earlier : List OidcTurn) (turn : OidcTurn) : Decidable (DeletesUnderItsLease earlier turn) :=
  inferInstanceAs (Decidable (turn.op = .del →
    (∃ first ∈ earlier, first.task = turn.task ∧ (found first.op first.reply).isSome) →
      turn.after.transaction = none ∧ ∀ first ∈ earlier, first.task = turn.task →
        ∀ token ∈ drawn first.op first.reply, turn.after.Leased token))

/-! ### One step -/

/-- What a command does to the numbers, to the transaction and to the lease. -/
structure OidcStep (before : OidcStore) (op : OidcOp) (reply : op.Reply) (after : OidcStore) : Prop where
  created : before.created ≤ after.created
  drawn : before.drawn ≤ after.drawn
  transactions : ∀ stored ∈ after.transaction, stored ∈ before.transaction ∨ stored.number = before.created
  leases : ∀ held ∈ after.lease, held ∈ before.lease ∨ op = .acquireLease held.token
  finds : ∀ stored ∈ found op reply, stored ∈ before.transaction
  draws : ∀ token ∈ OidcTransactions.drawn op reply, token = before.drawn ∧ after.drawn = before.drawn + 1

section Step
variable {before after : OidcStore} {op : OidcOp} {reply : op.Reply}

/-- A step that leaves everything but the clock. -/
theorem oidcStep_kept (elapsed : Nat) (finds : ∀ stored ∈ found op reply, stored ∈ before.transaction)
    (draws : OidcTransactions.drawn op reply = none) : OidcStep before op reply (before.later elapsed) where
  created := Nat.le_refl _
  drawn := Nat.le_refl _
  transactions := fun _ member => Or.inl member
  leases := fun _ member => Or.inl member
  finds := finds
  draws := by simp [draws]

theorem setIfAbsent_step (body : OidcBody) (elapsed : Nat) (reply : Option Bool) :
    OidcStep before (.setIfAbsent body) reply ((before.later elapsed).setIfAbsent body).2 := by
  by_cases there : (before.later elapsed).present.isSome = true
  · rw [OidcStore.setIfAbsent, if_pos there]
    exact oidcStep_kept elapsed nofun rfl
  · rw [OidcStore.setIfAbsent, if_neg there]
    exact ⟨Nat.le_succ _, Nat.le_refl _, fun stored member => Or.inr (by cases member; rfl), fun _ => Or.inl, nofun, nofun⟩

theorem acquireLease_step (token elapsed : Nat) (reply : Option Bool) :
    OidcStep before (.acquireLease token) reply ((before.later elapsed).acquireLease token).2 := by
  rw [OidcStore.acquireLease]
  split_ifs
  · exact ⟨Nat.le_refl _, Nat.le_refl _, fun _ => Or.inl, fun held member => Or.inr (by cases member; rfl), nofun, nofun⟩
  · exact oidcStep_kept elapsed nofun rfl

theorem del_step (elapsed : Nat) (reply : Nat) : OidcStep before .del reply (before.later elapsed).del.2 :=
  ⟨Nat.le_refl _, Nat.le_refl _, nofun, fun _ => Or.inl, nofun, nofun⟩

theorem releaseLease_step (token elapsed : Nat) (reply : Unit) :
    OidcStep before (.releaseLease token) reply ((before.later elapsed).releaseLease token) := by
  rw [OidcStore.releaseLease]
  split_ifs
  · exact ⟨Nat.le_refl _, Nat.le_refl _, fun _ => Or.inl, nofun, nofun, nofun⟩
  · exact oidcStep_kept elapsed nofun rfl

theorem oidc_step (served : oidcServe.handler before op reply after) : OidcStep before op reply after := by
  obtain ⟨⟨fate, elapsed⟩, served⟩ := served
  cases op with
  | setIfAbsent body =>
      cases fate <;> cases served
      · exact setIfAbsent_step body elapsed _
      · exact oidcStep_kept elapsed nofun rfl
      · exact setIfAbsent_step body elapsed _
  | randomToken =>
      cases served
      refine ⟨Nat.le_refl _, Nat.le_succ _, fun _ => Or.inl, fun _ => Or.inl, nofun, ?_⟩
      intro token drew
      cases drew
      exact ⟨rfl, rfl⟩
  | acquireLease token =>
      cases fate <;> cases served
      · exact acquireLease_step token elapsed _
      · exact oidcStep_kept elapsed nofun rfl
      · exact acquireLease_step token elapsed _
  | get =>
      cases fate <;> cases served
      · refine oidcStep_kept elapsed ?_ rfl
        intro stored present
        exact (Option.filter_eq_some_iff.mp present).1
      · exact oidcStep_kept elapsed nofun rfl
      · exact oidcStep_kept elapsed nofun rfl
  | del =>
      cases fate <;> cases served
      · exact del_step elapsed _
      · exact oidcStep_kept elapsed nofun rfl
      · exact del_step elapsed _
  | releaseLease token =>
      cases fate <;> cases served
      · exact releaseLease_step token elapsed _
      · exact oidcStep_kept elapsed nofun rfl
      · exact releaseLease_step token elapsed _

end Step

/-! ### The stages of a request -/

inductive OidcPhase where
  | free
  | drew (token : Nat)
  | leased (token : Nat)
  | read (token : Nat) (value : Option Stored)
  | deleted (token : Nat) (value : Option Stored)
  | through (value : Option Stored)

def oidcNext (phase : OidcPhase) : (op : OidcOp) → op.Reply → Option OidcPhase
  | .setIfAbsent _ => fun _ =>
      match phase with
      | .free => some .free
      | _ => none
  | .randomToken => fun token =>
      match phase with
      | .free => some (.drew token)
      | _ => none
  | .acquireLease other => fun reply =>
      match phase with
      | .drew token =>
          if other = token then some (if (reply : Option Bool) = some true then .leased token else .through none) else none
      | _ => none
  | .get => fun value =>
      match phase with
      | .leased token => some (.read token value)
      | _ => none
  | .del => fun _ =>
      match phase with
      | .read token value => some (.deleted token value)
      | _ => none
  | .releaseLease other => fun _ =>
      match phase with
      | .deleted token value => if other = token then some (.through value) else none
      | _ => none

def oidcEnds (phase : OidcPhase) (response : OidcResponse) : Prop :=
  ∀ stored, response = .transaction stored → phase = .through (some stored)

inductive OidcMove : OidcPhase → (op : OidcOp) → op.Reply → OidcPhase → Prop where
  | create (body : OidcBody) (reply : Option Bool) : OidcMove .free (.setIfAbsent body) reply .free
  | draw (token : Nat) : OidcMove .free .randomToken token (.drew token)
  | lease (token : Nat) : OidcMove (.drew token) (.acquireLease token) (some true) (.leased token)
  | refused (token : Nat) (reply : Option Bool) : OidcMove (.drew token) (.acquireLease token) reply (.through none)
  | get (token : Nat) (value : Option Stored) : OidcMove (.leased token) .get value (.read token value)
  | delete (token : Nat) (value : Option Stored) (reply : Nat) :
      OidcMove (.read token value) .del reply (.deleted token value)
  | release (token : Nat) (value : Option Stored) (reply : Unit) :
      OidcMove (.deleted token value) (.releaseLease token) reply (.through value)

theorem oidc_move {phase next : OidcPhase} {op : OidcOp} {reply : op.Reply} (moved : oidcNext phase op reply = some next) :
    OidcMove phase op reply next := by
  cases op with
  | setIfAbsent body =>
      cases phase <;> cases moved
      exact .create body reply
  | randomToken =>
      cases phase <;> cases moved
      exact .draw _
  | acquireLease other =>
      cases phase with
      | drew token =>
          simp only [oidcNext] at moved
          split_ifs at moved with same granted
          · subst same granted
            cases moved
            exact .lease _
          · subst same
            cases moved
            exact .refused _ reply
      | _ => cases moved
  | get =>
      cases phase <;> cases moved
      exact .get _ _
  | del =>
      cases phase <;> cases moved
      exact .delete _ _ reply
  | releaseLease other =>
      cases phase with
      | deleted token value =>
          simp only [oidcNext] at moved
          split_ifs at moved with same
          subst same
          cases moved
          exact .release _ value reply
      | _ => cases moved

theorem oidcCode_follows (call : OidcCall) : Follows oidcNext oidcEnds .free (oidcCode call) := by
  cases call with
  | create authorized body =>
      simp only [oidcCode, oidcTransactionCreate]
      split_ifs
      · exact nofun
      · exact nofun
      · rintro (_ | _ | _) <;> exact ⟨.free, rfl, nofun⟩
  | consume authorized =>
      simp only [oidcCode, oidcTransactionConsume]
      split_ifs
      · exact nofun
      · intro token
        refine ⟨.drew token, rfl, ?_⟩
        rintro (_ | _ | _)
        · exact ⟨_, if_pos rfl, nofun⟩
        · exact ⟨_, if_pos rfl, nofun⟩
        · refine ⟨.leased token, if_pos rfl, ?_⟩
          rintro (_ | value) <;>
            refine ⟨_, rfl, fun count => ⟨_, rfl, fun reply => ⟨_, if_pos rfl, ?_⟩⟩⟩
          · exact nofun
          · rintro stored ⟨⟩
            rfl

/-! ### Every run -/

namespace OidcPhase

def token : OidcPhase → Option Nat
  | .drew token => some token
  | .leased token => some token
  | .read token _ => some token
  | .deleted token _ => some token
  | _ => none

/-- What the request has found. -/
def value : OidcPhase → Option Stored
  | .read _ value => value
  | .deleted _ value => value
  | .through value => value
  | _ => none

/-- What the request has found and deleted. -/
def taken : OidcPhase → Option Stored
  | .deleted _ value => value
  | .through value => value
  | _ => none

theorem value_of_taken {phase : OidcPhase} {stored : Stored} (has : phase.taken = some stored) :
    phase.value = some stored := by
  cases phase <;> first | exact has | cases has

end OidcPhase

/-- What a phase remembers was said in the request's own turns. -/
def Noted (history : List OidcTurn) (task : Nat) (phase : OidcPhase) : Prop :=
  (∀ token, phase.token = some token → ∃ turn ∈ history, turn.task = task ∧ drawn turn.op turn.reply = some token) ∧
    ∀ stored, phase.value = some stored → ∃ turn ∈ history, turn.task = task ∧ found turn.op turn.reply = some stored

structure OneUseHeld (history : List OidcTurn) (store : OidcStore) (phases : List OidcPhase) : Prop where
  noted : ∀ (task : Nat) (phase : OidcPhase), phases[task]? = some phase → Noted history task phase
  tokens : ∀ (task : Nat) (phase : OidcPhase) (token : Nat), phases[task]? = some phase → phase.token = some token →
    token < store.drawn
  alone : ∀ (one other : Nat) (phase phase' : OidcPhase) (token : Nat), phases[one]? = some phase →
    phases[other]? = some phase' → phase.token = some token → phase'.token = some token → one = other
  seen : ∀ (task : Nat) (phase : OidcPhase) (stored : Stored), phases[task]? = some phase → phase.value = some stored →
    stored.number < store.created
  gone : ∀ (task : Nat) (phase : OidcPhase) (stored stored' : Stored), phases[task]? = some phase →
    phase.taken = some stored → stored' ∈ store.transaction → stored'.number ≠ stored.number
  once : ∀ (one other : Nat) (phase phase' : OidcPhase) (stored stored' : Stored), phases[one]? = some phase →
    phases[other]? = some phase' → phase.taken = some stored → phase'.taken = some stored' →
      stored.number = stored'.number → one = other
  -- who has read what another has taken will not hold the lease again
  late : ∀ (one other : Nat) (phase : OidcPhase) (token : Nat) (stored stored' : Stored) (held : ConsumeLease),
    phases[one]? = some phase → phase.taken = some stored → phases[other]? = some (.read token (some stored')) →
      stored.number = stored'.number → held ∈ store.lease → held.token ≠ token

section Runs
variable {history : List OidcTurn} {store : OidcStore} {phases : List OidcPhase} {task : Nat} {phase next : OidcPhase}

theorem noted_later {turn : OidcTurn} (noted : Noted history task phase) : Noted (history ++ [turn]) task phase := by
  obtain ⟨tokens, values⟩ := noted
  constructor
  · intro token has
    obtain ⟨first, member, told⟩ := tokens token has
    exact ⟨first, List.mem_append_left _ member, told⟩
  · intro stored has
    obtain ⟨first, member, told⟩ := values stored has
    exact ⟨first, List.mem_append_left _ member, told⟩

theorem noted_move {before after : OidcStore} {op : OidcOp} {reply : op.Reply} {programs : List (OidcProgram OidcResponse)}
    (noted : Noted history task phase) (moved : OidcMove phase op reply next) :
    Noted (history ++ [⟨⟨before, op, reply, after⟩, task, programs⟩]) task next := by
  have kept : Noted (history ++ [⟨⟨before, op, reply, after⟩, task, programs⟩]) task phase := noted_later noted
  cases moved with
  | create => exact kept
  | draw token =>
      refine ⟨fun token' has => ?_, nofun⟩
      cases has
      exact ⟨_, List.mem_append_right _ (List.mem_singleton_self _), rfl, rfl⟩
  | lease => exact kept
  | refused => exact ⟨nofun, nofun⟩
  | get token value =>
      refine ⟨kept.1, fun stored has => ?_⟩
      exact ⟨_, List.mem_append_right _ (List.mem_singleton_self _), rfl, has⟩
  | delete => exact kept
  | release => exact ⟨nofun, kept.2⟩

theorem oneUse_joins (held : OneUseHeld history store phases) : OneUseHeld history store (phases ++ [.free]) := by
  have known : ∀ {index : Nat} {phase : OidcPhase}, (phases ++ [.free])[index]? = some phase →
      phases[index]? = some phase ∨ phase = .free := getElem?_append_singleton
  constructor
  · intro index phase listed
    rcases known listed with earlier | rfl
    · exact held.noted index phase earlier
    · exact ⟨nofun, nofun⟩
  · intro index phase token listed has
    rcases known listed with earlier | rfl
    · exact held.tokens index phase token earlier has
    · cases has
  · intro one other phase phase' token listed listed' has has'
    rcases known listed with earlier | rfl
    · rcases known listed' with earlier' | rfl
      · exact held.alone one other phase phase' token earlier earlier' has has'
      · cases has'
    · cases has
  · intro index phase stored listed has
    rcases known listed with earlier | rfl
    · exact held.seen index phase stored earlier has
    · cases has
  · intro index phase stored stored' listed has present
    rcases known listed with earlier | rfl
    · exact held.gone index phase stored stored' earlier has present
    · cases has
  · intro one other phase phase' stored stored' listed listed' has has' same
    rcases known listed with earlier | rfl
    · rcases known listed' with earlier' | rfl
      · exact held.once one other phase phase' stored stored' earlier earlier' has has' same
      · cases has'
    · cases has
  · intro one other phase token stored stored' lease listed has listed' same leased
    rcases known listed with earlier | rfl
    · rcases known listed' with earlier' | isFree
      · exact held.late one other phase token stored stored' lease earlier has earlier' same leased
      · cases isFree
    · cases has

section Moves
variable {before after : OidcStore} {op : OidcOp} {reply : op.Reply}

theorem token_move {token : Nat} (moved : OidcMove phase op reply next) (has : next.token = some token) :
    phase.token = some token ∨ drawn op reply = some token := by
  cases moved with
  | create => cases has
  | draw => exact Or.inr has
  | lease => exact Or.inl has
  | refused => cases has
  | get => exact Or.inl has
  | delete => exact Or.inl has
  | release => cases has

theorem value_move {stored : Stored} (moved : OidcMove phase op reply next) (has : next.value = some stored) :
    phase.value = some stored ∨ found op reply = some stored := by
  cases moved with
  | create | draw | lease | refused => cases has
  | get => exact Or.inr has
  | delete => exact Or.inl has
  | release => exact Or.inl has

theorem taken_move {stored : Stored} (moved : OidcMove phase op reply next) (has : next.taken = some stored) :
    phase.taken = some stored ∨ op = .del ∧ ∃ token, phase = .read token (some stored) := by
  cases moved with
  | create | draw | lease | refused | get => cases has
  | delete token value =>
      cases has
      exact Or.inr ⟨rfl, token, rfl⟩
  | release => exact Or.inl has

/-- A consume that has found a transaction deletes it under its own lease. -/
def Deletes (phase : OidcPhase) (op : OidcOp) (after : OidcStore) : Prop :=
  ∀ token stored, op = .del → phase = .read token (some stored) → after.transaction = none ∧ after.Leased token

theorem gone_move (held : OneUseHeld history before phases) (listed : phases[task]? = some phase)
    (step : OidcStep before op reply after) (moved : OidcMove phase op reply next) (deletes : Deletes phase op after)
    (index : Nat) (other : OidcPhase) (stored stored' : Stored) (set : (phases.set task next)[index]? = some other)
    (has : other.taken = some stored) (present : stored' ∈ after.transaction) : stored'.number ≠ stored.number := by
  have old : ∀ {index : Nat} {other : OidcPhase}, phases[index]? = some other → other.taken = some stored →
      stored'.number ≠ stored.number := by
    intro index other earlier has
    rcases step.transactions stored' present with there | fresh
    · exact held.gone index other stored stored' earlier has there
    · have bound := held.seen index other stored earlier (OidcPhase.value_of_taken has)
      omega
  rcases getElem?_set_cases set with ⟨rfl, rfl⟩ | ⟨-, earlier⟩
  · rcases taken_move moved has with has | ⟨deleting, token, reads⟩
    · exact old listed has
    · rw [(deletes token stored deleting reads).1] at present
      cases present
  · exact old earlier has

/-- Nobody else has taken what this consume is about to delete under its own lease. -/
theorem not_taken (held : OneUseHeld history before phases) (step : OidcStep before op reply after)
    (deletes : Deletes phase op after) {token index : Nat} {other : OidcPhase} {stored stored' : Stored}
    (deleting : op = .del) (reads : phase = .read token (some stored)) (listed : phases[task]? = some phase)
    (earlier : phases[index]? = some other) (has : other.taken = some stored') :
    stored'.number ≠ stored.number := by
  intro same
  obtain ⟨-, lease, leased, mine, -⟩ := deletes token stored deleting reads
  rcases step.leases lease leased with leased | acquires
  · exact held.late index task other token stored' stored lease earlier has (by rw [listed, reads]) same leased mine
  · rw [deleting] at acquires
    cases acquires

theorem late_move (held : OneUseHeld history before phases) (listed : phases[task]? = some phase)
    (step : OidcStep before op reply after) (moved : OidcMove phase op reply next) (deletes : Deletes phase op after)
    (one other : Nat) (first : OidcPhase) (token : Nat) (stored stored' : Stored) (lease : ConsumeLease)
    (set : (phases.set task next)[one]? = some first) (has : first.taken = some stored)
    (set' : (phases.set task next)[other]? = some (.read token (some stored')))
    (same : stored.number = stored'.number) (leased : lease ∈ after.lease) : lease.token ≠ token := by
  rcases getElem?_set_cases set' with ⟨rfl, reading⟩ | ⟨apart, earlier'⟩
  · -- this request has just read it, so nobody has taken it
    rcases getElem?_set_cases set with ⟨-, taking⟩ | ⟨-, earlier⟩
    · rw [taking, ← reading] at has
      cases has
    · subst reading
      cases moved
      exact absurd same.symm (held.gone one first stored stored' earlier has (step.finds stored' rfl))
  · intro mine
    rcases step.leases lease leased with there | acquires
    · rcases getElem?_set_cases set with ⟨rfl, rfl⟩ | ⟨-, earlier⟩
      · rcases taken_move moved has with has | ⟨deleting, token', reads⟩
        · exact held.late one other phase token stored stored' lease listed has earlier' same there mine
        · obtain ⟨-, lease', leased', own, -⟩ := deletes token' stored deleting reads
          obtain rfl : lease = lease' := Option.some.inj (leased.symm.trans leased')
          exact apart (held.alone other one _ phase token earlier' listed rfl (by rw [reads, ← mine, own]; rfl))
      · exact held.late one other first token stored stored' lease earlier has earlier' same there mine
    · -- the token that the lease is now acquired for belongs to the request that acquires it
      have owns : phase.token = some token := by
        subst acquires
        rw [← mine]
        cases moved <;> rfl
      exact apart (held.alone other task _ phase token earlier' listed rfl owns)

theorem oneUse_moves {programs : List (OidcProgram OidcResponse)} (held : OneUseHeld history before phases)
    (listed : phases[task]? = some phase) (step : OidcStep before op reply after) (moved : OidcMove phase op reply next)
    (deletes : Deletes phase op after) :
    OneUseHeld (history ++ [⟨⟨before, op, reply, after⟩, task, programs⟩]) after (phases.set task next) := by
  constructor
  · intro index other set
    rcases getElem?_set_cases set with ⟨rfl, rfl⟩ | ⟨-, earlier⟩
    · exact noted_move (held.noted index phase listed) moved
    · exact noted_later (held.noted index other earlier)
  · intro index other token set has
    rcases getElem?_set_cases set with ⟨rfl, rfl⟩ | ⟨-, earlier⟩
    · rcases token_move moved has with has | drew
      · exact Nat.lt_of_lt_of_le (held.tokens index phase token listed has) step.drawn
      · obtain ⟨rfl, more⟩ := step.draws token drew
        omega
    · exact Nat.lt_of_lt_of_le (held.tokens index other token earlier has) step.drawn
  · have fresh : ∀ {index : Nat} {other : OidcPhase} {token : Nat}, phases[index]? = some other →
        other.token = some token → next.token = some token → index = task := by
      intro index other token earlier has mine
      rcases token_move moved mine with mine | drew
      · exact held.alone index task other phase token earlier listed has mine
      · have bound := held.tokens index other token earlier has
        have now := (step.draws token drew).1
        omega
    intro one other first second token set set' has has'
    rcases getElem?_set_cases set with ⟨rfl, rfl⟩ | ⟨-, earlier⟩
    · rcases getElem?_set_cases set' with ⟨rfl, -⟩ | ⟨-, earlier'⟩
      · rfl
      · exact (fresh earlier' has' has).symm
    · rcases getElem?_set_cases set' with ⟨rfl, rfl⟩ | ⟨-, earlier'⟩
      · exact fresh earlier has has'
      · exact held.alone one other first second token earlier earlier' has has'
  · intro index other stored set has
    rcases getElem?_set_cases set with ⟨rfl, rfl⟩ | ⟨-, earlier⟩
    · rcases value_move moved has with has | finds
      · exact Nat.lt_of_lt_of_le (held.seen index phase stored listed has) step.created
      · exact Nat.lt_of_lt_of_le (before.numbered stored (step.finds stored finds)) step.created
    · exact Nat.lt_of_lt_of_le (held.seen index other stored earlier has) step.created
  · exact gone_move held listed step moved deletes
  · have alone : ∀ {index : Nat} {other : OidcPhase} {stored stored' : Stored}, phases[index]? = some other →
        other.taken = some stored' → next.taken = some stored → stored'.number = stored.number → index = task := by
      intro index other stored stored' earlier has mine same
      rcases taken_move moved mine with mine | ⟨deleting, token, reads⟩
      · exact held.once index task other phase stored' stored earlier listed has mine same
      · exact absurd same (not_taken held step deletes deleting reads listed earlier has)
    intro one other first second stored stored' set set' has has' same
    rcases getElem?_set_cases set with ⟨rfl, rfl⟩ | ⟨-, earlier⟩
    · rcases getElem?_set_cases set' with ⟨rfl, -⟩ | ⟨-, earlier'⟩
      · rfl
      · exact (alone earlier' has' has same.symm).symm
    · rcases getElem?_set_cases set' with ⟨rfl, rfl⟩ | ⟨-, earlier'⟩
      · exact alone earlier has has' same
      · exact held.once one other first second stored stored' earlier earlier' has has' same
  · exact late_move held listed step moved deletes

end Moves

/-- A request that has returned a transaction is through with it. -/
theorem phase_returned {programs : List (OidcProgram OidcResponse)} {stored : Stored}
    (follow : List.Forall₂ (Follows oidcNext oidcEnds) phases programs)
    (returns : (programs[task]?.bind returned) = some stored) : phases[task]? = some (.through (some stored)) := by
  obtain ⟨program, listed, returns⟩ := Option.bind_eq_some_iff.mp returns
  obtain ⟨phase, found, follows⟩ := forall₂_getElem? follow listed
  cases program with
  | call => cases returns
  | done response =>
      cases response with
      | transaction value =>
          cases returns
          obtain rfl : phase = .through (some stored) := follows stored rfl
          exact found
      | _ => cases returns

/-- Each transaction is returned by at most one request, as long as whoever has found it deletes it under its lease. -/
theorem transactions_are_one_use {start : OidcStore} {state : OidcState} (run : OidcRun start history state)
    (deletes : Throughout DeletesUnderItsLease history) : OneUse state := by
  have held : ∃ phases, List.Forall₂ (Follows oidcNext oidcEnds) phases state.programs ∧
      OneUseHeld history state.shared phases := by
    refine run_phases_throughout (fun _ => OidcPhase.free) oidcCode_follows OneUseHeld (by constructor <;> simp) rfl ?_ ?_
      run deletes
    · exact fun history store phases caller held => oneUse_joins held
    · intro history phases phase after turn sofar listed allowed served last
      refine oneUse_moves sofar listed (oidc_step served) (oidc_move allowed) ?_
      rintro token stored deleting rfl
      obtain ⟨drew, finds⟩ := sofar.noted turn.task _ listed
      obtain ⟨first, member, mine, told⟩ := finds stored rfl
      obtain ⟨second, member', mine', told'⟩ := drew token rfl
      obtain ⟨deleted, leased⟩ := last deleting ⟨first, member, mine, by simp [told]⟩
      exact ⟨deleted, leased second member' mine' token told'⟩
  obtain ⟨phases, follow, once⟩ := held
  intro one other stored stored' returns returns' same
  exact once.once one other _ _ stored stored' (phase_returned follow returns) (phase_returned follow returns') rfl rfl same

end Runs

/-- A transaction with a nonce and a verifier of the least lengths. -/
def someBody : OidcBody where
  nonce := some "nnnnnnnnnnnnnnnnnnnnnnnnnnnnnnnn"
  verifier := some "vvvvvvvvvvvvvvvvvvvvvvvvvvvvvvvvvvvvvvvvvvv"

/-- Two requests for the transaction, one after the other. -/
theorem second_request_finds_nothing :
    ∃ history state, OidcRun {} history state ∧ (state.programs[1]?.bind returned).isSome ∧ OneUse state := by
  have passed : (replay oidcServe oidcCode ⟨{}, []⟩
      [.enter (.create true someBody), .turn 0 {}, .enter (.consume true), .turn 1 {}, .turn 1 {}, .turn 1 {},
        .turn 1 { elapsed := 200 }, .turn 1 {}, .enter (.consume true), .turn 2 {}, .turn 2 {}, .turn 2 {}, .turn 2 {},
        .turn 2 {}]).any
      (fun reached => decide (Throughout DeletesUnderItsLease reached.1) &&
        (reached.2.programs[1]?.bind returned).isSome) = true := by
    decide +kernel
  obtain ⟨history, state, run, tested⟩ := replay_reaches passed
  simp only [Bool.and_eq_true, decide_eq_true_eq] at tested
  exact ⟨history, state, run, tested.2, transactions_are_one_use run tested.1⟩

/-- The first request's deletion fails, which it ignores; the second finds the transaction again. -/
theorem failed_deletion_returns_twice :
    ∃ history state, OidcRun {} history state ∧ ¬ OneUse state := by
  have passed : (replay oidcServe oidcCode ⟨{}, []⟩
      [.enter (.create true someBody), .turn 0 {}, .enter (.consume true), .turn 1 {}, .turn 1 {}, .turn 1 {},
        .turn 1 { fate := .rolledBack "timeout" }, .turn 1 {}, .enter (.consume true), .turn 2 {}, .turn 2 {}, .turn 2 {},
        .turn 2 {}, .turn 2 {}]).any
      (fun reached => decide ((reached.2.programs[1]?.bind returned).map Stored.number = some 0) &&
        decide ((reached.2.programs[2]?.bind returned).map Stored.number = some 0)) = true := by
    decide +kernel
  obtain ⟨history, state, run, tested⟩ := replay_reaches passed
  simp only [Bool.and_eq_true, decide_eq_true_eq] at tested
  obtain ⟨stored, returns, zero⟩ := Option.map_eq_some_iff.mp tested.1
  obtain ⟨stored', returns', zero'⟩ := Option.map_eq_some_iff.mp tested.2
  refine ⟨history, state, run, fun once => ?_⟩
  cases once 1 2 stored stored' returns returns' (zero.trans zero'.symm)

end PaladinsCat.OidcTransactions
