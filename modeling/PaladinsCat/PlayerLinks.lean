import PaladinsCat.LinkVerification

/-!
Who is linked to a player: the search for another account and the transaction that links are two
steps, with no unique index behind them, and the provider's answer may come after the code has expired.
-/

namespace PaladinsCat.Linking

open Interleaving Program

/-! ### One account for each player -/

def OneAccount (tables : LinkTables) : Prop :=
  ∀ one ∈ tables.users, ∀ other ∈ tables.users, ∀ playerId, tables.linkedPlayerId one = some playerId →
    tables.linkedPlayerId other = some playerId → one = other

def linking : LinkOp → Option (Int × Int)
  | .link user playerId => some (user, playerId)
  | _ => none

/-- Nobody else has the player when the transaction links it. -/
def LinksAlone (turn : LinkTurn) : Prop :=
  ∀ target ∈ linking turn.op, turn.after.linkedPlayerId target.1 = some target.2 →
    turn.before.linkedElsewhere target.1 target.2 = false

/-- The attempt that a check has got, and the loadouts of a player. -/
def attempted : (op : LinkOp) → op.Reply → Option (Int × Attempt)
  | .attempt user, .ok (some attempt) => some (user, attempt)
  | _, _ => none

def loadoutsOf : (op : LinkOp) → op.Reply → Option (Int × Option (List LoadoutRow))
  | .loadouts playerId, .loadouts rows => some (playerId, rows)
  | _, _ => none

/-- The loadouts of a check that links came before its code expired. -/
def AnswersInTime (earlier : List LinkTurn) (turn : LinkTurn) : Prop :=
  (linking turn.op).isSome → ∀ first ∈ earlier, first.task = turn.task →
    ∀ got ∈ attempted first.op first.reply, ∀ second ∈ earlier, second.task = turn.task →
      (loadoutsOf second.op second.reply).isSome → second.after.clock < got.2.expiresAt

/-- Both conditions on a run that links players. -/
def LinksWell (earlier : List LinkTurn) (turn : LinkTurn) : Prop := LinksAlone turn ∧ AnswersInTime earlier turn

/-- Who is linked to a player had a verification of that player, and the player's loadouts contained its code before it
expired. -/
def Proved (earlier : List LinkTurn) (turn : LinkTurn) : Prop :=
  ∀ user playerId, turn.after.linkedPlayerId user = some playerId → turn.before.linkedPlayerId user ≠ some playerId →
    ∃ first ∈ earlier, ∃ row, first.before.verifications user = some row ∧ row.playerId = playerId ∧
      first.after.clock < row.expiresAt ∧ ∃ second ∈ earlier, ∃ rows,
        loadoutsOf second.op second.reply = some (playerId, rows) ∧ verified rows row.code = true ∧
          second.after.clock < row.expiresAt

instance (turn : LinkTurn) : Decidable (LinksAlone turn) :=
  inferInstanceAs (Decidable (∀ target ∈ linking turn.op, _ → _))

instance (earlier : List LinkTurn) (turn : LinkTurn) : Decidable (AnswersInTime earlier turn) :=
  inferInstanceAs (Decidable (_ → ∀ first ∈ earlier, _ → ∀ got ∈ attempted first.op first.reply, ∀ second ∈ earlier,
    _ → _ → _))

instance (earlier : List LinkTurn) (turn : LinkTurn) : Decidable (LinksWell earlier turn) :=
  inferInstanceAs (Decidable (_ ∧ _))

section Links
variable {before after : LinkTables} {op : LinkOp} {reply : op.Reply}

/-- The tables have the same accounts and links. -/
def SameLinks (before after : LinkTables) : Prop :=
  after.users = before.users ∧ after.linkedPlayerId = before.linkedPlayerId

theorem attempt_links (tables : LinkTables) (user : Int) : SameLinks tables (tables.attempt user).2 := by
  rcases attempt_cases tables user with same | ⟨row, name, -, -, -, same⟩ <;> rw [same] <;> exact ⟨rfl, rfl⟩

theorem lock_links (tables : LinkTables) (user : Int) : SameLinks tables (tables.lock user).2 := by
  unfold LinkTables.lock
  split <;> exact ⟨rfl, rfl⟩

/-- What a step may do to the accounts and their players. -/
inductive LinkedStep (before : LinkTables) : LinkOp → LinkTables → Prop where
  | kept {op : LinkOp} {after : LinkTables} (same : SameLinks before after) : LinkedStep before op after
  | linked {user playerId : Int} {after : LinkTables} (member : user ∈ before.users) (users : after.users = before.users)
      (links : after.linkedPlayerId = Function.update before.linkedPlayerId user (some playerId)) :
      LinkedStep before (.link user playerId) after
  | unlinked {user : Int} {after : LinkTables} (users : after.users = before.users)
      (links : after.linkedPlayerId = Function.update before.linkedPlayerId user none) :
      LinkedStep before (.unlink user) after

theorem linked_step (served : linkServe.handler before op reply after) : LinkedStep before op after := by
  obtain ⟨⟨fate, elapsed, random, relay⟩, served⟩ := served
  cases op with
  | lockedUntil | findPlayer | linkedElsewhere | findVerification | rowStatus | vendorGuard | recordRaw | deleteExpired
  | delete =>
      rcases settle_after served with rfl | rfl <;> exact .kept ⟨rfl, rfl⟩
  | randomPin | now | loadouts =>
      cases served
      exact .kept ⟨rfl, rfl⟩
  | upsert other playerId code =>
      simp only [linkServe] at served
      split at served
      · cases served
        exact .kept ⟨rfl, rfl⟩
      · rename_i outcome carried
        unfold LinkTables.upsert at carried
        split_ifs at carried
        cases carried
        rcases settle_after served with rfl | rfl <;> exact .kept ⟨rfl, rfl⟩
  | attempt other =>
      rcases settle_after served with rfl | rfl
      · exact .kept ⟨rfl, rfl⟩
      · exact .kept (attempt_links { before with clock := before.clock + elapsed } other)
  | lock other =>
      rcases settle_after served with rfl | rfl
      · exact .kept ⟨rfl, rfl⟩
      · exact .kept (lock_links { before with clock := before.clock + elapsed } other)
  | link other playerId =>
      rcases settle_after served with rfl | rfl
      · exact .kept ⟨rfl, rfl⟩
      · by_cases member : other ∈ before.users
        · exact .linked member rfl (if_pos member)
        · exact .kept ⟨rfl, if_neg member⟩
  | unlink other =>
      rcases settle_after served with rfl | rfl
      · exact .kept ⟨rfl, rfl⟩
      · exact .unlinked rfl rfl

/-- A player that nobody else has is linked. -/
theorem oneAccount_step (step : LinkedStep before op after) (unique : OneAccount before)
    (alone : ∀ user playerId, op = .link user playerId → after.linkedPlayerId user = some playerId →
      before.linkedElsewhere user playerId = false) : OneAccount after := by
  cases step with
  | kept same => rwa [OneAccount, same.1, same.2]
  | @linked user playerId _ member users links =>
      have nobody : ∀ other ∈ before.users, other ≠ user → before.linkedPlayerId other ≠ some playerId := by
        intro other there apart has
        have free := List.any_eq_false.mp (alone user playerId rfl (by rw [links, Function.update_self])) other there
        simp [has, apart] at free
      intro one mine other theirs player linked linked'
      rw [users] at mine theirs
      rw [links] at linked linked'
      by_cases here : one = user
      · by_cases there : other = user
        · rw [here, there]
        · rw [here, Function.update_self] at linked
          rw [Function.update_of_ne there, ← linked] at linked'
          exact absurd linked' (nobody other theirs there)
      · rw [Function.update_of_ne here] at linked
        by_cases there : other = user
        · rw [there, Function.update_self] at linked'
          rw [← linked'] at linked
          exact absurd linked (nobody one mine here)
        · rw [Function.update_of_ne there] at linked'
          exact unique one mine other theirs player linked linked'
  | @unlinked user _ users links =>
      intro one mine other theirs player linked linked'
      rw [users] at mine theirs
      rw [links] at linked linked'
      have still : ∀ {one : Int}, Function.update before.linkedPlayerId user none one = some player →
          before.linkedPlayerId one = some player := by
        intro one linked
        by_cases here : one = user
        · rw [here, Function.update_self] at linked
          cases linked
        · rwa [Function.update_of_ne here] at linked
      exact unique one mine other theirs player (still linked) (still linked')

/-- A newly linked player is the one of the transaction. -/
theorem newly_linked {user playerId : Int} (step : LinkedStep before op after)
    (now : after.linkedPlayerId user = some playerId) (old : before.linkedPlayerId user ≠ some playerId) :
    op = .link user playerId := by
  cases step with
  | kept same =>
      rw [same.2] at now
      exact absurd now old
  | @linked target player _ _ _ links =>
      rw [links] at now
      by_cases here : user = target
      · subst here
        rw [Function.update_self] at now
        cases now
        rfl
      · rw [Function.update_of_ne here] at now
        exact absurd now old
  | @unlinked target _ _ links =>
      rw [links] at now
      by_cases here : user = target
      · rw [here, Function.update_self] at now
        cases now
      · rw [Function.update_of_ne here] at now
        exact absurd now old

theorem attempted_step {user : Int} {attempt : Attempt} (served : linkServe.handler before op reply after)
    (got : attempted op reply = some (user, attempt)) : ∃ row, before.verifications user = some row ∧
      row.playerId = attempt.playerId ∧ row.code = attempt.code ∧ row.expiresAt = attempt.expiresAt ∧
        after.clock < row.expiresAt := by
  obtain ⟨⟨fate, elapsed, random, relay⟩, served⟩ := served
  cases op with
  | attempt other =>
      rcases settle_cases served with ⟨rfl, rfl⟩ | ⟨error, rfl, -⟩
      · rcases attempt_cases { before with clock := before.clock + elapsed } other with
          same | ⟨row, name, present, fresh, -, same⟩
        · rw [same] at got
          cases got
        · rw [same] at got
          cases got
          rw [same]
          exact ⟨row, present, rfl, rfl, rfl, fresh⟩
      · cases got
  | _ => cases got

end Links

/-! ### The stages of a check -/

inductive LinkPhase where
  | free
  | attempted (user : Int) (attempt : Attempt)
  | proved (user : Int) (attempt : Attempt)

def linkNext (phase : LinkPhase) : (op : LinkOp) → op.Reply → Option LinkPhase
  | .attempt user => fun reply => some ((attempted (.attempt user) reply).elim .free fun got => .attempted got.1 got.2)
  | .loadouts playerId => fun answer =>
      match phase with
      | .attempted user attempt =>
          if playerId = attempt.playerId then
            match answer with
            | .loadouts rows => some (if verified rows attempt.code then .proved user attempt else .free)
            | _ => some .free
          else none
      | _ => none
  | .link user playerId => fun _ =>
      match phase with
      | .proved user' attempt => if user = user' ∧ playerId = attempt.playerId then some .free else none
      | _ => none
  | _ => fun _ => some phase

def linkEnds {α : Type} (_ : LinkPhase) (_ : α) : Prop := True

theorem lockVerification_follows (phase : LinkPhase) (user : Int) :
    Follows linkNext linkEnds phase (lockVerification user) := by
  rintro (error | time) <;> exact ⟨phase, rfl, trivial⟩

theorem explainWait_follows (phase : LinkPhase) (user : Int) : Follows linkNext linkEnds phase (explainWait user) := by
  rintro (error | _ | row)
  · exact ⟨phase, rfl, trivial⟩
  · exact ⟨phase, rfl, trivial⟩
  · refine ⟨phase, rfl, fun now => ⟨phase, rfl, ?_⟩⟩
    simp only [Program.bind]
    split_ifs
    · rintro (error | ⟨⟩) <;> exact ⟨phase, rfl, trivial⟩
    · trivial

theorem linkPlayer_follows (user : Int) (attempt : Attempt) :
    Follows linkNext linkEnds (.proved user attempt) (linkPlayer user attempt) := by
  rintro (error | _ | _)
  · exact ⟨_, rfl, trivial⟩
  · refine ⟨_, rfl, ?_⟩
    rintro (error | ⟨⟩) <;> exact ⟨.free, if_pos ⟨rfl, rfl⟩, trivial⟩
  · exact ⟨_, rfl, trivial⟩

theorem checkLoadouts_follows (user : Int) (attempt : Attempt) :
    Follows linkNext linkEnds (.attempted user attempt) (checkLoadouts user attempt) := by
  rintro (_ | _ | rows)
  · exact ⟨.free, if_pos rfl, trivial⟩
  · refine ⟨.free, if_pos rfl, ?_⟩
    simp only [Program.bind]
    split_ifs
    · exact lockVerification_follows .free user
    · trivial
  · refine ⟨_, if_pos rfl, ?_⟩
    rintro (error | ⟨⟩)
    · exact ⟨_, rfl, trivial⟩
    · refine ⟨_, rfl, ?_⟩
      split_ifs
      · exact linkPlayer_follows user attempt
      · exact lockVerification_follows .free user
      · trivial

theorem linkCode_follows (call : LinkCall) : Follows linkNext linkEnds .free (linkCode call) := by
  cases call with
  | verification user =>
      rintro (error | ⟨⟩)
      · exact ⟨.free, rfl, trivial⟩
      · refine ⟨.free, rfl, ?_⟩
        rintro (error | found) <;> exact ⟨.free, rfl, trivial⟩
  | create user playerId =>
      rintro (error | _ | time)
      · exact ⟨.free, rfl, trivial⟩
      · refine ⟨.free, rfl, ?_⟩
        simp only [Program.bind]
        split
        · trivial
        · rintro (error | _ | name)
          · exact ⟨.free, rfl, trivial⟩
          · exact ⟨.free, rfl, trivial⟩
          · refine ⟨.free, rfl, ?_⟩
            rintro (error | _ | _)
            · exact ⟨.free, rfl, trivial⟩
            · refine ⟨.free, rfl, fun code => ⟨.free, rfl, ?_⟩⟩
              rintro (error | expiresAt) <;> exact ⟨.free, rfl, trivial⟩
            · exact ⟨.free, rfl, trivial⟩
      · exact ⟨.free, rfl, trivial⟩
  | check user =>
      rintro (error | _ | attempt)
      · exact ⟨.free, rfl, trivial⟩
      · exact ⟨.free, rfl, explainWait_follows .free user⟩
      · refine ⟨_, rfl, ?_⟩
        rintro (error | ⟨⟩)
        · exact ⟨_, rfl, trivial⟩
        · exact ⟨_, rfl, checkLoadouts_follows user attempt⟩
  | cancel user =>
      rintro (error | ⟨⟩) <;> exact ⟨.free, rfl, trivial⟩
  | playerLink user action =>
      simp only [linkCode, Linking.playerLink]
      split_ifs
      · rintro (error | ⟨⟩) <;> exact ⟨.free, rfl, trivial⟩
      · trivial

/-! ### What a check that links has seen -/

/-- The attempt of this check found the user's own code, which had not expired. -/
def Attempted (history : List LinkTurn) (task : Nat) (user : Int) (attempt : Attempt) : Prop :=
  ∃ first ∈ history, first.task = task ∧ attempted first.op first.reply = some (user, attempt) ∧
    ∃ row, first.before.verifications user = some row ∧ row.playerId = attempt.playerId ∧ row.code = attempt.code ∧
      row.expiresAt = attempt.expiresAt ∧ first.after.clock < row.expiresAt

/-- The loadouts that it got contained the code. -/
def Contained (history : List LinkTurn) (task : Nat) (attempt : Attempt) : Prop :=
  ∃ second ∈ history, second.task = task ∧ ∃ rows, loadoutsOf second.op second.reply = some (attempt.playerId, rows) ∧
    verified rows attempt.code = true

def Noted (history : List LinkTurn) (task : Nat) : LinkPhase → Prop
  | .free => True
  | .attempted user attempt => Attempted history task user attempt
  | .proved user attempt => Attempted history task user attempt ∧ Contained history task attempt

section Noted
variable {history : List LinkTurn} {turn : LinkTurn} {task : Nat} {phase next : LinkPhase} {user : Int} {attempt : Attempt}

theorem attempted_later (noted : Attempted history task user attempt) : Attempted (history ++ [turn]) task user attempt := by
  obtain ⟨first, member, rest⟩ := noted
  exact ⟨first, List.mem_append_left _ member, rest⟩

theorem noted_later (noted : Noted history task phase) : Noted (history ++ [turn]) task phase := by
  cases phase with
  | free => trivial
  | attempted user attempt => exact attempted_later noted
  | proved user attempt =>
      obtain ⟨second, member, rest⟩ := noted.2
      exact ⟨attempted_later noted.1, second, List.mem_append_left _ member, rest⟩

theorem noted_move {before after : LinkTables} {op : LinkOp} {reply : op.Reply} {programs : List (LinkProgram LinkResponse)}
    (noted : Noted history task phase) (served : linkServe.handler before op reply after)
    (moved : linkNext phase op reply = some next) :
    Noted (history ++ [⟨⟨before, op, reply, after⟩, task, programs⟩]) task next := by
  cases op with
  | attempt user =>
      simp only [linkNext, Option.some.injEq] at moved
      subst moved
      cases got : attempted (.attempt user) reply with
      | none => trivial
      | some pair =>
          obtain ⟨user', attempt⟩ := pair
          obtain ⟨row, rest⟩ := attempted_step served got
          exact ⟨_, List.mem_append_right _ (List.mem_singleton_self _), rfl, got, row, rest⟩
  | loadouts playerId =>
      cases phase with
      | attempted user attempt =>
          simp only [linkNext] at moved
          split_ifs at moved with same
          subst same
          cases reply with
          | loadouts rows =>
              cases moved
              split_ifs with holds
              · exact ⟨attempted_later noted, _, List.mem_append_right _ (List.mem_singleton_self _), rfl, rows, rfl, holds⟩
              · trivial
          | _ =>
              cases moved
              trivial
      | _ => cases moved
  | link user playerId =>
      cases phase with
      | proved user' attempt =>
          simp only [linkNext] at moved
          split_ifs at moved
          cases moved
          trivial
      | _ => cases moved
  | _ =>
      cases moved
      exact noted_later noted

end Noted

/-- The program that links has proved what it links. -/
theorem linking_proved {phase next : LinkPhase} {user playerId : Int} {reply : Except String Unit}
    (moved : linkNext phase (.link user playerId) reply = some next) :
    ∃ attempt, phase = .proved user attempt ∧ playerId = attempt.playerId := by
  cases phase with
  | proved user' attempt =>
      simp only [linkNext] at moved
      split_ifs at moved with same
      exact ⟨attempt, by rw [same.1], same.2⟩
  | _ => cases moved

/-- Each player is linked to one account at most, and only on a proof in time, in every run whose links meet the two
conditions. -/
theorem players_linked_once {start : LinkTables} {history : List LinkTurn} {state : LinkState}
    (run : LinkRun start history state) (unique : OneAccount start) (well : Throughout LinksWell history) :
    OneAccount state.shared ∧ Throughout Proved history := by
  have held : ∃ phases, List.Forall₂ (Follows linkNext linkEnds) phases state.programs ∧
      ((∀ (task : Nat) (phase : LinkPhase), phases[task]? = some phase → Noted history task phase) ∧
        OneAccount state.shared ∧ Throughout Proved history) := by
    refine run_phases_throughout (fun _ => LinkPhase.free) linkCode_follows (fun history tables phases =>
      (∀ (task : Nat) (phase : LinkPhase), phases[task]? = some phase → Noted history task phase) ∧
        OneAccount tables ∧ Throughout Proved history) ?_ rfl ?_ ?_ run well
    · exact ⟨by simp, unique, by simp⟩
    · rintro history tables phases caller ⟨noted, holds⟩
      refine ⟨fun task phase found => ?_, holds⟩
      rcases getElem?_append_singleton found with earlier | rfl
      · exact noted task phase earlier
      · trivial
    · rintro history phases phase after turn ⟨noted, unique, proved⟩ found allowed served ⟨alone, inTime⟩
      constructor
      · intro task other set
        rcases getElem?_set_cases set with ⟨rfl, rfl⟩ | ⟨-, earlier⟩
        · exact noted_move (noted turn.task phase found) served allowed
        · exact noted_later (noted task other earlier)
      · have step := linked_step served
        refine ⟨oneAccount_step step unique ?_, throughout_append.mpr ⟨proved, ?_⟩⟩
        · intro user playerId links linked
          exact alone (user, playerId) (by rw [links]; rfl) linked
        · intro user playerId now old
          have links := newly_linked step now old
          obtain ⟨⟨before, op, reply, after⟩, task, programs⟩ := turn
          obtain rfl : op = .link user playerId := links
          obtain ⟨attempt, rfl, rfl⟩ := linking_proved allowed
          obtain ⟨⟨first, member, mine, got, row, present, player, code, expires, fresh⟩, second, member', mine', rows,
            answered, contained⟩ := noted task _ found
          refine ⟨first, member, row, present, player, fresh, second, member', rows, answered, by rw [code, contained], ?_⟩
          rw [expires]
          exact inTime rfl first member mine _ got second member' mine' (by simp [answered])
  obtain ⟨phases, -, -, holds⟩ := held
  exact holds

/-- Users 1 and 2, and player 10. -/
def twoUsers : LinkTables where
  users := [1, 2]
  players := fun playerId => if playerId = 10 then some "Fernando" else none

theorem twoUsers_oneAccount : OneAccount twoUsers := by
  intro one _ other _ playerId linked
  cases linked

/-- The loadouts after two users have each named one after their code. -/
def bothCodes : RelayAnswer :=
  .loadouts (some [{ deckName := some (some "100000") }, { deckNameSnake := some (some " 100001 ") }])

/-- The second user comes after the first has been linked. -/
theorem second_user_refused :
    ∃ history state, LinkRun twoUsers history state ∧ state.shared.linkedPlayerId 1 = some 10 ∧
      OneAccount state.shared ∧ Throughout Proved history := by
  have passed : (replay linkServe linkCode ⟨twoUsers, []⟩
      [.enter (.create 1 (some 10)), .enter (.create 2 (some 10)), .turn 0 {}, .turn 0 {}, .turn 0 {}, .turn 0 {},
        .turn 0 {}, .turn 1 { random := 1 }, .turn 1 { random := 1 }, .turn 1 { random := 1 },
        .turn 1 { random := 1 }, .turn 1 { random := 1 }, .enter (.check 1), .turn 2 {}, .turn 2 {},
        .turn 2 { relay := bothCodes }, .turn 2 {}, .turn 2 {}, .turn 2 {}, .enter (.check 2), .turn 3 {},
        .turn 3 {}, .turn 3 { relay := bothCodes }, .turn 3 {}, .turn 3 {}]).any
      (fun reached => decide (Throughout LinksWell reached.1) &&
        decide (reached.2.shared.linkedPlayerId 1 = some 10)) = true := by
    decide +kernel
  obtain ⟨history, state, run, tested⟩ := replay_reaches passed
  simp only [Bool.and_eq_true, decide_eq_true_eq] at tested
  exact ⟨history, state, run, tested.2, players_linked_once run twoUsers_oneAccount tested.1⟩

/-- Two users look for another account at the same time, find none, and are both linked to the player. -/
theorem player_linked_twice :
    ∃ history state, LinkRun twoUsers history state ∧ OneAccount twoUsers ∧ ¬ OneAccount state.shared := by
  have passed : (replay linkServe linkCode ⟨twoUsers, []⟩
      [.enter (.create 1 (some 10)), .enter (.create 2 (some 10)), .turn 0 {}, .turn 0 {}, .turn 0 {}, .turn 0 {},
        .turn 0 {}, .turn 1 { random := 1 }, .turn 1 { random := 1 }, .turn 1 { random := 1 },
        .turn 1 { random := 1 }, .turn 1 { random := 1 }, .enter (.check 1), .enter (.check 2), .turn 2 {},
        .turn 2 {}, .turn 2 { relay := bothCodes }, .turn 2 {}, .turn 2 {}, .turn 3 {}, .turn 3 {},
        .turn 3 { relay := bothCodes }, .turn 3 {}, .turn 3 {}, .turn 2 {}, .turn 3 {}]).any
      (fun reached => decide (reached.2.shared.users = [1, 2]) && (decide (reached.2.shared.linkedPlayerId 1 = some 10) &&
        decide (reached.2.shared.linkedPlayerId 2 = some 10))) = true := by
    decide +kernel
  obtain ⟨history, state, run, tested⟩ := replay_reaches passed
  simp only [Bool.and_eq_true, decide_eq_true_eq] at tested
  obtain ⟨users, linked, linked'⟩ := tested
  refine ⟨history, state, run, twoUsers_oneAccount, fun unique => ?_⟩
  have same := unique 1 (by simp [users]) 2 (by simp [users]) 10 linked linked'
  cases same

end PaladinsCat.Linking
