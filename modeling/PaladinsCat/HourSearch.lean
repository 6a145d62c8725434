import PaladinsCat.HourPhases
import PaladinsCat.HourSteps

/-!
The one search of a queue-hour. The marker of the search is set by the worker that gets
to search, and nothing takes it back: not the reclaim of a failed, complete or expired
hour either. So the searches there were and the workers that still may search, taken
together, are at most one.
-/

namespace PaladinsCat.Backend

open Interleaving

/-- The hour is marked as searched. -/
def HourStore.fetched (store : HourStore) (key : HourKey) : Bool := (store.hours key).any (·.fetched)

/-- Its search has succeeded, as far as the ledger says. -/
def HourStore.searched (store : HourStore) (key : HourKey) : Bool := (store.hours key).any (·.fetchSucceeded)

/-- The call of the provider for this hour. -/
def HourOp.searches (key : HourKey) : HourOp → Bool
  | .searchProvider other => other = key
  | _ => false

def searchCount (key : HourKey) (history : List HourTurn) : Nat := history.countP fun turn => turn.op.searches key

section Marker
variable {now : Int} {key : HourKey} {op : HourOp} {before after : Option HourlyIngestState}

theorem claimedHour_fetched {source : String} {reopenable : Bool} {state : HourlyIngestState}
    (taken : claimedHour now source reopenable before = some state) (marked : before.any (·.fetched) = true) :
    state.fetched = true := by
  cases before with
  | none => cases marked
  | some row =>
      simp only [claimedHour] at taken
      split at taken
      · cases taken
        exact marked
      · cases taken

/-- No statement takes the marker back. -/
theorem HourRowStep.fetched (step : HourRowStep now key op before after) (marked : before.any (·.fetched) = true) :
    after.any (·.fetched) = true := by
  cases step with
  | kept => exact marked
  | claimed taken => exact claimedHour_fetched taken marked
  | granted | recorded => rfl
  | refreshed => exact marked
  | emptied _ fetched | completed _ fetched => exact fetched
  | failed _ same => exact same.trans marked

end Marker

theorem fetched_mono {before after : HourStore} {op : HourOp} {reply : op.Reply}
    (served : hourServe.handler before op reply after) {key : HourKey} (marked : before.fetched key = true) :
    after.fetched key = true :=
  (hour_step served key).row.fetched marked

/-- The search is given to a worker only while the hour is not marked, and marks it. -/
theorem search_granted {before after : HourStore} {key : HourKey}
    (served : hourServe.handler before (.claimSearch key) (.ok true) after) :
    before.fetched key = false ∧ after.fetched key = true ∧ after.searched key = false := by
  obtain ⟨outside, found, same, -, -, effected⟩ := hour_replied served
  simp only [hourEffect, claimHourlyIngestSearch, Except.ok.injEq, Prod.mk.injEq] at effected
  obtain ⟨granted, rfl⟩ := effected
  simp only [HourStore.fetched, HourStore.searched, updateHour_hours, if_true, same] at granted ⊢
  cases stored : before.hours key with
  | none => simp [stored] at granted
  | some state =>
      simp only [stored, Option.bind_some] at granted ⊢
      split at granted
      · rename_i free
        simp [free]
      · cases granted

/-! ### At most one search -/

/-- A worker that may search now. -/
def maySearch (key : HourKey) (phase : HourPhase) : Nat := if phase = ⟨key, .granted⟩ then 1 else 0

/-- One step takes no more searches than there were workers that could search, and makes such
a worker only by marking the hour. -/
theorem search_step {before after : HourStore} {op : HourOp} {reply : op.Reply}
    (served : hourServe.handler before op reply after) {phase next : HourPhase}
    (moved : hourNext phase op reply = some next) (key : HourKey) :
    (if op.searches key then 1 else 0) + maySearch key next + (before.fetched key).toNat ≤
      maySearch key phase + (after.fetched key).toNat := by
  have mono : (before.fetched key).toNat ≤ (after.fetched key).toNat :=
    Bool.toNat_le_toNat (fetched_mono served)
  obtain ⟨other, stage⟩ := phase
  obtain ⟨same, last⟩ := next
  obtain ⟨rfl, move⟩ := hour_move moved
  dsimp only at move
  cases move with
  | request reply =>
      rcases reply with error | _ | _
      · simpa [HourOp.searches, maySearch, failedOr] using mono
      · simpa [HourOp.searches, maySearch, failedOr] using mono
      · by_cases here : same = key
        · subst here
          obtain ⟨free, marked, -⟩ := search_granted served
          simp [HourOp.searches, maySearch, failedOr, free, marked]
        · simpa [HourOp.searches, maySearch, failedOr, here] using mono
  | search reply =>
      by_cases here : same = key
      · subst here
        cases reply <;> simpa [HourOp.searches, maySearch, failedOr] using mono
      · cases reply <;> simpa [HourOp.searches, maySearch, failedOr, here] using mono
  | drain drains reply =>
      have quiet : op.searches key = false := by
        cases op <;> first | rfl | cases drains
      simpa [quiet, maySearch] using mono
  | read reply =>
      rcases reply with error | known
      · simpa [HourOp.searches, maySearch, failedOr] using mono
      · by_cases none_ : known.1 = [] <;> simpa [HourOp.searches, maySearch, failedOr, none_] using mono
  | @record observations reply =>
      rcases reply with error | count
      · simpa [HourOp.searches, maySearch, failedOr] using mono
      · by_cases none_ : observations = [] <;> simpa [HourOp.searches, maySearch, failedOr, none_] using mono
  | claim reply => rcases reply with error | _ | _ <;> simpa [HourOp.searches, maySearch, failedOr] using mono
  | reject | abandon | report => simpa [HourOp.searches, maySearch] using mono
  | empty reply | count reply | complete reply | giveUp reply =>
      cases reply <;> simpa [HourOp.searches, maySearch, failedOr] using mono

/-- For any number of workers, in any order of their steps: the provider is asked at most once for
the matches of an hour. -/
theorem provider_searched_at_most_once {start : HourStore} {history : List HourTurn} {state : HourState}
    (run : HourRun start history state) (key : HourKey) : searchCount key history ≤ 1 := by
  obtain ⟨phases, -, bound⟩ := run_phases (fun call : HourCall => (⟨call.key, .waiting⟩ : HourPhase))
    discoverHour_follows
    (fun history shared phases =>
      searchCount key history + (phases.map (maySearch key)).sum ≤ (shared.fetched key).toNat)
    (by simp [searchCount]) rfl
    (by
      intro history shared phases call bound
      simpa [maySearch] using bound)
    (by
      intro history phases phase after turn bound _ found moved served
      have step := search_step served moved key
      have total := total_set (maySearch key) found after
      simp only [searchCount, List.countP_append, List.countP_singleton] at bound ⊢
      omega)
    run
  have marked := Bool.toNat_le (state.shared.fetched key)
  omega

/-- The first worker is slow; when its lease has run out a second one takes the hour, and may
not search. -/
theorem searched_by_the_first_worker :
    ∃ history state, HourRun {} history state ∧ searchCount ⟨20000, 5, 486⟩ history = 1 ∧
      searchCount ⟨20000, 5, 486⟩ history ≤ 1 := by
  have passed : (replay hourServe hourCode ⟨{}, []⟩
      [.enter ⟨⟨20000, 5, 486⟩, "first"⟩, .turn 0 {}, .turn 0 {}, .turn 0 {},
        .enter ⟨⟨20000, 5, 486⟩, "second"⟩, .turn 1 { now := 299 }, .enter ⟨⟨20000, 5, 486⟩, "second"⟩,
        .turn 2 { now := 300 }, .turn 2 { now := 300 }, .turn 2 { now := 300 },
        .turn 0 { now := 301 }, .turn 2 { now := 302 }]).any
      (fun reached => searchCount ⟨20000, 5, 486⟩ reached.1 == 1) = true := by decide +kernel
  obtain ⟨history, state, run, tested⟩ := replay_reaches passed
  exact ⟨history, state, run, by simpa using tested, provider_searched_at_most_once run _⟩

end PaladinsCat.Backend
