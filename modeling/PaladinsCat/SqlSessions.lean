import Mathlib

/-!
What a sequence of statements leaves behind that a session sends to its database. A query of
several statements is one implicit transaction, unless a statement of it begins or ends an
explicit one. A statement that fails ends the query, and takes back what its transaction did.
-/

namespace SqlSessions

variable {Change : Type}

inductive Statement (Change : Type) where
  | change (change : Change)
  | begin
  | commit
  | rollback

/-- The transaction of a session, with the changes that it has not committed yet. -/
inductive Session (Change : Type) where
  | idle
  | implicit (pending : List Change)
  | explicit (pending : List Change)
  /-- A statement of an explicit transaction has failed, and its end is still to come. -/
  | failed

def Session.pending : Session Change → List Change
  | .implicit pending | .explicit pending => pending
  | .idle | .failed => []

/-- The changes that a statement commits, and the session after it; `none` if the session is
in no state for it. -/
def Session.step : Session Change → Statement Change → Option (List Change × Session Change)
  | .idle, .change change => some ([], .implicit [change])
  | .implicit pending, .change change => some ([], .implicit (pending ++ [change]))
  | .explicit pending, .change change => some ([], .explicit (pending ++ [change]))
  | .failed, .change _ | .failed, .begin => none
  | .idle, .begin => some ([], .explicit [])
  | .implicit pending, .begin | .explicit pending, .begin => some ([], .explicit pending)
  | session, .commit => some (session.pending, .idle)
  | _, .rollback => some ([], .idle)

/-- What is left of a transaction after an error. -/
def Session.abort : Session Change → Session Change
  | .idle | .implicit _ => .idle
  | .explicit _ | .failed => .failed

/-- A `COMMIT` that fails ends the transaction all the same. -/
def Session.abortAt (session : Session Change) : Statement Change → Session Change
  | .commit => .idle
  | _ => session.abort

structure Outcome (Change : Type) where
  committed : List Change
  session : Session Change
  completed : Bool

/-- The end of a query commits its implicit transaction. -/
def Session.endQuery : Session Change → Outcome Change
  | .implicit pending => ⟨pending, .idle, true⟩
  | session => ⟨[], session, true⟩

/-- A query, of which the statement with the number `fault` fails; its end is one more place to
fail. -/
def query : Session Change → List (Statement Change) → Option ℕ → Outcome Change
  | session, [], fault => if fault = some 0 then ⟨[], session.abort, false⟩ else session.endQuery
  | session, statement :: rest, fault =>
      if fault = some 0 then ⟨[], session.abortAt statement, false⟩
      else
        match session.step statement with
        | none => ⟨[], session.abort, false⟩
        | some (committed, after) =>
            let outcome := query after rest (fault.map (· - 1))
            { outcome with committed := committed ++ outcome.committed }

/-! ### Steps -/

section Steps
variable (session : Session Change) (pending : List Change) (change : Change) (fault : Option ℕ)

theorem query_end : query session [] fault = if fault = some 0 then ⟨[], session.abort, false⟩ else session.endQuery := rfl

theorem query_cons (statement : Statement Change) (rest : List (Statement Change)) :
    query session (statement :: rest) fault =
      if fault = some 0 then ⟨[], session.abortAt statement, false⟩
      else
        match session.step statement with
        | none => ⟨[], session.abort, false⟩
        | some (committed, after) =>
            let outcome := query after rest (fault.map (· - 1))
            { outcome with committed := committed ++ outcome.committed } := rfl

theorem step_begin : (Session.idle : Session Change).step .begin = some ([], .explicit []) := rfl

theorem step_change_idle : Session.idle.step (.change change) = some ([], .implicit [change]) := rfl

theorem step_change_implicit : (Session.implicit pending).step (.change change) = some ([], .implicit (pending ++ [change])) := rfl

theorem step_change_explicit : (Session.explicit pending).step (.change change) = some ([], .explicit (pending ++ [change])) := rfl

theorem step_commit : session.step .commit = some (session.pending, .idle) := by
  cases session <;> rfl

theorem step_rollback : session.step .rollback = some ([], .idle) := by
  cases session <;> rfl

theorem abort_idle : (Session.idle : Session Change).abort = .idle := rfl

theorem endQuery_idle : (Session.idle : Session Change).endQuery = ⟨[], .idle, true⟩ := rfl

theorem endQuery_implicit : (Session.implicit pending).endQuery = ⟨pending, .idle, true⟩ := rfl

theorem endQuery_explicit : (Session.explicit pending).endQuery = ⟨[], .explicit pending, true⟩ := rfl

end Steps

/-! ### Completed queries -/

/-- Between two queries there is no implicit transaction. -/
def Session.Settled : Session Change → Prop
  | .implicit _ => False
  | _ => True

theorem abort_settled (session : Session Change) : session.abort.Settled := by
  cases session <;> trivial

theorem query_settled (session : Session Change) (statements : List (Statement Change)) (fault : Option ℕ) :
    (query session statements fault).session.Settled := by
  induction statements generalizing session fault with
  | nil =>
      rw [query_end]
      split
      · exact abort_settled session
      · cases session <;> trivial
  | cons statement rest ih =>
      rw [query_cons]
      split
      · cases statement
        · exact abort_settled session
        · exact abort_settled session
        · trivial
        · exact abort_settled session
      · split
        · exact abort_settled session
        · exact ih _ _

/-- The outcome of a completed query does not depend on where a fault would have been. -/
theorem query_completed {session : Session Change} {statements : List (Statement Change)} {fault : Option ℕ}
    (completed : (query session statements fault).completed = true) :
    query session statements fault = query session statements none := by
  induction statements generalizing session fault with
  | nil =>
      rw [query_end] at completed
      rw [query_end, query_end]
      split at completed
      · cases completed
      · rename_i sound
        rw [if_neg sound, if_neg nofun]
  | cons statement rest ih =>
      rw [query_cons] at completed
      rw [query_cons, query_cons]
      split at completed
      · cases completed
      · rename_i sound
        rw [if_neg sound, if_neg nofun]
        cases moved : session.step statement with
        | none => rfl
        | some result =>
            rw [moved] at completed
            simp only [ih completed, Option.map_none]

theorem step_sound {session after : Session Change} {statement : Statement Change} {committed : List Change}
    (sound : session ≠ .failed) (moved : session.step statement = some (committed, after)) : after ≠ .failed := by
  rintro rfl
  cases session <;> cases statement <;> simp_all [Session.step]

theorem query_sound {session : Session Change} {statements : List (Statement Change)} {fault : Option ℕ}
    (sound : session ≠ .failed) (completed : (query session statements fault).completed = true) :
    (query session statements fault).session ≠ .failed := by
  induction statements generalizing session fault with
  | nil =>
      rw [query_end] at completed ⊢
      split at completed
      · cases completed
      · rename_i apart
        rw [if_neg apart]
        cases session <;> simp_all [Session.endQuery]
  | cons statement rest ih =>
      rw [query_cons] at completed ⊢
      split at completed
      · cases completed
      · rename_i apart
        rw [if_neg apart]
        cases moved : session.step statement with
        | none => simp [moved] at completed
        | some result =>
            rw [moved] at completed
            exact ih (step_sound sound moved) completed

/-! ### Single statements -/

section Single
variable (fault : Option ℕ) (pending : List Change) (change : Change)

/-- A query without statements for the transaction leaves it alone. -/
theorem query_nil (session : Session Change) (settled : session.Settled) :
    (query session [] fault).committed = [] ∧ ((query session [] fault).completed = true → (query session [] fault).session = session) := by
  rw [query_end]
  split
  · exact ⟨rfl, nofun⟩
  · cases session <;> first | exact ⟨rfl, fun _ => rfl⟩ | exact settled.elim

theorem query_begin :
    (query (.idle : Session Change) [.begin] fault).committed = [] ∧
      ((query (.idle : Session Change) [.begin] fault).completed = true →
        (query (.idle : Session Change) [.begin] fault).session = .explicit []) := by
  rcases fault with _ | _ | _ | later <;> simp [query_cons, query_end, step_begin, endQuery_explicit]

theorem query_change_idle :
    ((query .idle [.change change] fault).committed = [] ∧ (query .idle [.change change] fault).completed = false) ∨
      (query .idle [.change change] fault).committed = [change] ∧ (query .idle [.change change] fault).session = .idle := by
  rcases fault with _ | _ | _ | later <;> simp [query_cons, query_end, step_change_idle, endQuery_implicit]

theorem query_change_explicit :
    (query (.explicit pending) [.change change] fault).committed = [] ∧
      ((query (.explicit pending) [.change change] fault).completed = true →
        (query (.explicit pending) [.change change] fault).session = .explicit (pending ++ [change])) := by
  rcases fault with _ | _ | _ | later <;> simp [query_cons, query_end, step_change_explicit, endQuery_explicit]

/-- A commit may report a fault all the same. -/
theorem query_commit (session : Session Change) :
    ((query session [.commit] fault).committed = [] ∧ (query session [.commit] fault).completed = false) ∨
      (query session [.commit] fault).committed = session.pending ∧ (query session [.commit] fault).session = .idle := by
  rcases fault with _ | _ | _ | later <;> simp [query_cons, query_end, step_commit, endQuery_idle, abort_idle]

theorem query_rollback (session : Session Change) : (query session [.rollback] fault).committed = [] := by
  rcases fault with _ | _ | _ | later <;> simp [query_cons, query_end, step_rollback, endQuery_idle]

end Single

/-! ### Statements that only change -/

theorem query_explicit (pending changes : List Change) :
    query (.explicit pending) (changes.map .change) none = ⟨[], .explicit (pending ++ changes), true⟩ := by
  induction changes generalizing pending with
  | nil => simp [query_end, endQuery_explicit]
  | cons change rest ih => simp [query_cons, step_change_explicit, ih]

theorem query_implicit (pending changes : List Change) :
    query (.implicit pending) (changes.map .change) none = ⟨pending ++ changes, .idle, true⟩ := by
  induction changes generalizing pending with
  | nil => simp [query_end, endQuery_implicit]
  | cons change rest ih => simp [query_cons, step_change_implicit, ih]

/-- In an explicit transaction they commit nothing, whether they fail or not. -/
theorem query_explicit_commits (pending changes : List Change) (fault : Option ℕ) :
    (query (.explicit pending) (changes.map .change) fault).committed = [] := by
  induction changes generalizing pending fault with
  | nil =>
      simp only [List.map_nil, query_end]
      split <;> rfl
  | cons change rest ih =>
      simp only [List.map_cons, query_cons, step_change_explicit]
      split
      · rfl
      · simp [ih]

end SqlSessions
