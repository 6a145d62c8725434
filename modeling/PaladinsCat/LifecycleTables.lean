import PaladinsCat.RowSteps

/-!
The tables around `match_ingest_status` (match_lifecycle.rs): the participant anchors of
an unfinished match, and the old ledger of the non-ranked matches, whose rows are
adopted page by page. Their transactions and those of the pipeline run on one store,
under one clock that never goes back.
-/

namespace PaladinsCat.Backend

open Interleaving Program

variable {Rating : Type} {glicko : Glicko Rating}

/-! ### match_ingest_participants -/

inductive ParticipantKind where
  | human
  | privateAccount
  | bot
  | unknown
  deriving DecidableEq

inductive ParticipantAnchorSource where
  | direct
  | roster
  | history
  | localRows
  deriving DecidableEq

structure ParticipantAnchor where
  rosterSlot : Int
  playerId : Int
  participantKind : ParticipantKind
  source : ParticipantAnchorSource
  deriving DecidableEq

/-- What the constraints of the table let in for one match. -/
def insertable (anchors : List ParticipantAnchor) : Bool :=
  anchors.all (fun anchor => decide (0 < anchor.rosterSlot)) &&
    decide (anchors.map (·.rosterSlot)).Nodup &&
    decide ((anchors.map (·.playerId)).filter fun id => decide (0 < id)).Nodup

/-! ### nonranked_match_acquisition -/

structure NonrankedAcquisition where
  matchId : Int
  queueId : Int
  statsScope : StatsScope
  directPlayerCount : Int
  rosterPlayerCount : Int
  detailAttempts : Int
  statsProjectedAt : Option Int
  canonicalAdoptedAt : Option Int

inductive NonrankedQuality where
  | complete
  | partialFacts
  | limited
  deriving DecidableEq

structure NonrankedPlayer where
  rosterSlot : Int
  playerId : Int
  participantKind : ParticipantKind
  source : Option String

/-- A row of `casual_matches` or `special_matches` with its players. -/
structure NonrankedParent where
  quality : NonrankedQuality
  players : List NonrankedPlayer

def NonrankedAcquisition.population (acquisition : NonrankedAcquisition) : MatchPopulation :=
  if acquisition.statsScope = .casual then .casual else .special

def NonrankedPlayer.lowerSource (player : NonrankedPlayer) : String := (player.source.getD "").toLower

def NonrankedPlayer.direct (player : NonrankedPlayer) : Bool :=
  player.lowerSource == "direct" || player.lowerSource == "recovered"

def NonrankedPlayer.anchor (player : NonrankedPlayer) : ParticipantAnchor where
  rosterSlot := player.rosterSlot
  playerId := player.playerId
  participantKind := player.participantKind
  source := if player.direct then .direct else if player.lowerSource == "roster" then .roster else .localRows

/-! ### adopt_nonranked_batch -/

structure AdoptionEvidence where
  durableFacts : Bool
  coreStatsProjected : Bool
  detailAttempted : Bool
  rosterResolved : Bool
  directCount : Int
  rosterCount : Int

def adoptionEvidence (acquisition : NonrankedAcquisition) (parent : Option NonrankedParent) :
    AdoptionEvidence :=
  let players := (parent.map NonrankedParent.players).getD []
  let rosterCount := max (players.length : Int) acquisition.rosterPlayerCount
  { durableFacts := parent.any (fun parent => parent.quality == .complete || parent.quality == .limited) &&
      decide (0 < rosterCount)
    coreStatsProjected := acquisition.statsProjectedAt.isSome
    detailAttempted := decide (0 < acquisition.detailAttempts) || parent.isSome
    rosterResolved := decide (0 < rosterCount)
    directCount := max (players.countP NonrankedPlayer.direct : Int) acquisition.directPlayerCount
    rosterCount }

def AdoptionEvidence.completedStages (evidence : AdoptionEvidence) : Finset Stage :=
  (if evidence.durableFacts then {.playerFacts, .matchBans} else ∅) ∪
    if evidence.coreStatsProjected then {.nonrankedCoreStats} else ∅

def AdoptionEvidence.acquisitionState (evidence : AdoptionEvidence) : AcquisitionState :=
  if evidence.durableFacts then .factsReady
  else if evidence.rosterResolved then .recoveryPending
  else if evidence.detailAttempted then .detailPending
  else .discovered

def adoptedRow (now : Int) (acquisition : NonrankedAcquisition) (evidence : AdoptionEvidence) :
    Option IngestRow → IngestRow
  | none =>
      { completedStages := evidence.completedStages
        source := some "legacy_nonranked_adoption"
        queueId := some acquisition.queueId
        population := acquisition.population
        acquisitionState := evidence.acquisitionState
        detailAttemptedAt := stamped evidence.detailAttempted now none
        rosterResolvedAt := stamped evidence.rosterResolved now none
        directPlayerCount := evidence.directCount
        rosterPlayerCount := evidence.rosterCount }
  | some row =>
      { row with
        completedStages := row.completedStages ∪ evidence.completedStages
        queueId := row.queueId.or (some acquisition.queueId)
        population := if row.population = .unknown then acquisition.population else row.population
        acquisitionState := if row.acquisitionState = .complete then row.acquisitionState
          else evidence.acquisitionState
        detailAttemptedAt := stamped evidence.detailAttempted now row.detailAttemptedAt
        rosterResolvedAt := stamped evidence.rosterResolved now row.rosterResolvedAt
        directPlayerCount := max row.directPlayerCount evidence.directCount
        rosterPlayerCount := max row.rosterPlayerCount evidence.rosterCount }

structure NonrankedAdoptionSummary where
  adopted : Nat := 0
  durableFacts : Nat := 0
  recoveryPending : Nat := 0
  existingCoreProjections : Nat := 0

def NonrankedAdoptionSummary.add (summary : NonrankedAdoptionSummary) (evidence : AdoptionEvidence) :
    NonrankedAdoptionSummary where
  adopted := summary.adopted + 1
  durableFacts := summary.durableFacts + evidence.durableFacts.toNat
  recoveryPending := summary.recoveryPending + (!evidence.durableFacts && evidence.rosterResolved).toNat
  existingCoreProjections := summary.existingCoreProjections + evidence.coreStatsProjected.toNat

structure LifecycleStore (Rating : Type) where
  store : Store Rating := {}
  participants : Int → List ParticipantAnchor := fun _ => []
  acquisitions : List NonrankedAcquisition := []
  clock : Int := 0

/-- `casual_matches` and `special_matches` as the adoption finds them. -/
abbrev NonrankedParents := MatchPopulation → Int → Option NonrankedParent

/-- The players of a row without durable facts become anchors. `none` is a violated
constraint. -/
def adoptAnchors (participants : Int → List ParticipantAnchor) (matchId : Int) (durableFacts : Bool)
    (parent : Option NonrankedParent) : Option (Int → List ParticipantAnchor) :=
  match parent with
  | some parent =>
      let anchors := parent.players.map NonrankedPlayer.anchor
      if durableFacts then some participants
      else if insertable anchors then some (Function.update participants matchId anchors)
      else none
  | none => some participants

def adoptOne (now : Int) (parents : NonrankedParents) (adopting : NonrankedAdoptionSummary × LifecycleStore Rating)
    (acquisition : NonrankedAcquisition) : Option (NonrankedAdoptionSummary × LifecycleStore Rating) :=
  let before := adopting.2
  let matchId := acquisition.matchId
  let parent := parents acquisition.population matchId
  let evidence := adoptionEvidence acquisition parent
  let row := adoptedRow now acquisition evidence (before.store.ingest matchId)
  (adoptAnchors before.participants matchId evidence.durableFacts parent).map fun participants =>
    (adopting.1.add evidence,
      { before with
        store := { before.store with ingest := Function.update before.store.ingest matchId (some row) }
        participants
        acquisitions := before.acquisitions.map fun other =>
          if other.matchId = matchId then { other with canonicalAdoptedAt := some now } else other })

/-- The first rows that are not adopted yet and not locked by another adoption. -/
def adoptionPage (acquisitions : List NonrankedAcquisition) (locked : Int → Bool) (limit : Nat) :
    List NonrankedAcquisition :=
  ((acquisitions.filter fun row => row.canonicalAdoptedAt.isNone && !locked row.matchId).insertionSort
    fun left right => left.matchId ≤ right.matchId).take limit

def adoptNonrankedBatch (now : Int) (parents : NonrankedParents) (locked : Int → Bool)
    (before : LifecycleStore Rating) (limit : Nat) :
    Option (NonrankedAdoptionSummary × LifecycleStore Rating) :=
  (adoptionPage before.acquisitions locked limit).foldlM (adoptOne now parents) ({}, before)

/-! ### replace_participant_anchors -/

def replaceParticipantAnchors (now : Int) (before : LifecycleStore Rating) (matchId : Int) (owner : String)
    (anchors : List ParticipantAnchor) : Option (Bool × LifecycleStore Rating) :=
  if (before.store.ingest matchId).any (·.leasedTo owner now) then
    if insertable anchors then
      some (true, { before with participants := Function.update before.participants matchId anchors })
    else none
  else some (false, before)

/-! ### One service -/

inductive LifecycleOp where
  | backend (op : BackendOp)
  | adoptNonrankedBatch (limit : Nat)
  | replaceParticipantAnchors (matchId : Int) (owner : String) (anchors : List ParticipantAnchor)

abbrev LifecycleOp.Result : LifecycleOp → Type
  | .backend op => op.Result
  | .adoptNonrankedBatch _ => NonrankedAdoptionSummary
  | .replaceParticipantAnchors _ _ _ => Bool

abbrev LifecycleOp.Reply (op : LifecycleOp) : Type := Except String op.Result

structure LifecycleOutside extends Outside where
  parents : NonrankedParents := fun _ _ => none
  lockedRows : Int → Bool := fun _ => false

def lifecycleEffect (glicko : Glicko Rating) (outside : LifecycleOutside) (before : LifecycleStore Rating) :
    (op : LifecycleOp) → Option (op.Result × LifecycleStore Rating)
  | .backend op =>
      let outcome := effect glicko outside.toOutside before.store op
      some (outcome.1, { before with store := outcome.2 })
  | .adoptNonrankedBatch limit =>
      adoptNonrankedBatch outside.now outside.parents outside.lockedRows before limit
  | .replaceParticipantAnchors matchId owner anchors =>
      replaceParticipantAnchors outside.now before matchId owner anchors

/-- The transaction at a time that is not before the last one. -/
def lifecycleServe (glicko : Glicko Rating) :
    Service (LifecycleStore Rating) LifecycleOp LifecycleOp.Reply LifecycleOutside :=
  fun before op outside =>
    if outside.now < before.clock then none
    else
      let untouched := { before with clock := outside.now }
      match lifecycleEffect glicko outside before op with
      | none => some (.error "constraint violation", untouched)
      | some (result, after) =>
          let changed := { after with clock := outside.now }
          match outside.fate with
          | .committed => some (.ok result, changed)
          | .rolledBack error => some (.error error, untouched)
          | .unacknowledged error => some (.error error, changed)

abbrev LifecycleTurn (Rating : Type) :=
  Turn (LifecycleStore Rating) LifecycleOp LifecycleOp.Reply (Σ op : LifecycleOp, op.Reply)

def lifecycleCode (op : LifecycleOp) : Program LifecycleOp LifecycleOp.Reply (Σ op : LifecycleOp, op.Reply) := do
  return ⟨op, ← perform op⟩

/-- A run of single transactions by any callers: what the programs of the pipeline do to
the store is such a run too. -/
abbrev LifecycleRun (glicko : Glicko Rating) (start : LifecycleStore Rating) (history : List (LifecycleTurn Rating))
    (state : State (LifecycleStore Rating) LifecycleOp LifecycleOp.Reply (Σ op : LifecycleOp, op.Reply)) : Prop :=
  Run (lifecycleServe glicko).handler lifecycleCode ⟨start, []⟩ history state

/-- A step takes time, and commits its effect or changes nothing else. -/
theorem lifecycle_served {before after : LifecycleStore Rating} {op : LifecycleOp} {reply : op.Reply}
    (served : (lifecycleServe glicko).handler before op reply after) :
    before.clock ≤ after.clock ∧
      ((after = { before with clock := after.clock } ∧ ∃ error, reply = .error error) ∨
        ∃ outside result changed, outside.now = after.clock ∧
          lifecycleEffect glicko outside before op = some (result, changed) ∧
          after = { changed with clock := after.clock } ∧ (reply = .ok result ∨ ∃ error, reply = .error error)) := by
  obtain ⟨outside, served⟩ := served
  simp only [lifecycleServe] at served
  split at served
  · cases served
  · rename_i late
    split at served
    · cases served
      exact ⟨not_lt.mp late, Or.inl ⟨rfl, _, rfl⟩⟩
    · rename_i result changed effected
      split at served
      · cases served
        exact ⟨not_lt.mp late, Or.inr ⟨outside, result, changed, rfl, effected, rfl, Or.inl rfl⟩⟩
      · cases served
        exact ⟨not_lt.mp late, Or.inl ⟨rfl, _, rfl⟩⟩
      · cases served
        exact ⟨not_lt.mp late, Or.inr ⟨outside, result, changed, rfl, effected, rfl, Or.inr ⟨_, rfl⟩⟩⟩

end PaladinsCat.Backend
