import PaladinsCat.IdentityScore
import PaladinsCat.KeyedList

/-!
The resolver of private accounts (workers/private_identity.rs): which identity an
observation is linked to, and which identities are merged. A call is one transaction under
the resolver's lock, so that a run is a list of calls. The public roster of a match, which
other tables hold, is a parameter of the calls that read it.
-/

namespace PaladinsCat.PrivateIdentity

inductive ResolutionStatus where
  | unresolved
  | minimal
  | newIdentity
  | linked
  | ambiguous
  deriving DecidableEq

/-- A row of `private_account_observations`. -/
structure ObservationRow where
  observation : PrivateObservation
  sourcePriority : Int
  privatePlayerId : Option Int := none
  resolutionStatus : ResolutionStatus := .unresolved
  resolutionConfidence : Int := 0
  resolutionReasons : List String := []

def privateIdentityVersion : Int := 3

/-- A row of `players_private`. -/
structure Identity where
  id : Int
  firstSeen : Int
  trackingVersion : Int := privateIdentityVersion
  isActive : Bool := true
  mergedIntoId : Option Int := none
  verifiedName : Option String := none

structure Store where
  observations : List ObservationRow := []
  identities : List Identity := []
  nextId : Int := 1

def ObservationRow.key (row : ObservationRow) : Int × Int := (row.observation.matchId, row.observation.privateSlot)

def Store.identity (store : Store) (id : Int) : Option Identity := KeyedList.lookup Identity.id id store.identities

def Identity.current (identity : Identity) : Bool := identity.trackingVersion == privateIdentityVersion && identity.isActive

def Store.isCurrent (store : Store) (id : Int) : Bool := (store.identity id).any Identity.current

def Store.updateRows (store : Store) (which : ObservationRow → Bool) (change : ObservationRow → ObservationRow) : Store :=
  { store with observations := store.observations.map fun row => if which row then change row else row }

def Store.updateIdentity (store : Store) (id : Int) (change : Identity → Identity) : Store :=
  { store with identities := KeyedList.update Identity.id id change store.identities }

/-! ### Candidates -/

section Candidates
variable (store : Store) (incoming : PrivateObservation)

def sharesEvidence (candidate : PrivateObservation) : Bool :=
  incoming.portalUserId != "" && candidate.portalUserId == incoming.portalUserId ||
    !incoming.partyMemberIds.isEmpty && candidate.partyMemberIds.any (· ∈ incoming.partyMemberIds) ||
    incoming.partyId != 0 && candidate.partyId == incoming.partyId &&
      decide (|candidate.entryDatetime - incoming.entryDatetime| ≤ 43200 * 1000000) ||
    decide (0 < incoming.accountLevel) &&
      decide (max 1 (incoming.accountLevel - 2) ≤ candidate.accountLevel) &&
      decide (candidate.accountLevel ≤ incoming.accountLevel + 2) &&
      decide (0 < incoming.championId) && candidate.championId == incoming.championId &&
      decide (0 < incoming.masteryLevel) &&
      decide (max 1 (incoming.masteryLevel - 2) ≤ candidate.masteryLevel) &&
      decide (candidate.masteryLevel ≤ incoming.masteryLevel + 2)

def Store.usedIn (matchId id : Int) : Bool :=
  store.observations.any fun used => used.observation.matchId == matchId && used.privatePlayerId == some id

def isCandidate (row : ObservationRow) : Bool :=
  row.privatePlayerId.any (fun id => store.isCurrent id && !store.usedIn incoming.matchId id) &&
    row.observation.matchId != incoming.matchId && sharesEvidence incoming row.observation

def earlierObservation (left right : PrivateObservation) : Prop := left.entryDatetime ≤ right.entryDatetime

instance : DecidableRel earlierObservation := fun left right =>
  inferInstanceAs (Decidable (left.entryDatetime ≤ right.entryDatetime))

def observationsOf (rows : List ObservationRow) (id : Int) : List PrivateObservation :=
  ((rows.filter fun row => row.privatePlayerId == some id).map (·.observation)).insertionSort earlierObservation

/-- In the order of the ids, each with its candidates in the order of their times. -/
def candidateObservations : List (Int × List PrivateObservation) :=
  let rows := store.observations.filter (isCandidate store incoming)
  ((rows.filterMap (·.privatePlayerId)).dedup.insertionSort fun left right => left ≤ right).map fun id =>
    (id, observationsOf rows id)

abbrev Ranked : Type := Int × IdentityScore

def rankedBefore (left right : Ranked) : Prop :=
  right.2.score < left.2.score ∨ left.2.score = right.2.score ∧ left.1 ≤ right.1

instance : DecidableRel rankedBefore := fun left right =>
  inferInstanceAs (Decidable (right.2.score < left.2.score ∨ left.2.score = right.2.score ∧ left.1 ≤ right.1))

def rankCandidates (grouped : List (Int × List PrivateObservation)) : List Ranked :=
  ((grouped.map fun entry => (entry.1, scoreCandidate incoming entry.2)).filter fun ranked =>
    !ranked.2.hardConflict).insertionSort rankedBefore

end Candidates

def privateIdentityLinkThreshold : Int := 68

def privateIdentityMargin : Int := 12

/-- The first candidate, if it has the score and the margin to be linked. -/
def clearBest : List Ranked → Option Ranked
  | [] => none
  | best :: others =>
      if privateIdentityLinkThreshold ≤ best.2.score ∧
          others.head?.all (fun runner => decide (privateIdentityMargin ≤ best.2.score - runner.2.score)) then
        some best
      else none

/-! ### One observation -/

def Identity.seenSince (firstSeen : Int) (identity : Identity) : Identity := { identity with firstSeen }

/-- The part of `refresh_identity` that is read again. -/
def refreshIdentity (store : Store) (id : Int) : Store :=
  match ((store.observations.filter fun row => row.privatePlayerId == some id).map
      (·.observation.entryDatetime)).min? with
  | none => store
  | some firstSeen => store.updateIdentity id (Identity.seenSince firstSeen)

def createIdentity (store : Store) (observation : PrivateObservation) : Int × Store :=
  (store.nextId,
    { store with
      identities := store.identities ++ [{ id := store.nextId, firstSeen := observation.entryDatetime }]
      nextId := store.nextId + 1 })

def linkObservation (store : Store) (key : Int × Int) (id : Int) (status : ResolutionStatus) (confidence : Int)
    (reasons : List String) : Store :=
  refreshIdentity
    (store.updateRows (fun row => row.key == key) fun row => { row with
      privatePlayerId := some id
      resolutionStatus := status
      resolutionConfidence := confidence
      resolutionReasons := reasons })
    id

inductive ResolutionOutcome where
  | linked
  | created
  | ambiguous
  | minimal
  deriving DecidableEq

def candidateReasons (best : Ranked) : List String :=
  [if privateIdentityLinkThreshold ≤ best.2.score then "ambiguous_candidate_margin" else "candidate_below_threshold",
    "best_candidate:" ++ toString best.1 ++ ":" ++ toString best.2.score]

/-- `row` is as it was read when the transaction began with its match. -/
def resolveObservation (store : Store) (row : ObservationRow) : ResolutionOutcome × Store :=
  if hasPrivateIdentityEvidence row.observation then
    match row.privatePlayerId with
    | some id => (.linked, refreshIdentity store id)
    | none =>
        let ranked := rankCandidates row.observation (candidateObservations store row.observation)
        match clearBest ranked with
        | some best => (.linked, linkObservation store row.key best.1 .linked best.2.score best.2.reasons)
        | none =>
            if row.observation.statsScope ≠ "" ∧ row.observation.statsScope ≠ "ranked" ∧ ranked ≠ [] then
              (.ambiguous,
                store.updateRows (fun other => other.key == row.key) fun other => { other with
                  resolutionStatus := .ambiguous
                  resolutionConfidence := (ranked.head?.map (·.2.score)).getD 0
                  resolutionReasons := (ranked.head?.map candidateReasons).getD [] })
            else
              let created := createIdentity store row.observation
              (.created,
                linkObservation created.2 row.key created.1 .newIdentity 100
                  ((ranked.head?.map candidateReasons).getD ["no_candidate"]))
  else
    (.minimal,
      store.updateRows (fun other => other.key == row.key) fun other => { other with
        resolutionStatus := .minimal
        resolutionConfidence := 0
        resolutionReasons := ["no_identity_evidence"] })

/-! ### The observations of a match -/

/-- A player of a payload, with the defaults for what it leaves out. -/
structure PrivatePlayer where
  playerId : Int := 0
  playerName : String
  privateSlot : Int
  partyId : Int := 0
  accountLevel : Int := 0
  masteryLevel : Int := 0
  leagueTier : Int := 0
  leaguePoints : Int := 0
  championId : Int := 0
  winStatus : String := ""
  portalId : Int := 0
  portalUserId : String := ""
  platform : String := ""
  source : String := ""

def privateAccountName : String := "PRIVATEACCOUNT"

def PrivatePlayer.isPrivate (player : PrivatePlayer) : Bool :=
  player.playerId == 0 && player.playerName.map Char.toUpper == privateAccountName && decide (0 < player.privateSlot)

def sourcePriority (source : String) : Int :=
  let name := Text.toLowercase (if source = "" then "direct" else source)
  if name = "direct" then 30 else if name = "recovered" then 20 else 10

def observedRow (matchId entryDatetime : Int) (statsScope : String) (player : PrivatePlayer) : ObservationRow :=
  let observation : PrivateObservation :=
    { matchId
      privateSlot := player.privateSlot
      entryDatetime
      partyId := player.partyId
      accountLevel := player.accountLevel
      masteryLevel := player.masteryLevel
      leagueTier := player.leagueTier
      leaguePoints := player.leaguePoints
      championId := player.championId
      winStatus := Text.toLowercase player.winStatus
      portalId := player.portalId
      portalUserId := player.portalUserId
      platform := Text.toLowercase player.platform
      statsScope }
  { observation
    sourcePriority := sourcePriority player.source
    resolutionStatus := if hasPrivateIdentityEvidence observation then .unresolved else .minimal }

/-- `ON CONFLICT (match_id,private_slot) DO UPDATE`. -/
def mergeObserved (old new : ObservationRow) : ObservationRow :=
  let observed := if old.sourcePriority ≤ new.sourcePriority then new.observation else old.observation
  { observation := { observed with
      matchId := old.observation.matchId
      privateSlot := old.observation.privateSlot
      partyMemberIds := old.observation.partyMemberIds
      statsScope := if new.observation.statsScope ≠ "" then new.observation.statsScope else old.observation.statsScope }
    sourcePriority := max new.sourcePriority old.sourcePriority
    privatePlayerId := old.privatePlayerId
    resolutionStatus := if old.privatePlayerId.isSome then old.resolutionStatus else new.resolutionStatus
    resolutionConfidence := old.resolutionConfidence
    resolutionReasons := old.resolutionReasons }

def upsertObservation (store : Store) (row : ObservationRow) : Store :=
  if row.key ∈ store.observations.map ObservationRow.key then
    store.updateRows (fun old => old.key == row.key) fun old => mergeObserved old row
  else { store with observations := store.observations ++ [row] }

/-- The public players of each party of a match, in the tables of its players. -/
abbrev Companions : Type := Int → List Int

def refreshCompanions (store : Store) (matchId : Int) (companions : Companions) : Store :=
  store.updateRows (fun row => row.observation.matchId == matchId) fun row =>
    { row with
      observation := { row.observation with
        partyMemberIds := if 0 < row.observation.partyId then companions row.observation.partyId else [] } }

def Store.rowsOfMatch (store : Store) (matchId : Int) : List ObservationRow :=
  (store.observations.filter fun row => row.observation.matchId == matchId).insertionSort fun left right =>
    left.observation.privateSlot ≤ right.observation.privateSlot

def resolveRows (store : Store) (rows : List ObservationRow) : Store :=
  rows.foldl (fun store row => (resolveObservation store row).2) store

def resolveExistingPrivateMatch (store : Store) (matchId : Int) (companions : Companions) : Store :=
  let store := refreshCompanions store matchId companions
  resolveRows store (store.rowsOfMatch matchId)

structure PrivatePayload where
  matchId : Int
  entryDatetime : Int
  statsScope : String
  players : List PrivatePlayer
  limited : Bool := false

/-- A statement may not insert a slot twice; then the transaction changes nothing. -/
def persistAndResolve (store : Store) (payload : PrivatePayload) (companions : Companions) : Store :=
  let rows := (payload.players.filter PrivatePlayer.isPrivate).map
    (observedRow payload.matchId payload.entryDatetime payload.statsScope)
  if (rows.map ObservationRow.key).Nodup then
    let store := rows.foldl upsertObservation store
    if payload.limited then store else resolveExistingPrivateMatch store payload.matchId companions
  else store

/-! ### Merging split identities -/

def Identity.mergeable (identity : Identity) : Bool := identity.current && identity.verifiedName.isNone

def firstSeenBefore (left right : Identity) : Prop :=
  left.firstSeen < right.firstSeen ∨ left.firstSeen = right.firstSeen ∧ left.id ≤ right.id

instance : DecidableRel firstSeenBefore := fun left right =>
  inferInstanceAs (Decidable (left.firstSeen < right.firstSeen ∨ left.firstSeen = right.firstSeen ∧ left.id ≤ right.id))

/-- `ORDER BY entry_datetime,match_id,private_slot`. -/
def observedBefore (left right : ObservationRow) : Prop :=
  left.observation.entryDatetime < right.observation.entryDatetime ∨
    left.observation.entryDatetime = right.observation.entryDatetime ∧
      (left.observation.matchId < right.observation.matchId ∨
        left.observation.matchId = right.observation.matchId ∧
          left.observation.privateSlot ≤ right.observation.privateSlot)

instance : DecidableRel observedBefore := fun left right =>
  inferInstanceAs (Decidable (left.observation.entryDatetime < right.observation.entryDatetime ∨
    left.observation.entryDatetime = right.observation.entryDatetime ∧
      (left.observation.matchId < right.observation.matchId ∨
        left.observation.matchId = right.observation.matchId ∧
          left.observation.privateSlot ≤ right.observation.privateSlot)))

def Store.rowsOf (store : Store) (id : Int) : List ObservationRow :=
  (store.observations.filter fun row => row.privatePlayerId == some id).insertionSort observedBefore

/-- The two identities have both been seen in one match. -/
def Store.collide (store : Store) (sourceId targetId : Int) : Bool :=
  store.observations.any fun source => source.privatePlayerId == some sourceId &&
    store.usedIn source.observation.matchId targetId

def moveRow (sourceId targetId : Int) (best : IdentityScore) (row : ObservationRow) : ObservationRow :=
  { row with
    privatePlayerId := some targetId
    resolutionStatus := .linked
    resolutionConfidence := max row.resolutionConfidence best.score
    resolutionReasons := best.reasons ++ ["merged_identity:" ++ toString sourceId] }

def Identity.retire (targetId : Int) (identity : Identity) : Identity :=
  { identity with isActive := false, mergedIntoId := some targetId }

def mergeIdentity (store : Store) (sourceId targetId : Int) (best : IdentityScore) : Store :=
  let moved := store.updateRows (fun row => row.privatePlayerId == some sourceId) (moveRow sourceId targetId best)
  refreshIdentity (moved.updateIdentity sourceId (Identity.retire targetId)) targetId

/-- The identity that a source is merged into, with its score. -/
def mergeTarget (store : Store) (sourceId : Int) (sourceRows : List ObservationRow) : Option Ranked :=
  match sourceRows with
  | [] => none
  | first :: _ =>
      let incoming := first.observation
      let grouped := candidateObservations store incoming
      let ranked := rankCandidates incoming (grouped.filter fun entry =>
        entry.1 != sourceId && entry.2.any fun observation => decide (observation.entryDatetime ≤ incoming.entryDatetime))
      match clearBest ranked with
      | none => none
      | some best =>
          let targetObservations := (grouped.lookup best.1).getD []
          if sourceRows.any (fun row => (scoreCandidate row.observation targetObservations).hardConflict) ||
              store.collide sourceId best.1 then none
          else some best

def reconcileSource (store : Store) (sourceId : Int) : Store :=
  if (store.identity sourceId).any Identity.mergeable then
    match mergeTarget store sourceId (store.rowsOf sourceId) with
    | none => store
    | some best => mergeIdentity store sourceId best.1 best.2
  else store

def reconcileSplitPrivateIdentities (store : Store) : Store :=
  (((store.identities.filter Identity.mergeable).insertionSort firstSeenBefore).map (·.id)).foldl reconcileSource store

/-! ### Runs -/

inductive ResolverCall where
  | persist (payload : PrivatePayload) (companions : Companions)
  | resolveExisting (matchId : Int) (companions : Companions)
  | reconcile

def ResolverCall.apply (store : Store) : ResolverCall → Store
  | .persist payload companions => persistAndResolve store payload companions
  | .resolveExisting matchId companions => resolveExistingPrivateMatch store matchId companions
  | .reconcile => reconcileSplitPrivateIdentities store

def resolverRun (start : Store) (calls : List ResolverCall) : Store := calls.foldl ResolverCall.apply start

/-! ### What a candidate is -/

section Candidates
variable {store : Store} {incoming : PrivateObservation}

theorem usedIn_iff {matchId id : Int} :
    store.usedIn matchId id = true ↔
      ∃ row ∈ store.observations, row.observation.matchId = matchId ∧ row.privatePlayerId = some id := by
  simp [Store.usedIn]

theorem isCandidate_iff {row : ObservationRow} :
    isCandidate store incoming row = true ↔
      (∃ id, row.privatePlayerId = some id ∧ store.isCurrent id = true ∧ store.usedIn incoming.matchId id = false) ∧
        row.observation.matchId ≠ incoming.matchId ∧ sharesEvidence incoming row.observation = true := by
  simp [isCandidate, Option.any_eq_true, and_assoc]

/-- A candidate identity is active, and not in the match of the observation. -/
theorem candidate_identity {entry : Int × List PrivateObservation}
    (member : entry ∈ candidateObservations store incoming) :
    store.isCurrent entry.1 = true ∧ store.usedIn incoming.matchId entry.1 = false := by
  simp only [candidateObservations, List.mem_map, List.mem_insertionSort, List.mem_dedup, List.mem_filterMap,
    List.mem_filter] at member
  obtain ⟨id, ⟨row, ⟨-, candidate⟩, linked⟩, rfl⟩ := member
  obtain ⟨⟨same, found, current, unused⟩, -⟩ := isCandidate_iff.mp candidate
  obtain rfl := Option.some.inj (linked.symm.trans found)
  exact ⟨current, unused⟩

theorem clearBest_mem {ranked : List Ranked} {best : Ranked} (clear : clearBest ranked = some best) : best ∈ ranked := by
  cases ranked with
  | nil => cases clear
  | cons first others =>
      simp only [clearBest] at clear
      split at clear
      · cases clear
        exact List.mem_cons_self
      · cases clear

theorem mem_rankCandidates {grouped : List (Int × List PrivateObservation)} {ranked : Ranked} :
    ranked ∈ rankCandidates incoming grouped ↔
      ∃ entry ∈ grouped, entry.1 = ranked.1 ∧ scoreCandidate incoming entry.2 = ranked.2 ∧ ranked.2.hardConflict = false := by
  simp only [rankCandidates, List.mem_insertionSort, List.mem_filter, List.mem_map, Bool.not_eq_true']
  constructor
  · rintro ⟨⟨entry, member, rfl⟩, fine⟩
    exact ⟨entry, member, rfl, rfl, fine⟩
  · rintro ⟨entry, member, same, scored, fine⟩
    exact ⟨⟨entry, member, Prod.ext same scored⟩, fine⟩

end Candidates

/-! ### One after the other -/

def arrivedRow (observation : PrivateObservation) : ObservationRow where
  observation
  sourcePriority := 30
  resolutionStatus := if hasPrivateIdentityEvidence observation then .unresolved else .minimal

def insertObservation (store : Store) (observation : PrivateObservation) : Store :=
  { store with observations := store.observations ++ [arrivedRow observation] }

def observationKey (observation : PrivateObservation) : Int × Int := (observation.matchId, observation.privateSlot)

/-- The primary key refuses a slot that is there. -/
def observe (store : Store) (observation : PrivateObservation) : Store :=
  if observationKey observation ∈ store.observations.map ObservationRow.key then store
  else (resolveObservation (insertObservation store observation) (arrivedRow observation)).2

def observeAll (arrivals : List PrivateObservation) : Store := arrivals.foldl observe {}

/-- The existing identity that an observation would be linked to. -/
def linksTo (store : Store) (observation : PrivateObservation) : Option Int :=
  if observationKey observation ∈ store.observations.map ObservationRow.key ∨
      hasPrivateIdentityEvidence observation = false then none
  else
    (clearBest (rankCandidates observation
      (candidateObservations (insertObservation store observation) observation))).map (·.1)

end PaladinsCat.PrivateIdentity
