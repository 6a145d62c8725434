import PaladinsCat.Text

/-!
How alike two observations of private accounts are (workers/private_identity.rs). Every
rule of `score_private_identity` gives its marks: points with a reason, or a reason why
the two cannot be one account. Times are in microseconds.
-/

namespace PaladinsCat.PrivateIdentity

structure PrivateObservation where
  matchId : Int
  privateSlot : Int
  entryDatetime : Int
  partyId : Int := 0
  accountLevel : Int := 0
  masteryLevel : Int := 0
  leagueTier : Int := 0
  leaguePoints : Int := 0
  championId : Int := 0
  winStatus : String := ""
  portalId : Int := 0
  portalUserId : String := ""
  platform : String := ""
  partyMemberIds : List Int := []
  statsScope : String := ""

structure IdentityScore where
  score : Int
  reasons : List String
  hardConflict : Bool
  deriving DecidableEq

def hasPrivateIdentityEvidence (observation : PrivateObservation) : Bool :=
  decide (0 < observation.accountLevel) || decide (0 < observation.masteryLevel) ||
    decide (0 < observation.leagueTier) || decide (0 < observation.leaguePoints) ||
    decide (0 < observation.partyId) || decide (0 < observation.championId) ||
    decide (0 < observation.portalId) || observation.portalUserId != "" || !observation.partyMemberIds.isEmpty

/-! ### The rules -/

structure Mark where
  points : Int := 0
  reason : String
  conflict : Bool := false

def credit (points : Int) (reason : String) : List Mark := [{ points, reason }]

def objection (reason : String) : List Mark := [{ reason, conflict := true }]

/-- `whole_seconds().unsigned_abs()` of the time between. -/
def wholeSeconds (incoming existing : PrivateObservation) : Nat :=
  (incoming.entryDatetime - existing.entryDatetime).natAbs / 1000000

def twelveHours : Nat := 12 * 3600

def sevenDays : Nat := 7 * 24 * 3600

def normalizedOutcome (value : String) : Option String :=
  let outcome := Text.toAsciiLowercase (Text.trim value)
  if outcome = "winner" ∨ outcome = "win" then some "win"
  else if outcome = "loser" ∨ outcome = "loss" then some "loss"
  else none

section Rules
variable (incoming existing : PrivateObservation)

def earlier : PrivateObservation :=
  if existing.entryDatetime ≤ incoming.entryDatetime then existing else incoming

def later : PrivateObservation :=
  if existing.entryDatetime ≤ incoming.entryDatetime then incoming else existing

def portalUserMarks : List Mark :=
  if incoming.portalUserId ≠ "" ∧ existing.portalUserId ≠ "" then
    if incoming.portalUserId ≠ existing.portalUserId then objection "portal_user_conflict"
    else if incoming.portalId = 0 ∨ existing.portalId = 0 ∨ incoming.portalId = existing.portalId then
      credit 100 "portal_user_exact"
    else []
  else []

def portalMarks : List Mark :=
  if 0 < incoming.portalId ∧ 0 < existing.portalId ∧ incoming.portalId ≠ existing.portalId then
    objection "portal_conflict"
  else []

def accountLevelMarks : List Mark :=
  let before := (earlier incoming existing).accountLevel
  let after := (later incoming existing).accountLevel
  if 0 < before ∧ 0 < after then
    if 1 < before - after then objection "account_level_regression"
    else if incoming.accountLevel = existing.accountLevel then
      if 999 ≤ incoming.accountLevel then credit 8 "account_level_cap_exact" else credit 18 "account_level_exact"
    else if before ≤ after ∧ after - before ≤ 2 then credit 12 "account_level_progression"
    else []
  else []

def sameChampion : Bool := decide (0 < incoming.championId) && incoming.championId == existing.championId

def masteryMarks : List Mark :=
  let before := (earlier incoming existing).masteryLevel
  let after := (later incoming existing).masteryLevel
  if 0 < before ∧ 0 < after then
    if 2 < before - after then objection "mastery_regression"
    else if incoming.masteryLevel = existing.masteryLevel then credit 14 "mastery_exact"
    else if before ≤ after ∧ after - before ≤ 2 then credit 8 "mastery_progression"
    else []
  else []

def championMarks : List Mark :=
  if sameChampion incoming existing then credit 3 "champion_exact" ++ masteryMarks incoming existing else []

def leagueTierMarks : List Mark :=
  if 0 < incoming.leagueTier ∧ incoming.leagueTier = existing.leagueTier then credit 10 "league_tier_exact" else []

/-- The marks, and whether they make the progression of the league points compatible. -/
def leaguePointsMarks : List Mark × Bool :=
  if 0 < incoming.leagueTier ∧ 0 ≤ incoming.leaguePoints ∧ 0 ≤ existing.leaguePoints ∧
      incoming.leagueTier = existing.leagueTier then
    let pointDifference := |incoming.leaguePoints - existing.leaguePoints|
    let pointDelta := (later incoming existing).leaguePoints - (earlier incoming existing).leaguePoints
    let earlierOutcome := normalizedOutcome (earlier incoming existing).winStatus
    let directionMatches :=
      (earlierOutcome = some "win" ∧ 0 ≤ pointDelta) ∨ (earlierOutcome = some "loss" ∧ pointDelta ≤ 0)
    if pointDifference = 0 then (credit 5 "tp_stable", true)
    else if directionMatches ∧ pointDifference ≤ 25 then
      (credit 10 ("tp_" ++ earlierOutcome.getD "" ++ "_progression"), true)
    else if directionMatches ∧ pointDifference ≤ 50 then
      (credit 7 ("tp_" ++ earlierOutcome.getD "" ++ "_extended_progression"), true)
    else if directionMatches then (credit 4 ("tp_" ++ earlierOutcome.getD "" ++ "_large_progression"), true)
    else if earlierOutcome = none ∧ pointDifference ≤ 25 then (credit 3 "tp_near_without_outcome", true)
    else (credit 0 "tp_progression_uncertain", false)
  else ([], false)

def platformMarks : List Mark :=
  if incoming.platform ≠ "" ∧ incoming.platform = existing.platform then credit 4 "platform_exact" else []

def companions : Nat := (incoming.partyMemberIds.filter (· ∈ existing.partyMemberIds)).length

def companionMarks : List Mark :=
  let count := companions incoming existing
  if 0 < count then credit (50 + min 12 ((count - 1) * 6)) ("party_companion_overlap:" ++ toString count) else []

def partyMarks : List Mark :=
  if 0 < incoming.partyId ∧ incoming.partyId = existing.partyId then
    if wholeSeconds incoming existing ≤ twelveHours then
      credit 20 "party_session_exact" ++
        if (leaguePointsMarks incoming existing).2 ∧ 0 < incoming.accountLevel ∧
            incoming.accountLevel = existing.accountLevel ∧ 0 < incoming.leagueTier ∧
            incoming.leagueTier = existing.leagueTier then
          credit 8 "ranked_session_progression"
        else []
    else credit 3 "party_id_context_only"
  else []

def timeMarks : List Mark :=
  if wholeSeconds incoming existing ≤ twelveHours then credit 5 "time_within_12h"
  else if wholeSeconds incoming existing ≤ sevenDays then credit 2 "time_within_7d"
  else []

def bundleMarks : List Mark :=
  if wholeSeconds incoming existing ≤ twelveHours ∧ 0 < incoming.accountLevel ∧ incoming.accountLevel < 999 ∧
      incoming.accountLevel = existing.accountLevel ∧ sameChampion incoming existing ∧
      0 < incoming.masteryLevel ∧ incoming.masteryLevel = existing.masteryLevel ∧
      incoming.platform ≠ "" ∧ incoming.platform = existing.platform ∧
      incoming.statsScope ≠ "ranked" ∧ existing.statsScope ≠ "ranked" then
    credit 25 "casual_progression_bundle"
  else []

def identityMarks : List Mark :=
  portalUserMarks incoming existing ++ portalMarks incoming existing ++ accountLevelMarks incoming existing ++
    championMarks incoming existing ++ leagueTierMarks incoming existing ++
    (leaguePointsMarks incoming existing).1 ++ platformMarks incoming existing ++
    companionMarks incoming existing ++ partyMarks incoming existing ++ timeMarks incoming existing ++
    bundleMarks incoming existing

def scorePrivateIdentity : IdentityScore :=
  if incoming.matchId = existing.matchId then
    { score := 0, reasons := ["same_match_conflict"], hardConflict := true }
  else
    let marks := identityMarks incoming existing
    let hardConflict := marks.any (·.conflict)
    { score := if hardConflict then 0 else min 100 (marks.map (·.points)).sum
      reasons := marks.map (·.reason)
      hardConflict }

end Rules

/-! ### Many observations -/

/-- `max_by_key(|score| score.score)`, the last of several maxima. -/
def lastBest (scores : List IdentityScore) : Option IdentityScore :=
  scores.foldl (fun best next =>
    if best.all (·.score ≤ next.score) then some next else best) none

/-- Scores with the observations before and after, which come in the order of their times. -/
def neighborScores (incoming : PrivateObservation) (observations : List PrivateObservation) : List IdentityScore :=
  let before := observations.reverse.find? fun observation => decide (observation.entryDatetime ≤ incoming.entryDatetime)
  let after := observations.find? fun observation => decide (incoming.entryDatetime < observation.entryDatetime)
  (before.toList ++ after.toList).map (scorePrivateIdentity incoming)

def scoreCandidate (incoming : PrivateObservation) (observations : List PrivateObservation) : IdentityScore :=
  match (neighborScores incoming observations).find? (·.hardConflict) with
  | some compatibility => compatibility
  | none =>
      (lastBest ((observations.map (scorePrivateIdentity incoming)).filter fun score => !score.hardConflict)).getD
        { score := 0, reasons := [], hardConflict := false }

/-! ### Conflicts -/

section Conflicts
variable {incoming existing : PrivateObservation}

theorem earlier_swap (apart : incoming.entryDatetime ≠ existing.entryDatetime) :
    earlier incoming existing = earlier existing incoming := by
  rcases lt_or_gt_of_ne apart with first | second
  · simp [earlier, not_le.mpr first, first.le]
  · simp [earlier, not_le.mpr second, second.le]

theorem later_swap (apart : incoming.entryDatetime ≠ existing.entryDatetime) :
    later incoming existing = later existing incoming := by
  rcases lt_or_gt_of_ne apart with first | second
  · simp [later, not_le.mpr first, first.le]
  · simp [later, not_le.mpr second, second.le]

/-- The two have different accounts at the same portal, or accounts at different portals. -/
def OtherPortal (incoming existing : PrivateObservation) : Prop :=
  (incoming.portalUserId ≠ "" ∧ existing.portalUserId ≠ "" ∧ incoming.portalUserId ≠ existing.portalUserId) ∨
    (0 < incoming.portalId ∧ 0 < existing.portalId ∧ incoming.portalId ≠ existing.portalId)

/-- A known level is followed by a lower one. -/
def Regressed (before after tolerance : Int) : Prop := 0 < before ∧ 0 < after ∧ tolerance < before - after

/-- What `score_private_identity` takes for a conflict. -/
def Conflicting (incoming existing : PrivateObservation) : Prop :=
  incoming.matchId = existing.matchId ∨ OtherPortal incoming existing ∨
    Regressed (earlier incoming existing).accountLevel (later incoming existing).accountLevel 1 ∨
    (sameChampion incoming existing = true ∧
      Regressed (earlier incoming existing).masteryLevel (later incoming existing).masteryLevel 2)

/-- Marks with points alone. -/
def Harmless (marks : List Mark) : Prop := marks.any (·.conflict) = false

theorem harmless_credit (points : Int) (reason : String) : Harmless (credit points reason) := rfl

theorem harmless_nil : Harmless [] := rfl

theorem harmless_if {condition : Prop} [Decidable condition] {yes no : List Mark} (first : Harmless yes) (second : Harmless no) :
    Harmless (if condition then yes else no) := by
  split
  · exact first
  · exact second

theorem harmless_append {first second : List Mark} (one : Harmless first) (other : Harmless second) :
    Harmless (first ++ second) := by
  rw [Harmless, List.any_append, one, other]
  rfl

theorem leagueMarks_harmless : Harmless (leaguePointsMarks incoming existing).1 := by
  unfold leaguePointsMarks
  dsimp only
  split_ifs <;> rfl

theorem partyMarks_harmless : Harmless (partyMarks incoming existing) :=
  harmless_if
    (harmless_if (harmless_append (harmless_credit _ _) (harmless_if (harmless_credit _ _) harmless_nil))
      (harmless_credit _ _))
    harmless_nil

theorem portal_conflict :
    ((portalUserMarks incoming existing).any (·.conflict) || (portalMarks incoming existing).any (·.conflict)) = true ↔
      OtherPortal incoming existing := by
  unfold portalUserMarks portalMarks OtherPortal
  split_ifs <;> simp_all [objection, credit]

theorem account_conflict :
    (accountLevelMarks incoming existing).any (·.conflict) = true ↔
      Regressed (earlier incoming existing).accountLevel (later incoming existing).accountLevel 1 := by
  unfold accountLevelMarks Regressed
  dsimp only
  split_ifs <;> simp_all [objection, credit]

theorem champion_conflict :
    (championMarks incoming existing).any (·.conflict) = true ↔ sameChampion incoming existing = true ∧
      Regressed (earlier incoming existing).masteryLevel (later incoming existing).masteryLevel 2 := by
  unfold championMarks masteryMarks Regressed
  dsimp only
  split_ifs <;> simp_all [objection, credit]

theorem hardConflict_iff :
    (scorePrivateIdentity incoming existing).hardConflict = true ↔ Conflicting incoming existing := by
  unfold scorePrivateIdentity Conflicting
  by_cases same : incoming.matchId = existing.matchId
  · simp [same]
  have tier : (leagueTierMarks incoming existing).any (·.conflict) = false :=
    harmless_if (harmless_credit _ _) harmless_nil
  have league : (leaguePointsMarks incoming existing).1.any (·.conflict) = false := leagueMarks_harmless
  have platform : (platformMarks incoming existing).any (·.conflict) = false :=
    harmless_if (harmless_credit _ _) harmless_nil
  have party : (partyMarks incoming existing).any (·.conflict) = false := partyMarks_harmless
  have together : (companionMarks incoming existing).any (·.conflict) = false :=
    harmless_if (harmless_credit _ _) harmless_nil
  have time : (timeMarks incoming existing).any (·.conflict) = false :=
    harmless_if (harmless_credit _ _) (harmless_if (harmless_credit _ _) harmless_nil)
  have bundle : (bundleMarks incoming existing).any (·.conflict) = false :=
    harmless_if (harmless_credit _ _) harmless_nil
  simp only [if_neg same, identityMarks, List.any_append, tier, league, platform, party, together, time, bundle,
    Bool.or_false, Bool.or_eq_true, champion_conflict, account_conflict]
  rw [← Bool.or_eq_true, portal_conflict]
  tauto

/-- A conflict is one in either order. -/
theorem conflicting_swap (apart : incoming.entryDatetime ≠ existing.entryDatetime) :
    Conflicting incoming existing ↔ Conflicting existing incoming := by
  have champion : sameChampion incoming existing = true ↔ sameChampion existing incoming = true := by
    simp only [sameChampion, Bool.and_eq_true, decide_eq_true_eq, beq_iff_eq]
    constructor <;> rintro ⟨known, same⟩ <;> exact ⟨same ▸ known, same.symm⟩
  have portal : OtherPortal incoming existing ↔ OtherPortal existing incoming := by
    simp only [OtherPortal, ne_comm, and_left_comm]
  rw [Conflicting, Conflicting, earlier_swap apart, later_swap apart, champion, portal, eq_comm]

end Conflicts

end PaladinsCat.PrivateIdentity
