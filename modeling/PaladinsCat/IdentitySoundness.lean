import PaladinsCat.IdentityScore

/-!
What `score_private_identity` computes with the integers of the machine (workers/
private_identity.rs): no subtraction of its i32 fields and no running i16 score overflows, a score
lies between 0 and 100, and two observations score each other alike.
-/

namespace PaladinsCat.PrivateIdentity

/-! ### Checked arithmetic -/

/-- A signed integer of so many bits, unless it overflows. -/
def checked (bits : Nat) (n : Int) : Option Int := if -2 ^ (bits - 1) ≤ n ∧ n < 2 ^ (bits - 1) then some n else none

/-- A score that the points are added to one after the other. -/
def checkedTotal : Int → List Int → Option Int
  | total, [] => some total
  | total, points :: rest => do
      let next ← checked 16 (total + points)
      checkedTotal next rest

section Checked
variable (incoming existing : PrivateObservation)

def checkedAccountLevelMarks : Option (List Mark) :=
  let before := (earlier incoming existing).accountLevel
  let after := (later incoming existing).accountLevel
  if 0 < before ∧ 0 < after then do
    let regression ← checked 32 (before - after)
    if 1 < regression then return objection "account_level_regression"
    else if incoming.accountLevel = existing.accountLevel then
      return if 999 ≤ incoming.accountLevel then credit 8 "account_level_cap_exact" else credit 18 "account_level_exact"
    else if before ≤ after then do
      let rise ← checked 32 (after - before)
      return if rise ≤ 2 then credit 12 "account_level_progression" else []
    else return []
  else return []

def checkedMasteryMarks : Option (List Mark) :=
  let before := (earlier incoming existing).masteryLevel
  let after := (later incoming existing).masteryLevel
  if 0 < before ∧ 0 < after then do
    let regression ← checked 32 (before - after)
    if 2 < regression then return objection "mastery_regression"
    else if incoming.masteryLevel = existing.masteryLevel then return credit 14 "mastery_exact"
    else if before ≤ after then do
      let rise ← checked 32 (after - before)
      return if rise ≤ 2 then credit 8 "mastery_progression" else []
    else return []
  else return []

def checkedChampionMarks : Option (List Mark) :=
  if sameChampion incoming existing then do
    let mastery ← checkedMasteryMarks incoming existing
    return credit 3 "champion_exact" ++ mastery
  else return []

def checkedLeaguePointsMarks : Option (List Mark × Bool) :=
  if 0 < incoming.leagueTier ∧ 0 ≤ incoming.leaguePoints ∧ 0 ≤ existing.leaguePoints ∧
      incoming.leagueTier = existing.leagueTier then do
    let difference ← checked 32 (incoming.leaguePoints - existing.leaguePoints)
    let pointDifference ← checked 32 |difference|
    let pointDelta ← checked 32 ((later incoming existing).leaguePoints - (earlier incoming existing).leaguePoints)
    let earlierOutcome := normalizedOutcome (earlier incoming existing).winStatus
    let directionMatches :=
      (earlierOutcome = some "win" ∧ 0 ≤ pointDelta) ∨ (earlierOutcome = some "loss" ∧ pointDelta ≤ 0)
    return if pointDifference = 0 then (credit 5 "tp_stable", true)
      else if directionMatches ∧ pointDifference ≤ 25 then
        (credit 10 ("tp_" ++ earlierOutcome.getD "" ++ "_progression"), true)
      else if directionMatches ∧ pointDifference ≤ 50 then
        (credit 7 ("tp_" ++ earlierOutcome.getD "" ++ "_extended_progression"), true)
      else if directionMatches then (credit 4 ("tp_" ++ earlierOutcome.getD "" ++ "_large_progression"), true)
      else if earlierOutcome = none ∧ pointDifference ≤ 25 then (credit 3 "tp_near_without_outcome", true)
      else (credit 0 "tp_progression_uncertain", false)
  else return ([], false)

/-- `score_private_identity` in a build with overflow checks. -/
def checkedScorePrivateIdentity : Option IdentityScore :=
  if incoming.matchId = existing.matchId then
    some { score := 0, reasons := ["same_match_conflict"], hardConflict := true }
  else do
    let account ← checkedAccountLevelMarks incoming existing
    let champion ← checkedChampionMarks incoming existing
    let league ← checkedLeaguePointsMarks incoming existing
    let marks := portalUserMarks incoming existing ++ portalMarks incoming existing ++ account ++ champion ++
      leagueTierMarks incoming existing ++ league.1 ++ platformMarks incoming existing ++
      companionMarks incoming existing ++ partyMarks incoming existing ++ timeMarks incoming existing ++
      bundleMarks incoming existing
    let score ← checkedTotal 0 (marks.map (·.points))
    let hardConflict := marks.any (·.conflict)
    return { score := if hardConflict then 0 else min 100 score, reasons := marks.map (·.reason), hardConflict }

end Checked

/-! ### Points -/

/-- Points that are not negative and sum up to no more than a bound. -/
structure Within (bound : Int) (marks : List Mark) : Prop where
  positive : ∀ mark ∈ marks, 0 ≤ mark.points
  total : (marks.map (·.points)).sum ≤ bound

section Points

theorem within_credit {points bound : Int} (positive : 0 ≤ points) (small : points ≤ bound) (reason : String) :
    Within bound (credit points reason) :=
  ⟨by simpa [credit] using positive, by simpa [credit] using small⟩

theorem within_objection {bound : Int} (positive : 0 ≤ bound) (reason : String) : Within bound (objection reason) :=
  ⟨by simp [objection], by simpa [objection] using positive⟩

theorem within_nil {bound : Int} (positive : 0 ≤ bound) : Within bound [] := ⟨by simp, by simpa using positive⟩

theorem within_append {one other : Int} {front back : List Mark} (first : Within one front)
    (second : Within other back) : Within (one + other) (front ++ back) := by
  constructor
  · intro mark member
    rcases List.mem_append.mp member with before | behind
    · exact first.positive mark before
    · exact second.positive mark behind
  · rw [List.map_append, List.sum_append]
    exact add_le_add first.total second.total

theorem within_if {bound : Int} {condition : Prop} [Decidable condition] {yes no : List Mark}
    (first : Within bound yes) (second : Within bound no) : Within bound (if condition then yes else no) := by
  split
  · exact first
  · exact second

theorem Within.nonneg {bound : Int} {marks : List Mark} (within : Within bound marks) :
    0 ≤ (marks.map (·.points)).sum := by
  apply List.sum_nonneg
  intro points member
  obtain ⟨mark, inside, rfl⟩ := List.mem_map.mp member
  exact within.positive mark inside

theorem checkedTotal_eq {points : List Int} {total : Int} (positive : ∀ n ∈ points, 0 ≤ n) (start : 0 ≤ total)
    (small : total + points.sum < 2 ^ 15) : checkedTotal total points = some (total + points.sum) := by
  induction points generalizing total with
  | nil => simp [checkedTotal]
  | cons first points ih =>
      obtain ⟨here, later⟩ := List.forall_mem_cons.mp positive
      have rest := List.sum_nonneg later
      rw [List.sum_cons] at small ⊢
      have range : -2 ^ (16 - 1) ≤ total + first ∧ total + first < 2 ^ (16 - 1) := by
        norm_num at small ⊢
        omega
      rw [checkedTotal, checked, if_pos range]
      have next := ih later (add_nonneg start here) (by omega)
      exact next.trans (congrArg some (by ring))

end Points

section Rules
variable (incoming existing : PrivateObservation)

theorem portalUserMarks_within : Within 100 (portalUserMarks incoming existing) :=
  within_if
    (within_if (within_objection (by decide) _)
      (within_if (within_credit (by decide) (by decide) _) (within_nil (by decide))))
    (within_nil (by decide))

theorem portalMarks_within : Within 0 (portalMarks incoming existing) :=
  within_if (within_objection (by decide) _) (within_nil (by decide))

theorem accountLevelMarks_within : Within 18 (accountLevelMarks incoming existing) :=
  within_if
    (within_if (within_objection (by decide) _)
      (within_if
        (within_if (within_credit (by decide) (by decide) _) (within_credit (by decide) (by decide) _))
        (within_if (within_credit (by decide) (by decide) _) (within_nil (by decide)))))
    (within_nil (by decide))

theorem masteryMarks_within : Within 14 (masteryMarks incoming existing) :=
  within_if
    (within_if (within_objection (by decide) _)
      (within_if (within_credit (by decide) (by decide) _)
        (within_if (within_credit (by decide) (by decide) _) (within_nil (by decide)))))
    (within_nil (by decide))

theorem championMarks_within : Within (3 + 14) (championMarks incoming existing) :=
  within_if (within_append (within_credit (by decide) (by decide) _) (masteryMarks_within incoming existing))
    (within_nil (by decide))

theorem leagueTierMarks_within : Within 10 (leagueTierMarks incoming existing) :=
  within_if (within_credit (by decide) (by decide) _) (within_nil (by decide))

theorem leaguePointsMarks_within : Within 10 (leaguePointsMarks incoming existing).1 := by
  unfold leaguePointsMarks
  dsimp only
  split_ifs
  · exact within_credit (by decide) (by decide) _
  · exact within_credit (by decide) (by decide) _
  · exact within_credit (by decide) (by decide) _
  · exact within_credit (by decide) (by decide) _
  · exact within_credit (by decide) (by decide) _
  · exact within_credit (by decide) (by decide) _
  · exact within_nil (by decide)

theorem platformMarks_within : Within 4 (platformMarks incoming existing) :=
  within_if (within_credit (by decide) (by decide) _) (within_nil (by decide))

theorem companionMarks_within : Within 62 (companionMarks incoming existing) :=
  within_if (within_credit (by omega) (by omega) _) (within_nil (by decide))

theorem partyMarks_within : Within (20 + 8) (partyMarks incoming existing) :=
  within_if
    (within_if
      (within_append (within_credit (by decide) (by decide) _)
        (within_if (within_credit (by decide) (by decide) _) (within_nil (by decide))))
      (within_credit (by decide) (by decide) _))
    (within_nil (by decide))

theorem timeMarks_within : Within 5 (timeMarks incoming existing) :=
  within_if (within_credit (by decide) (by decide) _)
    (within_if (within_credit (by decide) (by decide) _) (within_nil (by decide)))

theorem bundleMarks_within : Within 25 (bundleMarks incoming existing) :=
  within_if (within_credit (by decide) (by decide) _) (within_nil (by decide))

theorem identityMarks_within :
    Within (100 + 0 + 18 + (3 + 14) + 10 + 10 + 4 + 62 + (20 + 8) + 5 + 25) (identityMarks incoming existing) :=
  within_append (within_append (within_append (within_append (within_append (within_append (within_append
    (within_append (within_append (within_append (portalUserMarks_within incoming existing)
      (portalMarks_within incoming existing)) (accountLevelMarks_within incoming existing))
      (championMarks_within incoming existing)) (leagueTierMarks_within incoming existing))
      (leaguePointsMarks_within incoming existing)) (platformMarks_within incoming existing))
      (companionMarks_within incoming existing)) (partyMarks_within incoming existing))
      (timeMarks_within incoming existing)) (bundleMarks_within incoming existing)

end Rules

/-! ### No overflow -/

def IsSigned (bits : Nat) (n : Int) : Prop := -2 ^ (bits - 1) ≤ n ∧ n < 2 ^ (bits - 1)

/-- Fields of the types they are declared with. -/
structure PrivateObservation.Fits (observation : PrivateObservation) : Prop where
  match_id : IsSigned 64 observation.matchId
  private_slot : IsSigned 16 observation.privateSlot
  party_id : IsSigned 32 observation.partyId
  account_level : IsSigned 32 observation.accountLevel
  mastery_level : IsSigned 32 observation.masteryLevel
  league_tier : IsSigned 32 observation.leagueTier
  league_points : IsSigned 32 observation.leaguePoints
  champion_id : IsSigned 32 observation.championId
  portal_id : IsSigned 16 observation.portalId

theorem checked_difference {left right : Int} (leftFits : IsSigned 32 left) (rightFits : IsSigned 32 right)
    (leftPositive : 0 ≤ left) (rightPositive : 0 ≤ right) : checked 32 (left - right) = some (left - right) := by
  unfold IsSigned at leftFits rightFits
  rw [checked, if_pos]
  norm_num at leftFits rightFits ⊢
  omega

section Checked
variable {incoming existing : PrivateObservation}

theorem earlier_fits (one : incoming.Fits) (other : existing.Fits) : (earlier incoming existing).Fits := by
  unfold earlier
  split
  · exact other
  · exact one

theorem later_fits (one : incoming.Fits) (other : existing.Fits) : (later incoming existing).Fits := by
  unfold later
  split
  · exact one
  · exact other

variable (one : incoming.Fits) (other : existing.Fits)
include one other

theorem checkedAccountLevelMarks_eq :
    checkedAccountLevelMarks incoming existing = some (accountLevelMarks incoming existing) := by
  have before := (earlier_fits one other).account_level
  have after := (later_fits one other).account_level
  unfold checkedAccountLevelMarks accountLevelMarks
  by_cases known : 0 < (earlier incoming existing).accountLevel ∧ 0 < (later incoming existing).accountLevel
  · simp only [if_pos known, checked_difference before after known.1.le known.2.le,
      checked_difference after before known.2.le known.1.le, Option.bind_eq_bind, Option.bind_some]
    split_ifs <;> first | rfl | tauto
  · simp only [if_neg known]
    rfl

theorem checkedMasteryMarks_eq : checkedMasteryMarks incoming existing = some (masteryMarks incoming existing) := by
  have before := (earlier_fits one other).mastery_level
  have after := (later_fits one other).mastery_level
  unfold checkedMasteryMarks masteryMarks
  by_cases known : 0 < (earlier incoming existing).masteryLevel ∧ 0 < (later incoming existing).masteryLevel
  · simp only [if_pos known, checked_difference before after known.1.le known.2.le,
      checked_difference after before known.2.le known.1.le, Option.bind_eq_bind, Option.bind_some]
    split_ifs <;> first | rfl | tauto
  · simp only [if_neg known]
    rfl

theorem checkedChampionMarks_eq : checkedChampionMarks incoming existing = some (championMarks incoming existing) := by
  unfold checkedChampionMarks championMarks
  rw [checkedMasteryMarks_eq one other]
  split <;> rfl

theorem checkedLeaguePointsMarks_eq :
    checkedLeaguePointsMarks incoming existing = some (leaguePointsMarks incoming existing) := by
  unfold checkedLeaguePointsMarks leaguePointsMarks
  by_cases ranked : 0 < incoming.leagueTier ∧ 0 ≤ incoming.leaguePoints ∧ 0 ≤ existing.leaguePoints ∧
      incoming.leagueTier = existing.leagueTier
  · have first : 0 ≤ incoming.leaguePoints := ranked.2.1
    have second : 0 ≤ existing.leaguePoints := ranked.2.2.1
    have earliest : 0 ≤ (earlier incoming existing).leaguePoints := by
      unfold earlier
      split <;> assumption
    have latest : 0 ≤ (later incoming existing).leaguePoints := by
      unfold later
      split <;> assumption
    have absolute : checked 32 |incoming.leaguePoints - existing.leaguePoints| =
        some |incoming.leaguePoints - existing.leaguePoints| := by
      rcases abs_choice (incoming.leaguePoints - existing.leaguePoints) with same | swapped
      · rw [same]
        exact checked_difference one.league_points other.league_points first second
      · rw [swapped, neg_sub]
        exact checked_difference other.league_points one.league_points second first
    simp only [if_pos ranked, checked_difference one.league_points other.league_points first second, absolute,
      checked_difference (later_fits one other).league_points (earlier_fits one other).league_points latest earliest,
      Option.bind_eq_bind, Option.bind_some]
    rfl
  · simp only [if_neg ranked]
    rfl

theorem checkedScorePrivateIdentity_eq :
    checkedScorePrivateIdentity incoming existing = some (scorePrivateIdentity incoming existing) := by
  unfold checkedScorePrivateIdentity scorePrivateIdentity
  by_cases same : incoming.matchId = existing.matchId
  · rw [if_pos same, if_pos same]
  · have within := identityMarks_within incoming existing
    have positive : ∀ points ∈ (identityMarks incoming existing).map (·.points), 0 ≤ points := by
      intro points member
      obtain ⟨mark, inside, rfl⟩ := List.mem_map.mp member
      exact within.positive mark inside
    have small := within.total
    have total := checkedTotal_eq positive (le_refl 0) (by norm_num at small ⊢; omega)
    rw [zero_add] at total
    simp only [if_neg same, checkedAccountLevelMarks_eq one other, checkedChampionMarks_eq one other,
      checkedLeaguePointsMarks_eq one other, Option.bind_eq_bind, Option.bind_some]
    rw [← identityMarks, total]
    rfl

end Checked

/-! ### Either order -/

section Swapped
variable {incoming existing : PrivateObservation}

theorem wholeSeconds_swap : wholeSeconds incoming existing = wholeSeconds existing incoming := by
  rw [wholeSeconds, wholeSeconds, ← Int.natAbs_neg, neg_sub]

theorem sameChampion_swap : sameChampion incoming existing = sameChampion existing incoming := by
  rw [Bool.eq_iff_iff]
  simp only [sameChampion, Bool.and_eq_true, decide_eq_true_eq, beq_iff_eq]
  constructor <;> rintro ⟨known, same⟩ <;> exact ⟨same ▸ known, same.symm⟩

/-- A field that both have, and a condition on it. -/
theorem known_swap {left right : Int} (condition : Int → Prop) :
    (condition left ∧ left = right) ↔ (condition right ∧ right = left) := by
  constructor <;> rintro ⟨known, same⟩ <;> exact ⟨same ▸ known, same.symm⟩

theorem companions_swap (incomingParty : incoming.partyMemberIds.Nodup)
    (existingParty : existing.partyMemberIds.Nodup) : companions incoming existing = companions existing incoming := by
  have order : (incoming.partyMemberIds.filter (· ∈ existing.partyMemberIds)).Perm
      (existing.partyMemberIds.filter (· ∈ incoming.partyMemberIds)) := by
    rw [List.perm_ext_iff_of_nodup (incomingParty.filter _) (existingParty.filter _)]
    intro member
    simp only [List.mem_filter, decide_eq_true_eq, and_comm]
  exact order.length_eq

theorem portalUserMarks_swap : portalUserMarks incoming existing = portalUserMarks existing incoming := by
  have portal : (incoming.portalId = 0 ∨ existing.portalId = 0 ∨ incoming.portalId = existing.portalId) ↔
      (existing.portalId = 0 ∨ incoming.portalId = 0 ∨ existing.portalId = incoming.portalId) := by
    rw [@eq_comm _ incoming.portalId existing.portalId]
    tauto
  exact if_congr and_comm (if_congr ne_comm rfl (if_congr portal rfl rfl)) rfl

theorem portalMarks_swap : portalMarks incoming existing = portalMarks existing incoming := by
  refine if_congr ?_ rfl rfl
  rw [@ne_comm _ incoming.portalId existing.portalId]
  tauto

theorem leagueTierMarks_swap : leagueTierMarks incoming existing = leagueTierMarks existing incoming :=
  if_congr (known_swap fun tier => 0 < tier) rfl rfl

theorem platformMarks_swap : platformMarks incoming existing = platformMarks existing incoming := by
  refine if_congr ?_ rfl rfl
  constructor <;> rintro ⟨known, same⟩ <;> exact ⟨same ▸ known, same.symm⟩

theorem timeMarks_swap : timeMarks incoming existing = timeMarks existing incoming := by
  unfold timeMarks
  rw [wholeSeconds_swap]

theorem bundleMarks_swap : bundleMarks incoming existing = bundleMarks existing incoming := by
  have champion := @sameChampion_swap incoming existing
  refine if_congr ?_ rfl rfl
  rw [@wholeSeconds_swap incoming existing, champion]
  constructor
  · rintro ⟨near, level, low, sameLevel, played, mastery, sameMastery, platform, samePlatform, scope, otherScope⟩
    exact ⟨near, sameLevel ▸ level, sameLevel ▸ low, sameLevel.symm, played, sameMastery ▸ mastery, sameMastery.symm,
      samePlatform ▸ platform, samePlatform.symm, otherScope, scope⟩
  · rintro ⟨near, level, low, sameLevel, played, mastery, sameMastery, platform, samePlatform, scope, otherScope⟩
    exact ⟨near, sameLevel ▸ level, sameLevel ▸ low, sameLevel.symm, played, sameMastery ▸ mastery, sameMastery.symm,
      samePlatform ▸ platform, samePlatform.symm, otherScope, scope⟩

section
variable (apart : incoming.entryDatetime ≠ existing.entryDatetime)
include apart

theorem accountLevelMarks_swap : accountLevelMarks incoming existing = accountLevelMarks existing incoming := by
  unfold accountLevelMarks
  rw [earlier_swap apart, later_swap apart]
  by_cases same : incoming.accountLevel = existing.accountLevel
  · simp only [same]
  · simp only [if_neg same, if_neg (Ne.symm same)]

theorem masteryMarks_swap : masteryMarks incoming existing = masteryMarks existing incoming := by
  unfold masteryMarks
  rw [earlier_swap apart, later_swap apart]
  by_cases same : incoming.masteryLevel = existing.masteryLevel
  · simp only [same]
  · simp only [if_neg same, if_neg (Ne.symm same)]

theorem championMarks_swap : championMarks incoming existing = championMarks existing incoming := by
  unfold championMarks
  rw [sameChampion_swap, masteryMarks_swap apart]

theorem leaguePointsMarks_swap : leaguePointsMarks incoming existing = leaguePointsMarks existing incoming := by
  have ranked : (0 < incoming.leagueTier ∧ 0 ≤ incoming.leaguePoints ∧ 0 ≤ existing.leaguePoints ∧
      incoming.leagueTier = existing.leagueTier) ↔
      (0 < existing.leagueTier ∧ 0 ≤ existing.leaguePoints ∧ 0 ≤ incoming.leaguePoints ∧
        existing.leagueTier = incoming.leagueTier) := by
    constructor
    · rintro ⟨tier, points, others, same⟩
      exact ⟨same ▸ tier, others, points, same.symm⟩
    · rintro ⟨tier, points, others, same⟩
      exact ⟨same ▸ tier, others, points, same.symm⟩
  unfold leaguePointsMarks
  rw [earlier_swap apart, later_swap apart, abs_sub_comm incoming.leaguePoints existing.leaguePoints]
  exact if_congr ranked rfl rfl

theorem partyMarks_swap : partyMarks incoming existing = partyMarks existing incoming := by
  have session : ((leaguePointsMarks incoming existing).2 ∧ 0 < incoming.accountLevel ∧
      incoming.accountLevel = existing.accountLevel ∧ 0 < incoming.leagueTier ∧
      incoming.leagueTier = existing.leagueTier) ↔
      ((leaguePointsMarks existing incoming).2 ∧ 0 < existing.accountLevel ∧
        existing.accountLevel = incoming.accountLevel ∧ 0 < existing.leagueTier ∧
        existing.leagueTier = incoming.leagueTier) := by
    rw [leaguePointsMarks_swap apart]
    constructor
    · rintro ⟨points, level, sameLevel, tier, sameTier⟩
      exact ⟨points, sameLevel ▸ level, sameLevel.symm, sameTier ▸ tier, sameTier.symm⟩
    · rintro ⟨points, level, sameLevel, tier, sameTier⟩
      exact ⟨points, sameLevel ▸ level, sameLevel.symm, sameTier ▸ tier, sameTier.symm⟩
  unfold partyMarks
  rw [@wholeSeconds_swap incoming existing]
  exact if_congr (known_swap fun party => 0 < party)
    (if_congr Iff.rfl (congrArg _ (if_congr session rfl rfl)) rfl) rfl

/-- The rules give the same marks, the reasons among them. -/
theorem scorePrivateIdentity_swap (incomingParty : incoming.partyMemberIds.Nodup)
    (existingParty : existing.partyMemberIds.Nodup) :
    scorePrivateIdentity incoming existing = scorePrivateIdentity existing incoming := by
  have companion : companionMarks incoming existing = companionMarks existing incoming := by
    unfold companionMarks
    rw [companions_swap incomingParty existingParty]
  have marks : identityMarks incoming existing = identityMarks existing incoming := by
    unfold identityMarks
    rw [portalUserMarks_swap, portalMarks_swap, accountLevelMarks_swap apart, championMarks_swap apart,
      leagueTierMarks_swap, leaguePointsMarks_swap apart, platformMarks_swap, companion, partyMarks_swap apart,
      timeMarks_swap, bundleMarks_swap]
  unfold scorePrivateIdentity
  rw [marks]
  exact if_congr eq_comm rfl rfl

end

end Swapped

section
variable {incoming existing : PrivateObservation}

theorem scorePrivateIdentity_score (differ : incoming.matchId ≠ existing.matchId) :
    (scorePrivateIdentity incoming existing).score =
      if (scorePrivateIdentity incoming existing).hardConflict then 0
      else min 100 ((identityMarks incoming existing).map (·.points)).sum := by
  rw [scorePrivateIdentity, if_neg differ]

theorem scorePrivateIdentity_same (same : incoming.matchId = existing.matchId) :
    scorePrivateIdentity incoming existing =
      { score := 0, reasons := ["same_match_conflict"], hardConflict := true } := if_pos same

/-- A score lies between 0 and 100, and is 0 where there is a conflict. -/
theorem scorePrivateIdentity_range :
    0 ≤ (scorePrivateIdentity incoming existing).score ∧ (scorePrivateIdentity incoming existing).score ≤ 100 ∧
      ((scorePrivateIdentity incoming existing).hardConflict = true →
        (scorePrivateIdentity incoming existing).score = 0) := by
  by_cases same : incoming.matchId = existing.matchId
  · rw [scorePrivateIdentity_same same]
    exact ⟨le_refl 0, by decide, fun _ => rfl⟩
  · rw [scorePrivateIdentity_score same]
    cases (scorePrivateIdentity incoming existing).hardConflict with
    | true =>
        rw [if_pos rfl]
        exact ⟨le_refl 0, by decide, fun _ => rfl⟩
    | false =>
        rw [if_neg Bool.false_ne_true]
        have positive := (identityMarks_within incoming existing).nonneg
        exact ⟨le_min (by decide) positive, min_le_left _ _, fun conflict => by cases conflict⟩

end

theorem scorePrivateIdentity_sound (incoming existing : PrivateObservation) :
    (incoming.Fits → existing.Fits →
      checkedScorePrivateIdentity incoming existing = some (scorePrivateIdentity incoming existing)) ∧
    0 ≤ (scorePrivateIdentity incoming existing).score ∧ (scorePrivateIdentity incoming existing).score ≤ 100 ∧
    ((scorePrivateIdentity incoming existing).hardConflict = true →
      (scorePrivateIdentity incoming existing).score = 0) ∧
    (incoming.matchId = existing.matchId → (scorePrivateIdentity incoming existing).hardConflict = true) ∧
    (incoming.entryDatetime ≠ existing.entryDatetime → incoming.partyMemberIds.Nodup → existing.partyMemberIds.Nodup →
      scorePrivateIdentity incoming existing = scorePrivateIdentity existing incoming) := by
  obtain ⟨positive, most, conflicting⟩ := @scorePrivateIdentity_range incoming existing
  refine ⟨checkedScorePrivateIdentity_eq, positive, most, conflicting, ?_, scorePrivateIdentity_swap⟩
  intro same
  rw [scorePrivateIdentity_same same]

def firstSight : PrivateObservation :=
  { matchId := 1, privateSlot := 1, entryDatetime := 0, accountLevel := 30, leagueTier := 5, leaguePoints := 2147483647,
    winStatus := "Winner", partyMemberIds := [11, 12] }

def secondSight : PrivateObservation :=
  { matchId := 2, privateSlot := 3, entryDatetime := 60000000, accountLevel := 31, leagueTier := 5, leaguePoints := 0,
    winStatus := "Loser", partyMemberIds := [12] }

theorem scorePrivateIdentity_sound_sights :
    checkedScorePrivateIdentity firstSight secondSight = some (scorePrivateIdentity secondSight firstSight) := by
  have first : firstSight.Fits := by
    constructor <;> unfold IsSigned <;> decide
  have second : secondSight.Fits := by
    constructor <;> unfold IsSigned <;> decide
  obtain ⟨checked, -, -, -, -, swap⟩ := scorePrivateIdentity_sound firstSight secondSight
  rw [checked first second, swap (by decide) (by decide) (by decide)]

end PaladinsCat.PrivateIdentity
