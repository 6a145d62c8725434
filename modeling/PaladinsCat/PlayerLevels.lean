import PaladinsCat.JsValues
import PaladinsCat.Resolver

/-!
The level of a player by the total experience (`calculate_player_level`, normalizer.rs). Up to
level 50 a level costs more than the one before, and the costs are added up in a loop; from
there on each level costs the same, and the level is a quotient.
-/

namespace PaladinsCat.PlayerLevels

open Normalizer (i64Min i64Max)
open Resolver (toI32 i32Min i32Max)

/-! ### calculate_player_level -/

/-- The loop over the levels, whose costs are added to the threshold. -/
def climb (experience threshold : Int) : List Int → Int
  | [] => 50
  | level :: rest =>
      if experience < threshold + level * 20000 then level - 1
      else climb experience (threshold + level * 20000) rest

/-- `2..=50` -/
def levels : List Int := (List.range' 2 49).map Int.ofNat

def calculatePlayerLevel (totalXp : Binary64) : Option Int :=
  if !totalXp.isFinite || !totalXp.atLeast 0 then none
  else
    let experience := Binary64.saturate i64Min i64Max totalXp.floor
    if 25480000 ≤ experience then toI32 ((experience - 25480000) / 1000000 + 50)
    else some (climb experience 0 levels)

def positiveFloorI32 (value : Binary64) : Int :=
  if value.isFinite && value.above 0 then Binary64.saturate 0 i32Max value.floor else 0

def resolvePlayerLevel (totalXp : Option Binary64) (apiLevel : Binary64) : Int :=
  (totalXp.bind calculatePlayerLevel).getD (positiveFloorI32 apiLevel)

/-! ### Thresholds -/

/-- The experience that the levels from 2 on cost together. -/
def threshold (level : ℕ) : ℕ := 20000 * ∑ cost ∈ Finset.Icc 2 level, cost

/-- The levels up to 50 that some experience reaches. -/
def Reached (experience : ℕ) : Set ℕ := {level | 1 ≤ level ∧ level ≤ 50 ∧ threshold level ≤ experience}

theorem threshold_one : threshold 1 = 0 := rfl

theorem threshold_succ {level : ℕ} (one : 1 ≤ level) : threshold (level + 1) = threshold level + (level + 1) * 20000 := by
  unfold threshold
  rw [Finset.sum_Icc_succ_top (by omega), Nat.mul_add, Nat.mul_comm 20000 (level + 1)]

theorem threshold_closed {level : ℕ} (one : 1 ≤ level) : threshold level + 20000 = 10000 * (level * (level + 1)) := by
  induction level, one using Nat.le_induction with
  | base => rfl
  | succ level one ih =>
      rw [threshold_succ one, Nat.add_right_comm, ih]
      ring

theorem threshold_mono {low high : ℕ} (ordered : low ≤ high) : threshold low ≤ threshold high := by
  have subset : Finset.Icc 2 low ⊆ Finset.Icc 2 high := Finset.Icc_subset_Icc_right ordered
  exact Nat.mul_le_mul_left 20000 (Finset.sum_le_sum_of_subset subset)

theorem threshold_fifty : threshold 50 = 25480000 := rfl

/-- Between two thresholds stands the greatest level that is reached. -/
theorem greatest_of_between {experience level : ℕ} (one : 1 ≤ level) (fifty : level ≤ 50)
    (reached : threshold level ≤ experience) (next : level < 50 → experience < threshold (level + 1)) :
    IsGreatest (Reached experience) level := by
  refine ⟨⟨one, fifty, reached⟩, ?_⟩
  rintro other ⟨_, least, high⟩
  by_contra higher
  have below := next (by omega)
  have above := threshold_mono (show level + 1 ≤ other by omega)
  omega

/-- The loop stands at a threshold that is reached, with all higher levels still to come. -/
theorem climb_greatest {experience level count : ℕ} (one : 1 ≤ level) (last : level + count = 50)
    (reached : threshold level ≤ experience) :
    ∃ top : ℕ, climb experience (threshold level) ((List.range' (level + 1) count).map Int.ofNat) = top ∧
      IsGreatest (Reached experience) top := by
  induction count generalizing level with
  | zero =>
      obtain rfl : level = 50 := by omega
      exact ⟨50, rfl, greatest_of_between one le_rfl reached fun less => absurd less (by omega)⟩
  | succ count ih =>
      have step : (threshold level : Int) + Int.ofNat (level + 1) * 20000 = (threshold (level + 1) : ℕ) := by
        rw [threshold_succ one]
        push_cast
        rfl
      rw [List.range'_succ, List.map_cons, climb, step]
      by_cases below : experience < threshold (level + 1)
      · rw [if_pos (by exact_mod_cast below)]
        exact ⟨level, by simp, greatest_of_between one (by omega) reached fun _ => below⟩
      · rw [if_neg (by exact_mod_cast below)]
        exact ih (by omega) (by omega) (not_lt.mp below)

/-! ### Levels of whole numbers -/

section
variable {x y : ℕ}

theorem calculatePlayerLevel_natural (exact : x < 2 ^ 53) :
    calculatePlayerLevel (.ofRat x) =
      if 25480000 ≤ x then toI32 (((x - 25480000) / 1000000 + 50 : ℕ) : Int) else some (climb x 0 levels) := by
  -- below 2^53 a whole number is a double, and its floor is the number again
  have short : |(x : ℤ)| < 2 ^ 53 := by
    rw [abs_of_nonneg (Int.natCast_nonneg x)]
    exact_mod_cast exact
  have double : Binary64.ofRat (x : ℚ) = .finite x := by
    have whole := Binary64.ofRat_int short
    simpa using whole
  have floor : Binary64.saturate i64Min i64Max (Binary64.floor (.finite (x : ℚ))) = x := by
    have integer : Binary64.floor (.finite (x : ℚ)) = .finite ((x : ℤ) : ℚ) := by
      simp [Binary64.floor]
    rw [integer]
    exact Binary64.saturate_int (by unfold i64Min; omega) (by unfold i64Max; omega)
  have present : (!Binary64.isFinite (.finite (x : ℚ)) || !Binary64.atLeast 0 (.finite (x : ℚ))) = false := by
    simp [Binary64.isFinite, Binary64.atLeast]
  simp only [calculatePlayerLevel, double, present, floor, Bool.false_eq_true, if_false]
  by_cases high : 25480000 ≤ x
  · rw [if_pos (by exact_mod_cast high), if_pos high]
    congr 1
    omega
  · rw [if_neg (by exact_mod_cast high), if_neg high]

theorem level_below (exact : x < 2 ^ 53) (low : x < 26480000) :
    ∃ level : ℕ, calculatePlayerLevel (.ofRat x) = some (level : Int) ∧ IsGreatest (Reached x) level := by
  rw [calculatePlayerLevel_natural exact]
  by_cases high : 25480000 ≤ x
  · have quotient : (x - 25480000) / 1000000 + 50 = 50 := by omega
    rw [if_pos high, quotient]
    exact ⟨50, rfl, greatest_of_between (by omega) le_rfl (threshold_fifty ▸ high) fun less => absurd less (by omega)⟩
  · obtain ⟨level, climbed, greatest⟩ := @climb_greatest x 1 49 le_rfl rfl (Nat.zero_le x)
    exact ⟨level, by rw [if_neg high]; exact congrArg some climbed, greatest⟩

theorem level_above (exact : x < 2 ^ 53) (high : 25480000 ≤ x) :
    calculatePlayerLevel (.ofRat x) = toI32 (50 + (x - 25480000) / 1000000 : ℕ) := by
  rw [calculatePlayerLevel_natural exact, if_pos high, Nat.add_comm 50]

theorem toI32_natural (n : ℕ) : toI32 n = if (n : Int) ≤ i32Max then some (n : Int) else none := by
  have low : i32Min ≤ n := le_trans (by decide) (Int.natCast_nonneg n)
  simp only [toI32, low, true_and]

theorem level_none_iff (exact : x < 2 ^ 53) :
    calculatePlayerLevel (.ofRat x) = none ↔ i32Max < (50 + (x - 25480000) / 1000000 : ℕ) := by
  by_cases high : 25480000 ≤ x
  · rw [level_above exact high, toI32_natural]
    split_ifs with fits
    · exact iff_of_false (by simp) (not_lt.mpr fits)
    · exact iff_of_true rfl (not_le.mp fits)
  · obtain ⟨level, found, _⟩ := level_below exact (by omega)
    have small : 50 + (x - 25480000) / 1000000 = 50 := by omega
    rw [found, small]
    exact iff_of_false (by simp) (by decide)

/-- Above the switch a level is greater than each one that the loop finds. -/
theorem level_mono (exact : y < 2 ^ 53) (ordered : x ≤ y) {higher : Int}
    (found : calculatePlayerLevel (.ofRat y) = some higher) :
    ∃ level, calculatePlayerLevel (.ofRat x) = some level ∧ level ≤ higher := by
  -- up to the first level above the switch both levels are greatest ones
  by_cases low : y < 26480000
  · obtain ⟨above, same, greatest⟩ := level_below exact low
    obtain ⟨level, calculated, least⟩ := level_below (x := x) (by omega) (by omega)
    obtain ⟨one, fifty, reached⟩ := least.1
    have ordered : level ≤ above := greatest.2 ⟨one, fifty, reached.trans ordered⟩
    rw [same] at found
    refine ⟨level, calculated, ?_⟩
    rw [← Option.some.inj found]
    exact_mod_cast ordered
  · rw [level_above exact (by omega), toI32_natural] at found
    split_ifs at found with fits
    obtain rfl := Option.some.inj found
    clear found
    have small : x < 2 ^ 53 := lt_of_le_of_lt ordered exact
    by_cases below : x < 25480000
    · obtain ⟨level, calculated, greatest⟩ := level_below small (by omega)
      have fifty : level ≤ 50 + (y - 25480000) / 1000000 := le_trans greatest.1.2.1 (Nat.le_add_right _ _)
      exact ⟨level, calculated, by exact_mod_cast fifty⟩
    · have quotient : (x - 25480000) / 1000000 ≤ (y - 25480000) / 1000000 := Nat.div_le_div_right (by omega)
      have less : ((50 + (x - 25480000) / 1000000 : ℕ) : Int) ≤ (50 + (y - 25480000) / 1000000 : ℕ) := by
        exact_mod_cast Nat.add_le_add_left quotient 50
      rw [level_above small (not_lt.mp below), toI32_natural, if_pos (less.trans fits)]
      exact ⟨_, rfl, less⟩

end

/-- The loop and the quotient give the level by the thresholds, and agree where they meet. -/
theorem player_level_from_experience (x y : ℕ) (ordered : x ≤ y) (exact : y < 2 ^ 53) :
    (∀ higher, calculatePlayerLevel (.ofRat y) = some higher →
      ∃ level, calculatePlayerLevel (.ofRat x) = some level ∧ level ≤ higher) ∧
    (x < 26480000 →
      ∃ level : ℕ, calculatePlayerLevel (.ofRat x) = some (level : Int) ∧ IsGreatest (Reached x) level) ∧
    (25480000 ≤ x → (50 + (x - 25480000) / 1000000 : ℕ) ≤ i32Max →
      calculatePlayerLevel (.ofRat x) = some ((50 + (x - 25480000) / 1000000 : ℕ) : Int)) ∧
    (calculatePlayerLevel (.ofRat x) = none ↔ i32Max < (50 + (x - 25480000) / 1000000 : ℕ)) := by
  have small : x < 2 ^ 53 := lt_of_le_of_lt ordered exact
  refine ⟨fun higher => level_mono exact ordered, level_below small, fun high fits => ?_, level_none_iff small⟩
  rw [level_above small high, toI32_natural, if_pos fits]

theorem switch_is_smooth :
    (∀ higher, calculatePlayerLevel (.ofRat ((25480000 : ℕ) : ℚ)) = some higher →
      ∃ level, calculatePlayerLevel (.ofRat ((25479999 : ℕ) : ℚ)) = some level ∧ level ≤ higher) ∧
    calculatePlayerLevel (.ofRat ((25480000 : ℕ) : ℚ)) = some 50 :=
  ⟨(player_level_from_experience 25479999 25480000 (by decide) (by decide)).1,
    (player_level_from_experience 25480000 25480000 (by decide) (by decide)).2.2.1 (by decide) (by decide)⟩

end PaladinsCat.PlayerLevels
