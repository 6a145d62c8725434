import PaladinsCat.OrderStatistics

/-!
The hourly statistics of the performance metrics (workers/projections.rs for the ranked queues,
workers/casual_performance.rs for casual ones): what the refresh selects from the histogram. The
two statements differ in their keys and in how a mode is rounded. Values are exact.
-/

namespace PaladinsCat.PerformanceStats

open OrderStatistics

/-- A bucket of the histogram. -/
structure HistogramRow (κ : Type) where
  key : κ
  value : ℚ
  sampleCount : ℤ

/-- PostgreSQL's `round` of a numeric, away from zero where it is halfway. -/
def roundTo (digits : ℕ) (value : ℚ) : ℚ :=
  let units : ℚ := ⌊|value| * 10 ^ digits + 1 / 2⌋ / 10 ^ digits
  if value < 0 then -units else units

structure MetricStats (κ : Type) where
  key : κ
  minValue : ℚ
  maxValue : ℚ
  meanValue : ℚ
  medianValue : ℚ
  modeValue : ℚ
  p10Value : ℚ
  p25Value : ℚ
  p75Value : ℚ
  p90Value : ℚ
  sampleSize : ℤ

section
variable {κ : Type} [DecidableEq κ]

/-! ### The refresh -/

def histogram (rows : List (HistogramRow κ)) : List (HistogramRow κ) :=
  rows.filter fun row => decide (0 < row.sampleCount)

/-- The rows that a window or a group of a key is made of. -/
def partitionOf (rows : List (HistogramRow κ)) (key : κ) : List (HistogramRow κ) :=
  (histogram rows).filter fun row => decide (row.key = key)

def sampleSize (rows : List (HistogramRow κ)) : ℤ := (rows.map (·.sampleCount)).sum

/-- `sum(sample_count) OVER(.. ORDER BY value)` -/
def cumulativeCount (part : List (HistogramRow κ)) (value : ℚ) : ℤ :=
  sampleSize (part.filter fun row => decide (row.value ≤ value))

/-- `min(value) FILTER(WHERE cumulative>place)` -/
def passing (part : List (HistogramRow κ)) (place : ℤ) : Option ℚ :=
  ((part.filter fun row => decide (place < cumulativeCount part row.value)).map (·.value)).min?

def interpolated (part : List (HistogramRow κ)) (p : ℚ) : Option ℚ := do
  let rank := ((sampleSize part : ℚ) - 1) * p
  let lower ← passing part ⌊rank⌋
  let upper ← passing part ⌈rank⌉
  return lower + (upper - lower) * (rank - ⌊rank⌋)

/-- `ORDER BY mode_count DESC,mode_value` -/
def modeFirst (left right : ℚ × ℤ) : Prop := right.2 < left.2 ∨ left.2 = right.2 ∧ left.1 ≤ right.1

instance : DecidableRel modeFirst := fun _ _ => inferInstanceAs (Decidable (_ ∨ _))

/-- The rounded values with their counts. -/
def modeCounts (digits : ℕ) (part : List (HistogramRow κ)) : List (ℚ × ℤ) :=
  (part.map fun row => roundTo digits row.value).dedup.map fun value =>
    (value, sampleSize (part.filter fun row => decide (roundTo digits row.value = value)))

def modeValue (digits : ℕ) (part : List (HistogramRow κ)) : Option ℚ :=
  ((modeCounts digits part).insertionSort modeFirst).head?.map Prod.fst

def metricStats (digits : ℕ) (key : κ) (part : List (HistogramRow κ)) : Option (MetricStats κ) := do
  let minimum ← (part.map (·.value)).min?
  let maximum ← (part.map (·.value)).max?
  let median ← interpolated part (50 / 100)
  let mode ← modeValue digits part
  let p10 ← interpolated part (10 / 100)
  let p25 ← interpolated part (25 / 100)
  let p75 ← interpolated part (75 / 100)
  let p90 ← interpolated part (90 / 100)
  return {
    key
    minValue := roundTo 2 minimum
    maxValue := roundTo 2 maximum
    meanValue := roundTo 2 ((part.map fun row => row.value * (row.sampleCount : ℚ)).sum / sampleSize part)
    medianValue := roundTo 2 median
    modeValue := roundTo 2 mode
    p10Value := roundTo 2 p10
    p25Value := roundTo 2 p25
    p75Value := roundTo 2 p75
    p90Value := roundTo 2 p90
    sampleSize := sampleSize part }

/-- The rows that are inserted, one for each key; a row with a null in it would be refused. -/
def refresh (digits : κ → ℕ) (rows : List (HistogramRow κ)) : List (Option (MetricStats κ)) :=
  ((histogram rows).map (·.key)).dedup.map fun key => metricStats (digits key) key (partitionOf rows key)

end

/-! ### PERFORMANCE_METRIC_STATS_REFRESH_SQL -/

structure RankedKey where
  queueId : ℤ
  roleId : ℤ
  metric : String
  deriving DecidableEq

def modeDigits (key : RankedKey) : ℕ := if key.metric = "kda" then 1 else 0

def performanceMetricStats (rows : List (HistogramRow RankedKey)) : List (Option (MetricStats RankedKey)) :=
  refresh modeDigits rows

/-! ### CASUAL_PERFORMANCE_METRIC_STATS_REFRESH_SQL -/

structure CasualKey where
  roleId : ℤ
  metric : String
  deriving DecidableEq

def casualModeDigits (_ : CasualKey) : ℕ := 0

def casualPerformanceMetricStats (rows : List (HistogramRow CasualKey)) : List (Option (MetricStats CasualKey)) :=
  refresh casualModeDigits rows

/-! ### The samples of a key -/

section
variable {κ : Type}

def bucketOf (row : HistogramRow κ) : ℚ × ℕ := (row.value, row.sampleCount.toNat)

def Sampled (part : List (HistogramRow κ)) : Prop := ∀ row ∈ part, 0 < row.sampleCount

/-- Each value as often as it was sampled, in increasing order. -/
def sortedSamples (part : List (HistogramRow κ)) : List ℚ := (expand (part.map bucketOf)).insertionSort (· ≤ ·)

variable {part : List (HistogramRow κ)}

theorem sortedSamples_perm : (sortedSamples part).Perm (expand (part.map bucketOf)) := List.perm_insertionSort _ _

theorem sortedSamples_increasing : (sortedSamples part).Pairwise (· ≤ ·) := List.pairwise_insertionSort _ _

variable (sampled : Sampled part)
include sampled

theorem Sampled.filter (keeps : HistogramRow κ → Bool) : Sampled (part.filter keeps) :=
  fun row member => sampled row (List.mem_filter.mp member).1

theorem sampleSize_eq : sampleSize part = ((part.map fun row => (bucketOf row).2).sum : ℕ) := by
  unfold sampleSize
  induction part with
  | nil => rfl
  | cons row part ih =>
      obtain ⟨positive, others⟩ := List.forall_mem_cons.mp sampled
      rw [List.map_cons, List.map_cons, List.sum_cons, List.sum_cons, ih others, bucketOf]
      push_cast
      omega

/-- Counted sums are those of the repeated values. -/
theorem sampleSize_filter (accepts : ℚ → Bool) :
    sampleSize (part.filter fun row => accepts row.value) = (expand (part.map bucketOf)).countP accepts := by
  rw [sampleSize_eq (sampled.filter _), countP_expand, List.filter_map, List.map_map]
  rfl

theorem sampleSize_length : sampleSize part = (sortedSamples part).length := by
  have counted := sampleSize_filter sampled fun _ => true
  rw [List.filter_true, List.countP_true] at counted
  rw [counted, sortedSamples_perm.length_eq]

theorem mem_sortedSamples {value : ℚ} : value ∈ part.map (·.value) ↔ value ∈ sortedSamples part := by
  rw [sortedSamples_perm.mem_iff, mem_expand]
  constructor
  · intro member
    obtain ⟨row, inside, rfl⟩ := List.mem_map.mp member
    have positive := sampled row inside
    exact ⟨bucketOf row, List.mem_map_of_mem inside, rfl, by simp only [bucketOf]; omega⟩
  · rintro ⟨bucket, member, rfl, -⟩
    obtain ⟨row, inside, rfl⟩ := List.mem_map.mp member
    exact List.mem_map_of_mem inside

theorem cumulativeCount_eq (value : ℚ) : cumulativeCount part value = cumulative (sortedSamples part) value := by
  rw [cumulativeCount, sampleSize_filter sampled fun other => decide (other ≤ value),
    cumulative_of_perm sortedSamples_perm]
  rfl

/-- The window's cumulative counts find the element at a place. -/
theorem passing_eq {place : ℕ} (inside : place < (sortedSamples part).length) :
    passing part place = some (sortedSamples part)[place] := by
  have windows : ∀ row : HistogramRow κ,
      decide ((place : ℤ) < cumulativeCount part row.value) =
        decide (place < cumulative (sortedSamples part) row.value) := by
    intro row
    rw [cumulativeCount_eq sampled]
    exact decide_eq_decide.mpr Int.ofNat_lt
  rw [← min_passing sortedSamples_increasing (fun value => mem_sortedSamples sampled) inside, passing, List.filter_map]
  congr 2
  exact List.filter_congr fun row _ => windows row

theorem interpolated_eq (present : part ≠ []) {p : ℚ} (low : 0 ≤ p) (high : p ≤ 1) :
    interpolated part p = some (percentileCont p (sortedSamples part)) := by
  have size := sampleSize_length sampled
  have positive : 0 < (sortedSamples part).length := by
    obtain ⟨row, rest, rfl⟩ := List.exists_cons_of_ne_nil present
    exact List.length_pos_of_mem ((mem_sortedSamples sampled).mp List.mem_cons_self)
  obtain ⟨lowStart, highStart, lowEnd, highEnd⟩ := rank_inside low high positive
  have rank : ((sampleSize part : ℚ) - 1) * p = (((sortedSamples part).length : ℚ) - 1) * p := by
    rw [size]
    push_cast
    rfl
  have lower : passing part ⌊(((sortedSamples part).length : ℚ) - 1) * p⌋ =
      some ((sortedSamples part).getD ⌊(((sortedSamples part).length : ℚ) - 1) * p⌋.toNat 0) := by
    obtain ⟨place, floor⟩ := Int.eq_ofNat_of_zero_le lowStart
    rw [floor, Int.toNat_natCast, List.getD_eq_getElem _ _ (by omega)]
    exact passing_eq sampled (by omega)
  have upper : passing part ⌈(((sortedSamples part).length : ℚ) - 1) * p⌉ =
      some ((sortedSamples part).getD ⌈(((sortedSamples part).length : ℚ) - 1) * p⌉.toNat 0) := by
    obtain ⟨place, ceil⟩ := Int.eq_ofNat_of_zero_le highStart
    rw [ceil, Int.toNat_natCast, List.getD_eq_getElem _ _ (by omega)]
    exact passing_eq sampled (by omega)
  simp only [interpolated, rank, lower, upper, Option.bind_eq_bind, Option.bind_some, percentileCont]
  rfl

end

/-! ### Modes -/

/-- The smallest of the most frequent values. -/
def IsMode (values : List ℚ) (mode : ℚ) : Prop :=
  mode ∈ values ∧ ∀ value ∈ values,
    values.count value ≤ values.count mode ∧ (values.count value = values.count mode → mode ≤ value)

instance : Std.Total modeFirst := by
  constructor
  intro left right
  unfold modeFirst
  rcases lt_trichotomy left.2 right.2 with fewer | same | more
  · exact .inr (.inl fewer)
  · rcases le_total left.1 right.1 with below | above
    · exact .inl (.inr ⟨same, below⟩)
    · exact .inr (.inr ⟨same.symm, above⟩)
  · exact .inl (.inl more)

instance : IsTrans (ℚ × ℤ) modeFirst := by
  constructor
  rintro first second third (more | ⟨same, below⟩) (less | ⟨equal, under⟩)
  · exact .inl (less.trans more)
  · exact .inl (equal ▸ more)
  · exact .inl (same ▸ less)
  · exact .inr ⟨same.trans equal, below.trans under⟩

section
variable {κ : Type} {part : List (HistogramRow κ)}

/-- What `DISTINCT ON` keeps comes before all others. -/
theorem first_of_sorted {counts : List (ℚ × ℤ)} (some_ : counts ≠ []) :
    ∃ first ∈ counts, (counts.insertionSort modeFirst).head? = some first ∧
      ∀ other ∈ counts, modeFirst first other := by
  have order := List.perm_insertionSort modeFirst counts
  cases sorted : counts.insertionSort modeFirst with
  | nil =>
      rw [sorted] at order
      exact absurd order.symm.eq_nil some_
  | cons first rest =>
      have before := List.pairwise_insertionSort modeFirst counts
      rw [sorted] at order before
      refine ⟨first, order.mem_iff.mp List.mem_cons_self, rfl, fun other member => ?_⟩
      rcases List.mem_cons.mp (order.mem_iff.mpr member) with rfl | later
      · exact .inr ⟨rfl, le_refl _⟩
      · exact (List.pairwise_cons.mp before).1 other later

variable (sampled : Sampled part)
include sampled

theorem modeCount_eq (digits : ℕ) (value : ℚ) :
    sampleSize (part.filter fun row => decide (roundTo digits row.value = value)) =
      ((sortedSamples part).map (roundTo digits)).count value := by
  rw [sampleSize_filter sampled fun other => decide (roundTo digits other = value), ← sortedSamples_perm.countP_eq,
    List.count, List.countP_map]
  congr 2

theorem modeValue_eq (digits : ℕ) (present : part ≠ []) :
    ∃ mode, modeValue digits part = some mode ∧ IsMode ((sortedSamples part).map (roundTo digits)) mode := by
  have members : ∀ entry, entry ∈ modeCounts digits part ↔ entry.1 ∈ (sortedSamples part).map (roundTo digits) ∧
      entry.2 = ((sortedSamples part).map (roundTo digits)).count entry.1 := by
    rintro ⟨value, count⟩
    have rounded : value ∈ part.map (fun row => roundTo digits row.value) ↔
        value ∈ (sortedSamples part).map (roundTo digits) := by
      simp only [List.mem_map, ← mem_sortedSamples sampled, exists_exists_and_eq_and]
    rw [modeCounts, List.mem_map]
    constructor
    · rintro ⟨other, listed, same⟩
      obtain ⟨rfl, rfl⟩ := Prod.mk.inj same
      exact ⟨rounded.mp (List.mem_dedup.mp listed), modeCount_eq sampled digits _⟩
    · rintro ⟨inside, counted⟩
      exact ⟨value, List.mem_dedup.mpr (rounded.mpr inside), by rw [modeCount_eq sampled, ← counted]⟩
  have some_ : modeCounts digits part ≠ [] := by
    obtain ⟨row, rest, rfl⟩ := List.exists_cons_of_ne_nil present
    simp [modeCounts]
  obtain ⟨first, member, head, before⟩ := first_of_sorted some_
  obtain ⟨inside, count⟩ := (members first).mp member
  refine ⟨first.1, by rw [modeValue, head]; rfl, inside, fun value listed => ?_⟩
  have order := before (value, ((sortedSamples part).map (roundTo digits)).count value) ((members _).mpr ⟨listed, rfl⟩)
  rw [modeFirst, count] at order
  rcases order with more | ⟨same, below⟩
  · have fewer := Int.ofNat_lt.mp more
    exact ⟨fewer.le, fun same => absurd same fewer.ne⟩
  · exact ⟨(Int.ofNat.inj same).ge, fun _ => below⟩

end

/-! ### What is inserted -/

section
variable {κ : Type} [DecidableEq κ] (digits : κ → ℕ) (rows : List (HistogramRow κ))

/-- Each value of a key, repeated as often as it was sampled. -/
def samples (key : κ) : List ℚ := expand ((rows.filter fun row => decide (row.key = key)).map bucketOf)

/-- The statistics of the repeated values, rounded to two decimals. -/
structure Exact (stats : MetricStats κ) : Prop where
  p10 : stats.p10Value = roundTo 2 (percentileCont (10 / 100) ((samples rows stats.key).insertionSort (· ≤ ·)))
  p25 : stats.p25Value = roundTo 2 (percentileCont (25 / 100) ((samples rows stats.key).insertionSort (· ≤ ·)))
  median : stats.medianValue = roundTo 2 (percentileCont (50 / 100) ((samples rows stats.key).insertionSort (· ≤ ·)))
  p75 : stats.p75Value = roundTo 2 (percentileCont (75 / 100) ((samples rows stats.key).insertionSort (· ≤ ·)))
  p90 : stats.p90Value = roundTo 2 (percentileCont (90 / 100) ((samples rows stats.key).insertionSort (· ≤ ·)))
  mode : ∃ mode, stats.modeValue = roundTo 2 mode ∧
    IsMode ((samples rows stats.key).map (roundTo (digits stats.key))) mode

/-- One row without a null for each key that was sampled. -/
def Refreshed (inserted : List (Option (MetricStats κ))) : Prop :=
  ∃ stats : List (MetricStats κ), inserted = stats.map some ∧ (stats.map (·.key)).Nodup ∧
    (∀ key, key ∈ stats.map (·.key) ↔ samples rows key ≠ []) ∧ ∀ row ∈ stats, Exact digits rows row

variable {rows}

theorem samples_eq (key : κ) : samples rows key = expand ((partitionOf rows key).map bucketOf) := by
  unfold samples partitionOf histogram
  induction rows with
  | nil => rfl
  | cons row rows ih =>
      by_cases here : row.key = key
      · by_cases sampled : 0 < row.sampleCount
        · simp [here, sampled, expand_cons, ih]
        · have none : row.sampleCount.toNat = 0 := by omega
          simp [here, sampled, expand_cons, bucketOf, none, ih]
      · by_cases sampled : 0 < row.sampleCount
        · simp [here, sampled, ih]
        · simp [here, sampled, ih]

theorem sampled_partitionOf (key : κ) : Sampled (partitionOf rows key) := by
  intro row member
  have kept := (List.mem_filter.mp (List.mem_filter.mp member).1).2
  simpa using kept

theorem partitionOf_ne_nil {key : κ} : partitionOf rows key ≠ [] ↔ key ∈ (histogram rows).map (·.key) := by
  rw [List.mem_map, partitionOf, ne_eq, List.filter_eq_nil_iff]
  simp

theorem samples_ne_nil {key : κ} : samples rows key ≠ [] ↔ key ∈ (histogram rows).map (·.key) := by
  rw [← partitionOf_ne_nil, samples_eq, ← not_iff_not, not_not, not_not]
  constructor
  · intro nothing
    by_contra present
    obtain ⟨row, rest, same⟩ := List.exists_cons_of_ne_nil present
    have value := (mem_sortedSamples (sampled_partitionOf key)).mp (List.mem_map_of_mem (same ▸ List.mem_cons_self))
    have inside := sortedSamples_perm.mem_iff.mp value
    rw [nothing] at inside
    cases inside
  · intro nothing
    rw [nothing]
    rfl

theorem isMode_of_perm {values others : List ℚ} (order : values.Perm others) {mode : ℚ} (holds : IsMode values mode) :
    IsMode others mode := by
  obtain ⟨member, most⟩ := holds
  refine ⟨order.mem_iff.mp member, fun value inside => ?_⟩
  rw [← order.count_eq, ← order.count_eq]
  exact most value (order.mem_iff.mpr inside)

theorem metricStats_exact {key : κ} (present : partitionOf rows key ≠ []) :
    ∃ stats, metricStats (digits key) key (partitionOf rows key) = some stats ∧ stats.key = key ∧
      Exact digits rows stats := by
  have sampled := @sampled_partitionOf κ _ rows key
  have percentile := fun p low high => @interpolated_eq κ (partitionOf rows key) sampled present p low high
  obtain ⟨mode, found, most⟩ := modeValue_eq sampled (digits key) present
  obtain ⟨minimum, least⟩ : ∃ minimum, ((partitionOf rows key).map (·.value)).min? = some minimum :=
    Option.ne_none_iff_exists'.mp fun none => present (List.map_eq_nil_iff.mp (List.min?_eq_none_iff.mp none))
  obtain ⟨maximum, greatest⟩ : ∃ maximum, ((partitionOf rows key).map (·.value)).max? = some maximum :=
    Option.ne_none_iff_exists'.mp fun none => present (List.map_eq_nil_iff.mp (List.max?_eq_none_iff.mp none))
  have sorted : (samples rows key).insertionSort (· ≤ ·) = sortedSamples (partitionOf rows key) := by
    rw [samples_eq]
    rfl
  have order : ((sortedSamples (partitionOf rows key)).map (roundTo (digits key))).Perm
      ((samples rows key).map (roundTo (digits key))) := by
    rw [samples_eq]
    exact sortedSamples_perm.map _
  simp only [metricStats, least, greatest, found, percentile (50 / 100) (by norm_num) (by norm_num),
    percentile (10 / 100) (by norm_num) (by norm_num), percentile (25 / 100) (by norm_num) (by norm_num),
    percentile (75 / 100) (by norm_num) (by norm_num), percentile (90 / 100) (by norm_num) (by norm_num),
    Option.bind_eq_bind, Option.bind_some]
  refine ⟨_, rfl, rfl, ?_⟩
  constructor
  · rw [sorted]
  · rw [sorted]
  · rw [sorted]
  · rw [sorted]
  · rw [sorted]
  · exact ⟨mode, rfl, isMode_of_perm order most⟩

theorem refresh_exact : Refreshed digits rows (refresh digits rows) := by
  have each : ∀ keys : List κ, (∀ key ∈ keys, partitionOf rows key ≠ []) →
      ∃ stats : List (MetricStats κ),
        (keys.map fun key => metricStats (digits key) key (partitionOf rows key)) = stats.map some ∧
        stats.map (·.key) = keys ∧ ∀ row ∈ stats, Exact digits rows row := by
    intro keys present
    induction keys with
    | nil => exact ⟨[], rfl, rfl, by simp⟩
    | cons key keys ih =>
        obtain ⟨here, later⟩ := List.forall_mem_cons.mp present
        obtain ⟨row, inserted, same, exact_⟩ := metricStats_exact digits here
        obtain ⟨stats, others, names, exacts⟩ := ih later
        exact ⟨row :: stats, by rw [List.map_cons, inserted, others, List.map_cons],
          by rw [List.map_cons, same, names], List.forall_mem_cons.mpr ⟨exact_, exacts⟩⟩
  obtain ⟨stats, inserted, names, exacts⟩ := each ((histogram rows).map (·.key)).dedup fun key member =>
    partitionOf_ne_nil.mpr (List.mem_dedup.mp member)
  refine ⟨stats, inserted, names ▸ List.nodup_dedup _, fun key => ?_, exacts⟩
  rw [names, List.mem_dedup, samples_ne_nil]

end

/-- Both refreshes insert the percentiles and modes of the repeated values. -/
theorem metric_stats_exact :
    (∀ rows, Refreshed modeDigits rows (performanceMetricStats rows)) ∧
      ∀ rows, Refreshed casualModeDigits rows (casualPerformanceMetricStats rows) :=
  ⟨fun _ => refresh_exact modeDigits, fun _ => refresh_exact casualModeDigits⟩

end PaladinsCat.PerformanceStats
