import PaladinsCat.KeyPool
import PaladinsCat.Text

/-!
Rate limits over Redis (`check_rate_limit_at`, cache.rs). One script counts a call, reads what is
left of the counter's time and gives a counter without a time one; the reset time is made of the
reply and the caller's clock. Both clocks are one here, in milliseconds, and Redis answers.
-/

namespace PaladinsCat.RateLimits

open KeyPool (u64Max saturatingAdd)

/-! ### Redis -/

structure Counter where
  value : Nat
  expiresAt : Option Nat
  deriving DecidableEq

/-- The key as a command finds it. In the very millisecond in which it expires it may be there or not. -/
def live (grace : Bool) (now : Nat) (key : Option Counter) : Option Counter :=
  key.filter fun counter => counter.expiresAt.all fun expiry => decide (now < expiry) || (grace && now == expiry)

def incr : Option Counter → Counter
  | none => ⟨1, none⟩
  | some counter => { counter with value := counter.value + 1 }

def pttl (now : Nat) (counter : Counter) : Int :=
  match counter.expiresAt with
  | none => -1
  | some expiry => expiry - now

def expire (now seconds : Nat) (counter : Counter) : Counter := { counter with expiresAt := some (now + seconds * 1000) }

/-- The script: the replies of INCR and PTTL, and the key that it leaves. -/
def script (now ttlSeconds : Nat) (key : Option Counter) : (Nat × Int) × Counter :=
  let counter := incr key
  let ttl := pttl now counter
  ((counter.value, ttl), if ttl = -1 then expire now ttlSeconds counter else counter)

/-! ### check_rate_limit_at -/

structure RateLimitResult where
  remaining : Nat
  total : Nat
  resetAtMs : Nat
  allowed : Bool
  backendAvailable : Bool
  deriving DecidableEq

/-- The arguments that stay the same from call to call. -/
structure Limiter where
  key : String
  limit : Nat
  windowMs : Nat
  failOpen : Bool

/-- `div_ceil` -/
def divCeil (value divisor : Nat) : Nat := (value + divisor - 1) / divisor

namespace Limiter

variable (limiter : Limiter) (grace : Bool)

def unavailable (now : Nat) : RateLimitResult where
  remaining := if limiter.failOpen then limiter.limit else 0
  total := limiter.limit
  resetAtMs := saturatingAdd u64Max now limiter.windowMs
  allowed := limiter.failOpen
  backendAvailable := false

def ttlSeconds : Nat := saturatingAdd u64Max (divCeil limiter.windowMs 1000) 1

def disabled : Bool := Text.trim limiter.key == "" || limiter.limit == 0 || limiter.windowMs == 0

def checkRateLimitAt (now : Nat) (redis : Option Counter) : RateLimitResult × Option Counter :=
  if limiter.disabled then (limiter.unavailable now, redis)
  else
    let ((current, currentTtl), counter) := script now limiter.ttlSeconds (live grace now redis)
    let actualTtl := if 0 < currentTtl then currentTtl.toNat else limiter.windowMs
    ({ remaining := limiter.limit - current
       total := limiter.limit
       resetAtMs := saturatingAdd u64Max now actualTtl
       allowed := decide (current ≤ limiter.limit)
       backendAvailable := true }, some counter)

/-! ### Lifetimes of the counter -/

/-- A call, with the key that it found and the key that it left. -/
structure Entry where
  now : Nat
  found : Option Counter
  left : Option Counter
  result : RateLimitResult
  deriving DecidableEq

/-- Calls one after the other, each at its time. -/
def trace : Option Counter → List Nat → List Entry
  | _, [] => []
  | redis, now :: rest =>
      let (result, after) := limiter.checkRateLimitAt grace now redis
      ⟨now, live grace now redis, after, result⟩ :: trace after rest

end Limiter

open Limiter (Entry)

/-- Consecutive calls: the first makes the counter, and the others find it. -/
def Lifetime (life : List Entry) : Prop :=
  ∃ first during, life = first :: during ∧ first.found = none ∧ first.left ≠ none ∧ ∀ entry ∈ during, entry.found ≠ none

def Limiter.Entry.expiry (entry : Entry) : Option Nat := entry.left.bind Counter.expiresAt

structure Exact (limit : Nat) (life : List Entry) : Prop where
  allowed : ∀ index, (inside : index < life.length) → life[index].result.allowed = decide (index < limit)
  /-- No call extends the lifetime. -/
  expiry : life.Pairwise fun earlier later => later.expiry = earlier.expiry
  remaining : life.Pairwise fun earlier later => later.result.remaining ≤ earlier.result.remaining
  /-- A reset time that was returned is still to come for the later calls. -/
  reset : life.Pairwise fun earlier later => later.now < earlier.result.resetAtMs

namespace Limiter

variable (limiter : Limiter) (grace : Bool)

/-- How much longer than the window a counter lives. -/
def padding : Nat := limiter.ttlSeconds * 1000 - limiter.windowMs

/-- The call does not find a counter in the end of its life that goes beyond the window. -/
def Early (entry : Entry) : Prop :=
  ∀ counter expiry, entry.found = some counter → counter.expiresAt = some expiry →
    entry.now + limiter.padding < expiry ∧ entry.now < u64Max

/-! ### One call -/

section
variable {limiter : Limiter} {grace : Bool} {now value expiry : Nat} {redis : Option Counter}

theorem check_disabled (disabled : limiter.disabled = true) :
    limiter.checkRateLimitAt grace now redis = (limiter.unavailable now, redis) := by
  rw [checkRateLimitAt, if_pos disabled]

theorem check_new (enabled : limiter.disabled = false) (found : live grace now redis = none) :
    limiter.checkRateLimitAt grace now redis =
      (⟨limiter.limit - 1, limiter.limit, saturatingAdd u64Max now limiter.windowMs, decide (1 ≤ limiter.limit), true⟩,
        some ⟨1, some (now + limiter.ttlSeconds * 1000)⟩) := by
  rw [checkRateLimitAt, if_neg (by simp [enabled]), found]
  rfl

theorem script_known {seconds : Nat} (within : now ≤ expiry) :
    script now seconds (some ⟨value, some expiry⟩) =
      ((value + 1, (expiry : Int) - now), ⟨value + 1, some expiry⟩) := by
  have timed : ¬ ((expiry : Int) - now = -1) := by omega
  change ((value + 1, (expiry : Int) - now), if (expiry : Int) - now = -1 then _ else _) = _
  rw [if_neg timed]
  rfl

theorem check_known (enabled : limiter.disabled = false) (found : live grace now redis = some ⟨value, some expiry⟩) :
    limiter.checkRateLimitAt grace now redis =
      (⟨limiter.limit - (value + 1), limiter.limit,
          saturatingAdd u64Max now (if now < expiry then expiry - now else limiter.windowMs),
          decide (value + 1 ≤ limiter.limit), true⟩, some ⟨value + 1, some expiry⟩) := by
  have alive := (Option.filter_eq_some_iff.mp found).2
  have within : now ≤ expiry := by
    simp only [Option.all_some, Bool.or_eq_true, decide_eq_true_iff, Bool.and_eq_true, beq_iff_eq] at alive
    omega
  have left : (if 0 < (expiry : Int) - now then ((expiry : Int) - now).toNat else limiter.windowMs) =
      if now < expiry then expiry - now else limiter.windowMs := by
    by_cases before : now < expiry
    · rw [if_pos before, if_pos (by omega)]
      omega
    · rw [if_neg before, if_neg (by omega)]
  rw [checkRateLimitAt, found, enabled, script_known within, ← left]
  rfl

/-! ### All calls -/

/-- The key is missing, or has a time. -/
def Timed (redis : Option Counter) : Prop := ∀ counter, redis = some counter → counter.expiresAt ≠ none

theorem timed_check (timed : Timed redis) : Timed (limiter.checkRateLimitAt grace now redis).2 := by
  cases enabled : limiter.disabled with
  | true => rwa [check_disabled enabled]
  | false =>
      cases found : live grace now redis with
      | none =>
          rw [check_new enabled found]
          rintro _ ⟨⟩
          exact Option.some_ne_none _
      | some counter =>
          obtain ⟨value, expiresAt⟩ := counter
          have kept := timed _ (Option.filter_eq_some_iff.mp found).1
          obtain ⟨expiry, rfl⟩ := Option.ne_none_iff_exists'.mp kept
          rw [check_known enabled found]
          rintro _ ⟨⟩
          exact Option.some_ne_none _

theorem trace_cons (redis : Option Counter) (now : Nat) (rest : List Nat) :
    limiter.trace grace redis (now :: rest) =
      ⟨now, live grace now redis, (limiter.checkRateLimitAt grace now redis).2,
        (limiter.checkRateLimitAt grace now redis).1⟩ ::
      limiter.trace grace (limiter.checkRateLimitAt grace now redis).2 rest := by
  rw [trace]

/-- What follows some calls is again a row of calls, on the key that they left. -/
theorem trace_append {times : List Nat} {front back : List Entry} (timed : Timed redis)
    (split : limiter.trace grace redis times = front ++ back) :
    ∃ after later, Timed after ∧ back = limiter.trace grace after later ∧ later <:+ times := by
  induction front generalizing redis times with
  | nil => exact ⟨redis, times, timed, split.symm, List.suffix_refl times⟩
  | cons entry front ih =>
      cases times with
      | nil => cases split
      | cons now rest =>
          rw [trace_cons, List.cons_append] at split
          obtain ⟨after, later, held, same, suffix⟩ := ih (timed_check timed) (List.cons.inj split).2
          exact ⟨after, later, held, same, suffix.trans (List.suffix_cons now rest)⟩

theorem trace_prefix {times : List Nat} {front back : List Entry}
    (split : limiter.trace grace redis times = front ++ back) :
    ∃ earlier, front = limiter.trace grace redis earlier ∧ earlier <+: times := by
  induction front generalizing redis times with
  | nil => exact ⟨[], rfl, List.nil_prefix⟩
  | cons entry front ih =>
      cases times with
      | nil => cases split
      | cons now rest =>
          rw [trace_cons, List.cons_append] at split
          obtain ⟨first, others⟩ := List.cons.inj split
          obtain ⟨earlier, same, front_⟩ := ih others
          refine ⟨now :: earlier, ?_, (List.cons_prefix_cons).mpr ⟨rfl, front_⟩⟩
          rw [trace_cons, first, ← same]

/-- Calls that all find a counter count on, and leave its expiry alone. -/
theorem trace_known (enabled : limiter.disabled = false) {times : List Nat}
    (known : ∀ entry ∈ limiter.trace grace (some ⟨value, some expiry⟩) times, entry.found ≠ none) :
    ∀ index, (inside : index < (limiter.trace grace (some ⟨value, some expiry⟩) times).length) →
      ∃ now, (limiter.trace grace (some ⟨value, some expiry⟩) times)[index] =
        ⟨now, some ⟨value + index, some expiry⟩, some ⟨value + index + 1, some expiry⟩,
          ⟨limiter.limit - (value + index + 1), limiter.limit,
            saturatingAdd u64Max now (if now < expiry then expiry - now else limiter.windowMs),
            decide (value + index + 1 ≤ limiter.limit), true⟩⟩ := by
  induction times generalizing value with
  | nil => intro index inside; cases inside
  | cons now rest ih =>
      have here : live grace now (some ⟨value, some expiry⟩) ≠ none := known _ List.mem_cons_self
      obtain ⟨counter, found⟩ := Option.ne_none_iff_exists'.mp here
      have same := (Option.filter_eq_some_iff.mp found).1
      cases same
      rw [trace_cons, check_known enabled found, found] at known ⊢
      intro index inside
      cases index with
      | zero => exact ⟨now, rfl⟩
      | succ index =>
          obtain ⟨later, equal⟩ := ih (fun entry member => known entry (List.mem_cons_of_mem _ member)) index
            (Nat.lt_of_succ_lt_succ inside)
          refine ⟨later, ?_⟩
          -- the call in front has counted one already
          rw [List.getElem_cons_succ, equal, Nat.add_right_comm value 1 index, Nat.add_assoc value index 1]

theorem trace_now (redis : Option Counter) (times : List Nat) :
    (limiter.trace grace redis times).map Entry.now = times := by
  induction times generalizing redis with
  | nil => rfl
  | cons now rest ih => rw [trace_cons, List.map_cons, ih]

theorem trace_disabled (disabled : limiter.disabled = true) (times : List Nat) :
    ∀ entry ∈ limiter.trace grace none times, entry.found = none ∧ entry.left = none := by
  induction times with
  | nil => intro entry member; cases member
  | cons now rest ih =>
      rw [trace_cons, check_disabled disabled]
      intro entry member
      rcases List.mem_cons.mp member with rfl | later
      · exact ⟨rfl, rfl⟩
      · exact ih entry later

theorem trace_left (enabled : limiter.disabled = false) (timed : Timed redis) (times : List Nat) :
    ∀ entry ∈ limiter.trace grace redis times, entry.left ≠ none := by
  induction times generalizing redis with
  | nil => intro entry member; cases member
  | cons now rest ih =>
      rw [trace_cons]
      intro entry member
      rcases List.mem_cons.mp member with rfl | later
      · rw [checkRateLimitAt, enabled]
        exact Option.some_ne_none _
      · exact ih (timed_check timed) entry later

end

/-! ### One lifetime -/

section
variable {limiter : Limiter} {grace : Bool} {life : List Entry} {times : List Nat} {start : Nat}

variable (limiter) in
/-- The calls of a lifetime that began at `start`, by their number. -/
def entryAt (start : Nat) : Nat → Nat → Entry
  | 0, _ =>
      ⟨start, none, some ⟨1, some (start + limiter.ttlSeconds * 1000)⟩,
        ⟨limiter.limit - 1, limiter.limit, saturatingAdd u64Max start limiter.windowMs, decide (1 ≤ limiter.limit), true⟩⟩
  | index + 1, now =>
      let expiry := start + limiter.ttlSeconds * 1000
      ⟨now, some ⟨index + 1, some expiry⟩, some ⟨index + 2, some expiry⟩,
        ⟨limiter.limit - (index + 2), limiter.limit,
          saturatingAdd u64Max now (if now < expiry then expiry - now else limiter.windowMs),
          decide (index + 2 ≤ limiter.limit), true⟩⟩

variable (limiter) in
structure Counted (start : Nat) (life : List Entry) : Prop where
  entries : ∀ index, (inside : index < life.length) → ∃ now, life[index] = limiter.entryAt start index now
  clock : (life.map Entry.now).Pairwise (· ≤ ·)

theorem window_le (limiter : Limiter) : limiter.windowMs ≤ limiter.ttlSeconds * 1000 := by
  unfold ttlSeconds saturatingAdd divCeil
  omega

theorem counted_of_lifetime (clock : times.Pairwise (· ≤ ·)) (inside : life <:+: limiter.trace grace none times)
    (lifetime : Lifetime life) : ∃ start, limiter.Counted start life := by
  have ordered : (life.map Entry.now).Pairwise (· ≤ ·) := by
    refine clock.sublist ?_
    have mapped := inside.map Entry.now
    rw [trace_now] at mapped
    exact mapped.sublist
  obtain ⟨front, back, whole⟩ := inside
  obtain ⟨first, during, rfl, missing, made, known⟩ := lifetime
  cases enabled : limiter.disabled with
  | true =>
      -- a limiter that is off makes no counter
      have member : first ∈ limiter.trace grace none times := by simp [← whole]
      exact absurd (trace_disabled enabled times first member).2 made
  | false =>
      have blank : Timed (none : Option Counter) := fun _ impossible => by cases impossible
      rw [List.append_assoc] at whole
      -- the lifetime is a row of calls on the key that the calls before it left
      obtain ⟨redis, later, timed, same, _⟩ := trace_append blank whole.symm
      obtain ⟨earlier, exact_, _⟩ := trace_prefix same.symm
      cases earlier with
      | nil => cases exact_
      | cons start rest =>
          rw [trace_cons] at exact_
          obtain ⟨head, tail⟩ := List.cons.inj exact_
          have absent : live grace start redis = none := by rw [← missing, head]
          rw [check_new enabled absent] at head tail
          refine ⟨start, fun index inside => ?_, ordered⟩
          cases index with
          | zero => exact ⟨start, by rw [List.getElem_cons_zero, head, absent]; rfl⟩
          | succ index =>
              subst tail
              obtain ⟨now, equal⟩ := trace_known enabled known index (Nat.lt_of_succ_lt_succ inside)
              refine ⟨now, ?_⟩
              rw [List.getElem_cons_succ, equal, Nat.add_comm 1 index]
              rfl

theorem entryAt_allowed (start index now : Nat) :
    (limiter.entryAt start index now).result.allowed = decide (index < limiter.limit) := by
  cases index <;> rfl

theorem entryAt_expiry (start index now : Nat) :
    (limiter.entryAt start index now).expiry = some (start + limiter.ttlSeconds * 1000) := by
  cases index <;> rfl

theorem entryAt_remaining (start index now : Nat) :
    (limiter.entryAt start index now).result.remaining = limiter.limit - (index + 1) := by
  cases index <;> rfl

theorem early_entryAt {start index now : Nat} :
    limiter.Early (limiter.entryAt start (index + 1) now) ↔ now < start + limiter.windowMs ∧ now < u64Max := by
  have window := window_le limiter
  constructor
  · intro early
    obtain ⟨before, below⟩ := early _ _ rfl rfl
    simp only [entryAt] at before below
    unfold padding at before
    exact ⟨by omega, below⟩
  · rintro ⟨before, below⟩ counter expiry found timed
    cases found
    cases timed
    refine ⟨?_, below⟩
    simp only [entryAt]
    unfold padding
    omega

/-- A reset time is the end of the window for the first call, and of the counter for the others. -/
theorem entryAt_reset {start index now later : Nat} (early : limiter.Early (limiter.entryAt start index now))
    (before : later < start + limiter.windowMs) (below : later < u64Max) :
    later < (limiter.entryAt start index now).result.resetAtMs := by
  cases index with
  | zero =>
      simp only [entryAt, saturatingAdd]
      omega
  | succ index =>
      have window := window_le limiter
      obtain ⟨within, bounded⟩ := early_entryAt.mp early
      simp only [entryAt, saturatingAdd]
      rw [if_pos (by omega)]
      omega

/-- The later calls of a lifetime come before every reset time exactly if they are early. -/
theorem reset_iff (counted : limiter.Counted start life) :
    (life.Pairwise fun earlier later => later.now < earlier.result.resetAtMs) ↔ ∀ entry ∈ life, limiter.Early entry := by
  have clock := counted.clock
  rw [List.pairwise_map, List.pairwise_iff_getElem] at clock
  rw [List.pairwise_iff_getElem]
  constructor
  · intro resets entry member
    obtain ⟨index, inside, rfl⟩ := List.mem_iff_getElem.mp member
    obtain ⟨now, same⟩ := counted.entries index inside
    cases index with
    | zero =>
        rw [same]
        intro counter expiry found
        cases found
    | succ index =>
        -- the first call reports the end of the window, which comes before all others
        obtain ⟨_, opener⟩ := counted.entries 0 (by omega)
        have reset := resets 0 (index + 1) (by omega) inside (by omega)
        have ordered := clock 0 (index + 1) (by omega) inside (by omega)
        rw [same, opener] at reset ordered
        rw [same, early_entryAt]
        simp only [entryAt, saturatingAdd] at reset ordered
        omega
  · intro early i j inside_i inside_j less
    obtain ⟨now, same⟩ := counted.entries i inside_i
    obtain ⟨later, equal⟩ := counted.entries j inside_j
    have early_i := early _ (List.getElem_mem inside_i)
    have early_j := early _ (List.getElem_mem inside_j)
    rw [same] at early_i
    rw [equal] at early_j
    rw [same, equal]
    obtain ⟨index, rfl⟩ : ∃ index, j = index + 1 := ⟨j - 1, by omega⟩
    obtain ⟨before, below⟩ := early_entryAt.mp early_j
    exact entryAt_reset early_i before below

theorem exact_of_counted (counted : limiter.Counted start life) (early : ∀ entry ∈ life, limiter.Early entry) :
    Exact limiter.limit life where
  allowed index inside := by
    obtain ⟨now, same⟩ := counted.entries index inside
    rw [same, entryAt_allowed]
  expiry := by
    rw [List.pairwise_iff_getElem]
    intro i j inside_i inside_j _
    obtain ⟨now, same⟩ := counted.entries i inside_i
    obtain ⟨later, equal⟩ := counted.entries j inside_j
    rw [same, equal, entryAt_expiry, entryAt_expiry]
  remaining := by
    rw [List.pairwise_iff_getElem]
    intro i j inside_i inside_j less
    obtain ⟨now, same⟩ := counted.entries i inside_i
    obtain ⟨later, equal⟩ := counted.entries j inside_j
    rw [same, equal, entryAt_remaining, entryAt_remaining]
    omega
  reset := (reset_iff counted).mpr early

/-- The calls since the last one that found no counter. -/
theorem exists_last {list : List Entry} (some_ : list ≠ []) (opens : ∀ first ∈ list.head?, first.found = none) :
    ∃ front first during, list = front ++ first :: during ∧ first.found = none ∧ ∀ other ∈ during, other.found ≠ none := by
  induction list using List.reverseRecOn with
  | nil => exact absurd rfl some_
  | append_singleton list last ih =>
      by_cases missing : last.found = none
      · exact ⟨list, last, [], rfl, missing, by simp⟩
      · cases list with
        | nil => exact absurd (opens last rfl) missing
        | cons head rest =>
            obtain ⟨front, first, during, split, absent, known⟩ := ih (List.cons_ne_nil head rest) opens
            refine ⟨front, first, during ++ [last], by rw [split, List.append_assoc, List.cons_append], absent, ?_⟩
            intro other member
            rcases List.mem_append.mp member with inside | same
            · exact known other inside
            · rw [List.mem_singleton.mp same]
              exact missing

theorem early_of_missing {entry : Entry} (missing : entry.found = none) : limiter.Early entry := by
  intro counter expiry found
  rw [missing] at found
  cases found

/-- Each call belongs to a lifetime. -/
theorem exists_lifetime (enabled : limiter.disabled = false) {entry : Entry}
    (member : entry ∈ limiter.trace grace none times) :
    ∃ life, life <:+: limiter.trace grace none times ∧ Lifetime life ∧ entry ∈ life := by
  obtain ⟨front, back, whole⟩ := List.append_of_mem member
  have opens : ∀ first ∈ (front ++ [entry]).head?, first.found = none := by
    intro first head
    have opener : first ∈ (limiter.trace grace none times).head? := by
      rw [whole]
      cases front <;> simpa using head
    cases times with
    | nil => cases opener
    | cons now rest =>
        cases opener
        rfl
  obtain ⟨earlier, first, during, split, missing, found⟩ := exists_last (by simp) opens
  have inside : first :: during <:+: limiter.trace grace none times :=
    ⟨earlier, back, by rw [whole, ← split, List.append_assoc, List.singleton_append]⟩
  have last : (first :: during).getLast? = some entry := by
    have whole_last := congrArg List.getLast? split
    rw [List.getLast?_append_of_ne_nil _ (List.cons_ne_nil first during)] at whole_last
    rw [← whole_last]
    simp
  have blank : Timed (none : Option Counter) := fun _ impossible => by cases impossible
  have made := trace_left enabled blank times first (inside.subset List.mem_cons_self)
  exact ⟨first :: during, inside, ⟨first, during, rfl, missing, made, found⟩, List.mem_of_getLast? last⟩

/-- All lifetimes are counted exactly, with honest reset times, exactly if no call finds a counter
in the end of its life. -/
theorem rate_limit_exact_iff (limiter : Limiter) (grace : Bool) (times : List Nat) (clock : times.Pairwise (· ≤ ·)) :
    (∀ life, life <:+: limiter.trace grace none times → Lifetime life → Exact limiter.limit life) ↔
      ∀ entry ∈ limiter.trace grace none times, limiter.Early entry := by
  constructor
  · intro exact_ entry member
    cases enabled : limiter.disabled with
    | true => exact early_of_missing (trace_disabled enabled times entry member).1
    | false =>
        obtain ⟨life, inside, lifetime, listed⟩ := exists_lifetime enabled member
        obtain ⟨start, counted⟩ := counted_of_lifetime clock inside lifetime
        exact (reset_iff counted).mp (exact_ life inside lifetime).reset entry listed
  · intro early life inside lifetime
    obtain ⟨start, counted⟩ := counted_of_lifetime clock inside lifetime
    exact exact_of_counted counted fun entry member => early entry (inside.subset member)

end

/-! ### A limit of two calls a minute -/

def twoPerMinute : Limiter := ⟨"player", 2, 60000, false⟩

theorem two_per_minute_is_exact : Exact 2 (twoPerMinute.trace false none [1000, 1100, 1200]) := by
  have early : ∀ entry ∈ twoPerMinute.trace false none [1000, 1100, 1200], twoPerMinute.Early entry := by
    have calls : twoPerMinute.trace false none [1000, 1100, 1200] =
        [twoPerMinute.entryAt 1000 0 1000, twoPerMinute.entryAt 1000 1 1100, twoPerMinute.entryAt 1000 2 1200] := by
      decide +kernel
    rw [calls]
    simp only [List.forall_mem_cons, early_entryAt]
    exact ⟨early_of_missing rfl, by decide, by decide, by simp⟩
  exact (rate_limit_exact_iff twoPerMinute false [1000, 1100, 1200] (by decide)).mpr early _ (List.infix_refl _)
    ⟨_, _, rfl, rfl, by decide, by decide⟩

/-- The second call comes at the reset time of the first one, and is still counted with it. -/
theorem two_per_minute_lives_on : ¬ ∀ life, life <:+: twoPerMinute.trace false none [1000, 61000] → Lifetime life →
    Exact 2 life := by
  intro all
  have calls : twoPerMinute.trace false none [1000, 61000] =
      [twoPerMinute.entryAt 1000 0 1000, twoPerMinute.entryAt 1000 1 61000] := by
    decide +kernel
  have exact_ := all _ (List.infix_refl _) ⟨_, _, rfl, rfl, by decide, by decide⟩
  rw [calls] at exact_
  have later : 61000 < saturatingAdd u64Max 1000 60000 := (List.pairwise_cons.mp exact_.reset).1 _ List.mem_cons_self
  exact absurd later (by decide)

end Limiter

end PaladinsCat.RateLimits
