/-
**The minimum interval of a recurring schedule** (`validate_schedule`, `schedule.rs`).

A recurring schedule is accepted when the first 24 gaps between its occurrences after now reach the
interval. A pattern can be sparse there and dense later.

* `CronLibrary.Lists` — what is taken of the cron library: it lists the occurrences in order.
* `sampled_iff` — what is accepted.
* **`accepted_keepsInterval_iff`** — **when acceptance says so**: when some gap is too short, one of
  the first 24 is, unless there are no 25 occurrences.
-/

import Ziee.Scheduler.Schedule
import Ziee.Library.Enumerations

namespace Ziee.Scheduler

open Ziee.Library.Enumerations

def CronLibrary.Lists (cron : CronLibrary)
    (occurrences : cron.Pattern → cron.Zone → Set Instant) : Prop :=
  ∀ pattern zone, Enumerates (cron.findNextOccurrence pattern zone) (occurrences pattern zone)

section Gaps

variable (cron : CronLibrary) (pattern : cron.Pattern) (zone : cron.Zone)

/-- The occurrences after now, counted from zero. -/
def occurrence (now : Instant) (count : Nat) : Option Instant :=
  nth (cron.findNextOccurrence pattern zone) now count

def ShortGap (minIntervalSeconds : Int) (now : Instant) (count : Nat) : Prop :=
  ∃ first second, occurrence cron pattern zone now count = some first ∧
    occurrence cron pattern zone now (count + 1) = some second ∧
      second - first < seconds minIntervalSeconds

variable {cron pattern zone} {minIntervalSeconds : Int} {now : Instant}

theorem checkGaps_ok_iff (gaps start : Nat) (first : Instant)
    (here : occurrence cron pattern zone now start = some first) :
    checkGaps cron pattern zone minIntervalSeconds gaps first = .ok () ↔
      ∀ count, start ≤ count → count < start + gaps →
        ∃ previous next, occurrence cron pattern zone now count = some previous ∧
          occurrence cron pattern zone now (count + 1) = some next ∧
            minIntervalSeconds ≤ numSeconds (next - previous) := by
  induction gaps generalizing start first with
  | zero => exact iff_of_true rfl fun count low high => absurd high (by omega)
  | succ gaps ih =>
    have after : occurrence cron pattern zone now (start + 1) =
        cron.findNextOccurrence pattern zone first := by
      rw [occurrence, nth]
      rw [occurrence] at here
      rw [here]
      rfl
    rw [checkGaps]
    cases found : cron.findNextOccurrence pattern zone first with
    | none =>
      refine iff_of_false (by rintro ⟨⟩) fun all => ?_
      obtain ⟨previous, next, -, reached, -⟩ := all start (Nat.le_refl _) (by omega)
      rw [after, found] at reached
      cases reached
    | some next =>
      dsimp only
      rw [found] at after
      by_cases short : numSeconds (next - first) < minIntervalSeconds
      · rw [if_pos short]
        refine iff_of_false (by rintro ⟨⟩) fun all => ?_
        obtain ⟨previous, other, before, reached, long⟩ := all start (Nat.le_refl _) (by omega)
        rw [here] at before
        rw [after] at reached
        cases before
        cases reached
        exact absurd short (Int.not_lt.mpr long)
      · rw [if_neg short, ih (start + 1) next after]
        constructor
        · intro all count low high
          rcases Nat.lt_or_eq_of_le low with later | rfl
          · exact all count later (by omega)
          · exact ⟨first, next, here, after, Int.not_lt.mp short⟩
        · exact fun all count low high => all count (by omega) (by omega)

theorem le_numSeconds_iff {gap : Int} (positive : 0 < gap) :
    minIntervalSeconds ≤ numSeconds gap ↔ seconds minIntervalSeconds ≤ gap := by
  rw [numSeconds, seconds, Int.tdiv_eq_ediv_of_nonneg (Int.le_of_lt positive)]
  omega

/-- **What is sampled**: there are 25 occurrences, and none of the first 24 gaps is too short. -/
theorem sampled_iff {occurrences : Set Instant} {runAt : Option Instant} {expr timezone : String}
    (enumerates : Enumerates (cron.findNextOccurrence pattern zone) occurrences)
    (parsed : cron.fromStr expr = .ok pattern) (read : cron.zone timezone = some zone) :
    validateSchedule cron .recurring runAt (some expr) timezone minIntervalSeconds now = .ok () ↔
      occurrence cron pattern zone now 24 ≠ none ∧
        ∀ count < 24, ¬ShortGap cron pattern zone minIntervalSeconds now count := by
  simp only [validateSchedule, required, bind, Except.bind, parseCron, parseTz, parsed, read]
  cases found : cron.findNextOccurrence pattern zone now with
  | none =>
    refine iff_of_false (by rintro ⟨⟩) fun fine => ?_
    obtain ⟨last, reached⟩ := Option.ne_none_iff_exists'.mp fine.1
    obtain ⟨first, start⟩ := exists_nth_of_le reached (Nat.zero_le 24)
    rw [nth, found] at start
    cases start
  | some first =>
    dsimp only
    rw [checkGaps_ok_iff 24 0 first found]
    have later : ∀ {count previous next}, occurrence cron pattern zone now count = some previous →
        occurrence cron pattern zone now (count + 1) = some next → 0 < next - previous := by
      intro count previous next before after
      have pair := (consecutive_iff_nth enumerates).mpr ⟨count, before, after⟩
      exact Int.sub_pos.mpr pair.ordered
    constructor
    · intro all
      refine ⟨?_, fun count low => ?_⟩
      · obtain ⟨-, last, -, reached, -⟩ := all 23 (by omega) (by omega)
        rw [reached]
        exact Option.some_ne_none last
      · rintro ⟨previous, next, before, after, short⟩
        obtain ⟨other, another, here, there, long⟩ := all count (Nat.zero_le count) (by omega)
        obtain rfl := Option.some.inj (here.symm.trans before)
        obtain rfl := Option.some.inj (there.symm.trans after)
        exact absurd short (Int.not_lt.mpr ((le_numSeconds_iff (later before after)).mp long))
    · rintro ⟨enough, fine⟩ count - low
      obtain ⟨last, reached⟩ := Option.ne_none_iff_exists'.mp enough
      obtain ⟨previous, before⟩ := exists_nth_of_le reached (by omega : count ≤ 24)
      obtain ⟨next, after⟩ := exists_nth_of_le reached (by omega : count + 1 ≤ 24)
      refine ⟨previous, next, before, after, (le_numSeconds_iff (later before after)).mpr ?_⟩
      by_contra short
      exact fine count (by omega) ⟨previous, next, before, after, Int.not_le.mp short⟩

end Gaps

/-- **Two consecutive occurrences after now are never closer than the interval.** -/
def KeepsInterval (occurrences : Set Instant) (minIntervalSeconds : Int) (now : Instant) : Prop :=
  ∀ first second, Consecutive occurrences now first second →
    seconds minIntervalSeconds ≤ second - first

theorem keepsInterval_iff {cron : CronLibrary} {pattern : cron.Pattern} {zone : cron.Zone}
    {occurrences : Set Instant} {minIntervalSeconds : Int} {now : Instant}
    (enumerates : Enumerates (cron.findNextOccurrence pattern zone) occurrences) :
    KeepsInterval occurrences minIntervalSeconds now ↔
      ∀ count, ¬ShortGap cron pattern zone minIntervalSeconds now count := by
  constructor
  · rintro keeps count ⟨first, second, here, there, short⟩
    have pair := (consecutive_iff_nth enumerates).mpr ⟨count, here, there⟩
    exact absurd short (Int.not_lt.mpr (keeps first second pair))
  · intro none first second pair
    obtain ⟨count, here, there⟩ := (consecutive_iff_nth enumerates).mp pair
    by_contra short
    exact none count ⟨first, second, here, there, Int.not_le.mp short⟩

/-- **When acceptance means that the interval is kept**: if a gap after now is too short, one of the
first 24 is, or there are no 25 occurrences. -/
theorem accepted_keepsInterval_iff (cron : CronLibrary)
    (occurrences : cron.Pattern → cron.Zone → Set Instant) (lists : cron.Lists occurrences)
    (runAt : Option Instant) (expr timezone : String) (minIntervalSeconds : Int) (now : Instant) :
    (validateSchedule cron .recurring runAt (some expr) timezone minIntervalSeconds now = .ok () →
      ∀ pattern zone, cron.fromStr expr = .ok pattern → cron.zone timezone = some zone →
        KeepsInterval (occurrences pattern zone) minIntervalSeconds now) ↔
      ∀ pattern zone, cron.fromStr expr = .ok pattern → cron.zone timezone = some zone →
        (∃ count, ShortGap cron pattern zone minIntervalSeconds now count) →
          occurrence cron pattern zone now 24 = none ∨
            ∃ count < 24, ShortGap cron pattern zone minIntervalSeconds now count := by
  cases parsed : cron.fromStr expr with
  | error error =>
    exact iff_of_true nofun nofun
  | ok pattern =>
    cases read : cron.zone timezone with
    | none =>
      exact iff_of_true nofun nofun
    | some zone =>
      rw [sampled_iff (lists pattern zone) parsed read]
      constructor
      · intro keeps other place same there
        cases same
        cases there
        rintro ⟨count, short⟩
        by_contra missed
        obtain ⟨enough, fine⟩ := not_or.mp missed
        refine (keepsInterval_iff (lists pattern zone)).mp (keeps ⟨enough, ?_⟩ pattern zone rfl rfl)
          count short
        exact fun early low gap => fine ⟨early, low, gap⟩
      · rintro caught ⟨enough, fine⟩ other place same there
        cases same
        cases there
        rw [keepsInterval_iff (lists pattern zone)]
        intro count short
        rcases caught pattern zone rfl rfl ⟨count, short⟩ with none | ⟨early, low, gap⟩
        · exact enough none
        · exact fine early low gap

/-! ### A burst behind the sample -/

/-- Every second minute, and once one minute after the last of them. -/
def burstMinutes : List Int := (List.range 25).map (fun count : Nat => (2 * count : Int)) ++ [49]

def burstExpr : String :=
  "0,2,4,6,8,10,12,14,16,18,20,22,24,26,28,30,32,34,36,38,40,42,44,46,48,49 * * * *"

def minute : Int := seconds 60

def burst : CronLibrary where
  Pattern := Unit
  Zone := Unit
  fromStr expr := if expr = burstExpr then .ok () else .error "invalid pattern"
  zone timezone := if timezone = "UTC" then some () else none
  findNextOccurrence _ _ after :=
    ((List.range 60).find? fun count : Nat =>
      burstMinutes.contains ((after / minute + 1 + count) % 60)).map
        fun count : Nat => (after / minute + 1 + count) * minute

def burstOccurrences (_ : burst.Pattern) (_ : burst.Zone) : Set Instant :=
  {instant | ∃ number : Int, instant = number * minute ∧ number % 60 ∈ burstMinutes}

theorem burst_lists : burst.Lists burstOccurrences := by
  have positive : (0 : Int) < minute := by decide
  intro pattern zone
  constructor
  · intro point element found
    obtain ⟨count, first, rfl⟩ := Option.map_eq_some_iff.mp found
    obtain ⟨here, -, before⟩ := List.find?_range_eq_some.mp first
    have behind : point < (point / minute + 1 + count) * minute := by
      have start : point < (point / minute + 1) * minute :=
        Int.lt_ediv_add_one_mul_self point positive
      have more : (point / minute + 1) * minute ≤ (point / minute + 1 + count) * minute :=
        Int.mul_le_mul_of_nonneg_right (by omega) (Int.le_of_lt positive)
      exact Int.lt_of_lt_of_le start more
    refine ⟨⟨⟨_, rfl, by simpa using here⟩, behind⟩, ?_⟩
    rintro other ⟨⟨number, rfl, marked⟩, after⟩
    have started : point / minute < number := Int.ediv_lt_of_lt_mul positive after
    refine Int.mul_le_mul_of_nonneg_right ?_ (Int.le_of_lt positive)
    by_contra early
    have between : (number - (point / minute + 1)).toNat < count := by omega
    have skipped := before _ between
    have same : point / minute + 1 + ((number - (point / minute + 1)).toNat : Int) = number := by
      omega
    rw [same] at skipped
    simp [marked] at skipped
  · intro point none
    have absent := List.find?_range_eq_none.mp (Option.map_eq_none_iff.mp none)
    have hour := absent ((-(point / minute + 1)) % 60).toNat (by omega)
    have zero : (point / minute + 1 + (((-(point / minute + 1)) % 60).toNat : Int)) % 60 = 0 := by
      omega
    rw [zero] at hour
    exact absurd hour (by decide)

/-- The result on that expression, with its hypothesis. -/
theorem burst_sampled :
    (validateSchedule burst .recurring none (some burstExpr) "UTC" 120 (-1) = .ok () →
      ∀ pattern zone, burst.fromStr burstExpr = .ok pattern → burst.zone "UTC" = some zone →
        KeepsInterval (burstOccurrences pattern zone) 120 (-1)) ↔
      ∀ pattern zone, burst.fromStr burstExpr = .ok pattern → burst.zone "UTC" = some zone →
        (∃ count, ShortGap burst pattern zone 120 (-1) count) →
          occurrence burst pattern zone (-1) 24 = none ∨
            ∃ count < 24, ShortGap burst pattern zone 120 (-1) count :=
  accepted_keepsInterval_iff burst burstOccurrences burst_lists none burstExpr "UTC" 120 (-1)

/-- **A schedule is accepted whose 25th gap is too short.** -/
theorem burst_accepted :
    validateSchedule burst .recurring none (some burstExpr) "UTC" 120 (-1) = .ok () ∧
      ¬KeepsInterval (burstOccurrences () ()) 120 (-1) := by
  refine ⟨by decide +kernel, fun keeps => ?_⟩
  have pair : Consecutive (burstOccurrences () ()) (-1) (48 * minute) (49 * minute) := by
    refine ⟨by decide, ⟨48, rfl, by decide⟩, ⟨49, rfl, by decide⟩, by decide, ?_⟩
    rintro x ⟨number, rfl, -⟩ after
    have positive : (0 : Int) < minute := by decide
    have later : 48 < number := Int.lt_of_mul_lt_mul_right after (Int.le_of_lt positive)
    exact Int.mul_le_mul_of_nonneg_right later (Int.le_of_lt positive)
  have long := keeps _ _ pair
  revert long
  decide

end Ziee.Scheduler
