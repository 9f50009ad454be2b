import CpuAlert.Time.Instant
import Mathlib.Tactic.SplitIfs

/-!
# Elapsed time against exact arithmetic

Whether a window has passed is decided with a case of its own for spans that
are too long to be counted. The calendar is too short for that case to matter:
any two of its instants are closer together than the longest span.

The time between two instants is the distance of their places on the clock, but
for the leap seconds: one that an end of the span lies in may be counted. Spans
therefore do not add up exactly if one of their ends lies in a leap second.

## Main definitions

* `Time.Instant.Elapsed` — at least so many seconds have passed, exactly
* `Time.Instant.IsLeap` — an instant lies in a leap second
* `Time.Instant.place` — where an instant lies on the clock

## Main results

* `Time.Instant.nanosSince_lt` — a bound on the time between two instants
* `Time.Instant.nanosSince_eq` — it is the distance of their places, but for the
  leap seconds
* `Time.Instant.hasLasted_iff` — a window has lasted exactly if its seconds have
  passed
-/

namespace CpuAlert.Time.Instant

/-- At least `required` seconds have passed from `since` to `now`, or none were
required. The time between them is an exact number of nanoseconds. -/
def Elapsed (since now : Instant) (required : Int) : Prop :=
  required ≤ 0 ∨ required * nanosPerSecond ≤ now.nanosSince since

instance (since now : Instant) (required : Int) : Decidable (Elapsed since now required) :=
  inferInstanceAs (Decidable (_ ∨ _))

/-- The instant lies in a leap second. -/
def IsLeap (a : Instant) : Prop := nanosPerSecond ≤ a.nano

instance (a : Instant) : Decidable a.IsLeap := inferInstanceAs (Decidable (_ ≤ _))

/-- Where the instant lies on the clock, in nanoseconds since the epoch. A leap
second lies where the second after it does. -/
def place (a : Instant) : Int := a.sec * nanosPerSecond + a.nano

/-- The time between two instants is the distance of their places, but for the
leap seconds. -/
theorem nanosSince_eq (later earlier : Instant) :
    later.nanosSince earlier =
      later.place - earlier.place + leapBetween later earlier * nanosPerSecond := by
  simp only [nanosSince, place, nanosPerSecond]
  omega

/-- A leap second more or less is counted between two instants, at most. -/
theorem leapBetween_le (later earlier : Instant) : leapBetween later earlier ≤ 1 := by
  unfold leapBetween
  split
  · omega
  · split <;> omega

/-- A leap second that is added one way is left out the other way. -/
theorem leapBetween_comm (a b : Instant) : leapBetween a b = -leapBetween b a := by
  unfold leapBetween
  split_ifs <;> omega

theorem neg_one_le_leapBetween (later earlier : Instant) : -1 ≤ leapBetween later earlier := by
  have hbackwards := leapBetween_le earlier later
  rw [leapBetween_comm]
  omega

/-- A leap second is added only if the span begins in it. -/
theorem leapBetween_nonpos (later : Instant) {earlier : Instant} (h : ¬ earlier.IsLeap) :
    leapBetween later earlier ≤ 0 := by
  unfold leapBetween
  rw [if_neg fun hleap => h hleap.2]
  split <;> omega

/-- A leap second is left out only if the span ends in it. -/
theorem leapBetween_nonneg (earlier : Instant) {later : Instant} (h : ¬ later.IsLeap) :
    0 ≤ leapBetween later earlier := by
  unfold leapBetween
  split
  · omega
  · exact Int.le_of_eq (if_neg fun hleap => h hleap.2).symm

/-- Outside leap seconds the time between two instants is the distance of their
places. -/
theorem nanosSince_eq_sub {later earlier : Instant} (hlater : ¬ later.IsLeap)
    (hearlier : ¬ earlier.IsLeap) : later.nanosSince earlier = later.place - earlier.place := by
  have hle := leapBetween_nonpos later hearlier
  have hge := leapBetween_nonneg earlier hlater
  rw [nanosSince_eq, Int.le_antisymm hle hge]
  omega

/-- Places follow the order of instants, but for the second that a leap second
reaches too far. -/
theorem place_le_of_le {a b : Instant} (h : a ≤ b) (ha : ¬ a.IsLeap) : a.place ≤ b.place := by
  rw [le_def] at h
  simp only [IsLeap, place, nanosPerSecond] at *
  omega

theorem place_le_add_of_le {a b : Instant} (h : a ≤ b) : a.place ≤ b.place + nanosPerSecond := by
  have ha := a.nano_lt
  rw [le_def] at h
  simp only [place, nanosPerSecond] at *
  omega

/-- What is at least a second later is later. -/
theorem lt_of_nanosSince {a b : Instant} (h : nanosPerSecond ≤ b.nanosSince a) : a < b := by
  have ha := a.nano_lt
  have hb := b.nano_lt
  rw [lt_def]
  unfold nanosSince leapBetween at h
  -- within one second no leap second is counted
  split at h
  · simp only [secondOfDay, nanosPerSecond] at *
    omega
  · split at h <;>
    · simp only [nanosPerSecond] at *
      omega

/-- The longest span is longer than the calendar. -/
theorem nanosSince_lt (later earlier : Instant) :
    later.nanosSince earlier < longestSpan * nanosPerSecond := by
  have hleap := leapBetween_le later earlier
  have hfirst := earlier.first_le
  have hlast := later.le_last
  have hnano := later.nano_lt
  simp only [nanosSince, nanosPerSecond, longestSpan, firstSecond, lastSecond] at *
  omega

theorem nanosSince_comm (a b : Instant) : a.nanosSince b = -b.nanosSince a := by
  rw [nanosSince_eq, nanosSince_eq, leapBetween_comm]
  simp only [nanosPerSecond]
  omega

/-- Backwards, too, it is longer. -/
theorem neg_lt_nanosSince (later earlier : Instant) :
    -(longestSpan * nanosPerSecond) < later.nanosSince earlier := by
  have hforwards := nanosSince_lt earlier later
  rw [nanosSince_comm]
  omega

/-- The seconds of a window have passed if those of a longer one have. -/
theorem Elapsed.of_le {since now : Instant} {required fewer : Int} (hle : fewer ≤ required)
    (h : Elapsed since now required) : Elapsed since now fewer := by
  simp only [Elapsed, nanosPerSecond] at *
  omega

/-- A window has lasted exactly if its seconds have passed. -/
theorem hasLasted_iff {since now : Instant} {required : Int} :
    hasLasted since now required = true ↔ Elapsed since now required := by
  unfold hasLasted Elapsed
  by_cases hnone : required ≤ 0
  · simp [hnone]
  · by_cases hlong : required ≤ longestSpan
    · simp [hnone, hlong]
    · -- a longer window is refused, and rightly so
      have hbound := nanosSince_lt now since
      simp only [hnone, hlong, if_false, false_or, Bool.false_eq_true, false_iff, Int.not_le]
      simp only [nanosPerSecond, longestSpan] at *
      omega

end CpuAlert.Time.Instant
