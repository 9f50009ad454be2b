import CpuAlert.Proofs.Time.Elapsed
import CpuAlert.Time.Calendar
import Mathlib.Tactic.ByContra

/-!
# Windows at the limits of what is counted

A span of time is counted in seconds and in nanoseconds on top of them, and it has
no more milliseconds than a number of sixty-four bits. Whether a window has lasted
is decided by comparing two such spans, and on the way there a number may turn out
too large: a difference for its sixty-four bits, or a window for a span, since a
configuration may ask for any number of seconds.

The calendar is too short for that. The time between two of its instants can always
be counted, and a window that cannot be counted is longer than it. So comparing
spans gives the same answer as comparing nanoseconds without any limit, at both
ends of the calendar and for every window.

## Main definitions

* `Time.int64?` — a whole number, if it has sixty-four bits
* `Time.Span` — a span as it is counted
* `Time.Instant.spanSince?` — the span between two instants, step by step
* `Time.Instant.hasLasted?` — whether a window has lasted, by comparing spans

## Main results

* `Time.Span.le_iff` — spans are compared as their nanoseconds are
* `Time.Instant.exists_spanSince?` — the time between two instants is counted
* `Time.Instant.hasLasted?_eq` — comparing spans decides every window
* `Time.Instant.hasLasted_exact` — the answer is that of exact arithmetic
-/

namespace CpuAlert.Time

/-- A whole number, if it has sixty-four bits. -/
def int64? (n : Int) : Option Int :=
  if -0x8000000000000000 ≤ n ∧ n ≤ 0x7FFFFFFFFFFFFFFF then some n else none

theorem int64?_eq_some {n : Int} (hlow : -0x8000000000000000 ≤ n) (hhigh : n ≤ 0x7FFFFFFFFFFFFFFF) :
    int64? n = some n :=
  if_pos ⟨hlow, hhigh⟩

/-! ## Spans -/

/-- The nanoseconds of the longest span: as many milliseconds as a number of
sixty-four bits has. -/
def mostNanos : Int := 0x7FFFFFFFFFFFFFFF * 1000000

/-- A span of time as it is counted. The nanoseconds come on top of the seconds, also
if these are negative. -/
structure Span where
  seconds : Int
  nanos : Nat
  nanos_lt : nanos < nanosPerSecond
  low : -mostNanos ≤ seconds * nanosPerSecond + nanos
  high : seconds * nanosPerSecond + nanos ≤ mostNanos

namespace Span

open Instant (longestSpan)

/-- The span of so many seconds and nanoseconds, if it can be counted. -/
def mk? (seconds : Int) (nanos : Nat) : Option Span :=
  if h : nanos < nanosPerSecond ∧ -mostNanos ≤ seconds * nanosPerSecond + nanos ∧
      seconds * nanosPerSecond + nanos ≤ mostNanos then
    some ⟨seconds, nanos, h.1, h.2.1, h.2.2⟩
  else none

/-- The span of so many seconds, if it can be counted. -/
def ofSeconds? (seconds : Int) : Option Span := mk? seconds 0

/-- The span of so many seconds and any number of nanoseconds: those that are negative
or fill seconds are carried over. -/
def ofParts? (seconds nanos : Int) : Option Span := do
  let carried ← int64? (seconds + nanos / nanosPerSecond)
  mk? carried (nanos % nanosPerSecond).toNat

/-- All nanoseconds of a span. -/
def total (s : Span) : Int := s.seconds * nanosPerSecond + s.nanos

/-- Spans are compared by their seconds, and by their nanoseconds if the seconds are
the same. -/
instance : LE Span :=
  ⟨fun a b => a.seconds < b.seconds ∨ a.seconds = b.seconds ∧ a.nanos ≤ b.nanos⟩

theorem le_def {a b : Span} :
    a ≤ b ↔ a.seconds < b.seconds ∨ a.seconds = b.seconds ∧ a.nanos ≤ b.nanos :=
  Iff.rfl

instance (a b : Span) : Decidable (a ≤ b) := decidable_of_iff _ le_def.symm

/-- That is the order of all their nanoseconds. -/
theorem le_iff {a b : Span} : a ≤ b ↔ a.total ≤ b.total := by
  have ha := a.nanos_lt
  have hb := b.nanos_lt
  simp only [le_def, total, nanosPerSecond] at *
  omega

theorem exists_mk? (seconds : Int) {nanos : Nat} (hnanos : nanos < nanosPerSecond)
    (hlow : -mostNanos ≤ seconds * nanosPerSecond + nanos)
    (hhigh : seconds * nanosPerSecond + nanos ≤ mostNanos) :
    ∃ span, mk? seconds nanos = some span ∧ span.total = seconds * nanosPerSecond + nanos :=
  ⟨⟨seconds, nanos, hnanos, hlow, hhigh⟩, dif_pos ⟨hnanos, hlow, hhigh⟩, rfl⟩

/-- So many seconds can be counted. -/
theorem exists_ofSeconds? (seconds : Int) (hlow : -longestSpan ≤ seconds)
    (hhigh : seconds ≤ longestSpan) :
    ∃ span, ofSeconds? seconds = some span ∧ span.total = seconds * nanosPerSecond := by
  simp only [longestSpan] at hlow hhigh
  have hnone : 0 < nanosPerSecond := by decide
  obtain ⟨span, hspan, htotal⟩ := exists_mk? seconds hnone
    (by simp only [mostNanos, nanosPerSecond]; omega)
    (by simp only [mostNanos, nanosPerSecond]; omega)
  exact ⟨span, hspan, htotal.trans (Int.add_zero _)⟩

/-- More of them, in either direction, cannot. -/
theorem ofSeconds?_eq_none_iff {seconds : Int} :
    ofSeconds? seconds = none ↔ seconds < -longestSpan ∨ longestSpan < seconds := by
  constructor
  · intro hnone
    by_contra hcounted
    obtain ⟨span, hspan, -⟩ := exists_ofSeconds? seconds (by omega) (by omega)
    rw [hnone] at hspan
    cases hspan
  · intro hlong
    refine dif_neg fun h => ?_
    simp only [mostNanos, longestSpan, nanosPerSecond] at h hlong
    omega

/-- Whatever is carried over, the span has all the nanoseconds. -/
theorem exists_ofParts? (seconds nanos : Int)
    (hlow : -mostNanos ≤ seconds * nanosPerSecond + nanos)
    (hhigh : seconds * nanosPerSecond + nanos ≤ mostNanos) :
    ∃ span, ofParts? seconds nanos = some span ∧
      span.total = seconds * nanosPerSecond + nanos := by
  -- dividing by a second loses nothing
  have hsame : (seconds + nanos / nanosPerSecond) * nanosPerSecond +
      ((nanos % nanosPerSecond).toNat : Int) = seconds * nanosPerSecond + nanos := by
    simp only [nanosPerSecond]
    omega
  have hrest : (nanos % nanosPerSecond).toNat < nanosPerSecond := by
    simp only [nanosPerSecond]
    omega
  obtain ⟨span, hspan, htotal⟩ := exists_mk? (seconds + nanos / nanosPerSecond) hrest
    (hsame ▸ hlow) (hsame ▸ hhigh)
  have hcarried : int64? (seconds + nanos / nanosPerSecond) =
      some (seconds + nanos / nanosPerSecond) := by
    simp only [mostNanos, nanosPerSecond] at hlow hhigh ⊢
    exact int64?_eq_some (by omega) (by omega)
  exact ⟨span, by rw [ofParts?, hcarried, Option.bind_eq_bind, Option.bind_some, hspan],
    htotal.trans hsame⟩

end Span

namespace Instant

/-! ## The time between two instants -/

/-- The span from one instant to another, if it can be counted: the seconds and the
nanoseconds are subtracted, and a leap second between them is put right. -/
def spanSince? (later earlier : Instant) : Option Span := do
  let seconds ← int64? (later.sec - earlier.sec)
  let corrected ← int64? (seconds + leapBetween later earlier)
  let nanos ← int64? (later.nano - earlier.nano)
  Span.ofParts? corrected nanos

/-- The time between two instants can be counted, and no number on the way has more
than sixty-four bits. -/
theorem exists_spanSince? (later earlier : Instant) :
    ∃ span, later.spanSince? earlier = some span ∧ span.total = later.nanosSince earlier := by
  have hleap := leapBetween_le later earlier
  have hleap' := neg_one_le_leapBetween later earlier
  have hlater := And.intro later.first_le later.le_last
  have hearlier := And.intro earlier.first_le earlier.le_last
  have hnano := later.nano_lt
  have hnano' := earlier.nano_lt
  simp only [firstSecond, lastSecond, nanosPerSecond] at hlater hearlier hnano hnano'
  -- the calendar has far fewer seconds than sixty-four bits have numbers
  have hseconds : int64? (later.sec - earlier.sec) = some (later.sec - earlier.sec) :=
    int64?_eq_some (by omega) (by omega)
  have hcorrected : int64? (later.sec - earlier.sec + leapBetween later earlier) =
      some (later.sec - earlier.sec + leapBetween later earlier) :=
    int64?_eq_some (by omega) (by omega)
  have hnanos : int64? (later.nano - earlier.nano) = some (later.nano - earlier.nano : Int) :=
    int64?_eq_some (by omega) (by omega)
  have hmost : longestSpan * nanosPerSecond ≤ mostNanos := by decide
  have hlow : -mostNanos ≤ later.nanosSince earlier := by
    have hbound := neg_lt_nanosSince later earlier
    omega
  have hhigh : later.nanosSince earlier ≤ mostNanos :=
    Int.le_trans (Int.le_of_lt (nanosSince_lt later earlier)) hmost
  obtain ⟨span, hspan, htotal⟩ := Span.exists_ofParts? _ _ hlow hhigh
  refine ⟨span, ?_, htotal⟩
  simp only [spanSince?, hseconds, hcorrected, hnanos, hspan, Option.bind_eq_bind,
    Option.bind_some]

/-! ## Windows -/

/-- Whether a window of so many seconds has lasted, by comparing spans. A window that
cannot be counted has not; there is no answer if the time between the instants cannot
be. -/
def hasLasted? (since now : Instant) (required : Int) : Option Bool :=
  if required ≤ 0 then some true
  else
    match Span.ofSeconds? required with
    | some window => (now.spanSince? since).map fun span => decide (window ≤ span)
    | none => some false

/-- Comparing spans decides every window as it is decided. -/
theorem hasLasted?_eq (since now : Instant) (required : Int) :
    hasLasted? since now required = some (hasLasted since now required) := by
  rw [hasLasted?, hasLasted]
  by_cases hnone : required ≤ 0
  · rw [if_pos hnone, if_pos hnone]
  rw [if_neg hnone, if_neg hnone]
  by_cases hlong : required ≤ longestSpan
  · obtain ⟨window, hwindow, hwindowTotal⟩ :=
      Span.exists_ofSeconds? required (by simp only [longestSpan]; omega) hlong
    obtain ⟨span, hspan, hspanTotal⟩ := exists_spanSince? now since
    rw [if_pos hlong, hwindow]
    simp only [hspan, Option.map_some, Span.le_iff, hwindowTotal, hspanTotal]
  · rw [if_neg hlong, Span.ofSeconds?_eq_none_iff.mpr (.inr (by omega))]

/-- For all instants outside leap seconds, from the first second of the calendar to its
last, and for every window, whether the window has lasted is what exact arithmetic
says: its seconds, as nanoseconds, are no more than the distance of the instants. The
time between them can be counted, and comparing spans gives this answer; so it does for
windows that cannot be counted. A shorter window has lasted if a longer one has, and
what has lasted has lasted at every later instant. -/
theorem hasLasted_exact {since now : Instant} (hsince : ¬ since.IsLeap) (hnow : ¬ now.IsLeap)
    (required : Int) :
    (hasLasted since now required = true ↔
      required ≤ 0 ∨ required * nanosPerSecond ≤ now.place - since.place) ∧
    (∃ span, now.spanSince? since = some span ∧ span.total = now.place - since.place) ∧
    hasLasted? since now required = some (hasLasted since now required) ∧
    (Span.ofSeconds? required = none →
      (hasLasted since now required = true ↔
        required * nanosPerSecond ≤ now.place - since.place)) ∧
    (∀ fewer ≤ required, hasLasted since now required = true →
      hasLasted since now fewer = true) ∧
    ∀ later : Instant, ¬ later.IsLeap → now ≤ later →
      hasLasted since now required = true → hasLasted since later required = true := by
  have hexact {t : Instant} (ht : ¬ t.IsLeap) : hasLasted since t required = true ↔
      required ≤ 0 ∨ required * nanosPerSecond ≤ t.place - since.place := by
    rw [hasLasted_iff, Elapsed, nanosSince_eq_sub ht hsince]
  refine ⟨hexact hnow, ?_, hasLasted?_eq since now required, fun hrefused => ?_,
    fun fewer hle hlasted => ?_, fun later hlater hle hlasted => ?_⟩
  · rw [← nanosSince_eq_sub hnow hsince]
    exact exists_spanSince? now since
  · -- the calendar is shorter than any window that is refused
    have hlow := neg_lt_nanosSince now since
    rw [nanosSince_eq_sub hnow hsince] at hlow
    rw [Span.ofSeconds?_eq_none_iff] at hrefused
    rw [hexact hnow]
    simp only [longestSpan, nanosPerSecond] at *
    omega
  · rw [hasLasted_iff] at hlasted ⊢
    exact hlasted.of_le hle
  · have hplace := place_le_of_le hle hnow
    rw [hexact hlater]
    exact ((hexact hnow).mp hlasted).imp_right fun h => by omega

/-- The first instant of the calendar. -/
def beginning : Instant :=
  { Instant.epoch with
    sec := firstSecond
    first_le := Int.le_refl firstSecond
    le_last := ending.first_le }

/-- From one end of the calendar to the other, windows have lasted up to the second that
is not complete. The longest window that may be configured cannot be counted, and has
not lasted. -/
theorem hasLasted_exact_wholeCalendar :
    firstSecond = Date.toDays ⟨-262143, 1, 1⟩ * 86400 ∧
    lastSecond = Date.toDays ⟨262142, 12, 31⟩ * 86400 + 86399 ∧
    ¬ beginning.IsLeap ∧ ¬ ending.IsLeap ∧ beginning ≤ ending ∧
    hasLasted beginning ending 16544868105599 = true ∧
    hasLasted beginning ending 16544868105598 = true ∧
    hasLasted beginning ending 16544868105600 = false ∧
    Span.ofSeconds? 0x7FFFFFFFFFFFFFFF = none ∧
    hasLasted? beginning ending 0x7FFFFFFFFFFFFFFF = some false := by
  have hbeginning : ¬ beginning.IsLeap := by decide
  have hending : ¬ ending.IsLeap := by decide
  have hexact := hasLasted_exact hbeginning hending
  obtain ⟨hwhole, -, -, -, hfewer, -⟩ := hexact 16544868105599
  obtain ⟨hmore, -⟩ := hexact 16544868105600
  obtain ⟨-, -, hcompared, hrefused, -⟩ := hexact 0x7FFFFFFFFFFFFFFF
  have hlasted := hwhole.mpr (by decide)
  have hlongest : Span.ofSeconds? 0x7FFFFFFFFFFFFFFF = none :=
    Span.ofSeconds?_eq_none_iff.mpr (by decide)
  refine ⟨by decide, by decide, hbeginning, hending, by decide, hlasted,
    hfewer _ (by decide) hlasted, ?_, hlongest, ?_⟩
  · exact Bool.eq_false_iff.mpr fun h => absurd (hmore.mp h) (by decide)
  · have hshort : hasLasted beginning ending 0x7FFFFFFFFFFFFFFF = false :=
      Bool.eq_false_iff.mpr fun h => absurd ((hrefused hlongest).mp h) (by decide)
    rw [hcompared, hshort]

end Instant

end CpuAlert.Time
