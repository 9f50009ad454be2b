import CpuAlert.Time.Calendar

/-!
# Instants

An instant is a second since 1 January 1970 (UTC) and a fraction of it in
nanoseconds. A fraction of a whole second or more belongs to the leap second
that follows. Instants reach from the first second of the year -262143 to the
last of the year 262142.

## Main definitions

* `Time.Instant` — an instant within the calendar's range
* `Time.Instant.nanosSince` — the exact time between two instants
* `Time.Instant.toMillis`, `Time.Instant.ofMillis?` — whole milliseconds
* `Time.Instant.shift?` — a number of seconds later
* `Time.Instant.hasLasted` — whether a window of so many seconds has passed

## Main results

* `Time.Instant.ofMillis?_toMillis` — an instant of whole milliseconds outside
  a leap second is recovered from its count
-/

namespace CpuAlert.Time

/-- The first second of the year -262143. -/
def firstSecond : Int := -8334601228800

/-- The last second of the year 262142. -/
def lastSecond : Int := 8210266876799

/-- Nanoseconds in a second. -/
def nanosPerSecond : Nat := 1000000000

/-- A second since the epoch and a fraction of it, which reaches past one
second only inside a leap second. -/
structure Instant where
  sec : Int
  nano : Nat
  first_le : firstSecond ≤ sec
  le_last : sec ≤ lastSecond
  nano_lt : nano < 2 * nanosPerSecond
  deriving DecidableEq

namespace Instant

/-- The instant with this second and fraction, if it is in range. -/
def mk? (sec : Int) (nano : Nat) : Option Instant :=
  if h : firstSecond ≤ sec ∧ sec ≤ lastSecond ∧ nano < 2 * nanosPerSecond then
    some ⟨sec, nano, h.1, h.2.1, h.2.2⟩
  else none

/-- 1 January 1970. -/
def epoch : Instant := ⟨0, 0, by decide, by decide, by decide⟩

/-- The last instant of the calendar outside leap seconds. -/
def ending : Instant := ⟨lastSecond, 999999999, by decide, by decide, by decide⟩

instance : Inhabited Instant := ⟨epoch⟩

instance : LT Instant := ⟨fun a b => a.sec < b.sec ∨ a.sec = b.sec ∧ a.nano < b.nano⟩

instance : LE Instant := ⟨fun a b => a.sec < b.sec ∨ a.sec = b.sec ∧ a.nano ≤ b.nano⟩

theorem lt_def {a b : Instant} : a < b ↔ a.sec < b.sec ∨ a.sec = b.sec ∧ a.nano < b.nano :=
  Iff.rfl

theorem le_def {a b : Instant} : a ≤ b ↔ a.sec < b.sec ∨ a.sec = b.sec ∧ a.nano ≤ b.nano :=
  Iff.rfl

instance (a b : Instant) : Decidable (a < b) := decidable_of_iff _ lt_def.symm

instance (a b : Instant) : Decidable (a ≤ b) := decidable_of_iff _ le_def.symm

theorem not_lt {a b : Instant} : ¬ a < b ↔ b ≤ a := by
  rw [lt_def, le_def]; omega

/-- The second of the day. -/
def secondOfDay (a : Instant) : Int := a.sec % 86400

/-- The leap seconds counted between two instants, by their times of day: a
leap second that the earlier time of day has entered is still to come for the
later one. -/
def leapBetween (later earlier : Instant) : Int :=
  if earlier.secondOfDay < later.secondOfDay ∧ nanosPerSecond ≤ earlier.nano then 1
  else if later.secondOfDay < earlier.secondOfDay ∧ nanosPerSecond ≤ later.nano then -1
  else 0

/-- The time from `earlier` to `later` in nanoseconds, negative if they are the
other way round. -/
def nanosSince (later earlier : Instant) : Int :=
  (later.sec - earlier.sec + leapBetween later earlier) * nanosPerSecond
    + ((later.nano : Int) - earlier.nano)

/-- The whole milliseconds since the epoch, rounded down. -/
def toMillis (a : Instant) : Int := a.sec * 1000 + (a.nano / 1000000 : Nat)

/-- The instant a number of milliseconds after the epoch, if it is in range. -/
def ofMillis? (ms : Int) : Option Instant :=
  mk? (ms / 1000) ((ms % 1000).toNat * 1000000)

/-- An instant of whole milliseconds is recovered from its count. -/
theorem ofMillis?_toMillis {a : Instant} (hleap : a.nano < nanosPerSecond)
    (hwhole : a.nano % 1000000 = 0) : ofMillis? a.toMillis = some a := by
  obtain ⟨sec, nano, h₁, h₂, h₃⟩ := a
  simp only [nanosPerSecond] at hleap hwhole
  have hsec : (sec * 1000 + (nano / 1000000 : Nat)) / 1000 = sec := by omega
  have hnano : ((sec * 1000 + (nano / 1000000 : Nat)) % 1000).toNat * 1000000 = nano := by omega
  rw [ofMillis?, toMillis, hsec, hnano, mk?, dif_pos ⟨h₁, h₂, h₃⟩]

/-- The instant a number of seconds later, if it is in range. From inside a leap
second, which is over one second after the second it belongs to, this is an instant
outside of it. -/
def shift? (a : Instant) (seconds : Int) : Option Instant :=
  if a.nano < nanosPerSecond ∨ seconds = 0 then mk? (a.sec + seconds) a.nano
  else if 0 < seconds then mk? (a.sec + seconds) (a.nano - nanosPerSecond)
  else mk? (a.sec + 1 + seconds) (a.nano - nanosPerSecond)

/-- Whatever is some seconds away is outside leap seconds. -/
theorem nano_shift? {a b : Instant} {seconds : Int} (hne : seconds ≠ 0)
    (h : a.shift? seconds = some b) : b.nano < nanosPerSecond := by
  have hnano := a.nano_lt
  have hmk {sec : Int} {nano : Nat} (hmk : mk? sec nano = some b) (hlt : nano < nanosPerSecond) :
      b.nano < nanosPerSecond := by
    rw [mk?] at hmk
    split at hmk
    · exact Option.some.inj hmk ▸ hlt
    · cases hmk
  rw [shift?] at h
  split at h
  · rename_i hordinary
    exact hmk h (hordinary.resolve_right hne)
  · split at h <;> exact hmk h (by omega)

/-- The longest time span in seconds that is counted; a longer one never
passes. -/
def longestSpan : Int := 9223372036854775

/-- Whether at least `required` seconds lie between `since` and `now`. Nothing
is required by zero or less. -/
def hasLasted (since now : Instant) (required : Int) : Bool :=
  if required ≤ 0 then true
  else if required ≤ longestSpan then required * nanosPerSecond ≤ now.nanosSince since
  else false

end Instant

end CpuAlert.Time
