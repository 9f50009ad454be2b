import CpuAlert.Proofs.Evaluator.Sendings
import CpuAlert.Proofs.Time.Distance

/-!
# Notifications of a level keep their distance

If every configuration of a run has a cooldown of at least `c` seconds, then any
two notifications of a level are as many times `c` apart as the one comes after
the other. Nothing else in the run makes a difference: windows close, alerting
is switched off and on again, notifications are silenced, and clocks go back.

The evaluator compares each notification with the one before it only. The
distances add up, but for leap seconds: each notification that falls into one
may cost a second of the sum.

## Main results

* `Evaluator.isChain_sendings` — neighbours are a cooldown apart
* `Evaluator.sendings_spaced` — so are all, and a time span holds few of them
* `Evaluator.sendings_across_leap_second` — three notifications, each a cooldown
  after the one before, of which the last is not two cooldowns after the first
-/

namespace CpuAlert.Evaluator

open Time (Instant nanosPerSecond)
open Time.Instant (inSpan leapsFrom leapsIn)

variable {c : Int} {ss : List Sample}

/-- Each notification of a level comes a cooldown after the one before it. -/
theorem isChain_sendings (hc : 1 ≤ c) (hcool : ∀ s ∈ ss, c ≤ s.config.cooldown) (l : Level) :
    (sendings l ss).IsChain fun a b => c * nanosPerSecond ≤ b.nanosSince a := by
  induction ss using List.reverseRecOn with
  | nil => exact .nil
  | append_singleton ss s ih =>
    have hbefore := ih fun s' hs' => hcool s' (List.mem_append_left _ hs')
    have hlong : c ≤ s.config.cooldown := hcool s (by simp)
    rw [sendings_append]
    split
    · rename_i hsent
      refine List.isChain_append.mpr ⟨hbefore, .singleton _, fun last hlast t ht => ?_⟩
      obtain rfl : s.time = t := by simpa using ht
      rw [← sentAt_run] at hlast
      -- the cooldown was over, and it was no shorter than `c`
      rcases (verdict_eq_some_iff.1 hsent.2).2.2 last hlast with hnone | hlasted
      · omega
      · simp only [nanosPerSecond] at *
        omega
    · rwa [List.append_nil]

/-- The notifications of a level come out in order of time. -/
theorem pairwise_sendings (hc : 1 ≤ c) (hcool : ∀ s ∈ ss, c ≤ s.config.cooldown) (l : Level) :
    (sendings l ss).Pairwise (· < ·) := by
  have : IsTrans Instant (· < ·) := ⟨fun _ _ _ => Instant.lt_trans⟩
  refine ((isChain_sendings hc hcool l).imp fun a b h => Instant.lt_of_nanosSince ?_).pairwise
  simp only [nanosPerSecond] at *
  omega

/-- **Rate limit.** In a run with cooldowns of at least `c` seconds, any two
notifications of a level are as many times `c` seconds apart as the one comes
after the other, but for one second for each that falls into a leap second;
neighbours are a full `c` seconds apart. They come out in order of time, and a
time span holds at most one of them, and one more for every `c` seconds. -/
theorem sendings_spaced (hc : 1 ≤ c) (hcool : ∀ s ∈ ss, c ≤ s.config.cooldown) (l : Level) :
    let T := sendings l ss
    (∀ (j k : Nat) (hjk : j < k) (hk : k < T.length),
      (k - j) * (c * nanosPerSecond) ≤ T[k].nanosSince T[j] + leapsFrom T j k * nanosPerSecond) ∧
    (∀ (k : Nat) (hk : k + 1 < T.length), c * nanosPerSecond ≤ T[k + 1].nanosSince T[k]) ∧
    T.Pairwise (· < ·) ∧
    ∀ first last : Instant, ¬ first.IsLeap → ¬ last.IsLeap → first ≤ last →
      T.countP (inSpan first last) ≤
        (last.nanosSince first + leapsIn first last T * nanosPerSecond) / (c * nanosPerSecond)
          + 1 := by
  have hchain := isChain_sendings hc hcool l
  have hsorted := pairwise_sendings hc hcool l
  have hpos : 0 < c * nanosPerSecond := by
    simp only [nanosPerSecond]
    omega
  refine ⟨fun j k hjk hk => Instant.mul_le_nanosSince hchain hjk.le hk,
    List.isChain_iff_getElem.mp hchain, hsorted, fun first last hfirst hlast hspan => ?_⟩
  exact Instant.countP_inSpan_le hpos hchain hsorted hfirst hlast hspan

/-! ## Across a leap second -/

/-- Half a second before the midnight after 1 January 2001. -/
def beforeMidnight : Instant := ⟨978393599, 500000000, by decide, by decide, by decide⟩

/-- Half a minute later. -/
def afterMidnight : Instant := ⟨978393629, 500000000, by decide, by decide, by decide⟩

/-- In a leap second at the end of the first minute of that day. -/
def inLeapSecond : Instant := ⟨978393659, 1400000000, by decide, by decide, by decide⟩

/-- Critical readings that are notified at once, and again every thirty seconds. -/
def leapNight : List Sample :=
  [beforeMidnight, afterMidnight, inLeapSecond].map fun time =>
    { time, cpuPercent := 90, config := { criticalWindow := 0, cooldown := 30 }, silenced := false }

theorem sendings_leapNight :
    sendings .critical leapNight = [beforeMidnight, afterMidnight, inLeapSecond] := by
  decide

/-- Distances do not add up: the second of these notifications comes thirty
seconds after the first and the third thirty seconds after the second, but the
third less than sixty seconds after the first. -/
theorem sendings_across_leap_second :
    (∀ s ∈ leapNight, 30 ≤ s.config.cooldown) ∧
    sendings .critical leapNight = [beforeMidnight, afterMidnight, inLeapSecond] ∧
    inLeapSecond.nanosSince beforeMidnight < (2 - 0) * (30 * nanosPerSecond) := by
  decide

/-- One of the three is in a leap second, and no more than one second is
missing. -/
theorem sendings_spaced_leapNight :
    (1 : Int) ≤ 30 ∧ (∀ s ∈ leapNight, 30 ≤ s.config.cooldown) ∧
    leapsFrom [beforeMidnight, afterMidnight, inLeapSecond] 0 2 = 1 ∧
    (2 - 0) * (30 * nanosPerSecond) ≤
      inLeapSecond.nanosSince beforeMidnight + 1 * nanosPerSecond := by
  have hcool : ∀ s ∈ leapNight, 30 ≤ s.config.cooldown := by decide
  have hone : leapsFrom [beforeMidnight, afterMidnight, inLeapSecond] 0 2 = 1 := by decide
  obtain ⟨hspaced, -⟩ := sendings_spaced (c := 30) (by decide) hcool .critical
  simp only [sendings_leapNight] at hspaced
  have hlast := hspaced 0 2 (by decide) (by decide)
  rw [hone] at hlast
  exact ⟨by decide, hcool, hone, hlast⟩

end CpuAlert.Evaluator
