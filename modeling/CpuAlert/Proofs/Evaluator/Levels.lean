import CpuAlert.Proofs.Evaluator.Silence

/-!
# The level and its notifications

The level moves between rest, warning and critical, and while nothing is silenced
it moves only with a notification: upwards with a trigger of the new level, and
back to rest with a recovery. Only where alerting is switched off does it end
without one. So whoever listens to the triggers alone always knows whether a
level is active, and never hears of a recovery from nothing.

The converse fails in one place: a warning may be notified while the level is
critical, and then the level stays.

## Main definitions

* `Evaluator.LevelStep` — the steps of the level
* `Level.announced` — what is notified when the level becomes this one
* `Evaluator.IsRaised` — a warning or a critical trigger came out since the last
  recovery

## Main results

* `Evaluator.HasOwnLevel.levelStep` — a reading moves the level by such a step
* `Evaluator.announces` — and a change of it is notified
* `Evaluator.level_moves_with_notifications` — the level of a run, told by its
  triggers
-/

namespace CpuAlert

/-- What is notified when the level becomes this one: rest is announced by a
recovery, everything else by itself. -/
def Level.announced : Level → Level
  | .none => .recovery
  | .warning => .warning
  | .critical => .critical
  | .recovery => .recovery
  | .test => .test

namespace Evaluator

variable {e : Evaluator} {s : Sample}

/-! ## One reading -/

/-- The steps of the level: it rises, from rest or from a warning, or ends. -/
inductive LevelStep : Level → Level → Prop
  | warned : LevelStep .none .warning
  | alarmed : LevelStep .none .critical
  | worsened : LevelStep .warning .critical
  | recovered : LevelStep .warning .none
  | relieved : LevelStep .critical .none

/-- A critical level is not lowered to a warning. -/
theorem active_evaluate_ne_warning (hcritical : e.active = .critical) (s : Sample) :
    (e.evaluate s).2.active ≠ .warning := by
  cases hon : s.config.enabled with
  | false =>
    rw [evaluate_of_disabled hon]
    exact nofun
  | true =>
    rw [active_evaluate e s hon, hcritical]
    split
    · exact nofun
    · exact nofun
    · simp
    · exact nofun

/-- A reading moves the level by one of its steps. -/
theorem HasOwnLevel.levelStep (h : e.HasOwnLevel) (hne : (e.evaluate s).2.active ≠ e.active) :
    LevelStep e.active (e.evaluate s).2.active := by
  have hkept := active_evaluate_ne_warning (e := e) (s := s)
  have h' := h.evaluate s
  rw [HasOwnLevel] at h h'
  generalize (e.evaluate s).2.active = level at hne hkept h' ⊢
  -- three levels before and three after; only from critical to warning there is no step
  rcases h with hbefore | hbefore | hbefore <;> rcases h' with rfl | rfl | rfl <;>
    rw [hbefore] at hne ⊢
  · exact absurd rfl hne
  · exact .warned
  · exact .alarmed
  · exact .recovered
  · exact absurd rfl hne
  · exact .worsened
  · exact .relieved
  · exact absurd rfl (hkept hbefore)
  · exact absurd rfl hne

/-- A change of the level is notified, unless alerting is switched off or
notifications are silenced. -/
theorem announces (hon : s.config.enabled = true) (hloud : s.silenced = false)
    (hne : (e.evaluate s).2.active ≠ e.active) :
    ∃ t ∈ (e.evaluate s).1, t.level = (e.evaluate s).2.active.announced := by
  -- without a verdict of one of the three levels, the level stays
  have hverdict : e.verdict s = some (e.evaluate s).2.active.announced := by
    rw [active_evaluate e s hon] at hne ⊢
    split at hne
    · assumption
    · assumption
    · rename_i hverdict
      split at hne
      · rename_i hraises
        rw [if_pos hraises]
        exact hverdict
      · exact absurd rfl hne
    · exact absurd rfl hne
  rw [evaluate_fst, hloud, hverdict]
  exact ⟨_, List.mem_singleton.mpr rfl, rfl⟩

theorem hasOwnLevel_fresh : fresh.HasOwnLevel := .inl rfl

/-- The levels between which an evaluator moves are never left. -/
theorem HasOwnLevel.run (h : e.HasOwnLevel) (ss : List Sample) : (e.run ss).2.HasOwnLevel := by
  induction ss generalizing e with
  | nil => exact h
  | cons s ss ih => exact ih (h.evaluate s)

/-! ## Runs -/

variable {ss : List Sample} {n : Fin ss.length}

/-- A warning or a critical trigger comes out at the place. -/
def RaisesAt (ss : List Sample) (n : Fin ss.length) : Prop :=
  Emits ss n .warning ∨ Emits ss n .critical

/-- A recovery comes out at the place, or alerting is switched off there. -/
def EndsAt (ss : List Sample) (n : Fin ss.length) : Prop :=
  Emits ss n .recovery ∨ (ss.get n).config.enabled = false

/-- At one of the first `n` places a warning or a critical trigger came out, later
than every recovery and than every place where alerting was switched off. -/
def IsRaised (ss : List Sample) (n : Nat) : Prop :=
  ∃ j : Fin ss.length, j.val < n ∧ RaisesAt ss j ∧
    ∀ k : Fin ss.length, k.val < n → EndsAt ss k → k < j

/-- A place has one verdict at most. -/
theorem RaisesAt.not_endsAt (h : RaisesAt ss n) : ¬ EndsAt ss n := by
  have hverdict : (after ss n).verdict (ss.get n) = some .warning ∨
      (after ss n).verdict (ss.get n) = some .critical :=
    h.imp (fun h => (emits_iff.mp h).2) fun h => (emits_iff.mp h).2
  rintro (hrecovery | hoff)
  · have hother := (emits_iff.mp hrecovery).2
    rcases hverdict with hverdict | hverdict <;> cases hverdict.symm.trans hother
  · have hnone := verdict_of_disabled (e := after ss n) hoff
    rcases hverdict with hverdict | hverdict <;> cases hverdict.symm.trans hnone

/-- Whether the level is raised is decided by the last place, or before it. -/
theorem isRaised_succ_iff :
    IsRaised ss (n + 1) ↔ RaisesAt ss n ∨ ¬ EndsAt ss n ∧ IsRaised ss n := by
  constructor
  · rintro ⟨j, hj, hraises, hlast⟩
    rcases Nat.lt_succ_iff_lt_or_eq.mp hj with hlt | heq
    · -- a place that raises the level before has to stand after this one, if this one ends it
      refine .inr ⟨fun hends => ?_, j, hlt, hraises, fun k hk => hlast k (Nat.lt_succ_of_lt hk)⟩
      exact absurd (hlast n (Nat.lt_succ_self n) hends) (Nat.not_lt.mpr hlt.le)
    · exact .inl (Fin.ext heq ▸ hraises)
  · rintro (hraises | ⟨hends, j, hj, hraises, hlast⟩)
    · -- what ends at the last place would have to be raised there
      refine ⟨n, Nat.lt_succ_self n, hraises, fun k hk hk' => ?_⟩
      rcases Nat.lt_succ_iff_lt_or_eq.mp hk with hlt | heq
      · exact hlt
      · exact absurd (Fin.ext heq ▸ hk') hraises.not_endsAt
    · refine ⟨j, Nat.lt_succ_of_lt hj, hraises, fun k hk hk' => ?_⟩
      rcases Nat.lt_succ_iff_lt_or_eq.mp hk with hlt | heq
      · exact hlast k hlt hk'
      · exact absurd (Fin.ext heq ▸ hk') hends

theorem hasOwnLevel_after (ss : List Sample) (n : Nat) : (after ss n).HasOwnLevel :=
  hasOwnLevel_fresh.run (ss.take n)

/-- At a place that is not silenced the level becomes active with a trigger, and
stays so until a recovery, or until alerting is switched off. -/
theorem active_after_succ_ne_none_iff (hloud : (ss.get n).silenced = false) :
    (after ss (n + 1)).active ≠ .none ↔
      RaisesAt ss n ∨ ¬ EndsAt ss n ∧ (after ss n).active ≠ .none := by
  have hraises : RaisesAt ss n ↔ (after ss n).verdict (ss.get n) = some .warning ∨
      (after ss n).verdict (ss.get n) = some .critical := by
    simp only [RaisesAt, emits_iff, hloud, true_and]
  have hends : EndsAt ss n ↔ (after ss n).verdict (ss.get n) = some .recovery ∨
      (ss.get n).config.enabled = false := by
    simp only [EndsAt, emits_iff, hloud, true_and]
  rw [hraises, hends, after_succ]
  cases hon : (ss.get n).config.enabled with
  | false =>
    rw [evaluate_of_disabled hon, verdict_of_disabled hon]
    simp
  | true =>
    rw [active_evaluate _ _ hon]
    -- a warning leaves a critical level, which is active too
    rcases hverdict : (after ss n).verdict (ss.get n) with - | l
    · simp
    · cases l with
      | warning =>
        rcases hasOwnLevel_after ss n with hlevel | hlevel | hlevel <;> simp [hlevel]
      | critical | recovery | none | test => simp

/-- In a run without silence the level is active exactly while it is raised. -/
theorem active_after_ne_none_iff (hloud : ∀ s ∈ ss, s.silenced = false) {n : Nat}
    (hn : n ≤ ss.length) : (after ss n).active ≠ .none ↔ IsRaised ss n := by
  induction n with
  | zero =>
    refine ⟨fun h => absurd rfl h, ?_⟩
    rintro ⟨j, hj, -⟩
    exact absurd hj (Nat.not_lt_zero _)
  | succ n ih =>
    -- both sides are decided by the last place, in the same way
    have hplace := active_after_succ_ne_none_iff (n := ⟨n, hn⟩) (hloud _ (List.get_mem ss _))
    rw [hplace, ih (Nat.le_of_succ_le hn)]
    exact (isRaised_succ_iff (n := ⟨n, hn⟩)).symm

/-- A recovery comes out while a level is active. -/
theorem active_ne_none_of_emits (h : Emits ss n .recovery) : (after ss n).active ≠ .none := by
  obtain ⟨hspoken, -⟩ := verdict_eq_some_iff.mp (emits_iff.mp h).2
  exact (spokenFor_eq_recovery_iff.mp hspoken).2.2.2.2

/-- **Level changes are notified.** Whatever an evaluator has read, the level moves
by one of its steps or stays; and if alerting is switched on and nothing is
silenced, a change comes with the trigger that announces the new level. In a run
without silence the level is therefore active exactly if a warning or a critical
trigger came out later than every recovery and than every reading with alerting
switched off, and between two recoveries there is one of these triggers. -/
theorem level_moves_with_notifications (ss : List Sample) :
    (∀ s,
      let e := (fresh.run ss).2
      let r := e.evaluate s
      r.2.active ≠ e.active →
        LevelStep e.active r.2.active ∧
          (s.config.enabled = true → s.silenced = false →
            ∃ t ∈ r.1, t.level = r.2.active.announced)) ∧
    ((∀ s ∈ ss, s.silenced = false) → ∀ n : Fin ss.length,
      ((after ss (n + 1)).active ≠ .none ↔ IsRaised ss (n + 1)) ∧
      (Emits ss n .recovery →
        ∃ j, j < n ∧ RaisesAt ss j ∧ ∀ k, k < n → Emits ss k .recovery → k < j)) := by
  constructor
  · intro s e r hne
    have hlevel : e.HasOwnLevel := hasOwnLevel_fresh.run ss
    exact ⟨hlevel.levelStep hne, fun hon hloud => announces hon hloud hne⟩
  · intro hloud n
    refine ⟨active_after_ne_none_iff hloud n.isLt, fun hrecovery => ?_⟩
    have hactive := active_ne_none_of_emits hrecovery
    obtain ⟨j, hj, hraises, hlast⟩ := (active_after_ne_none_iff hloud n.isLt.le).mp hactive
    exact ⟨j, hj, hraises, fun k hk hk' => hlast k hk (.inl hk')⟩

/-- A reading under a configuration that notifies everything at once. -/
def atOnce (cpuPercent : Float) (enabled : Bool) : Sample where
  time := .epoch
  cpuPercent := cpuPercent
  config := { enabled, criticalWindow := 0, recoveryWindow := 0, cooldown := 0 }
  silenced := false

/-- A critical reading, one with alerting switched off, a second critical one, and
a calm one. -/
def switchedOff : List Sample := [atOnce 90 true, atOnce 90 false, atOnce 90 true, atOnce 10 true]

/-- The place of the calm one. -/
def calmPlace : Fin switchedOff.length := ⟨3, by decide⟩

/-- The recovery belongs to the second critical trigger: the level of the first one
ended where alerting was switched off. A third critical reading raises the level
again, with its own trigger. -/
theorem level_moves_switchedOff :
    (∀ s ∈ switchedOff, s.silenced = false) ∧ Emits switchedOff calmPlace .recovery ∧
      ¬ IsRaised switchedOff 2 ∧
      (∃ j, j < calmPlace ∧ RaisesAt switchedOff j ∧
        ∀ k, k < calmPlace → Emits switchedOff k .recovery → k < j) ∧
      ∃ t ∈ ((fresh.run switchedOff).2.evaluate (atOnce 90 true)).1, t.level = .critical := by
  have hloud : ∀ s ∈ switchedOff, s.silenced = false := by decide
  have hrecovery : Emits switchedOff calmPlace .recovery := emits_iff.mpr (by decide)
  have hrest : (after switchedOff 2).active = .none := by decide
  have hrises : ((fresh.run switchedOff).2.evaluate (atOnce 90 true)).2.active = .critical := by
    decide
  obtain ⟨hreadings, hplaces⟩ := level_moves_with_notifications switchedOff
  obtain ⟨-, hannounced⟩ := hreadings (atOnce 90 true) (by decide)
  have htrigger := hannounced rfl rfl
  rw [hrises] at htrigger
  exact ⟨hloud, hrecovery, fun h => (hplaces hloud ⟨1, by decide⟩).1.mpr h hrest,
    (hplaces hloud calmPlace).2 hrecovery, htrigger⟩

end Evaluator

end CpuAlert
