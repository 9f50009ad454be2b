import CpuAlert.Proofs.Evaluator.Run

/-!
# What silence takes away

Silence is meant to hold notifications back and nothing else. This file compares
two evaluators that see the same readings: one is silenced throughout, the other
is silenced as it may be and has no cooldown. The first never sends anything, so
no cooldown ever begins for it, and the second may send whenever its window has
lasted. Level and windows are therefore the same in both after every reading.

That the level is the same is not plain from the code: a silenced warning raises
the level from rest only, one that is sent raises it from everything but a
critical level. Both rules agree on the levels that an evaluator can reach.

## Main definitions

* `Sample.silent`, `Sample.withoutCooldown` — a reading for either evaluator
* `Evaluator.Shadows` — a silenced evaluator compared with the other one

## Main results

* `Evaluator.Shadows.evaluate` — a reading preserves the comparison
* `Evaluator.silent_run_agrees` — level and windows are the same after any
  number of readings, and nothing has been sent
-/

namespace CpuAlert

/-- The same reading under silence. -/
def Sample.silent (s : Sample) : Sample := { s with silenced := true }

/-- The same reading with a configuration that has no cooldown. -/
def Sample.withoutCooldown (s : Sample) : Sample :=
  { s with config := { s.config with cooldown := 0 } }

namespace Evaluator

open Time (Instant)

variable {a b e : Evaluator} {s : Sample}

/-! ## Levels in reach -/

/-- The levels between which an evaluator moves. -/
def HasOwnLevel (e : Evaluator) : Prop :=
  e.active = .none ∨ e.active = .warning ∨ e.active = .critical

/-- A reading leads to one of these levels again. -/
theorem HasOwnLevel.evaluate (h : e.HasOwnLevel) (s : Sample) :
    (e.evaluate s).2.HasOwnLevel := by
  unfold HasOwnLevel
  cases hon : s.config.enabled with
  | false =>
    rw [evaluate_of_disabled hon]
    exact .inl rfl
  | true =>
    rw [active_evaluate e s hon]
    split
    · exact .inr (.inr rfl)
    · exact .inl rfl
    · split
      · exact .inr (.inl rfl)
      · exact h
    · exact h

/-! ## The comparison -/

/-- The level that a reading speaks for depends on the active level alone. -/
theorem spokenFor_congr (h : a.active = b.active) (s : Sample) : a.spokenFor s = b.spokenFor s := by
  obtain ⟨active, _⟩ := a
  obtain ⟨active', _⟩ := b
  obtain rfl : active = active' := h
  rfl

/-- The silenced evaluator has the level and the windows of the other one, and
has never sent anything. -/
structure Shadows (a b : Evaluator) : Prop where
  active : a.active = b.active
  since (l : Level) : a.since l = b.since l
  hasOwnLevel : a.HasOwnLevel
  unsent (l : Level) : a.sentAt l = none
  unshown (l : Level) : a.lastAt l = none

/-- Neither evaluator waits for a cooldown, so they come to the same verdict. -/
theorem Shadows.verdict_eq (h : a.Shadows b) (s : Sample) :
    a.verdict s.silent = b.verdict s.withoutCooldown := by
  have hspoken : a.spokenFor s.silent = b.spokenFor s.withoutCooldown := spokenFor_congr h.active s
  have ha (l : Level) : ∀ last ∈ a.sentAt l,
      Instant.Elapsed last s.silent.time s.silent.config.cooldown := by
    rw [h.unsent l]
    rintro last ⟨⟩
  have hb (l : Level) : ∀ last ∈ b.sentAt l,
      Instant.Elapsed last s.withoutCooldown.time s.withoutCooldown.config.cooldown :=
    fun _ _ => .inl (Int.le_refl 0)
  ext l
  rw [verdict_eq_some_iff, verdict_eq_some_iff, hspoken, h.since l, and_iff_left (ha l),
    and_iff_left (hb l)]
  rfl

/-- The levels stay the same: a warning that is not sent raises the level exactly
if one that is sent changes it. -/
theorem Shadows.active_evaluate_eq (h : a.Shadows b) (s : Sample) :
    (a.evaluate s.silent).2.active = (b.evaluate s.withoutCooldown).2.active := by
  cases hon : s.config.enabled with
  | false => rw [evaluate_of_disabled (s := s.silent) hon,
      evaluate_of_disabled (s := s.withoutCooldown) hon]
  | true =>
    rw [active_evaluate a s.silent hon, active_evaluate b s.withoutCooldown hon, h.verdict_eq s]
    cases b.verdict s.withoutCooldown with
    | none => exact h.active
    | some l =>
      cases l with
      | critical | recovery => rfl
      | none | test => exact h.active
      | warning =>
        have hlevel := h.hasOwnLevel
        simp only [HasOwnLevel, h.active] at hlevel ⊢
        rcases hlevel with hlevel | hlevel | hlevel <;>
          simp [hlevel, Sample.silent]

/-- A reading feeds the same windows in both. -/
theorem Shadows.feeds_iff (h : a.Shadows b) (s : Sample) (l : Level) :
    a.Feeds s.silent l ↔ b.Feeds s.withoutCooldown l := by
  cases l with
  | recovery =>
    show (_ ∧ _ ∧ _ ∧ _ ∧ a.active ≠ .none) ↔ _
    rw [h.active]
    rfl
  | none | warning | critical | test => exact Iff.rfl

/-- A reading preserves the comparison. -/
theorem Shadows.evaluate (h : a.Shadows b) (s : Sample) :
    (a.evaluate s.silent).2.Shadows (b.evaluate s.withoutCooldown).2 where
  active := h.active_evaluate_eq s
  since l := by
    rw [since_evaluate, since_evaluate, h.verdict_eq s, h.since l]
    exact if_congr (and_congr_left fun _ => h.feeds_iff s l) rfl rfl
  hasOwnLevel := h.hasOwnLevel.evaluate s.silent
  unsent l := by
    rw [sentAt_evaluate, if_neg fun hsent => Bool.noConfusion hsent.1]
    exact h.unsent l
  unshown l := by
    rw [lastAt_evaluate, if_neg fun hsent => Bool.noConfusion hsent.1]
    exact h.unshown l

/-- So do all readings of a run. -/
theorem Shadows.run (h : a.Shadows b) (ss : List Sample) :
    (a.run (ss.map Sample.silent)).2.Shadows (b.run (ss.map Sample.withoutCooldown)).2 := by
  induction ss generalizing a b with
  | nil => exact h
  | cons s ss ih => exact ih (h.evaluate s)

theorem shadows_fresh : fresh.Shadows fresh where
  active := rfl
  since _ := rfl
  hasOwnLevel := .inl rfl
  unsent _ := rfl
  unshown l := by cases l <;> rfl

/-- A silenced run sends nothing. -/
theorem run_silent_fst (e : Evaluator) (ss : List Sample) :
    ∀ ts ∈ (e.run (ss.map Sample.silent)).1, ts = [] := by
  induction ss generalizing e with
  | nil => rintro ts ⟨⟩
  | cons s ss ih =>
    intro ts hts
    rcases List.mem_cons.mp hts with hfirst | hrest
    · exact hfirst.trans ((evaluate_fst e s.silent).trans (if_pos rfl))
    · exact ih _ ts hrest

/-- **Silence only removes side effects.** Let one evaluator see readings under
silence throughout, and another one the same readings without a cooldown,
silenced or not. After any number of them both have the same level and the same
windows, the first has sent nothing, and it shows no notification. -/
theorem silent_run_agrees (ss : List Sample) :
    (∀ n,
      let a := after (ss.map Sample.silent) n
      let b := after (ss.map Sample.withoutCooldown) n
      a.active = b.active ∧ a.warningSince = b.warningSince ∧
        a.criticalSince = b.criticalSince ∧ a.recoverySince = b.recoverySince ∧
        a.lastWarningAt = none ∧ a.lastCriticalAt = none ∧ a.lastRecoveryAt = none) ∧
    ∀ ts ∈ (fresh.run (ss.map Sample.silent)).1, ts = [] := by
  refine ⟨fun n => ?_, run_silent_fst fresh ss⟩
  have h := shadows_fresh.run (ss.take n)
  rw [List.map_take, List.map_take] at h
  exact ⟨h.active, h.since .warning, h.since .critical, h.since .recovery, h.unshown .warning,
    h.unshown .critical, h.unshown .recovery⟩

end Evaluator

end CpuAlert
