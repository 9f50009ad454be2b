import CpuAlert.Config

/-!
# Usable configurations

## Main results

* `Config.violation?_eq_none_iff` — the conditions of a usable configuration
* `Config.isNumber_of_usable` — its thresholds are numbers
-/

namespace CpuAlert

open Float.Model (UnpackedFloat)

/-- What is at most something is a number. -/
theorem isNaN_eq_false_of_le {x y : Float} (h : x ≤ y) : x.isNaN = false := by
  have hle : (x.toModel.unpack.compare y.toModel.unpack).any (·.isLE) = true := of_decide_eq_true h
  cases hx : x.toModel.unpack with
  | notANumber =>
    rw [hx] at hle
    exact absurd hle Bool.false_ne_true
  | infinity | zero | finite =>
    rw [Float.isNaN, Float.Model.isNaN, hx]
    rfl

/-- What is at least something is a number. -/
theorem isNaN_eq_false_of_ge {x y : Float} (h : x ≥ y) : x.isNaN = false := by
  have hle : (y.toModel.unpack.compare x.toModel.unpack).any (·.isLE) = true := of_decide_eq_true h
  cases hx : x.toModel.unpack with
  | notANumber =>
    rw [hx] at hle
    cases hy : y.toModel.unpack <;> rw [hy] at hle <;> exact absurd hle Bool.false_ne_true
  | infinity | zero | finite =>
    rw [Float.isNaN, Float.Model.isNaN, hx]
    rfl

/-- What is below something is a number. -/
theorem isNaN_eq_false_of_lt {x y : Float} (h : x < y) : x.isNaN = false := by
  have hlt : x.toModel.unpack.lt y.toModel.unpack = true := of_decide_eq_true h
  cases hx : x.toModel.unpack with
  | notANumber =>
    rw [hx] at hlt
    exact absurd hlt Bool.false_ne_true
  | infinity | zero | finite =>
    rw [Float.isNaN, Float.Model.isNaN, hx]
    rfl

namespace Config

/-- A configuration is usable if all its conditions hold. -/
theorem violation?_eq_none_iff {c : Config} :
    c.violation? = none ↔
      (0 < c.warningPercent ∧ c.warningPercent ≤ 100) ∧
      (0 < c.criticalPercent ∧ c.criticalPercent ≤ 100) ∧
      (0 ≤ c.recoveryPercent ∧ c.recoveryPercent ≤ 100) ∧
      ¬ c.criticalPercent ≤ c.warningPercent ∧ ¬ c.warningPercent ≤ c.recoveryPercent ∧
      (0 < c.warningWindow ∧ 0 < c.criticalWindow ∧ 0 < c.recoveryWindow) ∧ 0 ≤ c.cooldown := by
  simp only [violation?, gt_iff_lt, ge_iff_le]
  grind

/-- The thresholds of a usable configuration are numbers. -/
theorem isNumber_of_usable {c : Config} (h : c.violation? = none) :
    c.warningPercent.isNaN = false ∧ c.criticalPercent.isNaN = false ∧
      c.recoveryPercent.isNaN = false := by
  obtain ⟨⟨-, hwarning⟩, ⟨-, hcritical⟩, ⟨-, hrecovery⟩, -⟩ := violation?_eq_none_iff.mp h
  exact ⟨isNaN_eq_false_of_le hwarning, isNaN_eq_false_of_le hcritical,
    isNaN_eq_false_of_le hrecovery⟩

end Config

end CpuAlert
