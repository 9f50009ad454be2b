import CpuAlert.Config.Update
import CpuAlert.Proofs.Config.Usable
import CpuAlert.Proofs.Store.ReadBack
import Mathlib.Data.Prod.Lex
import Mathlib.Order.Compare

/-!
# Configurations fit to be in force

The conditions of a usable configuration say more than is needed and less than is
meant. What is meant is that the thresholds rise from zero to a hundred percent;
that each of them lies in its range, and that none is something else than a number,
follows. The two come to the same because numbers are ordered, which is seen by
giving every double a rank.

A configuration that is fit to be in force has lists without blanks besides, and a
pause between attempts. Updates cannot lead away from these, and neither can a
database file that gives a configuration back.

## Main definitions

* `rank` — the place of a double among the numbers
* `Config.IsOrdered` — thresholds that rise, with windows and a cooldown
* `Config.IsFit` — a configuration fit to be in force

## Main results

* `compare_eq_compare_rank` — numbers are compared by their ranks
* `Config.violation?_eq_none_iff_isOrdered` — the conditions say what is meant
* `Config.Update.apply_isFit` — an update that is not refused
* `Database.readBack_isFit` — a configuration that a file gives back
-/

namespace CpuAlert

open Float.Model (UnpackedFloat)

/-! ## The order of numbers -/

/-- The place of a double among the numbers: first by its sign and kind, then by
its exponent, then by its mantissa. The two zeros have the same place. -/
def rank : UnpackedFloat → ℤ ×ₗ ℤ ×ₗ ℤ
  | .infinity .negative => toLex (-2, toLex (0, 0))
  | .finite .negative m e _ => toLex (-1, toLex (-e, -(m : ℤ)))
  | .zero _ | .notANumber => toLex (0, toLex (0, 0))
  | .finite .positive m e _ => toLex (1, toLex (e, (m : ℤ)))
  | .infinity .positive => toLex (2, toLex (0, 0))

/-- Ranks are compared part by part. -/
theorem compare_toLex (a a' b b' c c' : ℤ) :
    compare (toLex (a, toLex (b, c))) (toLex (a', toLex (b', c'))) =
      (compare a a').then ((compare b b').then (compare c c')) := by
  simp [Prod.Lex.compare_def, compareLex, compareOn]

theorem compare_natCast (m n : Nat) : compare (m : ℤ) n = compare m n := by
  cases h : compare m n with
  | lt => exact compare_lt_iff_lt.mpr (Int.ofNat_lt.mpr (compare_lt_iff_lt.mp h))
  | eq => exact compare_eq_iff_eq.mpr (congrArg _ (compare_eq_iff_eq.mp h))
  | gt => exact compare_gt_iff_gt.mpr (Int.ofNat_lt.mpr (compare_gt_iff_gt.mp h))

theorem compare_neg (a b : ℤ) : compare (-a) (-b) = (compare a b).swap := by
  cases h : compare a b with
  | lt => exact compare_gt_iff_gt.mpr (Int.neg_lt_neg (compare_lt_iff_lt.mp h))
  | eq => exact compare_eq_iff_eq.mpr (congrArg _ (compare_eq_iff_eq.mp h))
  | gt => exact compare_lt_iff_lt.mpr (Int.neg_lt_neg (compare_gt_iff_gt.mp h))

/-- Numbers are compared by their ranks. -/
theorem compare_eq_compare_rank {x y : UnpackedFloat} (hx : x ≠ .notANumber)
    (hy : y ≠ .notANumber) : x.compare y = some (compare (rank x) (rank y)) := by
  -- only finite numbers of the same sign need more than their sign and kind
  rcases x with (_ | _) | _ | _ | ⟨(_ | _), m, e, hm⟩ <;>
    rcases y with (_ | _) | _ | _ | ⟨(_ | _), m', e', hm'⟩ <;>
    first | rfl | exact absurd rfl hx | exact absurd rfl hy | skip
  · have hsame : compare (-1 : ℤ) (-1) = .eq := rfl
    show _ = some (compare (toLex (-1, toLex (-e, -(m : ℤ)))) (toLex (-1, toLex (-e', -(m' : ℤ)))))
    rw [compare_toLex, compare_neg e, compare_neg (m : ℤ), compare_natCast, hsame]
    exact congrArg some (Ordering.swap_then ..)
  · show _ = some (compare (toLex (1, toLex (e, (m : ℤ)))) (toLex (1, toLex (e', (m' : ℤ)))))
    rw [compare_toLex, compare_natCast]
    rfl

theorem isNaN_eq_false_iff {x : Float} : x.isNaN = false ↔ x.toModel.unpack ≠ .notANumber := by
  rw [Float.isNaN, Float.Model.isNaN]
  cases x.toModel.unpack with
  | notANumber => exact iff_of_false Bool.noConfusion (absurd rfl)
  | infinity | zero | finite => exact iff_of_true rfl (by rintro ⟨⟩)

/-- The rank of a double. -/
abbrev rankOf (x : Float) : ℤ ×ₗ ℤ ×ₗ ℤ := rank x.toModel.unpack

variable {x y : Float}

/-- A number is less than another one if its rank is. -/
theorem lt_iff_rank_lt (hx : x.isNaN = false) (hy : y.isNaN = false) :
    x < y ↔ rankOf x < rankOf y := by
  rw [isNaN_eq_false_iff] at hx hy
  have hlt : x < y ↔ x.toModel.unpack.lt y.toModel.unpack = true := decide_eq_true_iff
  rw [hlt, UnpackedFloat.lt, compare_eq_compare_rank hx hy, beq_iff_eq, Option.some_inj,
    compare_lt_iff_lt]

/-- A number is at most another one if its rank is. -/
theorem le_iff_rank_le (hx : x.isNaN = false) (hy : y.isNaN = false) :
    x ≤ y ↔ rankOf x ≤ rankOf y := by
  rw [isNaN_eq_false_iff] at hx hy
  have hle : x ≤ y ↔ x.toModel.unpack.le y.toModel.unpack = true := decide_eq_true_iff
  rw [hle, UnpackedFloat.le, compare_eq_compare_rank hx hy, Option.any_some,
    Ordering.isLE_iff_ne_gt, not_congr compare_gt_iff_gt, not_lt]

/-- A number without the sign of zero has the same rank. -/
theorem rankOf_unsigned (x : Float) : rankOf (unsigned x) = rankOf x := by
  rw [unsigned]
  split
  · rename_i hzero
    have hbeq : x.toModel.unpack.beq (0 : Float).toModel.unpack = true := hzero
    have hzero : (0 : Float).toModel.unpack = .zero .positive := rfl
    rw [rankOf, rankOf, hzero]
    rw [hzero] at hbeq
    cases hx : x.toModel.unpack with
    | notANumber | zero => rfl
    | infinity s | finite s =>
      rw [hx] at hbeq
      cases s <;> cases hbeq
  · rfl

theorem isNaN_unsigned (hx : x.isNaN = false) : (unsigned x).isNaN = false := by
  rw [unsigned]
  split
  · rfl
  · exact hx

/-! ## Conditions -/

namespace Config

/-- The thresholds rise from zero to a hundred percent, the windows have at least a
second each, and the cooldown is not negative. -/
structure IsOrdered (c : Config) : Prop where
  recovery_nonneg : 0 ≤ c.recoveryPercent
  recovery_lt : c.recoveryPercent < c.warningPercent
  warning_lt : c.warningPercent < c.criticalPercent
  critical_le : c.criticalPercent ≤ 100
  warningWindow : 1 ≤ c.warningWindow
  criticalWindow : 1 ≤ c.criticalWindow
  recoveryWindow : 1 ≤ c.recoveryWindow
  cooldown : 0 ≤ c.cooldown

variable {c : Config}

/-- Thresholds in order are numbers. -/
theorem IsOrdered.isNumber (h : c.IsOrdered) :
    c.recoveryPercent.isNaN = false ∧ c.warningPercent.isNaN = false ∧
      c.criticalPercent.isNaN = false :=
  ⟨isNaN_eq_false_of_ge h.recovery_nonneg, isNaN_eq_false_of_lt h.warning_lt,
    isNaN_eq_false_of_le h.critical_le⟩

/-- The order of thresholds that are numbers, by their ranks. -/
theorem isOrdered_iff (hrecovery : c.recoveryPercent.isNaN = false)
    (hwarning : c.warningPercent.isNaN = false) (hcritical : c.criticalPercent.isNaN = false) :
    c.IsOrdered ↔ rankOf 0 ≤ rankOf c.recoveryPercent ∧
      rankOf c.recoveryPercent < rankOf c.warningPercent ∧
      rankOf c.warningPercent < rankOf c.criticalPercent ∧ rankOf c.criticalPercent ≤ rankOf 100 ∧
      (1 ≤ c.warningWindow ∧ 1 ≤ c.criticalWindow ∧ 1 ≤ c.recoveryWindow) ∧ 0 ≤ c.cooldown := by
  rw [← le_iff_rank_le rfl hrecovery, ← lt_iff_rank_lt hrecovery hwarning,
    ← lt_iff_rank_lt hwarning hcritical, ← le_iff_rank_le hcritical rfl]
  constructor
  · intro h
    exact ⟨h.recovery_nonneg, h.recovery_lt, h.warning_lt, h.critical_le,
      ⟨h.warningWindow, h.criticalWindow, h.recoveryWindow⟩, h.cooldown⟩
  · rintro ⟨h0, h1, h2, h3, ⟨h4, h5, h6⟩, h7⟩
    exact ⟨h0, h1, h2, h3, h4, h5, h6, h7⟩

/-- The conditions of a usable configuration say that its thresholds are in order. -/
theorem violation?_eq_none_iff_isOrdered : c.violation? = none ↔ c.IsOrdered := by
  -- either way the thresholds are numbers, and then it is a matter of their ranks
  suffices h : c.recoveryPercent.isNaN = false → c.warningPercent.isNaN = false →
      c.criticalPercent.isNaN = false → (c.violation? = none ↔ c.IsOrdered) by
    constructor
    · intro hnone
      obtain ⟨hwarning, hcritical, hrecovery⟩ := isNumber_of_usable hnone
      exact (h hrecovery hwarning hcritical).mp hnone
    · intro hordered
      obtain ⟨hrecovery, hwarning, hcritical⟩ := hordered.isNumber
      exact (h hrecovery hwarning hcritical).mpr hordered
  intro hrecovery hwarning hcritical
  rw [violation?_eq_none_iff, isOrdered_iff hrecovery hwarning hcritical,
    lt_iff_rank_lt rfl hwarning, le_iff_rank_le hwarning rfl, lt_iff_rank_lt rfl hcritical,
    le_iff_rank_le hcritical rfl, le_iff_rank_le rfl hrecovery, le_iff_rank_le hrecovery rfl,
    le_iff_rank_le hcritical hwarning, le_iff_rank_le hwarning hrecovery, not_le, not_le]
  generalize rankOf 0 = zero, rankOf 100 = hundred, rankOf c.recoveryPercent = recovery,
    rankOf c.warningPercent = warning, rankOf c.criticalPercent = critical
  constructor
  · rintro ⟨-, ⟨-, hhundred⟩, ⟨hzero, -⟩, hupper, hlower, hwindows, hcooldown⟩
    exact ⟨hzero, hlower, hupper, hhundred, by omega, hcooldown⟩
  · rintro ⟨hzero, hlower, hupper, hhundred, hwindows, hcooldown⟩
    have hpositive := hzero.trans_lt hlower
    have hbelow := hupper.le.trans hhundred
    exact ⟨⟨hpositive, hbelow⟩, ⟨hpositive.trans hupper, hhundred⟩,
      ⟨hzero, hlower.le.trans hbelow⟩, hupper, hlower, by omega, hcooldown⟩

/-- Thresholds stay in order when they lose the sign of zero. -/
theorem IsOrdered.unsigned (h : c.IsOrdered) :
    IsOrdered { c with
      warningPercent := unsigned c.warningPercent
      criticalPercent := unsigned c.criticalPercent
      recoveryPercent := unsigned c.recoveryPercent } := by
  obtain ⟨hrecovery, hwarning, hcritical⟩ := h.isNumber
  refine (isOrdered_iff (by exact isNaN_unsigned hrecovery) (by exact isNaN_unsigned hwarning)
    (by exact isNaN_unsigned hcritical)).mpr ?_
  simp only [rankOf_unsigned]
  exact (isOrdered_iff hrecovery hwarning hcritical).mp h

end Config

/-! ## Lists -/

/-- A text without outer blanks that is not empty. -/
def Text.IsTidy (s : String) : Prop := trim s = s ∧ s ≠ ""

theorem Text.isTidy_of_nonBlank?_eq_some {s t : String} (h : nonBlank? s = some t) :
    IsTidy t := by
  refine ⟨trim_of_nonBlank?_eq_some h, ?_⟩
  rw [nonBlank?] at h
  split at h
  · cases h
  · rename_i hne
    exact Option.some.inj h ▸ hne

/-- The entries that are kept are tidy. -/
theorem isTidy_of_mem_keepNonBlank {items : List String} {s : String} (h : s ∈ keepNonBlank items) :
    Text.IsTidy s := by
  obtain ⟨item, -, hitem⟩ := List.mem_filterMap.mp h
  exact Text.isTidy_of_nonBlank?_eq_some hitem

/-! ## Fit configurations -/

/-- A configuration is fit to be in force: its thresholds are numbers in order, there
is a pause between attempts, and the entries of its lists are tidy. -/
structure Config.IsFit (c : Config) : Prop extends c.IsOrdered where
  numbers : c.recoveryPercent.isNaN = false ∧ c.warningPercent.isNaN = false ∧
    c.criticalPercent.isNaN = false
  delays_ne_nil : c.retryDelays ≠ []
  recipients : ∀ s ∈ c.recipients, Text.IsTidy s
  chatIds : ∀ s ∈ c.chatIds, Text.IsTidy s

/-- A configuration is fit if it is usable and has the right lists. -/
theorem Config.isFit_iff {c : Config} :
    c.IsFit ↔ c.violation? = none ∧ c.retryDelays ≠ [] ∧ (∀ s ∈ c.recipients, Text.IsTidy s) ∧
      ∀ s ∈ c.chatIds, Text.IsTidy s := by
  rw [violation?_eq_none_iff_isOrdered]
  constructor
  · intro h
    exact ⟨h.toIsOrdered, h.delays_ne_nil, h.recipients, h.chatIds⟩
  · rintro ⟨hordered, hdelays, hrecipients, hchatIds⟩
    exact ⟨hordered, hordered.isNumber, hdelays, hrecipients, hchatIds⟩

/-- An update that is not refused leads from a fit configuration to a fit one. -/
theorem Config.Update.apply_isFit {u : Config.Update} {c : Config} (hc : c.IsFit)
    (husable : (u.apply c).violation? = none) : (u.apply c).IsFit := by
  have hlist {given : Option (List String)} {items : List String}
      (hitems : ∀ s ∈ items, Text.IsTidy s) :
      ∀ s ∈ (given.map keepNonBlank).getD items, Text.IsTidy s := by
    cases given with
    | none => exact hitems
    | some given => exact fun s hs => isTidy_of_mem_keepNonBlank hs
  refine isFit_iff.mpr ⟨husable, ?_, hlist hc.recipients, hlist hc.chatIds⟩
  rw [apply]
  cases u.retryDelays with
  | none => exact hc.delays_ne_nil
  | some delays => exact usableDelays_ne_nil delays

namespace Database

/-- A configuration comes back from a file up to the sign of zero and its pauses,
and there is always a pause. -/
theorem exists_readBack {c : Config} (hwarning : c.warningPercent.isNaN = false)
    (hcritical : c.criticalPercent.isNaN = false) (hrecovery : c.recoveryPercent.isNaN = false) :
    ∃ delays ≠ [], readBack c = { c with
      warningPercent := unsigned c.warningPercent
      criticalPercent := unsigned c.criticalPercent
      recoveryPercent := unsigned c.recoveryPercent
      retryDelays := delays } := by
  let read := listColumn (Json.Decoder.natural 64) (numbersToJson c.retryDelays).write
  have hread : (Settings.ofConfig c).config = .ok { c with
      warningPercent := unsigned c.warningPercent
      criticalPercent := unsigned c.criticalPercent
      recoveryPercent := unsigned c.recoveryPercent
      retryDelays := if read.isEmpty then standardDelays else read } := by
    simp only [Settings.config, Settings.ofConfig, readReal_ofFloat hwarning,
      readReal_ofFloat hcritical, readReal_ofFloat hrecovery, Cell.readInt, Cell.readFlag_ofBool,
      listColumn_texts]
    rfl
  refine ⟨if read.isEmpty then standardDelays else read, ?_, by rw [readBack, hread]; rfl⟩
  split
  · decide
  · rename_i hne
    exact fun hnil => hne (List.isEmpty_iff.mpr hnil)

/-- A file gives a fit configuration back as a fit one. -/
theorem readBack_isFit {c : Config} (h : c.IsFit) : (readBack c).IsFit := by
  obtain ⟨hrecovery, hwarning, hcritical⟩ := h.numbers
  obtain ⟨delays, hdelays, heq⟩ := exists_readBack hwarning hcritical hrecovery
  obtain ⟨h0, h1, h2, h3, h4, h5, h6, h7⟩ := h.toIsOrdered.unsigned
  rw [heq]
  exact ⟨⟨h0, h1, h2, h3, h4, h5, h6, h7⟩,
    ⟨isNaN_unsigned hrecovery, isNaN_unsigned hwarning, isNaN_unsigned hcritical⟩, hdelays,
    h.recipients, h.chatIds⟩

end Database

end CpuAlert
