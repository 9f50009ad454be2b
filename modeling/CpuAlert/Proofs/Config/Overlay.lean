import CpuAlert.Proofs.Config.Order
import Mathlib.Data.List.Basic

/-!
# Updates laid over each other

A configuration is thirteen settings, and an update gives some of them. Laying one
update over another gives every setting that either gives, and where both do the
upper one counts. To apply the two one after the other is to apply them laid over
each other, so of any number of updates the last one to give a setting decides it.

Three settings are cleaned on their way into a configuration. That loses nothing
once they are clean: a configuration whose lists are tidy and that has a pause
between attempts is brought about by restating it, from whatever was there before,
and no other one is.

## Main definitions

* `Config.Setting` — a setting of a configuration
* `Config.get`, `Config.Update.given?` — what a configuration has of it, and what an
  update gives
* `Config.Update.atop` — an update laid over another one
* `Config.Update.restating` — the update that gives all settings of a configuration
* `Config.IsClean` — lists as they are after cleaning

## Main results

* `Config.Update.get_apply` — an update, setting by setting
* `Config.Update.apply_restating_eq_iff` — what restating a configuration leads to
* `Config.Update.apply_isClean` — updates lead to clean configurations
* `Config.Update.last_writer_wins` — the laws of updates together
-/

namespace CpuAlert.Config

variable {c d : Config}

/-! ## Settings -/

/-- A setting of a configuration. -/
inductive Setting
  | enabled
  | warningPercent
  | warningWindow
  | criticalPercent
  | criticalWindow
  | recoveryPercent
  | recoveryWindow
  | cooldown
  | telegramEnabled
  | emailEnabled
  | recipients
  | chatIds
  | retryDelays
  deriving DecidableEq, Repr

namespace Setting

/-- What an update gives for a setting. -/
abbrev Given : Setting → Type
  | enabled | telegramEnabled | emailEnabled => Bool
  | warningPercent | criticalPercent | recoveryPercent => Float
  | warningWindow | criticalWindow | recoveryWindow | cooldown => Int
  | recipients | chatIds => List String
  | retryDelays => List Int

/-- What a configuration has of a setting. No delay is negative there. -/
abbrev Value : Setting → Type
  | enabled | telegramEnabled | emailEnabled => Bool
  | warningPercent | criticalPercent | recoveryPercent => Float
  | warningWindow | criticalWindow | recoveryWindow | cooldown => Int
  | recipients | chatIds => List String
  | retryDelays => List Nat

/-- What becomes of what is given. -/
def clean : (x : Setting) → x.Given → x.Value
  | enabled | telegramEnabled | emailEnabled => id
  | warningPercent | criticalPercent | recoveryPercent => id
  | warningWindow | criticalWindow | recoveryWindow | cooldown => id
  | recipients | chatIds => keepNonBlank
  | retryDelays => usableDelays

/-- How what a configuration has is given. -/
def restate : (x : Setting) → x.Value → x.Given
  | enabled | telegramEnabled | emailEnabled => id
  | warningPercent | criticalPercent | recoveryPercent => id
  | warningWindow | criticalWindow | recoveryWindow | cooldown => id
  | recipients | chatIds => id
  | retryDelays => List.map Int.ofNat

end Setting

/-- What the configuration has of a setting. -/
def get (c : Config) : (x : Setting) → x.Value
  | .enabled => c.enabled
  | .warningPercent => c.warningPercent
  | .warningWindow => c.warningWindow
  | .criticalPercent => c.criticalPercent
  | .criticalWindow => c.criticalWindow
  | .recoveryPercent => c.recoveryPercent
  | .recoveryWindow => c.recoveryWindow
  | .cooldown => c.cooldown
  | .telegramEnabled => c.telegramEnabled
  | .emailEnabled => c.emailEnabled
  | .recipients => c.recipients
  | .chatIds => c.chatIds
  | .retryDelays => c.retryDelays

/-- There is nothing more to a configuration than its settings. -/
theorem eq_of_get (h : ∀ x, c.get x = d.get x) : c = d := by
  cases c
  cases d
  rw [mk.injEq]
  exact ⟨h .enabled, h .warningPercent, h .warningWindow, h .criticalPercent, h .criticalWindow,
    h .recoveryPercent, h .recoveryWindow, h .cooldown, h .telegramEnabled, h .emailEnabled,
    h .recipients, h .chatIds, h .retryDelays⟩

namespace Update

/-- What the update gives for a setting. -/
def given? (u : Update) : (x : Setting) → Option x.Given
  | .enabled => u.enabled
  | .warningPercent => u.warningPercent
  | .warningWindow => u.warningWindow
  | .criticalPercent => u.criticalPercent
  | .criticalWindow => u.criticalWindow
  | .recoveryPercent => u.recoveryPercent
  | .recoveryWindow => u.recoveryWindow
  | .cooldown => u.cooldown
  | .telegramEnabled => u.telegramEnabled
  | .emailEnabled => u.emailEnabled
  | .recipients => u.recipients
  | .chatIds => u.chatIds
  | .retryDelays => u.retryDelays

/-- An update decides the settings that it gives and leaves the others. -/
theorem get_apply (u : Update) (c : Config) (x : Setting) :
    (u.apply c).get x = ((u.given? x).map x.clean).getD (c.get x) := by
  cases x <;> simp [apply, get, given?, Setting.clean]

/-! ## One update over another -/

/-- An update laid over another one: what it gives itself, and what the other one
gives beside that. The credentials, which are no settings, are its own. -/
def atop (b a : Update) : Update :=
  { b with
    enabled := b.enabled.or a.enabled
    warningPercent := b.warningPercent.or a.warningPercent
    warningWindow := b.warningWindow.or a.warningWindow
    criticalPercent := b.criticalPercent.or a.criticalPercent
    criticalWindow := b.criticalWindow.or a.criticalWindow
    recoveryPercent := b.recoveryPercent.or a.recoveryPercent
    recoveryWindow := b.recoveryWindow.or a.recoveryWindow
    cooldown := b.cooldown.or a.cooldown
    telegramEnabled := b.telegramEnabled.or a.telegramEnabled
    emailEnabled := b.emailEnabled.or a.emailEnabled
    recipients := b.recipients.or a.recipients
    chatIds := b.chatIds.or a.chatIds
    retryDelays := b.retryDelays.or a.retryDelays }

variable {a b m : Update}

theorem given?_atop (b a : Update) (x : Setting) :
    (b.atop a).given? x = (b.given? x).or (a.given? x) := by
  cases x <;> rfl

/-- An update that gives what two updates give, the later one first, does what they
do one after the other. -/
theorem apply_apply_eq (h : ∀ x, m.given? x = (b.given? x).or (a.given? x)) (c : Config) :
    b.apply (a.apply c) = m.apply c := by
  refine eq_of_get fun x => ?_
  rw [get_apply, get_apply, get_apply, h]
  cases b.given? x <;> rfl

/-- Once is as good as twice. -/
theorem apply_apply_self (a : Update) (c : Config) : a.apply (a.apply c) = a.apply c :=
  apply_apply_eq (fun x => by cases a.given? x <;> rfl) c

/-- Updates that give different settings may come in either order. -/
theorem apply_comm (h : ∀ x, a.given? x = none ∨ b.given? x = none) (c : Config) :
    b.apply (a.apply c) = a.apply (b.apply c) := by
  rw [apply_apply_eq (given?_atop b a), apply_apply_eq (given?_atop a b)]
  refine eq_of_get fun x => ?_
  rw [get_apply, get_apply, given?_atop, given?_atop]
  rcases h x with hnone | hnone <;> simp [hnone]

/-! ## Restating a configuration -/

/-- The update that gives all settings of a configuration. -/
def restating (c : Config) : Update where
  enabled := some c.enabled
  warningPercent := some c.warningPercent
  warningWindow := some c.warningWindow
  criticalPercent := some c.criticalPercent
  criticalWindow := some c.criticalWindow
  recoveryPercent := some c.recoveryPercent
  recoveryWindow := some c.recoveryWindow
  cooldown := some c.cooldown
  telegramEnabled := some c.telegramEnabled
  emailEnabled := some c.emailEnabled
  recipients := some c.recipients
  chatIds := some c.chatIds
  retryDelays := some (c.retryDelays.map Int.ofNat)

theorem given?_restating (c : Config) (x : Setting) :
    (restating c).given? x = some (x.restate (c.get x)) := by
  cases x <;> rfl

/-- What restating leads to does not depend on what was there before. -/
theorem get_apply_restating (c d : Config) (x : Setting) :
    ((restating c).apply d).get x = x.clean (x.restate (c.get x)) := by
  rw [get_apply, given?_restating]
  rfl

end Update

/-! ## Clean configurations -/

/-- The lists are as they are after cleaning: their entries are tidy, and there is a
pause between attempts. -/
structure IsClean (c : Config) : Prop where
  recipients : ∀ s ∈ c.recipients, Text.IsTidy s
  chatIds : ∀ s ∈ c.chatIds, Text.IsTidy s
  delays_ne_nil : c.retryDelays ≠ []

theorem nonBlank?_of_isTidy {s : String} (h : Text.IsTidy s) : Text.nonBlank? s = some s := by
  rw [Text.nonBlank?, h.1, if_neg h.2]

/-- Cleaning leaves a list as it is exactly if its entries are tidy. -/
theorem keepNonBlank_eq_self_iff {items : List String} :
    keepNonBlank items = items ↔ ∀ s ∈ items, Text.IsTidy s := by
  constructor
  · intro h s hs
    rw [← h] at hs
    exact isTidy_of_mem_keepNonBlank hs
  · intro h
    calc keepNonBlank items
      _ = items.filterMap some := List.filterMap_congr fun s hs => nonBlank?_of_isTidy (h s hs)
      _ = items := List.filterMap_some

/-- Delays that a configuration has are all kept, unless there are none. -/
theorem usableDelays_ofNat (delays : List Nat) :
    usableDelays (delays.map Int.ofNat) = if delays = [] then standardDelays else delays := by
  have hkept : ((delays.map Int.ofNat).filter (0 ≤ ·)).map Int.toNat = delays := by
    rw [List.filter_eq_self.mpr, List.map_map]
    · exact List.map_id _
    · intro d hd
      obtain ⟨n, -, rfl⟩ := List.mem_map.mp hd
      exact decide_eq_true (Int.natCast_nonneg n)
  simp only [usableDelays, hkept, List.isEmpty_iff]

/-- Cleaning leaves delays as they are exactly if there are any. -/
theorem usableDelays_ofNat_eq_self_iff {delays : List Nat} :
    usableDelays (delays.map Int.ofNat) = delays ↔ delays ≠ [] := by
  rw [usableDelays_ofNat]
  split
  · rename_i hnil
    rw [hnil]
    exact iff_of_false (by decide) fun h => h rfl
  · rename_i hne
    exact iff_of_true rfl hne

/-- What has been cleaned stays as it is when it is given again. -/
theorem Setting.clean_restate_clean (x : Setting) (v : x.Given) :
    x.clean (x.restate (x.clean v)) = x.clean v := by
  cases x with
  | recipients | chatIds =>
    exact keepNonBlank_eq_self_iff.mpr fun _ => isTidy_of_mem_keepNonBlank
  | retryDelays => exact usableDelays_ofNat_eq_self_iff.mpr (usableDelays_ne_nil v)
  | _ => rfl

/-- A configuration is clean if cleaning leaves all its settings as they are. -/
theorem isClean_iff : c.IsClean ↔ ∀ x, x.clean (x.restate (c.get x)) = c.get x := by
  constructor
  · intro h x
    cases x with
    | recipients => exact keepNonBlank_eq_self_iff.mpr h.recipients
    | chatIds => exact keepNonBlank_eq_self_iff.mpr h.chatIds
    | retryDelays => exact usableDelays_ofNat_eq_self_iff.mpr h.delays_ne_nil
    | _ => rfl
  · intro h
    exact ⟨keepNonBlank_eq_self_iff.mp (h .recipients), keepNonBlank_eq_self_iff.mp (h .chatIds),
      usableDelays_ofNat_eq_self_iff.mp (h .retryDelays)⟩

namespace Update

/-- Restating a configuration brings it about exactly if it is clean. -/
theorem apply_restating_eq_iff : (restating c).apply d = c ↔ c.IsClean := by
  rw [isClean_iff]
  constructor
  · intro h x
    rw [← get_apply_restating c d, h]
  · intro h
    exact eq_of_get fun x => (get_apply_restating c d x).trans (h x)

/-- Updates lead from clean configurations to clean ones. -/
theorem apply_isClean (u : Update) (h : c.IsClean) : (u.apply c).IsClean := by
  rw [isClean_iff] at h ⊢
  intro x
  rw [get_apply]
  cases u.given? x with
  | none => exact h x
  | some v => exact x.clean_restate_clean v

end Update

/-! ## Delays of sixty-four bits -/

/-- The longest delay that can be given, in seconds. -/
def longestDelay : Nat := 0x7FFFFFFFFFFFFFFF

/-- All delays of the configuration could have been given. -/
def DelaysFit (c : Config) : Prop := ∀ n ∈ c.retryDelays, n ≤ longestDelay

/-- The delays that are given have sixty-four bits. -/
def Update.DelaysFit (u : Update) : Prop := ∀ ds ∈ u.retryDelays, ∀ d ∈ ds, d ≤ longestDelay

instance (c : Config) : Decidable c.DelaysFit :=
  inferInstanceAs (Decidable (∀ n ∈ c.retryDelays, n ≤ longestDelay))

instance (u : Update) : Decidable u.DelaysFit :=
  inferInstanceAs (Decidable (∀ ds ∈ u.retryDelays, ∀ d ∈ ds, d ≤ longestDelay))

namespace Update

/-- What a configuration has can be given if its delays fit. -/
theorem restating_delaysFit (h : c.DelaysFit) : (restating c).DelaysFit := by
  rintro ds ⟨⟩ d hd
  obtain ⟨n, hn, rfl⟩ := List.mem_map.mp hd
  exact Int.ofNat_le.mpr (h n hn)

theorem apply_delaysFit {u : Update} (hu : u.DelaysFit) (h : c.DelaysFit) :
    (u.apply c).DelaysFit := by
  intro n hn
  rw [apply] at hn
  cases hgiven : u.retryDelays with
  | none =>
    rw [hgiven] at hn
    exact h n hn
  | some ds =>
    rw [hgiven] at hn
    exact le_of_mem_usableDelays (by decide) (hu ds hgiven) hn

/-! ## The laws together -/

/-- **The last writer wins.** Two updates, one after the other, are the same as any
update that gives what the later one gives, and beside that what the earlier one
gives; there is such an update. So to apply one twice is to apply it once, and
updates that give different settings may come in either order. Restating a
configuration brings it about, whatever was there before, exactly if its lists are
clean, and its delays can be given if they have sixty-four bits. Updates keep lists
clean, and delays within sixty-four bits if those that they give are. -/
theorem last_writer_wins (a b : Update) :
    ((∀ x, (b.atop a).given? x = (b.given? x).or (a.given? x)) ∧
      ∀ m : Update, (∀ x, m.given? x = (b.given? x).or (a.given? x)) →
        ∀ c, b.apply (a.apply c) = m.apply c) ∧
    (∀ c, a.apply (a.apply c) = a.apply c) ∧
    ((∀ x, a.given? x = none ∨ b.given? x = none) →
      ∀ c, b.apply (a.apply c) = a.apply (b.apply c)) ∧
    (∀ c, (∀ d, (restating c).apply d = c ↔ c.IsClean) ∧
      (c.DelaysFit → (restating c).DelaysFit)) ∧
    ∀ c, (c.IsClean → (a.apply c).IsClean) ∧
      (a.DelaysFit → c.DelaysFit → (a.apply c).DelaysFit) :=
  ⟨⟨given?_atop b a, fun _ => apply_apply_eq⟩, apply_apply_self a, apply_comm,
    fun _ => ⟨fun _ => apply_restating_eq_iff, restating_delaysFit⟩,
    fun _ => ⟨apply_isClean a, apply_delaysFit⟩⟩

/-- An update with blanks of other scripts around an address, and one that gives
other settings, among them no delay that is not negative. -/
def spaced : Update where
  cooldown := some 60
  recipients := some ["\u3000ops@example.com\u0085", "\u2003"]

/-- Delays of which none is usable. -/
def delayless : Update where
  telegramEnabled := some false
  retryDelays := some [-5]

/-- What both lead to. -/
def cleaned : Config where
  cooldown := 60
  telegramEnabled := false
  recipients := ["ops@example.com"]

theorem last_writer_wins_spaced :
    (∀ x, spaced.given? x = none ∨ delayless.given? x = none) ∧
      delayless.apply (spaced.apply {}) = cleaned ∧ spaced.apply (delayless.apply {}) = cleaned ∧
      (delayless.atop spaced).apply {} = cleaned ∧
      (restating cleaned).apply (spaced.apply {}) = cleaned ∧ cleaned.IsClean ∧
      (restating cleaned).DelaysFit ∧ delayless.DelaysFit ∧
      (delayless.apply cleaned).IsClean ∧ (delayless.apply cleaned).DelaysFit := by
  have hdisjoint : ∀ x, spaced.given? x = none ∨ delayless.given? x = none := by
    intro x
    cases x with
    | telegramEnabled | retryDelays => exact .inl rfl
    | _ => exact .inr rfl
  have hboth : delayless.apply (spaced.apply {}) = cleaned := rfl
  have hfits : cleaned.DelaysFit := by decide
  have hgiven : delayless.DelaysFit := by decide
  obtain ⟨⟨hover, hmerged⟩, -, hcomm, -⟩ := last_writer_wins spaced delayless
  obtain ⟨-, -, -, hrestating, hkeep⟩ := last_writer_wins delayless spaced
  have hrestated : (restating cleaned).apply (spaced.apply {}) = cleaned := rfl
  have hclean := ((hrestating cleaned).1 (spaced.apply {})).mp hrestated
  exact ⟨hdisjoint, hboth, (hcomm hdisjoint {}).symm.trans hboth,
    (hmerged (delayless.atop spaced) hover {}).symm.trans hboth, hrestated, hclean,
    (hrestating cleaned).2 hfits, hgiven, (hkeep cleaned).1 hclean, (hkeep cleaned).2 hgiven hfits⟩

end Update

end CpuAlert.Config
