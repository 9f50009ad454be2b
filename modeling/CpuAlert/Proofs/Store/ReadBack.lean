import CpuAlert.Config.Update
import CpuAlert.Proofs.Json.RoundTrip
import CpuAlert.Proofs.Store.Keeping
import Mathlib.Data.List.TakeWhile

/-!
# What a file gives back

A database file gives a configuration back as it was put in, if its lists can be
written as columns of text: a double that is zero loses its sign, and everything
else is the same. Updates lead from such configurations to such configurations.

An instant loses the part of a millisecond. So what a file keeps and what it is
asked for differ in no more than that.

## Main definitions

* `Config.IsStorable` — the configurations that a file gives back
* `unsigned` — a double without the sign of zero

## Main results

* `Database.readBack_eq` — a configuration as a file gives it back
* `Config.Update.apply_isStorable` — updates stay within these configurations
* `Backend.readBack_database` — everything that a file gives back
* `Backend.keeps_fresh` — a new file keeps what a new service has in force
-/

namespace CpuAlert

open Json
open Store (Kept)
open Time (Instant)

/-! ## Doubles -/

/-- A double without the sign of zero. -/
def unsigned (x : Float) : Float := if x == 0 then 0 else x

/-! ## Columns of text -/

/-- What begins with something else than a blank is not blank. -/
theorem Text.trimList_cons_ne_nil {c : Char} (hc : isBlank c = false) (cs : List Char) :
    trimList (c :: cs) ≠ [] := by
  have hstart : trimStartList (c :: cs) = c :: cs := List.dropWhile_cons_of_neg (by simp [hc])
  rw [trimList, hstart, trimEndList, ne_eq, List.reverse_eq_nil_iff, List.dropWhile_eq_nil_iff]
  intro hall
  have hblank := hall c (by simp)
  rw [hc] at hblank
  cases hblank

namespace Database

/-- A list is given back by its column if its items are read as they were
written. -/
theorem listColumn_write {α : Type} {decode : Decoder α} {f : α → Value} {as : List α}
    (hexact : ∀ a ∈ as, (f a).IsExact) (h : ∀ a ∈ as, decode (.ofValue (f a)) = .ok a) :
    listColumn decode (Value.array (as.map f)).write = as := by
  have htrim : Text.trim (Value.array (as.map f)).write ≠ "" := by
    intro hempty
    have hnil := congrArg String.toList hempty
    rw [Text.toList_trim, Value.write, String.toList_ofList, Value.chars] at hnil
    exact Text.trimList_cons_ne_nil rfl _ hnil
  rw [listColumn, if_neg htrim, decodeText_write_array hexact h]

theorem listColumn_texts (items : List String) :
    listColumn Decoder.text (textsToJson items).write = items :=
  listColumn_write (fun s _ => .text s) fun _ _ => rfl

theorem listColumn_numbers {items : List Nat} (h : ∀ n ∈ items, n ≤ 0xFFFFFFFFFFFFFFFF) :
    listColumn (Decoder.natural 64) (numbersToJson items).write = items := by
  refine listColumn_write (fun n hn => .int (by omega) (Int.ofNat_le.mpr (h n hn))) fun n hn => ?_
  exact Decoder.natural_ofValue (Nat.lt_succ_of_le (h n hn))

end Database

/-! ## Configurations -/

/-- A file can give the configuration back: its thresholds are numbers, there is
a pause between attempts, and the pauses have sixty-four bits. -/
structure Config.IsStorable (c : Config) : Prop where
  warning : c.warningPercent.isNaN = false
  critical : c.criticalPercent.isNaN = false
  recovery : c.recoveryPercent.isNaN = false
  delays_ne_nil : c.retryDelays ≠ []
  delays_le : ∀ d ∈ c.retryDelays, d ≤ 0xFFFFFFFFFFFFFFFF

/-- A truth value is read as it was put in. -/
theorem Cell.readFlag_ofBool (b : Bool) (column : String) :
    (Cell.ofBool b).readFlag column = .ok b := by
  cases b <;> rfl

/-- Such a configuration is given back as it was put in, up to the sign of
zero. -/
theorem Database.readBack_eq {c : Config} (h : c.IsStorable) :
    readBack c = { c with
      warningPercent := unsigned c.warningPercent
      criticalPercent := unsigned c.criticalPercent
      recoveryPercent := unsigned c.recoveryPercent } := by
  have hdelays : c.retryDelays.isEmpty = false := by simp [h.delays_ne_nil]
  have hread : (Settings.ofConfig c).config = .ok { c with
      warningPercent := unsigned c.warningPercent
      criticalPercent := unsigned c.criticalPercent
      recoveryPercent := unsigned c.recoveryPercent } := by
    simp only [Settings.config, Settings.ofConfig, readReal_ofFloat h.warning,
      readReal_ofFloat h.critical, readReal_ofFloat h.recovery, Cell.readInt, Cell.readFlag_ofBool,
      listColumn_texts, listColumn_numbers h.delays_le, hdelays, Bool.false_eq_true, if_false]
    rfl
  rw [readBack, hread]
  rfl

/-- Pauses that are kept are no longer than those that are given, or than the default
ones. -/
theorem le_of_mem_usableDelays {longest : Nat} (hstandard : ∀ d ∈ standardDelays, d ≤ longest)
    {ds : List Int} (h : ∀ d ∈ ds, d ≤ longest) {n : Nat} (hn : n ∈ usableDelays ds) :
    n ≤ longest := by
  simp only [usableDelays] at hn
  split at hn
  · exact hstandard n hn
  · obtain ⟨d, hd, rfl⟩ := List.mem_map.mp hn
    exact Int.toNat_le.mpr (h d (List.mem_filter.mp hd).1)

/-- An update that is not refused leads from a configuration that a file can give
back to another one. -/
theorem Config.Update.apply_isStorable {u : Config.Update} {c : Config} (hc : c.IsStorable)
    (husable : (u.apply c).violation? = none)
    (hdelays : ∀ ds, u.retryDelays = some ds → ∀ d ∈ ds, d ≤ 0xFFFFFFFFFFFFFFFF) :
    (u.apply c).IsStorable := by
  obtain ⟨hwarning, hcritical, hrecovery⟩ := Config.isNumber_of_usable husable
  cases hgiven : u.retryDelays with
  | none =>
    have hsame : (u.apply c).retryDelays = c.retryDelays := by rw [apply, hgiven]; rfl
    exact ⟨hwarning, hcritical, hrecovery, hsame ▸ hc.delays_ne_nil, hsame ▸ hc.delays_le⟩
  | some ds =>
    have hchanged : (u.apply c).retryDelays = usableDelays ds := by rw [apply, hgiven]; rfl
    exact ⟨hwarning, hcritical, hrecovery, hchanged ▸ usableDelays_ne_nil ds,
      hchanged ▸ fun n hn => le_of_mem_usableDelays (by decide) (hdelays ds hgiven) hn⟩

/-! ## Everything -/

namespace Backend

/-- A file gives back what it keeps, up to the sign of zero and the part of a
millisecond. -/
theorem readBack_database (d : Database) {k : Kept} (hconfig : k.config.IsStorable)
    (hleap : ∀ t ∈ k.deadline, t.nano < Time.nanosPerSecond) (now : Instant) :
    (Backend.database d).readBack now k =
      { config := { k.config with
          warningPercent := unsigned k.config.warningPercent
          criticalPercent := unsigned k.config.criticalPercent
          recoveryPercent := unsigned k.config.recoveryPercent }
        record := k.record
        deadline := k.deadline.map Instant.truncated } := by
  have hdeadline : (k.deadline.map fun t => Database.instantColumn now t.toMillis) =
      k.deadline.map Instant.truncated := by
    refine Option.map_congr fun t ht => ?_
    rw [Database.instantColumn, Instant.ofMillis?_toMillis_eq_truncated (hleap t ht)]
    rfl
  rw [readBack, Database.readBack_eq hconfig, hdeadline]

/-- A new file keeps the default configuration, no credentials and no silence. -/
theorem keeps_fresh (path : String) : (Backend.database { path }).Keeps ⟨{}, {}, none⟩ := by
  have hrow : ({} : Database.Settings) = .ofConfig {} := rfl
  refine keeps_database_iff.mpr ⟨rfl, rfl, ?_, rfl, rfl, fun _ => rfl⟩
  show Database.Settings.config {} = _
  rw [hrow]
  exact Database.config_ofConfig rfl rfl rfl

end Backend

end CpuAlert
