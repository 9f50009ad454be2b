import CpuAlert.Proofs.Config.Usable
import CpuAlert.World

/-!
# What a store keeps

Beside the history a store keeps a configuration, a record of credentials and
the end of a silence. In memory they are given back as they were put in; a
database file gives them back as its columns hold them, with instants in whole
milliseconds. Either store keeps them faithfully: a call that succeeds takes its
effect, and one that fails changes nothing.

A file that has lost one of its rows accepts writes to it without any effect, so
it keeps nothing in this sense, even if it happens to give back the right
values.

## Main definitions

* `Store.Kept` — what is kept beside the history
* `Store.Kept.after` — the effect of a call on it
* `Backend.readBack` — how a store gives it back
* `Backend.Keeps` — a store keeps these values

## Main results

* `Backend.perform_keeps` — a call takes effect or changes nothing
* `Backend.keeps_memory_iff` — what it means for the store in memory
* `World.ask_keeps` — the same for calls that may be refused on the way
* `World.ask_write_ok` — writes of usable values succeed
-/

namespace CpuAlert

open Time (Instant)

/-! ## Instants in milliseconds -/

namespace Time.Instant

/-- The instant without the part of a millisecond. -/
def truncated (a : Instant) : Instant :=
  ⟨a.sec, a.nano / 1000000 * 1000000, a.first_le, a.le_last,
    Nat.lt_of_le_of_lt (Nat.div_mul_le_self _ _) a.nano_lt⟩

/-- Outside a leap second, the count of milliseconds gives back the instant
without the part of a millisecond. -/
theorem ofMillis?_toMillis_eq_truncated {a : Instant} (hleap : a.nano < nanosPerSecond) :
    ofMillis? a.toMillis = some a.truncated := by
  have hcount : a.truncated.toMillis = a.toMillis := by
    simp only [toMillis, truncated, Nat.mul_div_cancel _ (show 0 < 1000000 by decide)]
  rw [← hcount]
  refine ofMillis?_toMillis ?_ (Nat.mul_mod_left _ _)
  exact Nat.lt_of_le_of_lt (Nat.div_mul_le_self _ _) hleap

end Time.Instant

/-! ## What is kept -/

namespace Store

/-- What a store keeps beside the history. -/
structure Kept where
  config : Config
  record : SealedCredentials
  deadline : Option Instant

/-- What is kept once a call has taken effect. -/
def Kept.after (k : Kept) : Call → Kept
  | .writeConfig config => { k with config }
  | .writeCredentials record => { k with record }
  | .writeSilence deadline => { k with deadline }
  | .readConfig | .readCredentials | .append _ | .list _ | .deleteBefore _ | .mutedUntil
  | .health | .close => k

/-- What is kept once a call has been answered. -/
def Kept.answered (k : Kept) (c : Call) : c.Answer → Kept
  | .ok _ => k.after c
  | .error _ => k

/-- The calls that change what is kept. -/
def Call.IsWrite : Call → Prop
  | .writeConfig _ | .writeCredentials _ | .writeSilence _ => True
  | .readConfig | .readCredentials | .append _ | .list _ | .deleteBefore _ | .mutedUntil
  | .health | .close => False

/-- A store has to be able to keep what is written. -/
def Call.IsUsable : Call → Prop
  | .writeConfig config => config.violation? = none
  | _ => True

/-- Only writes change what is kept. -/
theorem Kept.after_of_not_isWrite (k : Kept) {c : Call} (hc : ¬ c.IsWrite) : k.after c = k := by
  cases c with
  | writeConfig | writeCredentials | writeSilence => exact absurd trivial hc
  | _ => rfl

theorem Kept.answered_of_not_isWrite (k : Kept) {c : Call} (hc : ¬ c.IsWrite) (a : c.Answer) :
    k.answered c a = k := by
  cases a with
  | ok _ => exact k.after_of_not_isWrite hc
  | error _ => rfl

end Store

open Store (Kept)

/-- A configuration as a database file gives it back. -/
def Database.readBack (c : Config) : Config := (Settings.ofConfig c).config.toOption.getD c

namespace Backend

/-- What is kept as the store gives it back at some time. Milliseconds outside
the calendar are the present. -/
def readBack (now : Instant) (k : Kept) : Backend → Kept
  | .memory _ => k
  | .database _ =>
    { config := Database.readBack k.config
      record := k.record
      deadline := k.deadline.map fun t => Database.instantColumn now t.toMillis }

/-- No row is missing. -/
def IsWhole : Backend → Prop
  | .memory _ => True
  | .database d => d.settings.isSome ∧ d.credentials.isSome ∧ d.silence.isSome

/-- The store keeps these values: it has a place for them, and gives them back
at any time. -/
structure Keeps (b : Backend) (k : Kept) : Prop where
  whole : b.IsWhole
  config (now : Instant) : (b.perform now .readConfig).1 = .ok (b.readBack now k).config
  record (now : Instant) : (b.perform now .readCredentials).1 = .ok (b.readBack now k).record
  deadline (now : Instant) : (b.perform now .mutedUntil).1 = .ok (b.readBack now k).deadline

/-- In memory, everything is kept as it is. -/
theorem keeps_memory_iff {m : Memory} {k : Kept} :
    (Backend.memory m).Keeps k ↔
      m.config = k.config ∧ m.credentials = k.record ∧ m.mutedUntil = k.deadline := by
  constructor
  · intro h
    exact ⟨Except.ok.inj (h.config .epoch), Except.ok.inj (h.record .epoch),
      Except.ok.inj (h.deadline .epoch)⟩
  · rintro ⟨hconfig, hrecord, hdeadline⟩
    exact ⟨trivial, fun _ => congrArg _ hconfig, fun _ => congrArg _ hrecord,
      fun _ => congrArg _ hdeadline⟩

/-- A file is open and has a row for each of the values. -/
theorem keeps_database_iff {d : Database} {k : Kept} :
    (Backend.database d).Keeps k ↔
      d.isOpen ∧ d.settings.isSome ∧ d.readConfig = .ok (Database.readBack k.config) ∧
        d.credentials = some k.record ∧ d.silence.isSome ∧
        ∀ now, d.mutedUntil now =
          .ok (k.deadline.map fun t => Database.instantColumn now t.toMillis) := by
  constructor
  · rintro ⟨⟨hsettings, hcredentials, hsilence⟩, hconfig, hrecord, hdeadline⟩
    have hopen : d.isOpen := by
      by_cases h : d.isOpen
      · exact h
      · simpa [Backend.perform, Database.perform, h] using hconfig .epoch
    simp only [Backend.perform, Database.perform, hopen, if_true, Database.performOpen,
      readBack] at hconfig hrecord hdeadline
    obtain ⟨r, hr⟩ := Option.isSome_iff_exists.mp hcredentials
    -- a row of credentials is read as it is, so it is the one that is kept
    have heq : r = k.record := by simpa [hr] using hrecord .epoch
    exact ⟨hopen, hsettings, hconfig .epoch, heq ▸ hr, hsilence, hdeadline⟩
  · rintro ⟨hopen, hsettings, hconfig, hrecord, hsilence, hdeadline⟩
    refine ⟨⟨hsettings, by simp [hrecord], hsilence⟩, fun now => ?_, fun now => ?_, fun now => ?_⟩
    all_goals simp [Backend.perform, Database.perform, hopen, Database.performOpen, readBack,
      hconfig, hrecord, hdeadline]

end Backend

/-! ## Calls to a file -/

namespace Database

/-- What the file keeps depends on three of its rows. -/
theorem keeps_of_rows {d d' : Database} {k : Kept} (hk : (Backend.database d).Keeps k)
    (hopen : d'.isOpen = d.isOpen) (hsettings : d'.settings = d.settings)
    (hcredentials : d'.credentials = d.credentials) (hsilence : d'.silence = d.silence) :
    (Backend.database d').Keeps k := by
  rw [Backend.keeps_database_iff] at hk ⊢
  simpa only [readConfig, mutedUntil, hopen, hsettings, hcredentials, hsilence] using hk

theorem emptyColumn?_eq_none_iff {columns : List (String × Float)} :
    emptyColumn? columns = none ↔ ∀ c ∈ columns, c.2.isNaN = false := by
  simp [emptyColumn?]

/-- An event with a number for its load is never refused for lack of it. -/
theorem append_ne_emptyColumn {draft : Event.Draft} (h : draft.cpuPercent.isNaN = false)
    (b : Backend) (now : Instant) :
    (b.perform now (.append draft)).1 ≠ .error (emptyColumn "alert_events.cpu_percent") := by
  have hnone : emptyColumn? [("alert_events.cpu_percent", draft.cpuPercent)] = none :=
    emptyColumn?_eq_none_iff.mpr (List.forall_mem_singleton.mpr h)
  have hexhausted : exhausted ≠ emptyColumn "alert_events.cpu_percent" := by decide
  have hclosed : .queryFailed closedReason ≠ emptyColumn "alert_events.cpu_percent" := by decide
  cases b with
  | memory m => nofun
  | database d =>
    simp only [Backend.perform, perform]
    split
    · -- there is no number left, or the event gets one
      simp only [performOpen, append, insert, hnone]
      split
      · exact fun h => hexhausted (Except.error.inj h)
      · contradiction
      · nofun
    · exact fun h => hclosed (Except.error.inj h)

/-- A double that is a number is read as it was put in, up to the sign of
zero. -/
theorem readReal_ofFloat {x : Float} (hx : x.isNaN = false) (column : String) :
    (Cell.ofFloat x).readReal column = .ok (if x == 0 then 0 else x) := by
  simp only [Cell.ofFloat, hx, Bool.false_eq_true, if_false, Cell.readReal]

/-- A row made of a configuration can be read. -/
theorem config_ofConfig {c : Config} (hwarning : c.warningPercent.isNaN = false)
    (hcritical : c.criticalPercent.isNaN = false) (hrecovery : c.recoveryPercent.isNaN = false) :
    (Settings.ofConfig c).config = .ok (readBack c) := by
  suffices h : ∃ c', (Settings.ofConfig c).config = .ok c' by
    obtain ⟨c', hc'⟩ := h
    rw [readBack, hc', Except.toOption, Option.getD_some]
  simp only [Settings.config, Settings.ofConfig, readReal_ofFloat hwarning,
    readReal_ofFloat hcritical, readReal_ofFloat hrecovery, Cell.readInt, Cell.readFlag,
    Cell.ofBool]
  exact ⟨_, rfl⟩

/-- A write of a configuration makes its row, unless a threshold is not a
number. -/
theorem writeConfig_keeps {d : Database} {k : Kept} (hk : (Backend.database d).Keeps k)
    (c : Config) :
    (Backend.database (d.writeConfig c).2).Keeps
      (k.answered (.writeConfig c) (d.writeConfig c).1) := by
  obtain ⟨hopen, hsettings, -, hcredentials, hsilence, hdeadline⟩ :=
    Backend.keeps_database_iff.mp hk
  obtain ⟨row, hrow⟩ := Option.isSome_iff_exists.mp hsettings
  simp only [writeConfig, hrow]
  split
  · exact hk
  · rename_i hnone
    obtain ⟨hwarning, hcritical, hrecovery⟩ : c.warningPercent.isNaN = false ∧
        c.criticalPercent.isNaN = false ∧ c.recoveryPercent.isNaN = false := by
      simpa [emptyColumn?_eq_none_iff] using hnone
    exact Backend.keeps_database_iff.mpr ⟨hopen, rfl, config_ofConfig hwarning hcritical hrecovery,
      hcredentials, hsilence, hdeadline⟩

theorem writeCredentials_keeps {d : Database} {k : Kept} (hk : (Backend.database d).Keeps k)
    (r : SealedCredentials) :
    (Backend.database { d with credentials := d.credentials.map fun _ => r }).Keeps
      { k with record := r } := by
  obtain ⟨hopen, hsettings, hconfig, hcredentials, hsilence, hdeadline⟩ :=
    Backend.keeps_database_iff.mp hk
  exact Backend.keeps_database_iff.mpr
    ⟨hopen, hsettings, hconfig, by simp [hcredentials], hsilence, hdeadline⟩

theorem writeSilence_keeps {d : Database} {k : Kept} (hk : (Backend.database d).Keeps k)
    (deadline : Option Instant) :
    (Backend.database { d with
      silence := d.silence.map fun _ =>
        (deadline.map fun t => Cell.int t.toMillis).getD .null }).Keeps { k with deadline } := by
  obtain ⟨hopen, hsettings, hconfig, hcredentials, hsilence, -⟩ :=
    Backend.keeps_database_iff.mp hk
  obtain ⟨cell, hcell⟩ := Option.isSome_iff_exists.mp hsilence
  refine Backend.keeps_database_iff.mpr
    ⟨hopen, hsettings, hconfig, hcredentials, by simp [hcell], fun now => ?_⟩
  cases deadline with
  | none => simp [mutedUntil, hcell, Cell.readOptionalInt, Except.map]
  | some t => simp [mutedUntil, hcell, Cell.readOptionalInt, Except.map]

theorem performOpen_keeps {d : Database} {k : Kept} (hk : (Backend.database d).Keeps k)
    (now : Instant) {c : Store.Call} (hc : c ≠ .close) :
    (Backend.database (d.performOpen now c).2).Keeps (k.answered c (d.performOpen now c).1) := by
  cases c with
  | writeConfig c => exact writeConfig_keeps hk c
  | writeCredentials r => exact writeCredentials_keeps hk r
  | writeSilence deadline => exact writeSilence_keeps hk deadline
  | append draft =>
    rw [k.answered_of_not_isWrite id]
    refine keeps_of_rows hk ?_ ?_ ?_ ?_ <;>
      (simp only [performOpen, append, insert]; split <;> rfl)
  | deleteBefore cutoff => exact keeps_of_rows hk rfl rfl rfl rfl
  | close => exact absurd rfl hc
  | readConfig | readCredentials | list _ | mutedUntil | health =>
    rw [k.answered_of_not_isWrite id]
    exact hk

end Database

/-! ## Calls -/

namespace Backend

/-- A call either succeeds and takes its effect, or fails and changes nothing. -/
theorem perform_keeps {b : Backend} {k : Kept} (hk : b.Keeps k) (now : Instant)
    {c : Store.Call} (hc : c ≠ .close) :
    (b.perform now c).2.Keeps (k.answered c (b.perform now c).1) := by
  cases b with
  | memory m =>
    obtain ⟨hconfig, hrecord, hdeadline⟩ := keeps_memory_iff.mp hk
    refine keeps_memory_iff.mpr ?_
    cases c with
    | writeConfig c => exact ⟨rfl, hrecord, hdeadline⟩
    | writeCredentials r => exact ⟨hconfig, rfl, hdeadline⟩
    | writeSilence deadline => exact ⟨hconfig, hrecord, rfl⟩
    | _ => exact ⟨hconfig, hrecord, hdeadline⟩
  | database d =>
    have hopen : d.isOpen := (keeps_database_iff.mp hk).1
    simpa only [perform, Database.perform, hopen, if_true] using
      Database.performOpen_keeps hk now hc

/-- A usable value can be written to a store that keeps something. -/
theorem perform_write_ok {b : Backend} {k : Kept} (hk : b.Keeps k) (now : Instant)
    {c : Store.Call} (hc : c.IsWrite) (husable : c.IsUsable) :
    ∃ r, (b.perform now c).1 = .ok r := by
  cases b with
  | memory m => exact ⟨_, rfl⟩
  | database d =>
    have hopen : d.isOpen := (keeps_database_iff.mp hk).1
    obtain ⟨row, hrow⟩ := Option.isSome_iff_exists.mp hk.whole.1
    simp only [perform, Database.perform, hopen, if_true]
    cases c with
    | writeConfig c =>
      have hnumber := Config.isNumber_of_usable husable
      have hnone : Database.emptyColumn?
          [("alert_settings.warning_percent", c.warningPercent),
            ("alert_settings.critical_percent", c.criticalPercent),
            ("alert_settings.recovery_percent", c.recoveryPercent)] = none := by
        simpa [Database.emptyColumn?_eq_none_iff] using hnumber
      exact ⟨(), by simp only [Database.performOpen, Database.writeConfig, hrow, hnone]⟩
    | writeCredentials r => exact ⟨(), rfl⟩
    | writeSilence deadline => exact ⟨(), rfl⟩
    | _ => exact hc.elim

end Backend

namespace World

/-- A call changes nothing in the world but the store and the number of calls. -/
theorem ask_snd (w : World) (c : Store.Call) :
    (w.ask c).2 = { w with asked := w.asked + 1, store := (w.ask c).2.store } := by
  simp only [ask]
  split <;> rfl

@[simp] theorem ask_live (w : World) (c : Store.Call) : (w.ask c).2.live = w.live := by
  rw [ask_snd]

/-- A call takes its effect, or it fails, on the way or in the store, and changes
nothing. -/
theorem ask_keeps {w : World} {k : Kept} (hk : w.store.Keeps k) {c : Store.Call}
    (hc : c ≠ .close) : (w.ask c).2.store.Keeps (k.answered c (w.ask c).1) := by
  simp only [ask]
  split
  · exact hk
  · exact Backend.perform_keeps hk w.wall hc

/-- A write of a usable value succeeds unless it is refused on the way. -/
theorem ask_write_ok {w : World} {k : Kept} (hk : w.store.Keeps k) {c : Store.Call}
    (hc : c.IsWrite) (husable : c.IsUsable) (hnone : w.outage w.asked c.method = none) :
    ∃ r, (w.ask c).1 = .ok r := by
  simp only [ask, hnone]
  exact Backend.perform_write_ok hk w.wall hc husable

end World

end CpuAlert
