import CpuAlert.Proofs.Store.Damage

/-!
# Lists in columns of text

A file keeps the lists of a configuration, and the results of a notification, as
JSON arrays in columns of text. A column that cannot be read counts as empty, and so
does one that is blank, without anybody being told: one character that is written
in one way and read in another, and the whole list is gone.

There is no such character. Whatever the texts in a list are, and whatever its numbers,
as long as they have the right size, the column is an array of these items and is read
as the same list. So it is neither blank nor damaged, and what JSON calls a control
only ever stands in it escaped.

## Main definitions

* `Json.IsPlain` — characters without a control among them
* `Database.ColumnHolds` — a column of text holds a list
* `Database.Settings.HoldsListsOf`, `Database.EventRow.HoldsResultsOf` — the columns of
  a row hold the lists of a configuration, or the results of a notification

## Main results

* `Json.Value.IsExact.isPlain` — no control is written as it is
* `Database.ColumnHolds.ofWrite` — a column that was written holds its list
* `Database.lists_come_back` — whatever is saved or appended, its lists are read back
-/

namespace CpuAlert

open Json
open Time (Instant)

/-! ## Texts without controls -/

namespace Json

/-- No control stands among these characters; JSON's controls are those before the
space. -/
def IsPlain (cs : List Char) : Prop := ∀ c ∈ cs, 0x20 ≤ c.toNat

instance (cs : List Char) : Decidable (IsPlain cs) :=
  List.decidableBAll (fun c : Char => 0x20 ≤ c.toNat) cs

theorem IsPlain.append {cs ds : List Char} (hcs : IsPlain cs) (hds : IsPlain ds) :
    IsPlain (cs ++ ds) :=
  List.forall_mem_append.mpr ⟨hcs, hds⟩

theorem IsPlain.cons {c : Char} {cs : List Char} (hc : 0x20 ≤ c.toNat) (hcs : IsPlain cs) :
    IsPlain (c :: cs) :=
  List.forall_mem_cons.mpr ⟨hc, hcs⟩

theorem IsPlain.singleton {c : Char} (hc : 0x20 ≤ c.toNat) : IsPlain [c] :=
  List.forall_mem_singleton.mpr hc

theorem le_toNat_hexDigit {n : Nat} (hn : n < 16) : 0x20 ≤ (hexDigit n).toNat := by
  have hall : ∀ k : Fin 16, 0x20 ≤ (hexDigit k).toNat := by decide
  exact hall ⟨n, hn⟩

/-- Controls are escaped, and an escape has none. -/
theorem isPlain_writeChar (c : Char) : IsPlain (writeChar c) := by
  by_cases hletter : c = '"' ∨ c = '\\' ∨ c = '\x08' ∨ c = '\x0c' ∨ c = '\n' ∨ c = '\r' ∨ c = '\t'
  · rcases hletter with rfl | rfl | rfl | rfl | rfl | rfl | rfl <;> decide
  · simp only [not_or] at hletter
    obtain ⟨hquote, hbackslash, h8, h12, h10, h13, h9⟩ := hletter
    simp only [writeChar, hquote, hbackslash, h8, h12, h10, h13, h9, if_false]
    split
    · rename_i hcontrol
      have hhigh : c.toNat / 16 < 16 := by omega
      have hlow : c.toNat % 16 < 16 := by omega
      exact .cons (by decide) (.cons (by decide) (.cons (by decide) (.cons (by decide)
        (.cons (le_toNat_hexDigit hhigh) (.singleton (le_toNat_hexDigit hlow))))))
    · rename_i hother
      exact .singleton (Nat.le_of_not_lt hother)

theorem isPlain_writeText (s : String) : IsPlain (writeText s) := by
  refine .append (.cons (by decide) fun c hc => ?_) (.singleton (by decide))
  obtain ⟨d, -, hc⟩ := List.mem_flatMap.mp hc
  exact isPlain_writeChar d c hc

theorem isPlain_toDigits (n : Nat) : IsPlain (Nat.toDigits 10 n) := by
  intro c hc
  have hdigit : c.isDigit := Nat.isDigit_of_mem_toDigits (by decide) (by decide) hc
  simp only [Char.isDigit, Bool.and_eq_true, decide_eq_true_eq, ge_iff_le,
    UInt32.le_iff_toNat_le] at hdigit
  exact Nat.le_trans (by decide) hdigit.1

namespace Value

theorem isPlain_int (n : Int) : IsPlain (int n).chars := by
  cases n with
  | ofNat n => exact (chars_ofNat n).symm ▸ isPlain_toDigits n
  | negSucc n =>
    rw [chars_negSucc]
    exact .cons (by decide) (isPlain_toDigits (n + 1))

theorem isPlain_itemChars {items : List Value} (h : ∀ v ∈ items, IsPlain v.chars) :
    IsPlain (itemChars items) := by
  induction items with
  | nil => exact .singleton (by decide)
  | cons v vs ih =>
    obtain ⟨hv, hvs⟩ := List.forall_mem_cons.mp h
    by_cases hlast : vs = []
    · subst hlast
      exact hv.append (.singleton (by decide))
    · rw [itemChars_cons v hlast]
      exact hv.append (.cons (by decide) (ih hvs))

theorem isPlain_memberChars {members : List (String × Value)}
    (h : ∀ m ∈ members, IsPlain m.2.chars) : IsPlain (memberChars members) := by
  induction members with
  | nil => exact .singleton (by decide)
  | cons m ms ih =>
    obtain ⟨k, v⟩ := m
    obtain ⟨hv, hms⟩ : IsPlain v.chars ∧ ∀ m ∈ ms, IsPlain m.2.chars := List.forall_mem_cons.mp h
    have hmember : IsPlain (writeText k ++ ':' :: v.chars) :=
      (isPlain_writeText k).append (.cons (by decide) hv)
    by_cases hlast : ms = []
    · subst hlast
      exact hmember.append (.singleton (by decide))
    · rw [memberChars_cons k v hlast]
      exact hmember.append (.cons (by decide) (ih hms))

/-- No control is written as it is. -/
theorem IsExact.isPlain {v : Value} (hv : v.IsExact) : IsPlain v.chars := by
  induction hv with
  | null => decide
  | bool b => cases b <;> decide
  | int _ _ => exact isPlain_int _
  | text s => exact isPlain_writeText s
  | array _ ih => exact .cons (by decide) (isPlain_itemChars ih)
  | object _ ih => exact .cons (by decide) (isPlain_memberChars ih)

end Value

end Json

namespace Database

/-! ## Columns -/

/-- A column of text holds this list: it is an array of these items, as which it is also
read, and no control stands in it. -/
structure ColumnHolds {α : Type} (decode : Decoder α) (raw : String) (items : List α) : Prop where
  isPlain : IsPlain raw.toList
  isArrayOf : IsArrayOf decode raw items
  listColumn_eq : listColumn decode raw = items

/-- The column that is written for a list holds it, if every item of the list is read as
it was written. -/
theorem ColumnHolds.ofWrite {α : Type} {decode : Decoder α} {f : α → Value} {as : List α}
    (hexact : ∀ a ∈ as, (f a).IsExact) (h : ∀ a ∈ as, decode (.ofValue (f a)) = .ok a) :
    ColumnHolds decode (Value.array (as.map f)).write as where
  isPlain := by
    have harray : (Value.array (as.map f)).IsExact := .array (List.forall_mem_map.mpr hexact)
    rw [Value.write, String.toList_ofList]
    exact harray.isPlain
  isArrayOf := decodeText_list_eq_ok_iff.mp (decodeText_write_array hexact h)
  listColumn_eq := listColumn_write hexact h

theorem ColumnHolds.texts (items : List String) :
    ColumnHolds Decoder.text (textsToJson items).write items :=
  .ofWrite (fun s _ => .text s) fun _ _ => rfl

theorem ColumnHolds.numbers {items : List Nat} (h : ∀ n ∈ items, n ≤ 0xFFFFFFFFFFFFFFFF) :
    ColumnHolds (Decoder.natural 64) (numbersToJson items).write items :=
  .ofWrite (fun n hn => .int (by omega) (Int.ofNat_le.mpr (h n hn))) fun n hn =>
    Decoder.natural_ofValue (Nat.lt_succ_of_le (h n hn))

theorem ColumnHolds.outcomes {rs : List ChannelOutcome} (h : ∀ r ∈ rs, r.attempts ≤ 0xFFFFFFFF) :
    ColumnHolds Wire.channelOutcome (Value.array (rs.map ChannelOutcome.toJson)).write rs :=
  .ofWrite (fun r hr => ChannelOutcome.toJson_isExact (h r hr)) fun r hr =>
    Wire.channelOutcome_ofValue (h r hr)

/-! ## Rows -/

/-- The columns of a row hold the lists of a configuration. -/
structure Settings.HoldsListsOf (s : Settings) (c : Config) : Prop where
  recipients : ColumnHolds Decoder.text s.recipients c.recipients
  chatIds : ColumnHolds Decoder.text s.chatIds c.chatIds
  retryDelays : ColumnHolds (Decoder.natural 64) s.retryDelays c.retryDelays

/-- The column of a row holds the results of a notification. -/
def EventRow.HoldsResultsOf (r : EventRow) (d : Event.Draft) : Prop :=
  ColumnHolds Wire.channelOutcome r.channels d.channels

variable {d d' : Database} {c : Config} {draft : Event.Draft} {now : Instant}

theorem Settings.ofConfig_holdsListsOf (h : ∀ n ∈ c.retryDelays, n ≤ 0xFFFFFFFFFFFFFFFF) :
    (ofConfig c).HoldsListsOf c where
  recipients := .texts c.recipients
  chatIds := .texts c.chatIds
  retryDelays := .numbers h

theorem EventRow.ofDraft_holdsResultsOf (h : ∀ r ∈ draft.channels, r.attempts ≤ 0xFFFFFFFF)
    (id : Int) : (ofDraft id draft).HoldsResultsOf draft :=
  .outcomes h

/-! ## Files -/

/-- After a configuration was saved with success, the row of the settings is its row. -/
theorem eq_ofConfig_of_perform (h : d.perform now (.writeConfig c) = (.ok (), d'))
    {s : Settings} (hs : s ∈ d'.settings) : s = .ofConfig c := by
  have hopen : d.isOpen = true :=
    isOpen_of_write_ok (p := .config) (k := ⟨c, {}, none⟩) (congrArg Prod.fst h)
  rw [perform_of_isOpen hopen, performOpen, writeConfig] at h
  split at h
  · -- without the row nothing is stored, so there is none
    rename_i hnone
    obtain rfl := congrArg Prod.snd h
    rw [hnone] at hs
    cases hs
  · split at h
    · cases congrArg Prod.fst h
    · obtain rfl := congrArg Prod.snd h
      exact (Option.some.inj hs).symm

/-- An event that was appended with success has the last row. -/
theorem events_eq_of_perform {id : Int} (h : d.perform now (.append draft) = (.ok id, d')) :
    d'.events = d.events ++ [.ofDraft id draft] := by
  have hopen : d.isOpen = true := by
    by_contra hclosed
    rw [Bool.not_eq_true] at hclosed
    simp [perform, hclosed] at h
  rw [perform_of_isOpen hopen, performOpen, append, insert] at h
  split at h
  · cases congrArg Prod.fst h
  · cases congrArg Prod.fst h
  · obtain rfl := Except.ok.inj (congrArg Prod.fst h)
    obtain rfl := congrArg Prod.snd h
    rfl

/-- Whatever texts stand in the lists of a configuration and in the results of a
notification, and whatever numbers of sixty-four and of thirty-two bits, the columns of
their rows hold these lists, and so do the columns of a file after a call that saved the
configuration or appended the notification. -/
theorem lists_come_back (hdelays : ∀ n ∈ c.retryDelays, n ≤ 0xFFFFFFFFFFFFFFFF)
    (hattempts : ∀ r ∈ draft.channels, r.attempts ≤ 0xFFFFFFFF) :
    (Settings.ofConfig c).HoldsListsOf c ∧
    (∀ id, (EventRow.ofDraft id draft).HoldsResultsOf draft) ∧
    ∀ (d d' : Database) (now : Instant),
      (d.perform now (.writeConfig c) = (.ok (), d') → ∀ s ∈ d'.settings, s.HoldsListsOf c) ∧
      ∀ id, d.perform now (.append draft) = (.ok id, d') →
        ∃ r, d'.events = d.events ++ [r] ∧ r.id = id ∧ r.HoldsResultsOf draft := by
  have hsettings := Settings.ofConfig_holdsListsOf hdelays
  have hrow := EventRow.ofDraft_holdsResultsOf hattempts
  refine ⟨hsettings, hrow, fun d d' now => ⟨fun hsaved s hs => ?_, fun id happended => ?_⟩⟩
  · rw [eq_ofConfig_of_perform hsaved hs]
    exact hsettings
  · exact ⟨.ofDraft id draft, events_eq_of_perform happended, rfl, hrow id⟩

/-- Quotes, backslashes, controls, line separators, characters beyond the basic plane, and
the shortest and the longest pause. -/
def oddConfig : Config where
  recipients := ["\"ops\" <o\\ps@example.com>", "\x00\x1f\x7f"]
  chatIds := ["", "-100\n\t", "\u2028\uffff😀"]
  retryDelays := [0, 0xFFFFFFFFFFFFFFFF]

/-- Results with and without a reason, one of them with an empty one. -/
def oddDraft : Event.Draft where
  level := .warning
  message := "load"
  cpuPercent := 90
  channels :=
    [{ channel := "tele\"gram", attempts := 0xFFFFFFFF, errorMessage := some "\\u0000 and \x00" },
     { channel := "", success := true },
     { channel := "😀", errorMessage := some "" }]
  createdAt := .epoch

theorem lists_come_back_oddTexts :
    (∀ n ∈ oddConfig.retryDelays, n ≤ 0xFFFFFFFFFFFFFFFF) ∧
    (∀ r ∈ oddDraft.channels, r.attempts ≤ 0xFFFFFFFF) ∧
    ∃ saved appended s r,
      perform { path := "alerts.db" } .epoch (.writeConfig oddConfig) = (.ok (), saved) ∧
      saved.settings = some s ∧
      s.recipients = "[\"\\\"ops\\\" <o\\\\ps@example.com>\",\"\\u0000\\u001f\x7f\"]" ∧
      listColumn Decoder.text s.recipients = oddConfig.recipients ∧
      listColumn Decoder.text s.chatIds = oddConfig.chatIds ∧
      listColumn (Decoder.natural 64) s.retryDelays = oddConfig.retryDelays ∧
      saved.perform .epoch (.append oddDraft) = (.ok 1, appended) ∧
      appended.events = [r] ∧
      listColumn Wire.channelOutcome r.channels = oddDraft.channels := by
  have hdelays : ∀ n ∈ oddConfig.retryDelays, n ≤ 0xFFFFFFFFFFFFFFFF := by decide
  have hattempts : ∀ r ∈ oddDraft.channels, r.attempts ≤ 0xFFFFFFFF := by decide
  obtain ⟨-, -, hfile⟩ := lists_come_back hdelays hattempts
  let file : Database := { path := "alerts.db" }
  let saved : Database := { file with settings := some (.ofConfig oddConfig) }
  let appended : Database := (saved.perform .epoch (.append oddDraft)).2
  have hsaved : file.perform .epoch (.writeConfig oddConfig) = (.ok (), saved) := rfl
  have happended : saved.perform .epoch (.append oddDraft) = (.ok 1, appended) := rfl
  have hs := (hfile file saved .epoch).1 hsaved _ rfl
  obtain ⟨r, hr, -, hresults⟩ := (hfile saved appended .epoch).2 1 happended
  exact ⟨hdelays, hattempts, saved, appended, .ofConfig oddConfig, r, hsaved, rfl,
    by decide +kernel, hs.recipients.listColumn_eq, hs.chatIds.listColumn_eq,
    hs.retryDelays.listColumn_eq, happended, hr, hresults.listColumn_eq⟩

end Database

end CpuAlert
