import CpuAlert.Proofs.Store.Lost

/-!
# What damage reaches

Another program may have put any text into the columns of lists, of levels and of
channel results, and any number into the column of times. Each of these columns is
read by itself, and what cannot be read stands for something: no items, no level,
the present. So a damaged column changes one field of one configuration or of one
event. A file is read all the same, and a page has the same events.

Which texts are damaged is said without the columns: those that are no JSON array
of the right elements. A text of blanks is one of them, although a column that is
blank is not read as JSON at all.

## Main definitions

* `Json.IsArrayOf` — the JSON arrays of elements of one type
* `Database.ColumnReads`, `Database.Settings.ReadsAs`, `Database.EventRow.ReadsAs` —
  what columns and rows are read as
* `Database.IsTyped` — a file whose other columns hold what they should
* `Database.selected` — the rows of a page

## Main results

* `Json.decodeText_list_eq_ok_iff` — how a list is decoded
* `Database.exists_listColumn` — how a column of lists is read
* `Database.damage_contained` — how a file is read
-/

namespace CpuAlert

open Json
open Time (Instant)

/-! ## Lists in texts -/

namespace Json

variable {α : Type} {decode : Decoder α}

/-- The text is a JSON array, and its elements are read as these items. -/
def IsArrayOf (decode : Decoder α) (s : String) (items : List α) : Prop :=
  ∃ docs rest, Doc.read s.toList = (.array docs none, rest) ∧
    docs.map decode = items.map .ok ∧ ∀ r ∈ rest, skipBlanks r = []

theorem Decoder.items_eq_mapM (decode : Decoder α) (docs : List Doc) :
    Decoder.items decode docs = docs.mapM decode := by
  induction docs with
  | nil => rfl
  | cons d docs ih => rw [Decoder.items, List.mapM_cons, ih]

/-- What is decoded as a list is an array without faults. -/
theorem Decoder.list_eq_ok_iff {d : Doc} {items : List α} :
    Decoder.list decode d = .ok items ↔
      ∃ docs, d = .array docs none ∧ docs.map decode = items.map .ok := by
  cases d with
  | array docs tail =>
    rw [Decoder.list, Decoder.items_eq_mapM]
    cases tail with
    | none =>
      simp only [← mapM_eq_ok_iff, Doc.array.injEq, and_true, exists_eq_left']
      cases docs.mapM decode <;> simp [bind, Except.bind, pure, Except.pure, endOf]
    | some f => cases docs.mapM decode <;> simp [bind, Except.bind, endOf]
  | _ => simp [Decoder.list]

/-- A text is decoded as a list exactly if it is an array of such elements. -/
theorem decodeText_list_eq_ok_iff {s : String} {items : List α} :
    decodeText (Decoder.list decode) s = .ok items ↔ IsArrayOf decode s items := by
  rw [decodeText, IsArrayOf]
  rcases Doc.read s.toList with ⟨d, rest⟩
  -- what follows the array counts only if the array itself was read
  cases hlist : Decoder.list decode d with
  | error f =>
    refine iff_of_false (by simp [hlist, bind, Except.bind]) ?_
    rintro ⟨docs, _, hread, hdocs, -⟩
    have hok := Decoder.list_eq_ok_iff.mpr ⟨docs, congrArg Prod.fst hread, hdocs⟩
    rw [hlist] at hok
    cases hok
  | ok as =>
    obtain ⟨docs, rfl, hdocs⟩ := Decoder.list_eq_ok_iff.mp hlist
    have hsame : (as.map .ok : List (Except Fault α)) = items.map .ok ↔ as = items :=
      List.map_inj_right fun _ _ h => Except.ok.inj h
    cases rest with
    | none => simp [hlist, hdocs, hsame, bind, Except.bind, pure, Except.pure]
    | some r =>
      by_cases hr : skipBlanks r = [] <;>
        simp [hlist, hdocs, hsame, hr, bind, Except.bind, pure, Except.pure, throw, throwThe]

end Json

/-- What is blank as a text consists of blanks. -/
theorem Text.isBlank_of_trim_eq_empty {s : String} (h : trim s = "") :
    ∀ c ∈ s.toList, isBlank c = true := by
  have hnil : trimList s.toList = [] := by rw [← toList_trim, h]; rfl
  rw [← List.dropWhile_eq_nil_iff]
  cases hrest : s.toList.dropWhile isBlank with
  | nil => rfl
  | cons c cs =>
    have hc : isBlank c = false := isBlank_of_mem_head?_dropWhile (by rw [hrest]; rfl)
    have hsame : trimList s.toList = trimList (c :: cs) := by
      rw [trimList, trimList, trimStartList, trimStartList, hrest,
        List.dropWhile_cons_of_neg (by simp [hc])]
    exact absurd (hsame.symm.trans hnil) (trimList_cons_ne_nil hc cs)

namespace Json

/-- No JSON value begins with a blank that JSON does not skip. -/
theorem readScalar_of_isBlank {c : Char} (hc : Text.isBlank c = true) (r : List Char) :
    readScalar c r = cut .malformed := by
  have hne (x : Char) (hx : Text.isBlank x = false) : c ≠ x := by
    rintro rfl
    rw [hx] at hc
    cases hc
  have hdigit : c.isDigit = false := by
    by_contra h
    have hzero : '0'.val.toNat = 48 := rfl
    have hnine : '9'.val.toNat = 57 := rfl
    simp only [Bool.not_eq_false, Char.isDigit, Bool.and_eq_true, decide_eq_true_eq, ge_iff_le,
      UInt32.le_iff_toNat_le, hzero, hnine] at h
    simp only [Text.isBlank, Char.toNat, Bool.or_eq_true, Bool.and_eq_true, decide_eq_true_eq,
      beq_iff_eq] at hc
    omega
  rw [readScalar, if_neg (hne _ rfl), if_neg (hne _ rfl), if_neg (hne _ rfl), if_neg (hne _ rfl),
    if_neg (hne _ rfl), hdigit]
  rfl

/-- A text of blanks is no array. -/
theorem not_isArrayOf_of_blank {α : Type} {decode : Decoder α} {s : String} {items : List α}
    (h : Text.trim s = "") : ¬ IsArrayOf decode s items := by
  rintro ⟨docs, rest, hread, -⟩
  rw [Doc.read, readValue] at hread
  -- JSON skips four of the blanks, and one that it does not skip ends the reading
  have hhead : ∀ c ∈ (skipBlanks s.toList).head?, Text.isBlank c = true := fun c hc =>
    Text.isBlank_of_trim_eq_empty h c
      ((List.dropWhile_sublist _).subset (List.mem_of_mem_head? hc))
  split at hread
  · cases hread
  · rename_i hbracket
    rw [hbracket] at hhead
    exact absurd (hhead _ rfl) (by decide)
  · rename_i hbrace
    rw [hbrace] at hhead
    exact absurd (hhead _ rfl) (by decide)
  · rename_i c r _ _ hcons
    rw [hcons] at hhead
    rw [readScalar_of_isBlank (hhead c rfl)] at hread
    cases hread

end Json

/-! ## Columns -/

namespace Cell

/-- The cell of a column of whole numbers. -/
def IsWhole (c : Cell) : Prop := ∃ n, c = .int n

/-- The cell of a column of doubles. -/
def IsDouble (c : Cell) : Prop := ∃ x, c = .real x

end Cell

/-- The fields of an event that are read from columns which are taken as they are. -/
def Event.intact (e : Event) : Int × String × Cell := (e.id, e.message, .real e.cpuPercent)

/-- A name that is found is the name of its level. -/
theorem Level.name_of_ofName?_eq_some {s : String} {l : Level} (h : ofName? s = some l) :
    s = l.name := by
  simp only [ofName?] at h
  split_ifs at h with hnone hwarning hcritical hrecovery htest <;>
    obtain rfl := Option.some.inj h <;> assumption

namespace Database

/-- What a column of lists is read as: the items of an array, or nothing if it is none. -/
inductive ColumnReads {α : Type} (decode : Decoder α) (raw : String) : List α → Prop
  | array {items : List α} (h : IsArrayOf decode raw items) : ColumnReads decode raw items
  | damaged (h : ¬ ∃ items, IsArrayOf decode raw items) : ColumnReads decode raw []

theorem exists_listColumn {α : Type} (decode : Decoder α) (raw : String) :
    ∃ items, listColumn decode raw = items ∧ ColumnReads decode raw items := by
  rw [listColumn]
  by_cases hblank : Text.trim raw = ""
  · rw [if_pos hblank]
    exact ⟨[], rfl, .damaged (not_exists.mpr fun _ => not_isArrayOf_of_blank hblank)⟩
  · rw [if_neg hblank]
    cases hdecoded : decodeText (Decoder.list decode) raw with
    | ok items => exact ⟨items, rfl, .array (decodeText_list_eq_ok_iff.mp hdecoded)⟩
    | error f =>
      refine ⟨[], rfl, .damaged (not_exists.mpr fun items h => ?_)⟩
      rw [decodeText_list_eq_ok_iff.mpr h] at hdecoded
      cases hdecoded

/-- What a column of levels is read as: the level of that name, or none if there is no
such level. -/
inductive LevelReads (raw : String) : Level → Prop
  | level {l : Level} (h : raw = l.name) : LevelReads raw l
  | damaged (h : ∀ l : Level, raw ≠ l.name) : LevelReads raw .none

theorem levelReads_ofName? (raw : String) : LevelReads raw ((Level.ofName? raw).getD .none) := by
  cases hfound : Level.ofName? raw with
  | some l => exact .level (Level.name_of_ofName?_eq_some hfound)
  | none =>
    refine .damaged fun l hl => ?_
    rw [hl, Level.ofName?_name] at hfound
    cases hfound

/-! ## Rows -/

/-- The columns of truth values and of numbers hold what they should. -/
structure Settings.IsTyped (s : Settings) : Prop where
  enabled : s.enabled.IsWhole
  warningPercent : s.warningPercent.IsDouble
  warningWindow : s.warningWindow.IsWhole
  criticalPercent : s.criticalPercent.IsDouble
  criticalWindow : s.criticalWindow.IsWhole
  recoveryPercent : s.recoveryPercent.IsDouble
  recoveryWindow : s.recoveryWindow.IsWhole
  cooldown : s.cooldown.IsWhole
  telegramEnabled : s.telegramEnabled.IsWhole
  emailEnabled : s.emailEnabled.IsWhole

/-- What the row of the settings is read as: every field is read from its own column,
and instead of no pauses at all there are the usual ones. -/
structure Settings.ReadsAs (s : Settings) (c : Config) : Prop where
  enabled : ∃ n, s.enabled = .int n ∧ c.enabled = (n != 0)
  warningPercent : s.warningPercent = .real c.warningPercent
  warningWindow : s.warningWindow = .int c.warningWindow
  criticalPercent : s.criticalPercent = .real c.criticalPercent
  criticalWindow : s.criticalWindow = .int c.criticalWindow
  recoveryPercent : s.recoveryPercent = .real c.recoveryPercent
  recoveryWindow : s.recoveryWindow = .int c.recoveryWindow
  cooldown : s.cooldown = .int c.cooldown
  telegramEnabled : ∃ n, s.telegramEnabled = .int n ∧ c.telegramEnabled = (n != 0)
  emailEnabled : ∃ n, s.emailEnabled = .int n ∧ c.emailEnabled = (n != 0)
  recipients : ColumnReads Decoder.text s.recipients c.recipients
  chatIds : ColumnReads Decoder.text s.chatIds c.chatIds
  retryDelays : ∃ delays, ColumnReads (Decoder.natural 64) s.retryDelays delays ∧
    c.retryDelays = if delays = [] then [1, 5, 15] else delays

/-- A row of settings is read, whatever texts its columns of lists hold. -/
theorem Settings.exists_config {s : Settings} (h : s.IsTyped) :
    ∃ c, s.config = .ok c ∧ s.ReadsAs c := by
  obtain ⟨enabled, henabled⟩ := h.enabled
  obtain ⟨warningPercent, hwarningPercent⟩ := h.warningPercent
  obtain ⟨warningWindow, hwarningWindow⟩ := h.warningWindow
  obtain ⟨criticalPercent, hcriticalPercent⟩ := h.criticalPercent
  obtain ⟨criticalWindow, hcriticalWindow⟩ := h.criticalWindow
  obtain ⟨recoveryPercent, hrecoveryPercent⟩ := h.recoveryPercent
  obtain ⟨recoveryWindow, hrecoveryWindow⟩ := h.recoveryWindow
  obtain ⟨cooldown, hcooldown⟩ := h.cooldown
  obtain ⟨telegramEnabled, htelegramEnabled⟩ := h.telegramEnabled
  obtain ⟨emailEnabled, hemailEnabled⟩ := h.emailEnabled
  obtain ⟨recipients, hrecipients, hrecipientsReads⟩ := exists_listColumn Decoder.text s.recipients
  obtain ⟨chatIds, hchatIds, hchatIdsReads⟩ := exists_listColumn Decoder.text s.chatIds
  obtain ⟨delays, hdelays, hdelaysReads⟩ := exists_listColumn (Decoder.natural 64) s.retryDelays
  have hread : s.config = .ok
      { enabled := enabled != 0, warningPercent, warningWindow, criticalPercent, criticalWindow
        recoveryPercent, recoveryWindow, cooldown
        telegramEnabled := telegramEnabled != 0
        emailEnabled := emailEnabled != 0
        recipients, chatIds
        retryDelays := if delays = [] then [1, 5, 15] else delays } := by
    simp only [config, henabled, hwarningPercent, hwarningWindow, hcriticalPercent,
      hcriticalWindow, hrecoveryPercent, hrecoveryWindow, hcooldown, htelegramEnabled,
      hemailEnabled, hrecipients, hchatIds, hdelays, List.isEmpty_iff, Cell.readFlag, Cell.readInt,
      Cell.readReal]
    rfl
  exact ⟨_, hread,
    { enabled := ⟨enabled, henabled, rfl⟩
      warningPercent := hwarningPercent
      warningWindow := hwarningWindow
      criticalPercent := hcriticalPercent
      criticalWindow := hcriticalWindow
      recoveryPercent := hrecoveryPercent
      recoveryWindow := hrecoveryWindow
      cooldown := hcooldown
      telegramEnabled := ⟨telegramEnabled, htelegramEnabled, rfl⟩
      emailEnabled := ⟨emailEnabled, hemailEnabled, rfl⟩
      recipients := hrecipientsReads
      chatIds := hchatIdsReads
      retryDelays := ⟨delays, hdelaysReads, rfl⟩ }⟩

/-- So there is always a pause between attempts. -/
theorem Settings.ReadsAs.retryDelays_ne_nil {s : Settings} {c : Config} (h : s.ReadsAs c) :
    c.retryDelays ≠ [] := by
  obtain ⟨delays, -, hdelays⟩ := h.retryDelays
  rw [hdelays]
  split
  · exact List.cons_ne_nil _ _
  · assumption

/-- The columns of numbers hold numbers. -/
structure EventRow.IsTyped (r : EventRow) : Prop where
  cpuPercent : r.cpuPercent.IsDouble
  createdAt : r.createdAt.IsWhole

/-- What the row of an event is read as: every field is read from its own column. -/
structure EventRow.ReadsAs (now : Instant) (r : EventRow) (e : Event) : Prop where
  id : e.id = r.id
  level : LevelReads r.level e.level
  message : e.message = r.message
  cpuPercent : r.cpuPercent = .real e.cpuPercent
  channels : ColumnReads Wire.channelOutcome r.channels e.channels
  createdAt : ∃ ms, r.createdAt = .int ms ∧ e.createdAt = instantColumn now ms

/-- A row of an event is read, whatever texts its other columns hold. -/
theorem EventRow.exists_event {r : EventRow} (h : r.IsTyped) (now : Instant) :
    ∃ e, r.event now = .ok e ∧ r.ReadsAs now e := by
  obtain ⟨cpuPercent, hcpuPercent⟩ := h.cpuPercent
  obtain ⟨ms, hcreatedAt⟩ := h.createdAt
  obtain ⟨channels, hchannels, hchannelsReads⟩ := exists_listColumn Wire.channelOutcome r.channels
  have hread : r.event now = .ok
      { id := r.id
        level := (Level.ofName? r.level).getD .none
        message := r.message
        cpuPercent, channels
        createdAt := instantColumn now ms } := by
    simp only [event, hcpuPercent, hcreatedAt, hchannels, Cell.readInt, Cell.readReal]
    rfl
  exact ⟨_, hread,
    { id := rfl
      level := levelReads_ofName? r.level
      message := rfl
      cpuPercent := hcpuPercent
      channels := hchannelsReads
      createdAt := ⟨ms, hcreatedAt, rfl⟩ }⟩

/-! ## Files -/

/-- The columns of truth values and of numbers hold what they should, and the events
stand in the order of their numbers, as they always do. -/
structure IsTyped (d : Database) : Prop where
  settings : ∀ s ∈ d.settings, s.IsTyped
  events : ∀ r ∈ d.events, r.IsTyped
  increasing : d.events.Pairwise fun r r' => r.id < r'.id

/-- The rows of a page: the newest that it admits. -/
def selected (d : Database) (p : Page) : List EventRow :=
  (d.events.reverse.filter fun r => p.admits r.id).take p.limit

/-- The columns of a row that are taken as they are. -/
def EventRow.intact (r : EventRow) : Int × String × Cell := (r.id, r.message, r.cpuPercent)

variable {d : Database}

theorem mem_of_mem_selected {p : Page} {r : EventRow} (hr : r ∈ d.selected p) : r ∈ d.events :=
  List.mem_reverse.mp (List.mem_filter.mp (List.mem_of_mem_take hr)).1

/-- Which rows are on a page depends on their numbers alone. -/
theorem map_intact_selected (p : Page) :
    (d.selected p).map EventRow.intact =
      (((d.events.map EventRow.intact).reverse.filter fun x => p.admits x.1).take p.limit) :=
  (take_filter_reverse_map EventRow.intact (·.1) d.events p).symm

/-- The configuration is read from its row; without the row it is the default one. -/
theorem exists_readConfig (hd : d.IsTyped) :
    ∃ c, d.readConfig = .ok c ∧ c.retryDelays ≠ [] ∧ (∀ s ∈ d.settings, s.ReadsAs c) ∧
      (d.settings = none → c = {}) := by
  rw [readConfig]
  cases hrow : d.settings with
  | none =>
    have hdelays : ({} : Config).retryDelays ≠ [] := Config.isExact_default.delays_ne_nil
    refine ⟨{}, rfl, hdelays, fun s hs => ?_, fun _ => rfl⟩
    cases hs
  | some s =>
    obtain ⟨c, hc, hreads⟩ := Settings.exists_config (hd.settings s hrow)
    refine ⟨c, hc, hreads.retryDelays_ne_nil, fun s' hs' => ?_, fun hnone => ?_⟩
    · exact Option.some.inj hs' ▸ hreads
    · cases hnone

/-- A page is read row by row. -/
theorem exists_page (hd : d.IsTyped) (now : Instant) (p : Page) :
    ∃ events, d.page now p = .ok events ∧
      List.Forall₂ (EventRow.ReadsAs now) (d.selected p) events := by
  refine exists_mapM_eq_ok fun r hr => ?_
  exact EventRow.exists_event (hd.events r (mem_of_mem_selected hr)) now

/-- An event on a page depends on its own row alone. -/
theorem map_event_selected {now : Instant} {p : Page} {events : List Event}
    (h : d.page now p = .ok events) :
    (d.selected p).map (EventRow.event now) = events.map .ok :=
  mapM_eq_ok_iff.mp h

/-- The other columns are in the events of the page as they are in its rows. -/
theorem map_intact_of_readsAs {now : Instant} {rows : List EventRow} {events : List Event}
    (h : List.Forall₂ (EventRow.ReadsAs now) rows events) :
    events.map Event.intact = rows.map EventRow.intact :=
  map_eq_of_forall₂ h fun r e hreads => by
    rw [Event.intact, EventRow.intact, hreads.id, hreads.message, hreads.cpuPercent]

/-- The numbers on a page decrease. -/
theorem decreasing_selected (hd : d.IsTyped) (p : Page) :
    (d.selected p).Pairwise fun r r' => r.id > r'.id := by
  have hsorted : d.events.reverse.Pairwise fun r r' => r.id > r'.id :=
    List.pairwise_reverse.mpr hd.increasing
  exact hsorted.sublist ((List.take_sublist ..).trans List.filter_sublist)

/-- Whatever the columns of lists, levels, channel results and times hold, the
configuration is read, and so is every page: one event for each of its rows, the
newest first. A column that cannot be read counts as empty or none, which has no
effect on other columns. With other texts there the page has the same events but for
these columns, and a row without them is read as the same event. -/
theorem damage_contained (hd : d.IsTyped) (hopen : d.isOpen = true) (now : Instant) :
    (∃ c, d.perform now .readConfig = (.ok c, d) ∧ c.retryDelays ≠ [] ∧
      (∀ s ∈ d.settings, s.ReadsAs c) ∧ (d.settings = none → c = {})) ∧
    ∀ p : Page, ∃ events, d.perform now (.list p) = (.ok events, d) ∧
      List.Forall₂ (EventRow.ReadsAs now) (d.selected p) events ∧
      (events.map (·.id)).Pairwise (· > ·) ∧
      ∀ d' : Database, d'.IsTyped → d'.isOpen = true →
        d'.events.map EventRow.intact = d.events.map EventRow.intact →
        ∃ events', d'.perform now (.list p) = (.ok events', d') ∧
          events'.map Event.intact = events.map Event.intact ∧
          ∀ i : Nat, (d'.selected p)[i]? = (d.selected p)[i]? → events'[i]? = events[i]? := by
  constructor
  · obtain ⟨c, hc, hconfig⟩ := exists_readConfig hd
    refine ⟨c, ?_, hconfig⟩
    rw [perform_of_isOpen hopen, performOpen, hc]
  intro p
  obtain ⟨events, hevents, hreads⟩ := exists_page hd now p
  refine ⟨events, ?_, hreads, ?_, fun d' hd' hopen' hintact => ?_⟩
  · rw [perform_of_isOpen hopen, performOpen, hevents]
  · rw [map_eq_of_forall₂ hreads fun _ _ h => h.id, List.pairwise_map]
    exact decreasing_selected hd p
  · obtain ⟨events', hevents', hreads'⟩ := exists_page hd' now p
    refine ⟨events', ?_, ?_, fun i hi => ?_⟩
    · rw [perform_of_isOpen hopen', performOpen, hevents']
    · rw [map_intact_of_readsAs hreads', map_intact_of_readsAs hreads, map_intact_selected,
        map_intact_selected, hintact]
    · -- the row at this place is the same, and nothing else goes into its event
      have hread := congrArg (·[i]?) (map_event_selected hevents)
      have hread' := congrArg (·[i]?) (map_event_selected hevents')
      simp only [List.getElem?_map] at hread hread'
      rw [hi, hread] at hread'
      exact Option.map_injective (fun _ _ h => Except.ok.inj h) hread'.symm

/-- A file with two events, the older of which may be damaged. -/
def fileWith (level channels : String) (ms : Int) : Database where
  path := "alerts.db"
  settings := some { recipients := "not json", chatIds := "[\"1\"]", retryDelays := "[]" }
  events :=
    [⟨1, level, "load", .real 80, channels, .int ms⟩,
      ⟨2, "warning", "load", .real 90, "[]", .int 0⟩]
  lastId := 2

theorem isTyped_fileWith (level channels : String) (ms : Int) :
    (fileWith level channels ms).IsTyped where
  settings s hs := by
    obtain rfl := Option.some.inj hs
    exact ⟨⟨_, rfl⟩, ⟨_, rfl⟩, ⟨_, rfl⟩, ⟨_, rfl⟩, ⟨_, rfl⟩, ⟨_, rfl⟩, ⟨_, rfl⟩, ⟨_, rfl⟩, ⟨_, rfl⟩,
      ⟨_, rfl⟩⟩
  events := by
    simp only [fileWith, List.forall_mem_cons]
    exact ⟨⟨⟨_, rfl⟩, ⟨_, rfl⟩⟩, ⟨⟨_, rfl⟩, ⟨_, rfl⟩⟩, nofun⟩
  increasing := by simp [fileWith]

/-- An unknown level, results of another shape and a time beyond the calendar. -/
theorem damage_contained_fileWith :
    let damaged := fileWith "loud" "[1]" 0x7FFFFFFFFFFFFFFF
    let sound := fileWith "critical" "[]" 0
    let p : Page := ⟨50, none⟩
    damaged.IsTyped ∧ sound.IsTyped ∧
      sound.events.map EventRow.intact = damaged.events.map EventRow.intact ∧
      (∃ c, damaged.perform .epoch .readConfig = (.ok c, damaged) ∧
        c.recipients = [] ∧ c.chatIds = ["1"] ∧ c.retryDelays = [1, 5, 15]) ∧
      ∃ events events', damaged.perform .epoch (.list p) = (.ok events, damaged) ∧
        sound.perform .epoch (.list p) = (.ok events', sound) ∧
        events.map (·.id) = [2, 1] ∧ events'[0]? = events[0]? := by
  intro damaged sound p
  have hdamaged : damaged.IsTyped := isTyped_fileWith ..
  have hsound : sound.IsTyped := isTyped_fileWith ..
  have hintact : sound.events.map EventRow.intact = damaged.events.map EventRow.intact := rfl
  obtain ⟨⟨c, hc, -⟩, hpage⟩ := damage_contained hdamaged rfl .epoch
  obtain ⟨events, hevents, -, -, hother⟩ := hpage p
  obtain ⟨events', hevents', -, hsame⟩ := hother sound hsound rfl hintact
  have hlists : (damaged.perform .epoch .readConfig).1.toOption.map
      (fun c => (c.recipients, c.chatIds, c.retryDelays)) = some ([], ["1"], [1, 5, 15]) := by
    decide +kernel
  have hids : (damaged.perform .epoch (.list p)).1.toOption.map (·.map (·.id)) = some [2, 1] := by
    decide +kernel
  rw [hc] at hlists
  rw [hevents] at hids
  simp only [Except.toOption, Option.map_some, Option.some.injEq, Prod.mk.injEq] at hlists hids
  exact ⟨hdamaged, hsound, hintact, ⟨c, hc, hlists⟩, events, events', hevents, hevents', hids,
    hsame 0 rfl⟩

end Database

end CpuAlert
