import CpuAlert.Proofs.Config.Order
import CpuAlert.Proofs.Service.Restart
import CpuAlert.Proofs.Service.Rules
import Mathlib.Data.Fin.VecNotation

/-!
# What is in force is fit

A service that has loaded a configuration fit to be in force never has another one
in force, and never stores one. An update works on what is in force when it looks,
drops what its lists may not have, and is refused if its thresholds are not in
order; what is stored or put back for it is either this or what was in force. It
makes no difference which writes fail, and who does what meanwhile.

## Main definitions

* `Backend.Gives` — a store gives back a configuration of some sort
* `fitness` — the rules that everybody goes by

## Main results

* `Backend.Gives.perform` — only a configuration that is written changes it
* `World.start_loaded` — what a service has loaded from its store
* `hold_fitness`, `Service.serve_fitness` — everybody obeys the rules
* `Watch.IsSound.exists_look` — when an update is rejected for its values
* `Watch.always_fit` — what is in force and stored at any time
-/

namespace CpuAlert

open Time (Instant)

/-! ## Stores -/

namespace Backend

/-- The store gives back a configuration like this at any time. -/
def Gives (b : Backend) (good : Config → Prop) : Prop :=
  ∃ c, (∀ now, (b.perform now .readConfig).1 = .ok c) ∧ good c

variable {b : Backend} {good : Config → Prop}

theorem gives_memory_iff {m : Memory} : (Backend.memory m).Gives good ↔ good m.config := by
  constructor
  · rintro ⟨c, hread, hc⟩
    exact Except.ok.inj (hread .epoch) ▸ hc
  · exact fun h => ⟨m.config, fun _ => rfl, h⟩

theorem gives_database_iff {d : Database} :
    (Backend.database d).Gives good ↔ d.isOpen ∧ ∃ c, d.readConfig = .ok c ∧ good c := by
  constructor
  · rintro ⟨c, hread, hc⟩
    have hread := hread .epoch
    simp only [perform, Database.perform] at hread
    split at hread
    · rename_i hopen
      exact ⟨hopen, c, hread, hc⟩
    · cases hread
  · rintro ⟨hopen, c, hread, hc⟩
    refine ⟨c, fun now => ?_, hc⟩
    simp only [perform, Database.perform, hopen, if_true]
    exact hread

/-- What a store gives back once, it gives back at any time. -/
theorem gives_of_read {now : Instant} {c : Config} (h : (b.perform now .readConfig).1 = .ok c)
    (hc : good c) : b.Gives good := by
  cases b with
  | memory m => exact gives_memory_iff.mpr (Except.ok.inj h ▸ hc)
  | database d =>
    rw [gives_database_iff]
    simp only [perform, Database.perform] at h
    split at h
    · rename_i hopen
      exact ⟨hopen, c, h, hc⟩
    · cases h

end Backend

/-- What a file gives back depends on the row of the settings. -/
theorem Database.gives_of_row {d d' : Database} {good : Config → Prop}
    (h : (Backend.database d).Gives good) (hopen : d'.isOpen = d.isOpen)
    (hsettings : d'.settings = d.settings) : (Backend.database d').Gives good := by
  rw [Backend.gives_database_iff] at h ⊢
  simpa only [readConfig, hopen, hsettings] using h

/-- A fit configuration is given back as a fit one. -/
theorem Database.writeConfig_gives {d : Database} (h : (Backend.database d).Gives Config.IsFit)
    {c : Config} (hc : c.IsFit) : (Backend.database (d.writeConfig c).2).Gives Config.IsFit := by
  simp only [writeConfig]
  split
  · exact h
  · split
    · exact h
    · obtain ⟨hopen, -⟩ := Backend.gives_database_iff.mp h
      obtain ⟨hrecovery, hwarning, hcritical⟩ := hc.numbers
      exact Backend.gives_database_iff.mpr
        ⟨hopen, _, config_ofConfig hwarning hcritical hrecovery, readBack_isFit hc⟩

/-- A call that neither closes the store nor writes anything unfit leaves a fit
configuration to be given back. -/
theorem Backend.Gives.perform {b : Backend} (h : b.Gives Config.IsFit) (now : Instant)
    {c : Store.Call} (hclose : c ≠ .close)
    (hconfig : ∀ config, c = .writeConfig config → config.IsFit) :
    (b.perform now c).2.Gives Config.IsFit := by
  cases b with
  | memory m =>
    have hfit := gives_memory_iff.mp h
    refine gives_memory_iff.mpr ?_
    cases c with
    | writeConfig config => exact hconfig config rfl
    | _ => exact hfit
  | database d =>
    obtain ⟨hopen, -⟩ := gives_database_iff.mp h
    simp only [Backend.perform, Database.perform, hopen, if_true]
    cases c with
    | writeConfig config => exact Database.writeConfig_gives h (hconfig config rfl)
    | append draft =>
      refine Database.gives_of_row h ?_ ?_ <;>
        (simp only [Database.performOpen, Database.append, Database.insert]; split <;> rfl)
    | close => exact absurd rfl hclose
    | _ => exact Database.gives_of_row h rfl rfl

namespace World

/-- What a call is answered, the store has answered. -/
theorem perform_of_ask {w : World} {c : Store.Call} {r : c.Reply} (h : (w.ask c).1 = .ok r) :
    (w.store.perform w.wall c).1 = .ok r := by
  simp only [ask] at h
  split at h
  · cases h
  · exact h

/-- Loading leaves the store as it is. -/
theorem store_ask_of_isLoad {c : Store.Call} (hc : c.IsLoad) (w : World) :
    (w.ask c).2.store = w.store := by
  simp only [ask]
  split
  · rfl
  · exact Backend.perform_snd_of_isLoad hc w.wall

/-- A service that has started has in force what its store has given back. -/
theorem start_loaded {o : Service.Options} {w w' : World} {s : Service}
    (h : w.start o = (.ok s, w')) :
    (w.store.perform w.wall .readConfig).1 = .ok w'.live.config ∧ w'.store = w.store := by
  simp only [start, Service.start_eq, Program.run_step, perform_ask] at h
  have hstore₁ := store_ask_of_isLoad (c := .readConfig) trivial w
  cases hfirst : (w.ask .readConfig).1 with
  | error e =>
    rw [hfirst] at h
    cases h
  | ok config =>
    rw [hfirst] at h
    generalize (w.ask .readConfig).2 = w₁ at h hstore₁
    simp only [Program.run_step, perform_ask] at h
    have hstore₂ := store_ask_of_isLoad (c := .readCredentials) trivial w₁
    cases hsecond : (w₁.ask .readCredentials).1 with
    | error e =>
      rw [hsecond] at h
      cases h
    | ok record =>
      rw [hsecond] at h
      generalize (w₁.ask .readCredentials).2 = w₂ at h hstore₂
      simp only [Program.run_step, perform_ask] at h
      have hstore₃ := store_ask_of_isLoad (c := .mutedUntil) trivial w₂
      cases hthird : (w₂.ask .mutedUntil).1 with
      | error e =>
        rw [hthird] at h
        cases h
      | ok deadline =>
        rw [hthird] at h
        cases h
        exact ⟨perform_of_ask hfirst, hstore₃.trans (hstore₂.trans hstore₁)⟩

end World

/-! ## Rules -/

namespace Effect

/-- The effect does not close the store, and a configuration that it writes or puts
into force is fit. -/
def KeepsFit : Effect → Prop
  | .ask c => c ≠ .close ∧ ∀ config, c = .writeConfig config → config.IsFit
  | .commit config _ _ => config.IsFit
  | .acquire | .release | .look | .mute _ | .evaluate _ | .clock | .draw | .claimCleanup _
  | .endCleanup | .send _ _ _ | .pause _ | .isCancelled => True

/-- Whoever looks sees a fit configuration. -/
def ShowsFit : (e : Effect) → e.Reply → Prop
  | .look, live => live.config.IsFit
  | .acquire, _ | .release, _ | .ask _, _ | .commit _ _ _, _ | .mute _, _ | .evaluate _, _
  | .clock, _ | .draw, _ | .claimCleanup _, _ | .endCleanup, _ | .send _ _ _, _ | .pause _, _
  | .isCancelled, _ => True

theorem keepsFit_of_isBystander {e : Effect} (h : e.IsBystander) : e.KeepsFit := by
  cases e with
  | ask c =>
    obtain ⟨hwrite, hclose⟩ := h
    refine ⟨hclose, ?_⟩
    rintro config rfl
    exact absurd trivial hwrite
  | acquire | release | commit | mute | draw => exact h.elim
  | _ => exact trivial

end Effect

/-- A fit configuration stays in force and in the store. -/
def fitness (κ : Type) : Rules κ where
  fine _ w := w.live.config.IsFit ∧ w.store.Gives Config.IsFit
  allowed := Effect.KeepsFit
  expected := Effect.ShowsFit

theorem hold_fitness (κ : Type) : (fitness κ).Hold where
  beside := by
    rintro hs w w' ⟨hlive, hstore⟩ hbeside
    exact ⟨hbeside.live ▸ hlive, hbeside.store ▸ hstore⟩
  acts := by
    rintro hs w w' e reply i ⟨hlive, hstore⟩ he hacts
    obtain ⟨hbeside, hafter, hexpects, hsame, -⟩ := hacts
    have hstore' : w'.store.Gives Config.IsFit := hsame ▸ hstore
    cases e with
    | ask c => exact absurd rfl (hbeside c)
    | commit config credentials record => exact ⟨trivial, hafter ▸ he, hstore'⟩
    | look =>
      obtain rfl : reply = w.live := hexpects
      exact ⟨hlive, hafter ▸ hlive, hstore'⟩
    | _ => exact ⟨trivial, hafter ▸ hlive, hstore'⟩
  asks := by
    rintro hs w c i ⟨hlive, hstore⟩ ⟨hclose, hconfig⟩
    refine ⟨trivial, (w.ask_live c).symm ▸ hlive, ?_⟩
    simp only [World.ask]
    split
    · exact hstore
    · exact hstore.perform w.wall hclose hconfig

/-! ## Everybody -/

namespace Service

variable {κ : Type} {s : Service}

/-- What is stored for an update, or put back, is fit. -/
theorem persist_obeys {before config : Config} (hbefore : before.IsFit) (hconfig : config.IsFit)
    (record : SealedCredentials) : (fitness κ).Obeys (persist before config record) := by
  have hwrite {config : Config} (h : config.IsFit) :
      (fitness κ).allowed (.ask (.writeConfig config)) := by
    refine ⟨nofun, ?_⟩
    rintro config' ⟨⟩
    exact h
  rw [persist_eq]
  refine ⟨hwrite hconfig, fun r _ => ?_⟩
  cases r with
  | error e => exact trivial
  | ok _ =>
    refine ⟨⟨nofun, nofun⟩, fun r _ => ?_⟩
    cases r with
    | error e => exact ⟨hwrite hbefore, fun _ _ => trivial⟩
    | ok _ => exact trivial

/-- An update stores and puts into force what is fit, since it looks at what is. -/
theorem updateLocked_obeys (u : Config.Update) : (fitness κ).Obeys (s.updateLocked u) := by
  rw [updateLocked_eq]
  refine ⟨trivial, fun live hlive => ?_⟩
  have htarget : (s.target u live).Meets Effect.KeepsFit Effect.ShowsFit
      (RefusedOr fun t => s.IsTarget u live t.1 t.2.1 t.2.2) :=
    ((target_meets live).mono (fun e he => he ▸ trivial) fun _ h => h).expecting
  refine htarget.bind fun r hr => ?_
  cases r with
  | error e => exact trivial
  | ok t =>
    obtain ⟨config, credentials, record⟩ := t
    have hresult : s.IsTarget u live config credentials record := hr
    -- what it looked at was fit, and what the update makes of it has been checked
    have hconfig : config.IsFit := by
      rw [hresult.config_eq]
      exact Config.Update.apply_isFit hlive (hresult.config_eq ▸ hresult.usable)
    have hpersist : (fitness κ).Obeys (persist live.config config record) :=
      persist_obeys hlive hconfig record
    refine hpersist.bind fun r _ => ?_
    cases r with
    | error e => exact trivial
    | ok _ => exact ⟨hconfig, fun _ _ => trivial⟩

/-- A change of the silence has nothing to do with the configuration. -/
theorem setDeadline_obeys (deadline : Option Instant) :
    (fitness κ).Obeys (setDeadline deadline) := by
  rw [setDeadline_eq]
  refine ⟨⟨nofun, nofun⟩, fun r _ => ?_⟩
  cases r with
  | error e => exact trivial
  | ok _ => exact ⟨trivial, fun _ _ => trivial⟩

theorem locked_obeys {α : Type} {p : Program α} (hp : (fitness κ).Obeys p) :
    (fitness κ).Obeys (locked p) := by
  rw [locked_eq]
  exact ⟨trivial, fun _ _ => hp.bind fun _ _ => ⟨trivial, fun _ _ => trivial⟩⟩

theorem silence_obeys (minutes : Int) : (fitness κ).Obeys (silence minutes) := by
  rw [silence]
  split
  · refine locked_obeys ?_
    rw [silenceLocked_eq]
    exact ⟨trivial, fun _ _ => (setDeadline_obeys _).bind fun _ _ => trivial⟩
  · exact trivial

/-- A mutation goes by the rules. -/
theorem mutation_obeys (s : Service) {op : Operation} (hop : op.IsMutation) :
    (fitness κ).Obeys (op.program s) := by
  cases op with
  | update u => exact (locked_obeys (updateLocked_obeys u)).bind fun _ _ => trivial
  | silence minutes => exact (silence_obeys minutes).bind fun _ _ => trivial
  | endSilence => exact (locked_obeys (setDeadline_obeys none)).bind fun _ _ => trivial
  | observe | view | status | sendTest | history | cleanup | isEnabled | health => exact hop.elim

/-- So does everybody else. -/
theorem serve_fitness {ι : Type} (s : Service) (operations : ι → Operation) :
    (fitness (Actor ι)).Serve s operations :=
  Rules.serve_of_bystanders (fun _ => Effect.keepsFit_of_isBystander) fun _ => s.mutation_obeys

end Service

/-! ## Updates that are rejected -/

/-- The values of a configuration are at fault. -/
def ServiceError.IsConfiguration : ServiceError → Prop
  | .configuration _ => True
  | .secretsUnavailable _ | .crypto _ | .persistence _ | .channelsDisabled | .invalidSilence _ =>
    False

namespace Service

variable {s : Service} {α : Type}

/-- The operation was rejected for the values of a configuration. -/
def IsRejected : Except ServiceError α → Prop
  | .ok _ => False
  | .error e => e.IsConfiguration

/-- What a program ends like, whatever it does. -/
abbrev Ends (post : α → Prop) (p : Program α) : Prop :=
  p.Meets (fun _ => True) (fun _ _ => True) post

theorem sealSecret_ends (plain : String) : Ends (¬ IsRejected ·) (s.sealSecret plain) := by
  unfold sealSecret
  cases s.keyFault with
  | some reason => exact id
  | none =>
    refine ⟨trivial, fun r _ => ?_⟩
    cases r with
    | error reason => exact id
    | ok nonce =>
      show ¬ IsRejected ((s.cipher.encrypt nonce plain).mapError .crypto)
      cases s.cipher.encrypt nonce plain with
      | error reason => exact id
      | ok token => exact id

theorem changeSecret_ends (given : Option String) (clear : Bool) (token plain : String) :
    Ends (¬ IsRejected ·) (s.changeSecret given clear token plain) := by
  unfold changeSecret
  cases given.bind Text.nonBlank? with
  | none => exact id
  | some secret =>
    refine (sealSecret_ends secret).bind fun r hr => ?_
    cases r with
    | error e => exact hr
    | ok sealedSecret => exact id

/-- Working out the new state ends in a rejection exactly if the thresholds would not
be in order. -/
theorem target_ends (u : Config.Update) (live : Live) :
    Ends (fun r => IsRejected r ↔ ¬ (u.apply live.config).IsOrdered) (s.target u live) := by
  rw [← Config.violation?_eq_none_iff_isOrdered]
  unfold target
  cases hviolation : (u.apply live.config).violation? with
  | some v =>
    simp only [hviolation]
    exact iff_of_true trivial (Option.some_ne_none v)
  | none =>
    simp only [hviolation]
    refine (changeSecret_ends _ _ _ _).bind fun r hr => ?_
    cases r with
    | error e => exact iff_of_false hr (not_not_intro trivial)
    | ok tokens =>
      refine (changeSecret_ends _ _ _ _).bind fun r hr => ?_
      cases r with
      | error e => exact iff_of_false hr (not_not_intro trivial)
      | ok passwords => exact iff_of_false id (not_not_intro trivial)

theorem persist_ends (before config : Config) (record : SealedCredentials) :
    Ends (¬ IsRejected ·) (persist before config record) := by
  rw [persist_eq]
  refine ⟨trivial, fun r _ => ?_⟩
  cases r with
  | error e => exact id
  | ok _ =>
    refine ⟨trivial, fun r _ => ?_⟩
    cases r with
    | error e => exact ⟨trivial, fun _ _ => id⟩
    | ok _ => exact id

/-- An update looks first, and then it ends in a rejection exactly if the thresholds
would not be in order. -/
theorem exists_updateLocked (s : Service) (u : Config.Update) :
    ∃ next : Live → Program (Except ServiceError View), s.updateLocked u = .step .look next ∧
      ∀ live, Ends (fun r => IsRejected r ↔ ¬ (u.apply live.config).IsOrdered) (next live) := by
  refine ⟨_, updateLocked_eq, fun live => ?_⟩
  refine (target_ends u live).bind fun r hr => ?_
  cases r with
  | error e => exact hr
  | ok t =>
    -- storing what is in order is not rejected, whatever else becomes of it
    refine (persist_ends live.config t.1 t.2.2).bind fun r hr' => ?_
    have hordered : ¬ ¬ (u.apply live.config).IsOrdered := fun h => hr.mpr h
    cases r with
    | error e => exact iff_of_false hr' hordered
    | ok _ => exact ⟨trivial, fun _ _ => iff_of_false id hordered⟩

end Service

namespace Watch

variable {ι : Type} {s : Service} {operations : ι → Operation} {t : Watch ι} {l : Live}
  {taken : List Snapshot} {i : ι} {u : Config.Update}

/-- Whoever has the result of an update has looked at some moment, and the update
was rejected exactly if it led from there to thresholds that are not in order. -/
theorem IsSound.exists_look [DecidableEq ι] (h : t.IsSound s operations l taken)
    (hi : operations i = .update u) {r : Except ServiceError View}
    (hr : t.HasReturned (.caller i) (some (.update r))) :
    ∃ before after live, t.past = before ++ ⟨.caller i, .look, live⟩ :: after ∧
      live = l.replay before ∧ (Service.IsRejected r ↔ ¬ (u.apply live.config).IsOrdered) := by
  obtain ⟨next, hlocked, hends⟩ := s.exists_updateLocked u
  have hprogram : calling s (operations i) = .step .acquire fun _ => .step .look fun live =>
      (next live).bind fun r => .step .release fun _ => .pure (some (.update r)) := by
    rw [hi, calling, Operation.program, Service.update, hlocked, Service.locked_eq]
    refine congrArg (Program.step .acquire) (funext fun _ => ?_)
    refine congrArg (Program.step .look) (funext fun live => ?_)
    rw [Program.bind_assoc', Program.bind_assoc']
    rfl
  have hcall := h.calls i
  rw [hprogram, Session.Follows, hr] at hcall
  -- its first two effects have happened, since it has returned
  rcases hcall.step_cases with ⟨-, hnone⟩ | ⟨_, _, hs, hdeeds, hlooks⟩
  · cases hnone
  rcases hlooks.step_cases with ⟨-, hnone⟩ | ⟨j, live, hs', rfl, hrest⟩
  · cases hnone
  have hresult : Service.IsRejected r ↔ ¬ (u.apply live.config).IsOrdered := by
    have hmeets : ((next live).bind fun r => Program.step .release fun _ =>
        Program.pure (some (Outcome.update r))).Meets (fun _ => True) (fun _ _ => True)
          fun o => ∀ r, o = some (.update r) →
            (Service.IsRejected r ↔ ¬ (u.apply live.config).IsOrdered) := by
      refine (hends live).bind fun r hr => ⟨trivial, fun _ _ => ?_⟩
      rintro r' ⟨⟩
      exact hr
    exact (hrest.uses hmeets).2 r rfl
  -- the look is one of the caller's deeds, and so it stands in the past
  have hmem : ⟨j, .look, live⟩ ∈ t.deeds (.caller i) := by
    rw [hdeeds]
    exact List.mem_cons_of_mem _ List.mem_cons_self
  obtain ⟨hpast, hcaller⟩ := List.mem_filter.mp hmem
  obtain rfl : j = .caller i := of_decide_eq_true hcaller
  obtain ⟨before, after, hsplit⟩ := List.append_of_mem hpast
  exact ⟨before, after, live, hsplit, (hsplit ▸ h.isReplay.explains).look_eq, hresult⟩

/-- A service that has loaded a usable configuration, with a pause between attempts
and lists without blanks. Whatever callers do beside the loop, and whichever calls of
the store fail, at any time the configuration in force is fit, and so is the one that
the store gives back: thresholds that are numbers and rise from zero to a hundred
percent, windows of a second at least, a cooldown that is not negative, a pause
between attempts, and no entry of a list that is blank or not trimmed. An update is
rejected for its values only if it leads from what was in force when it looked to
thresholds, windows or a cooldown that are not like this, and then always. -/
theorem always_fit [DecidableEq ι] {o : Service.Options} {w w' : World}
    (hstart : w.start o = (.ok s, w')) (husable : w'.live.config.violation? = none)
    (hdelays : w'.live.config.retryDelays ≠ [])
    (hrecipients : ∀ x ∈ w'.live.config.recipients, Text.IsTidy x)
    (hchatIds : ∀ x ∈ w'.live.config.chatIds, Text.IsTidy x)
    (operations : ι → Operation) (moves : List (Move ι))
    (hplay : (start s operations w').play s moves = some t) :
    t.world.live.config.IsFit ∧ t.world.store.Gives Config.IsFit ∧
      ∀ i u r, operations i = .update u → t.HasReturned (.caller i) (some (.update r)) →
        ∃ before after live, t.past = before ++ ⟨.caller i, .look, live⟩ :: after ∧
          live = w'.live.replay before ∧
          (Service.IsRejected r ↔ ¬ (u.apply live.config).IsOrdered) := by
  have hloaded := Config.isFit_iff.mpr ⟨husable, hdelays, hrecipients, hchatIds⟩
  obtain ⟨hread, hstore⟩ := World.start_loaded hstart
  have hgives : w'.store.Gives Config.IsFit := hstore ▸ Backend.gives_of_read hread hloaded
  have hserve := s.serve_fitness operations
  have hgoverns := (hserve.start (w := w') ⟨hloaded, hgives⟩).play (hold_fitness _) hserve hplay
  obtain ⟨hlive, hkept⟩ := hgoverns.fine
  refine ⟨hlive, hkept, ?_⟩
  intro i u r hi hr
  exact ((isSound_start s operations w').play hplay).exists_look hi hr

/-- A store that refuses the first record of credentials that is written. -/
def hesitantDisk : World where
  store := .memory {}
  wall := .epoch
  outage n m := if n < 5 ∧ m = .writeCredentials then some (.io "disk full") else none
  nonces _ := .error "no randomness"

/-- New thresholds that only fit together, with lists that need cleaning. -/
def steeper : Config.Update :=
  { warningPercent := some 90, criticalPercent := some 95, recoveryPercent := some 85,
    recipients := some [" ops@example.com ", " "], retryDelays := some [-1] }

/-- One caller gives a threshold that is no number, and two give the same thresholds;
the first of them meets the refusal. -/
def threeUpdates : Fin 3 → Operation :=
  ![.update { warningPercent := some (0 / 0) }, .update steeper, .update steeper]

/-- The callers, one after the other. -/
def inTurn : List (Move (Fin 3)) :=
  [0, 0, 0, 1, 1, 1, 1, 1, 1, 2, 2, 2, 2, 2, 2].map fun i => .choose (.go (.caller i))

theorem always_fit_threeUpdates : ∃ t live,
    (start (.ofOptions {}) threeUpdates (hesitantDisk.start {}).2).play (.ofOptions {}) inTurn =
        some t ∧
      t.world.live.config.IsFit ∧ t.world.store.Gives Config.IsFit ∧
      t.world.live.config.recipients = ["ops@example.com"] ∧
      t.world.live.config.retryDelays = [1, 5, 15] ∧
      ⟨.caller 0, .look, live⟩ ∈ t.past ∧
      ¬ (({ warningPercent := some (0 / 0) } : Config.Update).apply live.config).IsOrdered := by
  obtain ⟨t, hplay, hrecipients, hdelays, hrejected⟩ : ∃ t,
      (start (.ofOptions {}) threeUpdates (hesitantDisk.start {}).2).play (.ofOptions {}) inTurn =
        some t ∧ t.world.live.config.recipients = ["ops@example.com"] ∧
      t.world.live.config.retryDelays = [1, 5, 15] ∧
      t.HasReturned (.caller 0) (some (.update (.error (.configuration
        Config.Violation.warningRange.message)))) :=
    ⟨_, rfl, rfl, rfl, rfl⟩
  obtain ⟨hfit, hgives, hlooks⟩ := always_fit (o := {}) (w := hesitantDisk) rfl rfl (by decide)
    (List.forall_mem_nil _) (List.forall_mem_nil _) threeUpdates inTurn hplay
  obtain ⟨before, after, live, hpast, -, hiff⟩ := hlooks 0 _ _ rfl hrejected
  refine ⟨t, live, hplay, hfit, hgives, hrecipients, hdelays, ?_, hiff.mp trivial⟩
  rw [hpast]
  exact List.mem_append_right _ List.mem_cons_self

end Watch

end CpuAlert
