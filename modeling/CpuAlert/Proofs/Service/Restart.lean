import CpuAlert.Proofs.Secret.Cipher
import CpuAlert.Proofs.Service.Operations
import CpuAlert.Proofs.Store.Exact

/-!
# Starting a service again

A service that is started again on the same store, with the same key, has the
same in force as before. What it had put into force step by step, it now loads:
the configuration, the record and the end of the silence as the store keeps them,
and the credentials as the record reveals them. The invariant says that this
is no difference: whenever no call is under way, the store keeps what is in
force, and the credentials in force are those that the record reveals.

A database file gives back what it keeps up to the sign of zero and the part of
a millisecond, and so the service has the same in force up to these.

Secrets may be of any length: one that is too long to be sealed is refused, and
then nothing changes.

## Main definitions

* `Service.Call`, `World.afterCalls` — calls of a service, one after the other
* `World.IsReloadable` — starting again would make no difference
* `Backend.restored` — what is in force, after the store

## Main results

* `World.start_eq` — what a service loads from a store
* `World.IsReloadable.afterCall` — every call keeps the invariant
* `Service.restart_inForce` — a service that is started again
-/

namespace CpuAlert

open Store (Kept)
open Time (Instant)

/-! ## Stores and what reaches them -/

/-- The calls by which a service loads what a store keeps. -/
def Store.Call.IsLoad : Store.Call → Prop
  | .readConfig | .readCredentials | .mutedUntil => True
  | .writeConfig _ | .writeCredentials _ | .writeSilence _ | .append _ | .list _ | .deleteBefore _
  | .health | .close => False

/-- The store is a database file. -/
def Backend.IsFile : Backend → Prop
  | .memory _ => False
  | .database _ => True

theorem Backend.isFile_perform (b : Backend) (now : Instant) (c : Store.Call) :
    (b.perform now c).2.IsFile ↔ b.IsFile := by
  cases b <;> exact Iff.rfl

/-- Loading leaves a store as it is. -/
theorem Backend.perform_snd_of_isLoad {b : Backend} {c : Store.Call} (h : c.IsLoad)
    (now : Instant) : (b.perform now c).2 = b := by
  cases b with
  | memory m => cases c <;> first | rfl | exact h.elim
  | database d =>
    simp only [perform, Database.perform]
    by_cases hopen : d.isOpen = true
    · rw [if_pos hopen]
      cases c <;> first | rfl | exact h.elim
    · rw [if_neg hopen]
      cases c <;> rfl

namespace World

/-- What a service keeps beside the history reaches the store, in both
directions. -/
def ReachesStore (w : World) : Prop :=
  ∀ n (c : Store.Call), c.IsWrite ∨ c.IsLoad → w.outage n c.method = none

theorem ReachesStore.acceptsWrites {w : World} (h : w.ReachesStore) : w.AcceptsWrites :=
  fun n c hc => h n c (.inl hc)

/-- What a service loads is not refused on the way. -/
def AcceptsLoads (w : World) : Prop :=
  ∀ n (c : Store.Call), c.IsLoad → w.outage n c.method = none

theorem ReachesStore.acceptsLoads {w : World} (h : w.ReachesStore) : w.AcceptsLoads :=
  fun n c hc => h n c (.inr hc)

/-- The store is of the same kind, and the same calls are refused on the way. -/
def KeepsStore (w w' : World) : Prop :=
  w'.outage = w.outage ∧ (w'.store.IsFile ↔ w.store.IsFile)

theorem KeepsStore.refl (w : World) : w.KeepsStore w := ⟨rfl, Iff.rfl⟩

theorem KeepsStore.trans {w w' w'' : World} (h : w.KeepsStore w') (h' : w'.KeepsStore w'') :
    w.KeepsStore w'' :=
  ⟨h'.1.trans h.1, h'.2.trans h.2⟩

theorem keepsStore_of_eq {w w' : World} (houtage : w'.outage = w.outage)
    (hstore : w'.store = w.store) : w.KeepsStore w' :=
  ⟨houtage, hstore ▸ Iff.rfl⟩

theorem keepsStore_ask (w : World) (c : Store.Call) : w.KeepsStore (w.ask c).2 := by
  simp only [ask]
  split
  · exact .refl w
  · exact ⟨rfl, Backend.isFile_perform ..⟩

theorem keepsStore_finishSend (a : Attempt) (w : World) : w.KeepsStore (finishSend a w).2 := by
  simp only [finishSend]
  split
  · exact keepsStore_of_eq rfl rfl
  · exact .refl w

/-- No effect exchanges the store for another one. -/
theorem keepsStore_perform (w : World) (e : Effect) : w.KeepsStore (w.perform e).2 := by
  refine BeginsBy.perform (R := KeepsStore) .trans (fun v _ _ => keepsStore_of_eq rfl rfl)
    (fun v => keepsStore_of_eq rfl rfl) ?_
  cases e with
  | ask c => exact ⟨w.keepsStore_ask c, trivial⟩
  | claimCleanup interval =>
    simp only [begin]
    split <;> exact ⟨keepsStore_of_eq rfl rfl, trivial⟩
  | send place channel notice =>
    simp only [begin]
    split
    · exact ⟨.refl w, trivial⟩
    · split
      · exact ⟨.trans (keepsStore_of_eq rfl rfl) (keepsStore_finishSend _ _), trivial⟩
      · exact ⟨keepsStore_of_eq rfl rfl, keepsStore_finishSend _⟩
  | pause milliseconds =>
    simp only [begin]
    split
    · exact ⟨.refl w, trivial⟩
    · split
      · exact ⟨.refl w, trivial⟩
      · exact ⟨keepsStore_of_eq rfl rfl, .refl⟩
  | _ => exact ⟨keepsStore_of_eq rfl rfl, trivial⟩

end World

theorem Program.keepsStore_run {α : Type} (p : Program α) (w : World) :
    w.KeepsStore (p.run w).2 := by
  induction p generalizing w with
  | pure a => exact .refl w
  | step e next ih => exact (w.keepsStore_perform e).trans (ih _ _)

/-! ## What can be loaded again -/

/-- What is in force is what a service would load: the credentials are those that
the record reveals, a file can give back the configuration, and the silence does
not end inside a leap second. -/
structure InForce.IsLoadable (s : Service) (isFile : Prop) (f : InForce) : Prop where
  revealed : f.credentials = s.reveal f.record
  storable : isFile → f.config.IsStorable
  deadline : ∀ t ∈ f.deadline, t.nano < Time.nanosPerSecond

namespace Service

variable {s : Service} {u : Config.Update} {live : Live} {isFile : Prop}

/-- A secret is revealed by its token after an update if it was before. -/
theorem SecretChange.revealed {given : Option String} {clear : Bool}
    {before after : String × String} (h : s.SecretChange given clear before after)
    (hbefore : before.2 = s.cipher.reveal before.1) : after.2 = s.cipher.reveal after.1 := by
  have hcleared {token plain : String} (hplain : plain = s.cipher.reveal token)
      (hafter : after = if clear then ("", "") else (token, plain)) :
      after.2 = s.cipher.reveal after.1 := by
    cases clear with
    | true => rw [hafter]; rfl
    | false => rw [hafter]; exact hplain
  rw [SecretChange] at h
  cases hgiven : given.bind Text.nonBlank? with
  | none =>
    rw [hgiven] at h
    exact hcleared hbefore h
  | some plain =>
    rw [hgiven] at h
    obtain ⟨token, ⟨-, nonce, hseal⟩, hafter⟩ := h
    exact hcleared (Cipher.reveal_encrypt hseal).symm hafter

/-- The credentials that an update leads to are those that its record reveals. -/
theorem IsTarget.revealed {config : Config} {credentials : Credentials}
    {record : SealedCredentials} (h : s.IsTarget u live config credentials record)
    (hlive : live.credentials = s.reveal live.record) : credentials = s.reveal record := by
  obtain ⟨htoken, haddress, hpassword⟩ := Credentials.mk.inj hlive
  have haddress' : credentials.gmailAddress = Text.trim record.gmailAddress := by
    rw [h.address, h.storedAddress]
    cases hgiven : u.gmailAddress.bind Text.nonBlank? with
    | none => exact haddress
    | some address =>
      obtain ⟨given, -, hblank⟩ := Option.bind_eq_some_iff.mp hgiven
      exact (Text.trim_of_nonBlank?_eq_some hblank).symm
  rw [reveal, ← haddress', ← h.token.revealed htoken, ← h.password.revealed hpassword]

/-- An update leaves what can be loaded again. -/
theorem update_isLoadable {w : World} (hkept : w.store.Keeps w.live.inForce.kept)
    (h : w.live.inForce.IsLoadable s isFile)
    (hdelays : ∀ ds, u.retryDelays = some ds → ∀ d ∈ ds, d ≤ 0xFFFFFFFFFFFFFFFF) :
    ((s.update u).run w).2.live.inForce.IsLoadable s isFile := by
  obtain ⟨k, -, hended⟩ := update_ended (s := s) (u := u) hkept
  generalize ((s.update u).run w).2.live = live at hended ⊢
  generalize ((s.update u).run w).1 = result at hended
  generalize (s.update u).asked w = asked at hended
  cases hended with
  | refused | undone | torn => exact h
  | done config credentials record asked htarget =>
    exact ⟨htarget.revealed h.revealed, fun hfile => htarget.isStorable (h.storable hfile) hdelays,
      h.deadline⟩

/-- Setting the end of a silence puts it into force or changes nothing. -/
theorem setDeadline_live (w : World) (deadline : Option Instant) :
    ((setDeadline deadline).run w).2.live = w.live ∨
      ((setDeadline deadline).run w).2.live = w.live.mute deadline := by
  rw [setDeadline_eq, Program.run_step, World.perform_ask]
  have hlive := w.ask_live (.writeSilence deadline)
  generalize w.ask (.writeSilence deadline) = x at hlive ⊢
  obtain ⟨answer, w'⟩ := x
  replace hlive : w'.live = w.live := hlive
  cases answer with
  | error e => exact .inl hlive
  | ok _ => exact .inr (congrArg (Live.mute · deadline) hlive)

theorem setDeadline_isLoadable {w : World} (h : w.live.inForce.IsLoadable s isFile)
    {deadline : Option Instant} (hdeadline : ∀ t ∈ deadline, t.nano < Time.nanosPerSecond) :
    ((setDeadline deadline).run w).2.live.inForce.IsLoadable s isFile := by
  rcases setDeadline_live w deadline with hlive | hlive
  · rw [hlive]
    exact h
  · rw [hlive]
    exact ⟨h.revealed, h.storable, hdeadline⟩

/-- A silence does not end inside a leap second, even if it begins in one. -/
theorem nano_silenceEnd (now : Instant) {minutes : Int} (h : 1 ≤ minutes) :
    (silenceEnd now minutes).nano < Time.nanosPerSecond := by
  rw [silenceEnd]
  cases hend : now.shift? (minutes * 60) with
  | none => exact (by decide : Instant.ending.nano < Time.nanosPerSecond)
  | some deadline => exact Instant.nano_shift? (by omega) hend

theorem silence_isLoadable {w : World} (h : w.live.inForce.IsLoadable s isFile) (minutes : Int) :
    ((silence minutes).run w).2.live.inForce.IsLoadable s isFile := by
  rw [silence]
  split
  · rename_i hminutes
    rw [run_locked, silenceLocked_eq, Program.run_step, Program.run_bind]
    refine setDeadline_isLoadable (w := { w with locked := true }) h fun t ht => ?_
    obtain rfl := Option.some.inj ht
    exact nano_silenceEnd w.wall hminutes.1
  · exact h

end Service

/-! ## Calls -/

/-- A bystander's effect leaves everything standing when it has ended. -/
theorem World.spares_perform (w : World) {e : Effect} (he : e.IsBystander) :
    w.Spares (w.perform e).2 :=
  BeginsBy.perform (R := Spares) .trans (fun _ _ _ => spares_of_eq rfl rfl rfl rfl rfl rfl)
    spares_fire (w.isSparedBy_begin he)

namespace Operation

variable {s : Service} {op : Operation} {w : World} {c : Standing}

/-- On its own, an operation that is no mutation leaves everything standing. -/
theorem run_stands_of_not_isMutation (hop : ¬ op.IsMutation) (hw : w.Stands c) :
    ((op.program s).run w).2.Stands c :=
  ((program_uses s hop).run (·.Stands c)
    (fun w _ hw he => ⟨trivial, (w.spares_perform he).1 c hw⟩) hw).2

/-- On its own, an operation leads from agreement with the store to agreement. -/
theorem run_stands (s : Service) (op : Operation) (hw : w.Stands c) (hc : c.Agrees) :
    ∃ c', ((op.program s).run w).2.Stands c' ∧ c'.Agrees := by
  by_cases hop : op.IsMutation
  · rcases mutation_cases s hop with ⟨body, hbody, hlands⟩ | ⟨r, hr⟩
    · obtain ⟨r, c', hleads, hagrees⟩ := hlands w.wall c hc
      have hlocked : ({ w with locked := true } : World).Stands c :=
        hw.of_eq rfl rfl rfl rfl rfl
      have hrun := hleads.run hlocked fun t ht => Option.some.inj ht
      rw [hbody, Program.run_step]
      exact ⟨c', hrun.2.1, hagrees⟩
    · rw [hr]
      exact ⟨c, hw, hc⟩
  · exact ⟨c, run_stands_of_not_isMutation hop hw, hc⟩

end Operation

namespace Service

/-- A call of a service: what is asked, how the clocks stand when it begins, and
whether deliveries are cancelled, now or later. -/
structure Call where
  operation : Operation
  wall : Instant
  uptime : Nat := 0
  isCancelled : Bool := false
  planned : Option Cancellation := none

/-- Delays that are given have sixty-four bits. -/
def Call.DelaysFit (c : Call) : Prop :=
  ∀ u ds, c.operation = .update u → u.retryDelays = some ds → ∀ d ∈ ds, d ≤ 0xFFFFFFFFFFFFFFFF

end Service

namespace World

/-- The world in which a call begins. -/
def atCall (w : World) (c : Service.Call) : World :=
  { w with wall := c.wall, uptime := c.uptime, isCancelled := c.isCancelled, planned := c.planned }

/-- The world after a call. -/
def afterCall (s : Service) (w : World) (c : Service.Call) : World :=
  ((c.operation.program s).run (w.atCall c)).2

/-- The world after several calls, one after the other. -/
def afterCalls (s : Service) (w : World) (cs : List Service.Call) : World :=
  cs.foldl (afterCall s) w

/-- Starting the service again would make no difference: the store keeps what is
in force, and that is what a service would load. -/
structure IsReloadable (s : Service) (w : World) : Prop where
  kept : w.store.Keeps w.live.inForce.kept
  loadable : w.live.inForce.IsLoadable s w.store.IsFile
  reaches : w.ReachesStore

variable {s : Service} {w : World}

/-- Every call keeps the invariant. -/
theorem IsReloadable.afterCall (h : w.IsReloadable s) {c : Service.Call} (hc : c.DelaysFit) :
    (w.afterCall s c).IsReloadable s := by
  obtain ⟨hoperation, hfile⟩ := (c.operation.program s).keepsStore_run (w.atCall c)
  have hstands := stands_standing (w := w.atCall c) h.kept h.reaches.acceptsWrites
  obtain ⟨c', hafter, hagrees⟩ := c.operation.run_stands s hstands rfl
  refine ⟨?_, ?_, fun n call hcall => ?_⟩
  · rw [World.afterCall, hafter.inForce, ← hagrees]
    exact hafter.kept
  · have hloadable : (w.atCall c).live.inForce.IsLoadable s (w.afterCall s c).store.IsFile :=
      propext hfile ▸ h.loadable
    show ((c.operation.program s).run (w.atCall c)).2.live.inForce.IsLoadable s _
    by_cases hop : c.operation.IsMutation
    · cases hcase : c.operation with
      | update u =>
        rw [Operation.program, Program.run_bind]
        exact Service.update_isLoadable h.kept hloadable (hc u · hcase)
      | silence minutes =>
        rw [Operation.program, Program.run_bind]
        exact Service.silence_isLoadable hloadable minutes
      | endSilence =>
        rw [Operation.program, Program.run_bind, Service.endSilence]
        show (((Service.locked (Service.setDeadline none)).run _).2).live.inForce.IsLoadable s _
        rw [Service.run_locked]
        exact Service.setDeadline_isLoadable (w := { w.atCall c with locked := true }) hloadable
          (by simp)
      | _ =>
        rw [hcase] at hop
        exact hop.elim
    · rw [(Operation.run_stands_of_not_isMutation hop hstands).inForce]
      exact hloadable
  · exact (congrFun (congrFun hoperation n) call.method).trans (h.reaches n call hcall)

theorem keepsStore_afterCalls (s : Service) (w : World) (cs : List Service.Call) :
    w.KeepsStore (w.afterCalls s cs) := by
  induction cs generalizing w with
  | nil => exact .refl w
  | cons c cs ih =>
    have hcall : w.KeepsStore (w.afterCall s c) :=
      .trans (keepsStore_of_eq rfl rfl) ((c.operation.program s).keepsStore_run (w.atCall c))
    exact hcall.trans (ih _)

theorem IsReloadable.afterCalls (h : w.IsReloadable s) {cs : List Service.Call}
    (hcs : ∀ c ∈ cs, c.DelaysFit) : (w.afterCalls s cs).IsReloadable s := by
  induction cs generalizing w with
  | nil => exact h
  | cons c cs ih =>
    obtain ⟨hfirst, hrest⟩ := List.forall_mem_cons.mp hcs
    exact ih (h.afterCall hfirst) hrest

end World

/-! ## Starting -/

/-- What is in force once the store has kept it and given it back. -/
def Backend.restored (f : InForce) : Backend → InForce
  | .memory _ => f
  | .database _ =>
    { f with
      config := { f.config with
        warningPercent := unsigned f.config.warningPercent
        criticalPercent := unsigned f.config.criticalPercent
        recoveryPercent := unsigned f.config.recoveryPercent }
      deadline := f.deadline.map Instant.truncated }

@[simp] theorem Backend.credentials_restored (b : Backend) (f : InForce) :
    (b.restored f).credentials = f.credentials := by
  cases b <;> rfl

@[simp] theorem Backend.record_restored (b : Backend) (f : InForce) :
    (b.restored f).record = f.record := by
  cases b <;> rfl

/-- Only the kind of the store matters. -/
theorem Backend.restored_congr {b b' : Backend} (h : b'.IsFile ↔ b.IsFile) (f : InForce) :
    b'.restored f = b.restored f := by
  cases b <;> cases b' <;> first | rfl | exact (h.mp trivial).elim | exact (h.mpr trivial).elim

theorem Backend.readBack_kept {s : Service} (b : Backend) {f : InForce}
    (h : f.IsLoadable s b.IsFile) (now : Instant) :
    b.readBack now f.kept = (b.restored f).kept := by
  cases b with
  | memory m => rfl
  | database d => exact readBack_database d (h.storable trivial) h.deadline now

/-- The start of a service as a tree of effects. -/
theorem Service.start_eq (s : Service) :
    s.start =
      .step (.ask .readConfig) fun
        | .error e => .pure (.error (.persistence e))
        | .ok config => .step (.ask .readCredentials) fun
          | .error e => .pure (.error (.persistence e))
          | .ok record => .step (.ask .mutedUntil) fun
            | .error e => .pure (.error (.persistence e))
            | .ok mutedUntil => .step .clock fun now =>
              .pure (.ok (s.initial config record mutedUntil now)) := by
  refine congrArg (Program.step _) (funext fun a => ?_)
  cases a with
  | error e => rfl
  | ok config =>
    refine congrArg (Program.step _) (funext fun a => ?_)
    cases a with
    | error e => rfl
    | ok record =>
      refine congrArg (Program.step _) (funext fun a => ?_)
      cases a <;> rfl

namespace World

/-- Loading succeeds and changes nothing but the number of calls. -/
theorem ask_of_isLoad {w : World} (hloads : w.AcceptsLoads) {c : Store.Call} (hc : c.IsLoad)
    {r : c.Reply} (h : (w.store.perform w.wall c).1 = .ok r) :
    w.ask c = (.ok r, { w with asked := w.asked + 1 }) := by
  have hsnd := Backend.perform_snd_of_isLoad hc (b := w.store) w.wall
  simp only [ask, hloads w.asked c hc]
  rw [h, hsnd]

/-- A service is started with what it loads, if it can load all of it. -/
theorem start_of_loads (o : Service.Options) {w : World} (hloads : w.AcceptsLoads)
    {config : Config} {record : SealedCredentials} {deadline : Option Instant}
    (hconfig : (w.store.perform w.wall .readConfig).1 = .ok config)
    (hrecord : (w.store.perform w.wall .readCredentials).1 = .ok record)
    (hdeadline : (w.store.perform w.wall .mutedUntil).1 = .ok deadline) :
    ∃ w', w.start o = (.ok (.ofOptions o), w') ∧
      w'.live = (Service.ofOptions o).initial config record deadline w.wall ∧
      w'.store = w.store ∧ w'.outage = w.outage := by
  have hfirst := ask_of_isLoad (c := .readConfig) hloads trivial hconfig
  have hsecond := ask_of_isLoad (w := { w with asked := w.asked + 1 }) (c := .readCredentials)
    hloads trivial hrecord
  have hthird := ask_of_isLoad (w := { w with asked := w.asked + 1 + 1 }) (c := .mutedUntil)
    hloads trivial hdeadline
  have hrun : (Service.ofOptions o).start.run w =
      (.ok ((Service.ofOptions o).initial config record deadline w.wall),
        { w with asked := w.asked + 1 + 1 + 1 }) := by
    rw [Service.start_eq, Program.run_step, perform_ask, hfirst]
    simp only [Program.run_step, perform_ask]
    rw [hsecond]
    simp only [Program.run_step, perform_ask]
    rw [hthird]
    rfl
  refine ⟨(w.start o).2, Prod.ext ?_ rfl, ?_, ?_, ?_⟩ <;> simp only [start, hrun]

/-- A service is started with what its store gives back. -/
theorem start_eq (o : Service.Options) {w : World} {k : Kept} (hk : w.store.Keeps k)
    (hreaches : w.ReachesStore) :
    ∃ w', w.start o = (.ok (.ofOptions o), w') ∧
      w'.live = (Service.ofOptions o).initial (w.store.readBack w.wall k).config
        (w.store.readBack w.wall k).record (w.store.readBack w.wall k).deadline w.wall ∧
      w'.store = w.store ∧ w'.outage = w.outage :=
  start_of_loads o hreaches.acceptsLoads (hk.config w.wall) (hk.record w.wall)
    (hk.deadline w.wall)

end World

/-- A store that is new, or holds nothing but a configuration in memory. -/
inductive Backend.IsFresh : Backend → Prop
  | memory (config : Config) : IsFresh (.memory (.ofConfig config))
  | database (path : String) : IsFresh (.database { path })

namespace Service

/-- A service that has been started on a fresh store can be started again. -/
theorem isReloadable_start (o : Options) {w : World} (hfresh : w.store.IsFresh)
    (hreaches : w.ReachesStore) :
    ∃ w', w.start o = (.ok (.ofOptions o), w') ∧ w'.IsReloadable (.ofOptions o) ∧
      w'.store = w.store := by
  have hfrom {k : Kept} (hk : w.store.Keeps k) (hback : w.store.readBack w.wall k = k)
      (hdeadline : k.deadline = none) (hstorable : w.store.IsFile → k.config.IsStorable) :
      ∃ w', w.start o = (.ok (.ofOptions o), w') ∧ w'.IsReloadable (.ofOptions o) ∧
        w'.store = w.store := by
    obtain ⟨w', hstart, hlive, hstore, houtage⟩ := World.start_eq o hk hreaches
    rw [hback] at hlive
    refine ⟨w', hstart, ⟨?_, ?_, ?_⟩, hstore⟩
    · rw [hstore, hlive]
      exact hk
    · rw [hstore, hlive]
      exact ⟨rfl, hstorable, fun t ht => by
        have hnone : k.deadline = some t := ht
        rw [hdeadline] at hnone
        cases hnone⟩
    · intro n call hcall
      rw [houtage]
      exact hreaches n call hcall
  generalize hb : w.store = b at hfresh hfrom
  cases hfresh with
  | memory config =>
    exact hfrom (k := ⟨config, {}, none⟩) (Backend.keeps_memory_iff.mpr ⟨rfl, rfl, rfl⟩) rfl rfl
      False.elim
  | database path =>
    have hdefault := Config.isExact_default
    refine hfrom (Backend.keeps_fresh path) ?_ rfl fun _ => hdefault.toIsStorable
    simp only [Backend.readBack, Database.readBack_eq_self hdefault, Option.map_none]

/-- A service that is started again on the same store with the same key has the
same in force as before, as far as its store gives it back, and shows the same.
Between the two it may have been asked anything. -/
theorem restart_inForce {o o' : Options} (hkey : o'.key = o.key) {w : World}
    (hfresh : w.store.IsFresh) (hreaches : w.ReachesStore) {calls : List Call}
    (hcalls : ∀ c ∈ calls, c.DelaysFit) (wall : Instant) :
    ∃ s w₁, w.start o = (.ok s, w₁) ∧
      ∃ s' w₂, { w₁.afterCalls s calls with wall }.start o' = (.ok s', w₂) ∧
        w₂.live.inForce = w.store.restored (w₁.afterCalls s calls).live.inForce ∧
        s'.secretsWritable = s.secretsWritable ∧
        ∀ readOnly, w₂.live.inForce.view s' readOnly =
          (w.store.restored (w₁.afterCalls s calls).live.inForce).view s readOnly := by
  obtain ⟨w₁, hstart, hreloadable, hstore⟩ := isReloadable_start o hfresh hreaches
  have hafter := hreloadable.afterCalls hcalls
  have hfile : (w₁.afterCalls (ofOptions o) calls).store.IsFile ↔ w.store.IsFile :=
    (World.keepsStore_afterCalls _ w₁ calls).2.trans (hstore ▸ Iff.rfl)
  refine ⟨_, w₁, hstart, ?_⟩
  generalize w₁.afterCalls (ofOptions o) calls = v at hafter hfile
  obtain ⟨w₂, hrestart, hlive, -, -⟩ :=
    World.start_eq o' (w := { v with wall }) hafter.kept hafter.reaches
  have hback : v.store.readBack wall v.live.inForce.kept =
      (w.store.restored v.live.inForce).kept := by
    rw [v.store.readBack_kept hafter.loadable wall, Backend.restored_congr hfile]
  -- both services have the same cipher
  have hreveal (record : SealedCredentials) :
      (ofOptions o').reveal record = (ofOptions o).reveal record := by
    simp only [reveal, ofOptions, hkey]
  have hwritable : (ofOptions o').secretsWritable = (ofOptions o).secretsWritable := by
    simp only [secretsWritable, ofOptions, hkey]
  have hcredentials : (ofOptions o').reveal (w.store.restored v.live.inForce).record =
      (w.store.restored v.live.inForce).credentials := by
    rw [hreveal, Backend.record_restored, Backend.credentials_restored]
    exact hafter.loadable.revealed.symm
  have hinForce : w₂.live.inForce = w.store.restored v.live.inForce :=
    calc w₂.live.inForce
      _ = ⟨(w.store.restored v.live.inForce).config,
            (ofOptions o').reveal (w.store.restored v.live.inForce).record,
            (w.store.restored v.live.inForce).record,
            (w.store.restored v.live.inForce).deadline⟩ := by
        rw [hlive]
        show InForce.mk (v.store.readBack wall v.live.inForce.kept).config _ _ _ = _
        rw [hback]
        rfl
      _ = w.store.restored v.live.inForce := by rw [hcredentials]
  refine ⟨_, w₂, hrestart, hinForce, hwritable, fun readOnly => ?_⟩
  rw [hinForce, InForce.view, InForce.view, hwritable]

/-- A world with a new database file. -/
def emptyFile : World where
  store := .database { path := "alerts.db" }
  wall := .epoch
  nonces _ := .ok (Vector.replicate 12 0)

/-- Options with a key of zeros. -/
def keyed : Options where
  key := some "AAAAAAAAAAAAAAAAAAAAAAAAAAAAAAAAAAAAAAAAAAA="

/-- A token and an address are given with blanks around them, and then there is
silence for a minute, from within a millisecond of a leap second. -/
def shortDay : List Call :=
  [{ operation := .update
       { cooldown := some 30, telegramToken := some " 123:abc ",
         gmailAddress := some " me@example.org " },
     wall := .epoch },
   { operation := .silence 1
     wall := ⟨0, 1001999999, Time.Instant.epoch.first_le, Time.Instant.epoch.le_last, by decide⟩ }]

/-- What was given without its blanks is in force again, and the silence ends at a
whole millisecond. -/
theorem restart_inForce_shortDay :
    emptyFile.store.IsFresh ∧ emptyFile.ReachesStore ∧ (∀ c ∈ shortDay, c.DelaysFit) ∧
      ∃ s w₁, emptyFile.start keyed = (.ok s, w₁) ∧
        ∃ s' w₂, { w₁.afterCalls s shortDay with wall := .epoch }.start keyed = (.ok s', w₂) ∧
          w₂.live.config.cooldown = 30 ∧ w₂.live.credentials.telegramToken = "123:abc" ∧
          w₂.live.credentials.gmailAddress = "me@example.org" ∧
          w₂.live.status.mutedUntil = some ⟨60, 1000000, by decide, by decide, by decide⟩ := by
  have hkey : keyed.key = keyed.key := rfl
  have hfresh : emptyFile.store.IsFresh := .database "alerts.db"
  have hreaches : emptyFile.ReachesStore := fun _ _ _ => rfl
  have hcalls : ∀ c ∈ shortDay, c.DelaysFit := by
    refine List.forall_mem_cons.mpr ⟨?_, List.forall_mem_cons.mpr ⟨?_, by simp⟩⟩
    · rintro u ds ⟨⟩ ⟨⟩
    · rintro u ds ⟨⟩
  refine ⟨hfresh, hreaches, hcalls, ?_⟩
  obtain ⟨s, w₁, hstart, s', w₂, hrestart, hinForce, -⟩ :=
    restart_inForce hkey hfresh hreaches hcalls .epoch
  refine ⟨s, w₁, hstart, s', w₂, hrestart, ?_⟩
  have hbegun : emptyFile.start keyed = (.ok (ofOptions keyed), (emptyFile.start keyed).2) := rfl
  obtain ⟨hservice, rfl⟩ := Prod.mk.inj (hstart.symm.trans hbegun)
  obtain rfl := Except.ok.inj hservice
  refine ⟨(congrArg (·.config.cooldown) hinForce).trans ?_,
    (congrArg (·.credentials.telegramToken) hinForce).trans ?_,
    (congrArg (·.credentials.gmailAddress) hinForce).trans ?_,
    (congrArg (·.deadline) hinForce).trans ?_⟩ <;> decide +kernel

end Service

end CpuAlert
