import CpuAlert.Proofs.Service.Replay
import CpuAlert.Proofs.Service.Restart

/-!
# Secrets survive services without their key

A service that cannot decrypt a secret runs with a blank one, but it still holds
the token, as it was loaded. An update that neither gives nor removes the secret
takes the token from there and never from the blank, and nothing else writes
tokens at all. So the store goes on giving back the same token, whichever keys
the services had that ran on it, and the next one that has the right key has the
secret again.

Everything that a service loads has to be loadable; its writes may then fail in
any pattern. A file may even have lost the row of its credentials: it gives back
blank tokens, and goes on doing so.

## Main definitions

* `Slot` — the two secrets
* `Backend.Holds`, `Live.Holds`, `World.Holds` — where the token of a secret is
* `Effect.Preserves` — the effects that leave a secret alone
* `Service.Lifetime`, `World.afterLifetimes` — services that run one after the other

## Main results

* `Backend.Holds.perform`, `World.Holds.perform` — what such an effect leaves
* `Operation.program_preserves` — operations that say nothing of a secret leave
  it alone
* `Service.secret_survives` — the secret after any number of services
-/

namespace CpuAlert

open Time (Instant)

/-! ## The two secrets -/

/-- The secrets that a service keeps. -/
inductive Slot
  | telegramToken
  | gmailPassword

/-- The token of a secret. -/
def SealedCredentials.token (r : SealedCredentials) : Slot → String
  | .telegramToken => r.telegramToken
  | .gmailPassword => r.gmailPassword

/-- The secret itself. -/
def Credentials.secret (c : Credentials) : Slot → String
  | .telegramToken => c.telegramToken
  | .gmailPassword => c.gmailPassword

/-- The secret is shown as present. -/
def View.has (v : View) : Slot → Bool
  | .telegramToken => v.hasTelegramToken
  | .gmailPassword => v.hasGmailPassword

namespace Config.Update

variable (u : Config.Update)

/-- The value that is given for a secret. -/
def given : Slot → Option String
  | .telegramToken => u.telegramToken
  | .gmailPassword => u.gmailPassword

/-- The secret is to be removed. -/
def clears : Slot → Bool
  | .telegramToken => u.clearTelegramToken
  | .gmailPassword => u.clearGmailPassword

/-- Nothing but blanks is given for the secret, and it is not to be removed. -/
structure LeavesAlone (k : Slot) : Prop where
  blank : ∀ text ∈ u.given k, Text.trim text = ""
  keeps : u.clears k = false

end Config.Update

/-- The operation says nothing of the secret. -/
def Operation.LeavesAlone (k : Slot) : Operation → Prop
  | .update u => u.LeavesAlone k
  | .silence _ | .endSilence | .observe _ | .view _ | .status _ | .sendTest | .history _ _
  | .cleanup | .isEnabled | .health => True

variable {k : Slot} {token secret : String}

/-- What is shown as present is read off the token. -/
theorem View.has_of (config : Config) (credentials : Credentials) (record : SealedCredentials)
    (secretsWritable readOnly : Bool) :
    (View.of config credentials record secretsWritable readOnly).has k =
      (Text.trim (record.token k) != "") := by
  cases k <;> simp only [View.has, View.of, SealedCredentials.token]

/-- What a caller is shown. -/
theorem Service.run_view (s : Service) (readOnly : Bool) (w : World) :
    (s.view readOnly).run w =
      (.of w.live.config w.live.credentials w.live.record s.secretsWritable readOnly, w) :=
  rfl

/-- A secret is revealed by its own token. -/
theorem Service.secret_reveal (s : Service) (record : SealedCredentials) :
    (s.reveal record).secret k = s.cipher.reveal (record.token k) := by
  cases k <;> simp only [Credentials.secret, reveal, SealedCredentials.token]

/-- Of its options only the key matters for the cipher of a service. -/
theorem Service.cipher_ofOptions (o : Options) :
    (ofOptions o).cipher = (ofOptions { key := o.key }).cipher := by
  simp only [ofOptions]

/-! ## The store -/

namespace Backend

/-- Everything can be loaded, at any time, and the record has this token. -/
structure Holds (b : Backend) (k : Slot) (token : String) : Prop where
  config (now : Instant) : ∃ config, (b.perform now .readConfig).1 = .ok config
  record (now : Instant) :
    ∃ record, (b.perform now .readCredentials).1 = .ok record ∧ record.token k = token
  deadline (now : Instant) : ∃ deadline, (b.perform now .mutedUntil).1 = .ok deadline

/-- What a service loads can be loaded, at any time. -/
def IsReadable (b : Backend) : Prop :=
  ∀ now (c : Store.Call), c.IsLoad → ∃ reply, (b.perform now c).1 = .ok reply

theorem holds_memory_iff {m : Memory} :
    (memory m).Holds k token ↔ m.credentials.token k = token := by
  constructor
  · intro h
    obtain ⟨record, hrecord, htoken⟩ := h.record .epoch
    exact Except.ok.inj hrecord ▸ htoken
  · intro h
    exact ⟨fun _ => ⟨_, rfl⟩, fun _ => ⟨_, rfl, h⟩, fun _ => ⟨_, rfl⟩⟩

/-- A file that answers is open. -/
theorem isOpen_of_perform_eq_ok {d : Database} {now : Instant} {config : Config}
    (h : ((database d).perform now .readConfig).1 = .ok config) : d.isOpen := by
  by_cases hopen : d.isOpen
  · exact hopen
  · simp [perform, Database.perform, hopen] at h

/-- A file has to be open, and its cells have to be of the kind of their columns.
Without a row of credentials the tokens are blank. -/
theorem holds_database_iff {d : Database} :
    (database d).Holds k token ↔
      d.isOpen ∧ (∃ config, d.readConfig = .ok config) ∧
        (d.credentials.getD {}).token k = token ∧
        ∀ now, ∃ deadline, d.mutedUntil now = .ok deadline := by
  constructor
  · rintro ⟨hconfig, hrecord, hdeadline⟩
    obtain ⟨config, hread⟩ := hconfig .epoch
    have hopen := isOpen_of_perform_eq_ok hread
    simp only [perform, Database.perform, hopen, if_true, Database.performOpen] at hread hdeadline
    obtain ⟨record, hrecord, htoken⟩ := hrecord .epoch
    simp only [perform, Database.perform, hopen, if_true, Database.performOpen] at hrecord
    exact ⟨hopen, ⟨config, hread⟩, Except.ok.inj hrecord ▸ htoken, hdeadline⟩
  · rintro ⟨hopen, hconfig, htoken, hdeadline⟩
    constructor
    all_goals
      intro now
      simp only [perform, Database.perform, hopen, if_true, Database.performOpen]
    · exact hconfig
    · exact ⟨_, rfl, htoken⟩
    · exact hdeadline now

/-- A store that can be loaded from has a token for every secret. -/
theorem IsReadable.holds {b : Backend} (h : b.IsReadable) (k : Slot) :
    ∃ token, b.Holds k token := by
  cases b with
  | memory m => exact ⟨_, holds_memory_iff.mpr rfl⟩
  | database d =>
    obtain ⟨config, hread⟩ := h .epoch .readConfig trivial
    have hopen := isOpen_of_perform_eq_ok hread
    have hdeadline (now) := h now .mutedUntil trivial
    simp only [perform, Database.perform, hopen, if_true, Database.performOpen] at hread hdeadline
    exact ⟨_, holds_database_iff.mpr ⟨hopen, ⟨config, hread⟩, rfl, hdeadline⟩⟩

end Backend

/-- What is held depends on three rows of an open file. -/
theorem Database.holds_of_rows {d d' : Database} (h : (Backend.database d).Holds k token)
    (hopen : d'.isOpen = d.isOpen) (hsettings : d'.settings = d.settings)
    (hcredentials : d'.credentials = d.credentials) (hsilence : d'.silence = d.silence) :
    (Backend.database d').Holds k token := by
  rw [Backend.holds_database_iff] at h ⊢
  simpa only [readConfig, mutedUntil, hopen, hsettings, hcredentials, hsilence] using h

namespace Database

variable {d : Database}

/-- A configuration that can be written can be read. -/
theorem writeConfig_holds (h : (Backend.database d).Holds k token) (c : Config) :
    (Backend.database (d.writeConfig c).2).Holds k token := by
  obtain ⟨hopen, -, htoken, hdeadline⟩ := Backend.holds_database_iff.mp h
  simp only [writeConfig]
  split
  · exact h
  · split
    · exact h
    · rename_i hnone
      obtain ⟨hwarning, hcritical, hrecovery⟩ : c.warningPercent.isNaN = false ∧
          c.criticalPercent.isNaN = false ∧ c.recoveryPercent.isNaN = false := by
        simpa [emptyColumn?_eq_none_iff] using hnone
      exact Backend.holds_database_iff.mpr
        ⟨hopen, ⟨_, config_ofConfig hwarning hcritical hrecovery⟩, htoken, hdeadline⟩

/-- A record reaches its row, if there is one, and keeps the token. -/
theorem writeCredentials_holds (h : (Backend.database d).Holds k token) {r : SealedCredentials}
    (hr : r.token k = token) :
    (Backend.database { d with credentials := d.credentials.map fun _ => r }).Holds k token := by
  obtain ⟨hopen, hconfig, htoken, hdeadline⟩ := Backend.holds_database_iff.mp h
  refine Backend.holds_database_iff.mpr ⟨hopen, hconfig, ?_, hdeadline⟩
  cases hrow : d.credentials with
  | none => rwa [hrow] at htoken
  | some row => exact hr

/-- The end of a silence can be read whatever it is. -/
theorem writeSilence_holds (h : (Backend.database d).Holds k token) (deadline : Option Instant) :
    (Backend.database { d with
      silence := d.silence.map fun _ =>
        (deadline.map fun t => Cell.int t.toMillis).getD .null }).Holds k token := by
  obtain ⟨hopen, hconfig, htoken, -⟩ := Backend.holds_database_iff.mp h
  refine Backend.holds_database_iff.mpr ⟨hopen, hconfig, htoken, fun now => ?_⟩
  cases hrow : d.silence with
  | none => exact ⟨none, by simp [mutedUntil]⟩
  | some cell =>
    refine ⟨deadline.map fun t => instantColumn now t.toMillis, ?_⟩
    cases deadline <;> simp [mutedUntil, Cell.readOptionalInt, Except.map]

end Database

/-- A call that neither closes the store nor writes another token leaves what is
held, whether it succeeds or not. -/
theorem Backend.Holds.perform {b : Backend} (h : b.Holds k token) (now : Instant)
    {c : Store.Call} (hclose : c ≠ .close)
    (hrecord : ∀ r, c = .writeCredentials r → r.token k = token) :
    (b.perform now c).2.Holds k token := by
  cases b with
  | memory m =>
    have htoken := holds_memory_iff.mp h
    refine holds_memory_iff.mpr ?_
    cases c with
    | writeCredentials r => exact hrecord r rfl
    | _ => exact htoken
  | database d =>
    obtain ⟨hopen, -⟩ := holds_database_iff.mp h
    simp only [Backend.perform, Database.perform, hopen, if_true]
    cases c with
    -- three rows can be written, and the history beside them
    | writeConfig c => exact Database.writeConfig_holds h c
    | writeCredentials r => exact Database.writeCredentials_holds h (hrecord r rfl)
    | writeSilence deadline => exact Database.writeSilence_holds h deadline
    | append draft =>
      refine Database.holds_of_rows h ?_ ?_ ?_ ?_ <;>
        (simp only [Database.performOpen, Database.append, Database.insert]; split <;> rfl)
    | deleteBefore cutoff => exact Database.holds_of_rows h rfl rfl rfl rfl
    | close => exact absurd rfl hclose
    | readConfig | readCredentials | list _ | mutedUntil | health => exact h

/-! ## Effects -/

/-- The token and the secret in the live state. -/
structure Live.Holds (l : Live) (k : Slot) (token secret : String) : Prop where
  token : l.record.token k = token
  secret : l.credentials.secret k = secret

/-- The token in the store and in the live state, with the secret there, while
everything can be loaded. -/
structure World.Holds (w : World) (k : Slot) (token secret : String) : Prop where
  store : w.store.Holds k token
  live : w.live.Holds k token secret
  loads : w.AcceptsLoads

namespace Effect

/-- The effect does not close the store, and what it writes or puts into force has
this token and this secret. -/
def Preserves (k : Slot) (token secret : String) : Effect → Prop
  | .ask call => call ≠ .close ∧ ∀ r, call = .writeCredentials r → r.token k = token
  | .commit _ credentials record => record.token k = token ∧ credentials.secret k = secret
  | .acquire | .release | .look | .mute _ | .evaluate _ | .clock | .draw | .claimCleanup _
  | .endCleanup | .send _ _ _ | .pause _ | .isCancelled => True

/-- Whoever looks sees this token and this secret. -/
def Shows (k : Slot) (token secret : String) : (e : Effect) → e.Reply → Prop
  | .look, live => live.Holds k token secret
  | .acquire, _ | .release, _ | .ask _, _ | .commit _ _ _, _ | .mute _, _ | .evaluate _, _
  | .clock, _ | .draw, _ | .claimCleanup _, _ | .endCleanup, _ | .send _ _ _, _ | .pause _, _
  | .isCancelled, _ => True

theorem preserves_of_isBystander {e : Effect} (h : e.IsBystander) : e.Preserves k token secret := by
  cases e with
  | ask call =>
    obtain ⟨hwrite, hclose⟩ := h
    refine ⟨hclose, ?_⟩
    rintro r rfl
    exact absurd trivial hwrite
  | acquire | release | commit | mute | draw => exact h.elim
  | _ => exact trivial

end Effect

theorem Live.Holds.after {l : Live} (h : l.Holds k token secret) {e : Effect}
    (he : e.Preserves k token secret) : (l.after e).Holds k token secret := by
  cases e with
  | commit config credentials record => exact ⟨he.1, he.2⟩
  | _ => exact ⟨h.token, h.secret⟩

namespace World

/-- Only calls act on the store. -/
theorem store_perform {e : Effect} (he : ∀ c, e ≠ .ask c) (w : World) :
    (w.perform e).2.store = w.store := by
  refine BeginsBy.perform (R := fun w w' => w'.store = w.store) (fun h h' => h'.trans h)
    (fun _ _ _ => rfl) (fun _ => rfl) ?_
  have hsend (a : Attempt) (w : World) : (finishSend a w).2.store = w.store := by
    simp only [finishSend]
    split <;> rfl
  cases e with
  | ask c => exact absurd rfl (he c)
  | claimCleanup interval =>
    simp only [begin]
    split <;> exact ⟨rfl, trivial⟩
  | send place channel notice =>
    simp only [begin]
    split
    · exact ⟨rfl, trivial⟩
    · split
      · exact ⟨hsend _ _, trivial⟩
      · exact ⟨rfl, hsend _⟩
  | pause milliseconds =>
    simp only [begin]
    split
    · exact ⟨rfl, trivial⟩
    · split <;> exact ⟨rfl, by first | trivial | exact fun _ => rfl⟩
  | _ => exact ⟨rfl, trivial⟩

/-- Such an effect shows the token and the secret, and leaves both. -/
theorem Holds.perform {w : World} (h : w.Holds k token secret) {e : Effect}
    (he : e.Preserves k token secret) :
    e.Shows k token secret (w.perform e).1 ∧ (w.perform e).2.Holds k token secret := by
  obtain ⟨hlive, hreply⟩ := w.applies_perform e
  refine ⟨?_, ?_, hlive ▸ h.live.after he, ?_⟩
  · cases e with
    | look => exact h.live
    | _ => exact trivial
  · -- the store is touched by calls only, and a call may be refused on the way
    by_cases hask : ∃ c, e = .ask c
    · obtain ⟨c, rfl⟩ := hask
      rw [perform_ask, ask]
      simp only
      split
      · exact h.store
      · exact h.store.perform w.wall he.1 he.2
    · rw [store_perform (fun c hc => hask ⟨c, hc⟩) w]
      exact h.store
  · rw [AcceptsLoads, (w.keepsStore_perform e).1]
    exact h.loads

end World

/-- Such a program leaves the token and the secret. -/
theorem Program.Meets.holds {α : Type} {p : Program α} {post : α → Prop} {w : World}
    (hp : p.Meets (Effect.Preserves k token secret) (Effect.Shows k token secret) post)
    (hw : w.Holds k token secret) : (p.run w).2.Holds k token secret :=
  (hp.run (·.Holds k token secret) (fun _ _ hw he => hw.perform he) hw).2

/-! ## Operations -/

/-- Every effect of the program leaves the secret alone if those who look are
shown it. -/
abbrev Program.Preserves {α : Type} (p : Program α) (k : Slot) (token secret : String) : Prop :=
  p.Meets (Effect.Preserves k token secret) (Effect.Shows k token secret) fun _ => True

namespace Service

variable {s : Service} {u : Config.Update}

theorem SecretChange.eq_of_leavesAlone {before after : String × String}
    (hu : u.LeavesAlone k) (h : s.SecretChange (u.given k) (u.clears k) before after) :
    after = before := by
  have hnone : (u.given k).bind Text.nonBlank? = none := by
    cases hgiven : u.given k with
    | none => rfl
    | some text => rw [Option.bind_some, Text.nonBlank?, if_pos (hu.blank text hgiven)]
  rw [SecretChange, hnone, hu.keeps] at h
  exact h

/-- The new state has the token and the secret of the old one, even where these
two do not belong together. -/
theorem IsTarget.holds {live : Live} {config : Config} {credentials : Credentials}
    {record : SealedCredentials} (h : s.IsTarget u live config credentials record)
    (hu : u.LeavesAlone k) (hlive : live.Holds k token secret) :
    record.token k = token ∧ credentials.secret k = secret := by
  -- the change keeps the pair as it is, so it need not be an encryption and its text
  have hsame : (record.token k, credentials.secret k) =
      (live.record.token k, live.credentials.secret k) := by
    cases k with
    | telegramToken => exact h.token.eq_of_leavesAlone hu
    | gmailPassword => exact h.password.eq_of_leavesAlone hu
  obtain ⟨htoken, hsecret⟩ := Prod.mk.inj hsame
  exact ⟨htoken.trans hlive.token, hsecret.trans hlive.secret⟩

theorem persist_preserves (before config : Config) {record : SealedCredentials}
    (h : record.token k = token) : (persist before config record).Preserves k token secret := by
  have hconfig (config : Config) :
      (Effect.ask (.writeConfig config)).Preserves k token secret := ⟨nofun, nofun⟩
  rw [persist_eq]
  refine ⟨hconfig config, fun answer _ => ?_⟩
  cases answer with
  | error e => exact trivial
  | ok _ =>
    refine ⟨⟨nofun, ?_⟩, fun answer _ => ?_⟩
    · rintro r ⟨⟩
      exact h
    · cases answer with
      | ok _ => exact trivial
      -- the old configuration is put back, and the old record is still there
      | error e => exact ⟨hconfig before, fun _ _ => trivial⟩

theorem updateLocked_preserves (hu : u.LeavesAlone k) :
    (s.updateLocked u).Preserves k token secret := by
  rw [updateLocked_eq]
  refine ⟨trivial, fun live hlive => ?_⟩
  -- only nonces are drawn before anything is written
  have htarget : (s.target u live).Meets (Effect.Preserves k token secret) (fun _ _ => True)
      (RefusedOr fun t => s.IsTarget u live t.1 t.2.1 t.2.2) :=
    (target_meets live).mono (fun e he => he ▸ trivial) fun _ h => h
  refine htarget.expecting.bind fun r hr => ?_
  cases r with
  | error e => exact trivial
  | ok t =>
    have hkept := IsTarget.holds hr hu hlive
    refine (persist_preserves live.config t.1 hkept.1).bind fun r _ => ?_
    cases r with
    | error e => exact trivial
    | ok _ => exact ⟨hkept, fun _ _ => trivial⟩

theorem setDeadline_preserves (deadline : Option Instant) :
    (setDeadline deadline).Preserves k token secret := by
  rw [setDeadline_eq]
  refine ⟨⟨nofun, nofun⟩, fun answer _ => ?_⟩
  cases answer with
  | error e => exact trivial
  | ok _ => exact ⟨trivial, fun _ _ => trivial⟩

theorem locked_preserves {α : Type} {p : Program α} (hp : p.Preserves k token secret) :
    (locked p).Preserves k token secret := by
  rw [locked_eq]
  exact ⟨trivial, fun _ _ => hp.bind fun _ _ => ⟨trivial, fun _ _ => trivial⟩⟩

theorem silence_preserves (minutes : Int) : (silence minutes).Preserves k token secret := by
  unfold silence
  split
  · refine locked_preserves ⟨trivial, fun now _ => ?_⟩
    exact (setDeadline_preserves _).bind fun _ _ => trivial
  · exact trivial

end Service

/-- Operations that say nothing of the secret leave it alone. -/
theorem Operation.program_preserves (s : Service) {op : Operation} (hop : op.LeavesAlone k) :
    (op.program s).Preserves k token secret := by
  by_cases hmutation : op.IsMutation
  · cases op with
    | update u =>
      have hupdate : (s.update u).Preserves k token secret :=
        Service.locked_preserves (Service.updateLocked_preserves hop)
      exact hupdate.bind fun _ _ => trivial
    | silence minutes => exact (Service.silence_preserves minutes).bind fun _ _ => trivial
    | endSilence =>
      have hend : Service.endSilence.Preserves k token secret :=
        Service.locked_preserves (Service.setDeadline_preserves none)
      exact hend.bind fun _ _ => trivial
    | _ => exact hmutation.elim
  · have huses := Operation.program_uses s hmutation
    exact (huses.mono (fun _ => Effect.preserves_of_isBystander) fun _ _ => trivial).expecting

/-! ## Services one after the other -/

namespace Service

/-- A lifetime of a service: how it is started, and when, and the calls that it
gets. -/
structure Lifetime where
  options : Options
  wall : Instant
  calls : List Call

/-- None of its calls says anything of the secret. -/
def Lifetime.LeavesAlone (l : Lifetime) (k : Slot) : Prop :=
  ∀ c ∈ l.calls, c.operation.LeavesAlone k

end Service

namespace World

variable {w : World} {s : Service}

theorem Holds.afterCalls (h : w.Holds k token secret) {cs : List Service.Call}
    (hcs : ∀ c ∈ cs, c.operation.LeavesAlone k) : (w.afterCalls s cs).Holds k token secret := by
  induction cs generalizing w with
  | nil => exact h
  | cons c cs ih =>
    obtain ⟨hfirst, hrest⟩ := List.forall_mem_cons.mp hcs
    have hbegin : (w.atCall c).Holds k token secret := ⟨h.store, h.live, h.loads⟩
    exact ih ((c.operation.program_preserves s hfirst).holds hbegin) hrest

/-- The world after a lifetime. If the service cannot be started there are no
calls. -/
def afterLifetime (w : World) (l : Service.Lifetime) : World :=
  match { w with wall := l.wall }.start l.options with
  | (.ok s, w') => w'.afterCalls s l.calls
  | (.error _, w') => w'

/-- The world after several lifetimes, one after the other. -/
def afterLifetimes (w : World) (ls : List Service.Lifetime) : World := ls.foldl afterLifetime w

/-- A service starts whatever its key is, and then holds the token, with what its
own cipher reveals of it. -/
theorem start_holds (o : Service.Options) (hstore : w.store.Holds k token)
    (hloads : w.AcceptsLoads) :
    ∃ w', w.start o = (.ok (.ofOptions o), w') ∧
      w'.Holds k token ((Service.ofOptions o).cipher.reveal token) := by
  obtain ⟨config, hconfig⟩ := hstore.config w.wall
  obtain ⟨record, hrecord, htoken⟩ := hstore.record w.wall
  obtain ⟨deadline, hdeadline⟩ := hstore.deadline w.wall
  obtain ⟨w', hstart, hlive, hsame, houtage⟩ := start_of_loads o hloads hconfig hrecord hdeadline
  refine ⟨w', hstart, hsame ▸ hstore, ⟨?_, ?_⟩, ?_⟩
  · rw [hlive]
    exact htoken
  · rw [hlive, ← htoken]
    exact Service.secret_reveal ..
  · rw [AcceptsLoads, houtage]
    exact hloads

theorem afterLifetimes_holds {ls : List Service.Lifetime} (hls : ∀ l ∈ ls, l.LeavesAlone k)
    (hstore : w.store.Holds k token) (hloads : w.AcceptsLoads) :
    (w.afterLifetimes ls).store.Holds k token ∧ (w.afterLifetimes ls).AcceptsLoads := by
  induction ls generalizing w with
  | nil => exact ⟨hstore, hloads⟩
  | cons l ls ih =>
    obtain ⟨hfirst, hrest⟩ := List.forall_mem_cons.mp hls
    obtain ⟨w', hstart, hholds⟩ := start_holds (w := { w with wall := l.wall }) l.options hstore
      hloads
    have hafter := hholds.afterCalls (s := .ofOptions l.options) hfirst
    have hworld : w.afterLifetime l = w'.afterCalls (.ofOptions l.options) l.calls := by
      rw [afterLifetime, hstart]
    exact ih hrest (hworld ▸ hafter.store) (hworld ▸ hafter.loads)

end World

namespace Service

/-- Let everything be loadable, and say nothing of a secret to any service that
runs on the store. Then there is a token of it that the store goes on giving back
and that every service holds. Whatever its key is, the service starts, it has the
secret that its own cipher reveals of this token, and it shows the secret as
present if the token is not blank. So a service with the same key as an earlier
one has the same secret. -/
theorem secret_survives (k : Slot) {w : World} (hreadable : w.store.IsReadable)
    (hloads : w.AcceptsLoads) :
    ∃ token, w.store.Holds k token ∧
      ∀ (ls : List Lifetime) (l : Lifetime), (∀ l' ∈ ls, l'.LeavesAlone k) → l.LeavesAlone k →
        ∃ w', { w.afterLifetimes ls with wall := l.wall }.start l.options =
            (.ok (.ofOptions l.options), w') ∧
          let v := w'.afterCalls (.ofOptions l.options) l.calls
          v.store.Holds k token ∧
          v.live.record.token k = token ∧
          v.live.credentials.secret k =
            (ofOptions { key := l.options.key }).cipher.reveal token ∧
          ∀ readOnly, (((ofOptions l.options).view readOnly).run v).1.has k =
            (Text.trim token != "") := by
  obtain ⟨token, hstore⟩ := hreadable.holds k
  refine ⟨token, hstore, fun ls l hls hl => ?_⟩
  obtain ⟨hlater, haccepts⟩ := World.afterLifetimes_holds hls hstore hloads
  obtain ⟨w', hstart, hholds⟩ :=
    World.start_holds (w := { w.afterLifetimes ls with wall := l.wall }) l.options hlater haccepts
  have hafter := hholds.afterCalls (s := .ofOptions l.options) hl
  have hsecret := hafter.live.secret
  rw [cipher_ofOptions] at hsecret
  refine ⟨w', hstart, hafter.store, hafter.live.token, hsecret, fun readOnly => ?_⟩
  rw [run_view, View.has_of, hafter.live.token]

/-- The token of a secret under a key of zeros. -/
def zeroToken : String :=
  ((ofOptions keyed).cipher.encrypt (Vector.replicate 12 0) "123:abc").toOption.getD ""

theorem encrypt_zeroToken :
    (ofOptions keyed).cipher.encrypt (Vector.replicate 12 0) "123:abc" = .ok zeroToken := by
  obtain ⟨token, htoken⟩ :
      ∃ token, (ofOptions keyed).cipher.encrypt (Vector.replicate 12 0) "123:abc" = .ok token := by
    refine ⟨_, Cipher.encrypt_eq_ok_iff.mpr ⟨Vector.replicate 32 0, ?_, ?_, rfl⟩⟩ <;>
      decide +kernel
  rw [zeroToken, htoken]
  rfl

/-- A world with a database file that has this token in its record. -/
def tokenFile : World where
  store := .database { path := "alerts.db", credentials := some { telegramToken := zeroToken } }
  wall := .epoch
  nonces _ := .ok (Vector.replicate 12 0)

/-- A service with a key of ones stores a password. -/
def otherKey : Lifetime where
  options := { key := some "AQEBAQEBAQEBAQEBAQEBAQEBAQEBAQEBAQEBAQEBAQE=" }
  wall := .epoch
  calls :=
    [{ operation := .update { cooldown := some 30, gmailPassword := some "app word" }
       wall := .epoch },
     { operation := .silence 5, wall := .epoch }]

/-- One with a malformed key is given a blank token, and a password that it has
to refuse. -/
def malformedKey : Lifetime where
  options := { key := some "not a key" }
  wall := .epoch
  calls :=
    [{ operation := .update { telegramToken := some "  ", gmailPassword := some "lost" }
       wall := .epoch },
     { operation := .sendTest, wall := .epoch }]

/-- One without a key removes the password again. -/
def missingKey : Lifetime where
  options := {}
  wall := .epoch
  calls :=
    [{ operation := .update { clearGmailPassword := true }, wall := .epoch },
     { operation := .observe ⟨.epoch, 95⟩, wall := .epoch }]

/-- Without a key the secret is blank in memory and still shown as present, and
after all of them it is there again under its own key. -/
theorem secret_survives_otherKeys :
    tokenFile.store.IsReadable ∧ tokenFile.AcceptsLoads ∧
      (∃ w', { tokenFile.afterLifetimes [otherKey, malformedKey] with
          wall := missingKey.wall }.start missingKey.options =
            (.ok (.ofOptions missingKey.options), w') ∧
        let v := w'.afterCalls (.ofOptions missingKey.options) missingKey.calls
        v.live.record.telegramToken = zeroToken ∧ v.live.credentials.telegramToken = "" ∧
        (((ofOptions missingKey.options).view false).run v).1.hasTelegramToken = true) ∧
      ∃ w', { tokenFile.afterLifetimes [otherKey, malformedKey, missingKey] with
          wall := .epoch }.start keyed = (.ok (.ofOptions keyed), w') ∧
        w'.live.record.telegramToken = zeroToken ∧
        w'.live.credentials.telegramToken = "123:abc" := by
  have hreadable : tokenFile.store.IsReadable := by
    intro now c hc
    cases c with
    | readConfig | readCredentials | mutedUntil => exact ⟨_, rfl⟩
    | _ => exact hc.elim
  have hloads : tokenFile.AcceptsLoads := fun _ _ _ => rfl
  have hother : otherKey.LeavesAlone .telegramToken :=
    List.forall_mem_cons.mpr ⟨⟨nofun, rfl⟩, List.forall_mem_singleton.mpr trivial⟩
  have hmalformed : malformedKey.LeavesAlone .telegramToken := by
    refine List.forall_mem_cons.mpr ⟨⟨?_, rfl⟩, List.forall_mem_singleton.mpr trivial⟩
    rintro text ⟨⟩
    decide
  have hmissing : missingKey.LeavesAlone .telegramToken :=
    List.forall_mem_cons.mpr ⟨⟨nofun, rfl⟩, List.forall_mem_singleton.mpr trivial⟩
  obtain ⟨token, hstore, hlater⟩ := secret_survives .telegramToken hreadable hloads
  obtain ⟨record, hrecord, htoken⟩ := hstore.record .epoch
  have hread : (tokenFile.store.perform .epoch .readCredentials).1 =
      .ok { telegramToken := zeroToken } := rfl
  obtain rfl := Except.ok.inj (hrecord.symm.trans hread)
  simp only [SealedCredentials.token] at htoken
  subst htoken
  refine ⟨hreadable, hloads, ?_, ?_⟩
  · -- the third service has no key
    obtain ⟨w', hstart, -, htoken, hsecret, hhas⟩ :=
      hlater [otherKey, malformedKey] missingKey (by simp [hother, hmalformed]) hmissing
    have hblank : (ofOptions { key := missingKey.options.key }).cipher.reveal zeroToken = "" := by
      simp only [Cipher.reveal]
      split <;> rfl
    have hpresent : (Text.trim zeroToken != "") = true :=
      bne_iff_ne.mpr (Cipher.trim_ne_empty encrypt_zeroToken)
    exact ⟨w', hstart, htoken, hsecret.trans hblank, (hhas false).trans hpresent⟩
  · -- the fourth one has the key of the token
    obtain ⟨w', hstart, -, htoken, hsecret, -⟩ :=
      hlater [otherKey, malformedKey, missingKey] { options := keyed, wall := .epoch, calls := [] }
        (by simp [hother, hmalformed, hmissing]) (by simp [Lifetime.LeavesAlone])
    have hreveal : (ofOptions { key := keyed.key }).cipher.reveal zeroToken = "123:abc" := by
      rw [← cipher_ofOptions]
      exact Cipher.reveal_encrypt encrypt_zeroToken
    exact ⟨w', hstart, htoken, hsecret.trans hreveal⟩

end Service

end CpuAlert
