import CpuAlert.Proofs.Program.Run
import CpuAlert.Proofs.Store.ReadBack
import CpuAlert.Service.Update

/-!
# Updates are all or nothing

An update that fails leaves the live state as it was, and so it leaves what the
store keeps, with one exception: if the record could not be stored after the
configuration was, and putting the old configuration back failed as well, the
store keeps the new configuration with the old record. An update that succeeds
leaves the live state and the store in agreement, and its reply shows that
state.

The assumption is that the store keeps the live configuration and record before
the update. Its calls may then fail in any pattern.

## Main definitions

* `Service.SecretChange` — what an update makes of a secret
* `Service.IsTarget` — the state that an update leads to
* `Service.RestoreFailed` — the exception, by what the store was asked

## Main results

* `Service.target_meets` — working out the new state asks nothing of the store,
  and is refused or right
* `Service.persist_keeps` — what storing it leaves in the store
* `Service.update_all_or_nothing` — an update takes place or does not
-/

namespace CpuAlert

open Program (perform)
open Store (Kept Exchange)
open Time (Instant)

/-- The failures of an operation that has not asked the store yet. -/
def ServiceError.IsRefusal : ServiceError → Prop
  | .configuration _ | .secretsUnavailable _ | .crypto _ => True
  | .persistence _ | .channelsDisabled | .invalidSilence _ => False

namespace Service

variable {s : Service} {u : Config.Update}

/-! ## The new state -/

/-- The operation was refused, or came to something right. -/
def RefusedOr {α : Type} (good : α → Prop) : Except ServiceError α → Prop
  | .ok a => good a
  | .error e => e.IsRefusal

/-- The token of a secret under some nonce. -/
def IsSealOf (s : Service) (plain token : String) : Prop :=
  s.keyFault = none ∧ ∃ nonce, s.cipher.encrypt nonce plain = .ok token

/-- What an update makes of a secret, each time given as the token and the
secret itself: one that is given replaces it, and the flag removes it. -/
def SecretChange (s : Service) (given : Option String) (clear : Bool)
    (before after : String × String) : Prop :=
  match given.bind Text.nonBlank? with
  | none => after = if clear then ("", "") else before
  | some plain =>
    ∃ token, s.IsSealOf plain token ∧ after = if clear then ("", "") else (token, plain)

/-- The state that an update leads to from a live state. -/
structure IsTarget (s : Service) (u : Config.Update) (live : Live) (config : Config)
    (credentials : Credentials) (record : SealedCredentials) : Prop where
  config_eq : config = u.apply live.config
  usable : config.violation? = none
  token : s.SecretChange u.telegramToken u.clearTelegramToken
    (live.record.telegramToken, live.credentials.telegramToken)
    (record.telegramToken, credentials.telegramToken)
  password : s.SecretChange u.gmailPassword u.clearGmailPassword
    (live.record.gmailPassword, live.credentials.gmailPassword)
    (record.gmailPassword, credentials.gmailPassword)
  address : credentials.gmailAddress =
    (u.gmailAddress.bind Text.nonBlank?).getD live.credentials.gmailAddress
  storedAddress : record.gmailAddress =
    (u.gmailAddress.bind Text.nonBlank?).getD live.record.gmailAddress

/-- A file can give the new configuration back if it can give back the old one and
the pauses that are given. -/
theorem IsTarget.isStorable {live : Live} {config : Config} {credentials : Credentials}
    {record : SealedCredentials} (h : s.IsTarget u live config credentials record)
    (hlive : live.config.IsStorable)
    (hdelays : ∀ ds, u.retryDelays = some ds → ∀ d ∈ ds, d ≤ 0xFFFFFFFFFFFFFFFF) :
    config.IsStorable := by
  rw [h.config_eq]
  exact Config.Update.apply_isStorable hlive (h.config_eq ▸ h.usable) hdelays

/-- What a program meets that only draws nonces. -/
abbrev Draws {α : Type} (good : α → Prop) (p : Program (Except ServiceError α)) : Prop :=
  p.Meets (· = .draw) (fun _ _ => True) (RefusedOr good)

theorem sealSecret_meets (plain : String) :
    Draws (s.IsSealOf plain) (s.sealSecret plain) := by
  unfold sealSecret
  cases hkey : s.keyFault with
  | some reason => exact trivial
  | none =>
    refine ⟨rfl, fun r _ => ?_⟩
    cases r with
    | error reason => exact trivial
    | ok nonce =>
      show RefusedOr _ ((s.cipher.encrypt nonce plain).mapError .crypto)
      cases hseal : s.cipher.encrypt nonce plain with
      | error reason => exact trivial
      | ok token => exact ⟨hkey, nonce, hseal⟩

theorem changeSecret_meets (given : Option String) (clear : Bool) (token plain : String) :
    Draws (s.SecretChange given clear (token, plain))
      (s.changeSecret given clear token plain) := by
  unfold changeSecret SecretChange
  cases given.bind Text.nonBlank? with
  | none => exact rfl
  | some secret =>
    refine (sealSecret_meets secret).bind fun r hr => ?_
    cases r with
    | error e => exact hr
    | ok sealedSecret => exact ⟨sealedSecret, hr, rfl⟩

/-- Working out the new state only draws nonces. It is refused, or right. -/
theorem target_meets (live : Live) :
    Draws (fun t => s.IsTarget u live t.1 t.2.1 t.2.2) (s.target u live) := by
  unfold target
  cases hviolation : (u.apply live.config).violation? with
  | some v => simp only [hviolation]; exact trivial
  | none =>
    simp only [hviolation]
    refine (changeSecret_meets _ _ _ _).bind fun r htoken => ?_
    cases r with
    | error e => exact htoken
    | ok tokens =>
      refine (changeSecret_meets _ _ _ _).bind fun r hpassword => ?_
      cases r with
      | error e => exact hpassword
      | ok passwords => exact ⟨rfl, hviolation, htoken, hpassword, rfl, rfl⟩

/-! ## Storing it -/

/-- The configuration was stored, the record was not, and the configuration from
before could not be put back. -/
def RestoreFailed (before config : Config) (asked : List Exchange) : Prop :=
  ∃ record e e', asked =
    [⟨.writeConfig config, .ok ()⟩, ⟨.writeCredentials record, .error e⟩,
      ⟨.writeConfig before, .error e'⟩]

theorem not_restoreFailed_nil {before config : Config} : ¬ RestoreFailed before config [] := by
  rintro ⟨_, _, _, ⟨⟩⟩

/-- What becomes of storing a configuration and a record: the outcome, with what
the store was asked and what it keeps in the end. -/
inductive Persisted (k : Kept) (config : Config) (record : SealedCredentials) :
    Except ServiceError Unit → List Exchange → Kept → Prop
  | done (asked : List Exchange) :
    Persisted k config record (.ok ()) asked { k with config, record }
  | undone (e : StoreError) (asked : List Exchange) (h : ¬ RestoreFailed k.config config asked) :
    Persisted k config record (.error (.persistence e)) asked k
  | torn (e : StoreError) (asked : List Exchange) (h : RestoreFailed k.config config asked) :
    Persisted k config record (.error (.persistence e)) asked { k with config }

/-- Storing as a tree of calls. -/
theorem persist_eq (before config : Config) (record : SealedCredentials) :
    persist before config record =
      .step (.ask (.writeConfig config)) fun
        | .error e => .pure (.error (.persistence e))
        | .ok () => .step (.ask (.writeCredentials record)) fun
          | .ok () => .pure (.ok ())
          | .error e => .step (.ask (.writeConfig before)) fun _ =>
            .pure (.error (.persistence e)) := by
  refine congrArg (Program.step _) (funext fun a => ?_)
  cases a with
  | error e => rfl
  | ok _ =>
    refine congrArg (Program.step _) (funext fun a => ?_)
    cases a <;> rfl

theorem persist_keeps {w : World} {k : Kept} (hk : w.store.Keeps k) (config : Config)
    (record : SealedCredentials) :
    ((persist k.config config record).run w).2.live = w.live ∧
    ∃ k', ((persist k.config config record).run w).2.store.Keeps k' ∧
      Persisted k config record ((persist k.config config record).run w).1
        ((persist k.config config record).asked w) k' := by
  -- one call after the other, each with what the store keeps after it
  have h₁ := World.ask_keeps hk (c := .writeConfig config) nofun
  have hlive₁ := w.ask_live (.writeConfig config)
  simp only [persist_eq, Program.run_step, Program.asked_step, World.perform_ask]
  generalize w.ask (.writeConfig config) = x at h₁ hlive₁ ⊢
  obtain ⟨a₁, w₁⟩ := x
  cases a₁ with
  | error e => exact ⟨hlive₁, k, h₁, .undone e _ (by simp [RestoreFailed, Effect.exchange?])⟩
  | ok _ =>
    have h₂ := World.ask_keeps h₁ (c := .writeCredentials record) nofun
    have hlive₂ := w₁.ask_live (.writeCredentials record)
    simp only [Program.run_step, Program.asked_step, World.perform_ask]
    generalize w₁.ask (.writeCredentials record) = x at h₂ hlive₂ ⊢
    obtain ⟨a₂, w₂⟩ := x
    cases a₂ with
    | ok _ => exact ⟨hlive₂.trans hlive₁, _, h₂, .done _⟩
    | error e =>
      have h₃ := World.ask_keeps h₂ (c := .writeConfig k.config) nofun
      have hlive₃ := w₂.ask_live (.writeConfig k.config)
      simp only [Program.run_step, Program.asked_step, World.perform_ask]
      generalize w₂.ask (.writeConfig k.config) = x at h₃ hlive₃ ⊢
      obtain ⟨a₃, w₃⟩ := x
      refine ⟨(hlive₃.trans hlive₂).trans hlive₁, _, h₃, ?_⟩
      cases a₃ with
      | ok _ => exact .undone e _ (by simp [RestoreFailed, Effect.exchange?])
      | error e' => exact .torn e _ ⟨record, e, e', rfl⟩

/-! ## The lock -/

section Locked

variable {α : Type} (p : Program α) (w : World)

theorem locked_eq :
    locked p = .step .acquire fun _ => p.bind fun a => .step .release fun _ => .pure a :=
  rfl

/-- On its own, a program that takes the lock runs as it does without. -/
theorem run_locked :
    (locked p).run w =
      ((p.run { w with locked := true }).1,
        { (p.run { w with locked := true }).2 with locked := false }) := by
  rw [locked_eq, Program.run_step, Program.run_bind]
  rfl

theorem asked_locked : (locked p).asked w = p.asked { w with locked := true } := by
  rw [locked_eq, Program.asked_step, Program.asked_bind]
  exact List.append_nil _

end Locked

/-! ## The whole update -/

/-- An update with the lock held, as a tree of effects. -/
theorem updateLocked_eq :
    s.updateLocked u =
      .step .look fun live => (s.target u live).bind fun
        | .error e => .pure (.error e)
        | .ok (config, credentials, record) => (persist live.config config record).bind fun
          | .error e => .pure (.error e)
          | .ok () => .step (.commit config credentials record) fun _ =>
            .pure (.ok (.of config credentials record s.secretsWritable false)) := by
  refine congrArg (Program.step _) (funext fun live => ?_)
  refine congrArg (Program.bind (s.target u live)) (funext fun r => ?_)
  cases r with
  | error e => rfl
  | ok t =>
    refine congrArg (Program.bind (persist live.config t.1 t.2.2)) (funext fun r => ?_)
    cases r <;> rfl

/-- Working out the new state leaves the live state and the store alone. -/
theorem target_run (w : World) (live : Live) :
    RefusedOr (fun t => s.IsTarget u live t.1 t.2.1 t.2.2) ((s.target u live).run w).1 ∧
      ((s.target u live).run w).2.live = w.live ∧ ((s.target u live).run w).2.store = w.store := by
  refine (target_meets live).run (fun w' => w'.live = w.live ∧ w'.store = w.store)
    (fun w' e hw' he => ?_) ⟨rfl, rfl⟩
  cases he
  exact ⟨trivial, hw'⟩

/-- How an update of a live state ends: its outcome, what the store was asked,
the live state afterwards, and what the store keeps. -/
inductive Ended (s : Service) (u : Config.Update) (live : Live) (deadline : Option Instant) :
    Except ServiceError View → List Exchange → Live → Kept → Prop
  | refused (e : ServiceError) (h : e.IsRefusal) :
    Ended s u live deadline (.error e) [] live ⟨live.config, live.record, deadline⟩
  | undone (e : StoreError) (asked : List Exchange)
      (h : ¬ RestoreFailed live.config (u.apply live.config) asked) :
    Ended s u live deadline (.error (.persistence e)) asked live
      ⟨live.config, live.record, deadline⟩
  | torn (e : StoreError) (asked : List Exchange)
      (h : RestoreFailed live.config (u.apply live.config) asked) :
    Ended s u live deadline (.error (.persistence e)) asked live
      ⟨u.apply live.config, live.record, deadline⟩
  | done (config : Config) (credentials : Credentials) (record : SealedCredentials)
      (asked : List Exchange) (h : s.IsTarget u live config credentials record) :
    Ended s u live deadline (.ok (.of config credentials record s.secretsWritable false)) asked
      (live.commit config credentials record) ⟨config, record, deadline⟩

theorem updateLocked_ended {w : World} {deadline : Option Instant}
    (hagree : w.store.Keeps ⟨w.live.config, w.live.record, deadline⟩) :
    ∃ k, ((s.updateLocked u).run w).2.store.Keeps k ∧
      s.Ended u w.live deadline ((s.updateLocked u).run w).1 ((s.updateLocked u).asked w)
        ((s.updateLocked u).run w).2.live k := by
  obtain ⟨hresult, hlive, hstore⟩ := target_run (s := s) (u := u) w w.live
  have hnothing : (s.target u w.live).asked w = [] :=
    (target_meets w.live).asked_eq_nil (fun _ h => Effect.noConfusion h) w
  simp only [updateLocked_eq, Program.run_step, Program.asked_step, World.perform_look,
    Effect.exchange?, Option.toList_none, List.nil_append, Program.run_bind, Program.asked_bind,
    hnothing]
  -- drawing nonces has left the store alone, so it still keeps the live values
  rw [← hstore] at hagree
  generalize (s.target u w.live).run w = x at hresult hlive hstore hagree ⊢
  obtain ⟨r, w'⟩ := x
  cases r with
  | error e => exact ⟨_, hagree, hlive ▸ .refused e hresult⟩
  | ok t =>
    obtain ⟨config, credentials, record⟩ := t
    obtain ⟨hlive', k, hk, hpersisted⟩ := persist_keeps hagree config record
    have hlive'' := hlive'.trans hlive
    have hconfig : config = u.apply w.live.config := hresult.config_eq
    simp only [Program.run_bind, Program.asked_bind]
    generalize (persist w.live.config config record).run w' = x at hlive'' hk hpersisted ⊢
    generalize (persist w.live.config config record).asked w' = asked at hpersisted ⊢
    obtain ⟨r, w''⟩ := x
    replace hlive'' : w''.live = w.live := hlive''
    -- only after both writes is anything put into force
    cases hpersisted with
    | done asked =>
      refine ⟨_, hk, ?_⟩
      simp only [Program.run_step, Program.asked_step, World.perform_commit,
        Program.run_pure, Program.asked_pure, hlive'']
      exact .done config credentials record _ hresult
    | undone e asked h =>
      refine ⟨_, hk, ?_⟩
      simp only [Program.run_pure, Program.asked_pure, List.append_nil, hlive'']
      exact .undone e asked (hconfig ▸ h)
    | torn e asked h =>
      refine ⟨_, hk, ?_⟩
      simp only [Program.run_pure, Program.asked_pure, List.append_nil, hlive'', hconfig]
      exact .torn e asked (hconfig ▸ h)

/-- An update on its own ends in one of these ways. -/
theorem update_ended {w : World} {deadline : Option Instant}
    (hagree : w.store.Keeps ⟨w.live.config, w.live.record, deadline⟩) :
    ∃ k, ((s.update u).run w).2.store.Keeps k ∧
      s.Ended u w.live deadline ((s.update u).run w).1 ((s.update u).asked w)
        ((s.update u).run w).2.live k := by
  rw [update, run_locked, asked_locked]
  exact updateLocked_ended (w := { w with locked := true }) hagree

/-- An update takes place or does not. Let the store keep the live configuration
and record before, and then fail as it likes. If the update fails, the live state
is as before, and so is what the store keeps, except that the new configuration
stays if it could be stored, the record could not, and the old configuration
could not be put back. If it fails by a refusal, the store has not been asked
anything. If it succeeds, the store keeps the live configuration and record,
these are the result of the update, and the reply shows them. -/
theorem update_all_or_nothing (s : Service) (u : Config.Update) (w : World)
    (deadline : Option Instant)
    (hagree : w.store.Keeps ⟨w.live.config, w.live.record, deadline⟩) :
    let w' := ((s.update u).run w).2
    let asked := (s.update u).asked w
    (∀ e, ((s.update u).run w).1 = .error e →
      w'.live = w.live ∧
      (¬ RestoreFailed w.live.config (u.apply w.live.config) asked →
        w'.store.Keeps ⟨w.live.config, w.live.record, deadline⟩) ∧
      (RestoreFailed w.live.config (u.apply w.live.config) asked →
        w'.store.Keeps ⟨u.apply w.live.config, w.live.record, deadline⟩) ∧
      (e.IsRefusal → asked = [])) ∧
    ∀ v, ((s.update u).run w).1 = .ok v →
      w'.store.Keeps ⟨w'.live.config, w'.live.record, deadline⟩ ∧
      s.IsTarget u w.live w'.live.config w'.live.credentials w'.live.record ∧
      w'.live = w.live.commit w'.live.config w'.live.credentials w'.live.record ∧
      v = .of w'.live.config w'.live.credentials w'.live.record s.secretsWritable false := by
  obtain ⟨k, hk, hended⟩ := update_ended (s := s) (u := u) hagree
  generalize (s.update u).run w = x at hk hended ⊢
  generalize (s.update u).asked w = asked at hended ⊢
  obtain ⟨r, w'⟩ := x
  simp only
  generalize hlive : w'.live = live at hended ⊢
  cases hended with
  | refused e h =>
    constructor
    · rintro e' ⟨⟩
      exact ⟨rfl, fun _ => hk, fun hfailed => absurd hfailed not_restoreFailed_nil,
        fun _ => rfl⟩
    · rintro v ⟨⟩
  | undone e asked h =>
    constructor
    · rintro e' ⟨⟩
      exact ⟨rfl, fun _ => hk, fun hfailed => absurd hfailed h, False.elim⟩
    · rintro v ⟨⟩
  | torn e asked h =>
    constructor
    · rintro e' ⟨⟩
      exact ⟨rfl, fun hnot => absurd h hnot, fun _ => hk, False.elim⟩
    · rintro v ⟨⟩
  | done config credentials record asked h =>
    constructor
    · rintro e ⟨⟩
    · rintro v ⟨⟩
      exact ⟨hk, h, rfl, rfl⟩

/-- A world whose store takes one call and refuses all others. -/
def fullDisk : World where
  store := .memory {}
  wall := .epoch
  outage n _ := if n = 0 then none else some (.io "disk full")
  nonces _ := .error "no randomness"

/-- A store that takes the new configuration and then refuses everything keeps it
with the old record, while the live state is as before. -/
theorem update_torn :
    let u : Config.Update := { cooldown := some 0 }
    let w' := (((ofOptions {}).update u).run fullDisk).2
    fullDisk.store.Keeps ⟨{}, {}, none⟩ ∧ w'.live = {} ∧
      w'.store.Keeps ⟨{ cooldown := 0 }, {}, none⟩ := by
  have hagree : fullDisk.store.Keeps ⟨{}, {}, none⟩ := Backend.keeps_memory_iff.mpr ⟨rfl, rfl, rfl⟩
  have hfail (s : Service) : ((s.update { cooldown := some 0 }).run fullDisk).1 =
      .error (.persistence (.io "disk full")) := rfl
  obtain ⟨hlive, -, htorn, -⟩ :=
    (update_all_or_nothing (ofOptions {}) { cooldown := some 0 } fullDisk none hagree).1 _ (hfail _)
  exact ⟨hagree, hlive, htorn ⟨_, _, _, rfl⟩⟩

end Service

end CpuAlert
