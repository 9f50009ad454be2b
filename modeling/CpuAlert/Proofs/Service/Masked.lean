import CpuAlert.Proofs.Service.Survival
import Mathlib.Data.List.DropRight
import Mathlib.Data.List.Forall2

/-!
# Views tell secrets by their last characters

Let a service be given one secret, and another service on the same store a
different one that ends in the same four characters. Then no update and no view
is answered differently, whatever nonces are drawn. What is shown of a secret is
whether there is a token and the mask of the secret itself, and no decision on the
way looks at anything else: an update is accepted, refused or fails for the same
reason in both.

So two programs are compared step by step. They ask the same, up to what is secret,
and what is answered is the same, up to what is secret; a reply that shows no more
than a view does is then the same altogether.

## Main definitions

* `SameTail` — secrets that their masks do not tell apart
* `Config.Update.Resembles` — updates that differ in such secrets
* `Live.Resembles`, `World.Resembles` — what shows the same
* `Program.Resembles` — programs that go on alike
* `World.session` — the answers of a service that is started on a store

## Main results

* `Program.Resembles.run` — programs that go on alike end alike
* `Service.updateLocked_resembles` — updates that differ in such secrets do
* `Service.session_masked` — the answers do not tell the secrets apart
-/

namespace CpuAlert

open Time (Instant)

/-! ## Secrets -/

/-- The secrets without their blanks are longer than what a mask shows, are not too
long to be sealed, and end in the same characters. -/
structure SameTail (s t : String) : Prop where
  longer : shownTail < (Text.trim s).toList.length ∧ shownTail < (Text.trim t).toList.length
  tail : (Text.trim s).toList.rtake shownTail = (Text.trim t).toList.rtake shownTail
  fits : (Text.toBytes (Text.trim s)).length ≤ Gcm.maxLength ∧
    (Text.toBytes (Text.trim t)).length ≤ Gcm.maxLength

/-- What is given for a secret is the same, or ends in the same characters. -/
inductive GivenAlike : Option String → Option String → Prop
  | same (given : Option String) : GivenAlike given given
  | tail {s t : String} (h : SameTail s t) : GivenAlike (some s) (some t)

/-- The secrets have the same mask, and both or neither can be sealed. -/
structure MaskedAlike (s t : String) : Prop where
  mask (present : Bool) : secretMask s present = secretMask t present
  fits : (Text.toBytes s).length ≤ Gcm.maxLength ↔ (Text.toBytes t).length ≤ Gcm.maxLength

theorem MaskedAlike.refl (s : String) : MaskedAlike s s := ⟨fun _ => rfl, Iff.rfl⟩

/-- What is given alike is blank in both, or it is masked alike. -/
theorem GivenAlike.nonBlank? {given given' : Option String} (h : GivenAlike given given') :
    given.bind Text.nonBlank? = none ∧ given'.bind Text.nonBlank? = none ∨
      ∃ s t, given.bind Text.nonBlank? = some s ∧ given'.bind Text.nonBlank? = some t ∧
        MaskedAlike s t := by
  cases h with
  | same given =>
    cases hgiven : given.bind Text.nonBlank? with
    | none => exact .inl ⟨rfl, rfl⟩
    | some s => exact .inr ⟨s, s, rfl, rfl, .refl s⟩
  | @tail s t h =>
    have hsome {s : String} (hs : shownTail < (Text.trim s).toList.length) :
        (some s).bind Text.nonBlank? = some (Text.trim s) := by
      have hne : Text.trim s ≠ "" := by
        intro hempty
        rw [hempty] at hs
        exact absurd hs (by decide)
      rw [Option.bind_some, Text.nonBlank?, if_neg hne]
    refine .inr ⟨Text.trim s, Text.trim t, hsome h.longer.1, hsome h.longer.2, ?_, ?_⟩
    · -- the mask trims once more, and finds nothing left to trim
      have htrim (s : String) : Text.trimList (Text.trim s).toList = (Text.trim s).toList := by
        rw [Text.toList_trim, Text.trimList_trimList]
      intro present
      apply secretMask_eq_of_tail <;> simp only [htrim]
      · exact h.longer.1
      · exact h.longer.2
      · exact h.tail
    · exact iff_of_true h.fits.1 h.fits.2

/-- The updates are the same but for secrets that are given alike. -/
structure Config.Update.Resembles (u u' : Config.Update) : Prop where
  rest : u' = { u with telegramToken := u'.telegramToken, gmailPassword := u'.gmailPassword }
  given (k : Slot) : GivenAlike (u.given k) (u'.given k)

/-! ## What shows the same -/

/-- Both succeed, with related results, or both fail for the same reason. -/
inductive SameFate {ε α β : Type} (R : α → β → Prop) : Except ε α → Except ε β → Prop
  | ok {a : α} {b : β} (h : R a b) : SameFate R (.ok a) (.ok b)
  | error (e : ε) : SameFate R (.error e) (.error e)

/-- Two tokens with their secrets show the same. -/
structure ShowAlike (p p' : String × String) : Prop where
  present : (Text.trim p.1 != "") = (Text.trim p'.1 != "")
  mask (present : Bool) : secretMask p.2 present = secretMask p'.2 present

theorem ShowAlike.refl (p : String × String) : ShowAlike p p := ⟨rfl, fun _ => rfl⟩

/-- Credentials with their records show the same. -/
structure Credentials.Resemble (c : Credentials) (r : SealedCredentials) (c' : Credentials)
    (r' : SealedCredentials) : Prop where
  secret (k : Slot) : ShowAlike (r.token k, c.secret k) (r'.token k, c'.secret k)
  address : r'.gmailAddress = r.gmailAddress

/-- Nothing more than this is shown of credentials. -/
theorem Credentials.Resemble.view {c c' : Credentials} {r r' : SealedCredentials}
    (h : c.Resemble r c' r') (config : Config) (secretsWritable readOnly : Bool) :
    View.of config c' r' secretsWritable readOnly = .of config c r secretsWritable readOnly := by
  have htoken : (Text.trim r'.telegramToken != "") = (Text.trim r.telegramToken != "") :=
    (h.secret .telegramToken).present.symm
  have hpassword : (Text.trim r'.gmailPassword != "") = (Text.trim r.gmailPassword != "") :=
    (h.secret .gmailPassword).present.symm
  have htokenMask (present : Bool) :
      secretMask c'.telegramToken present = secretMask c.telegramToken present :=
    ((h.secret .telegramToken).mask present).symm
  have hpasswordMask (present : Bool) :
      secretMask c'.gmailPassword present = secretMask c.gmailPassword present :=
    ((h.secret .gmailPassword).mask present).symm
  simp only [View.of, htoken, hpassword, htokenMask, hpasswordMask, h.address]

/-- The live states show the same. -/
structure Live.Resembles (l l' : Live) : Prop where
  config : l'.config = l.config
  credentials : l.credentials.Resemble l.record l'.credentials l'.record

namespace Backend

/-- The store without the record of the credentials. -/
def withoutRecord : Backend → Backend
  | .memory m => .memory { m with credentials := {} }
  | .database d => .database { d with credentials := d.credentials.map fun _ => {} }

/-- Storing a configuration has nothing to do with the record. -/
theorem writeConfig_withoutRecord (b : Backend) (now now' : Instant) (c : Config) :
    (b.withoutRecord.perform now' (.writeConfig c)).1 = (b.perform now (.writeConfig c)).1 ∧
      (b.withoutRecord.perform now' (.writeConfig c)).2.withoutRecord =
        (b.perform now (.writeConfig c)).2.withoutRecord := by
  cases b with
  | memory m => exact ⟨rfl, rfl⟩
  | database d =>
    obtain ⟨path, isOpen, settings, credentials, silence, events, lastId⟩ := d
    simp only [withoutRecord, perform, Database.perform]
    cases isOpen with
    | false => cases credentials <;> exact ⟨rfl, rfl⟩
    | true =>
      simp only [if_pos, Database.performOpen, Database.writeConfig]
      cases settings with
      | none => cases credentials <;> exact ⟨rfl, rfl⟩
      | some _ =>
        generalize Database.emptyColumn? _ = refusal?
        cases refusal? <;> cases credentials <;> exact ⟨rfl, rfl⟩

/-- Storing a record succeeds or fails whatever it holds. -/
theorem writeCredentials_withoutRecord (b : Backend) (now now' : Instant)
    (r r' : SealedCredentials) :
    (b.withoutRecord.perform now' (.writeCredentials r')).1 =
        (b.perform now (.writeCredentials r)).1 ∧
      (b.perform now (.writeCredentials r)).2.withoutRecord = b.withoutRecord := by
  cases b with
  | memory m => exact ⟨rfl, rfl⟩
  | database d =>
    obtain ⟨path, isOpen, settings, credentials, silence, events, lastId⟩ := d
    simp only [withoutRecord, perform, Database.perform]
    cases isOpen <;> cases credentials <;> exact ⟨rfl, rfl⟩

end Backend

/-- The worlds show the same: their stores differ in the record at most, and their
nonces in what is drawn, if anything is. -/
structure World.Resembles (w w' : World) : Prop where
  live : w.live.Resembles w'.live
  store : w'.store.withoutRecord = w.store.withoutRecord
  outage : w'.outage = w.outage
  asked : w'.asked = w.asked
  drawn : w'.drawn = w.drawn
  nonces (n : Nat) : SameFate (fun _ _ => True) (w.nonces n) (w'.nonces n)

namespace World.Resembles

variable {w w' : World}

/-- The same calls are refused on the way. -/
theorem refused (h : w.Resembles w') (m : Store.Method) :
    w'.outage w'.asked m = w.outage w.asked m := by
  rw [h.outage, h.asked]

/-- A call has been counted, and the stores after it differ in the record at most. -/
theorem counted (h : w.Resembles w') {store store' : Backend}
    (hstore : store'.withoutRecord = store.withoutRecord) :
    ({ w with asked := w.asked + 1, store } : World).Resembles
      { w' with asked := w'.asked + 1, store := store' } where
  live := h.live
  store := hstore
  outage := h.outage
  asked := congrArg (· + 1) h.asked
  drawn := h.drawn
  nonces := h.nonces

theorem writeConfig (h : w.Resembles w') (c : Config) :
    (w'.ask (.writeConfig c)).1 = (w.ask (.writeConfig c)).1 ∧
      (w.ask (.writeConfig c)).2.Resembles (w'.ask (.writeConfig c)).2 := by
  obtain ⟨hanswer, hafter⟩ := w.store.writeConfig_withoutRecord w.wall .epoch c
  obtain ⟨hanswer', hafter'⟩ := w'.store.writeConfig_withoutRecord w'.wall .epoch c
  rw [h.store] at hanswer' hafter'
  simp only [World.ask, h.refused]
  split
  · exact ⟨rfl, h.counted h.store⟩
  · exact ⟨hanswer'.symm.trans hanswer, h.counted (hafter'.symm.trans hafter)⟩

theorem writeCredentials (h : w.Resembles w') (r r' : SealedCredentials) :
    (w'.ask (.writeCredentials r')).1 = (w.ask (.writeCredentials r)).1 ∧
      (w.ask (.writeCredentials r)).2.Resembles (w'.ask (.writeCredentials r')).2 := by
  obtain ⟨hanswer, hafter⟩ := w.store.writeCredentials_withoutRecord w.wall .epoch r {}
  obtain ⟨hanswer', hafter'⟩ := w'.store.writeCredentials_withoutRecord w'.wall .epoch r' {}
  rw [h.store] at hanswer' hafter'
  simp only [World.ask, h.refused, Store.Call.method]
  split
  · exact ⟨rfl, h.counted h.store⟩
  · exact ⟨hanswer'.symm.trans hanswer, h.counted (hafter'.trans hafter.symm)⟩

end World.Resembles

/-! ## Programs -/

namespace Program

variable {α α' β β' : Type}

/-- The programs go on alike: they do the same but for what is secret, and after
replies that are the same but for what is secret they do so again. Their results
are related. -/
inductive Resembles (R : α → α' → Prop) : Program α → Program α' → Prop
  | pure {a : α} {a' : α'} (h : R a a') : Resembles R (.pure a) (.pure a')
  | acquire {next : Unit → Program α} {next' : Unit → Program α'}
      (h : Resembles R (next ()) (next' ())) :
    Resembles R (.step .acquire next) (.step .acquire next')
  | release {next : Unit → Program α} {next' : Unit → Program α'}
      (h : Resembles R (next ()) (next' ())) :
    Resembles R (.step .release next) (.step .release next')
  | look {next : Live → Program α} {next' : Live → Program α'}
      (h : ∀ l l' : Live, l.Resembles l' → Resembles R (next l) (next' l')) :
    Resembles R (.step .look next) (.step .look next')
  | draw {next : Except String Gcm.Nonce → Program α} {next' : Except String Gcm.Nonce → Program α'}
      (h : ∀ r r', SameFate (fun _ _ => True) r r' → Resembles R (next r) (next' r')) :
    Resembles R (.step .draw next) (.step .draw next')
  | writeConfig (config : Config) {next : Except StoreError Unit → Program α}
      {next' : Except StoreError Unit → Program α'}
      (h : ∀ answer, Resembles R (next answer) (next' answer)) :
    Resembles R (.step (.ask (.writeConfig config)) next) (.step (.ask (.writeConfig config)) next')
  | writeCredentials (r r' : SealedCredentials) {next : Except StoreError Unit → Program α}
      {next' : Except StoreError Unit → Program α'}
      (h : ∀ answer, Resembles R (next answer) (next' answer)) :
    Resembles R (.step (.ask (.writeCredentials r)) next)
      (.step (.ask (.writeCredentials r')) next')
  | commit (config : Config) {c c' : Credentials} {r r' : SealedCredentials}
      {next : Unit → Program α} {next' : Unit → Program α'} (hcredentials : c.Resemble r c' r')
      (h : Resembles R (next ()) (next' ())) :
    Resembles R (.step (.commit config c r) next) (.step (.commit config c' r') next')

variable {R : α → α' → Prop} {S : β → β' → Prop}

theorem Resembles.bind {p : Program α} {p' : Program α'} {f : α → Program β} {f' : α' → Program β'}
    (hp : p.Resembles R p') (hf : ∀ a a', R a a' → (f a).Resembles S (f' a')) :
    (p.bind f).Resembles S (p'.bind f') := by
  induction hp with
  | pure h => exact hf _ _ h
  | acquire _ ih => exact .acquire ih
  | release _ ih => exact .release ih
  | look _ ih => exact .look ih
  | draw _ ih => exact .draw ih
  | writeConfig config _ ih => exact .writeConfig config ih
  | writeCredentials r r' _ ih => exact .writeCredentials r r' ih
  | commit config hcredentials _ ih => exact .commit config hcredentials ih

/-- Programs that go on alike in worlds that show the same end alike, and leave
worlds that show the same. -/
theorem Resembles.run {p : Program α} {p' : Program α'} (hp : p.Resembles R p') {w w' : World}
    (hw : w.Resembles w') :
    R (p.run w).1 (p'.run w').1 ∧ (p.run w).2.Resembles (p'.run w').2 := by
  induction hp generalizing w w' with
  | pure h => exact ⟨h, hw⟩
  | acquire _ ih | release _ ih =>
    refine ih ?_
    exact ⟨hw.live, hw.store, hw.outage, hw.asked, hw.drawn, hw.nonces⟩
  | look _ ih => exact ih _ _ hw.live hw
  | draw _ ih =>
    -- both draw the nonce with the same number
    have hdrawn : SameFate (fun _ _ => True) (w.nonces w.drawn) (w'.nonces w'.drawn) :=
      hw.drawn ▸ hw.nonces w.drawn
    refine ih _ _ hdrawn ?_
    exact ⟨hw.live, hw.store, hw.outage, hw.asked, congrArg (· + 1) hw.drawn, hw.nonces⟩
  | writeConfig config _ ih =>
    obtain ⟨hanswer, hafter⟩ := hw.writeConfig config
    simp only [run_step, World.perform_ask]
    rw [hanswer]
    exact ih _ hafter
  | writeCredentials r r' _ ih =>
    obtain ⟨hanswer, hafter⟩ := hw.writeCredentials r r'
    simp only [run_step, World.perform_ask]
    rw [hanswer]
    exact ih _ hafter
  | commit config hcredentials _ ih =>
    refine ih ?_
    exact ⟨⟨rfl, hcredentials⟩, hw.store, hw.outage, hw.asked, hw.drawn, hw.nonces⟩

end Program

/-! ## Updates -/

namespace Service

variable {s : Service}

/-- The view as a tree of effects. -/
theorem view_eq (s : Service) (readOnly : Bool) :
    s.view readOnly = .step .look fun live =>
      .pure (.of live.config live.credentials live.record s.secretsWritable readOnly) :=
  rfl

/-- Whether a secret can be sealed depends on the key and its length alone, and a
token is never blank. -/
theorem encrypt_sameFate (c : Cipher) (nonce nonce' : Gcm.Nonce) {plain plain' : String}
    (h : (Text.toBytes plain).length ≤ Gcm.maxLength ↔
      (Text.toBytes plain').length ≤ Gcm.maxLength) :
    SameFate (fun t t' => Text.trim t ≠ "" ∧ Text.trim t' ≠ "") (c.encrypt nonce plain)
      (c.encrypt nonce' plain') := by
  cases hkey : c.key with
  | none =>
    simp only [Cipher.encrypt, hkey]
    exact .error _
  | some key =>
    by_cases hfits : (Text.toBytes plain).length ≤ Gcm.maxLength
    · have hseal : c.encrypt nonce plain = .ok _ :=
        Cipher.encrypt_eq_ok_iff.mpr ⟨key, hkey, hfits, rfl⟩
      have hseal' : c.encrypt nonce' plain' = .ok _ :=
        Cipher.encrypt_eq_ok_iff.mpr ⟨key, hkey, h.mp hfits, rfl⟩
      rw [hseal, hseal']
      exact .ok ⟨Cipher.trim_ne_empty hseal, Cipher.trim_ne_empty hseal'⟩
    · have hlong : Gcm.maxLength < (Text.toBytes plain).length := Nat.lt_of_not_le hfits
      have hlong' : Gcm.maxLength < (Text.toBytes plain').length :=
        Nat.lt_of_not_le fun hle => hfits (h.mpr hle)
      simp only [Cipher.encrypt, hkey, if_pos hlong, if_pos hlong']
      exact .error _

theorem sealSecret_resembles {plain plain' : String} (h : MaskedAlike plain plain') :
    (s.sealSecret plain).Resembles
      (SameFate fun t t' => Text.trim t ≠ "" ∧ Text.trim t' ≠ "") (s.sealSecret plain') := by
  unfold sealSecret
  cases s.keyFault with
  | some reason => exact .pure (.error _)
  | none =>
    refine .draw fun r r' hr => ?_
    cases hr with
    | error reason => exact .pure (.error _)
    | @ok nonce nonce' _ =>
      have hfate := encrypt_sameFate s.cipher nonce nonce' h.fits
      refine .pure ?_
      generalize s.cipher.encrypt nonce plain = result at hfate ⊢
      generalize s.cipher.encrypt nonce' plain' = result' at hfate ⊢
      cases hfate with
      | ok htokens => exact .ok htokens
      | error e => exact .error _

theorem changeSecret_resembles {given given' : Option String} (hgiven : GivenAlike given given')
    (clear : Bool) {before before' : String × String} (hbefore : ShowAlike before before') :
    (s.changeSecret given clear before.1 before.2).Resembles (SameFate ShowAlike)
      (s.changeSecret given' clear before'.1 before'.2) := by
  have hcleared {p p' : String × String} (hp : ShowAlike p p') :
      ShowAlike (if clear then ("", "") else p) (if clear then ("", "") else p') := by
    cases clear with
    | true => exact .refl _
    | false => exact hp
  unfold changeSecret
  rcases hgiven.nonBlank? with ⟨hnone, hnone'⟩ | ⟨plain, plain', hsome, hsome', hplain⟩
  · rw [hnone, hnone']
    exact .pure (.ok (hcleared hbefore))
  · rw [hsome, hsome']
    refine (sealSecret_resembles hplain).bind fun r r' hr => ?_
    cases hr with
    | error e => exact .pure (.error e)
    | ok htokens =>
      -- the tokens differ, and both are shown as present
      refine .pure (.ok (hcleared ⟨?_, hplain.mask⟩))
      rw [bne_iff_ne.mpr htokens.1, bne_iff_ne.mpr htokens.2]

/-- The new states show the same. -/
structure TargetsAlike (t t' : Target) : Prop where
  config : t'.1 = t.1
  credentials : t.2.1.Resemble t.2.2 t'.2.1 t'.2.2

variable {u u' : Config.Update}

theorem target_resembles (hu : u.Resembles u') {live live' : Live} (hlive : live.Resembles live') :
    (s.target u live).Resembles (SameFate TargetsAlike) (s.target u' live') := by
  have hgiven := hu.given
  have hconfig : u'.apply live'.config = u.apply live.config := by
    rw [hu.rest, hlive.config]
    rfl
  have hclear : u'.clearTelegramToken = u.clearTelegramToken ∧
      u'.clearGmailPassword = u.clearGmailPassword ∧ u'.gmailAddress = u.gmailAddress := by
    rw [hu.rest]
    exact ⟨rfl, rfl, rfl⟩
  obtain ⟨hclearToken, hclearPassword, haddress⟩ := hclear
  -- the configuration is checked first, and what is given for a secret has no part in it
  unfold target
  simp only [hconfig, hclearToken, hclearPassword, haddress]
  cases (u.apply live.config).violation? with
  | some v => exact .pure (.error _)
  | none =>
    have hsecret := hlive.credentials.secret
    refine (changeSecret_resembles (hgiven .telegramToken) _ (hsecret .telegramToken)).bind
      fun r r' htoken => ?_
    cases htoken with
    | error e => exact .pure (.error e)
    | ok htoken =>
      refine (changeSecret_resembles (hgiven .gmailPassword) _ (hsecret .gmailPassword)).bind
        fun r r' hpassword => ?_
      cases hpassword with
      | error e => exact .pure (.error e)
      | ok hpassword =>
        refine .pure (.ok ⟨rfl, fun k => ?_, ?_⟩)
        · cases k with
          | telegramToken => exact htoken
          | gmailPassword => exact hpassword
        · exact congrArg ((u.gmailAddress.bind Text.nonBlank?).getD ·) hlive.credentials.address

theorem persist_resembles (before config : Config) (record record' : SealedCredentials) :
    (persist before config record).Resembles Eq (persist before config record') := by
  rw [persist_eq, persist_eq]
  refine .writeConfig config fun answer => ?_
  cases answer with
  | error e => exact .pure rfl
  | ok _ =>
    -- the records differ, but whether one can be written does not depend on it
    refine .writeCredentials record record' fun answer => ?_
    cases answer with
    | ok _ => exact .pure rfl
    | error e => exact .writeConfig before fun _ => .pure rfl

/-- Updates that differ in such secrets are answered the same. -/
theorem updateLocked_resembles (hu : u.Resembles u') :
    (s.updateLocked u).Resembles Eq (s.updateLocked u') := by
  rw [updateLocked_eq, updateLocked_eq]
  refine .look fun live live' hlive => ?_
  refine (target_resembles hu hlive).bind fun r r' hr => ?_
  cases hr with
  | error e => exact .pure rfl
  | @ok t t' ht =>
    obtain ⟨config, credentials, record⟩ := t
    obtain ⟨config', credentials', record'⟩ := t'
    obtain ⟨rfl, hcredentials⟩ := ht
    simp only [hlive.config]
    refine (persist_resembles live.config config' record record').bind fun r r' hr => ?_
    subst hr
    cases r with
    | error e => exact .pure rfl
    | ok _ =>
      refine .commit config' hcredentials (.pure ?_)
      exact congrArg Except.ok (hcredentials.view ..).symm

end Service

/-! ## Sessions -/

/-- Both are updates that differ in such secrets, or both ask for the same view. -/
inductive Operation.Resembles : Operation → Operation → Prop
  | update {u u' : Config.Update} (h : u.Resembles u') : Resembles (.update u) (.update u')
  | view (readOnly : Bool) : Resembles (.view readOnly) (.view readOnly)

theorem Operation.Resembles.program {op op' : Operation} (h : op.Resembles op') (s : Service) :
    (op.program s).Resembles Eq (op'.program s) := by
  cases h with
  | @update u u' hu =>
    have hlocked : (s.update u).Resembles Eq (s.update u') := by
      rw [Service.update, Service.update, Service.locked_eq, Service.locked_eq]
      refine .acquire ((Service.updateLocked_resembles hu).bind fun r r' hr => ?_)
      exact .release (.pure hr)
    exact hlocked.bind fun r r' hr => .pure (congrArg Outcome.update hr)
  | view readOnly =>
    have hview : (s.view readOnly).Resembles Eq (s.view readOnly) := by
      rw [Service.view_eq]
      refine .look fun l l' hl => .pure ?_
      rw [hl.config, hl.credentials.view]
    exact hview.bind fun r r' hr => .pure (congrArg Outcome.view hr)

namespace World

/-- The answers of a service to calls, one after the other. -/
def answers (s : Service) (w : World) : List Service.Call → List Outcome
  | [] => []
  | c :: cs => ((c.operation.program s).run (w.atCall c)).1 :: answers s (w.afterCall s c) cs

/-- The answers of a service that is started on the store, or why it cannot be
started. -/
def session (w : World) (o : Service.Options) (cs : List Service.Call) :
    Except ServiceError (List Outcome) :=
  match w.start o with
  | (.ok s, w') => .ok (w'.answers s cs)
  | (.error e, _) => .error e

variable {w w' : World}

theorem Resembles.answers (hw : w.Resembles w') (s : Service) {cs cs' : List Service.Call}
    (hcs : List.Forall₂ (fun c c' => c.operation.Resembles c'.operation) cs cs') :
    w'.answers s cs' = w.answers s cs := by
  induction hcs generalizing w w' with
  | nil => rfl
  | @cons c c' cs cs' hc _ ih =>
    have hbegin : (w.atCall c).Resembles (w'.atCall c') :=
      ⟨hw.live, hw.store, hw.outage, hw.asked, hw.drawn, hw.nonces⟩
    obtain ⟨hanswer, hafter⟩ := (hc.program s).run hbegin
    exact congrArg₂ List.cons hanswer.symm (ih hafter)

/-- A call to the store has nothing to do with the nonces. -/
theorem ask_nonces (w : World) (nonces : Nat → Except String Gcm.Nonce) (c : Store.Call) :
    ({ w with nonces } : World).ask c = ((w.ask c).1, { (w.ask c).2 with nonces }) := by
  simp only [ask]
  split <;> rfl

/-- A service is started without any nonce. -/
theorem start_nonces (w : World) (nonces : Nat → Except String Gcm.Nonce) (o : Service.Options) :
    ({ w with nonces } : World).start o = ((w.start o).1, { (w.start o).2 with nonces }) := by
  have hrun (s : Service) : s.start.run { w with nonces } =
      ((s.start.run w).1, { (s.start.run w).2 with nonces }) := by
    rw [Service.start_eq]
    -- each of the three loads may fail, and then nothing more is loaded
    simp only [Program.run_step, perform_ask, ask_nonces]
    generalize w.ask .readConfig = x
    obtain ⟨answer, w⟩ := x
    cases answer with
    | error e => rfl
    | ok config =>
      simp only [Program.run_step, perform_ask, ask_nonces]
      generalize w.ask .readCredentials = x
      obtain ⟨answer, w⟩ := x
      cases answer with
      | error e => rfl
      | ok record =>
        simp only [Program.run_step, perform_ask, ask_nonces]
        generalize w.ask .mutedUntil = x
        obtain ⟨answer, w⟩ := x
        cases answer <;> rfl
  simp only [start, hrun]
  generalize (Service.ofOptions o).start.run w = x
  obtain ⟨loaded, w'⟩ := x
  cases loaded <;> rfl

end World

/-- A world with other nonces shows the same. -/
theorem World.resembles_nonces {w : World} {nonces : Nat → Except String Gcm.Nonce}
    (h : ∀ n, SameFate (fun _ _ => True) (w.nonces n) (nonces n)) :
    w.Resembles { w with nonces } where
  live := ⟨rfl, fun _ => .refl _, rfl⟩
  store := rfl
  outage := rfl
  asked := rfl
  drawn := rfl
  nonces := h

namespace Service

/-- Two services are started on the same store with the same options. They are
given the same updates but for secrets that end in the same characters, and are
asked for the same views in between. Then they give the same answers, if drawing a
nonce fails in both for the same reason when it fails at all, and else whatever is
drawn. -/
theorem session_masked (o : Options) (w : World) {nonces : Nat → Except String Gcm.Nonce}
    (hnonces : ∀ n, SameFate (fun _ _ => True) (w.nonces n) (nonces n)) {cs cs' : List Call}
    (hcs : List.Forall₂ (fun c c' => c.operation.Resembles c'.operation) cs cs') :
    { w with nonces }.session o cs' = w.session o cs := by
  -- starting draws nothing, so the nonces are still the ones from before
  have hkept : (w.start o).2.nonces = w.nonces :=
    congrArg (fun x => x.2.nonces) (w.start_nonces w.nonces o)
  simp only [World.session, World.start_nonces]
  generalize w.start o = x at hkept
  obtain ⟨started, v⟩ := x
  cases started with
  | error e => rfl
  | ok s =>
    have hworlds : v.Resembles { v with nonces } :=
      World.resembles_nonces fun n => (congrFun hkept n).symm ▸ hnonces n
    exact congrArg Except.ok (hworlds.answers s hcs)

/-- Both secrets are given, then the token once more in an update that is refused,
and after each of the two there is a view. -/
def twoUpdates (token : String) : List Call :=
  [{ operation := .update { telegramToken := some token, gmailPassword := some "app word" }
     wall := .epoch },
   { operation := .view false, wall := .epoch },
   { operation := .update { telegramToken := some token, cooldown := some (-1) }, wall := .epoch },
   { operation := .view true, wall := .epoch }]

/-- Two tokens of different lengths with the same end are shown as the same, also
when they are sealed under different nonces. -/
theorem session_masked_twoUpdates :
    secretMask " 123:abcd " true = "****abcd" ∧ secretMask "98765:abcd" true = "****abcd" ∧
      { emptyFile with nonces := fun n => .ok (Vector.replicate 12 (UInt8.ofNat n)) }.session keyed
          (twoUpdates "98765:abcd") =
        emptyFile.session keyed (twoUpdates " 123:abcd ") := by
  have htail : SameTail " 123:abcd " "98765:abcd" := by
    constructor <;> decide +kernel
  have hupdate (cooldown : Option Int) (password : Option String) :
      Config.Update.Resembles
        { telegramToken := some " 123:abcd ", cooldown, gmailPassword := password }
        { telegramToken := some "98765:abcd", cooldown, gmailPassword := password } := by
    refine ⟨rfl, fun k => ?_⟩
    cases k with
    | telegramToken => exact .tail htail
    | gmailPassword => exact .same password
  have hcalls : List.Forall₂ (fun c c' => c.operation.Resembles c'.operation)
      (twoUpdates " 123:abcd ") (twoUpdates "98765:abcd") :=
    .cons (.update (hupdate none (some "app word"))) <| .cons (.view false) <|
      .cons (.update (hupdate (some (-1)) none)) <| .cons (.view true) .nil
  exact ⟨by decide, by decide, session_masked keyed emptyFile (fun _ => .ok trivial) hcalls⟩

end Service

end CpuAlert
