import CpuAlert.Proofs.Program.Run
import CpuAlert.Proofs.Service.Session
import CpuAlert.Proofs.Store.Keeping

/-!
# What stands in a world

Changes of the configuration and of the silence act on little: on what is in
force, on what the store keeps beside the history, and on the nonces still to be
drawn. This is how the world stands for them. Everything else may happen beside
them without any difference.

A program that holds the lock leads from one standing to another. It does so in
every world that stands the same, in one go or effect by effect, and it changes
what is in force at most once, at its end.

## Main definitions

* `InForce`, `Live.inForce` — the configuration, the credentials and the silence
* `Standing`, `World.Stands` — how a world stands
* `Program.Leads` — where a program leads that holds the lock
* `Program.Lands` — it leads to agreement
* `Effect.IsBystander` — the effects that leave everything standing

## Main results

* `Program.Leads.step` — the first effect of such a program
* `Program.Leads.run` — the whole program
* `World.Stands.begin`, `World.Stands.finish` — what bystanders leave standing
-/

namespace CpuAlert

open Store (Kept)
open Time (Instant)

/-! ## Standing -/

/-- What is in force: the configuration, the credentials with their record, and
the end of the silence. -/
structure InForce where
  config : Config
  credentials : Credentials
  record : SealedCredentials
  deadline : Option Instant

/-- What is in force in a live state. -/
def Live.inForce (l : Live) : InForce := ⟨l.config, l.credentials, l.record, l.status.mutedUntil⟩

/-- A live state with this in force. -/
def InForce.live (f : InForce) : Live where
  config := f.config
  credentials := f.credentials
  record := f.record
  status := { mutedUntil := f.deadline }

/-- What a store keeps if it agrees with what is in force. -/
def InForce.kept (c : InForce) : Kept := ⟨c.config, c.record, c.deadline⟩

/-- The view of what is in force. -/
def InForce.view (c : InForce) (s : Service) (readOnly : Bool) : View :=
  .of c.config c.credentials c.record s.secretsWritable readOnly

/-- How a world stands: what is in force, what the store keeps, and the nonces
with the number of those drawn. -/
structure Standing where
  inForce : InForce
  kept : Kept
  nonces : Nat → Except String Gcm.Nonce
  drawn : Nat

/-- The store agrees with what is in force. -/
def Standing.Agrees (c : Standing) : Prop := c.kept = c.inForce.kept

namespace World

/-- No write is refused on its way to the store. -/
def AcceptsWrites (w : World) : Prop :=
  ∀ n (c : Store.Call), c.IsWrite → w.outage n c.method = none

/-- The world stands like this, and writes reach its store. -/
structure Stands (w : World) (c : Standing) : Prop where
  inForce : w.live.inForce = c.inForce
  kept : w.store.Keeps c.kept
  nonces : w.nonces = c.nonces
  drawn : w.drawn = c.drawn
  writes : w.AcceptsWrites

/-- How a world stands whose store keeps something. -/
def standing (w : World) (kept : Kept) : Standing := ⟨w.live.inForce, kept, w.nonces, w.drawn⟩

theorem stands_standing {w : World} {kept : Kept} (hkept : w.store.Keeps kept)
    (hwrites : w.AcceptsWrites) : w.Stands (w.standing kept) :=
  ⟨rfl, hkept, rfl, rfl, hwrites⟩

variable {w : World} {c : Standing}

/-- The lock, the clocks, the cancellation of deliveries and what was sent make
no difference. -/
theorem Stands.of_eq {w' : World} (h : w.Stands c) (hinForce : w'.live.inForce = w.live.inForce)
    (hstore : w'.store = w.store) (hnonces : w'.nonces = w.nonces) (hdrawn : w'.drawn = w.drawn)
    (houtage : w'.outage = w.outage) : w'.Stands c where
  inForce := hinForce.trans h.inForce
  kept := hstore ▸ h.kept
  nonces := hnonces.trans h.nonces
  drawn := hdrawn.trans h.drawn
  writes n call hcall := houtage ▸ h.writes n call hcall

end World

/-! ## Holding the lock -/

namespace Program

variable {α : Type} {now now' : Option Instant} {p : Program α} {c c' : Standing} {r : α}

/-- Where a program leads that holds the lock: from a standing to its result and
the standing that it leaves. It may still read the clock once if `now` says what
it reads. Its writes succeed. It gives the lock back at its end, and what it puts
into force it does right before that. -/
inductive Leads : Option Instant → Program α → Standing → α → Standing → Prop
  | release (now : Option Instant) (r : α) (c : Standing) :
    Leads now (.step .release fun _ => .pure r) c r c
  | commit (now : Option Instant) (config : Config) (credentials : Credentials)
      (record : SealedCredentials) (r : α) (c : Standing) :
    Leads now (.step (.commit config credentials record) fun _ => .step .release fun _ => .pure r)
      c r { c with inForce := { c.inForce with config, credentials, record } }
  | mute (now : Option Instant) (deadline : Option Instant) (r : α) (c : Standing) :
    Leads now (.step (.mute deadline) fun _ => .step .release fun _ => .pure r) c r
      { c with inForce := { c.inForce with deadline } }
  | clock {t : Instant} {next : Instant → Program α} {c c' : Standing} {r : α}
      (h : Leads none (next t) c r c') : Leads (some t) (.step .clock next) c r c'
  | look {now : Option Instant} {next : Live → Program α} {c c' : Standing} {r : α}
      (h : ∀ l : Live, l.inForce = c.inForce → Leads now (next l) c r c') :
    Leads now (.step .look next) c r c'
  | draw {now : Option Instant} {next : Except String Gcm.Nonce → Program α} {c c' : Standing}
      {r : α} (h : Leads now (next (c.nonces c.drawn)) { c with drawn := c.drawn + 1 } r c') :
    Leads now (.step .draw next) c r c'
  | write {now : Option Instant} {call : Store.Call} {next : call.Answer → Program α}
      {c c' : Standing} {r : α} (hwrite : call.IsWrite) (husable : call.IsUsable)
      (h : ∀ reply, Leads now (next (.ok reply)) { c with kept := c.kept.after call } r c') :
    Leads now (.step (.ask call) next) c r c'

/-- The program leads to a standing in which the store agrees with what is in
force. -/
def Lands (now : Option Instant) (p : Program α) (c : Standing) : Prop :=
  ∃ r c', Leads now p c r c' ∧ c'.Agrees

/-- The first effect of such a program is done at once. It is the end of the
holding, or the program still leads to the same standing, from one that has the
same in force as before or as in the end. -/
theorem Leads.step {e : Effect} {next : e.Reply → Program α} {w : World}
    (h : Leads now (.step e next) c r c') (hw : w.Stands c)
    (hclock : ∀ t, now = some t → e = .clock → w.wall = t) :
    ∃ reply w', w.begin e = (.done reply, w') ∧ e.isAcquire = false ∧ w'.wall = w.wall ∧
      ((next reply = .pure r ∧ w'.Stands c' ∧ c = c' ∧ w'.locked = false ∧
          e.reading? reply = none) ∨
        ∃ now' d, Leads now' (next reply) d r c' ∧ w'.Stands d ∧ w'.locked = w.locked ∧
          (d.inForce = c.inForce ∨ d.inForce = c'.inForce) ∧
          (now' = now ∧ e.reading? reply = none ∨ now' = none ∧ now.isSome)) := by
  cases h with
  | release =>
    exact ⟨(), _, rfl, rfl, rfl, .inl ⟨rfl, hw.of_eq rfl rfl rfl rfl rfl, rfl, rfl, rfl⟩⟩
  | commit now config credentials record =>
    have hinForce : (w.live.commit config credentials record).inForce =
        { c.inForce with config, credentials, record } :=
      congrArg (fun f : InForce => { f with config, credentials, record }) hw.inForce
    exact ⟨(), _, rfl, rfl, rfl, .inr ⟨now, _, .release _ _ _,
      ⟨hinForce, hw.kept, hw.nonces, hw.drawn, hw.writes⟩, rfl, .inr rfl, .inl ⟨rfl, rfl⟩⟩⟩
  | mute now deadline =>
    have hinForce : (w.live.mute deadline).inForce = { c.inForce with deadline } :=
      congrArg (fun f : InForce => { f with deadline }) hw.inForce
    exact ⟨(), _, rfl, rfl, rfl, .inr ⟨now, _, .release _ _ _,
      ⟨hinForce, hw.kept, hw.nonces, hw.drawn, hw.writes⟩, rfl, .inr rfl, .inl ⟨rfl, rfl⟩⟩⟩
  | @clock t next c c' r h =>
    have hwall : w.wall = t := hclock t rfl rfl
    exact ⟨w.wall, w, rfl, rfl, rfl,
      .inr ⟨none, c, hwall ▸ h, hw, rfl, .inl rfl, .inr ⟨rfl, rfl⟩⟩⟩
  | look h =>
    exact ⟨w.live, w, rfl, rfl, rfl,
      .inr ⟨now, c, h w.live hw.inForce, hw, rfl, .inl rfl, .inl ⟨rfl, rfl⟩⟩⟩
  | draw h =>
    have hreply : w.nonces w.drawn = c.nonces c.drawn := by rw [hw.nonces, hw.drawn]
    refine ⟨w.nonces w.drawn, _, rfl, rfl, rfl,
      .inr ⟨now, { c with drawn := c.drawn + 1 }, hreply ▸ h, ?_, rfl, .inl rfl,
        .inl ⟨rfl, rfl⟩⟩⟩
    exact ⟨hw.inForce, hw.kept, hw.nonces, congrArg (· + 1) hw.drawn, hw.writes⟩
  | @write now call next c c' r hwrite husable h =>
    -- the store can keep the value, and nothing is refused on the way
    obtain ⟨reply, hok⟩ := World.ask_write_ok hw.kept hwrite husable (hw.writes _ _ hwrite)
    have hclose : call ≠ .close := by rintro rfl; exact hwrite
    have hkept := World.ask_keeps hw.kept hclose
    rw [hok] at hkept
    have hframe := w.ask_snd call
    refine ⟨(w.ask call).1, (w.ask call).2, rfl, rfl, ?_,
      .inr ⟨now, { c with kept := c.kept.after call }, ?_, ?_, ?_, .inl rfl, .inl ⟨rfl, rfl⟩⟩⟩
    · rw [hframe]
    · rw [hok]
      exact h reply
    · rw [hframe] at hkept ⊢
      exact ⟨hw.inForce, hkept, hw.nonces, hw.drawn, hw.writes⟩
    · rw [hframe]

/-- In every world that stands right, the program has the same result and leaves
the same standing, with the lock given back. -/
theorem Leads.run {w : World} (h : Leads now p c r c') (hw : w.Stands c)
    (hnow : ∀ t, now = some t → w.wall = t) :
    (p.run w).1 = r ∧ (p.run w).2.Stands c' ∧ (p.run w).2.locked = false := by
  -- effect by effect; each leads on from the standing that it leaves
  induction p generalizing now w c with
  | pure a => cases h
  | step e next ih =>
    obtain ⟨reply, w', hbegin, -, hwall, hstep⟩ := h.step hw fun t ht _ => hnow t ht
    have hperform : w.perform e = (reply, w') := by rw [World.perform, hbegin]
    rw [run_step, hperform]
    rcases hstep with ⟨hdone, hw', -, hfree, -⟩ | ⟨now', d, hleads, hw', -, -, hclock⟩
    · rw [hdone]
      exact ⟨rfl, hw', hfree⟩
    · refine ih reply hleads hw' fun t ht => ?_
      rcases hclock with ⟨rfl, -⟩ | ⟨rfl, -⟩
      · exact hwall.trans (hnow t ht)
      · cases ht

/-- A program that takes the lock first leads where it leads with the lock. -/
theorem Leads.run_acquire {body : Program α} {t : Instant} {w : World}
    (h : Leads (some t) body c r c') (hp : p = .step .acquire fun _ => body) (hw : w.Stands c) :
    (p.run { w with wall := t }).1 = r ∧ (p.run { w with wall := t }).2.Stands c' := by
  rw [hp, run_step]
  obtain ⟨hresult, hstands, -⟩ := h.run (w := { w with wall := t, locked := true })
    (hw.of_eq rfl rfl rfl rfl rfl) fun x hx => Option.some.inj hx
  exact ⟨hresult, hstands⟩

/-! ## Landing in agreement -/

theorem Lands.release (r : α) (hc : c.Agrees) :
    Lands now (.step .release fun _ => .pure r) c :=
  ⟨r, c, .release now r c, hc⟩

theorem Lands.commit {config : Config} {credentials : Credentials} {record : SealedCredentials}
    (r : α) (hkept : c.kept = ⟨config, record, c.inForce.deadline⟩) :
    Lands now (.step (.commit config credentials record) fun _ => .step .release fun _ => .pure r)
      c :=
  ⟨r, _, .commit now config credentials record r c, hkept⟩

/-- A program that looks and goes on by what is in force alone. -/
theorem Lands.look {next : Live → Program α}
    (hnext : ∀ l l' : Live, l.inForce = l'.inForce → next l = next l')
    (h : ∀ l : Live, l.inForce = c.inForce → Lands now (next l) c) :
    Lands now (.step .look next) c := by
  obtain ⟨r, c', hleads, hagrees⟩ := h c.inForce.live rfl
  exact ⟨r, c', .look fun l hl => hnext l c.inForce.live hl ▸ hleads, hagrees⟩

theorem Lands.write {call : Store.Call} {next : call.Answer → Program α} (hwrite : call.IsWrite)
    (husable : call.IsUsable) (hunit : Subsingleton call.Reply) (reply : call.Reply)
    (h : Lands now (next (.ok reply)) { c with kept := c.kept.after call }) :
    Lands now (.step (.ask call) next) c := by
  obtain ⟨r, c', hleads, hagrees⟩ := h
  refine ⟨r, c', .write hwrite husable fun reply' => ?_, hagrees⟩
  exact Subsingleton.elim reply reply' ▸ hleads

/-- A program that only draws nonces leads on to what comes after it. -/
theorem Lands.draws {good : α → Prop} {β : Type} {f : α → Program β}
    (hp : p.Meets (· = .draw) (fun _ _ => True) good)
    (hf : ∀ a n, good a → Lands now (f a) { c with drawn := n }) : Lands now (p.bind f) c := by
  induction p generalizing c with
  | pure a => exact hf a c.drawn hp
  | step e next ih =>
    obtain ⟨rfl, hnext⟩ := hp
    obtain ⟨r, c', hleads, hagrees⟩ :=
      ih (c.nonces c.drawn) (c := { c with drawn := c.drawn + 1 }) (hnext _ trivial) hf
    exact ⟨r, c', .draw hleads, hagrees⟩

end Program

/-! ## Bystanders -/

/-- The effects that leave everything standing. -/
def Effect.IsBystander : Effect → Prop
  | .look | .evaluate _ | .clock | .claimCleanup _ | .endCleanup | .send _ _ _ | .pause _
  | .isCancelled => True
  | .ask call => ¬ call.IsWrite ∧ call ≠ .close
  | .acquire | .release | .commit _ _ _ | .mute _ | .draw => False

namespace World

variable {w : World} {c : Standing}

/-- A change of the world that leaves everything standing. -/
def Spares (w w' : World) : Prop :=
  (∀ c, w.Stands c → w'.Stands c) ∧ w'.locked = w.locked

theorem spares_of_eq {w' : World} (hinForce : w'.live.inForce = w.live.inForce)
    (hstore : w'.store = w.store) (hnonces : w'.nonces = w.nonces) (hdrawn : w'.drawn = w.drawn)
    (houtage : w'.outage = w.outage) (hlocked : w'.locked = w.locked) : w.Spares w' :=
  ⟨fun _ h => h.of_eq hinForce hstore hnonces hdrawn houtage, hlocked⟩

theorem Spares.refl (w : World) : w.Spares w := ⟨fun _ h => h, rfl⟩

theorem Spares.trans {w' w'' : World} (h : w.Spares w') (h' : w'.Spares w'') : w.Spares w'' :=
  ⟨fun c hc => h'.1 c (h.1 c hc), h'.2.trans h.2⟩

theorem spares_fire (w : World) : w.Spares w.fire := spares_of_eq rfl rfl rfl rfl rfl rfl

theorem spares_finishSend (a : Attempt) (w : World) : w.Spares (finishSend a w).2 := by
  unfold finishSend
  split
  · exact spares_fire w
  · exact spares_of_eq rfl rfl rfl rfl rfl rfl

/-- A call that is no write leaves everything standing. -/
theorem spares_ask (w : World) {call : Store.Call} (hwrite : ¬ call.IsWrite)
    (hclose : call ≠ .close) : w.Spares (w.ask call).2 := by
  refine ⟨fun c hc => ?_, by rw [ask_snd]⟩
  have hkept := ask_keeps hc.kept hclose
  rw [Store.Kept.answered_of_not_isWrite _ hwrite] at hkept
  rw [ask_snd] at hkept ⊢
  exact ⟨hc.inForce, hkept, hc.nonces, hc.drawn, hc.writes⟩

/-- An effect that begins like this leaves everything standing, and will do so
when it ends. -/
def IsSparedBy {ρ : Type} (w : World) (x : Progress ρ × World) : Prop :=
  w.Spares x.2 ∧
    match x.1 with
    | .done _ => True
    | .waiting _ finish _ => ∀ v : World, v.Spares (finish v).2

theorem isSparedBy_wait {ρ : Type} {w' : World} (hw' : w.Spares w') (milliseconds : Nat)
    {finish : World → ρ × World} (cancelled : ρ) (hfinish : ∀ v : World, v.Spares (finish v).2) :
    w.IsSparedBy (w'.wait milliseconds finish cancelled) :=
  ⟨hw'.trans (spares_of_eq rfl rfl rfl rfl rfl rfl), hfinish⟩

/-- A bystander's effect leaves everything standing. -/
theorem isSparedBy_begin (w : World) {e : Effect} (he : e.IsBystander) :
    w.IsSparedBy (w.begin e) := by
  have hsame : w.Spares w := .refl w
  cases e with
  | look | clock | isCancelled => exact ⟨hsame, trivial⟩
  | ask call => exact ⟨w.spares_ask he.1 he.2, trivial⟩
  | evaluate | endCleanup => exact ⟨spares_of_eq rfl rfl rfl rfl rfl rfl, trivial⟩
  | claimCleanup interval =>
    simp only [begin]
    split
    · exact ⟨spares_of_eq rfl rfl rfl rfl rfl rfl, trivial⟩
    · exact ⟨hsame, trivial⟩
  | send place channel notice =>
    have hsent : w.Spares { w with sent := ⟨place, channel.name, notice, w.uptime⟩ :: w.sent } :=
      spares_of_eq rfl rfl rfl rfl rfl rfl
    simp only [begin]
    split
    · exact ⟨hsame, trivial⟩
    · split
      · exact ⟨hsent.trans (spares_finishSend _ _), trivial⟩
      · exact isSparedBy_wait hsent _ _ (spares_finishSend _)
  | pause milliseconds =>
    simp only [begin]
    split
    · exact ⟨hsame, trivial⟩
    · split
      · exact ⟨hsame, trivial⟩
      · exact isSparedBy_wait hsame _ _ fun v => spares_of_eq rfl rfl rfl rfl rfl rfl
  | acquire | release | commit | mute | draw => exact he.elim

end World

end CpuAlert
