import CpuAlert.Proofs.Service.Recording

/-!
# Playing by rules

Much of what is true of a watch at any time is kept by everybody in the same way:
each effect that is allowed keeps it, and as long as it is true, what is replied is
as expected, so that the programs go on with effects that are allowed. Whatever
waits, waits for something that has nothing to do with it. It is enough to say what
effects do to the live state and to the store, and that every program obeys.

## Main definitions

* `World.Acts` — an effect that leaves the store alone
* `Effect.LeavesOpen` — an effect that does not close it
* `Rules` — what is kept, by which effects, with which replies
* `Rules.Hold` — effects that are allowed keep it
* `Rules.Governs` — a session in which everybody obeys

## Main results

* `World.acts_of_begin_done`, `World.acts_of_begin_waiting` — what effects do beside those
  on the store
* `Rules.serve_of_bystanders` — who has to obey
* `Rules.Governs.steps` — every step goes by the rules
* `Rules.Governs.play` — and so does a watch
-/

namespace CpuAlert

open Time (Instant)

/-! ## Effects beside those on the store -/

/-- The lock after an effect: it is held or not. -/
def Effect.lock : Effect → Bool → Bool
  | .acquire, _ => true
  | .release, _ => false
  | .look, held | .ask _, held | .commit _ _ _, held | .mute _, held | .evaluate _, held
  | .clock, held | .draw, held | .claimCleanup _, held | .endCleanup, held | .send _ _ _, held
  | .pause _, held | .isCancelled, held => held

/-- An effect other than a call leaves the store alone. What it does to the live
state, and what it replies of it, are as in a replay. -/
structure World.Acts (w : World) (e : Effect) (reply : e.Reply) (w' : World) : Prop where
  beside : ∀ c, e ≠ .ask c
  live : w'.live = w.live.after e
  expects : w.live.Expects e reply
  store : w'.store = w.store
  outage : w'.outage = w.outage
  locked : w'.locked = e.lock w.locked

/-- Two worlds have the same live state, the same store and the same lock. -/
structure World.IsBeside (w w' : World) : Prop where
  live : w'.live = w.live
  store : w'.store = w.store
  outage : w'.outage = w.outage
  locked : w'.locked = w.locked

namespace World

/-- The store and what reaches it are left alone, and the lock is as it is after the
effect. -/
def KeepsFile (e : Effect) (w w' : World) : Prop :=
  w'.store = w.store ∧ w'.outage = w.outage ∧ w'.locked = e.lock w.locked

theorem keepsFile_finishSend {e : Effect} (he : ∀ held, e.lock held = held) (a : Attempt)
    (w : World) : w.KeepsFile e (finishSend a w).2 := by
  unfold finishSend
  split <;> exact ⟨rfl, rfl, (he _).symm⟩

/-- Only calls act on the store. -/
theorem keepsFile_begin (w : World) {e : Effect} (he : ∀ c, e ≠ .ask c) :
    w.BeginsBy (KeepsFile e) (w.begin e) := by
  cases e with
  | ask c => exact absurd rfl (he c)
  | claimCleanup interval =>
    simp only [begin]
    split <;> exact ⟨⟨rfl, rfl, rfl⟩, trivial⟩
  | send place channel notice =>
    simp only [begin]
    split
    · exact ⟨⟨rfl, rfl, rfl⟩, trivial⟩
    · split
      · exact ⟨keepsFile_finishSend (fun _ => rfl) _ _, trivial⟩
      · exact ⟨⟨rfl, rfl, rfl⟩, keepsFile_finishSend (fun _ => rfl) _⟩
  | pause milliseconds =>
    simp only [begin]
    split
    · exact ⟨⟨rfl, rfl, rfl⟩, trivial⟩
    · split
      · exact ⟨⟨rfl, rfl, rfl⟩, trivial⟩
      · exact ⟨⟨rfl, rfl, rfl⟩, fun _ => ⟨rfl, rfl, rfl⟩⟩
  | _ => exact ⟨⟨rfl, rfl, rfl⟩, trivial⟩

variable {w w' : World} {e : Effect}

/-- An effect that is done at once has done what it does. -/
theorem acts_of_begin_done {reply : e.Reply} (he : ∀ c, e ≠ .ask c)
    (hbegin : w.begin e = (.done reply, w')) : w.Acts e reply w' := by
  have happlies := w.applies_begin e
  have hkeeps := w.keepsFile_begin he
  rw [hbegin] at happlies hkeeps
  obtain ⟨hstore, houtage, hlocked⟩ := hkeeps.1
  exact ⟨he, happlies.1, happlies.2, hstore, houtage, hlocked⟩

/-- An effect that is waited for does nothing until it ends, and whether it ends or
is cancelled, it does nothing beside its reply. -/
theorem acts_of_begin_waiting {end_ : Nat} {finish : World → e.Reply × World} {cancelled : e.Reply}
    (hbegin : w.begin e = (.waiting end_ finish cancelled, w')) :
    w.IsBeside w' ∧ ∀ v : World, v.Acts e (finish v).1 (finish v).2 ∧ v.Acts e cancelled v := by
  have he : ∀ c, e ≠ .ask c := by
    rintro c rfl
    cases hbegin
  have hlock (held : Bool) : e.lock held = held := by
    cases e with
    | acquire | release => cases hbegin
    | _ => rfl
  have happlies := w.applies_begin e
  have hkeeps := w.keepsFile_begin he
  rw [hbegin] at happlies hkeeps
  obtain ⟨hlive, haside, hfinish⟩ := happlies
  obtain ⟨⟨hstore, houtage, hlocked⟩, hends⟩ := hkeeps
  refine ⟨⟨hlive, hstore, houtage, hlocked.trans (hlock _)⟩, fun v => ⟨?_, ?_⟩⟩
  · obtain ⟨hstore, houtage, hlocked⟩ := hends v
    exact ⟨he, (hfinish v).trans (haside v.live).1.symm, (haside v.live).2 _, hstore, houtage,
      hlocked⟩
  · exact ⟨he, (haside v.live).1.symm, (haside v.live).2 _, rfl, rfl, (hlock _).symm⟩

end World

/-! ## Stores that are not closed -/

namespace Effect

/-- The effect does not close the store. -/
def LeavesOpen : Effect → Prop
  | .ask c => c ≠ .close
  | .acquire | .release | .look | .commit _ _ _ | .mute _ | .evaluate _ | .clock | .draw
  | .claimCleanup _ | .endCleanup | .send _ _ _ | .pause _ | .isCancelled => True

theorem IsBystander.leavesOpen {e : Effect} (h : e.IsBystander) : e.LeavesOpen := by
  cases e with
  | ask c => exact h.2
  | _ => trivial

theorem allowsMutation_leavesOpen : AllowsMutation LeavesOpen where
  acquire := trivial
  release := trivial
  look := trivial
  clock := trivial
  draw := trivial
  commit _ _ _ := trivial
  mute _ := trivial
  write c hc := by
    rintro rfl
    exact hc

end Effect

/-! ## Rules -/

/-- What is to be kept of a world and its past, which effects are allowed, and
which replies are expected. -/
structure Rules (κ : Type) where
  fine : List (Happening κ) → World → Prop
  allowed : Effect → Prop
  expected : (e : Effect) → e.Reply → Prop

namespace Rules

variable {κ α β : Type} {g : Rules κ}

/-- The effects that are allowed keep what is to be kept, and the replies are as
expected. Nothing else in the world matters. -/
structure Hold (g : Rules κ) : Prop where
  beside : ∀ {hs w w'}, g.fine hs w → w.IsBeside w' → g.fine hs w'
  acts : ∀ {hs w w' e reply} (i : κ), g.fine hs w → g.allowed e → w.Acts e reply w' →
    g.expected e reply ∧ g.fine (hs ++ [⟨i, e, reply⟩]) w'
  asks : ∀ {hs w c} (i : κ), g.fine hs w → g.allowed (.ask c) →
    g.expected (.ask c) (w.ask c).1 ∧ g.fine (hs ++ [⟨i, .ask c, (w.ask c).1⟩]) (w.ask c).2

/-- The effects of a program are allowed as long as the replies are expected. -/
abbrev Obeys (g : Rules κ) (p : Program α) : Prop :=
  p.Meets g.allowed g.expected fun _ => True

/-- What is left to somebody obeys, and what is waited for has nothing to do with
the store. -/
def Runs (g : Rules κ) : Running α → Prop
  | .ready p => g.Obeys p
  | .waiting e finish cancelled next => g.Obeys (.step e next) ∧
    ∀ v : World, v.Acts e (finish v).1 (finish v).2 ∧ v.Acts e cancelled v

/-- Everybody obeys, and what is to be kept has been kept. -/
structure Governs (g : Rules κ) (t : Session κ α) : Prop where
  fine : g.fine t.past t.world
  runs : ∀ i, g.Runs (t.running i)

variable [DecidableEq κ] {t t' : Session κ α}

/-- The next effect of somebody keeps what is to be kept. -/
theorem Governs.record (h : g.Governs t) {i : κ} {e : Effect} {reply : e.Reply}
    {next : e.Reply → Program α} {w : World} (hp : g.Obeys (.step e next))
    (hnext : g.expected e reply ∧ g.fine (t.past ++ [⟨i, e, reply⟩]) w) :
    g.Governs (t.record i e reply next w) := by
  refine ⟨hnext.2, fun j => ?_⟩
  by_cases hj : j = i
  · subst hj
    rw [Session.running_record_self]
    exact hp.2 reply hnext.1
  · rw [Session.running_record_of_ne hj]
    exact h.runs j

/-- Every step goes by the rules. -/
theorem Governs.steps (hg : g.Hold) (h : g.Governs t) (hstep : t.Steps t') : g.Governs t' := by
  cases hstep with
  | done i e next reply w hready hfree hbegin =>
    have hruns := h.runs i
    rw [hready] at hruns
    refine h.record hruns ?_
    -- only a call acts on the store
    by_cases he : ∃ c, e = .ask c
    · obtain ⟨c, rfl⟩ := he
      cases hbegin
      exact hg.asks i h.fine hruns.1
    · exact hg.acts i h.fine hruns.1 (World.acts_of_begin_done (not_exists.mp he) hbegin)
  | wait i e next end_ finish cancelled w hready hfree hbegin =>
    have hruns := h.runs i
    rw [hready] at hruns
    obtain ⟨hbeside, hacts⟩ := World.acts_of_begin_waiting hbegin
    refine ⟨hg.beside h.fine hbeside, fun j => ?_⟩
    by_cases hj : j = i
    · subst hj
      simp only [Function.update_self]
      exact ⟨hruns, hacts⟩
    · simp only [Function.update_of_ne hj]
      exact h.runs j
  | finish i e finish cancelled next hwaiting =>
    have hruns := h.runs i
    rw [hwaiting] at hruns
    exact h.record hruns.1 (hg.acts i h.fine hruns.1.1 (hruns.2 t.world).1)
  | cut i e finish cancelled next hwaiting =>
    have hruns := h.runs i
    rw [hwaiting] at hruns
    exact h.record hruns.1 (hg.acts i h.fine hruns.1.1 (hruns.2 t.world).2)
  | turn wall uptime => exact ⟨hg.beside h.fine ⟨rfl, rfl, rfl, rfl⟩, h.runs⟩
  | cancel => exact ⟨hg.beside h.fine ⟨rfl, rfl, rfl, rfl⟩, h.runs⟩

/-! ## Watches -/

variable {ι : Type} {s : Service} {operations : ι → Operation} {r : Rules (Actor ι)}
  {u u' : Watch ι}

/-- In a watch, the loop may evaluate, and whatever it begins obeys. -/
structure Serve (r : Rules (Actor ι)) (s : Service) (operations : ι → Operation) : Prop where
  calls : ∀ i, r.Obeys ((operations i).program s)
  evaluates : ∀ snapshot, r.allowed (.evaluate snapshot)
  delivers : ∀ p, r.Obeys (s.deliver p)
  sweeps : r.Obeys s.cleanup

/-- If bystanders are free to do what they do, it is enough that mutations obey. -/
theorem serve_of_bystanders (hfree : ∀ e, Effect.IsBystander e → r.allowed e)
    (hmutations : ∀ i, (operations i).IsMutation → r.Obeys ((operations i).program s)) :
    r.Serve s operations := by
  have hobeys {α : Type} {p : Program α} (hp : p.Uses Effect.IsBystander) : r.Obeys p :=
    hp.expecting.mono hfree fun _ => id
  refine ⟨fun i => ?_, fun snapshot => hfree _ trivial, fun p => ?_, ?_⟩
  · by_cases hop : (operations i).IsMutation
    · exact hmutations i hop
    · exact hobeys (Operation.program_uses s hop)
  · exact hobeys (Service.deliver_uses Effect.allowsDelivery_isBystander fun _ _ => trivial)
  · exact hobeys (Service.cleanup_uses (fun _ => trivial) trivial trivial fun _ => ⟨id, nofun⟩)

/-- Everybody is about to begin. -/
theorem Serve.start (hs : r.Serve s operations) {w : World} (hw : r.fine [] w) :
    r.Governs (Watch.start s operations w).toSession := by
  refine ⟨hw, fun a => ?_⟩
  cases a with
  | caller i => exact (hs.calls i).bind fun _ _ => trivial
  | loop => exact trivial
  | delivery n => exact trivial

/-- A watch goes by the rules. -/
theorem Governs.play [DecidableEq ι] (hr : r.Hold) (hs : r.Serve s operations) {ms : List (Move ι)}
    (h : r.Governs u.toSession) (hplay : u.play s ms = some u') : r.Governs u'.toSession := by
  have hdeliver (p : Option Pending) : r.Obeys (Watch.delivering s p) := by
    cases p with
    | none => exact trivial
    | some p => exact (hs.delivers p).bind fun _ _ => trivial
  refine Watch.play_induction (s := s) (fun u => r.Governs u.toSession) (fun h hstep => ?_)
    (fun {u} snapshot h => ?_) (fun {u} h => ?_) h hplay
  · exact h.steps hr hstep
  · have hacts : u.world.Acts (.evaluate snapshot) (u.world.live.evaluate snapshot).1
        { u.world with live := (u.world.live.evaluate snapshot).2 } :=
      World.acts_of_begin_done (by rintro c ⟨⟩) rfl
    refine ⟨(hr.acts .loop h.fine (hs.evaluates snapshot) hacts).2, fun a => ?_⟩
    cases a with
    | caller i => exact h.runs (.caller i)
    | loop => exact h.runs .loop
    | delivery n =>
      -- what had begun goes on, and what begins now is a delivery
      by_cases hn : n < u.begun.length
      · have hrunning : (u.took s snapshot).running (.delivery n) = u.running (.delivery n) :=
          if_pos hn
        rw [hrunning]
        exact h.runs (.delivery n)
      · have hrunning : (u.took s snapshot).running (.delivery n) =
            .ready (Watch.delivering s (u.took s snapshot).begun[n]?) := if_neg hn
        rw [hrunning]
        exact hdeliver _
  · refine ⟨h.fine, fun a => ?_⟩
    show r.Runs ((u.swept s).running a)
    rw [Watch.running_swept]
    by_cases ha : a = .loop
    · subst ha
      rw [Function.update_self]
      exact hs.sweeps.bind fun _ _ => trivial
    · rw [Function.update_of_ne ha]
      exact h.runs a

end Rules

end CpuAlert
