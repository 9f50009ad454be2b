import CpuAlert.Proofs.Delivery.Course

/-!
# The cancellation of a delivery

The cancellation of deliveries may fire at any moment: before a delivery begins,
at a time planned beforehand while an attempt or a pause is under way or right
at its end, out of an attempt, or by somebody else between any two steps of the
delivery. From then on the delivery does not act on the world any more: nothing
is sent and no time passes.

What it returns is judged by the delivery that is never cancelled, in the same
world. A channel that fires the cancellation there does not fire it; if it was
itself cut short by that, it may go on in any way. The results are the same up
to the channel in which the delivery was cut short, and that channel either
still has the same result or says that it was cancelled.

## Main definitions

* `Program.Passes` — a point that a program comes to, beside others who may cancel
* `Attempt.Steadies`, `Channel.Steadies` — the same without firing the cancellation
* `World.calmed` — the world without a cancellation
* `Delivery.IsCutShort` — results beside those without a cancellation
* `World.OnTime` — a planned cancellation is waited for, or has come
* `Delivery.HeedsCancellation` — what a cancellation does to a delivery

## Main results

* `World.perform_snd_of_isCancelled` — after a cancellation nothing happens
* `Delivery.tries_cut`, `Delivery.through_cut` — how far results are the same
* `Delivery.notify_heedsCancellation` — the law of cancellation
-/

namespace CpuAlert

/-! ## Programs beside a cancellation -/

/-- Meanwhile somebody else may have cancelled deliveries. -/
def World.Meanwhile (w w' : World) : Prop := w' = w ∨ w' = w.fire

/-- The points that a program comes to: what is left of it, and the world there.
Before every effect and at the end somebody else may cancel deliveries. -/
inductive Program.Passes {α : Type} : Program α → World → Program α → World → Prop
  | here (p : Program α) {w w' : World} (h : w.Meanwhile w') : Passes p w p w'
  | step {e : Effect} {next : e.Reply → Program α} {w w' v : World} {q : Program α}
      (h : w.Meanwhile w') (hrest : Passes (next (w'.perform e).1) (w'.perform e).2 q v) :
      Passes (.step e next) w q v

namespace Program

variable {α β : Type} {p q : Program α} {w v : World}

/-- A program on its own comes to its end. -/
theorem passes_run (p : Program α) (w : World) : p.Passes w (.pure (p.run w).1) (p.run w).2 := by
  induction p generalizing w with
  | pure a => exact .here _ (.inl rfl)
  | step e next ih => exact .step (.inl rfl) (ih _ _)

theorem passes_pure {a b : α} (h : (pure a).Passes w (.pure b) v) : b = a ∧ w.Meanwhile v := by
  cases h with
  | here _ h => exact ⟨rfl, h⟩

theorem passes_step {e : Effect} {next : e.Reply → Program α} {a : α}
    (h : (step e next).Passes w (.pure a) v) :
    ∃ w', w.Meanwhile w' ∧ (next (w'.perform e).1).Passes (w'.perform e).2 (.pure a) v := by
  cases h with
  | step h hrest => exact ⟨_, h, hrest⟩

/-- Whoever comes to the end of two programs has come to the end of the first. -/
theorem passes_bind {f : α → Program β} {b : β} (h : (p.bind f).Passes w (.pure b) v) :
    ∃ a u, p.Passes w (.pure a) u ∧ (f a).Passes u (.pure b) v := by
  induction p generalizing w with
  | pure a => exact ⟨a, w, .here _ (.inl rfl), h⟩
  | step e next ih =>
    obtain ⟨w', hw', hrest⟩ := passes_step h
    obtain ⟨a, u, hfirst, hsecond⟩ := ih _ hrest
    exact ⟨a, u, .step hw' hfirst, hsecond⟩

/-- What is left of a program has no other effects. -/
theorem Passes.uses {allowed : Effect → Prop} (h : p.Passes w q v) (hp : p.Uses allowed) :
    q.Uses allowed := by
  induction h with
  | here => exact hp
  | step _ _ ih => exact ih (hp.2 _ trivial)

/-- What effects and a cancellation keep, a program keeps. -/
theorem Passes.keeps {allowed : Effect → Prop} {fine : World → Prop} (h : p.Passes w q v)
    (hp : p.Uses allowed) (hfire : ∀ w, fine w → fine w.fire)
    (hkeep : ∀ w e, fine w → allowed e → fine (w.perform e).2) (hw : fine w) : fine v := by
  have hmeanwhile : ∀ {w w' : World}, w.Meanwhile w' → fine w → fine w' := by
    rintro w w' (rfl | rfl) hw
    · exact hw
    · exact hfire w hw
  induction h with
  | here _ h => exact hmeanwhile h hw
  | step h _ ih => exact ih (hp.2 _ trivial) (hkeep _ _ (hmeanwhile h hw) hp.1)

end Program

/-! ## After a cancellation -/

/-- What a delivery does until it is recorded: ask channels to send, wait, and
ask for a cancellation. -/
def Effect.IsAttempt : Effect → Prop
  | .send _ _ _ | .pause _ | .isCancelled => True
  | .acquire | .release | .look | .ask _ | .commit _ _ _ | .mute _ | .evaluate _ | .clock | .draw
  | .claimCleanup _ | .endCleanup => False

theorem Effect.allowsAttempts_isAttempt : AllowsAttempts IsAttempt := ⟨fun _ => trivial, trivial⟩

namespace World

variable {w v : World}

theorem fire_of_isCancelled (h : w.isCancelled = true) : w.fire = w := by
  rw [fire, ← h]

theorem Meanwhile.eq_of_isCancelled (hwv : w.Meanwhile v) (h : w.isCancelled = true) : v = w :=
  hwv.elim id fun hv => hv.trans (fire_of_isCancelled h)

theorem perform_send_of_isCancelled (h : w.isCancelled = true) (place : Nat) (channel : Channel)
    (o : Notice) : w.perform (.send place channel o) = (.error .cancelled, w) := by
  simp only [perform, begin, h, if_true]

theorem perform_pause_of_isCancelled (h : w.isCancelled = true) (milliseconds : Nat) :
    w.perform (.pause milliseconds) = (true, w) := by
  simp only [perform, begin, h, if_true]

/-- After a cancellation, what a delivery does has no effect. -/
theorem perform_snd_of_isCancelled (h : w.isCancelled = true) {e : Effect} (he : e.IsAttempt) :
    (w.perform e).2 = w := by
  cases e with
  | send place channel o => rw [perform_send_of_isCancelled h]
  | pause milliseconds => rw [perform_pause_of_isCancelled h]
  | isCancelled => rfl
  | _ => exact he.elim

end World

/-- After a cancellation the world stands still, and a delivery comes to its end
as on its own. -/
theorem Program.Passes.eq_of_isCancelled {α : Type} {p : Program α} {w v : World} {a : α}
    (h : p.Passes w (.pure a) v) (hp : p.Uses Effect.IsAttempt) (hw : w.isCancelled = true) :
    v = w ∧ p.run w = (a, w) := by
  induction p generalizing w with
  | pure b =>
    obtain ⟨rfl, hv⟩ := passes_pure h
    exact ⟨hv.eq_of_isCancelled hw, rfl⟩
  | step e next ih =>
    obtain ⟨w', hw', hrest⟩ := passes_step h
    rw [hw'.eq_of_isCancelled hw] at hrest
    have hsame := World.perform_snd_of_isCancelled hw hp.1
    rw [hsame] at hrest
    obtain ⟨hv, hrun⟩ := ih _ hrest (hp.2 _ trivial) hw
    refine ⟨hv, ?_⟩
    rw [run_step, hsame, hrun]

/-! ## Without a cancellation -/

/-- The attempt as it goes without firing the cancellation. If it was cut short
by its own cancellation, nothing is known of how it would go on. -/
structure Attempt.Steadies (a' a : Attempt) : Prop where
  fires : a'.fires = false
  eq_of_not_cut : a.fires = false ∨ a.outcome ≠ .error .cancelled →
    a' = { a with fires := false }

/-- The channel as it is without firing the cancellation. -/
structure Channel.Steadies (c' c : Channel) : Prop where
  name : c'.name = c.name
  isEnabled : c'.isEnabled = c.isEnabled
  attempt : ∀ past o, (c'.attempt past o).Steadies (c.attempt past o)

/-- The channel that does the same, but never fires the cancellation. -/
def Channel.unfired (c : Channel) : Channel :=
  { c with attempt := fun past o => { c.attempt past o with fires := false } }

theorem Channel.steadies_unfired (c : Channel) : c.unfired.Steadies c :=
  ⟨rfl, rfl, fun _ _ => ⟨rfl, fun _ => rfl⟩⟩

namespace World

/-- The world without a cancellation, neither now nor planned. -/
def calmed (w : World) : World := { w with isCancelled := false, planned := none }

variable {w v : World}

theorem isCalm_calmed (w : World) : w.calmed.IsCalm := ⟨rfl, rfl⟩

theorem Meanwhile.calmed_eq (h : w.Meanwhile v) : v.calmed = w.calmed := by
  rcases h with rfl | rfl <;> rfl

/-- The end of an attempt, but for the cancellation. -/
theorem calmed_finishSend (a : Attempt) (w : World) : (finishSend a w).2.calmed = w.calmed := by
  simp only [finishSend]
  split <;> rfl

/-- A wait, with nothing else going on. -/
def await {ρ : Type} (w : World) (milliseconds : Nat) (finish : World → ρ × World)
    (cancelled : ρ) : ρ × World :=
  let end_ := w.uptime + min milliseconds longestWait
  match w.planned.filter (·.precedes (w.waits + 1) end_) with
  | some c => (cancelled,
      { w with waits := w.waits + 1, uptime := max w.uptime c.time, planned := none }.fire)
  | none => finish { w with waits := w.waits + 1, uptime := end_ }

/-- A channel begins to send. -/
def sending (w : World) (place : Nat) (name : String) (o : Notice) : World :=
  { w with sent := ⟨place, name, o, w.uptime⟩ :: w.sent }

/-- What an attempt does, unless deliveries are cancelled. -/
theorem perform_send_eq (h : w.isCancelled = false) (place : Nat) (channel : Channel)
    (o : Notice) :
    w.perform (.send place channel o) =
      if (channel.attempt (w.sentBy place) o).lasts = 0 then
        finishSend (channel.attempt (w.sentBy place) o) (w.sending place channel.name o)
      else
        (w.sending place channel.name o).await (channel.attempt (w.sentBy place) o).lasts
          (finishSend (channel.attempt (w.sentBy place) o)) (.error .cancelled) := by
  have hnot : ¬ w.isCancelled = true := by simp [h]
  by_cases hlasts : (channel.attempt (w.sentBy place) o).lasts = 0
  · simp only [perform, begin, if_neg hnot, if_pos hlasts]
    rfl
  · simp only [perform, begin, if_neg hnot, if_neg hlasts]
    rfl

/-- What a pause does, unless deliveries are cancelled. -/
theorem perform_pause_eq (h : w.isCancelled = false) (milliseconds : Nat) :
    w.perform (.pause milliseconds) =
      if milliseconds = 0 then (false, w) else w.await milliseconds (fun w => (false, w)) true := by
  have hnot : ¬ w.isCancelled = true := by simp [h]
  by_cases hzero : milliseconds = 0
  · simp only [perform, begin, if_neg hnot, if_pos hzero]
  · simp only [perform, begin, if_neg hnot, if_neg hzero]
    rfl

/-- A wait is cut short by a cancellation, or it goes as it does without one. -/
theorem await_cut {ρ : Type} (w : World) (milliseconds : Nat) (finish : World → ρ × World)
    (cancelled : ρ) :
    ((w.await milliseconds finish cancelled).1 = cancelled ∧
      (w.await milliseconds finish cancelled).2.isCancelled = true) ∨
    ∃ u : World, w.await milliseconds finish cancelled = finish u ∧
      ∀ (finish' : World → ρ × World) cancelled',
        w.calmed.await milliseconds finish' cancelled' = finish' u.calmed := by
  cases hplanned : w.planned.filter (·.precedes (w.waits + 1)
    (w.uptime + min milliseconds longestWait)) with
  | some c =>
    left
    simp only [await, hplanned]
    exact ⟨trivial, rfl⟩
  | none =>
    right
    refine ⟨{ w with
      waits := w.waits + 1
      uptime := w.uptime + min milliseconds longestWait }, ?_, fun _ _ => rfl⟩
    simp only [await, hplanned]

/-- An attempt is cut short by a cancellation, or it goes as it does without
one. -/
theorem perform_send_cut (w : World) (place : Nat) {channel steady : Channel}
    (hsteady : steady.Steadies channel) (o : Notice) :
    ((w.perform (.send place channel o)).1 = .error .cancelled ∧
      (w.perform (.send place channel o)).2.isCancelled = true) ∨
    ((w.perform (.send place channel o)).1 = (w.calmed.perform (.send place steady o)).1 ∧
      (w.perform (.send place channel o)).2.calmed =
        (w.calmed.perform (.send place steady o)).2) := by
  by_cases h : w.isCancelled = true
  · rw [perform_send_of_isCancelled h]
    exact .inl ⟨rfl, h⟩
  rw [Bool.not_eq_true] at h
  have hattempt := hsteady.attempt (w.sentBy place) o
  -- both channels were asked for the same so far
  have hpast : w.calmed.sentBy place = w.sentBy place := rfl
  have hsending : w.calmed.sending place steady.name o =
      (w.sending place channel.name o).calmed := by rw [hsteady.name]; rfl
  rw [perform_send_eq h, perform_send_eq (w := w.calmed) rfl, hpast, hsending]
  generalize channel.attempt (w.sentBy place) o = a at hattempt
  generalize steady.attempt (w.sentBy place) o = a' at hattempt
  -- an attempt that cuts itself short, or the end that it has in both worlds
  have hfinish (u : World) : (finishSend a u).1 = .error .cancelled ∧
      (finishSend a u).2.isCancelled = true ∨
      a'.lasts = a.lasts ∧ (finishSend a u).1 = (finishSend a' u.calmed).1 ∧
        (finishSend a u).2.calmed = (finishSend a' u.calmed).2 := by
    by_cases hcut : a.fires = false ∨ a.outcome ≠ .error .cancelled
    · right
      rw [hattempt.eq_of_not_cut hcut]
      exact ⟨rfl, rfl, calmed_finishSend a u⟩
    · left
      rw [not_or, not_not, Bool.not_eq_false] at hcut
      simp only [finishSend, hcut.1, hcut.2, if_true]
      exact ⟨trivial, rfl⟩
  by_cases hlasts : a.lasts = 0
  · rw [if_pos hlasts]
    rcases hfinish (w.sending place channel.name o) with hcut | ⟨hlasts', hreply, hworld⟩
    · exact .inl hcut
    · rw [if_pos (hlasts'.trans hlasts)]
      exact .inr ⟨hreply, hworld⟩
  · rw [if_neg hlasts]
    rcases await_cut (w.sending place channel.name o) a.lasts (finishSend a)
      (.error .cancelled) with hcut | ⟨u, hu, hcalmed⟩
    · exact .inl hcut
    · rw [hu]
      rcases hfinish u with hcut | ⟨hlasts', hreply, hworld⟩
      · exact .inl hcut
      · rw [hlasts', if_neg hlasts, hcalmed]
        exact .inr ⟨hreply, hworld⟩

/-- A pause is cut short by a cancellation, or it passes. -/
theorem perform_pause_cut (w : World) (milliseconds : Nat) :
    ((w.perform (.pause milliseconds)).1 = true ∧
      (w.perform (.pause milliseconds)).2.isCancelled = true) ∨
    ((w.perform (.pause milliseconds)).1 = false ∧
      w.calmed.perform (.pause milliseconds) =
        (false, (w.perform (.pause milliseconds)).2.calmed)) := by
  by_cases h : w.isCancelled = true
  · rw [perform_pause_of_isCancelled h]
    exact .inl ⟨rfl, h⟩
  rw [Bool.not_eq_true] at h
  rw [perform_pause_eq h, perform_pause_eq (w := w.calmed) rfl]
  by_cases hzero : milliseconds = 0
  · rw [if_pos hzero, if_pos hzero]
    exact .inr ⟨rfl, rfl⟩
  · rw [if_neg hzero, if_neg hzero]
    rcases await_cut w milliseconds (fun w => (false, w)) true with hcut | ⟨u, hu, hcalmed⟩
    · exact .inl hcut
    · rw [hu, hcalmed]
      exact .inr ⟨rfl, rfl⟩

/-! ## The time of a planned cancellation -/

/-- A planned cancellation is still waited for, or it has come, and then it was
not later than its time, or than the start if that was later. -/
structure OnTime (c : Cancellation) (start : Nat) (w : World) : Prop where
  start_le : start ≤ w.uptime
  le_max : w.uptime ≤ max start c.time
  planned_or : w.planned = some c ∨
    w.planned = none ∧ w.isCancelled = true ∧ w.uptime = max start c.time

theorem OnTime.fire {c : Cancellation} {start : Nat} (h : w.OnTime c start) :
    w.fire.OnTime c start where
  start_le := h.start_le
  le_max := h.le_max
  planned_or := h.planned_or.imp_right fun ⟨hnone, _, huptime⟩ => ⟨hnone, rfl, huptime⟩

/-- A wait that is not cut short ends before the cancellation. -/
theorem OnTime.await {ρ : Type} {c : Cancellation} {start : Nat} (h : w.OnTime c start)
    (hplanned : w.planned = some c) (milliseconds : Nat) {finish : World → ρ × World}
    {cancelled : ρ} (hfinish : ∀ u : World, u.OnTime c start → (finish u).2.OnTime c start) :
    (w.await milliseconds finish cancelled).2.OnTime c start := by
  have hstart := h.start_le
  have hmax := h.le_max
  simp only [World.await, hplanned, Option.filter]
  split
  · rename_i hcut
    split at hcut
    · cases hcut
      exact ⟨by simp only [World.fire]; omega, by simp only [World.fire]; omega,
        .inr ⟨rfl, rfl, by simp only [World.fire]; omega⟩⟩
    · cases hcut
  · rename_i hcut
    split at hcut
    · cases hcut
    · rename_i hprecedes
      refine hfinish _ ⟨by simp only; omega, ?_, .inl rfl⟩
      simp only [Cancellation.precedes, Bool.or_eq_true, decide_eq_true_eq, not_or] at hprecedes
      simp only
      omega

theorem OnTime.perform {c : Cancellation} {start : Nat} (h : w.OnTime c start) {e : Effect}
    (he : e.IsAttempt) : (w.perform e).2.OnTime c start := by
  -- once the planned cancellation has come, nothing happens any more
  rcases hcancelled : w.isCancelled with _ | _
  · have hplanned : w.planned = some c := h.planned_or.resolve_right fun hcome => by
      rw [hcancelled] at hcome
      exact Bool.false_ne_true hcome.2.1
    cases e with
    | send place channel o =>
      have hsending : (w.sending place channel.name o).OnTime c start :=
        ⟨h.start_le, h.le_max, h.planned_or⟩
      have hfinish (a : Attempt) (u : World) (hu : u.OnTime c start) :
          (finishSend a u).2.OnTime c start := by
        simp only [finishSend]
        split
        · exact hu.fire
        · exact hu
      rw [perform_send_eq hcancelled]
      split
      · exact hfinish _ _ hsending
      · exact hsending.await hplanned _ (hfinish _)
    | pause milliseconds =>
      rw [perform_pause_eq hcancelled]
      split
      · exact h
      · exact h.await hplanned _ fun _ hu => hu
    | isCancelled => exact h
    | _ => exact he.elim
  · rw [perform_snd_of_isCancelled hcancelled he]
    exact h

end World

/-! ## Deliveries without a cancellation -/

/-- The effect does not fire the cancellation. -/
def Effect.IsSteady : Effect → Prop
  | .send _ channel _ => ∀ past o, (channel.attempt past o).fires = false
  | .pause _ | .isCancelled => True
  | .acquire | .release | .look | .ask _ | .commit _ _ _ | .mute _ | .evaluate _ | .clock | .draw
  | .claimCleanup _ | .endCleanup => False

theorem Effect.allowsAttempts_isSteady : AllowsAttempts IsSteady := ⟨fun _ => trivial, trivial⟩

/-- Where nothing fires the cancellation, it stays calm. -/
theorem World.IsCalm.perform {w : World} (hw : w.IsCalm) {e : Effect} (he : e.IsSteady) :
    (w.perform e).2.IsCalm := by
  have hawait {ρ : Type} {w : World} (hw : w.IsCalm) (milliseconds : Nat)
      (finish : World → ρ × World) (cancelled : ρ)
      (hfinish : ∀ u : World, u.IsCalm → (finish u).2.IsCalm) :
      (w.await milliseconds finish cancelled).2.IsCalm := by
    simp only [World.await, hw.nothingPlanned, Option.filter_none]
    exact hfinish _ ⟨hw.notCancelled, rfl⟩
  cases e with
  | send place channel o =>
    have hsending : (w.sending place channel.name o).IsCalm := ⟨hw.1, hw.2⟩
    have hfinish (u : World) (hu : u.IsCalm) :
        (finishSend (channel.attempt (w.sentBy place) o) u).2.IsCalm := by
      rw [finishSend, he]
      exact hu
    rw [perform_send_eq hw.notCancelled]
    split
    · exact hfinish _ hsending
    · exact hawait hsending _ _ _ hfinish
  | pause milliseconds =>
    rw [perform_pause_eq hw.notCancelled]
    split
    · exact hw
    · exact hawait hw _ _ _ fun _ hu => hu
  | isCancelled => exact hw
  | _ => exact he.elim

/-- A delivery on its own stays calm if no channel fires the cancellation. -/
theorem Program.Meets.run_calm {α : Type} {p : Program α} {post : α → Prop}
    (hp : p.Meets Effect.IsSteady (fun _ _ => True) post) {w : World} (hw : w.IsCalm) :
    post (p.run w).1 ∧ (p.run w).2.IsCalm :=
  hp.run World.IsCalm (fun _ _ hw he => ⟨trivial, hw.perform he⟩) hw

/-! ## One channel -/

namespace Delivery

/-- The attempts of a channel end in a cancellation, or they are those of the
channel without one. -/
theorem tries_cut (c : Channel × Nat) {steady : Channel} (hsteady : steady.Steadies c.1)
    (o : Notice) (made : Nat) (pauses : List Nat) {w v : World} {r : ChannelOutcome}
    (h : (tries c.2 c.1 o made pauses).Passes w (.pure r) v) :
    (v.isCancelled = true ∧ ∃ attempts, r = failed c.1.name attempts .cancelled) ∨
    (r = ((tries c.2 steady o made pauses).run w.calmed).1 ∧
      v.calmed = ((tries c.2 steady o made pauses).run w.calmed).2) := by
  have hcancelled {u : World} (hu : u.isCancelled = true) (huv : u.Meanwhile v) :
      v.isCancelled = true := (huv.eq_of_isCancelled hu).symm ▸ hu
  induction pauses generalizing made w with
  | nil =>
    rw [tries_nil_eq] at h
    obtain ⟨w', hw', hrest⟩ := Program.passes_step h
    obtain ⟨rfl, hv⟩ := Program.passes_pure hrest
    rw [tries_nil_eq (steady, c.2), Program.run_step, ← hw'.calmed_eq, hsteady.name]
    rcases w'.perform_send_cut c.2 hsteady o with ⟨hreply, hcut⟩ | ⟨hreply, hworld⟩
    · rw [hreply]
      exact .inl ⟨hcancelled hcut hv, made + 1, rfl⟩
    · rw [hreply]
      exact .inr ⟨rfl, hv.calmed_eq.trans hworld⟩
  | cons pause pauses ih =>
    obtain ⟨next, htries, hnext⟩ := tries_cons_eq c o made pause pauses
    obtain ⟨next', htries', hnext'⟩ := tries_cons_eq (steady, c.2) o made pause pauses
    rw [htries] at h
    obtain ⟨w', hw', hrest⟩ := Program.passes_step h
    rw [htries', Program.run_step, ← hw'.calmed_eq]
    rcases w'.perform_send_cut c.2 hsteady o with ⟨hreply, hcut⟩ | ⟨hreply, hworld⟩
    · rw [hreply, (hnext { outcome := .error .cancelled }).1 (.inr rfl)] at hrest
      obtain ⟨rfl, hv⟩ := Program.passes_pure hrest
      exact .inl ⟨hcancelled hcut hv, made + 1, rfl⟩
    · rw [← hreply, ← hworld]
      generalize (w'.perform (.send c.2 c.1 o)).1 = outcome at hrest
      generalize (w'.perform (.send c.2 c.1 o)).2 = u at hrest
      by_cases hfinal : (⟨0, false, outcome⟩ : Attempt).IsFinal
      · rw [(hnext ⟨0, false, outcome⟩).1 hfinal] at hrest
        rw [(hnext' ⟨0, false, outcome⟩).1 hfinal, hsteady.name]
        obtain ⟨rfl, hv⟩ := Program.passes_pure hrest
        exact .inr ⟨rfl, hv.calmed_eq⟩
      · rw [(hnext ⟨0, false, outcome⟩).2 hfinal] at hrest
        rw [(hnext' ⟨0, false, outcome⟩).2 hfinal]
        -- the attempt was not the last one, so there is a pause
        obtain ⟨u', hu', hrest⟩ := Program.passes_step hrest
        rcases u'.perform_pause_cut (pause * millisPerSecond) with
          ⟨hreply, hcut⟩ | ⟨hreply, hcalmed⟩
        · rw [hreply, if_pos rfl] at hrest
          obtain ⟨rfl, hv⟩ := Program.passes_pure hrest
          exact .inl ⟨hcancelled hcut hv, made + 1, rfl⟩
        · rw [hreply, if_neg Bool.false_ne_true] at hrest
          rw [retry, Program.run_step, ← hu'.calmed_eq, hcalmed, if_neg Bool.false_ne_true]
          exact ih (made + 1) hrest

/-! ## Several channels -/

/-- What a delivery returned, beside what it returns without a cancellation: the
same, until it ends with a channel after which others were left out, or with one
that was cancelled itself. -/
inductive IsCutShort : List ChannelOutcome → List ChannelOutcome → Prop
  | whole (rs : List ChannelOutcome) : IsCutShort rs rs
  | after (r : ChannelOutcome) (rest : List ChannelOutcome) : IsCutShort [r] (r :: rest)
  | within {r : ChannelOutcome} (attempts : Nat) (rest : List ChannelOutcome) :
      IsCutShort [failed r.channel attempts .cancelled] (r :: rest)
  | cons (r : ChannelOutcome) {rs rs' : List ChannelOutcome} (h : IsCutShort rs rs') :
      IsCutShort (r :: rs) (r :: rs')

namespace IsCutShort

variable {rs rs' : List ChannelOutcome}

/-- The results belong to the first channels. -/
theorem map_channel_begins (h : IsCutShort rs rs') :
    rs.map (·.channel) <+: rs'.map (·.channel) := by
  induction h with
  | whole rs => exact List.prefix_rfl
  | after r rest => exact ⟨rest.map (·.channel), rfl⟩
  | within attempts rest => exact ⟨rest.map (·.channel), rfl⟩
  | cons r _ ih => exact (List.prefix_cons_inj _).mpr ih

/-- All results but the last one are the same. -/
theorem dropLast_begins (h : IsCutShort rs rs') : rs.dropLast <+: rs' := by
  induction h with
  | whole rs => exact List.dropLast_prefix rs
  | after r rest => exact List.nil_prefix
  | within attempts rest => exact List.nil_prefix
  | @cons r rs rs' _ ih =>
    cases rs with
    | nil => exact List.nil_prefix
    | cons s rs => exact (List.prefix_cons_inj r).mpr ih

/-- The last result is the same, or it says that the channel was cancelled. -/
theorem getLast (h : IsCutShort rs rs') {r : ChannelOutcome} (hr : rs.getLast? = some r) :
    rs'[rs.length - 1]? = some r ∨
      r.success = false ∧ r.errorMessage = some SendError.cancelled.message := by
  induction h with
  | whole rs => exact .inl ((List.getLast?_eq_getElem? ..).symm.trans hr)
  | after s rest => exact .inl hr
  | within attempts rest =>
    obtain rfl := Option.some.inj hr
    exact .inr ⟨rfl, rfl⟩
  | @cons s rs rs' _ ih =>
    cases rs with
    | nil => exact .inl (by simpa using hr)
    | cons s' rs => exact ih hr

end IsCutShort

/-- What a run through several channels comes to: the first of them was cut
short, or the others follow. -/
theorem passes_through_cons {o : Notice} {pauses : List Nat} {c : Channel × Nat}
    {cs : List (Channel × Nat)} {w v : World} {rs : List ChannelOutcome}
    (h : (through o pauses (c :: cs)).Passes w (.pure rs) v) :
    ∃ r u, (tries c.2 c.1 o 0 pauses).Passes w (.pure r) u ∧
      ((v.isCancelled = true ∧ v.calmed = u.calmed ∧ rs = [r]) ∨
        ∃ rs' u', u.isCancelled = false ∧ (through o pauses cs).Passes u (.pure rs') u' ∧
          rs = r :: rs' ∧ u'.Meanwhile v) := by
  rw [through_cons_eq] at h
  obtain ⟨r, u, hfirst, hrest⟩ := Program.passes_bind h
  obtain ⟨u', hu', hrest⟩ := Program.passes_step hrest
  refine ⟨r, u, hfirst, ?_⟩
  rw [World.perform_isCancelled] at hrest
  rcases hcancelled : u'.isCancelled with _ | _
  · rw [hcancelled, if_neg Bool.false_ne_true] at hrest
    obtain ⟨rs', v', hthrough, hend⟩ := Program.passes_bind hrest
    obtain ⟨rfl, hv⟩ := Program.passes_pure hend
    -- nobody has cancelled deliveries meanwhile
    have hsame : u' = u := hu'.resolve_right fun hfire => by
      rw [hfire] at hcancelled
      cases hcancelled
    rw [hsame] at hcancelled hthrough
    exact .inr ⟨rs', v', hcancelled, hthrough, rfl, hv⟩
  · rw [hcancelled, if_pos rfl] at hrest
    obtain ⟨rfl, hv⟩ := Program.passes_pure hrest
    exact .inl ⟨(hv.eq_of_isCancelled hcancelled).symm ▸ hcancelled,
      hv.calmed_eq.trans hu'.calmed_eq, rfl⟩

/-- A run through several channels in a calm world does not leave any out. -/
theorem run_through_cons {o : Notice} {pauses : List Nat} {c : Channel × Nat}
    {cs : List (Channel × Nat)} {w : World}
    (h : ((tries c.2 c.1 o 0 pauses).run w).2.isCancelled = false) :
    (through o pauses (c :: cs)).run w =
      (((tries c.2 c.1 o 0 pauses).run w).1 ::
          ((through o pauses cs).run ((tries c.2 c.1 o 0 pauses).run w).2).1,
        ((through o pauses cs).run ((tries c.2 c.1 o 0 pauses).run w).2).2) := by
  rw [through_cons_eq, Program.run_bind, Program.run_step, World.perform_isCancelled, h,
    if_neg Bool.false_ne_true, Program.run_bind]
  rfl

/-- The attempts of a channel that does not fire the cancellation do not fire it
either. -/
theorem tries_isSteady {channel steady : Channel} (h : steady.Steadies channel) (place : Nat)
    (o : Notice) (pauses : List Nat) :
    (tries place steady o 0 pauses).Meets Effect.IsSteady (fun _ _ => True)
      (·.channel = steady.name) :=
  tries_meets Effect.allowsAttempts_isSteady (fun past o => (h.attempt past o).fires) 0 pauses

/-- The channels of a delivery without firing the cancellation. -/
def steadied (steady : Channel → Channel) (cs : List (Channel × Nat)) : List (Channel × Nat) :=
  cs.map fun c => (steady c.1, c.2)

section

variable {steady : Channel → Channel} {cs : List (Channel × Nat)}
  (hsteady : ∀ c ∈ cs, (steady c.1).Steadies c.1)

include hsteady

/-- Without a cancellation there is a result for every channel. -/
theorem map_channel_run_through (o : Notice) (pauses : List Nat) {w : World} (hw : w.IsCalm) :
    ((through o pauses (steadied steady cs)).run w).1.map (·.channel) = cs.map (·.1.name) := by
  induction cs generalizing w with
  | nil => rfl
  | cons c cs ih =>
    obtain ⟨hfirst, hrest⟩ := List.forall_mem_cons.mp hsteady
    obtain ⟨hchannel, hcalm⟩ := (tries_isSteady hfirst c.2 o pauses).run_calm hw
    show ((through o pauses ((steady c.1, c.2) :: steadied steady cs)).run w).1.map _ = _
    rw [run_through_cons hcalm.notCancelled, List.map_cons, List.map_cons, hchannel, hfirst.name]
    exact congrArg _ (ih hrest hcalm)

/-- However a run through several channels is cancelled, it returns what it
returns without a cancellation, cut short; if it is not cancelled, there is no
difference at all. -/
theorem through_cut (o : Notice) (pauses : List Nat) {w v : World} {rs : List ChannelOutcome}
    (h : (through o pauses cs).Passes w (.pure rs) v) :
    IsCutShort rs ((through o pauses (steadied steady cs)).run w.calmed).1 ∧
      (v.isCancelled = false →
        rs = ((through o pauses (steadied steady cs)).run w.calmed).1 ∧
          v.calmed = ((through o pauses (steadied steady cs)).run w.calmed).2) := by
  induction cs generalizing w v rs with
  | nil =>
    obtain ⟨rfl, hv⟩ := Program.passes_pure h
    exact ⟨.whole [], fun _ => ⟨rfl, hv.calmed_eq⟩⟩
  | cons c cs ih =>
    obtain ⟨hfirst, hrest⟩ := List.forall_mem_cons.mp hsteady
    obtain ⟨hchannel, hcalm⟩ := (tries_isSteady hfirst c.2 o pauses).run_calm w.isCalm_calmed
    have hrun : (through o pauses ((steady c.1, c.2) :: steadied steady cs)).run w.calmed = _ :=
      run_through_cons hcalm.notCancelled
    show IsCutShort rs ((through o pauses ((steady c.1, c.2) :: steadied steady cs)).run _).1 ∧
      (_ → rs = ((through o pauses ((steady c.1, c.2) :: steadied steady cs)).run _).1 ∧
        v.calmed = ((through o pauses ((steady c.1, c.2) :: steadied steady cs)).run _).2)
    rw [hrun]
    obtain ⟨r, u, htries, hthrough⟩ := passes_through_cons h
    rcases tries_cut c hfirst o 0 pauses htries with ⟨hcut, attempts, rfl⟩ | ⟨hr, hu⟩
    · -- the first channel was cancelled, so the others are left out
      rcases hthrough with ⟨hv, -, rfl⟩ | ⟨rs', u', hnot, -⟩
      · rw [← hfirst.name, ← hchannel]
        exact ⟨.within attempts _, fun hnot => absurd (hnot.symm.trans hv) Bool.false_ne_true⟩
      · exact absurd (hnot.symm.trans hcut) Bool.false_ne_true
    · rw [← hr, ← hu]
      rcases hthrough with ⟨hv, -, rfl⟩ | ⟨rs', u', -, hthrough, rfl, hv⟩
      · exact ⟨.after r _, fun hnot => absurd (hnot.symm.trans hv) Bool.false_ne_true⟩
      · obtain ⟨hcut, hsame⟩ := ih hrest hthrough
        refine ⟨.cons r hcut, fun hnot => ?_⟩
        have hnot' : u'.isCancelled = false := by
          rcases hv with rfl | rfl
          · exact hnot
          · cases hnot
        obtain ⟨hrs, hworld⟩ := hsame hnot'
        exact ⟨congrArg _ hrs, hv.calmed_eq.trans hworld⟩

end

/-! ## A message through every channel -/

/-- What a cancellation does to a delivery through channels with these names,
beside the delivery without one. -/
structure HeedsCancellation (names : List String) (p : Program (List ChannelOutcome)) (w : World)
    (uncancelled : List ChannelOutcome × World) : Prop where
  /-- It always returns. -/
  returns {q : Program (List ChannelOutcome)} {u : World} :
    p.Passes w q u → ∃ rs v, q.Passes u (.pure rs) v
  /-- Once deliveries are cancelled, nothing is sent and no time passes. -/
  eq_of_isCancelled {q : Program (List ChannelOutcome)} {u v : World} {rs : List ChannelOutcome} :
    p.Passes w q u → u.isCancelled = true → q.Passes u (.pure rs) v → v = u
  /-- A cancellation that was planned is not waited for beyond its time. -/
  onTime {q : Program (List ChannelOutcome)} {u : World} {c : Cancellation} :
    w.planned = some c → p.Passes w q u → u.OnTime c w.uptime
  /-- The results belong to the first channels. -/
  map_channel_begins {rs : List ChannelOutcome} {v : World} :
    p.Passes w (.pure rs) v → rs.map (·.channel) <+: names
  /-- Without a cancellation every channel has a result. -/
  map_channel_uncancelled : uncancelled.1.map (·.channel) = names
  /-- Every result but the last is the same without a cancellation. -/
  dropLast_begins {rs : List ChannelOutcome} {v : World} :
    p.Passes w (.pure rs) v → rs.dropLast <+: uncancelled.1
  /-- The last one is the same as well, or it says that it was cancelled. -/
  last {rs : List ChannelOutcome} {v : World} {r : ChannelOutcome} :
    p.Passes w (.pure rs) v → rs.getLast? = some r →
      uncancelled.1[rs.length - 1]? = some r ∨
        r.success = false ∧ r.errorMessage = some "notification cancelled"
  /-- A delivery that is not cancelled is the one without a cancellation. -/
  eq_of_not_isCancelled {rs : List ChannelOutcome} {v : World} :
    p.Passes w (.pure rs) v → v.isCancelled = false →
      rs = uncancelled.1 ∧ v.calmed = uncancelled.2

/-- The same channels are enabled without firing the cancellation. -/
theorem enabled_map_steady {channels : List Channel} {steady : Channel → Channel}
    (hsteady : ∀ c ∈ channels, (steady c).Steadies c) (config : Config) :
    enabled (channels.map steady) config = steadied steady (enabled channels config) := by
  rw [enabled, enabled, steadied, List.zipIdx_map, List.filter_map]
  refine congrArg _ (List.filter_congr fun c hc => ?_)
  exact congrFun (hsteady c.1 (List.fst_mem_of_mem_zipIdx hc)).isEnabled config

/-- However the cancellation fires, a message heeds it in every channel. -/
theorem notify_heedsCancellation {channels : List Channel} {steady : Channel → Channel}
    (hsteady : ∀ c ∈ channels, (steady c).Steadies c) (config : Config)
    (credentials : Credentials) (level : Level) (message : String) (w : World) :
    HeedsCancellation ((channels.filter (·.isEnabled config)).map (·.name))
      (notify channels config credentials level message) w
      ((notify (channels.map steady) config credentials level message).run w.calmed) := by
  have huses : (notify channels config credentials level message).Uses Effect.IsAttempt :=
    through_uses Effect.allowsAttempts_isAttempt (fun _ _ => trivial) _
  have hsteady' : ∀ c ∈ enabled channels config, (steady c.1).Steadies c.1 := fun c hc =>
    hsteady c.1 (List.fst_mem_of_mem_zipIdx (List.mem_filter.mp hc).1)
  have hnames : (enabled channels config).map (·.1.name) =
      (channels.filter (·.isEnabled config)).map (·.name) := by
    rw [← map_fst_enabled, List.map_map]
    rfl
  rw [notify, notify, enabled_map_steady hsteady]
  have huncancelled := map_channel_run_through hsteady'
    ⟨config, credentials.trimmed, level, message⟩ config.schedule.dropLast w.isCalm_calmed
  have hcut {rs : List ChannelOutcome} {v : World} (hend : (through
      ⟨config, credentials.trimmed, level, message⟩ config.schedule.dropLast
      (enabled channels config)).Passes w (.pure rs) v) := through_cut hsteady' _ _ hend
  exact
    { returns {q u} _ := ⟨_, _, q.passes_run u⟩
      eq_of_isCancelled hq hcancelled hend :=
        (hend.eq_of_isCancelled (hq.uses huses) hcancelled).1
      onTime {q u c} hplanned hq :=
        hq.keeps huses (fun _ => World.OnTime.fire) (fun _ _ hu he => hu.perform he)
          ⟨Nat.le_refl _, Nat.le_max_left _ _, .inl hplanned⟩
      map_channel_begins hend :=
        hnames ▸ huncancelled ▸ (hcut hend).1.map_channel_begins
      map_channel_uncancelled := huncancelled.trans hnames
      dropLast_begins hend := (hcut hend).1.dropLast_begins
      last hend hr := (hcut hend).1.getLast hr
      eq_of_not_isCancelled hend := (hcut hend).2 }

/-- A cancellation at the very end of an attempt: that attempt does not count any
more, and the first channel has had its result. -/
theorem notify_heedsCancellation_hesitant :
    let w := { quiet with planned := some { time := 2500 } }
    let delivery := notify [hesitant, broken] { retryDelays := [2, 7] } {} .warning "load"
    (∀ c ∈ [hesitant, broken], c.unfired.Steadies c) ∧
      (∃ v, delivery.Passes w (.pure [{ channel := "hesitant", success := true, attempts := 2 },
        failed "broken" 1 .cancelled]) v ∧ v.isCancelled = true ∧ v.uptime = 2500) ∧
      HeedsCancellation ["hesitant", "broken"] delivery w
        ((notify [hesitant.unfired, broken.unfired] { retryDelays := [2, 7] } {} .warning
          "load").run w.calmed) := by
  intro w delivery
  have hsteady : ∀ c ∈ [hesitant, broken], c.unfired.Steadies c := fun c _ => c.steadies_unfired
  refine ⟨hsteady, ⟨(delivery.run w).2, ?_, by decide +kernel, by decide +kernel⟩, ?_⟩
  · have hresults : (delivery.run w).1 =
        [{ channel := "hesitant", success := true, attempts := 2 },
          failed "broken" 1 .cancelled] := by decide +kernel
    rw [← hresults]
    exact delivery.passes_run w
  · exact notify_heedsCancellation hsteady { retryDelays := [2, 7] } {} .warning "load" w

end Delivery

end CpuAlert
