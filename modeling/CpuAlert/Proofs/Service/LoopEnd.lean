import CpuAlert.Proofs.Delivery.Course
import CpuAlert.Proofs.Service.LoopWatch

/-!
# The loop ends

The loop counts how many turns its deliveries need and how often they can wait,
and stops after so many. That is never too early: once everybody has settled
nobody can go on, and once the loop has returned nobody waits either.

For the turns, whoever can go on counts twice and whoever waits counts once. A
turn may end in a wait, and a cancellation turns waits into turns, but the number
goes down with every turn. For the waits, every program has a bound on how often
it can still wait, whatever it is answered, and the bounds together go down
whenever a wait ends.

Between its inputs the loop listens exactly as long as deliveries are not
cancelled. So what it takes are the snapshots that the feed holds of all inputs up
to then.

## Main definitions

* `Program.WaitsAtMost` — a bound on how often a program can wait
* `Loop.Owes` — a bound on how often the deliveries of a loop can wait
* `Loop.IsAtRest` — the loop between two inputs
* `Loop.consumed` — the snapshots that the loop takes of its inputs

## Main results

* `Service.deliver_waitsAtMost` — the bound of a delivery
* `Loop.settles_settle` — once everybody has settled nobody can go on
* `Loop.IsAtRest.close` — once the loop has returned nobody is under way
* `Loop.consumed_eq` — all that the feed holds, if nothing is cancelled
* `Loop.play_ends` — the loop fed with inputs is a watch in which it takes these
  snapshots and whose deliveries have ended
-/

namespace CpuAlert

/-! ## How often a program can wait -/

/-- The effect can take time. -/
def Effect.TakesTime : Effect → Prop
  | .send _ _ _ | .pause _ => True
  | .acquire | .release | .look | .ask _ | .commit _ _ _ | .mute _ | .evaluate _ | .clock | .draw
  | .claimCleanup _ | .endCleanup | .isCancelled => False

namespace Program

variable {α β : Type} {m n : Nat}

/-- The program waits no more often than this, whatever it is answered. -/
def WaitsAtMost : Program α → Nat → Prop
  | .pure _, _ => True
  | .step e next, n =>
    (¬ e.TakesTime ∧ ∀ r, (next r).WaitsAtMost n) ∨ ∃ m, m < n ∧ ∀ r, (next r).WaitsAtMost m

theorem WaitsAtMost.mono {p : Program α} (h : p.WaitsAtMost m) (hmn : m ≤ n) :
    p.WaitsAtMost n := by
  induction p generalizing m with
  | pure _ => exact trivial
  | step e next ih =>
    rcases h with ⟨hprompt, hnext⟩ | ⟨k, hk, hnext⟩
    · exact .inl ⟨hprompt, fun r => ih r (hnext r) hmn⟩
    · exact .inr ⟨k, Nat.lt_of_lt_of_le hk hmn, hnext⟩

theorem WaitsAtMost.bind {p : Program α} {f : α → Program β} (hp : p.WaitsAtMost m)
    (hf : ∀ a, (f a).WaitsAtMost n) : (p.bind f).WaitsAtMost (m + n) := by
  induction p generalizing m with
  | pure a => exact (hf a).mono (Nat.le_add_left ..)
  | step e next ih =>
    rcases hp with ⟨hprompt, hnext⟩ | ⟨k, hk, hnext⟩
    · exact .inl ⟨hprompt, fun r => ih r (hnext r)⟩
    · exact .inr ⟨k + n, Nat.add_lt_add_right hk n, fun r => ih r (hnext r)⟩

end Program

namespace Delivery

variable {o : Notice} {pauses : List Nat}

/-- Attempts wait once in each of them and once between them. -/
theorem tries_waitsAtMost (place : Nat) (channel : Channel) (o : Notice) (made : Nat)
    (pauses : List Nat) :
    (tries place channel o made pauses).WaitsAtMost (2 * pauses.length + 1) := by
  induction pauses generalizing made with
  | nil =>
    refine .inr ⟨0, Nat.one_pos, fun r => ?_⟩
    cases r <;> exact trivial
  | cons pause pauses ih =>
    rw [List.length_cons]
    refine .inr ⟨2 * pauses.length + 2, by omega, fun r => ?_⟩
    cases r with
    | ok _ => exact trivial
    | error e =>
      have hretry : (Program.step (.pause (pause * millisPerSecond)) fun cut =>
          if cut then (.pure (failed channel.name (made + 1) .cancelled))
          else tries place channel o (made + 1) pauses).WaitsAtMost (2 * pauses.length + 2) := by
        refine .inr ⟨_, Nat.lt_succ_self _, fun cut => ?_⟩
        cases cut with
        | true => exact trivial
        | false => exact ih (made + 1)
      cases e with
      | cancelled => exact trivial
      | _ => exact hretry

theorem through_waitsAtMost (o : Notice) (pauses : List Nat) (channels : List (Channel × Nat)) :
    (through o pauses channels).WaitsAtMost (channels.length * (2 * pauses.length + 1)) := by
  induction channels with
  | nil => exact trivial
  | cons c rest ih =>
    rw [List.length_cons, Nat.succ_mul, Nat.add_comm]
    refine .bind (tries_waitsAtMost c.2 c.1 o 0 pauses) fun result => ?_
    refine .inl ⟨id, fun cut => ?_⟩
    cases cut with
    | true => exact trivial
    | false => exact ih.bind (n := 0) fun _ => trivial

end Delivery

/-- A delivery waits no more often than the loop counts for it. -/
theorem Service.deliver_waitsAtMost (s : Service) (p : Pending) :
    (s.deliver p).WaitsAtMost (Loop.waitsOf s p) := by
  have hthrough := Delivery.through_waitsAtMost (s.notice p) p.config.schedule.dropLast
    (Delivery.enabled s.channels p.config)
  have hpos := List.length_pos_iff.mpr p.config.schedule_ne_nil
  have henabled : (Delivery.enabled s.channels p.config).length ≤ s.channels.length := by
    rw [← List.length_zipIdx (l := s.channels)]
    exact List.length_filter_le _ _
  have hbound : (Delivery.enabled s.channels p.config).length *
      (2 * p.config.schedule.dropLast.length + 1) ≤ Loop.waitsOf s p := by
    rw [Loop.waitsOf, Nat.mul_comm, List.length_dropLast]
    exact Nat.mul_le_mul (by omega) henabled
  exact Program.WaitsAtMost.bind (n := 0) (hthrough.mono hbound) fun _ =>
    .inl ⟨id, fun _ => trivial⟩

/-! ## Up to the next wait -/

namespace World

variable {w : World} {e : Effect}

/-- Only what can take time is waited for. -/
theorem begin_of_not_takesTime (h : ¬ e.TakesTime) (w : World) :
    ∃ r v, w.begin e = (.done r, v) := by
  cases e with
  | send | pause => exact absurd trivial h
  | claimCleanup interval =>
    simp only [begin]
    split <;> exact ⟨_, _, rfl⟩
  | _ => exact ⟨_, _, rfl⟩

/-- Once deliveries are cancelled, nothing is waited for. -/
theorem begin_of_isCancelled (h : w.isCancelled = true) (e : Effect) :
    ∃ r v, w.begin e = (.done r, v) ∧ v.isCancelled = true := by
  cases e with
  | send place channel notice =>
    exact ⟨.error .cancelled, w, by simp only [begin, h, if_true], h⟩
  | pause milliseconds => exact ⟨true, w, by simp only [begin, h, if_true], h⟩
  | claimCleanup interval =>
    simp only [begin]
    split <;> exact ⟨_, _, rfl, h⟩
  | ask c =>
    refine ⟨_, _, rfl, ?_⟩
    show (w.ask c).2.isCancelled = true
    simp only [World.ask]
    split <;> exact h
  | _ => exact ⟨_, _, rfl, h⟩

end World

/-- What waits goes on to wait no more often than this, however its wait ends. -/
def Waiting.WaitsAtMost (x : Waiting) (n : Nat) : Prop :=
  x.cancelled.WaitsAtMost n ∧ ∀ w, (x.finish w).1.WaitsAtMost n

namespace Program

/-- A program that comes to a wait can wait less often after it. -/
theorem WaitsAtMost.advance {p : Program Unit} {n : Nat} (h : p.WaitsAtMost n) {w : World}
    {x : Waiting} (hx : (p.advance w).1 = some x) : ∃ m < n, x.WaitsAtMost m := by
  induction p generalizing n w with
  | pure _ => cases hx
  | step e next ih =>
    rw [Program.advance] at hx
    rcases h with ⟨hprompt, hnext⟩ | ⟨m, hm, hnext⟩
    · obtain ⟨r, v, hbegin⟩ := World.begin_of_not_takesTime hprompt w
      rw [hbegin] at hx
      exact ih r (hnext r) hx
    · generalize w.begin e = y at hx
      obtain ⟨progress, v⟩ := y
      cases progress with
      | done r =>
        obtain ⟨k, hk, hwaits⟩ := ih r (hnext r) hx
        exact ⟨k, Nat.lt_trans hk hm, hwaits⟩
      | waiting end_ finish cancelled =>
        obtain rfl := Option.some.inj hx
        exact ⟨m, hm, hnext cancelled, fun u => hnext (finish u).1⟩

/-- Once deliveries are cancelled, a program goes on to its end. -/
theorem advance_of_isCancelled (p : Program Unit) {w : World} (h : w.isCancelled = true) :
    (p.advance w).1 = none ∧ (p.advance w).2.isCancelled = true := by
  induction p generalizing w with
  | pure _ => exact ⟨rfl, h⟩
  | step e next ih =>
    obtain ⟨r, v, hbegin, hv⟩ := World.begin_of_isCancelled h e
    rw [Program.advance, hbegin]
    exact ih r hv

end Program

/-! ## Bounds together -/

/-- Each of these has a bound, and together they come to this at most. -/
def Within {α : Type} (R : α → Nat → Prop) : List α → Nat → Prop
  | [], _ => True
  | x :: xs, n => ∃ m k, R x m ∧ Within R xs k ∧ m + k ≤ n

section

variable {α β : Type} {R : α → Nat → Prop} {S : β → Nat → Prop} {xs ys : List α} {m n : Nat}

theorem Within.mono (h : Within R xs m) (hmn : m ≤ n) : Within R xs n := by
  cases xs with
  | nil => exact trivial
  | cons x xs =>
    obtain ⟨k, l, hx, hxs, hkl⟩ := h
    exact ⟨k, l, hx, hxs, Nat.le_trans hkl hmn⟩

theorem Within.append (hx : Within R xs m) (hy : Within R ys n) : Within R (xs ++ ys) (m + n) := by
  induction xs generalizing m with
  | nil => exact hy.mono (Nat.le_add_left ..)
  | cons x xs ih =>
    obtain ⟨k, l, hfirst, hrest, hkl⟩ := hx
    exact ⟨k, l + n, hfirst, ih hrest, by omega⟩

theorem Within.map {f : α → β} (h : Within R xs n) (hf : ∀ x m, R x m → S (f x) m) :
    Within S (xs.map f) n := by
  induction xs generalizing n with
  | nil => exact trivial
  | cons x xs ih =>
    obtain ⟨k, l, hfirst, hrest, hkl⟩ := h
    exact ⟨k, l, hf x k hfirst, ih hrest, hkl⟩

end

namespace Loop

/-- Whoever goes on like this waits no more often than this, and does not take a
cancellation back. -/
def ReadyWithin (f : World → Program Unit × World) (n : Nat) : Prop :=
  ∀ w, (f w).1.WaitsAtMost n ∧ (w.isCancelled = true → (f w).2.isCancelled = true)

/-- Whoever waits does so this often at most, counting this time. -/
def WaitingWithin (x : CpuAlert.Waiting) (n : Nat) : Prop := ∃ m < n, x.WaitsAtMost m

/-- The deliveries of a loop wait no more often than this, counting the waits that
have begun. -/
def Owes (l : Loop) (n : Nat) : Prop :=
  ∃ a b, Within ReadyWithin l.ready a ∧ Within WaitingWithin l.waiting b ∧ a + b ≤ n

theorem readyWithin_resume {x : CpuAlert.Waiting} {n : Nat} (h : x.WaitsAtMost n) :
    ReadyWithin (Waiting.resume x) n := by
  intro w
  by_cases hw : w.isCancelled = true
  · rw [Waiting.resume, if_pos hw]
    exact ⟨h.1, id⟩
  · rw [Waiting.resume, if_neg hw]
    exact ⟨h.2 w, fun h => absurd h hw⟩

/-- Those of them who wait no longer have a wait behind them. -/
theorem within_partition {xs : List CpuAlert.Waiting} {n : Nat} (h : Within WaitingWithin xs n)
    (due : CpuAlert.Waiting → Bool) :
    ∃ a b, Within ReadyWithin ((xs.filter due).map Waiting.resume) a ∧
      Within WaitingWithin (xs.filter fun x => !due x) b ∧
      a + b + (xs.filter due).length ≤ n := by
  induction xs generalizing n with
  | nil => exact ⟨0, 0, trivial, trivial, Nat.zero_le _⟩
  | cons x xs ih =>
    obtain ⟨k, l, ⟨m, hm, hx⟩, hrest, hkl⟩ := h
    obtain ⟨a, b, hdue, hlater, hab⟩ := ih hrest
    cases hdue' : due x with
    | true =>
      -- its wait is over, and what is behind it waits once less
      refine ⟨m + a, b, ?_, ?_, ?_⟩
      · rw [List.filter_cons_of_pos hdue']
        exact ⟨m, a, readyWithin_resume hx, hdue, Nat.le_refl _⟩
      · rw [List.filter_cons_of_neg (by simp [hdue'])]
        exact hlater
      · rw [List.filter_cons_of_pos hdue', List.length_cons]
        omega
    | false =>
      refine ⟨a, k + b, ?_, ?_, ?_⟩
      · rw [List.filter_cons_of_neg (by simp [hdue'])]
        exact hdue
      · rw [List.filter_cons_of_pos (by simp [hdue'])]
        exact ⟨k, b, ⟨m, hm, hx⟩, hlater, Nat.le_refl _⟩
      · rw [List.filter_cons_of_neg (by simp [hdue'])]
        omega

/-! ## Settling -/

variable {s : Service} {l l' l'' : Loop} {n : Nat}

/-- The loop stops listening when deliveries are cancelled, for nothing else, and for
good. -/
structure Hears (l l' : Loop) : Prop where
  cancelled : l.world.isCancelled = true → l'.world.isCancelled = true
  closed : l.listening = false → l'.listening = false
  stops : l'.listening = false → l.listening = false ∨ l'.world.isCancelled = true

theorem hears_of_eq (hcancelled : l'.world.isCancelled = l.world.isCancelled)
    (hlistening : l'.listening = l.listening) : Hears l l' :=
  ⟨fun h => hcancelled.trans h, fun h => hlistening.trans h,
    fun h => .inl (hlistening.symm.trans h)⟩

theorem Hears.trans (h : Hears l l') (h' : Hears l' l'') : Hears l l'' where
  cancelled hl := h'.cancelled (h.cancelled hl)
  closed hl := h'.closed (h.closed hl)
  stops hl := (h'.stops hl).elim (fun hl => (h.stops hl).imp_right h'.cancelled) .inr

/-- If the loop listened until deliveries were cancelled, it still does. -/
theorem Hears.listens (h : Hears l l') (hl : l.listening = false → l.world.isCancelled = true)
    (hl' : l'.listening = false) : l'.world.isCancelled = true :=
  (h.stops hl').elim (fun hclosed => h.cancelled (hl hclosed)) id

/-- A cancellation is heeded: nobody waits any more, and the loop does not listen. -/
def Heeds (l : Loop) : Prop := l.world.isCancelled = true → l.waiting = [] ∧ l.listening = false

/-- Nobody can go on any more, nothing has got more, and if deliveries were cancelled,
that is heeded. -/
structure Settles (n : Nat) (l l' : Loop) : Prop where
  ready : l'.ready = []
  owes : l'.Owes n
  waits : l'.waits = l.waits
  heeds : l'.Heeds
  hears : Hears l l'

/-- Nobody can go on. -/
theorem settles_refl (hready : l.ready = []) (h : l.Owes n) (hheeds : l.Heeds) : Settles n l l :=
  ⟨hready, h, rfl, hheeds, hears_of_eq rfl rfl⟩

/-- Whatever comes before does not count. -/
theorem Settles.after (h : Settles n l' l'') (hwaits : l'.waits = l.waits) (hhears : Hears l l') :
    Settles n l l'' :=
  ⟨h.ready, h.owes, h.waits.trans hwaits, h.heeds, hhears.trans h.hears⟩

/-- How many turns may be needed. -/
def work (l : Loop) : Nat :=
  if l.world.isCancelled then l.ready.length else 2 * l.ready.length + l.waiting.length

theorem Owes.wakeCancelled (h : l.Owes n) : l.wakeCancelled.Owes n := by
  obtain ⟨a, b, hready, hwaiting, hab⟩ := h
  rw [Loop.wakeCancelled]
  split
  · refine ⟨a + b, 0, hready.append (hwaiting.map fun x m hx => ?_), trivial, hab⟩
    obtain ⟨k, hk, hx⟩ := hx
    exact fun w => ⟨hx.1.mono (Nat.le_of_lt hk), id⟩
  · exact ⟨a, b, hready, hwaiting, hab⟩

theorem waits_wakeCancelled (l : Loop) : l.wakeCancelled.waits = l.waits := by
  rw [wakeCancelled]
  split <;> rfl

theorem hears_wakeCancelled (l : Loop) : Hears l l.wakeCancelled := by
  rw [wakeCancelled]
  split
  · rename_i hcancelled
    exact ⟨id, fun _ => rfl, fun _ => .inr hcancelled⟩
  · exact hears_of_eq rfl rfl

theorem heeds_wakeCancelled (l : Loop) : l.wakeCancelled.Heeds := by
  rw [wakeCancelled]
  split
  · exact fun _ => ⟨rfl, rfl⟩
  · rename_i hcalm
    exact fun hcancelled => absurd hcancelled hcalm

/-- A cancellation makes those go on who wait. -/
theorem work_wakeCancelled (l : Loop) :
    l.wakeCancelled.work = if l.world.isCancelled = true then l.ready.length + l.waiting.length
      else 2 * l.ready.length + l.waiting.length := by
  by_cases h : l.world.isCancelled = true
  · simp [wakeCancelled, work, h]
  · simp [wakeCancelled, work, h]

/-- The loop after a turn of whoever is first. -/
def afterTurn (l : Loop) (f : World → Program Unit × World)
    (rest : List (World → Program Unit × World)) : Loop :=
  { l with
    world := ((f l.world).1.advance (f l.world).2).2
    ready := rest
    waiting := l.waiting ++ ((f l.world).1.advance (f l.world).2).1.toList }

section

variable {f : World → Program Unit × World} {rest : List (World → Program Unit × World)}

theorem turns_succ (hready : l.ready = f :: rest) (k : Nat) :
    turns (k + 1) l = turns k (l.afterTurn f rest).wakeCancelled := by
  simp only [turns, hready]
  rfl

theorem Owes.afterTurn (h : l.Owes n) (hready : l.ready = f :: rest) :
    (l.afterTurn f rest).Owes n := by
  obtain ⟨a, b, ha, hb, hab⟩ := h
  rw [hready] at ha
  obtain ⟨m, k, hf, hrest, hmk⟩ := ha
  have hwaits := (hf l.world).1
  refine ⟨k, b + m, hrest, hb.append ?_, by omega⟩
  cases hx : ((f l.world).1.advance (f l.world).2).1 with
  | none => exact trivial
  | some x => exact ⟨m, 0, hwaits.advance hx, trivial, Nat.le_refl _⟩

/-- A turn does not take a cancellation back. -/
theorem hears_afterTurn (h : l.Owes n) (hready : l.ready = f :: rest) :
    Hears l (l.afterTurn f rest) := by
  obtain ⟨a, b, ha, -⟩ := h
  rw [hready] at ha
  obtain ⟨m, k, hf, -⟩ := ha
  refine ⟨fun hcancelled => ?_, id, .inl⟩
  exact ((f l.world).1.advance_of_isCancelled ((hf l.world).2 hcancelled)).2

/-- With every turn there is less to do, also if it brings about a cancellation. -/
theorem work_afterTurn (h : l.Owes n) (hheeds : l.Heeds) (hready : l.ready = f :: rest) :
    (l.afterTurn f rest).wakeCancelled.work < l.work := by
  obtain ⟨a, b, ha, -⟩ := h
  rw [hready] at ha
  obtain ⟨m, k, hf, -⟩ := ha
  have hkeeps := (hf l.world).2
  have hlength : ((f l.world).1.advance (f l.world).2).1.toList.length ≤ 1 := by
    cases ((f l.world).1.advance (f l.world).2).1 <;> simp
  rw [work_wakeCancelled, work]
  simp only [afterTurn, hready, List.length_append, List.length_cons]
  by_cases hbefore : l.world.isCancelled = true
  · -- nobody waits any more
    obtain ⟨hnone, hafter⟩ := (f l.world).1.advance_of_isCancelled (hkeeps hbefore)
    rw [if_pos hafter, if_pos hbefore, hnone, (hheeds hbefore).1]
    simp
  · -- a cancellation makes those who waited go on
    rw [if_neg hbefore]
    split <;> omega

end

/-- Enough turns leave nobody who can go on. -/
theorem settles_turns (h : l.Owes n) (hheeds : l.Heeds) {k : Nat} (hwork : l.work ≤ k) :
    Settles n l (turns k l) := by
  induction k generalizing l with
  | zero =>
    refine settles_refl (List.length_eq_zero_iff.mp ?_) h hheeds
    rw [work] at hwork
    split at hwork <;> omega
  | succ k ih =>
    cases hready : l.ready with
    | nil =>
      have hturns : turns (k + 1) l = l := by simp only [turns, hready]
      rw [hturns]
      exact settles_refl hready h hheeds
    | cons f rest =>
      rw [turns_succ hready]
      have hless := work_afterTurn h hheeds hready
      have hrest := ih (h.afterTurn hready).wakeCancelled (heeds_wakeCancelled _) (by omega)
      exact hrest.after (waits_wakeCancelled _)
        ((hears_afterTurn h hready).trans (hears_wakeCancelled _))

/-- Once everybody has settled nobody can go on. -/
theorem settles_settle (h : l.Owes n) : Settles n l l.settle := by
  have hwork : l.wakeCancelled.work ≤
      2 * (l.wakeCancelled.ready.length + l.wakeCancelled.waiting.length) := by
    rw [work]
    split <;> omega
  exact (settles_turns h.wakeCancelled (heeds_wakeCancelled l) hwork).after (waits_wakeCancelled l)
    (hears_wakeCancelled l)

/-! ## Time passes -/

/-- A loop that differs in its world, in when it cleans up, or in what it owes so
far. -/
theorem Owes.of_eq (h : l.Owes n) (hready : l'.ready = l.ready)
    (hwaiting : l'.waiting = l.waiting) : l'.Owes n := by
  obtain ⟨a, b, ha, hb, hab⟩ := h
  exact ⟨a, b, hready ▸ ha, hwaiting ▸ hb, hab⟩

theorem Owes.mono {m : Nat} (h : l.Owes m) (hmn : m ≤ n) : l.Owes n := by
  obtain ⟨a, b, ha, hb, hab⟩ := h
  exact ⟨a, b, ha, hb, Nat.le_trans hab hmn⟩

/-- A cleanup has nothing to do with cancellations. -/
theorem isCancelled_run_cleanup (s : Service) (w : World) :
    (s.cleanup.run w).2.isCancelled = w.isCancelled := by
  have huses : s.cleanup.Uses fun e =>
      ∀ v : World, (v.perform e).2.isCancelled = v.isCancelled := by
    refine Service.cleanup_uses (fun interval v => ?_) (fun _ => rfl) (fun _ => rfl)
      fun cutoff v => ?_
    · rw [World.perform_claimCleanup]
      split <;> rfl
    · rw [World.perform_ask, World.ask_snd]
  exact (huses.run (·.isCancelled = w.isCancelled) (fun v _ hv he => ⟨trivial, (he v).trans hv⟩)
    rfl).2

theorem cleanUp_eq (s : Service) (l : Loop) :
    ∃ world nextCleanup, cleanUp s l = { l with world, nextCleanup } ∧
      world.isCancelled = l.world.isCancelled := by
  rw [cleanUp]
  split
  · exact ⟨_, _, rfl, isCancelled_run_cleanup s l.world⟩
  · exact ⟨_, _, rfl, rfl⟩

/-- When the time has come for some who wait, their waits are over. -/
theorem settles_moveTo (s : Service) (time : Nat)
    (h : l.Owes (n + (l.waiting.filter (·.until_ ≤ time)).length)) :
    Settles n l (moveTo s l time) := by
  obtain ⟨world, nextCleanup, hclean, hcancelled⟩ :=
    cleanUp_eq s { l with world := { l.world with uptime := time } }
  rw [moveTo, hclean, List.partition_eq_filter_filter]
  obtain ⟨a, b, ha, hb, hab⟩ := h
  obtain ⟨a', b', hdue, hlater, hab'⟩ := within_partition hb fun x => decide (x.until_ ≤ time)
  refine (settles_settle (l := { l with
      world, nextCleanup
      ready := l.ready ++ (l.waiting.filter fun x => decide (x.until_ ≤ time)).map Waiting.resume
      waiting := l.waiting.filter fun x => !decide (x.until_ ≤ time) })
    ⟨a + a', b', ha.append hdue, hlater, by omega⟩).after rfl ?_
  exact hears_of_eq hcancelled rfl

theorem settles_passTo (s : Service) (target k : Nat) (hready : l.ready = []) (h : l.Owes n)
    (hheeds : l.Heeds) : Settles n l (passTo s target k l) := by
  have hwaited (time : Nat) : Settles n l { l with world := { l.world with uptime := time } } :=
    ⟨hready, h.of_eq rfl rfl, rfl, hheeds, hears_of_eq rfl rfl⟩
  induction k generalizing l with
  | zero => exact hwaited _
  | succ k ih =>
    rw [passTo]
    split
    · rename_i t _
      split
      · have hmoved := settles_moveTo s t (h.mono (Nat.le_add_right n _))
        have hlater (time : Nat) : Settles n (moveTo s l t)
            { moveTo s l t with world := { (moveTo s l t).world with uptime := time } } :=
          ⟨hmoved.ready, hmoved.owes.of_eq rfl rfl, rfl, hmoved.heeds, hears_of_eq rfl rfl⟩
        exact (ih hmoved.ready hmoved.owes hmoved.heeds hlater).after hmoved.waits hmoved.hears
      · exact hwaited _
    · exact hwaited _

/-! ## The whole loop -/

/-- Nobody can go on, those who wait do so no more often than the loop has counted, and
the loop listens unless deliveries are cancelled. -/
structure IsAtRest (l : Loop) : Prop where
  ready : l.ready = []
  owes : l.Owes l.waits
  heeds : l.Heeds
  listens : l.listening = false → l.world.isCancelled = true

theorem Settles.isAtRest (h : Settles l.waits l l')
    (hlistens : l.listening = false → l.world.isCancelled = true) : l'.IsAtRest :=
  ⟨h.ready, h.waits ▸ h.owes, h.heeds, h.hears.listens hlistens⟩

theorem IsAtRest.listening_eq (h : l.IsAtRest) : l.listening = !l.world.isCancelled := by
  cases hcancelled : l.world.isCancelled with
  | true => exact (h.heeds hcancelled).2
  | false =>
    by_contra hl
    have hfalse : l.listening = false := by simpa using hl
    rw [h.listens hfalse] at hcancelled
    cases hcancelled

theorem IsAtRest.settles_pass (h : l.IsAtRest) (s : Service) (milliseconds : Nat) :
    Settles l.waits l (pass s l milliseconds) :=
  settles_passTo s _ _ h.ready h.owes h.heeds

theorem IsAtRest.pass (h : l.IsAtRest) (s : Service) (milliseconds : Nat) :
    (pass s l milliseconds).IsAtRest :=
  (h.settles_pass s milliseconds).isAtRest h.listens

/-- What comes out of a snapshot is counted when its deliveries begin. -/
theorem owes_take (s : Service) (snapshot : Snapshot) (h : l.Owes l.waits) :
    (take s l snapshot).Owes (take s l snapshot).waits := by
  obtain ⟨a, b, ha, hb, hab⟩ := h
  have hnew (pending : List Pending) : Within ReadyWithin (pending.map fun p w => (s.deliver p, w))
      (pending.foldr (fun p n => waitsOf s p + n) 0) := by
    induction pending with
    | nil => exact trivial
    | cons p ps ih => exact ⟨_, _, fun _ => ⟨s.deliver_waitsAtMost p, id⟩, ih, Nat.le_refl _⟩
  refine ⟨_, b, ha.append (hnew (l.world.perform (.evaluate snapshot)).1), hb, ?_⟩
  simp only [take]
  omega

theorem owes_foldl_take (s : Service) (snapshots : List Snapshot) (h : l.Owes l.waits) :
    (snapshots.foldl (take s) l).Owes (snapshots.foldl (take s) l).waits := by
  induction snapshots generalizing l with
  | nil => exact h
  | cons snapshot rest ih => exact ih (owes_take s snapshot h)

/-- Taking snapshots cancels nothing. -/
theorem hears_foldl_take (s : Service) (snapshots : List Snapshot) (l : Loop) :
    Hears l (snapshots.foldl (take s) l) := by
  induction snapshots generalizing l with
  | nil => exact hears_of_eq rfl rfl
  | cons snapshot rest ih =>
    have hfirst : Hears l (take s l snapshot) := hears_of_eq rfl rfl
    exact hfirst.trans (ih _)

theorem IsAtRest.input (h : l.IsAtRest) (s : Service) (capacity : Nat) (i : Input) :
    (input s capacity l i).2.IsAtRest ∧ Hears l (input s capacity l i).2 := by
  have hpass {l' : Loop} (h' : l'.IsAtRest) (hhears : Hears l l') (milliseconds : Nat) :
      (Loop.pass s l' milliseconds).IsAtRest ∧ Hears l (Loop.pass s l' milliseconds) :=
    ⟨h'.pass s milliseconds, hhears.trans (h'.settles_pass s milliseconds).hears⟩
  cases i with
  | publish snapshots =>
    have hpublish : (publish s capacity l snapshots).2.IsAtRest ∧
        Hears l (publish s capacity l snapshots).2 := by
      rw [publish]
      split
      · have htaken := hears_foldl_take s
          (snapshots.drop (snapshots.length - feedSize capacity)) l
        have hsettled := settles_settle (owes_foldl_take s
          (snapshots.drop (snapshots.length - feedSize capacity)) h.owes)
        exact ⟨hsettled.isAtRest (htaken.listens h.listens), htaken.trans hsettled.hears⟩
      · exact ⟨h, hears_of_eq rfl rfl⟩
    exact hpass hpublish.1 hpublish.2 1
  | sleep milliseconds => exact hpass h (hears_of_eq rfl rfl) _
  | cancel =>
    have hfired : Hears l { l with world := l.world.fire } := ⟨fun _ => rfl, id, .inl⟩
    have hsettled := settles_settle (l := { l with world := l.world.fire }) (h.owes.of_eq rfl rfl)
    exact hpass (hsettled.isAtRest (hfired.listens h.listens)) (hfired.trans hsettled.hears) 1

theorem IsAtRest.inputs (h : l.IsAtRest) (s : Service) (capacity : Nat) (is : List Input) :
    (inputs s capacity l is).2.IsAtRest ∧ Hears l (inputs s capacity l is).2 := by
  induction is generalizing l with
  | nil => exact ⟨h, hears_of_eq rfl rfl⟩
  | cons i is ih =>
    obtain ⟨hfirst, hhears⟩ := h.input s capacity i
    exact ⟨(ih hfirst).1, hhears.trans (ih hfirst).2⟩

/-- If the loop does not listen any more, the next event is the end of a wait. -/
theorem exists_due {t : Nat} (hlistening : l.listening = false) (h : l.nextTime = some t) :
    0 < (l.waiting.filter (·.until_ ≤ t)).length := by
  simp only [nextTime, hlistening, Bool.false_eq_true, if_false, List.append_nil] at h
  obtain ⟨x, hx, rfl⟩ := List.mem_map.mp (List.min?_mem h)
  exact List.length_pos_of_mem (List.mem_filter.mpr ⟨hx, by simp⟩)

theorem waiting_eq_nil (hlistening : l.listening = false) (h : l.nextTime = none) :
    l.waiting = [] := by
  simp only [nextTime, hlistening, Bool.false_eq_true, if_false, List.append_nil] at h
  exact List.map_eq_nil_iff.mp (List.min?_eq_none_iff.mp h)

/-- So many waits are enough to end them all. -/
theorem drain_atRest (s : Service) (hready : l.ready = []) (hlistening : l.listening = false)
    (h : l.Owes n) :
    (drain s n l).ready = [] ∧ (drain s n l).waiting = [] ∧ Hears l (drain s n l) := by
  induction n generalizing l with
  | zero =>
    obtain ⟨a, b, -, hb, hab⟩ := h
    refine ⟨hready, ?_, hears_of_eq rfl rfl⟩
    show l.waiting = []
    cases hwaiting : l.waiting with
    | nil => rfl
    | cons x xs =>
      rw [hwaiting] at hb
      obtain ⟨m, k, ⟨j, hj, -⟩, -, hmk⟩ := hb
      omega
  | succ n ih =>
    rw [drain]
    split
    · rename_i t ht
      have hdue := exists_due hlistening ht
      have hmoved := settles_moveTo s t (l := l) (n := n) (h.mono (by omega))
      obtain ⟨hdone, hended, hhears⟩ :=
        ih hmoved.ready (hmoved.hears.closed hlistening) hmoved.owes
      exact ⟨hdone, hended, hmoved.hears.trans hhears⟩
    · rename_i hnone
      exact ⟨hready, waiting_eq_nil hlistening hnone, hears_of_eq rfl rfl⟩

/-- When the loop has returned, nobody is under way. -/
theorem IsAtRest.close (h : l.IsAtRest) (s : Service) :
    (close s l).ready = [] ∧ (close s l).waiting = [] ∧
      (l.world.isCancelled = true → (close s l).world.isCancelled = true) := by
  obtain ⟨hready, hwaiting, hhears⟩ :=
    drain_atRest s (l := { l with listening := false }) h.ready rfl (h.owes.of_eq rfl rfl)
  exact ⟨hready, hwaiting, hhears.cancelled⟩

/-- A loop that has just been started is at rest. -/
theorem isAtRest_start (s : Service) (w : World) : (start s w).IsAtRest where
  ready := rfl
  owes := ⟨0, 0, trivial, trivial, Nat.le_refl 0⟩
  heeds hcancelled := ⟨rfl, congrArg (!·) hcancelled⟩
  listens hl := by simpa [start] using hl

/-! ## What the loop takes -/

/-- The inputs that come before deliveries are cancelled. -/
def heard (s : Service) (capacity : Nat) (l : Loop) : List Input → List Input
  | [] => []
  | i :: is => if l.world.isCancelled then [] else i :: heard s capacity (input s capacity l i).2 is

theorem heard_of_isCancelled (h : l.world.isCancelled = true) (s : Service) (capacity : Nat)
    (is : List Input) : heard s capacity l is = [] := by
  cases is with
  | nil => rfl
  | cons i is => rw [heard, if_pos h]

/-- If deliveries are not cancelled in the end, they never were. -/
theorem heard_eq_self (hl : l.IsAtRest) {s : Service} {capacity : Nat} {is : List Input}
    (h : (inputs s capacity l is).2.world.isCancelled = false) : heard s capacity l is = is := by
  induction is generalizing l with
  | nil => rfl
  | cons i is ih =>
    have hcalm : l.world.isCancelled ≠ true := fun hcancelled => by
      rw [(hl.inputs s capacity (i :: is)).2.cancelled hcancelled] at h
      cases h
    rw [heard, if_neg hcalm, ih (hl.input s capacity i).1 h]

variable {ι : Type} [DecidableEq ι]

/-- The loop takes what the feed holds of the inputs that it hears. -/
theorem IsAtRest.goesOn_inputs (h : l.IsAtRest) (capacity : Nat) (is : List Input) :
    GoesOn ι s l ((heard s capacity l is).flatMap (·.held capacity))
      (Loop.inputs s capacity l is).2 := by
  induction is generalizing l with
  | nil => exact .refl l
  | cons i is ih =>
    obtain ⟨hrest, hhears⟩ := h.input s capacity i
    have hgoes := (goesOn_input (ι := ι) (s := s) capacity l i).trans (ih hrest)
    rw [h.listening_eq] at hgoes
    cases hcancelled : l.world.isCancelled with
    | true =>
      rw [hcancelled, heard_of_isCancelled (hhears.cancelled hcancelled)] at hgoes
      rw [heard_of_isCancelled hcancelled]
      exact hgoes
    | false =>
      rw [hcancelled] at hgoes
      rw [heard, hcancelled]
      exact hgoes

/-- The snapshots that the loop takes when it is fed with inputs: what the feed holds of
them before deliveries are cancelled. -/
def consumed (s : Service) (capacity : Nat) (is : List Input) (w : World) : List Snapshot :=
  (heard s capacity (pass s (start s w) 1) is).flatMap (·.held capacity)

/-- If deliveries are never cancelled, the loop takes all that the feed holds. -/
theorem consumed_eq {capacity : Nat} {is : List Input} {w : World}
    (h : (play s capacity is w).2.isCancelled = false) :
    consumed s capacity is w = is.flatMap (·.held capacity) := by
  have hrest := (isAtRest_start s w).pass s 1
  refine congrArg (List.flatMap (·.held capacity)) (heard_eq_self hrest ?_)
  by_contra hcancelled
  have hclosed := ((hrest.inputs s capacity is).1.close s).2.2 (by simpa using hcancelled)
  rw [show (play s capacity is w).2.isCancelled = true from hclosed] at h
  cases h

/-- The loop fed with inputs is a watch in which nobody calls. It takes these snapshots,
and when it returns every delivery that has begun has ended. -/
theorem play_ends (s : Service) (operations : ι → Operation) (capacity : Nat) (is : List Input)
    {w : World} (hclear : w.cleaning = false) :
    ∃ t, (Watch.start s operations w).GoesUncalled s (consumed s capacity is w) t ∧
      t.world = (play s capacity is w).2 ∧
      ∀ n < t.begun.length, t.HasReturned (.delivery n) none := by
  have hstart : (start s w).Tracks (Watch.start s operations w) :=
    ⟨rfl, hclear, rfl, [], [], rfl, rfl, .nil, nofun, nofun, nofun, nofun⟩
  have hrest := (isAtRest_start s w).pass s 1
  have hplay := ((goesOn_pass (ι := ι) (s := s) (start s w) 1).trans
    (hrest.goesOn_inputs capacity is)).trans (goesOn_close _)
  rw [List.nil_append, List.append_nil] at hplay
  obtain ⟨t, hgoes, htracks⟩ := hplay _ hstart
  obtain ⟨hready, hwaiting, -⟩ := (hrest.inputs s capacity is).1.close s
  obtain ⟨ready, waiting, hnumbers⟩ := htracks.numbers
  -- nobody is left in the lists of the loop
  have hready' : ready = [] := List.map_eq_nil_iff.mp (hnumbers.ready_eq.trans hready)
  have hwaiting' : waiting = [] := List.map_eq_nil_iff.mp (hnumbers.waiting_eq.trans hwaiting)
  subst hready' hwaiting'
  exact ⟨t, hgoes, htracks.world, fun n hn => hnumbers.returned n hn List.not_mem_nil⟩

end Loop

end CpuAlert
