import CpuAlert.Proofs.Service.Elsewhere
import CpuAlert.Proofs.Service.Watch

/-!
# The loop alone

The loop as it runs by itself takes turns with its deliveries in an order of its
own. That is one of the ways in which a watch can go in which nobody else does
anything, so whatever is true of all watches is true of the loop.

## Main definitions

* `Effect.IsUnhindered` — an effect that nobody has to wait for
* `Watch.Reaches` — a watch can go on to another state
* `Watch.MovesAlone` — somebody alone moves on
* `Watch.GoesUncalled` — nobody calls meanwhile
* `Loop.Tracks` — the loop is in the state of a watch
* `Loop.GoesOn` — the loop goes on as a watch and takes snapshots
* `Loop.Input.held` — what the feed holds of an input

## Main results

* `Watch.movesAlone_advance` — a program up to its next wait
* `Loop.goesOn_input`, `Loop.goesOn_close` — the loop with an input, and up to its return
-/

namespace CpuAlert

open Time (Instant)

/-! ## Effects that nobody has to wait for -/

namespace Effect

/-- The effect has nothing to do with cleaning up, and nobody holds it up. -/
def IsUnhindered (e : Effect) : Prop := e.IsElsewhere ∧ ∀ w, e.isHeldUp w = false

theorem allowsDelivery_isUnhindered : AllowsDelivery IsUnhindered :=
  ⟨⟨fun _ => ⟨trivial, fun _ => rfl⟩, ⟨trivial, fun _ => rfl⟩⟩,
    fun _ => ⟨fun _ h => (by cases h), fun _ => rfl⟩⟩

end Effect

/-! ## Steps that can be made -/

namespace Session

variable {ι α : Type} [DecidableEq ι] {t : Session ι α} {i : ι} {e : Effect}
  {next : e.Reply → Program α} {finish : World → e.Reply × World} {cancelled : e.Reply}

theorem step_go_done (hi : t.running i = .ready (.step e next))
    (hfree : e.isHeldUp t.world = false)
    {reply : e.Reply} {w : World} (hbegin : t.world.begin e = (.done reply, w)) :
    t.step (.go i) = some (t.record i e reply next w) := by
  simp [step, hi, hfree, hbegin]

theorem step_go_wait (hi : t.running i = .ready (.step e next))
    (hfree : e.isHeldUp t.world = false) {end_ : Nat} {w : World}
    (hbegin : t.world.begin e = (.waiting end_ finish cancelled, w)) :
    t.step (.go i) = some { t with
      world := w
      running := Function.update t.running i (.waiting e finish cancelled next) } := by
  simp [step, hi, hfree, hbegin]

theorem step_finish (hi : t.running i = .waiting e finish cancelled next) :
    t.step (.finish i) = some (t.record i e (finish t.world).1 next (finish t.world).2) := by
  simp only [step, hi]

theorem step_cut (hi : t.running i = .waiting e finish cancelled next) :
    t.step (.cut i) = some (t.record i e cancelled next t.world) := by
  simp only [step, hi]

end Session

namespace Watch

variable {ι : Type} [DecidableEq ι] {s : Service} {t t' t'' : Watch ι} {a : Actor ι}
  {taken taken' : List Snapshot}

/-- The watch can go on to this state, and the loop takes these snapshots on the way. -/
def Reaches (s : Service) (t : Watch ι) (taken : List Snapshot) (t' : Watch ι) : Prop :=
  ∃ ms, t.play s ms = some t' ∧ Move.taken ms = taken

theorem Reaches.refl (t : Watch ι) : t.Reaches s [] t := ⟨[], rfl, rfl⟩

theorem Reaches.of_step {m : Move ι} (h : t.step s m = some t') :
    t.Reaches s (Move.taken [m]) t' :=
  ⟨[m], by rw [play, h]; rfl, rfl⟩

theorem Reaches.trans (h : t.Reaches s taken t') (h' : t'.Reaches s taken' t'') :
    t.Reaches s (taken ++ taken') t'' := by
  obtain ⟨ms, hms, rfl⟩ := h
  obtain ⟨ms', hms', rfl⟩ := h'
  refine ⟨ms ++ ms', ?_, List.filterMap_append⟩
  induction ms generalizing t with
  | nil =>
    cases hms
    exact hms'
  | cons m ms ih =>
    obtain ⟨u, hu, hrest⟩ := Option.bind_eq_some_iff.mp hms
    rw [List.cons_append, play, hu]
    exact ih hrest

/-- Somebody alone moves on: everybody else is where they were, and the loop takes no
snapshot. -/
structure MovesAlone (s : Service) (a : Actor ι) (t t' : Watch ι) : Prop where
  reaches : t.Reaches s [] t'
  begun : t'.begun = t.begun
  others : ∀ b, b ≠ a → t'.running b = t.running b

theorem MovesAlone.refl (a : Actor ι) (t : Watch ι) : t.MovesAlone s a t :=
  ⟨.refl t, rfl, fun _ _ => rfl⟩

theorem MovesAlone.trans (h : t.MovesAlone s a t') (h' : t'.MovesAlone s a t'') :
    t.MovesAlone s a t'' where
  reaches := h.reaches.trans h'.reaches
  begun := h'.begun.trans h.begun
  others b hb := (h'.others b hb).trans (h.others b hb)

/-- A step of a session in which only one caller moves on. -/
theorem MovesAlone.of_step {c : Choice (Actor ι)} {u : Session (Actor ι) (Option Outcome)}
    (hstep : t.toSession.step c = some u) (hothers : ∀ b, b ≠ a → u.running b = t.running b) :
    t.MovesAlone s a { t with toSession := u } where
  reaches := .of_step (m := .choose c) (by rw [step, hstep]; rfl)
  begun := rfl
  others := hothers

/-- The watch can go on to this state without anybody calling, and the loop takes
these snapshots on the way. -/
structure GoesUncalled (s : Service) (t : Watch ι) (taken : List Snapshot) (t' : Watch ι) :
    Prop where
  reaches : t.Reaches s taken t'
  callers : ∀ i, t'.running (.caller i) = t.running (.caller i)

theorem GoesUncalled.refl (t : Watch ι) : t.GoesUncalled s [] t := ⟨.refl t, fun _ => rfl⟩

theorem GoesUncalled.trans (h : t.GoesUncalled s taken t') (h' : t'.GoesUncalled s taken' t'') :
    t.GoesUncalled s (taken ++ taken') t'' :=
  ⟨h.reaches.trans h'.reaches, fun i => (h'.callers i).trans (h.callers i)⟩

theorem GoesUncalled.of_step {m : Move ι} (h : t.step s m = some t')
    (hcallers : ∀ i, t'.running (.caller i) = t.running (.caller i)) :
    t.GoesUncalled s (Move.taken [m]) t' :=
  ⟨.of_step h, hcallers⟩

theorem MovesAlone.goesUncalled (h : t.MovesAlone s a t') (ha : ∀ i, a ≠ .caller i) :
    t.GoesUncalled s [] t' :=
  ⟨h.reaches, fun i => h.others (.caller i) (ha i).symm⟩

/-! ## A program up to its next wait -/

/-- This is how a delivery goes on that waits. -/
structure Waits (x : Waiting) (r : Running (Option Outcome)) (e : Effect)
    (finish : World → e.Reply × World) (cancelled : e.Reply) (next : e.Reply → Program Unit) :
    Prop where
  running : r = .waiting e finish cancelled fun reply => unheard (next reply)
  keeps : ∀ w, (finish w).2.cleaning = w.cleaning
  finish : x.finish = fun w => (next (finish w).1, (finish w).2)
  cancelled : x.cancelled = next cancelled
  uses : ∀ reply, (next reply).Uses Effect.IsUnhindered

/-- A delivery that waits is in this state. -/
def IsWaitOf (x : Waiting) (r : Running (Option Outcome)) : Prop :=
  ∃ e finish cancelled next, Waits x r e finish cancelled next

/-- A delivery that can go on like this is in this state: it goes on with a
program, or what it waits for ends or is cancelled. -/
def IsReadyOf (f : World → Program Unit × World) (r : Running (Option Outcome)) : Prop :=
  (∃ p : Program Unit, p.Uses Effect.IsUnhindered ∧ f = (fun w => (p, w)) ∧
    r = .ready (unheard p)) ∨
  ∃ x : Waiting, IsWaitOf x r ∧ (f = Loop.Waiting.resume x ∨ f = fun w => (x.cancelled, w))

/-- A program advances until it waits or ends, and nobody else does anything. -/
theorem movesAlone_advance {p : Program Unit} (hp : p.Uses Effect.IsUnhindered)
    (hrunning : t.running a = .ready (unheard p)) :
    ∃ t', t.MovesAlone s a t' ∧ t'.world = (p.advance t.world).2 ∧
      t'.world.cleaning = t.world.cleaning ∧
      (∀ x, (p.advance t.world).1 = some x → IsWaitOf x (t'.running a)) ∧
      ((p.advance t.world).1 = none → t'.HasReturned a none) := by
  -- effect by effect; the first that takes time is where it waits
  induction p generalizing t with
  | pure _ => exact ⟨t, .refl a t, rfl, rfl, nofun, fun _ => hrunning⟩
  | step e next ih =>
    have hfree := hp.1.2 t.world
    obtain ⟨helsewhere, hends⟩ := t.world.elsewhere_begin hp.1.1
    rw [Program.advance]
    cases hbegin : t.world.begin e with
    | mk progress w =>
      rw [hbegin] at helsewhere hends
      cases progress with
      | done reply =>
        have hfirst := MovesAlone.of_step (s := s) (a := a)
          (Session.step_go_done hrunning hfree hbegin) fun b hb => Session.running_record_of_ne hb
        obtain ⟨t', hmoves, hworld, hcleaning, hends⟩ := ih reply (hp.2 reply trivial)
          (t := { t with toSession := t.record a e reply (fun r => unheard (next r)) w })
          (Function.update_self ..)
        exact ⟨t', hfirst.trans hmoves, hworld, hcleaning.trans helsewhere.cleaning, hends⟩
      | waiting until_ finish cancelled =>
        refine ⟨_, .of_step (Session.step_go_wait hrunning hfree hbegin) fun b hb =>
          Function.update_of_ne hb .., rfl, helsewhere.cleaning, ?_, nofun⟩
        rintro x ⟨⟩
        exact ⟨e, finish, cancelled, next, Function.update_self .., fun v => (hends v).cleaning,
          rfl, rfl, fun reply => hp.2 reply trivial⟩

/-- An effect that is done at once, without any lock. -/
def IsPrompt (e : Effect) : Prop :=
  (∀ w, e.isHeldUp w = false) ∧ ∀ w : World, ∃ reply w', w.begin e = (.done reply, w')

/-- Somebody takes the next effect, which is done at once. -/
theorem movesAlone_step {e : Effect} {next : e.Reply → Program (Option Outcome)} {reply : e.Reply}
    {w : World} (hrunning : t.running a = .ready (.step e next))
    (hfree : e.isHeldUp t.world = false) (hbegin : t.world.begin e = (.done reply, w)) :
    ∃ t', t.MovesAlone s a t' ∧ t'.world = w ∧ t'.running a = .ready (next reply) :=
  ⟨{ t with toSession := t.record a e reply next w },
    .of_step (Session.step_go_done hrunning hfree hbegin) fun _ hb =>
      Session.running_record_of_ne hb, rfl, Function.update_self ..⟩

/-- A program of such effects runs as if on its own. -/
theorem movesAlone_run {α : Type} {p : Program α} (hp : p.Uses IsPrompt)
    {f : α → Program (Option Outcome)} (hrunning : t.running a = .ready (p.bind f)) :
    ∃ t', t.MovesAlone s a t' ∧ t'.world = (p.run t.world).2 ∧
      t'.running a = .ready (f (p.run t.world).1) := by
  induction p generalizing t with
  | pure _ => exact ⟨t, .refl a t, rfl, hrunning⟩
  | step e next ih =>
    obtain ⟨⟨hfree, hprompt⟩, hnext⟩ := hp
    obtain ⟨reply, w, hbegin⟩ := hprompt t.world
    have hperform : t.world.perform e = (reply, w) := by rw [World.perform, hbegin]
    rw [Program.run_step, hperform]
    obtain ⟨u, hfirst, rfl, hu⟩ := movesAlone_step (s := s) hrunning (hfree t.world) hbegin
    obtain ⟨t', hmoves, hworld, hdone⟩ := ih reply (hnext reply trivial) hu
    exact ⟨t', hfirst.trans hmoves, hworld, hdone⟩

/-- Whoever has the lock of cleanups is not held up by anybody. -/
theorem closing_isPrompt {α : Type} {q : Program α} (hq : q.Uses Effect.Deletes) :
    q.closing.Uses IsPrompt := by
  have hdeletes {e : Effect} (he : e.Deletes) : IsPrompt e := by
    refine ⟨fun w => ?_, fun w => ⟨_, _, (w.begin_of_deletes he).1⟩⟩
    cases e with
    | acquire | claimCleanup => exact he.elim
    | _ => rfl
  have hend : IsPrompt .endCleanup := ⟨fun _ => rfl, fun w => ⟨_, _, rfl⟩⟩
  exact .bind (hq.mono (fun _ => hdeletes) fun _ h => h) fun _ => ⟨hend, fun _ _ => trivial⟩

/-- If nobody cleans up, neither is a cleanup held up nor does it take any time. -/
theorem movesAlone_cleanup (hclear : t.world.cleaning = false)
    (hrunning : t.running a = .ready (sweeping s)) :
    ∃ t', t.MovesAlone s a t' ∧ t'.world = (s.cleanup.run t.world).2 ∧
      t'.running a = .ready (.pure none) := by
  have hnext (due : Bool) :
      (if due then s.deleteOld.closing else .pure none : Program (Option Nat)).Uses IsPrompt := by
    cases due with
    | false => exact trivial
    | true => exact closing_isPrompt s.deleteOld_deletes
  rw [sweeping, Service.cleanup_eq] at hrunning
  obtain ⟨u, hfirst, hworld₀, hu⟩ :=
    movesAlone_step (s := s) hrunning hclear (t.world.begin_claimCleanup s.cleanupInterval)
  obtain ⟨t', hmoves, hworld, hdone⟩ := movesAlone_run (s := s) (hnext _) hu
  rw [Service.cleanup_eq, Program.run_step, World.perform_claimCleanup]
  exact ⟨t', hfirst.trans hmoves, hworld₀ ▸ hworld, hdone⟩

/-- Whoever can go on does so. -/
theorem movesAlone_resume {f : World → Program Unit × World}
    (h : IsReadyOf f (t.running a)) :
    ∃ t', t.MovesAlone s a t' ∧ t'.world = (f t.world).2 ∧
      t'.world.cleaning = t.world.cleaning ∧
      t'.running a = .ready (unheard (f t.world).1) ∧ (f t.world).1.Uses Effect.IsUnhindered := by
  rcases h with ⟨p, hp, rfl, hrunning⟩ | ⟨x, ⟨e, finish, cancelled, next, hx⟩, hf⟩
  · exact ⟨t, .refl a t, rfl, rfl, hrunning, hp⟩
  have hcut : ∃ t', t.MovesAlone s a t' ∧ t'.world = t.world ∧
      t'.world.cleaning = t.world.cleaning ∧
      t'.running a = .ready (unheard x.cancelled) ∧ x.cancelled.Uses Effect.IsUnhindered :=
    ⟨_, .of_step (Session.step_cut hx.running) fun b hb => Session.running_record_of_ne hb, rfl,
      rfl, hx.cancelled ▸ Function.update_self .., hx.cancelled ▸ hx.uses cancelled⟩
  rcases hf with rfl | rfl
  · by_cases hcancelled : t.world.isCancelled = true
    · have hresume : Loop.Waiting.resume x t.world = (x.cancelled, t.world) := if_pos hcancelled
      rw [hresume]
      exact hcut
    · have hresume : Loop.Waiting.resume x t.world = x.finish t.world := if_neg hcancelled
      rw [hresume, hx.finish]
      exact ⟨_, .of_step (Session.step_finish hx.running) fun b hb =>
        Session.running_record_of_ne hb, rfl, hx.keeps _, Function.update_self .., hx.uses _⟩
  · exact hcut

end Watch

/-! ## The loop in a watch -/

namespace Loop

variable {ι : Type} [DecidableEq ι] {s : Service} {l : Loop} {t t' : Watch ι}
  {taken taken' : List Snapshot}

/-- The deliveries that can go on and those that wait are these, by number; all
others have returned. -/
structure Numbers (l : Loop) (t : Watch ι)
    (ready : List ((World → Program Unit × World) × Nat)) (waiting : List (Waiting × Nat)) :
    Prop where
  ready_eq : ready.map Prod.fst = l.ready
  waiting_eq : waiting.map Prod.fst = l.waiting
  nodup : (ready.map Prod.snd ++ waiting.map Prod.snd).Nodup
  lt : ∀ n ∈ ready.map Prod.snd ++ waiting.map Prod.snd, n < t.begun.length
  returned : ∀ n < t.begun.length, n ∉ ready.map Prod.snd ++ waiting.map Prod.snd →
    t.HasReturned (.delivery n) none
  ready : ∀ x ∈ ready, Watch.IsReadyOf x.1 (t.running (.delivery x.2))
  waiting : ∀ x ∈ waiting, Watch.IsWaitOf x.1 (t.running (.delivery x.2))

/-- The loop is in the state of a watch: nobody cleans up, it has nothing else to do,
and every delivery of its lists is one of the watch. -/
structure Tracks (l : Loop) (t : Watch ι) : Prop where
  world : t.world = l.world
  clear : l.world.cleaning = false
  idle : t.running .loop = .ready (.pure none)
  numbers : ∃ ready waiting, Numbers l t ready waiting

/-- From every watch that it is in the state of, the loop goes on as a watch in
which nobody calls, and takes these snapshots. -/
def GoesOn (ι : Type) [DecidableEq ι] (s : Service) (l : Loop) (taken : List Snapshot)
    (l' : Loop) : Prop :=
  ∀ t : Watch ι, l.Tracks t → ∃ t', t.GoesUncalled s taken t' ∧ l'.Tracks t'

theorem GoesOn.refl (l : Loop) : GoesOn ι s l [] l := fun t ht => ⟨t, .refl t, ht⟩

theorem GoesOn.trans {l' l'' : Loop} (h : GoesOn ι s l taken l') (h' : GoesOn ι s l' taken' l'') :
    GoesOn ι s l (taken ++ taken') l'' := fun t ht => by
  obtain ⟨u, hu, htracks⟩ := h t ht
  obtain ⟨v, hv, htracks⟩ := h' u htracks
  exact ⟨v, hu.trans hv, htracks⟩

omit [DecidableEq ι] in
/-- Whether the loop still listens, when it cleans up and how often deliveries
can wait makes no difference to a watch, and neither do its callers. -/
theorem Tracks.of_eq {l' : Loop} (h : l.Tracks t) (hworld : t'.world = l'.world)
    (hclear : l'.world.cleaning = false) (hready : l'.ready = l.ready)
    (hwaiting : l'.waiting = l.waiting) (hidle : t'.running .loop = .ready (.pure none))
    (hdeliveries : ∀ n, t'.running (.delivery n) = t.running (.delivery n))
    (hbegun : t'.begun = t.begun) : l'.Tracks t' := by
  obtain ⟨ready, waiting, hnumbers⟩ := h.numbers
  refine ⟨hworld, hclear, hidle, ready, waiting, hnumbers.ready_eq.trans hready.symm,
    hnumbers.waiting_eq.trans hwaiting.symm, hnumbers.nodup, hbegun ▸ hnumbers.lt,
    fun n hn hnot => ?_, fun x hx => ?_, fun x hx => ?_⟩
  · exact (hdeliveries n).trans (hnumbers.returned n (hbegun ▸ hn) hnot)
  · exact hdeliveries x.2 ▸ hnumbers.ready x hx
  · exact hdeliveries x.2 ▸ hnumbers.waiting x hx

theorem goesOn_of_eq {l' : Loop} (hworld : l'.world = l.world) (hready : l'.ready = l.ready)
    (hwaiting : l'.waiting = l.waiting) : GoesOn ι s l [] l' := fun t ht =>
  ⟨t, .refl t, ht.of_eq (ht.world.trans hworld.symm) (hworld ▸ ht.clear) hready hwaiting ht.idle
    (fun _ => rfl) rfl⟩

/-- A change of the world that is nobody's. -/
theorem goesOn_world {w : World} {c : Choice (Actor ι)} (hcleaning : w.cleaning = l.world.cleaning)
    (hstep : ∀ t : Watch ι, t.world = l.world →
      t.toSession.step c = some { t.toSession with world := w }) :
    GoesOn ι s l [] { l with world := w } := fun t ht => by
  refine ⟨{ t with world := w }, .of_step (m := .choose c) ?_ fun _ => rfl,
    ht.of_eq rfl (hcleaning.trans ht.clear) rfl rfl ht.idle (fun _ => rfl) rfl⟩
  rw [Watch.step, hstep t ht.world]
  rfl

/-- The clock is moved. -/
theorem goesOn_uptime (l : Loop) (time : Nat) :
    GoesOn ι s l [] { l with world := { l.world with uptime := time } } :=
  goesOn_world (c := .turn l.world.wall time) rfl fun t ht => by rw [Session.step, ht]

/-- Deliveries are cancelled. -/
theorem goesOn_fire (l : Loop) : GoesOn ι s l [] { l with world := l.world.fire } :=
  goesOn_world (c := .cancel) rfl fun t ht => by rw [Session.step, ht]

/-- Some of those that wait are about to go on. -/
theorem goesOn_wake {l : Loop} (wakes : Waiting → Bool)
    {resume : Waiting → World → Program Unit × World}
    (hresume : ∀ x, resume x = Waiting.resume x ∨ resume x = fun w => (x.cancelled, w)) :
    GoesOn ι s l [] { l with
      ready := l.ready ++ (l.waiting.filter wakes).map resume
      waiting := l.waiting.filter fun x => !wakes x } := fun t ht => by
  obtain ⟨ready, waiting, h⟩ := ht.numbers
  refine ⟨t, .refl t, ht.world, ht.clear, ht.idle,
    ready ++ (waiting.filter (wakes ·.1)).map fun x => (resume x.1, x.2),
    waiting.filter (!wakes ·.1), ?_⟩
  have hperm : (((waiting.filter (wakes ·.1)).map fun x => (resume x.1, x.2)).map Prod.snd ++
      (waiting.filter (!wakes ·.1)).map Prod.snd).Perm (waiting.map Prod.snd) := by
    have hsnd : ((waiting.filter (wakes ·.1)).map fun x => (resume x.1, x.2)).map Prod.snd =
        (waiting.filter (wakes ·.1)).map Prod.snd := by
      rw [List.map_map]
      rfl
    rw [hsnd, ← List.map_append]
    exact (List.filter_append_perm (fun x => wakes x.1) waiting).map Prod.snd
  have hnumbers : ((ready ++ (waiting.filter (wakes ·.1)).map fun x => (resume x.1, x.2)).map
      Prod.snd ++ (waiting.filter (!wakes ·.1)).map Prod.snd).Perm
        (ready.map Prod.snd ++ waiting.map Prod.snd) := by
    rw [List.map_append, List.append_assoc]
    exact hperm.append_left _
  constructor
  · rw [List.map_append, h.ready_eq, List.map_map, ← h.waiting_eq, List.filter_map, List.map_map]
    rfl
  · show _ = l.waiting.filter fun x => !wakes x
    rw [← h.waiting_eq, List.filter_map]
    rfl
  · exact hnumbers.nodup_iff.mpr h.nodup
  · exact fun n hn => h.lt n (hnumbers.mem_iff.mp hn)
  · exact fun n hn hnot => h.returned n hn fun hmem => hnot (hnumbers.mem_iff.mpr hmem)
  · intro x hx
    rcases List.mem_append.mp hx with hx | hx
    · exact h.ready x hx
    · obtain ⟨y, hy, rfl⟩ := List.mem_map.mp hx
      exact .inr ⟨y.1, h.waiting y (List.mem_filter.mp hy).1, hresume y.1⟩
  · exact fun x hx => h.waiting x (List.mem_filter.mp hx).1

/-- Cancellation wakes everybody. -/
theorem goesOn_wakeCancelled (l : Loop) : GoesOn ι s l [] l.wakeCancelled := by
  unfold wakeCancelled
  split
  · have hall : l.waiting.filter (fun _ => true) = l.waiting :=
      List.filter_eq_self.mpr fun _ _ => rfl
    have hnone : l.waiting.filter (fun _ => !true) = [] :=
      List.filter_eq_nil_iff.mpr fun _ _ => nofun
    refine (goesOn_wake (fun _ => true) fun _ => .inr rfl).trans (goesOn_of_eq rfl ?_ hnone.symm)
    rw [hall]
  · exact .refl l

/-- Whoever was first in turn has gone on alone until it waits or has returned. -/
theorem Numbers.turn {l : Loop} {f : World → Program Unit × World} {n : Nat}
    {ready : List ((World → Program Unit × World) × Nat)} {waiting : List (Waiting × Nat)}
    (h : Numbers l t ((f, n) :: ready) waiting) (hmoves : t.MovesAlone s (.delivery n) t')
    {x : Option Waiting} (hwaits : ∀ y, x = some y → Watch.IsWaitOf y (t'.running (.delivery n)))
    (hends : x = none → t'.HasReturned (.delivery n) none) (w : World) :
    Numbers { l with world := w, ready := ready.map Prod.fst, waiting := l.waiting ++ x.toList } t'
      ready (waiting ++ x.toList.map fun y => (y, n)) := by
  have hnodup := h.nodup
  rw [List.map_cons, List.cons_append, List.nodup_cons] at hnodup
  -- everybody else stands where they stood
  have hothers : ∀ m ∈ ready.map Prod.snd ++ waiting.map Prod.snd,
      t'.running (.delivery m) = t.running (.delivery m) := fun m hm =>
    hmoves.others (.delivery m) fun hmn => hnodup.1 (Actor.delivery.inj hmn ▸ hm)
  have hperm : (ready.map Prod.snd ++ (waiting ++ x.toList.map fun y => (y, n)).map Prod.snd).Perm
      (x.toList.map (fun _ => n) ++ (ready.map Prod.snd ++ waiting.map Prod.snd)) := by
    rw [List.map_append, List.map_map, ← List.append_assoc]
    exact List.perm_append_comm
  refine ⟨rfl, ?_, ?_, ?_, ?_, ?_, ?_⟩
  · rw [List.map_append, h.waiting_eq, List.map_map]
    exact congrArg _ (List.map_id _)
  · rw [hperm.nodup_iff]
    cases x with
    | none => exact hnodup.2
    | some y => exact List.nodup_cons.mpr hnodup
  · intro m hm
    rw [hmoves.begun]
    rcases List.mem_append.mp (hperm.mem_iff.mp hm) with hm | hm
    · obtain ⟨_, -, rfl⟩ := List.mem_map.mp hm
      exact h.lt n List.mem_cons_self
    · exact h.lt m (List.mem_cons_of_mem _ hm)
  · intro m hm hnot
    rw [hmoves.begun] at hm
    rw [hperm.mem_iff, List.mem_append, not_or] at hnot
    by_cases hmn : m = n
    · subst hmn
      cases x with
      | none => exact hends rfl
      | some y => exact absurd (List.mem_singleton.mpr rfl) hnot.1
    · -- it has returned before
      refine (hmoves.others (.delivery m) fun h => hmn (Actor.delivery.inj h)).trans ?_
      refine h.returned m hm fun hmem => ?_
      rw [List.map_cons, List.cons_append] at hmem
      exact (List.mem_cons.mp hmem).elim hmn hnot.2
  · intro y hy
    rw [hothers y.2 (List.mem_append_left _ (List.mem_map_of_mem hy))]
    exact h.ready y (List.mem_cons_of_mem _ hy)
  · intro y hy
    rcases List.mem_append.mp hy with hy | hy
    · rw [hothers y.2 (List.mem_append_right _ (List.mem_map_of_mem hy))]
      exact h.waiting y hy
    · obtain ⟨z, hz, rfl⟩ := List.mem_map.mp hy
      exact hwaits z (Option.mem_toList.mp hz)

/-- Whoever is first in turn goes on until it waits or ends. -/
theorem goesOn_turn {l : Loop} {f : World → Program Unit × World}
    {rest : List (World → Program Unit × World)} (hready : l.ready = f :: rest) {p : Program Unit}
    {v w : World} {x : Option Waiting} (hresume : f l.world = (p, v))
    (hadvance : p.advance v = (x, w)) :
    GoesOn ι s l [] { l with world := w, ready := rest, waiting := l.waiting ++ x.toList } := by
  intro t ht
  obtain ⟨ready, waiting, h⟩ := ht.numbers
  obtain ⟨⟨_, n⟩, ready, rfl, rfl, rfl⟩ := List.map_eq_cons_iff.mp (h.ready_eq.trans hready)
  have hmine := h.ready _ List.mem_cons_self
  -- its wait ends, or it is at its beginning; then it goes on up to its next wait
  obtain ⟨t₁, hmoves₁, hworld₁, hcleaning₁, hrunning₁, huses⟩ :=
    Watch.movesAlone_resume (s := s) hmine
  rw [ht.world, hresume] at hworld₁ hrunning₁ huses
  obtain ⟨t₂, hmoves₂, hworld₂, hcleaning₂, hwaits, hends⟩ :=
    Watch.movesAlone_advance (s := s) huses hrunning₁
  rw [hworld₁, hadvance] at hworld₂ hwaits hends
  have hmoves := hmoves₁.trans hmoves₂
  have hidle : t₂.running .loop = .ready (.pure none) :=
    (hmoves.others .loop (Actor.delivery_ne_loop n).symm).trans ht.idle
  have hclear : w.cleaning = false :=
    calc w.cleaning
      _ = t₂.world.cleaning := congrArg World.cleaning hworld₂.symm
      _ = l.world.cleaning := by rw [hcleaning₂, hcleaning₁, ht.world]
      _ = false := ht.clear
  exact ⟨t₂, hmoves.goesUncalled nofun, hworld₂, hclear, hidle, ready, _,
    h.turn hmoves hwaits hends w⟩

/-- Everybody who can go on takes a turn, as often as given. -/
theorem goesOn_turns (n : Nat) (l : Loop) : GoesOn ι s l [] (turns n l) := by
  induction n generalizing l with
  | zero => exact .refl l
  | succ n ih =>
    rw [turns]
    split
    · exact .refl l
    · rename_i f rest hready
      exact ((goesOn_turn hready rfl rfl).trans (goesOn_wakeCancelled _)).trans (ih _)

theorem goesOn_settle (l : Loop) : GoesOn ι s l [] l.settle :=
  (goesOn_wakeCancelled l).trans (goesOn_turns _ _)

omit [DecidableEq ι] in
/-- The deliveries of what comes out of a snapshot have the numbers after those
that have begun. -/
theorem Numbers.took {l : Loop} {ready : List ((World → Program Unit × World) × Nat)}
    {waiting : List (Waiting × Nat)} (h : Numbers l t ready waiting) (hworld : t.world = l.world)
    (snapshot : Snapshot) :
    ∃ ready', Numbers (take s l snapshot) (t.took s snapshot) ready' waiting := by
  obtain ⟨pending, hpending⟩ : ∃ pending, pending = (t.world.live.evaluate snapshot).1 := ⟨_, rfl⟩
  have hbegun : (t.took s snapshot).begun = t.begun ++ pending := hpending ▸ rfl
  have hold (n : Nat) (hn : n < t.begun.length) :
      (t.took s snapshot).running (.delivery n) = t.running (.delivery n) := if_pos hn
  have hnew (n : Nat) (hn : ¬ n < t.begun.length) : (t.took s snapshot).running (.delivery n) =
      .ready (Watch.delivering s (t.begun ++ pending)[n]?) := (if_neg hn).trans (hpending ▸ rfl)
  let begins : Pending × Nat → (World → Program Unit × World) × Nat := fun x =>
    (fun w => (s.deliver x.1, w), x.2)
  have hnumbers : ((pending.zipIdx t.begun.length).map begins).map Prod.snd =
      List.range' t.begun.length pending.length := by
    rw [List.map_map, ← List.zipIdx_map_snd]
    rfl
  have hperm : ((ready ++ (pending.zipIdx t.begun.length).map begins).map Prod.snd ++
      waiting.map Prod.snd).Perm (List.range' t.begun.length pending.length ++
        (ready.map Prod.snd ++ waiting.map Prod.snd)) := by
    rw [List.map_append, hnumbers, ← List.append_assoc]
    exact List.perm_append_comm.append_right _
  refine ⟨ready ++ (pending.zipIdx t.begun.length).map begins, ?_, h.waiting_eq, ?_, ?_, ?_, ?_, ?_⟩
  · rw [List.map_append, h.ready_eq, List.map_map, take, ← hworld]
    refine congrArg (l.ready ++ ·) ?_
    show _ = List.map (fun p w => (s.deliver p, w)) (t.world.live.evaluate snapshot).1
    rw [← hpending]
    conv =>
      rhs
      rw [← List.zipIdx_map_fst t.begun.length pending, List.map_map]
    rfl
  · rw [hperm.nodup_iff]
    refine List.nodup_append.mpr ⟨List.nodup_range', h.nodup, fun m hm n hn hmn => ?_⟩
    have hle := (List.mem_range'_1.mp hm).1
    have hlt := h.lt n hn
    omega
  · intro n hn
    rw [hbegun, List.length_append]
    rcases List.mem_append.mp (hperm.mem_iff.mp hn) with hn | hn
    · exact (List.mem_range'_1.mp hn).2
    · exact Nat.lt_add_right _ (h.lt n hn)
  · intro n hn hnot
    rw [hbegun, List.length_append] at hn
    rw [hperm.mem_iff, List.mem_append, not_or, List.mem_range'_1] at hnot
    -- what has returned had begun before
    have hlt : n < t.begun.length := by omega
    exact (hold n hlt).trans (h.returned n hlt hnot.2)
  · intro x hx
    rcases List.mem_append.mp hx with hx | hx
    · rw [hold x.2 (h.lt _ (List.mem_append_left _ (List.mem_map_of_mem hx)))]
      exact h.ready x hx
    · obtain ⟨⟨p, n⟩, hp, rfl⟩ := List.mem_map.mp hx
      obtain ⟨hn, hget⟩ := List.mk_mem_zipIdx_iff_le_and_getElem?_sub.mp hp
      refine .inl ⟨s.deliver p, ?_, rfl, ?_⟩
      · exact Service.deliver_uses Effect.allowsDelivery_isUnhindered fun _ _ =>
          ⟨trivial, fun _ => rfl⟩
      · rw [hnew n (Nat.not_lt.mpr hn), List.getElem?_append_right hn, hget]
        rfl
  · intro x hx
    rw [hold x.2 (h.lt _ (List.mem_append_right _ (List.mem_map_of_mem hx)))]
    exact h.waiting x hx

/-- The loop takes a snapshot. -/
theorem goesOn_take (l : Loop) (snapshot : Snapshot) :
    GoesOn ι s l [snapshot] (take s l snapshot) := by
  intro t ht
  obtain ⟨ready, waiting, h⟩ := ht.numbers
  obtain ⟨ready', h'⟩ := h.took (s := s) ht.world snapshot
  refine ⟨t.took s snapshot, .of_step (m := .take snapshot) ?_ fun _ => rfl, ?_, ht.clear, ht.idle,
    ready', waiting, h'⟩
  · rw [Watch.step, ht.idle]
  · rw [take, ← ht.world]
    rfl

/-- The loop cleans up, if it is time to. -/
theorem goesOn_cleanUp (l : Loop) : GoesOn ι s l [] (cleanUp s l) := by
  unfold cleanUp
  split
  · intro t ht
    have hstep : t.step s .cleanUp = some (t.swept s) := by rw [Watch.step, ht.idle]
    -- nothing in a cleanup takes time, so it is over before anybody else has a turn
    have hswept := Watch.running_swept (s := s) t
    have hworld₀ : (t.swept s).world = l.world := ht.world
    obtain ⟨t', hmoves, hworld, hidle⟩ := Watch.movesAlone_cleanup (s := s) (t := t.swept s)
      (a := .loop) (hworld₀ ▸ ht.clear) (by rw [hswept, Function.update_self])
    have hdeliveries (n : Nat) : t'.running (.delivery n) = t.running (.delivery n) := by
      have hne := Actor.delivery_ne_loop (ι := ι) n
      rw [hmoves.others _ hne, hswept, Function.update_of_ne hne]
    have hcallers (i : ι) : (t.swept s).running (.caller i) = t.running (.caller i) := by
      rw [hswept, Function.update_of_ne (Actor.caller_ne_loop i)]
    have hgoes : (t.swept s).GoesUncalled s [] t' :=
      hmoves.goesUncalled fun i => (Actor.caller_ne_loop i).symm
    refine ⟨t', (Watch.GoesUncalled.of_step hstep hcallers).trans hgoes, ?_⟩
    rw [hworld₀] at hworld
    exact ht.of_eq hworld (s.cleaning_run_cleanup ht.clear) rfl rfl hidle hdeliveries hmoves.begun
  · exact .refl l

/-! ## The whole loop -/

/-- What the feed holds of an input when the loop comes to it. -/
def Input.held (capacity : Nat) : Input → List Snapshot
  | .publish snapshots => snapshots.drop (snapshots.length - feedSize capacity)
  | .sleep _ => []
  | .cancel => []

/-- Everybody goes on whose time has come. -/
theorem goesOn_moveTo (l : Loop) (time : Nat) : GoesOn ι s l [] (moveTo s l time) := by
  rw [moveTo]
  refine (goesOn_uptime l time).trans ((goesOn_cleanUp _).trans ?_)
  generalize cleanUp s { l with world := { l.world with uptime := time } } = l'
  rw [List.partition_eq_filter_filter]
  exact (goesOn_wake _ fun _ => .inl rfl).trans (goesOn_settle _)

theorem goesOn_passTo (target n : Nat) (l : Loop) : GoesOn ι s l [] (passTo s target n l) := by
  induction n generalizing l with
  | zero => exact goesOn_uptime l _
  | succ n ih =>
    rw [passTo]
    split
    · split
      · exact (goesOn_moveTo l _).trans (ih _)
      · exact goesOn_uptime l _
    · exact goesOn_uptime l _

theorem goesOn_pass (l : Loop) (milliseconds : Nat) : GoesOn ι s l [] (pass s l milliseconds) :=
  goesOn_passTo _ _ l

/-- Several snapshots are taken, one after the other. -/
theorem goesOn_foldl_take (snapshots : List Snapshot) (l : Loop) :
    GoesOn ι s l snapshots (snapshots.foldl (take s) l) := by
  induction snapshots generalizing l with
  | nil => exact .refl l
  | cons snapshot rest ih => exact (goesOn_take l snapshot).trans (ih _)

/-- The loop takes what the feed holds, as long as it listens. -/
theorem goesOn_publish (capacity : Nat) (l : Loop) (snapshots : List Snapshot) :
    GoesOn ι s l (if l.listening then (Input.publish snapshots).held capacity else [])
      (publish s capacity l snapshots).2 := by
  rw [publish]
  split
  · have htakes := (goesOn_foldl_take (ι := ι) (s := s)
      ((Input.publish snapshots).held capacity) l).trans (goesOn_settle _)
    rwa [List.append_nil] at htakes
  · exact .refl l

theorem goesOn_input (capacity : Nat) (l : Loop) (i : Input) :
    GoesOn ι s l (if l.listening then i.held capacity else []) (input s capacity l i).2 := by
  cases i with
  | publish snapshots =>
    have hpublish := (goesOn_publish (ι := ι) (s := s) capacity l snapshots).trans (goesOn_pass _ 1)
    rwa [List.append_nil] at hpublish
  | sleep milliseconds =>
    rw [Input.held, ite_self]
    exact goesOn_pass l _
  | cancel =>
    rw [Input.held, ite_self]
    exact ((goesOn_fire l).trans (goesOn_settle _)).trans (goesOn_pass _ _)

theorem goesOn_drain (n : Nat) (l : Loop) : GoesOn ι s l [] (drain s n l) := by
  induction n generalizing l with
  | zero => exact .refl l
  | succ n ih =>
    rw [drain]
    split
    · exact (goesOn_moveTo l _).trans (ih _)
    · exact .refl l

theorem goesOn_close (l : Loop) : GoesOn ι s l [] (close s l) := by
  rw [close]
  have hclosed : GoesOn ι s l [] { l with listening := false } := goesOn_of_eq rfl rfl rfl
  exact hclosed.trans (goesOn_drain _ _)

end Loop

end CpuAlert
