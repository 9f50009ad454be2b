import CpuAlert.Service.Observe
import CpuAlert.Service.Update
import CpuAlert.World
import Mathlib.Logic.Function.Basic

/-!
# Sessions

In a session several callers use one service at the same time. Each of them runs
the program of its operation; the effects are atomic, and any caller may take
the next one. Only the locks are waited for: as long as somebody changes
something, nobody else begins to, and the same holds of cleanups. An effect that
takes time begins at one moment and ends, or is cancelled, at a later one. Between
any two moments the clocks may move in any way, and deliveries may be cancelled.

## Main definitions

* `Operation`, `Operation.program` — what a caller can ask of a service
* `Outcome` — what it gets
* `Running` — what is left of a program
* `Effect.isHeldUp` — an effect that has to wait for a lock
* `Session` — a world with callers in it, and what has happened
* `Session.step`, `Session.play` — one choice of who goes on, and several
* `Session.order` — who has taken the lock, in order
* `Session.reading` — what a caller has read from the clock on the wall
-/

namespace CpuAlert

open Time (Instant)

/-! ## Operations -/

/-- What a caller can ask of a service. -/
inductive Operation
  | update (u : Config.Update)
  | silence (minutes : Int)
  | endSilence
  | observe (snapshot : Snapshot)
  | view (readOnly : Bool)
  | status (readOnly : Bool)
  | sendTest
  | history (limit : Int) (before : Option Int)
  | cleanup
  | isEnabled
  | health

/-- What a caller gets. -/
inductive Outcome
  | update (result : Except ServiceError View)
  | silence (result : Except ServiceError Instant)
  | endSilence (result : Except ServiceError Unit)
  | observe (triggers : List Trigger)
  | view (view : View)
  | status (status : Status)
  | sendTest (result : Except ServiceError Event)
  | history (result : Except ServiceError (List Event))
  | cleanup (deleted : Option Nat)
  | isEnabled (enabled : Bool)
  | health (result : Except ServiceError Health)

namespace Operation

/-- The program of an operation. -/
def program (s : Service) : Operation → Program Outcome
  | .update u => (s.update u).bind fun r => .pure (.update r)
  | .silence minutes => (Service.silence minutes).bind fun r => .pure (.silence r)
  | .endSilence => Service.endSilence.bind fun r => .pure (.endSilence r)
  | .observe snapshot => (s.observe snapshot).bind fun r => .pure (.observe r)
  | .view readOnly => (s.view readOnly).bind fun r => .pure (.view r)
  | .status readOnly => (Service.status readOnly).bind fun r => .pure (.status r)
  | .sendTest => s.sendTest.bind fun r => .pure (.sendTest r)
  | .history limit before => (Service.history limit before).bind fun r => .pure (.history r)
  | .cleanup => s.cleanup.bind fun r => .pure (.cleanup r)
  | .isEnabled => Service.isEnabled.bind fun r => .pure (.isEnabled r)
  | .health => Service.health.bind fun r => .pure (.health r)

/-- The operations that change the configuration, the credentials or the
silence. -/
def IsMutation : Operation → Prop
  | .update _ | .silence _ | .endSilence => True
  | .observe _ | .view _ | .status _ | .sendTest | .history _ _ | .cleanup | .isEnabled
  | .health => False

end Operation

/-! ## Sessions -/

/-- What is left of a program: it can go on, or it waits for the end of an
effect. -/
inductive Running (α : Type)
  | ready (rest : Program α)
  | waiting (effect : Effect) (finish : World → effect.Reply × World) (cancelled : effect.Reply)
    (next : effect.Reply → Program α)

/-- An effect of a caller, with its reply. -/
structure Happening (ι : Type) where
  caller : ι
  effect : Effect
  reply : effect.Reply

/-- The reading that an effect is of the clock on the wall, if it is one. -/
def Effect.reading? : (e : Effect) → e.Reply → Option Instant
  | .clock, t => some t
  | .ask _, _ => none
  | .acquire, _ => none
  | .release, _ => none
  | .look, _ => none
  | .commit _ _ _, _ => none
  | .mute _, _ => none
  | .evaluate _, _ => none
  | .draw, _ => none
  | .claimCleanup _, _ => none
  | .endCleanup, _ => none
  | .send _ _ _, _ => none
  | .pause _, _ => none
  | .isCancelled, _ => none

/-- The effect takes the lock. -/
def Effect.isAcquire : Effect → Bool
  | .acquire => true
  | _ => false

/-- The effect has to wait, because somebody else has the lock that it asks for. -/
def Effect.isHeldUp : Effect → World → Bool
  | .acquire, w => w.locked
  | .claimCleanup _, w => w.cleaning
  | .release, _ | .look, _ | .ask _, _ | .commit _ _ _, _ | .mute _, _ | .evaluate _, _
  | .clock, _ | .draw, _ | .endCleanup, _ | .send _ _ _, _ | .pause _, _
  | .isCancelled, _ => false

/-- Who goes on, or what happens around the callers. -/
inductive Choice (ι : Type)
  /-- A caller takes its next effect. -/
  | go (caller : ι)
  /-- What a caller waits for ends. -/
  | finish (caller : ι)
  /-- What a caller waits for is cancelled. -/
  | cut (caller : ι)
  /-- The clocks move. -/
  | turn (wall : Instant) (uptime : Nat)
  /-- Deliveries are cancelled. -/
  | cancel

/-- A world with callers in it, and what has happened, the latest last. -/
structure Session (ι α : Type) where
  world : World
  running : ι → Running α
  past : List (Happening ι) := []

namespace Session

variable {ι α : Type} [DecidableEq ι]

/-- Everybody is about to begin. -/
def start (w : World) (programs : ι → Program α) : Session ι α where
  world := w
  running i := .ready (programs i)

/-- An effect of a caller has its reply. -/
def record (t : Session ι α) (i : ι) (e : Effect) (reply : e.Reply) (next : e.Reply → Program α)
    (w : World) : Session ι α where
  world := w
  running := Function.update t.running i (.ready (next reply))
  past := t.past ++ [⟨i, e, reply⟩]

/-- One choice, if it can be made. -/
def step (t : Session ι α) : Choice ι → Option (Session ι α)
  | .go i =>
    match t.running i with
    | .ready (.step e next) =>
      if e.isHeldUp t.world then none
      else
        match t.world.begin e with
        | (.done reply, w) => some (t.record i e reply next w)
        | (.waiting _ finish cancelled, w) => some
          { t with
            world := w
            running := Function.update t.running i (.waiting e finish cancelled next) }
    | _ => none
  | .finish i =>
    match t.running i with
    | .waiting e finish _ next =>
      let (reply, w) := finish t.world
      some (t.record i e reply next w)
    | .ready _ => none
  | .cut i =>
    match t.running i with
    | .waiting e _ cancelled next => some (t.record i e cancelled next t.world)
    | .ready _ => none
  | .turn wall uptime => some { t with world := { t.world with wall, uptime } }
  | .cancel => some { t with world := t.world.fire }

/-- Several choices, one after the other. -/
def play : List (Choice ι) → Session ι α → Option (Session ι α)
  | [], t => some t
  | c :: cs, t => (t.step c).bind (play cs)

/-- A caller has its result. -/
def HasReturned (t : Session ι α) (i : ι) (a : α) : Prop := t.running i = .ready (.pure a)

/-- Who has taken the lock, in order. -/
def order (t : Session ι α) : List ι :=
  (t.past.filter (·.effect.isAcquire)).map (·.caller)

/-- What a caller has read from the clock on the wall, in order. -/
def readings (t : Session ι α) (i : ι) : List Instant :=
  (t.past.filter (·.caller = i)).filterMap fun h => h.effect.reading? h.reply

/-- What a caller read first, or would read now. -/
def reading (t : Session ι α) (i : ι) : Instant := (t.readings i).headD t.world.wall

/-! ## What a step changes -/

variable {t t' : Session ι α} {i j : ι} {e : Effect} {reply : e.Reply}
  {next : e.Reply → Program α} {w : World}

@[simp] theorem running_record_self :
    (t.record i e reply next w).running i = .ready (next reply) :=
  Function.update_self ..

theorem running_record_of_ne (h : j ≠ i) :
    (t.record i e reply next w).running j = t.running j :=
  Function.update_of_ne h ..

theorem order_record :
    (t.record i e reply next w).order = t.order ++ if e.isAcquire then [i] else [] := by
  simp only [order, record, List.filter_append, List.map_append]
  cases h : e.isAcquire <;> simp [h]

theorem order_record_of_isAcquire_eq_false (h : e.isAcquire = false) :
    (t.record i e reply next w).order = t.order := by
  rw [order_record, h]
  exact List.append_nil _

theorem readings_record_of_ne (h : j ≠ i) :
    (t.record i e reply next w).readings j = t.readings j := by
  simp [readings, record, List.filter_append, h.symm]

theorem readings_record_self :
    (t.record i e reply next w).readings i = t.readings i ++ (e.reading? reply).toList := by
  simp only [readings, record, List.filter_append, List.filterMap_append]
  cases h : e.reading? reply <;> simp [h]

/-- What can be said of a step: it is the effect of a caller that was ready, the
end of an effect that a caller waited for, or no caller's at all. -/
inductive Steps (t : Session ι α) : Session ι α → Prop
  | done (i : ι) (e : Effect) (next : e.Reply → Program α) (reply : e.Reply) (w : World)
      (hready : t.running i = .ready (.step e next))
      (hfree : e.isHeldUp t.world = false)
      (hbegin : t.world.begin e = (.done reply, w)) : Steps t (t.record i e reply next w)
  | wait (i : ι) (e : Effect) (next : e.Reply → Program α) (end_ : Nat)
      (finish : World → e.Reply × World) (cancelled : e.Reply) (w : World)
      (hready : t.running i = .ready (.step e next))
      (hfree : e.isHeldUp t.world = false)
      (hbegin : t.world.begin e = (.waiting end_ finish cancelled, w)) :
      Steps t { t with
        world := w
        running := Function.update t.running i (.waiting e finish cancelled next) }
  | finish (i : ι) (e : Effect) (finish : World → e.Reply × World) (cancelled : e.Reply)
      (next : e.Reply → Program α) (hwaiting : t.running i = .waiting e finish cancelled next) :
      Steps t (t.record i e (finish t.world).1 next (finish t.world).2)
  | cut (i : ι) (e : Effect) (finish : World → e.Reply × World) (cancelled : e.Reply)
      (next : e.Reply → Program α) (hwaiting : t.running i = .waiting e finish cancelled next) :
      Steps t (t.record i e cancelled next t.world)
  | turn (wall : Instant) (uptime : Nat) :
      Steps t { t with world := { t.world with wall, uptime } }
  | cancel : Steps t { t with world := t.world.fire }

/-- Somebody who can take the next effect was ready for it, and it was not held up. -/
theorem exists_of_step_go (h : t.step (.go i) = some t') :
    ∃ e next, t.running i = .ready (.step e next) ∧ e.isHeldUp t.world = false ∧
      ((∃ reply w, t.world.begin e = (.done reply, w) ∧ t' = t.record i e reply next w) ∨
        ∃ end_ finish cancelled w, t.world.begin e = (.waiting end_ finish cancelled, w) ∧
          t' = { t with
            world := w
            running := Function.update t.running i (.waiting e finish cancelled next) }) := by
  simp only [step] at h
  split at h
  · rename_i e next hready
    split at h
    · cases h
    · rename_i hfree
      refine ⟨e, next, hready, Bool.eq_false_iff.mpr hfree, ?_⟩
      split at h
      · rename_i reply w hbegin
        exact .inl ⟨reply, w, hbegin, (Option.some.inj h).symm⟩
      · rename_i end_ finish cancelled w hbegin
        exact .inr ⟨end_, finish, cancelled, w, hbegin, (Option.some.inj h).symm⟩
  · cases h

theorem exists_of_step_finish (h : t.step (.finish i) = some t') :
    ∃ e finish cancelled next, t.running i = .waiting e finish cancelled next ∧
      t' = t.record i e (finish t.world).1 next (finish t.world).2 := by
  simp only [step] at h
  split at h
  · rename_i e finish cancelled next hwaiting
    exact ⟨e, finish, cancelled, next, hwaiting, (Option.some.inj h).symm⟩
  · cases h

theorem exists_of_step_cut (h : t.step (.cut i) = some t') :
    ∃ e finish cancelled next, t.running i = .waiting e finish cancelled next ∧
      t' = t.record i e cancelled next t.world := by
  simp only [step] at h
  split at h
  · rename_i e finish cancelled next hwaiting
    exact ⟨e, finish, cancelled, next, hwaiting, (Option.some.inj h).symm⟩
  · cases h

theorem steps_of_step {c : Choice ι} (h : t.step c = some t') : t.Steps t' := by
  cases c with
  | go i =>
    obtain ⟨e, next, hready, hfree, ⟨reply, w, hbegin, rfl⟩ |
      ⟨end_, finish, cancelled, w, hbegin, rfl⟩⟩ := exists_of_step_go h
    · exact .done i e next reply w hready hfree hbegin
    · exact .wait i e next end_ finish cancelled w hready hfree hbegin
  | finish i =>
    obtain ⟨e, finish, cancelled, next, hwaiting, rfl⟩ := exists_of_step_finish h
    exact .finish i e finish cancelled next hwaiting
  | cut i =>
    obtain ⟨e, finish, cancelled, next, hwaiting, rfl⟩ := exists_of_step_cut h
    exact .cut i e finish cancelled next hwaiting
  | turn wall uptime =>
    cases h
    exact .turn wall uptime
  | cancel =>
    cases h
    exact .cancel

/-- Nothing that has happened is forgotten. -/
theorem Steps.past_prefix (h : t.Steps t') : t.past <+: t'.past := by
  cases h with
  | done | finish | cut => exact List.prefix_append _ _
  | wait | turn | cancel => exact List.prefix_rfl

theorem Steps.order_prefix (h : t.Steps t') : t.order <+: t'.order :=
  (h.past_prefix.filter _).map _

theorem Steps.readings_prefix (h : t.Steps t') (i : ι) : t.readings i <+: t'.readings i :=
  (h.past_prefix.filter _).filterMap _

/-- What becomes of one caller in a step: nothing, or its next effect begins, or
what it waited for has ended. -/
theorem Steps.running_cases (h : t.Steps t') (i : ι) :
    t'.running i = t.running i ∨
      (∃ e next, t.running i = .ready (.step e next) ∧
        ((∃ reply w, t.world.begin e = (.done reply, w) ∧ t'.running i = .ready (next reply)) ∨
          ∃ end_ finish cancelled w, t.world.begin e = (.waiting end_ finish cancelled, w))) ∨
      ∃ e finish cancelled next, t.running i = .waiting e finish cancelled next := by
  cases h with
  | done j e next reply w hready _ hbegin =>
    by_cases hij : i = j
    · subst hij
      exact .inr (.inl ⟨e, next, hready, .inl ⟨reply, w, hbegin, running_record_self⟩⟩)
    · exact .inl (running_record_of_ne hij)
  | wait j e next end_ finish cancelled w hready _ hbegin =>
    by_cases hij : i = j
    · subst hij
      exact .inr (.inl ⟨e, next, hready, .inr ⟨end_, finish, cancelled, w, hbegin⟩⟩)
    · exact .inl (Function.update_of_ne hij ..)
  | finish j e finish cancelled next hwaiting | cut j e finish cancelled next hwaiting =>
    by_cases hij : i = j
    · subst hij
      exact .inr (.inr ⟨e, finish, cancelled, next, hwaiting⟩)
    · exact .inl (running_record_of_ne hij)
  | turn | cancel => exact .inl rfl

/-- Whoever has returned keeps the result. -/
theorem Steps.hasReturned {a : α} (h : t.Steps t') (hi : t.HasReturned i a) :
    t'.HasReturned i a := by
  rcases h.running_cases i with
    hsame | ⟨e, next, hready, -⟩ | ⟨e, finish, cancelled, next, hwaiting⟩
  · exact hsame.trans hi
  · cases hi.symm.trans hready
  · cases hi.symm.trans hwaiting

/-- What every step preserves holds after every play. -/
theorem play_induction (inv : Session ι α → Prop)
    (hstep : ∀ {t t'}, inv t → t.Steps t' → inv t') {cs : List (Choice ι)} (h : inv t)
    (hplay : t.play cs = some t') : inv t' := by
  induction cs generalizing t with
  | nil => exact Option.some.inj hplay ▸ h
  | cons c cs ih =>
    obtain ⟨u, hu, hrest⟩ := Option.bind_eq_some_iff.mp hplay
    exact ih (hstep h (steps_of_step hu)) hrest

end Session

/-! ## One after the other -/

/-- Programs on their own, one after the other, each with the clock on the wall
as given for it. -/
def World.afterEach {ι α : Type} (programs : ι → Program α) (walls : ι → Instant) (w : World)
    (order : List ι) : World :=
  order.foldl (fun w i => ((programs i).run { w with wall := walls i }).2) w

end CpuAlert
