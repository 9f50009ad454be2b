import CpuAlert.Proofs.Service.Operations
import CpuAlert.Proofs.Service.Replay
import CpuAlert.Proofs.Service.Trace
import CpuAlert.Service.Loop

/-!
# Watches

A watch is a session in which the service's own loop takes part. Callers use the
service as ever. The loop takes a snapshot when it has nothing else to do, and
what comes out is delivered beside it: every notification begins a delivery of
its own, which goes on whenever it likes. In between the loop cleans up.

## Main definitions

* `Actor` — who takes part in a watch
* `Watch` — a session with the loop and its deliveries
* `Watch.step`, `Watch.play` — one move, and several
* `Watch.IsSound` — everybody goes by the book

## Main results

* `Watch.isSound_play` — a watch is sound at any time
-/

namespace CpuAlert

open Time (Instant)

/-- Who takes part: callers, the loop, and the deliveries that it has begun, by
number. -/
inductive Actor (ι : Type)
  | caller (i : ι)
  | loop
  | delivery (n : Nat)
  deriving DecidableEq

theorem Actor.caller_ne_loop {ι : Type} (i : ι) : Actor.caller i ≠ .loop := by
  rintro ⟨⟩

theorem Actor.delivery_ne_loop {ι : Type} (n : Nat) : (.delivery n : Actor ι) ≠ .loop := by
  rintro ⟨⟩

/-- A session of callers, the loop and its deliveries, and the notifications
whose deliveries have begun, in order. -/
structure Watch (ι : Type) extends Session (Actor ι) (Option Outcome) where
  begun : List Pending := []

/-- What can happen: something as in every session, or the loop turns to a
snapshot or to its cleanup. -/
inductive Move (ι : Type)
  | choose (c : Choice (Actor ι))
  | take (snapshot : Snapshot)
  | cleanUp

/-- The snapshots that are taken. -/
def Move.taken {ι : Type} (ms : List (Move ι)) : List Snapshot :=
  ms.filterMap fun
    | .take snapshot => some snapshot
    | .choose _ => none
    | .cleanUp => none

namespace Watch

variable {ι : Type}

/-- What a caller does. -/
def calling (s : Service) (op : Operation) : Program (Option Outcome) :=
  (op.program s).bind fun r => .pure (some r)

/-- A program whose result nobody waits for. -/
def unheard {α : Type} (p : Program α) : Program (Option Outcome) := p.bind fun _ => .pure none

/-- What the delivery of a notification does, if there is one. -/
def delivering (s : Service) : Option Pending → Program (Option Outcome)
  | none => .pure none
  | some p => unheard (s.deliver p)

/-- What the loop does when it cleans up. -/
def sweeping (s : Service) : Program (Option Outcome) := unheard s.cleanup

/-- Everybody is about to begin, and the loop has nothing to do yet. -/
def start (s : Service) (operations : ι → Operation) (w : World) : Watch ι where
  toSession := .start w fun
    | .caller i => calling s (operations i)
    | .loop => .pure none
    | .delivery _ => .pure none

variable [DecidableEq ι]

/-- The loop takes a snapshot, and what comes out is being delivered. -/
def took (s : Service) (t : Watch ι) (snapshot : Snapshot) : Watch ι :=
  let (pending, w) := t.world.perform (.evaluate snapshot)
  { world := w
    running := fun
      | .delivery n =>
        if n < t.begun.length then t.running (.delivery n)
        else .ready (delivering s (t.begun ++ pending)[n]?)
      | .caller i => t.running (.caller i)
      | .loop => t.running .loop
    past := t.past ++ [⟨.loop, .evaluate snapshot, pending⟩]
    begun := t.begun ++ pending }

/-- The loop cleans up. -/
def swept (s : Service) (t : Watch ι) : Watch ι :=
  { t with running := Function.update t.running .loop (.ready (sweeping s)) }

/-- One move, if it can be made. -/
def step (s : Service) (t : Watch ι) : Move ι → Option (Watch ι)
  | .choose c => (t.toSession.step c).map fun u => { t with toSession := u }
  | .take snapshot =>
    match t.running .loop with
    | .ready (.pure _) => some (t.took s snapshot)
    | _ => none
  | .cleanUp =>
    match t.running .loop with
    | .ready (.pure _) => some (t.swept s)
    | _ => none

/-- Several moves, one after the other. -/
def play (s : Service) : List (Move ι) → Watch ι → Option (Watch ι)
  | [], t => some t
  | m :: ms, t => (t.step s m).bind (play s ms)

/-- Nothing that has happened in a watch is forgotten. -/
theorem past_prefix_of_step {s : Service} {t t' : Watch ι} {m : Move ι}
    (h : t.step s m = some t') : t.past <+: t'.past := by
  cases m with
  | choose c =>
    obtain ⟨u, hu, rfl⟩ := Option.map_eq_some_iff.mp h
    have hsteps := Session.steps_of_step hu
    exact hsteps.past_prefix
  | take snapshot =>
    simp only [step] at h
    split at h
    · exact Option.some.inj h ▸ List.prefix_append ..
    · cases h
  | cleanUp =>
    simp only [step] at h
    split at h
    · exact Option.some.inj h ▸ List.prefix_rfl
    · cases h

/-! ## What is true of a watch at any time -/

/-- Everybody goes by the book: the live state is the replay of the past, callers
and deliveries follow their programs, and the loop evaluates what it takes,
begins to deliver what comes out, and sends nothing itself. -/
structure IsSound (s : Service) (operations : ι → Operation) (l : Live) (taken : List Snapshot)
    (t : Watch ι) : Prop where
  isReplay : t.IsReplay l
  calls : ∀ i, t.Follows (.caller i) (calling s (operations i))
  deliveries : ∀ n, t.Follows (.delivery n) (delivering s t.begun[n]?)
  sweeps : (t.running .loop).rest.Uses Effect.IsPlain
  sends : ∀ h ∈ t.deeds .loop, ∀ place channel o, h.effect ≠ .send place channel o
  taken_eq : ((t.deeds .loop).filterMap (·.evaluated?)).map Prod.fst = taken
  begun_eq : ((t.deeds .loop).filterMap (·.evaluated?)).flatMap Prod.snd = t.begun

variable {s : Service} {operations : ι → Operation} {l : Live} {taken : List Snapshot}
  {t t' : Watch ι}

theorem isSound_start (s : Service) (operations : ι → Operation) (w : World) :
    (start s operations w).IsSound s operations w.live [] where
  isReplay := ⟨rfl, trivial, fun _ _ _ _ _ h => by cases h⟩
  calls i := .refl _
  deliveries n := .refl _
  sweeps := trivial
  sends := List.forall_mem_nil _
  taken_eq := rfl
  begun_eq := rfl

/-- What happens as in every session leaves a watch sound. -/
theorem IsSound.choose (h : t.IsSound s operations l taken) {u : Session (Actor ι) (Option Outcome)}
    (hstep : t.toSession.Steps u) :
    ({ t with toSession := u } : Watch ι).IsSound s operations l taken := by
  -- whatever the loop has done belongs to a cleanup
  obtain ⟨hs, hdeeds, hleaves⟩ := hstep.leaves .loop
  obtain ⟨hplain, hsweeps⟩ := hleaves.uses h.sweeps
  have hevaluated : (u.deeds .loop).filterMap (·.evaluated?) =
      (t.deeds .loop).filterMap (·.evaluated?) := by
    have hnone : hs.filterMap (·.evaluated?) = [] :=
      List.filterMap_eq_nil_iff.mpr fun x hx => Happening.evaluated?_eq_none (hplain x hx).isSide
    rw [hdeeds, List.filterMap_append, hnone, List.append_nil]
  exact {
    isReplay := hstep.isReplay h.isReplay
    calls := fun i => hstep.follows (h.calls i)
    deliveries := fun n => hstep.follows (h.deliveries n)
    sweeps := hsweeps
    sends := fun x hx place channel o hsend => by
      rcases List.mem_append.mp (hdeeds ▸ hx) with hx | hx
      · exact h.sends x hx place channel o hsend
      · have hplain := hplain x hx
        rw [hsend] at hplain
        exact hplain
    taken_eq := (congrArg _ hevaluated).trans h.taken_eq
    begun_eq := (congrArg _ hevaluated).trans h.begun_eq }

/-- The deliveries that have not begun have done nothing. -/
theorem IsSound.deeds_eq_nil (h : t.IsSound s operations l taken) {n : Nat}
    (hn : t.begun.length ≤ n) : t.deeds (.delivery n) = [] := by
  have hfollows := h.deliveries n
  rw [List.getElem?_eq_none hn] at hfollows
  exact hfollows.eq_of_pure.1

/-- Taking a snapshot is something that the loop does. -/
theorem deeds_took_loop (t : Watch ι) (snapshot : Snapshot) :
    (t.took s snapshot).deeds .loop =
      t.deeds .loop ++ [⟨.loop, .evaluate snapshot, (t.world.live.evaluate snapshot).1⟩] :=
  Session.deeds_record_self (t := t.toSession) _ _ (fun _ => .pure none) t.world

theorem deeds_took_of_ne {a : Actor ι} (ha : a ≠ .loop) (t : Watch ι) (snapshot : Snapshot) :
    (t.took s snapshot).deeds a = t.deeds a :=
  Session.deeds_record_of_ne (t := t.toSession) ha (.evaluate snapshot)
    (t.world.live.evaluate snapshot).1 (fun _ => .pure none) t.world

/-- The loop takes a snapshot, and a watch stays sound. -/
theorem IsSound.took (h : t.IsSound s operations l taken) (snapshot : Snapshot) :
    (t.took s snapshot).IsSound s operations l (taken ++ [snapshot]) := by
  have hreplay := h.isReplay.record .loop (e := .evaluate snapshot)
    (w := { t.world with live := (t.world.live.evaluate snapshot).2 }) (fun _ => .pure none) rfl rfl
  have hevaluated : ((t.took s snapshot).deeds .loop).filterMap (·.evaluated?) =
      (t.deeds .loop).filterMap (·.evaluated?) ++
        [(snapshot, (t.world.live.evaluate snapshot).1)] := by
    rw [deeds_took_loop, List.filterMap_append]
    rfl
  exact {
    isReplay := by
      refine ⟨hreplay.live, hreplay.explains, fun a e finish cancelled next ha => ?_⟩
      cases a with
      | caller i => exact h.isReplay.aside (.caller i) e finish cancelled next ha
      | loop => exact h.isReplay.aside .loop e finish cancelled next ha
      | delivery n =>
        by_cases hn : n < t.begun.length
        · exact h.isReplay.aside (.delivery n) e finish cancelled next
            ((if_pos hn).symm.trans ha)
        · cases (if_neg hn).symm.trans ha
    calls := fun i => by
      rw [Session.Follows, deeds_took_of_ne (Actor.caller_ne_loop i)]
      exact h.calls i
    deliveries := fun n => by
      rw [Session.Follows, deeds_took_of_ne (Actor.delivery_ne_loop n)]
      -- what had begun goes on as it was; what begins now has done nothing yet
      by_cases hn : n < t.begun.length
      · have hrunning : (t.took s snapshot).running (.delivery n) = t.running (.delivery n) :=
          if_pos hn
        have hbegun : (t.took s snapshot).begun[n]? = t.begun[n]? := List.getElem?_append_left hn
        rw [hrunning, hbegun]
        exact h.deliveries n
      · have hrunning : (t.took s snapshot).running (.delivery n) =
            .ready (delivering s (t.took s snapshot).begun[n]?) := if_neg hn
        rw [h.deeds_eq_nil (Nat.le_of_not_lt hn), hrunning]
        exact .refl _
    sweeps := h.sweeps
    sends := fun x hx place channel o hsend => by
      rcases List.mem_append.mp (deeds_took_loop (s := s) t snapshot ▸ hx) with hx | hx
      · exact h.sends x hx place channel o hsend
      · cases List.mem_singleton.mp hx
        cases hsend
    taken_eq := by
      rw [hevaluated, List.map_append, h.taken_eq]
      rfl
    begun_eq := by
      rw [hevaluated, List.flatMap_append, h.begun_eq, List.flatMap_singleton]
      rfl }

theorem running_swept (t : Watch ι) :
    (t.swept s).running = Function.update t.running .loop (.ready (sweeping s)) := rfl

/-- The loop begins to clean up, and a watch stays sound. -/
theorem IsSound.swept (h : t.IsSound s operations l taken) :
    (t.swept s).IsSound s operations l taken where
  isReplay := by
    refine ⟨h.isReplay.live, h.isReplay.explains, fun a e finish cancelled next ha => ?_⟩
    by_cases hloop : a = .loop
    · rw [running_swept, hloop, Function.update_self] at ha
      cases ha
    · rw [running_swept, Function.update_of_ne hloop] at ha
      exact h.isReplay.aside a e finish cancelled next ha
  calls := fun i => h.calls i
  deliveries := h.deliveries
  sweeps :=
    .bind (Service.cleanup_uses (fun _ => trivial) trivial trivial fun _ => trivial) fun _ =>
      trivial
  sends := h.sends
  taken_eq := h.taken_eq
  begun_eq := h.begun_eq

/-- Every move leaves a watch sound. -/
theorem IsSound.step (h : t.IsSound s operations l taken) {m : Move ι}
    (hstep : t.step s m = some t') : t'.IsSound s operations l (taken ++ Move.taken [m]) := by
  cases m with
  | choose c =>
    obtain ⟨u, hu, rfl⟩ := Option.map_eq_some_iff.mp hstep
    exact (List.append_nil taken).symm ▸ h.choose (Session.steps_of_step hu)
  | take snapshot =>
    simp only [Watch.step] at hstep
    split at hstep
    · exact Option.some.inj hstep ▸ h.took snapshot
    · cases hstep
  | cleanUp =>
    simp only [Watch.step] at hstep
    split at hstep
    · exact (List.append_nil taken).symm ▸ Option.some.inj hstep ▸ h.swept
    · cases hstep

/-- A watch is sound at any time. -/
theorem IsSound.play {ms : List (Move ι)} (h : t.IsSound s operations l taken)
    (hplay : t.play s ms = some t') : t'.IsSound s operations l (taken ++ Move.taken ms) := by
  induction ms generalizing t taken with
  | nil => exact (List.append_nil taken).symm ▸ Option.some.inj hplay ▸ h
  | cons m ms ih =>
    obtain ⟨u, hu, hrest⟩ := Option.bind_eq_some_iff.mp hplay
    have htaken : Move.taken (m :: ms) = Move.taken [m] ++ Move.taken ms :=
      List.filterMap_append (l := [m])
    rw [htaken, ← List.append_assoc]
    exact ih (h.step hu) hrest

end Watch

end CpuAlert
