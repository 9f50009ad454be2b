import CpuAlert.Proofs.Service.LoopEnd
import Mathlib.Data.Fin.VecNotation

/-!
# The service refines the evaluator

However callers, the loop and its deliveries take turns, there is one evaluator
behind them: it is fed with the snapshots in the order in which they are
evaluated, each with what is in force at that moment. Its triggers are the
notifications, and its state is what the status shows. A notification keeps what
was in force when it was decided, so no later update reaches its delivery.

## Main definitions

* `Watch.evaluations`, `Watch.samples` — the evaluations of a watch, and what the
  evaluator is fed with
* `Watch.Refines` — a watch refines an evaluator of its own

## Main results

* `Watch.refines_of_play` — every watch refines an evaluator of its own
* `Watch.service_refines_evaluator` — the same of the service as it is started, with
  the loop alone as one of its watches
-/

namespace CpuAlert

open Time (Instant)

/-- What the delivery of these notifications may do: send each of them to the
channels that were enabled for it, wait, and record. -/
def Effect.Delivers (s : Service) (ps : List Pending) : Effect → Prop
  | .send place channel o =>
    ∃ p ∈ ps, (channel, place) ∈ Delivery.enabled s.channels p.config ∧ o = s.notice p
  | .ask _ | .pause _ | .isCancelled => True
  | .evaluate _ | .acquire | .release | .look | .commit _ _ _ | .mute _ | .clock | .draw
  | .claimCleanup _ | .endCleanup => False

theorem Effect.allowsDelivery_delivers (s : Service) (ps : List Pending) :
    AllowsDelivery (Delivers s ps) :=
  ⟨⟨fun _ => trivial, trivial⟩, fun _ => trivial⟩

theorem Effect.Delivers.isSide {s : Service} {ps : List Pending} {e : Effect}
    (h : e.Delivers s ps) : e.IsSide := by
  cases e with
  | evaluate snapshot => exact h
  | _ => exact trivial

namespace Service

theorem deliver_delivers (s : Service) (p : Pending) : (s.deliver p).Uses (Effect.Delivers s [p]) :=
  deliver_uses (Effect.allowsDelivery_delivers s [p]) fun _ hc =>
    ⟨p, List.mem_singleton.mpr rfl, hc, rfl⟩

theorem deliverAll_delivers (s : Service) (ps : List Pending) :
    (s.deliverAll ps).Uses (Effect.Delivers s ps) :=
  deliverAll_uses (Effect.allowsDelivery_delivers s ps) fun p hp _ hc => ⟨p, hp, hc, rfl⟩

end Service

/-- The status as shown to a caller is otherwise the status itself. -/
theorem Status.Shows.seenAt {st : Status} {ss : List Sample} (h : st.Shows ss) (now : Instant)
    (readOnly : Bool) : (st.seenAt now readOnly).Shows ss :=
  ⟨h.currentState, h.lastWarningAt, h.lastCriticalAt, h.lastRecoveryAt⟩

namespace Watch

variable {ι : Type} [DecidableEq ι]

/-- The evaluations of a watch that began with this in force. -/
def evaluations (f : InForce) (t : Watch ι) : List (Evaluation (Actor ι)) :=
  CpuAlert.evaluations f t.past

/-- What the evaluator is fed with. -/
def samples (f : InForce) (t : Watch ι) : List Sample := (t.evaluations f).map (·.sample)

/-- The evaluations by somebody. -/
def evaluationsBy (f : InForce) (t : Watch ι) (a : Actor ι) : List (Evaluation (Actor ι)) :=
  (t.evaluations f).filter (·.actor = a)

/-- What somebody who asked for an evaluation does once it has come out. -/
def answering (s : Service) (pending : List Pending) : Program (Option Outcome) :=
  (s.deliverAll pending).bind fun _ => .pure (some (.observe (pending.map (·.trigger))))

/-- A watch refines an evaluator of its own, fed with the snapshots in the order
in which they were evaluated and with what was in force each time. -/
structure Refines (s : Service) (operations : ι → Operation) (f : InForce) (taken : List Snapshot)
    (t : Watch ι) : Prop where
  /-- The notifications are the triggers of that evaluator, -/
  triggers : (t.evaluations f).map (·.triggers) = (Evaluator.fresh.run (t.samples f)).1
  /-- its state is that of the service, -/
  evaluator : t.world.live.evaluator = (Evaluator.fresh.run (t.samples f)).2
  /-- and what is in force is what was put into force. -/
  inForce : t.world.live.inForce = f.replay t.past
  /-- The status tells its level and when it last sent what, -/
  status : t.world.live.status.Shows (t.samples f)
  /-- and so does what a caller was shown, as of some moment. -/
  shown : ∀ i readOnly st, operations i = .status readOnly →
    t.HasReturned (.caller i) (some (.status st)) →
    ∃ past, past <+: t.past ∧ st.Shows ((CpuAlert.evaluations f past).map (·.sample))
  /-- Only the loop and those who ask for it evaluate snapshots, -/
  actor : ∀ e ∈ t.evaluations f,
    e.actor = .loop ∨ ∃ i, e.actor = .caller i ∧ operations i = .observe e.snapshot
  /-- and what any other caller does next leaves the evaluator alone. -/
  still : ∀ m t' x i, t.step s m = some t' → t'.past = t.past ++ [x] → x.caller = .caller i →
    (∀ snapshot, operations i ≠ .observe snapshot) →
    t'.world.live.evaluator = t.world.live.evaluator
  /-- The loop evaluates the snapshots that it takes, -/
  taken : (t.evaluationsBy f .loop).map (·.snapshot) = taken
  /-- and whoever asks gets the triggers of one evaluation. -/
  observed : ∀ i snapshot r, operations i = .observe snapshot →
    t.HasReturned (.caller i) (some r) →
    ∃ e, t.evaluationsBy f (.caller i) = [e] ∧ e.snapshot = snapshot ∧ r = .observe e.triggers
  /-- A notification carries what was in force at its evaluation. -/
  carries : ∀ e ∈ t.evaluations f, e.pending = e.triggers.map fun trigger =>
    ⟨trigger, e.inForce.config, e.inForce.credentials, e.snapshot.time⟩
  /-- What the loop's evaluations bring out is being delivered, each on its own -/
  begun : t.begun = (t.evaluationsBy f .loop).flatMap (·.pending)
  /-- with what was in force when it was decided, -/
  delivered : ∀ n p, t.begun[n]? = some p → t.Follows (.delivery n) (unheard (s.deliver p))
  /-- and what comes out for a caller is delivered before it is answered. -/
  answered : ∀ i snapshot, operations i = .observe snapshot → t.deeds (.caller i) = [] ∨
    ∃ pending hs, t.deeds (.caller i) = ⟨.caller i, .evaluate snapshot, pending⟩ :: hs ∧
      (answering s pending).Leaves hs (t.running (.caller i)).rest
  /-- Nothing is sent but tests and the notifications of evaluations, each to
  channels that were enabled at that moment and with what was in force then. -/
  sent : ∀ h ∈ t.past, ∀ place channel o, h.effect = .send place channel o →
    (∃ i, h.caller = .caller i ∧ operations i = .sendTest) ∨
    ∃ e ∈ t.evaluations f, (e.actor = h.caller ∨ e.actor = .loop ∧ ∃ n, h.caller = .delivery n) ∧
      ∃ p ∈ e.pending, (channel, place) ∈ Delivery.enabled s.channels p.config ∧ o = s.notice p

/-! ## What callers and deliveries do -/

variable {s : Service} {operations : ι → Operation} {l : Live} {taken : List Snapshot}
  {t t' : Watch ι} {i : ι} {snapshot : Snapshot}

theorem calling_observe_eq (s : Service) (snapshot : Snapshot) :
    calling s (.observe snapshot) = .step (.evaluate snapshot) (answering s) := by
  refine congrArg (Program.step _) (funext fun pending => ?_)
  show (((s.deliverAll pending).bind fun _ => .pure (pending.map (·.trigger))).bind
    fun r => .pure (Outcome.observe r)).bind (fun r => .pure (some r)) = answering s pending
  rw [Program.bind_assoc', Program.bind_assoc']
  rfl

/-- Answering is delivering, and the answer is known. -/
theorem answering_meets (s : Service) (pending : List Pending) :
    (answering s pending).Meets (Effect.Delivers s pending) (fun _ _ => True)
      (· = some (.observe (pending.map (·.trigger)))) :=
  .bind (s.deliverAll_delivers pending) fun _ _ => rfl

theorem caller_of_mem_deeds {a : Actor ι} {h : Happening (Actor ι)} (hh : h ∈ t.deeds a) :
    h.caller = a := by
  simpa using (List.mem_filter.mp hh).2

theorem mem_deeds {h : Happening (Actor ι)} (hh : h ∈ t.past) : h ∈ t.deeds h.caller :=
  List.mem_filter.mpr ⟨hh, by simp⟩

/-- Whoever asks for an evaluation has done nothing yet, or has evaluated that
snapshot once and is busy with the answer. -/
theorem IsSound.answered (h : t.IsSound s operations l taken)
    (hi : operations i = .observe snapshot) :
    (t.deeds (.caller i) = [] ∧ (t.running (.caller i)).rest = calling s (.observe snapshot)) ∨
    ∃ pending hs, t.deeds (.caller i) = ⟨.caller i, .evaluate snapshot, pending⟩ :: hs ∧
      (answering s pending).Leaves hs (t.running (.caller i)).rest := by
  have hfollows := h.calls i
  rw [hi, calling_observe_eq] at hfollows
  rcases hfollows.step_cases with ⟨hnone, hrest⟩ | ⟨a, pending, hs, hdeeds, hleaves⟩
  · exact .inl ⟨hnone, hrest.trans (calling_observe_eq s snapshot).symm⟩
  · have hcaller : a = .caller i := caller_of_mem_deeds (hdeeds ▸ List.mem_cons_self)
    exact .inr ⟨pending, hs, hcaller ▸ hdeeds, hleaves⟩

/-- Who does not ask for an evaluation does not evaluate, -/
theorem IsSound.isSide (h : t.IsSound s operations l taken)
    (hobserve : ∀ snapshot, operations i ≠ .observe snapshot) {x : Happening (Actor ι)}
    (hx : x ∈ t.deeds (.caller i)) : x.effect.IsSide := by
  have huses : ((operations i).program s).Uses Effect.IsSide := by
    by_cases htest : operations i = .sendTest
    · exact htest ▸ Operation.sendTest_isSide s
    · exact (Operation.program_isPlain s hobserve htest).mono (fun _ => Effect.IsPlain.isSide)
        fun _ => id
  exact ((h.calls i).uses (Program.Uses.bind huses fun _ => trivial)).1 x hx

/-- and who does not test either sends nothing. -/
theorem IsSound.isPlain (h : t.IsSound s operations l taken)
    (hobserve : ∀ snapshot, operations i ≠ .observe snapshot) (htest : operations i ≠ .sendTest)
    {x : Happening (Actor ι)} (hx : x ∈ t.deeds (.caller i)) : x.effect.IsPlain :=
  ((h.calls i).uses
    (Program.Uses.bind (Operation.program_isPlain s hobserve htest) fun _ => trivial)).1 x hx

/-- The effects of a delivery are those of the delivery of its notification. -/
theorem IsSound.delivers (h : t.IsSound s operations l taken) {n : Nat}
    {x : Happening (Actor ι)} (hx : x ∈ t.deeds (.delivery n)) :
    ∃ p ∈ t.begun, x.effect.Delivers s [p] := by
  have hfollows := h.deliveries n
  cases hp : t.begun[n]? with
  | none =>
    rw [hp] at hfollows
    rw [hfollows.eq_of_pure.1] at hx
    cases hx
  | some p =>
    rw [hp] at hfollows
    have huses := Program.Uses.bind (s.deliver_delivers p)
      (f := fun _ => .pure (none : Option Outcome)) fun _ => trivial
    exact ⟨p, List.mem_of_getElem? hp, (hfollows.uses huses).1 x hx⟩

/-- Only the loop and those who ask for it evaluate. -/
theorem IsSound.evaluates (h : t.IsSound s operations l taken) {x : Happening (Actor ι)}
    (hx : x ∈ t.past) {pending : List Pending}
    (hpending : x.evaluated? = some (snapshot, pending)) :
    x.caller = .loop ∨ ∃ i, x.caller = .caller i ∧ operations i = .observe snapshot := by
  have hside : ¬ x.effect.IsSide := fun hside => by
    rw [Happening.evaluated?_eq_none hside] at hpending
    cases hpending
  have hdeeds := mem_deeds hx
  -- nobody's program has an evaluation but that of those who ask, at its beginning
  cases hcaller : x.caller with
  | loop => exact .inl rfl
  | delivery n =>
    rw [hcaller] at hdeeds
    obtain ⟨p, -, hdelivers⟩ := h.delivers hdeeds
    exact absurd hdelivers.isSide hside
  | caller i =>
    rw [hcaller] at hdeeds
    refine .inr ⟨i, rfl, ?_⟩
    by_cases hobserve : ∃ snapshot', operations i = .observe snapshot'
    · obtain ⟨snapshot', hi⟩ := hobserve
      rcases h.answered hi with ⟨hnone, -⟩ | ⟨pending', hs, hall, hleaves⟩
      · rw [hnone] at hdeeds
        cases hdeeds
      · rw [hall] at hdeeds
        rcases List.mem_cons.mp hdeeds with rfl | hlater
        · cases hpending
          exact hi
        · exact absurd ((hleaves.uses (answering_meets s pending')).1 x hlater).isSide hside
    · exact absurd (h.isSide (fun snapshot' hi => hobserve ⟨snapshot', hi⟩) hdeeds) hside

/-- What a caller does who does not ask for an evaluation leaves the evaluator
alone. -/
theorem IsSound.evaluator_step (h : t.IsSound s operations l taken) {m : Move ι}
    (hstep : t.step s m = some t') {x : Happening (Actor ι)} (hpast : t'.past = t.past ++ [x])
    (hcaller : x.caller = .caller i) (hobserve : ∀ snapshot, operations i ≠ .observe snapshot) :
    t'.world.live.evaluator = t.world.live.evaluator := by
  have h' := h.step hstep
  have hmem : x ∈ t'.past := hpast ▸ List.mem_append_right _ (List.mem_singleton.mpr rfl)
  have hside : x.effect.IsSide := h'.isSide hobserve (hcaller ▸ mem_deeds hmem)
  calc t'.world.live.evaluator
    _ = ((l.replay t.past).after x.effect).evaluator := by
      rw [h'.isReplay.live, hpast, Live.replay_append]
      rfl
    _ = (l.replay t.past).evaluator := Live.evaluator_after hside _
    _ = t.world.live.evaluator := by rw [h.isReplay.live]

/-- What a caller's evaluation brought out, as one of the evaluations. -/
theorem evaluationsBy_caller {pending : List Pending} {hs : List (Happening (Actor ι))}
    (hdeeds : t.deeds (.caller i) = ⟨.caller i, .evaluate snapshot, pending⟩ :: hs)
    (hleaves : (answering s pending).Leaves hs (t.running (.caller i)).rest) (f : InForce) :
    ∃ e, t.evaluationsBy f (.caller i) = [e] ∧ e.snapshot = snapshot ∧ e.pending = pending := by
  have hnone : hs.filterMap (·.evaluated?) = [] := List.filterMap_eq_nil_iff.mpr fun x hx =>
    Happening.evaluated?_eq_none ((hleaves.uses (answering_meets s pending)).1 x hx).isSide
  have hmap := CpuAlert.evaluations_by f t.past (.caller i)
  have hevaluated : (t.deeds (.caller i)).filterMap (·.evaluated?) = [(snapshot, pending)] := by
    rw [hdeeds, List.filterMap_cons, hnone]
    rfl
  obtain ⟨e, he, heq⟩ := List.map_eq_singleton_iff.mp (hmap.trans hevaluated)
  exact ⟨e, he, congrArg Prod.fst heq, congrArg Prod.snd heq⟩

/-- The loop evaluates the snapshots that it takes. -/
theorem IsSound.evaluationsBy_loop (h : t.IsSound s operations l taken) (f : InForce) :
    (t.evaluationsBy f .loop).map (·.snapshot) = taken := by
  have hmap := CpuAlert.evaluations_by f t.past (.loop : Actor ι)
  rw [← h.taken_eq, Session.deeds, ← hmap, List.map_map]
  rfl

/-- Every evaluation is by the loop or by somebody who asked for it. -/
theorem IsSound.actor (h : t.IsSound s operations l taken) {f : InForce}
    {e : Evaluation (Actor ι)} (he : e ∈ t.evaluations f) :
    e.actor = .loop ∨ ∃ i, e.actor = .caller i ∧ operations i = .observe e.snapshot := by
  have hby : e ∈ t.evaluationsBy f e.actor := List.mem_filter.mpr ⟨he, by simp⟩
  have hmem := List.mem_map_of_mem (f := fun e => (e.snapshot, e.pending)) hby
  rw [evaluationsBy, evaluations, CpuAlert.evaluations_by] at hmem
  obtain ⟨x, hx, hevaluated⟩ := List.mem_filterMap.mp hmem
  have hcaller : x.caller = e.actor := caller_of_mem_deeds hx
  exact hcaller ▸ h.evaluates (List.mem_filter.mp hx).1 hevaluated

/-- The notifications whose deliveries have begun are those of the loop. -/
theorem IsSound.begun_eq_flatMap (h : t.IsSound s operations l taken) (f : InForce) :
    t.begun = (t.evaluationsBy f .loop).flatMap (·.pending) := by
  have hmap := CpuAlert.evaluations_by f t.past (.loop : Actor ι)
  rw [← h.begun_eq, Session.deeds, ← hmap, List.flatMap_map]
  rfl

/-- Whatever is sent is a test or a notification. -/
theorem IsSound.sent (h : t.IsSound s operations l taken) (f : InForce)
    {x : Happening (Actor ι)} (hx : x ∈ t.past) {place : Nat} {channel : Channel} {o : Notice}
    (hsend : x.effect = .send place channel o) :
    (∃ i, x.caller = .caller i ∧ operations i = .sendTest) ∨
    ∃ e ∈ t.evaluations f, (e.actor = x.caller ∨ e.actor = .loop ∧ ∃ n, x.caller = .delivery n) ∧
      ∃ p ∈ e.pending, (channel, place) ∈ Delivery.enabled s.channels p.config ∧
        o = s.notice p := by
  have hdeeds := mem_deeds hx
  -- a delivery has its own notification, and an answer those of its evaluation
  cases hcaller : x.caller with
  | loop =>
    rw [hcaller] at hdeeds
    exact absurd hsend (h.sends x hdeeds place channel o)
  | delivery n =>
    rw [hcaller] at hdeeds
    obtain ⟨p, hp, hdelivers⟩ := h.delivers hdeeds
    rw [hsend] at hdelivers
    obtain ⟨p', hp', henabled, ho⟩ := hdelivers
    cases List.mem_singleton.mp hp'
    rw [h.begun_eq_flatMap f] at hp
    obtain ⟨e, he, hpe⟩ := List.mem_flatMap.mp hp
    obtain ⟨he, hloop⟩ := List.mem_filter.mp he
    exact .inr ⟨e, he, .inr ⟨by simpa using hloop, n, rfl⟩, p, hpe, henabled, ho⟩
  | caller i =>
    rw [hcaller] at hdeeds
    by_cases htest : operations i = .sendTest
    · exact .inl ⟨i, rfl, htest⟩
    by_cases hobserve : ∃ snapshot, operations i = .observe snapshot
    · obtain ⟨snapshot, hi⟩ := hobserve
      rcases h.answered hi with ⟨hnone, -⟩ | ⟨pending, hs, hall, hleaves⟩
      · rw [hnone] at hdeeds
        cases hdeeds
      · obtain ⟨e, he, -, rfl⟩ := evaluationsBy_caller hall hleaves f
        have hmem : e ∈ t.evaluationsBy f (.caller i) := he ▸ List.mem_singleton.mpr rfl
        obtain ⟨hmem, hactor⟩ := List.mem_filter.mp hmem
        rw [hall] at hdeeds
        rcases List.mem_cons.mp hdeeds with rfl | hlater
        · cases hsend
        · have hdelivers := (hleaves.uses (answering_meets s e.pending)).1 x hlater
          rw [hsend] at hdelivers
          exact .inr ⟨e, hmem, .inl (by simpa using hactor), hdelivers⟩
    · have hplain := h.isPlain (fun snapshot hi => hobserve ⟨snapshot, hi⟩) htest hdeeds
      rw [hsend] at hplain
      exact hplain.elim

/-- Whoever was shown the status was shown it as of some moment. -/
theorem IsSound.shown (h : t.IsSound s operations l taken) {readOnly : Bool} {st : Status}
    (hi : operations i = .status readOnly)
    (hreturned : t.HasReturned (.caller i) (some (.status st))) :
    ∃ past now, past <+: t.past ∧ st = (l.replay past).status.seenAt now readOnly := by
  have hrest : (t.running (.caller i)).rest = .pure (some (.status st)) :=
    congrArg Running.rest hreturned
  have hcalling : calling s (.status readOnly) = .step .look fun live => .step .clock fun now =>
    .pure (some (.status (live.status.seenAt now readOnly))) := rfl
  have hfollows := h.calls i
  rw [hi, hcalling, Session.Follows, hrest] at hfollows
  -- it has looked, read the clock, and then returned
  rcases hfollows.step_cases with ⟨-, hstep⟩ | ⟨a, live, hs, hdeeds, hafter⟩
  · cases hstep
  rcases hafter.step_cases with ⟨-, hstep⟩ | ⟨b, now, hs', -, hafter⟩
  · cases hstep
  cases hafter.eq_of_pure.2
  have hlook : (⟨a, .look, live⟩ : Happening (Actor ι)) ∈ t.past :=
    (List.mem_filter.mp (hdeeds ▸ List.mem_cons_self : _ ∈ t.deeds (.caller i))).1
  obtain ⟨past, later, hpast⟩ := List.append_of_mem hlook
  have hlive : live = l.replay past := Live.Explains.look_eq (hpast ▸ h.isReplay.explains)
  exact ⟨past, now, ⟨_, hpast.symm⟩, hlive ▸ rfl⟩

/-- However a watch goes, the service refines an evaluator of its own. -/
theorem refines_of_play (s : Service) (operations : ι → Operation) {config : Config}
    {record : SealedCredentials} {deadline : Option Instant} {now : Instant} {w : World}
    (hlive : w.live = s.initial config record deadline now) {moves : List (Move ι)} {t : Watch ι}
    (hplay : (start s operations w).play s moves = some t) :
    t.Refines s operations ⟨config, s.reveal record, record, deadline⟩ (Move.taken moves) := by
  have h := (isSound_start s operations w).play hplay
  rw [hlive] at h
  have hshown : (s.initial config record deadline now).IsShown := ⟨rfl, rfl, rfl, rfl⟩
  have hrun := Live.run_evaluations h.isReplay.explains
  have hreplay := h.isReplay.live
  exact {
    triggers := (congrArg Prod.fst hrun).symm
    evaluator := (congrArg Live.evaluator hreplay).trans (congrArg Prod.snd hrun).symm
    inForce := (congrArg Live.inForce hreplay).trans (Live.inForce_replay _ _)
    status := hreplay ▸ Live.shows_replay hshown rfl h.isReplay.explains
    shown := fun i readOnly st hi hreturned => by
      obtain ⟨past, now, ⟨later, hlater⟩, rfl⟩ := h.shown hi hreturned
      refine ⟨past, ⟨later, hlater⟩, Status.Shows.seenAt ?_ now readOnly⟩
      exact Live.shows_replay hshown rfl (Live.explains_append.mp (hlater ▸ h.isReplay.explains)).1
    actor := fun e he => h.actor he
    still := fun m t' x i hstep hpast hcaller hi => h.evaluator_step hstep hpast hcaller hi
    taken := h.evaluationsBy_loop _
    observed := fun i snapshot r hi hreturned => by
      have hrest : (t.running (.caller i)).rest = .pure (some r) := congrArg Running.rest hreturned
      rcases h.answered hi with ⟨-, hcalling⟩ | ⟨pending, hs, hdeeds, hleaves⟩
      · cases hrest.symm.trans (hcalling.trans (calling_observe_eq s snapshot))
      · obtain ⟨e, he, hsnapshot, rfl⟩ := evaluationsBy_caller hdeeds hleaves
          ⟨config, s.reveal record, record, deadline⟩
        have hanswer := (hleaves.uses (answering_meets s e.pending)).2
        rw [hrest] at hanswer
        exact ⟨e, he, hsnapshot, Option.some.inj hanswer⟩
    carries := fun e he => Live.carries_evaluations h.isReplay.explains he
    begun := h.begun_eq_flatMap _
    delivered := fun n p hp => by
      have hfollows := h.deliveries n
      rw [hp] at hfollows
      exact hfollows
    answered := fun i snapshot hi => (h.answered hi).imp_left And.left
    sent := fun x hx place channel o hsend => h.sent _ hx hsend }

/-- Whatever callers do beside the loop, the service that has been started
refines an evaluator of its own; and the loop as it runs alone is one of the ways
in which a watch can go, as long as the lock for cleanups is free at the beginning,
as a start leaves it. It takes what the feed holds of its inputs, up to a
cancellation if there is one. -/
theorem service_refines_evaluator (s : Service) (operations : ι → Operation) (config : Config)
    (record : SealedCredentials) (deadline : Option Instant) (now : Instant) (w : World) :
    let w' : World := { w with live := s.initial config record deadline now }
    (∀ moves t, (start s operations w').play s moves = some t →
      t.Refines s operations ⟨config, s.reveal record, record, deadline⟩ (Move.taken moves)) ∧
    (w.cleaning = false → ∀ capacity is, ∃ moves t, (start s operations w').play s moves = some t ∧
      t.world = (Loop.play s capacity is w').2 ∧
      Move.taken moves = Loop.consumed s capacity is w' ∧
      (t.world.isCancelled = false → Move.taken moves = is.flatMap (·.held capacity))) := by
  intro w'
  refine ⟨fun moves t hplay => refines_of_play s operations rfl hplay,
    fun hclear capacity is => ?_⟩
  obtain ⟨t, ⟨⟨moves, hplay, htaken⟩, -⟩, hworld, -⟩ :=
    Loop.play_ends s operations capacity is (w := w') hclear
  refine ⟨moves, t, hplay, hworld, htaken, fun hcalm => ?_⟩
  rw [htaken, Loop.consumed_eq (hworld ▸ hcalm)]

/-! ## An update that comes too late -/

/-- A channel that delivers at once. -/
def prompt : Channel where
  name := "prompt"
  isEnabled _ := true
  attempt _ _ := {}

/-- A service with that channel. -/
def prompted : Service := .ofOptions { channels := [prompt] }

/-- Short windows. -/
def brisk : Config := { criticalWindow := 5, recoveryWindow := 5 }

/-- Ten seconds after the beginning. -/
def tenSeconds : Instant := (Instant.epoch.shift? 10).getD .epoch

/-- Twenty seconds after the beginning. -/
def twentySeconds : Instant := (Instant.epoch.shift? 20).getD .epoch

/-- Half a minute after the beginning. -/
def halfMinute : Instant := (Instant.epoch.shift? 30).getD .epoch

/-- Two readings at which the processor is busy, and one at which it rests. -/
def busyThenResting : List Snapshot := [⟨.epoch, 90⟩, ⟨tenSeconds, 90⟩, ⟨twentySeconds, 10⟩]

/-- The loop takes three snapshots, and the second caller has a fourth evaluated; an
update takes place; only then the deliveries of what came out go on. -/
def lateUpdate : List (Move (Fin 2)) :=
  busyThenResting.map .take ++ [.choose (.go (.caller 1))] ++
    List.replicate 6 (.choose (.go (.caller 0))) ++
    List.replicate 3 (.choose (.go (.delivery 0))) ++
    List.replicate 3 (.choose (.go (.caller 1)))

/-- The world of that service when it has just been started. -/
def promptedWorld : World :=
  { Delivery.quiet with live := prompted.initial brisk {} none .epoch }

/-- One caller does away with the cooldown, the other one has a snapshot evaluated. -/
def cooldownOff : Fin 2 → Operation :=
  ![.update { cooldown := some 0 }, .observe ⟨halfMinute, 10⟩]

/-- The cooldown has changed, but what is sent still has the one from before, for the
loop as for the caller, who is answered with what came out. The loop alone, with a
feed that holds one snapshot, takes the last of those published at once. -/
theorem service_refines_lateUpdate :
    (∃ t, (start prompted cooldownOff promptedWorld).play prompted lateUpdate = some t ∧
      t.Refines prompted cooldownOff ⟨brisk, prompted.reveal {}, {}, none⟩ busyThenResting ∧
      t.world.live.config.cooldown = 0 ∧ t.world.live.status.lastCriticalAt = some tenSeconds ∧
      t.world.live.status.lastRecoveryAt = some halfMinute ∧
      t.HasReturned (.caller 1) (some (.observe [⟨.recovery, 10⟩])) ∧
      t.world.sent.map (·.notice.config.cooldown) = [1800, 1800]) ∧
    ∃ moves t, (start prompted cooldownOff promptedWorld).play prompted moves = some t ∧
      Move.taken moves = [⟨twentySeconds, 10⟩] := by
  obtain ⟨hrefines, halone⟩ :=
    service_refines_evaluator prompted cooldownOff brisk {} none .epoch Delivery.quiet
  constructor
  · obtain ⟨t, hplay, hcooldown, hcritical, hrecovery, hreturned, hsent⟩ : ∃ t,
        (start prompted cooldownOff promptedWorld).play prompted lateUpdate = some t ∧
        t.world.live.config.cooldown = 0 ∧ t.world.live.status.lastCriticalAt = some tenSeconds ∧
        t.world.live.status.lastRecoveryAt = some halfMinute ∧
        t.HasReturned (.caller 1) (some (.observe [⟨.recovery, 10⟩])) ∧
        t.world.sent.map (·.notice.config.cooldown) = [1800, 1800] :=
      ⟨_, rfl, rfl, rfl, rfl, rfl, rfl⟩
    exact ⟨t, hplay, hrefines lateUpdate t hplay, hcooldown, hcritical, hrecovery, hreturned, hsent⟩
  · obtain ⟨moves, t, hplay, hworld, -, htaken⟩ := halone rfl 1 [.publish busyThenResting]
    have hcalm : t.world.isCancelled = false := by
      rw [hworld]
      decide +kernel
    have hsize : Loop.feedSize 1 = 1 := by decide +kernel
    refine ⟨moves, t, hplay, (htaken hcalm).trans ?_⟩
    simp [Loop.Input.held, hsize, busyThenResting]

end Watch

end CpuAlert
