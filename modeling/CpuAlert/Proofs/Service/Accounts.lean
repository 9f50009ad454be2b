import CpuAlert.Proofs.Service.Conservation
import CpuAlert.Proofs.Service.LoopEnd
import CpuAlert.Proofs.Service.Unheeded
import CpuAlert.Proofs.Store.Keeping

/-!
# Every trigger is recorded once

The accounts of a watch say who has recorded what. Every notification that came
out of the evaluator is handled by somebody, who has it recorded once it has gone
through the channels; every test that was sent is recorded once; nothing else is.
They hold at any time, whatever the channels and the store do, and whether a
record is refused makes no difference to anything but the store.

When the loop returns, all of its deliveries have ended, so by then every trigger
has been recorded.

## Main definitions

* `Watch.Accounts` — who has recorded what

## Main results

* `Watch.accounts_of_play` — the accounts of every watch
* `Watch.trigger_recorded_once` — the same of the service as it is started, with
  records that may be refused, and of the loop alone
-/

namespace CpuAlert

open Time (Instant)

namespace Watch

variable {ι : Type} [DecidableEq ι]

/-- Who has recorded what. -/
structure Accounts (s : Service) (operations : ι → Operation) (f : InForce) (taken : List Snapshot)
    (t : Watch ι) : Prop where
  /-- What the evaluator emits are the notifications, -/
  emitted : t.emitted f = (t.evaluations f).flatMap fun e => e.pending.map (·.cause)
  /-- those of the snapshots that the loop takes -/
  taken : (t.evaluationsBy f .loop).map (·.snapshot) = taken
  /-- are being delivered, each on its own, -/
  begun : t.begun = (t.evaluationsBy f .loop).flatMap (·.pending)
  /-- and a delivery records its notification once, after it went through the
  channels. -/
  delivered : ∀ n p, t.begun[n]? = some p →
    s.Handles [p] (t.deeds (.delivery n)) (t.HasReturned (.delivery n) none)
  /-- Whoever asks for an evaluation does so with what comes out of it. -/
  observed : ∀ i snapshot, operations i = .observe snapshot → t.deeds (.caller i) = [] ∨
    ∃ e hs, t.evaluationsBy f (.caller i) = [e] ∧ e.snapshot = snapshot ∧
      t.deeds (.caller i) = ⟨.caller i, .evaluate snapshot, e.pending⟩ :: hs ∧
      s.Handles e.pending hs (∃ r, t.HasReturned (.caller i) r)
  /-- A test is recorded once it has been sent. -/
  tested : ∀ i, operations i = .sendTest →
    (drafts (t.deeds (.caller i)) = [] ∧ ¬ ∃ r, t.HasReturned (.caller i) r) ∨
    ∃ r, s.Tests (t.deeds (.caller i)) r ∧ t.HasReturned (.caller i) (some (.sendTest r))
  /-- Nobody else records anything. -/
  recorder : ∀ x ∈ t.past, ∀ draft, x.effect = .ask (.append draft) →
    (∃ n < t.begun.length, x.caller = .delivery n) ∨
    ∃ i, x.caller = .caller i ∧
      ((∃ snapshot, operations i = .observe snapshot) ∨ operations i = .sendTest)
  /-- No trigger is recorded more often than it was emitted, -/
  atMostOnce : (t.alerts.map (·.cause)).Subperm (t.emitted f)
  /-- and none less often in the end. -/
  exactlyOnce : t.IsQuiet operations → (t.alerts.map (·.cause)).Perm (t.emitted f)
  /-- The load of an event is a number, so no table refuses it for lack of one. -/
  accepted : ∀ draft ∈ drafts t.past, draft.cpuPercent.isNaN = false ∧
    ∀ (b : Backend) now, (b.perform now (.append draft)).1 ≠
      .error (Database.emptyColumn "alert_events.cpu_percent")

variable {s : Service} {operations : ι → Operation} {l : Live} {taken : List Snapshot}
  {f : InForce} {t : Watch ι}

/-- Whatever is recorded is recorded by somebody. -/
theorem mem_drafts_deeds {x : Happening (Actor ι)} (hx : x ∈ t.past) {draft : Event.Draft}
    (hdraft : x.effect.draft? = some draft) : draft ∈ drafts (t.deeds x.caller) :=
  List.mem_filterMap.mpr ⟨x, mem_deeds hx, hdraft⟩

/-- Whoever records something is delivering, was asked for an evaluation or was
asked for a test. -/
theorem IsSound.recorder (h : t.IsSound s operations l taken)
    (hloop : drafts (t.deeds .loop) = []) {x : Happening (Actor ι)} (hx : x ∈ t.past)
    {draft : Event.Draft} (hdraft : x.effect = .ask (.append draft)) :
    (∃ n < t.begun.length, x.caller = .delivery n) ∨
    ∃ i, x.caller = .caller i ∧
      ((∃ snapshot, operations i = .observe snapshot) ∨ operations i = .sendTest) := by
  have hmem : draft ∈ drafts (t.deeds x.caller) := mem_drafts_deeds hx (by rw [hdraft]; rfl)
  cases hcaller : x.caller with
  | loop =>
    rw [hcaller, hloop] at hmem
    cases hmem
  | delivery n =>
    refine .inl ⟨n, ?_, rfl⟩
    by_contra hn
    rw [hcaller, h.deeds_eq_nil (Nat.le_of_not_lt hn)] at hmem
    cases hmem
  | caller i =>
    refine .inr ⟨i, rfl, ?_⟩
    by_contra hother
    obtain ⟨hobserve, htest⟩ := not_or.mp hother
    rw [hcaller, h.drafts_caller (fun snapshot hi => hobserve ⟨snapshot, hi⟩) htest] at hmem
    cases hmem

/-- The load of an event is that of a trigger, or zero. -/
theorem IsSound.isNaN_eq_false (h : t.IsSound s operations l taken)
    (hloop : drafts (t.deeds .loop) = []) (hfresh : l.evaluator = .fresh) (hf : l.inForce = f)
    {draft : Event.Draft} (hdraft : draft ∈ drafts t.past) : draft.cpuPercent.isNaN = false := by
  obtain ⟨x, hx, hrecords⟩ := List.mem_filterMap.mp hdraft
  rcases h.cause_mem_emitted hloop hfresh hf (mem_drafts_deeds hx hrecords) with
    hemitted | ⟨now, channels, rfl⟩
  · exact (Evaluator.of_mem_emissions hemitted).2
  · show (0 : Float).isNaN = false
    decide

/-- Whoever has not been called has done nothing. -/
theorem IsSound.deeds_of_uncalled (h : t.IsSound s operations l taken) {i : ι}
    {snapshot : Snapshot} (hi : operations i = .observe snapshot)
    (hrunning : t.running (.caller i) = .ready (calling s (operations i))) :
    t.deeds (.caller i) = [] := by
  rcases h.answered hi with ⟨hnone, -⟩ | ⟨pending, hs, -, hleaves⟩
  · exact hnone
  · -- after an evaluation there is none left
    have hrest := (hleaves.uses (answering_meets s pending)).2
    rw [hrunning, hi, calling_observe_eq] at hrest
    exact absurd hrest.1 id

/-- However a watch goes, its accounts are right. -/
theorem accounts_of_play (s : Service) (operations : ι → Operation) {config : Config}
    {record : SealedCredentials} {deadline : Option Instant} {now : Instant} {w : World}
    (hlive : w.live = s.initial config record deadline now) {moves : List (Move ι)} {t : Watch ι}
    (hplay : (start s operations w).play s moves = some t) :
    t.Accounts s operations ⟨config, s.reveal record, record, deadline⟩ (Move.taken moves) := by
  have h := (isSound_start s operations w).play hplay
  have hloop := drafts_loop hplay
  rw [hlive] at h
  exact {
    emitted := h.emitted_eq rfl rfl
    taken := h.evaluationsBy_loop _
    begun := h.begun_eq_flatMap _
    delivered := fun n p hp => h.handles_delivery hp
    observed := fun i snapshot hi => h.handles_caller _ hi
    tested := fun i hi => h.tests_caller hi
    recorder := fun x hx draft hdraft => h.recorder hloop hx hdraft
    atMostOnce := h.alerts_subperm hloop rfl rfl
    exactlyOnce := h.alerts_perm hloop rfl rfl
    accepted := fun draft hdraft =>
      have hnumber := h.isNaN_eq_false hloop rfl rfl hdraft
      ⟨hnumber, Database.append_ne_emptyColumn hnumber⟩ }

/-- Whatever callers do beside the loop, every trigger of the service that has been
started is recorded once. If records are refused, or the history is another one,
the same moves can be made, and everything else is the same. And when the loop as
it runs alone returns, which it does if the lock for cleanups is free at the
beginning, it has taken what the feed held of its inputs, up to a cancellation if
there was one, and nobody has anything to handle any more. -/
theorem trigger_recorded_once (s : Service) (operations : ι → Operation) (config : Config)
    (record : SealedCredentials) (deadline : Option Instant) (now : Instant) (w : World) :
    let w' : World := { w with live := s.initial config record deadline now }
    (∀ moves t, (start s operations w').play s moves = some t →
      t.Accounts s operations ⟨config, s.reveal record, record, deadline⟩ (Move.taken moves) ∧
      ∀ v, w'.IsLike v → ∃ u, (start s operations v).play s moves = some u ∧
        u.world.live = t.world.live ∧ u.begun = t.begun ∧
        (u.past.map fun x => (x.caller, x.effect)) = (t.past.map fun x => (x.caller, x.effect)) ∧
        ∀ a r, t.HasReturned a r → ∃ r', u.HasReturned a r' ∧ SameResult operations a r r') ∧
    (w.cleaning = false → ∀ capacity is, ∃ moves t, (start s operations w').play s moves = some t ∧
      t.world = (Loop.play s capacity is w').2 ∧ t.IsQuiet operations ∧
      Move.taken moves = Loop.consumed s capacity is w' ∧
      (t.world.isCancelled = false → Move.taken moves = is.flatMap (·.held capacity))) := by
  intro w'
  refine ⟨fun moves t hplay => ⟨accounts_of_play s operations rfl hplay, fun v hv => ?_⟩,
    fun hclear capacity is => ?_⟩
  · obtain ⟨u, hu, hlike⟩ := (isLike_start s operations hv).play hplay
    exact ⟨u, hu, hlike.world.live, hlike.begun, hlike.effects, fun a r hr => hlike.hasReturned hr⟩
  · obtain ⟨t, ⟨⟨moves, hplay, htaken⟩, hcallers⟩, hworld, hreturned⟩ :=
      Loop.play_ends s operations capacity is (w := w') hclear
    refine ⟨moves, t, hplay, hworld, fun a => ?_, htaken, fun hcalm => ?_⟩
    rotate_left
    · rw [htaken, Loop.consumed_eq (hworld ▸ hcalm)]
    have h := (isSound_start s operations w').play hplay
    cases a with
    | loop => trivial
    | delivery n => exact hreturned n
    | caller i => exact fun snapshot hi => .inl (h.deeds_of_uncalled hi (hcallers i))

/-! ## A record that is refused -/

/-- The only caller asks for a test. -/
def tested : Fin 1 → Operation := fun _ => .sendTest

/-- The loop takes two snapshots; the delivery of what came out and the test take
turns, and the delivery is the first to record. -/
def crossing : List (Move (Fin 1)) :=
  [.take ⟨.epoch, 90⟩, .take ⟨tenSeconds, 90⟩] ++
    [.delivery 0, .caller (.last 0), .caller (.last 0), .delivery 0, .caller (.last 0),
      .caller (.last 0), .delivery 0, .caller (.last 0)].map fun a => .choose (.go a)

/-- The world in which the first record is refused. -/
def refusing : World :=
  { promptedWorld with
    outage := fun n m => if n = 0 ∧ m = .append then some (.io "disk full") else none }

/-- The event of the test gets another number, but that is all. -/
theorem trigger_recorded_refused :
    ∃ t u, (start prompted tested promptedWorld).play prompted crossing = some t ∧
      (start prompted tested refusing).play prompted crossing = some u ∧
      t.Accounts prompted tested ⟨brisk, prompted.reveal {}, {}, none⟩
        [⟨.epoch, 90⟩, ⟨tenSeconds, 90⟩] ∧
      (drafts t.past).map (·.cause) = [(⟨.critical, 90⟩, tenSeconds), (⟨.test, 0⟩, .epoch)] ∧
      u.world.live = t.world.live ∧ drafts u.past = drafts t.past ∧
      (∃ event, t.HasReturned (.caller 0) (some (.sendTest (.ok event))) ∧ event.id = 2) ∧
      ∃ event, u.HasReturned (.caller 0) (some (.sendTest (.ok event))) ∧ event.id = 1 := by
  obtain ⟨t, hplay, hdrafts, hnumber⟩ : ∃ t,
      (start prompted tested promptedWorld).play prompted crossing = some t ∧
      (drafts t.past).map (·.cause) = [(⟨.critical, 90⟩, tenSeconds), (⟨.test, 0⟩, .epoch)] ∧
      ∃ event, t.HasReturned (.caller 0) (some (.sendTest (.ok event))) ∧ event.id = 2 :=
    ⟨_, rfl, rfl, _, rfl, rfl⟩
  have hlike : promptedWorld.IsLike refusing :=
    ⟨_, refusing.outage, rfl, rfl, fun n m hm => if_neg fun h => hm h.2⟩
  obtain ⟨haccounts, hothers⟩ := (trigger_recorded_once prompted tested brisk {}
    none .epoch Delivery.quiet).1 crossing t hplay
  obtain ⟨u, hu, hlive, -, heffects, -⟩ := hothers refusing hlike
  have hsame : drafts u.past = drafts t.past := by
    have hmap := congrArg (List.filterMap fun x : Actor (Fin 1) × Effect => x.2.draft?) heffects
    rwa [List.filterMap_map, List.filterMap_map] at hmap
  refine ⟨t, u, hplay, hu, haccounts, hdrafts, hlive, hsame, hnumber, ?_⟩
  obtain ⟨v, hv, hnumber'⟩ : ∃ v,
      (start prompted tested refusing).play prompted crossing = some v ∧
      ∃ event, v.HasReturned (.caller 0) (some (.sendTest (.ok event))) ∧ event.id = 1 :=
    ⟨_, rfl, _, rfl, rfl⟩
  exact Option.some.inj (hv.symm.trans hu) ▸ hnumber'

end Watch

end CpuAlert
